import RuleExpr.Pattern.Escape

/-!
# Classes in brackets

A class in brackets is the union of its items: characters, ranges, escapes, classes of ASCII by name, and classes in
brackets of their own. Two classes side by side with `&&`, `--` or `~~` between them are intersected, subtracted, or
combined to what only one of them has.

- `Pattern.bracketed?` reads a class behind its opening bracket, and says how deep it nests.
-/

namespace RuleExpr

open RuleExpr.Text

namespace Pattern

/-- The items of a class so far: their union, their number and their nesting. -/
structure Items where
  set : RangeSet := .empty
  count : Nat := 0
  nesting : Nat := 0

/-- The items with one more. -/
def Items.add (items : Items) (set : RangeSet) (nesting : Nat := 0) : Items :=
  ⟨items.set.union set, items.count + 1, max items.nesting nesting⟩

/-- The nesting of the items as one set. -/
def Items.depth (items : Items) : Nat := if items.count ≤ 1 then items.nesting else items.nesting + 1

/-- The operations on classes. -/
inductive SetOp where
  | inter
  | diff
  | symmDiff

/-- The set that an operation makes of two. -/
def SetOp.apply : SetOp → RangeSet → RangeSet → RangeSet
  | inter, a, b => a.inter b
  | diff, a, b => a.diff b
  | symmDiff, a, b => a.symmDiff b

/-- What is open while a class is read: a bracket with the items before it, or an operation with its left side. -/
inductive Open where
  | bracket (before : Items) (negated : Bool)
  | operation (op : SetOp) (left : RangeSet) (nesting : Nat)

/-- Completes the operation that is open, if there is one, with its right side. -/
def closeOperation (flags : Flags) (right : RangeSet) (nesting : Nat) : List Open → RangeSet × Nat × List Open
  | .operation op left n :: stack =>
    (op.apply (foldSet flags left) (foldSet flags right), max n nesting + 1, stack)
  | stack => (right, nesting, stack)

/-- Reads hyphens that stand for themselves; `comment` says whether the text begins within a comment. -/
def hyphensFrom (flags : Flags) (comment : Bool) (items : Items) : List Char → Items × List Char
  | [] => (items, [])
  | c :: cs =>
    if comment then hyphensFrom flags (c != '\n') items cs
    else if c == '-' then hyphensFrom flags false (items.add (.single '-')) cs
    else if flags.verbose && c == '#' then hyphensFrom flags true items cs
    else if flags.verbose && isBlank c then hyphensFrom flags false items cs
    else (items, c :: cs)

/-- Reads the beginning of a bracket: a caret, hyphens, and a closing bracket that stands for itself. -/
def openBracket? (flags : Flags) (cs : List Char) : Option (Bool × Items × List Char) :=
  let (negated, cs) := match skip flags cs with
    | '^' :: rest => (true, rest)
    | cs => (false, cs)
  let (items, cs) := hyphensFrom flags false {} cs
  match items.count, cs with
  | _, [] => none
  | 0, ']' :: rest => if (skip flags rest).isEmpty then none else some (negated, items.add (.single ']'), rest)
  | _, rest => some (negated, items, rest)

/-- Reads `[:name:]`, if it is there. -/
def asciiClass? : List Char → Option (Bool × RangeSet × List Char)
  | '[' :: ':' :: cs =>
    let (negated, cs) := match cs with
      | '^' :: rest => (true, rest)
      | _ => (false, cs)
    match cutAt (· == ':') cs with
    | (name, some (']' :: rest)) => (CharSet.asciiClass? (String.ofList name)).map fun s => (negated, s, rest)
    | _ => none
  | _ => none

/-- Reads one character or escape of a class; without Unicode, characters beyond ASCII are refused. -/
def classItem? (flags : Flags) (cs : List Char) : Option (Primitive × List Char) := do
  let (item, rest) ← match cs with
    | [] => none
    | '\\' :: cs => escape? flags cs
    | c :: cs => some (.literal c, cs)
  match item with
  | .literal c => if flags.unicode || c.toNat < 128 then some (item, rest) else none
  | _ => some (item, rest)

/-- Whether a hyphen with a text behind it ends a range where it stands. In a verbose pattern this looks beyond blanks
and the sign of one comment, but not beyond the comment. -/
def isLoneHyphen (flags : Flags) (rest : List Char) : Bool :=
  let beyond := if !flags.verbose then rest
    else match rest.dropWhile isBlank with
      | '#' :: comment => comment.dropWhile isBlank
      | rest => rest
  beyond.head? == some ']' || beyond.head? == some '-'

/-- Reads a range, or a character or escape that is not the beginning of one. -/
def classRange? (flags : Flags) (cs : List Char) : Option (RangeSet × List Char) := do
  let (first, cs) ← classItem? flags cs
  let single : Option RangeSet := match first with
    | .literal c => some (.single c)
    | .class s => some s
    | .place _ => none
  match skip flags cs with
  | [] => none
  | '-' :: rest =>
    if isLoneHyphen flags rest then single.map (·, '-' :: rest)
    else
      let (last, rest) ← classItem? flags (skip flags rest)
      match first, last with
      | .literal low, .literal high =>
        if low.toNat ≤ high.toNat then some (.range low.toNat high.toNat, rest) else none
      | _, _ => none
  | cs => single.map (·, cs)

/-- Reads the rest of a class in brackets, at most `fuel` items of it. -/
def classFrom? (flags : Flags) : Nat → Items → List Open → List Char → Option (RangeSet × Nat × List Char)
  | 0, _, _, _ => none
  | fuel + 1, items, stack, cs =>
    match skip flags cs with
    | [] => none
    | '[' :: rest =>
      match asciiClass? ('[' :: rest) with
      | some (negated, s, rest) =>
        (finishSet? flags negated s).bind fun s => classFrom? flags fuel (items.add s) stack rest
      | none => do
        let (negated, inner, rest) ← openBracket? flags rest
        classFrom? flags fuel inner (.bracket items negated :: stack) rest
    | ']' :: rest =>
      match closeOperation flags items.set items.depth stack with
      | (s, nesting, .bracket before negated :: stack) => do
        let set ← finishSet? flags negated s
        if stack.isEmpty then some (set, nesting + 1, rest)
        else classFrom? flags fuel (before.add set (nesting + 1)) stack rest
      | _ => none
    | '&' :: '&' :: rest => operation fuel .inter items stack rest
    | '-' :: '-' :: rest => operation fuel .diff items stack rest
    | '~' :: '~' :: rest => operation fuel .symmDiff items stack rest
    | cs => do
      let (s, rest) ← classRange? flags cs
      classFrom? flags fuel (items.add s) stack rest
where
  /-- Goes on after an operator. -/
  operation (fuel : Nat) (op : SetOp) (items : Items) (stack : List Open) (rest : List Char) :
      Option (RangeSet × Nat × List Char) :=
    match closeOperation flags items.set items.depth stack with
    | (s, nesting, stack) => classFrom? flags fuel {} (.operation op s nesting :: stack) rest

/-- Reads a class behind its opening bracket. -/
def bracketed? (flags : Flags) (cs : List Char) : Option (RangeSet × Nat × List Char) := do
  let (negated, items, rest) ← openBracket? flags cs
  classFrom? flags (cs.length + 1) items [.bracket {} negated] rest

end Pattern

end RuleExpr
