import RuleExpr.Pattern.Automaton
import RuleExpr.Pattern.Bracket

/-!
# Reading patterns

The written form of patterns: characters, escapes and classes, groups with names and flags, choices, repetitions and
assertions. There are no references back to a group and no look around a place.

- `Pattern.parse?` reads a pattern; it gives none for a text that is not one, that nests more than `maxNesting` levels
  deep, or that would need too large an automaton.
-/

namespace RuleExpr

open RuleExpr.Text

namespace Pattern

/-- A part of a sequence: its pattern, its nesting, and whether it can be repeated. -/
structure Piece where
  pattern : Pattern
  nesting : Nat
  repeatable : Bool := true

/-! ## Groups -/

/-- The characters of the name of a group; the first of them is a letter or an underscore. -/
def isNameChar (first : Bool) (c : Char) : Bool :=
  c == '_' || (if first then CharSet.alphabetic.contains c.toNat
    else c == '.' || c == '[' || c == ']' || CharSet.alphanumeric.contains c.toNat)

/-- Reads the name of a group up to its closing bracket. -/
def groupName? (cs : List Char) : Option (String × List Char) :=
  match cutAt (· == '>') cs with
  | (name, some rest) =>
    match name with
    | [] => none
    | c :: more => if isNameChar true c && more.all (isNameChar false) then some (String.ofList name, rest) else none
  | _ => none

/-- The flags with the one of a letter set to a value. -/
def setFlag? (value : Bool) (flags : Flags) : Char → Option Flags
  | 'i' => some { flags with caseless := value }
  | 'm' => some { flags with multiline := value }
  | 's' => some { flags with dotAll := value }
  | 'R' => some { flags with crlf := value }
  | 'u' => some { flags with unicode := value }
  | 'x' => some { flags with verbose := value }
  | 'U' => some { flags with reluctant := value }
  | _ => none

/-- Reads flags up to a colon or a closing parenthesis; `seen` are the letters and hyphens so far. -/
def flagsFrom? (seen : List Char) (flags : Flags) : List Char → Option (Flags × List Char × List Char)
  | [] => none
  | c :: cs =>
    if c == ':' || c == ')' then (if seen.head? == some '-' then none else some (flags, seen, c :: cs))
    else if seen.contains c then none
    else if c == '-' then flagsFrom? (c :: seen) flags cs
    else
      match setFlag? (!seen.contains '-') flags c with
      | some flags => flagsFrom? (c :: seen) flags cs
      | none => none

/-- What a parenthesis begins: a group, a part of the pattern that is no group, or flags for what follows. -/
inductive Opening where
  | group (name : Option String) (flags : Flags)
  | part (flags : Flags)
  | flags (flags : Flags)

/-- Reads what follows an opening parenthesis. -/
def opening? (flags : Flags) (cs : List Char) : Option (Opening × List Char) :=
  match skip flags cs with
  | '?' :: 'P' :: '<' :: rest => (groupName? rest).map fun (name, rest) => (.group (some name) flags, rest)
  | '?' :: '<' :: rest =>
    if rest.head? == some '=' || rest.head? == some '!' then none
    else (groupName? rest).map fun (name, rest) => (.group (some name) flags, rest)
  | '?' :: rest =>
    match flagsFrom? [] flags rest with
    | some (flags, _, ':' :: rest) => some (.part flags, rest)
    | some (flags, seen, ')' :: rest) => if seen.isEmpty then none else some (.flags flags, rest)
    | _ => none
  | rest => some (.group none flags, rest)

/-! ## Sequences and choices -/

/-- An open parenthesis: the pieces of its sequence and the choices before it, both backwards, the flags around it, and
whether it is a group. -/
structure Level where
  pieces : List Piece := []
  choices : List Piece := []
  flags : Flags := {}
  captures : Bool := false

/-- The pieces as one. -/
def joinPieces (pieces : List Piece) : Piece :=
  match pieces with
  | [] => ⟨.empty, 0, true⟩
  | [p] => p
  | ps => ⟨ofSequence (ps.map Piece.pattern), (ps.map Piece.nesting).foldl max 0 + 1, true⟩

/-- The choices and the last sequence of a level as one piece. -/
def closeLevel (level : Level) : Piece :=
  let last := joinPieces level.pieces.reverse
  if level.choices.isEmpty then last
  else
    let ps := (last :: level.choices).reverse
    ⟨ofChoice (ps.map Piece.pattern), (ps.map Piece.nesting).foldl max 0 + 1, true⟩

/-- Skips white space. -/
def skipBlanks (cs : List Char) : List Char := cs.dropWhile isBlank

/-- Counts of repetitions are below this bound, `2 ^ 32`. -/
def countBound : Nat := 4294967296

/-- Reads digits; `comment` says whether the text begins within a comment. -/
def digitsFrom (flags : Flags) (comment : Bool) : List Char → List Char × List Char
  | [] => ([], [])
  | c :: cs =>
    if comment then digitsFrom flags (c != '\n') cs
    else if c.isDigit then
      let (digits, rest) := digitsFrom flags false cs
      (c :: digits, rest)
    else if flags.verbose && c == '#' then digitsFrom flags true cs
    else if flags.verbose && isBlank c then digitsFrom flags false cs
    else ([], c :: cs)

/-- Reads a count of a repetition, with white space around it. -/
def count? (flags : Flags) (cs : List Char) : Option (Nat × List Char) :=
  let (digits, rest) := digitsFrom flags false (skipBlanks (skip flags cs))
  if digits.isEmpty || digitsValue digits ≥ countBound then none else some (digitsValue digits, skipBlanks rest)

/-- Reads the bounds of a repetition behind its opening brace. -/
def bounds? (flags : Flags) (cs : List Char) : Option (Nat × Option Nat × List Char) := do
  let (least, cs) ← count? flags cs
  match cs with
  | ',' :: rest =>
    match skip flags rest with
    | '\x7d' :: rest => some (least, none, rest)
    | rest => do
      let (most, rest) ← count? flags rest
      match rest with
      | '\x7d' :: rest => if least ≤ most then some (least, some most, rest) else none
      | _ => none
  | '\x7d' :: rest => some (least, some least, rest)
  | _ => none

/-- Reads the mark of a reluctant repetition, if it is there. -/
def reluctance : List Char → Bool × List Char
  | '?' :: rest => (true, rest)
  | rest => (false, rest)

/-- Repeats the last piece of a sequence, if it can be repeated. -/
def repeatLast? (least : Nat) (most : Option Nat) (reluctant : Bool) : List Piece → Option (List Piece)
  | p :: ps =>
    if p.repeatable then some (⟨p.pattern.times least most reluctant, p.nesting + 1, true⟩ :: ps) else none
  | [] => none

/-- Any character, or any but the ends of lines. -/
def dot? (flags : Flags) : Option RangeSet :=
  if !flags.unicode then none
  else if flags.dotAll then some (.range 0 0x10FFFF)
  else if flags.crlf then some (RangeSet.ofList [(0x0A, 0x0A), (0x0D, 0x0D)]).complement
  else some (RangeSet.single '\n').complement

/-- The place that a caret or a dollar sign stands for. -/
def anchor (flags : Flags) (start : Bool) : Look :=
  match flags.multiline, flags.crlf, start with
  | false, _, true => .textStart
  | false, _, false => .textEnd
  | true, false, true => .lineStart
  | true, false, false => .lineEnd
  | true, true, true => .lineStartCrlf
  | true, true, false => .lineEndCrlf

/-- The pattern for a character that stands for itself; without Unicode only the letters of ASCII have two cases. -/
def ofChar (flags : Flags) (c : Char) : Pattern :=
  if flags.unicode || c.toNat < 128 then ofSet (foldSet flags (.single c)) else literal [c]

/-- The pattern for a primitive. -/
def ofPrimitive (flags : Flags) : Primitive → Pattern
  | .literal c => ofChar flags c
  | .place place => look place
  | .class s => ofSet s

/-- Reads the pieces of a pattern, at most `fuel` of them; `names` are the names of the groups so far. -/
def piecesFrom? : Nat → List String → Flags → Level → List Level → List Char → Option Piece
  | 0, _, _, _, _, _ => none
  | fuel + 1, names, flags, level, outer, cs =>
    let add (p : Pattern) (nesting : Nat) (rest : List Char) : Option Piece :=
      piecesFrom? fuel names flags { level with pieces := ⟨p, nesting, true⟩ :: level.pieces } outer rest
    let again (least : Nat) (most : Option Nat) (rest : List Char) : Option Piece :=
      let (reluctant, rest) := reluctance rest
      (repeatLast? least most (reluctant != flags.reluctant) level.pieces).bind fun pieces =>
        piecesFrom? fuel names flags { level with pieces } outer rest
    match skip flags cs with
    | [] => if outer.isEmpty then some (closeLevel level) else none
    | '(' :: rest =>
      match opening? flags rest with
      | some (.group name inner, rest) =>
        if name.any names.contains then none
        else piecesFrom? fuel (name.toList ++ names) inner { flags, captures := true } (level :: outer) rest
      | some (.part inner, rest) => piecesFrom? fuel names inner { flags } (level :: outer) rest
      | some (.flags flags, rest) =>
        piecesFrom? fuel names flags { level with pieces := ⟨.empty, 0, false⟩ :: level.pieces } outer rest
      | none => none
    | ')' :: rest =>
      match outer with
      | [] => none
      | around :: outer =>
        let p := closeLevel level
        let pattern := if level.captures then group p.pattern else p.pattern
        piecesFrom? fuel names level.flags
          { around with pieces := ⟨pattern, p.nesting + 1, true⟩ :: around.pieces } outer rest
    | '|' :: rest =>
      piecesFrom? fuel names flags
        { level with pieces := [], choices := joinPieces level.pieces.reverse :: level.choices } outer rest
    | '[' :: rest => (bracketed? flags rest).bind fun (s, nesting, rest) => add (ofSet s) nesting rest
    | '?' :: rest => again 0 (some 1) rest
    | '*' :: rest => again 0 none rest
    | '+' :: rest => again 1 none rest
    | '\x7b' :: rest => (bounds? flags rest).bind fun (least, most, rest) => again least most (skip flags rest)
    | '\\' :: rest => (escape? flags rest).bind fun (primitive, rest) => add (ofPrimitive flags primitive) 0 rest
    | '.' :: rest => (dot? flags).bind fun s => add (ofSet s) 0 rest
    | '^' :: rest => add (look (anchor flags true)) 0 rest
    | '$' :: rest => add (look (anchor flags false)) 0 rest
    | c :: rest => add (ofChar flags c) 0 rest

/-- The pattern that a text writes. -/
def parse? (text : String) : Option Pattern :=
  let cs := text.toList
  match piecesFrom? (cs.length + 1) [] {} {} [] cs with
  | some p => if p.nesting ≤ maxNesting && p.pattern.fits then some p.pattern else none
  | none => none

end Pattern

end RuleExpr
