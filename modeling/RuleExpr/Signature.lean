import RuleExpr.Error

/-!
# Signatures

A signature names a function or a template and declares its parameters and its result. Its text is
`Name(K1, K2, K3...)Kind`, where dots after the last parameter make it repeat and a missing result means `Any`.

- `admits` says which argument counts fit, `parameterKind` which kind the argument at an index has to have;
- `same` is the identity of an entry of a registry: name, parameters, repetition and result;
- `render` writes a signature and `parse` reads it.
-/

namespace RuleExpr

open RuleExpr.Text

/-- A name with the kinds of its parameters and result; a variadic signature repeats its last parameter. -/
structure Signature where
  name : String
  parameters : List Kind := []
  variadic : Bool := false
  returns : Kind := Kind.any
  description : String := ""
  sample : String := ""
  deriving DecidableEq

namespace Signature

/-- The name as it is looked up, without regard to case. -/
def key (s : Signature) : String := foldCase s.name

/-- Whether a call with `count` arguments fits. -/
def admits (s : Signature) (count : Nat) : Bool :=
  if s.variadic then count + 1 ≥ s.parameters.length else count == s.parameters.length

/-- The kind of the argument at `index`; beyond the parameters it is that of the last. -/
def parameterKind (s : Signature) (index : Nat) : Kind :=
  match s.parameters.getLast? with
  | some last => s.parameters[index]?.getD last
  | none => Kind.empty

/-- Whether the argument at `index` is passed unevaluated. -/
def quotes (s : Signature) (index : Nat) : Bool := (s.parameterKind index).quotes

/-- Whether the two are the same entry of a registry, whatever their documentation. -/
def same (s t : Signature) : Bool :=
  s.key == t.key && s.parameters == t.parameters && s.variadic == t.variadic && s.returns == t.returns

/-! ## Text -/

/-- The text of a signature. -/
def render (s : Signature) : String :=
  s.name ++ "(" ++ ", ".intercalate (s.parameters.map Kind.name) ++ (if s.variadic then "..." else "") ++ ")"
    ++ s.returns.name

instance : ToString Signature := ⟨render⟩

/-- The text before and after the last character that is `c`. -/
def cutAtLast (c : Char) (cs : List Char) : Option (List Char × List Char) :=
  match cutAt (· == c) cs.reverse with
  | (_, none) => none
  | (after, some before) => some (before.reverse, after.reverse)

/-- The text without the given ending, if it has it. -/
def withoutSuffix? (suffix cs : List Char) : Option (List Char) :=
  if suffix.isSuffixOf cs then some (cs.take (cs.length - suffix.length)) else none

/-- The kind written in a parameter position. -/
def readKind (text : List Char) : Except SignatureFault Kind :=
  match Kind.parse (String.ofList text) with
  | .ok k => .ok k
  | .error _ => .error (.unknownKind (String.ofList text))

/-- Reads the parameters; only the last may have dots. -/
def readParameters : List (List Char) → Except SignatureFault (List Kind × Bool)
  | [] => .ok ([], false)
  | [part] =>
    match withoutSuffix? "...".toList part with
    | some kind => (readKind kind).map fun k => ([k], true)
    | none => (readKind part).map fun k => ([k], false)
  | part :: parts =>
    if (withoutSuffix? "...".toList part).isSome then .error .innerVariadic
    else do
      let k ← readKind part
      let (ks, variadic) ← readParameters parts
      .ok (k :: ks, variadic)

/-- The result written after the parameters; `Any` if nothing is. -/
def readReturns (text : List Char) : Except SignatureFault Kind :=
  if text.isEmpty then .ok Kind.any
  else
    match Kind.parse (String.ofList text) with
    | .ok k => .ok k
    | .error _ => .error (.unknownReturn (String.ofList text))

/-- Reads a signature from its characters. -/
def ofChars (cs : List Char) : Except SignatureFault Signature := do
  match cutAt (· == '(') cs with
  | (_, none) => .error .missingOpen
  | (before, some rest) =>
    match cutAtLast ')' rest with
    | none => .error (if before.contains ')' then .closeBeforeOpen else .missingClose)
    | some (inner, after) =>
      let name := trim before
      if name.isEmpty || name.any isBlank then .error .badName
      else
        let inner := trim inner
        let (parameters, variadic) ←
          if inner.isEmpty then .ok ([], false) else readParameters ((splitOn [','] inner).map trim)
        let returns ← readReturns (trim after)
        .ok { name := String.ofList name, parameters, variadic, returns }

/-- Reads a signature. -/
def parse (text : String) : Except Error Signature :=
  match ofChars text.toList with
  | .ok s => .ok s
  | .error fault => .error (.invalidSignature text fault)

end Signature

end RuleExpr
