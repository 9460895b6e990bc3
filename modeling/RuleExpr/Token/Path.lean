import RuleExpr.Token.Basic

/-!
# Paths into tokens

A path is a list of map keys and list indices. `readAt` follows it, `assign` puts a value at its end, making a map of
each null on the way and giving a missing key a slot before it goes on. `setAt` is the token that this leads to.
-/

namespace RuleExpr.Token

open RuleExpr.Text

/-- Indices are below this bound, `2 ^ 64`. -/
def indexBound : Nat := 18446744073709551616

/-- The index that a path segment writes: ASCII digits with an optional plus in front. -/
def index? (segment : String) : Option Nat :=
  let ds := match segment.toList with
    | '+' :: rest => rest
    | cs => cs
  (readDigits? ds).bind fun n => if n < indexBound then some n else none

/-- The names of a path with points between them. -/
def joinPath (path : List String) : String := ".".intercalate path

/-- One step of a path: the value of a key, or the element at an index. -/
def child? : Token → String → Option Token
  | map entries, segment => Entries.get? entries segment
  | list items, segment => (index? segment).bind fun i => items[i]?
  | _, _ => none

/-- The value of a key, null where there is none. -/
def getKey (t : Token) (key : String) : Token :=
  match t with
  | map entries => (Entries.get? entries key).getD null
  | _ => null

/-- Gives a key of a map a value. -/
def setKey (t : Token) (key : String) (value : Token) : Except Error Token :=
  match t with
  | map entries => .ok (map (Entries.insert entries key value))
  | other => .error (.kindMismatch "map_set" Kind.map other.kind)

/-- Follows a path from a token that `walked` led to. -/
def readFrom (walked : List String) : List String → Token → Except Error Token
  | [], t => .ok t
  | segment :: path, t =>
    match child? t segment with
    | some c => readFrom (walked ++ [segment]) path c
    | none => .error (.unboundName (joinPath (walked ++ [segment])))

/-- The token at the end of a path. -/
def readAt (t : Token) (path : List String) : Except Error Token := readFrom [] path t

/-- The token with `value` at the end of a path. -/
def setAt : List String → Token → Token → Except Error Token
  | [], value, _ => .ok value
  | segment :: path, value, null => (setAt path value null).map fun c => map [(segment, c)]
  | segment :: path, value, map entries =>
    (setAt path value ((Entries.get? entries segment).getD null)).map fun c => map (Entries.insert entries segment c)
  | segment :: path, value, list items =>
    match (index? segment).bind fun i => items[i]?.map (i, ·) with
    | some (i, c) => (setAt path value c).map fun c' => list (items.set i c')
    | none => .error (.unboundName segment)
  | segment :: _, _, t => .error (.kindMismatch segment Kind.collection t.kind)

/-- Puts a value at the end of a path, step by step. A null becomes a map and a missing key gets a slot before the next
step is tried; what has been changed by then stays so if a later step fails. -/
def assign : List String → Token → Token → Except Error Unit × Token
  | [], value, _ => (.ok (), value)
  | segment :: path, value, t =>
    match if t.isNull then map [] else t with
    | map entries =>
      let entries := Entries.ensure entries segment null
      match assign path value ((Entries.get? entries segment).getD null) with
      | (r, slot) => (r, map (Entries.replace entries segment slot))
    | list items =>
      match (index? segment).bind fun i => items[i]?.map (i, ·) with
      | some (i, slot) =>
        match assign path value slot with
        | (r, slot) => (r, list (items.set i slot))
      | none => (.error (.unboundName segment), list items)
    | t => (.error (.kindMismatch segment Kind.collection t.kind), t)

end RuleExpr.Token
