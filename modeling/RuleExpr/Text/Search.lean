/-!
# Looking for one text inside another

Prefixes, substrings, splitting at a separator and joining, over lists of characters. `splitOn` and `joinWith` undo
each other: the parts never hold the separator, and joining them gives the text back.
-/

namespace RuleExpr.Text

/-- Whether `needle` occurs somewhere in the text. -/
def occursIn (needle : List Char) : List Char → Bool
  | [] => needle.isEmpty
  | c :: cs => needle.isPrefixOf (c :: cs) || occursIn needle cs

/-- Splits at each occurrence of `sep`, from the left, where `skip` characters of a separator are to be passed over. -/
def splitFrom (sep : List Char) (part : List Char) : Nat → List Char → List (List Char)
  | _, [] => [part.reverse]
  | skip + 1, _ :: cs => splitFrom sep part skip cs
  | 0, c :: cs =>
    if sep.isPrefixOf (c :: cs) then part.reverse :: splitFrom sep [] (sep.length - 1) cs
    else splitFrom sep (c :: part) 0 cs

/-- The parts of the text between occurrences of a separator, which must not be empty. -/
def splitOn (sep : List Char) (cs : List Char) : List (List Char) := splitFrom sep [] 0 cs

/-- The parts with the separator between each two of them. -/
def joinWith (sep : List Char) : List (List Char) → List Char
  | [] => []
  | [p] => p
  | p :: q :: ps => p ++ sep ++ joinWith sep (q :: ps)

/-- The text before the first character that `p` accepts, and the text after that character if there is one. -/
def cutAt (p : Char → Bool) (cs : List Char) : List Char × Option (List Char) :=
  match cs.dropWhile (fun c => !p c) with
  | [] => (cs, none)
  | _ :: rest => (cs.takeWhile (fun c => !p c), some rest)

/-- Whether the text starts with a minus sign, and the text without its sign if it has one. -/
def readSigned (cs : List Char) : Bool × List Char :=
  match cs with
  | '-' :: rest => (true, rest)
  | '+' :: rest => (false, rest)
  | rest => (false, rest)

/-- The value of a run of ASCII digits, zero for the empty run. -/
def digitsValue (cs : List Char) : Nat := cs.foldl (fun n c => n * 10 + (c.toNat - '0'.toNat)) 0

/-- The number written by a non-empty run of ASCII digits. -/
def readDigits? (cs : List Char) : Option Nat :=
  if cs.isEmpty || !cs.all Char.isDigit then none else some (digitsValue cs)

end RuleExpr.Text
