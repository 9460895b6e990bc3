import RuleExpr.Pattern.Basic
import RuleExpr.Pattern.Classes

/-!
# Escapes in patterns

The flags that change how a pattern is read, white space and comments in verbose patterns, and what stands behind a
backslash: a character, a class of characters, or a place in the text. Without Unicode, a class has ASCII characters
only, and nothing may be negated.

- `Pattern.escape?` reads what follows a backslash.
-/

namespace RuleExpr

open RuleExpr.Text

namespace Pattern

/-- The flags that hold at a place of a pattern. -/
structure Flags where
  caseless : Bool := false
  multiline : Bool := false
  dotAll : Bool := false
  crlf : Bool := false
  unicode : Bool := true
  verbose : Bool := false
  reluctant : Bool := false

/-! ## White space and comments -/

/-- Skips white space and comments; `comment` says whether the text begins within a comment. -/
def skipComments (comment : Bool) : List Char → List Char
  | [] => []
  | c :: cs =>
    if comment then skipComments (c != '\n') cs
    else if c == '#' then skipComments true cs
    else if isBlank c then skipComments false cs
    else c :: cs

/-- Skips what does not count at a place. -/
def skip (flags : Flags) (cs : List Char) : List Char := if flags.verbose then skipComments false cs else cs

/-- Reads what counts up to a closing brace; `comment` says whether the text begins within a comment. -/
def bracedFrom? (flags : Flags) (comment : Bool) : List Char → Option (List Char × List Char)
  | [] => none
  | c :: cs =>
    if comment then bracedFrom? flags (c != '\n') cs
    else if flags.verbose && c == '#' then bracedFrom? flags true cs
    else if flags.verbose && isBlank c then bracedFrom? flags false cs
    else if c == '\x7d' then some ([], cs)
    else (bracedFrom? flags false cs).map fun (text, rest) => (c :: text, rest)

/-- Reads what counts between an opening brace and the closing one. -/
def braced? (flags : Flags) (cs : List Char) : Option (List Char × List Char) := bracedFrom? flags false cs

/-! ## Escapes -/

/-- What an escape or a single character stands for. -/
inductive Primitive where
  | literal (c : Char)
  | place (look : Look)
  | class (set : RangeSet)

/-- The characters that have a meaning of their own somewhere in a pattern. -/
def isMeta (c : Char) : Bool := "\\.+*?()|[]\x7b\x7d^$#&-~".toList.contains c

/-- ASCII characters other than letters, digits and angle brackets stand for themselves behind a backslash. -/
def isEscapable (c : Char) : Bool := c.toNat < 128 && !c.isAlphanum && c != '<' && c != '>'

/-- The letters that stand for a control character behind a backslash. -/
def controlOf? : Char → Option Char
  | 'a' => some (Char.ofNat 0x07)
  | 'f' => some (Char.ofNat 0x0C)
  | 't' => some '\t'
  | 'n' => some '\n'
  | 'r' => some '\r'
  | 'v' => some (Char.ofNat 0x0B)
  | _ => none

/-- The character with a code point, if there is one. -/
def charOf? (n : Nat) : Option Char := if n.isValidChar then some (Char.ofNat n) else none

/-- Reads a given number of hexadecimal digits. -/
def hexDigits? (flags : Flags) : Nat → Nat → List Char → Option (Nat × List Char)
  | 0, n, cs => some (n, cs)
  | _ + 1, _, [] => none
  | count + 1, n, c :: cs =>
    if c.isHexDigit then hexDigits? flags count (n * 16 + hexDigitValue c) (if count = 0 then cs else skip flags cs)
    else none

/-- Reads the code point behind `\x`, `\u` or `\U`, where `digits` is the number of digits without braces. -/
def codePoint? (flags : Flags) (digits : Nat) (cs : List Char) : Option (Char × List Char) :=
  match skip flags cs with
  | '\x7b' :: cs => do
    let (text, cs) ← braced? flags cs
    if text.isEmpty || !text.all Char.isHexDigit then none
    else
      let c ← charOf? (hexValue text)
      some (c, cs)
  | cs => do
    let (n, cs) ← hexDigits? flags digits 0 cs
    let c ← charOf? n
    if !flags.unicode && digits = 2 && n ≥ 128 then none else some (c, cs)

/-- The set that a name in braces stands for: a name, or a key and a value; `!=` between them negates. -/
def bracedClass? (text : List Char) : Option (Bool × RangeSet) :=
  match splitOn ['!', '='] text with
  | key :: value :: values =>
    (CharSet.valued? (String.ofList key) (String.ofList (joinWith ['!', '='] (value :: values)))).map (true, ·)
  | _ =>
    match cutAt (· == ':') text with
    | (key, some value) => (CharSet.valued? (String.ofList key) (String.ofList value)).map (false, ·)
    | (_, none) =>
      match cutAt (· == '=') text with
      | (key, some value) => (CharSet.valued? (String.ofList key) (String.ofList value)).map (false, ·)
      | (_, none) => (CharSet.named? (String.ofList text)).map (false, ·)

/-- A set with the case flag applied; without Unicode only the letters of ASCII have two cases. -/
def foldSet (flags : Flags) (s : RangeSet) : RangeSet :=
  if !flags.caseless then s
  else if flags.unicode then s.caseless
  else s.caseless.inter .ascii

/-- A set negated if asked for, which takes Unicode. -/
def negateSet? (flags : Flags) (negated : Bool) (s : RangeSet) : Option RangeSet :=
  if !negated then some s else if flags.unicode then some s.complement else none

/-- A set with the case flag applied, and then negated if asked for. -/
def finishSet? (flags : Flags) (negated : Bool) (s : RangeSet) : Option RangeSet :=
  negateSet? flags negated (foldSet flags s)

/-- Reads the property behind `\p` or `\P`. -/
def unicodeClass? (flags : Flags) (negated : Bool) (cs : List Char) : Option (Primitive × List Char) :=
  if !flags.unicode then none
  else
    match skip flags cs with
    | [] => none
    | '\x7b' :: cs => do
      let (text, rest) ← braced? flags cs
      let (unequal, s) ← bracedClass? text
      let s ← finishSet? flags (negated != unequal) s
      some (.class s, rest)
    | c :: cs => do
      if c == '\\' then none
      else
        let s ← (CharSet.named? (String.singleton c)).bind (finishSet? flags negated)
        some (.class s, cs)

/-- The class of a letter behind a backslash, which is the same in both cases; a capital negates it. -/
def letterClass? (flags : Flags) (letter : Char) : Option RangeSet :=
  negateSet? flags letter.isUpper <| match letter.toLower with
    | 'd' => if flags.unicode then CharSet.unicodeDigit else CharSet.asciiDigit
    | 's' => if flags.unicode then CharSet.unicodeSpace else CharSet.asciiSpace
    | _ => if flags.unicode then CharSet.unicodeWord else CharSet.asciiWord

/-- The kind of word boundary with a name. -/
def boundaryNamed? (ascii : Bool) : String → Option Look
  | "start" => some (.wordStart ascii)
  | "end" => some (.wordEnd ascii)
  | "start-half" => some (.wordStartHalf ascii)
  | "end-half" => some (.wordEndHalf ascii)
  | _ => none

/-- The characters of the name of a word boundary. -/
def isBoundaryChar (c : Char) : Bool := c.isAlpha || c == '-'

/-- Reads what follows `\b`: the kind of boundary in braces, if the braces hold a name. -/
def boundary? (flags : Flags) (cs : List Char) : Option (Look × List Char) :=
  let ascii := !flags.unicode
  match cs with
  | '\x7b' :: inner =>
    match skip flags inner with
    | [] => none
    | c :: _ =>
      if isBoundaryChar c then do
        let (name, rest) ← braced? flags inner
        let kind ← boundaryNamed? ascii (String.ofList name)
        some (kind, rest)
      else some (.wordBoundary ascii, cs)
  | _ => some (.wordBoundary ascii, cs)

/-- Reads what follows a backslash. -/
def escape? (flags : Flags) : List Char → Option (Primitive × List Char)
  | [] => none
  | c :: cs =>
    let ascii := !flags.unicode
    if c.isDigit then none
    else if c == 'x' then (codePoint? flags 2 cs).map fun (c, rest) => (.literal c, rest)
    else if c == 'u' then (codePoint? flags 4 cs).map fun (c, rest) => (.literal c, rest)
    else if c == 'U' then (codePoint? flags 8 cs).map fun (c, rest) => (.literal c, rest)
    else if c == 'p' || c == 'P' then unicodeClass? flags (c == 'P') cs
    else if "dswDSW".toList.contains c then (letterClass? flags c).map fun s => (.class s, cs)
    else if isMeta c || isEscapable c then some (.literal c, cs)
    else
      match controlOf? c with
      | some control => some (.literal control, cs)
      | none =>
        if c == 'A' then some (.place .textStart, cs)
        else if c == 'z' then some (.place .textEnd, cs)
        else if c == 'b' then (boundary? flags cs).map fun (kind, rest) => (.place kind, rest)
        else if c == 'B' then some (.place (.notWordBoundary ascii), cs)
        else if c == '<' then some (.place (.wordStart ascii), cs)
        else if c == '>' then some (.place (.wordEnd ascii), cs)
        else none

end Pattern

end RuleExpr
