import RuleExpr.Token.Basic
import RuleExpr.Time.Rfc3339

/-!
# The text of tokens

- `Token.render` writes a token as source: strings in double quotes with each double quote behind a backslash, lists in
  brackets, maps in braces, blocks in parentheses;
- `Token.text` is the plain text: a string as it is, a block by its head, nothing for null.
-/

namespace RuleExpr.Token

/-- A string's contents with each double quote behind a backslash. -/
def escape (cs : List Char) : List Char := cs.flatMap fun c => if c = '"' then ['\\', '"'] else [c]

mutual

/-- The source of a token, followed by `rest`. -/
def renderTo : Token → List Char → List Char
  | decimal d, rest => d.render.toList ++ rest
  | string s, rest => '"' :: (escape s.toList ++ '"' :: rest)
  | boolean b, rest => (if b then "true" else "false").toList ++ rest
  | time t, rest => t.render.toList ++ rest
  | null, rest => "null".toList ++ rest
  | list items, rest => '[' :: renderItems items (']' :: rest)
  | map entries, rest => '{' :: renderEntries entries ('}' :: rest)
  | block head children, rest =>
    if head.isEmpty then '(' :: renderGroup children (')' :: rest)
    else '(' :: (head.toList ++ renderArguments children (')' :: rest))

/-- The elements of a list with commas between them. -/
def renderItems : List Token → List Char → List Char
  | [], rest => rest
  | [t], rest => renderTo t rest
  | t :: u :: ts, rest => renderTo t (',' :: ' ' :: renderItems (u :: ts) rest)

/-- The entries of a map with commas between them. -/
def renderEntries : List (String × Token) → List Char → List Char
  | [], rest => rest
  | [(k, t)], rest => k.toList ++ ':' :: renderTo t rest
  | (k, t) :: e :: es, rest => k.toList ++ ':' :: renderTo t (',' :: ' ' :: renderEntries (e :: es) rest)

/-- The children of a grouping with blanks between them. -/
def renderGroup : List Token → List Char → List Char
  | [], rest => rest
  | t :: ts, rest => renderTo t (renderArguments ts rest)

/-- The children of a call, each after a blank. -/
def renderArguments : List Token → List Char → List Char
  | [], rest => rest
  | t :: ts, rest => ' ' :: renderTo t (renderArguments ts rest)

end

/-- The source of a token. -/
def render (t : Token) : String := String.ofList (renderTo t [])

/-- The plain text of a token. -/
def text : Token → String
  | decimal d => d.render
  | string s => s
  | boolean b => if b then "true" else "false"
  | time t => t.render
  | null => ""
  | block head _ => head
  | t => t.render

end RuleExpr.Token
