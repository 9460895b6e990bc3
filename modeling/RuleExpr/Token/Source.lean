import RuleExpr.Token.Infer

/-!
# Reading source text

Source text is a tree of blocks in parentheses. At each level the first bare word is the head and all other items are
children; quoted strings are strings, and bare words in child position are the atoms they spell. A level with one block
alone is that block, and an empty level is dropped. A level becomes a block when it is closed, so its words are read as
atoms only then.

- `Token.read` reads a whole text as one block;
- `Reading.readItems` reads the items of a level and calls itself for a level inside, `Reading.readString` and
  `Reading.readWord` read an item without parentheses.
-/

namespace RuleExpr

/-- An item of a level, before the level becomes a block. -/
inductive Item where
  | bare (word : String)
  | quoted (text : String)
  | block (token : Token)

namespace Item

/-- The item as a child. -/
def toToken : Item → Except Error Token
  | bare word => Token.infer word
  | quoted text => .ok (Token.string text)
  | block token => .ok token

/-- The items as children, in order. -/
def toTokens : List Item → Except Error (List Token)
  | [] => .ok []
  | item :: items => do
    let t ← toToken item
    let ts ← toTokens items
    .ok (t :: ts)

/-- The block of one level: nothing for no items, a block alone as it is. -/
def assemble : List Item → Except Error (Option Token)
  | [] => .ok none
  | [block token] => .ok (some token)
  | bare head :: items => (toTokens items).map fun ts => some (Token.block head ts)
  | items => (toTokens items).map fun ts => some (Token.block "" ts)

end Item

/-! ## Characters -/

/-- The characters that separate items. -/
def isSeparator (c : Char) : Bool := c == ' ' || c == '\t' || c == '\n' || c == '\r'

/-- The characters that begin and end a string. -/
def isQuote (c : Char) : Bool := c == '"' || c == '\''

/-- The characters that a bare word may hold. -/
def isWordChar (c : Char) : Bool := !(isSeparator c || c == '(' || c == ')' || isQuote c)

/-! ## The reader -/

namespace Reading

/-- A place in a text: its offset, and the characters from there on. -/
structure Position where
  offset : Nat
  rest : List Char

/-- Reads a bare word, of which `word` has been read, backwards. -/
def readWord (word : List Char) (offset : Nat) : List Char → String × Position
  | [] => (String.ofList word.reverse, ⟨offset, []⟩)
  | c :: cs =>
    if isWordChar c then readWord (c :: word) (offset + 1) cs else (String.ofList word.reverse, ⟨offset, c :: cs⟩)

/-- Reads the contents of the string that began at `start`, of which `text` has been read, backwards. A backslash counts
as part of them, unless it stands in front of the string's quote. -/
def readString (start : Nat) (quote : Char) (text : List Char) (offset : Nat) :
    List Char → Except Error (String × Position)
  | [] => .error (.syntaxError start .unterminatedString)
  | [c] =>
    if c = quote then .ok (String.ofList text.reverse, ⟨offset + 1, []⟩)
    else .error (.syntaxError start .unterminatedString)
  | c :: d :: cs =>
    if c = '\\' ∧ d = quote then readString start quote (quote :: text) (offset + 2) cs
    else if c = quote then .ok (String.ofList text.reverse, ⟨offset + 1, d :: cs⟩)
    else readString start quote (c :: text) (offset + 1) (d :: cs)

theorem length_rest_readWord (word : List Char) (offset : Nat) (cs : List Char) :
    (readWord word offset cs).2.rest.length ≤ cs.length := by
  fun_induction readWord word offset cs with
  | case1 => exact Nat.le_refl _
  | case2 word offset c cs hc ih => exact Nat.le_succ_of_le ih
  | case3 => exact Nat.le_refl _

theorem length_rest_readString {start offset : Nat} {quote : Char} {text cs : List Char} {r : String × Position}
    (h : readString start quote text offset cs = .ok r) : r.2.rest.length ≤ cs.length := by
  fun_induction readString start quote text offset cs with
  | case1 | case3 => cases h
  | case2 => cases h; exact Nat.zero_le _
  | case4 text offset c d cs hc ih => exact Nat.le_trans (ih h) (Nat.le_add_right _ 2)
  | case5 => cases h; exact Nat.le_succ _
  | case6 text offset c d cs _ hc ih => exact Nat.le_succ_of_le (ih h)

/-- The items of a level, and the place behind it, with at most `n` characters left. -/
structure Items (n : Nat) where
  items : List Item
  next : Position
  length_rest : next.rest.length ≤ n

/-- The same items, with a looser bound on what is left. -/
def Items.weaken {m n : Nat} (h : m ≤ n) (r : Items m) : Items n := ⟨r.items, r.next, Nat.le_trans r.length_rest h⟩

/-- The items with the block of a level behind them, if it has one. -/
def addBlock (items : List Item) : Option Token → List Item
  | some token => .block token :: items
  | none => items

/-- Reads the items of a level up to the parenthesis that closes the one at `opened`, or without one up to the end of
the text; `items` have been read, backwards. A level inside becomes a block as soon as it has been read. -/
def readItems (opened : Option Nat) (items : List Item) (offset : Nat) :
    (cs : List Char) → Except Error (Items cs.length)
  | [] =>
    match opened with
    | some start => .error (.syntaxError start .unterminatedBlock)
    | none => .ok ⟨items.reverse, ⟨offset, []⟩, Nat.le_refl _⟩
  | c :: cs =>
    if isSeparator c then (readItems opened items (offset + 1) cs).map (Items.weaken (Nat.le_succ _))
    else if c = ')' then
      match opened with
      | some _ => .ok ⟨items.reverse, ⟨offset + 1, cs⟩, Nat.le_succ _⟩
      | none => .error (.syntaxError offset .unbalancedParen)
    else if c = '(' then
      match readItems (some offset) [] (offset + 1) cs with
      | .error e => .error e
      | .ok inner =>
        match Item.assemble inner.items with
        | .error e => .error e
        | .ok block =>
          have : inner.next.rest.length ≤ cs.length := inner.length_rest
          (readItems opened (addBlock items block) inner.next.offset inner.next.rest).map
            (Items.weaken (Nat.le_succ_of_le this))
    else if isQuote c then
      match h : readString offset c [] (offset + 1) cs with
      | .error e => .error e
      | .ok (text, next) =>
        have : next.rest.length ≤ cs.length := length_rest_readString h
        (readItems opened (.quoted text :: items) next.offset next.rest).map (Items.weaken (Nat.le_succ_of_le this))
    else
      match h : readWord [c] (offset + 1) cs with
      | (word, next) =>
        have : next.rest.length ≤ cs.length := by have := length_rest_readWord [c] (offset + 1) cs; rwa [h] at this
        (readItems opened (.bare word :: items) next.offset next.rest).map (Items.weaken (Nat.le_succ_of_le this))
  termination_by cs => cs.length

end Reading

/-- Reads a text as one block. -/
def Token.read (source : String) : Except Error Token := do
  let level ← Reading.readItems none [] 0 source.toList
  let block ← Item.assemble level.items
  .ok (block.getD Token.emptyBlock)

end RuleExpr
