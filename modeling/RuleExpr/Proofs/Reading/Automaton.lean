import RuleExpr.Token.Source

/-!
# Reading in one pass

The reader calls itself for a level inside a level. The same is done in one pass over the characters (`scan`) with the
open levels on a stack, so a fault is met at the first character that cannot be right, or at the innermost thing that is
still open at the end.

- where a word or a string is read, the pass comes to the place behind it (`scan_eq_readWord`, `scan_eq_readString`);
- where a level is read, it comes to the place behind its parenthesis with the block of the level, or to the end of the
  text (`scan_eq_readItems`): by the recursion of the reader, the stack being that of its open calls.

**Reading by recursive descent is reading in one pass** (`Token.read_eq_scan`).
-/

namespace RuleExpr

namespace Reading

/-! ## The pass -/

/-- Whether the pass is between items or in a bare word, or inside a string; texts are kept backwards. -/
inductive Mode where
  | plain (word : List Char)
  | quoted (start : Nat) (quote : Char) (text : List Char)

/-- An open level: the offset of its parenthesis, and the items before it in the level around it, backwards. -/
structure Level where
  start : Nat
  before : List Item

/-- The items with the open word, if there is one. -/
def closeWord (word : List Char) (items : List Item) : List Item :=
  if word.isEmpty then items else .bare (String.ofList word.reverse) :: items

/-- The items of the outer level after a level with the given items, backwards, has been closed. -/
def closeLevel (items : List Item) (before : List Item) : Except Error (List Item) :=
  (Item.assemble items.reverse).map (addBlock before)

/-- The tree of the items of the whole text, backwards. -/
def closeText (items : List Item) : Except Error Token :=
  (Item.assemble items.reverse).map fun block => block.getD Token.emptyBlock

/-- Reads the characters from offset `n`; `items` are those of the current level, backwards. -/
def scan : List Char → Nat → Mode → List Item → List Level → Except Error Token
  | [], _, .quoted start _ _, _, _ => .error (.syntaxError start .unterminatedString)
  | [], _, .plain _, _, level :: _ => .error (.syntaxError level.start .unterminatedBlock)
  | [], _, .plain word, items, [] => closeText (closeWord word items)
  | c :: cs, n, .quoted start quote text, items, outer =>
    if c = quote then scan cs (n + 1) (.plain []) (.quoted (String.ofList text.reverse) :: items) outer
    else
      match cs with
      | d :: ds =>
        if c = '\\' ∧ d = quote then scan ds (n + 2) (.quoted start quote (quote :: text)) items outer
        else scan (d :: ds) (n + 1) (.quoted start quote (c :: text)) items outer
      | [] => .error (.syntaxError start .unterminatedString)
  | c :: cs, n, .plain word, items, outer =>
    if isWordChar c then scan cs (n + 1) (.plain (c :: word)) items outer
    else
      let items := closeWord word items
      if c = '(' then scan cs (n + 1) (.plain []) [] (⟨n, items⟩ :: outer)
      else if c = ')' then
        match outer with
        | [] => .error (.syntaxError n .unbalancedParen)
        | level :: outer =>
          match closeLevel items level.before with
          | .error e => .error e
          | .ok items => scan cs (n + 1) (.plain []) items outer
      else if isQuote c then scan cs (n + 1) (.quoted n c []) items outer
      else scan cs (n + 1) (.plain []) items outer

/-! ## Between items -/

variable {n : Nat} {cs rest word text : List Char} {items : List Item} {outer : List Level}

theorem scan_open :
    scan ('(' :: rest) n (.plain []) items outer = scan rest (n + 1) (.plain []) [] (⟨n, items⟩ :: outer) :=
  rfl

theorem scan_close (level : Level) : scan (')' :: rest) n (.plain []) items (level :: outer) =
    match closeLevel items level.before with
    | .error e => .error e
    | .ok items => scan rest (n + 1) (.plain []) items outer :=
  rfl

theorem eq_of_isQuote {q : Char} (h : isQuote q = true) : q = '"' ∨ q = '\'' := by
  simpa [isQuote] using h

theorem eq_of_isSeparator {c : Char} (h : isSeparator c = true) : c = ' ' ∨ c = '\t' ∨ c = '\n' ∨ c = '\r' := by
  simpa [isSeparator, or_assoc] using h

theorem scan_quote {q : Char} (hq : isQuote q = true) :
    scan (q :: rest) n (.plain []) items outer = scan rest (n + 1) (.quoted n q []) items outer := by
  rcases eq_of_isQuote hq with rfl | rfl <;> rfl

theorem scan_separator {c : Char} (hc : isSeparator c = true) :
    scan (c :: rest) n (.plain []) items outer = scan rest (n + 1) (.plain []) items outer := by
  rcases eq_of_isSeparator hc with rfl | rfl | rfl | rfl <;> rfl

/-! ## Items without parentheses -/

/-- The text goes on with a character that ends a word, or is at its end. -/
def Ends (rest : List Char) : Prop := ∀ c ∈ rest.head?, isWordChar c = false

theorem ends_nil : Ends [] := by
  intro c hc
  cases hc

theorem ends_cons {c : Char} (h : isWordChar c = false) : Ends (c :: rest) := by
  intro d hd
  cases hd
  exact h

/-- At its end a word becomes an item. -/
theorem scan_closeWord (h : Ends cs) (word : List Char) :
    scan cs n (.plain word) items outer = scan cs n (.plain []) (closeWord word items) outer := by
  have hc : ∀ items, closeWord [] items = items := fun _ => rfl
  cases cs with
  | nil =>
    cases outer with
    | nil => simp only [scan, hc]
    | cons level outer => simp only [scan]
  | cons c cs =>
    have hw : isWordChar c = false := h c rfl
    conv => lhs; rw [scan]
    conv => rhs; rw [scan]
    simp only [hw, hc, Bool.false_eq_true, if_false]

theorem closeWord_of_ne_nil (h : word ≠ []) : closeWord word items = .bare (String.ofList word.reverse) :: items :=
  if_neg (mt List.isEmpty_iff.1 h)

/-- A word is read up to the first character that ends it. -/
theorem scan_eq_readWord (hw : word ≠ []) : scan cs n (.plain word) items outer =
    scan (readWord word n cs).2.rest (readWord word n cs).2.offset (.plain []) (.bare (readWord word n cs).1 :: items)
      outer := by
  fun_induction readWord word n cs with
  | case1 word n => rw [scan_closeWord ends_nil, closeWord_of_ne_nil hw]
  | case2 word n c cs hc ih =>
    rw [scan, if_pos hc]
    exact ih (List.cons_ne_nil _ _)
  | case3 word n c cs hc =>
    rw [scan_closeWord (ends_cons (Bool.eq_false_iff.2 hc)), closeWord_of_ne_nil hw]

/-- A string is read to its closing quote, or is not closed. -/
theorem scan_eq_readString {start : Nat} {q : Char} (hq : isQuote q = true) :
    scan cs n (.quoted start q text) items outer = match readString start q text n cs with
      | .error e => .error e
      | .ok (s, next) => scan next.rest next.offset (.plain []) (.quoted s :: items) outer := by
  -- the backslash in front of a quote is no quote itself, so it does not matter which is looked for first
  have hescape : '\\' ≠ q := by
    rcases eq_of_isQuote hq with rfl | rfl <;> decide
  fun_induction readString start q text n cs with
  | case1 => rfl
  | case2 text n => rw [scan, if_pos rfl]
  | case3 text n c hc => rw [scan, if_neg hc]
  | case4 text n c d cs hd ih =>
    rw [scan, if_neg (hd.1 ▸ hescape)]
    simp only [if_pos hd]
    exact ih
  | case5 text n d cs hd => rw [scan, if_pos rfl]
  | case6 text n c d cs hd hc ih =>
    rw [scan, if_neg hc]
    simp only [if_neg hd]
    exact ih

/-! ## Levels -/

/-- How the pass goes on when a level has been read: behind its parenthesis, in the level around it, or with the tree of
the whole text. -/
def leave (items : List Item) (next : Position) : List Level → Except Error Token
  | [] => closeText items.reverse
  | level :: outer =>
    match closeLevel items.reverse level.before with
    | .error e => .error e
    | .ok items => scan next.rest next.offset (.plain []) items outer

/-- How the pass goes on from what reading a level gives. -/
def resume {k : Nat} (outer : List Level) : Except Error (Items k) → Except Error Token
  | .error e => .error e
  | .ok level => leave level.items level.next outer

theorem resume_weaken {j k : Nat} (h : j ≤ k) (r : Except Error (Items j)) :
    resume outer (r.map (Items.weaken h)) = resume outer r := by
  cases r <;> rfl

/-- **A level is read as its own call reads it**, by the recursion of the reader: the stack holds the parenthesis that
was opened last, and the levels of the calls that wait for this one. -/
theorem scan_eq_readItems {opened : Option Nat} (ho : outer.head?.map Level.start = opened) :
    scan cs n (.plain []) items outer = resume outer (readItems opened items n cs) := by
  fun_induction readItems opened items n cs generalizing outer with
  | case1 items n start =>
    obtain ⟨level, hlevel, rfl⟩ := Option.map_eq_some_iff.1 ho
    obtain ⟨outer, rfl⟩ := List.head?_eq_some_iff.1 hlevel
    rfl
  | case2 items n =>
    rw [Option.map_eq_none_iff, List.head?_eq_none_iff] at ho
    subst ho
    show closeText items = closeText items.reverse.reverse
    rw [List.reverse_reverse]
  | case3 opened items n c cs hc ih => rw [scan_separator hc, resume_weaken, ih ho]
  | case4 items n cs start =>
    obtain ⟨level, hlevel, rfl⟩ := Option.map_eq_some_iff.1 ho
    obtain ⟨outer, rfl⟩ := List.head?_eq_some_iff.1 hlevel
    rw [scan_close, resume, leave, List.reverse_reverse]
  | case5 items n cs =>
    rw [Option.map_eq_none_iff, List.head?_eq_none_iff] at ho
    subst ho
    rfl
  | case6 opened items n cs e he _ _ ih =>
    rw [scan_open, ih rfl, he]
    rfl
  | case7 opened items n cs inner hinner e he _ _ ih =>
    rw [scan_open, ih rfl, hinner]
    show (match closeLevel inner.items.reverse items with | .error e => .error e | .ok items => _) = Except.error e
    rw [closeLevel, List.reverse_reverse, he]
    rfl
  | case8 opened items n cs inner hinner block hblock _ _ _ ihinner ih =>
    rw [scan_open, ihinner rfl, hinner, resume_weaken, ← ih ho]
    show (match closeLevel inner.items.reverse items with | .error e => .error e | .ok items => _) = scan _ _ _ _ _
    rw [closeLevel, List.reverse_reverse, hblock]
    rfl
  | case9 opened items n c cs _ _ _ hq e he =>
    rw [scan_quote hq, scan_eq_readString hq, he]
    rfl
  | case10 opened items n c cs _ _ _ hq s next hs _ ih =>
    rw [scan_quote hq, scan_eq_readString hq, hs, resume_weaken, ← ih ho]
  | case11 opened items n c cs hseparator hclose hopen hq word next hword _ ih =>
    have hc : isWordChar c = true := by simp [isWordChar, hseparator, hclose, hopen, hq]
    rw [scan, if_pos hc, scan_eq_readWord (List.cons_ne_nil _ _), hword, resume_weaken, ← ih ho]

end Reading

/-- **Reading by recursive descent is reading in one pass.** -/
theorem Token.read_eq_scan (source : String) : Token.read source = Reading.scan source.toList 0 (.plain []) [] [] := by
  have hscan : Reading.scan source.toList 0 (.plain []) [] [] = _ := Reading.scan_eq_readItems rfl
  rw [hscan, Token.read]
  show _ = Reading.resume [] (Reading.readItems none [] 0 source.toList)
  cases Reading.readItems none [] 0 source.toList with
  | error e => rfl
  | ok level =>
    show Item.assemble level.items >>= _ = Reading.closeText level.items.reverse
    rw [Reading.closeText, List.reverse_reverse]
    cases Item.assemble level.items <;> rfl

end RuleExpr
