import RuleExpr.Proofs.Reading.Image

/-!
# Balanced delimiters

The delimiters of a text, followed by themselves: one pass over the characters that remembers only the offsets of the
parentheses that are open, and whether the place is inside a string. Everything between delimiters is skipped.

- `Delimiters.step` is one character, `Delimiters.follow` a text;
- `Delimiters.verdict` is what is wrong at the end, if anything: the first closing parenthesis without an opening one,
  or else the innermost delimiter that is still open.

* **The reader and the pass agree** (`agrees_scan`): at every place of a text, whatever items have been read, unless a
  number overflows.
* **A number that overflows is a word of the text** (`bears_of_scan`): a block is made of nothing else than what has
  been read in its level.
* **A source can be read exactly when its delimiters are balanced**, and otherwise the reader blames what the pass
  blames (`Token.read_verdict`). The exponent of a number in a source may be the least 64-bit integer, which has no
  magnitude: then the reader comes to no result at all (`Token.not_read_verdict`).
-/

namespace RuleExpr

/-! ## Following delimiters -/

/-- What is known at a place of a text; open parentheses are kept by their offsets, innermost first. -/
inductive Delimiters where
  /-- Outside strings. -/
  | outside (opens : List Nat)
  /-- In a string that began at `start`, directly after a backslash or not. -/
  | inside (start : Nat) (quote : Char) (escaping : Bool) (opens : List Nat)
  /-- After a closing parenthesis that had none to close. -/
  | unmatched (offset : Nat)

namespace Delimiters

/-- Takes the character at offset `n`. -/
def step (n : Nat) (c : Char) : Delimiters → Delimiters
  | outside opens =>
    if isQuote c then inside n c false opens
    else if c = '(' then outside (n :: opens)
    else if c = ')' then
      match opens with
      | [] => unmatched n
      | _ :: opens => outside opens
    else outside opens
  | inside start quote escaping opens =>
    if c = quote then (if escaping then inside start quote false opens else outside opens)
    else inside start quote (c == '\\') opens
  | unmatched offset => unmatched offset

/-- Takes a text that begins at offset `n`. -/
def follow : List Char → Nat → Delimiters → Delimiters
  | [], _, d => d
  | c :: cs, n, d => follow cs (n + 1) (step n c d)

/-- The offset that is to blame at the end, and what for. -/
def verdict : Delimiters → Option (Nat × String)
  | outside [] => none
  | outside (start :: _) => some (start, "unterminated block")
  | inside start _ _ _ => some (start, "unterminated string")
  | unmatched offset => some (offset, "unbalanced paren")

/-- Everything after a closing parenthesis without an opening one is beside the point. -/
theorem follow_unmatched (cs : List Char) (n offset : Nat) : follow cs n (unmatched offset) = unmatched offset := by
  induction cs generalizing n with
  | nil => rfl
  | cons c cs ih => exact ih (n + 1)

section

variable {n : Nat} {c : Char} {opens : List Nat}

theorem step_outside (hq : isQuote c = false) (ho : c ≠ '(') (hc : c ≠ ')') :
    step n c (outside opens) = outside opens := by
  simp [step, hq, ho, hc]

theorem step_wordChar (h : isWordChar c = true) : step n c (outside opens) = outside opens := by
  simp only [isWordChar, Bool.not_eq_true', Bool.or_eq_false_iff, beq_eq_false_iff_ne] at h
  obtain ⟨⟨⟨-, ho⟩, hc⟩, hq⟩ := h
  exact step_outside hq ho hc

theorem step_quote (h : isQuote c = true) : step n c (outside opens) = inside n c false opens := by
  simp [step, h]

/-- A string ends at its quote, -/
theorem step_endQuote (q : Char) (start : Nat) : step n q (inside start q false opens) = outside opens := by
  simp [step]

/-- but not directly after a backslash. -/
theorem step_escapedQuote (q : Char) (start : Nat) :
    step n q (inside start q true opens) = inside start q false opens := by
  simp [step]

theorem step_stringChar {q : Char} (h : c ≠ q) (start : Nat) (escaping : Bool) :
    step n c (inside start q escaping opens) = inside start q (c == '\\') opens := by
  simp [step, h]

/-- A backslash matters only in front of the string's quote. -/
theorem verdict_escaping {q : Char} {cs : List Char} {start : Nat} (h : ∀ d ∈ cs.head?, d ≠ q) (escaping : Bool) :
    (follow cs n (inside start q escaping opens)).verdict = (follow cs n (inside start q false opens)).verdict := by
  cases cs with
  | nil => rfl
  | cons d cs =>
    rw [follow, follow, step_stringChar (h d rfl), step_stringChar (h d rfl)]

end

end Delimiters

/-! ## The reader -/

namespace Reading

open Delimiters

/-- What the reader has read of the delimiters. -/
def delimiters : Mode → List Level → Delimiters
  | .plain _, outer => outside (outer.map Level.start)
  | .quoted start quote _, outer => inside start quote false (outer.map Level.start)

/-- The outcome is what the verdict calls for: a fault of that wording at that offset, or a tree. -/
def Agrees : Option (Nat × String) → Except Error Token → Prop
  | none, r => ∃ t, r = .ok t
  | some (offset, text), r => ∃ fault, r = .error (.syntaxError offset fault) ∧ fault.message = text

/-- **From every place of a text, the reader comes to what following its delimiters comes to, unless a number
overflows.** By the recursion of the reader: the items it has read make no difference, and an escaped quote is one step
for it and two for the delimiters. -/
theorem agrees_scan (cs : List Char) (n : Nat) (mode : Mode) (items : List Item) (outer : List Level) :
    Agrees (follow cs n (delimiters mode outer)).verdict (scan cs n mode items outer) ∨
      scan cs n mode items outer = .error .overflow := by
  fun_induction scan cs n mode items outer with
  | case1 => exact .inl ⟨_, rfl, rfl⟩
  | case2 => exact .inl ⟨_, rfl, rfl⟩
  | case3 n word items =>
    rw [closeText]
    cases hb : Item.assemble (closeWord word items).reverse with
    | error e => exact .inr (congrArg Except.error (Item.overflow_of_assemble hb).1)
    | ok b => exact .inl ⟨_, rfl⟩
  | case4 cs n start q text items outer ih =>
    rw [follow, delimiters, step_endQuote]
    exact ih
  | case5 c n start q text items outer hc d ds hd ih =>
    obtain ⟨rfl, rfl⟩ := hd
    rw [follow, follow, delimiters, step_stringChar hc, beq_self_eq_true, step_escapedQuote]
    exact ih
  | case6 c n start q text items outer hc d ds hd ih =>
    rw [follow, delimiters, step_stringChar hc]
    by_cases hb : c = '\\'
    · rw [verdict_escaping]
      · exact ih
      · rintro e he rfl
        exact hd ⟨hb, Option.some.inj he⟩
    · rw [beq_false_of_ne hb]
      exact ih
  | case7 c n start q text items outer hc =>
    rw [follow, delimiters, step_stringChar hc]
    exact .inl ⟨_, rfl, rfl⟩
  | case8 c cs n word items outer hc ih =>
    rw [follow, delimiters, step_wordChar hc]
    exact ih
  | case9 cs n word items outer _ hc ih => exact ih
  | case10 cs n word items =>
    have hstep : step n ')' (delimiters (.plain word) []) = unmatched n := rfl
    rw [follow, hstep, follow_unmatched]
    exact .inl ⟨_, rfl, rfl⟩
  | case11 cs n word items _ level outer e hclose _ _ =>
    exact .inr (congrArg Except.error (Item.overflow_of_assemble (map_eq_error_iff.1 hclose)).1)
  | case12 cs n word items _ level outer items' hclose _ _ ih => exact ih
  | case13 c cs n word items outer hc _ hopen hclose hq ih =>
    rw [follow, delimiters, step_quote hq]
    exact ih
  | case14 c cs n word items outer hc _ hopen hclose hq ih =>
    rw [follow, delimiters, step_outside (Bool.eq_false_iff.2 hq) hopen hclose]
    exact ih

/-! ## Numbers that overflow -/

/-- The characters of the open word, in order. -/
def openText : Mode → List Char
  | .plain word => word.reverse
  | .quoted .. => []

/-- The word is a stretch of what is still to be read, or a bare word that has been read in an open level. -/
def Bears (w : String) (mode : Mode) (cs : List Char) (items : List Item) (outer : List Level) : Prop :=
  w.toList <:+: openText mode ++ cs ∨ .bare w ∈ items ∨ ∃ level ∈ outer, .bare w ∈ level.before

section Bears

variable {w : String} {word cs rest : List Char} {items items' : List Item} {outer : List Level}

theorem mem_closeWord (h : Item.bare w ∈ closeWord word items) : w.toList = word.reverse ∨ .bare w ∈ items := by
  unfold closeWord at h
  split at h
  · exact .inr h
  · rcases List.mem_cons.1 h with h | h
    · cases h
      exact .inl String.toList_ofList
    · exact .inr h

/-- A level that is closed leaves no bare words behind. -/
theorem mem_closeLevel {before : List Item} (h : closeLevel items before = .ok items') (hw : Item.bare w ∈ items') :
    .bare w ∈ before := by
  obtain ⟨b, -, rfl⟩ := map_eq_ok h
  cases b with
  | none => exact hw
  | some token => exact (List.mem_cons.1 hw).resolve_left nofun

/-- A word that is closed is a stretch of the text. -/
theorem Bears.of_closeWord (hr : rest <:+ cs)
    (h : w.toList <:+: rest ∨ .bare w ∈ closeWord word items ∨ ∃ level ∈ outer, .bare w ∈ level.before) :
    Bears w (.plain word) cs items outer := by
  rcases h with h | h | h
  · exact .inl (h.trans (hr.isInfix.trans (List.suffix_append _ _).isInfix))
  · rcases mem_closeWord h with he | h
    · exact .inl (he ▸ (List.prefix_append _ _).isInfix)
    · exact .inr (.inl h)
  · exact .inr (.inr h)

end Bears

/-- **A number that overflows is a word of the text or of a level that is open**, by the recursion of the reader: only
what is read becomes part of a block. -/
theorem bears_of_scan {cs : List Char} {n : Nat} {mode : Mode} {items : List Item} {outer : List Level}
    (h : scan cs n mode items outer = .error .overflow) :
    ∃ w, Token.infer w = .error .overflow ∧ Bears w mode cs items outer := by
  fun_induction scan cs n mode items outer with
  | case1 | case2 | case7 | case10 => cases h
  | case3 n word items =>
    obtain ⟨-, w, hw, ho⟩ := Item.overflow_of_assemble (map_eq_error_iff.1 h)
    exact ⟨w, ho, .of_closeWord List.suffix_rfl (.inr (.inl (List.mem_reverse.1 hw)))⟩
  | case4 cs n start q text items outer ih =>
    obtain ⟨w, ho, hw⟩ := ih h
    refine ⟨w, ho, hw.imp (·.trans (List.suffix_cons _ _).isInfix) (·.imp_left fun hw => ?_)⟩
    exact (List.mem_cons.1 hw).resolve_left fun h => by cases h
  | case5 c n start q text items outer hc d ds hd ih =>
    obtain ⟨w, ho, hw⟩ := ih h
    exact ⟨w, ho, hw.imp_left (·.trans ((List.suffix_cons _ _).trans (List.suffix_cons _ _)).isInfix)⟩
  | case6 c n start q text items outer hc d ds hd ih =>
    obtain ⟨w, ho, hw⟩ := ih h
    exact ⟨w, ho, hw.imp_left (·.trans (List.suffix_cons _ _).isInfix)⟩
  | case8 c cs n word items outer hc ih =>
    obtain ⟨w, ho, hw⟩ := ih h
    refine ⟨w, ho, hw.imp_left fun hw => ?_⟩
    rwa [openText, List.reverse_cons, List.append_assoc] at hw
  | case9 cs n word items outer _ hc ih =>
    obtain ⟨w, ho, hw⟩ := ih h
    refine ⟨w, ho, .of_closeWord (List.suffix_cons _ _) (hw.imp_right fun hw => ?_)⟩
    obtain ⟨level, hl, hw⟩ := hw.resolve_left List.not_mem_nil
    rcases List.mem_cons.1 hl with rfl | hl
    · exact .inl hw
    · exact .inr ⟨level, hl, hw⟩
  | case11 cs n word items _ level outer e hclose _ _ =>
    cases h
    obtain ⟨-, w, hw, ho⟩ := Item.overflow_of_assemble (map_eq_error_iff.1 hclose)
    exact ⟨w, ho, .of_closeWord List.suffix_rfl (.inr (.inl (List.mem_reverse.1 hw)))⟩
  | case12 cs n word items _ level outer items' hclose _ _ ih =>
    obtain ⟨w, ho, hw⟩ := ih h
    refine ⟨w, ho, .of_closeWord (List.suffix_cons _ _) (hw.imp_right fun hw => .inr ?_)⟩
    rcases hw with hw | ⟨l, hl, hw⟩
    · exact ⟨level, List.mem_cons_self, mem_closeLevel hclose hw⟩
    · exact ⟨l, List.mem_cons_of_mem _ hl, hw⟩
  | case13 c cs n word items outer hc _ hopen hclose hq ih =>
    obtain ⟨w, ho, hw⟩ := ih h
    exact ⟨w, ho, .of_closeWord (List.suffix_cons _ _) hw⟩
  | case14 c cs n word items outer hc _ hopen hclose hq ih =>
    obtain ⟨w, ho, hw⟩ := ih h
    exact ⟨w, ho, .of_closeWord (List.suffix_cons _ _) hw⟩

end Reading

namespace Token

open Delimiters

/-- **A source is read exactly when its delimiters are balanced**; otherwise the reader blames the first closing
parenthesis without an opening one, or else the innermost delimiter that is still open at the end. Only a source with a
number that overflows comes to neither. -/
theorem read_verdict (source : String) :
    (match (follow source.toList 0 (outside [])).verdict with
      | none => ∃ t, read source = .ok t
      | some (offset, text) =>
        ∃ fault, read source = .error (.syntaxError offset fault) ∧ fault.message = text) ∨
      read source = .error .overflow ∧ ∃ w : String, w.toList <:+: source.toList ∧ infer w = .error .overflow := by
  have h : Reading.Agrees (follow source.toList 0 (outside [])).verdict (read source) ∨
      read source = .error .overflow :=
    read_eq_scan source ▸ Reading.agrees_scan source.toList 0 (.plain []) [] []
  refine h.imp (fun h => ?_) fun h => ⟨h, ?_⟩
  · cases hv : (follow source.toList 0 (outside [])).verdict with
    | none =>
      rw [hv] at h
      exact h
    | some blame =>
      rw [hv] at h
      exact h
  · rw [read_eq_scan] at h
    obtain ⟨w, ho, hw⟩ := Reading.bears_of_scan h
    exact ⟨w, hw.resolve_right (by simp), ho⟩

/-- The second of two backslashes escapes the quote after them. -/
example : (follow "(f 'a\\'(\"' \"\\\\\" (".toList 0 (outside [])).verdict = some (11, "unterminated string") := by
  decide

/-- The delimiters are balanced, and the exponent of the argument is the least 64-bit integer. -/
theorem not_read_verdict :
    ¬∀ source, (follow source.toList 0 (outside [])).verdict = none → ∃ t, read source = .ok t := by
  intro h
  obtain ⟨t, ht⟩ := h "(f 1e-9223372036854775808)" (by decide)
  have hclose : Reading.closeLevel [.bare "1e-9223372036854775808", .bare "f"] [] = .error .overflow := by
    show (Item.assemble [.bare "f", .bare "1e-9223372036854775808"]).map _ = _
    rw [Item.assemble, Item.toTokens, Item.toToken, infer_leastExponent]
    rfl
  have hscan : Reading.scan [')'] 25 (.plain []) [.bare "1e-9223372036854775808", .bare "f"] [⟨0, []⟩] =
      .error .overflow := by
    rw [Reading.scan_close, hclose]
  rw [read_eq_scan] at ht
  cases hscan.symm.trans ht

end Token

end RuleExpr
