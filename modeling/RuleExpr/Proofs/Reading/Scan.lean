import RuleExpr.Token.Render
import RuleExpr.Proofs.Token.Atoms
import RuleExpr.Proofs.Reading.Automaton

/-!
# Reading what is written

- the characters of a word are collected (`scan_word`, `scan_bare`), those of a string as well, up to its closing quote
  (`scan_endQuote`, `scan_escapedQuote`, `scan_quoted`);
- what is written for a string's contents is read as the contents (`scan_escape`), except that a backslash at their end
  would take the closing quote with it.
-/

namespace RuleExpr.Reading

open Token (escape)

variable {n : Nat} {items : List Item} {outer : List Level} {rest : List Char}

/-! ## Words -/

theorem Ends.append {cs : List Char} (h : Ends cs) (hr : Ends rest) : Ends (cs ++ rest) := by
  cases cs with
  | nil => exact hr
  | cons c cs => exact ends_cons (h c rfl)

theorem Ends.of_prefix {cs : List Char} (h : Ends rest) (hp : cs <+: rest) : Ends cs := by
  obtain ⟨ds, rfl⟩ := hp
  cases cs with
  | nil => exact ends_nil
  | cons c cs => exact ends_cons (h c rfl)

theorem isWordChar_of_isSeparator {c : Char} (h : isSeparator c = true) : isWordChar c = false := by
  simp [isWordChar, h]

theorem isWordChar_of_isQuote {c : Char} (h : isQuote c = true) : isWordChar c = false := by
  simp [isWordChar, h]

/-- The characters of a word are collected. -/
theorem scan_word {ws word : List Char} (h : ∀ c ∈ ws, isWordChar c = true) :
    scan (ws ++ rest) n (.plain word) items outer =
      scan rest (n + ws.length) (.plain (ws.reverse ++ word)) items outer := by
  induction ws generalizing word n with
  | nil => rfl
  | cons c ws ih =>
    obtain ⟨hc, hws⟩ := List.forall_mem_cons.1 h
    rw [List.cons_append, scan, if_pos hc, ih hws]
    simp only [List.reverse_cons, List.append_assoc, List.cons_append, List.nil_append, List.length_cons]
    congr 1
    omega

/-- A bare word is read as one item. -/
theorem scan_bare {w : String} (hw : IsWord w) (h : Ends rest) :
    scan (w.toList ++ rest) n (.plain []) items outer =
      scan rest (n + w.toList.length) (.plain []) (.bare w :: items) outer := by
  rw [scan_word hw.2, List.append_nil, scan_closeWord h, closeWord_of_ne_nil (by simp [hw.1]), List.reverse_reverse,
    String.ofList_toList]

/-! ## Strings -/

section Strings

variable {start : Nat} {text : List Char} {c q : Char}

theorem scan_endQuote :
    scan (q :: rest) n (.quoted start q text) items outer =
      scan rest (n + 1) (.plain []) (.quoted (String.ofList text.reverse) :: items) outer := by
  cases rest <;> rw [scan, if_pos rfl]

theorem scan_escapedQuote (hq : isQuote q = true) :
    scan ('\\' :: q :: rest) n (.quoted start q text) items outer =
      scan rest (n + 2) (.quoted start q (q :: text)) items outer := by
  rcases eq_of_isQuote hq with rfl | rfl <;> rfl

/-- A character of a string, unless it is a backslash in front of a quote. -/
theorem scan_quoted {d : Char} (hc : c ≠ q) (hd : c = '\\' → d ≠ q) :
    scan (c :: d :: rest) n (.quoted start q text) items outer =
      scan (d :: rest) (n + 1) (.quoted start q (c :: text)) items outer := by
  rw [scan, if_neg hc]
  simp only [if_neg (fun h : c = '\\' ∧ d = q => hd h.1 h.2)]

theorem escape_cons (cs : List Char) : escape (c :: cs) = (if c = '"' then ['\\', '"'] else [c]) ++ escape cs := rfl

/-- The contents as they are written never begin with a quote; so what follows a backslash in them is none. -/
theorem escape_eq_cons (cs rest : List Char) {d : Char} (hd : cs = [] → c = '\\' → d ≠ '"') :
    ∃ e es, escape cs ++ d :: rest = e :: es ∧ (c = '\\' → e ≠ '"') := by
  cases cs with
  | nil => exact ⟨d, rest, rfl, hd rfl⟩
  | cons b cs =>
    by_cases hb : b = '"'
    · exact ⟨'\\', _, by rw [escape_cons, if_pos hb]; rfl, fun _ => by decide⟩
    · exact ⟨b, _, by rw [escape_cons, if_neg hb]; rfl, fun _ => hb⟩

/-- Contents are read as they were before they were written, up to a character that a backslash at their end does not
escape. -/
theorem scan_escape (start : Nat) (rest : List Char) (items : List Item) (outer : List Level) (cs text : List Char)
    (n : Nat) {d : Char} (h : cs.getLast? = some '\\' → d ≠ '"') :
    ∃ m, scan (escape cs ++ d :: rest) n (.quoted start '"' text) items outer =
      scan (d :: rest) m (.quoted start '"' (cs.reverse ++ text)) items outer := by
  induction cs generalizing text n with
  | nil => exact ⟨n, rfl⟩
  | cons c cs ih =>
    have hlast : cs.getLast? = some '\\' → d ≠ '"' := by
      intro hl
      cases cs with
      | nil => cases hl
      | cons e es => exact h (by rw [List.getLast?_cons_cons, hl])
    rw [List.reverse_cons, List.append_assoc, List.singleton_append, escape_cons, List.append_assoc]
    by_cases hc : c = '"'
    · obtain ⟨m, hm⟩ := ih (c :: text) (n + 2) hlast
      refine ⟨m, ?_⟩
      rw [← hm, if_pos hc, hc]
      exact scan_escapedQuote rfl
    · obtain ⟨m, hm⟩ := ih (c :: text) (n + 1) hlast
      refine ⟨m, ?_⟩
      obtain ⟨e, es, he, hne⟩ := escape_eq_cons cs rest fun hnil (hb : c = '\\') => h (by rw [hnil, hb]; rfl)
      rw [← hm, if_neg hc, he]
      exact scan_quoted hc hne

end Strings

end RuleExpr.Reading
