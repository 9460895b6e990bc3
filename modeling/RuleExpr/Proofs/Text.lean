import RuleExpr.Text.Blank
import RuleExpr.Text.Search
import Mathlib.Data.List.TakeWhile

/-!
# Texts taken apart

- a text is cut at the first character that is accepted, or nowhere (`cutAt_append`, `cutAt_cases`);
- **parts that a separator of several characters joins come apart at its first character**, each but the first with the
  rest of the separator in front (`splitOn_intercalate`);
- a text without white space at its ends is trimmed already (`trim_of_ends`), and trimming adds nothing
  (`mem_of_mem_trim`).
-/

namespace RuleExpr.Text

variable {p : Char → Bool} {c : Char} {cs : List Char}

/-! ## Cutting -/

/-- A text without the character is not cut. -/
theorem cutAt_of_forall (h : ∀ c ∈ cs, p c = false) : cutAt p cs = (cs, none) := by
  have hd : cs.dropWhile (fun c => !p c) = [] := List.dropWhile_eq_nil_iff.2 fun c hc => by simp [h c hc]
  simp only [cutAt, hd]

/-- A text is cut at the first character that is accepted. -/
theorem cutAt_append {d : Char} {rest : List Char} (h : ∀ c ∈ cs, p c = false) (hd : p d = true) :
    cutAt p (cs ++ d :: rest) = (cs, some rest) := by
  have hs : ∀ c ∈ cs, (!p c) = true := fun c hc => by simp [h c hc]
  simp only [cutAt, List.dropWhile_append_of_pos hs, List.takeWhile_append_of_pos hs]
  simp [hd]

/-- A text is cut nowhere, or at the first character that is accepted. -/
theorem cutAt_cases (p : Char → Bool) (cs : List Char) : cutAt p cs = (cs, none) ∨
    ∃ before d after, p d = true ∧ cs = before ++ d :: after ∧ cutAt p cs = (before, some after) := by
  cases h : cs.dropWhile (fun c => !p c) with
  | nil => exact .inl (by simp only [cutAt, h])
  | cons d after =>
    have happend := List.takeWhile_append_dropWhile (p := fun c => !p c) (l := cs)
    have hd := List.head?_dropWhile_not (fun c => !p c) cs
    rw [h] at happend hd
    exact .inr ⟨_, d, after, by simpa using hd, happend.symm, by simp only [cutAt, h]⟩

/-- What stands before the cut is not accepted. -/
theorem not_of_mem_cutAt {before after : List Char} (h : cutAt p cs = (before, some after)) (hc : c ∈ before) :
    p c = false := by
  unfold cutAt at h
  split at h
  · cases h
  · cases h
    simpa using List.mem_takeWhile_imp hc

/-! ## Splitting -/

section Split

variable {part : List Char}

theorem splitFrom_of_not_mem (h : c ∉ cs) (part : List Char) : splitFrom [c] part 0 cs = [part.reverse ++ cs] := by
  induction cs generalizing part with
  | nil => rw [splitFrom, List.append_nil]
  | cons d cs ih =>
    obtain ⟨hd, hc⟩ := not_or.1 (mt List.mem_cons.2 h)
    rw [splitFrom, if_neg (by simpa using hd), ih hc, List.reverse_cons, List.append_assoc, List.singleton_append]

theorem splitFrom_append {rest : List Char} (h : c ∉ cs) (part : List Char) :
    splitFrom [c] part 0 (cs ++ c :: rest) = (part.reverse ++ cs) :: splitOn [c] rest := by
  induction cs generalizing part with
  | nil => rw [List.nil_append, splitFrom, if_pos (by simp), List.append_nil]; rfl
  | cons d cs ih =>
    obtain ⟨hd, hc⟩ := not_or.1 (mt List.mem_cons.2 h)
    rw [List.cons_append, splitFrom, if_neg (by simpa using hd), ih hc, List.reverse_cons, List.append_assoc,
      List.singleton_append]

theorem splitFrom_ne_nil (sep part : List Char) (skip : Nat) (cs : List Char) : splitFrom sep part skip cs ≠ [] := by
  induction cs generalizing part skip with
  | nil => cases skip <;> exact List.cons_ne_nil _ _
  | cons d cs ih =>
    cases skip with
    | zero =>
      rw [splitFrom]
      split
      · exact List.cons_ne_nil _ _
      · exact ih _ _
    | succ skip => exact ih _ _

theorem intercalate_cons (sep first : List Char) (parts : List (List Char)) :
    sep.intercalate (first :: parts) = first ++ parts.flatMap (sep ++ ·) := by
  induction parts generalizing first with
  | nil => simp
  | cons second parts ih => rw [List.intercalate_cons_cons, ih, List.flatMap_cons, List.append_assoc, List.append_assoc]

theorem mem_of_mem_intercalate {sep : List Char} {parts : List (List Char)} (h : c ∈ sep.intercalate parts) :
    c ∈ sep ∨ ∃ part ∈ parts, c ∈ part := by
  cases parts with
  | nil => cases h
  | cons first parts =>
    rw [intercalate_cons] at h
    rcases List.mem_append.1 h with h | h
    · exact .inr ⟨first, List.mem_cons_self, h⟩
    · obtain ⟨part, hp, hc⟩ := List.mem_flatMap.1 h
      exact (List.mem_append.1 hc).imp_right fun hc => ⟨part, List.mem_cons_of_mem _ hp, hc⟩

/-- What parts that are not empty join to ends as one of them does. -/
theorem exists_getLast?_intercalate (sep : List Char) {first : List Char} {parts : List (List Char)}
    (h : ∀ part ∈ first :: parts, part ≠ []) :
    ∃ part ∈ first :: parts, (sep.intercalate (first :: parts)).getLast? = part.getLast? := by
  induction parts generalizing first with
  | nil => exact ⟨first, List.mem_cons_self, by rw [List.intercalate_singleton]⟩
  | cons second parts ih =>
    obtain ⟨part, hp, hlast⟩ := ih fun part hp => h part (List.mem_cons_of_mem _ hp)
    refine ⟨part, List.mem_cons_of_mem _ hp, ?_⟩
    rw [List.intercalate_cons_cons, List.getLast?_append, hlast,
      List.getLast?_eq_some_getLast (h part (List.mem_cons_of_mem _ hp)), Option.some_or]

/-- **The parts that a separator joins come apart at its first character**, each but the first with the rest of it. -/
theorem splitOn_intercalate {gap first : List Char} {parts : List (List Char)} (hgap : c ∉ gap)
    (h : ∀ part ∈ first :: parts, c ∉ part) :
    splitOn [c] ((c :: gap).intercalate (first :: parts)) = first :: parts.map (gap ++ ·) := by
  rw [intercalate_cons]
  induction parts generalizing first with
  | nil => exact (splitFrom_of_not_mem (by simpa using h) []).trans (by simp)
  | cons second parts ih =>
    obtain ⟨hfirst, hsecond, hparts⟩ := by simpa using h
    -- what is left of the separator is read with the part after it
    have hnext : ∀ part ∈ (gap ++ second) :: parts, c ∉ part := by simpa [hgap, hsecond] using hparts
    rw [List.flatMap_cons, List.cons_append, List.cons_append, splitOn, splitFrom_append hfirst, ih hnext]
    rfl

end Split

/-! ## Trimming -/

theorem isBlank_of_isDigit (h : c.isDigit = true) : isBlank c = false := by
  have hc : 48 ≤ c.toNat ∧ c.toNat ≤ 57 := by
    simp only [Char.isDigit, Bool.and_eq_true, decide_eq_true_eq] at h
    exact h
  simp only [isBlank, Bool.or_eq_false_iff, Bool.and_eq_false_iff, decide_eq_false_iff_not, beq_eq_false_iff_ne]
  omega

theorem dropWhile_isBlank (h : ∀ c ∈ cs.head?, isBlank c = false) : cs.dropWhile isBlank = cs := by
  cases cs with
  | nil => rfl
  | cons d cs => rw [List.dropWhile_cons, h d rfl]; rfl

/-- A text without white space at its ends is trimmed already. -/
theorem trim_of_ends (hh : ∀ c ∈ cs.head?, isBlank c = false) (hl : ∀ c ∈ cs.getLast?, isBlank c = false) :
    trim cs = cs := by
  rw [trim, dropWhile_isBlank hh, dropWhile_isBlank fun c hc => hl c (List.head?_reverse ▸ hc), List.reverse_reverse]

/-- A text without white space is trimmed already. -/
theorem trim_of_forall (h : ∀ c ∈ cs, isBlank c = false) : trim cs = cs :=
  trim_of_ends (fun c hc => h c (List.mem_of_mem_head? hc)) fun c hc => h c (List.mem_of_getLast? hc)

/-- Parts without white space that a separator joins have none at their ends. -/
theorem trim_intercalate (sep : List Char) {parts : List (List Char)} (hne : ∀ part ∈ parts, part ≠ [])
    (hb : ∀ part ∈ parts, ∀ c ∈ part, isBlank c = false) : trim (sep.intercalate parts) = sep.intercalate parts := by
  cases parts with
  | nil => rfl
  | cons first parts =>
    refine trim_of_ends (fun c hc => ?_) fun c hc => ?_
    · have hfirst := List.head?_eq_some_head (hne first List.mem_cons_self)
      rw [intercalate_cons, List.head?_append, hfirst, Option.some_or, ← hfirst] at hc
      exact hb first List.mem_cons_self c (List.mem_of_mem_head? hc)
    · obtain ⟨part, hp, hlast⟩ := exists_getLast?_intercalate sep hne
      exact hb part hp c (List.mem_of_getLast? (hlast ▸ hc))

/-- A text with white space around it is trimmed to it. -/
theorem trim_append {before after : List Char} (hb : ∀ c ∈ before ++ after, isBlank c = true)
    (hcs : ∀ c ∈ cs, isBlank c = false) (hne : cs ≠ []) : trim (before ++ cs ++ after) = cs := by
  obtain ⟨d, rest, rfl⟩ := List.exists_cons_of_ne_nil hne
  have hfront : (before ++ (d :: rest) ++ after).dropWhile isBlank = d :: rest ++ after := by
    rw [List.append_assoc, List.dropWhile_append_of_pos fun c hc => hb c (List.mem_append_left _ hc)]
    exact dropWhile_isBlank fun c hc => hcs c (by cases hc; exact List.mem_cons_self)
  have hback : (d :: rest ++ after).reverse.dropWhile isBlank = (d :: rest).reverse := by
    rw [List.reverse_append, List.dropWhile_append_of_pos fun c hc =>
      hb c (List.mem_append_right _ (List.mem_reverse.1 hc))]
    exact dropWhile_isBlank fun c hc => hcs c (List.mem_reverse.1 (List.mem_of_mem_head? hc))
  rw [trim, hfront, hback, List.reverse_reverse]

/-- What is trimmed off is white space. -/
theorem exists_trim (cs : List Char) : ∃ before after, cs = before ++ trim cs ++ after ∧
    ∀ c ∈ before ++ after, isBlank c = true := by
  refine ⟨cs.takeWhile isBlank, ((cs.dropWhile isBlank).reverse.takeWhile isBlank).reverse, ?_, ?_⟩
  · rw [trim, List.append_assoc, ← List.reverse_append, List.takeWhile_append_dropWhile, List.reverse_reverse,
      List.takeWhile_append_dropWhile]
  · intro c hc
    rcases List.mem_append.1 hc with hc | hc
    · exact List.mem_takeWhile_imp hc
    · exact List.mem_takeWhile_imp (List.mem_reverse.1 hc)

theorem trim_cons (h : isBlank c = true) (cs : List Char) : trim (c :: cs) = trim cs := by
  rw [trim, List.dropWhile_cons, if_pos h, trim]

theorem length_trim_le (cs : List Char) : (trim cs).length ≤ cs.length := by
  have hback := (List.dropWhile_sublist isBlank (l := (cs.dropWhile isBlank).reverse)).length_le
  rw [List.length_reverse] at hback
  rw [trim, List.length_reverse]
  exact hback.trans (List.dropWhile_sublist isBlank).length_le

theorem mem_of_mem_trim (h : c ∈ trim cs) : c ∈ cs := by
  have h := (List.dropWhile_sublist isBlank).mem (List.mem_reverse.1 h)
  exact (List.dropWhile_sublist isBlank).mem (List.mem_reverse.1 h)

end RuleExpr.Text
