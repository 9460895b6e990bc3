/-!
# Results of computations that may fail

How a result came about: what a value comes from (`map_eq_ok`, `bind_eq_ok`) and what a failure does
(`map_eq_error_iff`, `bind_eq_error`). A loop over a list whose steps give values gives what the list operation of the
same name gives for these values (`mapM_eq_ok`, `allM_eq_ok`, `findM?_eq_ok`). A loop that looks for an
element stops at the first one that it finds or fails at: `allM_eq_true_iff`, `allM_eq_error_iff` for the first that
a test does not hold for, and `findM?_eq_some_iff`, `findM?_eq_none_iff`, `findM?_eq_error_iff` for the first that it
holds for.
-/

namespace RuleExpr

variable {ε α β : Type}

/-- A result that comes from another one. -/
theorem map_eq_ok {x : Except ε α} {f : α → β} {b : β} (h : x.map f = .ok b) : ∃ a, x = .ok a ∧ f a = b := by
  cases x with
  | error e => cases h
  | ok a => exact ⟨a, rfl, Except.ok.inj h⟩

theorem map_eq_error_iff {x : Except ε α} {f : α → β} {e : ε} : x.map f = .error e ↔ x = .error e := by
  cases x with
  | error _ => exact ⟨fun h => congrArg Except.error (Except.error.inj h), fun h => h ▸ rfl⟩
  | ok a => exact ⟨nofun, nofun⟩

/-- A result that needs another one before it. -/
theorem bind_eq_ok {x : Except ε α} {f : α → Except ε β} {b : β} (h : x >>= f = .ok b) :
    ∃ a, x = .ok a ∧ f a = .ok b := by
  cases x with
  | error e => cases h
  | ok a => exact ⟨a, rfl, h⟩

theorem bind_eq_error {x : Except ε α} {f : α → Except ε β} {e : ε} (h : x >>= f = .error e) :
    x = .error e ∨ ∃ a, x = .ok a ∧ f a = .error e := by
  cases x with
  | error _ => exact .inl (congrArg Except.error (Except.error.inj h))
  | ok a => exact .inr ⟨a, rfl, h⟩

/-! ## Loops whose steps give values -/

theorem mapM_eq_ok {f : α → Except ε β} {g : α → β} {l : List α} (h : ∀ a ∈ l, f a = .ok (g a)) :
    l.mapM f = .ok (l.map g) := by
  induction l with
  | nil => rfl
  | cons a l ih =>
    obtain ⟨ha, hl⟩ := List.forall_mem_cons.1 h
    rw [List.mapM_cons, ha, ih hl]
    rfl

/-- A loop fails as one of its steps does. -/
theorem anyM_eq_error {f : α → Except ε Bool} {l : List α} {e : ε} (h : l.anyM f = .error e) :
    ∃ a ∈ l, f a = .error e := by
  induction l with
  | nil => cases h
  | cons a l ih =>
    rw [List.anyM_cons] at h
    rcases bind_eq_error h with ha | ⟨b, -, h⟩
    · exact ⟨a, List.mem_cons_self, ha⟩
    · cases b with
      | true => cases h
      | false =>
        obtain ⟨b, hb, he⟩ := ih h
        exact ⟨b, List.mem_cons_of_mem a hb, he⟩

theorem allM_eq_ok {f : α → Except ε Bool} {g : α → Bool} {l : List α} (h : ∀ a ∈ l, f a = .ok (g a)) :
    l.allM f = .ok (l.all g) := by
  induction l with
  | nil => rfl
  | cons a l ih =>
    obtain ⟨ha, hl⟩ := List.forall_mem_cons.1 h
    rw [List.allM_cons, ha, ih hl, List.all_cons]
    cases g a <;> rfl

theorem findM?_eq_ok {f : α → Except ε Bool} {g : α → Bool} {l : List α} (h : ∀ a ∈ l, f a = .ok (g a)) :
    l.findM? f = .ok (l.find? g) := by
  induction l with
  | nil => rfl
  | cons a l ih =>
    obtain ⟨ha, hl⟩ := List.forall_mem_cons.1 h
    show (f a >>= _) = _
    rw [ha, List.find?_cons]
    cases g a with
    | true => rfl
    | false => exact ih hl

/-! ## Loops that stop at an element -/

section First

variable {f g : α → Except ε Bool} {l : List α} {a b : α} {e : ε}

/-- An element is the first of a list, or comes after the first. -/
theorem exists_append_cons_iff {P : α → Prop} :
    (∃ before after, b :: l = before ++ a :: after ∧ ∀ c ∈ before, P c) ↔
      b = a ∨ P b ∧ ∃ before after, l = before ++ a :: after ∧ ∀ c ∈ before, P c := by
  constructor
  · rintro ⟨before, after, h, hb⟩
    cases before with
    | nil => exact .inl (List.cons.inj h).1
    | cons c before =>
      obtain ⟨rfl, rfl⟩ := List.cons.inj h
      obtain ⟨hc, hb⟩ := List.forall_mem_cons.1 hb
      exact .inr ⟨hc, before, after, rfl, hb⟩
  · rintro (rfl | ⟨hb, before, after, rfl, h⟩)
    · exact ⟨[], l, rfl, List.forall_mem_nil _⟩
    · exact ⟨b :: before, after, rfl, List.forall_mem_cons.2 ⟨hb, h⟩⟩

/-- There is such an element at the front of a list, or after the front. -/
theorem exists_first_cons_iff {P Q : α → Prop} :
    (∃ a, Q a ∧ ∃ before after, b :: l = before ++ a :: after ∧ ∀ c ∈ before, P c) ↔
      Q b ∨ P b ∧ ∃ a, Q a ∧ ∃ before after, l = before ++ a :: after ∧ ∀ c ∈ before, P c := by
  simp only [exists_append_cons_iff]
  constructor
  · rintro ⟨a, ha, rfl | ⟨hb, h⟩⟩
    · exact .inl ha
    · exact .inr ⟨hb, a, ha, h⟩
  · rintro (hb | ⟨hb, a, ha, h⟩)
    · exact ⟨b, hb, .inl rfl⟩
    · exact ⟨a, ha, .inr ⟨hb, h⟩⟩

/-- The front of a list is what comes before an index. -/
theorem exists_first_iff_getElem? {P : α → Prop} :
    (∃ before after, l = before ++ a :: after ∧ ∀ b ∈ before, P b) ↔
      ∃ i : Nat, l[i]? = some a ∧ ∀ (j : Nat) (b : α), j < i → l[j]? = some b → P b := by
  constructor
  · rintro ⟨before, after, rfl, h⟩
    refine ⟨before.length, by simp, fun j b hj hb => h b ?_⟩
    rw [List.getElem?_append_left hj] at hb
    exact List.mem_of_getElem? hb
  · rintro ⟨i, hi, h⟩
    obtain ⟨hlt, rfl⟩ := List.getElem?_eq_some_iff.1 hi
    refine ⟨l.take i, l.drop (i + 1), by rw [List.getElem_cons_drop, List.take_append_drop], fun b hb => ?_⟩
    obtain ⟨j, hj⟩ := List.getElem?_of_mem hb
    rw [List.getElem?_take] at hj
    split at hj
    · next hji => exact h j b hji hj
    · cases hj

/-! ### Until a test does not hold -/

theorem allM_congr (h : ∀ a ∈ l, f a = g a) : l.allM f = l.allM g := by
  induction l with
  | nil => rfl
  | cons a l ih =>
    obtain ⟨ha, hl⟩ := List.forall_mem_cons.1 h
    rw [List.allM_cons, List.allM_cons, ha, ih hl]

theorem allM_cons_of_error (h : f b = .error e) : (b :: l).allM f = .error e := by
  rw [List.allM_cons, h]
  rfl

theorem allM_cons_of_ok {r : Bool} (h : f b = .ok r) : (b :: l).allM f = if r then l.allM f else .ok false := by
  rw [List.allM_cons, h]
  rfl

theorem allM_eq_true_iff : l.allM f = .ok true ↔ ∀ a ∈ l, f a = .ok true := by
  induction l with
  | nil => exact iff_of_true rfl (List.forall_mem_nil _)
  | cons b l ih =>
    rw [List.forall_mem_cons, ← ih]
    match hb : f b with
    | .error e =>
      rw [allM_cons_of_error hb]
      exact iff_of_false nofun nofun
    | .ok false =>
      rw [allM_cons_of_ok hb]
      exact iff_of_false nofun nofun
    | .ok true =>
      rw [allM_cons_of_ok hb]
      exact (and_iff_right rfl).symm

/-- A test of all elements comes out if it does for every element. -/
theorem exists_allM_eq_ok (h : ∀ a ∈ l, ∃ r, f a = .ok r) : ∃ r, l.allM f = .ok r := by
  induction l with
  | nil => exact ⟨true, rfl⟩
  | cons a l ih =>
    obtain ⟨⟨r, ha⟩, hl⟩ := List.forall_mem_cons.1 h
    rw [allM_cons_of_ok ha]
    cases r with
    | false => exact ⟨false, rfl⟩
    | true => exact ih hl

/-- A test of all elements fails where it fails for the first that it does not hold for. -/
theorem allM_eq_error_iff : l.allM f = .error e ↔
    ∃ a, f a = .error e ∧ ∃ before after, l = before ++ a :: after ∧ ∀ b ∈ before, f b = .ok true := by
  induction l with
  | nil => exact iff_of_false nofun (by simp)
  | cons b l ih =>
    rw [exists_first_cons_iff, ← ih]
    match hb : f b with
    | .error e' =>
      rw [allM_cons_of_error hb]
      exact ⟨.inl, fun h => h.resolve_right nofun⟩
    | .ok false =>
      rw [allM_cons_of_ok hb]
      exact iff_of_false nofun (by simp)
    | .ok true =>
      rw [allM_cons_of_ok hb]
      exact ⟨fun h => .inr ⟨rfl, h⟩, fun h => (h.resolve_left nofun).2⟩

/-! ### Until a test holds -/

theorem findM?_cons_of_error (h : f b = .error e) : (b :: l).findM? f = .error e := by
  show (f b >>= _) = _
  rw [h]
  rfl

theorem findM?_cons_of_ok {r : Bool} (h : f b = .ok r) :
    (b :: l).findM? f = if r then .ok (some b) else l.findM? f := by
  show (f b >>= _) = _
  rw [h]
  cases r <;> rfl

/-- The element that is found is the first that the test holds for. -/
theorem findM?_eq_some_iff : l.findM? f = .ok (some a) ↔
    f a = .ok true ∧ ∃ before after, l = before ++ a :: after ∧ ∀ b ∈ before, f b = .ok false := by
  induction l with
  | nil => exact iff_of_false nofun (by simp)
  | cons b l ih =>
    rw [exists_append_cons_iff]
    match hb : f b with
    | .error e' =>
      rw [findM?_cons_of_error hb]
      refine iff_of_false nofun ?_
      rintro ⟨ha, rfl | ⟨h, -⟩⟩
      · rw [hb] at ha
        cases ha
      · cases h
    | .ok false =>
      rw [findM?_cons_of_ok hb, if_neg Bool.false_ne_true, ih]
      refine and_congr_right fun ha => ⟨fun h => .inr ⟨rfl, h⟩, fun h => (h.resolve_left ?_).2⟩
      rintro rfl
      rw [hb] at ha
      cases ha
    | .ok true =>
      rw [findM?_cons_of_ok hb, if_pos rfl, Except.ok.injEq, Option.some.injEq]
      refine ⟨?_, fun h => h.2.resolve_right nofun⟩
      rintro rfl
      exact ⟨hb, .inl rfl⟩

/-- Elements that are left out are elements that the test does not hold for. -/
theorem findM?_filter (p : α → Bool) : (l.filter p).findM? f = l.findM? fun a => if p a then f a else .ok false := by
  induction l with
  | nil => rfl
  | cons b l ih =>
    rw [List.filter_cons]
    cases hb : p b with
    | false =>
      rw [if_neg Bool.false_ne_true, ih]
      exact (findM?_cons_of_ok (r := false) (by rw [hb]; rfl)).symm
    | true =>
      show (f b >>= _) = ((if p b = true then f b else .ok false) >>= _)
      rw [hb, if_pos rfl]
      match f b with
      | .error _ | .ok true => rfl
      | .ok false => exact ih

theorem findM?_eq_none_iff : l.findM? f = .ok none ↔ ∀ a ∈ l, f a = .ok false := by
  induction l with
  | nil => exact iff_of_true rfl (List.forall_mem_nil _)
  | cons b l ih =>
    rw [List.forall_mem_cons, ← ih]
    match hb : f b with
    | .error e =>
      rw [findM?_cons_of_error hb]
      exact iff_of_false nofun nofun
    | .ok false =>
      rw [findM?_cons_of_ok hb]
      exact (and_iff_right rfl).symm
    | .ok true =>
      rw [findM?_cons_of_ok hb]
      exact iff_of_false nofun nofun

/-- A search fails where its test fails, if it holds for no element before. -/
theorem findM?_eq_error_iff : l.findM? f = .error e ↔
    ∃ a, f a = .error e ∧ ∃ before after, l = before ++ a :: after ∧ ∀ b ∈ before, f b = .ok false := by
  induction l with
  | nil => exact iff_of_false nofun (by simp)
  | cons b l ih =>
    rw [exists_first_cons_iff, ← ih]
    match hb : f b with
    | .error e' =>
      rw [findM?_cons_of_error hb]
      refine ⟨fun h => .inl (congrArg _ (Except.error.inj h)), fun h => ?_⟩
      exact congrArg _ (Except.error.inj (h.resolve_right nofun))
    | .ok false =>
      rw [findM?_cons_of_ok hb]
      exact ⟨fun h => .inr ⟨rfl, h⟩, fun h => (h.resolve_left nofun).2⟩
    | .ok true =>
      rw [findM?_cons_of_ok hb]
      exact iff_of_false nofun (by simp)

/-- A search whose test fails nowhere finds an element if there is one that the test holds for. -/
theorem exists_findM?_eq_some (h : ∀ a ∈ l, ∃ r, f a = .ok r) (hb : b ∈ l) (hf : f b = .ok true) :
    ∃ a, l.findM? f = .ok (some a) := by
  match hl : l.findM? f with
  | .ok (some a) => exact ⟨a, rfl⟩
  | .ok none =>
    have hnone := findM?_eq_none_iff.1 hl b hb
    rw [hf] at hnone
    cases hnone
  | .error e =>
    obtain ⟨a, ha, before, after, rfl, -⟩ := findM?_eq_error_iff.1 hl
    obtain ⟨r, hr⟩ := h a (List.mem_append_right before List.mem_cons_self)
    rw [ha] at hr
    cases hr

end First

end RuleExpr
