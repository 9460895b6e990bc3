import RuleExpr.Proofs.Scope

/-!
# Writes through a chain of scopes

Names are seen along the chain, and what a path leads to below a name is read inside one token (`readPath_cons_eq_ok`).
A write first copies the value that outer scopes have for the first name of its path and then updates the copy in the
scope (`writePath_cons_cases`). The copy is not seen, since it hides its original.

- **What is written is read back, and every path that parts from the written one reads as before**
  (`readPath_writePath`), wherever its value is bound;
- a write that fails in the second step leaves the copy behind. **It changes the binding exactly where it copies, and
  then by the copy alone; nothing reads differently** (`writePath_of_error`). That it changes nothing at all is false
  (`not_writePath_atomic`).
-/

namespace RuleExpr

open Token (at? Apart Diverge)

variable {chain parents : List Scope} {s s' : Scope} {first : String} {path p q : List String}
  {t value found : Token} {e : Error}

/-! ## What is read -/

/-- Reading inside a token follows the path, whatever led to the token. -/
theorem readSteps_eq_ok {walked : List String} : readSteps walked path t = .ok found ↔ at? path t = some found := by
  induction path generalizing walked t with
  | nil => simp [readSteps, at?]
  | cons segment path ih =>
    cases t with
    | map | list =>
      rw [readSteps, at?]
      cases Token.child? _ segment with
      | none => simp
      | some c => simpa using ih
    | _ => simp [readSteps, at?, Token.child?]

theorem readPath_cons_eq_ok :
    readPath chain (first :: path) = .ok found ↔ (lookup chain first).bind (at? path) = some found := by
  rw [readPath]
  cases lookup chain first with
  | none => simp
  | some t => simpa using readSteps_eq_ok

/-- Reading below the root depends on what is seen under names only. -/
theorem readPath_congr {chain' : List Scope} (h : ∀ key, lookup chain' key = lookup chain key) (hq : q ≠ []) :
    readPath chain' q = readPath chain q := by
  cases q with
  | nil => exact absurd rfl hq
  | cons first q => rw [readPath, readPath, h]

/-! ## The steps of a write -/

namespace Scope

/-- The first step leaves the binding as it is where nothing is copied, and otherwise adds the copy. -/
theorem binding_inherit (s : Scope) (parents : List Scope) (key : String) :
    ((s.inherit parents key).2.binding = s.binding ↔ s.copied? parents key = none) ∧
      ∀ v, s.copied? parents key = some v →
        Token.setAt [key] v s.binding = .ok (s.inherit parents key).2.binding := by
  obtain ⟨hi, hcopied, -⟩ | ⟨v, b, hc, hcopied, -, hb, hi⟩ | ⟨hclosed, e, hi⟩ := s.inherit_cases parents key
  · simp [hi, hcopied]
  · have hne : b ≠ s.binding := by
      intro he
      obtain ⟨c, -, hchild, -⟩ := Token.setAt_cons hb
      rw [he, hc] at hchild
      cases hchild
    simp [hi, hcopied, hb, hne]
  · simp [hi, copied?, hclosed]

/-- **The second step.** It updates the binding that the first has left, or fails and leaves it so. -/
theorem writePath_cons_cases (s : Scope) (parents : List Scope) (first : String) (path : List String) (value : Token) :
    (∃ s₁ b, s.inherit parents first = (.ok (), s₁) ∧ Token.setAt (first :: path) value s₁.binding = .ok b ∧
        s.writePath parents (first :: path) value = (.ok (), { s₁ with binding := b })) ∨
      ∃ e, s.writePath parents (first :: path) value = (.error e, (s.inherit parents first).2) := by
  cases hi : s.inherit parents first with
  | mk r s₁ =>
    cases r with
    | error e => exact .inr ⟨e, by rw [writePath, hi]⟩
    | ok _ =>
      have hw : s.writePath parents (first :: path) value = s₁.setAt (first :: path) value := by rw [writePath, hi]
      obtain ⟨b, hb, hs⟩ | ⟨e, -, hs⟩ := s₁.setAt_cases (first :: path) value
      · exact .inl ⟨s₁, b, rfl, hb, hw.trans hs⟩
      · exact .inr ⟨e, hw.trans hs⟩

end Scope

/-! ## Writes that succeed -/

/-- **What is seen after a write.** Under the first name it is the value seen before, updated at the rest of the path,
whichever scope had it; under the names that are apart from it nothing changes. -/
theorem lookup_writePath (h : s.writePath parents (first :: path) value = (.ok (), s')) :
    ∃ c, Token.setAt path value ((lookup (s :: parents) first).getD .null) = .ok c ∧
      lookup (s' :: parents) first = some c ∧
      ∀ key, Apart s.binding first key → lookup (s' :: parents) key = lookup (s :: parents) key := by
  obtain ⟨s₁, b, hi, hb, hw⟩ | ⟨e, hw⟩ := s.writePath_cons_cases parents first path value
  · cases hw.symm.trans h
    obtain ⟨hseen, hapart⟩ := Scope.child?_of_inherit hi
    obtain ⟨c, hc, hchild, hother, -⟩ := Token.setAt_cons hb
    rw [hseen] at hc
    refine ⟨c, hc, by simp [lookup_cons, hchild], fun key hk => ?_⟩
    have hcopy := s.lookup_inherit parents first key
    rw [hi] at hcopy
    rw [← hcopy, lookup_cons, lookup_cons, ← hother key (hapart first key hk)]
  · cases hw.symm.trans h

/-- The paths inside the token under a name part where those of the chain do. -/
theorem diverge_of_cons {common : List String} {a b : String} {p' q' : List String} (hab : a ≠ b)
    (hi : ∀ items, readPath chain (first :: common) = .ok (.list items) → Token.index? a ≠ Token.index? b)
    (ht : lookup chain first = some t) :
    Diverge (fun path c => at? path t = some c) (common ++ a :: p') (common ++ b :: q') := by
  refine ⟨common, a, b, p', q', rfl, rfl, hab, fun items hitems => hi items ?_⟩
  rw [readPath_cons_eq_ok, ht]
  exact hitems

/-- **What is written is read back, and what can be read at a path that parts from the written one is read there
afterwards.** -/
theorem readPath_writePath (h : s.writePath parents p value = (.ok (), s')) :
    readPath (s' :: parents) p = .ok value ∧
      ∀ q found, Diverge (fun path t => readPath (s :: parents) path = .ok t) p q →
        readPath (s :: parents) q = .ok found → readPath (s' :: parents) q = .ok found := by
  cases p with
  | nil =>
    cases h
    refine ⟨rfl, ?_⟩
    rintro q found ⟨common, a, b, p', q', hp, -⟩
    simp at hp
  | cons first path =>
    obtain ⟨c, hc, hnew, hother⟩ := lookup_writePath h
    refine ⟨?_, ?_⟩
    · rw [readPath_cons_eq_ok, hnew]
      exact Token.at?_setAt hc
    · rintro q found ⟨common, a, b, p', q', hp, rfl, hab, hi⟩ hq
      cases common with
      | nil =>
        -- another name: it is seen where it was, in this scope or further out
        obtain ⟨rfl, rfl⟩ := List.cons.inj hp
        have hapart : Apart s.binding first b := Token.apart_of_ne hab fun items hl => hi items (by simp [readPath, hl])
        rw [List.nil_append, readPath_cons_eq_ok] at hq ⊢
        rw [hother b hapart]
        exact hq
      | cons _ common =>
        -- the same name: its value is the one seen before, updated
        obtain ⟨rfl, rfl⟩ := List.cons.inj hp
        rw [List.cons_append, readPath_cons_eq_ok] at hq ⊢
        obtain ⟨t, ht, hfound⟩ := Option.bind_eq_some_iff.1 hq
        rw [ht] at hc
        rw [hnew]
        exact Token.at?_setAt_of_diverge hc (diverge_of_cons hab hi ht) hfound

/-- A list in an outer scope, to be updated from a new scope. -/
def cartScope : Scope := { binding := .map [("Cart", .map [("Items", .list [.decimal 1, .decimal 2])])] }

/-- The list is copied; its other element, which the path names by another index, is read as before. -/
theorem readPath_writePath_item :
    let s' : Scope := { binding := .map [("Cart", .map [("Items", .list [.decimal 3, .decimal 2])])] }
    Scope.writePath [cartScope] ["Cart", "Items", "00"] (.decimal 3) {} = (.ok (), s') ∧
      Diverge (fun path t => readPath [{}, cartScope] path = .ok t) ["Cart", "Items", "00"] ["Cart", "Items", "1"] ∧
      readPath [{}, cartScope] ["Cart", "Items", "1"] = .ok (.decimal 2) ∧
      readPath [s', cartScope] ["Cart", "Items", "00"] = .ok (.decimal 3) ∧
      readPath [s', cartScope] ["Cart", "Items", "1"] = .ok (.decimal 2) := by
  intro s'
  have hw : Scope.writePath [cartScope] ["Cart", "Items", "00"] (.decimal 3) {} = (.ok (), s') := rfl
  have hd : Diverge (fun path t => readPath [{}, cartScope] path = .ok t) ["Cart", "Items", "00"]
      ["Cart", "Items", "1"] := by
    refine ⟨["Cart", "Items"], "00", "1", [], [], rfl, rfl, by decide, fun items _ => ?_⟩
    have h0 : Token.index? "00" = some 0 := rfl
    have h1 : Token.index? "1" = some 1 := rfl
    simp [h0, h1]
  have hr : readPath [{}, cartScope] ["Cart", "Items", "1"] = .ok (.decimal 2) := rfl
  obtain ⟨hback, hframe⟩ := readPath_writePath hw
  exact ⟨hw, hd, hr, hback, hframe _ _ hd hr⟩

/-! ## Writes that fail -/

/-- **A write that fails changes the binding exactly where it copies a value of an outer scope, and then it adds that
copy and nothing else.** No path below the root reads differently. -/
theorem writePath_of_error (h : (s.writePath parents path value).1 = .error e) :
    ∃ first rest, path = first :: rest ∧
      ((s.writePath parents path value).2.binding = s.binding ↔ s.copied? parents first = none) ∧
      (∀ v, s.copied? parents first = some v →
        Token.setAt [first] v s.binding = .ok (s.writePath parents path value).2.binding) ∧
      ∀ q ≠ [], readPath ((s.writePath parents path value).2 :: parents) q = readPath (s :: parents) q := by
  cases path with
  | nil => cases h
  | cons first path =>
    obtain ⟨s₁, b, -, -, hw⟩ | ⟨e', hw⟩ := s.writePath_cons_cases parents first path value
    · rw [hw] at h
      cases h
    · obtain ⟨hsame, hcopy⟩ := s.binding_inherit parents first
      have hreads := fun q (hq : q ≠ []) => readPath_congr (s.lookup_inherit parents first) hq
      rw [hw]
      exact ⟨first, path, rfl, hsame, hcopy, hreads⟩

/-- A name that is a number in an outer scope has no name below it; the copy of the number stays. -/
theorem writePath_of_error_number :
    let outer : Scope := { binding := .map [("A", .decimal 1)] }
    let s : Scope := {}
    (s.writePath [outer] ["A", "B"] (.decimal 5)).1 = .error (.kindMismatch "B" Kind.collection Kind.decimal) ∧
      s.copied? [outer] "A" = some (.decimal 1) ∧
      (s.writePath [outer] ["A", "B"] (.decimal 5)).2.binding ≠ s.binding ∧
      readPath [(s.writePath [outer] ["A", "B"] (.decimal 5)).2, outer] ["A"] = readPath [s, outer] ["A"] := by
  intro outer s
  have he : (s.writePath [outer] ["A", "B"] (.decimal 5)).1 =
      .error (.kindMismatch "B" Kind.collection Kind.decimal) := rfl
  have hc : s.copied? [outer] "A" = some (.decimal 1) := rfl
  obtain ⟨first, rest, hp, hsame, -, hreads⟩ := writePath_of_error he
  cases hp
  refine ⟨he, hc, fun hb => ?_, hreads ["A"] (by decide)⟩
  rw [hsame.1 hb] at hc
  cases hc

/-- **A write that fails can change the binding.** -/
theorem not_writePath_atomic :
    ¬ ∀ (s : Scope) (parents : List Scope) (path : List String) (value : Token) (e : Error),
      (s.writePath parents path value).1 = .error e → (s.writePath parents path value).2.binding = s.binding := by
  intro h
  have hb := h {} [{ binding := .map [("A", .decimal 1)] }] ["A", "B"] (.decimal 5) _ rfl
  cases hb

end RuleExpr
