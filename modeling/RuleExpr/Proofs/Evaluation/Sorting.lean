import RuleExpr.Proofs.Builtin.Sorting
import RuleExpr.Proofs.Evaluation.Iteration
import RuleExpr.Proofs.Evaluation.Operations

/-!
# Sorting in an interpreter

Sorting by a body takes the keys of the elements one after the other, and then sorts as by any other key. So it fails
with the first key that cannot be had (`Iterator.keyedItems_of_error`), and else sorts stably
(`Iterator.sortBy_of_keys`).

- **Sorting is a stable sort or an error**, by the elements themselves as well as by a body
  (`Interpreter.sorts_stably`).
-/

namespace RuleExpr

/-! ## Keys -/

namespace Iterator

variable {value : Token → Except Error Token} {function : String} {kind : Kind} {items pre post : List Token}
  {t k : Token} {e : Error}

theorem accepts_of_keyAt (h : keyAt value function kind t = .ok k) : kind.accepts k.kind = true := by
  obtain ⟨key, -, hkey⟩ := bind_eq_ok h
  split at hkey
  · next haccepts => exact Except.ok.inj hkey ▸ haccepts
  · cases hkey

theorem keyAt_of_ok (hk : value t = .ok k) (ha : kind.accepts k.kind = true) : keyAt value function kind t = .ok k := by
  rw [keyAt, hk]
  exact if_pos ha

theorem keyedItems_of_keys (key : Token → Token) (h : ∀ t ∈ items, keyAt value function kind t = .ok (key t)) :
    keyedItems value function kind items = .ok (items.map fun t => (key t, t)) :=
  mapM_eq_ok fun t ht => by rw [h t ht]; rfl

/-- The first key that cannot be had is the end. -/
theorem keyedItems_of_error (hpre : ∀ u ∈ pre, ∃ k, keyAt value function kind u = .ok k)
    (he : keyAt value function kind t = .error e) :
    keyedItems value function kind (pre ++ t :: post) = .error e := by
  rw [keyedItems]
  induction pre with
  | nil =>
    rw [List.nil_append, List.mapM_cons, he]
    rfl
  | cons u pre ih =>
    obtain ⟨⟨k, hk⟩, hpre⟩ := List.forall_mem_cons.1 hpre
    rw [List.cons_append, List.mapM_cons, hk, ih hpre]
    rfl

/-- Either all keys can be had, or there is a first that cannot. -/
theorem keys_or_error (key : Token → Except Error Token) (items : List Token) :
    (∃ k : Token → Token, ∀ t ∈ items, key t = .ok (k t)) ∨
      ∃ pre t post e, items = pre ++ t :: post ∧ (∀ u ∈ pre, ∃ k, key u = .ok k) ∧ key t = .error e := by
  induction items with
  | nil => exact .inl ⟨id, List.forall_mem_nil _⟩
  | cons t items ih =>
    cases ht : key t with
    | error e => exact .inr ⟨[], t, items, e, rfl, List.forall_mem_nil _, ht⟩
    | ok v =>
      rcases ih with ⟨k, hk⟩ | ⟨pre, u, post, e, rfl, hpre, he⟩
      · have hget (u w : Token) (hw : key u = .ok w) : key u = .ok ((key u).toOption.getD .null) := by
          rw [hw]
          rfl
        exact .inl ⟨_, List.forall_mem_cons.2 ⟨hget t v ht, fun u hu => hget u _ (hk u hu)⟩⟩
      · exact .inr ⟨t :: pre, u, post, e, rfl, List.forall_mem_cons.2 ⟨⟨v, ht⟩, hpre⟩, he⟩

/-- The iterators that sort, each with the kind that the keys have to be of. -/
def sorters : List (Iterator × Kind) := [(sortByNumber, Kind.decimal), (sortByString, Kind.string)]

variable {op : Iterator}

theorem outcome_sorters (h : (op, kind) ∈ sorters) (items : List Token) : op.outcome value items =
    (keyedItems value (Binder.iterator op).name kind items).map fun keyed => .list (sortKeyed keyed) := by
  simp only [sorters, List.mem_cons, Prod.mk.injEq, List.not_mem_nil, or_false] at h
  rcases h with ⟨rfl, rfl⟩ | ⟨rfl, rfl⟩ <;> rfl

/-- Where all keys can be had, the elements are sorted stably by them. -/
theorem sortBy_of_keys (h : (op, kind) ∈ sorters) (key : Token → Token)
    (hkey : ∀ t ∈ items, keyAt value (Binder.iterator op).name kind t = .ok (key t)) :
    ∃ sorted, op.outcome value items = .ok (.list sorted) ∧ StablySorted key items sorted := by
  have hkind : kind ∈ Kind.ordered := by
    simp only [sorters, List.mem_cons, Prod.mk.injEq, List.not_mem_nil, or_false] at h
    rcases h with ⟨-, rfl⟩ | ⟨-, rfl⟩ <;> simp [Kind.ordered]
  refine ⟨_, ?_, stablySorted_mergeSort hkind fun t ht => Kind.ordered_accepts hkind (accepts_of_keyAt (hkey t ht))⟩
  rw [outcome_sorters h, keyedItems_of_keys key hkey, ← sortKeyed_map]
  rfl

theorem sortBy_of_error (h : (op, kind) ∈ sorters)
    (hpre : ∀ u ∈ pre, ∃ k, keyAt value (Binder.iterator op).name kind u = .ok k)
    (he : keyAt value (Binder.iterator op).name kind t = .error e) :
    op.outcome value (pre ++ t :: post) = .error e := by
  rw [outcome_sorters h, keyedItems_of_error hpre he]
  rfl

/-- Sorting fails exactly where some key cannot be had. -/
theorem sortBy_eq_error_iff (h : (op, kind) ∈ sorters) : (∃ e, op.outcome value items = .error e) ↔
    ∃ t ∈ items, ∃ e, keyAt value (Binder.iterator op).name kind t = .error e := by
  rcases keys_or_error (keyAt value (Binder.iterator op).name kind) items with
    ⟨k, hk⟩ | ⟨pre, t, post, e, rfl, hpre, he⟩
  · obtain ⟨sorted, hsorted, -⟩ := sortBy_of_keys h k hk
    refine iff_of_false ?_ ?_
    · rintro ⟨e, he⟩
      rw [hsorted] at he
      cases he
    · rintro ⟨t, ht, e, he⟩
      rw [hk t ht] at he
      cases he
  · exact iff_of_true ⟨e, sortBy_of_error h hpre he⟩ ⟨t, List.mem_append_right pre List.mem_cons_self, e, he⟩

end Iterator

/-! ## In an interpreter -/

namespace Interpreter

/-- **Sorting is a stable sort or an error.** A list is sorted by its elements if they are of one ordered kind or there
are none, and else refused for the kind of an element. By a body it is sorted if every element has a key, the value of
the body in a new scope that has the element; else the first key that cannot be had is the failure. -/
theorem sorts_stably (i : Interpreter) (depth : Nat) (items : List Token) :
    (Offers i.chain "sort" →
      let result := i.run (RuleExpr.evaluate (depth + 1) (.block "sort" [.list items]))
      (Comparable items → ∃ sorted, result = (.ok (.list sorted), i) ∧ StablySorted id items sorted) ∧
        (¬ Comparable items → ∃ e, result = (.error e, i) ∧ e.kind = .kindMismatch)) ∧
    ∀ op kind, (op, kind) ∈ Iterator.sorters → ∀ (p : Spelling) (name : String) (body : Token), p.Binds name →
      Offers i.chain (Binder.iterator op).name →
      let result := i.run (RuleExpr.evaluate (depth + 1) (p.call (Binder.iterator op).name (.list items) name body))
      let key := Iterator.keyAt (i.valueIn depth name body) (Binder.iterator op).name kind
      (∀ k : Token → Token, (∀ t ∈ items, key t = .ok (k t)) →
        ∃ sorted, result = (.ok (.list sorted), i) ∧ StablySorted k items sorted) ∧
      (∀ pre t post e, items = pre ++ t :: post → (∀ u ∈ pre, ∃ k, key u = .ok k) → key t = .error e →
        ∃ text, result = (.error (.call text e), i)) ∧
      ((∃ e, result.1 = .error e) ↔ ∃ t ∈ items, ∃ e, key t = .error e) := by
  refine ⟨fun h => ?sort, fun op kind hop p name body hname h => ?keyed⟩
  case sort =>
    intro result
    obtain ⟨text, hcall⟩ := ListFunction.sort.run_call h depth items
    have hresult : result = (((ListOperation.sorted "sort" items).map Token.list).mapError (.call text), i) := hcall
    rw [hresult]
    constructor
    · intro hitems
      obtain ⟨sorted, hsorted, hstable⟩ := ListOperation.sorted_of_comparable "sort" hitems
      rw [hsorted]
      exact ⟨sorted, rfl, hstable⟩
    · intro hitems
      obtain ⟨expected, found, he⟩ := ListOperation.sorted_of_not_comparable "sort" hitems
      rw [he]
      exact ⟨_, rfl, rfl⟩
  case keyed =>
    intro result key
    obtain ⟨text, hcall⟩ := evaluate_call_of_binds (c := ⟨i.config, i.parents⟩) (s := i.scope) h hname body
    have hresult : result = ((op.outcome (i.valueIn depth name body) items).mapError (.call text), i) := by
      rw [valueIn_eq]
      exact run_steady (hcall depth items)
    rw [hresult]
    refine ⟨fun k hk => ?_, fun pre t post e hitems hpre he => ?_, ?_⟩
    · obtain ⟨sorted, hsorted, hstable⟩ := Iterator.sortBy_of_keys hop k hk
      rw [hsorted]
      exact ⟨sorted, rfl, hstable⟩
    · rw [hitems, Iterator.sortBy_of_error hop hpre he]
      exact ⟨text, rfl⟩
    · rw [← Iterator.sortBy_eq_error_iff hop]
      cases op.outcome (i.valueIn depth name body) items <;> simp [Except.mapError]

/-- Times of one instant keep their order, whatever their offsets; numbers beside strings are refused; and a body is
evaluated for each element. -/
theorem sorts_stably_instants :
    let noon : Token := .time ⟨0, ⟨43200, 0⟩, 0⟩
    let eastern : Token := .time ⟨0, ⟨43200, 0⟩, 3600⟩
    let midnight : Token := .time ⟨0, ⟨0, 0⟩, 0⟩
    let sort (items : List Token) := (root {}).run (RuleExpr.evaluate 2 (.block "sort" [.list items]))
    let read : Token := .block "." [.string "x"]
    Offers (root {}).chain "sort" ∧ Offers (root {}).chain "sortByNumber" ∧ Spelling.apart.Binds "x" ∧
      Comparable [noon, eastern, midnight] ∧ ¬ Comparable [.decimal 1, .string "1"] ∧
      (∃ sorted, sort [noon, eastern, midnight] = (.ok (.list sorted), root {}) ∧
        sorted.filter noon.ties = [noon, eastern]) ∧
      (∃ e, sort [.decimal 1, .string "1"] = (.error e, root {}) ∧ e.kind = .kindMismatch) ∧
      (∀ t ∈ [Token.decimal 2, .decimal 1], (root {}).valueIn 1 "x" read t = .ok t) ∧
      ∃ sorted, (root {}).run (RuleExpr.evaluate 2 (.block "sortByNumber" [.list [.decimal 2, .decimal 1],
        .string "x", read])) = (.ok (.list sorted), root {}) ∧ StablySorted id [.decimal 2, .decimal 1] sorted := by
  intro noon eastern midnight sort read
  have hc : HasCatalogue (root {}).chain := HasCatalogue.root {} (.map [])
  have hbinds : Spelling.apart.Binds "x" := nofun
  have htimes : Comparable [noon, eastern, midnight] :=
    .inr ⟨Kind.time, by simp [Kind.ordered], by simp [noon, eastern, midnight, Token.kind]⟩
  have hmixed : ¬ Comparable [.decimal 1, .string "1"] := by
    rintro (hnil | ⟨k, -, hkind⟩)
    · cases hnil
    · have hone := hkind (.decimal 1) (by simp)
      have htwo := hkind (.string "1") (by simp)
      exact absurd (hone.trans htwo.symm) (by decide)
  have hread : ∀ t ∈ [Token.decimal 2, .decimal 1], (root {}).valueIn 1 "x" read t = .ok t :=
    List.forall_mem_cons.2 ⟨by cbv, List.forall_mem_singleton.2 (by cbv)⟩
  obtain ⟨sorted, hsorted, hstable⟩ := ((sorts_stably (root {}) 1 [noon, eastern, midnight]).1 (hc.offers _)).1 htimes
  have hrefused := ((sorts_stably (root {}) 1 [.decimal 1, .string "1"]).1 (hc.offers _)).2 hmixed
  have hkeyed := ((sorts_stably (root {}) 1 [.decimal 2, .decimal 1]).2 .sortByNumber Kind.decimal
    List.mem_cons_self .apart "x" read hbinds (hc.offers _)).1 id fun t ht => ?_
  · exact ⟨hc.offers _, hc.offers _, hbinds, htimes, hmixed, ⟨sorted, hsorted, (hstable.stable noon).trans rfl⟩,
      hrefused, hread, hkeyed⟩
  · refine Iterator.keyAt_of_ok (hread t ht) ?_
    rcases List.mem_cons.1 ht with rfl | ht
    · rfl
    · rw [List.mem_singleton.1 ht]
      rfl

end Interpreter

end RuleExpr
