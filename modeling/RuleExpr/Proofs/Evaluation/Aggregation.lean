import RuleExpr.Proofs.Evaluation.Sorting
import RuleExpr.Proofs.Token.Equality

/-!
# Aggregates and the iterators

What is computed over a list in one step, and what an iterator computes over it with a body that only reads the element.

- Sums, the least and the greatest do not depend on the order of the decimals, and the least and the greatest are the
  ends of the sorted list (`evaluate_least`, `evaluate_greatest`).
- **Functions of a list and iterators over it agree** (`Interpreter.aggregates_agree`).
-/

namespace RuleExpr

/-! ## Sorted decimals -/

namespace ListOperation

variable {ds es : List Decimal} {d : Decimal} {wins : Ordering}

/-- What no later decimal beats wins, in whatever order the decimals are given. -/
theorem extreme_of_pairwise (hw : wins ≠ .eq) (function : String) (hperm : es.Perm ds)
    (h : es.Pairwise fun a b => b.compare a ≠ wins) (hds : ds ≠ []) :
    ∃ d rest, es = d :: rest ∧ extreme function wins ds = .ok (.decimal d) := by
  cases es with
  | nil => exact absurd hperm.nil_eq.symm hds
  | cons d rest =>
    have hwins : Wins wins (d :: rest) d :=
      ⟨List.mem_cons_self, List.forall_mem_cons.2 ⟨Decimal.unbeaten_refl hw d, (List.pairwise_cons.1 h).1⟩⟩
    exact ⟨d, rest, rfl, extreme_of_wins hw function (hwins.perm hperm)⟩

theorem comparable_decimals (ds : List Decimal) : Comparable (ds.map .decimal) :=
  .inr ⟨Kind.decimal, by simp [Kind.ordered], List.forall_mem_map.2 fun _ _ => rfl⟩

/-- A list of decimals is sorted as decimals are. -/
theorem sorted_decimals (function : String) (ds : List Decimal) : ∃ es : List Decimal,
    sorted function (ds.map .decimal) = .ok (es.map .decimal) ∧ es.Perm ds ∧
      es.Pairwise fun a b => a.compare b ≠ .gt := by
  obtain ⟨items, hsorted, hstable⟩ := sorted_of_comparable function (comparable_decimals ds)
  have hkind : ∀ t ∈ items, t.kind = Kind.decimal := by
    intro t ht
    obtain ⟨d, -, rfl⟩ := List.mem_map.1 (hstable.perm.mem_iff.1 ht)
    rfl
  obtain ⟨es, rfl⟩ := exists_decimals hkind
  have hperm : es.Perm ds := (List.map_perm_map_iff fun _ _ h => Token.decimal.inj h).1 hstable.perm
  refine ⟨es, hsorted, hperm, (List.pairwise_map.1 hstable.ascending).imp fun {a b} hle hgt => ?_⟩
  rw [id, id, Token.atMost, Token.compareAtoms, hgt] at hle
  cases hle

end ListOperation

/-! ## Functions of decimals -/

namespace ListFunction

open ListOperation (total extreme)

theorem run_sum (ds : List Decimal) : sum.op.run [.list (ds.map .decimal)] = .ok (.decimal (total ds)) := by
  show Except.map _ (ListOperation.decimals "sum" (ds.map .decimal)) = _
  rw [ListOperation.decimals_map]
  rfl

theorem run_least (ds : List Decimal) : least.op.run [.list (ds.map .decimal)] = extreme "min" .lt ds := by
  show ListOperation.extremeOf "min" .lt (ds.map .decimal) = _
  rw [ListOperation.extremeOf, ListOperation.decimals_map]
  rfl

theorem run_greatest (ds : List Decimal) : greatest.op.run [.list (ds.map .decimal)] = extreme "max" .gt ds := by
  show ListOperation.extremeOf "max" .gt (ds.map .decimal) = _
  rw [ListOperation.extremeOf, ListOperation.decimals_map]
  rfl

/-- **What aggregates compute does not depend on the order.** -/
theorem run_perm {ds es : List Decimal} (h : ds.Perm es) : ∀ f ∈ [sum, least, greatest],
    f.op.run [.list (ds.map .decimal)] = f.op.run [.list (es.map .decimal)] := by
  intro f hf
  simp only [List.mem_cons, List.not_mem_nil, or_false] at hf
  rcases hf with rfl | rfl | rfl
  · rw [run_sum, run_sum, ListOperation.total_perm h]
  · rw [run_least, run_least, ListOperation.extreme_perm (by decide) _ h]
  · rw [run_greatest, run_greatest, ListOperation.extreme_perm (by decide) _ h]

/-- They have a value for any decimals at all. -/
theorem exists_run {ds : List Decimal} (hds : ds ≠ []) : ∀ f ∈ [sum, least, greatest],
    ∃ v, f.op.run [.list (ds.map .decimal)] = .ok v := by
  intro f hf
  simp only [List.mem_cons, List.not_mem_nil, or_false] at hf
  rcases hf with rfl | rfl | rfl
  · exact ⟨_, run_sum ds⟩
  · obtain ⟨d, hd, -⟩ := ListOperation.exists_extreme (by decide : Ordering.lt ≠ .eq) "min" hds
    exact ⟨_, (run_least ds).trans hd⟩
  · obtain ⟨d, hd, -⟩ := ListOperation.exists_extreme (by decide : Ordering.gt ≠ .eq) "max" hds
    exact ⟨_, (run_greatest ds).trans hd⟩

end ListFunction

section Ends

variable {c : Context} {s : Scope} {ds : List Decimal}

open ListFunction

/-- Sorting gives decimals in ascending order. -/
theorem evaluate_sort (h : Offers (s :: c.parents) "sort") (ds : List Decimal) : ∃ es : List Decimal, es.Perm ds ∧
    es.Pairwise (fun a b => a.compare b ≠ .gt) ∧ ∀ depth,
      evaluate (depth + 1) (sort.call (.list (ds.map .decimal))) c s = (.ok (.list (es.map .decimal)), s) := by
  obtain ⟨es, hsorted, hperm, hascending⟩ := ListOperation.sorted_decimals "sort" ds
  refine ⟨es, hperm, hascending, fun depth => ?_⟩
  refine sort.evaluate_call_of_ok h (acceptsChild_list _ _) (evaluate_value rfl) ?_
  show Except.map _ (ListOperation.sorted "sort" (ds.map .decimal)) = _
  rw [hsorted]
  rfl

/-- **The least decimal is the first of the sorted ones.** -/
theorem evaluate_least (h : ∀ f : ListFunction, Offers (s :: c.parents) f.name) (hds : ds ≠ []) : ∃ d, ∀ depth,
    evaluate (depth + 1) (least.call (.list (ds.map .decimal))) c s = (.ok d, s) ∧
      evaluate (depth + 2) (ListFunction.head.call (sort.call (.list (ds.map .decimal)))) c s = (.ok d, s) := by
  obtain ⟨es, hperm, hascending, hsort⟩ := evaluate_sort (h sort) ds
  have hswap : es.Pairwise fun a b => b.compare a ≠ .lt := hascending.imp fun {a b} hgt hlt =>
    hgt (Decimal.compare_eq_gt_iff.2 (Decimal.compare_eq_lt_iff.1 hlt))
  obtain ⟨d, rest, rfl, hleast⟩ := ListOperation.extreme_of_pairwise (by decide) "min" hperm hswap hds
  refine ⟨.decimal d, fun depth => ⟨?_, ?_⟩⟩
  · exact least.evaluate_call_of_ok (h least) (acceptsChild_list _ _) (evaluate_value rfl)
      ((run_least ds).trans hleast)
  · exact ListFunction.head.evaluate_call_of_ok (h ListFunction.head)
      (sort.acceptsChild_call (h sort) list_accepts_list _) (hsort depth) rfl

/-- **The greatest decimal is the last of the sorted ones.** -/
theorem evaluate_greatest (h : ∀ f : ListFunction, Offers (s :: c.parents) f.name) (hds : ds ≠ []) : ∃ d, ∀ depth,
    evaluate (depth + 1) (greatest.call (.list (ds.map .decimal))) c s = (.ok d, s) ∧
      evaluate (depth + 3) (ListFunction.head.call (reverse.call (sort.call (.list (ds.map .decimal))))) c s =
        (.ok d, s) := by
  obtain ⟨es, hperm, hascending, hsort⟩ := evaluate_sort (h sort) ds
  obtain ⟨d, rest, hes, hgreatest⟩ := ListOperation.extreme_of_pairwise (by decide) "max"
    (es.reverse_perm.trans hperm) (List.pairwise_reverse.2 hascending) hds
  have hreversed : reverse.op.run [.list (es.map .decimal)] = .ok (.list (.decimal d :: rest.map .decimal)) := by
    show Except.ok (Token.list (es.map Token.decimal).reverse) = _
    rw [← List.map_reverse, hes]
    rfl
  refine ⟨.decimal d, fun depth => ⟨?_, ?_⟩⟩
  · exact greatest.evaluate_call_of_ok (h greatest) (acceptsChild_list _ _) (evaluate_value rfl)
      ((run_greatest ds).trans hgreatest)
  · have hreverse := reverse.evaluate_call_of_ok (h reverse)
      (sort.acceptsChild_call (h sort) list_accepts_list _) (hsort depth) hreversed
    exact ListFunction.head.evaluate_call_of_ok (h ListFunction.head)
      (reverse.acceptsChild_call (h reverse) list_accepts_list _) hreverse rfl

end Ends

/-! ## Bodies that read the element -/

section Bodies

variable {c : Context} {s : Scope} {depth : Nat} {name : String} {t v : Token}

theorem valueAt_reading (h : Offers (s :: c.parents) ".") (ht : t.isBlock = false) :
    (evaluate (depth + 1)).valueAt c s name (reading [name]) t = .ok t := by
  rw [Evaluator.valueAt, Evaluator.withValue_eq]
  exact congrArg Prod.fst (evaluate_reading (c := { c with parents := s :: c.parents }) (h.inner _)
    (readPath_bound _ name t) ht)

theorem valueAt_equal (h : Offers (s :: c.parents) ".") (hequal : Offers (s :: c.parents) "=")
    (ht : t.isBlock = false) (hv : v.isBlock = false) :
    Answers (t.looseEqual v) ((evaluate (depth + 2)).valueAt c s name (.block "=" [reading [name], v]) t) := by
  have hread : evaluate (depth + 1) (reading [name]) { c with parents := s :: c.parents }
      { binding := .map [(name, t)] } = (.ok t, _) := evaluate_reading (h.inner _) (readPath_bound _ name t) ht
  obtain ⟨r, hr, hanswers⟩ := evaluate_equal (c := { c with parents := s :: c.parents }) (hequal.inner _)
    (acceptsChild_reading (h.inner _) (by decide) _) (acceptsChild_value _ hv) hread (evaluate_value hv) ht hv
  rw [Evaluator.valueAt, Evaluator.withValue_eq]
  dsimp only
  rw [hr]
  exact hanswers

end Bodies

section Answers

variable {test : Except Error Bool} {r : Except Error Token} {v : Token} {items : List Token}

/-- A failure of a test is passed on with its cause. -/
theorem Answers.mapError (h : Answers test r) (text : String) : Answers test (r.mapError (.call text)) := by
  cases test with
  | ok b =>
    obtain rfl : r = .ok (.boolean b) := h
    rfl
  | error e =>
    obtain ⟨e', rfl, hroot⟩ := h
    exact ⟨_, rfl, hroot⟩

/-- Whether a value is among others stays open only where a string spells what is too large to be read. -/
theorem Token.isAmong_eq_error {e : Error} (h : v.isAmong items = .error e) :
    e = .overflow ∧ ∃ w, (v = .string w ∨ .string w ∈ items) ∧ Token.infer w = .error .overflow := by
  obtain ⟨t, ht, he⟩ := anyM_eq_error h
  obtain ⟨rfl, w, hw, hinfer⟩ := Token.looseEqual_eq_error he
  refine ⟨rfl, w, ?_, hinfer⟩
  rcases hw with rfl | rfl
  · exact .inr ht
  · exact .inl rfl

end Answers

namespace Iterator

variable {value : Token → Except Error Token} {items : List Token}

theorem outcome_map (h : ∀ t ∈ items, value t = .ok t) : map.outcome value items = .ok (.list items) := by
  rw [outcome, mapM_eq_ok (g := id) h, List.map_id]
  rfl

/-- By induction on the elements: a test that holds or fails decides, and one that does not hold leaves the rest. -/
theorem outcome_anyOf {q : Token → Except Error Bool} (h : ∀ t ∈ items, Answers (q t) (value t)) :
    Answers (items.anyM q) (anyOf.outcome value items) := by
  rw [outcome]
  induction items with
  | nil => rfl
  | cons t items ih =>
    obtain ⟨ht, hitems⟩ := List.forall_mem_cons.1 h
    rw [List.anyM_cons, List.anyM_cons, holdsAt]
    cases hq : q t with
    | error e =>
      rw [hq] at ht
      obtain ⟨e', he', hroot⟩ := ht
      rw [he']
      exact ⟨e', rfl, hroot⟩
    | ok b =>
      rw [hq] at ht
      obtain ht : value t = .ok (.boolean b) := ht
      rw [ht]
      cases b with
      | true => rfl
      | false => exact ih hitems

theorem outcome_sum {ds : List Decimal} (h : ∀ t ∈ ds.map Token.decimal, value t = .ok t) :
    sum.outcome value (ds.map .decimal) = .ok (.decimal (ListOperation.total ds)) := by
  have hdecimals : ∀ d ∈ ds, (decimalAt value ∘ Token.decimal) d = .ok (id d) := by
    intro d hd
    rw [Function.comp, decimalAt, h _ (List.mem_map_of_mem hd)]
    rfl
  rw [outcome, List.mapM_map, mapM_eq_ok hdecimals, List.map_id]
  rfl

/-- Both ways of sorting are stable, so they give the same. -/
theorem outcome_sortByNumber {ds : List Decimal} (h : ∀ t ∈ ds.map Token.decimal, value t = .ok t) :
    ∃ sorted, sortByNumber.outcome value (ds.map .decimal) = .ok (.list sorted) ∧
      ListFunction.sort.op.run [.list (ds.map .decimal)] = .ok (.list sorted) := by
  have hkeys : ∀ t ∈ ds.map Token.decimal, keyAt value "sortByNumber" Kind.decimal t = .ok (id t) := by
    intro t ht
    refine keyAt_of_ok (h t ht) ?_
    obtain ⟨d, -, rfl⟩ := List.mem_map.1 ht
    exact (by decide : Kind.decimal.accepts Kind.decimal = true)
  obtain ⟨sorted, hsorted, hstable⟩ := sortBy_of_keys List.mem_cons_self id hkeys
  obtain ⟨sorted', hsorted', hstable'⟩ :=
    ListOperation.sorted_of_comparable "sort" (ListOperation.comparable_decimals ds)
  refine ⟨sorted, hsorted, ?_⟩
  show Except.map _ (ListOperation.sorted "sort" (ds.map .decimal)) = _
  rw [hsorted', hstable'.unique hstable]
  rfl

end Iterator

namespace Interpreter

open ListFunction

/-- The names of the functions that are compared. -/
def aggregateNames : List String :=
  ListFunction.all.map ListFunction.name ++
    [".", "=", "contains", "notContains", "map", "exists", "sum", "sortByNumber"]

section Parts

variable {i : Interpreter} {l l' : List Token} {v : Token} {path : List String} {p : Spelling} {name : String}
  (h : ∀ head ∈ aggregateNames, Offers i.chain head) (depth : Nat)

include h

theorem offers_function (f : ListFunction) : Offers i.chain f.name :=
  h _ (List.mem_append_left _ (List.mem_map_of_mem f.mem_all))

theorem offers_iterator {op : Iterator} (hop : op ∈ [Iterator.map, .anyOf, .sum, .sortByNumber]) :
    Offers i.chain (Binder.iterator op).name := by
  refine h _ ?_
  simp only [List.mem_cons, List.not_mem_nil, or_false] at hop
  rcases hop with rfl | rfl | rfl | rfl <;> simp [aggregateNames, Binder.name]

theorem offers_read : Offers i.chain "." := h _ (by simp [aggregateNames])

/-- What a function gives for a list that stands in the call. -/
theorem run_literal (f : ListFunction) (hv : f.op.run [.list l] = .ok v) :
    i.run (RuleExpr.evaluate (depth + 1) (f.call (.list l))) = (.ok v, i) :=
  run_steady (f.evaluate_call_of_ok (c := ⟨i.config, i.parents⟩) (offers_function h f) (acceptsChild_list _ l)
    (evaluate_value rfl) hv)

theorem evaluate_path (hpath : readPath i.chain path = .ok (.list l)) :
    RuleExpr.evaluate (depth + 1) (reading path) ⟨i.config, i.parents⟩ i.scope = (.ok (.list l), i.scope) :=
  evaluate_reading (offers_read h) hpath rfl

theorem acceptsChild_path {k : Kind} (hk : k.accepts Kind.value = true) (path : List String) :
    acceptsChild i.chain k (reading path) = .ok true :=
  acceptsChild_reading (offers_read h) hk path

/-- What it gives for the list at a path. -/
theorem run_path (hpath : readPath i.chain path = .ok (.list l)) (f : ListFunction)
    (hv : f.op.run [.list l] = .ok v) : i.run (RuleExpr.evaluate (depth + 2) (f.call (reading path))) = (.ok v, i) :=
  run_steady (f.evaluate_call_of_ok (c := ⟨i.config, i.parents⟩) (offers_function h f)
    (acceptsChild_path h (by decide) path) (evaluate_path h depth hpath) hv)

/-- An iterator loops over it. -/
theorem run_loop {op : Iterator} (hop : op ∈ [Iterator.map, .anyOf, .sum, .sortByNumber])
    (hpath : readPath i.chain path = .ok (.list l)) (hname : p.Binds name) (body : Token) : ∃ text,
    i.run (RuleExpr.evaluate (depth + 2) (p.call (Binder.iterator op).name (reading path) name body)) =
      ((op.outcome ((RuleExpr.evaluate (depth + 1)).valueAt ⟨i.config, i.parents⟩ i.scope name body) l).mapError
        (.call text), i) := by
  obtain ⟨text, hcall⟩ := evaluate_iterator (c := ⟨i.config, i.parents⟩) (offers_iterator h hop) hname
    (acceptsChild_path h (by decide) path) (evaluate_path h depth hpath) body
  exact ⟨text, run_steady hcall⟩

/-- What an iterator gives for it. -/
theorem run_iterator {op : Iterator} {body : Token} (hop : op ∈ [Iterator.map, .anyOf, .sum, .sortByNumber])
    (hpath : readPath i.chain path = .ok (.list l)) (hname : p.Binds name)
    (hv : op.outcome ((RuleExpr.evaluate (depth + 1)).valueAt ⟨i.config, i.parents⟩ i.scope name body) l = .ok v) :
    i.run (RuleExpr.evaluate (depth + 2) (p.call (Binder.iterator op).name (reading path) name body)) = (.ok v, i) := by
  obtain ⟨text, hloop⟩ := run_loop h depth hop hpath hname body
  rw [hloop, hv]
  rfl

theorem run_permuted (hl : ∀ t ∈ l, t.kind = Kind.decimal) (hperm : l.Perm l') : ∀ f ∈ [sum, least, greatest],
    i.run (RuleExpr.evaluate (depth + 1) (f.call (.list l'))) =
      i.run (RuleExpr.evaluate (depth + 1) (f.call (.list l))) := by
  intro f hf
  obtain ⟨ds, rfl⟩ := ListOperation.exists_decimals hl
  obtain ⟨es, rfl⟩ := ListOperation.exists_decimals fun t ht => hl t (hperm.mem_iff.2 ht)
  have hperm : ds.Perm es := (List.map_perm_map_iff fun _ _ h => Token.decimal.inj h).1 hperm
  by_cases hds : ds = []
  · subst hds
    rw [hperm.nil_eq]
  · obtain ⟨v, hv⟩ := exists_run hds f hf
    rw [run_literal h depth f hv, run_literal h depth f ((run_perm hperm f hf).symm.trans hv)]

theorem run_sum_append (hl : ∀ t ∈ l, t.kind = Kind.decimal) (hl' : ∀ t ∈ l', t.kind = Kind.decimal) :
    ∃ a b d, i.run (RuleExpr.evaluate (depth + 1) (sum.call (.list l))) = (.ok (.decimal a), i) ∧
      i.run (RuleExpr.evaluate (depth + 1) (sum.call (.list l'))) = (.ok (.decimal b), i) ∧
      i.run (RuleExpr.evaluate (depth + 1) (sum.call (.list (l ++ l')))) = (.ok (.decimal d), i) ∧
      d.toRat = a.toRat + b.toRat := by
  obtain ⟨ds, rfl⟩ := ListOperation.exists_decimals hl
  obtain ⟨es, rfl⟩ := ListOperation.exists_decimals hl'
  have hboth := run_sum (ds ++ es)
  rw [List.map_append] at hboth
  refine ⟨_, _, _, run_literal h depth sum (run_sum ds), run_literal h depth sum (run_sum es),
    run_literal h depth sum hboth, ?_⟩
  rw [ListOperation.total_append, Decimal.toRat_add]

/-- The least and the greatest are the ends of the sorted list. -/
theorem run_ends (hl : ∀ t ∈ l, t.kind = Kind.decimal) (hne : l ≠ []) :
    (∃ d, i.run (RuleExpr.evaluate (depth + 3) (least.call (.list l))) = (.ok d, i) ∧
      i.run (RuleExpr.evaluate (depth + 3) (ListFunction.head.call (sort.call (.list l)))) = (.ok d, i)) ∧
    ∃ d, i.run (RuleExpr.evaluate (depth + 3) (greatest.call (.list l))) = (.ok d, i) ∧
      i.run (RuleExpr.evaluate (depth + 3) (ListFunction.head.call (reverse.call (sort.call (.list l))))) =
        (.ok d, i) := by
  obtain ⟨ds, rfl⟩ := ListOperation.exists_decimals hl
  have hds : ds ≠ [] := fun h => hne (congrArg (List.map Token.decimal) h)
  obtain ⟨a, hleast⟩ := evaluate_least (c := ⟨i.config, i.parents⟩) (offers_function h) hds
  obtain ⟨b, hgreatest⟩ := evaluate_greatest (c := ⟨i.config, i.parents⟩) (offers_function h) hds
  exact ⟨⟨a, run_steady (hleast (depth + 2)).1, run_steady (hleast (depth + 1)).2⟩,
    b, run_steady (hgreatest (depth + 2)).1, run_steady (hgreatest depth).2⟩

/-- Elements that are no blocks are read as they are. -/
theorem valuesAt_reading (hvalues : ∀ t ∈ l, t.isBlock = false) : ∀ t ∈ l,
    (RuleExpr.evaluate (depth + 1)).valueAt ⟨i.config, i.parents⟩ i.scope name (reading [name]) t = .ok t :=
  fun t ht => valueAt_reading (offers_read h) (hvalues t ht)

section Loops

variable (hpath : readPath i.chain path = .ok (.list l)) (hname : p.Binds name)

include hpath hname

theorem run_map_reading (hvalues : ∀ t ∈ l, t.isBlock = false) :
    i.run (RuleExpr.evaluate (depth + 2) (p.call (Binder.iterator .map).name (reading path) name (reading [name]))) =
      (.ok (.list l), i) :=
  run_iterator h depth (by simp) hpath hname
    (Iterator.outcome_map (valuesAt_reading h depth hvalues))

theorem run_sum_reading (hl : ∀ t ∈ l, t.kind = Kind.decimal) (hvalues : ∀ t ∈ l, t.isBlock = false) : ∃ d,
    i.run (RuleExpr.evaluate (depth + 2) (p.call (Binder.iterator .sum).name (reading path) name (reading [name]))) =
      (.ok d, i) ∧ i.run (RuleExpr.evaluate (depth + 2) (sum.call (reading path))) = (.ok d, i) := by
  obtain ⟨ds, rfl⟩ := ListOperation.exists_decimals hl
  exact ⟨_, run_iterator h depth (by simp) hpath hname
    (Iterator.outcome_sum (valuesAt_reading h depth hvalues)),
    run_path h depth hpath sum (run_sum ds)⟩

theorem run_sort_reading (hl : ∀ t ∈ l, t.kind = Kind.decimal) (hvalues : ∀ t ∈ l, t.isBlock = false) : ∃ d,
    i.run (RuleExpr.evaluate (depth + 2)
      (p.call (Binder.iterator .sortByNumber).name (reading path) name (reading [name]))) = (.ok d, i) ∧
      i.run (RuleExpr.evaluate (depth + 2) (sort.call (reading path))) = (.ok d, i) := by
  obtain ⟨ds, rfl⟩ := ListOperation.exists_decimals hl
  obtain ⟨sorted, hsorted, hsort⟩ := Iterator.outcome_sortByNumber (valuesAt_reading h depth hvalues)
  exact ⟨_, run_iterator h depth (by simp) hpath hname hsorted, run_path h depth hpath sort hsort⟩

/-- Some element equals a value where the list contains it. -/
theorem run_member (hvalues : ∀ t ∈ l, t.isBlock = false) (hv : v.isBlock = false) :
    (∃ r, i.run (RuleExpr.evaluate (depth + 3)
      (p.call (Binder.iterator .anyOf).name (reading path) name (.block "=" [reading [name], v]))) = (r, i) ∧
        Answers (v.isAmong l) r) ∧
      (∃ r, i.run (RuleExpr.evaluate (depth + 3) (.block "contains" [reading path, v])) = (r, i) ∧
        Answers (v.isAmong l) r) ∧
      (Kind.atom.accepts v.kind = true →
        ∃ r, i.run (RuleExpr.evaluate (depth + 3) (.block "notContains" [v, reading path])) = (r, i) ∧
          Answers ((v.isAmong l).map Bool.not) r) := by
  have hequal : Offers i.chain "=" := h _ (by simp [aggregateNames])
  have hcontains : Offers i.chain "contains" := h _ (by simp [aggregateNames])
  have hnotContains : Offers i.chain "notContains" := h _ (by simp [aggregateNames])
  have hlist := evaluate_path h (depth + 1) hpath
  refine ⟨?_, ?_, fun hatom => ?_⟩
  · have hop : Iterator.anyOf ∈ [Iterator.map, .anyOf, .sum, .sortByNumber] := by simp
    obtain ⟨text, hloop⟩ := run_loop h (depth + 1) hop hpath hname (.block "=" [reading [name], v])
    refine ⟨_, hloop, .mapError (Iterator.outcome_anyOf fun t ht => ?_) text⟩
    exact valueAt_equal (offers_read h) hequal (hvalues t ht) hv
  · obtain ⟨r, hr, hanswers⟩ := evaluate_contains (c := ⟨i.config, i.parents⟩) hcontains
      (acceptsChild_path h (by decide) path) hlist hv
    exact ⟨r, run_steady hr, hanswers⟩
  · obtain ⟨r, hr, hanswers⟩ := evaluate_notContains (c := ⟨i.config, i.parents⟩) hnotContains
      (acceptsChild_path h (by decide) path) hlist hv hatom
    exact ⟨r, run_steady hr, hanswers⟩

end Loops

end Parts

/-- **Functions of a list and iterators over it agree.** For decimals, sum, least and greatest do not depend on the
order, sums of parts add up exactly, and the least and the greatest are the ends of the sorted list. For a list that is
bound, whose elements are no blocks, a body that only reads the element gives the list in a loop, and the sum and the
sorted list of decimals; and some element equals a value where the list contains it, and else, if the value is an atom,
does not contain it: all three come from one test, which overflows, and so do they then, only where a string is compared
that spells a decimal too large to be read. -/
theorem aggregates_agree {i : Interpreter} (h : ∀ head ∈ aggregateNames, Offers i.chain head) {depth : Nat}
    (hdepth : 3 ≤ depth) (l : List Token) :
    let run (t : Token) := i.run (RuleExpr.evaluate depth t)
    ((∀ t ∈ l, t.kind = Kind.decimal) →
      (∀ f ∈ [sum, least, greatest], ∀ l', l.Perm l' → run (f.call (.list l')) = run (f.call (.list l))) ∧
      (∀ l', (∀ t ∈ l', t.kind = Kind.decimal) → ∃ a b d, run (sum.call (.list l)) = (.ok (.decimal a), i) ∧
        run (sum.call (.list l')) = (.ok (.decimal b), i) ∧ run (sum.call (.list (l ++ l'))) = (.ok (.decimal d), i) ∧
        d.toRat = a.toRat + b.toRat) ∧
      (l ≠ [] → (∃ d, run (least.call (.list l)) = (.ok d, i) ∧
          run (ListFunction.head.call (sort.call (.list l))) = (.ok d, i)) ∧
        ∃ d, run (greatest.call (.list l)) = (.ok d, i) ∧
          run (ListFunction.head.call (reverse.call (sort.call (.list l)))) = (.ok d, i))) ∧
    ∀ path, readPath i.chain path = .ok (.list l) → (∀ t ∈ l, t.isBlock = false) →
      ∀ (p : Spelling) (name : String), p.Binds name →
      let loop (op : Iterator) (body : Token) := run (p.call (Binder.iterator op).name (reading path) name body)
      loop .map (reading [name]) = (.ok (.list l), i) ∧
      ((∀ t ∈ l, t.kind = Kind.decimal) →
        (∃ d, loop .sum (reading [name]) = (.ok d, i) ∧ run (sum.call (reading path)) = (.ok d, i)) ∧
        ∃ d, loop .sortByNumber (reading [name]) = (.ok d, i) ∧ run (sort.call (reading path)) = (.ok d, i)) ∧
      ∀ v : Token, v.isBlock = false → ∃ test,
        (∃ r, loop .anyOf (.block "=" [reading [name], v]) = (r, i) ∧ Answers test r) ∧
        (∃ r, run (.block "contains" [reading path, v]) = (r, i) ∧ Answers test r) ∧
        (Kind.atom.accepts v.kind = true →
          ∃ r, run (.block "notContains" [v, reading path]) = (r, i) ∧ Answers (test.map Bool.not) r) ∧
        ∀ e, test = .error e →
          e = .overflow ∧ ∃ w, (v = .string w ∨ .string w ∈ l) ∧ Token.infer w = .error .overflow := by
  obtain ⟨n, rfl⟩ := Nat.exists_eq_add_of_le' hdepth
  intro run
  refine ⟨fun hl => ⟨fun f hf l' hperm => ?perm, fun l' hl' => ?append, fun hne => ?ends⟩,
    fun path hpath hvalues p name hname => ⟨?map, fun hl => ⟨?sum, ?sort⟩, fun v hv => ?member⟩⟩
  case perm => exact run_permuted h (n + 2) hl hperm f hf
  case append => exact run_sum_append h (n + 2) hl hl'
  case ends => exact run_ends h n hl hne
  case map => exact run_map_reading h (n + 1) hpath hname hvalues
  case sum => exact run_sum_reading h (n + 1) hpath hname hl hvalues
  case sort => exact run_sort_reading h (n + 1) hpath hname hl hvalues
  case member =>
    obtain ⟨hloop, hcontains, hnot⟩ := run_member h n hpath hname hvalues hv
    exact ⟨v.isAmong l, hloop, hcontains, hnot, fun e => Token.isAmong_eq_error⟩

/-- An interpreter in which a name has decimals. -/
def priced : Interpreter := root {} (.map [("prices", .list [.decimal 2, .decimal 1])])

/-- Two prices, and the number one among them. -/
theorem aggregates_agree_prices :
    let prices := [Token.decimal 2, .decimal 1]
    (∀ head ∈ aggregateNames, Offers priced.chain head) ∧ (∀ t ∈ prices, t.kind = Kind.decimal) ∧
      readPath priced.chain ["prices"] = .ok (.list prices) ∧ (∀ t ∈ prices, t.isBlock = false) ∧
      Spelling.lambda.Binds "x" ∧ (Token.decimal 1).isBlock = false ∧ Kind.atom.accepts (Token.decimal 1).kind = true ∧
      (∃ d, priced.run (RuleExpr.evaluate 3 (.block "max" [.list prices])) = (.ok d, priced) ∧
        priced.run (RuleExpr.evaluate 3 (.block "head" [.block "reverse" [.block "sort" [.list prices]]])) =
          (.ok d, priced)) ∧
      priced.run (RuleExpr.evaluate 3 (.block "map" [.block "." [.string "prices"],
        .block "" [.block "x" [], .block "." [.string "x"]]])) = (.ok (.list prices), priced) ∧
      ∃ b, priced.run (RuleExpr.evaluate 3 (.block "contains" [.block "." [.string "prices"], .decimal 1])) =
          (.ok (.boolean b), priced) ∧
        priced.run (RuleExpr.evaluate 3 (.block "notContains" [.decimal 1, .block "." [.string "prices"]])) =
          (.ok (.boolean !b), priced) := by
  intro prices
  have hc : HasCatalogue priced.chain := HasCatalogue.root {} _
  have hkinds : ∀ t ∈ prices, t.kind = Kind.decimal := List.forall_mem_cons.2 ⟨rfl, List.forall_mem_singleton.2 rfl⟩
  have hpath : readPath priced.chain ["prices"] = .ok (.list prices) := rfl
  have hvalues : ∀ t ∈ prices, t.isBlock = false := List.forall_mem_cons.2 ⟨rfl, List.forall_mem_singleton.2 rfl⟩
  have hname : Spelling.lambda.Binds "x" := fun _ => by decide
  have hatom : Kind.atom.accepts (Token.decimal 1).kind = true := (by decide : Kind.atom.accepts Kind.decimal = true)
  obtain ⟨hdecimals, hloops⟩ :=
    aggregates_agree (i := priced) (fun head _ => hc.offers head) (Nat.le_refl 3) prices
  obtain ⟨-, -, hends⟩ := hdecimals hkinds
  obtain ⟨hmap, -, hmember⟩ := hloops ["prices"] hpath hvalues .lambda "x" hname
  obtain ⟨test, -, ⟨r, hcontains, hr⟩, hnot, herror⟩ := hmember (.decimal 1) rfl
  obtain ⟨r', hnot, hr'⟩ := hnot hatom
  cases test with
  | ok b =>
    obtain rfl : r = .ok (.boolean b) := hr
    obtain rfl : r' = .ok (.boolean !b) := hr'
    exact ⟨fun head _ => hc.offers head, hkinds, hpath, hvalues, hname, rfl, hatom, (hends (List.cons_ne_nil _ _)).2,
      hmap, b, hcontains, hnot⟩
  | error e =>
    -- no string is compared
    obtain ⟨-, w, hw, -⟩ := herror e rfl
    simp [prices] at hw

end Interpreter

end RuleExpr
