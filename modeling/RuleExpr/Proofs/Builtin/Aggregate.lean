import RuleExpr.Builtin.List
import RuleExpr.Proofs.Decimal.Rational
import RuleExpr.Proofs.Kind
import Mathlib.Algebra.BigOperators.Group.List.Basic

/-!
# Decimals taken together

The sum of decimals denotes the sum of the rationals (`toRat_total`), so it does not depend on their order, and the sum
of two lists is the sum of their sums. The least and the greatest of decimals are among them and not beaten by any of
them (`exists_extreme`); this determines them (`Wins.unique`), so they do not depend on the order either.
-/

namespace RuleExpr

namespace Decimal

variable {a b c : Decimal} {wins : Ordering}

theorem compare_eq_lt_iff : a.compare b = .lt ↔ a.toRat < b.toRat := by
  rw [← compare_lt_iff_lt, ← compare_eq_compare_toRat]
  rfl

theorem compare_eq_gt_iff : a.compare b = .gt ↔ b.toRat < a.toRat := by
  rw [← compare_gt_iff_gt, ← compare_eq_compare_toRat]
  rfl

/-! A decimal beats another one where it is on a given side of it. -/

theorem unbeaten_of_beats (hw : wins ≠ .eq) (h : a.compare b = wins) : b.compare a ≠ wins := by
  cases wins with
  | eq => exact absurd rfl hw
  | lt => exact fun h' => lt_asymm (compare_eq_lt_iff.1 h) (compare_eq_lt_iff.1 h')
  | gt => exact fun h' => lt_asymm (compare_eq_gt_iff.1 h) (compare_eq_gt_iff.1 h')

theorem unbeaten_refl (hw : wins ≠ .eq) (a : Decimal) : a.compare a ≠ wins := fun h => unbeaten_of_beats hw h h

theorem unbeaten_trans (hw : wins ≠ .eq) (hab : a.compare b ≠ wins) (hbc : b.compare c ≠ wins) :
    a.compare c ≠ wins := by
  cases wins with
  | eq => exact absurd rfl hw
  | lt =>
    rw [Ne, compare_eq_lt_iff, not_lt] at *
    exact hbc.trans hab
  | gt =>
    rw [Ne, compare_eq_gt_iff, not_lt] at *
    exact hab.trans hbc

theorem eq_of_unbeaten (hw : wins ≠ .eq) (hab : a.compare b ≠ wins) (hba : b.compare a ≠ wins) : a = b := by
  rw [← toRat_inj]
  cases wins with
  | eq => exact absurd rfl hw
  | lt =>
    rw [Ne, compare_eq_lt_iff, not_lt] at *
    exact le_antisymm hba hab
  | gt =>
    rw [Ne, compare_eq_gt_iff, not_lt] at *
    exact le_antisymm hab hba

end Decimal

namespace ListOperation

variable {ds es : List Decimal} {d e best : Decimal} {wins : Ordering}

/-! ## Lists of decimals -/

theorem decimals_map (function : String) (ds : List Decimal) : decimals function (ds.map .decimal) = .ok ds := by
  induction ds with
  | nil => rfl
  | cons d ds ih =>
    rw [List.map_cons, decimals, ih]
    rfl

theorem exists_decimals {items : List Token} (h : ∀ t ∈ items, t.kind = Kind.decimal) :
    ∃ ds : List Decimal, items = ds.map .decimal := by
  induction items with
  | nil => exact ⟨[], rfl⟩
  | cons t items ih =>
    obtain ⟨ht, hitems⟩ := List.forall_mem_cons.1 h
    obtain ⟨ds, rfl⟩ := ih hitems
    obtain ⟨d, rfl⟩ := Token.exists_decimal ht
    exact ⟨d :: ds, rfl⟩

/-! ## Sums -/

theorem toRat_foldl_add (ds : List Decimal) (acc : Decimal) :
    (ds.foldl Decimal.add acc).toRat = acc.toRat + (ds.map Decimal.toRat).sum := by
  induction ds generalizing acc with
  | nil => simp
  | cons d ds ih =>
    have hadd : (Decimal.add acc d).toRat = acc.toRat + d.toRat := Decimal.toRat_add acc d
    rw [List.foldl_cons, ih, hadd, List.map_cons, List.sum_cons, add_assoc]

theorem toRat_total (ds : List Decimal) : (total ds).toRat = (ds.map Decimal.toRat).sum := by
  have hzero : (0 : Decimal).toRat = 0 := Decimal.toRat_ofInt 0
  rw [total, toRat_foldl_add, hzero, zero_add]

theorem total_append (ds es : List Decimal) : total (ds ++ es) = total ds + total es := by
  rw [← Decimal.toRat_inj, Decimal.toRat_add, toRat_total, toRat_total, toRat_total, List.map_append, List.sum_append]

theorem total_perm (h : ds.Perm es) : total ds = total es := by
  rw [← Decimal.toRat_inj, toRat_total, toRat_total, (h.map _).sum_eq]

/-! ## Least and greatest -/

/-- The decimal is one of the list, and none of the list beats it. -/
structure Wins (wins : Ordering) (ds : List Decimal) (d : Decimal) : Prop where
  mem : d ∈ ds
  unbeaten : ∀ e ∈ ds, e.compare d ≠ wins

theorem Wins.perm (h : Wins wins ds d) (hp : ds.Perm es) : Wins wins es d :=
  ⟨hp.mem_iff.1 h.mem, fun e he => h.unbeaten e (hp.mem_iff.2 he)⟩

theorem Wins.unique (hw : wins ≠ .eq) (hd : Wins wins ds d) (he : Wins wins ds e) : d = e :=
  Decimal.eq_of_unbeaten hw (he.unbeaten d hd.mem) (hd.unbeaten e he.mem)

/-- By induction on the decimals that are left: whatever is kept is not beaten by what it has replaced. -/
theorem wins_foldl (hw : wins ≠ .eq) (ds : List Decimal) (best : Decimal) :
    Wins wins (best :: ds) (ds.foldl (fun best next => if next.compare best = wins then next else best) best) := by
  induction ds generalizing best with
  | nil => exact ⟨List.mem_singleton_self _, List.forall_mem_singleton.2 (Decimal.unbeaten_refl hw best)⟩
  | cons next ds ih =>
    rw [List.foldl_cons]
    split
    · next hbeats =>
      obtain ⟨hmem, hunbeaten⟩ := ih next
      have hbest := Decimal.unbeaten_trans hw (Decimal.unbeaten_of_beats hw hbeats) (hunbeaten next List.mem_cons_self)
      exact ⟨List.mem_cons_of_mem _ hmem, List.forall_mem_cons.2 ⟨hbest, hunbeaten⟩⟩
    · next hbeaten =>
      obtain ⟨hmem, hunbeaten⟩ := ih best
      rw [List.forall_mem_cons] at hunbeaten
      have hnext := Decimal.unbeaten_trans hw hbeaten hunbeaten.1
      refine ⟨?_, List.forall_mem_cons.2 ⟨hunbeaten.1, List.forall_mem_cons.2 ⟨hnext, hunbeaten.2⟩⟩⟩
      rcases List.mem_cons.1 hmem with heq | hmem
      · exact List.mem_cons.2 (.inl heq)
      · exact List.mem_cons_of_mem _ (List.mem_cons_of_mem _ hmem)

theorem exists_extreme (hw : wins ≠ .eq) (function : String) (hds : ds ≠ []) :
    ∃ d, extreme function wins ds = .ok (.decimal d) ∧ Wins wins ds d := by
  cases ds with
  | nil => exact absurd rfl hds
  | cons best ds => exact ⟨_, rfl, wins_foldl hw ds best⟩

theorem extreme_of_wins (hw : wins ≠ .eq) (function : String) (h : Wins wins ds d) :
    extreme function wins ds = .ok (.decimal d) := by
  obtain ⟨e, he, hwins⟩ := exists_extreme hw function (List.ne_nil_of_mem h.mem)
  rw [he, h.unique hw hwins]

theorem extreme_perm (hw : wins ≠ .eq) (function : String) (h : ds.Perm es) :
    extreme function wins ds = extreme function wins es := by
  by_cases hds : ds = []
  · subst hds
    rw [h.nil_eq]
  · obtain ⟨d, hd, hwins⟩ := exists_extreme hw function hds
    rw [hd, extreme_of_wins hw function (hwins.perm h)]

end ListOperation

end RuleExpr
