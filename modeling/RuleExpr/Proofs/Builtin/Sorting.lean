import RuleExpr.Builtin.Iterator
import RuleExpr.Proofs.Token.Order

/-!
# Stable sorting

A list is sorted by a key (`StablySorted`) if it is a rearrangement in which the keys ascend and elements whose keys tie
stand as they stood before. There is only one such rearrangement (`StablySorted.unique`), and sorting finds it where the
keys are of one ordered kind (`stablySorted_mergeSort`).

- **Sorting sorts stably or fails**: it refuses exactly the lists, other than the empty one, whose elements are not of
  one ordered kind (`ListOperation.sorted_of_comparable`, `ListOperation.sorted_of_not_comparable`).
-/

namespace RuleExpr

open Std (TransCmp OrientedCmp)

open Token (rankOrder)

/-- A rearrangement of a list in which the keys ascend, and elements whose keys tie keep their order. -/
structure StablySorted (key : Token → Token) (items sorted : List Token) : Prop where
  perm : sorted.Perm items
  ascending : sorted.Pairwise fun a b => (key a).atMost (key b) = true
  stable : ∀ k : Token, sorted.filter (fun t => k.ties (key t)) = items.filter fun t => k.ties (key t)

variable {key : Token → Token} {items sorted sorted' : List Token} {k : Kind}

/-! ## There is one -/

/-- By induction on the lists: of what stands in front in one and in the other, neither comes before the other, so the
first of all that tie with it is in front of both. -/
theorem eq_of_ascending (hperm : sorted.Perm sorted')
    (h : sorted.Pairwise fun a b => (key a).atMost (key b) = true)
    (h' : sorted'.Pairwise fun a b => (key a).atMost (key b) = true)
    (hties : ∀ k : Token, sorted.filter (fun t => k.ties (key t)) = sorted'.filter fun t => k.ties (key t)) :
    sorted = sorted' := by
  induction sorted generalizing sorted' with
  | nil => exact hperm.nil_eq
  | cons a l ih =>
    cases sorted' with
    | nil => exact absurd hperm.symm.nil_eq (List.cons_ne_nil a l).symm
    | cons b l' =>
      obtain ⟨ha, hl⟩ := List.pairwise_cons.1 h
      obtain ⟨hb, hl'⟩ := List.pairwise_cons.1 h'
      have hfirst : a = b := by
        rcases List.mem_cons.1 (hperm.mem_iff.1 List.mem_cons_self) with hab | hmem
        · exact hab
        rcases List.mem_cons.1 (hperm.mem_iff.2 List.mem_cons_self) with hba | hmem'
        · exact hba.symm
        have htie : (key a).ties (key b) = true := Token.ties_of_atMost (ha b hmem') (hb a hmem)
        have hself : (key a).ties (key a) = true := Token.ties_trans htie (Token.ties_symm htie)
        have hfilter := hties (key a)
        rw [List.filter_cons, List.filter_cons, if_pos hself, if_pos htie] at hfilter
        exact (List.cons.inj hfilter).1
      subst hfirst
      refine congrArg (a :: ·) (ih hperm.cons_inv hl hl' fun k => ?_)
      have hfilter := hties k
      rw [List.filter_cons, List.filter_cons] at hfilter
      split at hfilter
      · exact (List.cons.inj hfilter).2
      · exact hfilter

/-- **There is only one stably sorted rearrangement.** -/
theorem StablySorted.unique (h : StablySorted key items sorted) (h' : StablySorted key items sorted') :
    sorted = sorted' :=
  eq_of_ascending (h.perm.trans h'.perm.symm) h.ascending h'.ascending fun k => (h.stable k).trans (h'.stable k).symm

/-! ## Merge sort finds it -/

section MergeSort

/-- Where the keys are of one ordered kind, they are sorted by their ranks. -/
theorem mergeSort_ordered (hk : k ∈ Kind.ordered) (hkey : ∀ t ∈ items, (key t).kind = k) :
    items.mergeSort (fun a b => Token.ordered (key a) (key b)) =
      items.mergeSort fun a b => (rankOrder (key a) (key b)).isLE := by
  have hle : ∀ a ∈ items, ∀ b ∈ items, Token.ordered (key a) (key b) = (rankOrder (key a) (key b)).isLE :=
    fun a ha b hb => Token.ordered_eq_isLE (hkey a ha ▸ hk) ((hkey b hb).trans (hkey a ha).symm)
  have hmap := List.map_mergeSort (f := id) (s := fun a b => (rankOrder (key a) (key b)).isLE) hle
  rwa [List.map_id, List.map_id] at hmap

theorem isLE_trans (a b c : Token) (hab : (rankOrder (key a) (key b)).isLE = true)
    (hbc : (rankOrder (key b) (key c)).isLE = true) : (rankOrder (key a) (key c)).isLE = true :=
  TransCmp.isLE_trans hab hbc

theorem isLE_total (a b : Token) :
    ((rankOrder (key a) (key b)).isLE || (rankOrder (key b) (key a)).isLE) = true := by
  have hswap : rankOrder (key b) (key a) = (rankOrder (key a) (key b)).swap := OrientedCmp.eq_swap
  rw [hswap]
  cases rankOrder (key a) (key b) <;> rfl

/-- **Merge sort is stable.** -/
theorem stablySorted_mergeSort (hk : k ∈ Kind.ordered) (hkey : ∀ t ∈ items, (key t).kind = k) :
    StablySorted key items (items.mergeSort fun a b => Token.ordered (key a) (key b)) := by
  rw [mergeSort_ordered hk hkey]
  have hperm := List.mergeSort_perm items fun a b => (rankOrder (key a) (key b)).isLE
  refine ⟨hperm, ?ascending, fun x => ?stable⟩
  case ascending =>
    refine (List.pairwise_mergeSort isLE_trans isLE_total items).imp_of_mem fun ha hb hle => ?_
    have ha := hkey _ (hperm.mem_iff.1 ha)
    have hb := hkey _ (hperm.mem_iff.1 hb)
    exact Token.atMost_iff.2 ⟨⟨ha ▸ hk, hb.trans ha.symm⟩, hle⟩
  case stable =>
    -- Elements that tie ascend in the order that they are in, so sorting leaves them in it.
    have hties : (items.filter fun t => x.ties (key t)).Pairwise
        fun a b => (rankOrder (key a) (key b)).isLE = true := by
      refine List.pairwise_of_forall_mem_list fun a ha b hb => ?_
      have ha := (List.mem_filter.1 ha).2
      have hb := (List.mem_filter.1 hb).2
      exact (Token.atMost_iff.1 (Token.atMost_of_ties (Token.ties_trans (Token.ties_symm ha) hb))).2
    have hsublist :=
      (List.sublist_mergeSort isLE_trans isLE_total hties List.filter_sublist).filter fun t => x.ties (key t)
    rw [List.filter_filter] at hsublist
    simp only [Bool.and_self] at hsublist
    exact (hsublist.eq_of_length (hperm.filter _).length_eq.symm).symm

end MergeSort

/-! ## Lists that can be sorted -/

/-- The list is empty or its elements are of one ordered kind. -/
def Comparable (items : List Token) : Prop := items = [] ∨ ∃ k ∈ Kind.ordered, ∀ t ∈ items, t.kind = k

namespace ListOperation

/-- It is enough to compare each element with the first, itself included. -/
theorem comparable_cons_iff {first : Token} : Comparable (first :: items) ↔
    ∀ t ∈ first :: items, (Token.compareAtoms first t).isSome = true := by
  have hsome (t : Token) : (Token.compareAtoms first t).isSome = true ↔
      first.kind ∈ Kind.ordered ∧ t.kind = first.kind := by
    rw [Token.compareAtoms_eq]
    split
    · next h => exact iff_of_true rfl h
    · next h => exact iff_of_false Bool.false_ne_true h
  simp only [hsome]
  constructor
  · rintro (hnil | ⟨k, hk, hkind⟩) t ht
    · cases hnil
    · have hfirst := hkind first List.mem_cons_self
      exact ⟨hfirst ▸ hk, (hkind t ht).trans hfirst.symm⟩
  · intro h
    exact .inr ⟨first.kind, (h first List.mem_cons_self).1, fun t ht => (h t ht).2⟩

theorem sorted_of_comparable (function : String) (h : Comparable items) :
    ∃ result, ListOperation.sorted function items = .ok result ∧ StablySorted id items result := by
  cases items with
  | nil => exact ⟨[], rfl, .refl _, .nil, fun _ => rfl⟩
  | cons first items =>
    have hnone : (first :: items).find? (fun t => (Token.compareAtoms first t).isNone) = none := by
      rw [List.find?_eq_none]
      intro t ht
      rw [Option.isNone_eq_false_iff.2 (comparable_cons_iff.1 h t ht)]
      exact Bool.false_ne_true
    obtain ⟨k, hk, hkind⟩ := h.resolve_left (List.cons_ne_nil first items)
    refine ⟨_, ?_, stablySorted_mergeSort hk hkind⟩
    rw [ListOperation.sorted, hnone]
    rfl

theorem sorted_of_not_comparable (function : String) (h : ¬ Comparable items) :
    ∃ expected found, ListOperation.sorted function items = .error (.kindMismatch function expected found) := by
  cases items with
  | nil => exact absurd (.inl rfl) h
  | cons first items =>
    rw [comparable_cons_iff] at h
    cases hodd : (first :: items).find? (fun t => (Token.compareAtoms first t).isNone) with
    | none =>
      refine absurd (fun t ht => ?_) h
      exact Option.isSome_iff_ne_none.2 fun hnone => List.find?_eq_none.1 hodd t ht (Option.isNone_iff_eq_none.2 hnone)
    | some odd =>
      refine ⟨first.kind, odd.kind, ?_⟩
      rw [ListOperation.sorted, hodd]
      rfl

end ListOperation

/-- Sorting elements behind their keys sorts them by the keys. -/
theorem Iterator.sortKeyed_map (key : Token → Token) (items : List Token) :
    sortKeyed (items.map fun t => (key t, t)) = items.mergeSort fun a b => Token.ordered (key a) (key b) := by
  have hmap := List.map_mergeSort (f := fun t => (key t, t)) (l := items)
    (r := fun a b => Token.ordered (key a) (key b)) (s := fun a b => Token.ordered a.1 b.1) fun _ _ _ _ => rfl
  rw [sortKeyed, ← hmap, List.map_map]
  exact List.map_id _

end RuleExpr
