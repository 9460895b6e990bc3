import RuleExpr.Token.Order
import RuleExpr.Proofs.Decimal.Rational
import RuleExpr.Proofs.Kind
import Mathlib.Order.Compare

/-!
# The order of atoms

Decimals are ordered as rationals, strings by their characters, times by their instants, truth values with false first.
Tokens of other kinds, or of two kinds, have no order. All these orders are one total preorder of tokens (`rankOrder`):
**two tokens compare as in it where they are of one of these kinds, and else they do not compare**
(`compareAtoms_eq`).
-/

namespace RuleExpr

open Std (TransCmp TransOrd OrientedCmp ReflCmp)

instance : TransOrd Decimal where
  eq_swap {a b} := by
    rw [Decimal.compare_eq_compare_toRat, Decimal.compare_eq_compare_toRat]
    exact OrientedCmp.eq_swap
  isLE_trans {a b c} := by
    rw [Decimal.compare_eq_compare_toRat, Decimal.compare_eq_compare_toRat, Decimal.compare_eq_compare_toRat]
    exact TransCmp.isLE_trans

/-- Times are compared by day, then by second, then by nanosecond. -/
instance : TransOrd Timestamp :=
  inferInstanceAs (TransCmp (compareLex (compareOn Timestamp.day)
    (compareLex (compareOn fun t => t.clock.second) (compareOn fun t => t.clock.nano))))

/-- The kinds whose tokens are ordered. -/
def Kind.ordered : List Kind := [decimal, string, time, boolean]

namespace Kind

variable {k : Kind}

theorem isPrimitive_of_ordered (hk : k ∈ ordered) : k.isPrimitive = true := by
  revert k
  decide

/-- A kind of atoms accepts the tokens of that kind only. -/
theorem ordered_accepts (hk : k ∈ ordered) {t : Token} (h : k.accepts t.kind = true) : t.kind = k :=
  Token.kind_of_accepts (isPrimitive_of_ordered hk) h

end Kind

namespace Token

/-- Whether the tokens are of one ordered kind and the first is at most the second. -/
def atMost (a b : Token) : Bool := (compareAtoms a b).any Ordering.isLE

/-- Whether the tokens are of one ordered kind and neither comes before the other. -/
def ties (a b : Token) : Bool := compareAtoms a b == some .eq

/-! ## One order for all kinds -/

/-- What a token of an ordered kind is compared by, with something in the place of what other kinds have. -/
def rank : Token → Decimal × String × Timestamp × Bool
  | decimal d => (d, "", ⟨0, ⟨0, 0⟩, 0⟩, false)
  | string s => (0, s, ⟨0, ⟨0, 0⟩, 0⟩, false)
  | time t => (0, "", t, false)
  | boolean b => (0, "", ⟨0, ⟨0, 0⟩, 0⟩, b)
  | _ => (0, "", ⟨0, ⟨0, 0⟩, 0⟩, false)

/-- The order of the ranks, part by part. -/
def rankOrder : Token → Token → Ordering :=
  compareLex (compareOn fun t => t.rank.1) <| compareLex (compareOn fun t => t.rank.2.1) <|
    compareLex (compareOn fun t => t.rank.2.2.1) (compareOn fun t => t.rank.2.2.2)

instance : TransCmp rankOrder :=
  inferInstanceAs (TransCmp (compareLex (compareOn fun t : Token => t.rank.1) _))

variable {a b c : Token}

/-- **Tokens compare where they are of one ordered kind**, and then by their ranks. -/
theorem compareAtoms_eq (a b : Token) : compareAtoms a b =
    if a.kind ∈ Kind.ordered ∧ b.kind = a.kind then some (rankOrder a b) else none := by
  split
  · next h =>
    obtain ⟨ha, hb⟩ := h
    have hrank : rankOrder a b = (compare a.rank.1 b.rank.1).then ((compare a.rank.2.1 b.rank.2.1).then
      ((compare a.rank.2.2.1 b.rank.2.2.1).then (compare a.rank.2.2.2 b.rank.2.2.2))) := rfl
    cases a <;> cases b <;> first
      | exact absurd hb (by simp only [kind]; decide)
      | exact absurd ha (by simp only [kind]; decide)
      | simp only [hrank, rank, ReflCmp.compare_self, Ordering.then_eq, Ordering.eq_then]; rfl
  · next h =>
    cases a <;> cases b <;> first
      | rfl
      | exact absurd (show _ ∧ _ by simp only [kind]; decide) h

/-! ## At most, and ties -/

theorem compareAtoms_of_kind (ha : a.kind ∈ Kind.ordered) (hb : b.kind = a.kind) :
    compareAtoms a b = some (rankOrder a b) := by
  rw [compareAtoms_eq, if_pos ⟨ha, hb⟩]

theorem atMost_iff : a.atMost b = true ↔ (a.kind ∈ Kind.ordered ∧ b.kind = a.kind) ∧ (rankOrder a b).isLE = true := by
  rw [atMost, compareAtoms_eq]
  split
  · next h => exact ⟨fun hle => ⟨h, hle⟩, And.right⟩
  · next h => exact ⟨nofun, fun h' => absurd h'.1 h⟩

theorem ties_iff : a.ties b = true ↔ (a.kind ∈ Kind.ordered ∧ b.kind = a.kind) ∧ rankOrder a b = .eq := by
  rw [ties, compareAtoms_eq, beq_iff_eq]
  split
  · next h => rw [Option.some.injEq, and_iff_right h]
  · next h => exact ⟨nofun, fun h' => absurd h'.1 h⟩

theorem ties_symm (h : a.ties b = true) : b.ties a = true := by
  obtain ⟨⟨ha, hb⟩, heq⟩ := ties_iff.1 h
  exact ties_iff.2 ⟨⟨hb ▸ ha, hb.symm⟩, OrientedCmp.eq_symm heq⟩

theorem ties_trans (hab : a.ties b = true) (hbc : b.ties c = true) : a.ties c = true := by
  obtain ⟨⟨ha, hb⟩, hab⟩ := ties_iff.1 hab
  obtain ⟨⟨-, hc⟩, hbc⟩ := ties_iff.1 hbc
  exact ties_iff.2 ⟨⟨ha, hc.trans hb⟩, TransCmp.eq_trans hab hbc⟩

theorem atMost_of_ties (h : a.ties b = true) : a.atMost b = true := by
  obtain ⟨hk, heq⟩ := ties_iff.1 h
  exact atMost_iff.2 ⟨hk, Ordering.isLE_of_eq_eq heq⟩

theorem ties_of_atMost (hab : a.atMost b = true) (hba : b.atMost a = true) : a.ties b = true := by
  obtain ⟨hk, hab⟩ := atMost_iff.1 hab
  exact ties_iff.2 ⟨hk, OrientedCmp.isLE_antisymm hab (atMost_iff.1 hba).2⟩

/-- Where tokens compare, that the first is not behind the second says that it is at most the second. -/
theorem ordered_eq_isLE (ha : a.kind ∈ Kind.ordered) (hb : b.kind = a.kind) :
    ordered a b = (rankOrder a b).isLE := by
  rw [ordered, compareAtoms_of_kind ha hb]
  cases rankOrder a b <;> rfl

end Token

end RuleExpr
