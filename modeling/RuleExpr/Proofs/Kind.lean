import RuleExpr.Token.Basic

/-!
# Kinds as sets

`includes` is inclusion of sets of primitives, `union` their union, and `accepts` that two sets meet. A kind that meets
a part of another one meets the other one (`accepts_of_includes`). A primitive kind has one form of tokens
(`Token.exists_decimal` and its like), and accepts no others (`Token.kind_of_accepts`).
-/

namespace RuleExpr

namespace Kind

variable {a b c : Kind}

theorem includes_iff : a.includes b = true ↔ a.mask &&& b.mask = b.mask := beq_iff_eq

theorem includes_self (a : Kind) : a.includes a = true := includes_iff.2 BitVec.and_self

theorem any_includes (a : Kind) : any.includes a = true := includes_iff.2 BitVec.allOnes_and

theorem includes_trans (hab : a.includes b = true) (hbc : b.includes c = true) : a.includes c = true := by
  rw [includes_iff] at *
  rw [← hbc, ← BitVec.and_assoc, hab]

theorem union_includes_left (a b : Kind) : (union a b).includes a = true := by
  rw [includes_iff, union]
  ext i hi
  simpa using Or.inl

theorem union_includes_right (a b : Kind) : (union a b).includes b = true := by
  rw [includes_iff, union]
  ext i hi
  simpa using Or.inr

/-- Whether the kind is that of one form of tokens. -/
def isPrimitive (k : Kind) : Bool := k ∈ primitives.map Prod.fst

theorem accepts_self (h : a.isPrimitive = true) : a.accepts a = true := by
  have hall : ∀ k ∈ primitives.map Prod.fst, k.accepts k = true := by decide
  exact hall a (of_decide_eq_true h)

/-- What meets a part meets the whole. -/
theorem accepts_of_includes (hbc : b.includes c = true) (h : a.accepts c = true) : a.accepts b = true := by
  rw [includes_iff] at hbc
  simp only [accepts, bne_iff_ne] at *
  intro h0
  rw [← hbc, ← BitVec.and_assoc, h0] at h
  exact h BitVec.zero_and

/-- What a part meets the whole meets. -/
theorem accepts_of_includes_left (hab : a.includes b = true) (h : b.accepts c = true) : a.accepts c = true := by
  rw [includes_iff] at hab
  simp only [accepts, bne_iff_ne] at *
  intro h0
  rw [← hab, BitVec.and_comm a.mask, BitVec.and_assoc, h0] at h
  exact h BitVec.and_zero

end Kind

namespace Token

/-- Every token but a block is an evaluated value. -/
theorem value_includes_kind {t : Token} (h : t.isBlock = false) : Kind.value.includes t.kind = true := by
  cases t with
  | block => cases h
  | _ =>
    rw [kind]
    decide

theorem any_accepts_kind (t : Token) : Kind.any.accepts t.kind = true := by
  cases t <;>
    · rw [kind]
      decide

/-- A primitive kind accepts the tokens of that kind only. -/
theorem kind_of_accepts {k : Kind} (hk : k.isPrimitive = true) {t : Token} (h : k.accepts t.kind = true) :
    t.kind = k := by
  have hall : ∀ k ∈ Kind.primitives.map Prod.fst, ∀ k' ∈ Kind.primitives.map Prod.fst,
      k.accepts k' = true → k' = k := by
    decide
  refine hall k (of_decide_eq_true hk) t.kind ?_ h
  cases t <;> simp [kind, Kind.primitives]

theorem exists_decimal {t : Token} (h : t.kind = Kind.decimal) : ∃ d, t = decimal d := by
  cases t with
  | decimal d => exact ⟨d, rfl⟩
  | _ => exact absurd h (by simp only [kind]; decide)

theorem exists_string {t : Token} (h : t.kind = Kind.string) : ∃ s, t = string s := by
  cases t with
  | string s => exact ⟨s, rfl⟩
  | _ => exact absurd h (by simp only [kind]; decide)

theorem exists_time {t : Token} (h : t.kind = Kind.time) : ∃ s, t = time s := by
  cases t with
  | time s => exact ⟨s, rfl⟩
  | _ => exact absurd h (by simp only [kind]; decide)

theorem exists_list {t : Token} (h : t.kind = Kind.list) : ∃ items, t = list items := by
  cases t with
  | list items => exact ⟨items, rfl⟩
  | _ => exact absurd h (by simp only [kind]; decide)

theorem value_accepts_kind {t : Token} (h : t.isBlock = false) : Kind.value.accepts t.kind = true := by
  cases t with
  | block => cases h
  | _ =>
    rw [kind]
    decide

end Token

end RuleExpr
