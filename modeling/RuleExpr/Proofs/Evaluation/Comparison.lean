import RuleExpr.Proofs.Evaluation.Operations
import RuleExpr.Proofs.Evaluation.Sorting

/-!
# Comparison in an interpreter

Decimals, strings and times are ordered by one total preorder of tokens (`Token.rankOrder`). The test for equality is
code of its own, yet holds where that order says so (`Token.looseEqual_eq_rankOrder`), and every other test asks the
order: `OrderTest` are those that have an overload for each kind, `TimeTest` those that times have besides, `RangeTest`
those of a range.

- **The tests for two values of one kind are those of one total order** (`Interpreter.comparisons_agree`).
-/

namespace RuleExpr

open Std (TransCmp OrientedCmp)

/-- The kinds whose values are compared with each other. -/
def Kind.comparable : List Kind := [decimal, string, time]

theorem Kind.ordered_of_comparable {k : Kind} (h : k ∈ Kind.comparable) : k ∈ Kind.ordered := by
  revert k
  decide

/-! ## Equality as a part of the order -/

/-- Times are equal where neither is before the other. -/
theorem Timestamp.sameInstant_eq_compare (s t : Timestamp) : s.sameInstant t = (s.compare t == .eq) := by
  rw [Bool.eq_iff_iff, sameInstant, compare, beq_iff_eq, beq_iff_eq, instant, instant, Ordering.then_eq_eq,
    Ordering.then_eq_eq]
  simp only [Prod.mk.injEq, Std.compare_eq_iff_eq]

/-- Decimals are equal where neither is below the other. -/
theorem Decimal.beq_eq_compare (x y : Decimal) : (x == y) = (x.compare y == .eq) := by
  rw [Bool.eq_iff_iff, beq_iff_eq, beq_iff_eq, ← Decimal.toRat_inj, ← Std.compare_eq_iff_eq,
    ← Decimal.compare_eq_compare_toRat]
  rfl

theorem beq_eq_compareOfLessAndEq (x y : String) : (x == y) = (compareOfLessAndEq x y == .eq) := by
  rw [Bool.eq_iff_iff, beq_iff_eq, beq_iff_eq, ← Std.compare_eq_iff_eq]
  rfl

namespace Token

variable {a b : Token} {k : Kind}

/-- Values of one kind are equal where neither comes before the other. -/
theorem looseEqual_eq_ties (hk : k ∈ Kind.comparable) (ha : a.kind = k) (hb : b.kind = k) :
    a.looseEqual b = .ok (a.ties b) := by
  have hkind : b.kind = a.kind := hb.trans ha.symm
  unfold looseEqual
  rw [if_pos hkind.symm]
  refine congrArg Except.ok ?_
  cases a with
  | decimal x =>
    cases b with
    | decimal y => exact Decimal.beq_eq_compare x y
    | _ => exact absurd hkind (by simp only [kind]; decide)
  | string x =>
    cases b with
    | string y => exact beq_eq_compareOfLessAndEq x y
    | _ => exact absurd hkind (by simp only [kind]; decide)
  | time x =>
    cases b with
    | time y => exact Timestamp.sameInstant_eq_compare x y
    | _ => exact absurd hkind (by simp only [kind]; decide)
  | _ => exact absurd (ha ▸ hk) (by simp only [kind]; decide)

theorem rankOrder_decimal (x y : Decimal) : rankOrder (decimal x) (decimal y) = x.compare y := by
  have h := compareAtoms_of_kind (a := decimal x) (b := decimal y) (by simp only [kind]; decide) rfl
  exact (Option.some.inj h).symm

theorem rankOrder_time (s t : Timestamp) : rankOrder (time s) (time t) = s.compare t := by
  have h := compareAtoms_of_kind (a := time s) (b := time t) (by simp only [kind]; decide) rfl
  exact (Option.some.inj h).symm

/-- So they are where the one order of all kinds says so. -/
theorem looseEqual_eq_rankOrder (hk : k ∈ Kind.comparable) (ha : a.kind = k) (hb : b.kind = k) :
    a.looseEqual b = .ok (rankOrder a b == .eq) := by
  rw [looseEqual_eq_ties hk ha hb, ties, compareAtoms_of_kind (ha ▸ Kind.ordered_of_comparable hk) (hb.trans ha.symm)]
  rfl

end Token

/-! ## Calls with values of one kind -/

/-- A call of a test gives a truth value and leaves the interpreter as it is. -/
def Interpreter.Gives (i : Interpreter) (depth : Nat) (head : String) (args : List Token) (b : Bool) : Prop :=
  i.run (RuleExpr.evaluate depth (.block head args)) = (.ok (.boolean b), i)

section Values

variable {i : Interpreter} {head : String} {a : Token} {args : List Token} {op : Builtin}
  {k : Kind} {name : String} {count depth : Nat} {b : Bool}

theorem boolean_quotes : Kind.boolean.quotes = false := by decide

theorem Token.not_block_of_kind (hk : k ∈ Kind.ordered) (ha : a.kind = k) : a.isBlock = false := by
  cases a with
  | block => exact absurd (ha ▸ hk) (by simp only [Token.kind]; decide)
  | _ => rfl

/-- A test whose parameters are all of one kind. -/
def uniform (name : String) (k : Kind) (count : Nat) : Signature :=
  ⟨name, List.replicate count k, false, Kind.boolean, "", ""⟩

theorem parameterKind_uniform (name : String) (k : Kind) (count j : Nat) :
    (uniform name k (count + 1)).parameterKind j = k := by
  have hlast : (List.replicate (count + 1) k).getLast? = some k := by simp [List.getLast?_replicate]
  simp only [Signature.parameterKind, uniform, hlast, List.getElem?_replicate]
  split <;> rfl

theorem evaluatesAll_uniform (name : String) (hk : k ∈ Kind.ordered) (count : Nat) :
    (uniform name k count).evaluatesAll = true := by
  have hall : ∀ k ∈ Kind.ordered, (!k.quotes) = true := by decide
  refine List.all_eq_true.2 fun p hp => ?_
  rw [List.eq_of_mem_replicate hp]
  exact hall k hk

/-- A test whose parameters are all of one kind gives for values of that kind what its body gives. -/
theorem Interpreter.gives_uniform (h : Offers i.chain head) (hh : head.isEmpty = false)
    (hsole : Function.SoleFirst head (a :: args).length k (uniform name k (count + 1)) op) (hk : k ∈ Kind.ordered)
    (hargs : ∀ t ∈ a :: args, t.kind = k)
    (hrun : op.run (RuleExpr.evaluate depth) (a :: args) ⟨i.config, i.parents⟩ i.scope = (.ok (.boolean b), i.scope)) :
    i.Gives (depth + 1) head (a :: args) b := by
  have haccepts : ∀ t ∈ a :: args, k.accepts t.kind = true :=
    fun t ht => (hargs t ht).symm ▸ Kind.accepts_self (Kind.isPrimitive_of_ordered hk)
  have hchild : ∀ t ∈ a :: args, acceptsChild i.chain k t = .ok true := by
    intro t ht
    have hb := Token.not_block_of_kind hk (hargs t ht)
    cases t with
    | block => cases hb
    | _ => exact congrArg Except.ok (haccepts _ ht)
  have ha : a.kind = k := hargs a List.mem_cons_self
  have hvalues : List.Forall₂ (fun t v => RuleExpr.evaluate depth t ⟨i.config, i.parents⟩ i.scope = (.ok v, i.scope))
      (a :: args) (a :: args) := forall₂_values fun t ht => Token.not_block_of_kind hk (hargs t ht)
  have hs := parameterKind_uniform name k count
  obtain ⟨text, hcall⟩ := evaluateBlock_of_first_steady (c := ⟨i.config, i.parents⟩) h hh (ha ▸ hsole)
    (evaluatesAll_uniform name hk _) boolean_quotes (acceptsChildren_of_kind hs hchild) hvalues
    (acceptsValues_of_kind hs haccepts) hrun
  exact Interpreter.run_steady hcall

end Values

/-! ## The tests -/

/-- The tests that have an overload for each kind. -/
inductive OrderTest where
  | less
  | greater
  | atMost
  | atLeast

namespace OrderTest

/-- The name of the test. -/
def name : OrderTest → String
  | less => "<"
  | greater => ">"
  | atMost => "<="
  | atLeast => ">="

/-- What the test does. -/
def op : OrderTest → Comparison
  | less => .less
  | greater => .greater
  | atMost => .atMost
  | atLeast => .atLeast

/-- Where the test holds. -/
def holds : OrderTest → Ordering → Bool
  | less, order => order == .lt
  | greater, order => order == .gt
  | atMost, order => order != .gt
  | atLeast, order => order != .lt

variable (f : OrderTest)

/-- All tests of order. -/
def all : List OrderTest := [less, greater, atMost, atLeast]

theorem mem_all : f ∈ all := by cases f <;> simp [all]

theorem declares_all : ∀ f ∈ all, ∀ k ∈ Kind.comparable, (catalogue.filter fun g =>
    g.signature.key == Text.foldCase f.name && g.signature.admits 2 && (g.signature.parameterKind 0).accepts k).map
      (Function.declares · (uniform f.name k 2) (.comparison f.op)) = [true] := by
  decide +kernel

/-- The overload for a kind is the only one that takes a value of the kind first. -/
theorem sole {k : Kind} (hk : k ∈ Kind.comparable) :
    Function.SoleFirst f.name 2 k (uniform f.name k 2) (.comparison f.op) :=
  Function.soleFirst_of_filter (declares_all f f.mem_all k hk)

variable {f} {a b : Token}

theorem run_op (ha : a.kind ∈ Kind.ordered) (hb : b.kind = a.kind) :
    f.op.run [a, b] = .ok (.boolean (f.holds (Token.rankOrder a b))) := by
  have hordering : ∀ function test, Comparison.ordering function test [a, b] =
      .ok (.boolean (test (Token.rankOrder a b))) := by
    intro function test
    simp only [Comparison.ordering, Arguments.two, bind, Except.bind, Token.compareAtoms_of_kind ha hb]
  cases f <;> exact hordering _ _

/-- **A test of two values of one kind holds where the order says so.** -/
theorem gives {i : Interpreter} {k : Kind} (h : Offers i.chain f.name) (hk : k ∈ Kind.comparable) (ha : a.kind = k)
    (hb : b.kind = k) (depth : Nat) : i.Gives (depth + 1) f.name [a, b] (f.holds (Token.rankOrder a b)) := by
  have ho := Kind.ordered_of_comparable hk
  refine Interpreter.gives_uniform h (by cases f <;> rfl) (f.sole hk) ho ?_ ?_
  · exact List.forall_mem_cons.2 ⟨ha, List.forall_mem_singleton.2 hb⟩
  · show (f.op.run [a, b], i.scope) = _
    rw [run_op (ha ▸ ho) (hb.trans ha.symm)]

end OrderTest

/-- Values of one kind are equal where the order says so. -/
theorem Interpreter.gives_equal {i : Interpreter} {a b : Token} {k : Kind} (h : Offers i.chain "=")
    (hk : k ∈ Kind.comparable) (ha : a.kind = k) (hb : b.kind = k) (depth : Nat) :
    i.Gives (depth + 1) "=" [a, b] (Token.rankOrder a b == .eq) := by
  have hna := Token.not_block_of_kind (Kind.ordered_of_comparable hk) ha
  have hnb := Token.not_block_of_kind (Kind.ordered_of_comparable hk) hb
  have hva : RuleExpr.evaluate depth a ⟨i.config, i.parents⟩ i.scope = (.ok a, i.scope) := evaluate_value hna
  obtain ⟨r, hequal, hr⟩ := evaluate_equal (c := ⟨i.config, i.parents⟩) h (acceptsChild_value _ hna)
    (acceptsChild_value _ hnb) hva (evaluate_value hnb) hna hnb
  rw [Token.looseEqual_eq_rankOrder hk ha hb] at hr
  obtain rfl : r = .ok (.boolean (Token.rankOrder a b == .eq)) := hr
  exact Interpreter.run_steady hequal

/-- The tests of two times. -/
inductive TimeTest where
  | before
  | after

namespace TimeTest

/-- The name of the test. -/
def name : TimeTest → String
  | before => "before"
  | after => "after"

/-- What the test does. -/
def op : TimeTest → TimeOperation
  | before => .before
  | after => .after

/-- The test for any kind that it is for times. -/
def general : TimeTest → OrderTest
  | before => .less
  | after => .greater

theorem sole (f : TimeTest) : Function.Sole f.name 2 (uniform f.name .time 2) (.time f.op) := by
  cases f <;> exact Function.sole_of_filter (by decide +kernel)

theorem gives {i : Interpreter} {f : TimeTest} (h : Offers i.chain f.name) (s t : Timestamp) (depth : Nat) :
    i.Gives (depth + 1) f.name [.time s, .time t] (f.general.holds (s.compare t)) := by
  refine Interpreter.gives_uniform h (by cases f <;> rfl) (f.sole.first Kind.time) (by decide)
    (List.forall_mem_cons.2 ⟨rfl, List.forall_mem_singleton.2 rfl⟩) ?_
  cases f <;> rfl

end TimeTest

/-- The tests whether a value lies in a range. -/
inductive RangeTest where
  | decimals
  | times

namespace RangeTest

/-- The name of the test. -/
def name : RangeTest → String
  | decimals => "between"
  | times => "betweenTimes"

/-- The kind of the value and of the ends of the range. -/
def kind : RangeTest → Kind
  | decimals => Kind.decimal
  | times => Kind.time

/-- What the test does. -/
def op : RangeTest → Builtin
  | decimals => .comparison .between
  | times => .time .between

theorem sole (f : RangeTest) : Function.Sole f.name 3 (uniform f.name f.kind 3) f.op := by
  cases f <;> exact Function.sole_of_filter (by decide +kernel)

/-- A range holds what is at least its lower end and at most its upper end. -/
theorem gives {i : Interpreter} {f : RangeTest} {v lo hi : Token} (h : Offers i.chain f.name) (hv : v.kind = f.kind)
    (hlo : lo.kind = f.kind) (hhi : hi.kind = f.kind) (depth : Nat) :
    i.Gives (depth + 1) f.name [v, lo, hi] (OrderTest.atMost.holds (Token.rankOrder lo v) &&
      OrderTest.atMost.holds (Token.rankOrder v hi)) := by
  refine Interpreter.gives_uniform h (by cases f <;> rfl) (f.sole.first f.kind) (by cases f <;> decide)
    (List.forall_mem_cons.2 ⟨hv, List.forall_mem_cons.2 ⟨hlo, List.forall_mem_singleton.2 hhi⟩⟩) ?_
  cases f with
  | decimals =>
    obtain ⟨v, rfl⟩ := Token.exists_decimal hv
    obtain ⟨lo, rfl⟩ := Token.exists_decimal hlo
    obtain ⟨hi, rfl⟩ := Token.exists_decimal hhi
    rw [Token.rankOrder_decimal, Token.rankOrder_decimal]
    rfl
  | times =>
    obtain ⟨v, rfl⟩ := Token.exists_time hv
    obtain ⟨lo, rfl⟩ := Token.exists_time hlo
    obtain ⟨hi, rfl⟩ := Token.exists_time hhi
    rw [Token.rankOrder_time, Token.rankOrder_time]
    rfl

end RangeTest

/-! ## One order -/

namespace OrderTest

variable {a b c : Token}

/-- Being less, and being at most, goes on from value to value. -/
theorem holds_trans {f : OrderTest} (hf : f = less ∨ f = atMost) (hab : f.holds (Token.rankOrder a b) = true)
    (hbc : f.holds (Token.rankOrder b c) = true) : f.holds (Token.rankOrder a c) = true := by
  have hle : ∀ order, atMost.holds order = order.isLE := fun order => by cases order <;> rfl
  rcases hf with rfl | rfl
  · simp only [holds, beq_iff_eq] at *
    exact TransCmp.lt_trans hab hbc
  · rw [hle] at *
    exact TransCmp.isLE_trans hab hbc

end OrderTest

namespace Interpreter

/-- The names of the tests. -/
def comparisonNames : List String :=
  ["<", "=", ">", "<=", ">=", "between", "before", "after", "betweenTimes"]

section Parts

variable {i : Interpreter} (h : ∀ head ∈ comparisonNames, Offers i.chain head) (depth : Nat) {k : Kind}
  {a b c : Token}

include h

theorem gives_orderTest (f : OrderTest) (hk : k ∈ Kind.comparable) (ha : a.kind = k) (hb : b.kind = k) :
    i.Gives (depth + 1) f.name [a, b] (f.holds (Token.rankOrder a b)) :=
  f.gives (h _ (by cases f <;> simp [OrderTest.name, comparisonNames])) hk ha hb depth

/-- One of less, equal and greater holds, and from it follows what the other tests give. -/
theorem gives_tests (hk : k ∈ Kind.comparable) (ha : a.kind = k) (hb : b.kind = k) : ∃ less equal greater,
    i.Gives (depth + 1) "<" [a, b] less ∧ i.Gives (depth + 1) "=" [a, b] equal ∧
      i.Gives (depth + 1) ">" [a, b] greater ∧ [less, equal, greater].count true = 1 ∧
      i.Gives (depth + 1) "<=" [a, b] !greater ∧ i.Gives (depth + 1) ">=" [a, b] !less ∧
      i.Gives (depth + 1) ">" [b, a] less := by
  have hequal : i.Gives (depth + 1) "=" [a, b] (Token.rankOrder a b == .eq) :=
    gives_equal (h _ (by simp [comparisonNames])) hk ha hb depth
  have hgreater : i.Gives (depth + 1) ">" [b, a] (OrderTest.greater.holds (Token.rankOrder b a)) :=
    gives_orderTest h depth .greater hk hb ha
  have hswap : Token.rankOrder b a = (Token.rankOrder a b).swap := OrientedCmp.eq_swap
  have hback : ∀ order : Ordering, OrderTest.greater.holds order.swap = OrderTest.less.holds order :=
    fun order => by cases order <;> rfl
  have hone : ∀ order : Ordering,
      [OrderTest.less.holds order, order == .eq, OrderTest.greater.holds order].count true = 1 :=
    fun order => by cases order <;> rfl
  rw [hswap, hback] at hgreater
  exact ⟨_, _, _, gives_orderTest h depth .less hk ha hb, hequal, gives_orderTest h depth .greater hk ha hb,
    hone _, gives_orderTest h depth .atMost hk ha hb, gives_orderTest h depth .atLeast hk ha hb, hgreater⟩

theorem holds_of_gives (f : OrderTest) (hk : k ∈ Kind.comparable) (ha : a.kind = k) (hb : b.kind = k)
    (hgives : i.Gives (depth + 1) f.name [a, b] true) : f.holds (Token.rankOrder a b) = true := by
  have hr := (gives_orderTest h depth f hk ha hb).symm.trans hgives
  simpa using hr

theorem gives_trans {f : OrderTest} (hf : f = .less ∨ f = .atMost) (hk : k ∈ Kind.comparable) (ha : a.kind = k)
    (hb : b.kind = k) (hc : c.kind = k) (hab : i.Gives (depth + 1) f.name [a, b] true)
    (hbc : i.Gives (depth + 1) f.name [b, c] true) : i.Gives (depth + 1) f.name [a, c] true := by
  have hac := OrderTest.holds_trans hf (holds_of_gives h depth f hk ha hb hab) (holds_of_gives h depth f hk hb hc hbc)
  exact hac ▸ gives_orderTest h depth f hk ha hc

/-- The test of a range is that of its two ends. -/
theorem gives_range (f : RangeTest) (v lo hi : Token) (hv : v.kind = f.kind) (hlo : lo.kind = f.kind)
    (hhi : hi.kind = f.kind) : ∃ above below, i.Gives (depth + 1) "<=" [lo, v] above ∧
      i.Gives (depth + 1) "<=" [v, hi] below ∧ i.Gives (depth + 1) f.name [v, lo, hi] (above && below) := by
  have hk : f.kind ∈ Kind.comparable := by cases f <;> decide
  exact ⟨_, _, gives_orderTest h depth .atMost hk hlo hv, gives_orderTest h depth .atMost hk hv hhi,
    f.gives (h _ (by cases f <;> simp [RangeTest.name, comparisonNames])) hv hlo hhi depth⟩

theorem gives_timeTest (f : TimeTest) (s t : Timestamp) (o p : Int) : ∃ b,
    i.Gives (depth + 1) f.general.name [.time s, .time t] b ∧
      i.Gives (depth + 1) f.name [.time { s with offset := o }, .time { t with offset := p }] b := by
  have hgeneral := gives_orderTest h depth f.general (a := .time s) (b := .time t) (k := Kind.time) (by decide) rfl rfl
  rw [Token.rankOrder_time] at hgeneral
  exact ⟨_, hgeneral, f.gives (h _ (by cases f <;> simp [TimeTest.name, comparisonNames])) _ _ depth⟩

/-- The offset of a time does not matter. -/
theorem gives_of_offset (f : OrderTest) {s t : Timestamp} {o p : Int} {x : Bool}
    (hgives : i.Gives (depth + 1) f.name [.time { s with offset := o }, .time { t with offset := p }] x) :
    i.Gives (depth + 1) f.name [.time s, .time t] x := by
  have hst := gives_orderTest h depth f (a := .time s) (b := .time t) (k := Kind.time) (by decide) rfl rfl
  have hoffset := gives_orderTest h depth f (a := .time { s with offset := o }) (b := .time { t with offset := p })
    (k := Kind.time) (by decide) rfl rfl
  rw [Token.rankOrder_time] at hst hoffset
  have hx := hgives.symm.trans hoffset
  exact hst.trans hx.symm

end Parts

/-- **The tests for two values of one kind are those of one total order.** Exactly one of less, equal and greater holds,
the other two tests are the negations, and the order is transitive; the test of a range of decimals is that of its two
ends, and so are the tests that times have besides, whatever their offsets. -/
theorem comparisons_agree {i : Interpreter} (h : ∀ head ∈ comparisonNames, Offers i.chain head) {depth : Nat}
    (hdepth : 1 ≤ depth) :
    (∀ k ∈ [Kind.decimal, Kind.string, Kind.time],
      (∀ a b, a.kind = k → b.kind = k → ∃ less equal greater, i.Gives depth "<" [a, b] less ∧
        i.Gives depth "=" [a, b] equal ∧ i.Gives depth ">" [a, b] greater ∧ [less, equal, greater].count true = 1 ∧
        i.Gives depth "<=" [a, b] !greater ∧ i.Gives depth ">=" [a, b] !less ∧ i.Gives depth ">" [b, a] less) ∧
      ∀ a b c, a.kind = k → b.kind = k → c.kind = k → ∀ head ∈ ["<", "<="], i.Gives depth head [a, b] true →
        i.Gives depth head [b, c] true → i.Gives depth head [a, c] true) ∧
    (∀ v lo hi : Decimal, ∃ above below, i.Gives depth "<=" [.decimal lo, .decimal v] above ∧
      i.Gives depth "<=" [.decimal v, .decimal hi] below ∧
        i.Gives depth "between" [.decimal v, .decimal lo, .decimal hi] (above && below)) ∧
    ∀ (s t u : Timestamp) (o p q : Int),
      let s' := { s with offset := o }
      let t' := { t with offset := p }
      let u' := { u with offset := q }
      (∃ less, i.Gives depth "<" [.time s, .time t] less ∧ i.Gives depth "before" [.time s', .time t'] less) ∧
      (∃ greater, i.Gives depth ">" [.time s, .time t] greater ∧ i.Gives depth "after" [.time s', .time t'] greater) ∧
      ∃ above below, i.Gives depth "<=" [.time t, .time s] above ∧ i.Gives depth "<=" [.time s, .time u] below ∧
        i.Gives depth "betweenTimes" [.time s', .time t', .time u'] (above && below) := by
  obtain ⟨n, rfl⟩ := Nat.exists_eq_add_of_le' hdepth
  refine ⟨fun k hk => ⟨fun a b ha hb => ?tests, fun a b c ha hb hc head hhead => ?trans⟩, fun v lo hi => ?range,
    fun s t u o p q => ⟨?before, ?after, ?times⟩⟩
  case tests => exact gives_tests h n hk ha hb
  case trans =>
    obtain rfl | hhead := List.mem_cons.1 hhead
    · exact gives_trans h n (f := .less) (.inl rfl) hk ha hb hc
    · obtain rfl := List.mem_singleton.1 hhead
      exact gives_trans h n (f := .atMost) (.inr rfl) hk ha hb hc
  case range => exact gives_range h n .decimals _ _ _ rfl rfl rfl
  case before => exact gives_timeTest h n .before s t o p
  case after => exact gives_timeTest h n .after s t o p
  case times =>
    obtain ⟨above, below, habove, hbelow, hbetween⟩ := gives_range h n .times (.time { s with offset := o })
      (.time { t with offset := p }) (.time { u with offset := q }) rfl rfl rfl
    exact ⟨above, below, gives_of_offset h n .atMost habove, gives_of_offset h n .atMost hbelow, hbetween⟩

/-- Midnight, and a second later as it is written two hours further east. -/
theorem comparisons_agree_midnight :
    let i := root {} (.map [])
    let midnight : Timestamp := ⟨0, ⟨0, 0⟩, 0⟩
    let later : Timestamp := ⟨0, ⟨1, 0⟩, 0⟩
    let later' : Timestamp := { later with offset := 7200 }
    (∀ head ∈ comparisonNames, Offers i.chain head) ∧ 1 ≤ 1 ∧
      (Token.time midnight).kind = Kind.time ∧ (Token.time later).kind = Kind.time ∧
      (∃ less equal greater, i.Gives 1 "<" [.time midnight, .time later] less ∧
        i.Gives 1 "=" [.time midnight, .time later] equal ∧ i.Gives 1 ">" [.time midnight, .time later] greater ∧
        [less, equal, greater].count true = 1) ∧
      ∃ less, i.Gives 1 "<" [.time midnight, .time later] less ∧
        i.Gives 1 "before" [.time midnight, .time later'] less := by
  intro i midnight later later'
  have hc : HasCatalogue i.chain := HasCatalogue.root {} _
  obtain ⟨htests, -, htimes⟩ := comparisons_agree (i := i) (fun head _ => hc.offers head) (Nat.le_refl 1)
  obtain ⟨less, equal, greater, hless, hequal, hgreater, hone, -⟩ :=
    (htests Kind.time (by decide)).1 (.time midnight) (.time later) rfl rfl
  exact ⟨fun head _ => hc.offers head, Nat.le_refl 1, rfl, rfl, ⟨less, equal, greater, hless, hequal, hgreater, hone⟩,
    (htimes midnight later later 0 7200 0).1⟩

end Interpreter

end RuleExpr
