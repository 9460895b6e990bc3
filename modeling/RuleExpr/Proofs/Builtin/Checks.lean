import RuleExpr.Proofs.Builtin.Aggregate
import RuleExpr.Proofs.Evaluation.Call
import RuleExpr.Proofs.Token.Order

/-!
# Checks of arguments

A body checks its arguments, which a signature has admitted and accepted before. It has a demand on them (`Demand`):
how many they are and of which kinds. What a signature accepts meets a demand that it covers (`Demand.met_of_covers`),
which is decided from the two alone.

A body that computes and whose demand is met passes its checks (`passes_run`). Some list operations check the elements
of their list, too, which no signature speaks of; these fail because of an element (`ListOperation.Blame`).
-/

namespace RuleExpr

/-! ## Demands -/

/-- How many arguments a body takes: as many as `least`, and more if it says so. -/
structure Counts where
  least : Nat
  more : Bool

namespace Counts

/-- Whether the number of arguments is right. -/
def admits (c : Counts) (count : Nat) : Bool := if c.more then c.least ≤ count else count == c.least

/-- Whether every number that the signature admits is right. -/
def covers (c : Counts) (s : Signature) : Bool :=
  if s.variadic then c.more && (c.least == 0 || c.least < s.parameters.length) else c.admits s.parameters.length

/-- A signature that repeats its last parameter admits one argument fewer than it lists, so its least number counts. -/
theorem admits_of_covers {c : Counts} {s : Signature} {count : Nat} (hc : c.covers s = true)
    (hs : s.admits count = true) : c.admits count = true := by
  unfold covers at hc
  unfold Signature.admits at hs
  split at hc
  · next hv =>
    rw [if_pos hv, decide_eq_true_eq] at hs
    simp only [Bool.and_eq_true, Bool.or_eq_true, beq_iff_eq, decide_eq_true_eq] at hc
    rw [admits, if_pos hc.1, decide_eq_true_eq]
    omega
  · next hv =>
    rw [if_neg hv, beq_iff_eq] at hs
    rwa [hs]

end Counts

/-- What a body needs its arguments to be: how many, of which kind the first, and of which kind the others. -/
structure Demand where
  counts : Counts
  first : Kind := Kind.any
  rest : Kind := Kind.any

namespace Demand

/-- The kind that is needed at an index. -/
def kind (d : Demand) : Nat → Kind
  | 0 => d.first
  | _ + 1 => d.rest

/-- The arguments are as the body needs them. -/
structure Met (d : Demand) (args : List Token) : Prop where
  counts : d.counts.admits args.length = true
  kinds : ∀ i t, args[i]? = some t → (d.kind i).accepts t.kind = true

/-- Whether an evaluated argument at an index is of the kind that is needed. -/
def coversAt (d : Demand) (s : Signature) (i : Nat) : Bool :=
  d.kind i == Kind.any || !s.quotes i && (d.kind i).includes (s.parameterKind i)

/-- Whether all that the signature accepts is what the body needs. -/
def covers (d : Demand) (s : Signature) : Bool :=
  d.counts.covers s && s.parameters != [] && (List.range s.parameters.length).all (d.coversAt s)
    && (!s.variadic || d.coversAt s s.parameters.length)

variable {d : Demand} {s : Signature} {args : List Token} {t : Token} {i : Nat}

/-- What is not quoted has been evaluated and accepted, so a kind that takes all of those accepts it. -/
theorem accepts_of_coversAt (hc : d.coversAt s i = true)
    (hv : s.quotes i = true ∨ (s.parameterKind i).accepts t.kind = true) : (d.kind i).accepts t.kind = true := by
  rw [coversAt, Bool.or_eq_true, beq_iff_eq, Bool.and_eq_true, Bool.not_eq_true'] at hc
  rcases hc with hany | ⟨hquotes, hincludes⟩
  · exact hany ▸ Token.any_accepts_kind t
  · rw [hquotes] at hv
    exact Kind.accepts_of_includes_left hincludes (hv.resolve_left Bool.false_ne_true)

/-- Beyond the parameters all arguments are needed and accepted alike. -/
theorem coversAt_of_le (hne : s.parameters ≠ []) (hi : s.parameters.length ≤ i)
    (hc : d.coversAt s s.parameters.length = true) : d.coversAt s i = true := by
  have hpos : 0 < s.parameters.length := List.length_pos_iff.2 hne
  have hkind : s.parameterKind i = s.parameterKind s.parameters.length := by
    simp only [Signature.parameterKind, List.getElem?_eq_none hi, List.getElem?_eq_none (Nat.le_refl _)]
  have hneed : d.kind i = d.kind s.parameters.length := by
    obtain ⟨n, hn⟩ := Nat.exists_eq_add_of_lt (Nat.lt_of_lt_of_le hpos hi)
    obtain ⟨m, hm⟩ := Nat.exists_eq_add_of_lt hpos
    rw [hn, hm]
    rfl
  simpa only [coversAt, Signature.quotes, hkind, hneed] using hc

/-- What a signature admits and accepts is what the body needs. -/
theorem met_of_covers (hc : d.covers s = true) (ha : s.admits args.length = true)
    (hv : acceptsValues s args = true) : d.Met args := by
  simp only [covers, Bool.and_eq_true, bne_iff_ne, List.all_eq_true, List.mem_range, Bool.or_eq_true] at hc
  obtain ⟨⟨⟨hcounts, hne⟩, hkinds⟩, hmore⟩ := hc
  refine ⟨Counts.admits_of_covers hcounts ha, fun i t hi => ?_⟩
  refine accepts_of_coversAt ?_ (acceptsValues_iff.1 hv i t hi)
  by_cases hlt : i < s.parameters.length
  · exact hkinds i hlt
  · -- an argument beyond the parameters is one of a signature that repeats the last
    have hlength : i < args.length := (List.getElem?_eq_some_iff.1 hi).1
    rcases hmore with hfixed | hlast
    · rw [Bool.not_eq_true'] at hfixed
      rw [Signature.admits, hfixed, if_neg Bool.false_ne_true, beq_iff_eq] at ha
      omega
    · exact coversAt_of_le hne (Nat.le_of_not_lt hlt) hlast

namespace Met

/-- The one argument is the first; so the arguments are taken apart for the other numbers below. -/
theorem one (h : d.Met args) (hc : d.counts = ⟨1, false⟩) : ∃ a, args = [a] ∧ d.first.accepts a.kind = true := by
  have hn := h.counts
  rw [hc] at hn
  obtain ⟨a, rfl⟩ := List.length_eq_one_iff.1 (eq_of_beq hn)
  exact ⟨a, rfl, h.kinds 0 a rfl⟩

theorem two (h : d.Met args) (hc : d.counts = ⟨2, false⟩) :
    ∃ a b, args = [a, b] ∧ d.first.accepts a.kind = true ∧ d.rest.accepts b.kind = true := by
  have hn := h.counts
  rw [hc] at hn
  obtain ⟨a, b, rfl⟩ := List.length_eq_two.1 (eq_of_beq hn)
  exact ⟨a, b, rfl, h.kinds 0 a rfl, h.kinds 1 b rfl⟩

theorem three (h : d.Met args) (hc : d.counts = ⟨3, false⟩) : ∃ a b c, args = [a, b, c] ∧
    d.first.accepts a.kind = true ∧ d.rest.accepts b.kind = true ∧ d.rest.accepts c.kind = true := by
  have hn := h.counts
  rw [hc] at hn
  obtain ⟨a, b, c, rfl⟩ := List.length_eq_three.1 (eq_of_beq hn)
  exact ⟨a, b, c, rfl, h.kinds 0 a rfl, h.kinds 1 b rfl, h.kinds 2 c rfl⟩

/-- There is a first argument, and any number of others. -/
theorem cons (h : d.Met args) (hc : d.counts = ⟨1, true⟩) :
    ∃ a more, args = a :: more ∧ d.first.accepts a.kind = true ∧ ∀ t ∈ more, d.rest.accepts t.kind = true := by
  have hn := h.counts
  rw [hc] at hn
  obtain ⟨a, more, rfl⟩ := List.exists_cons_of_length_pos (of_decide_eq_true hn)
  refine ⟨a, more, rfl, h.kinds 0 a rfl, fun t ht => ?_⟩
  obtain ⟨i, hi⟩ := List.mem_iff_getElem?.1 ht
  exact h.kinds (i + 1) t hi

end Met

end Demand

/-! ## What passes -/

/-- Whether the cause is a check of arguments: of their number, their kinds, a body of a loop that is not there, or a
list without elements. -/
def Error.isCheck (e : Error) : Bool :=
  match e.root with
  | .arity .. | .kindMismatch .. | .invalidArgument (.missingBody _) | .invalidArgument (.emptyList _) => true
  | _ => false

/-- There is one cause only that aborts. -/
theorem Error.root_of_aborts {e : Error} (h : e.aborts = true) : e.root = .overflow := by
  induction e with
  | call _ cause ih => exact ih h
  | decimal fault =>
    cases fault with
    | overflow => rfl
    | _ => cases h
  | _ => cases h

/-- What aborts is no failure of a check. -/
theorem Error.isCheck_of_aborts (e : Error) (h : e.aborts = true) : e.isCheck = false := by
  rw [isCheck, root_of_aborts h]
  rfl

/-- If the outcome is a failure, it is not that of a check. -/
def Passes {α : Type} (r : Except Error α) : Prop := Fails (fun e => e.isCheck = false) r

/-- There is nothing to say about the failure of a check then. -/
theorem Passes.checked {α : Type} {r : Except Error α} (h : Passes r) (P : Error → Prop) :
    Fails (fun e => e.isCheck = true → P e) r :=
  h.mono fun _ hpass hcheck => absurd (hpass.symm.trans hcheck) Bool.false_ne_true

namespace Token

variable {t : Token}

/-- Each primitive kind accepts tokens of one form only. -/
theorem decimal_of_accepts (h : Kind.decimal.accepts t.kind = true) : ∃ d, t = decimal d :=
  exists_decimal (kind_of_accepts rfl h)

theorem string_of_accepts (h : Kind.string.accepts t.kind = true) : ∃ s, t = string s :=
  exists_string (kind_of_accepts rfl h)

theorem time_of_accepts (h : Kind.time.accepts t.kind = true) : ∃ s, t = time s :=
  exists_time (kind_of_accepts rfl h)

theorem list_of_accepts (h : Kind.list.accepts t.kind = true) : ∃ items, t = list items :=
  exists_list (kind_of_accepts rfl h)

end Token

/-- One or more decimals. -/
theorem Demand.Met.decimals {d : Demand} {args : List Token} (h : d.Met args) (hc : d.counts = ⟨1, true⟩)
    (hfirst : d.first = Kind.decimal) (hrest : d.rest = Kind.decimal) :
    ∃ x xs, args = List.map Token.decimal (x :: xs) := by
  obtain ⟨a, more, rfl, ha, hmore⟩ := h.cons hc
  obtain ⟨x, rfl⟩ := Token.decimal_of_accepts (hfirst ▸ ha)
  obtain ⟨xs, rfl⟩ := ListOperation.exists_decimals fun t ht => Token.kind_of_accepts rfl (hrest ▸ hmore t ht)
  exact ⟨x, xs, rfl⟩

/-! ## Readings of words -/

/-- A word that cannot be read is too large a number. -/
theorem Token.passes_infer (w : String) : Passes (Token.infer w) := fun e he => by
  obtain ⟨rfl, -⟩ := Token.infer_eq_error_iff.1 he
  rfl

/-- A comparison fails where a string on either side cannot be read, if at all. -/
theorem Token.passes_looseEqual (a b : Token) : Passes (a.looseEqual b) := by
  unfold looseEqual
  split
  · exact .ok _
  · split
    · exact .map (passes_infer _)
    · exact .map (passes_infer _)
    · exact .ok _

/-! ## Bodies that compute -/

section

variable {function : String} {args : List Token}

/-- The value of an index is restricted, but that is no check of its kind. -/
theorem Arguments.passes_index (d : Decimal) : Passes (Arguments.index function (.decimal d)) := by
  refine .bind (.ok d) fun d _ => ?_
  split
  · exact .error rfl
  · exact .mapError fun _ => rfl

namespace Arithmetic

/-- Arithmetic needs decimals. -/
def demand : Arithmetic → Demand
  | add | subtract | multiply | divide => ⟨⟨1, true⟩, Kind.decimal, Kind.decimal⟩
  | modulo => ⟨⟨2, false⟩, Kind.decimal, Kind.decimal⟩
  | floor | ceil => ⟨⟨1, false⟩, Kind.decimal, Kind.decimal⟩

variable {op : Decimal → Decimal → Except Error Decimal}

/-- By induction on the operands that are left: each is a decimal, so only the operation can fail. -/
theorem passes_foldFrom (hop : ∀ a b, Passes (op a b)) (acc : Decimal) (xs : List Decimal) :
    Passes (foldFrom function op acc (xs.map .decimal)) := by
  induction xs generalizing acc with
  | nil => exact .ok acc
  | cons x xs ih => exact .bind (.ok x) fun _ _ => .bind (hop acc _) fun acc _ => ih acc

/-- A fold over decimals fails where one of its steps does. -/
theorem passes_fold (hop : ∀ a b, Passes (op a b)) (x : Decimal) (xs : List Decimal) :
    Passes (fold function op ((x :: xs).map .decimal)) :=
  .bind (.ok x) fun _ _ => .bind (passes_foldFrom hop _ xs) fun _ _ => .ok _

/-- A single operand is negated, which cannot fail. -/
theorem passes_difference (x : Decimal) (xs : List Decimal) : Passes (difference ((x :: xs).map .decimal)) := by
  cases xs with
  | nil => exact .ok _
  | cons y ys => exact passes_fold (fun _ _ => .ok _) x (y :: ys)

theorem passes_unary {op : Decimal → Decimal} (h : (⟨⟨1, false⟩, Kind.decimal, Kind.decimal⟩ : Demand).Met args) :
    Passes (unary function op args) := by
  obtain ⟨a, rfl, ha⟩ := h.one rfl
  obtain ⟨x, rfl⟩ := Token.decimal_of_accepts ha
  exact .ok _

/-- A remainder by zero fails, but not as a check does. -/
theorem passes_remainder (h : (⟨⟨2, false⟩, Kind.decimal, Kind.decimal⟩ : Demand).Met args) :
    Passes (remainder args) := by
  obtain ⟨a, b, rfl, ha, hb⟩ := h.two rfl
  obtain ⟨x, rfl⟩ := Token.decimal_of_accepts ha
  obtain ⟨y, rfl⟩ := Token.decimal_of_accepts hb
  show Passes ((x.remainder y).mapError Error.decimal >>= fun r => .ok (Token.decimal r))
  exact .bind (.mapError fun _ => rfl) fun _ _ => .ok _

/-- **Arithmetic with decimals passes its checks**; what fails is the calculation. -/
theorem passes_run (precision : Nat) (op : Arithmetic) (h : op.demand.Met args) : Passes (op.run precision args) := by
  cases op with
  | add =>
    obtain ⟨x, xs, rfl⟩ := h.decimals rfl rfl rfl
    exact passes_fold (fun _ _ => .ok _) x xs
  | subtract =>
    obtain ⟨x, xs, rfl⟩ := h.decimals rfl rfl rfl
    exact passes_difference x xs
  | multiply =>
    obtain ⟨x, xs, rfl⟩ := h.decimals rfl rfl rfl
    exact passes_fold (fun _ _ => .mapError fun _ => rfl) x xs
  | divide =>
    obtain ⟨x, xs, rfl⟩ := h.decimals rfl rfl rfl
    exact passes_fold (fun _ _ => .mapError fun _ => rfl) x xs
  | modulo => exact passes_remainder h
  | floor => exact passes_unary h
  | ceil => exact passes_unary h

end Arithmetic

namespace Comparison

/-- Tests of equality need two arguments, tests of order two of one kind that has an order, a range three decimals. -/
def demands : Comparison → List Demand
  | equal | unequal => [{ counts := ⟨2, false⟩ }]
  | greater | less | atLeast | atMost => Kind.ordered.map fun k => ⟨⟨2, false⟩, k, k⟩
  | between => [⟨⟨3, false⟩, Kind.decimal, Kind.decimal⟩]

variable {d : Demand}

/-- Equality tests two tokens of any kind: reading a string again can overflow and fails in no other way. -/
theorem passes_equality {test : Bool → Bool} (hd : d ∈ [({ counts := ⟨2, false⟩ } : Demand)]) (h : d.Met args) :
    Passes (equality function test args) := by
  obtain rfl := List.mem_singleton.1 hd
  obtain ⟨a, b, rfl, -, -⟩ := h.two rfl
  refine .bind (.ok (a, b)) fun p hp => ?_
  cases hp
  exact .bind (Token.passes_looseEqual a b) fun _ _ => .ok _

/-- Two tokens of one kind that has an order are comparable. -/
theorem passes_ordering {test : Ordering → Bool} (hd : d ∈ Kind.ordered.map fun k => ⟨⟨2, false⟩, k, k⟩)
    (h : d.Met args) : Passes (ordering function test args) := by
  obtain ⟨k, hk, rfl⟩ := List.mem_map.1 hd
  obtain ⟨a, b, rfl, ha, hb⟩ := h.two rfl
  have ha' : a.kind = k := Kind.ordered_accepts hk ha
  have hb' : b.kind = k := Kind.ordered_accepts hk hb
  have hcompare := Token.compareAtoms_of_kind (ha' ▸ hk) (hb'.trans ha'.symm)
  refine .bind (.ok (a, b)) fun p hp => ?_
  cases hp
  dsimp only
  rw [hcompare]
  exact .ok _

theorem passes_inRange (hd : d ∈ [(⟨⟨3, false⟩, Kind.decimal, Kind.decimal⟩ : Demand)]) (h : d.Met args) :
    Passes (inRange args) := by
  obtain rfl := List.mem_singleton.1 hd
  obtain ⟨v, lo, hi, rfl, hv, hlo, hhi⟩ := h.three rfl
  obtain ⟨x, rfl⟩ := Token.decimal_of_accepts hv
  obtain ⟨y, rfl⟩ := Token.decimal_of_accepts hlo
  obtain ⟨z, rfl⟩ := Token.decimal_of_accepts hhi
  exact .ok _

/-- **A comparison passes on the arguments of any one of its demands.** -/
theorem passes_run (op : Comparison) (hd : d ∈ op.demands) (h : d.Met args) : Passes (op.run args) := by
  cases op with
  | equal => exact passes_equality hd h
  | unequal => exact passes_equality hd h
  | greater => exact passes_ordering hd h
  | less => exact passes_ordering hd h
  | atLeast => exact passes_ordering hd h
  | atMost => exact passes_ordering hd h
  | between => exact passes_inRange hd h

end Comparison

namespace TextOperation

/-- What an operation on strings needs. -/
def demand : TextOperation → Demand
  | concat => { counts := ⟨0, true⟩ }
  | contains => ⟨⟨1, true⟩, Kind.string, Kind.string⟩
  | notContains => { counts := ⟨1, true⟩ }
  | startsWith | endsWith | matchesPattern | split => ⟨⟨2, false⟩, Kind.string, Kind.string⟩
  | firstName | lastName | count | reverse => { counts := ⟨1, false⟩, first := Kind.string }

theorem passes_onString {op : String → Token} (h : ({ counts := ⟨1, false⟩, first := Kind.string } : Demand).Met args) :
    Passes (onString function op args) := by
  obtain ⟨a, rfl, ha⟩ := h.one rfl
  obtain ⟨s, rfl⟩ := Token.string_of_accepts ha
  exact .ok _

theorem passes_onStrings {op : String → String → Except Error Token} (hop : ∀ s t, Passes (op s t))
    (h : (⟨⟨2, false⟩, Kind.string, Kind.string⟩ : Demand).Met args) : Passes (onStrings function op args) := by
  obtain ⟨a, b, rfl, ha, hb⟩ := h.two rfl
  obtain ⟨s, rfl⟩ := Token.string_of_accepts ha
  obtain ⟨t, rfl⟩ := Token.string_of_accepts hb
  exact hop s t

/-- Every part is read, also after one has been found. -/
theorem passes_hasSome (s : String) {ts : List Token} (h : ∀ t ∈ ts, Kind.string.accepts t.kind = true) :
    Passes (hasSome s ts) := by
  induction ts with
  | nil => exact .ok false
  | cons t ts ih =>
    obtain ⟨ht, hts⟩ := List.forall_mem_cons.1 h
    obtain ⟨part, rfl⟩ := Token.string_of_accepts ht
    exact .bind (.ok part) fun _ _ => .bind (ih hts) fun _ _ => .ok _

theorem passes_containsSome (h : (⟨⟨1, true⟩, Kind.string, Kind.string⟩ : Demand).Met args) :
    Passes (containsSome args) := by
  obtain ⟨a, more, rfl, ha, hmore⟩ := h.cons rfl
  obtain ⟨s, rfl⟩ := Token.string_of_accepts ha
  exact .bind (.ok s) fun _ _ => .bind (passes_hasSome _ hmore) fun _ _ => .ok _

/-- The needle is any token: the kind of what may hold it decides how it is looked for. -/
theorem passes_holds (needle t : Token) : Passes (holds needle t) := by
  cases t with
  | string s => exact .ok _
  | list items => exact .anyM fun t _ => Token.passes_looseEqual t needle
  | map entries => exact .ok _
  | _ => exact Token.passes_looseEqual _ needle

theorem passes_containedInNone (h : ({ counts := ⟨1, true⟩ } : Demand).Met args) : Passes (containedInNone args) := by
  obtain ⟨a, more, rfl, -, -⟩ := h.cons rfl
  exact .bind (.anyM fun t _ => passes_holds a t) fun _ _ => .ok _

/-- Each part of a string is read as an atom. -/
theorem passes_parts (s separator : String) : Passes (parts s separator) := by
  unfold parts
  split
  · exact .error rfl
  · exact .bind (.mapM fun _ _ => Token.passes_infer _) fun _ _ => .ok _

/-- **An operation on strings whose demand is met does not fail as a check does**: a pattern that is no pattern and a
separator that is empty are values that it refuses. -/
theorem passes_run (op : TextOperation) (h : op.demand.Met args) : Passes (op.run args) := by
  cases op with
  | concat => exact .ok _
  | contains => exact passes_containsSome h
  | notContains => exact passes_containedInNone h
  | startsWith => exact passes_onStrings (fun _ _ => .ok _) h
  | endsWith => exact passes_onStrings (fun _ _ => .ok _) h
  | matchesPattern =>
    refine passes_onStrings (fun s pattern => ?_) h
    split
    · exact .ok _
    · exact .error rfl
  | firstName => exact passes_onString h
  | lastName => exact passes_onString h
  | split => exact passes_onStrings passes_parts h
  | count => exact passes_onString h
  | reverse => exact passes_onString h

end TextOperation

namespace TimeOperation

/-- What an operation on times needs. -/
def demand : TimeOperation → Demand
  | after | before | days => ⟨⟨2, false⟩, Kind.time, Kind.time⟩
  | between => ⟨⟨3, false⟩, Kind.time, Kind.time⟩
  | parse => { counts := ⟨1, false⟩, first := Kind.string }
  | parseLayout => ⟨⟨2, false⟩, Kind.string, Kind.string⟩
  | format => ⟨⟨2, false⟩, Kind.time, Kind.string⟩
  | matchesLayout => ⟨⟨3, false⟩, Kind.time, Kind.string⟩
  | date | field _ => { counts := ⟨1, false⟩, first := Kind.time }

/-- An operation on one time fails as it does on the time. -/
theorem passes_onTime {op : Timestamp → Except Error Token} (hop : ∀ t, Passes (op t))
    (h : ({ counts := ⟨1, false⟩, first := Kind.time } : Demand).Met args) : Passes (onTime function op args) := by
  obtain ⟨a, rfl, ha⟩ := h.one rfl
  obtain ⟨t, rfl⟩ := Token.time_of_accepts ha
  exact hop t

theorem passes_onTimes {op : Timestamp → Timestamp → Token}
    (h : (⟨⟨2, false⟩, Kind.time, Kind.time⟩ : Demand).Met args) : Passes (onTimes function op args) := by
  obtain ⟨a, b, rfl, ha, hb⟩ := h.two rfl
  obtain ⟨s, rfl⟩ := Token.time_of_accepts ha
  obtain ⟨t, rfl⟩ := Token.time_of_accepts hb
  exact .ok _

theorem passes_inRange (h : (⟨⟨3, false⟩, Kind.time, Kind.time⟩ : Demand).Met args) : Passes (inRange args) := by
  obtain ⟨a, b, c, rfl, ha, hb, hc⟩ := h.three rfl
  obtain ⟨t, rfl⟩ := Token.time_of_accepts ha
  obtain ⟨lo, rfl⟩ := Token.time_of_accepts hb
  obtain ⟨hi, rfl⟩ := Token.time_of_accepts hc
  exact .ok _

/-- A text that is no time is refused as a value. -/
theorem passes_parsed (h : ({ counts := ⟨1, false⟩, first := Kind.string } : Demand).Met args) :
    Passes (parsed args) := by
  obtain ⟨a, rfl, ha⟩ := h.one rfl
  obtain ⟨text, rfl⟩ := Token.string_of_accepts ha
  refine .bind (.ok (Token.string text)) fun _ he => ?_
  cases he
  refine .bind (.ok text) fun text _ => ?_
  split
  · exact .ok _
  · exact .error rfl

theorem passes_parsedBy (h : (⟨⟨2, false⟩, Kind.string, Kind.string⟩ : Demand).Met args) : Passes (parsedBy args) := by
  obtain ⟨a, b, rfl, ha, hb⟩ := h.two rfl
  obtain ⟨text, rfl⟩ := Token.string_of_accepts ha
  obtain ⟨layout, rfl⟩ := Token.string_of_accepts hb
  refine .bind (.ok (Token.string text, Token.string layout)) fun _ he => ?_
  cases he
  refine .bind (.ok text) fun text _ => .bind (.ok layout) fun layout _ => ?_
  split
  · exact .ok _
  · exact .error rfl

/-- A layout that cannot be written is refused as a value. -/
theorem passes_formatted (t : Timestamp) (layout : String) : Passes (formatted t layout) := by
  unfold formatted
  split
  · exact .ok _
  · exact .error rfl

theorem passes_rendered (h : (⟨⟨2, false⟩, Kind.time, Kind.string⟩ : Demand).Met args) : Passes (rendered args) := by
  obtain ⟨a, b, rfl, ha, hb⟩ := h.two rfl
  obtain ⟨t, rfl⟩ := Token.time_of_accepts ha
  obtain ⟨layout, rfl⟩ := Token.string_of_accepts hb
  show Passes (formatted t layout >>= fun text => .ok (Token.string text))
  exact .bind (passes_formatted t layout) fun _ _ => .ok _

theorem passes_rendersAs (h : (⟨⟨3, false⟩, Kind.time, Kind.string⟩ : Demand).Met args) : Passes (rendersAs args) := by
  obtain ⟨a, b, c, rfl, ha, hb, hc⟩ := h.three rfl
  obtain ⟨t, rfl⟩ := Token.time_of_accepts ha
  obtain ⟨layout, rfl⟩ := Token.string_of_accepts hb
  obtain ⟨expected, rfl⟩ := Token.string_of_accepts hc
  show Passes (formatted t layout >>= fun text => .ok (Token.boolean (text == expected)))
  exact .bind (passes_formatted t layout) fun _ _ => .ok _

theorem passes_midnight (t : Timestamp) : Passes (midnight t) := by
  unfold midnight
  split
  · exact .ok _
  · exact .error rfl

/-- **An operation on times whose demand is met does not fail as a check does.** -/
theorem passes_run (op : TimeOperation) (h : op.demand.Met args) : Passes (op.run args) := by
  cases op with
  | after => exact passes_onTimes h
  | before => exact passes_onTimes h
  | between => exact passes_inRange h
  | parse => exact passes_parsed h
  | parseLayout => exact passes_parsedBy h
  | format => exact passes_rendered h
  | matchesLayout => exact passes_rendersAs h
  | days => exact passes_onTimes h
  | date => exact passes_onTime passes_midnight h
  | field f => exact passes_onTime (fun _ => .ok _) h

end TimeOperation

namespace ListOperation

/-- What a list operation needs. -/
def demand : ListOperation → Demand
  | list => { counts := ⟨0, true⟩ }
  | head | tail | reverse | sort | leastOf | greatestOf | sum => { counts := ⟨1, false⟩, first := Kind.list }
  | drop | item => ⟨⟨2, false⟩, Kind.list, Kind.decimal⟩
  | push | append | contains => { counts := ⟨1, true⟩, first := Kind.list }
  | count => { counts := ⟨1, false⟩, first := Kind.collection }
  | join => ⟨⟨1, true⟩, Kind.list, Kind.string⟩
  | isEmpty => { counts := ⟨1, false⟩ }
  | least | greatest => ⟨⟨1, true⟩, Kind.decimal, Kind.decimal⟩

/-- Whether the elements of the list have to be of a kind, too. -/
def checksElements : ListOperation → Bool
  | sort | leastOf | greatestOf | sum => true
  | _ => false

/-- An operation on one list fails as it does on the elements. -/
theorem fails_onList {P : Error → Prop} {op : List Token → Except Error Token}
    (h : ({ counts := ⟨1, false⟩, first := Kind.list } : Demand).Met args)
    (hop : ∀ items, args = [.list items] → Fails P (op items)) : Fails P (onList function op args) := by
  obtain ⟨a, rfl, ha⟩ := h.one rfl
  obtain ⟨items, rfl⟩ := Token.list_of_accepts ha
  exact hop items rfl

theorem passes_listFirst (h : ({ counts := ⟨1, true⟩, first := Kind.list } : Demand).Met args) :
    Passes (listFirst function args) := by
  obtain ⟨a, more, rfl, ha, -⟩ := h.cons rfl
  obtain ⟨items, rfl⟩ := Token.list_of_accepts ha
  exact .ok _

theorem passes_dropFirst (h : (⟨⟨2, false⟩, Kind.list, Kind.decimal⟩ : Demand).Met args) : Passes (dropFirst args) := by
  obtain ⟨a, n, rfl, ha, hn⟩ := h.two rfl
  obtain ⟨items, rfl⟩ := Token.list_of_accepts ha
  obtain ⟨d, rfl⟩ := Token.decimal_of_accepts hn
  show Passes (Arguments.index "drop" (.decimal d) >>= fun count => .ok (Token.list (items.drop count)))
  exact .bind (Arguments.passes_index d) fun _ _ => .ok _

/-- The index is converted before the list is read, and one that is out of range is no failure of a check. -/
theorem passes_itemAt (h : (⟨⟨2, false⟩, Kind.list, Kind.decimal⟩ : Demand).Met args) : Passes (itemAt args) := by
  obtain ⟨a, n, rfl, ha, hn⟩ := h.two rfl
  obtain ⟨items, rfl⟩ := Token.list_of_accepts ha
  obtain ⟨d, rfl⟩ := Token.decimal_of_accepts hn
  refine .bind (.ok (Token.list items, Token.decimal d)) fun _ he => ?_
  cases he
  refine .bind (Arguments.passes_index d) fun index _ => .bind (.ok items) fun items _ => ?_
  split
  · exact .ok _
  · exact .error rfl

/-- Every value is compared with every element. -/
theorem passes_holdsAny (items values : List Token) : Passes (holdsAny items values) :=
  .anyM fun v _ => .anyM fun t _ => Token.passes_looseEqual t v

theorem passes_size (h : ({ counts := ⟨1, false⟩, first := Kind.collection } : Demand).Met args) :
    Passes (size args) := by
  obtain ⟨a, rfl, ha⟩ := h.one rfl
  cases a with
  | list items => exact .ok _
  | map entries => exact .ok _
  | _ => exact absurd ha (by simp only [Token.kind]; decide)

/-- The separator is read if it is there. -/
theorem passes_joined (h : (⟨⟨1, true⟩, Kind.list, Kind.string⟩ : Demand).Met args) : Passes (joined args) := by
  obtain ⟨a, more, rfl, ha, hmore⟩ := h.cons rfl
  obtain ⟨items, rfl⟩ := Token.list_of_accepts ha
  cases more with
  | nil => exact .ok _
  | cons b more =>
    obtain ⟨separator, rfl⟩ := Token.string_of_accepts (hmore b List.mem_cons_self)
    exact .ok _

theorem passes_extremeOf {wins : Ordering} (h : (⟨⟨1, true⟩, Kind.decimal, Kind.decimal⟩ : Demand).Met args) :
    Passes (extremeOf function wins args) := by
  obtain ⟨x, xs, rfl⟩ := h.decimals rfl rfl rfl
  rw [extremeOf, decimals_map]
  exact .ok _

/-- **A list operation that leaves the elements alone passes when its demand is met.** -/
theorem passes_run (op : ListOperation) (h : op.demand.Met args) (he : op.checksElements = false) :
    Passes (op.run args) := by
  cases op with
  | list => exact .ok _
  | head => exact fails_onList h fun _ _ => .ok _
  | tail => exact fails_onList h fun _ _ => .ok _
  | drop => exact passes_dropFirst h
  | item => exact passes_itemAt h
  | push => exact .bind (passes_listFirst h) fun _ _ => .ok _
  | append => exact .bind (passes_listFirst h) fun _ _ => .ok _
  | contains => exact .bind (passes_listFirst h) fun _ _ => .bind (passes_holdsAny _ _) fun _ _ => .ok _
  | count => exact passes_size h
  | reverse => exact fails_onList h fun _ _ => .ok _
  | join => exact passes_joined h
  | isEmpty =>
    obtain ⟨a, rfl, -⟩ := h.one rfl
    exact .ok _
  | least => exact passes_extremeOf h
  | greatest => exact passes_extremeOf h
  | sort | leastOf | greatestOf | sum => cases he

/-! The elements of a list that is sorted or added up are of any kind. -/

theorem fails_sorted (items : List Token) : Fails (fun e => ∃ first t, items.head? = some first ∧ t ∈ items ∧
    Token.compareAtoms first t = none ∧ e = Arguments.mismatch function first.kind t) (sorted function items) := by
  unfold sorted
  split
  · exact .ok _
  · next first items =>
    split
    · next t ht =>
      have hnone := List.find?_some ht
      rw [Option.isNone_iff_eq_none] at hnone
      exact .error ⟨first, t, rfl, List.mem_of_find?_eq_some ht, hnone, rfl⟩
    · exact .ok _

/-- A list that is not one of decimals has an element that is none, which the error names. -/
theorem fails_decimals (items : List Token) : Fails (fun e => ∃ t ∈ items, Kind.decimal.accepts t.kind = false ∧
    e = Arguments.mismatch function Kind.decimal t) (decimals function items) := by
  induction items with
  | nil => exact .ok []
  | cons t ts ih =>
    refine .bind ?_ fun _ _ => .bind (ih.mono fun e he => ?_) fun _ _ => .ok _
    · cases t with
      | decimal d => exact .ok d
      | _ => exact .error ⟨_, List.mem_cons_self, by simp only [Token.kind]; decide, rfl⟩
    · obtain ⟨u, hu, he⟩ := he
      exact ⟨u, List.mem_cons_of_mem t hu, he⟩

/-- The extreme of a list is missing because of an element that is no decimal, or because there is no element. -/
theorem fails_extremeOf (wins : Ordering) (items : List Token) : Fails (fun e =>
    (∃ t ∈ items, Kind.decimal.accepts t.kind = false ∧ e = Arguments.mismatch function Kind.decimal t) ∨
      items = [] ∧ e = .invalidArgument (.emptyList function)) (extremeOf function wins items) := by
  refine .bind ((fails_decimals items).mono fun e he => .inl he) fun ds hds => ?_
  cases ds with
  | nil =>
    cases items with
    | nil => exact .error (.inr ⟨rfl, rfl⟩)
    | cons t ts =>
      obtain ⟨d, -, hts⟩ := bind_eq_ok hds
      obtain ⟨ds, -, hnil⟩ := bind_eq_ok hts
      cases hnil
  | cons d ds => exact .ok _

/-- What is wrong with the elements of the list: one is no decimal, one cannot be compared with the first, or there is
none. -/
inductive Blame (args : List Token) : ListOperation → Error → Prop
  | undecimal {op : ListOperation} {function : String} {items : List Token} {t : Token}
    (hop : op ∈ [leastOf, greatestOf, sum]) (hargs : args = [.list items]) (ht : t ∈ items)
    (hkind : Kind.decimal.accepts t.kind = false) : Blame args op (Arguments.mismatch function Kind.decimal t)
  | incomparable {first t : Token} {items : List Token} (hargs : args = [.list items])
    (hfirst : items.head? = some first) (ht : t ∈ items) (hnone : Token.compareAtoms first t = none) :
    Blame args sort (Arguments.mismatch "sort" first.kind t)
  | noElement {op : ListOperation} {function : String} (hop : op ∈ [leastOf, greatestOf]) (hargs : args = [.list []]) :
    Blame args op (.invalidArgument (.emptyList function))

variable {op : ListOperation} {items : List Token}

theorem blames_decimals (hop : op ∈ [leastOf, greatestOf, sum]) (hargs : args = [.list items]) :
    Fails (op.Blame args) (decimals function items) :=
  (fails_decimals items).mono fun _ ⟨_, ht, hkind, he⟩ => he ▸ .undecimal hop hargs ht hkind

theorem blames_extremeOf {wins : Ordering} (hop : op ∈ [leastOf, greatestOf]) (hargs : args = [.list items]) :
    Fails (op.Blame args) (extremeOf function wins items) := by
  refine (fails_extremeOf wins items).mono fun e he => ?_
  rcases he with ⟨t, ht, hkind, rfl⟩ | ⟨rfl, rfl⟩
  · exact .undecimal (List.mem_append_left [sum] hop) hargs ht hkind
  · exact .noElement hop hargs

/-- **A list operation whose demand is met fails as a check does because of the elements only.** -/
theorem fails_run (op : ListOperation) (h : op.demand.Met args) :
    Fails (fun e => e.isCheck = true → op.Blame args e) (op.run args) := by
  cases he : op.checksElements with
  | false => exact (passes_run op h he).checked _
  | true =>
    refine Fails.mono (Q := op.Blame args) ?_ fun e hblame _ => hblame
    cases op with
    | sort =>
      refine fails_onList h fun items hargs => .map ((fails_sorted items).mono fun e he => ?_)
      obtain ⟨first, t, hfirst, ht, hnone, rfl⟩ := he
      exact .incomparable hargs hfirst ht hnone
    | leastOf => exact fails_onList h fun items hargs => blames_extremeOf (by decide) hargs
    | greatestOf => exact fails_onList h fun items hargs => blames_extremeOf (by decide) hargs
    | sum => exact fails_onList h fun items hargs => .map (blames_decimals (by decide) hargs)
    | _ => cases he

end ListOperation

end

end RuleExpr
