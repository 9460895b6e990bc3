import RuleExpr.Proofs.Builtin.Results
import RuleExpr.Proofs.Decimal.Rational
import RuleExpr.Proofs.Token.Readable

/-!
# Readable results

The functions that do not evaluate give readable values for readable arguments:

- a sum, a difference and a remainder have no more places than their operands, a product has at most those that a word
  of 32 bits counts, and a quotient those of the precision (`Arithmetic.readable_run`);
- a list operation gives parts of its arguments, or a decimal out of theirs (`ListOperation.readable_run`);
- a time is read from a text, in the standard format or in a layout, or is the beginning of a day
  (`TimeOperation.readable_run`); the parts of a string are literals (`TextOperation.readable_run`).
-/

namespace RuleExpr

open Token (Readable)

/-! ## Decimals -/

namespace Decimal

theorem scale_ofInt_lt (n : Int) : (ofInt n).scale < 2 ^ 32 := Nat.two_pow_pos 32

theorem scale_add_le (a b : Decimal) : (a.add b).scale ≤ max a.scale b.scale := scale_ofScaled_le _ _

theorem scale_sub_le (a b : Decimal) : (a.sub b).scale ≤ max a.scale b.scale := scale_ofScaled_le _ _

theorem scale_mul_lt (a b : Decimal) : Yields (fun d => d.scale < 2 ^ 32) ((a.mul b).mapError .decimal) := by
  rcases Nat.lt_or_ge (a.scale + b.scale) (2 ^ 32) with hlt | hle
  · rw [mul_of_lt hlt]
    exact .ok (Nat.lt_of_le_of_lt (scale_ofScaled_le _ _) hlt)
  · rw [mul_of_le hle]
    exact .error _

theorem scale_divide_le (a b : Decimal) (precision : Nat) :
    Yields (fun d => d.scale ≤ precision) ((a.divide b precision).mapError .decimal) := by
  unfold divide
  split
  · exact .error _
  · cases addScales b.scale precision with
    | error => exact .error _
    | ok => exact .ok (scale_ofScaled_le _ _)

theorem scale_remainder_le (a b : Decimal) :
    Yields (fun d => d.scale ≤ max a.scale b.scale) ((a.remainder b).mapError .decimal) := by
  unfold remainder
  split
  · exact .error _
  · exact .ok (scale_ofScaled_le _ _)

end Decimal

section

variable {function : String} {args : List Token} {t : Token}

namespace Arguments

theorem eq_of_decimal : Yields (fun d => t = .decimal d) (decimal function t) := by
  unfold decimal
  split
  · exact .ok rfl
  · exact .error _

theorem eq_of_time : Yields (fun s => t = .time s) (time function t) := by
  unfold time
  split
  · exact .ok rfl
  · exact .error _

theorem scale_lt_of_decimal (h : t.Readable) : Yields (fun d => d.scale < 2 ^ 32) (decimal function t) := by
  intro d hd
  obtain rfl := eq_of_decimal d hd
  exact h.of_decimal

theorem regular_of_time (h : t.Readable) : Yields Timestamp.Regular (time function t) := by
  intro s hs
  obtain rfl := eq_of_time s hs
  exact h.of_time

theorem readable_of_list (h : t.Readable) : Yields (fun items => ∀ t ∈ items, Readable t) (list function t) := by
  intro items hi
  obtain rfl := eq_of_list items hi
  exact h.of_list

end Arguments

namespace Arithmetic

variable {precision : Nat}

/-- If each step is readable, so is what comes of all of them. -/
theorem readable_fold {op : Decimal → Decimal → Except Error Decimal}
    (hop : ∀ a b : Decimal, a.scale < 2 ^ 32 → b.scale < 2 ^ 32 → Yields (fun d => d.scale < 2 ^ 32) (op a b))
    (h : ∀ a ∈ args, Readable a) : Yields Readable (fold function op args) := by
  have hfrom (acc : Decimal) (ts : List Token) (hacc : acc.scale < 2 ^ 32) (hts : ∀ t ∈ ts, Readable t) :
      Yields (fun d => d.scale < 2 ^ 32) (foldFrom function op acc ts) := by
    induction ts generalizing acc with
    | nil => exact .ok hacc
    | cons t ts ih =>
      obtain ⟨ht, hts⟩ := List.forall_mem_cons.1 hts
      refine .bind_of (Arguments.scale_lt_of_decimal ht) fun d hd => ?_
      exact .bind_of (hop acc d hacc hd) fun acc' hacc' => ih acc' hacc' hts
  cases args with
  | nil => exact .error _
  | cons t ts =>
    obtain ⟨ht, hts⟩ := List.forall_mem_cons.1 h
    refine .bind_of (Arguments.scale_lt_of_decimal ht) fun first hfirst => ?_
    exact .bind_of (hfrom first ts hfirst hts) fun total htotal => .ok (.decimal htotal)

theorem readable_unary {op : Decimal → Decimal} (hop : ∀ a, a.scale < 2 ^ 32 → (op a).scale < 2 ^ 32)
    (h : ∀ a ∈ args, Readable a) : Yields Readable (unary function op args) := by
  refine .bind_of Arguments.mem_of_one fun a ha => ?_
  exact .bind_of (Arguments.scale_lt_of_decimal (h a ha)) fun d hd => .ok (.decimal (hop d hd))

theorem readable_difference (h : ∀ a ∈ args, Readable a) : Yields Readable (difference args) := by
  unfold difference
  split
  · exact readable_unary (fun _ ha => ha) h
  · refine readable_fold (fun a b ha hb => .ok ?_) h
    exact Nat.lt_of_le_of_lt (a.scale_sub_le b) (Nat.max_lt.2 ⟨ha, hb⟩)

theorem readable_remainder (h : ∀ a ∈ args, Readable a) : Yields Readable (remainder args) := by
  refine .bind_of Arguments.eq_of_two fun (a, b) hargs => ?_
  subst hargs
  refine .bind_of (Arguments.scale_lt_of_decimal (h a (by simp))) fun x hx => ?_
  refine .bind_of (Arguments.scale_lt_of_decimal (h b (by simp))) fun y hy => ?_
  refine .bind_of (x.scale_remainder_le y) fun r hr => .ok (.decimal ?_)
  exact Nat.lt_of_le_of_lt hr (Nat.max_lt.2 ⟨hx, hy⟩)

/-- Arithmetic on readable decimals gives readable decimals, if the precision is a word of 32 bits. -/
theorem readable_run (hp : precision < 2 ^ 32) (op : Arithmetic) (h : ∀ a ∈ args, Readable a) :
    Yields Readable (op.run precision args) := by
  cases op with
  | add =>
    refine readable_fold (fun a b ha hb => .ok ?_) h
    exact Nat.lt_of_le_of_lt (a.scale_add_le b) (Nat.max_lt.2 ⟨ha, hb⟩)
  | subtract => exact readable_difference h
  | multiply =>
    exact readable_fold (fun a b _ _ => a.scale_mul_lt b) h
  | divide =>
    exact readable_fold (fun a b _ _ => (a.scale_divide_le b precision).mono fun d hd => Nat.lt_of_le_of_lt hd hp) h
  | modulo => exact readable_remainder h
  | floor => exact readable_unary (fun _ _ => Decimal.scale_ofInt_lt _) h
  | ceil => exact readable_unary (fun _ _ => Decimal.scale_ofInt_lt _) h

end Arithmetic

/-! ## Lists -/

theorem Token.readable_ofInt (n : Int) : Readable (.decimal (.ofInt n)) := .decimal (Decimal.scale_ofInt_lt n)

namespace ListOperation

theorem readable_onList (h : ∀ a ∈ args, Readable a) {op : List Token → Except Error Token}
    (hop : ∀ items, (∀ t ∈ items, Readable t) → Yields Readable (op items)) :
    Yields Readable (onList function op args) :=
  .bind_of Arguments.mem_of_one fun a ha => .bind_of (Arguments.readable_of_list (h a ha)) hop

theorem readable_listFirst (h : ∀ a ∈ args, Readable a) :
    Yields (fun p => (∀ t ∈ p.1, Readable t) ∧ ∀ t ∈ p.2, Readable t) (listFirst function args) := by
  unfold listFirst
  split
  · exact .error _
  · next a args =>
    obtain ⟨ha, hargs⟩ := List.forall_mem_cons.1 h
    exact .bind_of (Arguments.readable_of_list ha) fun items hi => .ok ⟨hi, hargs⟩

theorem readable_spliced {a : Token} (h : Readable a) : ∀ t ∈ spliced a, Readable t := by
  unfold spliced
  split
  · exact h.of_list
  · exact List.forall_mem_singleton.2 h

theorem scale_lt_of_decimals {items : List Token} (h : ∀ t ∈ items, Readable t) :
    Yields (fun ds => ∀ d ∈ ds, d.scale < 2 ^ 32) (decimals function items) := by
  induction items with
  | nil => exact .ok (List.forall_mem_nil _)
  | cons t ts ih =>
    obtain ⟨ht, hts⟩ := List.forall_mem_cons.1 h
    refine .bind_of (Arguments.scale_lt_of_decimal ht) fun d hd => ?_
    exact .bind_of (ih hts) fun ds hds => .ok (List.forall_mem_cons.2 ⟨hd, hds⟩)

/-- The least or greatest of decimals is one of them. -/
theorem readable_extremeOf {wins : Ordering} {items : List Token} (h : ∀ t ∈ items, Readable t) :
    Yields Readable (extremeOf function wins items) := by
  refine .bind_of (scale_lt_of_decimals h) fun ds hds => ?_
  cases ds with
  | nil => exact .error _
  | cons d ds =>
    obtain ⟨hd, hds⟩ := List.forall_mem_cons.1 hds
    refine .ok (.decimal (List.foldlRecOn (motive := fun d : Decimal => d.scale < 2 ^ 32) ds _ hd ?_))
    intro best hbest next hnext
    split
    · exact hds next hnext
    · exact hbest

theorem scale_lt_of_total {ds : List Decimal} (h : ∀ d ∈ ds, d.scale < 2 ^ 32) : (total ds).scale < 2 ^ 32 :=
  List.foldlRecOn (motive := fun d : Decimal => d.scale < 2 ^ 32) ds _ (Decimal.scale_ofInt_lt 0)
    fun acc hacc d hd => Nat.lt_of_le_of_lt (acc.scale_add_le d) (Nat.max_lt.2 ⟨hacc, h d hd⟩)

theorem readable_size : Yields Readable (size args) := by
  refine .bind fun t => ?_
  cases t with
  | list => exact .ok (Token.readable_ofInt _)
  | map => exact .ok (Token.readable_ofInt _)
  | _ => exact .error _

theorem readable_joined : Yields Readable (joined args) := by
  refine .bind fun _ => ?_
  cases args[1]? with
  | some s => exact .bind fun _ => .bind fun _ => .ok (.string _)
  | none => exact .bind fun _ => .bind fun _ => .ok (.string _)

theorem readable_dropFirst (h : ∀ a ∈ args, Readable a) : Yields Readable (dropFirst args) := by
  refine .bind_of Arguments.eq_of_two fun (a, n) hargs => .bind fun count => ?_
  have ha : Readable a := h a (hargs ▸ List.mem_cons_self)
  exact .bind_of (Arguments.readable_of_list ha) fun items hi => .ok (.list fun t ht => hi t (List.mem_of_mem_drop ht))

theorem readable_itemAt (h : ∀ a ∈ args, Readable a) : Yields Readable (itemAt args) := by
  refine .bind_of Arguments.eq_of_two fun (a, n) hargs => .bind fun index => ?_
  have ha : Readable a := h a (hargs ▸ List.mem_cons_self)
  refine .bind_of (Arguments.readable_of_list ha) fun items hi => ?_
  split
  · next t ht => exact .ok (hi t (List.mem_of_getElem? ht))
  · exact .error _

/-- What a list operation gives is made of its arguments. -/
theorem readable_run (op : ListOperation) (h : ∀ a ∈ args, Readable a) : Yields Readable (op.run args) := by
  cases op with
  | list => exact .ok (.list h)
  | head =>
    refine readable_onList h fun items hi => .ok ?_
    rw [List.headD_eq_head?_getD]
    exact .getD fun t ht => hi t (List.mem_of_head? ht)
  | tail => exact readable_onList h fun items hi => .ok (.list fun t ht => hi t (List.mem_of_mem_drop ht))
  | drop => exact readable_dropFirst h
  | item => exact readable_itemAt h
  | push =>
    refine .bind_of (readable_listFirst h) fun (items, more) ⟨hi, hm⟩ => .ok (.list fun t ht => ?_)
    exact (List.mem_append.1 ht).elim (hi t) (hm t)
  | append =>
    refine .bind_of (readable_listFirst h) fun (items, more) ⟨hi, hm⟩ => .ok (.list fun t ht => ?_)
    rcases List.mem_append.1 ht with ht | ht
    · exact hi t ht
    · obtain ⟨a, ha, ht⟩ := List.mem_flatMap.1 ht
      exact readable_spliced (hm a ha) t ht
  | contains => exact .bind fun _ => .bind fun _ => .ok (.boolean _)
  | count => exact readable_size
  | reverse => exact readable_onList h fun items hi => .ok (.list fun t ht => hi t (List.mem_reverse.1 ht))
  | join => exact readable_joined
  | isEmpty => exact .bind fun _ => .ok (.boolean _)
  | sort => exact readable_onList h fun items hi => .map_of mem_of_sorted fun ts hts => .list fun t ht => hi t (hts t ht)
  | least => exact readable_extremeOf h
  | greatest => exact readable_extremeOf h
  | leastOf => exact readable_onList h fun items hi => readable_extremeOf hi
  | greatestOf => exact readable_onList h fun items hi => readable_extremeOf hi
  | sum =>
    refine readable_onList h fun items hi => ?_
    exact .map_of (scale_lt_of_decimals hi) fun ds hds => .decimal (scale_lt_of_total hds)

end ListOperation

/-! ## Comparisons, texts and times -/

/-- A string, and a truth value. -/
theorem Token.Plain.readable {k : Kind} (h : t.Plain k) (hk : k = Kind.string ∨ k = Kind.boolean) : t.Readable := by
  cases t with
  | string s => exact .string s
  | boolean b => exact .boolean b
  | null => exact .null
  | _ =>
    have hkind := h.1
    rw [Token.kind] at hkind
    subst hkind
    exact absurd hk (by decide)

theorem Comparison.readable_run (op : Comparison) : Yields Readable (op.run args) :=
  (Comparison.plain_run op).mono fun _ h => h.readable (.inr rfl)

namespace TextOperation

theorem readable_parts (s separator : String) : Yields Readable (parts s separator) := by
  unfold parts
  split
  · exact .error _
  · exact .bind_of (.mapM fun _ _ => .infer _) fun ts hts => .ok (.list hts)

theorem readable_run (op : TextOperation) : Yields Readable (op.run args) := by
  cases op with
  | count => exact .bind fun _ => .bind fun _ => .ok (Token.readable_ofInt _)
  | split => exact .bind fun _ => .bind fun s => .bind fun t => readable_parts s t
  | concat | firstName | lastName | reverse => exact (plain_run _).mono fun _ h => h.readable (.inl rfl)
  | contains | notContains | startsWith | endsWith | matchesPattern =>
    exact (plain_run _).mono fun _ h => h.readable (.inr rfl)

end TextOperation

namespace TimeOperation

theorem readable_parsed : Yields Readable (parsed args) := by
  refine .bind fun a => .bind fun text => ?_
  split
  · next t ht => exact .ok (.time (Timestamp.printable_iff.1 (Timestamp.printable_of_parse? ht)).1)
  · exact .error _

theorem readable_parsedBy : Yields Readable (parsedBy args) := by
  refine .bind fun _ => .bind fun text => .bind fun layout => ?_
  split
  · next t ht => exact .ok (.time (Timestamp.regular_of_parseLayout? ht))
  · exact .error _

theorem readable_midnight {t : Timestamp} (h : t.Regular) : Yields Readable (midnight t) := by
  unfold midnight
  split
  · next m hm => exact .ok (.time (Timestamp.regular_of_midnight? h hm))
  · exact .error _

theorem readable_run (op : TimeOperation) (h : ∀ a ∈ args, Readable a) : Yields Readable (op.run args) := by
  cases op with
  | parse => exact readable_parsed
  | parseLayout => exact readable_parsedBy
  | date =>
    refine .bind_of Arguments.mem_of_one fun a ha => ?_
    exact .bind_of (Arguments.regular_of_time (h a ha)) fun t ht => readable_midnight ht
  | days => exact .bind fun _ => .bind fun _ => .bind fun _ => .ok (Token.readable_ofInt _)
  | field f => exact .bind fun _ => .bind fun _ => .ok (Token.readable_ofInt _)
  | format => exact (plain_run _).mono fun _ h => h.readable (.inl rfl)
  | after | before | between | matchesLayout => exact (plain_run _).mono fun _ h => h.readable (.inr rfl)

end TimeOperation

end

end RuleExpr
