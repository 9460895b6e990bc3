import RuleExpr.Token.Order
import RuleExpr.Proofs.OrderedMap
import RuleExpr.Proofs.Token.Atoms
import Mathlib.Data.List.Perm.Subperm

/-!
# Equality of tokens is an equivalence

Where the keys of every map are distinct (`Token.Keyed`), two maps are equal exactly when they have the same keys with
equal values (`equal_map_iff`): there are as many keys on both sides, so none is left over on the right. With that,
equality is reflexive, symmetric and transitive by induction on the first token.

A string beside a token of another kind stands for the atom that it spells, on whichever side it is
(`looseEqual_string`). An atom that is too large to be read leaves loose equality without an answer, also when the other
side is replaced by an equal one.

**Equality is an equivalence with which loose equality is compatible** (`equal_equivalence`).
-/

namespace RuleExpr

namespace Entries

variable {α : Type} {m : Entries α} {key : String} {value : α}

theorem mem_keys_iff : key ∈ keys m ↔ ∃ value, get? m key = some value := by
  rw [← hasKey_eq_true_iff, hasKey, Option.isSome_iff_exists]

/-- Among distinct keys each entry is found under its own. -/
theorem get?_of_mem (h : (keys m).Nodup) (he : (key, value) ∈ m) : get? m key = some value := by
  induction m with
  | nil => cases he
  | cons e m ih =>
    obtain ⟨k, v⟩ := e
    obtain ⟨hk, hm⟩ := List.nodup_cons.1 h
    rcases List.mem_cons.1 he with he | he
    · cases he
      rw [get?, if_pos rfl]
    · rw [get?, if_neg, ih hm he]
      rintro rfl
      exact hk (mem_keys_iff.2 ⟨value, ih hm he⟩)

end Entries

namespace Token

/-- The keys of every map in the token are distinct, at any depth. -/
inductive Keyed : Token → Prop
  | decimal (d : Decimal) : Keyed (decimal d)
  | string (s : String) : Keyed (string s)
  | boolean (b : Bool) : Keyed (boolean b)
  | time (t : Timestamp) : Keyed (time t)
  | null : Keyed null
  | list {items : List Token} (h : ∀ t ∈ items, Keyed t) : Keyed (list items)
  | map {entries : Entries Token} (hk : entries.keys.Nodup) (h : ∀ e ∈ entries, Keyed e.2) : Keyed (map entries)
  | block {head : String} {children : List Token} (h : ∀ t ∈ children, Keyed t) : Keyed (block head children)

namespace Keyed

variable {items children : List Token} {entries : Entries Token} {head key : String} {value : Token}

theorem of_list (h : Keyed (Token.list items)) : ∀ t ∈ items, Keyed t := by
  cases h with
  | list h => exact h

theorem keys_nodup (h : Keyed (Token.map entries)) : entries.keys.Nodup := by
  cases h with
  | map hk => exact hk

theorem of_map (h : Keyed (Token.map entries)) : ∀ e ∈ entries, Keyed e.2 := by
  cases h with
  | map _ h => exact h

theorem of_get? (h : Keyed (Token.map entries)) (hv : entries.get? key = some value) : Keyed value :=
  h.of_map _ (Entries.mem_of_get? hv)

theorem of_block (h : Keyed (Token.block head children)) : ∀ t ∈ children, Keyed t := by
  cases h with
  | block h => exact h

/-- What a text spells has no maps. -/
theorem of_infer {w : String} {t : Token} (h : infer w = .ok t) : Keyed t := by
  rcases infer_cases w with ⟨b, hb⟩ | ⟨u, hu, -⟩ | ⟨d, hd, -⟩ | hs | ho
  · exact Except.ok.inj (hb.symm.trans h) ▸ .boolean b
  · exact Except.ok.inj (hu.symm.trans h) ▸ .time u
  · exact Except.ok.inj (hd.symm.trans h) ▸ .decimal d
  · exact Except.ok.inj (hs.symm.trans h) ▸ .string w
  · exact nomatch ho.symm.trans h

end Keyed

/-! ## Equality of lists and of maps -/

section Parts

variable {as bs : List Token} {m n : Entries Token}

theorem equalLists_iff : equalLists as bs = true ↔ List.Forall₂ (fun a b => equal a b = true) as bs := by
  induction as generalizing bs with
  | nil =>
    cases bs with
    | nil => exact iff_of_true rfl .nil
    | cons b bs => exact iff_of_false Bool.false_ne_true nofun
  | cons a as ih =>
    cases bs with
    | nil => exact iff_of_false Bool.false_ne_true nofun
    | cons b bs => rw [equalLists, Bool.and_eq_true, ih, List.forall₂_cons]

theorem includedIn_iff :
    includedIn m n = true ↔ ∀ e ∈ m, ∃ b, n.get? e.1 = some b ∧ equal e.2 b = true := by
  induction m with
  | nil => exact iff_of_true rfl (List.forall_mem_nil _)
  | cons e m ih =>
    obtain ⟨k, a⟩ := e
    rw [includedIn, Bool.and_eq_true, ih, List.forall_mem_cons]
    refine and_congr_left fun _ => ?_
    cases hb : n.get? k with
    | none => simp
    | some b => simp

/-- **Maps are equal when they have the same keys with equal values.** -/
theorem equal_map_iff (hm : m.keys.Nodup) (hn : n.keys.Nodup) : equal (map m) (map n) = true ↔
    (∀ key, key ∈ m.keys ↔ key ∈ n.keys) ∧
      ∀ key a b, m.get? key = some a → n.get? key = some b → equal a b = true := by
  have hlength (l : Entries Token) : l.length = l.keys.length := (List.length_map _).symm
  rw [equal, Bool.and_eq_true, beq_iff_eq, includedIn_iff, hlength, hlength]
  constructor
  · rintro ⟨hlen, hin⟩
    have hsub : m.keys ⊆ n.keys := by
      intro key hkey
      obtain ⟨e, he, rfl⟩ := List.mem_map.1 hkey
      obtain ⟨b, hb, -⟩ := hin e he
      exact Entries.mem_keys_iff.2 ⟨b, hb⟩
    have hperm : m.keys.Perm n.keys := (hm.subperm hsub).perm_of_length_le hlen.ge
    refine ⟨fun key => hperm.mem_iff, fun key a b ha hb => ?_⟩
    obtain ⟨b', hb', he⟩ := hin _ (Entries.mem_of_get? ha)
    rw [hb, Option.some.injEq] at hb'
    exact hb' ▸ he
  · rintro ⟨hkeys, hvalues⟩
    refine ⟨((List.perm_ext_iff_of_nodup hm hn).2 hkeys).length_eq, fun e he => ?_⟩
    have ha := Entries.get?_of_mem hm he
    obtain ⟨b, hb⟩ := Entries.mem_keys_iff.1 ((hkeys e.1).1 (Entries.mem_keys_iff.2 ⟨e.2, ha⟩))
    exact ⟨b, hb, hvalues e.1 e.2 b ha hb⟩

end Parts

/-! ## An equivalence -/

section Equivalence

variable {a b c : Token}

/-- Lists are compared element by element, so the relation of the elements is turned around. -/
theorem forall₂_symm {P : Token → Prop} {as bs : List Token}
    (h : ∀ a ∈ as, ∀ {b}, P b → equal a b = true → equal b a = true) (hb : ∀ b ∈ bs, P b)
    (hab : List.Forall₂ (fun a b => equal a b = true) as bs) : List.Forall₂ (fun a b => equal a b = true) bs as := by
  induction hab with
  | nil => exact .nil
  | cons he _ ih =>
    rw [List.forall_mem_cons] at h hb
    exact .cons (h.1 hb.1 he) (ih h.2 hb.2)

theorem forall₂_trans {P : Token → Prop} {as bs cs : List Token}
    (h : ∀ a ∈ as, ∀ {b c}, P b → P c → equal a b = true → equal b c = true → equal a c = true) (hb : ∀ b ∈ bs, P b)
    (hc : ∀ c ∈ cs, P c) (hab : List.Forall₂ (fun a b => equal a b = true) as bs)
    (hbc : List.Forall₂ (fun a b => equal a b = true) bs cs) :
    List.Forall₂ (fun a b => equal a b = true) as cs := by
  induction hab generalizing cs with
  | nil => exact hbc
  | cons he _ ih =>
    cases hbc with
    | cons he' hbc =>
      rw [List.forall_mem_cons] at h hb hc
      exact .cons (h.1 hb.1 hc.1 he he') (ih h.2 hb.2 hc.2 hbc)

theorem Keyed.equal_refl (ha : a.Keyed) : equal a a = true := by
  induction ha with
  | decimal d => exact beq_self_eq_true d
  | string s => exact beq_self_eq_true s
  | boolean b => exact beq_self_eq_true b
  | time t => exact beq_self_eq_true t.instant
  | null => rfl
  | list _ ih =>
    rw [equal, equalLists_iff, List.forall₂_same]
    exact ih
  | map hk _ ih =>
    rw [equal_map_iff hk hk]
    refine ⟨fun _ => .rfl, fun key a b ha hb => ?_⟩
    rw [ha, Option.some.injEq] at hb
    exact hb ▸ ih _ (Entries.mem_of_get? ha)
  | block _ ih =>
    rw [equal, beq_self_eq_true, Bool.true_and, equalLists_iff, List.forall₂_same]
    exact ih

/-- By induction on the left token: what is equal to it has the same form, with parts that are equal to its parts. -/
theorem Keyed.equal_symm (ha : a.Keyed) (hb : b.Keyed) (h : equal a b = true) : equal b a = true := by
  induction ha generalizing b with
  | decimal d =>
    cases b with
    | decimal e => exact beq_iff_eq.2 (beq_iff_eq.1 h).symm
    | _ => cases h
  | string s =>
    cases b with
    | string t => exact beq_iff_eq.2 (beq_iff_eq.1 h).symm
    | _ => cases h
  | boolean x =>
    cases b with
    | boolean y => exact beq_iff_eq.2 (beq_iff_eq.1 h).symm
    | _ => cases h
  | time s =>
    cases b with
    | time t => exact beq_iff_eq.2 (beq_iff_eq.1 h).symm
    | _ => cases h
  | null =>
    cases b with
    | null => rfl
    | _ => cases h
  | list _ ih =>
    cases b with
    | list bs =>
      rw [equal, equalLists_iff] at h ⊢
      exact forall₂_symm ih hb.of_list h
    | _ => cases h
  | map hk _ ih =>
    cases b with
    | map n =>
      rw [equal_map_iff hk hb.keys_nodup] at h
      rw [equal_map_iff hb.keys_nodup hk]
      exact ⟨fun key => (h.1 key).symm, fun key y x hy hx =>
        ih _ (Entries.mem_of_get? hx) (hb.of_get? hy) (h.2 key x y hx hy)⟩
    | _ => cases h
  | block _ ih =>
    cases b with
    | block k bs =>
      rw [equal, Bool.and_eq_true, beq_iff_eq, equalLists_iff] at h ⊢
      exact ⟨h.1.symm, forall₂_symm ih hb.of_block h.2⟩
    | _ => cases h

theorem Keyed.equal_trans (ha : a.Keyed) (hb : b.Keyed) (hc : c.Keyed) (hab : equal a b = true)
    (hbc : equal b c = true) : equal a c = true := by
  induction ha generalizing b c with
  | decimal d =>
    cases b with
    | decimal e => exact beq_iff_eq.1 hab ▸ hbc
    | _ => cases hab
  | string s =>
    cases b with
    | string t => exact beq_iff_eq.1 hab ▸ hbc
    | _ => cases hab
  | boolean x =>
    cases b with
    | boolean y => exact beq_iff_eq.1 hab ▸ hbc
    | _ => cases hab
  | time s =>
    cases b with
    | time t =>
      cases c with
      | time u => exact beq_iff_eq.2 ((beq_iff_eq.1 hab).trans (beq_iff_eq.1 hbc))
      | _ => cases hbc
    | _ => cases hab
  | null =>
    cases b with
    | null => exact hbc
    | _ => cases hab
  | list _ ih =>
    cases b with
    | list bs =>
      cases c with
      | list cs =>
        rw [equal, equalLists_iff] at hab hbc ⊢
        exact forall₂_trans ih hb.of_list hc.of_list hab hbc
      | _ => cases hbc
    | _ => cases hab
  | map hk _ ih =>
    cases b with
    | map n =>
      cases c with
      | map o =>
        rw [equal_map_iff hk hb.keys_nodup] at hab
        rw [equal_map_iff hb.keys_nodup hc.keys_nodup] at hbc
        rw [equal_map_iff hk hc.keys_nodup]
        refine ⟨fun key => (hab.1 key).trans (hbc.1 key), fun key x z hx hz => ?_⟩
        obtain ⟨y, hy⟩ := Entries.mem_keys_iff.1 ((hab.1 key).1 (Entries.mem_keys_iff.2 ⟨x, hx⟩))
        exact ih _ (Entries.mem_of_get? hx) (hb.of_get? hy) (hc.of_get? hz) (hab.2 key x y hx hy) (hbc.2 key y z hy hz)
      | _ => cases hbc
    | _ => cases hab
  | block _ ih =>
    cases b with
    | block k bs =>
      cases c with
      | block l cs =>
        rw [equal, Bool.and_eq_true, beq_iff_eq, equalLists_iff] at hab hbc ⊢
        exact ⟨hab.1.trans hbc.1, forall₂_trans ih hb.of_block hc.of_block hab.2 hbc.2⟩
      | _ => cases hbc
    | _ => cases hab

theorem Keyed.equal_comm (ha : a.Keyed) (hb : b.Keyed) : equal a b = equal b a :=
  Bool.eq_iff_iff.2 ⟨ha.equal_symm hb, hb.equal_symm ha⟩

/-- Equal tokens are equal to the same tokens. -/
theorem Keyed.equal_congr (ha : a.Keyed) (hb : b.Keyed) (hc : c.Keyed) (h : equal a b = true) :
    equal a c = equal b c :=
  Bool.eq_iff_iff.2 ⟨hb.equal_trans ha hc (ha.equal_symm hb h), ha.equal_trans hb hc h⟩

theorem kind_of_equal (h : equal a b = true) : a.kind = b.kind := by
  unfold equal at h
  split at h
  case h_9 => cases h
  all_goals rfl

end Equivalence

/-! ## Times -/

/-- With clocks that stay within the day, an instant is the second counted from 1970 and the nanosecond within it. -/
theorem instant_eq_iff {s t : Timestamp} (hs : s.clock.second < 86400) (ht : t.clock.second < 86400) :
    s.instant = t.instant ↔ s.unixSeconds = t.unixSeconds ∧ s.clock.nano = t.clock.nano := by
  simp only [Timestamp.instant, Timestamp.unixSeconds, Prod.mk.injEq]
  omega

/-! ## Loose equality -/

section Loose

variable {a b c : Token} {s : String}

theorem eq_string_or_ne (a : Token) : (∃ s, a = string s) ∨ a.kind ≠ .string := by
  cases a with
  | string s => exact .inl ⟨s, rfl⟩
  | _ => exact .inr nofun

theorem looseEqual_of_kind (h : a.kind = b.kind) : looseEqual a b = .ok (equal a b) := if_pos h

/-- Beside a token of another kind, a string is compared as the atom that it spells. -/
theorem looseEqual_string (h : b.kind ≠ .string) : looseEqual (string s) b = (infer s).map fun t => equal t b :=
  if_neg fun he => h he.symm

theorem looseEqual_string_right (h : a.kind ≠ .string) :
    looseEqual a (string s) = (infer s).map fun t => equal t a := by
  refine (if_neg h).trans ?_
  cases a with
  | string t => exact absurd rfl h
  | _ => rfl

theorem looseEqual_of_ne (h : a.kind ≠ b.kind) (ha : a.kind ≠ .string) (hb : b.kind ≠ .string) :
    looseEqual a b = .ok false := by
  refine (if_neg h).trans ?_
  cases a with
  | string s => exact absurd rfl ha
  | _ => cases b with
    | string s => exact absurd rfl hb
    | _ => rfl

/-- There is no answer only where a string spells what is too large to be read. -/
theorem looseEqual_eq_error {e : Error} (h : looseEqual a b = .error e) :
    e = .overflow ∧ ∃ w, (a = string w ∨ b = string w) ∧ infer w = .error .overflow := by
  unfold looseEqual at h
  split at h
  · cases h
  · split at h
    · next w _ =>
      have hw := map_eq_error_iff.1 h
      obtain ⟨rfl, -⟩ := infer_eq_error_iff.1 hw
      exact ⟨rfl, w, .inl rfl, hw⟩
    · next w _ _ =>
      have hw := map_eq_error_iff.1 h
      obtain ⟨rfl, -⟩ := infer_eq_error_iff.1 hw
      exact ⟨rfl, w, .inr rfl, hw⟩
    · cases h

theorem looseEqual_self (ha : a.Keyed) : looseEqual a a = .ok true := by
  rw [looseEqual_of_kind rfl, ha.equal_refl]

theorem looseEqual_comm (ha : a.Keyed) (hb : b.Keyed) : looseEqual a b = looseEqual b a := by
  by_cases hk : a.kind = b.kind
  · rw [looseEqual_of_kind hk, looseEqual_of_kind hk.symm, ha.equal_comm hb]
  -- no more than one of the two is a string, and that one is read on either side
  · obtain ⟨s, rfl⟩ | hna := eq_string_or_ne a
    · have hnb : b.kind ≠ .string := fun he => hk he.symm
      rw [looseEqual_string hnb, looseEqual_string_right hnb]
    · obtain ⟨s, rfl⟩ | hnb := eq_string_or_ne b
      · rw [looseEqual_string hna, looseEqual_string_right hna]
      · rw [looseEqual_of_ne hk hna hnb, looseEqual_of_ne (Ne.symm hk) hnb hna]

theorem looseEqual_of_equal (h : equal a b = true) : looseEqual a b = .ok true := by
  rw [looseEqual_of_kind (kind_of_equal h), h]

/-- Equal tokens loosely equal the same tokens. -/
theorem looseEqual_congr (ha : a.Keyed) (hb : b.Keyed) (hc : c.Keyed) (h : equal a b = true) :
    looseEqual a c = looseEqual b c := by
  have hkind : a.kind = b.kind := kind_of_equal h
  by_cases hk : a.kind = c.kind
  · rw [looseEqual_of_kind hk, looseEqual_of_kind (hkind ▸ hk), ha.equal_congr hb hc h]
  · obtain ⟨s, rfl⟩ | hna := eq_string_or_ne a
    · cases b with
      | string t => rw [eq_of_beq h]
      | _ => cases h
    · have hnb : b.kind ≠ .string := hkind ▸ hna
      obtain ⟨s, rfl⟩ | hnc := eq_string_or_ne c
      · rw [looseEqual_string_right hna, looseEqual_string_right hnb]
        cases hs : infer s with
        | error e => rfl
        | ok t =>
          have ht : t.Keyed := .of_infer hs
          have hsame : equal t a = equal t b := by rw [ht.equal_comm ha, ht.equal_comm hb, ha.equal_congr hb ht h]
          exact congrArg Except.ok hsame
      · rw [looseEqual_of_ne hk hna hnc, looseEqual_of_ne (hkind ▸ hk) hnb hnc]

end Loose

/-- **Equality is an equivalence with which loose equality is compatible.** Among tokens whose maps have distinct keys,
equality is reflexive, symmetric and transitive; maps are equal exactly when they have the same keys, in whatever order,
with equal values, and times exactly when they are the same instant, wherever they were written. Loose equality is
reflexive and symmetric, holds of equal tokens, and does not tell them apart on either side. -/
theorem equal_equivalence {a b c : Token} (ha : a.Keyed) (hb : b.Keyed) (hc : c.Keyed) :
    (a.equal a = true ∧ a.equal b = b.equal a ∧ (a.equal b = true → b.equal c = true → a.equal c = true)) ∧
    (∀ m n, (map m).Keyed → (map n).Keyed → ((map m).equal (map n) = true ↔
      (∀ key, key ∈ Entries.keys m ↔ key ∈ Entries.keys n) ∧
        ∀ key v w, Entries.get? m key = some v → Entries.get? n key = some w → v.equal w = true)) ∧
    (∀ s t, ((time s).equal (time t) = true ↔ s.instant = t.instant) ∧
      (s.clock.second < 86400 → t.clock.second < 86400 →
        (s.instant = t.instant ↔ s.unixSeconds = t.unixSeconds ∧ s.clock.nano = t.clock.nano))) ∧
    (a.looseEqual a = .ok true ∧ a.looseEqual b = b.looseEqual a ∧ (a.equal b = true → a.looseEqual b = .ok true)) ∧
    (a.equal b = true → a.looseEqual c = b.looseEqual c ∧ c.looseEqual a = c.looseEqual b) := by
  refine ⟨⟨ha.equal_refl, ha.equal_comm hb, ha.equal_trans hb hc⟩, fun m n hm hn => ?maps, fun s t => ?times,
    ⟨looseEqual_self ha, looseEqual_comm ha hb, looseEqual_of_equal⟩, fun h => ?loose⟩
  case maps => exact equal_map_iff hm.keys_nodup hn.keys_nodup
  case times => exact ⟨beq_iff_eq, instant_eq_iff⟩
  case loose =>
    have hcongr := looseEqual_congr ha hb hc h
    rw [looseEqual_comm hc ha, looseEqual_comm hc hb]
    exact ⟨hcongr, hcongr⟩

/-- Two maps with their keys in different orders, one with a time as it was written elsewhere, beside a string. -/
theorem equal_equivalence_order :
    let here : Timestamp := ⟨18262, ⟨0, 0⟩, 0⟩
    let a := map [("At", time here), ("N", decimal 1)]
    let b := map [("N", decimal 1), ("At", time { here with offset := 3600 })]
    let c := string "2020"
    (a.Keyed ∧ b.Keyed ∧ c.Keyed ∧ a.equal b = true ∧ b.equal a = true) ∧ a.equal a = true ∧
      (a.looseEqual c = b.looseEqual c ∧ c.looseEqual a = c.looseEqual b) := by
  intro here a b c
  have ha : a.Keyed := .map (by decide) (by
    simp only [List.forall_mem_cons]
    exact ⟨.time here, .decimal 1, List.forall_mem_nil _⟩)
  have hb : b.Keyed := .map (by decide) (by
    simp only [List.forall_mem_cons]
    exact ⟨.decimal 1, .time _, List.forall_mem_nil _⟩)
  have hc : c.Keyed := .string _
  have hab : a.equal b = true := by decide
  obtain ⟨⟨hrefl, hsymm, -⟩, -, -, -, hloose⟩ := equal_equivalence ha hb hc
  exact ⟨⟨ha, hb, hc, hab, hsymm ▸ hab⟩, hrefl, hloose hab⟩

end Token

end RuleExpr
