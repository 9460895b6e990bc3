import RuleExpr.Proofs.Time.Reading
import RuleExpr.Proofs.Token.Atoms
import RuleExpr.Proofs.Token.Path

/-!
# Readable tokens

A token is readable (`Token.Readable`) if its atoms, at any depth, are such as the readers of texts give: decimals with no
more places than are counted, and times whose clock and offset are written exactly, in any year. Literals are readable.
Paths, updates and templates take readable tokens apart and put them together, so what they give is readable again
(`readable_setAt`, `Template.readable_instantiate`).
-/

namespace RuleExpr

namespace Token

/-- The decimals and times in the token are such as the readers of texts give. -/
inductive Readable : Token → Prop
  | decimal {d : Decimal} (h : d.scale < 2 ^ 32) : Readable (decimal d)
  | string (s : String) : Readable (string s)
  | boolean (b : Bool) : Readable (boolean b)
  | time {t : Timestamp} (h : t.Regular) : Readable (time t)
  | null : Readable null
  | list {items : List Token} (h : ∀ t ∈ items, Readable t) : Readable (list items)
  | map {entries : List (String × Token)} (h : ∀ e ∈ entries, Readable e.2) : Readable (map entries)
  | block {head : String} {children : List Token} (h : ∀ t ∈ children, Readable t) : Readable (block head children)

namespace Readable

variable {items children : List Token} {entries : Entries Token} {head : String}

theorem of_decimal {d : Decimal} (h : Readable (Token.decimal d)) : d.scale < 2 ^ 32 := by
  cases h with
  | decimal h => exact h

theorem of_time {t : Timestamp} (h : Readable (Token.time t)) : t.Regular := by
  cases h with
  | time h => exact h

theorem of_list (h : Readable (Token.list items)) : ∀ t ∈ items, Readable t := by
  cases h with
  | list h => exact h

theorem of_map (h : Readable (Token.map entries)) : ∀ e ∈ entries, Readable e.2 := by
  cases h with
  | map h => exact h

theorem of_block (h : Readable (Token.block head children)) : ∀ t ∈ children, Readable t := by
  cases h with
  | block h => exact h

/-- Literals are readable. -/
theorem infer (w : String) : Yields Readable (infer w) := by
  rcases infer_cases w with ⟨b, hb⟩ | ⟨t, ht, hp⟩ | ⟨d, hd, hs⟩ | hs | ho
  · rw [hb]
    exact .ok (.boolean b)
  · rw [ht]
    exact .ok (.time (Timestamp.printable_iff.1 hp).1)
  · rw [hd]
    exact .ok (.decimal hs)
  · rw [hs]
    exact .ok (.string w)
  · rw [ho]
    exact .error _

theorem getD {o : Option Token} (h : ∀ t, o = some t → Readable t) : Readable (o.getD Token.null) := by
  cases o with
  | none => exact .null
  | some t => exact h t rfl

end Readable

/-! ## Paths -/

variable {t value : Token} {path : List String}

theorem readable_insert {m : Entries Token} {key : String} (hm : ∀ e ∈ m, Readable e.2) (hv : Readable value) :
    ∀ e ∈ m.insert key value, Readable e.2 := by
  intro e he
  rcases Entries.mem_insert he with he | rfl
  · exact hm e he
  · exact hv

theorem readable_child? {segment : String} {c : Token} (h : Readable t) (hc : t.child? segment = some c) :
    Readable c := by
  unfold child? at hc
  split at hc
  · exact h.of_map _ (Entries.mem_of_get? hc)
  · obtain ⟨i, -, hi⟩ := Option.bind_eq_some_iff.1 hc
    exact h.of_list c (List.mem_of_getElem? hi)
  · cases hc

theorem readable_setAt (hv : Readable value) (ht : Readable t) : Yields Readable (setAt path value t) := by
  induction path generalizing t with
  | nil => exact .ok hv
  | cons segment path ih =>
    cases t with
    | null => exact .map_of (ih .null) fun c hc => .map (List.forall_mem_singleton.2 hc)
    | map entries =>
      have hold : Readable ((Entries.get? entries segment).getD null) :=
        .getD fun c hc => ht.of_map _ (Entries.mem_of_get? hc)
      exact .map_of (ih hold) fun c hc => .map (readable_insert ht.of_map hc)
    | list items =>
      rw [setAt]
      split
      · next i c hi =>
        obtain ⟨j, -, hj⟩ := Option.bind_eq_some_iff.1 hi
        obtain ⟨d, hd, hij⟩ := Option.map_eq_some_iff.1 hj
        cases hij
        refine .map_of (ih (ht.of_list _ (List.mem_of_getElem? hd))) fun c hc => .list fun u hu => ?_
        rcases List.mem_or_eq_of_mem_set hu with hu | rfl
        · exact ht.of_list u hu
        · exact hc
      · exact .error _
    | decimal | string | boolean | time | block => exact .error _

end Token

/-! ## Templates -/

namespace Template

open Token (Readable)

variable {args : List Token}

theorem readable_argument (ha : ∀ a ∈ args, Readable a) (index : Decimal) : Yields Readable (argument args index) := by
  unfold argument
  split
  · exact .error _
  · split
    · next a h => exact .ok (ha a (List.mem_of_getElem? h))
    · exact .error _

theorem readable_substituteAll {ts : List Token}
    (h : ∀ t ∈ ts, ∀ replaced, Yields (fun u => Readable u.1) (substitute args replaced t)) (replaced : Bool) :
    Yields (fun us => ∀ u ∈ us.1, Readable u) (substituteAll args replaced ts) := by
  induction ts generalizing replaced with
  | nil => exact .ok (List.forall_mem_nil _)
  | cons t ts ih =>
    obtain ⟨ht, hts⟩ := List.forall_mem_cons.1 h
    rw [substituteAll]
    split
    · exact .error _
    · next u _ hu => exact .map_of (ih hts _) fun us hus => List.forall_mem_cons.2 ⟨ht replaced _ hu, hus⟩

/-- One pass, by induction on the tree. -/
theorem readable_substitute (ha : ∀ a ∈ args, Readable a) {t : Token} (ht : Readable t) (replaced : Bool) :
    Yields (fun u => Readable u.1) (substitute args replaced t) := by
  induction ht generalizing replaced with
  | block _ ih =>
    rw [substitute]
    split
    · exact .map_of (readable_argument ha _) fun a h => h
    · exact .map_of (readable_substituteAll ih replaced) fun us hus => .block hus
  | decimal h => exact .ok (.decimal h)
  | string s => exact .ok (.string s)
  | boolean b => exact .ok (.boolean b)
  | time h => exact .ok (.time h)
  | null => exact .ok .null
  | list h => exact .ok (.list h)
  | map h => exact .ok (.map h)

theorem readable_expand (ha : ∀ a ∈ args, Readable a) (signature : Signature) (passes : Nat) {t : Token}
    (ht : Readable t) : Yields Readable (expand signature args passes t) := by
  induction passes generalizing t with
  | zero => exact .error _
  | succ passes ih =>
    rw [expand]
    split
    · exact .error _
    · next u hu => exact ih (readable_substitute ha ht false _ hu)
    · next u hu => exact .ok (readable_substitute ha ht false _ hu)

/-- **What a template is instantiated to is readable.** -/
theorem readable_instantiate (ha : ∀ a ∈ args, Readable a) {template : Template} (ht : template.body.Readable) :
    Yields Readable (template.instantiate args) :=
  readable_expand ha _ _ ht

end Template

end RuleExpr
