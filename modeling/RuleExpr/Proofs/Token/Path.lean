import RuleExpr.Token.Path
import RuleExpr.Proofs.Token.Blocks

/-!
# Paths into values

`insert` gives one key a value and leaves the others as they are (`Entries.get?_insert`). What a path leads to is part
of the value that it leads into, and a value with another one put at a path has no blocks but those of the two
(`data_child?`, `data_setAt`).
-/

namespace RuleExpr

namespace Entries

variable {α : Type} {m : Entries α} {key : String} {value : α}

theorem mem_of_get? (h : get? m key = some value) : (key, value) ∈ m := by
  induction m with
  | nil => cases h
  | cons e m ih =>
    rw [get?] at h
    split at h
    · next he =>
      cases h
      exact he ▸ List.mem_cons_self
    · exact List.mem_cons_of_mem _ (ih h)

theorem mem_insert {e : String × α} (h : e ∈ insert m key value) : e ∈ m ∨ e = (key, value) := by
  induction m with
  | nil => exact .inr (List.mem_singleton.1 h)
  | cons d m ih =>
    rw [insert] at h
    split at h
    · next he => exact (List.mem_cons.1 h).symm.imp (List.mem_cons_of_mem _) fun hd => hd.trans (by rw [he])
    · rcases List.mem_cons.1 h with rfl | h
      · exact .inl List.mem_cons_self
      · exact (ih h).imp (List.mem_cons_of_mem _) id

theorem get?_insert (m : Entries α) (key : String) (value : α) (other : String) :
    get? (insert m key value) other = if key = other then some value else get? m other := by
  induction m with
  | nil => simp only [insert, get?]
  | cons d m ih =>
    rw [insert]
    split
    · next he =>
      subst he
      simp only [get?]
      split <;> rfl
    · next he =>
      simp only [get?, ih]
      split
      · next hd => rw [if_neg fun hk => he (hd.trans hk.symm)]
      · rfl

end Entries

namespace Token

variable {held : String → List Token → Prop} {t value : Token} {path : List String}

theorem data_insert {m : Entries Token} {key : String} (hm : ∀ e ∈ m, Data held e.2) (hv : Data held value) :
    ∀ e ∈ m.insert key value, Data held e.2 := fun e he => by
  rcases Entries.mem_insert he with he | rfl
  · exact hm e he
  · exact hv

theorem data_child? {segment : String} {c : Token} (h : Data held t) (hc : t.child? segment = some c) :
    Data held c := by
  unfold child? at hc
  split at hc
  · exact h.of_map _ (Entries.mem_of_get? hc)
  · obtain ⟨i, -, hi⟩ := Option.bind_eq_some_iff.1 hc
    exact h.of_list c (List.mem_of_getElem? hi)
  · cases hc

theorem data_getD {o : Option Token} (h : ∀ c, o = some c → Data held c) : Data held (o.getD null) := by
  cases o with
  | none => exact .null
  | some c => exact h c rfl

/-- **Putting a value at a path brings in no blocks but those of the value.** -/
theorem data_setAt (hv : Data held value) (ht : Data held t) : Yields (Data held) (setAt path value t) := by
  induction path generalizing t with
  | nil => exact .ok hv
  | cons segment path ih =>
    cases t with
    | null => exact .map_of (ih .null) fun c hc => .map (List.forall_mem_singleton.2 hc)
    | map entries =>
      have hold := data_getD (o := Entries.get? entries segment) fun c hc => ht.of_map _ (Entries.mem_of_get? hc)
      exact .map_of (ih hold) fun c hc => .map (data_insert ht.of_map hc)
    | list items =>
      rw [setAt]
      split
      · next i c hi =>
        obtain ⟨j, -, hj⟩ := Option.bind_eq_some_iff.1 hi
        obtain ⟨d, hd, hij⟩ := Option.map_eq_some_iff.1 hj
        cases hij
        refine .map_of (ih (ht.of_list _ (List.mem_of_getElem? hd))) fun c hc => .list fun t hm => ?_
        rcases List.mem_or_eq_of_mem_set hm with hm | rfl
        · exact ht.of_list t hm
        · exact hc
      · exact .error _
    | decimal | string | boolean | time | block => exact .error _

end Token

end RuleExpr
