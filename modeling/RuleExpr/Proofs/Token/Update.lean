import RuleExpr.Proofs.OrderedMap
import RuleExpr.Proofs.Outcome

/-!
# Values at paths after an update

`at?` is the token that a path leads to. A step of `setAt` changes what is under the segments that are not `Apart`
from the one it follows, and nothing else (`setAt_cons`). By induction on the path, the value is then at the path
(`at?_setAt`), and what stood at a path that parts from it is still there (`at?_setAt_of_diverge`).

`assign` changes the token on the way, before it is known whether the rest of the path can be followed. **It leaves the
token that `setAt` gives, and where there is none it leaves the token as it was** (`assign_eq`): a slot that has been
made is null, and from null the rest of any path can be laid (`exists_setAt_null`).
-/

namespace RuleExpr

namespace Token

/-- The token that a path leads to. -/
def at? : List String → Token → Option Token
  | [], t => some t
  | segment :: path, t => (t.child? segment).bind (at? path)

/-- Two segments lead from a token to different places. -/
def Apart : Token → String → String → Prop
  | list _, a, b => index? a ≠ index? b
  | _, a, b => a ≠ b

/-- Two paths part ways: after a common beginning they go on with different segments, which are different indices
where the beginning leads to a list. -/
def Diverge (leads : List String → Token → Prop) (p q : List String) : Prop :=
  ∃ common a b p' q', p = common ++ a :: p' ∧ q = common ++ b :: q' ∧ a ≠ b ∧
    ∀ items, leads common (list items) → index? a ≠ index? b

variable {t t' value found : Token} {segment a b : String} {path p q : List String}

theorem apart_of_ne (hab : a ≠ b) (hi : ∀ items, t = list items → index? a ≠ index? b) : Apart t a b := by
  cases t with
  | list items => exact hi items rfl
  | _ => exact hab

/-- **One step of an update.** The child under the segment is updated, where there is none from null, and the children
that are apart from it stay. -/
theorem setAt_cons (h : setAt (segment :: path) value t = .ok t') :
    ∃ c, setAt path value ((t.child? segment).getD null) = .ok c ∧ t'.child? segment = some c ∧
      (∀ other, Apart t segment other → t'.child? other = t.child? other) ∧
      ∀ a b, Apart t a b → Apart t' a b := by
  cases t with
  | null =>
    obtain ⟨c, hc, rfl⟩ := map_eq_ok h
    refine ⟨c, hc, ?_, ?_, fun a b hab => hab⟩
    · simp [child?, Entries.get?]
    · intro other ho
      have ho : segment ≠ other := ho
      simp [child?, Entries.get?, ho]
  | map entries =>
    obtain ⟨c, hc, rfl⟩ := map_eq_ok h
    refine ⟨c, hc, ?_, ?_, fun a b hab => hab⟩
    · simp [child?, Entries.get?_insert]
    · intro other ho
      have ho : segment ≠ other := ho
      simp [child?, Entries.get?_insert, ho]
  | list items =>
    rw [setAt] at h
    split at h
    · next i d hd =>
      obtain ⟨j, hj, hid⟩ := Option.bind_eq_some_iff.1 hd
      obtain ⟨e, he, hie⟩ := Option.map_eq_some_iff.1 hid
      cases hie
      obtain ⟨c, hc, rfl⟩ := map_eq_ok h
      have hlt : i < items.length := (List.getElem?_eq_some_iff.1 he).1
      refine ⟨c, ?_, ?_, ?_, fun a b hab => hab⟩
      · simpa [child?, hj, he] using hc
      · simp [child?, hj, hlt]
      · intro other ho
        have ho : index? segment ≠ index? other := ho
        rw [hj] at ho
        cases hk : index? other with
        | none => simp [child?, hk]
        | some k =>
          have hik : i ≠ k := fun hik => ho (by rw [hk, hik])
          simp [child?, hk, hik]
    · cases h
  | decimal | string | boolean | time | block => cases h

/-- **What is put at a path is found there.** -/
theorem at?_setAt (h : setAt path value t = .ok t') : at? path t' = some value := by
  induction path generalizing t t' with
  | nil =>
    cases h
    rfl
  | cons segment path ih =>
    obtain ⟨c, hc, hchild, -⟩ := setAt_cons h
    rw [at?, hchild]
    exact ih hc

/-- **What stands at a path that parts from the written one stays.** By induction on the common beginning, which leads
to the same place before and after. -/
theorem at?_setAt_of_diverge (h : setAt p value t = .ok t') (hd : Diverge (fun path c => at? path t = some c) p q)
    (hq : at? q t = some found) : at? q t' = some found := by
  obtain ⟨common, a, b, p', q', rfl, rfl, hab, hi⟩ := hd
  induction common generalizing t t' with
  | nil =>
    obtain ⟨c, -, -, hother, -⟩ := setAt_cons h
    have hapart : Apart t a b := apart_of_ne hab fun items ht => hi items (congrArg some ht)
    simpa [at?, hother b hapart] using hq
  | cons segment common ih =>
    obtain ⟨c, hc, hchild, -⟩ := setAt_cons h
    obtain ⟨d, hd, hfound⟩ := Option.bind_eq_some_iff.1 hq
    rw [hd] at hc
    have hi' : ∀ items, at? common d = some (list items) → index? a ≠ index? b := by
      intro items hitems
      apply hi items
      simpa [at?, hd] using hitems
    simpa [at?, hchild] using ih hc hfound hi'

/-! ## In place -/

/-- From null every path can be laid. -/
theorem exists_setAt_null (path : List String) (value : Token) : ∃ c, setAt path value null = .ok c := by
  induction path with
  | nil => exact ⟨value, rfl⟩
  | cons segment path ih =>
    obtain ⟨c, hc⟩ := ih
    refine ⟨map [(segment, c)], ?_⟩
    rw [setAt, hc]
    rfl

/-- In a map, the value under the segment is assigned to, or the slot that is made for it. -/
theorem assign_map (segment : String) (path : List String) (value : Token) (entries : Entries Token) :
    assign (segment :: path) value (map entries) =
      ((assign path value ((Entries.get? entries segment).getD null)).1,
        map (Entries.insert entries segment
          (assign path value ((Entries.get? entries segment).getD null)).2)) := by
  have hslot : (Entries.get? (Entries.ensure entries segment null) segment).getD null =
      (Entries.get? entries segment).getD null := by
    rw [Entries.get?_ensure, if_pos rfl, Option.getD_some]
  simp only [assign, isNull, Bool.false_eq_true, if_false, hslot, Entries.replace_ensure]

/-- **What `assign` leaves**: the token with the value at the path, or if there is none the token as it was. -/
theorem assign_eq (path : List String) (value t : Token) :
    assign path value t = match setAt path value t with
      | .ok t' => (.ok (), t')
      | .error e => (.error e, t) := by
  induction path generalizing t with
  | nil => rfl
  | cons segment path ih =>
    cases t with
    | null =>
      obtain ⟨c, hc⟩ := exists_setAt_null path value
      have hmap : assign (segment :: path) value null = assign (segment :: path) value (map []) := rfl
      rw [hmap, assign_map, ih, setAt, Entries.get?, Option.getD_none, hc]
      rfl
    | map entries =>
      rw [assign_map, ih, setAt]
      cases hold : Entries.get? entries segment with
      | none =>
        -- a slot has been made, and from it the rest of the path is laid
        obtain ⟨c, hc⟩ := exists_setAt_null path value
        rw [Option.getD_none, hc]
        rfl
      | some old =>
        rw [Option.getD_some]
        cases setAt path value old with
        | ok c => rfl
        | error e =>
          show (_, map (Entries.insert entries segment old)) = _
          rw [Entries.insert_of_get? hold]
          rfl
    | list items =>
      simp only [assign, isNull, Bool.false_eq_true, if_false, ih]
      rw [setAt]
      split
      · next i c hi =>
        obtain ⟨j, -, hj⟩ := Option.bind_eq_some_iff.1 hi
        obtain ⟨d, hd, hij⟩ := Option.map_eq_some_iff.1 hj
        cases hij
        cases setAt path value c with
        | ok c' => rfl
        | error e =>
          obtain ⟨hlt, rfl⟩ := List.getElem?_eq_some_iff.1 hd
          show (_, list (items.set i items[i])) = _
          rw [List.set_getElem_self hlt]
          rfl
      · rfl
    | decimal | string | boolean | time | block => rfl

/-! ## New names -/

/-- Whether a token takes names: it is a map, or null, which an update makes one. -/
def isOpen : Token → Bool
  | map _ => true
  | null => true
  | _ => false

/-- A list without the child has no slot to put it in. -/
theorem slot_eq_none {items : List Token} (hn : child? (list items) segment = none) :
    ((index? segment).bind fun i => items[i]?.map (i, ·)) = none := by
  rw [child?, Option.bind_eq_none_iff] at hn
  rw [Option.bind_eq_none_iff]
  intro i hi
  rw [hn i hi, Option.map_none]

/-- A new name can be given a value where a token takes names, and nowhere else. -/
theorem setAt_new (value : Token) (hn : t.child? segment = none) :
    (∃ t', setAt [segment] value t = .ok t') ↔ t.isOpen = true := by
  cases t with
  | null | map => exact ⟨fun _ => rfl, fun _ => ⟨_, rfl⟩⟩
  | list items =>
    simp [setAt, slot_eq_none hn, isOpen]
  | decimal | string | boolean | time | block => simp [setAt, isOpen]

end Token

end RuleExpr
