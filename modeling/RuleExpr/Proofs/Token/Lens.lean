import Mathlib
import RuleExpr.Proofs.Token.Update

/-!
# Reading and assigning at paths

`readAt` and `assign` are the two halves of a lens. **What is assigned is read back, a second assignment to the same
path replaces the first, assigning what is there changes nothing, and a path that parts from the assigned one reads as
before** (`assign_lens`). The laws hold for `setAt` first (`setAt_setAt`, `setAt_of_at?`), which is `assign` on the
tokens that it can change.

An assignment fails where the path meets a token that it cannot go into: a list without the index, or a token that has
no parts (`Blocked`). **It fails at such tokens only, and leaves all as it was** (`assign_error`).
-/

namespace RuleExpr

namespace Token

variable {t t' node value found : Token} {segment : String} {path : List String} {e : Error}

/-! ## What is read -/

/-- Reading follows the path, whatever led to the token. -/
theorem readFrom_eq_ok {walked : List String} : readFrom walked path t = .ok found ↔ at? path t = some found := by
  induction path generalizing walked t with
  | nil => simp [readFrom, at?]
  | cons segment path ih =>
    rw [readFrom, at?]
    cases t.child? segment with
    | none => simp
    | some c => simpa using ih

theorem readAt_eq_ok : readAt t path = .ok found ↔ at? path t = some found := readFrom_eq_ok

/-! ## Where a path ends too soon -/

/-- A path cannot go on from a token: the token is a list and the segment is no index of it, or it has no parts. -/
inductive Blocked : Token → String → Error → Prop
  | index {items : List Token} {segment : String} (h : ∀ i, index? segment = some i → items.length ≤ i) :
      Blocked (list items) segment (.unboundName segment)
  | kind {node : Token} {segment : String} (hopen : node.isOpen = false) (hlist : ∀ items, node ≠ list items) :
      Blocked node segment (.kindMismatch segment Kind.collection node.kind)

theorem Blocked.not_isOpen (h : Blocked node segment e) : node.isOpen = false := by
  cases h with
  | index => rfl
  | kind hopen => exact hopen

/-- **One step of an update that fails.** The path cannot go on, or it goes on and fails later. -/
theorem setAt_cons_eq_error : setAt (segment :: path) value t = .error e ↔
    Blocked t segment e ∨ ∃ c, t.child? segment = some c ∧ setAt path value c = .error e := by
  cases t with
  | null =>
    obtain ⟨c, hc⟩ := exists_setAt_null path value
    have hblocked : ¬ Blocked null segment e := fun hb => Bool.noConfusion hb.not_isOpen
    simp [setAt, hc, hblocked, child?, Except.map]
  | map entries =>
    have hblocked : ¬ Blocked (map entries) segment e := fun hb => Bool.noConfusion hb.not_isOpen
    rw [setAt, child?, map_eq_error_iff]
    cases Entries.get? entries segment with
    | none =>
      obtain ⟨c, hc⟩ := exists_setAt_null path value
      simp [hblocked, hc]
    | some c => simp [hblocked]
  | list items =>
    cases hchild : child? (list items) segment with
    | none =>
      have hindex : ∀ i, index? segment = some i → items.length ≤ i := fun i hi =>
        List.getElem?_eq_none_iff.1 (Option.bind_eq_none_iff.1 hchild i hi)
      have hblocked : Blocked (list items) segment e ↔ .unboundName segment = e := by
        constructor
        · rintro (_ | ⟨_, hlist⟩)
          · rfl
          · exact absurd rfl (hlist items)
        · rintro rfl
          exact .index hindex
      simp [setAt, slot_eq_none hchild, hblocked]
    | some c =>
      obtain ⟨i, hi, hc⟩ := Option.bind_eq_some_iff.1 hchild
      have hlt : i < items.length := (List.getElem?_eq_some_iff.1 hc).1
      have hblocked : ¬ Blocked (list items) segment e := by
        rintro (h | ⟨_, hlist⟩)
        · exact absurd hlt (Nat.not_lt.2 (h i hi))
        · exact hlist items rfl
      simp [setAt, hi, hc, map_eq_error_iff, hblocked]
  | decimal | string | boolean | time | block =>
    constructor
    · intro h
      cases h
      exact .inl (.kind rfl (by simp))
    · rintro (hb | ⟨c, hc, -⟩)
      · cases hb with
        | kind => rfl
      · cases hc

/-- **An update fails where its path meets a token that it cannot go into, and only there.** -/
theorem setAt_eq_error_iff : setAt path value t = .error e ↔
    ∃ front segment rest node, path = front ++ segment :: rest ∧ at? front t = some node ∧
      Blocked node segment e := by
  induction path generalizing t with
  | nil => simp [setAt]
  | cons segment path ih =>
    rw [setAt_cons_eq_error]
    constructor
    · rintro (hb | ⟨c, hc, herr⟩)
      · exact ⟨[], segment, path, t, rfl, rfl, hb⟩
      · obtain ⟨front, s, rest, node, rfl, hnode, hb⟩ := ih.1 herr
        exact ⟨segment :: front, s, rest, node, rfl, by rw [at?, hc]; exact hnode, hb⟩
    · rintro ⟨front, s, rest, node, hpath, hnode, hb⟩
      cases front with
      | nil =>
        cases hpath
        cases hnode
        exact .inl hb
      | cons first front =>
        cases hpath
        obtain ⟨c, hc, hnode⟩ := Option.bind_eq_some_iff.1 hnode
        exact .inr ⟨c, hc, ih.2 ⟨front, s, rest, node, rfl, hnode, hb⟩⟩

/-! ## The laws of a lens -/

/-- **A second update of the same path replaces the first.** -/
theorem setAt_setAt {first : Token} (h : setAt path first t = .ok t') : setAt path value t' = setAt path value t := by
  induction path generalizing t t' with
  | nil => rfl
  | cons segment path ih =>
    cases t with
    | null =>
      obtain ⟨c, hc, rfl⟩ := map_eq_ok h
      simp [setAt, Entries.get?, Entries.insert, ih hc]
    | map entries =>
      obtain ⟨c, hc, rfl⟩ := map_eq_ok h
      simp only [setAt, Entries.get?_insert, if_pos, Option.getD_some, Entries.insert_insert, ih hc]
    | list items =>
      rw [setAt] at h
      split at h
      · next i d hd =>
        obtain ⟨j, hj, hid⟩ := Option.bind_eq_some_iff.1 hd
        obtain ⟨old, hold, hie⟩ := Option.map_eq_some_iff.1 hid
        cases hie
        obtain ⟨c, hc, rfl⟩ := map_eq_ok h
        obtain ⟨hlt, rfl⟩ := List.getElem?_eq_some_iff.1 hold
        simp [setAt, hj, hlt, ih hc]
      · cases h
    | decimal | string | boolean | time | block => cases h

/-- **Putting at a path what is there changes nothing.** -/
theorem setAt_of_at? (h : at? path t = some value) : setAt path value t = .ok t := by
  induction path generalizing t with
  | nil =>
    cases h
    rfl
  | cons segment path ih =>
    obtain ⟨c, hc, hvalue⟩ := Option.bind_eq_some_iff.1 h
    have hset : setAt path value c = .ok c := ih hvalue
    cases t with
    | map entries =>
      have hget : Entries.get? entries segment = some c := hc
      rw [setAt, hget, Option.getD_some, hset]
      exact congrArg (fun m => Except.ok (map m)) (Entries.insert_of_get? hget)
    | list items =>
      obtain ⟨i, hi, hitem⟩ := Option.bind_eq_some_iff.1 hc
      obtain ⟨hlt, rfl⟩ := List.getElem?_eq_some_iff.1 hitem
      have hslot : ((index? segment).bind fun i => items[i]?.map (i, ·)) = some (i, items[i]) := by
        rw [hi, Option.bind_some, hitem, Option.map_some]
      simp only [setAt, hslot, hset]
      exact congrArg (fun items => Except.ok (list items)) (List.set_getElem_self hlt)
    | _ => cases hc

/-- Whether an update fails, and how, is no matter of the value. -/
theorem setAt_eq_error_congr (first second : Token) :
    setAt path first t = .error e ↔ setAt path second t = .error e := by
  rw [setAt_eq_error_iff, setAt_eq_error_iff]

/-- **Reading and assigning form a lens**: what is assigned is read back, the last of two assignments counts, assigning
what is read changes nothing, and a path that parts from the assigned one reads as before. -/
theorem assign_lens (t first second : Token) (path : List String) :
    ((assign path first t).1 = .ok () → readAt (assign path first t).2 path = .ok first) ∧
      assign path second (assign path first t).2 = assign path second t ∧
      (readAt t path = .ok first → assign path first t = (.ok (), t)) ∧
      ∀ other found, readAt t other = .ok found →
        Diverge (fun common c => readAt t common = .ok c) path other →
          readAt (assign path first t).2 other = .ok found := by
  simp only [readAt_eq_ok, assign_eq]
  cases hset : setAt path first t with
  | error e =>
    refine ⟨nofun, rfl, fun hread => ?_, fun other found hread _ => hread⟩
    rw [setAt_of_at? hread] at hset
    cases hset
  | ok t' =>
    refine ⟨fun _ => at?_setAt hset, ?_, fun hread => ?_, fun other found hread hd => ?_⟩
    · rw [setAt_setAt hset]
      cases hsecond : setAt path second t with
      | ok _ => rfl
      | error e =>
        rw [setAt_eq_error_congr second first, hset] at hsecond
        cases hsecond
    · rw [setAt_of_at? hread] at hset
      cases hset
      rfl
    · exact at?_setAt_of_diverge hset hd hread

/-- An element of a list is written twice under spellings of its index, and the element after it stays. -/
theorem assign_lens_spelled :
    readAt (assign ["xs", "00", "k"] (string "a") (map [("xs", list [null, null])])).2 ["xs", "00", "k"] =
        .ok (string "a") ∧
      assign ["xs", "00", "k"] null (assign ["xs", "00", "k"] (string "a") (map [("xs", list [null, null])])).2 =
        assign ["xs", "00", "k"] null (map [("xs", list [null, null])]) ∧
      assign ["xs", "+1"] null (map [("xs", list [null, null])]) = (.ok (), map [("xs", list [null, null])]) ∧
      readAt (assign ["xs", "00", "k"] (string "a") (map [("xs", list [null, null])])).2 ["xs", "+1"] = .ok null := by
  have hlens := assign_lens (map [("xs", list [null, null])])
  have hdiverge : Diverge (fun common c => readAt (map [("xs", list [null, null])]) common = .ok c)
      ["xs", "00", "k"] ["xs", "+1"] :=
    ⟨["xs"], "00", "+1", ["k"], [], rfl, rfl, by decide, fun _ _ => by decide +kernel⟩
  exact ⟨(hlens _ null ["xs", "00", "k"]).1 (by decide +kernel), (hlens _ null ["xs", "00", "k"]).2.1,
    (hlens null null ["xs", "+1"]).2.2.1 (by cbv),
    (hlens _ null ["xs", "00", "k"]).2.2.2 ["xs", "+1"] null (by cbv) hdiverge⟩

/-! ## Assignments that fail -/

/-- **An assignment that fails leaves the token as it was**, and it fails exactly where its path meets a token that it
cannot go into. -/
theorem assign_error (t value : Token) (path : List String) :
    (∀ e, (assign path value t).1 = .error e → (assign path value t).2 = t) ∧
      ∀ e, (assign path value t).1 = .error e ↔
        ∃ front segment rest node, path = front ++ segment :: rest ∧ readAt t front = .ok node ∧
          Blocked node segment e := by
  simp only [readAt_eq_ok, ← @setAt_eq_error_iff t value path, assign_eq]
  cases setAt path value t with
  | ok t' => exact ⟨nofun, fun e => ⟨nofun, nofun⟩⟩
  | error e =>
    refine ⟨fun _ _ => rfl, fun e' => ?_⟩
    rw [Except.error.injEq, Except.error.injEq]

/-- The key before the string is found, the slot below it cannot be made, and nothing has changed. -/
theorem assign_error_string :
    (assign ["a", "b", "c"] null (map [("a", map [("b", string "")])])).1 =
        .error (.kindMismatch "c" Kind.collection Kind.string) ∧
      (assign ["a", "b", "c"] null (map [("a", map [("b", string "")])])).2 = map [("a", map [("b", string "")])] := by
  have herror : (assign ["a", "b", "c"] null (map [("a", map [("b", string "")])])).1 =
      .error (.kindMismatch "c" Kind.collection Kind.string) :=
    ((assign_error _ null ["a", "b", "c"]).2 _).2
      ⟨["a", "b"], "c", [], string "", rfl, by cbv, .kind rfl nofun⟩
  exact ⟨herror, (assign_error _ null ["a", "b", "c"]).1 _ herror⟩

end Token

end RuleExpr
