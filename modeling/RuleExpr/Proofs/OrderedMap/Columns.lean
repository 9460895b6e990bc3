import RuleExpr.Proofs.OrderedMap

/-!
# A map in two lists

A map is stored with its keys in one list and its values in another. That there are as many values as keys, and each at
the place of its key, is not part of the type: it holds of the maps that the operations make, because each operation
does to both lists what the one on pairs does to its list (`insert_ofEntries`, `remove_ofEntries`, `slot_ofEntries`).
So one step is a step on pairs with the same answer (`run_ofEntries`), and a run is a run on pairs (`after_ofEntries`).

The operations look for the place of a key from the front. Where the first key is another one they go on behind it,
which is one place further (`position?_cons`); that is the induction step for each of them.

**Keys are distinct and in step with the values, and all answers are those of the history** (`mirrors_history`).
-/

namespace RuleExpr.Columns

/-! ## Places -/

section Places

variable {α : Type} {m : Columns α} {k key : String} {v value : α} {i : Nat}

/-- The map with a key and its value before all others. -/
def cons (k : String) (v : α) (m : Columns α) : Columns α := ⟨k :: m.keys, v :: m.values⟩

theorem position?_cons (m : Columns α) (k : String) (v : α) (key : String) :
    (m.cons k v).position? key = if k = key then some 0 else (m.position? key).map (· + 1) := by
  rw [position?, cons, List.findIdx?_cons]
  simp only [beq_iff_eq]
  rfl

theorem get?_cons (m : Columns α) (k : String) (v : α) (key : String) :
    (m.cons k v).get? key = if k = key then some v else m.get? key := by
  rw [get?, position?_cons, get?]
  split
  · rfl
  · cases m.position? key <;> rfl

/-- A key is given a value in the first place or behind it. -/
theorem insert_cons (m : Columns α) (k : String) (v : α) (key : String) (value : α) :
    (m.cons k v).insert key value =
      if k = key then (some v, m.cons k value) else ((m.insert key value).1, (m.insert key value).2.cons k v) := by
  rw [insert, position?_cons, insert]
  by_cases hk : k = key
  · rw [if_pos hk, if_pos hk]
    rfl
  · rw [if_neg hk, if_neg hk]
    cases m.position? key <;> rfl

theorem remove_cons (m : Columns α) (k : String) (v : α) (key : String) :
    (m.cons k v).remove key =
      if k = key then (some v, m) else ((m.remove key).1, (m.remove key).2.cons k v) := by
  rw [remove, position?_cons, remove]
  by_cases hk : k = key
  · rw [if_pos hk, if_pos hk]
    rfl
  · rw [if_neg hk, if_neg hk]
    cases m.position? key <;> rfl

theorem lt_of_position? (h : m.position? key = some i) : i < m.keys.length :=
  (List.findIdx?_eq_some_iff_getElem.1 h).1

end Places

/-! ## Two lists of pairs -/

section Pairs

variable {α : Type} {e : Entries α} {key : String} {i : Nat}

/-- The keys and the values of pairs, in two lists. -/
def ofEntries (e : Entries α) : Columns α := ⟨e.keys, e.values⟩

theorem length_keys_ofEntries (e : Entries α) : (ofEntries e).keys.length = (ofEntries e).values.length := by
  rw [ofEntries, Entries.keys, Entries.values, List.length_map, List.length_map]

theorem get?_ofEntries (e : Entries α) (key : String) : (ofEntries e).get? key = e.get? key := by
  induction e with
  | nil => rfl
  | cons p e ih =>
    obtain ⟨k, v⟩ := p
    rw [Entries.get?, ← ih]
    exact get?_cons (ofEntries e) k v key

/-- **Giving a key a value** does to both lists what it does to the pairs. -/
theorem insert_ofEntries (e : Entries α) (key : String) (value : α) :
    (ofEntries e).insert key value = (e.get? key, ofEntries (e.insert key value)) := by
  induction e with
  | nil => rfl
  | cons p e ih =>
    obtain ⟨k, v⟩ := p
    refine (insert_cons (ofEntries e) k v key value).trans ?_
    rw [ih, Entries.get?, Entries.insert]
    split <;> rfl

/-- **Taking a key away** takes its place out of both lists. -/
theorem remove_ofEntries (e : Entries α) (key : String) :
    (ofEntries e).remove key = (e.get? key, ofEntries (e.erase key)) := by
  induction e with
  | nil => rfl
  | cons p e ih =>
    obtain ⟨k, v⟩ := p
    refine (remove_cons (ofEntries e) k v key).trans ?_
    rw [ih, Entries.get?, Entries.erase]
    split <;> rfl

/-- The value at the place of a key is the one that it is paired with. -/
theorem getElem?_of_position? (h : (ofEntries e).position? key = some i) :
    (ofEntries e).values[i]? = e.get? key := by
  rw [← get?_ofEntries, get?, h]
  rfl

/-- To write there is to give the key the value. -/
theorem setAt_of_position? (h : (ofEntries e).position? key = some i) (value : α) :
    (ofEntries e).setAt i value = ofEntries (e.insert key value) := by
  have hinsert := insert_ofEntries e key value
  rw [insert, h] at hinsert
  exact congrArg Prod.snd hinsert

theorem hasKey_ofEntries (e : Entries α) (key : String) : (ofEntries e).hasKey key = e.hasKey key := by
  induction e with
  | nil => rfl
  | cons p e ih =>
    obtain ⟨k, v⟩ := p
    rw [hasKey, Entries.hasKey] at ih ⊢
    rw [Entries.get?, show ofEntries ((k, v) :: e) = (ofEntries e).cons k v from rfl, position?_cons]
    split
    · rfl
    · rw [Option.isSome_map, ih]

/-- **A slot** is the place of its key, at the end if the key was not there. -/
theorem slot_ofEntries (e : Entries α) (key : String) (default : α) :
    ∃ i, (ofEntries e).slot key default = (i, ofEntries (e.ensure key default)) ∧
      (ofEntries (e.ensure key default)).position? key = some i := by
  rw [Entries.ensure, ← hasKey_ofEntries, hasKey, slot]
  cases h : (ofEntries e).position? key with
  | some i => exact ⟨i, rfl, h⟩
  | none =>
    have happend : ofEntries (e.insert key default) = (ofEntries e).append key default := by
      have hinsert := insert_ofEntries e key default
      rw [insert, h] at hinsert
      exact (congrArg Prod.snd hinsert).symm
    refine ⟨_, congrArg _ happend.symm, ?_⟩
    show (ofEntries (e.insert key default)).position? key = _
    rw [position?] at h
    rw [happend, append, position?, List.findIdx?_append, h, ← length_keys_ofEntries]
    simp

end Pairs

/-! ## Runs -/

open Entries (Operation contents added AddedBefore inserts)

section Runs

variable {e : Entries Token} {key : String} {i : Nat}

/-- Writes to a place, if something is written. -/
def writeAt (m : Columns Token) (i : Nat) : Option Token → Columns Token
  | none => m
  | some value => m.setAt i value

/-- What an operation answers, and the map after it. What is got hold of is a place among the values. -/
def run (m : Columns Token) : Operation → Option Token × Columns Token
  | .insert key value => m.insert key value
  | .remove key => m.remove key
  | .access key write =>
    match m.position? key with
    | some i => (m.values[i]?, m.writeAt i write)
    | none => (none, m)
  | .slot key write =>
    match m.slot key .null with
    | (i, m) => (m.values[i]?, m.writeAt i write)

/-- The map after operations, in order. -/
def after (m : Columns Token) (ops : List Operation) : Columns Token := ops.foldl (fun m op => (m.run op).2) m

theorem writeAt_of_position? (h : (ofEntries e).position? key = some i) (write : Option Token) :
    (ofEntries e).writeAt i write = ofEntries (e.writeTo key write) := by
  cases write with
  | none => rfl
  | some value =>
    have hkey : e.hasKey key = true := by rw [← hasKey_ofEntries, hasKey, h, Option.isSome_some]
    rw [writeAt, setAt_of_position? h, Entries.writeTo, Entries.replace, if_pos hkey]

/-- **A step on two lists is the step on pairs**, with the same answer. -/
theorem run_ofEntries (e : Entries Token) (op : Operation) :
    (ofEntries e).run op = ((op.run e).1, ofEntries (op.run e).2) := by
  cases op with
  | insert key value => rw [run, insert_ofEntries, Operation.run, Entries.exchange_eq]
  | remove key => rw [run, remove_ofEntries, Operation.run, Entries.take_eq]
  | access key write =>
    rw [run, Operation.run]
    cases h : (ofEntries e).position? key with
    | some i =>
      dsimp only
      rw [getElem?_of_position? h, writeAt_of_position? h]
    | none =>
      have hkey : e.hasKey key = false := by rw [← hasKey_ofEntries, hasKey, h, Option.isSome_none]
      have hget : e.get? key = none := by rw [← Option.not_isSome_iff_eq_none, ← Entries.hasKey, hkey]; decide
      cases write with
      | none => rw [Entries.writeTo, hget]
      | some value => rw [Entries.writeTo, hget, Entries.replace, if_neg (Bool.not_eq_true _ ▸ hkey)]
  | slot key write =>
    obtain ⟨i, hslot, hi⟩ := slot_ofEntries e key .null
    rw [run, hslot, Operation.run]
    dsimp only
    rw [getElem?_of_position? hi, writeAt_of_position? hi]

/-- So a run on two lists is a run on pairs. -/
theorem after_ofEntries (e : Entries Token) (ops : List Operation) :
    (ofEntries e).after ops = ofEntries (e.after ops) :=
  List.foldl_hom ofEntries fun e op => congrArg Prod.snd (run_ofEntries e op)

theorem ofPairs_eq_ofEntries (pairs : List (String × Token)) : ofPairs pairs = ofEntries (Entries.ofPairs pairs) := by
  show pairs.foldl (fun m p => (m.insert p.1 p.2).2) (ofEntries []) = _
  exact List.foldl_hom ofEntries fun e p => congrArg Prod.snd (insert_ofEntries e p.1 p.2)

end Runs

/-- **A map answers as the finite map of its history, in the order of its keys' addition.** After a map has been made of
pairs and operated on in any way, its keys are distinct, there is one value for each of them, at the same place, and no
place of a key is out of the values; what is under a key is the last value written to it, unless it was taken away
since; the keys are those that are there, in the order in which they were added since they were last taken away; and the
next operation answers with what was there. -/
theorem mirrors_history (pairs : List (String × Token)) (ops : List Operation) :
    let m := (ofPairs pairs).after ops
    let history := (inserts pairs ++ ops).reverse
    (m.keys.Nodup ∧ m.keys.length = m.values.length ∧ m.keys.map m.get? = m.values.map some ∧
        ∀ key i, m.position? key = some i → i < m.values.length) ∧
      (∀ key, m.get? key = contents history key ∧ m.hasKey key = (contents history key).isSome) ∧
      ((∀ key, key ∈ m.keys ↔ (added history key).isSome = true) ∧ m.keys.Pairwise (AddedBefore history)) ∧
      (∀ key value, (m.insert key value).1 = contents history key ∧ (m.remove key).1 = contents history key) ∧
      ∀ op : Operation, (m.run op).1 = op.answer (contents history op.key) := by
  intro m history
  have hm := Entries.mirrors_after_ofPairs pairs ops
  have he : m = ofEntries ((Entries.ofPairs pairs).after ops) := by
    rw [← after_ofEntries, ← ofPairs_eq_ofEntries]
  clear_value m
  subst he
  have hlength := length_keys_ofEntries ((Entries.ofPairs pairs).after ops)
  refine ⟨⟨hm.lists.distinct, hlength, ?inStep, fun key i hi => hlength ▸ lt_of_position? hi⟩, fun key => ?contents,
    ⟨hm.lists.present, hm.lists.ordered⟩, fun key value => ?answers, fun op => ?answer⟩
  case inStep =>
    rw [funext (get?_ofEntries _)]
    exact Entries.map_get?_keys hm.lists.distinct
  case contents =>
    rw [get?_ofEntries, hasKey_ofEntries, Entries.hasKey, hm.contents]
    exact ⟨rfl, rfl⟩
  case answers =>
    rw [insert_ofEntries, remove_ofEntries]
    exact ⟨hm.contents key, hm.contents key⟩
  case answer => rw [run_ofEntries, Entries.answer_run, hm.contents]

/-- A key that is removed and added again stands behind the others. -/
example : ((ofPairs [("A", .null), ("B", .null)]).after [.remove "A", .slot "A" none]).keys = ["B", "A"] := by decide

end RuleExpr.Columns
