import RuleExpr.Proofs.Token.Path
import Mathlib.Data.List.Induction
import Mathlib.Data.List.Nodup

/-!
# A map is what its history says

Every operation of a map changes what is under one key (`get?_run`), and at most adds that key at the end or takes it
away (`keys_run`). So a map mirrors the operations that were made on it (`Mirrors`), by induction on them:

- what is under a key is the last value that was written to it, and nothing after it was taken away (`contents`);
- the keys stand in the order in which they were added, where a key that is there already keeps its place (`added`).

A key may be given the value that it has, and of two values that it is given the second counts (`insert_of_get?`,
`insert_insert`). A map made of pairs has their keys in the order in which they first come, each with the last value
that it is paired with (`keys_ofPairs`, `get?_ofPairs`).

**After any operations, a map that was made of pairs mirrors them all** (`mirrors_after_ofPairs`).
-/

namespace RuleExpr.Entries

/-! ## What is under a key -/

section Keys

variable {α : Type} {m : Entries α} {key other : String} {value : α}

theorem hasKey_eq_true_iff : hasKey m key = true ↔ key ∈ keys m := by
  induction m with
  | nil => simp [hasKey, get?, keys]
  | cons e m ih =>
    obtain ⟨k, v⟩ := e
    simp only [hasKey, get?, keys, List.map_cons, List.mem_cons] at ih ⊢
    by_cases hk : k = key
    · simp [hk]
    · rw [if_neg hk, ih]
      exact (or_iff_right fun h => hk h.symm).symm

theorem get?_eq_none_iff : get? m key = none ↔ key ∉ keys m := by
  rw [← hasKey_eq_true_iff, hasKey, Option.not_isSome_iff_eq_none]

/-- An exchange gives the old value and puts the new one in its place. -/
theorem exchange_eq (m : Entries α) (key : String) (value : α) :
    exchange m key value = (get? m key, insert m key value) := by
  induction m with
  | nil => rfl
  | cons e m ih =>
    obtain ⟨k, v⟩ := e
    simp only [exchange, get?, insert, ih]
    split <;> rfl

theorem take_eq (m : Entries α) (key : String) : take m key = (get? m key, erase m key) := by
  induction m with
  | nil => rfl
  | cons e m ih =>
    obtain ⟨k, v⟩ := e
    simp only [take, get?, erase, ih]
    split <;> rfl

/-! ## Keys after an operation -/

theorem keys_insert (m : Entries α) (key : String) (value : α) :
    keys (insert m key value) = if key ∈ keys m then keys m else keys m ++ [key] := by
  induction m with
  | nil => rfl
  | cons e m ih =>
    obtain ⟨k, v⟩ := e
    rw [insert]
    by_cases hk : k = key
    · subst hk
      simp [keys]
    · have hmem : key ∈ keys ((k, v) :: m) ↔ key ∈ keys m := by
        rw [keys, List.map_cons, List.mem_cons]
        exact or_iff_right fun h => hk h.symm
      have hcons (n : Entries α) : keys ((k, v) :: n) = k :: keys n := rfl
      rw [if_neg hk, hcons, ih]
      simp only [hmem]
      split
      · rw [hcons]
      · rw [hcons, List.cons_append]

theorem keys_erase (m : Entries α) (key : String) : keys (erase m key) = (keys m).erase key := by
  induction m with
  | nil => rfl
  | cons e m ih =>
    obtain ⟨k, v⟩ := e
    simp only [erase, keys, List.map_cons, List.erase_cons, beq_iff_eq] at ih ⊢
    split
    · rfl
    · rw [List.map_cons, ih]

theorem keys_replace (m : Entries α) (key : String) (value : α) : keys (replace m key value) = keys m := by
  unfold replace
  split
  · next h => rw [keys_insert, if_pos (hasKey_eq_true_iff.1 h)]
  · rfl

theorem keys_ensure (m : Entries α) (key : String) (value : α) :
    keys (ensure m key value) = if key ∈ keys m then keys m else keys m ++ [key] := by
  simp only [ensure, hasKey_eq_true_iff]
  split
  · rfl
  · next h => rw [keys_insert, if_neg h]

/-! ## Values after an operation -/

/-- Among distinct keys, one that is taken away is gone. -/
theorem get?_erase (h : (keys m).Nodup) : get? (erase m key) other = if key = other then none else get? m other := by
  induction m with
  | nil => simp [erase, get?]
  | cons e m ih =>
    obtain ⟨k, v⟩ := e
    obtain ⟨hk, hm⟩ := List.nodup_cons.1 h
    rw [erase]
    split
    · next he =>
      subst he
      split
      · next ho => exact ho ▸ get?_eq_none_iff.2 hk
      · next ho => rw [get?, if_neg ho]
    · next he =>
      simp only [get?, ih hm]
      split
      · next hko => rw [if_neg fun ho => he (hko.trans ho.symm)]
      · rfl

theorem get?_replace (m : Entries α) (key : String) (value : α) (other : String) :
    get? (replace m key value) other = if key = other then (get? m other).map fun _ => value else get? m other := by
  unfold replace
  split
  · next h =>
    obtain ⟨old, ho⟩ := Option.isSome_iff_exists.1 h
    rw [get?_insert]
    split
    · next he => rw [← he, ho, Option.map_some]
    · rfl
  · next h =>
    split
    · next he => rw [← he, Option.not_isSome_iff_eq_none.1 h, Option.map_none]
    · rfl

theorem get?_ensure (m : Entries α) (key : String) (value : α) (other : String) :
    get? (ensure m key value) other = if key = other then some ((get? m other).getD value) else get? m other := by
  unfold ensure
  split
  · next h =>
    obtain ⟨old, ho⟩ := Option.isSome_iff_exists.1 h
    split
    · next he => rw [← he, ho, Option.getD_some]
    · rfl
  · next h =>
    rw [get?_insert]
    split
    · next he => rw [← he, Option.not_isSome_iff_eq_none.1 h, Option.getD_none]
    · rfl

/-- The values beside the keys are those under them. -/
theorem map_get?_keys (h : (keys m).Nodup) : (keys m).map (get? m) = (values m).map some := by
  induction m with
  | nil => rfl
  | cons e m ih =>
    obtain ⟨k, v⟩ := e
    obtain ⟨hk, hm⟩ := List.nodup_cons.1 h
    have hrest : (keys m).map (get? ((k, v) :: m)) = (keys m).map (get? m) := List.map_congr_left fun l hl => by
        rw [get?, if_neg]
        rintro rfl
        exact hk hl
    show get? ((k, v) :: m) k :: (keys m).map (get? ((k, v) :: m)) = some v :: (values m).map some
    rw [hrest, ih hm, get?, if_pos rfl]

/-! ## One operation after another -/

/-- The value that a key has may be given to it again. -/
theorem insert_of_get? (h : get? m key = some value) : insert m key value = m := by
  induction m with
  | nil => cases h
  | cons e m ih =>
    obtain ⟨k, v⟩ := e
    rw [get?] at h
    rw [insert]
    split at h
    · next hk =>
      cases h
      rw [if_pos hk]
    · next hk => rw [if_neg hk, ih h]

/-- Of two values that a key is given, the second counts. -/
theorem insert_insert (m : Entries α) (key : String) (first second : α) :
    insert (insert m key first) key second = insert m key second := by
  induction m with
  | nil => simp only [insert, if_true]
  | cons e m ih =>
    obtain ⟨k, v⟩ := e
    by_cases hk : k = key
    · simp only [insert, if_pos hk]
    · simp only [insert, if_neg hk, ih]

/-- A key that has got a slot for it is given a value as any other. -/
theorem replace_ensure (m : Entries α) (key : String) (slot value : α) :
    replace (ensure m key slot) key value = insert m key value := by
  have hkey : hasKey (ensure m key slot) key = true := by
    rw [hasKey, get?_ensure, if_pos rfl]
    rfl
  rw [replace, if_pos hkey, ensure]
  split
  · rfl
  · exact insert_insert m key slot value

end Keys

/-! ## Operations -/

/-- An operation on a map; what is got hold of in the map, a value or a slot, may then be written to. -/
inductive Operation where
  | insert (key : String) (value : Token)
  | remove (key : String)
  | access (key : String) (write : Option Token)
  | slot (key : String) (write : Option Token)

/-- Writes to what is under a key, if something is written. -/
def writeTo (m : Entries Token) (key : String) : Option Token → Entries Token
  | none => m
  | some value => m.replace key value

namespace Operation

/-- The key that an operation is about. -/
def key : Operation → String
  | insert key _ | remove key | access key _ | slot key _ => key

/-- What an operation answers, and the map after it. -/
def run : Operation → Entries Token → Option Token × Entries Token
  | insert key value, m => m.exchange key value
  | remove key, m => m.take key
  | access key write, m => (m.get? key, m.writeTo key write)
  | slot key write, m => ((m.ensure key .null).get? key, (m.ensure key .null).writeTo key write)

/-- What an operation answers, by the value that was there. -/
def answer : Operation → Option Token → Option Token
  | slot .., old => some (old.getD .null)
  | _, old => old

/-- What an operation leaves under its key, by the value that was there. -/
def effect : Operation → Option Token → Option Token
  | insert _ value, _ => some value
  | remove _, _ => none
  | access _ write, old => old.map write.getD
  | slot _ write, old => some (write.getD (old.getD .null))

end Operation

/-- The map after operations, in order. -/
def after (m : Entries Token) (ops : List Operation) : Entries Token := ops.foldl (fun m op => (op.run m).2) m

section Run

variable {m : Entries Token}

theorem keys_writeTo (m : Entries Token) (key : String) (write : Option Token) :
    keys (m.writeTo key write) = keys m := by
  cases write with
  | none => rfl
  | some value => exact keys_replace m key value

theorem get?_writeTo (m : Entries Token) (key : String) (write : Option Token) (other : String) :
    get? (m.writeTo key write) other = if key = other then (get? m other).map write.getD else get? m other := by
  cases write with
  | none =>
    have hid : (none : Option Token).getD = id := rfl
    rw [hid, Option.map_id, id, ite_self]
    rfl
  | some value => exact get?_replace m key value other

/-- An operation adds its key at the end, takes it away, or leaves the keys as they are. -/
theorem keys_run (op : Operation) (m : Entries Token) : keys (op.run m).2 =
    match op with
    | .remove key => (keys m).erase key
    | .access .. => keys m
    | .insert key _ | .slot key _ => if key ∈ keys m then keys m else keys m ++ [key] := by
  cases op with
  | insert key value =>
    rw [Operation.run, exchange_eq]
    exact keys_insert m key value
  | remove key =>
    rw [Operation.run, take_eq]
    exact keys_erase m key
  | access key write => exact keys_writeTo m key write
  | slot key write => exact (keys_writeTo _ key write).trans (keys_ensure m key .null)

/-- An operation changes what is under its key, and nothing else. -/
theorem get?_run (h : (keys m).Nodup) (op : Operation) (other : String) : get? (op.run m).2 other =
    if op.key = other then op.effect (get? m other) else get? m other := by
  cases op with
  | insert key value =>
    rw [Operation.run, exchange_eq]
    exact get?_insert m key value other
  | remove key =>
    rw [Operation.run, take_eq]
    exact get?_erase h
  | access key write => exact get?_writeTo m key write other
  | slot key write =>
    rw [Operation.run, get?_writeTo, get?_ensure]
    show _ = if key = other then _ else _
    split <;> rfl

theorem answer_run (op : Operation) (m : Entries Token) : (op.run m).1 = op.answer (get? m op.key) := by
  cases op with
  | insert key value => rw [Operation.run, exchange_eq]; rfl
  | remove key => rw [Operation.run, take_eq]; rfl
  | access key write => rfl
  | slot key write =>
    rw [Operation.run, get?_ensure, if_pos rfl]
    rfl

end Run

/-! ## Histories -/

/-- What is under a key after operations, the newest first. -/
def contents : List Operation → String → Option Token
  | [], _ => none
  | op :: earlier, key => if op.key = key then op.effect (contents earlier key) else contents earlier key

/-- The number of the operation that added a key, counted from the oldest, if the key was not taken away since. -/
def added : List Operation → String → Option Nat
  | [], _ => none
  | op :: earlier, key =>
    if op.key = key then
      match op with
      | .remove _ => none
      | .access .. => added earlier key
      | .insert .. | .slot .. => some ((added earlier key).getD earlier.length)
    else added earlier key

/-- Both keys are there, and the first was added earlier. -/
def AddedBefore (history : List Operation) (k l : String) : Prop :=
  ∃ i j, added history k = some i ∧ added history l = some j ∧ i < j

/-- The keys are those that were added and not taken away since, in that order. -/
structure Lists (history : List Operation) (ks : List String) : Prop where
  distinct : ks.Nodup
  present : ∀ key, key ∈ ks ↔ (added history key).isSome = true
  earlier : ∀ key i, added history key = some i → i < history.length
  ordered : ks.Pairwise (AddedBefore history)

namespace Lists

variable {history : List Operation} {ks : List String} {op : Operation}

theorem empty : Lists [] [] where
  distinct := List.nodup_nil
  present _ := by simp [added]
  earlier _ _ h := by cases h
  ordered := .nil

/-- Where an operation has added no key and has taken none away, the list stays. -/
theorem same (h : Lists history ks) (ha : ∀ key, added (op :: history) key = added history key) :
    Lists (op :: history) ks where
  distinct := h.distinct
  present key := by rw [ha, h.present]
  earlier key i hi := Nat.lt_succ_of_lt (h.earlier key i (ha key ▸ hi))
  ordered := h.ordered.imp fun ⟨i, j, hk, hl, hij⟩ => ⟨i, j, (ha _).trans hk, (ha _).trans hl, hij⟩

/-- A key that is taken away leaves the list. -/
theorem shrink {key : String} (h : Lists history ks) : Lists (.remove key :: history) (ks.erase key) := by
  have hadded (k : String) : added (.remove key :: history) k = if key = k then none else added history k := rfl
  have hmem (k : String) : k ∈ ks.erase key ↔ k ≠ key ∧ k ∈ ks := h.distinct.mem_erase_iff
  refine ⟨h.distinct.erase key, fun k => ?present, fun k i hi => ?earlier, ?ordered⟩
  case present =>
    rw [hmem, hadded, h.present]
    split
    · next hk => simp [hk]
    · next hk => exact and_iff_right fun he => hk he.symm
  case earlier =>
    rw [hadded] at hi
    split at hi
    · cases hi
    · exact Nat.lt_succ_of_lt (h.earlier k i hi)
  case ordered =>
    have hkept {k : String} (hk : k ∈ ks.erase key) : added (.remove key :: history) k = added history k := by
      rw [hadded, if_neg fun he => ((hmem k).1 hk).1 he.symm]
    refine (h.ordered.sublist List.erase_sublist).imp_of_mem fun hk hl ⟨i, j, hi, hj, hij⟩ => ?_
    exact ⟨i, j, (hkept hk).trans hi, (hkept hl).trans hj, hij⟩

/-- A key that is added stands where it stood, or at the end if it was not there. -/
theorem grow {key : String} (h : Lists history ks) (ha : ∀ k, added (op :: history) k =
      if key = k then some ((added history k).getD history.length) else added history k) :
    Lists (op :: history) (if key ∈ ks then ks else ks ++ [key]) := by
  by_cases hkey : key ∈ ks
  · rw [if_pos hkey]
    obtain ⟨i, hi⟩ := Option.isSome_iff_exists.1 ((h.present key).1 hkey)
    refine h.same fun k => ?_
    rw [ha]
    split
    · next hk => rw [← hk, hi, Option.getD_some]
    · rfl
  · rw [if_neg hkey]
    have hnone : added history key = none := by
      rw [h.present, Bool.not_eq_true, Option.isSome_eq_false_iff, Option.isNone_iff_eq_none] at hkey
      exact hkey
    have hnew : added (op :: history) key = some history.length := by
      rw [ha, if_pos rfl, hnone, Option.getD_none]
    have hold {k : String} (hk : key ≠ k) : added (op :: history) k = added history k := by rw [ha, if_neg hk]
    have hne {k : String} (hk : k ∈ ks) : key ≠ k := fun he => hkey (he ▸ hk)
    refine ⟨?distinct, fun k => ?present, fun k i hi => ?earlier, ?ordered⟩
    case distinct => exact List.nodup_append.2 ⟨h.distinct, List.nodup_singleton key, fun k hk l hl => by
      rw [List.mem_singleton.1 hl]
      exact fun he => hne hk he.symm⟩
    case present =>
      rw [List.mem_append, List.mem_singleton]
      by_cases hk : key = k
      · rw [← hk, hnew]
        simp
      · rw [hold hk, h.present]
        exact or_iff_left fun he => hk he.symm
    case earlier =>
      by_cases hk : key = k
      · rw [← hk, hnew] at hi
        cases hi
        exact Nat.lt_succ_self _
      · exact Nat.lt_succ_of_lt (h.earlier k i (hold hk ▸ hi))
    case ordered =>
      refine List.pairwise_append.2 ⟨?_, List.pairwise_singleton _ _, fun k hk l hl => ?_⟩
      · refine h.ordered.imp_of_mem fun hk hl ⟨i, j, hi, hj, hij⟩ => ?_
        exact ⟨i, j, (hold (hne hk)).trans hi, (hold (hne hl)).trans hj, hij⟩
      · rw [List.mem_singleton.1 hl]
        obtain ⟨i, hi⟩ := Option.isSome_iff_exists.1 ((h.present k).1 hk)
        exact ⟨i, history.length, (hold (hne hk)).trans hi, hnew, h.earlier k i hi⟩

end Lists

/-- The map is the one that the operations, the newest first, say. -/
structure Mirrors (history : List Operation) (m : Entries Token) : Prop where
  lists : Lists history (keys m)
  contents : ∀ key, get? m key = contents history key

namespace Mirrors

variable {history : List Operation} {m : Entries Token}

/-- **One operation.** What it changes in the map is what it adds to the history. -/
theorem run (h : Mirrors history m) (op : Operation) : Mirrors (op :: history) (op.run m).2 where
  lists := by
    rw [keys_run]
    cases op with
    | insert key value => exact h.lists.grow fun k => rfl
    | remove key => exact h.lists.shrink
    | access key write => exact h.lists.same fun k => ite_self _
    | slot key write => exact h.lists.grow fun k => rfl
  contents key := by rw [get?_run h.lists.distinct, h.contents, Entries.contents]

/-- A run, by induction on the operations. -/
theorem after (h : Mirrors history m) (ops : List Operation) : Mirrors (ops.reverse ++ history) (m.after ops) := by
  induction ops generalizing history m with
  | nil => exact h
  | cons op ops ih =>
    rw [List.reverse_cons, List.append_assoc]
    exact ih (h.run op)

end Mirrors

/-! ## Maps made of pairs -/

/-- The operations that insert pairs one after the other. -/
def inserts (pairs : List (String × Token)) : List Operation := pairs.map fun p => .insert p.1 p.2

theorem ofPairs_eq_after (pairs : List (String × Token)) : ofPairs pairs = after [] (inserts pairs) := by
  rw [ofPairs, after, inserts, List.foldl_map]
  simp only [Operation.run, exchange_eq]

section Pairs

variable {α : Type} (pairs : List (String × α)) (key : String) (value : α)

theorem ofPairs_concat : ofPairs (pairs ++ [(key, value)]) = insert (ofPairs pairs) key value := by
  rw [ofPairs, List.foldl_append]
  rfl

/-- The keys stand in the order in which they first come among the pairs. -/
theorem keys_ofPairs : keys (ofPairs pairs) = (pairs.map Prod.fst).eraseDups := by
  induction pairs using List.reverseRecOn with
  | nil => rfl
  | append_singleton pairs p ih =>
    obtain ⟨key, value⟩ := p
    have hlast : ([key].removeAll (pairs.map Prod.fst)).eraseDups =
        if key ∈ pairs.map Prod.fst then [] else [key] := by
      rw [List.removeAll, List.filter_singleton]
      by_cases hkey : key ∈ pairs.map Prod.fst <;> simp [hkey, List.eraseDups_cons]
    rw [ofPairs_concat, keys_insert, ih, List.map_append, List.map_singleton, List.eraseDups_append, hlast]
    simp only [List.mem_eraseDups]
    split
    · rw [List.append_nil]
    · rfl

/-- Of the values that a key is paired with, the last is under it. -/
theorem get?_ofPairs : get? (ofPairs pairs) key = pairs.reverse.lookup key := by
  induction pairs using List.reverseRecOn with
  | nil => rfl
  | append_singleton pairs p ih =>
    obtain ⟨last, value⟩ := p
    rw [ofPairs_concat, get?_insert, ih, List.reverse_append, List.reverse_singleton, List.singleton_append,
      List.lookup_cons]
    by_cases hkey : last = key
    · rw [if_pos hkey, beq_iff_eq.2 hkey.symm]
    · rw [if_neg hkey, beq_eq_false_iff_ne.2 (Ne.symm hkey)]

end Pairs

/-- **A map mirrors the pairs that it was made of and the operations since.** -/
theorem mirrors_after_ofPairs (pairs : List (String × Token)) (ops : List Operation) :
    Mirrors (inserts pairs ++ ops).reverse ((ofPairs pairs).after ops) := by
  have h := (Mirrors.mk Lists.empty fun _ => rfl : Mirrors [] []).after (inserts pairs ++ ops)
  rw [List.append_nil, after, List.foldl_append] at h
  rwa [← after, ← after, ← ofPairs_eq_after] at h

end RuleExpr.Entries
