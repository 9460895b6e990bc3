import RuleExpr.Proofs.Evaluation.Catalogue
import RuleExpr.Proofs.OrderedMap

/-!
# Two ways of writing a map

The entries of a map are written as pair blocks `(Key value)`, or as keys and values one after the other (`PairForm`).
Whether a block is a pair or a call that computes a key depends on the functions that are visible when it is read. With
built-ins only, these stay the same while values are evaluated; so a text that names none of them in the beginning
(`IsKey`) is a key to the end.

- One pair, in either form, evaluates its value and adds an entry (`addEntries_pair`); so a list of pairs evaluates its
  values and adds their entries, in order (`addEntries_pairs`, `run_pairs`), by induction on the pairs;
- a call takes its arguments as they are (`evaluate_call`), and nothing in it is validated (`validate_call`); what it
  gives for pairs does not depend on their form (`Interpreter.run_pairs`).

**Both ways give the same map or the same failure, and leave the same behind** (`Interpreter.pair_forms_agree`).
-/

namespace RuleExpr

/-! ## Keys -/

/-- A text that stands for itself as the head of a pair block: it is not empty, and names no visible function. -/
structure IsKey (chain : List Scope) (key : String) : Prop where
  nonempty : key ≠ ""
  unnamed : ∀ signature ∈ visibleFunctions chain, Text.sameFolded signature.name key = false

namespace IsKey

variable {chain : List Scope} {s s' : Scope} {key : String}

theorem isEmpty (h : IsKey chain key) : key.isEmpty = false := String.isEmpty_eq_false_iff.2 h.nonempty

/-- Only the functions matter. -/
theorem of_functions_eq (h : IsKey (s :: chain) key) (hs : s'.functions = s.functions) : IsKey (s' :: chain) key where
  nonempty := h.nonempty
  unnamed := by
    have hvisible : visibleFunctions (s' :: chain) = visibleFunctions (s :: chain) := by
      rw [visibleFunctions, visibleFunctions, List.flatMap_cons, List.flatMap_cons, hs]
    rw [hvisible]
    exact h.unnamed

theorem functionsNamed_eq_nil (h : IsKey chain key) : functionsNamed chain (Text.foldCase key) = [] := by
  rw [List.eq_nil_iff_forall_not_mem]
  intro f hf
  obtain ⟨s, hs, hm⟩ := List.mem_flatMap.1 hf
  obtain ⟨hm, hkey⟩ := List.mem_filter.1 hm
  have hsame := h.unnamed f.signature (List.mem_flatMap.2 ⟨s, hs, List.mem_map_of_mem hm⟩)
  exact absurd hkey (ne_true_of_eq_false hsame)

end IsKey

namespace KeyValues

/-! ## Entries -/

/-- How a pair of a key and a value is written: as a block, or as two arguments. -/
inductive PairForm where
  | block
  | flat

/-- The arguments that a pair is written as. -/
def PairForm.args : PairForm → String × Token → List Token
  | block, (key, value) => [.block key [value]]
  | flat, (key, value) => [.string key, value]

section Entries

variable {c : Context} {s : Scope} {depth : Nat} {key : String} {pairs : List (String × Token)}

theorem pair?_block {chain : List Scope} (h : IsKey chain key) (value : Token) :
    pair? chain (.block key [value]) = .ok (some (key, [value])) := by
  simp [pair?, resolve_of_unnamed h.functionsNamed_eq_nil, h.isEmpty]

/-- **One pair.** In either form, its value is evaluated and is then under its key. -/
theorem addEntries_pair (p : PairForm) (h : IsKey (s :: c.parents) key) (value : Token) (m : Entries Token)
    (rest : List Token) : addEntries (evaluate depth) m (p.args (key, value) ++ rest) c s = (do
      let v ← evaluate depth value
      addEntries (evaluate depth) (m.insert key v) rest : Action (Entries Token)) c s := by
  cases p with
  | block =>
    rw [PairForm.args, List.singleton_append, addEntries.eq_def]
    refine (Action.bind_of_ok (x := Action.chain) rfl _).trans ?_
    rw [pair?_block h]
    refine (Action.bind_of_ok (x := Action.ofExcept _) rfl _).trans ?_
    simp only [Evaluator.all, bind_assoc, pure_bind, pairValue]
  | flat =>
    have hkey : evaluate depth (.string key) c s = (.ok (.string key), s) := by
      rw [evaluate_of_not_block rfl]
      rfl
    rw [PairForm.args, List.cons_append, List.singleton_append, addEntries.eq_def]
    refine (Action.bind_of_ok (x := Action.chain) rfl _).trans ?_
    refine (Action.bind_of_ok (x := Action.ofExcept _) rfl _).trans ?_
    exact Action.bind_of_ok hkey _

/-- The map with entries added, in order. -/
def withEntries (m : Entries Token) (entries : List (String × Token)) : Entries Token :=
  entries.foldl (fun m e => m.insert e.1 e.2) m

/-- **A list of pairs.** The values are evaluated in order, and the entries are added in order. -/
theorem addEntries_pairs (p : PairForm) (hb : OnlyBuiltins (s :: c.parents))
    (hkeys : ∀ e ∈ pairs, IsKey (s :: c.parents) e.1) (m : Entries Token) :
    addEntries (evaluate depth) m (pairs.flatMap p.args) c s = (do
      let vs ← (evaluate depth).all (pairs.map Prod.snd)
      pure (withEntries m ((pairs.map Prod.fst).zip vs)) : Action (Entries Token)) c s := by
  induction pairs generalizing m s with
  | nil => rfl
  | cons pair pairs ih =>
    obtain ⟨key, value⟩ := pair
    obtain ⟨hkey, hkeys⟩ := List.forall_mem_cons.1 hkeys
    rw [List.flatMap_cons, addEntries_pair p hkey]
    simp only [List.map_cons, Evaluator.all, bind_assoc, pure_bind]
    refine Action.bind_congr fun v s' hv => ?_
    -- the value may have written bindings and templates, but no functions: what was a key still is one
    have hs : s'.functions = s.functions := (keeps_evaluate depth value).eq_of_run hb hv
    exact ih (hb.of_functions_eq hs) (fun e he => (hkeys e he).of_functions_eq hs) (m.insert key v)

/-- The map that a list of pairs gives. -/
theorem run_pairs (p : PairForm) (hb : OnlyBuiltins (s :: c.parents))
    (hkeys : ∀ e ∈ pairs, IsKey (s :: c.parents) e.1) : run (evaluate depth) (pairs.flatMap p.args) c s = (do
      let vs ← (evaluate depth).all (pairs.map Prod.snd)
      pure (.map (Entries.ofPairs ((pairs.map Prod.fst).zip vs))) : Action Token) c s := by
  refine (Action.bind_congr_left (addEntries_pairs p hb hkeys []) _).trans ?_
  simp only [bind_assoc, pure_bind]
  rfl

end Entries

/-! ## Calls -/

section Call

/-- The declaration of the map constructor. -/
def signature : Signature where
  name := "kv"
  parameters := [Kind.any]
  variadic := true
  returns := Kind.map

theorem declares_signature : (RuleExpr.catalogue.filter fun f => f.signature.key == "kv").map
    (Function.declares · signature .keyValues) = [true] := by
  decide +kernel

theorem render_catalogue : (RuleExpr.catalogue.filter fun f => f.signature.key == "kv").map
    (fun f => f.signature.render) = ["kv(Any...)Map"] := by
  decide +kernel

theorem parameterKind_signature (i : Nat) : signature.parameterKind i = Kind.any := by
  rcases i with _ | i <;> rfl

variable {c : Context} {s : Scope} {chain : List Scope} {head : String}

/-- The map constructor is the only function with its name, for any number of arguments. -/
theorem sole_signature (hhead : Text.foldCase head = "kv") (count : Nat) :
    Function.Sole head count signature .keyValues := by
  refine Function.sole_of_key ?_ (decide_eq_true (Nat.le_add_left 1 count))
  rw [hhead]
  exact declares_signature

theorem isEmpty_of_foldCase (hhead : Text.foldCase head = "kv") : head.isEmpty = false := by
  rw [String.isEmpty_eq_false_iff]
  rintro rfl
  exact absurd hhead (by decide +kernel)

/-- A call makes a map of its arguments as they are; its failure is told as one of the call. -/
theorem evaluate_call (h : Offers (s :: c.parents) head) (hhead : Text.foldCase head = "kv") (depth : Nat)
    (args : List Token) : evaluate (depth + 1) (.block head args) c s =
      ((run (evaluate depth) args c s).1.mapError (.call "kv(Any...)Map"), (run (evaluate depth) args c s).2) := by
  have hcall : ∃ f ∈ RuleExpr.catalogue, f.signature.key = Text.foldCase head ∧
      evaluate (depth + 1) (.block head args) c s = Action.within f.signature (run (evaluate depth) args) c s :=
    evaluateBlock_of_any h (isEmpty_of_foldCase hhead) (sole_signature hhead args.length) parameterKind_signature rfl
  obtain ⟨f, hf, hkey, hcall⟩ := hcall
  have hrender := (Function.eq_of_filter render_catalogue).2 f hf
  rw [hcall, Action.within_eq, hrender (beq_iff_eq.2 (hkey.trans hhead))]

/-- Nothing in a call is validated. -/
theorem validate_call (h : Offers chain head) (hhead : Text.foldCase head = "kv") (args : List Token) :
    validate chain (.block head args) = .ok () :=
  validate_of_any h (isEmpty_of_foldCase hhead) (sole_signature hhead args.length) parameterKind_signature

end Call

end KeyValues

namespace Interpreter

variable {i : Interpreter} {head : String} {pairs : List (String × Token)} {depth : Nat}

/-- In a dry run, a call is given back. -/
theorem evaluate_call_of_dryRun (h : HasCatalogue i.chain) (hhead : Text.foldCase head = "kv")
    (hd : i.config.dryRun = true) (args : List Token) :
    i.evaluate (.block head args) = (.ok (.block head args), i) := by
  rw [evaluate_of_dryRun hd, validate, KeyValues.validate_call (h.offers head) hhead]
  rfl

/-- What a call with pairs gives, in either form, and what it leaves. -/
theorem run_pairs (h : HasCatalogue i.chain) (hhead : Text.foldCase head = "kv")
    (hkeys : ∀ e ∈ pairs, IsKey i.chain e.1) (p : KeyValues.PairForm) (depth : Nat) :
    i.run (RuleExpr.evaluate (depth + 1) (.block head (pairs.flatMap p.args))) =
      match i.run ((RuleExpr.evaluate depth).all (pairs.map Prod.snd)) with
      | (.ok vs, j) => (.ok (.map (Entries.ofPairs ((pairs.map Prod.fst).zip vs))), j)
      | (.error e, j) => (.error (.call "kv(Any...)Map" e), j) := by
  rw [run, run, KeyValues.evaluate_call (c := ⟨i.config, i.parents⟩) (h.offers head) hhead,
    KeyValues.run_pairs (c := ⟨i.config, i.parents⟩) p h.builtins hkeys]
  cases hall : (RuleExpr.evaluate depth).all (pairs.map Prod.snd) ⟨i.config, i.parents⟩ i.scope with
  | mk r s' =>
    cases r with
    | ok vs =>
      rw [Action.bind_of_ok hall]
      rfl
    | error e =>
      rw [Action.bind_of_error hall]
      rfl

/-- Every key has got a value, so all keys are in the map, as they first come. -/
theorem keys_of_values {vs : List Token} {j : Interpreter}
    (hvs : i.run ((RuleExpr.evaluate depth).all (pairs.map Prod.snd)) = (.ok vs, j)) :
    (Entries.ofPairs ((pairs.map Prod.fst).zip vs)).keys = (pairs.map Prod.fst).eraseDups := by
  have hfst : (i.run _).1 = .ok vs := congrArg Prod.fst hvs
  have hlength : (pairs.map Prod.fst).length ≤ vs.length := by
    rw [Evaluator.length_of_all (Prod.fst_eq_iff.1 hfst), List.length_map, List.length_map]
  rw [Entries.keys_ofPairs, List.map_fst_zip hlength]

/-- **Both ways of writing a map agree.** With any number of levels left, pair blocks come to the same map or the same
failure as keys with their values after them, and the interpreter is the same afterwards; in a dry run, either call is
given back. The values are evaluated in order: the map has the keys in the order in which they first come, each with the
last of its values, and the first failure is the failure of the call. -/
theorem pair_forms_agree (h : HasCatalogue i.chain) (hhead : Text.foldCase head = "kv")
    (hkeys : ∀ e ∈ pairs, IsKey i.chain e.1) :
    let blocks : Token := .block head (pairs.map fun (key, value) => .block key [value])
    let flat : Token := .block head (pairs.flatMap fun (key, value) => [.string key, value])
    (∀ depth, i.run (RuleExpr.evaluate depth blocks) = i.run (RuleExpr.evaluate depth flat)) ∧
      (if i.config.dryRun then i.evaluate blocks = (.ok blocks, i) ∧ i.evaluate flat = (.ok flat, i)
        else i.evaluate blocks = i.evaluate flat) ∧
      ∀ depth,
        let values := i.run ((RuleExpr.evaluate depth).all (pairs.map Prod.snd))
        let result := i.run (RuleExpr.evaluate (depth + 1) flat)
        (∀ vs j, values = (.ok vs, j) → ∃ m : Entries Token, result = (.ok (.map m), j) ∧
          m.keys = (pairs.map Prod.fst).eraseDups ∧
          ∀ key, m.get? key = ((pairs.map Prod.fst).zip vs).reverse.lookup key) ∧
        ∀ e j, values = (.error e, j) → result = (.error (.call "kv(Any...)Map" e), j) := by
  intro blocks flat
  have hblocks : blocks = .block head (pairs.flatMap KeyValues.PairForm.block.args) :=
    congrArg (Token.block head) List.map_eq_flatMap
  have hflat : flat = .block head (pairs.flatMap KeyValues.PairForm.flat.args) := rfl
  have hagree (depth : Nat) : i.run (RuleExpr.evaluate depth blocks) = i.run (RuleExpr.evaluate depth flat) := by
    cases depth with
    | zero => rfl
    | succ depth => rw [hblocks, hflat, run_pairs h hhead hkeys, run_pairs h hhead hkeys]
  refine ⟨hagree, ?dry, fun depth => ?outcome⟩
  case dry =>
    split
    · next hd => exact ⟨evaluate_call_of_dryRun h hhead hd _, evaluate_call_of_dryRun h hhead hd _⟩
    · next hd =>
      have hd : i.config.dryRun = false := Bool.not_eq_true _ ▸ hd
      rw [evaluate_of_not_dryRun hd, evaluate_of_not_dryRun hd, hagree]
  case outcome =>
    intro values result
    have hresult : result = _ := run_pairs h hhead hkeys .flat depth
    constructor
    · intro vs j (hvs : i.run _ = _)
      rw [hvs] at hresult
      exact ⟨_, hresult, keys_of_values hvs, fun key => Entries.get?_ofPairs _ key⟩
    · intro e j (he : i.run _ = _)
      rw [he] at hresult
      exact hresult

/-- `a` comes twice, before and after `n` has a value, and `(Name 3)` looks like a pair; and a name that is not bound is
a failure. -/
theorem pair_forms_agree_repeated :
    let blocks (pairs : List (String × Token)) : Token :=
      .block "Kv" (pairs.map fun (key, value) => .block key [value])
    let flat (pairs : List (String × Token)) : Token :=
      .block "Kv" (pairs.flatMap fun (key, value) => [.string key, value])
    let read : Token := .block "." [.string "n"]
    let repeated : List (String × Token) := [("a", .decimal 1), ("true", .block "set" [.string "n", .decimal 2]),
      ("a", read), ("c", .block "Name" [.decimal 3])]
    let failing : List (String × Token) := [("a", .decimal 1), ("c", read)]
    HasCatalogue (root {}).chain ∧ Text.foldCase "Kv" = "kv" ∧
      (∀ e ∈ repeated ++ failing, IsKey (root {}).chain e.1) ∧
      (root {}).evaluate (blocks repeated) = (root {}).evaluate (flat repeated) ∧
      (∃ m : Entries Token, ((root {}).run (RuleExpr.evaluate 3 (flat repeated))).1 = .ok (.map m) ∧
        m.keys = ["a", "true", "c"] ∧ m.get? "a" = some (.decimal 2) ∧
        m.get? "c" = some (.block "Name" [.decimal 3])) ∧
      ∃ e, ((root {}).run (RuleExpr.evaluate 3 (flat failing))).1 = .error (.call "kv(Any...)Map" e) ∧
        e.kind = .unboundName := by
  intro blocks flat read repeated failing
  have hc : HasCatalogue (root {}).chain := HasCatalogue.root {} (.map [])
  have hhead : Text.foldCase "Kv" = "kv" := by decide +kernel
  have htexts : ∀ key ∈ (repeated ++ failing).map Prod.fst, key ≠ "" ∧
      ∀ signature ∈ visibleFunctions (root {}).chain, Text.sameFolded signature.name key = false := by
    decide +kernel
  have hkeys : ∀ e ∈ repeated ++ failing, IsKey (root {}).chain e.1 := fun e he =>
    ⟨(htexts e.1 (List.mem_map_of_mem he)).1, (htexts e.1 (List.mem_map_of_mem he)).2⟩
  obtain ⟨hrepeated, hfailing⟩ := List.forall_mem_append.1 hkeys
  obtain ⟨-, hevaluate, houtcome⟩ := pair_forms_agree hc hhead hrepeated
  have hvalues : ((root {}).run ((RuleExpr.evaluate 2).all (repeated.map Prod.snd))).1 =
      .ok [.decimal 1, .decimal 2, .decimal 2, .block "Name" [.decimal 3]] := by cbv
  have herror : ((root {}).run ((RuleExpr.evaluate 2).all (failing.map Prod.snd))).1 =
      .error (.call ".(Atom...)Value" (.unboundName "n")) := by cbv
  obtain ⟨m, hm, hlisted, hget⟩ := (houtcome 2).1 _ _ (Prod.fst_eq_iff.1 hvalues)
  have hfailed := ((pair_forms_agree hc hhead hfailing).2.2 2).2 _ _ (Prod.fst_eq_iff.1 herror)
  exact ⟨hc, hhead, hkeys, hevaluate, ⟨m, congrArg Prod.fst hm, hlisted.trans (by decide), (hget "a").trans rfl,
    (hget "c").trans rfl⟩, _, congrArg Prod.fst hfailed, rfl⟩

end Interpreter

end RuleExpr
