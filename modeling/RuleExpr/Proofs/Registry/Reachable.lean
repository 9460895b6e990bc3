import Mathlib.Logic.Relation
import RuleExpr.Proofs.Registry.Distinct

/-!
# The registries of a host

A host comes from a root interpreter to others step by step (`Interpreter.Step`): it opens and leaves scopes, binds
values, evaluates tokens and source texts, and changes registries. No step makes a duplicate (`Step.distinct`), and
there is none in the catalogue, so no interpreter that a host can come to has any (`Reachable.distinct`).

Then the first entry that a change finds is the only one, and each change does what it says or, if it fails, nothing
(`Reachable.registries`). This is said once for both registries of a scope, by a table (`Registry.Table`) of what they
have in common.
-/

namespace RuleExpr

namespace Interpreter

/-! ## Reachable interpreters -/

/-- What a host can do with an interpreter; a function of the host evaluates with the levels that are left to its
call. -/
inductive Step (i : Interpreter) : Interpreter → Prop
  | newScope : Step i i.newScope
  | leave {outer : Scope} {parents : List Scope} (h : i.parents = outer :: parents) : Step i ⟨i.config, outer, parents⟩
  | rebind (binding : Token) : Step i { i with scope := { i.scope with binding } }
  | evaluate (t : Token) : Step i (i.evaluate t).2
  | evaluateSource (source : String) : Step i (i.evaluateSource source).2
  | evaluateWithin (levels : Nat) (t : Token) : Step i (i.run (RuleExpr.evaluate levels t)).2
  | register (f : Function) : Step i (i.register f).2
  | registerFunction (text : String) (body : Body) : Step i (i.registerFunction text body).2
  | updateFunction (text : String) (body : Body) : Step i (i.updateFunction text body).2
  | removeFunction (text : String) : Step i (i.removeFunction text).2
  | registerTemplate (text : String) (body : Token) : Step i (i.registerTemplate text body).2
  | updateTemplate (text : String) (body : Token) : Step i (i.updateTemplate text body).2
  | removeTemplate (text : String) : Step i (i.removeTemplate text).2

/-- Some number of steps leads to the interpreter from a root. -/
def Reachable (i : Interpreter) : Prop :=
  ∃ config binding builtins, Relation.ReflTransGen Step (root config binding builtins) i

/-- No scope of the interpreter has two entries of one signature. -/
def Distinct (i : Interpreter) : Prop := ∀ s ∈ i.chain, s.Distinct

namespace Distinct

variable {α : Type} {i : Interpreter}

/-- Only the innermost scope is changed by an action. -/
theorem run (h : i.Distinct) {x : Action α} (hx : x.Follows KeepsDistinct) : (i.run x).2.Distinct := by
  obtain ⟨hs, hp⟩ := List.forall_mem_cons.1 h
  exact List.forall_mem_cons.2 ⟨hx ⟨i.config, i.parents⟩ i.scope hs, hp⟩

theorem change (h : i.Distinct) {f : Scope → Except Error Unit × Scope}
    (hf : ∀ s : Scope, s.Distinct → (f s).2.Distinct) : (i.change f).2.Distinct := h.run fun _ => hf

theorem changeBy (h : i.Distinct) {text : String} {f : Signature → Scope → Except Error Unit × Scope}
    (hf : ∀ signature (s : Scope), s.Distinct → (f signature s).2.Distinct) : (i.changeBy text f).2.Distinct := by
  unfold Interpreter.changeBy
  split
  · exact h
  · exact h.change (hf _)

theorem evaluate (h : i.Distinct) (t : Token) : (i.evaluate t).2.Distinct :=
  h.run (Evaluator.follows_request (distinct_evaluate _) t)

theorem evaluateSource (h : i.Distinct) (source : String) : (i.evaluateSource source).2.Distinct := by
  unfold Interpreter.evaluateSource
  split
  · exact h
  · exact h.evaluate _

end Distinct

/-- A step makes no duplicates. -/
theorem Step.distinct {i j : Interpreter} (hs : Step i j) (h : i.Distinct) : j.Distinct := by
  cases hs with
  | newScope => exact List.forall_mem_cons.2 ⟨.empty, h⟩
  | leave he => exact fun s hm => (List.forall_mem_cons.1 h).2 s (he ▸ hm)
  | rebind binding =>
    exact h.change (f := fun s => (.ok (), { s with binding })) fun _ hd => ⟨hd.functions, hd.templates⟩
  | evaluate t => exact h.evaluate t
  | evaluateSource source => exact h.evaluateSource source
  | evaluateWithin levels t => exact h.run (distinct_evaluate levels t)
  | register f => exact h.change fun _ hd => hd.registerFunction f
  | registerFunction text body => exact h.changeBy fun _ _ hd => hd.registerFunction _
  | updateFunction text body => exact h.changeBy fun _ _ hd => hd.updateFunction _
  | removeFunction text => exact h.changeBy fun signature _ hd => hd.removeFunction signature
  | registerTemplate text body => exact h.changeBy fun _ _ hd => hd.registerTemplate _
  | updateTemplate text body => exact h.changeBy fun _ _ hd => hd.updateTemplate _
  | removeTemplate text => exact h.changeBy fun signature _ hd => hd.removeTemplate signature

theorem nodup_catalogue : (catalogue.map fun f => f.signature.identity).Nodup := by
  decide +kernel

theorem distinct_root (config : Config) (binding : Token) (builtins : Bool) :
    (root config binding builtins).Distinct := by
  refine List.forall_mem_cons.2 ⟨⟨Registry.distinct_iff.2 ?_, List.Pairwise.nil⟩, List.forall_mem_nil _⟩
  -- the catalogue is installed as it is, without a look for what is there
  cases builtins with
  | true =>
    show (catalogue.reverse.map _).Nodup
    rw [List.map_reverse, List.nodup_reverse]
    exact nodup_catalogue
  | false => exact List.nodup_nil

theorem Reachable.distinct {i : Interpreter} (h : i.Reachable) : i.Distinct := by
  obtain ⟨config, binding, builtins, hr⟩ := h
  induction hr with
  | refl => exact distinct_root config binding builtins
  | tail _ hs ih => exact hs.distinct ih

end Interpreter

/-! ## What changes do -/

namespace Registry

/-- What the registries of functions and of templates have in common: entries with their signatures, a list of them in
every scope. -/
structure Table (α : Type) where
  signature : α → Signature
  entries : Scope → List α
  put : List α → Scope → Scope
  entries_put : ∀ l s, entries (put l s) = l

def functions : Table Function :=
  ⟨Function.signature, Scope.functions, fun functions s => { s with functions }, fun _ _ => rfl⟩

def templates : Table Template :=
  ⟨Template.signature, Scope.templates, fun templates s => { s with templates }, fun _ _ => rfl⟩

namespace Table

variable {α β : Type} (table : Table α)

/-- The entries with a name, in the order in which they are tried. -/
def named (chain : List Scope) (key : String) : List α :=
  chain.flatMap fun s => (table.entries s).filter fun e => (table.signature e).key == key

theorem named_functions : functions.named = functionsNamed := rfl

theorem named_templates : templates.named = templatesNamed := rfl

variable (i : Interpreter)

/-- The interpreter with other entries in its innermost scope. -/
def withEntries (entries : List α) : Interpreter := { i with scope := table.put entries i.scope }

/-- The change succeeds exactly under the condition, and then the entries are as told; if it fails nothing has
changed. -/
structure Changes (condition : Prop) (result : List α → Prop) (outcome : Except Error Unit × Interpreter) : Prop where
  succeeds : outcome.1 = .ok () ↔ condition
  changed : outcome.1 = .ok () → ∃ entries, result entries ∧ outcome.2 = table.withEntries i entries
  unchanged : ∀ e, outcome.1 = .error e → outcome.2 = i

/-- Exactly where the scope has no entry of the signature, the new entry comes first, also among those of its name. -/
structure Registers (entry : α) (outcome : Except Error Unit × Interpreter) : Prop extends
    table.Changes i (∀ e ∈ table.entries i.scope, (table.signature e).same (table.signature entry) = false)
      (· = entry :: table.entries i.scope) outcome where
  first : outcome.1 = .ok () → table.named outcome.2.chain (table.signature entry).key =
    entry :: table.named i.chain (table.signature entry).key

/-- Exactly where the scope has an entry of the signature, the new one takes the place of that one. -/
def Updates (entry : α) : Except Error Unit × Interpreter → Prop :=
  table.Changes i (∃ e ∈ table.entries i.scope, (table.signature e).same (table.signature entry) = true)
    fun entries => ∃ before e after,
      Place table.signature (table.signature entry) (table.entries i.scope) before e after ∧
        entries = before ++ entry :: after

/-- Exactly where the scope has an entry of the signature, that one is gone. -/
def Removes (signature : Signature) : Except Error Unit × Interpreter → Prop :=
  table.Changes i (∃ e ∈ table.entries i.scope, (table.signature e).same signature = true)
    fun entries => ∃ before e after,
      Place table.signature signature (table.entries i.scope) before e after ∧ entries = before ++ after

/-- The calls of a host for the table, where `make` makes an entry, do what they say for the signature that they are
given as a text; a text that is none is refused. -/
structure Serves (make : Signature → β → α) (register update : String → β → Except Error Unit × Interpreter)
    (remove : String → Except Error Unit × Interpreter) : Prop where
  registers {text signature} (h : Signature.parse text = .ok signature) (body : β) :
    table.Registers i (make signature body) (register text body)
  updates {text signature} (h : Signature.parse text = .ok signature) (body : β) :
    table.Updates i (make signature body) (update text body)
  removes {text signature} (h : Signature.parse text = .ok signature) : table.Removes i signature (remove text)
  refuses {text e} (h : Signature.parse text = .error e) (body : β) :
    register text body = (.error e, i) ∧ update text body = (.error e, i) ∧ remove text = (.error e, i)

/-- The entries put in place, or the conflict. -/
def answer (conflict : Conflict) : Option (List α) → Except Error Unit × Interpreter
  | some entries => (.ok (), table.withEntries i entries)
  | none => (.error (.registryConflict conflict), i)

variable {table i} {conflict : Conflict} {entry : α} {signature : Signature}

theorem Changes.of_not {condition : Prop} {result : List α → Prop} {outcome : Except Error Unit × Interpreter}
    (h : table.Changes i condition result outcome) (hc : ¬condition) : outcome.2 = i := by
  match ho : outcome.1 with
  | .ok () => exact absurd (h.succeeds.1 ho) hc
  | .error e => exact h.unchanged e ho

theorem changes_answer {condition : Prop} {result : List α → Prop} {o : Option (List α)}
    (hs : o.isSome = true ↔ condition) (hr : ∀ entries, o = some entries → result entries) :
    table.Changes i condition result (table.answer i conflict o) := by
  rw [← hs]
  cases o with
  | none => exact ⟨⟨nofun, nofun⟩, nofun, fun _ _ => rfl⟩
  | some entries => exact ⟨⟨fun _ => rfl, fun _ => rfl⟩, fun _ => ⟨entries, hr entries rfl, rfl⟩, nofun⟩

theorem registers_answer :
    table.Registers i entry (table.answer i conflict (register? table.signature entry (table.entries i.scope))) := by
  unfold register?
  split
  · next h =>
    exact ⟨changes_answer (by simp only [← has_eq_false_iff, h, Option.isSome_none, reduceCtorEq]) nofun, nofun⟩
  · next h =>
    have h := has_eq_false_iff.1 (Bool.not_eq_true _ ▸ h)
    refine ⟨changes_answer ⟨fun _ => h, fun _ => rfl⟩ fun _ he => (Option.some.inj he).symm, fun _ => ?_⟩
    simp only [named, answer, withEntries, Interpreter.chain, List.flatMap_cons, table.entries_put, List.filter_cons,
      beq_self_eq_true, if_true, List.cons_append]

/-- A change at the place of a signature. -/
theorem changes_at_place (edit : List α → α → List α → List α) {entries : List α}
    (hd : Distinct table.signature (table.entries i.scope))
    (he : ∀ before e after, Place table.signature signature (table.entries i.scope) before e after →
      entries = edit before e after) :
    table.Changes i (∃ e ∈ table.entries i.scope, (table.signature e).same signature = true)
      (fun l => ∃ before e after,
        Place table.signature signature (table.entries i.scope) before e after ∧ l = edit before e after)
      (table.answer i conflict
        (if has table.signature signature (table.entries i.scope) then some entries else none)) := by
  split
  · next h =>
    refine changes_answer ⟨fun _ => has_iff.1 h, fun _ => rfl⟩ fun l hl => ?_
    obtain ⟨before, e, after, hp⟩ := exists_place hd h
    cases hl
    exact ⟨before, e, after, hp, he before e after hp⟩
  · next h => exact changes_answer ⟨nofun, fun he => absurd (has_iff.2 he) h⟩ nofun

theorem updates_answer (hd : Distinct table.signature (table.entries i.scope)) :
    table.Updates i entry (table.answer i conflict (update? table.signature entry (table.entries i.scope))) :=
  changes_at_place (fun before _ after => before ++ entry :: after) hd fun _ _ _ hp => hp.replace

theorem removes_answer (hd : Distinct table.signature (table.entries i.scope)) : table.Removes i signature
    (table.answer i conflict (remove? table.signature signature (table.entries i.scope))) :=
  changes_at_place (fun before _ after => before ++ after) hd fun _ _ _ hp => hp.eraseP

end Table

end Registry

/-- The action leaves the scope as it was where it fails. -/
def Action.Atomic {α : Type} (x : Action α) : Prop := ∀ c s e, (x c s).1 = .error e → (x c s).2 = s

theorem Action.Atomic.ofExcept_bind {α β : Type} {r : Except Error α} {f : α → Action β} (hf : ∀ a, (f a).Atomic) :
    (Action.ofExcept r >>= f).Atomic := by
  cases r with
  | error => exact fun _ _ _ _ => rfl
  | ok a => exact hf a

namespace Interpreter

open Registry

variable {i : Interpreter} {text : String}

theorem changeBy_of_ok {signature : Signature} (h : Signature.parse text = .ok signature)
    (f : Signature → Scope → Except Error Unit × Scope) : i.changeBy text f = i.change (f signature) := by
  rw [changeBy, h]

theorem changeBy_of_error {e : Error} (h : Signature.parse text = .error e)
    (f : Signature → Scope → Except Error Unit × Scope) : i.changeBy text f = (.error e, i) := by
  rw [changeBy, h]

theorem change_functions (conflict : Conflict) (o : Scope → Option (List Function)) :
    (i.change fun s => s.changeFunctions conflict (o s)) = functions.answer i conflict (o i.scope) := by
  simp only [change, run, Action.change]
  cases o i.scope <;> rfl

theorem change_templates (conflict : Conflict) (o : Scope → Option (List Template)) :
    (i.change fun s => s.changeTemplates conflict (o s)) = templates.answer i conflict (o i.scope) := by
  simp only [change, run, Action.change]
  cases o i.scope <;> rfl

theorem registers_function (f : Function) : functions.Registers i f (i.register f) := by
  unfold register Scope.registerFunction
  rw [change_functions]
  exact Table.registers_answer

theorem serves_functions (h : i.scope.Distinct) :
    functions.Serves i Function.mk i.registerFunction i.updateFunction i.removeFunction where
  registers hp body := by
    rw [registerFunction, changeBy_of_ok hp]
    exact registers_function _
  updates hp body := by
    unfold updateFunction Scope.updateFunction
    rw [changeBy_of_ok hp, change_functions]
    exact Table.updates_answer h.functions
  removes hp := by
    unfold removeFunction Scope.removeFunction
    rw [changeBy_of_ok hp, change_functions]
    exact Table.removes_answer h.functions
  refuses hp body := ⟨changeBy_of_error hp _, changeBy_of_error hp _, changeBy_of_error hp _⟩

theorem serves_templates (h : i.scope.Distinct) :
    templates.Serves i Template.mk i.registerTemplate i.updateTemplate i.removeTemplate where
  registers hp body := by
    unfold registerTemplate Scope.registerTemplate
    rw [changeBy_of_ok hp, change_templates]
    exact Table.registers_answer
  updates hp body := by
    unfold updateTemplate Scope.updateTemplate
    rw [changeBy_of_ok hp, change_templates]
    exact Table.updates_answer h.templates
  removes hp := by
    unfold removeTemplate Scope.removeTemplate
    rw [changeBy_of_ok hp, change_templates]
    exact Table.removes_answer h.templates
  refuses hp body := ⟨changeBy_of_error hp _, changeBy_of_error hp _, changeBy_of_error hp _⟩

/-! ## `setTemplate` -/

/-- The template is in the innermost scope: in the place of the one of its signature, or first where there is none. -/
def SetsTemplate (i : Interpreter) (t : Template) (j : Interpreter) : Prop :=
  (∀ u ∈ i.scope.templates, u.signature.same t.signature = false) ∧
      j = templates.withEntries i (t :: i.scope.templates) ∨
    ∃ before u after, Place Template.signature t.signature i.scope.templates before u after ∧
      j = templates.withEntries i (before ++ t :: after)

theorem setsTemplate (h : i.scope.Distinct) (t : Template) :
    SetsTemplate i t { i with scope := i.scope.setTemplate t } := by
  unfold Scope.setTemplate upsert
  split
  · next ht =>
    obtain ⟨before, u, after, hp⟩ := exists_place h.templates ht
    refine .inr ⟨before, u, after, hp, ?_⟩
    rw [hp.replace]
    rfl
  · next ht => exact .inl ⟨has_eq_false_iff.1 (Bool.not_eq_true _ ▸ ht), rfl⟩

/-- The built-in sets a template that is given by the text of its signature. -/
theorem run_setTemplate {signature : Signature} (hp : Signature.parse text = .ok signature) (ev : Evaluator)
    (body : Token) : i.run ((Builtin.control .setTemplate).run ev [.string text, body]) =
      (.ok .null, { i with scope := i.scope.setTemplate ⟨signature, body⟩ }) := by
  simp only [run, Builtin.run, Control.run, Control.putTemplate]
  rw [Action.bind_of_ok (a := (.string text, body)) rfl, Action.bind_of_ok (a := text) rfl, hp]
  rfl

/-- Where the built-in fails, it has not come to a change. -/
theorem run_setTemplate_of_error {args : List Token} {ev : Evaluator} {e : Error}
    (h : (i.run ((Builtin.control .setTemplate).run ev args)).1 = .error e) :
    (i.run ((Builtin.control .setTemplate).run ev args)).2 = i := by
  have ha : Action.Atomic (Control.putTemplate args) :=
    .ofExcept_bind fun _ => .ofExcept_bind fun _ => .ofExcept_bind fun _ => nofun
  have hs := ha ⟨i.config, i.parents⟩ i.scope e h
  show { i with scope := (Control.putTemplate args ⟨i.config, i.parents⟩ i.scope).2 } = i
  rw [hs]

/-- **Registries never hold duplicates and fail cleanly**, whatever a host has done. -/
theorem Reachable.registries (h : i.Reachable) :
    (∀ s ∈ i.chain, Registry.Distinct Function.signature s.functions ∧
      Registry.Distinct Template.signature s.templates) ∧
    (∀ f, functions.Registers i f (i.register f)) ∧
    functions.Serves i Function.mk i.registerFunction i.updateFunction i.removeFunction ∧
    templates.Serves i Template.mk i.registerTemplate i.updateTemplate i.removeTemplate ∧
    ∀ ev : Evaluator,
      (∀ text signature body, Signature.parse text = .ok signature →
        ∃ j, i.run ((Builtin.control .setTemplate).run ev [.string text, body]) = (.ok .null, j) ∧
          SetsTemplate i ⟨signature, body⟩ j) ∧
      ∀ args e, (i.run ((Builtin.control .setTemplate).run ev args)).1 = .error e →
        (i.run ((Builtin.control .setTemplate).run ev args)).2 = i := by
  have hd : i.scope.Distinct := h.distinct _ List.mem_cons_self
  refine ⟨fun s hs => ⟨(h.distinct s hs).functions, (h.distinct s hs).templates⟩, registers_function,
    serves_functions hd, serves_templates hd, fun ev => ⟨fun text signature body hp => ?_, fun args e => ?_⟩⟩
  · exact ⟨_, run_setTemplate hp ev body, setsTemplate hd ⟨signature, body⟩⟩
  · exact run_setTemplate_of_error

/-- In a scope with one function, another spelling of its signature is refused and finds it when it is to be removed;
the same parameters with another result are of another function. -/
theorem Reachable.registries_scale :
    let body : Body := .host fun _ => .done (.ok .null)
    let i := (root.newScope.registerFunction "scale(Decimal)Decimal" body).2
    i.Reachable ∧ (i.registerFunction "SCALE( Decimal )Decimal" body).2 = i ∧
      (i.removeFunction "SCALE( Decimal )Decimal").1 = .ok () ∧
      (i.registerFunction "scale(Decimal)String" body).1 = .ok () := by
  intro body i
  have hi : i.Reachable := ⟨{}, .map [], true, .tail (.single .newScope) (.registerFunction _ _)⟩
  obtain ⟨-, -, hf, -⟩ := hi.registries
  have hsame : Signature.parse "SCALE( Decimal )Decimal" =
      .ok ⟨"SCALE", [Kind.decimal], false, Kind.decimal, "", ""⟩ := by rfl
  have hother : Signature.parse "scale(Decimal)String" =
      .ok ⟨"scale", [Kind.decimal], false, Kind.string, "", ""⟩ := by rfl
  exact ⟨hi, (hf.registers hsame body).of_not (by decide +kernel), (hf.removes hsame).succeeds.2 (by decide +kernel),
    (hf.registers hother body).succeeds.2 (by decide +kernel)⟩

end Interpreter

end RuleExpr
