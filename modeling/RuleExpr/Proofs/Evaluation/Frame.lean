import RuleExpr.Interpreter

/-!
# What actions do to their scope

A development (`Development`) is a preorder on the states of a scope in which a change of the binding and the
registration of a template are steps. The built-ins change nothing else, and what is done in an inner scope is dropped
with it; so they follow every development that the evaluator follows (`Builtin.follows_run`), with a lemma for each
built-in that evaluates or changes something.

One development is that the functions stay, where all visible ones are from the catalogue (`OnlyBuiltins`).
-/

namespace RuleExpr

/-- All visible functions are built-ins from the catalogue. -/
def OnlyBuiltins (chain : List Scope) : Prop := ∀ s ∈ chain, ∀ f ∈ s.functions, f ∈ catalogue

namespace OnlyBuiltins

variable {s s' : Scope} {chain : List Scope}

theorem of_functionsNamed (h : OnlyBuiltins chain) {key : String} : ∀ f ∈ functionsNamed chain key, f ∈ catalogue := by
  intro f hf
  obtain ⟨s, hs, hm⟩ := List.mem_flatMap.1 hf
  exact h s hs f (List.mem_filter.1 hm).1

/-- Only the functions matter. -/
theorem of_functions_eq (h : OnlyBuiltins (s :: chain)) (he : s'.functions = s.functions) :
    OnlyBuiltins (s' :: chain) := by
  obtain ⟨hs, hc⟩ := List.forall_mem_cons.1 h
  exact List.forall_mem_cons.2 ⟨he ▸ hs, hc⟩

/-- A new scope has no functions of its own. -/
theorem newScope (h : OnlyBuiltins chain) : OnlyBuiltins ({} :: chain) :=
  List.forall_mem_cons.2 ⟨List.forall_mem_nil _, h⟩

/-- A root interpreter has the catalogue, or no functions. -/
theorem root (config : Config) (binding : Token) (builtins : Bool) :
    OnlyBuiltins (Interpreter.root config binding builtins).chain := by
  refine List.forall_mem_cons.2 ⟨fun f hf => ?_, List.forall_mem_nil _⟩
  cases builtins with
  | true => exact List.mem_reverse.1 hf
  | false => cases hf

end OnlyBuiltins

/-! ## Actions -/

namespace Scope

variable {s : Scope} {path : List String} {value : Token}

/-- Putting a value at a path changes the binding only. -/
theorem setAt_eq (s : Scope) (path : List String) (value : Token) :
    ∃ binding, (s.setAt path value).2 = { s with binding } := ⟨_, rfl⟩

theorem inherit_eq (s : Scope) (parents : List Scope) (key : String) :
    ∃ binding, (s.inherit parents key).2 = { s with binding } := by
  unfold inherit
  split
  · exact s.setAt_eq _ _
  · exact ⟨s.binding, rfl⟩

theorem writePath_eq (s : Scope) (parents : List Scope) (path : List String) (value : Token) :
    ∃ binding, (s.writePath parents path value).2 = { s with binding } := by
  unfold writePath
  split
  · exact ⟨value, rfl⟩
  · next first _ =>
    obtain ⟨b, hb⟩ := s.inherit_eq parents first
    split
    · next he =>
      rw [he] at hb
      exact ⟨b, hb⟩
    · next he =>
      rw [he] at hb
      obtain rfl := hb
      exact setAt_eq _ _ _

theorem functions_writePath {parents : List Scope} :
    (s.writePath parents path value).2.functions = s.functions := by
  obtain ⟨b, hb⟩ := s.writePath_eq parents path value
  rw [hb]

end Scope

/-- A preorder on the states of a scope in which the changes that built-ins make are steps. -/
class Development (R : Context → Scope → Scope → Prop) : Prop where
  refl (c : Context) (s : Scope) : R c s s
  trans {c : Context} {s₁ s₂ s₃ : Scope} : R c s₁ s₂ → R c s₂ s₃ → R c s₁ s₃
  rebind (c : Context) (s : Scope) (binding : Token) : R c s { s with binding }
  setTemplate (c : Context) (s : Scope) (t : Template) : R c s (s.setTemplate t)

namespace Action

section Attempt

variable {α : Type} {x : Action α} {c : Context} {s s' : Scope} {a : α} {e : Error}

theorem attempt_of_ok (h : x c s = (.ok a, s')) : attempt x c s = (.ok (.ok a), s') := by
  rw [attempt, h]

/-- A failure that does not abort is caught. -/
theorem attempt_of_error (h : x c s = (.error e, s')) (he : e.aborts = false) :
    attempt x c s = (.ok (.error e), s') := by
  rw [attempt, h]
  simp only [he, Bool.false_eq_true, if_false]

theorem attempt_of_aborts (h : x c s = (.error e, s')) (he : e.aborts = true) : attempt x c s = (.error e, s') := by
  rw [attempt, h]
  simp only [he, if_true]

end Attempt

/-- A failure that is caught leaves the scope as it is. -/
theorem attempt_snd {α : Type} (x : Action α) (c : Context) (s : Scope) : (attempt x c s).2 = (x c s).2 := by
  unfold attempt
  split <;> next h => rw [h]

/-- The action takes its scope along the relation, whatever the outcome. -/
def Follows (R : Context → Scope → Scope → Prop) {α : Type} (x : Action α) : Prop := ∀ c s, R c s (x c s).2

namespace Follows

variable {α β : Type} {R : Context → Scope → Scope → Prop} {c : Context} {s s' : Scope}

theorem of_run {x : Action α} {r : Except Error α} (hx : Follows R x) (h : x c s = (r, s')) : R c s s' := by
  have := hx c s
  rwa [h] at this

/-- What follows has to take the scope along from where the first action has left it. -/
theorem bind_of {x : Action α} {f : α → Action β} (hx : Follows R x)
    (hf : ∀ c s a s', x c s = (.ok a, s') → R c s (f a c s').2) : Follows R (x >>= f) := by
  intro c s
  show R c s (Action.bind x f c s).2
  unfold Action.bind
  split
  · next a s' he => exact hf c s a s' he
  · next he => exact hx.of_run he

theorem attempt {x : Action α} (hx : Follows R x) : Follows R (Action.attempt x) := fun c s => by
  rw [attempt_snd]
  exact hx c s

theorem within {x : Action α} (signature : Signature) (hx : Follows R x) :
    Follows R (Action.within signature x) := by
  intro c s
  unfold Action.within
  split <;> next he => exact hx.of_run he

variable [Development R]

theorem pure (a : α) : Follows R (Pure.pure a : Action α) := Development.refl

theorem fail (e : Error) : Follows R (Action.fail e : Action α) := Development.refl

theorem ofExcept (r : Except Error α) : Follows R (Action.ofExcept r) := Development.refl

theorem config : Follows R Action.config := Development.refl

theorem chain : Follows R Action.chain := Development.refl

/-- What is done in an inner scope is dropped. -/
theorem inScope (x : Action α) : Follows R (Action.inScope x) := Development.refl

theorem write (path : List String) (value : Token) : Follows R (Action.write path value) := fun c s => by
  obtain ⟨b, hb⟩ := s.writePath_eq c.parents path value
  show R c s (s.writePath c.parents path value).2
  rw [hb]
  exact Development.rebind c s b

theorem set (key : String) (value : Token) : Follows R (Action.set key value) := fun c s => by
  obtain ⟨b, hb⟩ := s.setAt_eq [key] value
  show R c s (s.setAt [key] value).2
  rw [hb]
  exact Development.rebind c s b

theorem bind {x : Action α} {f : α → Action β} (hx : Follows R x) (hf : ∀ a, Follows R (f a)) :
    Follows R (x >>= f) :=
  bind_of hx fun c _ a s' he => Development.trans (hx.of_run he) (hf a c s')

end Follows

end Action

/-! ## Built-ins -/

/-- Evaluation one level further down takes the scope along the relation. -/
def Evaluator.Follows (R : Context → Scope → Scope → Prop) (ev : Evaluator) : Prop := ∀ t, (ev t).Follows R

section

open RuleExpr.Action (Follows)

variable {R : Context → Scope → Scope → Prop} [Development R] {ev : Evaluator}

theorem Evaluator.follows_all (h : ev.Follows R) (ts : List Token) : (ev.all ts).Follows R := by
  induction ts with
  | nil => exact .pure _
  | cons t ts ih => exact .bind (h t) fun _ => .bind ih fun _ => .pure _

namespace Connective

theorem follows_allHold (h : ev.Follows R) (ts : List Token) : Follows R (allHold ev ts) := by
  induction ts with
  | nil => exact .pure _
  | cons t ts ih =>
    refine .bind (h t) fun v => ?_
    split
    · exact ih
    · exact .pure _

theorem follows_anyHolds (h : ev.Follows R) (ts : List Token) : Follows R (anyHolds ev ts) := by
  induction ts with
  | nil => exact .pure _
  | cons t ts ih =>
    refine .bind (h t) fun v => ?_
    split
    · exact .pure _
    · exact ih

theorem follows_run (h : ev.Follows R) (op : Connective) (args : List Token) : Follows R (op.run ev args) := by
  cases op with
  | all => exact .bind (follows_allHold h args) fun _ => .pure _
  | any => exact .bind (follows_anyHolds h args) fun _ => .pure _

end Connective

namespace Iterator

variable {name : String} {body : Token}

theorem follows_mapItems (ts : List Token) : Follows R (mapItems ev name body ts) := by
  induction ts with
  | nil => exact .pure _
  | cons t ts ih => exact .bind (.inScope _) fun _ => .bind ih fun _ => .pure _

theorem follows_anyItem (ts : List Token) : Follows R (anyItem ev name body ts) := by
  induction ts with
  | nil => exact .pure _
  | cons t ts ih =>
    refine .bind (.inScope _) fun v => ?_
    split
    · exact .pure _
    · exact ih

theorem follows_everyItem (ts : List Token) : Follows R (everyItem ev name body ts) := by
  induction ts with
  | nil => exact .pure _
  | cons t ts ih =>
    refine .bind (.inScope _) fun v => ?_
    split
    · exact ih
    · exact .pure _

theorem follows_sumItems (acc : Decimal) (ts : List Token) : Follows R (sumItems ev name body acc ts) := by
  induction ts generalizing acc with
  | nil => exact .pure _
  | cons t ts ih => exact .bind (.inScope _) fun _ => .bind (.ofExcept _) fun _ => ih _

theorem follows_keyItems {function : String} {kind : Kind} (ts : List Token) :
    Follows R (keyItems ev name body function kind ts) := by
  induction ts with
  | nil => exact .pure _
  | cons t ts ih =>
    refine .bind (.inScope _) fun key => ?_
    split
    · exact .bind ih fun _ => .pure _
    · exact .fail _

theorem follows_sortBy {function : String} {kind : Kind} {args : List Token} : Follows R (sortBy ev function kind args) :=
  .bind (.ofExcept _) fun _ => .bind (follows_keyItems _) fun _ => .pure _

/-- What an iterator evaluates, it evaluates in inner scopes. -/
theorem follows_run (op : Iterator) (args : List Token) : Follows R (op.run ev args) := by
  cases op with
  | map => exact .bind (.ofExcept _) fun _ => .bind (follows_mapItems _) fun _ => .pure _
  | anyOf => exact .bind (.ofExcept _) fun _ => .bind (follows_anyItem _) fun _ => .pure _
  | every => exact .bind (.ofExcept _) fun _ => .bind (follows_everyItem _) fun _ => .pure _
  | sum => exact .bind (.ofExcept _) fun _ => .bind (follows_sumItems _ _) fun _ => .pure _
  | sortByNumber => exact follows_sortBy
  | sortByString => exact follows_sortBy

end Iterator

namespace KeyValues

theorem follows_addEntries (h : ev.Follows R) : ∀ (args : List Token) (m : Entries Token), Follows R (addEntries ev m args)
  | [], _ => .pure _
  | arg :: args, m => by
    rw [addEntries.eq_def]
    refine .bind .chain fun chain => .bind (.ofExcept _) fun pair => ?_
    split
    · exact .bind (Evaluator.follows_all h _) fun _ => follows_addEntries h args _
    · refine .bind (h arg) fun key => ?_
      cases args with
      | nil => exact .fail _
      | cons value args => exact .bind (h value) fun _ => follows_addEntries h args _

theorem follows_run (h : ev.Follows R) (args : List Token) : Follows R (run ev args) :=
  .bind (follows_addEntries h args _) fun _ => .pure _

end KeyValues

namespace BindingOperation

theorem follows_valueOr (h : ev.Follows R) (args : List Token) : Follows R (valueOr ev args) := by
  refine .bind (.ofExcept _) fun (default, path) => .bind (.attempt (h path)) fun r => ?_
  cases r with
  | ok v => exact .pure _
  | error e =>
    dsimp only
    split
    · exact .pure _
    · exact .fail _

theorem follows_run (h : ev.Follows R) (op : BindingOperation) (args : List Token) : Follows R (op.run ev args) := by
  cases op with
  | read => exact .bind .chain fun _ => .ofExcept _
  | write => exact .bind (.ofExcept _) fun _ => .bind (.write _ _) fun _ => .pure _
  | readOr => exact follows_valueOr h args

end BindingOperation

namespace Control

theorem follows_evaluateOr (h : ev.Follows R) (args : List Token) : Follows R (evaluateOr ev args) := by
  refine .bind (.ofExcept _) fun (fallback, attempted) => .bind (.attempt (h attempted)) fun r => ?_
  cases r with
  | ok v => exact .pure _
  | error e => exact h fallback

/-- A template is registered among the templates. -/
theorem follows_putTemplate (args : List Token) : Follows R (putTemplate args) :=
  .bind (.ofExcept _) fun _ => .bind (.ofExcept _) fun _ => .bind (.ofExcept _) fun _ =>
    .bind (fun c s => Development.setTemplate c s _) fun _ => .pure _

theorem follows_run (h : ev.Follows R) (op : Control) (args : List Token) : Follows R (op.run ev args) := by
  cases op with
  | noop => exact .pure _
  | toString => exact .bind (.ofExcept _) fun _ => .pure _
  | not => exact .bind (.ofExcept _) fun _ => .pure _
  | identity => exact .ofExcept _
  | panic => exact .fail _
  | recover => exact follows_evaluateOr h args
  | inScope => exact .bind (.ofExcept _) fun _ => .inScope _
  | bind => exact .bind (.ofExcept _) fun _ => .inScope _
  | bindLambda => exact .bind (.ofExcept _) fun _ => .bind (.ofExcept _) fun _ => .inScope _
  | instantiate =>
    exact .bind (.ofExcept _) fun _ => .bind (.ofExcept _) fun _ => .bind .chain fun _ =>
      .bind (.ofExcept _) fun _ => .ofExcept _
  | setTemplate => exact follows_putTemplate args

end Control

/-- **The built-ins follow every development.** -/
theorem Builtin.follows_run (h : ev.Follows R) (op : Builtin) (args : List Token) : Follows R (op.run ev args) := by
  cases op with
  | arithmetic op => exact .bind .config fun _ => .ofExcept _
  | comparison op => exact .ofExcept _
  | connective op => exact Connective.follows_run h op args
  | list op => exact .ofExcept _
  | iterator op => exact Iterator.follows_run op args
  | keyValues => exact KeyValues.follows_run h args
  | text op => exact .ofExcept _
  | time op => exact .ofExcept _
  | binding op => exact BindingOperation.follows_run h op args
  | control op => exact Control.follows_run h op args

end

/-! ## The functions stay -/

/-- The functions are the same, as long as all visible ones are built-ins. -/
def SameFunctions (c : Context) (s s' : Scope) : Prop :=
  OnlyBuiltins (s :: c.parents) → s'.functions = s.functions

instance : Development SameFunctions where
  refl _ _ _ := rfl
  trans h h' hb := (h' (hb.of_functions_eq (h hb))).trans (h hb)
  rebind _ _ _ _ := rfl
  setTemplate _ _ _ _ := rfl

/-- The action leaves the functions of the scope as they are, as long as all visible functions are built-ins. -/
def Action.Keeps {α : Type} (x : Action α) : Prop :=
  ∀ c s, OnlyBuiltins (s :: c.parents) → (x c s).2.functions = s.functions

theorem Action.Keeps.eq_of_run {α : Type} {x : Action α} {c : Context} {s s' : Scope} {r : Except Error α}
    (hx : Action.Keeps x) (hb : OnlyBuiltins (s :: c.parents)) (h : x c s = (r, s')) : s'.functions = s.functions :=
  Action.Follows.of_run (R := SameFunctions) hx h hb

/-- Evaluation one level further down leaves the functions as they are. -/
def Evaluator.Keeps (ev : Evaluator) : Prop := ∀ t, (ev t).Keeps

end RuleExpr
