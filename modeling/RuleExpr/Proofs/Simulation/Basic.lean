import RuleExpr.Proofs.Evaluation.Call
import RuleExpr.Proofs.Token.Update

/-!
# Two runs side by side

A simulation relates the states of two runs of the evaluator on the same token, where

- the blocks of what is evaluated are known by name and argument count (`call`), and the blocks in values satisfy a
  condition (`held`): a program is a `Token.Tree`, a value is `Token.Data`;
- the left run may break off with certain errors (`escape`), after which nothing is said about the right one.

The laws of the structure are about the scope only: what is looked up in it, and what is written into it. They speak of
the names under which a lookup or a change can be reached, so a law about a name that no block has is void. What the two
runs give is related by `Relates`, with a lemma for each way in which actions are put together.
-/

namespace RuleExpr

open RuleExpr.Text

theorem mem_of_select {α : Type} {signature : α → Signature} {accepts : Signature → Except Error Bool} {name : String}
    {count : Nat} {known found : Bool} {candidates : List α} {a : α}
    (h : select signature accepts name count known found candidates = .ok (some a)) : a ∈ candidates := by
  rw [select_eq] at h
  split at h
  · cases h
  · obtain ⟨-, before, after, he, -⟩ := findM?_eq_some_iff.1 h
    exact (List.mem_filter.1 (he ▸ List.mem_append_right before List.mem_cons_self)).1

theorem Action.set_empty (name : String) (value : Token) (c : Context) :
    Action.set name value c {} = (.ok (), { binding := .map [(name, value)] }) := by
  show Scope.setAt {} [name] value = _
  rw [Scope.setAt, Token.assign_eq]
  rfl

/-- A body is evaluated in a scope that has the value under the name and nothing else. -/
theorem Evaluator.withValue_eq (ev : Evaluator) (name : String) (value body : Token) :
    ev.withValue name value body = fun c s =>
      ((ev body { c with parents := s :: c.parents } { binding := .map [(name, value)] }).1, s) := by
  funext c s
  rw [Evaluator.withValue, Action.inScope, Action.bind_of_ok (Action.set_empty name value _)]

/-- A relation of two runs that the changes of scopes keep. -/
structure Simulation (ι : Type) where
  /-- The blocks that are evaluated: a name in lower case with a number of arguments. -/
  call : String → Nat → Prop
  /-- The blocks in values. -/
  held : String → List Token → Prop
  /-- The errors with which the left run breaks off. -/
  escape : Error → Prop
  /-- The related states; an index says what a run has to keep of the state in which it began. -/
  state : ι → Context → Scope → Context → Scope → Prop
  held_empty : held "" []
  held_stuck {i c s c' s' head children} (h : state i c s c' s') (ht : Token.Tree call held (.block head children))
    (hh : head.isEmpty = false) (hc : children ≠ []) (hr : resolve (s :: c.parents) head children = .ok none) :
    held head children
  escape_call {signature e} (h : escape e) : escape (.call signature e)
  escape_bound {e} (h : escape e) : BindingOperation.isUnbound e = false
  escape_catch {e count} (h : escape e) : ¬ call "catch" count
  precision {i c s c' s'} (h : state i c s c' s') : c'.config.divisionPrecision = c.config.divisionPrecision
  dryRun {i c s c' s'} (h : state i c s c' s') : c'.config.dryRun = c.config.dryRun
  limit {i c s c' s'} (h : state i c s c' s') :
    escape (.recursionLimit c.config.maxDepth) ∨ c'.config.maxDepth = c.config.maxDepth
  functions {i c s c' s' key count} (h : state i c s c' s') (hc : call key count) :
    functionsNamed (s' :: c'.parents) key = functionsNamed (s :: c.parents) key
  builtins {i c s c' s' key count} (h : state i c s c' s') (hc : call key count) :
    ∀ f ∈ functionsNamed (s :: c.parents) key, f ∈ catalogue
  templates {i c s c' s'} (h : state i c s c' s') (key : String) :
    templatesNamed (s' :: c'.parents) key = templatesNamed (s :: c.parents) key
  bodies {i c s c' s' key} (h : state i c s c' s') :
    ∀ t ∈ templatesNamed (s :: c.parents) key, Token.Tree call held t.body
  read {i c s c' s' path} (h : state i c s c' s') (hc : call "." path.length) :
    readPath (s' :: c'.parents) path = readPath (s :: c.parents) path ∧
      Yields (Token.Data held) (readPath (s :: c.parents) path)
  write {i c s c' s' count path value} (h : state i c s c' s') (hc : call "set" count) (hp : path ≠ [])
    (hv : Token.Data held value) :
    (s'.writePath c'.parents path value).1 = (s.writePath c.parents path value).1 ∧
      state i c (s.writePath c.parents path value).2 c' (s'.writePath c'.parents path value).2
  put {i c s c' s' count template} (h : state i c s c' s') (hc : call "settemplate" count)
    (hb : Token.Tree call held template.body) : state i c (s.setTemplate template) c' (s'.setTemplate template)
  /-- A new scope holds the values that are bound for a body, and hides nothing else. -/
  enter {i c s c' s' entries} (h : state i c s c' s') (hv : ∀ e ∈ entries, Token.Data held e.2) :
    ∃ j, state j { c with parents := s :: c.parents } { binding := .map entries }
      { c' with parents := s' :: c'.parents } { binding := .map entries }

namespace Simulation

/-- The errors with which a run breaks off that never does. -/
def NoEscape (_ : Error) : Prop := False

theorem NoEscape.call {signature : String} {e : Error} (h : NoEscape e) : NoEscape (.call signature e) := h.elim

theorem NoEscape.isUnbound {e : Error} (h : NoEscape e) : BindingOperation.isUnbound e = false := h.elim

variable {ι : Type} (S : Simulation ι)

/-- A value. -/
abbrev Data : Token → Prop := Token.Data S.held

/-- A program. -/
abbrev Tree : Token → Prop := Token.Tree S.call S.held

/-- Where trees are asked for there is a tree, elsewhere a value. -/
def Passes : Bool → Token → Prop
  | true => S.Tree
  | false => S.Data

/-- The chains of scopes of two related states. -/
inductive Sees : List Scope → List Scope → Prop
  | of_state {i : ι} {c c' : Context} {s s' : Scope} (h : S.state i c s c' s') : Sees (s :: c.parents) (s' :: c'.parents)

/-! ## What is chosen -/

namespace Sees

variable {S} {chain chain' : List Scope} {head : String} {children args : List Token} {count : Nat}

theorem alike (h : S.Sees chain chain') : Alike S.call chain chain' := fun key count hc => by
  cases h with
  | of_state h => exact S.functions h hc

theorem mem_catalogue (h : S.Sees chain chain') (hc : S.call (foldCase head) count) {f : Function}
    (hf : f ∈ admitted chain head count) : f ∈ catalogue := by
  cases h with
  | of_state h => exact S.builtins h hc f (mem_admitted hf).1

theorem held_stuck (h : S.Sees chain chain') (ht : S.Tree (.block head children)) (hh : head.isEmpty = false)
    (hc : children ≠ []) (hr : RuleExpr.resolve chain head children = .ok none) : S.held head children := by
  cases h with
  | of_state h => exact S.held_stuck h ht hh hc hr

theorem resolveTemplate (h : S.Sees chain chain') (name : String) (ha : ∀ a ∈ args, S.Tree a) :
    resolveTemplate chain' name args = resolveTemplate chain name args ∧
      Yields (fun template : Template => S.Tree template.body) (resolveTemplate chain name args) := by
  cases h with
  | @of_state i c c' s s' h =>
    have hchildren := (Sees.of_state h).alike.acceptsChildren ha
    refine ⟨by simp only [RuleExpr.resolveTemplate, S.templates h, hchildren], fun template ht => ?_⟩
    unfold RuleExpr.resolveTemplate at ht
    split at ht
    · cases ht
    · next he =>
      cases ht
      exact S.bodies h _ (mem_of_select he)
    · cases ht

end Sees

/-! ## What is given -/

variable {α β : Type}

/-- The outcomes of two runs agree: both gave the same value, both failed alike, or the left one broke off. -/
inductive Agrees (P : α → Prop) (i : ι) (c c' : Context) : Except Error α × Scope → Except Error α × Scope → Prop
  | ok {a : α} {s s' : Scope} (ha : P a) (h : S.state i c s c' s') : Agrees P i c c' (.ok a, s) (.ok a, s')
  | error {e : Error} {s s' : Scope} (h : S.state i c s c' s') : Agrees P i c c' (.error e, s) (.error e, s')
  | escaped {e : Error} {s : Scope} {r : Except Error α × Scope} (h : S.escape e) : Agrees P i c c' (.error e, s) r

/-- A left run that does not break off had the same result. -/
theorem Agrees.of_not_escape {S : Simulation ι} {P : α → Prop} {i : ι} {c c' : Context}
    {r r' : Except Error α × Scope} (h : S.Agrees P i c c' r r') (hr : ∀ e, r.1 = .error e → ¬ S.escape e) :
    r'.1 = r.1 ∧ S.state i c r.2 c' r'.2 := by
  cases h with
  | ok _ h => exact ⟨rfl, h⟩
  | error h => exact ⟨rfl, h⟩
  | escaped he => exact absurd he (hr _ rfl)

/-- Two actions agree in all related states, on values that satisfy `P`. -/
def Relates (P : α → Prop) (x x' : Action α) : Prop :=
  ∀ i c s c' s', S.state i c s c' s' → S.Agrees P i c c' (x c s) (x' c' s')

/-- Two evaluators give the same values of programs. -/
def Evaluates (ev ev' : Evaluator) : Prop := ∀ t, S.Tree t → S.Relates S.Data (ev t) (ev' t)

namespace Relates

variable {S} {P : β → Prop} {Q : α → Prop} {x x' : Action α}

theorem pure {b : β} (h : P b) : S.Relates P (Pure.pure b) (Pure.pure b) := fun _ _ _ _ _ hs => .ok h hs

theorem fail (e : Error) : S.Relates P (Action.fail e) (Action.fail e) := fun _ _ _ _ _ hs => .error hs

theorem ofExcept {r : Except Error β} (h : Yields P r) : S.Relates P (Action.ofExcept r) (Action.ofExcept r) := by
  intro i c s c' s' hs
  cases r with
  | ok b => exact .ok (h b rfl) hs
  | error e => exact .error hs

theorem mono {P' : β → Prop} {y y' : Action β} (hy : S.Relates P y y') (h : ∀ b, P b → P' b) : S.Relates P' y y' := by
  intro i c s c' s' hs
  have hr := hy i c s c' s' hs
  revert hr
  generalize y c s = r, y' c' s' = r'
  rintro (⟨hb, hs⟩ | hs | he)
  · exact .ok (h _ hb) hs
  · exact .error hs
  · exact .escaped he

/-- What follows is compared for the values only that the first action can give. -/
theorem bind {f f' : α → Action β} (hx : S.Relates Q x x') (hf : ∀ a, Q a → S.Relates P (f a) (f' a)) :
    S.Relates P (x >>= f) (x' >>= f') := by
  intro i c s c' s' hs
  have hr := hx i c s c' s' hs
  show S.Agrees P i c c' (Action.bind x f c s) (Action.bind x' f' c' s')
  unfold Action.bind
  revert hr
  generalize x c s = r, x' c' s' = r'
  rintro (⟨ha, hs⟩ | hs | he)
  · exact hf _ ha _ _ _ _ _ hs
  · exact .error hs
  · exact .escaped he

/-- A failure may be handled, if the handler passes on what the left run breaks off with. -/
theorem attempt {f f' : Except Error α → Action β} (hx : S.Relates Q x x')
    (hok : ∀ a, Q a → S.Relates P (f (.ok a)) (f' (.ok a))) (herror : ∀ e, S.Relates P (f (.error e)) (f' (.error e)))
    (hescape : ∀ e, S.escape e → f (.error e) = Action.fail e) :
    S.Relates P (Action.attempt x >>= f) (Action.attempt x' >>= f') := by
  intro i c s c' s' hs
  have hr := hx i c s c' s' hs
  show S.Agrees P i c c' (Action.bind (Action.attempt x) f c s) (Action.bind (Action.attempt x') f' c' s')
  unfold Action.bind Action.attempt
  revert hr
  generalize x c s = r, x' c' s' = r'
  rintro (⟨ha, hs⟩ | @⟨e, s, s', hs⟩ | @⟨e, s, r, he⟩)
  · exact hok _ ha _ _ _ _ _ hs
  · cases ha : e.aborts with
    | true => simpa only [ha, if_true] using .error hs
    | false => simpa only [ha, Bool.false_eq_true, if_false] using herror e _ _ _ _ _ hs
  · cases ha : e.aborts with
    | true => simpa only [ha, if_true] using .escaped he
    | false => simpa only [ha, Bool.false_eq_true, if_false, hescape e he] using .escaped he

theorem tree {quoted : Bool} {y y' : Action Token} (hq : quoted = true) (hy : S.Relates S.Tree y y') :
    S.Relates (S.Passes quoted) y y' := hq ▸ hy

theorem data {quoted : Bool} {y y' : Action Token} (hq : (!quoted) = true) (hy : S.Relates S.Data y y') :
    S.Relates (S.Passes quoted) y y' := Bool.not_eq_eq_eq_not.1 hq ▸ hy

theorem within (signature : Signature) (hx : S.Relates Q x x') :
    S.Relates Q (Action.within signature x) (Action.within signature x') := by
  intro i c s c' s' hs
  have hr := hx i c s c' s' hs
  unfold Action.within
  revert hr
  generalize x c s = r, x' c' s' = r'
  rintro (⟨ha, hs⟩ | hs | he)
  · exact .ok ha hs
  · exact .error hs
  · exact .escaped (S.escape_call he)

theorem chain {f f' : List Scope → Action β} (h : ∀ {l l'}, S.Sees l l' → S.Relates P (f l) (f' l')) :
    S.Relates P (Action.chain >>= f) (Action.chain >>= f') := fun _ _ _ _ _ hs => h (.of_state hs) _ _ _ _ _ hs

/-- What is done in a scope with related bindings is dropped with it. -/
theorem inner (entries : Entries Token) (hv : ∀ e ∈ entries, S.Data e.2) (hx : S.Relates Q x x') :
    S.Relates Q (fun c s => ((x { c with parents := s :: c.parents } { binding := .map entries }).1, s))
      fun c s => ((x' { c with parents := s :: c.parents } { binding := .map entries }).1, s) := by
  intro i c s c' s' hs
  obtain ⟨j, hj⟩ := S.enter hs hv
  have hr := hx _ _ _ _ _ hj
  revert hr
  dsimp only
  generalize x _ _ = r, x' _ _ = r'
  rintro (⟨ha, -⟩ | - | he)
  · exact .ok ha hs
  · exact .error hs
  · exact .escaped he

theorem inScope (hx : S.Relates Q x x') : S.Relates Q (Action.inScope x) (Action.inScope x') :=
  inner [] (List.forall_mem_nil _) hx

theorem withValue {ev ev' : Evaluator} (hev : S.Evaluates ev ev') (name : String) {value body : Token}
    (hv : S.Data value) (hb : S.Tree body) :
    S.Relates S.Data (ev.withValue name value body) (ev'.withValue name value body) := by
  rw [Evaluator.withValue_eq, Evaluator.withValue_eq]
  exact inner [(name, value)] (List.forall_mem_singleton.2 hv) (hev body hb)

end Relates

end Simulation

end RuleExpr
