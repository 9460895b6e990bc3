import RuleExpr.Interpreter

/-!
# Computations request by request

An action that evaluates tokens is a sequence of requests to the evaluator, each of which may depend on the answers so
far. A resumption is what is left of such a sequence; with answers for its requests it can be run (`Resumption.run`).
`Stepwise x` gives the requests of an action `x` that depends on the evaluator, and says that run with any evaluator
they give what the action gives, and that an answer that aborts is the end of them (`Resumption.Unwinds`). There is a
lemma for each way in which actions are put together, and so for every built-in function and every host program.
-/

namespace RuleExpr

/-- What an action gives: a value or a failure, and the innermost scope afterwards. -/
abbrev Outcome (α : Type) := Except Error α × Scope

/-- The outcome is a failure that aborts. -/
def Aborts {α : Type} (o : Outcome α) : Prop := ∃ e, o.1 = .error e ∧ e.aborts = true

/-- The rest of a computation. It is done, or goes on with the outcome of a token that is to be evaluated in a scope, or
with the body of a function that is called. -/
inductive Resumption (β : Type) where
  | done (result : β)
  | evaluate (t : Token) (parents : List Scope) (s : Scope) (next : Outcome Token → Resumption β)
  | invoke (call : Call) (next : Resumption β)

namespace Resumption

variable {α β : Type}

/-- The result, where an evaluator answers the requests. -/
def run (config : Config) (ev : Evaluator) : Resumption β → β
  | done result => result
  | evaluate t parents s next => (next (ev t ⟨config, parents⟩ s)).run config ev
  | invoke _ next => next.run config ev

/-- The functions called with their arguments, where an evaluator answers the requests. -/
def calls (config : Config) (ev : Evaluator) : Resumption β → List Call
  | done _ => []
  | evaluate t parents s next => (next (ev t ⟨config, parents⟩ s)).calls config ev
  | invoke call next => call :: next.calls config ev

/-- One computation after the other. -/
def bind (f : α → Resumption β) : Resumption α → Resumption β
  | done result => f result
  | evaluate t parents s next => .evaluate t parents s fun answer => (next answer).bind f
  | invoke call next => .invoke call (next.bind f)

variable {config : Config} {ev : Evaluator} {f : α → Resumption β}

theorem run_bind (r : Resumption α) : (r.bind f).run config ev = (f (r.run config ev)).run config ev := by
  induction r with
  | done => rfl
  | evaluate _ _ _ _ ih => exact ih _
  | invoke _ _ ih => exact ih

theorem calls_bind (r : Resumption α) :
    (r.bind f).calls config ev = r.calls config ev ++ (f (r.run config ev)).calls config ev := by
  induction r with
  | done => rfl
  | evaluate _ _ _ _ ih => exact ih _
  | invoke call _ ih => exact congrArg (call :: ·) ih

/-- An outcome that aborts is passed on at once. -/
def PassesOn (next : Outcome α → Resumption (Outcome β)) : Prop :=
  ∀ o, Aborts o → ∃ o', next o = .done o' ∧ Aborts o'

/-- An answer that aborts is the end, whichever request it is for. -/
inductive Unwinds : Resumption (Outcome β) → Prop
  | done (o : Outcome β) : Unwinds (.done o)
  | evaluate {t : Token} {parents : List Scope} {s : Scope} {next : Outcome Token → Resumption (Outcome β)}
      (h : ∀ o, Unwinds (next o)) (hnext : PassesOn next) : Unwinds (.evaluate t parents s next)
  | invoke {call : Call} {next : Resumption (Outcome β)} (h : Unwinds next) : Unwinds (.invoke call next)

theorem PassesOn.map {g : Outcome α → Outcome β} (h : ∀ o, Aborts o → Aborts (g o)) :
    PassesOn fun o => .done (g o) := fun o ho => ⟨g o, rfl, h o ho⟩

/-- By induction on the requests of the first computation: its end is where the second begins. -/
theorem Unwinds.bind {r : Resumption (Outcome α)} {f : Outcome α → Resumption (Outcome β)} (hr : r.Unwinds)
    (hf : ∀ o, (f o).Unwinds) (hpass : PassesOn f) : (r.bind f).Unwinds := by
  induction hr with
  | done o => exact hf o
  | evaluate _ hnext ih =>
    refine .evaluate ih fun o ho => ?_
    obtain ⟨o', he, ho'⟩ := hnext o ho
    obtain ⟨o'', he', ho''⟩ := hpass o' ho'
    refine ⟨o'', ?_, ho''⟩
    rw [he]
    exact he'
  | invoke _ ih => exact .invoke ih

end Resumption

/-- The requests of an action to the evaluator on which it depends. The action calls no function by itself. -/
structure Stepwise {α : Type} (x : Evaluator → Action α) where
  steps : Context → Scope → Resumption (Outcome α)
  run_steps (ev : Evaluator) (c : Context) (s : Scope) : (steps c s).run c.config ev = x ev c s
  calls_steps (ev : Evaluator) (c : Context) (s : Scope) : (steps c s).calls c.config ev = []
  unwinds (c : Context) (s : Scope) : (steps c s).Unwinds

namespace Stepwise

variable {α β : Type} {x : Evaluator → Action α}

/-- An action that does not evaluate. -/
def const {x : Action α} : Stepwise fun _ => x where
  steps c s := .done (x c s)
  run_steps _ _ _ := rfl
  calls_steps _ _ _ := rfl
  unwinds c s := .done (x c s)

/-- The evaluation of a token is one request. -/
def evaluate (t : Token) : Stepwise fun ev => ev t where
  steps c s := .evaluate t c.parents s .done
  run_steps _ _ _ := rfl
  calls_steps _ _ _ := rfl
  unwinds _ _ := .evaluate .done (.map fun _ ho => ho)

/-- The same action, given by an equation. -/
def congr {y : Evaluator → Action α} (h : ∀ ev, x ev = y ev) (hx : Stepwise x) : Stepwise y where
  steps := hx.steps
  run_steps ev c s := by rw [hx.run_steps, h]
  calls_steps := hx.calls_steps
  unwinds := hx.unwinds

/-- What follows a value; a failure is the end. -/
def andThen (c : Context) (f : α → Context → Scope → Resumption (Outcome β)) : Outcome α → Resumption (Outcome β)
  | (.ok a, s) => f a c s
  | (.error e, s) => .done (.error e, s)

theorem unwinds_andThen {c : Context} {f : α → Context → Scope → Resumption (Outcome β)}
    (hf : ∀ a s, (f a c s).Unwinds) (o : Outcome α) : (andThen c f o).Unwinds := by
  match o with
  | (.ok a, s) => exact hf a s
  | (.error e, s) => exact .done _

theorem passesOn_andThen (c : Context) (f : α → Context → Scope → Resumption (Outcome β)) :
    Resumption.PassesOn (andThen c f) := by
  rintro ⟨r, s⟩ ⟨e, rfl, he⟩
  exact ⟨_, rfl, e, rfl, he⟩

def bind {f : α → Evaluator → Action β} (hx : Stepwise x) (hf : ∀ a, Stepwise (f a)) :
    Stepwise fun ev => x ev >>= fun a => f a ev where
  steps c s := (hx.steps c s).bind (andThen c fun a => (hf a).steps)
  run_steps ev c s := by
    rw [Resumption.run_bind, hx.run_steps]
    show _ = Action.bind (x ev) (fun a => f a ev) c s
    unfold Action.bind
    split
    · next a s he =>
      rw [he]
      exact (hf a).run_steps ev c s
    · next he =>
      rw [he]
      rfl
  calls_steps ev c s := by
    rw [Resumption.calls_bind, hx.calls_steps, hx.run_steps]
    match x ev c s with
    | (.ok a, s) => exact (hf a).calls_steps ev c s
    | (.error e, s) => rfl
  unwinds c s := (hx.unwinds c s).bind (unwinds_andThen fun a s => (hf a).unwinds c s) (passesOn_andThen c _)

/-- A change of the outcome makes no request. -/
def mapOutcome {y : Evaluator → Action β} (hx : Stepwise x) (g : Outcome α → Outcome β)
    (h : ∀ ev c s, g (x ev c s) = y ev c s) (hg : ∀ o, Aborts o → Aborts (g o)) : Stepwise y where
  steps c s := (hx.steps c s).bind fun o => .done (g o)
  run_steps ev c s := by
    rw [Resumption.run_bind, hx.run_steps, ← h]
    rfl
  calls_steps ev c s := by
    rw [Resumption.calls_bind, hx.calls_steps]
    rfl
  unwinds c s := (hx.unwinds c s).bind (fun o => .done (g o)) (.map hg)

/-- A failure is caught unless it aborts. -/
def catching : Outcome α → Outcome (Except Error α)
  | (.ok a, s) => (.ok (.ok a), s)
  | (.error e, s) => (if e.aborts then .error e else .ok (.error e), s)

theorem aborts_catching {o : Outcome α} (h : Aborts o) : Aborts (catching o) := by
  obtain ⟨r, s⟩ := o
  obtain ⟨e, rfl, he⟩ := h
  exact ⟨e, if_pos he, he⟩

def attempt (hx : Stepwise x) : Stepwise fun ev => Action.attempt (x ev) :=
  hx.mapOutcome catching
    (fun ev c s => by
      unfold Action.attempt
      split <;> next he => rw [he]; rfl)
    fun _ => aborts_catching

/-- A failure in a call aborts as it does without. -/
theorem aborts_mapError {o : Outcome α} (h : Aborts o) (text : String) :
    Aborts (o.1.mapError (Error.call text), o.2) := by
  obtain ⟨r, s⟩ := o
  obtain ⟨e, rfl, he⟩ := h
  exact ⟨.call text e, rfl, he⟩

def within (signature : Signature) (hx : Stepwise x) : Stepwise fun ev => Action.within signature (x ev) :=
  hx.mapOutcome (fun o => (o.1.mapError (.call signature.render), o.2))
    (fun ev c s => by
      unfold Action.within
      split <;> next he => rw [he]; rfl)
    fun _ ho => aborts_mapError ho _

/-- What is done in a new scope is dropped. -/
def inScope (hx : Stepwise x) : Stepwise fun ev => Action.inScope (x ev) where
  steps c s := (hx.steps { c with parents := s :: c.parents } {}).bind fun o => .done (o.1, s)
  run_steps ev c s := by
    rw [Resumption.run_bind]
    exact congrArg (fun o : Outcome α => (o.1, s)) (hx.run_steps ev { c with parents := s :: c.parents } {})
  calls_steps ev c s := by
    rw [Resumption.calls_bind]
    exact List.append_eq_nil_iff.2 ⟨hx.calls_steps ev { c with parents := s :: c.parents } {}, rfl⟩
  unwinds c s :=
    (hx.unwinds { c with parents := s :: c.parents } {}).bind (fun o => .done (o.1, s)) (.map fun _ ho => ho)

def ite {p : Prop} [Decidable p] {z : Evaluator → Action α} (hx : Stepwise x) (hz : Stepwise z) :
    Stepwise fun ev => if p then x ev else z ev :=
  if h : p then ⟨hx.steps, fun ev c s => by rw [if_pos h, hx.run_steps], hx.calls_steps, hx.unwinds⟩
  else ⟨hz.steps, fun ev c s => by rw [if_neg h, hz.run_steps], hz.calls_steps, hz.unwinds⟩

end Stepwise

end RuleExpr
