import Mathlib.Computability.StateTransition
import RuleExpr.Proofs.Evaluation.LookAhead
import RuleExpr.Proofs.Machine.Builtin

/-!
# A machine for evaluation

The machine evaluates step by step. It has a counter of the evaluations of blocks that are open, whatever scopes they
are in, and for each of them but the innermost what it goes on with when the one inside is done. Where the counter is at
the limit, a block is answered with a failure and not opened; an evaluation that is done, with whatever outcome, counts
down.

- `blockSteps` are the requests of the evaluation of a block, among them the functions that it calls;
- `Machine.step` is one step, `Machine.Reaches` any number of them;
- **the machine gives what evaluation gives** (`reaches_done`): a request at any count is answered as by the evaluator
  with the levels that are left, and leaves the count as it was.
-/

namespace RuleExpr

open Resumption (run_bind calls_bind)

/-! ## The requests of a block -/

def stepwise_evaluateArgument (signature : Signature) (index : Nat) (t : Token) :
    Stepwise fun ev => evaluateArgument ev signature index t :=
  .ite .const (.within signature (.evaluate t))

/-- The arguments that are not quoted are evaluated, in order. -/
def stepwise_evaluateArguments (signature : Signature) : (index : Nat) → (ts : List Token) →
    Stepwise fun ev => evaluateArguments ev signature index ts
  | _, [] => .const
  | index, t :: ts =>
    .congr (fun _ => (evaluateArguments_cons index t ts).symm) <|
      .bind (stepwise_evaluateArgument signature index t) fun _ =>
        .bind (stepwise_evaluateArguments signature (index + 1) ts) fun _ => .const

def stepwise_prepare (head : String) (children : List Token) : Stepwise fun ev => prepare ev head children :=
  .bind .const fun _ => .bind .const fun
    | none => .const
    | some f => .bind (stepwise_evaluateArguments f.signature 0 children) fun _ =>
        .ite .const (.bind .const fun _ => .bind .const fun _ => .const)

def Call.stepwise_run (call : Call) : Stepwise fun ev => call.run ev :=
  .bind (.within call.function.signature (call.function.body.stepwise_run call.args)) fun v =>
    .ite (.evaluate v) .const

def stepwise_evaluateSequence (last : Token) : (ts : List Token) → Stepwise fun ev => evaluateSequence ev last ts
  | [] => .const
  | t :: ts => .bind (.evaluate t) fun v => stepwise_evaluateSequence v ts

/-- The evaluation of a block: a grouping evaluates its children, any other block calls a function if one fits. -/
def blockSteps (head : String) (children : List Token) (c : Context) (s : Scope) : Resumption (Outcome Token) :=
  if head.isEmpty then
    if children.isEmpty then .done (.ok (.block head children), s)
    else (stepwise_evaluateSequence .null children).steps c s
  else
    ((stepwise_prepare head children).steps c s).bind <| Stepwise.andThen c fun
      | some call => fun c s => .invoke call (call.stepwise_run.steps c s)
      | none => fun c s =>
        .done ((if children.isEmpty then Action.ofExcept (Token.infer head) else pure (.block head children)) c s)

section Block

variable {head : String} {children : List Token} {c : Context} {s : Scope} {ev : Evaluator}

/-- Answered by an evaluator, the requests of a block give what the block evaluates to. -/
theorem run_blockSteps (ev : Evaluator) (head : String) (children : List Token) (c : Context) (s : Scope) :
    (blockSteps head children c s).run c.config ev = evaluateBlock ev head children c s := by
  unfold blockSteps evaluateBlock
  split
  · split
    · rfl
    · exact (stepwise_evaluateSequence .null children).run_steps ev c s
  · rw [run_bind, (stepwise_prepare head children).run_steps]
    show _ = Action.bind (prepare ev head children) _ c s
    unfold Action.bind
    match prepare ev head children c s with
    | (.ok (some call), s) => exact call.stepwise_run.run_steps ev c s
    | (.ok none, s) => rfl
    | (.error e, s) => rfl

/-- A block calls the function only that its arguments were prepared for. -/
theorem prepare_of_mem_calls {call : Call} (h : call ∈ (blockSteps head children c s).calls c.config ev) :
    ∃ s', prepare ev head children c s = (.ok (some call), s') := by
  unfold blockSteps at h
  split at h
  · split at h
    · cases h
    · rw [(stepwise_evaluateSequence .null children).calls_steps] at h
      cases h
  · rw [calls_bind, (stepwise_prepare head children).calls_steps, (stepwise_prepare head children).run_steps] at h
    match hp : prepare ev head children c s with
    | (.ok (some call'), s') =>
      rw [hp] at h
      have hc : call ∈ call' :: (call'.stepwise_run.steps c s').calls c.config ev := h
      rw [call'.stepwise_run.calls_steps, List.mem_singleton] at hc
      exact ⟨s', hc ▸ rfl⟩
    | (.ok none, s') =>
      rw [hp] at h
      cases h
    | (.error e, s') =>
      rw [hp] at h
      cases h

theorem unwinds_blockSteps (head : String) (children : List Token) (c : Context) (s : Scope) :
    (blockSteps head children c s).Unwinds := by
  unfold blockSteps
  split
  · split
    · exact .done _
    · exact (stepwise_evaluateSequence .null children).unwinds c s
  · refine ((stepwise_prepare head children).unwinds c s).bind (Stepwise.unwinds_andThen fun r s => ?_)
      (Stepwise.passesOn_andThen c _)
    cases r with
    | some call => exact .invoke (call.stepwise_run.unwinds c s)
    | none => exact .done _

end Block

/-! ## Steps -/

/-- The evaluations of blocks under way: how many are open, what those that wait go on with, innermost first, and what
the innermost one is about to do. -/
structure Machine where
  opened : Nat
  frames : List (Outcome Token → Resumption (Outcome Token))
  current : Resumption (Outcome Token)

namespace Machine

/-- One step. An evaluation that is done counts down, and a block counts up if the limit allows. -/
def step (config : Config) (m : Machine) : Option Machine :=
  match m.current with
  | .done outcome =>
    match m.frames with
    | [] => none
    | next :: frames => some ⟨m.opened - 1, frames, next outcome⟩
  | .invoke _ next => some ⟨m.opened, m.frames, next⟩
  | .evaluate (.block head children) parents s next =>
    if m.opened < config.maxDepth then
      some ⟨m.opened + 1, next :: m.frames, blockSteps head children ⟨config, parents⟩ s⟩
    else some ⟨m.opened, m.frames, next (.error (.recursionLimit config.maxDepth), s)⟩
  | .evaluate t _ s next => some ⟨m.opened, m.frames, next (.ok t, s)⟩

section Steps

variable {config : Config} {m m' : Machine}

/-- The steps, case by case. -/
inductive Step (config : Config) : Machine → Machine → Prop
  | close {opened frames next outcome} :
      Step config ⟨opened, next :: frames, .done outcome⟩ ⟨opened - 1, frames, next outcome⟩
  | invoke {opened frames call next} : Step config ⟨opened, frames, .invoke call next⟩ ⟨opened, frames, next⟩
  | atom {opened frames t parents s next} (h : t.isBlock = false) :
      Step config ⟨opened, frames, .evaluate t parents s next⟩ ⟨opened, frames, next (.ok t, s)⟩
  | enter {opened frames head children parents s next} (h : opened < config.maxDepth) :
      Step config ⟨opened, frames, .evaluate (.block head children) parents s next⟩
        ⟨opened + 1, next :: frames, blockSteps head children ⟨config, parents⟩ s⟩
  | refuse {opened frames head children parents s next} (h : config.maxDepth ≤ opened) :
      Step config ⟨opened, frames, .evaluate (.block head children) parents s next⟩
        ⟨opened, frames, next (.error (.recursionLimit config.maxDepth), s)⟩

theorem step_of_eq_some (h : m.step config = some m') : Step config m m' := by
  obtain ⟨opened, frames, current⟩ := m
  cases current with
  | done outcome =>
    cases frames with
    | nil => cases h
    | cons next frames =>
      cases h
      exact .close
  | invoke call next =>
    cases h
    exact .invoke
  | evaluate t parents s next =>
    cases t with
    | block head children =>
      dsimp only [step] at h
      split at h
      · next hlt =>
        cases h
        exact .enter hlt
      · next hlt =>
        cases h
        exact .refuse (Nat.not_lt.1 hlt)
    | _ =>
      cases h
      exact .atom rfl

theorem eq_some_of_step (h : Step config m m') : m.step config = some m' := by
  cases h with
  | close => rfl
  | invoke => rfl
  | @atom _ _ t _ _ _ hb =>
    cases t with
    | block => cases hb
    | _ => rfl
  | enter h => exact if_pos h
  | refuse h => exact if_neg (Nat.not_lt.2 h)

end Steps

/-- Some number of steps leads from the one state to the other. -/
abbrev Reaches (config : Config) : Machine → Machine → Prop := StateTransition.Reaches (step config)

/-! ## Runs -/

section Runs

variable {config : Config} {opened levels : Nat}

theorem Step.reaches {m m' : Machine} (h : Step config m m') : Reaches config m m' := .single (eq_some_of_step h)

/-- The state after a number of steps, if the run goes on for so long. -/
def after (config : Config) : Nat → Machine → Option Machine
  | 0, m => some m
  | n + 1, m => (m.step config).bind (after config n)

theorem reaches_of_after {n : Nat} {m m' : Machine} (h : after config n m = some m') : Reaches config m m' := by
  induction n generalizing m with
  | zero =>
    cases h
    exact .refl
  | succ n ih =>
    obtain ⟨m₁, hs, h₁⟩ := Option.bind_eq_some_iff.1 h
    exact .head hs (ih h₁)

/-- Where requests are answered as by an evaluator, a computation gives what it gives with that evaluator. -/
theorem reaches_done_of_answers {frames} {ev : Evaluator}
    (h : ∀ t parents s next, Reaches config ⟨opened, frames, .evaluate t parents s next⟩
      ⟨opened, frames, next (ev t ⟨config, parents⟩ s)⟩) (r : Resumption (Outcome Token)) :
    Reaches config ⟨opened, frames, r⟩ ⟨opened, frames, .done (r.run config ev)⟩ := by
  induction r with
  | done => exact .refl
  | evaluate t parents s next ih => exact (h t parents s next).trans (ih _)
  | invoke call next ih => exact Step.invoke.reaches.trans ih

/-- A request is answered as by the evaluator with the levels that are left. -/
theorem reaches_answer (h : opened + levels = config.maxDepth) (frames) (t : Token) (parents : List Scope) (s : Scope)
    (next) : Reaches config ⟨opened, frames, .evaluate t parents s next⟩
      ⟨opened, frames, next (evaluate levels t ⟨config, parents⟩ s)⟩ := by
  induction levels generalizing opened frames t parents s next with
  | zero =>
    cases t with
    | block head children => exact (Step.refuse (Nat.le_of_eq h.symm)).reaches
    | _ => exact (Step.atom rfl).reaches
  | succ levels ih =>
    cases t with
    | block head children =>
      -- the evaluation of the block goes on one level further down, and comes back with its outcome
      have hlevels : opened + 1 + levels = config.maxDepth := by omega
      have hbody := reaches_done_of_answers (ih hlevels (next :: frames)) (blockSteps head children ⟨config, parents⟩ s)
      rw [run_blockSteps (evaluate levels) head children ⟨config, parents⟩ s] at hbody
      have henter : opened < config.maxDepth := by omega
      exact (Step.enter henter).reaches.trans (hbody.trans Step.close.reaches)
    | _ => exact (Step.atom rfl).reaches

/-- **The machine gives what evaluation gives**, and leaves the count as it was. -/
theorem reaches_done (h : opened + levels = config.maxDepth) (frames) (r : Resumption (Outcome Token)) :
    Reaches config ⟨opened, frames, r⟩ ⟨opened, frames, .done (r.run config (evaluate levels))⟩ :=
  reaches_done_of_answers (reaches_answer h frames) r

end Runs

end Machine

end RuleExpr
