import RuleExpr.Proofs.Evaluation.Catalogue
import RuleExpr.Proofs.Machine.Basic

/-!
# Evaluation ends and its depth is bounded

The counter of the machine is the number of evaluations that are open, and never above the limit (`Bounded`). A run
goes through finitely many states and ends with what the interpreter gives (`eval_start`). In any of its states
(`evaluate_bounded`), a block is opened below the limit and refused at the limit, and comes back, with a value or with a
failure, to the evaluations that were open before. If the failure is an overflow, these evaluations are closed one after
the other and none of them recovers (`Unwinding`, `reaches_aborted`).
-/

namespace RuleExpr.Machine

open Resumption (PassesOn)
open StateTransition (eval mem_eval reaches_total)

variable {config : Config} {m m' : Machine}

/-! ## The counter -/

/-- The counter is the number of evaluations that are open, and at most the limit. -/
structure Bounded (config : Config) (m : Machine) : Prop where
  opened_eq : m.opened = m.frames.length
  opened_le : m.opened ≤ config.maxDepth

theorem Bounded.step (h : m.Bounded config) (hs : m' ∈ m.step config) : m'.Bounded config := by
  obtain ⟨heq, hle⟩ := h
  cases step_of_eq_some hs with
  | close =>
    -- a frame is left, so there is one to be counted down
    rw [List.length_cons] at heq
    constructor <;> dsimp only at heq hle ⊢ <;> omega
  | invoke => exact ⟨heq, hle⟩
  | atom => exact ⟨heq, hle⟩
  | enter hlt => exact ⟨congrArg (· + 1) heq, hlt⟩
  | refuse => exact ⟨heq, hle⟩

theorem Bounded.reaches (h : m.Bounded config) (hr : Reaches config m m') : m'.Bounded config := by
  induction hr with
  | refl => exact h
  | tail _ hs ih => exact ih.step hs

/-! ## Whole runs -/

/-- The state in which an interpreter begins to evaluate a token. -/
def start (i : Interpreter) (t : Token) : Machine :=
  ⟨0, [], (Evaluator.stepwise_request t).steps ⟨i.config, i.parents⟩ i.scope⟩

/-- The state in which it has evaluated the token. -/
def ended (i : Interpreter) (t : Token) : Machine := ⟨0, [], .done ((i.evaluate t).1, (i.evaluate t).2.scope)⟩

theorem bounded_start (i : Interpreter) (t : Token) : (start i t).Bounded i.config := ⟨rfl, Nat.zero_le _⟩

theorem reaches_ended (i : Interpreter) (t : Token) : Reaches i.config (start i t) (ended i t) := by
  have h := reaches_done (Nat.zero_add i.config.maxDepth) []
    ((Evaluator.stepwise_request t).steps ⟨i.config, i.parents⟩ i.scope)
  rw [(Evaluator.stepwise_request t).run_steps _ ⟨i.config, i.parents⟩] at h
  exact h

/-- **A run ends**, with what the interpreter gives. -/
theorem eval_start (i : Interpreter) (t : Token) : eval (step i.config) (start i t) = Part.some (ended i t) :=
  Part.eq_some_iff.2 (mem_eval.2 ⟨reaches_ended i t, rfl⟩)

/-- Whatever state a run has come to, it goes on to the same end. -/
theorem ended_of_reaches {i : Interpreter} {t : Token} (h : Reaches i.config (start i t) m) :
    Reaches i.config m (ended i t) := by
  obtain hm | hm := reaches_total h (reaches_ended i t)
  · exact hm
  · obtain rfl | ⟨_, hs, -⟩ := Relation.ReflTransGen.cases_head hm
    · exact .refl
    · cases hs

/-- A state in which a run stays is its end. -/
theorem eq_ended {i : Interpreter} {t : Token} (h : Reaches i.config (start i t) m) (hstep : m.step i.config = none) :
    m = ended i t := by
  obtain rfl | ⟨m', hs, -⟩ := Relation.ReflTransGen.cases_head (ended_of_reaches h)
  · rfl
  · cases hstep.symm.trans hs

/-! ## Overflows -/

/-- Whatever is open passes on an outcome that aborts. -/
structure Unwinding (m : Machine) : Prop where
  current : m.current.Unwinds
  frames : ∀ next ∈ m.frames, (∀ o, (next o).Unwinds) ∧ PassesOn next

theorem Unwinding.step (h : m.Unwinding) (hs : m' ∈ m.step config) : m'.Unwinding := by
  obtain ⟨hcurrent, hframes⟩ := h
  cases step_of_eq_some hs with
  | close =>
    obtain ⟨⟨hnext, -⟩, hframes⟩ := List.forall_mem_cons.1 hframes
    exact ⟨hnext _, hframes⟩
  | invoke =>
    cases hcurrent with
    | invoke hnext => exact ⟨hnext, hframes⟩
  | atom =>
    cases hcurrent with
    | evaluate hnext => exact ⟨hnext _, hframes⟩
  | enter =>
    cases hcurrent with
    | evaluate hnext hpass =>
      exact ⟨unwinds_blockSteps _ _ _ _, List.forall_mem_cons.2 ⟨⟨hnext, hpass⟩, hframes⟩⟩
  | refuse =>
    cases hcurrent with
    | evaluate hnext => exact ⟨hnext _, hframes⟩

theorem Unwinding.of_reaches {i : Interpreter} {t : Token} (h : Reaches i.config (start i t) m) : m.Unwinding := by
  induction h with
  | refl => exact ⟨(Evaluator.stepwise_request t).unwinds _ _, List.forall_mem_nil _⟩
  | tail _ hs ih => exact ih.step hs

/-- An outcome that aborts closes all evaluations, from the innermost to the outermost. -/
theorem reaches_aborted {frames : List (Outcome Token → Resumption (Outcome Token))}
    (hframes : ∀ next ∈ frames, PassesOn next) (opened : Nat) {o : Outcome Token} (ho : Aborts o) :
    ∃ o', Aborts o' ∧ Reaches config ⟨opened, frames, .done o⟩ ⟨opened - frames.length, [], .done o'⟩ := by
  induction frames generalizing opened o with
  | nil => exact ⟨o, ho, .refl⟩
  | cons next frames ih =>
    obtain ⟨hnext, hframes⟩ := List.forall_mem_cons.1 hframes
    obtain ⟨o₁, he, ho₁⟩ := hnext o ho
    obtain ⟨o', ho', hr⟩ := ih hframes (opened - 1) ho₁
    refine ⟨o', ho', Step.close.reaches.trans ?_⟩
    rw [he, List.length_cons, Nat.add_comm, Nat.sub_add_eq]
    exact hr

/-- **An evaluation that aborts is the end of all.** -/
theorem aborts_of_reaches {i : Interpreter} {t : Token} {opened : Nat} {frames} {o : Outcome Token}
    (h : Reaches i.config (start i t) ⟨opened, frames, .done o⟩) (ho : Aborts o) :
    ∃ e, (i.evaluate t).1 = .error e ∧ e.aborts = true := by
  have hframes := (Unwinding.of_reaches h).frames
  obtain ⟨o', ho', hr⟩ := reaches_aborted (fun next hn => (hframes next hn).2) opened ho
  obtain ⟨e, he, ha⟩ := ho'
  have hend := eq_ended (h.trans hr) rfl
  have hresult : o' = ((i.evaluate t).1, (i.evaluate t).2.scope) := Resumption.done.inj (congrArg current hend)
  exact ⟨e, by rw [← he, hresult], ha⟩

/-- **Evaluation ends, with at most as many evaluations of blocks open at any moment as the limit allows.** At the limit
a block fails at once; below it, a block is opened, and closed again when it gives a value or fails. What fails by an
overflow is the end of all that is open: the whole evaluation fails by one then. -/
theorem evaluate_bounded (i : Interpreter) (t : Token) :
    eval (step i.config) (start i t) = Part.some (ended i t) ∧
      ∀ m, Reaches i.config (start i t) m →
        Reaches i.config m (ended i t) ∧ m.opened = m.frames.length ∧ m.opened ≤ i.config.maxDepth ∧
        ∀ head children parents s next, m.current = .evaluate (.block head children) parents s next →
          let outcome := evaluate (i.config.maxDepth - m.opened) (.block head children) ⟨i.config, parents⟩ s
          Reaches i.config m ⟨m.opened, m.frames, next outcome⟩ ∧
          (m.opened < i.config.maxDepth → m.step i.config =
            some ⟨m.opened + 1, next :: m.frames, blockSteps head children ⟨i.config, parents⟩ s⟩) ∧
          (m.opened = i.config.maxDepth → outcome = (.error (.recursionLimit i.config.maxDepth), s) ∧
            m.step i.config = some ⟨m.opened, m.frames, next outcome⟩) ∧
          ∀ e, outcome.1 = .error e → e.aborts = true → ∃ e', (i.evaluate t).1 = .error e' ∧ e'.aborts = true := by
  refine ⟨eval_start i t, fun m hm => ?_⟩
  obtain ⟨heq, hle⟩ := (bounded_start i t).reaches hm
  refine ⟨ended_of_reaches hm, heq, hle, fun head children parents s next hc => ?_⟩
  have hcurrent := (Unwinding.of_reaches hm).current
  obtain ⟨opened, frames, current⟩ := m
  dsimp only at hc hcurrent hle ⊢
  subst hc
  have hanswer := reaches_answer (by omega : opened + (i.config.maxDepth - opened) = i.config.maxDepth) frames
    (.block head children) parents s next
  refine ⟨hanswer, fun hlt => eq_some_of_step (.enter hlt), fun hlimit => ?limit, fun e he ha => ?overflow⟩
  case limit =>
    have hnone : i.config.maxDepth - opened = 0 := by omega
    rw [hnone]
    exact ⟨rfl, eq_some_of_step (.refuse (Nat.le_of_eq hlimit.symm))⟩
  case overflow =>
    cases hcurrent with
    | evaluate _ hpass =>
      obtain ⟨o, hnext, ho⟩ := hpass _ ⟨e, he, ha⟩
      rw [hnext] at hanswer
      exact aborts_of_reaches (hm.trans hanswer) ho

/-- The token that is to be evaluated in the next step. -/
def request? (m : Machine) : Option Token :=
  match m.current with
  | .evaluate t .. => some t
  | _ => none

/-- `(! Endless)` -/
def instantiation : Token := .block "!" [.string "Endless"]

/-- An interpreter with three levels, and a template that instantiates itself. -/
def endless : Interpreter :=
  ⟨{ maxDepth := 3 }, { functions := Control.catalogue, templates := [⟨{ name := "Endless" }, instantiation⟩] }, []⟩

/-- The fourth instantiation is refused, and that is how the run ends. -/
theorem evaluate_bounded_endless :
    (endless.evaluate instantiation).1 = .error (.recursionLimit 3) ∧
      eval (step endless.config) (start endless instantiation) = Part.some (ended endless instantiation) ∧
      ∃ (m : Machine) (next : Outcome Token → Resumption (Outcome Token)) (s : Scope),
        Reaches endless.config (start endless instantiation) m ∧ m.frames.length = 3 ∧
          m.request? = some instantiation ∧
          m.step endless.config = some ⟨3, m.frames, next (.error (.recursionLimit 3), s)⟩ := by
  have hv : (endless.evaluate instantiation).1 = .error (.recursionLimit 3) := by cbv
  have hrun : (after endless.config 9 (start endless instantiation)).map (fun m => (m.opened, m.request?)) =
      some (3, some instantiation) := by cbv
  obtain ⟨m, hm, h⟩ := Option.map_eq_some_iff.1 hrun
  obtain ⟨hopened, hrequest⟩ := Prod.mk.inj h
  obtain ⟨parents, s, next, hc⟩ : ∃ parents s next, m.current = .evaluate instantiation parents s next := by
    unfold request? at hrequest
    split at hrequest
    · next hc =>
      cases hrequest
      exact ⟨_, _, _, hc⟩
    · cases hrequest
  obtain ⟨hend, hstates⟩ := evaluate_bounded endless instantiation
  obtain ⟨-, hcount, -, hblocks⟩ := hstates m (reaches_of_after hm)
  obtain ⟨-, -, hrefuse, -⟩ := hblocks _ _ parents s next hc
  obtain ⟨houtcome, hstep⟩ := hrefuse hopened
  rw [houtcome, hopened] at hstep
  exact ⟨hv, hend, m, next, s, reaches_of_after hm, hcount.symm.trans hopened, hrequest, hstep⟩

/-- A block that names no function, and spells a decimal that is too large to be read. -/
def unreadable : Token := .block "1e-9223372036854775808" []

/-- **Its evaluation overflows**, and so ends neither with a value nor with a failure that can be caught. -/
theorem not_evaluate_returns : ¬ ∀ (i : Interpreter) (t : Token), HasCatalogue i.chain →
    (∃ v, (i.evaluate t).1 = .ok v) ∨ ∃ e, (i.evaluate t).1 = .error e ∧ e.aborts = false := by
  intro h
  let i := Interpreter.root {}
  have hunnamed : functionsNamed i.chain (Text.foldCase "1e-9223372036854775808") = [] := by decide +kernel
  have hblock : evaluate i.config.maxDepth unreadable ⟨i.config, i.parents⟩ i.scope =
      (Token.infer "1e-9223372036854775808", i.scope) := evaluateBlock_of_unnamed rfl hunnamed
  have hrun : (i.evaluate unreadable).1 = .error .overflow := by
    rw [Interpreter.evaluate_of_not_dryRun rfl, Interpreter.run_steady hblock, Token.infer_leastExponent]
  rcases h i unreadable (HasCatalogue.root {} _) with ⟨v, hv⟩ | ⟨e, he, ha⟩
  · cases hrun.symm.trans hv
  · cases hrun.symm.trans he
    cases ha

end RuleExpr.Machine
