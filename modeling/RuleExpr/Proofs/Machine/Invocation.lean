import RuleExpr.Proofs.Evaluation.Coherence
import RuleExpr.Proofs.Machine.Depth

/-!
# Every call meets its signature

Whatever functions are registered, a function is called with as many arguments as its signature admits, and where it
does not ask for an unevaluated tree, with a value of a kind that the parameter accepts (`fits_of_call?`). The call of a
block does so, whether its function was chosen beforehand or for the values (`fits_of_prepare`); and the calls that a
run has still to make are those of the blocks that are open (`CallsFit`).
-/

namespace RuleExpr

/-- The arguments are as many as the signature admits; those that it does not quote are of accepted kinds, and no
blocks. -/
structure Call.Fits (call : Call) : Prop where
  admits : call.function.signature.admits call.args.length = true
  accepts (i : Nat) (v : Token) (hi : call.args[i]? = some v) (hq : call.function.signature.quotes i = false) :
    (call.function.signature.parameterKind i).accepts v.kind = true
  evaluated (i : Nat) (v : Token) (hi : call.args[i]? = some v) (hq : call.function.signature.quotes i = false) :
    v.isBlock = false

section Prepared

variable {head : String} {ev : Evaluator} {children : List Token} {c : Context} {s s' : Scope} {call : Call}

/-- A function that admits the arguments and accepts the values fits them. -/
theorem fits_of_acceptsValues (ha : call.function.signature.admits call.args.length = true)
    (hv : acceptsValues call.function.signature call.args = true) : call.Fits where
  admits := ha
  accepts i v hi hq := (acceptsValues_iff.1 hv i v hi).resolve_left (Bool.eq_false_iff.1 hq)
  evaluated i v hi hq :=
    not_isBlock_of_accepts hq ((acceptsValues_iff.1 hv i v hi).resolve_left (Bool.eq_false_iff.1 hq))

/-- **The function of a block's call fits the arguments**, with whatever evaluator they were evaluated. -/
theorem fits_of_prepare (h : prepare ev head children c s = (.ok (some call), s')) : call.Fits :=
  fits_of_acceptsValues (accepts_of_prepare h).1 (accepts_of_prepare h).2

end Prepared

namespace Machine

variable {config : Config} {m m' : Machine} {call : Call}

/-- The calls that are still to be made fit: those of the innermost evaluation, and when it has given its outcome those
of the one that waits for it, and so on. -/
inductive CallsFit (config : Config) :
    Nat → List (Outcome Token → Resumption (Outcome Token)) → Resumption (Outcome Token) → Prop
  | last {opened r} (h : ∀ call ∈ r.calls config (evaluate (config.maxDepth - opened)), call.Fits) :
      CallsFit config opened [] r
  | waiting {opened next frames r} (h : ∀ call ∈ r.calls config (evaluate (config.maxDepth - opened)), call.Fits)
      (hnext : CallsFit config (opened - 1) frames (next (r.run config (evaluate (config.maxDepth - opened))))) :
      CallsFit config opened (next :: frames) r

namespace CallsFit

variable {opened : Nat} {frames : List (Outcome Token → Resumption (Outcome Token))} {r r' : Resumption (Outcome Token)}

theorem now (h : CallsFit config opened frames r) :
    ∀ call ∈ r.calls config (evaluate (config.maxDepth - opened)), call.Fits := by
  cases h with
  | last h => exact h
  | waiting h => exact h

/-- Only the calls that are left and the result matter. -/
theorem mono (h : CallsFit config opened frames r)
    (hc : ∀ call ∈ r'.calls config (evaluate (config.maxDepth - opened)),
      call ∈ r.calls config (evaluate (config.maxDepth - opened)))
    (hr : r'.run config (evaluate (config.maxDepth - opened)) = r.run config (evaluate (config.maxDepth - opened))) :
    CallsFit config opened frames r' := by
  cases h with
  | last h => exact .last fun call hm => h call (hc call hm)
  | waiting h hnext => exact .waiting (fun call hm => h call (hc call hm)) (hr.symm ▸ hnext)

/-- A request that is answered as by the evaluator leaves the same calls. -/
theorem answer {t parents s next} {outcome : Outcome Token}
    (h : CallsFit config opened frames (.evaluate t parents s next))
    (ho : evaluate (config.maxDepth - opened) t ⟨config, parents⟩ s = outcome) :
    CallsFit config opened frames (next outcome) := by
  subst ho
  exact h.mono (fun _ hm => hm) rfl

end CallsFit

theorem CallsFit.step (h : CallsFit config m.opened m.frames m.current) (hs : m' ∈ m.step config) :
    CallsFit config m'.opened m'.frames m'.current := by
  cases step_of_eq_some hs with
  | close =>
    cases h with
    | waiting _ hnext => exact hnext
  | invoke => exact h.mono (fun _ hm => List.mem_cons_of_mem _ hm) rfl
  | atom hb => exact h.answer (by rw [evaluate_of_not_block hb]; rfl)
  | @enter opened frames head children parents s next hlt =>
    -- the block that is opened makes the calls it was prepared for, and gives what its evaluation gives
    have hlevels : config.maxDepth - opened = config.maxDepth - (opened + 1) + 1 := by omega
    refine .waiting (fun call hm => ?_) ?_
    · obtain ⟨_, hp⟩ := prepare_of_mem_calls (c := ⟨config, parents⟩) hm
      exact fits_of_prepare hp
    · rw [run_blockSteps _ head children ⟨config, parents⟩]
      exact h.answer (by rw [hlevels]; rfl)
  | refuse hle =>
    have hnone : config.maxDepth - _ = 0 := Nat.sub_eq_zero_of_le hle
    exact h.answer (by rw [hnone]; rfl)

theorem CallsFit.of_reaches {i : Interpreter} {t : Token} (h : Reaches i.config (start i t) m) :
    CallsFit i.config m.opened m.frames m.current := by
  induction h with
  | refl =>
    refine .last fun call hm => ?_
    rw [start, (Evaluator.stepwise_request t).calls_steps _ ⟨i.config, i.parents⟩] at hm
    cases hm
  | tail _ hs ih => exact ih.step hs

/-- The call that is made in the next step. -/
def call? (m : Machine) : Option Call :=
  match m.current with
  | .invoke call _ => some call
  | _ => none

/-- **Every function that is called in a run fits its arguments**, whatever functions and templates are registered. -/
theorem fits_of_call? {i : Interpreter} {t : Token} (h : Reaches i.config (start i t) m) (hc : m.call? = some call) :
    call.Fits := by
  have hfit := CallsFit.of_reaches h
  obtain ⟨opened, frames, current⟩ := m
  cases current with
  | invoke call' next =>
    cases hc
    exact hfit.now call List.mem_cons_self
  | done => cases hc
  | evaluate => cases hc

/-- The overload of strings is chosen for `(+ (. X) 2)`; when X is a decimal, the sum is called instead of it. -/
theorem fits_of_call?_sum :
    let i : Interpreter := ⟨{}, sumScope, []⟩
    let t := .block "+" [.block "." [.string "X"], .decimal 2]
    ∃ m call, Reaches i.config (start i t) m ∧ m.call? = some call ∧
      call.function.signature.render = "+(Decimal, Decimal...)Decimal" ∧ call.args = [.decimal 1, .decimal 2] ∧
      call.Fits := by
  intro i t
  have hrun : (after i.config 6 (start i t)).bind (fun m => m.call?.map fun call =>
      (call.function.signature.render, call.args)) =
      some ("+(Decimal, Decimal...)Decimal", [.decimal 1, .decimal 2]) := by cbv
  obtain ⟨m, hm, h⟩ := Option.bind_eq_some_iff.1 hrun
  obtain ⟨call, hc, hcall⟩ := Option.map_eq_some_iff.1 h
  obtain ⟨hsignature, hargs⟩ := Prod.mk.inj hcall
  exact ⟨m, call, reaches_of_after hm, hc, hsignature, hargs, fits_of_call? (reaches_of_after hm) hc⟩

end Machine

end RuleExpr
