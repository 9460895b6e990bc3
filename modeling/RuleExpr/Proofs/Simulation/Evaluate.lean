import RuleExpr.Proofs.Evaluation.Coherence
import RuleExpr.Proofs.Simulation.Builtin

/-!
# Evaluation in two runs

What the two runs of a simulation evaluate a program to agrees (`relates_evaluate`), for the same depth, or for a
greater depth on the right where the left run may break off at the limit. By induction on the depth: a call has the same
function and the same arguments in both runs (`relates_prepare`), programs where the function quotes and values
elsewhere.
-/

namespace RuleExpr

open RuleExpr.Text
open Token (Data Tree)

variable {ι : Type} {S : Simulation ι} {ev ev' : Evaluator} {head : String} {children : List Token}
  {signature : Signature}

/-! ## Arguments -/

theorem relates_evaluateArgument (hev : S.Evaluates ev ev') (i : Nat) {t : Token} (ht : S.Tree t) :
    S.Relates (S.Passes (signature.quotes i)) (evaluateArgument ev signature i t)
      (evaluateArgument ev' signature i t) := by
  unfold evaluateArgument
  cases signature.quotes i with
  | true => exact .pure ht
  | false => exact .within signature (hev t ht)

theorem relates_evaluateArguments (hev : S.Evaluates ev ev') (i : Nat) {ts : List Token} (hts : ∀ t ∈ ts, S.Tree t) :
    S.Relates (fun vs => vs.length = ts.length ∧ ∀ j v, vs[j]? = some v → S.Passes (signature.quotes (i + j)) v)
      (evaluateArguments ev signature i ts) (evaluateArguments ev' signature i ts) := by
  induction ts generalizing i with
  | nil => exact .pure ⟨rfl, fun j v hj => by cases hj⟩
  | cons t ts ih =>
    obtain ⟨ht, hts⟩ := List.forall_mem_cons.1 hts
    rw [evaluateArguments_cons, evaluateArguments_cons]
    refine .bind (relates_evaluateArgument hev i ht) fun v hv => .bind (ih (i + 1) hts) fun vs ⟨hl, hvs⟩ => ?_
    refine .pure ⟨by rw [List.length_cons, List.length_cons, hl], fun j u hj => ?_⟩
    cases j with
    | zero =>
      cases hj
      exact hv
    | succ j =>
      have hij : i + (j + 1) = i + 1 + j := by omega
      exact hij ▸ hvs j u hj

/-- A function that accepts the values can be run with them, if it quotes what was not evaluated. -/
theorem Simulation.Sees.ready {chain chain' : List Scope} {count : Nat} {f : Function} {args : List Token}
    (hs : S.Sees chain chain') (hc : S.call (foldCase head) count) (hf : f ∈ admitted chain head count)
    (hl : args.length = count) (hargs : ∀ i v, args[i]? = some v → S.Passes (f.signature.quotes i) v)
    (ha : acceptsValues f.signature args = true) : S.Ready f args where
  mem_catalogue := hs.mem_catalogue hc hf
  call := by rwa [key_of_admitted hf, hl]
  tree := by
    intro v hv
    obtain ⟨i, hi⟩ := List.getElem?_of_mem hv
    have hp := hargs i v hi
    cases hq : f.signature.quotes i with
    | true => rwa [hq] at hp
    | false =>
      -- what is accepted where nothing is quoted is no block
      rw [hq] at hp
      have haccepts := (acceptsValues_iff.1 ha i v hi).resolve_left (Bool.eq_false_iff.1 hq)
      exact .leaf (not_isBlock_of_accepts hq haccepts) hp
  data := fun i v hi hq => by
    have hp := hargs i v hi
    rwa [hq] at hp

/-! ## Calls -/

/-- **A block that calls a function calls the same one with the same arguments in both runs.** -/
theorem relates_prepare (hev : S.Evaluates ev ev') (ht : S.Tree (.block head children)) (hh : head.isEmpty = false) :
    S.Relates (fun r => match r with
        | some call => S.Ready call.function call.args
        | none => children ≠ [] → S.held head children)
      (prepare ev head children) (prepare ev' head children) := by
  refine .chain fun {chain chain'} hs => ?_
  rw [hs.alike.resolve ht]
  refine .bind (Q := fun r => resolve chain head children = .ok r) (.ofExcept fun _ hr => hr) fun r hr => ?_
  cases r with
  | none => exact .pure fun hc => hs.held_stuck ht hh hc hr
  | some f =>
    obtain ⟨hf, -⟩ := mem_admitted_of_resolve hr
    refine .bind (relates_evaluateArguments hev 0 ht.of_block) fun args ⟨hl, hargs⟩ => ?_
    simp only [Nat.zero_add] at hargs
    split
    · next ha => exact .pure (hs.ready ht.calls hf hl hargs ha)
    · -- another function is chosen for the values, which quotes what the first one does
      refine .chain fun {chain₁ chain₁'} hs₁ => ?_
      rw [hs₁.alike.redispatch ht.calls]
      refine .bind (Q := fun g => redispatch chain₁ head args = .ok g) (.ofExcept fun _ hg => hg) fun g hg => ?_
      have hfind := redispatch_eq_ok.1 hg
      have hgm := List.mem_of_find?_eq_some hfind
      rw [hl] at hgm
      have hquotes := quotes_eq_of_admitted (hs.mem_catalogue ht.calls hf) (hs₁.mem_catalogue ht.calls hgm) hf hgm
      simp only [hquotes] at hargs
      have ha := List.find?_some (p := fun g : Function => acceptsValues g.signature args) hfind
      exact .pure (hs₁.ready ht.calls hgm hl hargs ha)

/-- A program that a call gives back is evaluated in turn. -/
theorem Call.relates_run (hev : S.Evaluates ev ev') {call : Call} (h : S.Ready call.function call.args) :
    S.Relates S.Data (call.run ev) (call.run ev') := by
  refine .bind (.within _ (Function.relates_run hev h)) fun v hv => ?_
  cases hq : call.function.signature.returns.quotes with
  | false =>
    rw [hq] at hv
    exact .pure hv
  | true =>
    rw [hq] at hv
    cases hb : v.isBlock with
    | true => exact hev v hv
    | false => exact .pure (hv.data hb)

theorem relates_evaluateSequence (hev : S.Evaluates ev ev') {last : Token} (hl : S.Data last) {ts : List Token}
    (hts : ∀ t ∈ ts, S.Tree t) : S.Relates S.Data (evaluateSequence ev last ts) (evaluateSequence ev' last ts) := by
  induction ts generalizing last with
  | nil => exact .pure hl
  | cons t ts ih =>
    obtain ⟨ht, hts⟩ := List.forall_mem_cons.1 hts
    exact .bind (hev t ht) fun v hv => ih hv hts

theorem relates_evaluateBlock (hev : S.Evaluates ev ev') (ht : S.Tree (.block head children)) :
    S.Relates S.Data (evaluateBlock ev head children) (evaluateBlock ev' head children) := by
  unfold evaluateBlock
  cases hh : head.isEmpty with
  | true =>
    have hhead : head = "" := String.isEmpty_iff.1 hh
    subst hhead
    cases children with
    | nil => exact .pure (.block S.held_empty)
    | cons t ts => exact relates_evaluateSequence hev .null ht.of_block
  | false =>
    refine .bind (relates_prepare hev ht hh) fun r hr => ?_
    cases r with
    | some call => exact call.relates_run hev hr
    | none =>
      cases children with
      | nil => exact .ofExcept (.infer head)
      | cons t ts => exact .pure (.block (hr (List.cons_ne_nil t ts)))

/-! ## Evaluation -/

/-- **Two runs of a simulation agree on every program.** The right one may have more depth where the left one may break
off at the limit. -/
theorem relates_evaluate {extra : Nat} (hextra : extra = 0 ∨ ∀ limit, S.escape (.recursionLimit limit)) (depth : Nat) :
    S.Evaluates (evaluate depth) (evaluate (depth + extra)) := by
  induction depth with
  | zero =>
    intro t ht
    cases t with
    | block head children =>
      intro i c s c' s' h
      rcases hextra with rfl | hescape
      · rcases S.limit h with he | he
        · exact .escaped he
        · show S.Agrees S.Data i c c' (.error (.recursionLimit c.config.maxDepth), s)
            (.error (.recursionLimit c'.config.maxDepth), s')
          rw [he]
          exact .error h
      · exact .escaped (hescape c.config.maxDepth)
    | _ =>
      rw [evaluate_of_not_block rfl, evaluate_of_not_block rfl]
      exact .pure (ht.data rfl)
  | succ depth ih =>
    intro t ht
    rw [Nat.add_right_comm]
    cases t with
    | block head children => exact relates_evaluateBlock ih ht
    | _ => exact .pure (ht.data rfl)

/-- In a dry run, the token that is given back is the one that was to be evaluated. -/
theorem relates_request (hev : S.Evaluates ev ev') {t : Token} (ht : S.Tree t) :
    S.Relates (fun v => v = t ∨ S.Data v) (ev.request t) (ev'.request t) := by
  intro i c s c' s' h
  show S.Agrees _ i c c' ((if c.config.dryRun then _ else ev t : Action Token) c s)
    ((if c'.config.dryRun then _ else ev' t : Action Token) c' s')
  rw [S.dryRun h]
  split
  · refine Simulation.Relates.chain (fun {chain chain'} hs => ?_) i c s c' s' h
    rw [hs.alike.validate ht]
    exact .bind (Q := fun _ => True) (.ofExcept fun _ _ => trivial) fun _ _ => .pure (.inl rfl)
  · exact ((hev t ht).mono fun _ hv => .inr hv) i c s c' s' h

/-- Two interpreters in related states agree, if the left one does not break off. -/
theorem evaluate_of_state {j : ι} {i i' : Interpreter} {extra : Nat} {t : Token}
    (h : S.state j ⟨i.config, i.parents⟩ i.scope ⟨i'.config, i'.parents⟩ i'.scope) (ht : S.Tree t)
    (hdepth : i'.config.maxDepth = i.config.maxDepth + extra)
    (hextra : extra = 0 ∨ ∀ limit, S.escape (.recursionLimit limit))
    (hr : ∀ e, (i.evaluate t).1 = .error e → ¬ S.escape e) :
    (i'.evaluate t).1 = (i.evaluate t).1 ∧
      S.state j ⟨i.config, i.parents⟩ (i.evaluate t).2.scope ⟨i'.config, i'.parents⟩ (i'.evaluate t).2.scope := by
  have hev := relates_request (relates_evaluate hextra i.config.maxDepth) ht j _ _ _ _ h
  rw [← hdepth] at hev
  exact hev.of_not_escape hr

end RuleExpr
