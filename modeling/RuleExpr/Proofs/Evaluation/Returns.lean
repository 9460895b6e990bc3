import RuleExpr.Proofs.Evaluation.Checks
import RuleExpr.Proofs.Machine.Invocation

/-!
# Declared results

The signature of a built-in declares a kind of results, by which the look-ahead judges a call before it is made. A
built-in that makes its result itself keeps to the declaration. But some hand on a token that they have not made
(`Builtin.handsOn`), as a value: an element of a list, what a path leads to, or what an evaluation gave. Such a token
may be a block (`Builtin.Origin`), since a block for which there is no overload evaluates to itself.

- **A call of a built-in breaks its declaration exactly when it hands on a block** (`returns_refused_iff`).
-/

namespace RuleExpr

namespace Builtin

/-- Whether the built-in gives, as a value, a token that it has not made. -/
def handsOn : Builtin → Bool
  | list op => op ∈ [.head, .item]
  | binding op => op ∈ [.read, .readOr]
  | control op => op ∈ [.recover, .inScope, .bind, .bindLambda]
  | _ => false

/-- Where a token comes from that a built-in hands on. -/
inductive Origin (ev : Evaluator) (c : Context) (s : Scope) (args : List Token) (v : Token) : Builtin → Prop
  | element {op : ListOperation} {items more : List Token} (hop : op ∈ [.head, .item])
    (hargs : args = .list items :: more) (hv : v ∈ items) : Origin ev c s args v (.list op)
  | bound (h : readPath (s :: c.parents) (args.map Token.text) = .ok v) : Origin ev c s args v (.binding .read)
  | evaluation {op : Builtin}
    (hop : op ∈ [.binding .readOr, .control .recover, .control .inScope, .control .bind, .control .bindLambda])
    (h : ev.Asked c args (.ok v)) : Origin ev c s args v op

variable {ev : Evaluator} {c : Context} {s : Scope} {args : List Token} {v : Token} {op : Builtin}

theorem result_of_handsOn (h : op.handsOn = true) : op.result = Kind.value := by
  cases op with
  | list op =>
    cases op with
    | head | item => rfl
    | _ => cases h
  | binding => rfl
  | control op =>
    cases op with
    | «recover» | inScope | bind | bindLambda => rfl
    | _ => cases h
  | _ => cases h

theorem handsOn_of_origin (h : Origin ev c s args v op) : op.handsOn = true := by
  cases h with
  | element hop => exact decide_eq_true hop
  | bound => rfl
  | evaluation hop =>
    revert op
    decide

end Builtin

section Origin

variable {ev : Evaluator} {c : Context} {s : Scope} {args : List Token} {v : Token}

namespace ListOperation

theorem origin_head (h : ({ counts := ⟨1, false⟩, first := Kind.list } : Demand).Met args)
    (hrun : head.run args = .ok v) (hv : v.isBlock = true) : Builtin.Origin ev c s args v (.list head) := by
  obtain ⟨a, rfl, ha⟩ := h.one rfl
  obtain ⟨items, rfl⟩ := Token.list_of_accepts ha
  cases items with
  | nil =>
    cases hrun
    cases hv
  | cons t ts =>
    cases hrun
    exact .element (by decide) rfl List.mem_cons_self

theorem origin_item (h : (⟨⟨2, false⟩, Kind.list, Kind.decimal⟩ : Demand).Met args) (hrun : item.run args = .ok v) :
    Builtin.Origin ev c s args v (.list item) := by
  obtain ⟨a, n, rfl, ha, -⟩ := h.two rfl
  obtain ⟨items, rfl⟩ := Token.list_of_accepts ha
  obtain ⟨_, hpair, hrun⟩ := bind_eq_ok hrun
  cases hpair
  obtain ⟨index, -, hrun⟩ := bind_eq_ok hrun
  obtain ⟨_, hitems, hrun⟩ := bind_eq_ok hrun
  cases hitems
  split at hrun
  · next t ht =>
    cases hrun
    exact .element (by decide) rfl (List.mem_of_getElem? ht)
  · cases hrun

end ListOperation

/-- What is given is what was written. -/
theorem BindingOperation.written_putAt : (putAt args).Yields (· = args.getLastD .null) :=
  .bind fun _ => .bind fun _ => .pure rfl

end Origin

/-! ## Calls -/

section Call

variable {ev : Evaluator} {c : Context} {s s' : Scope} {call : Call} {op : Builtin} {v : Token}

/-- What a call was given as values are no blocks, and they meet a demand of the body. -/
theorem Call.Fits.exists_met (h : call.Fits) (hf : call.function ∈ catalogue) (hop : call.function.body = .builtin op) :
    ∃ d ∈ op.demands, d.Met call.args := by
  refine Function.exists_met hf hop h.admits (acceptsValues_iff.2 fun i v hi => ?_)
  cases hq : call.function.signature.quotes i with
  | true => exact .inl rfl
  | false => exact .inr (h.accepts i v hi hq)

/-- The default of a reading is no block. -/
theorem Call.Fits.default (h : call.Fits) (hf : call.function ∈ catalogue)
    (hop : call.function.body = .builtin (.binding .readOr)) : (call.args.headD .null).isBlock = false := by
  have ht := takesData_of_mem_catalogue _ hf
  rw [Function.takesData, hop, Bool.not_eq_true'] at ht
  cases hargs : call.args with
  | nil => rfl
  | cons default more => exact h.evaluated 0 default (by rw [hargs]; rfl) ht

/-- What is written is no block. -/
theorem Call.Fits.written (h : call.Fits) (hf : call.function ∈ catalogue)
    (hop : call.function.body = .builtin (.binding .write)) : (call.args.getLastD .null).isBlock = false := by
  have ht := takesData_of_mem_catalogue _ hf
  rw [Function.takesData, hop] at ht
  cases hargs : call.args.getLast? with
  | none =>
    rw [List.getLastD_eq_getLast?, hargs]
    rfl
  | some v =>
    rw [List.getLastD_eq_getLast?, hargs]
    obtain ⟨i, hi⟩ := List.mem_iff_getElem?.1 (List.mem_of_getLast? hargs)
    exact h.evaluated i v hi (Signature.quotes_of_evaluatesAll ht i)

/-- **A block that a built-in gives as a value is handed on.** -/
theorem Call.Fits.origin (h : call.Fits) (hf : call.function ∈ catalogue) (hop : call.function.body = .builtin op)
    (hresult : op.result = Kind.value) (hrun : (op.run ev call.args c s).1 = .ok v) (hv : v.isBlock = true) :
    op.Origin ev c s call.args v := by
  obtain ⟨d, hd, hmet⟩ := h.exists_met hf hop
  cases op with
  | list op =>
    obtain rfl := List.mem_singleton.1 hd
    cases op with
    | head => exact ListOperation.origin_head hmet hrun hv
    | item => exact ListOperation.origin_item hmet hrun
    | _ => cases hresult
  | binding op =>
    obtain rfl := List.mem_singleton.1 hd
    cases op with
    | read => exact .bound hrun
    | write =>
      cases BindingOperation.written_putAt c s v hrun
      rw [h.written hf hop] at hv
      cases hv
    | readOr =>
      rcases BindingOperation.asked_valueOr hmet with hdefault | hasked
      · cases hrun.symm.trans hdefault
        rw [h.default hf hop] at hv
        cases hv
      · exact .evaluation (by decide) (hrun ▸ hasked)
  | control op =>
    obtain rfl := List.mem_singleton.1 hd
    cases op with
    | «recover» => exact .evaluation (by decide) (hrun ▸ Control.asked_evaluateOr hmet)
    | inScope => exact .evaluation (by decide) (hrun ▸ Control.asked_evaluateInScope hmet)
    | bind => exact .evaluation (by decide) (hrun ▸ Control.asked_evaluateWith hmet)
    | bindLambda =>
      rcases Control.asked_evaluateLambda hmet with ⟨e, he, -⟩ | hasked
      · cases hrun.symm.trans he
      · exact .evaluation (by decide) (hrun ▸ hasked)
    | panic => cases hrun
    | _ => cases hresult
  | text op => cases op <;> cases hresult
  | time op => cases op <;> cases hresult
  | iterator op => cases op <;> cases hresult
  | _ => cases hresult

/-- A declared kind refuses nothing but blocks that are handed on. -/
theorem Call.Fits.refused_iff (h : call.Fits) (hf : call.function ∈ catalogue)
    (hop : call.function.body = .builtin op) (hrun : (op.run ev call.args c s).1 = .ok v) :
    op.result.accepts v.kind = false ↔ op.handsOn = true ∧ v.isBlock = true := by
  constructor
  · intro hrefused
    rcases op.result_cases with hprimitive | hvalue | hany
    · rw [op.kind_run hprimitive c s v hrun, Kind.accepts_self hprimitive] at hrefused
      cases hrefused
    · have hv : v.isBlock = true := by
        by_contra hv
        rw [hvalue, Token.value_accepts_kind (Bool.not_eq_true _ ▸ hv)] at hrefused
        cases hrefused
      exact ⟨Builtin.handsOn_of_origin (h.origin hf hop hvalue hrun hv), hv⟩
    · rw [hany, Token.any_accepts_kind] at hrefused
      cases hrefused
  · rintro ⟨hhands, hv⟩
    rw [Builtin.result_of_handsOn hhands]
    cases v with
    | block => exact (by decide : Kind.value.accepts Kind.token = false)
    | _ => cases hv

/-- **A call of a built-in gives what its signature refuses exactly when it hands on a block**, which is an element of
its list, what its path leads to, or what an evaluation gave that it asked for. -/
theorem returns_refused_iff {depth : Nat} {head : String} {children : List Token} (hb : OnlyBuiltins (s :: c.parents))
    (hp : prepare (evaluate depth) head children c s = (.ok (some call), s'))
    (hrun : (call.function.body.run (evaluate depth) call.args c s').1 = .ok v) :
    ∃ op, call.function.body = .builtin op ∧
      (call.function.signature.returns.accepts v.kind = false ↔ op.handsOn = true ∧ v.isBlock = true) ∧
      (op.handsOn = true → v.isBlock = true → op.Origin (evaluate depth) c s' call.args v) := by
  have hf := mem_catalogue_of_admitted hb (mem_admitted_of_prepare (keeps_evaluate depth) hb hp)
  have hfits := fits_of_prepare hp
  have hdeclares := declaresResult_of_mem_catalogue _ hf
  unfold Function.declaresResult at hdeclares
  split at hdeclares
  · next op hop =>
    rw [hop] at hrun
    refine ⟨op, hop, ?_, fun hhands hv => hfits.origin hf hop (Builtin.result_of_handsOn hhands) hrun hv⟩
    rw [eq_of_beq hdeclares]
    exact hfits.refused_iff hf hop hrun
  · cases hdeclares

end Call

/-! A block for which there is no function, evaluated in a scope of its own, is handed on as it is. -/

/-- The overload of `do` for a body alone. -/
def Function.scoped : Function :=
  ⟨⟨"do", [Kind.any], false, Kind.value, "Evaluate the body in a child scope", "(do ((set X 1) (+ (. X) 1)))"⟩,
    .builtin (.control .inScope)⟩

/-- A call of a function that there is not. -/
def unknownCall : Token := .block "frob" [.decimal 1]

theorem prepare_unknownCall : prepare (evaluate 2) "do" [unknownCall] ⟨{}, []⟩ (Interpreter.root {}).scope =
    (.ok (some ⟨.scoped, [unknownCall]⟩), (Interpreter.root {}).scope) := by cbv

theorem run_unknownCall : (Function.scoped.body.run (evaluate 2) [unknownCall] ⟨{}, []⟩ (Interpreter.root {}).scope).1 =
    .ok unknownCall := by cbv

theorem returns_refused_iff_unknownCall :
    let s := (Interpreter.root {}).scope
    OnlyBuiltins [s] ∧
      prepare (evaluate 2) "do" [unknownCall] ⟨{}, []⟩ s = (.ok (some ⟨.scoped, [unknownCall]⟩), s) ∧
      (Function.scoped.body.run (evaluate 2) [unknownCall] ⟨{}, []⟩ s).1 = .ok unknownCall ∧
      ∃ op, Function.scoped.body = .builtin op ∧
        (Function.scoped.signature.returns.accepts unknownCall.kind = false ↔
          op.handsOn = true ∧ unknownCall.isBlock = true) ∧
        (op.handsOn = true → unknownCall.isBlock = true →
          op.Origin (evaluate 2) ⟨{}, []⟩ s [unknownCall] unknownCall) := by
  have hb : OnlyBuiltins [(Interpreter.root {}).scope] := OnlyBuiltins.root {} (.map []) true
  exact ⟨hb, prepare_unknownCall, run_unknownCall,
    returns_refused_iff (c := ⟨{}, []⟩) hb prepare_unknownCall run_unknownCall⟩

/-- **Not every call of a built-in gives what its signature accepts**, in an interpreter with the built-ins only. -/
theorem not_returns_accepted :
    ¬ ∀ (i : Interpreter) (depth : Nat) (head : String) (children : List Token) (call : Call) (s : Scope) (v : Token),
      HasCatalogue i.chain →
      prepare (evaluate depth) head children ⟨i.config, i.parents⟩ i.scope = (.ok (some call), s) →
      (call.function.body.run (evaluate depth) call.args ⟨i.config, i.parents⟩ s).1 = .ok v →
        call.function.signature.returns.accepts v.kind = true := by
  intro h
  have haccepts := h (.root {}) 2 "do" [unknownCall] ⟨.scoped, [unknownCall]⟩ _ unknownCall
    (HasCatalogue.root {} (.map [])) prepare_unknownCall run_unknownCall
  have hrefused : Function.scoped.signature.returns.accepts unknownCall.kind = false := by decide
  exact absurd (haccepts.symm.trans hrefused) (by decide)

end RuleExpr
