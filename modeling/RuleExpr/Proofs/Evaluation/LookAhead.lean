import Mathlib
import RuleExpr.Proofs.Evaluation.Call

/-!
# The look-ahead is sound

What a block evaluates to is a block, or of a kind that the look-ahead names (`lookAhead_sound`). The look-ahead sees
the results of all functions that admit the arguments, and whichever of them is run gives what it declares; functions
that give back trees declare anything.
-/

namespace RuleExpr

/-! ## What the look-ahead names -/

section Returns

variable {chain : List Scope} {head : String} {children : List Token} {f : Function}

theorem foldl_union_includes (fs : List Function) (k : Kind) :
    let all := fs.foldl (fun k f => k.union f.signature.returns) k
    all.includes k = true ∧ ∀ f ∈ fs, all.includes f.signature.returns = true := by
  induction fs generalizing k with
  | nil => exact ⟨Kind.includes_self k, List.forall_mem_nil _⟩
  | cons g fs ih =>
    obtain ⟨hk, hf⟩ := ih (k.union g.signature.returns)
    exact ⟨Kind.includes_trans hk (Kind.union_includes_left _ _),
      List.forall_mem_cons.2 ⟨Kind.includes_trans hk (Kind.union_includes_right _ _), hf⟩⟩

/-- The results of a function that admits the arguments are among those named. -/
theorem lookAhead_includes (hh : head.isEmpty = false) (hf : f ∈ admitted chain head children.length) :
    ∃ k, lookAhead chain head children = .ok k ∧ k.includes f.signature.returns = true := by
  refine ⟨_, lookAhead_of_named hh (List.ne_nil_of_mem (mem_admitted hf).1), ?_⟩
  dsimp only
  split
  · exact Kind.any_includes _
  · exact (foldl_union_includes _ Kind.empty).2 f hf

/-- What is seen of a grouping is the atom that stands alone in it. -/
theorem lookAhead_of_isEmpty (hh : head.isEmpty = true) :
    lookAhead chain head children = .ok (
      match children with
      | [only] => if only.isBlock then Kind.any else only.kind
      | _ => Kind.any) := by
  unfold lookAhead
  rw [if_pos hh]
  rcases children with _ | ⟨only, _ | ⟨t, ts⟩⟩ <;> rfl

end Returns

/-! ## What evaluation gives -/

section Evaluation

variable {depth : Nat} {head : String} {children : List Token} {c : Context} {s s' : Scope} {t v : Token} {call : Call}

/-- All but blocks are their own values. -/
theorem evaluate_of_not_block (h : t.isBlock = false) : evaluate depth t = pure t := by
  cases t with
  | block => cases h
  | _ => cases depth <;> rfl

theorem fits_evaluateSequence (h : evaluateSequence (evaluate depth) .null children c s = (.ok v, s'))
    (hh : head.isEmpty = true) : ∃ k, lookAhead (s :: c.parents) head children = .ok k ∧ v.Fits k := by
  refine ⟨_, lookAhead_of_isEmpty hh, ?_⟩
  rcases children with _ | ⟨only, _ | ⟨t, ts⟩⟩
  · exact v.fits_any
  · cases ho : only.isBlock with
    | true => simpa only [ho, if_true] using v.fits_any
    | false =>
      rw [evaluateSequence, evaluate_of_not_block ho] at h
      cases h
      simpa only [ho, Bool.false_eq_true, if_false] using Token.fits_kind _
  · exact v.fits_any

/-- What a function of the catalogue gives is a block or of the kind that it declares. -/
theorem Function.fits_run {f : Function} {ev : Evaluator} {args : List Token} (hf : f ∈ catalogue) :
    (f.body.run ev args).Yields (Token.Fits f.signature.returns) := by
  have hd := declaresResult_of_mem_catalogue f hf
  unfold declaresResult at hd
  split at hd
  · next op he =>
    rw [he, eq_of_beq hd]
    exact op.fits_run
  · cases hd

/-- So is what a call gives, since a tree that is evaluated in turn comes from a function that declares anything. -/
theorem Call.fits_run {ev : Evaluator} (hf : call.function ∈ catalogue) (h : call.run ev c s = (.ok v, s')) :
    v.Fits call.function.signature.returns := by
  obtain ⟨w, s₁, hw, h'⟩ := Action.bind_eq_ok h
  split at h'
  · next hq =>
    have ha := quotesAny_of_mem_catalogue _ hf
    rw [Function.quotesAny, (Bool.and_eq_true_iff.1 hq).1, Bool.not_true, Bool.false_or, beq_iff_eq] at ha
    exact ha ▸ v.fits_any
  · cases h'
    exact Function.fits_run hf c s v (congrArg Prod.fst (Action.within_eq_ok hw))

theorem fits_evaluate (hb : OnlyBuiltins (s :: c.parents))
    (h : evaluate depth (.block head children) c s = (.ok v, s')) :
    ∃ k, lookAhead (s :: c.parents) head children = .ok k ∧ v.Fits k := by
  cases depth with
  | zero =>
    obtain ⟨config, s₁, -, h'⟩ := Action.bind_eq_ok h
    cases h'
  | succ depth =>
    simp only [evaluate, evaluateBlock] at h
    split at h
    · next hh =>
      split at h
      · cases h
        exact ⟨_, lookAhead_of_isEmpty hh, .inl rfl⟩
      · exact fits_evaluateSequence h hh
    · next hh =>
      have hh : head.isEmpty = false := Bool.not_eq_true _ ▸ hh
      obtain ⟨r, s₁, hp, h'⟩ := Action.bind_eq_ok h
      cases r with
      | none =>
        cases children with
        | nil =>
          have hr : lookAhead (s :: c.parents) head [] = (Token.infer head).map Token.kind :=
            lookAhead_of_unnamed hh (resolve_nil (prepare_eq_none hp))
          obtain ⟨hv, -⟩ := Action.ofExcept_eq_ok (c := c) h'
          exact ⟨v.kind, hr.trans (congrArg (Except.map Token.kind) hv), Token.fits_kind _⟩
        | cons t ts =>
          cases h'
          cases hn : functionsNamed (s :: c.parents) (Text.foldCase head) with
          | nil => exact ⟨_, lookAhead_of_unnamed hh hn, .inl rfl⟩
          | cons => exact ⟨_, lookAhead_of_named hh (hn ▸ List.cons_ne_nil _ _), .inl rfl⟩
      | some call =>
        have hm := mem_admitted_of_prepare (keeps_evaluate depth) hb hp
        have hv := call.fits_run (mem_catalogue_of_admitted hb hm) h'
        obtain ⟨k, hk, hreturns⟩ := lookAhead_includes hh hm
        exact ⟨k, hk, hv.imp id fun hkind => Kind.includes_trans hreturns hkind⟩

/-- **A block evaluates to a block, or to a value of a kind that the look-ahead names.** What evaluates at all can be
looked ahead at. -/
theorem lookAhead_sound (hb : OnlyBuiltins (s :: c.parents))
    (h : (evaluate depth (.block head children) c s).1 = .ok v) :
    ∃ k, lookAhead (s :: c.parents) head children = .ok k ∧ (v.isBlock = true ∨ k.includes v.kind = true) :=
  fits_evaluate hb (Prod.ext h rfl)

/-- Both overloads of a sum, that of strings in front, with access to names; one name has a value. -/
def sumScope : Scope :=
  { binding := .map [("X", .decimal 1)],
    functions := TextOperation.catalogue.take 2 ++ Arithmetic.catalogue.take 1 ++ BindingOperation.catalogue.take 1 }

theorem onlyBuiltins_sumScope : OnlyBuiltins [sumScope] := by
  refine List.forall_mem_singleton.2 fun f hf => ?_
  simp only [sumScope, List.mem_append] at hf
  simp only [catalogue, List.mem_append]
  rcases hf with (hf | hf) | hf
  all_goals
    have := List.mem_of_mem_take hf
    simp only [this, true_or, or_true]

/-- The value of a name could be a string or a decimal for the look-ahead. -/
theorem lookAhead_sound_sum :
    let children := [.block "." [.string "X"], .decimal 2]
    OnlyBuiltins [sumScope] ∧ (evaluate 2 (.block "+" children) ⟨{}, []⟩ sumScope).1 = .ok (.decimal 3) ∧
      ∃ k, lookAhead [sumScope] "+" children = .ok k ∧
        ((Token.decimal 3).isBlock = true ∨ k.includes (Token.decimal 3).kind = true) := by
  have hb := onlyBuiltins_sumScope
  have he : (evaluate 2 (.block "+" [.block "." [.string "X"], .decimal 2]) ⟨{}, []⟩ sumScope).1 =
      .ok (.decimal 3) := by cbv
  exact ⟨hb, he, lookAhead_sound (c := ⟨{}, []⟩) hb he⟩

end Evaluation

end RuleExpr
