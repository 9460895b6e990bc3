import RuleExpr.Proofs.Builtin.Quoting
import RuleExpr.Proofs.Evaluation.Coherence

/-!
# The choice for a block and the choice for values

`resolve` chooses for the children of a block and `redispatch` for evaluated arguments. On arguments that are no blocks
both look for the first function that admits them, but they judge quoting parameters differently: for a block such a
parameter has to accept the kind of the argument, for values it lets everything pass. So whatever `resolve` accepts is
accepted for values (`acceptsValues_of_acceptsKinds`), and `redispatch` may stop at an earlier function.

- **The two agree exactly where the function that is chosen for the values accepts the kinds of all of them**
  (`sameChoice_iff`); that they always agree is false (`not_sameChoice_token`);
- they agree where quoting parameters are declared `Any`, hence on all built-ins (`sameChoice_of_onlyBuiltins`).
-/

namespace RuleExpr

variable {chain : List Scope} {name : String} {args : List Token} {signature : Signature} {f : Function}

/-- Both ways of choosing give the same function for a name and arguments, or both give none. -/
def SameChoice (chain : List Scope) (name : String) (args : List Token) : Prop :=
  (∀ f, redispatch chain name args = .ok f ↔ resolve chain name args = .ok (some f)) ∧
    ((∃ e, redispatch chain name args = .error e) ↔
      resolve chain name args = .ok none ∨ ∃ e, resolve chain name args = .error e)

/-! ## Accepted values -/

/-- What accepts the kinds accepts the values. -/
theorem acceptsValues_of_acceptsKinds (h : acceptsKinds signature args = true) :
    acceptsValues signature args = true := by
  rw [acceptsKinds_iff] at h
  rw [acceptsValues_iff]
  intro i v hi
  exact .inr (h i v hi)

/-- For arguments that are no blocks, `resolve` goes by their kinds. -/
theorem resolve_eq_some_of_values (hv : ∀ v ∈ args, v.isBlock = false) : resolve chain name args = .ok (some f) ↔
    (admitted chain name args.length).find? (fun f => acceptsKinds f.signature args) = some f := by
  rw [resolve_eq_some, findM?_eq_ok fun f _ => acceptsChildren_eq_acceptsKinds hv, Except.ok.injEq]

/-- Where a block is resolved, a function for its values is found as well. -/
theorem exists_redispatch (hv : ∀ v ∈ args, v.isBlock = false) (h : resolve chain name args = .ok (some f)) :
    ∃ g, redispatch chain name args = .ok g := by
  rw [resolve_eq_some_of_values hv] at h
  have hf := List.find?_some (p := fun f : Function => acceptsKinds f.signature args) h
  have hex : ((admitted chain name args.length).find? fun f => acceptsValues f.signature args).isSome = true := by
    rw [List.find?_isSome]
    exact ⟨f, List.mem_of_find?_eq_some h, acceptsValues_of_acceptsKinds hf⟩
  obtain ⟨g, hg⟩ := Option.isSome_iff_exists.1 hex
  exact ⟨g, redispatch_eq_ok.2 hg⟩

/-- The function for the values is the one that is resolved, if it accepts their kinds. -/
theorem resolve_of_redispatch (hv : ∀ v ∈ args, v.isBlock = false) (h : redispatch chain name args = .ok f)
    (hk : acceptsKinds f.signature args = true) : resolve chain name args = .ok (some f) := by
  rw [resolve_eq_some_of_values hv]
  exact find?_of_imp (redispatch_eq_ok.1 h) hk fun g _ hg => acceptsValues_of_acceptsKinds hg

/-! ## Agreement -/

/-- If the choices of a function agree, so do the failures. -/
theorem sameChoice_of_forall
    (h : ∀ f, redispatch chain name args = .ok f ↔ resolve chain name args = .ok (some f)) :
    SameChoice chain name args := by
  refine ⟨h, ?_⟩
  cases hr : resolve chain name args with
  | error e =>
    cases hd : redispatch chain name args with
    | error e' => simp
    | ok f => exact absurd ((h f).1 hd) (by simp [hr])
  | ok r =>
    cases r with
    | none =>
      cases hd : redispatch chain name args with
      | error e' => simp
      | ok f => exact absurd ((h f).1 hd) (by simp [hr])
    | some f => simp [(h f).2 hr]

/-- Where the function for the values accepts their kinds, it is the one that is resolved. -/
theorem sameChoice_of_acceptsKinds (hv : ∀ v ∈ args, v.isBlock = false)
    (h : ∀ f, redispatch chain name args = .ok f → acceptsKinds f.signature args = true) :
    SameChoice chain name args := by
  refine sameChoice_of_forall fun f => ⟨fun hf => resolve_of_redispatch hv hf (h f hf), fun hr => ?_⟩
  obtain ⟨g, hg⟩ := exists_redispatch hv hr
  have hgr := resolve_of_redispatch hv hg (h g hg)
  obtain rfl : g = f := by
    rw [hr] at hgr
    simpa using hgr.symm
  exact hg

/-- **The choices agree exactly where the function for the values accepts the kinds of all of them.** -/
theorem sameChoice_iff (hv : ∀ v ∈ args, v.isBlock = false) : SameChoice chain name args ↔
    ∀ f, redispatch chain name args = .ok f → acceptsKinds f.signature args = true := by
  refine ⟨fun h f hf => ?_, sameChoice_of_acceptsKinds hv⟩
  have hr := (h.1 f).1 hf
  rw [resolve_eq_some_of_values hv] at hr
  exact List.find?_some (p := fun f : Function => acceptsKinds f.signature args) hr

/-- A function for decimals in front of one for blocks. -/
def blockScope : Scope :=
  let first (args : List Token) : Program := .done (.ok (args.headD .null))
  { functions := [⟨{ name := "f", parameters := [Kind.decimal] }, .host first⟩,
      ⟨{ name := "f", parameters := [Kind.token] }, .host first⟩] }

/-- The function for decimals is chosen for a decimal either way. -/
theorem sameChoice_iff_decimal :
    (∀ v ∈ [Token.decimal 1], v.isBlock = false) ∧ SameChoice [blockScope] "f" [.decimal 1] := by
  have hv : ∀ v ∈ [Token.decimal 1], v.isBlock = false := by simp [Token.isBlock]
  refine ⟨hv, (sameChoice_iff hv).2 fun f hf => ?_⟩
  cases hf
  decide

/-- **The choices can differ**: a parameter for blocks lets a string pass that has been evaluated. -/
theorem not_sameChoice_token :
    ¬ ∀ (chain : List Scope) (name : String) (args : List Token), (∀ v ∈ args, v.isBlock = false) →
      SameChoice chain name args := by
  intro h
  have hs := h [blockScope] "f" [.string "s"] (by simp [Token.isBlock])
  have hn : resolve [blockScope] "f" [.string "s"] = .ok none := by cbv
  obtain ⟨e, he⟩ := hs.2.2 (.inl hn)
  cases he

/-! ## Quoting parameters of any kind -/

/-- Whether every parameter that quotes is declared `Any`. -/
def Signature.quotesAnyOnly (s : Signature) : Bool := s.parameters.all fun k => !k.quotes || k == Kind.any

theorem Signature.parameterKind_of_quotesAnyOnly {i : Nat} (h : signature.quotesAnyOnly = true)
    (hq : signature.quotes i = true) : signature.parameterKind i = Kind.any := by
  have hp : signature.parameters ≠ [] := by
    intro hp
    have he : signature.evaluatesAll = true := by simp [evaluatesAll, hp]
    rw [quotes_of_evaluatesAll he] at hq
    cases hq
  have hk := List.all_eq_true.1 h _ (parameterKind_mem hp i)
  rw [quotes] at hq
  simpa [hq] using hk

theorem acceptsKinds_of_quotesAnyOnly (h : signature.quotesAnyOnly = true)
    (ha : acceptsValues signature args = true) : acceptsKinds signature args = true := by
  rw [acceptsValues_iff] at ha
  rw [acceptsKinds_iff]
  intro i v hi
  rcases ha i v hi with hq | hk
  · rw [Signature.parameterKind_of_quotesAnyOnly h hq]
    exact v.any_accepts_kind
  · exact hk

theorem sameChoice_of_quotesAnyOnly (hv : ∀ v ∈ args, v.isBlock = false)
    (h : ∀ f ∈ admitted chain name args.length, f.signature.quotesAnyOnly = true) : SameChoice chain name args := by
  refine sameChoice_of_acceptsKinds hv fun f hf => ?_
  have hfind := redispatch_eq_ok.1 hf
  have ha := List.find?_some (p := fun f : Function => acceptsValues f.signature args) hfind
  exact acceptsKinds_of_quotesAnyOnly (h f (List.mem_of_find?_eq_some hfind)) ha

theorem quotesAnyOnly_of_mem_catalogue : ∀ f ∈ catalogue, f.signature.quotesAnyOnly = true := by
  decide

/-- **Among built-in functions the choices agree.** -/
theorem sameChoice_of_onlyBuiltins (hb : OnlyBuiltins chain) (hv : ∀ v ∈ args, v.isBlock = false) :
    SameChoice chain name args :=
  sameChoice_of_quotesAnyOnly hv fun _ hf => quotesAnyOnly_of_mem_catalogue _ (mem_catalogue_of_admitted hb hf)

end RuleExpr
