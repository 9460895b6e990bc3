import RuleExpr.Proofs.Dispatch
import RuleExpr.Proofs.Evaluation.Frame
import RuleExpr.Proofs.Builtin.Results

/-!
# Calls

- what is chosen depends on the functions only that are visible under the names that a tree calls (`Alike`), and is one
  of them that admits the arguments (`resolve_eq_some`, `redispatch_eq_ok`);
- a call that is ready to be run has the arguments evaluated and is of the function resolved, if that accepts the
  values, or of the one chosen for them (`prepare_eq_some`), which accepts them, too (`accepts_of_prepare`);
- **evaluation follows every development that its calls follow** (`follows_evaluate`), so with built-ins only it leaves
  the functions as they are (`keeps_evaluate`);
- an interpreter evaluates what it is asked to, or in a dry run validates it (`Interpreter.evaluate_of_dryRun`,
  `Interpreter.evaluate_of_not_dryRun`).
-/

namespace RuleExpr

/-! ## Accepted arguments -/

section Accepted

variable {chain : List Scope} {signature : Signature} {children args : List Token}

theorem forall_mem_zipIdx {α : Type} {l : List α} {P : α × Nat → Prop} :
    (∀ x ∈ l.zipIdx, P x) ↔ ∀ i a, l[i]? = some a → P (a, i) := by
  constructor
  · intro h i a hi
    exact h (a, i) (List.mem_zipIdx_iff_getElem?.2 hi)
  · intro h x hx
    exact h x.2 x.1 (List.mem_zipIdx_iff_getElem?.1 hx)

/-- A child that is judged by one parameter is judged by every other one that quotes when that does. -/
theorem exists_acceptsChild {k k' : Kind} {t : Token} {r : Bool} (h : acceptsChild chain k t = .ok r)
    (hq : k'.quotes = k.quotes) : ∃ r, acceptsChild chain k' t = .ok r := by
  cases t with
  | block head children =>
    rw [acceptsChild] at h ⊢
    rw [hq]
    split at h
    · next hquotes => exact ⟨true, if_pos hquotes⟩
    · next hquotes =>
      obtain ⟨k'', hk, -⟩ := map_eq_ok h
      exact ⟨k'.accepts k'', by rw [if_neg hquotes, hk]; rfl⟩
  | _ => exact ⟨_, rfl⟩

theorem acceptsChildren_iff : acceptsChildren chain signature children = .ok true ↔
    ∀ i t, children[i]? = some t → acceptsChild chain (signature.parameterKind i) t = .ok true := by
  rw [acceptsChildren, allM_eq_true_iff]
  exact forall_mem_zipIdx

/-- Children that are accepted are judged by every signature that quotes the same ones. -/
theorem exists_acceptsChildren {signature' : Signature} (h : acceptsChildren chain signature children = .ok true)
    (hq : ∀ i, signature'.quotes i = signature.quotes i) : ∃ r, acceptsChildren chain signature' children = .ok r :=
  exists_allM_eq_ok (forall_mem_zipIdx.2 fun i t hi => exists_acceptsChild (acceptsChildren_iff.1 h i t hi) (hq i))

theorem acceptsValues_iff : acceptsValues signature args = true ↔
    ∀ i v, args[i]? = some v → signature.quotes i = true ∨ (signature.parameterKind i).accepts v.kind = true := by
  rw [acceptsValues, List.all_eq_true, forall_mem_zipIdx]
  simp only [Bool.or_eq_true]

end Accepted

/-! ## Overloads -/

section Congruence

open Token (Tree)

variable {call : String → Nat → Prop} {held : String → List Token → Prop} {chain chain' : List Scope} {head : String}
  {children args : List Token} {count : Nat} {t : Token}

/-- The same functions are visible under the names that are called. -/
def Alike (call : String → Nat → Prop) (chain chain' : List Scope) : Prop :=
  ∀ key count, call key count → functionsNamed chain' key = functionsNamed chain key

namespace Alike

theorem acceptsChild (h : Alike call chain chain') (ht : Tree call held t) (parameter : Kind) :
    acceptsChild chain' parameter t = acceptsChild chain parameter t := by
  cases t with
  | block head children => simp only [RuleExpr.acceptsChild, lookAhead, h _ _ ht.calls]
  | _ => rfl

theorem acceptsChildren (h : Alike call chain chain') (hts : ∀ t ∈ children, Tree call held t)
    (signature : Signature) : acceptsChildren chain' signature children = acceptsChildren chain signature children := by
  refine allM_congr (forall_mem_zipIdx.2 fun i t hi => ?_)
  exact h.acceptsChild (hts t (List.mem_of_getElem? hi)) _

/-- A block calls the same function. -/
theorem resolve (h : Alike call chain chain') (ht : Tree call held (.block head children)) :
    resolve chain' head children = resolve chain head children := by
  simp only [RuleExpr.resolve, h _ _ ht.calls, h.acceptsChildren ht.of_block]

theorem redispatch (h : Alike call chain chain') (hc : call (Text.foldCase head) count) :
    redispatch chain' head args = redispatch chain head args := by
  simp only [RuleExpr.redispatch, h _ _ hc]

theorem validateAll {ts : List Token} (h : ∀ t ∈ ts, validate chain' t = validate chain t) :
    validateAll chain' ts = validateAll chain ts := by
  induction ts with
  | nil => rfl
  | cons t ts ih =>
    obtain ⟨ht, hts⟩ := List.forall_mem_cons.1 h
    rw [RuleExpr.validateAll, RuleExpr.validateAll, ht, ih hts]

theorem validateArguments {ts : List Token} (h : ∀ t ∈ ts, validate chain' t = validate chain t)
    (signature : Signature) (i : Nat) :
    validateArguments chain' signature i ts = validateArguments chain signature i ts := by
  induction ts generalizing i with
  | nil => rfl
  | cons t ts ih =>
    obtain ⟨ht, hts⟩ := List.forall_mem_cons.1 h
    rw [RuleExpr.validateArguments, RuleExpr.validateArguments, ht, ih hts]

/-- The same calls of a tree are refused. -/
theorem validate (h : Alike call chain chain') (ht : Tree call held t) : validate chain' t = validate chain t := by
  induction ht with
  | @leaf t hb _ =>
    cases t with
    | block => cases hb
    | _ => rfl
  | block hc hts ih =>
    rw [RuleExpr.validate, RuleExpr.validate, validateAll ih, h.resolve (.block hc hts)]
    simp only [validateArguments ih]

end Alike

end Congruence

section Overloads

variable {chain parents : List Scope} {s s' : Scope} {head : String} {children args : List Token} {f : Function}

theorem functionsNamed_congr (h : s'.functions = s.functions) (key : String) :
    functionsNamed (s' :: parents) key = functionsNamed (s :: parents) key := by
  simp only [functionsNamed, List.flatMap_cons, h]

/-- Only the functions of a scope matter. -/
theorem alike_of_functions_eq (h : s'.functions = s.functions) :
    Alike (fun _ _ => True) (s :: parents) (s' :: parents) := fun key _ _ => functionsNamed_congr h key

theorem lookAhead_congr (h : s'.functions = s.functions) :
    lookAhead (s' :: parents) head children = lookAhead (s :: parents) head children := by
  simp only [lookAhead, functionsNamed_congr h]

theorem resolve_congr (h : s'.functions = s.functions) :
    resolve (s' :: parents) head children = resolve (s :: parents) head children :=
  (alike_of_functions_eq h).resolve (.unrestricted _)

theorem admitted_congr (h : s'.functions = s.functions) (count : Nat) :
    admitted (s' :: parents) head count = admitted (s :: parents) head count := by
  simp only [admitted, functionsNamed_congr h]

theorem mem_admitted {count : Nat} (h : f ∈ admitted chain head count) :
    f ∈ functionsNamed chain (Text.foldCase head) ∧ f.signature.admits count = true := List.mem_filter.1 h

/-- If there is a function that admits the children, the first that accepts them is called. -/
theorem resolve_of_mem_admitted (hf : f ∈ admitted chain head children.length) : resolve chain head children =
    (admitted chain head children.length).findM? fun f => acceptsChildren chain f.signature children := by
  obtain ⟨hm, ha⟩ := mem_admitted hf
  rw [resolve, select_eq, if_neg]
  · rfl
  · rintro ⟨-, -, hnone⟩
    rw [hnone f hm] at ha
    cases ha

/-- The function that a block calls is the first that accepts its children. -/
theorem resolve_eq_some : resolve chain head children = .ok (some f) ↔
    (admitted chain head children.length).findM? (fun f => acceptsChildren chain f.signature children) =
      .ok (some f) := by
  rw [resolve, select_eq]
  split
  · next h =>
    have hnone : admitted chain head children.length = [] :=
      List.filter_eq_nil_iff.2 fun f hf => Bool.eq_false_iff.1 (h.2.2 f hf)
    rw [hnone]
    exact iff_of_false nofun nofun
  · rfl

/-- What a block calls admits its children and accepts them. -/
theorem mem_admitted_of_resolve (h : resolve chain head children = .ok (some f)) :
    f ∈ admitted chain head children.length ∧ acceptsChildren chain f.signature children = .ok true := by
  obtain ⟨ha, before, after, he, -⟩ := findM?_eq_some_iff.1 (resolve_eq_some.1 h)
  exact ⟨he ▸ List.mem_append_right before List.mem_cons_self, ha⟩

/-- The function for evaluated arguments is the first that accepts them. -/
theorem redispatch_eq_ok : redispatch chain head args = .ok f ↔
    (admitted chain head args.length).find? (fun f => acceptsValues f.signature args) = some f := by
  rw [redispatch_eq]
  split
  · next h => simp only [h, Except.ok.injEq, Option.some.injEq]
  · next h => simp only [h, reduceCtorEq]

/-- Where a function refuses the values, the reason is the kind of one of them. -/
theorem firstMismatch_of_refused {signature : Signature} (h : acceptsValues signature args = false) :
    (firstMismatch signature args).isSome = true := by
  by_contra hnone
  rw [Option.not_isSome_iff_eq_none, firstMismatch, List.findSome?_eq_none_iff] at hnone
  have ha : acceptsValues signature args = true := by
    rw [acceptsValues_iff]
    intro i v hi
    have := hnone (v, i) (List.mem_zipIdx_iff_getElem?.2 hi)
    dsimp only at this
    split at this
    · next haccepts => exact .inr haccepts
    · cases this
  rw [ha] at h
  cases h

theorem eq_kindMismatch_of_firstMismatch {signature : Signature} {e : Error}
    (h : firstMismatch signature args = some e) : ∃ expected found, e = .kindMismatch signature.render expected found := by
  obtain ⟨⟨v, i⟩, -, he⟩ := List.exists_of_findSome?_eq_some h
  dsimp only at he
  split at he
  · cases he
  · cases he
    exact ⟨_, _, rfl⟩

/-- Where all functions to choose from refuse the values, the first of them says why. -/
theorem redispatch_of_refused (hf : f ∈ admitted chain head args.length)
    (h : ∀ g ∈ admitted chain head args.length, acceptsValues g.signature args = false) :
    ∃ g ∈ admitted chain head args.length, ∃ expected found,
      redispatch chain head args = .error (.kindMismatch g.signature.render expected found) := by
  have hnone : (admitted chain head args.length).find? (fun g => acceptsValues g.signature args) = none := by
    rw [List.find?_eq_none]
    intro g hg
    rw [h g hg]
    exact Bool.false_ne_true
  have hsome : ((admitted chain head args.length).findSome? fun g => firstMismatch g.signature args).isSome = true := by
    rw [List.findSome?_isSome_iff]
    exact ⟨f, hf, firstMismatch_of_refused (h f hf)⟩
  obtain ⟨e, he⟩ := Option.isSome_iff_exists.1 hsome
  obtain ⟨g, hg, hge⟩ := List.exists_of_findSome?_eq_some he
  obtain ⟨expected, found, rfl⟩ := eq_kindMismatch_of_firstMismatch hge
  exact ⟨g, hg, expected, found, by simp only [redispatch_eq, hnone, he, Option.getD_some]⟩

/-- A call without arguments is refused or of some function, if there is one with its name. -/
theorem resolve_nil (h : resolve chain head [] = .ok none) : functionsNamed chain (Text.foldCase head) = [] := by
  rw [resolve, select_eq] at h
  split at h
  · cases h
  · next hne =>
    -- a signature accepts no arguments, so none admits them, and that is an error unless there is none
    rw [findM?_eq_none_iff] at h
    by_contra hnil
    refine hne ⟨.inr hnil, rfl, fun f hf => Bool.eq_false_iff.2 fun ha => ?_⟩
    cases h f (List.mem_filter.2 ⟨hf, ha⟩)

/-- A block whose head names no function stays as it is. -/
theorem resolve_of_unnamed (h : functionsNamed chain (Text.foldCase head) = []) (children : List Token) :
    resolve chain head children = .ok none := by
  rw [resolve, h]
  rfl

/-- What is chosen from has the name of the head, in some case. -/
theorem key_of_admitted {count : Nat} (h : f ∈ admitted chain head count) : f.signature.key = Text.foldCase head := by
  obtain ⟨s, -, hf⟩ := List.mem_flatMap.1 (mem_admitted h).1
  exact eq_of_beq (List.mem_filter.1 hf).2

theorem mem_catalogue_of_admitted {count : Nat} (hb : OnlyBuiltins chain) (h : f ∈ admitted chain head count) :
    f ∈ catalogue :=
  hb.of_functionsNamed f (mem_admitted h).1

end Overloads

/-! ## Calls that are ready to be run -/

namespace Action

variable {α β : Type} {c : Context} {s s' : Scope}

theorem bind_of_ok {x : Action α} {a : α} (h : x c s = (.ok a, s')) (f : α → Action β) : (x >>= f) c s = f a c s' := by
  show Action.bind x f c s = f a c s'
  rw [Action.bind, h]

theorem bind_of_error {x : Action α} {e : Error} (h : x c s = (.error e, s')) {f : α → Action β} :
    (x >>= f) c s = (.error e, s') := by
  show Action.bind x f c s = _
  rw [Action.bind, h]

protected theorem id_map (x : Action α) : id <$> x = x := by
  funext c s
  show Action.bind x _ c s = x c s
  unfold Action.bind
  split <;> next h => exact h.symm

protected theorem bind_assoc {γ : Type} (x : Action α) (f : α → Action β) (g : β → Action γ) :
    x >>= f >>= g = x >>= fun a => f a >>= g := by
  funext c s
  show Action.bind (Action.bind x f) g c s = Action.bind x _ c s
  unfold Action.bind
  cases x c s with
  | mk r s' => cases r <;> rfl

instance : LawfulMonad Action := .mk' Action Action.id_map (fun _ _ => rfl) Action.bind_assoc

/-- What follows an action matters only for the value that it gives, and in the scope that it leaves. -/
theorem bind_congr {x : Action α} {f g : α → Action β}
    (h : ∀ a s', x c s = (.ok a, s') → f a c s' = g a c s') : (x >>= f) c s = (x >>= g) c s := by
  show Action.bind x f c s = Action.bind x g c s
  unfold Action.bind
  split
  · next a s' hx => exact h a s' hx
  · rfl

theorem bind_congr_left {x y : Action α} (h : x c s = y c s) (f : α → Action β) : (x >>= f) c s = (y >>= f) c s := by
  show Action.bind x f c s = Action.bind y f c s
  rw [Action.bind, Action.bind, h]

/-- Actions that leave the scope as it is compose like their results. -/
theorem bind_steady {x : Action α} {r : Except Error α} {f : α → Action β} {g : α → Except Error β}
    (hx : x c s = (r, s)) (hf : ∀ a, f a c s = (g a, s)) : (x >>= f) c s = (r >>= g, s) := by
  cases r with
  | ok a =>
    rw [bind_of_ok hx, hf]
    rfl
  | error e => exact bind_of_error hx

theorem within_eq (signature : Signature) (x : Action α) :
    within signature x c s = ((x c s).1.mapError (.call signature.render), (x c s).2) := by
  unfold within
  split <;> next h => rw [h]; rfl

theorem within_steady {x : Action α} {r : Except Error α} (signature : Signature) (hx : x c s = (r, s)) :
    within signature x c s = (r.mapError (.call signature.render), s) := by
  rw [within_eq, hx]

/-- Two actions succeed when the one does and then the other. -/
theorem bind_eq_ok {x : Action α} {f : α → Action β} {b : β} (h : (x >>= f) c s = (.ok b, s')) :
    ∃ a s₁, x c s = (.ok a, s₁) ∧ f a c s₁ = (.ok b, s') := by
  change Action.bind x f c s = _ at h
  unfold Action.bind at h
  split at h
  · next a s₁ he => exact ⟨a, s₁, he, h⟩
  · cases h

theorem ofExcept_eq_ok {r : Except Error α} {a : α} (h : ofExcept r c s = (.ok a, s')) : r = .ok a ∧ s' = s :=
  ⟨congrArg Prod.fst h, (congrArg Prod.snd h).symm⟩

theorem within_eq_ok {signature : Signature} {x : Action α} {a : α} (h : within signature x c s = (.ok a, s')) :
    x c s = (.ok a, s') := by
  unfold within at h
  split at h
  · next he => exact he.trans h
  · cases h

theorem chain_eq_ok {chain : List Scope} (h : Action.chain c s = (.ok chain, s')) :
    chain = s :: c.parents ∧ s' = s := by
  cases h
  exact ⟨rfl, rfl⟩

end Action

section Prepared

variable {ev : Evaluator} {head : String} {children : List Token} {c : Context} {s s' : Scope} {call : Call}

/-- **The function of a call is the one resolved, or chosen for the values of the arguments.** -/
theorem prepare_eq_some (h : prepare ev head children c s = (.ok (some call), s')) :
    ∃ f, resolve (s :: c.parents) head children = .ok (some f) ∧
      evaluateArguments ev f.signature 0 children c s = (.ok call.args, s') ∧
      (acceptsValues f.signature call.args = true ∧ call.function = f ∨
        acceptsValues f.signature call.args = false ∧
          redispatch (s' :: c.parents) head call.args = .ok call.function) := by
  obtain ⟨_, _, hc, h⟩ := Action.bind_eq_ok h
  obtain ⟨rfl, rfl⟩ := Action.chain_eq_ok hc
  obtain ⟨r, _, hr, h⟩ := Action.bind_eq_ok h
  obtain ⟨hr, rfl⟩ := Action.ofExcept_eq_ok hr
  cases r with
  | none => cases h
  | some f =>
    obtain ⟨args, s₁, ha, h⟩ := Action.bind_eq_ok h
    split at h
    · next hv =>
      cases h
      exact ⟨f, hr, ha, .inl ⟨hv, rfl⟩⟩
    · next hv =>
      obtain ⟨_, _, hc, h'⟩ := Action.bind_eq_ok h
      obtain ⟨rfl, rfl⟩ := Action.chain_eq_ok hc
      obtain ⟨g, _, hg, h''⟩ := Action.bind_eq_ok h'
      obtain ⟨hg, rfl⟩ := Action.ofExcept_eq_ok hg
      cases h''
      exact ⟨f, hr, ha, .inr ⟨Bool.not_eq_true _ ▸ hv, hg⟩⟩

/-- Where no function is resolved, nothing is evaluated. -/
theorem prepare_of_none (h : resolve (s :: c.parents) head children = .ok none) :
    prepare ev head children c s = (.ok none, s) := by
  rw [prepare, Action.bind_of_ok (a := s :: c.parents) rfl, h]
  rfl

theorem prepare_of_error {e : Error} (h : resolve (s :: c.parents) head children = .error e) :
    prepare ev head children c s = (.error e, s) := by
  rw [prepare, Action.bind_of_ok (a := s :: c.parents) rfl, h]
  rfl

/-- Where a function is resolved, its arguments are evaluated and it is kept if it accepts them. -/
theorem prepare_of_some {f : Function} (h : resolve (s :: c.parents) head children = .ok (some f)) :
    prepare ev head children c s = (do
      let args ← evaluateArguments ev f.signature 0 children
      if acceptsValues f.signature args then pure (some ⟨f, args⟩)
      else do
        let chain ← Action.chain
        let g ← Action.ofExcept (redispatch chain head args)
        pure (some ⟨g, args⟩) : Action (Option Call)) c s := by
  rw [prepare, Action.bind_of_ok (a := s :: c.parents) rfl, h]
  rfl

/-- A block stays as it is when no function is resolved. -/
theorem prepare_eq_none (h : prepare ev head children c s = (.ok none, s')) :
    resolve (s :: c.parents) head children = .ok none := by
  obtain ⟨_, _, hc, h⟩ := Action.bind_eq_ok h
  obtain ⟨rfl, rfl⟩ := Action.chain_eq_ok hc
  obtain ⟨r, _, hr, h⟩ := Action.bind_eq_ok h
  obtain ⟨hr, rfl⟩ := Action.ofExcept_eq_ok hr
  cases r with
  | none => exact hr
  | some f =>
    obtain ⟨args, s₁, ha, h⟩ := Action.bind_eq_ok h
    split at h
    · cases h
    · obtain ⟨_, _, hc, h⟩ := Action.bind_eq_ok h
      obtain ⟨g, s₂, hg, h⟩ := Action.bind_eq_ok h
      cases h

end Prepared

/-! ## Evaluation -/

section Arguments

variable {ev : Evaluator} {c : Context} {s s' : Scope} {signature : Signature}

/-- An argument that is quoted is passed as it is, any other is evaluated. -/
def evaluateArgument (ev : Evaluator) (signature : Signature) (i : Nat) (t : Token) : Action Token :=
  if signature.quotes i then pure t else Action.within signature (ev t)

theorem evaluateArguments_cons (i : Nat) (t : Token) (ts : List Token) :
    evaluateArguments ev signature i (t :: ts) = (do
      let v ← evaluateArgument ev signature i t
      let vs ← evaluateArguments ev signature (i + 1) ts
      pure (v :: vs)) := by
  rw [evaluateArguments, evaluateArgument]
  split <;> rfl

theorem length_of_evaluateArguments {i : Nat} {ts vs : List Token}
    (h : evaluateArguments ev signature i ts c s = (.ok vs, s')) : vs.length = ts.length := by
  induction ts generalizing i vs s s' with
  | nil =>
    cases h
    rfl
  | cons t ts ih =>
    rw [evaluateArguments_cons] at h
    obtain ⟨v, s₁, -, h₁⟩ := Action.bind_eq_ok h
    obtain ⟨us, s₂, hu, h₂⟩ := Action.bind_eq_ok h₁
    cases h₂
    rw [List.length_cons, List.length_cons, ih hu]

theorem Evaluator.length_of_all {ts vs : List Token} (h : ev.all ts c s = (.ok vs, s')) : vs.length = ts.length := by
  induction ts generalizing vs s with
  | nil =>
    cases h
    rfl
  | cons t ts ih =>
    obtain ⟨v, s₁, -, h₁⟩ := Action.bind_eq_ok h
    obtain ⟨us, s₂, hus, h₂⟩ := Action.bind_eq_ok h₁
    cases h₂
    rw [List.length_cons, List.length_cons, ih hus]

/-- **The function of a call admits as many arguments as it is run with, and accepts them.** -/
theorem accepts_of_prepare {head : String} {children : List Token} {call : Call}
    (h : prepare ev head children c s = (.ok (some call), s')) :
    call.function.signature.admits call.args.length = true ∧
      acceptsValues call.function.signature call.args = true := by
  obtain ⟨f, hf, ha, ⟨hv, rfl⟩ | ⟨-, hg⟩⟩ := prepare_eq_some h
  · have hm := (mem_admitted_of_resolve hf).1
    rw [← length_of_evaluateArguments ha] at hm
    exact ⟨(mem_admitted hm).2, hv⟩
  · have hfind := redispatch_eq_ok.1 hg
    exact ⟨(mem_admitted (List.mem_of_find?_eq_some hfind)).2,
      List.find?_some (p := fun g : Function => acceptsValues g.signature call.args) hfind⟩

end Arguments

section Follows

open RuleExpr.Action (Follows)

variable {R : Context → Scope → Scope → Prop} [Development R] {ev : Evaluator} {head : String}
  {children : List Token} {signature : Signature}

theorem follows_evaluateArgument (h : ev.Follows R) (i : Nat) (t : Token) :
    Follows R (evaluateArgument ev signature i t) := by
  unfold evaluateArgument
  split
  · exact .pure _
  · exact .within _ (h t)

theorem follows_evaluateArguments (h : ev.Follows R) (i : Nat) (ts : List Token) :
    Follows R (evaluateArguments ev signature i ts) := by
  induction ts generalizing i with
  | nil => exact .pure _
  | cons t ts ih =>
    rw [evaluateArguments_cons]
    exact .bind (follows_evaluateArgument h i t) fun _ => .bind (ih (i + 1)) fun _ => .pure _

theorem follows_prepare (h : ev.Follows R) : Follows R (prepare ev head children) := by
  refine .bind .chain fun _ => .bind (.ofExcept _) fun r => ?_
  cases r with
  | none => exact .pure _
  | some f =>
    refine .bind (follows_evaluateArguments h 0 children) fun args => ?_
    split
    · exact .pure _
    · exact .bind .chain fun _ => .bind (.ofExcept _) fun _ => .pure _

/-- A call follows what its body follows, as what the body gives back is evaluated. -/
theorem Call.follows_run (h : ev.Follows R) {call : Call} (hbody : Follows R (call.function.body.run ev call.args)) :
    Follows R (call.run ev) := by
  refine .bind (.within _ hbody) fun v => ?_
  split
  · exact h v
  · exact .pure _

theorem follows_evaluateSequence (h : ev.Follows R) (last : Token) (ts : List Token) :
    Follows R (evaluateSequence ev last ts) := by
  induction ts generalizing last with
  | nil => exact .pure _
  | cons t ts ih => exact .bind (h t) ih

variable (R) in
/-- Whatever call a block makes, running it takes the scope along from where it was before the arguments. -/
def CallsFollow : Prop := ∀ {ev : Evaluator} {head : String} {children : List Token} {c : Context} {s s' : Scope}
  {call : Call}, ev.Follows R → prepare ev head children c s = (.ok (some call), s') → R c s (call.run ev c s').2

theorem follows_evaluateBlock (hcalls : CallsFollow R) (h : ev.Follows R) :
    Follows R (evaluateBlock ev head children) := by
  unfold evaluateBlock
  split
  · split
    · exact .pure _
    · exact follows_evaluateSequence h _ _
  · refine .bind_of (follows_prepare h) fun c s r s' he => ?_
    cases r with
    | none =>
      have hs : R c s s' := (follows_prepare h).of_run he
      dsimp only
      split <;> exact hs
    | some call => exact hcalls h he

/-- **Evaluation follows what all calls follow.** -/
theorem follows_evaluate (hcalls : CallsFollow R) (depth : Nat) : Evaluator.Follows R (evaluate depth) := by
  induction depth with
  | zero =>
    intro t
    cases t with
    | block => exact .bind .config fun _ => .fail _
    | _ => exact .pure _
  | succ depth ih =>
    intro t
    cases t with
    | block head children => exact follows_evaluateBlock hcalls ih
    | _ => exact .pure _

end Follows

/-! ## The functions stay -/

section Keeps

open RuleExpr.Action (Keeps)

variable {ev : Evaluator} {head : String} {children : List Token} {c : Context} {s s' : Scope} {call : Call}
  {signature : Signature}

theorem keeps_evaluateArguments (h : ev.Keeps) (i : Nat) (ts : List Token) :
    Keeps (evaluateArguments ev signature i ts) :=
  follows_evaluateArguments (R := SameFunctions) h i ts

/-- The function of a call is a visible one that admits the arguments. -/
theorem mem_admitted_of_prepare (hev : ev.Keeps) (hb : OnlyBuiltins (s :: c.parents))
    (h : prepare ev head children c s = (.ok (some call), s')) :
    call.function ∈ admitted (s :: c.parents) head children.length := by
  obtain ⟨f, hf, ha, ⟨-, rfl⟩ | ⟨-, hg⟩⟩ := prepare_eq_some h
  · exact (mem_admitted_of_resolve hf).1
  · have hs : s'.functions = s.functions := (keeps_evaluateArguments hev 0 children).eq_of_run hb ha
    have hm := List.mem_of_find?_eq_some (redispatch_eq_ok.1 hg)
    rwa [length_of_evaluateArguments ha, admitted_congr hs] at hm

theorem Call.keeps_run (h : ev.Keeps) (hf : call.function ∈ catalogue) : Keeps (call.run ev) := by
  have hd := declaresResult_of_mem_catalogue _ hf
  refine Call.follows_run (R := SameFunctions) h ?_
  unfold Function.declaresResult at hd
  split at hd
  · next op he => exact he ▸ Builtin.follows_run (R := SameFunctions) h op call.args
  · cases hd

/-- The call is of a built-in, as it was visible before the arguments. -/
theorem callsFollow_sameFunctions : CallsFollow SameFunctions := by
  intro ev head children c s s' call hev h hb
  have hs : s'.functions = s.functions := (follows_prepare hev).of_run h hb
  have hf := mem_catalogue_of_admitted hb (mem_admitted_of_prepare hev hb h)
  exact (call.keeps_run hev hf c s' (hb.of_functions_eq hs)).trans hs

/-- **Evaluation leaves the functions of the scope as they are.** -/
theorem keeps_evaluate (depth : Nat) : Evaluator.Keeps (evaluate depth) :=
  follows_evaluate callsFollow_sameFunctions depth

end Keeps

/-! ## Requests -/

section Request

variable {ev : Evaluator} {c : Context} {s : Scope}

theorem request_of_dryRun (hd : c.config.dryRun = true) (t : Token) :
    ev.request t c s = ((validate (s :: c.parents) t).map fun _ => t, s) := by
  show (if c.config.dryRun then _ else ev t : Action Token) c s = _
  rw [if_pos hd, Action.bind_of_ok (a := s :: c.parents) rfl]
  cases validate (s :: c.parents) t <;> rfl

theorem request_of_not_dryRun (hd : c.config.dryRun = false) (t : Token) : ev.request t c s = ev t c s := by
  show (if c.config.dryRun then _ else ev t : Action Token) c s = _
  rw [hd, if_neg Bool.false_ne_true]

end Request

namespace Interpreter

variable {i : Interpreter}

/-- An action that leaves the scope as it is leaves the interpreter as it is. -/
theorem run_steady {α : Type} {x : Action α} {r : Except Error α} (h : x ⟨i.config, i.parents⟩ i.scope = (r, i.scope)) :
    i.run x = (r, i) := by
  rw [run, h]

theorem evaluate_of_dryRun (hd : i.config.dryRun = true) (t : Token) :
    i.evaluate t = ((i.validate t).map fun _ => t, i) := run_steady (request_of_dryRun hd t)

theorem evaluate_of_not_dryRun (hd : i.config.dryRun = false) (t : Token) :
    i.evaluate t = i.run (RuleExpr.evaluate i.config.maxDepth t) := by
  rw [evaluate, run, run, request_of_not_dryRun hd]

end Interpreter

end RuleExpr
