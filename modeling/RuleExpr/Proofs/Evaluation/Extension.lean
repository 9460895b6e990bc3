import RuleExpr.Proofs.Simulation.Invariant

/-!
# A function matters under its name only

An interpreter may have a function in addition to those of another one, in any of its scopes (`Extends`), as it has when
the function was registered (`extends_registerFunction`). Where no block is headed by the name of the function, in any
case, both evaluate to the same (`evaluate_extends`): the functions under all other names are the same, and no function
makes a block with a new head.
-/

namespace RuleExpr

/-- One scope has one function more, at any place. -/
inductive Extends (f : Function) : List Scope → List Scope → Prop
  | here {s : Scope} {fs gs : List Function} {parents : List Scope} (h : s.functions = fs ++ gs) :
      Extends f (s :: parents) ({ s with functions := fs ++ f :: gs } :: parents)
  | outer {s : Scope} {chain chain' : List Scope} (h : Extends f chain chain') : Extends f (s :: chain) (s :: chain')

theorem extends_registerFunction {f : Function} {s s' : Scope} {parents : List Scope}
    (h : s.registerFunction f = (.ok (), s')) : Extends f (s :: parents) (s' :: parents) := by
  unfold Scope.registerFunction Registry.register? at h
  split at h
  · cases h
  · cases h
    exact .here (show s.functions = [] ++ s.functions from rfl)

/-! ## Writing beside other functions -/

namespace Scope

variable {s : Scope} {functions : List Function} {parents parents' : List Scope} {path : List String} {value : Token}
  {key : String}

theorem setAt_withFunctions : ({ s with functions }).setAt path value =
    ((s.setAt path value).1, { (s.setAt path value).2 with functions }) := rfl

theorem inherit_withFunctions : ({ s with functions }).inherit parents key =
    ((s.inherit parents key).1, { (s.inherit parents key).2 with functions }) := by
  unfold inherit
  dsimp only
  cases s.binding.child? key with
  | some => rfl
  | none =>
    cases lookup parents key with
    | some => exact setAt_withFunctions
    | none => rfl

/-- A write does not depend on the functions of the scope. -/
theorem writePath_withFunctions : ({ s with functions }).writePath parents path value =
    ((s.writePath parents path value).1, { (s.writePath parents path value).2 with functions }) := by
  cases path with
  | nil => rfl
  | cons first path =>
    unfold writePath
    dsimp only
    rw [inherit_withFunctions]
    match s.inherit parents first with
    | (.error e, s) => rfl
    | (.ok (), s) => exact setAt_withFunctions

/-- A write depends on what is seen in the scopes around. -/
theorem writePath_congr (h : lookup parents' = lookup parents) :
    s.writePath parents' path value = s.writePath parents path value := by
  unfold writePath inherit
  rw [h]

end Scope

/-! ## What both chains have -/

namespace Extends

variable {f : Function} {chain chain' parents parents' : List Scope} {s s' : Scope} {key : String}

theorem map_binding (h : Extends f chain chain') : chain'.map Scope.binding = chain.map Scope.binding := by
  induction h with
  | here => rfl
  | outer _ ih => exact congrArg (List.cons _) ih

theorem map_templates (h : Extends f chain chain') : chain'.map Scope.templates = chain.map Scope.templates := by
  induction h with
  | here => rfl
  | outer _ ih => exact congrArg (List.cons _) ih

theorem lookup (h : Extends f chain chain') : lookup chain' = lookup chain := by
  have hmap (chain : List Scope) (key : String) :
      RuleExpr.lookup chain key = (chain.map Scope.binding).findSome? fun b => b.child? key := by
    rw [List.findSome?_map]
    rfl
  funext key
  rw [hmap, hmap, h.map_binding]

theorem readPath (h : Extends f chain chain') (path : List String) : readPath chain' path = readPath chain path := by
  cases path with
  | nil =>
    have hhead : chain'.head?.map Scope.binding = chain.head?.map Scope.binding := by
      rw [← List.head?_map, ← List.head?_map, h.map_binding]
    rw [RuleExpr.readPath, RuleExpr.readPath, hhead]
  | cons first path => rw [RuleExpr.readPath, RuleExpr.readPath, h.lookup]

theorem templatesNamed (h : Extends f chain chain') (key : String) :
    templatesNamed chain' key = templatesNamed chain key := by
  have hmap (chain : List Scope) : RuleExpr.templatesNamed chain key =
      (chain.map Scope.templates).flatMap fun ts => ts.filter fun t => t.signature.key == key := by
    rw [List.flatMap_map]
    rfl
  rw [hmap, hmap, h.map_templates]

/-- The function is not seen under another name. -/
theorem functionsNamed (h : Extends f chain chain') (hk : key ≠ f.signature.key) :
    functionsNamed chain' key = functionsNamed chain key := by
  induction h with
  | here hf =>
    have hother : (f.signature.key == key) = false := beq_eq_false_iff_ne.2 hk.symm
    simp only [RuleExpr.functionsNamed, List.flatMap_cons, hf, List.filter_append, List.filter_cons, hother,
      Bool.false_eq_true, if_false]
  | outer _ ih => exact congrArg _ ih

theorem writePath (h : Extends f (s :: parents) (s' :: parents')) (path : List String) (value : Token) :
    (s'.writePath parents' path value).1 = (s.writePath parents path value).1 ∧
      Extends f ((s.writePath parents path value).2 :: parents) ((s'.writePath parents' path value).2 :: parents') := by
  cases h with
  | here hf =>
    rw [Scope.writePath_withFunctions]
    exact ⟨rfl, .here (Scope.functions_writePath.trans hf)⟩
  | outer h =>
    rw [Scope.writePath_congr h.lookup]
    exact ⟨rfl, .outer h⟩

theorem setTemplate (h : Extends f (s :: parents) (s' :: parents')) (template : Template) :
    Extends f (s.setTemplate template :: parents) (s'.setTemplate template :: parents') := by
  cases h with
  | here hf => exact .here hf
  | outer h => exact .outer h

end Extends

/-- Two runs, one of which has a function more that is not called. -/
def extension (f : Function) : Simulation Unit where
  call := (avoiding f.signature.key).call
  held := (avoiding f.signature.key).held
  escape := Simulation.NoEscape
  state _ c s c' s' := c'.config = c.config ∧ Extends f (s :: c.parents) (s' :: c'.parents) ∧
    (avoiding f.signature.key).Holds () (s :: c.parents)
  held_empty := trivial
  held_stuck _ _ _ _ _ := trivial
  escape_call := Simulation.NoEscape.call
  escape_bound := Simulation.NoEscape.isUnbound
  escape_catch := False.elim
  precision h := by rw [h.1]
  dryRun h := by rw [h.1]
  limit h := .inr (by rw [h.1])
  functions h hc := h.2.1.functionsNamed hc
  builtins h _ := h.2.2.builtins.of_functionsNamed
  templates h := h.2.1.templatesNamed
  bodies h := h.2.2.bodies.of_templatesNamed
  read h _ := ⟨h.2.1.readPath _, fun _ _ => .of_blocks fun _ _ => trivial⟩
  write := fun ⟨hc, he, h⟩ _ _ _ =>
    ⟨(he.writePath _ _).1, hc, (he.writePath _ _).2, h.writePath _ trivial⟩
  put := fun ⟨hc, he, h⟩ _ hb => ⟨hc, he.setTemplate _, h.setTemplate _ trivial hb⟩
  enter := fun ⟨hc, he, h⟩ _ => ⟨(), hc, .outer he, h.newScope _ trivial⟩

namespace Interpreter

/-- **A function that is not called by its name changes nothing**: not the value or the error, and not the bindings and
templates that are left. -/
theorem evaluate_extends {f : Function} {i i' : Interpreter} {t : Token} (hconfig : i'.config = i.config)
    (he : Extends f i.chain i'.chain) (hb : OnlyBuiltins i.chain) (ht : t.Avoids f.signature.key)
    (hts : ∀ s ∈ i.chain, ∀ template ∈ s.templates, template.body.Avoids f.signature.key) :
    (i'.evaluate t).1 = (i.evaluate t).1 ∧
      (i'.evaluate t).2.scope.binding = (i.evaluate t).2.scope.binding ∧
      (i'.evaluate t).2.scope.templates = (i.evaluate t).2.scope.templates ∧
      Extends f (i.evaluate t).2.chain (i'.evaluate t).2.chain := by
  have hstate : (extension f).state () ⟨i.config, i.parents⟩ i.scope ⟨i'.config, i'.parents⟩ i'.scope :=
    ⟨hconfig, he, avoiding_holds hb hts⟩
  have hdepth : i'.config.maxDepth = i.config.maxDepth + 0 := congrArg Config.maxDepth hconfig
  obtain ⟨hresult, -, hfinal, -⟩ := evaluate_of_state hstate ht.tree hdepth (.inl rfl) fun _ _ => id
  have hbinding := List.head_eq_of_cons_eq hfinal.map_binding
  have htemplates := List.head_eq_of_cons_eq hfinal.map_templates
  exact ⟨hresult, hbinding, htemplates, hfinal⟩

/-- A function of the host that gives null. -/
def total : Function := ⟨{ name := "Total", parameters := [Kind.any] }, .host fun _ => .done (.ok .null)⟩

/-- The scope of a root interpreter in which it was registered. -/
def totalScope : Scope := { root.scope with functions := total :: root.scope.functions }

/-- `((set Total 2) (+ (. Total) 1))` -/
def totalling : Token :=
  .block "" [.block "set" [.string "Total", .decimal 2], .block "+" [.block "." [.string "Total"], .decimal 1]]

/-- A value may have the name of a function. -/
theorem evaluate_extends_total :
    let i : Interpreter := ⟨{}, {}, [root.scope]⟩
    let i' : Interpreter := ⟨{}, {}, [totalScope]⟩
    root.scope.registerFunction total = (.ok (), totalScope) ∧ OnlyBuiltins i.chain ∧
      totalling.Avoids total.signature.key ∧ (i.evaluate totalling).1 = .ok (.decimal 3) ∧
      (i'.evaluate totalling).1 = .ok (.decimal 3) ∧
      (i'.evaluate totalling).2.scope.binding = (i.evaluate totalling).2.scope.binding := by
  intro i i'
  have hregister : root.scope.registerFunction total = (.ok (), totalScope) := by
    have hnew : Registry.has Function.signature total.signature root.scope.functions = false := by decide +kernel
    rw [Scope.registerFunction, Registry.register?, if_neg (Bool.eq_false_iff.1 hnew)]
    rfl
  have he : Extends total i.chain i'.chain := .outer (extends_registerFunction hregister)
  have hb : OnlyBuiltins i.chain := (OnlyBuiltins.root {} _ true).newScope
  have ht : totalling.Avoids total.signature.key := by decide +kernel
  have hts : ∀ s ∈ i.chain, ∀ template ∈ s.templates, template.body.Avoids total.signature.key :=
    List.forall_mem_cons.2 ⟨List.forall_mem_nil _, List.forall_mem_singleton.2 (List.forall_mem_nil _)⟩
  have hv : (i.evaluate totalling).1 = .ok (.decimal 3) := by cbv
  have hconfig : i'.config = i.config := rfl
  obtain ⟨hresult, hbinding, -, -⟩ := evaluate_extends hconfig he hb ht hts
  exact ⟨hregister, hb, ht, hv, hresult.trans hv, hbinding⟩

end Interpreter

end RuleExpr
