import RuleExpr.Proofs.Simulation.Evaluate

/-!
# What one run keeps

An invariant says something about the chain of scopes that the changes of bindings keep and that a new scope has again.
With the programs that may be evaluated it is a simulation of a run by itself, so evaluation keeps it, whatever the
outcome, and gives values with such blocks only as it allows (`keeps_evaluate`, `keeps_request`).
-/

namespace RuleExpr

open Token (Data Tree)

/-! ## Templates -/

namespace Registry

variable {α : Type} {signature : α → Signature} {entry e : α} {entries : List α}

theorem mem_replace (h : e ∈ replace signature entry entries) : e ∈ entries ∨ e = entry := by
  induction entries with
  | nil => cases h
  | cons d entries ih =>
    rw [replace] at h
    split at h
    · exact (List.mem_cons.1 h).symm.imp (List.mem_cons_of_mem _) id
    · rcases List.mem_cons.1 h with rfl | h
      · exact .inl List.mem_cons_self
      · exact (ih h).imp (List.mem_cons_of_mem _) id

theorem mem_upsert (h : e ∈ upsert signature entry entries) : e ∈ entries ∨ e = entry := by
  unfold upsert at h
  split at h
  · exact mem_replace h
  · exact (List.mem_cons.1 h).symm

end Registry

/-- The bodies of all visible templates are such trees. -/
def Bodies (call : String → Nat → Prop) (held : String → List Token → Prop) (chain : List Scope) : Prop :=
  ∀ s ∈ chain, ∀ template ∈ s.templates, Tree call held template.body

namespace Bodies

variable {call : String → Nat → Prop} {held : String → List Token → Prop} {s s' : Scope} {chain : List Scope}

theorem of_templatesNamed (h : Bodies call held chain) {key : String} :
    ∀ template ∈ templatesNamed chain key, Tree call held template.body := by
  intro template ht
  obtain ⟨s, hs, hm⟩ := List.mem_flatMap.1 ht
  exact h s hs template (List.mem_filter.1 hm).1

theorem of_templates_eq (h : Bodies call held (s :: chain)) (he : s'.templates = s.templates) :
    Bodies call held (s' :: chain) := by
  obtain ⟨hs, hc⟩ := List.forall_mem_cons.1 h
  exact List.forall_mem_cons.2 ⟨he ▸ hs, hc⟩

theorem newScope (h : Bodies call held chain) (binding : Token) : Bodies call held ({ binding } :: chain) :=
  List.forall_mem_cons.2 ⟨List.forall_mem_nil _, h⟩

theorem setTemplate (h : Bodies call held (s :: chain)) {template : Template} (hb : Tree call held template.body) :
    Bodies call held (s.setTemplate template :: chain) := by
  obtain ⟨hs, hc⟩ := List.forall_mem_cons.1 h
  refine List.forall_mem_cons.2 ⟨fun t ht => ?_, hc⟩
  rcases Registry.mem_upsert ht with ht | rfl
  · exact hs t ht
  · exact hb

end Bodies

/-! ## Invariants -/

/-- A property of chains of scopes that evaluation keeps. -/
structure Invariant (ι : Type) where
  /-- The blocks that are evaluated: a name in lower case with a number of arguments. -/
  call : String → Nat → Prop
  /-- The blocks in values. -/
  held : String → List Token → Prop
  /-- What is kept; an index says what a run has to keep of the chain with which it began. -/
  keeps : ι → List Scope → Prop
  held_empty : held "" []
  held_stuck {i chain head children} (h : keeps i chain) (hh : head.isEmpty = false) (hc : children ≠ [])
    (hr : resolve chain head children = .ok none) : held head children
  read {i chain path} (h : keeps i chain) (hc : call "." path.length) : Yields (Data held) (readPath chain path)
  write {i s parents count path value} (h : keeps i (s :: parents)) (hc : call "set" count) (hp : path ≠ [])
    (hv : Data held value) : keeps i ((s.writePath parents path value).2 :: parents)
  put {i s parents count template} (h : keeps i (s :: parents)) (hc : call "settemplate" count)
    (hb : Tree call held template.body) : keeps i (s.setTemplate template :: parents)
  enter {i chain entries} (h : keeps i chain) (hv : ∀ e ∈ entries, Data held e.2) :
    ∃ j, keeps j ({ binding := .map entries } :: chain)

namespace Invariant

variable {ι : Type} (I : Invariant ι)

/-- The chain has what is kept, with functions of the catalogue, and templates for such programs. -/
structure Holds (i : ι) (chain : List Scope) : Prop where
  keeps : I.keeps i chain
  builtins : OnlyBuiltins chain
  bodies : Bodies I.call I.held chain

theorem Holds.writePath {i : ι} {s : Scope} {parents : List Scope} {path : List String} {value : Token}
    (h : I.Holds i (s :: parents)) (hk : I.keeps i ((s.writePath parents path value).2 :: parents)) :
    I.Holds i ((s.writePath parents path value).2 :: parents) := by
  obtain ⟨b, hb⟩ := s.writePath_eq parents path value
  rw [hb] at hk ⊢
  exact ⟨hk, h.builtins.of_functions_eq rfl, h.bodies.of_templates_eq rfl⟩

theorem Holds.setTemplate {i : ι} {s : Scope} {parents : List Scope} {template : Template}
    (h : I.Holds i (s :: parents)) (hk : I.keeps i (s.setTemplate template :: parents))
    (hb : Tree I.call I.held template.body) : I.Holds i (s.setTemplate template :: parents) :=
  ⟨hk, h.builtins.of_functions_eq rfl, h.bodies.setTemplate hb⟩

theorem Holds.newScope {i j : ι} {chain : List Scope} {binding : Token} (h : I.Holds i chain)
    (hk : I.keeps j ({ binding } :: chain)) : I.Holds j ({ binding } :: chain) :=
  ⟨hk, h.builtins.newScope.of_functions_eq rfl, h.bodies.newScope binding⟩

/-- A run beside itself. -/
def simulation : Simulation ι where
  call := I.call
  held := I.held
  escape := Simulation.NoEscape
  state i c s c' s' := c' = c ∧ s' = s ∧ I.Holds i (s :: c.parents)
  held_empty := I.held_empty
  held_stuck h _ := I.held_stuck h.2.2.keeps
  escape_call := Simulation.NoEscape.call
  escape_bound := Simulation.NoEscape.isUnbound
  escape_catch := False.elim
  precision h := h.1 ▸ rfl
  dryRun h := h.1 ▸ rfl
  limit h := .inr (h.1 ▸ rfl)
  functions h _ := by rw [h.1, h.2.1]
  builtins h _ := h.2.2.builtins.of_functionsNamed
  templates h _ := by rw [h.1, h.2.1]
  bodies h := h.2.2.bodies.of_templatesNamed
  read := fun ⟨hc, hs, h⟩ hcall => ⟨by rw [hc, hs], I.read h.keeps hcall⟩
  write := fun ⟨hc, hs, h⟩ hcall hp hv => by
    rw [hc, hs]
    exact ⟨rfl, rfl, rfl, h.writePath I (I.write h.keeps hcall hp hv)⟩
  put := fun ⟨hc, hs, h⟩ hcall hb => by
    rw [hc, hs]
    exact ⟨rfl, rfl, h.setTemplate I (I.put h.keeps hcall hb) hb⟩
  enter := fun ⟨hc, hs, h⟩ hv => by
    rw [hc, hs]
    obtain ⟨j, hj⟩ := I.enter h.keeps hv
    exact ⟨j, rfl, rfl, h.newScope I hj⟩

variable {I} {i : ι} {c : Context} {s : Scope} {t : Token} {α : Type} {P : α → Prop} {x : Action α}

theorem of_relates (hx : I.simulation.Relates P x x) (h : I.Holds i (s :: c.parents)) :
    Yields P (x c s).1 ∧ I.Holds i ((x c s).2 :: c.parents) := by
  have hr := hx i c s c s ⟨rfl, rfl, h⟩
  revert hr
  generalize he : x c s = r
  intro hr
  generalize he' : r = r' at hr
  rcases hr with ⟨ha, hs⟩ | hs | hf
  · cases he'
    exact ⟨.ok ha, hs.2.2⟩
  · cases he'
    exact ⟨.error _, hs.2.2⟩
  · exact hf.elim

/-- **Evaluation keeps an invariant, and gives values with such blocks only as it allows.** -/
theorem keeps_evaluate (depth : Nat) (ht : Tree I.call I.held t) (h : I.Holds i (s :: c.parents)) :
    Yields (Data I.held) (evaluate depth t c s).1 ∧ I.Holds i ((evaluate depth t c s).2 :: c.parents) :=
  of_relates (relates_evaluate (S := I.simulation) (.inl rfl) depth t ht) h

theorem keeps_request (depth : Nat) (ht : Tree I.call I.held t) (h : I.Holds i (s :: c.parents)) :
    Yields (fun v => v = t ∨ Data I.held v) (Evaluator.request (evaluate depth) t c s).1 ∧
      I.Holds i ((Evaluator.request (evaluate depth) t c s).2 :: c.parents) :=
  of_relates (relates_request (relates_evaluate (S := I.simulation) (.inl rfl) depth) ht) h

end Invariant

/-! ## A name that is not called -/

/-- No program has a block headed by the name, given in lower case; nothing else is kept. -/
def avoiding (key : String) : Invariant Unit where
  call k _ := k ≠ key
  held _ _ := True
  keeps _ _ := True
  held_empty := trivial
  held_stuck _ _ _ _ := trivial
  read _ _ _ _ := .of_blocks fun _ _ => trivial
  write _ _ _ _ := trivial
  put _ _ _ := trivial
  enter _ _ := ⟨(), trivial⟩

theorem Token.Avoids.tree {key : String} {t : Token} (h : t.Avoids key) :
    Tree (avoiding key).call (avoiding key).held t := .of_blocks (fun _ _ => trivial) h

theorem avoiding_holds {key : String} {chain : List Scope} (hb : OnlyBuiltins chain)
    (hts : ∀ s ∈ chain, ∀ template ∈ s.templates, template.body.Avoids key) : (avoiding key).Holds () chain :=
  ⟨trivial, hb, fun s hs template ht => (hts s hs template ht).tree⟩

end RuleExpr
