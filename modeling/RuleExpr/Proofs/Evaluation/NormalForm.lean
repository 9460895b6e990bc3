import RuleExpr.Proofs.Reading.Automaton
import RuleExpr.Proofs.Scope
import RuleExpr.Proofs.Simulation.Invariant

/-!
# Results are normal forms

A block is inert where it is empty or no visible function accepts it; evaluation gives it back as it is
(`evaluate_of_inert`). In an interpreter that begins without blocks in its bindings, whatever sources are evaluated, the
only blocks in results and bindings are inert ones, up to what is inside of them, so a result evaluates to itself and
changes nothing (`evaluateSource_normal`).
-/

namespace RuleExpr

open Token (Data Tree)

/-- The empty block, or a block that no visible function accepts. -/
def Inert (chain : List Scope) (head : String) (children : List Token) : Prop :=
  head = "" ∧ children = [] ∨ head.isEmpty = false ∧ children ≠ [] ∧ resolve chain head children = .ok none

theorem Inert.congr {chain chain' : List Scope} {head : String} {children : List Token}
    (ha : Alike (fun _ _ => True) chain chain') (h : Inert chain head children) : Inert chain' head children := by
  refine h.imp id fun ⟨hh, hc, hr⟩ => ⟨hh, hc, ?_⟩
  rw [ha.resolve (.unrestricted _), hr]

/-! ## Inert blocks stay as they are -/

section Evaluation

variable {depth : Nat} {c : Context} {s s' : Scope} {t v : Token} {head : String} {children : List Token}

theorem evaluateBlock_of_inert {ev : Evaluator} (h : Inert (s :: c.parents) head children) :
    evaluateBlock ev head children c s = (.ok (.block head children), s) := by
  rcases h with ⟨rfl, rfl⟩ | ⟨hh, hc, hr⟩
  · rfl
  · simp only [evaluateBlock, hh, Bool.false_eq_true, if_false]
    rw [Action.bind_of_ok (prepare_of_none hr)]
    cases children with
    | nil => exact absurd rfl hc
    | cons => rfl

/-- A value without other blocks evaluates to itself, where there is depth for a block. -/
theorem evaluate_of_inert (h : Data (Inert (s :: c.parents)) v) (hd : v.isBlock = true → depth ≠ 0) :
    evaluate depth v c s = (.ok v, s) := by
  cases v with
  | block head children =>
    cases depth with
    | zero => exact absurd rfl (hd rfl)
    | succ depth => exact evaluateBlock_of_inert h.of_block
  | _ =>
    rw [evaluate_of_not_block rfl]
    rfl

/-- It takes depth to give a block. -/
theorem depth_of_evaluate (h : evaluate depth t c s = (.ok v, s')) (hb : v.isBlock = true) : depth ≠ 0 := by
  rintro rfl
  cases t with
  | block =>
    obtain ⟨_, _, -, h'⟩ := Action.bind_eq_ok h
    cases h'
  | _ =>
    cases h
    cases hb

end Evaluation

/-! ## The invariant -/

/-- The blocks in bindings are inert for the functions of a chain, which stay visible. -/
def inertBindings (chain₀ : List Scope) : Invariant Unit where
  call _ _ := True
  held := Inert chain₀
  keeps _ chain := Alike (fun _ _ => True) chain₀ chain ∧ ∀ s ∈ chain, Data (Inert chain₀) s.binding
  held_empty := .inl ⟨rfl, rfl⟩
  held_stuck h hh hc hr := .inr ⟨hh, hc, by rw [← hr, h.1.resolve (.unrestricted _)]⟩
  read h _ := data_readPath h.2
  write := fun ⟨ha, hd⟩ _ _ hv => by
    obtain ⟨hs, hp⟩ := List.forall_mem_cons.1 hd
    refine ⟨fun key count hc => ?_, List.forall_mem_cons.2 ⟨Scope.data_writePath hv hs hp, hp⟩⟩
    rw [functionsNamed_congr Scope.functions_writePath, ha key count hc]
  put := fun ⟨ha, hd⟩ _ _ => ⟨ha, List.forall_mem_cons.2 (List.forall_mem_cons.1 hd)⟩
  enter := fun ⟨ha, hd⟩ hv => ⟨(), ha, List.forall_mem_cons.2 ⟨.map hv, hd⟩⟩

namespace Interpreter

/-- The interpreter after sources were evaluated in it, one after the other. -/
def after (i : Interpreter) (sources : List String) : Interpreter :=
  sources.foldl (fun i source => (i.evaluateSource source).2) i

variable {i i' : Interpreter} {chain₀ : List Scope} {source : String} {sources : List String} {v : Token}

/-- An interpreter that evaluates, in which the blocks in bindings are inert for the functions of a chain. -/
structure Settled (chain₀ : List Scope) (i : Interpreter) : Prop where
  evaluates : i.config.dryRun = false
  holds : (inertBindings chain₀).Holds () i.chain

theorem settled_of_plain (hb : OnlyBuiltins i.chain) (hd : i.config.dryRun = false)
    (hbindings : ∀ s ∈ i.chain, s.binding.blocks = [])
    (hbodies : ∀ s ∈ i.chain, ∀ template ∈ s.templates, ∃ text, Token.read text = .ok template.body) :
    i.Settled i.chain where
  evaluates := hd
  holds := {
    keeps := ⟨fun _ _ _ => rfl, fun s hs => .of_blocks fun _ hm => absurd (hbindings s hs ▸ hm) List.not_mem_nil⟩
    builtins := hb
    bodies := fun s hs template ht => by
      obtain ⟨text, htext⟩ := hbodies s hs template ht
      exact .of_read (fun _ _ => trivial) htext }

theorem evaluateSource_of_read {t : Token} (h : Token.read source = .ok t) :
    i.evaluateSource source = i.evaluate t := by
  rw [evaluateSource, h]

/-- Evaluating a source keeps the blocks in bindings inert, and so are those of the result. -/
theorem Settled.evaluateSource (h : i.Settled chain₀) (source : String) :
    (i.evaluateSource source).2.Settled chain₀ ∧ Yields (Data (Inert chain₀)) (i.evaluateSource source).1 := by
  unfold Interpreter.evaluateSource
  split
  · exact ⟨h, .error _⟩
  · next t ht =>
    have htree : Tree (inertBindings chain₀).call (inertBindings chain₀).held t := .of_read (fun _ _ => trivial) ht
    obtain ⟨hv, hs⟩ := Invariant.keeps_evaluate (c := ⟨i.config, i.parents⟩) i.config.maxDepth htree h.holds
    rw [evaluate_of_not_dryRun h.evaluates]
    exact ⟨⟨h.evaluates, hs⟩, hv⟩

theorem Settled.after (h : i.Settled chain₀) (sources : List String) : (i.after sources).Settled chain₀ := by
  induction sources generalizing i with
  | nil => exact h
  | cons source sources ih => exact ih (h.evaluateSource source).1

/-- A block is given only where there is depth to evaluate one. -/
theorem depth_of_evaluateSource (hd : i.config.dryRun = false) (h : i.evaluateSource source = (.ok v, i'))
    (hb : v.isBlock = true) : i'.config.maxDepth ≠ 0 := by
  unfold Interpreter.evaluateSource at h
  split at h
  · cases h
  · next t ht =>
    rw [evaluate_of_not_dryRun hd] at h
    have hv : (RuleExpr.evaluate i.config.maxDepth t ⟨i.config, i.parents⟩ i.scope).1 = .ok v := congrArg Prod.fst h
    have hc : i.config = i'.config := congrArg (fun r => r.2.config) h
    rw [← hc]
    exact depth_of_evaluate (Prod.ext hv rfl) hb

/-- **Results are normal forms.** Whatever sources were evaluated before, what a source evaluates to evaluates to itself
and changes nothing: the blocks in it, and in the bindings, are empty or accepted by no function. -/
theorem evaluateSource_normal (hb : OnlyBuiltins i.chain) (hd : i.config.dryRun = false)
    (hbindings : ∀ s ∈ i.chain, s.binding.blocks = [])
    (hbodies : ∀ s ∈ i.chain, ∀ template ∈ s.templates, ∃ text, Token.read text = .ok template.body)
    (h : (i.after sources).evaluateSource source = (.ok v, i')) :
    i'.evaluate v = (.ok v, i') ∧ Data (Inert i'.chain) v ∧ ∀ s ∈ i'.chain, Data (Inert i'.chain) s.binding := by
  have hsettled := (settled_of_plain hb hd hbindings hbodies).after sources
  obtain ⟨hs, hv⟩ := hsettled.evaluateSource source
  rw [h] at hs hv
  have hinert : ∀ head children, Inert i.chain head children → Inert i'.chain head children :=
    fun _ _ => Inert.congr hs.holds.keeps.1
  have hvalue : Data (Inert i'.chain) v := (hv v rfl).mono hinert
  refine ⟨?_, hvalue, fun s hm => (hs.holds.keeps.2 s hm).mono hinert⟩
  have he : RuleExpr.evaluate i'.config.maxDepth v ⟨i'.config, i'.parents⟩ i'.scope = (.ok v, i'.scope) :=
    evaluate_of_inert hvalue (depth_of_evaluateSource hsettled.evaluates h)
  rw [evaluate_of_not_dryRun hs.evaluates, run, he]

/-- A session that ends in a call of an unknown function. -/
def unknownSession : Except Error Token × Interpreter :=
  ((root {}).after ["(set \"X\" \"a\")"]).evaluateSource "(unknown (. \"X\"))"

/-- The call is the result, with the call in it that was not made. -/
theorem evaluateSource_normal_unknown :
    let v := .block "unknown" [.block "." [.string "X"]]
    ∃ i', unknownSession = (.ok v, i') ∧ i'.evaluate v = (.ok v, i') := by
  have hset : Token.read "(set \"X\" \"a\")" = .ok (.block "set" [.string "X", .string "a"]) := by
    rw [Token.read_eq_scan]
    cbv
  have hcall : Token.read "(unknown (. \"X\"))" = .ok (.block "unknown" [.block "." [.string "X"]]) := by
    rw [Token.read_eq_scan]
    cbv
  have hv : unknownSession.1 = .ok (.block "unknown" [.block "." [.string "X"]]) := by
    simp only [unknownSession, after, List.foldl_cons, List.foldl_nil, evaluateSource_of_read hset,
      evaluateSource_of_read hcall]
    cbv
  have hb : OnlyBuiltins (root {}).chain := OnlyBuiltins.root {} (.map []) true
  have hbindings : ∀ s ∈ (root {}).chain, s.binding.blocks = [] := List.forall_mem_singleton.2 rfl
  have hbodies : ∀ s ∈ (root {}).chain, ∀ template ∈ s.templates, ∃ text, Token.read text = .ok template.body :=
    List.forall_mem_singleton.2 (List.forall_mem_nil _)
  rcases h : unknownSession with ⟨r, i'⟩
  rw [h] at hv
  cases hv
  exact ⟨i', rfl, (evaluateSource_normal hb rfl hbindings hbodies h).1⟩

end Interpreter

end RuleExpr
