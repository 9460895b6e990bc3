import RuleExpr.Proofs.Simulation.Invariant

/-!
# The depth limit cuts evaluations off

An evaluation that does not end at its depth limit has the same outcome with a higher one (`evaluate_withLimit`): the
two runs agree up to the block that is refused, and every function passes on a failure at the limit as it is. The
exception is `catch`, which evaluates something else after any failure, so it is excluded; the default of `.|` is for
names that are not bound.
-/

namespace RuleExpr

/-- Whether the cause is the depth limit. -/
def Error.isLimit (e : Error) : Bool :=
  match e.root with
  | .recursionLimit _ => true
  | _ => false

theorem Error.not_isUnbound_of_isLimit {e : Error} (h : e.isLimit = true) : BindingOperation.isUnbound e = false := by
  unfold isLimit at h
  unfold BindingOperation.isUnbound
  split at h
  · next hr => rw [hr]
  · cases h

/-- The settings with another depth limit. -/
def Config.withLimit (config : Config) (limit : Nat) : Config := { config with maxDepth := limit }

/-- Two runs in the same scopes, where the limit of the left one may cut it off. -/
def cutOff (limit : Nat) : Simulation Unit where
  call := (avoiding "catch").call
  held := (avoiding "catch").held
  escape e := e.isLimit = true
  state _ c s c' s' :=
    c' = { c with config := c.config.withLimit limit } ∧ s' = s ∧ (avoiding "catch").Holds () (s :: c.parents)
  held_empty := trivial
  held_stuck _ _ _ _ _ := trivial
  escape_call := id
  escape_bound := Error.not_isUnbound_of_isLimit
  escape_catch _ hc := hc rfl
  precision h := h.1 ▸ rfl
  dryRun h := h.1 ▸ rfl
  limit _ := .inl rfl
  functions h _ := by rw [h.1, h.2.1]
  builtins h _ := h.2.2.builtins.of_functionsNamed
  templates h _ := by rw [h.1, h.2.1]
  bodies h := h.2.2.bodies.of_templatesNamed
  read := fun ⟨hc, hs, _⟩ _ => ⟨by rw [hc, hs], fun _ _ => .of_blocks fun _ _ => trivial⟩
  write := fun ⟨hc, hs, h⟩ _ _ _ => by
    rw [hc, hs]
    exact ⟨rfl, rfl, rfl, h.writePath _ trivial⟩
  put := fun ⟨hc, hs, h⟩ _ hb => ⟨hc, hs ▸ rfl, h.setTemplate _ trivial hb⟩
  enter := fun ⟨hc, hs, h⟩ _ => ⟨(), by rw [hc, hs], rfl, h.newScope _ trivial⟩

namespace Interpreter

/-- The interpreter with another depth limit. -/
def withLimit (i : Interpreter) (limit : Nat) : Interpreter := { i with config := i.config.withLimit limit }

/-- **A higher limit gives the same**, the value or the error and the final state, where the evaluation does not end at
its own limit. -/
theorem evaluate_withLimit {i : Interpreter} {t : Token} {limit : Nat} (hb : OnlyBuiltins i.chain)
    (ht : t.Avoids "catch") (hts : ∀ s ∈ i.chain, ∀ template ∈ s.templates, template.body.Avoids "catch")
    (hle : i.config.maxDepth ≤ limit) (hcut : ∀ e, (i.evaluate t).1 = .error e → e.isLimit = false) :
    (i.withLimit limit).evaluate t = ((i.evaluate t).1, (i.evaluate t).2.withLimit limit) := by
  obtain ⟨extra, hextra⟩ := Nat.exists_eq_add_of_le hle
  have hstate : (cutOff limit).state () ⟨i.config, i.parents⟩ i.scope
      ⟨(i.withLimit limit).config, (i.withLimit limit).parents⟩ (i.withLimit limit).scope :=
    ⟨rfl, rfl, avoiding_holds hb hts⟩
  obtain ⟨hresult, -, hscope, -⟩ := evaluate_of_state hstate ht.tree hextra (.inr fun _ => rfl)
    fun e he => Bool.eq_false_iff.1 (hcut e he)
  exact Prod.ext hresult (congrArg (fun scope => (⟨i.config.withLimit limit, scope, i.parents⟩ : Interpreter)) hscope)

/-- `(set Total (do 5 x (. x)))` -/
def assigning : Token :=
  .block "set" [.string "Total", .block "do" [.decimal 5, .string "x", .block "." [.string "x"]]]

/-- Three levels are enough, so more change nothing. -/
theorem evaluate_withLimit_set :
    let i := root { maxDepth := 3 }
    OnlyBuiltins i.chain ∧ assigning.Avoids "catch" ∧ (i.evaluate assigning).1 = .ok (.decimal 5) ∧
      ((i.withLimit 256).evaluate assigning).1 = .ok (.decimal 5) ∧
      ((i.withLimit 256).evaluate assigning).2 = (i.evaluate assigning).2.withLimit 256 := by
  intro i
  have hb : OnlyBuiltins i.chain := OnlyBuiltins.root _ _ true
  have ht : assigning.Avoids "catch" := by decide +kernel
  have hts : ∀ s ∈ i.chain, ∀ template ∈ s.templates, template.body.Avoids "catch" :=
    List.forall_mem_singleton.2 (List.forall_mem_nil _)
  have hv : (i.evaluate assigning).1 = .ok (.decimal 5) := by cbv
  have hcut : ∀ e, (i.evaluate assigning).1 = .error e → e.isLimit = false := fun e he => by
    rw [hv] at he
    cases he
  have hle : i.config.maxDepth ≤ 256 := by decide
  have h := evaluate_withLimit hb ht hts hle hcut
  exact ⟨hb, ht, hv, by rw [h, hv], by rw [h]⟩

/-- What `catch` falls back to at one limit is not reached at another. -/
example :
    let scope : Scope := { functions := Control.catalogue ++ BindingOperation.catalogue }
    let t := .block "catch" [.decimal 0, .block "do" [.decimal 5, .string "x", .block "." [.string "x"]]]
    (evaluate ⟨{ maxDepth := 2 }, scope, []⟩ t).1 = .ok (.decimal 0) ∧
      (evaluate ⟨{ maxDepth := 3 }, scope, []⟩ t).1 = .ok (.decimal 5) := by
  constructor <;> cbv

end Interpreter

end RuleExpr
