import RuleExpr.Proofs.Evaluation.Operations
import RuleExpr.Proofs.Evaluation.Readable
import RuleExpr.Proofs.Token.Inference

/-!
# Values and their texts

Where the catalogue is visible and what is in the scopes is readable, what a readable token evaluates to is readable
(`reads_evaluate`). Literals are, and so is all that is made of them.

- **A decimal, a truth value or a time that is computed is what its text spells, but for times in a year that has not
  four digits** (`infer_text_of_evaluate`), and exactly then it compares equal to its text;
- such times are computed, so it is not so for all values (`not_infer_text`).
-/

namespace RuleExpr

open Token (Readable)

/-! ## Comparison with the text -/

/-- The declaration of the function that gives the text of a value. -/
def toStringSignature : Signature where
  name := "toString"
  parameters := [.value]
  returns := .string

/-- The declaration of the reader of times in a layout. -/
def layoutSignature : Signature where
  name := "parseTime"
  parameters := [.string, .string]
  returns := .time

theorem sole_toString : Function.Sole "toString" 1 toStringSignature (.control .toString) :=
  Function.sole_of_filter (by decide +kernel)

theorem sole_layout : Function.Sole "parseTime" 2 layoutSignature (.time .parseLayout) :=
  Function.sole_of_filter (by decide +kernel)

section Comparison

variable {c : Context} {s : Scope} {v : Token}

theorem parameterKind_toString (i : Nat) : toStringSignature.parameterKind i = Kind.value := by
  rcases i with _ | i <;> rfl

/-- The call that gives the text of a value. -/
theorem evaluate_toString (h : HasCatalogue (s :: c.parents)) (hv : v.isBlock = false) (depth : Nat) :
    evaluate (depth + 1) (.block "toString" [v]) c s = (.ok (.string v.text), s) := by
  have hvs : ∀ t ∈ [v], t.isBlock = false := List.forall_mem_singleton.2 hv
  have hrun : Builtin.run (evaluate depth) (.control .toString) [v] c s = (.ok (.string v.text), s) := rfl
  refine evaluateBlock_of_sole (h.offers _) (by decide) sole_toString rfl ?_ (forall₂_values hvs) ?_ hrun rfl
  · exact acceptsChildren_of_kind parameterKind_toString fun t ht => acceptsChild_value _ (hvs t ht)
  · exact acceptsValues_of_kind parameterKind_toString fun t ht => Token.value_accepts_kind (hvs t ht)

/-- The call could give a value. -/
theorem acceptsChild_toString {chain : List Scope} (h : HasCatalogue chain) (v : Token) :
    acceptsChild chain Kind.value (.block "toString" [v]) = .ok true :=
  acceptsChild_call (h.offers _) (by decide) (sole_toString.first Kind.value) (by decide)

/-- The call that compares a value with its text. -/
theorem evaluate_equality (h : HasCatalogue (s :: c.parents)) (hv : v.isBlock = false) (depth : Nat) :
    ∃ r, evaluate (depth + 2) (.block "=" [v, .block "toString" [v]]) c s = (r, s) ∧
      Answers (v.looseEqual (.string v.text)) r :=
  evaluate_equal (h.offers _) (acceptsChild_value _ hv) (acceptsChild_toString h v) (evaluate_value hv)
    (evaluate_toString h hv depth) hv rfl

/-- A time written in a layout. -/
def written (text layout : String) : Token := .block "parseTime" [.string text, .string layout]

theorem evaluate_written (h : HasCatalogue (s :: c.parents)) {text layout : String} {t : Timestamp}
    (ht : Timestamp.parseLayout? text layout = some t) (depth : Nat) :
    evaluate (depth + 1) (written text layout) c s = (.ok (.time t), s) := by
  have hkinds (i : Nat) : layoutSignature.parameterKind i = Kind.string := by
    rcases i with _ | _ | i <;> rfl
  have haccepts : Kind.string.accepts Kind.string = true := by decide
  have hchild : acceptsChildren (s :: c.parents) layoutSignature [.string text, .string layout] = .ok true :=
    acceptsChildren_of_kind hkinds (List.forall_mem_cons.2 ⟨congrArg Except.ok haccepts,
      List.forall_mem_singleton.2 (congrArg Except.ok haccepts)⟩)
  have hrun : Builtin.run (evaluate depth) (.time .parseLayout) [.string text, .string layout] c s =
      (.ok (.time t), s) := by
    have hparsed : TimeOperation.parsedBy [.string text, .string layout] = .ok (.time t) := by
      simp only [TimeOperation.parsedBy, Arguments.two, Arguments.string, bind, Except.bind, ht]
    exact congrArg (·, s) hparsed
  have hvs : ∀ t ∈ [Token.string text, .string layout], t.isBlock = false :=
    List.forall_mem_cons.2 ⟨rfl, List.forall_mem_singleton.2 rfl⟩
  refine evaluateBlock_of_sole (h.offers _) (by decide) sole_layout rfl hchild (forall₂_values hvs) ?_ hrun rfl
  exact acceptsValues_of_kind hkinds (List.forall_mem_cons.2 ⟨haccepts, List.forall_mem_singleton.2 haccepts⟩)

theorem readable_written (text layout : String) : (written text layout).Readable :=
  .block (List.forall_mem_cons.2 ⟨.string text, List.forall_mem_singleton.2 (.string layout)⟩)

end Comparison

namespace Interpreter

variable {i : Interpreter} {t v : Token}

/-- The comparison with the text, in an interpreter. -/
theorem evaluate_equality (hc : HasCatalogue i.chain) (hd : i.config.dryRun = false) (hdepth : 2 ≤ i.config.maxDepth)
    (hv : v.isBlock = false) {b : Bool} (hb : v.looseEqual (.string v.text) = .ok b) :
    i.evaluate (.block "=" [v, .block "toString" [v]]) = (.ok (.boolean b), i) := by
  obtain ⟨depth, hmax⟩ := Nat.exists_eq_add_of_le' hdepth
  obtain ⟨r, hrun, hr⟩ := RuleExpr.evaluate_equality (c := ⟨i.config, i.parents⟩) (s := i.scope) hc hv depth
  rw [hb] at hr
  rw [evaluate_of_not_dryRun hd, run, hmax, hrun, hr]

/-- **Inference recovers a computed value from its text, but for times in a year that has not four digits.** The text of
such a value spells a value of the same kind that is equal to it, namely itself; the text of a time in any other year
spells a string. So the value equals its text exactly where the year, if it has one, has four digits. -/
theorem infer_text_of_evaluate (hc : HasCatalogue i.chain) (hs : ∀ s ∈ i.chain, s.Readable)
    (hd : i.config.dryRun = false) (hp : i.config.divisionPrecision < 2 ^ 32) (hdepth : 2 ≤ i.config.maxDepth)
    (ht : t.Readable) (h : (i.evaluate t).1 = .ok v) (htyped : v.isTyped = true) :
    ((∃ u, Token.infer v.text = .ok u ∧ u.kind = v.kind ∧ u.equal v = true) ↔ v.ShortYear) ∧
      Token.infer v.text = .ok (if v.ShortYear then v else .string v.text) ∧
      i.evaluate (.block "=" [v, .block "toString" [v]]) = (.ok (.boolean (decide v.ShortYear)), i) := by
  have hr : v.Readable := (reads_evaluate ⟨hc.builtins, hs⟩ hp ht).1 v h
  exact ⟨Token.infer_text_equal_iff hr htyped, Token.infer_text hr htyped,
    evaluate_equality hc hd hdepth (Token.isBlock_of_isTyped htyped) (Token.looseEqual_text hr htyped)⟩

theorem evaluate_written (hc : HasCatalogue i.chain) (hd : i.config.dryRun = false) (hdepth : 1 ≤ i.config.maxDepth)
    {text layout : String} {time : Timestamp} (h : Timestamp.parseLayout? text layout = some time) :
    i.evaluate (written text layout) = (.ok (.time time), i) := by
  obtain ⟨depth, hmax⟩ := Nat.exists_eq_add_of_le' hdepth
  have hrun := RuleExpr.evaluate_written (c := ⟨i.config, i.parents⟩) (s := i.scope) hc h depth
  rw [evaluate_of_not_dryRun hd, run, hmax, hrun]

theorem readable_root : ∀ s ∈ (root {}).chain, s.Readable :=
  List.forall_mem_singleton.2 ⟨.map (List.forall_mem_nil _), List.forall_mem_nil _⟩

/-- A day in a year of four digits. -/
theorem infer_text_of_evaluate_day :
    let day : Token := .time ⟨19783, ⟨0, 0⟩, 0⟩
    HasCatalogue (root {}).chain ∧ (∀ s ∈ (root {}).chain, s.Readable) ∧ (root {}).config.dryRun = false ∧
      (root {}).config.divisionPrecision < 2 ^ 32 ∧ 2 ≤ (root {}).config.maxDepth ∧
      (written "01/03/2024" "%d/%m/%Y").Readable ∧
      ((root {}).evaluate (written "01/03/2024" "%d/%m/%Y")).1 = .ok day ∧ day.isTyped = true ∧
      Token.infer day.text = .ok day ∧
      ((root {}).evaluate (.block "=" [day, .block "toString" [day]])).1 = .ok (.boolean true) := by
  intro day
  have hc : HasCatalogue (root {}).chain := HasCatalogue.root {} (.map [])
  have hday : Timestamp.parseLayout? "01/03/2024" "%d/%m/%Y" = some ⟨19783, ⟨0, 0⟩, 0⟩ := by decide +kernel
  have hrun : ((root {}).evaluate (written "01/03/2024" "%d/%m/%Y")).1 = .ok day :=
    congrArg Prod.fst (evaluate_written hc rfl (by decide) hday)
  have hwritten := readable_written "01/03/2024" "%d/%m/%Y"
  have hyear : day.ShortYear := by decide +kernel
  obtain ⟨-, htext, hequal⟩ :=
    infer_text_of_evaluate hc readable_root rfl (by decide) (by decide) hwritten hrun rfl
  rw [if_pos hyear] at htext
  rw [decide_eq_true hyear] at hequal
  exact ⟨hc, readable_root, rfl, by decide, by decide, hwritten, hrun, rfl, htext, congrArg Prod.fst hequal⟩

/-- **The year 10000 is not recovered**: its text begins with a sign, and spells a string. -/
theorem not_infer_text : ¬ ∀ (i : Interpreter) (t v : Token), HasCatalogue i.chain → (∀ s ∈ i.chain, s.Readable) →
    i.config.dryRun = false → i.config.divisionPrecision < 2 ^ 32 → 2 ≤ i.config.maxDepth → t.Readable →
    (i.evaluate t).1 = .ok v → v.isTyped = true →
      ∃ u, Token.infer v.text = .ok u ∧ u.kind = v.kind ∧ u.equal v = true := by
  intro h
  have hc : HasCatalogue (root {}).chain := HasCatalogue.root {} (.map [])
  have hday : Timestamp.parseLayout? "+10000-01-01" "%Y-%m-%d" = some ⟨2932897, ⟨0, 0⟩, 0⟩ := by decide +kernel
  have hrun := congrArg Prod.fst (evaluate_written hc rfl (by decide) hday)
  have hspelt := h (root {}) _ _ hc readable_root rfl (by decide) (by decide) (readable_written _ _) hrun rfl
  have hregular : Readable (.time ⟨2932897, ⟨0, 0⟩, 0⟩) := .time (Timestamp.regular_of_parseLayout? hday)
  have hyear := (Token.infer_text_equal_iff hregular rfl).1 hspelt
  have hlong : ¬(Token.time ⟨2932897, ⟨0, 0⟩, 0⟩).ShortYear := by decide +kernel
  exact hlong hyear

end Interpreter

end RuleExpr
