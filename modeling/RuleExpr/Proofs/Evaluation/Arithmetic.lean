import RuleExpr.Proofs.Decimal.Rational
import RuleExpr.Proofs.Evaluation.Catalogue

/-!
# Arithmetic expressions

Expressions over `+`, `-` and `*` with decimals at the leaves, as blocks (`Expression.toToken`).

A nested sum could give a string for the look-ahead, so the overload of `+` for strings is chosen first for a sum whose
first operand is one, and another one for the values. Whatever is chosen first, the operands are evaluated, and of the
functions in the catalogue that have the name of an operator only that for decimals accepts decimals
(`Operator.sole`). So by induction on the expression, one step being `runsTo_node`, the operands have their
values, or there is a cause why one of them has none (`runsTo`).

The evaluator multiplies decimals whose scales are words of 32 bits. Where the scales of all products fit
(`Expression.Fits`), what it computes denotes the exact value (`toRat_exact`), and where they do not, it overflows.

- **An expression evaluates to its value if the depth limit admits it, and otherwise fails at the limit**, unless the
  scales of a product overflow (`evaluate_expression`);
- without the bound on the scales that is false (`not_evaluates_exactly`).
-/

namespace RuleExpr.Arithmetic

/-! ## Expressions -/

/-- The functions that expressions are made of. -/
inductive Operator where
  | plus
  | minus
  | times
  deriving DecidableEq

namespace Operator

/-- The name of the function. -/
def head : Operator → String
  | plus => "+"
  | minus => "-"
  | times => "*"

/-- The built-in for decimals with that name. -/
def body : Operator → Arithmetic
  | plus => .add
  | minus => .subtract
  | times => .multiply

/-- What comes of one or more operands, from the left; the difference of a single one is its negation. -/
def combine {α : Type} [Add α] [Sub α] [Neg α] (mul : α → α → α) : Operator → α → List α → α
  | plus, a, as => as.foldl (· + ·) a
  | minus, a, [] => -a
  | minus, a, b :: bs => (b :: bs).foldl (· - ·) a
  | times, a, as => as.foldl mul a

end Operator

/-- An operator with one or more operands, or a decimal. -/
inductive Expression where
  | literal (d : Decimal)
  | node (op : Operator) (first : Expression) (rest : List Expression)

namespace Expression

section Fold

variable {α : Type} (literal : Decimal → α) (node : Operator → α → List α → α)

mutual

/-- What an expression comes to, from what its leaves and its operators do. -/
def fold : Expression → α
  | .literal d => literal d
  | .node op first rest => node op (fold first) (foldAll rest)

/-- What each of the expressions comes to. -/
def foldAll : List Expression → List α
  | [] => []
  | e :: es => fold e :: foldAll es

end

theorem foldAll_eq_map (es : List Expression) : foldAll literal node es = es.map (fold literal node) := by
  induction es with
  | nil => rfl
  | cons e es ih => rw [foldAll, ih, List.map_cons]

theorem fold_node (op : Operator) (first : Expression) (rest : List Expression) :
    fold literal node (.node op first rest) =
      node op (fold literal node first) (rest.map (fold literal node)) := by
  rw [fold, foldAll_eq_map]

end Fold

/-- Induction with a hypothesis for each operand. -/
@[induction_eliminator]
theorem induct {P : Expression → Prop} (literal : ∀ d, P (.literal d))
    (node : ∀ op first rest, P first → (∀ e ∈ rest, P e) → P (.node op first rest)) (e : Expression) : P e :=
  @Expression.rec P (fun es => ∀ e ∈ es, P e) literal node (List.forall_mem_nil P)
    (fun _ _ he hes => List.forall_mem_cons.2 ⟨he, hes⟩) e

/-- The expression as a token. -/
def toToken : Expression → Token := fold .decimal fun op t ts => .block op.head (t :: ts)

/-- The rational that the expression denotes. -/
def value : Expression → ℚ := fold Decimal.toRat (Operator.combine (· * ·))

/-- That rational as a decimal, whatever its scale. -/
def exact : Expression → Decimal := fold id (Operator.combine Decimal.product)

/-- The nesting depth of the blocks. -/
def depth : Expression → Nat := fold (fun _ => 0) fun _ n ns => ns.foldr max n + 1

section Node

variable {op : Operator} {first : Expression} {rest : List Expression}

theorem toToken_node : toToken (.node op first rest) = .block op.head ((first :: rest).map toToken) :=
  fold_node _ _ op first rest

theorem value_node : value (.node op first rest) = op.combine (· * ·) first.value (rest.map value) :=
  fold_node _ _ op first rest

theorem exact_node : exact (.node op first rest) = op.combine Decimal.product first.exact (rest.map exact) :=
  fold_node _ _ op first rest

theorem depth_node_le_iff {n : Nat} :
    depth (.node op first rest) ≤ n + 1 ↔ ∀ e ∈ first :: rest, e.depth ≤ n := by
  have hmax (ns : List Nat) (m : Nat) : ns.foldr max m ≤ n ↔ m ≤ n ∧ ∀ k ∈ ns, k ≤ n := by
    induction ns with
    | nil => simp
    | cons k ns ih => rw [List.foldr_cons, Nat.max_le, ih, List.forall_mem_cons, and_left_comm]
  rw [depth, fold_node, Nat.succ_le_succ_iff, hmax, List.forall_mem_map, List.forall_mem_cons]

end Node

/-! ## Exact values -/

end Expression

/-- The scales of a product, taken from the left, sum to words of 32 bits. -/
def ScalesFit : Decimal → List Decimal → Prop
  | _, [] => True
  | a, b :: bs => a.scale + b.scale < 2 ^ 32 ∧ ScalesFit (a.product b) bs

section Combine

open Decimal

/-- Exact steps from the left are exact together. -/
theorem toRat_foldl {op : Decimal → Decimal → Decimal} {op' : ℚ → ℚ → ℚ}
    (h : ∀ a b, (op a b).toRat = op' a.toRat b.toRat) (a : Decimal) (as : List Decimal) :
    (as.foldl op a).toRat = (as.map toRat).foldl op' a.toRat := by
  induction as generalizing a with
  | nil => rfl
  | cons b bs ih => rw [List.foldl_cons, ih, h, List.map_cons, List.foldl_cons]

theorem toRat_combine (op : Operator) (a : Decimal) (as : List Decimal) :
    (op.combine product a as).toRat = op.combine (· * ·) a.toRat (as.map toRat) := by
  cases op with
  | plus => exact toRat_foldl toRat_add a as
  | minus =>
    cases as with
    | nil => exact toRat_neg a
    | cons b bs => exact toRat_foldl toRat_sub a (b :: bs)
  | times => exact toRat_foldl toRat_product a as

end Combine

namespace Expression

/-- The exact decimal denotes the value. -/
theorem toRat_exact (e : Expression) : e.exact.toRat = e.value := by
  induction e with
  | literal d => rfl
  | node op first rest ihfirst ihrest =>
    rw [exact_node, toRat_combine, value_node, ihfirst, List.map_map]
    congr 1
    exact List.map_congr_left ihrest

/-- The scales of all products fit. -/
inductive Fits : Expression → Prop
  | literal (d : Decimal) : Fits (.literal d)
  | node {op : Operator} {first : Expression} {rest : List Expression} (hoperands : ∀ e ∈ first :: rest, Fits e)
      (hscales : op = .times → ScalesFit first.exact (rest.map exact)) : Fits (.node op first rest)

theorem fits_node_iff {op : Operator} {first : Expression} {rest : List Expression} : Fits (.node op first rest) ↔
    (∀ e ∈ first :: rest, e.Fits) ∧ (op = .times → ScalesFit first.exact (rest.map exact)) := by
  constructor
  · rintro ⟨⟩
    exact ⟨‹_›, ‹_›⟩
  · exact fun h => .node h.1 h.2

end Expression

/-! ## The functions of the operators -/

namespace Operator

/-- The declaration of the function for decimals. -/
def signature (op : Operator) : Signature where
  name := op.head
  parameters := [.decimal, .decimal]
  variadic := true
  returns := .decimal

/-- Whether the function is the one for decimals. -/
def implementedBy (op : Operator) (f : Function) : Bool := f.declares op.signature (.arithmetic op.body)

theorem exists_implementedBy (op : Operator) : ∃ f ∈ RuleExpr.catalogue, op.implementedBy f = true := by
  have h : RuleExpr.catalogue.any op.implementedBy = true := by cases op <;> decide +kernel
  exact List.any_eq_true.1 h

/-- **The functions with the name of an operator evaluate their arguments, and that for decimals is the only one that
accepts a decimal in front.** -/
theorem implementedBy_of_accepts (op : Operator) : ∀ f ∈ RuleExpr.catalogue, f.signature.key = op.head →
    f.signature.evaluatesAll = true ∧
      ((f.signature.parameterKind 0).accepts Kind.decimal = true → op.implementedBy f = true) := by
  cases op <;> decide +kernel

theorem foldCase_head (op : Operator) : Text.foldCase op.head = op.head := by cases op <;> decide

theorem head_isEmpty (op : Operator) : op.head.isEmpty = false := by cases op <;> decide

theorem parameterKind_signature (op : Operator) (i : Nat) : op.signature.parameterKind i = Kind.decimal := by
  rcases i with _ | _ | i <;> rfl

theorem admits_signature (op : Operator) (count : Nat) : op.signature.admits (count + 1) = true :=
  decide_eq_true (Nat.le_add_left 2 count)

/-- The function for decimals is the only one with the name of its operator that takes a decimal first. -/
theorem sole (op : Operator) (count : Nat) :
    Function.SoleFirst op.head (count + 1) Kind.decimal op.signature (.arithmetic op.body) := by
  constructor
  · obtain ⟨f, hf, hop⟩ := op.exists_implementedBy
    have hdeclared := Function.declared_of_declares hop
    exact ⟨f, hf, hdeclared.key, (hdeclared.admits_eq _).trans (op.admits_signature count), hdeclared⟩
  · intro f hf hkey _ haccepts
    exact Function.declared_of_declares
      ((op.implementedBy_of_accepts f hf (hkey.trans op.foldCase_head)).2 haccepts)

end Operator

section Run

variable {function : String} {a : Decimal} {as : List Decimal}

theorem foldFrom_decimals (op : Decimal → Decimal → Decimal) (a : Decimal) (as : List Decimal) :
    foldFrom function (fun a b => .ok (op a b)) a (as.map .decimal) = .ok (as.foldl op a) := by
  induction as generalizing a with
  | nil => rfl
  | cons b bs ih => exact ih (op a b)

theorem fold_decimals (op : Decimal → Decimal → Decimal) (a : Decimal) (as : List Decimal) :
    fold function (fun a b => .ok (op a b)) ((a :: as).map .decimal) = .ok (.decimal (as.foldl op a)) := by
  show (foldFrom function _ a (as.map .decimal)).bind _ = _
  rw [foldFrom_decimals]
  rfl

/-- A product of decimals is the exact one if the scales fit, and overflows where they first do not. -/
theorem foldFrom_products (a : Decimal) (as : List Decimal) :
    (ScalesFit a as → foldFrom function (fun a b => (a.mul b).mapError .decimal) a (as.map .decimal) =
        .ok (as.foldl Decimal.product a)) ∧
      (¬ScalesFit a as → foldFrom function (fun a b => (a.mul b).mapError .decimal) a (as.map .decimal) =
        .error .overflow) := by
  induction as generalizing a with
  | nil => exact ⟨fun _ => rfl, fun h => absurd trivial h⟩
  | cons b bs ih =>
    have hstep : foldFrom function (fun a b => (a.mul b).mapError .decimal) a ((b :: bs).map .decimal) =
        (a.mul b).mapError .decimal >>= fun d => foldFrom function _ d (bs.map .decimal) := rfl
    rcases Nat.lt_or_ge (a.scale + b.scale) (2 ^ 32) with hlt | hle
    · rw [hstep, Decimal.mul_of_lt hlt]
      exact ⟨fun h => (ih _).1 h.2, fun h => (ih _).2 fun hrest => h ⟨hlt, hrest⟩⟩
    · rw [hstep, Decimal.mul_of_le hle]
      exact ⟨fun h => absurd h.1 (Nat.not_lt_of_le hle), fun _ => rfl⟩

/-- The functions for decimals combine them. -/
theorem run_decimals (precision : Nat) {op : Operator} (h : op = .times → ScalesFit a as) :
    op.body.run precision ((a :: as).map .decimal) = .ok (.decimal (op.combine Decimal.product a as)) := by
  cases op with
  | plus => exact fold_decimals _ a as
  | minus =>
    cases as with
    | nil => rfl
    | cons b bs => exact fold_decimals _ a (b :: bs)
  | times =>
    show (foldFrom "*" _ a (as.map .decimal)).bind _ = _
    rw [(foldFrom_products a as).1 (h rfl)]
    rfl

theorem run_of_not_scalesFit (precision : Nat) {op : Operator} (hop : op = .times) (h : ¬ScalesFit a as) :
    op.body.run precision ((a :: as).map .decimal) = .error .overflow := by
  subst hop
  show (foldFrom "*" _ a (as.map .decimal)).bind _ = _
  rw [(foldFrom_products a as).2 h]
  rfl

end Run

/-! ## Choice -/

theorem accepts_decimal : Kind.decimal.accepts Kind.decimal = true := by decide

theorem decimal_quotes : Kind.decimal.quotes = false := by decide

section Choice

variable {chain : List Scope} {op : Operator} {f : Function}

theorem evaluatesAll_of_mem_admitted (h : HasCatalogue chain) {count : Nat} (hf : f ∈ admitted chain op.head count) :
    f.signature.evaluatesAll = true :=
  (op.implementedBy_of_accepts f (mem_catalogue_of_admitted h.builtins hf)
    ((key_of_admitted hf).trans op.foldCase_head)).1

/-- A parameter for decimals accepts every expression for the look-ahead. -/
theorem acceptsChild_toToken (h : HasCatalogue chain) (e : Expression) :
    acceptsChild chain Kind.decimal e.toToken = .ok true := by
  cases e with
  | literal d => exact congrArg Except.ok accepts_decimal
  | node op first rest =>
    rw [Expression.toToken_node]
    exact acceptsChild_call (h.offers _) op.head_isEmpty (op.sole _) accepts_decimal

theorem acceptsChildren_toToken (h : HasCatalogue chain) (op : Operator) (es : List Expression) :
    acceptsChildren chain op.signature (es.map Expression.toToken) = .ok true :=
  acceptsChildren_of_kind op.parameterKind_signature (List.forall_mem_map.2 fun e _ => acceptsChild_toToken h e)

/-- Some function is resolved for a node, and it quotes nothing. -/
theorem exists_resolve_node (h : HasCatalogue chain) (op : Operator) (first : Expression) (rest : List Expression) :
    ∃ f, resolve chain op.head ((first :: rest).map Expression.toToken) = .ok (some f) ∧
      f.signature.evaluatesAll = true := by
  obtain ⟨g, hg, hkey, hadmits, hop⟩ := (op.sole (rest.map Expression.toToken).length).exists_mem
  have hadmitted : g ∈ admitted chain op.head ((first :: rest).map Expression.toToken).length :=
    (h.offers _).mem_admitted hg hkey hadmits
  obtain ⟨f, hf, hresolve⟩ := (h.offers _).exists_resolve hadmitted
    ((hop.acceptsChildren_eq _ _).trans (acceptsChildren_toToken h op (first :: rest)))
  exact ⟨f, hresolve, evaluatesAll_of_mem_admitted h hf⟩

end Choice

/-! ## Evaluation -/

namespace Expression

/-- A cause for which an expression fails: it is nested more deeply than the depth limit admits, or scales of it do not
fit. -/
def Stops (depth limit : Nat) (e : Expression) (err : Error) : Prop :=
  err.root = .recursionLimit limit ∧ depth < e.depth ∨ err.root = .overflow ∧ ¬e.Fits

/-- An expression evaluates to the exact decimal if the depth admits it and the scales fit, and otherwise fails for the
one cause or the other; the scope stays. -/
def RunsTo (depth : Nat) (c : Context) (s : Scope) (e : Expression) : Prop :=
  (e.depth ≤ depth → e.Fits → evaluate depth e.toToken c s = (.ok (.decimal e.exact), s)) ∧
    (¬(e.depth ≤ depth ∧ e.Fits) → ∃ err, evaluate depth e.toToken c s = (.error err, s) ∧
      e.Stops depth c.config.maxDepth err)

section Run

variable {depth limit : Nat} {c : Context} {s : Scope} {signature : Signature} {op : Operator} {first : Expression}
  {rest : List Expression}

theorem runsTo_literal (d : Decimal) : RunsTo depth c s (.literal d) :=
  ⟨fun _ _ => congrFun (congrFun (evaluate_of_not_block rfl) c) s,
    fun h => absurd ⟨Nat.zero_le depth, .literal d⟩ h⟩

/-- What stops an operand stops the node. -/
theorem Stops.node {e : Expression} {err : Error} (he : e ∈ first :: rest) (h : e.Stops depth limit err) :
    Stops (depth + 1) limit (.node op first rest) err := by
  refine h.imp (And.imp_right fun hlt => ?_) (And.imp_right fun hfits hnode => ?_)
  · by_contra hle
    exact absurd (depth_node_le_iff.1 (Nat.le_of_not_lt hle) e he) (Nat.not_le_of_lt hlt)
  · exact hfits ((fits_node_iff.1 hnode).1 e he)

theorem Stops.call {e : Expression} {err : Error} (h : e.Stops depth limit err) (text : String) :
    e.Stops depth limit (.call text err) := h

/-- Operands that can be evaluated have their results. -/
theorem forall₂_exact {es : List Expression} (hes : ∀ e ∈ es, e.RunsTo depth c s)
    (h : ∀ e ∈ es, e.depth ≤ depth ∧ e.Fits) :
    List.Forall₂ (fun t v => evaluate depth t c s = (.ok v, s)) (es.map toToken) ((es.map exact).map .decimal) := by
  rw [List.map_map, List.forall₂_map_left_iff, List.forall₂_map_right_iff, List.forall₂_same]
  exact fun e he => (hes e he).1 (h e he).1 (h e he).2

/-- The first operand that cannot be evaluated is the end. -/
theorem evaluateArguments_of_stops (hq : signature.evaluatesAll = true) {es : List Expression}
    (hes : ∀ e ∈ es, e.RunsTo depth c s) (h : ¬∀ e ∈ es, e.depth ≤ depth ∧ e.Fits) (i : Nat) :
    ∃ err, evaluateArguments (evaluate depth) signature i (es.map toToken) c s = (.error err, s) ∧
      ∃ e ∈ es, e.Stops depth c.config.maxDepth err := by
  induction es generalizing i with
  | nil => exact absurd (List.forall_mem_nil _) h
  | cons e es ih =>
    obtain ⟨he, hes⟩ := List.forall_mem_cons.1 hes
    simp only [List.map_cons, evaluateArguments_cons, evaluateArgument_of_evaluatesAll hq]
    by_cases hfirst : e.depth ≤ depth ∧ e.Fits
    · have hv : Action.within signature (evaluate depth e.toToken) c s = (.ok (.decimal e.exact), s) := by
        rw [Action.within, he.1 hfirst.1 hfirst.2]
      obtain ⟨err, hrun, e', hmem, hstops⟩ := ih hes (fun hall => h (List.forall_mem_cons.2 ⟨hfirst, hall⟩)) (i + 1)
      refine ⟨err, ?_, e', List.mem_cons_of_mem _ hmem, hstops⟩
      rw [Action.bind_of_ok hv]
      exact Action.bind_of_error hrun
    · obtain ⟨err, hrun, hstops⟩ := he.2 hfirst
      have hv : Action.within signature (evaluate depth e.toToken) c s = (.error (.call signature.render err), s) := by
        rw [Action.within, hrun]
      exact ⟨_, Action.bind_of_error hv, e, List.mem_cons_self, hstops.call _⟩

theorem evaluate_node (op : Operator) (first : Expression) (rest : List Expression) :
    evaluate (depth + 1) (toToken (.node op first rest)) =
      evaluateBlock (evaluate depth) op.head ((first :: rest).map toToken) := by
  rw [toToken_node, evaluate]

/-- Operands that have their results are combined. -/
theorem evaluate_of_operands (h : HasCatalogue (s :: c.parents)) (hes : ∀ e ∈ first :: rest, e.RunsTo depth c s)
    (hall : ∀ e ∈ first :: rest, e.depth ≤ depth ∧ e.Fits) {r : Except Error Token}
    (hrun : op.body.run c.config.divisionPrecision (((first :: rest).map exact).map .decimal) = r) :
    ∃ text, evaluate (depth + 1) (toToken (.node op first rest)) c s = (r.mapError (.call text), s) := by
  have hvalues : acceptsValues op.signature (((first :: rest).map exact).map .decimal) = true :=
    acceptsValues_of_kind op.parameterKind_signature (List.forall_mem_map.2 fun _ _ => accepts_decimal)
  have hbody : Builtin.run (evaluate depth) (.arithmetic op.body) (((first :: rest).map exact).map .decimal) c s =
      (r, s) := congrArg (·, s) hrun
  rw [evaluate_node]
  exact evaluateBlock_of_first_steady (h.offers _) op.head_isEmpty (op.sole _) rfl decimal_quotes
    (acceptsChildren_toToken h op _) (forall₂_exact hes hall) hvalues hbody

/-- One level: the operands are evaluated one level further down, and what is run combines their values. -/
theorem runsTo_node (h : HasCatalogue (s :: c.parents)) (hes : ∀ e ∈ first :: rest, e.RunsTo depth c s) :
    RunsTo (depth + 1) c s (.node op first rest) := by
  constructor
  · intro hd hfits
    obtain ⟨hoperands, hscales⟩ := fits_node_iff.1 hfits
    obtain ⟨text, hrun⟩ := evaluate_of_operands h hes
      (fun e he => ⟨depth_node_le_iff.1 hd e he, hoperands e he⟩) (run_decimals _ hscales)
    rw [hrun, exact_node]
    rfl
  · intro hnot
    by_cases hall : ∀ e ∈ first :: rest, e.depth ≤ depth ∧ e.Fits
    · -- so it is the scales of this product that do not fit
      have hfits : ¬Fits (.node op first rest) := fun hfits =>
        hnot ⟨depth_node_le_iff.2 fun e he => (hall e he).1, hfits⟩
      obtain ⟨hop, hscales⟩ : op = .times ∧ ¬ScalesFit first.exact (rest.map exact) :=
        Classical.not_imp.1 fun hscales => hfits (.node (fun e he => (hall e he).2) hscales)
      obtain ⟨text, hrun⟩ := evaluate_of_operands h hes hall (run_of_not_scalesFit _ hop hscales)
      exact ⟨_, hrun, .inr ⟨rfl, hfits⟩⟩
    · obtain ⟨f, hf, hq⟩ := exists_resolve_node h op first rest
      obtain ⟨err, hargs, e, he, hstops⟩ := evaluateArguments_of_stops hq hes hall 0
      have hprepare : prepare (evaluate depth) op.head ((first :: rest).map toToken) c s = (.error err, s) := by
        rw [prepare_of_some hf]
        exact Action.bind_of_error hargs
      rw [evaluate_node]
      exact ⟨err, evaluateBlock_of_error op.head_isEmpty hprepare, hstops.node he⟩

/-- **Every expression evaluates to its exact decimal or fails for a cause.** -/
theorem runsTo (h : HasCatalogue (s :: c.parents)) (e : Expression) (depth : Nat) : e.RunsTo depth c s := by
  induction e generalizing depth with
  | literal d => exact runsTo_literal d
  | node op first rest ihfirst ihrest =>
    cases depth with
    | zero =>
      have hdeep : 0 < depth (.node op first rest) := by
        rw [Expression.depth, fold_node]
        exact Nat.succ_pos _
      refine ⟨fun hd => absurd hd (Nat.not_le_of_lt hdeep), fun _ => ⟨.recursionLimit c.config.maxDepth, ?_, ?_⟩⟩
      · rw [toToken_node]
        rfl
      · exact .inl ⟨rfl, hdeep⟩
    | succ depth => exact runsTo_node h (List.forall_mem_cons.2 ⟨ihfirst depth, fun e he => ihrest e he depth⟩)

end Run

end Expression

section Interpreter

open Interpreter (root)

/-- In an interpreter. -/
theorem evaluate_toToken {i : Interpreter} (hc : HasCatalogue i.chain) (hd : i.config.dryRun = false)
    (e : Expression) :
    (e.depth ≤ i.config.maxDepth → e.Fits → i.evaluate e.toToken = (.ok (.decimal e.exact), i)) ∧
      (¬(e.depth ≤ i.config.maxDepth ∧ e.Fits) → ∃ err, i.evaluate e.toToken = (.error err, i) ∧
        e.Stops i.config.maxDepth i.config.maxDepth err) := by
  obtain ⟨hvalue, hstops⟩ := Expression.runsTo (c := ⟨i.config, i.parents⟩) (s := i.scope) hc e i.config.maxDepth
  rw [Interpreter.evaluate_of_not_dryRun hd]
  constructor
  · intro hle hfits
    rw [Interpreter.run, hvalue hle hfits]
  · intro hnot
    obtain ⟨err, hrun, herr⟩ := hstops hnot
    exact ⟨err, Interpreter.run_steady hrun, herr⟩

/-- **Arithmetic programs compute exactly.** With the catalogue and nothing else visible, take an expression in which
the scales of every product fit in words of 32 bits. If the depth limit admits its nesting, it evaluates to the decimal
that is its exact value; a deeper one fails, and the cause is the limit. Where scales do not fit, evaluation fails, too:
it overflows, unless the limit is met before. The interpreter is the same afterwards. -/
theorem evaluate_expression {i : Interpreter} (hc : HasCatalogue i.chain) (hd : i.config.dryRun = false)
    (e : Expression) :
    (e.Fits → e.depth ≤ i.config.maxDepth →
      ∃ d : Decimal, i.evaluate e.toToken = (.ok (.decimal d), i) ∧ d.toRat = e.value) ∧
    (e.Fits → i.config.maxDepth < e.depth → ∃ err, i.evaluate e.toToken = (.error err, i) ∧
      err.root = .recursionLimit i.config.maxDepth) ∧
    (¬e.Fits → ∃ err, i.evaluate e.toToken = (.error err, i) ∧
      (err.root = .overflow ∨ err.root = .recursionLimit i.config.maxDepth ∧ i.config.maxDepth < e.depth)) := by
  obtain ⟨hvalue, hstops⟩ := evaluate_toToken hc hd e
  refine ⟨fun hfits hle => ⟨_, hvalue hle hfits, e.toRat_exact⟩, fun hfits hlt => ?_, fun hfits => ?_⟩
  · obtain ⟨err, hrun, hroot⟩ := hstops fun h => absurd h.1 (Nat.not_le_of_lt hlt)
    exact ⟨err, hrun, (hroot.resolve_right fun h => h.2 hfits).1⟩
  · obtain ⟨err, hrun, hroot⟩ := hstops fun h => hfits h.2
    exact ⟨err, hrun, hroot.symm.imp And.left id⟩

/-- `(+ (+ 1.5) (* 2 (- 3)))` -/
def sumOfProduct : Expression :=
  .node .plus (.node .plus (.literal (.ofScaled 15 1)) [])
    [.node .times (.literal 2) [.node .minus (.literal 3) []]]

theorem fits_sumOfProduct : sumOfProduct.Fits := by
  have hproduct : ScalesFit 2 [-3] := ⟨by decide, trivial⟩
  have hnegation : Expression.Fits (.node .minus (.literal 3) []) :=
    .node (List.forall_mem_singleton.2 (.literal 3)) nofun
  have hfirst : Expression.Fits (.node .plus (.literal (.ofScaled 15 1)) []) :=
    .node (List.forall_mem_singleton.2 (.literal _)) nofun
  have hsecond : Expression.Fits (.node .times (.literal 2) [.node .minus (.literal 3) []]) :=
    .node (List.forall_mem_cons.2 ⟨.literal 2, List.forall_mem_singleton.2 hnegation⟩) fun _ => hproduct
  exact .node (List.forall_mem_cons.2 ⟨hfirst, List.forall_mem_singleton.2 hsecond⟩) nofun

/-- Three levels are enough for a sum whose first operand is one, and two are not. -/
theorem evaluate_expression_sum :
    HasCatalogue (root { maxDepth := 3 }).chain ∧ HasCatalogue (root { maxDepth := 2 }).chain ∧
      (root { maxDepth := 3 }).config.dryRun = false ∧ (root { maxDepth := 2 }).config.dryRun = false ∧
      (∃ d : Decimal, ((root { maxDepth := 3 }).evaluate sumOfProduct.toToken).1 = .ok (.decimal d) ∧
        d.toRat = -9 / 2) ∧
      ∃ err, ((root { maxDepth := 2 }).evaluate sumOfProduct.toToken).1 = .error err ∧
        err.root = .recursionLimit 2 := by
  have hdeep := evaluate_expression (HasCatalogue.root { maxDepth := 3 } (.map [])) rfl sumOfProduct
  have hflat := evaluate_expression (HasCatalogue.root { maxDepth := 2 } (.map [])) rfl sumOfProduct
  obtain ⟨d, hrun, hd⟩ := hdeep.1 fits_sumOfProduct (by decide)
  obtain ⟨err, hlimit, hroot⟩ := hflat.2.1 fits_sumOfProduct (by decide)
  refine ⟨HasCatalogue.root _ _, HasCatalogue.root _ _, rfl, rfl, ⟨d, congrArg Prod.fst hrun, ?_⟩, err,
    congrArg Prod.fst hlimit, hroot⟩
  have hexact : sumOfProduct.exact = .ofScaled (-45) 1 := by decide
  rw [hd, ← sumOfProduct.toRat_exact, hexact, Decimal.toRat_ofScaled, Decimal.fraction]
  norm_num

end Interpreter

/-! ## Scales beyond a word -/

section Power

/-- The decimal `10 ^ -s`. -/
def unitAt (s : Nat) : Decimal := ⟨1, s, .inr (by decide)⟩

theorem unitAt_product (s t : Nat) : (unitAt s).product (unitAt t) = unitAt (s + t) :=
  Decimal.ofScaled_self (unitAt (s + t))

theorem foldl_unitAt (n s t : Nat) :
    (List.replicate n (unitAt s)).foldl Decimal.product (unitAt t) = unitAt (t + n * s) := by
  induction n generalizing t with
  | zero => rw [Nat.zero_mul, Nat.add_zero, List.replicate_zero, List.foldl_nil]
  | succ n ih =>
    rw [List.replicate_succ, List.foldl_cons, unitAt_product, ih, Nat.succ_mul, Nat.add_assoc, Nat.add_comm s]

/-- The last scale of a product is that of the whole. -/
theorem lt_of_scalesFit {n s t : Nat} (h : ScalesFit (unitAt t) (List.replicate (n + 1) (unitAt s))) :
    t + (n + 1) * s < 2 ^ 32 := by
  induction n generalizing t with
  | zero => simpa [unitAt] using h.1
  | succ n ih =>
    obtain ⟨-, hrest⟩ := h
    rw [unitAt_product] at hrest
    have hlt := ih hrest
    rw [Nat.succ_mul]
    omega

/-- A product of `n + 1` equal factors. -/
def Expression.power (n : Nat) (e : Expression) : Expression := .node .times e (List.replicate n e)

variable {e : Expression}

theorem exact_power {s : Nat} (n : Nat) (he : e.exact = unitAt s) : (e.power n).exact = unitAt (s + n * s) := by
  rw [Expression.power, Expression.exact_node, List.map_replicate, he]
  exact foldl_unitAt n s s

/-- `1e-8192` to the power of `64 * 64 * 128`, by three products. -/
def vanishing : Expression := (((Expression.literal (unitAt 8192)).power 63).power 63).power 127

/-- The scales of the factors sum to `2 ^ 32`. -/
theorem not_fits_vanishing : ¬vanishing.Fits := by
  have hinner : ((Expression.literal (unitAt 8192)).power 63).exact = unitAt (2 ^ 19) :=
    exact_power (s := 2 ^ 13) 63 rfl
  have hmiddle : (((Expression.literal (unitAt 8192)).power 63).power 63).exact = unitAt (2 ^ 25) :=
    exact_power 63 hinner
  intro h
  have hfit := (Expression.fits_node_iff.1 h).2 rfl
  rw [List.map_replicate, hmiddle] at hfit
  exact absurd (lt_of_scalesFit hfit) (by decide)

/-- **A product can overflow.** The scales of these factors do not sum to a word. -/
theorem not_evaluates_exactly : ¬ ∀ (i : Interpreter) (e : Expression), HasCatalogue i.chain →
    i.config.dryRun = false → e.depth ≤ i.config.maxDepth →
      ∃ d : Decimal, (i.evaluate e.toToken).1 = .ok (.decimal d) ∧ d.toRat = e.value := by
  intro h
  have hcatalogue : HasCatalogue (Interpreter.root {}).chain := HasCatalogue.root {} (.map [])
  obtain ⟨d, hrun, -⟩ := h (.root {}) vanishing hcatalogue rfl (by decide +kernel)
  obtain ⟨err, herror, -⟩ := (evaluate_toToken hcatalogue rfl vanishing).2 fun hall => not_fits_vanishing hall.2
  rw [herror] at hrun
  cases hrun

end Power

end RuleExpr.Arithmetic
