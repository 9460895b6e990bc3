import RuleExpr.Proofs.Evaluation.Catalogue

/-!
# Calls of operations

What a call gives when what its arguments evaluate to is known: of the access to names (`evaluate_reading`), of the test
for equality (`evaluate_equal`), of the tests for membership (`evaluate_contains`, `evaluate_notContains`), and of the
functions of one list (`ListFunction.evaluate_call`). Some of these share their names with functions of strings or of
several decimals; whatever the look-ahead chooses, for a list they are run.
-/

namespace RuleExpr

/-! ## Values as arguments -/

section Values

variable {c : Context} {s : Scope} {v : Token} {vs : List Token} {depth : Nat}

theorem acceptsChild_value (chain : List Scope) (hv : v.isBlock = false) :
    acceptsChild chain Kind.value v = .ok true := by
  have haccepts := congrArg (Except.ok (ε := Error)) (Token.value_accepts_kind hv)
  cases v with
  | block => cases hv
  | _ => exact haccepts

theorem list_accepts_list : Kind.list.accepts Kind.list = true := by decide

theorem acceptsChild_list (chain : List Scope) (items : List Token) :
    acceptsChild chain Kind.list (.list items) = .ok true := congrArg Except.ok list_accepts_list

theorem evaluate_value (hv : v.isBlock = false) : evaluate depth v c s = (.ok v, s) :=
  congrFun (congrFun (evaluate_of_not_block hv) c) s

/-- Values are passed as they are. -/
theorem forall₂_values (hvs : ∀ v ∈ vs, v.isBlock = false) :
    List.Forall₂ (fun t v => evaluate depth t c s = (.ok v, s)) vs vs :=
  List.forall₂_same.2 fun v hv => evaluate_value (hvs v hv)

/-- A scope in which nothing is registered offers what is offered around it. -/
theorem Offers.inner {chain : List Scope} {head : String} (h : Offers chain head) (binding : Token) :
    Offers ({ binding } :: chain) head := by
  obtain ⟨hbuiltins, hcomplete⟩ := h
  exact ⟨hbuiltins, hcomplete⟩

end Values

/-! ## Access to names -/

section Reading

/-- The call that reads what is at a path. -/
def reading (path : List String) : Token := .block "." (path.map .string)

/-- The declaration of the access to names. -/
def readSignature : Signature where
  name := "."
  parameters := [.atom]
  variadic := true
  returns := .value

theorem declares_read : (catalogue.filter fun f => f.signature.key == Text.foldCase ".").map
    (Function.declares · readSignature (.binding .read)) = [true] := by
  decide +kernel

theorem parameterKind_read (i : Nat) : readSignature.parameterKind i = Kind.atom := by
  rcases i with _ | i <;> rfl

theorem atom_accepts_string : Kind.atom.accepts Kind.string = true := by decide

/-- The access to names is the only function with its name, for any length of the path. -/
theorem sole_read (count : Nat) : Function.Sole "." count readSignature (.binding .read) :=
  Function.sole_of_key declares_read (decide_eq_true (Nat.le_add_left 1 count))

variable {c : Context} {s : Scope} {path : List String} {v : Token} {depth : Nat}

/-- A path gives the value that it leads to. -/
theorem evaluate_reading (h : Offers (s :: c.parents) ".") (hv : readPath (s :: c.parents) path = .ok v)
    (hb : v.isBlock = false) : evaluate (depth + 1) (reading path) c s = (.ok v, s) := by
  have hrun : Builtin.run (evaluate depth) (.binding .read) (path.map .string) c s = (.ok v, s) := by
    show (readPath (s :: c.parents) ((path.map Token.string).map Token.text), s) = _
    rw [List.map_map, show Token.text ∘ Token.string = id from rfl, List.map_id, hv]
  refine evaluateBlock_of_sole h rfl (sole_read _) rfl ?_ (forall₂_values ?_) ?_ hrun hb
  · exact acceptsChildren_of_kind parameterKind_read (List.forall_mem_map.2 fun _ _ =>
      congrArg Except.ok atom_accepts_string)
  · exact List.forall_mem_map.2 fun _ _ => rfl
  · exact acceptsValues_of_kind parameterKind_read (List.forall_mem_map.2 fun _ _ => atom_accepts_string)

/-- A path could lead to a value of any kind. -/
theorem acceptsChild_reading {chain : List Scope} {k : Kind} (h : Offers chain ".") (hk : k.accepts Kind.value = true)
    (path : List String) : acceptsChild chain k (reading path) = .ok true :=
  acceptsChild_call h rfl ((sole_read _).first Kind.atom) hk

/-- The name that a scope binds leads to its value. -/
theorem readPath_bound (chain : List Scope) (name : String) (v : Token) :
    readPath ({ binding := .map [(name, v)] } :: chain) [name] = .ok v := by
  simp [readPath, lookup, Token.child?, Entries.get?, readSteps]

end Reading

/-! ## Equality and membership -/

section Membership

/-- The declaration of the test for equality. -/
def equalitySignature : Signature where
  name := "="
  parameters := [.value, .value]
  returns := .boolean

/-- The declaration of the test whether a list has a value. -/
def containsSignature : Signature where
  name := "contains"
  parameters := [.list, .value]
  variadic := true
  returns := .boolean

/-- The declaration of the test whether values have no part of an atom. -/
def notContainsSignature : Signature where
  name := "notContains"
  parameters := [.atom, .value]
  variadic := true
  returns := .boolean

theorem sole_equality : Function.Sole "=" 2 equalitySignature (.comparison .equal) :=
  Function.sole_of_filter (by decide +kernel)

theorem sole_contains : Function.SoleFirst "contains" 2 Kind.list containsSignature (.list .contains) :=
  Function.soleFirst_of_filter (by decide +kernel)

theorem sole_notContains : Function.Sole "notContains" 2 notContainsSignature (.text .notContains) :=
  Function.sole_of_filter (by decide +kernel)

variable {c : Context} {s : Scope} {t u v w : Token} {items : List Token} {depth : Nat} {signature : Signature}

/-- Two arguments are accepted one by one. -/
theorem acceptsChildren_pair {chain : List Scope} :
    acceptsChildren chain signature [t, u] = .ok true ↔ acceptsChild chain (signature.parameterKind 0) t = .ok true ∧
      acceptsChild chain (signature.parameterKind 1) u = .ok true := by
  rw [acceptsChildren, allM_eq_true_iff]
  simp

theorem acceptsValues_pair (hq : signature.evaluatesAll = true) : acceptsValues signature [t, u] = true ↔
    (signature.parameterKind 0).accepts t.kind = true ∧ (signature.parameterKind 1).accepts u.kind = true := by
  simp [acceptsValues, Signature.quotes_of_evaluatesAll hq]

/-- Whether one of the items equals a value, tried one after the other. -/
def Token.isAmong (v : Token) (items : List Token) : Except Error Bool := items.anyM fun item => item.looseEqual v

/-- What a test gives, as the result of a call: its answer, or a failure for the same cause. -/
def Answers (test : Except Error Bool) (r : Except Error Token) : Prop :=
  match test with
  | .ok b => r = .ok (.boolean b)
  | .error e => ∃ e', r = .error e' ∧ e'.root = e.root

theorem answers_call (test : Except Error Bool) (text : String) :
    Answers test ((test.map .boolean).mapError (.call text)) := by
  cases test with
  | ok b => rfl
  | error e => exact ⟨_, rfl, rfl⟩

/-- Values are compared. -/
theorem evaluate_equal (h : Offers (s :: c.parents) "=") (hct : acceptsChild (s :: c.parents) Kind.value t = .ok true)
    (hcu : acceptsChild (s :: c.parents) Kind.value u = .ok true) (ht : evaluate depth t c s = (.ok v, s))
    (hu : evaluate depth u c s = (.ok w, s)) (hv : v.isBlock = false) (hw : w.isBlock = false) :
    ∃ r, evaluate (depth + 1) (.block "=" [t, u]) c s = (r, s) ∧ Answers (v.looseEqual w) r := by
  have hrun : Builtin.run (evaluate depth) (.comparison .equal) [v, w] c s = ((v.looseEqual w).map .boolean, s) := by
    show ((do let b ← v.looseEqual w; .ok (.boolean b) : Except Error Token), s) = _
    cases v.looseEqual w <;> rfl
  have hcall : ∃ text, evaluateBlock (evaluate depth) "=" [t, u] c s =
      (((v.looseEqual w).map .boolean).mapError (.call text), s) := by
    refine evaluateBlock_of_first_steady h rfl (sole_equality.first _) rfl rfl ?_ (.cons ht (.cons hu .nil)) ?_ hrun
    · exact acceptsChildren_pair.2 ⟨hct, hcu⟩
    · exact (acceptsValues_pair rfl).2 ⟨Token.value_accepts_kind hv, Token.value_accepts_kind hw⟩
  obtain ⟨text, hcall⟩ := hcall
  exact ⟨_, hcall, answers_call _ text⟩

/-- A list has a value if one of its elements equals it. -/
theorem evaluate_contains (h : Offers (s :: c.parents) "contains")
    (hct : acceptsChild (s :: c.parents) Kind.list t = .ok true) (ht : evaluate depth t c s = (.ok (.list items), s))
    (hv : v.isBlock = false) : ∃ r, evaluate (depth + 1) (.block "contains" [t, v]) c s = (r, s) ∧
      Answers (v.isAmong items) r := by
  have hrun : Builtin.run (evaluate depth) (.list .contains) [.list items, v] c s =
      ((v.isAmong items).map .boolean, s) := by
    show (([v].anyM fun v => v.isAmong items) >>= fun held => Except.ok (Token.boolean held), s) = _
    rw [List.anyM_cons]
    match v.isAmong items with
    | .error _ | .ok false | .ok true => rfl
  have hcall : ∃ text, evaluateBlock (evaluate depth) "contains" [t, v] c s =
      (((v.isAmong items).map .boolean).mapError (.call text), s) := by
    refine evaluateBlock_of_first_steady (a := .list items) h rfl sole_contains rfl rfl ?_
      (.cons ht (.cons (evaluate_value hv) .nil)) ?_ hrun
    · exact acceptsChildren_pair.2 ⟨hct, acceptsChild_value _ hv⟩
    · exact (acceptsValues_pair rfl).2 ⟨list_accepts_list, Token.value_accepts_kind hv⟩
  obtain ⟨text, hcall⟩ := hcall
  exact ⟨_, hcall, answers_call _ text⟩

theorem evaluate_notContains (h : Offers (s :: c.parents) "notContains")
    (hct : acceptsChild (s :: c.parents) Kind.value t = .ok true) (ht : evaluate depth t c s = (.ok (.list items), s))
    (hv : v.isBlock = false) (hatom : Kind.atom.accepts v.kind = true) :
    ∃ r, evaluate (depth + 1) (.block "notContains" [v, t]) c s = (r, s) ∧
      Answers ((v.isAmong items).map Bool.not) r := by
  have hatom' : acceptsChild (s :: c.parents) Kind.atom v = .ok true := by
    cases v with
    | block => cases hv
    | _ => exact congrArg Except.ok hatom
  have hrun : Builtin.run (evaluate depth) (.text .notContains) [v, .list items] c s =
      (((v.isAmong items).map Bool.not).map .boolean, s) := by
    show ([.list items].anyM (TextOperation.holds v) >>= fun held => Except.ok (Token.boolean !held), s) = _
    rw [List.anyM_cons]
    show ((v.isAmong items >>= _) >>= _, s) = _
    match v.isAmong items with
    | .error _ | .ok false | .ok true => rfl
  have hcall : ∃ text, evaluateBlock (evaluate depth) "notContains" [v, t] c s =
      ((((v.isAmong items).map Bool.not).map .boolean).mapError (.call text), s) := by
    refine evaluateBlock_of_first_steady h rfl (sole_notContains.first _) rfl rfl ?_
      (.cons (evaluate_value hv) (.cons ht .nil)) ?_ hrun
    · exact acceptsChildren_pair.2 ⟨hatom', hct⟩
    · exact (acceptsValues_pair rfl).2 ⟨hatom, Token.value_accepts_kind rfl⟩
  obtain ⟨text, hcall⟩ := hcall
  exact ⟨_, hcall, answers_call _ text⟩

end Membership

/-! ## Functions of one list -/

/-- Functions of one list. -/
inductive ListFunction where
  | head
  | reverse
  | sort
  | least
  | greatest
  | sum

namespace ListFunction

/-- The name of the function. -/
def name : ListFunction → String
  | head => "head"
  | reverse => "reverse"
  | sort => "sort"
  | least => "min"
  | greatest => "max"
  | sum => "sum"

/-- What the function does. -/
def op : ListFunction → ListOperation
  | head => .head
  | reverse => .reverse
  | sort => .sort
  | least => .leastOf
  | greatest => .greatestOf
  | sum => .sum

/-- What the function gives. -/
def returns : ListFunction → Kind
  | head => Kind.value
  | reverse | sort => Kind.list
  | least | greatest | sum => Kind.decimal

/-- The declaration of the function. -/
def signature (f : ListFunction) : Signature := ⟨f.name, [Kind.list], false, f.returns, "", ""⟩

/-- The call of the function. -/
def call (f : ListFunction) (t : Token) : Token := .block f.name [t]

variable (f : ListFunction)

/-- All functions of one list. -/
def all : List ListFunction := [head, reverse, sort, least, greatest, sum]

theorem mem_all : f ∈ all := by cases f <;> simp [all]

theorem declares_all : ∀ f ∈ all, (catalogue.filter fun g => g.signature.key == Text.foldCase f.name &&
    g.signature.admits 1 && (g.signature.parameterKind 0).accepts Kind.list).map
      (Function.declares · f.signature (.list f.op)) = [true] := by
  decide +kernel

/-- The function is the only one with its name that takes a list and nothing else. -/
theorem sole : Function.SoleFirst f.name 1 Kind.list f.signature (.list f.op) :=
  Function.soleFirst_of_filter (declares_all f f.mem_all)

theorem name_isEmpty : f.name.isEmpty = false := by cases f <;> rfl

theorem returns_quotes : f.returns.quotes = false := by cases f <;> rfl

theorem parameterKind_signature (i : Nat) : f.signature.parameterKind i = Kind.list := by
  rcases i with _ | i <;> rfl

/-- What the function gives could be wanted. -/
theorem acceptsChild_call {chain : List Scope} {k : Kind} (h : Offers chain f.name) (hk : k.accepts f.returns = true)
    (t : Token) : acceptsChild chain k (f.call t) = .ok true :=
  RuleExpr.acceptsChild_call h f.name_isEmpty f.sole hk

section Call

variable {c : Context} {s : Scope} {depth : Nat} {t : Token} {items : List Token}

/-- **A call with a list gives what the function gives**, a failure within the call, and leaves the scope as it is. -/
theorem evaluate_call (h : Offers (s :: c.parents) f.name) (hc : acceptsChild (s :: c.parents) Kind.list t = .ok true)
    (ht : evaluate depth t c s = (.ok (.list items), s)) :
    ∃ text, evaluate (depth + 1) (f.call t) c s = ((f.op.run [.list items]).mapError (.call text), s) := by
  exact evaluateBlock_of_first_steady (a := .list items) h f.name_isEmpty f.sole rfl f.returns_quotes
    (acceptsChildren_of_kind f.parameterKind_signature (List.forall_mem_singleton.2 hc)) (.cons ht .nil)
    (acceptsValues_of_kind f.parameterKind_signature (List.forall_mem_singleton.2 list_accepts_list)) rfl

/-- A value goes through. -/
theorem evaluate_call_of_ok {v : Token} (h : Offers (s :: c.parents) f.name)
    (hc : acceptsChild (s :: c.parents) Kind.list t = .ok true) (ht : evaluate depth t c s = (.ok (.list items), s))
    (hv : f.op.run [.list items] = .ok v) : evaluate (depth + 1) (f.call t) c s = (.ok v, s) := by
  obtain ⟨text, hcall⟩ := f.evaluate_call h hc ht
  rw [hcall, hv]
  rfl

/-- A call with a list that stands in it. -/
theorem run_call {i : Interpreter} (h : Offers i.chain f.name) (depth : Nat) (items : List Token) :
    ∃ text, i.run (evaluate (depth + 1) (f.call (.list items))) =
      ((f.op.run [.list items]).mapError (.call text), i) := by
  have hitems : evaluate depth (.list items) ⟨i.config, i.parents⟩ i.scope = (.ok (.list items), i.scope) :=
    evaluate_value rfl
  obtain ⟨text, hcall⟩ := f.evaluate_call (c := ⟨i.config, i.parents⟩) h (acceptsChild_list _ items) hitems
  exact ⟨text, Interpreter.run_steady hcall⟩

end Call

end ListFunction

end RuleExpr
