import RuleExpr.Proofs.Simulation.Invariant

/-!
# Bindings do not change by themselves

Where no program has a block headed `set`, evaluation leaves the binding of its scope as it was (`binding_request`).
What a loop or `do` binds is bound in a scope of its own, and no function makes a block with a new head. Nothing is asked
of the values that are bound: a block in one of them is passed on, and not evaluated.
-/

namespace RuleExpr

/-- The binding of the innermost scope. -/
def innermostBinding : Invariant Token where
  call key _ := key ≠ "set"
  held _ _ := True
  keeps b chain := chain.head?.map Scope.binding = some b
  held_empty := trivial
  held_stuck _ _ _ _ := trivial
  read _ _ _ _ := .of_blocks fun _ _ => trivial
  write _ hc := absurd rfl hc
  put h _ _ := h
  enter _ _ := ⟨_, rfl⟩

/-- **Without `set`, evaluation leaves the binding of its scope as it was**, whether it succeeds or fails. -/
theorem binding_request {depth : Nat} {c : Context} {s : Scope} {t : Token} (hb : OnlyBuiltins (s :: c.parents))
    (ht : t.Avoids "set")
    (hts : ∀ scope ∈ s :: c.parents, ∀ template ∈ scope.templates, template.body.Avoids "set") :
    ((Evaluator.request (evaluate depth) t) c s).2.binding = s.binding := by
  have htree {u : Token} (hu : u.Avoids "set") : Token.Tree innermostBinding.call innermostBinding.held u :=
    .of_blocks (fun _ _ => trivial) hu
  have hs : innermostBinding.Holds s.binding (s :: c.parents) :=
    ⟨rfl, hb, fun scope hscope template htemplate => htree (hts scope hscope template htemplate)⟩
  exact Option.some.inj (Invariant.keeps_request depth (htree ht) hs).2.keeps

/-- The scope of a root interpreter in which a name has a value. -/
def namedScope : Scope := (Interpreter.root {} (.map [("x", .string "kept")])).scope

/-- `(do 5 x (. x))` -/
def rebinding : Token := .block "do" [.decimal 5, .string "x", .block "." [.string "x"]]

/-- A body binds its name elsewhere, also where the name has a value already. -/
theorem binding_request_do :
    OnlyBuiltins [namedScope] ∧ rebinding.Avoids "set" ∧
      (∀ scope ∈ [namedScope], ∀ template ∈ scope.templates, template.body.Avoids "set") ∧
      (Evaluator.request (evaluate 2) rebinding ⟨{}, []⟩ namedScope).1 = .ok (.decimal 5) ∧
      (Evaluator.request (evaluate 2) rebinding ⟨{}, []⟩ namedScope).2.binding = .map [("x", .string "kept")] := by
  have hb : OnlyBuiltins [namedScope] := OnlyBuiltins.root {} _ true
  have ht : rebinding.Avoids "set" := by decide +kernel
  have hts : ∀ scope ∈ [namedScope], ∀ template ∈ scope.templates, template.body.Avoids "set" :=
    List.forall_mem_singleton.2 (List.forall_mem_nil _)
  have hv : (Evaluator.request (evaluate 2) rebinding ⟨{}, []⟩ namedScope).1 = .ok (.decimal 5) := by cbv
  exact ⟨hb, ht, hts, hv, binding_request (c := ⟨{}, []⟩) hb ht hts⟩

end RuleExpr
