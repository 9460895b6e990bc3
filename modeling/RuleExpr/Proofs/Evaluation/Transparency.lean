import RuleExpr.Proofs.Scope
import RuleExpr.Proofs.Simulation.Invariant

/-!
# A new scope changes nothing that is seen

A token evaluates in a new scope to what it evaluates to in the scope around it, and afterwards the same value is seen
under every name (`newScope_transparent`). The two runs are related as long as both see the same functions, templates
and values, whatever scope they are in: a write puts a new value under its first name, made of the old value that is
seen there (`Scope.writePath_map`). Two things tell the scopes apart, and are excluded: the root of the innermost
binding, and a template that hides another one.
-/

namespace RuleExpr

open RuleExpr.Text
open Token (Data Tree)

theorem Text.toLower_eq_point {c : Char} (h : c.toLower = '.') : c = '.' := by
  unfold Char.toLower at h
  split at h
  · next hc =>
    -- the lower case of a letter is a letter
    have hlow : 65 ≤ c.val.toNat := hc.1
    have hhigh : c.val.toNat ≤ 90 := hc.2
    have hsum : (c.val.toNat + 32) % 2 ^ 32 = 46 := congrArg (fun d : Char => d.val.toNat) h
    omega
  · exact h

theorem Text.foldCase_eq_point {s : String} (h : foldCase s = ".") : s = "." := by
  have hl : s.toList.map Char.toLower = ['.'] := by
    have := congrArg String.toList h
    rwa [foldCase, String.toList_ofList] at this
  obtain ⟨c, hc, hp⟩ := List.map_eq_singleton_iff.1 hl
  rw [toLower_eq_point hp] at hc
  exact String.toList_inj.1 hc

namespace Token

/-- No block registers a template, and none reads the root of a binding. -/
def SeesNames (t : Token) : Prop := t.Avoids "settemplate" ∧ ∀ b ∈ t.blocks, b.1 = "." → b.2 ≠ []

/-- Such blocks by name, in lower case, and argument count. -/
def seesNames (key : String) (count : Nat) : Prop := key ≠ "settemplate" ∧ (key = "." → count ≠ 0)

theorem SeesNames.tree {t : Token} (h : t.SeesNames) : Tree seesNames (fun _ _ => True) t := by
  refine .of_blocks (fun _ _ => trivial) fun b hb => ⟨h.1 b hb, fun hp => ?_⟩
  have hc : b.2 ≠ [] := h.2 b hb (foldCase_eq_point hp)
  rwa [Ne, List.length_eq_zero_iff]

end Token

/-- Both states see the same functions, templates and values under every name. -/
structure SameSight (c : Context) (s : Scope) (c' : Context) (s' : Scope) : Prop where
  config : c'.config = c.config
  functions : ∀ key, functionsNamed (s' :: c'.parents) key = functionsNamed (s :: c.parents) key
  templates : ∀ key, templatesNamed (s' :: c'.parents) key = templatesNamed (s :: c.parents) key
  values : lookup (s' :: c'.parents) = lookup (s :: c.parents)
  map_left : ∃ m, s.binding = .map m
  map_right : ∃ m, s'.binding = .map m
  builtins : OnlyBuiltins (s :: c.parents)
  bodies : Bodies Token.seesNames (fun _ _ => True) (s :: c.parents)

namespace SameSight

variable {c c' : Context} {s s' : Scope} {path : List String} {value : Token}

/-- A new scope hides nothing. -/
theorem newScope {parents : List Scope} {config : Config} {m : Entries Token} (hm : s.binding = .map m)
    (hb : OnlyBuiltins (s :: parents)) (ht : Bodies Token.seesNames (fun _ _ => True) (s :: parents)) :
    SameSight ⟨config, parents⟩ s ⟨config, s :: parents⟩ {} where
  config := rfl
  functions _ := rfl
  templates _ := rfl
  values := rfl
  map_left := ⟨m, hm⟩
  map_right := ⟨[], rfl⟩
  builtins := hb
  bodies := ht

theorem enter (h : SameSight c s c' s') (entries : Entries Token) :
    SameSight { c with parents := s :: c.parents } { binding := .map entries }
      { c' with parents := s' :: c'.parents } { binding := .map entries } where
  config := h.config
  functions := h.functions
  templates := h.templates
  values := funext fun key => by
    have hl : ∀ chain, lookup ({ binding := .map entries } :: chain) key =
      (Entries.get? entries key).or (lookup chain key) := fun _ => lookup_map rfl key
    rw [hl, hl, h.values]
  map_left := ⟨entries, rfl⟩
  map_right := ⟨entries, rfl⟩
  builtins := h.builtins.newScope.of_functions_eq rfl
  bodies := h.bodies.newScope _

theorem readPath (h : SameSight c s c' s') (hp : path ≠ []) :
    readPath (s' :: c'.parents) path = readPath (s :: c.parents) path := by
  cases path with
  | nil => exact absurd rfl hp
  | cons first path => simp only [RuleExpr.readPath, h.values]

/-- A write makes the same of what is seen. -/
theorem writePath (h : SameSight c s c' s') (hp : path ≠ []) (value : Token) :
    (s'.writePath c'.parents path value).1 = (s.writePath c.parents path value).1 ∧
      SameSight c (s.writePath c.parents path value).2 c' (s'.writePath c'.parents path value).2 := by
  cases path with
  | nil => exact absurd rfl hp
  | cons first path =>
    obtain ⟨m, hm⟩ := h.map_left
    obtain ⟨m', hm'⟩ := h.map_right
    obtain ⟨n, hw, hseen⟩ := Scope.writePath_map c.parents hm first path value
    obtain ⟨n', hw', hseen'⟩ := Scope.writePath_map c'.parents hm' first path value
    rw [hw, hw', h.values]
    refine ⟨rfl, h.config, h.functions, h.templates, funext fun key => ?_, ⟨n, rfl⟩, ⟨n', rfl⟩,
      h.builtins.of_functions_eq rfl, h.bodies.of_templates_eq rfl⟩
    rw [hseen, hseen', h.values]

end SameSight

/-- Two runs that see the same. -/
def sameSight : Simulation Unit where
  call := Token.seesNames
  held _ _ := True
  escape := Simulation.NoEscape
  state _ := SameSight
  held_empty := trivial
  held_stuck _ _ _ _ _ := trivial
  escape_call := Simulation.NoEscape.call
  escape_bound := Simulation.NoEscape.isUnbound
  escape_catch := False.elim
  precision h := by rw [h.config]
  dryRun h := by rw [h.config]
  limit h := .inr (by rw [h.config])
  functions h _ := h.functions _
  builtins h _ := h.builtins.of_functionsNamed
  templates h := h.templates
  bodies h := h.bodies.of_templatesNamed
  read h hc := ⟨h.readPath (List.ne_nil_of_length_pos (Nat.pos_of_ne_zero (hc.2 rfl))),
    fun _ _ => .of_blocks fun _ _ => trivial⟩
  write h _ hp _ := h.writePath hp _
  put _ hc := absurd rfl hc.1
  enter h _ := ⟨(), h.enter _⟩

namespace Interpreter

theorem run_eq {α : Type} (i : Interpreter) (x : Action α) : i.run x =
    ((x ⟨i.config, i.parents⟩ i.scope).1, { i with scope := (x ⟨i.config, i.parents⟩ i.scope).2 }) := rfl

/-- **A new scope is transparent.** With the same depth, a token evaluates in it to the same value or fails with the
same error as in the scope around it, and afterwards the same is seen under every name. -/
theorem newScope_transparent {i : Interpreter} {t : Token} (hb : OnlyBuiltins i.chain)
    (hm : ∃ m, i.scope.binding = .map m) (ht : t.SeesNames)
    (hts : ∀ s ∈ i.chain, ∀ template ∈ s.templates, template.body.SeesNames) (depth : Nat) :
    (i.newScope.run (Evaluator.request (RuleExpr.evaluate depth) t)).1 =
        (i.run (Evaluator.request (RuleExpr.evaluate depth) t)).1 ∧
      ∀ key, lookup (i.newScope.run (Evaluator.request (RuleExpr.evaluate depth) t)).2.chain key =
        lookup (i.run (Evaluator.request (RuleExpr.evaluate depth) t)).2.chain key := by
  obtain ⟨m, hm⟩ := hm
  have hs : SameSight ⟨i.config, i.parents⟩ i.scope ⟨i.config, i.chain⟩ {} :=
    .newScope hm hb fun s hs template htemplate => (hts s hs template htemplate).tree
  have hr := relates_request (relates_evaluate (S := sameSight) (.inl rfl) depth) ht.tree () _ _ _ _ hs
  rw [run_eq, run_eq]
  dsimp only [newScope, chain] at hr ⊢
  revert hr
  generalize Evaluator.request _ t _ _ = r, Evaluator.request _ t _ _ = r'
  rintro (⟨-, h⟩ | h | h)
  · exact ⟨rfl, fun key => congrFun h.values key⟩
  · exact ⟨rfl, fun key => congrFun h.values key⟩
  · exact h.elim

/-- A root interpreter in which a name has a map. -/
def cartInterpreter : Interpreter := root {} (.map [("Cart", .map [("Owner", .string "Joe")])])

/-- `((set Cart Size "L") (. Cart))` -/
def resizing : Token :=
  .block "" [.block "set" [.string "Cart", .string "Size", .string "L"], .block "." [.string "Cart"]]

/-- The new scope changes a copy of the map and reads it back. -/
theorem newScope_transparent_set :
    let v := .map [("Owner", .string "Joe"), ("Size", .string "L")]
    OnlyBuiltins cartInterpreter.chain ∧ resizing.SeesNames ∧
      (cartInterpreter.run (Evaluator.request (RuleExpr.evaluate 2) resizing)).1 = .ok v ∧
      (cartInterpreter.newScope.run (Evaluator.request (RuleExpr.evaluate 2) resizing)).1 = .ok v := by
  have hb : OnlyBuiltins cartInterpreter.chain := OnlyBuiltins.root {} _ true
  have ht : resizing.SeesNames := ⟨by decide +kernel, by decide⟩
  have hts : ∀ s ∈ cartInterpreter.chain, ∀ template ∈ s.templates, template.body.SeesNames :=
    List.forall_mem_singleton.2 (List.forall_mem_nil _)
  have hv : (cartInterpreter.run (Evaluator.request (RuleExpr.evaluate 2) resizing)).1 =
      .ok (.map [("Owner", .string "Joe"), ("Size", .string "L")]) := by cbv
  exact ⟨hb, ht, hv, (newScope_transparent hb ⟨_, rfl⟩ ht hts 2).1.trans hv⟩

end Interpreter

end RuleExpr
