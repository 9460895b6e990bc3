import Mathlib.Data.List.Nodup
import RuleExpr.Proofs.Evaluation.Call

/-!
# Registries hold no duplicates

What makes two signatures the same is their identity (`Signature.identity`), so a registry holds no two entries of one
signature (`Distinct`) exactly when the identities of its entries are distinct. An entry that takes the place of its
like leaves the identities as they are; a new entry comes only where its identity is not yet there.

With distinct entries a signature finds one entry at most (`Place`), and the first entry found is that one.

The registries of a scope stay distinct under every change that built-ins, programs of the host or the host itself make
(`distinct_evaluate`).
-/

namespace RuleExpr

namespace Signature

/-- What tells the entries of a registry apart: all but the documentation and the case of the name. -/
def identity (s : Signature) : String × List Kind × Bool × Kind := (s.key, s.parameters, s.variadic, s.returns)

theorem same_iff {s t : Signature} : s.same t = true ↔ s.identity = t.identity := by
  simp only [same, identity, Bool.and_eq_true, beq_iff_eq, Prod.mk.injEq, and_assoc]

theorem same_eq_false_iff {s t : Signature} : s.same t = false ↔ s.identity ≠ t.identity := by
  rw [← Bool.not_eq_true, same_iff]

end Signature

namespace Registry

variable {α : Type} {signature : α → Signature} {s : Signature} {entries before after : List α} {e entry : α}

/-- No two entries have the same signature. -/
def Distinct (signature : α → Signature) (entries : List α) : Prop :=
  entries.Pairwise fun d e => (signature d).same (signature e) = false

theorem distinct_iff : Distinct signature entries ↔ (entries.map fun e => (signature e).identity).Nodup := by
  rw [Distinct, List.Nodup, List.pairwise_map]
  simp only [Signature.same_eq_false_iff]

theorem has_iff : has signature s entries = true ↔ ∃ e ∈ entries, (signature e).same s = true := List.any_eq_true

theorem has_eq_false_iff : has signature s entries = false ↔ ∀ e ∈ entries, (signature e).same s = false := by
  rw [has, List.any_eq_false]
  simp only [Bool.not_eq_true]

/-! ## The place of an entry -/

/-- The entry with the signature, between those before and after it, is the only one. -/
structure Place (signature : α → Signature) (s : Signature) (entries before : List α) (e : α) (after : List α) :
    Prop where
  split : entries = before ++ e :: after
  same : (signature e).same s = true
  others : ∀ d ∈ before ++ after, (signature d).same s = false

/-- Among distinct entries each is the only one with its signature. -/
theorem exists_place_of_mem (hd : Distinct signature entries) (he : e ∈ entries)
    (hs : (signature e).same s = true) : ∃ before after, Place signature s entries before e after := by
  obtain ⟨before, after, rfl⟩ := List.append_of_mem he
  refine ⟨before, after, rfl, hs, fun d hm => ?_⟩
  rw [distinct_iff, List.map_append, List.map_cons, List.nodup_middle, ← List.map_append, List.nodup_cons] at hd
  rw [Signature.same_eq_false_iff, ← Signature.same_iff.1 hs]
  exact fun h => hd.1 (List.mem_map.2 ⟨d, hm, h⟩)

theorem exists_place (hd : Distinct signature entries) (h : has signature s entries = true) :
    ∃ before e after, Place signature s entries before e after := by
  obtain ⟨e, he, hs⟩ := has_iff.1 h
  obtain ⟨before, after, hp⟩ := exists_place_of_mem hd he hs
  exact ⟨before, e, after, hp⟩

namespace Place

/-- The first entry with the signature is the one in its place. -/
theorem replace (h : Place signature (signature entry) entries before e after) :
    replace signature entry entries = before ++ entry :: after := by
  obtain ⟨rfl, hs, ho⟩ := h
  induction before with
  | nil => exact if_pos hs
  | cons d before ih =>
    rw [List.cons_append, Registry.replace, if_neg, ih fun d hd => ho d (List.mem_cons_of_mem _ hd), List.cons_append]
    rw [ho d List.mem_cons_self]
    exact Bool.false_ne_true

theorem eraseP (h : Place signature s entries before e after) :
    entries.eraseP (fun e => (signature e).same s) = before ++ after := by
  obtain ⟨rfl, hs, ho⟩ := h
  have hbefore : ∀ d ∈ before, ¬ (signature d).same s = true := fun d hd => by
    rw [ho d (List.mem_append_left _ hd)]
    exact Bool.false_ne_true
  have hhead : (e :: after).eraseP (fun d => (signature d).same s) = after :=
    List.eraseP_cons_of_pos (p := fun d => (signature d).same s) hs
  rw [List.eraseP_append_right _ hbefore, hhead]

end Place

/-! ## Changes -/

theorem distinct_cons (hd : Distinct signature entries) (h : has signature (signature entry) entries = false) :
    Distinct signature (entry :: entries) := by
  refine List.pairwise_cons.2 ⟨fun e he => ?_, hd⟩
  have := has_eq_false_iff.1 h e he
  rw [Signature.same_eq_false_iff] at this ⊢
  exact this.symm

/-- The identities stay as they are. -/
theorem distinct_replace (hd : Distinct signature entries) : Distinct signature (replace signature entry entries) := by
  have hmap : (replace signature entry entries).map (fun e => (signature e).identity) =
      entries.map fun e => (signature e).identity := by
    clear hd
    induction entries with
    | nil => rfl
    | cons d entries ih =>
      rw [replace]
      split
      · next hs => rw [List.map_cons, List.map_cons, Signature.same_iff.1 hs]
      · rw [List.map_cons, List.map_cons, ih]
  rw [distinct_iff] at hd ⊢
  rwa [hmap]

theorem distinct_erase (hd : Distinct signature entries) :
    Distinct signature (entries.eraseP fun e => (signature e).same s) := hd.sublist List.eraseP_sublist

theorem distinct_upsert (hd : Distinct signature entries) : Distinct signature (upsert signature entry entries) := by
  unfold upsert
  split
  · exact distinct_replace hd
  · next h => exact distinct_cons hd (Bool.not_eq_true _ ▸ h)

theorem distinct_register? {l : List α} (hd : Distinct signature entries)
    (h : register? signature entry entries = some l) : Distinct signature l := by
  unfold register? at h
  split at h
  · cases h
  · next hn =>
    cases h
    exact distinct_cons hd (Bool.not_eq_true _ ▸ hn)

theorem distinct_update? {l : List α} (hd : Distinct signature entries)
    (h : update? signature entry entries = some l) : Distinct signature l := by
  unfold update? at h
  split at h
  · cases h
    exact distinct_replace hd
  · cases h

theorem distinct_remove? {l : List α} (hd : Distinct signature entries)
    (h : remove? signature s entries = some l) : Distinct signature l := by
  unfold remove? at h
  split at h
  · cases h
    exact distinct_erase hd
  · cases h

end Registry

/-! ## Scopes -/

namespace Scope

open Registry

variable {s : Scope}

/-- No two functions of the scope have the same signature, and no two templates. -/
structure Distinct (s : Scope) : Prop where
  functions : Registry.Distinct Function.signature s.functions
  templates : Registry.Distinct Template.signature s.templates

namespace Distinct

theorem empty : Distinct {} := ⟨List.Pairwise.nil, List.Pairwise.nil⟩

theorem changeFunctions {conflict : Conflict} {o : Option (List Function)} (h : s.Distinct)
    (ho : ∀ functions, o = some functions → Registry.Distinct Function.signature functions) :
    (s.changeFunctions conflict o).2.Distinct := by
  cases o with
  | none => exact h
  | some functions => exact ⟨ho functions rfl, h.templates⟩

theorem changeTemplates {conflict : Conflict} {o : Option (List Template)} (h : s.Distinct)
    (ho : ∀ templates, o = some templates → Registry.Distinct Template.signature templates) :
    (s.changeTemplates conflict o).2.Distinct := by
  cases o with
  | none => exact h
  | some templates => exact ⟨h.functions, ho templates rfl⟩

theorem registerFunction (h : s.Distinct) (f : Function) : (s.registerFunction f).2.Distinct :=
  h.changeFunctions fun _ => distinct_register? h.functions

theorem updateFunction (h : s.Distinct) (f : Function) : (s.updateFunction f).2.Distinct :=
  h.changeFunctions fun _ => distinct_update? h.functions

theorem removeFunction (h : s.Distinct) (signature : Signature) : (s.removeFunction signature).2.Distinct :=
  h.changeFunctions fun _ => distinct_remove? h.functions

theorem registerTemplate (h : s.Distinct) (t : Template) : (s.registerTemplate t).2.Distinct :=
  h.changeTemplates fun _ => distinct_register? h.templates

theorem updateTemplate (h : s.Distinct) (t : Template) : (s.updateTemplate t).2.Distinct :=
  h.changeTemplates fun _ => distinct_update? h.templates

theorem removeTemplate (h : s.Distinct) (signature : Signature) : (s.removeTemplate signature).2.Distinct :=
  h.changeTemplates fun _ => distinct_remove? h.templates

theorem setTemplate (h : s.Distinct) (t : Template) : (s.setTemplate t).Distinct :=
  ⟨h.functions, distinct_upsert h.templates⟩

end Distinct

end Scope

/-! ## Evaluation -/

/-- Where the entries of the scope were distinct, they are so still. -/
def KeepsDistinct (_ : Context) (s s' : Scope) : Prop := s.Distinct → s'.Distinct

instance : Development KeepsDistinct where
  refl _ _ h := h
  trans h h' hd := h' (h hd)
  rebind _ _ _ h := ⟨h.functions, h.templates⟩
  setTemplate _ _ t h := h.setTemplate t

section Follows

open RuleExpr.Action (Follows)

variable {ev : Evaluator}

/-- A change of the scope, with what follows its outcome. -/
theorem follows_change {f : Scope → Except Error Unit × Scope} {next : Except Error Unit → Action Token}
    (hf : ∀ s : Scope, s.Distinct → (f s).2.Distinct) (hnext : ∀ r, Follows KeepsDistinct (next r)) :
    Follows KeepsDistinct (Action.attempt (Action.change f) >>= next) := .bind (.attempt fun _ s => hf s) hnext

theorem Evaluator.follows_request (h : ev.Follows KeepsDistinct) (t : Token) :
    (ev.request t).Follows KeepsDistinct := by
  refine .bind .config fun config => ?_
  split
  · exact .bind .chain fun _ => .bind (.ofExcept _) fun _ => .pure _
  · exact h t

/-- Whatever a program of the host asks for, the entries stay distinct. -/
theorem Program.follows_run (h : ev.Follows KeepsDistinct) : (p : Program) → Follows KeepsDistinct (p.run ev)
  | .done _ => .ofExcept _
  | .evaluate token next => .bind (.attempt (Evaluator.follows_request h token)) fun r => (next r).follows_run h
  | .validate _ next => .bind .chain fun _ => .bind (.attempt (.ofExcept _)) fun r => (next r).follows_run h
  | .read _ next => .bind .chain fun _ => (next _).follows_run h
  | .write path value next => .bind (.attempt (.write path value)) fun r => (next r).follows_run h
  | .get _ next => .bind .chain fun _ => (next _).follows_run h
  | .set key value next => .bind (.attempt (.set key value)) fun r => (next r).follows_run h
  | .binding next => .bind (fun _ _ hd => hd) fun r => (next r).follows_run h
  | .setBinding _ next => .bind (fun _ _ hd => ⟨hd.functions, hd.templates⟩) fun _ => next.follows_run h
  | .config next => .bind .config fun config => (next config).follows_run h
  | .functions next => .bind .chain fun _ => (next _).follows_run h
  | .templates next => .bind .chain fun _ => (next _).follows_run h
  | .registerFunction _ _ next => follows_change (fun _ hd => hd.registerFunction _) fun r => (next r).follows_run h
  | .updateFunction _ _ next => follows_change (fun _ hd => hd.updateFunction _) fun r => (next r).follows_run h
  | .removeFunction _ next => follows_change (fun _ hd => hd.removeFunction _) fun r => (next r).follows_run h
  | .registerTemplate _ next => follows_change (fun _ hd => hd.registerTemplate _) fun r => (next r).follows_run h
  | .updateTemplate _ next => follows_change (fun _ hd => hd.updateTemplate _) fun r => (next r).follows_run h
  | .removeTemplate _ next => follows_change (fun _ hd => hd.removeTemplate _) fun r => (next r).follows_run h
  | .inScope _ next => .bind (.attempt (.inScope _)) fun r => (next r).follows_run h

theorem Body.follows_run (h : ev.Follows KeepsDistinct) (body : Body) (args : List Token) :
    Follows KeepsDistinct (body.run ev args) := by
  cases body with
  | builtin op => exact op.follows_run h args
  | host run => exact (run args).follows_run h

theorem callsFollow_keepsDistinct : CallsFollow KeepsDistinct := fun {_ _ _ c _ s' call} hev h hd =>
  Call.follows_run hev (call.function.body.follows_run hev call.args) c s' ((follows_prepare hev).of_run h hd)

/-- **Evaluation keeps the entries distinct**, whatever functions it calls. -/
theorem distinct_evaluate (depth : Nat) : Evaluator.Follows KeepsDistinct (evaluate depth) :=
  follows_evaluate callsFollow_keepsDistinct depth

end Follows

end RuleExpr
