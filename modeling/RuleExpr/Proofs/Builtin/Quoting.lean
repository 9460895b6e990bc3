import Mathlib.Data.List.Pairwise
import RuleExpr.Proofs.Evaluation.Call

/-!
# Quoted arguments of the built-in functions

The signatures of the catalogue say which arguments a built-in gets evaluated. Two overloads of a name that admit the
same number of arguments quote the same ones (`quotesAlike_of_mem_catalogue`), so it does not matter which of the two
was chosen when the arguments were evaluated. What a built-in passes on as a value it does not quote
(`takesData_of_mem_catalogue`), and the built-ins that do something to the scope have names of their own
(`hasOwnName_of_mem_catalogue`).
-/

namespace RuleExpr

namespace Signature

variable {s t : Signature}

/-- Whether every argument is evaluated. -/
def evaluatesAll (s : Signature) : Bool := s.parameters.all fun k => !k.quotes

theorem parameterKind_mem (h : s.parameters ≠ []) (i : Nat) : s.parameterKind i ∈ s.parameters := by
  rw [parameterKind, List.getLast?_eq_some_getLast h]
  show (s.parameters[i]?).getD _ ∈ _
  cases hi : s.parameters[i]? with
  | none => exact List.getLast_mem h
  | some k => exact List.mem_of_getElem? hi

theorem quotes_of_evaluatesAll (h : s.evaluatesAll = true) (i : Nat) : s.quotes i = false := by
  by_cases hp : s.parameters = []
  · simp only [quotes, parameterKind, hp, List.getLast?_nil]
    decide
  · have hk := List.all_eq_true.1 h _ (parameterKind_mem hp i)
    rwa [Bool.not_eq_true'] at hk

/-- Whether the two quote the same arguments, or never admit the same number of them. -/
def quotesAlike (s t : Signature) : Bool :=
  s.evaluatesAll && t.evaluatesAll || s.parameters == t.parameters
    || !s.variadic && !t.variadic && s.parameters.length != t.parameters.length

theorem quotesAlike_refl (s : Signature) : s.quotesAlike s = true := by simp [quotesAlike]

theorem quotesAlike_comm (s t : Signature) : s.quotesAlike t = t.quotesAlike s := by
  rw [Bool.eq_iff_iff]
  simp only [quotesAlike, Bool.or_eq_true, Bool.and_eq_true, beq_iff_eq, Bool.not_eq_true', bne_iff_ne]
  grind

theorem quotesAlike_cases {count : Nat} (h : s.quotesAlike t = true) (hs : s.admits count = true)
    (ht : t.admits count = true) :
    s.evaluatesAll = true ∧ t.evaluatesAll = true ∨ s.parameters = t.parameters := by
  simp only [quotesAlike, Bool.or_eq_true, Bool.and_eq_true, beq_iff_eq, Bool.not_eq_true', bne_iff_ne] at h
  rcases h with (h | h) | ⟨⟨hvs, hvt⟩, hne⟩
  · exact .inl h
  · exact .inr h
  · rw [admits, hvs, if_neg Bool.false_ne_true, beq_iff_eq] at hs
    rw [admits, hvt, if_neg Bool.false_ne_true, beq_iff_eq] at ht
    exact absurd (hs.symm.trans ht) hne

theorem quotes_eq_of_quotesAlike {count : Nat} (h : s.quotesAlike t = true) (hs : s.admits count = true)
    (ht : t.admits count = true) (i : Nat) : s.quotes i = t.quotes i := by
  rcases quotesAlike_cases h hs ht with ⟨hs, ht⟩ | hp
  · rw [quotes_of_evaluatesAll hs, quotes_of_evaluatesAll ht]
  · rw [quotes, quotes, parameterKind, parameterKind, hp]

theorem evaluatesAll_of_quotesAlike {count : Nat} (h : s.quotesAlike t = true) (hs : s.admits count = true)
    (ht : t.admits count = true) (he : s.evaluatesAll = true) : t.evaluatesAll = true := by
  rcases quotesAlike_cases h hs ht with ⟨-, ht⟩ | hp
  · exact ht
  · rwa [evaluatesAll, ← hp]

end Signature

theorem pairwise_quotesAlike : catalogue.Pairwise fun f g =>
    f.signature.key = g.signature.key → f.signature.quotesAlike g.signature = true := by
  decide +kernel

/-- **Overloads that admit the same number of arguments quote the same ones.** -/
theorem quotesAlike_of_mem_catalogue {f g : Function} (hf : f ∈ catalogue) (hg : g ∈ catalogue)
    (hkey : f.signature.key = g.signature.key) : f.signature.quotesAlike g.signature = true := by
  have hsymm : Std.Symm fun f g : Function =>
      f.signature.key = g.signature.key → f.signature.quotesAlike g.signature = true :=
    ⟨fun f g h hkey => Signature.quotesAlike_comm g.signature f.signature ▸ h hkey.symm⟩
  exact pairwise_quotesAlike.forall_of_forall (fun f _ _ => f.signature.quotesAlike_refl) hf hg hkey

section Admitted

variable {chain chain' : List Scope} {head : String} {count : Nat} {f g : Function}

/-- Whichever of the candidates for a call is run, the same arguments are quoted. -/
theorem quotes_eq_of_admitted (hf : f ∈ catalogue) (hg : g ∈ catalogue) (hfa : f ∈ admitted chain head count)
    (hga : g ∈ admitted chain' head count) (i : Nat) : f.signature.quotes i = g.signature.quotes i := by
  have hkey : f.signature.key = g.signature.key := (key_of_admitted hfa).trans (key_of_admitted hga).symm
  have halike := quotesAlike_of_mem_catalogue hf hg hkey
  exact Signature.quotes_eq_of_quotesAlike halike (mem_admitted hfa).2 (mem_admitted hga).2 i

end Admitted

namespace Function

/-- Whether the body passes on as values only arguments that are evaluated: all of a function that computes, the value
that is bound, the default of a reading. -/
def takesData (f : Function) : Bool :=
  match f.body with
  | .builtin (.binding .readOr) | .builtin (.control .bind) | .builtin (.control .bindLambda) => !f.signature.quotes 0
  | .builtin (.list _) | .builtin (.binding .write) => f.signature.evaluatesAll
  | .builtin _ => true
  | .host _ => false

/-- Whether the function has the name of its body, where the body does something to the scope, reads it, or recovers
from a failure. -/
def hasOwnName (f : Function) : Bool :=
  match f.body with
  | .builtin (.binding .read) => f.signature.key == "."
  | .builtin (.binding .write) => f.signature.key == "set"
  | .builtin (.control .recover) => f.signature.key == "catch"
  | .builtin (.control .setTemplate) => f.signature.key == "settemplate"
  | .builtin _ => true
  | .host _ => false

/-- Whether the function declares exactly then that it gives back trees, when its body does. -/
def declaresTrees (f : Function) : Bool :=
  match f.body with
  | .builtin (.control .identity) | .builtin (.control .instantiate) => f.signature.returns.quotes
  | .builtin _ => !f.signature.returns.quotes
  | .host _ => false

end Function

theorem takesData_of_mem_catalogue : ∀ f ∈ catalogue, f.takesData = true := by
  decide

theorem hasOwnName_of_mem_catalogue : ∀ f ∈ catalogue, f.hasOwnName = true := by
  decide +kernel

theorem declaresTrees_of_mem_catalogue : ∀ f ∈ catalogue, f.declaresTrees = true := by
  decide

end RuleExpr
