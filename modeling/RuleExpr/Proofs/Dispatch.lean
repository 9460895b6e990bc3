import RuleExpr.Dispatch
import RuleExpr.Proofs.Except

/-!
# What the choice of an overload comes to

Candidates are gone through one by one, with what is known so far in flags. Here is what each of these loops comes to,
by induction on the candidates with the flags left open:

- whether a name is known, and the union of the results of those that admit the argument count (`possibleReturns_eq`),
  which is what a look ahead sees (`lookAhead_of_unnamed`, `lookAhead_of_named`);
- an error where there are candidates and none of them admits the argument count, and else the first of those that admit
  it which is accepted (`select_eq`);
- the first of those that admit evaluated arguments which fits them, or else the first reason why one does not
  (`redispatch_eq`).
-/

namespace RuleExpr

variable {chain : List Scope} {name head : String} {children args : List Token} {count : Nat}

/-- The candidates that the argument count of a call leaves. -/
def admitted (chain : List Scope) (head : String) (count : Nat) : List Function :=
  (functionsNamed chain (Text.foldCase head)).filter fun f => f.signature.admits count

/-! ## Looking ahead -/

/-- What functions give, taken together. -/
def unionOfReturns (fs : List Function) : Kind := fs.foldl (fun k f => k.union f.signature.returns) Kind.empty

theorem possibleReturns_eq (known : Bool) (returns : Kind) (fs : List Function) :
    possibleReturns count known returns fs = (known || !fs.isEmpty,
      (fs.filter fun f => f.signature.admits count).foldl (fun k f => k.union f.signature.returns) returns) := by
  induction fs generalizing known returns with
  | nil => simp only [possibleReturns, List.isEmpty_nil, Bool.not_true, Bool.or_false, List.filter_nil, List.foldl_nil]
  | cons f fs ih =>
    rw [possibleReturns, ih, List.filter_cons]
    cases f.signature.admits count <;> simp

/-- A block that names no function is read as an atom if it has no children, and stays as it is otherwise. -/
theorem lookAhead_of_unnamed (hh : head.isEmpty = false) (h : functionsNamed chain (Text.foldCase head) = []) :
    lookAhead chain head children =
      if children.isEmpty then (Token.infer head).map Token.kind else .ok Kind.token := by
  simp only [lookAhead, hh, possibleReturns_eq, h]
  rfl

/-- A block that names functions could give what those of them give that admit its children. -/
theorem lookAhead_of_named (hh : head.isEmpty = false) (h : functionsNamed chain (Text.foldCase head) ≠ []) :
    lookAhead chain head children = .ok (
      let returns := unionOfReturns (admitted chain head children.length)
      if returns = Kind.empty then Kind.any else returns) := by
  have hknown : (false || !(functionsNamed chain (Text.foldCase head)).isEmpty) = true := by simpa using h
  simp only [lookAhead, hh, possibleReturns_eq, hknown]
  rfl

/-! ## The first that is accepted -/

theorem select_eq {α : Type} {signature : α → Signature} {accepts : Signature → Except Error Bool}
    (known found : Bool) (cs : List α) :
    select signature accepts name count known found cs =
      if (known = true ∨ cs ≠ []) ∧ found = false ∧ ∀ c ∈ cs, (signature c).admits count = false then
        .error (.arity name count)
      else (cs.filter fun c => (signature c).admits count).findM? fun c => accepts (signature c) := by
  induction cs generalizing known found with
  | nil => cases known <;> cases found <;> rfl
  | cons c cs ih =>
    rw [select, List.filter_cons]
    cases hc : (signature c).admits count with
    | false => simp [ih, hc]
    | true =>
      have hnone : ¬((known = true ∨ c :: cs ≠ []) ∧ found = false ∧
          ∀ d ∈ c :: cs, (signature d).admits count = false) := fun h => by simp [hc] at h
      rw [if_pos rfl, if_neg hnone, if_pos rfl]
      match ha : accepts (signature c) with
      | .error e => exact (findM?_cons_of_error (f := fun c => accepts (signature c)) ha).symm
      | .ok true => exact (findM?_cons_of_ok (f := fun c => accepts (signature c)) ha).symm
      | .ok false =>
        refine Eq.trans ?_ (findM?_cons_of_ok (f := fun c => accepts (signature c)) ha).symm
        exact (ih true true).trans (if_neg fun h => nomatch h.2.1)

/-! ## The first that fits values -/

/-- An evaluated argument of the wrong kind, if it is the first reason that is found. -/
def mismatchOf (mismatch : Option Error) (fs : List Function) (args : List Token) : Option Error :=
  mismatch.or (fs.findSome? fun f => firstMismatch f.signature args)

theorem selectForValues_eq (mismatch : Option Error) (fs : List Function) :
    selectForValues name args mismatch fs =
      match (fs.filter fun f => f.signature.admits args.length).find? fun f => acceptsValues f.signature args with
      | some f => .ok f
      | none => .error ((mismatchOf mismatch (fs.filter fun f => f.signature.admits args.length) args).getD
          (.arity name args.length)) := by
  induction fs generalizing mismatch with
  | nil => simp [selectForValues, mismatchOf]
  | cons f fs ih =>
    rw [selectForValues, List.filter_cons]
    cases hf : f.signature.admits args.length with
    | false => simpa [mismatchOf] using ih mismatch
    | true =>
      cases ha : acceptsValues f.signature args with
      | true => simp [ha]
      | false =>
        have hmismatch (fs : List Function) : mismatchOf mismatch (f :: fs) args =
            mismatchOf (if mismatch.isNone then firstMismatch f.signature args else mismatch) fs args := by
          cases mismatch <;> cases hm : firstMismatch f.signature args <;> simp [mismatchOf, hm]
        simp [ha, ih, hmismatch]

/-- Evaluated arguments get the first function that fits them, or else the first reason why one does not. -/
theorem redispatch_eq : redispatch chain head args =
    match (admitted chain head args.length).find? fun f => acceptsValues f.signature args with
    | some f => .ok f
    | none => .error (((admitted chain head args.length).findSome? fun f => firstMismatch f.signature args).getD
        (.arity head args.length)) :=
  selectForValues_eq none _

end RuleExpr
