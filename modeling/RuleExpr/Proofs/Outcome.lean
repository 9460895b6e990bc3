import RuleExpr.Action
import RuleExpr.Proofs.Except

/-!
# Outcomes

What can be said about the values that a computation gives, if it gives one: `Yields P` for a result, `Action.Yields P`
for an action in any scope. `Fails P` says the same of the failure of a result, if it is one.
-/

namespace RuleExpr

/-- If the outcome is a value, it satisfies `P`. -/
def Yields {α : Type} (P : α → Prop) (r : Except Error α) : Prop := ∀ a, r = .ok a → P a

namespace Yields

variable {α β : Type} {P : β → Prop}

theorem ok {b : β} (h : P b) : Yields P (.ok b) := fun _ he => by
  cases he
  exact h

theorem error (e : Error) : Yields P (.error e) := fun _ he => by cases he

theorem mono {Q : β → Prop} {x : Except Error β} (hx : Yields Q x) (h : ∀ b, Q b → P b) : Yields P x := fun b hb =>
  h b (hx b hb)

theorem bind {x : Except Error α} {f : α → Except Error β} (h : ∀ a, Yields P (f a)) : Yields P (x >>= f) := by
  cases x with
  | error e => exact error e
  | ok a => exact h a

theorem map {x : Except Error α} {f : α → β} (h : ∀ a, P (f a)) : Yields P (x.map f) := by
  cases x with
  | error e => exact error e
  | ok a => exact ok (h a)

/-- What follows is needed for the values only that the first outcome can be. -/
theorem bind_of {Q : α → Prop} {x : Except Error α} {f : α → Except Error β} (hx : Yields Q x)
    (h : ∀ a, Q a → Yields P (f a)) : Yields P (x >>= f) := by
  cases x with
  | error e => exact error e
  | ok a => exact h a (hx a rfl)

theorem map_of {Q : α → Prop} {x : Except Error α} {f : α → β} (hx : Yields Q x) (h : ∀ a, Q a → P (f a)) :
    Yields P (x.map f) := by
  cases x with
  | error e => exact error e
  | ok a => exact ok (h a (hx a rfl))

/-- What is made of each element of a list, in order. -/
theorem mapM {f : α → Except Error β} {l : List α} (h : ∀ a ∈ l, Yields P (f a)) :
    Yields (fun bs => ∀ b ∈ bs, P b) (l.mapM f) := by
  induction l with
  | nil => exact ok (List.forall_mem_nil _)
  | cons a l ih =>
    obtain ⟨ha, hl⟩ := List.forall_mem_cons.1 h
    rw [List.mapM_cons]
    exact bind_of ha fun b hb => bind_of (ih hl) fun bs hbs => ok (List.forall_mem_cons.2 ⟨hb, hbs⟩)

end Yields

namespace Action

/-- Every value that the action gives satisfies `P`. -/
def Yields {α : Type} (P : α → Prop) (x : Action α) : Prop := ∀ c s, RuleExpr.Yields P (x c s).1

namespace Yields

variable {α β : Type} {P : β → Prop}

theorem pure {b : β} (h : P b) : Yields P (Pure.pure b) := fun _ _ => .ok h

theorem ofExcept {r : Except Error β} (h : RuleExpr.Yields P r) : Yields P (Action.ofExcept r) := fun _ _ => h

theorem bind {x : Action α} {f : α → Action β} (h : ∀ a, Yields P (f a)) : Yields P (x >>= f) := fun c s => by
  show RuleExpr.Yields P (Action.bind x f c s).1
  unfold Action.bind
  split
  · exact h _ _ _
  · exact .error _

end Yields

end Action

/-- If the outcome is a failure, it satisfies `P`. -/
def Fails {α : Type} (P : Error → Prop) (r : Except Error α) : Prop := ∀ e, r = .error e → P e

namespace Fails

variable {α β : Type} {P : Error → Prop}

theorem ok (a : α) : Fails P (.ok a) := fun _ he => by cases he

theorem error {e : Error} (h : P e) : Fails P (.error e : Except Error α) := fun _ he => by
  cases he
  exact h

theorem mono {Q : Error → Prop} {x : Except Error α} (hx : Fails Q x) (h : ∀ e, Q e → P e) : Fails P x := fun e he =>
  h e (hx e he)

/-- What follows is needed for the value only that comes before it. -/
theorem bind {x : Except Error α} {f : α → Except Error β} (hx : Fails P x) (hf : ∀ a, x = .ok a → Fails P (f a)) :
    Fails P (x >>= f) := by
  cases x with
  | error e => exact error (hx e rfl)
  | ok a => exact hf a rfl

theorem map {x : Except Error α} {f : α → β} (hx : Fails P x) : Fails P (x.map f) := by
  cases x with
  | error e => exact error (hx e rfl)
  | ok a => exact ok (f a)

theorem mapError {ε : Type} {x : Except ε α} {f : ε → Error} (h : ∀ e, P (f e)) : Fails P (x.mapError f) := by
  cases x with
  | error e => exact error (h e)
  | ok a => exact ok a

/-! A loop fails as one of its steps does. -/

theorem mapM {f : α → Except Error β} {l : List α} (h : ∀ a ∈ l, Fails P (f a)) : Fails P (l.mapM f) := by
  induction l with
  | nil => exact ok []
  | cons a l ih =>
    obtain ⟨ha, hl⟩ := List.forall_mem_cons.1 h
    rw [List.mapM_cons]
    exact bind ha fun b _ => bind (ih hl) fun bs _ => ok (b :: bs)

theorem anyM {f : α → Except Error Bool} {l : List α} (h : ∀ a ∈ l, Fails P (f a)) : Fails P (l.anyM f) := by
  induction l with
  | nil => exact ok false
  | cons a l ih =>
    obtain ⟨ha, hl⟩ := List.forall_mem_cons.1 h
    rw [List.anyM_cons]
    refine bind ha fun b _ => ?_
    cases b with
    | true => exact ok true
    | false => exact ih hl

theorem allM {f : α → Except Error Bool} {l : List α} (h : ∀ a ∈ l, Fails P (f a)) : Fails P (l.allM f) := by
  induction l with
  | nil => exact ok true
  | cons a l ih =>
    obtain ⟨ha, hl⟩ := List.forall_mem_cons.1 h
    rw [List.allM_cons]
    refine bind ha fun b _ => ?_
    cases b with
    | true => exact ih hl
    | false => exact ok false

end Fails

namespace Action

variable {α β : Type} {P : Error → Prop} {c : Context} {s : Scope}

/-- An action fails first, or what follows the value that it gives does. -/
theorem fails_bind {x : Action α} {f : α → Action β} (hx : Fails P (x c s).1)
    (hf : ∀ a s', x c s = (.ok a, s') → Fails P (f a c s').1) : Fails P ((x >>= f) c s).1 := by
  show Fails P (Action.bind x f c s).1
  unfold Action.bind
  split
  · next a s' he => exact hf a s' he
  · next he => exact .error (hx _ (congrArg Prod.fst he))

/-- A result leaves the scope as it is. -/
theorem fails_ofExcept {r : Except Error α} {f : α → Action β} (hr : Fails P r)
    (hf : ∀ a, r = .ok a → Fails P (f a c s).1) : Fails P ((ofExcept r >>= f) c s).1 :=
  fails_bind hr fun a s' he => by
    cases he
    exact hf a rfl

end Action

end RuleExpr
