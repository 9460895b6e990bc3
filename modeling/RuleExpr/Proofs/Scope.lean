import RuleExpr.Scope
import RuleExpr.Proofs.Token.Update

/-!
# Reading and writing along a chain of scopes

Where the bindings of all scopes are such values, so is what is read, and what is written leaves them so
(`data_readPath`, `data_writePath`). The first step of a write copies a value into the innermost scope
(`Scope.inherit_cases`), and no name is seen differently for it (`Scope.lookup_inherit`). So where the innermost binding
is a map, a write changes what is seen under the first name of its path only, to the value seen before with the new one
put at the rest of the path (`writePath_map`); it does not matter which scope the old value came from.
-/

namespace RuleExpr

open Token (Apart Data)

/-! ## Values -/

section Values

variable {held : String → List Token → Prop} {chain parents : List Scope} {key : String} {path : List String}
  {value : Token}

theorem data_lookup (h : ∀ s ∈ chain, Data held s.binding) (hl : lookup chain key = some value) : Data held value := by
  obtain ⟨s, hs, hv⟩ := List.exists_of_findSome?_eq_some hl
  exact Token.data_child? (h s hs) hv

theorem data_readSteps {walked : List String} {t : Token} (h : Data held t) :
    Yields (Data held) (readSteps walked path t) := by
  induction path generalizing walked t with
  | nil => exact .ok h
  | cons segment path ih =>
    cases t with
    | map | list =>
      rw [readSteps]
      split
      · next c hc => exact ih (Token.data_child? h hc)
      · exact .error _
    | _ => exact .error _

/-- What is read is part of what is bound. -/
theorem data_readPath (h : ∀ s ∈ chain, Data held s.binding) : Yields (Data held) (readPath chain path) := by
  cases path with
  | nil =>
    cases chain with
    | nil => exact .ok .null
    | cons s parents => exact .ok (h s List.mem_cons_self)
  | cons first path =>
    rw [readPath]
    split
    · next t ht => exact data_readSteps (data_lookup h ht)
    · exact .error _

namespace Scope

variable {s : Scope}

theorem data_setAt (hv : Data held value) (hs : Data held s.binding) : Data held (s.setAt path value).2.binding := by
  rw [setAt, Token.assign_eq]
  cases hb : Token.setAt path value s.binding with
  | ok b => exact Token.data_setAt hv hs b hb
  | error => exact hs

theorem data_inherit (hs : Data held s.binding) (hp : ∀ s ∈ parents, Data held s.binding) :
    Data held (s.inherit parents key).2.binding := by
  unfold inherit
  split
  · next v _ hv => exact data_setAt (data_lookup hp hv) hs
  · exact hs

/-- What is written, and what is copied for it, comes from values. -/
theorem data_writePath (hv : Data held value) (hs : Data held s.binding) (hp : ∀ s ∈ parents, Data held s.binding) :
    Data held (s.writePath parents path value).2.binding := by
  unfold writePath
  split
  · exact hv
  · next first _ =>
    have hi : Data held (s.inherit parents first).2.binding := data_inherit hs hp
    split
    · next he =>
      rw [he] at hi
      exact hi
    · next he =>
      rw [he] at hi
      exact data_setAt hv hi

end Scope

end Values

/-! ## The copy before a write -/

section Writing

variable {s : Scope} {parents : List Scope} {first : String} {m : Entries Token}

theorem lookup_cons (s : Scope) (parents : List Scope) (key : String) :
    lookup (s :: parents) key = (s.binding.child? key).or (lookup parents key) := by
  rw [lookup, List.findSome?_cons]
  cases s.binding.child? key <;> rfl

namespace Scope

theorem setAt_cases (s : Scope) (path : List String) (value : Token) :
    (∃ b, Token.setAt path value s.binding = .ok b ∧ s.setAt path value = (.ok (), { s with binding := b })) ∨
      ∃ e, Token.setAt path value s.binding = .error e ∧ s.setAt path value = (.error e, s) := by
  rw [setAt, Token.assign_eq]
  cases Token.setAt path value s.binding with
  | ok b => exact .inl ⟨b, rfl, rfl⟩
  | error e => exact .inr ⟨e, rfl, rfl⟩

/-- The value that a write under a name copies into the scope: the one that outer scopes have, where the scope has none
and its root takes names. -/
def copied? (parents : List Scope) (key : String) (s : Scope) : Option Token :=
  if (s.binding.child? key).isNone && s.binding.isOpen then lookup parents key else none

/-- **The first step.** Either the scope has all that is seen under the name, or the value is copied, or it cannot be,
since the root of the scope takes no names. -/
theorem inherit_cases (s : Scope) (parents : List Scope) (key : String) :
    (s.inherit parents key = (.ok (), s) ∧ s.copied? parents key = none ∧
        s.binding.child? key = lookup (s :: parents) key) ∨
      (∃ v b, s.binding.child? key = none ∧ s.copied? parents key = some v ∧ lookup (s :: parents) key = some v ∧
        Token.setAt [key] v s.binding = .ok b ∧ s.inherit parents key = (.ok (), { s with binding := b })) ∨
      (s.binding.isOpen = false ∧ ∃ e, s.inherit parents key = (.error e, s)) := by
  cases hc : s.binding.child? key with
  | some v => exact .inl ⟨by simp [inherit, hc], by simp [copied?, hc], by simp [lookup_cons, hc]⟩
  | none =>
    cases hp : lookup parents key with
    | none => exact .inl ⟨by simp [inherit, hc, hp], by simp [copied?, hc, hp], by simp [lookup_cons, hc, hp]⟩
    | some v =>
      have hi : s.inherit parents key = s.setAt [key] v := by simp [inherit, hc, hp]
      have hseen : lookup (s :: parents) key = some v := by simp [lookup_cons, hc, hp]
      have hnew := Token.setAt_new v hc
      obtain ⟨b, hb, hs⟩ | ⟨e, he, hs⟩ := s.setAt_cases [key] v
      · have hopen : s.binding.isOpen = true := hnew.1 ⟨b, hb⟩
        exact .inr (.inl ⟨v, b, rfl, by simp [copied?, hc, hp, hopen], hseen, hb, hi.trans hs⟩)
      · have hclosed : s.binding.isOpen = false := by
          rw [← Bool.not_eq_true, ← hnew]
          rintro ⟨b, hb⟩
          rw [he] at hb
          cases hb
        exact .inr (.inr ⟨hclosed, e, hi.trans hs⟩)

/-- **The copy is not seen**: it hides the value that it is a copy of. -/
theorem lookup_inherit (s : Scope) (parents : List Scope) (first key : String) :
    lookup ((s.inherit parents first).2 :: parents) key = lookup (s :: parents) key := by
  obtain ⟨hi, -⟩ | ⟨v, b, hc, -, hseen, hb, hi⟩ | ⟨-, e, hi⟩ := s.inherit_cases parents first
  · rw [hi]
  · rw [hi]
    obtain ⟨c, hv, hchild, hother, -⟩ := Token.setAt_cons hb
    cases hv
    by_cases hk : first = key
    · subst hk
      rw [hseen, lookup_cons]
      simp [hchild]
    · have hapart : Apart s.binding first key := by
        refine Token.apart_of_ne hk fun items hl => ?_
        have := (Token.setAt_new v hc).1 ⟨b, hb⟩
        rw [hl] at this
        cases this
      rw [lookup_cons, lookup_cons, ← hother key hapart]
  · rw [hi]

/-- Once the first step has succeeded, the scope has all that is seen under the name, and places that were apart still
are. -/
theorem child?_of_inherit {s₁ : Scope} (h : s.inherit parents first = (.ok (), s₁)) :
    s₁.binding.child? first = lookup (s :: parents) first ∧ ∀ a b, Apart s.binding a b → Apart s₁.binding a b := by
  obtain ⟨hi, -, hown⟩ | ⟨v, b, -, -, hseen, hb, hi⟩ | ⟨-, e, hi⟩ := s.inherit_cases parents first
  · cases hi.symm.trans h
    exact ⟨hown, fun a b hab => hab⟩
  · cases hi.symm.trans h
    obtain ⟨c, hv, hchild, -, hapart⟩ := Token.setAt_cons hb
    cases hv
    exact ⟨hchild.trans hseen.symm, hapart⟩
  · cases hi.symm.trans h

end Scope

/-! ## Writing under a name of a map -/

theorem lookup_map (hm : s.binding = .map m) (key : String) :
    lookup (s :: parents) key = (Entries.get? m key).or (lookup parents key) := by rw [lookup_cons, hm, Token.child?]

/-- What is seen under a name after a write, given what was seen before. -/
def seenAfter (seen : String → Option Token) (first : String) (path : List String) (value : Token) (key : String) :
    Option Token :=
  match Token.setAt path value ((seen first).getD .null) with
  | .ok v => if first = key then some v else seen key
  | .error _ => seen key

namespace Scope

/-- The first step leaves a map in which the name has all that is seen under it. -/
theorem inherit_map (parents : List Scope) (hm : s.binding = .map m) (first : String) :
    ∃ m', s.inherit parents first = (.ok (), { s with binding := .map m' }) ∧
      Entries.get? m' first = lookup (s :: parents) first ∧
      ∀ key, lookup ({ s with binding := .map m' } :: parents) key = lookup (s :: parents) key := by
  obtain ⟨hi, -, hown⟩ | ⟨v, b, -, -, hseen, hb, hi⟩ | ⟨hclosed, -⟩ := s.inherit_cases parents first
  · have hs : s = { s with binding := .map m } := by rw [← hm]
    rw [hm] at hown
    exact ⟨m, hi.trans (congrArg _ hs), hown, fun key => by rw [← hs]⟩
  · rw [hm] at hb
    cases hb
    have hlookup := s.lookup_inherit parents first
    rw [hi] at hlookup
    refine ⟨Entries.insert m first v, hi, ?_, hlookup⟩
    rw [Entries.get?_insert, if_pos rfl, hseen]
  · rw [hm] at hclosed
    cases hclosed

/-- **A write changes what is seen under the first name of its path only**, and what it makes of it does not depend on
the scope that the old value came from. -/
theorem writePath_map (parents : List Scope) (hm : s.binding = .map m) (first : String) (path : List String)
    (value : Token) :
    ∃ m', s.writePath parents (first :: path) value =
        ((Token.setAt path value ((lookup (s :: parents) first).getD .null)).map fun _ => (),
          { s with binding := .map m' }) ∧
      ∀ key, lookup ({ s with binding := .map m' } :: parents) key =
        seenAfter (lookup (s :: parents)) first path value key := by
  obtain ⟨m₁, hi, hfirst, hseen⟩ := inherit_map parents hm first
  have hw : s.writePath parents (first :: path) value = { s with binding := .map m₁ }.setAt (first :: path) value := by
    rw [writePath, hi]
  rw [hw, setAt, Token.assign_eq]
  simp only [Token.setAt, hfirst, seenAfter]
  cases Token.setAt path value ((lookup (s :: parents) first).getD .null) with
  | error e => exact ⟨m₁, rfl, hseen⟩
  | ok v =>
    refine ⟨Entries.insert m₁ first v, rfl, fun key => ?_⟩
    rw [lookup_map rfl, Entries.get?_insert]
    show _ = if first = key then some v else lookup (s :: parents) key
    split
    · rfl
    · rw [← hseen key, lookup_map rfl]

end Scope

end Writing

end RuleExpr
