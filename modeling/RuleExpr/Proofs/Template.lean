import RuleExpr.Proofs.Token.Blocks
import Mathlib.Data.List.Forall2
import Mathlib.Data.List.MinMax
import Mathlib.Order.Nat

/-!
# What templates are instantiated to

An instantiation makes passes over a tree, each of which puts arguments in the place of the outermost placeholders, and
tells whether it has. What it comes to is said here without passes: `Resolves args t u` holds when `u` is `t` with
every placeholder replaced by what its argument resolves to, and `Rank args t n` when `n` is the depth at which the
placeholders of `t` depend on those of the arguments.

The passes do that on steady trees: where a block with the head of a placeholder has a block in front, a pass may put a
decimal there, and so make a placeholder that was none before.

* **One pass** replaces something exactly where there is a placeholder (`substitute_eq`). `fill_induction` is what it
  does to a steady tree, block by block; so the placeholders that it leaves are those of the arguments it put in
  (`placeholders_fill`), and the tree resolves to what it resolved to (`resolves_of_fill`).
* **All passes** (`exists_expand_iff`): `n + 1` of them are enough if and only if no placeholder is left after `n`
  (`Within`), which is the case if and only if all placeholders that are reached are in range and the rank is at most
  `n` (`within_iff`).
* **Instantiation** (`instantiate_resolves`).
-/

namespace RuleExpr.Template

open Token

/-! ## Lists side by side -/

section

variable {α β γ : Type} {R : α → β → Prop} {as : List α} {bs : List β} {cs : List γ}

theorem forall₂_trans {S : β → γ → Prop} {T : α → γ → Prop} (h : ∀ a b c, R a b → S b c → T a c)
    (hr : List.Forall₂ R as bs) (hs : List.Forall₂ S bs cs) : List.Forall₂ T as cs := by
  induction hr generalizing cs with
  | nil =>
    cases hs
    exact .nil
  | cons hab _ ih =>
    cases hs with
    | cons hbc hs => exact .cons (h _ _ _ hab hbc) (ih hs)

theorem exists_of_mem_right (hr : List.Forall₂ R as bs) {b : β} (hb : b ∈ bs) : ∃ a ∈ as, R a b := by
  induction hr with
  | nil => cases hb
  | cons hab _ ih =>
    rcases List.mem_cons.1 hb with rfl | hb
    · exact ⟨_, List.mem_cons_self, hab⟩
    · obtain ⟨a, ha, hr⟩ := ih hb
      exact ⟨a, List.mem_cons_of_mem _ ha, hr⟩

theorem exists_forall₂_iff : (∃ bs, List.Forall₂ R as bs) ↔ ∀ a ∈ as, ∃ b, R a b := by
  induction as with
  | nil => simp
  | cons a as ih => simp [List.forall₂_cons_left_iff, ← ih]

end

/-! ## Placeholders -/

mutual

/-- The indices of the outermost placeholders of a tree, from left to right. -/
def placeholders : Token → List Decimal
  | .block head children =>
    match placeholder? head children with
    | some index => [index]
    | none => placeholdersOfList children
  | _ => []

/-- The indices of the outermost placeholders of the trees of a list. -/
def placeholdersOfList : List Token → List Decimal
  | [] => []
  | t :: ts => placeholders t ++ placeholdersOfList ts

end

section

variable {t : Token} {head : String} {children : List Token} {index : Decimal}

theorem placeholders_of_not_block (h : t.isBlock = false) : placeholders t = [] := by
  cases t with
  | block => cases h
  | _ => rfl

theorem placeholders_of_some (h : placeholder? head children = some index) :
    placeholders (.block head children) = [index] := by
  rw [placeholders, h]

theorem placeholders_of_none (h : placeholder? head children = none) :
    placeholders (.block head children) = children.flatMap placeholders := by
  have hlist : ∀ ts, placeholdersOfList ts = ts.flatMap placeholders := by
    intro ts
    induction ts with
    | nil => rfl
    | cons t ts ih => rw [placeholdersOfList, ih, List.flatMap_cons]
  rw [placeholders, h, hlist]

/-- Only blocks with that head are placeholders. -/
theorem placeholder?_of_ne (h : head ≠ "#") : placeholder? head children = none := by
  unfold placeholder?
  split
  · exact if_neg h
  · rfl

end

/-- Induction on a tree, whose leaves are all tokens that are no blocks. -/
theorem block_induction {P : Token → Prop} (leaf : ∀ t, t.isBlock = false → P t)
    (block : ∀ head children, (∀ t ∈ children, P t) → P (.block head children)) : ∀ t, P t
  | .block head children => block head children fun t _ => block_induction leaf block t
  | .decimal _ | .string _ | .boolean _ | .time _ | .null | .list _ | .map _ => leaf _ rfl

/-! ## Arguments -/

/-- The index of a placeholder as a whole number, toward zero. -/
def place (index : Decimal) : Int := index.mantissa.tdiv (Decimal.tenPow index.scale)

/-- The index is that of an argument. -/
def InRange (args : List Token) (index : Decimal) : Prop := 0 ≤ place index ∧ place index < args.length

/-- The argument that a placeholder refers to. -/
def argument? (args : List Token) (index : Decimal) : Option Token :=
  if 0 ≤ place index then args[(place index).toNat]? else none

/-- The arguments that the outermost placeholders of a tree refer to. -/
def referred (args : List Token) (t : Token) : List Token := (placeholders t).filterMap (argument? args)

section

variable {args : List Token} {index : Decimal} {a t : Token}

theorem argument?_eq_some_iff :
    argument? args index = some a ↔ ∃ i : Nat, place index = i ∧ args[i]? = some a := by
  unfold argument?
  constructor
  · intro h
    split at h
    · next hle => exact ⟨(place index).toNat, (Int.toNat_of_nonneg hle).symm, h⟩
    · cases h
  · rintro ⟨i, hi, ha⟩
    rw [hi, if_pos (Int.natCast_nonneg i), Int.toNat_natCast, ha]

theorem inRange_iff : InRange args index ↔ ∃ a, argument? args index = some a := by
  constructor
  · rintro ⟨hle, hlt⟩
    have hi : (place index).toNat < args.length := by omega
    exact ⟨args[(place index).toNat], argument?_eq_some_iff.2
      ⟨_, (Int.toNat_of_nonneg hle).symm, List.getElem?_eq_getElem hi⟩⟩
  · rintro ⟨a, ha⟩
    obtain ⟨i, hi, ha⟩ := argument?_eq_some_iff.1 ha
    have hlt := (List.getElem?_eq_some_iff.1 ha).1
    exact ⟨by omega, by omega⟩

theorem mem_of_argument? (h : argument? args index = some a) : a ∈ args := by
  obtain ⟨i, -, hi⟩ := argument?_eq_some_iff.1 h
  exact List.mem_of_getElem? hi

/-- Indices are 64-bit words. -/
theorem toSize_eq_ok_iff {i : Nat} : index.toSize = .ok i ↔ place index = i ∧ i < 2 ^ 64 := by
  have hholds : Decimal.IntegerType.size.Holds (place index) ↔ 0 ≤ place index ∧ place index ≤ 2 ^ 64 - 1 := Iff.rfl
  have hsplit : index.splitInteger.1 = place index := rfl
  unfold Decimal.toSize Decimal.toInteger
  rw [hsplit]
  by_cases h : Decimal.IntegerType.size.Holds (place index)
  · rw [if_pos h, Except.map, Except.ok.injEq]
    have := hholds.1 h
    omega
  · rw [if_neg h]
    constructor
    · intro he
      cases he
    · rintro ⟨hi, hlt⟩
      exact absurd (hholds.2 (by omega)) h

/-- For no more arguments than there are indices, the word that an index is does not matter. -/
theorem argument_eq_ok_iff (hl : args.length ≤ 2 ^ 64) :
    argument args index = .ok a ↔ argument? args index = some a := by
  have hargument : argument args index = .ok a ↔ ∃ i, index.toSize = .ok i ∧ args[i]? = some a := by
    unfold argument
    cases hs : index.toSize with
    | error => simp
    | ok i => cases ha : args[i]? <;> simp [ha]
  rw [hargument, argument?_eq_some_iff]
  refine exists_congr fun i => ?_
  rw [toSize_eq_ok_iff]
  constructor
  · rintro ⟨⟨hi, -⟩, ha⟩
    exact ⟨hi, ha⟩
  · rintro ⟨hi, ha⟩
    have hlt := (List.getElem?_eq_some_iff.1 ha).1
    exact ⟨⟨hi, by omega⟩, ha⟩

end

/-! ## Ranks and results, without passes -/

section

variable (args : List Token)

/-- The placeholders that have to be replaced: the outermost of the tree, and those that arguments bring in. -/
inductive Reaches : Token → Decimal → Prop
  | here {t : Token} {index : Decimal} (h : index ∈ placeholders t) : Reaches t index
  | there {t a : Token} {index : Decimal} (ha : a ∈ referred args t) (h : Reaches a index) : Reaches t index

/-- The rank of a tree: 0 without placeholders, and otherwise one more than the largest rank of the arguments that its
outermost placeholders refer to. Where arguments refer to each other in a circle there is none. -/
inductive Rank : Token → Nat → Prop
  | zero {t : Token} (h : placeholders t = []) : Rank t 0
  | succ {t : Token} (rank : Token → Nat) (h : placeholders t ≠ []) (hr : ∀ a ∈ referred args t, Rank a (rank a)) :
      Rank t (1 + ((referred args t).map rank).foldr max 0)

/-- The second tree is the first with each placeholder replaced by what its argument resolves to. -/
inductive Resolves : Token → Token → Prop
  | leaf {t : Token} (hb : t.isBlock = false) : Resolves t t
  | placeholder {head : String} {children : List Token} {index : Decimal} {a u : Token}
      (hp : placeholder? head children = some index) (ha : argument? args index = some a) (h : Resolves a u) :
      Resolves (.block head children) u
  | block {head : String} {children us : List Token} (hp : placeholder? head children = none)
      (hl : children.length = us.length) (h : ∀ p ∈ children.zip us, Resolves p.1 p.2) :
      Resolves (.block head children) (.block head us)

end

section

variable {args : List Token} {t u v : Token} {head : String} {children : List Token}

/-- A tree has no more than one rank. -/
theorem Rank.unique {m n : Nat} (hm : Rank args t m) (hn : Rank args t n) : m = n := by
  induction hm generalizing n with
  | zero h =>
    cases hn with
    | zero => rfl
    | succ _ h' => exact absurd h h'
  | succ rank h _ ih =>
    cases hn with
    | zero h' => exact absurd h' h
    | succ rank' _ hr' => rw [List.map_congr_left fun a ha => ih a ha (hr' a ha)]

theorem resolves_block_iff (hp : placeholder? head children = none) :
    Resolves args (.block head children) v ↔ ∃ us, List.Forall₂ (Resolves args) children us ∧ v = .block head us := by
  constructor
  · intro h
    cases h with
    | leaf hb => cases hb
    | placeholder hp' => rw [hp] at hp'; cases hp'
    | @block _ _ us _ hl h => exact ⟨us, List.forall₂_iff_zip.2 ⟨hl, fun hm => h _ hm⟩, rfl⟩
  · rintro ⟨us, h, rfl⟩
    obtain ⟨hl, hz⟩ := List.forall₂_iff_zip.1 h
    exact .block hp hl fun p hm => hz hm

/-- A tree resolves to no more than one tree. -/
theorem Resolves.unique (hu : Resolves args t u) (hv : Resolves args t v) : u = v := by
  induction hu generalizing v with
  | leaf hb =>
    cases hv with
    | leaf => rfl
    | placeholder | block => cases hb
  | placeholder hp ha _ ih =>
    cases hv with
    | leaf hb => cases hb
    | placeholder hp' ha' h' =>
      rw [hp] at hp'
      cases hp'
      rw [ha] at ha'
      cases ha'
      exact ih h'
    | block hp' => rw [hp] at hp'; cases hp'
  | @block head children us hp hl _ ih =>
    obtain ⟨vs, hvs, rfl⟩ := (resolves_block_iff hp).1 hv
    have hus : List.Forall₂ (fun u c => ∀ v, Resolves args c v → u = v) us children :=
      List.Forall₂.flip (List.forall₂_iff_zip.2 ⟨hl, fun hm v => ih _ hm⟩)
    have heq : List.Forall₂ Eq us vs := forall₂_trans (fun u c v h hv => h v hv) hus hvs
    rw [List.forall₂_eq_eq_eq] at heq
    rw [heq]

/-- Without placeholders a tree resolves to itself. -/
theorem resolves_self (h : placeholders t = []) : Resolves args t t := by
  induction t using block_induction with
  | leaf t hb => exact .leaf hb
  | block head children ih =>
    cases hp : placeholder? head children with
    | some index =>
      rw [placeholders_of_some hp] at h
      cases h
    | none =>
      rw [placeholders_of_none hp, List.flatMap_eq_nil_iff] at h
      refine (resolves_block_iff hp).2 ⟨children, ?_, rfl⟩
      exact List.forall₂_same.2 fun c hc => ih c hc (h c hc)

end

/-! ## One pass -/

mutual

/-- The tree with each of its outermost placeholders replaced by the argument. -/
def fill (args : List Token) : Token → Except Error Token
  | .block head children =>
    match placeholder? head children with
    | some index => argument args index
    | none => (fillAll args children).map (.block head)
  | t => .ok t

/-- Each tree of a list, filled. -/
def fillAll (args : List Token) : List Token → Except Error (List Token)
  | [] => .ok []
  | t :: ts =>
    match fill args t with
    | .error e => .error e
    | .ok u => (fillAll args ts).map (u :: ·)

end

/-- No block with the head of a placeholder has a block as its first child. -/
def Steady (t : Token) : Prop := ∀ b ∈ t.blocks, b.1 = "#" → ∀ c ∈ b.2.head?, c.isBlock = false

instance (t : Token) : Decidable (Steady t) := inferInstanceAs (Decidable (∀ _ ∈ _, _))

section

variable {args : List Token} {t u : Token} {head : String} {children us : List Token} {e : Error}

theorem steady_block_iff : Steady (.block head children) ↔
    (head = "#" → ∀ c ∈ children.head?, c.isBlock = false) ∧ ∀ c ∈ children, Steady c := by
  unfold Steady
  rw [blocks, List.forall_mem_cons]
  refine and_congr_right fun _ => ?_
  constructor
  · intro h c hc b hb
    exact h b (mem_blocksOfList.2 ⟨c, hc, hb⟩)
  · intro h b hb
    obtain ⟨c, hc, hb⟩ := mem_blocksOfList.1 hb
    exact h c hc b hb

theorem fill_of_not_block (h : t.isBlock = false) : fill args t = .ok t := by
  cases t with
  | block => cases h
  | _ => rfl

theorem fill_of_some {index : Decimal} (h : placeholder? head children = some index) :
    fill args (.block head children) = argument args index := by
  rw [fill, h]

theorem fillAll_eq_ok_iff {ts : List Token} :
    fillAll args ts = .ok us ↔ List.Forall₂ (fun t u => fill args t = .ok u) ts us := by
  induction ts generalizing us with
  | nil =>
    rw [List.forall₂_nil_left_iff, fillAll]
    exact ⟨fun h => by cases h; rfl, fun h => by cases h; rfl⟩
  | cons t ts ih =>
    rw [List.forall₂_cons_left_iff, fillAll]
    simp only [← ih]
    cases fill args t with
    | error e => simp
    | ok u => cases fillAll args ts <;> simp [Except.map, eq_comm]

theorem fill_of_none (h : placeholder? head children = none) : fill args (.block head children) = .ok u ↔
    ∃ us, List.Forall₂ (fun t u => fill args t = .ok u) children us ∧ u = .block head us := by
  simp only [← fillAll_eq_ok_iff]
  rw [fill, h]
  cases fillAll args children with
  | error e => simp [Except.map]
  | ok us => simp [Except.map, eq_comm]

/-- Without placeholders a tree stays as it is. -/
theorem fill_of_nil (h : placeholders t = []) : fill args t = .ok t := by
  induction t using block_induction with
  | leaf t hb => exact fill_of_not_block hb
  | block head children ih =>
    cases hp : placeholder? head children with
    | some index =>
      rw [placeholders_of_some hp] at h
      cases h
    | none =>
      rw [placeholders_of_none hp, List.flatMap_eq_nil_iff] at h
      exact (fill_of_none hp).2 ⟨children, List.forall₂_same.2 fun c hc => ih c hc (h c hc), rfl⟩

/-- By induction on the list, with what was replaced before it left open. -/
theorem substituteAll_eq {ts : List Token} (h : ∀ t ∈ ts, ∀ replaced, substitute args replaced t =
    (fill args t).map fun u => (u, replaced || !(placeholders t).isEmpty)) (replaced : Bool) :
    substituteAll args replaced ts =
      (fillAll args ts).map fun us => (us, replaced || !(ts.flatMap placeholders).isEmpty) := by
  induction ts generalizing replaced with
  | nil => exact congrArg (fun r => Except.ok ([], r)) (Bool.or_false replaced).symm
  | cons t ts ih =>
    obtain ⟨ht, hts⟩ := List.forall_mem_cons.1 h
    rw [substituteAll, fillAll, ht]
    cases fill args t with
    | error e => rfl
    | ok u =>
      have hflag : (replaced || !((t :: ts).flatMap placeholders).isEmpty) =
          (replaced || !(placeholders t).isEmpty || !(ts.flatMap placeholders).isEmpty) := by
        rw [List.flatMap_cons]
        cases placeholders t <;> simp
      show Except.map _ (substituteAll args _ ts) = _
      rw [ih hts, hflag]
      cases fillAll args ts <;> rfl

/-- **A pass replaces something exactly where there is a placeholder.** -/
theorem substitute_eq (args : List Token) (replaced : Bool) (t : Token) :
    substitute args replaced t = (fill args t).map fun u => (u, replaced || !(placeholders t).isEmpty) := by
  induction t using block_induction generalizing replaced with
  | leaf t hb =>
    have hsame : substitute args replaced t = .ok (t, replaced) := by
      cases t with
      | block => cases hb
      | _ => rfl
    rw [hsame, fill_of_not_block hb, placeholders_of_not_block hb]
    exact congrArg (fun r => Except.ok (t, r)) (Bool.or_false replaced).symm
  | block head children ih =>
    cases hp : placeholder? head children with
    | some index =>
      rw [substitute, hp, fill_of_some hp, placeholders_of_some hp]
      exact congrArg (fun r => (argument args index).map fun a => (a, r)) (Bool.or_true replaced).symm
    | none =>
      rw [substitute, hp, fill, hp, placeholders_of_none hp]
      show Except.map _ (substituteAll args replaced children) = _
      rw [substituteAll_eq ih]
      cases fillAll args children <;> rfl

/-- The first child of a steady block is the same after a pass if the block has the head of a placeholder. -/
theorem placeholder?_filld (hf : head = "#" → ∀ c ∈ children.head?, c.isBlock = false)
    (hp : placeholder? head children = none)
    (h : List.Forall₂ (fun t u => fill args t = .ok u) children us) :
    placeholder? head us = none ∧ (head = "#" → ∀ c ∈ us.head?, c.isBlock = false) := by
  by_cases hh : head = "#"
  · cases h with
    | nil => exact ⟨hp, hf⟩
    | @cons c u cs us hu _ =>
      have hb : c.isBlock = false := hf hh c rfl
      rw [fill_of_not_block hb] at hu
      cases hu
      refine ⟨?_, fun _ d hd => ?_⟩
      · cases c with
        | block => cases hb
        | decimal => exact hp
        | _ => rfl
      · cases hd
        exact hb
  · exact ⟨placeholder?_of_ne hh, fun h => absurd h hh⟩

/-- **What a pass does to a steady tree**: a placeholder gives its argument, and any other block one with the same head
and the children after the pass, which is no placeholder and has no block in front of its children that it had not. -/
theorem fill_induction {P : Token → Token → Prop} (hl : args.length ≤ 2 ^ 64)
    (leaf : ∀ t, t.isBlock = false → P t t)
    (placeholder : ∀ head children index a, placeholder? head children = some index →
      argument? args index = some a → P (.block head children) a)
    (block : ∀ head children us, placeholder? head children = none → placeholder? head us = none →
      (head = "#" → ∀ c ∈ us.head?, c.isBlock = false) → List.Forall₂ P children us →
      P (.block head children) (.block head us))
    (ht : Steady t) (hu : fill args t = .ok u) : P t u := by
  induction t using block_induction generalizing u with
  | leaf t hb =>
    rw [fill_of_not_block hb] at hu
    cases hu
    exact leaf t hb
  | block head children ih =>
    obtain ⟨hf, hc⟩ := steady_block_iff.1 ht
    cases hp : placeholder? head children with
    | some index =>
      rw [fill_of_some hp, argument_eq_ok_iff hl] at hu
      exact placeholder head children index u hp hu
    | none =>
      obtain ⟨us, hus, rfl⟩ := (fill_of_none hp).1 hu
      obtain ⟨hp', hf'⟩ := placeholder?_filld hf hp hus
      refine block head children us hp hp' hf' ?_
      have hall := (List.forall₂_and_left _ _).2 ⟨fun c hm => And.intro hm (hc c hm), hus⟩
      exact hall.imp fun c u ⟨⟨hm, hs⟩, hu⟩ => ih c hm hs hu

/-- A pass succeeds when all outermost placeholders are in range. -/
theorem exists_fill_iff (hl : args.length ≤ 2 ^ 64) :
    (∃ u, fill args t = .ok u) ↔ ∀ index ∈ placeholders t, InRange args index := by
  induction t using block_induction with
  | leaf t hb => simp [fill_of_not_block hb, placeholders_of_not_block hb]
  | block head children ih =>
    cases hp : placeholder? head children with
    | some index => simp [fill_of_some hp, placeholders_of_some hp, argument_eq_ok_iff hl, inRange_iff]
    | none =>
      have hexists : (∃ u, fill args (.block head children) = .ok u) ↔
          ∀ c ∈ children, ∃ u, fill args c = .ok u := by
        rw [← exists_forall₂_iff]
        simp only [fill_of_none hp]
        constructor
        · rintro ⟨u, us, hus, -⟩
          exact ⟨us, hus⟩
        · rintro ⟨us, hus⟩
          exact ⟨_, us, hus, rfl⟩
      rw [hexists, placeholders_of_none hp]
      simp only [List.mem_flatMap]
      constructor
      · rintro h index ⟨c, hc, hi⟩
        exact (ih c hc).1 (h c hc) index hi
      · intro h c hc
        exact (ih c hc).2 fun index hi => h index ⟨c, hc, hi⟩

/-- A pass over a list fails as it does over one of the trees. -/
theorem exists_mem_of_fillAll {ts : List Token} (h : fillAll args ts = .error e) :
    ∃ t ∈ ts, fill args t = .error e := by
  induction ts with
  | nil => cases h
  | cons t ts ih =>
    rw [fillAll] at h
    cases ht : fill args t with
    | error e' =>
      rw [ht] at h
      cases h
      exact ⟨t, List.mem_cons_self, ht⟩
    | ok u =>
      rw [ht] at h
      cases hts : fillAll args ts with
      | error e' =>
        rw [hts] at h
        cases h
        obtain ⟨t', hm, ht'⟩ := ih hts
        exact ⟨t', List.mem_cons_of_mem _ hm, ht'⟩
      | ok us =>
        rw [hts] at h
        cases h

theorem invalidArgument_of_argument {index : Decimal} (h : argument args index = .error e) :
    ∃ fault, e = .invalidArgument fault := by
  unfold argument at h
  split at h
  · cases h
    exact ⟨_, rfl⟩
  · split at h
    · cases h
    · cases h
      exact ⟨_, rfl⟩

/-- A pass fails with a refused argument. -/
theorem invalidArgument_of_fill (h : fill args t = .error e) : ∃ fault, e = .invalidArgument fault := by
  induction t using block_induction with
  | leaf t hb =>
    rw [fill_of_not_block hb] at h
    cases h
  | block head children ih =>
    cases hp : placeholder? head children with
    | some index =>
      rw [fill_of_some hp] at h
      exact invalidArgument_of_argument h
    | none =>
      rw [fill, hp] at h
      cases hus : fillAll args children with
      | error e' =>
        rw [hus] at h
        cases h
        obtain ⟨c, hc, he⟩ := exists_mem_of_fillAll hus
        exact ih c hc he
      | ok us =>
        rw [hus] at h
        cases h

/-- The placeholders that a pass leaves are those of the arguments that it put in. -/
theorem placeholders_fill (hl : args.length ≤ 2 ^ 64) (ht : Steady t) (hu : fill args t = .ok u) :
    placeholders u = (referred args t).flatMap placeholders := by
  refine fill_induction (P := fun t u => placeholders u = (referred args t).flatMap placeholders) hl
    ?_ ?_ ?_ ht hu
  · intro t hb
    simp [referred, placeholders_of_not_block hb]
  · intro head children index a hp ha
    simp [referred, placeholders_of_some hp, ha]
  · intro head children us hp hp' hf h
    rw [referred, placeholders_of_none hp, placeholders_of_none hp']
    clear hp hp' hf
    induction h with
    | nil => rfl
    | cons hu _ ih =>
      rw [List.flatMap_cons, List.flatMap_cons, List.filterMap_append, List.flatMap_append, ih, hu, referred]

/-- A pass over a steady tree with steady arguments gives a steady tree. -/
theorem steady_fill (hl : args.length ≤ 2 ^ 64) (ha : ∀ a ∈ args, Steady a) (ht : Steady t)
    (hu : fill args t = .ok u) : Steady u := by
  refine fill_induction (P := fun t u => Steady t → Steady u) hl ?_ ?_ ?_ ht hu ht
  · intro t _ h
    exact h
  · intro head children index a _ hi _
    exact ha a (mem_of_argument? hi)
  · intro head children us _ _ hf h hs
    obtain ⟨-, hc⟩ := steady_block_iff.1 hs
    refine steady_block_iff.2 ⟨hf, fun u hu => ?_⟩
    obtain ⟨c, hm, hcu⟩ := exists_of_mem_right h hu
    exact hcu (hc c hm)

/-- A steady tree resolves to what it resolves to after a pass. -/
theorem resolves_of_fill {v : Token} (hl : args.length ≤ 2 ^ 64) (ht : Steady t)
    (hu : fill args t = .ok u) (h : Resolves args u v) : Resolves args t v := by
  refine fill_induction (P := fun t u => ∀ v, Resolves args u v → Resolves args t v) hl ?_ ?_ ?_ ht hu v h
  · intro t _ v h
    exact h
  · intro head children index a hp ha v h
    exact .placeholder hp ha h
  · intro head children us hp hp' hf hus v h
    obtain ⟨vs, hvs, rfl⟩ := (resolves_block_iff hp').1 h
    exact (resolves_block_iff hp).2 ⟨vs, forall₂_trans (fun t u v h hv => h v hv) hus hvs, rfl⟩

end

/-! ## All passes -/

/-- Within `n` passes no placeholder is left, and all that were replaced are in range. -/
def Within (args : List Token) : Nat → Token → Prop
  | 0, t => placeholders t = []
  | n + 1, t => (∀ index ∈ placeholders t, InRange args index) ∧ ∀ a ∈ referred args t, Within args n a

section

variable {args : List Token} {t u v : Token} {n m : Nat}

theorem referred_of_nil (h : placeholders t = []) : referred args t = [] := by
  rw [referred, h, List.filterMap_nil]

theorem within_of_nil (h : placeholders t = []) : Within args n t := by
  cases n with
  | zero => exact h
  | succ n =>
    rw [Within, h, referred_of_nil h]
    exact ⟨List.forall_mem_nil _, List.forall_mem_nil _⟩

theorem within_flatMap {as : List Token} (h : placeholders u = as.flatMap placeholders) :
    Within args n u ↔ ∀ a ∈ as, Within args n a := by
  cases n with
  | zero =>
    rw [Within, h, List.flatMap_eq_nil_iff]
    rfl
  | succ n =>
    have hreferred : referred args u = as.flatMap (referred args) := by
      rw [referred, h, List.filterMap_flatMap]
      rfl
    simp only [Within, h, hreferred, List.mem_flatMap]
    constructor
    · rintro ⟨hin, hw⟩ a ha
      exact ⟨fun index hi => hin index ⟨a, ha, hi⟩, fun b hb => hw b ⟨a, ha, hb⟩⟩
    · intro h
      refine ⟨?_, ?_⟩
      · rintro index ⟨a, ha, hi⟩
        exact (h a ha).1 index hi
      · rintro b ⟨a, ha, hb⟩
        exact (h a ha).2 b hb

section Rank

theorem inRange_of_within {index : Decimal} (hr : Reaches args t index) (h : Within args n t) :
    InRange args index := by
  induction hr generalizing n with
  | here hi =>
    cases n with
    | zero =>
      rw [h] at hi
      cases hi
    | succ n => exact h.1 _ hi
  | there ha _ ih =>
    cases n with
    | zero =>
      rw [referred_of_nil h] at ha
      cases ha
    | succ n => exact ih (h.2 _ ha)

theorem exists_rank_of_within (h : Within args n t) : ∃ m ≤ n, Rank args t m := by
  induction n generalizing t with
  | zero => exact ⟨0, le_rfl, .zero h⟩
  | succ n ih =>
    by_cases hnil : placeholders t = []
    · exact ⟨0, Nat.zero_le _, .zero hnil⟩
    · have hranks : ∀ a ∈ referred args t, ∃ m ≤ n, Rank args a m := fun a ha => ih (h.2 a ha)
      choose! rank hle hrank using hranks
      refine ⟨_, ?_, .succ rank hnil hrank⟩
      have hmax : ((referred args t).map rank).foldr max 0 ≤ n := by
        refine List.max_le_of_forall_le ((referred args t).map rank) n fun m hm => ?_
        obtain ⟨a, ha, rfl⟩ := List.mem_map.1 hm
        exact hle a ha
      omega

theorem within_of_rank (hr : Rank args t m) (hm : m ≤ n)
    (hin : ∀ index, Reaches args t index → InRange args index) : Within args n t := by
  induction hr generalizing n with
  | zero h => exact within_of_nil h
  | @succ t rank h _ ih =>
    obtain ⟨k, rfl⟩ : ∃ k, n = k + 1 := ⟨n - 1, by omega⟩
    refine ⟨fun index hi => hin index (.here hi), fun a ha => ?_⟩
    have hle : rank a ≤ ((referred args t).map rank).foldr max 0 :=
      List.le_max_of_le' 0 (List.mem_map_of_mem ha) le_rfl
    exact ih a ha (by omega) fun index hr => hin index (.there ha hr)

/-- **The passes that are needed are as many as the rank**, if all placeholders that are reached are in range. -/
theorem within_iff : Within args n t ↔
    (∀ index, Reaches args t index → InRange args index) ∧ ∃ m ≤ n, Rank args t m := by
  constructor
  · intro h
    exact ⟨fun index hr => inRange_of_within hr h, exists_rank_of_within h⟩
  · rintro ⟨hin, m, hm, hr⟩
    exact within_of_rank hr hm hin

end Rank

section Expand

variable {signature : Signature} {e : Error}

theorem expand_of_nil (h : placeholders t = []) : expand signature args (n + 1) t = .ok t := by
  rw [expand, substitute_eq, fill_of_nil h, h]
  rfl

/-- With placeholders there is a pass to make, and then those that are left. -/
theorem expand_of_ne (h : placeholders t ≠ []) : expand signature args (n + 1) t =
    (fill args t).bind (expand signature args n) := by
  have hreplaced : (false || !(placeholders t).isEmpty) = true := by simpa using h
  rw [expand, substitute_eq, hreplaced]
  cases fill args t <;> rfl

theorem expand_eq_ok_iff (h : placeholders t ≠ []) : expand signature args (n + 1) t = .ok v ↔
    ∃ u, fill args t = .ok u ∧ expand signature args n u = .ok v := by
  rw [expand_of_ne h]
  cases fill args t <;> simp [Except.bind]

/-- **`n + 1` passes are enough exactly when no placeholder is left within `n`.** The last pass is the one that finds
none. -/
theorem exists_expand_iff (hl : args.length ≤ 2 ^ 64) (ha : ∀ a ∈ args, Steady a) (ht : Steady t) :
    (∃ u, expand signature args (n + 1) t = .ok u) ↔ Within args n t := by
  induction n generalizing t with
  | zero =>
    constructor
    · rintro ⟨v, hv⟩
      by_contra h
      obtain ⟨u, -, hu⟩ := (expand_eq_ok_iff h).1 hv
      cases hu
    · intro h
      exact ⟨t, expand_of_nil h⟩
  | succ n ih =>
    by_cases hnil : placeholders t = []
    · exact ⟨fun _ => within_of_nil hnil, fun _ => ⟨t, expand_of_nil hnil⟩⟩
    · simp only [expand_eq_ok_iff hnil]
      constructor
      · rintro ⟨v, u, hu, hv⟩
        have hw : Within args n u := (ih (steady_fill hl ha ht hu)).1 ⟨v, hv⟩
        rw [within_flatMap (placeholders_fill hl ht hu)] at hw
        exact ⟨(exists_fill_iff hl).1 ⟨u, hu⟩, hw⟩
      · rintro ⟨hin, hw⟩
        obtain ⟨u, hu⟩ := (exists_fill_iff hl).2 hin
        rw [← within_flatMap (placeholders_fill hl ht hu)] at hw
        obtain ⟨v, hv⟩ := (ih (steady_fill hl ha ht hu)).2 hw
        exact ⟨v, u, hu, hv⟩

/-- The passes replace every placeholder by what its argument resolves to. -/
theorem resolves_of_expand (hl : args.length ≤ 2 ^ 64) (ha : ∀ a ∈ args, Steady a) (ht : Steady t)
    (h : expand signature args n t = .ok v) : Resolves args t v := by
  induction n generalizing t with
  | zero => cases h
  | succ n ih =>
    by_cases hnil : placeholders t = []
    · rw [expand_of_nil hnil] at h
      cases h
      exact resolves_self hnil
    · obtain ⟨u, hu, hv⟩ := (expand_eq_ok_iff hnil).1 h
      exact resolves_of_fill hl ht hu (ih (steady_fill hl ha ht hu) hv)

/-- Passes end when there is no placeholder. -/
theorem placeholders_of_expand (h : expand signature args n t = .ok v) : placeholders v = [] := by
  induction n generalizing t with
  | zero => cases h
  | succ n ih =>
    by_cases hnil : placeholders t = []
    · rw [expand_of_nil hnil] at h
      cases h
      exact hnil
    · obtain ⟨u, -, hv⟩ := (expand_eq_ok_iff hnil).1 h
      exact ih hv

theorem invalidArgument_of_expand (h : expand signature args n t = .error e) :
    ∃ fault, e = .invalidArgument fault := by
  induction n generalizing t with
  | zero =>
    cases h
    exact ⟨_, rfl⟩
  | succ n ih =>
    by_cases hnil : placeholders t = []
    · rw [expand_of_nil hnil] at h
      cases h
    · rw [expand_of_ne hnil] at h
      cases hu : fill args t with
      | error e' =>
        rw [hu] at h
        cases h
        exact invalidArgument_of_fill hu
      | ok u =>
        rw [hu] at h
        exact ih h

end Expand

end

/-! ## Instantiation -/

/-- **What a template is instantiated to.** Where no block with the head of a placeholder has a block in front, there is
a result exactly when every placeholder that is reached is in range and the rank of the body is at most 63, and it is
the one tree that the body resolves to; in all other cases the arguments are refused. No result has a placeholder. The
arguments are as many as there are 64-bit indices, or fewer. -/
theorem instantiate_resolves (template : Template) (args : List Token) :
    (Steady template.body → (∀ a ∈ args, Steady a) → args.length ≤ 2 ^ 64 →
      ((∃ t, template.instantiate args = .ok t) ↔
        (∀ index, Reaches args template.body index → InRange args index) ∧ ∃ n ≤ 63, Rank args template.body n) ∧
      ∀ t, template.instantiate args = .ok t → ∀ u, Resolves args template.body u ↔ u = t) ∧
    (∀ e, template.instantiate args = .error e → ∃ fault, e = .invalidArgument fault) ∧
    ∀ t, template.instantiate args = .ok t → placeholders t = [] := by
  refine ⟨fun ht ha hl => ⟨?_, ?_⟩, fun _ he => invalidArgument_of_expand he, fun t h => placeholders_of_expand h⟩
  · rw [← within_iff]
    exact exists_expand_iff hl ha ht
  · intro t h u
    have hr : Resolves args template.body t := resolves_of_expand hl ha ht h
    constructor
    · intro hu
      exact hu.unique hr
    · rintro rfl
      exact hr

/-- A body of rank 2: it refers to both arguments, once with an index that is not whole, and the first argument refers
to the second. Without arguments the indices are out of range. -/
theorem instantiate_resolves_nested :
    let body := Token.block "f"
      [.block "#" [.decimal 0], .block "#" [.decimal ⟨19, 1, .inr (by decide)⟩], .block "#" [.string "x"]]
    let template : Template := ⟨⟨"F", [Kind.any, Kind.any], false, Kind.any, "", ""⟩, body⟩
    let args := [Token.block "g" [.block "#" [.decimal 1]], .boolean true]
    let result := Token.block "f" [.block "g" [.boolean true], .boolean true, .block "#" [.string "x"]]
    (Steady body ∧ (∀ a ∈ args, Steady a) ∧ args.length ≤ 2 ^ 64) ∧
      (template.instantiate args = .ok result ∧ placeholders result = []) ∧
      ((∀ index, Reaches args body index → InRange args index) ∧ ∃ n ≤ 63, Rank args body n) ∧
      (∀ u, Resolves args body u ↔ u = result) ∧
      ∃ e, template.instantiate [] = .error e ∧ ∃ fault, e = .invalidArgument fault := by
  intro body template args result
  have hbody : Steady body := by decide
  have hargs : ∀ a ∈ args, Steady a := by decide
  have hl : args.length ≤ 2 ^ 64 := by decide
  have hok : template.instantiate args = .ok result := by rfl
  have herror : template.instantiate [] = .error (.invalidArgument (.placeholderRange 0 0)) := rfl
  obtain ⟨hsteady, -, hnone⟩ := instantiate_resolves template args
  obtain ⟨hiff, hres⟩ := hsteady hbody hargs hl
  exact ⟨⟨hbody, hargs, hl⟩, ⟨hok, hnone result hok⟩, hiff.1 ⟨result, hok⟩, hres result hok,
    _, herror, (instantiate_resolves template []).2.1 _ herror⟩

end RuleExpr.Template
