import RuleExpr.Proofs.Reading.RoundTrip
import RuleExpr.Proofs.Reading.Grammar

/-!
# What the reader gives

Whatever the source, the reader gives the empty block or a normal block (`normal_of_read`), with no condition on the
strings: every item that a text says is a word, a string or a normal block (`Spells.normal`), so what a level is
assembled to is again a normal block. A level that says something is never assembled to the empty block, so the reader
gives the empty block for those sources alone that hold nothing but separators and blocks that are themselves empty
(`read_normal`).
-/

namespace RuleExpr

/-! ## Items -/

namespace Item

/-- An item that the reader makes: a bare word is one, and a block is normal. -/
def Normal : Item → Prop
  | bare word => IsWord word
  | quoted _ => True
  | block token => token.isBlock = true ∧ token.Normal fun _ => True

theorem normal_of_infer {word : String} {t : Token} (h : Token.infer word = .ok t) : t.Normal fun _ => True := by
  rcases Token.infer_cases word with ⟨b, hb⟩ | ⟨u, hu, hp⟩ | ⟨d, hd, hs⟩ | hs | ho
  · exact Except.ok.inj (hb.symm.trans h) ▸ .boolean b
  · exact Except.ok.inj (hu.symm.trans h) ▸ .time hp
  · exact Except.ok.inj (hd.symm.trans h) ▸ .decimal hs
  · exact Except.ok.inj (hs.symm.trans h) ▸ .string trivial
  · exact nomatch ho.symm.trans h

theorem normal_toToken {i : Item} {t : Token} (h : i.Normal) (ht : i.toToken = .ok t) : t.Normal fun _ => True := by
  cases i with
  | bare word => exact normal_of_infer ht
  | quoted text => exact Except.ok.inj ht ▸ .string trivial
  | block token => exact Except.ok.inj ht ▸ h.2

/-- The children of a level are those of its first item and of the others. -/
theorem toTokens_cons {i : Item} {items : List Item} {ts : List Token} (h : toTokens (i :: items) = .ok ts) :
    ∃ u us, i.toToken = .ok u ∧ toTokens items = .ok us ∧ ts = u :: us := by
  obtain ⟨u, hu, h⟩ := bind_eq_ok h
  obtain ⟨us, hus, h⟩ := bind_eq_ok h
  exact ⟨u, us, hu, hus, (Except.ok.inj h).symm⟩

theorem normal_toTokens {items : List Item} {ts : List Token} (h : ∀ i ∈ items, i.Normal)
    (hts : toTokens items = .ok ts) : ∀ t ∈ ts, t.Normal fun _ => True := by
  induction items generalizing ts with
  | nil => exact Except.ok.inj hts ▸ List.forall_mem_nil _
  | cons i items ih =>
    obtain ⟨hi, hitems⟩ := List.forall_mem_cons.1 h
    obtain ⟨u, us, hu, hus, rfl⟩ := toTokens_cons hts
    exact List.forall_mem_cons.2 ⟨normal_toToken hi hu, ih hitems hus⟩

theorem toTokens_ne_nil {i : Item} {items : List Item} {ts : List Token} (h : toTokens (i :: items) = .ok ts) :
    ts ≠ [] := by
  obtain ⟨u, us, -, -, rfl⟩ := toTokens_cons h
  exact List.cons_ne_nil u us

/-- The children of a grouping that a level is assembled to do not fall apart again. -/
theorem groups_toTokens {i : Item} {items : List Item} {ts : List Token} (h : i.Normal) (hbare : ∀ word, i ≠ bare word)
    (hblock : ∀ token, i = block token → items ≠ []) (hts : toTokens (i :: items) = .ok ts) : Token.Groups ts := by
  obtain ⟨u, us, hu, hus, rfl⟩ := toTokens_cons hts
  cases i with
  | bare word => exact absurd rfl (hbare word)
  | quoted text =>
    cases hu
    cases us <;> trivial
  | block token =>
    cases hu
    obtain ⟨j, items, rfl⟩ := List.exists_cons_of_ne_nil (hblock _ rfl)
    obtain ⟨v, vs, rfl⟩ := List.exists_cons_of_ne_nil (toTokens_ne_nil hus)
    match u, h.1 with
    | .block head children, _ => trivial

theorem normal_assemble {items : List Item} {t : Token} (h : ∀ i ∈ items, i.Normal)
    (ht : assemble items = .ok (some t)) : t.isBlock = true ∧ t.Normal fun _ => True := by
  revert ht
  fun_cases assemble items with
  | case1 => exact nofun
  | case2 token => exact fun ht => Option.some.inj (Except.ok.inj ht) ▸ h (block token) List.mem_cons_self
  | case3 head items =>
    intro ht
    obtain ⟨ts, hts, ht⟩ := map_eq_ok ht
    exact Option.some.inj ht ▸ ⟨rfl, .call (h _ List.mem_cons_self)
      (normal_toTokens (fun i hi => h i (List.mem_cons_of_mem _ hi)) hts)⟩
  | case4 items hne hblock hbare =>
    intro ht
    obtain ⟨ts, hts, htree⟩ := map_eq_ok ht
    obtain ⟨i, items, rfl⟩ := List.exists_cons_of_ne_nil hne
    exact Option.some.inj htree ▸ ⟨rfl, .group (groups_toTokens (h i List.mem_cons_self)
      (fun word he => hbare word items (by rw [he])) (fun token he hnil => hblock token (by rw [he, hnil])) hts)
      (normal_toTokens h hts)⟩

/-- A level that makes no block has a number that overflows. -/
theorem overflow_of_toTokens {items : List Item} {e : Error} (h : toTokens items = .error e) :
    e = .overflow ∧ ∃ w, bare w ∈ items ∧ Token.infer w = .error .overflow := by
  induction items with
  | nil => cases h
  | cons i items ih =>
    rcases bind_eq_error h with hi | ⟨t, -, h⟩
    · cases i with
      | bare w =>
        obtain ⟨rfl, -⟩ := Token.infer_eq_error_iff.1 hi
        exact ⟨rfl, w, List.mem_cons_self, hi⟩
      | quoted | block => cases hi
    · rcases bind_eq_error h with hitems | ⟨ts, -, h⟩
      · obtain ⟨he, w, hw, ho⟩ := ih hitems
        exact ⟨he, w, List.mem_cons_of_mem _ hw, ho⟩
      · cases h

theorem overflow_of_assemble {items : List Item} {e : Error} (h : assemble items = .error e) :
    e = .overflow ∧ ∃ w, bare w ∈ items ∧ Token.infer w = .error .overflow := by
  revert h
  fun_cases assemble items with
  | case1 | case2 => exact nofun
  | case3 head items =>
    intro h
    obtain ⟨he, w, hw, ho⟩ := overflow_of_toTokens (map_eq_error_iff.1 h)
    exact ⟨he, w, List.mem_cons_of_mem _ hw, ho⟩
  | case4 => exact fun h => overflow_of_toTokens (map_eq_error_iff.1 h)

end Item

/-! ## Levels -/

namespace Reading

open Item

/-- **Every item that a text says is normal**, by induction on the derivation. -/
theorem Spells.normal {cs : List Char} {items : List Item} (h : Spells cs items) : ∀ i ∈ items, i.Normal := by
  induction h with
  | nil => exact List.forall_mem_nil _
  | separator _ _ ih => exact ih
  | word hw _ _ ih => exact List.forall_mem_cons.2 ⟨hw, ih⟩
  | string _ _ _ ih => exact List.forall_mem_cons.2 ⟨trivial, ih⟩
  | level _ hb _ ihi ih =>
    intro i hi
    rcases List.mem_append.1 hi with hi | hi
    · obtain ⟨t, ht, rfl⟩ := List.mem_map.1 hi
      exact normal_assemble ihi (Option.mem_toList.1 ht ▸ hb)
    · exact ih i hi

end Reading

namespace Token

open Reading

instance (t : Token) : Decidable (t = emptyBlock) :=
  match t with
  | block head [] => decidable_of_iff (head = "") ⟨fun h => h ▸ rfl, fun h => by cases h; rfl⟩
  | block _ (_ :: _) | decimal _ | string _ | boolean _ | time _ | null | list _ | map _ => isFalse nofun

/-- The empty block is not normal: as a call it has no head, and as a grouping it has no children. -/
theorem not_normal_emptyBlock {ok : String → Prop} : ¬emptyBlock.Normal ok := by
  intro h
  cases h with
  | call hw _ => exact hw.1 rfl
  | group hg _ => exact hg

/-- What is read is the block that the items of the source make, and the empty block only if there are none. -/
theorem spells_of_read {source : String} {t : Token} (h : read source = .ok t) :
    ∃ items, Spells source.toList items ∧ Item.assemble items = .ok (if t = emptyBlock then none else some t) := by
  obtain ⟨items, b, hs, ha, ht⟩ := read_eq_ok_iff.1 h
  refine ⟨items, hs, ?_⟩
  rw [ha]
  cases b with
  | none =>
    obtain rfl : emptyBlock = t := ht
    rw [if_pos rfl]
  | some u =>
    have hn := Item.normal_assemble hs.normal ha
    obtain rfl : u = t := ht
    rw [if_neg]
    rintro rfl
    exact not_normal_emptyBlock hn.2

/-- **The reader gives the empty block or a normal block.** -/
theorem normal_of_read {source : String} {t : Token} (h : read source = .ok t) :
    t = emptyBlock ∨ t.isBlock = true ∧ t.Normal fun _ => True := by
  obtain ⟨items, hs, ha⟩ := spells_of_read h
  by_cases ht : t = emptyBlock
  · exact .inl ht
  · rw [if_neg ht] at ha
    exact .inr (Item.normal_assemble hs.normal ha)

end Token

/-! ## Sources that hold nothing -/

namespace Reading

/-- A text of separators and of blocks that hold nothing but such a text. -/
inductive Vacant : List Char → Prop
  | nil : Vacant []
  | separator {c : Char} {cs : List Char} (hc : isSeparator c = true) (h : Vacant cs) : Vacant (c :: cs)
  | level {inner cs : List Char} (hi : Vacant inner) (h : Vacant cs) : Vacant ('(' :: (inner ++ ')' :: cs))

theorem assemble_eq_none_iff {items : List Item} : Item.assemble items = .ok none ↔ items = [] := by
  fun_cases Item.assemble items with
  | case1 => exact iff_of_true rfl rfl
  | case2 token => exact iff_of_false nofun (List.cons_ne_nil _ _)
  | case3 head items =>
    refine iff_of_false (fun h => ?_) (List.cons_ne_nil _ _)
    obtain ⟨ts, -, h⟩ := map_eq_ok h
    cases h
  | case4 items hne _ _ =>
    refine iff_of_false (fun h => ?_) hne
    obtain ⟨ts, -, h⟩ := map_eq_ok h
    cases h

/-- The texts that say nothing are those that hold nothing. -/
theorem spells_nil_iff {cs : List Char} : Spells cs [] ↔ Vacant cs := by
  constructor
  · intro h
    generalize hnil : ([] : List Item) = items at h
    induction h with
    | nil => exact .nil
    | separator hc _ ih => exact .separator hc (ih hnil)
    | word | string => cases hnil
    | @level inner cs js items b _ hb _ ihi ih =>
      obtain ⟨hjs, hitems⟩ := List.append_eq_nil_iff.1 hnil.symm
      obtain rfl : b = none := by simpa using hjs
      exact .level (ihi (assemble_eq_none_iff.1 hb).symm) (ih hitems.symm)
  · intro h
    induction h with
    | nil => exact .nil
    | separator hc _ ih => exact .separator hc ih
    | level _ _ ihi ih => exact .level ihi rfl ih

end Reading

namespace Token

open Reading

/-- **What is read is in normal form**, and it is the empty block exactly when the source holds nothing. -/
theorem read_normal {source : String} {t : Token} (h : read source = .ok t) :
    (t = emptyBlock ∨ t.isBlock = true ∧ t.Normal fun _ => True) ∧ (t = emptyBlock ↔ Vacant source.toList) := by
  refine ⟨normal_of_read h, ?_⟩
  constructor
  · intro ht
    obtain ⟨items, hs, ha⟩ := spells_of_read h
    rw [if_pos ht, assemble_eq_none_iff] at ha
    subst ha
    exact spells_nil_iff.1 hs
  · intro hv
    have hempty : read source = .ok emptyBlock := read_eq_ok_iff.2 ⟨[], none, spells_nil_iff.2 hv, rfl, rfl⟩
    rw [h] at hempty
    exact Except.ok.inj hempty

/-- Empty blocks around empty blocks, then a string alone in two pairs of parentheses. -/
theorem read_normal_lone :
    let source := "( ()\t(( ) )) (('a\\b'))"
    let t := block "" [string "a\\b"]
    read source = .ok t ∧
      (t = emptyBlock ∨ t.isBlock = true ∧ t.Normal fun _ => True) ∧ (t = emptyBlock ↔ Vacant source.toList) := by
  have hr : read "( ()\t(( ) )) (('a\\b'))" = .ok (block "" [string "a\\b"]) := by
    rw [read_eq_scan]
    cbv
  exact ⟨hr, read_normal hr⟩

end Token

end RuleExpr
