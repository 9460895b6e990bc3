import RuleExpr.Template
import RuleExpr.Proofs.Outcome
import RuleExpr.Proofs.Reading.Image

/-!
# The blocks of a token

`Token.blocks` lists the blocks at any depth of a token. Evaluation treats blocks in two ways: those of a tree are calls
that it makes, those of a value it passes on. So there are two conditions on tokens:

- `Token.Data held`: a value whose blocks, itself or those it reaches through lists and maps, satisfy `held`; nothing is
  said about what is inside such a block;
- `Token.Tree call held`: a tree of blocks each of which satisfies `call` by its name and argument count, with such
  values for leaves.

What a template is instantiated to is a tree if its body and the arguments are (`tree_instantiate`): a placeholder is
replaced as a whole, and every other block keeps its head and the number of its children.
-/

namespace RuleExpr

open RuleExpr.Text

namespace Token

/-! ## Listing the blocks -/

mutual

/-- The heads and children of the blocks at any depth. -/
def blocks : Token → List (String × List Token)
  | list items => blocksOfList items
  | map entries => blocksOfEntries entries
  | block head children => (head, children) :: blocksOfList children
  | _ => []

/-- The blocks of the tokens of a list. -/
def blocksOfList : List Token → List (String × List Token)
  | [] => []
  | t :: ts => blocks t ++ blocksOfList ts

/-- The blocks of the values of a map. -/
def blocksOfEntries : List (String × Token) → List (String × List Token)
  | [] => []
  | (_, t) :: es => blocks t ++ blocksOfEntries es

end

theorem mem_blocksOfList {b : String × List Token} {ts : List Token} :
    b ∈ blocksOfList ts ↔ ∃ t ∈ ts, b ∈ t.blocks := by
  induction ts with
  | nil => simp [blocksOfList]
  | cons t ts ih => simp [blocksOfList, ih]

/-- What a text spells is an atom. -/
theorem blocks_of_infer {text : String} {t : Token} (h : infer text = .ok t) : t.blocks = [] := by
  rcases infer_cases text with ⟨b, hb⟩ | ⟨u, hu, -⟩ | ⟨d, hd, -⟩ | hs | ho
  · exact Except.ok.inj (hb.symm.trans h) ▸ rfl
  · exact Except.ok.inj (hu.symm.trans h) ▸ rfl
  · exact Except.ok.inj (hd.symm.trans h) ▸ rfl
  · exact Except.ok.inj (hs.symm.trans h) ▸ rfl
  · exact nomatch ho.symm.trans h

/-- No block has a head that is the name in some case; the name is given in lower case. -/
def Avoids (key : String) (t : Token) : Prop := ∀ b ∈ t.blocks, foldCase b.1 ≠ key

instance (key : String) (t : Token) : Decidable (t.Avoids key) := inferInstanceAs (Decidable (∀ _ ∈ _, _))

/-! ## Values -/

/-- A value whose blocks, itself or those it reaches through lists and maps, satisfy a condition. -/
inductive Data (held : String → List Token → Prop) : Token → Prop
  | decimal (d : Decimal) : Data held (decimal d)
  | string (s : String) : Data held (string s)
  | boolean (b : Bool) : Data held (boolean b)
  | time (t : Timestamp) : Data held (time t)
  | null : Data held null
  | list {items : List Token} (h : ∀ t ∈ items, Data held t) : Data held (list items)
  | map {entries : List (String × Token)} (h : ∀ e ∈ entries, Data held e.2) : Data held (map entries)
  | block {head : String} {children : List Token} (h : held head children) : Data held (block head children)

namespace Data

variable {held held' : String → List Token → Prop}

theorem of_list {items : List Token} (h : Data held (Token.list items)) : ∀ t ∈ items, Data held t := by
  cases h with
  | list h => exact h

theorem of_map {entries : List (String × Token)} (h : Data held (Token.map entries)) :
    ∀ e ∈ entries, Data held e.2 := by
  cases h with
  | map h => exact h

theorem of_block {head : String} {children : List Token} (h : Data held (Token.block head children)) :
    held head children := by
  cases h with
  | block h => exact h

theorem mono (hm : ∀ head children, held head children → held' head children) {t : Token} (h : Data held t) :
    Data held' t := by
  induction h with
  | list _ ih => exact .list ih
  | map _ ih => exact .map ih
  | block h => exact .block (hm _ _ h)
  | decimal d => exact .decimal d
  | string s => exact .string s
  | boolean b => exact .boolean b
  | time t => exact .time t
  | null => exact .null

mutual

/-- The condition may be shown for all blocks, whatever their depth. -/
theorem of_blocks : ∀ {t : Token}, (∀ b ∈ t.blocks, held b.1 b.2) → Data held t
  | .decimal d, _ => .decimal d
  | .string s, _ => .string s
  | .boolean b, _ => .boolean b
  | .time t, _ => .time t
  | .null, _ => .null
  | .list _, h => .list (of_blocksOfList h)
  | .map _, h => .map (of_blocksOfEntries h)
  | .block _ _, h => .block (h _ List.mem_cons_self)

theorem of_blocksOfList : ∀ {ts : List Token}, (∀ b ∈ blocksOfList ts, held b.1 b.2) → ∀ t ∈ ts, Data held t
  | [], _ => List.forall_mem_nil _
  | _ :: _, h => by
    rw [blocksOfList, List.forall_mem_append] at h
    exact List.forall_mem_cons.2 ⟨of_blocks h.1, of_blocksOfList h.2⟩

theorem of_blocksOfEntries : ∀ {es : List (String × Token)}, (∀ b ∈ blocksOfEntries es, held b.1 b.2) →
    ∀ e ∈ es, Data held e.2
  | [], _ => List.forall_mem_nil _
  | (_, _) :: _, h => by
    rw [blocksOfEntries, List.forall_mem_append] at h
    exact List.forall_mem_cons.2 ⟨of_blocks h.1, of_blocksOfEntries h.2⟩

end

theorem infer (text : String) : Yields (Data held) (Token.infer text) := fun _ ht =>
  of_blocks fun _ hb => absurd (blocks_of_infer ht ▸ hb) List.not_mem_nil

end Data

/-! ## Trees -/

/-- A tree of blocks that satisfy `call` by their name, in lower case, and argument count, with values for leaves. -/
inductive Tree (call : String → Nat → Prop) (held : String → List Token → Prop) : Token → Prop
  | leaf {t : Token} (hb : t.isBlock = false) (h : Data held t) : Tree call held t
  | block {head : String} {children : List Token} (hc : call (foldCase head) children.length)
      (h : ∀ t ∈ children, Tree call held t) : Tree call held (block head children)

namespace Tree

variable {call : String → Nat → Prop} {held : String → List Token → Prop} {head : String} {children : List Token}

theorem calls (h : Tree call held (Token.block head children)) : call (foldCase head) children.length := by
  cases h with
  | leaf hb => cases hb
  | block hc => exact hc

theorem of_block (h : Tree call held (Token.block head children)) : ∀ t ∈ children, Tree call held t := by
  cases h with
  | leaf hb => cases hb
  | block _ h => exact h

/-- A tree that is no block is a value. -/
theorem data {t : Token} (h : Tree call held t) (hb : t.isBlock = false) : Data held t := by
  cases h with
  | leaf _ h => exact h
  | block => cases hb

/-- Where any block may be in a value, a token is a tree if its blocks satisfy `call`. -/
theorem of_blocks (hheld : ∀ head children, held head children) {t : Token}
    (h : ∀ b ∈ t.blocks, call (foldCase b.1) b.2.length) : Tree call held t := by
  match t with
  | .block head children =>
    obtain ⟨hc, hcs⟩ := List.forall_mem_cons.1 h
    exact .block hc fun c hm => of_blocks hheld fun b hb => hcs b (mem_blocksOfList.2 ⟨c, hm, hb⟩)
  | .decimal _ | .string _ | .boolean _ | .time _ | .null | .list _ | .map _ =>
    exact .leaf rfl (.of_blocks fun b _ => hheld b.1 b.2)

/-- Every token is a tree, where nothing is asked of blocks. -/
theorem unrestricted (t : Token) : Tree (fun _ _ => True) (fun _ _ => True) t :=
  of_blocks (fun _ _ => trivial) fun _ _ => trivial

/-- What the reader gives has atoms for leaves. -/
theorem of_normal (hcall : ∀ key count, call key count) {ok : String → Prop} {t : Token} (h : t.Normal ok) :
    Tree call held t := by
  induction h with
  | decimal => exact .leaf rfl (.decimal _)
  | string => exact .leaf rfl (.string _)
  | boolean b => exact .leaf rfl (.boolean b)
  | time => exact .leaf rfl (.time _)
  | call _ _ ih => exact .block (hcall _ _) ih
  | group _ _ ih => exact .block (hcall _ _) ih

theorem of_read (hcall : ∀ key count, call key count) {source : String} {t : Token}
    (h : Token.read source = .ok t) : Tree call held t := by
  obtain rfl | ⟨-, hn⟩ := normal_of_read h
  · exact .block (hcall _ _) (List.forall_mem_nil _)
  · exact of_normal hcall hn

end Tree

end Token

/-! ## Templates -/

namespace Template

open Token (Tree)

variable {call : String → Nat → Prop} {held : String → List Token → Prop} {args : List Token}

theorem tree_argument (ha : ∀ a ∈ args, Tree call held a) (index : Decimal) :
    Yields (Tree call held) (argument args index) := by
  unfold argument
  split
  · exact .error _
  · split
    · next a h => exact .ok (ha a (List.mem_of_getElem? h))
    · exact .error _

/-- One pass over a list leaves its length as it is. -/
theorem tree_substituteAll {ts : List Token}
    (h : ∀ t ∈ ts, ∀ replaced, Yields (fun u => Tree call held u.1) (substitute args replaced t)) (replaced : Bool) :
    Yields (fun us => us.1.length = ts.length ∧ ∀ u ∈ us.1, Tree call held u) (substituteAll args replaced ts) := by
  induction ts generalizing replaced with
  | nil => exact .ok ⟨rfl, List.forall_mem_nil _⟩
  | cons t ts ih =>
    obtain ⟨ht, hts⟩ := List.forall_mem_cons.1 h
    rw [substituteAll]
    split
    · exact .error _
    · next u _ hu =>
      refine .map_of (ih hts _) fun us ⟨hl, hus⟩ => ⟨?_, List.forall_mem_cons.2 ⟨ht replaced _ hu, hus⟩⟩
      rw [List.length_cons, List.length_cons, hl]

/-- One pass over a tree gives a tree. -/
theorem tree_substitute (ha : ∀ a ∈ args, Tree call held a) {t : Token} (ht : Tree call held t) (replaced : Bool) :
    Yields (fun u => Tree call held u.1) (substitute args replaced t) := by
  induction ht generalizing replaced with
  | leaf hb h =>
    rw [substitute.eq_def]
    split
    · cases hb
    · exact .ok (.leaf hb h)
  | block hc _ ih =>
    rw [substitute]
    split
    · exact .map_of (tree_argument ha _) fun a h => h
    · refine .map_of (tree_substituteAll ih replaced) fun us ⟨hl, hus⟩ => .block ?_ hus
      rwa [hl]

theorem tree_expand (ha : ∀ a ∈ args, Tree call held a) (signature : Signature) (passes : Nat) {t : Token}
    (ht : Tree call held t) : Yields (Tree call held) (expand signature args passes t) := by
  induction passes generalizing t with
  | zero => exact .error _
  | succ passes ih =>
    rw [expand]
    split
    · exact .error _
    · next u hu => exact ih (tree_substitute ha ht false _ hu)
    · next u hu => exact .ok (tree_substitute ha ht false _ hu)

/-- **What a template is instantiated to is a tree.** -/
theorem tree_instantiate (ha : ∀ a ∈ args, Tree call held a) {template : Template} (ht : Tree call held template.body) :
    Yields (Tree call held) (template.instantiate args) := tree_expand ha _ _ ht

end Template

end RuleExpr
