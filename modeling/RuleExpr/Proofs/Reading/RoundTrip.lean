import RuleExpr.Proofs.Reading.Scan

/-!
# Source text of a tree reads back as the tree

A tree is normal (`Token.Normal`) when its atoms are those that can be written, its heads are words, and its groupings
are none that the reader would take apart: a grouping begins with an item that is no bare word, which would become its
head, and is not around a lone block, which would stand for itself. The strings of a normal tree satisfy a condition
that is left open; what the closing quotes need is that no string ends in a backslash (`Closes`).

* **Reading a written tree** (`scan_render`): the reader takes the text of a normal tree, whatever stands around it, as
  the one item that the tree is. By induction on the tree, with the text that follows left open.
* **Round trip** (`read_render`): a normal block, and the empty block, read back from their source.
-/

namespace RuleExpr

namespace Token

/-! ## Normal trees -/

/-- The closing quote of the written string closes it: no backslash stands in front. -/
def Closes (s : String) : Prop := s.toList.getLast? ≠ some '\\'

instance (s : String) : Decidable (Closes s) := inferInstanceAs (Decidable (_ ≠ _))

/-- The children of a grouping begin with a string or a block, and are not a block alone. -/
def Groups : List Token → Prop
  | [string _] => True
  | string _ :: _ :: _ => True
  | block _ _ :: _ :: _ => True
  | _ => False

theorem Groups.ne_nil {ts : List Token} (h : Groups ts) : ts ≠ [] := by
  rintro rfl
  exact h

/-- A tree that the reader gives for some source, with a condition on its strings. Scales are 32-bit words. -/
inductive Normal (ok : String → Prop) : Token → Prop
  | decimal {d : Decimal} (hd : d.scale < 2 ^ 32) : Normal ok (decimal d)
  | string {s : String} (hs : ok s) : Normal ok (string s)
  | boolean (b : Bool) : Normal ok (boolean b)
  | time {t : Timestamp} (ht : t.Printable) : Normal ok (time t)
  | call {head : String} {children : List Token} (hw : IsWord head) (hc : ∀ t ∈ children, Normal ok t) :
      Normal ok (block head children)
  | group {children : List Token} (hg : Groups children) (hc : ∀ t ∈ children, Normal ok t) :
      Normal ok (block "" children)

end Token

/-! ## The items of written trees -/

namespace Item

/-- The item that the text of a tree is read as. -/
def ofToken : Token → Item
  | .string s => quoted s
  | .block head children => block (.block head children)
  | t => bare t.text

/-- As a child, the item of a normal tree is the tree. -/
theorem toToken_ofToken {ok : String → Prop} {t : Token} (h : t.Normal ok) : (ofToken t).toToken = .ok t := by
  cases h with
  | decimal hd => simp only [ofToken, toToken, Token.text, Token.infer_decimal hd]
  | string hs => rfl
  | boolean b => simp only [ofToken, toToken, Token.text, Token.infer_boolean]
  | time ht => simp only [ofToken, toToken, Token.text, Token.infer_time ht]
  | call hw hc => rfl
  | group hg hc => rfl

theorem toTokens_map_ofToken {ok : String → Prop} {ts : List Token} (h : ∀ t ∈ ts, t.Normal ok) :
    toTokens (ts.map ofToken) = .ok ts := by
  induction ts with
  | nil => rfl
  | cons t ts ih =>
    obtain ⟨ht, hts⟩ := List.forall_mem_cons.1 h
    rw [List.map_cons, toTokens, toToken_ofToken ht, ih hts]
    rfl

/-- A level with a bare word in front is a call. -/
theorem assemble_call {ok : String → Prop} {head : String} {ts : List Token} (h : ∀ t ∈ ts, t.Normal ok) :
    assemble (bare head :: ts.map ofToken) = .ok (some (Token.block head ts)) := by
  rw [assemble, toTokens_map_ofToken h]
  rfl

/-- A level that begins with a string or a block, and is no block alone, is a grouping. -/
theorem assemble_group {ok : String → Prop} {ts : List Token} (hg : Token.Groups ts) (h : ∀ t ∈ ts, t.Normal ok) :
    assemble (ts.map ofToken) = .ok (some (Token.block "" ts)) := by
  have hm := toTokens_map_ofToken h
  match ts, hg, hm with
  | [.string _], _, _ => rfl
  | .string _ :: _ :: _, _, hm => exact congrArg (Except.map fun us => some (Token.block "" us)) hm
  | .block _ _ :: _ :: _, _, hm => exact congrArg (Except.map fun us => some (Token.block "" us)) hm

end Item

/-! ## Reading a written tree -/

namespace Reading

open Token Item

/-- The reader takes the text of the tree as one item, whatever stands around it. -/
def Reads (t : Token) : Prop :=
  ∀ (rest : List Char) (n : Nat) (items : List Item) (outer : List Level), Ends rest →
    ∃ m, scan (renderTo t rest) n (.plain []) items outer = scan rest m (.plain []) (ofToken t :: items) outer

variable {rest : List Char} {n : Nat} {items : List Item} {outer : List Level}

theorem ends_close : Ends (')' :: rest) := ends_cons rfl

theorem ends_arguments (ts : List Token) (h : Ends rest) : Ends (renderArguments ts rest) := by
  cases ts with
  | nil => exact h
  | cons t ts => exact fun _ h => by cases h; rfl

/-- The arguments of a call become items, one after the other. -/
theorem scan_renderArguments (rest : List Char) (outer : List Level) {ts : List Token} (n : Nat) (items : List Item)
    (h : ∀ t ∈ ts, Reads t) (hr : Ends rest) :
    ∃ m, scan (renderArguments ts rest) n (.plain []) items outer =
      scan rest m (.plain []) ((ts.map ofToken).reverse ++ items) outer := by
  induction ts generalizing n items with
  | nil => exact ⟨n, rfl⟩
  | cons t ts ih =>
    obtain ⟨ht, hts⟩ := List.forall_mem_cons.1 h
    obtain ⟨k, hk⟩ := ht (renderArguments ts rest) (n + 1) items outer (ends_arguments ts hr)
    obtain ⟨m, hm⟩ := ih k (ofToken t :: items) hts
    refine ⟨m, ?_⟩
    rw [renderArguments, scan_separator rfl, hk, hm, List.map_cons, List.reverse_cons, List.append_assoc]
    rfl

/-- The children of a grouping are read like arguments, from the place after the first blank. -/
theorem scan_renderGroup {ts : List Token} (h : ts ≠ []) :
    scan (renderGroup ts rest) (n + 1) (.plain []) items outer =
      scan (renderArguments ts rest) n (.plain []) items outer := by
  obtain ⟨t, ts, rfl⟩ := List.exists_cons_of_ne_nil h
  rw [renderGroup, renderArguments, scan_separator rfl]

/-- Closing a level puts the block of its items after the items around it. -/
theorem scan_closeLevel {inner : List Item} {t : Token} (h : assemble inner = .ok (some t)) (start : Nat) :
    scan (')' :: rest) n (.plain []) inner.reverse (⟨start, items⟩ :: outer) =
      scan rest (n + 1) (.plain []) (.block t :: items) outer := by
  rw [scan_close, closeLevel, List.reverse_reverse, h]
  rfl

theorem isEmpty_of_isWord {w : String} (h : IsWord w) : w.isEmpty = false := by
  rw [← Bool.not_eq_true, String.isEmpty_iff]
  rintro rfl
  exact h.1 rfl

theorem reads_string {s : String} (h : Closes s) : Reads (.string s) := by
  intro rest n items outer _
  obtain ⟨m, hm⟩ := scan_escape n rest items outer s.toList [] (n + 1) (d := '"') fun hl => absurd hl h
  refine ⟨m + 1, ?_⟩
  rw [renderTo, scan_quote rfl, hm, scan_endQuote, List.append_nil, List.reverse_reverse, String.ofList_toList]
  rfl

theorem reads_call {head : String} {ts : List Token} (hw : IsWord head) (hn : ∀ t ∈ ts, t.Normal Closes)
    (h : ∀ t ∈ ts, Reads t) : Reads (.block head ts) := by
  intro rest n items outer _
  obtain ⟨m, hm⟩ := scan_renderArguments (')' :: rest) (⟨n, items⟩ :: outer) (n + 1 + head.toList.length) [.bare head] h
    ends_close
  refine ⟨m + 1, ?_⟩
  rw [renderTo, if_neg (by simp [isEmpty_of_isWord hw]), scan_open, scan_bare hw (ends_arguments ts ends_close), hm,
    ← List.reverse_cons, scan_closeLevel (assemble_call hn)]
  rfl

theorem reads_group {ts : List Token} (hg : Groups ts) (hn : ∀ t ∈ ts, t.Normal Closes) (h : ∀ t ∈ ts, Reads t) :
    Reads (.block "" ts) := by
  intro rest n items outer _
  obtain ⟨m, hm⟩ := scan_renderArguments (')' :: rest) (⟨n, items⟩ :: outer) n [] h ends_close
  refine ⟨m + 1, ?_⟩
  rw [renderTo, if_pos (show "".isEmpty = true from rfl), scan_open, scan_renderGroup hg.ne_nil, hm, List.append_nil,
    scan_closeLevel (assemble_group hg hn)]
  rfl

/-- **The reader takes the text of a normal tree as the one item that the tree is.** -/
theorem scan_render {t : Token} (h : t.Normal Closes) : Reads t := by
  induction h with
  | @decimal d hd => exact fun _ _ _ _ hr => ⟨_, scan_bare d.isWord_render hr⟩
  | string hs => exact reads_string hs
  | boolean b => exact fun _ _ _ _ hr => ⟨_, scan_bare (isWord_boolean b) hr⟩
  | @time t ht => exact fun _ _ _ _ hr => ⟨_, scan_bare t.isWord_render hr⟩
  | call hw hc ih => exact reads_call hw hc ih
  | group hg hc ih => exact reads_group hg hc ih

/-- A block alone stands for itself. -/
theorem read_of_reads {t : Token} (hb : t.isBlock = true) (h : Reads t) : Token.read t.render = .ok t := by
  obtain ⟨m, hm⟩ := h [] 0 [] [] ends_nil
  rw [read_eq_scan, render, String.toList_ofList, hm]
  match t, hb with
  | .block head children, _ => rfl

end Reading

namespace Token

/-- **A normal block, and the empty block, read back from their source.** -/
theorem read_render {t : Token} (h : t = emptyBlock ∨ t.isBlock = true ∧ t.Normal Closes) : read t.render = .ok t := by
  rcases h with rfl | ⟨hb, hn⟩
  · rw [read_eq_scan]
    rfl
  · exact Reading.read_of_reads hb (Reading.scan_render hn)

/-- A grouping of a string with quotes and backslashes, a call with a decimal, a truth value and the empty string, and a
call without arguments. -/
theorem read_render_grouping :
    let call := block "check" [decimal ⟨-25, 1, .inr (by decide)⟩, boolean true, string ""]
    let tree := block "" [string "a \\\"b\" (c)", call, time ⟨19725, ⟨45296, 500000000⟩, 5400⟩, block "now" []]
    (tree = emptyBlock ∨ tree.isBlock = true ∧ tree.Normal Closes) ∧ read tree.render = .ok tree := by
  intro call tree
  have hcall : call.Normal Closes := by
    refine .call (by decide) fun t ht => ?_
    simp only [List.mem_cons, List.not_mem_nil, or_false] at ht
    rcases ht with rfl | rfl | rfl
    · exact .decimal (by decide)
    · exact .boolean true
    · exact .string (by decide)
  have htree : tree.Normal Closes := by
    refine .group trivial fun t ht => ?_
    simp only [List.mem_cons, List.not_mem_nil, or_false] at ht
    rcases ht with rfl | rfl | rfl | rfl
    · exact .string (by decide)
    · exact hcall
    · exact .time ⟨⟨by decide, by decide, by decide⟩, by decide, by decide, by decide⟩
    · exact .call (by decide) fun _ h => by cases h
  exact ⟨.inr ⟨rfl, htree⟩, read_render (.inr ⟨rfl, htree⟩)⟩

end Token

end RuleExpr
