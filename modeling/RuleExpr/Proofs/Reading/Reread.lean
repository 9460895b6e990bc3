import Mathlib
import RuleExpr.Proofs.Reading.Image
import RuleExpr.Proofs.Token.Equality

/-!
# Reading what was read and written

The source of a tree that was read reads back as an equal tree exactly when none of its strings ends in a backslash
(`rereads_iff`). A single-quoted string or a bare word may end in one; written in double quotes it takes the closing
quote with it.

* **What is read stays** (`readStrings_of_scan`): the strings of the items read so far are a prefix of the strings of
  the result, whatever follows, and so is the string that is open, as far as it has been read.
* **A string that does not close is misread** (`misreads_of_not_closes`): at its place the reader has another string,
  which goes on with a quote where the backslash was.
-/

namespace RuleExpr

/-! ## The strings of a tree -/

namespace Token

mutual

/-- The contents of the strings of a tree of blocks, from left to right. -/
def strings : Token → List String
  | string s => [s]
  | block _ children => stringsOfList children
  | _ => []

/-- The contents of the strings of a list of trees. -/
def stringsOfList : List Token → List String
  | [] => []
  | t :: ts => strings t ++ stringsOfList ts

end

theorem mem_stringsOfList {s : String} {ts : List Token} : s ∈ stringsOfList ts ↔ ∃ t ∈ ts, s ∈ t.strings := by
  induction ts with
  | nil => simp [stringsOfList]
  | cons t ts ih => simp [stringsOfList, ih]

mutual

/-- Equal trees have the same strings. -/
theorem strings_of_equal : ∀ {t u : Token}, equal t u = true → t.strings = u.strings
  | string a, string b, h => by rw [strings, strings, eq_of_beq h]
  | block h ts, block k us, he => by
    simp only [equal, Bool.and_eq_true] at he
    exact stringsOfList_of_equalLists he.2
  | decimal _, decimal _, _ => rfl
  | boolean _, boolean _, _ => rfl
  | time _, time _, _ => rfl
  | null, null, _ => rfl
  | list _, list _, _ => rfl
  | map _, map _, _ => rfl

theorem stringsOfList_of_equalLists : ∀ {ts us : List Token}, equalLists ts us = true →
    stringsOfList ts = stringsOfList us
  | [], [], _ => rfl
  | t :: ts, u :: us, h => by
    simp only [equalLists, Bool.and_eq_true] at h
    rw [stringsOfList, stringsOfList, strings_of_equal h.1, stringsOfList_of_equalLists h.2]

end

/-- The condition on the strings of a normal tree is one on all that are in it. -/
theorem Normal.of_strings {ok ok' : String → Prop} {t : Token} (hn : t.Normal ok) (h : ∀ s ∈ t.strings, ok' s) :
    t.Normal ok' := by
  induction hn with
  | decimal hd => exact .decimal hd
  | string hs => exact .string (h _ (List.mem_singleton.2 rfl))
  | boolean b => exact .boolean b
  | time ht => exact .time ht
  | call hw hc ih => exact .call hw fun t ht => ih t ht fun s hs => h s (mem_stringsOfList.2 ⟨t, ht, hs⟩)
  | group hg hc ih => exact .group hg fun t ht => ih t ht fun s hs => h s (mem_stringsOfList.2 ⟨t, ht, hs⟩)

/-- A normal tree has no maps. -/
theorem Normal.keyed {ok : String → Prop} {t : Token} (h : t.Normal ok) : t.Keyed := by
  induction h with
  | decimal hd => exact .decimal _
  | string hs => exact .string _
  | boolean b => exact .boolean b
  | time ht => exact .time _
  | call hw hc ih => exact .block ih
  | group hg hc ih => exact .block ih

end Token

/-! ## The strings read so far -/

namespace Item

/-- The strings of the tree that the item is as a child. -/
def contents : Item → List String
  | bare word =>
    match Token.infer word with
    | .ok t => t.strings
    | .error _ => []
  | quoted text => [text]
  | block token => token.strings

theorem contents_eq {i : Item} {t : Token} (h : i.toToken = .ok t) : i.contents = t.strings := by
  cases i with
  | bare word =>
    have hw : Token.infer word = .ok t := h
    simp only [contents, hw]
  | quoted text => cases h; rfl
  | block token => cases h; rfl

theorem contents_toTokens {items : List Item} {ts : List Token} (h : toTokens items = .ok ts) :
    items.flatMap contents = Token.stringsOfList ts := by
  induction items generalizing ts with
  | nil => cases h; rfl
  | cons i items ih =>
    obtain ⟨u, us, hu, hus, rfl⟩ := toTokens_cons h
    rw [List.flatMap_cons, contents_eq hu, ih hus]
    rfl

/-- The strings of the children of the block that a level is assembled to; a bare word in front is its head. -/
def strings : List Item → List String
  | bare _ :: items => items.flatMap contents
  | items => items.flatMap contents

theorem strings_of_assemble {items : List Item} {b : Option Token} (h : assemble items = .ok b) :
    (b.getD Token.emptyBlock).strings = strings items := by
  revert h
  fun_cases assemble items with
  | case1 => exact fun h => by cases h; rfl
  | case2 token => exact fun h => by cases h; exact (List.append_nil _).symm
  | case3 head items =>
    intro h
    obtain ⟨ts, hts, rfl⟩ := map_eq_ok h
    exact (contents_toTokens hts).symm
  | case4 items hne hblock hbare =>
    intro h
    obtain ⟨ts, hts, rfl⟩ := map_eq_ok h
    obtain ⟨i, items, rfl⟩ := List.exists_cons_of_ne_nil hne
    cases i with
    | bare head => exact absurd rfl (hbare head items)
    | quoted | block => exact (contents_toTokens hts).symm

/-- Another item adds its strings, unless it is a bare word in front. -/
theorem strings_concat {i : Item} (items : List Item) (h : strings [i] = i.contents) :
    strings (items ++ [i]) = strings items ++ i.contents := by
  match items with
  | [] => exact h
  | bare _ :: items | quoted _ :: items | block _ :: items =>
    simp only [List.cons_append, strings, List.flatMap_append, List.flatMap_cons, List.flatMap_nil, List.append_nil,
      List.append_assoc]

theorem strings_prefix_concat (items : List Item) (i : Item) : strings items <+: strings (items ++ [i]) := by
  match items, i with
  | [], _ => exact List.nil_prefix
  | bare _ :: items, _ | quoted _ :: items, _ | block _ :: items, _ =>
    simp only [List.cons_append, strings, List.flatMap_append, List.flatMap_cons, List.flatMap_nil, List.append_nil,
      ← List.append_assoc]
    exact List.prefix_append _ _

/-- The item of a normal tree adds the strings of the tree, even in front. -/
theorem strings_ofToken {ok : String → Prop} {t : Token} (h : t.Normal ok) :
    strings [ofToken t] = (ofToken t).contents := by
  rw [contents_eq (toToken_ofToken h)]
  cases h with
  | decimal | boolean | time => rfl
  | string | call | group => exact List.append_nil _

end Item

namespace Reading

open Item Token

/-- The strings of the open levels and of the items read at the current level. -/
def readStrings : List Level → List Item → List String
  | [], items => Item.strings items.reverse
  | level :: outer, items => readStrings outer level.before ++ Item.strings items.reverse

section

variable {outer : List Level} {items : List Item}

theorem readStrings_cons {i : Item} (h : Item.strings [i] = i.contents) :
    readStrings outer (i :: items) = readStrings outer items ++ i.contents := by
  cases outer <;> simp only [readStrings, List.reverse_cons, strings_concat _ h, List.append_assoc]

theorem readStrings_open (start : Nat) : readStrings (⟨start, items⟩ :: outer) [] = readStrings outer items :=
  List.append_nil _

/-- Closing a level leaves its strings where they are. -/
theorem readStrings_closeLevel {level : Level} {items' : List Item} (h : closeLevel items level.before = .ok items') :
    readStrings outer items' = readStrings (level :: outer) items := by
  obtain ⟨b, hb, rfl⟩ := map_eq_ok h
  rw [readStrings, ← strings_of_assemble hb]
  cases b with
  | none => exact (List.append_nil _).symm
  | some token => exact readStrings_cons (List.append_nil _)

theorem readStrings_prefix_closeWord (word : List Char) :
    readStrings outer items <+: readStrings outer (closeWord word items) := by
  unfold closeWord
  split
  · exact List.prefix_rfl
  · cases outer with
    | nil =>
      rw [readStrings, readStrings, List.reverse_cons]
      exact strings_prefix_concat _ _
    | cons level outer =>
      rw [readStrings, readStrings, List.reverse_cons]
      exact List.prefix_append_right_inj _ |>.2 (strings_prefix_concat _ _)

end

/-- The strings go on with those read so far, and in a string with one that begins as it does. -/
def Extends (outer : List Level) (items : List Item) (ss : List String) : Mode → Prop
  | .plain _ => readStrings outer items <+: ss
  | .quoted _ _ text => ∃ s, readStrings outer items ++ [s] <+: ss ∧ text.reverse <+: s.toList

/-- **What is read stays.** -/
theorem extends_of_scan {cs : List Char} {n : Nat} {mode : Mode} {items : List Item} {outer : List Level} {t : Token}
    (h : scan cs n mode items outer = .ok t) : Extends outer items t.strings mode := by
  fun_induction scan cs n mode items outer with
  | case1 | case2 | case7 | case10 | case11 => cases h
  | case3 n word items =>
    obtain ⟨b, hb, rfl⟩ := map_eq_ok h
    rw [strings_of_assemble hb]
    show readStrings [] items <+: readStrings [] (closeWord word items)
    exact readStrings_prefix_closeWord word
  | case4 cs n start quote text items outer ih =>
    refine ⟨String.ofList text.reverse, ?_, String.toList_ofList ▸ List.prefix_rfl⟩
    have := ih h
    rwa [Extends, readStrings_cons (List.append_nil _)] at this
  | case5 c n start quote text items outer hc d ds hd ih =>
    obtain ⟨s, hs, ht⟩ := ih h
    exact ⟨s, hs, (List.reverse_cons ▸ List.prefix_append _ _).trans ht⟩
  | case6 c n start quote text items outer hc d ds hd ih =>
    obtain ⟨s, hs, ht⟩ := ih h
    exact ⟨s, hs, (List.reverse_cons ▸ List.prefix_append _ _).trans ht⟩
  | case8 c cs n word items outer hc ih => exact ih h
  | case9 cs n word items outer _ hc ih =>
    have := ih h
    rw [Extends, readStrings_open] at this
    exact (readStrings_prefix_closeWord word).trans this
  | case12 cs n word items _ level outer items' hclose _ _ ih =>
    have := ih h
    rw [Extends, readStrings_closeLevel hclose] at this
    exact (readStrings_prefix_closeWord word).trans this
  | case13 c cs n word items outer hc _ hopen hclose hq ih =>
    obtain ⟨s, hs, -⟩ := ih h
    exact (readStrings_prefix_closeWord word).trans ((List.prefix_append _ _).trans hs)
  | case14 c cs n word items outer hc _ hopen hclose hq ih => exact (readStrings_prefix_closeWord word).trans (ih h)

/-! ## A string that does not close -/

/-- Wherever the tree is written, its strings are not read at their place. -/
def Misreads (t : Token) : Prop :=
  ∀ (rest : List Char) (n : Nat) (items : List Item) (outer : List Level) (u : Token), Ends rest →
    scan (renderTo t rest) n (.plain []) items outer = .ok u → ¬readStrings outer items ++ t.strings <+: u.strings

/-- The closing quote is read as part of the string. -/
theorem misreads_string {s : String} (h : ¬Closes s) : Misreads (.string s) := by
  intro rest n items outer u _ hu hp
  obtain ⟨cs, hcs⟩ := List.getLast?_eq_some_iff.1 (not_not.1 h)
  have hread : renderTo (.string s) rest = '"' :: (escape cs ++ '\\' :: '"' :: rest) := by
    simp only [renderTo, hcs, escape, List.flatMap_append, List.append_assoc]
    rfl
  obtain ⟨m, hm⟩ := scan_escape n ('"' :: rest) items outer cs [] (n + 1) (d := '\\') fun _ => by decide
  rw [hread, scan_quote rfl, hm, scan_escapedQuote rfl] at hu
  obtain ⟨x, hx, ht⟩ := extends_of_scan hu
  have hp' : readStrings outer items ++ [s] <+: u.strings := hp
  have he := (List.prefix_of_prefix_length_le hp' hx (by simp)).eq_of_length (by simp)
  have hs : s = x := List.singleton_inj.1 (List.append_cancel_left he)
  rw [← hs, hcs, List.append_nil, List.reverse_cons, List.reverse_reverse] at ht
  have := List.append_cancel_left (ht.eq_of_length (by simp))
  cases this

/-- The first argument that is misread keeps the strings from their place, those of the arguments before it being read
right. -/
theorem misreads_renderArguments {rest : List Char} {outer : List Level} {u : Token} {ts : List Token} {n : Nat}
    {items : List Item} (hr : Ends rest) (hn : ∀ t ∈ ts, t.Normal fun _ => True)
    (hm : ∀ t ∈ ts, (∃ s ∈ t.strings, ¬Closes s) → Misreads t) (hb : ∃ s ∈ stringsOfList ts, ¬Closes s)
    (hu : scan (renderArguments ts rest) n (.plain []) items outer = .ok u) :
    ¬readStrings outer items ++ stringsOfList ts <+: u.strings := by
  intro hp
  induction ts generalizing n items with
  | nil =>
    obtain ⟨_, hs, -⟩ := hb
    cases hs
  | cons t ts ih =>
    obtain ⟨s, hs, hc⟩ := hb
    obtain ⟨hnt, hnts⟩ := List.forall_mem_cons.1 hn
    obtain ⟨hmt, hmts⟩ := List.forall_mem_cons.1 hm
    rw [renderArguments, scan_separator rfl] at hu
    rw [stringsOfList, ← List.append_assoc] at hp
    by_cases ht : ∃ s ∈ t.strings, ¬Closes s
    · exact hmt ht _ _ _ _ _ (ends_arguments ts hr) hu ((List.prefix_append _ _).trans hp)
    · have htc : t.Normal Closes := hnt.of_strings fun s hs => not_not.1 fun hc => ht ⟨s, hs, hc⟩
      obtain ⟨m, he⟩ := scan_render htc (renderArguments ts rest) (n + 1) items outer (ends_arguments ts hr)
      rw [he] at hu
      rw [← contents_eq (toToken_ofToken hnt), ← readStrings_cons (strings_ofToken hnt)] at hp
      have hbs : ∃ s ∈ stringsOfList ts, ¬Closes s :=
        ⟨s, (List.mem_append.1 hs).resolve_left fun h => ht ⟨s, h, hc⟩, hc⟩
      exact ih hnts hmts hbs hu hp

/-- **A normal tree with a string that does not close is misread.** -/
theorem misreads_of_not_closes {t : Token} (hn : t.Normal fun _ => True) (h : ∃ s ∈ t.strings, ¬Closes s) :
    Misreads t := by
  induction hn with
  | decimal | boolean | time =>
    obtain ⟨s, hs, -⟩ := h
    cases hs
  | string =>
    obtain ⟨s, hs, hc⟩ := h
    exact misreads_string (List.mem_singleton.1 hs ▸ hc)
  | @call head ts hw hc ih =>
    intro rest n items outer u _ hu hp
    rw [renderTo, if_neg (by simp [isEmpty_of_isWord hw]), scan_open, scan_bare hw (ends_arguments ts ends_close)] at hu
    refine misreads_renderArguments ends_close hc ih h hu ?_
    rw [readStrings]
    exact (List.append_nil _).symm ▸ hp
  | @group ts hg hc ih =>
    intro rest n items outer u _ hu hp
    rw [renderTo, if_pos (show "".isEmpty = true from rfl), scan_open, scan_renderGroup hg.ne_nil] at hu
    refine misreads_renderArguments ends_close hc ih h hu ?_
    rwa [readStrings_open]

end Reading

namespace Token

theorem closes_emptyBlock : ∀ s ∈ emptyBlock.strings, Closes s := List.forall_mem_nil _

/-- **The source of a tree that was read reads back as an equal tree exactly when all its strings close.** -/
theorem rereads_iff {source : String} {t : Token} (h : read source = .ok t) :
    (∃ u, read t.render = .ok u ∧ u.equal t = true) ↔ ∀ s ∈ t.strings, Closes s := by
  constructor
  · rintro ⟨u, hu, he⟩ s hs
    by_contra hc
    rcases normal_of_read h with rfl | ⟨-, hn⟩
    · exact hc (closes_emptyBlock s hs)
    · rw [read_eq_scan, render, String.toList_ofList] at hu
      refine Reading.misreads_of_not_closes hn ⟨s, hs, hc⟩ [] 0 [] [] u Reading.ends_nil hu ?_
      exact strings_of_equal he ▸ List.prefix_rfl
  · intro hs
    rcases normal_of_read h with rfl | ⟨hb, hn⟩
    · exact ⟨emptyBlock, read_render (.inl rfl), rfl⟩
    · have hc := hn.of_strings hs
      exact ⟨t, Reading.read_of_reads hb (Reading.scan_render hc), hc.keyed.equal_refl⟩

/-- A bare word that ends in a backslash. -/
theorem not_rereads_backslash :
    ¬∀ source t, read source = .ok t → ∃ u, read t.render = .ok u ∧ u.equal t = true := by
  intro h
  have hr : read "(f a\\)" = .ok (block "f" [string "a\\"]) := by
    rw [read_eq_scan]
    rfl
  obtain ⟨u, hu, -⟩ := h "(f a\\)" (block "f" [string "a\\"]) hr
  have he : read (block "f" [string "a\\"]).render = .error (.syntaxError 3 .unterminatedString) := by
    rw [read_eq_scan, render, String.toList_ofList]
    rfl
  rw [he] at hu
  cases hu

/-- A double quote behind a backslash in a single-quoted string. -/
theorem rereads_escapedQuote :
    let t := block "f" [string "\\\""]
    read "(f '\\\"')" = .ok t ∧
      ((∃ u, read t.render = .ok u ∧ u.equal t = true) ↔ ∀ s ∈ t.strings, Closes s) := by
  have hr : read "(f '\\\"')" = .ok (block "f" [string "\\\""]) := by
    rw [read_eq_scan]
    cbv
  exact ⟨hr, rereads_iff hr⟩

end Token

end RuleExpr
