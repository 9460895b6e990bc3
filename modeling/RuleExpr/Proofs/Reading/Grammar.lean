import RuleExpr.Proofs.Except
import RuleExpr.Proofs.Reading.Scan

/-!
# The grammar of source text

What a text says, without a reader: `Spells cs items` holds when `cs` is the text of a level with these items, one after
the other: a word, a string between two quotes (`Contents`), or the text of a level in parentheses, which says the block
that its items make. Separators may stand anywhere between them, and say nothing.

* **The reader takes what the grammar says** (`scan_spells`): the text of a level is read as its items, whatever stands
  around it. By induction on the derivation.
* **The reader takes nothing else** (`remains_of_scan`): when a scan succeeds, the text from any place in it completes
  the open word or string, then the open levels one by one (`Pending`), with derivations of the grammar.
* **A source is read as the block of its items** (`Token.read_eq_ok_iff`).
-/

namespace RuleExpr.Reading

open Item

/-! ## The grammar -/

/-- What stands between two quotes `q`, and the string that it says: a backslash in front of a quote is left out, any
other is part of the string. -/
inductive Contents (q : Char) : List Char → List Char → Prop
  | nil : Contents q [] []
  | quote {cs text : List Char} (h : Contents q cs text) : Contents q ('\\' :: q :: cs) (q :: text)
  | char {c : Char} {cs text : List Char} (hc : c ≠ q) (hb : c = '\\' → (cs ++ [q]).head? ≠ some q)
      (h : Contents q cs text) : Contents q (c :: cs) (c :: text)

/-- The text of a level says these items. -/
inductive Spells : List Char → List Item → Prop
  | nil : Spells [] []
  | separator {c : Char} {cs : List Char} {items : List Item} (hc : isSeparator c = true) (h : Spells cs items) :
      Spells (c :: cs) items
  | word {w : String} {cs : List Char} {items : List Item} (hw : IsWord w) (he : Ends cs) (h : Spells cs items) :
      Spells (w.toList ++ cs) (bare w :: items)
  | string {q : Char} {body text cs : List Char} {items : List Item} (hq : isQuote q = true)
      (hb : Contents q body text) (h : Spells cs items) :
      Spells (q :: (body ++ q :: cs)) (quoted (String.ofList text) :: items)
  | level {inner cs : List Char} {js items : List Item} {b : Option Token} (hi : Spells inner js)
      (hb : assemble js = .ok b) (h : Spells cs items) :
      Spells ('(' :: (inner ++ ')' :: cs)) (b.toList.map block ++ items)

/-! ## The reader takes what the grammar says -/

section Sound

variable {rest : List Char} {n : Nat} {items : List Item} {outer : List Level}

/-- A string is read up to its quote. -/
theorem scan_contents {q : Char} {body text : List Char} (hq : isQuote q = true) (h : Contents q body text)
    (start : Nat) (acc : List Char) :
    scan (body ++ q :: rest) n (.quoted start q acc) items outer =
      scan rest (n + body.length + 1) (.plain []) (quoted (String.ofList (acc.reverse ++ text)) :: items) outer := by
  induction h generalizing n acc with
  | nil =>
    rw [List.nil_append, scan_endQuote, List.append_nil]
    rfl
  | @quote cs text _ ih =>
    rw [List.cons_append, List.cons_append, scan_escapedQuote hq, ih, List.reverse_cons, List.append_assoc,
      List.singleton_append]
    congr 1
    simp only [List.length_cons]
    omega
  | @char c cs text hc hb _ ih =>
    have hstep : ∃ d ds, cs ++ q :: rest = d :: ds ∧ (c = '\\' → d ≠ q) := by
      cases cs with
      | nil => exact ⟨q, rest, rfl, fun he => absurd rfl (hb he)⟩
      | cons d ds => exact ⟨d, _, rfl, fun he hd => hb he (congrArg some hd)⟩
    obtain ⟨d, ds, hd, hne⟩ := hstep
    rw [List.cons_append, hd, scan_quoted hc hne, ← hd, ih, List.reverse_cons, List.append_assoc,
      List.singleton_append]
    congr 1
    simp only [List.length_cons]
    omega

theorem addBlock_eq (items : List Item) (b : Option Token) :
    addBlock items b = (b.toList.map block).reverse ++ items := by
  cases b <;> rfl

/-- The level that is closed adds its block, if it has one. -/
theorem closeLevel_eq {inner : List Item} {b : Option Token} (h : assemble inner = .ok b) (items : List Item) :
    closeLevel inner.reverse items = .ok ((b.toList.map block).reverse ++ items) := by
  rw [closeLevel, List.reverse_reverse, h, ← addBlock_eq]
  rfl

/-- The items of a level that can be closed, where their block is added. -/
theorem exists_of_closeLevel {inner items items' : List Item} (h : closeLevel inner items = .ok items') :
    ∃ b, assemble inner.reverse = .ok b ∧ items' = (b.toList.map block).reverse ++ items := by
  obtain ⟨b, hb, rfl⟩ := map_eq_ok h
  exact ⟨b, hb, addBlock_eq items b⟩

/-- **The text of a level is read as its items, whatever stands around it.** -/
theorem scan_spells {cs : List Char} {is : List Item} (h : Spells cs is) (hr : Ends rest) :
    scan (cs ++ rest) n (.plain []) items outer =
      scan rest (n + cs.length) (.plain []) (is.reverse ++ items) outer := by
  induction h generalizing rest n items outer with
  | nil => rfl
  | separator hc _ ih =>
    rw [List.cons_append, scan_separator hc, ih hr, List.length_cons]
    congr 1
    omega
  | word hw he _ ih =>
    rw [List.append_assoc, scan_bare hw (he.append hr), ih hr, List.length_append, List.reverse_cons,
      List.append_assoc, Nat.add_assoc]
    rfl
  | string hq hb _ ih =>
    rw [List.cons_append, List.append_assoc, List.cons_append, scan_quote hq, scan_contents hq hb, ih hr,
      List.reverse_cons, List.append_assoc]
    congr 1
    simp only [List.length_cons, List.length_append]
    omega
  | level _ hb _ ihi ih =>
    rw [List.cons_append, List.append_assoc, List.cons_append, scan_open, ihi (ends_cons rfl), scan_close,
      List.append_nil, closeLevel_eq hb]
    dsimp only
    rw [ih hr, List.reverse_append, List.append_assoc]
    congr 1
    simp only [List.length_cons, List.length_append]
    omega

end Sound

/-! ## The reader takes nothing else -/

/-- The text that is left closes the open levels, the innermost first, and each with items that the grammar says, so
that the whole comes to the tree. -/
def Pending : List Level → List Item → List Char → Token → Prop
  | [], items, cs, t => ∃ is, Spells cs is ∧ closeText (is.reverse ++ items) = .ok t
  | level :: outer, items, cs, t =>
    ∃ inner is rest items', cs = inner ++ ')' :: rest ∧ Spells inner is ∧
      closeLevel (is.reverse ++ items) level.before = .ok items' ∧ Pending outer items' rest t

/-- The text that is left completes the open word or string, and then the open levels. -/
def Remains : Mode → List Level → List Item → List Char → Token → Prop
  | .plain word, outer, items, cs, t =>
    ∃ ws rest, cs = ws ++ rest ∧ (∀ c ∈ ws, isWordChar c = true) ∧ Ends rest ∧
      Pending outer (closeWord (ws.reverse ++ word) items) rest t
  | .quoted _ q acc, outer, items, cs, t =>
    ∃ body text rest, cs = body ++ q :: rest ∧ Contents q body text ∧
      Pending outer (quoted (String.ofList (acc.reverse ++ text)) :: items) rest t

section Complete

variable {outer : List Level} {items : List Item} {cs : List Char} {t : Token}

/-- What says more items of the level may stand in front of the text that is left. -/
theorem Pending.prepend (pre : List Char) (js : List Item)
    (hs : ∀ inner is, inner <+: cs → Spells inner is → Spells (pre ++ inner) (js ++ is))
    (h : Pending outer (js.reverse ++ items) cs t) : Pending outer items (pre ++ cs) t := by
  cases outer with
  | nil =>
    obtain ⟨is, hi, ht⟩ := h
    refine ⟨js ++ is, hs cs is (List.prefix_refl cs) hi, ?_⟩
    rwa [List.reverse_append, List.append_assoc]
  | cons level outer =>
    obtain ⟨inner, is, rest, items', rfl, hi, hc, ht⟩ := h
    refine ⟨pre ++ inner, js ++ is, rest, items', (List.append_assoc ..).symm, hs inner is (List.prefix_append _ _) hi,
      ?_, ht⟩
    rwa [List.reverse_append, List.append_assoc]

/-- A word that has been read to its end leaves what is pending. -/
theorem Pending.remains {word : List Char} (he : Ends cs) (h : Pending outer (closeWord word items) cs t) :
    Remains (.plain word) outer items cs t :=
  ⟨[], cs, rfl, List.forall_mem_nil _, he, h⟩

/-- Between items, a word that follows is an item of the level. -/
theorem Remains.pending (h : Remains (.plain []) outer items cs t) : Pending outer items cs t := by
  obtain ⟨ws, rest, rfl, hw, he, hp⟩ := h
  rw [List.append_nil] at hp
  by_cases hws : ws = []
  · subst hws
    exact hp
  · have hclose : closeWord ws.reverse items = [bare (String.ofList ws)].reverse ++ items := by
      rw [closeWord_of_ne_nil (by simpa using hws), List.reverse_reverse]
      rfl
    rw [hclose] at hp
    refine hp.prepend _ _ fun inner is hi h => ?_
    have hword : IsWord (String.ofList ws) := by
      rw [IsWord, String.toList_ofList]
      exact ⟨hws, hw⟩
    have := Spells.word hword (he.of_prefix hi) h
    rwa [String.toList_ofList] at this

theorem Pending.separator {c : Char} (hc : isSeparator c = true) (h : Pending outer items cs t) :
    Pending outer items (c :: cs) t :=
  h.prepend [c] [] fun _ _ _ hs => .separator hc hs

theorem Pending.string {q : Char} {body text : List Char} (hq : isQuote q = true) (hb : Contents q body text)
    (h : Pending outer (quoted (String.ofList text) :: items) cs t) :
    Pending outer items (q :: (body ++ q :: cs)) t := by
  have := h.prepend (q :: (body ++ [q])) [quoted (String.ofList text)] fun inner is _ hs => by
    simpa using Spells.string hq hb hs
  simpa using this

theorem Pending.level {start : Nat} (h : Pending (⟨start, items⟩ :: outer) [] cs t) :
    Pending outer items ('(' :: cs) t := by
  obtain ⟨inner, is, rest, items', rfl, hi, hc, hp⟩ := h
  obtain ⟨b, hb, rfl⟩ := exists_of_closeLevel hc
  rw [List.append_nil, List.reverse_reverse] at hb
  have := hp.prepend ('(' :: (inner ++ [')'])) _ fun cs js _ hs => by
    simpa using Spells.level hi hb hs
  simpa using this

/-- **When a scan succeeds, the text that is left completes what is open.** -/
theorem remains_of_scan {n : Nat} {mode : Mode} (h : scan cs n mode items outer = .ok t) :
    Remains mode outer items cs t := by
  fun_induction scan cs n mode items outer with
  | case1 | case2 | case7 | case10 | case11 => cases h
  | case3 n word items =>
    exact Pending.remains ends_nil ⟨[], .nil, h⟩
  | case4 cs n start q acc items outer ih =>
    refine ⟨[], [], cs, rfl, .nil, ?_⟩
    rw [List.append_nil]
    exact (ih h).pending
  | case5 c n start q acc items outer hc d ds hd ih =>
    obtain ⟨rfl, rfl⟩ := hd
    obtain ⟨body, text, rest, rfl, hb, hp⟩ := ih h
    refine ⟨'\\' :: d :: body, d :: text, rest, rfl, hb.quote, ?_⟩
    rwa [List.reverse_cons, List.append_assoc] at hp
  | case6 c n start q acc items outer hc d ds hd ih =>
    obtain ⟨body, text, rest, hds, hb, hp⟩ := ih h
    have hhead : (body ++ [q]).head? = some d := by
      cases body with
      | nil => exact congrArg some (List.cons.inj hds).1.symm
      | cons b bs => exact congrArg some (List.cons.inj hds).1.symm
    refine ⟨c :: body, c :: text, rest, by rw [hds]; rfl, hb.char hc fun he => ?_, ?_⟩
    · rw [hhead]
      exact fun hq => hd ⟨he, Option.some.inj hq⟩
    · rwa [List.reverse_cons, List.append_assoc] at hp
  | case8 c cs n word items outer hc ih =>
    obtain ⟨ws, rest, rfl, hw, he, hp⟩ := ih h
    refine ⟨c :: ws, rest, rfl, List.forall_mem_cons.2 ⟨hc, hw⟩, he, ?_⟩
    rwa [List.reverse_cons, List.append_assoc]
  | case9 cs n word items outer _ hc ih => exact (ih h).pending.level.remains (ends_cons rfl)
  | case12 cs n word items _ level outer items' hclose _ _ ih =>
    exact Pending.remains (ends_cons rfl) ⟨[], [], cs, items', rfl, .nil, hclose, (ih h).pending⟩
  | case13 c cs n word items outer hc _ hopen hclose hq ih =>
    obtain ⟨body, text, rest, rfl, hb, hp⟩ := ih h
    exact (hp.string hq hb).remains (ends_cons (isWordChar_of_isQuote hq))
  | case14 c cs n word items outer hc _ hopen hclose hq ih =>
    have hsep : isSeparator c = true := by
      simpa [isWordChar, hopen, hclose, hq] using hc
    exact ((ih h).pending.separator hsep).remains (ends_cons (isWordChar_of_isSeparator hsep))

end Complete

end RuleExpr.Reading

/-! ## Sources -/

namespace RuleExpr.Token

open Reading

/-- **A source is read as the block of the items that it says, if it says any.** -/
theorem read_eq_ok_iff {source : String} {t : Token} :
    read source = .ok t ↔
      ∃ items b, Spells source.toList items ∧ Item.assemble items = .ok b ∧ b.getD emptyBlock = t := by
  rw [read_eq_scan]
  constructor
  · intro h
    obtain ⟨items, hs, ht⟩ := (remains_of_scan h).pending
    obtain ⟨b, hb, hbt⟩ := map_eq_ok ht
    rw [List.append_nil, List.reverse_reverse] at hb
    exact ⟨items, b, hs, hb, hbt⟩
  · rintro ⟨items, b, hs, hb, rfl⟩
    have hscan : scan (source.toList ++ []) 0 (.plain []) [] [] = _ := scan_spells hs ends_nil
    rw [List.append_nil, List.append_nil] at hscan
    rw [hscan, scan, closeWord, if_pos List.isEmpty_nil, closeText, List.reverse_reverse, hb]
    rfl

end RuleExpr.Token
