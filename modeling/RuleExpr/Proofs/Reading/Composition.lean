import RuleExpr.Proofs.Reading.Image

/-!
# Reading pieces of a source by themselves

A source that can be read may be put in parentheses and stands for what it was read as, wherever it stands. A `Piece` is
such a source with its parentheses, and separators outside them.

* **A piece says its block** (`spells_piece`), and nothing if that is the empty block, whatever follows it: a derivation
  for the source becomes one for a level.
* **A row of pieces is read piece by piece** (`Token.read_pieces`): as the sequence of what the sources were read as,
  less the empty blocks, or as the arguments of the word in front.
-/

namespace RuleExpr

/-- Blocks that stand one after the other: a lone one stands for itself, and several make a grouping. -/
def Token.sequence : List Token → Token
  | [] => Token.emptyBlock
  | [t] => t
  | ts => Token.block "" ts

namespace Reading

open Item
open Token (emptyBlock sequence spells_of_read)

/-! ## Separators -/

/-- A run of separators. -/
def Separators (cs : List Char) : Prop := ∀ c ∈ cs, isSeparator c = true

instance (cs : List Char) : Decidable (Separators cs) := decidable_of_iff (cs.all isSeparator = true) List.all_eq_true

section

variable {lead cs : List Char} {items : List Item}

theorem Separators.ends (hl : Separators lead) (h : Ends cs) : Ends (lead ++ cs) := by
  cases lead with
  | nil => exact h
  | cons c lead => exact ends_cons (isWordChar_of_isSeparator (hl c List.mem_cons_self))

/-- Separators in front say nothing. -/
theorem Spells.separators (hl : Separators lead) (h : Spells cs items) : Spells (lead ++ cs) items := by
  induction lead with
  | nil => exact h
  | cons c lead ih =>
    obtain ⟨hc, hl⟩ := List.forall_mem_cons.1 hl
    exact .separator hc (ih hl)

end

/-! ## Parts -/

/-- A source in parentheses, with what it is read as, and the separators around the parentheses. -/
structure Piece where
  before : List Char
  source : String
  after : List Char
  token : Token
  before_separators : Separators before
  after_separators : Separators after
  read_source : Token.read source = .ok token

namespace Piece

/-- The text of the piece. -/
def text (p : Piece) : List Char := p.before ++ '(' :: (p.source.toList ++ ')' :: p.after)

/-- What the pieces are read as, in order, without the empty blocks. -/
def tokens (pieces : List Piece) : List Token := (pieces.map token).filter (· ≠ emptyBlock)

theorem tokens_cons (p : Piece) (pieces : List Piece) :
    tokens (p :: pieces) = (if p.token = emptyBlock then none else some p.token).toList ++ tokens pieces := by
  by_cases h : p.token = emptyBlock <;> simp [tokens, h]

theorem ends_text (p : Piece) (cs : List Char) : Ends (p.text ++ cs) := by
  rw [text, List.append_assoc]
  exact p.before_separators.ends (ends_cons rfl)

end Piece

open Piece (tokens tokens_cons)

/-- **A piece says its block**, unless that is the empty block, in front of any other items. -/
theorem spells_piece (p : Piece) {cs : List Char} {items : List Item} (h : Spells cs items) :
    Spells (p.text ++ cs) ((if p.token = emptyBlock then none else some p.token).toList.map block ++ items) := by
  obtain ⟨js, hs, ha⟩ := spells_of_read p.read_source
  have hlevel := Spells.level hs ha (h.separators p.after_separators)
  have hpiece := hlevel.separators p.before_separators
  rw [Piece.text]
  simpa only [List.append_assoc, List.cons_append] using hpiece

theorem spells_pieces (pieces : List Piece) : Spells (pieces.flatMap Piece.text) ((tokens pieces).map block) := by
  induction pieces with
  | nil => exact .nil
  | cons p pieces ih =>
    rw [List.flatMap_cons, tokens_cons, List.map_append]
    exact spells_piece p ih

theorem ends_pieces (pieces : List Piece) : Ends (pieces.flatMap Piece.text) := by
  cases pieces with
  | nil => exact ends_nil
  | cons p pieces => exact p.ends_text _

theorem toTokens_map_block (ts : List Token) : toTokens (ts.map block) = .ok ts := by
  induction ts with
  | nil => rfl
  | cons t ts ih =>
    rw [List.map_cons, toTokens, ih]
    rfl

/-- Blocks alone make their sequence. -/
theorem assemble_map_block (ts : List Token) :
    ∃ b, assemble (ts.map block) = .ok b ∧ b.getD emptyBlock = sequence ts := by
  match ts with
  | [] => exact ⟨none, rfl, rfl⟩
  | [t] => exact ⟨some t, rfl, rfl⟩
  | t :: u :: ts =>
    have hchildren := toTokens_map_block (t :: u :: ts)
    exact ⟨some (.block "" (t :: u :: ts)), congrArg (Except.map fun us => some (Token.block "" us)) hchildren, rfl⟩

end Reading

namespace Token

open Reading

/-- **A row of pieces is read piece by piece**, whatever separators are around them: alone as the sequence of their
blocks, and after a word as its arguments. -/
theorem read_pieces {lead gap : List Char} (hl : Separators lead) (hg : Separators gap) (pieces : List Piece) :
    read (String.ofList (lead ++ pieces.flatMap Piece.text)) = .ok (sequence (Piece.tokens pieces)) ∧
      ∀ head, IsWord head →
        read (String.ofList (lead ++ (head.toList ++ (gap ++ pieces.flatMap Piece.text)))) =
          .ok (block head (Piece.tokens pieces)) := by
  have hpieces := spells_pieces pieces
  constructor
  · rw [read_eq_ok_iff, String.toList_ofList]
    obtain ⟨b, hb, hsequence⟩ := assemble_map_block (Piece.tokens pieces)
    exact ⟨_, b, hpieces.separators hl, hb, hsequence⟩
  · intro head hw
    have hcall := Spells.word hw (hg.ends (ends_pieces pieces)) (hpieces.separators hg)
    rw [read_eq_ok_iff, String.toList_ofList]
    refine ⟨_, some (block head (Piece.tokens pieces)), hcall.separators hl, ?_, rfl⟩
    rw [Item.assemble, toTokens_map_block]
    rfl

/-- A call in quotes and blanks, a block that is empty, and a lone block in a second pair of parentheses. -/
theorem read_pieces_three :
    let call : Piece := ⟨[], "f 'a b'", [' '], block "f" [string "a b"], by decide, by decide, by rw [read_eq_scan]; cbv⟩
    let nothing : Piece := ⟨[], "() ", [], emptyBlock, by decide, by decide, by rw [read_eq_scan]; cbv⟩
    let lone : Piece := ⟨['\n'], "(g)", [], block "g" [], by decide, by decide, by rw [read_eq_scan]; cbv⟩
    let text := [call, nothing, lone].flatMap Piece.text
    let blocks := [block "f" [string "a b"], block "g" []]
    Separators ['\t'] ∧ Separators [' '] ∧ IsWord "h" ∧
      read (String.ofList ('\t' :: text)) = .ok (block "" blocks) ∧
      read (String.ofList ('\t' :: 'h' :: ' ' :: text)) = .ok (block "h" blocks) := by
  intro call nothing lone text blocks
  have hl : Separators ['\t'] := by decide
  have hg : Separators [' '] := by decide
  have hw : IsWord "h" := by decide
  obtain ⟨halone, hcall⟩ := read_pieces hl hg [call, nothing, lone]
  exact ⟨hl, hg, hw, halone, hcall "h" hw⟩

end Token

end RuleExpr
