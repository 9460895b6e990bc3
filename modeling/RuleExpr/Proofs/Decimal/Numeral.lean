import Mathlib
import RuleExpr.Proofs.Decimal.Exponent

/-!
# Numerals

The texts that are read as decimals, by a grammar of their own: an optional sign, ASCII digits with an optional point
and at least one digit (`Pointed`), an optional power of ten (`Power`), and white space around it all
(`Numeral.WrittenIn`). A text is written by one numeral at most (`Numeral.Writes.unique`), and a numeral denotes its
digits times a power of ten (`Numeral.value`).

Reading follows the grammar piece by piece, forwards (`ofChars?_of_writes`) and backwards (`exists_writes`).

- **A text that a numeral writes is read as what the numeral denotes if its exponent is at most `maxExponent` in
  magnitude; all other texts are refused, but for those with the exponent `-2 ^ 63`, which overflows**
  (`parse_written`);
- that the exponent `-2 ^ 63` is refused with the others is false (`not_parse_iff_written`).
-/

namespace RuleExpr

namespace Text

variable {cs rest sign : List Char} {negative : Bool}

/-! ## Signs and digits -/

/-- A number with or without a minus sign. -/
def signed (negative : Bool) (n : Nat) : Int := if negative then -n else n

/-- How a sign is written; a number without one is not negative. -/
inductive Sign : Bool → List Char → Prop
  | absent : Sign false []
  | plus : Sign false ['+']
  | minus : Sign true ['-']

/-- One digit or more. -/
def Digits (cs : List Char) : Prop := cs ≠ [] ∧ ∀ c ∈ cs, c.isDigit = true

instance : Decidable (Digits cs) :=
  decidable_of_iff (cs ≠ [] ∧ cs.all Char.isDigit = true) (and_congr_right fun _ => List.all_eq_true)

theorem Digits.readDigits? (h : Digits cs) : readDigits? cs = some (digitsValue cs) := by
  have hall : cs.all Char.isDigit = true := List.all_eq_true.2 h.2
  simp [Text.readDigits?, h.1, hall]

theorem digits_of_readDigits? {n : Nat} (h : Text.readDigits? cs = some n) : Digits cs ∧ digitsValue cs = n := by
  unfold Text.readDigits? at h
  split at h
  · cases h
  · next hd =>
    cases h
    simp only [Bool.or_eq_true, Bool.not_eq_true', not_or, Bool.not_eq_false, List.isEmpty_iff] at hd
    exact ⟨⟨hd.1, List.all_eq_true.1 hd.2⟩, rfl⟩

/-- A sign is read where no second one follows. -/
theorem Sign.readSigned (h : Sign negative sign) (hrest : ∀ c ∈ rest.head?, c ≠ '+' ∧ c ≠ '-') :
    readSigned (sign ++ rest) = (negative, rest) := by
  cases h with
  | plus | minus => rfl
  | absent =>
    rw [List.nil_append]
    unfold Text.readSigned
    split
    · exact absurd rfl (hrest '-' rfl).2
    · exact absurd rfl (hrest '+' rfl).1
    · rfl

theorem exists_sign (cs : List Char) : ∃ sign, Sign (readSigned cs).1 sign ∧ cs = sign ++ (readSigned cs).2 := by
  unfold readSigned
  split
  · exact ⟨['-'], .minus, rfl⟩
  · exact ⟨['+'], .plus, rfl⟩
  · exact ⟨[], .absent, rfl⟩

theorem ne_sign_of_isDigit {c : Char} (h : c.isDigit = true) : c ≠ '+' ∧ c ≠ '-' := by
  constructor <;> rintro rfl <;> cases h

theorem Digits.head (h : Digits cs) : ∀ c ∈ cs.head?, c ≠ '+' ∧ c ≠ '-' := fun c hc =>
  ne_sign_of_isDigit (h.2 c (List.mem_of_mem_head? hc))

end Text

namespace Decimal

open RuleExpr.Text

/-! ## The grammar -/

/-- The digits before and after an optional point. -/
inductive Pointed : List Char → List Char → List Char → Prop
  | absent (whole : List Char) : Pointed whole [] whole
  | point (whole fraction : List Char) : Pointed whole fraction (whole ++ '.' :: fraction)

/-- An optional power of ten. -/
inductive Power : Int → List Char → Prop
  | absent : Power 0 []
  | mark {mark : Char} {negative : Bool} {sign digits : List Char} (hmark : mark = 'e' ∨ mark = 'E')
      (hsign : Sign negative sign) (hdigits : Digits digits) :
      Power (signed negative (digitsValue digits)) (mark :: (sign ++ digits))

/-- A sign, digits before and after the point, of which there is at least one, and the exponent of a power of ten. -/
@[ext] structure Numeral where
  negative : Bool
  whole : List Char
  fraction : List Char
  exponent : Int
  digits : Digits (whole ++ fraction)

namespace Numeral

/-- The number without the point and the power of ten. -/
def mantissa (n : Numeral) : Int := signed n.negative (digitsValue (n.whole ++ n.fraction))

/-- The number that the numeral denotes. -/
def value (n : Numeral) : ℚ := n.mantissa * 10 ^ (n.exponent - n.fraction.length)

/-- The numeral is written so. -/
def Writes (n : Numeral) (cs : List Char) : Prop :=
  ∃ sign number power, Sign n.negative sign ∧ Pointed n.whole n.fraction number ∧ Power n.exponent power ∧
    cs = sign ++ (number ++ power)

/-- The numeral is written in a text, with white space around it. -/
def WrittenIn (n : Numeral) (text : String) : Prop :=
  ∃ before cs after, text.toList = before ++ cs ++ after ∧ (∀ c ∈ before ++ after, isBlank c = true) ∧ n.Writes cs

end Numeral

/-! ## Pieces of a numeral -/

section Pieces

variable {whole fraction number power : List Char} {exponent : Int} {c : Char}

theorem Pointed.mem (h : Pointed whole fraction number) (hc : c ∈ number) : c ∈ whole ++ fraction ∨ c = '.' := by
  cases h with
  | absent => exact .inl (by rwa [List.append_nil])
  | point =>
    rcases List.mem_append.1 hc with hc | hc
    · exact .inl (List.mem_append_left _ hc)
    · exact (List.mem_cons.1 hc).symm.imp_left (List.mem_append_right _)

theorem Pointed.ne_nil (h : Pointed whole fraction number) (hd : Digits (whole ++ fraction)) : number ≠ [] := by
  cases h with
  | absent => exact List.append_nil whole ▸ hd.1
  | point => simp

theorem Pointed.length_le (h : Pointed whole fraction number) : fraction.length ≤ number.length := by
  cases h with
  | absent => exact Nat.zero_le _
  | point =>
    rw [List.length_append, List.length_cons]
    omega

/-- The point, if there is one, is the first. -/
theorem Pointed.cutAt (h : Pointed whole fraction number) (hd : Digits (whole ++ fraction)) :
    ∃ after, cutAt (· == '.') number = (whole, after) ∧ after.getD [] = fraction := by
  have hwhole : ∀ c ∈ whole, (c == '.') = false := fun c hc =>
    beq_false_of_isDigit (hd.2 c (List.mem_append_left _ hc)) rfl
  cases h with
  | absent => exact ⟨none, cutAt_of_forall hwhole, rfl⟩
  | point => exact ⟨some fraction, cutAt_append hwhole rfl, rfl⟩

theorem exists_pointed (number : List Char) :
    Pointed (cutAt (· == '.') number).1 ((cutAt (· == '.') number).2.getD []) number := by
  rcases cutAt_cases (· == '.') number with hcut | ⟨before, d, after, hd, rfl, hcut⟩
  · rw [hcut]
    exact .absent number
  · rw [hcut, eq_of_beq hd]
    exact .point before after

/-- Whether a power of ten begins with the character. -/
def isMark (c : Char) : Bool := c == 'e' || c == 'E'

theorem isMark_iff : isMark c = true ↔ c = 'e' ∨ c = 'E' := by simp [isMark]

/-- The power of ten, if there is one, begins at the first mark. -/
theorem Power.cutAt (h : Power exponent power) (hnumber : ∀ c ∈ number, isMark c = false) :
    cutAt isMark (number ++ power) = (number, power.tail?) := by
  cases h with
  | absent =>
    rw [List.append_nil]
    exact cutAt_of_forall hnumber
  | mark hmark => exact cutAt_append hnumber (isMark_iff.2 hmark)

theorem Pointed.isMark_eq_false (h : Pointed whole fraction number) (hd : Digits (whole ++ fraction))
    (hc : c ∈ number) : isMark c = false := by
  rcases h.mem hc with hc | rfl
  · rw [isMark, beq_false_of_isDigit (hd.2 c hc) rfl, beq_false_of_isDigit (hd.2 c hc) rfl]
    rfl
  · rfl

/-- What follows the sign of a numeral begins with no other one. -/
theorem Pointed.head (h : Pointed whole fraction number) (hd : Digits (whole ++ fraction)) (power : List Char) :
    ∀ c ∈ (number ++ power).head?, c ≠ '+' ∧ c ≠ '-' := by
  intro c hc
  rw [List.head?_append_of_ne_nil _ (h.ne_nil hd)] at hc
  rcases h.mem (List.mem_of_mem_head? hc) with hc | rfl
  · exact ne_sign_of_isDigit (hd.2 c hc)
  · decide

end Pieces

/-! ## Reading a numeral -/

section Reading

variable {negative : Bool} {sign digits whole fraction number cs : List Char} {mark : Char} {e : Int} {a : Decimal}
  {f : Fault} {n n' : Numeral}

theorem readWord?_of_digits (hsign : Sign negative sign) (hdigits : Digits digits) :
    readWord? (sign ++ digits) = word? (signed negative (digitsValue digits)) := by
  simp only [readWord?, hsign.readSigned hdigits.head, hdigits.readDigits?, Option.bind_some]
  rfl

theorem power_of_readWord? (hmark : isMark mark = true) (h : readWord? cs = some e) :
    Power e (mark :: cs) ∧ word? e = some e := by
  obtain ⟨sign, hsign, hcs⟩ := exists_sign cs
  obtain ⟨n, hn, hword⟩ := Option.bind_eq_some_iff.1 h
  have hn : readDigits? (readSigned cs).2 = some n := hn
  obtain ⟨hdigits, rfl⟩ := digits_of_readDigits? hn
  have hword : word? (signed (readSigned cs).1 (digitsValue (readSigned cs).2)) = some e := hword
  have he := eq_of_word? hword
  rw [← he] at hword
  refine ⟨?_, hword⟩
  rw [he]
  generalize readSigned cs = read at hsign hcs hdigits
  subst hcs
  exact .mark (isMark_iff.1 hmark) hsign hdigits

theorem ofDigits?_of_pointed (h : Pointed whole fraction number) (hd : Digits (whole ++ fraction)) (negative : Bool)
    (e : Int) : ofDigits? negative number e =
      (ofExponent (signed negative (digitsValue (whole ++ fraction))) fraction.length e).map some := by
  obtain ⟨after, hcut, rfl⟩ := h.cutAt hd
  have hne : (whole.isEmpty && (after.getD []).isEmpty) = false := by
    simpa using hd.1
  have hall : (whole ++ after.getD []).all Char.isDigit = true := List.all_eq_true.2 hd.2
  simp only [ofDigits?, hcut, hne, hall, Bool.not_true, Bool.or_self, Bool.false_eq_true, if_false]
  rfl

theorem pointed_of_ofDigits? (h : ofDigits? negative number e ≠ .ok none) :
    ∃ whole fraction, Pointed whole fraction number ∧ Digits (whole ++ fraction) := by
  refine ⟨_, _, exists_pointed number, ?_⟩
  simp only [ofDigits?] at h
  split at h
  · exact absurd rfl h
  · next hd =>
    simp only [Bool.or_eq_true, Bool.and_eq_true, List.isEmpty_iff, Bool.not_eq_true', not_or, Bool.not_eq_false] at hd
    exact ⟨fun hnil => hd.1 (List.append_eq_nil_iff.1 hnil), List.all_eq_true.1 hd.2⟩

theorem ofChars?_of_mark {word : List Char} (hcut : cutAt isMark (readSigned cs).2 = (number, some word)) :
    ofChars? cs = withWord (ofDigits? (readSigned cs).1 number) (readWord? word) := by
  have hcut : cutAt (fun c => c == 'e' || c == 'E') (readSigned cs).2 = (number, some word) := hcut
  simp only [ofChars?, hcut]
  cases readWord? word <;> rfl

/-- **What a numeral writes is read piece by piece.** -/
theorem ofChars?_of_writes (h : n.Writes cs) : ofChars? cs =
    withWord (fun e => (ofExponent n.mantissa n.fraction.length e).map some) (word? n.exponent) := by
  obtain ⟨negative, whole, fraction, exponent, hd⟩ := n
  obtain ⟨sign, number, power, hsign, hnumber, hpower, rfl⟩ := h
  have hread := hsign.readSigned (hnumber.head hd power)
  have hdigits := ofDigits?_of_pointed hnumber hd negative
  have hcut : cutAt isMark (readSigned (sign ++ (number ++ power))).2 = (number, power.tail?) := by
    rw [hread]
    exact hpower.cutAt fun c hc => hnumber.isMark_eq_false hd hc
  cases hpower with
  | absent =>
    rw [ofDigits?_of_ofChars?_of_none hcut, hread]
    refine (hdigits 0).trans (Eq.symm ?_)
    exact withWord_of_le (k := 0) (Nat.zero_le _)
  | mark hmark hexponent hexponentDigits =>
    rw [ofChars?_of_mark hcut, readWord?_of_digits hexponent hexponentDigits, hread]
    exact congrArg (withWord · _) (funext hdigits)

/-- **What is read was written by a numeral.** -/
theorem exists_writes (h : ofChars? cs = .ok (some a)) : ∃ n : Numeral, n.Writes cs := by
  obtain ⟨sign, hsign, hcs⟩ := exists_sign cs
  rcases cutAt_cases isMark (readSigned cs).2 with hcut | ⟨number, mark, word, hmark, hrest, hcut⟩
  · rw [ofDigits?_of_ofChars?_of_none hcut] at h
    obtain ⟨whole, fraction, hnumber, hd⟩ := pointed_of_ofDigits? (by rw [h]; nofun)
    exact ⟨⟨_, whole, fraction, 0, hd⟩, sign, _, [], hsign, hnumber, .absent, by rwa [List.append_nil]⟩
  · obtain ⟨e, hword, h⟩ := ofDigits?_of_ofChars? hcut h
    obtain ⟨hpower, -⟩ := power_of_readWord? hmark hword
    obtain ⟨whole, fraction, hnumber, hd⟩ := pointed_of_ofDigits? (by rw [h]; nofun)
    exact ⟨⟨_, whole, fraction, e, hd⟩, sign, number, _, hsign, hnumber, hpower, by rwa [hrest] at hcs⟩

/-- The least word stands behind the first mark, whatever stands in front of it. -/
def EndsInLeast (cs : List Char) : Prop :=
  ∃ before power, cs = before ++ power ∧ (∀ c ∈ before, isMark c = false) ∧ Power (-2 ^ 63) power

theorem isMark_of_sign (h : Sign negative sign) : ∀ c ∈ sign, isMark c = false := by
  cases h with
  | absent => exact List.forall_mem_nil _
  | plus | minus => exact List.forall_mem_singleton.2 rfl

/-- A numeral with the exponent `-2 ^ 63` ends in the least word. -/
theorem endsInLeast_of_writes (h : n.Writes cs) (he : n.exponent = -2 ^ 63) : EndsInLeast cs := by
  obtain ⟨sign, number, power, hsign, hnumber, hpower, rfl⟩ := h
  refine ⟨sign ++ number, power, (List.append_assoc _ _ _).symm, ?_, he ▸ hpower⟩
  exact List.forall_mem_append.2 ⟨isMark_of_sign hsign, fun c hc => hnumber.isMark_eq_false n.digits hc⟩

theorem isMark_readSigned (h : ∀ c ∈ cs, isMark c = false) : ∀ c ∈ (readSigned cs).2, isMark c = false := by
  obtain ⟨sign, -, hcs⟩ := exists_sign cs
  exact fun c hc => h c (hcs ▸ List.mem_append_right sign hc)

/-- A sign in front belongs to what stands before the mark. -/
theorem readSigned_append {power : List Char} (hpower : ∀ c ∈ power.head?, isMark c = true) :
    (readSigned (cs ++ power)).2 = (readSigned cs).2 ++ power := by
  cases cs with
  | nil =>
    rw [List.nil_append]
    unfold readSigned
    split
    · cases hpower '-' rfl
    · cases hpower '+' rfl
    · rfl
  | cons c cs =>
    rw [List.cons_append]
    unfold readSigned
    split
    · next h => cases h; rfl
    · next h => cases h; rfl
    · next hminus hplus =>
      split
      · next h => cases h; exact absurd rfl (hminus _)
      · next h => cases h; exact absurd rfl (hplus _)
      · rfl

/-- **The least word overflows**, also behind what no numeral begins with. -/
theorem ofChars?_of_endsInLeast (h : EndsInLeast cs) : ofChars? cs = .error .overflow := by
  obtain ⟨before, power, rfl, hbefore, hpower⟩ := h
  generalize hleast : (-2 ^ 63 : Int) = exponent at hpower
  cases hpower with
  | absent => cases hleast
  | @mark mark negative sign digits hmark hsign hdigits =>
    have hcut : cutAt isMark (readSigned (before ++ mark :: (sign ++ digits))).2 =
        ((readSigned before).2, some (sign ++ digits)) := by
      rw [readSigned_append fun c hc => by cases hc; exact isMark_iff.2 hmark]
      exact cutAt_append (isMark_readSigned hbefore) (isMark_iff.2 hmark)
    rw [ofChars?_of_mark hcut, readWord?_of_digits hsign hdigits, ← hleast, withWord_least]

theorem ofDigits?_ne_error (hlength : number.length < 2 ^ 31) (he : e.natAbs ≤ 10000) :
    ofDigits? negative number e ≠ .error f := by
  intro h
  obtain ⟨whole, fraction, hnumber, hd⟩ := pointed_of_ofDigits? (by rw [h]; nofun)
  obtain ⟨a, ha, -⟩ := exists_ofExponent (signed negative (digitsValue (whole ++ fraction)))
    (Nat.lt_of_le_of_lt hnumber.length_le hlength) he
  rw [ofDigits?_of_pointed hnumber hd, ha] at h
  cases h

/-- Nothing else overflows, in a text that is not too long. -/
theorem endsInLeast_of_ofChars? (hlength : cs.length < 2 ^ 31) (h : ofChars? cs = .error f) :
    f = .overflow ∧ EndsInLeast cs := by
  obtain ⟨sign, hsign, hcs⟩ := exists_sign cs
  have hle : (readSigned cs).2.length ≤ cs.length := by
    have := congrArg List.length hcs
    rw [List.length_append] at this
    omega
  rcases cutAt_cases isMark (readSigned cs).2 with hcut | ⟨number, mark, word, hmark, hrest, hcut⟩
  · rw [ofDigits?_of_ofChars?_of_none hcut] at h
    exact absurd h (ofDigits?_ne_error (by omega) (by decide))
  · rw [ofChars?_of_mark hcut] at h
    cases hread : readWord? word with
    | none =>
      rw [hread] at h
      cases h
    | some e =>
      obtain ⟨hpower, hword⟩ := power_of_readWord? hmark hread
      have hshort : number.length < 2 ^ 31 := by
        have := congrArg List.length hrest
        simp only [List.length_append, List.length_cons] at this
        omega
      rw [hread, ← hword] at h
      obtain ⟨hf, rfl⟩ := eq_of_withWord (fun hle => ofDigits?_ne_error hshort hle) h
      refine ⟨hf, sign ++ number, mark :: word, by rw [List.append_assoc, ← hrest, ← hcs], ?_, hpower⟩
      exact List.forall_mem_append.2 ⟨isMark_of_sign hsign, fun c hc => not_of_mem_cutAt hcut hc⟩

theorem Pointed.unique {whole' fraction' : List Char} (h : Pointed whole fraction number)
    (h' : Pointed whole' fraction' number) (hd : Digits (whole ++ fraction)) (hd' : Digits (whole' ++ fraction')) :
    whole = whole' ∧ fraction = fraction' := by
  obtain ⟨after, hcut, rfl⟩ := h.cutAt hd
  obtain ⟨after', hcut', rfl⟩ := h'.cutAt hd'
  rw [hcut] at hcut'
  cases hcut'
  exact ⟨rfl, rfl⟩

theorem Power.unique {exponent exponent' : Int} {power : List Char} (h : Power exponent power)
    (h' : Power exponent' power) : exponent = exponent' := by
  cases h with
  | absent =>
    cases h'
    rfl
  | mark hmark hsign hdigits =>
    generalize hpower : _ :: _ = power at h'
    cases h' with
    | absent => cases hpower
    | mark hmark' hsign' hdigits' =>
      have hread := congrArg readSigned (List.cons.inj hpower).2
      rw [hsign.readSigned hdigits.head, hsign'.readSigned hdigits'.head] at hread
      cases hread
      rfl

/-- **A text is written by one numeral at most.** -/
theorem Numeral.Writes.unique (h : n.Writes cs) (h' : n'.Writes cs) : n = n' := by
  obtain ⟨sign, number, power, hsign, hnumber, hpower, rfl⟩ := h
  obtain ⟨sign', number', power', hsign', hnumber', hpower', hcs⟩ := h'
  have hread := congrArg readSigned hcs
  rw [hsign.readSigned (hnumber.head n.digits _), hsign'.readSigned (hnumber'.head n'.digits _), Prod.mk.injEq] at hread
  have hcut := congrArg (cutAt isMark) hread.2
  rw [hpower.cutAt fun c hc => hnumber.isMark_eq_false n.digits hc,
    hpower'.cutAt fun c hc => hnumber'.isMark_eq_false n'.digits hc, Prod.mk.injEq] at hcut
  obtain ⟨rfl, -⟩ := hcut
  have hpowers := List.append_cancel_left hread.2
  obtain ⟨hwhole, hfraction⟩ := hnumber.unique hnumber' n.digits n'.digits
  exact Numeral.ext hread.1 hwhole hfraction (hpower.unique (hpowers ▸ hpower'))

end Reading

/-! ## Whole texts -/

section Texts

variable {n n' : Numeral} {cs : List Char} {text : String}

theorem Numeral.Writes.ne_nil (h : n.Writes cs) : cs ≠ [] := by
  obtain ⟨sign, number, power, -, hnumber, -, rfl⟩ := h
  simp [hnumber.ne_nil n.digits]

theorem Numeral.Writes.isBlank_eq_false (h : n.Writes cs) : ∀ c ∈ cs, isBlank c = false := by
  obtain ⟨sign, number, power, hsign, hnumber, hpower, rfl⟩ := h
  have isBlank_sign : ∀ {negative sign}, Sign negative sign → ∀ c ∈ sign, isBlank c = false := by
    intro negative sign h
    cases h with
    | absent => exact List.forall_mem_nil _
    | plus | minus => exact List.forall_mem_singleton.2 rfl
  simp only [List.forall_mem_append]
  refine ⟨isBlank_sign hsign, fun c hc => ?_, ?_⟩
  · rcases hnumber.mem hc with hc | rfl
    · exact isBlank_of_isDigit (n.digits.2 c hc)
    · rfl
  · generalize n.exponent = exponent at hpower
    cases hpower with
    | absent => exact List.forall_mem_nil _
    | mark hmark hexponent hdigits =>
      refine List.forall_mem_cons.2 ⟨?_, List.forall_mem_append.2 ⟨isBlank_sign hexponent, fun c hc => ?_⟩⟩
      · rcases hmark with rfl | rfl <;> rfl
      · exact isBlank_of_isDigit (hdigits.2 c hc)

/-- A numeral is written in a text if it is what is left of it without the white space around. -/
theorem Numeral.writtenIn_iff : n.WrittenIn text ↔ n.Writes (trim text.toList) := by
  constructor
  · rintro ⟨before, cs, after, htext, hblank, hwrites⟩
    rwa [htext, trim_append hblank hwrites.isBlank_eq_false hwrites.ne_nil]
  · intro hwrites
    obtain ⟨before, after, htext, hblank⟩ := exists_trim text.toList
    exact ⟨before, _, after, htext, hblank, hwrites⟩

theorem Numeral.WrittenIn.unique (h : n.WrittenIn text) (h' : n'.WrittenIn text) : n = n' :=
  (Numeral.writtenIn_iff.1 h).unique (Numeral.writtenIn_iff.1 h')

theorem Numeral.WrittenIn.length_le (h : n.WrittenIn text) : n.fraction.length ≤ text.length := by
  obtain ⟨before, cs, after, htext, -, sign, number, power, -, hnumber, -, rfl⟩ := h
  have hnumber := hnumber.length_le
  have hlength := congrArg List.length htext
  simp only [String.length_toList, List.length_append] at hlength
  omega

/-- What is read where a numeral is written. -/
theorem parse_of_writtenIn (h : n.WrittenIn text) (hle : n.exponent.natAbs ≤ 10000) :
    parse text = ofExponent n.mantissa n.fraction.length n.exponent := by
  rw [parse, ofChars?_of_writes (Numeral.writtenIn_iff.1 h), withWord_of_le hle]
  cases ofExponent n.mantissa n.fraction.length n.exponent <;> rfl

/-- The text without the white space around it ends in the least word as an exponent. -/
def Overflows (text : String) : Prop := EndsInLeast (trim text.toList)

theorem parse_of_overflows (h : Overflows text) : parse text = .error .overflow := by
  rw [parse, ofChars?_of_endsInLeast h]
  rfl

/-- What is read of all other texts. -/
theorem parse_of_not_writtenIn (hlength : text.length < 2 ^ 31) (ho : ¬Overflows text)
    (h : ∀ n : Numeral, n.WrittenIn text → 10000 < n.exponent.natAbs) : parse text = .error (.malformed text) := by
  rw [parse]
  cases hread : ofChars? (trim text.toList) with
  | error f => exact absurd (endsInLeast_of_ofChars? (Nat.lt_of_le_of_lt (length_trim_le _) hlength) hread).2 ho
  | ok r =>
    cases r with
    | none => rfl
    | some a =>
      obtain ⟨n, hn⟩ := exists_writes hread
      have hgt := h n (Numeral.writtenIn_iff.2 hn)
      rw [ofChars?_of_writes hn] at hread
      by_cases hk : n.exponent = -2 ^ 63
      · rw [hk, withWord_least] at hread
        cases hread
      · rw [withWord_of_gt hgt hk] at hread
        cases hread

/-- **Reading accepts the numerals with an exponent of at most `maxExponent` in magnitude, and means what they say.**
The exponent `-2 ^ 63`, whose magnitude is no word, overflows, whatever stands in front of it. All other texts are
refused. The words that an exponent goes through have room for it in all that is accepted, and so has the magnitude in
all that is checked but the least word. -/
theorem parse_written (hlength : text.length < 2 ^ 31) :
    (∀ n : Numeral, n.WrittenIn text → n.exponent.natAbs ≤ 10000 →
      ∃ a, parse text = .ok a ∧ a.toRat = n.value ∧ (a.scale = 0 ∨ a.mantissa % 10 ≠ 0)) ∧
    (Overflows text → parse text = .error .overflow) ∧
    (¬Overflows text → (∀ n : Numeral, n.WrittenIn text → 10000 < n.exponent.natAbs) →
      parse text = .error (.malformed text)) ∧
    ∀ n : Numeral, n.WrittenIn text → long.Holds n.exponent →
      (n.exponent ≠ -2 ^ 63 → magnitude n.exponent = .ok n.exponent.natAbs) ∧
        (n.exponent.natAbs ≤ 10000 → Exact n.fraction.length n.exponent) := by
  have hplaces : ∀ {n : Numeral}, n.WrittenIn text → n.fraction.length < 2 ^ 31 := fun hn =>
    Nat.lt_of_le_of_lt hn.length_le hlength
  refine ⟨fun n hn hle => ?accepted, parse_of_overflows, parse_of_not_writtenIn hlength, fun n hn he => ?words⟩
  case accepted =>
    obtain ⟨a, ha, hvalue⟩ := exists_ofExponent n.mantissa (hplaces hn) hle
    exact ⟨a, (parse_of_writtenIn hn hle).trans ha, hvalue, a.normal⟩
  case words =>
    have hrange := holds_long_iff.1 he
    exact ⟨fun hleast => magnitude_of_lt (by omega) hrange.2, exact_of_le (hplaces hn)⟩

/-- White space, zeros in front and behind, a sign of the exponent. -/
theorem parse_written_padded : " -01.50E+3 ".length < 2 ^ 31 ∧
    ∃ a, parse " -01.50E+3 " = .ok a ∧ a.toRat = -1500 := by
  have hlength : " -01.50E+3 ".length < 2 ^ 31 := by decide +kernel
  have hexponent : Digits ['3'] := by decide
  have hpower : Power 3 ['E', '+', '3'] := .mark (.inr rfl) .plus hexponent
  have hwritten : Numeral.WrittenIn ⟨true, ['0', '1'], ['5', '0'], 3, by decide⟩ " -01.50E+3 " :=
    ⟨[' '], _, [' '], rfl, List.all_eq_true.1 rfl, _, _, _, .minus, .point _ _, hpower, rfl⟩
  obtain ⟨a, ha, hvalue, -⟩ := (parse_written hlength).1 _ hwritten (by decide)
  have hdigits : digitsValue ['0', '1', '5', '0'] = 150 := rfl
  refine ⟨hlength, a, ha, ?_⟩
  norm_num [hvalue, Numeral.value, Numeral.mantissa, hdigits, signed]

/-- **A text without a numeral of a small exponent can overflow.** -/
theorem not_parse_iff_written : ¬ ∀ text : String, text.length < 2 ^ 31 →
    (∀ n : Numeral, n.WrittenIn text → 10000 < n.exponent.natAbs) → parse text = .error (.malformed text) := by
  intro h
  have hexponent : Digits "9223372036854775808".toList := by decide
  have hpower : Power (-2 ^ 63) "e-9223372036854775808".toList := .mark (.inl rfl) .minus hexponent
  have hwritten : Numeral.WrittenIn ⟨false, ['1'], [], -2 ^ 63, by decide⟩ "1e-9223372036854775808" :=
    ⟨[], _, [], rfl, List.forall_mem_nil _, _, _, _, .absent, .absent _, hpower, rfl⟩
  have hrefused := h "1e-9223372036854775808" (by decide +kernel) fun n hn => by
    rw [hn.unique hwritten]
    decide
  have hoverflow : parse "1e-9223372036854775808" = .error .overflow :=
    parse_of_overflows (endsInLeast_of_writes (Numeral.writtenIn_iff.1 hwritten) rfl)
  rw [hoverflow] at hrefused
  cases hrefused

end Texts

end Decimal

end RuleExpr
