import RuleExpr.Proofs.Outcome
import RuleExpr.Proofs.Text

/-!
# The text of a signature reads back

A kind that is not empty is written as a name that stands for it, or as the names of its primitives with bars between
them; the name has letters and bars only, so it has no separator of a signature and no white space.

A signature is written so that it can be read (`Signature.Writable`) when its name is one word without an opening
parenthesis, its kinds are not empty and dots have a parameter to follow. The text is cut at the first opening
parenthesis, which is the one after the name, and at the last closing one, which is the one before the result, whatever
else is in the name. **It reads back as the signature** (`parse_render`), and what is read is writable
(`writable_of_parse`).
-/

namespace RuleExpr

open RuleExpr.Text

/-! ## Kinds -/

namespace Kind

variable {k : Kind} {text : String} {c : Char}

theorem ofName?_of_mem : ∀ e ∈ primitives, ofName? e.2 = some e.1 := by
  decide +kernel

/-- Single names have letters only. -/
theorem isAlpha_of_mem {e : Kind × String} (he : e ∈ primitives ∨ e ∈ aliases) (hc : c ∈ e.2.toList) :
    c.isAlpha = true := by
  have h : (primitives ++ aliases).all (fun e => e.2.toList.all Char.isAlpha) = true := by decide +kernel
  exact List.all_eq_true.1 (List.all_eq_true.1 h e (List.mem_append.2 he)) c hc

theorem isBlank_of_isAlpha (h : c.isAlpha = true) : isBlank c = false := by
  have hc : 65 ≤ c.toNat ∧ c.toNat ≤ 90 ∨ 97 ≤ c.toNat ∧ c.toNat ≤ 122 := by
    change (decide ('A'.val ≤ c.val ∧ c.val ≤ 'Z'.val) ||
      decide ('a'.val ≤ c.val) && decide (c.val ≤ 'z'.val)) = true at h
    simp only [Bool.or_eq_true, Bool.and_eq_true, decide_eq_true_eq] at h
    exact h
  simp only [isBlank, Bool.or_eq_false_iff, Bool.and_eq_false_iff, decide_eq_false_iff_not, beq_eq_false_iff_ne]
  omega

/-- The primitives of a kind make it up. -/
theorem union_included : ∀ k : Kind,
    ((primitives.filter fun e => k.includes e.1).map Prod.fst).foldr union empty = k := by
  rintro ⟨m⟩
  revert m
  decide +kernel

theorem ofNames_primitives {entries : List (Kind × String)} (h : ∀ e ∈ entries, e ∈ primitives) :
    ofNames (entries.map Prod.snd) = .ok ((entries.map Prod.fst).foldr union empty) := by
  induction entries with
  | nil => rfl
  | cons e entries ih =>
    obtain ⟨he, hs⟩ := List.forall_mem_cons.1 h
    rw [List.map_cons, ofNames, ofName?_of_mem e he, ih hs]
    rfl

/-- The names of primitives with bars between them are read one by one. -/
theorem parse_primitives {entries : List (Kind × String)} (hne : entries ≠ []) (h : ∀ e ∈ entries, e ∈ primitives) :
    parse ("|".intercalate (entries.map Prod.snd)) = .ok ((entries.map Prod.fst).foldr union empty) := by
  obtain ⟨first, entries, rfl⟩ := List.exists_cons_of_ne_nil hne
  have halpha : ∀ part ∈ ((first :: entries).map Prod.snd).map String.toList, ∀ c ∈ part, c.isAlpha = true := by
    intro part hp
    obtain ⟨_, hm, rfl⟩ := List.mem_map.1 hp
    obtain ⟨e, he, rfl⟩ := List.mem_map.1 hm
    exact fun c => isAlpha_of_mem (.inl (h e he))
  have hbar : ∀ part ∈ ((first :: entries).map Prod.snd).map String.toList, '|' ∉ part :=
    fun part hp hm => absurd (halpha part hp _ hm) (by decide)
  have hsplit : splitOn ['|'] ("|".intercalate ((first :: entries).map Prod.snd)).toList =
      ((first :: entries).map Prod.snd).map String.toList := by
    rw [String.toList_intercalate]
    exact (splitOn_intercalate (List.not_mem_nil : '|' ∉ []) hbar).trans (by simp)
  have htrim : (((first :: entries).map Prod.snd).map String.toList).map (fun part => String.ofList (trim part)) =
      (first :: entries).map Prod.snd := by
    rw [List.map_map]
    refine (List.map_congr_left fun text ht => ?_).trans (List.map_id _)
    show String.ofList (trim text.toList) = text
    rw [trim_of_forall fun c hc => isBlank_of_isAlpha (halpha _ (List.mem_map_of_mem ht) c hc), String.ofList_toList]
  rw [parse, hsplit, htrim, ofNames_primitives h]

theorem parse_alias : ∀ e ∈ aliases, parse e.2 = .ok e.1 := by
  decide +kernel

/-- **The name of a kind reads back**, unless the kind is empty. -/
theorem parse_name (h : k ≠ empty) : parse k.name = .ok k := by
  unfold name
  split
  · next e he =>
    have hk : (e.1 == k) = true := List.find?_some (p := fun e : Kind × String => e.1 == k) he
    rw [parse_alias e (List.mem_of_find?_eq_some he), eq_of_beq hk]
  · rw [if_neg h]
    have hu := union_included k
    rw [parse_primitives _ fun e he => (List.mem_filter.1 he).1, hu]
    intro hn
    rw [hn] at hu
    exact h hu.symm

/-- The name of a kind has letters and bars only. -/
theorem isAlpha_of_mem_name (h : c ∈ k.name.toList) : c.isAlpha = true ∨ c = '|' := by
  unfold name at h
  split at h
  · next e he => exact .inl (isAlpha_of_mem (.inr (List.mem_of_find?_eq_some he)) h)
  · split at h
    · exact .inl (List.all_eq_true.1 (by decide : "None".toList.all Char.isAlpha = true) c h)
    · rw [String.toList_intercalate] at h
      rcases mem_of_mem_intercalate h with hbar | ⟨part, hp, hc⟩
      · exact .inr (List.mem_singleton.1 hbar)
      · obtain ⟨_, hm, rfl⟩ := List.mem_map.1 hp
        obtain ⟨e, he, rfl⟩ := List.mem_map.1 hm
        exact .inl (isAlpha_of_mem (.inl (List.mem_filter.1 he).1) hc)

theorem isBlank_of_mem_name (h : c ∈ k.name.toList) : isBlank c = false := by
  rcases isAlpha_of_mem_name h with h | rfl
  · exact isBlank_of_isAlpha h
  · rfl

theorem not_mem_name (h : c.isAlpha = false) (hbar : c ≠ '|') : c ∉ k.name.toList := fun hm =>
  (isAlpha_of_mem_name hm).elim (fun ha => absurd (h ▸ ha) Bool.false_ne_true) hbar

theorem name_ne_nil (h : k ≠ empty) : k.name.toList ≠ [] := by
  intro hn
  have hp := parse_name h
  rw [parse, hn] at hp
  cases hp

theorem ne_empty_of_ofName? (h : ofName? text = some k) : k ≠ empty := by
  obtain ⟨e, he, rfl⟩ := Option.map_eq_some_iff.1 h
  exact (by decide : ∀ e ∈ primitives ++ aliases, e.1 ≠ empty) e (List.mem_of_find?_eq_some he)

/-- **A kind that is read is not empty.** -/
theorem ne_empty_of_parse (h : parse text = .ok k) : k ≠ empty := by
  unfold parse at h
  obtain ⟨part, parts, hparts⟩ := List.exists_cons_of_ne_nil (splitFrom_ne_nil ['|'] [] 0 text.toList)
  rw [splitOn, hparts, List.map_cons, ofNames] at h
  split at h
  · cases h
  · next a ha =>
    obtain ⟨b, -, rfl⟩ := map_eq_ok h
    intro he
    have hm := congrArg mask he
    exact ne_empty_of_ofName? ha (congrArg mk (BitVec.or_eq_zero_iff.1 hm).1)

end Kind

namespace Signature

variable {s : Signature} {text : String} {variadic : Bool} {ks : List Kind} {k : Kind} {c : Char} {cs : List Char}

/-- The signature can be written: its name is one word without an opening parenthesis, no kind is empty, and what is
repeated is there. -/
structure Writable (s : Signature) : Prop where
  name_ne_nil : s.name.toList ≠ []
  word : ∀ c ∈ s.name.toList, isBlank c = false
  unopened : '(' ∉ s.name.toList
  parameters : ∀ k ∈ s.parameters, k ≠ Kind.empty
  returns : s.returns ≠ Kind.empty
  repeats : s.variadic = true → s.parameters ≠ []

/-- The test for it. -/
def isWritable (s : Signature) : Bool :=
  !s.name.toList.isEmpty && s.name.toList.all (fun c => !isBlank c && c != '(') &&
    s.parameters.all (· != Kind.empty) && s.returns != Kind.empty && (!s.variadic || !s.parameters.isEmpty)

theorem isWritable_iff : s.isWritable = true ↔ s.Writable := by
  simp only [isWritable, Bool.and_eq_true, Bool.or_eq_true, Bool.not_eq_true', List.all_eq_true, bne_iff_ne,
    List.isEmpty_eq_false_iff]
  constructor
  · rintro ⟨⟨⟨⟨hn, hc⟩, hp⟩, hr⟩, hv⟩
    exact ⟨hn, fun c h => (hc c h).1, fun h => (hc _ h).2 rfl, hp, hr, fun h => hv.resolve_left (by simp [h])⟩
  · intro h
    refine ⟨⟨⟨⟨h.name_ne_nil, fun c hc => ⟨h.word c hc, ?_⟩⟩, h.parameters⟩, h.returns⟩, ?_⟩
    · rintro rfl
      exact h.unopened hc
    · cases hv : s.variadic with
      | false => exact .inl rfl
      | true => exact .inr (h.repeats hv)

instance : Decidable s.Writable := decidable_of_iff _ isWritable_iff

/-! ## Parts of the text -/

/-- The texts of the parameters, the last one with dots if it is to be repeated. -/
def writeParameters (variadic : Bool) : List Kind → List (List Char)
  | [] => []
  | [k] => [k.name.toList ++ if variadic then "...".toList else []]
  | k :: ks => k.name.toList :: writeParameters variadic ks

theorem writeParameters_cons (h : ks ≠ []) :
    writeParameters variadic (k :: ks) = k.name.toList :: writeParameters variadic ks := by
  cases ks with
  | nil => exact absurd rfl h
  | cons => rfl

theorem writeParameters_ne_nil (variadic : Bool) (h : ks ≠ []) : writeParameters variadic ks ≠ [] := by
  match ks with
  | [k] => exact List.cons_ne_nil _ _
  | k :: k' :: ks => exact List.cons_ne_nil _ _

/-- The dots come after the last parameter. -/
theorem intercalate_writeParameters (sep : List Char) (h : ks ≠ []) :
    sep.intercalate (writeParameters variadic ks) =
      sep.intercalate (ks.map fun k => k.name.toList) ++ if variadic then "...".toList else [] := by
  induction ks with
  | nil => exact absurd rfl h
  | cons k ks ih =>
    cases ks with
    | nil => simp [writeParameters]
    | cons k' ks =>
      have hne := List.cons_ne_nil k' ks
      obtain ⟨part, parts, hparts⟩ := List.exists_cons_of_ne_nil (writeParameters_ne_nil variadic hne)
      rw [writeParameters_cons hne, hparts, List.intercalate_cons_cons, ← hparts, ih hne]
      simp only [List.map_cons, List.intercalate_cons_cons, List.append_assoc]

theorem of_mem_writeParameters {part : List Char} (h : part ∈ writeParameters variadic ks) :
    ∃ k ∈ ks, part = k.name.toList ∨ part = k.name.toList ++ "...".toList := by
  induction ks with
  | nil => cases h
  | cons k ks ih =>
    cases ks with
    | nil =>
      obtain rfl := List.mem_singleton.1 h
      refine ⟨k, List.mem_cons_self, ?_⟩
      cases variadic
      · exact .inl (List.append_nil _)
      · exact .inr rfl
    | cons k' ks =>
      rcases List.mem_cons.1 h with rfl | h
      · exact ⟨k, List.mem_cons_self, .inl rfl⟩
      · obtain ⟨k'', hk, hp⟩ := ih h
        exact ⟨k'', List.mem_cons_of_mem _ hk, hp⟩

/-- What is in the text of a parameter is in a name of a kind or a dot. -/
theorem mem_of_mem_writeParameters {part : List Char} (h : part ∈ writeParameters variadic ks) (hc : c ∈ part) :
    (∃ k : Kind, c ∈ k.name.toList) ∨ c = '.' := by
  obtain ⟨k, -, rfl | rfl⟩ := of_mem_writeParameters h
  · exact .inl ⟨k, hc⟩
  · rcases List.mem_append.1 hc with hc | hc
    · exact .inl ⟨k, hc⟩
    · exact .inr (by simpa using hc)

theorem isBlank_of_mem_writeParameters {part : List Char} (h : part ∈ writeParameters variadic ks) (hc : c ∈ part) :
    isBlank c = false := by
  rcases mem_of_mem_writeParameters h hc with ⟨k, hk⟩ | rfl
  · exact Kind.isBlank_of_mem_name hk
  · rfl

theorem not_mem_writeParameters {part : List Char} (h : part ∈ writeParameters variadic ks)
    (ha : c.isAlpha = false) (hbar : c ≠ '|') (hdot : c ≠ '.') : c ∉ part := fun hc =>
  (mem_of_mem_writeParameters h hc).elim (fun ⟨_, hk⟩ => Kind.not_mem_name ha hbar hk) hdot

theorem ne_nil_of_mem_writeParameters (hks : ∀ k ∈ ks, k ≠ Kind.empty) :
    ∀ part ∈ writeParameters variadic ks, part ≠ [] := by
  intro part h
  obtain ⟨k, hk, rfl | rfl⟩ := of_mem_writeParameters h
  · exact Kind.name_ne_nil (hks k hk)
  · exact List.append_ne_nil_of_left_ne_nil (Kind.name_ne_nil (hks k hk)) _

theorem toList_render (h : s.Writable) : s.render.toList = s.name.toList ++ '(' ::
    (", ".toList.intercalate (writeParameters s.variadic s.parameters) ++ ')' :: s.returns.name.toList) := by
  have hinner : ", ".toList.intercalate (writeParameters s.variadic s.parameters) =
      ", ".toList.intercalate (s.parameters.map fun k => k.name.toList) ++
        if s.variadic then "...".toList else [] := by
    by_cases hne : s.parameters = []
    · rw [hne, if_neg fun hv => h.repeats hv hne]
      rfl
    · exact intercalate_writeParameters _ hne
  have hdots : (if s.variadic then "..." else "").toList = if s.variadic then "...".toList else [] := by
    split <;> rfl
  simp only [hinner, render, String.toList_append, String.toList_intercalate, hdots, List.map_map, List.append_assoc]
  rfl

/-! ## Reading it -/

theorem withoutSuffix?_append (cs suffix : List Char) : withoutSuffix? suffix (cs ++ suffix) = some cs := by
  rw [withoutSuffix?, if_pos (List.isSuffixOf_iff_suffix.2 (List.suffix_append cs suffix)), List.length_append,
    Nat.add_sub_cancel, List.take_left]

theorem withoutSuffix?_of_not_mem (h : '.' ∉ cs) : withoutSuffix? "...".toList cs = none := by
  rw [withoutSuffix?, if_neg]
  exact fun hs => h ((List.isSuffixOf_iff_suffix.1 hs).subset (by decide))

theorem cutAtLast_append {before after : List Char} (h : c ∉ after) :
    cutAtLast c (before ++ c :: after) = some (before, after) := by
  have hafter : ∀ d ∈ after.reverse, (d == c) = false := fun d hd =>
    beq_false_of_ne fun he => h (he ▸ List.mem_reverse.1 hd)
  have hcut : cutAt (· == c) (before ++ c :: after).reverse = (after.reverse, some before.reverse) := by
    rw [List.reverse_append, List.reverse_cons, List.append_assoc]
    exact cutAt_append hafter (beq_self_eq_true c)
  rw [cutAtLast, hcut]
  simp only [List.reverse_reverse]

theorem readKind_name (h : k ≠ Kind.empty) : readKind k.name.toList = .ok k := by
  rw [readKind, String.ofList_toList, Kind.parse_name h]

theorem readReturns_name (h : k ≠ Kind.empty) : readReturns k.name.toList = .ok k := by
  rw [readReturns, if_neg (by simpa using Kind.name_ne_nil h), String.ofList_toList, Kind.parse_name h]

theorem readParameters_cons {part : List Char} {parts : List (List Char)} (h : parts ≠ []) :
    readParameters (part :: parts) =
      if (withoutSuffix? "...".toList part).isSome then .error .innerVariadic
      else readKind part >>= fun kind => readParameters parts >>= fun (kinds, variadic) =>
        .ok (kind :: kinds, variadic) := by
  cases parts with
  | nil => exact absurd rfl h
  | cons => rfl

/-- No name ends in dots. -/
theorem withoutSuffix?_name (k : Kind) : withoutSuffix? "...".toList k.name.toList = none :=
  withoutSuffix?_of_not_mem (Kind.not_mem_name rfl (by decide))

/-- The texts of parameters read back. -/
theorem readParameters_writeParameters (hne : ks ≠ []) (h : ∀ k ∈ ks, k ≠ Kind.empty) :
    readParameters (writeParameters variadic ks) = .ok (ks, variadic) := by
  induction ks with
  | nil => exact absurd rfl hne
  | cons k ks ih =>
    obtain ⟨hk, hks⟩ := List.forall_mem_cons.1 h
    by_cases hnil : ks = []
    · subst hnil
      cases variadic with
      | false =>
        rw [writeParameters, if_neg Bool.false_ne_true, List.append_nil, readParameters, withoutSuffix?_name,
          readKind_name hk]
        rfl
      | true =>
        rw [writeParameters, if_pos rfl, readParameters, withoutSuffix?_append]
        dsimp only
        rw [readKind_name hk]
        rfl
    · rw [writeParameters_cons hnil, readParameters_cons (writeParameters_ne_nil _ hnil), withoutSuffix?_name,
        readKind_name hk, ih hnil hks]
      rfl

/-- Reads what stands between the parentheses. -/
def readInner (inner : List Char) : Except SignatureFault (List Kind × Bool) :=
  if inner.isEmpty then .ok ([], false) else readParameters ((splitOn [','] inner).map trim)

theorem ofChars_of_cuts {before rest inner after : List Char} (hopen : cutAt (· == '(') cs = (before, some rest))
    (hclose : cutAtLast ')' rest = some (inner, after)) :
    ofChars cs =
      if (trim before).isEmpty || (trim before).any isBlank then .error .badName
      else readInner (trim inner) >>= fun (parameters, variadic) => readReturns (trim after) >>= fun returns =>
        .ok { name := String.ofList (trim before), parameters, variadic, returns } := by
  rw [ofChars, hopen]
  dsimp only
  rw [hclose]
  dsimp only [readInner]
  split
  · rfl
  · split <;> rfl

/-- The texts that are read: a word, an opening parenthesis, parameters, the last closing parenthesis and a result. -/
theorem ofChars_eq_ok : ofChars cs = .ok s ↔ ∃ before rest inner after,
    cutAt (· == '(') cs = (before, some rest) ∧ cutAtLast ')' rest = some (inner, after) ∧
      (trim before ≠ [] ∧ ∀ c ∈ trim before, isBlank c = false) ∧
      readInner (trim inner) = .ok (s.parameters, s.variadic) ∧ readReturns (trim after) = .ok s.returns ∧
      s.name = String.ofList (trim before) ∧ s.description = "" ∧ s.sample = "" := by
  constructor
  · intro h
    match hopen : cutAt (· == '(') cs with
    | (_, none) =>
      rw [ofChars, hopen] at h
      cases h
    | (before, some rest) =>
      match hclose : cutAtLast ')' rest with
      | none =>
        rw [ofChars, hopen] at h
        dsimp only at h
        rw [hclose] at h
        cases h
      | some (inner, after) =>
        rw [ofChars_of_cuts hopen hclose] at h
        split at h
        · cases h
        · next hname =>
          obtain ⟨⟨parameters, variadic⟩, hinner, h⟩ := bind_eq_ok h
          obtain ⟨returns, hreturns, h⟩ := bind_eq_ok h
          cases h
          exact ⟨before, rest, inner, after, rfl, hclose, by simpa using hname, hinner, hreturns, rfl, rfl, rfl⟩
  · rintro ⟨before, rest, inner, after, hopen, hclose, hname, hinner, hreturns, hs, hdescription, hsample⟩
    obtain ⟨name, parameters, variadic, returns, description, sample⟩ := s
    dsimp only at hinner hreturns hs hdescription hsample
    subst hs hdescription hsample
    rw [ofChars_of_cuts hopen hclose, if_neg (by simpa using hname), hinner]
    show (readReturns (trim after) >>= _) = _
    rw [hreturns]
    rfl

/-- What stands between the parentheses reads back. -/
theorem readInner_writeParameters (h : s.Writable) :
    readInner (", ".toList.intercalate (writeParameters s.variadic s.parameters)) = .ok (s.parameters, s.variadic) := by
  by_cases hnil : s.parameters = []
  · have hv : s.variadic = false := Bool.eq_false_iff.2 fun hv => h.repeats hv hnil
    rw [hnil, hv]
    rfl
  · obtain ⟨first, parts, hparts⟩ :=
      List.exists_cons_of_ne_nil (writeParameters_ne_nil s.variadic hnil)
    have hword : ∀ part ∈ first :: parts, trim part = part := fun part hp =>
      trim_of_forall fun c hc => isBlank_of_mem_writeParameters (hparts ▸ hp) hc
    have hsplit : splitOn [','] (", ".toList.intercalate (first :: parts)) = first :: parts.map ([' '] ++ ·) :=
      splitOn_intercalate (by decide) fun part hp =>
        not_mem_writeParameters (hparts ▸ hp) rfl (by decide) (by decide)
    have htrim : (first :: parts.map ([' '] ++ ·)).map trim = first :: parts := by
      rw [List.map_cons, hword first List.mem_cons_self, List.map_map]
      refine congrArg (first :: ·) ((List.map_congr_left fun part hp => ?_).trans (List.map_id _))
      exact (trim_cons rfl part).trans (hword part (List.mem_cons_of_mem _ hp))
    have hne : ", ".toList.intercalate (first :: parts) ≠ [] := by
      rw [intercalate_cons]
      exact List.append_ne_nil_of_left_ne_nil
        (ne_nil_of_mem_writeParameters h.parameters first (hparts ▸ List.mem_cons_self)) _
    rw [hparts, readInner, if_neg (by simpa using hne), hsplit, htrim, ← hparts]
    exact readParameters_writeParameters hnil h.parameters

/-- **The text of a signature reads back**, but for the documentation. -/
theorem parse_render (h : s.Writable) : parse s.render = .ok { s with description := "", sample := "" } := by
  have hopen : ∀ c ∈ s.name.toList, (c == '(') = false := fun c hc =>
    beq_false_of_ne fun he => h.unopened (he ▸ hc)
  have hname := trim_of_forall h.word
  have hinner : trim (", ".toList.intercalate (writeParameters s.variadic s.parameters)) =
      ", ".toList.intercalate (writeParameters s.variadic s.parameters) :=
    trim_intercalate _ (ne_nil_of_mem_writeParameters h.parameters) fun _ hp _ => isBlank_of_mem_writeParameters hp
  have hreturns : trim s.returns.name.toList = s.returns.name.toList :=
    trim_of_forall fun _ => Kind.isBlank_of_mem_name
  have hchars : ofChars s.render.toList = .ok { s with description := "", sample := "" } := by
    rw [toList_render h]
    -- parentheses, commas and dots in the name are behind the first cut, and the result has no parenthesis
    refine ofChars_eq_ok.2 ⟨_, _, _, _, cutAt_append hopen (beq_self_eq_true '('),
      cutAtLast_append (Kind.not_mem_name rfl (by decide)), ⟨?_, ?_⟩, ?_, ?_, ?_, rfl, rfl⟩
    · exact hname.symm ▸ h.name_ne_nil
    · exact hname.symm ▸ h.word
    · exact hinner.symm ▸ readInner_writeParameters h
    · exact hreturns.symm ▸ readReturns_name h.returns
    · rw [hname, String.ofList_toList]
  rw [parse, hchars]

/-- A kind that is read is not empty. -/
theorem ne_empty_of_readKind (h : readKind cs = .ok k) : k ≠ Kind.empty := by
  unfold readKind at h
  split at h
  · next hp =>
    cases h
    exact Kind.ne_empty_of_parse hp
  · cases h

theorem ne_empty_of_readReturns (h : readReturns cs = .ok k) : k ≠ Kind.empty := by
  unfold readReturns at h
  split at h
  · cases h
    decide
  · split at h
    · next hp =>
      cases h
      exact Kind.ne_empty_of_parse hp
    · cases h

/-- What is read from texts of parameters is as many kinds, none of them empty. -/
theorem of_readParameters {parts : List (List Char)} (h : readParameters parts = .ok (ks, variadic)) :
    (∀ k ∈ ks, k ≠ Kind.empty) ∧ ks.length = parts.length := by
  induction parts generalizing ks variadic with
  | nil =>
    cases h
    exact ⟨nofun, rfl⟩
  | cons part parts ih =>
    by_cases hnil : parts = []
    · subst hnil
      rw [readParameters] at h
      split at h
      all_goals
        obtain ⟨k, hk, he⟩ := map_eq_ok h
        cases he
        exact ⟨List.forall_mem_singleton.2 (ne_empty_of_readKind hk), rfl⟩
    · rw [readParameters_cons hnil] at h
      split at h
      · cases h
      · obtain ⟨kind, hkind, h⟩ := bind_eq_ok h
        obtain ⟨⟨kinds, variadic⟩, hkinds, h⟩ := bind_eq_ok h
        cases h
        obtain ⟨hne, hlength⟩ := ih hkinds
        exact ⟨List.forall_mem_cons.2 ⟨ne_empty_of_readKind hkind, hne⟩, by rw [List.length_cons, hlength]; rfl⟩

theorem of_readInner (h : readInner cs = .ok (ks, variadic)) :
    (∀ k ∈ ks, k ≠ Kind.empty) ∧ (variadic = true → ks ≠ []) := by
  unfold readInner at h
  split at h
  · cases h
    exact ⟨nofun, nofun⟩
  · obtain ⟨hne, hlength⟩ := of_readParameters h
    refine ⟨hne, fun _ hnil => ?_⟩
    rw [hnil, List.length_map] at hlength
    exact splitFrom_ne_nil [','] [] 0 cs (List.eq_nil_of_length_eq_zero hlength.symm)

/-- **A signature that is read is writable**, and has no documentation. -/
theorem writable_of_parse (h : parse text = .ok s) : s.Writable ∧ s.description = "" ∧ s.sample = "" := by
  unfold parse at h
  split at h
  · next hp =>
    cases h
    obtain ⟨before, rest, inner, after, hopen, -, ⟨hne, hword⟩, hinner, hreturns, hs, hdescription, hsample⟩ :=
      ofChars_eq_ok.1 hp
    obtain ⟨hkinds, hrepeats⟩ := of_readInner hinner
    have hname : s.name.toList = trim before := by rw [hs, String.toList_ofList]
    refine ⟨⟨hname ▸ hne, hname ▸ hword, fun hm => ?_, hkinds, ne_empty_of_readReturns hreturns, hrepeats⟩,
      hdescription, hsample⟩
    exact absurd (not_of_mem_cutAt hopen (mem_of_mem_trim (hname ▸ hm))) (by decide)
  · cases h

/-- So the text of what has been read is read as the same. -/
theorem parse_render_of_parse (h : parse text = .ok s) : parse s.render = .ok s := by
  obtain ⟨hw, hdescription, hsample⟩ := writable_of_parse h
  obtain ⟨name, parameters, variadic, returns, description, sample⟩ := s
  dsimp only at hdescription hsample
  subst hdescription hsample
  exact parse_render hw

end Signature

end RuleExpr
