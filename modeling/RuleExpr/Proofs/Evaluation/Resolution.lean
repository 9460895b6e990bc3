import RuleExpr.Proofs.Evaluation.LookAhead

/-!
# Resolution

Overloads are tried from the innermost scope outwards, and in a scope the newest first (`candidates`). **A block calls
the first of them that takes its children** (`resolve_firstMatch`): that admits their number and receives each of them.
It fails where there are candidates of which none admits the number, and calls nothing otherwise.

But a child can be a number whose exponent overflows when the look-ahead reads it. That ends the search, so the error is
not always one of the number of children (`not_resolve_arity`).

Of its children a block sees no more than an `Outline`: the kind of an atom, the head of a block and the number of its
children. So what it calls depends only on the functions with its own name and those with the names of its direct
children (`resolve_of_outline`).
-/

namespace RuleExpr

/-! ## Kinds that meet -/

section Meets

variable {a b : Kind}

/-- Some primitive kind is in both. -/
def Kind.Meets (a b : Kind) : Prop := ∃ p ∈ Kind.primitives, a.includes p.1 = true ∧ b.includes p.1 = true

/-- The primitives are the eight bits. -/
theorem Kind.mask_ne_zero_iff (m : BitVec 8) : m ≠ 0 ↔ ∃ p ∈ Kind.primitives, m &&& p.1.mask = p.1.mask := by
  revert m
  decide +kernel

theorem Kind.and_and_eq_iff {x y p : BitVec 8} : x &&& y &&& p = p ↔ x &&& p = p ∧ y &&& p = p := by
  constructor
  · intro h
    constructor
    · rw [← h, ← BitVec.and_assoc, ← BitVec.and_assoc, BitVec.and_self]
    · rw [← h, ← BitVec.and_assoc, BitVec.and_comm x y, ← BitVec.and_assoc, BitVec.and_self]
  · rintro ⟨hx, hy⟩
    rw [BitVec.and_assoc, hy, hx]

/-- A parameter accepts what it has a primitive in common with. -/
theorem Kind.accepts_iff_meets : a.accepts b = true ↔ a.Meets b := by
  rw [Kind.accepts, bne_iff_ne, Kind.mask_ne_zero_iff]
  refine exists_congr fun p => and_congr_right fun _ => ?_
  rw [Kind.and_and_eq_iff, Kind.includes_iff, Kind.includes_iff]

theorem Kind.quotes_iff : a.quotes = true ↔ a.includes Kind.token = true := by
  rw [Kind.quotes, Kind.includes, bne_iff_ne, beq_iff_eq]
  generalize a.mask = m
  revert m
  decide +kernel

end Meets

/-! ## Candidates -/

section Candidates

variable {chain parents : List Scope} {s s' : Scope} {head : String} {f : Function}

/-- The visible functions with a name in any case: inner scopes first, and in a scope the newest first. -/
def candidates (chain : List Scope) (head : String) : List Function :=
  (chain.flatMap Scope.functions).filter fun f => Text.sameFolded f.signature.name head

theorem functionsNamed_eq_candidates (chain : List Scope) (head : String) :
    functionsNamed chain (Text.foldCase head) = candidates chain head :=
  (List.filter_flatMap ..).symm

theorem candidates_cons : candidates (s :: parents) head = candidates [s] head ++ candidates parents head := by
  simp only [candidates, List.flatMap_cons, List.flatMap_nil, List.append_nil, List.filter_append]

/-- What is registered is tried before all that was there. -/
theorem candidates_registerFunction (h : s.registerFunction f = (.ok (), s')) :
    candidates (s' :: parents) head =
      if Text.sameFolded f.signature.name head then f :: candidates (s :: parents) head
      else candidates (s :: parents) head := by
  have hs : s'.functions = f :: s.functions := by
    unfold Scope.registerFunction Registry.register? at h
    split at h
    · cases h
    · cases h
      rfl
  simp only [candidates, List.flatMap_cons, hs, List.cons_append, List.filter_cons]

end Candidates

/-! ## Overloads that take the children -/

section Takes

variable {chain : List Scope} {head : String} {children : List Token} {f : Function} {parameter : Kind} {t : Token}
  {signature : Signature} {e : Error}

/-- What a parameter receives: any block if it quotes, a block that could evaluate to what it accepts, or an atom that
it accepts. -/
inductive Kind.Receives (chain : List Scope) (parameter : Kind) : Token → Prop
  | quoted (head : String) (children : List Token) (h : parameter.includes Kind.token = true) :
      Receives chain parameter (.block head children)
  | evaluated (head : String) (children : List Token) {k : Kind} (hk : lookAhead chain head children = .ok k)
      (h : parameter.Meets k) : Receives chain parameter (.block head children)
  | atom (t : Token) (ht : t.isBlock = false) (h : parameter.Meets t.kind) : Receives chain parameter t

/-- What overflows for a parameter that does not quote: a block that names no function and has no children, and whose
head is read as a number with an exponent that there is no room for. -/
inductive Kind.Overflows (chain : List Scope) (parameter : Kind) : Token → Prop
  | numeral (head : String) (hq : parameter.includes Kind.token = false) (hh : head.isEmpty = false)
      (hc : candidates chain head = []) (h : Token.infer head = .error .overflow) :
      Overflows chain parameter (.block head [])

theorem lookAhead_eq_error_iff : lookAhead chain head children = .error e ↔
    e = .overflow ∧ head.isEmpty = false ∧ candidates chain head = [] ∧ children = [] ∧
      Token.infer head = .error .overflow := by
  cases hh : head.isEmpty with
  | true =>
    rw [lookAhead_of_isEmpty hh]
    exact iff_of_false nofun nofun
  | false =>
    by_cases hc : functionsNamed chain (Text.foldCase head) = []
    · rw [lookAhead_of_unnamed hh hc, ← functionsNamed_eq_candidates]
      cases children with
      | nil =>
        show (Token.infer head).map Token.kind = .error e ↔ _
        rw [map_eq_error_iff]
        constructor
        · intro h
          obtain ⟨rfl, -⟩ := Token.infer_eq_error_iff.1 h
          exact ⟨rfl, rfl, hc, rfl, h⟩
        · rintro ⟨rfl, -, -, -, h⟩
          exact h
      | cons t ts => exact iff_of_false nofun fun h => nomatch h.2.2.2.1
    · rw [lookAhead_of_named hh hc, ← functionsNamed_eq_candidates]
      exact iff_of_false nofun fun h => hc h.2.2.1

theorem acceptsChild_eq_true_iff : acceptsChild chain parameter t = .ok true ↔ parameter.Receives chain t := by
  constructor
  · intro h
    cases t with
    | block head children =>
      rw [acceptsChild] at h
      split at h
      · next hq => exact .quoted head children (Kind.quotes_iff.1 hq)
      · obtain ⟨k, hk, ha⟩ := map_eq_ok h
        exact .evaluated head children hk (Kind.accepts_iff_meets.1 ha)
    | _ => exact .atom _ rfl (Kind.accepts_iff_meets.1 (Except.ok.inj h))
  · intro h
    cases h with
    | quoted head children h => rw [acceptsChild, Kind.quotes_iff.2 h, if_pos rfl]
    | evaluated head children hk h =>
      rw [acceptsChild, hk]
      split
      · rfl
      · exact congrArg Except.ok (Kind.accepts_iff_meets.2 h)
    | atom _ ht h =>
      cases t with
      | block => cases ht
      | _ => exact congrArg Except.ok (Kind.accepts_iff_meets.2 h)

theorem acceptsChild_eq_error_iff : acceptsChild chain parameter t = .error e ↔
    e = .overflow ∧ parameter.Overflows chain t := by
  constructor
  · intro h
    cases t with
    | block head children =>
      rw [acceptsChild] at h
      split at h
      · cases h
      · next hq =>
        obtain ⟨rfl, hh, hc, rfl, hi⟩ := lookAhead_eq_error_iff.1 (map_eq_error_iff.1 h)
        exact ⟨rfl, .numeral head (Bool.eq_false_iff.2 fun h => hq (Kind.quotes_iff.2 h)) hh hc hi⟩
    | _ => cases h
  · rintro ⟨rfl, head, hq, hh, hc, hi⟩
    have hquotes : ¬parameter.quotes = true := fun h => Bool.eq_false_iff.1 hq (Kind.quotes_iff.1 h)
    rw [acceptsChild, if_neg hquotes, map_eq_error_iff]
    exact lookAhead_eq_error_iff.2 ⟨rfl, hh, hc, rfl, hi⟩

/-- The signature admits the number of children and receives each of them. -/
structure Signature.Takes (chain : List Scope) (signature : Signature) (children : List Token) : Prop where
  admits : signature.admits children.length = true
  receives : ∀ i t, children[i]? = some t → (signature.parameterKind i).Receives chain t

/-- The signature admits the number of children, and after some that it receives comes one that overflows. -/
structure Signature.Overflows (chain : List Scope) (signature : Signature) (children : List Token) : Prop where
  admits : signature.admits children.length = true
  overflows : ∃ i t, children[i]? = some t ∧ (signature.parameterKind i).Overflows chain t ∧
    ∀ j u, j < i → children[j]? = some u → (signature.parameterKind j).Receives chain u

/-- The signature does neither: the search goes on behind it. -/
def Signature.Passes (chain : List Scope) (signature : Signature) (children : List Token) : Prop :=
  ¬signature.Takes chain children ∧ ¬signature.Overflows chain children

theorem acceptsChildren_eq_error_iff : acceptsChildren chain signature children = .error e ↔
    e = .overflow ∧ ∃ i t, children[i]? = some t ∧ (signature.parameterKind i).Overflows chain t ∧
      ∀ j u, j < i → children[j]? = some u → (signature.parameterKind j).Receives chain u := by
  have hzip (i : Nat) (x : Token × Nat) : children.zipIdx[i]? = some x ↔ children[i]? = some x.1 ∧ x.2 = i := by
    rw [List.getElem?_zipIdx, Option.map_eq_some_iff, Nat.zero_add]
    constructor
    · rintro ⟨t, ht, rfl⟩
      exact ⟨ht, rfl⟩
    · rintro ⟨ht, rfl⟩
      exact ⟨x.1, ht, rfl⟩
  rw [acceptsChildren, allM_eq_error_iff]
  simp only [exists_first_iff_getElem?, hzip]
  constructor
  · rintro ⟨⟨t, i⟩, he, _, ⟨ht, rfl⟩, hbefore⟩
    obtain ⟨rfl, ho⟩ := acceptsChild_eq_error_iff.1 he
    exact ⟨rfl, i, t, ht, ho, fun j u hj hu => acceptsChild_eq_true_iff.1 (hbefore j (u, j) hj ⟨hu, rfl⟩)⟩
  · rintro ⟨rfl, i, t, ht, ho, hbefore⟩
    refine ⟨(t, i), acceptsChild_eq_error_iff.2 ⟨rfl, ho⟩, i, ⟨ht, rfl⟩, ?_⟩
    rintro j ⟨u, _⟩ hj ⟨hu, rfl⟩
    exact acceptsChild_eq_true_iff.2 (hbefore _ u hj hu)

/-- What a candidate comes to in the search. -/
def Function.judge (chain : List Scope) (children : List Token) (f : Function) : Except Error Bool :=
  if f.signature.admits children.length then acceptsChildren chain f.signature children else .ok false

theorem Function.judge_eq_true_iff : f.judge chain children = .ok true ↔ f.signature.Takes chain children := by
  unfold judge
  split
  · next h =>
    rw [acceptsChildren_iff]
    simp only [acceptsChild_eq_true_iff]
    exact ⟨fun hr => ⟨h, hr⟩, fun ht => ht.receives⟩
  · next h => exact iff_of_false nofun fun ht => h ht.admits

theorem Function.judge_eq_error_iff : f.judge chain children = .error e ↔
    e = .overflow ∧ f.signature.Overflows chain children := by
  unfold judge
  split
  · next h =>
    rw [acceptsChildren_eq_error_iff]
    exact and_congr_right fun _ => ⟨fun ho => ⟨h, ho⟩, fun ho => ho.overflows⟩
  · next h => exact iff_of_false nofun fun ho => h ho.2.admits

theorem Function.judge_eq_false_iff : f.judge chain children = .ok false ↔ f.signature.Passes chain children := by
  rw [Signature.Passes, ← judge_eq_true_iff]
  have ho : f.signature.Overflows chain children ↔ f.judge chain children = .error .overflow := by
    rw [judge_eq_error_iff]
    exact (and_iff_right rfl).symm
  rw [ho]
  match hj : f.judge chain children with
  | .ok true => exact iff_of_false nofun fun h => h.1 rfl
  | .ok false => exact iff_of_true rfl ⟨nofun, nofun⟩
  | .error e =>
    obtain ⟨rfl, -⟩ := judge_eq_error_iff.1 hj
    exact iff_of_false nofun fun h => h.2 rfl

/-- The candidates are gone through until one takes the children, unless the number of these is wrong for all. -/
theorem resolve_eq_find : resolve chain head children =
    if candidates chain head ≠ [] ∧ ∀ f ∈ candidates chain head, f.signature.admits children.length = false then
      .error (.arity head children.length)
    else (candidates chain head).findM? (Function.judge chain children) := by
  rw [resolve, select_eq, functionsNamed_eq_candidates, findM?_filter]
  simp only [Bool.false_eq_true, false_or, true_and]
  rfl

/-- A block is refused where there are candidates of which none admits the number of its children, and where a child
overflows before a candidate has been found. -/
theorem resolve_eq_error_iff : resolve chain head children = .error e ↔
    (e = .arity head children.length ∧ candidates chain head ≠ [] ∧
      ∀ f ∈ candidates chain head, f.signature.admits children.length = false) ∨
    (e = .overflow ∧ ∃ before f after, candidates chain head = before ++ f :: after ∧
      f.signature.Overflows chain children ∧ ∀ g ∈ before, g.signature.Passes chain children) := by
  rw [resolve_eq_find]
  split
  · next h =>
    rw [Except.error.injEq]
    constructor
    · exact fun he => .inl ⟨he.symm, h⟩
    · rintro (he | ⟨-, before, f, after, hc, ho, -⟩)
      · exact he.1.symm
      · have ha := h.2 f (hc ▸ List.mem_append_right before List.mem_cons_self)
        rw [ho.admits] at ha
        cases ha
  · next h =>
    rw [findM?_eq_error_iff]
    simp only [Function.judge_eq_error_iff, Function.judge_eq_false_iff]
    constructor
    · rintro ⟨f, ⟨rfl, ho⟩, before, after, hc, hb⟩
      exact .inr ⟨rfl, before, f, after, hc, ho, hb⟩
    · rintro (he | ⟨rfl, before, f, after, hc, ho, hb⟩)
      · exact absurd he.2 h
      · exact ⟨f, ⟨rfl, ho⟩, before, after, hc, hb⟩

/-- The function that is called is the first candidate that takes the children. -/
theorem resolve_eq_some_iff : resolve chain head children = .ok (some f) ↔
    ∃ before after, candidates chain head = before ++ f :: after ∧ f.signature.Takes chain children ∧
      ∀ g ∈ before, g.signature.Passes chain children := by
  have hfind : (candidates chain head).findM? (Function.judge chain children) = .ok (some f) ↔
      ∃ before after, candidates chain head = before ++ f :: after ∧ f.signature.Takes chain children ∧
        ∀ g ∈ before, g.signature.Passes chain children := by
    rw [findM?_eq_some_iff]
    simp only [Function.judge_eq_true_iff, Function.judge_eq_false_iff]
    exact ⟨fun ⟨hf, before, after, h, hg⟩ => ⟨before, after, h, hf, hg⟩,
      fun ⟨before, after, h, hf, hg⟩ => ⟨hf, before, after, h, hg⟩⟩
  rw [resolve_eq_find]
  split
  · next h =>
    refine iff_of_false nofun ?_
    rintro ⟨before, after, hc, hf, -⟩
    have ha := h.2 f (hc ▸ List.mem_append_right before List.mem_cons_self)
    rw [hf.admits] at ha
    cases ha
  · exact hfind

theorem resolve_eq_none_iff : resolve chain head children = .ok none ↔
    (candidates chain head = [] ∨ ∃ f ∈ candidates chain head, f.signature.admits children.length = true) ∧
      ∀ f ∈ candidates chain head, f.signature.Passes chain children := by
  have hadmits : (candidates chain head = [] ∨ ∃ f ∈ candidates chain head,
      f.signature.admits children.length = true) ↔
      ¬(candidates chain head ≠ [] ∧ ∀ f ∈ candidates chain head, f.signature.admits children.length = false) := by
    push Not
    simp only [ne_eq, Bool.not_eq_false, or_iff_not_imp_left]
  rw [resolve_eq_find, hadmits]
  split
  · next h => exact iff_of_false nofun fun he => he.1 h
  · next h =>
    rw [findM?_eq_none_iff]
    simp only [Function.judge_eq_false_iff]
    exact (and_iff_right h).symm

end Takes

/-! ## What is seen of the children -/

section Outline

variable {chain chain' : List Scope} {head : String} {children children' : List Token} {t t' : Token}

/-- What the choice of an overload sees of a child. -/
inductive Outline where
  | atom (kind : Kind)
  | call (head : String) (count : Nat)
  | grouping (lone : Option Kind)
  deriving DecidableEq

/-- The kind of an atom that stands alone. -/
def Token.loneKind : List Token → Option Kind
  | [only] => if only.isBlock then none else some only.kind
  | _ => none

/-- An atom is seen as its kind, a call as its head with the number of its children, and a grouping as the kind of an
atom that stands alone in it. -/
def Token.outline : Token → Outline
  | .block head children => if head.isEmpty then .grouping (loneKind children) else .call head children.length
  | t => .atom t.kind

theorem lookAhead_of_grouping (hh : head.isEmpty = true) :
    lookAhead chain head children = .ok ((Token.loneKind children).getD Kind.any) := by
  rw [lookAhead_of_isEmpty hh]
  rcases children with _ | ⟨only, _ | ⟨t, ts⟩⟩
  · rfl
  · dsimp only [Token.loneKind]
    cases only.isBlock <;> rfl
  · rfl

theorem lookAhead_of_head (hh : head.isEmpty = false) (hl : children'.length = children.length)
    (hf : candidates chain' head = candidates chain head) :
    lookAhead chain' head children' = lookAhead chain head children := by
  have he : children'.isEmpty = children.isEmpty := by
    rw [Bool.eq_iff_iff, List.isEmpty_iff_length_eq_zero, List.isEmpty_iff_length_eq_zero, hl]
  simp only [lookAhead, hh, functionsNamed_eq_candidates, hf, hl, he, Bool.false_eq_true, if_false]

theorem Token.outline_of_atom (h : t.isBlock = false) : t.outline = .atom t.kind := by
  cases t with
  | block => cases h
  | _ => rfl

theorem acceptsChild_of_atom (h : t.isBlock = false) (parameter : Kind) :
    acceptsChild chain parameter t = .ok (parameter.accepts t.kind) := by
  cases t with
  | block => cases h
  | _ => rfl

/-- What a block could evaluate to is seen from outside it. -/
theorem lookAhead_of_outline {head' : String}
    (h : (Token.block head' children').outline = (Token.block head children).outline)
    (hf : ∀ name count, (Token.block head children).outline = .call name count →
      candidates chain' name = candidates chain name) :
    lookAhead chain' head' children' = lookAhead chain head children := by
  dsimp only [Token.outline] at h hf
  cases hh : head.isEmpty with
  | true =>
    rw [if_pos hh] at h
    split at h
    · next hh' =>
      rw [lookAhead_of_grouping hh, lookAhead_of_grouping hh', Outline.grouping.inj h]
    · cases h
  | false =>
    rw [if_neg (Bool.eq_false_iff.1 hh)] at h hf
    split at h
    · cases h
    · obtain ⟨rfl, hl⟩ := Outline.call.inj h
      exact lookAhead_of_head hh hl (hf _ _ rfl)

theorem Token.outline_eq_atom_iff : (∃ k, t.outline = .atom k) ↔ t.isBlock = false := by
  constructor
  · rintro ⟨k, h⟩
    cases t with
    | block head children =>
      rw [outline] at h
      split at h <;> cases h
    | _ => rfl
  · exact fun h => ⟨t.kind, outline_of_atom h⟩

theorem Token.isBlock_of_outline (h : t'.outline = t.outline) : t'.isBlock = t.isBlock := by
  rw [← Bool.not_inj_iff, Bool.eq_iff_iff, Bool.not_eq_true', Bool.not_eq_true', ← outline_eq_atom_iff,
    ← outline_eq_atom_iff, h]

/-- Children that look alike are accepted alike, where the functions are the same that they would call. -/
theorem acceptsChild_of_outline (h : t'.outline = t.outline)
    (hf : ∀ name count, t.outline = .call name count → candidates chain' name = candidates chain name)
    (parameter : Kind) : acceptsChild chain' parameter t' = acceptsChild chain parameter t := by
  have hb := Token.isBlock_of_outline h
  cases ht : t.isBlock with
  | false =>
    rw [ht] at hb
    rw [Token.outline_of_atom ht, Token.outline_of_atom hb] at h
    rw [acceptsChild_of_atom ht, acceptsChild_of_atom hb, Outline.atom.inj h]
  | true =>
    rw [ht] at hb
    cases t with
    | block head children =>
      cases t' with
      | block head' children' => simp only [acceptsChild, lookAhead_of_outline h hf]
      | _ => cases hb
    | _ => cases ht

/-- The functions are the same that the children would call. -/
def SameCalls (chain chain' : List Scope) (children : List Token) : Prop :=
  ∀ name count, .call name count ∈ children.map Token.outline → candidates chain' name = candidates chain name

/-- By induction on the children, with their indices left open. -/
theorem acceptsChildren_of_outline {signature : Signature}
    (h : children'.map Token.outline = children.map Token.outline) (hc : SameCalls chain chain' children) :
    acceptsChildren chain' signature children' = acceptsChildren chain signature children := by
  suffices hfrom : ∀ n,
      (children'.zipIdx n).allM (fun child => acceptsChild chain' (signature.parameterKind child.2) child.1) =
        (children.zipIdx n).allM fun child => acceptsChild chain (signature.parameterKind child.2) child.1 from hfrom 0
  intro n
  induction children generalizing children' n with
  | nil =>
    rw [List.map_nil, List.map_eq_nil_iff] at h
    rw [h]
    rfl
  | cons t ts ih =>
    obtain ⟨t', ts', rfl, ht, hts⟩ := List.map_eq_cons_iff.1 h
    have hfirst : acceptsChild chain' (signature.parameterKind n) t' =
        acceptsChild chain (signature.parameterKind n) t :=
      acceptsChild_of_outline ht (fun name count he => hc name count (he ▸ List.mem_cons_self)) _
    have hrest := ih hts (fun name count hm => hc name count (List.mem_cons_of_mem _ hm)) (n + 1)
    rw [List.zipIdx_cons, List.zipIdx_cons, List.allM_cons, List.allM_cons, hrest]
    exact congrArg (· >>= _) hfirst

/-- Blocks with one head whose children look alike call the same function, where the functions are the same with the
names of the block and of its direct children. -/
theorem resolve_of_outline (h : children'.map Token.outline = children.map Token.outline)
    (hf : candidates chain' head = candidates chain head) (hc : SameCalls chain chain' children) :
    resolve chain' head children' = resolve chain head children := by
  have hl : children'.length = children.length := by
    simpa only [List.length_map] using congrArg List.length h
  simp only [resolve, functionsNamed_eq_candidates, hf, hl, acceptsChildren_of_outline h hc]

end Outline

/-! ## Resolution -/

section Resolution

/-- **A block calls the first visible function that takes its children**, fails where functions have its name of which
none admits their number, and calls nothing otherwise, unless a child overflows that a function is to receive before one
has been found. No function matters but those with its own name, the last registered first, and those with the names of
its direct children. -/
theorem resolve_firstMatch (chain : List Scope) (head : String) (children : List Token) :
    (∀ e, resolve chain head children = .error e ↔
      (e = .arity head children.length ∧ candidates chain head ≠ [] ∧
        ∀ f ∈ candidates chain head, f.signature.admits children.length = false) ∨
      (e = .overflow ∧ ∃ before f after, candidates chain head = before ++ f :: after ∧
        f.signature.Overflows chain children ∧ ∀ g ∈ before, g.signature.Passes chain children)) ∧
    (∀ f, resolve chain head children = .ok (some f) ↔
      ∃ before after, candidates chain head = before ++ f :: after ∧ f.signature.Takes chain children ∧
        ∀ g ∈ before, g.signature.Passes chain children) ∧
    (resolve chain head children = .ok none ↔
      (candidates chain head = [] ∨ ∃ f ∈ candidates chain head, f.signature.admits children.length = true) ∧
        ∀ f ∈ candidates chain head, f.signature.Passes chain children) ∧
    (∀ s parents, chain = s :: parents →
      candidates chain head = candidates [s] head ++ candidates parents head ∧
      ∀ f s', s.registerFunction f = (.ok (), s') → candidates (s' :: parents) head =
        if Text.sameFolded f.signature.name head then f :: candidates chain head else candidates chain head) ∧
    (∀ chain' children', children'.map Token.outline = children.map Token.outline →
      candidates chain' head = candidates chain head → SameCalls chain chain' children →
        resolve chain' head children' = resolve chain head children) := by
  refine ⟨fun _ => resolve_eq_error_iff, fun _ => resolve_eq_some_iff, resolve_eq_none_iff, ?_, ?_⟩
  · rintro s parents rfl
    exact ⟨candidates_cons, fun f s' => candidates_registerFunction⟩
  · exact fun chain' children' => resolve_of_outline

/-- A scope with one function more, under a name that is called further inside only. -/
def innerScope : Scope := { functions := [⟨{ name := "Next" }, .builtin (.control .noop)⟩] }

/-- The sum of strings stands in front of that of decimals and does not take a decimal. Neither what the name is nor a
function around it matters. -/
theorem resolve_firstMatch_sum :
    let children := [.decimal 2, .block "." [.string "X"]]
    let deeper := [.decimal 3, .block "." [.block "next" []]]
    deeper.map Token.outline = children.map Token.outline ∧
      candidates [innerScope, sumScope] "+" = candidates [sumScope] "+" ∧
      SameCalls [sumScope] [innerScope, sumScope] children ∧
      candidates [sumScope] "+" = [TextOperation.catalogue[1], Arithmetic.catalogue[0]] ∧
      resolve [sumScope] "+" children = .ok (some Arithmetic.catalogue[0]) ∧
      (∃ before after, candidates [sumScope] "+" = before ++ Arithmetic.catalogue[0] :: after ∧
        Arithmetic.catalogue[0].signature.Takes [sumScope] children ∧
          ∀ g ∈ before, g.signature.Passes [sumScope] children) ∧
      resolve [innerScope, sumScope] "+" deeper = resolve [sumScope] "+" children := by
  intro children deeper
  obtain ⟨-, hsome, -, -, hlocal⟩ := resolve_firstMatch [sumScope] "+" children
  have ho : deeper.map Token.outline = children.map Token.outline := by decide
  have hf : candidates [innerScope, sumScope] "+" = candidates [sumScope] "+" := by rfl
  have hc : SameCalls [sumScope] [innerScope, sumScope] children := by
    intro name count hm
    have ho : children.map Token.outline = [.atom Kind.decimal, .call "." 1] := by decide
    rw [ho, List.mem_cons, List.mem_singleton, Outline.call.injEq] at hm
    obtain h | ⟨rfl, -⟩ := hm
    · cases h
    · rfl
  have hr : resolve [sumScope] "+" children = .ok (some (Arithmetic.catalogue[0])) := by rfl
  exact ⟨ho, hf, hc, rfl, hr, (hsome _).1 hr, hlocal _ _ ho hf hc⟩

/-- A scope with the greatest whole number below a decimal. -/
def floorScope : Scope := { functions := [Arithmetic.catalogue[5]] }

/-- **A block can fail for another reason than the number of its children**: the look-ahead reads the argument of
`(floor (1e-9223372036854775808))` as a number, and its exponent has no magnitude. -/
theorem not_resolve_arity : ¬ ∀ (chain : List Scope) (head : String) (children : List Token) (e : Error),
    resolve chain head children = .error e → e = .arity head children.length := by
  intro h
  have hunknown : candidates [floorScope] "1e-9223372036854775808" = [] := by cbv
  have hknown : candidates [floorScope] "floor" = [Arithmetic.catalogue[5]] := by cbv
  have hunread : Kind.decimal.Overflows [floorScope] (.block "1e-9223372036854775808" []) :=
    .numeral _ (by decide) (by decide) hunknown Token.infer_leastExponent
  have hfloor : Arithmetic.catalogue[5].signature.Overflows [floorScope] [.block "1e-9223372036854775808" []] :=
    ⟨rfl, 0, _, rfl, hunread, fun j _ hj _ => absurd hj (Nat.not_lt_zero j)⟩
  have he := h [floorScope] "floor" _ .overflow
    (resolve_eq_error_iff.2 (.inr ⟨rfl, [], _, [], hknown, hfloor, List.forall_mem_nil _⟩))
  cases he

end Resolution

end RuleExpr
