import RuleExpr.Proofs.Builtin.Readable
import RuleExpr.Proofs.Reading.Image
import RuleExpr.Proofs.Scope
import RuleExpr.Proofs.Simulation.Invariant

/-!
# Evaluation keeps what is readable

Where all functions are built-ins, and what is bound and what templates are made of is readable (`Legible`), evaluation
of a readable token gives a readable value and leaves the scopes so (`reads_evaluate`). There is a lemma for each way in
which actions are put together (`Action.Reads`), then one for each function that evaluates or changes something, and the
statement follows by induction on the depth. Values that a program binds, takes out of a list or puts into a template
are no exception. What is read from a source is readable, so this is so after any sources that are evaluated one after
the other (`Interpreter.legible_evaluateSources`).
-/

namespace RuleExpr

open Token (Readable)

/-! ## Scopes -/

/-- What is bound in the scope is readable, and so are the bodies of its templates. -/
structure Scope.Readable (s : Scope) : Prop where
  binding : s.binding.Readable
  templates : ∀ template ∈ s.templates, template.body.Readable

/-- The functions of the scopes are built-ins, and what is in the scopes is readable. -/
structure Legible (chain : List Scope) : Prop where
  builtins : OnlyBuiltins chain
  readable : ∀ s ∈ chain, s.Readable

section Values

variable {chain parents : List Scope} {key : String} {path : List String} {value : Token} {s s' : Scope}

theorem readable_lookup (h : ∀ s ∈ chain, s.Readable) (hl : lookup chain key = some value) : value.Readable := by
  obtain ⟨s, hs, hv⟩ := List.exists_of_findSome?_eq_some hl
  exact Token.readable_child? (h s hs).binding hv

theorem readable_readSteps {walked : List String} {t : Token} (h : t.Readable) :
    Yields Readable (readSteps walked path t) := by
  induction path generalizing walked t with
  | nil => exact .ok h
  | cons segment path ih =>
    cases t with
    | map | list =>
      rw [readSteps]
      split
      · next c hc => exact ih (Token.readable_child? h hc)
      · exact .error _
    | _ => exact .error _

theorem readable_readPath (h : ∀ s ∈ chain, s.Readable) : Yields Readable (readPath chain path) := by
  cases path with
  | nil =>
    cases chain with
    | nil => exact .ok .null
    | cons s parents => exact .ok (h s List.mem_cons_self).binding
  | cons first path =>
    rw [readPath]
    split
    · next t ht => exact readable_readSteps (readable_lookup h ht)
    · exact .error _

namespace Scope

theorem readable_setAt (hv : value.Readable) (hs : s.Readable) : (s.setAt path value).2.Readable := by
  obtain ⟨b, hb, he⟩ | ⟨e, -, he⟩ := s.setAt_cases path value
  · rw [he]
    exact ⟨Token.readable_setAt hv hs.binding b hb, hs.templates⟩
  · rw [he]
    exact hs

theorem readable_inherit (hs : s.Readable) (hp : ∀ s ∈ parents, s.Readable) : (s.inherit parents key).2.Readable := by
  unfold inherit
  split
  · next hv => exact readable_setAt (readable_lookup hp hv) hs
  · exact hs

theorem readable_writePath (hv : value.Readable) (hs : s.Readable) (hp : ∀ s ∈ parents, s.Readable) :
    (s.writePath parents path value).2.Readable := by
  unfold writePath
  split
  · exact ⟨hv, hs.templates⟩
  · next first _ =>
    have hi : (s.inherit parents first).2.Readable := readable_inherit hs hp
    split
    · next he =>
      rw [he] at hi
      exact hi
    · next he =>
      rw [he] at hi
      exact readable_setAt hv hi

theorem readable_setTemplate {template : Template} (ht : template.body.Readable) (hs : s.Readable) :
    (s.setTemplate template).Readable := by
  refine ⟨hs.binding, fun t hm => ?_⟩
  rcases Registry.mem_upsert hm with hm | rfl
  · exact hs.templates t hm
  · exact ht

end Scope

namespace Legible

theorem head (h : Legible (s :: chain)) : s.Readable := h.readable s List.mem_cons_self

theorem tail (h : Legible (s :: chain)) : ∀ s ∈ chain, s.Readable :=
  fun s hs => h.readable s (List.mem_cons_of_mem _ hs)

/-- A change of what is in the scope, not of its functions. -/
theorem update (h : Legible (s :: chain)) (hs : s'.Readable) (hf : s'.functions = s.functions) :
    Legible (s' :: chain) :=
  ⟨h.builtins.of_functions_eq hf, List.forall_mem_cons.2 ⟨hs, h.tail⟩⟩

theorem newScope (h : Legible chain) : Legible ({} :: chain) := by
  refine ⟨h.builtins.newScope, List.forall_mem_cons.2 ⟨?_, h.readable⟩⟩
  exact ⟨.map (List.forall_mem_nil _), List.forall_mem_nil _⟩

theorem of_templatesNamed (h : Legible chain) : ∀ template ∈ templatesNamed chain key, template.body.Readable := by
  intro template ht
  obtain ⟨s, hs, hm⟩ := List.mem_flatMap.1 ht
  exact (h.readable s hs).templates template (List.mem_filter.1 hm).1

end Legible

end Values

/-! ## Actions -/

namespace Action

/-- In legible scopes, with a precision that is a word of 32 bits, the action gives values that satisfy `P`, and the
scopes are legible afterwards. -/
def Reads {α : Type} (P : α → Prop) (x : Action α) : Prop :=
  ∀ c s, c.config.divisionPrecision < 2 ^ 32 → Legible (s :: c.parents) →
    RuleExpr.Yields P (x c s).1 ∧ Legible ((x c s).2 :: c.parents)

namespace Reads

variable {α β : Type} {P : β → Prop} {Q : α → Prop} {x : Action α}

theorem ofExcept {r : Except Error β} (h : RuleExpr.Yields P r) : Reads P (Action.ofExcept r) :=
  fun _ _ _ hl => ⟨h, hl⟩

theorem pure {b : β} (h : P b) : Reads P (Pure.pure b) := ofExcept (.ok h)

theorem fail (e : Error) : Reads P (Action.fail e) := ofExcept (.error e)

theorem chain : Reads Legible Action.chain := fun _ _ _ hl => ⟨.ok hl, hl⟩

theorem config : Reads (fun config => config.divisionPrecision < 2 ^ 32) Action.config := fun _ _ hp hl => ⟨.ok hp, hl⟩

theorem bind {f : α → Action β} (hx : Reads Q x) (hf : ∀ a, Q a → Reads P (f a)) : Reads P (x >>= f) := by
  intro c s hp hl
  have hr := hx c s hp hl
  show RuleExpr.Yields P (Action.bind x f c s).1 ∧ Legible ((Action.bind x f c s).2 :: c.parents)
  unfold Action.bind
  revert hr
  generalize x c s = r
  obtain ⟨_ | a, s'⟩ := r
  · rintro ⟨-, hl'⟩
    exact ⟨.error _, hl'⟩
  · rintro ⟨ha, hl'⟩
    exact hf a (ha a rfl) c s' hp hl'

theorem attempt (hx : Reads Q x) : Reads (RuleExpr.Yields Q) (Action.attempt x) := by
  intro c s hp hl
  have hr := hx c s hp hl
  unfold Action.attempt
  revert hr
  generalize x c s = r
  obtain ⟨e | a, s'⟩ := r
  · rintro ⟨-, hl'⟩
    refine ⟨?_, hl'⟩
    dsimp only
    split
    · exact .error e
    · exact .ok (.error e)
  · rintro ⟨hy, hl'⟩
    exact ⟨.ok hy, hl'⟩

theorem within (signature : Signature) (hx : Reads Q x) : Reads Q (Action.within signature x) := by
  intro c s hp hl
  have hr := hx c s hp hl
  unfold Action.within
  revert hr
  generalize x c s = r
  obtain ⟨_ | a, s'⟩ := r
  · rintro ⟨-, hl'⟩
    exact ⟨.error _, hl'⟩
  · exact id

/-- What is done in a new scope is dropped. -/
theorem inScope (hx : Reads Q x) : Reads Q (Action.inScope x) := by
  intro c s hp hl
  exact ⟨(hx { c with parents := s :: c.parents } {} hp hl.newScope).1, hl⟩

theorem change {f : Scope → Except Error α × Scope}
    (h : ∀ s, s.Readable → (f s).2.Readable ∧ (f s).2.functions = s.functions) :
    Reads (fun _ => True) (Action.change f) := by
  intro c s _ hl
  obtain ⟨hr, hf⟩ := h s hl.head
  exact ⟨fun _ _ => trivial, hl.update hr hf⟩

theorem write {path : List String} {value : Token} (hv : value.Readable) :
    Reads (fun _ => True) (Action.write path value) := by
  intro c s _ hl
  exact ⟨fun _ _ => trivial, hl.update (s.readable_writePath hv hl.head hl.tail) Scope.functions_writePath⟩

theorem set {key : String} {value : Token} (hv : value.Readable) : Reads (fun _ => True) (Action.set key value) := by
  refine change fun s hs => ⟨s.readable_setAt hv hs, ?_⟩
  obtain ⟨b, hb⟩ := s.setAt_eq [key] value
  rw [hb]

end Reads

end Action

/-! ## Functions that evaluate -/

open RuleExpr.Action (Reads)

/-- Readable tokens evaluate to readable values. -/
def Evaluator.Reads (ev : Evaluator) : Prop := ∀ t, t.Readable → Action.Reads Readable (ev t)

variable {ev : Evaluator} {args ts : List Token}

namespace Evaluator

theorem reads_all (hev : ev.Reads) (hts : ∀ t ∈ ts, t.Readable) :
    Action.Reads (fun vs => ∀ v ∈ vs, v.Readable) (ev.all ts) := by
  induction ts with
  | nil => exact .pure (List.forall_mem_nil _)
  | cons t ts ih =>
    obtain ⟨ht, hts⟩ := List.forall_mem_cons.1 hts
    refine .bind (hev t ht) fun v hv => .bind (ih hts) fun vs hvs => .pure ?_
    exact List.forall_mem_cons.2 ⟨hv, hvs⟩

theorem reads_withValue (hev : ev.Reads) (name : String) {value body : Token} (hv : value.Readable)
    (hb : body.Readable) : Action.Reads Readable (ev.withValue name value body) :=
  .inScope (.bind (.set hv) fun _ _ => hev body hb)

end Evaluator

namespace Connective

theorem reads_allHold (hev : ev.Reads) (hts : ∀ t ∈ ts, t.Readable) : Reads (fun _ => True) (allHold ev ts) := by
  induction ts with
  | nil => exact .pure trivial
  | cons t ts ih =>
    obtain ⟨ht, hts⟩ := List.forall_mem_cons.1 hts
    refine .bind (hev t ht) fun v _ => ?_
    split
    · exact ih hts
    · exact .pure trivial

theorem reads_anyHolds (hev : ev.Reads) (hts : ∀ t ∈ ts, t.Readable) : Reads (fun _ => True) (anyHolds ev ts) := by
  induction ts with
  | nil => exact .pure trivial
  | cons t ts ih =>
    obtain ⟨ht, hts⟩ := List.forall_mem_cons.1 hts
    refine .bind (hev t ht) fun v _ => ?_
    split
    · exact .pure trivial
    · exact ih hts

theorem reads_run (hev : ev.Reads) (op : Connective) (ha : ∀ a ∈ args, a.Readable) :
    Reads Readable (op.run ev args) := by
  cases op with
  | all => exact .bind (reads_allHold hev ha) fun b _ => .pure (.boolean b)
  | any => exact .bind (reads_anyHolds hev ha) fun b _ => .pure (.boolean b)

end Connective

theorem readable_lambda {function : String} {l : Token} (h : l.Readable) :
    Yields (fun p => p.2.Readable) (lambda function l) := by
  refine mem_of_lambda.mono fun p hp => ?_
  obtain ⟨head, children, rfl, hbody⟩ := hp
  exact h.of_block _ hbody

namespace Iterator

variable {name function : String} {body : Token}

theorem readable_loop (ha : ∀ a ∈ args, a.Readable) :
    Yields (fun p => (∀ t ∈ p.1, t.Readable) ∧ p.2.2.Readable) (loop function args) := by
  have hfirst : (args.headD .null).Readable := by
    rw [List.headD_eq_head?_getD]
    exact .getD fun t ht => ha t (List.mem_of_head? ht)
  refine .bind_of (Arguments.readable_of_list hfirst) fun items hi => ?_
  split
  · exact .ok ⟨hi, ha _ (by simp)⟩
  · exact .bind_of (readable_lambda (ha _ (by simp))) fun p hp => .ok ⟨hi, hp⟩
  · exact .error _

theorem reads_mapItems (hev : ev.Reads) (hb : body.Readable) (hts : ∀ t ∈ ts, t.Readable) :
    Reads (fun vs => ∀ v ∈ vs, v.Readable) (mapItems ev name body ts) := by
  induction ts with
  | nil => exact .pure (List.forall_mem_nil _)
  | cons t ts ih =>
    obtain ⟨ht, hts⟩ := List.forall_mem_cons.1 hts
    refine .bind (Evaluator.reads_withValue hev name ht hb) fun v hv => .bind (ih hts) fun vs hvs => .pure ?_
    exact List.forall_mem_cons.2 ⟨hv, hvs⟩

theorem reads_anyItem (hev : ev.Reads) (hb : body.Readable) (hts : ∀ t ∈ ts, t.Readable) :
    Reads (fun _ => True) (anyItem ev name body ts) := by
  induction ts with
  | nil => exact .pure trivial
  | cons t ts ih =>
    obtain ⟨ht, hts⟩ := List.forall_mem_cons.1 hts
    refine .bind (Evaluator.reads_withValue hev name ht hb) fun v _ => ?_
    split
    · exact .pure trivial
    · exact ih hts

theorem reads_everyItem (hev : ev.Reads) (hb : body.Readable) (hts : ∀ t ∈ ts, t.Readable) :
    Reads (fun _ => True) (everyItem ev name body ts) := by
  induction ts with
  | nil => exact .pure trivial
  | cons t ts ih =>
    obtain ⟨ht, hts⟩ := List.forall_mem_cons.1 hts
    refine .bind (Evaluator.reads_withValue hev name ht hb) fun v _ => ?_
    split
    · exact ih hts
    · exact .pure trivial

/-- The decimals that are added have no more places than are counted, so their sum has not either. -/
theorem reads_sumItems (hev : ev.Reads) (hb : body.Readable) {acc : Decimal} (hacc : acc.scale < 2 ^ 32)
    (hts : ∀ t ∈ ts, t.Readable) : Reads (fun d => d.scale < 2 ^ 32) (sumItems ev name body acc ts) := by
  induction ts generalizing acc with
  | nil => exact .pure hacc
  | cons t ts ih =>
    obtain ⟨ht, hts⟩ := List.forall_mem_cons.1 hts
    refine .bind (Evaluator.reads_withValue hev name ht hb) fun v hv => ?_
    refine .bind (.ofExcept (Arguments.scale_lt_of_decimal hv)) fun d hd => ih ?_ hts
    exact Nat.lt_of_le_of_lt (acc.scale_add_le d) (Nat.max_lt.2 ⟨hacc, hd⟩)

theorem reads_keyItems (hev : ev.Reads) (hb : body.Readable) {kind : Kind} (hts : ∀ t ∈ ts, t.Readable) :
    Reads (fun keyed => ∀ p ∈ keyed, p.2.Readable) (keyItems ev name body function kind ts) := by
  induction ts with
  | nil => exact .pure (List.forall_mem_nil _)
  | cons t ts ih =>
    obtain ⟨ht, hts⟩ := List.forall_mem_cons.1 hts
    refine .bind (Evaluator.reads_withValue hev name ht hb) fun key _ => ?_
    split
    · refine .bind (ih hts) fun rest hrest => .pure ?_
      exact List.forall_mem_cons.2 ⟨ht, hrest⟩
    · exact .fail _

theorem readable_sortKeyed {keyed : List (Token × Token)} (h : ∀ p ∈ keyed, p.2.Readable) :
    Readable (.list (sortKeyed keyed)) := by
  apply Readable.list
  intro t ht
  obtain ⟨p, hp, rfl⟩ := List.mem_map.1 ht
  exact h p ((List.mergeSort_perm _ _).mem_iff.1 hp)

theorem reads_sortBy (hev : ev.Reads) {kind : Kind} (ha : ∀ a ∈ args, a.Readable) :
    Reads Readable (sortBy ev function kind args) := by
  refine .bind (.ofExcept (readable_loop ha)) fun (items, name, body) ⟨hi, hb⟩ => ?_
  exact .bind (reads_keyItems hev hb hi) fun keyed hkeyed => .pure (readable_sortKeyed hkeyed)

theorem reads_run (hev : ev.Reads) (op : Iterator) (ha : ∀ a ∈ args, a.Readable) : Reads Readable (op.run ev args) := by
  cases op with
  | map =>
    refine .bind (.ofExcept (readable_loop ha)) fun (items, name, body) ⟨hi, hb⟩ => ?_
    exact .bind (reads_mapItems hev hb hi) fun vs hvs => .pure (.list hvs)
  | anyOf =>
    refine .bind (.ofExcept (readable_loop ha)) fun (items, name, body) ⟨hi, hb⟩ => ?_
    exact .bind (reads_anyItem hev hb hi) fun b _ => .pure (.boolean b)
  | every =>
    refine .bind (.ofExcept (readable_loop ha)) fun (items, name, body) ⟨hi, hb⟩ => ?_
    exact .bind (reads_everyItem hev hb hi) fun b _ => .pure (.boolean b)
  | sum =>
    refine .bind (.ofExcept (readable_loop ha)) fun (items, name, body) ⟨hi, hb⟩ => ?_
    exact .bind (reads_sumItems hev hb (Decimal.scale_ofInt_lt 0) hi) fun d hd => .pure (.decimal hd)
  | sortByNumber => exact reads_sortBy hev ha
  | sortByString => exact reads_sortBy hev ha

end Iterator

namespace KeyValues

theorem readable_pairValue {vs : List Token} (h : ∀ v ∈ vs, v.Readable) : (pairValue vs).Readable := by
  unfold pairValue
  split
  · exact .null
  · exact h _ List.mem_cons_self
  · exact .list h

theorem readable_of_pair? {chain : List Scope} {arg : Token} {key : String} {children : List Token}
    (h : pair? chain arg = .ok (some (key, children))) (ha : arg.Readable) : ∀ t ∈ children, t.Readable := by
  rw [eq_of_pair? h] at ha
  exact ha.of_block

theorem reads_addEntries (hev : ev.Reads) : ∀ {args : List Token} {m : Entries Token}, (∀ a ∈ args, a.Readable) →
    (∀ e ∈ m, e.2.Readable) → Reads (fun m => ∀ e ∈ m, e.2.Readable) (addEntries ev m args)
  | [], _, _, hm => .pure hm
  | arg :: args, m, ha, hm => by
    obtain ⟨harg, hargs⟩ := List.forall_mem_cons.1 ha
    rw [addEntries.eq_def]
    refine .bind .chain fun chain _ => ?_
    refine .bind (Q := fun pair => pair? chain arg = .ok pair) (.ofExcept fun _ hp => hp) fun pair hp => ?_
    cases pair with
    | some pair =>
      refine .bind (Evaluator.reads_all hev (readable_of_pair? hp harg)) fun values hvalues => ?_
      exact reads_addEntries hev hargs (Token.readable_insert hm (readable_pairValue hvalues))
    | none =>
      refine .bind (hev arg harg) fun key _ => ?_
      cases args with
      | nil => exact .fail _
      | cons value args =>
        obtain ⟨hvalue, hargs⟩ := List.forall_mem_cons.1 hargs
        refine .bind (hev value hvalue) fun v hv => ?_
        exact reads_addEntries hev hargs (Token.readable_insert hm hv)

theorem reads_run (hev : ev.Reads) (ha : ∀ a ∈ args, a.Readable) : Reads Readable (run ev args) :=
  .bind (reads_addEntries hev ha (List.forall_mem_nil _)) fun _ hm => .pure (.map hm)

end KeyValues

namespace BindingOperation

theorem reads_valueOr (hev : ev.Reads) (ha : ∀ a ∈ args, a.Readable) : Reads Readable (valueOr ev args) := by
  refine .bind (.ofExcept Arguments.eq_of_two) fun (default, path) hargs => ?_
  subst hargs
  refine .bind (.attempt (hev path (ha path (by simp)))) fun r hr => ?_
  cases r with
  | ok v => exact .pure (hr v rfl)
  | error e =>
    dsimp only
    split
    · exact .pure (ha default (by simp))
    · exact .fail e

theorem reads_putAt (ha : ∀ a ∈ args, a.Readable) : Reads Readable (putAt args) := by
  have hvalue : (args.getLastD .null).Readable := by
    rw [List.getLastD_eq_getLast?]
    exact .getD fun t ht => ha t (List.mem_of_getLast? ht)
  refine .bind (Q := fun _ => True) (.ofExcept fun _ _ => trivial) fun _ _ => ?_
  exact .bind (.write hvalue) fun _ _ => .pure hvalue

theorem reads_run (hev : ev.Reads) (op : BindingOperation) (ha : ∀ a ∈ args, a.Readable) :
    Reads Readable (op.run ev args) := by
  cases op with
  | read => exact .bind .chain fun chain hl => .ofExcept (readable_readPath hl.readable)
  | write => exact reads_putAt ha
  | readOr => exact reads_valueOr hev ha

end BindingOperation

namespace Control

theorem reads_evaluateOr (hev : ev.Reads) (ha : ∀ a ∈ args, a.Readable) : Reads Readable (evaluateOr ev args) := by
  refine .bind (.ofExcept Arguments.eq_of_two) fun (fallback, attempted) hargs => ?_
  subst hargs
  refine .bind (.attempt (hev attempted (ha attempted (by simp)))) fun r hr => ?_
  cases r with
  | ok v => exact .pure (hr v rfl)
  | error e => exact hev fallback (ha fallback (by simp))

theorem reads_evaluateWith (hev : ev.Reads) (ha : ∀ a ∈ args, a.Readable) : Reads Readable (evaluateWith ev args) := by
  refine .bind (.ofExcept Arguments.eq_of_three) fun (value, name, body) hargs => ?_
  subst hargs
  exact Evaluator.reads_withValue hev name.text (ha value (by simp)) (ha body (by simp))

theorem reads_evaluateLambda (hev : ev.Reads) (ha : ∀ a ∈ args, a.Readable) :
    Reads Readable (evaluateLambda ev args) := by
  refine .bind (.ofExcept Arguments.eq_of_two) fun (value, l) hargs => ?_
  subst hargs
  refine .bind (.ofExcept (readable_lambda (ha l (by simp)))) fun (name, body) hb => ?_
  exact Evaluator.reads_withValue hev name (ha value (by simp)) hb

theorem readable_resolveTemplate {chain : List Scope} (h : Legible chain) (name : String) :
    Yields (fun template => template.body.Readable) (resolveTemplate chain name args) := by
  unfold resolveTemplate
  split
  · exact .error _
  · next he => exact .ok (h.of_templatesNamed _ (mem_of_select he))
  · exact .error _

theorem reads_instantiated (ha : ∀ a ∈ args, a.Readable) : Reads Readable (instantiated args) := by
  have htail : ∀ a ∈ args.tail, a.Readable := fun a h => ha a (List.mem_of_mem_tail h)
  refine .bind (Q := fun _ => True) (.ofExcept fun _ _ => trivial) fun _ _ => ?_
  refine .bind (Q := fun _ => True) (.ofExcept fun _ _ => trivial) fun name _ => ?_
  refine .bind .chain fun chain hl => ?_
  refine .bind (.ofExcept (readable_resolveTemplate hl name)) fun template ht => ?_
  exact .ofExcept (Template.readable_instantiate htail ht)

theorem reads_putTemplate (ha : ∀ a ∈ args, a.Readable) : Reads Readable (putTemplate args) := by
  refine .bind (.ofExcept Arguments.eq_of_two) fun (name, body) hargs => ?_
  subst hargs
  refine .bind (Q := fun _ => True) (.ofExcept fun _ _ => trivial) fun text _ => ?_
  refine .bind (Q := fun _ => True) (.ofExcept fun _ _ => trivial) fun signature _ => ?_
  refine .bind (.change fun s hs => ?_) fun _ _ => .pure .null
  exact ⟨Scope.readable_setTemplate (ha body (by simp)) hs, rfl⟩

theorem reads_run (hev : ev.Reads) (op : Control) (ha : ∀ a ∈ args, a.Readable) : Reads Readable (op.run ev args) := by
  cases op with
  | noop => exact .pure .null
  | toString => exact .bind (.ofExcept Arguments.mem_of_one) fun a _ => .pure (.string a.text)
  | not => exact .bind (.ofExcept Arguments.mem_of_one) fun a _ => .pure (.boolean !a.isTruthy)
  | identity => exact .ofExcept (Arguments.mem_of_one.mono ha)
  | panic => exact .fail _
  | recover => exact reads_evaluateOr hev ha
  | inScope => exact .bind (.ofExcept Arguments.mem_of_one) fun body hb => .inScope (hev body (ha body hb))
  | bind => exact reads_evaluateWith hev ha
  | bindLambda => exact reads_evaluateLambda hev ha
  | instantiate => exact reads_instantiated ha
  | setTemplate => exact reads_putTemplate ha

end Control

/-- **Every built-in gives readable values for readable arguments.** -/
theorem Builtin.reads_run (hev : ev.Reads) (op : Builtin) (ha : ∀ a ∈ args, a.Readable) :
    Reads Readable (op.run ev args) := by
  cases op with
  | arithmetic op => exact .bind .config fun config hp => .ofExcept (Arithmetic.readable_run hp op ha)
  | comparison op => exact .ofExcept (Comparison.readable_run op)
  | connective op => exact op.reads_run hev ha
  | list op => exact .ofExcept (op.readable_run ha)
  | iterator op => exact op.reads_run hev ha
  | keyValues => exact KeyValues.reads_run hev ha
  | text op => exact .ofExcept (TextOperation.readable_run op)
  | time op => exact .ofExcept (TimeOperation.readable_run op ha)
  | binding op => exact op.reads_run hev ha
  | control op => exact op.reads_run hev ha

/-! ## Evaluation -/

section Evaluation

variable {signature : Signature} {head : String} {children : List Token}

theorem reads_evaluateArguments (hev : ev.Reads) (hts : ∀ t ∈ ts, t.Readable) (i : Nat) :
    Reads (fun vs => ∀ v ∈ vs, v.Readable) (evaluateArguments ev signature i ts) := by
  induction ts generalizing i with
  | nil => exact .pure (List.forall_mem_nil _)
  | cons t ts ih =>
    obtain ⟨ht, hts⟩ := List.forall_mem_cons.1 hts
    have hfirst : Reads Readable (evaluateArgument ev signature i t) := by
      unfold evaluateArgument
      split
      · exact .pure ht
      · exact .within signature (hev t ht)
    rw [evaluateArguments_cons]
    refine .bind hfirst fun v hv => .bind (ih hts (i + 1)) fun vs hvs => .pure ?_
    exact List.forall_mem_cons.2 ⟨hv, hvs⟩

/-- A call that is ready is of a built-in, with readable arguments. -/
theorem reads_prepare (hev : ev.Reads) (hts : ∀ t ∈ children, t.Readable) :
    Reads (fun r => ∀ call, r = some call → call.function ∈ catalogue ∧ ∀ a ∈ call.args, a.Readable)
      (prepare ev head children) := by
  refine .bind .chain fun chain hl => ?_
  refine .bind (Q := fun r => resolve chain head children = .ok r) (.ofExcept fun _ hr => hr) fun r hr => ?_
  cases r with
  | none => exact .pure fun call h => by cases h
  | some f =>
    have hf := mem_catalogue_of_admitted hl.builtins (mem_admitted_of_resolve hr).1
    refine .bind (reads_evaluateArguments hev hts 0) fun args hargs => ?_
    split
    · refine .pure fun call h => ?_
      cases h
      exact ⟨hf, hargs⟩
    · -- the arguments may have changed the scopes, but in these too there are built-ins only
      refine .bind .chain fun chain₁ hl₁ => ?_
      refine .bind (Q := fun g => redispatch chain₁ head args = .ok g) (.ofExcept fun _ hg => hg) fun g hg => ?_
      have hg := mem_catalogue_of_admitted hl₁.builtins (List.mem_of_find?_eq_some (redispatch_eq_ok.1 hg))
      refine .pure fun call h => ?_
      cases h
      exact ⟨hg, hargs⟩

theorem Call.reads_run (hev : ev.Reads) {call : Call} (hf : call.function ∈ catalogue)
    (ha : ∀ a ∈ call.args, a.Readable) : Reads Readable (call.run ev) := by
  -- what declares its result in the catalogue is not of the host
  have hd := declaresResult_of_mem_catalogue _ hf
  have hbody : Reads Readable (call.function.body.run ev call.args) := by
    unfold Function.declaresResult at hd
    split at hd
    · next op he =>
      rw [he]
      exact op.reads_run hev ha
    · cases hd
  refine .bind (.within _ hbody) fun v hv => ?_
  split
  · exact hev v hv
  · exact .pure hv

theorem reads_evaluateSequence (hev : ev.Reads) {last : Token} (hlast : last.Readable)
    (hts : ∀ t ∈ ts, t.Readable) : Reads Readable (evaluateSequence ev last ts) := by
  induction ts generalizing last with
  | nil => exact .pure hlast
  | cons t ts ih =>
    obtain ⟨ht, hts⟩ := List.forall_mem_cons.1 hts
    exact .bind (hev t ht) fun v hv => ih hv hts

theorem reads_evaluateBlock (hev : ev.Reads) (hts : ∀ t ∈ children, t.Readable) :
    Reads Readable (evaluateBlock ev head children) := by
  unfold evaluateBlock
  split
  · split
    · exact .pure (.block hts)
    · exact reads_evaluateSequence hev .null hts
  · refine .bind (reads_prepare hev hts) fun r hr => ?_
    cases r with
    | some call =>
      obtain ⟨hf, ha⟩ := hr call rfl
      exact call.reads_run hev hf ha
    | none =>
      dsimp only
      split
      · exact .ofExcept (.infer head)
      · exact .pure (.block hts)

/-- **Readable tokens evaluate to readable values**, by induction on the depth. -/
theorem reads_evaluate (depth : Nat) : Evaluator.Reads (evaluate depth) := by
  induction depth with
  | zero =>
    intro t ht
    cases t with
    | block => exact .bind .config fun _ _ => .fail _
    | _ => exact .pure ht
  | succ depth ih =>
    intro t ht
    cases t with
    | block head children => exact reads_evaluateBlock ih ht.of_block
    | _ => exact .pure ht

/-- A request gives the value of the token, in a dry run the token itself. -/
theorem reads_request (depth : Nat) {t : Token} (ht : t.Readable) :
    Reads Readable (Evaluator.request (evaluate depth) t) := by
  refine .bind .config fun config _ => ?_
  split
  · refine .bind .chain fun chain _ => ?_
    exact .bind (Q := fun _ => True) (.ofExcept fun _ _ => trivial) fun _ _ => .pure ht
  · exact reads_evaluate depth t ht

end Evaluation

/-! ## Sources -/

namespace Token

variable {t : Token}

theorem Normal.readable {ok : String → Prop} (h : t.Normal ok) : t.Readable := by
  induction h with
  | decimal hd => exact .decimal hd
  | string _ => exact .string _
  | boolean b => exact .boolean b
  | time ht => exact .time (Timestamp.printable_iff.1 ht).1
  | call _ _ ih => exact .block ih
  | group _ _ ih => exact .block ih

/-- What is read from a source is readable. -/
theorem readable_read (source : String) : Yields Readable (read source) := by
  intro t h
  rcases normal_of_read h with rfl | ⟨-, hn⟩
  · exact .block (List.forall_mem_nil _)
  · exact hn.readable

end Token

namespace Interpreter

variable {i : Interpreter}

theorem reads_evaluate (hl : Legible i.chain) (hp : i.config.divisionPrecision < 2 ^ 32) {t : Token}
    (ht : t.Readable) : Yields Readable (i.evaluate t).1 ∧ Legible (i.evaluate t).2.chain :=
  reads_request i.config.maxDepth ht ⟨i.config, i.parents⟩ i.scope hp hl

theorem reads_evaluateSource (hl : Legible i.chain) (hp : i.config.divisionPrecision < 2 ^ 32) (source : String) :
    Yields Readable (i.evaluateSource source).1 ∧ Legible (i.evaluateSource source).2.chain := by
  unfold evaluateSource
  split
  · exact ⟨.error _, hl⟩
  · next t ht => exact reads_evaluate hl hp (Token.readable_read source t ht)

theorem config_evaluateSource (source : String) : (i.evaluateSource source).2.config = i.config := by
  unfold evaluateSource
  split <;> rfl

/-- **Whatever sources are evaluated one after the other, what is in the scopes stays readable.** -/
theorem legible_evaluateSources (hl : Legible i.chain) (hp : i.config.divisionPrecision < 2 ^ 32)
    (sources : List String) : Legible (sources.foldl (fun i source => (i.evaluateSource source).2) i).chain := by
  induction sources generalizing i with
  | nil => exact hl
  | cons source sources ih =>
    refine ih (reads_evaluateSource hl hp source).2 ?_
    rw [config_evaluateSource]
    exact hp

end Interpreter

end RuleExpr
