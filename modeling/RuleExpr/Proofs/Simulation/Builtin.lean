import RuleExpr.Proofs.Builtin.Quoting
import RuleExpr.Proofs.Simulation.Basic
import RuleExpr.Proofs.Token.Path

/-!
# The built-in functions in two runs

With evaluators that give the same values of programs, a built-in does the same in both runs (`relates_run`). It gives a
program if it declares so, and a value otherwise. What it evaluates is a program: an argument that it quotes, or the
body of an argument of the form `((name) body)`. What it binds or passes on are values: arguments that it does not
quote, elements of lists, and results of evaluation.
-/

namespace RuleExpr

open Token (Data Tree)

variable {ι : Type} {S : Simulation ι} {ev ev' : Evaluator} {args ts : List Token}

theorem Evaluator.relates_all (hev : S.Evaluates ev ev') (hts : ∀ t ∈ ts, S.Tree t) :
    S.Relates (fun vs => ∀ v ∈ vs, S.Data v) (ev.all ts) (ev'.all ts) := by
  induction ts with
  | nil => exact .pure (List.forall_mem_nil _)
  | cons t ts ih =>
    obtain ⟨ht, hts⟩ := List.forall_mem_cons.1 hts
    refine .bind (hev t ht) fun v hv => .bind (ih hts) fun vs hvs => .pure ?_
    exact List.forall_mem_cons.2 ⟨hv, hvs⟩

namespace Connective

theorem relates_allHold (hev : S.Evaluates ev ev') (hts : ∀ t ∈ ts, S.Tree t) :
    S.Relates (fun _ => True) (allHold ev ts) (allHold ev' ts) := by
  induction ts with
  | nil => exact .pure trivial
  | cons t ts ih =>
    obtain ⟨ht, hts⟩ := List.forall_mem_cons.1 hts
    refine .bind (hev t ht) fun v _ => ?_
    split
    · exact ih hts
    · exact .pure trivial

theorem relates_anyHolds (hev : S.Evaluates ev ev') (hts : ∀ t ∈ ts, S.Tree t) :
    S.Relates (fun _ => True) (anyHolds ev ts) (anyHolds ev' ts) := by
  induction ts with
  | nil => exact .pure trivial
  | cons t ts ih =>
    obtain ⟨ht, hts⟩ := List.forall_mem_cons.1 hts
    refine .bind (hev t ht) fun v _ => ?_
    split
    · exact .pure trivial
    · exact ih hts

theorem relates_run (hev : S.Evaluates ev ev') (op : Connective) (ha : ∀ a ∈ args, S.Tree a) :
    S.Relates S.Data (op.run ev args) (op.run ev' args) := by
  cases op with
  | all => exact .bind (relates_allHold hev ha) fun b _ => .pure (.boolean b)
  | any => exact .bind (relates_anyHolds hev ha) fun b _ => .pure (.boolean b)

end Connective

/-! ## Loops -/

section Loops

variable {call : String → Nat → Prop} {held : String → List Token → Prop} {function : String}

theorem tree_lambda {l : Token} (h : Tree call held l) : Yields (fun p => Tree call held p.2) (lambda function l) := by
  refine mem_of_lambda.mono fun p hp => ?_
  obtain ⟨head, children, rfl, hbody⟩ := hp
  exact h.of_block _ hbody

/-- The elements of a loop are values, its body is a program. -/
theorem Iterator.yields_loop (ha : ∀ a ∈ args, Tree call held a) :
    Yields (fun p => (∀ t ∈ p.1, Data held t) ∧ Tree call held p.2.2) (loop function args) := by
  refine .bind_of Arguments.eq_of_list fun items hitems => ?_
  have hlist : Data held (.list items) := by
    cases args with
    | nil => cases hitems
    | cons a args =>
      change a = .list items at hitems
      subst hitems
      exact (ha _ List.mem_cons_self).data rfl
  split
  · exact .ok ⟨hlist.of_list, ha _ (by simp)⟩
  · exact .bind_of (tree_lambda (ha _ (by simp))) fun p hp => .ok ⟨hlist.of_list, hp⟩
  · exact .error _

end Loops

namespace Iterator

variable {name : String} {body : Token}

theorem relates_mapItems (hev : S.Evaluates ev ev') (hb : S.Tree body) (hts : ∀ t ∈ ts, S.Data t) :
    S.Relates (fun vs => ∀ v ∈ vs, S.Data v) (mapItems ev name body ts) (mapItems ev' name body ts) := by
  induction ts with
  | nil => exact .pure (List.forall_mem_nil _)
  | cons t ts ih =>
    obtain ⟨ht, hts⟩ := List.forall_mem_cons.1 hts
    refine .bind (.withValue hev name ht hb) fun v hv => .bind (ih hts) fun vs hvs => .pure ?_
    exact List.forall_mem_cons.2 ⟨hv, hvs⟩

theorem relates_anyItem (hev : S.Evaluates ev ev') (hb : S.Tree body) (hts : ∀ t ∈ ts, S.Data t) :
    S.Relates (fun _ => True) (anyItem ev name body ts) (anyItem ev' name body ts) := by
  induction ts with
  | nil => exact .pure trivial
  | cons t ts ih =>
    obtain ⟨ht, hts⟩ := List.forall_mem_cons.1 hts
    refine .bind (.withValue hev name ht hb) fun v _ => ?_
    split
    · exact .pure trivial
    · exact ih hts

theorem relates_everyItem (hev : S.Evaluates ev ev') (hb : S.Tree body) (hts : ∀ t ∈ ts, S.Data t) :
    S.Relates (fun _ => True) (everyItem ev name body ts) (everyItem ev' name body ts) := by
  induction ts with
  | nil => exact .pure trivial
  | cons t ts ih =>
    obtain ⟨ht, hts⟩ := List.forall_mem_cons.1 hts
    refine .bind (.withValue hev name ht hb) fun v _ => ?_
    split
    · exact ih hts
    · exact .pure trivial

theorem relates_sumItems (hev : S.Evaluates ev ev') (hb : S.Tree body) (acc : Decimal) (hts : ∀ t ∈ ts, S.Data t) :
    S.Relates (fun _ => True) (sumItems ev name body acc ts) (sumItems ev' name body acc ts) := by
  induction ts generalizing acc with
  | nil => exact .pure trivial
  | cons t ts ih =>
    obtain ⟨ht, hts⟩ := List.forall_mem_cons.1 hts
    refine .bind (.withValue hev name ht hb) fun v _ => ?_
    exact .bind (.ofExcept (P := fun _ => True) fun _ _ => trivial) fun d _ => ih (acc.add d) hts

theorem relates_keyItems (hev : S.Evaluates ev ev') (hb : S.Tree body) {function : String} {kind : Kind}
    (hts : ∀ t ∈ ts, S.Data t) :
    S.Relates (fun keyed => ∀ p ∈ keyed, S.Data p.2) (keyItems ev name body function kind ts)
      (keyItems ev' name body function kind ts) := by
  induction ts with
  | nil => exact .pure (List.forall_mem_nil _)
  | cons t ts ih =>
    obtain ⟨ht, hts⟩ := List.forall_mem_cons.1 hts
    refine .bind (.withValue hev name ht hb) fun key _ => ?_
    split
    · refine .bind (ih hts) fun rest hrest => .pure ?_
      exact List.forall_mem_cons.2 ⟨ht, hrest⟩
    · exact .fail _

/-- Sorted by their keys, the elements are the same. -/
theorem data_sortKeyed {held : String → List Token → Prop} {keyed : List (Token × Token)}
    (h : ∀ p ∈ keyed, Data held p.2) : Data held (.list (sortKeyed keyed)) := by
  apply Data.list
  intro t ht
  obtain ⟨p, hp, rfl⟩ := List.mem_map.1 ht
  exact h p ((List.mergeSort_perm _ _).mem_iff.1 hp)

theorem relates_sortBy (hev : S.Evaluates ev ev') {function : String} {kind : Kind} (ha : ∀ a ∈ args, S.Tree a) :
    S.Relates S.Data (sortBy ev function kind args) (sortBy ev' function kind args) := by
  refine .bind (.ofExcept (yields_loop ha)) fun (items, name, body) ⟨hi, hb⟩ => ?_
  exact .bind (relates_keyItems hev hb hi) fun keyed hkeyed => .pure (data_sortKeyed hkeyed)

theorem relates_run (hev : S.Evaluates ev ev') (op : Iterator) (ha : ∀ a ∈ args, S.Tree a) :
    S.Relates S.Data (op.run ev args) (op.run ev' args) := by
  cases op with
  | map =>
    refine .bind (.ofExcept (yields_loop ha)) fun (items, name, body) ⟨hi, hb⟩ => ?_
    exact .bind (relates_mapItems hev hb hi) fun vs hvs => .pure (.list hvs)
  | anyOf =>
    refine .bind (.ofExcept (yields_loop ha)) fun (items, name, body) ⟨hi, hb⟩ => ?_
    exact .bind (relates_anyItem hev hb hi) fun b _ => .pure (.boolean b)
  | every =>
    refine .bind (.ofExcept (yields_loop ha)) fun (items, name, body) ⟨hi, hb⟩ => ?_
    exact .bind (relates_everyItem hev hb hi) fun b _ => .pure (.boolean b)
  | sum =>
    refine .bind (.ofExcept (yields_loop ha)) fun (items, name, body) ⟨hi, hb⟩ => ?_
    exact .bind (relates_sumItems hev hb 0 hi) fun d _ => .pure (.decimal d)
  | sortByNumber => exact relates_sortBy hev ha
  | sortByString => exact relates_sortBy hev ha

end Iterator

/-! ## Maps, bindings and control -/

namespace KeyValues

theorem data_pairValue {held : String → List Token → Prop} {vs : List Token} (h : ∀ v ∈ vs, Data held v) :
    Data held (pairValue vs) := by
  unfold pairValue
  split
  · exact .null
  · exact h _ List.mem_cons_self
  · exact .list h

/-- The same arguments are pairs in both runs. -/
theorem pair?_congr {chain chain' : List Scope} (hc : S.Sees chain chain') {arg : Token} (ha : S.Tree arg) :
    pair? chain' arg = pair? chain arg := by
  cases arg with
  | block head children => simp only [pair?, hc.alike.resolve ha]
  | _ => rfl

theorem tree_of_pair? {chain : List Scope} {arg : Token} {key : String} {children : List Token}
    (h : pair? chain arg = .ok (some (key, children))) (ha : S.Tree arg) : ∀ t ∈ children, S.Tree t := by
  rw [eq_of_pair? h] at ha
  exact ha.of_block

theorem relates_addEntries (hev : S.Evaluates ev ev') : ∀ {args : List Token} {m : Entries Token},
    (∀ a ∈ args, S.Tree a) → (∀ e ∈ m, S.Data e.2) →
      S.Relates (fun m => ∀ e ∈ m, S.Data e.2) (addEntries ev m args) (addEntries ev' m args)
  | [], _, _, hm => .pure hm
  | arg :: args, m, ha, hm => by
    obtain ⟨harg, hargs⟩ := List.forall_mem_cons.1 ha
    rw [addEntries.eq_def, addEntries.eq_def]
    refine .chain fun {chain chain'} hc => ?_
    simp only [pair?_congr hc harg]
    refine .bind (Q := fun pair => pair? chain arg = .ok pair) (.ofExcept fun _ hp => hp) fun pair hp => ?_
    cases pair with
    | some pair =>
      refine .bind (Evaluator.relates_all hev (tree_of_pair? hp harg)) fun values hvalues => ?_
      exact relates_addEntries hev hargs (Token.data_insert hm (data_pairValue hvalues))
    | none =>
      refine .bind (hev arg harg) fun key _ => ?_
      cases args with
      | nil => exact .fail _
      | cons value args =>
        obtain ⟨hvalue, hargs⟩ := List.forall_mem_cons.1 hargs
        refine .bind (hev value hvalue) fun v hv => ?_
        exact relates_addEntries hev hargs (Token.data_insert hm hv)

theorem relates_run (hev : S.Evaluates ev ev') (ha : ∀ a ∈ args, S.Tree a) :
    S.Relates S.Data (run ev args) (run ev' args) :=
  .bind (relates_addEntries hev ha (List.forall_mem_nil _)) fun _ hm => .pure (.map hm)

end KeyValues

namespace BindingOperation

theorem relates_valueAt (hc : S.call "." args.length) : S.Relates S.Data (valueAt args) (valueAt args) := by
  rw [← List.length_map (f := Token.text)] at hc
  refine .chain fun {chain chain'} hs => ?_
  cases hs with
  | of_state h =>
    obtain ⟨he, hy⟩ := S.read h hc
    rw [he]
    exact .ofExcept hy

theorem relates_write {path : List String} {value : Token} {count : Nat} (hc : S.call "set" count) (hp : path ≠ [])
    (hv : S.Data value) : S.Relates (fun _ => True) (Action.write path value) (Action.write path value) := by
  intro i c s c' s' h
  obtain ⟨hr, hs⟩ := S.write h hc hp hv
  revert hr hs
  show _ → _ → S.Agrees _ i c c' (s.writePath c.parents path value) (s'.writePath c'.parents path value)
  generalize s.writePath c.parents path value = r, s'.writePath c'.parents path value = r'
  obtain ⟨r, s⟩ := r
  obtain ⟨r', s'⟩ := r'
  rintro rfl hs
  cases r' with
  | ok => exact .ok trivial hs
  | error => exact .error hs

theorem relates_putAt (hc : S.call "set" args.length) (ha : ∀ a ∈ args, S.Data a) :
    S.Relates S.Data (putAt args) (putAt args) := by
  refine .bind (Q := fun _ => 2 ≤ args.length) (.ofExcept ?_) fun _ hl => ?_
  · intro _ h
    unfold Arguments.atLeast at h
    split at h
    · cases h
    · omega
  · have hpath : args.dropLast.map Token.text ≠ [] := by
      rw [← List.length_pos_iff, List.length_map, List.length_dropLast]
      omega
    have hvalue : S.Data (args.getLastD .null) := by
      rw [List.getLastD_eq_getLast?]
      exact Token.data_getD fun v hv => ha v (List.mem_of_getLast? hv)
    exact .bind (relates_write hc hpath hvalue) fun _ _ => .pure hvalue

theorem relates_valueOr (hev : S.Evaluates ev ev') (ha : ∀ a ∈ args, S.Tree a)
    (hdefault : ∀ a, args[0]? = some a → S.Data a) : S.Relates S.Data (valueOr ev args) (valueOr ev' args) := by
  refine .bind (.ofExcept Arguments.eq_of_two) fun (default, path) hargs => ?_
  subst hargs
  refine .attempt (hev path (ha path (by simp))) (fun v hv => .pure hv) (fun e => ?_) fun e he => ?_
  · dsimp only
    split
    · exact .pure (hdefault default rfl)
    · exact .fail e
  · dsimp only
    rw [S.escape_bound he, if_neg Bool.false_ne_true]

end BindingOperation

namespace Control

theorem relates_evaluateOr (hev : S.Evaluates ev ev') {count : Nat} (hc : S.call "catch" count)
    (ha : ∀ a ∈ args, S.Tree a) : S.Relates S.Data (evaluateOr ev args) (evaluateOr ev' args) := by
  refine .bind (.ofExcept Arguments.eq_of_two) fun (fallback, attempted) hargs => ?_
  subst hargs
  refine .attempt (hev attempted (ha attempted (by simp))) (fun v hv => .pure hv) (fun e => ?_) fun e he => ?_
  · exact hev fallback (ha fallback (by simp))
  · exact absurd hc (S.escape_catch he)

theorem relates_evaluateInScope (hev : S.Evaluates ev ev') (ha : ∀ a ∈ args, S.Tree a) :
    S.Relates S.Data (evaluateInScope ev args) (evaluateInScope ev' args) :=
  .bind (.ofExcept Arguments.mem_of_one) fun body hb => .inScope (hev body (ha body hb))

theorem relates_evaluateWith (hev : S.Evaluates ev ev') (ha : ∀ a ∈ args, S.Tree a)
    (hvalue : ∀ a, args[0]? = some a → S.Data a) : S.Relates S.Data (evaluateWith ev args) (evaluateWith ev' args) := by
  refine .bind (.ofExcept Arguments.eq_of_three) fun (value, name, body) hargs => ?_
  subst hargs
  exact .withValue hev name.text (hvalue value rfl) (ha body (by simp))

theorem relates_evaluateLambda (hev : S.Evaluates ev ev') (ha : ∀ a ∈ args, S.Tree a)
    (hvalue : ∀ a, args[0]? = some a → S.Data a) :
    S.Relates S.Data (evaluateLambda ev args) (evaluateLambda ev' args) := by
  refine .bind (.ofExcept Arguments.eq_of_two) fun (value, l) hargs => ?_
  subst hargs
  refine .bind (.ofExcept (tree_lambda (ha l (by simp)))) fun (name, body) hb => ?_
  exact .withValue hev name (hvalue value rfl) hb

/-- A template is instantiated to the same program in both runs. -/
theorem relates_instantiated (ha : ∀ a ∈ args, S.Tree a) : S.Relates S.Tree (instantiated args) (instantiated args) := by
  have htail : ∀ a ∈ args.tail, S.Tree a := fun a h => ha a (List.mem_of_mem_tail h)
  refine .bind (Q := fun _ => True) (.ofExcept fun _ _ => trivial) fun _ _ => ?_
  refine .bind (Q := fun _ => True) (.ofExcept fun _ _ => trivial) fun name _ => ?_
  refine .chain fun {chain chain'} hc => ?_
  obtain ⟨he, hy⟩ := hc.resolveTemplate name htail
  rw [he]
  exact .bind (.ofExcept hy) fun template ht => .ofExcept (Template.tree_instantiate htail ht)

theorem relates_putTemplate {count : Nat} (hc : S.call "settemplate" count) (ha : ∀ a ∈ args, S.Tree a) :
    S.Relates S.Data (putTemplate args) (putTemplate args) := by
  refine .bind (.ofExcept Arguments.eq_of_two) fun (name, body) hargs => ?_
  subst hargs
  refine .bind (Q := fun _ => True) (.ofExcept fun _ _ => trivial) fun text _ => ?_
  refine .bind (Q := fun _ => True) (.ofExcept fun _ _ => trivial) fun signature _ => ?_
  refine .bind (Q := fun _ => True) (fun _ _ _ _ _ h => .ok trivial ?_) fun _ _ => .pure .null
  exact S.put h hc (ha body (by simp))

end Control

/-! ## Functions -/

namespace Simulation

/-- The arguments that a function can be run with: programs, and values where the function does not quote. -/
structure Ready (S : Simulation ι) (f : Function) (args : List Token) : Prop where
  mem_catalogue : f ∈ catalogue
  call : S.call f.signature.key args.length
  tree : ∀ a ∈ args, S.Tree a
  data : ∀ i a, args[i]? = some a → f.signature.quotes i = false → S.Data a

namespace Ready

variable {f : Function}

/-- All arguments are values, if all are evaluated. -/
theorem values (h : S.Ready f args) (hq : f.signature.evaluatesAll = true) : ∀ a ∈ args, S.Data a := by
  intro a ha
  obtain ⟨i, hi⟩ := List.getElem?_of_mem ha
  exact h.data i a hi (Signature.quotes_of_evaluatesAll hq i)

/-- The first argument is a value, if it is evaluated. -/
theorem first (h : S.Ready f args) (hq : (!f.signature.quotes 0) = true) : ∀ a, args[0]? = some a → S.Data a :=
  fun a ha => h.data 0 a ha (Bool.not_eq_eq_eq_not.1 hq)

/-- A body that has its name for itself is called by that name. -/
theorem call_of_key (h : S.Ready f args) {name : String} (hn : (f.signature.key == name) = true) :
    S.call name args.length := eq_of_beq hn ▸ h.call

end Ready

end Simulation

/-- A function that only computes gives a value without blocks. -/
theorem relates_plain {k : Kind} {r : Except Error Token} (h : Yields (Token.Plain k) r) :
    S.Relates S.Data (Action.ofExcept r) (Action.ofExcept r) := .ofExcept (h.mono fun _ hv => hv.data)

theorem Arithmetic.relates_run (ev ev' : Evaluator) (op : Arithmetic) :
    S.Relates S.Data (Builtin.run ev (.arithmetic op) args) (Builtin.run ev' (.arithmetic op) args) := by
  intro i c s c' s' h
  show S.Agrees S.Data i c c' (op.run c.config.divisionPrecision args, s) (op.run c'.config.divisionPrecision args, s')
  rw [S.precision h]
  exact relates_plain (plain_run c.config.divisionPrecision op) i c s c' s' h

section Functions

variable {signature : Signature}

theorem BindingOperation.relates_run (hev : S.Evaluates ev ev') (op : BindingOperation)
    (h : S.Ready ⟨signature, .builtin (.binding op)⟩ args) : S.Relates S.Data (op.run ev args) (op.run ev' args) := by
  have hown := hasOwnName_of_mem_catalogue _ h.mem_catalogue
  have hdata := takesData_of_mem_catalogue _ h.mem_catalogue
  cases op with
  | read => exact relates_valueAt (h.call_of_key hown)
  | write => exact relates_putAt (h.call_of_key hown) (h.values hdata)
  | readOr => exact relates_valueOr hev h.tree (h.first hdata)

theorem Control.relates_run (hev : S.Evaluates ev ev') (op : Control)
    (h : S.Ready ⟨signature, .builtin (.control op)⟩ args) :
    S.Relates (S.Passes signature.returns.quotes) (op.run ev args) (op.run ev' args) := by
  have hown := hasOwnName_of_mem_catalogue _ h.mem_catalogue
  have hdata := takesData_of_mem_catalogue _ h.mem_catalogue
  have hreturns := declaresTrees_of_mem_catalogue _ h.mem_catalogue
  cases op with
  | noop => exact .data hreturns (.pure .null)
  | toString => exact .data hreturns (.bind (.ofExcept Arguments.mem_of_one) fun a _ => .pure (.string a.text))
  | not => exact .data hreturns (.bind (.ofExcept Arguments.mem_of_one) fun a _ => .pure (.boolean !a.isTruthy))
  | identity => exact .tree hreturns (.ofExcept (Arguments.mem_of_one.mono h.tree))
  | panic => exact .fail _
  | recover => exact .data hreturns (relates_evaluateOr hev (h.call_of_key hown) h.tree)
  | inScope => exact .data hreturns (relates_evaluateInScope hev h.tree)
  | bind => exact .data hreturns (relates_evaluateWith hev h.tree (h.first hdata))
  | bindLambda => exact .data hreturns (relates_evaluateLambda hev h.tree (h.first hdata))
  | instantiate => exact .tree hreturns (relates_instantiated h.tree)
  | setTemplate => exact .data hreturns (relates_putTemplate (h.call_of_key hown) h.tree)

/-- **A function of the catalogue does the same in both runs, and gives what it declares.** -/
theorem Function.relates_run {f : Function} (hev : S.Evaluates ev ev') (h : S.Ready f args) :
    S.Relates (S.Passes f.signature.returns.quotes) (f.body.run ev args) (f.body.run ev' args) := by
  have hdata := takesData_of_mem_catalogue f h.mem_catalogue
  have hreturns := declaresTrees_of_mem_catalogue f h.mem_catalogue
  obtain ⟨signature, body⟩ := f
  cases body with
  | host run => cases hdata
  | builtin op =>
    cases op with
    | arithmetic op => exact .data hreturns (op.relates_run ev ev')
    | comparison op => exact .data hreturns (relates_plain op.plain_run)
    | connective op => exact .data hreturns (op.relates_run hev h.tree)
    | list op => exact .data hreturns (.ofExcept (op.data_run (h.values hdata)))
    | iterator op => exact .data hreturns (op.relates_run hev h.tree)
    | keyValues => exact .data hreturns (KeyValues.relates_run hev h.tree)
    | text op => exact .data hreturns (relates_plain op.plain_run)
    | time op => exact .data hreturns (relates_plain op.plain_run)
    | binding op => exact .data hreturns (op.relates_run hev h)
    | control op => exact op.relates_run hev h

end Functions

end RuleExpr
