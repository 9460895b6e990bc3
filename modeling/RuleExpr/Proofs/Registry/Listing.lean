import RuleExpr.Proofs.Registry.Reachable
import RuleExpr.Proofs.Signature

/-!
# Listed signatures find their entries

The signatures that an interpreter lists are those of the entries of its scopes, each of which is the innermost one when
those inside are left (`Interpreter.Outer`). The text of a writable signature reads back as one of the same identity,
so it finds the entry, and only that one (`Registry.Table.finds`). **Whatever a host has done, what it is shown can be
given back as a text** (`listed_signatures_reread`).
-/

namespace RuleExpr

namespace Registry

/-! ## The place of an entry is its own -/

namespace Place

variable {α : Type} {signature : α → Signature} {s : Signature} {entries before before' after after' : List α}
  {e e' : α}

theorem takeWhile (h : Place signature s entries before e after) :
    entries.takeWhile (fun d => !(signature d).same s) = before := by
  obtain ⟨rfl, hs, ho⟩ := h
  rw [List.takeWhile_append_of_pos fun d hd => by rw [ho d (List.mem_append_left _ hd)]; rfl,
    List.takeWhile_cons_of_neg (by simp [hs]), List.append_nil]

theorem dropWhile (h : Place signature s entries before e after) :
    entries.dropWhile (fun d => !(signature d).same s) = e :: after := by
  obtain ⟨rfl, hs, ho⟩ := h
  rw [List.dropWhile_append_of_pos fun d hd => by rw [ho d (List.mem_append_left _ hd)]; rfl,
    List.dropWhile_cons_of_neg (by simp [hs])]

theorem unique (h : Place signature s entries before e after) (h' : Place signature s entries before' e' after') :
    before = before' ∧ e = e' ∧ after = after' := by
  obtain ⟨he, ha⟩ := List.cons.inj (h.dropWhile.symm.trans h'.dropWhile)
  exact ⟨h.takeWhile.symm.trans h'.takeWhile, he, ha⟩

end Place

/-! ## Entries found by their texts -/

namespace Table

variable {α β : Type} (table : Table α) (i : Interpreter)

/-- The signatures that a chain of scopes lists. -/
def listed (chain : List Scope) : List Signature := chain.flatMap fun s => (table.entries s).map table.signature

theorem listed_functions : functions.listed = visibleFunctions := rfl

theorem listed_templates : templates.listed = visibleTemplates := rfl

/-- The text of its signature takes the entry away, or puts another one of the same signature in its place; the other
entries stay. -/
def Finds (make : Signature → β → α) (update : String → β → Except Error Unit × Interpreter)
    (remove : String → Except Error Unit × Interpreter) (e : α) : Prop :=
  ∃ before after, table.entries i.scope = before ++ e :: after ∧
    remove (table.signature e).render = (.ok (), table.withEntries i (before ++ after)) ∧
    ∀ body, ∃ s : Signature, s.same (table.signature e) = true ∧
      update (table.signature e).render body = (.ok (), table.withEntries i (before ++ make s body :: after))

variable {table i} {make : Signature → β → α} {register update : String → β → Except Error Unit × Interpreter}
  {remove : String → Except Error Unit × Interpreter} {e : α}

/-- A change that succeeds puts the entries that it tells. -/
theorem Changes.eq_ok {condition : Prop} {result : List α → Prop} {outcome : Except Error Unit × Interpreter}
    (h : table.Changes i condition result outcome) (hc : condition) :
    ∃ entries, result entries ∧ outcome = (.ok (), table.withEntries i entries) := by
  obtain ⟨entries, hr, he⟩ := h.changed (h.succeeds.2 hc)
  exact ⟨entries, hr, Prod.ext (h.succeeds.2 hc) he⟩

/-- **The text of a writable signature finds its own entry.** -/
theorem finds (hs : table.Serves i make register update remove) (hmake : ∀ s body, table.signature (make s body) = s)
    (hd : Distinct table.signature (table.entries i.scope)) (he : e ∈ table.entries i.scope)
    (hw : (table.signature e).Writable) : table.Finds i make update remove e := by
  have hp := Signature.parse_render hw
  generalize ht : { table.signature e with description := "", sample := "" } = t at hp
  have hst : (table.signature e).same t = true := Signature.same_iff.2 (by rw [← ht]; rfl)
  obtain ⟨before, after, hplace⟩ := exists_place_of_mem hd he hst
  -- both changes are at a place of the signature, and there is only this one
  refine ⟨before, after, hplace.split, ?_, fun body => ⟨t, ?_, ?_⟩⟩
  · obtain ⟨_, ⟨_, _, _, hplace', rfl⟩, hr⟩ := (hs.removes hp).eq_ok ⟨e, he, hst⟩
    obtain ⟨rfl, rfl, rfl⟩ := hplace.unique hplace'
    exact hr
  · exact Signature.same_iff.2 (Signature.same_iff.1 hst).symm
  · have hu := hs.updates hp body
    rw [Updates, hmake] at hu
    obtain ⟨_, ⟨_, _, _, hplace', rfl⟩, hr⟩ := hu.eq_ok ⟨e, he, hst⟩
    obtain ⟨rfl, rfl, rfl⟩ := hplace.unique hplace'
    exact hr

theorem mem_listed (table : Table α) {e : α} {chain : List Scope} {s : Scope} (hs : s ∈ chain) (he : e ∈ table.entries s) :
    table.signature e ∈ table.listed chain := List.mem_flatMap.2 ⟨s, hs, List.mem_map_of_mem he⟩

end Table

end Registry

/-! ## Listings -/

namespace Interpreter

open Registry

/-- What an interpreter is, or becomes when scopes are left. -/
def Outer (j i : Interpreter) : Prop := j.config = i.config ∧ j.chain <:+ i.chain

theorem Reachable.outer {i j : Interpreter} (h : i.Reachable) (hj : j.Outer i) : j.Reachable := by
  obtain ⟨hconfig, inner, hchain⟩ := hj
  induction inner generalizing i with
  | nil =>
    obtain ⟨hscope, hparents⟩ := List.cons.inj hchain
    obtain rfl : j = i := by
      cases i
      cases j
      cases hconfig
      cases hscope
      cases hparents
      rfl
    exact h
  | cons s inner ih =>
    -- the scope of `i` is left, and what is around it is the chain of an interpreter again
    obtain ⟨-, hparents⟩ := List.cons.inj hchain
    obtain ⟨outer, parents, hc⟩ := List.exists_cons_of_ne_nil
      (List.append_ne_nil_of_right_ne_nil inner (List.cons_ne_nil j.scope j.parents))
    obtain ⟨config, binding, builtins, hr⟩ := h
    exact ih (i := ⟨i.config, outer, parents⟩) ⟨config, binding, builtins, hr.tail (.leave (hparents.symm.trans hc))⟩
      hconfig hc

theorem exists_outer {α : Type} (table : Table α) {i : Interpreter} {s : Signature} (h : s ∈ table.listed i.chain) :
    ∃ j : Interpreter, j.Outer i ∧ ∃ e ∈ table.entries j.scope, table.signature e = s := by
  obtain ⟨scope, hm, hs⟩ := List.mem_flatMap.1 h
  obtain ⟨inner, parents, hc⟩ := List.append_of_mem hm
  obtain ⟨e, he, hse⟩ := List.mem_map.1 hs
  exact ⟨⟨i.config, scope, parents⟩, ⟨rfl, inner, hc.symm⟩, e, he, hse⟩

/-- **The text of a signature is read as the signature**, of one that has been read and of every one that is writable;
**and the signatures that an interpreter lists find their entries**. -/
theorem listed_signatures_reread :
    (∀ text s, Signature.parse text = .ok s → s.Writable ∧ Signature.parse s.render = .ok s) ∧
    (∀ s : Signature, s.Writable → ∃ t : Signature, Signature.parse s.render = .ok t ∧ t.name = s.name ∧
      t.key = s.key ∧ t.parameters = s.parameters ∧ t.variadic = s.variadic ∧ t.returns = s.returns) ∧
    ∀ i : Interpreter, i.Reachable →
      (∀ s ∈ visibleFunctions i.chain, ∃ j : Interpreter, j.Outer i ∧ ∃ f ∈ j.scope.functions, f.signature = s) ∧
      (∀ s ∈ visibleTemplates i.chain, ∃ j : Interpreter, j.Outer i ∧ ∃ t ∈ j.scope.templates, t.signature = s) ∧
      ∀ j : Interpreter, j.Outer i →
        (∀ f ∈ j.scope.functions, f.signature ∈ visibleFunctions i.chain ∧ (f.signature.Writable →
          functions.Finds j Function.mk j.updateFunction j.removeFunction f)) ∧
        ∀ t ∈ j.scope.templates, t.signature ∈ visibleTemplates i.chain ∧ (t.signature.Writable →
          templates.Finds j Template.mk j.updateTemplate j.removeTemplate t) := by
  refine ⟨fun text s h => ⟨(Signature.writable_of_parse h).1, Signature.parse_render_of_parse h⟩,
    fun s h => ⟨_, Signature.parse_render h, rfl, rfl, rfl, rfl, rfl⟩, fun i hi =>
      ⟨fun s => exists_outer functions, fun s => exists_outer templates, fun j hj => ?_⟩⟩
  have hm : j.scope ∈ i.chain := hj.2.subset List.mem_cons_self
  have hd := (hi.outer hj).distinct _ List.mem_cons_self
  refine ⟨fun f hf => ⟨Table.mem_listed functions hm hf, fun hw => ?_⟩,
    fun t ht => ⟨Table.mem_listed templates hm ht, fun hw => ?_⟩⟩
  · exact Table.finds (serves_functions hd) (fun _ _ => rfl) hd.functions hf hw
  · exact Table.finds (serves_templates hd) (fun _ _ => rfl) hd.templates ht hw

/-- A name may have closing parentheses, commas and dots in it. -/
theorem listed_signatures_reread_marks :
    let f : Function := ⟨⟨"é),b...", [⟨3⟩, Kind.any], true, Kind.collection, "", ""⟩, .host fun _ => .done (.ok .null)⟩
    let i := ((root {} (.map []) false).register f).2
    f.signature.render = "é),b...(Decimal|String, Any...)Collection" ∧
      (∃ t, Signature.parse f.signature.render = .ok t ∧ t.name = "é),b...") ∧
      (i.removeFunction "é),b...(Decimal|String, Any...)Collection").1 = .ok () := by
  intro f i
  obtain ⟨-, hwritable, hlisted⟩ := listed_signatures_reread
  have hi : i.Reachable := ⟨{}, .map [], false, .single (.register f)⟩
  have hw : f.signature.Writable := by decide +kernel
  have hrender : f.signature.render = "é),b...(Decimal|String, Any...)Collection" := by decide +kernel
  obtain ⟨t, ht, hname, -⟩ := hwritable f.signature hw
  obtain ⟨-, -, hj⟩ := hlisted i hi
  obtain ⟨before, after, -, hremove, -⟩ := ((hj i ⟨rfl, List.suffix_rfl⟩).1 f List.mem_cons_self).2 hw
  exact ⟨hrender, ⟨t, ht, hname⟩, hrender ▸ congrArg Prod.fst hremove⟩

end Interpreter

end RuleExpr
