import RuleExpr.Interpreter
import RuleExpr.Proofs.Kind
import RuleExpr.Proofs.Token.Blocks

/-!
# The results of the built-in functions

Each built-in has a kind of results (`Builtin.result`). If that is a primitive kind, what it gives is of that kind
(`kind_run`). Else the result is a value or anything (`result_cases`), and it may be a block, too (`fits_run`). The
signatures of the catalogue declare that kind (`declaresResult_of_mem_catalogue`). A function that gives back trees to
be evaluated declares that it gives anything (`quotesAny_of_mem_catalogue`).

A built-in that only computes makes no blocks. Arithmetic, comparisons and operations on strings and times give values
without any (`plain_run`); the blocks in what a list operation gives are those of its arguments (`data_run`).
-/

namespace RuleExpr

open Token (Data)

/-- The token is a block, or of the kind. -/
def Token.Fits (k : Kind) (t : Token) : Prop := t.isBlock = true ∨ k.includes t.kind = true

/-- What is no block is a value, so nothing is asked of a result that is one. -/
theorem Token.fits_value (t : Token) : t.Fits Kind.value := by
  cases h : t.isBlock with
  | true => exact .inl h
  | false => exact .inr (value_includes_kind h)

theorem Token.fits_kind (t : Token) : t.Fits t.kind := .inr (Kind.includes_self _)

theorem Token.fits_any (t : Token) : t.Fits Kind.any := .inr (Kind.any_includes _)

/-- The token is of the kind, and there is no block in it. -/
def Token.Plain (k : Kind) (t : Token) : Prop := t.kind = k ∧ t.blocks = []

/-- Without blocks there is nothing that would have to be held. -/
theorem Token.Plain.data {held : String → List Token → Prop} {k : Kind} {t : Token} (h : t.Plain k) : Data held t :=
  .of_blocks fun _ hb => absurd (h.2 ▸ hb) List.not_mem_nil

/-! ## Arguments -/

namespace Arguments

variable {function : String} {args : List Token}

/-- A body that takes one argument gets one of those given; so it is with two and three below. -/
theorem mem_of_one : Yields (fun a => a ∈ args) (one function args) := by
  unfold one
  split
  · exact .ok List.mem_cons_self
  · exact .error _

theorem eq_of_two : Yields (fun p => args = [p.1, p.2]) (two function args) := by
  unfold two
  split
  · exact .ok rfl
  · exact .error _

theorem eq_of_three : Yields (fun p => args = [p.1, p.2.1, p.2.2]) (three function args) := by
  unfold three
  split
  · exact .ok rfl
  · exact .error _

/-- Only a list is taken for a list. -/
theorem eq_of_list {t : Token} : Yields (fun items => t = .list items) (list function t) := by
  unfold list
  split
  · exact .ok rfl
  · exact .error _

/-- The elements of a list that is such a value are such values. -/
theorem data_list {held : String → List Token → Prop} {t : Token} (h : Data held t) :
    Yields (fun items => ∀ t ∈ items, Data held t) (list function t) :=
  fun items hi => (eq_of_list items hi ▸ h).of_list

end Arguments

/-- The body of `((name) body)` is a child of it. -/
theorem mem_of_lambda {function : String} {t : Token} :
    Yields (fun p => ∃ head children, t = .block head children ∧ p.2 ∈ children) (lambda function t) := by
  unfold lambda
  split
  · split
    · exact .error _
    · exact .ok ⟨_, _, rfl, List.mem_cons_of_mem _ List.mem_cons_self⟩
  · exact .error _

/-- A pair is a block, and its key the head: also where the overloads of that name refuse the children. -/
theorem KeyValues.eq_of_pair? {chain : List Scope} {t : Token} {key : String} {children : List Token}
    (h : pair? chain t = .ok (some (key, children))) : t = .block key children := by
  unfold pair? at h
  split at h
  · split at h
    · cases h
    · split at h
      · cases h
      · cases h
        rfl
      · split at h
        · cases h
        · cases h
          rfl
  · cases h

/-! ## Arithmetic and comparison -/

section

variable {function : String} {args : List Token}

namespace Arithmetic

/-- Arithmetic gives decimals. -/
def result (_ : Arithmetic) : Kind := Kind.decimal

/-- A sum, a difference, a product or a quotient is a decimal, whatever it starts from. -/
theorem plain_fold {op : Decimal → Decimal → Except Error Decimal} :
    Yields (Token.Plain Kind.decimal) (fold function op args) := by
  cases args with
  | nil => exact .error _
  | cons t ts => exact .bind fun _ => .bind fun _ => .ok ⟨rfl, rfl⟩

theorem plain_unary {op : Decimal → Decimal} : Yields (Token.Plain Kind.decimal) (unary function op args) :=
  .bind fun _ => .bind fun _ => .ok ⟨rfl, rfl⟩

/-- All arithmetic gives decimals. -/
theorem plain_run (precision : Nat) (op : Arithmetic) : Yields (Token.Plain op.result) (op.run precision args) := by
  cases op with
  | add => exact plain_fold
  | subtract =>
    show Yields _ (difference args)
    unfold difference
    split
    · exact plain_unary
    · exact plain_fold
  | multiply => exact plain_fold
  | divide => exact plain_fold
  | modulo => exact .bind fun _ => .bind fun _ => .bind fun _ => .bind fun _ => .ok ⟨rfl, rfl⟩
  | floor => exact plain_unary
  | ceil => exact plain_unary

end Arithmetic

namespace Comparison

/-- Comparisons give truth values. -/
def result (_ : Comparison) : Kind := Kind.boolean

/-- A test of order gives a truth value for what can be compared, and fails for the rest. -/
theorem plain_ordering {test : Ordering → Bool} : Yields (Token.Plain Kind.boolean) (ordering function test args) :=
  .bind fun (a, b) => by
    dsimp only
    split
    · exact .ok ⟨rfl, rfl⟩
    · exact .error _

theorem plain_equality {test : Bool → Bool} : Yields (Token.Plain Kind.boolean) (equality function test args) :=
  .bind fun _ => .bind fun _ => .ok ⟨rfl, rfl⟩

/-- All comparisons give truth values. -/
theorem plain_run (op : Comparison) : Yields (Token.Plain op.result) (op.run args) := by
  cases op with
  | equal => exact plain_equality
  | unequal => exact plain_equality
  | greater => exact plain_ordering
  | less => exact plain_ordering
  | atLeast => exact plain_ordering
  | atMost => exact plain_ordering
  | between => exact .bind fun _ => .bind fun _ => .bind fun _ => .bind fun _ => .ok ⟨rfl, rfl⟩

end Comparison

/-! ## Lists, strings and times -/

namespace ListOperation

/-- The kind of what a list operation gives. -/
def result : ListOperation → Kind
  | list | tail | drop | push | append | reverse | sort => Kind.list
  | head | item => Kind.value
  | contains | isEmpty => Kind.boolean
  | count | least | greatest | leastOf | greatestOf | sum => Kind.decimal
  | join => Kind.string

theorem kind_onList {k : Kind} {op : List Token → Except Error Token} (h : ∀ items, Yields (·.kind = k) (op items)) :
    Yields (·.kind = k) (onList function op args) := .bind fun _ => .bind h

/-- The least or greatest of decimals is one of them. -/
theorem kind_extremeOf {wins : Ordering} {items : List Token} :
    Yields (·.kind = Kind.decimal) (extremeOf function wins items) := .bind fun ds => by
  cases ds with
  | nil => exact .error _
  | cons d ds => exact .ok rfl

/-- A list or a map has a number of entries. -/
theorem kind_size : Yields (·.kind = Kind.decimal) (size args) := .bind fun t => by
  cases t with
  | list => exact .ok rfl
  | map => exact .ok rfl
  | _ => exact .error _

theorem kind_joined : Yields (·.kind = Kind.string) (joined args) := .bind fun _ => by
  cases args[1]? with
  | some s => exact .bind fun _ => .bind fun _ => .ok rfl
  | none => exact .bind fun _ => .bind fun _ => .ok rfl

/-- All but an element of the list is of a primitive kind. -/
theorem kind_run (op : ListOperation) (h : op.result.isPrimitive = true) :
    Yields (·.kind = op.result) (op.run args) := by
  cases op with
  | list => exact .ok rfl
  | head => cases h
  | tail => exact kind_onList fun _ => .ok rfl
  | drop => exact .bind fun _ => .bind fun _ => .bind fun _ => .ok rfl
  | item => cases h
  | push => exact .bind fun _ => .ok rfl
  | append => exact .bind fun _ => .ok rfl
  | contains => exact .bind fun _ => .bind fun _ => .ok rfl
  | count => exact kind_size
  | reverse => exact kind_onList fun _ => .ok rfl
  | join => exact kind_joined
  | isEmpty => exact .bind fun _ => .ok rfl
  | sort => exact kind_onList fun _ => .map fun _ => rfl
  | least => exact kind_extremeOf
  | greatest => exact kind_extremeOf
  | leastOf => exact kind_onList fun _ => kind_extremeOf
  | greatestOf => exact kind_onList fun _ => kind_extremeOf
  | sum => exact kind_onList fun _ => .map fun _ => rfl

variable {held : String → List Token → Prop}

/-- An operation that takes a list apart may use all its elements. -/
theorem data_onList (h : ∀ a ∈ args, Data held a) {op : List Token → Except Error Token}
    (hop : ∀ items, (∀ t ∈ items, Data held t) → Yields (Data held) (op items)) :
    Yields (Data held) (onList function op args) :=
  .bind_of Arguments.mem_of_one fun a ha => .bind_of (Arguments.data_list (h a ha)) hop

/-- The elements of the list in front are held like the arguments behind it. -/
theorem data_listFirst (h : ∀ a ∈ args, Data held a) :
    Yields (fun p => (∀ t ∈ p.1, Data held t) ∧ ∀ t ∈ p.2, Data held t) (listFirst function args) := by
  unfold listFirst
  split
  · exact .error _
  · next a args =>
    obtain ⟨ha, hargs⟩ := List.forall_mem_cons.1 h
    exact .bind_of (Arguments.data_list ha) fun items hi => .ok ⟨hi, hargs⟩

/-- An empty list has null in front, which is no block. -/
theorem data_headD {items : List Token} (h : ∀ t ∈ items, Data held t) : Data held (items.headD .null) := by
  cases items with
  | nil => exact .null
  | cons t ts => exact h t List.mem_cons_self

theorem data_dropFirst (h : ∀ a ∈ args, Data held a) : Yields (Data held) (dropFirst args) := by
  refine .bind_of Arguments.eq_of_two fun (a, n) hargs => .bind fun count => ?_
  have ha : Data held a := h a (hargs ▸ List.mem_cons_self)
  exact .bind_of (Arguments.data_list ha) fun items hi => .ok (.list fun t ht => hi t (List.mem_of_mem_drop ht))

/-- The element at an index is one of the list. -/
theorem data_itemAt (h : ∀ a ∈ args, Data held a) : Yields (Data held) (itemAt args) := by
  refine .bind_of Arguments.eq_of_two fun (a, n) hargs => .bind fun index => ?_
  have ha : Data held a := h a (hargs ▸ List.mem_cons_self)
  refine .bind_of (Arguments.data_list ha) fun items hi => ?_
  split
  · next t ht => exact .ok (hi t (List.mem_of_getElem? ht))
  · exact .error _

/-- A list is spliced in by its elements, and anything else as it is. -/
theorem data_spliced {a : Token} (h : Data held a) : ∀ t ∈ spliced a, Data held t := by
  unfold spliced
  split
  · exact h.of_list
  · exact List.forall_mem_singleton.2 h

theorem data_size : Yields (Data held) (size args) := .bind fun t => by
  cases t with
  | list => exact .ok (.decimal _)
  | map => exact .ok (.decimal _)
  | _ => exact .error _

theorem data_joined : Yields (Data held) (joined args) := .bind fun _ => by
  cases args[1]? with
  | some s => exact .bind fun _ => .bind fun _ => .ok (.string _)
  | none => exact .bind fun _ => .bind fun _ => .ok (.string _)

/-- A sorted list has the same elements. -/
theorem mem_of_sorted {items : List Token} : Yields (fun ts => ∀ t ∈ ts, t ∈ items) (sorted function items) := by
  unfold sorted
  split
  · exact .ok (List.forall_mem_nil _)
  · split
    · exact .error _
    · exact .ok fun t ht => (List.mergeSort_perm _ _).mem_iff.1 ht

/-- The least or greatest of decimals is no block, whatever else is in the list. -/
theorem data_extremeOf {wins : Ordering} {items : List Token} : Yields (Data held) (extremeOf function wins items) :=
  .bind fun ds => by
    cases ds with
    | nil => exact .error _
    | cons d ds => exact .ok (.decimal _)

/-- What a list operation gives has its blocks from the arguments. -/
theorem data_run (op : ListOperation) (h : ∀ a ∈ args, Data held a) : Yields (Data held) (op.run args) := by
  cases op with
  | list => exact .ok (.list h)
  | head => exact data_onList h fun items hi => .ok (data_headD hi)
  | tail => exact data_onList h fun items hi => .ok (.list fun t ht => hi t (List.mem_of_mem_drop ht))
  | drop => exact data_dropFirst h
  | item => exact data_itemAt h
  | push =>
    refine .bind_of (data_listFirst h) fun (items, more) ⟨hi, hm⟩ => .ok (.list fun t ht => ?_)
    rcases List.mem_append.1 ht with ht | ht
    · exact hi t ht
    · exact hm t ht
  | append =>
    refine .bind_of (data_listFirst h) fun (items, more) ⟨hi, hm⟩ => .ok (.list fun t ht => ?_)
    rcases List.mem_append.1 ht with ht | ht
    · exact hi t ht
    · obtain ⟨a, ha, ht⟩ := List.mem_flatMap.1 ht
      exact data_spliced (hm a ha) t ht
  | contains => exact .bind fun _ => .bind fun _ => .ok (.boolean _)
  | count => exact data_size
  | reverse => exact data_onList h fun items hi => .ok (.list fun t ht => hi t (List.mem_reverse.1 ht))
  | join => exact data_joined
  | isEmpty => exact .bind fun _ => .ok (.boolean _)
  | sort => exact data_onList h fun items hi => .map_of mem_of_sorted fun ts hts => .list fun t ht => hi t (hts t ht)
  | least => exact data_extremeOf
  | greatest => exact data_extremeOf
  | leastOf => exact data_onList h fun _ _ => data_extremeOf
  | greatestOf => exact data_onList h fun _ _ => data_extremeOf
  | sum => exact data_onList h fun _ _ => .map fun _ => .decimal _

end ListOperation

namespace TextOperation

/-- The kind of what an operation on strings gives. -/
def result : TextOperation → Kind
  | concat | firstName | lastName | reverse => Kind.string
  | contains | notContains | startsWith | endsWith | matchesPattern => Kind.boolean
  | split => Kind.list
  | count => Kind.decimal

/-- What is made of a string is plain if it is so for every string; so it is for two strings below. -/
theorem plain_onString {k : Kind} {op : String → Token} (h : ∀ s, (op s).Plain k) :
    Yields (Token.Plain k) (onString function op args) := .bind fun _ => .bind fun s => .ok (h s)

theorem plain_onStrings {k : Kind} {op : String → String → Except Error Token}
    (h : ∀ s t, Yields (Token.Plain k) (op s t)) : Yields (Token.Plain k) (onStrings function op args) :=
  .bind fun _ => .bind fun s => .bind fun t => h s t

/-- Whether a string has some of the parts is a truth value. -/
theorem plain_containsSome : Yields (Token.Plain Kind.boolean) (containsSome args) := by
  cases args with
  | nil => exact .error _
  | cons a args => exact .bind fun _ => .bind fun _ => .ok ⟨rfl, rfl⟩

theorem plain_containedInNone : Yields (Token.Plain Kind.boolean) (containedInNone args) := by
  cases args with
  | nil => exact .error _
  | cons a args => exact .bind fun _ => .ok ⟨rfl, rfl⟩

/-- The parts of a string are read as atoms. -/
theorem plain_parts (s separator : String) : Yields (Token.Plain Kind.list) (parts s separator) := by
  unfold parts
  split
  · exact .error _
  · have hatoms : Yields (fun ts : List Token => ∀ t ∈ ts, t.blocks = [])
        ((Text.splitOn separator.toList s.toList).mapM fun part => Token.infer (String.ofList part)) :=
      .mapM fun _ _ _ ht => Token.blocks_of_infer ht
    refine .bind_of hatoms fun ts hts => .ok ⟨rfl, List.eq_nil_iff_forall_not_mem.2 fun b hb => ?_⟩
    obtain ⟨t, ht, hb⟩ := Token.mem_blocksOfList.1 hb
    rw [hts t ht] at hb
    cases hb

/-- All operations on strings give plain values of their kind. -/
theorem plain_run (op : TextOperation) : Yields (Token.Plain op.result) (op.run args) := by
  cases op with
  | concat => exact .ok ⟨rfl, rfl⟩
  | contains => exact plain_containsSome
  | notContains => exact plain_containedInNone
  | startsWith => exact plain_onStrings fun _ _ => .ok ⟨rfl, rfl⟩
  | endsWith => exact plain_onStrings fun _ _ => .ok ⟨rfl, rfl⟩
  | matchesPattern =>
    refine plain_onStrings fun s pattern => ?_
    split
    · exact .ok ⟨rfl, rfl⟩
    · exact .error _
  | firstName => exact plain_onString fun _ => ⟨rfl, rfl⟩
  | lastName => exact plain_onString fun _ => ⟨rfl, rfl⟩
  | split => exact plain_onStrings plain_parts
  | count => exact plain_onString fun _ => ⟨rfl, rfl⟩
  | reverse => exact plain_onString fun _ => ⟨rfl, rfl⟩

end TextOperation

namespace TimeOperation

/-- The kind of what an operation on times gives. -/
def result : TimeOperation → Kind
  | after | before | between | matchesLayout => Kind.boolean
  | parse | parseLayout | date => Kind.time
  | format => Kind.string
  | days | field _ => Kind.decimal

/-- What is made of two times is plain if it is so for all times; so it is for one time below. -/
theorem plain_onTimes {k : Kind} {op : Timestamp → Timestamp → Token} (h : ∀ s t, (op s t).Plain k) :
    Yields (Token.Plain k) (onTimes function op args) := .bind fun _ => .bind fun s => .bind fun t => .ok (h s t)

theorem plain_onTime {k : Kind} {op : Timestamp → Except Error Token} (h : ∀ t, Yields (Token.Plain k) (op t)) :
    Yields (Token.Plain k) (onTime function op args) := .bind fun _ => .bind h

theorem plain_parsed : Yields (Token.Plain Kind.time) (parsed args) := .bind fun _ => .bind fun _ => by
  split
  · exact .ok ⟨rfl, rfl⟩
  · exact .error _

theorem plain_parsedBy : Yields (Token.Plain Kind.time) (parsedBy args) := by
  refine .bind fun _ => .bind fun _ => .bind fun _ => ?_
  split
  · exact .ok ⟨rfl, rfl⟩
  · exact .error _

/-- The day of a time is a time, unless it is out of range. -/
theorem plain_midnight (t : Timestamp) : Yields (Token.Plain Kind.time) (midnight t) := by
  unfold midnight
  split
  · exact .ok ⟨rfl, rfl⟩
  · exact .error _

/-- All operations on times give plain values of their kind. -/
theorem plain_run (op : TimeOperation) : Yields (Token.Plain op.result) (op.run args) := by
  cases op with
  | after => exact plain_onTimes fun _ _ => ⟨rfl, rfl⟩
  | before => exact plain_onTimes fun _ _ => ⟨rfl, rfl⟩
  | between => exact .bind fun _ => .bind fun _ => .bind fun _ => .bind fun _ => .ok ⟨rfl, rfl⟩
  | parse => exact plain_parsed
  | parseLayout => exact plain_parsedBy
  | format => exact .bind fun _ => .bind fun _ => .bind fun _ => .bind fun _ => .ok ⟨rfl, rfl⟩
  | matchesLayout =>
    exact .bind fun _ => .bind fun _ => .bind fun _ => .bind fun _ => .bind fun _ => .ok ⟨rfl, rfl⟩
  | days => exact plain_onTimes fun _ _ => ⟨rfl, rfl⟩
  | date => exact plain_onTime plain_midnight
  | field f => exact plain_onTime fun _ => .ok ⟨rfl, rfl⟩

end TimeOperation

/-! ## Functions that evaluate -/

variable {ev : Evaluator}

namespace Connective

/-- Connectives give truth values. -/
def result (_ : Connective) : Kind := Kind.boolean

/-- However many of the arguments are evaluated. -/
theorem kind_run (op : Connective) : (op.run ev args).Yields (·.kind = op.result) := by
  cases op with
  | all => exact .bind fun _ => .pure rfl
  | any => exact .bind fun _ => .pure rfl

end Connective

namespace Iterator

/-- The kind of what an iterator gives. -/
def result : Iterator → Kind
  | map | sortByNumber | sortByString => Kind.list
  | anyOf | every => Kind.boolean
  | sum => Kind.decimal

/-- An iterator gives what it collects, not what its body gave last. -/
theorem kind_run (op : Iterator) : (op.run ev args).Yields (·.kind = op.result) := by
  cases op with
  | map => exact .bind fun _ => .bind fun _ => .pure rfl
  | anyOf => exact .bind fun _ => .bind fun _ => .pure rfl
  | every => exact .bind fun _ => .bind fun _ => .pure rfl
  | sum => exact .bind fun _ => .bind fun _ => .pure rfl
  | sortByNumber => exact .bind fun _ => .bind fun _ => .pure rfl
  | sortByString => exact .bind fun _ => .bind fun _ => .pure rfl

end Iterator

namespace Control

/-- The kind of what a control function gives. -/
def result : Control → Kind
  | noop | setTemplate => Kind.null
  | toString => Kind.string
  | not => Kind.boolean
  | recover | inScope | bind | bindLambda | panic => Kind.value
  | identity | instantiate => Kind.any

/-- Control functions of a primitive kind make their result themselves; the others pass on what was evaluated. -/
theorem kind_run (op : Control) (h : op.result.isPrimitive = true) : (op.run ev args).Yields (·.kind = op.result) := by
  cases op with
  | noop => exact .pure rfl
  | toString => exact .bind fun _ => .pure rfl
  | not => exact .bind fun _ => .pure rfl
  | setTemplate => exact .bind fun _ => .bind fun _ => .bind fun _ => .bind fun _ => .pure rfl
  | recover | inScope | bind | bindLambda | panic | identity | instantiate => cases h

end Control

/-! ## The catalogue -/

namespace Builtin

/-- The kind of what a built-in gives. -/
def result : Builtin → Kind
  | arithmetic op => op.result
  | comparison op => op.result
  | connective op => op.result
  | list op => op.result
  | iterator op => op.result
  | keyValues => Kind.map
  | text op => op.result
  | time op => op.result
  | binding _ => Kind.value
  | control op => op.result

/-- What is not of a primitive kind is a value or anything. -/
theorem result_cases (op : Builtin) :
    op.result.isPrimitive = true ∨ op.result = Kind.value ∨ op.result = Kind.any := by
  cases op with
  | arithmetic op => exact .inl rfl
  | comparison op => exact .inl rfl
  | connective op => exact .inl rfl
  | list op => cases op <;> decide
  | iterator op => cases op <;> decide
  | keyValues => exact .inl rfl
  | text op => exact .inl (by cases op <;> rfl)
  | time op => exact .inl (by cases op <;> rfl)
  | binding op => exact .inr (.inl rfl)
  | control op => cases op <;> decide

/-- **What a built-in of a primitive kind gives is of that kind.** -/
theorem kind_run (op : Builtin) (h : op.result.isPrimitive = true) : (op.run ev args).Yields (·.kind = op.result) := by
  cases op with
  | arithmetic op => exact .bind fun _ => .ofExcept ((Arithmetic.plain_run _ op).mono fun _ h => h.1)
  | comparison op => exact .ofExcept ((Comparison.plain_run op).mono fun _ h => h.1)
  | connective op => exact Connective.kind_run op
  | list op => exact .ofExcept (ListOperation.kind_run op h)
  | iterator op => exact Iterator.kind_run op
  | keyValues => exact .bind fun _ => .pure rfl
  | text op => exact .ofExcept ((TextOperation.plain_run op).mono fun _ h => h.1)
  | time op => exact .ofExcept ((TimeOperation.plain_run op).mono fun _ h => h.1)
  | binding op => cases h
  | control op => exact Control.kind_run op h

/-- **What a built-in gives is a block or of its kind.** -/
theorem fits_run (op : Builtin) : (op.run ev args).Yields (Token.Fits op.result) := by
  rcases op.result_cases with h | h | h
  · exact fun c s t ht => op.kind_run h c s t ht ▸ t.fits_kind
  · exact h ▸ fun _ _ t _ => t.fits_value
  · exact h ▸ fun _ _ t _ => t.fits_any

end Builtin

end

namespace Function

/-- The body is a built-in, and its kind of results is the one declared. -/
def declaresResult (f : Function) : Bool :=
  match f.body with
  | .builtin op => f.signature.returns == op.result
  | .host _ => false

/-- Whether the function gives anything, if it gives back trees to be evaluated. -/
def quotesAny (f : Function) : Bool := !f.signature.returns.quotes || f.signature.returns == Kind.any

end Function

/-- **Every signature of the catalogue declares the kind of results of its built-in.** -/
theorem declaresResult_of_mem_catalogue : ∀ f ∈ catalogue, f.declaresResult = true := by
  decide

/-- A function of the catalogue whose result is evaluated in turn may give anything. -/
theorem quotesAny_of_mem_catalogue : ∀ f ∈ catalogue, f.quotesAny = true := by
  decide

end RuleExpr
