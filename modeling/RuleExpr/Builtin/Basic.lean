/-!
# The built-in functions

The bodies of the built-in functions by name, in the groups in which the catalogue lists them. What each one does is
said in the module of its group.
-/

namespace RuleExpr

/-- Arithmetic on decimals. -/
inductive Arithmetic where
  | add
  | subtract
  | multiply
  | divide
  | modulo
  | floor
  | ceil
  deriving DecidableEq

/-- Tests of equality and order. -/
inductive Comparison where
  | equal
  | unequal
  | greater
  | less
  | atLeast
  | atMost
  | between
  deriving DecidableEq

/-- Conjunction and disjunction of unevaluated conditions. -/
inductive Connective where
  | all
  | any
  deriving DecidableEq

/-- Operations on lists, and on decimals taken together. -/
inductive ListOperation where
  | list
  | head
  | tail
  | drop
  | item
  | push
  | append
  | contains
  | count
  | reverse
  | join
  | isEmpty
  | sort
  | least
  | greatest
  | leastOf
  | greatestOf
  | sum
  deriving DecidableEq

/-- Functions that evaluate a body for each element of a list. -/
inductive Iterator where
  | map
  | anyOf
  | every
  | sum
  | sortByNumber
  | sortByString
  deriving DecidableEq

/-- Operations on strings. -/
inductive TextOperation where
  | concat
  | contains
  | notContains
  | startsWith
  | endsWith
  | matchesPattern
  | firstName
  | lastName
  | split
  | count
  | reverse
  deriving DecidableEq

/-- The fields of a local date and clock. -/
inductive TimeField where
  | hour
  | minute
  | month
  | monthDay
  | weekDay
  | year
  deriving DecidableEq

/-- Operations on timestamps. -/
inductive TimeOperation where
  | after
  | before
  | between
  | parse
  | parseLayout
  | format
  | matchesLayout
  | days
  | date
  | field (field : TimeField)
  deriving DecidableEq

/-- Access to the bindings of a scope. -/
inductive BindingOperation where
  | read
  | write
  | readOr
  deriving DecidableEq

/-- Control of evaluation, and templates. -/
inductive Control where
  | noop
  | toString
  | not
  | identity
  | panic
  | recover
  | inScope
  | bind
  | bindLambda
  | instantiate
  | setTemplate
  deriving DecidableEq

/-- The body of a built-in function. -/
inductive Builtin where
  | arithmetic (op : Arithmetic)
  | comparison (op : Comparison)
  | connective (op : Connective)
  | list (op : ListOperation)
  | iterator (op : Iterator)
  | keyValues
  | text (op : TextOperation)
  | time (op : TimeOperation)
  | binding (op : BindingOperation)
  | control (op : Control)
  deriving DecidableEq

end RuleExpr
