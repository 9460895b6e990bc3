import RuleExpr.Token.Basic

/-!
# Equality of tokens

Two tokens are equal when they have the same kind and contents, where maps are compared as sets of keys with values,
whatever their order, and times as instants, whatever their offsets.
-/

namespace RuleExpr.Token

mutual

/-- Whether two tokens are equal. -/
def equal : Token → Token → Bool
  | decimal a, decimal b => a == b
  | string a, string b => a == b
  | boolean a, boolean b => a == b
  | time a, time b => a.sameInstant b
  | null, null => true
  | list a, list b => equalLists a b
  | map a, map b => a.length == b.length && includedIn a b
  | block h a, block k b => h == k && equalLists a b
  | _, _ => false

/-- Whether two lists are equal element by element. -/
def equalLists : List Token → List Token → Bool
  | [], [] => true
  | a :: as, b :: bs => equal a b && equalLists as bs
  | _, _ => false

/-- Whether each key of the first map has an equal value in the second. -/
def includedIn : List (String × Token) → List (String × Token) → Bool
  | [], _ => true
  | (k, a) :: as, bs =>
    (match Entries.get? bs k with
      | some b => equal a b
      | none => false) && includedIn as bs

end

instance : BEq Token := ⟨equal⟩

end RuleExpr.Token
