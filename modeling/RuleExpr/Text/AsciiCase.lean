/-!
# Case of ASCII letters

Names are compared without regard to the case of the letters `A` to `Z`; every other character stands for itself.
-/

namespace RuleExpr.Text

/-- The text with the letters `A` to `Z` in lower case. -/
def foldCase (s : String) : String := String.ofList (s.toList.map Char.toLower)

/-- The two texts differ at most in the case of ASCII letters. -/
def sameFolded (s t : String) : Bool := foldCase s == foldCase t

end RuleExpr.Text
