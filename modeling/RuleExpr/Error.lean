import RuleExpr.Decimal.Fault
import RuleExpr.Kind

/-!
# Errors

Every failure of reading, dispatch and evaluation is a cause with its particulars. An error that leaves a call is
wrapped with the signature of the called function (`Error.call`), so it shows the calls it came through.

- `Error.message` is the wording, the signatures of the calls first;
- `Error.root` is the cause below the calls, `Error.kind` tells which cause it is, `Error.trace` are the calls,
  outermost first;
- an overflow is an error that nothing recovers from (`Error.aborts`): whatever meets it ends with it.
-/

namespace RuleExpr

/-- Why a source text cannot be read. -/
inductive SyntaxFault where
  | unterminatedBlock
  | unterminatedString
  | unbalancedParen
  deriving DecidableEq

/-- Why a text is not a signature. -/
inductive SignatureFault where
  | missingOpen
  | missingClose
  | closeBeforeOpen
  | badName
  | innerVariadic
  | unknownKind (text : String)
  | unknownReturn (text : String)
  deriving DecidableEq

/-- What a registry holds. -/
inductive EntryKind where
  | function
  | template
  deriving DecidableEq

/-- Why a registry refuses a change: the entry exists already, or there is none. -/
inductive Conflict where
  | already (entry : EntryKind) (signature : String)
  | missing (entry : EntryKind) (signature : String)
  deriving DecidableEq

/-- Why an argument has the right kind and is still refused. -/
inductive ArgumentFault where
  | unknownKind (name : String)
  | notAnIndex (function : String) (value : Decimal)
  | itemOutOfRange (index length : Nat)
  | emptyList (function : String)
  | missingBody (function : String)
  | notALambda (function : String) (found : String)
  | keyWithoutValue (key : String)
  | emptySeparator
  | invalidPattern
  | invalidLayout (layout : String)
  | notATime (text : String)
  | layoutMismatch (text layout : String)
  | noMidnight (time : String)
  | placeholderIndex (index : Decimal)
  | placeholderRange (index count : Nat)
  | divergentTemplate (signature : String) (passes : Nat)
  | other (text : String)
  deriving DecidableEq

/-- A failure. -/
inductive Error where
  | syntaxError (offset : Nat) (fault : SyntaxFault)
  | unboundName (path : String)
  | kindMismatch (context : String) (expected found : Kind)
  | arity (name : String) (count : Nat)
  | templateNotFound (name : String)
  | userPanic (text : String)
  | recursionLimit (limit : Nat)
  | registryConflict (conflict : Conflict)
  | invalidSignature (text : String) (fault : SignatureFault)
  | invalidArgument (fault : ArgumentFault)
  | decimal (fault : Decimal.Fault)
  | call (signature : String) (cause : Error)
  deriving DecidableEq

/-- Which cause an error has, whatever calls it came through. -/
inductive ErrorKind where
  | syntaxError
  | unboundName
  | kindMismatch
  | arity
  | templateNotFound
  | userPanic
  | recursionLimit
  | registryConflict
  | invalidSignature
  | invalidArgument
  | decimal
  | overflow
  deriving DecidableEq

/-! ## Wording -/

/-- The wording of a syntax fault. -/
def SyntaxFault.message : SyntaxFault → String
  | unterminatedBlock => "unterminated block"
  | unterminatedString => "unterminated string"
  | unbalancedParen => "unbalanced paren"

/-- The wording of a fault in a signature. -/
def SignatureFault.message : SignatureFault → String
  | missingOpen => "missing `(`"
  | missingClose => "missing `)`"
  | closeBeforeOpen => "`)` before `(`"
  | badName => "name must be a single non-empty word"
  | innerVariadic => "only the last parameter may be variadic"
  | unknownKind text => s!"unknown kind `{text}`"
  | unknownReturn text => s!"unknown return kind `{text}`"

/-- The word for what a registry holds. -/
def EntryKind.name : EntryKind → String
  | function => "function"
  | template => "template"

/-- The wording of a conflict. -/
def Conflict.message : Conflict → String
  | already entry signature => s!"{entry.name} {signature} is already registered"
  | missing entry signature => s!"{entry.name} {signature} is not registered"

/-- The wording of a refusal. -/
def ArgumentFault.message : ArgumentFault → String
  | unknownKind name => s!"unknown kind `{name}`"
  | notAnIndex function value => s!"{function}: expected a non-negative integer, got {value}"
  | itemOutOfRange index length => s!"item: index {index} out of range for a list of {length}"
  | emptyList function => s!"{function}: empty list"
  | missingBody function => s!"{function}: missing loop body"
  | notALambda function found => s!"{function}: expected `((name) body)`, got {found}"
  | keyWithoutValue key => s!"kv: key `{key}` has no value"
  | emptySeparator => "split: empty separator"
  | invalidPattern => "~: invalid pattern"
  | invalidLayout layout => s!"invalid time layout `{layout}`"
  | notATime text => s!"parseTime: `{text}`"
  | layoutMismatch text layout => s!"parseTime: `{text}` does not match `{layout}`"
  | noMidnight time => s!"date: no midnight for {time}"
  | placeholderIndex index => s!"invalid placeholder index {index}"
  | placeholderRange index count => s!"placeholder (# {index}) out of range for {count} argument(s)"
  | divergentTemplate signature passes => s!"template {signature}: placeholders still present after {passes} passes"
  | other text => text

namespace Error

/-- The wording of an error, the signatures of the calls it came through first. -/
def message : Error → String
  | syntaxError offset fault => s!"syntax error at offset {offset}: {fault.message}"
  | unboundName path => s!"unbound name `{path}`"
  | kindMismatch context expected found => s!"kind mismatch in `{context}`: expected {expected}, found {found}"
  | arity name count => s!"no overload of `{name}` accepts {count} argument(s)"
  | templateNotFound name => s!"template not found: `{name}`"
  | userPanic text => s!"panic: {text}"
  | recursionLimit limit => s!"maximum recursion depth of {limit} reached"
  | registryConflict conflict => s!"registry conflict: {conflict.message}"
  | invalidSignature text fault => s!"invalid signature `{text}`: {fault.message}"
  | invalidArgument fault => s!"invalid argument: {fault.message}"
  | decimal fault => fault.message
  | call signature cause => s!"{signature}: {cause.message}"

/-- The cause below the calls. -/
def root : Error → Error
  | call _ cause => cause.root
  | e => e

/-- Which cause is below the calls. -/
def kind : Error → ErrorKind
  | syntaxError .. => .syntaxError
  | unboundName _ => .unboundName
  | kindMismatch .. => .kindMismatch
  | arity .. => .arity
  | templateNotFound _ => .templateNotFound
  | userPanic _ => .userPanic
  | recursionLimit _ => .recursionLimit
  | registryConflict _ => .registryConflict
  | invalidSignature .. => .invalidSignature
  | invalidArgument _ => .invalidArgument
  | decimal .overflow => .overflow
  | decimal _ => .decimal
  | call _ cause => cause.kind

/-- The error of an overflow. -/
def overflow : Error := .decimal .overflow

/-- Whether the cause is an overflow, after which nothing is evaluated any more. -/
def aborts (e : Error) : Bool := e.kind = .overflow

/-- The signatures of the calls the error came through, outermost first. -/
def trace : Error → List String
  | call signature cause => signature :: cause.trace
  | _ => []

end Error

end RuleExpr
