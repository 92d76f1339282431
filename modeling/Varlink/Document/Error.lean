import Varlink.Document
import Varlink.Location

/-!
# Errors of syntax

A text that is no interface definition is rejected at the first token that cannot continue one. The
error says what was found there and what would have been accepted, and where in the text it is.
-/

namespace Varlink

/-- The words a definition can call for. -/
inductive ExpectedWord where
  | interface
  | member
  deriving DecidableEq, Repr

/-- The words as messages name them. -/
def ExpectedWord.describe : ExpectedWord → String
  | interface => "interface"
  | member => "`method`, `type` or `error`"

/-- Why a text is no interface definition. -/
inductive SyntaxFault where
  /-- A token of a kind that does not fit here. -/
  | unexpectedToken (expected : List TokenKind) (found : TokenKind)
  /-- A word other than the ones that fit here. -/
  | unexpectedWord (expected : ExpectedWord) (found : String)
  /-- A member that is a field in a group of names, or a name in a group of fields. -/
  | ambiguousGroup (member : String) (committed : GroupKind)
  /-- A type that is neither a struct nor a name where a struct is needed. -/
  | unexpectedKind (site : SignatureSite)
  /-- A group or modifier too deep inside others. -/
  | nestingTooDeep
  deriving DecidableEq, Repr

/-- The fault as messages describe it. -/
def SyntaxFault.describe : SyntaxFault → String
  | unexpectedToken expected found =>
    "expected " ++ TokenKind.describeChoice expected ++ ", found " ++ found.describe
  | unexpectedWord expected found =>
    "expected " ++ expected.describe ++ ", found `" ++ found ++ "`"
  | ambiguousGroup member committed =>
    "member `" ++ member ++ "` does not fit into a group already read as " ++ committed.describe
  | unexpectedKind site => site.describe ++ " must be a struct"
  | nestingTooDeep => "types nested deeper than " ++ toString maxNesting ++ " levels"

/-- A fault and where it is. -/
structure SyntaxError where
  fault : SyntaxFault
  location : Location
  deriving DecidableEq, Repr

/-- The error as it is shown. -/
def SyntaxError.message (error : SyntaxError) : String :=
  error.location.text ++ ": " ++ error.fault.describe

end Varlink
