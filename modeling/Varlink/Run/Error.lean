import Varlink.Connection.Error
import Varlink.Interface.Source

/-!
# Errors of a run

What can go wrong on the way from an input to the generated code, and how it is reported: an error
followed by its causes, the nearest first.
-/

namespace Varlink

/-- Why a run, or one of its interfaces, failed. -/
inductive RunError where
  | cannotRead (path : String) (cause : SystemError)
  | cannotFetch (url : String) (cause : SystemError)
  | serviceFailed (address : String) (cause : CallError)
  | invalidDefinition (origin : String) (cause : DefinitionError)
  | cannotWrite (path : String) (cause : SystemError)
  /-- So many of the interfaces failed. -/
  | incomplete (failed total : Nat)
  deriving Repr

namespace RunError

/-- The error as it is shown, without its causes. -/
def message : RunError → String
  | cannotRead path _ => "cannot read " ++ path
  | cannotFetch url _ => "cannot fetch " ++ url
  | serviceFailed address _ => "service at " ++ address ++ " failed"
  | invalidDefinition origin _ => "invalid interface definition in " ++ origin
  | cannotWrite path _ => "cannot write " ++ path
  | incomplete failed total => toString failed ++ " of " ++ toString total ++ " interfaces failed"

/-- The causes of the error, the nearest first. -/
def causes : RunError → List String
  | cannotRead _ cause | cannotFetch _ cause | cannotWrite _ cause => [cause.message]
  | serviceFailed _ cause => cause.message :: cause.cause?.toList
  | invalidDefinition _ cause => [cause.message]
  | incomplete .. => []

/-- The error with its causes. -/
def report (error : RunError) : String :=
  ": ".intercalate (error.message :: error.causes)

end RunError

end Varlink
