import Varlink.Document.Source
import Varlink.Interface.Linking
import Varlink.Interface.Naming

/-!
# Interfaces from documents and texts

A document is resolved by linking it and naming its inline types; a text is read as a document
first. Both keep the events up to the point of failure.
-/

namespace Varlink

/-- The interface a document stands for. -/
def Document.resolve (document : Document) : Logged Event ResolveError Interface := do
  let interface ← Logged.ofExcept document.link
  giveNames (interface.typedefs.map (·.name)) interface.discovered
  Logged.note
    (.resolvedInterface interface.name interface.typedefs.length interface.discovered.length)
  return interface

/-- Why a text is no interface. -/
inductive DefinitionError where
  | syntaxError (error : SyntaxError)
  | resolveError (error : ResolveError)
  deriving DecidableEq, Repr

/-- The error as it is shown. -/
def DefinitionError.message : DefinitionError → String
  | syntaxError error => error.message
  | resolveError error => error.message

/-- The interface a text defines. -/
def Interface.parse (source : String) : Logged Event DefinitionError Interface := do
  let document ← (Document.parse source).bimap id .syntaxError
  Logged.note (.parsedInterface document.name document.methods.length document.typedefs.length
    document.errors.length)
  document.resolve.bimap id .resolveError

end Varlink
