import Varlink.Input
import Varlink.Run.Error
import Varlink.Run.Host
import Varlink.Service

/-!
# Loading definitions

An input is loaded as a list of definitions. A file or a web address holds one. A service has one for
each of its interfaces, in the order in which it names them, and is asked for every single one: a
definition that cannot be had is in the list all the same, with the reason in place of its text. Loading
fails as a whole only if the input itself is out of reach.
-/

namespace Varlink

/-- The text of an interface definition, or why it cannot be had, and where it comes from. -/
structure Definition where
  origin : String
  text : Except RunError String

namespace Definition

/-- Asks a service for the definition of an interface. -/
def ofInterface (address interface : String) : StateM Connection Definition := do
  let text ← (Service.description interface).run
  return ⟨address ++ " (" ++ interface ++ ")", text.mapError (.serviceFailed address)⟩

/-- Asks a service for the definitions of its interfaces. -/
def ofService (address : String) :
    StateM Connection (Except RunError (ServiceInfo × List Definition)) := do
  match ← Service.info.run with
  | .error error => return .error (.serviceFailed address error)
  | .ok info => do
    let definitions ← info.interfaces.mapM (ofInterface address)
    return .ok (info, definitions)

variable {m : Type → Type} [Monad m] [Host m]

/-- Connects to a service and asks it for its definitions. -/
def loadService (address : String) : m (Except RunError (List Definition)) := do
  match Address.parse? address with
  | none => return .error (.serviceFailed address (.invalidAddress address))
  | some target =>
    match ← Host.connect target with
    | .error cause => return .error (.serviceFailed address (.connectionFailed cause))
    | .ok connection => do
      let (loaded, connection) := (ofService address).run connection
      Host.disconnect connection
      match loaded with
      | .error error => return .error error
      | .ok (info, definitions) => do
        Host.record
          (.connectedToService info.vendor info.product info.version info.interfaces.length)
        return .ok definitions

/-- The definitions of an input. -/
def load : Input → m (Except RunError (List Definition))
  | .file path => do
    match ← Host.readFile path with
    | .error cause => return .error (.cannotRead path cause)
    | .ok text => return .ok [⟨path, .ok text⟩]
  | .url url => do
    match ← Host.fetch url with
    | .error cause => return .error (.cannotFetch url cause)
    | .ok text => return .ok [⟨url, .ok text⟩]
  | .service address => loadService address

end Definition

end Varlink
