import Varlink.Json.Error
import Varlink.SystemError

/-!
# Errors of calls

A call fails because no connection could be made or used, because its parameters cannot be written,
because what came back is no reply or a reply of the wrong form, or because the service answered with
an error.
-/

namespace Varlink

/-- Why a call failed. -/
inductive CallError where
  /-- A text that is no address. -/
  | invalidAddress (address : String)
  /-- The connection could not be made or used. -/
  | connectionFailed (cause : SystemError)
  /-- The parameters cannot be written, or what came back is not what was asked for. -/
  | malformedMessage (cause : JsonError)
  /-- The service closed the connection before the end of a reply. -/
  | connectionClosed
  /-- The service answered with an error. -/
  | callFailed (error : String) (parameters : Json)
  deriving Repr

namespace CallError

/-- The error as it is shown, without what caused it. -/
def message : CallError → String
  | invalidAddress address =>
    "invalid address " ++ Text.quoted address ++ ", expected `unix:PATH` or `tcp:HOST:PORT`"
  | connectionFailed _ => "connection failed"
  | malformedMessage _ => "malformed message"
  | connectionClosed => "connection closed before a complete reply was received"
  | callFailed error _ => "call failed with " ++ error

/-- What caused the error, if something did. -/
def cause? : CallError → Option String
  | connectionFailed cause => some cause.message
  | malformedMessage cause => some cause.message
  | _ => none

/-- The name of the error the service answered with. -/
def replyName? : CallError → Option String
  | callFailed error _ => some error
  | _ => none

end CallError

end Varlink
