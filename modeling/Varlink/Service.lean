import Varlink.Connection
import Varlink.Json.Record

/-!
# What every service can be asked

Every service implements one interface by which it tells about itself and its other interfaces. The
errors of this interface have a typed form: a reply is one of them if it has the error's name and
parameters that make up the error's record.
-/

namespace Varlink

/-- What a service tells about itself. -/
structure ServiceInfo where
  vendor : String
  product : String
  version : String
  url : String
  interfaces : List String
  deriving DecidableEq, Repr

namespace ServiceInfo

/-- The record for what a service tells about itself. -/
def form : RecordForm :=
  ⟨"GetInfoResult",
    [("vendor", .text), ("product", .text), ("version", .text), ("url", .text),
      ("interfaces", .texts)]⟩

/-- Reads what a service tells about itself. -/
def read (json : Json) : Except JsonMismatch ServiceInfo := do
  let (vendor, product, version, url, interfaces, ()) ← form.read json
  return ⟨vendor, product, version, url, interfaces⟩

end ServiceInfo

namespace Service

/-- The name of the interface. -/
def interfaceName : String := "org.varlink.service"

/-- A method or error of the interface by its full name. -/
def qualified (name : String) : String := interfaceName ++ "." ++ name

/-- A record with one text. -/
def textForm (name field : String) : RecordForm := ⟨name, [(field, .text)]⟩

/-- Reads a record with one text. -/
def readTextRecord (name field : String) (json : Json) : Except JsonMismatch String := do
  let (text, ()) ← (textForm name field).read json
  return text

/-- Reads the description of an interface. -/
def readDescription : Json → Except JsonMismatch String :=
  readTextRecord "GetInterfaceDescriptionResult" "description"

/-- Asks a service about itself. -/
def info : Exchange ServiceInfo :=
  Connection.call (qualified "GetInfo") Json.empty ServiceInfo.read

/-- Asks for the definition of an interface. -/
def description (interface : String) : Exchange String :=
  Connection.call (qualified "GetInterfaceDescription")
    (Json.object [("interface", .string interface)]) readDescription

end Service

/-- The errors of the interface. -/
inductive ServiceError where
  | interfaceNotFound (interface : String)
  | methodNotFound (method : String)
  | methodNotImplemented (method : String)
  | invalidParameter (parameter : String)
  deriving DecidableEq, Repr

namespace ServiceError

/-- The name of an error within the interface. -/
def name : ServiceError → String
  | interfaceNotFound _ => "InterfaceNotFound"
  | methodNotFound _ => "MethodNotFound"
  | methodNotImplemented _ => "MethodNotImplemented"
  | invalidParameter _ => "InvalidParameter"

/-- The field that an error's record consists of, with its value. -/
def field : ServiceError → String × String
  | interfaceNotFound interface => ("interface", interface)
  | methodNotFound method => ("method", method)
  | methodNotImplemented method => ("method", method)
  | invalidParameter parameter => ("parameter", parameter)

/-- The parameters a service sends with an error. -/
def parameters (error : ServiceError) : Json :=
  .object [(error.field.1, .string error.field.2)]

/-- The typed errors, each as a function of its text. -/
def all : List (String → ServiceError) :=
  [interfaceNotFound, methodNotFound, methodNotImplemented, invalidParameter]

/-- The error that a reply with an error stands for. -/
def ofReply? (error : String) (parameters : Json) : Option ServiceError := do
  let make ← all.find? fun make => Service.qualified (make "").name = error
  let text ←
    (Service.readTextRecord ((make "").name ++ "Args") (make "").field.1 parameters).toOption
  return make text

/-- The error that a failed call stands for. -/
def ofCallError? : CallError → Option ServiceError
  | .callFailed error parameters => ofReply? error parameters
  | _ => none

end ServiceError

end Varlink
