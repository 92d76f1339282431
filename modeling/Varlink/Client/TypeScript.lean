import Varlink.Client.Outline

/-!
# TypeScript clients

A module with an interface for every struct, a union of strings for every enum, a union of the errors,
and a class with a method for each call. Names are written as they are declared, so the text follows
the outline piece by piece.
-/

namespace Varlink

namespace TypeScript

/-- A built-in type. -/
def builtinType : Builtin → String
  | .bool => "boolean"
  | .int | .float => "number"
  | .string => "string"
  | .object => "unknown"

/-- A list type. The brackets bind tighter than the bar of a union. -/
def listType (inner : String) : String :=
  if inner.contains '|' then "(" ++ inner ++ ")[]" else inner ++ "[]"

/-- A type. -/
def memberType : MemberType → String
  | .named name => name
  | .builtin leaf => builtinType leaf
  | .modified .maybe inner => memberType inner ++ " | null"
  | .modified .array inner => listType (memberType inner)
  | .modified .dictionary inner => "Record<string, " ++ memberType inner ++ ">"

/-- A text between double quotes. -/
def literal (text : String) : String := "\"" ++ text ++ "\""

/-- A member of a struct. -/
def field (name : String) (type : MemberType) : String :=
  "  " ++ name ++ (if type.isOptional then "?" else "") ++ ": " ++ memberType type ++ ";\n"

/-- A declaration. -/
def declaration (name : String) : Members → String
  | .struct fields =>
    "\nexport interface " ++ name ++ " \x7b\n"
      ++ String.join (fields.map fun (name, type) => field name type) ++ "\x7d\n"
  | .enum members =>
    "\nexport type " ++ name ++ " = " ++ " | ".intercalate (members.map literal) ++ ";\n"

/-- A case of the union of errors. -/
def errorCase (error : ErrorOutline) : String :=
  let name := "error: " ++ literal error.qualified
  match error.parameters with
  | some parameters => "  | \x7b " ++ name ++ "; parameters: " ++ parameters ++ " \x7d"
  | none => "  | \x7b " ++ name ++ " \x7d"

/-- The union of errors, unless there are none. -/
def errorUnion (name : String) (errors : List ErrorOutline) : String :=
  if errors.isEmpty then ""
  else "\nexport type " ++ name ++ " =\n" ++ "\n".intercalate (errors.map errorCase) ++ ";\n"

/-- The type that stands for how calls are made. -/
def transport : String :=
  "\n/** Sends one call and resolves with the `parameters` of its reply. */\n"
    ++ "export interface Transport \x7b\n"
    ++ "  call(method: string, parameters: object): Promise<unknown>;\n\x7d\n"

/-- The name of the method for a call. -/
def methodName (call : CallOutline) : String := Text.camelCase call.name

/-- A method of the client. -/
def method (call : CallOutline) : String :=
  let (argument, value) := match call.parameters with
    | some name => ("args: " ++ name, "args")
    | none => ("", "\x7b\x7d")
  let sent := "await this.transport.call(" ++ literal call.qualified ++ ", " ++ value ++ ")"
  let head := "\n  async " ++ methodName call ++ "(" ++ argument ++ "): Promise<"
  match call.results with
  | some result =>
    head ++ result ++ "> \x7b\n    return (" ++ sent ++ ") as " ++ result ++ ";\n  \x7d\n"
  | none => head ++ "void> \x7b\n    " ++ sent ++ ";\n  \x7d\n"

/-- The client. -/
def client (outline : Outline) : String :=
  "\n/** Client for the `" ++ outline.interfaceName ++ "` interface. */\n"
    ++ "export class " ++ outline.clientName ++ " \x7b\n"
    ++ "  constructor(private readonly transport: Transport) \x7b\x7d\n"
    ++ String.join (outline.calls.map method) ++ "\x7d\n"

end TypeScript

/-- The text of a client in TypeScript. -/
def Outline.toTypeScript (outline : Outline) : String :=
  "// Generated by " ++ generatorSignature ++ " from `" ++ outline.interfaceName ++ "`\n\n"
    ++ "export const INTERFACE_NAME = " ++ TypeScript.literal outline.interfaceName ++ ";\n"
    ++ String.join (outline.declarations.map fun (name, members) =>
      TypeScript.declaration name members)
    ++ TypeScript.errorUnion outline.errorTypeName outline.errors ++ TypeScript.transport
    ++ TypeScript.client outline

end Varlink
