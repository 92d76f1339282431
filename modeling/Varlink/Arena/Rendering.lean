import Varlink.Arena
import Varlink.Client.RustModule
import Varlink.Client.TypeScript

/-!
# Reading an arena

What is made of an arena once it is complete: its text, and the outline of a client. Both look at a
slot, and at the slots it refers to, without a record of where they have been. They end because a
reference to a declared type is written by its name.
-/

namespace Varlink

/-- How a language writes types: those with a name, the built-in ones, and what a modifier makes of a
type. -/
structure TypeWriter (α : Type) where
  named : String → α
  builtin : Builtin → α
  modified : Modifier → α → α

/-- Types in TypeScript. -/
def TypeScript.typeWriter : TypeWriter String where
  named := id
  builtin := builtinType
  modified
    | .maybe, inner => inner ++ " | null"
    | .array, inner => listType inner
    | .dictionary, inner => "Record<string, " ++ inner ++ ">"

/-- Types in Rust, where not every name can be written. -/
def RustType.typeWriter : TypeWriter (Option RustType) where
  named name := (RustName.ofString? name).map named
  builtin leaf := some (builtin leaf)
  modified
    | .maybe, inner => inner.map option
    | .array, inner => inner.map vec
    | .dictionary, inner => inner.map map

namespace Arena

/-- The name of a declared type. -/
def typedefName (slot : Slot) : Work String :=
  match slot.name with
  | some name => return name
  | none => throw (.unmet .typedefNamed)

mutual

/-- A type as it is written where it is used. -/
def showType (arena : Arena) (number : Nat) : Work String := do
  let slot ← arena.read number
  if slot.origin = .typedef then typedefName slot
  else match slot.kind with
  | .builtin leaf => return leaf.spelling
  | .modified modifier inner => return modifier.spelling ++ (← arena |>.showType inner)
  | .group .. => arena |>.showBody number
partial_fixpoint

/-- The members of a struct or an enum as they are written. -/
def showBody (arena : Arena) (number : Nat) : Work String := do
  let slot ← arena.read number
  if slot.isGroup then
    let members ← slot.members.mapM fun (name, type) =>
      match type with
      | some type => return name ++ ": " ++ (← arena |>.showType type)
      | none => return name
    return "(" ++ ", ".intercalate members ++ ")"
  else arena |>.showType number
partial_fixpoint

end

/-- The text of a declared type; other types are written where they are used. -/
def showTypedef (arena : Arena) (number : Nat) : Work String := do
  let slot ← arena.read number
  if slot.origin = .typedef then
    return "\ntype " ++ (← typedefName slot) ++ " " ++ (← arena.showBody number) ++ "\n"
  else return ""

/-- The text of an error. -/
def showError (arena : Arena) (error : ArenaError) : Work String :=
  return "\nerror " ++ error.name ++ " " ++ (← arena.showType error.parameters) ++ "\n"

/-- The text of a method. -/
def showMethod (arena : Arena) (method : ArenaMethod) : Work String :=
  return "\nmethod " ++ method.name ++ " " ++ (← arena.showType method.parameters) ++ " -> "
    ++ (← arena.showType method.results) ++ "\n"

/-- The text of an arena. -/
def print (arena : Arena) : Work String :=
  return "interface " ++ arena.name ++ "\n"
    ++ String.join (← arena.typedefs.mapM arena.showTypedef)
    ++ String.join (← arena.errors.mapM arena.showError)
    ++ String.join (← arena.methods.mapM arena.showMethod)

/-- Whether something registered has a name. -/
def isTaken (arena : Arena) (name : String) : Work Bool :=
  arena.typedefs.anyM fun number => return (← arena.read number).name = some name

/-- The name of the client, lengthened until it is free. -/
def freeName (arena : Arena) (client : String) : Work String := do
  if ← arena.isTaken client <||> arena.isTaken (Interface.errorTypeName client) then
    arena |>.freeName (client ++ "Client")
  else return client
partial_fixpoint

/-- The beginning of the client's name. -/
def clientStem (arena : Arena) : String :=
  let stem := Text.pascalCase (Interface.lastSegment arena.name)
  if stem.toList.head?.any Text.isAlphabetic then stem else "Interface" ++ stem

/-- The name of a struct or an enum. -/
def declarationName (arena : Arena) (number : Nat) : Work String := do
  match (← arena.read number).name with
  | some name => return name
  | none => throw (.unmet .declarationNamed)

/-- The type of a member. -/
def memberType (arena : Arena) (number : Nat) : Work MemberType := do
  match (← arena.read number).kind with
  | .builtin leaf => return .builtin leaf
  | .modified modifier inner => return .modified modifier (← arena |>.memberType inner)
  | .group .. => return .named (← arena.declarationName number)
partial_fixpoint

/-- The type of a member as a language writes it. -/
def writeType {α : Type} (arena : Arena) (writer : TypeWriter α) (number : Nat) : Work α := do
  match (← arena.read number).kind with
  | .builtin leaf => return writer.builtin leaf
  | .modified modifier inner =>
    return writer.modified modifier (← arena |>.writeType writer inner)
  | .group .. => return writer.named (← arena.declarationName number)
partial_fixpoint

/-- A field, which has a type. -/
def field (arena : Arena) : String × Option Nat → Work (String × MemberType)
  | (name, some type) => return (name, ← arena.memberType type)
  | (_, none) => throw (.unmet .memberTyped)

/-- A declaration with its members. -/
def declaration (arena : Arena) (number : Nat) : Work (String × Members) := do
  let slot ← arena.read number
  let name ← arena.declarationName number
  match slot.kind with
  | .group .struct members => return (name, .struct (← members.mapM arena.field))
  | .group .enum members => return (name, .enum (members.map (·.1)))
  | _ => throw (.unmet .declaration)

/-- The name of what a method or an error takes or gives, unless it is suppressed. -/
def wrapper (arena : Arena) (number : Nat) : Work (Option String) := do
  if (← arena.read number).origin = .suppressedWrapper then return none
  else return some (← arena.declarationName number)

/-- The outline of an error. -/
def errorOutline (arena : Arena) (error : ArenaError) : Work ErrorOutline :=
  return ⟨error.name, arena.name ++ "." ++ error.name, ← arena.wrapper error.parameters⟩

/-- The outline of a call. -/
def callOutline (arena : Arena) (method : ArenaMethod) : Work CallOutline :=
  return ⟨method.name, arena.name ++ "." ++ method.name, ← arena.wrapper method.parameters,
    ← arena.wrapper method.results⟩

/-- The outline of the client. -/
def outline (arena : Arena) : Work Outline := do
  let client ← arena.freeName arena.clientStem
  let declarations ← arena.typedefs.mapM arena.declaration
  let errors ← arena.errors.mapM arena.errorOutline
  let calls ← arena.methods.mapM arena.callOutline
  return ⟨arena.name, declarations, client, Interface.errorTypeName client, errors, calls⟩

/-- The text of the client in TypeScript. -/
def typeScript (arena : Arena) : Work String :=
  return (← arena.outline).toTypeScript

end Arena

end Varlink
