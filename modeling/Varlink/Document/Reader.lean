import Varlink.Document.Error
import Varlink.Found
import Varlink.Logged

/-!
# Reading a document

The reader sees the tokens that carry meaning, without their places: what a text means depends on
nothing else. Faults and notes name a token by the number of tokens from it to the end, and only at
the end are these numbers turned into places of the text.

Types are read with a number of levels that may still be opened. Each group and each modifier uses
up one, so the reader for the types inside a group is the reader with one level less. A modifier
glued to the word after it reads like one that stands alone: it is taken off, and what is left of
the word is read as the next token.
-/

namespace Varlink

namespace Reader

/-- A step of the reader that is worth a note. -/
inductive Step where
  /-- A group was closed; `left` counts the tokens from its opening parenthesis to the end. -/
  | group (left : Nat) (kind : GroupKind)
  | method (name : String)
  | typedef (name : String)
  | error (name : String)
  deriving DecidableEq, Repr

/-- A fault at a token; `left` counts the tokens from it to the end, zero at the end itself. -/
structure Fault where
  fault : SyntaxFault
  left : Nat
  deriving DecidableEq, Repr

/-- What a reader of `α` makes of the tokens. -/
abbrev Reading (α : Type) (input : List Lexeme) : Type :=
  Logged Step Fault (Found α input)

/-- The kind of the next token. -/
def nextKind : List Lexeme → TokenKind
  | [] => .endOfInput
  | lexeme :: _ => lexeme.kind

/-- Rejects the next token in favour of other kinds. -/
def unexpected {α : Type} (expected : List TokenKind) (input : List Lexeme) :
    Logged Step Fault α :=
  .fail ⟨.unexpectedToken expected (nextKind input), input.length⟩

/-- Reads a word. -/
def readWord (input : List Lexeme) : Reading String input :=
  match input with
  | ⟨.word, text⟩ :: _ => pure (.head text)
  | _ => unexpected [.word] input

/-- The tokens that may follow the name of a member in a group. -/
def afterName : List TokenKind := [.colon, .separator, .groupEnd]

/-- Reads the rest of a group of names, after the name of a member. -/
def readNames (name : String) (input : List Lexeme) : Reading (List String) input :=
  match input with
  | ⟨.groupEnd, _⟩ :: _ => pure (.head [name])
  | ⟨.separator, _⟩ :: ⟨.word, next⟩ :: rest => do
    let more ← readNames next rest
    pure (more.map (name :: ·)).afterHead.afterHead
  | ⟨.separator, _⟩ :: rest => unexpected [.word] rest
  | ⟨.colon, _⟩ :: _ => .fail ⟨.ambiguousGroup name .enum, input.length + 1⟩
  | _ => unexpected afterName input

/-- Reads the rest of a group of fields, after the name of a field. -/
def readFields (readInner : (input : List Lexeme) → Reading (TypeExpr String) input)
    (name : String) (input : List Lexeme) : Reading (List (String × TypeExpr String)) input :=
  match input with
  | ⟨.colon, _⟩ :: rest => do
    let ⟨type, afterType, shorter⟩ ← readInner rest
    match afterType, shorter with
    | ⟨.groupEnd, _⟩ :: _, shorter =>
      pure ((Found.head [(name, type)]).behind shorter).afterHead
    | ⟨.separator, _⟩ :: ⟨.word, next⟩ :: after, shorter => do
      let more ← readFields readInner next after
      pure ((more.map ((name, type) :: ·)).afterHead.afterHead.behind shorter).afterHead
    | ⟨.separator, _⟩ :: after, _ => unexpected [.word] after
    | other, _ => unexpected [.separator, .groupEnd] other
  | ⟨.separator, _⟩ :: _ => .fail ⟨.ambiguousGroup name .struct, input.length + 1⟩
  | ⟨.groupEnd, _⟩ :: _ => .fail ⟨.ambiguousGroup name .struct, input.length + 1⟩
  | _ => unexpected afterName input
termination_by input.length
decreasing_by exact length_lt_cons (length_lt_of_cons (length_lt_of_cons shorter)) _

/-- Reads a group after its opening parenthesis. What follows the first name decides whether it is a
group of fields or of names; the empty group is a struct. -/
def readGroup (readInner : (input : List Lexeme) → Reading (TypeExpr String) input)
    (input : List Lexeme) : Reading (TypeExpr String) input :=
  match input with
  | ⟨.groupEnd, _⟩ :: _ => pure (.head (.struct []))
  | ⟨.word, name⟩ :: rest =>
    match nextKind rest with
    | .colon => do
      let fields ← readFields readInner name rest
      Logged.note (.group (input.length + 1) .struct)
      pure (fields.map .struct).afterHead
    | _ => do
      let names ← readNames name rest
      Logged.note (.group (input.length + 1) .enum)
      pure (names.map .enum).afterHead
  | _ => unexpected [.groupEnd, .word] input

/-- Reads a type in which `levels` more groups and modifiers may enclose each other. -/
def readType (levels : Nat) (input : List Lexeme) : Reading (TypeExpr String) input :=
  match input with
  | ⟨.groupStart, _⟩ :: rest =>
    match levels with
    | 0 => .fail ⟨.nestingTooDeep, input.length⟩
    | levels + 1 => do
      let group ← readGroup (readType levels) rest
      pure group.afterHead
  | ⟨.word, text⟩ :: rest =>
    match Modifier.ofWord? text with
    | none => pure (.head (.ofWord text))
    | some (modifier, remainder) =>
      match levels with
      | 0 => .fail ⟨.nestingTooDeep, input.length⟩
      | levels + 1 =>
        if remainder = "" then do
          let inner ← readType levels rest
          pure (inner.map (.modified modifier)).afterHead
        else do
          let inner ← readType levels (⟨.word, remainder⟩ :: rest)
          pure ((inner.map (.modified modifier)).within (Nat.le_refl _))
  | _ => unexpected [.groupStart, .word] input

/-- Reads what a method or an error takes or gives: a struct, or a name that may stand for one. -/
def readSignature (site : SignatureSite) (input : List Lexeme) :
    Reading (TypeExpr String) input := do
  let type ← readType maxNesting input
  match type.value with
  | .struct _ => pure type
  | .reference _ => pure type
  | _ => .fail ⟨.unexpectedKind site, input.length⟩

/-- Reads a method after its keyword. -/
def readMethod (input : List Lexeme) : Reading MethodDef input := do
  let ⟨name, afterName, first⟩ ← readWord input
  let ⟨parameters, afterParameters, second⟩ ←
    readSignature (.methodParameters name) afterName
  match afterParameters, second with
  | ⟨.arrow, _⟩ :: rest, second =>
    let results ← readSignature (.methodResults name) rest
    Logged.note (.method name)
    pure (((results.map (⟨name, parameters, ·⟩)).afterHead.behind second).behind first)
  | other, _ => unexpected [.arrow] other

/-- Reads a named type after its keyword. -/
def readTypedef (input : List Lexeme) : Reading TypeDef input := do
  let ⟨name, afterName, shorter⟩ ← readWord input
  let body ← readType maxNesting afterName
  Logged.note (.typedef name)
  pure ((body.map (⟨name, ·⟩)).behind shorter)

/-- Reads an error after its keyword. -/
def readError (input : List Lexeme) : Reading ErrorDef input := do
  let ⟨name, afterName, shorter⟩ ← readWord input
  let parameters ← readSignature (.errorParameters name) afterName
  Logged.note (.error name)
  pure ((parameters.map (⟨name, ·⟩)).behind shorter)

/-- Reads a member. -/
def readMember (input : List Lexeme) : Reading Member input :=
  match input with
  | ⟨.word, keyword⟩ :: rest =>
    if keyword = "method" then do
      let found ← readMethod rest
      pure (found.map .method).afterHead
    else if keyword = "type" then do
      let found ← readTypedef rest
      pure (found.map .typedef).afterHead
    else if keyword = "error" then do
      let found ← readError rest
      pure (found.map .error).afterHead
    else .fail ⟨.unexpectedWord .member keyword, input.length⟩
  | _ => unexpected [.endOfInput, .word] input

/-- Reads members up to the end. -/
def readMembers (input : List Lexeme) : Logged Step Fault (List Member) :=
  if input = [] then pure []
  else do
    let ⟨member, rest, _⟩ ← readMember input
    let members ← readMembers rest
    pure (member :: members)
termination_by input.length

/-- Reads a whole definition. -/
def readDocument (input : List Lexeme) : Logged Step Fault Document := do
  let keyword ← readWord input
  if keyword.value = "interface" then
    let name ← readWord keyword.rest
    let members ← readMembers name.rest
    pure (Document.ofMembers name.value members)
  else .fail ⟨.unexpectedWord .interface keyword.value, input.length⟩

end Reader

end Varlink
