import Varlink.Json.Reader
import Varlink.Json.Record

/-!
# Replies

A reply is an object that may have parameters and may name an error; null counts as absent. It may
also be an array of the two, with the same meaning for elements that are left out. Other members are
skipped, but a known one may occur only once.

A reply is read from its bytes in one pass, so the first fault of the text decides, whether it is one
of form or of content.
-/

namespace Varlink

/-- The answer to a call. -/
structure Reply where
  parameters : Option Json
  error : Option String
  deriving Repr

namespace Reply

open Json

/-- The members of a reply read so far; one that was null has been read, too. -/
structure Seen where
  parameters : Option (Option Json)
  error : Option (Option String)

/-- A reply of which nothing has been read. -/
def Seen.nothing : Seen := ⟨none, none⟩

/-- The reply of which this much has been read and no more is there. -/
def Seen.toReply (seen : Seen) : Reply := ⟨seen.parameters.join, seen.error.join⟩

/-- Reads a value that may be null. -/
def readOptional {α : Type} (readInner : (input : List UInt8) → Reading α input)
    (input : List UInt8) : Reading (Option α) input := do
  let ⟨byte, rest, shorter⟩ ← readByte .endInValue input
  if byte = lowerN then do
    let found ← readRest (utf8Bytes "ull") rest shorter
    pure (found.map fun _ => none)
  else do
    let found ← readInner input
    pure (found.map some)

/-- Fails at a value that is not the expected one. A scalar is read for the sake of the message, and
its own faults come first; an array or object is not entered. -/
def rejectValue {α : Type} (expected : String) (input : List UInt8) : Except JsonPlacedFault α :=
  match skipSpace input with
  | [] => failAt .endInValue []
  | byte :: rest =>
    if byte = openBracket then failAt (.mismatch ((Json.array []).unexpected expected)) (byte :: rest)
    else if byte = openBrace then
      failAt (.mismatch (Json.empty.unexpected expected)) (byte :: rest)
    else
      match readValue 0 input with
      | .error fault => .error fault
      | .ok found => failAt (.mismatch (found.value.unexpected expected)) found.rest

/-- Reads a string. -/
def readText (input : List UInt8) : Reading String input := do
  let ⟨byte, rest, shorter⟩ ← readByte .endInValue input
  if byte = quote then do
    let found ← readString rest
    pure (found.behind shorter)
  else rejectValue "a string" input

/-- Reads the parameters, which stand one level inside the reply. -/
def readParameters : (input : List UInt8) → Reading (Option Json) input :=
  readOptional (readValue (maxLevels - 1))

/-- Reads the name of the error. -/
def readError : (input : List UInt8) → Reading (Option String) input :=
  readOptional readText

/-- Fails at a key that occurred before. If the object ends right there, so does the fault's place. -/
def rejectKey {α : Type} (name : String) (input : List UInt8) : Except JsonPlacedFault α :=
  let fault := JsonFault.mismatch (.duplicateField name)
  match skipSpace input with
  | [] => failAt fault []
  | byte :: rest => failAt fault (if byte = closeBrace then rest else byte :: rest)

/-- Reads the value that belongs to a key, with its colon. -/
def readKeyed (seen : Seen) (key : String) (input : List UInt8) : Reading Seen input := do
  if key = "parameters" then
    if seen.parameters.isSome then rejectKey key input
    else do
      let ⟨_, afterColon, shorter⟩ ← readColon input
      let found ← readParameters afterColon
      pure ((found.map fun value => ⟨some value, seen.error⟩).behind shorter)
  else if key = "error" then
    if seen.error.isSome then rejectKey key input
    else do
      let ⟨_, afterColon, shorter⟩ ← readColon input
      let found ← readError afterColon
      pure ((found.map fun value => ⟨seen.parameters, some value⟩).behind shorter)
  else do
    let ⟨_, afterColon, shorter⟩ ← readColon input
    let found ← skipValue afterColon
    pure ((found.map fun _ => seen).behind shorter)

/-- Reads a member after the opening quote of its key. -/
def readMember (seen : Seen) (input : List UInt8) : Reading Seen input := do
  let ⟨key, afterKey, shorter⟩ ← readString input
  let found ← readKeyed seen key afterKey
  pure (found.behind shorter)

/-- Reads the members from one place between them on. -/
def readObject (seen : Seen) (first : Bool) (input : List UInt8) : Reading Seen input := do
  let ⟨more, rest, shorter⟩ ← readNextKey first input
  if more then do
    let ⟨seen, afterMember, further⟩ ← readMember seen rest
    let found ← readObject seen false afterMember
    pure ((found.behind further).behind shorter)
  else pure ⟨seen, rest, shorter⟩
termination_by input.length
decreasing_by exact Nat.lt_trans further shorter

/-- Reads what follows the last element a reply can have. -/
def readArrayEnd (input : List UInt8) : Reading Unit input := do
  let ⟨byte, rest, shorter⟩ ← readByte .endInList input
  if byte = closeBracket then pure ⟨(), rest, shorter⟩
  else if byte = comma then
    match skipSpace rest with
    | [] => failAt .trailingCharacters []
    | next :: past =>
      failAt (if next = closeBracket then .trailingComma else .trailingCharacters) past
  else failAt .trailingCharacters rest

/-- Reads an array after its opening bracket. -/
def readElements (input : List UInt8) : Reading Seen input := do
  let ⟨byte, rest, shorter⟩ ← readByte .endInList input
  if byte = closeBracket then pure ⟨.nothing, rest, shorter⟩
  else do
    let ⟨parameters, afterFirst, first⟩ ← readParameters input
    let ⟨byte, rest, second⟩ ← readByte .endInList afterFirst
    if byte = closeBracket then
      pure ((Found.mk ⟨some parameters, none⟩ rest second).behind first)
    else if byte = comma then
      match skipSpace rest with
      | [] => failAt .endInValue []
      | next :: past =>
        if next = closeBracket then failAt .trailingComma past
        else do
          let ⟨error, afterSecond, third⟩ ← readError rest
          let last ← readArrayEnd afterSecond
          pure ((((last.map fun _ => ⟨some parameters, some error⟩).behind third).behind
            second).behind first)
    else failAt .expectedCommaOrBracket rest

/-- Reads a reply. -/
def read (input : List UInt8) : Reading Seen input := do
  let ⟨byte, rest, shorter⟩ ← readByte .endInValue input
  if byte = openBracket then do
    let found ← readElements rest
    pure (found.behind shorter)
  else if byte = openBrace then do
    let found ← readObject .nothing true rest
    pure (found.behind shorter)
  else rejectValue "struct Reply" input

/-- The reply a message holds. -/
def parse (message : List UInt8) : Except JsonError Reply :=
  (do
    let found ← read message
    readEnd found.rest
    return found.value.toReply).mapError (JsonError.ofPlaced message)

end Reply

end Varlink
