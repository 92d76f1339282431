import Varlink.Json.Strings

/-!
# Reading JSON values

Arrays and objects may stand inside each other up to a limit: the reader for the values inside one
is the reader with one level less. Values that nobody asks for are skipped, which checks their form
but looks neither at the text of strings nor at the size of numbers, and has no limit of nesting.
-/

namespace Varlink

namespace Json

/-- The number of arrays and objects that may stand inside each other. -/
def maxLevels : Nat := 127

/-- Skips blanks and takes a byte, with a fault for an input that ends here. -/
def readByte (atEnd : JsonFault) (input : List UInt8) : Reading UInt8 input :=
  match skipSpace input, skipSpace_length input with
  | [], _ => failAt atEnd []
  | byte :: rest, shorter => pure ⟨byte, rest, shorter⟩

/-- Reads the rest of a word. -/
def readRest {start : List UInt8} (word : List UInt8) (input : List UInt8)
    (within : input.length < start.length) : Reading Unit start :=
  match word, input with
  | [], input => pure ⟨(), input, within⟩
  | _ :: _, [] => failAt .endInValue []
  | expected :: word, byte :: rest =>
    if byte = expected then readRest word rest (length_lt_of_cons within)
    else failAt .expectedIdentifier rest

/-- Reads up to the next key of an object, past its opening quote, or past the end of the object;
tells whether there is a key. -/
def readNextKey (first : Bool) (input : List UInt8) : Reading Bool input := do
  let ⟨byte, rest, shorter⟩ ← readByte .endInObject input
  if byte = closeBrace then pure ⟨false, rest, shorter⟩
  else if first then
    if byte = quote then pure ⟨true, rest, shorter⟩ else failAt .keyMustBeString rest
  else if byte = comma then do
    let ⟨byte, after, further⟩ ← readByte .endInValue rest
    if byte = quote then pure ((Found.mk true after further).behind shorter)
    else if byte = closeBrace then failAt .trailingComma after
    else failAt .keyMustBeString after
  else failAt .expectedCommaOrBrace rest

/-- Reads the colon after a key. -/
def readColon (input : List UInt8) : Reading Unit input := do
  let ⟨byte, rest, shorter⟩ ← readByte .endInObject input
  if byte = colon then pure ⟨(), rest, shorter⟩ else failAt .expectedColon rest

/-- Reads a member of an object after the opening quote of its key. -/
def readMember (readInner : (input : List UInt8) → Reading Json input) (input : List UInt8) :
    Reading (String × Json) input := do
  let ⟨key, afterKey, first⟩ ← readString input
  let ⟨_, afterColon, second⟩ ← readColon afterKey
  let value ← readInner afterColon
  pure (((value.map fun value => (key, value)).behind second).behind first)

/-- Reads the members of an object from one place between them on. -/
def readMembers (readInner : (input : List UInt8) → Reading Json input) (first : Bool)
    (input : List UInt8) : Reading (List (String × Json)) input := do
  let ⟨more, rest, shorter⟩ ← readNextKey first input
  if more then do
    let ⟨(key, value), afterMember, further⟩ ← readMember readInner rest
    let members ← readMembers readInner false afterMember
    pure (((members.map ((key, value) :: ·)).behind further).behind shorter)
  else pure ⟨[], rest, shorter⟩
termination_by input.length
decreasing_by exact Nat.lt_trans further shorter

/-- Reads the items of an array, of which there is at least one. -/
def readItems (readInner : (input : List UInt8) → Reading Json input) (input : List UInt8) :
    Reading (List Json) input := do
  let ⟨item, afterItem, first⟩ ← readInner input
  let ⟨byte, rest, second⟩ ← readByte .endInList afterItem
  if byte = closeBracket then pure ((Found.mk [item] rest second).behind first)
  else if byte = comma then
    match skipSpace rest with
    | [] => failAt .endInValue []
    | next :: past =>
      if next = closeBracket then failAt .trailingComma past
      else do
        let items ← readItems readInner rest
        pure (((items.map (item :: ·)).behind second).behind first)
  else failAt .expectedCommaOrBracket rest
termination_by input.length
decreasing_by exact Nat.lt_trans second first

/-- Reads an array after its opening bracket. -/
def readArray (readInner : (input : List UInt8) → Reading Json input) (input : List UInt8) :
    Reading (List Json) input := do
  let ⟨byte, rest, shorter⟩ ← readByte .endInList input
  if byte = closeBracket then pure ⟨[], rest, shorter⟩ else readItems readInner input

/-- Reads a value in which at most `levels` arrays and objects stand inside each other. -/
def readValue (levels : Nat) (input : List UInt8) : Reading Json input := do
  let ⟨byte, rest, shorter⟩ ← readByte .endInValue input
  if byte = lowerN then do
    let found ← readRest (utf8Bytes "ull") rest shorter
    pure (found.map fun _ => .null)
  else if byte = lowerT then do
    let found ← readRest (utf8Bytes "rue") rest shorter
    pure (found.map fun _ => .bool true)
  else if byte = lowerF then do
    let found ← readRest (utf8Bytes "alse") rest shorter
    pure (found.map fun _ => .bool false)
  else if byte = minus then do
    let found ← readNumber true rest
    pure ((found.map .number).behind shorter)
  else if isDigit byte then do
    let found ← readNumber false (byte :: rest)
    pure ((found.map .number).within shorter)
  else if byte = quote then do
    let found ← readString rest
    pure ((found.map .string).behind shorter)
  else if byte = openBracket then
    match levels with
    | 0 => failAt .nestingTooDeep rest
    | levels + 1 => do
      let found ← readArray (readValue levels) rest
      pure ((found.map .array).behind shorter)
  else if byte = openBrace then
    match levels with
    | 0 => failAt .nestingTooDeep rest
    | levels + 1 => do
      let found ← readMembers (readValue levels) true rest
      pure ((found.map ofMembers).behind shorter)
  else failAt .expectedValue rest

/-- Fails unless only blanks are left. -/
def readEnd (input : List UInt8) : Except JsonPlacedFault Unit :=
  match skipSpace input with
  | [] => .ok ()
  | _ :: rest => failAt .trailingCharacters rest

/-- The value a text holds, if at most `levels` arrays and objects stand inside each other in it. No
value of a text is nested deeper than the text is long. -/
def parseWithin (levels : Nat) (text : List UInt8) : Except JsonError Json :=
  (do
    let found ← readValue levels text
    readEnd found.rest
    return found.value).mapError (JsonError.ofPlaced text)

/-- The value a text holds. -/
def parse (text : List UInt8) : Except JsonError Json := parseWithin maxLevels text

/-- Skips a key of an object after its opening quote, with the colon behind it. -/
def skipKey (input : List UInt8) : Reading Unit input := do
  let ⟨_, afterKey, shorter⟩ : Found Unit input ← skipString input (length_le_self input)
  let colon ← readColon afterKey
  pure (colon.behind shorter)

mutual

/-- Skips a value. -/
def skipValue (input : List UInt8) : Reading Unit input := do
  let ⟨byte, rest, shorter⟩ ← readByte .endInValue input
  if byte = lowerN then readRest (utf8Bytes "ull") rest shorter
  else if byte = lowerT then readRest (utf8Bytes "rue") rest shorter
  else if byte = lowerF then readRest (utf8Bytes "alse") rest shorter
  else if byte = minus then do
    let found ← readLiteral .invalidNumber rest
    pure ((found.map fun _ => ()).behind shorter)
  else if isDigit byte then do
    let found ← readLiteral .invalidNumber (byte :: rest)
    pure ((found.map fun _ => ()).within shorter)
  else if byte = quote then do
    let found : Found Unit rest ← skipString rest (length_le_self rest)
    pure (found.behind shorter)
  else if byte = openBracket then do
    let ⟨next, past, further⟩ ← readByte .endInList rest
    if next = closeBracket then pure ((Found.mk () past further).behind shorter)
    else do
      let found ← skipItems rest
      pure (found.behind shorter)
  else if byte = openBrace then do
    let ⟨next, past, further⟩ ← readByte .endInObject rest
    if next = closeBrace then pure ((Found.mk () past further).behind shorter)
    else do
      let found ← skipMembers rest
      pure (found.behind shorter)
  else failAt .expectedValue rest
termination_by (input.length, 0)

/-- Skips the items of an array, of which there is at least one. -/
def skipItems (input : List UInt8) : Reading Unit input := do
  let ⟨_, afterItem, first⟩ ← skipValue input
  let ⟨byte, rest, second⟩ ← readByte .endInList afterItem
  if byte = comma then do
    let found ← skipItems rest
    pure ((found.behind second).behind first)
  else if byte = closeBracket then pure ((Found.mk () rest second).behind first)
  else failAt .expectedCommaOrBracket rest
termination_by (input.length, 1)

/-- Skips the members of an object, of which there is at least one. -/
def skipMembers (input : List UInt8) : Reading Unit input := do
  let ⟨byte, rest, first⟩ ← readByte .endInObject input
  if byte = quote then do
    let ⟨_, afterColon, second⟩ ← skipKey rest
    let ⟨_, afterValue, third⟩ ← skipValue afterColon
    let ⟨byte, after, fourth⟩ ← readByte .endInObject afterValue
    if byte = comma then do
      let found ← skipMembers after
      pure ((((found.behind fourth).behind third).behind second).behind first)
    else if byte = closeBrace then
      pure ((((Found.mk () after fourth).behind third).behind second).behind first)
    else failAt .expectedCommaOrBrace after
  else failAt .keyMustBeString rest
termination_by (input.length, 0)

end

end Json

end Varlink
