import Varlink.Json.Number

/-!
# Reading JSON strings

A string is read as bytes up to its closing quote, with its escapes replaced, and only then has to be
UTF-8. Where it is not, the fault lies before the end of the string by as many bytes as there are from
the first bad byte on, counted after the escapes were replaced. A code point beyond the basic plane is
escaped as a pair of surrogates, and a surrogate without its partner is no text. A string that is
skipped is only checked for its escapes and its end.
-/

namespace Varlink

namespace Json

/-- Reads four hexadecimal digits. -/
def readHex (input : List UInt8) : Reading Nat input :=
  match input with
  | a :: b :: c :: d :: rest =>
    match hexValue? a, hexValue? b, hexValue? c, hexValue? d with
    | some a, some b, some c, some d =>
      pure (Found.head (((a * 16 + b) * 16 + c) * 16 + d)).afterHead.afterHead.afterHead
    | _, _, _, _ => failAt .invalidEscape rest
  | _ => failAt .endInString []

/-- Reads one given byte of a surrogate pair. -/
def readPairMark (mark : UInt8) (input : List UInt8) : Reading Unit input :=
  match input with
  | [] => failAt .endInString []
  | byte :: rest =>
    if byte = mark then pure (.head ()) else failAt .unexpectedEndOfEscape rest

/-- Reads an escaped code point after the letter that announces it. -/
def readCodePoint (input : List UInt8) : Reading Nat input := do
  let ⟨lead, rest, shorter⟩ ← readHex input
  if 0xDC00 ≤ lead && lead ≤ 0xDFFF then failAt .loneSurrogate rest
  else if lead < 0xD800 || 0xDBFF < lead then pure ⟨lead, rest, shorter⟩
  else do
    let ⟨_, afterMark, second⟩ ← readPairMark backslash rest
    let ⟨_, afterLetter, third⟩ ← readPairMark lowerU afterMark
    let trail ← readHex afterLetter
    if trail.value < 0xDC00 || 0xDFFF < trail.value then failAt .loneSurrogate trail.rest
    else
      pure ((((trail.map fun trail => 0x10000 + (lead - 0xD800) * 0x400 + (trail - 0xDC00)).behind
        third).behind second).behind shorter)

/-- The byte a one-letter escape stands for. -/
def simpleEscape? (letter : UInt8) : Option UInt8 :=
  if letter = quote then some quote
  else if letter = backslash then some backslash
  else if letter = slash then some slash
  else if letter = lowerB then some 0x08
  else if letter = lowerF then some 0x0C
  else if letter = lowerN then some 0x0A
  else if letter = lowerR then some 0x0D
  else if letter = lowerT then some 0x09
  else none

/-- Reads an escape after its backslash, as the bytes it stands for. -/
def readEscape (input : List UInt8) : Reading (List UInt8) input :=
  match input with
  | [] => failAt .endInString []
  | letter :: rest =>
    match simpleEscape? letter with
    | some byte => pure (.head [byte])
    | none =>
      if letter = lowerU then do
        let code ← readCodePoint rest
        pure (code.map fun code => utf8Bytes (String.singleton (Char.ofNat code))).afterHead
      else failAt .invalidEscape rest

/-- Reads the bytes of a string up to its closing quote, given the ones already taken in reverse. -/
def unescape {start : List UInt8} (taken : List UInt8) (input : List UInt8)
    (within : input.length ≤ start.length) : Reading (List UInt8) start :=
  match input with
  | [] => failAt .endInString []
  | byte :: rest =>
    if byte = quote then pure ⟨taken.reverse, rest, within⟩
    else if byte = backslash then
      match readEscape rest with
      | .error fault => .error fault
      | .ok ⟨bytes, after, shorter⟩ =>
        unescape (bytes.reverse ++ taken) after (length_le_of_lt_cons shorter within)
    else if byte < 0x20 then failAt .controlCharacter rest
    else unescape (byte :: taken) rest (length_le_of_cons within)
termination_by input.length
decreasing_by
  · exact length_lt_cons shorter _
  · exact length_tail_lt _ _

/-- Reads a string after its opening quote. -/
def readString (input : List UInt8) : Reading String input := do
  let ⟨bytes, rest, shorter⟩ ← unescape [] input (length_le_self input)
  match utf8Text? bytes with
  | some text => pure ⟨text, rest, shorter⟩
  | none => failAt .invalidUnicode (fromInvalid 0 bytes ++ rest)

/-- Skips a string after its opening quote. -/
def skipString {start : List UInt8} (input : List UInt8) (within : input.length ≤ start.length) :
    Reading Unit start :=
  match input with
  | [] => failAt .endInString []
  | byte :: rest =>
    if byte = quote then pure ⟨(), rest, within⟩
    else if byte = backslash then
      match rest with
      | [] => failAt .endInString []
      | letter :: after =>
        if (simpleEscape? letter).isSome then skipString after (length_le_of_cons_cons within)
        else if letter = lowerU then
          match readHex after with
          | .error fault => .error fault
          | .ok ⟨_, after, shorter⟩ =>
            skipString after (length_le_of_lt_cons_cons shorter within)
        else failAt .invalidEscape after
    else if byte < 0x20 then failAt .controlCharacter (byte :: rest)
    else skipString rest (length_le_of_cons within)
termination_by input.length
decreasing_by
  · exact length_lt_cons (length_tail_lt _ _) _
  · exact length_lt_cons (length_lt_cons shorter _) _
  · exact length_tail_lt _ _

end Json

end Varlink
