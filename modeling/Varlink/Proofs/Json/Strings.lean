import Mathlib.Data.List.Basic
import Varlink.Json.Strings
import Varlink.Proofs.Outcome

/-!
# Strings read back

A string is written byte by byte: a byte stays as it is or becomes an escape, and an escape is read as
the byte it was made from. No byte of an escape is a quote that would end the string, or a zero that
would end the message the string is sent in.
-/

namespace Varlink

theorem utf8Bytes_append (first second : String) :
    utf8Bytes (first ++ second) = utf8Bytes first ++ utf8Bytes second := by
  simp [utf8Bytes, String.toUTF8]

theorem utf8Text?_utf8Bytes (text : String) : utf8Text? (utf8Bytes text) = some text := by
  have valid : text.toByteArray.IsValidUTF8 := text.isValidUTF8
  show String.fromUTF8? text.toByteArray = some text
  rw [String.fromUTF8?, dif_pos valid]
  rfl

namespace Json

/-- A reader takes a value off its input and leaves the rest. -/
def Gives {α : Type} {input : List UInt8} (reading : Reading α input) (value : α)
    (rest : List UInt8) : Prop :=
  ∃ shorter, reading = .ok ⟨value, rest, shorter⟩

/-- What is read next is read from the rest. -/
theorem Gives.bind {α β : Type} {input start rest after : List UInt8} {reading : Reading α input}
    {next : Found α input → Reading β start} {value : α} {result : β}
    (first : Gives reading value rest)
    (second : ∀ shorter, Gives (next ⟨value, rest, shorter⟩) result after) :
    Gives (reading >>= next) result after := by
  obtain ⟨shorter, read⟩ := first
  obtain ⟨further, read'⟩ := second shorter
  exact ⟨further, bind_eq_ok.mpr ⟨_, read, read'⟩⟩

theorem hexValue?_hexDigit : ∀ value < 16, hexValue? (hexDigit value) = some value := by
  decide +kernel

theorem hexDigit_ne_zero : ∀ value < 16, hexDigit value ≠ 0 := by
  decide +kernel

/-- A control character is one byte. -/
theorem utf8Bytes_control :
    ∀ value < 0x20, utf8Bytes (String.singleton (Char.ofNat value)) = [UInt8.ofNat value] := by
  decide +kernel

/-- What is written for a byte: a letter that stands for it, its value, or the byte itself. -/
theorem escapeByte_cases (byte : UInt8) :
    (∃ letter, simpleEscape? letter = some byte ∧ letter ≠ 0 ∧
      escapeByte byte = [backslash, letter]) ∨
    (byte.toNat < 0x20 ∧ escapeByte byte =
      [backslash, lowerU, zero, zero, hexDigit (byte.toNat / 16), hexDigit (byte.toNat % 16)]) ∨
    (byte ≠ quote ∧ byte ≠ backslash ∧ ¬ byte < 0x20 ∧ escapeByte byte = [byte]) := by
  rw [escapeByte]
  split_ifs with isQuote isBackslash _ _ _ _ _ small
  · exact .inl ⟨quote, by rw [isQuote]; rfl, by decide, rfl⟩
  · exact .inl ⟨backslash, by rw [isBackslash]; rfl, by decide, rfl⟩
  · subst byte
    exact .inl ⟨lowerB, by decide, by decide, rfl⟩
  · subst byte
    exact .inl ⟨lowerT, by decide, by decide, rfl⟩
  · subst byte
    exact .inl ⟨lowerN, by decide, by decide, rfl⟩
  · subst byte
    exact .inl ⟨lowerF, by decide, by decide, rfl⟩
  · subst byte
    exact .inl ⟨lowerR, by decide, by decide, rfl⟩
  · exact .inr (.inl ⟨UInt8.lt_iff_toNat_lt.mp small, rfl⟩)
  · exact .inr (.inr ⟨isQuote, isBackslash, small, rfl⟩)

theorem ne_zero_of_mem_escapeByte {byte written : UInt8} (inside : written ∈ escapeByte byte) :
    written ≠ 0 := by
  obtain ⟨letter, -, notZero, isEscape⟩ | ⟨small, isEscape⟩ | ⟨-, -, large, isEscape⟩ :=
    escapeByte_cases byte
  · rw [isEscape] at inside
    rcases List.mem_pair.mp inside with rfl | rfl
    · decide
    · exact notZero
  · have first := hexDigit_ne_zero (byte.toNat / 16) (by omega)
    have second := hexDigit_ne_zero (byte.toNat % 16) (by omega)
    rw [isEscape] at inside
    rintro rfl
    rcases List.mem_cons.mp inside with isZero | inside
    · exact absurd isZero (by decide)
    simp only [List.mem_cons, List.not_mem_nil, or_false] at inside
    rcases inside with isZero | isZero | isZero | isZero | isZero
    · exact absurd isZero (by decide)
    · exact absurd isZero (by decide)
    · exact absurd isZero (by decide)
    · exact first isZero.symm
    · exact second isZero.symm
  · rw [isEscape, List.mem_singleton] at inside
    rintro rfl
    rw [← inside] at large
    exact large (by decide)

/-- The digits of a control character are read back. -/
theorem gives_readHex_control {byte : UInt8} (small : byte.toNat < 0x20) (rest : List UInt8) :
    Gives (readHex (zero :: zero :: hexDigit (byte.toNat / 16) :: hexDigit (byte.toNat % 16) :: rest))
      byte.toNat rest := by
  have isZero : hexValue? zero = some 0 := by decide
  have value : ((0 * 16 + 0) * 16 + byte.toNat / 16) * 16 + byte.toNat % 16 = byte.toNat := by
    omega
  rw [readHex, isZero, hexValue?_hexDigit _ (by omega), hexValue?_hexDigit _ (by omega)]
  dsimp only
  rw [value]
  exact ⟨_, rfl⟩

/-- The value of a control character is read back. -/
theorem gives_readEscape_control {byte : UInt8} (small : byte.toNat < 0x20) (rest : List UInt8) :
    Gives (readEscape (lowerU :: zero :: zero :: hexDigit (byte.toNat / 16) ::
      hexDigit (byte.toNat % 16) :: rest)) [byte] rest := by
  have isCode : Gives (readCodePoint (zero :: zero :: hexDigit (byte.toNat / 16) ::
      hexDigit (byte.toNat % 16) :: rest)) byte.toNat rest := by
    refine (gives_readHex_control small rest).bind fun shorter => ?_
    dsimp only
    rw [if_neg, if_pos]
    · exact ⟨_, rfl⟩
    · simp only [Bool.or_eq_true, decide_eq_true_eq]
      omega
    · simp only [Bool.and_eq_true, decide_eq_true_eq]
      omega
  have notSimple : simpleEscape? lowerU = none := by decide
  have same : UInt8.ofNat byte.toNat = byte := UInt8.ofNat_toNat
  rw [readEscape, notSimple]
  dsimp only
  rw [if_pos rfl]
  refine isCode.bind fun shorter => ?_
  rw [Found.map]
  dsimp only
  rw [utf8Bytes_control _ small, same]
  exact ⟨_, rfl⟩

/-- A byte is read back from what is written for it. -/
theorem unescape_escapeByte {start taken rest : List UInt8} (byte : UInt8)
    (within : (escapeByte byte ++ rest).length ≤ start.length) :
    ∃ within', unescape taken (escapeByte byte ++ rest) within =
      unescape (byte :: taken) rest within' := by
  have notQuote : backslash ≠ quote := by decide
  have escaped : ∀ {after : List UInt8} (within : (backslash :: after).length ≤ start.length),
      Gives (readEscape after) [byte] rest → ∃ within',
        unescape taken (backslash :: after) within =
          unescape (byte :: taken) rest within' := by
    rintro after within ⟨shorter, isByte⟩
    refine ⟨length_le_of_lt_cons shorter within, ?_⟩
    rw [unescape.eq_def]
    simp only [if_neg notQuote, isByte]
    rfl
  obtain ⟨letter, isLetter, -, isEscape⟩ | ⟨small, isEscape⟩ |
    ⟨isQuote, isBackslash, large, isEscape⟩ := escapeByte_cases byte
  · simp only [isEscape, List.cons_append, List.nil_append] at within ⊢
    refine escaped within ?_
    rw [readEscape, isLetter]
    exact ⟨_, rfl⟩
  · simp only [isEscape, List.cons_append, List.nil_append] at within ⊢
    exact escaped within (gives_readEscape_control small rest)
  · simp only [isEscape, List.cons_append, List.nil_append] at within ⊢
    rw [unescape.eq_def]
    simp only [if_neg isQuote, if_neg isBackslash, if_neg large]
    exact ⟨length_le_of_cons within, trivial⟩

/-- So is a list of bytes, up to the quote behind it. -/
theorem gives_unescape {start : List UInt8} (bytes taken rest : List UInt8)
    (within : (bytes.flatMap escapeByte ++ quote :: rest).length ≤ start.length) :
    Gives (unescape taken (bytes.flatMap escapeByte ++ quote :: rest) within)
      (taken.reverse ++ bytes) rest := by
  induction bytes generalizing taken with
  | nil =>
      simp only [List.flatMap_nil, List.nil_append, List.append_nil] at within ⊢
      rw [unescape.eq_def]
      exact ⟨_, if_pos rfl⟩
  | cons byte bytes ih =>
      simp only [List.flatMap_cons, List.append_assoc] at within ⊢
      obtain ⟨within', step⟩ := unescape_escapeByte byte within
      obtain ⟨shorter, read⟩ := ih (byte :: taken) within'
      refine ⟨shorter, ?_⟩
      rw [step, read, List.reverse_cons, List.append_assoc]
      rfl

/-- A string is read back from what is written for it, after its opening quote. -/
theorem gives_readString (text : String) (rest : List UInt8) :
    Gives (readString ((utf8Bytes text).flatMap escapeByte ++ quote :: rest)) text rest := by
  refine (gives_unescape (utf8Bytes text) [] rest (length_le_self _)).bind fun shorter => ?_
  dsimp only [List.reverse_nil, List.nil_append]
  rw [utf8Text?_utf8Bytes]
  exact ⟨shorter, rfl⟩

end Json

end Varlink
