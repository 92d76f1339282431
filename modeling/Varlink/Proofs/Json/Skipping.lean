import Varlink.Proofs.Json.RoundTrip

/-!
# Written values skipped

A value that nobody asks for is only checked for its form, by readers of their own. What is written for
a value has this form, so it is skipped to its end and no further, however deep arrays and objects
stand inside each other in it.
-/

namespace Varlink

namespace Json

/-- What is written for a byte is skipped as a whole. -/
theorem skipString_escapeByte {start rest : List UInt8} (byte : UInt8)
    (within : (escapeByte byte ++ rest).length ≤ start.length) :
    ∃ within', skipString (escapeByte byte ++ rest) within = skipString rest within' := by
  have notQuote : backslash ≠ quote := by decide
  obtain ⟨letter, isLetter, -, isEscape⟩ | ⟨small, isEscape⟩ |
    ⟨isQuote, isBackslash, large, isEscape⟩ := escapeByte_cases byte
  · simp only [isEscape, List.cons_append, List.nil_append] at within ⊢
    refine ⟨length_le_of_cons_cons within, ?_⟩
    rw [skipString.eq_def]
    simp only [if_neg notQuote, isLetter]
    rfl
  · simp only [isEscape, List.cons_append, List.nil_append] at within ⊢
    obtain ⟨shorter, isByte⟩ := gives_readHex_control small rest
    have notSimple : simpleEscape? lowerU = none := by decide
    refine ⟨length_le_of_lt_cons_cons shorter within, ?_⟩
    rw [skipString.eq_def]
    simp only [if_neg notQuote, notSimple, isByte]
    rfl
  · simp only [isEscape, List.cons_append, List.nil_append] at within ⊢
    refine ⟨length_le_of_cons within, ?_⟩
    rw [skipString.eq_def]
    simp only [if_neg isQuote, if_neg isBackslash, if_neg large]

/-- A string is skipped after its opening quote. -/
theorem gives_skipString {start : List UInt8} (bytes rest : List UInt8)
    (within : (bytes.flatMap escapeByte ++ quote :: rest).length ≤ start.length) :
    Gives (skipString (bytes.flatMap escapeByte ++ quote :: rest) within) () rest := by
  induction bytes with
  | nil =>
      simp only [List.flatMap_nil, List.nil_append] at within ⊢
      rw [skipString.eq_def]
      exact ⟨_, if_pos rfl⟩
  | cons byte bytes ih =>
      simp only [List.flatMap_cons, List.append_assoc] at within ⊢
      obtain ⟨within', step⟩ := skipString_escapeByte byte within
      rw [step]
      exact ih within'

theorem gives_skipKey (key : String) (rest : List UInt8) :
    Gives (skipKey ((utf8Bytes key).flatMap escapeByte ++ quote :: colon :: rest)) () rest := by
  refine (gives_skipString (utf8Bytes key) (colon :: rest) (length_le_self _)).bind
    fun shorter => ?_
  exact (gives_readColon rest).bind fun further => ⟨_, rfl⟩

/-- What is written for a value is skipped. -/
def Skips (value : Json) : Prop :=
  ∀ {rest : List UInt8}, Ends rest → Gives (skipValue (value.encode ++ rest)) () rest

/-- The items of an array are skipped one after the other. -/
theorem gives_skipItems {item : Json} {items : List Json} (rest : List UInt8)
    (each : ∀ other ∈ item :: items, Skips other) :
    Gives (skipItems ([comma].intercalate ((item :: items).map encode) ++ closeBracket :: rest))
      () rest := by
  induction items generalizing item with
  | nil =>
      rw [skipItems, List.map_singleton, List.intercalate_singleton]
      refine (each item List.mem_cons_self (ends_closeBracket rest)).bind fun shorter => ?_
      dsimp only
      refine (gives_readByte .endInList (by decide) rest).bind fun further => ?_
      dsimp only
      rw [if_neg (by decide), if_pos rfl]
      exact ⟨_, rfl⟩
  | cons next items ih =>
      obtain ⟨skips, each⟩ := List.forall_mem_cons.mp each
      have others := ih each
      rw [skipItems, List.map_cons, List.map_cons, List.intercalate_cons_cons, List.append_assoc,
        List.append_assoc, ← List.map_cons, List.singleton_append]
      refine (skips (ends_comma _)).bind fun shorter => ?_
      dsimp only
      refine (gives_readByte .endInList (by decide) _).bind fun further => ?_
      dsimp only
      rw [if_pos rfl]
      exact others.bind fun last => ⟨_, rfl⟩

/-- So are the members of an object. -/
theorem gives_skipMembers {member : String × Json} {members : List (String × Json)}
    (rest : List UInt8) (each : ∀ other ∈ member :: members, Skips other.2) :
    Gives (skipMembers (writtenMembers true (member :: members) ++ closeBrace :: rest)) () rest := by
  induction members generalizing member with
  | nil =>
      obtain ⟨key, value⟩ := member
      obtain ⟨skips, -⟩ := List.forall_mem_cons.mp each
      have noMore : writtenMembers false [] = [] := rfl
      rw [skipMembers, writtenMembers_cons, if_pos rfl, List.nil_append, noMore, List.append_nil,
        List.cons_append, List.append_assoc, List.cons_append, List.cons_append]
      refine (gives_readByte .endInObject (by decide) _).bind fun first => ?_
      dsimp only
      rw [if_pos rfl]
      refine (gives_skipKey key _).bind fun second => ?_
      dsimp only
      refine (skips (ends_closeBrace rest)).bind fun third => ?_
      dsimp only
      refine (gives_readByte .endInObject (by decide) rest).bind fun fourth => ?_
      dsimp only
      rw [if_neg (by decide), if_pos rfl]
      exact ⟨_, rfl⟩
  | cons next members ih =>
      obtain ⟨key, value⟩ := member
      obtain ⟨skips, each⟩ := List.forall_mem_cons.mp each
      have others := ih each
      have further : writtenMembers false (next :: members) =
          comma :: writtenMembers true (next :: members) := by
        rw [writtenMembers_cons, writtenMembers_cons]
        rfl
      rw [skipMembers, writtenMembers_cons, if_pos rfl, List.nil_append, further,
        List.cons_append, List.append_assoc, List.cons_append, List.cons_append, List.append_assoc,
        List.cons_append]
      refine (gives_readByte .endInObject (by decide) _).bind fun first => ?_
      dsimp only
      rw [if_pos rfl]
      refine (gives_skipKey key _).bind fun second => ?_
      dsimp only
      refine (skips (ends_comma _)).bind fun third => ?_
      dsimp only
      refine (gives_readByte .endInObject (by decide) _).bind fun fourth => ?_
      dsimp only
      rw [if_pos rfl]
      exact others.bind fun last => ⟨_, rfl⟩

theorem skips_null : Skips .null := by
  intro rest ends
  show Gives (skipValue (lowerN :: (utf8Bytes "ull" ++ rest))) () rest
  rw [skipValue]
  refine (gives_readByte .endInValue (by decide) _).bind fun shorter => ?_
  dsimp only
  rw [if_pos rfl]
  exact gives_readRest _ shorter

theorem skips_bool (value : Bool) : Skips (.bool value) := by
  intro rest ends
  cases value with
  | true =>
      show Gives (skipValue (lowerT :: (utf8Bytes "rue" ++ rest))) () rest
      rw [skipValue]
      refine (gives_readByte .endInValue (by decide) _).bind fun shorter => ?_
      dsimp only
      rw [if_neg (by decide), if_pos rfl]
      exact gives_readRest _ shorter
  | false =>
      show Gives (skipValue (lowerF :: (utf8Bytes "alse" ++ rest))) () rest
      rw [skipValue]
      refine (gives_readByte .endInValue (by decide) _).bind fun shorter => ?_
      dsimp only
      rw [if_neg (by decide), if_neg (by decide), if_pos rfl]
      exact gives_readRest _ shorter

/-- An integer is skipped whatever its size. -/
theorem skips_ofInt (value : Int) : Skips (ofInt value) := by
  intro rest ends
  have decimal := isDecimal_repr value.natAbs
  have literal := gives_readLiteral decimal ends .invalidNumber
  rw [encode_ofInt]
  by_cases negative : value < 0
  · rw [if_pos negative, List.append_assoc, List.singleton_append, skipValue]
    refine (gives_readByte .endInValue (by decide) _).bind fun shorter => ?_
    dsimp only
    rw [if_neg (by decide), if_neg (by decide), if_neg (by decide), if_pos rfl]
    exact literal.bind fun further => ⟨_, rfl⟩
  · rw [if_neg negative, List.nil_append]
    obtain ⟨first, more, isFirst⟩ := List.exists_cons_of_ne_nil decimal.nonempty
    have digit := decimal.each first (isFirst ▸ List.mem_cons_self)
    rw [isFirst, List.cons_append] at literal ⊢
    rw [skipValue]
    refine (gives_readByte .endInValue (notSpace_of_isDigit digit) _).bind fun shorter => ?_
    dsimp only
    rw [if_neg (ne_of_isDigit digit (by decide)), if_neg (ne_of_isDigit digit (by decide)),
      if_neg (ne_of_isDigit digit (by decide)), if_neg (ne_of_isDigit digit (by decide)),
      if_pos digit]
    exact literal.bind fun further => ⟨_, rfl⟩

theorem skips_string (text : String) : Skips (.string text) := by
  intro rest ends
  show Gives (skipValue (quote :: ((utf8Bytes text).flatMap escapeByte ++ [quote] ++ rest))) () rest
  rw [List.append_assoc, List.singleton_append, skipValue]
  refine (gives_readByte .endInValue (by decide) _).bind fun shorter => ?_
  dsimp only
  rw [if_neg (by decide), if_neg (by decide), if_neg (by decide), if_neg (by decide),
    if_neg (by decide), if_pos rfl]
  exact (gives_skipString (utf8Bytes text) rest (length_le_self _)).bind fun further => ⟨_, rfl⟩

theorem skips_array {items : List Json} (each : ∀ item ∈ items, item.Integral ∧ Skips item) :
    Skips (.array items) := by
  intro rest ends
  rw [encode, encodeItems_eq, List.cons_append, List.append_assoc, List.singleton_append, skipValue]
  refine (gives_readByte .endInValue (by decide) _).bind fun shorter => ?_
  dsimp only
  rw [if_neg (by decide), if_neg (by decide), if_neg (by decide), if_neg (by decide),
    if_neg (by decide), if_neg (by decide), if_pos rfl]
  cases items with
  | nil =>
      refine (gives_readByte .endInList (by decide) rest).bind fun further => ?_
      dsimp only
      rw [if_pos rfl]
      exact ⟨_, rfl⟩
  | cons item items =>
      obtain ⟨byte, after, isRest, notSpace, notEnd⟩ := exists_encode_items_eq_cons
        (each item List.mem_cons_self).1 items (closeBracket :: rest)
      have skipped := gives_skipItems rest fun other inside => (each other inside).2
      revert shorter
      rw [isRest] at skipped ⊢
      intro shorter
      refine (gives_readByte .endInList notSpace _).bind fun further => ?_
      dsimp only
      rw [if_neg notEnd]
      exact skipped.bind fun last => ⟨_, rfl⟩

theorem skips_object {members : List (String × Json)} (each : ∀ member ∈ members, Skips member.2) :
    Skips (.object members) := by
  intro rest ends
  rw [encode, List.cons_append, List.append_assoc, List.singleton_append, skipValue]
  refine (gives_readByte .endInValue (by decide) _).bind fun shorter => ?_
  dsimp only
  rw [if_neg (by decide), if_neg (by decide), if_neg (by decide), if_neg (by decide),
    if_neg (by decide), if_neg (by decide), if_neg (by decide), if_pos rfl]
  cases members with
  | nil =>
      refine (gives_readByte .endInObject (by decide) rest).bind fun further => ?_
      dsimp only
      rw [if_pos rfl]
      exact ⟨_, rfl⟩
  | cons member members =>
      obtain ⟨after, isRest⟩ : ∃ after, [comma].intercalate (encodeMembers (member :: members)) ++
          closeBrace :: rest = quote :: after :=
        ⟨_, congrArg (· ++ closeBrace :: rest) (writtenMembers_cons true member.1 member.2 members)⟩
      have skipped := gives_skipMembers rest each
      rw [writtenMembers, if_pos rfl] at skipped
      revert shorter
      rw [isRest] at skipped ⊢
      intro shorter
      refine (gives_readByte .endInObject (by decide) _).bind fun further => ?_
      dsimp only
      rw [if_neg (by decide)]
      exact skipped.bind fun last => ⟨_, rfl⟩

/-- Every written value is skipped, wherever it stands and however deep it is. -/
theorem skips {value : Json} (integral : value.Integral) : Skips value := by
  induction integral with
  | null => exact skips_null
  | bool value => exact skips_bool value
  | integer => exact skips_ofInt _
  | string text => exact skips_string text
  | array each ih => exact skips_array fun item inside => ⟨each item inside, ih item inside⟩
  | object _ ih => exact skips_object ih

end Json

end Varlink
