import Mathlib.Algebra.Group.Int.Defs
import Mathlib.Data.String.Basic
import Varlink.Json.Reader
import Varlink.Proofs.Json.Numbers

/-!
# Values read back

What is written for a value is read back as this value, wherever it stands: what follows it is left for
others, as long as it does not go on with a number. Objects are read with their members in order, so a
value that has them in order already is the one that is read. Nothing that is written is a zero.

Only integers are numbers here. The induction follows the evidence that a value is made of such
numbers.
-/

namespace Varlink

namespace Json

/-- All numbers in the value are integers of at most 64 bits, signed or unsigned. -/
inductive Integral : Json → Prop
  | null : Integral .null
  | bool (value : Bool) : Integral (.bool value)
  | integer {value : Int} (least : -(2 ^ 63) ≤ value) (greatest : value < 2 ^ 64) :
      Integral (ofInt value)
  | string (value : String) : Integral (.string value)
  | array {items : List Json} (each : ∀ item ∈ items, Integral item) : Integral (.array items)
  | object {members : List (String × Json)} (each : ∀ member ∈ members, Integral member.2) :
      Integral (.object members)

/-- The members of all objects in the value are in order, each key once. -/
inductive Ordered : Json → Prop
  | null : Ordered .null
  | bool (value : Bool) : Ordered (.bool value)
  | number (value : JsonNumber) : Ordered (.number value)
  | string (value : String) : Ordered (.string value)
  | array {items : List Json} (each : ∀ item ∈ items, Ordered item) : Ordered (.array items)
  | object {members : List (String × Json)} (sorted : (members.map Prod.fst).Pairwise (· < ·))
      (each : ∀ member ∈ members, Ordered member.2) : Ordered (.object members)

mutual

/-- How many arrays and objects stand inside each other. -/
def depth : Json → Nat
  | .array items => itemsDepth items + 1
  | .object members => membersDepth members + 1
  | _ => 0

/-- The same in a list of values. -/
def itemsDepth : List Json → Nat
  | [] => 0
  | item :: rest => max (depth item) (itemsDepth rest)

/-- The same in the members of an object. -/
def membersDepth : List (String × Json) → Nat
  | [] => 0
  | (_, value) :: rest => max (depth value) (membersDepth rest)

end

mutual

/-- The value with the members of all objects in order; the last one with a key counts. -/
def normalize : Json → Json
  | .array items => .array (normalizeItems items)
  | .object members => ofMembers (normalizeMembers members)
  | other => other

/-- The values of a list with their members in order. -/
def normalizeItems : List Json → List Json
  | [] => []
  | item :: rest => normalize item :: normalizeItems rest

/-- The members of an object with their members in order. -/
def normalizeMembers : List (String × Json) → List (String × Json)
  | [] => []
  | (key, value) :: rest => (key, normalize value) :: normalizeMembers rest

end

/-- What is put between pieces stands before each of them but the first. -/
theorem intercalate_cons {α : Type} (between piece : List α) (pieces : List (List α)) :
    between.intercalate (piece :: pieces) =
      piece ++ pieces.flatMap fun piece => between ++ piece := by
  induction pieces generalizing piece with
  | nil => simp
  | cons next pieces ih => rw [List.intercalate_cons_cons, ih, List.flatMap_cons]; simp

section Text

theorem encodeItems_eq (items : List Json) : encodeItems items = items.map encode := by
  induction items with
  | nil => rfl
  | cons item items ih => rw [encodeItems, ih, List.map_cons]

theorem encodeMembers_eq (members : List (String × Json)) : encodeMembers members =
    members.map fun member => encodeString member.1 ++ colon :: member.2.encode := by
  induction members with
  | nil => rfl
  | cons member members ih => rw [encodeMembers, ih, List.map_cons]

theorem normalizeItems_eq (items : List Json) : normalizeItems items = items.map normalize := by
  induction items with
  | nil => rfl
  | cons item items ih => rw [normalizeItems, ih, List.map_cons]

theorem normalizeMembers_eq (members : List (String × Json)) : normalizeMembers members =
    members.map fun member => (member.1, member.2.normalize) := by
  induction members with
  | nil => rfl
  | cons member members ih => rw [normalizeMembers, ih, List.map_cons]

theorem depth_le_itemsDepth {item : Json} {items : List Json} (inside : item ∈ items) :
    item.depth ≤ itemsDepth items := by
  induction items with
  | nil => cases inside
  | cons other items ih =>
      rcases List.mem_cons.mp inside with rfl | inside
      · exact Nat.le_max_left _ _
      · exact Nat.le_trans (ih inside) (Nat.le_max_right _ _)

theorem depth_le_membersDepth {member : String × Json} {members : List (String × Json)}
    (inside : member ∈ members) : member.2.depth ≤ membersDepth members := by
  induction members with
  | nil => cases inside
  | cons other members ih =>
      rcases List.mem_cons.mp inside with rfl | inside
      · exact Nat.le_max_left _ _
      · exact Nat.le_trans (ih inside) (Nat.le_max_right _ _)

/-- The text of an integer is its digits, with a sign in front if it is negative. -/
theorem encode_ofInt (value : Int) : (ofInt value).encode =
    (if value < 0 then [minus] else []) ++ utf8Bytes value.natAbs.repr := by
  show utf8Bytes (toString value) = _
  rw [Int.toString_eq_repr, Int.repr_eq_if]
  by_cases negative : value < 0
  · have isAbs : (-value).toNat = value.natAbs := by omega
    rw [if_neg (by omega), if_pos negative, utf8Bytes_append, isAbs]
    rfl
  · have isAbs : value.toNat = value.natAbs := by omega
    rw [if_pos (by omega), if_neg negative, isAbs, List.nil_append]

theorem ne_of_isDigit {byte other : UInt8} (digit : isDigit byte) (notDigit : isDigit other = false) :
    byte ≠ other := by
  rintro rfl
  cases digit.symm.trans notDigit

theorem notSpace_of_isDigit {byte : UInt8} (digit : isDigit byte) : isSpace byte = false := by
  simp [isSpace, ne_of_isDigit digit (show isDigit 0x20 = false by decide),
    ne_of_isDigit digit (show isDigit 0x0A = false by decide),
    ne_of_isDigit digit (show isDigit 0x09 = false by decide),
    ne_of_isDigit digit (show isDigit 0x0D = false by decide)]

/-- What is written for a value starts with a byte that is no blank and ends no list, and null alone
starts with the letter it starts with. -/
theorem exists_encode_eq_cons {value : Json} (integral : value.Integral) :
    ∃ byte more, value.encode = byte :: more ∧ isSpace byte = false ∧ byte ≠ closeBracket ∧
      (byte = lowerN → value = .null) := by
  cases integral with
  | null => exact ⟨_, _, rfl, by decide, by decide, fun _ => rfl⟩
  | bool value =>
      cases value with
      | true => exact ⟨_, _, rfl, by decide, by decide, fun isN => absurd isN (by decide)⟩
      | false => exact ⟨_, _, rfl, by decide, by decide, fun isN => absurd isN (by decide)⟩
  | @integer value =>
      rw [encode_ofInt]
      by_cases negative : value < 0
      · rw [if_pos negative]
        exact ⟨_, _, rfl, by decide, by decide, fun isN => absurd isN (by decide)⟩
      · have decimal := isDecimal_repr value.natAbs
        obtain ⟨first, more, isFirst⟩ := List.exists_cons_of_ne_nil decimal.nonempty
        have firstDigit := decimal.each first (isFirst ▸ List.mem_cons_self)
        rw [if_neg negative, List.nil_append]
        exact ⟨first, more, isFirst, notSpace_of_isDigit firstDigit,
          ne_of_isDigit firstDigit (by decide),
          fun isN => absurd isN (ne_of_isDigit firstDigit (by decide))⟩
  | string text => exact ⟨_, _, rfl, by decide, by decide, fun isN => absurd isN (by decide)⟩
  | array => exact ⟨_, _, rfl, by decide, by decide, fun isN => absurd isN (by decide)⟩
  | object => exact ⟨_, _, rfl, by decide, by decide, fun isN => absurd isN (by decide)⟩

/-- So do the items of a list, with commas between them. -/
theorem exists_encode_items_eq_cons {item : Json} (integral : item.Integral) (items : List Json)
    (rest : List UInt8) : ∃ byte after,
      [comma].intercalate ((item :: items).map encode) ++ rest = byte :: after ∧
      isSpace byte = false ∧ byte ≠ closeBracket := by
  obtain ⟨byte, more, isItem, notSpace, notEnd, -⟩ := exists_encode_eq_cons integral
  rw [List.map_cons, intercalate_cons, isItem]
  exact ⟨byte, _, rfl, notSpace, notEnd⟩

/-- A first and a last byte that are not zero bring no zero in. -/
theorem ne_zero_of_mem_enclosed {opening closing byte : UInt8} {inner : List UInt8}
    (opens : opening ≠ 0) (closes : closing ≠ 0) (each : ∀ other ∈ inner, other ≠ 0)
    (inside : byte ∈ opening :: (inner ++ [closing])) : byte ≠ 0 := by
  rcases List.mem_cons.mp inside with rfl | inside
  · exact opens
  · rcases List.mem_append.mp inside with inside | inside
    · exact each byte inside
    · rw [List.mem_singleton.mp inside]
      exact closes

theorem ne_zero_of_mem_encodeString {text : String} {byte : UInt8}
    (inside : byte ∈ encodeString text) : byte ≠ 0 := by
  refine ne_zero_of_mem_enclosed (by decide) (by decide) (fun other escaped => ?_) inside
  obtain ⟨_, -, escaped⟩ := List.mem_flatMap.mp escaped
  exact ne_zero_of_mem_escapeByte escaped

/-- What stands between pieces is in them or among what is put between them. -/
theorem mem_intercalate {α : Type} {between : List α} {pieces : List (List α)} {item : α}
    (inside : item ∈ between.intercalate pieces) :
    item ∈ between ∨ ∃ piece ∈ pieces, item ∈ piece := by
  cases pieces with
  | nil => cases inside
  | cons first pieces =>
      rw [intercalate_cons] at inside
      rcases List.mem_append.mp inside with inside | inside
      · exact .inr ⟨first, List.mem_cons_self, inside⟩
      · obtain ⟨piece, isPiece, inside⟩ := List.mem_flatMap.mp inside
        rcases List.mem_append.mp inside with inside | inside
        · exact .inl inside
        · exact .inr ⟨piece, List.mem_cons_of_mem _ isPiece, inside⟩

/-- Nor do the commas between pieces. -/
theorem ne_zero_of_mem_separated {pieces : List (List UInt8)} {byte : UInt8}
    (each : ∀ piece ∈ pieces, ∀ other ∈ piece, other ≠ 0)
    (inside : byte ∈ [comma].intercalate pieces) : byte ≠ 0 := by
  rcases mem_intercalate inside with inside | ⟨piece, isPiece, inside⟩
  · rw [List.mem_singleton.mp inside]
    decide
  · exact each piece isPiece byte inside

/-- No byte of a written value is zero. -/
theorem ne_zero_of_mem_encode {value : Json} (integral : value.Integral) {byte : UInt8}
    (inside : byte ∈ value.encode) : byte ≠ 0 := by
  induction integral generalizing byte with
  | null =>
      rintro rfl
      revert inside
      decide
  | bool value =>
      rintro rfl
      revert value
      decide
  | @integer value =>
      rw [encode_ofInt] at inside
      rcases List.mem_append.mp inside with inside | inside
      · split_ifs at inside
        · rw [List.mem_singleton.mp inside]
          decide
        · cases inside
      · rintro rfl
        cases (isDecimal_repr value.natAbs).each 0 inside
  | string text => exact ne_zero_of_mem_encodeString inside
  | array each ih =>
      rw [encode, encodeItems_eq] at inside
      refine ne_zero_of_mem_enclosed (by decide) (by decide) (fun _ => ?_) inside
      refine ne_zero_of_mem_separated fun piece isPiece other inPiece => ?_
      obtain ⟨item, isItem, rfl⟩ := List.mem_map.mp isPiece
      exact ih item isItem inPiece
  | object each ih =>
      rw [encode, encodeMembers_eq] at inside
      refine ne_zero_of_mem_enclosed (by decide) (by decide) (fun _ => ?_) inside
      refine ne_zero_of_mem_separated fun piece isPiece other inPiece => ?_
      obtain ⟨member, isMember, rfl⟩ := List.mem_map.mp isPiece
      rcases List.mem_append.mp inPiece with inKey | inValue
      · exact ne_zero_of_mem_encodeString inKey
      · rcases List.mem_cons.mp inValue with rfl | inValue
        · decide
        · exact ih member isMember inValue

end Text

theorem skipSpace_cons {byte : UInt8} (notSpace : isSpace byte = false) (rest : List UInt8) :
    skipSpace (byte :: rest) = byte :: rest := by
  rw [skipSpace, List.dropWhile_cons, if_neg (by simp [notSpace])]

/-- A byte that is no blank is read at once. -/
theorem gives_readByte (atEnd : JsonFault) {byte : UInt8} (notSpace : isSpace byte = false)
    (rest : List UInt8) : Gives (readByte atEnd (byte :: rest)) byte rest := by
  have same := skipSpace_cons notSpace rest
  unfold readByte
  split
  · rename_i none _
    cases same.symm.trans none
  · rename_i found _
    obtain ⟨rfl, rfl⟩ := List.cons.inj (same.symm.trans found)
    exact ⟨_, rfl⟩

section Ends

variable (rest : List UInt8)

theorem ends_nil : Ends [] := nofun

theorem ends_comma : Ends (comma :: rest) := by
  rintro byte ⟨⟩
  decide

theorem ends_closeBracket : Ends (closeBracket :: rest) := by
  rintro byte ⟨⟩
  decide

theorem ends_closeBrace : Ends (closeBrace :: rest) := by
  rintro byte ⟨⟩
  decide

end Ends

/-- What is written for a value is read back as the value, with its members in order. -/
def ReadsBack (levels : Nat) (value : Json) : Prop :=
  ∀ {rest : List UInt8}, Ends rest →
    Gives (readValue levels (value.encode ++ rest)) value.normalize rest

section Composite

variable {levels : Nat} {rest : List UInt8}

/-- The items of an array are read back one after the other. -/
theorem gives_readItems {item : Json} {items : List Json}
    (each : ∀ other ∈ item :: items, other.Integral ∧ ReadsBack levels other) :
    Gives (readItems (readValue levels)
        ([comma].intercalate ((item :: items).map encode) ++ closeBracket :: rest))
      ((item :: items).map normalize) rest := by
  induction items generalizing item with
  | nil =>
      obtain ⟨⟨-, readsBack⟩, -⟩ := List.forall_mem_cons.mp each
      rw [readItems, List.map_singleton, List.intercalate_singleton]
      refine (readsBack (ends_closeBracket rest)).bind fun shorter => ?_
      dsimp only
      refine (gives_readByte .endInList (by decide) rest).bind fun further => ?_
      dsimp only
      rw [if_pos rfl]
      exact ⟨_, rfl⟩
  | cons next items ih =>
      obtain ⟨⟨-, readsBack⟩, each⟩ := List.forall_mem_cons.mp each
      obtain ⟨integral, -⟩ := each next List.mem_cons_self
      obtain ⟨byte, after, isRest, notSpace, notEnd⟩ :=
        exists_encode_items_eq_cons integral items (closeBracket :: rest)
      have others := ih each
      rw [readItems, List.map_cons, List.map_cons, List.intercalate_cons_cons, List.append_assoc,
        List.append_assoc, ← List.map_cons, List.singleton_append]
      refine (readsBack (ends_comma _)).bind fun shorter => ?_
      dsimp only
      refine (gives_readByte .endInList (by decide) _).bind fun further => ?_
      dsimp only
      have skipped := (congrArg skipSpace isRest).trans (skipSpace_cons notSpace after)
      rw [if_neg (by decide), if_pos rfl, skipped]
      dsimp only
      rw [if_neg notEnd]
      exact others.bind fun last => ⟨_, rfl⟩

theorem gives_readArray {items : List Json}
    (each : ∀ item ∈ items, item.Integral ∧ ReadsBack levels item) :
    Gives (readArray (readValue levels)
        ([comma].intercalate (items.map encode) ++ closeBracket :: rest))
      (items.map normalize) rest := by
  cases items with
  | nil =>
      refine (gives_readByte .endInList (by decide) rest).bind fun shorter => ?_
      dsimp only
      rw [if_pos rfl]
      exact ⟨_, rfl⟩
  | cons item items =>
      obtain ⟨byte, after, isRest, notSpace, notEnd⟩ := exists_encode_items_eq_cons
        (each item List.mem_cons_self).1 items (closeBracket :: rest)
      have others : Gives _ _ rest := gives_readItems each
      rw [isRest] at others ⊢
      refine (gives_readByte .endInList notSpace _).bind fun shorter => ?_
      dsimp only
      rw [if_neg notEnd]
      exact others

theorem gives_readColon (rest : List UInt8) : Gives (readColon (colon :: rest)) () rest := by
  refine (gives_readByte .endInObject (by decide) rest).bind fun shorter => ?_
  dsimp only
  rw [if_pos rfl]
  exact ⟨_, rfl⟩

/-- A member of an object is read back after the opening quote of its key. -/
theorem gives_readMember {key : String} {value : Json} (readsBack : ReadsBack levels value)
    (ends : Ends rest) :
    Gives (readMember (readValue levels) ((utf8Bytes key).flatMap escapeByte ++
      quote :: colon :: (value.encode ++ rest))) (key, value.normalize) rest := by
  refine (gives_readString key _).bind fun shorter => ?_
  refine (gives_readColon _).bind fun further => ?_
  exact (readsBack ends).bind fun last => ⟨_, rfl⟩

/-- What is written for members, with commas between them, and in front of them if they are not the
first ones. -/
def writtenMembers (first : Bool) (members : List (String × Json)) : List UInt8 :=
  if first then [comma].intercalate (encodeMembers members)
  else (encodeMembers members).flatMap fun piece => [comma] ++ piece

theorem writtenMembers_cons (first : Bool) (key : String) (value : Json)
    (members : List (String × Json)) : writtenMembers first ((key, value) :: members) =
      (if first then [] else [comma]) ++ (quote :: ((utf8Bytes key).flatMap escapeByte ++
        quote :: colon :: (value.encode ++ writtenMembers false members))) := by
  cases first with
  | true => simp [writtenMembers, encodeMembers, intercalate_cons, encodeString]
  | false => simp [writtenMembers, encodeMembers, encodeString]

theorem ends_writtenMembers (members : List (String × Json)) (rest : List UInt8) :
    Ends (writtenMembers false members ++ closeBrace :: rest) := by
  cases members with
  | nil => exact ends_closeBrace rest
  | cons member members =>
      rw [writtenMembers_cons]
      exact ends_comma _

theorem gives_readNextKey (first : Bool) (rest : List UInt8) :
    Gives (readNextKey first ((if first then [] else [comma]) ++ quote :: rest)) true rest := by
  cases first with
  | true =>
      show Gives (readNextKey true (quote :: rest)) true rest
      refine (gives_readByte .endInObject (by decide) rest).bind fun shorter => ?_
      dsimp only
      rw [if_neg (by decide), if_pos rfl, if_pos rfl]
      exact ⟨_, rfl⟩
  | false =>
      show Gives (readNextKey false (comma :: quote :: rest)) true rest
      refine (gives_readByte .endInObject (by decide) (quote :: rest)).bind fun shorter => ?_
      dsimp only
      rw [if_neg (by decide), if_neg (by decide), if_pos rfl]
      refine (gives_readByte .endInValue (by decide) rest).bind fun further => ?_
      dsimp only
      rw [if_pos rfl]
      exact ⟨_, rfl⟩

theorem gives_readNextKey_closeBrace (first : Bool) (rest : List UInt8) :
    Gives (readNextKey first (closeBrace :: rest)) false rest := by
  refine (gives_readByte .endInObject (by decide) rest).bind fun shorter => ?_
  dsimp only
  rw [if_pos rfl]
  exact ⟨_, rfl⟩

/-- The members of an object are read back one after the other. -/
theorem gives_readMembers {members : List (String × Json)} (first : Bool)
    (each : ∀ member ∈ members, ReadsBack levels member.2) :
    Gives (readMembers (readValue levels) first (writtenMembers first members ++ closeBrace :: rest))
      (normalizeMembers members) rest := by
  induction members generalizing first with
  | nil =>
      have isEmpty : writtenMembers first [] = [] := by cases first <;> rfl
      rw [isEmpty, List.nil_append, readMembers]
      exact (gives_readNextKey_closeBrace first rest).bind fun shorter => ⟨_, rfl⟩
  | cons member members ih =>
      obtain ⟨key, value⟩ := member
      obtain ⟨readsBack, each⟩ := List.forall_mem_cons.mp each
      have others := ih false each
      rw [writtenMembers_cons, readMembers, List.append_assoc, List.cons_append, List.append_assoc,
        List.cons_append, List.cons_append, List.append_assoc]
      refine (gives_readNextKey first _).bind fun shorter => ?_
      dsimp only
      rw [if_pos rfl]
      refine (gives_readMember readsBack (ends_writtenMembers members rest)).bind fun further => ?_
      exact others.bind fun last => ⟨_, rfl⟩

end Composite

section Value

variable {levels : Nat} {rest : List UInt8}

theorem gives_readRest {start : List UInt8} (word : List UInt8)
    (within : (word ++ rest).length < start.length) :
    Gives (readRest word (word ++ rest) within) () rest := by
  induction word with
  | nil => exact ⟨within, rfl⟩
  | cons byte word ih =>
      simp only [List.cons_append, readRest]
      exact ih _

theorem readsBack_null : ReadsBack levels .null := by
  intro rest ends
  show Gives (readValue levels (lowerN :: (utf8Bytes "ull" ++ rest))) .null rest
  rw [readValue.eq_def]
  refine (gives_readByte .endInValue (by decide) _).bind fun shorter => ?_
  dsimp only
  rw [if_pos rfl]
  exact (gives_readRest _ shorter).bind fun further => ⟨_, rfl⟩

theorem readsBack_bool (value : Bool) : ReadsBack levels (.bool value) := by
  intro rest ends
  cases value with
  | true =>
      show Gives (readValue levels (lowerT :: (utf8Bytes "rue" ++ rest))) (.bool true) rest
      rw [readValue.eq_def]
      refine (gives_readByte .endInValue (by decide) _).bind fun shorter => ?_
      dsimp only
      rw [if_neg (by decide), if_pos rfl]
      exact (gives_readRest _ shorter).bind fun further => ⟨_, rfl⟩
  | false =>
      show Gives (readValue levels (lowerF :: (utf8Bytes "alse" ++ rest))) (.bool false) rest
      rw [readValue.eq_def]
      refine (gives_readByte .endInValue (by decide) _).bind fun shorter => ?_
      dsimp only
      rw [if_neg (by decide), if_neg (by decide), if_pos rfl]
      exact (gives_readRest _ shorter).bind fun further => ⟨_, rfl⟩

/-- An integer is read back by its sign and its digits. -/
theorem readsBack_ofInt {value : Int} (least : -(2 ^ 63) ≤ value) (greatest : value < 2 ^ 64) :
    ReadsBack levels (ofInt value) := by
  intro rest ends
  have decimal := isDecimal_repr value.natAbs
  have fits : value.natAbs ≤ maxSignificand := by
    rw [maxSignificand]
    omega
  rw [encode_ofInt]
  by_cases negative : value < 0
  · have isValue : -(value.natAbs : Int) = value := by omega
    have number := gives_readNumber true decimal ends fits fun _ =>
      ⟨by omega, by rw [maxNegative]; omega⟩
    rw [if_pos rfl, isValue] at number
    rw [if_pos negative, List.append_assoc, List.singleton_append, readValue.eq_def]
    refine (gives_readByte .endInValue (by decide) _).bind fun shorter => ?_
    dsimp only
    rw [if_neg (by decide), if_neg (by decide), if_neg (by decide), if_pos rfl]
    exact number.bind fun further => ⟨_, rfl⟩
  · have isValue : (value.natAbs : Int) = value := by omega
    have number := gives_readNumber false decimal ends fits nofun
    rw [if_neg Bool.false_ne_true, isValue] at number
    rw [if_neg negative, List.nil_append]
    obtain ⟨first, more, isFirst⟩ := List.exists_cons_of_ne_nil decimal.nonempty
    have digit := decimal.each first (isFirst ▸ List.mem_cons_self)
    rw [isFirst, List.cons_append] at number ⊢
    rw [readValue.eq_def]
    refine (gives_readByte .endInValue (notSpace_of_isDigit digit) _).bind fun shorter => ?_
    dsimp only
    rw [if_neg (ne_of_isDigit digit (by decide)), if_neg (ne_of_isDigit digit (by decide)),
      if_neg (ne_of_isDigit digit (by decide)), if_neg (ne_of_isDigit digit (by decide)),
      if_pos digit]
    exact number.bind fun further => ⟨_, rfl⟩

theorem readsBack_string (text : String) : ReadsBack levels (.string text) := by
  intro rest ends
  show Gives (readValue levels (quote :: ((utf8Bytes text).flatMap escapeByte ++ [quote] ++ rest)))
    (.string text) rest
  rw [List.append_assoc, List.singleton_append, readValue.eq_def]
  refine (gives_readByte .endInValue (by decide) _).bind fun shorter => ?_
  dsimp only
  rw [if_neg (by decide), if_neg (by decide), if_neg (by decide), if_neg (by decide),
    if_neg (by decide), if_pos rfl]
  exact (gives_readString text rest).bind fun further => ⟨_, rfl⟩

theorem readsBack_array {items : List Json}
    (each : ∀ item ∈ items, item.Integral ∧ ReadsBack levels item) :
    ReadsBack (levels + 1) (.array items) := by
  intro rest ends
  rw [encode, encodeItems_eq, normalize, normalizeItems_eq, List.cons_append, List.append_assoc,
    List.singleton_append, readValue.eq_def]
  refine (gives_readByte .endInValue (by decide) _).bind fun shorter => ?_
  dsimp only
  rw [if_neg (by decide), if_neg (by decide), if_neg (by decide), if_neg (by decide),
    if_neg (by decide), if_neg (by decide), if_pos rfl]
  exact (gives_readArray each).bind fun further => ⟨_, rfl⟩

theorem readsBack_object {members : List (String × Json)}
    (each : ∀ member ∈ members, ReadsBack levels member.2) :
    ReadsBack (levels + 1) (.object members) := by
  intro rest ends
  rw [encode, normalize, List.cons_append, List.append_assoc, List.singleton_append,
    readValue.eq_def]
  refine (gives_readByte .endInValue (by decide) _).bind fun shorter => ?_
  dsimp only
  rw [if_neg (by decide), if_neg (by decide), if_neg (by decide), if_neg (by decide),
    if_neg (by decide), if_neg (by decide), if_neg (by decide), if_pos rfl]
  exact (gives_readMembers true each).bind fun further => ⟨_, rfl⟩

end Value

/-- Every value is read back, wherever it stands, if arrays and objects may stand inside each other as
often as they do in it. -/
theorem readsBack {value : Json} (integral : value.Integral) {levels : Nat}
    (shallow : value.depth ≤ levels) : ReadsBack levels value := by
  induction integral generalizing levels with
  | null => exact readsBack_null
  | bool value => exact readsBack_bool value
  | integer least greatest => exact readsBack_ofInt least greatest
  | string text => exact readsBack_string text
  | array each ih =>
      rw [depth] at shallow
      obtain ⟨levels, rfl⟩ := Nat.exists_eq_add_of_le' (Nat.le_trans (Nat.le_add_left 1 _) shallow)
      refine readsBack_array fun item inside => ⟨each item inside, ih item inside ?_⟩
      have := depth_le_itemsDepth inside
      omega
  | object each ih =>
      rw [depth] at shallow
      obtain ⟨levels, rfl⟩ := Nat.exists_eq_add_of_le' (Nat.le_trans (Nat.le_add_left 1 _) shallow)
      refine readsBack_object fun member inside => ih member inside ?_
      have := depth_le_membersDepth inside
      omega

/-- The text of a value is read as the value, with the members of its objects in order. -/
theorem parseWithin_encode {value : Json} (integral : value.Integral) {levels : Nat}
    (shallow : value.depth ≤ levels) : parseWithin levels value.encode = .ok value.normalize := by
  have reads := readsBack integral shallow ends_nil
  rw [List.append_nil] at reads
  obtain ⟨shorter, read⟩ := reads
  exact mapError_eq_ok.mpr (bind_eq_ok.mpr ⟨_, read, rfl⟩)

section Order

/-- A key behind all others is put at the end. -/
theorem insert_of_forall_lt {key : String} (value : Json) {members : List (String × Json)}
    (behind : ∀ member ∈ members, member.1 < key) :
    insert key value members = members ++ [(key, value)] := by
  induction members with
  | nil => rfl
  | cons member members ih =>
      obtain ⟨before, behind⟩ := List.forall_mem_cons.mp behind
      rw [insert, if_neg (lt_asymm before), if_neg (ne_of_gt before), ih behind, List.cons_append]

/-- Members in order make up the object as they are. -/
theorem foldl_insert_of_sorted (before : List (String × Json)) {members : List (String × Json)}
    (sorted : ((before ++ members).map Prod.fst).Pairwise (· < ·)) :
    members.foldl (fun sorted member => insert member.1 member.2 sorted) before =
      before ++ members := by
  induction members generalizing before with
  | nil => exact (List.append_nil before).symm
  | cons member members ih =>
      have behind : ∀ other ∈ before, other.1 < member.1 := by
        rw [List.map_append, List.pairwise_append] at sorted
        exact fun other inside => sorted.2.2 other.1 (List.mem_map_of_mem inside) member.1
          (List.mem_map_of_mem List.mem_cons_self)
      rw [List.foldl_cons, insert_of_forall_lt member.2 behind]
      rw [List.append_cons] at sorted
      rw [ih _ sorted, List.append_assoc, List.singleton_append]

theorem ofMembers_of_sorted {members : List (String × Json)}
    (sorted : (members.map Prod.fst).Pairwise (· < ·)) : ofMembers members = .object members :=
  congrArg Json.object (foldl_insert_of_sorted [] sorted)

/-- A value with its members in order is as it should be. -/
theorem normalize_of_ordered {value : Json} (ordered : value.Ordered) : value.normalize = value := by
  induction ordered with
  | null => rfl
  | bool => rfl
  | number => rfl
  | string => rfl
  | array each ih =>
      rw [normalize, normalizeItems_eq, List.map_congr_left ih, List.map_id']
  | @object members sorted each ih =>
      have same : normalizeMembers members = members := by
        rw [normalizeMembers_eq]
        refine (List.map_congr_left fun member inside => ?_).trans (List.map_id members)
        rw [ih member inside]
        rfl
      rw [normalize, same, ofMembers_of_sorted sorted]

end Order

end Json

end Varlink
