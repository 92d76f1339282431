import Mathlib.Data.List.TakeDrop
import Mathlib.Data.List.TakeWhile
import Varlink.Token

/-!
# String literals in TypeScript

A string literal ends at the first quote that does not belong to an escape sequence. A backslash
begins an escape sequence, and what a literal denotes is a sequence of UTF-16 code units.

A text between quotes is a literal for itself if it has no quote, no backslash and no line end in
it, and otherwise it is none. That nothing else would do is a matter of counting: an escape sequence
denotes fewer code units than it takes up, so a literal that ends at its last quote denotes a text
of its own length only if it has no escape sequences, and then it has no quotes either.
-/

namespace Varlink

namespace TypeScript

/-- The UTF-16 code units of a code point. -/
def codeUnits (code : Nat) : List Nat :=
  if code < 0x10000 then [code]
  else [0xD800 + (code - 0x10000) / 0x400, 0xDC00 + (code - 0x10000) % 0x400]

/-- The UTF-16 code units of a text. -/
def utf16 (text : List Char) : List Nat := text.flatMap fun c => codeUnits c.toNat

/-- The value of a hexadecimal digit. -/
def hexDigit? (c : Char) : Option Nat :=
  if c.isDigit then some (c.toNat - '0'.toNat)
  else if 'a' ≤ c ∧ c ≤ 'f' then some (c.toNat - 'a'.toNat + 10)
  else if 'A' ≤ c ∧ c ≤ 'F' then some (c.toNat - 'A'.toNat + 10)
  else none

/-- The value of hexadecimal digits, the first one highest. -/
def hexNumber? (digits : List Char) : Option Nat :=
  digits.foldlM (fun value c => (hexDigit? c).map (16 * value + ·)) 0

/-- The character that a backslash before a character stands for. -/
def escaped : Char → Char
  | 'b' => '\x08'
  | 't' => '\t'
  | 'n' => '\n'
  | 'v' => '\x0b'
  | 'f' => '\x0c'
  | 'r' => '\r'
  | c => c

/-- Reads what stands behind a backslash: the code units it denotes, and what follows it. Modules
are read strictly, so no digit but a zero that stands alone can be escaped. -/
def readEscape : List Char → Option (List Nat × List Char)
  | [] => none
  | '\r' :: '\n' :: rest => some ([], rest)
  | 'x' :: a :: b :: rest => (hexNumber? [a, b]).map fun code => ([code], rest)
  | 'u' :: '{' :: rest =>
    match rest.span (· ≠ '}') with
    | (digits, _ :: after) =>
      match hexNumber? digits with
      | some code => if digits ≠ [] ∧ code ≤ 0x10FFFF then some (codeUnits code, after) else none
      | none => none
    | (_, []) => none
  | 'u' :: a :: b :: c :: d :: rest => (hexNumber? [a, b, c, d]).map fun code => ([code], rest)
  | c :: rest =>
    if isLineEnd c then some ([], rest)
    else if c = '0' ∧ ¬ rest.head?.any Char.isDigit then some ([0], rest)
    else if c.isDigit ∨ c = 'x' ∨ c = 'u' then none
    else some (codeUnits (escaped c).toNat, rest)

theorem length_codeUnits (code : Nat) :
    (codeUnits code).length = if code < 0x10000 then 1 else 2 := by
  rw [codeUnits]
  split_ifs <;> rfl

theorem utf16_cons (c : Char) (text : List Char) :
    utf16 (c :: text) = codeUnits c.toNat ++ utf16 text := List.flatMap_cons

theorem utf16_append (first second : List Char) :
    utf16 (first ++ second) = utf16 first ++ utf16 second := List.flatMap_append

/-- Every character takes up a code unit. -/
theorem length_le_utf16 (text : List Char) : text.length ≤ (utf16 text).length := by
  induction text with
  | nil => exact Nat.zero_le _
  | cons c text ih =>
      rw [utf16_cons, List.length_append, length_codeUnits, List.length_cons]
      split_ifs <;> omega

theorem length_codeUnits_escaped (c : Char) :
    (codeUnits (escaped c).toNat).length ≤ (codeUnits c.toNat).length := by
  unfold escaped
  split
  all_goals first | decide | exact le_rfl

/-- The escape of a code point in braces ends behind the character that stops its digits. -/
theorem exists_of_readEscape_braced {rest after : List Char} {units : List Nat}
    (read : readEscape ('u' :: '{' :: rest) = some (units, after)) :
    ∃ digits brace code, rest = digits ++ brace :: after ∧ units = codeUnits code := by
  rw [readEscape, List.span_eq_takeWhile_dropWhile] at read
  have covered := rest.takeWhile_append_dropWhile (p := (· ≠ '}'))
  split at read
  next digits brace behind split =>
    obtain ⟨taken, left⟩ := Prod.mk.inj split
    rw [taken, left] at covered
    split at read
    next code number =>
      obtain ⟨-, same⟩ := Option.ite_none_right_eq_some.mp read
      cases same
      exact ⟨digits, brace, code, covered.symm, rfl⟩
    next => cases read
  next => cases read

/-- What stands behind a backslash denotes no more code units than it takes up. -/
theorem exists_of_readEscape {text after : List Char} {units : List Nat}
    (read : readEscape text = some (units, after)) :
    ∃ escape, text = escape ++ after ∧ units.length ≤ (utf16 escape).length := by
  have enough : ∀ escape : List Char, text = escape ++ after →
      units.length ≤ escape.length → ∃ escape, text = escape ++ after ∧
        units.length ≤ (utf16 escape).length :=
    fun escape covered short => ⟨escape, covered, short.trans (length_le_utf16 escape)⟩
  fun_cases readEscape text with
  | case1 => cases read
  | case2 rest =>
      cases read
      exact enough ['\r', '\n'] rfl (Nat.zero_le _)
  | case3 a b rest =>
      obtain ⟨code, -, same⟩ := Option.map_eq_some_iff.mp read
      cases same
      exact enough ['x', a, b] rfl (Nat.le_add_left 1 2)
  | case4 rest | case5 rest | case6 rest | case7 rest =>
      obtain ⟨digits, brace, code, rfl, rfl⟩ := exists_of_readEscape_braced read
      refine enough ('u' :: '{' :: digits ++ [brace]) ?_ ?_
      · rw [List.append_assoc]
        rfl
      · rw [length_codeUnits, List.length_append, List.length_cons, List.length_cons]
        split_ifs <;> omega
  | case8 a b c d rest noBrace =>
      rw [readEscape.eq_5 _ _ _ _ _ noBrace] at read
      obtain ⟨code, -, same⟩ := Option.map_eq_some_iff.mp read
      cases same
      exact enough ['u', a, b, c, d] rfl (Nat.le_add_left 1 4)
  | case9 c rest noFeed noHex noBrace noCode lineEnd =>
      rw [readEscape.eq_6 _ _ noFeed noHex noBrace noCode, if_pos lineEnd] at read
      cases read
      exact enough [c] rfl (Nat.zero_le _)
  | case10 c rest noFeed noHex noBrace noCode lineEnd alone =>
      rw [readEscape.eq_6 _ _ noFeed noHex noBrace noCode, if_neg lineEnd, if_pos alone] at read
      cases read
      exact enough [c] rfl le_rfl
  | case11 c rest noFeed noHex noBrace noCode lineEnd alone invalid =>
      rw [readEscape.eq_6 _ _ noFeed noHex noBrace noCode, if_neg lineEnd, if_neg alone,
        if_pos invalid] at read
      cases read
  | case12 c rest noFeed noHex noBrace noCode lineEnd alone valid =>
      rw [readEscape.eq_6 _ _ noFeed noHex noBrace noCode, if_neg lineEnd, if_neg alone,
        if_neg valid] at read
      cases read
      refine ⟨[c], rfl, ?_⟩
      rw [utf16_cons, utf16, List.flatMap_nil, List.append_nil]
      exact length_codeUnits_escaped c

theorem length_le_of_readEscape {text after : List Char} {units : List Nat}
    (read : readEscape text = some (units, after)) : after.length ≤ text.length := by
  obtain ⟨escape, rfl, -⟩ := exists_of_readEscape read
  rw [List.length_append]
  exact Nat.le_add_left _ _

/-- Reads a literal behind its opening quote: the code units it denotes, and what follows the quote
that closes it. -/
def readString (text : List Char) : Option (List Nat × List Char) :=
  match text with
  | [] => none
  | '"' :: rest => some ([], rest)
  | '\\' :: rest =>
    match escape : readEscape rest with
    | none => none
    | some (units, after) =>
      have : after.length ≤ rest.length := length_le_of_readEscape escape
      (readString after).map fun (more, behind) => (units ++ more, behind)
  | c :: rest =>
    if c = '\n' ∨ c = '\r' then none
    else (readString rest).map fun (more, behind) => (codeUnits c.toNat ++ more, behind)
termination_by text.length

/-- A text that a literal denotes by holding it as it is. -/
def Verbatim (text : List Char) : Prop := ∀ c ∈ text, c ∉ ['"', '\\', '\n', '\r']

theorem readString_verbatim {text : List Char} (verbatim : Verbatim text) (after : List Char) :
    readString (text ++ '"' :: after) = some (utf16 text, after) := by
  induction text with
  | nil => rw [List.nil_append, readString]; rfl
  | cons c text ih =>
      obtain ⟨plain, verbatim⟩ := List.forall_mem_cons.mp verbatim
      simp only [List.mem_cons, List.not_mem_nil, or_false, not_or] at plain
      obtain ⟨noQuote, noBackslash, noFeed, noReturn⟩ := plain
      rw [List.cons_append, readString.eq_4 _ _ noQuote noBackslash,
        if_neg (by simp [noFeed, noReturn]), ih verbatim, utf16_cons]
      rfl

/-- A literal ends behind a quote. It denotes no more code units than it takes up, and as many only
if it holds what it denotes as it is. -/
theorem exists_of_readString {text after : List Char} {units : List Nat}
    (read : readString text = some (units, after)) :
    ∃ body, text = body ++ '"' :: after ∧ units.length ≤ (utf16 body).length ∧
      (units.length = (utf16 body).length → Verbatim body) := by
  fun_induction readString text generalizing units with
  | case1 => cases read
  | case2 rest =>
      cases read
      exact ⟨[], rfl, le_rfl, fun _ _ inside => nomatch inside⟩
  | case3 rest none => cases read
  | case4 rest escaped behind escape shorter ih =>
      obtain ⟨⟨more, left⟩, others, same⟩ := Option.map_eq_some_iff.mp read
      cases same
      obtain ⟨sequence, rfl, short⟩ := exists_of_readEscape escape
      obtain ⟨body, rfl, bound, -⟩ := ih others
      have longer : (escaped ++ more).length < (utf16 ('\\' :: sequence ++ body)).length := by
        rw [utf16_append, utf16_cons, List.length_append, List.length_append, List.length_append]
        have backslash : (codeUnits '\\'.toNat).length = 1 := rfl
        omega
      refine ⟨'\\' :: sequence ++ body, ?_, longer.le, fun same => absurd same longer.ne⟩
      rw [List.cons_append, List.cons_append, List.append_assoc]
  | case5 c rest noQuote noBackslash lineEnd => cases read
  | case6 c rest noQuote noBackslash inLine ih =>
      obtain ⟨⟨more, left⟩, others, same⟩ := Option.map_eq_some_iff.mp read
      cases same
      obtain ⟨body, rfl, bound, verbatim⟩ := ih others
      refine ⟨c :: body, rfl, ?_, ?_⟩
      · rw [utf16_cons, List.length_append, List.length_append]
        exact Nat.add_le_add_left bound _
      · rw [utf16_cons, List.length_append, List.length_append, Nat.add_right_inj]
        intro same
        refine List.forall_mem_cons.mpr ⟨?_, verbatim same⟩
        simp only [List.mem_cons, List.not_mem_nil, or_false, not_or]
        exact ⟨noQuote, noBackslash, not_or.mp inLine⟩

/-- A literal that ends at its own quote denotes the text it holds just if this needs no escapes. -/
theorem readString_eq_iff (text after : List Char) :
    readString (text ++ '"' :: after) = some (utf16 text, after) ↔ Verbatim text := by
  constructor
  · intro read
    obtain ⟨body, covered, -, verbatim⟩ := exists_of_readString read
    obtain rfl := List.append_cancel_right covered
    exact verbatim rfl
  · exact fun verbatim => readString_verbatim verbatim after

theorem verbatim_iff {text : List Char} (inLine : ∀ c ∈ text, isLineEnd c = false) :
    Verbatim text ↔ '"' ∉ text ∧ '\\' ∉ text := by
  have noFeed : '\n' ∉ text := fun inside => nomatch inLine _ inside
  have noReturn : '\r' ∉ text := fun inside => nomatch inLine _ inside
  constructor
  · intro verbatim
    constructor
    · exact fun inside => verbatim _ inside (by decide)
    · exact fun inside => verbatim _ inside (by decide)
  · rintro ⟨noQuote, noBackslash⟩ c inside special
    simp only [List.mem_cons, List.not_mem_nil, or_false] at special
    obtain rfl | rfl | rfl | rfl := special
    · exact noQuote inside
    · exact noBackslash inside
    · exact noFeed inside
    · exact noReturn inside

end TypeScript

end Varlink
