import Mathlib.Algebra.GroupWithZero.Nat
import Mathlib.Data.List.Chain
import Varlink.Proofs.Token.Boundary

/-!
# The division of a text into tokens

What the tokens of a text are can be said without reading any: they cover the text, each is spelled
as its kind asks for, and neighbours keep apart. Two words would be one word, a carriage return and
a line feed one line end, and a comment takes in all of its line. Every text has exactly one such
division, and reading finds it.

Neighbours that keep apart are those of which the first ends where the second begins, so the longest
token at the start of a text is the only one that can stand there. The offsets follow: a token comes
after the bytes of the tokens before it, and so never in the middle of a character.
-/

namespace Varlink

/-- The characters of words are those that make no token of another kind. -/
theorem TokenKind.ofChar_eq_word_iff {c : Char} : ofChar c = .word ↔
    isBlank c = false ∧ isLineEnd c = false ∧ c ∉ ['#', '(', ')', ',', ':'] := by
  unfold ofChar
  split_ifs <;> simp_all

namespace Lexeme

/-- What keeps two neighbours from being one token. -/
structure Apart (first second : Lexeme) : Prop where
  words : first.kind = .word → second.kind ≠ .word
  lineEnds : first.text = "\r" → second.text.toList.head? ≠ some '\n'
  comments : first.kind = .comment → second.kind = .endOfLine

/-- The parts a text consists of, each a token of its kind. -/
structure Divides (cs : List Char) (lexemes : List Lexeme) : Prop where
  covers : chars lexemes = cs
  nonempty : ∀ lexeme ∈ lexemes, lexeme.text ≠ ""
  spelled : ∀ lexeme ∈ lexemes, lexeme.Spelled
  /-- No word holds a character that is a token of its own or begins one. -/
  plain : ∀ lexeme ∈ lexemes, lexeme.kind = .word → ∀ c ∈ lexeme.text.toList,
    isBlank c = false ∧ isLineEnd c = false ∧ c ∉ ['#', '(', ')', ',', ':']
  apart : lexemes.IsChain Apart

variable {cs : List Char} {lexeme next : Lexeme} {lexemes : List Lexeme}

/-- Only the end of the input is an empty token. -/
theorem Spelled.kind_ne_endOfInput (spelled : lexeme.Spelled) (nonempty : lexeme.text ≠ "") :
    lexeme.kind ≠ .endOfInput := by
  intro atEnd
  rw [Spelled, atEnd] at spelled
  exact nonempty spelled

/-- Nothing but a line end begins with a character that ends a line. -/
theorem Spelled.kind_eq_endOfLine (spelled : lexeme.Spelled) {c : Char}
    (first : lexeme.text.toList.head? = some c) (lineEnd : isLineEnd c = true) :
    lexeme.kind = .endOfLine := by
  obtain ⟨kind, text⟩ := lexeme
  dsimp only at first
  cases kind with
  | endOfLine => rfl
  | whitespace =>
      obtain ⟨d, blank, covered⟩ := spelled
      dsimp only at covered
      rw [covered] at first
      obtain rfl : d = c := Option.some.inj first
      rw [isBlank_eq_false_of_isLineEnd lineEnd] at blank
      cases blank
  | comment =>
      obtain ⟨body, -, covered⟩ := spelled
      dsimp only at covered
      rw [covered] at first
      obtain rfl : '#' = c := Option.some.inj first
      cases lineEnd
  | word =>
      have inside : c ∈ text.toList := List.mem_of_mem_head? first
      have plain := TokenKind.ofChar_eq_word_iff.mp (spelled.chars c inside)
      rw [plain.2.1] at lineEnd
      cases lineEnd
  | endOfInput =>
      obtain rfl : text = "" := spelled
      cases first
  | _ =>
      obtain rfl : text = _ := spelled
      obtain rfl : _ = c := Option.some.inj first
      cases lineEnd

/-- A line end begins with a character that ends a line. -/
theorem Spelled.isLineEnd_of_head? (spelled : lexeme.Spelled) (isEnd : lexeme.kind = .endOfLine)
    {c : Char} (first : lexeme.text.toList.head? = some c) : isLineEnd c = true := by
  rw [Spelled, isEnd] at spelled
  obtain covered | ⟨d, lineEnd, covered⟩ := spelled
  · rw [covered] at first
    obtain rfl : '\r' = c := Option.some.inj first
    rfl
  · rw [covered] at first
    obtain rfl : d = c := Option.some.inj first
    exact lineEnd

theorem head?_chars_cons (nonempty : next.text ≠ "") :
    (chars (next :: lexemes)).head? = next.text.toList.head? := by
  have nonempty : next.text.toList ≠ [] := by simpa using nonempty
  rw [chars_cons, List.head?_append_of_ne_nil _ nonempty]

/-- A lexeme ends before a neighbour that it keeps apart from. -/
theorem Apart.ends (apart : Apart lexeme next) (spelled : next.Spelled)
    (nonempty : next.text ≠ "") :
    Ends lexeme.kind lexeme.text.toList (chars (next :: lexemes)) := by
  have notEnd := spelled.kind_ne_endOfInput nonempty
  unfold Ends
  split
  · rename_i isWord
    have notWord := apart.words isWord
    rw [chars_cons, split_kind spelled notEnd notWord]
    exact notWord
  · rename_i isComment
    intro c first
    rw [head?_chars_cons nonempty] at first
    exact spelled.isLineEnd_of_head? (apart.comments isComment) first
  · intro isReturn
    rw [head?_chars_cons nonempty]
    refine apart.lineEnds ?_
    rw [← String.toList_inj, isReturn]
    rfl
  · trivial

theorem ends_nil (kind : TokenKind) (text : List Char) : Ends kind text [] := by
  cases kind <;> simp [Ends, split]

/-- A lexeme that ends where its neighbour begins keeps apart from it. -/
theorem apart_of_ends (spelled : lexeme.Spelled) (spelledNext : next.Spelled)
    (nonempty : next.text ≠ "") (kind : (split (chars (next :: lexemes))).1 = next.kind)
    (ends : Ends lexeme.kind lexeme.text.toList (chars (next :: lexemes))) :
    Apart lexeme next := by
  constructor
  · intro isWord
    rw [isWord] at ends
    rw [← kind]
    exact ends
  · intro isReturn
    have isEnd : lexeme.kind = .endOfLine := by
      apply spelled.kind_eq_endOfLine (c := '\r') _ rfl
      rw [isReturn]
      rfl
    rw [isEnd] at ends
    rw [← head?_chars_cons nonempty]
    apply ends
    rw [isReturn]
    rfl
  · intro isComment
    rw [isComment] at ends
    obtain ⟨c, text, covered⟩ := List.exists_cons_of_ne_nil (l := next.text.toList)
      (by simpa using nonempty)
    have first : next.text.toList.head? = some c := by
      rw [covered]
      rfl
    refine spelledNext.kind_eq_endOfLine first (ends c ?_)
    rw [head?_chars_cons nonempty]
    exact first

/-- The lexemes that are read divide the text. -/
theorem divides_all (cs : List Char) : Divides cs (all cs) := by
  have nonempty : ∀ lexeme ∈ all cs, lexeme.text ≠ "" := by
    intro lexeme inside
    obtain ⟨before, after, whole⟩ := List.mem_iff_append.mp inside
    obtain ⟨spelled, notEnd, -⟩ := all_eq_cons (all_chars_suffix whole)
    simpa using spelled.text_ne_nil notEnd
  refine ⟨chars_all cs, nonempty, spelled_of_mem_all, ?_, ?_⟩
  · intro lexeme inside isWord c within
    have spelled := spelled_of_mem_all lexeme inside
    rw [Spelled, isWord] at spelled
    exact TokenKind.ofChar_eq_word_iff.mp (spelled.chars c within)
  · generalize same : all cs = lexemes at nonempty
    induction lexemes generalizing cs with
    | nil => exact .nil
    | cons lexeme lexemes ih =>
        obtain ⟨spelled, -, rest, -, behind, ends⟩ := all_eq_cons same
        have tail := ih rest behind (List.forall_mem_cons.mp nonempty).2
        cases lexemes with
        | nil => exact .singleton _
        | cons next lexemes =>
            obtain ⟨spelledNext, notEnd, after, rfl, rfl, endsNext⟩ := all_eq_cons behind
            rw [← chars_all after, ← chars_cons] at ends
            refine List.isChain_cons_cons.mpr ⟨apart_of_ends spelled spelledNext ?_ ?_ ends, tail⟩
            · exact nonempty next (List.mem_cons_of_mem _ List.mem_cons_self)
            · rw [chars_cons, chars_all, split_of_ends spelledNext notEnd endsNext]

/-- What divides a text is read, one part after the other. -/
theorem Divides.all_eq (divides : Divides cs lexemes) : all cs = lexemes := by
  obtain ⟨rfl, nonempty, spelled, -, apart⟩ := divides
  induction lexemes with
  | nil => exact all_nil
  | cons lexeme lexemes ih =>
      obtain ⟨here, nonempty⟩ := List.forall_mem_cons.mp nonempty
      obtain ⟨spelledHere, spelled⟩ := List.forall_mem_cons.mp spelled
      obtain ⟨apartHere, apart⟩ := List.isChain_cons.mp apart
      have ends : Ends lexeme.kind lexeme.text.toList (chars lexemes) := by
        cases lexemes with
        | nil => exact ends_nil _ _
        | cons next lexemes =>
            exact (apartHere next rfl).ends (spelled next List.mem_cons_self)
              (nonempty next List.mem_cons_self)
      rw [chars_cons, all_append_of_ends spelledHere (spelledHere.kind_ne_endOfInput here) ends,
        ih nonempty spelled apart]

theorem divides_iff : Divides cs lexemes ↔ all cs = lexemes := by
  constructor
  · exact Divides.all_eq
  · rintro rfl
    exact divides_all cs

/-- The number of bytes that lexemes take. -/
def size (lexemes : List Lexeme) : Nat := (lexemes.map (·.text.utf8ByteSize)).sum

@[simp] theorem size_nil : size [] = 0 := rfl

@[simp] theorem size_cons (lexeme : Lexeme) (lexemes : List Lexeme) :
    size (lexeme :: lexemes) = lexeme.text.utf8ByteSize + size lexemes := by
  rw [size, List.map_cons, List.sum_cons]
  rfl

theorem size_append (first second : List Lexeme) :
    size (first ++ second) = size first + size second := by
  rw [size, List.map_append, List.sum_append]
  rfl

theorem utf8ByteSize_chars (lexemes : List Lexeme) :
    (String.ofList (chars lexemes)).utf8ByteSize = size lexemes := by
  induction lexemes with
  | nil => rfl
  | cons lexeme lexemes ih =>
      rw [chars_cons, String.ofList_append, String.utf8ByteSize_append, String.ofList_toList, ih,
        size_cons]

end Lexeme

namespace Token

/-- The end of a text, as a token. -/
def atEnd (source : String) : Token := ⟨⟨.endOfInput, ""⟩, source.utf8ByteSize⟩

/-- The parts of a text at their places, each behind the bytes of the parts before it. -/
structure Divides (source : String) (tokens : List Token) : Prop where
  lexemes : Lexeme.Divides source.toList (tokens.map (·.toLexeme))
  offsets : ∀ before token after, tokens = before ++ token :: after →
    token.offset = (before.map (·.text.utf8ByteSize)).sum

variable {source : String} {tokens : List Token}

theorem getElem?_place (offset : Nat) (lexemes : List Lexeme) (index : Nat) :
    (place offset lexemes)[index]? =
      lexemes[index]?.map fun lexeme => ⟨lexeme, offset + Lexeme.size (lexemes.take index)⟩ := by
  induction lexemes generalizing offset index with
  | nil => rfl
  | cons lexeme lexemes ih =>
      cases index with
      | zero => rfl
      | succ index =>
          rw [place, List.getElem?_cons_succ, ih, List.getElem?_cons_succ, List.take_succ_cons,
            Lexeme.size_cons, Nat.add_assoc]

theorem getElem?_all (source : String) (index : Nat) : (all source)[index]? =
    (Lexeme.all source.toList)[index]?.map fun lexeme =>
      ⟨lexeme, Lexeme.size ((Lexeme.all source.toList).take index)⟩ := by
  rw [all, getElem?_place]
  simp only [Nat.zero_add]

theorem toLexeme_all (source : String) :
    (all source).map (·.toLexeme) = Lexeme.all source.toList :=
  toLexeme_place 0 _

theorem size_toLexeme (tokens : List Token) :
    Lexeme.size (tokens.map (·.toLexeme)) = (tokens.map (·.text.utf8ByteSize)).sum := by
  rw [Lexeme.size, List.map_map]
  rfl

theorem offset_eq_of_append {before after : List Token} {token : Token}
    (whole : all source = before ++ token :: after) :
    token.offset = (before.map (·.text.utf8ByteSize)).sum := by
  have here : (all source)[before.length]? = some token := by
    rw [whole, List.getElem?_append_right le_rfl, Nat.sub_self, List.getElem?_cons_zero]
  rw [getElem?_all] at here
  obtain ⟨lexeme, -, rfl⟩ := Option.map_eq_some_iff.mp here
  rw [← size_toLexeme, ← toLexeme_all, whole, List.map_append,
    List.take_left' (List.length_map _)]

/-- The tokens of a text are its one division. -/
theorem divides_iff : Divides source tokens ↔ tokens = all source := by
  constructor
  · rintro ⟨lexemes, offsets⟩
    refine List.ext_getElem? fun index => ?_
    rw [getElem?_all, lexemes.all_eq, List.getElem?_map]
    cases here : tokens[index]? with
    | none => rfl
    | some token =>
        obtain ⟨bound, rfl⟩ := List.getElem?_eq_some_iff.mp here
        have whole : tokens = tokens.take index ++ tokens[index] :: tokens.drop (index + 1) := by
          rw [List.getElem_cons_drop, List.take_append_drop]
        have place := offsets _ _ _ whole
        rw [← size_toLexeme, List.map_take] at place
        simp only [Option.map_some, ← place]
  · rintro rfl
    refine ⟨?_, fun before token after => offset_eq_of_append⟩
    rw [toLexeme_all]
    exact Lexeme.divides_all _

/-- No token begins in the middle of a character. -/
theorem Divides.isValid (divides : Divides source tokens) {token : Token}
    (inside : token ∈ tokens) : (⟨token.offset⟩ : String.Pos.Raw).IsValid source := by
  obtain ⟨before, after, rfl⟩ := List.mem_iff_append.mp inside
  have place := divides.offsets before token after rfl
  have covered := divides.lexemes.covers
  rw [List.map_append, Lexeme.chars_append] at covered
  refine String.Pos.Raw.isValid_iff_exists_append.mpr ⟨String.ofList (Lexeme.chars
    (before.map (·.toLexeme))), String.ofList (Lexeme.chars ((token :: after).map (·.toLexeme))),
    ?_, ?_⟩
  · rw [← String.ofList_append, covered, String.ofList_toList]
  · rw [place, ← size_toLexeme, ← Lexeme.utf8ByteSize_chars]
    rfl

end Token

end Varlink
