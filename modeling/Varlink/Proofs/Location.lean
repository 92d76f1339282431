import Mathlib
import Varlink.Document.Source
import Varlink.Proofs.Cursor
import Varlink.Proofs.Outcome

/-!
# Locations of tokens

A location is computed from the characters before an offset, without looking at tokens. At a token
this comes to the same as counting tokens: the line is that of the line ends before it, and the
column that of the characters since the last of these. A carriage return is the only character whose
meaning depends on the next one, and neighbours keep apart, so a part of the text that ends with a
token can be read token by token.

Every token moves the location on, to the right or to the next line. So no two tokens have the same
location, and a location says which token an error is about.
-/

namespace Varlink

namespace Lexeme

variable {lexeme : Lexeme}

/-- Only a line end holds characters that end a line. -/
theorem Spelled.not_isLineEnd (spelled : lexeme.Spelled) (notLineEnd : lexeme.kind ≠ .endOfLine) :
    ∀ c ∈ lexeme.text.toList, isLineEnd c = false := by
  obtain ⟨kind, text⟩ := lexeme
  intro c inside
  dsimp only at inside
  cases kind with
  | endOfLine => contradiction
  | whitespace =>
      obtain ⟨d, blank, covered⟩ := spelled
      dsimp only at covered
      rw [covered] at inside
      obtain rfl := List.mem_singleton.mp inside
      rw [← Bool.not_eq_true]
      intro lineEnd
      rw [isBlank_eq_false_of_isLineEnd lineEnd] at blank
      cases blank
  | comment =>
      obtain ⟨body, inLine, covered⟩ := spelled
      dsimp only at covered
      rw [covered] at inside
      rcases List.mem_cons.mp inside with rfl | inBody
      · rfl
      · exact inLine c inBody
  | word => exact (TokenKind.ofChar_eq_word_iff.mp (spelled.chars c inside)).2.1
  | _ =>
      obtain rfl : text = _ := spelled
      have clear (signs : List Char) (none : signs.all (!isLineEnd ·) = true) :
          ∀ d ∈ signs, isLineEnd d = false := by simpa using none
      exact clear _ (by decide) c inside

end Lexeme

namespace Location

/-- Whether a location is on an earlier line than another one, or to the left of it. -/
def Precedes (first second : Location) : Prop :=
  first.line < second.line ∨ first.line = second.line ∧ first.column < second.column

/-- The location behind a token that begins here. -/
def behind (location : Location) (lexeme : Lexeme) : Location :=
  if lexeme.kind = .endOfLine then location.nextLine
  else ⟨location.line, location.column + lexeme.text.length⟩

/-- The location behind tokens, counted in tokens: one line for every line end, and one column for
every character since the last one. -/
def behindTokens (before : List Token) : Location where
  line := 1 + before.countP fun token => token.kind = .endOfLine
  column := 1 +
    ((before.rtakeWhile fun token => token.kind ≠ .endOfLine).map (·.text.length)).sum

variable {location : Location} {lexeme : Lexeme} {rest : List Char}

theorem advance_cons {c : Char} (notLineEnd : c = '\r' → rest.head? ≠ some '\n') :
    location.advance (c :: rest) =
      (if isLineEnd c then location.nextLine else location.nextColumn).advance rest := by
  have apart : ∀ after, c = '\r' → rest ≠ '\n' :: after := by
    rintro after isReturn rfl
    exact notLineEnd isReturn rfl
  rw [advance.eq_3 _ _ _ apart]
  split_ifs <;> rfl

/-- Within a line, every character takes one column. -/
theorem advance_append_of_inLine {text : List Char} (inLine : ∀ c ∈ text, isLineEnd c = false) :
    location.advance (text ++ rest) =
      advance ⟨location.line, location.column + text.length⟩ rest := by
  induction text generalizing location with
  | nil => rfl
  | cons c text ih =>
      obtain ⟨here, inLine⟩ := List.forall_mem_cons.mp inLine
      have notReturn : c = '\r' → (text ++ rest).head? ≠ some '\n' := by
        rintro rfl
        cases here
      rw [List.cons_append, advance_cons notReturn, if_neg (by simp [here]), ih inLine,
        List.length_cons, Nat.add_comm text.length, ← Nat.add_assoc]
      rfl

/-- A token is read as a whole, unless a line feed would join the carriage return it consists of. -/
theorem advance_lexeme (spelled : lexeme.Spelled)
    (closed : lexeme.text = "\r" → rest.head? ≠ some '\n') :
    location.advance (lexeme.text.toList ++ rest) = (location.behind lexeme).advance rest := by
  by_cases isLineEnd : lexeme.kind = .endOfLine
  · rw [behind, if_pos isLineEnd]
    rw [Lexeme.Spelled, isLineEnd] at spelled
    obtain covered | ⟨c, lineEnd, covered⟩ := spelled
    · rw [covered]
      rfl
    · have notReturn : c = '\r' → rest.head? ≠ some '\n' := by
        rintro rfl
        apply closed
        rw [← String.toList_inj, covered]
        rfl
      rw [covered, List.singleton_append, advance_cons notReturn, if_pos lineEnd]
  · rw [behind, if_neg isLineEnd, advance_append_of_inLine (spelled.not_isLineEnd isLineEnd)]
    rfl

/-- Neighbours that keep apart are read one after the other. -/
theorem advance_chars {lexemes : List Lexeme} (spelled : ∀ lexeme ∈ lexemes, lexeme.Spelled)
    (nonempty : ∀ lexeme ∈ lexemes, lexeme.text ≠ "") (apart : lexemes.IsChain Lexeme.Apart) :
    location.advance (Lexeme.chars lexemes) = lexemes.foldl behind location := by
  induction lexemes generalizing location with
  | nil => rfl
  | cons lexeme lexemes ih =>
      obtain ⟨here, spelled⟩ := List.forall_mem_cons.mp spelled
      have nonempty := (List.forall_mem_cons.mp nonempty).2
      obtain ⟨apartHere, apart⟩ := List.isChain_cons.mp apart
      have closed : lexeme.text = "\r" → (Lexeme.chars lexemes).head? ≠ some '\n' := by
        intro isReturn
        cases lexemes with
        | nil => rintro ⟨⟩
        | cons next lexemes =>
            rw [Lexeme.head?_chars_cons (nonempty next List.mem_cons_self)]
            exact (apartHere next rfl).lineEnds isReturn
      rw [Lexeme.chars_cons, advance_lexeme here closed, ih spelled nonempty apart,
        List.foldl_cons]

/-- The characters before an offset are those that take up its bytes. -/
theorem charsWithin_append (first rest : List Char) :
    charsWithin (String.ofList first).utf8ByteSize (first ++ rest) = first := by
  induction first with
  | nil =>
      cases rest with
      | nil => rfl
      | cons c rest =>
          rw [List.nil_append, charsWithin, if_neg]
          exact Nat.not_le_of_lt c.utf8Size_pos
  | cons c first ih =>
      rw [List.cons_append, charsWithin, String.ofList_cons, String.utf8ByteSize_append,
        String.utf8ByteSize_singleton, if_pos (Nat.le_add_right _ _), Nat.add_sub_cancel_left, ih]

/-- The location behind the first tokens of a text. -/
theorem ofOffset_of_append {source : String} {before after : List Token}
    (whole : Token.all source = before ++ after) :
    ofOffset source (before.map (·.text.utf8ByteSize)).sum =
      (before.map (·.toLexeme)).foldl behind start := by
  have divides := Lexeme.divides_all source.toList
  rw [← Token.toLexeme_all, whole, List.map_append] at divides
  have apart := divides.apart.left_of_append
  have covered := divides.covers
  rw [Lexeme.chars_append] at covered
  rw [ofOffset, ← Token.size_toLexeme, ← Lexeme.utf8ByteSize_chars, ← covered, charsWithin_append]
  apply advance_chars _ _ apart
  · exact fun lexeme inside => divides.spelled lexeme (List.mem_append_left _ inside)
  · exact fun lexeme inside => divides.nonempty lexeme (List.mem_append_left _ inside)

/-- Moving on token by token comes to counting the line ends and what follows the last of them. -/
theorem foldl_behind_start (before : List Token) :
    (before.map (·.toLexeme)).foldl behind start = behindTokens before := by
  induction before using List.reverseRecOn with
  | nil => rfl
  | append_singleton before token ih =>
      rw [List.map_append, List.foldl_append, ih, List.map_singleton, List.foldl_cons,
        List.foldl_nil, behind]
      split_ifs with isLineEnd
      · rw [behindTokens, behindTokens, List.countP_append, List.rtakeWhile_concat_neg _ _ _ (by
          simp [isLineEnd]), List.countP_singleton, if_pos (by simp [isLineEnd])]
        rfl
      · rw [behindTokens, behindTokens, List.countP_append, List.rtakeWhile_concat_pos _ _ _ (by
          simp [isLineEnd]), List.countP_singleton, if_neg (by simp [isLineEnd]), List.map_append,
          List.sum_append, List.map_singleton, List.sum_singleton, Nat.add_zero, Nat.add_assoc]

/-- What is given out, up to the end of the text, begins behind the tokens before it. -/
theorem ofOffset_of_drain {source : String} {before after : List Token} {token : Token}
    (whole : (Cursor.start source).drain.1 = before ++ token :: after) :
    ofOffset source token.offset = behindTokens before := by
  obtain ⟨others, same, place⟩ := Cursor.exists_append_of_drain whole
  rw [place, ofOffset_of_append same, foldl_behind_start]

/-! ### The order of locations -/

theorem Precedes.trans {first second third : Location} (h : first.Precedes second)
    (h' : second.Precedes third) : first.Precedes third := by
  unfold Precedes at h h' ⊢
  omega

theorem Precedes.ne {first second : Location} (h : first.Precedes second) : first ≠ second := by
  rintro rfl
  unfold Precedes at h
  omega

/-- Every token moves the location on. -/
theorem precedes_behind (location : Location) {lexeme : Lexeme} (nonempty : lexeme.text ≠ "") :
    location.Precedes (location.behind lexeme) := by
  rw [behind]
  split_ifs
  · exact .inl (Nat.lt_succ_self _)
  · refine .inr ⟨rfl, Nat.lt_add_of_pos_right ?_⟩
    exact Nat.pos_of_ne_zero (mt String.length_eq_zero_iff.mp nonempty)

theorem precedes_foldl_behind (location : Location) {lexeme : Lexeme} {lexemes : List Lexeme}
    (nonempty : ∀ other ∈ lexeme :: lexemes, other.text ≠ "") :
    location.Precedes ((lexeme :: lexemes).foldl behind location) := by
  induction lexemes generalizing location lexeme with
  | nil => exact location.precedes_behind (nonempty lexeme List.mem_cons_self)
  | cons next lexemes ih =>
      obtain ⟨here, nonempty⟩ := List.forall_mem_cons.mp nonempty
      exact (location.precedes_behind here).trans (ih _ nonempty)

/-- Tokens that are given out later have later locations. -/
theorem pairwise_precedes (source : String) :
    (Cursor.start source).drain.1.Pairwise fun first second =>
      (ofOffset source first.offset).Precedes (ofOffset source second.offset) := by
  suffices behind : ∀ before after, (Cursor.start source).drain.1 = before ++ after →
      after.Pairwise fun first second =>
        (ofOffset source first.offset).Precedes (ofOffset source second.offset) from
    behind [] _ rfl
  intro before after whole
  induction after generalizing before with
  | nil => exact .nil
  | cons token after ih =>
      refine List.pairwise_cons.mpr ⟨?_, ih (before ++ [token]) (by simpa using whole)⟩
      intro later inside
      obtain ⟨between, rest, rfl⟩ := List.mem_iff_append.mp inside
      have wholeLater : (Cursor.start source).drain.1 =
          (before ++ token :: between) ++ later :: rest := by
        simpa using whole
      obtain ⟨others, same, -⟩ := Cursor.exists_append_of_drain wholeLater
      have nonempty : ∀ other ∈ (token :: between).map (·.toLexeme), other.text ≠ "" := by
        have divides := Lexeme.divides_all source.toList
        rw [← Token.toLexeme_all, same, List.map_append, List.map_append] at divides
        intro other isOther
        exact divides.nonempty other (List.mem_append_left _ (List.mem_append_right _ isOther))
      rw [ofOffset_of_drain whole, ofOffset_of_drain wholeLater, ← foldl_behind_start,
        ← foldl_behind_start, List.map_append, List.foldl_append]
      exact precedes_foldl_behind _ nonempty

/-! ### The locations of errors -/

/-- The place that a number of tokens stands for is a token with a meaning, or the end. -/
theorem exists_offsetOf (source : String) (left : Nat) :
    ∃ token ∈ (Cursor.start source).drain.1, token.kind.isTrivia = false ∧
      token.offset = Document.offsetOf source (Token.significant source) left := by
  rw [Cursor.drain_start, Document.offsetOf]
  split
  · refine ⟨Token.atEnd source, List.mem_append_right _ (List.mem_singleton_self _), rfl, rfl⟩
  · next token others behind =>
    have significant : token ∈ Token.significant source :=
      List.mem_of_mem_drop (behind ▸ List.mem_cons_self)
    obtain ⟨inside, meaning⟩ := List.mem_filter.mp significant
    exact ⟨token, List.mem_append_left _ inside, by simpa using meaning, rfl⟩

/-- Where a syntax error is, there begins a token with a meaning, or the text ends. -/
theorem exists_token_of_error {source : String} {error : SyntaxError}
    (failed : (Document.parse source).outcome = .error error) :
    ∃ token ∈ (Cursor.start source).drain.1, token.kind.isTrivia = false ∧
      ofOffset source token.offset = error.location := by
  rw [Document.parse, Logged.outcome_bimap] at failed
  obtain ⟨fault, -, rfl⟩ := mapError_eq_error.mp failed
  obtain ⟨token, inside, meaning, place⟩ := exists_offsetOf source fault.left
  refine ⟨token, inside, meaning, ?_⟩
  rw [place, Document.errorOf]

/-- Tokens with one location are the same token. -/
theorem eq_of_ofOffset_eq {source : String} {first second : Token}
    (inside : first ∈ (Cursor.start source).drain.1)
    (inside' : second ∈ (Cursor.start source).drain.1)
    (same : ofOffset source first.offset = ofOffset source second.offset) : first = second := by
  have different : ((Cursor.start source).drain.1.map fun token =>
      ofOffset source token.offset).Nodup :=
    List.pairwise_map.mpr ((pairwise_precedes source).imp Precedes.ne)
  exact List.inj_on_of_nodup_map different inside inside' same

/-- The location of a token tells how many lines and characters come before it. So tokens that come
later have later locations, and the location of an error is that of one token only, which is not one
that the reader skips. -/
theorem counts_tokens (source : String) :
    (∀ before token after, (Cursor.start source).drain.1 = before ++ token :: after →
      ofOffset source token.offset = behindTokens before) ∧
    ((Cursor.start source).drain.1.Pairwise fun first second =>
      (ofOffset source first.offset).Precedes (ofOffset source second.offset)) ∧
    ∀ error, (Document.parse source).outcome = .error error →
      ∃ token ∈ (Cursor.start source).drain.1, token.kind.isTrivia = false ∧
        ∀ other ∈ (Cursor.start source).drain.1,
          ofOffset source other.offset = error.location ↔ other = token := by
  refine ⟨fun before token after => ofOffset_of_drain, pairwise_precedes source, ?_⟩
  intro error failed
  obtain ⟨token, inside, meaning, here⟩ := exists_token_of_error failed
  refine ⟨token, inside, meaning, fun other otherInside => ?_⟩
  constructor
  · intro there
    exact eq_of_ofOffset_eq otherInside inside (there.trans here.symm)
  · rintro rfl
    exact here

/-- A text that is rejected at its parenthesis, behind two line ends in a row. -/
theorem counts_tokens_of_rejected :
    (Cursor.start "interface a\r\n\r (").drain.1 = [⟨⟨.word, "interface"⟩, 0⟩,
        ⟨⟨.whitespace, " "⟩, 9⟩, ⟨⟨.word, "a"⟩, 10⟩, ⟨⟨.endOfLine, "\r\n"⟩, 11⟩,
        ⟨⟨.endOfLine, "\r"⟩, 13⟩, ⟨⟨.whitespace, " "⟩, 14⟩] ++
      ⟨⟨.groupStart, "("⟩, 15⟩ :: [⟨⟨.endOfInput, ""⟩, 16⟩] ∧
    ofOffset "interface a\r\n\r (" 15 = ⟨3, 2⟩ ∧
    (Document.parse "interface a\r\n\r (").outcome =
      .error ⟨.unexpectedToken [.endOfInput, .word] .groupStart, ⟨3, 2⟩⟩ ∧
    ∃ token ∈ (Cursor.start "interface a\r\n\r (").drain.1, token.kind.isTrivia = false ∧
      ∀ other ∈ (Cursor.start "interface a\r\n\r (").drain.1,
        ofOffset "interface a\r\n\r (" other.offset = ⟨3, 2⟩ ↔ other = token := by
  obtain ⟨places, -, errors⟩ := counts_tokens "interface a\r\n\r ("
  have tokens : (Cursor.start "interface a\r\n\r (").drain.1 = [⟨⟨.word, "interface"⟩, 0⟩,
      ⟨⟨.whitespace, " "⟩, 9⟩, ⟨⟨.word, "a"⟩, 10⟩, ⟨⟨.endOfLine, "\r\n"⟩, 11⟩,
      ⟨⟨.endOfLine, "\r"⟩, 13⟩, ⟨⟨.whitespace, " "⟩, 14⟩] ++
      ⟨⟨.groupStart, "("⟩, 15⟩ :: [⟨⟨.endOfInput, ""⟩, 16⟩] := by
    decide +kernel
  have failed : (Document.parse "interface a\r\n\r (").outcome =
      .error ⟨.unexpectedToken [.endOfInput, .word] .groupStart, ⟨3, 2⟩⟩ := by
    cbv
  refine ⟨tokens, ?_, failed, errors _ failed⟩
  rw [places _ _ _ tokens]
  decide

end Location

end Varlink
