import Varlink.Proofs.Token.Boundary

/-!
# Padding between tokens

Padding is text of blanks, line ends and comments in which the last comment is ended. Put between two
tokens it need not be read as it is read alone: a comment in front of it takes its first line in, and
a carriage return in front of it may become one line end with the line feed it begins with. Whatever
takes some of it in is trivia itself, so the significant tokens stay what they were, and what is left
is padding again. Everything else before it does not see the difference.
-/

namespace Varlink

namespace Lexeme

/-- Text that can be put between two tokens: it holds trivia only, and a comment in it does not go
on behind it. -/
structure IsPadding (text : List Char) : Prop where
  trivia : ∀ lexeme ∈ all text, lexeme.kind.isTrivia
  closed : ∀ lexeme ∈ (all text).getLast?, lexeme.kind ≠ .comment

theorem IsPadding.nil : IsPadding [] := by
  constructor <;> simp

theorem IsPadding.tail {text rest : List Char} {lexeme : Lexeme}
    (h : all text = lexeme :: all rest) (padding : IsPadding text) : IsPadding rest := by
  obtain ⟨trivia, closed⟩ := padding
  rw [h] at trivia closed
  constructor
  · intro other inside
    exact trivia other (List.mem_cons_of_mem _ inside)
  · intro last isLast
    apply closed
    rw [List.getLast?_cons, isLast]
    rfl

theorem significant_of_ends {lexeme : Lexeme} {rest : List Char} (spelled : lexeme.Spelled)
    (notEnd : lexeme.kind ≠ .endOfInput) (ends : Ends lexeme.kind lexeme.text.toList rest) :
    significant (lexeme.text.toList ++ rest) =
      if lexeme.kind.isTrivia then significant rest else lexeme :: significant rest := by
  unfold significant
  rw [all_append_of_ends spelled notEnd ends, List.filter_cons]
  cases lexeme.kind.isTrivia <;> rfl

theorem ne_endOfInput_of_isTrivia {kind : TokenKind} (trivia : kind.isTrivia) :
    kind ≠ .endOfInput := by
  rintro rfl
  cases trivia

theorem ne_word_of_isTrivia {kind : TokenKind} (trivia : kind.isTrivia) : kind ≠ .word := by
  rintro rfl
  cases trivia

/-- Trivia in front of a text is passed over, unless it is a comment that takes the text in. -/
theorem significant_trivia {lexeme : Lexeme} {rest : List Char} (spelled : lexeme.Spelled)
    (trivia : lexeme.kind.isTrivia)
    (closed : lexeme.kind = .comment → ∀ c ∈ rest.head?, isLineEnd c) :
    significant (lexeme.text.toList ++ rest) = significant rest := by
  by_cases ends : Ends lexeme.kind lexeme.text.toList rest
  · rw [significant_of_ends spelled (ne_endOfInput_of_isTrivia trivia) ends, if_pos trivia]
  · obtain ⟨kind, text⟩ := lexeme
    cases kind with
    | comment => exact absurd (closed rfl) ends
    | endOfLine =>
        -- a carriage return that becomes part of a longer line end
        obtain ⟨isReturn, follows⟩ : text.toList = ['\r'] ∧ rest.head? = some '\n' := by
          simpa [Ends] using ends
        obtain ⟨after, rfl⟩ := List.head?_eq_some_iff.mp follows
        show significant (text.toList ++ '\n' :: after) = _
        rw [isReturn, significant_lineFeed]
        exact significant_of_split (List.cons_ne_nil _ _) rfl
    | word => cases trivia
    | _ => exact absurd trivial ends

/-- Padding is trivia after trivia, where a comment is always followed by a line end. -/
@[elab_as_elim]
theorem IsPadding.induction {motive : List Char → Prop} (nil : motive [])
    (cons : ∀ (lexeme : Lexeme) (rest : List Char), lexeme.Spelled → lexeme.kind.isTrivia →
      IsPadding (lexeme.text.toList ++ rest) →
      (lexeme.kind = .comment → ∃ c after, rest = c :: after ∧ isLineEnd c) →
      motive rest → motive (lexeme.text.toList ++ rest))
    {padding : List Char} (isPadding : IsPadding padding) : motive padding := by
  cases h : all padding with
  | nil =>
      have empty := chars_all padding
      rw [h] at empty
      exact empty ▸ nil
  | cons lexeme lexemes =>
      obtain ⟨spelled, notEnd, rest, rfl, rfl, ends⟩ := all_eq_cons h
      have trivia : lexeme.kind.isTrivia := isPadding.trivia lexeme (h ▸ List.mem_cons_self)
      have taken := List.length_pos_iff.mpr (spelled.text_ne_nil notEnd)
      have shorter : rest.length < (lexeme.text.toList ++ rest).length := by
        rw [List.length_append]
        omega
      refine cons lexeme rest spelled trivia isPadding ?_ (induction nil cons (isPadding.tail h))
      intro isComment
      cases rest with
      | nil =>
          refine absurd isComment (isPadding.closed lexeme ?_)
          rw [h, all_nil]
          rfl
      | cons c after =>
          rw [isComment] at ends
          exact ⟨c, after, rfl, ends c rfl⟩
termination_by padding.length

/-- Padding in front of a text is passed over. -/
theorem significant_padding {padding : List Char} (isPadding : IsPadding padding)
    (rest : List Char) : significant (padding ++ rest) = significant rest := by
  refine IsPadding.induction rfl ?_ isPadding
  intro lexeme behind spelled trivia _ closed tail
  rw [List.append_assoc, significant_trivia spelled trivia, tail]
  intro isComment c first
  obtain ⟨d, after, rfl, lineEnd⟩ := closed isComment
  obtain rfl : d = c := Option.some.inj first
  exact lineEnd

/-- What a comment leaves of padding behind it is padding. -/
theorem IsPadding.dropLine {padding : List Char} (isPadding : IsPadding padding) :
    IsPadding (splitLine padding).2 := by
  refine IsPadding.induction .nil ?_ isPadding
  intro lexeme rest spelled trivia whole _ tail
  obtain ⟨kind, text⟩ := lexeme
  cases kind with
  | whitespace =>
      obtain ⟨c, blank, covered⟩ := spelled
      have inLine : isLineEnd c = false := by
        rw [← Bool.not_eq_true]
        intro lineEnd
        rw [isBlank_eq_false_of_isLineEnd lineEnd] at blank
        cases blank
      have inLine : ∀ d ∈ [c], isLineEnd d = false := List.forall_mem_singleton.mpr inLine
      dsimp only at covered
      rw [covered, splitLine_append_of_inLine inLine]
      exact tail
  | comment =>
      obtain ⟨body, inLine, covered⟩ := spelled
      have inLine : ∀ c ∈ '#' :: body, isLineEnd c = false :=
        List.forall_mem_cons.mpr ⟨rfl, inLine⟩
      dsimp only at covered
      rw [covered, splitLine_append_of_inLine inLine]
      exact tail
  | endOfLine =>
      rw [splitLine_of_head]
      · exact whole
      · obtain covered | ⟨c, lineEnd, covered⟩ := spelled
        · dsimp only at covered
          simp [covered, isLineEnd]
        · dsimp only at covered
          simpa [covered] using lineEnd
  | _ => cases trivia

/-- Padding does not lengthen a word. -/
theorem Ends.padding {kind : TokenKind} {text padding rest : List Char}
    (significant : kind.isTrivia = false) (ends : Ends kind text rest)
    (isPadding : IsPadding padding) : Ends kind text (padding ++ rest) := by
  cases kind with
  | word =>
      refine IsPadding.induction ends ?_ isPadding
      intro lexeme behind spelled trivia _ _ _
      have notEnd := ne_endOfInput_of_isTrivia trivia
      have notWord := ne_word_of_isTrivia trivia
      rw [List.append_assoc, Ends, split_kind spelled notEnd notWord]
      exact notWord
  | comment => cases significant
  | endOfLine => cases significant
  | _ => trivial

/-- Padding behind a token is passed over, and so is the part of it that the token takes in. -/
theorem significant_token_padding {lexeme : Lexeme} {padding rest : List Char}
    (spelled : lexeme.Spelled) (notEnd : lexeme.kind ≠ .endOfInput)
    (ends : Ends lexeme.kind lexeme.text.toList rest) (isPadding : IsPadding padding) :
    (split (lexeme.text.toList ++ (padding ++ rest))).1 = lexeme.kind ∧
    significant (lexeme.text.toList ++ (padding ++ rest)) =
      significant (lexeme.text.toList ++ rest) := by
  have passed := significant_padding isPadding rest
  by_cases trivia : lexeme.kind.isTrivia
  · refine ⟨split_kind spelled notEnd (ne_word_of_isTrivia trivia) _, ?_⟩
    rw [significant_of_ends spelled notEnd ends, if_pos trivia]
    by_cases isComment : lexeme.kind = .comment
    · obtain ⟨kind, text⟩ := lexeme
      obtain rfl : kind = .comment := isComment
      obtain ⟨body, inLine, covered⟩ := spelled
      dsimp only at covered
      have nonempty := List.cons_ne_nil '#' (body ++ (padding ++ rest))
      have taken := significant_of_split nonempty (split_comment inLine _)
      rw [if_pos trivia, splitLine_append_of_head ends,
        significant_padding isPadding.dropLine] at taken
      rwa [covered, List.cons_append]
    · rw [significant_trivia spelled trivia (fun h => absurd h isComment), passed]
  · have notTrivia : lexeme.kind.isTrivia = false := by simpa using trivia
    have ends' := ends.padding notTrivia isPadding
    rw [split_of_ends spelled notEnd ends', significant_of_ends spelled notEnd ends',
      significant_of_ends spelled notEnd ends, passed]
    exact ⟨rfl, rfl⟩

theorem significant_append {lexemes : List Lexeme} {rest : List Char}
    (boundary : all (chars lexemes ++ rest) = lexemes ++ all rest) :
    significant (chars lexemes ++ rest) =
      lexemes.filter (fun lexeme => !lexeme.kind.isTrivia) ++ significant rest := by
  unfold significant
  rw [boundary, List.filter_append]

/-- Padding can be put between any two tokens of a text, in front of all and behind all. -/
theorem significant_insert {before : List Lexeme} {rest padding : List Char}
    (boundary : all (chars before ++ rest) = before ++ all rest) (isPadding : IsPadding padding) :
    significant (chars before ++ (padding ++ rest)) = significant (chars before ++ rest) := by
  obtain rfl | ⟨before, last, rfl⟩ := List.eq_nil_or_concat before
  · exact significant_padding isPadding rest
  · rw [List.concat_eq_append] at boundary ⊢
    rw [List.append_assoc, List.singleton_append] at boundary
    have behind : all (last.text.toList ++ rest) = last :: all rest := by
      simpa using all_chars_suffix boundary
    obtain ⟨spelled, notEnd, rest', covered, -, ends⟩ := all_eq_cons behind
    obtain rfl := List.append_cancel_left covered
    obtain ⟨sameKind, same⟩ := significant_token_padding spelled notEnd ends isPadding
    have start : all (chars before ++ (last.text.toList ++ rest)) =
        before ++ all (last.text.toList ++ rest) := by
      simpa [behind] using boundary
    have start' : all (chars before ++ (last.text.toList ++ (padding ++ rest))) =
        before ++ all (last.text.toList ++ (padding ++ rest)) := by
      apply all_append_congr _ _ start
      · rw [sameKind, split_of_ends spelled notEnd ends]
      · obtain ⟨c, text, covered⟩ := List.exists_cons_of_ne_nil (spelled.text_ne_nil notEnd)
        rw [covered]
        rfl
    have cut (after : List Char) : chars (before ++ [last]) ++ after =
        chars before ++ (last.text.toList ++ after) := by
      simp
    rw [cut, cut, significant_append start, significant_append start', same]

end Lexeme

namespace Token

/-- An offset where a token of a text begins, or where the text ends. -/
def IsBoundary (source : String) (offset : Nat) : Prop :=
  (∃ token ∈ all source, token.offset = offset) ∨ offset = source.utf8ByteSize

/-- A token is offset by the tokens before it. -/
theorem exists_of_mem_place {offset : Nat} {lexemes : List Lexeme} {token : Token}
    (h : token ∈ place offset lexemes) :
    ∃ before after, lexemes = before ++ after ∧
      token.offset = offset + (String.ofList (Lexeme.chars before)).utf8ByteSize := by
  induction lexemes generalizing offset with
  | nil => cases h
  | cons lexeme lexemes ih =>
      obtain rfl | behind := List.mem_cons.mp h
      · exact ⟨[], lexeme :: lexemes, rfl, by simp⟩
      · obtain ⟨before, after, rfl, place⟩ := ih behind
        refine ⟨lexeme :: before, after, rfl, ?_⟩
        rw [place, Lexeme.chars_cons, String.ofList_append, String.utf8ByteSize_append,
          String.ofList_toList, Nat.add_assoc]

/-- A text is cut in one way into parts of given sizes. -/
theorem eq_of_utf8ByteSize {before after : String} {first second : List Char}
    (same : (before ++ after).toList = first ++ second)
    (size : (String.ofList first).utf8ByteSize = before.utf8ByteSize) :
    before.toList = first ∧ after.toList = second := by
  rw [String.toList_append] at same
  have noMore (more : List Char) (h : (String.ofList more).utf8ByteSize = 0) : more = [] := by
    simpa using h
  obtain ⟨more, rfl, rest⟩ | ⟨more, covered, rfl⟩ := List.append_eq_append_iff.mp same
  · rw [String.ofList_append, String.utf8ByteSize_append, String.ofList_toList] at size
    obtain rfl := noMore more (by omega)
    exact ⟨(List.append_nil _).symm, rest⟩
  · have sizes := congrArg (fun chars => (String.ofList chars).utf8ByteSize) covered
    simp only [String.ofList_append, String.utf8ByteSize_append, String.ofList_toList] at sizes
    obtain rfl := noMore more (by omega)
    exact ⟨covered.trans (List.append_nil _), rfl⟩

/-- A boundary cuts the tokens of a text into those of the part before it and those of the part
after it. -/
theorem IsBoundary.cut {before after : String}
    (boundary : IsBoundary (before ++ after) before.utf8ByteSize) :
    ∃ lexemes, Lexeme.chars lexemes = before.toList ∧
      Lexeme.all (Lexeme.chars lexemes ++ after.toList) = lexemes ++ Lexeme.all after.toList := by
  have covered := Lexeme.chars_all (before ++ after).toList
  obtain ⟨lexemes, rest, whole, size⟩ : ∃ lexemes rest,
      Lexeme.all (before ++ after).toList = lexemes ++ rest ∧
        (String.ofList (Lexeme.chars lexemes)).utf8ByteSize = before.utf8ByteSize := by
    obtain ⟨token, inside, atOffset⟩ | atEnd := boundary
    · obtain ⟨lexemes, rest, whole, place⟩ := exists_of_mem_place inside
      exact ⟨lexemes, rest, whole, by omega⟩
    · refine ⟨_, [], (List.append_nil _).symm, ?_⟩
      rw [covered, String.ofList_toList, atEnd]
  rw [whole, Lexeme.chars_append] at covered
  obtain ⟨same, behind⟩ := eq_of_utf8ByteSize covered.symm size
  refine ⟨lexemes, same.symm, ?_⟩
  rw [behind, ← Lexeme.chars_append, ← whole, Lexeme.chars_all, whole,
    Lexeme.all_chars_suffix whole]

end Token

end Varlink
