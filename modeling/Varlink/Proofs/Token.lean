import Mathlib.Data.List.TakeWhile
import Varlink.Token

/-!
# What tokens are spelled with

Each kind of token has its own class of texts, and every token of a text belongs to the class of its
kind. Delimiters have one spelling. A word has many, but never one that holds a delimiter, so a word
followed by a delimiter is read as that word again.

Only the significant tokens matter to a reader. They are computed here piece by piece from the front
of a text: a delimiter always counts, a blank or line end never does, and a word does as soon as it
is known what ends it.
-/

namespace Varlink

namespace Lexeme

/-- The texts that are words: no delimiter is in them, and no arrow either. -/
structure IsWord (text : List Char) : Prop where
  nonempty : text ≠ []
  chars : ∀ c ∈ text, TokenKind.ofChar c = .word
  noArrow : ¬ ['-', '>'] <:+: text

/-- The text of a lexeme belongs to the class of its kind. -/
def Spelled (lexeme : Lexeme) : Prop :=
  match lexeme.kind with
  | .whitespace => ∃ c, isBlank c = true ∧ lexeme.text.toList = [c]
  | .endOfLine =>
    lexeme.text.toList = ['\r', '\n'] ∨ ∃ c, isLineEnd c = true ∧ lexeme.text.toList = [c]
  | .comment => ∃ body, (∀ c ∈ body, isLineEnd c = false) ∧ lexeme.text.toList = '#' :: body
  | .groupStart => lexeme.text = "("
  | .groupEnd => lexeme.text = ")"
  | .separator => lexeme.text = ","
  | .colon => lexeme.text = ":"
  | .arrow => lexeme.text = "->"
  | .word => IsWord lexeme.text.toList
  | .endOfInput => lexeme.text = ""

/-- A word. -/
def word (text : String) : Lexeme := ⟨.word, text⟩

@[simp] theorem word_text (text : String) : (word text).text = text := rfl

/-- The opening parenthesis of a group. -/
def groupStart : Lexeme := ⟨.groupStart, "("⟩

/-- The closing parenthesis of a group. -/
def groupEnd : Lexeme := ⟨.groupEnd, ")"⟩

/-- The comma between members. -/
def separator : Lexeme := ⟨.separator, ","⟩

/-- The colon between the name of a field and its type. -/
def colon : Lexeme := ⟨.colon, ":"⟩

/-- The arrow between parameters and results. -/
def arrow : Lexeme := ⟨.arrow, "->"⟩

/-- The significant lexemes of a text. -/
def significant (cs : List Char) : List Lexeme :=
  (all cs).filter fun lexeme => !lexeme.kind.isTrivia

end Lexeme

namespace TokenKind

/-- The class of a character follows from its kind where one character makes the token. -/
theorem ofChar_spelled {c : Char} {kind : TokenKind} (h : ofChar c = kind)
    (notComment : kind ≠ .comment) (notWord : kind ≠ .word) :
    Lexeme.Spelled ⟨kind, String.ofList [c]⟩ := by
  subst h
  unfold ofChar at notComment notWord ⊢
  split_ifs with blank lineEnd number opening closing comma colon
  · exact ⟨c, blank, by simp⟩
  · exact .inr ⟨c, lineEnd, by simp⟩
  · rw [if_neg blank, if_neg lineEnd, if_pos number] at notComment
    exact absurd rfl notComment
  · subst opening
    rfl
  · subst closing
    rfl
  · subst comma
    rfl
  · subst colon
    rfl
  · simp [blank, lineEnd, number, opening, closing, comma, colon] at notWord

end TokenKind

namespace Lexeme

theorem arrow_infix_cons {c : Char} {word : List Char} :
    ['-', '>'] <:+: c :: word ↔ (c = '-' ∧ ['>'] <+: word) ∨ ['-', '>'] <:+: word := by
  rw [List.infix_cons_iff, List.cons_prefix_cons]
  exact or_congr_left (and_congr_left' eq_comm)

/-- What `splitWord` takes is made of word characters and holds no arrow. -/
theorem splitWord_chars (cs : List Char) :
    (∀ c ∈ (splitWord cs).1, TokenKind.ofChar c = .word) ∧
      ¬ ['-', '>'] <:+: (splitWord cs).1 := by
  fun_induction splitWord cs with
  | case1 => simp
  | case2 => simp
  | case3 c rest notArrow isWord word after h ih =>
      rw [h] at ih
      refine ⟨List.forall_mem_cons.mpr ⟨isWord, ih.1⟩, ?_⟩
      rw [arrow_infix_cons]
      rintro (⟨rfl, tail, rfl⟩ | within)
      · have covered := splitWord_append rest
        rw [h] at covered
        exact notArrow _ rfl covered.symm
      · exact ih.2 within
  | case4 => simp

/-- The word that starts with a character of a text is a word, unless an arrow starts there. -/
theorem isWord_cons_splitWord {c : Char} {rest : List Char} (isWord : TokenKind.ofChar c = .word)
    (notArrow : ∀ after, c = '-' → rest ≠ '>' :: after) :
    IsWord (c :: (splitWord rest).1) := by
  obtain ⟨chars, noArrow⟩ := splitWord_chars rest
  refine ⟨List.cons_ne_nil _ _, List.forall_mem_cons.mpr ⟨isWord, chars⟩, ?_⟩
  rw [arrow_infix_cons]
  rintro (⟨rfl, tail, h⟩ | within)
  · have covered := splitWord_append rest
    rw [← h] at covered
    exact notArrow _ rfl covered.symm
  · exact noArrow within

theorem split_spelled {cs : List Char} (h : cs ≠ []) :
    Spelled ⟨(split cs).1, String.ofList (split cs).2.1⟩ := by
  unfold split
  split
  · contradiction
  · exact .inl (by simp)
  · rfl
  · rename_i c rest _ notArrow
    split
    · rename_i isComment
      have number : c = '#' := by
        unfold TokenKind.ofChar at isComment
        split_ifs at isComment
        assumption
      refine ⟨(splitLine rest).1, fun d inside => ?_, by simp [splitLine, number]⟩
      simpa using List.mem_takeWhile_imp inside
    · rename_i isWord
      show IsWord (String.ofList _).toList
      rw [String.toList_ofList]
      exact isWord_cons_splitWord isWord fun after dash arrow => notArrow after dash arrow
    · rename_i kind notComment notWord
      exact TokenKind.ofChar_spelled rfl notComment notWord

@[simp] theorem all_nil : all [] = [] := by
  rw [all, dif_pos rfl]

theorem all_of_ne_nil {cs : List Char} (h : cs ≠ []) :
    all cs = ⟨(split cs).1, String.ofList (split cs).2.1⟩ :: all (split cs).2.2 := by
  rw [all, dif_neg h]

/-- Every lexeme of a text belongs to the class of its kind. -/
theorem spelled_of_mem_all {cs : List Char} : ∀ lexeme ∈ all cs, lexeme.Spelled := by
  fun_induction all cs with
  | case1 => simp
  | case2 cs nonempty kind text rest first shorter ih =>
      have spelled := split_spelled nonempty
      rw [first] at spelled
      exact List.forall_mem_cons.mpr ⟨spelled, ih⟩

theorem spelled_of_mem_significant {cs : List Char} {lexeme : Lexeme}
    (h : lexeme ∈ significant cs) : lexeme.Spelled :=
  spelled_of_mem_all lexeme (List.mem_filter.mp h).1

/-- A word followed by a delimiter does not grow into an arrow. -/
theorem noArrow_append_delimiter {d c : Char} {text : List Char} (rest : List Char)
    (noArrow : ¬ ['-', '>'] <:+: d :: text) (delimiter : TokenKind.ofChar c ≠ .word) :
    ∀ after, d = '-' → text ++ c :: rest ≠ '>' :: after := by
  rintro after rfl h
  cases text with
  | nil =>
      obtain ⟨rfl, -⟩ := List.cons.inj h
      exact delimiter rfl
  | cons e text =>
      obtain ⟨rfl, -⟩ := List.cons.inj h
      exact noArrow ⟨[], text, rfl⟩

/-- What a word is followed by does not change it, when a delimiter comes first. -/
theorem splitWord_append_delimiter {text : List Char} {c : Char} (rest : List Char)
    (chars : ∀ d ∈ text, TokenKind.ofChar d = .word) (noArrow : ¬ ['-', '>'] <:+: text)
    (delimiter : TokenKind.ofChar c ≠ .word) :
    splitWord (text ++ c :: rest) = (text, c :: rest) := by
  induction text with
  | nil =>
      have notDash : c ≠ '-' := by
        rintro rfl
        exact delimiter rfl
      simp [splitWord, delimiter, notDash]
  | cons d text ih =>
      obtain ⟨isWord, chars⟩ := List.forall_mem_cons.mp chars
      have tail := ih chars fun within => noArrow (arrow_infix_cons.mpr (.inr within))
      rw [List.cons_append, splitWord.eq_3 _ _ (noArrow_append_delimiter rest noArrow delimiter),
        if_pos isWord, tail]

@[simp] theorem significant_nil : significant [] = [] := by
  simp [significant]

/-- The first token of a text counts unless it is trivia. -/
theorem significant_of_split {cs text rest : List Char} {kind : TokenKind} (nonempty : cs ≠ [])
    (h : split cs = (kind, text, rest)) :
    significant cs =
      if kind.isTrivia then significant rest
      else ⟨kind, String.ofList text⟩ :: significant rest := by
  unfold significant
  rw [all_of_ne_nil nonempty, h, List.filter_cons]
  cases kind.isTrivia <;> rfl

/-- A word that is followed by a delimiter is read as it was written. -/
theorem significant_word {text : List Char} {c : Char} (rest : List Char) (isWord : IsWord text)
    (delimiter : TokenKind.ofChar c ≠ .word) :
    significant (text ++ c :: rest) = word (String.ofList text) :: significant (c :: rest) := by
  obtain ⟨nonempty, chars, noArrow⟩ := isWord
  obtain ⟨d, text, rfl⟩ := List.exists_cons_of_ne_nil nonempty
  obtain ⟨isWord, tail⟩ := List.forall_mem_cons.mp chars
  have taken := splitWord_append_delimiter rest tail
    (fun within => noArrow (arrow_infix_cons.mpr (.inr within))) delimiter
  have notLineEnd : ∀ after, d = '\r' → text ++ c :: rest ≠ '\n' :: after := by
    rintro after rfl
    cases isWord
  have first : split (d :: (text ++ c :: rest)) = (.word, d :: text, c :: rest) := by
    rw [split.eq_4 _ _ notLineEnd (noArrow_append_delimiter rest noArrow delimiter), isWord, taken]
  rw [List.cons_append, significant_of_split (List.cons_ne_nil _ _) first]
  rfl

@[simp] theorem significant_space (rest : List Char) :
    significant (' ' :: rest) = significant rest :=
  significant_of_split (List.cons_ne_nil _ _) rfl

@[simp] theorem significant_lineFeed (rest : List Char) :
    significant ('\n' :: rest) = significant rest :=
  significant_of_split (List.cons_ne_nil _ _) rfl

@[simp] theorem significant_groupStart (rest : List Char) :
    significant ('(' :: rest) = groupStart :: significant rest :=
  significant_of_split (List.cons_ne_nil _ _) rfl

@[simp] theorem significant_groupEnd (rest : List Char) :
    significant (')' :: rest) = groupEnd :: significant rest :=
  significant_of_split (List.cons_ne_nil _ _) rfl

@[simp] theorem significant_separator (rest : List Char) :
    significant (',' :: rest) = separator :: significant rest :=
  significant_of_split (List.cons_ne_nil _ _) rfl

@[simp] theorem significant_colon (rest : List Char) :
    significant (':' :: rest) = colon :: significant rest :=
  significant_of_split (List.cons_ne_nil _ _) rfl

@[simp] theorem significant_arrow (rest : List Char) :
    significant ('-' :: '>' :: rest) = arrow :: significant rest :=
  significant_of_split (List.cons_ne_nil _ _) rfl

end Lexeme

namespace Token

theorem toLexeme_place (offset : Nat) (lexemes : List Lexeme) :
    (place offset lexemes).map (·.toLexeme) = lexemes := by
  induction lexemes generalizing offset with
  | nil => rfl
  | cons lexeme lexemes ih => simp [place, ih]

/-- Without their places, the significant tokens of a source are its significant lexemes. -/
theorem toLexeme_significant (source : String) :
    (significant source).map (·.toLexeme) = Lexeme.significant source.toList := by
  have filtered := List.filter_map (f := fun token : Token => token.toLexeme)
    (p := fun lexeme => !lexeme.kind.isTrivia) (l := place 0 (Lexeme.all source.toList))
  rw [toLexeme_place] at filtered
  exact filtered.symm

end Token

end Varlink
