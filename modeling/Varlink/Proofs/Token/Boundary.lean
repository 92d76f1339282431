import Varlink.Proofs.Token

/-!
# Where tokens end

A token is as long as it can be, so where it ends depends on what follows: a word ends at the first
token that is no word, a comment at the end of its line, and a lone carriage return before anything
but a line feed. A text that belongs to the class of its kind and ends in this sense is one token,
and every token that is read is such a text. What comes later than the next token has no influence.

So a text can be exchanged behind any token as long as the kind and the first character of what
follows stay the same.
-/

namespace Varlink

namespace Lexeme

/-- The characters that lexemes cover. -/
def chars (lexemes : List Lexeme) : List Char :=
  lexemes.flatMap fun lexeme => lexeme.text.toList

@[simp] theorem chars_nil : chars [] = [] := rfl

@[simp] theorem chars_cons (lexeme : Lexeme) (lexemes : List Lexeme) :
    chars (lexeme :: lexemes) = lexeme.text.toList ++ chars lexemes := rfl

@[simp] theorem chars_append (first second : List Lexeme) :
    chars (first ++ second) = chars first ++ chars second :=
  List.flatMap_append

/-- A token with this kind and text ends before the rest of its text. -/
def Ends (kind : TokenKind) (text rest : List Char) : Prop :=
  match kind with
  | .word => (split rest).1 ≠ .word
  | .comment => ∀ c ∈ rest.head?, isLineEnd c
  | .endOfLine => text = ['\r'] → rest.head? ≠ some '\n'
  | _ => True

/-- Where a token ends depends on the next token's kind and first character only. -/
theorem Ends.congr {kind : TokenKind} {text rest rest' : List Char}
    (sameKind : (split rest).1 = (split rest').1) (sameHead : rest.head? = rest'.head?)
    (ends : Ends kind text rest) : Ends kind text rest' := by
  unfold Ends at ends ⊢
  rwa [← sameKind, ← sameHead]

/-! ### Reading a token back -/

theorem split_of_word {c : Char} {rest : List Char} (isWord : TokenKind.ofChar c = .word)
    (notArrow : ∀ after, c = '-' → rest ≠ '>' :: after) :
    split (c :: rest) = (.word, c :: (splitWord rest).1, (splitWord rest).2) := by
  have notLineEnd : ∀ after, c = '\r' → rest ≠ '\n' :: after := by
    rintro after rfl
    cases isWord
  rw [split.eq_4 _ _ notLineEnd notArrow, isWord]

theorem splitWord_of_word {c : Char} {rest : List Char} (isWord : TokenKind.ofChar c = .word)
    (notArrow : ∀ after, c = '-' → rest ≠ '>' :: after) :
    splitWord (c :: rest) = (c :: (splitWord rest).1, (splitWord rest).2) := by
  rw [splitWord.eq_3 _ _ notArrow, if_pos isWord]

/-- No word goes on before a token that is no word. -/
theorem splitWord_of_kind {rest : List Char} (h : (split rest).1 ≠ .word) :
    splitWord rest = ([], rest) := by
  fun_cases splitWord rest with
  | case1 => rfl
  | case2 => rfl
  | case3 c rest notArrow isWord => exact absurd (by rw [split_of_word isWord notArrow]) h
  | case4 => rfl

/-- A word does not grow into an arrow with what ends it. -/
theorem noArrow_append_of_ends {d : Char} {text rest : List Char}
    (noArrow : ¬ ['-', '>'] <:+: d :: text) (ends : (split rest).1 ≠ .word) :
    ∀ after, d = '-' → text ++ rest ≠ '>' :: after := by
  rintro after rfl h
  cases text with
  | nil =>
      obtain rfl : rest = '>' :: after := h
      exact ends (by rw [split_of_word rfl (by rintro _ ⟨⟩)])
  | cons e text =>
      obtain ⟨rfl, -⟩ := List.cons.inj h
      exact noArrow ⟨[], text, rfl⟩

theorem splitWord_append_of_ends {text rest : List Char}
    (chars : ∀ c ∈ text, TokenKind.ofChar c = .word) (noArrow : ¬ ['-', '>'] <:+: text)
    (ends : (split rest).1 ≠ .word) : splitWord (text ++ rest) = (text, rest) := by
  induction text with
  | nil => exact splitWord_of_kind ends
  | cons d text ih =>
      obtain ⟨isWord, chars⟩ := List.forall_mem_cons.mp chars
      have tail := ih chars fun within => noArrow (arrow_infix_cons.mpr (.inr within))
      rw [List.cons_append, splitWord_of_word isWord (noArrow_append_of_ends noArrow ends), tail]

/-- A comment goes on to the first line end, wherever its text is cut. -/
theorem splitLine_append_of_inLine {body : List Char} (inLine : ∀ c ∈ body, isLineEnd c = false)
    (rest : List Char) :
    splitLine (body ++ rest) = (body ++ (splitLine rest).1, (splitLine rest).2) := by
  have inLine : ∀ c ∈ body, (!isLineEnd c) = true := by
    intro c inside
    rw [inLine c inside]
    rfl
  rw [splitLine, List.takeWhile_append_of_pos inLine, List.dropWhile_append_of_pos inLine]
  rfl

theorem splitLine_of_head {rest : List Char} (ends : ∀ c ∈ rest.head?, isLineEnd c) :
    splitLine rest = ([], rest) := by
  cases rest with
  | nil => rfl
  | cons c rest =>
      have isEnd : isLineEnd c := ends c rfl
      simp [splitLine, isEnd]

theorem splitLine_append_of_head {rest : List Char} (ends : ∀ c ∈ rest.head?, isLineEnd c)
    (body : List Char) : (splitLine (body ++ rest)).2 = (splitLine body).2 ++ rest := by
  have stays : rest.dropWhile (fun c => !isLineEnd c) = rest :=
    congrArg Prod.snd (splitLine_of_head ends)
  show (body ++ rest).dropWhile _ = body.dropWhile _ ++ rest
  rw [List.dropWhile_append, stays]
  split_ifs with empty
  · rw [List.isEmpty_iff.mp empty, List.nil_append]
  · rfl

theorem split_blank {c : Char} (blank : isBlank c = true) (rest : List Char) :
    split (c :: rest) = (.whitespace, [c], rest) := by
  have notLineEnd : ∀ after, c = '\r' → rest ≠ '\n' :: after := by
    rintro after rfl
    cases blank
  have notArrow : ∀ after, c = '-' → rest ≠ '>' :: after := by
    rintro after rfl
    cases blank
  have kind : TokenKind.ofChar c = .whitespace := if_pos blank
  rw [split.eq_4 _ _ notLineEnd notArrow, kind]

theorem isBlank_eq_false_of_isLineEnd {c : Char} (lineEnd : isLineEnd c = true) :
    isBlank c = false := by
  unfold isLineEnd at lineEnd
  simp only [List.contains_eq_mem, List.mem_cons, List.not_mem_nil, or_false,
    decide_eq_true_eq] at lineEnd
  obtain rfl | rfl | rfl | rfl := lineEnd <;> rfl

theorem split_lineEnd {c : Char} (lineEnd : isLineEnd c = true) {rest : List Char}
    (ends : c = '\r' → rest.head? ≠ some '\n') :
    split (c :: rest) = (.endOfLine, [c], rest) := by
  have notLineEnd : ∀ after, c = '\r' → rest ≠ '\n' :: after := by
    rintro after isReturn rfl
    exact ends isReturn rfl
  have notArrow : ∀ after, c = '-' → rest ≠ '>' :: after := by
    rintro after rfl
    cases lineEnd
  have kind : TokenKind.ofChar c = .endOfLine := by
    rw [TokenKind.ofChar, isBlank_eq_false_of_isLineEnd lineEnd, lineEnd]
    rfl
  rw [split.eq_4 _ _ notLineEnd notArrow, kind]

theorem split_comment {body : List Char} (inLine : ∀ c ∈ body, isLineEnd c = false)
    (rest : List Char) :
    split ('#' :: (body ++ rest)) =
      (.comment, '#' :: (body ++ (splitLine rest).1), (splitLine rest).2) := by
  show (TokenKind.comment, '#' :: (splitLine (body ++ rest)).1, (splitLine (body ++ rest)).2) = _
  rw [splitLine_append_of_inLine inLine]

/-- A text of the class of a kind that ends before the rest is read as one token. -/
theorem split_of_ends {lexeme : Lexeme} {rest : List Char} (spelled : lexeme.Spelled)
    (notEnd : lexeme.kind ≠ .endOfInput) (ends : Ends lexeme.kind lexeme.text.toList rest) :
    split (lexeme.text.toList ++ rest) = (lexeme.kind, lexeme.text.toList, rest) := by
  obtain ⟨kind, text⟩ := lexeme
  cases kind with
  | whitespace =>
      obtain ⟨c, blank, covered⟩ := spelled
      dsimp only at covered
      rw [covered]
      exact split_blank blank rest
  | endOfLine =>
      obtain covered | ⟨c, lineEnd, covered⟩ := spelled
      · dsimp only at covered
        rw [covered]
        rfl
      · dsimp only at covered ends
        rw [covered] at ends ⊢
        apply split_lineEnd lineEnd
        rintro rfl
        exact ends rfl
  | comment =>
      obtain ⟨body, inLine, covered⟩ := spelled
      dsimp only at covered
      rw [covered, List.cons_append, split_comment inLine, splitLine_of_head ends,
        List.append_nil]
  | word =>
      obtain ⟨nonempty, isWord, noArrow⟩ := spelled
      obtain ⟨c, word, covered⟩ := List.exists_cons_of_ne_nil nonempty
      dsimp only at covered isWord noArrow
      rw [covered] at isWord noArrow ⊢
      obtain ⟨first, isWord⟩ := List.forall_mem_cons.mp isWord
      have notWithin : ¬ ['-', '>'] <:+: word := fun within =>
        noArrow (arrow_infix_cons.mpr (.inr within))
      rw [List.cons_append, split_of_word first (noArrow_append_of_ends noArrow ends),
        splitWord_append_of_ends isWord notWithin ends]
  | endOfInput => contradiction
  | _ =>
      obtain rfl : text = _ := spelled
      rfl

/-- What follows a token that is no word can change its end, but not its kind. -/
theorem split_kind {lexeme : Lexeme} (spelled : lexeme.Spelled) (notEnd : lexeme.kind ≠ .endOfInput)
    (notWord : lexeme.kind ≠ .word) (rest : List Char) :
    (split (lexeme.text.toList ++ rest)).1 = lexeme.kind := by
  obtain ⟨kind, text⟩ := lexeme
  cases kind with
  | endOfLine =>
      by_cases ends : Ends .endOfLine text.toList rest
      · rw [split_of_ends spelled notEnd ends]
      · obtain ⟨isReturn, follows⟩ : text.toList = ['\r'] ∧ rest.head? = some '\n' := by
          simpa [Ends] using ends
        obtain ⟨after, rfl⟩ := List.head?_eq_some_iff.mp follows
        show (split (text.toList ++ '\n' :: after)).1 = _
        rw [isReturn]
        rfl
  | comment =>
      obtain ⟨body, inLine, covered⟩ := spelled
      dsimp only at covered
      rw [covered, List.cons_append, split_comment inLine]
  | word => contradiction
  | _ => rw [split_of_ends spelled notEnd trivial]

/-! ### What is read ends where it was read -/

theorem split_kind_ne_endOfInput {cs : List Char} (h : cs ≠ []) : (split cs).1 ≠ .endOfInput := by
  intro atEnd
  have empty : String.ofList (split cs).2.1 = "" := by
    have spelled := split_spelled h
    rw [Spelled, atEnd] at spelled
    exact spelled
  exact split_text_ne_nil h (by simpa using congrArg String.toList empty)

theorem ends_splitWord (cs : List Char) : (split (splitWord cs).2).1 ≠ .word := by
  fun_induction splitWord cs with
  | case1 => decide
  | case2 => rintro ⟨⟩
  | case3 c rest notArrow isWord word after taken ih => simpa [taken] using ih
  | case4 c rest notArrow notWord =>
      unfold split
      split
      · contradiction
      · rintro ⟨⟩
      · rintro ⟨⟩
      · split <;> simp_all

theorem ends_splitLine (cs : List Char) : ∀ c ∈ (splitLine cs).2.head?, isLineEnd c := by
  intro c first
  have stopped := List.head?_dropWhile_not (fun c => !isLineEnd c) cs
  rw [show (cs.dropWhile fun c => !isLineEnd c).head? = some c from first] at stopped
  simpa using stopped

theorem ends_of_split {cs : List Char} (h : cs ≠ []) :
    Ends (split cs).1 (split cs).2.1 (split cs).2.2 := by
  unfold split
  split
  · contradiction
  · rintro ⟨⟩
  · trivial
  · rename_i c rest notLineEnd notArrow
    split
    · exact ends_splitLine rest
    · exact ends_splitWord rest
    · rename_i kind notComment notWord
      unfold Ends
      split
      · exact absurd ‹_› notWord
      · exact absurd ‹_› notComment
      · intro isReturn follows
        obtain ⟨after, rfl⟩ := List.head?_eq_some_iff.mp follows
        exact notLineEnd after (List.cons.inj isReturn).1 rfl
      · trivial

/-! ### Exchanging what follows -/

theorem Spelled.text_ne_nil {lexeme : Lexeme} (spelled : lexeme.Spelled)
    (notEnd : lexeme.kind ≠ .endOfInput) : lexeme.text.toList ≠ [] := by
  intro empty
  obtain ⟨kind, text⟩ := lexeme
  obtain rfl : text = "" := String.toList_eq_nil_iff.mp empty
  cases kind with
  | word => exact spelled.nonempty rfl
  | endOfInput => contradiction
  | _ => simp [Spelled] at spelled

/-- The lexemes of a text are what `split` takes off, one after the other. -/
theorem all_eq_cons {cs : List Char} {lexeme : Lexeme} {lexemes : List Lexeme}
    (h : all cs = lexeme :: lexemes) :
    lexeme.Spelled ∧ lexeme.kind ≠ .endOfInput ∧
      ∃ rest, cs = lexeme.text.toList ++ rest ∧ all rest = lexemes ∧
        Ends lexeme.kind lexeme.text.toList rest := by
  have nonempty : cs ≠ [] := by
    rintro rfl
    simp at h
  rw [all_of_ne_nil nonempty] at h
  obtain ⟨rfl, rfl⟩ := List.cons.inj h
  refine ⟨split_spelled nonempty, split_kind_ne_endOfInput nonempty, _, ?_, rfl, ?_⟩
  · simpa using (split_append cs).symm
  · simpa using ends_of_split nonempty

@[simp] theorem chars_all (cs : List Char) : chars (all cs) = cs := by
  fun_induction all cs with
  | case1 => rfl
  | case2 cs nonempty kind text rest first shorter ih =>
      have covered := split_append cs
      rw [first] at covered
      simpa [ih] using covered

/-- The lexemes from one of them on are those of the text from there on. -/
theorem all_chars_suffix {cs : List Char} {before after : List Lexeme}
    (h : all cs = before ++ after) : all (chars after) = after := by
  induction before generalizing cs with
  | nil =>
      obtain rfl : all cs = after := h
      rw [chars_all]
  | cons lexeme before ih =>
      obtain ⟨-, -, rest, -, behind, -⟩ := all_eq_cons h
      exact ih behind

/-- Two texts with the same first token start alike. -/
theorem same_start {cs cs' : List Char} {lexeme : Lexeme} {lexemes lexemes' : List Lexeme}
    (h : all cs = lexeme :: lexemes) (h' : all cs' = lexeme :: lexemes') :
    (split cs).1 = (split cs').1 ∧ cs.head? = cs'.head? := by
  obtain ⟨spelled, notEnd, rest, rfl, -, ends⟩ := all_eq_cons h
  obtain ⟨-, -, rest', rfl, -, ends'⟩ := all_eq_cons h'
  rw [split_of_ends spelled notEnd ends, split_of_ends spelled notEnd ends']
  obtain ⟨c, text, covered⟩ := List.exists_cons_of_ne_nil (spelled.text_ne_nil notEnd)
  rw [covered]
  exact ⟨rfl, rfl⟩

theorem all_append_of_ends {lexeme : Lexeme} {rest : List Char} (spelled : lexeme.Spelled)
    (notEnd : lexeme.kind ≠ .endOfInput) (ends : Ends lexeme.kind lexeme.text.toList rest) :
    all (lexeme.text.toList ++ rest) = lexeme :: all rest := by
  have nonempty := List.append_ne_nil_of_left_ne_nil (spelled.text_ne_nil notEnd) rest
  rw [all_of_ne_nil nonempty, split_of_ends spelled notEnd ends, String.ofList_toList]

/-- The lexemes in front of a place do not depend on what comes after it, beyond the kind of the
next token and its first character. -/
theorem all_append_congr {lexemes : List Lexeme} {rest rest' : List Char}
    (sameKind : (split rest).1 = (split rest').1) (sameHead : rest.head? = rest'.head?)
    (h : all (chars lexemes ++ rest) = lexemes ++ all rest) :
    all (chars lexemes ++ rest') = lexemes ++ all rest' := by
  induction lexemes with
  | nil => rfl
  | cons lexeme lexemes ih =>
      rw [chars_cons, List.append_assoc] at h ⊢
      obtain ⟨spelled, notEnd, behind, covered, others, ends⟩ := all_eq_cons h
      obtain rfl := List.append_cancel_left covered
      have tail := ih others
      have same : (split (chars lexemes ++ rest)).1 = (split (chars lexemes ++ rest')).1 ∧
          (chars lexemes ++ rest).head? = (chars lexemes ++ rest').head? := by
        cases lexemes with
        | nil => exact ⟨sameKind, sameHead⟩
        | cons next lexemes => exact same_start others tail
      rw [all_append_of_ends spelled notEnd (ends.congr same.1 same.2), tail, List.cons_append]

end Lexeme

end Varlink
