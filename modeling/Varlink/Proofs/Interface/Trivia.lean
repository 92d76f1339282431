import Varlink.Interface.Source
import Varlink.Proofs.Token.Padding

/-!
# Blanks, line ends and comments have no meaning

The reader sees the significant tokens of a text and nothing else. Where they are comes in only
when a fault is given its location, and a fault names a token by its number. So two texts with the
same significant tokens mean the same: the same document, the same interface, or the same error at
the same token, which may be in another place of the other text.
-/

namespace Varlink

namespace Token

/-- The location of a significant token, given by its number; the number after all tokens stands for
the end of the text. -/
def location (source : String) (index : Nat) : Location :=
  match (significant source)[index]? with
  | some token => .ofOffset source token.offset
  | none => .ofOffset source source.utf8ByteSize

end Token

/-- The same fault at the same significant token of two texts. -/
def SyntaxError.Alike (first second : String) (left right : SyntaxError) : Prop :=
  left.fault = right.fault ∧ ∃ index ≤ (Token.significant first).length,
    left.location = Token.location first index ∧ right.location = Token.location second index

/-- The same error, up to the place of the token it is about. -/
def DefinitionError.Alike (first second : String) : DefinitionError → DefinitionError → Prop
  | .syntaxError left, .syntaxError right => left.Alike first second right
  | .resolveError left, .resolveError right => left = right
  | _, _ => False

/-- Two outcomes with the same value or with errors that are alike. -/
inductive SameOutcome {ε α : Type} (alike : ε → ε → Prop) : Except ε α → Except ε α → Prop where
  | ok (value : α) : SameOutcome alike (.ok value) (.ok value)
  | error {left right : ε} (h : alike left right) : SameOutcome alike (.error left) (.error right)

/-- Two texts that are read as the same document and interface, or rejected for the same reason. -/
structure SameMeaning (first second : String) : Prop where
  document : SameOutcome (SyntaxError.Alike first second) (Document.parse first).outcome
    (Document.parse second).outcome
  interface : SameOutcome (DefinitionError.Alike first second) (Interface.parse first).outcome
    (Interface.parse second).outcome

namespace SameOutcome

variable {ε δ α β : Type} {alike : ε → ε → Prop} {alike' : δ → δ → Prop}

/-- Errors that are alike stay so when they become part of larger ones. -/
theorem mapError {x y : Except ε α} {f : ε → δ}
    (same : SameOutcome alike x y) (each : ∀ left right, alike left right →
      alike' (f left) (f right)) : SameOutcome alike' (x.mapError f) (y.mapError f) := by
  cases same with
  | ok value => exact .ok value
  | error h => exact .error (each _ _ h)

/-- What comes after the same value is the same. -/
theorem bind {x y : Except ε α} {f : α → Except ε β} (same : SameOutcome alike x y)
    (each : ∀ value, SameOutcome alike (f value) (f value)) :
    SameOutcome alike (x >>= f) (y >>= f) := by
  cases same with
  | ok value => exact each value
  | error h => exact .error h

theorem refl (each : ∀ error, alike error error) (x : Except ε α) : SameOutcome alike x x := by
  cases x with
  | error error => exact .error (each error)
  | ok value => exact .ok value

end SameOutcome

namespace Document

theorem ofOffset_offsetOf (source : String) (left : Nat) :
    Location.ofOffset source (offsetOf source (Token.significant source) left) =
      Token.location source ((Token.significant source).length - left) := by
  unfold offsetOf Token.location
  rw [← List.head?_drop]
  cases (Token.significant source).drop ((Token.significant source).length - left) <;> rfl

theorem outcome_parse (source : String) :
    (parse source).outcome =
      (Reader.readDocument ((Token.significant source).map (·.toLexeme))).outcome.mapError
        (errorOf source (Token.significant source)) := rfl

/-- The places of the significant tokens have no influence on the document. -/
theorem sameOutcome_parse {first second : String}
    (same : (Token.significant first).map (·.toLexeme) =
      (Token.significant second).map (·.toLexeme)) :
    SameOutcome (SyntaxError.Alike first second) (parse first).outcome (parse second).outcome := by
  rw [outcome_parse, outcome_parse, same]
  cases (Reader.readDocument ((Token.significant second).map (·.toLexeme))).outcome with
  | ok document => exact .ok document
  | error fault =>
      have sameLength : (Token.significant first).length = (Token.significant second).length := by
        simpa using congrArg List.length same
      refine .error ⟨rfl, (Token.significant first).length - fault.left, Nat.sub_le _ _, ?_, ?_⟩
      · exact ofOffset_offsetOf first fault.left
      · rw [sameLength]
        exact ofOffset_offsetOf second fault.left

end Document

theorem Interface.outcome_parse (source : String) :
    (Interface.parse source).outcome = ((Document.parse source).outcome.mapError .syntaxError >>=
      fun document => document.resolve.outcome.mapError .resolveError) := by
  unfold parse
  simp only [Logged.outcome_bind, Logged.outcome_bimap, Logged.outcome_note]
  rfl

theorem sameMeaning_of_significant {first second : String}
    (same : (Token.significant first).map (·.toLexeme) =
      (Token.significant second).map (·.toLexeme)) : SameMeaning first second := by
  have document := Document.sameOutcome_parse same
  refine ⟨document, ?_⟩
  rw [Interface.outcome_parse, Interface.outcome_parse]
  apply SameOutcome.bind
  · exact document.mapError fun _ _ h => h
  · intro document
    refine SameOutcome.mapError (.refl (fun _ => rfl) _) ?_
    rintro _ _ rfl
    rfl

/-- What a text means depends on its significant tokens only: neither their places nor what stands
between them counts. So padding can be put anywhere between two tokens, in front of the first one
and behind the last one. -/
theorem Interface.parse_ignores_trivia :
    (∀ first second : String, (Token.significant first).map (·.toLexeme) =
      (Token.significant second).map (·.toLexeme) → SameMeaning first second) ∧
    ∀ before padding after : String,
      Token.IsBoundary (before ++ after) before.utf8ByteSize →
      Lexeme.IsPadding padding.toList →
      SameMeaning (before ++ after) (before ++ padding ++ after) := by
  refine ⟨fun _ _ => sameMeaning_of_significant, ?_⟩
  intro before padding after boundary isPadding
  apply sameMeaning_of_significant
  obtain ⟨lexemes, covered, cut⟩ := boundary.cut
  have inserted := Lexeme.significant_insert cut isPadding
  rw [Token.toLexeme_significant, Token.toLexeme_significant]
  simp only [String.toList_append, List.append_assoc]
  rw [← covered, inserted]

/-- A comment between two words, and padding whose first line feed ends the line of the carriage
return before it. The second text is rejected at its parenthesis, on its second line or its third. -/
theorem Interface.parse_ignores_trivia_across_line_ends :
    ((Token.significant "interface a").map (·.toLexeme) =
        (Token.significant "interface\u2028# b\n a").map (·.toLexeme) ∧
      SameMeaning "interface a" "interface\u2028# b\n a") ∧
    Token.IsBoundary ("interface\r" ++ "a(") "interface\r".utf8ByteSize ∧
    Lexeme.IsPadding "\n# b\n".toList ∧
    SameMeaning ("interface\r" ++ "a(") ("interface\r" ++ "\n# b\n" ++ "a(") := by
  have same : (Token.significant "interface a").map (·.toLexeme) =
      (Token.significant "interface\u2028# b\n a").map (·.toLexeme) := by
    decide +kernel
  have boundary : Token.IsBoundary ("interface\r" ++ "a(") "interface\r".utf8ByteSize :=
    .inl ⟨⟨⟨.word, "a"⟩, 10⟩, by decide +kernel, by decide +kernel⟩
  have isPadding : Lexeme.IsPadding "\n# b\n".toList := by
    constructor <;> decide +kernel
  exact ⟨⟨same, Interface.parse_ignores_trivia.1 _ _ same⟩, boundary, isPadding,
    Interface.parse_ignores_trivia.2 _ _ _ boundary isPadding⟩

end Varlink
