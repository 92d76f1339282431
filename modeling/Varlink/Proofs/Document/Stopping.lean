import Varlink.Proofs.Document.Printing
import Varlink.Proofs.Document.TypeReading

/-!
# Where reading stops

A reader that ends in a fault has come to a token that cannot be right. Two things are meant by
this. No input that begins with the tokens up to this one is accepted, whatever comes after them.
And the tokens before it can be continued to an input that is accepted, so the fault is told at the
first token where it can be.

What a reader accepts is a relation between an input and the rest that is left of it. The parts of a
reader that are no readers of their own have such a relation too, and what is known of a part is
carried over to the whole: the tokens before the part are put in front, and the tokens that close
the whole are put behind the continuation. So each reader comes down to the few places where it
looks at the next token itself.
-/

namespace Varlink

namespace Lexeme

/-- The end of the input, as a token. -/
def endOfInput : Lexeme := ⟨.endOfInput, ""⟩

/-- The tokens of an input, with its end as the last of them. -/
def ended (input : List Lexeme) : List Lexeme := input ++ [endOfInput]

/-- A token that can stand in a text and carries meaning there. -/
structure Written (lexeme : Lexeme) : Prop where
  spelled : lexeme.Spelled
  notTrivia : lexeme.kind.isTrivia = false
  notEnd : lexeme.kind ≠ .endOfInput

variable {input words tail : List Lexeme} {token : Lexeme}

theorem append_prefix_ended :
    words ++ tail <+: ended (words ++ input) ↔ tail <+: ended input := by
  rw [ended, List.append_assoc, List.prefix_append_right_inj, ended]

/-- What comes before a token is no more than the input. -/
theorem exists_of_append_prefix_ended (nonempty : tail ≠ [])
    (within : words ++ tail <+: ended input) :
    ∃ after, input = words ++ after ∧ tail <+: ended after := by
  have here : words <+: input := by
    rcases List.prefix_concat_iff.mp ((List.prefix_append words tail).trans within) with all | here
    · have lengths := within.length_le
      have some := List.length_pos_iff.mpr nonempty
      rw [all, ended, List.length_append] at lengths
      omega
    · exact here
  obtain ⟨after, rfl⟩ := here
  exact ⟨after, rfl, append_prefix_ended.mp within⟩

theorem exists_next (input : List Lexeme) :
    ∃ token, [token] <+: ended input ∧ token.kind = Reader.nextKind input := by
  cases input with
  | nil => exact ⟨endOfInput, List.prefix_rfl, rfl⟩
  | cons token input => exact ⟨token, ⟨ended input, rfl⟩, rfl⟩

theorem singleton_prefix_ended (within : [token] <+: ended input) :
    input = [] ∧ token = endOfInput ∨ ∃ after, input = token :: after := by
  obtain ⟨after, covered⟩ := within
  cases input with
  | nil => exact .inl ⟨rfl, (List.cons.inj covered).1⟩
  | cons first input =>
      obtain ⟨rfl, -⟩ := List.cons.inj covered
      exact .inr ⟨input, rfl⟩

theorem nextKind_eq_of_begins (within : [token] <+: ended input) :
    Reader.nextKind input = token.kind := by
  rcases singleton_prefix_ended within with ⟨rfl, rfl⟩ | ⟨after, rfl⟩ <;> rfl

/-- Inputs that begin with the same tokens begin with a token of the same kind. -/
theorem nextKind_eq_of_prefixes {begun other : List Lexeme} (nonempty : begun ≠ [])
    (first : begun <+: ended input) (second : begun <+: ended other) :
    Reader.nextKind other = Reader.nextKind input := by
  obtain ⟨token, more, rfl⟩ := List.exists_cons_of_ne_nil nonempty
  have head : [token] <+: token :: more := ⟨more, rfl⟩
  rw [nextKind_eq_of_begins (head.trans first), nextKind_eq_of_begins (head.trans second)]

end Lexeme

namespace SyntaxFault

/-- How many tokens after the one that it is located at a fault comes up. That a member does not fit
into its group shows at the delimiter after its name. -/
def lead : SyntaxFault → Nat
  | ambiguousGroup _ _ => 1
  | _ => 0

/-- Whether a fault is about the token that comes after others. -/
def Blames : SyntaxFault → (taken : List Lexeme) → (token : Lexeme) → Prop
  | unexpectedToken _ found, _, token => token.kind = found
  | unexpectedWord _ found, _, token => token = .word found
  | ambiguousGroup member .enum, taken, token =>
    taken.getLast? = some (.word member) ∧ token.kind = .colon
  | ambiguousGroup member .struct, taken, token =>
    taken.getLast? = some (.word member) ∧ (token.kind = .separator ∨ token.kind = .groupEnd)
  | nestingTooDeep, _, token => token.kind = .groupStart ∨
    ∃ (modifier : Modifier) (remainder : String), token = .word (modifier.spelling ++ remainder)
  | unexpectedKind _, _, _ => False

/-- The token that a fault is located at is there. -/
theorem lead_le_of_blames {fault : SyntaxFault} {taken : List Lexeme} {token : Lexeme}
    (blames : fault.Blames taken token) : fault.lead ≤ taken.length := by
  cases fault with
  | ambiguousGroup member committed =>
      have named : taken.getLast? = some (.word member) := by
        cases committed <;> exact blames.1
      exact List.length_pos_of_mem (List.mem_of_getLast? named)
  | _ => exact Nat.zero_le _

end SyntaxFault

namespace Reader

open Grammar Lexeme

variable {α : Type} {input rest : List Lexeme}

/-- A reader takes something off the front of its input and leaves the rest. -/
def Accepts (reader : (input : List Lexeme) → Reading α input) (input rest : List Lexeme) : Prop :=
  ∃ value, Reads (reader input) value rest

theorem Reads.unique {reading : Reading α input} {first second : α} {left right : List Lexeme}
    (one : Reads reading first left) (two : Reads reading second right) :
    first = second ∧ left = right := by
  obtain ⟨_, one⟩ := one
  obtain ⟨_, two⟩ := two
  rw [one] at two
  cases two
  exact ⟨rfl, rfl⟩

/-- The fault comes up at a token: these tokens stand before it, behind others that were read
earlier. -/
structure Fault.Points (fault : Fault) (before input taken : List Lexeme) (token : Lexeme) :
    Prop where
  within : taken ++ [token] <+: ended input
  counted : fault.left + taken.length = input.length + fault.fault.lead
  blames : fault.fault.Blames (before ++ taken) token

section Stopping

variable {accepts inner : List Lexeme → List Lexeme → Prop}
  {exempt exemptInner : List Lexeme → Prop} {before : List Lexeme} {token : Lexeme} {fault : Fault}

/-- Nothing that begins with these tokens is accepted. -/
def Blocks (accepts : List Lexeme → List Lexeme → Prop) (begun : List Lexeme) : Prop :=
  ∀ input rest, begun <+: ended input → ¬ accepts input rest

/-- These tokens can be continued to some that are accepted, whatever comes after them. -/
def Continues (accepts : List Lexeme → List Lexeme → Prop) (taken : List Lexeme) : Prop :=
  ∃ more, (∀ lexeme ∈ more, lexeme.Written) ∧ ∀ rest, accepts (taken ++ more ++ rest) rest

/-- Just these tokens are taken off the front of an input that begins with them. -/
def Takes (accepts : List Lexeme → List Lexeme → Prop) (words : List Lexeme) : Prop :=
  ∀ other rest, accepts (words ++ other) rest ↔ rest = other

/-- The fault comes up at the first token that leaves nothing to accept, unless the tokens before it
are exempt: then there may have been nothing to accept already. -/
def CorrectPrefix (accepts : List Lexeme → List Lexeme → Prop) (exempt : List Lexeme → Prop)
    (before input : List Lexeme) (fault : Fault) : Prop :=
  ∃ taken token, fault.Points before input taken token ∧ Blocks accepts (taken ++ [token]) ∧
    (exempt taken ∨ Continues accepts taken)

/-- What is known of a part is known of the whole. That the whole needs the part has to be shown
only for the kind of token that comes next. -/
theorem CorrectPrefix.after (words closing : List Lexeme)
    (stops : CorrectPrefix inner exemptInner (before ++ words) input fault)
    (needs : ∀ other rest, nextKind other = nextKind input → accepts (words ++ other) rest →
      ∃ left, inner other left)
    (written : ∀ lexeme ∈ closing, lexeme.Written)
    (closes : ∀ other rest, inner other (closing ++ rest) → accepts (words ++ other) rest)
    (exempted : ∀ taken, exemptInner taken → exempt (words ++ taken)) :
    CorrectPrefix accepts exempt before (words ++ input) fault := by
  obtain ⟨taken, token, points, blocks, continues⟩ := stops
  refine ⟨words ++ taken, token, ⟨?_, ?_, ?_⟩, ?_, ?_⟩
  · rw [List.append_assoc, append_prefix_ended]
    exact points.within
  · have counted := points.counted
    rw [List.length_append, List.length_append]
    omega
  · rw [← List.append_assoc]
    exact points.blames
  · intro other rest begun accepted
    rw [List.append_assoc] at begun
    obtain ⟨after, rfl, behind⟩ := exists_of_append_prefix_ended (by simp) begun
    have sameKind := nextKind_eq_of_prefixes (by simp) points.within behind
    obtain ⟨left, accepted⟩ := needs after rest sameKind accepted
    exact blocks after left behind accepted
  · rcases continues with isExempt | ⟨more, continued, accepted⟩
    · exact .inl (exempted taken isExempt)
    · refine .inr ⟨more ++ closing, List.forall_mem_append.mpr ⟨continued, written⟩, fun rest => ?_⟩
      have closed := closes _ rest (by simpa using accepted (closing ++ rest))
      simpa using closed

/-- A part that the whole begins with has nothing in front of it. -/
theorem CorrectPrefix.first (closing : List Lexeme)
    (stops : CorrectPrefix inner exemptInner before input fault)
    (needs : ∀ other rest, accepts other rest → ∃ left, inner other left)
    (written : ∀ lexeme ∈ closing, lexeme.Written)
    (closes : ∀ other rest, inner other (closing ++ rest) → accepts other rest)
    (exempted : ∀ taken, exemptInner taken → exempt taken) :
    CorrectPrefix accepts exempt before input fault := by
  rw [← List.append_nil before] at stops
  exact stops.after [] closing (fun other rest _ => needs other rest) written closes exempted

/-- A part that the whole ends with needs nothing to close it. -/
theorem CorrectPrefix.last (words : List Lexeme)
    (stops : CorrectPrefix inner exemptInner (before ++ words) input fault)
    (same : ∀ other rest, accepts (words ++ other) rest ↔ inner other rest)
    (exempted : ∀ taken, exemptInner taken → exempt (words ++ taken)) :
    CorrectPrefix accepts exempt before (words ++ input) fault :=
  stops.after words [] (fun other rest _ accepted => ⟨rest, (same other rest).mp accepted⟩)
    (by simp) (fun other rest => (same other rest).mpr) exempted

/-- A fault at the next token, which nothing that is accepted begins with. -/
theorem correctPrefix_here {fault : SyntaxFault} (blames : fault.Blames before token)
    (notEnd : token.kind ≠ .endOfInput) (never : ∀ other left, ¬ accepts (token :: other) left)
    (starts : Continues accepts []) :
    CorrectPrefix accepts exempt before (token :: rest)
      ⟨fault, (token :: rest).length + fault.lead⟩ := by
  refine ⟨[], token, ⟨⟨ended rest, rfl⟩, rfl, by simpa using blames⟩, ?_, .inr starts⟩
  intro other left begun accepted
  rcases singleton_prefix_ended begun with ⟨-, rfl⟩ | ⟨after, rfl⟩
  · exact notEnd rfl
  · exact never after left accepted

/-- A next token of a kind that nothing that is accepted begins with. -/
theorem correctPrefix_unexpected {expected : List TokenKind}
    (never : ∀ other left, accepts other left → nextKind other ≠ nextKind input)
    (starts : Continues accepts []) :
    CorrectPrefix accepts exempt before input
      ⟨.unexpectedToken expected (nextKind input), input.length⟩ := by
  obtain ⟨token, begins, kind⟩ := exists_next input
  refine ⟨[], token, ⟨begins, rfl, kind⟩, ?_, .inr starts⟩
  intro other left begun accepted
  exact never other left accepted ((nextKind_eq_of_begins begun).trans kind)

/-- A next token of neither of the two kinds that everything that is accepted begins with. -/
theorem correctPrefix_neither {first second : TokenKind} {expected : List TokenKind}
    (kinds : ∀ {other left}, accepts other left → nextKind other = first ∨ nextKind other = second)
    (notFirst : nextKind input ≠ first) (notSecond : nextKind input ≠ second)
    (starts : Continues accepts []) :
    CorrectPrefix accepts exempt before input
      ⟨.unexpectedToken expected (nextKind input), input.length⟩ := by
  refine correctPrefix_unexpected ?_ starts
  intro other left accepted same
  rcases kinds accepted with kind | kind
  · exact notFirst (same.symm.trans kind)
  · exact notSecond (same.symm.trans kind)

end Stopping

/-- What is read to its end in front of any tokens is all that is taken. -/
theorem takes_of_reads {reader : (input : List Lexeme) → Reading α input} {words : List Lexeme}
    {value : α} (complete : ∀ other, Reads (reader (words ++ other)) value other) :
    Takes (Accepts reader) words := by
  intro other rest
  constructor
  · rintro ⟨_, read⟩
    exact (read.unique (complete other)).2
  · rintro rfl
    exact ⟨value, complete rest⟩

/-- A word to continue with where one is called for: a name, or a type without modifiers. -/
def anyWord : Lexeme := word "a"

@[simp] theorem written_groupEnd : groupEnd.Written := ⟨rfl, rfl, nofun⟩

@[simp] theorem written_colon : colon.Written := ⟨rfl, rfl, nofun⟩

@[simp] theorem written_arrow : arrow.Written := ⟨rfl, rfl, nofun⟩

theorem written_word {text : String} (isWord : IsWord text.toList) : (word text).Written :=
  ⟨isWord, rfl, nofun⟩

@[simp] theorem written_anyWord : anyWord.Written :=
  written_word (isWord_of_all (by decide) (by decide))

theorem nextKind_ne {kind : TokenKind} (never : ∀ text after, input = ⟨kind, text⟩ :: after → False)
    (notEnd : kind ≠ .endOfInput) : nextKind input ≠ kind := by
  intro next
  cases input with
  | nil => exact notEnd next.symm
  | cons token after =>
      obtain rfl : token.kind = kind := next
      exact never token.text after rfl

theorem outcome_unexpected {expected : List TokenKind} {fault : Fault} :
    (unexpected expected input : Logged Step Fault α).outcome = .error fault ↔
      fault = ⟨.unexpectedToken expected (nextKind input), input.length⟩ :=
  ⟨fun fails => (Except.error.inj fails).symm, fun same => same ▸ rfl⟩

theorem accepts_readWord : Accepts readWord input rest ↔ ∃ text, input = word text :: rest :=
  exists_congr fun _ => reads_readWord

theorem continues_readWord : Continues (Accepts readWord) [] :=
  ⟨[anyWord], by simp, fun _ => accepts_readWord.mpr ⟨_, rfl⟩⟩

theorem correctPrefix_notWord (notWord : ∀ text after, input = word text :: after → False)
    (exempt : List Lexeme → Prop) (before : List Lexeme) :
    CorrectPrefix (Accepts readWord) exempt before input
      ⟨.unexpectedToken [.word] (nextKind input), input.length⟩ := by
  refine correctPrefix_unexpected ?_ continues_readWord
  intro other left accepted same
  obtain ⟨text, rfl⟩ := accepts_readWord.mp accepted
  exact nextKind_ne notWord (by decide) same.symm

theorem error_of_readWord {fault : Fault} (fails : (readWord input).outcome = .error fault) :
    (∀ text after, input = word text :: after → False) ∧
      fault = ⟨.unexpectedToken [.word] (nextKind input), input.length⟩ := by
  unfold readWord at fails
  split at fails
  · cases fails
  · rename_i notWord
    exact ⟨notWord, outcome_unexpected.mp fails⟩

theorem correctPrefix_readWord {fault : Fault} (fails : (readWord input).outcome = .error fault)
    (exempt : List Lexeme → Prop) (before : List Lexeme) :
    CorrectPrefix (Accepts readWord) exempt before input fault := by
  obtain ⟨notWord, rfl⟩ := error_of_readWord fails
  exact correctPrefix_notWord notWord exempt before

/-- A reader that tells every fault where it first can. -/
structure Prompt (reader : (input : List Lexeme) → Reading α input) : Prop where
  starts : Continues (Accepts reader) []
  takes {input rest : List Lexeme} {value : α} : (∀ lexeme ∈ input, lexeme.Spelled) →
    Reads (reader input) value rest → ∃ words, input = words ++ rest ∧ Takes (Accepts reader) words
  stops {input : List Lexeme} {fault : Fault} : (∀ lexeme ∈ input, lexeme.Spelled) →
    (reader input).outcome = .error fault →
    ∀ before, CorrectPrefix (Accepts reader) (fun _ => False) before input fault

end Reader

end Varlink
