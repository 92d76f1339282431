import Varlink.Proofs.Document.Recognition
import Varlink.Proofs.Document.TypeStopping

/-!
# Members stop where they can

A keyword, a name and an arrow are told to be wrong where they are due, like the tokens of types. A
signature is different: its type is read as any other, and only when all of it is there is it found
out that an enum, a built-in type or a modified type cannot stand there. A type like this may have
begun when the reader comes to a token that fits no type either. That token is still one that
nothing accepted goes on with, but the tokens before it may have been wrong already.
-/

namespace Varlink

namespace Grammar

open Lexeme

/-- The tokens of a method or an error up to a place where a signature is due. -/
inductive IsOpening : List Lexeme → Prop
  | parameters (name : String) : IsOpening [word "method", word name]
  | results (name : String) {words : List Lexeme} {parameters : TypeExpr String}
      (first : IsSignature words parameters) :
      IsOpening (word "method" :: word name :: words ++ [arrow])
  | error (name : String) : IsOpening [word "error", word name]

/-- Tokens of a signature that has begun and is not complete. -/
structure EndsInSignature (begun : List Lexeme) : Prop where
  begins : begun ≠ []
  incomplete : ∀ words, words <+: begun → ∀ type, ¬ IsSignature words type

/-- Tokens of a method or an error that end inside one of its signatures. -/
def EndsInMember (taken : List Lexeme) : Prop :=
  ∃ opening begun, taken = opening ++ begun ∧ IsOpening opening ∧ EndsInSignature begun

end Grammar

namespace Reader

open Grammar Lexeme

variable {α β : Type} {input rest : List Lexeme} {fault : Fault}

section Signatures

variable {site : SignatureSite}

theorem accepts_readSignature_anyWord (rest : List Lexeme) :
    Accepts (readSignature site) (anyWord :: rest) rest := by
  have derived : IsType [anyWord] (.ofWord "a") :=
    isType_ofWord (by decide) (Modifier.ofWord?_eq_none_iff.mp (by decide))
  have signature : IsSignature [anyWord] (.reference "a") := .reference ⟨derived, Nat.zero_le _⟩
  exact ⟨_, readSignature_complete signature rest⟩

theorem accepts_readType_of_readSignature (accepted : Accepts (readSignature site) input rest) :
    Accepts (readType maxNesting) input rest := by
  obtain ⟨type, read⟩ := accepted
  obtain ⟨⟨found, left, shorter⟩, first, read⟩ := reads_bind.mp read
  refine ⟨found, ?_⟩
  cases found with
  | struct fields =>
      obtain ⟨-, rfl⟩ := reads_pure.mp read
      exact ⟨shorter, first⟩
  | reference name =>
      obtain ⟨-, rfl⟩ := reads_pure.mp read
      exact ⟨shorter, first⟩
  | builtin => exact absurd read reads_fail
  | modified => exact absurd read reads_fail
  | enum => exact absurd read reads_fail

/-- A type that cannot stand in a signature may have begun already when the reader comes to a token
that it does not expect. -/
theorem correctPrefix_readSignature (spelled : ∀ lexeme ∈ input, lexeme.Spelled)
    (notKind : ∀ site, fault.fault ≠ .unexpectedKind site)
    (fails : (readSignature site input).outcome = .error fault) (before : List Lexeme) :
    CorrectPrefix (Accepts (readSignature site)) EndsInSignature before input fault := by
  rcases Logged.outcome_bind_eq_error.mp fails with typeFails | ⟨found, -, kindFails⟩
  · obtain ⟨taken, token, points, blocks, -⟩ :=
      (prompt_readType maxNesting).stops spelled typeFails before
    refine ⟨taken, token, points, ?_, ?_⟩
    · intro other left begun accepted
      exact blocks other left begun (accepts_readType_of_readSignature accepted)
    · by_cases empty : taken = []
      · subst empty
        exact .inr ⟨[anyWord], by simp, accepts_readSignature_anyWord⟩
      · refine .inl ⟨empty, fun words part type signature => ?_⟩
        obtain ⟨after, rfl, -⟩ := exists_of_append_prefix_ended (by simp) points.within
        obtain ⟨more, rfl⟩ := part
        rw [List.append_assoc] at fails
        have read : Reads (readSignature site (words ++ (more ++ after))) type (more ++ after) :=
          readSignature_complete signature _
        obtain ⟨_, read⟩ := read
        rw [fails] at read
        cases read
  · obtain ⟨type, left, shorter⟩ := found
    cases type with
    | struct fields => cases kindFails
    | reference name => cases kindFails
    | _ =>
        obtain rfl := Except.error.inj kindFails
        exact absurd rfl (notKind site)

end Signatures

section Members

/-- What has a name is told to be wrong at the name or in what comes after it. -/
theorem correctPrefix_named {accepts : List Lexeme → List Lexeme → Prop}
    {body : String → List Lexeme → List Lexeme → Prop} {exempt : List Lexeme → Prop}
    {before : List Lexeme} (exemptBody : List Lexeme → Prop) (closing : List Lexeme)
    (same : ∀ other rest, accepts other rest ↔
      ∃ name after, other = word name :: after ∧ body name after rest)
    (written : ∀ lexeme ∈ closing, lexeme.Written)
    (closes : ∀ name rest, body name (closing ++ rest) rest)
    (exempted : ∀ name taken, exemptBody taken → exempt (word name :: taken))
    (stops : (readWord input).outcome = .error fault ∨ ∃ name after, input = word name :: after ∧
      CorrectPrefix (body name) exemptBody (before ++ [word name]) after fault) :
    CorrectPrefix accepts exempt before input fault := by
  rcases stops with fails | ⟨name, after, rfl, stops⟩
  · refine (correctPrefix_readWord fails exempt before).first closing ?_ written ?_ fun _ => id
    · intro other rest accepted
      obtain ⟨name, after, rfl, -⟩ := (same _ _).mp accepted
      exact ⟨after, accepts_readWord.mpr ⟨name, rfl⟩⟩
    · intro other rest isWord
      obtain ⟨name, rfl⟩ := accepts_readWord.mp isWord
      exact (same _ _).mpr ⟨name, _, rfl, closes name rest⟩
  · refine stops.last [word name] ?_ (exempted name)
    intro other rest
    rw [same]
    simp [word]

/-- What has a name is accepted as the name and what comes after it. -/
theorem accepts_named (reader : String → (input : List Lexeme) → Reading β input)
    (build : String → β → α) (event : String → Step) (input rest : List Lexeme) :
    Accepts (fun input => do
      let ⟨name, afterName, shorter⟩ ← readWord input
      let body ← reader name afterName
      Logged.note (event name)
      pure ((body.map (build name)).behind shorter)) input rest ↔
    ∃ name after, input = word name :: after ∧ Accepts (reader name) after rest := by
  constructor
  · rintro ⟨value, read⟩
    obtain ⟨name, body, after, rfl, -, read⟩ := (reads_named reader build event).mp read
    exact ⟨name, after, rfl, body, read⟩
  · rintro ⟨name, after, rfl, body, read⟩
    exact ⟨_, (reads_named reader build event).mpr ⟨name, body, after, rfl, rfl, read⟩⟩

theorem error_of_named (reader : String → (input : List Lexeme) → Reading β input)
    (build : String → β → α) (event : String → Step)
    (fails : (do
      let ⟨name, afterName, shorter⟩ ← readWord input
      let body ← reader name afterName
      Logged.note (event name)
      pure ((body.map (build name)).behind shorter) : Reading α input).outcome = .error fault) :
    (readWord input).outcome = .error fault ∨ ∃ name after, input = word name :: after ∧
      (reader name after).outcome = .error fault := by
  rcases Logged.outcome_bind_eq_error.mp fails with
    noName | ⟨⟨name, after, shorter⟩, first, behind⟩
  · exact .inl noName
  · obtain rfl := reads_readWord.mp ⟨shorter, first⟩
    exact .inr ⟨name, after, rfl, Logged.error_of_bind behind fun _ => ⟨_, rfl⟩⟩

theorem accepts_readTypedef (input rest : List Lexeme) : Accepts readTypedef input rest ↔
    ∃ name after, input = word name :: after ∧ Accepts (readType maxNesting) after rest :=
  accepts_named (fun _ => readType maxNesting) TypeDef.mk .typedef input rest

theorem accepts_readError (input rest : List Lexeme) : Accepts readError input rest ↔
    ∃ name after, input = word name :: after ∧
      Accepts (readSignature (.errorParameters name)) after rest :=
  accepts_named (fun name => readSignature (.errorParameters name)) ErrorDef.mk .error input rest

/-- What comes after the parameters of a method: an arrow and the results. -/
inductive MethodEnd (name : String) : List Lexeme → List Lexeme → Prop
  | results (text : String) {after rest : List Lexeme}
      (second : Accepts (readSignature (.methodResults name)) after rest) :
      MethodEnd name (⟨.arrow, text⟩ :: after) rest

theorem accepts_readMethod (input rest : List Lexeme) : Accepts readMethod input rest ↔
    ∃ name after, input = word name :: after ∧
      ∃ left, Accepts (readSignature (.methodParameters name)) after left ∧
        MethodEnd name left rest := by
  constructor
  · rintro ⟨method, read⟩
    obtain ⟨⟨name, after, shorter⟩, first, read⟩ := reads_bind.mp read
    obtain rfl := reads_readWord.mp ⟨shorter, first⟩
    obtain ⟨⟨parameters, left, shorter'⟩, second, read⟩ := reads_bind.mp read
    refine ⟨name, after, rfl, left, ⟨parameters, shorter', second⟩, ?_⟩
    dsimp only at read
    split at read
    · obtain ⟨⟨results, last, shorter''⟩, third, read⟩ := reads_bind.mp read
      obtain ⟨-, rfl⟩ := reads_pure.mp (reads_note.mp read)
      exact .results _ ⟨results, shorter'', third⟩
    · exact absurd read reads_unexpected
  · rintro ⟨name, after, rfl, left, ⟨parameters, shorter', second⟩, ⟨text, results⟩⟩
    obtain ⟨results, shorter'', third⟩ := results
    obtain ⟨shorter, first⟩ := reads_readWord.mpr rfl
    refine ⟨⟨name, parameters, results⟩, reads_bind.mpr ⟨_, first, reads_bind.mpr ⟨_, second,
      reads_bind.mpr ⟨_, third, ?_⟩⟩⟩⟩
    exact reads_note.mpr (reads_pure.mpr ⟨rfl, rfl⟩)

theorem accepts_methodEnd (name : String) (rest : List Lexeme) :
    MethodEnd name (arrow :: anyWord :: rest) rest :=
  .results _ (accepts_readSignature_anyWord rest)

/-- After the parameters of a method there has to be an arrow. -/
theorem correctPrefix_methodEnd_unexpected {name : String} {exempt : List Lexeme → Prop}
    {before : List Lexeme} (notArrow : ∀ text after, input = ⟨.arrow, text⟩ :: after → False) :
    CorrectPrefix (MethodEnd name) exempt before input
      ⟨.unexpectedToken [.arrow] (nextKind input), input.length⟩ := by
  refine correctPrefix_unexpected ?_
    ⟨[arrow, anyWord], by simp, fun rest => accepts_methodEnd name rest⟩
  rintro other rest ⟨text, -⟩ same
  exact nextKind_ne notArrow (by decide) same.symm

/-- The tokens of a method behind its name, ending inside one of its signatures. -/
def EndsInMethod (taken : List Lexeme) : Prop :=
  ∀ name, EndsInMember (word "method" :: word name :: taken)

variable (spelled : ∀ lexeme ∈ input, lexeme.Spelled)
include spelled

theorem correctPrefix_readTypedef (fails : (readTypedef input).outcome = .error fault)
    (exempt : List Lexeme → Prop) (before : List Lexeme) :
    CorrectPrefix (Accepts readTypedef) exempt before input fault := by
  refine correctPrefix_named (fun _ => False) [anyWord] accepts_readTypedef (by simp)
    (fun _ => accepts_readType_anyWord maxNesting) (fun _ _ => False.elim) ?_
  rcases error_of_named (fun _ => readType maxNesting) TypeDef.mk .typedef fails with
    noName | ⟨name, after, rfl, inner⟩
  · exact .inl noName
  · have spelledAfter := (List.forall_mem_cons.mp spelled).2
    exact .inr ⟨name, after, rfl, (prompt_readType maxNesting).stops spelledAfter inner _⟩

theorem correctPrefix_readError (notKind : ∀ site, fault.fault ≠ .unexpectedKind site)
    (fails : (readError input).outcome = .error fault) (before : List Lexeme) :
    CorrectPrefix (Accepts readError) (fun taken => EndsInMember (word "error" :: taken)) before
      input fault := by
  refine correctPrefix_named EndsInSignature [anyWord] accepts_readError (by simp)
    (fun _ => accepts_readSignature_anyWord)
    (fun name taken ending => ⟨[word "error", word name], taken, rfl, .error name, ending⟩) ?_
  rcases error_of_named (fun name => readSignature (.errorParameters name)) ErrorDef.mk .error
    fails with noName | ⟨name, after, rfl, inner⟩
  · exact .inl noName
  · have spelledAfter := (List.forall_mem_cons.mp spelled).2
    exact .inr ⟨name, after, rfl, correctPrefix_readSignature spelledAfter notKind inner _⟩

theorem correctPrefix_methodEnd_results {name : String} {words : List Lexeme}
    {parameters : TypeExpr String} (signature : IsSignature words parameters)
    (notKind : ∀ site, fault.fault ≠ .unexpectedKind site)
    (fails : (readSignature (.methodResults name) input).outcome = .error fault)
    (before : List Lexeme) :
    CorrectPrefix (MethodEnd name) (fun taken => EndsInMethod (words ++ taken)) before
      (arrow :: input) fault := by
  refine (correctPrefix_readSignature spelled notKind fails _).last [arrow] ?_ ?_
  · intro other rest
    constructor
    · rintro ⟨_, second⟩
      exact second
    · exact .results _
  · intro taken ending name
    refine ⟨word "method" :: word name :: words ++ [arrow], taken, by simp, ?_, ending⟩
    exact .results name signature

theorem correctPrefix_readMethod (notKind : ∀ site, fault.fault ≠ .unexpectedKind site)
    (fails : (readMethod input).outcome = .error fault) (before : List Lexeme) :
    CorrectPrefix (Accepts readMethod) (fun taken => EndsInMember (word "method" :: taken)) before
      input fault := by
  refine correctPrefix_named EndsInMethod [anyWord, arrow, anyWord] accepts_readMethod (by simp) ?_
    (fun name taken ending => ending name) ?_
  · intro name rest
    exact ⟨_, accepts_readSignature_anyWord _, accepts_methodEnd name rest⟩
  rcases Logged.outcome_bind_eq_error.mp fails with
    noName | ⟨⟨name, after, shorter⟩, first, behind⟩
  · exact .inl noName
  obtain rfl := reads_readWord.mp ⟨shorter, first⟩
  have spelledAfter := (List.forall_mem_cons.mp spelled).2
  refine .inr ⟨name, after, rfl, ?_⟩
  rcases Logged.outcome_bind_eq_error.mp behind with
    inner | ⟨⟨parameters, left, shorter'⟩, second, last⟩
  · refine (correctPrefix_readSignature spelledAfter notKind inner _).first [arrow, anyWord] ?_
      (by simp) ?_ ?_
    · rintro other rest ⟨left, accepted, -⟩
      exact ⟨left, accepted⟩
    · intro other rest accepted
      exact ⟨_, accepted, accepts_methodEnd name rest⟩
    · intro taken ending name
      exact ⟨[word "method", word name], taken, rfl, .parameters name, ending⟩
  · obtain ⟨words, rfl, signature⟩ := (reads_readSignature spelledAfter).mp ⟨shorter', second⟩
    have takes : Takes (Accepts (readSignature (.methodParameters name))) words :=
      takes_of_reads (readSignature_complete signature)
    have ending : CorrectPrefix (MethodEnd name) (fun taken => EndsInMethod (words ++ taken))
        (before ++ [word name] ++ words) left fault := by
      dsimp only at last
      split at last
      · rename_i text tail _
        obtain ⟨mark, spelledBehind⟩ :=
          List.forall_mem_cons.mp (List.forall_mem_append.mp spelledAfter).2
        obtain rfl : text = "->" := mark
        have inner := Logged.error_of_bind last fun _ => ⟨_, rfl⟩
        exact correctPrefix_methodEnd_results spelledBehind signature notKind inner _
      · rename_i notArrow
        obtain rfl := outcome_unexpected.mp last
        apply correctPrefix_methodEnd_unexpected
        rintro text after rfl
        exact notArrow text after shorter' rfl HEq.rfl
    refine ending.last words ?_ fun _ => id
    intro other rest
    simp only [takes other, exists_eq_left]

end Members

/-- A keyword in front is accepted with what comes after it. -/
theorem accepts_afterHead {token : Lexeme} {reading : Reading β input} {f : β → α} :
    (∃ value, Reads (do let found ← reading; pure (found.map f).afterHead :
      Reading α (token :: input)) value rest) ↔ ∃ inner, Reads reading inner rest := by
  constructor
  · rintro ⟨value, read⟩
    obtain ⟨inner, -, read⟩ := reads_afterHead.mp read
    exact ⟨inner, read⟩
  · rintro ⟨inner, read⟩
    exact ⟨f inner, reads_afterHead.mpr ⟨inner, rfl, read⟩⟩

theorem accepts_readMember_method :
    Accepts readMember (word "method" :: input) rest ↔ Accepts readMethod input rest := by
  rw [Accepts, word, readMember, if_pos rfl]
  exact accepts_afterHead

theorem accepts_readMember_typedef :
    Accepts readMember (word "type" :: input) rest ↔ Accepts readTypedef input rest := by
  rw [Accepts, word, readMember, if_neg (by decide), if_pos rfl]
  exact accepts_afterHead

theorem accepts_readMember_error :
    Accepts readMember (word "error" :: input) rest ↔ Accepts readError input rest := by
  rw [Accepts, word, readMember, if_neg (by decide), if_neg (by decide), if_pos rfl]
  exact accepts_afterHead

theorem continues_readMember : Continues (Accepts readMember) [] := by
  refine ⟨[word "type", anyWord, anyWord], ?_, fun rest => ?_⟩
  · have keyword : (word "type").Written := written_word (isWord_of_all (by decide) (by decide))
    simp [keyword]
  · refine accepts_readMember_typedef.mpr ((accepts_readTypedef _ _).mpr ⟨_, _, rfl, ?_⟩)
    exact accepts_readType_anyWord maxNesting rest

theorem nextKind_of_accepts_readMember (accepted : Accepts readMember input rest) :
    nextKind input = .word := by
  obtain ⟨member, read⟩ := accepted
  unfold readMember at read
  split at read
  · rfl
  · exact absurd read reads_unexpected

/-- A member is told to be wrong at its keyword or in what comes after it. -/
theorem correctPrefix_readMember (spelled : ∀ lexeme ∈ input, lexeme.Spelled)
    (notKind : ∀ site, fault.fault ≠ .unexpectedKind site)
    (fails : (readMember input).outcome = .error fault) (before : List Lexeme) :
    CorrectPrefix (Accepts readMember) EndsInMember before input fault := by
  unfold readMember at fails
  split at fails
  · rename_i keyword after
    have spelledAfter := (List.forall_mem_cons.mp spelled).2
    split_ifs at fails with isMethod isTypedef isError
    · have inner := Logged.error_of_bind fails fun _ => ⟨_, rfl⟩
      subst isMethod
      exact (correctPrefix_readMethod spelledAfter notKind inner _).last [word "method"]
        (fun other rest => accepts_readMember_method) fun _ => id
    · have inner := Logged.error_of_bind fails fun _ => ⟨_, rfl⟩
      subst isTypedef
      exact (correctPrefix_readTypedef spelledAfter inner (fun _ => False) _).last [word "type"]
        (fun other rest => accepts_readMember_typedef) fun _ => False.elim
    · have inner := Logged.error_of_bind fails fun _ => ⟨_, rfl⟩
      subst isError
      exact (correctPrefix_readError spelledAfter notKind inner _).last [word "error"]
        (fun other rest => accepts_readMember_error) fun _ => id
    · obtain rfl := Except.error.inj fails
      refine correctPrefix_here rfl (by simp) ?_ continues_readMember
      rintro other left ⟨member, read⟩
      rw [readMember, if_neg isMethod, if_neg isTypedef, if_neg isError] at read
      exact reads_fail read
  · rename_i notWord
    obtain rfl := outcome_unexpected.mp fails
    refine correctPrefix_unexpected ?_ continues_readMember
    intro other left accepted same
    exact nextKind_ne notWord (by decide)
      (same.symm.trans (nextKind_of_accepts_readMember accepted))

end Reader

end Varlink
