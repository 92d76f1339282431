import Varlink.Document.Source
import Varlink.Proofs.Document.TypeReading

/-!
# The parser recognizes the grammar

A source parses to a document exactly if the grammar derives the document from the tokens of the
source. Members are read one after the other with the reader of types, so what has to be shown for
each is where it ends; the rest is the same for all of them.
-/

namespace Varlink

namespace Reader

open Grammar Lexeme

variable {input rest : List Lexeme}

/-- A keyword in front only changes what is read. -/
theorem reads_afterHead {α β : Type} {token : Lexeme} {reading : Reading β input} {f : β → α}
    {value : α} :
    Reads (do let found ← reading; pure (found.map f).afterHead : Reading α (token :: input))
      value rest ↔ ∃ inner, f inner = value ∧ Reads reading inner rest :=
  reads_map (fun _ => rfl) (fun _ => rfl)

/-- What has a name is read as the name and what comes after it. -/
theorem reads_named {α β : Type} {value : α}
    (reader : String → (input : List Lexeme) → Reading β input) (build : String → β → α)
    (event : String → Step) :
    Reads (do
      let ⟨name, afterName, shorter⟩ ← readWord input
      let body ← reader name afterName
      Logged.note (event name)
      pure ((body.map (build name)).behind shorter)) value rest ↔
    ∃ name body after, input = word name :: after ∧ build name body = value ∧
      Reads (reader name after) body rest := by
  rw [reads_bind]
  constructor
  · rintro ⟨⟨name, after, shorter⟩, first, h⟩
    obtain ⟨⟨body, left, shorter'⟩, second, h⟩ := reads_bind.mp h
    obtain ⟨rfl, rfl⟩ : build name body = value ∧ left = rest := reads_pure.mp (reads_note.mp h)
    exact ⟨name, body, after, reads_readWord.mp ⟨shorter, first⟩, rfl, shorter', second⟩
  · rintro ⟨name, body, after, covered, rfl, shorter', second⟩
    obtain ⟨shorter, first⟩ := reads_readWord.mpr covered
    exact ⟨_, first, reads_bind.mpr ⟨_, second, reads_note.mpr (reads_pure.mpr ⟨rfl, rfl⟩)⟩⟩

section Members

variable (spelled : ∀ lexeme ∈ input, lexeme.Spelled)
include spelled

theorem reads_readTypedef {typedef : TypeDef} :
    Reads (readTypedef input) typedef rest ↔
      ∃ words, word "type" :: input = words ++ rest ∧ IsMember words (.typedef typedef) := by
  refine (reads_named (fun _ => readType maxNesting) TypeDef.mk .typedef).trans ?_
  constructor
  · rintro ⟨name, body, after, rfl, rfl, read⟩
    have behind := (List.forall_mem_cons.mp spelled).2
    obtain ⟨words, rfl, within⟩ := (reads_readType behind).mp read
    exact ⟨_, rfl, .typedef name within⟩
  · rintro ⟨_, covered, member⟩
    cases member with
    | typedef name within =>
        cases covered
        have behind := (List.forall_mem_cons.mp spelled).2
        exact ⟨name, _, _, rfl, rfl, (reads_readType behind).mpr ⟨_, rfl, within⟩⟩

theorem reads_readError {error : ErrorDef} :
    Reads (readError input) error rest ↔
      ∃ words, word "error" :: input = words ++ rest ∧ IsMember words (.error error) := by
  refine (reads_named (fun name => readSignature (.errorParameters name)) ErrorDef.mk
    .error).trans ?_
  constructor
  · rintro ⟨name, parameters, after, rfl, rfl, read⟩
    have behind := (List.forall_mem_cons.mp spelled).2
    obtain ⟨words, rfl, signature⟩ := (reads_readSignature behind).mp read
    exact ⟨_, rfl, .error name signature⟩
  · rintro ⟨_, covered, member⟩
    cases member with
    | error name signature =>
        cases covered
        have behind := (List.forall_mem_cons.mp spelled).2
        exact ⟨name, _, _, rfl, rfl, (reads_readSignature behind).mpr ⟨_, rfl, signature⟩⟩

theorem reads_readMethod {method : MethodDef} :
    Reads (readMethod input) method rest ↔
      ∃ words, word "method" :: input = words ++ rest ∧ IsMember words (.method method) := by
  unfold readMethod
  rw [reads_bind]
  constructor
  · rintro ⟨⟨name, afterName, shorter⟩, first, h⟩
    obtain rfl := reads_readWord.mp ⟨shorter, first⟩
    obtain ⟨⟨parameters, afterParameters, shorter'⟩, second, h⟩ := reads_bind.mp h
    have behind := (List.forall_mem_cons.mp spelled).2
    obtain ⟨parameterWords, rfl, parametersDerived⟩ :=
      (reads_readSignature behind).mp ⟨shorter', second⟩
    have behind := (List.forall_mem_append.mp behind).2
    dsimp only at h
    split at h
    · rename_i mark after _ _ _
      obtain ⟨⟨results, left, shorter''⟩, third, h⟩ := reads_bind.mp h
      obtain ⟨rfl, rfl⟩ : ⟨name, parameters, results⟩ = method ∧ left = rest :=
        reads_pure.mp (reads_note.mp h)
      obtain ⟨pointing, behind⟩ := List.forall_mem_cons.mp behind
      obtain ⟨resultWords, rfl, resultsDerived⟩ :=
        (reads_readSignature behind).mp ⟨shorter'', third⟩
      obtain rfl : mark = "->" := pointing
      refine ⟨_, ?_, .method name parametersDerived resultsDerived⟩
      simp [arrow, word]
    · simp at h
  · rintro ⟨_, covered, member⟩
    cases member with
    | @method name parameterWords resultWords _ _ parametersDerived resultsDerived =>
        have same : input = word name :: (parameterWords ++ arrow :: (resultWords ++ rest)) := by
          simpa using covered
        subst same
        have behind := (List.forall_mem_cons.mp spelled).2
        obtain ⟨shorter', second⟩ :=
          (reads_readSignature behind).mpr ⟨_, rfl, parametersDerived⟩
        have behind := (List.forall_mem_cons.mp (List.forall_mem_append.mp behind).2).2
        obtain ⟨shorter'', third⟩ := (reads_readSignature behind).mpr ⟨_, rfl, resultsDerived⟩
        obtain ⟨shorter, first⟩ := reads_readWord.mpr rfl
        refine ⟨_, first, reads_bind.mpr ⟨_, second, reads_bind.mpr ⟨_, third, ?_⟩⟩⟩
        exact reads_note.mpr (reads_pure.mpr ⟨rfl, rfl⟩)

theorem reads_readMember {member : Member} :
    Reads (readMember input) member rest ↔
      ∃ words, input = words ++ rest ∧ IsMember words member := by
  constructor
  · intro h
    unfold readMember at h
    split at h
    · rename_i keyword after
      have behind := (List.forall_mem_cons.mp spelled).2
      split_ifs at h with isMethod isTypedef isError
      · obtain ⟨method, rfl, read⟩ := reads_afterHead.mp h
        rw [isMethod]
        exact (reads_readMethod behind).mp read
      · obtain ⟨typedef, rfl, read⟩ := reads_afterHead.mp h
        rw [isTypedef]
        exact (reads_readTypedef behind).mp read
      · obtain ⟨error, rfl, read⟩ := reads_afterHead.mp h
        rw [isError]
        exact (reads_readError behind).mp read
      · exact absurd h reads_fail
    · exact absurd h reads_unexpected
  · rintro ⟨words, covered, derived⟩
    cases member with
    | method method =>
        obtain ⟨after, rfl⟩ : ∃ after, input = word "method" :: after := by
          cases derived
          exact ⟨_, covered⟩
        have read := (reads_readMethod (List.forall_mem_cons.mp spelled).2).mpr
          ⟨words, covered, derived⟩
        exact reads_afterHead.mpr ⟨method, rfl, read⟩
    | typedef typedef =>
        obtain ⟨after, rfl⟩ : ∃ after, input = word "type" :: after := by
          cases derived
          exact ⟨_, covered⟩
        have read := (reads_readTypedef (List.forall_mem_cons.mp spelled).2).mpr
          ⟨words, covered, derived⟩
        exact reads_afterHead.mpr ⟨typedef, rfl, read⟩
    | error error =>
        obtain ⟨after, rfl⟩ : ∃ after, input = word "error" :: after := by
          cases derived
          exact ⟨_, covered⟩
        have read := (reads_readError (List.forall_mem_cons.mp spelled).2).mpr
          ⟨words, covered, derived⟩
        exact reads_afterHead.mpr ⟨error, rfl, read⟩

theorem outcome_readMembers {members : List Member} :
    (readMembers input).outcome = .ok members ↔ AreMembers input members := by
  induction input using readMembers.induct generalizing members with
  | case1 =>
      rw [readMembers, if_pos rfl]
      constructor
      · intro h
        obtain rfl : [] = members := Except.ok.inj h
        exact .nil
      · intro derived
        generalize empty : [] = tokens at derived
        cases derived with
        | nil => rfl
        | cons first => cases first <;> cases empty
  | case2 input nonempty ih =>
      rw [readMembers, if_neg nonempty, Logged.outcome_bind_eq_ok]
      constructor
      · rintro ⟨⟨member, after, shorter⟩, first, h⟩
        obtain ⟨behind, others, h⟩ := Logged.outcome_bind_eq_ok.mp h
        obtain rfl : member :: behind = members := Except.ok.inj h
        obtain ⟨words, rfl, derived⟩ := (reads_readMember spelled).mp ⟨shorter, first⟩
        have spelled := (List.forall_mem_append.mp spelled).2
        exact .cons derived ((ih after shorter spelled).mp others)
      · intro derived
        cases derived with
        | nil => contradiction
        | cons first others =>
            obtain ⟨shorter, read⟩ := (reads_readMember spelled).mpr ⟨_, rfl, first⟩
            have spelled := (List.forall_mem_append.mp spelled).2
            have others := (ih _ shorter spelled).mpr others
            exact ⟨_, read, Logged.outcome_bind_eq_ok.mpr ⟨_, others, rfl⟩⟩

/-- The documents that are read are those the grammar derives. -/
theorem outcome_readDocument {document : Document} :
    (readDocument input).outcome = .ok document ↔ IsDocument input document := by
  unfold readDocument
  rw [Logged.outcome_bind_eq_ok]
  constructor
  · rintro ⟨⟨keyword, afterKeyword, shorter⟩, first, h⟩
    obtain rfl := reads_readWord.mp ⟨shorter, first⟩
    by_cases isInterface : keyword = "interface"
    · rw [if_pos isInterface] at h
      obtain ⟨⟨name, afterName, shorter'⟩, second, h⟩ := Logged.outcome_bind_eq_ok.mp h
      obtain rfl := reads_readWord.mp ⟨shorter', second⟩
      obtain ⟨members, third, h⟩ := Logged.outcome_bind_eq_ok.mp h
      obtain rfl : Document.ofMembers name members = document := Except.ok.inj h
      have behind := (List.forall_mem_cons.mp (List.forall_mem_cons.mp spelled).2).2
      rw [isInterface]
      exact .intro name ((outcome_readMembers behind).mp third)
    · rw [if_neg isInterface] at h
      cases h
  · rintro ⟨name, derived⟩
    have behind := (List.forall_mem_cons.mp (List.forall_mem_cons.mp spelled).2).2
    obtain ⟨shorter, first⟩ := reads_readWord.mpr rfl
    obtain ⟨shorter', second⟩ := reads_readWord.mpr rfl
    refine ⟨_, first, ?_⟩
    rw [if_pos rfl]
    refine Logged.outcome_bind_eq_ok.mpr ⟨_, second, Logged.outcome_bind_eq_ok.mpr ?_⟩
    exact ⟨_, (outcome_readMembers behind).mpr derived, rfl⟩

end Members

end Reader

namespace Document

open Grammar

theorem outcome_parse_eq_ok_iff {source : String} {document : Document} :
    (parse source).outcome = .ok document ↔
      IsDocument (Lexeme.significant source.toList) document := by
  have spelled : ∀ lexeme ∈ Lexeme.significant source.toList, lexeme.Spelled :=
    fun _ => Lexeme.spelled_of_mem_significant
  rw [← Reader.outcome_readDocument spelled, ← Token.toLexeme_significant, parse,
    Logged.outcome_bimap, mapError_eq_ok]

/-- A source parses to exactly the one document that the grammar derives from its tokens, and does
not parse if there is none. -/
theorem parse_recognizes_grammar (source : String) :
    (∀ document : Document, (parse source).outcome = .ok document ↔
      IsDocument ((Token.significant source).map (·.toLexeme)) document) ∧
    ∀ first second : Document,
      IsDocument ((Token.significant source).map (·.toLexeme)) first →
      IsDocument ((Token.significant source).map (·.toLexeme)) second → first = second := by
  rw [Token.toLexeme_significant]
  refine ⟨fun _ => outcome_parse_eq_ok_iff, ?_⟩
  intro first second left right
  have parsed := outcome_parse_eq_ok_iff.mpr left
  rw [outcome_parse_eq_ok_iff.mpr right] at parsed
  exact (Except.ok.inj parsed).symm

end Document

end Varlink
