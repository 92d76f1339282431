import Varlink.Proofs.Document.MemberStopping
import Varlink.Proofs.Interface.Trivia
import Varlink.Proofs.Location

/-!
# Errors come at the first wrong token

An error says where the reader stopped. The reader stops at the first token that makes the tokens so
far the beginning of no accepted source: up to this token they are the beginning of one. Only inside
the body of a method or an error may it stop later, because a signature is read as a type first.

The continuation is found as tokens, from the place where the reader stopped outwards, and any such
tokens can be written down with blanks between them. That the token cannot be right is shown from
the same place: whatever is accepted and begins with the tokens before it is read as far as that,
and what is looked at there is the kind of the token, or the word itself.
-/

namespace Varlink

namespace Grammar

open Lexeme Reader

/-- Tokens of a document that end inside the body of a method or an error. -/
def EndsInBody (taken : List Lexeme) : Prop :=
  ∃ name words members ending, taken = word "interface" :: word name :: words ++ ending ∧
    AreMembers words members ∧ EndsInMember ending

/-- No document begins with all of these tokens, but one begins with those before the last, unless
they end inside the body of a method or an error. -/
structure FirstWrong (taken : List Lexeme) (token : Lexeme) : Prop where
  wrong : ∀ other document, (∀ lexeme ∈ other, lexeme.Written) →
    taken ++ [token] <+: ended other → ¬ IsDocument other document
  right : EndsInBody taken ∨ ∃ more document, (∀ lexeme ∈ more, lexeme.Written) ∧
    IsDocument (taken ++ more) document

variable {words input other : List Lexeme} {members : List Member} {fault : Fault}

theorem AreMembers.exists_first (derived : AreMembers input members) (nonempty : input ≠ []) :
    ∃ words member after others, input = words ++ after ∧ IsMember words member ∧
      AreMembers after others := by
  cases derived with
  | nil => contradiction
  | cons first rest => exact ⟨_, _, _, _, rfl, first, rest⟩

theorem IsMember.ne_nil {member : Member} (derived : IsMember words member) : words ≠ [] := by
  cases derived <;> exact List.cons_ne_nil _ _

/-- What comes after members that were read is read as members itself. -/
theorem AreMembers.of_append {others : List Member} (first : AreMembers words members)
    (spelled : ∀ lexeme ∈ words ++ other, lexeme.Spelled)
    (all : AreMembers (words ++ other) others) :
    ∃ rest, AreMembers other rest := by
  induction first generalizing others with
  | nil => exact ⟨others, all⟩
  | @cons words after member members first rest ih =>
      rw [List.append_assoc] at spelled all
      have nonempty : words ++ (after ++ other) ≠ [] :=
        List.append_ne_nil_of_left_ne_nil first.ne_nil _
      obtain ⟨words', member', after', others', same, first', rest'⟩ := all.exists_first nonempty
      have one := (reads_readMember spelled).mpr ⟨words, rfl, first⟩
      have two := (reads_readMember spelled).mpr ⟨words', same, first'⟩
      obtain ⟨-, rfl⟩ := one.unique two
      exact ih (List.forall_mem_append.mp spelled).2 rest'

/-- Members are read up to the one that is wrong. -/
theorem exists_of_error_readMembers (spelled : ∀ lexeme ∈ input, lexeme.Spelled)
    (fails : (readMembers input).outcome = .error fault) :
    ∃ words members behind, input = words ++ behind ∧ AreMembers words members ∧ behind ≠ [] ∧
      (readMember behind).outcome = .error fault := by
  induction input using readMembers.induct with
  | case1 =>
      rw [readMembers, if_pos rfl] at fails
      cases fails
  | case2 input nonempty ih =>
      rw [readMembers, if_neg nonempty] at fails
      rcases Logged.outcome_bind_eq_error.mp fails with
        here | ⟨⟨member, after, shorter⟩, first, fails⟩
      · exact ⟨[], [], input, rfl, .nil, nonempty, here⟩
      · have later := Logged.error_of_bind fails fun _ => ⟨_, rfl⟩
        obtain ⟨words, rfl, derived⟩ := (reads_readMember spelled).mp ⟨shorter, first⟩
        have spelledAfter := (List.forall_mem_append.mp spelled).2
        obtain ⟨more, members, behind, rfl, rest, someBehind, wrong⟩ :=
          ih after shorter spelledAfter later
        refine ⟨words ++ more, member :: members, behind, by simp, ?_, someBehind, wrong⟩
        exact .cons derived rest

/-- What is known of a part of a document is known of the document. -/
theorem exists_firstWrong {accepts : List Lexeme → List Lexeme → Prop}
    {exempt : List Lexeme → Prop} {behind : List Lexeme}
    (stops : CorrectPrefix accepts exempt words behind fault)
    (written : ∀ lexeme ∈ words ++ behind, lexeme.Written)
    (needs : ∀ other document, (∀ lexeme ∈ words ++ other, lexeme.Written) →
      nextKind other = nextKind behind → IsDocument (words ++ other) document →
      ∃ rest, accepts other rest)
    (closes : ∀ other, (∀ lexeme ∈ other, lexeme.Written) → accepts other [] →
      ∃ document, IsDocument (words ++ other) document)
    (exempted : ∀ taken, exempt taken → EndsInBody (words ++ taken)) :
    ∃ taken token, fault.Points [] (words ++ behind) taken token ∧ FirstWrong taken token := by
  obtain ⟨taken, token, points, blocks, continues⟩ := stops
  have sameTokens : words ++ taken ++ [token] <+: ended (words ++ behind) := by
    rw [List.append_assoc, append_prefix_ended]
    exact points.within
  refine ⟨words ++ taken, token, ⟨sameTokens, ?_, points.blames⟩, ?_, ?_⟩
  · have counted := points.counted
    rw [List.length_append, List.length_append]
    omega
  · intro other document writtenOther begun derived
    rw [List.append_assoc] at begun
    obtain ⟨after, rfl, begunAfter⟩ := exists_of_append_prefix_ended (by simp) begun
    have sameKind := nextKind_eq_of_prefixes (by simp) points.within begunAfter
    obtain ⟨rest, accepted⟩ := needs after document writtenOther sameKind derived
    exact blocks after rest begunAfter accepted
  · rcases continues with isExempt | ⟨more, continued, accepted⟩
    · exact .inl (exempted taken isExempt)
    · obtain ⟨after, rfl, -⟩ := exists_of_append_prefix_ended (by simp) points.within
      have writtenTaken := (List.forall_mem_append.mp (List.forall_mem_append.mp written).2).1
      have closed := accepted []
      rw [List.append_nil] at closed
      obtain ⟨document, derived⟩ :=
        closes (taken ++ more) (List.forall_mem_append.mpr ⟨writtenTaken, continued⟩) closed
      exact .inr ⟨more, document, continued, by simpa using derived⟩

/-- A document begins with its keyword and its name. -/
def IsHead (input rest : List Lexeme) : Prop :=
  ∃ name, input = word "interface" :: word name :: rest

theorem written_interface : (word "interface").Written :=
  written_word (isWord_of_all (by decide) (by decide))

theorem continues_isHead : Continues IsHead [] :=
  ⟨[word "interface", anyWord], by simp [written_interface], fun _ => ⟨_, rfl⟩⟩

theorem exists_firstWrong_of_head (written : ∀ lexeme ∈ input, lexeme.Written)
    (stops : CorrectPrefix IsHead (fun _ => False) [] input fault) :
    ∃ taken token, fault.Points [] input taken token ∧ FirstWrong taken token := by
  refine exists_firstWrong stops written ?_ ?_ (fun _ => False.elim)
  · rintro other document - - ⟨name, members⟩
    exact ⟨_, name, rfl⟩
  · rintro _ - ⟨name, rfl⟩
    exact ⟨_, .intro name .nil⟩

theorem AreMembers.concat {member : Member} {last : List Lexeme} (first : AreMembers words members)
    (derived : IsMember last member) : AreMembers (words ++ last) (members ++ [member]) := by
  induction first with
  | nil => simpa using AreMembers.cons derived .nil
  | cons first rest ih =>
      rw [List.append_assoc]
      exact .cons first ih

/-- A member that is wrong makes the document wrong at the same token. -/
theorem exists_firstWrong_of_member {name : String} {behind : List Lexeme}
    (written : ∀ lexeme ∈ word "interface" :: word name :: words ++ behind, lexeme.Written)
    (derived : AreMembers words members) (someBehind : behind ≠ [])
    (stops : CorrectPrefix (Accepts readMember) EndsInMember
      (word "interface" :: word name :: words) behind fault) :
    ∃ taken token, fault.Points [] (word "interface" :: word name :: words ++ behind) taken token ∧
      FirstWrong taken token := by
  have spelledWords := fun lexeme inside =>
    (written lexeme (List.mem_append_left _ inside)).spelled
  refine exists_firstWrong stops written ?_ ?_ ?_
  · intro other document writtenOther sameKind isDocument
    have spelled : ∀ lexeme ∈ words ++ other, lexeme.Spelled := fun lexeme inside =>
      (writtenOther lexeme (List.mem_cons_of_mem _ (List.mem_cons_of_mem _ inside))).spelled
    obtain ⟨_, all⟩ := isDocument
    obtain ⟨rest, others⟩ := derived.of_append spelled all
    have someOther : other ≠ [] := by
      rintro rfl
      obtain ⟨token, after, rfl⟩ := List.exists_cons_of_ne_nil someBehind
      exact (written token (by simp)).notEnd sameKind.symm
    obtain ⟨words, member, after, others, rfl, first, -⟩ := others.exists_first someOther
    have spelledOther := (List.forall_mem_append.mp spelled).2
    exact ⟨after, member, (reads_readMember spelledOther).mpr ⟨words, rfl, first⟩⟩
  · rintro other writtenOther ⟨member, read⟩
    have spelledOther := fun lexeme inside => (writtenOther lexeme inside).spelled
    obtain ⟨last, rfl, isMember⟩ := (reads_readMember spelledOther).mp read
    rw [List.append_nil]
    exact ⟨_, .intro name (derived.concat isMember)⟩
  · intro taken ending
    exact ⟨name, words, members, taken, rfl, derived, ending⟩

/-- A document is told to be wrong at the first token that no document goes on with. -/
theorem exists_firstWrong_of_readDocument (written : ∀ lexeme ∈ input, lexeme.Written)
    (notKind : ∀ site, fault.fault ≠ .unexpectedKind site)
    (fails : (readDocument input).outcome = .error fault) :
    ∃ taken token, fault.Points [] input taken token ∧ FirstWrong taken token := by
  rcases Logged.outcome_bind_eq_error.mp fails with
    noWord | ⟨⟨keyword, afterKeyword, shorter⟩, first, failsBehind⟩
  · obtain ⟨notWord, rfl⟩ := error_of_readWord noWord
    refine exists_firstWrong_of_head written (correctPrefix_unexpected ?_ continues_isHead)
    rintro _ left ⟨name, rfl⟩ same
    exact nextKind_ne notWord (by decide) same.symm
  · obtain rfl := reads_readWord.mp ⟨shorter, first⟩
    dsimp only at failsBehind
    split_ifs at failsBehind with isInterface
    · subst isInterface
      rcases Logged.outcome_bind_eq_error.mp failsBehind with
        noName | ⟨⟨name, afterName, shorter'⟩, second, failsMembers⟩
      · refine exists_firstWrong_of_head written ?_
        refine (correctPrefix_readWord noName (fun _ => False) _).last [word "interface"] ?_
          fun _ => False.elim
        intro other rest
        rw [accepts_readWord]
        simp [IsHead]
      · obtain rfl := reads_readWord.mp ⟨shorter', second⟩
        have inner := Logged.error_of_bind failsMembers fun _ => ⟨_, rfl⟩
        have spelled := fun lexeme inside => (written lexeme
          (List.mem_cons_of_mem _ (List.mem_cons_of_mem _ inside))).spelled
        obtain ⟨words, members, behind, rfl, derived, someBehind, wrong⟩ :=
          exists_of_error_readMembers spelled inner
        have spelledBehind := (List.forall_mem_append.mp spelled).2
        exact exists_firstWrong_of_member written derived someBehind
          (correctPrefix_readMember spelledBehind notKind wrong _)
    · obtain rfl := Except.error.inj failsBehind
      refine exists_firstWrong_of_head written
        (correctPrefix_here rfl (by simp [word]) ?_ continues_isHead)
      rintro other left ⟨name, same⟩
      cases same
      exact isInterface rfl

end Grammar

namespace Lexeme

variable {lexeme : Lexeme} {cs : List Char}

/-- The tokens of a text that carry meaning are tokens that can be written. -/
theorem written_of_mem_significant (inside : lexeme ∈ significant cs) : lexeme.Written := by
  have spelled := spelled_of_mem_significant inside
  obtain ⟨isLexeme, meaning⟩ := List.mem_filter.mp inside
  have nonempty := (divides_all cs).nonempty lexeme isLexeme
  exact ⟨spelled, by simpa using meaning, spelled.kind_ne_endOfInput nonempty⟩

/-- A blank behind a token ends it. -/
theorem significant_written (written : lexeme.Written) (rest : List Char) :
    significant (lexeme.text.toList ++ ' ' :: rest) = lexeme :: significant rest := by
  have blank : split (' ' :: rest) = (.whitespace, [' '], rest) := split_blank rfl rest
  have meaning := written.notTrivia
  have ends : Ends lexeme.kind lexeme.text.toList (' ' :: rest) := by
    unfold Ends
    split
    · rw [blank]
      exact nofun
    · rename_i isComment
      rw [isComment] at meaning
      cases meaning
    · exact nofun
    · trivial
  have first := split_of_ends written.spelled written.notEnd ends
  rw [significant_of_split (List.append_ne_nil_of_right_ne_nil _ (List.cons_ne_nil _ _)) first,
    if_neg (by rw [meaning]; exact nofun), significant_space, String.ofList_toList]

/-- Tokens that can be written are the tokens of some text. -/
theorem exists_source {words : List Lexeme} (written : ∀ lexeme ∈ words, lexeme.Written) :
    ∃ source : String, significant source.toList = words := by
  induction words with
  | nil => exact ⟨"", significant_nil⟩
  | cons lexeme words ih =>
      obtain ⟨here, written⟩ := List.forall_mem_cons.mp written
      obtain ⟨source, rfl⟩ := ih written
      refine ⟨lexeme.text ++ " " ++ source, ?_⟩
      rw [String.toList_append, String.toList_append, List.append_assoc]
      exact significant_written here source.toList

end Lexeme

namespace Token

/-- The locations of the significant tokens and of the end of a text. -/
def locations (source : String) : List Location :=
  (significant source ++ [atEnd source]).map fun token => .ofOffset source token.offset

theorem getElem?_locations {source : String} {index : Nat}
    (inside : index ≤ (significant source).length) :
    (locations source)[index]? = some (location source index) := by
  rw [locations, List.getElem?_map, location]
  rcases Nat.lt_or_eq_of_le inside with before | rfl
  · rw [List.getElem?_append_left before, List.getElem?_eq_getElem before]
    rfl
  · rw [List.getElem?_append_right le_rfl, List.getElem?_eq_none le_rfl, Nat.sub_self]
    rfl

theorem nodup_locations (source : String) : (locations source).Nodup := by
  have part : (significant source ++ [atEnd source]).Sublist (Cursor.start source).drain.1 := by
    rw [Cursor.drain_start]
    exact List.filter_sublist.append (List.Sublist.refl _)
  exact List.pairwise_map.mpr
    (((Location.pairwise_precedes source).sublist part).imp Location.Precedes.ne)

/-- Each significant token has a location of its own, and so has the end of the text. -/
theorem location_eq_iff {source : String} {first second : Nat}
    (inside : first ≤ (significant source).length)
    (inside' : second ≤ (significant source).length) :
    location source first = location source second ↔ first = second := by
  constructor
  · intro same
    have bound := (List.getElem?_eq_some_iff.mp (getElem?_locations inside)).1
    apply (List.getElem?_inj bound (nodup_locations source)).mp
    rw [getElem?_locations inside, getElem?_locations inside', same]
  · rintro rfl
    rfl

end Token

namespace Document

open Grammar Lexeme

/-- The tokens of a source that carry meaning, with the end of the input as the last of them. -/
def tokens (source : String) : List Lexeme :=
  ended ((Token.significant source).map (·.toLexeme))

/-- The token of a source that an error is about, and the tokens before it. -/
structure Offends (source : String) (error : SyntaxError) (taken : List Lexeme) (token : Lexeme) :
    Prop where
  begins : taken ++ [token] <+: tokens source
  located : ∀ index ≤ (Token.significant source).length,
    error.location = Token.location source index ↔ index + error.fault.lead = taken.length
  blames : error.fault.Blames taken token

/-- An error other than one about the kind of a type comes at the first wrong token: no accepted
source begins with the tokens up to it, and one begins with those before it, unless these end inside
the body of a method or an error. -/
theorem parse_stops_at_first_wrong_token {source : String} {error : SyntaxError}
    (rejected : (parse source).outcome = .error error)
    (notKind : ∀ site, error.fault ≠ .unexpectedKind site) :
    ∃ taken token, Offends source error taken token ∧
      (∀ accepted document, (parse accepted).outcome = .ok document →
        ¬ taken ++ [token] <+: tokens accepted) ∧
      (¬ EndsInBody taken → ∃ accepted document, (parse accepted).outcome = .ok document ∧
        taken <+: tokens accepted) := by
  rw [outcome_parse] at rejected
  obtain ⟨fault, fails, rfl⟩ := mapError_eq_error.mp rejected
  have written : ∀ lexeme ∈ (Token.significant source).map (·.toLexeme), lexeme.Written := by
    rw [Token.toLexeme_significant]
    exact fun _ => written_of_mem_significant
  obtain ⟨taken, token, points, firstWrong⟩ :=
    exists_firstWrong_of_readDocument written notKind fails
  refine ⟨taken, token, ⟨points.within, ?_, points.blames⟩, ?_, ?_⟩
  · intro index inside
    have counted := points.counted
    rw [List.length_map] at counted
    have located : (errorOf source (Token.significant source) fault).location =
        Token.location source ((Token.significant source).length - fault.left) :=
      ofOffset_offsetOf source fault.left
    rw [located, Token.location_eq_iff (Nat.sub_le _ _) inside]
    have lead := SyntaxFault.lead_le_of_blames points.blames
    show _ ↔ index + fault.fault.lead = taken.length
    rw [List.nil_append] at lead
    omega
  · intro accepted document parsed begun
    rw [outcome_parse_eq_ok_iff] at parsed
    rw [tokens, Token.toLexeme_significant] at begun
    exact firstWrong.wrong _ document (fun _ => written_of_mem_significant) begun parsed
  · intro outside
    obtain ⟨more, document, continued, derived⟩ := firstWrong.right.resolve_left outside
    obtain ⟨behind, whole, -⟩ := exists_of_append_prefix_ended (by simp) points.within
    rw [whole] at written
    obtain ⟨accepted, scanned⟩ := exists_source
      (List.forall_mem_append.mpr ⟨(List.forall_mem_append.mp written).1, continued⟩)
    refine ⟨accepted, document, ?_, ?_⟩
    · rw [outcome_parse_eq_ok_iff, scanned]
      exact derived
    · rw [tokens, Token.toLexeme_significant, scanned, ended, List.append_assoc]
      exact List.prefix_append _ _

/-- Tokens that end inside a type are not inside the body of a method or an error. -/
theorem not_endsInBody_of_typedef {name typedef : String} {begun : List Lexeme}
    (incomplete : ∀ words, words <+: begun → ∀ type, ¬ IsTypeWithin maxNesting words type) :
    ¬ EndsInBody (word "interface" :: word name :: word "type" :: word typedef :: begun) := by
  rintro ⟨_, _, members, ending, same, derived, opening, inside, rfl, isOpening, -⟩
  cases derived with
  | nil => cases isOpening <;> simp [word] at same
  | @cons _ after _ _ first rest =>
      cases first with
      | method => simp [word] at same
      | error => simp [word] at same
      | @typedef _ words type within =>
          obtain ⟨-, rfl⟩ : word typedef = word _ ∧
              begun = words ++ (after ++ (opening ++ inside)) := by
            simpa using (List.cons.inj (List.cons.inj same).2).2
          exact incomplete words (List.prefix_append _ _) type within

/-- The delimiter after a name shows that the name does not fit into its group. -/
theorem parse_stops_at_colon_in_enum :
    (parse "interface a type b (c, d: int)").outcome =
        .error ⟨.ambiguousGroup "d" .enum, ⟨1, 24⟩⟩ ∧
      (∀ site, SyntaxFault.ambiguousGroup "d" .enum ≠ .unexpectedKind site) ∧
      (∀ accepted document, (parse accepted).outcome = .ok document →
        ¬ [word "interface", word "a", word "type", word "b", groupStart, word "c", separator,
          word "d", colon] <+: tokens accepted) ∧
      ∃ accepted document, (parse accepted).outcome = .ok document ∧
        [word "interface", word "a", word "type", word "b", groupStart, word "c", separator,
          word "d"] <+: tokens accepted := by
  have rejected : (parse "interface a type b (c, d: int)").outcome =
      .error ⟨.ambiguousGroup "d" .enum, ⟨1, 24⟩⟩ := by
    cbv
  have notKind : ∀ site, SyntaxFault.ambiguousGroup "d" .enum ≠ .unexpectedKind site := by simp
  obtain ⟨taken, token, offends, wrong, right⟩ :=
    parse_stops_at_first_wrong_token rejected notKind
  have read : tokens "interface a type b (c, d: int)" = [word "interface", word "a", word "type",
      word "b", groupStart, word "c", separator, word "d", colon, word "int", groupEnd,
      endOfInput] := by
    decide +kernel
  have length : 7 + 1 = taken.length :=
    (offends.located 7 (by decide +kernel)).mp (by decide +kernel)
  have whole : taken ++ [token] = [word "interface", word "a", word "type", word "b", groupStart,
      word "c", separator, word "d"] ++ [colon] := by
    rw [List.prefix_iff_eq_take.mp offends.begins, read, List.length_append, ← length]
    rfl
  obtain ⟨rfl, last⟩ := List.append_inj' whole rfl
  obtain rfl := List.singleton_inj.mp last
  refine ⟨rejected, notKind, wrong, right ?_⟩
  refine not_endsInBody_of_typedef fun words part type within => ?_
  obtain ⟨after, covered⟩ := part
  obtain ⟨_, accepted⟩ := Reader.readType_complete within.derived within.depth_le after
  have fails : ∃ fault, (Reader.readType maxNesting
      [groupStart, word "c", separator, word "d"]).outcome = .error fault := ⟨_, rfl⟩
  obtain ⟨fault, fails⟩ := fails
  rw [← covered, accepted] at fails
  cases fails

end Document

end Varlink
