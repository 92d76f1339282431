import Varlink.Proofs.Document.Stopping

/-!
# Types stop where they can

Within a group the reader looks at the next token at few places: where a member is due, after the
name of a member and after the type of a field. At each of them the kinds that can come next are
those that something accepted goes on with. What follows the first name commits a group to fields or
to names, so from there on the other kind of member blocks it.

The levels count down, and at the last one a plain word is still a type. So the group or modifier
that no level is left for is the first token at which the nesting shows to be too deep: without it,
the types around it can still be closed.
-/

namespace Varlink

namespace Reader

open Grammar Lexeme

variable {α : Type} {input rest : List Lexeme}

section Groups

variable {readInner : (input : List Lexeme) → Reading (TypeExpr String) input} {name : String}
  {fault : Fault}

theorem accepts_readNames : Accepts (readNames name) input rest ↔
    (∃ text, input = ⟨.groupEnd, text⟩ :: rest) ∨
      ∃ text next after, input = ⟨.separator, text⟩ :: word next :: after ∧
        Accepts (readNames next) after rest := by
  constructor
  · rintro ⟨names, read⟩
    unfold readNames at read
    split at read
    · rename_i text after
      obtain ⟨-, rfl⟩ : [name] = names ∧ after = rest := reads_pure.mp read
      exact .inl ⟨text, rfl⟩
    · rename_i text next after
      obtain ⟨⟨more, left, shorter⟩, first, read⟩ := reads_bind.mp read
      obtain ⟨-, rfl⟩ : name :: more = names ∧ left = rest := reads_pure.mp read
      exact .inr ⟨text, next, after, rfl, more, shorter, first⟩
    · exact absurd read reads_unexpected
    · exact absurd read reads_fail
    · exact absurd read reads_unexpected
  · rintro (⟨text, rfl⟩ | ⟨text, next, after, rfl, more, shorter, read⟩)
    · exact ⟨[name], reads_pure.mpr ⟨rfl, rfl⟩⟩
    · exact ⟨name :: more, reads_bind.mpr ⟨_, read, reads_pure.mpr ⟨rfl, rfl⟩⟩⟩

theorem nextKind_of_accepts_readNames (accepted : Accepts (readNames name) input rest) :
    nextKind input = .groupEnd ∨ nextKind input = .separator := by
  rcases accepts_readNames.mp accepted with ⟨_, rfl⟩ | ⟨_, _, _, rfl, -⟩
  · exact .inl rfl
  · exact .inr rfl

theorem continues_readNames : Continues (Accepts (readNames name)) [] :=
  ⟨[groupEnd], by simp, fun _ => accepts_readNames.mpr (.inl ⟨_, rfl⟩)⟩

theorem correctPrefix_readNames (fails : (readNames name input).outcome = .error fault)
    (before : List Lexeme) :
    CorrectPrefix (Accepts (readNames name)) (fun _ => False) (before ++ [word name]) input
      fault := by
  fun_induction readNames name input generalizing before with
  | case1 name text after => cases fails
  | case2 name text next after ih =>
      have inner := Logged.error_of_bind fails fun _ => ⟨_, rfl⟩
      have stops := ih inner (before ++ [word name, ⟨.separator, text⟩])
      refine CorrectPrefix.last [⟨.separator, text⟩, word next] (by simpa using stops) ?_
        fun _ => id
      intro other rest
      rw [accepts_readNames]
      simp [word]
  | case3 name text after notWord =>
      obtain rfl := outcome_unexpected.mp fails
      refine (correctPrefix_notWord notWord (fun _ => False) _).after
        [⟨.separator, text⟩] [groupEnd] ?_ (by simp) ?_ fun _ => id
      · intro other rest _ accepted
        rcases accepts_readNames.mp accepted with ⟨_, same⟩ | ⟨_, next, behind, same, _⟩
        · cases same
        · cases same
          exact ⟨behind, accepts_readWord.mpr ⟨next, rfl⟩⟩
      · intro other rest accepted
        obtain ⟨next, rfl⟩ := accepts_readWord.mp accepted
        have closed : Accepts (readNames next) (groupEnd :: rest) rest :=
          accepts_readNames.mpr (.inl ⟨_, rfl⟩)
        exact accepts_readNames.mpr (.inr ⟨text, next, _, rfl, closed⟩)
  | case4 name text after =>
      obtain rfl : ⟨.ambiguousGroup name .enum, _⟩ = fault := Except.error.inj fails
      refine correctPrefix_here (by simp [SyntaxFault.Blames]) (by simp) ?_ continues_readNames
      intro other left accepted
      rcases nextKind_of_accepts_readNames accepted with kind | kind <;> cases kind
  | case5 name input notEnd notMore notSeparator notColon =>
      obtain rfl := outcome_unexpected.mp fails
      exact correctPrefix_neither nextKind_of_accepts_readNames (nextKind_ne notEnd (by decide))
        (nextKind_ne notSeparator (by decide)) continues_readNames

/-- What can come after a field: the end of the group, or a separator and the next field. -/
inductive FieldEnd (readInner : (input : List Lexeme) → Reading (TypeExpr String) input) :
    List Lexeme → List Lexeme → Prop
  | last (text : String) (rest : List Lexeme) :
      FieldEnd readInner (⟨.groupEnd, text⟩ :: rest) rest
  | next (text name : String) {after rest : List Lexeme}
      (more : Accepts (readFields readInner name) after rest) :
      FieldEnd readInner (⟨.separator, text⟩ :: word name :: after) rest

theorem accepts_readFields {text : String} {after : List Lexeme} :
    Accepts (readFields readInner name) (⟨.colon, text⟩ :: after) rest ↔
      ∃ left, Accepts readInner after left ∧ FieldEnd readInner left rest := by
  constructor
  · rintro ⟨fields, read⟩
    rw [readFields] at read
    obtain ⟨⟨type, left, shorter⟩, first, read⟩ := reads_bind.mp read
    refine ⟨left, ⟨type, shorter, first⟩, ?_⟩
    dsimp only at read
    split at read
    · obtain ⟨-, rfl⟩ := reads_pure.mp read
      exact .last _ _
    · obtain ⟨⟨more, behind, shorter'⟩, second, read⟩ := reads_bind.mp read
      obtain ⟨-, rfl⟩ := reads_pure.mp read
      exact .next _ _ ⟨more, shorter', second⟩
    · exact absurd read reads_unexpected
    · exact absurd read reads_unexpected
  · rintro ⟨left, ⟨type, shorter, first⟩, ending⟩
    rw [Accepts, readFields]
    cases ending with
    | last text => exact ⟨_, reads_bind.mpr ⟨_, first, reads_pure.mpr ⟨rfl, rfl⟩⟩⟩
    | next text next more =>
        obtain ⟨more, shorter', second⟩ := more
        exact ⟨_, reads_bind.mpr ⟨_, first, reads_bind.mpr ⟨_, second, reads_pure.mpr ⟨rfl, rfl⟩⟩⟩⟩

theorem nextKind_of_accepts_readFields (accepted : Accepts (readFields readInner name) input rest) :
    nextKind input = .colon := by
  obtain ⟨fields, read⟩ := accepted
  unfold readFields at read
  split at read
  · rfl
  · exact absurd read reads_fail
  · exact absurd read reads_fail
  · exact absurd read reads_unexpected

/-- The rest of a group of fields can be written behind any name. -/
theorem exists_fields (starts : Continues (Accepts readInner) []) :
    ∃ closing, (∀ lexeme ∈ closing, lexeme.Written) ∧
      ∀ name rest, Accepts (readFields readInner name) (closing ++ rest) rest := by
  obtain ⟨type, written, accepted⟩ := starts
  refine ⟨colon :: (type ++ [groupEnd]), ?_, fun name rest => ?_⟩
  · exact List.forall_mem_cons.mpr ⟨written_colon, List.forall_mem_append.mpr ⟨written, by simp⟩⟩
  · refine accepts_readFields.mpr ⟨groupEnd :: rest, ?_, .last _ _⟩
    show Accepts readInner (type ++ [groupEnd] ++ rest) (groupEnd :: rest)
    rw [List.append_assoc]
    exact accepted (groupEnd :: rest)

theorem continues_readFields (starts : Continues (Accepts readInner) []) :
    Continues (Accepts (readFields readInner name)) [] := by
  obtain ⟨closing, written, accepted⟩ := exists_fields starts
  exact ⟨closing, written, accepted name⟩

/-- In a group of fields no name goes without a type. -/
theorem correctPrefix_ambiguous_struct {token : Lexeme}
    (kind : token.kind = .separator ∨ token.kind = .groupEnd)
    (starts : Continues (Accepts readInner) []) (before : List Lexeme) :
    CorrectPrefix (Accepts (readFields readInner name)) (fun _ => False) (before ++ [word name])
      (token :: input) ⟨.ambiguousGroup name .struct, (token :: input).length + 1⟩ := by
  refine correctPrefix_here ⟨by simp, kind⟩ ?_ ?_ (continues_readFields starts)
  · rcases kind with kind | kind <;> simp [kind]
  · intro other left accepted
    have isColon : token.kind = .colon := nextKind_of_accepts_readFields accepted
    rcases kind with kind | kind <;> cases kind.symm.trans isColon

theorem correctPrefix_fieldEnd_next {text : String} (before : List Lexeme)
    (stops : ∀ before, CorrectPrefix (Accepts (readFields readInner name)) (fun _ => False)
      (before ++ [word name]) input fault) :
    CorrectPrefix (FieldEnd readInner) (fun _ => False) before
      (⟨.separator, text⟩ :: word name :: input) fault := by
  have behind := stops (before ++ [⟨.separator, text⟩])
  rw [List.append_assoc] at behind
  refine behind.last [⟨.separator, text⟩, word name] ?_ fun _ => id
  intro other rest
  constructor
  · rintro (_ | ⟨_, _, more⟩)
    exact more
  · exact .next text name

/-- After a separator there has to be the name of the next field. -/
theorem correctPrefix_fieldEnd_notWord {text : String}
    (starts : Continues (Accepts readInner) [])
    (notWord : ∀ text after, input = word text :: after → False) (before : List Lexeme) :
    CorrectPrefix (FieldEnd readInner) (fun _ => False) before (⟨.separator, text⟩ :: input)
      ⟨.unexpectedToken [.word] (nextKind input), input.length⟩ := by
  obtain ⟨closing, written, accepted⟩ := exists_fields starts
  refine (correctPrefix_notWord notWord (fun _ => False) _).after [⟨.separator, text⟩] closing ?_
    written ?_ fun _ => id
  · rintro other rest - (_ | ⟨_, next, more⟩)
    exact ⟨_, accepts_readWord.mpr ⟨next, rfl⟩⟩
  · intro other rest isWord
    obtain ⟨next, rfl⟩ := accepts_readWord.mp isWord
    exact .next text next (accepted next rest)

/-- After a field there has to be a separator or the end of the group. -/
theorem correctPrefix_fieldEnd_unexpected
    (notEnd : ∀ text after, input = ⟨.groupEnd, text⟩ :: after → False)
    (notSeparator : ∀ text after, input = ⟨.separator, text⟩ :: after → False)
    (before : List Lexeme) :
    CorrectPrefix (FieldEnd readInner) (fun _ => False) before input
      ⟨.unexpectedToken [.separator, .groupEnd] (nextKind input), input.length⟩ := by
  refine correctPrefix_unexpected ?_ ⟨[groupEnd], by simp, fun rest => .last _ rest⟩
  intro other left accepted same
  cases accepted with
  | last text rest => exact nextKind_ne notEnd (by decide) same.symm
  | next text next more => exact nextKind_ne notSeparator (by decide) same.symm

theorem correctPrefix_readFields (prompt : Prompt readInner)
    (spelled : ∀ lexeme ∈ input, lexeme.Spelled)
    (fails : (readFields readInner name input).outcome = .error fault) (before : List Lexeme) :
    CorrectPrefix (Accepts (readFields readInner name)) (fun _ => False) (before ++ [word name])
      input fault := by
  fun_induction readFields readInner name input generalizing before with
  | case1 name text after ih =>
      have spelledAfter := (List.forall_mem_cons.mp spelled).2
      rcases Logged.outcome_bind_eq_error.mp fails with fails | ⟨⟨type, left, shorter⟩, first, fails⟩
      · refine (prompt.stops spelledAfter fails _).after [⟨.colon, text⟩] [groupEnd] ?_ (by simp) ?_
          fun _ => id
        · intro other rest _ accepted
          obtain ⟨left, inner, -⟩ := accepts_readFields.mp accepted
          exact ⟨left, inner⟩
        · intro other rest inner
          exact accepts_readFields.mpr ⟨_, inner, .last _ _⟩
      · obtain ⟨words, rfl, takes⟩ := prompt.takes spelledAfter ⟨shorter, first⟩
        have spelledLeft := (List.forall_mem_append.mp spelledAfter).2
        have ending : CorrectPrefix (FieldEnd readInner) (fun _ => False)
            (before ++ [word name] ++ ⟨.colon, text⟩ :: words) left fault := by
          dsimp only at fails
          split at fails
          · cases fails
          · have spelledNext := (List.forall_mem_cons.mp spelledLeft).2
            have inner := Logged.error_of_bind fails fun _ => ⟨_, rfl⟩
            exact correctPrefix_fieldEnd_next _
              (ih _ _ _ shorter (List.forall_mem_cons.mp spelledNext).2 inner)
          · rename_i comma behind _ notMore
            obtain rfl := outcome_unexpected.mp fails
            refine correctPrefix_fieldEnd_notWord prompt.starts ?_ _
            rintro next after rfl
            exact notMore next after shorter rfl HEq.rfl
          · rename_i notEnd notMore notSeparator
            obtain rfl := outcome_unexpected.mp fails
            refine correctPrefix_fieldEnd_unexpected ?_ ?_ _
            · rintro ending after rfl
              exact notEnd ending after shorter rfl HEq.rfl
            · rintro comma after rfl
              exact notSeparator comma after shorter rfl HEq.rfl
        refine ending.last (⟨.colon, text⟩ :: words) ?_ fun _ => id
        intro other rest
        rw [List.cons_append, accepts_readFields]
        simp only [takes other, exists_eq_left]
  | case2 name text after =>
      obtain rfl : ⟨.ambiguousGroup name .struct, _⟩ = fault := Except.error.inj fails
      exact correctPrefix_ambiguous_struct (.inl rfl) prompt.starts before
  | case3 name text after =>
      obtain rfl : ⟨.ambiguousGroup name .struct, _⟩ = fault := Except.error.inj fails
      exact correctPrefix_ambiguous_struct (.inr rfl) prompt.starts before
  | case4 name input notColon notSeparator notEnd =>
      obtain rfl := outcome_unexpected.mp fails
      refine correctPrefix_unexpected ?_ (continues_readFields prompt.starts)
      intro other left accepted same
      exact nextKind_ne notColon (by decide)
        (same.symm.trans (nextKind_of_accepts_readFields accepted))

theorem nextKind_of_accepts_readGroup (accepted : Accepts (readGroup readInner) input rest) :
    nextKind input = .groupEnd ∨ nextKind input = .word := by
  obtain ⟨type, read⟩ := accepted
  unfold readGroup at read
  split at read
  · exact .inl rfl
  · exact .inr rfl
  · exact absurd read reads_unexpected

/-- A colon after the first name makes the group one of fields. -/
theorem accepts_readGroup_fields (isColon : nextKind input = .colon) :
    Accepts (readGroup readInner) (word name :: input) rest ↔
      Accepts (readFields readInner name) input rest := by
  simp only [Accepts, readGroup, word, isColon]
  constructor
  · rintro ⟨type, read⟩
    obtain ⟨⟨fields, left, shorter⟩, first, read⟩ := reads_bind.mp read
    obtain ⟨-, rfl⟩ := reads_pure.mp (reads_note.mp read)
    exact ⟨fields, shorter, first⟩
  · rintro ⟨fields, shorter, first⟩
    exact ⟨_, reads_bind.mpr ⟨_, first, reads_note.mpr (reads_pure.mpr ⟨rfl, rfl⟩)⟩⟩

/-- Anything else after the first name makes the group one of names. -/
theorem accepts_readGroup_names (notColon : nextKind input ≠ .colon) :
    Accepts (readGroup readInner) (word name :: input) rest ↔
      Accepts (readNames name) input rest := by
  simp only [Accepts, readGroup, word]
  constructor
  · rintro ⟨type, read⟩
    obtain ⟨⟨names, left, shorter⟩, first, read⟩ := reads_bind.mp read
    obtain ⟨-, rfl⟩ := reads_pure.mp (reads_note.mp read)
    exact ⟨names, shorter, first⟩
  · rintro ⟨names, shorter, first⟩
    exact ⟨_, reads_bind.mpr ⟨_, first, reads_note.mpr (reads_pure.mpr ⟨rfl, rfl⟩)⟩⟩

theorem continues_readGroup : Continues (Accepts (readGroup readInner)) [] :=
  ⟨[groupEnd], by simp, fun _ => ⟨_, reads_pure.mpr ⟨rfl, rfl⟩⟩⟩

theorem correctPrefix_readGroup (prompt : Prompt readInner)
    (spelled : ∀ lexeme ∈ input, lexeme.Spelled)
    (fails : (readGroup readInner input).outcome = .error fault) (before : List Lexeme) :
    CorrectPrefix (Accepts (readGroup readInner)) (fun _ => False) before input fault := by
  unfold readGroup at fails
  split at fails
  · cases fails
  · rename_i name after
    have spelledAfter := (List.forall_mem_cons.mp spelled).2
    -- Only inputs that go on with the same kind of token are committed to the same kind of group.
    split at fails
    · rename_i isColon
      have inner := Logged.error_of_bind fails fun _ => ⟨_, rfl⟩
      refine (correctPrefix_readFields prompt spelledAfter inner before).after [word name] [] ?_
        (by simp) ?_ fun _ => id
      · intro other rest sameKind accepted
        exact ⟨rest, (accepts_readGroup_fields (sameKind.trans isColon)).mp accepted⟩
      · intro other rest fields
        exact (accepts_readGroup_fields (nextKind_of_accepts_readFields fields)).mpr fields
    · rename_i notColon
      have inner := Logged.error_of_bind fails fun _ => ⟨_, rfl⟩
      refine (correctPrefix_readNames inner before).after [word name] [] ?_ (by simp) ?_
        fun _ => id
      · intro other rest sameKind accepted
        refine ⟨rest, (accepts_readGroup_names ?_).mp accepted⟩
        rwa [sameKind]
      · intro other rest names
        refine (accepts_readGroup_names fun isColon => ?_).mpr names
        rcases nextKind_of_accepts_readNames names with kind | kind <;>
          cases kind.symm.trans isColon
  · rename_i notEnd notWord
    obtain rfl := outcome_unexpected.mp fails
    exact correctPrefix_neither nextKind_of_accepts_readGroup (nextKind_ne notEnd (by decide))
      (nextKind_ne notWord (by decide)) continues_readGroup

end Groups

section Types

variable {levels : Nat} {text : String} {fault : Fault}

theorem accepts_readType_group :
    Accepts (readType (levels + 1)) (⟨.groupStart, text⟩ :: input) rest ↔
      Accepts (readGroup (readType levels)) input rest :=
  exists_congr fun _ => reads_readType_group

theorem accepts_readType_modifier {modifier : Modifier}
    (taken : Modifier.ofWord? text = some (modifier, "")) :
    Accepts (readType (levels + 1)) (word text :: input) rest ↔
      Accepts (readType levels) input rest := by
  constructor
  · rintro ⟨_, read⟩
    obtain ⟨type, -, inner⟩ := (reads_readType_modifier taken).mp read
    exact ⟨type, inner⟩
  · rintro ⟨type, inner⟩
    exact ⟨_, (reads_readType_modifier taken).mpr ⟨type, rfl, inner⟩⟩

theorem accepts_readType_glued {modifier : Modifier} {remainder : String}
    (taken : Modifier.ofWord? text = some (modifier, remainder)) (nonempty : remainder ≠ "") :
    Accepts (readType (levels + 1)) (word text :: input) rest ↔
      Accepts (readType levels) (word remainder :: input) rest := by
  constructor
  · rintro ⟨_, read⟩
    obtain ⟨type, -, inner⟩ := (reads_readType_glued taken nonempty).mp read
    exact ⟨type, inner⟩
  · rintro ⟨type, inner⟩
    exact ⟨_, (reads_readType_glued taken nonempty).mpr ⟨type, rfl, inner⟩⟩

theorem accepts_readType_anyWord (levels : Nat) (rest : List Lexeme) :
    Accepts (readType levels) (anyWord :: rest) rest :=
  ⟨_, (reads_readType_bare (by decide)).mpr ⟨rfl, rfl⟩⟩

theorem continues_readType (levels : Nat) : Continues (Accepts (readType levels)) [] :=
  ⟨[anyWord], by simp, accepts_readType_anyWord levels⟩

/-- Reading never fails at a word without modifiers. -/
theorem exists_modifier_of_fails
    (fails : (readType levels (word text :: input)).outcome = .error fault) :
    ∃ modifier remainder, Modifier.ofWord? text = some (modifier, remainder) := by
  cases taken : Modifier.ofWord? text with
  | none => cases levels <;> simp [word, readType, taken] at fails
  | some found => exact ⟨found.1, found.2, rfl⟩

/-- A word at which reading fails has too many modifiers, or it is nothing but modifiers and what
comes next is read with fewer levels. -/
theorem error_of_readType_word
    (fails : (readType levels (word text :: input)).outcome = .error fault) :
    (fault = ⟨.nestingTooDeep, input.length + 1⟩ ∧
      (∃ (modifier : Modifier) (remainder : String), text = modifier.spelling ++ remainder) ∧
      ∀ other rest, ¬ Accepts (readType levels) (word text :: other) rest) ∨
    ∃ fewer < levels, (readType fewer input).outcome = .error fault ∧
      ∀ other rest, Accepts (readType levels) (word text :: other) rest ↔
        Accepts (readType fewer) other rest := by
  induction levels generalizing text with
  | zero =>
      obtain ⟨modifier, remainder, taken⟩ := exists_modifier_of_fails fails
      have spelled := Modifier.ofWord?_eq_some_iff.mp taken
      refine .inl ⟨?_, ⟨modifier, remainder, spelled⟩, ?_⟩
      · rw [word, readType.eq_3, taken] at fails
        exact (Except.error.inj fails).symm
      · rintro other rest ⟨_, read⟩
        rw [word, readType.eq_3, taken] at read
        exact reads_fail read
  | succ levels ih =>
      obtain ⟨modifier, remainder, taken⟩ := exists_modifier_of_fails fails
      have spelled := Modifier.ofWord?_eq_some_iff.mp taken
      rw [word, readType.eq_3, taken] at fails
      by_cases nothing : remainder = ""
      · subst nothing
        have inner := Logged.error_of_bind fails fun _ => ⟨_, rfl⟩
        exact .inr ⟨levels, Nat.lt_succ_self _, inner,
          fun other rest => accepts_readType_modifier taken⟩
      · simp only [if_neg nothing] at fails
        have inner := Logged.error_of_bind fails fun _ => ⟨_, rfl⟩
        rcases ih inner with ⟨rfl, -, never⟩ | ⟨fewer, bound, behind, same⟩
        · refine .inl ⟨rfl, ⟨modifier, remainder, spelled⟩, fun other rest accepted => ?_⟩
          exact never other rest ((accepts_readType_glued taken nothing).mp accepted)
        · refine .inr ⟨fewer, Nat.lt_succ_of_lt bound, behind, fun other rest => ?_⟩
          exact (accepts_readType_glued taken nothing).trans (same other rest)

theorem nextKind_of_accepts_readType (accepted : Accepts (readType levels) input rest) :
    nextKind input = .groupStart ∨ nextKind input = .word := by
  obtain ⟨type, read⟩ := accepted
  unfold readType at read
  split at read
  · exact .inl rfl
  · exact .inr rfl
  · exact absurd read reads_unexpected

theorem correctPrefix_readType_group (prompt : ∀ fewer < levels, Prompt (readType fewer))
    (spelled : ∀ lexeme ∈ input, lexeme.Spelled)
    (fails : (readType levels (⟨.groupStart, text⟩ :: input)).outcome = .error fault)
    (before : List Lexeme) :
    CorrectPrefix (Accepts (readType levels)) (fun _ => False) before
      (⟨.groupStart, text⟩ :: input) fault := by
  cases levels with
  | zero =>
      obtain rfl : ⟨.nestingTooDeep, input.length + 1⟩ = fault := Except.error.inj fails
      refine correctPrefix_here (.inl rfl) (by simp) ?_ (continues_readType 0)
      rintro other left ⟨_, read⟩
      exact reads_fail read
  | succ levels =>
      rw [readType.eq_2] at fails
      have inner := Logged.error_of_bind fails fun _ => ⟨_, rfl⟩
      exact (correctPrefix_readGroup (prompt levels (Nat.lt_succ_self _)) spelled inner _).last
        [⟨.groupStart, text⟩] (fun other rest => accepts_readType_group) fun _ => id

/-- A type is told to be wrong at the first token that no type continues with. -/
theorem prompt_readType (levels : Nat) : Prompt (readType levels) := by
  induction levels using Nat.strongRecOn with
  | ind levels ih =>
      refine ⟨continues_readType levels, ?_, ?_⟩
      · intro input rest type spelled read
        obtain ⟨words, rfl, derived⟩ := (reads_readType spelled).mp read
        exact ⟨words, rfl, takes_of_reads (readType_complete derived.derived derived.depth_le)⟩
      · intro input fault spelled fails before
        by_cases isGroup : ∃ opening after, input = ⟨.groupStart, opening⟩ :: after
        · obtain ⟨opening, after, rfl⟩ := isGroup
          exact correctPrefix_readType_group ih (List.forall_mem_cons.mp spelled).2 fails before
        · by_cases isWord : ∃ text after, input = word text :: after
          · obtain ⟨text, after, rfl⟩ := isWord
            have spelledAfter := (List.forall_mem_cons.mp spelled).2
            rcases error_of_readType_word fails with
              ⟨rfl, modified, never⟩ | ⟨fewer, few, fails, same⟩
            · obtain ⟨modifier, remainder, rfl⟩ := modified
              exact correctPrefix_here (.inr ⟨modifier, remainder, rfl⟩) (by simp [word]) never
                (continues_readType levels)
            · exact ((ih fewer few).stops spelledAfter fails _).last [word text] same fun _ => id
          · have notGroup : ∀ opening after, input = ⟨.groupStart, opening⟩ :: after → False :=
              fun opening after same => isGroup ⟨opening, after, same⟩
            have notWord : ∀ text after, input = ⟨.word, text⟩ :: after → False :=
              fun text after same => isWord ⟨text, after, same⟩
            rw [readType.eq_4 _ _ notGroup notWord] at fails
            obtain rfl := outcome_unexpected.mp fails
            exact correctPrefix_neither nextKind_of_accepts_readType
              (nextKind_ne notGroup (by decide)) (nextKind_ne notWord (by decide))
              (continues_readType levels)

end Types

end Reader

end Varlink
