import Varlink.Proofs.Document.Writable

/-!
# Documents that are nested too deeply

The text of a document is read as this document if its types are not too deep, and if one of them
is, then reading ends in the fault for this: there is nothing else in the way. The types before the
first one that is too deep are read as they were written, so the reader comes to it, and within it
to the group or modifier that no level is left for.
-/

namespace Varlink

namespace Reader

open Grammar Lexeme

variable {α β : Type} {words rest : List Lexeme} {type : TypeExpr String} {levels : Nat}

/-- Reading ends at a group or modifier that is too deep. -/
def Rejects (reading : Logged Step Fault α) : Prop :=
  ∃ left, reading.outcome = .error ⟨.nestingTooDeep, left⟩

theorem rejects_fail (left : Nat) :
    Rejects (.fail ⟨.nestingTooDeep, left⟩ : Logged Step Fault α) := ⟨left, rfl⟩

theorem Rejects.bind {x : Logged Step Fault α} (rejects : Rejects x)
    (f : α → Logged Step Fault β) : Rejects (x >>= f) := by
  obtain ⟨left, outcome⟩ := rejects
  refine ⟨left, ?_⟩
  rw [Logged.outcome_bind, outcome]
  rfl

/-- What is read before does not keep the reader from what is too deep. -/
theorem rejects_bind_of_ok {x : Logged Step Fault α} {f : α → Logged Step Fault β} {value : α}
    (reads : x.outcome = .ok value) (rejects : Rejects (f value)) : Rejects (x >>= f) := by
  obtain ⟨left, outcome⟩ := rejects
  refine ⟨left, ?_⟩
  rw [Logged.outcome_bind, reads]
  exact outcome

theorem Reads.not_rejects {input : List Lexeme} {reading : Reading α input} {value : α}
    (reads : Reads reading value rest) : ¬ Rejects reading := by
  rintro ⟨left, outcome⟩
  obtain ⟨shorter, read⟩ := reads
  rw [read] at outcome
  cases outcome

/-- A group of fields is rejected if the type of a field is and those before it are read. -/
theorem rejects_readFields {readInner : (input : List Lexeme) → Reading (TypeExpr String) input}
    {first : FieldPhrase} {phrases : List FieldPhrase}
    (each : ∀ phrase ∈ first :: phrases,
      (∀ rest, Reads (readInner (phrase.words ++ rest)) phrase.type rest) ∨
        ∀ rest, Rejects (readInner (phrase.words ++ rest)))
    (deep : ∃ phrase ∈ first :: phrases, ∀ rest, Rejects (readInner (phrase.words ++ rest))) :
    Rejects (readFields readInner first.name
      (colon :: first.words ++ closing rest (phrases.map FieldPhrase.tokens))) := by
  induction phrases generalizing first with
  | nil =>
      obtain ⟨phrase, inside, rejects⟩ := deep
      obtain rfl := List.mem_singleton.mp inside
      rw [List.cons_append, colon, readFields]
      exact (rejects _).bind _
  | cons second phrases ih =>
      obtain ⟨here, others⟩ := List.forall_mem_cons.mp each
      rw [List.cons_append, colon, readFields]
      rcases here with reads | rejects
      · have later : ∃ phrase ∈ second :: phrases,
            ∀ rest, Rejects (readInner (phrase.words ++ rest)) := by
          obtain ⟨phrase, inside, rejects⟩ := deep
          rcases List.mem_cons.mp inside with rfl | inside
          · exact absurd (rejects []) (reads []).not_rejects
          · exact ⟨phrase, inside, rejects⟩
        obtain ⟨shorter, read⟩ := reads (closing rest ((second :: phrases).map FieldPhrase.tokens))
        exact rejects_bind_of_ok read ((ih others later).bind _)
      · exact (rejects _).bind _

theorem rejects_readType_group {opening : String} {after : List Lexeme}
    (rejects : Rejects (readGroup (readType levels) after)) :
    Rejects (readType (levels + 1) (⟨.groupStart, opening⟩ :: after)) := by
  rw [readType.eq_2]
  exact rejects.bind _

/-- A modifier is rejected if no level is left for it, or none for what it applies to. -/
theorem rejects_readType_modifier {text remainder : String} {modifier : Modifier}
    {after : List Lexeme} (taken : Modifier.ofWord? text = some (modifier, remainder))
    (inner : ∀ left, levels = left + 1 → Rejects (readType left
      (if remainder = "" then after else ⟨.word, remainder⟩ :: after))) :
    Rejects (readType levels (⟨.word, text⟩ :: after)) := by
  rw [readType.eq_3, taken]
  cases levels with
  | zero => exact rejects_fail _
  | succ left =>
      have rejects := inner left rfl
      by_cases empty : remainder = ""
      · rw [if_pos empty] at rejects
        simp only [if_pos empty]
        exact rejects.bind _
      · rw [if_neg empty] at rejects
        simp only [if_neg empty]
        exact rejects.bind _

/-- A run of modifiers is rejected if there are not levels for all of them, or none for what it
applies to. -/
theorem rejects_run_append (modifiers : List Modifier) {base : String} {after : List Lexeme}
    (nonempty : base ≠ "") (inner : ∀ left, levels = modifiers.length + left →
      Rejects (readType left (word base :: after))) :
    Rejects (readType levels (word (Modifier.run modifiers ++ base) :: after)) := by
  induction modifiers generalizing levels with
  | nil =>
      rw [Modifier.run_nil, String.empty_append]
      exact inner levels (Nat.zero_add _).symm
  | cons modifier modifiers ih =>
      refine rejects_readType_modifier (Modifier.ofWord?_run_append modifier modifiers base) ?_
      rintro left rfl
      rw [if_neg (Modifier.run_append_ne_empty modifiers nonempty)]
      refine ih fun least enough => inner least ?_
      rw [enough, List.length_cons, Nat.add_right_comm]

/-- A run of modifiers that is a word of its own is rejected likewise. -/
theorem rejects_run {modifiers : List Modifier} {after : List Lexeme} (nonempty : modifiers ≠ [])
    (inner : ∀ left, levels = modifiers.length + left → Rejects (readType left after)) :
    Rejects (readType levels (word (Modifier.run modifiers) :: after)) := by
  rcases List.eq_nil_or_concat modifiers with rfl | ⟨before, last, rfl⟩
  · contradiction
  · rw [List.concat_eq_append, Modifier.run_append, Modifier.run_cons, Modifier.run_nil,
      String.append_empty]
    refine rejects_run_append before last.spelling_ne_empty fun left enough => ?_
    refine rejects_readType_modifier last.ofWord?_spelling ?_
    rintro least rfl
    rw [if_pos rfl]
    refine inner least ?_
    rw [enough, List.concat_eq_append, List.length_append, List.length_singleton, Nat.add_assoc,
      Nat.add_comm 1]

theorem rejects_readGroup {readInner : (input : List Lexeme) → Reading (TypeExpr String) input}
    {phrases : List FieldPhrase} {input : List Lexeme}
    (each : ∀ phrase ∈ phrases,
      (∀ rest, Reads (readInner (phrase.words ++ rest)) phrase.type rest) ∨
      ∀ rest, Rejects (readInner (phrase.words ++ rest)))
    (deep : ∃ phrase ∈ phrases, ∀ rest, Rejects (readInner (phrase.words ++ rest)))
    (h : group (phrases.map FieldPhrase.tokens) ++ rest = groupStart :: input) :
    Rejects (readGroup readInner input) := by
  cases phrases with
  | nil =>
      obtain ⟨_, inside, -⟩ := deep
      cases inside
  | cons first phrases =>
      rw [List.map_cons, group_append] at h
      cases h
      exact (rejects_readFields each deep).bind _

/-- A type that is too deep for the levels is rejected, whatever follows it. -/
theorem rejects_readType (derived : IsType words type) (deep : levels < type.depth)
    (rest : List Lexeme) : Rejects (readType levels (words ++ rest)) := by
  induction derived generalizing levels rest with
  | builtin modifiers leaf =>
      rw [TypeExpr.applied_depth] at deep
      refine rejects_run_append modifiers leaf.spelling_ne_empty fun left enough => ?_
      exact absurd deep (by rw [enough]; exact Nat.not_lt.mpr (Nat.le_add_right _ _))
  | reference modifiers nonempty bare notBuiltin =>
      rw [TypeExpr.applied_depth] at deep
      refine rejects_run_append modifiers nonempty fun left enough => ?_
      exact absurd deep (by rw [enough]; exact Nat.not_lt.mpr (Nat.le_add_right _ _))
  | modified nonempty inner ih =>
      rw [TypeExpr.applied_depth] at deep
      refine rejects_run nonempty fun left enough => ih ?_ rest
      rw [enough] at deep
      exact Nat.lt_of_add_lt_add_left deep
  | struct phrases inner ih =>
      cases levels with
      | zero => exact rejects_fail _
      | succ levels =>
          have each : ∀ phrase ∈ phrases,
              (∀ rest, Reads (readType levels (phrase.words ++ rest)) phrase.type rest) ∨
                ∀ rest, Rejects (readType levels (phrase.words ++ rest)) := by
            intro phrase inside
            rcases Nat.lt_or_ge levels phrase.type.depth with deep | shallow
            · exact .inr fun rest => ih phrase inside deep rest
            · exact .inl fun rest => readType_complete (inner phrase inside) shallow rest
          have tooDeep : ∃ phrase ∈ phrases, levels < phrase.type.depth := by
            have bound := Nat.not_le.mpr (Nat.lt_of_succ_lt_succ deep)
            rw [TypeExpr.fieldsDepth_le_iff, List.forall_mem_map] at bound
            simpa [FieldPhrase.value] using bound
          obtain ⟨phrase, inside, deep⟩ := tooDeep
          have rejected := fun rest => ih phrase inside deep rest
          exact rejects_readType_group (rejects_readGroup each ⟨phrase, inside, rejected⟩ rfl)
  | enum nonempty =>
      obtain rfl : levels = 0 := Nat.lt_one_iff.mp deep
      exact rejects_fail _

end Reader

/-- Whether a type can stand for what a method or error takes or gives: a struct, or a name that may
refer to one. -/
def TypeExpr.IsSignature (type : TypeExpr String) : Prop :=
  (∃ fields, type = .struct fields) ∨ ∃ name, type = .reference name

namespace Member

/-- The types of a member. -/
def types : Member → List (TypeExpr String)
  | method definition => [definition.parameters, definition.results]
  | typedef definition => [definition.body]
  | error definition => [definition.parameters]

/-- The types that a member takes and gives. -/
def signatures : Member → List (TypeExpr String)
  | typedef _ => []
  | member => member.types

end Member

namespace Grammar

open Lexeme Reader

/-- The tokens that a member is written with, however deep its types are and whatever they are. -/
inductive IsPhrase : List Lexeme → Member → Prop
  | method (name : String) {parameterWords resultWords : List Lexeme}
      {parameters results : TypeExpr String} (first : IsType parameterWords parameters)
      (second : IsType resultWords results) :
      IsPhrase (word "method" :: word name :: (parameterWords ++ arrow :: resultWords))
        (.method ⟨name, parameters, results⟩)
  | typedef (name : String) {words : List Lexeme} {body : TypeExpr String}
      (derived : IsType words body) :
      IsPhrase (word "type" :: word name :: words) (.typedef ⟨name, body⟩)
  | error (name : String) {words : List Lexeme} {parameters : TypeExpr String}
      (derived : IsType words parameters) :
      IsPhrase (word "error" :: word name :: words) (.error ⟨name, parameters⟩)

variable {words rest : List Lexeme} {type : TypeExpr String} {member : Member}

theorem isSignature_of_isType (derived : IsType words type) (shallow : type.depth ≤ maxNesting)
    (isSignature : type.IsSignature) : IsSignature words type := by
  rcases isSignature with ⟨fields, rfl⟩ | ⟨name, rfl⟩
  · exact .struct ⟨derived, shallow⟩
  · exact .reference ⟨derived, shallow⟩

/-- A member whose types are not too deep is derived as one. -/
theorem IsPhrase.isMember (phrase : IsPhrase words member)
    (signatures : ∀ type ∈ member.signatures, type.IsSignature)
    (shallow : ∀ type ∈ member.types, type.depth ≤ maxNesting) : IsMember words member := by
  cases phrase with
  | method name first second =>
      obtain ⟨isParameters, isResults⟩ := List.forall_mem_cons.mp signatures
      obtain ⟨parameters, results⟩ := List.forall_mem_cons.mp shallow
      exact .method name (isSignature_of_isType first parameters isParameters)
        (isSignature_of_isType second (results _ List.mem_cons_self)
          (isResults _ List.mem_cons_self))
  | typedef name derived => exact .typedef name ⟨derived, shallow _ List.mem_cons_self⟩
  | error name derived =>
      exact .error name (isSignature_of_isType derived (shallow _ List.mem_cons_self)
        (signatures _ List.mem_cons_self))

theorem IsPhrase.ne_nil (phrase : IsPhrase words member) : words ≠ [] := by
  cases phrase <;> exact List.cons_ne_nil _ _

theorem rejects_readSignature {site : SignatureSite} (derived : IsType words type)
    (deep : maxNesting < type.depth) (rest : List Lexeme) :
    Rejects (readSignature site (words ++ rest)) :=
  (rejects_readType derived deep rest).bind _

/-- A method is rejected at its parameters if they are too deep, and otherwise at its results. -/
theorem rejects_readMethod {name : String} {parameterWords resultWords : List Lexeme}
    {parameters results : TypeExpr String} (first : IsType parameterWords parameters)
    (second : IsType resultWords results) (isSignature : parameters.IsSignature)
    (deep : maxNesting < parameters.depth ∨ maxNesting < results.depth) (rest : List Lexeme) :
    Rejects (readMethod (word name :: (parameterWords ++ arrow :: (resultWords ++ rest)))) := by
  obtain ⟨shorter, named⟩ := reads_readWord.mpr rfl
  refine rejects_bind_of_ok named ?_
  rcases Nat.lt_or_ge maxNesting parameters.depth with deepHere | shallow
  · exact (rejects_readSignature first deepHere _).bind _
  · obtain ⟨shorter, read⟩ := readSignature_complete
      (isSignature_of_isType first shallow isSignature) (arrow :: (resultWords ++ rest))
    have deepResults := deep.resolve_left (Nat.not_lt.mpr shallow)
    refine rejects_bind_of_ok read ?_
    exact (rejects_readSignature second deepResults rest).bind _

/-- A member with a type that is too deep is rejected. -/
theorem IsPhrase.rejects (phrase : IsPhrase words member)
    (signatures : ∀ type ∈ member.signatures, type.IsSignature)
    (deep : ∃ type ∈ member.types, maxNesting < type.depth) (rest : List Lexeme) :
    Rejects (readMember (words ++ rest)) := by
  obtain ⟨type, inside, deep⟩ := deep
  cases phrase with
  | @method name parameterWords resultWords parameters results first second =>
      have someDeep : maxNesting < parameters.depth ∨ maxNesting < results.depth := by
        rcases List.mem_cons.mp inside with rfl | inside
        · exact .inl deep
        · obtain rfl := List.mem_singleton.mp inside
          exact .inr deep
      rw [List.cons_append, List.cons_append, List.append_assoc, List.cons_append, word, readMember,
        if_pos rfl]
      exact (rejects_readMethod first second (signatures _ List.mem_cons_self) someDeep rest).bind _
  | @typedef name words body derived =>
      obtain rfl := List.mem_singleton.mp inside
      obtain ⟨shorter, named⟩ := reads_readWord.mpr (rfl : word name :: (words ++ rest) = _)
      have body : Rejects (readTypedef (word name :: (words ++ rest))) :=
        rejects_bind_of_ok named ((rejects_readType derived deep rest).bind _)
      rw [List.cons_append, List.cons_append, word, readMember, if_neg (by decide), if_pos rfl]
      exact body.bind _
  | @error name words parameters derived =>
      obtain rfl := List.mem_singleton.mp inside
      obtain ⟨shorter, named⟩ := reads_readWord.mpr (rfl : word name :: (words ++ rest) = _)
      have body : Rejects (readError (word name :: (words ++ rest))) :=
        rejects_bind_of_ok named ((rejects_readSignature derived deep rest).bind _)
      rw [List.cons_append, List.cons_append, word, readMember, if_neg (by decide),
        if_neg (by decide), if_pos rfl]
      exact body.bind _

/-- A type that can be written is written with tokens it is derived from. -/
theorem scans_print_of_writable (writable : type.Writable) :
    ∃ words, Scans (type.print id) words ∧ IsType words type := by
  obtain ⟨words, derived, spelled⟩ := writable.exists_isType
  obtain ⟨printed, scans, again⟩ := derived.scans_print spelled []
  rw [Modifier.run_nil, String.empty_append] at scans
  exact ⟨printed, scans, again⟩

/-- The tokens of a member are those of its text, whatever comes after it. -/
theorem exists_isPhrase (writable : member.Writable) : ∃ words, IsPhrase words member ∧
    ∀ rest, significant (member.text.toList ++ rest) = words ++ significant rest := by
  cases member with
  | method definition =>
      obtain ⟨isName, parameters, results⟩ := writable
      obtain ⟨parameterWords, scansParameters, first⟩ := scans_print_of_writable parameters
      obtain ⟨resultWords, scansResults, second⟩ := scans_print_of_writable results
      refine ⟨_, .method definition.name first second, fun rest => ?_⟩
      have isKeyword : IsWord "method".toList := isWord_of_all (by decide) (by decide)
      have scans := scans_arrow scansParameters scansResults
      simpa [Member.text] using significant_member isKeyword isName scans rest
  | typedef definition =>
      obtain ⟨isName, body⟩ := writable
      obtain ⟨words, scans, derived⟩ := scans_print_of_writable body
      refine ⟨_, .typedef definition.name derived, fun rest => ?_⟩
      have isKeyword : IsWord "type".toList := isWord_of_all (by decide) (by decide)
      simpa [Member.text] using significant_member isKeyword isName scans rest
  | error definition =>
      obtain ⟨isName, parameters⟩ := writable
      obtain ⟨words, scans, derived⟩ := scans_print_of_writable parameters
      refine ⟨_, .error definition.name derived, fun rest => ?_⟩
      have isKeyword : IsWord "error".toList := isWord_of_all (by decide) (by decide)
      simpa [Member.text] using significant_member isKeyword isName scans rest

section Members

variable {members : List Member} (writable : ∀ member ∈ members, member.Writable)
  (signatures : ∀ member ∈ members, ∀ type ∈ member.signatures, type.IsSignature)
include writable signatures

theorem areMembers_of_shallow
    (shallow : ∀ member ∈ members, ∀ type ∈ member.types, type.depth ≤ maxNesting) :
    AreMembers (significant (String.join (members.map Member.text)).toList) members := by
  induction members with
  | nil =>
      rw [List.map_nil, String.join_nil, String.toList_empty, significant_nil]
      exact .nil
  | cons member members ih =>
      obtain ⟨writableHere, writable⟩ := List.forall_mem_cons.mp writable
      obtain ⟨signaturesHere, signatures⟩ := List.forall_mem_cons.mp signatures
      obtain ⟨shallowHere, shallow⟩ := List.forall_mem_cons.mp shallow
      obtain ⟨words, phrase, scanned⟩ := exists_isPhrase writableHere
      rw [List.map_cons, String.join_cons, String.toList_append, scanned]
      exact .cons (phrase.isMember signaturesHere shallowHere) (ih writable signatures shallow)

/-- Members are read up to the first one that has a type that is too deep. -/
theorem rejects_readMembers
    (deep : ∃ member ∈ members, ∃ type ∈ member.types, maxNesting < type.depth) :
    Rejects (readMembers (significant (String.join (members.map Member.text)).toList)) := by
  induction members with
  | nil =>
      obtain ⟨_, inside, -⟩ := deep
      cases inside
  | cons member members ih =>
      obtain ⟨writableHere, writable⟩ := List.forall_mem_cons.mp writable
      obtain ⟨signaturesHere, signatures⟩ := List.forall_mem_cons.mp signatures
      obtain ⟨words, phrase, scanned⟩ := exists_isPhrase writableHere
      have spelled : ∀ lexeme ∈ words ++
          significant (String.join (members.map Member.text)).toList, lexeme.Spelled := by
        rw [← scanned]
        exact fun _ => spelled_of_mem_significant
      have nonempty : words ++ significant (String.join (members.map Member.text)).toList ≠ [] :=
        List.append_ne_nil_of_left_ne_nil phrase.ne_nil _
      rw [List.map_cons, String.join_cons, String.toList_append, scanned, readMembers,
        if_neg nonempty]
      by_cases deepHere : ∃ type ∈ member.types, maxNesting < type.depth
      · exact (phrase.rejects signaturesHere deepHere _).bind _
      · have shallow : ∀ type ∈ member.types, type.depth ≤ maxNesting := by
          simpa using deepHere
        have later : ∃ member ∈ members, ∃ type ∈ member.types, maxNesting < type.depth := by
          obtain ⟨other, inside, deep⟩ := deep
          rcases List.mem_cons.mp inside with rfl | inside
          · exact absurd deep deepHere
          · exact ⟨other, inside, deep⟩
        obtain ⟨shorter, read⟩ := (reads_readMember spelled).mpr
          ⟨words, rfl, phrase.isMember signaturesHere shallow⟩
        exact rejects_bind_of_ok read ((ih writable signatures later).bind _)

end Members

end Grammar

namespace Document

open Grammar Lexeme Reader

/-- A document that can be written is read from its text if no type is too deep, and otherwise its
text is rejected for this. -/
theorem parse_text {document : Document} (writable : document.Writable)
    (signatures : ∀ member ∈ document.members, ∀ type ∈ member.signatures, type.IsSignature) :
    ((∀ member ∈ document.members, ∀ type ∈ member.types, type.depth ≤ maxNesting) →
      (parse document.text).outcome = .ok document) ∧
    ((∃ member ∈ document.members, ∃ type ∈ member.types, maxNesting < type.depth) →
      ∃ location, (parse document.text).outcome = .error ⟨.nestingTooDeep, location⟩) := by
  have scanned := significant_text writable.name
  constructor
  · intro shallow
    have derived := IsDocument.intro document.name
      (areMembers_of_shallow writable.members signatures shallow)
    rw [document.ofMembers_members, ← scanned] at derived
    exact outcome_parse_eq_ok_iff.mpr derived
  · intro deep
    have rejects : Rejects (readDocument (significant document.text.toList)) := by
      obtain ⟨shorter, first⟩ := reads_readWord.mpr rfl
      obtain ⟨shorter', second⟩ := reads_readWord.mpr rfl
      rw [scanned]
      refine rejects_bind_of_ok first ?_
      rw [if_pos rfl]
      refine rejects_bind_of_ok second ?_
      exact (rejects_readMembers writable.members signatures deep).bind _
    obtain ⟨left, outcome⟩ := rejects
    refine ⟨.ofOffset document.text (offsetOf document.text (Token.significant document.text) left),
      ?_⟩
    rw [parse, Logged.outcome_bimap, Token.toLexeme_significant, outcome]
    rfl

end Document

end Varlink
