import Mathlib.Data.List.Forall2
import Varlink.Proofs.Document.Grammar

/-!
# The text of a document

A document is written member by member, every type where it stands and modifiers right before what
they apply to. If a document was derived from tokens at all, the tokens of its text derive it too.
They need not be the same tokens: a modifier may have stood apart from the type it applies to, and
the members may have come in another order.

What a piece of text is read as is stated with whatever follows it present, since the end of a word
can only be seen there. A run of modifiers is carried along until it is known whether a word or a
group comes after it.
-/

namespace Varlink

namespace Lexeme

/-- A text is read as these tokens, whatever follows it without adding to its last word. -/
def Scans (text : String) (words : List Lexeme) : Prop :=
  ∀ (c : Char) (rest : List Char), TokenKind.ofChar c ≠ .word →
    significant (text.toList ++ c :: rest) = words ++ significant (c :: rest)

theorem scans_word {text : String} (isWord : IsWord text.toList) : Scans text [word text] := by
  intro c rest delimiter
  rw [significant_word rest isWord delimiter, String.ofList_toList]
  rfl

theorem scans_empty : Scans "" [] := fun _ _ _ => rfl

theorem scans_field {name text : String} {words : List Lexeme} (isWord : IsWord name.toList)
    (h : Scans text words) : Scans (name ++ ": " ++ text) (word name :: colon :: words) := by
  intro c rest delimiter
  have first := scans_word isWord ':' (' ' :: (text.toList ++ c :: rest)) (by decide)
  rw [significant_colon, significant_space, h c rest delimiter] at first
  simpa using first

open Grammar in
theorem scans_group {before : String} {words : List Lexeme} {texts : List String}
    {members : List (List Lexeme)} (first : Scans before words)
    (each : List.Forall₂ Scans texts members) :
    Scans (before ++ ("(" ++ ", ".intercalate texts ++ ")")) (words ++ group members) := by
  intro c rest delimiter
  have inside : significant ((", ".intercalate texts).toList ++ ')' :: c :: rest) =
      [separator].intercalate members ++ significant (')' :: c :: rest) := by
    induction each with
    | nil => simp
    | @cons text member texts members head tail ih =>
        cases tail with
        | nil => simpa using head ')' (c :: rest) (by decide)
        | @cons next _ others =>
            have here := head ',' (' ' :: ((", ".intercalate (next :: others)).toList ++
              ')' :: c :: rest)) (by decide)
            rw [significant_separator, significant_space, ih] at here
            simpa using here
  have opening := first '(' ((", ".intercalate texts).toList ++ ')' :: c :: rest) (by decide)
  rw [significant_groupStart, inside, significant_groupEnd] at opening
  simpa [group] using opening

theorem noArrow_of_noDash {text : List Char} (noDash : '-' ∉ text) : ¬ ['-', '>'] <:+: text :=
  fun within => noDash (within.subset List.mem_cons_self)

/-- Enough for a word that is given: there is no dash in it, and so no arrow. -/
theorem isWord_of_all {text : List Char} (nonempty : text ≠ [])
    (plain : text.all fun c => TokenKind.ofChar c = .word && c ≠ '-') : IsWord text := by
  have each : ∀ c ∈ text, TokenKind.ofChar c = .word ∧ c ≠ '-' := by
    simpa using plain
  refine ⟨nonempty, fun c inside => (each c inside).1, noArrow_of_noDash fun inside => ?_⟩
  exact (each _ inside).2 rfl

theorem noArrow_append {first second : List Char} (noDash : '-' ∉ first)
    (h : ¬ ['-', '>'] <:+: second) : ¬ ['-', '>'] <:+: first ++ second := by
  induction first with
  | nil => exact h
  | cons c first ih =>
      rw [List.cons_append, arrow_infix_cons]
      rintro (⟨rfl, -⟩ | within)
      · exact noDash (List.mem_cons_self ..)
      · exact ih (List.not_mem_of_not_mem_cons noDash) within

theorem spelling_chars (modifier : Modifier) :
    (∀ c ∈ modifier.spelling.toList, TokenKind.ofChar c = .word) ∧
      '-' ∉ modifier.spelling.toList := by
  constructor
  · have kinds : modifier.spelling.toList.all (TokenKind.ofChar · == .word) = true := by
      cases modifier <;> rfl
    simpa using kinds
  · cases modifier <;> simp [Modifier.spelling]

/-- Modifiers are made of word characters, so a word stays one behind them. -/
theorem isWord_run_append (modifiers : List Modifier) {text : String} (h : IsWord text.toList) :
    IsWord (Modifier.run modifiers ++ text).toList := by
  induction modifiers with
  | nil => simpa using h
  | cons modifier modifiers ih =>
      obtain ⟨chars, noDash⟩ := spelling_chars modifier
      rw [Modifier.run_cons, String.append_assoc, String.toList_append]
      exact {
        nonempty := fun empty => ih.nonempty (List.append_eq_nil_iff.mp empty).2
        chars := List.forall_mem_append.mpr ⟨chars, ih.chars⟩
        noArrow := noArrow_append noDash ih.noArrow }

theorem isWord_run {modifiers : List Modifier} (nonempty : modifiers ≠ []) :
    IsWord (Modifier.run modifiers).toList := by
  rcases List.eq_nil_or_concat modifiers with rfl | ⟨before, last, rfl⟩
  · contradiction
  · have isWord : IsWord last.spelling.toList := by
      obtain ⟨chars, noDash⟩ := spelling_chars last
      exact ⟨by simpa using last.spelling_ne_empty, chars, noArrow_of_noDash noDash⟩
    rw [List.concat_eq_append, Modifier.run_append, Modifier.run_cons, Modifier.run_nil,
      String.append_empty]
    exact isWord_run_append before isWord

/-- A run of modifiers in front of a group is a word of its own, if there is one at all. -/
theorem scans_run (modifiers : List Modifier) :
    ∃ words, Scans (Modifier.run modifiers) words ∧
      ((modifiers = [] ∧ words = []) ∨
        (modifiers ≠ [] ∧ words = [word (Modifier.run modifiers)])) := by
  by_cases empty : modifiers = []
  · subst empty
    exact ⟨[], by simpa using scans_empty, .inl ⟨rfl, rfl⟩⟩
  · exact ⟨_, scans_word (isWord_run empty), .inr ⟨empty, rfl⟩⟩

end Lexeme

namespace TypeExpr

theorem print_applied (modifiers : List Modifier) (type : TypeExpr String)
    (name : String → String) :
    (applied modifiers type).print name = Modifier.run modifiers ++ type.print name := by
  induction modifiers with
  | nil => simp
  | cons modifier modifiers ih =>
      rw [applied_cons, print, ih, Modifier.run_cons, String.append_assoc]

end TypeExpr

namespace Grammar

open Lexeme

theorem isType_run {modifiers : List Modifier} {words after : List Lexeme} {type : TypeExpr String}
    (run : (modifiers = [] ∧ words = []) ∨
      (modifiers ≠ [] ∧ words = [word (Modifier.run modifiers)]))
    (derived : IsType after type) : IsType (words ++ after) (.applied modifiers type) := by
  rcases run with ⟨rfl, rfl⟩ | ⟨nonempty, rfl⟩
  · exact derived
  · exact .modified nonempty derived

theorem mem_group {members : List (List Lexeme)} {member : List Lexeme} {lexeme : Lexeme}
    (inside : member ∈ members) (h : lexeme ∈ member) : lexeme ∈ group members := by
  refine List.mem_append_left _ (List.mem_cons_of_mem _ ?_)
  induction members with
  | nil => cases inside
  | cons first members ih =>
      cases members with
      | nil =>
          obtain rfl := List.mem_singleton.mp inside
          simpa using h
      | cons second members =>
          rw [List.intercalate_cons_cons]
          rcases List.mem_cons.mp inside with rfl | inside
          · exact List.mem_append_left _ (List.mem_append_left _ h)
          · exact List.mem_append_right _ (ih inside)

/-- Fields whose types can be written and derived again can be written and derived themselves. -/
theorem scans_fields {fields : List FieldPhrase}
    (names : ∀ field ∈ fields, IsWord field.name.toList)
    (types : ∀ field ∈ fields, ∃ printed, Scans (field.type.print id) printed ∧
      IsType printed field.type) :
    ∃ others : List FieldPhrase, others.map FieldPhrase.value = fields.map FieldPhrase.value ∧
      (∀ field ∈ others, IsType field.words field.type) ∧
      List.Forall₂ Scans (TypeExpr.printFields id (fields.map FieldPhrase.value))
        (others.map FieldPhrase.tokens) := by
  induction fields with
  | nil =>
      refine ⟨[], rfl, ?_, .nil⟩
      intro field inside
      cases inside
  | cons field fields ih =>
      obtain ⟨name, names⟩ := List.forall_mem_cons.mp names
      obtain ⟨⟨printed, scans, derived⟩, types⟩ := List.forall_mem_cons.mp types
      obtain ⟨others, same, inner, scanned⟩ := ih names types
      refine ⟨⟨field.name, printed, field.type⟩ :: others, ?_, ?_, ?_⟩
      · rw [List.map_cons, List.map_cons, same]
        rfl
      · exact List.forall_mem_cons.mpr ⟨derived, inner⟩
      · exact .cons (scans_field name scans) scanned

/-- A type that was derived is written so that it is derived again, also behind modifiers. -/
theorem IsType.scans_print {words : List Lexeme} {type : TypeExpr String}
    (derived : IsType words type) (spelled : ∀ lexeme ∈ words, lexeme.Spelled)
    (pending : List Modifier) :
    ∃ printed, Scans (Modifier.run pending ++ type.print id) printed ∧
      IsType printed (.applied pending type) := by
  induction derived generalizing pending with
  | builtin modifiers leaf =>
      have isWord : IsWord (Modifier.run modifiers ++ leaf.spelling).toList :=
        spelled _ (List.mem_singleton_self _)
      rw [← TypeExpr.applied_append, TypeExpr.print_applied, TypeExpr.print]
      refine ⟨_, scans_word (isWord_run_append pending isWord), ?_⟩
      rw [← String.append_assoc, ← Modifier.run_append]
      exact .builtin _ leaf
  | reference modifiers nonempty bare notBuiltin =>
      rename_i name
      have isWord : IsWord (Modifier.run modifiers ++ name).toList :=
        spelled _ (List.mem_singleton_self _)
      rw [← TypeExpr.applied_append, TypeExpr.print_applied, TypeExpr.print]
      refine ⟨_, scans_word (isWord_run_append pending isWord), ?_⟩
      rw [← String.append_assoc, ← Modifier.run_append]
      exact .reference _ nonempty bare notBuiltin
  | @modified modifiers words type nonempty inner ih =>
      obtain ⟨printed, scans, derived⟩ :=
        ih (List.forall_mem_cons.mp spelled).2 (pending ++ modifiers)
      rw [Modifier.run_append, String.append_assoc, ← TypeExpr.print_applied] at scans
      rw [TypeExpr.applied_append] at derived
      exact ⟨printed, scans, derived⟩
  | struct fields inner ih =>
      have inField : ∀ field ∈ fields, ∀ lexeme ∈ field.tokens, lexeme.Spelled := by
        intro field inside lexeme h
        exact spelled lexeme (mem_group (List.mem_map_of_mem inside) h)
      have names : ∀ field ∈ fields, IsWord field.name.toList := by
        intro field inside
        exact inField field inside _ (List.mem_cons_self ..)
      have types : ∀ field ∈ fields, ∃ printed, Scans (field.type.print id) printed ∧
          IsType printed field.type := by
        intro field inside
        have inType := (List.forall_mem_cons.mp
          (List.forall_mem_cons.mp (inField field inside)).2).2
        simpa using ih field inside inType []
      obtain ⟨others, same, derived, scanned⟩ := scans_fields names types
      obtain ⟨run, scans, isRun⟩ := scans_run pending
      rw [TypeExpr.print, ← same]
      rw [← same] at scanned
      exact ⟨_, scans_group scans scanned, isType_run isRun (.struct others derived)⟩
  | @enum names nonempty =>
      have each : List.Forall₂ Scans names (names.map fun name => [word name]) := by
        rw [List.forall₂_map_right_iff, List.forall₂_same]
        intro name inside
        refine scans_word ?_
        exact spelled _ (mem_group (List.mem_map_of_mem inside) (List.mem_singleton_self _))
      obtain ⟨run, scans, isRun⟩ := scans_run pending
      exact ⟨_, scans_group scans each, isType_run isRun (.enum nonempty)⟩

theorem IsTypeWithin.scans_print {levels : Nat} {words : List Lexeme} {type : TypeExpr String}
    (derived : IsTypeWithin levels words type) (spelled : ∀ lexeme ∈ words, lexeme.Spelled) :
    ∃ printed, Scans (type.print id) printed ∧ IsTypeWithin levels printed type := by
  obtain ⟨printed, scans, again⟩ := derived.derived.scans_print spelled []
  rw [Modifier.run_nil, String.empty_append] at scans
  exact ⟨printed, scans, again, derived.depth_le⟩

theorem IsSignature.scans_print {words : List Lexeme} {type : TypeExpr String}
    (derived : IsSignature words type) (spelled : ∀ lexeme ∈ words, lexeme.Spelled) :
    ∃ printed, Scans (type.print id) printed ∧ IsSignature printed type := by
  cases derived with
  | struct body =>
      obtain ⟨printed, scans, again⟩ := body.scans_print spelled
      exact ⟨printed, scans, .struct again⟩
  | reference body =>
      obtain ⟨printed, scans, again⟩ := body.scans_print spelled
      exact ⟨printed, scans, .reference again⟩

end Grammar

/-- The text of a member. -/
def Member.text : Member → String
  | method definition =>
    "\nmethod " ++ definition.name ++ " " ++ definition.parameters.print id ++ " -> "
      ++ definition.results.print id ++ "\n"
  | typedef definition =>
    "\ntype " ++ definition.name ++ " " ++ definition.body.print id ++ "\n"
  | error definition =>
    "\nerror " ++ definition.name ++ " " ++ definition.parameters.print id ++ "\n"

namespace Document

/-- The members of a document in the order in which they are written. -/
def members (document : Document) : List Member :=
  document.typedefs.map .typedef ++ document.errors.map .error ++ document.methods.map .method

/-- The text of a document. -/
def text (document : Document) : String :=
  "interface " ++ document.name ++ "\n" ++ String.join (document.members.map Member.text)

theorem ofMembers_members (document : Document) :
    ofMembers document.name document.members = document := by
  simp [ofMembers, members, Function.comp_def, Member.method?, Member.typedef?, Member.error?]

theorem mem_of_mem_selected {α : Type} {select : Member → Option α} {build : α → Member}
    (same : ∀ member value, select member = some value → build value = member)
    {members : List Member} {member : Member}
    (inside : member ∈ (members.filterMap select).map build) : member ∈ members := by
  obtain ⟨value, kept, rfl⟩ := List.mem_map.mp inside
  obtain ⟨original, present, selected⟩ := List.mem_filterMap.mp kept
  rwa [same original value selected]

/-- Members are sorted by kind, and none is added. -/
theorem mem_of_mem_members {name : String} {members : List Member} {member : Member}
    (inside : member ∈ (ofMembers name members).members) : member ∈ members := by
  rcases List.mem_append.mp inside with inside | isMethod
  · rcases List.mem_append.mp inside with isTypedef | isError
    · apply mem_of_mem_selected _ isTypedef
      intro member value selected
      cases member <;> cases selected
      rfl
    · apply mem_of_mem_selected _ isError
      intro member value selected
      cases member <;> cases selected
      rfl
  · apply mem_of_mem_selected _ isMethod
    intro member value selected
    cases member <;> cases selected
    rfl

end Document

namespace Grammar

open Lexeme

/-- Parameters and results are read one after the other. -/
theorem scans_arrow {first second : String} {words after : List Lexeme}
    (left : Scans first words) (right : Scans second after) :
    Scans (first ++ " -> " ++ second) (words ++ arrow :: after) := by
  intro c rest delimiter
  have here := left ' ' ('-' :: '>' :: ' ' :: (second.toList ++ c :: rest)) (by decide)
  rw [significant_space, significant_arrow, significant_space, right c rest delimiter] at here
  simpa using here

/-- A member stands on a line of its own. -/
theorem significant_member {keyword name text : String} {words : List Lexeme}
    (isKeyword : IsWord keyword.toList) (isName : IsWord name.toList) (scans : Scans text words)
    (rest : List Char) :
    significant (("\n" ++ keyword ++ " " ++ name ++ " " ++ text ++ "\n").toList ++ rest) =
      word keyword :: word name :: words ++ significant rest := by
  have third := scans '\n' rest (by decide)
  have second := scans_word isName ' ' (text.toList ++ '\n' :: rest) (by decide)
  have first := scans_word isKeyword ' ' (name.toList ++ ' ' :: (text.toList ++ '\n' :: rest))
    (by decide)
  rw [significant_lineFeed] at third
  rw [significant_space, third] at second
  rw [significant_space, second] at first
  simpa using first

/-- A member that was derived is written so that it is derived again. -/
theorem IsMember.significant_text {words : List Lexeme} {member : Member}
    (derived : IsMember words member) (spelled : ∀ lexeme ∈ words, lexeme.Spelled) :
    ∃ printed, (∀ rest, significant (member.text.toList ++ rest) = printed ++ significant rest) ∧
      IsMember printed member := by
  cases derived with
  | method name first second =>
      obtain ⟨isKeyword, spelled⟩ := List.forall_mem_cons.mp spelled
      obtain ⟨isName, spelled⟩ := List.forall_mem_cons.mp spelled
      obtain ⟨inParameters, spelled⟩ := List.forall_mem_append.mp spelled
      have inResults := (List.forall_mem_cons.mp spelled).2
      obtain ⟨parameters, scansParameters, first⟩ := first.scans_print inParameters
      obtain ⟨results, scansResults, second⟩ := second.scans_print inResults
      refine ⟨_, ?_, .method name first second⟩
      intro rest
      have scans := scans_arrow scansParameters scansResults
      simpa [Member.text] using significant_member isKeyword isName scans rest
  | typedef name body =>
      obtain ⟨isKeyword, spelled⟩ := List.forall_mem_cons.mp spelled
      obtain ⟨isName, inBody⟩ := List.forall_mem_cons.mp spelled
      obtain ⟨printed, scans, body⟩ := body.scans_print inBody
      refine ⟨_, ?_, .typedef name body⟩
      intro rest
      simpa [Member.text] using significant_member isKeyword isName scans rest
  | error name signature =>
      obtain ⟨isKeyword, spelled⟩ := List.forall_mem_cons.mp spelled
      obtain ⟨isName, inParameters⟩ := List.forall_mem_cons.mp spelled
      obtain ⟨printed, scans, signature⟩ := signature.scans_print inParameters
      refine ⟨_, ?_, .error name signature⟩
      intro rest
      simpa [Member.text] using significant_member isKeyword isName scans rest

theorem AreMembers.derived_of_mem {words : List Lexeme} {members : List Member}
    (derived : AreMembers words members) (spelled : ∀ lexeme ∈ words, lexeme.Spelled) :
    ∀ member ∈ members, ∃ words, IsMember words member ∧ ∀ lexeme ∈ words, lexeme.Spelled := by
  induction derived with
  | nil =>
      intro member inside
      cases inside
  | cons first rest ih =>
      obtain ⟨here, behind⟩ := List.forall_mem_append.mp spelled
      exact List.forall_mem_cons.mpr ⟨⟨_, first, here⟩, ih behind⟩

theorem areMembers_text {members : List Member}
    (each : ∀ member ∈ members, ∃ words, IsMember words member ∧
      ∀ lexeme ∈ words, lexeme.Spelled) :
    AreMembers (significant (String.join (members.map Member.text)).toList) members := by
  induction members with
  | nil => simpa using AreMembers.nil
  | cons member members ih =>
      obtain ⟨⟨words, derived, spelled⟩, each⟩ := List.forall_mem_cons.mp each
      obtain ⟨printed, scanned, again⟩ := derived.significant_text spelled
      rw [List.map_cons, String.join_cons, String.toList_append, scanned]
      exact .cons again (ih each)

/-- A document is written with its name first and then its members. -/
theorem significant_text {document : Document} (isName : IsWord document.name.toList) :
    significant document.text.toList = word "interface" :: word document.name ::
      significant (String.join (document.members.map Member.text)).toList := by
  have isKeyword : IsWord "interface".toList := isWord_of_all (by decide) (by decide)
  have second := scans_word isName '\n'
    (String.join (document.members.map Member.text)).toList (by decide)
  have first := scans_word isKeyword ' ' (document.name.toList ++ '\n' ::
    (String.join (document.members.map Member.text)).toList) (by decide)
  rw [significant_lineFeed] at second
  rw [significant_space] at first
  have written : document.text.toList = "interface".toList ++ ' ' :: (document.name.toList ++
      '\n' :: (String.join (document.members.map Member.text)).toList) := by
    simp [Document.text]
  rw [written, first, second]
  rfl

/-- If a document was derived from tokens, then it is derived from those of its text. -/
theorem IsDocument.text {words : List Lexeme} {document : Document}
    (derived : IsDocument words document) (spelled : ∀ lexeme ∈ words, lexeme.Spelled) :
    IsDocument (significant document.text.toList) document := by
  cases derived with
  | @intro name words members derived =>
      obtain ⟨isName, spelled⟩ := List.forall_mem_cons.mp (List.forall_mem_cons.mp spelled).2
      have each := derived.derived_of_mem spelled
      generalize whole : Document.ofMembers name members = document
      obtain rfl : document.name = name := by rw [← whole]; rfl
      have kept : ∀ member ∈ document.members, member ∈ members := by
        rw [← whole]
        exact fun _ => Document.mem_of_mem_members
      have members := areMembers_text fun member inside => each member (kept member inside)
      have again := IsDocument.intro document.name members
      rwa [document.ofMembers_members, ← significant_text isName] at again

end Grammar

end Varlink
