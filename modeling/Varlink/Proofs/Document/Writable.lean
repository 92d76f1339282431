import Varlink.Proofs.Document.Printing
import Varlink.Proofs.Document.Recognition

/-!
# Documents that can be written

A document may hold any strings as names, and then its text need not be read as anything like it. It
can be written if its names are words, its references are words that mean a reference, and its enums
have members: this is all that the grammar asks of the names in a derivation. How deeply the types
are nested and what stands where a signature is needed are other matters.

What was read can be written, since every name was taken from a word.
-/

namespace Varlink

open Grammar Lexeme

theorem Builtin.isWord_spelling (leaf : Builtin) : IsWord leaf.spelling.toList := by
  cases leaf <;> exact isWord_of_all (by decide) (by decide)

namespace Grammar

/-- The parts of a group are spelled as they have to be, if those of its members are. -/
theorem spelled_group {members : List (List Lexeme)}
    (each : ∀ member ∈ members, ∀ lexeme ∈ member, lexeme.Spelled) :
    ∀ lexeme ∈ group members, lexeme.Spelled := by
  have inside : ∀ lexeme ∈ [separator].intercalate members, lexeme.Spelled := by
    induction members with
    | nil =>
        intro lexeme inside
        cases inside
    | cons first members ih =>
        obtain ⟨here, others⟩ := List.forall_mem_cons.mp each
        cases members with
        | nil => simpa using here
        | cons second members =>
            rw [List.intercalate_cons_cons, List.forall_mem_append, List.forall_mem_append]
            exact ⟨⟨here, List.forall_mem_singleton.mpr rfl⟩, ih others⟩
  rw [group, List.cons_append, List.forall_mem_cons, List.forall_mem_append]
  exact ⟨rfl, inside, List.forall_mem_singleton.mpr rfl⟩

theorem IsSignature.isType {words : List Lexeme} {type : TypeExpr String}
    (derived : IsSignature words type) : IsType words type := by
  cases derived with
  | struct body => exact body.derived
  | reference body => exact body.derived

end Grammar

namespace TypeExpr

/-- A type with names that can be written. -/
inductive Writable : TypeExpr String → Prop
  | reference {name : String} (isWord : IsWord name.toList) (bare : Modifier.Bare name)
      (notBuiltin : ∀ leaf : Builtin, name ≠ leaf.spelling) : Writable (.reference name)
  | builtin (leaf : Builtin) : Writable (.builtin leaf)
  | modified (modifier : Modifier) {inner : TypeExpr String} (writable : Writable inner) :
      Writable (.modified modifier inner)
  | struct {fields : List (String × TypeExpr String)}
      (names : ∀ field ∈ fields, IsWord field.1.toList)
      (types : ∀ field ∈ fields, Writable field.2) : Writable (.struct fields)
  | enum {members : List String} (nonempty : members ≠ [])
      (names : ∀ member ∈ members, IsWord member.toList) : Writable (.enum members)

theorem writable_applied (modifiers : List Modifier) {type : TypeExpr String}
    (writable : type.Writable) : (applied modifiers type).Writable := by
  induction modifiers with
  | nil => exact writable
  | cons modifier modifiers ih => exact .modified modifier ih

/-- A type that was derived can be written. -/
theorem writable_of_isType {words : List Lexeme} {type : TypeExpr String}
    (derived : IsType words type) (spelled : ∀ lexeme ∈ words, lexeme.Spelled) :
    type.Writable := by
  induction derived with
  | builtin modifiers leaf => exact writable_applied modifiers (.builtin leaf)
  | @reference modifiers name nonempty bare notBuiltin =>
      have isWord : IsWord (Modifier.run modifiers ++ name).toList :=
        spelled _ (List.mem_singleton_self _)
      rw [String.toList_append] at isWord
      have isName := Reader.isWord_of_append isWord (by simpa using nonempty)
      exact writable_applied modifiers (.reference isName bare notBuiltin)
  | @modified modifiers words type nonempty inner ih =>
      exact writable_applied modifiers (ih (List.forall_mem_cons.mp spelled).2)
  | struct fields inner ih =>
      have inField : ∀ field ∈ fields, ∀ lexeme ∈ field.tokens, lexeme.Spelled :=
        fun field inside lexeme h => spelled lexeme (mem_group (List.mem_map_of_mem inside) h)
      refine .struct (List.forall_mem_map.mpr fun field inside => ?_)
        (List.forall_mem_map.mpr fun field inside => ih field inside ?_)
      · exact inField field inside _ List.mem_cons_self
      · exact (List.forall_mem_cons.mp (List.forall_mem_cons.mp (inField field inside)).2).2
  | enum nonempty =>
      refine .enum nonempty fun name inside => ?_
      exact spelled _ (mem_group (List.mem_map_of_mem inside) (List.mem_singleton_self _))

/-- A type that can be written is derived from some tokens. -/
theorem Writable.exists_isType {type : TypeExpr String} (writable : type.Writable) :
    ∃ words, IsType words type ∧ ∀ lexeme ∈ words, lexeme.Spelled := by
  induction writable with
  | @reference name isWord bare notBuiltin =>
      have nonempty : name ≠ "" := by simpa using isWord.nonempty
      have derived := IsType.reference [] nonempty bare notBuiltin
      rw [Modifier.run_nil, String.empty_append] at derived
      exact ⟨_, derived, List.forall_mem_singleton.mpr isWord⟩
  | builtin leaf =>
      have derived := IsType.builtin [] leaf
      rw [Modifier.run_nil, String.empty_append] at derived
      exact ⟨_, derived, List.forall_mem_singleton.mpr leaf.isWord_spelling⟩
  | modified modifier writable ih =>
      obtain ⟨words, derived, spelled⟩ := ih
      have nonempty : [modifier] ≠ [] := List.cons_ne_nil _ _
      exact ⟨_, .modified nonempty derived,
        List.forall_mem_cons.mpr ⟨isWord_run nonempty, spelled⟩⟩
  | @struct fields names types ih =>
      have phrases : ∃ phrases : List FieldPhrase, phrases.map FieldPhrase.value = fields ∧
          (∀ phrase ∈ phrases, IsType phrase.words phrase.type) ∧
          ∀ member ∈ phrases.map FieldPhrase.tokens, ∀ lexeme ∈ member, lexeme.Spelled := by
        clear types
        induction fields with
        | nil => exact ⟨[], rfl, by simp, by simp⟩
        | cons field fields step =>
            obtain ⟨isWord, names⟩ := List.forall_mem_cons.mp names
            obtain ⟨⟨words, derived, spelled⟩, ih⟩ := List.forall_mem_cons.mp ih
            obtain ⟨phrases, same, types, tokens⟩ := step names ih
            refine ⟨⟨field.1, words, field.2⟩ :: phrases, ?_, ?_, ?_⟩
            · rw [List.map_cons, same]
              rfl
            · exact List.forall_mem_cons.mpr ⟨derived, types⟩
            · refine List.forall_mem_cons.mpr ⟨?_, tokens⟩
              exact List.forall_mem_cons.mpr ⟨isWord, List.forall_mem_cons.mpr ⟨rfl, spelled⟩⟩
      obtain ⟨phrases, rfl, derived, spelled⟩ := phrases
      exact ⟨_, .struct phrases derived, spelled_group spelled⟩
  | enum nonempty names =>
      refine ⟨_, .enum nonempty, spelled_group (List.forall_mem_map.mpr fun name inside => ?_)⟩
      exact List.forall_mem_singleton.mpr (names name inside)

end TypeExpr

/-- A member with names that can be written. -/
def Member.Writable : Member → Prop
  | .method definition => IsWord definition.name.toList ∧ definition.parameters.Writable ∧
      definition.results.Writable
  | .typedef definition => IsWord definition.name.toList ∧ definition.body.Writable
  | .error definition => IsWord definition.name.toList ∧ definition.parameters.Writable

namespace Document

/-- A document with names that can be written. -/
structure Writable (document : Document) : Prop where
  name : IsWord document.name.toList
  members : ∀ member ∈ document.members, member.Writable

theorem writable_of_isMember {words : List Lexeme} {member : Member}
    (derived : IsMember words member) (spelled : ∀ lexeme ∈ words, lexeme.Spelled) :
    member.Writable := by
  cases derived with
  | method name first second =>
      have spelled := (List.forall_mem_cons.mp spelled).2
      obtain ⟨isName, spelled⟩ := List.forall_mem_cons.mp spelled
      obtain ⟨inParameters, spelled⟩ := List.forall_mem_append.mp spelled
      have inResults := (List.forall_mem_cons.mp spelled).2
      exact ⟨isName, TypeExpr.writable_of_isType first.isType inParameters,
        TypeExpr.writable_of_isType second.isType inResults⟩
  | typedef name body =>
      obtain ⟨isName, inBody⟩ := List.forall_mem_cons.mp (List.forall_mem_cons.mp spelled).2
      exact ⟨isName, TypeExpr.writable_of_isType body.derived inBody⟩
  | error name signature =>
      obtain ⟨isName, inParameters⟩ :=
        List.forall_mem_cons.mp (List.forall_mem_cons.mp spelled).2
      exact ⟨isName, TypeExpr.writable_of_isType signature.isType inParameters⟩

theorem writable_of_isDocument {words : List Lexeme} {document : Document}
    (derived : IsDocument words document) (spelled : ∀ lexeme ∈ words, lexeme.Spelled) :
    document.Writable := by
  cases derived with
  | intro name derived =>
      obtain ⟨isName, spelled⟩ := List.forall_mem_cons.mp (List.forall_mem_cons.mp spelled).2
      refine ⟨isName, fun member inside => ?_⟩
      obtain ⟨words, derived, spelled⟩ :=
        derived.derived_of_mem spelled member (mem_of_mem_members inside)
      exact writable_of_isMember derived spelled

/-- What was read can be written. -/
theorem writable_of_parse {source : String} {document : Document}
    (parsed : (parse source).outcome = .ok document) : document.Writable :=
  writable_of_isDocument (outcome_parse_eq_ok_iff.mp parsed) fun _ => spelled_of_mem_significant

end Document

end Varlink
