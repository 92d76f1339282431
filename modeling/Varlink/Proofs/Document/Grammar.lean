import Varlink.Document
import Varlink.Proofs.Token

/-!
# The grammar of interface definitions

The grammar says which sequences of significant tokens are documents and which document each of them
is. It knows no reader: there is no order in which tokens are looked at, no token of lookahead and
no counter of levels. A type is derived from exactly the tokens it is written with, and how deeply
groups and modifiers are nested is a property of the type that was derived.

Two things make it more than a list of productions. One word can hold a whole run of modifiers and
the type they apply to, and the run is the longest there is. And a run with nothing after it applies
to whatever type comes next, so a modifier may stand before a group.
-/

namespace Varlink

namespace Modifier

/-- A run of modifiers as it is written. -/
def run (modifiers : List Modifier) : String := String.join (modifiers.map spelling)

@[simp] theorem run_nil : run [] = "" := by
  simp [run]

@[simp] theorem run_cons (modifier : Modifier) (modifiers : List Modifier) :
    run (modifier :: modifiers) = modifier.spelling ++ run modifiers := by
  simp [run]

theorem run_append (first second : List Modifier) :
    run (first ++ second) = run first ++ run second := by
  simp [run, String.join_append]

theorem spelling_ne_empty (modifier : Modifier) : modifier.spelling ≠ "" := by
  cases modifier <;> decide

/-- A word at whose start there is no modifier. -/
def Bare (word : String) : Prop := ∀ modifier : Modifier, ¬ modifier.spelling.toList <+: word.toList

end Modifier

namespace TypeExpr

variable {α : Type}

/-- A run of modifiers applied to a type, the first one outermost. -/
def applied (modifiers : List Modifier) (type : TypeExpr α) : TypeExpr α :=
  modifiers.foldr .modified type

@[simp] theorem applied_nil (type : TypeExpr α) : applied [] type = type := rfl

@[simp] theorem applied_cons (modifier : Modifier) (modifiers : List Modifier)
    (type : TypeExpr α) :
    applied (modifier :: modifiers) type = .modified modifier (applied modifiers type) := rfl

theorem applied_append (first second : List Modifier) (type : TypeExpr α) :
    applied (first ++ second) type = applied first (applied second type) :=
  List.foldr_append

mutual

/-- How deeply groups and modifiers are nested in a type. -/
def depth : TypeExpr α → Nat
  | .reference _ => 0
  | .builtin _ => 0
  | .modified _ inner => depth inner + 1
  | .struct fields => fieldsDepth fields + 1
  | .enum _ => 1

/-- How deeply groups and modifiers are nested in the types of fields. -/
def fieldsDepth : List (String × TypeExpr α) → Nat
  | [] => 0
  | (_, type) :: rest => max (depth type) (fieldsDepth rest)

end

theorem fieldsDepth_le_iff {fields : List (String × TypeExpr α)} {levels : Nat} :
    fieldsDepth fields ≤ levels ↔ ∀ field ∈ fields, field.2.depth ≤ levels := by
  induction fields with
  | nil => simp [fieldsDepth]
  | cons field fields ih => rw [fieldsDepth, Nat.max_le, ih, List.forall_mem_cons]

end TypeExpr

namespace Grammar

open Lexeme

/-- The tokens of a group: parentheses around its members, and a separator between each two. -/
def group (members : List (List Lexeme)) : List Lexeme :=
  groupStart :: [separator].intercalate members ++ [groupEnd]

/-- A field with the tokens of its type. -/
structure FieldPhrase where
  name : String
  words : List Lexeme
  type : TypeExpr String

namespace FieldPhrase

/-- The tokens of a field. -/
def tokens (field : FieldPhrase) : List Lexeme := word field.name :: colon :: field.words

/-- The field itself. -/
def value (field : FieldPhrase) : String × TypeExpr String := (field.name, field.type)

end FieldPhrase

/-- The type that a sequence of tokens stands for. -/
inductive IsType : List Lexeme → TypeExpr String → Prop
  | builtin (modifiers : List Modifier) (leaf : Builtin) :
      IsType [word (Modifier.run modifiers ++ leaf.spelling)] (.applied modifiers (.builtin leaf))
  | reference (modifiers : List Modifier) {name : String} (nonempty : name ≠ "")
      (bare : Modifier.Bare name) (notBuiltin : ∀ leaf : Builtin, name ≠ leaf.spelling) :
      IsType [word (Modifier.run modifiers ++ name)] (.applied modifiers (.reference name))
  /-- A run of modifiers with nothing after it applies to the next type. -/
  | modified {modifiers : List Modifier} {words : List Lexeme} {type : TypeExpr String}
      (nonempty : modifiers ≠ []) (inner : IsType words type) :
      IsType (word (Modifier.run modifiers) :: words) (.applied modifiers type)
  /-- The group without members is a struct. -/
  | struct (fields : List FieldPhrase) (inner : ∀ field ∈ fields, IsType field.words field.type) :
      IsType (group (fields.map FieldPhrase.tokens)) (.struct (fields.map FieldPhrase.value))
  | enum {names : List String} (nonempty : names ≠ []) :
      IsType (group (names.map fun name => [word name])) (.enum names)

/-- A type in which no group or modifier is nested more than so many levels deep. -/
structure IsTypeWithin (levels : Nat) (words : List Lexeme) (type : TypeExpr String) : Prop where
  derived : IsType words type
  depth_le : type.depth ≤ levels

/-- What a method or error takes or gives: a struct, or a name without modifiers. -/
inductive IsSignature : List Lexeme → TypeExpr String → Prop
  | struct {words : List Lexeme} {fields : List (String × TypeExpr String)}
      (body : IsTypeWithin maxNesting words (.struct fields)) : IsSignature words (.struct fields)
  | reference {words : List Lexeme} {name : String}
      (body : IsTypeWithin maxNesting words (.reference name)) : IsSignature words (.reference name)

/-- The member that a sequence of tokens stands for. -/
inductive IsMember : List Lexeme → Member → Prop
  | method (name : String) {parameterWords resultWords : List Lexeme}
      {parameters results : TypeExpr String} (first : IsSignature parameterWords parameters)
      (second : IsSignature resultWords results) :
      IsMember (word "method" :: word name :: parameterWords ++ arrow :: resultWords)
        (.method ⟨name, parameters, results⟩)
  | typedef (name : String) {words : List Lexeme} {body : TypeExpr String}
      (derived : IsTypeWithin maxNesting words body) :
      IsMember (word "type" :: word name :: words) (.typedef ⟨name, body⟩)
  | error (name : String) {words : List Lexeme} {parameters : TypeExpr String}
      (derived : IsSignature words parameters) :
      IsMember (word "error" :: word name :: words) (.error ⟨name, parameters⟩)

/-- The members that a sequence of tokens stands for, one after the other. -/
inductive AreMembers : List Lexeme → List Member → Prop
  | nil : AreMembers [] []
  | cons {words after : List Lexeme} {member : Member} {members : List Member}
      (first : IsMember words member) (rest : AreMembers after members) :
      AreMembers (words ++ after) (member :: members)

/-- The document that a sequence of tokens stands for. -/
inductive IsDocument : List Lexeme → Document → Prop
  | intro (name : String) {words : List Lexeme} {members : List Member}
      (derived : AreMembers words members) :
      IsDocument (word "interface" :: word name :: words) (.ofMembers name members)

end Grammar

end Varlink
