/-!
# Type expressions

A type is written as a reference to a declaration, a built-in type, a modifier applied to a type, or
a group of members. What a reference is made of is a parameter: as read from a text it is a name,
and once the declarations are known it is the number of a declaration. Everything else of the
expression stays as it was written.
-/

namespace Varlink

/-- The built-in types. -/
inductive Builtin where
  | bool
  | int
  | float
  | string
  | object
  deriving DecidableEq, Repr

namespace Builtin

/-- All built-in types. -/
def all : List Builtin := [.bool, .int, .float, .string, .object]

/-- The word that stands for a built-in type. -/
def spelling : Builtin → String
  | bool => "bool"
  | int => "int"
  | float => "float"
  | string => "string"
  | object => "object"

/-- The built-in type a word stands for. -/
def ofWord? (word : String) : Option Builtin :=
  all.find? fun builtin => builtin.spelling = word

end Builtin

/-- What can be put in front of a type: it may be absent, or come as a list or a map of strings. -/
inductive Modifier where
  | maybe
  | array
  | dictionary
  deriving DecidableEq, Repr

namespace Modifier

/-- All modifiers. -/
def all : List Modifier := [.maybe, .array, .dictionary]

/-- The mark in front of the modified type. -/
def spelling : Modifier → String
  | maybe => "?"
  | array => "[]"
  | dictionary => "[string]"

/-- The modifier at the start of a word, and what follows it. No two marks start alike, so there is
at most one. -/
def ofWord? (word : String) : Option (Modifier × String) :=
  all.findSome? fun modifier =>
    (modifier.spelling.toList.isPrefixOf? word.toList).map fun rest =>
      (modifier, String.ofList rest)

end Modifier

/-- The two kinds of groups. -/
inductive GroupKind where
  | struct
  | enum
  deriving DecidableEq, Repr

/-- The kind as messages name it. -/
def GroupKind.describe : GroupKind → String
  | struct => "struct"
  | enum => "enum"

/-- A type as it is written, with references of type `α`. -/
inductive TypeExpr (α : Type) where
  | reference (target : α)
  | builtin (leaf : Builtin)
  | modified (modifier : Modifier) (inner : TypeExpr α)
  | struct (fields : List (String × TypeExpr α))
  | enum (members : List String)
  deriving Repr

namespace TypeExpr

variable {α : Type}

/-- The type a word without modifiers stands for. -/
def ofWord (word : String) : TypeExpr String :=
  match Builtin.ofWord? word with
  | some leaf => .builtin leaf
  | none => .reference word

mutual

/-- The type as it is written where it is used, with the given names for its references. -/
def print (name : α → String) : TypeExpr α → String
  | .reference target => name target
  | .builtin leaf => leaf.spelling
  | .modified modifier inner => modifier.spelling ++ print name inner
  | .struct fields => "(" ++ ", ".intercalate (printFields name fields) ++ ")"
  | .enum members => "(" ++ ", ".intercalate members ++ ")"

/-- The fields of a struct as they are written. -/
def printFields (name : α → String) : List (String × TypeExpr α) → List String
  | [] => []
  | (field, type) :: rest => (field ++ ": " ++ print name type) :: printFields name rest

end

mutual

/-- Whether two types are written alike. -/
def same [DecidableEq α] : TypeExpr α → TypeExpr α → Bool
  | .reference a, .reference b => a = b
  | .builtin a, .builtin b => a = b
  | .modified m a, .modified n b => m = n && same a b
  | .struct fs, .struct gs => sameFields fs gs
  | .enum ms, .enum ns => ms = ns
  | _, _ => false

/-- Whether two lists of fields are written alike. -/
def sameFields [DecidableEq α] :
    List (String × TypeExpr α) → List (String × TypeExpr α) → Bool
  | [], [] => true
  | (f, a) :: fs, (g, b) :: gs => f = g && same a b && sameFields fs gs
  | _, _ => false

end

/-- Induction over a type and the types of its fields. -/
@[elab_as_elim]
theorem induction {motive : TypeExpr α → Prop}
    (reference : ∀ target, motive (.reference target))
    (builtin : ∀ leaf, motive (.builtin leaf))
    (modified : ∀ modifier inner, motive inner → motive (.modified modifier inner))
    (struct : ∀ fields, (∀ field ∈ fields, motive field.2) → motive (.struct fields))
    (enum : ∀ members, motive (.enum members)) (type : TypeExpr α) : motive type :=
  TypeExpr.rec (motive_1 := motive) (motive_2 := fun fields => ∀ field ∈ fields, motive field.2)
    (motive_3 := fun field => motive field.2) reference builtin modified struct enum (by simp)
    (fun _ _ head tail => List.forall_mem_cons.mpr ⟨head, tail⟩) (fun _ _ h => h) type

theorem same_iff [DecidableEq α] (a b : TypeExpr α) : same a b = true ↔ a = b := by
  induction a using TypeExpr.induction generalizing b with
  | reference => cases b <;> simp [same]
  | builtin => cases b <;> simp [same]
  | enum => cases b <;> simp [same]
  | modified m a ih => cases b <;> simp [same, ih]
  | struct fs ih =>
    cases b with
    | struct gs =>
      simp only [same, TypeExpr.struct.injEq]
      induction fs generalizing gs with
      | nil => cases gs <;> simp [sameFields]
      | cons f fs step =>
        have head := ih f (List.mem_cons_self ..)
        have tail := step fun g hg => ih g (List.mem_cons_of_mem _ hg)
        cases gs with
        | nil => simp [sameFields]
        | cons g gs => simp [sameFields, head, tail, Prod.ext_iff, and_assoc]
    | _ => simp [same]

instance [DecidableEq α] : DecidableEq (TypeExpr α) := fun a b =>
  decidable_of_iff _ (same_iff a b)

end TypeExpr

end Varlink
