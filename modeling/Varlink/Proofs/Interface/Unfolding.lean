import Varlink.Proofs.Interface.Places

/-!
# The table of types as a graph

An interface is used through its table, where a type is known by its number and finds the types
inside it by their numbers. Following these numbers from a declaration or signature goes through the
document in step: what is found in the table is what is written at the same place, and where a name
is written, it is the one entry of the declaration of that name. Every group and modifier has an
entry of its own, and there are no other entries than these and the built-in types.

The numbers along a path are computed from the block a type has in the table. So the argument goes
by induction over the type with its block as the only assumption, and is used once for every
declaration and signature.
-/

namespace Varlink

/-- The numbers of the types right inside a type. -/
def Shape.children : Shape → List Nat
  | .modified _ inner => [inner]
  | .struct fields => fields.map (·.2)
  | _ => []

namespace Interface

variable {interface : Interface} {number first : Nat} {path : String}

/-- What kind of type has a number. -/
def shape? (interface : Interface) (number : Nat) : Option Shape :=
  (interface.type? number).map (·.shape)

/-- The number that a path leads to through the table. -/
def follow (interface : Interface) (number : Nat) : (path : List Nat) → Option Nat
  | [] => some number
  | index :: path =>
    (interface.shape? number).bind fun shape =>
      shape.children[index]?.bind fun child => interface.follow child path

/-- The table has the same at a number as is written: a group or modifier of the same kind with the
same members, the shared entry of a built-in type, or the entry a reference stands for. -/
def Shows {α : Type} (interface : Interface) (declared : α → Nat → Prop) :
    TypeExpr α → (number : Nat) → Prop
  | .reference target, number => declared target number
  | .builtin leaf, number => number = leaf.number
  | .modified modifier _, number =>
    ∃ inner, interface.shape? number = some (.modified modifier inner)
  | .struct fields, number =>
    ∃ members, interface.shape? number = some (.struct members) ∧
      members.map (·.1) = fields.map (·.1)
  | .enum members, number => interface.shape? number = some (.enum members)

/-- A reference stands for the entry of the declaration with its index. -/
def IsTypedef (index number : Nat) : Prop := number = typedefNumber index

/-- Following paths from a number shows what is written there. -/
def ShowsBelow (interface : Interface) (type : LinkedType) (number : Nat) : Prop :=
  ∀ path node, type.nodeAt? path = some node →
    ∃ reached, interface.follow number path = some reached ∧
      interface.Shows IsTypedef node reached

/-- A type whose entries start at `first` is found at `number`: what is written at each of its paths
shows there, and its places have the numbers from `first` on. -/
structure Unfolds (interface : Interface) (type : LinkedType) (number first : Nat) : Prop where
  shows : interface.ShowsBelow type number
  numbers : ∀ position path, type.places[position]? = some path →
    interface.follow number path = some (first + position)

@[simp] theorem follow_nil (interface : Interface) (number : Nat) :
    interface.follow number [] = some number := rfl

theorem follow_append (interface : Interface) (number : Nat) (path after : List Nat) :
    interface.follow number (path ++ after) =
      (interface.follow number path).bind fun reached => interface.follow reached after := by
  induction path generalizing number with
  | nil => rfl
  | cons index path ih =>
      rw [List.cons_append, follow, follow]
      cases interface.shape? number with
      | none => rfl
      | some shape =>
          rw [Option.bind_some, Option.bind_some]
          cases shape.children[index]? with
          | none => rfl
          | some child => exact ih child

theorem shape?_of_last {before : List TypeEntry} {entry : TypeEntry}
    (holds : interface.Holds first (before ++ [entry])) :
    interface.shape? (first + before.length) = some entry.shape := by
  rw [shape?, holds.last]
  rfl

/-- A type with nothing inside it shows below a number if it shows there. -/
theorem showsBelow_leaf {type : LinkedType} (leaf : type.children = [])
    (shown : interface.Shows IsTypedef type number) : interface.ShowsBelow type number := by
  intro path node reached
  cases path with
  | nil =>
      obtain rfl := Option.some.inj reached
      exact ⟨number, rfl, shown⟩
  | cons index path =>
      rw [TypeExpr.nodeAt?_cons, leaf] at reached
      cases reached

section Fields

variable {fields : Fields}
  (isStruct : interface.shape? number = some (.struct (TypeExpr.fieldNumbers first fields)))
include isStruct

theorem follow_field {index : Nat} {field : String × LinkedType}
    (inside : fields[index]? = some field) (path : List Nat) :
    interface.follow number (index :: path) = interface.follow
      (field.2.number (first + offset TypeExpr.fieldCount fields index)) path := by
  rw [follow, isStruct, Option.bind_some, Shape.children, TypeExpr.fieldNumbers_eq, List.map_map,
    List.getElem?_map, getElem?_numberFrom, inside]
  rfl

variable (holds : interface.Holds first (TypeExpr.fieldEntries path first fields))
  (each : ∀ field ∈ fields, ∀ path first, interface.Holds first (field.2.entries path first) →
    interface.Unfolds field.2 (field.2.number first) first)
include holds each

theorem showsBelow_struct : interface.ShowsBelow (.struct fields) number := by
  rintro (_ | ⟨index, path⟩) node reached
  · obtain rfl := Option.some.inj reached
    exact ⟨number, rfl, _, isStruct, TypeExpr.fieldNumbers_names first fields⟩
  · obtain ⟨child, isChild, reached⟩ := Option.bind_eq_some_iff.mp reached
    rw [TypeExpr.children, List.getElem?_map] at isChild
    obtain ⟨field, inside, rfl⟩ := Option.map_eq_some_iff.mp isChild
    rw [follow_field isStruct inside]
    have below := each field (List.mem_of_getElem? inside) _ _ (holds.field inside)
    exact below.shows path node reached

theorem numbers_struct {position : Nat} {path : List Nat}
    (h : (TypeExpr.fieldPlaces 0 fields)[position]? = some path) :
    interface.follow number path = some (first + position) := by
  obtain ⟨index, field, rest, inner, inside, rfl, inField, rfl⟩ :=
    TypeExpr.exists_of_getElem?_fieldPlaces h
  have below := each field (List.mem_of_getElem? inside) _ _ (holds.field inside)
  rw [follow_field isStruct inside, below.numbers _ _ inField, Nat.add_assoc]

end Fields

theorem unfolds_struct {fields : Fields}
    (isStruct : interface.shape? (first + TypeExpr.fieldsNumberCount fields) =
      some (.struct (TypeExpr.fieldNumbers first fields)))
    (holds : interface.Holds first (TypeExpr.fieldEntries path first fields))
    (each : ∀ field ∈ fields, ∀ path first, interface.Holds first (field.2.entries path first) →
      interface.Unfolds field.2 (field.2.number first) first) :
    interface.Unfolds (.struct fields) (first + TypeExpr.fieldsNumberCount fields) first := by
  refine ⟨showsBelow_struct isStruct holds each, ?_⟩
  intro position path listed
  rcases getElem?_concat listed with listed | ⟨rfl, rfl⟩
  · exact numbers_struct isStruct holds each listed
  · rw [TypeExpr.length_fieldPlaces]
    rfl

/-- A type unfolds wherever the table holds its entries. -/
theorem unfolds_of_holds {type : LinkedType}
    (holds : interface.Holds first (type.entries path first)) :
    interface.Unfolds type (type.number first) first := by
  induction type using TypeExpr.induction generalizing path first with
  | reference index =>
      refine ⟨showsBelow_leaf rfl rfl, ?_⟩
      intro position path listed
      cases listed
  | builtin leaf =>
      refine ⟨showsBelow_leaf rfl rfl, ?_⟩
      intro position path listed
      cases listed
  | modified modifier inner ih =>
      have isModified : interface.shape? (first + inner.numberCount) =
          some (.modified modifier (inner.number first)) := by
        simpa using shape?_of_last holds
      have down : ∀ path, interface.follow (first + inner.numberCount) (0 :: path) =
          interface.follow (inner.number first) path := by
        intro path
        rw [follow, isModified]
        rfl
      have below := ih holds.left
      constructor
      · rintro (_ | ⟨_ | _, path⟩) node reached
        · obtain rfl := Option.some.inj reached
          exact ⟨_, rfl, _, isModified⟩
        · obtain ⟨number, followed, shown⟩ := below.shows path node reached
          exact ⟨number, (down path).trans followed, shown⟩
        · cases reached
      · intro position path listed
        rcases getElem?_concat listed with listed | ⟨rfl, rfl⟩
        · rw [List.getElem?_map] at listed
          obtain ⟨rest, inInner, rfl⟩ := Option.map_eq_some_iff.mp listed
          exact (down rest).trans (below.numbers position rest inInner)
        · rw [List.length_map, TypeExpr.length_places]
          rfl
  | enum members =>
      have isEnum : interface.shape? first = some (.enum members) := by
        rw [shape?, ← Nat.add_zero first, holds 0 _ rfl]
        rfl
      refine ⟨showsBelow_leaf rfl isEnum, ?_⟩
      rintro (_ | _) path listed
      · obtain rfl := Option.some.inj listed
        rfl
      · cases listed
  | struct fields ih =>
      exact unfolds_struct (by simpa using shape?_of_last holds) holds.left
        fun field inside _ _ => ih field inside

/-- A declaration unfolds from its own entry, which is not among those of the types inside it. -/
theorem group_unfolds {group : Group} (isGroup : interface.shape? number = some (group.shape first))
    (holds : interface.Holds first (TypeExpr.fieldEntries path first group.fields)) :
    interface.ShowsBelow group.toType number ∧
      ∀ position path, group.toType.places.dropLast[position]? = some path →
        interface.follow number path = some (first + position) := by
  cases group with
  | struct fields =>
      have each : ∀ field ∈ fields, ∀ path first,
          interface.Holds first (field.2.entries path first) →
            interface.Unfolds field.2 (field.2.number first) first :=
        fun _ _ _ _ => unfolds_of_holds
      refine ⟨showsBelow_struct isGroup holds each, ?_⟩
      intro position path listed
      rw [Group.toType, TypeExpr.places, List.dropLast_concat] at listed
      exact numbers_struct isGroup holds each listed
  | enum members =>
      refine ⟨showsBelow_leaf rfl isGroup, ?_⟩
      intro position path listed
      cases listed

theorem signature_unfolds {signature : Signature}
    (holds : interface.Holds first (signature.entries path first)) :
    interface.Unfolds signature.toType (signature.number first) first := by
  cases signature with
  | inline fields =>
      exact unfolds_struct (by simpa using shape?_of_last holds) holds.left
        fun _ _ _ _ => unfolds_of_holds
  | declared index => exact @unfolds_of_holds interface first path (.reference index) holds

/-- The numbers of the declared types, then those of the signatures. -/
def rootNumbers (interface : Interface) : List Nat :=
  (List.range interface.typedefs.length).map typedefNumber ++ interface.signatureNumbers

/-- The number that the table gives to a place. -/
def numberAt? (interface : Interface) (place : Place) : Option Nat :=
  interface.rootNumbers[place.root]?.bind fun number => interface.follow number place.path

theorem numberAt?_child {root : Nat} {path : List Nat} {shape : Shape}
    (h : interface.numberAt? ⟨root, path⟩ = some number)
    (isShape : interface.shape? number = some shape) (index : Nat) :
    interface.numberAt? ⟨root, path ++ [index]⟩ = shape.children[index]? := by
  obtain ⟨start, isRoot, followed⟩ := Option.bind_eq_some_iff.mp h
  rw [numberAt?, isRoot, Option.bind_some, follow_append, followed, Option.bind_some, follow,
    isShape, Option.bind_some]
  exact Option.bind_fun_some _

/-- The bodies of declarations and the types of signatures. -/
def roots (interface : Interface) : List LinkedType :=
  interface.typedefs.map (·.body.toType) ++ interface.signatures.map (·.2.toType)

theorem signatureTypes_document (interface : Interface) : interface.document.signatureTypes =
    interface.signatures.map fun signature => signature.2.toType.rename interface.typedefName := by
  simp [Document.signatureTypes, document, signatures, List.map_flatMap, List.flatMap_map,
    Method.definition, ErrorCase.definition, Function.comp_def]

theorem roots_document (interface : Interface) : interface.document.roots =
    interface.roots.map (TypeExpr.rename interface.typedefName) := by
  rw [Document.roots, signatureTypes_document, roots, List.map_append, List.map_map, List.map_map,
    document, List.map_map]
  rfl

theorem rootNumbers_typedef {index : Nat} (bound : index < interface.typedefs.length) :
    interface.rootNumbers[index]? = some (typedefNumber index) := by
  rw [rootNumbers, List.getElem?_append_left (by simpa), List.getElem?_map,
    List.getElem?_range bound]
  rfl

theorem rootNumbers_signature (interface : Interface) (index : Nat) :
    interface.rootNumbers[interface.typedefs.length + index]? =
      interface.signatureNumbers[index]? := by
  rw [rootNumbers, List.getElem?_append_right (by simp), List.length_map, List.length_range,
    Nat.add_sub_cancel_left]

theorem shape?_typedef {index : Nat} {typedef : Typedef}
    (inside : interface.typedefs[index]? = some typedef) :
    interface.shape? (typedefNumber index) =
      some (typedef.body.shape (interface.typedefStart index)) := by
  rw [shape?, type?_typedef inside]
  rfl

/-- What stands on its own is the body of a declaration or the type of a signature. -/
theorem exists_of_roots {root : Nat} {type : LinkedType}
    (h : interface.roots[root]? = some type) :
    (∃ typedef, interface.typedefs[root]? = some typedef ∧ type = typedef.body.toType) ∨
      ∃ index name signature, root = interface.typedefs.length + index ∧
        interface.signatures[index]? = some (name, signature) ∧ type = signature.toType := by
  rcases getElem?_append_cases h with isBody | ⟨index, rfl, isSignature⟩
  · rw [List.getElem?_map] at isBody
    obtain ⟨typedef, found, rfl⟩ := Option.map_eq_some_iff.mp isBody
    exact .inl ⟨typedef, found, rfl⟩
  · rw [List.getElem?_map] at isSignature
    obtain ⟨⟨name, signature⟩, found, rfl⟩ := Option.map_eq_some_iff.mp isSignature
    exact .inr ⟨index, name, signature, by rw [List.length_map], found, rfl⟩

/-- Whatever stands on its own unfolds from its number. -/
theorem showsBelow_root {root : Nat} {type : LinkedType}
    (h : interface.roots[root]? = some type) :
    ∃ number, interface.rootNumbers[root]? = some number ∧ interface.ShowsBelow type number := by
  rcases exists_of_roots h with ⟨typedef, found, rfl⟩ | ⟨index, name, signature, rfl, found, rfl⟩
  · have declared := (List.getElem?_eq_some_iff.mp found).1
    exact ⟨_, rootNumbers_typedef declared,
      (group_unfolds (shape?_typedef found) (holds_typedef found)).1⟩
  · refine ⟨_, ?_, (signature_unfolds (holds_signature found)).shows⟩
    rw [rootNumbers_signature, getElem?_signatureNumbers, found]
    rfl

end Interface

end Varlink
