import Varlink.Proofs.Interface.Linking
import Varlink.Proofs.Interface.Table

/-!
# Places in a document

A type inside another one is told by the way to it: which child to go to, level by level. Equal
types may stand in many places of a document, so a place, and not the type found there, is what a
number is given to. The places of groups and modifiers are listed here in the order in which they
come to an end, which is the order of their numbers.
-/

namespace Varlink

section Indexed

variable {α β : Type} {size : α → Nat} (block : α → Nat → List β)
  (sized : ∀ item index, (block item index).length = size item)
include sized

theorem length_flatMap_zipIdx (items : List α) (base : Nat) :
    ((items.zipIdx base).flatMap fun (item, index) => block item index).length =
      (items.map size).sum := by
  induction items generalizing base with
  | nil => rfl
  | cons item items ih =>
      rw [List.zipIdx_cons, List.flatMap_cons, List.length_append, sized, ih, List.map_cons,
        List.sum_cons]

/-- What stands at some position of a list of blocks stands in the block of some item, behind the
blocks of the items before it. -/
theorem exists_of_getElem?_flatMap_zipIdx {items : List α} {base position : Nat} {found : β}
    (h : ((items.zipIdx base).flatMap fun (item, index) => block item index)[position]? =
      some found) :
    ∃ index item inner, items[index]? = some item ∧
      (block item (base + index))[inner]? = some found ∧
        position = offset size items index + inner := by
  induction items generalizing base position with
  | nil => cases h
  | cons head items ih =>
      rw [List.zipIdx_cons, List.flatMap_cons] at h
      rcases getElem?_append_cases h with here | ⟨behind, rfl, later⟩
      · exact ⟨0, head, position, rfl, here, (Nat.zero_add _).symm⟩
      · obtain ⟨index, item, inner, inside, listed, rfl⟩ := ih later
        refine ⟨index + 1, item, inner, inside, ?_, ?_⟩
        · rw [← Nat.add_assoc, Nat.add_right_comm]
          exact listed
        · rw [sized, offset_cons_succ]
          omega

end Indexed

namespace TypeExpr

variable {α β : Type}

/-- The types right inside a type. -/
def children : TypeExpr α → List (TypeExpr α)
  | .modified _ inner => [inner]
  | .struct fields => fields.map (·.2)
  | _ => []

/-- The type that a path leads to. -/
def nodeAt? (type : TypeExpr α) : (path : List Nat) → Option (TypeExpr α)
  | [] => some type
  | index :: path => type.children[index]?.bind fun child => child.nodeAt? path

/-- Whether a type is made of others or of names, so that it gets a number of its own. -/
def isComposite : TypeExpr α → Bool
  | .reference _ | .builtin _ => false
  | _ => true

mutual

/-- The paths to the groups and modifiers of a type, the inner ones first. -/
def places : TypeExpr α → List (List Nat)
  | .reference _ => []
  | .builtin _ => []
  | .modified _ inner => (places inner).map (0 :: ·) ++ [[]]
  | .struct fields => fieldPlaces 0 fields ++ [[]]
  | .enum _ => [[]]

/-- The paths to the groups and modifiers of fields, the first of which is the child `index`. -/
def fieldPlaces (index : Nat) : List (String × TypeExpr α) → List (List Nat)
  | [] => []
  | (_, type) :: rest => (places type).map (index :: ·) ++ fieldPlaces (index + 1) rest

end

@[simp] theorem nodeAt?_nil (type : TypeExpr α) : type.nodeAt? [] = some type := rfl

@[simp] theorem nodeAt?_cons (type : TypeExpr α) (index : Nat) (path : List Nat) :
    type.nodeAt? (index :: path) = type.children[index]?.bind fun child => child.nodeAt? path :=
  rfl

theorem nodeAt?_append (type : TypeExpr α) (path after : List Nat) :
    type.nodeAt? (path ++ after) = (type.nodeAt? path).bind fun inner => inner.nodeAt? after := by
  induction path generalizing type with
  | nil => rfl
  | cons index path ih =>
      rw [List.cons_append, nodeAt?_cons, nodeAt?_cons]
      cases type.children[index]? with
      | none => rfl
      | some child => exact ih child

section Rename

variable (f : α → β)

theorem renameFields_eq_map (fields : List (String × TypeExpr α)) :
    renameFields f fields = fields.map fun field => (field.1, field.2.rename f) := by
  induction fields with
  | nil => rfl
  | cons field fields ih => rw [renameFields, ih, List.map_cons]

theorem children_rename (type : TypeExpr α) :
    (type.rename f).children = type.children.map (rename f) := by
  cases type with
  | struct fields =>
      rw [rename, children, children, renameFields_eq_map, List.map_map, List.map_map]
      rfl
  | _ => rfl

theorem isComposite_rename (type : TypeExpr α) :
    (type.rename f).isComposite = type.isComposite := by
  cases type <;> rfl

/-- Exchanging references does not move anything. -/
theorem nodeAt?_rename (type : TypeExpr α) (path : List Nat) :
    (type.rename f).nodeAt? path = (type.nodeAt? path).map (rename f) := by
  induction path generalizing type with
  | nil => rfl
  | cons index path ih =>
      rw [nodeAt?_cons, nodeAt?_cons, children_rename, List.getElem?_map]
      cases type.children[index]? with
      | none => rfl
      | some child => exact ih child

theorem places_rename (type : TypeExpr α) : (type.rename f).places = type.places := by
  induction type using TypeExpr.induction with
  | reference => rfl
  | builtin => rfl
  | modified modifier inner ih => rw [rename, places, ih, places]
  | enum => rfl
  | struct fields ih =>
      rw [rename, places, places]
      congr 1
      generalize 0 = index
      induction fields generalizing index with
      | nil => rfl
      | cons field fields step =>
          obtain ⟨head, tail⟩ := List.forall_mem_cons.mp ih
          rw [renameFields, fieldPlaces, fieldPlaces, head, step tail]

end Rename

/-- A type has as many places as it takes numbers. -/
@[simp] theorem length_places (type : TypeExpr α) : type.places.length = type.numberCount := by
  induction type using TypeExpr.induction with
  | reference => rfl
  | builtin => rfl
  | modified modifier inner ih => simp [places, numberCount, ih]
  | enum => rfl
  | struct fields ih =>
      rw [places, numberCount, List.length_append, List.length_singleton]
      congr 1
      generalize 0 = index
      induction fields generalizing index with
      | nil => rfl
      | cons field fields step =>
          obtain ⟨head, tail⟩ := List.forall_mem_cons.mp ih
          rw [fieldPlaces, fieldsNumberCount, List.length_append, List.length_map, head, step tail]

theorem numberCount_rename (f : α → β) (type : TypeExpr α) :
    (type.rename f).numberCount = type.numberCount := by
  rw [← length_places, places_rename, length_places]

theorem fieldPlaces_eq (index : Nat) (fields : List (String × TypeExpr α)) :
    fieldPlaces index fields = (fields.zipIdx index).flatMap fun (field, index) =>
      field.2.places.map (index :: ·) := by
  induction fields generalizing index with
  | nil => rfl
  | cons field fields ih => rw [fieldPlaces, ih, List.zipIdx_cons, List.flatMap_cons]

theorem length_fieldPlaces (index : Nat) (fields : List (String × TypeExpr α)) :
    (fieldPlaces index fields).length = fieldsNumberCount fields := by
  rw [fieldPlaces_eq, fieldsNumberCount_eq]
  exact length_flatMap_zipIdx
    (fun (field : String × TypeExpr α) index => field.2.places.map (index :: ·))
    (fun field _ => (List.length_map _).trans (length_places field.2)) ..

/-- The places in fields come field by field, each field taking as many as its type does. -/
theorem exists_of_getElem?_fieldPlaces {position : Nat} {fields : List (String × TypeExpr α)}
    {path : List Nat} (h : (fieldPlaces 0 fields)[position]? = some path) :
    ∃ index field rest inner, fields[index]? = some field ∧ path = index :: rest ∧
      field.2.places[inner]? = some rest ∧ position = offset fieldCount fields index + inner := by
  rw [fieldPlaces_eq] at h
  obtain ⟨index, field, inner, inside, listed, same⟩ := exists_of_getElem?_flatMap_zipIdx
    (fun (field : String × TypeExpr α) index => field.2.places.map (index :: ·))
    (fun field _ => (List.length_map _).trans (length_places field.2)) h
  rw [List.getElem?_map, Nat.zero_add] at listed
  obtain ⟨rest, inField, rfl⟩ := Option.map_eq_some_iff.mp listed
  exact ⟨index, field, rest, inner, inside, rfl, inField, same⟩

theorem mem_fieldPlaces {index : Nat} {fields : List (String × TypeExpr α)}
    {field : String × TypeExpr α} {rest : List Nat} (found : fields[index]? = some field)
    (inside : rest ∈ field.2.places) : index :: rest ∈ fieldPlaces 0 fields := by
  rw [fieldPlaces_eq]
  have indexed : (field, index) ∈ fields.zipIdx := List.mem_zipIdx_iff_getElem?.mpr found
  exact List.mem_flatMap.mpr ⟨_, indexed, List.mem_map_of_mem inside⟩

/-- The places are those of groups and modifiers, and no others. -/
theorem mem_places {type : TypeExpr α} {path : List Nat} :
    path ∈ type.places ↔ ∃ node, type.nodeAt? path = some node ∧ node.isComposite := by
  induction type using TypeExpr.induction generalizing path with
  | reference target => cases path <;> simp [places, children, isComposite]
  | builtin leaf => cases path <;> simp [places, children, isComposite]
  | enum members => cases path <;> simp [places, children, isComposite]
  | modified modifier inner ih =>
      rw [places, List.mem_append, List.mem_map, List.mem_singleton]
      rcases path with _ | ⟨_ | index, path⟩
      · simp [isComposite]
      · simp [children, ih]
      · simp [children]
  | struct fields ih =>
      rw [places, List.mem_append, List.mem_singleton]
      constructor
      · rintro (inside | rfl)
        · obtain ⟨position, listed⟩ := List.mem_iff_getElem?.mp inside
          obtain ⟨index, field, rest, inner, found, rfl, at_, -⟩ :=
            exists_of_getElem?_fieldPlaces listed
          obtain ⟨node, reached, composite⟩ :=
            (ih field (List.mem_of_getElem? found)).mp (List.mem_of_getElem? at_)
          exact ⟨node, by simp [children, found, reached], composite⟩
        · exact ⟨_, rfl, rfl⟩
      · rintro ⟨node, reached, composite⟩
        cases path with
        | nil => exact .inr rfl
        | cons index path =>
            obtain ⟨child, isChild, reached⟩ := Option.bind_eq_some_iff.mp reached
            rw [children, List.getElem?_map] at isChild
            obtain ⟨field, found, rfl⟩ := Option.map_eq_some_iff.mp isChild
            have inside := (ih field (List.mem_of_getElem? found)).mpr ⟨node, reached, composite⟩
            exact .inl (mem_fieldPlaces found inside)

example : (TypeExpr.struct [("a", .modified .array (.enum ["x"])), ("b", .builtin .bool)] :
    TypeExpr String).places = [[0, 0], [0], []] := rfl

theorem mem_dropLast_concat {before : List (List Nat)} {path : List Nat}
    (nonempty : ∀ path ∈ before, path ≠ []) :
    path ∈ (before ++ [[]]).dropLast ↔ path ∈ before ++ [[]] ∧ path ≠ [] := by
  rw [List.dropLast_concat, List.mem_append, List.mem_singleton]
  constructor
  · intro inside
    exact ⟨.inl inside, nonempty path inside⟩
  · rintro ⟨inside, notEmpty⟩
    exact inside.resolve_right notEmpty

/-- The type itself comes last among its places. -/
theorem mem_dropLast_places {type : TypeExpr α} {path : List Nat} :
    path ∈ type.places.dropLast ↔ path ∈ type.places ∧ path ≠ [] := by
  cases type with
  | reference target => simp [places]
  | builtin leaf => simp [places]
  | enum members => simp [places]
  | modified modifier inner =>
      apply mem_dropLast_concat
      intro path inside
      obtain ⟨rest, -, rfl⟩ := List.mem_map.mp inside
      exact List.cons_ne_nil _ _
  | struct fields =>
      apply mem_dropLast_concat
      intro path inside
      obtain ⟨position, listed⟩ := List.mem_iff_getElem?.mp inside
      obtain ⟨index, field, rest, inner, -, rfl, -, -⟩ := exists_of_getElem?_fieldPlaces listed
      exact List.cons_ne_nil _ _

theorem mem_references_of_child {type child : TypeExpr α} {target : α}
    (inside : child ∈ type.children) (h : target ∈ child.references) :
    target ∈ type.references := by
  cases type with
  | modified modifier inner =>
      obtain rfl := List.mem_singleton.mp inside
      exact h
  | struct fields =>
      obtain ⟨field, inField, rfl⟩ := List.mem_map.mp inside
      exact mem_fieldReferences.mpr ⟨field, inField, h⟩
  | _ => cases inside

/-- What a type refers to at some place is among its references. -/
theorem mem_references_of_nodeAt? {type : TypeExpr α} {path : List Nat} {target : α}
    (h : type.nodeAt? path = some (.reference target)) : target ∈ type.references := by
  induction path generalizing type with
  | nil =>
      obtain rfl := Option.some.inj h
      exact List.mem_singleton_self _
  | cons index path ih =>
      obtain ⟨child, found, reached⟩ := Option.bind_eq_some_iff.mp h
      exact mem_references_of_child (List.mem_of_getElem? found) (ih reached)

end TypeExpr

/-- A place in a document: the root it is under and the path from there. -/
structure Place where
  root : Nat
  path : List Nat
  deriving DecidableEq, Repr

namespace Document

/-- The types of methods, parameters before results, and of errors. -/
def signatureTypes (document : Document) : List (TypeExpr String) :=
  document.methods.flatMap (fun method => [method.parameters, method.results]) ++
    document.errors.map (·.parameters)

/-- The types that stand on their own: the bodies of declarations, then the types of signatures. -/
def roots (document : Document) : List (TypeExpr String) :=
  document.typedefs.map (·.body) ++ document.signatureTypes

/-- The type at a place. -/
def nodeAt? (document : Document) (place : Place) : Option (TypeExpr String) :=
  document.roots[place.root]?.bind fun type => type.nodeAt? place.path

theorem roots_signature (document : Document) (index : Nat) :
    document.roots[document.typedefs.length + index]? = document.signatureTypes[index]? := by
  rw [roots, List.getElem?_append_right (by simp), List.length_map, Nat.add_sub_cancel_left]

theorem nodeAt?_child {document : Document} {root : Nat} {path : List Nat}
    {node : TypeExpr String} (h : document.nodeAt? ⟨root, path⟩ = some node) (index : Nat) :
    document.nodeAt? ⟨root, path ++ [index]⟩ = node.children[index]? := by
  obtain ⟨type, isRoot, reached⟩ := Option.bind_eq_some_iff.mp h
  rw [nodeAt?, isRoot, Option.bind_some, TypeExpr.nodeAt?_append, reached, Option.bind_some]
  exact Option.bind_fun_some _

/-- The places of the groups and modifiers that are no declarations, root by root. The body of a
declaration comes last among its places, and is the one left out. -/
def inner (document : Document) : List Place :=
  (document.typedefs.zipIdx).flatMap (fun (typedef, root) =>
    typedef.body.places.dropLast.map (Place.mk root)) ++
  (document.signatureTypes.zipIdx document.typedefs.length).flatMap fun (type, root) =>
    type.places.map (Place.mk root)

/-- The places of all groups and modifiers: first the bodies of declarations, then the others. -/
def slots (document : Document) : List Place :=
  (List.range document.typedefs.length).map (Place.mk · []) ++ document.inner

/-- How many numbers the types inside a declaration take. -/
def innerCount (typedef : TypeDef) : Nat := typedef.body.numberCount - 1

theorem length_inner (document : Document) : document.inner.length =
    (document.typedefs.map innerCount).sum +
      (document.signatureTypes.map TypeExpr.numberCount).sum := by
  rw [inner, List.length_append]
  congr 1
  · exact length_flatMap_zipIdx
      (fun (typedef : TypeDef) root => typedef.body.places.dropLast.map (Place.mk root))
      (fun typedef _ => by simp [innerCount]) ..
  · exact length_flatMap_zipIdx
      (fun (type : TypeExpr String) root => type.places.map (Place.mk root))
      (fun type _ => by simp) ..

/-- A place among those listed belongs to a declaration or to a signature. -/
theorem exists_of_getElem?_inner {document : Document} {position : Nat} {place : Place}
    (h : document.inner[position]? = some place) :
    (∃ index typedef path inner, document.typedefs[index]? = some typedef ∧
      place = ⟨index, path⟩ ∧ typedef.body.places.dropLast[inner]? = some path ∧
      position = offset innerCount document.typedefs index + inner) ∨
    ∃ index type path inner, document.signatureTypes[index]? = some type ∧
      place = ⟨document.typedefs.length + index, path⟩ ∧ type.places[inner]? = some path ∧
      position = (document.typedefs.map innerCount).sum +
        (offset TypeExpr.numberCount document.signatureTypes index + inner) := by
  have sized : ∀ (typedef : TypeDef) (root : Nat),
      (typedef.body.places.dropLast.map (Place.mk root)).length = innerCount typedef :=
    fun typedef _ => by simp [innerCount]
  have total := length_flatMap_zipIdx
    (fun (typedef : TypeDef) root => typedef.body.places.dropLast.map (Place.mk root)) sized
    document.typedefs 0
  rw [inner] at h
  rcases getElem?_append_cases h with isInner | ⟨behind, rfl, isInner⟩
  · obtain ⟨index, typedef, inner, inside, listed, same⟩ := exists_of_getElem?_flatMap_zipIdx
      (fun (typedef : TypeDef) root => typedef.body.places.dropLast.map (Place.mk root)) sized
      isInner
    rw [List.getElem?_map, Nat.zero_add] at listed
    obtain ⟨path, inBody, rfl⟩ := Option.map_eq_some_iff.mp listed
    exact .inl ⟨index, typedef, path, inner, inside, rfl, inBody, same⟩
  · obtain ⟨index, type, inner, inside, listed, rfl⟩ := exists_of_getElem?_flatMap_zipIdx
      (fun (type : TypeExpr String) root => type.places.map (Place.mk root))
      (fun type _ => (List.length_map _).trans (TypeExpr.length_places type)) isInner
    rw [List.getElem?_map] at listed
    obtain ⟨path, inType, rfl⟩ := Option.map_eq_some_iff.mp listed
    exact .inr ⟨index, type, path, inner, inside, rfl, inType, by rw [total]⟩

/-- Every group and modifier has its place in the list, unless it is the body of a declaration. -/
theorem mem_inner {document : Document} {place : Place} {node : TypeExpr String}
    (reached : document.nodeAt? place = some node) (composite : node.isComposite)
    (inside : place.path ≠ [] ∨ document.typedefs.length ≤ place.root) :
    place ∈ document.inner := by
  obtain ⟨root, path⟩ := place
  obtain ⟨type, isRoot, reached⟩ := Option.bind_eq_some_iff.mp reached
  have listed := TypeExpr.mem_places.mpr ⟨node, reached, composite⟩
  rcases getElem?_append_cases isRoot with isBody | ⟨index, rfl, isSignature⟩
  · rw [List.getElem?_map] at isBody
    obtain ⟨typedef, found, rfl⟩ := Option.map_eq_some_iff.mp isBody
    have declared := (List.getElem?_eq_some_iff.mp found).1
    have nonempty : path ≠ [] := inside.resolve_right (Nat.not_le_of_lt declared)
    refine List.mem_append_left _ (List.mem_flatMap.mpr ⟨(typedef, root), ?_, ?_⟩)
    · exact List.mem_zipIdx_iff_getElem?.mpr found
    · exact List.mem_map_of_mem (TypeExpr.mem_dropLast_places.mpr ⟨listed, nonempty⟩)
  · rw [List.length_map]
    refine List.mem_append_right _ (List.mem_flatMap.mpr
      ⟨(type, document.typedefs.length + index), ?_, List.mem_map_of_mem listed⟩)
    rw [List.mem_zipIdx_iff_le_and_getElem?_sub, Nat.add_sub_cancel_left]
    exact ⟨Nat.le_add_right .., isSignature⟩

end Document

end Varlink
