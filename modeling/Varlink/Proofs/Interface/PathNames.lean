import Mathlib.Data.List.Perm.Basic
import Varlink.Proofs.Interface.Declarations

/-!
# Names of groups in place

A group that is written in place is named after the way to it: the name of the declaration or
signature it stands in, followed by the capitalized names of the members on the way. Modifiers have no
member names, and a way ends where a name is written, so the name follows from the place alone and
not from how the place is reached.

The table gives names block by block, while it is filled. That they are the names of the places is
shown for one block first, by induction over its type, and then read off the table at the place's
number.
-/

namespace Varlink

namespace TypeExpr

variable {α β : Type}

/-- Whether a type is a struct or an enum. -/
def isGroup : TypeExpr α → Bool
  | .struct _ | .enum _ => true
  | _ => false

theorem isComposite_of_isGroup (type : TypeExpr α) (h : type.isGroup) : type.isComposite := by
  cases type with
  | struct fields => rfl
  | enum members => rfl
  | _ => cases h

/-- The name of the member a step goes to. A step into a modifier goes to no member. -/
def memberName? : TypeExpr α → (index : Nat) → Option String
  | .struct fields, index => fields[index]?.map (·.1)
  | _, _ => none

/-- The names of the members on a path. -/
def memberNames (type : TypeExpr α) : (path : List Nat) → List String
  | [] => []
  | index :: path => (type.memberName? index).toList ++
      type.children[index]?.elim [] fun child => child.memberNames path

/-- The name of what a path leads to, in a type that is named itself. -/
def pathName (name : String) (type : TypeExpr α) (path : List Nat) : String :=
  name ++ String.join ((type.memberNames path).map Text.capitalize)

@[simp] theorem pathName_nil (name : String) (type : TypeExpr α) :
    type.pathName name [] = name := by
  simp [pathName, memberNames]

theorem pathName_field {fields : List (String × TypeExpr α)} {index : Nat}
    {field : String × TypeExpr α} (found : fields[index]? = some field) (name : String)
    (path : List Nat) : (TypeExpr.struct fields).pathName name (index :: path) =
      field.2.pathName (memberPath name field.1) path := by
  simp [pathName, memberNames, memberName?, children, found, memberPath, String.append_assoc]

theorem pathName_modified (modifier : Modifier) (inner : TypeExpr α) (name : String)
    (path : List Nat) : (TypeExpr.modified modifier inner).pathName name (0 :: path) =
      inner.pathName name path := by
  simp [pathName, memberNames, memberName?, children]

theorem memberNames_concat (type : TypeExpr α) (path : List Nat) (index : Nat) :
    type.memberNames (path ++ [index]) = type.memberNames path ++
      ((type.nodeAt? path).bind fun node => node.memberName? index).toList := by
  induction path generalizing type with
  | nil =>
      rw [List.nil_append, memberNames, memberNames, nodeAt?_nil, Option.bind_some,
        List.nil_append]
      cases type.children[index]? <;> exact List.append_nil _
  | cons step path ih =>
      rw [List.cons_append, memberNames, memberNames, nodeAt?_cons, List.append_assoc]
      congr 1
      cases type.children[step]? with
      | none => rfl
      | some child => exact ih child

section Rename

variable (f : α → β)

theorem isGroup_rename (type : TypeExpr α) : (type.rename f).isGroup = type.isGroup := by
  cases type <;> rfl

theorem memberName?_rename (type : TypeExpr α) (index : Nat) :
    (type.rename f).memberName? index = type.memberName? index := by
  cases type with
  | struct fields =>
      rw [rename, memberName?, memberName?, renameFields_eq_map, List.getElem?_map, Option.map_map]
      rfl
  | _ => rfl

theorem memberNames_rename (type : TypeExpr α) (path : List Nat) :
    (type.rename f).memberNames path = type.memberNames path := by
  induction path generalizing type with
  | nil => rfl
  | cons index path ih =>
      rw [memberNames, memberNames, memberName?_rename, children_rename, List.getElem?_map]
      cases type.children[index]? with
      | none => rfl
      | some child => rw [Option.map_some, Option.elim_some, Option.elim_some, ih]

theorem pathName_rename (name : String) (type : TypeExpr α) (path : List Nat) :
    (type.rename f).pathName name path = type.pathName name path := by
  rw [pathName, pathName, memberNames_rename]

end Rename

/-- The name of a group at a path; what is no group has none. -/
def groupName? (name : String) (type : TypeExpr α) (path : List Nat) : Option String :=
  if (type.nodeAt? path).any isGroup then some (type.pathName name path) else none

theorem groupName?_field {fields : List (String × TypeExpr α)} {index : Nat}
    {field : String × TypeExpr α} (found : fields[index]? = some field) (name : String)
    (path : List Nat) : (TypeExpr.struct fields).groupName? name (index :: path) =
      field.2.groupName? (memberPath name field.1) path := by
  rw [groupName?, groupName?, pathName_field found, nodeAt?_cons, children, List.getElem?_map,
    found]
  rfl

/-- The entries of fields have the names of their places if the entries of each field do. -/
theorem name_of_fieldPlaces {fields : Fields}
    (each : ∀ field ∈ fields, ∀ (name : String) (first position : Nat) (path : List Nat),
      field.2.places[position]? = some path →
        ∃ entry : TypeEntry, (field.2.entries name first)[position]? = some entry ∧
          entry.name = field.2.groupName? name path)
    {position : Nat} {path : List Nat} (h : (fieldPlaces 0 fields)[position]? = some path)
    (name : String) (first : Nat) :
    ∃ entry, (fieldEntries name first fields)[position]? = some entry ∧
      entry.name = (TypeExpr.struct fields).groupName? name path := by
  obtain ⟨index, field, rest, inner, found, rfl, inField, rfl⟩ := exists_of_getElem?_fieldPlaces h
  obtain ⟨entry, isEntry, named⟩ :=
    each field (List.mem_of_getElem? found) (memberPath name field.1)
    (first + offset fieldCount fields index) inner rest inField
  refine ⟨entry, ?_, named.trans (groupName?_field found name rest).symm⟩
  rw [fieldEntries_eq]
  exact getElem?_flatMap_numberFrom
    (fun first (field : String × LinkedType) => field.2.entries (memberPath name field.1) first)
    (fun _ _ => length_entries ..) found isEntry

/-- The entries of a type have the names of its places. -/
theorem name_of_places {type : LinkedType} {position : Nat} {path : List Nat}
    (h : type.places[position]? = some path) (name : String) (first : Nat) :
    ∃ entry, (type.entries name first)[position]? = some entry ∧
      entry.name = type.groupName? name path := by
  induction type using TypeExpr.induction generalizing position path name first with
  | reference index => cases h
  | builtin leaf => cases h
  | modified modifier inner ih =>
      rcases getElem?_concat h with h | ⟨rfl, rfl⟩
      · rw [List.getElem?_map] at h
        obtain ⟨rest, inInner, rfl⟩ := Option.map_eq_some_iff.mp h
        obtain ⟨entry, isEntry, named⟩ := ih inInner name first
        refine ⟨entry, ?_, ?_⟩
        · rw [entries, List.getElem?_append_left (List.getElem?_eq_some_iff.mp isEntry).1]
          exact isEntry
        · rw [named, groupName?, groupName?, pathName_modified]
          rfl
      · rw [List.length_map, length_places, ← length_entries name first, entries,
          List.getElem?_concat_length]
        exact ⟨_, rfl, rfl⟩
  | struct fields ih =>
      rcases getElem?_concat h with h | ⟨rfl, rfl⟩
      · obtain ⟨entry, isEntry, named⟩ :=
          name_of_fieldPlaces (fun field inside name first _ _ found =>
            ih field inside found name first) h name first
        refine ⟨entry, ?_, named⟩
        rw [entries, List.getElem?_append_left (List.getElem?_eq_some_iff.mp isEntry).1]
        exact isEntry
      · rw [length_fieldPlaces, ← length_fieldEntries name first, entries,
          List.getElem?_concat_length]
        exact ⟨_, rfl, by rw [groupName?, pathName_nil]; rfl⟩
  | enum members =>
      rcases position with _ | position
      · obtain rfl := Option.some.inj h
        exact ⟨_, rfl, by rw [groupName?, pathName_nil]; rfl⟩
      · cases h

end TypeExpr

namespace Document

/-- The names of the types that stand on their own: those of the declarations, then `Args` and
`Result` for methods and `Args` for errors. -/
def rootNames (document : Document) : List String :=
  document.typedefs.map (·.name) ++
    (document.methods.flatMap (fun method => [method.name ++ "Args", method.name ++ "Result"]) ++
      document.errors.map (·.name ++ "Args"))

/-- The names of the members on the way to a place. -/
def memberNames (document : Document) (place : Place) : List String :=
  document.roots[place.root]?.elim [] fun type => type.memberNames place.path

/-- The name that a place gives to a group: that of its root, followed by the capitalized names of
the members on the way. Every place has a root, so the empty name is never used. -/
def pathName (document : Document) (place : Place) : String :=
  document.rootNames[place.root]?.getD "" ++
    String.join ((document.memberNames place).map Text.capitalize)

instance (document : Document) (place : Place) : Decidable (document.IsEmptySignature place) :=
  inferInstanceAs (Decidable (_ ∧ _ ∧ _))

/-- Whether a group stands at a place, other than a signature without fields. -/
def hasGroup (document : Document) (place : Place) : Bool :=
  (document.nodeAt? place).any TypeExpr.isGroup && !decide (document.IsEmptySignature place)

/-- The places of the groups that are written in place, without the signatures that have no
fields. -/
def inlineGroups (document : Document) : List Place := document.inner.filter document.hasGroup

theorem mem_inlineGroups_iff {document : Document} {place : Place} :
    place ∈ document.inlineGroups ↔
      document.hasGroup place ∧ (place.path ≠ [] ∨ document.typedefs.length ≤ place.root) := by
  rw [inlineGroups, List.mem_filter, and_comm]
  refine and_congr_right fun hasGroup => ⟨?_, ?_⟩
  · intro inside
    obtain ⟨position, listed⟩ := List.mem_iff_getElem?.mp inside
    rcases exists_of_getElem?_inner listed with ⟨index, typedef, path, _, -, rfl, inBody, -⟩ |
      ⟨index, type, path, _, -, rfl, -, -⟩
    · exact .inl (TypeExpr.mem_dropLast_places.mp (List.mem_of_getElem? inBody)).2
    · exact .inr (Nat.le_add_right ..)
  · intro outside
    obtain ⟨node, reached, isGroup⟩ :=
      (Option.any_eq_true _ _).mp (Bool.and_eq_true_iff.mp hasGroup).1
    exact mem_inner reached (node.isComposite_of_isGroup isGroup) outside

theorem pathName_of_root {document : Document} {root : Nat} {name : String}
    {type : TypeExpr String} (isName : document.rootNames[root]? = some name)
    (isRoot : document.roots[root]? = some type) (path : List Nat) :
    document.pathName ⟨root, path⟩ = type.pathName name path := by
  rw [pathName, memberNames, isName, isRoot]
  rfl

theorem pathName_concat {document : Document} {root : Nat} {path : List Nat}
    {node : TypeExpr String} (h : document.nodeAt? ⟨root, path⟩ = some node) (index : Nat) :
    document.pathName ⟨root, path ++ [index]⟩ =
      (node.memberName? index).elim (document.pathName ⟨root, path⟩)
        (memberPath (document.pathName ⟨root, path⟩)) := by
  obtain ⟨type, isRoot, reached⟩ := Option.bind_eq_some_iff.mp h
  have isRoot : document.roots[root]? = some type := isRoot
  have reached : type.nodeAt? path = some node := reached
  rw [pathName, pathName, memberNames, memberNames, isRoot, Option.elim_some, Option.elim_some,
    TypeExpr.memberNames_concat, reached, Option.bind_some]
  cases node.memberName? index with
  | none => simp
  | some member => simp [memberPath, String.append_assoc, String.join_append, String.join_cons]

end Document

/-- A type in place has a name just if it is a group. -/
theorem TypeEntry.InPlace.isDeclaration_iff {entry : TypeEntry} (h : entry.InPlace) :
    entry.isDeclaration = entry.name.isSome := by
  cases h <;> rfl

namespace Interface

variable {interface : Interface}

theorem rootNames_document (interface : Interface) : interface.document.rootNames =
    interface.typedefs.map (·.name) ++ interface.signatures.map (·.1) := by
  simp [Document.rootNames, document, signatures, List.map_flatMap, List.flatMap_map,
    Typedef.definition, Method.definition, ErrorCase.definition, Function.comp_def]

theorem rootNames_typedef {index : Nat} {typedef : Typedef}
    (found : interface.typedefs[index]? = some typedef) :
    interface.document.rootNames[index]? = some typedef.name := by
  have bound := (List.getElem?_eq_some_iff.mp found).1
  rw [rootNames_document, List.getElem?_append_left (by rwa [List.length_map]), List.getElem?_map,
    found]
  rfl

theorem rootNames_signature {index : Nat} {name : String} {signature : Signature}
    (found : interface.signatures[index]? = some (name, signature)) :
    interface.document.rootNames[interface.typedefs.length + index]? = some name := by
  rw [rootNames_document, List.getElem?_append_right (by simp), List.length_map,
    Nat.add_sub_cancel_left, List.getElem?_map, found]
  rfl

theorem pathName_document {root : Nat} {name : String} {type : LinkedType}
    (isName : interface.document.rootNames[root]? = some name)
    (isRoot : interface.roots[root]? = some type) (path : List Nat) :
    interface.document.pathName ⟨root, path⟩ = type.pathName name path := by
  have isRoot : interface.document.roots[root]? = some (type.rename interface.typedefName) := by
    rw [roots_document, List.getElem?_map, isRoot]
    rfl
  rw [Document.pathName_of_root isName isRoot, TypeExpr.pathName_rename]

/-- The name that a place of a document gives, if a group stands there. -/
def groupNameAt? (interface : Interface) (place : Place) : Option String :=
  if (interface.document.nodeAt? place).any TypeExpr.isGroup then
    some (interface.document.pathName place)
  else none

theorem groupNameAt?_of_root {root : Nat} {name : String} {type : LinkedType}
    (isName : interface.document.rootNames[root]? = some name)
    (isRoot : interface.roots[root]? = some type) (path : List Nat) :
    interface.groupNameAt? ⟨root, path⟩ = type.groupName? name path := by
  rw [groupNameAt?, TypeExpr.groupName?, pathName_document isName isRoot, nodeAt?_document, isRoot,
    Option.bind_some]
  cases type.nodeAt? path with
  | none => rfl
  | some node => rw [Option.map_some, Option.any_some, Option.any_some, TypeExpr.isGroup_rename]

/-- An entry inside a declaration or signature has the name of its place. -/
theorem name_inner {position : Nat} {place : Place}
    (h : interface.document.inner[position]? = some place) : ∃ entry,
      interface.innerEntries[position]? = some entry ∧
        entry.name = interface.groupNameAt? place := by
  rcases exists_of_inner h with ⟨index, typedef, path, inner, found, rfl, listed, same⟩ |
    ⟨index, name, signature, path, inner, found, rfl, listed, same⟩
  · obtain ⟨typedefName, body⟩ := typedef
    cases body with
    | enum members => cases listed
    | struct fields =>
        rw [Group.toType, TypeExpr.places, List.dropLast_concat] at listed
        obtain ⟨entry, isEntry, named⟩ := TypeExpr.name_of_fieldPlaces
          (fun _ _ name first _ _ found => TypeExpr.name_of_places found name first) listed
          typedefName (interface.typedefStart index)
        refine ⟨entry, ?_, ?_⟩
        · rw [← type?_inner, same]
          exact holds_typedef found inner entry isEntry
        · rw [named, groupNameAt?_of_root (rootNames_typedef found) (roots_typedef found)]
          rfl
  · cases signature with
    | declared target => cases listed
    | inline fields =>
        rw [groupNameAt?_of_root (rootNames_signature found) (roots_signature found),
          ← type?_inner, same]
        rcases getElem?_concat listed with listed | ⟨rfl, rfl⟩
        · obtain ⟨entry, isEntry, named⟩ := TypeExpr.name_of_fieldPlaces
            (fun _ _ name first _ _ found => TypeExpr.name_of_places found name first) listed
            name (interface.signatureStart index)
          exact ⟨entry, (holds_signature found).left inner entry isEntry, named⟩
        · have last := (holds_signature found).last
          rw [TypeExpr.length_fieldEntries, ← TypeExpr.length_fieldPlaces 0] at last
          refine ⟨_, last, ?_⟩
          rw [TypeExpr.groupName?, TypeExpr.pathName_nil]
          rfl

/-- The entry of a slot has the name of its place. -/
theorem name_slots {position : Nat} {place : Place}
    (h : interface.document.slots[position]? = some place) : ∃ entry,
      interface.type? (typedefNumber position) = some entry ∧
        entry.name = interface.groupNameAt? place := by
  rcases exists_of_slots h with ⟨declared, rfl⟩ | ⟨inner, rfl, inInner⟩
  · have found := List.getElem?_eq_getElem declared
    refine ⟨_, type?_typedef found, ?_⟩
    rw [groupNameAt?_of_root (rootNames_typedef found) (roots_typedef found),
      TypeExpr.groupName?, TypeExpr.pathName_nil]
    cases interface.typedefs[position].body <;> rfl
  · obtain ⟨entry, isEntry, named⟩ := name_inner inInner
    refine ⟨entry, ?_, named⟩
    rwa [typedefNumber, ← Nat.add_assoc, ← typedefNumber, ← firstInner, type?_inner]

end Interface

end Varlink
