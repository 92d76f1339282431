import Varlink.Proofs.Interface.Declarations

/-!
# Groups in the table

A declaration is known by its number, and what is known of a type in place is the block of entries
it has in the table. So all that is said about the members of a declaration starts from the same two
facts, its own entry and the block of the types inside it, whether it was declared or written in
place. They are stated here once, with what they say about the types of the members.
-/

namespace Varlink

namespace Interface

variable {interface : Interface}

/-- A type in place has its block in the table, and its references are declared. -/
structure TypeAt (interface : Interface) (type : LinkedType) (name : String) (first : Nat) :
    Prop where
  holds : interface.Holds first (type.entries name first)
  bound : ∀ index ∈ type.references, index < interface.typedefs.length

/-- A group has its entry in the table, and the types inside it have their block. -/
structure GroupAt (interface : Interface) (number : Nat) (name : String) (group : Group)
    (first : Nat) : Prop where
  shape : interface.shape? number = some (group.shape first)
  holds : interface.Holds first (TypeExpr.fieldEntries name first group.fields)
  bound : ∀ index ∈ TypeExpr.fieldReferences group.fields, index < interface.typedefs.length

section At

variable {number first : Nat} {name : String} {fields : Fields}

theorem TypeAt.struct (located : interface.TypeAt (.struct fields) name first) :
    interface.GroupAt (first + TypeExpr.fieldsNumberCount fields) name (.struct fields) first where
  shape := by
    have isStruct := shape?_of_last located.holds
    rwa [TypeExpr.length_fieldEntries] at isStruct
  holds := located.holds.left
  bound := located.bound

theorem TypeAt.shape?_modified {modifier : Modifier} {inner : LinkedType}
    (located : interface.TypeAt (.modified modifier inner) name first) :
    interface.shape? (first + inner.numberCount) =
      some (.modified modifier (inner.number first)) := by
  have isModified := shape?_of_last located.holds
  rwa [TypeExpr.length_entries] at isModified

theorem TypeAt.modified {modifier : Modifier} {inner : LinkedType}
    (located : interface.TypeAt (.modified modifier inner) name first) :
    interface.TypeAt inner name first :=
  ⟨located.holds.left, located.bound⟩

theorem GroupAt.field {group : Group} (located : interface.GroupAt number name group first)
    {index : Nat} {field : String × LinkedType} (found : group.fields[index]? = some field) :
    interface.TypeAt field.2 (memberPath name field.1)
      (first + offset TypeExpr.fieldCount group.fields index) where
  holds := located.holds.field found
  bound := fun target inside => located.bound target
    (TypeExpr.mem_fieldReferences.mpr ⟨field, List.mem_of_getElem? found, inside⟩)

theorem getElem?_fieldNumbers (first : Nat) (fields : Fields) (index : Nat) :
    (TypeExpr.fieldNumbers first fields)[index]? = fields[index]?.map fun field =>
      (field.1, field.2.number (first + offset TypeExpr.fieldCount fields index)) := by
  rw [TypeExpr.fieldNumbers_eq, List.getElem?_map, getElem?_numberFrom, Option.map_map]
  rfl

/-- What an entry declares has its members in the table. -/
def Backs (interface : Interface) (entry : TypeEntry) : Prop :=
  ∀ number declaration, interface.type? number = some entry →
    entry.declaration? number = some declaration →
      ∃ first, interface.GroupAt number declaration.name declaration.body first

theorem backs_of_nameless {origin : Origin} {shape : Shape} {written : LinkedType} :
    interface.Backs ⟨none, origin, shape, written⟩ := by
  intro number declaration _ found
  rw [TypeEntry.declaration?] at found
  split_ifs at found

theorem backs_struct {origin : Origin}
    (holds : interface.Holds first (TypeExpr.fieldEntries name first fields))
    (bound : ∀ index ∈ TypeExpr.fieldReferences fields, index < interface.typedefs.length) :
    interface.Backs
      ⟨some name, origin, .struct (TypeExpr.fieldNumbers first fields), .struct fields⟩ := by
  intro number declaration isEntry found
  rw [TypeEntry.declaration?] at found
  split_ifs at found
  obtain rfl := Option.some.inj found
  refine ⟨first, ?_, holds, bound⟩
  rw [shape?, isEntry]
  rfl

theorem backs_enum {origin : Origin} {members : List String} :
    interface.Backs ⟨some name, origin, .enum members, .enum members⟩ := by
  intro number declaration isEntry found
  rw [TypeEntry.declaration?] at found
  split_ifs at found
  obtain rfl := Option.some.inj found
  refine ⟨0, ?_, ?_, ?_⟩
  · rw [shape?, isEntry]
    rfl
  · intro position entry listed
    cases listed
  · intro index inside
    cases inside

/-- An entry of a type in place, with the places of the types inside it. -/
inductive EntryAt (interface : Interface) : TypeEntry → Prop
  | modified {modifier : Modifier} {inner : LinkedType} {name : String} {first : Nat}
      (located : interface.TypeAt inner name first) :
      EntryAt interface
        ⟨none, .anonymous, .modified modifier (inner.number first), .modified modifier inner⟩
  | struct {origin : Origin} {fields : Fields} {name : String} {first : Nat}
      (inPlace : origin ≠ .typedef)
      (holds : interface.Holds first (TypeExpr.fieldEntries name first fields))
      (bound : ∀ index ∈ TypeExpr.fieldReferences fields, index < interface.typedefs.length) :
      EntryAt interface
        ⟨some name, origin, .struct (TypeExpr.fieldNumbers first fields), .struct fields⟩
  | enum {members : List String} {name : String} :
      EntryAt interface ⟨some name, .anonymous, .enum members, .enum members⟩

/-- The entries of a type in place are so. -/
theorem TypeAt.entryAt {type : LinkedType} (located : interface.TypeAt type name first)
    {entry : TypeEntry} (inside : entry ∈ type.entries name first) : interface.EntryAt entry := by
  induction type using TypeExpr.induction generalizing name first with
  | reference index => cases inside
  | builtin leaf => cases inside
  | modified modifier inner ih =>
      rcases List.mem_append.mp inside with inside | last
      · exact ih located.modified inside
      · obtain rfl := List.mem_singleton.mp last
        exact .modified located.modified
  | struct fields ih =>
      rcases List.mem_append.mp inside with inside | last
      · obtain ⟨index, field, found, inside⟩ := TypeExpr.exists_block_of_mem_fieldEntries inside
        exact ih field (List.mem_of_getElem? found) (located.struct.field found) inside
      · obtain rfl := List.mem_singleton.mp last
        exact .struct (by simp) located.struct.holds located.struct.bound
  | enum members =>
      obtain rfl := List.mem_singleton.mp inside
      exact .enum

/-- So are the entries inside a group. -/
theorem GroupAt.entryAt {group : Group} (located : interface.GroupAt number name group first)
    {entry : TypeEntry} (inside : entry ∈ TypeExpr.fieldEntries name first group.fields) :
    interface.EntryAt entry := by
  obtain ⟨index, field, found, inside⟩ := TypeExpr.exists_block_of_mem_fieldEntries inside
  exact (located.field found).entryAt inside

theorem EntryAt.backs {entry : TypeEntry} (placed : interface.EntryAt entry) :
    interface.Backs entry := by
  cases placed with
  | modified => exact backs_of_nameless
  | struct _ holds bound => exact backs_struct holds bound
  | enum => exact backs_enum

end At

section Roots

variable (linked : interface.Linked)
include linked

theorem groupAt_typedef {index : Nat} {typedef : Typedef}
    (found : interface.typedefs[index]? = some typedef) :
    interface.GroupAt (typedefNumber index) typedef.name typedef.body
      (interface.typedefStart index) where
  shape := shape?_typedef found
  holds := holds_typedef found
  bound := by
    intro target inside
    refine linked.bodies typedef (List.mem_of_getElem? found) target ?_
    cases body : typedef.body with
    | struct fields =>
        rw [body] at inside
        exact inside
    | enum members =>
        rw [body] at inside
        cases inside

theorem groupAt_signature {index : Nat} {name : String} {fields : Fields}
    (found : interface.signatures[index]? = some (name, .inline fields)) :
    interface.GroupAt (interface.signatureStart index + TypeExpr.fieldsNumberCount fields) name
      (.struct fields) (interface.signatureStart index) where
  shape := by
    have isStruct := shape?_of_last (holds_signature found)
    rwa [TypeExpr.length_fieldEntries] at isStruct
  holds := (holds_signature found).left
  bound := linked.signatures _ (List.mem_of_getElem? found)

theorem entryAt_of_mem_innerEntries {entry : TypeEntry} (h : entry ∈ interface.innerEntries) :
    interface.EntryAt entry := by
  rcases exists_of_mem_innerEntries h with
    ⟨index, typedef, isTypedef, inside⟩ | ⟨index, path, fields, isSignature, inside⟩
  · exact (groupAt_typedef linked isTypedef).entryAt inside
  · have located := groupAt_signature linked isSignature
    rcases List.mem_append.mp inside with inside | last
    · exact located.entryAt inside
    · obtain rfl := List.mem_singleton.mp last
      exact .struct (by split_ifs <;> simp) located.holds located.bound

/-- Every declaration has its members in the table. -/
theorem exists_groupAt {declaration : Declaration} (h : declaration ∈ interface.declarations) :
    ∃ first, interface.GroupAt declaration.number declaration.name declaration.body first := by
  rcases List.mem_append.mp h with isDeclared | isDiscovered
  · obtain ⟨index, bound, rfl⟩ := List.mem_mapIdx.mp isDeclared
    exact ⟨_, groupAt_typedef linked (List.getElem?_eq_getElem bound)⟩
  · obtain ⟨position, entry, inner, found⟩ := mem_discovered.mp isDiscovered
    obtain ⟨sameNumber, -⟩ := TypeEntry.of_declaration? found
    have backs := (entryAt_of_mem_innerEntries linked (List.mem_of_getElem? inner)).backs
    rw [sameNumber]
    exact backs _ _ ((interface.type?_inner position).trans inner) found

end Roots

end Interface

end Varlink
