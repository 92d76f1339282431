import Varlink.Client.RustModule
import Varlink.Proofs.Graph
import Varlink.Proofs.Interface.Groups

/-!
# Parts of a value

A value of a struct has the values of its members as parts, and an optional value has the value as a
part; lists and maps keep their elements elsewhere. Generated code is made from names of
declarations, and the interface is a graph of numbers. Going from part to part comes to the same in
both: an optional type is passed through under the name of what is inside it, and every struct that
has a member is a declaration.
-/

namespace Varlink

/-- Only a wrapper without fields is suppressed. -/
theorem Signature.shape_of_suppressed {signature : Signature} {path : String} {first : Nat}
    {entry : TypeEntry} (inside : entry ∈ signature.entries path first)
    (suppressed : entry.isSuppressed) : entry.shape = .struct [] := by
  have isSuppressed : entry.origin = .suppressedWrapper := of_decide_eq_true suppressed
  cases signature with
  | declared target => cases inside
  | inline fields =>
      rcases List.mem_append.mp inside with inside | last
      · rw [(TypeExpr.anonymous_of_mem_fieldEntries inside).1] at isSuppressed
        cases isSuppressed
      · obtain rfl := List.mem_singleton.mp last
        cases fields with
        | nil => rfl
        | cons => cases isSuppressed

namespace Interface

variable {interface : Interface}

theorem shape_of_suppressed {number : Nat} {entry : TypeEntry}
    (isEntry : interface.type? number = some entry) (suppressed : entry.isSuppressed) :
    entry.shape = .struct [] := by
  rcases exists_of_type? isEntry with ⟨leaf, -, rfl⟩ | ⟨index, typedef, -, -, rfl⟩ |
    ⟨position, -, inner⟩
  · cases suppressed
  · cases suppressed
  · rcases List.mem_append.mp (List.mem_of_getElem? inner) with inside | inside
    · obtain ⟨⟨first, typedef⟩, -, inside⟩ := List.mem_flatMap.mp inside
      have isSuppressed : entry.origin = .suppressedWrapper := of_decide_eq_true suppressed
      rw [(TypeExpr.anonymous_of_mem_fieldEntries inside).1] at isSuppressed
      cases isSuppressed
    · obtain ⟨⟨first, path, signature⟩, -, inside⟩ := List.mem_flatMap.mp inside
      exact signature.shape_of_suppressed inside suppressed

/-- A value of one type holds a value of the other as a part: as that of a member, or as its own
value where it is optional. -/
def HasPart (interface : Interface) (number part : Nat) : Prop :=
  (∃ members, interface.shape? number = some (.struct members) ∧
    part ∈ members.map (·.2)) ∨
  interface.shape? number = some (.modified .maybe part)

/-- A value of the type is a value of the declaration with this name, if it is there at all. -/
inductive Stands (interface : Interface) : (number : Nat) → (name : String) → Prop
  | declaration {declaration : Declaration} (inside : declaration ∈ interface.declarations) :
      Stands interface declaration.number declaration.name
  | maybe {number inner : Nat} {name : String}
      (isMaybe : interface.shape? number = some (.modified .maybe inner))
      (stands : Stands interface inner name) : Stands interface number name

section Stands

variable {number : Nat} {name path : String}

theorem Stands.exists_declaration (stands : interface.Stands number name) :
    ∃ declaration ∈ interface.declarations, declaration.name = name ∧
      Relation.ReflTransGen interface.HasPart number declaration.number := by
  induction stands with
  | declaration inside => exact ⟨_, inside, rfl, .refl⟩
  | maybe isMaybe _ ih =>
      obtain ⟨declaration, inside, named, steps⟩ := ih
      exact ⟨declaration, inside, named, .head (.inr isMaybe) steps⟩

theorem Stands.reflTransGen {declaration : Declaration}
    (stands : interface.Stands number declaration.name)
    (distinct : (interface.declarations.map (·.name)).Nodup)
    (inside : declaration ∈ interface.declarations) :
    Relation.ReflTransGen interface.HasPart number declaration.number := by
  obtain ⟨other, isOther, same, steps⟩ := stands.exists_declaration
  obtain rfl := List.inj_on_of_nodup_map distinct isOther inside same
  exact steps

theorem stands_of_group {entry : TypeEntry} (isEntry : interface.type? number = some entry)
    (isDeclaration : entry.isDeclaration) (notSuppressed : ¬ entry.isSuppressed)
    (named : entry.name = some path) : interface.Stands number name ↔ name = path := by
  constructor
  · intro stands
    cases stands with
    | declaration inside =>
        obtain ⟨other, isOther, otherNamed⟩ := name_of_mem_declarations inside
        obtain rfl := Option.some.inj (isOther.symm.trans isEntry)
        exact Option.some.inj (otherNamed.symm.trans named)
    | maybe isMaybe =>
        rw [shape?, isEntry, Option.map_some, Option.some.injEq] at isMaybe
        rw [TypeEntry.isDeclaration, isMaybe] at isDeclaration
        cases isDeclaration
  · rintro rfl
    obtain ⟨declaration, inside, rfl, rfl⟩ :=
      exists_declaration isEntry isDeclaration notSuppressed named
    exact .declaration inside

/-- What is no group is no declaration. -/
theorem not_mem_of_shape? {declaration : Declaration} {shape : Shape}
    (isShape : interface.shape? declaration.number = some shape)
    (inside : declaration ∈ interface.declarations) :
    (∃ members, shape = .struct members) ∨ ∃ members, shape = .enum members := by
  obtain ⟨entry, isEntry, isDeclaration, -⟩ :=
    mem_numbers_declarations.mp (List.mem_map_of_mem (f := (·.number)) inside)
  rw [shape?, isEntry, Option.map_some, Option.some.injEq] at isShape
  rw [TypeEntry.isDeclaration, isShape] at isDeclaration
  cases shape with
  | struct members => exact .inl ⟨members, rfl⟩
  | enum members => exact .inr ⟨members, rfl⟩
  | builtin leaf => cases isDeclaration
  | modified modifier inner => cases isDeclaration

theorem stands_of_modified {modifier : Modifier} {inner : Nat}
    (isModified : interface.shape? number = some (.modified modifier inner)) :
    interface.Stands number name ↔ modifier = .maybe ∧ interface.Stands inner name := by
  constructor
  · intro stands
    cases stands with
    | declaration inside =>
        rcases not_mem_of_shape? isModified inside with ⟨_, same⟩ | ⟨_, same⟩ <;> cases same
    | maybe isMaybe stands =>
        obtain ⟨rfl, rfl⟩ := Shape.modified.inj (Option.some.inj (isModified.symm.trans isMaybe))
        exact ⟨rfl, stands⟩
  · rintro ⟨rfl, stands⟩
    exact .maybe isModified stands

theorem not_stands_builtin (leaf : Builtin) : ¬ interface.Stands leaf.number name := by
  have isShape : interface.shape? leaf.number = some (.builtin leaf) := by
    rw [shape?, type?_builtin]
    rfl
  generalize leaf.number = number at isShape
  intro stands
  cases stands with
  | declaration inside =>
      rcases not_mem_of_shape? isShape inside with ⟨_, same⟩ | ⟨_, same⟩ <;> cases same
  | maybe isMaybe => cases isShape.symm.trans isMaybe

/-- The part that is told from the type of a member is the one the table tells from its number. -/
theorem part?_eq_some_iff {type : LinkedType} {first : Nat}
    (located : interface.TypeAt type path first) :
    (type.toMemberType interface.typedefName path).part? = some name ↔
      interface.Stands (type.number first) name := by
  induction type using TypeExpr.induction generalizing first with
  | reference index =>
      have bound := located.bound index (List.mem_singleton_self index)
      obtain ⟨typedef, found⟩ : ∃ typedef, interface.typedefs[index]? = some typedef :=
        ⟨_, List.getElem?_eq_getElem bound⟩
      have isDeclaration : TypeEntry.isDeclaration ⟨some typedef.name, .typedef,
          typedef.body.shape (interface.typedefStart index), .reference index⟩ := by
        cases typedef.body <;> rfl
      rw [TypeExpr.number, stands_of_group (type?_typedef found) isDeclaration Bool.noConfusion rfl,
        TypeExpr.toMemberType, MemberType.part?, Option.some.injEq, typedefName, found, eq_comm]
  | builtin leaf =>
      exact iff_of_false (by simp [TypeExpr.toMemberType, MemberType.part?])
        (not_stands_builtin leaf)
  | modified modifier inner ih =>
      rw [TypeExpr.number, stands_of_modified located.shape?_modified, ← ih located.modified,
        TypeExpr.toMemberType]
      cases modifier <;> simp [MemberType.part?]
  | struct fields ih =>
      have isEntry := located.holds.last
      rw [TypeExpr.length_fieldEntries] at isEntry
      rw [TypeExpr.number, stands_of_group isEntry rfl Bool.noConfusion rfl,
        TypeExpr.toMemberType, MemberType.part?, Option.some.injEq, eq_comm]
  | enum members =>
      have isEntry := located.holds 0 _ rfl
      rw [TypeExpr.number, ← Nat.add_zero first, stands_of_group isEntry rfl Bool.noConfusion rfl,
        TypeExpr.toMemberType, MemberType.part?, Option.some.injEq, eq_comm]

end Stands

/-- A declaration is found with its members. -/
theorem lookup_declaredMembers (distinct : (interface.declarations.map (·.name)).Nodup)
    {name : String} {members : Members} :
    interface.declaredMembers.lookup name = some members ↔
      ∃ declaration ∈ interface.declarations, declaration.name = name ∧
        interface.members declaration = members := by
  rw [declaredMembers]
  generalize interface.declarations = declarations at distinct
  induction declarations with
  | nil => simp
  | cons declaration declarations ih =>
      rw [List.map_cons, List.nodup_cons] at distinct
      rw [List.map_cons, List.lookup_cons, List.exists_mem_cons_iff]
      by_cases same : name = declaration.name
      · subst same
        have onlyHere : ¬ ∃ other ∈ declarations, other.name = declaration.name ∧
            interface.members other = members := by
          rintro ⟨other, inside, same, -⟩
          exact distinct.1 (List.mem_map.mpr ⟨other, inside, same⟩)
        simp [onlyHere]
      · rw [beq_false_of_ne same, ih distinct.2]
        exact (or_iff_right fun here => same here.1.symm).symm

/-- The members of a declaration and their numbers in the table have the same parts. -/
theorem exists_part_iff {declaration : Declaration} {first : Nat} (part : String)
    (located : interface.GroupAt declaration.number declaration.name declaration.body first) :
    (∃ member ∈ (interface.members declaration).fields, member.2.part? = some part) ↔
      ∃ members, interface.shape? declaration.number = some (.struct members) ∧
        ∃ member ∈ members, interface.Stands member.2 part := by
  obtain ⟨name, number, body⟩ := declaration
  cases body with
  | enum members =>
      have isEnum : interface.shape? number = some (.enum members) := located.shape
      constructor
      · rintro ⟨member, inside, -⟩
        cases inside
      · rintro ⟨members, isStruct, -⟩
        cases isEnum.symm.trans isStruct
  | struct fields =>
      have isStruct : interface.shape? number =
          some (.struct (TypeExpr.fieldNumbers first fields)) :=
        located.shape
      constructor
      · rintro ⟨_, inside, isPart⟩
        obtain ⟨field, isField, rfl⟩ := List.mem_map.mp inside
        obtain ⟨index, found⟩ := List.mem_iff_getElem?.mp isField
        have numbered := getElem?_fieldNumbers first fields index
        rw [found] at numbered
        exact ⟨_, isStruct, _, List.mem_of_getElem? numbered,
          (part?_eq_some_iff (located.field found)).mp isPart⟩
      · rintro ⟨members, isMembers, member, isMember, stands⟩
        obtain rfl := Shape.struct.inj (Option.some.inj (isStruct.symm.trans isMembers))
        obtain ⟨index, numbered⟩ := List.mem_iff_getElem?.mp isMember
        rw [getElem?_fieldNumbers] at numbered
        obtain ⟨field, found, rfl⟩ := Option.map_eq_some_iff.mp numbered
        exact ⟨_, List.mem_map_of_mem (List.mem_of_getElem? found),
          (part?_eq_some_iff (located.field found)).mpr stands⟩

/-- A struct with a member is a declaration. -/
theorem exists_declaration_of_member {number part : Nat} {members : List (String × Nat)}
    (isStruct : interface.shape? number = some (.struct members))
    (isMember : part ∈ members.map (·.2)) :
    ∃ declaration ∈ interface.declarations, declaration.number = number := by
  obtain ⟨entry, isEntry, isShape⟩ := Option.map_eq_some_iff.mp isStruct
  refine List.mem_map.mp (mem_numbers_declarations.mpr ⟨entry, isEntry, ?_, ?_⟩)
  · rw [TypeEntry.isDeclaration, isShape]
  · intro suppressed
    obtain rfl := Shape.struct.inj (isShape.symm.trans (shape_of_suppressed isEntry suppressed))
    cases isMember

section Reach

variable (linked : interface.Linked) (distinct : (interface.declarations.map (·.name)).Nodup)
include linked distinct

/-- The parts of a declaration are those of its members in the table. -/
theorem mem_partNames {name part : String} :
    part ∈ Members.partNames interface.declaredMembers name ↔
      ∃ declaration ∈ interface.declarations, declaration.name = name ∧
        ∃ members, interface.shape? declaration.number = some (.struct members) ∧
          ∃ member ∈ members, interface.Stands member.2 part := by
  rw [Members.partNames]
  constructor
  · intro isPart
    split at isPart
    · rename_i members found
      obtain ⟨declaration, inside, named, rfl⟩ := (lookup_declaredMembers distinct).mp found
      obtain ⟨first, located⟩ := exists_groupAt linked inside
      exact ⟨declaration, inside, named,
        (exists_part_iff part located).mp (List.mem_filterMap.mp isPart)⟩
    · cases isPart
  · rintro ⟨declaration, inside, rfl, isPart⟩
    obtain ⟨first, located⟩ := exists_groupAt linked inside
    rw [(lookup_declaredMembers distinct).mpr ⟨declaration, inside, rfl, rfl⟩]
    exact List.mem_filterMap.mpr ((exists_part_iff part located).mpr isPart)

/-- Going from part to part, from numbers or from names, leads to the same declarations. -/
theorem reflTransGen_hasPart_iff {number : Nat} {owner : Declaration}
    (isOwner : owner ∈ interface.declarations) :
    Relation.ReflTransGen interface.HasPart number owner.number ↔ ∃ start,
      interface.Stands number start ∧ Relation.ReflTransGen
        (fun name part => part ∈ Members.partNames interface.declaredMembers name) start
          owner.name := by
  constructor
  · intro steps
    induction steps using Relation.ReflTransGen.head_induction_on with
    | refl => exact ⟨owner.name, .declaration isOwner, .refl⟩
    | @head number part step _ ih =>
        obtain ⟨start, stands, names⟩ := ih
        rcases step with ⟨members, isStruct, isMember⟩ | isMaybe
        · obtain ⟨declaration, inside, rfl⟩ :=
            exists_declaration_of_member isStruct isMember
          obtain ⟨member, found, rfl⟩ := List.mem_map.mp isMember
          have isPart := (mem_partNames linked distinct).mpr
            ⟨declaration, inside, rfl, members, isStruct, member, found, stands⟩
          exact ⟨declaration.name, .declaration inside, .head isPart names⟩
        · exact ⟨start, .maybe isMaybe stands, names⟩
  · rintro ⟨start, stands, names⟩
    induction names using Relation.ReflTransGen.head_induction_on generalizing number with
    | refl => exact stands.reflTransGen distinct isOwner
    | @head name part isPart _ ih =>
        obtain ⟨declaration, inside, rfl, members, isStruct, member, isMember, memberStands⟩ :=
          (mem_partNames linked distinct).mp isPart
        exact (stands.reflTransGen distinct inside).trans
          (.head (.inl ⟨members, isStruct, List.mem_map_of_mem isMember⟩) (ih memberStands))

/-- The parts of declarations are declarations. -/
theorem partNames_subset (name : String) :
    ∀ part ∈ Members.partNames interface.declaredMembers name,
      part ∈ interface.declaredMembers.map (·.1) := by
  intro part isPart
  obtain ⟨-, -, -, -, -, member, -, stands⟩ := (mem_partNames linked distinct).mp isPart
  obtain ⟨declaration, inside, rfl, -⟩ := stands.exists_declaration
  rw [declaredMembers, List.map_map]
  exact List.mem_map_of_mem inside

/-- Whether a struct can be reached as a part of a member's type is decided as the graph of types
has it. -/
theorem hasPart_iff {type : LinkedType} {path : String} {first : Nat} {owner : Declaration}
    (located : interface.TypeAt type path first) (isOwner : owner ∈ interface.declarations) :
    Members.hasPart interface.declaredMembers (type.toMemberType interface.typedefName path)
      owner.name ↔
    Relation.ReflTransGen interface.HasPart (type.number first) owner.number := by
  have names : interface.declaredMembers.map (·.1) = interface.declarations.map (·.name) := by
    rw [declaredMembers, List.map_map]
    rfl
  have nodup : (interface.declaredMembers.map (·.1)).Nodup := names ▸ distinct
  rw [Members.hasPart, Graph.reaches_iff nodup (partNames_subset linked distinct),
    reflTransGen_hasPart_iff linked distinct isOwner]
  constructor
  · rintro ⟨start, isStart, -, steps⟩
    exact ⟨start, (part?_eq_some_iff located).mp (Option.mem_toList.mp isStart), steps⟩
  · rintro ⟨start, stands, steps⟩
    refine ⟨start, Option.mem_toList.mpr ((part?_eq_some_iff located).mpr stands), ?_, steps⟩
    obtain ⟨declaration, inside, rfl, -⟩ := stands.exists_declaration
    rw [names]
    exact List.mem_map_of_mem inside

end Reach

end Interface

end Varlink
