import Varlink.Client.Rust
import Varlink.Proofs.Client.Module
import Varlink.Proofs.Client.Parts
import Varlink.Proofs.Interface.RoundTrip

/-!
# Boxes in recursive types

Each field is boxed or not without regard to the others, by whether its struct can be reached through
it. This is enough for the whole module: in a cycle of structs that are parts of each other, every
field on the way leads back to its struct, so all of them are boxed.

The fields are those of the declarations of an interface. In the text of a module a type is known by
its name alone, and a name that is also that of a built-in or imported type, or one that two
declarations share, stands for something else than what the field was made for. What is said of names
is therefore said of modules in which no name is used twice.
-/

namespace Varlink

/-- The types that generated code uses without declaring them. -/
def Rust.otherTypes : List String :=
  Builtin.all.map builtinType ++ ["Option", "Vec", "HashMap", "Box"]

namespace RustType

/-- Whether there is a box in the type. -/
def isBoxed : RustType → Bool
  | named _ | builtin _ => false
  | option inner | vec inner | map inner => inner.isBoxed
  | boxed _ => true

/-- The types that are mentioned outside of boxes, lists and maps. -/
def mentions : RustType → List String
  | named name => [name.print]
  | builtin leaf => [Rust.builtinType leaf]
  | option inner => "Option" :: inner.mentions
  | vec _ => ["Vec"]
  | map _ => ["HashMap"]
  | boxed _ => ["Box"]

theorem isBoxed_box (type : RustType) : type.box.isBoxed := by
  cases type <;> rfl

theorem isBoxed_of_ofMemberType {member : MemberType} {type : RustType}
    (h : ofMemberType member = some type) : type.isBoxed = false := by
  induction member generalizing type with
  | named name =>
      obtain ⟨_, -, rfl⟩ := Option.map_eq_some_iff.mp h
      rfl
  | builtin leaf =>
      obtain rfl := Option.some.inj h
      rfl
  | modified modifier inner ih =>
      cases modifier <;>
        · obtain ⟨_, isInner, rfl⟩ := Option.map_eq_some_iff.mp h
          have unboxed := ih isInner
          exact unboxed

/-- A type that has not been boxed mentions the declaration that its value has as a part, and types
that are not declared. -/
theorem mentions_of_ofMemberType {member : MemberType} {type : RustType} {word : String}
    (h : ofMemberType member = some type) (mentioned : word ∈ type.mentions) :
    word ∈ Rust.otherTypes ∨ ∃ part name, member.part? = some part ∧
      RustName.ofString? part = some name ∧ name.print = word := by
  induction member generalizing type with
  | named part =>
      obtain ⟨name, isName, rfl⟩ := Option.map_eq_some_iff.mp h
      exact .inr ⟨part, name, rfl, isName, (List.mem_singleton.mp mentioned).symm⟩
  | builtin leaf =>
      obtain rfl := Option.some.inj h
      obtain rfl := List.mem_singleton.mp mentioned
      cases leaf <;> exact .inl (by decide)
  | modified modifier inner ih =>
      cases modifier with
      | maybe =>
          obtain ⟨_, isInner, rfl⟩ := Option.map_eq_some_iff.mp h
          rcases List.mem_cons.mp mentioned with rfl | mentioned
          · exact .inl (by decide)
          · exact ih isInner mentioned
      | array =>
          obtain ⟨_, -, rfl⟩ := Option.map_eq_some_iff.mp h
          obtain rfl := List.mem_singleton.mp mentioned
          exact .inl (by decide)
      | dictionary =>
          obtain ⟨_, -, rfl⟩ := Option.map_eq_some_iff.mp h
          obtain rfl := List.mem_singleton.mp mentioned
          exact .inl (by decide)

/-- A boxed type mentions nothing that is declared. -/
theorem mentions_box {type : RustType} {word : String} (mentioned : word ∈ type.box.mentions) :
    word ∈ Rust.otherTypes := by
  cases type with
  | option inner =>
      rcases List.mem_cons.mp mentioned with rfl | mentioned
      · decide
      · obtain rfl := List.mem_singleton.mp mentioned
        decide
  | _ =>
      obtain rfl := List.mem_singleton.mp mentioned
      decide

end RustType

section Emission

variable {declarations : List (String × Members)} {name : String} {members : Members}

/-- The type of a field is that of its member, boxed if the struct can be reached through it. -/
theorem RustField.type_ofMember {member : String × MemberType} {field : RustField}
    (h : RustField.ofMember declarations name member = some field) :
    ∃ type, RustType.ofMemberType member.2 = some type ∧ field.type =
      if Members.hasPart declarations member.2 name then type.box else type := by
  obtain ⟨_, type, -, isType, rfl⟩ := RustField.ofMember_eq_some.mp h
  exact ⟨type, isType, rfl⟩

theorem RustField.isBoxed_ofMember {member : String × MemberType} {field : RustField}
    (h : RustField.ofMember declarations name member = some field) :
    field.type.isBoxed = Members.hasPart declarations member.2 name := by
  obtain ⟨type, isType, same⟩ := RustField.type_ofMember h
  rw [same]
  cases Members.hasPart declarations member.2 name with
  | true => exact RustType.isBoxed_box type
  | false => exact RustType.isBoxed_of_ofMemberType isType

theorem RustDeclaration.name_ofMembers {declaration : RustDeclaration}
    (h : RustDeclaration.ofMembers declarations name members = some declaration) :
    RustName.ofString? name = some declaration.name := by
  cases members with
  | struct =>
      obtain ⟨_, _, isName, -, rfl⟩ := RustDeclaration.ofStruct_eq_some.mp h
      exact isName
  | enum =>
      obtain ⟨_, _, isName, -, rfl⟩ := RustDeclaration.ofEnum_eq_some.mp h
      exact isName

/-- The fields of a struct are those for its members, one by one. -/
theorem RustDeclaration.fields_ofMembers {declaration : RustDeclaration}
    (h : RustDeclaration.ofMembers declarations name members = some declaration)
    {fields : List RustField} (isStruct : declaration.body = .struct fields) :
    ∃ inner, members = .struct inner ∧
      inner.map (RustField.ofMember declarations name) = fields.map some := by
  cases members with
  | struct inner =>
      obtain ⟨_, _, -, mapped, rfl⟩ := RustDeclaration.ofStruct_eq_some.mp h
      obtain rfl := RustBody.struct.inj isStruct
      exact ⟨inner, rfl, map_eq_of_mapM_eq_some mapped⟩
  | enum =>
      obtain ⟨_, _, -, -, rfl⟩ := RustDeclaration.ofEnum_eq_some.mp h
      cases isStruct

end Emission

namespace RustModule

/-- A struct has a field whose type mentions a name outside of boxes, lists and maps. -/
def Mentions (module : RustModule) (owner part : String) : Prop :=
  ∃ declaration ∈ module.declarations, declaration.name.print = owner ∧
    ∃ fields, declaration.body = .struct fields ∧ ∃ field ∈ fields, part ∈ field.type.mentions

/-- A struct has a field without a box for a member whose value is one of another declaration. -/
def Keeps (module : RustModule) (interface : Interface) (owner part : Declaration) : Prop :=
  ∃ (index : Nat) (emitted : RustDeclaration), interface.declarations[index]? = some owner ∧
    module.declarations[index]? = some emitted ∧
      ∃ fields members, emitted.body = .struct fields ∧
        interface.shape? owner.number = some (.struct members) ∧
          ∃ (position : Nat) (field : RustField) (member : String × Nat),
            fields[position]? = some field ∧ members[position]? = some member ∧
              field.type.isBoxed = false ∧ part ∈ interface.declarations ∧
                interface.Stands member.2 part.name

/-- A module for an interface has a box in just those fields that need one. -/
structure Boxes (module : RustModule) (interface : Interface) : Prop where
  /-- The declarations of the module are those of the interface. -/
  declared : module.declarations.length = interface.declarations.length
  /-- A field is boxed just if its struct can be reached from the type of its member by going
  through members of structs and optional types only. -/
  exactly : ∀ (index : Nat) (owner : Declaration) (emitted : RustDeclaration)
    (fields : List RustField), interface.declarations[index]? = some owner →
    module.declarations[index]? = some emitted → emitted.body = .struct fields →
    ∃ members, interface.shape? owner.number = some (.struct members) ∧
      fields.length = members.length ∧
      ∀ (position : Nat) (field : RustField) (member : String × Nat),
        fields[position]? = some field → members[position]? = some member →
          (field.type.isBoxed ↔
            Relation.ReflTransGen interface.HasPart member.2 owner.number)
  /-- No struct is a part of itself through fields without boxes. -/
  acyclic : ∀ owner, ¬ Relation.TransGen (module.Keeps interface) owner owner
  /-- Nor is one by the names in the module, if each of them stands for one type. -/
  acyclicNames : (module.declarations.map fun declaration => declaration.name.print).Nodup →
    (∀ declaration ∈ module.declarations, declaration.name.print ∉ Rust.otherTypes) →
      ∀ owner, ¬ Relation.TransGen module.Mentions owner owner

section OfOutline

variable {interface : Interface} {module : RustModule}

theorem declarations_ofOutline (emitted : ofOutline interface.outline = some module) :
    interface.declarations.map (fun declaration =>
      RustDeclaration.ofMembers interface.declaredMembers declaration.name
        (interface.members declaration)) = module.declarations.map some := by
  obtain ⟨declarations, _, _, _, mapped, -, -, -, rfl⟩ := RustModule.ofOutline_eq_some.mp emitted
  have same := map_eq_of_mapM_eq_some mapped
  rw [Interface.outline, Interface.declaredMembers, List.map_map] at same
  exact same

/-- Each declaration of the module is that of the interface in the same place. -/
theorem exists_ofMembers (made : ofOutline interface.outline = some module) {index : Nat}
    {emitted : RustDeclaration} (found : module.declarations[index]? = some emitted) :
    ∃ owner, interface.declarations[index]? = some owner ∧
      RustDeclaration.ofMembers interface.declaredMembers owner.name (interface.members owner) =
        some emitted := by
  have same := congrArg (·[index]?) (declarations_ofOutline made)
  simp only [List.getElem?_map, found, Option.map_some] at same
  obtain ⟨owner, isOwner, same⟩ := Option.map_eq_some_iff.mp same
  exact ⟨owner, isOwner, same⟩

variable (linked : interface.Linked) (distinct : (interface.declarations.map (·.name)).Nodup)
  (made : ofOutline interface.outline = some module)
include linked distinct made

/-- The members of an emitted struct, each with its field and what its type stands for. -/
theorem exists_members {index : Nat} {owner : Declaration} {emitted : RustDeclaration}
    {fields : List RustField} (isOwner : interface.declarations[index]? = some owner)
    (isEmitted : module.declarations[index]? = some emitted)
    (isStruct : emitted.body = .struct fields) :
    ∃ members, interface.shape? owner.number = some (.struct members) ∧
      fields.length = members.length ∧
      ∀ (position : Nat) (field : RustField) (member : String × Nat),
        fields[position]? = some field → members[position]? = some member →
          ∃ type, RustField.ofMember interface.declaredMembers owner.name (member.1, type) =
              some field ∧
            (Members.hasPart interface.declaredMembers type owner.name ↔
              Relation.ReflTransGen interface.HasPart member.2 owner.number) ∧
            ∀ part, type.part? = some part ↔ interface.Stands member.2 part := by
  obtain ⟨other, isOther, ofMembers⟩ := exists_ofMembers made isEmitted
  obtain rfl := Option.some.inj (isOther.symm.trans isOwner)
  have inside := List.mem_of_getElem? isOwner
  obtain ⟨first, located⟩ := Interface.exists_groupAt linked inside
  obtain ⟨inner, areMembers, mapped⟩ := RustDeclaration.fields_ofMembers ofMembers isStruct
  obtain ⟨name, number, body⟩ := other
  cases body with
  | enum => cases areMembers
  | struct types =>
      obtain rfl := Members.struct.inj areMembers
      refine ⟨_, located.shape, ?_, ?_⟩
      · have names := congrArg List.length (TypeExpr.fieldNumbers_names first types)
        have lengths := congrArg List.length mapped
        simp only [List.length_map] at names lengths
        rw [names, lengths]
      · intro position field member isField isMember
        rw [Interface.getElem?_fieldNumbers] at isMember
        obtain ⟨⟨memberName, type⟩, found, rfl⟩ := Option.map_eq_some_iff.mp isMember
        have memberLocated := located.field found
        refine ⟨_, ?_, Interface.hasPart_iff linked distinct memberLocated inside,
          fun part => Interface.part?_eq_some_iff memberLocated⟩
        have same := congrArg (·[position]?) mapped
        simp only [List.getElem?_map, found, isField, Option.map_some] at same
        exact Option.some.inj same

omit linked distinct in
/-- Each declaration of the interface has one in the same place of the module, under its name. -/
theorem exists_emitted {index : Nat} {owner : Declaration}
    (found : interface.declarations[index]? = some owner) : ∃ emitted,
      module.declarations[index]? = some emitted ∧
        RustName.ofString? owner.name = some emitted.name := by
  have same := congrArg (·[index]?) (declarations_ofOutline made)
  simp only [List.getElem?_map, found, Option.map_some] at same
  obtain ⟨emitted, isEmitted, same⟩ := Option.map_eq_some_iff.mp same.symm
  exact ⟨emitted, isEmitted, RustDeclaration.name_ofMembers same.symm⟩

/-- A box is put just where the struct can be reached. -/
theorem isBoxed_iff {index : Nat} {owner : Declaration} {emitted : RustDeclaration}
    {fields : List RustField} (isOwner : interface.declarations[index]? = some owner)
    (isEmitted : module.declarations[index]? = some emitted)
    (isStruct : emitted.body = .struct fields) :
    ∃ members, interface.shape? owner.number = some (.struct members) ∧
      fields.length = members.length ∧
      ∀ (position : Nat) (field : RustField) (member : String × Nat),
        fields[position]? = some field → members[position]? = some member →
          (field.type.isBoxed ↔
            Relation.ReflTransGen interface.HasPart member.2 owner.number) := by
  obtain ⟨members, isShape, length, each⟩ :=
    exists_members linked distinct made isOwner isEmitted isStruct
  refine ⟨members, isShape, length, ?_⟩
  intro position field member isField isMember
  obtain ⟨type, ofMember, reached, -⟩ := each position field member isField isMember
  rw [RustField.isBoxed_ofMember ofMember, reached]

omit linked made in
theorem Keeps.reflTransGen {owner part : Declaration} (keeps : module.Keeps interface owner part) :
    Relation.ReflTransGen interface.HasPart owner.number part.number := by
  obtain ⟨_, _, -, -, _, members, -, isShape, _, _, member, -, isMember, -, isPart, stands⟩ := keeps
  have isMember := List.mem_map_of_mem (f := (·.2)) (List.mem_of_getElem? isMember)
  exact .head (.inl ⟨members, isShape, isMember⟩) (stands.reflTransGen distinct isPart)

/-- In a cycle every field leads back to its struct, so none of them is without a box. -/
theorem acyclic_keeps (owner : Declaration) :
    ¬ Relation.TransGen (module.Keeps interface) owner owner := by
  intro cycle
  obtain ⟨part, ⟨index, emitted, isOwner, isEmitted, fields, members, isStruct, isShape, position,
    field, member, isField, isMember, unboxed, isPart, stands⟩, rest⟩ :=
      Relation.TransGen.head'_iff.mp cycle
  have back : Relation.ReflTransGen interface.HasPart part.number owner.number :=
    Relation.ReflTransGen.lift' Declaration.number
      (fun _ _ keeps => Keeps.reflTransGen distinct keeps) _ _ rest
  obtain ⟨others, isOthers, -, each⟩ := isBoxed_iff linked distinct made isOwner isEmitted isStruct
  obtain rfl := Shape.struct.inj (Option.some.inj (isShape.symm.trans isOthers))
  have boxed := (each position field member isField isMember).mpr
    ((stands.reflTransGen distinct isPart).trans back)
  rw [unboxed] at boxed
  cases boxed

section Names

variable (unique : (module.declarations.map fun declaration => declaration.name.print).Nodup)
  (foreign : ∀ declaration ∈ module.declarations, declaration.name.print ∉ Rust.otherTypes)

/-- The declaration that a name in the module is written for. -/
def Writes (module : RustModule) (interface : Interface) (owner : Declaration) (word : String) :
    Prop :=
  ∃ (index : Nat) (emitted : RustDeclaration), interface.declarations[index]? = some owner ∧
    module.declarations[index]? = some emitted ∧ emitted.name.print = word

omit linked distinct made in
include unique in
theorem Writes.inj {owner other : Declaration} {word : String}
    (first : module.Writes interface owner word) (second : module.Writes interface other word) :
    owner = other := by
  obtain ⟨index, emitted, isOwner, isEmitted, named⟩ := first
  obtain ⟨position, another, isOther, isAnother, rfl⟩ := second
  have here : (module.declarations.map fun declaration => declaration.name.print)[index]? =
      some another.name.print := by
    rw [List.getElem?_map, isEmitted, Option.map_some, named]
  have there : (module.declarations.map fun declaration => declaration.name.print)[position]? =
      some another.name.print := by
    rw [List.getElem?_map, isAnother, Option.map_some]
  have bound := (List.getElem?_eq_some_iff.mp here).1
  obtain rfl := (List.getElem?_inj bound unique).mp (here.trans there.symm)
  exact Option.some.inj (isOwner.symm.trans isOther)

include unique foreign in
/-- A struct whose field mentions a name keeps the declaration that the name is written for. -/
theorem keeps_of_mentions {part : Declaration} {owner word : String}
    (mentions : module.Mentions owner word) (writes : module.Writes interface part word) :
    ∃ declaration, module.Writes interface declaration owner ∧
      module.Keeps interface declaration part := by
  obtain ⟨emitted, inside, rfl, fields, isStruct, field, isField, mentioned⟩ := mentions
  have declared : word ∉ Rust.otherTypes := by
    obtain ⟨_, other, -, isOther, rfl⟩ := writes
    exact foreign other (List.mem_of_getElem? isOther)
  obtain ⟨index, isEmitted⟩ := List.mem_iff_getElem?.mp inside
  obtain ⟨declaration, isOwner, -⟩ := exists_ofMembers made isEmitted
  obtain ⟨members, isShape, length, each⟩ :=
    exists_members linked distinct made isOwner isEmitted isStruct
  obtain ⟨position, isField⟩ := List.mem_iff_getElem?.mp isField
  have bound := (List.getElem?_eq_some_iff.mp isField).1
  rw [length] at bound
  have isMember := List.getElem?_eq_getElem bound
  obtain ⟨type, ofMember, -, parts⟩ := each position field _ isField isMember
  have unboxed := RustField.isBoxed_ofMember ofMember
  obtain ⟨rustType, isType, same⟩ := RustField.type_ofMember ofMember
  cases reached : Members.hasPart interface.declaredMembers type declaration.name with
  | true =>
      rw [reached, if_pos rfl] at same
      rw [same] at mentioned
      exact absurd (RustType.mentions_box mentioned) declared
  | false =>
      rw [reached] at unboxed
      rw [reached, if_neg Bool.false_ne_true] at same
      rw [same] at mentioned
      rcases RustType.mentions_of_ofMemberType isType mentioned with isOther |
        ⟨partName, name, isPart, isName, rfl⟩
      · exact absurd isOther declared
      · have stands := (parts partName).mp isPart
        obtain ⟨target, isTarget, rfl, -⟩ := stands.exists_declaration
        obtain ⟨place, found⟩ := List.mem_iff_getElem?.mp isTarget
        obtain ⟨other, isOther, otherName⟩ := exists_emitted made found
        obtain rfl := Option.some.inj (otherName.symm.trans isName)
        obtain rfl := Writes.inj unique ⟨place, other, found, isOther, rfl⟩ writes
        exact ⟨declaration, ⟨index, emitted, isOwner, isEmitted, rfl⟩, index, emitted, isOwner,
          isEmitted, fields, members, isStruct, isShape, position, field, _, isField, isMember,
          unboxed, isTarget, stands⟩

include unique foreign in
/-- Following the names in a module follows its declarations. -/
theorem transGen_keeps {owner word : String} (steps : Relation.TransGen module.Mentions owner word)
    {target : Declaration} (writes : module.Writes interface target word) :
    ∃ declaration, module.Writes interface declaration owner ∧
      Relation.TransGen (module.Keeps interface) declaration target := by
  induction steps using Relation.TransGen.head_induction_on with
  | single mentions =>
      obtain ⟨declaration, isOwner, keeps⟩ :=
        keeps_of_mentions linked distinct made unique foreign mentions writes
      exact ⟨declaration, isOwner, .single keeps⟩
  | head mentions _ ih =>
      obtain ⟨middle, isMiddle, later⟩ := ih
      obtain ⟨declaration, isOwner, keeps⟩ :=
        keeps_of_mentions linked distinct made unique foreign mentions isMiddle
      exact ⟨declaration, isOwner, .head keeps later⟩

include unique foreign in
/-- So a cycle of names would be one of declarations. -/
theorem acyclic_mentions (word : String) : ¬ Relation.TransGen module.Mentions word word := by
  intro cycle
  obtain ⟨_, ⟨emitted, inside, rfl, -⟩, -⟩ := Relation.TransGen.head'_iff.mp cycle
  obtain ⟨index, isEmitted⟩ := List.mem_iff_getElem?.mp inside
  obtain ⟨target, isTarget, -⟩ := exists_ofMembers made isEmitted
  have writes : module.Writes interface target emitted.name.print :=
    ⟨index, emitted, isTarget, isEmitted, rfl⟩
  obtain ⟨declaration, isOwner, steps⟩ :=
    transGen_keeps linked distinct made unique foreign cycle writes
  obtain rfl := Writes.inj unique isOwner writes
  exact acyclic_keeps linked distinct made declaration steps

end Names

end OfOutline

/-- The module for an interface that was read has the boxes it needs and no others. -/
theorem boxes_of_parse {source : String} {interface : Interface} {module : RustModule}
    (parsed : (Interface.parse source).outcome = .ok interface)
    (made : ofOutline interface.outline = some module) : module.Boxes interface := by
  obtain ⟨document, -, resolved⟩ := Interface.outcome_parse_eq_ok.mp parsed
  have distinct := Document.nodup_names_of_resolve resolved
  obtain ⟨rfl, linked⟩ := Document.link_eq_ok (Document.outcome_resolve_eq_ok.mp resolved).1
  have lengths := congrArg List.length (declarations_ofOutline made)
  rw [List.length_map, List.length_map] at lengths
  exact {
    declared := lengths.symm
    exactly := fun _ _ _ _ => isBoxed_iff linked distinct made
    acyclic := acyclic_keeps linked distinct made
    acyclicNames := acyclic_mentions linked distinct made }

/-- Two structs that are parts of each other, and one that is kept in a list. -/
theorem boxes_of_mutual_types : ∃ interface module,
    (Interface.parse "interface a\ntype T (next: ?T, all: []T, u: U)\ntype U (back: T)").outcome =
      .ok interface ∧
    ofOutline interface.outline = some module ∧ module.Boxes interface := by
  have parsed : (Interface.parse
      "interface a\ntype T (next: ?T, all: []T, u: U)\ntype U (back: T)").outcome = .ok ⟨"a",
        [⟨"T", .struct [("next", .modified .maybe (.reference 0)),
          ("all", .modified .array (.reference 0)), ("u", .reference 1)]⟩,
        ⟨"U", .struct [("back", .reference 0)]⟩], [], []⟩ := by
    cbv
  have made : (ofOutline (Interface.outline ⟨"a",
        [⟨"T", .struct [("next", .modified .maybe (.reference 0)),
          ("all", .modified .array (.reference 0)), ("u", .reference 1)]⟩,
        ⟨"U", .struct [("back", .reference 0)]⟩], [], []⟩)) = some ⟨"a",
        [⟨⟨"T", false⟩, .struct [
          ⟨⟨"next", false⟩, none, true, .option (.boxed (.named ⟨"T", false⟩))⟩,
          ⟨⟨"all", false⟩, none, false, .vec (.named ⟨"T", false⟩)⟩,
          ⟨⟨"u", false⟩, none, false, .boxed (.named ⟨"U", false⟩)⟩]⟩,
        ⟨⟨"U", false⟩, .struct [⟨⟨"back", false⟩, none, false, .boxed (.named ⟨"T", false⟩)⟩]⟩],
        none, ⟨"A", false⟩, []⟩ := by
    cbv
  exact ⟨_, _, parsed, made, boxes_of_parse parsed made⟩

/-- A declaration named like the text type takes its place, so that its own member mentions it. -/
theorem mentions_of_captured_name : ∃ interface module,
    (Interface.parse "interface a type String (a: string)").outcome = .ok interface ∧
    ofOutline interface.outline = some module ∧
    Relation.TransGen module.Mentions "String" "String" := by
  have parsed : (Interface.parse "interface a type String (a: string)").outcome =
      .ok ⟨"a", [⟨"String", .struct [("a", .builtin .string)]⟩], [], []⟩ := by
    cbv
  have made : ofOutline (Interface.outline ⟨"a",
      [⟨"String", .struct [("a", .builtin .string)]⟩], [], []⟩) = some ⟨"a",
        [⟨⟨"String", false⟩, .struct [⟨⟨"a", false⟩, none, false, .builtin .string⟩]⟩],
        none, ⟨"A", false⟩, []⟩ := by
    cbv
  refine ⟨_, _, parsed, made, .single ⟨_, List.mem_singleton_self _, rfl, _, rfl, _,
    List.mem_singleton_self _, ?_⟩⟩
  exact List.mem_singleton_self _

end RustModule

end Varlink
