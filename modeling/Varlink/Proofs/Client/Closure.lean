import Varlink.Client
import Varlink.Proofs.Client.Boxing

/-!
# Types that are mentioned are declared

A client has names in place of types: in the types of members, and for what calls and errors take and
give. They are found from where they are used, by spelling the way that leads there, while the
declarations are found by a walk that starts elsewhere. Both come to the same, because both speak of
the table of types: every position has a number in it, and what is written there is told by this number
alone. It is a built-in type, a modifier, or the name of the declaration that has the number. Nothing
is written for a wrapper without fields, which has a number like every struct but is no declaration.

A module in Rust is made from the outline name by name, so it mentions and declares the same types.
-/

namespace Varlink

/-- Lists that agree at every index are related item by item. -/
theorem forall₂_of_getElem? {α β : Type} {R : α → β → Prop} {first : List α} {second : List β}
    (sameLength : first.length = second.length)
    (each : ∀ (index : Nat) a b, first[index]? = some a → second[index]? = some b → R a b) :
    List.Forall₂ R first second := by
  refine List.forall₂_iff_get.mpr ⟨sameLength, fun index bound bound' => ?_⟩
  exact each index _ _ (List.getElem?_eq_getElem bound) (List.getElem?_eq_getElem bound')

theorem exists_of_mem_right {α β : Type} {R : α → β → Prop} {first : List α} {second : List β}
    (related : List.Forall₂ R first second) {b : β} (inside : b ∈ second) : ∃ a ∈ first, R a b := by
  induction related with
  | nil => cases inside
  | cons here _ ih =>
      rcases List.mem_cons.mp inside with rfl | inside
      · exact ⟨_, List.mem_cons_self, here⟩
      · obtain ⟨a, inside, related⟩ := ih inside
        exact ⟨a, List.mem_cons_of_mem _ inside, related⟩

/-- The name of the struct or enum that a type is made from. -/
def MemberType.name? : MemberType → Option String
  | named name => some name
  | builtin _ => none
  | modified _ inner => inner.name?

namespace Outline

/-- What is written for the parameters and results of the calls and for the parameters of the errors,
in their order. -/
def signatureNames (outline : Outline) : List (Option String) :=
  outline.calls.flatMap (fun call => [call.parameters, call.results])
    ++ outline.errors.map (·.parameters)

/-- The names in place of types. -/
def typeNames (outline : Outline) : List String :=
  outline.declarations.flatMap (fun declaration =>
    declaration.2.fields.filterMap fun field => field.2.name?)
  ++ outline.signatureNames.filterMap id

end Outline

namespace Interface

variable {interface : Interface}

/-- What is written for the number of a type: a struct or enum is the declaration with this number, and
everything else is what the table has. -/
inductive Writes (interface : Interface) : (number : Nat) → MemberType → Prop
  | declaration {declaration : Declaration} (inside : declaration ∈ interface.declarations) :
      Writes interface declaration.number (.named declaration.name)
  | builtin {number : Nat} {leaf : Builtin}
      (isBuiltin : interface.shape? number = some (.builtin leaf)) :
      Writes interface number (.builtin leaf)
  | modified {number inner : Nat} {modifier : Modifier} {type : MemberType}
      (isModified : interface.shape? number = some (.modified modifier inner))
      (writes : Writes interface inner type) : Writes interface number (.modified modifier type)

/-- What is written for the number of a struct or enum: its members, with types by their numbers. -/
def WritesMembers (interface : Interface) (number : Nat) : Members → Prop
  | .enum members => interface.shape? number = some (.enum members)
  | .struct fields => ∃ members, interface.shape? number = some (.struct members) ∧
      List.Forall₂ (fun member field => field.1 = member.1 ∧ interface.Writes member.2 field.2)
        members fields

/-- What is written for the number of a signature: the declaration with this number, or nothing if it
is suppressed. -/
def WritesSignature (interface : Interface) (number : Nat) : Option String → Prop
  | none => ∃ entry, interface.type? number = some entry ∧ entry.isSuppressed
  | some name => ∃ declaration ∈ interface.declarations,
      declaration.number = number ∧ declaration.name = name

theorem Writes.mem_names {number : Nat} {type : MemberType} (writes : interface.Writes number type)
    {name : String} (named : type.name? = some name) :
    name ∈ interface.declarations.map (·.name) := by
  induction writes with
  | declaration inside =>
      obtain rfl := Option.some.inj named
      exact List.mem_map_of_mem inside
  | builtin => cases named
  | modified _ _ ih => exact ih named

theorem writes_of_group {number : Nat} {entry : TypeEntry} {name : String}
    (isEntry : interface.type? number = some entry) (isDeclaration : entry.isDeclaration)
    (notSuppressed : ¬ entry.isSuppressed) (named : entry.name = some name) :
    interface.Writes number (.named name) := by
  obtain ⟨declaration, inside, rfl, rfl⟩ :=
    exists_declaration isEntry isDeclaration notSuppressed named
  exact .declaration inside

theorem exists_declaration_typedef {index : Nat} (bound : index < interface.typedefs.length) :
    ∃ declaration ∈ interface.declarations,
      declaration.number = typedefNumber index ∧ declaration.name = interface.typedefName index := by
  have found := List.getElem?_eq_getElem bound
  refine ⟨_, List.mem_of_getElem? (getElem?_declarations found), rfl, ?_⟩
  rw [typedefName, found]

/-- The type of a member is written as its number tells. -/
theorem TypeAt.writes {type : LinkedType} {path : String} {first : Nat}
    (located : interface.TypeAt type path first) :
    interface.Writes (type.number first) (type.toMemberType interface.typedefName path) := by
  induction type using TypeExpr.induction generalizing first with
  | reference index =>
      obtain ⟨declaration, inside, isNumber, isName⟩ :=
        exists_declaration_typedef (located.bound index (List.mem_singleton_self index))
      rw [TypeExpr.number, TypeExpr.toMemberType, ← isNumber, ← isName]
      exact .declaration inside
  | builtin leaf =>
      refine .builtin ?_
      rw [TypeExpr.number, shape?, type?_builtin]
      rfl
  | modified modifier inner ih => exact .modified located.shape?_modified (ih located.modified)
  | struct fields =>
      have isEntry := located.holds.last
      rw [TypeExpr.length_fieldEntries] at isEntry
      exact writes_of_group isEntry rfl Bool.noConfusion rfl
  | enum members => exact writes_of_group (located.holds 0 _ rfl) rfl Bool.noConfusion rfl

/-- The members of a declaration are written as its number tells. -/
theorem writesMembers (linked : interface.Linked) {declaration : Declaration}
    (inside : declaration ∈ interface.declarations) :
    interface.WritesMembers declaration.number (interface.members declaration) := by
  obtain ⟨first, located⟩ := exists_groupAt linked inside
  obtain ⟨name, number, body⟩ := declaration
  cases body with
  | enum members => exact located.shape
  | struct fields =>
      refine ⟨_, located.shape, forall₂_of_getElem? ?_ ?_⟩
      · have sameLength := congrArg List.length (TypeExpr.fieldNumbers_names first fields)
        rw [List.length_map, List.length_map] at sameLength
        rw [List.length_map, sameLength]
      · intro index member field isMember isField
        rw [getElem?_fieldNumbers] at isMember
        rw [List.getElem?_map] at isField
        obtain ⟨⟨memberName, type⟩, found, rfl⟩ := Option.map_eq_some_iff.mp isMember
        rw [found] at isField
        obtain rfl := Option.some.inj isField
        exact ⟨rfl, (located.field found).writes⟩

theorem signatureNames_outline (interface : Interface) : interface.outline.signatureNames =
    interface.signatures.map fun (path, signature) => interface.signatureName? path signature := by
  rw [Outline.signatureNames, signatures, List.map_append, List.map_flatMap, List.map_map]
  simp only [outline, List.flatMap_map, List.map_map]
  rfl

/-- What calls and errors take and give is written as the numbers of the signatures tell. -/
theorem writesSignatures (linked : interface.Linked) :
    List.Forall₂ interface.WritesSignature interface.signatureNumbers
      interface.outline.signatureNames := by
  rw [signatureNames_outline]
  refine forall₂_of_getElem? ?_ ?_
  · rw [length_signatureNumbers, signatureTypes_document, List.length_map, List.length_map]
  · intro index number name isNumber isName
    rw [getElem?_signatureNumbers] at isNumber
    rw [List.getElem?_map] at isName
    obtain ⟨⟨path, signature⟩, found, rfl⟩ := Option.map_eq_some_iff.mp isNumber
    rw [found] at isName
    obtain rfl := Option.some.inj isName
    cases signature with
    | declared target =>
        have isStruct := linked.structs _ (List.mem_of_getElem? found) target rfl
        rw [Document.isStruct, Option.any_eq_true] at isStruct
        obtain ⟨typedef, isTypedef, -⟩ := isStruct
        exact exists_declaration_typedef (List.getElem?_eq_some_iff.mp isTypedef).1
    | inline fields =>
        have isEntry := (holds_signature found).last
        rw [TypeExpr.length_fieldEntries] at isEntry
        cases fields with
        | nil => exact ⟨_, isEntry, rfl⟩
        | cons field fields => exact exists_declaration isEntry rfl Bool.noConfusion rfl

end Interface

/-- A client declares the types of an interface, and mentions no others. -/
structure Outline.Closed (outline : Outline) (interface : Interface) : Prop where
  /-- The declarations are the structs and enums in the table except for suppressed ones. -/
  registered : ∀ number, number ∈ interface.declarations.map (·.number) ↔
    ∃ entry, interface.type? number = some entry ∧ entry.isDeclaration ∧ ¬ entry.isSuppressed
  /-- None of them is declared twice. -/
  once : (interface.declarations.map (·.number)).Nodup
  /-- They are declared in order, each under its name and with its members. -/
  declared : List.Forall₂ (fun declaration written => written.1 = declaration.name ∧
    interface.WritesMembers declaration.number written.2) interface.declarations outline.declarations
  /-- Calls and errors take and give what their signatures are. -/
  signatures : List.Forall₂ interface.WritesSignature interface.signatureNumbers
    outline.signatureNames
  /-- Every name in place of a type is that of one declaration. -/
  closed : ∀ name ∈ outline.typeNames, (outline.declarations.map (·.1)).count name = 1
  /-- A suppressed wrapper is not declared, and nothing that is written stands for it. -/
  suppressed : ∀ number entry, interface.type? number = some entry → entry.isSuppressed →
    number ∉ interface.declarations.map (·.number) ∧ (∀ type, ¬ interface.Writes number type) ∧
      ∀ name, ¬ interface.WritesSignature number (some name)

namespace Interface

variable {interface : Interface}

theorem not_mem_numbers_of_suppressed {number : Nat} {entry : TypeEntry}
    (isEntry : interface.type? number = some entry) (suppressed : entry.isSuppressed) :
    number ∉ interface.declarations.map (·.number) := by
  intro isDeclared
  obtain ⟨other, isOther, -, notSuppressed⟩ := mem_numbers_declarations.mp isDeclared
  obtain rfl := Option.some.inj (isOther.symm.trans isEntry)
  exact notSuppressed suppressed

theorem not_writes_of_suppressed {number : Nat} {entry : TypeEntry}
    (isEntry : interface.type? number = some entry) (suppressed : entry.isSuppressed)
    (type : MemberType) : ¬ interface.Writes number type := by
  have isEmpty : interface.shape? number = some (.struct []) := by
    rw [shape?, isEntry, Option.map_some, shape_of_suppressed isEntry suppressed]
  intro writes
  cases writes with
  | declaration inside =>
      exact not_mem_numbers_of_suppressed isEntry suppressed (List.mem_map_of_mem inside)
  | builtin isBuiltin => cases isEmpty.symm.trans isBuiltin
  | modified isModified => cases isEmpty.symm.trans isModified

theorem mem_names_of_mem_typeNames (linked : interface.Linked) {name : String}
    (mentioned : name ∈ interface.outline.typeNames) :
    name ∈ interface.declarations.map (·.name) := by
  rcases List.mem_append.mp mentioned with inMember | inSignature
  · obtain ⟨_, isWritten, inMember⟩ := List.mem_flatMap.mp inMember
    obtain ⟨field, isField, named⟩ := List.mem_filterMap.mp inMember
    obtain ⟨declaration, inside, rfl⟩ := List.mem_map.mp isWritten
    have writes := writesMembers linked inside
    dsimp only at isField
    cases members : interface.members declaration with
    | enum =>
        rw [members] at isField
        cases isField
    | struct fields =>
        rw [members] at isField writes
        obtain ⟨_, -, each⟩ := writes
        obtain ⟨_, -, -, writes⟩ := exists_of_mem_right each isField
        exact writes.mem_names named
  · obtain ⟨written, inside, rfl⟩ := List.mem_filterMap.mp inSignature
    obtain ⟨_, -, declaration, isDeclaration, -, rfl⟩ :=
      exists_of_mem_right (writesSignatures linked) inside
    exact List.mem_map_of_mem isDeclaration

/-- The outline of a client is closed. -/
theorem closed_outline (linked : interface.Linked)
    (distinct : (interface.declarations.map (·.name)).Nodup) :
    interface.outline.Closed interface where
  registered _ := mem_numbers_declarations
  once := interface.numbers_nodup
  declared := by
    refine List.forall₂_map_right_iff.mpr (List.forall₂_same.mpr fun declaration inside => ?_)
    exact ⟨rfl, writesMembers linked inside⟩
  signatures := writesSignatures linked
  closed name mentioned := by
    have names : interface.outline.declarations.map (·.1) =
        interface.declarations.map (·.name) := by
      rw [outline, declaredMembers, List.map_map]
      rfl
    rw [names]
    exact List.count_eq_one_of_mem distinct (mem_names_of_mem_typeNames linked mentioned)
  suppressed number entry isEntry suppressed := by
    have undeclared := not_mem_numbers_of_suppressed isEntry suppressed
    refine ⟨undeclared, not_writes_of_suppressed isEntry suppressed, ?_⟩
    rintro name ⟨declaration, inside, rfl, -⟩
    exact undeclared (List.mem_map_of_mem inside)

end Interface

namespace RustType

/-- The name that a type is made from. -/
def name? : RustType → Option RustName
  | named name => some name
  | builtin _ => none
  | option inner | vec inner | map inner | boxed inner => inner.name?

/-- A type of the module is that of a member, with boxes in it. -/
inductive Spells : MemberType → RustType → Prop
  | named {text : String} {name : RustName} (isName : RustName.ofString? text = some name) :
      Spells (.named text) (.named name)
  | builtin (leaf : Builtin) : Spells (.builtin leaf) (.builtin leaf)
  | option {member : MemberType} {type : RustType} (inner : Spells member type) :
      Spells (.modified .maybe member) (.option type)
  | vec {member : MemberType} {type : RustType} (inner : Spells member type) :
      Spells (.modified .array member) (.vec type)
  | map {member : MemberType} {type : RustType} (inner : Spells member type) :
      Spells (.modified .dictionary member) (.map type)
  | boxed {member : MemberType} {type : RustType} (inner : Spells member type) :
      Spells member (.boxed type)

theorem spells_of_ofMemberType {member : MemberType} {type : RustType}
    (h : ofMemberType member = some type) : Spells member type := by
  induction member generalizing type with
  | named text =>
      obtain ⟨name, isName, rfl⟩ := Option.map_eq_some_iff.mp h
      exact .named isName
  | builtin leaf =>
      obtain rfl := Option.some.inj h
      exact .builtin leaf
  | modified modifier inner ih =>
      cases modifier with
      | maybe =>
          obtain ⟨_, isInner, rfl⟩ := Option.map_eq_some_iff.mp h
          exact .option (ih isInner)
      | array =>
          obtain ⟨_, isInner, rfl⟩ := Option.map_eq_some_iff.mp h
          exact .vec (ih isInner)
      | dictionary =>
          obtain ⟨_, isInner, rfl⟩ := Option.map_eq_some_iff.mp h
          exact .map (ih isInner)

theorem Spells.box {member : MemberType} {type : RustType} (spells : Spells member type) :
    Spells member type.box := by
  cases spells with
  | option inner => exact .option (.boxed inner)
  | named isName => exact .boxed (.named isName)
  | builtin leaf => exact .boxed (.builtin leaf)
  | vec inner => exact .boxed (.vec inner)
  | map inner => exact .boxed (.map inner)
  | boxed inner => exact .boxed (.boxed inner)

/-- The name in a type is the one in the type of the member. -/
theorem Spells.name? {member : MemberType} {type : RustType} (spells : Spells member type) :
    Option.Rel (fun text name => RustName.ofString? text = some name) member.name? type.name? := by
  induction spells with
  | named isName => exact .some isName
  | builtin => exact .none
  | option _ ih => exact ih
  | vec _ ih => exact ih
  | map _ ih => exact ih
  | boxed _ ih => exact ih

end RustType

/-- The fields of a struct; an enum has none. -/
def RustBody.fields : RustBody → List RustField
  | struct fields => fields
  | enum _ => []

/-- The body of a declaration is that for members. -/
def RustBody.Spells : Members → RustBody → Prop
  | .struct fields, .struct emitted =>
    List.Forall₂ (fun field emitted => RustType.Spells field.2 emitted.type) fields emitted
  | .enum members, .enum variants => variants.length = members.length
  | _, _ => False

theorem RustDeclaration.spells_ofMembers {declarations : List (String × Members)} {name : String}
    {members : Members} {declaration : RustDeclaration}
    (h : RustDeclaration.ofMembers declarations name members = some declaration) :
    RustBody.Spells members declaration.body := by
  cases members with
  | struct fields =>
      obtain ⟨_, emitted, -, mapped, rfl⟩ := RustDeclaration.ofStruct_eq_some.mp h
      refine (forall₂_of_mapM_eq_some mapped).imp fun field emitted ofMember => ?_
      obtain ⟨type, isType, same⟩ := RustField.type_ofMember ofMember
      have spells := RustType.spells_of_ofMemberType isType
      rw [same]
      split_ifs
      · exact spells.box
      · exact spells
  | enum members =>
      obtain ⟨_, variants, -, mapped, rfl⟩ := RustDeclaration.ofEnum_eq_some.mp h
      exact (forall₂_of_mapM_eq_some mapped).length_eq.symm

namespace RustModule

/-- What is written for the parameters and results of the functions and for the parameters of the
errors, in their order. -/
def signatureNames (module : RustModule) : List (Option RustName) :=
  module.methods.flatMap (fun method => [method.parameters, method.results])
    ++ module.errors.toList.flatMap fun errors => errors.cases.map (·.parameters)

/-- The names in place of types. -/
def typeNames (module : RustModule) : List RustName :=
  module.declarations.flatMap (fun declaration =>
    declaration.body.fields.filterMap fun field => field.type.name?)
  ++ module.signatureNames.filterMap id

/-- A module declares and mentions what the outline of a client does. -/
structure Spells (module : RustModule) (outline : Outline) : Prop where
  declared : List.Forall₂ (fun written declaration =>
    RustName.ofString? written.1 = some declaration.name ∧
      RustBody.Spells written.2 declaration.body) outline.declarations module.declarations
  signatures : List.Forall₂ (fun text name => RustName.ofOptional? text = some name)
    outline.signatureNames module.signatureNames

theorem signatures_ofErrors {outline : Outline} {errors : Option RustErrors}
    (h : RustErrors.ofOutline outline = some errors) :
    List.Forall₂ (fun text name => RustName.ofOptional? text = some name)
      (outline.errors.map (·.parameters))
      (errors.toList.flatMap fun errors => errors.cases.map (·.parameters)) := by
  rcases RustErrors.ofOutline_eq_some.mp h with ⟨noErrors, rfl⟩ | ⟨-, _, cases, -, mapped, rfl⟩
  · rw [noErrors]
    exact .nil
  · rw [Option.toList_some, List.flatMap_singleton, List.forall₂_map_left_iff,
      List.forall₂_map_right_iff]
    refine (forall₂_of_mapM_eq_some mapped).imp fun error emitted ofOutline => ?_
    obtain ⟨_, _, -, isParameters, rfl⟩ := RustErrorCase.ofOutline_eq_some.mp ofOutline
    exact isParameters

theorem spells_ofOutline {outline : Outline} {module : RustModule}
    (made : ofOutline outline = some module) : module.Spells outline := by
  obtain ⟨declarations, errors, _, methods, mapped, isErrors, -, mappedMethods, rfl⟩ :=
    ofOutline_eq_some.mp made
  constructor
  · refine (forall₂_of_mapM_eq_some mapped).imp fun written declaration ofMembers => ?_
    exact ⟨RustDeclaration.name_ofMembers ofMembers, RustDeclaration.spells_ofMembers ofMembers⟩
  · refine List.rel_append (List.rel_flatMap (forall₂_of_mapM_eq_some mappedMethods) ?_)
      (signatures_ofErrors isErrors)
    intro call method ofOutline
    obtain ⟨_, _, _, -, isParameters, isResults, rfl⟩ := RustMethod.ofOutline_eq_some.mp ofOutline
    exact .cons isParameters (.cons isResults .nil)

/-- What a module mentions is what the outline does, name by name. -/
theorem Spells.typeNames {module : RustModule} {outline : Outline} (spells : module.Spells outline) :
    List.Forall₂ (fun text name => RustName.ofString? text = some name) outline.typeNames
      module.typeNames := by
  refine List.rel_append (List.rel_flatMap spells.declared ?_)
    (List.rel_filterMap ?_ spells.signatures)
  · rintro ⟨owner, members⟩ ⟨name, body⟩ ⟨-, fields⟩
    cases members with
    | struct fields =>
        cases body with
        | struct emitted => exact List.rel_filterMap (fun _ _ spells => spells.name?) fields
        | enum variants => cases fields
    | enum members =>
        cases body with
        | struct emitted => cases fields
        | enum variants => exact .nil
  · rintro text? name? isName
    cases text? with
    | none =>
        obtain rfl := Option.some.inj isName
        exact .none
    | some text =>
        obtain ⟨_, isRustName, rfl⟩ := Option.map_eq_some_iff.mp isName
        exact .some isRustName

end RustModule

end Varlink
