import Varlink.Proofs.Client.Closure

/-!
# Items read back

What goes over the wire is decided by the text of the structs and enums alone: a member has the name
that its attribute gives it, or else that of its identifier, and a type is what its path says. Going
back from the items to the interface undoes everything that made them fit for the language: another
case, a mark or a low line where the name is a keyword, a box where a struct would have no size. What
is found is each declaration of the interface, in its place, with the members it has and their types.

A path is read as a built-in type or a modifier wherever it is spelled like one. So no declaration may
be called like that, and nothing else is asked of the names.
-/

namespace Varlink

open Layout

theorem forall₂_trans {α β γ : Type} {R : α → β → Prop} {S : β → γ → Prop} {first : List α}
    {middle : List β} {last : List γ} (here : List.Forall₂ R first middle)
    (there : List.Forall₂ S middle last) :
    List.Forall₂ (fun a c => ∃ b, R a b ∧ S b c) first last := by
  induction here generalizing last with
  | nil =>
      cases there
      exact .nil
  | cons head _ ih =>
      cases there with
      | cons behind tail => exact .cons ⟨_, head, behind⟩ (ih tail)

/-- Items that are related to results of their own are related to the list of results. -/
theorem exists_mapM_of_forall₂ {α β γ : Type} {R : α → γ → Prop} {f : β → Option γ}
    {items : List α} {sources : List β}
    (related : List.Forall₂ (fun item source => ∃ result, f source = some result ∧ R item result)
      items sources) :
    ∃ results, sources.mapM f = some results ∧ List.Forall₂ R items results := by
  induction related with
  | nil => exact ⟨[], rfl, .nil⟩
  | cons here _ ih =>
      obtain ⟨result, isResult, holds⟩ := here
      obtain ⟨results, areResults, others⟩ := ih
      refine ⟨result :: results, ?_, .cons holds others⟩
      rw [List.mapM_cons, isResult, areResults]
      rfl

/-- A type as it is written: a path, and what stands behind it in angle brackets. -/
inductive RustPath where
  | mk (path : String) (arguments : List RustPath)

/-- The layout of a path. -/
def RustPath.layout : RustPath → List Layout
  | mk path [] => [text path]
  | mk path (first :: others) =>
    text path :: Rust.inAngles step (first.layout :: others.map layout)

/-- The built-in type that is spelled so. -/
def Rust.builtin? : String → Option Builtin
  | "bool" => some .bool
  | "i64" => some .int
  | "f64" => some .float
  | "String" => some .string
  | "rt::Object" => some .object
  | _ => none

/-- The type that a path says, with the declarations under their identifiers. A box is no type of its
own. -/
def RustPath.read : RustPath → Option MemberType
  | mk path [] =>
    match Rust.builtin? path with
    | some leaf => some (.builtin leaf)
    | none => some (.named path)
  | mk "Box" [inner] => inner.read
  | mk "Option" [inner] => inner.read.map (.modified .maybe)
  | mk "Vec" [inner] => inner.read.map (.modified .array)
  | mk "HashMap" [mk "String" [], inner] => inner.read.map (.modified .dictionary)
  | _ => none

/-- The path for a type. -/
def RustType.path : RustType → RustPath
  | named name => .mk name.print []
  | builtin leaf => .mk (Rust.builtinType leaf) []
  | option inner => .mk "Option" [inner.path]
  | vec inner => .mk "Vec" [inner.path]
  | map inner => .mk "HashMap" [.mk "String" [], inner.path]
  | boxed inner => .mk "Box" [inner.path]

/-- A type is laid out as its path. -/
theorem Rust.type_eq_layout (type : RustType) : Rust.type type = type.path.layout := by
  induction type with
  | named name => simp [Rust.type, RustType.path, RustPath.layout]
  | builtin leaf => simp [Rust.type, RustType.path, RustPath.layout]
  | option inner ih | vec inner ih | map inner ih | boxed inner ih =>
    simp [Rust.type, RustType.path, RustPath.layout, ih]

/-- The type with the identifiers of declarations in place of their names. -/
def MemberType.identified : MemberType → Option MemberType
  | named name => (RustName.ofString? name).map fun identifier => named identifier.print
  | builtin leaf => some (builtin leaf)
  | modified modifier inner => inner.identified.map (modified modifier)

namespace RustName

/-- No mark and no low line make another type's name out of a name. -/
theorem print_not_mem_otherTypes {name : String} {identifier : RustName}
    (isIdentifier : ofString? name = some identifier) (apart : name ∉ Rust.otherTypes) :
    identifier.print ∉ Rust.otherTypes := by
  have escaped : ∀ word ∈ pathKeywords, word ++ "_" ∉ Rust.otherTypes := by decide
  have raw : ∀ word ∈ keywords, "r#" ++ word ∉ Rust.otherTypes := by decide
  rw [ofString?] at isIdentifier
  split_ifs at isIdentifier with isPath isKeyword <;> obtain rfl := Option.some.inj isIdentifier
  · exact escaped name isPath
  · exact raw name isKeyword
  · exact apart

end RustName

theorem Rust.builtin?_builtinType (leaf : Builtin) : builtin? (builtinType leaf) = some leaf := by
  cases leaf <;> rfl

theorem Rust.builtin?_eq_none {word : String} (apart : word ∉ otherTypes) : builtin? word = none := by
  unfold builtin?
  split
  case h_6 => rfl
  all_goals exact absurd (by decide) apart

/-- The path for a type is read as the type it was made for, if its declaration is not called like
another type. -/
theorem RustType.Spells.read_path {member : MemberType} {type : RustType}
    (spells : RustType.Spells member type)
    (apart : ∀ name, member.name? = some name → name ∉ Rust.otherTypes) :
    ∃ found, type.path.read = some found ∧ member.identified = some found := by
  induction spells with
  | @named name identifier isIdentifier =>
      have foreign := RustName.print_not_mem_otherTypes isIdentifier (apart name rfl)
      refine ⟨.named identifier.print, ?_, ?_⟩
      · simp [RustType.path, RustPath.read, Rust.builtin?_eq_none foreign]
      · rw [MemberType.identified, isIdentifier]
        rfl
  | builtin leaf =>
      refine ⟨.builtin leaf, ?_, rfl⟩
      simp [RustType.path, RustPath.read, Rust.builtin?_builtinType]
  | option _ ih | vec _ ih | map _ ih =>
      obtain ⟨found, isRead, isMeant⟩ := ih apart
      simp [RustType.path, RustPath.read, MemberType.identified, isRead, isMeant]
  | boxed _ ih =>
      obtain ⟨found, isRead, isMeant⟩ := ih apart
      exact ⟨found, isRead, isMeant⟩

namespace Serde

/-- An identifier without the mark of raw ones. -/
def unraw (identifier : String) : String :=
  match identifier.toList with
  | 'r' :: '#' :: rest => String.ofList rest
  | _ => identifier

/-- The name in messages of what has an identifier and may have an attribute with another name. -/
def nameOf (rename : Option String) (identifier : RustName) : String :=
  rename.getD (unraw identifier.print)

/-- A member of a struct, with its name in messages. -/
structure Field where
  name : String
  type : MemberType
  /-- Whether it is left out where there is none, and need not be there. -/
  isOptional : Bool
  deriving DecidableEq, Repr

/-- What is between the braces of an item. -/
inductive Body where
  | struct (fields : List Field)
  | enum (members : List String)
  deriving DecidableEq, Repr

/-- A struct or an enum, with the identifier it is mentioned by. -/
structure Item where
  identifier : String
  body : Body
  deriving DecidableEq, Repr

end Serde

/-- The member that a field is for. -/
def RustField.read (field : RustField) : Option Serde.Field := do
  let type ← field.type.path.read
  return ⟨Serde.nameOf field.rename field.name, type, field.isOptional⟩

/-- The member that a variant is for. -/
def RustVariant.read (variant : RustVariant) : String := Serde.nameOf variant.rename variant.name

/-- What the item for a declaration says. -/
def RustDeclaration.read : RustDeclaration → Option Serde.Item
  | ⟨name, .struct fields⟩ =>
    (fields.mapM RustField.read).map fun members => ⟨name.print, .struct members⟩
  | ⟨name, .enum variants⟩ => some ⟨name.print, .enum (variants.map RustVariant.read)⟩

namespace RustName

theorem unraw_print {text : String} {identifier : RustName}
    (isIdentifier : ofString? text = some identifier) :
    Serde.unraw identifier.print = identifier.text := by
  have escaped : ∀ word ∈ pathKeywords, Serde.unraw (word ++ "_") = word ++ "_" := by decide
  have raw : ∀ word ∈ keywords, Serde.unraw ("r#" ++ word) = word := by decide
  rw [ofString?] at isIdentifier
  split_ifs at isIdentifier with isPath isKeyword isPlain <;>
    obtain rfl := Option.some.inj isIdentifier
  · exact escaped text isPath
  · exact raw text isKeyword
  · show Serde.unraw text = text
    unfold Serde.unraw
    split
    · rename_i rest spelled
      have noMark : Text.isIdentifierContinue '#' = false := by decide
      rw [RustName.isIdentifier, spelled] at isPlain
      simp [noMark] at isPlain
    · rfl

/-- A member has its own name in messages, whatever its identifier is. -/
theorem nameOf_rename? (text : String) {spelled : String} {identifier : RustName}
    (isIdentifier : ofString? spelled = some identifier) :
    Serde.nameOf (identifier.rename? text) identifier = text := by
  rw [Serde.nameOf, unraw_print isIdentifier, rename?]
  split_ifs with same
  · exact same
  · rfl

end RustName

namespace Interface

variable {interface : Interface}

/-- A field is for a member: it has the member's name, its type, and may be left out just if the
member may be absent. -/
structure IsField (interface : Interface) (member : String × Nat) (field : Serde.Field) : Prop where
  name : field.name = member.1
  type : ∃ type, interface.Writes member.2 type ∧ type.identified = some field.type
  isOptional : field.isOptional ↔ ∃ inner, interface.shape? member.2 = some (.modified .maybe inner)

/-- An item is for a declaration: it is mentioned by the identifier for its name, and it has the same
members. -/
inductive IsItem (interface : Interface) (declaration : Declaration) : Serde.Item → Prop
  | struct {identifier : RustName} {members : List (String × Nat)} {fields : List Serde.Field}
      (isIdentifier : RustName.ofString? declaration.name = some identifier)
      (isStruct : interface.shape? declaration.number = some (.struct members))
      (areFields : List.Forall₂ interface.IsField members fields) :
      IsItem interface declaration ⟨identifier.print, .struct fields⟩
  | enum {identifier : RustName} {members : List String}
      (isIdentifier : RustName.ofString? declaration.name = some identifier)
      (isEnum : interface.shape? declaration.number = some (.enum members)) :
      IsItem interface declaration ⟨identifier.print, .enum members⟩

theorem Writes.isOptional_iff {number : Nat} {type : MemberType}
    (writes : interface.Writes number type) :
    type.isOptional ↔ ∃ inner, interface.shape? number = some (.modified .maybe inner) := by
  cases writes with
  | declaration inside =>
      refine iff_of_false Bool.noConfusion ?_
      rintro ⟨inner, isMaybe⟩
      rcases not_mem_of_shape? isMaybe inside with ⟨_, same⟩ | ⟨_, same⟩ <;> cases same
  | builtin isBuiltin =>
      refine iff_of_false Bool.noConfusion ?_
      rintro ⟨inner, isMaybe⟩
      cases isBuiltin.symm.trans isMaybe
  | @modified _ inner modifier _ isModified =>
      rw [isModified]
      cases modifier <;> simp [MemberType.isOptional]

end Interface

section Reading

variable {interface : Interface} {declarations : List (String × Members)} {owner : String}

/-- A field is read as the member it was made for. -/
theorem RustField.read_ofMember {member : String × Nat} {type : MemberType} {field : RustField}
    (made : RustField.ofMember declarations owner (member.1, type) = some field)
    (writes : interface.Writes member.2 type)
    (apart : ∀ name, type.name? = some name → name ∉ Rust.otherTypes) :
    ∃ found, field.read = some found ∧ interface.IsField member found := by
  obtain ⟨identifier, unboxed, isIdentifier, isType, rfl⟩ := RustField.ofMember_eq_some.mp made
  have spells : RustType.Spells type
      (if Members.hasPart declarations type owner then unboxed.box else unboxed) := by
    have spells := RustType.spells_of_ofMemberType isType
    split_ifs
    · exact spells.box
    · exact spells
  obtain ⟨found, isRead, isMeant⟩ := spells.read_path apart
  refine ⟨⟨member.1, found, type.isOptional⟩, ?_, rfl, ⟨type, writes, isMeant⟩,
    writes.isOptional_iff⟩
  have named := RustName.nameOf_rename? member.1 isIdentifier
  rw [RustField.read, isRead, named]
  rfl

theorem RustVariant.read_ofMember {member : String} {variant : RustVariant}
    (made : RustVariant.ofMember member = some variant) : variant.read = member := by
  obtain ⟨identifier, isIdentifier, rfl⟩ := RustVariant.ofMember_eq_some.mp made
  exact RustName.nameOf_rename? member isIdentifier

/-- An item is read as the declaration it was made for. -/
theorem RustDeclaration.read_ofMembers (linked : interface.Linked)
    (apart : ∀ declaration ∈ interface.declarations, declaration.name ∉ Rust.otherTypes)
    {declaration : Declaration} (inside : declaration ∈ interface.declarations)
    {emitted : RustDeclaration}
    (made : RustDeclaration.ofMembers declarations declaration.name
      (interface.members declaration) = some emitted) :
    ∃ item, emitted.read = some item ∧ interface.IsItem declaration item := by
  have isIdentifier := RustDeclaration.name_ofMembers made
  have writes := Interface.writesMembers linked inside
  generalize interface.members declaration = members at made writes
  cases members with
  | enum members =>
      obtain ⟨identifier, variants, isName, mapped, rfl⟩ := RustDeclaration.ofEnum_eq_some.mp made
      have names : variants.map RustVariant.read = members := by
        have each : List.Forall₂ (flip fun variant member => RustVariant.read variant = member)
            members variants :=
          (forall₂_of_mapM_eq_some mapped).imp fun _ _ => RustVariant.read_ofMember
        exact List.forall₂_eq_eq_eq ▸ List.forall₂_map_left_iff.mpr each.flip
      exact ⟨_, rfl, names ▸ .enum isIdentifier writes⟩
  | struct fields =>
      obtain ⟨identifier, emittedFields, isName, mapped, rfl⟩ :=
        RustDeclaration.ofStruct_eq_some.mp made
      obtain ⟨members, isStruct, related⟩ := writes
      have each : List.Forall₂ (fun member field => ∃ found, RustField.read field = some found ∧
          interface.IsField member found) members emittedFields := by
        refine (forall₂_trans related (forall₂_of_mapM_eq_some mapped)).imp ?_
        rintro member emitted ⟨⟨_, type⟩, ⟨rfl, isWritten⟩, ofMember⟩
        refine RustField.read_ofMember ofMember isWritten fun name named => ?_
        obtain ⟨other, isOther, rfl⟩ := List.mem_map.mp (isWritten.mem_names named)
        exact apart other isOther
      obtain ⟨found, isRead, areFields⟩ := exists_mapM_of_forall₂ each
      refine ⟨⟨identifier.print, .struct found⟩, ?_, .struct isIdentifier isStruct areFields⟩
      rw [RustDeclaration.read, isRead]
      rfl

/-- The items of a module for an interface that was read are read back as the declarations of the
interface, one by one, with their members, the names of these in messages, and their types, as long as
no declaration is called like a type that is written by its own name. -/
theorem RustModule.read_of_parse {source : String} {interface : Interface} {module : RustModule}
    (parsed : (Interface.parse source).outcome = .ok interface)
    (made : RustModule.ofOutline interface.outline = some module)
    (apart : ∀ declaration ∈ interface.declarations, declaration.name ∉ Rust.otherTypes) :
    ∃ items, module.declarations.mapM RustDeclaration.read = some items ∧
      List.Forall₂ interface.IsItem interface.declarations items := by
  obtain ⟨document, -, resolved⟩ := Interface.outcome_parse_eq_ok.mp parsed
  obtain ⟨-, linked⟩ := Document.link_eq_ok (Document.outcome_resolve_eq_ok.mp resolved).1
  have emitted := RustModule.declarations_ofOutline made
  refine exists_mapM_of_forall₂ (forall₂_of_getElem? ?_ ?_)
  · simpa using congrArg List.length emitted
  · intro index declaration item isDeclaration isItem
    obtain ⟨owner, isOwner, ofMembers⟩ := RustModule.exists_ofMembers made isItem
    obtain rfl := Option.some.inj (isOwner.symm.trans isDeclaration)
    exact RustDeclaration.read_ofMembers linked apart (List.mem_of_getElem? isOwner) ofMembers

end Reading

/-- Names of all sorts: one that is kept, one whose case changes, a keyword, one that is none even raw,
and a box inside of what may be left out. -/
theorem RustModule.read_of_escaped_names : ∃ interface module items,
    (Interface.parse "interface a\ntype type (next: ?type, fooBar: []E)\ntype E (self, on)").outcome =
      .ok interface ∧
    ofOutline interface.outline = some module ∧
    (∀ declaration ∈ interface.declarations, declaration.name ∉ Rust.otherTypes) ∧
    module.declarations.mapM RustDeclaration.read = some items ∧
    items = [⟨"r#type", .struct [⟨"next", .modified .maybe (.named "r#type"), true⟩,
      ⟨"fooBar", .modified .array (.named "E"), false⟩]⟩, ⟨"E", .enum ["self", "on"]⟩] ∧
    List.Forall₂ interface.IsItem interface.declarations items := by
  have parsed : (Interface.parse
      "interface a\ntype type (next: ?type, fooBar: []E)\ntype E (self, on)").outcome = .ok ⟨"a",
        [⟨"type", .struct [("next", .modified .maybe (.reference 0)),
          ("fooBar", .modified .array (.reference 1))]⟩, ⟨"E", .enum ["self", "on"]⟩], [], []⟩ := by
    cbv
  have made : (ofOutline (Interface.outline ⟨"a",
        [⟨"type", .struct [("next", .modified .maybe (.reference 0)),
          ("fooBar", .modified .array (.reference 1))]⟩, ⟨"E", .enum ["self", "on"]⟩], [], []⟩)) =
      some ⟨"a", [⟨⟨"type", true⟩, .struct [
          ⟨⟨"next", false⟩, none, true, .option (.boxed (.named ⟨"type", true⟩))⟩,
          ⟨⟨"foo_bar", false⟩, some "fooBar", false, .vec (.named ⟨"E", false⟩)⟩]⟩,
        ⟨⟨"E", false⟩, .enum [⟨⟨"Self_", false⟩, some "self"⟩, ⟨⟨"On", false⟩, some "on"⟩]⟩],
        none, ⟨"A", false⟩, []⟩ := by
    cbv
  have declared : (Interface.declarations ⟨"a",
        [⟨"type", .struct [("next", .modified .maybe (.reference 0)),
          ("fooBar", .modified .array (.reference 1))]⟩, ⟨"E", .enum ["self", "on"]⟩], [], []⟩).map
            (·.name) = ["type", "E"] := by
    cbv
  have apart : ∀ name ∈ ["type", "E"], name ∉ Rust.otherTypes := by decide
  have foreign := fun declaration inside =>
    apart _ (declared ▸ List.mem_map_of_mem (f := Declaration.name) (a := declaration) inside)
  obtain ⟨items, areRead, areItems⟩ := read_of_parse parsed made foreign
  refine ⟨_, _, items, parsed, made, foreign, areRead, ?_, areItems⟩
  exact Option.some.inj (areRead.symm.trans (by decide))

end Varlink
