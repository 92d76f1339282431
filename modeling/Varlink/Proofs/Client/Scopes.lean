import Varlink.Proofs.Client.Closure
import Varlink.Proofs.Client.Name

/-!
# Names in the scopes of a module

The names of a module come from those of an interface in four ways: as they are, in snake case, in
Pascal case, and with a low line behind them where they are reserved. None of these is injective by
itself, so names that differ in the interface may meet in the module.

A low line behind a name is safe where names are made of words, as those of fields, variants, functions
and the client are, since none of these ends in one. What is written as it is declared may end in one,
and may also be the name of something that is imported or used in its place. Together with the spellings
in which names of one scope meet, these are all the ways in which a name of a module may be ambiguous.
-/

namespace Varlink

/-- A name with a low line behind it where it is reserved. -/
def escaped (reserved : List String) (text : String) : String :=
  if text ∈ reserved then text ++ "_" else text

section Escaped

variable {reserved names : List String}

theorem forall_mem_iff_of_map_eq {α β γ : Type} {f : α → γ} {g : β → γ} {first : List α}
    {second : List β} (same : first.map f = second.map g) (P : γ → Prop) :
    (∀ a ∈ first, P (f a)) ↔ ∀ b ∈ second, P (g b) := by
  have both : (∀ c ∈ first.map f, P c) ↔ ∀ c ∈ second.map g, P c := by rw [same]
  rwa [List.forall_mem_map, List.forall_mem_map] at both

theorem ne_append_lowLine (text : String) : text ≠ text ++ "_" := by
  intro same
  have lengths := congrArg String.length same
  rw [String.length_append] at lengths
  exact Nat.ne_add_one _ lengths

variable (unmarked : ∀ word ∈ reserved, word.toList.getLast? ≠ some '_')
include unmarked

theorem append_lowLine_not_mem (text : String) : text ++ "_" ∉ reserved := by
  intro inside
  refine unmarked _ inside ?_
  rw [String.toList_append, List.getLast?_append]
  rfl

theorem escaped_not_mem (text : String) : escaped reserved text ∉ reserved := by
  rw [escaped]
  split
  · exact append_lowLine_not_mem unmarked text
  · assumption

omit unmarked in
/-- An escaped name is none of those that do not end in a low line either. -/
theorem escaped_mem {taken : List String} (plain : ∀ word ∈ taken, word.toList.getLast? ≠ some '_')
    (text : String) : escaped reserved text ∈ taken ↔ text ∈ taken ∧ text ∉ reserved := by
  rw [escaped]
  split_ifs with isReserved
  · exact iff_of_false (append_lowLine_not_mem plain text) fun both => both.2 isReserved
  · exact (and_iff_left isReserved).symm

omit unmarked in
/-- A word that is neither reserved nor ends in a low line is written for itself only. -/
theorem mem_map_escaped {word : String} (free : word ∉ reserved)
    (plain : word.toList.getLast? ≠ some '_') :
    word ∈ names.map (escaped reserved) ↔ word ∈ names := by
  constructor
  · intro inside
    obtain ⟨name, isName, rfl⟩ := List.mem_map.mp inside
    rw [escaped] at plain ⊢
    split_ifs at plain ⊢ with isReserved
    · rw [String.toList_append, List.getLast?_append] at plain
      exact absurd rfl plain
    · exact isName
  · intro inside
    exact List.mem_map.mpr ⟨word, inside, if_neg free⟩

/-- Escaping keeps names apart unless one of them looks like the escaped form of another. -/
theorem nodup_map_escaped : (names.map (escaped reserved)).Nodup ↔
    names.Nodup ∧ ∀ text ∈ reserved, text ∈ names → text ++ "_" ∉ names := by
  constructor
  · intro distinct
    have namesDistinct := List.Nodup.of_map _ distinct
    refine ⟨namesDistinct, fun text isReserved inside other => ne_append_lowLine text ?_⟩
    refine List.inj_on_of_nodup_map distinct inside other ?_
    rw [escaped, if_pos isReserved, escaped, if_neg (append_lowLine_not_mem unmarked text)]
  · rintro ⟨distinct, apart⟩
    refine distinct.map_on fun first isFirst second isSecond same => ?_
    rw [escaped, escaped] at same
    split_ifs at same with firstReserved secondReserved secondReserved
    · exact String.append_left_inj _ |>.mp same
    · exact absurd (same ▸ isSecond) (apart first firstReserved isFirst)
    · exact absurd (same ▸ isFirst) (apart second secondReserved isSecond)
    · exact same

/-- In particular names that do not end in a low line are kept apart. -/
theorem nodup_map_escaped_of_unmarked (plain : ∀ text, text ++ "_" ∉ names) :
    (names.map (escaped reserved)).Nodup ↔ names.Nodup := by
  rw [nodup_map_escaped unmarked]
  exact and_iff_left fun text _ _ => plain text

end Escaped

theorem RustName.text_ofString? {text : String} {name : RustName}
    (h : RustName.ofString? text = some name) : name.text = escaped RustName.pathKeywords text := by
  rw [RustName.ofString?] at h
  rw [escaped]
  split_ifs at h with isPath isKeyword isIdentifier
  · obtain rfl := Option.some.inj h
    rw [if_pos isPath]
  · obtain rfl := Option.some.inj h
    rw [if_neg isPath]
  · obtain rfl := Option.some.inj h
    rw [if_neg isPath]

theorem RustName.unmarked_pathKeywords :
    ∀ word ∈ RustName.pathKeywords, word.toList.getLast? ≠ some '_' := by
  decide

namespace RustMethod

/-- The names that those of functions give way to. -/
def reserved : List String := constructors ++ RustName.pathKeywords

theorem unmarked_reserved : ∀ word ∈ reserved, word.toList.getLast? ≠ some '_' := by
  decide

theorem text_functionName {method : String} {name : RustName}
    (h : functionName method = some name) : name.text = escaped reserved (Text.snakeCase method) := by
  rw [functionName] at h
  split at h
  · next isConstructor =>
    obtain rfl := Option.some.inj h
    have isReserved : Text.snakeCase method ∈ reserved := List.mem_append_left _ isConstructor
    rw [escaped, if_pos isReserved]
  · next notConstructor =>
    rw [RustName.text_ofString? h, escaped, escaped]
    simp only [reserved, List.mem_append, notConstructor, false_or]

end RustMethod

namespace Rust

/-- What every module imports. -/
def imports : List String := ["HashMap", "Deserialize", "Serialize", "rt"]

/-- The types that the items of a module use without declaring them. `S` is the stream of a client. -/
def usedTypes : List String := otherTypes ++ ["Result", "Self", "str", "S"]

end Rust

/-- The names of the fields or variants of a declaration. -/
def RustBody.memberNames : RustBody → List String
  | struct fields => fields.map (·.name.text)
  | enum variants => variants.map (·.name.text)

namespace RustModule

/-- The names of the items of a module. -/
def items (module : RustModule) : List String :=
  Rust.imports ++ (module.declarations.map (·.name.text)
    ++ module.client.text :: module.errors.toList.map (·.name.text))

/-- The names of the functions of a client. -/
def functions (module : RustModule) : List String :=
  RustMethod.constructors ++ module.methods.map (·.name.text)

/-- Every name stands for one thing in its scope, and no declaration takes the place of a type that is
used for something else. -/
structure Unambiguous (module : RustModule) : Prop where
  items : module.items.Nodup
  members : ∀ declaration ∈ module.declarations, declaration.body.memberNames.Nodup
  errors : ∀ errors ∈ module.errors, (errors.cases.map (·.name.text)).Nodup
  functions : module.functions.Nodup
  types : ∀ declaration ∈ module.declarations, declaration.name.text ∉ Rust.usedTypes

end RustModule

/-- The names of members as they are spelled in a module. -/
def Members.spellings : Members → List String
  | struct fields => fields.map fun field => Text.snakeCase field.1
  | enum members => members.map Text.pascalCase

theorem Members.append_lowLine_not_mem_spellings (members : Members) (text : String) :
    text ++ "_" ∉ members.spellings := by
  intro inside
  cases members with
  | struct fields =>
      obtain ⟨field, -, same⟩ := List.mem_map.mp inside
      exact Text.snakeCase_ne_append_lowLine _ _ same
  | enum members =>
      obtain ⟨member, -, same⟩ := List.mem_map.mp inside
      exact Text.pascalCase_ne_append_lowLine _ _ same

theorem RustDeclaration.memberNames_ofMembers {declarations : List (String × Members)}
    {name : String} {members : Members} {declaration : RustDeclaration}
    (h : RustDeclaration.ofMembers declarations name members = some declaration) :
    declaration.body.memberNames =
      members.spellings.map (escaped RustName.pathKeywords) := by
  cases members with
  | struct fields =>
      obtain ⟨_, emitted, -, mapped, rfl⟩ := RustDeclaration.ofStruct_eq_some.mp h
      rw [Members.spellings, List.map_map]
      refine map_eq_map_of_mapM mapped fun field emitted ofMember => ?_
      obtain ⟨_, _, isName, -, rfl⟩ := RustField.ofMember_eq_some.mp ofMember
      rw [Function.comp_apply]
      exact RustName.text_ofString? isName
  | enum members =>
      obtain ⟨_, variants, -, mapped, rfl⟩ := RustDeclaration.ofEnum_eq_some.mp h
      rw [Members.spellings, List.map_map]
      refine map_eq_map_of_mapM mapped fun member variant ofMember => ?_
      obtain ⟨_, isName, rfl⟩ := RustVariant.ofMember_eq_some.mp ofMember
      rw [Function.comp_apply]
      exact RustName.text_ofString? isName

/-- The names in a module are those of an outline, each escaped where it is reserved. -/
structure RustModule.Names (module : RustModule) (outline : Outline) : Prop where
  declarations : module.declarations.map (·.name.text) =
    outline.declarations.map fun declaration => escaped RustName.pathKeywords declaration.1
  members : module.declarations.map (·.body.memberNames) =
    outline.declarations.map fun declaration =>
      declaration.2.spellings.map (escaped RustName.pathKeywords)
  client : module.client.text = escaped RustName.pathKeywords outline.clientName
  errorType : module.errors.toList.map (·.name.text) =
    outline.errorTypeNames.map (escaped RustName.pathKeywords)
  errors : (module.errors.toList.flatMap fun errors => errors.cases.map (·.name.text)) =
    outline.errors.map fun error => escaped RustName.pathKeywords error.name
  methods : module.methods.map (·.name.text) =
    outline.calls.map fun call => escaped RustMethod.reserved (Text.snakeCase call.name)

theorem RustErrors.names_ofOutline {outline : Outline} {errors : Option RustErrors}
    (h : RustErrors.ofOutline outline = some errors) :
    errors.toList.map (·.name.text) =
        outline.errorTypeNames.map (escaped RustName.pathKeywords) ∧
      (errors.toList.flatMap fun errors => errors.cases.map (·.name.text)) =
        outline.errors.map fun error => escaped RustName.pathKeywords error.name := by
  rcases RustErrors.ofOutline_eq_some.mp h with
    ⟨noErrors, rfl⟩ | ⟨someError, name, cases, isName, mapped, rfl⟩
  · rw [Outline.errorTypeNames, noErrors]
    exact ⟨rfl, rfl⟩
  · rw [Outline.errorTypeNames, if_neg (by rwa [List.isEmpty_iff])]
    refine ⟨congrArg (fun text => [text]) (RustName.text_ofString? isName), ?_⟩
    rw [Option.toList_some, List.flatMap_singleton]
    refine map_eq_map_of_mapM mapped fun error emitted ofOutline => ?_
    obtain ⟨_, _, isName, -, rfl⟩ := RustErrorCase.ofOutline_eq_some.mp ofOutline
    exact RustName.text_ofString? isName

theorem RustModule.names_ofOutline {outline : Outline} {module : RustModule}
    (made : RustModule.ofOutline outline = some module) : module.Names outline := by
  obtain ⟨declarations, errors, client, methods, mapped, isErrors, isClient, mappedMethods, rfl⟩ :=
    RustModule.ofOutline_eq_some.mp made
  have errorNames := RustErrors.names_ofOutline isErrors
  exact {
    declarations := map_eq_map_of_mapM mapped fun _ _ ofMembers =>
      RustName.text_ofString? (RustDeclaration.name_ofMembers ofMembers)
    members := map_eq_map_of_mapM mapped fun _ _ => RustDeclaration.memberNames_ofMembers
    client := RustName.text_ofString? isClient
    errorType := errorNames.1
    errors := errorNames.2
    methods := by
      refine map_eq_map_of_mapM mappedMethods fun call method ofOutline => ?_
      obtain ⟨_, _, _, isName, -, -, rfl⟩ := RustMethod.ofOutline_eq_some.mp ofOutline
      exact RustMethod.text_functionName isName }

/-- What keeps the names of an interface apart in a module. -/
structure Interface.SpelledApart (interface : Interface) : Prop where
  /-- Neither the client nor a declaration is called like something that is imported. -/
  imports : ∀ word ∈ Rust.imports, word ∉ interface.clientName :: interface.declarations.map (·.name)
  /-- No declaration is called like a type that is used for something else, except for the name `Self`
  that is never written as it is. -/
  types : ∀ declaration ∈ interface.declarations,
    declaration.name ∈ Rust.usedTypes → declaration.name = "Self"
  /-- No declaration is called like the client or a declaration with a keyword for a name is written. -/
  keywords : ∀ keyword ∈ RustName.pathKeywords,
    keyword ∈ interface.clientName :: interface.declarations.map (·.name) →
      keyword ++ "_" ∉ interface.declarations.map (·.name)
  /-- The members of a declaration are spelled differently. -/
  members : ∀ declaration ∈ interface.declarations, (interface.members declaration).spellings.Nodup
  /-- The errors are called differently, and none like one with a keyword for a name is written. -/
  errors : (interface.errors.map (·.name)).Nodup ∧ ∀ keyword ∈ RustName.pathKeywords,
    keyword ∈ interface.errors.map (·.name) → keyword ++ "_" ∉ interface.errors.map (·.name)
  /-- The methods are spelled differently. -/
  methods : (interface.methods.map fun method => Text.snakeCase method.name).Nodup

namespace RustModule

section Names

variable {interface : Interface} {module : RustModule} (names : module.Names interface.outline)
include names

theorem Names.members_nodup :
    (∀ declaration ∈ module.declarations, declaration.body.memberNames.Nodup) ↔
      ∀ declaration ∈ interface.declarations, (interface.members declaration).spellings.Nodup := by
  have same := names.members
  rw [Interface.outline, Interface.declaredMembers, List.map_map] at same
  rw [forall_mem_iff_of_map_eq same List.Nodup]
  refine forall₂_congr fun declaration _ => ?_
  exact nodup_map_escaped_of_unmarked RustName.unmarked_pathKeywords
    (Members.append_lowLine_not_mem_spellings _)

theorem Names.errors_nodup : (∀ errors ∈ module.errors, (errors.cases.map (·.name.text)).Nodup) ↔
    (interface.errors.map (·.name)).Nodup ∧ ∀ keyword ∈ RustName.pathKeywords,
      keyword ∈ interface.errors.map (·.name) →
        keyword ++ "_" ∉ interface.errors.map (·.name) := by
  have same := names.errors
  rw [Interface.outline, List.map_map] at same
  rw [← nodup_map_escaped RustName.unmarked_pathKeywords, List.map_map]
  cases isErrors : module.errors with
  | none =>
      rw [isErrors] at same
      refine iff_of_true (fun errors inside => absurd inside (Option.not_mem_none errors)) ?_
      exact (show _ = _ from same) ▸ List.nodup_nil
  | some errors =>
      rw [isErrors, Option.toList_some, List.flatMap_singleton] at same
      simp only [Option.mem_some_iff, forall_eq', same]
      rfl

/-- A function gives way to `new` and `connect` without meeting another function. -/
theorem Names.functions_nodup : module.functions.Nodup ↔
    (interface.methods.map fun method => Text.snakeCase method.name).Nodup := by
  have same := names.methods
  rw [Interface.outline, List.map_map] at same
  have spelled : module.methods.map (·.name.text) =
      (interface.methods.map fun method => Text.snakeCase method.name).map
        (escaped RustMethod.reserved) := by
    rw [same, List.map_map]
    rfl
  have apart : ∀ constructor ∈ RustMethod.constructors, ∀ function ∈
      (interface.methods.map fun method => Text.snakeCase method.name).map
        (escaped RustMethod.reserved), constructor ≠ function := by
    rintro constructor isConstructor _ isFunction rfl
    obtain ⟨method, -, same⟩ := List.mem_map.mp isFunction
    refine escaped_not_mem RustMethod.unmarked_reserved method ?_
    rw [same]
    exact List.mem_append_left _ isConstructor
  have plain : ∀ text, text ++ "_" ∉
      interface.methods.map fun method => Text.snakeCase method.name := by
    intro text inside
    obtain ⟨method, -, same⟩ := List.mem_map.mp inside
    exact Text.snakeCase_ne_append_lowLine _ _ same
  have constructorsApart : RustMethod.constructors.Nodup := by decide
  rw [functions, spelled, List.nodup_append,
    nodup_map_escaped_of_unmarked RustMethod.unmarked_reserved plain]
  exact ⟨fun all => all.2.1, fun distinct => ⟨constructorsApart, distinct, apart⟩⟩

theorem Names.types_iff :
    (∀ declaration ∈ module.declarations, declaration.name.text ∉ Rust.usedTypes) ↔
      ∀ declaration ∈ interface.declarations,
        declaration.name ∈ Rust.usedTypes → declaration.name = "Self" := by
  have same := names.declarations
  rw [Interface.outline, Interface.declaredMembers, List.map_map] at same
  rw [forall_mem_iff_of_map_eq same (· ∉ Rust.usedTypes)]
  refine forall₂_congr fun declaration _ => ?_
  have plain : ∀ word ∈ Rust.usedTypes, word.toList.getLast? ≠ some '_' := by decide
  have onlySelf : ∀ word ∈ Rust.usedTypes, word ∈ RustName.pathKeywords ↔ word = "Self" := by
    decide
  dsimp only [Function.comp_apply]
  rw [escaped_mem plain, not_and, not_not]
  exact forall_congr' fun isUsed => onlySelf _ isUsed

theorem Names.items_eq : module.items =
    Rust.imports ++ interface.itemNames.map (escaped RustName.pathKeywords) := by
  rw [items, names.declarations, names.client, names.errorType, Interface.itemNames,
    List.map_append, List.map_map, List.map_cons, Interface.outline, Interface.declaredMembers,
    List.map_map]
  rfl

theorem Names.items_nodup (distinct : (interface.declarations.map (·.name)).Nodup) :
    module.items.Nodup ↔
      (∀ word ∈ Rust.imports,
        word ∉ interface.clientName :: interface.declarations.map (·.name)) ∧
      ∀ keyword ∈ RustName.pathKeywords,
        keyword ∈ interface.clientName :: interface.declarations.map (·.name) →
          keyword ++ "_" ∉ interface.declarations.map (·.name) := by
  have foreign : (∀ word ∈ Rust.imports, ∀ name ∈
        interface.itemNames.map (escaped RustName.pathKeywords), word ≠ name) ↔
      ∀ word ∈ Rust.imports,
        word ∉ interface.clientName :: interface.declarations.map (·.name) := by
    have noKeyword : ∀ word ∈ Rust.imports, word ∉ RustName.pathKeywords := by decide
    have unmarked : ∀ word ∈ Rust.imports, word.toList.getLast? ≠ some '_' := by decide
    have plain : ∀ word ∈ Rust.imports, ¬ "Error".toList <:+ word.toList := by decide
    refine forall₂_congr fun word isImport => ?_
    rw [← Interface.mem_itemNames_of_plain (plain word isImport),
      ← mem_map_escaped (noKeyword word isImport) (unmarked word isImport)]
    exact List.forall_mem_ne
  have keywords : (∀ keyword ∈ RustName.pathKeywords, keyword ∈ interface.itemNames →
        keyword ++ "_" ∉ interface.itemNames) ↔
      ∀ keyword ∈ RustName.pathKeywords,
        keyword ∈ interface.clientName :: interface.declarations.map (·.name) →
          keyword ++ "_" ∉ interface.declarations.map (·.name) := by
    have plain : ∀ word ∈ RustName.pathKeywords, ¬ "Error".toList <:+ word.toList := by decide
    refine forall₂_congr fun keyword isKeyword => ?_
    rw [Interface.mem_itemNames_of_plain (plain keyword isKeyword), Interface.append_lowLine_mem_itemNames]
  have importsDistinct : Rust.imports.Nodup := by decide
  rw [names.items_eq, List.nodup_append, nodup_map_escaped RustName.unmarked_pathKeywords, foreign,
    keywords]
  constructor
  · rintro ⟨-, ⟨-, keywordsApart⟩, importsApart⟩
    exact ⟨importsApart, keywordsApart⟩
  · rintro ⟨importsApart, keywordsApart⟩
    exact ⟨importsDistinct, ⟨Interface.nodup_itemNames distinct, keywordsApart⟩, importsApart⟩

end Names

/-- The names in the module for an interface that was read are ambiguous in these ways and in no
others. -/
theorem unambiguous_iff_of_parse {source : String} {interface : Interface} {module : RustModule}
    (parsed : (Interface.parse source).outcome = .ok interface)
    (made : ofOutline interface.outline = some module) :
    module.Unambiguous ↔ interface.SpelledApart := by
  obtain ⟨document, -, resolved⟩ := Interface.outcome_parse_eq_ok.mp parsed
  have distinct := Document.nodup_names_of_resolve resolved
  have names := names_ofOutline made
  constructor
  · intro unambiguous
    obtain ⟨imports, keywords⟩ := (names.items_nodup distinct).mp unambiguous.items
    exact {
      imports := imports
      types := names.types_iff.mp unambiguous.types
      keywords := keywords
      members := names.members_nodup.mp unambiguous.members
      errors := names.errors_nodup.mp unambiguous.errors
      methods := names.functions_nodup.mp unambiguous.functions }
  · intro apart
    exact {
      items := (names.items_nodup distinct).mpr ⟨apart.imports, apart.keywords⟩
      members := names.members_nodup.mpr apart.members
      errors := names.errors_nodup.mpr apart.errors
      functions := names.functions_nodup.mpr apart.methods
      types := names.types_iff.mpr apart.types }

/-- Members with keywords for names, and a method that gives way to a function of every client. -/
theorem unambiguous_iff_of_reserved_names : ∃ interface module,
    (Interface.parse "interface a\ntype T (type: int, self: int)\nmethod New () -> ()").outcome =
      .ok interface ∧
    ofOutline interface.outline = some module ∧ module.Unambiguous ∧
    module.functions = ["new", "connect", "new_"] := by
  have parsed : (Interface.parse
      "interface a\ntype T (type: int, self: int)\nmethod New () -> ()").outcome = .ok ⟨"a",
        [⟨"T", .struct [("type", .builtin .int), ("self", .builtin .int)]⟩],
        [⟨"New", .inline [], .inline []⟩], []⟩ := by
    cbv
  have made : (ofOutline (Interface.outline ⟨"a",
        [⟨"T", .struct [("type", .builtin .int), ("self", .builtin .int)]⟩],
        [⟨"New", .inline [], .inline []⟩], []⟩)) = some ⟨"a",
        [⟨⟨"T", false⟩, .struct [⟨⟨"type", true⟩, none, false, .builtin .int⟩,
          ⟨⟨"self_", false⟩, some "self", false, .builtin .int⟩]⟩],
        none, ⟨"A", false⟩, [⟨⟨"new_", false⟩, "a.New", none, none⟩]⟩ := by
    cbv
  have declared : (Interface.mk "a"
        [⟨"T", .struct [("type", .builtin .int), ("self", .builtin .int)]⟩]
        [⟨"New", .inline [], .inline []⟩] []).declarations =
      [⟨"T", 6, .struct [("type", .builtin .int), ("self", .builtin .int)]⟩] := by
    cbv
  have client : (Interface.mk "a"
        [⟨"T", .struct [("type", .builtin .int), ("self", .builtin .int)]⟩]
        [⟨"New", .inline [], .inline []⟩] []).clientName = "A" := by
    cbv
  refine ⟨_, _, parsed, made, (unambiguous_iff_of_parse parsed made).mpr ?_, rfl⟩
  constructor
  all_goals
    simp only [client, declared]
    decide

/-- A client is called like the map type that its module imports. -/
theorem ambiguous_client : ∃ module,
    (Interface.parse "interface a.hash-map").outcome = .ok ⟨"a.hash-map", [], [], []⟩ ∧
    ofOutline (Interface.outline ⟨"a.hash-map", [], [], []⟩) = some module ∧
    module.items = ["HashMap", "Deserialize", "Serialize", "rt", "HashMap"] ∧
    ¬ module.Unambiguous := by
  have parsed : (Interface.parse "interface a.hash-map").outcome =
      .ok ⟨"a.hash-map", [], [], []⟩ := by
    cbv
  have made : ofOutline (Interface.outline ⟨"a.hash-map", [], [], []⟩) =
      some ⟨"a.hash-map", [], none, ⟨"HashMap", false⟩, []⟩ := by
    cbv
  refine ⟨_, parsed, made, rfl, fun unambiguous => ?_⟩
  have distinct := unambiguous.items
  revert distinct
  decide

end RustModule

end Varlink
