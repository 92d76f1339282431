import Varlink.Proofs.Client.Exports
import Varlink.Proofs.Client.Scopes
import Varlink.Proofs.Client.Spans

/-!
# Names in place of types

The names in place of types are told by the parts that the text of a module is made of, and so are the
names of its declarations. In TypeScript both are written as the outline of the client has them, so
what is mentioned there is declared once here. In Rust a name that is reserved has a low line behind it.
Where a declaration has such a name and another one has it with the low line, both are declared under
one name, and to mention one of them is to mention two.
-/

namespace Varlink

namespace TypeScript

section Names

/-- The parts between separators are those of the items, one after the other. -/
theorem filter_intercalate (separator : String) (pieces : List (List Span)) :
    ([Span.fixed separator].intercalate pieces).filter Span.isOfDeclaration =
      pieces.flatMap fun piece => piece.filter Span.isOfDeclaration := by
  induction pieces with
  | nil => rfl
  | cons piece pieces ih =>
      cases pieces with
      | nil => simp
      | cons next pieces => simp [List.intercalate_cons_cons, Span.isOfDeclaration, ih]

theorem filter_typeSpans (type : MemberType) :
    (typeSpans type).filter Span.isOfDeclaration = type.name?.toList.map .mentioned := by
  induction type with
  | named name => rfl
  | builtin leaf => rfl
  | modified modifier inner ih =>
      rw [MemberType.name?, ← ih]
      cases modifier with
      | maybe => simp [typeSpans, Span.isOfDeclaration]
      | array =>
          rw [typeSpans]
          split_ifs <;> simp [Span.isOfDeclaration]
      | dictionary => simp [typeSpans, Span.isOfDeclaration]

theorem filter_fieldSpans (member : String × MemberType) :
    (fieldSpans member).filter Span.isOfDeclaration = member.2.name?.toList.map .mentioned := by
  simp [fieldSpans, Span.isOfDeclaration, filter_typeSpans]

theorem filter_declarationSpans (name : String) (members : Members) :
    (declarationSpans name members).filter Span.isOfDeclaration =
      .declared name :: (members.fields.filterMap fun field => field.2.name?).map .mentioned := by
  cases members with
  | struct fields =>
      simp [declarationSpans, Span.isOfDeclaration, Members.fields, List.filter_cons,
        List.filter_flatMap, filter_fieldSpans, List.filterMap_eq_flatMap_toList, List.map_flatMap]
  | enum members =>
      simp [declarationSpans, Span.isOfDeclaration, Members.fields, List.filter_cons,
        filter_intercalate, List.flatMap_map]

theorem filter_errorSpans (error : ErrorOutline) :
    (errorSpans error).filter Span.isOfDeclaration = error.parameters.toList.map .mentioned := by
  rw [errorSpans]
  cases error.parameters <;> rfl

theorem filter_unionSpans (name : String) (errors : List ErrorOutline) :
    (unionSpans name errors).filter Span.isOfDeclaration =
      (errors.filterMap (·.parameters)).map .mentioned := by
  rw [unionSpans]
  split_ifs with none
  · rw [List.isEmpty_iff.mp none]
    rfl
  · simp [Span.isOfDeclaration, filter_intercalate, filter_errorSpans, List.flatMap_map,
      List.filterMap_eq_flatMap_toList, List.map_flatMap]

/-- A result is mentioned twice: as what the method gives back, and where the reply is taken for it. -/
theorem filter_methodSpans (call : CallOutline) :
    (methodSpans call).filter Span.isOfDeclaration =
      (call.parameters.toList ++ call.results.toList ++ call.results.toList).map .mentioned := by
  rw [methodSpans]
  cases call.parameters <;> cases call.results <;> rfl

/-- The names in place of types, in the order of the module. -/
def mentions (outline : Outline) : List String :=
  outline.declarations.flatMap (fun declared =>
    declared.2.fields.filterMap fun field => field.2.name?)
  ++ outline.errors.filterMap (·.parameters)
  ++ outline.calls.flatMap fun call =>
    call.parameters.toList ++ call.results.toList ++ call.results.toList

theorem filter_spans (outline : Outline) : (spans outline).filter Span.isOfDeclaration =
    outline.declarations.flatMap (fun declared => .declared declared.1 ::
      (declared.2.fields.filterMap fun field => field.2.name?).map .mentioned)
    ++ (outline.errors.filterMap (·.parameters)).map .mentioned
    ++ (outline.calls.flatMap fun call =>
      call.parameters.toList ++ call.results.toList ++ call.results.toList).map .mentioned := by
  simp [spans, Span.isOfDeclaration, List.filter_flatMap, filter_declarationSpans,
    filter_unionSpans, transportSpans, clientSpans, filter_methodSpans, List.map_flatMap]

theorem filterMap_declared? (names : List String) :
    (names.map Span.mentioned).filterMap Span.declared? = [] := by
  rw [List.filterMap_map]
  exact List.filterMap_eq_nil_iff.mpr fun _ _ => rfl

theorem filterMap_mentioned? (names : List String) :
    (names.map Span.mentioned).filterMap Span.mentioned? = names := by
  rw [List.filterMap_map]
  exact List.filterMap_some

theorem Span.silent_of_other {span : Span} (other : ¬ span.isOfDeclaration) :
    span.declared? = none ∧ span.mentioned? = none := by
  cases span with
  | declared name | mentioned name => exact absurd rfl other
  | fixed text | name text | quoted text => exact ⟨rfl, rfl⟩

/-- What only parts that stand for a declaration tell is told by these parts. -/
theorem filterMap_filter_isOfDeclaration {tell : Span → Option String}
    (silent : ∀ span, ¬ span.isOfDeclaration → tell span = none) (spans : List Span) :
    (spans.filter Span.isOfDeclaration).filterMap tell = spans.filterMap tell := by
  rw [List.filterMap_filter]
  refine List.filterMap_congr fun span _ => ?_
  split_ifs with stands
  · rfl
  · exact (silent span stands).symm

theorem declared_spans (outline : Outline) :
    (spans outline).filterMap Span.declared? = outline.declarations.map (·.1) := by
  rw [← filterMap_filter_isOfDeclaration fun _ other => (Span.silent_of_other other).1,
    filter_spans, List.filterMap_append, List.filterMap_append, filterMap_declared?,
    filterMap_declared?, List.append_nil, List.append_nil, List.filterMap_flatMap,
    List.map_eq_flatMap]
  refine List.flatMap_congr fun declared _ => ?_
  have isName : Span.declared? (.declared declared.1) = some declared.1 := rfl
  rw [List.filterMap_cons_some isName, filterMap_declared?]

theorem mentioned_spans (outline : Outline) :
    (spans outline).filterMap Span.mentioned? = mentions outline := by
  rw [← filterMap_filter_isOfDeclaration fun _ other => (Span.silent_of_other other).2,
    filter_spans, List.filterMap_append, List.filterMap_append, filterMap_mentioned?,
    filterMap_mentioned?, List.filterMap_flatMap, mentions]
  refine congrArg (· ++ _ ++ _) (List.flatMap_congr fun declared _ => ?_)
  rw [List.filterMap_cons_none rfl, filterMap_mentioned?]

/-- What is mentioned in the text is mentioned in the outline. -/
theorem mem_mentions {outline : Outline} {name : String} :
    name ∈ mentions outline ↔ name ∈ outline.typeNames := by
  have signatures : name ∈ outline.signatureNames.filterMap id ↔
      name ∈ outline.errors.filterMap (·.parameters) ∨ name ∈ outline.calls.flatMap fun call =>
        call.parameters.toList ++ call.results.toList ++ call.results.toList := by
    simp [Outline.signatureNames, @eq_comm _ (some name), or_comm]
  rw [mentions, Outline.typeNames, List.mem_append, List.mem_append, List.mem_append, signatures,
    or_assoc]

end Names

/-- A module mentions the types it declares, and no others. -/
structure Closed (outline : Outline) : Prop where
  /-- What is declared are the declarations, each once and in their order. -/
  declared : (spans outline).filterMap Span.declared? = outline.declarations.map (·.1)
  /-- All of them are exported. -/
  exported : ((spans outline).filterMap Span.declared?).Sublist ((exports outline).map (·.name))
  /-- What is mentioned is what stands in the outline in place of types. -/
  mentioned : ∀ name, name ∈ (spans outline).filterMap Span.mentioned? ↔ name ∈ outline.typeNames
  /-- Every name in place of a type is that of exactly one declaration. -/
  closed : ∀ name ∈ (spans outline).filterMap Span.mentioned?,
    ((spans outline).filterMap Span.declared?).count name = 1

end TypeScript

section Counting

variable {α β : Type} [DecidableEq β] {f : α → β} {items : List α} {a : α}

/-- An image is there once if no other item has it. -/
theorem count_map_eq_one_iff (distinct : items.Nodup) (inside : a ∈ items) :
    (items.map f).count (f a) = 1 ↔ ∀ b ∈ items, f b = f a → b = a := by
  obtain ⟨before, after, rfl⟩ := List.append_of_mem inside
  have notElsewhere : a ∉ before ++ after := (List.nodup_cons.mp (List.nodup_middle.mp distinct)).1
  have counted : ((before ++ a :: after).map f).count (f a) =
      ((before ++ after).map f).count (f a) + 1 := by
    rw [(List.perm_middle.map f).count_eq, List.map_cons, List.count_cons_self]
  rw [counted, Nat.add_eq_right, List.count_eq_zero]
  constructor
  · intro absent b isItem same
    rcases List.mem_cons.mp (List.perm_middle.mem_iff.mp isItem) with rfl | elsewhere
    · rfl
    · exact absurd (same ▸ List.mem_map_of_mem elsewhere) absent
  · intro once isImage
    obtain ⟨b, elsewhere, same⟩ := List.mem_map.mp isImage
    have isItem := List.perm_middle.mem_iff.mpr (List.mem_cons_of_mem a elsewhere)
    exact notElsewhere (once b isItem same ▸ elsewhere)

end Counting

/-- A name in its escaped form is there once if no keyword stands beside its own escaped form. -/
theorem count_escaped_eq_one_iff {reserved names : List String}
    (unmarked : ∀ word ∈ reserved, word.toList.getLast? ≠ some '_') (distinct : names.Nodup)
    {text : String} (inside : text ∈ names) :
    (names.map (escaped reserved)).count (escaped reserved text) = 1 ↔
      ∀ keyword ∈ reserved, keyword ∈ names → keyword ++ "_" ∈ names →
        text ≠ keyword ∧ text ≠ keyword ++ "_" := by
  rw [count_map_eq_one_iff distinct inside]
  constructor
  · intro once keyword isKeyword isName isMarked
    have same : escaped reserved keyword = escaped reserved (keyword ++ "_") := by
      rw [escaped, if_pos isKeyword, escaped, if_neg (append_lowLine_not_mem unmarked keyword)]
    constructor
    · rintro rfl
      exact ne_append_lowLine text (once _ isMarked same.symm).symm
    · rintro rfl
      exact ne_append_lowLine keyword (once _ isName same)
  · intro apart other isOther same
    rw [escaped, escaped] at same
    split_ifs at same with otherReserved textReserved textReserved
    · exact String.append_left_inj _ |>.mp same
    · exact absurd same.symm (apart other otherReserved isOther (same ▸ inside)).2
    · exact absurd rfl (apart text textReserved inside (same ▸ isOther)).1
    · exact same

namespace RustModule

/-- Every name in place of a type is that of exactly one declaration of the module. -/
def Closed (module : RustModule) : Prop :=
  ∀ name ∈ module.typeNames, (module.declarations.map (·.name.text)).count name.text = 1

end RustModule

/-- Where a keyword and its escaped form are both declared, neither is mentioned. -/
def Interface.MentionsApart (interface : Interface) : Prop :=
  ∀ keyword ∈ RustName.pathKeywords,
    keyword ∈ interface.declarations.map (·.name) →
      keyword ++ "_" ∈ interface.declarations.map (·.name) →
        keyword ∉ interface.outline.typeNames ∧ keyword ++ "_" ∉ interface.outline.typeNames

namespace RustModule

variable {interface : Interface} {module : RustModule}

/-- A module is closed just if no type is mentioned whose name is written like that of another one. -/
theorem closed_iff (linked : interface.Linked)
    (distinct : (interface.declarations.map (·.name)).Nodup)
    (made : ofOutline interface.outline = some module) :
    module.Closed ↔ interface.MentionsApart := by
  have declared : module.declarations.map (·.name.text) =
      (interface.declarations.map (·.name)).map (escaped RustName.pathKeywords) := by
    rw [(names_ofOutline made).declarations, Interface.outline, Interface.declaredMembers,
      List.map_map, List.map_map]
    rfl
  have mentioned : module.typeNames.map (·.text) =
      interface.outline.typeNames.map (escaped RustName.pathKeywords) := by
    have related := (spells_ofOutline made).typeNames
    rw [← List.forall₂_eq_eq_eq, List.forall₂_map_left_iff, List.forall₂_map_right_iff]
    exact related.flip.imp fun _ _ isName => RustName.text_ofString? isName
  have each : module.Closed ↔ ∀ text ∈ interface.outline.typeNames,
      ∀ keyword ∈ RustName.pathKeywords, keyword ∈ interface.declarations.map (·.name) →
        keyword ++ "_" ∈ interface.declarations.map (·.name) →
          text ≠ keyword ∧ text ≠ keyword ++ "_" := by
    rw [Closed, declared, forall_mem_iff_of_map_eq mentioned fun name =>
      ((interface.declarations.map (·.name)).map (escaped RustName.pathKeywords)).count name = 1]
    refine forall₂_congr fun text isMentioned => ?_
    exact count_escaped_eq_one_iff RustName.unmarked_pathKeywords distinct
      (Interface.mem_names_of_mem_typeNames linked isMentioned)
  rw [each]
  constructor
  · intro apart keyword isKeyword isName isMarked
    exact ⟨fun inside => (apart _ inside keyword isKeyword isName isMarked).1 rfl,
      fun inside => (apart _ inside keyword isKeyword isName isMarked).2 rfl⟩
  · intro apart text isMentioned keyword isKeyword isName isMarked
    obtain ⟨keywordAbsent, markedAbsent⟩ := apart keyword isKeyword isName isMarked
    exact ⟨ne_of_mem_of_not_mem isMentioned keywordAbsent,
      ne_of_mem_of_not_mem isMentioned markedAbsent⟩

end RustModule

namespace Interface

theorem closed_typeScript {interface : Interface} (closed : interface.outline.Closed interface) :
    TypeScript.Closed interface.outline := by
  have declared := TypeScript.declared_spans interface.outline
  have mentioned : ∀ name,
      name ∈ (TypeScript.spans interface.outline).filterMap TypeScript.Span.mentioned? ↔
        name ∈ interface.outline.typeNames := by
    intro name
    rw [TypeScript.mentioned_spans, TypeScript.mem_mentions]
  refine ⟨declared, ?_, mentioned, fun name isMentioned => ?_⟩
  · have names : interface.outline.declarations.map (·.1) =
        interface.declarations.map (·.name) := by
      rw [outline, declaredMembers, List.map_map]
      rfl
    rw [declared, names, names_exports, List.append_assoc]
    exact (List.sublist_append_left _ _).cons _
  · rw [declared]
    exact closed.closed name ((mentioned name).mp isMentioned)

/-- The client for a parsed interface is closed in TypeScript, and in Rust just if a keyword and its
escaped form are not both declared where one of them is mentioned. -/
theorem generate_closed_iff {source : String} {interface : Interface}
    (parsed : (Interface.parse source).outcome = .ok interface) :
    interface.outline.Closed interface ∧
    (Generator.generate .typescript interface =
        some (TypeScript.text (TypeScript.spans interface.outline)) ∧
      TypeScript.Closed interface.outline) ∧
    ∀ code, Generator.generate .rust interface = some code → ∃ module : RustModule,
      code = (Rust.layout module).print ∧ module.Spells interface.outline ∧
        (module.Closed ↔ interface.MentionsApart) := by
  obtain ⟨document, -, resolved⟩ := outcome_parse_eq_ok.mp parsed
  have distinct := Document.nodup_names_of_resolve resolved
  obtain ⟨-, linked⟩ := Document.link_eq_ok (Document.outcome_resolve_eq_ok.mp resolved).1
  have closed := closed_outline linked distinct
  refine ⟨closed, ⟨?_, closed_typeScript closed⟩, fun code isCode => ?_⟩
  · exact congrArg some (TypeScript.spells_module interface.outline).text.symm
  · obtain ⟨module, made, rfl⟩ := Option.map_eq_some_iff.mp isCode
    exact ⟨module, rfl, RustModule.spells_ofOutline made,
      RustModule.closed_iff linked distinct made⟩

/-- A type that refers to itself, an enum in place, and a wrapper without fields. -/
theorem generate_closed_of_recursive_type : ∃ interface,
    (Interface.parse "interface a\ntype T (next: ?T, kind: []?(on, off))\nmethod M (x: T) -> ()"
      ).outcome = .ok interface ∧
    interface.outline.Closed interface ∧ TypeScript.Closed interface.outline ∧
    (TypeScript.spans interface.outline).filterMap TypeScript.Span.declared? =
      ["T", "TKind", "MArgs"] ∧
    (TypeScript.spans interface.outline).filterMap TypeScript.Span.mentioned? =
      ["T", "TKind", "T", "MArgs"] ∧
    ∃ module : RustModule, Generator.generate .rust interface = some (Rust.layout module).print ∧
      module.Closed := by
  have parsed : (Interface.parse
      "interface a\ntype T (next: ?T, kind: []?(on, off))\nmethod M (x: T) -> ()").outcome =
      .ok ⟨"a", [⟨"T", .struct [("next", .modified .maybe (.reference 0)),
        ("kind", .modified .array (.modified .maybe (.enum ["on", "off"])))]⟩],
        [⟨"M", .inline [("x", .reference 0)], .inline []⟩], []⟩ := by
    cbv
  have names : (Interface.mk "a" [⟨"T", .struct [("next", .modified .maybe (.reference 0)),
      ("kind", .modified .array (.modified .maybe (.enum ["on", "off"])))]⟩]
      [⟨"M", .inline [("x", .reference 0)], .inline []⟩] []).declarations.map (·.name) =
        ["T", "TKind", "MArgs"] := by
    cbv
  have noKeyword : ∀ keyword ∈ RustName.pathKeywords, keyword ∉ ["T", "TKind", "MArgs"] := by
    decide
  have written : (RustModule.ofOutline (Interface.outline ⟨"a",
      [⟨"T", .struct [("next", .modified .maybe (.reference 0)),
        ("kind", .modified .array (.modified .maybe (.enum ["on", "off"])))]⟩],
      [⟨"M", .inline [("x", .reference 0)], .inline []⟩], []⟩)).isSome := by
    cbv
  obtain ⟨made, isMade⟩ := Option.isSome_iff_exists.mp written
  have isCode := congrArg (Option.map fun module => (Rust.layout module).print) isMade
  obtain ⟨closed, ⟨-, closedTypeScript⟩, rust⟩ := generate_closed_iff parsed
  obtain ⟨module, isPrinted, -, closed_iff⟩ := rust _ isCode
  refine ⟨_, parsed, closed, closedTypeScript, ?_, ?_, ?_⟩
  · rw [TypeScript.declared_spans]
    cbv
  · rw [TypeScript.mentioned_spans]
    cbv
  · refine ⟨module, isCode.trans (congrArg some isPrinted), closed_iff.mpr ?_⟩
    intro keyword isKeyword isName
    rw [names] at isName
    exact absurd isName (noKeyword keyword isKeyword)

/-- A keyword and its escaped form are two types in the interface and one name in the module, which is
mentioned as the type of a field. -/
theorem mentions_two_declarations : ∃ interface, ∃ module : RustModule,
    (Interface.parse "interface a\ntype crate (x: int)\ntype crate_ (y: ?crate)").outcome =
      .ok interface ∧
    interface.declarations.map (·.name) = ["crate", "crate_"] ∧
    Generator.generate .rust interface = some (Rust.layout module).print ∧
    module.declarations.map (·.name.text) = ["crate_", "crate_"] ∧
    module.typeNames.map (·.text) = ["crate_"] ∧ ¬ module.Closed := by
  have parsed : (Interface.parse
      "interface a\ntype crate (x: int)\ntype crate_ (y: ?crate)").outcome =
      .ok ⟨"a", [⟨"crate", .struct [("x", .builtin .int)]⟩,
        ⟨"crate_", .struct [("y", .modified .maybe (.reference 0))]⟩], [], []⟩ := by
    cbv
  have made : RustModule.ofOutline (Interface.outline ⟨"a",
      [⟨"crate", .struct [("x", .builtin .int)]⟩,
        ⟨"crate_", .struct [("y", .modified .maybe (.reference 0))]⟩], [], []⟩) =
      some ⟨"a", [⟨⟨"crate_", false⟩, .struct [⟨⟨"x", false⟩, none, false, .builtin .int⟩]⟩,
        ⟨⟨"crate_", false⟩, .struct [⟨⟨"y", false⟩, none, true,
          .option (.named ⟨"crate_", false⟩)⟩]⟩], none, ⟨"A", false⟩, []⟩ := by
    cbv
  have isCode := congrArg (Option.map fun module => (Rust.layout module).print) made
  refine ⟨_, _, parsed, by cbv, isCode, rfl, rfl, fun closed => ?_⟩
  have once := closed ⟨"crate_", false⟩ List.mem_cons_self
  revert once
  decide

end Interface

end Varlink
