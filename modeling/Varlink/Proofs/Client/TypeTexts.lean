import Varlink.Proofs.Arena.Rendering
import Varlink.Proofs.Client.Closure
import Varlink.Proofs.Client.Exports
import Varlink.Proofs.Client.TypeSyntax
import Varlink.Proofs.Interface.Writable

/-!
# What the text of a type says

The text of a type is put together from the texts of its parts, and whether a part needs parentheses is
found out by looking for a bar in its text. A bar may be inside of a record, where it does no harm, and
so there may be parentheses without need, but never none where there must be some: a text without a bar
is none of a union. So the text is read as the type it was made for, however modifiers are nested.

What is read are words. A declaration that is called like a type that every module has, or like a word
of the language, is not what its name denotes, and a record is none in a module that exports something
of that name.
-/

namespace Varlink

namespace TypeScript

/-- The types that every module has under a word of their own. -/
def predefinedTypes : List String :=
  ["any", "unknown", "number", "bigint", "boolean", "string", "symbol", "void", "null", "undefined",
    "never", "object"]

/-- The other words that are no names where a type is expected. -/
def reservedWords : List String :=
  ["await", "break", "case", "catch", "class", "const", "continue", "debugger", "default", "delete",
    "do", "else", "enum", "export", "extends", "false", "finally", "for", "function", "if",
    "implements", "import", "in", "infer", "instanceof", "interface", "keyof", "let", "new", "package",
    "private", "protected", "public", "readonly", "return", "static", "super", "switch", "this",
    "throw", "true", "try", "typeof", "unique", "var", "while", "with", "yield"]

/-- Whether an identifier may start with a character. -/
def isNameStart (c : Char) : Bool := c = '$' || c = '_' || Text.isIdentifierStart c

/-- Whether a word is the name of something that is declared. -/
def isTypeName (word : String) : Bool :=
  word.toList.head?.any isNameStart && word ∉ predefinedTypes && word ∉ reservedWords

/-- What a type denotes. -/
inductive Denoted where
  | declared (name : String)
  | predefined (word : String)
  | union (first second : Denoted)
  | array (inner : Denoted)
  /-- Values under arbitrary strings. -/
  | record (inner : Denoted)
  deriving DecidableEq, Repr

/-- What a type denotes in a module with these exports. -/
def TypeTree.denotes (exported : List String) : TypeTree → Option Denoted
  | word text =>
    if text ∈ predefinedTypes then some (.predefined text)
    else if isTypeName text then some (.declared text)
    else none
  | union first second => do return .union (← first.denotes exported) (← second.denotes exported)
  | array inner => (inner.denotes exported).map .array
  | record inner =>
    if "Record" ∈ exported then none else (inner.denotes exported).map .record

end TypeScript

open TypeScript

namespace MemberType

/-- The type as it has to be read. -/
def tree : MemberType → TypeTree
  | named name => .word name
  | builtin leaf => .word (builtinType leaf)
  | modified .maybe inner => .union inner.tree (.word "null")
  | modified .array inner => .array inner.tree
  | modified .dictionary inner => .record inner.tree

/-- What the type is meant to denote. -/
def meaning : MemberType → Denoted
  | named name => .declared name
  | builtin .bool => .predefined "boolean"
  | builtin .int | builtin .float => .predefined "number"
  | builtin .string => .predefined "string"
  | builtin .object => .predefined "unknown"
  | modified .maybe inner => .union inner.meaning (.predefined "null")
  | modified .array inner => .array inner.meaning
  | modified .dictionary inner => .record inner.meaning

/-- Whether there is a dictionary in the type. -/
def hasDictionary : MemberType → Bool
  | modified .dictionary _ => true
  | modified _ inner => inner.hasDictionary
  | _ => false

end MemberType

namespace TypeScript

section Scanning

/-- Where a word ends, what follows is scanned by itself. -/
theorem scan_append {d : Char} (notPart : isNamePart d = false) (word cs rest : List Char) :
    scan word (cs ++ d :: rest) = scan word cs ++ scan [] (d :: rest) := by
  induction cs generalizing word with
  | nil =>
      simp only [List.nil_append, scan, notPart, Bool.false_eq_true, if_false]
      split_ifs <;> rfl
  | cons c cs ih =>
      rw [List.cons_append, scan, scan]
      split_ifs
      · exact ih _
      · rw [ih, List.append_assoc]
      · rw [ih, List.append_assoc]
        rfl

theorem scan_name {cs : List Char} (parts : ∀ c ∈ cs, isNamePart c) (word : List Char) :
    scan word cs = endWord (word ++ cs) := by
  induction cs generalizing word with
  | nil => rw [scan, List.append_nil]
  | cons c cs ih =>
      obtain ⟨isPart, others⟩ := List.forall_mem_cons.mp parts
      rw [scan, if_pos isPart, ih others, List.append_assoc]
      rfl

theorem symbols_name {name : String} (nonempty : name ≠ "") (parts : ∀ c ∈ name.toList, isNamePart c) :
    symbols name = [.word name] := by
  rw [symbols, scan_name parts, List.nil_append]
  cases spelled : name.toList with
  | nil => exact absurd (String.toList_eq_nil_iff.mp spelled) nonempty
  | cons c rest => rw [endWord, ← spelled, String.ofList_toList]

theorem symbols_null (inner : String) :
    symbols (inner ++ " | null") = symbols inner ++ [.mark '|', .word "null"] := by
  rw [symbols, String.toList_append]
  exact scan_append (by decide) [] inner.toList "| null".toList

theorem symbols_array (inner : String) :
    symbols (inner ++ "[]") = symbols inner ++ [.mark '[', .mark ']'] := by
  rw [symbols, String.toList_append]
  exact scan_append (by decide) [] inner.toList "]".toList

theorem symbols_group (inner : String) : symbols ("(" ++ inner ++ ")[]") =
    (.mark '(' :: symbols inner ++ [.mark ')']) ++ [.mark '[', .mark ']'] := by
  rw [symbols, String.toList_append, String.toList_append]
  have closed := scan_append (d := ')') (by decide) [] inner.toList "[]".toList
  show Symbol.mark '(' :: scan [] (inner.toList ++ ')' :: "[]".toList) = _
  rw [closed, List.append_assoc, List.cons_append]
  rfl

theorem symbols_record (inner : String) : symbols ("Record<string, " ++ inner ++ ">") =
    [.word "Record", .mark '<', .word "string", .mark ','] ++ symbols inner ++ [.mark '>'] := by
  rw [symbols, String.toList_append, String.toList_append, List.append_assoc]
  have opened := scan_append (d := ' ') (by decide) [] "Record<string,".toList
    (inner.toList ++ ">".toList)
  have closed := scan_append (d := '>') (by decide) [] inner.toList []
  have key : scan [] "Record<string,".toList =
      [.word "Record", .mark '<', .word "string", .mark ','] := by
    decide +kernel
  rw [key] at opened
  refine opened.trans ?_
  show _ ++ scan [] (inner.toList ++ '>' :: []) = _
  rw [closed, List.append_assoc]
  rfl

end Scanning

/-- A name that consists of characters of identifiers. -/
structure Plain (name : String) : Prop where
  nonempty : name ≠ ""
  parts : ∀ c ∈ name.toList, isNamePart c

/-- A text is that of a type, and has a bar in it if the type cannot stand before brackets. -/
structure ReadsAs (text : String) (tree : TypeTree) : Prop where
  union : Parses .union (symbols text) tree
  element : '|' ∉ text.toList → Parses .element (symbols text) tree

section ReadsAs

variable {text : String} {tree : TypeTree}

theorem readsAs_of_primary (parses : Parses .primary (symbols text) tree) : ReadsAs text tree :=
  ⟨.element (.primary parses), fun _ => .primary parses⟩

theorem readsAs_name {name : String} (plain : Plain name) : ReadsAs name (.word name) := by
  apply readsAs_of_primary
  rw [symbols_name plain.nonempty plain.parts]
  exact .word name

theorem readsAs_builtinType (leaf : Builtin) :
    ReadsAs (builtinType leaf) (.word (builtinType leaf)) := by
  have parts : (builtinType leaf).toList.all isNamePart := by
    cases leaf <;> decide
  refine readsAs_name ⟨?_, List.all_eq_true.mp parts⟩
  cases leaf <;> decide

theorem ReadsAs.null (reads : ReadsAs text tree) :
    ReadsAs (text ++ " | null") (.union tree (.word "null")) where
  union := by
    rw [symbols_null]
    exact .union reads.union (.primary (.word "null"))
  element noBar := by
    refine absurd ?_ noBar
    rw [String.toList_append]
    exact List.mem_append_right _ (by decide)

theorem ReadsAs.list (reads : ReadsAs text tree) : ReadsAs (listType text) (.array tree) := by
  have parses : Parses .element (symbols (listType text)) (.array tree) := by
    rw [listType, String.contains_char_eq]
    by_cases bar : '|' ∈ text.toList
    · rw [if_pos (decide_eq_true bar), symbols_group]
      exact .array (.primary (.group reads.union))
    · rw [if_neg (by simpa using bar), symbols_array]
      exact .array (reads.element bar)
  exact ⟨.element parses, fun _ => parses⟩

theorem ReadsAs.record (reads : ReadsAs text tree) :
    ReadsAs ("Record<string, " ++ text ++ ">") (.record tree) := by
  apply readsAs_of_primary
  rw [symbols_record]
  exact .record reads.union

/-- The text of a type is read as the type, however modifiers are nested. -/
theorem readsAs_memberType {type : MemberType}
    (plain : ∀ name, type.name? = some name → Plain name) :
    ReadsAs (memberType type) type.tree := by
  induction type with
  | named name => exact readsAs_name (plain name rfl)
  | builtin leaf => exact readsAs_builtinType leaf
  | modified modifier inner ih =>
      have reads := ih plain
      cases modifier with
      | maybe => exact reads.null
      | array => exact reads.list
      | dictionary => exact reads.record

end ReadsAs

section Denoting

variable {exported : List String}

/-- A word denotes the declaration of this name just if it is a name. -/
theorem denotes_word_iff {name : String} :
    (TypeTree.word name).denotes exported = some (.declared name) ↔ isTypeName name := by
  rw [TypeTree.denotes]
  split_ifs with isPredefined isName
  · simp [isTypeName, isPredefined]
  · exact iff_of_true rfl isName
  · exact iff_of_false (by simp) isName

theorem denotes_word_of_mem {word : String} (isPredefined : word ∈ predefinedTypes) :
    (TypeTree.word word).denotes exported = some (.predefined word) := if_pos isPredefined

theorem denotes_null (tree : TypeTree) : (TypeTree.union tree (.word "null")).denotes exported =
    (tree.denotes exported).map fun denoted => .union denoted (.predefined "null") := by
  rw [TypeTree.denotes, denotes_word_of_mem (by decide)]
  cases tree.denotes exported <;> rfl

/-- A type denotes what it is meant to just if its declaration is denoted by its name, and records are
there if it has any. -/
theorem denotes_tree_iff {type : MemberType} : type.tree.denotes exported = some type.meaning ↔
    (∀ name, type.name? = some name → isTypeName name) ∧
      (type.hasDictionary → "Record" ∉ exported) := by
  induction type with
  | named name =>
      rw [MemberType.tree, MemberType.meaning, denotes_word_iff]
      simp [MemberType.name?, MemberType.hasDictionary]
  | builtin leaf =>
      refine iff_of_true ?_ ⟨by simp [MemberType.name?], by simp [MemberType.hasDictionary]⟩
      cases leaf <;> exact denotes_word_of_mem (by decide)
  | modified modifier inner ih =>
      cases modifier with
      | maybe =>
          rw [MemberType.tree, MemberType.meaning, denotes_null]
          refine Iff.trans ?_ ih
          simp
      | array =>
          rw [MemberType.tree, MemberType.meaning, TypeTree.denotes]
          refine Iff.trans ?_ ih
          simp
      | dictionary =>
          rw [MemberType.tree, MemberType.meaning, TypeTree.denotes]
          split_ifs with taken
          · exact iff_of_false (by simp) fun both => both.2 rfl taken
          · have inside : (inner.tree.denotes exported).map Denoted.record =
                some (.record inner.meaning) ↔ inner.tree.denotes exported = some inner.meaning := by
              simp
            rw [inside, ih]
            exact ⟨fun both => ⟨both.1, fun _ => taken⟩, fun both => ⟨both.1, fun _ => taken⟩⟩

end Denoting

end TypeScript

namespace Interface

variable {interface : Interface} {number first : Nat} {entry : TypeEntry} {name : String}

/-- What is meant by a number: the type that is written for it, or the name alone of a wrapper without
fields, for which nothing is written. -/
inductive Means (interface : Interface) : (number : Nat) → MemberType → Prop
  | written {number : Nat} {type : MemberType} (writes : interface.Writes number type) :
      Means interface number type
  | suppressed {number : Nat} {entry : TypeEntry} {name : String}
      (isEntry : interface.type? number = some entry) (isSuppressed : entry.isSuppressed)
      (named : entry.name = some name) : Means interface number (.named name)

theorem writes_typedef (index : Nat) (bound : index < interface.typedefs.length) :
    interface.Writes (typedefNumber index) (.named (interface.typedefName index)) := by
  obtain ⟨declaration, inside, isNumber, isName⟩ := exists_declaration_typedef bound
  rw [← isNumber, ← isName]
  exact .declaration inside

/-- What is written for a type in place is its meaning, unless the type is suppressed. -/
theorem EntryAt.exists_means (placed : interface.EntryAt entry)
    (isEntry : interface.type? number = some entry) : ∃ type, interface.Means number type := by
  cases placed with
  | @modified modifier inner name first located =>
      have isModified : interface.shape? number = some (.modified modifier (inner.number first)) := by
        rw [shape?, isEntry]
        rfl
      exact ⟨_, .written (.modified isModified located.writes)⟩
  | @struct origin fields name first =>
      by_cases isSuppressed : TypeEntry.isSuppressed
          ⟨some name, origin, .struct (TypeExpr.fieldNumbers first fields), .struct fields⟩
      · exact ⟨_, .suppressed isEntry isSuppressed rfl⟩
      · exact ⟨_, .written (writes_of_group isEntry rfl isSuppressed rfl)⟩
  | enum => exact ⟨_, .written (writes_of_group isEntry rfl Bool.noConfusion rfl)⟩

/-- Every number of the table means a type. -/
theorem exists_means (linked : interface.Linked) (isEntry : interface.type? number = some entry) :
    ∃ type, interface.Means number type := by
  rcases exists_of_type? isEntry with ⟨leaf, rfl, rfl⟩ | ⟨index, typedef, found, rfl, rfl⟩ |
    ⟨position, -, inner⟩
  · have isBuiltin : interface.shape? leaf.number = some (.builtin leaf) := by
      rw [shape?, isEntry]
      rfl
    exact ⟨_, .written (.builtin isBuiltin)⟩
  · exact ⟨_, .written (writes_typedef index (List.getElem?_eq_some_iff.mp found).1)⟩
  · exact (entryAt_of_mem_innerEntries linked (List.mem_of_getElem? inner)).exists_means isEntry

/-- A struct or an enum is written as its name. -/
theorem memberType_of_isDeclaration (isEntry : interface.type? number = some entry)
    (isDeclaration : entry.isDeclaration) (named : entry.name = some name) :
    interface.arena.memberType number = pure (.named name) := by
  rw [TypeEntry.isDeclaration] at isDeclaration
  cases shape : entry.shape with
  | struct fields => exact memberType_group isEntry named (by rw [TypeEntry.slot, shape]; rfl)
  | enum members => exact memberType_group isEntry named (by rw [TypeEntry.slot, shape]; rfl)
  | builtin leaf => simp [shape] at isDeclaration
  | modified modifier inner => simp [shape] at isDeclaration

theorem Writes.memberType {type : MemberType} (writes : interface.Writes number type) :
    interface.arena.memberType number = pure type := by
  induction writes with
  | @declaration declaration inside =>
      obtain ⟨entry, isEntry, isDeclaration, -, named⟩ := exists_entry_of_mem_declarations inside
      exact memberType_of_isDeclaration isEntry isDeclaration named
  | builtin isBuiltin =>
      obtain ⟨entry, isEntry, shape⟩ := Option.map_eq_some_iff.mp isBuiltin
      rw [Arena.memberType, read_arena isEntry, pure_bind, TypeEntry.slot, shape]
      rfl
  | modified isModified _ ih =>
      obtain ⟨entry, isEntry, shape⟩ := Option.map_eq_some_iff.mp isModified
      exact memberType_modified isEntry (by rw [TypeEntry.slot, shape]; rfl) ih

/-- The type that is read from the slots is the one that is meant. -/
theorem Means.memberType {type : MemberType} (means : interface.Means number type) :
    interface.arena.memberType number = pure type := by
  cases means with
  | written writes => exact writes.memberType
  | suppressed isEntry isSuppressed named =>
      have isEmpty := shape_of_suppressed isEntry isSuppressed
      exact memberType_of_isDeclaration isEntry (by rw [TypeEntry.isDeclaration, isEmpty]) named

section Names

theorem memberPath_ne_empty {path : String} (nonempty : path ≠ "") (member : String) :
    memberPath path member ≠ "" := by
  intro empty
  rw [memberPath, String.append_eq_empty_iff] at empty
  exact nonempty empty.1

theorem name_ne_empty_of_mem_entries {type : LinkedType} {path : String} (nonempty : path ≠ "")
    (inside : entry ∈ type.entries path first) (named : entry.name = some name) : name ≠ "" := by
  induction type using TypeExpr.induction generalizing path first with
  | reference => cases inside
  | builtin => cases inside
  | modified modifier inner ih =>
      rcases List.mem_append.mp inside with inside | last
      · exact ih nonempty inside
      · obtain rfl := List.mem_singleton.mp last
        cases named
  | struct fields ih =>
      rcases List.mem_append.mp inside with inside | last
      · obtain ⟨field, isField, _, inside⟩ := TypeExpr.exists_of_mem_fieldEntries inside
        exact ih field isField (memberPath_ne_empty nonempty _) inside
      · obtain rfl := List.mem_singleton.mp last
        exact Option.some.inj named ▸ nonempty
  | enum members =>
      obtain rfl := List.mem_singleton.mp inside
      exact Option.some.inj named ▸ nonempty

theorem name_ne_empty_of_mem_signatures {path : String} {signature : Signature}
    (inside : (path, signature) ∈ interface.signatures) : path ≠ "" := by
  rw [signatures] at inside
  simp only [List.mem_append, List.mem_flatMap, List.mem_map, List.mem_cons, Prod.mk.injEq,
    List.not_mem_nil, or_false] at inside
  rcases inside with ⟨method, -, ⟨rfl, -⟩ | ⟨rfl, -⟩⟩ | ⟨error, -, rfl, -⟩ <;> simp

/-- No name in the table is empty. -/
theorem name_ne_empty (writable : interface.document.Writable)
    (isEntry : interface.type? number = some entry) (named : entry.name = some name) :
    name ≠ "" := by
  have ofTypedef : ∀ {index : Nat} {typedef : Typedef},
      interface.typedefs[index]? = some typedef → typedef.name ≠ "" := by
    intro index typedef found empty
    have isWord := (writable_typedefs writable typedef (List.mem_of_getElem? found)).1
    rw [empty] at isWord
    exact isWord.nonempty rfl
  rcases exists_of_type? isEntry with ⟨leaf, -, rfl⟩ | ⟨index, typedef, found, -, rfl⟩ |
    ⟨position, -, inner⟩
  · cases named
  · exact Option.some.inj named ▸ ofTypedef found
  · rcases exists_of_mem_innerEntries (List.mem_of_getElem? inner) with
      ⟨index, typedef, found, inside⟩ | ⟨index, path, fields, found, inside⟩
    · obtain ⟨field, -, _, inside⟩ := TypeExpr.exists_of_mem_fieldEntries inside
      exact name_ne_empty_of_mem_entries (memberPath_ne_empty (ofTypedef found) _) inside named
    · have nonempty := name_ne_empty_of_mem_signatures (List.mem_of_getElem? found)
      rcases List.mem_append.mp inside with inside | last
      · obtain ⟨field, -, _, inside⟩ := TypeExpr.exists_of_mem_fieldEntries inside
        exact name_ne_empty_of_mem_entries (memberPath_ne_empty nonempty _) inside named
      · obtain rfl := List.mem_singleton.mp last
        exact Option.some.inj named ▸ nonempty

theorem Means.name_ne_empty {type : MemberType} (writable : interface.document.Writable)
    (means : interface.Means number type) (named : type.name? = some name) : name ≠ "" := by
  cases means with
  | written writes =>
      obtain ⟨declaration, inside, rfl⟩ := List.mem_map.mp (writes.mem_names named)
      obtain ⟨entry, isEntry, isNamed⟩ := name_of_mem_declarations inside
      exact Interface.name_ne_empty writable isEntry isNamed
  | suppressed isEntry _ isNamed =>
      obtain rfl := Option.some.inj named
      exact Interface.name_ne_empty writable isEntry isNamed

end Names

end Interface

namespace TypeScript

/-- Every number of an interface that was read means a type, whose text is read in one way if its
declaration has a name of characters of identifiers: modifiers are nested in it as they are in the
type. And in a module, what is read there denotes the type that is meant, unless the name denotes
something else, or records do. -/
theorem types_denote_meaning_iff {source : String} {interface : Interface}
    (parsed : (Interface.parse source).outcome = .ok interface) (number : Nat)
    (positive : 0 < number) (bound : number ≤ interface.arena.slots.length) :
    ∃ type, interface.Means number type ∧ interface.arena.memberType number = pure type ∧
      ((∀ name, type.name? = some name → ∀ c ∈ name.toList, isNamePart c) →
        (∀ tree, Parses .union (symbols (memberType type)) tree ↔ tree = type.tree) ∧
        (type.tree.denotes ((exports interface.outline).map (·.name)) = some type.meaning ↔
          (∀ name, type.name? = some name → isTypeName name) ∧
            (type.hasDictionary → "Record" ∉ (exports interface.outline).map (·.name)))) := by
  obtain ⟨document, read, resolved⟩ := Interface.outcome_parse_eq_ok.mp parsed
  obtain ⟨isDocument, linked⟩ := Document.link_eq_ok (Document.outcome_resolve_eq_ok.mp resolved).1
  have writable : interface.document.Writable := by
    rw [isDocument]
    exact Document.writable_of_parse read
  obtain ⟨entry, isEntry⟩ := Interface.exists_type?_of_le_length positive bound
  obtain ⟨type, means⟩ := Interface.exists_means linked isEntry
  refine ⟨type, means, means.memberType, fun parts => ⟨fun tree => ?_, denotes_tree_iff⟩⟩
  have reads : ReadsAs (memberType type) type.tree :=
    readsAs_memberType fun name named => ⟨means.name_ne_empty writable named, parts name named⟩
  constructor
  · intro parses
    exact parses.unique reads.union
  · rintro rfl
    exact reads.union

/-- A list of optional records of optional values. -/
theorem types_denote_meaning_of_nested : ∃ interface type,
    (Interface.parse "interface a\ntype T (x: []?[string]?T)").outcome = .ok interface ∧
    interface.arena.memberType 10 = pure type ∧
    memberType type = "(Record<string, T | null> | null)[]" ∧
    (∀ tree, Parses .union (symbols (memberType type)) tree ↔ tree =
      .array (.union (.record (.union (.word "T") (.word "null"))) (.word "null"))) ∧
    type.tree.denotes ((exports interface.outline).map (·.name)) = some (.array (.union
      (.record (.union (.declared "T") (.predefined "null"))) (.predefined "null"))) := by
  have parsed : (Interface.parse "interface a\ntype T (x: []?[string]?T)").outcome = .ok ⟨"a",
      [⟨"T", .struct [("x", .modified .array (.modified .maybe (.modified .dictionary
        (.modified .maybe (.reference 0)))))]⟩], [], []⟩ := by
    cbv
  have exported : (exports (Interface.outline ⟨"a", [⟨"T", .struct [("x", .modified .array
      (.modified .maybe (.modified .dictionary (.modified .maybe (.reference 0)))))]⟩], [],
      []⟩)).map (·.name) = ["INTERFACE_NAME", "T", "Transport", "A"] := by
    rw [Interface.names_exports]
    cbv
  obtain ⟨type, -, isType, read⟩ := types_denote_meaning_iff parsed 10 (by decide) (by decide)
  have declared : Interface.Writes ⟨"a", [⟨"T", .struct [("x", .modified .array (.modified .maybe
      (.modified .dictionary (.modified .maybe (.reference 0)))))]⟩], [], []⟩ 6 (.named "T") :=
    Interface.writes_typedef 0 Nat.zero_lt_one
  have written : Interface.Writes _ 10 (.modified .array (.modified .maybe (.modified .dictionary
      (.modified .maybe (.named "T"))))) :=
    .modified rfl (.modified rfl (.modified rfl (.modified rfl declared)))
  obtain rfl := Work.pure_inj (isType.symm.trans written.memberType)
  have isName : ∀ name, some "T" = some name → name = "T" :=
    fun _ same => (Option.some.inj same).symm
  obtain ⟨unique, denotes⟩ := read fun name named => by
    rw [isName name named]
    exact List.all_eq_true.mp (by decide)
  refine ⟨_, _, parsed, isType, ?_, unique, denotes.mpr ⟨fun name named => ?_, ?_⟩⟩
  · have element : memberType (.modified .maybe (.modified .dictionary (.modified .maybe
        (.named "T")))) = "Record<string, T | null> | null" := by
      decide +kernel
    rw [memberType, element, listType, String.contains_char_eq]
    decide +kernel
  · rw [isName name named]
    decide
  · intro _
    rw [exported]
    decide

/-- A declaration that is called like the type of nothing, in an interface whose declarations are all
called by characters of identifiers. -/
theorem denotes_predefined_of_declared : ∃ interface,
    (Interface.parse "interface a\ntype null (x: int)\ntype T (y: null)").outcome = .ok interface ∧
    interface.declarations.map (·.name) = ["null", "T"] ∧
    (∀ declaration ∈ interface.declarations, ∀ c ∈ declaration.name.toList, isNamePart c) ∧
    interface.Writes 6 (.named "null") ∧ interface.arena.memberType 6 = pure (.named "null") ∧
    (∀ tree, Parses .union (symbols (memberType (.named "null"))) tree ↔ tree = .word "null") ∧
    (TypeTree.word "null").denotes ((exports interface.outline).map (·.name)) =
      some (.predefined "null") ∧
    MemberType.meaning (.named "null") = .declared "null" := by
  have parsed : (Interface.parse "interface a\ntype null (x: int)\ntype T (y: null)").outcome =
      .ok ⟨"a", [⟨"null", .struct [("x", .builtin .int)]⟩,
        ⟨"T", .struct [("y", .reference 0)]⟩], [], []⟩ := by
    cbv
  have declared : (Interface.mk "a" [⟨"null", .struct [("x", .builtin .int)]⟩,
      ⟨"T", .struct [("y", .reference 0)]⟩] [] []).declarations =
        [⟨"null", 6, .struct [("x", .builtin .int)]⟩, ⟨"T", 7, .struct [("y", .reference 0)]⟩] := by
    cbv
  have written : Interface.Writes ⟨"a", [⟨"null", .struct [("x", .builtin .int)]⟩,
      ⟨"T", .struct [("y", .reference 0)]⟩], [], []⟩ 6 (.named "null") :=
    Interface.writes_typedef 0 Nat.zero_lt_two
  have nullParts : ∀ c ∈ "null".toList, isNamePart c := List.all_eq_true.mp (by decide)
  have otherParts : ∀ c ∈ "T".toList, isNamePart c := List.all_eq_true.mp (by decide)
  have reads := readsAs_name ⟨by decide, nullParts⟩
  refine ⟨_, parsed, ?_, ?_, written, written.memberType, fun tree => ⟨fun parses => ?_, ?_⟩,
    denotes_word_of_mem (by decide), rfl⟩
  · rw [declared]
    rfl
  · rw [declared]
    exact List.forall_mem_cons.mpr ⟨nullParts, List.forall_mem_singleton.mpr otherParts⟩
  · exact parses.unique reads.union
  · rintro rfl
    exact reads.union

end TypeScript

end Varlink
