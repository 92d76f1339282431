import Varlink.Client
import Varlink.Proofs.Client.Spans
import Varlink.Proofs.Client.StringLiteral
import Varlink.Proofs.Interface.RoundTrip
import Varlink.Proofs.Interface.Writable
import Varlink.Proofs.Token.Division

/-!
# Names between quotes

A TypeScript module holds names between double quotes: that of the interface, the members of enums,
and the full names of errors and methods. All of them are told in their order by the parts that the
module is made of, since no text that is the same for all interfaces has a quote in it.

Names are written as they are. They are made of words, and a word has no line end in it but may have
quotes and backslashes, and these are what decides whether a literal denotes the name in it.
-/

namespace Varlink

namespace Interface

open Lexeme

variable {interface : Interface}

/-- The names that a client in TypeScript has in literals: that of the interface, the members of
enums, and the full names of errors and methods. -/
def literals (interface : Interface) : List String :=
  interface.name
    :: interface.declarations.flatMap (fun declaration =>
      TypeScript.enumMembers (interface.members declaration))
    ++ interface.errors.map (fun error => interface.qualified error.name)
    ++ interface.methods.map fun method => interface.qualified method.name

theorem literals_outline (interface : Interface) :
    TypeScript.literals interface.outline = interface.literals := by
  rw [TypeScript.literals, outline, literals, declaredMembers, List.flatMap_map, List.map_map,
    List.map_map]
  rfl

/-- What stands in a literal has no line end in it, since it is made of words. -/
theorem not_isLineEnd_of_mem_literals (writable : interface.document.Writable) {name : String}
    (inside : name ∈ interface.literals) : ∀ c ∈ name.toList, isLineEnd c = false := by
  have plain : ∀ {word : String}, IsWord word.toList → ∀ c ∈ word.toList, isLineEnd c = false :=
    fun isWord c inside => (TokenKind.ofChar_eq_word_iff.mp (isWord.chars c inside)).2.1
  have full : ∀ {word : String}, IsWord word.toList →
      ∀ c ∈ (interface.qualified word).toList, isLineEnd c = false := by
    intro word isWord
    rw [qualified, String.toList_append, String.toList_append, List.forall_mem_append,
      List.forall_mem_append]
    refine ⟨⟨plain writable.name, ?_⟩, plain isWord⟩
    exact List.forall_mem_singleton.mpr rfl
  rcases List.mem_append.mp inside with inside | isMethod
  · rcases List.mem_append.mp inside with inside | isError
    · rcases List.mem_cons.mp inside with rfl | isMember
      · exact plain writable.name
      · obtain ⟨declaration, isDeclaration, isMember⟩ := List.mem_flatMap.mp isMember
        have body := writable_of_mem_declarations writable isDeclaration
        obtain ⟨declared, number, group⟩ := declaration
        cases group with
        | struct fields => cases isMember
        | enum members =>
            cases body with
            | enum _ names => exact plain (names name isMember)
    · obtain ⟨error, here, rfl⟩ := List.mem_map.mp isError
      exact full (writable_errors writable error here).1
  · obtain ⟨method, here, rfl⟩ := List.mem_map.mp isMethod
    exact full (writable_methods writable method here).1

end Interface

namespace TypeScript

theorem text_append_quoted (before : List Span) (name : String) (after : List Span) :
    (text (before ++ .quoted name :: after)).toList =
      (text before).toList ++ '"' :: (name.toList ++ '"' :: (text after).toList) := by
  rw [text, List.map_append, List.map_cons, String.join_append, String.join_cons]
  simp [Span.print, literal, text]

/-- The module for an interface that was read is made of parts, of which no other part brings quotes
in, and a literal in it ends where it was closed and denotes the name in it just if this name has no
quote and no backslash. -/
theorem literals_denote_names_iff {source : String} {interface : Interface}
    (parsed : (Interface.parse source).outcome = .ok interface) :
    Generator.generate .typescript interface = some (text (spans interface.outline)) ∧
      (spans interface.outline).filterMap Span.quoted? = interface.literals ∧
      (∀ piece, .fixed piece ∈ spans interface.outline → '"' ∉ piece.toList) ∧
      ∀ before name after, spans interface.outline = before ++ .quoted name :: after → ∃ behind,
        (text (spans interface.outline)).toList = (text before).toList ++ '"' :: behind ∧
        (readString behind = some (utf16 name.toList, (text after).toList) ↔
          '"' ∉ name.toList ∧ '\\' ∉ name.toList) := by
  obtain ⟨document, read, resolved⟩ := Interface.outcome_parse_eq_ok.mp parsed
  have writable : interface.document.Writable := by
    rw [(Document.link_eq_ok (Document.outcome_resolve_eq_ok.mp resolved).1).1]
    exact Document.writable_of_parse read
  obtain ⟨covers, names, fixed⟩ := spells_module interface.outline
  refine ⟨congrArg some covers.symm, names.trans interface.literals_outline, fixed, ?_⟩
  intro before name after whole
  refine ⟨name.toList ++ '"' :: (text after).toList, ?_, ?_⟩
  · rw [whole, text_append_quoted]
  · have isLiteral : name ∈ interface.literals := by
      rw [← interface.literals_outline, ← names, whole, List.filterMap_append]
      exact List.mem_append_right _ List.mem_cons_self
    rw [readString_eq_iff,
      verbatim_iff (interface.not_isLineEnd_of_mem_literals writable isLiteral)]

/-- Literals of all four kinds; an apostrophe and a character outside of ASCII are no obstacle. -/
theorem literals_denote_names_of_plain : ∃ interface,
    (Interface.parse "interface a.b\ntype E (it's, \u00fc)\nerror F ()\nmethod G () -> ()"
      ).outcome = .ok interface ∧
    interface.literals = ["a.b", "it's", "\u00fc", "a.b.F", "a.b.G"] ∧
    (∀ name ∈ interface.literals, '"' ∉ name.toList ∧ '\\' ∉ name.toList) ∧
    ∀ before name after, spans interface.outline = before ++ .quoted name :: after → ∃ behind,
      (text (spans interface.outline)).toList = (text before).toList ++ '"' :: behind ∧
      readString behind = some (utf16 name.toList, (text after).toList) := by
  have parsed : (Interface.parse
      "interface a.b\ntype E (it's, \u00fc)\nerror F ()\nmethod G () -> ()").outcome =
      .ok ⟨"a.b", [⟨"E", .enum ["it's", "\u00fc"]⟩], [⟨"G", .inline [], .inline []⟩],
        [⟨"F", .inline []⟩]⟩ := by
    cbv
  have declared : (Interface.mk "a.b" [⟨"E", .enum ["it's", "\u00fc"]⟩]
      [⟨"G", .inline [], .inline []⟩] [⟨"F", .inline []⟩]).declarations =
        [⟨"E", 6, .enum ["it's", "\u00fc"]⟩] := by
    cbv
  have names : Interface.literals ⟨"a.b", [⟨"E", .enum ["it's", "\u00fc"]⟩],
      [⟨"G", .inline [], .inline []⟩], [⟨"F", .inline []⟩]⟩ =
        ["a.b", "it's", "\u00fc", "a.b.F", "a.b.G"] := by
    rw [Interface.literals, declared]
    decide
  have plain : ∀ name ∈ ["a.b", "it's", "\u00fc", "a.b.F", "a.b.G"],
      '"' ∉ name.toList ∧ '\\' ∉ name.toList := by
    decide
  obtain ⟨-, quoted, -, denote⟩ := literals_denote_names_iff parsed
  refine ⟨_, parsed, names, names ▸ plain, fun before name after whole => ?_⟩
  obtain ⟨behind, covers, denotes⟩ := denote before name after whole
  refine ⟨behind, covers, denotes.mpr (plain name ?_)⟩
  rw [← names, ← quoted, whole, List.filterMap_append]
  exact List.mem_append_right _ List.mem_cons_self

/-- A literal that ends inside of the name it was written for. -/
theorem literal_ends_early : ∃ interface before after,
    (Interface.parse "interface a\"b").outcome = .ok interface ∧
    Generator.generate .typescript interface = some (text (spans interface.outline)) ∧
    (text (spans interface.outline)).toList =
      (text before).toList ++ '"' :: ("a\"b".toList ++ '"' :: (text after).toList) ∧
    spans interface.outline = before ++ .quoted "a\"b" :: after ∧
    readString ("a\"b".toList ++ '"' :: (text after).toList) =
      some (utf16 ['a'], 'b' :: '"' :: (text after).toList) ∧
    utf16 ['a'] ≠ utf16 "a\"b".toList := by
  have parsed : (Interface.parse "interface a\"b").outcome = .ok ⟨"a\"b", [], [], []⟩ := by
    cbv
  have split : spans (Interface.outline ⟨"a\"b", [], [], []⟩) =
      (spans (Interface.outline ⟨"a\"b", [], [], []⟩)).take 6 ++
        .quoted "a\"b" :: (spans (Interface.outline ⟨"a\"b", [], [], []⟩)).drop 7 := by
    rfl
  refine ⟨_, _, _, parsed, congrArg some (spells_module _).text.symm, ?_, split, ?_, by decide⟩
  · rw [← text_append_quoted, ← split]
  · exact @readString_verbatim ['a'] (by simp [Verbatim]) _

end TypeScript

end Varlink
