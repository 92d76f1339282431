import Mathlib
import Varlink.Interface.Printer
import Varlink.Proofs.Document.Printing
import Varlink.Proofs.Document.Recognition
import Varlink.Proofs.Interface.Linking

/-!
# Reading back what was written

The text of an interface is the text of the document it was linked from, since every reference is
written with the name it was found under. The grammar derives that document from its own text, so
reading the text gives the same document and hence the same interface again. Nothing about numbers
or synthesized names is needed for this: they follow from the document.
-/

namespace Varlink

namespace Interface

theorem printType_eq (interface : Interface) (type : LinkedType) :
    interface.printType type = (type.rename interface.typedefName).print id := by
  rw [TypeExpr.print_rename]
  rfl

/-- An interface is written as the document it was linked from. -/
theorem print_eq_text (interface : Interface) : interface.print = interface.document.text := by
  have typedefs : interface.typedefs.map interface.printTypedef =
      (interface.document.typedefs.map Member.typedef).map Member.text := by
    simp only [document, List.map_map]
    apply List.map_congr_left
    intro typedef _
    rw [printTypedef, printType_eq]
    rfl
  have errors : interface.errors.map interface.printError =
      (interface.document.errors.map Member.error).map Member.text := by
    simp only [document, List.map_map]
    apply List.map_congr_left
    intro error _
    rw [printError, printType_eq]
    rfl
  have methods : interface.methods.map interface.printMethod =
      (interface.document.methods.map Member.method).map Member.text := by
    simp only [document, List.map_map]
    apply List.map_congr_left
    intro method _
    rw [printMethod, printType_eq, printType_eq]
    rfl
  rw [print, Document.text, Document.members, typedefs, errors, methods, List.map_append,
    List.map_append, String.join_append, String.join_append]
  simp only [String.append_assoc]
  rfl

theorem outcome_parse_eq_ok {source : String} {interface : Interface} :
    (parse source).outcome = .ok interface ↔ ∃ document,
      (Document.parse source).outcome = .ok document ∧
        document.resolve.outcome = .ok interface := by
  unfold parse
  rw [Logged.outcome_bind_eq_ok]
  apply exists_congr
  intro document
  rw [Logged.outcome_bimap, mapError_eq_ok, Logged.outcome_bind_eq_ok]
  apply and_congr_right
  intro _
  simp [mapError_eq_ok]

/-- An interface that was read is written so that reading it gives the same document and the same
interface again, and writing that gives the same text. -/
theorem parse_print {source : String} {interface : Interface}
    (h : (parse source).outcome = .ok interface) :
    (∃ document, (Document.parse source).outcome = .ok document ∧
      (Document.parse interface.print).outcome = .ok document) ∧
    (parse interface.print).outcome = .ok interface ∧
    ∀ again, (parse interface.print).outcome = .ok again → again.print = interface.print := by
  obtain ⟨document, parsed, resolved⟩ := outcome_parse_eq_ok.mp h
  have written : interface.print = document.text := by
    have links := (Document.outcome_resolve_eq_ok.mp resolved).1
    rw [print_eq_text, (Document.link_eq_ok links).1]
  have derived := Document.outcome_parse_eq_ok_iff.mp parsed
  have again : (Document.parse interface.print).outcome = .ok document := by
    rw [Document.outcome_parse_eq_ok_iff, written]
    exact derived.text fun _ => Lexeme.spelled_of_mem_significant
  have back : (parse interface.print).outcome = .ok interface :=
    outcome_parse_eq_ok.mpr ⟨document, again, resolved⟩
  refine ⟨⟨document, parsed, again⟩, back, ?_⟩
  intro other read
  obtain rfl : interface = other := Except.ok.inj (back.symm.trans read)
  rfl

/-- A type that refers to itself, a modifier apart from its name, and a method ahead of the type it
takes. -/
theorem parse_print_recursive_type : ∃ interface,
    (parse "interface a\nmethod M T -> ()\ntype T (next: ? T, on: [](x, y))").outcome =
      .ok interface ∧
    (parse interface.print).outcome = .ok interface := by
  have read : (parse "interface a\nmethod M T -> ()\ntype T (next: ? T, on: [](x, y))").outcome =
      .ok ⟨"a", [⟨"T", .struct [("next", .modified .maybe (.reference 0)),
        ("on", .modified .array (.enum ["x", "y"]))]⟩], [⟨"M", .declared 0, .inline []⟩], []⟩ := by
    cbv
  exact ⟨_, read, (parse_print read).2.1⟩

end Interface

end Varlink
