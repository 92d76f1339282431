import Varlink.Proofs.Arena.Assembly
import Varlink.Proofs.Arena.Rendering

/-!
# Nothing expected of an arena is missing

An arena is built and read on trust: that a declared type is filled before a signature looks at it,
that every struct and enum has got its name, that what is registered is a declaration. Whatever a
document is made of, and however its types refer to each other, the trust is justified. The arena is
that of the interface, so it says nothing about it that it could not be asked for.
-/

namespace Varlink

/-- What is read off the arena of an interface is read to its end, and is what the interface says. -/
structure Interface.Renders (interface : Interface) : Prop where
  print : interface.arena.print = pure interface.print
  showType : ∀ number, 0 < number → number ≤ interface.arena.slots.length →
    ∃ entry, interface.type? number = some entry ∧
      interface.arena.showType number = pure (interface.printType entry.written)
  typeScript : interface.arena.typeScript = pure interface.outline.toTypeScript

namespace Interface

variable {interface : Interface}

theorem Linked.renders (linked : interface.Linked) : interface.Renders where
  print := print_arena linked
  showType _ positive bound := by
    obtain ⟨entry, isEntry⟩ := exists_type?_of_le_length positive bound
    exact ⟨entry, isEntry, showsType_of_type? linked isEntry⟩
  typeScript := typeScript_arena linked

end Interface

namespace Document

/-- As long as the numbers of its types fit into 32 bits, a document of whatever content is assembled
with every expectation met: its arena is that of the interface it resolves to, all slots filled, or it
ends in the error that resolving ends in. And whatever is read off the arena then finds what it
expects, too: the text, every type, and the client. -/
theorem assemble_meets_expectations (document : Document)
    (fits : Builtin.all.length + document.slots.length < UInt32.size) :
    (∀ expectation, document.assemble ≠ throw (.unmet expectation)) ∧
      document.assemble = Work.settled (document.resolve.outcome.map Interface.arena) ∧
      ∀ interface, document.resolve.outcome = .ok interface → interface.Renders := by
  have assembled := assemble_eq fits
  refine ⟨fun expectation => ?_, assembled, fun interface resolved => ?_⟩
  · rw [assembled]
    exact Work.settled_ne_unmet _ expectation
  · obtain ⟨links, -⟩ := outcome_resolve_eq_ok.mp resolved
    exact (link_eq_ok links).2.renders

/-- Types that refer to each other, and types in place in them and in a method. -/
theorem assemble_meets_expectations_mutual :
    let document : Document := ⟨"a", [⟨"M", .struct [("b", .enum ["on"])], .struct []⟩],
      [⟨"A", .struct [("next", .modified .maybe (.reference "B")), ("x", .enum ["on"])]⟩,
        ⟨"B", .struct [("back", .reference "A"), ("y", .struct [])]⟩], []⟩
    ∃ arena, document.assemble = pure arena ∧
      arena.print = pure ("interface a\n\ntype A (next: ?B, x: (on))\n\ntype B (back: A, y: ())\n\n"
        ++ "method M (b: (on)) -> ()\n") ∧
      ∃ text, arena.typeScript = pure text := by
  intro document
  have resolved : document.resolve.outcome = .ok ⟨"a",
      [⟨"A", .struct [("next", .modified .maybe (.reference 1)), ("x", .enum ["on"])]⟩,
        ⟨"B", .struct [("back", .reference 0), ("y", .struct [])]⟩],
      [⟨"M", .inline [("b", .enum ["on"])], .inline []⟩], []⟩ := by
    cbv
  obtain ⟨-, assembled, renders⟩ := assemble_meets_expectations document (by decide)
  rw [resolved] at assembled
  refine ⟨_, assembled, ?_, _, (renders _ resolved).typeScript⟩
  rw [(renders _ resolved).print]
  cbv

end Document

end Varlink
