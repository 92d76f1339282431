import Varlink.Proofs.Arena.Rendering

/-!
# The search for a client's name

The client is called what the last segment of the interface's name spells, as long as nothing that is
registered has that name or that of the error type that goes with it. While something does, `Client`
is put behind the name. Nothing says when this is over, but it is: what is registered stands in the
way of one name of the series at most, so that the name is lengthened no more often than there are
registered types, whatever the segment is spelled like.
-/

namespace Varlink

/-- Whether a declared type, or one that got its name from where it stands, has this name. -/
def Arena.Registers (arena : Arena) (name : String) : Prop :=
  ∃ number ∈ arena.typedefs, ∃ slot, arena.read number = pure slot ∧ slot.name = some name

namespace Interface

variable {interface : Interface}

theorem registers_iff {name : String} :
    interface.arena.Registers name ↔ name ∈ interface.declarations.map (·.name) := by
  constructor
  · rintro ⟨number, isTypedef, slot, found, isNamed⟩
    obtain ⟨declaration, isDeclared, rfl⟩ := List.mem_map.mp isTypedef
    obtain ⟨entry, isEntry, entryNamed⟩ := name_of_mem_declarations isDeclared
    obtain rfl := Work.pure_inj ((read_arena isEntry).symm.trans found)
    obtain rfl := Option.some.inj (entryNamed.symm.trans isNamed)
    exact List.mem_map_of_mem isDeclared
  · intro isDeclared
    obtain ⟨declaration, inside, rfl⟩ := List.mem_map.mp isDeclared
    obtain ⟨entry, isEntry, isNamed⟩ := name_of_mem_declarations inside
    exact ⟨_, List.mem_map_of_mem inside, entry.slot, read_arena isEntry, isNamed⟩

theorem not_isFree_iff {client : String} : ¬ interface.isFree client ↔
    interface.arena.Registers client ∨ interface.arena.Registers (errorTypeName client) := by
  rw [isFree_iff, registers_iff, registers_iff, not_and_or, not_not, not_not]

/-- What a client's name begins with, where the last segment is spelled so. -/
def clientBeginning (spelled : String) : String :=
  if spelled.toList.head?.any Text.isAlphabetic then spelled else "Interface" ++ spelled

/-- So often is a name lengthened until neither it nor that of its error type is registered, and no
more often. -/
structure LeastFree (interface : Interface) (stem : String) (count : Nat) : Prop where
  client : ¬ interface.arena.Registers (lengthened stem count)
  error : ¬ interface.arena.Registers (errorTypeName (lengthened stem count))
  least : ∀ fewer < count, interface.arena.Registers (lengthened stem fewer) ∨
    interface.arena.Registers (errorTypeName (lengthened stem fewer))
  bound : count ≤ interface.arena.typedefs.length

/-- Among the first names of the series, one more than there are registered types, is a first free
one. -/
theorem exists_leastFree (interface : Interface) (stem : String) :
    ∃ count, interface.LeastFree stem count := by
  have someFree : ∃ count, interface.isFree (lengthened stem count) = true := by
    obtain ⟨count, -, free⟩ := interface.exists_isFree stem
    exact ⟨count, free⟩
  obtain ⟨other, inRange, otherFree⟩ := interface.exists_isFree stem
  have free := Nat.find_spec someFree
  rw [isFree_iff, ← registers_iff, ← registers_iff] at free
  refine ⟨Nat.find someFree, free.1, free.2, fun fewer less => ?_, ?_⟩
  · exact not_isFree_iff.mp (Nat.find_min someFree less)
  · have isLeast : Nat.find someFree ≤ other := Nat.find_min' someFree otherFree
    have early : other < interface.declarations.length + 1 := List.mem_range.mp inRange
    rw [arena_typedefs, List.length_map]
    omega

theorem LeastFree.freeName {stem : String} {count : Nat} (free : interface.LeastFree stem count) :
    interface.arena.freeName stem = pure (lengthened stem count) := by
  apply freeName_of_least
  · rw [isFree_iff, ← registers_iff, ← registers_iff]
    exact ⟨free.client, free.error⟩
  · intro fewer less
    exact not_isFree_iff.mpr (free.least fewer less)

theorem clientStem_arena (interface : Interface) : interface.arena.clientStem =
    clientBeginning (Text.pascalCase (lastSegment interface.arena.name)) := rfl

/-- Whatever the last segment of an interface's name is spelled like, the search for a free name ends.
The name is lengthened until neither it nor that of its error type is registered, and no more often
than there are registered types. The search that begins with the joined words of the segment gives the
client its name. -/
theorem freeName_ends_at_leastFree (interface : Interface) :
    (∀ spelled, ∃ count, interface.LeastFree (clientBeginning spelled) count ∧
      interface.arena.freeName (clientBeginning spelled) =
        pure (lengthened (clientBeginning spelled) count)) ∧
    interface.arena.freeName (clientBeginning (Text.pascalCase (lastSegment interface.arena.name))) =
      pure interface.clientName := by
  constructor
  · intro spelled
    obtain ⟨count, free⟩ := interface.exists_leastFree (clientBeginning spelled)
    exact ⟨count, free, free.freeName⟩
  · rw [← clientStem_arena]
    exact interface.freeName_arena

end Interface

end Varlink
