import Varlink.Proofs.Arena.Rendering
import Varlink.Proofs.Interface.Layers

/-!
# References between slots

A slot refers to others by their numbers, and declared types may refer to each other in any way. For
all other slots there is an order: they refer to slots with smaller numbers, and every one of them is
referred to from one place. So going from slot to slot along references, one comes back to where one
has been only through a declared type.
-/

namespace Varlink

/-- The slots that a slot refers to: that of the type which is modified, or those of the types of the
members. -/
def Slot.references (slot : Slot) : List TypeRef :=
  match slot.kind with
  | .builtin _ => []
  | .modified _ inner => [inner]
  | .group _ members => members.filterMap (·.2)

namespace Arena

/-- A slot refers to a number. -/
def Refers (arena : Arena) (number target : TypeRef) : Prop :=
  ∃ slot, arena.read number = pure slot ∧ target ∈ slot.references

/-- A slot holds a declared type. -/
def IsDeclared (arena : Arena) (number : TypeRef) : Prop :=
  ∃ slot, slot.origin = .typedef ∧ arena.read number = pure slot

/-- All references: those of the slots, of the methods and of the errors. The list of types that are
declared by name is not one of them. -/
def references (arena : Arena) : List TypeRef :=
  arena.slots.flatMap Slot.references ++
    (arena.methods.flatMap (fun method => [method.parameters, method.results]) ++
      arena.errors.map (·.parameters))

/-- The slots of an arena are in layers. -/
structure Layered (arena : Arena) : Prop where
  /-- Where a slot refers to, there is a slot. -/
  filled : ∀ number target, arena.Refers number target → ∃ slot, arena.read target = pure slot
  /-- A slot that holds no declared type refers to slots before it. -/
  before : ∀ number target, arena.Refers number target → ¬ arena.IsDeclared number → target < number
  /-- A slot that holds neither a declared type nor a built-in one is referred to from one place. -/
  once : ∀ number slot, arena.read number = pure slot → slot.origin ≠ .typedef →
    slot.origin ≠ .builtin → arena.references.count number = 1

/-- Along references that pass no declared type, numbers get smaller. -/
theorem Layered.lt_of_isChain {arena : Arena} (layered : arena.Layered) {first last : TypeRef}
    {path : List TypeRef} (chain : List.IsChain arena.Refers (first :: (path ++ [last])))
    (undeclared : ∀ number ∈ first :: path, ¬ arena.IsDeclared number) : last < first := by
  induction path generalizing first with
  | nil =>
      obtain ⟨refers, -⟩ := List.isChain_cons_cons.mp chain
      exact layered.before first last refers (undeclared first List.mem_cons_self)
  | cons next path ih =>
      obtain ⟨refers, chain⟩ := List.isChain_cons_cons.mp chain
      obtain ⟨here, undeclared⟩ := List.forall_mem_cons.mp undeclared
      exact (ih chain undeclared).trans (layered.before first next refers here)

/-- Every cycle of references passes through a declared type. -/
theorem Layered.exists_isDeclared {arena : Arena} (layered : arena.Layered) {first : TypeRef}
    {path : List TypeRef} (cycle : List.IsChain arena.Refers (first :: (path ++ [first]))) :
    ∃ number ∈ first :: path, arena.IsDeclared number := by
  by_contra none
  refine Nat.lt_irrefl first (layered.lt_of_isChain cycle fun number inside declared => ?_)
  exact none ⟨number, inside, declared⟩

end Arena

/-- A slot refers to what its entry refers to. -/
theorem TypeEntry.references_slot (entry : TypeEntry) :
    entry.slot.references = entry.shape.children := by
  obtain ⟨name, origin, shape, written⟩ := entry
  cases shape with
  | builtin leaf => rfl
  | modified modifier inner => rfl
  | struct fields => simp [slot, Slot.references, Shape.slotKind, Shape.children]
  | enum members => simp [slot, Slot.references, Shape.slotKind, Shape.children]

namespace Interface

variable {interface : Interface} {number : Nat} {slot : Slot}

/-- What is read is the slot of an entry. -/
theorem exists_type?_of_read (isRead : interface.arena.read number = pure slot) :
    ∃ entry, interface.type? number = some entry ∧ entry.slot = slot := by
  cases number with
  | zero => cases isRead
  | succ index =>
      cases isEntry : interface.type? (index + 1) with
      | none =>
          rw [type?] at isEntry
          rw [Arena.read, arena, List.getElem?_map, isEntry] at isRead
          cases isRead
      | some entry => exact ⟨entry, rfl, Work.pure_inj ((read_arena isEntry).symm.trans isRead)⟩

theorem exists_of_refers {target : Nat} (refers : interface.arena.Refers number target) :
    ∃ entry, interface.type? number = some entry ∧ target ∈ entry.shape.children := by
  obtain ⟨slot, isRead, isTarget⟩ := refers
  obtain ⟨entry, isEntry, rfl⟩ := exists_type?_of_read isRead
  exact ⟨entry, isEntry, entry.references_slot ▸ isTarget⟩

/-- The slots of declared types are those the document declares. -/
theorem isDeclared_arena : interface.arena.IsDeclared number ↔
    ∃ index < interface.typedefs.length, number = typedefNumber index := by
  constructor
  · rintro ⟨slot, isTypedef, isRead⟩
    obtain ⟨entry, isEntry, rfl⟩ := exists_type?_of_read isRead
    rcases exists_of_type? isEntry with ⟨leaf, -, rfl⟩ | ⟨index, typedef, found, rfl, -⟩ |
      ⟨position, -, inner⟩
    · cases isTypedef
    · exact ⟨index, (List.getElem?_eq_some_iff.mp found).1, rfl⟩
    · exact absurd isTypedef (origin_of_mem_innerEntries (List.mem_of_getElem? inner))
  · rintro ⟨index, bound, rfl⟩
    exact ⟨_, rfl, read_arena_typedef (List.getElem?_eq_getElem bound)⟩

theorem references_arena (interface : Interface) : interface.arena.references =
    childrenOf interface.types ++ interface.signatureNumbers := by
  have slots : interface.arena.slots.flatMap Slot.references = childrenOf interface.types := by
    rw [arena, List.flatMap_map, childrenOf]
    exact List.flatMap_congr fun entry _ => entry.references_slot
  have signatures : interface.signatureNumbers =
      interface.arena.methods.flatMap (fun method => [method.parameters, method.results]) ++
        interface.arena.errors.map (·.parameters) := by
    rw [signatureNumbers, numberedSignatures_eq, List.map_append, List.map_flatMap, List.map_map,
      arena, List.flatMap_map, List.map_map]
    rfl
  rw [Arena.references, slots, ← signatures]

/-- The types in place of an interface are in layers. -/
theorem layered_arena (linked : interface.Linked) : interface.arena.Layered where
  filled := by
    intro number target refers
    obtain ⟨entry, isEntry, isChild⟩ := exists_of_refers refers
    obtain ⟨inner, isInner⟩ := filled_of_child linked isEntry isChild
    exact ⟨inner.slot, read_arena isInner⟩
  before := by
    intro number target refers undeclared
    obtain ⟨entry, isEntry, isChild⟩ := exists_of_refers refers
    refine child_lt linked isEntry (fun isTypedef => ?_) isChild
    exact undeclared ⟨entry.slot, isTypedef, read_arena isEntry⟩
  once := by
    intro number slot isRead notTypedef notBuiltin
    obtain ⟨entry, isEntry, rfl⟩ := exists_type?_of_read isRead
    rcases exists_of_type? isEntry with ⟨leaf, -, rfl⟩ | ⟨index, typedef, -, -, rfl⟩ |
      ⟨position, rfl, inner⟩
    · exact absurd rfl notBuiltin
    · exact absurd rfl notTypedef
    · rw [references_arena]
      exact count_references linked (List.getElem?_eq_some_iff.mp inner).1

end Interface

end Varlink
