import Varlink.Proofs.Arena.References
import Varlink.Proofs.Arena.Safety

/-!
# Walks along references end

What is read off an arena goes along references without a record of where it has been. A type is
written slot by slot down to a name: the slots on the way hold modifiers, each of them behind the slot it
refers to, so the numbers get smaller and the walk ends, whatever the declared types refer to.
-/

namespace Varlink

/-- The type as a language writes it. -/
def MemberType.write {α : Type} (writer : TypeWriter α) : MemberType → α
  | named name => writer.named name
  | builtin leaf => writer.builtin leaf
  | modified modifier inner => writer.modified modifier (inner.write writer)

theorem TypeScript.write_typeWriter (type : MemberType) :
    type.write typeWriter = memberType type := by
  induction type with
  | named name => rfl
  | builtin leaf => rfl
  | modified modifier inner ih =>
      rw [MemberType.write, ih]
      cases modifier <;> rfl

theorem RustType.write_typeWriter (type : MemberType) :
    type.write typeWriter = ofMemberType type := by
  induction type with
  | named name => rfl
  | builtin leaf => rfl
  | modified modifier inner ih =>
      rw [MemberType.write, ih]
      cases modifier <;> rfl

namespace Arena

/-- The walk to the type of a member ends, also if the type is written on the way. -/
structure WalksTo (arena : Arena) (number : TypeRef) (type : MemberType) : Prop where
  memberType : arena.memberType number = pure type
  writeType : ∀ {α : Type} (writer : TypeWriter α),
    arena.writeType writer number = pure (type.write writer)

variable {arena : Arena} {number : TypeRef} {slot : Slot}

theorem walksTo_builtin (isRead : arena.read number = pure slot) {leaf : Builtin}
    (kind : slot.kind = .builtin leaf) : arena.WalksTo number (.builtin leaf) where
  memberType := by
    rw [Arena.memberType, isRead, pure_bind, kind]
  writeType writer := by
    rw [Arena.writeType, isRead, pure_bind, kind]
    rfl

theorem walksTo_group (isRead : arena.read number = pure slot) {kind : GroupKind}
    {members : List (String × Option TypeRef)} (isGroup : slot.kind = .group kind members)
    {name : String} (isNamed : slot.name = some name) : arena.WalksTo number (.named name) where
  memberType := by
    rw [Arena.memberType, isRead, pure_bind, isGroup]
    dsimp only
    rw [declarationName, isRead, pure_bind, isNamed]
    rfl
  writeType writer := by
    rw [Arena.writeType, isRead, pure_bind, isGroup]
    dsimp only
    rw [declarationName, isRead, pure_bind, isNamed]
    rfl

theorem WalksTo.modified {inner : TypeRef} {type : MemberType} (walks : arena.WalksTo inner type)
    (isRead : arena.read number = pure slot) {modifier : Modifier}
    (kind : slot.kind = .modified modifier inner) :
    arena.WalksTo number (.modified modifier type) where
  memberType := by
    rw [Arena.memberType, isRead, pure_bind, kind]
    dsimp only
    rw [walks.memberType]
    rfl
  writeType writer := by
    rw [Arena.writeType, isRead, pure_bind, kind]
    dsimp only
    rw [walks.writeType]
    rfl

/-- In layered slots the walk to a type ends, since only modifiers lie on the way and they are behind what
they modify. At its end is a built-in type, or a struct or an enum with its name. -/
theorem Layered.exists_walksTo (layered : arena.Layered)
    (declared : ∀ number slot, arena.read number = pure slot → slot.origin = .typedef →
      slot.isGroup)
    (named : ∀ number slot, arena.read number = pure slot → slot.isGroup →
      ∃ name, slot.name = some name)
    (isRead : arena.read number = pure slot) : ∃ type, arena.WalksTo number type := by
  induction number using Nat.strongRecOn generalizing slot with
  | ind number ih =>
      cases kind : slot.kind with
      | builtin leaf => exact ⟨_, walksTo_builtin isRead kind⟩
      | group _ members =>
          have isGroup : slot.isGroup := by rw [Slot.isGroup, kind]
          obtain ⟨name, isNamed⟩ := named number slot isRead isGroup
          exact ⟨_, walksTo_group isRead kind isNamed⟩
      | modified modifier inner =>
          -- only here the walk goes on, and no declared type is a modifier: the next number is smaller
          have refers : arena.Refers number inner := by
            refine ⟨slot, isRead, ?_⟩
            rw [Slot.references, kind]
            exact List.mem_singleton_self inner
          have undeclared : ¬ arena.IsDeclared number := by
            rintro ⟨other, isTypedef, isOther⟩
            obtain rfl := Work.pure_inj (isRead.symm.trans isOther)
            have isGroup := declared number slot isRead isTypedef
            rw [Slot.isGroup, kind] at isGroup
            cases isGroup
          obtain ⟨next, isNext⟩ := layered.filled number inner refers
          obtain ⟨type, walks⟩ := ih inner (layered.before number inner refers undeclared) isNext
          exact ⟨_, walks.modified isRead kind⟩

end Arena

namespace Interface

variable {interface : Interface}

/-- The walk to every type of the interface ends. -/
theorem exists_walksTo (linked : interface.Linked) {number : TypeRef} (positive : 0 < number)
    (bound : number ≤ interface.arena.slots.length) :
    ∃ type, interface.arena.WalksTo number type := by
  obtain ⟨entry, isEntry⟩ := exists_type?_of_le_length positive bound
  refine (layered_arena linked).exists_walksTo ?_ ?_ (read_arena isEntry)
  · intro number slot isRead isTypedef
    obtain ⟨index, inside, rfl⟩ := isDeclared_arena.mp ⟨slot, isTypedef, isRead⟩
    have isSlot := read_arena_typedef (List.getElem?_eq_getElem inside)
    obtain rfl := Work.pure_inj (isSlot.symm.trans isRead)
    rw [Slot.isGroup, Typedef.kind_slot]
  · intro number slot isRead isGroup
    obtain ⟨entry, isEntry, rfl⟩ := exists_type?_of_read isRead
    rcases exists_of_type? isEntry with ⟨leaf, -, rfl⟩ | ⟨index, typedef, -, -, rfl⟩ |
      ⟨position, -, inner⟩
    · cases isGroup
    · exact ⟨typedef.name, rfl⟩
    · cases inPlace_of_mem_innerEntries (List.mem_of_getElem? inner) with
      | modified => cases isGroup
      | struct => exact ⟨_, rfl⟩
      | enum => exact ⟨_, rfl⟩

end Interface

namespace Document

/-- In the arena of a resolved document every slot that holds no declared type refers only to slots
before it, and is referred to from one place unless it holds a built-in type. So every cycle of
references passes through a declared type, and what goes along references without a record of its way
ends: the text of the arena, the text of every type, and the type of every member in both languages. -/
theorem references_layered {document : Document} {interface : Interface}
    (resolved : document.resolve.outcome = .ok interface) :
    let arena := interface.arena
    (Builtin.all.length + document.slots.length < UInt32.size → document.assemble = pure arena) ∧
    arena.Layered ∧
    (∀ number, arena.IsDeclared number ↔
      ∃ index < document.typedefs.length, number = typedefNumber index) ∧
    (∀ first path, List.IsChain arena.Refers (first :: (path ++ [first])) →
      ∃ number ∈ first :: path, arena.IsDeclared number) ∧
    (∃ text, arena.print = pure text) ∧
    ∀ number, 0 < number → number ≤ arena.slots.length →
      (∃ text, arena.showType number = pure text) ∧
      ∃ type, arena.memberType number = pure type ∧
        arena.writeType TypeScript.typeWriter number = pure (TypeScript.memberType type) ∧
        arena.writeType RustType.typeWriter number = pure (RustType.ofMemberType type) := by
  obtain ⟨links, -⟩ := outcome_resolve_eq_ok.mp resolved
  obtain ⟨rfl, linked⟩ := link_eq_ok links
  have layered := Interface.layered_arena linked
  have renders := linked.renders
  refine ⟨fun fits => ?_, layered, fun number => ?_, fun _ _ => layered.exists_isDeclared,
    ⟨_, renders.print⟩, fun number positive bound => ⟨?_, ?_⟩⟩
  · rw [assemble_eq fits, resolved]
    rfl
  · rw [Interface.isDeclared_arena, Interface.length_typedefs_document]
  · obtain ⟨entry, -, shown⟩ := renders.showType number positive bound
    exact ⟨_, shown⟩
  · obtain ⟨type, walks⟩ := Interface.exists_walksTo linked positive bound
    refine ⟨type, walks.memberType, ?_, ?_⟩
    · rw [walks.writeType, TypeScript.write_typeWriter]
    · rw [walks.writeType, RustType.write_typeWriter]

/-- Two types that refer to each other through modifiers: the slot of the list, which is the ninth, is
part of a cycle, and its type is written all the same. -/
theorem references_layered_mutual :
    let document : Document := ⟨"a", [⟨"M", .struct [("b", .reference "B")], .struct []⟩],
      [⟨"A", .struct [("next", .modified .maybe (.reference "B"))]⟩,
        ⟨"B", .struct [("back", .modified .array (.reference "A")), ("x", .enum ["on"])]⟩], []⟩
    ∃ arena, document.assemble = pure arena ∧ arena.Layered ∧
      (∃ number ∈ [9, 6, 8, 7], arena.IsDeclared number) ∧
      ∃ type, arena.memberType 9 = pure type ∧
        arena.writeType TypeScript.typeWriter 9 = pure (TypeScript.memberType type) := by
  intro document
  have resolved : document.resolve.outcome = .ok ⟨"a",
      [⟨"A", .struct [("next", .modified .maybe (.reference 1))]⟩,
        ⟨"B", .struct [("back", .modified .array (.reference 0)), ("x", .enum ["on"])]⟩],
      [⟨"M", .inline [("b", .reference 1)], .inline []⟩], []⟩ := by
    cbv
  obtain ⟨assembled, layered, -, cycles, -, ends⟩ := references_layered resolved
  obtain ⟨type, isType, typeScript, -⟩ := (ends 9 (by decide) (by decide)).2
  refine ⟨_, assembled (by decide), layered, cycles 9 [6, 8, 7] ?_, type, isType, typeScript⟩
  refine .cons_cons ⟨_, rfl, by decide⟩ ?_
  refine .cons_cons ⟨_, rfl, by decide⟩ ?_
  refine .cons_cons ⟨_, rfl, by decide⟩ ?_
  exact .cons_cons ⟨_, rfl, by decide⟩ (.singleton 9)

end Document

end Varlink
