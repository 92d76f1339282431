import Varlink.Proofs.Interface.Groups

/-!
# References go down

A type in place is numbered after the types inside it, so what its entry refers to has a smaller
number. And each number of a type in place is handed out once: to the type around it, if there is one,
and else to the declaration, the method or the error it stands in.

Both follow a type through its block. Besides its own numbers a block refers only to declarations and
built-in types, which come before all types in place. Of its own numbers it refers to each once, but for
those by which it is referred to from outside. Blocks are put one after the other, and an entry that
refers to all numbers left to the outside closes a block.
-/

namespace Varlink

/-- The numbers that entries refer to. -/
def childrenOf (entries : List TypeEntry) : List Nat :=
  entries.flatMap fun entry => entry.shape.children

/-- The entries are numbered from `first` on. The numbers in `outside` are those by which they are
referred to from outside, those from `base` on belong to types in place. -/
structure IsBlock (base first : Nat) (entries : List TypeEntry) (outside : List Nat) : Prop where
  descends : ∀ position entry, entries[position]? = some entry →
    ∀ child ∈ entry.shape.children, child < first + position
  below : ∀ number ∈ outside, number < first + entries.length
  once : ((childrenOf entries ++ outside).filter (base ≤ ·)).Perm
    (List.range' first entries.length)

section Block

variable {base first : Nat} {entries more : List TypeEntry} {outside others : List Nat}

theorem isBlock_nil : IsBlock base first [] [] where
  descends := nofun
  below := nofun
  once := .refl []

/-- What comes before all types in place is in no block. -/
theorem isBlock_low {number : Nat} (low : number < base) (high : base ≤ first) :
    IsBlock base first [] [number] where
  descends := nofun
  below := List.forall_mem_singleton.mpr (Nat.lt_of_lt_of_le low high)
  once := by
    have notInside : decide (base ≤ number) = false := decide_eq_false (Nat.not_le_of_lt low)
    rw [childrenOf, List.flatMap_nil, List.nil_append, List.filter_singleton, notInside]
    exact .refl []

/-- Blocks that follow each other are a block. -/
theorem IsBlock.append (front : IsBlock base first entries outside)
    (back : IsBlock base (first + entries.length) more others) :
    IsBlock base first (entries ++ more) (outside ++ others) where
  descends := by
    intro position entry found child inside
    rcases getElem?_append_cases found with here | ⟨later, rfl, here⟩
    · exact front.descends position entry here child inside
    · rw [← Nat.add_assoc]
      exact back.descends later entry here child inside
  below := by
    rw [List.length_append, ← Nat.add_assoc]
    refine List.forall_mem_append.mpr ⟨fun number inside => ?_, back.below⟩
    exact Nat.lt_add_right _ (front.below number inside)
  once := by
    have regrouped : (childrenOf (entries ++ more) ++ (outside ++ others)).Perm
        ((childrenOf entries ++ outside) ++ (childrenOf more ++ others)) := by
      rw [childrenOf, List.flatMap_append, List.append_assoc, List.append_assoc]
      exact (List.perm_append_comm_assoc _ _ _).append_left _
    rw [List.length_append, ← List.range'_append_1]
    refine (regrouped.filter _).trans ?_
    rw [List.filter_append]
    exact front.once.append back.once

/-- An entry that refers to all that is left to the outside is what the outside refers to. -/
theorem IsBlock.close (block : IsBlock base first entries outside) (high : base ≤ first)
    (entry : TypeEntry) (children : entry.shape.children = outside) :
    IsBlock base first (entries ++ [entry]) [first + entries.length] where
  descends := by
    intro position other found child inside
    rcases getElem?_concat found with here | ⟨rfl, rfl⟩
    · exact block.descends position other here child inside
    · exact block.below child (children ▸ inside)
  below := by
    rw [List.length_append, List.length_singleton]
    exact List.forall_mem_singleton.mpr (Nat.lt_succ_self _)
  once := by
    have isOwn : decide (base ≤ first + entries.length) = true :=
      decide_eq_true (Nat.le_add_right_of_le high)
    have isChildren : childrenOf (entries ++ [entry]) = childrenOf entries ++ outside := by
      rw [childrenOf, List.flatMap_append, List.flatMap_singleton, children, childrenOf]
    rw [isChildren, List.filter_append, List.filter_singleton, isOwn, List.length_append,
      List.length_singleton, ← List.range'_append_1]
    exact block.once.append_right _

/-- The blocks of items make up the block of them all. -/
theorem isBlock_flatMap {α : Type} {size : α → Nat} (block : Nat → α → List TypeEntry)
    (numbers : Nat → α → List Nat) (sized : ∀ start item, (block start item).length = size item)
    {items : List α} (high : base ≤ first) (each : ∀ item ∈ items, ∀ start, base ≤ start →
      IsBlock base start (block start item) (numbers start item)) :
    IsBlock base first
      ((numberFrom size first items).flatMap fun (start, item) => block start item)
      ((numberFrom size first items).flatMap fun (start, item) => numbers start item) := by
  induction items generalizing first with
  | nil => exact isBlock_nil
  | cons item items ih =>
      obtain ⟨head, tail⟩ := List.forall_mem_cons.mp each
      have rest := ih (high.trans (Nat.le_add_right first (size item))) tail
      rw [numberFrom, List.flatMap_cons, List.flatMap_cons]
      refine (head first high).append ?_
      rw [sized]
      exact rest

/-- Each number of the block is referred to once. -/
theorem IsBlock.count_eq_one (block : IsBlock base first entries outside) (high : base ≤ first)
    {number : Nat} (inside : number ∈ List.range' first entries.length) :
    (childrenOf entries ++ outside).count number = 1 := by
  have isOwn : decide (base ≤ number) :=
    decide_eq_true (high.trans (List.mem_range'_1.mp inside).1)
  calc (childrenOf entries ++ outside).count number
    _ = ((childrenOf entries ++ outside).filter (base ≤ ·)).count number :=
        (List.count_filter (p := fun other => decide (base ≤ other)) isOwn).symm
    _ = (List.range' first entries.length).count number := block.once.count_eq number
    _ = 1 := List.count_eq_one_of_mem List.nodup_range' inside

end Block

theorem Builtin.number_lt (leaf : Builtin) : leaf.number < 6 := by
  cases leaf <;> decide

namespace TypeExpr

variable {base first : Nat}

theorem isBlock_fieldEntries_of_each {fields : Fields}
    (each : ∀ field ∈ fields, ∀ path first, base ≤ first →
      IsBlock base first (field.2.entries path first) [field.2.number first]) (path : String)
    (high : base ≤ first) :
    IsBlock base first (fieldEntries path first fields) ((fieldNumbers first fields).map (·.2)) := by
  induction fields generalizing first with
  | nil => exact isBlock_nil
  | cons field fields ih =>
      obtain ⟨head, tail⟩ := List.forall_mem_cons.mp each
      have rest := ih tail (high.trans (Nat.le_add_right first field.2.numberCount))
      rw [fieldEntries, fieldNumbers, List.map_cons]
      refine (head (memberPath path field.1) first high).append ?_
      rw [length_entries]
      exact rest

/-- A type has one number, by which it is referred to from outside. -/
theorem isBlock_entries (afterBuiltins : 6 ≤ base) {type : LinkedType}
    (declared : ∀ index ∈ type.references, typedefNumber index < base) (path : String)
    (high : base ≤ first) : IsBlock base first (type.entries path first) [type.number first] := by
  induction type using TypeExpr.induction generalizing path first with
  | reference index => exact isBlock_low (declared index (List.mem_singleton_self index)) high
  | builtin leaf => exact isBlock_low (leaf.number_lt.trans_le afterBuiltins) high
  | modified modifier inner ih =>
      -- the one number left to the outside is that of the inner type, which the modifier takes up
      have closed := (ih declared path high).close high
        ⟨none, .anonymous, .modified modifier (inner.number first), .modified modifier inner⟩ rfl
      rwa [length_entries] at closed
  | struct fields ih =>
      have inside := isBlock_fieldEntries_of_each (fun field isField path first high =>
        ih field isField (fun index inside => declared index
          (mem_fieldReferences.mpr ⟨field, isField, inside⟩)) path high) path high
      have closed := inside.close high
        ⟨some path, .anonymous, .struct (fieldNumbers first fields), .struct fields⟩ rfl
      rwa [length_fieldEntries] at closed
  | enum members =>
      exact isBlock_nil.close high ⟨some path, .anonymous, .enum members, .enum members⟩ rfl

theorem isBlock_fieldEntries (afterBuiltins : 6 ≤ base) {fields : Fields}
    (declared : ∀ index ∈ fieldReferences fields, typedefNumber index < base) (path : String)
    (high : base ≤ first) :
    IsBlock base first (fieldEntries path first fields) ((fieldNumbers first fields).map (·.2)) :=
  isBlock_fieldEntries_of_each (fun field isField path _ high => isBlock_entries afterBuiltins
    (fun index inside => declared index (mem_fieldReferences.mpr ⟨field, isField, inside⟩))
    path high) path high

end TypeExpr

theorem Signature.isBlock_entries {base first : Nat} (afterBuiltins : 6 ≤ base)
    {signature : Signature}
    (declared : ∀ index ∈ signature.toType.references, typedefNumber index < base) (path : String)
    (high : base ≤ first) :
    IsBlock base first (signature.entries path first) [signature.number first] := by
  cases signature with
  | declared index => exact isBlock_low (declared index (List.mem_singleton_self index)) high
  | inline fields =>
      have closed := (TypeExpr.isBlock_fieldEntries afterBuiltins declared path high).close high
        ⟨some path, if fields.isEmpty then .suppressedWrapper else .wrapper,
          .struct (TypeExpr.fieldNumbers first fields), .struct fields⟩ rfl
      rwa [TypeExpr.length_fieldEntries] at closed

namespace Interface

variable {interface : Interface}

theorem lt_firstInner {index : Nat} (bound : index < interface.typedefs.length) :
    typedefNumber index < interface.firstInner :=
  Nat.add_lt_add_left bound 6

/-- What the entries of the declarations refer to, in order. -/
theorem childrenOf_typedefEntries (interface : Interface) :
    childrenOf interface.typedefEntries = interface.numberedTypedefs.flatMap
      fun (first, typedef) => (TypeExpr.fieldNumbers first typedef.body.fields).map (·.2) := by
  have shapes : interface.typedefEntries.map (·.shape) =
      interface.numberedTypedefs.map fun (first, typedef) => typedef.body.shape first := by
    apply List.ext_getElem?
    intro index
    rw [typedefEntries, List.getElem?_map, List.getElem?_mapIdx, List.getElem?_map, Option.map_map]
    rfl
  have children : ∀ first (group : Group),
      (group.shape first).children = (TypeExpr.fieldNumbers first group.fields).map (·.2) := by
    intro first group
    cases group <;> rfl
  calc childrenOf interface.typedefEntries
    _ = (interface.typedefEntries.map (·.shape)).flatMap Shape.children :=
        (List.flatMap_map ..).symm
    _ = interface.numberedTypedefs.flatMap fun (first, typedef) =>
          (typedef.body.shape first).children := by rw [shapes, List.flatMap_map]
    _ = _ := List.flatMap_congr fun numbered _ => children numbered.1 numbered.2.body

/-- The types in place are a block, and the outside of it are the declarations and signatures. -/
theorem isBlock_innerEntries (linked : interface.Linked) :
    IsBlock interface.firstInner interface.firstInner interface.innerEntries
      (childrenOf interface.typedefEntries ++ interface.signatureNumbers) := by
  have afterBuiltins : 6 ≤ interface.firstInner := Nat.le_add_right 6 _
  have typedefs : IsBlock interface.firstInner interface.firstInner interface.typedefInner
      (childrenOf interface.typedefEntries) := by
    rw [childrenOf_typedefEntries]
    refine isBlock_flatMap
      (fun first (typedef : Typedef) => TypeExpr.fieldEntries typedef.name first typedef.body.fields)
      (fun first typedef => (TypeExpr.fieldNumbers first typedef.body.fields).map (·.2))
      (fun _ _ => TypeExpr.length_fieldEntries ..) le_rfl fun typedef inside first high => ?_
    refine TypeExpr.isBlock_fieldEntries afterBuiltins (fun index isReference => ?_) _ high
    obtain ⟨place, found⟩ := List.mem_iff_getElem?.mp inside
    exact lt_firstInner ((groupAt_typedef linked found).bound index isReference)
  have signatures : IsBlock interface.firstInner interface.firstSignature interface.signatureInner
      interface.signatureNumbers := by
    rw [signatureNumbers, List.map_eq_flatMap]
    refine isBlock_flatMap
      (fun first (signature : String × Signature) => signature.2.entries signature.1 first)
      (fun first signature => [signature.2.number first])
      (fun _ _ => Signature.length_entries ..) ?_ fun signature inside first high => ?_
    · rw [firstSignature_eq]
      exact Nat.le_add_right ..
    · exact Signature.isBlock_entries afterBuiltins
        (fun index isReference => lt_firstInner (linked.signatures signature inside index isReference))
        _ high
  refine typedefs.append ?_
  rw [length_typedefInner, ← firstSignature_eq]
  exact signatures

/-- What a type in place refers to has a smaller number. -/
theorem child_lt (linked : interface.Linked) {number child : Nat} {entry : TypeEntry}
    (isEntry : interface.type? number = some entry) (inPlace : entry.origin ≠ .typedef)
    (isChild : child ∈ entry.shape.children) : child < number := by
  rcases exists_of_type? isEntry with ⟨leaf, rfl, rfl⟩ | ⟨index, typedef, -, -, rfl⟩ |
    ⟨position, rfl, inner⟩
  · cases isChild
  · exact absurd rfl inPlace
  · exact (isBlock_innerEntries linked).descends position entry inner child isChild

/-- The number of a type in place is handed out once. -/
theorem count_references (linked : interface.Linked) {position : Nat}
    (bound : position < interface.innerEntries.length) :
    (childrenOf interface.types ++ interface.signatureNumbers).count
      (interface.firstInner + position) = 1 := by
  -- references inside the types in place first, then those from outside, as the block has them
  have regrouped : (childrenOf interface.types ++ interface.signatureNumbers).Perm
      (childrenOf interface.innerEntries ++
        (childrenOf interface.typedefEntries ++ interface.signatureNumbers)) := by
    have builtins : childrenOf builtinEntries = [] := rfl
    rw [types_eq, childrenOf, List.flatMap_append, List.flatMap_append, ← childrenOf, ← childrenOf,
      ← childrenOf, builtins, List.nil_append, List.append_assoc]
    exact List.perm_append_comm_assoc _ _ _
  rw [regrouped.count_eq]
  refine (isBlock_innerEntries linked).count_eq_one le_rfl (List.mem_range'_1.mpr ⟨?_, ?_⟩)
  · exact Nat.le_add_right ..
  · exact Nat.add_lt_add_left bound _

end Interface

end Varlink
