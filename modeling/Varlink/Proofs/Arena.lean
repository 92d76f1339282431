import Varlink.Arena.Resolution
import Varlink.Proofs.Interface.TypeGraph

/-!
# Computations whose expectations are met

A computation on an arena is described by the computation it stands for: it is settled, and ends as
that one does. Settled computations follow each other as the computations they stand for do, so a
description is put together from those of the steps. Only the steps that look at a slot have to show
that it is there.
-/

namespace Varlink

namespace Work

variable {α β : Type}

@[simp] theorem settled_ok (value : α) : settled (.ok value) = pure value := rfl

@[simp] theorem settled_error (error : ResolveError) :
    (settled (.error error) : Work α) = throw (.error error) := rfl

@[simp] theorem throw_bind (halt : Halt) (f : α → Work β) : (throw halt : Work α) >>= f = throw halt :=
  rfl

theorem settled_map (x : Except ResolveError α) (f : α → β) :
    settled (x.map f) = settled x >>= fun value => pure (f value) := by
  cases x <;> rfl

theorem settled_bind (x : Except ResolveError α) (f : α → Except ResolveError β) :
    settled (x >>= f) = settled x >>= fun value => settled (f value) := by
  cases x <;> rfl

/-- In a settled computation no expectation is left unmet. -/
theorem settled_ne_unmet (result : Except ResolveError α) (expectation : Expectation) :
    settled result ≠ throw (.unmet expectation) := by
  cases result <;> rintro ⟨⟩

/-- What comes after a settled computation matters only for what this can end in. -/
theorem settled_bind_congr {x : Except ResolveError α} {f g : α → Work β}
    (same : ∀ value, x = .ok value → f value = g value) : settled x >>= f = settled x >>= g := by
  cases x with
  | error error => rfl
  | ok value => exact same value rfl

/-- Items that all give a value give the list of these. -/
theorem mapM_eq_pure {items : List α} {f : α → Work β} {g : α → β}
    (each : ∀ item ∈ items, f item = pure (g item)) : items.mapM f = pure (items.map g) := by
  induction items with
  | nil => rfl
  | cons item items ih =>
      obtain ⟨head, tail⟩ := List.forall_mem_cons.mp each
      rw [List.mapM_cons, head, pure_bind, ih tail, pure_bind, List.map_cons]

end Work

namespace Slots

variable {slots : Slots} {index : Nat} {slot : Slot}

theorem read_of_getElem? (found : slots[index]? = some (some slot)) :
    slots.read (index + 1) = pure slot := by
  rw [read, found]

theorem write_of_lt (bound : index < slots.length) :
    slots.write slot (index + 1) = pure (slots.set index (some slot)) := by
  rw [write, if_pos bound]

theorem change_of_getElem? {f : Slot → Slot} (found : slots[index]? = some (some slot)) :
    slots.change f (index + 1) = pure (slots.set index (some (f slot))) := by
  rw [change, read_of_getElem? found, pure_bind,
    write_of_lt (List.getElem?_eq_some_iff.mp found).1]

end Slots

namespace Build

variable {slots : Slots}

theorem run_reserve (fits : slots.length + 1 < UInt32.size) :
    reserve.run slots = pure (slots.length + 1, slots ++ [none]) :=
  if_pos fits

theorem run_fill {index : Nat} {slot : Slot} (bound : index < slots.length) :
    (fill (index + 1) slot).run slots = pure ((), slots.set index (some slot)) := by
  simp only [fill, StateT.run_bind, StateT.run_get, pure_bind, StateT.run_monadLift,
    monadLift_self, Slots.write_of_lt bound, StateT.run_set]

/-- A slot that is filled at once is put at the end. -/
theorem run_create (slot : Slot) (fits : slots.length + 1 < UInt32.size) :
    (create slot).run slots = pure (slots.length + 1, slots ++ [some slot]) := by
  have last : slots.length < (slots ++ [none]).length := by simp
  rw [create, StateT.run_bind, run_reserve fits, pure_bind, StateT.run_bind, run_fill last,
    List.set_append_right _ _ le_rfl, Nat.sub_self]
  rfl

end Build

/-- The entry in its slot, before types in place get their names. -/
def TypeEntry.unnamed (entry : TypeEntry) : Option Slot := some entry.beforeNaming.slot

/-- The members of a struct whose inner numbers start at `first`. -/
def TypeExpr.fieldMembers (first : Nat) (fields : Fields) : List (String × Option Nat) :=
  (fieldNumbers first fields).map fun (name, type) => (name, some type)

/-- The members of a group whose inner numbers start at `first`. -/
def Group.slotMembers (first : Nat) : Group → List (String × Option Nat)
  | .struct fields => TypeExpr.fieldMembers first fields
  | .enum members => members.map fun member => (member, none)

theorem Group.slotKind_shape (first : Nat) (group : Group) :
    (group.shape first).slotKind = .group group.kind (group.slotMembers first) := by
  cases group <;> rfl

/-- A declared type in its slot, when the numbers of the types inside it start at `first`. -/
def Typedef.slot (first : Nat) (typedef : Typedef) : Slot :=
  ⟨some typedef.name, .typedef, (typedef.body.shape first).slotKind⟩

theorem Typedef.kind_slot (first : Nat) (typedef : Typedef) :
    (typedef.slot first).kind = .group typedef.body.kind (typedef.body.slotMembers first) :=
  typedef.body.slotKind_shape first

theorem Typedef.members_slot (first : Nat) (typedef : Typedef) :
    (typedef.slot first).members = typedef.body.slotMembers first := by
  rw [Slot.members, kind_slot]

section NumberFrom

variable {α β : Type} {size : β → Nat}

theorem numberFrom_append (first : Nat) (before after : List β) :
    numberFrom size first (before ++ after) =
      numberFrom size first before ++ numberFrom size (first + (before.map size).sum) after := by
  induction before generalizing first with
  | nil => rfl
  | cons item before ih =>
      rw [List.cons_append, numberFrom, ih, numberFrom, List.map_cons, List.sum_cons,
        List.cons_append, Nat.add_assoc]

theorem numberFrom_map (f : α → β) (first : Nat) (items : List α) :
    numberFrom size first (items.map f) =
      (numberFrom (fun item => size (f item)) first items).map fun (start, item) =>
        (start, f item) := by
  induction items generalizing first with
  | nil => rfl
  | cons item items ih => rw [List.map_cons, numberFrom, ih, numberFrom, List.map_cons]

theorem numberFrom_flatMap (f : α → List β) (first : Nat) (items : List α) :
    numberFrom size first (items.flatMap f) =
      (numberFrom (fun item => ((f item).map size).sum) first items).flatMap fun (start, item) =>
        numberFrom size start (f item) := by
  induction items generalizing first with
  | nil => rfl
  | cons item items ih =>
      rw [List.flatMap_cons, numberFrom_append, ih, numberFrom, List.flatMap_cons]

theorem sum_map_flatMap (f : α → List β) (items : List α) :
    ((items.flatMap f).map size).sum = (items.map fun item => ((f item).map size).sum).sum := by
  rw [List.map_flatMap, List.flatMap_def, List.sum_flatten, List.map_map]
  rfl

end NumberFrom

/-- What a method takes and gives, with the numbers at which they start. -/
def Method.numberedSignatures (first : Nat) (method : Method) :
    List (Nat × String × Signature) :=
  [(first, method.name ++ "Args", method.parameters),
    (first + method.parameters.numberCount, method.name ++ "Result", method.results)]

/-- The numbers of the errors follow those of the methods. -/
theorem Interface.firstError_eq (interface : Interface) : interface.firstError =
    interface.firstSignature + (interface.methods.map Method.numberCount).sum :=
  foldl_add_size ..

/-- The signatures of an interface are those of its methods and of its errors. -/
theorem Interface.numberedSignatures_eq (interface : Interface) : interface.numberedSignatures =
    (numberFrom Method.numberCount interface.firstSignature interface.methods).flatMap
      (fun (first, method) => method.numberedSignatures first) ++
    (numberFrom (·.parameters.numberCount) interface.firstError interface.errors).map
      fun (first, error) => (first, error.name ++ "Args", error.parameters) := by
  rw [numberedSignatures, signatures, numberFrom_append, numberFrom_flatMap, numberFrom_map,
    sum_map_flatMap, firstError_eq]
  rfl

end Varlink
