import Mathlib.Data.List.Perm.Basic
import Varlink.Proofs.Interface.Linking
import Varlink.Proofs.Interface.Table

/-!
# What the walk discovers

The walk through an interface follows references, so the order of discovery depends on how the
declarations refer to each other. What is discovered does not: whatever the order, every declared
type is entered once and every signature once, and each group in place stands in exactly one of
them. So the walk meets the groups of the table, rearranged.

The invariant of the walk is that every declared type that has not been entered is still to be
entered. It holds at the start because the walk begins with all declared types.
-/

namespace Varlink

/-- A list is made of its items, looked up one after the other. -/
theorem flatMap_range_getElem? {α : Type} (items : List α) :
    ((List.range items.length).flatMap fun index => (items[index]?).toList) = items := by
  induction items with
  | nil => rfl
  | cons item items ih =>
      rw [List.length_cons, List.range_succ_eq_map, List.flatMap_cons, List.flatMap_map]
      exact congrArg (item :: ·) ih

namespace Stop

/-- The declaration at a stop, if it is a group in place. -/
def declaration? : Stop → Option Declaration
  | found declaration => some declaration
  | enter _ => none

/-- The groups in place among stops. -/
def declarations (stops : List Stop) : List Declaration := stops.filterMap declaration?

@[simp] theorem declarations_nil : declarations [] = [] := rfl

@[simp] theorem declarations_found (declaration : Declaration) (stops : List Stop) :
    declarations (found declaration :: stops) = declaration :: declarations stops := rfl

@[simp] theorem declarations_enter (index : Nat) (stops : List Stop) :
    declarations (enter index :: stops) = declarations stops := rfl

theorem declarations_append (first second : List Stop) :
    declarations (first ++ second) = declarations first ++ declarations second :=
  List.filterMap_append

/-- The walk finds the groups among the pending stops and those of every type it has yet to enter,
in some order, if it is going to enter each of these types. -/
theorem walk_perm (stopsOf : Nat → List Stop) {pending : List Stop} {unseen : List Nat}
    (nodup : unseen.Nodup) (entered : ∀ index ∈ unseen, enter index ∈ pending) :
    (walk stopsOf pending unseen).Perm
      (declarations pending ++ unseen.flatMap fun index => declarations (stopsOf index)) := by
  fun_induction walk stopsOf pending unseen with
  | case1 unseen =>
      cases unseen with
      | nil => exact .nil
      | cons index unseen => cases entered index (List.mem_cons_self ..)
  | case2 declaration pending unseen ih =>
      rw [declarations_found, List.cons_append]
      have later : ∀ index ∈ unseen, enter index ∈ pending := by
        intro index inside
        exact (List.mem_cons.mp (entered index inside)).resolve_left Stop.noConfusion
      exact (ih nodup later).cons declaration
  | case3 index pending unseen isUnseen ih =>
      have later : ∀ other ∈ unseen.erase index, enter other ∈ stopsOf index ++ pending := by
        intro other inside
        obtain ⟨different, inside⟩ := nodup.mem_erase_iff.mp inside
        apply List.mem_append_right
        apply (List.mem_cons.mp (entered other inside)).resolve_left
        intro same
        exact different (Stop.enter.inj same)
      have rest := ih (nodup.erase index) later
      have enteredNow := (List.perm_cons_erase isUnseen).flatMap_right fun index =>
        declarations (stopsOf index)
      rw [List.flatMap_cons] at enteredNow
      rw [declarations_append, List.append_assoc] at rest
      rw [declarations_enter]
      refine rest.trans ((List.perm_append_comm_assoc _ _ _).trans ?_)
      exact enteredNow.symm.append_left _
  | case4 index pending unseen isSeen ih =>
      rw [declarations_enter]
      apply ih nodup
      intro other inside
      apply (List.mem_cons.mp (entered other inside)).resolve_left
      intro same
      obtain rfl := Stop.enter.inj same
      exact isSeen inside

end Stop

/-- The declaration an entry stands for, unless it is suppressed or no group. -/
def TypeEntry.declaration? (entry : TypeEntry) (number : Nat) : Option Declaration :=
  if entry.isSuppressed then none
  else match entry.name, entry.written with
    | some name, .struct fields => some ⟨name, number, .struct fields⟩
    | some name, .enum members => some ⟨name, number, .enum members⟩
    | _, _ => none

/-- The declarations that entries stand for, the first of which has the number `first`. -/
def declarationsFrom (first : Nat) (entries : List TypeEntry) : List Declaration :=
  (entries.zipIdx first).filterMap fun (entry, number) => entry.declaration? number

theorem declarationsFrom_cons (first : Nat) (entry : TypeEntry) (entries : List TypeEntry) :
    declarationsFrom first (entry :: entries) =
      (entry.declaration? first).toList ++ declarationsFrom (first + 1) entries := by
  rw [declarationsFrom, List.zipIdx_cons, List.filterMap_cons]
  cases found : entry.declaration? first <;> simp [found, declarationsFrom]

theorem declarationsFrom_append (first : Nat) (before after : List TypeEntry) :
    declarationsFrom first (before ++ after) =
      declarationsFrom first before ++ declarationsFrom (first + before.length) after := by
  rw [declarationsFrom, List.zipIdx_append, List.filterMap_append]
  rfl

/-- What is found in each block is found in all of them. -/
theorem declarations_flatMap_perm {α : Type} {size : α → Nat} (stops : Nat → α → List Stop)
    (entries : Nat → α → List TypeEntry)
    (sized : ∀ first item, (entries first item).length = size item) {items : List α}
    (each : ∀ item ∈ items, ∀ first,
      (Stop.declarations (stops first item)).Perm (declarationsFrom first (entries first item)))
    (first : Nat) :
    (Stop.declarations ((numberFrom size first items).flatMap fun (first, item) =>
      stops first item)).Perm
    (declarationsFrom first ((numberFrom size first items).flatMap fun (first, item) =>
      entries first item)) := by
  induction items generalizing first with
  | nil => exact .nil
  | cons item items ih =>
      obtain ⟨head, tail⟩ := List.forall_mem_cons.mp each
      rw [numberFrom, List.flatMap_cons, List.flatMap_cons, Stop.declarations_append,
        declarationsFrom_append, sized]
      exact (head first).append (ih tail _)

namespace TypeExpr

theorem fieldStops_eq (path : String) (first : Nat) (fields : Fields) :
    fieldStops path first fields =
      (numberFrom fieldCount first fields).flatMap fun (first, field) =>
        field.2.stops (memberPath path field.1) first := by
  induction fields generalizing first with
  | nil => rfl
  | cons field fields ih => rw [fieldStops, ih, numberFrom, List.flatMap_cons, fieldCount]

theorem fieldStops_perm_of_each {fields : Fields}
    (each : ∀ field ∈ fields, ∀ path first, (Stop.declarations (field.2.stops path first)).Perm
      (declarationsFrom first (field.2.entries path first))) (path : String) (first : Nat) :
    (Stop.declarations (fieldStops path first fields)).Perm
      (declarationsFrom first (fieldEntries path first fields)) := by
  rw [fieldStops_eq, fieldEntries_eq]
  exact declarations_flatMap_perm
    (fun first (field : String × LinkedType) => field.2.stops (memberPath path field.1) first)
    (fun first field => field.2.entries (memberPath path field.1) first)
    (fun _ _ => length_entries ..) (fun field inside => each field inside _) first

/-- A struct is met before what is inside it and numbered after. -/
theorem struct_perm {stops : List Stop} {entries : List TypeEntry} {first : Nat} {entry : TypeEntry}
    {declaration : Declaration}
    (inside : (Stop.declarations stops).Perm (declarationsFrom first entries))
    (isDeclaration : entry.declaration? (first + entries.length) = some declaration) :
    (Stop.declarations (.found declaration :: stops)).Perm
      (declarationsFrom first (entries ++ [entry])) := by
  have last : declarationsFrom (first + entries.length) [entry] = [declaration] := by
    rw [declarationsFrom_cons, isDeclaration]
    rfl
  rw [Stop.declarations_found, declarationsFrom_append, last]
  exact (inside.cons declaration).trans (List.perm_append_singleton ..).symm

/-- The stops of a type are its groups in place. -/
theorem stops_perm (type : LinkedType) (path : String) (first : Nat) :
    (Stop.declarations (type.stops path first)).Perm
      (declarationsFrom first (type.entries path first)) := by
  induction type using TypeExpr.induction generalizing path first with
  | reference index => exact .nil
  | builtin leaf => exact .nil
  | modified modifier inner ih =>
      rw [stops, entries, declarationsFrom_append]
      exact (ih path first).trans (.of_eq (List.append_nil _).symm)
  | struct fields ih =>
      refine struct_perm (fieldStops_perm_of_each ih path first) ?_
      rw [length_fieldEntries]
      rfl
  | enum members => exact .refl _

theorem fieldStops_perm (fields : Fields) (path : String) (first : Nat) :
    (Stop.declarations (fieldStops path first fields)).Perm
      (declarationsFrom first (fieldEntries path first fields)) :=
  fieldStops_perm_of_each (fun field _ => stops_perm field.2) path first

end TypeExpr

theorem Signature.stops_perm (signature : Signature) (path : String) (first : Nat) :
    (Stop.declarations (signature.stops path first)).Perm
      (declarationsFrom first (signature.entries path first)) := by
  cases signature with
  | declared index => exact .nil
  | inline fields =>
      cases fields with
      | nil => exact .nil
      | cons field fields =>
          refine TypeExpr.struct_perm (TypeExpr.fieldStops_perm (field :: fields) path first) ?_
          rw [TypeExpr.length_fieldEntries]
          rfl

namespace Interface

variable {interface : Interface}

theorem typedefStops_perm (interface : Interface) :
    (Stop.declarations (interface.numberedTypedefs.flatMap fun (first, typedef) =>
      TypeExpr.fieldStops typedef.name first typedef.body.fields)).Perm
    (declarationsFrom interface.firstInner interface.typedefInner) :=
  declarations_flatMap_perm
    (fun first (typedef : Typedef) => TypeExpr.fieldStops typedef.name first typedef.body.fields)
    (fun first typedef => TypeExpr.fieldEntries typedef.name first typedef.body.fields)
    (fun _ _ => TypeExpr.length_fieldEntries ..)
    (fun typedef _ => TypeExpr.fieldStops_perm typedef.body.fields typedef.name) _

theorem signatureStops_perm (interface : Interface) :
    (Stop.declarations (interface.numberedSignatures.flatMap fun (first, path, signature) =>
      signature.stops path first)).Perm
    (declarationsFrom interface.firstSignature interface.signatureInner) :=
  declarations_flatMap_perm
    (fun first (signature : String × Signature) => signature.2.stops signature.1 first)
    (fun first signature => signature.2.entries signature.1 first)
    (fun _ _ => Signature.length_entries ..)
    (fun signature _ => signature.2.stops_perm signature.1) _

theorem typedefStops_eq (interface : Interface) (index : Nat) : interface.typedefStops index =
    (interface.numberedTypedefs[index]?).toList.flatMap fun (first, typedef) =>
      TypeExpr.fieldStops typedef.name first typedef.body.fields := by
  rw [typedefStops]
  cases interface.numberedTypedefs[index]? with
  | none => rfl
  | some numbered => exact (List.append_nil _).symm

/-- The declared types, one after the other, have the stops of all declared types. -/
theorem flatMap_typedefStops (interface : Interface) :
    ((List.range interface.typedefs.length).flatMap fun index =>
      Stop.declarations (interface.typedefStops index)) =
    Stop.declarations (interface.numberedTypedefs.flatMap fun (first, typedef) =>
      TypeExpr.fieldStops typedef.name first typedef.body.fields) := by
  have sameLength : interface.numberedTypedefs.length = interface.typedefs.length :=
    length_numberFrom ..
  rw [← sameLength]
  conv_rhs => rw [← flatMap_range_getElem? interface.numberedTypedefs, List.flatMap_assoc]
  simp only [typedefStops_eq]
  exact List.filterMap_flatMap.symm

/-- What is discovered are the groups in place that the table holds. -/
theorem discovered_perm (interface : Interface) : interface.discovered.Perm
    (declarationsFrom interface.firstInner interface.innerEntries) := by
  let indices := List.range interface.typedefs.length
  let signatures := interface.numberedSignatures.flatMap fun (first, path, signature) =>
    signature.stops path first
  have entered : ∀ index ∈ indices, Stop.enter index ∈ indices.map Stop.enter ++ signatures :=
    fun index inside => List.mem_append_left _ (List.mem_map_of_mem inside)
  have walked := Stop.walk_perm interface.typedefStops List.nodup_range entered
  have onlyEntered : Stop.declarations (indices.map Stop.enter) = [] := by
    simp [Stop.declarations, Stop.declaration?]
  rw [Stop.declarations_append, onlyEntered, List.nil_append, flatMap_typedefStops] at walked
  have start : interface.firstSignature = interface.firstInner + interface.typedefInner.length := by
    rw [firstSignature_eq, length_typedefInner]
  rw [innerEntries, declarationsFrom_append, ← start]
  refine walked.trans (List.perm_append_comm.trans ?_)
  exact interface.typedefStops_perm.append interface.signatureStops_perm

end Interface

/-- Naming succeeds just when the names are new and distinct. -/
theorem outcome_giveNames {taken : List String} {declarations : List Declaration} :
    (giveNames taken declarations).outcome = .ok () ↔
      (declarations.map (·.name)).Nodup ∧ ∀ name ∈ declarations.map (·.name), name ∉ taken := by
  induction declarations generalizing taken with
  | nil => simp [giveNames]
  | cons declaration declarations ih =>
      rw [giveNames, List.map_cons]
      by_cases known : declaration.name ∈ taken
      · rw [if_pos known]
        simp [known]
      · rw [if_neg known, Logged.outcome_bind_eq_ok, ← distinct_cons_iff known, ← ih]
        simp

end Varlink
