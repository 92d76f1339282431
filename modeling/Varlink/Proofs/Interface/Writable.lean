import Varlink.Proofs.Document.Writable
import Varlink.Proofs.Interface.Discovery
import Varlink.Proofs.Interface.Places

/-!
# The names of an interface that can be written

Linking changes no name, so an interface has the names of its document. They are also those of its
declarations: a declaration is a declared type or a group in place, and every group in place stands
in one of the types of the document.
-/

namespace Varlink

theorem mem_of_mem_numberFrom {α : Type} {size : α → Nat} {first start : Nat} {items : List α}
    {item : α} (inside : (start, item) ∈ numberFrom size first items) : item ∈ items := by
  obtain ⟨_, isItem, -⟩ := exists_of_mem_numberFrom inside
  exact List.mem_of_getElem? isItem

/-- What a walk meets is on its way from the start, or in a type that it enters. -/
theorem Stop.of_mem_walk {stopsOf : Nat → List Stop} {pending : List Stop} {unseen : List Nat}
    {declaration : Declaration} (met : declaration ∈ walk stopsOf pending unseen) :
    found declaration ∈ pending ∨ ∃ index, found declaration ∈ stopsOf index := by
  fun_induction walk stopsOf pending unseen with
  | case1 => cases met
  | case2 other pending unseen ih =>
      rcases List.mem_cons.mp met with rfl | met
      · exact .inl List.mem_cons_self
      · exact (ih met).imp_left (List.mem_cons_of_mem _)
  | case3 index pending unseen isUnseen ih =>
      rcases ih met with here | elsewhere
      · rcases List.mem_append.mp here with entered | here
        · exact .inr ⟨index, entered⟩
        · exact .inl (List.mem_cons_of_mem _ here)
      · exact .inr elsewhere
  | case4 index pending unseen isSeen ih => exact (ih met).imp_left (List.mem_cons_of_mem _)

namespace TypeExpr

variable {nameOf : Nat → String} {path : String} {first : Nat} {declaration : Declaration}

theorem writable_field {fields : Fields}
    (writable : (rename nameOf (.struct fields)).Writable) :
    ∀ field ∈ fields, (field.2.rename nameOf).Writable := by
  rw [rename, renameFields_eq_map] at writable
  cases writable with
  | struct _ types => exact fun field inside => types _ (List.mem_map_of_mem inside)

theorem writable_of_mem_fieldStops {fields : Fields}
    (each : ∀ field ∈ fields, ∀ path first, .found declaration ∈ field.2.stops path first →
      (declaration.body.toType.rename nameOf).Writable)
    (inside : .found declaration ∈ fieldStops path first fields) :
    (declaration.body.toType.rename nameOf).Writable := by
  rw [fieldStops_eq] at inside
  obtain ⟨⟨start, field⟩, isField, inside⟩ := List.mem_flatMap.mp inside
  exact each field (mem_of_mem_numberFrom isField) _ _ inside

/-- A group inside a type that can be written can be written. -/
theorem writable_of_mem_stops {type : LinkedType} (writable : (type.rename nameOf).Writable)
    (inside : .found declaration ∈ type.stops path first) :
    (declaration.body.toType.rename nameOf).Writable := by
  induction type using TypeExpr.induction generalizing path first with
  | reference index => cases List.mem_singleton.mp inside
  | builtin leaf => cases inside
  | modified modifier inner ih =>
      cases writable with
      | modified _ writable => exact ih writable inside
  | struct fields ih =>
      rcases List.mem_cons.mp inside with here | inside
      · obtain rfl := Stop.found.inj here
        exact writable
      · refine writable_of_mem_fieldStops (fun field isField path first => ?_) inside
        exact ih field isField (writable_field writable field isField)
  | enum members =>
      obtain rfl := Stop.found.inj (List.mem_singleton.mp inside)
      exact writable

end TypeExpr

namespace Interface

open Lexeme

variable {interface : Interface}

section Writable

variable (writable : interface.document.Writable)
include writable

theorem writable_typedefs : ∀ typedef ∈ interface.typedefs, IsWord typedef.name.toList ∧
    (typedef.body.toType.rename interface.typedefName).Writable := by
  intro typedef inside
  refine writable.members (.typedef (typedef.definition interface.typedefName)) ?_
  refine List.mem_append_left _ (List.mem_append_left _ (List.mem_map_of_mem ?_))
  exact List.mem_map_of_mem inside

theorem writable_errors : ∀ error ∈ interface.errors, IsWord error.name.toList ∧
    (error.parameters.toType.rename interface.typedefName).Writable := by
  intro error inside
  refine writable.members (.error (error.definition interface.typedefName)) ?_
  refine List.mem_append_left _ (List.mem_append_right _ (List.mem_map_of_mem ?_))
  exact List.mem_map_of_mem inside

theorem writable_methods : ∀ method ∈ interface.methods, IsWord method.name.toList ∧
    (method.parameters.toType.rename interface.typedefName).Writable ∧
    (method.results.toType.rename interface.typedefName).Writable := by
  intro method inside
  refine writable.members (.method (method.definition interface.typedefName)) ?_
  refine List.mem_append_right _ (List.mem_map_of_mem ?_)
  exact List.mem_map_of_mem inside

theorem writable_of_mem_discovered {declaration : Declaration}
    (inside : declaration ∈ interface.discovered) :
    (declaration.body.toType.rename interface.typedefName).Writable := by
  have signatures : ∀ signature ∈ interface.signatures,
      (signature.2.toType.rename interface.typedefName).Writable :=
    forall_mem_signatures.mpr ⟨fun method inside => (writable_methods writable method inside).2,
      fun error inside => (writable_errors writable error inside).2⟩
  rcases Stop.of_mem_walk inside with here | ⟨index, within⟩
  · rcases List.mem_append.mp here with entered | here
    · obtain ⟨index, -, same⟩ := List.mem_map.mp entered
      cases same
    · obtain ⟨⟨first, path, signature⟩, isSignature, met⟩ := List.mem_flatMap.mp here
      have writable := signatures _ (mem_of_mem_numberFrom isSignature)
      cases signature with
      | declared index => cases met
      | inline fields =>
          cases fields with
          | nil => cases met
          | cons field fields => exact TypeExpr.writable_of_mem_stops writable met
  · rw [typedefStops] at within
    split at within
    · rename_i first typedef found
      have isTypedef := mem_of_mem_numberFrom (List.mem_of_getElem? found)
      have body := (writable_typedefs writable typedef isTypedef).2
      refine TypeExpr.writable_of_mem_fieldStops (fun field isField path first met => ?_) within
      obtain ⟨name, group⟩ := typedef
      cases group with
      | struct fields =>
          exact TypeExpr.writable_of_mem_stops (TypeExpr.writable_field body field isField) met
      | enum members => cases isField
    · cases within

/-- The declarations of an interface can be written if its document can. -/
theorem writable_of_mem_declarations {declaration : Declaration}
    (inside : declaration ∈ interface.declarations) :
    (declaration.body.toType.rename interface.typedefName).Writable := by
  rcases List.mem_append.mp inside with isDeclared | isDiscovered
  · obtain ⟨index, bound, rfl⟩ := List.mem_mapIdx.mp isDeclared
    exact (writable_typedefs writable _ (List.getElem_mem bound)).2
  · exact writable_of_mem_discovered writable isDiscovered

end Writable

end Interface

end Varlink
