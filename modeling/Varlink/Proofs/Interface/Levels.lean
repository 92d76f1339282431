import Varlink.Proofs.Document.Grammar
import Varlink.Proofs.Interface.Places

/-!
# Levels of types

Reading and linking count levels in two ways. The reader needs one for every group and modifier, the
linker one for every type, so also for a name or a built-in type at the bottom. What a type needs to
be linked is its height, and this is its depth, or one more if something stands at the bottom that
opens no level of its own.

A declaration is linked without a level for its body and with one more for the types in it than
there are, and a signature without one for its body. So the linker takes declarations that are up to
two levels deeper than the reader does, and signatures that are one level deeper.
-/

namespace Varlink

namespace TypeExpr

variable {α : Type}

mutual

/-- How many types stand inside each other, from the type itself to the bottom. -/
def height : TypeExpr α → Nat
  | .reference _ => 1
  | .builtin _ => 1
  | .modified _ inner => height inner + 1
  | .struct fields => fieldsHeight fields + 1
  | .enum _ => 1

/-- How many types stand inside each other in fields. -/
def fieldsHeight : List (String × TypeExpr α) → Nat
  | [] => 0
  | (_, type) :: rest => max (height type) (fieldsHeight rest)

end

theorem fieldsHeight_le_iff {fields : List (String × TypeExpr α)} {levels : Nat} :
    fieldsHeight fields ≤ levels ↔ ∀ field ∈ fields, field.2.height ≤ levels := by
  induction fields with
  | nil => simp [fieldsHeight]
  | cons field fields ih => rw [fieldsHeight, Nat.max_le, ih, List.forall_mem_cons]

/-- Every group and modifier is a type. -/
theorem depth_le_height (type : TypeExpr α) : type.depth ≤ type.height := by
  induction type using TypeExpr.induction with
  | reference => exact Nat.zero_le _
  | builtin => exact Nat.zero_le _
  | modified modifier inner ih => exact Nat.succ_le_succ ih
  | struct fields ih =>
      refine Nat.succ_le_succ (fieldsDepth_le_iff.mpr fun field inside => ?_)
      exact (ih field inside).trans (fieldsHeight_le_iff.mp le_rfl field inside)
  | enum => exact le_rfl

/-- At most one type in a row is neither a group nor a modifier. -/
theorem height_le_succ_depth (type : TypeExpr α) : type.height ≤ type.depth + 1 := by
  induction type using TypeExpr.induction with
  | reference => exact le_rfl
  | builtin => exact le_rfl
  | modified modifier inner ih => exact Nat.succ_le_succ ih
  | struct fields ih =>
      refine Nat.succ_le_succ (fieldsHeight_le_iff.mpr fun field inside => ?_)
      have bound := fieldsDepth_le_iff.mp le_rfl field inside
      exact (ih field inside).trans (Nat.succ_le_succ bound)
  | enum => exact Nat.le_add_left 1 1

section Linking

variable {find : String → Option α} {levels : Nat}

theorem fieldsHeight_le_of_each {fields : List (String × TypeExpr String)}
    {linked : List (String × TypeExpr α)}
    (each : ∀ field ∈ fields, ∀ linked, link find field.2 levels = .ok linked →
      field.2.height ≤ levels)
    (h : linkFields find fields levels = .ok linked) : fieldsHeight fields ≤ levels := by
  induction fields generalizing linked with
  | nil => exact Nat.zero_le _
  | cons field fields ih =>
      obtain ⟨here, others⟩ := List.forall_mem_cons.mp each
      rw [linkFields] at h
      obtain ⟨first, firstLinked, h⟩ := bind_eq_ok.mp h
      obtain ⟨rest, restLinked, -⟩ := bind_eq_ok.mp h
      exact Nat.max_le.mpr ⟨here first firstLinked, ih others restLinked⟩

/-- What is linked had a level for each of its types. -/
theorem height_le_of_link {type : TypeExpr String} {linked : TypeExpr α}
    (h : link find type levels = .ok linked) : type.height ≤ levels := by
  induction type using TypeExpr.induction generalizing levels linked with
  | modified modifier inner ih =>
      obtain ⟨levels, rfl⟩ := levels_of_link h
      obtain ⟨found, innerLinked, -⟩ := bind_eq_ok.mp h
      exact Nat.succ_le_succ (ih innerLinked)
  | struct fields ih =>
      obtain ⟨levels, rfl⟩ := levels_of_link h
      obtain ⟨found, fieldsLinked, -⟩ := bind_eq_ok.mp h
      refine Nat.succ_le_succ (fieldsHeight_le_of_each (fun field inside linked => ?_) fieldsLinked)
      exact ih field inside
  | _ =>
      obtain ⟨levels, rfl⟩ := levels_of_link h
      exact Nat.succ_le_succ (Nat.zero_le _)

theorem fieldsHeight_le_of_linkFields {fields : List (String × TypeExpr String)}
    {linked : List (String × TypeExpr α)} (h : linkFields find fields levels = .ok linked) :
    fieldsHeight fields ≤ levels :=
  fieldsHeight_le_of_each (fun _ _ _ => height_le_of_link) h

end Linking

end TypeExpr

namespace Document

open TypeExpr

variable {document : Document} {find : String → Option Nat} {typedefs : List Typedef}

/-- The levels that linking has are enough for all types of a document. -/
structure Fits (document : Document) : Prop where
  bodies : ∀ typedef ∈ document.typedefs, typedef.body.height ≤ maxNesting + 2
  signatures : ∀ type ∈ document.signatureTypes, type.height ≤ maxNesting + 1

/-- Types that are not too deep for reading are not too deep for linking. -/
theorem fits_of_shallow (shallow : ∀ root ∈ document.roots, root.depth ≤ maxNesting) :
    document.Fits := by
  obtain ⟨bodies, signatures⟩ := List.forall_mem_append.mp shallow
  constructor
  · intro typedef inside
    have bound := bodies _ (List.mem_map_of_mem inside)
    exact typedef.body.height_le_succ_depth.trans (Nat.add_le_add_right (Nat.le_succ_of_le bound) 1)
  · intro type inside
    exact type.height_le_succ_depth.trans (Nat.succ_le_succ (signatures type inside))

/-- Linking takes declarations of two levels more than reading, and signatures of one. -/
theorem Fits.depth_le (fits : document.Fits) :
    (∀ typedef ∈ document.typedefs, typedef.body.depth ≤ maxNesting + 2) ∧
      ∀ type ∈ document.signatureTypes, type.depth ≤ maxNesting + 1 :=
  ⟨fun typedef inside => typedef.body.depth_le_height.trans (fits.bodies typedef inside),
    fun type inside => type.depth_le_height.trans (fits.signatures type inside)⟩

theorem height_le_of_linkTypedef {typedef : TypeDef} {linked : Typedef}
    (h : linkTypedef find typedef = .ok linked) : typedef.body.height ≤ maxNesting + 2 := by
  obtain ⟨name, body⟩ := typedef
  cases body with
  | struct fields =>
      obtain ⟨found, fieldsLinked, -⟩ := bind_eq_ok.mp h
      exact Nat.succ_le_succ (fieldsHeight_le_of_linkFields fieldsLinked)
  | enum members => exact Nat.le_add_left 1 _
  | reference => cases h
  | builtin => cases h
  | modified => cases h

theorem height_le_of_linkSignature {site : SignatureSite} {type : TypeExpr String}
    {signature : Signature} (h : linkSignature find typedefs site type = .ok signature) :
    type.height ≤ maxNesting + 1 := by
  cases type with
  | struct fields =>
      obtain ⟨found, fieldsLinked, -⟩ := bind_eq_ok.mp h
      exact Nat.succ_le_succ (fieldsHeight_le_of_linkFields fieldsLinked)
  | reference name => exact Nat.le_add_left 1 _
  | builtin => cases h
  | modified => cases h
  | enum => cases h

/-- What links had levels for all of its types. -/
theorem fits_of_link {interface : Interface} (links : document.link = .ok interface) :
    document.Fits := by
  obtain ⟨⟨⟩, -, links⟩ := bind_eq_ok.mp links
  obtain ⟨typedefs, typedefsLinked, links⟩ := bind_eq_ok.mp links
  obtain ⟨methods, methodsLinked, links⟩ := bind_eq_ok.mp links
  obtain ⟨errors, errorsLinked, -⟩ := bind_eq_ok.mp links
  constructor
  · intro typedef inside
    obtain ⟨linked, isLinked⟩ := exists_mapM.mp ⟨_, typedefsLinked⟩ typedef inside
    exact height_le_of_linkTypedef isLinked
  · refine List.forall_mem_append.mpr ⟨fun type inside => ?_, List.forall_mem_map.mpr ?_⟩
    · obtain ⟨method, isMethod, isType⟩ := List.mem_flatMap.mp inside
      obtain ⟨linked, isLinked⟩ := exists_mapM.mp ⟨_, methodsLinked⟩ method isMethod
      obtain ⟨parameters, parametersLinked, isLinked⟩ := bind_eq_ok.mp isLinked
      obtain ⟨results, resultsLinked, -⟩ := bind_eq_ok.mp isLinked
      rcases List.mem_cons.mp isType with rfl | isType
      · exact height_le_of_linkSignature parametersLinked
      · obtain rfl := List.mem_singleton.mp isType
        exact height_le_of_linkSignature resultsLinked
    · intro error isError
      obtain ⟨linked, isLinked⟩ := exists_mapM.mp ⟨_, errorsLinked⟩ error isError
      obtain ⟨parameters, parametersLinked, -⟩ := bind_eq_ok.mp isLinked
      exact height_le_of_linkSignature parametersLinked

end Document

end Varlink
