import Varlink.Proofs.Document.Reordering
import Varlink.Proofs.Interface.Naming

/-!
# Interfaces do not depend on the order of members

Reordering the members of a document changes the numbers of its types, the way the walk takes
through them and which of two equal names is given first. It changes neither whether the document
can be linked, since a reference is looked up by its name, nor any name, since that of a group is
told by its place. So it does not change whether the document resolves.
-/

namespace Varlink

namespace TypeExpr

variable {α β : Type}

/-- Whether a type is a struct. -/
def isStruct : TypeExpr α → Bool
  | .struct _ => true
  | _ => false

section Find

variable {find : String → Option α} {other : String → Option β}

theorem exists_linkFields_of_each {fields : List (String × TypeExpr String)} {levels : Nat}
    (each : ∀ field ∈ fields, ∀ linked, link find field.2 levels = .ok linked →
      ∃ relinked, link other field.2 levels = .ok relinked)
    {linked : List (String × TypeExpr α)} (h : linkFields find fields levels = .ok linked) :
    ∃ relinked, linkFields other fields levels = .ok relinked := by
  induction fields generalizing linked with
  | nil => exact ⟨[], by rw [linkFields]⟩
  | cons field fields ih =>
      obtain ⟨head, tail⟩ := List.forall_mem_cons.mp each
      rw [linkFields] at h
      obtain ⟨first, isFirst, h⟩ := bind_eq_ok.mp h
      obtain ⟨rest, isRest, -⟩ := bind_eq_ok.mp h
      obtain ⟨first', isFirst'⟩ := head first isFirst
      obtain ⟨rest', isRest'⟩ := ih tail isRest
      rw [linkFields]
      exact ⟨(field.1, first') :: rest', bind_eq_ok.mpr ⟨first', isFirst',
        bind_eq_ok.mpr ⟨rest', isRest', rfl⟩⟩⟩

variable (known : ∀ name, (find name).isSome → (other name).isSome)
include known

/-- Whether a type can be linked depends on which names are known, not on what they stand for. -/
theorem exists_link {type : TypeExpr String} {levels : Nat} {linked : TypeExpr α}
    (h : link find type levels = .ok linked) :
    ∃ relinked, link other type levels = .ok relinked := by
  obtain ⟨levels, rfl⟩ := levels_of_link h
  induction type using TypeExpr.induction generalizing levels linked with
  | reference name =>
      rw [link] at h
      split at h
      · rename_i target found
        obtain ⟨target', found'⟩ :=
          Option.isSome_iff_exists.mp (known name (Option.isSome_iff_exists.mpr ⟨target, found⟩))
        exact ⟨.reference target', by rw [link, found']⟩
      · cases h
  | builtin leaf => exact ⟨.builtin leaf, rfl⟩
  | modified modifier inner ih =>
      obtain ⟨found, isFound, -⟩ := bind_eq_ok.mp h
      obtain ⟨left, rfl⟩ := levels_of_link isFound
      obtain ⟨found', isFound'⟩ := ih left isFound
      exact ⟨.modified modifier found', bind_eq_ok.mpr ⟨found', isFound', rfl⟩⟩
  | enum members => exact ⟨.enum members, rfl⟩
  | struct fields ih =>
      obtain ⟨found, isFound, -⟩ := bind_eq_ok.mp h
      have each : ∀ field ∈ fields, ∀ linked, link find field.2 levels = .ok linked →
          ∃ relinked, link other field.2 levels = .ok relinked := by
        intro field inside linked isLinked
        obtain ⟨left, rfl⟩ := levels_of_link isLinked
        exact ih field inside left isLinked
      obtain ⟨found', isFound'⟩ := exists_linkFields_of_each each isFound
      exact ⟨.struct found', bind_eq_ok.mpr ⟨found', isFound', rfl⟩⟩

theorem exists_linkFields {fields : List (String × TypeExpr String)} {levels : Nat}
    {linked : List (String × TypeExpr α)} (h : linkFields find fields levels = .ok linked) :
    ∃ relinked, linkFields other fields levels = .ok relinked :=
  exists_linkFields_of_each (fun _ _ _ => exists_link known) h

end Find

end TypeExpr

namespace Document

/-- The linked declaration at an index is a struct if the declaration is one. -/
theorem isStruct_of_mapM {find : String → Option Nat} {definitions : List TypeDef}
    {typedefs : List Typedef} (h : definitions.mapM (linkTypedef find) = .ok typedefs)
    (index : Nat) :
    isStruct typedefs index = definitions[index]?.any fun typedef => typedef.body.isStruct := by
  have kinds : typedefs.map (fun typedef => decide (typedef.body.kind = .struct)) =
      definitions.map fun typedef => typedef.body.isStruct := by
    refine map_eq_of_mapM ?_ h
    rintro ⟨name, body⟩ linked isLinked
    cases body with
    | struct fields =>
        obtain ⟨_, -, isLinked⟩ := bind_eq_ok.mp isLinked
        obtain rfl := Except.ok.inj isLinked
        rfl
    | enum members =>
        obtain rfl := Except.ok.inj isLinked
        rfl
    | reference => cases isLinked
    | builtin => cases isLinked
    | modified => cases isLinked
  have same := congrArg (·[index]?.any id) kinds
  simpa [isStruct, List.getElem?_map, Option.any_map, Function.comp_def] using same

section Signatures

variable {find other : String → Option Nat} {typedefs others : List Typedef}
  (known : ∀ name, (find name).isSome → (other name).isSome)
include known

theorem exists_linkTypedef {definition : TypeDef} {linked : Typedef}
    (h : linkTypedef find definition = .ok linked) :
    ∃ relinked, linkTypedef other definition = .ok relinked := by
  obtain ⟨name, body⟩ := definition
  cases body with
  | struct fields =>
      obtain ⟨found, isFound, -⟩ := bind_eq_ok.mp h
      obtain ⟨found', isFound'⟩ := TypeExpr.exists_linkFields known isFound
      exact ⟨⟨name, .struct found'⟩, bind_eq_ok.mpr ⟨found', isFound', rfl⟩⟩
  | enum members => exact ⟨⟨name, .enum members⟩, rfl⟩
  | reference => cases h
  | builtin => cases h
  | modified => cases h

variable (structs : ∀ name index target, find name = some index → other name = some target →
  isStruct typedefs index → isStruct others target)
include structs

theorem exists_linkSignature {site : SignatureSite} {type : TypeExpr String}
    {signature : Signature} (h : linkSignature find typedefs site type = .ok signature) :
    ∃ relinked, linkSignature other others site type = .ok relinked := by
  cases type with
  | struct fields =>
      obtain ⟨found, isFound, -⟩ := bind_eq_ok.mp h
      obtain ⟨found', isFound'⟩ := TypeExpr.exists_linkFields known isFound
      exact ⟨.inline found', bind_eq_ok.mpr ⟨found', isFound', rfl⟩⟩
  | reference name =>
      rw [linkSignature] at h
      split at h
      · cases h
      · rename_i index found
        split_ifs at h with isStruct
        obtain ⟨target, found'⟩ :=
          Option.isSome_iff_exists.mp (known name (Option.isSome_iff_exists.mpr ⟨index, found⟩))
        refine ⟨.declared target, ?_⟩
        rw [linkSignature, found']
        exact if_pos (structs name index target found found' isStruct)
  | builtin => cases h
  | modified => cases h
  | enum => cases h

theorem exists_linkMethod {method : MethodDef} {linked : Method}
    (h : linkMethod find typedefs method = .ok linked) :
    ∃ relinked, linkMethod other others method = .ok relinked := by
  obtain ⟨parameters, isParameters, h⟩ := bind_eq_ok.mp h
  obtain ⟨results, isResults, -⟩ := bind_eq_ok.mp h
  obtain ⟨parameters', isParameters'⟩ := exists_linkSignature known structs isParameters
  obtain ⟨results', isResults'⟩ := exists_linkSignature known structs isResults
  exact ⟨⟨method.name, parameters', results'⟩, bind_eq_ok.mpr ⟨parameters', isParameters',
    bind_eq_ok.mpr ⟨results', isResults', rfl⟩⟩⟩

theorem exists_linkError {error : ErrorDef} {linked : ErrorCase}
    (h : linkError find typedefs error = .ok linked) :
    ∃ relinked, linkError other others error = .ok relinked := by
  obtain ⟨parameters, isParameters, -⟩ := bind_eq_ok.mp h
  obtain ⟨parameters', isParameters'⟩ := exists_linkSignature known structs isParameters
  exact ⟨⟨error.name, parameters'⟩, bind_eq_ok.mpr ⟨parameters', isParameters', rfl⟩⟩

end Signatures

namespace Reordering

variable {document other : Document} (r : document.Reordering other)

theorem reindexed_names : Reindexed r.typedefs (document.typedefs.map (·.name))
    (other.typedefs.map (·.name)) :=
  r.sameTypedefs.map _

/-- A name stands for the declaration it stood for, where this is found. -/
theorem typedefIndex?_eq (distinct : (document.typedefs.map (·.name)).Nodup) {name : String}
    {index : Nat} (found : document.typedefIndex? name = some index) :
    other.typedefIndex? name = some (r.typedefs index) := by
  rw [typedefIndex?_eq_some_iff (r.reindexed_names.nodup distinct), r.reindexed_names]
  exact typedefIndex?_eq_some found

include r in
/-- A document that can be linked can be linked in any order. -/
theorem exists_link {interface : Interface} (links : document.link = .ok interface) :
    ∃ another, other.link = .ok another := by
  obtain ⟨⟨⟩, distinct, links⟩ := bind_eq_ok.mp links
  obtain ⟨typedefs, areTypedefs, links⟩ := bind_eq_ok.mp links
  obtain ⟨methods, areMethods, links⟩ := bind_eq_ok.mp links
  obtain ⟨errors, areErrors, -⟩ := bind_eq_ok.mp links
  have distinct := (checkDistinct_eq_ok.mp distinct).1
  have known : ∀ name, (document.typedefIndex? name).isSome →
      (other.typedefIndex? name).isSome := by
    intro name isKnown
    obtain ⟨index, found⟩ := Option.isSome_iff_exists.mp isKnown
    exact Option.isSome_iff_exists.mpr ⟨_, r.typedefIndex?_eq distinct found⟩
  obtain ⟨typedefs', areTypedefs'⟩ : ∃ results,
      other.typedefs.mapM (linkTypedef other.typedefIndex?) = .ok results := by
    refine exists_mapM.mpr fun typedef inside => ?_
    obtain ⟨linked, isLinked⟩ :=
      exists_mapM.mp ⟨_, areTypedefs⟩ typedef (r.sameTypedefs.mem_iff.mp inside)
    exact exists_linkTypedef known isLinked
  have structs : ∀ name index target, document.typedefIndex? name = some index →
      other.typedefIndex? name = some target → isStruct typedefs index →
        isStruct typedefs' target := by
    intro name index target found found' struct
    obtain rfl := Option.some.inj ((r.typedefIndex?_eq distinct found).symm.trans found')
    rwa [isStruct_of_mapM areTypedefs', r.sameTypedefs, ← isStruct_of_mapM areTypedefs]
  obtain ⟨methods', areMethods'⟩ : ∃ results,
      other.methods.mapM (linkMethod other.typedefIndex? typedefs') = .ok results := by
    refine exists_mapM.mpr fun method inside => ?_
    obtain ⟨linked, isLinked⟩ :=
      exists_mapM.mp ⟨_, areMethods⟩ method (r.sameMethods.mem_iff.mp inside)
    exact exists_linkMethod known structs isLinked
  obtain ⟨errors', areErrors'⟩ : ∃ results,
      other.errors.mapM (linkError other.typedefIndex? typedefs') = .ok results := by
    refine exists_mapM.mpr fun error inside => ?_
    obtain ⟨linked, isLinked⟩ :=
      exists_mapM.mp ⟨_, areErrors⟩ error (r.sameErrors.mem_iff.mp inside)
    exact exists_linkError known structs isLinked
  refine ⟨⟨other.name, typedefs', methods', errors'⟩, bind_eq_ok.mpr ⟨(), ?_, ?_⟩⟩
  · exact checkDistinct_eq_ok.mpr ⟨r.reindexed_names.nodup distinct, fun _ _ => List.not_mem_nil⟩
  · exact bind_eq_ok.mpr ⟨_, areTypedefs', bind_eq_ok.mpr ⟨_, areMethods',
      bind_eq_ok.mpr ⟨_, areErrors', rfl⟩⟩⟩

end Reordering

end Document

section Names

variable {one another : Interface} (r : one.document.Reordering another.document)

/-- The groups in place are found in the places they are moved to. -/
theorem Document.Reordering.perm_inlineGroups :
    another.document.inlineGroups.Perm (one.document.inlineGroups.map r.place) := by
  have nodup := (one.nodup_inner.filter one.document.hasGroup).map r.place_injective
  refine (List.perm_ext_iff_of_nodup (another.nodup_inner.filter _) nodup).mpr fun target => ?_
  obtain ⟨source, rfl⟩ := r.exists_place target
  rw [List.mem_map_of_injective r.place_injective]
  refine mem_inlineGroups_iff.trans (Iff.trans ?_ mem_inlineGroups_iff.symm)
  rw [r.hasGroup_place, r.length_typedefs, ← Nat.not_lt, ← Nat.not_lt]
  exact and_congr_right' (or_congr_right (not_congr (r.root_lt_iff source.root)))

variable (linked : one.Linked) (relinked : another.Linked)
include r linked relinked

/-- The declarations have the same names. -/
theorem Document.Reordering.perm_names :
    (another.declarations.map (·.name)).Perm (one.declarations.map (·.name)) := by
  have distinct : (one.document.typedefs.map (·.name)).Nodup := by
    rw [Interface.names_document]
    exact linked.distinct
  have declared : (another.document.typedefs.map (·.name)).Perm
      (one.document.typedefs.map (·.name)) :=
    (List.perm_ext_iff_of_nodup (r.reindexed_names.nodup distinct) distinct).mpr
      fun _ => r.reindexed_names.mem_iff
  have kept : (one.document.inlineGroups.map r.place).map another.document.pathName =
      one.document.inlineGroups.map one.document.pathName := by
    rw [List.map_map]
    exact List.map_congr_left fun source _ => r.pathName_place source
  have inPlace : (another.document.inlineGroups.map another.document.pathName).Perm
      (one.document.inlineGroups.map one.document.pathName) :=
    (r.perm_inlineGroups.map _).trans (.of_eq kept)
  have given : (another.document.givenNames another.document.inlineGroups).Perm
      (one.document.givenNames one.document.inlineGroups) :=
    declared.append inPlace
  exact ((Document.perm_givenNames relinked).trans given).trans
    (Document.perm_givenNames linked).symm

end Names

/-- A document that resolves does so in any order. -/
theorem Document.Reordering.exists_resolve {document other : Document}
    (r : document.Reordering other) {one : Interface}
    (resolved : document.resolve.outcome = .ok one) :
    ∃ another, other.resolve.outcome = .ok another := by
  have links := (outcome_resolve_eq_ok.mp resolved).1
  obtain ⟨another, relinks⟩ := r.exists_link links
  have distinct := nodup_names_of_resolve resolved
  obtain ⟨rfl, linked⟩ := link_eq_ok links
  obtain ⟨rfl, relinked⟩ := link_eq_ok relinks
  refine ⟨another, (outcome_resolve_eq_ok_iff_nodup relinks).mpr ?_⟩
  exact (r.perm_names linked relinked).nodup_iff.mpr distinct

end Varlink
