import Varlink.Proofs.Document.Depth
import Varlink.Proofs.Interface.Nesting
import Varlink.Proofs.Interface.RoundTrip

/-!
# The limit of nesting for linking

Linking has a limit for how deeply types are nested, as reading has, and the limits are not the
same. A document keeps to that of linking if it fits. If it does, it is never turned down for its
depth, and what was resolved did fit. All that can be read fits, but what fits can be deeper than
what can be read: by one level in a signature and by two in a declaration. The text of the interface
for such a document is rejected for its depth, though the names in it can be written.
-/

namespace Varlink

namespace Document

open Lexeme

variable {document : Document}

theorem nestingTooDeep_not_mem_undeclared (declared references : List String) :
    .nestingTooDeep ∉ undeclared declared references := by
  intro inside
  obtain ⟨name, -, same⟩ := List.mem_map.mp inside
  cases same

/-- Depth is not among the things that can be wrong with a document that fits. -/
theorem nestingTooDeep_not_mem_failures : .nestingTooDeep ∉ document.failures := by
  rw [failures_eq]
  simp only [List.mem_append, List.mem_map, List.mem_flatMap, not_or]
  refine ⟨?_, ?_, ?_⟩
  · rintro ⟨name, -, same⟩
    cases same
  · rintro ⟨typedef, -, inside⟩
    rw [bodyFailures] at inside
    split_ifs at inside
    · exact nestingTooDeep_not_mem_undeclared _ _ inside
    · cases List.mem_singleton.mp inside
  · rintro ⟨⟨site, type⟩, -, inside⟩
    cases type with
    | struct fields => exact nestingTooDeep_not_mem_undeclared _ _ inside
    | reference name =>
        rcases List.mem_append.mp inside with unknown | isEnum
        · exact nestingTooDeep_not_mem_undeclared _ _ unknown
        · split_ifs at isEnum
          · cases List.mem_singleton.mp isEnum
          · cases isEnum
    | builtin => cases List.mem_singleton.mp inside
    | modified => cases List.mem_singleton.mp inside
    | enum => cases List.mem_singleton.mp inside

/-- The types of the members are those that stand on their own. -/
theorem mem_roots_iff {type : TypeExpr String} :
    type ∈ document.roots ↔ ∃ member ∈ document.members, type ∈ member.types := by
  constructor
  · intro inside
    rcases List.mem_append.mp inside with isBody | inside
    · obtain ⟨typedef, isTypedef, rfl⟩ := List.mem_map.mp isBody
      refine ⟨.typedef typedef, ?_, List.mem_cons_self⟩
      exact List.mem_append_left _ (List.mem_append_left _ (List.mem_map_of_mem isTypedef))
    · rcases List.mem_append.mp inside with inMethod | inError
      · obtain ⟨method, isMethod, isType⟩ := List.mem_flatMap.mp inMethod
        exact ⟨.method method, List.mem_append_right _ (List.mem_map_of_mem isMethod), isType⟩
      · obtain ⟨error, isError, rfl⟩ := List.mem_map.mp inError
        refine ⟨.error error, ?_, List.mem_cons_self⟩
        exact List.mem_append_left _ (List.mem_append_right _ (List.mem_map_of_mem isError))
  · rintro ⟨member, isMember, isType⟩
    rcases List.mem_append.mp isMember with isMember | isMethod
    · rcases List.mem_append.mp isMember with isTypedef | isError
      · obtain ⟨typedef, inside, rfl⟩ := List.mem_map.mp isTypedef
        obtain rfl := List.mem_singleton.mp isType
        exact List.mem_append_left _ (List.mem_map_of_mem inside)
      · obtain ⟨error, inside, rfl⟩ := List.mem_map.mp isError
        obtain rfl := List.mem_singleton.mp isType
        exact List.mem_append_right _ (List.mem_append_right _ (List.mem_map_of_mem inside))
    · obtain ⟨method, inside, rfl⟩ := List.mem_map.mp isMethod
      refine List.mem_append_right _ (List.mem_append_left _ ?_)
      exact List.mem_flatMap.mpr ⟨method, inside, isType⟩

end Document

namespace Interface

variable {interface : Interface}

theorem isSignature_rename (nameOf : Nat → String) (signature : Signature) :
    (signature.toType.rename nameOf).IsSignature := by
  cases signature with
  | inline fields => exact .inl ⟨_, rfl⟩
  | declared index => exact .inr ⟨_, rfl⟩

/-- The members of an interface take and give what the grammar asks for. -/
theorem isSignature_of_mem_document : ∀ member ∈ interface.document.members,
    ∀ type ∈ member.signatures, type.IsSignature := by
  rw [Document.members, List.forall_mem_append, List.forall_mem_append]
  refine ⟨⟨?_, ?_⟩, ?_⟩
  · refine List.forall_mem_map.mpr fun typedef _ type inside => ?_
    cases inside
  · refine List.forall_mem_map.mpr (List.forall_mem_map.mpr fun error _ type inside => ?_)
    obtain rfl := List.mem_singleton.mp inside
    exact isSignature_rename _ _
  · refine List.forall_mem_map.mpr (List.forall_mem_map.mpr fun method _ type inside => ?_)
    rcases List.mem_cons.mp inside with rfl | inside
    · exact isSignature_rename _ _
    · obtain rfl := List.mem_singleton.mp inside
      exact isSignature_rename _ _

end Interface

namespace Document

open Lexeme

variable {document : Document} {interface : Interface}

section Linked

variable (links : document.link = .ok interface) (writable : document.Writable)
include links writable

theorem parse_print_of_shallow (shallow : ∀ root ∈ document.roots, root.depth ≤ maxNesting) :
    (parse interface.print).outcome = .ok document := by
  obtain ⟨rfl, -⟩ := link_eq_ok links
  rw [Interface.print_eq_text]
  refine (parse_text writable Interface.isSignature_of_mem_document).1 ?_
  intro member isMember type isType
  exact shallow type (mem_roots_iff.mpr ⟨member, isMember, isType⟩)

theorem parse_print_of_deep (deep : ∃ root ∈ document.roots, maxNesting < root.depth) :
    ∃ location, (parse interface.print).outcome = .error ⟨.nestingTooDeep, location⟩ := by
  obtain ⟨rfl, -⟩ := link_eq_ok links
  rw [Interface.print_eq_text]
  refine (parse_text writable Interface.isSignature_of_mem_document).2 ?_
  obtain ⟨root, isRoot, deep⟩ := deep
  obtain ⟨member, isMember, isType⟩ := mem_roots_iff.mp isRoot
  exact ⟨member, isMember, root, isType, deep⟩

end Linked

/-- What linking limits. A document that fits is not turned down for its depth, and one that
resolved did fit; so declarations are nested at most two levels deeper than what can be read, and
signatures one level. Where the names can be written, the text of the interface is rejected for its
depth if a type is too deep for reading, and otherwise it is read as the interface again. -/
theorem resolve_nesting_limit (document : Document) :
    (document.Fits → document.resolve.outcome ≠ .error .nestingTooDeep) ∧
    ∀ interface, document.resolve.outcome = .ok interface →
      document.Fits ∧
      ((∀ typedef ∈ document.typedefs, typedef.body.depth ≤ maxNesting + 2) ∧
        ∀ type ∈ document.signatureTypes, type.depth ≤ maxNesting + 1) ∧
      (document.Writable →
        ((∀ root ∈ document.roots, root.depth ≤ maxNesting) →
          (Interface.parse interface.print).outcome = .ok interface) ∧
        ((∃ root ∈ document.roots, maxNesting < root.depth) → ∃ location,
          (Document.parse interface.print).outcome = .error ⟨.nestingTooDeep, location⟩)) := by
  constructor
  · intro fits failed
    rcases mem_failures_of_fits fits failed with ⟨_, same⟩ | ⟨others, wrong⟩
    · cases same
    · have inside : .nestingTooDeep ∈ document.failures := wrong ▸ List.mem_cons_self
      exact nestingTooDeep_not_mem_failures inside
  · intro interface resolved
    have links := (outcome_resolve_eq_ok.mp resolved).1
    have fits := fits_of_link links
    refine ⟨fits, fits.depth_le, fun writable => ⟨fun shallow => ?_, ?_⟩⟩
    · have again := parse_print_of_shallow links writable shallow
      exact Interface.outcome_parse_eq_ok.mpr ⟨document, again, resolved⟩
    · exact parse_print_of_deep links writable

/-- A type that refers to itself below a modifier is not too deep. -/
theorem resolve_nesting_limit_of_recursive_type :
    let document : Document :=
      ⟨"a", [], [⟨"T", .struct [("x", .modified .maybe (.reference "T"))]⟩], []⟩
    ∃ interface, document.resolve.outcome = .ok interface ∧ document.Writable ∧ document.Fits ∧
      (∀ root ∈ document.roots, root.depth ≤ maxNesting) ∧
      (Interface.parse interface.print).outcome = .ok interface := by
  intro document
  have resolved : document.resolve.outcome = .ok ⟨"a", [⟨"T", .struct
      [("x", .modified .maybe (.reference 0))]⟩], [], []⟩ := by
    cbv
  have nameOfInterface : IsWord "a".toList := isWord_of_all (by decide) (by decide)
  have nameOfType : IsWord "T".toList := isWord_of_all (by decide) (by decide)
  have nameOfField : IsWord "x".toList := isWord_of_all (by decide) (by decide)
  have reference : (TypeExpr.reference "T").Writable := by
    refine .reference nameOfType ?_ ?_
    · intro modifier
      cases modifier <;> decide
    · intro leaf
      cases leaf <;> decide
  have writable : document.Writable := by
    refine ⟨nameOfInterface, List.forall_mem_singleton.mpr ⟨nameOfType, ?_⟩⟩
    refine .struct (List.forall_mem_singleton.mpr nameOfField) ?_
    exact List.forall_mem_singleton.mpr (.modified .maybe reference)
  have shallow : ∀ root ∈ document.roots, root.depth ≤ maxNesting := by decide
  obtain ⟨fits, -, reading⟩ := (resolve_nesting_limit document).2 _ resolved
  exact ⟨_, resolved, writable, fits, shallow, (reading writable).1 shallow⟩

set_option maxRecDepth 20000 in
/-- As many modifiers as may be nested, in a struct, are one level too many for reading. -/
theorem resolve_of_too_deep :
    let document : Document := ⟨"a", [], [⟨"T", .struct
      [("x", .applied (List.replicate maxNesting .maybe) (.builtin .int))]⟩], []⟩
    ∃ interface, document.resolve.outcome = .ok interface ∧
      (∃ root ∈ document.roots, root.depth = maxNesting + 1) ∧ ∃ location,
      (Document.parse interface.print).outcome = .error ⟨.nestingTooDeep, location⟩ := by
  intro document
  have resolved : document.resolve.outcome = .ok ⟨"a", [⟨"T", .struct
      [("x", .applied (List.replicate maxNesting .maybe) (.builtin .int))]⟩], [], []⟩ := by
    cbv
  have depth : (TypeExpr.struct [("x", .applied (List.replicate maxNesting .maybe)
      (.builtin .int))] : TypeExpr String).depth = maxNesting + 1 := by
    rw [TypeExpr.depth, TypeExpr.fieldsDepth, TypeExpr.fieldsDepth, TypeExpr.applied_depth,
      List.length_replicate]
    rfl
  have nameOfInterface : IsWord "a".toList := isWord_of_all (by decide) (by decide)
  have nameOfType : IsWord "T".toList := isWord_of_all (by decide) (by decide)
  have nameOfField : IsWord "x".toList := isWord_of_all (by decide) (by decide)
  have writable : document.Writable := by
    refine ⟨nameOfInterface, List.forall_mem_singleton.mpr ⟨nameOfType, ?_⟩⟩
    refine .struct (List.forall_mem_singleton.mpr nameOfField) ?_
    exact List.forall_mem_singleton.mpr (TypeExpr.writable_applied _ (.builtin .int))
  have isRoot : TypeExpr.struct [("x", .applied (List.replicate maxNesting .maybe)
      (.builtin .int))] ∈ document.roots := List.mem_cons_self
  have links := (outcome_resolve_eq_ok.mp resolved).1
  refine ⟨_, resolved, ⟨_, isRoot, depth⟩, parse_print_of_deep links writable ⟨_, isRoot, ?_⟩⟩
  rw [depth]
  exact Nat.lt_succ_self _

end Document

end Varlink
