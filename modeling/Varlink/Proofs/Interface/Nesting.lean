import Varlink.Proofs.Document.Printing
import Varlink.Proofs.Document.Recognition
import Varlink.Proofs.Interface.Failures

/-!
# Linking what was read

Reading and linking both limit how deeply groups and modifiers are nested, and each counts in its own
way: the reader opens a level at every group and every modifier, while the linker needs a level for
every type, also for one that opens none, and none for the body of a declaration. What is read keeps
to the limit in the depth of its types, and this depth is all that linking asks for. So a text that
was read is not turned down for its depth a second time. And of all the ways in which a signature can
be no struct only one is left, since the reader sees whatever can be told without the declarations.
-/

namespace Varlink

namespace Document

open Grammar

/-- The types of methods and errors with the places that take them. -/
def signatureSites (document : Document) : List (SignatureSite × TypeExpr String) :=
  document.methods.flatMap (fun method =>
    [(.methodParameters method.name, method.parameters),
      (.methodResults method.name, method.results)]) ++
    document.errors.map fun error => (.errorParameters error.name, error.parameters)

/-- What reading has checked about a document. -/
structure Readable (document : Document) : Prop where
  shallow : ∀ root ∈ document.roots, root.depth ≤ maxNesting
  signatures : ∀ signature ∈ document.signatureSites,
    (∃ fields, signature.2 = .struct fields) ∨ ∃ name, signature.2 = .reference name

variable {document : Document}

theorem signatureTypes_eq (document : Document) :
    document.signatureTypes = document.signatureSites.map (·.2) := by
  simp [signatureTypes, signatureSites, List.map_flatMap, Function.comp_def]

/-- What holds of all signatures is said of methods and errors. -/
theorem forall_mem_signatureSites {P : SignatureSite × TypeExpr String → Prop} :
    (∀ signature ∈ document.signatureSites, P signature) ↔
      (∀ method ∈ document.methods, P (.methodParameters method.name, method.parameters) ∧
        P (.methodResults method.name, method.results)) ∧
      ∀ error ∈ document.errors, P (.errorParameters error.name, error.parameters) := by
  rw [signatureSites, List.forall_mem_append, List.forall_mem_map, List.forall_mem_flatMap]
  simp only [List.forall_mem_cons, List.not_mem_nil, false_imp_iff, implies_true, and_true]

/-- What is derived as a signature keeps to the limit, and it is a struct or a name. -/
theorem checked_of_isSignature {words : List Lexeme} {type : TypeExpr String}
    (derived : IsSignature words type) : type.depth ≤ maxNesting ∧
      ((∃ fields, type = .struct fields) ∨ ∃ name, type = .reference name) := by
  cases derived with
  | struct body => exact ⟨body.depth_le, .inl ⟨_, rfl⟩⟩
  | reference body => exact ⟨body.depth_le, .inr ⟨_, rfl⟩⟩

/-- Every member of a document was derived as one. -/
theorem exists_isMember {words : List Lexeme} (derived : IsDocument words document)
    (spelled : ∀ lexeme ∈ words, lexeme.Spelled) :
    ∀ member ∈ document.members, ∃ words, IsMember words member := by
  cases derived with
  | intro name derived =>
      have spelled := (List.forall_mem_cons.mp (List.forall_mem_cons.mp spelled).2).2
      intro member inside
      obtain ⟨words, derived, -⟩ :=
        derived.derived_of_mem spelled member (mem_of_mem_members inside)
      exact ⟨words, derived⟩

/-- What the grammar derives is readable. -/
theorem readable_of_isDocument {words : List Lexeme} (derived : IsDocument words document)
    (spelled : ∀ lexeme ∈ words, lexeme.Spelled) : document.Readable := by
  have each := exists_isMember derived spelled
  rw [members, List.forall_mem_append, List.forall_mem_append, List.forall_mem_map,
    List.forall_mem_map, List.forall_mem_map] at each
  obtain ⟨⟨typedefs, errors⟩, methods⟩ := each
  have bodies : ∀ body ∈ document.typedefs.map (·.body), body.depth ≤ maxNesting := by
    refine List.forall_mem_map.mpr fun typedef inside => ?_
    obtain ⟨_, derived⟩ := typedefs typedef inside
    cases derived with
    | typedef _ derived => exact derived.depth_le
  have signatures : ∀ signature ∈ document.signatureSites, signature.2.depth ≤ maxNesting ∧
      ((∃ fields, signature.2 = .struct fields) ∨ ∃ name, signature.2 = .reference name) := by
    refine forall_mem_signatureSites.mpr ⟨fun method inside => ?_, fun error inside => ?_⟩
    · obtain ⟨_, derived⟩ := methods method inside
      cases derived with
      | method _ first second =>
          exact ⟨checked_of_isSignature first, checked_of_isSignature second⟩
    · obtain ⟨_, derived⟩ := errors error inside
      cases derived with
      | error _ derived => exact checked_of_isSignature derived
  constructor
  · rw [roots, signatureTypes_eq]
    refine List.forall_mem_append.mpr ⟨bodies, List.forall_mem_map.mpr ?_⟩
    exact fun signature inside => (signatures signature inside).1
  · exact fun signature inside => (signatures signature inside).2

theorem readable_of_parse {source : String} (parsed : (parse source).outcome = .ok document) :
    document.Readable :=
  readable_of_isDocument (outcome_parse_eq_ok_iff.mp parsed)
    fun _ => Lexeme.spelled_of_mem_significant

/-- What is wrong with the signatures, in their order. -/
theorem failures_eq (document : Document) : document.failures =
    (repeated document.declaredNames).map .duplicateTypedef ++
      (document.typedefs.flatMap (bodyFailures document.declaredNames) ++
        document.signatureSites.flatMap fun (site, type) =>
          document.signatureFailures site type) := by
  rw [failures, signatureSites, List.flatMap_append, List.flatMap_assoc, List.flatMap_map,
    List.append_assoc, List.append_assoc]
  simp only [List.flatMap_cons, List.flatMap_nil, List.append_nil]
  rfl

/-- What can be wrong with a document that was read, before its groups are named. -/
inductive Fails (document : Document) : ResolveError → Prop
  | duplicate (name : String) : Fails document (.duplicateTypedef name)
  | invalid (name : String) : Fails document (.invalidTypedef name)
  | unresolved (name : String) : Fails document (.unresolvedReference name)
  | noStruct {name : String} {site : SignatureSite}
      (isSignature : (site, .reference name) ∈ document.signatureSites)
      (isEnum : document.declaresEnum name) : Fails document (.expectedStruct name site)

theorem fails_of_mem_undeclared {declared references : List String} {error : ResolveError}
    (inside : error ∈ undeclared declared references) : document.Fails error := by
  obtain ⟨name, -, rfl⟩ := List.mem_map.mp inside
  exact .unresolved name

/-- What is reported is on the list, unless a name collides. -/
theorem mem_failures_of_fits (fits : document.Fits) {error : ResolveError}
    (failed : document.resolve.outcome = .error error) :
    (∃ name, error = .nameCollision name) ∨
      ∃ others, document.failures = error :: others := by
  have linking := reports_document_link_of_fits fits
  cases wrong : document.failures with
  | nil =>
      rw [wrong] at linking
      obtain ⟨interface, links⟩ := linking
      obtain ⟨places, -, outcome⟩ := outcome_resolve_of_link links
      rw [failed] at outcome
      split at outcome
      · exact .inl ⟨_, Except.error.inj outcome⟩
      · cases outcome
  | cons first others =>
      rw [wrong] at linking
      have links : document.link = .error first := linking
      rw [resolve, Logged.outcome_bind, Logged.outcome_ofExcept, links] at failed
      obtain rfl : first = error := Except.error.inj failed
      exact .inr ⟨others, rfl⟩

section Failures

variable (readable : document.Readable)
include readable

/-- A signature that was read is a struct or a name, so it is wrong only in a reference. -/
theorem fails_of_mem_failures {error : ResolveError} (inside : error ∈ document.failures) :
    document.Fails error := by
  rw [failures_eq] at inside
  rcases List.mem_append.mp inside with isRepeated | inside
  · obtain ⟨name, -, rfl⟩ := List.mem_map.mp isRepeated
    exact .duplicate name
  rcases List.mem_append.mp inside with inBody | inSignature
  · obtain ⟨typedef, -, inBody⟩ := List.mem_flatMap.mp inBody
    rw [bodyFailures] at inBody
    split_ifs at inBody
    · exact fails_of_mem_undeclared inBody
    · obtain rfl := List.mem_singleton.mp inBody
      exact .invalid typedef.name
  · obtain ⟨⟨site, type⟩, isSignature, wrong⟩ := List.mem_flatMap.mp inSignature
    rcases readable.signatures _ isSignature with ⟨fields, rfl⟩ | ⟨name, rfl⟩
    · exact fails_of_mem_undeclared wrong
    · rcases List.mem_append.mp wrong with unknown | isEnum
      · exact fails_of_mem_undeclared unknown
      · split_ifs at isEnum with declared
        · obtain rfl := List.mem_singleton.mp isEnum
          exact .noStruct isSignature declared
        · cases isEnum

theorem mem_failures_of_resolve {error : ResolveError}
    (failed : document.resolve.outcome = .error error) :
    (∃ name, error = .nameCollision name) ∨
      ∃ others, document.failures = error :: others :=
  mem_failures_of_fits (fits_of_shallow readable.shallow) failed

end Failures

/-- What is wrong first is a name that is declared again, if there is one. -/
theorem nodup_of_failures {name : String} {site : SignatureSite} {others : List ResolveError}
    (wrong : document.failures = .expectedStruct name site :: others) :
    document.declaredNames.Nodup := by
  rw [failures_eq] at wrong
  cases again : repeated document.declaredNames with
  | nil => exact repeated_eq_nil_iff.mp again
  | cons other names =>
      rw [again] at wrong
      cases (List.cons.inj wrong).1

/-- Under distinct names, an enum is declared under a name if the name leads to one. -/
theorem exists_enum_of_declaresEnum (distinct : document.declaredNames.Nodup) {name : String}
    (isEnum : document.declaresEnum name) : ∃ index members,
      document.typedefIndex? name = some index ∧
        document.typedefs[index]? = some ⟨name, .enum members⟩ := by
  obtain ⟨⟨other, body⟩, inside, both⟩ := List.any_eq_true.mp isEnum
  obtain ⟨sameName, bodyIsEnum⟩ := Bool.and_eq_true_iff.mp both
  obtain rfl : other = name := of_decide_eq_true sameName
  obtain ⟨index, found⟩ := List.mem_iff_getElem?.mp inside
  have isName : (document.typedefs.map (·.name))[index]? = some other := by
    rw [List.getElem?_map, found, Option.map_some]
  cases body with
  | enum members => exact ⟨index, members, (typedefIndex?_eq_some_iff distinct).mpr isName, found⟩
  | _ => cases bodyIsEnum

/-- A document that was read is not nested too deeply for linking, and if what a method or error takes
or gives is no struct, then it is written as a name, and this name leads to an enum. -/
theorem resolve_of_parse {source : String} (parsed : (parse source).outcome = .ok document) :
    document.resolve.outcome ≠ .error .nestingTooDeep ∧
      ∀ name site, document.resolve.outcome = .error (.expectedStruct name site) →
        (site, .reference name) ∈ document.signatureSites ∧
          ∃ index members, document.typedefIndex? name = some index ∧
            document.typedefs[index]? = some ⟨name, .enum members⟩ := by
  have readable := readable_of_parse parsed
  constructor
  · intro failed
    rcases mem_failures_of_resolve readable failed with ⟨_, same⟩ | ⟨others, wrong⟩
    · cases same
    · have fails := fails_of_mem_failures readable (wrong ▸ List.mem_cons_self)
      cases fails
  · intro name site failed
    rcases mem_failures_of_resolve readable failed with ⟨_, same⟩ | ⟨others, wrong⟩
    · cases same
    · have fails := fails_of_mem_failures readable (wrong ▸ List.mem_cons_self)
      cases fails with
      | noStruct isSignature isEnum =>
          exact ⟨isSignature, exists_enum_of_declaresEnum (nodup_of_failures wrong) isEnum⟩

/-- Parameters that take the place of a struct and are an enum, in a document with a type that refers
to itself below a run of modifiers. -/
theorem resolve_of_parse_enum : ∃ document,
    (parse "interface a\ntype T (next: []?[string]T, kind: E)\ntype E (on, off)\nmethod M T -> E"
      ).outcome = .ok document ∧
    document.resolve.outcome = .error (.expectedStruct "E" (.methodResults "M")) ∧
    (.methodResults "M", .reference "E") ∈ document.signatureSites ∧
    ∃ index members, document.typedefIndex? "E" = some index ∧
      document.typedefs[index]? = some ⟨"E", .enum members⟩ := by
  have parsed : (parse
      "interface a\ntype T (next: []?[string]T, kind: E)\ntype E (on, off)\nmethod M T -> E"
      ).outcome = .ok ⟨"a", [⟨"M", .reference "T", .reference "E"⟩],
        [⟨"T", .struct [("next", .modified .array (.modified .maybe
            (.modified .dictionary (.reference "T")))), ("kind", .reference "E")]⟩,
          ⟨"E", .enum ["on", "off"]⟩], []⟩ := by
    cbv
  have failed : (resolve ⟨"a", [⟨"M", .reference "T", .reference "E"⟩],
        [⟨"T", .struct [("next", .modified .array (.modified .maybe
            (.modified .dictionary (.reference "T")))), ("kind", .reference "E")]⟩,
          ⟨"E", .enum ["on", "off"]⟩], []⟩).outcome =
      .error (.expectedStruct "E" (.methodResults "M")) := by
    cbv
  exact ⟨_, parsed, failed, (resolve_of_parse parsed).2 _ _ failed⟩

end Document

end Varlink
