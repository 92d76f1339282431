import Varlink.Interface.Source
import Varlink.Proofs.TypeExpr

/-!
# What linking leaves as it was

An interface has the same members as the document it was linked from, in the same order and with
the same types, only that references are numbers. With the declared names put back, the interface is
that document again. What linking adds is that every number is that of a declaration, that no two
declarations share a name and that signatures stand for structs.
-/

namespace Varlink

/-- The declaration with names for its references. -/
def Typedef.definition (nameOf : Nat → String) (typedef : Typedef) : TypeDef :=
  ⟨typedef.name, typedef.body.toType.rename nameOf⟩

/-- The method with names for its references. -/
def Method.definition (nameOf : Nat → String) (method : Method) : MethodDef :=
  ⟨method.name, method.parameters.toType.rename nameOf, method.results.toType.rename nameOf⟩

/-- The error with names for its references. -/
def ErrorCase.definition (nameOf : Nat → String) (error : ErrorCase) : ErrorDef :=
  ⟨error.name, error.parameters.toType.rename nameOf⟩

namespace Interface

/-- The document an interface was linked from. -/
def document (interface : Interface) : Document where
  name := interface.name
  methods := interface.methods.map (·.definition interface.typedefName)
  typedefs := interface.typedefs.map (·.definition interface.typedefName)
  errors := interface.errors.map (·.definition interface.typedefName)

/-- What linking has checked about an interface. -/
structure Linked (interface : Interface) : Prop where
  distinct : (interface.typedefs.map (·.name)).Nodup
  bodies : ∀ typedef ∈ interface.typedefs, ∀ index ∈ typedef.body.toType.references,
    index < interface.typedefs.length
  signatures : ∀ signature ∈ interface.signatures, ∀ index ∈ signature.2.toType.references,
    index < interface.typedefs.length
  structs : ∀ signature ∈ interface.signatures, ∀ index, signature.2 = .declared index →
    Document.isStruct interface.typedefs index

/-- What holds of all signatures is said of methods and errors. -/
theorem forall_mem_signatures {interface : Interface} {P : String × Signature → Prop} :
    (∀ signature ∈ interface.signatures, P signature) ↔
      (∀ method ∈ interface.methods, P (method.name ++ "Args", method.parameters) ∧
        P (method.name ++ "Result", method.results)) ∧
      ∀ error ∈ interface.errors, P (error.name ++ "Args", error.parameters) := by
  rw [signatures, List.forall_mem_append, List.forall_mem_map, List.forall_mem_flatMap]
  simp only [List.forall_mem_cons, List.not_mem_nil, false_imp_iff, implies_true, and_true]

theorem typedefName_eq (interface : Interface) (index : Nat) :
    interface.typedefName index = ((interface.typedefs.map (·.name))[index]?).getD "" := by
  rw [typedefName, List.getElem?_map]
  cases interface.typedefs[index]? <;> rfl

end Interface

/-- Distinct names none of which was seen, with a new name added to what was seen or to the
names. -/
theorem distinct_cons_iff {name : String} {names seen : List String} (new : name ∉ seen) :
    (names.Nodup ∧ ∀ other ∈ names, other ∉ name :: seen) ↔
      (name :: names).Nodup ∧ ∀ other ∈ name :: names, other ∉ seen := by
  rw [List.nodup_cons, List.forall_mem_cons]
  constructor
  · rintro ⟨nodup, unseen⟩
    refine ⟨⟨?_, nodup⟩, new, ?_⟩
    · intro twice
      exact unseen name twice (List.mem_cons_self ..)
    · intro other inside old
      exact unseen other inside (List.mem_cons_of_mem _ old)
  · rintro ⟨⟨once, nodup⟩, -, unseen⟩
    refine ⟨nodup, ?_⟩
    intro other inside old
    rcases List.mem_cons.mp old with rfl | old
    · exact once inside
    · exact unseen other inside old

namespace Document

/-- The names are checked from left to right against those before them. -/
theorem checkDistinct_eq_ok {seen names : List String} :
    checkDistinct seen names = .ok () ↔ names.Nodup ∧ ∀ name ∈ names, name ∉ seen := by
  induction names generalizing seen with
  | nil => simp [checkDistinct]
  | cons name names ih =>
      rw [checkDistinct]
      by_cases known : name ∈ seen
      · simp [known]
      · rw [if_neg known, ih, distinct_cons_iff known]

/-- Looking a name up gives the declaration of that name. -/
theorem typedefIndex?_eq_some {document : Document} {name : String} {index : Nat}
    (h : document.typedefIndex? name = some index) :
    (document.typedefs.map (·.name))[index]? = some name := by
  obtain ⟨bound, same, -⟩ := List.findIdx?_eq_some_iff_getElem.mp h
  rw [List.getElem?_map, List.getElem?_eq_getElem bound]
  simpa using same

/-- Under distinct names, a declaration is found under its name. -/
theorem typedefIndex?_eq_some_iff {document : Document}
    (distinct : (document.typedefs.map (·.name)).Nodup) {name : String} {index : Nat} :
    document.typedefIndex? name = some index ↔
      (document.typedefs.map (·.name))[index]? = some name := by
  refine ⟨typedefIndex?_eq_some, ?_⟩
  intro isName
  have isFound : (document.typedefIndex? name).isSome := by
    rw [typedefIndex?, List.findIdx?_isSome, List.any_eq_true]
    obtain ⟨typedef, inside, same⟩ := List.mem_map.mp (List.mem_of_getElem? isName)
    exact ⟨typedef, inside, decide_eq_true same⟩
  obtain ⟨other, found⟩ := Option.isSome_iff_exists.mp isFound
  have bound := (List.getElem?_eq_some_iff.mp isName).1
  have same := isName.trans (typedefIndex?_eq_some found).symm
  rw [found, (List.getElem?_inj bound distinct).mp same]

section Steps

open TypeExpr

variable {find : String → Option Nat} {nameOf : Nat → String} {typedefs : List Typedef}

theorem linkTypedef_name {typedef : TypeDef} {linked : Typedef}
    (h : linkTypedef find typedef = .ok linked) : linked.name = typedef.name := by
  unfold linkTypedef at h
  split at h
  · obtain ⟨fields, -, h⟩ := bind_eq_ok.mp h
    obtain rfl := Except.ok.inj h
    rfl
  · obtain rfl := Except.ok.inj h
    rfl
  · cases h

/-- A signature stands for a struct, and its references are what was found. -/
structure Checked (find : String → Option Nat) (nameOf : Nat → String) (typedefs : List Typedef)
    (signature : Signature) : Prop where
  found : ∀ index ∈ signature.toType.references, find (nameOf index) = some index
  struct : ∀ index, signature = .declared index → isStruct typedefs index

variable (names : ∀ name index, find name = some index → nameOf index = name)
include names

theorem links_of_linkTypedef {typedef : TypeDef} {linked : Typedef}
    (h : linkTypedef find typedef = .ok linked) :
    Links find nameOf typedef.body linked.body.toType := by
  obtain ⟨name, body⟩ := typedef
  cases body with
  | struct fields =>
      obtain ⟨linkedFields, fieldsLinked, h⟩ := bind_eq_ok.mp h
      obtain rfl := Except.ok.inj h
      exact (LinksFields.of_linkFields names fieldsLinked).struct
  | enum members =>
      obtain rfl := Except.ok.inj h
      exact .closed rfl rfl
  | reference => cases h
  | builtin => cases h
  | modified => cases h

theorem definition_of_linkTypedef {typedef : TypeDef} {linked : Typedef}
    (h : linkTypedef find typedef = .ok linked) : linked.definition nameOf = typedef := by
  rw [Typedef.definition, linkTypedef_name h, (links_of_linkTypedef names h).written]

theorem links_of_linkSignature {site : SignatureSite} {type : TypeExpr String}
    {signature : Signature} (h : linkSignature find typedefs site type = .ok signature) :
    signature.toType.rename nameOf = type ∧ Checked find nameOf typedefs signature := by
  cases type with
  | struct fields =>
      obtain ⟨linkedFields, fieldsLinked, h⟩ := bind_eq_ok.mp h
      obtain rfl := Except.ok.inj h
      have inner := (LinksFields.of_linkFields names fieldsLinked).struct
      exact ⟨inner.written, inner.found, fun _ same => nomatch same⟩
  | reference name =>
      rw [linkSignature] at h
      split at h
      · cases h
      · rename_i index looked
        split_ifs at h with struct
        obtain rfl := Except.ok.inj h
        have named := names _ _ looked
        refine ⟨?_, ?_, ?_⟩
        · rw [Signature.toType, rename, named]
        · intro other inside
          obtain rfl := List.mem_singleton.mp inside
          rw [named, looked]
        · rintro _ ⟨⟩
          exact struct
  | builtin => cases h
  | modified => cases h
  | enum => cases h

theorem definition_of_linkMethod {method : MethodDef} {linked : Method}
    (h : linkMethod find typedefs method = .ok linked) :
    linked.definition nameOf = method ∧ Checked find nameOf typedefs linked.parameters ∧
      Checked find nameOf typedefs linked.results := by
  obtain ⟨parameters, parametersLinked, h⟩ := bind_eq_ok.mp h
  obtain ⟨results, resultsLinked, h⟩ := bind_eq_ok.mp h
  obtain rfl := Except.ok.inj h
  obtain ⟨parametersWritten, parametersChecked⟩ := links_of_linkSignature names parametersLinked
  obtain ⟨resultsWritten, resultsChecked⟩ := links_of_linkSignature names resultsLinked
  refine ⟨?_, parametersChecked, resultsChecked⟩
  rw [Method.definition, parametersWritten, resultsWritten]

theorem definition_of_linkError {error : ErrorDef} {linked : ErrorCase}
    (h : linkError find typedefs error = .ok linked) :
    linked.definition nameOf = error ∧ Checked find nameOf typedefs linked.parameters := by
  obtain ⟨parameters, parametersLinked, h⟩ := bind_eq_ok.mp h
  obtain rfl := Except.ok.inj h
  obtain ⟨written, checked⟩ := links_of_linkSignature names parametersLinked
  refine ⟨?_, checked⟩
  rw [ErrorCase.definition, written]

end Steps

/-- An interface that a document was linked to is that document with its references looked up. -/
theorem link_eq_ok {document : Document} {interface : Interface}
    (h : document.link = .ok interface) : interface.document = document ∧ interface.Linked := by
  obtain ⟨⟨⟩, distinct, h⟩ := bind_eq_ok.mp h
  obtain ⟨typedefs, typedefsLinked, h⟩ := bind_eq_ok.mp h
  obtain ⟨methods, methodsLinked, h⟩ := bind_eq_ok.mp h
  obtain ⟨errors, errorsLinked, h⟩ := bind_eq_ok.mp h
  obtain rfl := Except.ok.inj h
  let linked : Interface := ⟨document.name, typedefs, methods, errors⟩
  have sameNames : typedefs.map (·.name) = document.typedefs.map (·.name) :=
    map_eq_of_mapM (fun _ _ => linkTypedef_name) typedefsLinked
  have names : ∀ name index, document.typedefIndex? name = some index →
      linked.typedefName index = name := by
    intro name index looked
    rw [linked.typedefName_eq, sameNames, typedefIndex?_eq_some looked]
    rfl
  have inRange : ∀ name index, document.typedefIndex? name = some index →
      index < typedefs.length := by
    intro name index looked
    have present := typedefIndex?_eq_some looked
    rw [← sameNames] at present
    simpa using (List.getElem?_eq_some_iff.mp present).1
  have sameTypedefs := map_eq_of_mapM (k := id)
    (fun _ _ => definition_of_linkTypedef names) typedefsLinked
  have sameMethods := map_eq_of_mapM (k := id)
    (fun _ _ linked => (definition_of_linkMethod names linked).1) methodsLinked
  have sameErrors := map_eq_of_mapM (k := id)
    (fun _ _ linked => (definition_of_linkError names linked).1) errorsLinked
  have checked : ∀ signature ∈ linked.signatures,
      Checked document.typedefIndex? linked.typedefName typedefs signature.2 :=
    Interface.forall_mem_signatures.mpr
      ⟨forall_of_mapM (fun _ _ linked => (definition_of_linkMethod names linked).2) methodsLinked,
        forall_of_mapM (fun _ _ linked => (definition_of_linkError names linked).2) errorsLinked⟩
  have bodies : ∀ typedef ∈ typedefs, ∀ index ∈ typedef.body.toType.references,
      index < typedefs.length :=
    forall_of_mapM (fun _ _ linked index inside =>
      inRange _ index ((links_of_linkTypedef names linked).found index inside)) typedefsLinked
  have distinct : (typedefs.map (·.name)).Nodup := by
    rw [sameNames]
    exact (checkDistinct_eq_ok.mp distinct).1
  refine ⟨?_, distinct, bodies, ?_, ?_⟩
  · show Document.mk _ _ _ _ = document
    rw [sameTypedefs, sameMethods, sameErrors, List.map_id, List.map_id, List.map_id]
  · intro signature inside index referred
    exact inRange _ index ((checked signature inside).found index referred)
  · intro signature inside
    exact (checked signature inside).struct

/-- Naming decides whether a linked document resolves, and leaves the interface as it is. -/
theorem outcome_resolve_eq_ok {document : Document} {interface : Interface} :
    document.resolve.outcome = .ok interface ↔ document.link = .ok interface ∧
      (giveNames (interface.typedefs.map (·.name)) interface.discovered).outcome = .ok () := by
  unfold resolve
  rw [Logged.outcome_bind_eq_ok]
  constructor
  · rintro ⟨linked, links, h⟩
    obtain ⟨⟨⟩, named, h⟩ := Logged.outcome_bind_eq_ok.mp h
    obtain ⟨⟨⟩, -, h⟩ := Logged.outcome_bind_eq_ok.mp h
    obtain rfl : linked = interface := Except.ok.inj h
    exact ⟨links, named⟩
  · rintro ⟨links, named⟩
    refine ⟨interface, links, Logged.outcome_bind_eq_ok.mpr ⟨(), named, ?_⟩⟩
    exact Logged.outcome_bind_eq_ok.mpr ⟨(), rfl, rfl⟩

end Document

end Varlink
