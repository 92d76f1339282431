import Varlink.Proofs.Interface.Levels
import Varlink.Proofs.Interface.Reordering

/-!
# What is wrong with a document

All that keeps a document from being an interface can be listed from the document alone: names that
are declared again, names that are used and not declared, bodies that are no groups and signatures
that are no structs. The list follows the document: first the declared names, then the bodies of the
declarations, then the signatures of the methods and those of the errors, and inside a type from left
to right. Resolution reports the head of this list. Only a document with nothing on it is named, and
then the first path name that occurred before is reported.

Whether a name is declared is asked of the whole document, so a reference is never wrong because of
where it stands. That is why linking, which stops at the first failure, and the list, which is made
without linking anything, can be compared step by step.
-/

namespace Varlink

/-- The names that occurred before, each where it occurs again. -/
def repeated (names : List String) : List String :=
  (names.zipIdx.filter fun (name, index) => name ∈ names.take index).map (·.1)

section Repeated

variable {names before after seen : List String} {name : String}

theorem repeated_concat (names : List String) (name : String) :
    repeated (names ++ [name]) = repeated names ++ [name].filter (· ∈ names) := by
  have earlier : names.zipIdx.filter (fun (other, index) => other ∈ (names ++ [name]).take index) =
      names.zipIdx.filter fun (other, index) => other ∈ names.take index := by
    apply List.filter_congr
    rintro ⟨other, index⟩ inside
    have bound : index ≤ names.length := by
      simpa using Nat.le_of_lt (List.snd_lt_of_mem_zipIdx inside)
    show decide (other ∈ (names ++ [name]).take index) = decide (other ∈ names.take index)
    rw [List.take_append_of_le_length bound]
  rw [repeated, List.zipIdx_append, List.filter_append, earlier, List.map_append, ← repeated]
  congr 1
  by_cases known : name ∈ names
  · simp [known]
  · simp [known]

/-- What is found in a part of the names is found at the same place in all of them. -/
theorem repeated_append (before after : List String) :
    repeated before <+: repeated (before ++ after) := by
  induction after using List.reverseRecOn with
  | nil => rw [List.append_nil]
  | append_singleton after name ih =>
      rw [← List.append_assoc, repeated_concat]
      exact ih.trans (List.prefix_append _ _)

theorem repeated_eq_nil_iff : repeated names = [] ↔ names.Nodup := by
  induction names using List.reverseRecOn with
  | nil => simp [repeated]
  | append_singleton names name ih =>
      rw [repeated_concat, List.append_eq_nil_iff, ih, ← List.concat_eq_append, List.nodup_concat]
      simp [and_comm]

/-- A check of one more name, after names that are all different. -/
theorem reports_next {ε : Type} {clash : String → ε} {rest : Except ε Unit}
    (distinct : before.Nodup) (same : ∀ other, other ∈ seen ↔ other ∈ before)
    (next : (before ++ [name]).Nodup → (∀ other, other ∈ name :: seen ↔ other ∈ before ++ [name]) →
      Reports rest ((repeated (before ++ [name] ++ after)).map clash)) :
    Reports (if name ∈ seen then .error (clash name) else rest)
      ((repeated (before ++ name :: after)).map clash) := by
  rw [List.append_cons]
  by_cases known : name ∈ seen
  · obtain ⟨others, split⟩ := repeated_append (before ++ [name]) after
    rw [repeated_concat, repeated_eq_nil_iff.mpr distinct] at split
    rw [if_pos known, ← split]
    simp [(same name).mp known, Reports]
  · rw [if_neg known]
    apply next
    · rw [← List.concat_eq_append, List.nodup_concat]
      exact ⟨mt (same name).mpr known, distinct⟩
    · intro other
      simp [same, or_comm]

theorem Document.reports_checkDistinct (distinct : before.Nodup)
    (same : ∀ other, other ∈ seen ↔ other ∈ before) :
    Reports (checkDistinct seen names) ((repeated (before ++ names)).map .duplicateTypedef) := by
  induction names generalizing before seen with
  | nil =>
      rw [List.append_nil, repeated_eq_nil_iff.mpr distinct]
      exact reports_ok ()
  | cons name names ih =>
      rw [checkDistinct]
      exact reports_next distinct same ih

/-- Naming reports the first name that was given before. -/
theorem reports_giveNames {declarations : List Declaration} (distinct : before.Nodup)
    (same : ∀ other, other ∈ seen ↔ other ∈ before) :
    Reports (giveNames seen declarations).outcome
      ((repeated (before ++ declarations.map (·.name))).map .nameCollision) := by
  induction declarations generalizing before seen with
  | nil =>
      rw [List.map_nil, List.append_nil, repeated_eq_nil_iff.mpr distinct]
      exact reports_ok ()
  | cons declaration declarations ih =>
      rw [giveNames, apply_ite Logged.outcome, Logged.outcome_bind]
      exact reports_next distinct same ih

end Repeated

/-- The references to names that are not declared. -/
def undeclared (declared references : List String) : List ResolveError :=
  (references.filter (· ∉ declared)).map .unresolvedReference

theorem undeclared_append (declared first second : List String) :
    undeclared declared (first ++ second) =
      undeclared declared first ++ undeclared declared second := by
  rw [undeclared, List.filter_append, List.map_append]
  rfl

theorem undeclared_singleton_of_mem {declared : List String} {name : String}
    (known : name ∈ declared) : undeclared declared [name] = [] := by
  simp [undeclared, known]

theorem undeclared_singleton_of_not_mem {declared : List String} {name : String}
    (unknown : name ∉ declared) : undeclared declared [name] = [.unresolvedReference name] := by
  simp [undeclared, unknown]

theorem not_mem_of_mem_undeclared {declared references : List String} {name : String}
    (inside : .unresolvedReference name ∈ undeclared declared references) : name ∉ declared := by
  obtain ⟨other, unknown, same⟩ := List.mem_map.mp inside
  obtain rfl := ResolveError.unresolvedReference.inj same
  simpa using (List.mem_filter.mp unknown).2

namespace TypeExpr

/-- Whether a type is an enum. -/
def isEnum {α : Type} : TypeExpr α → Bool
  | .enum _ => true
  | _ => false

variable {α : Type} {find : String → Option α} {declared : List String} {levels : Nat}

theorem reports_linkFields_of_each {fields : List (String × TypeExpr String)}
    (each : ∀ field ∈ fields,
      Reports (link find field.2 levels) (undeclared declared field.2.references)) :
    Reports (linkFields find fields levels) (undeclared declared (fieldReferences fields)) := by
  induction fields with
  | nil =>
      rw [linkFields]
      exact reports_ok []
  | cons field fields ih =>
      obtain ⟨head, tail⟩ := List.forall_mem_cons.mp each
      rw [linkFields, fieldReferences, undeclared_append]
      exact head.bind fun first _ => (ih tail).map _

variable (known : ∀ name, (find name).isSome ↔ name ∈ declared)
include known

/-- A type that has levels enough is wrong only in its references. -/
theorem reports_link {type : TypeExpr String} (fits : type.height ≤ levels) :
    Reports (link find type levels) (undeclared declared type.references) := by
  induction type using TypeExpr.induction generalizing levels with
  | reference name =>
      obtain ⟨levels, rfl⟩ := Nat.exists_eq_succ_of_ne_zero (Nat.ne_zero_of_lt fits)
      rw [link, references]
      cases found : find name with
      | none =>
          have unknown : name ∉ declared := by
            rw [← known, found]
            exact Bool.false_ne_true
          rw [undeclared_singleton_of_not_mem unknown]
          exact reports_error _
      | some target =>
          have isKnown : name ∈ declared := by
            rw [← known, found]
            rfl
          rw [undeclared_singleton_of_mem isKnown]
          exact reports_ok _
  | builtin leaf =>
      obtain ⟨levels, rfl⟩ := Nat.exists_eq_succ_of_ne_zero (Nat.ne_zero_of_lt fits)
      exact reports_ok _
  | modified modifier inner ih =>
      obtain ⟨levels, rfl⟩ := Nat.exists_eq_succ_of_ne_zero (Nat.ne_zero_of_lt fits)
      rw [link]
      exact (ih (Nat.le_of_succ_le_succ fits)).map _
  | struct fields ih =>
      obtain ⟨levels, rfl⟩ := Nat.exists_eq_succ_of_ne_zero (Nat.ne_zero_of_lt fits)
      have inside := fieldsHeight_le_iff.mp (Nat.le_of_succ_le_succ fits)
      rw [link]
      refine (reports_linkFields_of_each fun field isField => ?_).map _
      exact ih field isField (inside field isField)
  | enum members =>
      obtain ⟨levels, rfl⟩ := Nat.exists_eq_succ_of_ne_zero (Nat.ne_zero_of_lt fits)
      exact reports_ok _

theorem reports_linkFields {fields : List (String × TypeExpr String)}
    (fits : fieldsHeight fields ≤ levels) :
    Reports (linkFields find fields levels) (undeclared declared (fieldReferences fields)) :=
  reports_linkFields_of_each fun field isField =>
    reports_link known (fieldsHeight_le_iff.mp fits field isField)

end TypeExpr

namespace Document

/-- The names of the declarations. -/
def declaredNames (document : Document) : List String := document.typedefs.map (·.name)

/-- What is wrong with the body of a declaration. It has to be a group, and if it is none, what is
in it is not looked at. -/
def bodyFailures (declared : List String) (typedef : TypeDef) : List ResolveError :=
  if typedef.body.isGroup then undeclared declared typedef.body.references
  else [.invalidTypedef typedef.name]

/-- Whether an enum is declared under a name. -/
def declaresEnum (document : Document) (name : String) : Bool :=
  document.typedefs.any fun typedef => typedef.name = name && typedef.body.isEnum

/-- What is wrong with a signature. It has to be a struct, written in place or declared. -/
def signatureFailures (document : Document) (site : SignatureSite) :
    TypeExpr String → List ResolveError
  | .struct fields => undeclared document.declaredNames (TypeExpr.fieldReferences fields)
  | .reference name =>
    undeclared document.declaredNames [name] ++
      if document.declaresEnum name then [.expectedStruct name site] else []
  | other => [.expectedStruct other.constructorText site]

/-- What is wrong with a method: parameters before results. -/
def methodFailures (document : Document) (method : MethodDef) : List ResolveError :=
  document.signatureFailures (.methodParameters method.name) method.parameters ++
    document.signatureFailures (.methodResults method.name) method.results

/-- What is wrong with an error. -/
def errorFailures (document : Document) (error : ErrorDef) : List ResolveError :=
  document.signatureFailures (.errorParameters error.name) error.parameters

/-- All that is wrong with a document before its groups are named. -/
def failures (document : Document) : List ResolveError :=
  (repeated document.declaredNames).map .duplicateTypedef ++
    document.typedefs.flatMap (bodyFailures document.declaredNames) ++
    document.methods.flatMap document.methodFailures ++
    document.errors.flatMap document.errorFailures

theorem not_mem_of_mem_signatureFailures {document : Document} {site : SignatureSite}
    {type : TypeExpr String} {name : String}
    (inside : .unresolvedReference name ∈ document.signatureFailures site type) :
    name ∉ document.declaredNames := by
  cases type with
  | struct fields => exact not_mem_of_mem_undeclared inside
  | reference other =>
      rcases List.mem_append.mp inside with unknown | isEnum
      · exact not_mem_of_mem_undeclared unknown
      · split_ifs at isEnum <;> simp at isEnum
  | builtin => simp [signatureFailures] at inside
  | modified => simp [signatureFailures] at inside
  | enum => simp [signatureFailures] at inside

/-- A reference is wrong only if its name is declared nowhere in the document. -/
theorem not_mem_of_mem_failures {document : Document} {name : String}
    (inside : .unresolvedReference name ∈ document.failures) : name ∉ document.declaredNames := by
  rcases List.mem_append.mp inside with inside | inside
  · rcases List.mem_append.mp inside with inside | inside
    · rcases List.mem_append.mp inside with inside | inside
      · simp at inside
      · obtain ⟨typedef, -, inside⟩ := List.mem_flatMap.mp inside
        rw [bodyFailures] at inside
        split_ifs at inside
        · exact not_mem_of_mem_undeclared inside
        · simp at inside
    · obtain ⟨method, -, inside⟩ := List.mem_flatMap.mp inside
      rcases List.mem_append.mp inside with inParameters | inResults
      · exact not_mem_of_mem_signatureFailures inParameters
      · exact not_mem_of_mem_signatureFailures inResults
  · obtain ⟨error, -, inside⟩ := List.mem_flatMap.mp inside
    exact not_mem_of_mem_signatureFailures inside

theorem isSome_typedefIndex? (document : Document) (name : String) :
    (document.typedefIndex? name).isSome ↔ name ∈ document.declaredNames := by
  rw [typedefIndex?, List.findIdx?_isSome, List.any_eq_true, declaredNames, List.mem_map]
  simp only [decide_eq_true_eq]

section Steps

variable {document : Document}

theorem reports_linkTypedef {typedef : TypeDef} (fits : typedef.body.height ≤ maxNesting + 2) :
    Reports (linkTypedef document.typedefIndex? typedef)
      (bodyFailures document.declaredNames typedef) := by
  obtain ⟨name, body⟩ := typedef
  cases body with
  | struct fields =>
      have inside : TypeExpr.fieldsHeight fields ≤ maxNesting + 1 := Nat.le_of_succ_le_succ fits
      exact (TypeExpr.reports_linkFields document.isSome_typedefIndex? inside).map _
  | enum members => exact reports_ok _
  | reference => exact reports_error _
  | builtin => exact reports_error _
  | modified => exact reports_error _

/-- A declaration that is linked is a group, so it is an enum if it is no struct. -/
theorem isEnum_of_linkTypedef {find : String → Option Nat} {typedef : TypeDef} {result : Typedef}
    (h : linkTypedef find typedef = .ok result) :
    typedef.body.isEnum = !typedef.body.isStruct := by
  rw [linkTypedef] at h
  split at h
  · rename_i isStruct
    rw [isStruct]
    rfl
  · rename_i isEnum
    rw [isEnum]
    rfl
  · cases h

variable {typedefs : List Typedef} (distinct : document.declaredNames.Nodup)
  (linked : document.typedefs.mapM (linkTypedef document.typedefIndex?) = .ok typedefs)
include distinct linked

/-- Once the declarations are linked, what is declared is an enum if it is no struct. -/
theorem declaresEnum_iff {name : String} {index : Nat}
    (found : document.typedefIndex? name = some index) :
    document.declaresEnum name ↔ ¬ isStruct typedefs index := by
  have isName := (typedefIndex?_eq_some_iff distinct).mp found
  rw [List.getElem?_map] at isName
  obtain ⟨typedef, isTypedef, rfl⟩ := Option.map_eq_some_iff.mp isName
  have isGroup : typedef.body.isEnum = !typedef.body.isStruct := by
    obtain ⟨result, isLinked⟩ := exists_mapM.mp ⟨_, linked⟩ _ (List.mem_of_getElem? isTypedef)
    exact isEnum_of_linkTypedef isLinked
  rw [isStruct_of_mapM linked, isTypedef, Option.any_some, Bool.not_eq_true, ← Bool.not_eq_true',
    ← isGroup, declaresEnum, List.any_eq_true]
  constructor
  · rintro ⟨other, inside, isEnum⟩
    obtain ⟨sameName, isEnum⟩ := Bool.and_eq_true_iff.mp isEnum
    obtain ⟨position, isOther⟩ := List.mem_iff_getElem?.mp inside
    have again := (typedefIndex?_eq_some_iff distinct).mpr
      (show (document.typedefs.map (·.name))[position]? = some typedef.name by
        rw [List.getElem?_map, isOther, Option.map_some, of_decide_eq_true sameName])
    obtain rfl := Option.some.inj (found.symm.trans again)
    obtain rfl := Option.some.inj (isTypedef.symm.trans isOther)
    exact isEnum
  · intro isEnum
    exact ⟨typedef, List.mem_of_getElem? isTypedef, by rw [isEnum, decide_eq_true rfl]; rfl⟩

theorem reports_linkSignature {site : SignatureSite} {type : TypeExpr String}
    (fits : type.height ≤ maxNesting + 1) :
    Reports (linkSignature document.typedefIndex? typedefs site type)
      (document.signatureFailures site type) := by
  cases type with
  | struct fields =>
      have inside : TypeExpr.fieldsHeight fields ≤ maxNesting := Nat.le_of_succ_le_succ fits
      exact (TypeExpr.reports_linkFields document.isSome_typedefIndex? inside).map _
  | reference name =>
      rw [linkSignature, signatureFailures]
      cases found : document.typedefIndex? name with
      | none =>
          have unknown : name ∉ document.declaredNames := by
            rw [← isSome_typedefIndex?, found]
            exact Bool.false_ne_true
          rw [undeclared_singleton_of_not_mem unknown]
          exact rfl
      | some index =>
          have isKnown : name ∈ document.declaredNames := by
            rw [← isSome_typedefIndex?, found]
            rfl
          rw [undeclared_singleton_of_mem isKnown, List.nil_append]
          have isEnum := declaresEnum_iff distinct linked found
          by_cases struct : isStruct typedefs index
          · rw [if_neg (mt isEnum.mp (not_not.mpr struct))]
            simp only [if_pos struct]
            exact reports_ok _
          · rw [if_pos (isEnum.mpr struct)]
            simp only [if_neg struct]
            exact reports_error _
  | builtin => exact reports_error _
  | modified => exact reports_error _
  | enum => exact reports_error _

end Steps

/-- Linking reports the first thing that is wrong with a document, if it has levels enough. -/
theorem reports_document_link_of_fits {document : Document} (fits : document.Fits) :
    Reports document.link document.failures := by
  obtain ⟨methods, errors⟩ := List.forall_mem_append.mp fits.signatures
  rw [failures, List.append_assoc, List.append_assoc, link]
  refine (reports_checkDistinct List.nodup_nil fun _ => Iff.rfl).bind fun _ isDistinct => ?_
  have distinct := (checkDistinct_eq_ok.mp isDistinct).1
  have each : ∀ typedef ∈ document.typedefs, Reports (linkTypedef document.typedefIndex? typedef)
      (bodyFailures document.declaredNames typedef) := by
    intro typedef inside
    exact reports_linkTypedef (fits.bodies typedef inside)
  refine (Reports.mapM each).bind fun typedefs linked => ?_
  have eachMethod : ∀ method ∈ document.methods,
      Reports (linkMethod document.typedefIndex? typedefs method)
        (document.methodFailures method) := by
    intro method inside
    have ofMethod := fun type isType => methods type (List.mem_flatMap.mpr ⟨method, inside, isType⟩)
    obtain ⟨parameters, results⟩ := List.forall_mem_cons.mp ofMethod
    refine (reports_linkSignature distinct linked parameters).bind fun _ _ => ?_
    exact (reports_linkSignature distinct linked (results _ (List.mem_singleton_self _))).map _
  refine (Reports.mapM eachMethod).bind fun _ _ => ?_
  have eachError : ∀ error ∈ document.errors,
      Reports (linkError document.typedefIndex? typedefs error) (document.errorFailures error) := by
    intro error inside
    exact (reports_linkSignature distinct linked (errors _ (List.mem_map_of_mem inside))).map _
  exact (Reports.mapM eachError).map _

theorem reports_document_link {document : Document}
    (shallow : ∀ root ∈ document.roots, root.depth ≤ maxNesting) :
    Reports document.link document.failures :=
  reports_document_link_of_fits (fits_of_shallow shallow)

/-- Naming a linked document reports the first name that was given before: declared, or given to a
place that the walk came to earlier. -/
theorem outcome_resolve_of_link {document : Document} {interface : Interface}
    (links : document.link = .ok interface) :
    ∃ places, document.Discovers places ∧
      document.resolve.outcome = match repeated (document.givenNames places) with
        | name :: _ => .error (.nameCollision name)
        | [] => .ok interface := by
  obtain ⟨rfl, linked⟩ := link_eq_ok links
  obtain ⟨places, discovers, same⟩ := Interface.exists_discovers linked
  refine ⟨places, discovers, ?_⟩
  have named :
      Reports (giveNames (interface.typedefs.map (·.name)) interface.discovered).outcome _ :=
    reports_giveNames linked.distinct fun _ => Iff.rfl
  rw [Interface.names_discovered same] at named
  rw [givenNames, Interface.names_document]
  cases wrong : repeated (interface.typedefs.map (·.name) ++
      places.map interface.document.pathName) with
  | nil =>
      rw [wrong] at named
      obtain ⟨⟨⟩, named⟩ := named
      exact outcome_resolve_eq_ok.mpr ⟨links, named⟩
  | cons name others =>
      rw [wrong] at named
      exact (outcome_resolve_eq_error links).mpr named

/-- A document whose types are not nested too deeply resolves to the first thing that is wrong with
it. If nothing is wrong, naming decides: the first name is reported that is given again on the walk
through the document, and there is an interface if no name is. A reference to a declared name is not
wrong, wherever it stands. -/
theorem resolve_reports_first_failure {document : Document}
    (shallow : ∀ root ∈ document.roots, root.depth ≤ maxNesting) :
    (match document.failures with
      | error :: _ => document.resolve.outcome = .error error
      | [] => ∃ interface places, document.link = .ok interface ∧ document.Discovers places ∧
        document.resolve.outcome = match repeated (document.givenNames places) with
          | name :: _ => .error (.nameCollision name)
          | [] => .ok interface) ∧
    ∀ name ∈ document.declaredNames, .unresolvedReference name ∉ document.failures := by
  refine ⟨?_, fun _ declared wrong => not_mem_of_mem_failures wrong declared⟩
  have linking := reports_document_link shallow
  cases wrong : document.failures with
  | nil =>
      rw [wrong] at linking
      obtain ⟨interface, links⟩ := linking
      obtain ⟨places, discovers, outcome⟩ := outcome_resolve_of_link links
      exact ⟨interface, places, links, discovers, outcome⟩
  | cons error others =>
      rw [wrong] at linking
      obtain linking : document.link = .error error := linking
      show document.resolve.outcome = .error error
      rw [resolve, Logged.outcome_bind, Logged.outcome_ofExcept, linking]
      rfl

/-- Two types that refer to each other and to themselves are not wrong; three other references are,
and the first of them is the one in the parameters of the method. -/
theorem resolve_reports_first_failure_of_three :
    let document : Document := ⟨"a", [⟨"M", .struct [("x", .reference "Missing")], .reference "E"⟩],
      [⟨"A", .struct [("next", .reference "B"), ("same", .modified .maybe (.reference "A"))]⟩,
        ⟨"B", .struct [("back", .reference "A")]⟩, ⟨"E", .enum ["on"]⟩],
      [⟨"F", .reference "Nowhere"⟩]⟩
    (∀ root ∈ document.roots, root.depth ≤ maxNesting) ∧
      document.failures = [.unresolvedReference "Missing", .expectedStruct "E" (.methodResults "M"),
        .unresolvedReference "Nowhere"] ∧
      document.resolve.outcome = .error (.unresolvedReference "Missing") := by
  intro document
  have shallow : ∀ root ∈ document.roots, root.depth ≤ maxNesting := by decide
  have wrong : document.failures = [.unresolvedReference "Missing",
      .expectedStruct "E" (.methodResults "M"), .unresolvedReference "Nowhere"] := by decide
  have reported := (resolve_reports_first_failure shallow).1
  rw [wrong] at reported
  exact ⟨shallow, wrong, reported⟩

end Document

end Varlink
