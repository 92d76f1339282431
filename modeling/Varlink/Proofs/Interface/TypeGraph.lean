import Mathlib
import Varlink.Proofs.Interface.Unfolding

/-!
# The graph a document resolves to

The table of a resolved document holds one entry for each place where a group or modifier is
written, in the order in which these come to an end, and nothing else besides the built-in types.
Since the entries are told apart by their places, equal types are never merged, and since a name
leads to the entry of its declaration, they are never copied either.
-/

namespace Varlink

/-- The entry as it was before types in place got names: only declared types had one, and a wrapper
was a wrapper whether it had fields or not. -/
def TypeEntry.beforeNaming (entry : TypeEntry) : TypeEntry :=
  match entry.origin with
  | .typedef => entry
  | .suppressedWrapper => { entry with name := none, origin := .wrapper }
  | _ => { entry with name := none }

namespace Document

/-- The entry of the declaration with a name. -/
def IsDeclared (document : Document) (name : String) (number : Nat) : Prop :=
  ∃ index, (document.typedefs.map (·.name))[index]? = some name ∧ number = typedefNumber index

/-- Where a type comes from, by its place. -/
def originAt (document : Document) (place : Place) : Origin :=
  if place.path ≠ [] then .anonymous
  else if place.root < document.typedefs.length then .typedef
  else .wrapper

/-- The name that was written for a type. -/
def nameAt? (document : Document) (place : Place) : Option String :=
  if place.path ≠ [] then none else (document.typedefs.map (·.name))[place.root]?

/-- Whether a place is that of a signature without fields. -/
def IsEmptySignature (document : Document) (place : Place) : Prop :=
  document.typedefs.length ≤ place.root ∧ place.path = [] ∧
    document.nodeAt? place = some (.struct [])

/-- Naming may have given a name to the entry of a place. It has told signatures without fields from
others, and has changed nothing else. -/
structure NamedAt (document : Document) (place : Place) (entry : TypeEntry) : Prop where
  name : entry.beforeNaming.name = document.nameAt? place
  origin : entry.beforeNaming.origin = document.originAt place
  emptied : entry.origin ≠ entry.beforeNaming.origin ↔ document.IsEmptySignature place

end Document

/-- The table of an interface is the graph of a document: the places of the document unfold in the
table, groups and modifiers at different places are different entries, and the table consists of the
built-in types and one entry for each of these places in order. -/
structure Interface.IsGraphOf (interface : Interface) (document : Document) : Prop where
  /-- Every place has a number, which shows what is written there. -/
  unfolds : ∀ place node, document.nodeAt? place = some node →
    ∃ number, interface.numberAt? place = some number ∧
      interface.Shows document.IsDeclared node number
  /-- Groups and modifiers at different places have different numbers. -/
  distinct : ∀ first second left right number,
    document.nodeAt? first = some left → left.isComposite → document.nodeAt? second = some right →
    right.isComposite → interface.numberAt? first = some number →
    interface.numberAt? second = some number → first = second
  builtins : ∀ leaf : Builtin,
    interface.type? leaf.number = some ⟨none, .builtin, .builtin leaf, .builtin leaf⟩
  /-- The slots are the places of groups and modifiers. -/
  listed : ∀ place, place ∈ document.slots ↔
    ∃ node, document.nodeAt? place = some node ∧ node.isComposite
  /-- They are numbered in order. -/
  slots : ∀ position place, document.slots[position]? = some place →
    interface.numberAt? place = some (typedefNumber position)
  /-- There are no other entries. -/
  complete : interface.types.length = Builtin.all.length + document.slots.length
  /-- Naming has given names and told empty wrappers apart. -/
  naming : ∀ position place, document.slots[position]? = some place →
    ∃ entry, interface.type? (typedefNumber position) = some entry ∧ document.NamedAt place entry

namespace Interface

variable {interface : Interface}

theorem Shows.rename {f : Nat → String} {declared : String → Nat → Prop} {node : LinkedType}
    {number : Nat} (shown : interface.Shows IsTypedef node number)
    (each : ∀ index, node = .reference index → declared (f index) (typedefNumber index)) :
    interface.Shows declared (node.rename f) number := by
  cases node with
  | reference index =>
      obtain rfl : number = typedefNumber index := shown
      exact each index rfl
  | builtin leaf => exact shown
  | modified modifier inner => exact shown
  | enum members => exact shown
  | struct fields =>
      obtain ⟨members, isStruct, names⟩ := shown
      refine ⟨members, isStruct, names.trans ?_⟩
      rw [TypeExpr.renameFields_eq_map, List.map_map]
      rfl

/-- What a root refers to is declared. -/
theorem Linked.root (linked : interface.Linked) {root index : Nat} {type : LinkedType}
    (isRoot : interface.roots[root]? = some type) (inside : index ∈ type.references) :
    index < interface.typedefs.length := by
  rcases exists_of_roots isRoot with ⟨typedef, found, rfl⟩ | ⟨_, _, signature, -, found, rfl⟩
  · exact linked.bodies typedef (List.mem_of_getElem? found) index inside
  · exact linked.signatures _ (List.mem_of_getElem? found) index inside

theorem names_document (interface : Interface) :
    interface.document.typedefs.map (·.name) = interface.typedefs.map (·.name) := by
  rw [document, List.map_map]
  rfl

theorem length_typedefs_document (interface : Interface) :
    interface.document.typedefs.length = interface.typedefs.length :=
  List.length_map _

/-- A declared index is the one its name is declared at. -/
theorem isDeclared_typedefName {index : Nat} (bound : index < interface.typedefs.length) :
    interface.document.IsDeclared (interface.typedefName index) (typedefNumber index) := by
  refine ⟨index, ?_, rfl⟩
  rw [names_document, typedefName_eq, List.getElem?_map, List.getElem?_eq_getElem bound]
  rfl

theorem nodeAt?_document (interface : Interface) (place : Place) :
    interface.document.nodeAt? place = interface.roots[place.root]?.bind fun type =>
      (type.nodeAt? place.path).map (TypeExpr.rename interface.typedefName) := by
  rw [Document.nodeAt?, roots_document, List.getElem?_map]
  cases interface.roots[place.root]? with
  | none => rfl
  | some type => exact TypeExpr.nodeAt?_rename ..

/-- Following the table goes through the document in step. -/
theorem shows_of_nodeAt? (linked : interface.Linked) {place : Place} {node : TypeExpr String}
    (h : interface.document.nodeAt? place = some node) :
    ∃ number, interface.numberAt? place = some number ∧
      interface.Shows interface.document.IsDeclared node number := by
  rw [nodeAt?_document] at h
  obtain ⟨type, isRoot, h⟩ := Option.bind_eq_some_iff.mp h
  obtain ⟨inner, reached, rfl⟩ := Option.map_eq_some_iff.mp h
  obtain ⟨start, numbered, below⟩ := showsBelow_root isRoot
  obtain ⟨number, followed, shown⟩ := below place.path inner reached
  have numberedHere : interface.numberAt? place = some number := by
    rw [numberAt?, numbered]
    exact followed
  refine ⟨number, numberedHere, shown.rename ?_⟩
  intro index same
  rw [same] at reached
  have inside := TypeExpr.mem_references_of_nodeAt? reached
  exact isDeclared_typedefName (linked.root isRoot inside)

theorem innerCount_definition (nameOf : Nat → String) (typedef : Typedef) :
    Document.innerCount (typedef.definition nameOf) = typedef.body.numberCount := by
  rw [Document.innerCount, Typedef.definition, TypeExpr.numberCount_rename]
  cases typedef.body <;> rfl

theorem numberCount_signature (nameOf : Nat → String) (signature : Signature) :
    (signature.toType.rename nameOf).numberCount = signature.numberCount := by
  rw [TypeExpr.numberCount_rename]
  cases signature <;> rfl

/-- A listed place is inside the declaration or the signature that holds its entry. -/
theorem exists_of_inner {position : Nat} {place : Place}
    (h : interface.document.inner[position]? = some place) :
    (∃ index typedef path inner, interface.typedefs[index]? = some typedef ∧
      place = ⟨index, path⟩ ∧ typedef.body.toType.places.dropLast[inner]? = some path ∧
      interface.firstInner + position = interface.typedefStart index + inner) ∨
    ∃ index name signature path inner, interface.signatures[index]? = some (name, signature) ∧
      place = ⟨interface.typedefs.length + index, path⟩ ∧
      signature.toType.places[inner]? = some path ∧
      interface.firstInner + position = interface.signatureStart index + inner := by
  rcases Document.exists_of_getElem?_inner h with
    ⟨index, _, path, inner, inside, rfl, listed, rfl⟩ |
    ⟨index, _, path, inner, inside, rfl, listed, rfl⟩
  · rw [document, List.getElem?_map] at inside
    obtain ⟨typedef, found, rfl⟩ := Option.map_eq_some_iff.mp inside
    rw [Typedef.definition, TypeExpr.places_rename] at listed
    refine .inl ⟨index, typedef, path, inner, found, rfl, listed, ?_⟩
    rw [document, offset_map, typedefStart, Nat.add_assoc]
    simp only [innerCount_definition]
  · rw [signatureTypes_document, List.getElem?_map] at inside
    obtain ⟨⟨name, signature⟩, found, rfl⟩ := Option.map_eq_some_iff.mp inside
    rw [TypeExpr.places_rename] at listed
    refine .inr ⟨index, name, signature, path, inner, found, ?_, listed, ?_⟩
    · rw [length_typedefs_document]
    · rw [signatureTypes_document, offset_map, signatureStart, firstSignature_eq, document,
        List.map_map]
      simp only [Function.comp_def, innerCount_definition, numberCount_signature]
      omega

theorem numberAt?_inner {position : Nat} {place : Place}
    (h : interface.document.inner[position]? = some place) :
    interface.numberAt? place = some (interface.firstInner + position) := by
  rcases exists_of_inner h with ⟨index, typedef, path, inner, found, rfl, listed, same⟩ |
    ⟨index, name, signature, path, inner, found, rfl, listed, same⟩
  · have bound := (List.getElem?_eq_some_iff.mp found).1
    rw [numberAt?, rootNumbers_typedef bound, same]
    exact (group_unfolds (shape?_typedef found) (holds_typedef found)).2 inner path listed
  · rw [numberAt?, rootNumbers_signature, getElem?_signatureNumbers, found, same]
    exact (signature_unfolds (holds_signature found)).numbers inner path listed

/-- The slots of declarations come first, each with the number of its declaration. -/
theorem exists_of_slots {position : Nat} {place : Place}
    (h : interface.document.slots[position]? = some place) :
    (position < interface.typedefs.length ∧ place = ⟨position, []⟩) ∨
      ∃ inner, position = interface.typedefs.length + inner ∧
        interface.document.inner[inner]? = some place := by
  rcases getElem?_append_cases h with isDeclared | ⟨inner, rfl, listed⟩
  · obtain ⟨bound, same⟩ := List.getElem?_eq_some_iff.mp isDeclared
    rw [List.length_map, List.length_range, length_typedefs_document] at bound
    rw [List.getElem_map, List.getElem_range] at same
    exact .inl ⟨bound, same.symm⟩
  · refine .inr ⟨inner, ?_, listed⟩
    rw [List.length_map, List.length_range, length_typedefs_document]

theorem numberAt?_slots {position : Nat} {place : Place}
    (h : interface.document.slots[position]? = some place) :
    interface.numberAt? place = some (typedefNumber position) := by
  rcases exists_of_slots h with ⟨declared, rfl⟩ | ⟨inner, rfl, listed⟩
  · rw [numberAt?, rootNumbers_typedef declared]
    rfl
  · rw [numberAt?_inner listed, firstInner, typedefNumber, typedefNumber, Nat.add_assoc]

theorem length_types_document (interface : Interface) :
    interface.types.length = Builtin.all.length + interface.document.slots.length := by
  rw [length_types, Document.slots, List.length_append, List.length_map, List.length_range,
    Document.length_inner, length_typedefs_document, signatureTypes_document, document,
    List.map_map, List.map_map]
  simp only [Function.comp_def, innerCount_definition, numberCount_signature]

theorem roots_typedef {index : Nat} {typedef : Typedef}
    (found : interface.typedefs[index]? = some typedef) :
    interface.roots[index]? = some typedef.body.toType := by
  have bound := (List.getElem?_eq_some_iff.mp found).1
  rw [roots, List.getElem?_append_left (by rwa [List.length_map]), List.getElem?_map, found]
  rfl

theorem roots_signature {index : Nat} {name : String} {signature : Signature}
    (found : interface.signatures[index]? = some (name, signature)) :
    interface.roots[interface.typedefs.length + index]? = some signature.toType := by
  rw [roots, List.getElem?_append_right (by simp), List.length_map, Nat.add_sub_cancel_left,
    List.getElem?_map, found]
  rfl

theorem nodeAt?_of_root {root : Nat} {type node : LinkedType} {path : List Nat}
    (isRoot : interface.roots[root]? = some type) (reached : type.nodeAt? path = some node) :
    interface.document.nodeAt? ⟨root, path⟩ = some (node.rename interface.typedefName) := by
  rw [nodeAt?_document, isRoot, Option.bind_some, reached]
  rfl

/-- The slots are the places of groups and modifiers, each of them and no others. -/
theorem mem_slots_document {place : Place} : place ∈ interface.document.slots ↔
    ∃ node, interface.document.nodeAt? place = some node ∧ node.isComposite := by
  constructor
  · intro listed
    obtain ⟨position, listed⟩ := List.mem_iff_getElem?.mp listed
    rcases exists_of_slots listed with ⟨declared, rfl⟩ | ⟨inner, rfl, inInner⟩
    · have found := List.getElem?_eq_getElem declared
      refine ⟨_, nodeAt?_of_root (roots_typedef found) rfl, ?_⟩
      rw [TypeExpr.isComposite_rename]
      cases interface.typedefs[position].body <;> rfl
    · rcases exists_of_inner inInner with ⟨index, typedef, path, inner, found, rfl, listed, -⟩ |
        ⟨index, name, signature, path, inner, found, rfl, listed, -⟩
      · have inBody := (TypeExpr.mem_dropLast_places.mp (List.mem_of_getElem? listed)).1
        obtain ⟨node, reached, composite⟩ := TypeExpr.mem_places.mp inBody
        refine ⟨_, nodeAt?_of_root (roots_typedef found) reached, ?_⟩
        rwa [TypeExpr.isComposite_rename]
      · obtain ⟨node, reached, composite⟩ := TypeExpr.mem_places.mp (List.mem_of_getElem? listed)
        refine ⟨_, nodeAt?_of_root (roots_signature found) reached, ?_⟩
        rwa [TypeExpr.isComposite_rename]
  · rintro ⟨node, reached, composite⟩
    by_cases outside : place.path ≠ [] ∨ interface.document.typedefs.length ≤ place.root
    · exact List.mem_append_right _ (Document.mem_inner reached composite outside)
    · obtain ⟨empty, declared⟩ := not_or.mp outside
      obtain ⟨root, path⟩ := place
      obtain rfl := not_not.mp empty
      refine List.mem_append_left _ (List.mem_map_of_mem (List.mem_range.mpr ?_))
      exact Nat.lt_of_not_le declared

/-- An anonymous type in place gets a name at most. -/
theorem naming_anonymous {entry : TypeEntry} {place : Place} (document : Document)
    (anonymous : entry.origin = .anonymous) (inside : place.path ≠ []) :
    document.NamedAt place entry := by
  have before : entry.beforeNaming = { entry with name := none } := by
    rw [TypeEntry.beforeNaming, anonymous]
  constructor
  · rw [before, Document.nameAt?, if_pos inside]
  · rw [before, Document.originAt, if_pos inside]
    exact anonymous
  · rw [before]
    exact ⟨fun differs => absurd rfl differs, fun empty => absurd empty.2.1 inside⟩

/-- A wrapper gets a name, and it is suppressed if it has no fields. -/
theorem naming_wrapper {index : Nat} {name : String} {fields : Fields} {shape : Shape}
    {written : LinkedType} (found : interface.signatures[index]? = some (name, .inline fields)) :
    interface.document.NamedAt ⟨interface.typedefs.length + index, []⟩
      ⟨some name, if fields.isEmpty then .suppressedWrapper else .wrapper, shape, written⟩ := by
  have beyond : interface.document.typedefs.length ≤ interface.typedefs.length + index := by
    rw [length_typedefs_document]
    exact Nat.le_add_right ..
  have nameless :
      interface.document.nameAt? ⟨interface.typedefs.length + index, []⟩ = none := by
    rw [Document.nameAt?, if_neg (not_not.mpr rfl), List.getElem?_eq_none_iff, List.length_map]
    exact beyond
  have isWrapper :
      interface.document.originAt ⟨interface.typedefs.length + index, []⟩ = .wrapper := by
    rw [Document.originAt, if_neg (not_not.mpr rfl), if_neg (Nat.not_lt_of_le beyond)]
  have reached : interface.document.nodeAt? ⟨interface.typedefs.length + index, []⟩ =
      some (TypeExpr.rename interface.typedefName (.struct fields)) :=
    nodeAt?_of_root (roots_signature found) rfl
  cases fields with
  | nil =>
      refine ⟨nameless.symm, isWrapper.symm, ?_⟩
      constructor
      · intro differs
        exact ⟨beyond, rfl, reached⟩
      · intro empty same
        cases same
  | cons field fields =>
      refine ⟨nameless.symm, isWrapper.symm, ?_⟩
      constructor
      · intro differs
        exact absurd rfl differs
      · intro empty
        cases reached.symm.trans empty.2.2

/-- What naming did to the entry of a type inside a declaration or signature. -/
theorem naming_inner {position : Nat} {place : Place}
    (h : interface.document.inner[position]? = some place) :
    ∃ entry, interface.type? (interface.firstInner + position) = some entry ∧
      interface.document.NamedAt place entry := by
  rcases exists_of_inner h with ⟨index, typedef, path, inner, found, rfl, listed, same⟩ |
    ⟨index, name, signature, path, inner, found, rfl, listed, same⟩
  · have inside := (TypeExpr.mem_dropLast_places.mp (List.mem_of_getElem? listed)).2
    have bound : inner < (TypeExpr.fieldEntries typedef.name (interface.typedefStart index)
        typedef.body.fields).length := by
      have bound := (List.getElem?_eq_some_iff.mp listed).1
      rw [List.length_dropLast, TypeExpr.length_places] at bound
      rw [TypeExpr.length_fieldEntries]
      cases body : typedef.body <;> rw [body] at bound <;> exact bound
    have isEntry := List.getElem?_eq_getElem bound
    have anonymous := TypeExpr.anonymous_of_mem_fieldEntries (List.mem_of_getElem? isEntry)
    rw [same]
    exact ⟨_, holds_typedef found inner _ isEntry, naming_anonymous _ anonymous.1 inside⟩
  · have holds := holds_signature found
    cases signature with
    | declared => cases listed
    | inline fields =>
        rw [same]
        rcases getElem?_concat listed with listed | ⟨rfl, rfl⟩
        · have inside : path ≠ [] := by
            obtain ⟨_, _, _, _, -, rfl, -, -⟩ := TypeExpr.exists_of_getElem?_fieldPlaces listed
            exact List.cons_ne_nil _ _
          have bound : inner < (TypeExpr.fieldEntries name (interface.signatureStart index)
              fields).length := by
            have bound := (List.getElem?_eq_some_iff.mp listed).1
            rwa [TypeExpr.length_fieldPlaces, ← TypeExpr.length_fieldEntries] at bound
          have isEntry := List.getElem?_eq_getElem bound
          have anonymous := TypeExpr.anonymous_of_mem_fieldEntries (List.mem_of_getElem? isEntry)
          exact ⟨_, holds.left inner _ isEntry, naming_anonymous _ anonymous.1 inside⟩
        · have last := holds.last
          rw [TypeExpr.length_fieldEntries, ← TypeExpr.length_fieldPlaces 0] at last
          exact ⟨_, last, naming_wrapper found⟩

/-- What naming did to the entry of a slot. -/
theorem naming_slots {position : Nat} {place : Place}
    (h : interface.document.slots[position]? = some place) :
    ∃ entry, interface.type? (typedefNumber position) = some entry ∧
      interface.document.NamedAt place entry := by
  rcases exists_of_slots h with ⟨declared, rfl⟩ | ⟨inner, rfl, listed⟩
  · have found := List.getElem?_eq_getElem declared
    have notSignature : ¬ interface.document.IsEmptySignature ⟨position, []⟩ := by
      rintro ⟨beyond, -⟩
      rw [length_typedefs_document] at beyond
      exact Nat.not_le_of_lt declared beyond
    refine ⟨_, type?_typedef found, ?_, ?_, ?_⟩
    · rw [Document.nameAt?, if_neg (not_not.mpr rfl), names_document, List.getElem?_map, found]
      rfl
    · rw [Document.originAt, if_neg (not_not.mpr rfl), length_typedefs_document, if_pos declared]
      rfl
    · exact ⟨fun differs => absurd rfl differs, fun empty => absurd empty notSignature⟩
  · obtain ⟨entry, holds, named⟩ := naming_inner listed
    refine ⟨entry, ?_, named⟩
    rw [typedefNumber, ← Nat.add_assoc]
    exact holds

/-- Two slots with the same number are the same place. -/
theorem eq_of_numberAt? {first second : Place} {number : Nat}
    (firstListed : first ∈ interface.document.slots)
    (secondListed : second ∈ interface.document.slots)
    (firstNumber : interface.numberAt? first = some number)
    (secondNumber : interface.numberAt? second = some number) : first = second := by
  obtain ⟨one, isFirst⟩ := List.mem_iff_getElem?.mp firstListed
  obtain ⟨other, isSecond⟩ := List.mem_iff_getElem?.mp secondListed
  rw [numberAt?_slots isFirst, Option.some.injEq] at firstNumber
  rw [numberAt?_slots isSecond, Option.some.injEq] at secondNumber
  obtain rfl : one = other := Nat.add_left_cancel (firstNumber.trans secondNumber.symm)
  exact Option.some.inj (isFirst.symm.trans isSecond)

end Interface

namespace Document

/-- The table of a resolved document is the graph of the document, and it is the table of what
linking alone gives. -/
theorem isGraphOf_of_resolve {document : Document} {interface : Interface}
    (h : document.resolve.outcome = .ok interface) :
    interface.IsGraphOf document ∧ document.link = .ok interface := by
  have links := (outcome_resolve_eq_ok.mp h).1
  obtain ⟨rfl, linked⟩ := link_eq_ok links
  refine ⟨?_, links⟩
  exact {
    unfolds := fun _ _ reached => Interface.shows_of_nodeAt? linked reached
    distinct := fun _ _ left right _ firstReached firstComposite secondReached secondComposite =>
      Interface.eq_of_numberAt?
        (Interface.mem_slots_document.mpr ⟨left, firstReached, firstComposite⟩)
        (Interface.mem_slots_document.mpr ⟨right, secondReached, secondComposite⟩)
    builtins := interface.type?_builtin
    listed := fun _ => Interface.mem_slots_document
    slots := fun _ _ => Interface.numberAt?_slots
    complete := interface.length_types_document
    naming := fun _ _ => Interface.naming_slots }

/-- A type that refers to itself and holds the same enum twice. -/
theorem isGraphOf_twins :
    let document : Document := ⟨"a", [⟨"M", .reference "T", .struct []⟩],
      [⟨"T", .struct [("next", .modified .maybe (.reference "T")), ("x", .enum ["on"]),
        ("y", .enum ["on"])]⟩], []⟩
    ∃ interface, document.resolve.outcome = .ok interface ∧ interface.IsGraphOf document := by
  intro document
  have resolved : document.resolve.outcome = .ok ⟨"a",
      [⟨"T", .struct [("next", .modified .maybe (.reference 0)), ("x", .enum ["on"]),
        ("y", .enum ["on"])]⟩], [⟨"M", .declared 0, .inline []⟩], []⟩ := by
    cbv
  exact ⟨_, resolved, (isGraphOf_of_resolve resolved).1⟩

end Document

end Varlink
