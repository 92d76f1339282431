import Mathlib.Data.List.Nodup
import Varlink.Proofs.Interface.Discovery
import Varlink.Proofs.Interface.TypeGraph

/-!
# What an interface declares

The declarations of a resolved document are the declared types and the groups that are written in
place, each once and under a name of its own. A wrapper without fields is left out, and it is the
only group that is. Generated code is made from this list, so a group that is missing would be a
type without a definition, and one that is listed twice would be defined twice.

The list comes from the walk and the table from the document, so the two are tied together here:
the walk discovers the entries of the table in another order, and naming makes sure that no two of
them have the same name.
-/

namespace Varlink

namespace TypeEntry.InPlace

variable {entry : TypeEntry} {number : Nat}

theorem exists_name (h : entry.InPlace) (isDeclaration : entry.isDeclaration) :
    ∃ name, entry.name = some name := by
  cases h with
  | modified => cases isDeclaration
  | struct => exact ⟨_, rfl⟩
  | enum => exact ⟨_, rfl⟩

/-- The groups that are not suppressed are what is declared. -/
theorem exists_declaration_iff (h : entry.InPlace) (number : Nat) :
    (∃ declaration, entry.declaration? number = some declaration) ↔
      entry.isDeclaration ∧ ¬ entry.isSuppressed := by
  rw [TypeEntry.declaration?]
  by_cases suppressed : entry.isSuppressed
  · simp [suppressed]
  · rw [if_neg suppressed]
    cases h with
    | modified => simp [TypeEntry.isDeclaration]
    | struct => simp [TypeEntry.isDeclaration, suppressed]
    | enum => simp [TypeEntry.isDeclaration, suppressed]

end TypeEntry.InPlace

/-- A declaration has the number and the name of its entry. -/
theorem TypeEntry.of_declaration? {entry : TypeEntry} {number : Nat} {declaration : Declaration}
    (h : entry.declaration? number = some declaration) :
    declaration.number = number ∧ entry.name = some declaration.name := by
  rw [declaration?] at h
  split_ifs at h
  split at h
  · obtain rfl := Option.some.inj h
    rename_i named _
    exact ⟨rfl, named⟩
  · obtain rfl := Option.some.inj h
    rename_i named _
    exact ⟨rfl, named⟩
  · cases h

section DeclarationsFrom

variable {first : Nat} {entries : List TypeEntry} {declaration : Declaration}

theorem mem_declarationsFrom : declaration ∈ declarationsFrom first entries ↔
    ∃ (position : Nat) (entry : TypeEntry), entries[position]? = some entry ∧
      entry.declaration? (first + position) = some declaration := by
  rw [declarationsFrom, List.mem_filterMap]
  constructor
  · rintro ⟨⟨entry, number⟩, inside, found⟩
    obtain ⟨bound, isEntry⟩ := List.mem_zipIdx_iff_le_and_getElem?_sub.mp inside
    refine ⟨number - first, entry, isEntry, ?_⟩
    rwa [Nat.add_sub_cancel' bound]
  · rintro ⟨position, entry, isEntry, found⟩
    refine ⟨(entry, first + position), List.mem_zipIdx_iff_le_and_getElem?_sub.mpr ?_, found⟩
    refine ⟨Nat.le_add_right .., ?_⟩
    rwa [Nat.add_sub_cancel_left]

/-- The declarations of entries have different numbers, since the entries do. -/
theorem numbers_declarationsFrom_sublist (first : Nat) (entries : List TypeEntry) :
    ((declarationsFrom first entries).map (·.number)).Sublist
      (List.range' first entries.length) := by
  induction entries generalizing first with
  | nil => exact .slnil
  | cons entry entries ih =>
      rw [declarationsFrom_cons, List.length_cons, List.range'_succ]
      cases found : entry.declaration? first with
      | none => exact (ih (first + 1)).cons first
      | some declaration =>
          obtain rfl := (TypeEntry.of_declaration? found).1
          exact (ih (declaration.number + 1)).cons_cons declaration.number

end DeclarationsFrom

namespace Interface

variable {interface : Interface}

/-- All numbers that an interface hands out: those of declarations and signatures, and those that
entries have for the types inside them. -/
def storedNumbers (interface : Interface) : List Nat :=
  interface.declarations.map (·.number) ++ interface.signatureNumbers ++
    interface.types.flatMap fun entry => entry.shape.children

/-- The declarations of an interface are what a document declares and the groups written in
place. -/
structure Declares (interface : Interface) (document : Document) : Prop where
  named : ∀ entry ∈ interface.types, entry.isDeclaration → ∃ name, entry.name = some name
  distinct : (interface.declarations.map (·.name)).Nodup
  /-- A declaration is listed under the name of its entry. -/
  names : ∀ declaration ∈ interface.declarations, ∃ entry,
    interface.type? declaration.number = some entry ∧ entry.name = some declaration.name
  /-- The declared types come first, in the order of the document. -/
  declared : ∀ index typedef, document.typedefs[index]? = some typedef → ∃ declaration,
    interface.declarations[index]? = some declaration ∧ declaration.name = typedef.name ∧
      declaration.number = typedefNumber index
  once : (interface.declarations.map (·.number)).Nodup
  /-- Every group is listed unless it is suppressed, and nothing else is. -/
  listed : ∀ number, number ∈ interface.declarations.map (·.number) ↔ ∃ entry,
    interface.type? number = some entry ∧ entry.isDeclaration ∧ ¬ entry.isSuppressed
  /-- The suppressed entries are the signatures without fields. -/
  suppressed : ∀ number entry, interface.type? number = some entry →
    (entry.isSuppressed ↔ ∃ index : Nat, document.signatureTypes[index]? = some (.struct []) ∧
      interface.signatureNumbers[index]? = some number)
  /-- Every signature is a struct. -/
  signatures : interface.signatureNumbers.length = document.signatureTypes.length ∧
    ∀ number ∈ interface.signatureNumbers, ∃ fields : List (String × Nat),
      interface.shape? number = some (Shape.struct fields)
  filled : ∀ number ∈ interface.storedNumbers, ∃ entry, interface.type? number = some entry
  /-- A declaration is found under its name, and nothing else is. -/
  lookup : ∀ name number,
    (interface.declaration? name).map (·.number) = some number ↔
      ∃ declaration ∈ interface.declarations, declaration.name = name ∧
        declaration.number = number

theorem mem_discovered {declaration : Declaration} : declaration ∈ interface.discovered ↔
    ∃ (position : Nat) (entry : TypeEntry), interface.innerEntries[position]? = some entry ∧
      entry.declaration? (interface.firstInner + position) = some declaration :=
  interface.discovered_perm.mem_iff.trans mem_declarationsFrom

/-- The groups in place that are discovered are those that are not suppressed. -/
theorem mem_numbers_discovered {number : Nat} :
    number ∈ interface.discovered.map (·.number) ↔ ∃ (position : Nat) (entry : TypeEntry),
      number = interface.firstInner + position ∧ interface.innerEntries[position]? = some entry ∧
        entry.isDeclaration ∧ ¬ entry.isSuppressed := by
  rw [List.mem_map]
  constructor
  · rintro ⟨declaration, discovered, rfl⟩
    obtain ⟨position, entry, isEntry, found⟩ := mem_discovered.mp discovered
    have inPlace := inPlace_of_mem_innerEntries (List.mem_of_getElem? isEntry)
    exact ⟨position, entry, (TypeEntry.of_declaration? found).1, isEntry,
      (inPlace.exists_declaration_iff _).mp ⟨declaration, found⟩⟩
  · rintro ⟨position, entry, rfl, isEntry, isDeclared⟩
    have inPlace := inPlace_of_mem_innerEntries (List.mem_of_getElem? isEntry)
    obtain ⟨declaration, found⟩ := (inPlace.exists_declaration_iff _).mpr isDeclared
    exact ⟨declaration, mem_discovered.mpr ⟨position, entry, isEntry, found⟩,
      (TypeEntry.of_declaration? found).1⟩

theorem numbers_declared (interface : Interface) :
    interface.declared.map (·.number) = List.range' 6 interface.typedefs.length := by
  apply List.ext_getElem
  · simp [declared]
  · intro index _ _
    simp [declared, typedefNumber]

theorem names_declared (interface : Interface) :
    interface.declared.map (·.name) = interface.typedefs.map (·.name) := by
  apply List.ext_getElem
  · simp [declared]
  · intro index _ _
    simp [declared]

theorem mem_numbers_declared {number : Nat} : number ∈ interface.declared.map (·.number) ↔
    ∃ index, index < interface.typedefs.length ∧ typedefNumber index = number := by
  rw [numbers_declared, List.mem_range'_1]
  constructor
  · rintro ⟨least, bound⟩
    exact ⟨number - 6, by omega, Nat.add_sub_cancel' least⟩
  · rintro ⟨index, bound, rfl⟩
    exact ⟨Nat.le_add_right .., Nat.add_lt_add_left bound 6⟩

/-- No entry is listed twice. -/
theorem numbers_nodup (interface : Interface) :
    (interface.declarations.map (·.number)).Nodup := by
  rw [declarations, List.map_append, List.nodup_append]
  refine ⟨?_, ?_, ?_⟩
  · rw [numbers_declared]
    exact List.nodup_range'
  · refine (interface.discovered_perm.map _).nodup_iff.mpr ?_
    exact (numbers_declarationsFrom_sublist ..).nodup List.nodup_range'
  · rintro number isDeclared other isDiscovered rfl
    obtain ⟨index, bound, rfl⟩ := mem_numbers_declared.mp isDeclared
    obtain ⟨position, _, same, -⟩ := mem_numbers_discovered.mp isDiscovered
    rw [firstInner, typedefNumber, typedefNumber] at same
    omega

/-- Every group has a name. -/
theorem exists_name_of_mem_types {entry : TypeEntry} (inside : entry ∈ interface.types)
    (isDeclaration : entry.isDeclaration) : ∃ name, entry.name = some name := by
  obtain ⟨index, found⟩ := List.mem_iff_getElem?.mp inside
  have h : interface.type? (index + 1) = some entry := found
  rcases exists_of_type? h with ⟨leaf, -, rfl⟩ | ⟨index, typedef, -, -, rfl⟩ | ⟨position, -, inner⟩
  · cases isDeclaration
  · exact ⟨_, rfl⟩
  · exact (inPlace_of_mem_innerEntries (List.mem_of_getElem? inner)).exists_name isDeclaration

/-- The list of declarations holds every group of the table that is not suppressed. -/
theorem mem_numbers_declarations {number : Nat} :
    number ∈ interface.declarations.map (·.number) ↔ ∃ entry,
      interface.type? number = some entry ∧ entry.isDeclaration ∧ ¬ entry.isSuppressed := by
  rw [declarations, List.map_append, List.mem_append]
  constructor
  · rintro (isDeclared | isDiscovered)
    · obtain ⟨index, bound, rfl⟩ := mem_numbers_declared.mp isDeclared
      have found := List.getElem?_eq_getElem bound
      refine ⟨_, type?_typedef found, ?_, Bool.noConfusion⟩
      cases body : interface.typedefs[index].body <;> rfl
    · obtain ⟨position, entry, rfl, inner, isDeclared⟩ := mem_numbers_discovered.mp isDiscovered
      exact ⟨entry, (interface.type?_inner position).trans inner, isDeclared⟩
  · rintro ⟨entry, isEntry, isDeclared⟩
    rcases exists_of_type? isEntry with ⟨leaf, -, rfl⟩ | ⟨index, typedef, found, rfl, -⟩ |
      ⟨position, rfl, inner⟩
    · cases isDeclared.1
    · exact .inl (mem_numbers_declared.mpr ⟨index, (List.getElem?_eq_some_iff.mp found).1, rfl⟩)
    · exact .inr (mem_numbers_discovered.mpr ⟨position, entry, rfl, inner, isDeclared⟩)

/-- A declaration is listed under the name of its entry. -/
theorem name_of_mem_declarations {declaration : Declaration}
    (h : declaration ∈ interface.declarations) : ∃ entry,
      interface.type? declaration.number = some entry ∧ entry.name = some declaration.name := by
  rcases List.mem_append.mp h with isDeclared | isDiscovered
  · obtain ⟨index, bound, rfl⟩ := List.mem_mapIdx.mp isDeclared
    exact ⟨_, type?_typedef (List.getElem?_eq_getElem bound), rfl⟩
  · obtain ⟨position, entry, inner, found⟩ := mem_discovered.mp isDiscovered
    obtain ⟨sameNumber, named⟩ := TypeEntry.of_declaration? found
    rw [sameNumber, type?_inner]
    exact ⟨entry, inner, named⟩

/-- A declaration has an entry that declares something under its name. -/
theorem exists_entry_of_mem_declarations {declaration : Declaration}
    (h : declaration ∈ interface.declarations) : ∃ entry,
      interface.type? declaration.number = some entry ∧ entry.isDeclaration ∧
        ¬ entry.isSuppressed ∧ entry.name = some declaration.name := by
  obtain ⟨entry, isEntry, isDeclaration, notSuppressed⟩ :=
    mem_numbers_declarations.mp (List.mem_map_of_mem (f := (·.number)) h)
  obtain ⟨other, isOther, named⟩ := name_of_mem_declarations h
  obtain rfl := Option.some.inj (isOther.symm.trans isEntry)
  exact ⟨other, isEntry, isDeclaration, notSuppressed, named⟩

/-- An entry with a name that is not suppressed is a declaration under this name. -/
theorem exists_declaration {number : Nat} {entry : TypeEntry} {name : String}
    (isEntry : interface.type? number = some entry) (isDeclaration : entry.isDeclaration)
    (notSuppressed : ¬ entry.isSuppressed) (named : entry.name = some name) :
    ∃ declaration ∈ interface.declarations,
      declaration.number = number ∧ declaration.name = name := by
  obtain ⟨declaration, inside, rfl⟩ := List.mem_map.mp
    (mem_numbers_declarations.mpr ⟨entry, isEntry, isDeclaration, notSuppressed⟩)
  obtain ⟨other, isOther, otherNamed⟩ := name_of_mem_declarations inside
  obtain rfl := Option.some.inj (isOther.symm.trans isEntry)
  exact ⟨declaration, inside, rfl, Option.some.inj (otherNamed.symm.trans named)⟩

/-- The number of a signature without fields is that of a suppressed entry. -/
theorem suppressed_of_empty {index number : Nat} {entry : TypeEntry}
    (isEmpty : interface.document.signatureTypes[index]? = some (.struct []))
    (numbered : interface.signatureNumbers[index]? = some number)
    (isEntry : interface.type? number = some entry) : entry.isSuppressed := by
  rw [signatureTypes_document, List.getElem?_map] at isEmpty
  obtain ⟨⟨name, signature⟩, found, same⟩ := Option.map_eq_some_iff.mp isEmpty
  rw [getElem?_signatureNumbers, found] at numbered
  obtain rfl := Option.some.inj numbered
  cases signature with
  | declared => cases same
  | inline fields =>
      cases fields with
      | nil =>
          obtain rfl := Option.some.inj (isEntry.symm.trans (holds_signature found).last)
          rfl
      | cons => cases same

/-- An entry that is not built in has a slot. -/
theorem exists_slot {number : Nat} {entry : TypeEntry}
    (h : interface.type? number = some entry) :
    (∃ leaf : Builtin, number = leaf.number ∧
        entry = ⟨none, .builtin, .builtin leaf, .builtin leaf⟩) ∨
      ∃ position place, interface.document.slots[position]? = some place ∧
        number = typedefNumber position := by
  have slot : ∀ position, number = typedefNumber position →
      ∃ place, interface.document.slots[position]? = some place := by
    rintro position rfl
    rw [typedefNumber, show 6 + position = 5 + position + 1 by omega, type?] at h
    have bound := (List.getElem?_eq_some_iff.mp h).1
    rw [length_types_document] at bound
    exact ⟨_, List.getElem?_eq_getElem (Nat.lt_of_add_lt_add_left bound)⟩
  rcases exists_of_type? h with isBuiltin | ⟨index, typedef, -, same, -⟩ | ⟨position, same, -⟩
  · exact .inl isBuiltin
  · obtain ⟨place, found⟩ := slot index same
    exact .inr ⟨index, place, found, same⟩
  · have same : number = typedefNumber (interface.typedefs.length + position) := by
      rw [same, firstInner, typedefNumber, typedefNumber, Nat.add_assoc]
    obtain ⟨place, found⟩ := slot _ same
    exact .inr ⟨_, place, found, same⟩

/-- A suppressed entry is that of a signature without fields. -/
theorem empty_of_suppressed {number : Nat} {entry : TypeEntry}
    (isEntry : interface.type? number = some entry) (suppressed : entry.isSuppressed) :
    ∃ index : Nat, interface.document.signatureTypes[index]? = some (.struct []) ∧
      interface.signatureNumbers[index]? = some number := by
  rcases exists_slot isEntry with ⟨leaf, -, rfl⟩ | ⟨position, ⟨root, path⟩, found, rfl⟩
  · cases suppressed
  · obtain ⟨other, isOther, named⟩ := naming_slots found
    obtain rfl := Option.some.inj (isOther.symm.trans isEntry)
    have differs : other.origin ≠ other.beforeNaming.origin := by
      have isSuppressed : other.origin = .suppressedWrapper := of_decide_eq_true suppressed
      rw [TypeEntry.beforeNaming, isSuppressed]
      intro same
      cases same
    obtain ⟨beyond, rfl, reached⟩ := named.emptied.mp differs
    have numbered := numberAt?_slots found
    obtain ⟨index, rfl⟩ := Nat.exists_eq_add_of_le beyond
    refine ⟨index, ?_, ?_⟩
    · obtain ⟨type, isRoot, same⟩ := Option.bind_eq_some_iff.mp reached
      obtain rfl := Option.some.inj same
      rwa [Document.roots_signature] at isRoot
    · obtain ⟨number, isRoot, same⟩ := Option.bind_eq_some_iff.mp numbered
      obtain rfl := Option.some.inj same
      rwa [length_typedefs_document, rootNumbers_signature] at isRoot

/-- Every signature is a struct. -/
theorem struct_of_signature (linked : interface.Linked) {number : Nat}
    (h : number ∈ interface.signatureNumbers) :
    ∃ fields, interface.shape? number = some (Shape.struct fields) := by
  obtain ⟨index, numbered⟩ := List.mem_iff_getElem?.mp h
  rw [getElem?_signatureNumbers] at numbered
  obtain ⟨⟨name, signature⟩, found, rfl⟩ := Option.map_eq_some_iff.mp numbered
  cases signature with
  | inline fields =>
      have last := shape?_of_last (holds_signature found)
      rw [TypeExpr.length_fieldEntries] at last
      exact ⟨_, last⟩
  | declared target =>
      have isStruct := linked.structs _ (List.mem_of_getElem? found) target rfl
      rw [Document.isStruct, Option.any_eq_true] at isStruct
      obtain ⟨typedef, isTypedef, isStruct⟩ := isStruct
      obtain ⟨typedefName, body⟩ := typedef
      cases body with
      | struct fields => exact ⟨_, shape?_typedef isTypedef⟩
      | enum members => cases isStruct

theorem Shows.length_children {α : Type} {declared : α → Nat → Prop} {node : TypeExpr α}
    {number : Nat} {shape : Shape} (shown : interface.Shows declared node number)
    (composite : node.isComposite) (isShape : interface.shape? number = some shape) :
    shape.children.length = node.children.length := by
  cases node with
  | reference => cases composite
  | builtin => cases composite
  | modified modifier inner =>
      obtain ⟨_, same⟩ := shown
      obtain rfl := Option.some.inj (same.symm.trans isShape)
      rfl
  | enum members =>
      obtain rfl := Option.some.inj (shown.symm.trans isShape)
      rfl
  | struct fields =>
      obtain ⟨members, same, names⟩ := shown
      obtain rfl := Option.some.inj (same.symm.trans isShape)
      simpa [Shape.children, TypeExpr.children] using congrArg List.length names

/-- What is shown is in the table. -/
theorem Shows.exists_entry {node : TypeExpr String} {number : Nat}
    (shown : interface.Shows interface.document.IsDeclared node number) :
    ∃ entry, interface.type? number = some entry := by
  have of_shape : ∀ {shape}, interface.shape? number = some shape →
      ∃ entry, interface.type? number = some entry := by
    intro shape isShape
    obtain ⟨entry, isEntry, -⟩ := Option.map_eq_some_iff.mp isShape
    exact ⟨entry, isEntry⟩
  cases node with
  | reference name =>
      obtain ⟨index, isName, rfl⟩ := shown
      rw [names_document, List.getElem?_map] at isName
      obtain ⟨typedef, found, -⟩ := Option.map_eq_some_iff.mp isName
      exact ⟨_, type?_typedef found⟩
  | builtin leaf =>
      obtain rfl : number = leaf.number := shown
      exact ⟨_, interface.type?_builtin leaf⟩
  | modified modifier inner => exact of_shape shown.choose_spec
  | struct fields => exact of_shape shown.choose_spec.1
  | enum members => exact of_shape shown

/-- The types inside an entry have entries. -/
theorem filled_of_child (linked : interface.Linked) {number child : Nat} {entry : TypeEntry}
    (isEntry : interface.type? number = some entry) (inside : child ∈ entry.shape.children) :
    ∃ inner, interface.type? child = some inner := by
  have isShape : interface.shape? number = some entry.shape := by
    rw [shape?, isEntry]
    rfl
  rcases exists_slot isEntry with ⟨leaf, -, rfl⟩ | ⟨position, ⟨root, path⟩, found, rfl⟩
  · cases inside
  · obtain ⟨node, reached, composite⟩ := mem_slots_document.mp (List.mem_of_getElem? found)
    obtain ⟨number, numbered, shown⟩ := shows_of_nodeAt? linked reached
    obtain rfl := Option.some.inj (numbered.symm.trans (numberAt?_slots found))
    obtain ⟨index, isChild⟩ := List.mem_iff_getElem?.mp inside
    have bound : index < node.children.length := by
      rw [← shown.length_children composite isShape]
      exact (List.getElem?_eq_some_iff.mp isChild).1
    have reachedChild :=
      (Document.nodeAt?_child reached index).trans (List.getElem?_eq_getElem bound)
    obtain ⟨number, numberedChild, shownChild⟩ := shows_of_nodeAt? linked reachedChild
    rw [numberAt?_child numbered isShape, isChild] at numberedChild
    obtain rfl := Option.some.inj numberedChild
    exact shownChild.exists_entry

/-- All numbers that are handed out have entries. -/
theorem filled_of_mem_storedNumbers (linked : interface.Linked) {number : Nat}
    (h : number ∈ interface.storedNumbers) : ∃ entry, interface.type? number = some entry := by
  rcases List.mem_append.mp h with h | isChild
  · rcases List.mem_append.mp h with isDeclared | isSignature
    · obtain ⟨entry, isEntry, -⟩ := mem_numbers_declarations.mp isDeclared
      exact ⟨entry, isEntry⟩
    · obtain ⟨fields, isStruct⟩ := struct_of_signature linked isSignature
      obtain ⟨entry, isEntry, -⟩ := Option.map_eq_some_iff.mp isStruct
      exact ⟨entry, isEntry⟩
  · obtain ⟨entry, inside, isChild⟩ := List.mem_flatMap.mp isChild
    obtain ⟨index, found⟩ := List.mem_iff_getElem?.mp inside
    have isEntry : interface.type? (index + 1) = some entry := found
    exact filled_of_child linked isEntry isChild

theorem getElem?_declarations {index : Nat} {typedef : Typedef}
    (found : interface.typedefs[index]? = some typedef) :
    interface.declarations[index]? =
      some ⟨typedef.name, typedefNumber index, typedef.body⟩ := by
  have bound : index < interface.declared.length := by
    simpa [declared] using (List.getElem?_eq_some_iff.mp found).1
  rw [declarations, List.getElem?_append_left bound, declared, List.getElem?_mapIdx, found]
  rfl

theorem length_signatureNumbers (interface : Interface) :
    interface.signatureNumbers.length = interface.document.signatureTypes.length := by
  rw [signatureTypes_document, signatureNumbers, numberedSignatures, List.length_map,
    length_numberFrom, List.length_map]

/-- Under distinct names, a declaration is found under its name. -/
theorem declaration?_eq_some (distinct : (interface.declarations.map (·.name)).Nodup)
    {name : String} {declaration : Declaration} :
    interface.declaration? name = some declaration ↔
      declaration ∈ interface.declarations ∧ declaration.name = name := by
  rw [declaration?]
  constructor
  · intro found
    exact ⟨List.mem_of_find?_eq_some found, by simpa using List.find?_some found⟩
  · rintro ⟨inside, rfl⟩
    have isFound : (interface.declarations.find? (·.name = declaration.name)).isSome := by
      rw [List.find?_isSome]
      exact ⟨declaration, inside, by simp⟩
    obtain ⟨other, found⟩ := Option.isSome_iff_exists.mp isFound
    have same : other.name = declaration.name := by simpa using List.find?_some found
    obtain rfl := List.inj_on_of_nodup_map distinct (List.mem_of_find?_eq_some found) inside same
    exact found

end Interface

namespace Document

/-- A linked document resolves just if no name is given twice. -/
theorem outcome_resolve_eq_ok_iff_nodup {document : Document} {interface : Interface}
    (links : document.link = .ok interface) : document.resolve.outcome = .ok interface ↔
      (interface.declarations.map (·.name)).Nodup := by
  have declared := (link_eq_ok links).2.distinct
  rw [outcome_resolve_eq_ok, and_iff_right links, outcome_giveNames, Interface.declarations,
    List.map_append, Interface.names_declared, List.nodup_append]
  constructor
  · rintro ⟨distinct, new⟩
    refine ⟨declared, distinct, ?_⟩
    rintro name isDeclared _ isFound rfl
    exact new name isFound isDeclared
  · rintro ⟨-, distinct, new⟩
    exact ⟨distinct, fun name isFound isDeclared => new name isDeclared name isFound rfl⟩

theorem nodup_names_of_resolve {document : Document} {interface : Interface}
    (h : document.resolve.outcome = .ok interface) :
    (interface.declarations.map (·.name)).Nodup :=
  (outcome_resolve_eq_ok_iff_nodup (outcome_resolve_eq_ok.mp h).1).mp h

/-- The declarations of a resolved document are its declared types and the groups written in
place. -/
theorem declares_of_resolve {document : Document} {interface : Interface}
    (h : document.resolve.outcome = .ok interface) : interface.Declares document := by
  obtain ⟨links, named⟩ := outcome_resolve_eq_ok.mp h
  obtain ⟨rfl, linked⟩ := link_eq_ok links
  obtain ⟨distinctFound, new⟩ := outcome_giveNames.mp named
  have distinct : (interface.declarations.map (·.name)).Nodup := by
    rw [Interface.declarations, List.map_append, Interface.names_declared, List.nodup_append]
    refine ⟨linked.distinct, distinctFound, ?_⟩
    rintro name isDeclared other isFound rfl
    exact new name isFound isDeclared
  exact {
    named := fun _ => Interface.exists_name_of_mem_types
    distinct := distinct
    names := fun _ => Interface.name_of_mem_declarations
    declared := by
      intro index definition found
      rw [Interface.document, List.getElem?_map] at found
      obtain ⟨typedef, isTypedef, rfl⟩ := Option.map_eq_some_iff.mp found
      exact ⟨_, Interface.getElem?_declarations isTypedef, rfl, rfl⟩
    once := interface.numbers_nodup
    listed := fun _ => Interface.mem_numbers_declarations
    suppressed := fun _ _ isEntry => ⟨Interface.empty_of_suppressed isEntry,
      fun ⟨_, isEmpty, numbered⟩ => Interface.suppressed_of_empty isEmpty numbered isEntry⟩
    signatures := ⟨interface.length_signatureNumbers,
      fun _ => Interface.struct_of_signature linked⟩
    filled := fun _ => Interface.filled_of_mem_storedNumbers linked
    lookup := by
      intro name number
      rw [Option.map_eq_some_iff]
      simp only [Interface.declaration?_eq_some distinct, and_assoc] }

/-- A type that refers to itself, an enum in place, and a wrapper without fields. -/
theorem declares_recursive :
    let document : Document := ⟨"a", [⟨"M", .reference "T", .struct []⟩],
      [⟨"T", .struct [("next", .modified .maybe (.reference "T")), ("x", .enum ["on"])]⟩], []⟩
    ∃ interface, document.resolve.outcome = .ok interface ∧ interface.Declares document := by
  intro document
  have resolved : document.resolve.outcome = .ok ⟨"a",
      [⟨"T", .struct [("next", .modified .maybe (.reference 0)), ("x", .enum ["on"])]⟩],
      [⟨"M", .declared 0, .inline []⟩], []⟩ := by
    cbv
  exact ⟨_, resolved, declares_of_resolve resolved⟩

end Document

end Varlink
