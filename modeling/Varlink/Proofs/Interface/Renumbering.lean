import Mathlib.Data.Set.Function
import Varlink.Proofs.Interface.Reordering

/-!
# The table of a reordered document

Besides the built-in types, what has a number in a table is the type at a place, and the place is
found again in the reordered document. This tells which number takes the place of which other one.
A reference is followed under its name, and since the names are distinct, it leads to the
declaration it led to before, wherever this is listed now.
-/

namespace Varlink

namespace Shape

/-- The shape with other numbers for the types inside. -/
def renumber (f : Nat → Nat) : Shape → Shape
  | builtin leaf => builtin leaf
  | modified modifier inner => modified modifier (f inner)
  | struct fields => struct (fields.map fun field => (field.1, f field.2))
  | enum members => enum members

/-- Structs are the same if their members have the same names and their types the same numbers. -/
theorem struct_eq_renumber {f : Nat → Nat} {fields images : List (String × Nat)}
    (names : images.map (·.1) = fields.map (·.1))
    (numbers : images.map (·.2) = (fields.map (·.2)).map f) :
    struct images = (struct fields).renumber f := by
  have same : images = fields.map fun field => (field.1, f field.2) := by
    rw [List.zip_of_prod names numbers, List.map_map, List.zip_map']
    rfl
  rw [renumber, same]

end Shape

namespace TypeEntry

variable {entry image : TypeEntry}

theorem isDeclaration_of_renumber {f : Nat → Nat} (shape : image.shape = entry.shape.renumber f) :
    image.isDeclaration = entry.isDeclaration := by
  rw [isDeclaration, isDeclaration, shape]
  cases entry.shape <;> rfl

/-- Where an entry comes from is known if it is known before naming, and which are suppressed. -/
theorem origin_eq (before : image.beforeNaming.origin = entry.beforeNaming.origin)
    (suppressed : image.isSuppressed ↔ entry.isSuppressed) : image.origin = entry.origin := by
  by_cases isSuppressed : entry.isSuppressed
  · exact (of_decide_eq_true (suppressed.mpr isSuppressed)).trans
      (of_decide_eq_true isSuppressed).symm
  · have kept : entry.origin = entry.beforeNaming.origin :=
      not_not.mp (isSuppressed_iff.not.mp isSuppressed)
    have imageKept : image.origin = image.beforeNaming.origin :=
      not_not.mp (isSuppressed_iff.not.mp (suppressed.not.mpr isSuppressed))
    rw [imageKept, before, kept]

end TypeEntry

/-- Only built-in types have numbers below those of the declared ones. -/
theorem Builtin.number_ne_typedefNumber (leaf : Builtin) (index : Nat) :
    leaf.number ≠ typedefNumber index := by
  have small : leaf.number < 6 := by
    cases leaf <;> decide
  exact (small.trans_le (Nat.le_add_right 6 index)).ne

namespace Interface

variable {interface : Interface}

/-- The numbers that have an entry in the table. -/
def numbers (interface : Interface) : Set Nat :=
  {number | ∃ entry, interface.type? number = some entry}

theorem slots_typedef {index : Nat} (bound : index < interface.typedefs.length) :
    interface.document.slots[index]? = some ⟨index, []⟩ := by
  rw [← length_typedefs_document] at bound
  rw [Document.slots, List.getElem?_append_left (by simpa), List.getElem?_map,
    List.getElem?_range bound]
  rfl

section Slot

variable {position number : Nat} {place : Place} {node : TypeExpr String} {entry : TypeEntry}

/-- What has the number of a place shows what is written there. -/
theorem shows_of_numberAt? (linked : interface.Linked)
    (reached : interface.document.nodeAt? place = some node)
    (numbered : interface.numberAt? place = some number) :
    interface.Shows interface.document.IsDeclared node number := by
  obtain ⟨other, otherNumbered, shown⟩ := shows_of_nodeAt? linked reached
  obtain rfl := Option.some.inj (otherNumbered.symm.trans numbered)
  exact shown

variable (listed : interface.document.slots[position]? = some place)
  (isEntry : interface.type? (typedefNumber position) = some entry)
include listed isEntry

theorem name_of_slot : entry.name = interface.groupNameAt? place := by
  obtain ⟨other, isOther, named⟩ := name_slots listed
  obtain rfl := Option.some.inj (isOther.symm.trans isEntry)
  exact named

theorem namedAt_of_slot : interface.document.NamedAt place entry := by
  obtain ⟨other, isOther, naming⟩ := naming_slots listed
  obtain rfl := Option.some.inj (isOther.symm.trans isEntry)
  exact naming

end Slot

/-- There are two numbers for each method and one for each error. -/
theorem length_signatureNumbers_eq (interface : Interface) : interface.signatureNumbers.length =
    2 * interface.methods.length + interface.errors.length := by
  rw [length_signatureNumbers, Document.signatureTypes, List.length_append, length_flatMap_pair]
  simp [document]

/-- Under distinct names, a name is registered for the number of the declaration that has it. -/
theorem number_of_declaration? (distinct : (interface.declarations.map (·.name)).Nodup)
    {name : String} {number : Nat} :
    (interface.declaration? name).map (·.number) = some number ↔ ∃ entry,
      interface.type? number = some entry ∧ entry.isDeclaration ∧ ¬ entry.isSuppressed ∧
        entry.name = some name := by
  rw [Option.map_eq_some_iff]
  constructor
  · rintro ⟨declaration, found, rfl⟩
    obtain ⟨inside, rfl⟩ := (declaration?_eq_some distinct).mp found
    exact exists_entry_of_mem_declarations inside
  · rintro ⟨entry, isEntry, isDeclaration, notSuppressed, named⟩
    obtain ⟨declaration, inside, rfl, same⟩ :=
      exists_declaration isEntry isDeclaration notSuppressed named
    exact ⟨declaration, (declaration?_eq_some distinct).mpr ⟨inside, same⟩, rfl⟩

end Interface

namespace Document.Reordering

/-- The number in the table of another interface of what has a number in that of the document: a
type at a place is found by its place, and built-in types are numbered alike everywhere. -/
def renumber {document other : Document} (r : document.Reordering other) (another : Interface)
    (number : Nat) : Nat :=
  if number < typedefNumber 0 then number
  else
    match document.slots[number - typedefNumber 0]? with
    | some place => (another.numberAt? (r.place place)).getD 0
    | none => 0

section Renumber

variable {one another : Interface} (r : one.document.Reordering another.document)

@[simp] theorem renumber_builtin (leaf : Builtin) :
    r.renumber another leaf.number = leaf.number := by
  cases leaf <;> rfl

theorem renumber_slot {position image : Nat} {place : Place}
    (listed : one.document.slots[position]? = some place)
    (numbered : another.numberAt? (r.place place) = some image) :
    r.renumber another (typedefNumber position) = image := by
  have behind : ¬ typedefNumber position < typedefNumber 0 := by
    simp [typedefNumber]
  have index : typedefNumber position - typedefNumber 0 = position := by
    simp [typedefNumber]
  rw [renumber, if_neg behind, index, listed]
  exact congrArg (·.getD 0) numbered

theorem place_mem_slots {place : Place} :
    r.place place ∈ another.document.slots ↔ place ∈ one.document.slots := by
  rw [Interface.mem_slots_document, Interface.mem_slots_document, r.nodeAt?_place]

/-- A slot of the document has its counterpart in the other one. -/
theorem exists_slot {position : Nat} {place : Place}
    (listed : one.document.slots[position]? = some place) :
    ∃ target : Nat, another.document.slots[target]? = some (r.place place) ∧
      r.renumber another (typedefNumber position) = typedefNumber target := by
  have inside := r.place_mem_slots.mpr (List.mem_of_getElem? listed)
  obtain ⟨target, found⟩ := List.mem_iff_getElem?.mp inside
  exact ⟨target, found, r.renumber_slot listed (Interface.numberAt?_slots found)⟩

theorem renumber_typedef {index : Nat} (bound : index < one.typedefs.length) :
    r.renumber another (typedefNumber index) = typedefNumber (r.typedefs index) := by
  refine r.renumber_slot (Interface.slots_typedef bound) ?_
  rw [← Interface.length_typedefs_document] at bound
  have there : r.typedefs index < another.typedefs.length := by
    rw [← Interface.length_typedefs_document, r.length_typedefs]
    exact (r.sameTypedefs.keeps index).mpr bound
  rw [Interface.numberAt?, place, r.root_typedef bound, Interface.rootNumbers_typedef there]
  rfl

theorem mapsTo_renumber : Set.MapsTo (r.renumber another) one.numbers another.numbers := by
  rintro number ⟨entry, isEntry⟩
  rcases Interface.exists_slot isEntry with ⟨leaf, rfl, -⟩ | ⟨position, place, listed, rfl⟩
  · rw [r.renumber_builtin]
    exact ⟨_, another.type?_builtin leaf⟩
  · obtain ⟨target, found, same⟩ := r.exists_slot listed
    obtain ⟨image, isImage, -⟩ := Interface.name_slots found
    exact ⟨image, same ▸ isImage⟩

theorem injOn_renumber : Set.InjOn (r.renumber another) one.numbers := by
  rintro first ⟨_, isFirst⟩ second ⟨_, isSecond⟩ same
  rcases Interface.exists_slot isFirst with ⟨leaf, rfl, -⟩ | ⟨position, place, listed, rfl⟩
  · rcases Interface.exists_slot isSecond with ⟨other, rfl, -⟩ | ⟨position, place, listed, rfl⟩
    · rwa [r.renumber_builtin, r.renumber_builtin] at same
    · obtain ⟨target, -, isTarget⟩ := r.exists_slot listed
      rw [r.renumber_builtin, isTarget] at same
      exact absurd same (leaf.number_ne_typedefNumber target)
  · obtain ⟨target, found, isTarget⟩ := r.exists_slot listed
    rcases Interface.exists_slot isSecond with ⟨leaf, rfl, -⟩ | ⟨position', place', listed', rfl⟩
    · rw [r.renumber_builtin, isTarget] at same
      exact absurd same.symm (leaf.number_ne_typedefNumber target)
    · obtain ⟨target', found', isTarget'⟩ := r.exists_slot listed'
      rw [isTarget, isTarget'] at same
      obtain rfl := Nat.add_left_cancel same
      obtain rfl := r.place_injective (Option.some.inj (found.symm.trans found'))
      have numbered := Interface.numberAt?_slots listed
      exact Option.some.inj (numbered.symm.trans (Interface.numberAt?_slots listed'))

theorem surjOn_renumber : Set.SurjOn (r.renumber another) one.numbers another.numbers := by
  rintro number ⟨entry, isEntry⟩
  rcases Interface.exists_slot isEntry with ⟨leaf, rfl, -⟩ | ⟨target, place, found, rfl⟩
  · exact ⟨leaf.number, ⟨_, one.type?_builtin leaf⟩, r.renumber_builtin leaf⟩
  · obtain ⟨source, rfl⟩ := r.exists_place place
    obtain ⟨position, listed⟩ :=
      List.mem_iff_getElem?.mp (r.place_mem_slots.mp (List.mem_of_getElem? found))
    obtain ⟨image, isImage, -⟩ := Interface.name_slots listed
    exact ⟨typedefNumber position, ⟨image, isImage⟩,
      r.renumber_slot listed (Interface.numberAt?_slots found)⟩

/-- Different numbers stay different, and every number takes the place of one. -/
theorem bijOn_renumber : Set.BijOn (r.renumber another) one.numbers another.numbers :=
  ⟨r.mapsTo_renumber, r.injOn_renumber, r.surjOn_renumber⟩

theorem exists_typedef {index : Nat} {typedef : Typedef}
    (found : one.typedefs[index]? = some typedef) :
    ∃ image, another.typedefs[r.typedefs index]? = some image ∧ image.name = typedef.name ∧
      r.renumber another (typedefNumber index) = typedefNumber (r.typedefs index) := by
  obtain ⟨image, isImage, same⟩ := r.sameTypedefs.exists_image found
  have bound := (List.getElem?_eq_some_iff.mp found).1
  exact ⟨image, isImage, congrArg TypeDef.name same, r.renumber_typedef bound⟩

variable (linked : one.Linked) (relinked : another.Linked)
include linked relinked

/-- What is written at a place has the number there that takes the place of its own. -/
theorem numberAt?_place {place : Place} {node : TypeExpr String} {number : Nat}
    (reached : one.document.nodeAt? place = some node)
    (numbered : one.numberAt? place = some number) :
    another.numberAt? (r.place place) = some (r.renumber another number) := by
  by_cases composite : node.isComposite
  · obtain ⟨position, listed⟩ :=
      List.mem_iff_getElem?.mp (Interface.mem_slots_document.mpr ⟨node, reached, composite⟩)
    rw [Interface.numberAt?_slots listed, Option.some.injEq] at numbered
    obtain ⟨target, found, same⟩ := r.exists_slot listed
    rw [← numbered, same, Interface.numberAt?_slots found]
  · have shown := Interface.shows_of_numberAt? linked reached numbered
    obtain ⟨image, imageNumbered, imageShown⟩ :=
      Interface.shows_of_nodeAt? relinked ((r.nodeAt?_place place).trans reached)
    rw [imageNumbered, Option.some.injEq]
    cases node with
    | builtin leaf =>
        obtain rfl : number = leaf.number := shown
        exact Eq.trans imageShown (r.renumber_builtin leaf).symm
    | reference name =>
        obtain ⟨index, named, rfl⟩ := shown
        obtain ⟨target, imageNamed, rfl⟩ := imageShown
        have bound : index < one.typedefs.length := by
          simpa [Interface.length_typedefs_document] using (List.getElem?_eq_some_iff.mp named).1
        have distinct : (another.document.typedefs.map (·.name)).Nodup := by
          rw [Interface.names_document]
          exact relinked.distinct
        have same := imageNamed.trans ((r.reindexed_names index).trans named).symm
        rw [r.renumber_typedef bound,
          (List.getElem?_inj (List.getElem?_eq_some_iff.mp imageNamed).1 distinct).mp same]
    | modified => exact absurd rfl composite
    | struct => exact absurd rfl composite
    | enum => exact absurd rfl composite

section Slot

variable {place : Place} {node : TypeExpr String} {number : Nat} {shape : Shape}
  (reached : one.document.nodeAt? place = some node) (composite : node.isComposite)
  (numbered : one.numberAt? place = some number) (isShape : one.shape? number = some shape)
include reached composite numbered isShape

theorem children_renumber {image : Shape}
    (isImage : another.shape? (r.renumber another number) = some image) :
    image.children = shape.children.map (r.renumber another) := by
  have imageNumbered := r.numberAt?_place linked relinked reached numbered
  have shown := Interface.shows_of_numberAt? linked reached numbered
  have imageShown := Interface.shows_of_numberAt? relinked
    ((r.nodeAt?_place place).trans reached) imageNumbered
  have length := shown.length_children composite isShape
  have imageLength := imageShown.length_children composite isImage
  refine List.ext_getElem (by simp [length, imageLength]) fun index bound _ => ?_
  obtain ⟨root, path⟩ := place
  have childReached := (Document.nodeAt?_child reached index).trans
    (List.getElem?_eq_getElem (imageLength ▸ bound))
  have childNumbered := (Interface.numberAt?_child numbered isShape index).trans
    (List.getElem?_eq_getElem (length ▸ imageLength ▸ bound))
  have imageChild := (Interface.numberAt?_child imageNumbered isImage index).symm.trans
    (r.numberAt?_place linked relinked childReached childNumbered)
  rw [List.getElem?_eq_getElem bound, Option.some.injEq] at imageChild
  rw [imageChild, List.getElem_map]

/-- The shape of a slot is found again with the numbers exchanged. -/
theorem shape?_renumber : another.shape? (r.renumber another number) =
    some (shape.renumber (r.renumber another)) := by
  have children : ∀ image, another.shape? (r.renumber another number) = some image →
      image.children = shape.children.map (r.renumber another) :=
    fun _ => r.children_renumber linked relinked reached composite numbered isShape
  have imageNumbered := r.numberAt?_place linked relinked reached numbered
  have shown := Interface.shows_of_numberAt? linked reached numbered
  have imageShown := Interface.shows_of_numberAt? relinked
    ((r.nodeAt?_place place).trans reached) imageNumbered
  cases node with
  | reference => cases composite
  | builtin => cases composite
  | enum members =>
      obtain rfl := Option.some.inj (isShape.symm.trans shown)
      exact imageShown
  | modified modifier inner =>
      obtain ⟨inner, isModified⟩ := shown
      obtain ⟨image, isImage⟩ := imageShown
      obtain rfl := Option.some.inj (isShape.symm.trans isModified)
      obtain rfl := List.head_eq_of_cons_eq (children _ isImage)
      exact isImage
  | struct fields =>
      obtain ⟨members, isStruct, names⟩ := shown
      obtain ⟨images, isImage, imageNames⟩ := imageShown
      obtain rfl := Option.some.inj (isShape.symm.trans isStruct)
      rw [isImage, Shape.struct_eq_renumber (imageNames.trans names.symm) (children _ isImage)]

end Slot

/-- Every entry is found again, with the same name and origin and with the numbers exchanged. -/
theorem exists_image {number : Nat} {entry : TypeEntry} (isEntry : one.type? number = some entry) :
    ∃ image, another.type? (r.renumber another number) = some image ∧ image.name = entry.name ∧
      image.origin = entry.origin ∧ image.shape = entry.shape.renumber (r.renumber another) := by
  rcases Interface.exists_slot isEntry with ⟨leaf, rfl, rfl⟩ | ⟨position, place, listed, rfl⟩
  · rw [r.renumber_builtin]
    exact ⟨_, another.type?_builtin leaf, rfl, rfl, rfl⟩
  · obtain ⟨node, reached, composite⟩ :=
      Interface.mem_slots_document.mp (List.mem_of_getElem? listed)
    have isShape : one.shape? (typedefNumber position) = some entry.shape := by
      rw [Interface.shape?, isEntry]
      rfl
    have imageShape := r.shape?_renumber linked relinked reached composite
      (Interface.numberAt?_slots listed) isShape
    obtain ⟨target, found, same⟩ := r.exists_slot listed
    obtain ⟨image, isImage, shape⟩ := Option.map_eq_some_iff.mp imageShape
    have isTarget := isImage
    rw [same] at isTarget
    refine ⟨image, isImage, ?_, ?_, shape⟩
    · rw [Interface.name_of_slot listed isEntry, Interface.name_of_slot found isTarget,
        Interface.groupNameAt?, Interface.groupNameAt?, r.nodeAt?_place, r.pathName_place]
    · have naming := Interface.namedAt_of_slot listed isEntry
      have imageNaming := Interface.namedAt_of_slot found isTarget
      apply TypeEntry.origin_eq
      · rw [imageNaming.origin, naming.origin, r.originAt_place]
      · rw [TypeEntry.isSuppressed_iff, TypeEntry.isSuppressed_iff, imageNaming.emptied,
          naming.emptied, r.isEmptySignature_place]

/-- A name is registered for the number that takes the place of the one it was registered for. -/
theorem number_renumber (distinct : (one.declarations.map (·.name)).Nodup) (name : String) :
    (another.declaration? name).map (·.number) =
      (one.declaration? name).map fun declaration => r.renumber another declaration.number := by
  have redistinct := (r.perm_names linked relinked).nodup_iff.mpr distinct
  have mapped : ((one.declaration? name).map fun declaration =>
      r.renumber another declaration.number) =
        ((one.declaration? name).map (·.number)).map (r.renumber another) := by
    rw [Option.map_map]
    rfl
  rw [mapped]
  ext image
  rw [Interface.number_of_declaration? redistinct, Option.map_eq_some_iff]
  constructor
  · rintro ⟨entry, isEntry, isDeclared⟩
    obtain ⟨number, ⟨source, isSource⟩, rfl⟩ := r.surjOn_renumber ⟨entry, isEntry⟩
    obtain ⟨image, isImage, sameName, sameOrigin, sameShape⟩ :=
      r.exists_image linked relinked isSource
    obtain rfl := Option.some.inj (isImage.symm.trans isEntry)
    refine ⟨number, (Interface.number_of_declaration? distinct).mpr ⟨source, isSource, ?_⟩, rfl⟩
    rwa [← TypeEntry.isDeclaration_of_renumber sameShape, TypeEntry.isSuppressed, ← sameOrigin,
      ← sameName]
  · rintro ⟨number, found, rfl⟩
    obtain ⟨entry, isEntry, isDeclared⟩ := (Interface.number_of_declaration? distinct).mp found
    obtain ⟨image, isImage, sameName, sameOrigin, sameShape⟩ :=
      r.exists_image linked relinked isEntry
    refine ⟨image, isImage, ?_⟩
    rwa [TypeEntry.isDeclaration_of_renumber sameShape, TypeEntry.isSuppressed, sameOrigin,
      sameName]

/-- Parameters and results are found again where their method or error is. -/
theorem getElem?_signatureNumbers_renumber {index number : Nat}
    (numbered : one.signatureNumbers[index]? = some number) :
    another.signatureNumbers[r.signature index]? = some (r.renumber another number) := by
  have bound := (List.getElem?_eq_some_iff.mp numbered).1
  rw [one.length_signatureNumbers] at bound
  have reached : one.document.nodeAt? ⟨one.document.typedefs.length + index, []⟩ =
      some one.document.signatureTypes[index] := by
    rw [nodeAt?, roots_signature, List.getElem?_eq_getElem bound]
    rfl
  have placed : one.numberAt? ⟨one.document.typedefs.length + index, []⟩ = some number := by
    rw [Interface.numberAt?, one.length_typedefs_document, one.rootNumbers_signature, numbered]
    rfl
  have sent := r.numberAt?_place linked relinked reached placed
  rw [place, root_signature, ← r.length_typedefs, another.length_typedefs_document,
    Interface.numberAt?, another.rootNumbers_signature] at sent
  exact (Option.bind_fun_some _).symm.trans sent

theorem exists_method {index : Nat} {method : Method}
    (found : one.methods[index]? = some method) :
    ∃ image, another.methods[r.methods index]? = some image ∧ image.name = method.name ∧
      ∀ part < 2, ∃ number, one.signatureNumbers[2 * index + part]? = some number ∧
        another.signatureNumbers[2 * r.methods index + part]? =
          some (r.renumber another number) := by
  obtain ⟨image, isImage, same⟩ := r.sameMethods.exists_image found
  refine ⟨image, isImage, congrArg MethodDef.name same, fun part isPart => ?_⟩
  have bound := (List.getElem?_eq_some_iff.mp found).1
  have inside : 2 * index + part < one.signatureNumbers.length := by
    rw [one.length_signatureNumbers_eq]
    omega
  have numbered := List.getElem?_eq_getElem inside
  have isMethod : index < one.document.methods.length := by
    simpa [Interface.document] using bound
  refine ⟨_, numbered, ?_⟩
  rw [← r.signature_method isMethod isPart]
  exact r.getElem?_signatureNumbers_renumber linked relinked numbered

theorem exists_error {index : Nat} {error : ErrorCase} (found : one.errors[index]? = some error) :
    ∃ image, another.errors[r.errors index]? = some image ∧ image.name = error.name ∧
      ∃ number, one.signatureNumbers[2 * one.methods.length + index]? = some number ∧
        another.signatureNumbers[2 * another.methods.length + r.errors index]? =
          some (r.renumber another number) := by
  obtain ⟨image, isImage, same⟩ := r.sameErrors.exists_image found
  refine ⟨image, isImage, congrArg ErrorDef.name same, ?_⟩
  have bound := (List.getElem?_eq_some_iff.mp found).1
  have inside : 2 * one.methods.length + index < one.signatureNumbers.length := by
    rw [one.length_signatureNumbers_eq]
    omega
  have numbered := List.getElem?_eq_getElem inside
  have methods : another.methods.length = one.document.methods.length := by
    simpa [Interface.document] using r.length_methods
  have listed : one.document.methods.length = one.methods.length := by
    simp [Interface.document]
  refine ⟨_, numbered, ?_⟩
  rw [methods, ← r.signature_error, listed]
  exact r.getElem?_signatureNumbers_renumber linked relinked numbered

end Renumber

/-- The interfaces of a document and of a reordering are the same but for the numbers of their
types, which are exchanged by `f`. -/
structure Renumbers {document other : Document} (r : document.Reordering other)
    (one another : Interface) (f : Nat → Nat) : Prop where
  name : another.name = one.name
  builtins : ∀ leaf : Builtin, f leaf.number = leaf.number
  bijective : Set.BijOn f one.numbers another.numbers
  /-- Corresponding entries have the same name, the same origin and the same shape. -/
  entries : ∀ number entry, one.type? number = some entry →
    ∃ image, another.type? (f number) = some image ∧ image.name = entry.name ∧
      image.origin = entry.origin ∧ image.shape = entry.shape.renumber f
  /-- The members are those of the document, each where the reordering has it. -/
  typedefs : ∀ (index : Nat) (typedef : Typedef), one.typedefs[index]? = some typedef →
    ∃ image, another.typedefs[r.typedefs index]? = some image ∧ image.name = typedef.name ∧
      f (typedefNumber index) = typedefNumber (r.typedefs index)
  methods : ∀ (index : Nat) (method : Method), one.methods[index]? = some method →
    ∃ image, another.methods[r.methods index]? = some image ∧ image.name = method.name ∧
      ∀ part < 2, ∃ number, one.signatureNumbers[2 * index + part]? = some number ∧
        another.signatureNumbers[2 * r.methods index + part]? = some (f number)
  errors : ∀ (index : Nat) (error : ErrorCase), one.errors[index]? = some error →
    ∃ image, another.errors[r.errors index]? = some image ∧ image.name = error.name ∧
      ∃ number, one.signatureNumbers[2 * one.methods.length + index]? = some number ∧
        another.signatureNumbers[2 * another.methods.length + r.errors index]? = some (f number)
  /-- The names of declarations are the same, and each is that of the same declaration. -/
  names : (another.declarations.map (·.name)).Perm (one.declarations.map (·.name))
  declared : ∀ name, (another.declaration? name).map (·.number) =
    (one.declaration? name).map fun declaration => f declaration.number

/-- A document and a reordering of it either both resolve or both fail, and they resolve to the same
but for the numbers of types. -/
theorem resolve_reordered {document other : Document} (r : document.Reordering other) :
    ((∃ one, document.resolve.outcome = .ok one) ↔
      ∃ another, other.resolve.outcome = .ok another) ∧
    ∀ one another, document.resolve.outcome = .ok one → other.resolve.outcome = .ok another →
      ∃ f, r.Renumbers one another f := by
  refine ⟨⟨?_, ?_⟩, ?_⟩
  · rintro ⟨one, resolved⟩
    exact r.exists_resolve resolved
  · rintro ⟨another, resolved⟩
    exact r.symm.exists_resolve resolved
  · intro one another resolved reresolved
    have distinct := nodup_names_of_resolve resolved
    obtain ⟨rfl, linked⟩ := link_eq_ok (outcome_resolve_eq_ok.mp resolved).1
    obtain ⟨rfl, relinked⟩ := link_eq_ok (outcome_resolve_eq_ok.mp reresolved).1
    refine ⟨r.renumber another, ?_⟩
    exact {
      name := r.name
      builtins := r.renumber_builtin
      bijective := r.bijOn_renumber
      entries := fun _ _ => r.exists_image linked relinked
      typedefs := fun _ _ => r.exists_typedef
      methods := fun _ _ => r.exists_method linked relinked
      errors := fun _ _ => r.exists_error linked relinked
      names := r.perm_names linked relinked
      declared := r.number_renumber linked relinked distinct }

/-- Two declarations that refer to each other, in both orders. -/
theorem resolve_reordered_mutual :
    let a : TypeDef :=
      ⟨"A", .struct [("next", .modified .maybe (.reference "B")), ("x", .enum ["on"])]⟩
    let b : TypeDef := ⟨"B", .struct [("back", .reference "A"), ("y", .struct [])]⟩
    let m : MethodDef := ⟨"M", .reference "B", .struct []⟩
    ∃ (r : Reordering ⟨"a", [m], [a, b], []⟩ ⟨"a", [m], [b, a], []⟩) (one another : Interface),
      (resolve ⟨"a", [m], [a, b], []⟩).outcome = .ok one ∧
        (resolve ⟨"a", [m], [b, a], []⟩).outcome = .ok another ∧
          ∃ f, r.Renumbers one another f := by
  intro a b m
  obtain ⟨r⟩ : Nonempty (Reordering ⟨"a", [m], [a, b], []⟩ ⟨"a", [m], [b, a], []⟩) :=
    exists_reordering rfl (.swap ..) (.refl _) (.refl _)
  have resolved : (resolve ⟨"a", [m], [a, b], []⟩).outcome = .ok ⟨"a",
      [⟨"A", .struct [("next", .modified .maybe (.reference 1)), ("x", .enum ["on"])]⟩,
        ⟨"B", .struct [("back", .reference 0), ("y", .struct [])]⟩],
      [⟨"M", .declared 1, .inline []⟩], []⟩ := by
    cbv
  obtain ⟨another, reresolved⟩ := (resolve_reordered r).1.mp ⟨_, resolved⟩
  exact ⟨r, _, another, resolved, reresolved, (resolve_reordered r).2 _ _ resolved reresolved⟩

end Document.Reordering

end Varlink
