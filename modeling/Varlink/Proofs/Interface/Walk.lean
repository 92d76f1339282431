import Varlink.Proofs.Interface.Groups
import Varlink.Proofs.Interface.PathNames

/-!
# The walk through a document

Groups in place are discovered depth first: the members of a declared type where it is first
referred to, and every declared type once. The walk is described here on the document, by places and
names alone. It has one result, and the walk that names the types of an interface is this one: it
meets the same groups in the same order, each under the name of its place.

The two walks are compared visit by visit. What is inside a type in place is covered by induction
over the type. A declared type may lead back to itself, so entering one is covered by induction on
how many have not been entered, which is what the walk itself ends by.
-/

namespace Varlink

/-- What the walk has to do next. -/
inductive Visit where
  /-- Enter a declared type, unless that has been done. -/
  | enter (index : Nat)
  /-- Look at what is written at a place. -/
  | look (place : Place)
  deriving DecidableEq, Repr

/-- The place of a type right inside the type at a place. -/
def Place.child (place : Place) (index : Nat) : Place := ⟨place.root, place.path ++ [index]⟩

namespace Document

/-- What the type at a place leads to: a reference to the declaration, any other type to the types
right inside it, in their order. -/
def within (document : Document) (place : Place) : List Visit :=
  match document.nodeAt? place with
  | some (.reference name) => (document.typedefIndex? name).toList.map .enter
  | some node => (List.range node.children.length).map fun index => .look (place.child index)
  | none => []

/-- Going through the visits with the declared types `unseen` not entered yet meets the groups at
the places `met` and leaves the declared types `left` to be entered. -/
inductive Walks (document : Document) :
    (visits : List Visit) → (unseen : List Nat) → (met : List Place) → (left : List Nat) → Prop
  | done {unseen : List Nat} : Walks document [] unseen [] unseen
  | enter {index : Nat} {visits : List Visit} {unseen middle left : List Nat}
      {inside after : List Place} (isUnseen : index ∈ unseen)
      (below : Walks document (document.within ⟨index, []⟩) (unseen.erase index) inside middle)
      (rest : Walks document visits middle after left) :
      Walks document (.enter index :: visits) unseen (inside ++ after) left
  | skip {index : Nat} {visits : List Visit} {unseen left : List Nat} {met : List Place}
      (isSeen : index ∉ unseen) (rest : Walks document visits unseen met left) :
      Walks document (.enter index :: visits) unseen met left
  | look {place : Place} {visits : List Visit} {unseen middle left : List Nat}
      {inside after : List Place}
      (below : Walks document (document.within place) unseen inside middle)
      (rest : Walks document visits middle after left) :
      Walks document (.look place :: visits) unseen
        ([place].filter document.hasGroup ++ inside ++ after) left

/-- All declared types in their order, then the types of the methods, parameters before results, and
those of the errors. -/
def itinerary (document : Document) : List Visit :=
  (List.range document.typedefs.length).map .enter ++
    (List.range document.signatureTypes.length).map fun index =>
      .look ⟨document.typedefs.length + index, []⟩

/-- The walk through the whole document discovers the groups at these places, in this order. -/
def Discovers (document : Document) (places : List Place) : Prop :=
  ∃ left, document.Walks document.itinerary (List.range document.typedefs.length) places left

namespace Walks

variable {document : Document} {visits : List Visit} {unseen left : List Nat} {met : List Place}

/-- The walk has one result. -/
theorem unique (first : document.Walks visits unseen met left) {otherMet : List Place}
    {otherLeft : List Nat} (second : document.Walks visits unseen otherMet otherLeft) :
    otherMet = met ∧ otherLeft = left := by
  induction first generalizing otherMet otherLeft with
  | done =>
      cases second
      exact ⟨rfl, rfl⟩
  | enter isUnseen _ _ belowSame restSame =>
      cases second with
      | enter _ below rest =>
          obtain ⟨rfl, rfl⟩ := belowSame below
          obtain ⟨rfl, rfl⟩ := restSame rest
          exact ⟨rfl, rfl⟩
      | skip isSeen => exact absurd isUnseen isSeen
  | skip isSeen _ restSame =>
      cases second with
      | enter isUnseen => exact absurd isUnseen isSeen
      | skip _ rest => exact restSame rest
  | look _ _ belowSame restSame =>
      cases second with
      | look below rest =>
          obtain ⟨rfl, rfl⟩ := belowSame below
          obtain ⟨rfl, rfl⟩ := restSame rest
          exact ⟨rfl, rfl⟩

/-- Visits are done one after the other. -/
theorem append {later : List Visit} {middle : List Nat} {after : List Place}
    (first : document.Walks visits unseen met middle)
    (second : document.Walks later middle after left) :
    document.Walks (visits ++ later) unseen (met ++ after) left := by
  induction first with
  | done => exact second
  | enter isUnseen below _ _ ih =>
      rw [List.append_assoc]
      exact .enter isUnseen below (ih second)
  | skip isSeen _ ih => exact .skip isSeen (ih second)
  | look below _ _ ih =>
      rw [List.append_assoc]
      exact .look below (ih second)

/-- The walk meets groups only. -/
theorem hasGroup (walks : document.Walks visits unseen met left) {place : Place}
    (isMet : place ∈ met) : document.hasGroup place := by
  induction walks with
  | done => cases isMet
  | enter _ _ _ below rest =>
      rcases List.mem_append.mp isMet with isMet | isMet
      · exact below isMet
      · exact rest isMet
  | skip _ _ rest => exact rest isMet
  | look _ _ below rest =>
      rcases List.mem_append.mp isMet with isMet | isMet
      · rcases List.mem_append.mp isMet with isHere | isMet
        · exact (List.mem_filter.mp isHere).2
        · exact below isMet
      · exact rest isMet

/-- Declared types are entered, never taken back. -/
theorem sublist (walks : document.Walks visits unseen met left) : left.Sublist unseen := by
  induction walks with
  | done => exact .refl _
  | enter _ _ _ below rest => exact (rest.trans below).trans List.erase_sublist
  | skip _ _ rest => exact rest
  | look _ _ below rest => exact rest.trans below

/-- A declared type that is to be entered has been entered at the end. -/
theorem entered (walks : document.Walks visits unseen met left) (nodup : unseen.Nodup)
    {index : Nat} (inside : Visit.enter index ∈ visits) : index ∉ left := by
  induction walks with
  | done => cases inside
  | enter _ below rest _ ih =>
      rcases List.mem_cons.mp inside with same | inside
      · obtain rfl := Visit.enter.inj same
        intro isLeft
        exact nodup.not_mem_erase ((rest.sublist.trans below.sublist).subset isLeft)
      · exact ih (below.sublist.nodup (nodup.erase _)) inside
  | skip isSeen rest ih =>
      rcases List.mem_cons.mp inside with same | inside
      · obtain rfl := Visit.enter.inj same
        intro isLeft
        exact isSeen (rest.sublist.subset isLeft)
      · exact ih nodup inside
  | look below rest _ ih =>
      have inside := (List.mem_cons.mp inside).resolve_left Visit.noConfusion
      exact ih (below.sublist.nodup nodup) inside

end Walks

theorem within_of_reference {document : Document} {place : Place} {name : String} {index : Nat}
    (reached : document.nodeAt? place = some (.reference name))
    (found : document.typedefIndex? name = some index) :
    document.within place = [.enter index] := by
  rw [within, reached]
  simp only
  rw [found]
  rfl

theorem within_of_composite {document : Document} {place : Place} {node : TypeExpr String}
    (reached : document.nodeAt? place = some node) (composite : node.isComposite) :
    document.within place =
      (List.range node.children.length).map fun index => .look (place.child index) := by
  rw [within, reached]
  cases node with
  | reference name => cases composite
  | _ => rfl

end Document

/-- A list goes through its items by their positions. -/
theorem flatMap_eq_range {α β : Type} (items : List α) (f : α → List β) :
    items.flatMap f =
      (List.range items.length).flatMap fun index => (items[index]?).toList.flatMap f := by
  conv_lhs => rw [← flatMap_range_getElem? items, List.flatMap_assoc]

/-- What is compared of a declaration. -/
def Declaration.key (declaration : Declaration) : String × Option Nat :=
  (declaration.name, some declaration.number)

namespace Interface

variable {interface : Interface}

/-- The name and the number of what stands at a place. -/
def keyAt (interface : Interface) (place : Place) : String × Option Nat :=
  (interface.document.pathName place, interface.numberAt? place)

/-- Going through the visits and through the stops comes to the same, as long as no more than
`levels` declared types are to be entered. -/
def Agrees (interface : Interface) (levels : Nat) (visits : List Visit) (stops : List Stop) :
    Prop :=
  ∀ unseen : List Nat, unseen.length ≤ levels →
    ∃ met left, interface.document.Walks visits unseen met left ∧
      ∀ pending, (Stop.walk interface.typedefStops (stops ++ pending) unseen).map Declaration.key =
        met.map interface.keyAt ++
          (Stop.walk interface.typedefStops pending left).map Declaration.key

section Agrees

variable {levels : Nat} {visits : List Visit} {stops : List Stop} {place : Place}

theorem Agrees.nil : interface.Agrees levels [] [] :=
  fun unseen _ => ⟨[], unseen, .done, fun _ => rfl⟩

theorem Agrees.append {later : List Visit} {laterStops : List Stop}
    (first : interface.Agrees levels visits stops)
    (second : interface.Agrees levels later laterStops) :
    interface.Agrees levels (visits ++ later) (stops ++ laterStops) := by
  intro unseen bound
  obtain ⟨met, middle, walks, same⟩ := first unseen bound
  obtain ⟨after, left, laterWalks, laterSame⟩ :=
    second middle (walks.sublist.length_le.trans bound)
  refine ⟨met ++ after, left, walks.append laterWalks, ?_⟩
  intro pending
  rw [List.append_assoc, same, laterSame, List.map_append, List.append_assoc]

theorem Agrees.flatMap {α : Type} {visit : α → Visit} {stopsOf : α → List Stop} {items : List α}
    (each : ∀ item ∈ items, interface.Agrees levels [visit item] (stopsOf item)) :
    interface.Agrees levels (items.map visit) (items.flatMap stopsOf) := by
  induction items with
  | nil => exact .nil
  | cons item items ih =>
      obtain ⟨head, tail⟩ := List.forall_mem_cons.mp each
      exact head.append (ih tail)

/-- Numbered items have their stops one after the other. -/
theorem Agrees.numbered {α : Type} {size : α → Nat} {items : List α} {first : Nat}
    {visit : Nat → Visit} {stopsOf : Nat × α → List Stop}
    (each : ∀ index item, items[index]? = some item → interface.Agrees levels [visit index]
      (stopsOf (first + offset size items index, item))) :
    interface.Agrees levels ((List.range items.length).map visit)
      ((numberFrom size first items).flatMap stopsOf) := by
  rw [flatMap_eq_range, length_numberFrom]
  refine .flatMap fun index inside => ?_
  have found := List.getElem?_eq_getElem (List.mem_range.mp inside)
  have agrees := each index _ found
  rw [getElem?_numberFrom, found, Option.map_some]
  simpa using agrees

/-- A type that has been entered is passed by on both sides, and one that has not is one type less
to be entered. -/
theorem Agrees.enter {index : Nat}
    (inside : ∀ fewer, fewer + 1 = levels → interface.Agrees fewer
      (interface.document.within ⟨index, []⟩) (interface.typedefStops index)) :
    interface.Agrees levels [.enter index] [.enter index] := by
  intro unseen bound
  by_cases isUnseen : index ∈ unseen
  · have less := Graph.length_erase_lt isUnseen
    obtain ⟨fewer, rfl⟩ := Nat.exists_eq_add_one_of_ne_zero (n := levels) (by omega)
    obtain ⟨met, left, walks, same⟩ := inside fewer rfl (unseen.erase index) (by omega)
    refine ⟨met ++ [], left, .enter isUnseen walks .done, ?_⟩
    intro pending
    rw [List.append_nil, List.singleton_append, Stop.walk, if_pos isUnseen, same]
  · refine ⟨[], unseen, .skip isUnseen .done, ?_⟩
    intro pending
    rw [List.singleton_append, Stop.walk, if_neg isUnseen]
    rfl

/-- What is no group is passed through. -/
theorem Agrees.through (noGroup : interface.document.hasGroup place = false)
    (inside : interface.Agrees levels (interface.document.within place) stops) :
    interface.Agrees levels [.look place] stops := by
  intro unseen bound
  obtain ⟨met, left, walks, same⟩ := inside unseen bound
  refine ⟨_, left, .look walks .done, ?_⟩
  intro pending
  rw [same, List.append_nil, List.filter_cons_of_neg (by simp [noGroup]), List.filter_nil,
    List.nil_append]

/-- A group is met before what is inside it. -/
theorem Agrees.group {declaration : Declaration} (isGroup : interface.document.hasGroup place)
    (sameKey : declaration.key = interface.keyAt place)
    (inside : interface.Agrees levels (interface.document.within place) stops) :
    interface.Agrees levels [.look place] (.found declaration :: stops) := by
  intro unseen bound
  obtain ⟨met, left, walks, same⟩ := inside unseen bound
  refine ⟨_, left, .look walks .done, ?_⟩
  intro pending
  rw [List.cons_append, Stop.walk, List.map_cons, same, List.append_nil,
    List.filter_cons_of_pos isGroup, List.filter_nil, sameKey]
  rfl

end Agrees

/-- The type at a place, with the name and the number it has there. -/
structure Located (interface : Interface) (place : Place) (type : LinkedType) (name : String)
    (first : Nat) : Prop where
  node : interface.document.nodeAt? place = some (type.rename interface.typedefName)
  named : interface.document.pathName place = name
  numbered : interface.numberAt? place = some (type.number first)
  inside : place.path ≠ []
  table : interface.TypeAt type name first

/-- The same for a struct, which may also be the body of a declaration or the type of a
signature. -/
structure LocatedStruct (interface : Interface) (place : Place) (fields : Fields) (name : String)
    (number first : Nat) : Prop where
  node : interface.document.nodeAt? place =
    some ((TypeExpr.struct fields).rename interface.typedefName)
  named : interface.document.pathName place = name
  numbered : interface.numberAt? place = some number
  table : interface.GroupAt number name (.struct fields) first

section Located

variable {place : Place} {name : String} {number first : Nat}

theorem Located.struct {fields : Fields}
    (located : interface.Located place (.struct fields) name first) :
    interface.LocatedStruct place fields name (first + TypeExpr.fieldsNumberCount fields) first :=
  ⟨located.node, located.named, located.numbered, located.table.struct⟩

theorem Located.hasGroup {type : LinkedType} (located : interface.Located place type name first) :
    interface.document.hasGroup place = type.isGroup := by
  have notSignature : ¬ interface.document.IsEmptySignature place :=
    fun empty => located.inside empty.2.1
  rw [Document.hasGroup, located.node, decide_eq_false notSignature, Option.any_some,
    TypeExpr.isGroup_rename, Bool.not_false, Bool.and_true]

theorem Located.modified {modifier : Modifier} {inner : LinkedType}
    (located : interface.Located place (.modified modifier inner) name first) :
    interface.Located (place.child 0) inner name first where
  node := Document.nodeAt?_child located.node 0
  named := (Document.pathName_concat located.node 0).trans located.named
  numbered := numberAt?_child located.numbered located.table.shape?_modified 0
  inside := List.append_ne_nil_of_right_ne_nil _ (List.cons_ne_nil _ _)
  table := located.table.modified

theorem LocatedStruct.field {fields : Fields}
    (located : interface.LocatedStruct place fields name number first) {index : Nat}
    {field : String × LinkedType} (found : fields[index]? = some field) :
    interface.Located (place.child index) field.2 (memberPath name field.1)
      (first + offset TypeExpr.fieldCount fields index) where
  node := by
    rw [Place.child, Document.nodeAt?_child located.node, TypeExpr.children_rename,
      List.getElem?_map, TypeExpr.children, List.getElem?_map, found]
    rfl
  named := by
    rw [Place.child, Document.pathName_concat located.node, TypeExpr.memberName?_rename,
      TypeExpr.memberName?, found, Option.map_some, Option.elim_some, located.named]
  numbered := by
    have isStruct : interface.shape? number = some (.struct (TypeExpr.fieldNumbers first fields)) :=
      located.table.shape
    rw [Place.child, numberAt?_child located.numbered isStruct, Shape.children, List.getElem?_map,
      getElem?_fieldNumbers, found]
    rfl
  inside := List.append_ne_nil_of_right_ne_nil _ (List.cons_ne_nil _ _)
  table := located.table.field found

end Located

/-- A reference is looked up under the name that was written for it. -/
theorem Linked.typedefIndex? (linked : interface.Linked) {index : Nat}
    (bound : index < interface.typedefs.length) :
    interface.document.typedefIndex? (interface.typedefName index) = some index := by
  have distinct : (interface.document.typedefs.map (·.name)).Nodup := by
    rw [names_document]
    exact linked.distinct
  rw [Document.typedefIndex?_eq_some_iff distinct, names_document, typedefName_eq,
    List.getElem?_eq_getElem (by simpa using bound)]
  rfl

section Walk

variable {levels : Nat} {place : Place} {name : String} {first : Nat}
  (linked : interface.Linked)
  (entering : ∀ index, index < interface.typedefs.length →
    interface.Agrees levels [.enter index] [.enter index])

/-- Fields are walked one after the other. -/
theorem agrees_fields {fields : Fields} {number : Nat}
    (located : interface.LocatedStruct place fields name number first)
    (each : ∀ field ∈ fields, ∀ place name first, interface.Located place field.2 name first →
      interface.Agrees levels [.look place] (field.2.stops name first)) :
    interface.Agrees levels (interface.document.within place)
      (TypeExpr.fieldStops name first fields) := by
  rw [Document.within_of_composite located.node rfl, TypeExpr.children_rename, List.length_map,
    TypeExpr.children, List.length_map, TypeExpr.fieldStops_eq]
  refine .numbered fun index field found => ?_
  exact each field (List.mem_of_getElem? found) _ _ _ (located.field found)

include linked entering in
/-- The walk through a type in place agrees with the one through its stops. -/
theorem agrees_of_located {type : LinkedType} (located : interface.Located place type name first) :
    interface.Agrees levels [.look place] (type.stops name first) := by
  induction type using TypeExpr.induction generalizing place name first with
  | reference index =>
      have bound := located.table.bound index (List.mem_singleton_self index)
      refine .through located.hasGroup ?_
      rw [Document.within_of_reference located.node (linked.typedefIndex? bound)]
      exact entering index bound
  | builtin leaf =>
      refine .through located.hasGroup ?_
      rw [Document.within, located.node]
      exact .nil
  | modified modifier inner ih =>
      refine .through located.hasGroup ?_
      rw [Document.within_of_composite located.node rfl]
      exact ih located.modified
  | struct fields ih =>
      refine .group located.hasGroup ?_ (agrees_fields located.struct ih)
      rw [keyAt, located.named, located.numbered]
      rfl
  | enum members =>
      refine .group located.hasGroup ?_ ?_
      · rw [keyAt, located.named, located.numbered]
        rfl
      · rw [Document.within_of_composite located.node rfl]
        exact .nil

end Walk

theorem locatedStruct_typedef (linked : interface.Linked) {index : Nat} {name : String}
    {fields : Fields} (found : interface.typedefs[index]? = some ⟨name, .struct fields⟩) :
    interface.LocatedStruct ⟨index, []⟩ fields name (typedefNumber index)
      (interface.typedefStart index) where
  node := nodeAt?_of_root (roots_typedef found) rfl
  named := (pathName_document (rootNames_typedef found) (roots_typedef found) []).trans
    (TypeExpr.pathName_nil ..)
  numbered := by
    rw [numberAt?, rootNumbers_typedef (List.getElem?_eq_some_iff.mp found).1]
    rfl
  table := groupAt_typedef linked found

theorem locatedStruct_signature (linked : interface.Linked) {index : Nat} {name : String}
    {fields : Fields} (found : interface.signatures[index]? = some (name, .inline fields)) :
    interface.LocatedStruct ⟨interface.typedefs.length + index, []⟩ fields name
      (interface.signatureStart index + TypeExpr.fieldsNumberCount fields)
      (interface.signatureStart index) where
  node := nodeAt?_of_root (roots_signature found) rfl
  named := (pathName_document (rootNames_signature found) (roots_signature found) []).trans
    (TypeExpr.pathName_nil ..)
  numbered := by
    rw [numberAt?, rootNumbers_signature, getElem?_signatureNumbers, found]
    rfl
  table := groupAt_signature linked found

/-- Entering a declared type comes to the same in both walks. -/
theorem agrees_enter (linked : interface.Linked) (levels index : Nat)
    (bound : index < interface.typedefs.length) :
    interface.Agrees levels [.enter index] [.enter index] := by
  induction levels generalizing index with
  | zero => exact .enter fun fewer same => nomatch same
  | succ levels ih =>
      refine .enter fun fewer same => ?_
      obtain rfl := Nat.succ.inj same
      obtain ⟨⟨name, body⟩, found⟩ : ∃ typedef, interface.typedefs[index]? = some typedef :=
        ⟨_, List.getElem?_eq_getElem bound⟩
      rw [typedefStops, getElem?_numberedTypedefs, found]
      cases body with
      | struct fields =>
          exact agrees_fields (locatedStruct_typedef linked found)
            fun _ _ _ _ _ => agrees_of_located linked ih
      | enum members =>
          have reached := nodeAt?_of_root (roots_typedef found) (TypeExpr.nodeAt?_nil _)
          rw [Document.within_of_composite reached rfl]
          exact .nil

/-- So does a signature, once all declared types have been entered. -/
theorem agrees_signature (linked : interface.Linked) {index : Nat} {name : String}
    {signature : Signature} (found : interface.signatures[index]? = some (name, signature)) :
    interface.Agrees 0 [.look ⟨interface.typedefs.length + index, []⟩]
      (signature.stops name (interface.signatureStart index)) := by
  have entering := agrees_enter linked 0
  cases signature with
  | declared target =>
      have reached := nodeAt?_of_root (roots_signature found) (TypeExpr.nodeAt?_nil _)
      have bound := linked.root (roots_signature found) (List.mem_singleton_self target)
      refine .through ?_ ?_
      · rw [Document.hasGroup, reached]
        rfl
      · rw [Document.within_of_reference reached (linked.typedefIndex? bound)]
        intro unseen none
        obtain rfl := List.length_eq_zero_iff.mp (Nat.le_zero.mp none)
        exact ⟨[], [], .skip List.not_mem_nil .done, fun _ => rfl⟩
  | inline fields =>
      have located := locatedStruct_signature linked found
      have inside := agrees_fields located fun _ _ _ _ _ => agrees_of_located linked entering
      have beyond : interface.document.typedefs.length ≤ interface.typedefs.length + index := by
        rw [length_typedefs_document]
        exact Nat.le_add_right ..
      cases fields with
      | nil =>
          refine .through ?_ inside
          rw [Document.hasGroup, decide_eq_true ⟨beyond, rfl, located.node⟩]
          exact Bool.and_false _
      | cons field fields =>
          refine .group ?_ ?_ inside
          · have notEmpty : ¬ interface.document.IsEmptySignature
                ⟨interface.typedefs.length + index, []⟩ :=
              fun empty => nomatch located.node.symm.trans empty.2.2
            rw [Document.hasGroup, located.node, decide_eq_false notEmpty]
            rfl
          · rw [keyAt, located.named, located.numbered]
            rfl

/-- The walk that names the types of an interface is the walk through its document. -/
theorem exists_discovers (linked : interface.Linked) : ∃ places,
    interface.document.Discovers places ∧
      interface.discovered.map Declaration.key = places.map interface.keyAt := by
  let indices := List.range interface.typedefs.length
  have typedefs : interface.Agrees indices.length (indices.map .enter)
      (indices.flatMap fun index => [.enter index]) :=
    .flatMap fun index inside => agrees_enter linked _ index (List.mem_range.mp inside)
  have signatures : interface.Agrees 0
      ((List.range interface.signatures.length).map fun index =>
        .look ⟨interface.typedefs.length + index, []⟩)
      (interface.numberedSignatures.flatMap fun numbered =>
        numbered.2.2.stops numbered.2.1 numbered.1) :=
    .numbered fun index _ found => agrees_signature linked found
  obtain ⟨inTypedefs, middle, typedefWalk, typedefSame⟩ := typedefs indices le_rfl
  have allEntered : middle = [] := by
    refine List.eq_nil_iff_forall_not_mem.mpr fun index isLeft => ?_
    have inside := typedefWalk.sublist.subset isLeft
    exact typedefWalk.entered List.nodup_range (List.mem_map_of_mem inside) isLeft
  obtain ⟨inSignatures, left, signatureWalk, signatureSame⟩ :=
    signatures middle (by rw [allEntered, List.length_nil])
  refine ⟨inTypedefs ++ inSignatures, ⟨left, ?_⟩, ?_⟩
  · rw [Document.itinerary, signatureTypes_document, List.length_map, length_typedefs_document]
    exact typedefWalk.append signatureWalk
  · have rest := signatureSame []
    rw [List.append_nil, Stop.walk, List.map_nil, List.append_nil] at rest
    rw [List.map_append, ← rest, ← typedefSame, ← List.map_eq_flatMap]
    rfl

end Interface

end Varlink
