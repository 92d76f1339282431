import Varlink.Arena.Rendering
import Varlink.Interface.Printer
import Varlink.Proofs.Arena
import Varlink.Proofs.Client.Name
import Varlink.Proofs.Interface.Groups

/-!
# What is read off an arena

The slots of an interface say how its types are written and what the members of its declarations are.
Reading them follows references from slot to slot without end in sight, and yet it ends: below a type
in place it goes along the type, and at a declared type it stops with the name. So the text and the
outline are those of the interface, and whatever is expected of a slot on the way is so.
-/

namespace Varlink

namespace Work

variable {α β : Type}

theorem pure_inj {first second : α} (same : (pure first : Work α) = pure second) :
    first = second :=
  Except.ok.inj (Option.some.inj same)

/-- Some item is as wanted, where each of them can be looked at. -/
theorem anyM_map_eq_pure {items : List α} {k : α → β} {f : β → Work Bool} {g : α → Bool}
    (each : ∀ item ∈ items, f (k item) = pure (g item)) :
    (items.map k).anyM f = pure (items.any g) := by
  induction items with
  | nil => rfl
  | cons item items ih =>
      obtain ⟨head, tail⟩ := List.forall_mem_cons.mp each
      rw [List.map_cons, List.anyM, head, pure_bind, ih tail, List.any_cons]
      cases g item <;> rfl

end Work

/-- What is placed one after the other is looked at one by one. -/
theorem mapM_numberFrom {α β γ : Type} {size : α → Nat} {first : Nat} {items : List α}
    {place : Nat → α → β} {f : β → Work γ} {g : α → γ}
    (each : ∀ start item, (start, item) ∈ numberFrom size first items →
      f (place start item) = pure (g item)) :
    ((numberFrom size first items).map fun (start, item) => place start item).mapM f =
      pure (items.map g) := by
  induction items generalizing first with
  | nil => rfl
  | cons item items ih =>
      rw [numberFrom] at each ⊢
      have head := each first item (List.mem_cons_self ..)
      have tail := ih fun start other inside => each start other (List.mem_cons_of_mem _ inside)
      rw [List.map_cons, List.mapM_cons, head, pure_bind, tail, pure_bind, List.map_cons]

namespace TypeExpr

/-- The fields of a struct are looked at one by one, each at the number of its type. -/
theorem mapM_fieldMembers {β : Type} {f : String × Option Nat → Work β}
    {g : String × LinkedType → β} {fields : Fields} {first : Nat}
    (each : ∀ index (field : String × LinkedType), fields[index]? = some field →
      f (field.1, some (field.2.number (first + offset fieldCount fields index))) =
        pure (g field)) :
    (fieldMembers first fields).mapM f = pure (fields.map g) := by
  induction fields generalizing first with
  | nil => rfl
  | cons field fields ih =>
      have head := each 0 field rfl
      have tail : (fieldMembers (first + field.2.numberCount) fields).mapM f =
          pure (fields.map g) := by
        refine ih fun index other found => ?_
        have later := each (index + 1) other found
        rwa [offset_cons_succ, ← Nat.add_assoc] at later
      rw [offset_zero, Nat.add_zero] at head
      rw [fieldMembers, fieldNumbers, List.map_cons, List.mapM_cons, head, pure_bind]
      rw [fieldMembers] at tail
      rw [tail]
      rfl

theorem printFields_eq_map {α : Type} (name : α → String) (fields : List (String × TypeExpr α)) :
    printFields name fields = fields.map fun field => field.1 ++ ": " ++ field.2.print name := by
  induction fields with
  | nil => rfl
  | cons field fields ih => rw [printFields, ih, List.map_cons]

end TypeExpr

namespace Interface

variable {interface : Interface} {number first : Nat} {entry : TypeEntry} {name : String}

theorem arena_typedefs (interface : Interface) :
    interface.arena.typedefs = interface.declarations.map (·.number) := rfl

theorem read_arena (isEntry : interface.type? number = some entry) :
    interface.arena.read number = pure entry.slot := by
  cases number with
  | zero => cases isEntry
  | succ index =>
      rw [type?] at isEntry
      rw [Arena.read, arena, List.getElem?_map, isEntry]
      rfl

theorem exists_type?_of_le_length {number : Nat} (positive : 0 < number)
    (bound : number ≤ interface.arena.slots.length) :
    ∃ entry, interface.type? number = some entry := by
  obtain ⟨index, rfl⟩ := Nat.exists_eq_add_one.mpr positive
  rw [arena, List.length_map] at bound
  exact ⟨_, List.getElem?_eq_getElem bound⟩

theorem read_arena_typedef {index : Nat} {typedef : Typedef}
    (found : interface.typedefs[index]? = some typedef) :
    interface.arena.read (typedefNumber index) =
      pure (typedef.slot (interface.typedefStart index)) :=
  read_arena (type?_typedef found)

theorem typedefName_of_getElem? {index : Nat} {typedef : Typedef}
    (found : interface.typedefs[index]? = some typedef) :
    interface.typedefName index = typedef.name := by
  rw [typedefName, found]

theorem groupAt_enum (name : String) (first : Nat) {members : List String}
    (isEntry : interface.type? number = some entry) (shape : entry.shape = .enum members) :
    interface.GroupAt number name (.enum members) first where
  shape := by
    rw [shape?, isEntry]
    exact congrArg some shape
  holds _ _ listed := nomatch listed
  bound _ inside := nomatch inside

theorem exists_of_mem_numberedSignatures {path : String} {signature : Signature}
    (inside : (first, path, signature) ∈ interface.numberedSignatures) :
    ∃ index, interface.signatures[index]? = some (path, signature) ∧
      interface.signatureStart index = first :=
  exists_of_mem_numberFrom inside

theorem mem_numberedSignatures_of_method {method : Method}
    (inside : (first, method) ∈
      numberFrom Method.numberCount interface.firstSignature interface.methods) :
    (first, method.name ++ "Args", method.parameters) ∈ interface.numberedSignatures ∧
      (first + method.parameters.numberCount, method.name ++ "Result", method.results) ∈
        interface.numberedSignatures := by
  rw [numberedSignatures_eq]
  constructor <;> refine List.mem_append_left _ (List.mem_flatMap.mpr ⟨_, inside, ?_⟩)
  · exact List.mem_cons_self ..
  · exact List.mem_cons_of_mem _ (List.mem_singleton_self _)

theorem mem_numberedSignatures_of_error {error : ErrorCase}
    (inside : (first, error) ∈
      numberFrom (·.parameters.numberCount) interface.firstError interface.errors) :
    (first, error.name ++ "Args", error.parameters) ∈ interface.numberedSignatures := by
  rw [numberedSignatures_eq]
  exact List.mem_append_right _ (List.mem_map_of_mem inside)

theorem origin_of_mem_innerEntries (inside : entry ∈ interface.innerEntries) :
    entry.origin ≠ .typedef := by
  rcases exists_of_mem_innerEntries inside with
    ⟨index, typedef, -, inside⟩ | ⟨index, name, fields, -, inside⟩
  · rw [(TypeExpr.anonymous_of_mem_fieldEntries inside).1]
    simp
  · rcases List.mem_append.mp inside with inside | last
    · rw [(TypeExpr.anonymous_of_mem_fieldEntries inside).1]
      simp
    · obtain rfl := List.mem_singleton.mp last
      split_ifs <;> simp

section Text

/-- A type is shown as it is written, wherever it stands in the table. -/
def ShowsType (interface : Interface) (number : Nat) (type : LinkedType) : Prop :=
  interface.arena.showType number = pure (interface.printType type)

theorem showsType_typedef {index : Nat} {typedef : Typedef}
    (found : interface.typedefs[index]? = some typedef) :
    interface.ShowsType (typedefNumber index) (.reference index) := by
  rw [ShowsType, Arena.showType, read_arena_typedef found, pure_bind]
  show pure typedef.name = _
  rw [printType, TypeExpr.print, typedefName_of_getElem? found]

theorem showsType_builtin (leaf : Builtin) :
    interface.ShowsType leaf.number (.builtin leaf) := by
  rw [ShowsType, Arena.showType, read_arena (interface.type?_builtin leaf), pure_bind]
  rfl

theorem showsType_modified {modifier : Modifier} {inner : LinkedType} {innerNumber : Nat}
    (isEntry : interface.type? number = some entry) (inPlace : entry.origin ≠ .typedef)
    (shape : entry.shape = .modified modifier innerNumber)
    (shown : interface.ShowsType innerNumber inner) :
    interface.ShowsType number (.modified modifier inner) := by
  have notTypedef : entry.slot.origin ≠ .typedef := inPlace
  have kind : entry.slot.kind = .modified modifier innerNumber := by
    rw [TypeEntry.slot, shape, Shape.slotKind]
  rw [ShowsType, Arena.showType, read_arena isEntry, pure_bind, if_neg notTypedef, kind]
  dsimp only
  rw [shown, pure_bind]
  rfl

/-- The body of a group is shown as it is written, if the types of its fields are shown. -/
theorem showBody_eq {group : Group} (located : interface.GroupAt number name group first)
    (each : ∀ field ∈ group.fields, ∀ name first, interface.TypeAt field.2 name first →
      interface.ShowsType (field.2.number first) field.2) :
    interface.arena.showBody number = pure (interface.printType group.toType) := by
  obtain ⟨entry, isEntry, shape⟩ := Option.map_eq_some_iff.mp located.shape
  have kind : entry.slot.kind = .group group.kind (group.slotMembers first) := by
    rw [← group.slotKind_shape, ← shape]
    rfl
  rw [Arena.showBody, read_arena isEntry, pure_bind, Slot.isGroup, Slot.members, kind]
  dsimp only
  rw [if_pos rfl]
  cases group with
  | struct fields =>
      rw [Group.slotMembers, TypeExpr.mapM_fieldMembers
        (g := fun field => field.1 ++ ": " ++ field.2.print interface.typedefName), pure_bind,
        ← TypeExpr.printFields_eq_map]
      · rfl
      · intro index field found
        have shown : interface.arena.showType
            (field.2.number (first + offset TypeExpr.fieldCount fields index)) =
            pure (interface.printType field.2) :=
          each field (List.mem_of_getElem? found) _ _ (located.field found)
        dsimp only
        rw [shown]
        rfl
  | enum members =>
      rw [Group.slotMembers, List.mapM_map, Work.mapM_eq_pure (g := id), List.map_id]
      · rfl
      · intro member _
        rfl

/-- The slot of a group has its members. -/
theorem kind_of_groupAt {group : Group} (located : interface.GroupAt number name group first)
    (isEntry : interface.type? number = some entry) :
    entry.slot.kind = .group group.kind (group.slotMembers first) := by
  obtain ⟨other, isOther, shape⟩ := Option.map_eq_some_iff.mp located.shape
  obtain rfl := Option.some.inj (isEntry.symm.trans isOther)
  rw [← group.slotKind_shape, ← shape]
  rfl

/-- A struct or an enum that is no declared type is shown by its body. -/
theorem showsType_group {group : Group} (isEntry : interface.type? number = some entry)
    (inPlace : entry.origin ≠ .typedef) (located : interface.GroupAt number name group first)
    (each : ∀ field ∈ group.fields, ∀ name first, interface.TypeAt field.2 name first →
      interface.ShowsType (field.2.number first) field.2) :
    interface.ShowsType number group.toType := by
  have notTypedef : entry.slot.origin ≠ .typedef := inPlace
  rw [ShowsType, Arena.showType, read_arena isEntry, pure_bind, if_neg notTypedef,
    kind_of_groupAt located isEntry]
  exact showBody_eq located each

theorem showsType_enum {members : List String} (isEntry : interface.type? number = some entry)
    (inPlace : entry.origin ≠ .typedef) (shape : entry.shape = .enum members) :
    interface.ShowsType number (.enum members) :=
  showsType_group isEntry inPlace (groupAt_enum "" 0 isEntry shape) fun _ inside => nomatch inside

theorem TypeAt.showsType {type : LinkedType} (located : interface.TypeAt type name first) :
    interface.ShowsType (type.number first) type := by
  induction type using TypeExpr.induction generalizing name first with
  | reference index =>
      have bound := located.bound index (List.mem_singleton_self index)
      exact showsType_typedef (List.getElem?_eq_getElem bound)
  | builtin leaf => exact showsType_builtin leaf
  | modified modifier inner ih =>
      have isEntry := located.holds.last
      rw [TypeExpr.length_entries] at isEntry
      exact showsType_modified isEntry (by simp) rfl (ih located.modified)
  | struct fields ih =>
      have isEntry := located.holds.last
      rw [TypeExpr.length_fieldEntries] at isEntry
      exact showsType_group isEntry (by simp) located.struct fun field inside _ _ => ih field inside
  | enum members =>
      have isEntry : interface.type? first = some _ := located.holds 0 _ rfl
      exact showsType_enum isEntry (by simp) rfl

/-- So is an entry of a type in place, under every number it has. -/
theorem EntryAt.showsType (placed : interface.EntryAt entry)
    (isEntry : interface.type? number = some entry) :
    interface.ShowsType number entry.written := by
  cases placed with
  | modified located => exact showsType_modified isEntry (by simp) rfl located.showsType
  | @struct origin fields name first inPlace holds bound =>
      have located : interface.GroupAt number name (.struct fields) first :=
        ⟨by rw [shape?, isEntry]; rfl, holds, bound⟩
      exact showsType_group isEntry inPlace located fun _ _ _ _ located => located.showsType
  | enum => exact showsType_enum isEntry (by simp) rfl

/-- Every type of the interface is shown as it is written. -/
theorem showsType_of_type? (linked : interface.Linked)
    (isEntry : interface.type? number = some entry) :
    interface.ShowsType number entry.written := by
  rcases exists_of_type? isEntry with ⟨leaf, rfl, rfl⟩ | ⟨index, typedef, found, rfl, rfl⟩ |
    ⟨position, -, inner⟩
  · exact showsType_builtin leaf
  · exact showsType_typedef found
  · exact (entryAt_of_mem_innerEntries linked (List.mem_of_getElem? inner)).showsType isEntry

theorem showsType_signature (linked : interface.Linked) {path : String} {signature : Signature}
    (inside : (first, path, signature) ∈ interface.numberedSignatures) :
    interface.ShowsType (signature.number first) signature.toType := by
  obtain ⟨index, found, rfl⟩ := exists_of_mem_numberedSignatures inside
  cases signature with
  | declared target =>
      have bound := linked.signatures _ (List.mem_of_getElem? found) target
        (List.mem_singleton_self target)
      exact showsType_typedef (List.getElem?_eq_getElem bound)
  | inline fields =>
      have isEntry := (holds_signature found).last
      rw [TypeExpr.length_fieldEntries] at isEntry
      exact showsType_of_type? linked isEntry

theorem showTypedef_typedef (linked : interface.Linked) {index : Nat} {typedef : Typedef}
    (found : interface.typedefs[index]? = some typedef) :
    interface.arena.showTypedef (typedefNumber index) = pure (interface.printTypedef typedef) := by
  have body := showBody_eq (groupAt_typedef linked found) fun _ _ _ _ located => located.showsType
  have isTypedef : (typedef.slot (interface.typedefStart index)).origin = .typedef := rfl
  rw [Arena.showTypedef, read_arena_typedef found, pure_bind, if_pos isTypedef, body]
  rfl

/-- A group in place has no text of its own. -/
theorem showTypedef_discovered {declaration : Declaration}
    (isDiscovered : declaration ∈ interface.discovered) :
    interface.arena.showTypedef declaration.number = pure "" := by
  obtain ⟨position, entry, inner, found⟩ := mem_discovered.mp isDiscovered
  have isEntry : interface.type? declaration.number = some entry := by
    rw [(TypeEntry.of_declaration? found).1, type?_inner, inner]
  have inPlace : entry.slot.origin ≠ .typedef := origin_of_mem_innerEntries (List.mem_of_getElem? inner)
  rw [Arena.showTypedef, read_arena isEntry, pure_bind, if_neg inPlace]

theorem mapM_showTypedef (linked : interface.Linked) :
    interface.arena.typedefs.mapM interface.arena.showTypedef =
      pure (interface.typedefs.map interface.printTypedef ++
        interface.discovered.map fun _ => "") := by
  have declared : (interface.declared.map (·.number)).mapM interface.arena.showTypedef =
      pure (interface.declared.map fun declaration =>
        interface.printTypedef ⟨declaration.name, declaration.body⟩) := by
    rw [List.mapM_map]
    refine Work.mapM_eq_pure fun declaration inside => ?_
    obtain ⟨index, bound, rfl⟩ := List.mem_mapIdx.mp inside
    exact showTypedef_typedef linked (List.getElem?_eq_getElem bound)
  have typedefs : (interface.declared.map fun declaration =>
      interface.printTypedef ⟨declaration.name, declaration.body⟩) =
        interface.typedefs.map interface.printTypedef := by
    apply List.ext_getElem?
    intro index
    simp [Interface.declared, Function.comp_def]
  have discovered : (interface.discovered.map (·.number)).mapM interface.arena.showTypedef =
      pure (interface.discovered.map fun _ => "") := by
    rw [List.mapM_map]
    exact Work.mapM_eq_pure fun _ => showTypedef_discovered
  rw [arena_typedefs, Interface.declarations, List.map_append, List.mapM_append, declared, pure_bind,
    discovered, pure_bind, typedefs]

theorem mapM_showMethod (linked : interface.Linked) :
    interface.arena.methods.mapM interface.arena.showMethod =
      pure (interface.methods.map interface.printMethod) := by
  refine mapM_numberFrom fun first method inside => ?_
  obtain ⟨parameters, results⟩ := mem_numberedSignatures_of_method inside
  rw [Arena.showMethod, Method.inArena, showsType_signature linked parameters,
    showsType_signature linked results]
  rfl

theorem mapM_showError (linked : interface.Linked) :
    interface.arena.errors.mapM interface.arena.showError =
      pure (interface.errors.map interface.printError) := by
  refine mapM_numberFrom fun first error inside => ?_
  rw [Arena.showError, ErrorCase.inArena,
    showsType_signature linked (mem_numberedSignatures_of_error inside)]
  rfl

/-- The text of the arena is that of the interface. -/
theorem print_arena (linked : interface.Linked) :
    interface.arena.print = pure interface.print := by
  rw [Arena.print, mapM_showTypedef linked, mapM_showError linked, mapM_showMethod linked]
  have none : String.join (interface.discovered.map fun _ => "") = "" := by
    generalize interface.discovered = declarations
    induction declarations with
    | nil => rfl
    | cons declaration declarations ih => rw [List.map_cons, String.join_cons, ih]; rfl
  simp only [pure_bind, String.join_append, none, String.append_empty]
  rfl

end Text

section Outline

theorem declarationName_arena (isEntry : interface.type? number = some entry)
    (isNamed : entry.name = some name) : interface.arena.declarationName number = pure name := by
  have slotNamed : entry.slot.name = some name := isNamed
  rw [Arena.declarationName, read_arena isEntry, pure_bind, slotNamed]

/-- What a slot of this kind is to a member. -/
theorem memberType_group {kind : GroupKind} {members : List (String × Option Nat)}
    (isEntry : interface.type? number = some entry) (isNamed : entry.name = some name)
    (isGroup : entry.slot.kind = .group kind members) :
    interface.arena.memberType number = pure (.named name) := by
  rw [Arena.memberType, read_arena isEntry, pure_bind, isGroup]
  dsimp only
  rw [declarationName_arena isEntry isNamed]
  rfl

theorem memberType_modified {modifier : Modifier} {innerNumber : Nat} {inner : MemberType}
    (isEntry : interface.type? number = some entry)
    (isModified : entry.slot.kind = .modified modifier innerNumber)
    (isInner : interface.arena.memberType innerNumber = pure inner) :
    interface.arena.memberType number = pure (.modified modifier inner) := by
  rw [Arena.memberType, read_arena isEntry, pure_bind, isModified]
  dsimp only
  rw [isInner]
  rfl

/-- The type of a member is the one that its type in place stands for. -/
theorem TypeAt.memberType {type : LinkedType} (located : interface.TypeAt type name first) :
    interface.arena.memberType (type.number first) =
      pure (type.toMemberType interface.typedefName name) := by
  induction type using TypeExpr.induction generalizing name first with
  | reference index =>
      have found := List.getElem?_eq_getElem
        (located.bound index (List.mem_singleton_self index))
      rw [TypeExpr.toMemberType, typedefName_of_getElem? found]
      exact memberType_group (type?_typedef found) rfl (Typedef.kind_slot ..)
  | builtin leaf =>
      rw [TypeExpr.number, Arena.memberType, read_arena (interface.type?_builtin leaf), pure_bind]
      rfl
  | modified modifier inner ih =>
      have isEntry := located.holds.last
      rw [TypeExpr.length_entries] at isEntry
      exact memberType_modified isEntry rfl (ih located.modified)
  | struct fields ih =>
      have isEntry := located.holds.last
      rw [TypeExpr.length_fieldEntries] at isEntry
      exact memberType_group isEntry rfl rfl
  | enum members =>
      have isEntry : interface.type? first = some _ := located.holds 0 _ rfl
      exact memberType_group isEntry rfl rfl

/-- A declaration is read with its name and its members. -/
theorem declaration_arena (linked : interface.Linked) {declaration : Declaration}
    (isDeclared : declaration ∈ interface.declarations) :
    interface.arena.declaration declaration.number =
      pure (declaration.name, interface.members declaration) := by
  obtain ⟨first, located⟩ := exists_groupAt linked isDeclared
  obtain ⟨entry, isEntry, isNamed⟩ := name_of_mem_declarations isDeclared
  have kind := kind_of_groupAt located isEntry
  rw [Arena.declaration, read_arena isEntry, pure_bind, declarationName_arena isEntry isNamed,
    pure_bind, kind, members]
  obtain ⟨name, number, body⟩ := declaration
  cases body with
  | enum members =>
      rw [Group.slotMembers]
      simp [Group.kind, Function.comp_def]
  | struct fields =>
      dsimp only [Group.kind, Group.slotMembers]
      rw [TypeExpr.mapM_fieldMembers (g := fun field =>
        (field.1, field.2.toMemberType interface.typedefName (memberPath name field.1))), pure_bind]
      intro index field found
      have isType : interface.arena.memberType
          (field.2.number (first + offset TypeExpr.fieldCount fields index)) =
            pure (field.2.toMemberType interface.typedefName (memberPath name field.1)) :=
        (located.field found).memberType
      rw [Arena.field, isType]
      rfl

theorem wrapper_named (isEntry : interface.type? number = some entry)
    (isShown : entry.origin ≠ .suppressedWrapper) (isNamed : entry.name = some name) :
    interface.arena.wrapper number = pure (some name) := by
  have shown : entry.slot.origin ≠ .suppressedWrapper := isShown
  rw [Arena.wrapper, read_arena isEntry, pure_bind, if_neg shown,
    declarationName_arena isEntry isNamed]
  rfl

/-- The name of a signature is there unless it is suppressed. -/
theorem wrapper_arena (linked : interface.Linked) {path : String} {signature : Signature}
    (inside : (first, path, signature) ∈ interface.numberedSignatures) :
    interface.arena.wrapper (signature.number first) =
      pure (interface.signatureName? path signature) := by
  obtain ⟨index, found, rfl⟩ := exists_of_mem_numberedSignatures inside
  match signature with
  | .declared target =>
      have bound := linked.signatures _ (List.mem_of_getElem? found) target
        (List.mem_singleton_self target)
      have isTypedef := List.getElem?_eq_getElem bound
      rw [signatureName?, typedefName_of_getElem? isTypedef]
      exact wrapper_named (type?_typedef isTypedef) (by simp) rfl
  | .inline [] =>
      have isEntry := (holds_signature found).last
      rw [TypeExpr.length_fieldEntries] at isEntry
      rw [Signature.number, Arena.wrapper, read_arena isEntry, pure_bind]
      rfl
  | .inline (field :: fields) =>
      have isEntry := (holds_signature found).last
      rw [TypeExpr.length_fieldEntries] at isEntry
      exact wrapper_named isEntry (by simp) rfl

theorem isTaken_arena (interface : Interface) (name : String) : interface.arena.isTaken name =
    pure (decide (name ∈ interface.declarations.map (·.name))) := by
  have each : ∀ declaration ∈ interface.declarations,
      (do return decide ((← interface.arena.read declaration.number).name = some name)) =
        (pure (decide (declaration.name = name)) : Work Bool) := by
    intro declaration inside
    obtain ⟨entry, isEntry, isNamed⟩ := name_of_mem_declarations inside
    rw [read_arena isEntry, pure_bind, TypeEntry.slot, isNamed]
    simp
  rw [Arena.isTaken, arena_typedefs, Work.anyM_map_eq_pure each]
  congr 1
  rw [List.any_eq]
  exact decide_eq_decide.mpr (by simp)

/-- One candidate is tried. -/
theorem freeName_step (interface : Interface) (client : String) :
    interface.arena.freeName client =
      if interface.isFree client then pure client
      else interface.arena.freeName (client ++ "Client") := by
  rw [Arena.freeName, isTaken_arena, isTaken_arena]
  by_cases taken : client ∈ interface.declarations.map (·.name)
  · have notFree : ¬ interface.isFree client := fun free => (isFree_iff.mp free).1 taken
    rw [if_neg notFree, decide_eq_true taken]
    rfl
  · rw [decide_eq_false taken]
    by_cases errorTaken : errorTypeName client ∈ interface.declarations.map (·.name)
    · have notFree : ¬ interface.isFree client := fun free => (isFree_iff.mp free).2 errorTaken
      rw [if_neg notFree, decide_eq_true errorTaken]
      rfl
    · rw [if_pos (isFree_iff.mpr ⟨taken, errorTaken⟩), decide_eq_false errorTaken]
      rfl

/-- A name is lengthened until it is free, and no further. -/
theorem freeName_of_least {stem : String} {least : Nat}
    (free : interface.isFree (lengthened stem least))
    (taken : ∀ count < least, ¬ interface.isFree (lengthened stem count)) :
    interface.arena.freeName stem = pure (lengthened stem least) := by
  have fromEarlier : ∀ more count, count + more = least →
      interface.arena.freeName (lengthened stem count) = pure (lengthened stem least) := by
    intro more
    induction more with
    | zero =>
        rintro count rfl
        exact (freeName_step ..).trans (if_pos free)
    | succ more ih =>
        intro count reached
        rw [freeName_step, if_neg (taken count (by omega)), ← lengthened_succ]
        exact ih (count + 1) (by omega)
  have first : lengthened stem 0 = stem := String.append_empty
  have fromFirst := fromEarlier least 0 (Nat.zero_add _)
  rwa [first] at fromFirst

theorem freeName_arena (interface : Interface) :
    interface.arena.freeName interface.arena.clientStem = pure interface.clientName :=
  freeName_of_least interface.isFree_clientName fun _ => not_isFree_of_lt

theorem mapM_errorOutline (linked : interface.Linked) :
    interface.arena.errors.mapM interface.arena.errorOutline =
      pure (interface.errors.map interface.errorOutline) := by
  refine mapM_numberFrom fun first error inside => ?_
  rw [Arena.errorOutline, ErrorCase.inArena,
    wrapper_arena linked (mem_numberedSignatures_of_error inside)]
  rfl

theorem mapM_callOutline (linked : interface.Linked) :
    interface.arena.methods.mapM interface.arena.callOutline =
      pure (interface.methods.map interface.callOutline) := by
  refine mapM_numberFrom fun first method inside => ?_
  obtain ⟨parameters, results⟩ := mem_numberedSignatures_of_method inside
  rw [Arena.callOutline, Method.inArena, wrapper_arena linked parameters,
    wrapper_arena linked results]
  rfl

/-- The outline of the arena is that of the interface. -/
theorem outline_arena (linked : interface.Linked) :
    interface.arena.outline = pure interface.outline := by
  have declarations : interface.arena.typedefs.mapM interface.arena.declaration =
      pure interface.declaredMembers := by
    rw [arena_typedefs, List.mapM_map]
    exact Work.mapM_eq_pure fun _ => declaration_arena linked
  rw [Arena.outline, freeName_arena, declarations, mapM_errorOutline linked, mapM_callOutline linked]
  rfl

/-- The client made from the arena is the one made from the interface. -/
theorem typeScript_arena (linked : interface.Linked) :
    interface.arena.typeScript = pure interface.outline.toTypeScript := by
  rw [Arena.typeScript, outline_arena linked]
  rfl

end Outline

end Interface

end Varlink
