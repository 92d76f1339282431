import Varlink.Proofs.Arena.Lowering
import Varlink.Proofs.Interface.Declarations

/-!
# The slots of the declarations

Every declaration has its slot before the first of them is filled, so its name leads to the slot from
everywhere. Filling them one by one leaves a prefix of filled slots, the reserved ones behind it, and
after these the types in place that have been met so far. When the last declaration is filled, none
is left empty, and the signatures can be put behind.
-/

namespace Varlink

/-- The entries of the types inside a declared type. -/
def Typedef.entries (first : Nat) (typedef : Typedef) : List TypeEntry :=
  TypeExpr.fieldEntries typedef.name first typedef.body.fields

namespace Build

open TypeExpr

/-- Declarations with numbers that follow each other. -/
def numbered (first : Nat) (typedefs : List TypeDef) : List (String × Nat) :=
  (typedefs.map (·.name)).zip (List.range' first typedefs.length)

theorem numbered_cons (first : Nat) (typedef : TypeDef) (typedefs : List TypeDef) :
    numbered first (typedef :: typedefs) = (typedef.name, first) :: numbered (first + 1) typedefs := by
  rw [numbered, List.map_cons, List.length_cons, List.range'_succ, List.zip_cons_cons, numbered]

theorem lookup_numbered (name : String) (first : Nat) (typedefs : List TypeDef) :
    (numbered first typedefs).lookup name =
      (typedefs.findIdx? fun typedef => typedef.name = name).map (first + ·) := by
  induction typedefs generalizing first with
  | nil => rfl
  | cons typedef typedefs ih =>
      rw [numbered_cons, List.lookup_cons, List.findIdx?_cons]
      by_cases same : typedef.name = name
      · simp [same]
      · have differ : (name == typedef.name) = false := beq_false_of_ne (Ne.symm same)
        simp [same, differ, ih, Function.comp_def, Nat.add_assoc, Nat.add_comm 1]

/-- Registering declarations reserves a slot for each, unless two have the same name. -/
theorem run_register (typedefs : List TypeDef) {names : List (String × Nat)} {seen : List String}
    (known : ∀ name, name ∈ seen ↔ name ∈ names.map (·.1)) {slots : Slots}
    (fits : slots.length + typedefs.length < UInt32.size) :
    (typedefs.foldlM (fun names typedef => register names typedef.name) names).run slots =
      Work.settled ((Document.checkDistinct seen (typedefs.map (·.name))).map fun _ =>
        (names ++ numbered (slots.length + 1) typedefs,
          slots ++ List.replicate typedefs.length none)) := by
  induction typedefs generalizing names seen slots with
  | nil => simp [numbered, Document.checkDistinct, Except.map]
  | cons typedef typedefs ih =>
      rw [List.length_cons] at fits
      have isKnown : names.any (·.1 = typedef.name) ↔ typedef.name ∈ seen := by
        simp [known]
      rw [List.foldlM_cons, StateT.run_bind, register, List.map_cons, Document.checkDistinct]
      by_cases twice : typedef.name ∈ seen
      · rw [if_pos (isKnown.mpr twice), if_pos twice]
        rfl
      · rw [if_neg (mt isKnown.mp twice), if_neg twice]
        have grown : ∀ name, name ∈ typedef.name :: seen ↔
            name ∈ (names ++ [(typedef.name, slots.length + 1)]).map (·.1) := by
          intro name
          simp [known, or_comm]
        rw [StateT.run_bind, run_reserve (by omega), pure_bind, StateT.run_pure, pure_bind,
          ih grown (by rw [List.length_append, List.length_singleton]; omega)]
        simp [numbered_cons, List.replicate_succ]

section Fill

variable {names : List (String × Nat)} {find : String → Option Nat}
  (known : ∀ name, names.lookup name = (find name).map typedefNumber)
include known

/-- The types inside a declaration are put behind all slots, and its own slot is filled. -/
theorem run_lowerTypedef (typedef : TypeDef) {slots : Slots} {index : Nat}
    (bound : index < slots.length)
    (fits : slots.length + Document.innerCount typedef < UInt32.size) :
    (lowerTypedef names (index + 1) typedef).run slots =
      Work.settled ((Document.linkTypedef find typedef).map fun linked =>
        ((), (slots ++ (linked.entries (slots.length + 1)).map TypeEntry.unnamed).set index
          (some (linked.slot (slots.length + 1))))) := by
  obtain ⟨name, body⟩ := typedef
  cases body with
  | struct fields =>
      have inside := adds_fields known fields (Nat.zero_add (maxNesting + 1)) name
      rw [lowerTypedef, Document.linkTypedef]
      dsimp only
      rw [StateT.run_bind, StateT.run_map, inside.run slots List.nil_prefix fits, map_eq_pure_bind,
        Work.settled_map, Work.settled_map, Work.settled_bind]
      simp only [bind_assoc, pure_bind]
      refine Work.settled_bind_congr fun linked _ => ?_
      rw [run_fill (by rw [List.length_append]; omega)]
      rfl
  | enum members =>
      rw [lowerTypedef, Document.linkTypedef]
      dsimp only
      rw [pure_bind, run_fill bound]
      simp [Except.map, Typedef.entries, Group.fields, fieldEntries]
      rfl
  | reference => rfl
  | builtin => rfl
  | modified => rfl

theorem numberCount_of_linkTypedef {typedef : TypeDef} {linked : Typedef}
    (isLinked : Document.linkTypedef find typedef = .ok linked) :
    linked.body.numberCount = Document.innerCount typedef := by
  obtain ⟨name, body⟩ := typedef
  cases body with
  | struct fields =>
      have inside := adds_fields known fields (Nat.zero_add (maxNesting + 1)) name
      obtain ⟨linkedFields, fieldsLinked, isLinked⟩ := bind_eq_ok.mp isLinked
      obtain rfl := Except.ok.inj isLinked
      exact numberCount_of_adds inside fieldsLinked
  | enum members =>
      obtain rfl := Except.ok.inj isLinked
      rfl
  | reference => cases isLinked
  | builtin => cases isLinked
  | modified => cases isLinked

omit known in
/-- The first of the reserved slots is filled. -/
theorem set_reserved (before later more : Slots) (count : Nat) (slot : Option Slot) :
    (before ++ (List.replicate (count + 1) none ++ later) ++ more).set before.length slot =
      before ++ [slot] ++ (List.replicate count none ++ (later ++ more)) := by
  simp [List.replicate_succ]

/-- Filling the reserved slots from the first to the last. Those before them stay as they are, and
what comes behind them grows by the types inside the declarations. -/
theorem run_lowerTypedefs (typedefs : List TypeDef) {before later : Slots} {first : Nat}
    (start : before.length + typedefs.length + later.length + 1 = first)
    (fits : first + (typedefs.map Document.innerCount).sum ≤ UInt32.size) :
    (forM ((numbered (before.length + 1) typedefs).zip typedefs) fun reserved =>
        lowerTypedef names reserved.1.2 reserved.2).run
      (before ++ (List.replicate typedefs.length none ++ later)) =
    Work.settled ((typedefs.mapM (Document.linkTypedef find)).map fun linked =>
      ((), before ++
        ((numberFrom (fun typedef => typedef.body.numberCount) first linked).map
          (fun (first, typedef) => some (typedef.slot first)) ++
        (later ++
          ((numberFrom (fun typedef => typedef.body.numberCount) first linked).flatMap
            fun (first, typedef) => typedef.entries first).map TypeEntry.unnamed)))) := by
  induction typedefs generalizing before later first with
  | nil =>
      show _ = Work.settled (.ok _)
      simp [numbered, numberFrom]
  | cons typedef typedefs ih =>
      rw [List.length_cons] at start
      rw [List.map_cons, List.sum_cons] at fits
      have length : (before ++ (List.replicate (typedef :: typedefs).length none ++ later)).length + 1 =
          first := by
        simp only [List.length_append, List.length_replicate, List.length_cons]
        omega
      have bound : before.length <
          (before ++ (List.replicate (typedef :: typedefs).length none ++ later)).length := by
        omega
      rw [numbered_cons, List.zip_cons_cons, List.forM_cons, StateT.run_bind,
        run_lowerTypedef known typedef bound (by omega), length, List.mapM_cons,
        Work.settled_map, bind_assoc, Work.settled_map, Work.settled_bind, bind_assoc]
      refine Work.settled_bind_congr fun linked isLinked => ?_
      have size := numberCount_of_linkTypedef known isLinked
      have added : (linked.entries first).length = linked.body.numberCount :=
        TypeExpr.length_fieldEntries ..
      rw [pure_bind, List.length_cons, set_reserved]
      have nextStart : (before ++ [some (linked.slot first)]).length + typedefs.length +
          (later ++ (linked.entries first).map TypeEntry.unnamed).length + 1 =
            first + linked.body.numberCount := by
        simp only [List.length_append, List.length_singleton, List.length_map]
        omega
      have rest := ih nextStart (by omega)
      rw [List.length_append, List.length_singleton] at rest
      rw [rest, Work.settled_map, Work.settled_bind, bind_assoc]
      refine Work.settled_bind_congr fun others _ => ?_
      show _ = pure _
      simp [numberFrom]

end Fill

/-- The slots of the built-in types. -/
def builtinSlots : Slots := Interface.builtinEntries.map TypeEntry.unnamed

theorem run_builtins : builtins.run [] = pure ((), builtinSlots) := rfl

end Build

namespace Interface

variable {interface : Interface}

/-- The slots of the declared types. -/
def typedefSlots (interface : Interface) : Slots :=
  interface.numberedTypedefs.map fun (first, typedef) => some (typedef.slot first)

theorem map_unnamed_typedefEntries (interface : Interface) :
    interface.typedefEntries.map TypeEntry.unnamed = interface.typedefSlots := by
  apply List.ext_getElem?
  intro index
  rw [typedefEntries, List.getElem?_map, List.getElem?_mapIdx, typedefSlots, List.getElem?_map,
    Option.map_map]
  rfl

/-- The slots of an interface up to the types in its declarations, before types in place get their
names. -/
def declaredSlots (interface : Interface) : Slots :=
  Build.builtinSlots ++ (interface.typedefSlots ++ interface.typedefInner.map TypeEntry.unnamed)

/-- The signatures come right behind the declarations. -/
theorem length_declaredSlots (interface : Interface) :
    interface.declaredSlots.length + 1 = interface.firstSignature := by
  have builtins : Build.builtinSlots.length = 5 := rfl
  rw [declaredSlots, List.length_append, List.length_append, List.length_map, typedefSlots,
    List.length_map, numberedTypedefs, length_numberFrom, builtins, firstSignature_eq,
    ← length_typedefInner, firstInner, typedefNumber]
  omega

end Interface

namespace Build

theorem filled_typedefSlots (interface : Interface) :
    Filled (builtinSlots ++ interface.typedefSlots) interface.typedefs := by
  intro index typedef found
  have slot : interface.typedefSlots[index]? =
      some (some (typedef.slot (interface.typedefStart index))) := by
    rw [Interface.typedefSlots, List.getElem?_map, Interface.getElem?_numberedTypedefs, found]
    rfl
  refine ⟨_, _, ?_, typedef.kind_slot (interface.typedefStart index)⟩
  show (_ ++ _)[builtinSlots.length + index]? = _
  rw [List.getElem?_append_right (Nat.le_add_right ..), Nat.add_sub_cancel_left, slot]

/-- The methods and the errors of an interface, whose numbers start at `first`, and the declarations
as they have been registered. -/
def parts (typedefs : List Nat) (first : Nat) (interface : Interface) :
    List Nat × List ArenaMethod × List ArenaError :=
  (typedefs,
    (numberFrom Method.numberCount first interface.methods).map
      (fun (first, method) => method.inArena first),
    (numberFrom (·.parameters.numberCount)
      (first + (interface.methods.map Method.numberCount).sum) interface.errors).map
      fun (first, error) => error.inArena first)

/-- The entries of the methods and the errors. -/
def partEntries (first : Nat) (interface : Interface) : List TypeEntry :=
  (numberFrom Method.numberCount first interface.methods).flatMap
      (fun (first, method) => method.entries first) ++
    (numberFrom (·.parameters.numberCount)
      (first + (interface.methods.map Method.numberCount).sum) interface.errors).flatMap
      fun (first, error) => error.entries first

theorem parts_firstSignature (typedefs : List Nat) (interface : Interface) :
    parts typedefs interface.firstSignature interface =
      (typedefs, interface.arena.methods, interface.arena.errors) := by
  rw [parts, ← interface.firstError_eq]
  rfl

/-- The entries of signatures, those of the methods before those of the errors. -/
theorem partEntries_firstSignature (interface : Interface) :
    partEntries interface.firstSignature interface = interface.signatureInner := by
  rw [partEntries, ← interface.firstError_eq, Interface.signatureInner,
    Interface.numberedSignatures_eq, List.flatMap_append, List.flatMap_assoc, List.flatMap_map]
  congr 1
  refine List.flatMap_congr fun numbered _ => ?_
  simp [Method.numberedSignatures, Method.entries]

theorem map_unnamed_types (interface : Interface) : interface.types.map TypeEntry.unnamed =
    interface.declaredSlots ++ interface.signatureInner.map TypeEntry.unnamed := by
  rw [Interface.types_eq, Interface.innerEntries, List.map_append, List.map_append, List.map_append,
    Interface.map_unnamed_typedefEntries, Interface.declaredSlots, List.append_assoc,
    List.append_assoc, builtinSlots]

/-- Once the declarations are in their slots, the methods and errors come behind them. -/
theorem adds_parts {names : List (String × Nat)} {find : String → Option Nat}
    (known : ∀ name, names.lookup name = (find name).map typedefNumber) {base : Slots}
    {typedefs : List Typedef} (filled : Filled base typedefs)
    (inRange : ∀ name index, find name = some index → index < typedefs.length)
    (document : Document) :
    Adds base
      (do
        let methods ← document.methods.mapM (lowerMethod names)
        let errors ← document.errors.mapM (lowerError names)
        return (names.map (·.2), methods, errors))
      ((document.methods.map fun method =>
          method.parameters.numberCount + method.results.numberCount).sum +
        (document.errors.map fun error => error.parameters.numberCount).sum)
      (do
        let methods ← document.methods.mapM (Document.linkMethod find typedefs)
        let errors ← document.errors.mapM (Document.linkError find typedefs)
        return (⟨document.name, typedefs, methods, errors⟩ : Interface))
      (parts (names.map (·.2))) partEntries := by
  have methods := Adds.mapM Method.length_entries document.methods
    fun method _ => adds_lowerMethod known filled inRange method
  have errors := Adds.mapM ErrorCase.length_entries document.errors
    fun error _ => adds_lowerError known filled inRange error
  have size : ∀ linked, document.methods.mapM (Document.linkMethod find typedefs) = .ok linked →
      (linked.map Method.numberCount).sum = (document.methods.map fun method =>
        method.parameters.numberCount + method.results.numberCount).sum := by
    intro linked isLinked
    rw [← methods.counted linked isLinked 0,
      length_flatMap_numberFrom Method.entries Method.length_entries]
  refine methods.seq errors ?_ ?_
  · intro linked isLinked others first
    rw [parts, size linked isLinked]
  · intro linked isLinked others first
    rw [partEntries, size linked isLinked]

end Build

namespace Document

variable {document : Document} {linked : List Typedef}

/-- What the document takes besides its declarations. -/
theorem length_slots (document : Document) : document.slots.length =
    document.typedefs.length + ((document.typedefs.map innerCount).sum +
      ((document.methods.map fun method =>
          method.parameters.numberCount + method.results.numberCount).sum +
        (document.errors.map fun error => error.parameters.numberCount).sum)) := by
  rw [slots, List.length_append, List.length_map, List.length_range, length_inner,
    signatureTypes, List.map_append, List.sum_append, sum_map_flatMap, List.map_map]
  rfl

/-- Linking up to the declarations. -/
def linkTypedefs (document : Document) : Except ResolveError (List Typedef) := do
  checkDistinct [] (document.typedefs.map (·.name))
  document.typedefs.mapM (linkTypedef document.typedefIndex?)

theorem link_eq (document : Document) : document.link = document.linkTypedefs >>= fun typedefs => do
    let methods ← document.methods.mapM (linkMethod document.typedefIndex? typedefs)
    let errors ← document.errors.mapM (linkError document.typedefIndex? typedefs)
    return ⟨document.name, typedefs, methods, errors⟩ := by
  rw [linkTypedefs, bind_assoc]
  rfl

theorem lookup_numbered (document : Document) (name : String) :
    (Build.numbered 6 document.typedefs).lookup name =
      (document.typedefIndex? name).map typedefNumber :=
  Build.lookup_numbered ..

section Linked

variable (isLinked : document.typedefs.mapM (linkTypedef document.typedefIndex?) = .ok linked)
include isLinked

theorem names_linked : linked.map (·.name) = document.typedefs.map (·.name) :=
  map_eq_of_mapM (fun _ _ => linkTypedef_name) isLinked

theorem length_linked : linked.length = document.typedefs.length := by
  have names := congrArg List.length (names_linked isLinked)
  rwa [List.length_map, List.length_map] at names

theorem lt_length_linked {name : String} {index : Nat}
    (found : document.typedefIndex? name = some index) : index < linked.length := by
  have present := typedefIndex?_eq_some found
  rw [← names_linked isLinked] at present
  simpa using (List.getElem?_eq_some_iff.mp present).1

theorem firstSignature_linked : Interface.firstSignature ⟨document.name, linked, [], []⟩ =
    6 + document.typedefs.length + (document.typedefs.map innerCount).sum := by
  have inside : linked.map (fun typedef => typedef.body.numberCount) =
      document.typedefs.map innerCount :=
    map_eq_of_mapM (fun _ _ => Build.numberCount_of_linkTypedef document.lookup_numbered) isLinked
  rw [Interface.firstSignature_eq, Interface.firstInner, typedefNumber, length_linked isLinked, inside]

end Linked

end Document

namespace Build

/-- The first pass up to the declarations: their names with their numbers. -/
def declarations (typedefs : List TypeDef) : Build (List (String × Nat)) := do
  builtins
  let names ← typedefs.foldlM (fun names typedef => register names typedef.name) []
  forM (names.zip typedefs) fun reserved => lowerTypedef names reserved.1.2 reserved.2
  return names

theorem all_eq (document : Document) :
    all document = declarations document.typedefs >>= fun names => do
      let methods ← document.methods.mapM (lowerMethod names)
      let errors ← document.errors.mapM (lowerError names)
      return (names.map (·.2), methods, errors) := by
  simp only [all, declarations, bind_assoc, pure_bind]

/-- With all names known, the declarations are filled as they are linked. -/
theorem run_declarations {document : Document}
    (fits : 5 + document.typedefs.length + (document.typedefs.map Document.innerCount).sum <
      UInt32.size) :
    (declarations document.typedefs).run [] =
      Work.settled (document.linkTypedefs.map fun linked =>
        (numbered 6 document.typedefs,
          Interface.declaredSlots ⟨document.name, linked, [], []⟩)) := by
  have builtins : builtinSlots.length = 5 := rfl
  have registered : (document.typedefs.foldlM (fun names typedef => register names typedef.name)
      []).run builtinSlots =
      Work.settled ((Document.checkDistinct [] (document.typedefs.map (·.name))).map fun _ =>
        (numbered 6 document.typedefs, builtinSlots ++
          List.replicate document.typedefs.length none)) :=
    run_register document.typedefs (by simp) (by omega)
  rw [declarations, StateT.run_bind, run_builtins, pure_bind, StateT.run_bind, registered,
    Work.settled_map, bind_assoc, Document.linkTypedefs, Work.settled_map, Work.settled_bind,
    bind_assoc]
  refine Work.settled_bind_congr fun _ _ => ?_
  have start : builtinSlots.length + document.typedefs.length + ([] : Slots).length + 1 =
      typedefNumber document.typedefs.length := by
    rw [typedefNumber, builtins, List.length_nil]
    omega
  have typedefs := run_lowerTypedefs document.lookup_numbered document.typedefs start
    (by rw [typedefNumber]; omega)
  rw [List.append_nil, builtins] at typedefs
  rw [pure_bind, StateT.run_bind, typedefs, Work.settled_map, bind_assoc]
  refine Work.settled_bind_congr fun linked isLinked => ?_
  rw [← Document.length_linked isLinked, List.nil_append]
  rfl

/-- The first pass comes to the same as linking. It leaves every slot filled, with the names of the
declared types and no others. -/
theorem run_all {document : Document}
    (fits : Builtin.all.length + document.slots.length < UInt32.size) :
    (all document).run [] = Work.settled (document.link.map fun interface =>
      ((interface.declared.map (·.number), interface.arena.methods, interface.arena.errors),
        interface.types.map TypeEntry.unnamed)) := by
  have builtins : Builtin.all.length = 5 := rfl
  rw [Document.length_slots, builtins] at fits
  rw [all_eq, StateT.run_bind, run_declarations (by omega), Work.settled_map, bind_assoc,
    document.link_eq, Work.settled_map, Work.settled_bind, bind_assoc]
  refine Work.settled_bind_congr fun linked isLinked => ?_
  obtain ⟨-, -, isLinked⟩ := bind_eq_ok.mp isLinked
  let part : Interface := ⟨document.name, linked, [], []⟩
  have next : part.declaredSlots.length + 1 = part.firstSignature := part.length_declaredSlots
  have first : part.firstSignature = _ := Document.firstSignature_linked isLinked
  have begins : builtinSlots ++ part.typedefSlots <+: part.declaredSlots :=
    ⟨_, List.append_assoc ..⟩
  have signatures := adds_parts document.lookup_numbered (filled_typedefSlots part)
    (fun _ _ => Document.lt_length_linked isLinked) document
  rw [pure_bind]
  dsimp only
  rw [signatures.run part.declaredSlots begins (by omega), next, Work.settled_map]
  refine Work.settled_bind_congr fun interface isInterface => ?_
  obtain ⟨methods, -, isInterface⟩ := bind_eq_ok.mp isInterface
  obtain ⟨errors, -, isInterface⟩ := bind_eq_ok.mp isInterface
  obtain rfl := Except.ok.inj isInterface
  have declared : (numbered 6 document.typedefs).map (·.2) = part.declared.map (·.number) := by
    rw [Interface.numbers_declared, Document.length_linked isLinked]
    exact List.map_snd_zip (by simp)
  have allParts := parts_firstSignature (part.declared.map (·.number))
    ⟨document.name, linked, methods, errors⟩
  rw [map_unnamed_types, ← partEntries_firstSignature, declared]
  exact congrArg (fun parts => pure (parts, _)) allParts

end Build

end Varlink
