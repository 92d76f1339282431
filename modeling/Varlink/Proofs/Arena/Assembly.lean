import Varlink.Proofs.Arena.Filling
import Varlink.Proofs.Arena.Naming

/-!
# The arena of a document

The two passes together give the arena that holds the interface, with every slot filled and every name
in its place, or end in the error that resolving the document ends in. What the second pass does to
the slots is told by the numbers it has named. They are those of the declarations that are discovered
and those of the signatures without fields, and no other entry waits for a name.
-/

namespace Varlink

/-- Going through lists made from items is going through the items. -/
theorem forM_flatMap {m : Type → Type} [Monad m] [LawfulMonad m] {α β : Type} (f : α → List β)
    (step : β → m Unit) (items : List α) :
    forM (items.flatMap f) step = forM items fun item => forM (f item) step := by
  induction items with
  | nil => rfl
  | cons item items ih =>
      rw [List.flatMap_cons, List.forM_append, List.forM_cons, ih]

theorem Signature.mem_namedNumbers {signature : Signature} {path : String} {first number : Nat}
    (inside : number ∈ (Stop.declarations (signature.stops path first)).map (·.number)) :
    number ∈ signature.namedNumbers path first := by
  match signature with
  | .inline [] => cases inside
  | .inline (_ :: _) => exact inside
  | .declared _ => exact inside

namespace Interface

variable {interface : Interface}

/-- Signatures are named one after the other, each when those before it have been named. -/
theorem gives_signatures {signatures : List (String × Signature)} {first : Nat}
    (each : ∀ index signature, signatures[index]? = some signature → interface.NamesSignature
      (first + offset (fun signature => signature.2.numberCount) signatures index, signature))
    {named : List Nat} {namer : Namer} (state : interface.NamerAt [] named namer)
    (before : ∀ number ∈ named, number < first) :
    let numbered := numberFrom (fun signature : String × Signature => signature.2.numberCount) first
      signatures
    Naming.Gives
      (forM numbered fun (first, path, signature) =>
        Naming.nameWrapper (signature.number first) path) namer
      (Stop.declarations (numbered.flatMap fun (first, path, signature) =>
        signature.stops path first))
      (interface.NamerAt [] (named ++ numbered.flatMap fun (first, path, signature) =>
        signature.namedNumbers path first)) := by
  induction signatures generalizing first named namer with
  | nil =>
      refine .nothing rfl ?_
      rwa [numberFrom, List.flatMap_nil, List.append_nil]
  | cons signature signatures ih =>
      intro numbered
      have head := each 0 signature rfl named namer state before
      simp only [numbered, numberFrom, List.flatMap_cons, Stop.declarations_append, List.forM_cons]
      refine head.seq fun middle state => ?_
      rw [← List.append_assoc]
      refine ih (fun index other found => ?_) state fun number isNamed => ?_
      · have later := each (index + 1) other found
        rwa [offset_cons_succ, ← Nat.add_assoc] at later
      · rcases List.mem_append.mp isNamed with isNamed | isNamed
        · exact Nat.lt_of_lt_of_le (before number isNamed) (Nat.le_add_right ..)
        · exact Signature.bound_of_mem_namedNumbers isNamed

theorem nameMethod_inArena (first : Nat) (method : Method) :
    Naming.nameMethod (method.inArena first) =
      forM (method.numberedSignatures first) fun (first, path, signature) =>
        Naming.nameWrapper (signature.number first) path := by
  simp [Naming.nameMethod, Method.inArena, Method.numberedSignatures]

/-- The second pass is a walk through the declared types and the signatures. -/
theorem all_eq (interface : Interface) :
    Naming.all (interface.declared.map (·.number)) interface.arena.methods interface.arena.errors =
      (do
        forM (List.range interface.typedefs.length) fun index =>
          TypeRef.visitMembers (typedefNumber index)
        forM interface.numberedSignatures fun (first, path, signature) =>
          Naming.nameWrapper (signature.number first) path) := by
  rw [Naming.all, numbers_declared, List.range'_eq_map_range, numberedSignatures_eq, arena,
    List.forM_append, forM_flatMap]
  simp only [List.forM_map, nameMethod_inArena]
  rfl

/-- What the walk meets before it comes to the signatures is inside the declared types. -/
theorem typedefs_walked {met : List Declaration}
    (walked : interface.Walked ((List.range interface.typedefs.length).map Stop.enter)
      (List.range interface.typedefs.length) met []) :
    interface.discovered = met ++ Stop.declarations (interface.numberedSignatures.flatMap
        fun (first, path, signature) => signature.stops path first) ∧
      ∀ number ∈ met.map (·.number), number < interface.firstSignature := by
  constructor
  · rw [discovered, walked.walk, Stop.walk_nil]
  · have entered : ∀ index ∈ List.range interface.typedefs.length,
        Stop.enter index ∈ (List.range interface.typedefs.length).map Stop.enter :=
      fun index inside => List.mem_map_of_mem inside
    have perm := Stop.walk_perm interface.typedefStops List.nodup_range entered
    have onlyEntered : Stop.declarations
        ((List.range interface.typedefs.length).map Stop.enter) = [] := by
      simp [Stop.declarations, Stop.declaration?]
    have meets := walked.walk []
    rw [List.append_nil, Stop.walk_nil, Stop.declarations_nil, List.append_nil] at meets
    rw [meets, onlyEntered, List.nil_append, flatMap_typedefStops] at perm
    have numbers := ((perm.trans interface.typedefStops_perm).map (·.number))
    intro number inside
    have inRange := (numbers_declarationsFrom_sublist ..).subset (numbers.mem_iff.mp inside)
    rw [firstSignature_eq, ← length_typedefInner]
    exact (List.mem_range'_1.mp inRange).2

/-- A suppressed entry is that of a signature without fields, where this starts. -/
theorem exists_of_suppressed {number : Nat} {entry : TypeEntry}
    (isEntry : interface.type? number = some entry) (isSuppressed : entry.isSuppressed) :
    ∃ index path, interface.signatures[index]? = some (path, .inline []) ∧
      interface.signatureStart index = number := by
  obtain ⟨index, isEmpty, numbered⟩ := empty_of_suppressed isEntry isSuppressed
  rw [signatureTypes_document, List.getElem?_map] at isEmpty
  obtain ⟨⟨path, signature⟩, found, same⟩ := Option.map_eq_some_iff.mp isEmpty
  rw [getElem?_signatureNumbers, found] at numbered
  obtain rfl := Option.some.inj numbered
  match signature with
  | .inline [] => exact ⟨index, path, found, rfl⟩
  | .inline (field :: fields) => cases same
  | .declared target => cases same

/-- An entry that has not been named in the end had nothing to wait for. -/
theorem slotsWith_eq {named : List Nat}
    (discovered : ∀ number ∈ interface.discovered.map (·.number), number ∈ named)
    (suppressed : ∀ index path, interface.signatures[index]? = some (path, .inline []) →
      interface.signatureStart index ∈ named) :
    interface.slotsWith named = interface.types.map fun entry => some entry.slot := by
  have same : ∀ number entry, interface.type? number = some entry → number ∉ named →
      entry.beforeNaming = entry := by
    intro number entry isEntry unnamed
    rcases exists_of_type? isEntry with ⟨leaf, -, rfl⟩ | ⟨index, typedef, -, -, rfl⟩ |
      ⟨position, rfl, isInner⟩
    · rfl
    · rfl
    · have inPlace := inPlace_of_mem_innerEntries (List.mem_of_getElem? isInner)
      by_cases isSuppressed : entry.isSuppressed
      · obtain ⟨index, path, found, same⟩ := exists_of_suppressed isEntry isSuppressed
        exact absurd (same ▸ suppressed index path found) unnamed
      · by_cases isDeclaration : entry.isDeclaration
        · have isDiscovered := mem_numbers_discovered.mpr
            ⟨position, entry, rfl, isInner, isDeclaration, isSuppressed⟩
          exact absurd (discovered _ isDiscovered) unnamed
        · cases inPlace with
          | modified => rfl
          | struct => exact absurd rfl isDeclaration
          | enum => exact absurd rfl isDeclaration
  apply List.ext_getElem?
  intro index
  rw [slotsWith, List.getElem?_mapIdx, List.getElem?_map]
  cases found : interface.types[index]? with
  | none => rfl
  | some entry =>
      rw [Option.map_some, Option.map_some, TypeEntry.slotIf]
      split_ifs with isNamed
      · rfl
      · rw [same (index + 1) entry found isNamed]

/-- When the declared types and then the signatures have been gone through, all that was to be named
has been. -/
theorem slotsWith_all {met : List Declaration}
    (meets : interface.discovered = met ++ Stop.declarations (interface.numberedSignatures.flatMap
      fun (first, path, signature) => signature.stops path first)) :
    interface.slotsWith (met.map (·.number) ++ interface.numberedSignatures.flatMap
      fun (first, path, signature) => signature.namedNumbers path first) =
        interface.types.map fun entry => some entry.slot := by
  refine slotsWith_eq ?_ ?_
  · intro number isDiscovered
    rw [meets, List.map_append] at isDiscovered
    rcases List.mem_append.mp isDiscovered with isMet | inSignature
    · exact List.mem_append_left _ isMet
    · refine List.mem_append_right _ ?_
      rw [Stop.declarations, List.filterMap_flatMap, List.map_flatMap] at inSignature
      obtain ⟨numbered, inside, isNamed⟩ := List.mem_flatMap.mp inSignature
      exact List.mem_flatMap.mpr ⟨numbered, inside, Signature.mem_namedNumbers isNamed⟩
  · intro index path found
    have numbered : interface.numberedSignatures[index]? =
        some (interface.signatureStart index, path, .inline []) := by
      rw [numberedSignatures, getElem?_numberFrom, found]
      rfl
    exact List.mem_append_right _ (List.mem_flatMap.mpr
      ⟨_, List.mem_of_getElem? numbered, List.mem_singleton_self _⟩)

/-- At first nothing has been named and no declared type has been entered. -/
theorem namerAt_start {namer : Namer} (slots : namer.slots = interface.slotsWith [])
    (visited : namer.visited = []) :
    interface.NamerAt (List.range interface.typedefs.length) [] namer where
  nodup := List.nodup_range
  slots := slots
  entered index bound := by simp [visited, bound]
  visited number isVisited := by
    rw [visited] at isVisited
    cases isVisited

/-- A walk that enters all declared types leaves none. -/
theorem Walked.left_eq_nil {indices left : List Nat} {met : List Declaration}
    (walked : interface.Walked (indices.map Stop.enter) indices met left)
    (distinct : indices.Nodup) : left = [] := by
  refine List.eq_nil_iff_forall_not_mem.mpr fun index isLeft => ?_
  have inside := walked.sublist.subset isLeft
  exact walked.entered distinct index (List.mem_map_of_mem inside) isLeft

/-- The second pass names what the walk through the interface discovers, and leaves every name in its
place. -/
theorem gives_all (linked : interface.Linked) {namer : Namer}
    (slots : namer.slots = interface.slotsWith []) (visited : namer.visited = []) :
    Naming.Gives
      (Naming.all (interface.declared.map (·.number)) interface.arena.methods
        interface.arena.errors)
      namer interface.discovered
      fun after => after.slots = interface.types.map fun entry => some entry.slot := by
  let indices := List.range interface.typedefs.length
  have typedefs : interface.Visits indices.length
      (forM indices fun index => TypeRef.visitMembers (typedefNumber index))
      (indices.flatMap fun index => [.enter index]) :=
    .forM fun index inside => visits_enter linked _ index (List.mem_range.mp inside)
  obtain ⟨met, left, walked, gives⟩ := typedefs indices le_rfl
  rw [← List.map_eq_flatMap] at walked
  obtain rfl := walked.left_eq_nil List.nodup_range
  obtain ⟨meets, before⟩ := typedefs_walked walked
  have distinct : (met.map (·.number)).Nodup := by
    have once := interface.numbers_nodup
    rw [declarations, meets, List.map_append, List.map_append] at once
    exact (List.nodup_append.mp (List.nodup_append.mp once).2.1).1
  have signatures : ∀ index signature, interface.signatures[index]? = some signature →
      interface.NamesSignature (interface.signatureStart index, signature) :=
    fun index signature found => namesSignature linked found
  rw [all_eq, meets]
  refine (gives [] namer (namerAt_start slots visited) distinct (by simp)).seq fun middle state => ?_
  refine (gives_signatures signatures state before).mono fun after state => ?_
  exact state.slots.trans (slotsWith_all meets)

/-- The second pass starts with the declared names taken. -/
theorem start_eq (interface : Interface) :
    Naming.start (interface.types.map TypeEntry.unnamed) (interface.declared.map (·.number)) =
      pure ⟨interface.slotsWith [], interface.typedefs.map (·.name), [], []⟩ := by
  have names : (interface.declared.map (·.number)).mapM (fun number => do
        return (← (interface.slotsWith []).read number).name) =
      (pure (interface.declared.map fun declaration => some declaration.name) : Work _) := by
    rw [List.mapM_map]
    refine Work.mapM_eq_pure fun declaration inside => ?_
    obtain ⟨index, bound, rfl⟩ := List.mem_mapIdx.mp inside
    rw [Function.comp_apply, read_slotsWith_typedef (List.getElem?_eq_getElem bound)]
    rfl
  rw [Naming.start, ← slotsWith_nil, names, pure_bind, ← names_declared]
  simp [List.reduceOption]

end Interface

/-- The arena of a document is that of the interface it resolves to. Nothing that is expected on the
way is missing, and the errors are the same. -/
theorem Document.assemble_eq {document : Document}
    (fits : Builtin.all.length + document.slots.length < UInt32.size) :
    document.assemble = Work.settled (document.resolve.outcome.map Interface.arena) := by
  rw [assemble, Build.run_all fits, Work.settled_map, bind_assoc, Work.settled_map, resolve,
    Logged.outcome_bind, Logged.outcome_ofExcept, Work.settled_bind, bind_assoc]
  refine Work.settled_bind_congr fun interface links => ?_
  obtain ⟨rfl, linked⟩ := link_eq_ok links
  let namer : Namer := ⟨interface.slotsWith [], interface.typedefs.map (·.name), [], []⟩
  have slots : namer.slots = interface.slotsWith [] := rfl
  obtain ⟨after, run, rest⟩ := Interface.gives_all linked slots rfl
  rw [pure_bind]
  dsimp only
  rw [Interface.start_eq, pure_bind, run, Logged.outcome_bind]
  cases named : (giveNames (interface.typedefs.map (·.name)) interface.discovered).outcome with
  | error error => rfl
  | ok =>
      obtain ⟨-, registered, slots⟩ := rest named
      have filled : after.slots.mapM id = some (interface.types.map TypeEntry.slot) := by
        rw [slots, List.mapM_map]
        exact List.mapM_pure
      rw [Except.map, Work.settled_ok, pure_bind, filled, registered, List.nil_append]
      show (pure ⟨_, _, _ ++ _, _, _⟩ : Work Arena) = pure interface.arena
      rw [← List.map_append]
      rfl

end Varlink
