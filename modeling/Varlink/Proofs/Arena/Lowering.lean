import Varlink.Proofs.Arena

/-!
# The first pass

Putting a document into slots comes to the same as linking it: the slots that are taken on the way
are the entries of what is linked, in the order of their numbers and without the names that are given
later. A step is described by what it adds to any slots it may be run on. The descriptions are put
together as the steps are, so that the numbers fit because the entries do.

Only signatures look at slots, those of the declared types. These have been filled by then, and no
later step changes them, so the steps are described for slots that begin with them.
-/

namespace Varlink

/-- The entries a method takes. -/
def Method.entries (first : Nat) (method : Method) : List TypeEntry :=
  method.parameters.entries (method.name ++ "Args") first ++
    method.results.entries (method.name ++ "Result") (first + method.parameters.numberCount)

theorem Method.length_entries (first : Nat) (method : Method) :
    (method.entries first).length = method.numberCount := by
  rw [entries, List.length_append, Signature.length_entries, Signature.length_entries, numberCount]

/-- The entries an error takes. -/
def ErrorCase.entries (first : Nat) (error : ErrorCase) : List TypeEntry :=
  error.parameters.entries (error.name ++ "Args") first

theorem ErrorCase.length_entries (first : Nat) (error : ErrorCase) :
    (error.entries first).length = error.parameters.numberCount :=
  Signature.length_entries ..

namespace Build

open TypeExpr

/-- On slots that begin with `base`, the step ends as `result` does. It then has the given value and
has added the given entries, of which there are `count` at most. Both depend on the first number that
is free. -/
structure Adds {β γ : Type} (base : Slots) (action : Build γ) (count : Nat)
    (result : Except ResolveError β) (value : Nat → β → γ)
    (entries : Nat → β → List TypeEntry) : Prop where
  counted : ∀ linked, result = .ok linked → ∀ first, (entries first linked).length = count
  run : ∀ slots, base <+: slots → slots.length + count < UInt32.size →
    action.run slots = Work.settled (result.map fun linked =>
      (value (slots.length + 1) linked,
        slots ++ (entries (slots.length + 1) linked).map TypeEntry.unnamed))

namespace Adds

variable {β β' β'' γ γ' γ'' : Type} {base : Slots} {action : Build γ} {count : Nat}
  {result : Except ResolveError β} {value : Nat → β → γ} {entries : Nat → β → List TypeEntry}

/-- A step that fails adds nothing. -/
theorem fails (error : ResolveError) :
    Adds base (throw (.error error) : Build γ) count (.error error) value entries where
  counted _ isOk := nomatch isOk
  run _ _ _ := rfl

theorem done {linked : β} {found : γ} (same : ∀ first, value first linked = found)
    (none : ∀ first, entries first linked = []) :
    Adds base (pure found) 0 (.ok linked) value entries where
  counted := by
    rintro _ ⟨⟩ first
    rw [none, List.length_nil]
  run slots _ _ := by
    show _ = Work.settled (.ok (value (slots.length + 1) linked, _))
    rw [same, none, List.map_nil, List.append_nil]
    rfl

/-- The second of two steps starts where the first one ends. -/
theorem seq {next : Build γ'} {nextCount : Nat} {nextResult : Except ResolveError β'}
    {nextValue : Nat → β' → γ'} {nextEntries : Nat → β' → List TypeEntry}
    {both : γ → γ' → γ''} {linkedBoth : β → β' → β''} {bothValue : Nat → β'' → γ''}
    {bothEntries : Nat → β'' → List TypeEntry}
    (one : Adds base action count result value entries)
    (two : Adds base next nextCount nextResult nextValue nextEntries)
    (values : ∀ linked, result = .ok linked → ∀ other first,
      bothValue first (linkedBoth linked other) =
        both (value first linked) (nextValue (first + count) other))
    (added : ∀ linked, result = .ok linked → ∀ other first,
      bothEntries first (linkedBoth linked other) =
        entries first linked ++ nextEntries (first + count) other) :
    Adds base (do let found ← action; let more ← next; return both found more)
      (count + nextCount)
      (do let linked ← result; let other ← nextResult; return linkedBoth linked other)
      bothValue bothEntries where
  counted := by
    intro linkedAll isOk first
    obtain ⟨linked, isLinked, isOk⟩ := bind_eq_ok.mp isOk
    obtain ⟨other, isOther, isOk⟩ := bind_eq_ok.mp isOk
    obtain rfl := Except.ok.inj isOk
    rw [added linked isLinked, List.length_append, one.counted linked isLinked,
      two.counted other isOther]
  run := by
    intro slots begins fits
    rw [StateT.run_bind, one.run slots begins (by omega), Work.settled_map, bind_assoc,
      Work.settled_map, Work.settled_bind, bind_assoc]
    refine Work.settled_bind_congr fun linked isLinked => ?_
    have length : (slots ++ (entries (slots.length + 1) linked).map TypeEntry.unnamed).length =
        slots.length + count := by
      rw [List.length_append, List.length_map, one.counted linked isLinked]
    rw [pure_bind, StateT.run_bind, two.run _ (begins.trans (List.prefix_append ..)) (by omega),
      Work.settled_map, bind_assoc, Work.settled_bind, bind_assoc, length]
    refine Work.settled_bind_congr fun other _ => ?_
    show _ = pure
      (bothValue _ (linkedBoth linked other), slots ++ (bothEntries _ (linkedBoth linked other)).map _)
    rw [values linked isLinked, added linked isLinked, List.map_append, ← List.append_assoc,
      Nat.add_right_comm]
    rfl

/-- What is made of the types inside comes after them. -/
theorem create {slotOf : γ → Slot} {linkedOf : β → β'} {value' : Nat → β' → Nat}
    {entries' : Nat → β' → List TypeEntry} {entry : Nat → β → TypeEntry}
    (inner : Adds base action count result value entries)
    (values : ∀ linked, result = .ok linked → ∀ first,
      value' first (linkedOf linked) = first + count)
    (added : ∀ linked first,
      entries' first (linkedOf linked) = entries first linked ++ [entry first linked])
    (slots : ∀ linked first, (entry first linked).beforeNaming.slot = slotOf (value first linked)) :
    Adds base (do let found ← action; Build.create (slotOf found)) (count + 1)
      (do let linked ← result; return linkedOf linked) value' entries' where
  counted := by
    intro linkedAll isOk first
    obtain ⟨linked, isLinked, isOk⟩ := bind_eq_ok.mp isOk
    obtain rfl := Except.ok.inj isOk
    rw [added, List.length_append, inner.counted linked isLinked, List.length_singleton]
  run := by
    intro before begins fits
    rw [StateT.run_bind, inner.run before begins (by omega), Work.settled_map, bind_assoc,
      Work.settled_map, Work.settled_bind, bind_assoc]
    refine Work.settled_bind_congr fun linked isLinked => ?_
    have length : (before ++ (entries (before.length + 1) linked).map TypeEntry.unnamed).length =
        before.length + count := by
      rw [List.length_append, List.length_map, inner.counted linked isLinked]
    rw [pure_bind]
    dsimp only
    rw [run_create _ (by omega), length, ← slots]
    show _ = pure (value' _ (linkedOf linked), before ++ (entries' _ (linkedOf linked)).map _)
    rw [values linked isLinked, added, List.map_append, ← List.append_assoc, Nat.add_right_comm]
    rfl

/-- A last step may change the value. -/
theorem map {kept : γ → γ'} {linkedKept : β → β'} {keptValue : Nat → β' → γ'}
    {keptEntries : Nat → β' → List TypeEntry}
    (step : Adds base action count result value entries)
    (values : ∀ linked first, keptValue first (linkedKept linked) = kept (value first linked))
    (added : ∀ linked first, keptEntries first (linkedKept linked) = entries first linked) :
    Adds base (do let found ← action; return kept found) count
      (do let linked ← result; return linkedKept linked) keptValue keptEntries where
  counted := by
    intro linkedAll isOk first
    obtain ⟨linked, isLinked, isOk⟩ := bind_eq_ok.mp isOk
    obtain rfl := Except.ok.inj isOk
    rw [added, step.counted linked isLinked]
  run := by
    intro slots begins fits
    rw [StateT.run_bind, step.run slots begins fits, Work.settled_map, bind_assoc,
      Work.settled_map, Work.settled_bind, bind_assoc]
    refine Work.settled_bind_congr fun linked _ => ?_
    show _ = pure
      (keptValue _ (linkedKept linked), slots ++ (keptEntries _ (linkedKept linked)).map _)
    rw [values, added]
    rfl

/-- Items are put into slots one after the other. -/
theorem mapM {α : Type} {step : α → Build γ} {link : α → Except ResolveError β}
    {size : β → Nat} {sizeOf : α → Nat}
    (sized : ∀ first linked, (entries first linked).length = size linked) (items : List α)
    (each : ∀ item ∈ items, Adds base (step item) (sizeOf item) (link item) value entries) :
    Adds base (items.mapM step) (items.map sizeOf).sum (items.mapM link)
      (fun first linked => (numberFrom size first linked).map fun (first, item) =>
        value first item)
      (fun first linked => (numberFrom size first linked).flatMap fun (first, item) =>
        entries first item) := by
  induction items with
  | nil => exact .done (fun _ => rfl) (fun _ => rfl)
  | cons item items ih =>
      obtain ⟨head, tail⟩ := List.forall_mem_cons.mp each
      have same : ∀ linked, link item = .ok linked → size linked = sizeOf item := by
        intro linked isLinked
        rw [← sized 0, head.counted linked isLinked]
      rw [List.mapM_cons, List.mapM_cons, List.map_cons, List.sum_cons]
      refine head.seq (ih tail) ?_ ?_
      · intro linked isLinked other first
        rw [numberFrom, List.map_cons, same linked isLinked]
      · intro linked isLinked other first
        rw [numberFrom, List.flatMap_cons, same linked isLinked]

/-- What a step does on all slots, it does on those that begin in some way. -/
theorem onto (step : Adds [] action count result value entries) :
    Adds base action count result value entries :=
  ⟨step.counted, fun slots _ => step.run slots List.nil_prefix⟩

end Adds

/-- A type is put into its own entries and fields into theirs. -/
abbrev AddsType (names : List (String × Nat)) (find : String → Option Nat)
    (type : TypeExpr String) : Prop :=
  ∀ depth levels, depth + levels = maxNesting + 1 → ∀ path,
    Adds [] (lower names depth type) type.numberCount (type.link find levels)
      (fun first linked => linked.number first) (fun first linked => linked.entries path first)

section Lower

variable {names : List (String × Nat)} {find : String → Option Nat}

theorem adds_lowerFields {fields : List (String × TypeExpr String)}
    (each : ∀ field ∈ fields, AddsType names find field.2) {depth levels : Nat}
    (left : depth + levels = maxNesting + 1) (path : String) :
    Adds [] (lowerFields names depth fields) (fieldsNumberCount fields)
      (linkFields find fields levels) fieldMembers (fieldEntries path) := by
  induction fields with
  | nil =>
      rw [lowerFields, linkFields]
      exact .done (fun _ => rfl) (fun _ => rfl)
  | cons field fields ih =>
      obtain ⟨name, type⟩ := field
      obtain ⟨head, tail⟩ := List.forall_mem_cons.mp each
      have first := head depth levels left (memberPath path name)
      have size : ∀ linked, type.link find levels = .ok linked →
          linked.numberCount = type.numberCount := by
        intro linked isLinked
        rw [← length_entries (memberPath path name) 0, first.counted linked isLinked]
      rw [lowerFields, linkFields]
      refine first.seq (ih tail) ?_ ?_
      · intro linked isLinked rest start
        rw [fieldMembers, fieldNumbers, List.map_cons, size linked isLinked]
        rfl
      · intro linked isLinked rest start
        rw [fieldEntries, size linked isLinked]

/-- A type that is too deep is not looked at. -/
theorem AddsType.of_levels {type : TypeExpr String}
    (inside : ∀ depth levels, depth + levels = maxNesting → ∀ path,
      Adds [] (lower names depth type) type.numberCount (type.link find (levels + 1))
        (fun first linked => linked.number first) (fun first linked => linked.entries path first)) :
    AddsType names find type := by
  intro depth levels left path
  cases levels with
  | zero =>
      have tooDeep : type.link find 0 = .error .nestingTooDeep := by rw [link]
      rw [lower.eq_def, if_pos (by omega), tooDeep]
      exact .fails _
  | succ levels => exact inside depth levels (Nat.succ.inj left) path

variable (known : ∀ name, names.lookup name = (find name).map typedefNumber)
include known

/-- Lowering a type comes to the same as linking it. -/
theorem adds_lower (type : TypeExpr String) : AddsType names find type := by
  induction type using TypeExpr.induction with
  | reference name =>
      refine .of_levels fun depth levels left path => ?_
      rw [lower, if_neg (by omega), resolve, known, link]
      cases find name with
      | none => exact .fails _
      | some target => exact .done (fun _ => rfl) (fun _ => rfl)
  | builtin leaf =>
      refine .of_levels fun depth levels left path => ?_
      rw [lower, if_neg (by omega), link]
      exact .done (fun _ => rfl) (fun _ => rfl)
  | modified modifier inner ih =>
      refine .of_levels fun depth levels left path => ?_
      rw [lower, if_neg (by omega), link]
      have inside := ih (depth + 1) levels (by omega) path
      refine inside.create ?_ (fun _ _ => rfl) (fun _ _ => rfl)
      intro linked isLinked first
      rw [number, ← length_entries path first, inside.counted linked isLinked]
  | struct fields ih =>
      refine .of_levels fun depth levels left path => ?_
      rw [lower, if_neg (by omega), link]
      have inside := adds_lowerFields ih (show depth + 1 + levels = maxNesting + 1 by omega) path
      refine inside.create ?_ (fun _ _ => rfl) (fun _ _ => rfl)
      intro linked isLinked first
      rw [number, ← length_fieldEntries path first, inside.counted linked isLinked]
  | enum members =>
      refine .of_levels fun depth levels left path => ?_
      rw [lower, if_neg (by omega), link]
      constructor
      · rintro _ ⟨⟩ first
        rfl
      · intro slots _ fits
        rw [run_create _ fits]
        rfl

theorem adds_fields (fields : List (String × TypeExpr String)) {depth levels : Nat}
    (left : depth + levels = maxNesting + 1) (path : String) :
    Adds [] (lowerFields names depth fields) (fieldsNumberCount fields)
      (linkFields find fields levels) fieldMembers (fieldEntries path) :=
  adds_lowerFields (fun field _ => adds_lower known field.2) left path

omit known in
theorem numberCount_of_adds {fields : List (String × TypeExpr String)}
    {action : Build (List (String × Option Nat))} {result : Except ResolveError Fields}
    {path : String}
    (step : Adds [] action (fieldsNumberCount fields) result fieldMembers (fieldEntries path))
    {linked : Fields} (isLinked : result = .ok linked) :
    fieldsNumberCount linked = fieldsNumberCount fields := by
  rw [← length_fieldEntries path 0, step.counted linked isLinked]

/-- The slots of the declarations are filled with groups of their kind. -/
def Filled (base : Slots) (typedefs : List Typedef) : Prop :=
  ∀ index typedef, typedefs[index]? = some typedef → ∃ slot members,
    base[5 + index]? = some (some slot) ∧ slot.kind = .group typedef.body.kind members

variable {base : Slots} {typedefs : List Typedef} (filled : Filled base typedefs)
  (inRange : ∀ name index, find name = some index → index < typedefs.length)
include filled inRange

/-- A signature that is the name of a declaration takes no slot and looks at that of the
declaration. -/
theorem adds_lowerSignature (site : SignatureSite) (type : TypeExpr String) (path : String) :
    Adds base (lowerSignature names site type) type.numberCount
      (Document.linkSignature find typedefs site type) (fun first linked => linked.number first)
      (fun first linked => linked.entries path first) := by
  cases type with
  | struct fields =>
      have inside := adds_fields known fields (show 1 + maxNesting = maxNesting + 1 by omega) path
      rw [lowerSignature, Document.linkSignature]
      refine inside.onto.create ?_ (fun _ _ => rfl) ?_
      · intro linked isLinked first
        rw [Signature.number, numberCount_of_adds inside isLinked]
      · intro linked first
        cases linked <;> rfl
  | reference name =>
      rw [lowerSignature, Document.linkSignature, resolve, known]
      cases found : find name with
      | none => exact .fails _
      | some index =>
          have bound := inRange name index found
          have isTypedef := List.getElem?_eq_getElem bound
          obtain ⟨slot, members, here, kind⟩ := filled index _ isTypedef
          have isRead : ∀ slots : Slots, base <+: slots →
              slots.read (typedefNumber index) = pure slot := by
            rintro _ ⟨later, rfl⟩
            rw [typedefNumber, Nat.succ_add 5]
            refine Slots.read_of_getElem? ?_
            rw [List.getElem?_append_left (List.getElem?_eq_some_iff.mp here).1, here]
          dsimp only [Option.map_some]
          rw [Document.isStruct, isTypedef, Option.any_some]
          constructor
          · intro linked isLinked first
            split_ifs at isLinked
            obtain rfl := Except.ok.inj isLinked
            rfl
          · intro slots begins fits
            simp only [StateT.run_bind, pure_bind, StateT.run_get, StateT.run_monadLift,
              monadLift_self, isRead slots begins, kind]
            cases typedefs[index].body.kind with
            | struct =>
                simp [Except.map, Signature.entries, Signature.number]
            | enum => simp [Except.map]
  | builtin leaf => exact .fails _
  | modified modifier inner => exact .fails _
  | enum members => exact .fails _

theorem adds_lowerMethod (method : MethodDef) :
    Adds base (lowerMethod names method) (method.parameters.numberCount + method.results.numberCount)
      (Document.linkMethod find typedefs method) Method.inArena Method.entries := by
  have parameters := adds_lowerSignature known filled inRange (.methodParameters method.name)
    method.parameters (method.name ++ "Args")
  have results := adds_lowerSignature known filled inRange (.methodResults method.name)
    method.results (method.name ++ "Result")
  have size : ∀ linked, Document.linkSignature find typedefs (.methodParameters method.name)
      method.parameters = .ok linked → linked.numberCount = method.parameters.numberCount := by
    intro linked isLinked
    rw [← Signature.length_entries (method.name ++ "Args") 0, parameters.counted linked isLinked]
  rw [lowerMethod, Document.linkMethod]
  refine parameters.seq results ?_ ?_
  · intro linked isLinked other first
    rw [Method.inArena, size linked isLinked]
  · intro linked isLinked other first
    rw [Method.entries, size linked isLinked]

theorem adds_lowerError (error : ErrorDef) :
    Adds base (lowerError names error) error.parameters.numberCount
      (Document.linkError find typedefs error) ErrorCase.inArena ErrorCase.entries := by
  have parameters := adds_lowerSignature known filled inRange (.errorParameters error.name)
    error.parameters (error.name ++ "Args")
  rw [lowerError, Document.linkError]
  exact parameters.map (fun _ _ => rfl) (fun _ _ => rfl)

end Lower

end Build

end Varlink
