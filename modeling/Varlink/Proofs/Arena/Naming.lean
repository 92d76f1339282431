import Varlink.Proofs.Arena
import Varlink.Proofs.Interface.Groups

/-!
# The second pass

Naming goes through the slots and finds the structs and enums in place where it comes to them. It is
described by the stops it makes: what it does is to name the declarations that the walk along these
stops meets, in the order of the walk, until one of the names is taken. What has been named and which
declared types have been entered is all that is left behind, so that the descriptions of two steps
make one for both.

A type in place leads to its stops by induction over the type, and a declared type is entered by
induction on how many have not been entered, as in the walk itself.
-/

namespace Varlink

namespace Naming

/-- The step gives the declarations their names and registers them, one after the other, and fails at
the first name that is taken. If none is, the state afterwards is as told. -/
def Gives (action : Naming Unit) (namer : Namer) (met : List Declaration)
    (After : Namer → Prop) : Prop :=
  ∃ after, action.run namer =
      Work.settled ((giveNames namer.names met).outcome.map fun _ => ((), after)) ∧
    ((giveNames namer.names met).outcome = .ok () →
      after.names = (met.map (·.name)).reverse ++ namer.names ∧
      after.registered = namer.registered ++ met.map (·.number) ∧ After after)

/-- Names are given to some declarations and then to the others. -/
theorem giveNames_append (taken : List String) (before after : List Declaration) :
    (giveNames taken (before ++ after)).outcome = (giveNames taken before).outcome >>= fun _ =>
      (giveNames ((before.map (·.name)).reverse ++ taken) after).outcome := by
  induction before generalizing taken with
  | nil => rfl
  | cons declaration before ih =>
      rw [List.cons_append, giveNames, giveNames]
      by_cases known : declaration.name ∈ taken
      · rw [if_pos known, if_pos known]
        rfl
      · rw [if_neg known, if_neg known, Logged.outcome_bind, Logged.outcome_bind,
          Logged.outcome_note, List.map_cons, List.reverse_cons, List.append_assoc]
        exact ih (declaration.name :: taken)

variable {action next : Naming Unit} {namer : Namer} {met more : List Declaration}
  {After Finally : Namer → Prop}

/-- A step that changes nothing. -/
theorem Gives.nothing (run : action.run namer = pure ((), namer)) (after : After namer) :
    Gives action namer [] After :=
  ⟨namer, run, fun _ => ⟨rfl, (List.append_nil _).symm, after⟩⟩

/-- A step that does the same gives the same names, also if it first takes note of a visit. -/
theorem Gives.of_run {visited : List Nat}
    (same : action.run namer = next.run { namer with visited := visited })
    (gives : Gives next { namer with visited := visited } met After) :
    Gives action namer met After := by
  obtain ⟨after, run, rest⟩ := gives
  exact ⟨after, same.trans run, rest⟩

theorem Gives.mono (gives : Gives action namer met After)
    (weaker : ∀ after, After after → Finally after) : Gives action namer met Finally := by
  obtain ⟨after, run, rest⟩ := gives
  refine ⟨after, run, fun new => ?_⟩
  obtain ⟨names, registered, after⟩ := rest new
  exact ⟨names, registered, weaker _ after⟩

/-- One step after another. -/
theorem Gives.seq (first : Gives action namer met After)
    (second : ∀ middle, After middle → Gives next middle more Finally) :
    Gives (do action; next) namer (met ++ more) Finally := by
  obtain ⟨middle, run, rest⟩ := first
  rw [Gives, giveNames_append, StateT.run_bind, run]
  cases given : (giveNames namer.names met).outcome with
  | error error => exact ⟨middle, rfl, fun none => nomatch none⟩
  | ok =>
      obtain ⟨names, registered, after⟩ := rest given
      obtain ⟨last, lastRun, lastRest⟩ := second middle after
      rw [names] at lastRun lastRest
      refine ⟨last, lastRun, fun new => ?_⟩
      obtain ⟨lastNames, lastRegistered, lastAfter⟩ := lastRest new
      refine ⟨?_, ?_, lastAfter⟩
      · rw [lastNames, List.map_append, List.reverse_append, List.append_assoc]
      · rw [lastRegistered, registered, List.map_append, List.append_assoc]

section Run

open TypeRef

variable {number : Nat} {name suggested parent : String} {slot : Slot} {slots : Slots}

theorem run_read (found : namer.slots.read number = pure slot) :
    (read number).run namer = pure (slot, namer) := by
  simp only [read, StateT.run_bind, StateT.run_get, pure_bind, StateT.run_monadLift, monadLift_self,
    found]

theorem run_change {f : Slot → Slot} (changed : namer.slots.change f number = pure slots) :
    (change number f).run namer = pure ((), { namer with slots := slots }) := by
  simp only [change, StateT.run_bind, StateT.run_get, pure_bind, StateT.run_monadLift,
    monadLift_self, changed, StateT.run_set]

theorem run_give_of_mem (taken : name ∈ namer.names) :
    (give number name).run namer = throw (.error (.nameCollision name)) := by
  simp only [give, StateT.run_bind, StateT.run_get, pure_bind]
  rw [if_pos taken]
  rfl

/-- A name that is not taken is given. -/
theorem run_give (free : name ∉ namer.names)
    (changed : namer.slots.change (fun slot => { slot with name := some name }) number =
      pure slots) :
    (give number name).run namer = pure ((), ⟨slots, name :: namer.names, namer.visited,
      namer.registered ++ [number]⟩) := by
  simp only [give, StateT.run_bind, StateT.run_get, pure_bind]
  have renamed : (change number fun slot => { slot with name := some name }).run
      { namer with names := name :: namer.names } =
        pure ((), { namer with names := name :: namer.names, slots := slots }) :=
    run_change changed
  rw [if_neg free]
  simp only [StateT.run_bind, StateT.run_modify, pure_bind]
  rw [renamed]
  rfl

/-- Names what the members lead to. -/
def nameMembers (parent : String) (members : List (String × Option Nat)) : Naming Unit :=
  forM members fun (member, type) =>
    match type with
    | some type => visitMember type (memberPath parent member)
    | none => return

theorem run_visitMembers_of_mem (seen : number ∈ namer.visited) :
    (visitMembers number).run namer = pure ((), namer) := by
  rw [visitMembers, StateT.run_bind, StateT.run_get, pure_bind]
  dsimp only
  rw [if_pos seen]
  rfl

/-- The members of a slot are looked at when it is visited for the first time. -/
theorem run_visitMembers (new : number ∉ namer.visited)
    (found : namer.slots.read number = pure slot) (isNamed : slot.name = some parent) :
    (visitMembers number).run namer =
      (nameMembers parent slot.members).run { namer with visited := number :: namer.visited } := by
  rw [visitMembers, StateT.run_bind, StateT.run_get, pure_bind]
  dsimp only
  have isRead : (read number).run { namer with visited := number :: namer.visited } =
      pure (slot, { namer with visited := number :: namer.visited }) :=
    run_read found
  rw [if_neg new, StateT.run_bind, StateT.run_modify, pure_bind, StateT.run_bind, isRead,
    pure_bind, isNamed]
  rfl

theorem run_nameType_of_some (found : namer.slots.read number = pure slot)
    (isNamed : slot.name = some name) :
    (nameType number suggested).run namer = (visitMembers number).run namer := by
  rw [nameType, StateT.run_bind, run_read found, pure_bind, isNamed]
  rfl

theorem run_nameType_of_none (found : namer.slots.read number = pure slot)
    (nameless : slot.name = none) :
    (nameType number suggested).run namer =
      (do give number suggested; visitMembers number).run namer := by
  rw [nameType, StateT.run_bind, run_read found, pure_bind, nameless]
  rfl

theorem run_visitMember_modified {modifier : Modifier} {inner : Nat}
    (found : namer.slots.read number = pure slot) (kind : slot.kind = .modified modifier inner) :
    (visitMember number suggested).run namer = (visitMember inner suggested).run namer := by
  rw [visitMember, StateT.run_bind, run_read found, pure_bind, kind]

theorem run_visitMember_group {kind : GroupKind} {members : List (String × Option Nat)}
    (found : namer.slots.read number = pure slot) (isGroup : slot.kind = .group kind members) :
    (visitMember number suggested).run namer = (nameType number suggested).run namer := by
  rw [visitMember, StateT.run_bind, run_read found, pure_bind, isGroup]

theorem run_visitMember_builtin {leaf : Builtin}
    (found : namer.slots.read number = pure slot) (isBuiltin : slot.kind = .builtin leaf) :
    (visitMember number suggested).run namer = pure ((), namer) := by
  rw [visitMember, StateT.run_bind, run_read found, pure_bind, isBuiltin]
  rfl

theorem run_nameWrapper_of_some (found : namer.slots.read number = pure slot)
    (isNamed : slot.name = some parent) :
    (nameWrapper number name).run namer = pure ((), namer) := by
  rw [nameWrapper, StateT.run_bind, run_read found, pure_bind, isNamed]
  rfl

theorem run_nameWrapper_of_nil (found : namer.slots.read number = pure slot)
    (nameless : slot.name = none) (empty : slot.members = []) :
    (nameWrapper number name).run namer = (change number fun slot =>
      { slot with name := some name, origin := .suppressedWrapper }).run namer := by
  rw [nameWrapper, StateT.run_bind, run_read found, pure_bind, nameless, empty]
  rfl

theorem run_nameWrapper_of_cons {member : String × Option Nat}
    {members : List (String × Option Nat)} (found : namer.slots.read number = pure slot)
    (nameless : slot.name = none) (some : slot.members = member :: members) :
    (nameWrapper number name).run namer = (nameType number name).run namer := by
  rw [nameWrapper, StateT.run_bind, run_read found, pure_bind, nameless, some]
  rfl

/-- Giving one name. -/
theorem gives_give {declaration : Declaration}
    (changed : namer.slots.change (fun slot => { slot with name := some declaration.name })
      declaration.number = pure slots) :
    Gives (give declaration.number declaration.name) namer [declaration] fun after =>
      after.slots = slots ∧ after.visited = namer.visited := by
  by_cases taken : declaration.name ∈ namer.names
  · refine ⟨namer, ?_, ?_⟩
    · rw [run_give_of_mem taken, giveNames, if_pos taken]
      rfl
    · intro none
      rw [giveNames, if_pos taken] at none
      cases none
  · refine ⟨⟨slots, declaration.name :: namer.names, namer.visited,
      namer.registered ++ [declaration.number]⟩, ?_, fun _ => ⟨rfl, rfl, rfl, rfl⟩⟩
    rw [run_give taken changed, giveNames, if_neg taken]
    rfl

end Run

end Naming

/-- The entry in its slot, with its name or without. -/
def TypeEntry.slotIf (entry : TypeEntry) (isNamed : Prop) [Decidable isNamed] : Slot :=
  (if isNamed then entry else entry.beforeNaming).slot

theorem TypeEntry.kind_slotIf (entry : TypeEntry) (isNamed : Prop) [Decidable isNamed] :
    (entry.slotIf isNamed).kind = entry.shape.slotKind := by
  obtain ⟨name, origin, shape, written⟩ := entry
  rw [slotIf]
  split_ifs
  · rfl
  · cases origin <;> rfl

/-- A struct or an enum in place waits for its name and for nothing else. -/
theorem TypeEntry.beforeNaming_of_inPlace {entry : TypeEntry}
    (inPlace : entry.origin = .anonymous ∨ entry.origin = .wrapper) :
    entry.beforeNaming = { entry with name := none } := by
  rw [beforeNaming]
  rcases inPlace with origin | origin <;> rw [origin]

namespace Interface

variable {interface : Interface}

/-- The slots of an interface when those with the given numbers have been named. -/
def slotsWith (interface : Interface) (named : List Nat) : Slots :=
  interface.types.mapIdx fun index entry => some (entry.slotIf (index + 1 ∈ named))

section Slots

variable {named : List Nat} {number : Nat} {entry : TypeEntry}

theorem slotsWith_nil (interface : Interface) :
    interface.slotsWith [] = interface.types.map TypeEntry.unnamed := by
  apply List.ext_getElem?
  intro index
  rw [slotsWith, List.getElem?_mapIdx, List.getElem?_map]
  simp only [TypeEntry.slotIf, List.not_mem_nil, if_false]
  rfl

theorem getElem?_slotsWith {index : Nat} (isEntry : interface.type? (index + 1) = some entry) :
    (interface.slotsWith named)[index]? = some (some (entry.slotIf (index + 1 ∈ named))) := by
  rw [type?] at isEntry
  rw [slotsWith, List.getElem?_mapIdx, isEntry]
  rfl

theorem read_slotsWith (isEntry : interface.type? number = some entry) :
    (interface.slotsWith named).read number = pure (entry.slotIf (number ∈ named)) := by
  cases number with
  | zero => cases isEntry
  | succ index => exact Slots.read_of_getElem? (getElem?_slotsWith isEntry)

/-- The slot of a declared type is the same all along. -/
theorem read_slotsWith_typedef {index : Nat} {typedef : Typedef}
    (found : interface.typedefs[index]? = some typedef) :
    (interface.slotsWith named).read (typedefNumber index) =
      pure (typedef.slot (interface.typedefStart index)) := by
  rw [read_slotsWith (type?_typedef found), TypeEntry.slotIf]
  split_ifs <;> rfl

/-- Naming an entry where it lies. -/
theorem change_slotsWith (isEntry : interface.type? number = some entry)
    (isNew : number ∉ named) {f : Slot → Slot} (same : f entry.beforeNaming.slot = entry.slot) :
    (interface.slotsWith named).change f number =
      pure (interface.slotsWith (named ++ [number])) := by
  cases number with
  | zero => cases isEntry
  | succ index =>
      rw [Slots.change_of_getElem? (getElem?_slotsWith isEntry), TypeEntry.slotIf, if_neg isNew,
        same]
      congr 1
      apply List.ext_getElem?
      intro other
      rw [type?] at isEntry
      rw [List.getElem?_set, slotsWith, slotsWith, List.getElem?_mapIdx, List.getElem?_mapIdx]
      by_cases here : index = other
      · subst here
        obtain ⟨bound, rfl⟩ := List.getElem?_eq_some_iff.mp isEntry
        simp [bound, TypeEntry.slotIf]
      · simp [here, Ne.symm here, TypeEntry.slotIf]

end Slots

/-- The second pass has named these numbers, and these declared types are to be entered. -/
structure NamerAt (interface : Interface) (unseen named : List Nat) (namer : Namer) : Prop where
  nodup : unseen.Nodup
  slots : namer.slots = interface.slotsWith named
  entered : ∀ index < interface.typedefs.length,
    typedefNumber index ∈ namer.visited ↔ index ∉ unseen
  visited : ∀ number ∈ namer.visited,
    number ∈ named ∨ ∃ index < interface.typedefs.length, number = typedefNumber index

theorem NamerAt.read_typedef {unseen named : List Nat} {namer : Namer}
    (state : interface.NamerAt unseen named namer) {index : Nat} {typedef : Typedef}
    (found : interface.typedefs[index]? = some typedef) :
    namer.slots.read (typedefNumber index) = pure (typedef.slot (interface.typedefStart index)) := by
  rw [state.slots, read_slotsWith_typedef found]

section NamerAt

variable {unseen named : List Nat} {namer : Namer} {number : Nat} {entry : TypeEntry}

theorem NamerAt.read_unnamed (state : interface.NamerAt unseen named namer)
    (isEntry : interface.type? number = some entry) (isNew : number ∉ named) :
    namer.slots.read number = pure entry.beforeNaming.slot := by
  rw [state.slots, read_slotsWith isEntry, TypeEntry.slotIf, if_neg isNew]

theorem NamerAt.change (state : interface.NamerAt unseen named namer)
    (isEntry : interface.type? number = some entry) (isNew : number ∉ named) {f : Slot → Slot}
    (same : f entry.beforeNaming.slot = entry.slot) :
    namer.slots.change f number = pure (interface.slotsWith (named ++ [number])) := by
  rw [state.slots]
  exact change_slotsWith isEntry isNew same

variable (inPlace : ∀ index < interface.typedefs.length, number ≠ typedefNumber index)
include inPlace

/-- What has not been named has not been visited. -/
theorem NamerAt.not_visited (state : interface.NamerAt unseen named namer)
    (isNew : number ∉ named) : number ∉ namer.visited := by
  intro isVisited
  rcases state.visited _ isVisited with isNamed | ⟨index, bound, same⟩
  · exact isNew isNamed
  · exact inPlace index bound same

/-- What has just been named is visited. -/
theorem NamerAt.visit (state : interface.NamerAt unseen named namer) {next : Namer}
    (slots : next.slots = interface.slotsWith (named ++ [number]))
    (visited : next.visited = namer.visited) :
    interface.NamerAt unseen (named ++ [number])
      { next with visited := number :: next.visited } where
  nodup := state.nodup
  slots := slots
  entered index bound := by
    rw [List.mem_cons, visited, state.entered index bound]
    simp [Ne.symm (inPlace index bound)]
  visited other isVisited := by
    rcases List.mem_cons.mp isVisited with rfl | isVisited
    · exact .inl (by simp)
    · rw [visited] at isVisited
      exact (state.visited other isVisited).imp_left (List.mem_append_left _)

end NamerAt

/-- The number of a type in place is that of no declared type. -/
theorem ne_typedefNumber {number : Nat} {entry : TypeEntry}
    (isEntry : interface.type? number = some entry) (inPlace : entry.origin ≠ .typedef) (index : Nat)
    (bound : index < interface.typedefs.length) : number ≠ typedefNumber index := by
  rintro rfl
  have isTypedef := type?_typedef (List.getElem?_eq_getElem bound)
  rw [isEntry] at isTypedef
  obtain rfl := Option.some.inj isTypedef
  exact inPlace rfl

theorem shape?_builtin (interface : Interface) (leaf : Builtin) :
    interface.shape? leaf.number = some (.builtin leaf) := by
  rw [shape?, type?_builtin]
  rfl

/-- What a slot holds is the same all along. -/
theorem NamerAt.exists_slot {unseen named : List Nat} {namer : Namer}
    (state : interface.NamerAt unseen named namer) {number : Nat} {shape : Shape}
    (isShape : interface.shape? number = some shape) :
    ∃ slot, namer.slots.read number = pure slot ∧ slot.kind = shape.slotKind := by
  obtain ⟨entry, isEntry, rfl⟩ := Option.map_eq_some_iff.mp isShape
  refine ⟨_, ?_, entry.kind_slotIf (number ∈ named)⟩
  rw [state.slots, read_slotsWith isEntry]

/-- The walk along these stops meets these declarations and leaves these types to be entered. -/
structure Walked (interface : Interface) (stops : List Stop) (unseen : List Nat)
    (met : List Declaration) (left : List Nat) : Prop where
  sublist : left.Sublist unseen
  walk : ∀ pending, Stop.walk interface.typedefStops (stops ++ pending) unseen =
    met ++ Stop.walk interface.typedefStops pending left
  entered : unseen.Nodup → ∀ index, Stop.enter index ∈ stops → index ∉ left

/-- The step names what the walk along these stops meets, as long as no more than `levels` declared
types are to be entered. -/
def Visits (interface : Interface) (levels : Nat) (action : Naming Unit) (stops : List Stop) :
    Prop :=
  ∀ unseen : List Nat, unseen.length ≤ levels → ∃ met left,
    interface.Walked stops unseen met left ∧
    ∀ named namer, interface.NamerAt unseen named namer →
      (met.map (·.number)).Nodup → (∀ number ∈ met.map (·.number), number ∉ named) →
      Naming.Gives action namer met (interface.NamerAt left (named ++ met.map (·.number)))

section Walked

variable {stops later : List Stop} {unseen middle left : List Nat}
  {met after : List Declaration}

theorem Walked.nil (unseen : List Nat) : interface.Walked [] unseen [] unseen :=
  ⟨.refl _, fun _ => rfl, fun _ _ inside => nomatch inside⟩

theorem Walked.append (first : interface.Walked stops unseen met middle)
    (second : interface.Walked later middle after left) :
    interface.Walked (stops ++ later) unseen (met ++ after) left where
  sublist := second.sublist.trans first.sublist
  walk pending := by
    rw [List.append_assoc, first.walk, second.walk, List.append_assoc]
  entered nodup index inside := by
    rcases List.mem_append.mp inside with inside | inside
    · exact fun isLeft => first.entered nodup index inside (second.sublist.subset isLeft)
    · exact second.entered (first.sublist.nodup nodup) index inside

/-- The stops inside a declared type stand for entering it. -/
theorem Walked.enter {index : Nat} (isUnseen : index ∈ unseen)
    (inside : interface.Walked (interface.typedefStops index) (unseen.erase index) met left) :
    interface.Walked [.enter index] unseen met left where
  sublist := inside.sublist.trans List.erase_sublist
  walk pending := by
    rw [List.singleton_append, Stop.walk, if_pos isUnseen, inside.walk]
  entered nodup other isOther := by
    obtain rfl := Stop.enter.inj (List.mem_singleton.mp isOther)
    exact fun isLeft => nodup.not_mem_erase (inside.sublist.subset isLeft)

theorem Walked.skip {index : Nat} (isSeen : index ∉ unseen) :
    interface.Walked [.enter index] unseen [] unseen where
  sublist := .refl _
  walk pending := by
    rw [List.singleton_append, Stop.walk, if_neg isSeen, List.nil_append]
  entered _ other isOther := by
    obtain rfl := Stop.enter.inj (List.mem_singleton.mp isOther)
    exact isSeen

theorem Walked.found (declaration : Declaration) (inside : interface.Walked stops unseen met left) :
    interface.Walked (.found declaration :: stops) unseen (declaration :: met) left where
  sublist := inside.sublist
  walk pending := by
    rw [List.cons_append, Stop.walk, inside.walk, List.cons_append]
  entered nodup index isInside :=
    inside.entered nodup index ((List.mem_cons.mp isInside).resolve_left Stop.noConfusion)

end Walked

section Visits

variable {levels : Nat} {action next : Naming Unit} {stops later : List Stop}

theorem Visits.nothing (run : ∀ unseen named namer, interface.NamerAt unseen named namer →
    action.run namer = pure ((), namer)) : interface.Visits levels action [] := by
  intro unseen _
  refine ⟨[], unseen, .nil unseen, ?_⟩
  intro named namer state _ _
  refine .nothing (run unseen named namer state) ?_
  rwa [List.map_nil, List.append_nil]

theorem Visits.of_run (same : ∀ unseen named namer, interface.NamerAt unseen named namer →
      action.run namer = next.run namer)
    (visits : interface.Visits levels next stops) : interface.Visits levels action stops := by
  intro unseen bound
  obtain ⟨met, left, walked, gives⟩ := visits unseen bound
  refine ⟨met, left, walked, ?_⟩
  intro named namer state distinct new
  exact (gives named namer state distinct new).of_run (same unseen named namer state)

theorem Visits.append (first : interface.Visits levels action stops)
    (second : interface.Visits levels next later) :
    interface.Visits levels (do action; next) (stops ++ later) := by
  intro unseen bound
  obtain ⟨met, middle, walked, gives⟩ := first unseen bound
  obtain ⟨after, left, laterWalked, laterGives⟩ :=
    second middle (walked.sublist.length_le.trans bound)
  refine ⟨met ++ after, left, walked.append laterWalked, ?_⟩
  intro named namer state distinct new
  rw [List.map_append] at distinct new
  obtain ⟨metDistinct, afterDistinct, apart⟩ := List.nodup_append.mp distinct
  obtain ⟨metNew, afterNew⟩ := List.forall_mem_append.mp new
  refine (gives named namer state metDistinct metNew).seq fun between state => ?_
  rw [List.map_append, ← List.append_assoc]
  refine laterGives _ between state afterDistinct ?_
  intro number isAfter isNamed
  rcases List.mem_append.mp isNamed with isNamed | isMet
  · exact afterNew number isAfter isNamed
  · exact apart number isMet number isAfter rfl

theorem Visits.forM {α : Type} {step : α → Naming Unit} {stopsOf : α → List Stop} {items : List α}
    (each : ∀ item ∈ items, interface.Visits levels (step item) (stopsOf item)) :
    interface.Visits levels (ForM.forM items step) (items.flatMap stopsOf) := by
  induction items with
  | nil => exact .nothing fun _ _ _ _ => rfl
  | cons item items ih =>
      obtain ⟨head, tail⟩ := List.forall_mem_cons.mp each
      exact head.append (ih tail)

/-- A declared type is entered once. One that has been entered is passed by, and one that has not is
one type less to be entered. -/
theorem Visits.enter {index : Nat} {typedef : Typedef}
    (found : interface.typedefs[index]? = some typedef)
    (inside : ∀ fewer, fewer + 1 = levels → interface.Visits fewer
      (Naming.nameMembers typedef.name (typedef.body.slotMembers (interface.typedefStart index)))
      (interface.typedefStops index)) :
    interface.Visits levels (TypeRef.visitMembers (typedefNumber index)) [.enter index] := by
  have bound := (List.getElem?_eq_some_iff.mp found).1
  intro unseen few
  by_cases isUnseen : index ∈ unseen
  · have less := Graph.length_erase_lt isUnseen
    obtain ⟨fewer, rfl⟩ := Nat.exists_eq_add_one_of_ne_zero (n := levels) (by omega)
    obtain ⟨met, left, walked, gives⟩ := inside fewer rfl (unseen.erase index) (by omega)
    refine ⟨met, left, .enter isUnseen walked, ?_⟩
    intro named namer state distinct new
    have notVisited : typedefNumber index ∉ namer.visited := by
      rw [state.entered index bound]
      exact not_not.mpr isUnseen
    refine .of_run (Naming.run_visitMembers notVisited (state.read_typedef found) rfl) ?_
    rw [Typedef.members_slot]
    refine gives named _ ⟨state.nodup.erase _, state.slots, ?_, ?_⟩ distinct new
    · intro other inRange
      rw [List.mem_cons, state.nodup.mem_erase_iff, state.entered other inRange, typedefNumber,
        typedefNumber, Nat.add_left_cancel_iff]
      tauto
    · intro number isVisited
      rcases List.mem_cons.mp isVisited with rfl | isVisited
      · exact .inr ⟨index, bound, rfl⟩
      · exact state.visited number isVisited
  · refine ⟨[], unseen, .skip isUnseen, ?_⟩
    intro named namer state _ _
    refine .nothing (Naming.run_visitMembers_of_mem ((state.entered index bound).mpr isUnseen)) ?_
    rwa [List.map_nil, List.append_nil]

/-- A struct or an enum in place is named before what is inside it. Its number is new, so it has not
been visited either. -/
theorem Visits.group {declaration : Declaration} {entry : TypeEntry}
    (isEntry : interface.type? declaration.number = some entry)
    (isNamed : entry.name = some declaration.name)
    (inPlace : entry.origin = .anonymous ∨ entry.origin = .wrapper)
    (inside : interface.Visits levels
      (Naming.nameMembers declaration.name entry.slot.members) stops) :
    interface.Visits levels (TypeRef.nameType declaration.number declaration.name)
      (.found declaration :: stops) := by
  have before := TypeEntry.beforeNaming_of_inPlace inPlace
  have renamed : { entry.beforeNaming.slot with name := some declaration.name } = entry.slot := by
    rw [before, TypeEntry.slot, TypeEntry.slot, isNamed]
  have nameless : entry.beforeNaming.slot.name = none := by rw [before]; rfl
  have notDeclared := ne_typedefNumber isEntry (by rcases inPlace with origin | origin <;> simp [origin])
  intro unseen few
  obtain ⟨met, left, walked, gives⟩ := inside unseen few
  refine ⟨declaration :: met, left, walked.found declaration, ?_⟩
  intro named namer state distinct new
  obtain ⟨notMet, distinct⟩ := List.nodup_cons.mp distinct
  obtain ⟨isNew, new⟩ := List.forall_mem_cons.mp new
  refine .of_run (Naming.run_nameType_of_none (state.read_unnamed isEntry isNew) nameless) ?_
  refine (Naming.gives_give (state.change isEntry isNew renamed)).seq fun middle after => ?_
  obtain ⟨slots, visited⟩ := after
  have notVisited : declaration.number ∉ middle.visited :=
    visited ▸ state.not_visited notDeclared isNew
  have isNamedNow : middle.slots.read declaration.number = pure entry.slot := by
    rw [slots, read_slotsWith isEntry, TypeEntry.slotIf, if_pos (by simp)]
  refine .of_run (Naming.run_visitMembers notVisited isNamedNow isNamed) ?_
  rw [List.map_cons, List.append_cons]
  refine gives _ _ (state.visit notDeclared slots visited) distinct ?_
  intro number isMet isNamed
  rcases List.mem_append.mp isNamed with isNamed | isHere
  · exact new number isMet isNamed
  · obtain rfl := List.mem_singleton.mp isHere
    exact notMet isMet

/-- Fields are gone through one after the other. -/
theorem Visits.fields {fields : Fields} {name : String} {first : Nat}
    (each : ∀ index (field : String × LinkedType), fields[index]? = some field → interface.Visits levels
      (TypeRef.visitMember
        (field.2.number (first + offset TypeExpr.fieldCount fields index)) (memberPath name field.1))
      (field.2.stops (memberPath name field.1)
        (first + offset TypeExpr.fieldCount fields index))) :
    interface.Visits levels (Naming.nameMembers name (TypeExpr.fieldMembers first fields))
      (TypeExpr.fieldStops name first fields) := by
  induction fields generalizing first with
  | nil => exact .nothing fun _ _ _ _ => rfl
  | cons field fields ih =>
      refine (each 0 field rfl).append (ih fun index other found => ?_)
      have later := each (index + 1) other found
      rwa [offset_cons_succ, ← Nat.add_assoc] at later

/-- The members of an enum lead nowhere. -/
theorem Visits.variants (name : String) (members : List String) : interface.Visits levels
    (Naming.nameMembers name (members.map fun member => (member, none))) [] := by
  refine .nothing fun _ _ namer _ => ?_
  induction members with
  | nil => rfl
  | cons member members ih => exact ih

end Visits

section Types

variable {levels : Nat} {name : String} {first : Nat}

/-- The members of a group lead to its stops, if those of its fields do. -/
theorem visits_group {group : Group} {number : Nat}
    (located : interface.GroupAt number name group first)
    (each : ∀ field ∈ group.fields, ∀ name first, interface.TypeAt field.2 name first →
      interface.Visits levels (TypeRef.visitMember (field.2.number first) name)
        (field.2.stops name first)) :
    interface.Visits levels
      (Naming.nameMembers name (group.slotMembers first))
      (TypeExpr.fieldStops name first group.fields) := by
  cases group with
  | enum members => exact .variants name members
  | struct fields =>
      refine .fields fun index field found => ?_
      exact each field (List.mem_of_getElem? found) _ _ (located.field found)

variable (entering : ∀ index < interface.typedefs.length,
  interface.Visits levels (TypeRef.visitMembers (typedefNumber index)) [.enter index])
include entering

/-- Visiting a type in place makes its stops. -/
theorem visits_type {type : LinkedType} (located : interface.TypeAt type name first) :
    interface.Visits levels (TypeRef.visitMember (type.number first) name)
      (type.stops name first) := by
  induction type using TypeExpr.induction generalizing name first with
  | reference index =>
      have bound := located.bound index (List.mem_singleton_self index)
      have found := List.getElem?_eq_getElem bound
      refine .of_run ?_ (entering index bound)
      intro unseen named namer state
      have isRead := state.read_typedef found
      exact (Naming.run_visitMember_group isRead (Typedef.kind_slot ..)).trans
        (Naming.run_nameType_of_some isRead rfl)
  | builtin leaf =>
      refine .nothing fun unseen named namer state => ?_
      obtain ⟨slot, isRead, kind⟩ := state.exists_slot (interface.shape?_builtin leaf)
      exact Naming.run_visitMember_builtin isRead kind
  | modified modifier inner ih =>
      refine .of_run ?_ (ih located.modified)
      intro unseen named namer state
      obtain ⟨slot, isRead, kind⟩ := state.exists_slot located.shape?_modified
      exact Naming.run_visitMember_modified isRead kind
  | struct fields ih =>
      have isEntry := located.holds.last
      rw [TypeExpr.length_fieldEntries] at isEntry
      refine .of_run ?_ (.group isEntry rfl (.inl rfl) (visits_group located.struct ih))
      intro unseen named namer state
      obtain ⟨slot, isRead, kind⟩ := state.exists_slot located.struct.shape
      exact Naming.run_visitMember_group isRead kind
  | enum members =>
      have isEntry : interface.type? first = some _ := located.holds 0 _ rfl
      refine .of_run ?_ (.group isEntry rfl (.inl rfl) (.variants name members))
      intro unseen named namer state
      have isShape : interface.shape? first = some (.enum members) := by rw [shape?, isEntry]; rfl
      obtain ⟨slot, isRead, kind⟩ := state.exists_slot isShape
      exact Naming.run_visitMember_group isRead kind

end Types

/-- Entering a declared type makes the stops inside it. -/
theorem visits_enter (linked : interface.Linked) (levels index : Nat)
    (bound : index < interface.typedefs.length) :
    interface.Visits levels (TypeRef.visitMembers (typedefNumber index)) [.enter index] := by
  induction levels generalizing index with
  | zero => exact .enter (List.getElem?_eq_getElem bound) fun fewer same => nomatch same
  | succ levels ih =>
      have found := List.getElem?_eq_getElem bound
      refine .enter found fun fewer same => ?_
      obtain rfl := Nat.succ.inj same
      rw [typedefStops, getElem?_numberedTypedefs, found]
      exact visits_group (groupAt_typedef linked found)
        fun field _ name first located => visits_type ih located

end Interface

/-- The numbers of a signature that get names: those of the declarations in it, or its own if it is
suppressed. -/
def Signature.namedNumbers (path : String) (first : Nat) : Signature → List Nat
  | inline [] => [first]
  | signature => (Stop.declarations (signature.stops path first)).map (·.number)

namespace Stop

/-- When all declared types have been entered, the walk meets the groups among the stops. -/
theorem walk_nil (stopsOf : Nat → List Stop) (stops : List Stop) :
    walk stopsOf stops [] = declarations stops := by
  induction stops with
  | nil => rw [walk, declarations_nil]
  | cons stop stops ih =>
      cases stop with
      | found declaration => rw [walk, ih, declarations_found]
      | enter index => rw [walk, if_neg List.not_mem_nil, ih, declarations_enter]

end Stop

/-- The declarations of a signature have different numbers, all of its own. -/
theorem Signature.numbers_stops (signature : Signature) (path : String) (first : Nat) :
    ((Stop.declarations (signature.stops path first)).map (·.number)).Nodup ∧
      ∀ number ∈ (Stop.declarations (signature.stops path first)).map (·.number),
        first ≤ number ∧ number < first + signature.numberCount := by
  have perm := (signature.stops_perm path first).map (·.number)
  have sublist := numbers_declarationsFrom_sublist first (signature.entries path first)
  rw [length_entries] at sublist
  refine ⟨perm.nodup_iff.mpr (sublist.nodup List.nodup_range'), ?_⟩
  intro number inside
  exact List.mem_range'_1.mp (sublist.subset (perm.mem_iff.mp inside))

theorem Signature.bound_of_mem_namedNumbers {signature : Signature} {path : String}
    {first number : Nat} (inside : number ∈ signature.namedNumbers path first) :
    number < first + signature.numberCount := by
  match signature with
  | .inline [] =>
      obtain rfl := List.mem_singleton.mp inside
      exact Nat.lt_succ_self _
  | .inline (field :: fields) => exact ((numbers_stops _ path first).2 number inside).2
  | .declared index => cases inside

namespace Interface

variable {interface : Interface}

/-- Naming a signature, once all declared types have been entered. -/
def NamesSignature (interface : Interface) (numbered : Nat × String × Signature) : Prop :=
  ∀ named namer, interface.NamerAt [] named namer → (∀ number ∈ named, number < numbered.1) →
    Naming.Gives (Naming.nameWrapper (numbered.2.2.number numbered.1) numbered.2.1) namer
      (Stop.declarations (numbered.2.2.stops numbered.2.1 numbered.1))
      (interface.NamerAt [] (named ++ numbered.2.2.namedNumbers numbered.2.1 numbered.1))

section Signatures

variable {index : Nat} {path : String}

/-- A signature that is a declared type has its name. -/
theorem namesSignature_declared (linked : interface.Linked) {target : Nat}
    (found : interface.signatures[index]? = some (path, .declared target)) :
    interface.NamesSignature (interface.signatureStart index, path, .declared target) := by
  intro named namer state before
  have bound := linked.signatures _ (List.mem_of_getElem? found) target
    (List.mem_singleton_self target)
  have isRead := state.read_typedef (List.getElem?_eq_getElem bound)
  refine .nothing (Naming.run_nameWrapper_of_some isRead rfl) ?_
  show interface.NamerAt [] (named ++ []) namer
  rwa [List.append_nil]

/-- A signature without fields is suppressed, and is no declaration. -/
theorem namesSignature_nil (found : interface.signatures[index]? = some (path, .inline [])) :
    interface.NamesSignature (interface.signatureStart index, path, .inline []) := by
  intro named namer state before
  let start := interface.signatureStart index
  let entry : TypeEntry := ⟨some path, .suppressedWrapper, .struct [], .struct []⟩
  have isEntry : interface.type? start = some entry := (holds_signature found).last
  have isNew : start ∉ named := fun isNamed => Nat.lt_irrefl _ (before _ isNamed)
  have isRead := state.read_unnamed isEntry isNew
  have changed : namer.slots.change
      (fun slot => { slot with name := some path, origin := .suppressedWrapper }) start =
      pure (interface.slotsWith (named ++ [start])) :=
    state.change isEntry isNew rfl
  refine ⟨{ namer with slots := interface.slotsWith (named ++ [start]) }, ?_, fun _ =>
    ⟨rfl, (List.append_nil _).symm, state.nodup, rfl, state.entered, fun number isVisited =>
      (state.visited number isVisited).imp_left (List.mem_append_left _)⟩⟩
  exact (Naming.run_nameWrapper_of_nil isRead rfl rfl).trans (Naming.run_change changed)

/-- Any other signature is named like a struct in place. -/
theorem namesSignature_cons (linked : interface.Linked) {field : String × LinkedType}
    {fields : Fields}
    (found : interface.signatures[index]? = some (path, .inline (field :: fields))) :
    interface.NamesSignature
      (interface.signatureStart index, path, .inline (field :: fields)) := by
  intro named namer state before
  let start := interface.signatureStart index
  let number := start + TypeExpr.fieldsNumberCount (field :: fields)
  let entry : TypeEntry := ⟨some path, .wrapper,
    .struct (TypeExpr.fieldNumbers start (field :: fields)), .struct (field :: fields)⟩
  have isEntry : interface.type? number = some entry := by
    have last := (holds_signature found).last
    rwa [TypeExpr.length_fieldEntries] at last
  let declaration : Declaration := ⟨path, number, .struct (field :: fields)⟩
  have visits : interface.Visits 0 (TypeRef.nameType declaration.number declaration.name)
      (.found declaration :: TypeExpr.fieldStops path start (field :: fields)) :=
    .group isEntry rfl (.inr rfl) (visits_group (groupAt_signature linked found)
      fun field _ name first located => visits_type (visits_enter linked 0) located)
  obtain ⟨met, left, walked, gives⟩ := visits [] le_rfl
  obtain rfl := List.sublist_nil.mp walked.sublist
  have meets : Stop.declarations (Signature.stops path start (.inline (field :: fields))) = met := by
    have meets := walked.walk []
    rwa [List.append_nil, Stop.walk_nil, Stop.walk_nil, Stop.declarations_nil, List.append_nil]
      at meets
  obtain ⟨distinct, own⟩ := Signature.numbers_stops (.inline (field :: fields)) path start
  rw [meets] at distinct own
  have isNew : ∀ number ∈ met.map (·.number), number ∉ named := fun number isMet isNamed =>
    Nat.lt_irrefl _ ((before number isNamed).trans_le (own number isMet).1)
  have unnamed : number ∉ named := fun isNamed =>
    Nat.lt_irrefl _ ((before number isNamed).trans_le (Nat.le_add_right ..))
  have isRead := state.read_unnamed isEntry unnamed
  show Naming.Gives _ _ (Stop.declarations (Signature.stops path start (.inline (field :: fields))))
    (interface.NamerAt [] (named ++ (Stop.declarations (Signature.stops path start
      (.inline (field :: fields)))).map (·.number)))
  rw [meets]
  exact .of_run (Naming.run_nameWrapper_of_cons isRead rfl rfl)
    (gives named namer state distinct isNew)

theorem namesSignature (linked : interface.Linked) {signature : Signature}
    (found : interface.signatures[index]? = some (path, signature)) :
    interface.NamesSignature (interface.signatureStart index, path, signature) := by
  match signature with
  | .declared target => exact namesSignature_declared linked found
  | .inline [] => exact namesSignature_nil found
  | .inline (field :: fields) => exact namesSignature_cons linked found

end Signatures

end Interface

end Varlink
