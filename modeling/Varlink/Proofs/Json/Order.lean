import Varlink.Proofs.Json.RoundTrip

/-!
# Objects are read in order

The members of an object are put into their places one by one as they are read, each over an earlier
one with its key. So in every value that is read the members of all objects are in order and no key
occurs twice, whatever the text says. The value is followed through its readers, which are entered
level by level.
-/

namespace Varlink

namespace Json

section Insert

variable {key : String} {value : Json} {members : List (String × Json)}

theorem eq_or_mem_of_mem_insert {member : String × Json} (inside : member ∈ insert key value members) :
    member = (key, value) ∨ member ∈ members := by
  induction members with
  | nil => exact .inl (List.mem_singleton.mp inside)
  | cons other members ih =>
      rw [insert] at inside
      split_ifs at inside
      · exact List.mem_cons.mp inside
      · rcases List.mem_cons.mp inside with isNew | inside
        · exact .inl isNew
        · exact .inr (List.mem_cons_of_mem other inside)
      · rcases List.mem_cons.mp inside with rfl | inside
        · exact .inr List.mem_cons_self
        · exact (ih inside).imp_right (List.mem_cons_of_mem other)

/-- A new member leaves the others in order. -/
theorem sorted_insert (sorted : (members.map Prod.fst).Pairwise (· < ·)) :
    ((insert key value members).map Prod.fst).Pairwise (· < ·) := by
  induction members with
  | nil => exact List.pairwise_singleton _ _
  | cons other members ih =>
      obtain ⟨otherKey, old⟩ := other
      obtain ⟨before, later⟩ := List.pairwise_cons.mp sorted
      rw [insert]
      split_ifs with isBefore isSame
      · refine List.pairwise_cons.mpr ⟨fun further inside => ?_, sorted⟩
        rcases List.mem_cons.mp inside with rfl | inside
        · exact isBefore
        · exact isBefore.trans (before further inside)
      · subst isSame
        exact List.pairwise_cons.mpr ⟨before, later⟩
      · have isBehind : otherKey < key := lt_of_le_of_ne (not_lt.mp isBefore) (Ne.symm isSame)
        refine List.pairwise_cons.mpr ⟨fun further inside => ?_, ih later⟩
        obtain ⟨member, isMember, rfl⟩ := List.mem_map.mp inside
        rcases eq_or_mem_of_mem_insert isMember with rfl | isMember
        · exact isBehind
        · exact before member.1 (List.mem_map_of_mem isMember)

/-- An object of values in order is in order, whatever the order of its members was. -/
theorem ordered_ofMembers (each : ∀ member ∈ members, member.2.Ordered) :
    (ofMembers members).Ordered := by
  suffices step : ∀ before : List (String × Json),
      (before.map Prod.fst).Pairwise (· < ·) → (∀ member ∈ before, member.2.Ordered) →
      (Json.object (members.foldl (fun sorted member => insert member.1 member.2 sorted)
        before)).Ordered from step [] .nil nofun
  induction members with
  | nil => exact fun before sorted each => .object sorted each
  | cons member members ih =>
      obtain ⟨ordered, each⟩ := List.forall_mem_cons.mp each
      intro before sorted eachBefore
      refine ih each _ (sorted_insert sorted) fun other inside => ?_
      rcases eq_or_mem_of_mem_insert inside with rfl | inside
      · exact ordered
      · exact eachBefore other inside

end Insert

/-- What a reader yields, if it succeeds, has a property. -/
def Yields {α : Type} {input : List UInt8} (P : α → Prop) (reading : Reading α input) : Prop :=
  ∀ found, reading = .ok found → P found.value

section Yields

variable {α β : Type} {input start : List UInt8} {P : α → Prop} {Q : β → Prop}
  {reading : Reading α input} {next : Found α input → Reading β start}

theorem yields_ok {found : Found α input} (holds : P found.value) :
    Yields P (.ok found : Reading α input) := by
  rintro _ ⟨⟩
  exact holds

theorem yields_error (fault : JsonPlacedFault) : Yields P (.error fault : Reading α input) := nofun

/-- What is read first matters by its property alone. -/
theorem Yields.bind (first : Yields P reading)
    (second : ∀ found, P found.value → Yields Q (next found)) : Yields Q (reading >>= next) := by
  intro result read
  obtain ⟨found, isFirst, isSecond⟩ := bind_eq_ok.mp read
  exact second found (first found isFirst) result isSecond

/-- What is read first does not matter. -/
theorem yields_bind (second : ∀ found, Yields Q (next found)) : Yields Q (reading >>= next) :=
  Yields.bind (P := fun _ => True) (fun _ _ => trivial) fun found _ => second found

end Yields

section Composite

variable {readInner : (input : List UInt8) → Reading Json input}
  (inner : ∀ input, Yields Ordered (readInner input))
include inner

theorem yields_readItems (input : List UInt8) :
    Yields (fun items => ∀ item ∈ items, Ordered item) (readItems readInner input) := by
  -- the items after the first are read from a shorter input
  induction isLength : input.length using Nat.strongRecOn generalizing input with
  | ind length ih =>
      subst isLength
      rw [readItems]
      refine (inner input).bind fun item ordered => ?_
      obtain ⟨item, afterItem, first⟩ := item
      refine yields_bind fun next => ?_
      obtain ⟨byte, rest, second⟩ := next
      dsimp only
      split_ifs
      · exact yields_ok (List.forall_mem_singleton.mpr ordered)
      · split
        · exact yields_error _
        · split_ifs
          · exact yields_error _
          · refine (ih rest.length (second.trans first) rest rfl).bind fun items each => ?_
            exact yields_ok (List.forall_mem_cons.mpr ⟨ordered, each⟩)
      · exact yields_error _

theorem yields_readArray (input : List UInt8) :
    Yields (fun items => ∀ item ∈ items, Ordered item) (readArray readInner input) := by
  refine yields_bind fun next => ?_
  obtain ⟨byte, rest, shorter⟩ := next
  dsimp only
  split_ifs
  · exact yields_ok (List.forall_mem_nil _)
  · exact yields_readItems inner input

theorem yields_readMembers (first : Bool) (input : List UInt8) :
    Yields (fun members => ∀ member ∈ members, Ordered member.2)
      (readMembers readInner first input) := by
  induction isLength : input.length using Nat.strongRecOn generalizing first input with
  | ind length ih =>
      subst isLength
      rw [readMembers]
      refine yields_bind fun next => ?_
      obtain ⟨more, rest, shorter⟩ := next
      dsimp only
      split_ifs
      · have member : Yields (fun member => Ordered member.2) (readMember readInner rest) := by
          refine yields_bind fun key => yields_bind fun colon => ?_
          exact (inner colon.rest).bind fun value ordered => yields_ok ordered
        refine member.bind fun member ordered => ?_
        obtain ⟨⟨key, value⟩, afterMember, further⟩ := member
        refine (ih afterMember.length (further.trans shorter) false afterMember rfl).bind
          fun members each => ?_
        exact yields_ok (List.forall_mem_cons.mpr ⟨ordered, each⟩)
      · exact yields_ok (List.forall_mem_nil _)

end Composite

/-- A value is in order if those that stand inside it are. -/
theorem yields_readValue_of_inner {levels : Nat}
    (inner : ∀ fewer, levels = fewer + 1 → ∀ input, Yields Ordered (readValue fewer input))
    (input : List UInt8) : Yields Ordered (readValue levels input) := by
  rw [readValue.eq_def]
  refine yields_bind fun next => ?_
  obtain ⟨byte, rest, shorter⟩ := next
  dsimp only
  split_ifs
  · exact yields_bind fun _ => yields_ok .null
  · exact yields_bind fun _ => yields_ok (.bool true)
  · exact yields_bind fun _ => yields_ok (.bool false)
  · exact yields_bind fun found => yields_ok (.number found.value)
  · exact yields_bind fun found => yields_ok (.number found.value)
  · exact yields_bind fun found => yields_ok (.string found.value)
  · cases levels with
    | zero => exact yields_error _
    | succ fewer =>
        refine (yields_readArray (inner fewer rfl) rest).bind fun _ each => ?_
        exact yields_ok (.array each)
  · cases levels with
    | zero => exact yields_error _
    | succ fewer =>
        refine (yields_readMembers (inner fewer rfl) true rest).bind fun _ each => ?_
        exact yields_ok (ordered_ofMembers each)
  · exact yields_error _

/-- In every value that is read the members of all objects are in order. -/
theorem yields_readValue (levels : Nat) (input : List UInt8) :
    Yields Ordered (readValue levels input) := by
  induction levels generalizing input with
  | zero =>
      refine yields_readValue_of_inner (fun fewer isSame => ?_) input
      cases isSame
  | succ levels ih =>
      refine yields_readValue_of_inner (fun fewer isSame => ?_) input
      obtain rfl := Nat.succ.inj isSame
      exact ih

end Json

end Varlink
