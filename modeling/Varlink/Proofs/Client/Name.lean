import Mathlib.Data.Finset.Card
import Varlink.Client.Outline
import Varlink.Proofs.Text.Words

/-!
# The name of a client is free

A declaration stands in the way of a candidate if it has its name or that of the error type made from
it. Each candidate is longer than the one before by `Client`, and the error types by `Error`, so the
lengths tell that no name stands in the way of two candidates. One more candidate than there are
declarations is therefore enough, and the search finds a free one.
-/

namespace Varlink

/-- The name of the enum of errors, unless there are none. -/
def Outline.errorTypeNames (outline : Outline) : List String :=
  if outline.errors.isEmpty then [] else [outline.errorTypeName]

namespace Interface

variable {interface : Interface}

/-- A stem, lengthened so many times. -/
def lengthened (stem : String) (count : Nat) : String :=
  stem ++ String.join (List.replicate count "Client")

theorem lengthened_succ (stem : String) (count : Nat) :
    lengthened stem (count + 1) = lengthened stem count ++ "Client" := by
  rw [lengthened, lengthened, List.replicate_succ', String.join_append]
  simp [String.append_assoc]

theorem length_lengthened (stem : String) (count : Nat) :
    (lengthened stem count).length = stem.length + 6 * count := by
  induction count with
  | zero => simp [lengthened]
  | succ count ih =>
      have added : "Client".length = 6 := rfl
      rw [lengthened_succ, String.length_append, ih, added]
      omega

theorem clientCandidate_succ (interface : Interface) (count : Nat) :
    interface.clientCandidate (count + 1) = interface.clientCandidate count ++ "Client" :=
  lengthened_succ interface.clientStem count

theorem length_errorTypeName (client : String) :
    (errorTypeName client).length = client.length + 5 := by
  rw [errorTypeName, String.length_append]
  rfl

/-- A declaration of this name stands in the way of a stem that is lengthened so many times. -/
def Blocks (stem name : String) (count : Nat) : Prop :=
  name = lengthened stem count ∨ name = errorTypeName (lengthened stem count)

theorem Blocks.length {stem name : String} {count : Nat} (blocks : Blocks stem name count) :
    name.length = stem.length + 6 * count ∨ name.length = stem.length + 6 * count + 5 := by
  rcases blocks with rfl | rfl
  · exact .inl (length_lengthened stem count)
  · exact .inr (by rw [length_errorTypeName, length_lengthened])

theorem Blocks.inj {stem name : String} {first second : Nat} (isFirst : Blocks stem name first)
    (isSecond : Blocks stem name second) : first = second := by
  have firstLength := isFirst.length
  have secondLength := isSecond.length
  omega

theorem isFree_iff {client : String} : interface.isFree client ↔
    client ∉ interface.declarations.map (·.name) ∧
      errorTypeName client ∉ interface.declarations.map (·.name) := by
  simp [isFree]

theorem exists_blocks {stem : String} {count : Nat}
    (taken : ¬ interface.isFree (lengthened stem count)) :
    ∃ name ∈ interface.declarations.map (·.name), Blocks stem name count := by
  rw [isFree_iff, not_and_or, not_not, not_not] at taken
  rcases taken with inside | inside
  · exact ⟨_, inside, .inl rfl⟩
  · exact ⟨_, inside, .inr rfl⟩

/-- However a client's name begins, one of the first candidates is free. -/
theorem exists_isFree (interface : Interface) (stem : String) :
    ∃ count ∈ List.range (interface.declarations.length + 1),
      interface.isFree (lengthened stem count) := by
  by_contra none
  push Not at none
  have blocked : ∀ count ∈ Finset.range (interface.declarations.length + 1),
      ∃ name ∈ interface.declarations.map (·.name), Blocks stem name count := by
    intro count inRange
    exact exists_blocks (none count (List.mem_range.mpr (Finset.mem_range.mp inRange)))
  choose! blocker isDeclared blocks using blocked
  have fewer : (interface.declarations.map (·.name)).toFinset.card <
      (Finset.range (interface.declarations.length + 1)).card := by
    have bound := List.toFinset_card_le (interface.declarations.map (·.name))
    rw [List.length_map] at bound
    rw [Finset.card_range]
    omega
  obtain ⟨first, isFirst, second, isSecond, differ, same⟩ :=
    Finset.exists_ne_map_eq_of_card_lt_of_maps_to fewer fun count inRange =>
      List.mem_toFinset.mpr (isDeclared count inRange)
  exact differ ((blocks first isFirst).inj (same ▸ blocks second isSecond))

/-- The search finds the first candidate that is free. -/
theorem find?_clientCount (interface : Interface) :
    (List.range (interface.declarations.length + 1)).find? (fun count =>
      interface.isFree (interface.clientCandidate count)) = some interface.clientCount := by
  obtain ⟨count, inRange, free⟩ := exists_isFree interface interface.clientStem
  obtain ⟨least, isLeast⟩ := Option.isSome_iff_exists.mp
    (List.find?_isSome (p := fun count => interface.isFree (interface.clientCandidate count)).mpr
      ⟨count, inRange, free⟩)
  rw [clientCount, isLeast, Option.getD_some]

/-- The name of the client is free, whatever the declarations are called. -/
theorem isFree_clientName (interface : Interface) : interface.isFree interface.clientName :=
  List.find?_some (p := fun count => interface.isFree (interface.clientCandidate count))
    (find?_clientCount interface)

theorem not_isFree_of_lt {count : Nat} (less : count < interface.clientCount) :
    ¬ interface.isFree (interface.clientCandidate count) := by
  obtain ⟨-, -, before⟩ := List.find?_range_eq_some.mp (find?_clientCount interface)
  simpa using before count less

theorem clientName_not_mem (interface : Interface) :
    interface.clientName ∉ interface.declarations.map (·.name) :=
  (isFree_iff.mp interface.isFree_clientName).1

theorem clientErrorName_not_mem (interface : Interface) :
    interface.clientErrorName ∉ interface.declarations.map (·.name) :=
  (isFree_iff.mp interface.isFree_clientName).2

/-- The client is named by words, so its name has no low line. -/
theorem lowLine_not_mem_clientName (interface : Interface) : '_' ∉ interface.clientName.toList := by
  rw [clientName]
  generalize interface.clientCount = count
  induction count with
  | zero =>
      have noWord := Text.lowLine_not_mem_pascalCase (lastSegment interface.name)
      simp [clientCandidate, clientStem]
      split_ifs <;> simp [noWord]
  | succ count ih => simp [clientCandidate_succ, ih]

theorem clientName_ne_clientErrorName (interface : Interface) :
    interface.clientName ≠ interface.clientErrorName := by
  intro same
  have lengths := congrArg String.length same
  rw [clientErrorName, length_errorTypeName] at lengths
  omega

/-- The names that those of the items of a module are made from. -/
def itemNames (interface : Interface) : List String :=
  interface.declarations.map (·.name) ++ interface.clientName :: interface.outline.errorTypeNames

theorem eq_of_mem_errorTypeNames {name : String} (inside : name ∈ interface.outline.errorTypeNames) :
    name = interface.clientErrorName := by
  rw [Outline.errorTypeNames] at inside
  split_ifs at inside
  · cases inside
  · exact List.mem_singleton.mp inside

/-- The client and its errors give way to the declarations. -/
theorem nodup_itemNames (distinct : (interface.declarations.map (·.name)).Nodup) :
    interface.itemNames.Nodup := by
  have errorTypeDistinct : interface.outline.errorTypeNames.Nodup := by
    rw [Outline.errorTypeNames]
    split_ifs
    · exact List.nodup_nil
    · exact List.nodup_singleton _
  refine List.nodup_append.mpr ⟨distinct, List.nodup_cons.mpr ⟨?_, errorTypeDistinct⟩, ?_⟩
  · intro inside
    exact interface.clientName_ne_clientErrorName (eq_of_mem_errorTypeNames inside)
  · rintro name isDeclared other isOther rfl
    rcases List.mem_cons.mp isOther with rfl | isOther
    · exact interface.clientName_not_mem isDeclared
    · obtain rfl := eq_of_mem_errorTypeNames isOther
      exact interface.clientErrorName_not_mem isDeclared

/-- Only a word that ends in `Error` may be the name of the error type. -/
theorem mem_itemNames_of_plain {word : String} (plain : ¬ "Error".toList <:+ word.toList) :
    word ∈ interface.itemNames ↔
      word ∈ interface.clientName :: interface.declarations.map (·.name) := by
  have notError : word ∉ interface.outline.errorTypeNames := by
    intro inside
    rw [eq_of_mem_errorTypeNames inside, clientErrorName, errorTypeName,
      String.toList_append] at plain
    exact plain (List.suffix_append _ _)
  rw [itemNames, List.mem_append, List.mem_cons, List.mem_cons, or_iff_left notError, or_comm]

/-- Neither the client nor its errors have a name that ends in a low line. -/
theorem append_lowLine_mem_itemNames {text : String} : text ++ "_" ∈ interface.itemNames ↔
    text ++ "_" ∈ interface.declarations.map (·.name) := by
  refine List.mem_append.trans (or_iff_left fun inside => ?_)
  have isEnd : '_' ∈ (text ++ "_").toList := by
    rw [String.toList_append]
    exact List.mem_append_right _ (List.mem_singleton_self '_')
  rcases List.mem_cons.mp inside with same | inside
  · exact interface.lowLine_not_mem_clientName (same ▸ isEnd)
  · rw [eq_of_mem_errorTypeNames inside, clientErrorName, errorTypeName, String.toList_append] at isEnd
    rcases List.mem_append.mp isEnd with isEnd | isEnd
    · exact interface.lowLine_not_mem_clientName isEnd
    · revert isEnd
      decide

end Interface

end Varlink
