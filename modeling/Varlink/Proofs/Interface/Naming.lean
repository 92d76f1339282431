import Varlink.Proofs.Interface.Walk

/-!
# Names from paths

Whether a linked document resolves depends on the path names of its groups alone: no two may be
equal and none may be that of a declaration. The order in which the walk discovers the groups only
matters for a document that does not resolve, where the first name that is taken is reported.
-/

namespace Varlink

/-- Only a suppressed wrapper differs in its origin from what it was before naming. -/
theorem TypeEntry.isSuppressed_iff {entry : TypeEntry} :
    entry.isSuppressed ↔ entry.origin ≠ entry.beforeNaming.origin := by
  obtain ⟨name, origin, shape, written⟩ := entry
  cases origin <;> simp [isSuppressed, beforeNaming]

/-- Naming fails at the first name that is taken or was given before. -/
theorem outcome_giveNames_eq_error {taken : List String} {declarations : List Declaration}
    {error : ResolveError} : (giveNames taken declarations).outcome = .error error ↔
      ∃ before name after, declarations.map (·.name) = before ++ name :: after ∧
        error = .nameCollision name ∧ (before.Nodup ∧ ∀ other ∈ before, other ∉ taken) ∧
          (name ∈ taken ∨ name ∈ before) := by
  induction declarations generalizing taken with
  | nil =>
      constructor
      · intro h
        cases h
      · rintro ⟨before, name, after, split, -⟩
        cases before <;> cases split
  | cons declaration declarations ih =>
      rw [giveNames, List.map_cons]
      by_cases known : declaration.name ∈ taken
      · rw [if_pos known, Logged.outcome_fail]
        constructor
        · intro h
          obtain rfl := Except.error.inj h
          exact ⟨[], _, _, rfl, rfl, ⟨.nil, by simp⟩, .inl known⟩
        · rintro ⟨before, name, after, split, rfl, ⟨-, new⟩, -⟩
          cases before with
          | nil =>
              obtain ⟨rfl, -⟩ := List.cons.inj split
              rfl
          | cons first before =>
              obtain ⟨rfl, -⟩ := List.cons.inj split
              exact absurd known (new _ (List.mem_cons_self ..))
      · rw [if_neg known, Logged.outcome_bind, Logged.outcome_note]
        refine ih.trans ?_
        constructor
        · rintro ⟨before, name, after, split, rfl, new, collides⟩
          refine ⟨declaration.name :: before, name, after, by rw [split]; rfl, rfl,
            (distinct_cons_iff known).mp new, ?_⟩
          rw [List.mem_cons] at collides ⊢
          tauto
        · rintro ⟨before, name, after, split, rfl, new, collides⟩
          cases before with
          | nil =>
              obtain ⟨rfl, -⟩ := List.cons.inj split
              exact absurd (collides.resolve_right List.not_mem_nil) known
          | cons first before =>
              obtain ⟨rfl, rest⟩ := List.cons.inj split
              refine ⟨before, name, after, rest, rfl, (distinct_cons_iff known).mpr new, ?_⟩
              rw [List.mem_cons] at collides ⊢
              tauto

namespace Interface

variable {interface : Interface}

theorem mem_slots_of_isGroup {place : Place}
    (isGroup : (interface.document.nodeAt? place).any TypeExpr.isGroup) :
    place ∈ interface.document.slots := by
  obtain ⟨node, reached, isGroup⟩ := (Option.any_eq_true _ _).mp isGroup
  exact mem_slots_document.mpr ⟨node, reached, node.isComposite_of_isGroup isGroup⟩

/-- The entry of a group has the name of its place. -/
theorem exists_named_entry {place : Place}
    (isGroup : (interface.document.nodeAt? place).any TypeExpr.isGroup) :
    ∃ number entry, interface.numberAt? place = some number ∧
      interface.type? number = some entry ∧
        entry.name = some (interface.document.pathName place) := by
  obtain ⟨position, listed⟩ := List.mem_iff_getElem?.mp (mem_slots_of_isGroup isGroup)
  obtain ⟨entry, isEntry, named⟩ := name_slots listed
  rw [groupNameAt?, if_pos isGroup] at named
  exact ⟨_, entry, numberAt?_slots listed, isEntry, named⟩

theorem nodup_inner (interface : Interface) : interface.document.inner.Nodup := by
  rw [List.nodup_iff_getElem?_ne_getElem?]
  intro first second before bound same
  have listed := List.getElem?_eq_getElem bound
  have firstNumber := numberAt?_inner (same.trans listed)
  rw [numberAt?_inner listed, Option.some.injEq] at firstNumber
  omega

/-- The groups in place are those that have the number of a discovered declaration. -/
theorem mem_inlineGroups {place : Place} : place ∈ interface.document.inlineGroups ↔
    interface.document.hasGroup place ∧
      ∃ number ∈ interface.discovered.map (·.number), interface.numberAt? place = some number := by
  rw [Document.inlineGroups, List.mem_filter]
  constructor
  · rintro ⟨inside, hasGroup⟩
    obtain ⟨position, listed⟩ := List.mem_iff_getElem?.mp inside
    refine ⟨hasGroup, _, mem_numbers_discovered.mpr ?_, numberAt?_inner listed⟩
    obtain ⟨isGroup, notEmpty⟩ := Bool.and_eq_true_iff.mp hasGroup
    obtain ⟨entry, isEntry, named⟩ := name_inner listed
    obtain ⟨other, isOther, naming⟩ := naming_inner listed
    rw [type?_inner] at isOther
    obtain rfl := Option.some.inj (isEntry.symm.trans isOther)
    have inPlace := inPlace_of_mem_innerEntries (List.mem_of_getElem? isEntry)
    refine ⟨position, entry, rfl, isEntry, ?_, ?_⟩
    · rw [inPlace.isDeclaration_iff, named, groupNameAt?, if_pos isGroup]
      rfl
    · rw [TypeEntry.isSuppressed_iff, naming.emptied]
      simpa using notEmpty
  · rintro ⟨hasGroup, number, isDiscovered, numbered⟩
    obtain ⟨position, entry, rfl, -, -⟩ := mem_numbers_discovered.mp isDiscovered
    obtain ⟨slot, listed⟩ :=
      List.mem_iff_getElem?.mp (mem_slots_of_isGroup (Bool.and_eq_true_iff.mp hasGroup).1)
    have same := (numberAt?_slots listed).symm.trans numbered
    rw [Option.some.injEq, firstInner, typedefNumber, typedefNumber] at same
    rcases exists_of_slots listed with ⟨declared, -⟩ | ⟨inner, -, inInner⟩
    · omega
    · exact ⟨List.mem_of_getElem? inInner, hasGroup⟩

section Discovered

variable {places : List Place}
  (same : interface.discovered.map Declaration.key = places.map interface.keyAt)
include same

theorem names_discovered :
    interface.discovered.map (·.name) = places.map interface.document.pathName := by
  have names := congrArg (List.map Prod.fst) same
  rwa [List.map_map, List.map_map] at names

theorem numbers_discovered :
    (interface.discovered.map (·.number)).map some = places.map interface.numberAt? := by
  have numbers := congrArg (List.map Prod.snd) same
  rw [List.map_map, List.map_map] at numbers
  rw [List.map_map]
  exact numbers

/-- The walk discovers each group in place once. -/
theorem perm_inlineGroups (discovers : interface.document.Discovers places) :
    places.Perm interface.document.inlineGroups := by
  obtain ⟨left, walks⟩ := discovers
  have numbers := numbers_discovered same
  have once := interface.numbers_nodup
  rw [declarations, List.map_append] at once
  have nodup : places.Nodup := by
    refine .of_map interface.numberAt? ?_
    rw [← numbers]
    exact (List.nodup_append.mp once).2.1.map (Option.some_injective _)
  refine (List.perm_ext_iff_of_nodup nodup (interface.nodup_inner.filter _)).mpr fun place => ?_
  refine Iff.trans ?_ mem_inlineGroups.symm
  constructor
  · intro isMet
    refine ⟨walks.hasGroup isMet, ?_⟩
    have inside := List.mem_map_of_mem (f := interface.numberAt?) isMet
    rw [← numbers] at inside
    obtain ⟨number, isDiscovered, numbered⟩ := List.mem_map.mp inside
    exact ⟨number, isDiscovered, numbered.symm⟩
  · rintro ⟨hasGroup, number, isDiscovered, numbered⟩
    have inside := List.mem_map_of_mem (f := some) isDiscovered
    rw [numbers] at inside
    obtain ⟨other, isMet, otherNumbered⟩ := List.mem_map.mp inside
    have isSlot : ∀ place, interface.document.hasGroup place →
        place ∈ interface.document.slots :=
      fun _ hasGroup => mem_slots_of_isGroup (Bool.and_eq_true_iff.mp hasGroup).1
    obtain rfl := eq_of_numberAt? (isSlot _ (walks.hasGroup isMet)) (isSlot _ hasGroup)
      otherNumbered numbered
    exact isMet

end Discovered

end Interface

namespace Document

/-- The names of the declarations and those that places give. -/
def givenNames (document : Document) (places : List Place) : List String :=
  document.typedefs.map (·.name) ++ places.map document.pathName

/-- The names of the declarations are those that are declared and those of the places of groups. -/
theorem perm_givenNames {interface : Interface} (linked : interface.Linked) :
    (interface.declarations.map (·.name)).Perm
      (interface.document.givenNames interface.document.inlineGroups) := by
  obtain ⟨places, discovers, same⟩ := Interface.exists_discovers linked
  rw [Interface.declarations, List.map_append, Interface.names_declared, givenNames,
    Interface.names_document, Interface.names_discovered same]
  exact ((Interface.perm_inlineGroups same discovers).map _).append_left _

/-- Naming by paths: `places` are the groups in place of a document in the order of the walk, and
`interface` is what linking made of the document. -/
structure NamedByPaths (document : Document) (interface : Interface) (places : List Place) :
    Prop where
  /-- The walk comes to these places in this order. -/
  discovers : ∀ others, document.Discovers others ↔ others = places
  /-- They are the groups in place, each once. -/
  once : places.Perm document.inlineGroups
  /-- The document resolves just if no name is given twice. -/
  succeeds : document.resolve.outcome = .ok interface ↔
    (document.givenNames document.inlineGroups).Nodup
  /-- It resolves to nothing else. -/
  resolved : ∀ other, document.resolve.outcome = .ok other → other = interface
  /-- Otherwise the first name that is taken is reported. -/
  fails : ∀ error, document.resolve.outcome = .error error ↔ ∃ before place after,
    places = before ++ place :: after ∧ error = .nameCollision (document.pathName place) ∧
      (document.givenNames before).Nodup ∧ document.pathName place ∈ document.givenNames before
  /-- Every group carries the name of its place, which for a declaration is the declared one. -/
  carried : ∀ place, (document.nodeAt? place).any TypeExpr.isGroup →
    ∃ number entry, interface.numberAt? place = some number ∧
      interface.type? number = some entry ∧ entry.name = some (document.pathName place)
  /-- The declarations are the declared types, then the groups in place as they are discovered. -/
  listed : interface.declarations.map (fun declaration =>
      (declaration.name, some declaration.number)) =
    document.typedefs.mapIdx (fun index typedef => (typedef.name, some (typedefNumber index))) ++
      places.map fun place => (document.pathName place, interface.numberAt? place)

/-- The declared names of a linked document are distinct, so only the other names decide. -/
theorem nodup_givenNames {interface : Interface} (linked : interface.Linked) {places : List Place} :
    (interface.document.givenNames places).Nodup ↔
      (places.map interface.document.pathName).Nodup ∧
        ∀ name ∈ places.map interface.document.pathName,
          name ∉ interface.typedefs.map (·.name) := by
  rw [givenNames, Interface.names_document, List.nodup_append]
  constructor
  · rintro ⟨-, distinct, new⟩
    exact ⟨distinct, fun name given declared => new name declared name given rfl⟩
  · rintro ⟨distinct, new⟩
    refine ⟨linked.distinct, distinct, ?_⟩
    rintro name declared _ given rfl
    exact new name given declared

/-- Once a document is linked, only naming can fail. -/
theorem outcome_resolve_eq_error {document : Document} {interface : Interface}
    (links : document.link = .ok interface) {error : ResolveError} :
    document.resolve.outcome = .error error ↔
      (giveNames (interface.typedefs.map (·.name)) interface.discovered).outcome =
        .error error := by
  simp only [resolve, Logged.outcome_bind, Logged.outcome_ofExcept, links, Logged.outcome_note]
  cases named : (giveNames (interface.typedefs.map (·.name)) interface.discovered).outcome with
  | ok => simp [bind, Except.bind, named]
  | error => simp [bind, Except.bind, named]

/-- A linked document is named by the paths in it. -/
theorem exists_namedByPaths {document : Document} {interface : Interface}
    (links : document.link = .ok interface) :
    ∃ places, document.NamedByPaths interface places := by
  obtain ⟨rfl, linked⟩ := link_eq_ok links
  obtain ⟨places, discovers, same⟩ := Interface.exists_discovers linked
  have names := Interface.names_discovered same
  have once := Interface.perm_inlineGroups same discovers
  refine ⟨places, ?_, once, ?_, ?_, ?_, fun _ => Interface.exists_named_entry, ?_⟩
  · intro others
    constructor
    · rintro ⟨left, walks⟩
      exact (discovers.choose_spec.unique walks).1
    · rintro rfl
      exact discovers
  · rw [outcome_resolve_eq_ok_iff_nodup links, (perm_givenNames linked).nodup_iff]
  · intro other resolved
    have otherLinks := (outcome_resolve_eq_ok.mp resolved).1
    exact Except.ok.inj (otherLinks.symm.trans links)
  · intro error
    rw [outcome_resolve_eq_error links, outcome_giveNames_eq_error, names]
    constructor
    · rintro ⟨_, _, _, split, rfl, new, collides⟩
      obtain ⟨before, rest, rfl, rfl, next⟩ := List.map_eq_append_iff.mp split
      obtain ⟨place, after, rfl, rfl, rfl⟩ := List.map_eq_cons_iff.mp next
      refine ⟨before, place, after, rfl, rfl, (nodup_givenNames linked).mpr new, ?_⟩
      rwa [givenNames, Interface.names_document, List.mem_append]
    · rintro ⟨before, place, after, rfl, rfl, new, collides⟩
      refine ⟨before.map interface.document.pathName, interface.document.pathName place,
        after.map interface.document.pathName, ?_, rfl, (nodup_givenNames linked).mp new, ?_⟩
      · rw [List.map_append, List.map_cons]
      · rwa [givenNames, Interface.names_document, List.mem_append] at collides
  · rw [Interface.declarations, List.map_append]
    have declared : interface.declared.map (fun declaration =>
          (declaration.name, some declaration.number)) =
        interface.document.typedefs.mapIdx fun index typedef =>
          (typedef.name, some (typedefNumber index)) := by
      apply List.ext_getElem?
      intro index
      simp [Interface.declared, Interface.document, Typedef.definition, Function.comp_def]
    exact congrArg₂ (· ++ ·) declared same

/-- Two declared types that refer to each other, so that the groups of the second are discovered
while the first is walked. -/
theorem exists_namedByPaths_mutual :
    let document : Document := ⟨"a", [⟨"M", .struct [("b", .enum ["on"])], .struct []⟩],
      [⟨"A", .struct [("next", .modified .maybe (.reference "B")), ("x", .enum ["on"])]⟩,
        ⟨"B", .struct [("back", .reference "A"), ("y", .struct [])]⟩], []⟩
    ∃ interface, document.link = .ok interface ∧
      ∃ places, document.NamedByPaths interface places := by
  intro document
  have links : document.link = .ok ⟨"a",
      [⟨"A", .struct [("next", .modified .maybe (.reference 1)), ("x", .enum ["on"])]⟩,
        ⟨"B", .struct [("back", .reference 0), ("y", .struct [])]⟩],
      [⟨"M", .inline [("b", .enum ["on"])], .inline []⟩], []⟩ := by
    cbv
  exact ⟨_, links, exists_namedByPaths links⟩

example : (Document.resolve ⟨"a", [], [⟨"A", .struct [("bC", .enum ["x"])]⟩,
    ⟨"AB", .struct [("c", .enum ["y"])]⟩], []⟩).outcome = .error (.nameCollision "ABC") := by
  cbv

end Document

end Varlink
