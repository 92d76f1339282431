import Varlink.Proofs.Run.Isolation

/-!
# Where clients are written

A client is written to a file that is named after its interface. If the name has no slash, this file
stands in the directory of the run. So all that a run leaves behind are files for its interfaces in
this one directory, and new directories on the way to it, however the run ends. A run that ends well
has a file for each of its definitions, and these are different files if the interfaces have different
names.

Nothing checks the name, which may come from a service. One with dots and slashes leads out of the
directory.
-/

namespace Varlink

namespace Run

open Varlink.Path World Node

variable {generator : Generator} {directory : String} {interfaces : List String}

/-- One tree is the other one with new empty directories and with files for interfaces, all of them in
the directory that a path leads to. -/
structure Spreads (generator : Generator) (here : List String) (directory : String)
    (interfaces : List String) (before after : Node) : Prop where
  keeps : Keeps before after
  changes : ∀ names, after.view names = before.view names ∨
    (before.view names = none ∧ after.view names = some (.directory [])) ∨
    ∃ place interface bytes, SeenFrom after here directory place ∧ interface ∈ interfaces ∧
      names = place ++ [fileName generator interface] ∧ after.view names = some (.file bytes)

section Spreads

variable {here : List String} {before middle after : Node}

theorem Spreads.of_grows (grows : Grows before after) :
    Spreads generator here directory interfaces before after :=
  ⟨grows.keeps, fun names => (grows names).imp_right .inl⟩

theorem Spreads.trans (first : Spreads generator here directory interfaces before middle)
    (second : Spreads generator here directory interfaces middle after) :
    Spreads generator here directory interfaces before after := by
  refine ⟨first.keeps.trans second.keeps, fun names => ?_⟩
  obtain same | ⟨absent, made⟩ | written := second.changes names
  · rw [same]
    obtain same | made | ⟨place, interface, bytes, seen, written⟩ := first.changes names
    · exact .inl same
    · exact .inr (.inl made)
    · exact .inr (.inr ⟨place, interface, bytes, seen.of_keeps second.keeps, written⟩)
  · obtain same | ⟨-, made'⟩ | ⟨_, _, _, -, -, -, written⟩ := first.changes names
    · exact .inr (.inl ⟨same ▸ absent, made⟩)
    · cases absent.symm.trans made'
    · cases absent.symm.trans written
  · exact .inr (.inr written)

end Spreads

/-- The step for a definition makes directories on the way to the one of the run, and writes nothing
but the definition's file there. -/
theorem Emits.spreads {definition : Definition} {world next : World} {emission : Emission}
    (h : Emits generator directory definition world emission next)
    (noSlash : ∀ name ∈ definition.name?, '/' ∉ name.toList)
    (inside : ∀ name ∈ definition.name?, name ∈ interfaces) :
    next.here = world.here ∧
      Spreads generator world.here directory interfaces world.root next.root := by
  obtain ⟨root, isRoot, grows⟩ := makeAll_leaves world (ancestors directory)
  obtain rfl | rfl | rfl := h.effect
  · exact ⟨rfl, .of_grows (.refl _)⟩
  · rw [isRoot]
    exact ⟨rfl, .of_grows grows⟩
  · obtain ⟨interface, code, root', place, defines, -, made, seen, writable, rfl⟩ :=
      h.exists_writable noSlash
    obtain rfl : root' = root := by
      rw [made] at isRoot
      exact congrArg World.root isRoot
    have leaf : (Node.file (utf8Bytes code)).entries = [] := rfl
    have keeps := keeps_put_of_findParent writable.found writable.free leaf
    refine ⟨rfl, (Spreads.of_grows grows).trans ⟨keeps, fun names => ?_⟩⟩
    rw [view_put_of_findParent writable.found writable.free leaf]
    split_ifs with isFile
    · exact .inr (.inr ⟨place, interface.name, _, seen.of_keeps keeps,
        inside _ (Definition.name?_of_ok defines), isFile, rfl⟩)
    · exact .inl rfl

/-- So do all steps together, wherever they end. -/
theorem EmitsAll.spreads {definitions : List Definition} {world after : World}
    {failed : Option Nat} (h : EmitsAll generator directory definitions world failed after)
    (noSlash : ∀ name ∈ interfaceNames definitions, '/' ∉ name.toList)
    (inside : ∀ name ∈ interfaceNames definitions, name ∈ interfaces) :
    after.here = world.here ∧
      Spreads generator world.here directory interfaces world.root after.root := by
  refine h.of_steps (P := fun world after => after.here = world.here ∧
    Spreads generator world.here directory interfaces world.root after.root) ?_ ?_ ?_
  · exact fun world events => ⟨rfl, .of_grows (.refl _)⟩
  · rintro first middle last ⟨sameHere, here⟩ ⟨sameHere', later⟩
    exact ⟨sameHere'.trans sameHere, here.trans (sameHere ▸ later)⟩
  · intro definition among world emission next step
    exact step.spreads (fun name named => noSlash name (mem_interfaceNames_of_name among named))
      fun name named => inside name (mem_interfaceNames_of_name among named)

/-- A file that is written stands in the directory to the end. -/
theorem EmitsAt.exists_file {first rest : List Definition} {definition : Definition}
    {interface : Interface} {world after : World}
    (h : EmitsAt generator directory first definition rest world after)
    (defines : definition.interface = .ok interface)
    (noSlash : ∀ name ∈ interfaceNames (definition :: rest), '/' ∉ name.toList) :
    ∃ place bytes, SeenFrom after.root after.here directory place ∧
      after.root.view (place ++ [fileName generator interface.name]) = some (.file bytes) := by
  rw [forall_mem_interfaceNames_cons] at noSlash
  obtain ⟨middle, next, _, _, -, step, others⟩ := h
  obtain ⟨interface', code, root, place, defines', -, -, seen, writable, rfl⟩ :=
    step.exists_writable noSlash.1
  obtain rfl := Except.ok.inj (defines'.symm.trans defines)
  have leaf : (Node.file (utf8Bytes code)).entries = [] := rfl
  have written := view_put_of_findParent writable.found writable.free leaf
    (place ++ [fileName generator interface'.name])
  rw [if_pos rfl] at written
  obtain ⟨sameHere, spreads⟩ := others.spreads noSlash.2 fun _ => id
  have seenAfter := (seen.of_keeps
    (keeps_put_of_findParent writable.found writable.free leaf)).of_keeps spreads.keeps
  refine ⟨place, ?_⟩
  rw [sameHere]
  obtain same | ⟨absent, -⟩ | ⟨_, _, bytes, -, -, -, isFile⟩ :=
    spreads.changes (place ++ [fileName generator interface'.name])
  · exact ⟨_, seenAfter, same.trans written⟩
  · cases absent.symm.trans written
  · exact ⟨bytes, seenAfter, isFile⟩

/-- If nothing failed, every definition was written. -/
theorem EmitsAll.emitsAt_of_none_failed {first rest : List Definition} {definition : Definition}
    {world after : World}
    (h : EmitsAll generator directory (first ++ definition :: rest) world (some 0) after) :
    EmitsAt generator directory first definition rest world after := by
  obtain ⟨middle, count, others, before, later, isSum⟩ | ⟨-, stops⟩ := h.split
  · cases later with
    | emitted step others => exact ⟨middle, _, count, _, before, step, others⟩
    | failed step others =>
        obtain ⟨more, isMore, isNone⟩ := Option.map_eq_some_iff.mp isSum.symm
        obtain ⟨fewer, -, rfl⟩ := Option.map_eq_some_iff.mp isMore
        omega
    | unnameable step => cases isSum
  · cases stops

/-- A file in the directory is named after the interface of a definition and holds its client. -/
def HoldsClient (generator : Generator) (directory : String) (world : World)
    (definition : Definition) (file : List String) : Prop :=
  ∃ interface code place, definition.interface = .ok interface ∧
    generator.generate interface = some code ∧
    SeenFrom world.root world.here directory place ∧
    file = place ++ [fileName generator interface.name] ∧
    world.root.view file = some (.file (utf8Bytes code))

theorem HoldsClient.eq {world : World} {definition other : Definition} {file : List String}
    (first : HoldsClient generator directory world definition file)
    (second : HoldsClient generator directory world other file) :
    definition.name? = other.name? := by
  obtain ⟨interface, _, place, defines, -, seen, rfl, -⟩ := first
  obtain ⟨interface', _, place', defines', -, seen', same, -⟩ := second
  obtain rfl := seen.unique seen'
  rw [Definition.name?_of_ok defines, Definition.name?_of_ok defines',
    fileName_inj (List.cons.inj (List.append_cancel_left same)).1]

/-- Definitions of different names have different files. -/
theorem exists_files {world : World} {definitions : List Definition}
    (distinct : (interfaceNames definitions).Nodup)
    (holds : ∀ definition ∈ definitions,
      ∃ file, HoldsClient generator directory world definition file) :
    ∃ files : List (List String), files.Nodup ∧
      List.Forall₂ (HoldsClient generator directory world) definitions files := by
  induction definitions with
  | nil => exact ⟨[], .nil, .nil⟩
  | cons definition rest ih =>
      obtain ⟨⟨file, holdsHere⟩, holdsRest⟩ := List.forall_mem_cons.mp holds
      obtain ⟨interface, _, _, defines, -⟩ := id holdsHere
      have named := Definition.name?_of_ok defines
      rw [interfaceNames, List.filterMap_cons_some named] at distinct
      obtain ⟨fresh, distinct⟩ := List.nodup_cons.mp distinct
      obtain ⟨files, apart, each⟩ := ih distinct holdsRest
      refine ⟨file :: files, List.nodup_cons.mpr ⟨fun again => fresh ?_, apart⟩, .cons holdsHere each⟩
      obtain ⟨index, bound, isFile⟩ := List.mem_iff_getElem.mp again
      have bound' : index < rest.length := each.length_eq ▸ bound
      have holdsThere := each.get bound' bound
      rw [List.get_eq_getElem, List.get_eq_getElem, isFile] at holdsThere
      exact List.mem_filterMap.mpr
        ⟨_, List.getElem_mem bound', (holdsHere.eq holdsThere).symm.trans named⟩

/-- However a run with a directory ends, all that it changes are files for its interfaces in this
directory, and directories that are new; and it tells about no other file as written. If it ends well,
there are as many such files as definitions, each with the client of its own definition. -/
theorem run_confines {commandLine : CommandLine} {definitions : List Definition} {before : World}
    (isWritten : commandLine.outputDir = some directory)
    (loads : ((Definition.load (.parse commandLine.input) : StateM World _).run before).1 =
      .ok definitions)
    (noSlash : ∀ name ∈ interfaceNames definitions, '/' ∉ name.toList) :
    let generator := commandLine.chosenGenerator
    let ended := (run commandLine : StateM World _).run before
    ended.2.here = before.here ∧
    Spreads generator before.here directory (interfaceNames definitions) before.root
      ended.2.root ∧
    (∀ path, .written path ∈ ended.2.events.drop before.events.length →
      ∃ interface ∈ interfaceNames definitions, path = outputPath generator directory interface ∧
        ∃ place bytes, SeenFrom ended.2.root before.here directory place ∧
          ended.2.root.view (place ++ [fileName generator interface]) = some (.file bytes)) ∧
    (ended.1 = .succeeded → (interfaceNames definitions).Nodup →
      ∃ files : List (List String), files.Nodup ∧
        List.Forall₂ (HoldsClient generator directory ended.2) definitions files) := by
  intro generator ended
  obtain ⟨loaded, failed, told, leaves, isLoaded, untold, emits, outcome⟩ :=
    exists_emitsAll commandLine isWritten loads
  obtain ⟨sameHere, spreads⟩ := emits.spreads noSlash fun _ => id
  rw [leaves.here] at sameHere spreads
  rw [leaves.root] at spreads
  refine ⟨sameHere, spreads, fun path isTold => ?_, fun succeeds distinct => ?_⟩
  · obtain ⟨first, definition, rest, interface, rfl, defines, isPath, here⟩ :=
      exists_emitsAt isLoaded untold emits isTold
    have named : interface.name ∈ interfaceNames (first ++ definition :: rest) :=
      mem_interfaceNames (List.mem_append_right first List.mem_cons_self) defines
    rw [interfaceNames, List.filterMap_append] at noSlash
    obtain ⟨place, bytes, seen, isFile⟩ :=
      here.exists_file defines (List.forall_mem_append.mp noSlash).2
    exact ⟨interface.name, named, isPath, place, bytes, sameHere ▸ seen, isFile⟩
  · obtain rfl : failed = some 0 := by
      rcases failed with _ | _ | failed
      · cases outcome.symm.trans succeeds
      · rfl
      · cases outcome.symm.trans succeeds
    refine exists_files distinct fun definition inside => ?_
    obtain ⟨first, rest, rfl⟩ := List.append_of_mem inside
    have here := emits.emitsAt_of_none_failed
    obtain ⟨_, _, _, _, -, step, -⟩ := id here
    obtain ⟨interface, defines⟩ : ∃ interface, definition.interface = .ok interface := by
      cases step with
      | written defines => exact ⟨_, defines⟩
    rw [interfaceNames, List.filterMap_append] at noSlash
    obtain ⟨code, place, isCode, awaits⟩ := here.stays defines
      (List.forall_mem_append.mp noSlash).2 (not_mem_interfaceNames_of_nodup distinct defines).2
    exact ⟨_, interface, code, place, defines, isCode, awaits.seen, rfl, awaits.shows⟩

/-- A service with two interfaces has two files. -/
theorem run_confines_of_service :
    let before := serviceBesideFile (twoInterfaces
      ("[\x7b\"description\":\"interface a\"\x7d]\x00" ++
        "[\x7b\"description\":\"interface b\"\x7d]\x00"))
    let commandLine : CommandLine := ⟨"unix:/s", some .typescript, some "/out"⟩
    let ended := (run commandLine : StateM World _).run before
    ended.1 = .succeeded ∧
      ended.2.root.view ["out", "a.ts"] =
        some (.file (utf8Bytes (Outline.toTypeScript (Interface.outline ⟨"a", [], [], []⟩)))) ∧
      ended.2.root.view ["out", "b.ts"] =
        some (.file (utf8Bytes (Outline.toTypeScript (Interface.outline ⟨"b", [], [], []⟩)))) := by
  intro before commandLine ended
  let first : Definition := ⟨"unix:/s (a)", .ok "interface a"⟩
  let second : Definition := ⟨"unix:/s (b)", .ok "interface b"⟩
  have loads : ((Definition.load (.parse commandLine.input) : StateM World _).run before).1 =
      .ok [first, second] :=
    load_serviceBesideFile _ (ok_of_toOption (by decide +kernel))
      (ok_of_toOption (by decide +kernel)) (ok_of_toOption (by decide +kernel))
  have defines : first.interface = .ok ⟨"a", [], [], []⟩ := by
    have parsed : (Interface.parse "interface a").outcome = .ok ⟨"a", [], [], []⟩ := by
      cbv
    exact mapError_eq_ok.mpr parsed
  have defines' : second.interface = .ok ⟨"b", [], [], []⟩ := interface_b _
  have named : first.name? = some "a" := Definition.name?_of_ok defines
  have names : interfaceNames [first, second] = ["a", "b"] := by
    rw [interfaceNames, List.filterMap_cons_some named,
      List.filterMap_cons_some (Definition.name?_of_ok defines')]
    rfl
  have noSlash : ∀ name ∈ interfaceNames [first, second], '/' ∉ name.toList := by
    rw [names]
    decide
  have distinct : (interfaceNames [first, second]).Nodup := by
    rw [names]
    decide
  -- nothing fails
  obtain ⟨loaded, failed, told, leaves, -, -, emits, outcome⟩ :=
    exists_emitsAll commandLine rfl loads
  have awaits (name : String) begins isLast notDot notDots short :=
    (awaits_serviceBesideFile _ name begins isLast notDot notDots short).elsewhere
      leaves.root leaves.here
  have awaitsFirst := awaits (fileName .typescript "a") (by decide +kernel) (by decide +kernel)
    (by decide +kernel) (by decide +kernel) (by decide +kernel)
  have awaitsSecond := awaits (fileName .typescript "b") (by decide +kernel) (by decide +kernel)
    (by decide +kernel) (by decide +kernel) (by decide +kernel)
  have succeeds : ended.1 = .succeeded := by
    have apart : ∀ other ∈ first.name?, fileName .typescript other ≠ fileName .typescript "b" := by
      rw [named]
      rintro other ⟨⟩
      decide +kernel
    cases emits with
    | emitted step others =>
        obtain ⟨root, awaitsSecond, -⟩ :=
          awaitsSecond.step step (forall_mem_interfaceNames_cons.mp noSlash).1 apart
        cases others with
        | emitted step nothing =>
            cases nothing
            exact outcome
        | failed step => cases (awaitsSecond.written defines' rfl step).1
        | unnameable step => cases (awaitsSecond.written defines' rfl step).1
    | failed step => cases (awaitsFirst.written defines rfl step).1
    | unnameable step => cases (awaitsFirst.written defines rfl step).1
  have isWritten : commandLine.outputDir = some "/out" := rfl
  obtain ⟨sameHere, spreads, -, written⟩ :=
    run_confines isWritten loads noSlash
  have seen : SeenFrom ended.2.root before.here "/out" ["out"] :=
    (leaves.here ▸ awaitsFirst.seen).of_keeps spreads.keeps
  have isFile : ∀ {definition interface file}, definition.interface = .ok interface →
      HoldsClient .typescript "/out" ended.2 definition file →
      ended.2.root.view ["out", fileName .typescript interface.name] =
        some (.file (utf8Bytes (Outline.toTypeScript interface.outline))) := by
    rintro definition interface file defines ⟨_, code, place, defines', isCode, seen', rfl, isFile⟩
    obtain rfl := Except.ok.inj (defines'.symm.trans defines)
    obtain rfl := Option.some.inj isCode
    obtain rfl := seen.unique (sameHere ▸ seen')
    exact isFile
  obtain ⟨files, -, each⟩ := written succeeds distinct
  cases each with
  | cons holds others =>
      cases others with
      | cons holds' _ => exact ⟨succeeds, isFile defines holds, isFile defines' holds'⟩

/-- A name that leads upwards is written outside the directory, and the run ends well. -/
theorem run_escapes :
    let before := World.ofTree (.directory [("in", .file (utf8Bytes "interface ../a")),
      ("out", .directory [])]) []
    let commandLine : CommandLine := ⟨"/in", some .typescript, some "/out"⟩
    let ended := (run commandLine : StateM World _).run before
    ∃ definition, ((Definition.load (.parse commandLine.input) : StateM World _).run before).1 =
        .ok [definition] ∧
      ended.1 = .succeeded ∧ before.root.view ["a.ts"] = none ∧
      (∃ bytes, ended.2.root.view ["a.ts"] = some (.file bytes)) ∧
      ∀ name, ended.2.root.view ["out", name] = none := by
  intro before commandLine ended
  let definition : Definition := ⟨"/in", .ok "interface ../a"⟩
  have isText : before.readFile "/in" = .ok "interface ../a" := by
    cbv
  have reads : (Host.readFile "/in" : StateM World _).run before =
      (.ok "interface ../a", before) := by
    rw [← isText]
    rfl
  have isInput : Input.parse commandLine.input = .file "/in" := by decide +kernel
  have loads : (Definition.load (.parse commandLine.input) : StateM World _).run before =
      (.ok [definition], before) := by
    rw [isInput, Definition.load, run_bind_of_run reads]
    rfl
  have defines : definition.interface = .ok ⟨"../a", [], [], []⟩ := by
    have parsed : (Interface.parse "interface ../a").outcome = .ok ⟨"../a", [], [], []⟩ := by
      cbv
    exact mapError_eq_ok.mpr parsed
  let code := Outline.toTypeScript (Interface.outline ⟨"../a", [], [], []⟩)
  let root := Node.put (.file (utf8Bytes code)) ["a.ts"] before.root
  have seen : SeenFrom before.root before.here "/out" ["out"] :=
    ⟨[], by decide +kernel, by decide +kernel⟩
  have found : findParent before.root before.here (outputPath .typescript "/out" "../a") =
      .ok ([], some "a.ts") := by
    decide +kernel
  have absent : before.root.view ([] ++ ["a.ts"]) = none := rfl
  have free : ∀ old ∈ before.root.view ([] ++ ["a.ts"]), ∃ bytes, old = .file bytes := by
    rw [absent]
    simp
  have writes : before.writeFile (outputPath .typescript "/out" "../a") code =
      .ok { before with root } :=
    writeFile_eq_ok.mpr ⟨[], "a.ts", found, free, rfl⟩
  have emits : (emitAll commandLine.chosenGenerator commandLine.outputDir [definition] :
      StateM World _).run before = (some 0, { before with
        root := root
        events := before.events ++ [.written (outputPath .typescript "/out" "../a")] }) := by
    refine (emitAll_of_emitted ?_).trans rfl
    exact (congrArg (StateT.run · before) (emit_of_ok defines rfl)).trans
      (run_writeClient (makeAll_ancestors_of_seenFrom seen) writes)
  have isEnded : ended = _ := run_of_load loads
  rw [isEnded, emits]
  have leaf : (Node.file (utf8Bytes code)).entries = [] := rfl
  have views := view_put_of_findParent found free leaf
  refine ⟨definition, congrArg Prod.fst loads, rfl, absent, ⟨_, (views ["a.ts"]).trans (if_pos rfl)⟩,
    fun name => (views ["out", name]).trans ?_⟩
  rw [if_neg (by simp)]
  rfl

end Run

end Varlink
