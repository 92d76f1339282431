import Varlink.Proofs.Run.Emission

/-!
# A definition among others

A run over one definition is compared with a run over several, of which it is one. What the other ones
leave behind is harmless: their files have other names, a directory they made is the one that is made
anyway, and what is told about them is told apart. So whether the file for the definition can be
written when its turn comes depends on the world before the run only, and this is what the induction
over the other definitions carries. The file stays when it is written, by the same induction over those
that come later.

One thing is not harmless: an interface before it with a name that cannot be written in the chosen
language. It ends the run.
-/

namespace Varlink

namespace Run

open Varlink.Path World Node

variable {generator : Generator} {directory : String} {place : List String} {name : String}

/-- A file of that name can be written in a directory once the directory is made, and this is what is
shown under the name now. -/
structure Awaits (directory : String) (place : List String) (name : String) (shown : Option Node)
    (world : World) (root : Node) : Prop where
  made : world.makeAll (ancestors directory) = ({ world with root }, .ok ())
  seen : SeenFrom root world.here directory place
  writable : Writable root world.here directory place name
  shows : root.view (place ++ [name]) = shown

section Awaits

variable {shown : Option Node} {world : World} {root : Node}

/-- What was printed or told about does not matter. -/
theorem Awaits.elsewhere (awaits : Awaits directory place name shown world root) {other : World}
    (sameRoot : other.root = world.root) (sameHere : other.here = world.here) :
    Awaits directory place name shown other root where
  made := makeAll_elsewhere awaits.made sameRoot sameHere
  seen := sameHere ▸ awaits.seen
  writable := sameHere ▸ awaits.writable
  shows := awaits.shows

/-- Nor does what else came to the directory since it was made. -/
theorem Awaits.again (awaits : Awaits directory place name shown world root) {other : World}
    {shown' : Option Node} (sameHere : other.here = world.here) (keeps : Keeps root other.root)
    (shows : other.root.view (place ++ [name]) = shown')
    (free : ∀ old ∈ shown', ∃ bytes, old = .file bytes) :
    Awaits directory place name shown' other other.root where
  made := makeAll_again awaits.made sameHere keeps
  seen := by
    rw [sameHere]
    exact awaits.seen.of_keeps keeps
  writable := by
    rw [sameHere]
    exact ⟨findParent_of_keeps keeps awaits.writable.found, shows ▸ free⟩
  shows := shows

/-- A step that is about another file leaves this one, and a directory that is made. -/
theorem Awaits.step (awaits : Awaits directory place name shown world root)
    {definition : Definition} {emission : Emission} {next : World}
    (step : Emits generator directory definition world emission next)
    (noSlash : ∀ other ∈ definition.name?, '/' ∉ other.toList)
    (apart : ∀ other ∈ definition.name?, fileName generator other ≠ name) :
    ∃ root', Awaits directory place name shown next root' ∧
      (root = world.root → root' = next.root) := by
  have free : ∀ old ∈ shown, ∃ bytes, old = .file bytes := awaits.shows ▸ awaits.writable.free
  obtain rfl | rfl | rfl := step.effect
  · exact ⟨root, awaits, id⟩
  · rw [awaits.made]
    exact ⟨root, awaits.again rfl (.refl root) awaits.shows free, fun _ => rfl⟩
  · obtain ⟨interface, code, root', place', defines, -, made, seen, writable, rfl⟩ :=
      step.exists_writable noSlash
    obtain rfl : root' = root := congrArg World.root (Prod.mk.inj (made.symm.trans awaits.made)).1
    obtain rfl : place' = place := seen.unique awaits.seen
    have leaf : (Node.file (utf8Bytes code)).entries = [] := rfl
    refine ⟨_, awaits.again rfl (keeps_put_of_findParent writable.found writable.free leaf) ?_ free,
      fun _ => rfl⟩
    rw [view_put_of_findParent writable.found writable.free leaf, if_neg, awaits.shows]
    intro same
    exact apart _ (Definition.name?_of_ok defines)
      (List.cons.inj (List.append_cancel_left same)).1.symm

/-- So does a run over definitions of other names. -/
theorem Awaits.run {definitions : List Definition} {failed : Option Nat} {after : World}
    (h : EmitsAll generator directory definitions world failed after)
    (noSlash : ∀ other ∈ interfaceNames definitions, '/' ∉ other.toList)
    (apart : ∀ other ∈ interfaceNames definitions, fileName generator other ≠ name)
    (awaits : Awaits directory place name shown world root) :
    ∃ root', Awaits directory place name shown after root' ∧
      (root = world.root → root' = after.root) := by
  refine h.of_steps (P := fun world after => ∀ root, Awaits directory place name shown world root →
    ∃ root', Awaits directory place name shown after root' ∧ (root = world.root → root' = after.root))
    ?_ ?_ ?_ root awaits
  · exact fun world events root awaits => ⟨root, awaits.elsewhere rfl rfl, id⟩
  · intro first middle last before later root awaits
    obtain ⟨root', awaits', made⟩ := before root awaits
    obtain ⟨root'', awaits'', made'⟩ := later root' awaits'
    exact ⟨root'', awaits'', made' ∘ made⟩
  · intro definition inside world emission next step root awaits
    exact awaits.step step (fun other named => noSlash other (mem_interfaceNames_of_name inside named))
      fun other named => apart other (mem_interfaceNames_of_name inside named)

/-- A definition whose file can be written is written. -/
theorem Awaits.written {definition : Definition} {interface : Interface} {code : String}
    {emission : Emission} {next : World}
    (awaits : Awaits directory place (fileName generator interface.name) shown world root)
    (defines : definition.interface = .ok interface)
    (isCode : generator.generate interface = some code)
    (step : Emits generator directory definition world emission next) :
    emission = .emitted ∧
      next.events = world.events ++ [.written (outputPath generator directory interface.name)] ∧
      Awaits directory place (fileName generator interface.name)
        (some (.file (utf8Bytes code))) next next.root := by
  have writes : { world with root }.writeFile (joinPath directory (fileName generator interface.name))
      code = _ := writeFile_of_writable awaits.writable code
  have leaf : (Node.file (utf8Bytes code)).entries = [] := rfl
  cases step with
  | unnameable defines' noCode =>
      obtain rfl := Except.ok.inj (defines'.symm.trans defines)
      cases noCode.symm.trans isCode
  | undefined fails => cases fails.symm.trans defines
  | unwritten defines' isCode' fails =>
      obtain rfl := Except.ok.inj (defines'.symm.trans defines)
      obtain rfl := Option.some.inj (isCode'.symm.trans isCode)
      exact absurd writes (fails _ _ awaits.made)
  | @written interface' code' root' next defines' isCode' made writes' =>
      obtain rfl := Except.ok.inj (defines'.symm.trans defines)
      obtain rfl := Option.some.inj (isCode'.symm.trans isCode)
      obtain rfl : root' = root := congrArg World.root (Prod.mk.inj (made.symm.trans awaits.made)).1
      obtain rfl := Except.ok.inj (writes'.symm.trans writes)
      refine ⟨rfl, rfl, awaits.again rfl
        (keeps_put_of_findParent awaits.writable.found awaits.writable.free leaf) ?_ (by simp)⟩
      rw [view_put_of_findParent awaits.writable.found awaits.writable.free leaf, if_pos rfl]
      rfl

end Awaits

/-- What is written under a name is found at its path. -/
theorem Awaits.find {world : World} {bytes : List UInt8} {interface : String}
    (awaits : Awaits directory place (fileName generator interface) (some (.file bytes)) world
      world.root) (noSlash : '/' ∉ interface.toList) :
    world.find (outputPath generator directory interface) = .ok (.file bytes) :=
  find_of_writable awaits.writable (fileName_ne_empty generator interface)
    (fileName_noSlash noSlash) awaits.shows

theorem fileName_ne_of_not_mem {names : List String} {interface : String}
    (fresh : interface ∉ names) :
    ∀ other ∈ names, fileName generator other ≠ fileName generator interface :=
  fun _ inside same => fresh (fileName_inj same ▸ inside)

/-- What was written stays if no later definition has its name. -/
theorem EmitsAt.stays {first rest : List Definition} {definition : Definition}
    {interface : Interface} {world after : World}
    (h : EmitsAt generator directory first definition rest world after)
    (defines : definition.interface = .ok interface)
    (noSlash : ∀ name ∈ interfaceNames (definition :: rest), '/' ∉ name.toList)
    (fresh : interface.name ∉ interfaceNames rest) :
    ∃ code place, generator.generate interface = some code ∧
      Awaits directory place (fileName generator interface.name)
        (some (.file (utf8Bytes code))) after after.root := by
  rw [forall_mem_interfaceNames_cons] at noSlash
  obtain ⟨middle, next, _, _, -, step, others⟩ := h
  obtain ⟨interface', code, root, place, defines', isCode, made, seen, writable, -⟩ :=
    step.exists_writable noSlash.1
  obtain rfl := Except.ok.inj (defines'.symm.trans defines)
  have awaits : Awaits directory place (fileName generator interface'.name) _ middle root :=
    ⟨made, seen, writable, rfl⟩
  obtain ⟨-, -, written⟩ := awaits.written defines isCode step
  obtain ⟨root', stays, same⟩ := written.run others noSlash.2 (fileName_ne_of_not_mem fresh)
  obtain rfl := same rfl
  exact ⟨code, place, isCode, stays⟩

/-- A definition is reached unless the run ends before it, and is written then if its file awaits it. -/
theorem EmitsAll.emitsAt {first rest : List Definition} {definition : Definition}
    {interface : Interface} {code : String} {world after : World} {failed : Option Nat}
    {shown : Option Node} {root : Node}
    (h : EmitsAll generator directory (first ++ definition :: rest) world failed after)
    (nameable : Nameable generator first) (defines : definition.interface = .ok interface)
    (isCode : generator.generate interface = some code)
    (noSlash : ∀ name ∈ interfaceNames first, '/' ∉ name.toList)
    (fresh : interface.name ∉ interfaceNames first)
    (awaits : Awaits directory place (fileName generator interface.name) shown world root) :
    EmitsAt generator directory first definition rest world after := by
  obtain ⟨middle, count, others, before, later, -⟩ | ⟨stops, -⟩ := h.split
  · obtain ⟨root', awaits, -⟩ := awaits.run before noSlash (fileName_ne_of_not_mem fresh)
    cases later with
    | emitted step others => exact ⟨middle, _, count, _, before, step, others⟩
    | failed step others => exact nomatch (awaits.written defines isCode step).1
    | unnameable step => exact nomatch (awaits.written defines isCode step).1
  · exact nomatch stops.isSome_iff.mpr nameable

/-- A file was told about as written, and this is what it holds. -/
structure WritesFile (before after : World) (path content : String) : Prop where
  told : .written path ∈ after.events.drop before.events.length
  holds : after.find path = .ok (.file (utf8Bytes content))

section WritesFile

variable {before loaded after : World} {told : List Event}
  (isLoaded : loaded.events = before.events ++ told)
include isLoaded

/-- A file that is told about was written for a definition. -/
theorem exists_emitsAt {definitions : List Definition} {failed : Option Nat} {path : String}
    (untold : ∀ path, .written path ∉ told)
    (h : EmitsAll generator directory definitions loaded failed after)
    (isTold : .written path ∈ after.events.drop before.events.length) :
    ∃ first definition rest interface, definitions = first ++ definition :: rest ∧
      definition.interface = .ok interface ∧
        path = outputPath generator directory interface.name ∧
          EmitsAt generator directory first definition rest loaded after := by
  obtain ⟨more, isAfter, written⟩ := h.told
  rw [isAfter, isLoaded, List.append_assoc, List.drop_left] at isTold
  exact written path ((List.mem_append.mp isTold).resolve_left (untold path))

/-- What is written for a definition is told about and found at its path. -/
theorem EmitsAt.writesFile {first rest : List Definition} {definition : Definition}
    {interface : Interface}
    (h : EmitsAt generator directory first definition rest loaded after)
    (defines : definition.interface = .ok interface)
    (noSlash : ∀ name ∈ interfaceNames (definition :: rest), '/' ∉ name.toList)
    (fresh : interface.name ∉ interfaceNames rest) :
    ∃ code, generator.generate interface = some code ∧
      WritesFile before after (outputPath generator directory interface.name) code := by
  have noSlashHere : '/' ∉ interface.name.toList :=
    noSlash _ (mem_interfaceNames (List.mem_cons_self ..) defines)
  obtain ⟨code, place, isCode, stays⟩ := h.stays defines noSlash fresh
  refine ⟨code, isCode, ?_, stays.find noSlashHere⟩
  obtain ⟨middle, next, _, _, before', step, others⟩ := h
  obtain ⟨told₁, isMiddle, -⟩ := before'.told
  obtain ⟨told₃, isAfter, -⟩ := others.told
  obtain ⟨interface', _, _, _, defines', -, -, -, -, rfl⟩ :=
    step.exists_writable (forall_mem_interfaceNames_cons.mp noSlash).1
  obtain rfl := Except.ok.inj (defines'.symm.trans defines)
  rw [isAfter, isMiddle, isLoaded]
  simp

end WritesFile

/-- Under distinct names a name tells the place of a definition. -/
theorem eq_of_name {definitions : List Definition} (distinct : (interfaceNames definitions).Nodup)
    {first second : Nat} {definition other : Definition} {name : String}
    (isFirst : definitions[first]? = some definition) (named : definition.name? = some name)
    (isSecond : definitions[second]? = some other) (named' : other.name? = some name) :
    first = second := by
  have apart := List.pairwise_iff_getElem.mp (List.pairwise_filterMap.mp distinct)
  obtain ⟨bound, rfl⟩ := List.getElem?_eq_some_iff.mp isFirst
  obtain ⟨bound', rfl⟩ := List.getElem?_eq_some_iff.mp isSecond
  rcases Nat.lt_trichotomy first second with earlier | same | later
  · exact absurd rfl (apart first second bound bound' earlier name named name named')
  · exact same
  · exact absurd rfl (apart second first bound' bound later name named' name named)

/-- A run writes a definition if it gets that far and the file could be written at its beginning. -/
theorem run_writesFile {commandLine : CommandLine} {first rest : List Definition}
    {definition : Definition} {interface : Interface} {code : String} {before : World}
    {shown : Option Node} {root : Node} (isWritten : commandLine.outputDir = some directory)
    (loads : ((Definition.load (.parse commandLine.input) : StateM World _).run before).1 =
      .ok (first ++ definition :: rest))
    (nameable : Nameable commandLine.chosenGenerator first)
    (defines : definition.interface = .ok interface)
    (isCode : commandLine.chosenGenerator.generate interface = some code)
    (distinct : (interfaceNames (first ++ definition :: rest)).Nodup)
    (noSlash : ∀ name ∈ interfaceNames (first ++ definition :: rest), '/' ∉ name.toList)
    (awaits : Awaits directory place (fileName commandLine.chosenGenerator interface.name) shown
      before root) :
    WritesFile before ((run commandLine : StateM World _).run before).2
      (outputPath commandLine.chosenGenerator directory interface.name) code := by
  obtain ⟨loaded, failed, told, leaves, isLoaded, -, emits, -⟩ := exists_emitsAll commandLine isWritten loads
  obtain ⟨freshBefore, freshAfter⟩ := not_mem_interfaceNames_of_nodup distinct defines
  rw [interfaceNames, List.filterMap_append] at noSlash
  obtain ⟨noSlashBefore, noSlashAfter⟩ := List.forall_mem_append.mp noSlash
  have here := emits.emitsAt nameable defines isCode noSlashBefore freshBefore
    (awaits.elsewhere leaves.root leaves.here)
  obtain ⟨code', isCode', writes⟩ := here.writesFile isLoaded defines noSlashAfter freshAfter
  obtain rfl := Option.some.inj (isCode'.symm.trans isCode)
  exact writes

theorem interface_of_text {definition other : Definition} {interface : Interface}
    (sameText : definition.text = other.text) (defines : definition.interface = .ok interface) :
    other.interface = .ok interface := by
  obtain ⟨text, isText, parsed⟩ := bind_eq_ok.mp defines
  exact bind_eq_ok.mpr ⟨text, sameText ▸ isText, mapError_eq_ok.mpr (mapError_eq_ok.mp parsed)⟩

/-- What a run writes for a text alone is written among others just if every interface before it has
names that can be written. Whatever else is wrong with other definitions does not matter. -/
theorem run_writes_iff {commandLine : CommandLine} {input directory : String}
    {definitions : List Definition} {index : Nat} {definition single : Definition} {before : World}
    (isWritten : commandLine.outputDir = some directory)
    (loads : ((Definition.load (.parse commandLine.input) : StateM World _).run before).1 =
      .ok definitions)
    (found : definitions[index]? = some definition)
    (loadsAlone : ((Definition.load (.parse input) : StateM World _).run before).1 = .ok [single])
    (sameText : single.text = definition.text)
    (distinct : (interfaceNames definitions).Nodup)
    (noSlash : ∀ name ∈ interfaceNames definitions, '/' ∉ name.toList) {path content : String}
    (alone : WritesFile before ((run { commandLine with input } : StateM World _).run before).2
      path content) :
    WritesFile before ((run commandLine : StateM World _).run before).2 path content ↔
      Nameable commandLine.chosenGenerator (definitions.take index) := by
  -- the run for this text alone
  obtain ⟨loadedAlone, failedAlone, toldAlone, leavesAlone, isLoadedAlone, untoldAlone, emitsAlone,
    -⟩ := exists_emitsAll { commandLine with input } isWritten loadsAlone
  obtain ⟨first, other, rest, interface, isSingle, definesAlone, rfl, atAlone⟩ :=
    exists_emitsAt isLoadedAlone untoldAlone emitsAlone alone.told
  obtain ⟨rfl, rfl, rfl⟩ : first = [] ∧ single = other ∧ rest = [] := by
    cases first with
    | nil => simpa using isSingle
    | cons => simp at isSingle
  have defines := interface_of_text sameText definesAlone
  have noSlashHere : '/' ∉ interface.name.toList :=
    noSlash _ (mem_interfaceNames (List.mem_of_getElem? found) defines)
  have noSlashAlone : ∀ name ∈ interfaceNames [single], '/' ∉ name.toList := by
    rw [interfaceNames, List.filterMap_cons_some (Definition.name?_of_ok definesAlone)]
    exact List.forall_mem_singleton.mpr noSlashHere
  obtain ⟨code, isCode, written⟩ := atAlone.writesFile isLoadedAlone definesAlone noSlashAlone
    List.not_mem_nil
  have sameContent := written.holds.symm.trans alone.holds
  constructor
  · intro writes
    obtain ⟨loaded, failed, told, leaves, isLoaded, untold, emits, -⟩ :=
      exists_emitsAll commandLine isWritten loads
    obtain ⟨first, other, rest, interface', rfl, defines', samePath, here⟩ :=
      exists_emitsAt isLoaded untold emits writes.told
    have isOther : (first ++ other :: rest)[first.length]? = some other := by simp
    have noSlashThere := noSlash _ (mem_interfaceNames (List.mem_of_getElem? isOther) defines')
    have sameName : interface.name = interface'.name :=
      fileName_inj (joinPath_inj (fileName_noSlash noSlashHere) (fileName_noSlash noSlashThere)
        samePath)
    obtain rfl := eq_of_name distinct found (Definition.name?_of_ok defines) isOther
      (sameName ▸ Definition.name?_of_ok defines')
    obtain ⟨_, _, count, _, reached, -⟩ := here
    rw [List.take_left]
    exact reached.isSome_iff.mp rfl
  · intro nameable
    obtain ⟨bound, isDefinition⟩ := List.getElem?_eq_some_iff.mp found
    have isSplit : definitions =
        definitions.take index ++ definition :: definitions.drop (index + 1) := by
      rw [← isDefinition, ← List.drop_eq_getElem_cons bound, List.take_append_drop]
    rw [isSplit] at loads distinct noSlash
    -- the directory can be made and the file be written, as they were for the text alone
    obtain ⟨_, next, _, _, nothing, step, -⟩ := atAlone
    cases nothing
    obtain ⟨interface', _, root, place, definesAlone', -, made, seen, writable, -⟩ :=
      step.exists_writable (forall_mem_interfaceNames_cons.mp noSlashAlone).1
    obtain rfl := Except.ok.inj (definesAlone'.symm.trans definesAlone)
    have awaits := Awaits.elsewhere ⟨made, seen, writable, rfl⟩
      leavesAlone.root.symm leavesAlone.here.symm
    have writes := run_writesFile isWritten loads nameable defines isCode distinct noSlash awaits
    exact ⟨writes.told, writes.holds.trans sameContent⟩

section ServiceBesideFile

/-- A service that delivers these bytes, a file that defines an interface `b`, and a directory. -/
def serviceBesideFile (replies : List UInt8) : World :=
  World.ofTree (.directory [("b", .file (utf8Bytes "interface b")), ("s", .socket replies),
    ("out", .directory [])]) []

/-- What a service with the interfaces `a` and `b` delivers. -/
def twoInterfaces (answers : String) : List UInt8 :=
  utf8Bytes ("[\x7b\"vendor\":\"\",\"product\":\"\",\"version\":\"\",\"url\":\"\"," ++
    "\"interfaces\":[\"a\",\"b\"]\x7d]\x00" ++ answers)

theorem interface_b (origin : String) :
    Definition.interface ⟨origin, .ok "interface b"⟩ = .ok ⟨"b", [], [], []⟩ := by
  have parsed : (Interface.parse "interface b").outcome = .ok ⟨"b", [], [], []⟩ := by
    cbv
  exact mapError_eq_ok.mpr parsed

variable (replies : List UInt8)

theorem awaits_serviceBesideFile (name : String)
    (begins : start [] (joinPath "/out" name) = .ok [])
    (isLast : Path.names (joinPath "/out" name) = ["out", name]) (notDot : name ≠ ".")
    (notDots : name ≠ "..") (short : name.utf8ByteSize ≤ maxName) :
    Awaits "/out" ["out"] name none (serviceBesideFile replies) (serviceBesideFile replies).root := by
  have reached : walk (serviceBesideFile replies).root [] ["out", "."] = .ok ["out"] := rfl
  have seen : SeenFrom (serviceBesideFile replies).root [] "/out" ["out"] :=
    ⟨[], by decide +kernel, reached⟩
  have shows : (serviceBesideFile replies).root.view (["out"] ++ [name]) = none := rfl
  have free : ∀ old ∈ (serviceBesideFile replies).root.view (["out"] ++ [name]),
      ∃ bytes, old = .file bytes := by
    rw [shows]
    exact nofun
  exact {
    made := makeAll_ancestors_of_seenFrom seen
    seen := seen
    writable := ⟨findParent_eq_ok.mpr
      ⟨[], ["out"], begins, isLast, reached, notDot, notDots, short⟩, free⟩
    shows := shows }

theorem load_file_serviceBesideFile :
    ((Definition.load (.parse "/b") : StateM World _).run (serviceBesideFile replies)).1 =
      .ok [⟨"/b", .ok "interface b"⟩] := by
  have isFile : Input.parse "/b" = .file "/b" := by decide +kernel
  have isText : (serviceBesideFile replies).readFile "/b" = .ok "interface b" := by
    cbv
  have reads : (Host.readFile "/b" : StateM World _).run (serviceBesideFile replies) =
      (.ok "interface b", serviceBesideFile replies) := by
    rw [← isText]
    rfl
  rw [isFile, Definition.load, run_bind_of_run reads]
  rfl

/-- Alone the file is turned into a client. -/
theorem exists_writesFile_alone : ∃ code, WritesFile (serviceBesideFile replies)
    ((run ⟨"/b", some .rust, some "/out"⟩ : StateM World _).run (serviceBesideFile replies)).2
    "/out/b.rs" code := by
  let commandLine : CommandLine := ⟨"/b", some .rust, some "/out"⟩
  have isWritten : commandLine.outputDir = some "/out" := rfl
  have loads : ((Definition.load (.parse commandLine.input) : StateM World _).run
      (serviceBesideFile replies)).1 = .ok ([] ++ [⟨"/b", .ok "interface b"⟩]) :=
    load_file_serviceBesideFile replies
  have hasModule : (RustModule.ofOutline (Interface.outline ⟨"b", [], [], []⟩)).isSome := by
    cbv
  obtain ⟨module, isModule⟩ := Option.isSome_iff_exists.mp hasModule
  have isCode : Generator.generate .rust ⟨"b", [], [], []⟩ = some (Rust.layout module).print := by
    rw [Generator.generate, Outline.toRust, isModule]
    rfl
  have names : interfaceNames [⟨"/b", .ok "interface b"⟩] = ["b"] := by
    rw [interfaceNames, List.filterMap_cons_some (Definition.name?_of_ok (interface_b "/b"))]
    rfl
  have distinct : (interfaceNames [⟨"/b", .ok "interface b"⟩]).Nodup := by
    rw [names]
    exact List.nodup_singleton _
  have noSlash : ∀ name ∈ interfaceNames [⟨"/b", .ok "interface b"⟩], '/' ∉ name.toList := by
    rw [names]
    exact List.forall_mem_singleton.mpr (by decide)
  have isPath : outputPath .rust "/out" "b" = "/out/b.rs" := by decide +kernel
  have awaits := awaits_serviceBesideFile replies (fileName .rust "b") (by decide +kernel)
    (by decide +kernel) (by decide +kernel) (by decide +kernel) (by decide +kernel)
  have writes := run_writesFile isWritten loads (List.forall_mem_nil _) (interface_b "/b") isCode
    distinct noSlash awaits
  exact ⟨_, isPath ▸ writes⟩

theorem load_serviceBesideFile {first second : Except CallError String}
    (told : Connection.outcome? ServiceInfo.read (messages replies)[0]? =
      .ok ⟨"", "", "", "", ["a", "b"]⟩)
    (isFirst : Connection.outcome? Service.readDescription (messages replies)[1]? = first)
    (isSecond : Connection.outcome? Service.readDescription (messages replies)[2]? = second) :
    ((Definition.load (.parse "unix:/s") : StateM World _).run (serviceBesideFile replies)).1 =
      .ok [⟨"unix:/s (a)", first.mapError (.serviceFailed "unix:/s")⟩,
        ⟨"unix:/s (b)", second.mapError (.serviceFailed "unix:/s")⟩] := by
  have isService : Input.parse "unix:/s" = .service "unix:/s" := by decide +kernel
  have isAddress : Address.parse? "unix:/s" = some (.unix "/s") := by decide +kernel
  have begins : start [] "/s" = .ok [] := by decide +kernel
  have isTarget : namesOfTarget "/s" = ["s"] := by decide +kernel
  have found : (serviceBesideFile replies).find "/s" = .ok (.socket replies) :=
    find_eq_ok.mpr ⟨[], ["s"], begins, by rw [isTarget]; rfl, rfl⟩
  have speaks : replies ≠ [] := by
    rintro rfl
    rw [messages_of_none rfl] at told
    cases told
  rw [isService,
    Definition.load_socket isAddress (by decide) (by decide +kernel) found speaks told]
  subst isFirst isSecond
  rfl

end ServiceBesideFile

/-- An interface with a malformed reply comes before one that is written alone from a file. -/
theorem run_writes_iff_after_malformed_reply :
    let before := serviceBesideFile
      (twoInterfaces "x\x00[\x7b\"description\":\"interface b\"\x7d]\x00")
    let commandLine : CommandLine := ⟨"unix:/s", some .rust, some "/out"⟩
    ∃ content,
      WritesFile before ((run { commandLine with input := "/b" } : StateM World _).run before).2
        "/out/b.rs" content ∧
      WritesFile before ((run commandLine : StateM World _).run before).2 "/out/b.rs" content := by
  intro before commandLine
  obtain ⟨error, fails⟩ : ∃ error, Connection.outcome? Service.readDescription (messages
      (twoInterfaces "x\x00[\x7b\"description\":\"interface b\"\x7d]\x00"))[1]? = .error error :=
    error_of_toOption (by decide +kernel)
  let first : Definition := ⟨"unix:/s (a)", .error (.serviceFailed "unix:/s" error)⟩
  let second : Definition := ⟨"unix:/s (b)", .ok "interface b"⟩
  have loads : ((Definition.load (.parse commandLine.input) : StateM World _).run before).1 =
      .ok [first, second] :=
    load_serviceBesideFile _ (ok_of_toOption (by decide +kernel)) fails
      (ok_of_toOption (by decide +kernel))
  have names : interfaceNames [first, second] = ["b"] := by
    rw [interfaceNames, List.filterMap_cons_none rfl,
      List.filterMap_cons_some (Definition.name?_of_ok (interface_b _))]
    rfl
  have distinct : (interfaceNames [first, second]).Nodup := by
    rw [names]
    exact List.nodup_singleton _
  have noSlash : ∀ name ∈ interfaceNames [first, second], '/' ∉ name.toList := by
    rw [names]
    exact List.forall_mem_singleton.mpr (by decide)
  have nameable : Nameable commandLine.chosenGenerator ([first, second].take 1) :=
    List.forall_mem_singleton.mpr fun interface defines => by cases defines
  obtain ⟨content, alone⟩ := exists_writesFile_alone
    (twoInterfaces "x\x00[\x7b\"description\":\"interface b\"\x7d]\x00")
  have found : [first, second][1]? = some second := rfl
  exact ⟨content, alone, (run_writes_iff rfl loads found (load_file_serviceBesideFile _) rfl distinct
    noSlash alone).mpr nameable⟩

/-- An interface with a name that cannot be written comes first, and the one after it is not written,
though it would be alone. -/
theorem run_stops_at_unnameable :
    let before := serviceBesideFile (twoInterfaces
      ("[\x7b\"description\":\"interface a type x-y (n: int)\"\x7d]\x00" ++
        "[\x7b\"description\":\"interface b\"\x7d]\x00"))
    let commandLine : CommandLine := ⟨"unix:/s", some .rust, some "/out"⟩
    let ended := (run commandLine : StateM World _).run before
    let alone := (run { commandLine with input := "/b" } : StateM World _).run before
    ∃ first second single,
      ((Definition.load (.parse commandLine.input) : StateM World _).run before).1 =
        .ok [first, second] ∧
      ((Definition.load (.parse "/b") : StateM World _).run before).1 = .ok [single] ∧
      single.text = second.text ∧ interfaceNames [first, second] = ["a", "b"] ∧
      (∃ content, WritesFile before alone.2 "/out/b.rs" content) ∧
      ended.1 = .unnameable ∧ ∀ content, ¬ WritesFile before ended.2 "/out/b.rs" content := by
  intro before commandLine ended alone
  let interface : Interface := ⟨"a", [⟨"x-y", .struct [("n", .builtin .int)]⟩], [], []⟩
  let first : Definition := ⟨"unix:/s (a)", .ok "interface a type x-y (n: int)"⟩
  let second : Definition := ⟨"unix:/s (b)", .ok "interface b"⟩
  have loads : ((Definition.load (.parse commandLine.input) : StateM World _).run before).1 =
      .ok [first, second] :=
    load_serviceBesideFile _ (ok_of_toOption (by decide +kernel))
      (ok_of_toOption (by decide +kernel)) (ok_of_toOption (by decide +kernel))
  have defines : first.interface = .ok interface := by
    have parsed : (Interface.parse "interface a type x-y (n: int)").outcome = .ok interface := by
      cbv
    exact mapError_eq_ok.mpr parsed
  have names : interfaceNames [first, second] = ["a", "b"] := by
    rw [interfaceNames, List.filterMap_cons_some (Definition.name?_of_ok defines),
      List.filterMap_cons_some (Definition.name?_of_ok (interface_b _))]
    rfl
  have noCode : Generator.generate .rust interface = none := by
    decide +kernel
  have unnameable : ∀ rest, ¬ Nameable .rust (first :: rest) := by
    intro rest nameable
    have hasCode := nameable first (List.mem_cons_self ..) interface defines
    rw [noCode] at hasCode
    cases hasCode
  obtain ⟨loaded, failed, told, -, isLoaded, untold, emits, outcome⟩ :=
    exists_emitsAll commandLine rfl loads
  have stops : failed = none :=
    Option.not_isSome_iff_eq_none.mp fun goesOn => unnameable [second] (emits.isSome_iff.mp goesOn)
  refine ⟨first, second, ⟨"/b", .ok "interface b"⟩, loads, load_file_serviceBesideFile _, rfl, names,
    exists_writesFile_alone _, ?_, ?_⟩
  · rw [stops] at outcome
    exact outcome
  · intro content writes
    obtain ⟨others, definition, rest, interface', isSplit, defines', samePath, here⟩ :=
      exists_emitsAt isLoaded untold emits writes.told
    obtain ⟨_, _, count, _, reached, step, -⟩ := here
    cases others with
    | nil =>
        obtain ⟨rfl, -⟩ := List.cons.inj isSplit
        exact unnameable [] (List.forall_mem_singleton.mpr (step.nameable (by simp)))
    | cons other others =>
        obtain ⟨rfl, -⟩ := List.cons.inj isSplit
        exact unnameable others (reached.isSome_iff.mp rfl)

end Run

end Varlink
