import Varlink.Proofs.Run.Batch

/-!
# What can become of a definition

With a directory to write to, four things can become of a definition. Its names cannot be written in
the chosen language, or it stands for no interface, and then nothing is done. Or there is a client, and
its directory is made, as far as that goes. Then the client is in its file, or it is told why not.

A run is a sequence of such steps, and whatever is said about all runs is shown for each of the four
cases and carried through the sequence. Here this is what is told about files; what is in them is left
to the modules that follow.
-/

namespace Varlink

/-- The name of the interface that a definition stands for. -/
def Definition.name? (definition : Definition) : Option String :=
  definition.interface.toOption.map (·.name)

theorem Definition.name?_of_ok {definition : Definition} {interface : Interface}
    (defines : definition.interface = .ok interface) : definition.name? = some interface.name := by
  rw [Definition.name?, defines]
  rfl

namespace Run

open Varlink.Path World Node

/-- The names of the interfaces that definitions stand for. -/
def interfaceNames (definitions : List Definition) : List String :=
  definitions.filterMap Definition.name?

theorem mem_interfaceNames_of_name {definitions : List Definition} {definition : Definition}
    {name : String} (inside : definition ∈ definitions) (named : name ∈ definition.name?) :
    name ∈ interfaceNames definitions :=
  List.mem_filterMap.mpr ⟨definition, inside, named⟩

theorem mem_interfaceNames {definitions : List Definition} {definition : Definition}
    {interface : Interface} (inside : definition ∈ definitions)
    (defines : definition.interface = .ok interface) :
    interface.name ∈ interfaceNames definitions :=
  mem_interfaceNames_of_name inside (Definition.name?_of_ok defines)

theorem forall_mem_interfaceNames_cons {definition : Definition} {rest : List Definition}
    {P : String → Prop} : (∀ name ∈ interfaceNames (definition :: rest), P name) ↔
      (∀ name ∈ definition.name?, P name) ∧ ∀ name ∈ interfaceNames rest, P name := by
  rw [interfaceNames, List.filterMap_cons]
  cases definition.name? <;> simp [interfaceNames]

theorem not_mem_interfaceNames_of_nodup {first rest : List Definition} {definition : Definition}
    {interface : Interface} (distinct : (interfaceNames (first ++ definition :: rest)).Nodup)
    (defines : definition.interface = .ok interface) :
    interface.name ∉ interfaceNames first ∧ interface.name ∉ interfaceNames rest := by
  have isSplit : interfaceNames (first ++ definition :: rest) =
      interfaceNames first ++ interface.name :: interfaceNames rest := by
    rw [interfaceNames, List.filterMap_append,
      List.filterMap_cons_some (Definition.name?_of_ok defines)]
    rfl
  rw [isSplit, List.nodup_append, List.nodup_cons] at distinct
  exact ⟨fun inside => distinct.2.2 _ inside _ (List.mem_cons_self ..) rfl, distinct.2.1.1⟩

/-- What can become of a definition in a world, and the world after it. -/
inductive Emits (generator : Generator) (directory : String) (definition : Definition)
    (world : World) : Emission → World → Prop
  /-- Its names cannot be written, and nothing is done. -/
  | unnameable {interface : Interface} (defines : definition.interface = .ok interface)
      (noCode : generator.generate interface = none) :
      Emits generator directory definition world .unnameable world
  /-- It stands for no interface, and nothing is done. -/
  | undefined {error : RunError} (fails : definition.interface = .error error) :
      Emits generator directory definition world (.failed error) world
  /-- The file cannot be written. What there is of the directory stays. -/
  | unwritten {interface : Interface} {code : String} {cause : SystemError}
      (defines : definition.interface = .ok interface)
      (isCode : generator.generate interface = some code)
      (fails : ∀ made next, world.makeAll (ancestors directory) = (made, .ok ()) →
        made.writeFile (outputPath generator directory interface.name) code ≠ .ok next) :
      Emits generator directory definition world
        (.failed (.cannotWrite (outputPath generator directory interface.name) cause))
        (world.makeAll (ancestors directory)).1
  /-- The client is in its file. -/
  | written {interface : Interface} {code : String} {root : Node} {next : World}
      (defines : definition.interface = .ok interface)
      (isCode : generator.generate interface = some code)
      (made : world.makeAll (ancestors directory) = ({ world with root }, .ok ()))
      (writes : { world with root }.writeFile (outputPath generator directory interface.name) code =
        .ok next) :
      Emits generator directory definition world .emitted
        { next with events :=
          next.events ++ [.written (outputPath generator directory interface.name)] }

/-- What can become of definitions one after the other. -/
inductive EmitsAll (generator : Generator) (directory : String) :
    List Definition → World → Option Nat → World → Prop
  | nil {world : World} : EmitsAll generator directory [] world (some 0) world
  | emitted {definition : Definition} {rest : List Definition} {world next after : World}
      {failed : Option Nat} (first : Emits generator directory definition world .emitted next)
      (others : EmitsAll generator directory rest next failed after) :
      EmitsAll generator directory (definition :: rest) world failed after
  | failed {definition : Definition} {rest : List Definition} {world next after : World}
      {error : RunError} {failed : Option Nat}
      (first : Emits generator directory definition world (.failed error) next)
      (others : EmitsAll generator directory rest
        { next with events :=
          next.events ++ [.skippedInterface definition.origin error.report] } failed after) :
      EmitsAll generator directory (definition :: rest) world (failed.map (· + 1)) after
  | unnameable {definition : Definition} {rest : List Definition} {world next : World}
      (first : Emits generator directory definition world .unnameable next) :
      EmitsAll generator directory (definition :: rest) world none next

section Runs

variable {generator : Generator} {directory : String}

theorem nameable_cons {definition : Definition} {rest : List Definition} :
    Nameable generator (definition :: rest) ↔
      (∀ interface, definition.interface = .ok interface → (generator.generate interface).isSome) ∧
        Nameable generator rest :=
  List.forall_mem_cons

theorem emit_of_none {m : Type → Type} [Monad m] [Host m] {outputDir : Option String}
    {definition : Definition} {interface : Interface}
    (defines : definition.interface = .ok interface)
    (noCode : generator.generate interface = none) :
    (emit generator outputDir definition : m Emission) = pure .unnameable := by
  obtain ⟨origin, text⟩ := definition
  obtain ⟨text, rfl, parsed⟩ := bind_eq_ok.mp defines
  unfold emit
  dsimp only
  rw [mapError_eq_ok.mp parsed]
  dsimp only
  generalize generator.generate interface = generated at noCode ⊢
  subst noCode
  rfl

theorem emits_run (definition : Definition) (world : World) :
    let result := (emit generator (some directory) definition : StateM World _).run world
    Emits generator directory definition world result.1 result.2 := by
  intro result
  cases defines : definition.interface with
  | error error =>
      have isResult : result = (.failed error, world) := by
        show (emit generator (some directory) definition : StateM World _).run world = _
        rw [emit_of_error defines]
        rfl
      rw [isResult]
      exact .undefined defines
  | ok interface =>
      cases isCode : generator.generate interface with
      | none =>
          have isResult : result = (.unnameable, world) := by
            show (emit generator (some directory) definition : StateM World _).run world = _
            rw [emit_of_none defines isCode]
            rfl
          rw [isResult]
          exact .unnameable defines isCode
      | some code =>
          have isResult := run_writeClient_eq directory
            (outputPath generator directory interface.name) code world
          have same : (emit generator (some directory) definition : StateM World _) =
              writeClient directory (outputPath generator directory interface.name) code :=
            emit_of_ok defines isCode
          rw [← same] at isResult
          rw [show result = _ from isResult]
          have unwritten {cause : SystemError} := @Emits.unwritten generator directory definition
            world interface code cause defines isCode
          rcases made : world.makeAll (ancestors directory) with ⟨after, cause | ⟨⟩⟩
          · rw [made] at unwritten
            exact unwritten nofun
          · obtain ⟨root, rfl, -⟩ := makeAll_grows made
            dsimp only
            cases writes : { world with root }.writeFile
                (outputPath generator directory interface.name) code with
            | error cause =>
                rw [made] at unwritten
                refine unwritten fun after next same => ?_
                rw [← (Prod.mk.inj same).1, writes]
                exact nofun
            | ok next => exact .written defines isCode made writes

/-- A run goes through its definitions by these steps. -/
theorem emitsAll_run (definitions : List Definition) (world : World) :
    let result := (emitAll generator (some directory) definitions : StateM World _).run world
    EmitsAll generator directory definitions world result.1 result.2 := by
  induction definitions generalizing world with
  | nil => exact .nil
  | cons definition rest ih =>
      have first := @emits_run generator directory definition world
      rcases emitted : (emit generator (some directory) definition : StateM World _).run world
        with ⟨emission, next⟩
      rw [emitted] at first
      rw [emitAll, run_bind_of_run emitted]
      cases emission with
      | emitted => exact .emitted first (ih next)
      | unnameable => exact .unnameable first
      | failed error => exact .failed first (ih _)

/-- What every step does, and what telling does not change, is done by a run. -/
theorem EmitsAll.of_steps {P : World → World → Prop} {definitions : List Definition}
    {world after : World} {failed : Option Nat}
    (h : EmitsAll generator directory definitions world failed after)
    (told : ∀ world events, P world { world with events })
    (trans : ∀ {first middle last}, P first middle → P middle last → P first last)
    (step : ∀ definition ∈ definitions, ∀ {world emission next},
      Emits generator directory definition world emission next → P world next) : P world after := by
  induction h with
  | @nil world => exact told world world.events
  | emitted first others ih =>
      obtain ⟨here, later⟩ := List.forall_mem_cons.mp step
      exact trans (here first) (ih later)
  | failed first others ih =>
      obtain ⟨here, later⟩ := List.forall_mem_cons.mp step
      exact trans (here first) (trans (told _ _) (ih later))
  | unnameable first => exact (List.forall_mem_cons.mp step).1 first

/-- What becomes of some definitions is the beginning of what becomes of more. -/
theorem EmitsAll.split {first rest : List Definition} {world after : World} {failed : Option Nat}
    (h : EmitsAll generator directory (first ++ rest) world failed after) :
    (∃ middle count others, EmitsAll generator directory first world (some count) middle ∧
      EmitsAll generator directory rest middle others after ∧ failed = others.map (count + ·)) ∨
    EmitsAll generator directory first world none after ∧ failed = none := by
  induction first generalizing world failed with
  | nil => exact .inl ⟨world, 0, failed, .nil, h, by simp⟩
  | cons definition first ih =>
      cases h with
      | emitted step others =>
          obtain ⟨middle, count, more, before, later, rfl⟩ | ⟨stops, rfl⟩ := ih others
          · exact .inl ⟨middle, count, more, .emitted step before, later, rfl⟩
          · exact .inr ⟨.emitted step stops, rfl⟩
      | failed step others =>
          obtain ⟨middle, count, more, before, later, rfl⟩ | ⟨stops, rfl⟩ := ih others
          · refine .inl ⟨middle, count + 1, more, .failed step before, later, ?_⟩
            cases more with
            | none => rfl
            | some more => simp [Nat.add_right_comm]
          · exact .inr ⟨.failed step stops, rfl⟩
      | unnameable step => exact .inr ⟨.unnameable step, rfl⟩

/-- Only a definition with names that cannot be written ends a run. -/
theorem Emits.nameable {definition : Definition} {world next : World} {emission : Emission}
    (h : Emits generator directory definition world emission next)
    (goesOn : emission ≠ .unnameable) :
    ∀ interface, definition.interface = .ok interface → (generator.generate interface).isSome := by
  intro interface defines
  cases h with
  | unnameable => exact absurd rfl goesOn
  | undefined fails => cases fails.symm.trans defines
  | unwritten defines' isCode =>
      rw [← Except.ok.inj (defines'.symm.trans defines), isCode]
      rfl
  | written defines' isCode =>
      rw [← Except.ok.inj (defines'.symm.trans defines), isCode]
      rfl

theorem EmitsAll.isSome_iff {definitions : List Definition} {world after : World}
    {failed : Option Nat} (h : EmitsAll generator directory definitions world failed after) :
    failed.isSome ↔ Nameable generator definitions := by
  induction h with
  | nil => simp [Nameable]
  | emitted step others ih => rw [ih, nameable_cons, and_iff_right (step.nameable nofun)]
  | failed step others ih =>
      rw [Option.isSome_map, ih, nameable_cons, and_iff_right (step.nameable nofun)]
  | unnameable step =>
      cases step with
      | unnameable defines noCode =>
          refine iff_of_false Bool.noConfusion fun nameable => ?_
          have isSome := (nameable_cons.mp nameable).1 _ defines
          rw [noCode] at isSome
          cases isSome

/-- A file is told about only if it is the one for the definition, and was written. -/
theorem Emits.told {definition : Definition} {world next : World} {emission : Emission}
    (h : Emits generator directory definition world emission next) :
    ∃ told, next.events = world.events ++ told ∧ ∀ path, .written path ∈ told →
      emission = .emitted ∧ ∃ interface, definition.interface = .ok interface ∧
        path = outputPath generator directory interface.name := by
  cases h with
  | unnameable => exact ⟨[], (List.append_nil _).symm, nofun⟩
  | undefined => exact ⟨[], (List.append_nil _).symm, nofun⟩
  | unwritten =>
      obtain ⟨root, same, -⟩ := makeAll_leaves world (ancestors directory)
      rw [same]
      exact ⟨[], (List.append_nil _).symm, nofun⟩
  | @written interface code root next defines isCode made writes =>
      obtain ⟨_, _, -, -, rfl⟩ := writeFile_eq_ok.mp writes
      refine ⟨_, rfl, fun path inside => ⟨rfl, interface, defines, ?_⟩⟩
      exact Event.written.inj (List.mem_singleton.mp inside)

/-- In a run the client for a definition is written, between what becomes of the definitions before it
and of those after it. -/
def EmitsAt (generator : Generator) (directory : String) (first : List Definition)
    (definition : Definition) (rest : List Definition) (world after : World) : Prop :=
  ∃ middle next count others, EmitsAll generator directory first world (some count) middle ∧
    Emits generator directory definition middle .emitted next ∧
      EmitsAll generator directory rest next others after

/-- A run tells about the files that are written in it, and no other. -/
theorem EmitsAll.told {definitions : List Definition} {world after : World} {failed : Option Nat}
    (h : EmitsAll generator directory definitions world failed after) :
    ∃ told, after.events = world.events ++ told ∧ ∀ path, .written path ∈ told →
      ∃ first definition rest interface, definitions = first ++ definition :: rest ∧
        definition.interface = .ok interface ∧
          path = outputPath generator directory interface.name ∧
            EmitsAt generator directory first definition rest world after := by
  induction h with
  | nil => exact ⟨[], (List.append_nil _).symm, nofun⟩
  | @emitted definition rest world next after failed step others ih =>
      obtain ⟨told, isNext, own⟩ := step.told
      obtain ⟨more, isAfter, later⟩ := ih
      refine ⟨told ++ more, by rw [isAfter, isNext, List.append_assoc], fun path inside => ?_⟩
      rcases List.mem_append.mp inside with inside | inside
      · obtain ⟨-, interface, defines, isPath⟩ := own path inside
        exact ⟨[], definition, rest, interface, rfl, defines, isPath, world, next, 0, failed, .nil,
          step, others⟩
      · obtain ⟨first, other, rest, interface, rfl, defines, isPath, middle, _, _, _, before,
            here⟩ :=
          later path inside
        exact ⟨definition :: first, other, rest, interface, rfl, defines, isPath, middle, _, _, _,
          .emitted step before, here⟩
  | @failed definition rest world next after error failed step others ih =>
      obtain ⟨told, isNext, own⟩ := step.told
      obtain ⟨more, isAfter, later⟩ := ih
      refine ⟨told ++ .skippedInterface definition.origin error.report :: more, ?_,
        fun path inside => ?_⟩
      · rw [isAfter, isNext]
        simp
      · rcases List.mem_append.mp inside with inside | inside
        · exact nomatch (own path inside).1
        · obtain ⟨first, other, rest, interface, rfl, defines, isPath, middle, _, _, _, before,
            here⟩ := later path ((List.mem_cons.mp inside).resolve_left nofun)
          exact ⟨definition :: first, other, rest, interface, rfl, defines, isPath, middle, _, _, _,
            .failed step before, here⟩
  | unnameable step =>
      obtain ⟨told, isNext, own⟩ := step.told
      exact ⟨told, isNext, fun path inside => nomatch (own path inside).1⟩

/-- Unless the client is written, at most the directory is made. -/
theorem Emits.effect {definition : Definition} {world next : World} {emission : Emission}
    (h : Emits generator directory definition world emission next) :
    next = world ∨ next = (world.makeAll (ancestors directory)).1 ∨ emission = .emitted := by
  cases h with
  | unnameable => exact .inl rfl
  | undefined => exact .inl rfl
  | unwritten => exact .inr (.inl rfl)
  | written => exact .inr (.inr rfl)

/-- A client whose name has no slash is written to a file that stands in the directory. -/
theorem Emits.exists_writable {definition : Definition} {world after : World}
    (h : Emits generator directory definition world .emitted after)
    (noSlash : ∀ name ∈ definition.name?, '/' ∉ name.toList) :
    ∃ interface code root place, definition.interface = .ok interface ∧
      generator.generate interface = some code ∧
      world.makeAll (ancestors directory) = ({ world with root }, .ok ()) ∧
      SeenFrom root world.here directory place ∧
      Writable root world.here directory place (fileName generator interface.name) ∧
      after = { world with
        root := put (.file (utf8Bytes code)) (place ++ [fileName generator interface.name]) root
        events := world.events ++ [.written (outputPath generator directory interface.name)] } := by
  cases h with
  | @written interface code root next defines isCode made writes =>
      have nonempty := fileName_ne_empty generator interface.name
      have noSlashFile : '/' ∉ (fileName generator interface.name).toList :=
        fileName_noSlash (noSlash _ (Definition.name?_of_ok defines))
      obtain ⟨parent, other, found, free, isNext⟩ := writeFile_eq_ok.mp writes
      obtain ⟨rfl, seen⟩ := seenFrom_of_findParent_joinPath nonempty noSlashFile found
      refine ⟨interface, code, root, parent, defines, isCode, made, seen, ⟨found, free⟩, ?_⟩
      rw [isNext]

end Runs

/-- What a run does after its definitions are loaded. -/
theorem run_of_load {commandLine : CommandLine} {definitions : List Definition}
    {before loaded : World}
    (loads : (Definition.load (.parse commandLine.input) : StateM World _).run before =
      (.ok definitions, loaded)) :
    let emitted := (emitAll commandLine.chosenGenerator commandLine.outputDir definitions :
      StateM World _).run loaded
    (run commandLine : StateM World _).run before = (match emitted.1 with
      | none => .unnameable
      | some 0 => .succeeded
      | some failed => .failed (.incomplete failed definitions.length), emitted.2) := by
  intro emitted
  rw [run, run_bind_of_run loads]
  dsimp only
  have emits : (emitAll commandLine.chosenGenerator commandLine.outputDir definitions :
      StateM World _).run loaded = (emitted.1, emitted.2) := rfl
  rw [run_bind_of_run emits]
  rcases emitted.1 with _ | _ | failed <;> rfl

/-- Loading tells about no file. -/
theorem load_told (input : Input) (world : World) :
    ∃ told, ((Definition.load input : StateM World _).run world).2.events = world.events ++ told ∧
      ∀ path, .written path ∉ told := by
  obtain ⟨_, told, changed, services⟩ := load_changes input world
  refine ⟨told, by rw [changed], fun path inside => ?_⟩
  obtain ⟨_, _, _, _, isWritten⟩ := services _ inside
  cases isWritten

/-- A run with a directory loads its definitions, which leaves the files as they are, and goes through
them. -/
theorem exists_emitsAll (commandLine : CommandLine) {directory : String}
    {definitions : List Definition} {before : World}
    (isWritten : commandLine.outputDir = some directory)
    (loads : ((Definition.load (.parse commandLine.input) : StateM World _).run before).1 =
      .ok definitions) :
    let ended := (run commandLine : StateM World _).run before
    ∃ loaded failed told, Leaves before loaded ∧
      loaded.events = before.events ++ told ∧ (∀ path, .written path ∉ told) ∧
      EmitsAll commandLine.chosenGenerator directory definitions loaded failed ended.2 ∧
      ended.1 = match failed with
        | none => .unnameable
        | some 0 => .succeeded
        | some failed => .failed (.incomplete failed definitions.length) := by
  intro ended
  have leaves := load_leaves (.parse commandLine.input) before
  obtain ⟨told, isLoaded, untold⟩ := load_told (.parse commandLine.input) before
  rcases isLoad : (Definition.load (.parse commandLine.input) : StateM World _).run before
    with ⟨outcome, loaded⟩
  rw [isLoad] at loads leaves isLoaded
  obtain rfl : outcome = .ok definitions := loads
  have isEnded : ended = _ := run_of_load isLoad
  rw [isWritten] at isEnded
  rw [isEnded]
  exact ⟨loaded, _, told, leaves, isLoaded, untold, emitsAll_run definitions loaded, rfl⟩

end Run

end Varlink
