import Mathlib
import Varlink.Proofs.Run.Loading

/-!
# What a run makes of its definitions

A run goes through its definitions one after the other. Each of them is turned into a client, or told
about and counted. Neither has any influence on the others: a definition that fails leaves the files
as they are, and a client changes one file, which is that of no other client as long as the names of
the interfaces differ.

The first client has to make its directory, and every later one finds it made. So what the induction
over the definitions carries is that the directories can be made from here on, with what tree as the
result, and that in this tree each of the files still to come can be written.
-/

namespace Varlink

/-- The interface that a definition stands for, or why it stands for none. -/
def Definition.interface (definition : Definition) : Except RunError Interface := do
  let text ← definition.text
  (Interface.parse text).outcome.mapError (.invalidDefinition definition.origin)

namespace Run

open Varlink.Path World

/-- The clients for definitions, each with the name of its interface. -/
def clients (generator : Generator) (definitions : List Definition) : List (String × String) :=
  definitions.filterMap fun definition =>
    match definition.interface with
    | .ok interface => (generator.generate interface).map fun code => (interface.name, code)
    | .error _ => none

/-- What is told about the definitions that fail. -/
def failures (definitions : List Definition) : List Event :=
  definitions.filterMap fun definition =>
    match definition.interface with
    | .ok _ => none
    | .error error => some (.skippedInterface definition.origin error.report)

/-- The name of the file for a client. -/
def fileName (generator : Generator) (interface : String) : String :=
  interface ++ "." ++ generator.extension

/-- The names in the definitions' interfaces can be written in the chosen language. -/
def Nameable (generator : Generator) (definitions : List Definition) : Prop :=
  ∀ definition ∈ definitions, ∀ interface, definition.interface = .ok interface →
    (generator.generate interface).isSome

/-- The events that tell about failures. -/
def errorsIn (events : List Event) : List Event :=
  events.filter fun event => event.level = .error

/-- One tree is the other one with the clients in their files, and no other change. -/
structure Holds (generator : Generator) (place : List String) (clients : List (String × String))
    (before after : Node) : Prop where
  written : ∀ client ∈ clients,
    after.view (place ++ [fileName generator client.1]) = some (.file (utf8Bytes client.2))
  untouched : ∀ names, (∀ client ∈ clients, names ≠ place ++ [fileName generator client.1]) →
    after.view names = before.view names

section Emit

variable {m : Type → Type} [Monad m] [Host m] {generator : Generator} {outputDir : Option String}
  {definition : Definition}

theorem emit_of_error {error : RunError} (fails : definition.interface = .error error) :
    (emit generator outputDir definition : m Emission) = pure (.failed error) := by
  obtain ⟨origin, text⟩ := definition
  unfold Definition.interface at fails
  unfold emit
  cases text with
  | error cause =>
      obtain rfl : cause = error := Except.error.inj fails
      rfl
  | ok text =>
      change (Interface.parse text).outcome.mapError (RunError.invalidDefinition origin) = _ at fails
      dsimp only
      cases parsed : (Interface.parse text).outcome with
      | ok interface =>
          rw [parsed] at fails
          cases fails
      | error cause =>
          rw [parsed] at fails
          obtain rfl := Except.error.inj fails
          rfl

theorem emit_of_ok {interface : Interface} {code : String}
    (defines : definition.interface = .ok interface)
    (isCode : generator.generate interface = some code) :
    (emit generator outputDir definition : m Emission) = match outputDir with
      | none => do
        Host.print code
        return .emitted
      | some directory =>
        writeClient directory (outputPath generator directory interface.name) code := by
  obtain ⟨origin, text⟩ := definition
  obtain ⟨text, rfl, parsed⟩ := bind_eq_ok.mp defines
  unfold emit
  dsimp only
  rw [mapError_eq_ok.mp parsed]
  dsimp only
  generalize generator.generate interface = generated at isCode ⊢
  subst isCode
  cases outputDir <;> rfl

end Emit

section EmitAll

variable {generator : Generator} {outputDir : Option String} {definition : Definition}
  {rest : List Definition} {world : World}

/-- A definition that fails is told about and counted, and the run goes on. -/
theorem emitAll_of_error {error : RunError} (fails : definition.interface = .error error)
    {failed : Nat} {after : World}
    (others : (emitAll generator outputDir rest : StateM World _).run { world with
      events := world.events ++ [.skippedInterface definition.origin error.report] } =
        (some failed, after)) :
    (emitAll generator outputDir (definition :: rest) : StateM World _).run world =
      (some (failed + 1), after) := by
  rw [emitAll, emit_of_error fails]
  show ((emitAll generator outputDir rest : StateM World _) >>= fun failed =>
    pure (failed.map (· + 1))).run _ = _
  rw [run_bind_of_run others]
  rfl

theorem emitAll_of_emitted {next : World}
    (emitted : (emit generator outputDir definition : StateM World _).run world =
      (.emitted, next)) :
    (emitAll generator outputDir (definition :: rest) : StateM World _).run world =
      (emitAll generator outputDir rest : StateM World _).run next := by
  rw [emitAll, run_bind_of_run emitted]

theorem clients_of_error {error : RunError} (fails : definition.interface = .error error) :
    clients generator (definition :: rest) = clients generator rest := by
  rw [clients, List.filterMap_cons, fails]
  rfl

theorem clients_of_ok {interface : Interface} {code : String}
    (defines : definition.interface = .ok interface)
    (isCode : generator.generate interface = some code) :
    clients generator (definition :: rest) = (interface.name, code) :: clients generator rest := by
  rw [clients, List.filterMap_cons, defines]
  dsimp only
  rw [isCode]
  rfl

theorem failures_of_error {error : RunError} (fails : definition.interface = .error error) :
    failures (definition :: rest) =
      .skippedInterface definition.origin error.report :: failures rest := by
  rw [failures, List.filterMap_cons, fails]
  rfl

theorem failures_of_ok {interface : Interface} (defines : definition.interface = .ok interface) :
    failures (definition :: rest) = failures rest := by
  rw [failures, List.filterMap_cons, defines]
  rfl

end EmitAll

theorem errorsIn_append (first second : List Event) :
    errorsIn (first ++ second) = errorsIn first ++ errorsIn second :=
  List.filter_append ..

theorem errorsIn_failures (definitions : List Definition) :
    errorsIn (failures definitions) = failures definitions := by
  refine List.filter_eq_self.mpr fun event inside => ?_
  obtain ⟨definition, -, isEvent⟩ := List.mem_filterMap.mp inside
  cases defines : definition.interface with
  | ok interface =>
      rw [defines] at isEvent
      cases isEvent
  | error error =>
      rw [defines] at isEvent
      obtain rfl := Option.some.inj isEvent
      rfl

/-- Without a directory the clients are printed one after the other, and nothing else is done. -/
theorem emitAll_prints {generator : Generator} {definitions : List Definition}
    (nameable : Nameable generator definitions) (world : World) :
    (emitAll generator none definitions : StateM World _).run world =
      (some (failures definitions).length, { world with
        output := world.output ++ String.join ((clients generator definitions).map Prod.snd)
        events := world.events ++ failures definitions }) := by
  induction definitions generalizing world with
  | nil =>
      have same : world.output ++ "" = world.output := String.append_empty
      show (some 0, world) = _
      simp [clients, failures, same]
  | cons definition rest ih =>
      obtain ⟨nameableHere, nameableRest⟩ := List.forall_mem_cons.mp nameable
      cases defines : definition.interface with
      | error error =>
          rw [emitAll_of_error defines (ih nameableRest _), clients_of_error defines,
            failures_of_error defines]
          simp
      | ok interface =>
          obtain ⟨code, isCode⟩ := Option.isSome_iff_exists.mp (nameableHere interface defines)
          have emitted : (emit generator none definition : StateM World _).run world =
              (.emitted, { world with output := world.output ++ code }) := by
            rw [emit_of_ok defines isCode]
            rfl
          rw [emitAll_of_emitted emitted, ih nameableRest, clients_of_ok defines isCode,
            failures_of_ok defines, List.map_cons, String.join_cons, String.append_assoc]

section Directory

variable {generator : Generator} {directory : String} {place : List String}

/-- A file is written in the world, unless it cannot be. -/
theorem run_writeFile (path content : String) (world : World) :
    (Host.writeFile path content : StateM World _).run world =
      match world.writeFile path content with
      | .error cause => (.error cause, world)
      | .ok next => (.ok (), next) := by
  have looks : (get : StateM World World).run world = (world, world) := rfl
  dsimp only [Host.writeFile]
  rw [run_bind_of_run looks]
  cases world.writeFile path content <;> rfl

/-- The directory is made first, and then the file is written. -/
theorem run_writeClient_eq (directory path code : String) (world : World) :
    (writeClient directory path code : StateM World _).run world =
      match world.makeAll (ancestors directory) with
      | (made, .error cause) => (.failed (.cannotWrite path cause), made)
      | (made, .ok ()) =>
        match made.writeFile path code with
        | .error cause => (.failed (.cannotWrite path cause), made)
        | .ok next => (.emitted, { next with events := next.events ++ [.written path] }) := by
  have makes : (Host.makeDirectories directory : StateM World _).run world =
      ((world.makeAll (ancestors directory)).2, (world.makeAll (ancestors directory)).1) := rfl
  rw [writeClient, run_bind_of_run makes]
  rcases world.makeAll (ancestors directory) with ⟨made, cause | ⟨⟩⟩
  · rfl
  · have writes := run_writeFile path code made
    dsimp only
    cases written : made.writeFile path code with
    | error cause =>
        rw [written] at writes
        rw [run_bind_of_run writes]
        rfl
    | ok next =>
        rw [written] at writes
        rw [run_bind_of_run writes]
        rfl

/-- A client is written to its file after the directory is made. -/
theorem run_writeClient {world next : World} {root : Node} {path code : String}
    (made : world.makeAll (ancestors directory) = ({ world with root }, .ok ()))
    (written : { world with root }.writeFile path code = .ok next) :
    (writeClient directory path code : StateM World _).run world =
      (.emitted, { next with events := next.events ++ [.written path] }) := by
  rw [run_writeClient_eq, made]
  dsimp only
  rw [written]

/-- What one client does to the files: its own file is all that is new, and it is told about. -/
theorem emit_writes {definition : Definition} {interface : Interface} {code : String}
    (defines : definition.interface = .ok interface)
    (isCode : generator.generate interface = some code) {world : World} {root : Node}
    (made : world.makeAll (ancestors directory) = ({ world with root }, .ok ()))
    (writable : Writable root world.here directory place (fileName generator interface.name)) :
    ∃ next, (emit generator (some directory) definition : StateM World _).run world =
        (.emitted, next) ∧
      next.here = world.here ∧ next.output = world.output ∧
      errorsIn next.events = errorsIn world.events ∧ Node.Keeps root next.root ∧
      ∀ names, next.root.view names =
        if names = place ++ [fileName generator interface.name] then some (.file (utf8Bytes code))
        else root.view names := by
  have leaf : (Node.file (utf8Bytes code)).entries = [] := rfl
  have emitted : (emit generator (some directory) definition : StateM World _).run world =
      (.emitted, { world with
        root := .put (.file (utf8Bytes code)) (place ++ [fileName generator interface.name]) root
        events := world.events ++ [.written (outputPath generator directory interface.name)] }) := by
    rw [emit_of_ok defines isCode]
    exact run_writeClient made (writeFile_of_writable writable code)
  refine ⟨_, emitted, rfl, rfl, ?_, keeps_put_of_findParent writable.found writable.free leaf,
    view_put_of_findParent writable.found writable.free leaf⟩
  simp [errorsIn, Event.level]

/-- A file that is not among the others is written first and stays. -/
theorem Holds.cons {client : String × String} {others : List (String × String)}
    {before middle after : Node}
    (fresh : ∀ other ∈ others, fileName generator client.1 ≠ fileName generator other.1)
    (changed : ∀ names, middle.view names =
      if names = place ++ [fileName generator client.1] then some (.file (utf8Bytes client.2))
      else before.view names)
    (holds : Holds generator place others middle after) :
    Holds generator place (client :: others) before after := by
  have notLater : ∀ other ∈ others,
      place ++ [fileName generator client.1] ≠ place ++ [fileName generator other.1] := by
    intro other inside same
    exact fresh other inside (List.cons.inj (List.append_cancel_left same)).1
  constructor
  · refine List.forall_mem_cons.mpr ⟨?_, holds.written⟩
    rw [holds.untouched _ notLater, changed, if_pos rfl]
  · intro names apart
    obtain ⟨apartFirst, apartOthers⟩ := List.forall_mem_cons.mp apart
    rw [holds.untouched _ apartOthers, changed, if_neg apartFirst]

theorem fileName_inj {first second : String}
    (h : fileName generator first = fileName generator second) : first = second := by
  have sameChars := congrArg String.toList h
  simp only [fileName, String.toList_append] at sameChars
  exact String.toList_inj.mp (List.append_cancel_right (List.append_cancel_right sameChars))

theorem fileName_ne_empty (generator : Generator) (interface : String) :
    fileName generator interface ≠ "" := by
  cases generator <;> simp [fileName, Generator.extension]

theorem fileName_noSlash {interface : String} (noSlash : '/' ∉ interface.toList) :
    '/' ∉ (fileName generator interface).toList := by
  cases generator <;> simp [fileName, Generator.extension, noSlash]

/-- With a directory each client is written to its file, and nothing else is written. -/
theorem emitAll_writes {definitions : List Definition} (nameable : Nameable generator definitions)
    (distinct : ((clients generator definitions).map Prod.fst).Nodup) {world : World} {root : Node}
    (made : world.makeAll (ancestors directory) = ({ world with root }, .ok ()))
    (writable : ∀ client ∈ clients generator definitions,
      Writable root world.here directory place (fileName generator client.1)) :
    ∃ after, (emitAll generator (some directory) definitions : StateM World _).run world =
        (some (failures definitions).length, after) ∧
      after.output = world.output ∧
      errorsIn after.events = errorsIn world.events ++ failures definitions ∧
      Holds generator place (clients generator definitions)
        (if clients generator definitions = [] then world.root else root) after.root := by
  -- `root` is the tree that making the directory would give, whether a client needs it yet or not
  induction definitions generalizing world root with
  | nil => exact ⟨world, rfl, rfl, (List.append_nil _).symm, by simp [clients], fun _ _ => rfl⟩
  | cons definition rest ih =>
      obtain ⟨nameableHere, nameableRest⟩ := List.forall_mem_cons.mp nameable
      cases defines : definition.interface with
      | error error =>
          rw [clients_of_error defines] at distinct writable ⊢
          rw [failures_of_error defines]
          let told : World := { world with
            events := world.events ++ [.skippedInterface definition.origin error.report] }
          have made' : told.makeAll (ancestors directory) = ({ told with root }, .ok ()) :=
            makeAll_elsewhere made rfl rfl
          obtain ⟨after, others, output, events, holds⟩ := ih nameableRest distinct made' writable
          refine ⟨after, emitAll_of_error defines others, output, ?_, holds⟩
          rw [events, errorsIn_append, List.append_assoc]
          rfl
      | ok interface =>
          obtain ⟨code, isCode⟩ := Option.isSome_iff_exists.mp (nameableHere interface defines)
          rw [clients_of_ok defines isCode] at distinct writable ⊢
          rw [failures_of_ok defines, if_neg (List.cons_ne_nil _ _)]
          obtain ⟨fresh, distinct⟩ := List.nodup_cons.mp distinct
          obtain ⟨writableHere, writableRest⟩ := List.forall_mem_cons.mp writable
          have freshFile : ∀ other ∈ clients generator rest,
              fileName generator interface.name ≠ fileName generator other.1 := by
            intro other inside same
            apply fresh
            rw [fileName_inj same]
            exact List.mem_map.mpr ⟨other, inside, rfl⟩
          obtain ⟨next, emitted, sameHere, sameOutput, sameErrors, keeps, changed⟩ :=
            emit_writes defines isCode made writableHere
          have made' : next.makeAll (ancestors directory) = (next, .ok ()) :=
            makeAll_again made sameHere keeps
          have writable' : ∀ client ∈ clients generator rest,
              Writable next.root next.here directory place (fileName generator client.1) := by
            intro client inside
            rw [sameHere]
            apply (writableRest client inside).of_keeps keeps
            rw [changed, if_neg]
            intro same
            exact freshFile client inside (List.cons.inj (List.append_cancel_left same)).1.symm
          obtain ⟨after, others, output, events, holds⟩ := ih nameableRest distinct made' writable'
          refine ⟨after, ?_, output.trans sameOutput, ?_, ?_⟩
          · rw [emitAll_of_emitted emitted, others]
          · rw [events, sameErrors]
          · rw [ite_self] at holds
            exact holds.cons freshFile changed

end Directory

/-- Clients can be written to a directory. It can be made if it is not there, and names seen from it
stand in one place then. There a file can be written for each client, and each one has a name of its
own without a slash. -/
structure Fits (generator : Generator) (clients : List (String × String)) (directory : String)
    (place : List String) (before ready : World) : Prop where
  made : before.makeAll (ancestors directory) = (ready, .ok ())
  seen : SeenFrom ready.root ready.here directory place
  writes : ∀ client ∈ clients, ∃ written,
    ready.writeFile (outputPath generator directory client.1) client.2 = .ok written
  distinct : (clients.map Prod.fst).Nodup
  noSlash : ∀ client ∈ clients, '/' ∉ client.1.toList

/-- One world differs from the other one at most in its connections and in events that tell of no
error. -/
structure Leaves (before after : World) : Prop where
  root : after.root = before.root
  here : after.here = before.here
  output : after.output = before.output
  errors : errorsIn after.events = errorsIn before.events

/-- Loading has connections and tells about the services it got definitions from. Nothing else is
changed by it. -/
theorem load_changes (input : Input) (world : World) :
    ∃ connections told, ((Definition.load input : StateM World _).run world).2 =
        { world with connections, events := world.events ++ told } ∧
      ∀ event ∈ told, ∃ vendor product version count,
        event = .connectedToService vendor product version count := by
  have unchanged : world = { world with events := world.events ++ [] } := by simp
  cases input with
  | file path =>
      have reads : (Host.readFile path : StateM World _).run world =
          (world.readFile path, world) := rfl
      unfold Definition.load
      rw [run_bind_of_run reads]
      cases world.readFile path <;> exact ⟨_, [], unchanged, nofun⟩
  | url url => exact ⟨_, [], unchanged, nofun⟩
  | service address =>
      show ∃ connections told,
        ((Definition.loadService address : StateM World _).run world).2 = _ ∧ _
      unfold Definition.loadService
      cases Address.parse? address with
      | none => exact ⟨_, [], unchanged, nofun⟩
      | some target =>
          have connects : (Host.connect target : StateM World _).run world =
              (world.connect target, world) := rfl
          dsimp only
          rw [run_bind_of_run connects]
          cases world.connect target with
          | error cause => exact ⟨_, [], unchanged, nofun⟩
          | ok connection =>
              dsimp only
              rcases (Definition.ofService address).run connection with ⟨error | told, last⟩
              · refine ⟨world.connections ++ [last], [], ?_, nofun⟩
                rw [List.append_nil]
                rfl
              · refine ⟨world.connections ++ [last], [_], rfl, fun event inside => ?_⟩
                exact ⟨_, _, _, _, List.mem_singleton.mp inside⟩

theorem load_leaves (input : Input) (world : World) :
    Leaves world ((Definition.load input : StateM World _).run world).2 := by
  obtain ⟨connections, told, changed, services⟩ := load_changes input world
  have noError : errorsIn told = [] := by
    refine List.filter_eq_nil_iff.mpr fun event inside => ?_
    obtain ⟨_, _, _, _, rfl⟩ := services event inside
    simp [Event.level]
  rw [changed]
  exact ⟨rfl, rfl, rfl, by rw [errorsIn_append, noError, List.append_nil]⟩

/-- A run tells about each definition that failed and ends with their number, or well if there is
none. -/
structure Accounts (definitions : List Definition) (before : World)
    (ended : RunOutcome × World) : Prop where
  outcome : ended.1 = if failures definitions = [] then .succeeded
    else .failed (.incomplete (failures definitions).length definitions.length)
  events : errorsIn ended.2.events = errorsIn before.events ++ failures definitions

theorem run_of_emitAll {commandLine : CommandLine} {definitions : List Definition}
    {before loaded after : World}
    (loads : (Definition.load (.parse commandLine.input) : StateM World _).run before =
      (.ok definitions, loaded))
    (emits : (emitAll commandLine.chosenGenerator commandLine.outputDir definitions :
      StateM World _).run loaded = (some (failures definitions).length, after)) :
    (run commandLine : StateM World _).run before =
      (if failures definitions = [] then .succeeded
        else .failed (.incomplete (failures definitions).length definitions.length), after) := by
  rw [run, run_bind_of_run loads]
  dsimp only
  rw [run_bind_of_run emits]
  cases failures definitions <;> rfl

/-- What a run makes of the definitions it loads, if their names can be written.

Without a directory the clients are printed in order. With a directory in which they fit, the clients
are in their files after the run, and nothing else is changed. The directory itself and those on the
way to it are new if they were missing, but they are not made if there is no client. -/
theorem run_spec {commandLine : CommandLine} {definitions : List Definition} {before : World}
    (loads : ((Definition.load (.parse commandLine.input) : StateM World _).run before).1 =
      .ok definitions)
    (nameable : Nameable commandLine.chosenGenerator definitions) :
    let generator := commandLine.chosenGenerator
    let produced := clients generator definitions
    let ended := (run commandLine : StateM World _).run before
    (commandLine.outputDir = none →
      Accounts definitions before ended ∧ ended.2.root = before.root ∧
        ended.2.output = before.output ++ String.join (produced.map Prod.snd)) ∧
    ∀ directory place ready, commandLine.outputDir = some directory →
      Fits generator produced directory place before ready →
      Accounts definitions before ended ∧ ended.2.output = before.output ∧
        Node.Grows before.root ready.root ∧
        (SeenFrom before.root before.here directory place → ready.root = before.root) ∧
        Holds generator place produced (if produced = [] then before.root else ready.root)
          ended.2.root := by
  intro generator produced ended
  obtain ⟨sameRoot, sameHere, sameOutput, sameErrors⟩ :=
    load_leaves (.parse commandLine.input) before
  generalize isLoaded : ((Definition.load (.parse commandLine.input) : StateM World _).run before) =
    result at *
  obtain ⟨outcome, loaded⟩ := result
  obtain rfl : outcome = .ok definitions := loads
  constructor
  · intro isPrinted
    have emits := emitAll_prints nameable loaded
    rw [← isPrinted] at emits
    have isEnded : ended = _ := run_of_emitAll isLoaded emits
    rw [isEnded]
    refine ⟨⟨rfl, ?_⟩, sameRoot, ?_⟩
    · show errorsIn (loaded.events ++ failures definitions) = _
      rw [errorsIn_append, sameErrors, errorsIn_failures]
    · exact congrArg (· ++ _) sameOutput
  · rintro directory place ready isWritten ⟨made, seen, writes, distinct, noSlash⟩
    obtain ⟨root, rfl, grows, -⟩ := makeAll_grows made
    have made' : loaded.makeAll (ancestors directory) = ({ loaded with root }, .ok ()) :=
      makeAll_elsewhere made sameRoot sameHere
    have writable : ∀ client ∈ produced,
        Writable root loaded.here directory place (fileName generator client.1) := by
      intro client inside
      obtain ⟨written, h⟩ := writes client inside
      rw [sameHere]
      exact writable_of_writeFile (fileName_ne_empty _ _)
        (fileName_noSlash (noSlash client inside)) seen h
    obtain ⟨after, emits, output, events, holds⟩ := emitAll_writes nameable distinct made' writable
    rw [← isWritten] at emits
    have isEnded : ended = _ := run_of_emitAll isLoaded emits
    rw [isEnded]
    refine ⟨⟨rfl, events.trans (congrArg (· ++ _) sameErrors)⟩, output.trans sameOutput, grows,
      ?_, ?_⟩
    · intro there
      have again := made.symm.trans (makeAll_ancestors_of_seenFrom there)
      exact congrArg World.root (Prod.mk.inj again).1
    · rwa [sameRoot] at holds

/-- A service with two interfaces, of which the second has a reply that is no JSON. The client for
the first one is all that is new in the directory. -/
theorem run_spec_of_service :
    let info := "[\x7b\"vendor\":\"\",\"product\":\"\",\"version\":\"\",\"url\":\"\"," ++
      "\"interfaces\":[\"a\",\"b\"]\x7d]\x00"
    let replies := utf8Bytes (info ++ "[\x7b\"description\":\"interface a\"\x7d]\x00x\x00")
    let before := World.ofTree (.directory [("s", .socket replies), ("out", .directory [])]) []
    let commandLine : CommandLine := ⟨"unix:/s", some .typescript, some "/out"⟩
    let ended := (run commandLine : StateM World _).run before
    let code := Outline.toTypeScript (Interface.outline ⟨"a", [], [], []⟩)
    ended.1 = .failed (.incomplete 1 2) ∧
      (∃ report, errorsIn ended.2.events = [.skippedInterface "unix:/s (b)" report]) ∧
      ended.2.root.view ["out", "a.ts"] = some (.file (utf8Bytes code)) ∧
      ended.2.root.view ["out", "b.ts"] = none := by
  intro info replies before commandLine ended code
  -- what the service tells
  have isAddress : Address.parse? "unix:/s" = some (.unix "/s") := by decide +kernel
  have found : before.find "/s" = .ok (.socket replies) :=
    find_eq_ok.mpr ⟨[], ["s"], by decide +kernel, by decide +kernel, rfl⟩
  have connects := connect_unix (by decide +kernel) (by decide +kernel) found
  have cut : [] ∉ [replies] := by decide +kernel
  have told : Connection.outcome? ServiceInfo.read (messages [replies].flatten)[0]? =
      .ok ⟨"", "", "", "", ["a", "b"]⟩ :=
    ok_of_toOption (by decide +kernel)
  have described : Connection.outcome? Service.readDescription (messages [replies].flatten)[1]? =
      .ok "interface a" :=
    ok_of_toOption (by decide +kernel)
  obtain ⟨error, failed⟩ : ∃ error,
      Connection.outcome? Service.readDescription (messages [replies].flatten)[2]? =
        .error error :=
    error_of_toOption (by decide +kernel)
  obtain ⟨last, -, loaded⟩ := Definition.load_service_of_ok isAddress connects
    (Connection.delivers_delivering cut) told
  -- the definitions and their clients
  let first : Definition := ⟨"unix:/s (a)", .ok "interface a"⟩
  let second : Definition := ⟨"unix:/s (b)", .error (.serviceFailed "unix:/s" error)⟩
  have loads : ((Definition.load (.parse commandLine.input) : StateM World _).run before).1 =
      .ok [first, second] := by
    have isService : Input.parse commandLine.input = .service "unix:/s" := by decide +kernel
    rw [isService, loaded]
    simp only [List.mapIdx_cons, List.mapIdx_nil, Definition.ofReply?, described, failed]
    rfl
  have defines : first.interface = .ok ⟨"a", [], [], []⟩ := by
    have parsed : (Interface.parse "interface a").outcome = .ok ⟨"a", [], [], []⟩ := by
      cbv
    exact mapError_eq_ok.mpr parsed
  have nameable : Nameable commandLine.chosenGenerator [first, second] := fun _ _ _ _ => rfl
  have isClients : clients commandLine.chosenGenerator [first, second] = [("a", code)] := by
    rw [clients_of_ok defines rfl, clients_of_error rfl]
    rfl
  let report := (RunError.serviceFailed "unix:/s" error).report
  have isFailures : failures [first, second] = [.skippedInterface "unix:/s (b)" report] := by
    rw [failures_of_ok defines, failures_of_error rfl]
    rfl
  -- the directory and the file in it
  have seen : SeenFrom before.root before.here "/out" ["out"] :=
    ⟨[], by decide +kernel, by decide +kernel⟩
  have writes : before.writeFile (outputPath commandLine.chosenGenerator "/out" "a") code =
      .ok { before with root := .put (.file (utf8Bytes code)) ["out", "a.ts"] before.root } := by
    have free : before.root.view ["out", "a.ts"] = none := rfl
    refine writeFile_eq_ok.mpr ⟨["out"], "a.ts", by decide +kernel, ?_, rfl⟩
    rw [List.singleton_append, free]
    simp
  have fits : Fits commandLine.chosenGenerator (clients commandLine.chosenGenerator [first, second])
      "/out" ["out"] before before := by
    rw [isClients]
    exact {
      made := makeAll_ancestors_of_seenFrom seen
      seen := seen
      writes := List.forall_mem_singleton.mpr ⟨_, writes⟩
      distinct := by simp
      noSlash := List.forall_mem_singleton.mpr (by decide) }
  obtain ⟨accounts, -, -, -, holds⟩ := (run_spec loads nameable).2 "/out" ["out"] before rfl fits
  rw [isClients] at holds
  refine ⟨accounts.outcome.trans ?_, ⟨report, accounts.events.trans ?_⟩, ?_, ?_⟩
  · rw [isFailures]
    rfl
  · rw [isFailures]
    rfl
  · exact holds.written ("a", code) (List.mem_singleton_self _)
  · exact holds.untouched ["out", "b.ts"] (List.forall_mem_singleton.mpr (by decide))

end Run

end Varlink
