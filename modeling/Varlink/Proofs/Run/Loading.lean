import Mathlib.Data.List.Basic
import Varlink.Proofs.Connection.Requests
import Varlink.Proofs.World.Files
import Varlink.Run.Definition

/-!
# Which replies become which definitions

A service is asked about itself first and then for one definition after the other, over one
connection. Nothing but its place tells which question a reply belongs to. Every question takes one
reply from the stream, whether it can be used or not, so before the question for an interface the
stream has lost one reply for itself and one for each interface before this one. That is what the
induction over the interfaces carries: the replies left are those that belong to the interfaces
left. So a reply that is of no use, or not there, spoils the definition it belongs to and no other.
-/

namespace Varlink

namespace Connection

/-- A call sends its request and takes the first reply, and nothing else. -/
theorem run_call {α : Type} (method : String) (parameters : Json)
    (decode : Json → Except JsonMismatch α) {connection : Connection} {stream : List UInt8}
    (h : connection.Delivers stream) :
    ∃ next rest, (call method parameters decode).run.run connection =
        (outcome? decode (messages stream).head?, next) ∧
      next.Delivers rest ∧ messages rest = (messages stream).tail ∧
      next.sent = connection.sent ++ written [request method parameters] := by
  obtain ⟨answered, rest, delivers, tail⟩ := perform_spec ⟨α, method, parameters, decode⟩ rfl h
  refine ⟨_, rest, Prod.ext answered rfl, delivers, tail, ?_⟩
  show (perform ⟨α, method, parameters, decode⟩ connection).2.sent = _
  rw [perform_eq _ rfl h.listening]
  simp [written]

end Connection

namespace Service

open Connection

/-- The request by which a service is asked about itself. -/
def infoRequest : List UInt8 := request (qualified "GetInfo") Json.empty

/-- The request for the definition of an interface. -/
def descriptionRequest (interface : String) : List UInt8 :=
  request (qualified "GetInterfaceDescription") (.object [("interface", .string interface)])

/-- What a service is asked about itself, as it reads it. -/
def infoQuestion : String × Json := ("org.varlink.service.GetInfo", .object [])

/-- What a service is asked for the definition of an interface, as it reads it. -/
def descriptionQuestion (interface : String) : String × Json :=
  ("org.varlink.service.GetInterfaceDescription", .object [("interface", .string interface)])

theorem infoRequest_eq : infoRequest = request infoQuestion.1 infoQuestion.2 := by
  have isName : qualified "GetInfo" = infoQuestion.1 := by decide +kernel
  rw [infoRequest, isName]
  rfl

theorem descriptionRequest_eq (interface : String) : descriptionRequest interface =
    request (descriptionQuestion interface).1 (descriptionQuestion interface).2 := by
  have isName : qualified "GetInterfaceDescription" = (descriptionQuestion interface).1 := by
    show qualified "GetInterfaceDescription" = "org.varlink.service.GetInterfaceDescription"
    decide +kernel
  rw [descriptionRequest, isName]
  rfl

/-- The requests are read as the questions that they were made from, whatever the interfaces are
called. -/
theorem asks_requests (interfaces : List String) :
    Asks (written (infoRequest :: interfaces.map descriptionRequest))
      (infoQuestion :: interfaces.map descriptionQuestion) := by
  have requests : infoRequest :: interfaces.map descriptionRequest =
      (infoQuestion :: interfaces.map descriptionQuestion).map fun question =>
        request question.1 question.2 := by
    rw [List.map_cons, List.map_map, infoRequest_eq]
    exact congrArg (_ :: ·) (List.map_congr_left fun interface _ => descriptionRequest_eq interface)
  rw [requests]
  apply asks_written
  · refine List.forall_mem_cons.mpr ⟨.object nofun, List.forall_mem_map.mpr fun interface _ => ?_⟩
    exact .object (List.forall_mem_singleton.mpr (.string interface))
  · refine List.forall_mem_cons.mpr
      ⟨.object .nil nofun, List.forall_mem_map.mpr fun interface _ => ?_⟩
    exact .object (List.pairwise_singleton _ _) (List.forall_mem_singleton.mpr (.string interface))
  · refine List.forall_mem_cons.mpr ⟨by decide, List.forall_mem_map.mpr fun interface _ => ?_⟩
    have isDepth : (descriptionQuestion interface).2.depth = 1 := rfl
    rw [isDepth]
    decide

end Service

namespace Definition

open Connection

/-- The definition of an interface, given the reply to the question for it, if there is one. -/
def ofReply? (address interface : String) (reply? : Option (List UInt8)) : Definition :=
  ⟨address ++ " (" ++ interface ++ ")",
    (outcome? Service.readDescription reply?).mapError (.serviceFailed address)⟩

/-- Asking for a definition takes one reply, whatever it is good for. -/
theorem run_ofInterface (address interface : String) {connection : Connection}
    {stream : List UInt8} (h : connection.Delivers stream) :
    ∃ next rest, (ofInterface address interface).run connection =
        (ofReply? address interface (messages stream).head?, next) ∧
      next.Delivers rest ∧ messages rest = (messages stream).tail ∧
      next.sent = connection.sent ++ written [Service.descriptionRequest interface] := by
  obtain ⟨next, rest, answered, delivers, tail, sent⟩ :=
    run_call (Service.qualified "GetInterfaceDescription")
      (.object [("interface", .string interface)]) Service.readDescription h
  refine ⟨next, rest, ?_, delivers, tail, sent⟩
  have asked : (Service.description interface).run.run connection = _ := answered
  unfold ofInterface
  rw [run_bind_of_run asked]
  rfl

/-- The interfaces get the replies left in their order. -/
theorem run_mapM_ofInterface (address : String) (interfaces : List String)
    {connection : Connection} {stream : List UInt8} (h : connection.Delivers stream) :
    ∃ next, (interfaces.mapM (ofInterface address)).run connection =
        (interfaces.mapIdx fun k interface =>
          ofReply? address interface (messages stream)[k]?, next) ∧
      next.sent = connection.sent ++ written (interfaces.map Service.descriptionRequest) := by
  induction interfaces generalizing connection stream with
  | nil => exact ⟨connection, rfl, (List.append_nil _).symm⟩
  | cons interface interfaces ih =>
      obtain ⟨next, rest, first, delivers, tail, sent⟩ := run_ofInterface address interface h
      obtain ⟨last, others, sent'⟩ := ih delivers
      refine ⟨last, ?_, ?_⟩
      · rw [tail] at others
        simp only [List.getElem?_tail] at others
        rw [List.mapM_cons, run_bind_of_run first, run_bind_of_run others, List.mapIdx_cons,
          List.head?_eq_getElem?]
        rfl
      · rw [sent', sent, List.map_cons, List.append_assoc, ← written_append, List.singleton_append]

/-- What becomes of a service that tells nothing about itself. -/
theorem run_ofService_of_error (address : String) {connection : Connection}
    {stream : List UInt8} (h : connection.Delivers stream) {error : CallError}
    (failed : outcome? ServiceInfo.read (messages stream).head? = .error error) :
    ∃ next, (ofService address).run connection = (.error (.serviceFailed address error), next) ∧
      next.sent = connection.sent ++ written [Service.infoRequest] := by
  obtain ⟨next, rest, answered, -, -, sent⟩ :=
    run_call (Service.qualified "GetInfo") Json.empty ServiceInfo.read h
  rw [failed] at answered
  have asked : Service.info.run.run connection = _ := answered
  refine ⟨next, ?_, sent⟩
  unfold ofService
  rw [run_bind_of_run asked]
  rfl

theorem run_ofService_of_ok (address : String) {connection : Connection}
    {stream : List UInt8} (h : connection.Delivers stream) {info : ServiceInfo}
    (told : outcome? ServiceInfo.read (messages stream).head? = .ok info) :
    ∃ last, (ofService address).run connection =
        (.ok (info, info.interfaces.mapIdx fun k interface =>
          ofReply? address interface (messages stream)[k + 1]?), last) ∧
      last.sent = connection.sent ++
        written (Service.infoRequest :: info.interfaces.map Service.descriptionRequest) := by
  obtain ⟨next, rest, answered, delivers, tail, sent⟩ :=
    run_call (Service.qualified "GetInfo") Json.empty ServiceInfo.read h
  rw [told] at answered
  have asked : Service.info.run.run connection = _ := answered
  obtain ⟨last, others, sent'⟩ := run_mapM_ofInterface address info.interfaces delivers
  rw [tail] at others
  simp only [List.getElem?_tail] at others
  refine ⟨last, ?_, ?_⟩
  · unfold ofService
    rw [run_bind_of_run asked, run_bind_of_run others]
    rfl
  · rw [sent', sent, List.append_assoc, ← written_append, List.singleton_append]
    rfl

section Load

variable {σ : Type} [Host (StateM σ)]

variable {address : String} {target : Address} {connection : Connection} {stream : List UInt8}
  {before connected : σ}

/-- What is done with a service once it is connected. -/
theorem run_loadService (isAddress : Address.parse? address = some target)
    (connects : (Host.connect target : StateM σ _).run before = (.ok connection, connected))
    {loaded : Except RunError (ServiceInfo × List Definition)} {last : Connection}
    (asked : (ofService address).run connection = (loaded, last)) :
    (load (.service address) : StateM σ _).run before = (do
      Host.disconnect last
      match loaded with
      | .error error => return .error error
      | .ok (info, definitions) => do
        Host.record
          (.connectedToService info.vendor info.product info.version info.interfaces.length)
        return .ok definitions : StateM σ _).run connected := by
  show (loadService address : StateM σ _).run before = _
  unfold loadService
  rw [isAddress]
  dsimp only
  rw [run_bind_of_run connects]
  dsimp only
  generalize (ofService address).run connection = answer at asked ⊢
  subst asked
  rfl

/-- Without a word about itself a service has no definitions. -/
theorem load_service_of_error (isAddress : Address.parse? address = some target)
    (connects : (Host.connect target : StateM σ _).run before = (.ok connection, connected))
    (delivers : connection.Delivers stream) {error : CallError}
    (failed : outcome? ServiceInfo.read (messages stream)[0]? = .error error) :
    ∃ last : Connection, last.sent = connection.sent ++ written [Service.infoRequest] ∧
      (load (.service address) : StateM σ _).run before =
        (.error (.serviceFailed address error),
          ((Host.disconnect last : StateM σ _).run connected).2) := by
  rw [← List.head?_eq_getElem?] at failed
  obtain ⟨last, asked, sent⟩ := run_ofService_of_error address delivers failed
  exact ⟨last, sent, run_loadService isAddress connects asked⟩

/-- A service that tells about itself has one definition for each of its interfaces. -/
theorem load_service_of_ok (isAddress : Address.parse? address = some target)
    (connects : (Host.connect target : StateM σ _).run before = (.ok connection, connected))
    (delivers : connection.Delivers stream) {info : ServiceInfo}
    (told : outcome? ServiceInfo.read (messages stream)[0]? = .ok info) :
    ∃ last : Connection,
      last.sent = connection.sent ++ written (Service.infoRequest ::
        info.interfaces.map Service.descriptionRequest) ∧
      (load (.service address) : StateM σ _).run before =
        (.ok (info.interfaces.mapIdx fun k interface =>
          ofReply? address interface (messages stream)[k + 1]?),
          ((do
            Host.disconnect last
            Host.record (.connectedToService info.vendor info.product info.version
              info.interfaces.length) : StateM σ _).run connected).2) := by
  rw [← List.head?_eq_getElem?] at told
  obtain ⟨last, asked, sent⟩ := run_ofService_of_ok address delivers told
  exact ⟨last, sent, run_loadService isAddress connects asked⟩

/-- Loading a service fails if it tells nothing about itself, and only then. Otherwise there is one
definition for each of its interfaces, in their order, after one question for each of them in this
order, which the service reads with the name of the interface in it. The definition of an interface
depends on the one reply that has its place among the replies and on no other: it holds the description
in this reply or the reason why there is none. However the service cuts its bytes, these are the
replies between the NULs. -/
theorem load_service {reads : List (List UInt8)}
    (isAddress : Address.parse? address = some target)
    (connects : (Host.connect target : StateM σ _).run before =
      (.ok (.delivering reads), connected))
    (cut : [] ∉ reads) :
    let replies := (reads.flatten.splitOn 0).dropLast
    let told := (Service.info.run.run (Connection.delivering reads)).1
    let loaded := (load (.service address) : StateM σ _).run before
    told = outcome? ServiceInfo.read replies[0]? ∧
    ((∃ error, loaded.1 = .error error) ↔ ∃ error, told = .error error) ∧
    match told with
    | .error error => ∃ last : Connection, Asks last.sent [Service.infoQuestion] ∧
        loaded = (.error (.serviceFailed address error),
          ((Host.disconnect last : StateM σ _).run connected).2)
    | .ok info => ∃ last : Connection,
        Asks last.sent (Service.infoQuestion ::
          info.interfaces.map Service.descriptionQuestion) ∧
        loaded = (.ok (info.interfaces.mapIdx fun k interface =>
          ⟨address ++ " (" ++ interface ++ ")",
            (outcome? Service.readDescription replies[k + 1]?).mapError (.serviceFailed address)⟩),
          ((do
            Host.disconnect last
            Host.record (.connectedToService info.vendor info.product info.version
              info.interfaces.length) : StateM σ _).run connected).2) := by
  intro replies told loaded
  have delivers := delivers_delivering cut
  have same : replies = messages reads.flatten := (messages_eq_splitOn _).symm
  have isTold : told = outcome? ServiceInfo.read replies[0]? := by
    obtain ⟨next, rest, answered, -⟩ :=
      run_call (Service.qualified "GetInfo") Json.empty ServiceInfo.read delivers
    rw [same, ← List.head?_eq_getElem?]
    exact congrArg Prod.fst answered
  refine ⟨isTold, ?_⟩
  rw [same] at isTold ⊢
  cases answered : told with
  | error error =>
      obtain ⟨last, sent, run⟩ :=
        load_service_of_error isAddress connects delivers (isTold.symm.trans answered)
      have asks : Asks last.sent [Service.infoQuestion] := by
        rw [sent]
        exact Service.asks_requests []
      exact ⟨⟨fun _ => ⟨error, rfl⟩, fun _ => ⟨_, congrArg Prod.fst run⟩⟩, last, asks, run⟩
  | ok info =>
      obtain ⟨last, sent, run⟩ :=
        load_service_of_ok isAddress connects delivers (isTold.symm.trans answered)
      have asks : Asks last.sent (Service.infoQuestion ::
          info.interfaces.map Service.descriptionQuestion) := by
        rw [sent]
        exact Service.asks_requests info.interfaces
      refine ⟨⟨?_, ?_⟩, last, asks, run⟩
      · rintro ⟨error, failed⟩
        cases failed.symm.trans (congrArg Prod.fst run)
      · rintro ⟨error, failed⟩
        cases failed

end Load

/-- The definitions that a service at a socket has. -/
theorem load_socket {world : World} {address path : String} {replies : List UInt8}
    {info : ServiceInfo} (isAddress : Address.parse? address = some (.unix path))
    (noNul : '\x00' ∉ path.toList) (short : path.utf8ByteSize ≤ World.maxSocketPath)
    (found : world.find path = .ok (.socket replies)) (speaks : replies ≠ [])
    (told : outcome? ServiceInfo.read (messages replies)[0]? = .ok info) :
    ((load (.service address) : StateM World _).run world).1 =
      .ok (info.interfaces.mapIdx fun k interface =>
        ofReply? address interface (messages replies)[k + 1]?) := by
  have cut : [] ∉ [replies] := by simpa using speaks.symm
  have delivers := delivers_delivering cut
  rw [List.flatten_singleton] at delivers
  obtain ⟨last, -, loaded⟩ := load_service_of_ok isAddress
    (World.connect_unix noNul short found) delivers told
  rw [loaded]

/-- Two interfaces of which the first has a reply that is no JSON: the second is asked for and has its
description all the same. -/
theorem load_service_with_malformed_reply :
    let info := "[\x7b\"vendor\":\"\",\"product\":\"\",\"version\":\"\",\"url\":\"\"," ++
      "\"interfaces\":[\"a\",\"b\"]\x7d]\x00"
    let replies := utf8Bytes (info ++ "x\x00[\x7b\"description\":\"interface b\"\x7d]\x00")
    let world := World.ofTree (.directory [("s", .socket replies)]) []
    let loaded := (load (.service "unix:/s") : StateM World _).run world
    (Host.connect (.unix "/s") : StateM World _).run world = (.ok (.delivering [replies]), world) ∧
      (∃ error, loaded.1 =
        .ok [⟨"unix:/s (a)", .error error⟩, ⟨"unix:/s (b)", .ok "interface b"⟩]) ∧
      ∃ connection, loaded.2.connections = [connection] ∧ Asks connection.sent
        [("org.varlink.service.GetInfo", .object []),
          ("org.varlink.service.GetInterfaceDescription", .object [("interface", .string "a")]),
          ("org.varlink.service.GetInterfaceDescription", .object [("interface", .string "b")])] := by
  intro info replies world loaded
  have isAddress : Address.parse? "unix:/s" = some (.unix "/s") := by decide +kernel
  have found : world.find "/s" = .ok (.socket replies) :=
    Path.find_eq_ok.mpr ⟨[], ["s"], by decide +kernel, by decide +kernel, rfl⟩
  have connects : (Host.connect (.unix "/s") : StateM World _).run world =
      (.ok (.delivering [replies]), world) :=
    World.connect_unix (by decide +kernel) (by decide +kernel) found
  have cut : [] ∉ [replies] := by decide +kernel
  obtain ⟨isTold, -, h⟩ := load_service isAddress connects cut
  have told : outcome? ServiceInfo.read ([replies].flatten.splitOn 0).dropLast[0]? =
      .ok ⟨"", "", "", "", ["a", "b"]⟩ :=
    ok_of_toOption (by decide +kernel)
  obtain ⟨error, failed⟩ : ∃ error,
      outcome? Service.readDescription ([replies].flatten.splitOn 0).dropLast[1]? = .error error :=
    error_of_toOption (by decide +kernel)
  have described : outcome? Service.readDescription ([replies].flatten.splitOn 0).dropLast[2]? =
      .ok "interface b" :=
    ok_of_toOption (by decide +kernel)
  rw [isTold, told] at h
  obtain ⟨last, asks, run⟩ := h
  have run : loaded = _ := run
  refine ⟨connects, ⟨.serviceFailed "unix:/s" error, ?_⟩, last, ?_, asks⟩
  · rw [run]
    simp only [List.mapIdx_cons, List.mapIdx_nil, failed, described]
    rfl
  · rw [run]
    rfl

end Definition

end Varlink
