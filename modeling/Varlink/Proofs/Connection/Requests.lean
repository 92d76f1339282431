import Varlink.Proofs.Connection
import Varlink.Proofs.Json.RoundTrip

/-!
# What a service is sent

A call sends its request before it waits for the reply, so what is sent depends on the calls alone,
whatever becomes of them. A request is written without a zero byte. So the zeros in what was sent are
those that end the requests, and a service that cuts the stream at them finds one request for each
call with parameters that can be written, in their order, from which it reads the method and the
parameters of the call.
-/

namespace Varlink

namespace Connection

/-- The zeros that end messages are found again if there are none in the messages. -/
theorem splitOn_written {messages : List (List UInt8)} (free : ∀ message ∈ messages, 0 ∉ message) :
    (written messages).splitOn 0 = messages ++ [[]] := by
  induction messages with
  | nil => rfl
  | cons message messages ih =>
      obtain ⟨freeHere, free⟩ := List.forall_mem_cons.mp free
      have isWritten : written (message :: messages) = message ++ 0 :: written messages := by
        rw [written, List.flatMap_cons, List.append_assoc]
        rfl
      have noneHere : ∀ byte ∈ message, (byte == 0) = false := fun byte inside =>
        beq_false_of_ne fun isZero => freeHere (isZero ▸ inside)
      have splits := List.splitOnP_append_cons_of_forall_mem noneHere 0 rfl (written messages)
      rw [isWritten, List.splitOn, splits]
      exact congrArg (message :: ·) (ih free)

/-- The request of a call, if its parameters can be written. -/
def request? (call : Call) : Option (List UInt8) :=
  call.parameters.toOption.map (request call.method)

theorem request?_of_error {call : Call} {cause : JsonError}
    (refused : call.parameters = .error cause) : request? call = none := by
  rw [request?, refused]
  rfl

theorem request?_of_ok {call : Call} {parameters : Json}
    (written : call.parameters = .ok parameters) :
    request? call = some (request call.method parameters) := by
  rw [request?, written]
  rfl

/-- Calls on a connection that takes what is sent send their requests one after the other. -/
theorem sent_afterCalls {connection : Connection} (listening : connection.failure = none)
    (calls : List Call) : (connection.afterCalls calls).sent =
      connection.sent ++ written (calls.filterMap request?) := by
  induction calls generalizing connection with
  | nil => exact (List.append_nil _).symm
  | cons call calls ih =>
      rw [afterCalls, List.foldl_cons, ← afterCalls]
      cases given : call.parameters with
      | error cause =>
          rw [perform_of_error call given, List.filterMap_cons_none (request?_of_error given)]
          exact ih listening
      | ok parameters =>
          have step := perform_eq call given listening
          have goesOn : (perform call connection).2.failure = none := by
            rw [step]
          rw [ih goesOn, step, List.filterMap_cons_some (request?_of_ok given), written, written,
            List.flatMap_cons]
          simp only [List.append_assoc]

section Request

variable (method : String) {parameters : Json} (integral : parameters.Integral)
include integral

theorem integral_request :
    (Json.object [("method", .string method), ("parameters", parameters)]).Integral := by
  refine .object fun member inside => ?_
  rcases List.mem_pair.mp inside with rfl | rfl
  · exact .string method
  · exact integral

/-- A request has no zero in it. -/
theorem zero_not_mem_request : 0 ∉ request method parameters :=
  fun inside => Json.ne_zero_of_mem_encode (integral_request method integral) inside rfl

/-- A request is read as the object that it was made from. -/
theorem parseWithin_request {levels : Nat} (shallow : parameters.depth < levels) :
    Json.parseWithin levels (request method parameters) =
      .ok (.object [("method", .string method), ("parameters", parameters.normalize)]) := by
  have isDepth : (Json.object [("method", .string method), ("parameters", parameters)]).depth =
      parameters.depth + 1 := by
    simp [Json.depth, Json.membersDepth]
  have inOrder : "method" < "parameters" := by decide +kernel
  have sorted : ([("method", Json.string method), ("parameters", parameters.normalize)].map
      Prod.fst).Pairwise (· < ·) :=
    List.pairwise_pair.mpr inOrder
  rw [request, Json.parseWithin_encode (integral_request method integral) (isDepth ▸ shallow)]
  exact congrArg Except.ok (Json.ofMembers_of_sorted sorted)

end Request

/-- A service that cuts what it was sent at the zeros finds one request for each of the questions, in
their order, and no rest. It reads each of them as the object with the method and the parameters of its
question. -/
def Asks (sent : List UInt8) (questions : List (String × Json)) : Prop :=
  ∃ requests, sent.splitOn 0 = requests ++ [[]] ∧
    List.Forall₂ (fun (question : String × Json) message => Json.parse message =
      .ok (.object [("method", .string question.1), ("parameters", question.2)])) questions requests

theorem asks_written {questions : List (String × Json)}
    (integral : ∀ question ∈ questions, question.2.Integral)
    (ordered : ∀ question ∈ questions, question.2.Ordered)
    (shallow : ∀ question ∈ questions, question.2.depth < Json.maxLevels) :
    Asks (written (questions.map fun question => request question.1 question.2)) questions := by
  refine ⟨_, splitOn_written fun message inside => ?_, ?_⟩
  · obtain ⟨question, isQuestion, rfl⟩ := List.mem_map.mp inside
    exact zero_not_mem_request question.1 (integral question isQuestion)
  · refine List.forall₂_map_right_iff.mpr (List.forall₂_same.mpr fun question inside => ?_)
    have read := parseWithin_request question.1 (integral question inside) (shallow question inside)
    rw [Json.parse, read, Json.normalize_of_ordered (ordered question inside)]

/-- Whatever is replied, a service that cuts what it was sent at the zeros finds one request for each
call, in their order, and no rest. Each of them is read as the object with the method and the
parameters of its call. -/
theorem splitOn_sent_afterCalls {connection : Connection} (listening : connection.failure = none)
    (nothing : connection.sent = []) {calls : List Call}
    (integral : ∀ call ∈ calls, ∃ parameters : Json, call.parameters = .ok parameters ∧
      parameters.Integral) :
    ∃ requests, (connection.afterCalls calls).sent.splitOn 0 = requests ++ [[]] ∧
      List.Forall₂ (fun (call : Call) message => ∃ parameters : Json,
        call.parameters = .ok parameters ∧ ∀ levels, parameters.depth < levels →
          Json.parseWithin levels message =
            .ok (.object [("method", .string call.method), ("parameters", parameters.normalize)]) ∧
          (parameters.Ordered → Json.parseWithin levels message =
            .ok (.object [("method", .string call.method), ("parameters", parameters)])))
        calls requests := by
  have related : List.Forall₂ (fun call message => ∃ parameters : Json,
      call.parameters = .ok parameters ∧ parameters.Integral ∧
        request call.method parameters = message) calls (calls.filterMap request?) := by
    induction calls with
    | nil => exact .nil
    | cons call calls ih =>
        obtain ⟨⟨parameters, given, isIntegral⟩, others⟩ := List.forall_mem_cons.mp integral
        rw [List.filterMap_cons_some (request?_of_ok given)]
        exact .cons ⟨parameters, given, isIntegral, rfl⟩ (ih others)
  refine ⟨calls.filterMap request?, ?_, related.imp fun call message isRequest => ?_⟩
  · rw [sent_afterCalls listening, nothing, List.nil_append]
    refine splitOn_written fun message inside => ?_
    obtain ⟨call, isCall, isRequest⟩ := List.mem_filterMap.mp inside
    obtain ⟨parameters, given, isIntegral⟩ := integral call isCall
    obtain rfl := Option.some.inj ((request?_of_ok given).symm.trans isRequest)
    exact zero_not_mem_request call.method isIntegral
  · obtain ⟨parameters, given, isIntegral, rfl⟩ := isRequest
    refine ⟨parameters, given, fun levels shallow => ?_⟩
    have read := parseWithin_request call.method isIntegral shallow
    refine ⟨read, fun ordered => ?_⟩
    rw [read, Json.normalize_of_ordered ordered]

/-- Two calls on a connection that is closed after an empty reply, the first one with a text that has a
zero in it: the service reads both. -/
theorem splitOn_sent_afterCalls_of_closed :
    let parameters : Json := .object [("x", .array [.string "\x00\"\\é", .ofInt (-1)])]
    let calls : List Call := [⟨Json, "a.B", parameters, .ok⟩, ⟨Json, "a.C", Json.empty, .ok⟩]
    ∃ first second, ((delivering [[0]]).afterCalls calls).sent.splitOn 0 = [first, second, []] ∧
      Json.parse first = .ok (.object [("method", .string "a.B"), ("parameters", parameters)]) ∧
      Json.parse second = .ok (.object [("method", .string "a.C"), ("parameters", Json.empty)]) := by
  intro parameters calls
  have text : (Json.string "\x00\"\\é").Integral ∧ (Json.string "\x00\"\\é").Ordered :=
    ⟨.string _, .string _⟩
  have integer : (Json.ofInt (-1)).Integral ∧ (Json.ofInt (-1)).Ordered :=
    ⟨.integer (by decide) (by decide), .number _⟩
  have integral : parameters.Integral := by
    refine .object (List.forall_mem_singleton.mpr (.array ?_))
    exact List.forall_mem_cons.mpr ⟨text.1, List.forall_mem_singleton.mpr integer.1⟩
  have ordered : parameters.Ordered := by
    refine .object (List.pairwise_singleton _ _) (List.forall_mem_singleton.mpr (.array ?_))
    exact List.forall_mem_cons.mpr ⟨text.2, List.forall_mem_singleton.mpr integer.2⟩
  obtain ⟨requests, splits, read⟩ := @splitOn_sent_afterCalls (delivering [[0]]) rfl rfl
    [⟨Json, "a.B", parameters, .ok⟩, ⟨Json, "a.C", Json.empty, .ok⟩]
    (List.forall_mem_cons.mpr ⟨⟨parameters, rfl, integral⟩,
      List.forall_mem_singleton.mpr ⟨Json.empty, rfl, .object nofun⟩⟩)
  cases read with
  | @cons _ first _ requests isFirst read =>
      cases read with
      | @cons _ second _ requests isSecond read =>
          cases read with
          | nil =>
              obtain ⟨_, ⟨⟩, readFirst⟩ := isFirst
              obtain ⟨_, ⟨⟩, readSecond⟩ := isSecond
              refine ⟨first, second, splits, (readFirst Json.maxLevels (by decide)).2 ordered, ?_⟩
              exact (readSecond Json.maxLevels (by decide)).2 (.object .nil nofun)

end Connection

end Varlink
