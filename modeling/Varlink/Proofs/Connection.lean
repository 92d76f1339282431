import Mathlib.Data.List.Basic
import Varlink.Connection

/-!
# Which reply a call gets

A connection reads ahead, so after a call it holds the beginning of replies that belong to later
calls. What counts is what has not been taken: the bytes that were read together with those still to
be read. Taking a message takes the first one of them, wherever the reads end, and nothing else.
A call takes one message before it looks at it, unless its parameters cannot be written: then it is
over before anything is sent or taken. So after any calls the stream has lost as many messages as
requests were sent, and the next call that can be sent gets the message after those.
-/

namespace Varlink

/-- A message is found before more bytes arrive if it is complete, and goes on in them otherwise. -/
theorem nextMessage?_append (before after : List UInt8) :
    nextMessage? (before ++ after) = match nextMessage? before with
      | some (message, rest) => some (message, rest ++ after)
      | none => (nextMessage? after).map fun (message, rest) => (before ++ message, rest) := by
  induction before with
  | nil => simp [nextMessage?]
  | cons byte before ih =>
      rw [List.cons_append, nextMessage?, nextMessage?]
      by_cases isEnd : byte = 0
      · rw [if_pos isEnd, if_pos isEnd]
      · rw [if_neg isEnd, if_neg isEnd, ih]
        cases nextMessage? before with
        | none =>
            rw [Option.map_map]
            rfl
        | some found => rfl

/-- The first message of a stream is what stands before its first NUL. -/
theorem nextMessage?_eq_some_iff {stream message rest : List UInt8} :
    nextMessage? stream = some (message, rest) ↔ stream = message ++ 0 :: rest ∧ 0 ∉ message := by
  induction stream generalizing message with
  | nil => simp [nextMessage?]
  | cons byte stream ih =>
      rw [nextMessage?]
      by_cases isEnd : byte = 0
      · subst isEnd
        rw [if_pos rfl, Option.some.injEq, Prod.mk.injEq]
        constructor
        · rintro ⟨rfl, rfl⟩
          exact ⟨rfl, List.not_mem_nil⟩
        · rintro ⟨same, free⟩
          cases message with
          | nil => exact ⟨rfl, (List.cons.inj same).2⟩
          | cons first message =>
              exact absurd ((List.cons.inj same).1 ▸ List.mem_cons_self) free
      · rw [if_neg isEnd, Option.map_eq_some_iff]
        constructor
        · rintro ⟨⟨message, rest⟩, found, same⟩
          obtain ⟨rfl, rfl⟩ := Prod.mk.inj same
          obtain ⟨rfl, free⟩ := ih.mp found
          exact ⟨rfl, fun inside => (List.mem_cons.mp inside).elim (isEnd ∘ Eq.symm) free⟩
        · rintro ⟨same, free⟩
          cases message with
          | nil => exact absurd (List.cons.inj same).1 isEnd
          | cons first message =>
              obtain ⟨rfl, later⟩ := List.cons.inj same
              exact ⟨(message, rest), ih.mpr ⟨later, mt (List.mem_cons_of_mem _) free⟩, rfl⟩

section Messages

theorem messages_of_none {stream : List UInt8} (h : nextMessage? stream = none) :
    messages stream = [] := by
  rw [messages]
  split
  · rfl
  · rename_i found
    cases h.symm.trans found

theorem messages_of_some {stream message rest : List UInt8}
    (h : nextMessage? stream = some (message, rest)) :
    messages stream = message :: messages rest := by
  rw [messages]
  split
  · rename_i found
    cases h.symm.trans found
  · rename_i found
    obtain ⟨rfl, rfl⟩ := Prod.mk.inj (Option.some.inj (found.symm.trans h))
    rfl

theorem messages_cons_zero (stream : List UInt8) :
    messages (0 :: stream) = [] :: messages stream :=
  messages_of_some rfl

theorem messages_cons_of_ne {byte : UInt8} (h : byte ≠ 0) (stream : List UInt8) :
    messages (byte :: stream) = (messages stream).modifyHead (byte :: ·) := by
  have step : nextMessage? (byte :: stream) =
      (nextMessage? stream).map fun (message, rest) => (byte :: message, rest) := by
    rw [nextMessage?, if_neg h]
  cases found : nextMessage? stream with
  | none =>
      rw [found] at step
      rw [messages_of_none step, messages_of_none found]
      rfl
  | some next =>
      rw [found] at step
      rw [messages_of_some step, messages_of_some found]
      rfl

theorem dropLast_modifyHead {α : Type} (f : α → α) (items : List α) :
    (items.modifyHead f).dropLast = items.dropLast.modifyHead f := by
  match items with
  | [] => rfl
  | [_] => rfl
  | _ :: _ :: _ => rfl

/-- The messages of a stream are its pieces between NULs, without what no NUL follows. -/
theorem messages_eq_splitOn (stream : List UInt8) :
    messages stream = (stream.splitOn 0).dropLast := by
  induction stream with
  | nil => exact messages_of_none rfl
  | cons byte stream ih =>
      rw [List.splitOn, List.splitOnP_cons_eq_if_modifyHead]
      by_cases isEnd : byte = 0
      · subst isEnd
        rw [messages_cons_zero, ih, if_pos (beq_self_eq_true _),
          List.dropLast_cons_of_ne_nil (List.splitOnP_ne_nil _ _)]
        rfl
      · rw [messages_cons_of_ne isEnd, ih, if_neg (by simpa using isEnd), dropLast_modifyHead]
        rfl

end Messages

/-- Taking a message from what was read and what is still to be read takes it from both put
together, and at the end of the stream nothing is left. -/
theorem takeMessage_spec (buffered : List UInt8) {reads : List (List UInt8)} (cut : [] ∉ reads) :
    let taken := takeMessage buffered reads
    let left := taken.buffered ++ taken.reads.flatten
    [] ∉ taken.reads ∧ match nextMessage? (buffered ++ reads.flatten) with
      | some (message, rest) => taken.message = some message ∧ left = rest
      | none => taken.message = none ∧ left = [] := by
  induction reads generalizing buffered with
  | nil =>
      rw [takeMessage.eq_def, List.flatten_nil, List.append_nil]
      cases nextMessage? buffered with
      | none => simp
      | some found => simp
  | cons read reads ih =>
      rw [takeMessage.eq_def, List.flatten_cons, nextMessage?_append]
      cases nextMessage? buffered with
      | some found => exact ⟨cut, rfl, rfl⟩
      | none =>
          obtain ⟨notEmpty, laterCut⟩ := not_or.mp (mt List.mem_cons.mpr cut)
          cases read with
          | nil => exact absurd rfl notEmpty
          | cons byte read =>
              have further := ih (byte :: read) laterCut
              simp only at further ⊢
              refine ⟨further.1, ?_⟩
              cases found : nextMessage? (byte :: read ++ reads.flatten) with
              | none =>
                  rw [found] at further
                  exact ⟨by rw [further.2.1]; rfl, further.2.2⟩
              | some next =>
                  rw [found] at further
                  exact ⟨by rw [further.2.1]; rfl, further.2.2⟩

/-- What is done after something else is done on the connection that is left, unless that failed. -/
theorem Exchange.run_bind {α β : Type} (first : Exchange α) (next : α → Exchange β)
    (connection : Connection) : (first >>= next).run.run connection =
      match first.run.run connection with
      | (.ok value, connection) => (next value).run.run connection
      | (.error error, connection) => (.error error, connection) := by
  rw [ExceptT.run_bind, StateT.run_bind]
  show (match first.run.run connection with | (outcome, connection) => _) = _
  rcases first.run.run connection with ⟨_ | _, _⟩ <;> rfl

namespace Connection

/-- A call: what is asked for, and how the parameters of the reply are read. -/
structure Call where
  Result : Type
  method : String
  parameters : CallParameters
  decode : Json → Except JsonMismatch Result

/-- The calls whose parameters can be written. -/
def sending (calls : List Call) : List Call := calls.filter fun call => call.parameters.isOk

/-- What becomes of a call on a connection, and the connection after it. -/
def perform (call : Call) (connection : Connection) :
    Except CallError call.Result × Connection :=
  (Connection.call call.method call.parameters call.decode).run.run connection

/-- The connection after some calls, whatever became of them. -/
def afterCalls (connection : Connection) (calls : List Call) : Connection :=
  calls.foldl (fun connection call => (perform call connection).2) connection

/-- What becomes of a call, given its reply, if there is one. -/
def outcome? {α : Type} (decode : Json → Except JsonMismatch α) :
    (message? : Option (List UInt8)) → Except CallError α
  | some message => outcome decode message
  | none => .error .connectionClosed

/-- The bytes of messages one after the other, each with the NUL that ends it. -/
def written (messages : List (List UInt8)) : List UInt8 :=
  messages.flatMap fun message => message ++ [0]

theorem written_append (first second : List (List UInt8)) :
    written (first ++ second) = written first ++ written second :=
  List.flatMap_append

/-- What a service has yet to say on a connection that takes what is sent: no read comes to nothing
before the end, and the bytes not taken are those of `stream`. -/
structure Delivers (connection : Connection) (stream : List UInt8) : Prop where
  listening : connection.failure = none
  cut : [] ∉ connection.reads
  incoming : connection.buffered ++ connection.reads.flatten = stream

theorem delivers_delivering {reads : List (List UInt8)} (cut : [] ∉ reads) :
    (delivering reads).Delivers reads.flatten :=
  ⟨rfl, cut, rfl⟩

/-- A reply is never taken for the end of the stream. -/
theorem outcome_ne_closed {α : Type} (decode : Json → Except JsonMismatch α)
    (message : List UInt8) : outcome decode message ≠ .error .connectionClosed := by
  rw [outcome]
  cases Reply.parse message with
  | error error => simp
  | ok reply =>
      obtain ⟨parameters, error⟩ := reply
      cases error with
      | some error => simp
      | none => cases h : decode (parameters.getD Json.empty) <;> simp [h, Except.mapError]

theorem run_send (message buffered : List UInt8) (reads : List (List UInt8)) (sent : List UInt8) :
    (send message).run.run ⟨buffered, reads, sent, none⟩ =
      (.ok (), ⟨buffered, reads, sent ++ message ++ [0], none⟩) := rfl

theorem run_receive (connection : Connection) :
    let taken := takeMessage connection.buffered connection.reads
    receive.run.run connection = (taken.message.elim (.error .connectionClosed) .ok,
      { connection with buffered := taken.buffered, reads := taken.reads }) := by
  have step : receive.run.run connection =
      (match (takeMessage connection.buffered connection.reads).message with
        | some message => pure message
        | none => throw CallError.connectionClosed : Exchange (List UInt8)).run.run _ := rfl
  intro taken
  rw [step]
  cases (takeMessage connection.buffered connection.reads).message <;> rfl

theorem run_ofExcept {α : Type} (result : Except CallError α) (connection : Connection) :
    (MonadExcept.ofExcept result : Exchange α).run.run connection = (result, connection) := by
  cases result <;> rfl

/-- A call whose parameters cannot be written fails, and leaves the connection as it is. -/
theorem perform_of_error (call : Call) {cause : JsonError} (refused : call.parameters = .error cause)
    (connection : Connection) :
    perform call connection = (.error (.malformedMessage cause), connection) := by
  obtain ⟨Result, method, parameters, decode⟩ := call
  obtain rfl : parameters = .error cause := refused
  rw [perform, Connection.call, Exchange.run_bind, run_ofExcept]
  rfl

/-- One call on a connection that takes what is sent. -/
theorem perform_eq (call : Call) {parameters : Json} (written : call.parameters = .ok parameters)
    {connection : Connection} (listening : connection.failure = none) :
    let taken := takeMessage connection.buffered connection.reads
    perform call connection = (outcome? call.decode taken.message,
      { buffered := taken.buffered
        reads := taken.reads
        sent := connection.sent ++ request call.method parameters ++ [0]
        failure := none }) := by
  obtain ⟨Result, method, given, decode⟩ := call
  obtain rfl : given = .ok parameters := written
  obtain ⟨buffered, reads, sent, failure⟩ := connection
  obtain rfl : failure = none := listening
  simp only [perform, Connection.call, Exchange.run_bind, run_ofExcept, Except.mapError, run_send,
    run_receive]
  cases (takeMessage buffered reads).message <;> rfl

/-- A call that is sent gets the first message and leaves the others. -/
theorem perform_spec (call : Call) {parameters : Json} (written : call.parameters = .ok parameters)
    {connection : Connection} {stream : List UInt8} (h : connection.Delivers stream) :
    (perform call connection).1 = outcome? call.decode (messages stream).head? ∧
      ∃ rest, (perform call connection).2.Delivers rest ∧
        messages rest = (messages stream).tail := by
  have taken := takeMessage_spec connection.buffered h.cut
  simp only [h.incoming] at taken
  rw [perform_eq call written h.listening]
  cases found : nextMessage? stream with
  | none =>
      rw [found] at taken
      obtain ⟨cut, none, left⟩ := taken
      rw [messages_of_none found]
      exact ⟨by rw [none]; rfl, [], ⟨rfl, cut, left⟩, messages_of_none rfl⟩
  | some next =>
      rw [found] at taken
      obtain ⟨cut, some, left⟩ := taken
      rw [messages_of_some found]
      exact ⟨by rw [some]; rfl, next.2, ⟨rfl, cut, left⟩, rfl⟩

theorem sending_cons_of_error {call : Call} {cause : JsonError}
    (refused : call.parameters = .error cause) (calls : List Call) :
    sending (call :: calls) = sending calls :=
  List.filter_cons_of_neg (by rw [refused]; exact Bool.noConfusion)

theorem sending_cons_of_ok {call : Call} {parameters : Json}
    (written : call.parameters = .ok parameters) (calls : List Call) :
    sending (call :: calls) = call :: sending calls :=
  List.filter_cons_of_pos (by rw [written]; rfl)

/-- After some calls as many messages are gone as calls were sent. -/
theorem delivers_afterCalls (calls : List Call) {connection : Connection} {stream : List UInt8}
    (h : connection.Delivers stream) : ∃ rest, (connection.afterCalls calls).Delivers rest ∧
      messages rest = (messages stream).drop (sending calls).length := by
  induction calls generalizing connection stream with
  | nil => exact ⟨stream, h, rfl⟩
  | cons call calls ih =>
      cases given : call.parameters with
      | error cause =>
          rw [afterCalls, List.foldl_cons, ← afterCalls, perform_of_error call given,
            sending_cons_of_error given]
          exact ih h
      | ok parameters =>
          obtain ⟨rest, delivers, tail⟩ := (perform_spec call given h).2
          obtain ⟨last, delivers, dropped⟩ := ih delivers
          refine ⟨last, delivers, ?_⟩
          rw [dropped, tail, List.drop_tail, sending_cons_of_ok given, List.length_cons]

/-- A call gets the piece of the stream that has the number of the calls sent before it, whatever
these were and however the stream is cut into reads. When there is no such piece the connection is
closed, and only then, so it is closed for every later call that is sent, too. A call whose parameters
cannot be written fails for this reason alone, and takes nothing. -/
theorem perform_afterCalls {reads : List (List UInt8)} (cut : [] ∉ reads) (calls : List Call)
    (call : Call) :
    let pieces := (reads.flatten.splitOn 0).dropLast
    let connection := (delivering reads).afterCalls calls
    let answered := (perform call connection).1
    match call.parameters with
    | .ok _ => answered = outcome? call.decode pieces[(sending calls).length]? ∧
        (answered = .error .connectionClosed ↔ pieces.length ≤ (sending calls).length)
    | .error cause => perform call connection = (.error (.malformedMessage cause), connection) := by
  intro pieces connection answered
  cases given : call.parameters with
  | error cause => exact perform_of_error call given connection
  | ok parameters =>
      obtain ⟨rest, delivers, dropped⟩ := delivers_afterCalls calls (delivers_delivering cut)
      have isOutcome : answered = outcome? call.decode pieces[(sending calls).length]? := by
        have isFirst := (perform_spec call given delivers).1
        rwa [dropped, List.head?_drop, messages_eq_splitOn] at isFirst
      refine ⟨isOutcome, ?_⟩
      rw [isOutcome, ← List.getElem?_eq_none_iff]
      cases pieces[(sending calls).length]? with
      | none => simp [outcome?]
      | some message => simpa [outcome?] using outcome_ne_closed call.decode message

/-- The replies `[]`, `x` and `[]` in three reads, none of which ends with a reply but the last: the
malformed reply is that of the second call alone, and the fourth call finds the connection closed. A
call between them whose parameters cannot be written does not count. -/
theorem perform_afterCalls_unaligned :
    let call : Call := ⟨Json, "a.B", Json.empty, .ok⟩
    let refused : Call := ⟨Json, "a.B", .error ⟨.keyMustBeString, none⟩, .ok⟩
    let reads : List (List UInt8) := [[0x5b], [0x5d, 0, 0x78], [0, 0x5b, 0x5d, 0]]
    [] ∉ reads ∧
      (perform call ((delivering reads).afterCalls [call, refused, call])).1 = .ok Json.empty ∧
      (perform call ((delivering reads).afterCalls [call, refused, call, call])).1 =
        .error .connectionClosed := by
  intro call refused reads
  have cut : [] ∉ reads := by decide
  refine ⟨cut, ?_, ?_⟩
  · rw [(perform_afterCalls cut [call, refused, call] call).1]
    rfl
  · rw [(perform_afterCalls cut [call, refused, call, call] call).2]
    decide

/-- A call whose parameters cannot be written has an outcome that its reply does not tell, since a call
with the same result and the same reply has another one. And the call after it gets the only reply,
although it is the second one. -/
theorem reply_of_refused_call :
    let call : Call := ⟨Json, "a.B", Json.empty, .ok⟩
    let refused : Call := ⟨Json, "a.B", .error ⟨.keyMustBeString, none⟩, .ok⟩
    let reads : List (List UInt8) := [[0x5b, 0x5d, 0]]
    let pieces := (reads.flatten.splitOn 0).dropLast
    [] ∉ reads ∧ pieces = [[0x5b, 0x5d]] ∧
      (perform refused (delivering reads)).1 =
        .error (.malformedMessage ⟨.keyMustBeString, none⟩) ∧
      (perform call (delivering reads)).1 = .ok Json.empty ∧
      (perform call ((delivering reads).afterCalls [refused])).1 = .ok Json.empty ∧
      ¬ ∀ calls : List Call, (perform call ((delivering reads).afterCalls calls)).1 =
        outcome? call.decode pieces[calls.length]? := by
  intro call refused reads pieces
  have only : pieces = [[0x5b, 0x5d]] := by decide
  have taken : (perform call ((delivering reads).afterCalls [refused])).1 = .ok Json.empty := rfl
  refine ⟨by decide, only, rfl, rfl, taken, fun numbered => ?_⟩
  have second := numbered [refused]
  rw [taken, only] at second
  cases second

end Connection

end Varlink
