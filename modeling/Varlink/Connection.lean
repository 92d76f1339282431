import Varlink.Connection.Error
import Varlink.Reply

/-!
# Connections

Messages in both directions are JSON texts, each followed by a NUL. The bytes of a service come read by
read, and a read need not end where a message does: what is read past the end of a message is kept for
the next one. A call sends one message and takes one, and it takes the whole message whatever becomes
of it, so no call can disturb the reply of another. Only a call whose parameters cannot be written does
neither.
-/

namespace Varlink

/-- The first message of a stream and what follows it, if the message is complete. -/
def nextMessage? : List UInt8 → Option (List UInt8 × List UInt8)
  | [] => none
  | byte :: rest =>
    if byte = 0 then some ([], rest)
    else (nextMessage? rest).map fun (message, rest) => (byte :: message, rest)

theorem nextMessage?_length {stream message rest : List UInt8}
    (h : nextMessage? stream = some (message, rest)) : rest.length < stream.length := by
  induction stream generalizing message with
  | nil => simp [nextMessage?] at h
  | cons byte stream ih =>
    unfold nextMessage? at h
    split at h
    · simp only [Option.some.injEq, Prod.mk.injEq] at h
      simp [h.2]
    · obtain ⟨⟨message, after⟩, found, eq⟩ := Option.map_eq_some_iff.1 h
      obtain ⟨_, rfl⟩ := Prod.mk.injEq .. ▸ eq
      exact Nat.lt_trans (ih found) (by simp)

/-- The complete messages of a stream. -/
def messages (stream : List UInt8) : List (List UInt8) :=
  match next : nextMessage? stream with
  | none => []
  | some (message, rest) =>
    have := nextMessage?_length next
    message :: messages rest
termination_by stream.length

/-- What is left of a stream after a message was taken from it. -/
structure Taken where
  /-- The message, unless the stream ended before it did. -/
  message : Option (List UInt8)
  /-- The bytes that were read and not taken. -/
  buffered : List UInt8
  /-- What is still to be read, read by read. -/
  reads : List (List UInt8)
  deriving DecidableEq, Repr

/-- Takes the next message, reading on as long as its end is not among the bytes that were read. A read
that delivers nothing says that the stream has ended; the bytes before it are lost. -/
def takeMessage (buffered : List UInt8) (reads : List (List UInt8)) : Taken :=
  match nextMessage? buffered with
  | some (message, rest) => ⟨some message, rest, reads⟩
  | none =>
    match reads with
    | [] => ⟨none, [], []⟩
    | [] :: reads => ⟨none, [], reads⟩
    | (byte :: read) :: reads =>
      let taken := takeMessage (byte :: read) reads
      ⟨taken.message.map (buffered ++ ·), taken.buffered, taken.reads⟩

/-- A connection to a service. -/
structure Connection where
  /-- The bytes that were read and not taken. -/
  buffered : List UInt8
  /-- What the service will still deliver, read by read. -/
  reads : List (List UInt8)
  /-- The bytes sent so far. -/
  sent : List UInt8
  /-- What every attempt to send ends in, if the service does not listen. -/
  failure : Option SystemError
  deriving Repr

/-- What is done on a connection and may fail. A failure leaves the connection as it was when it
occurred. -/
abbrev Exchange (α : Type) : Type := ExceptT CallError (StateM Connection) α

/-- What a call is given as its parameters: the value that they are written as, or why they cannot be
written. -/
abbrev CallParameters : Type := Except JsonError Json

instance : Coe Json CallParameters := ⟨.ok⟩

namespace Connection

/-- A connection over which a service will deliver the given bytes, read by read. -/
def delivering (reads : List (List UInt8)) : Connection := ⟨[], reads, [], none⟩

/-- Sends a message. -/
def send (message : List UInt8) : Exchange Unit := do
  let connection ← get
  match connection.failure with
  | some cause => throw (.connectionFailed cause)
  | none => set { connection with sent := connection.sent ++ message ++ [0] }

/-- Takes the next message. An incomplete message at the end of the stream is lost. -/
def receive : Exchange (List UInt8) := do
  let connection ← get
  let taken := takeMessage connection.buffered connection.reads
  set { connection with buffered := taken.buffered, reads := taken.reads }
  match taken.message with
  | some message => return message
  | none => throw .connectionClosed

/-- The message that calls a method. -/
def request (method : String) (parameters : Json) : List UInt8 :=
  (Json.object [("method", .string method), ("parameters", parameters)]).encode

/-- The outcome of a call, given the message that came back. -/
def outcome {α : Type} (decode : Json → Except JsonMismatch α) (message : List UInt8) :
    Except CallError α :=
  match Reply.parse message with
  | .error error => .error (.malformedMessage error)
  | .ok reply =>
    let parameters := reply.parameters.getD Json.empty
    match reply.error with
    | some error => .error (.callFailed error parameters)
    | none => (decode parameters).mapError fun mismatch => .malformedMessage (.ofMismatch mismatch)

/-- Calls a method and decodes the parameters of its reply. The request is written in full before any
of it is sent. -/
def call {α : Type} (method : String) (parameters : CallParameters)
    (decode : Json → Except JsonMismatch α) : Exchange α := do
  let parameters ← MonadExcept.ofExcept (parameters.mapError .malformedMessage)
  send (request method parameters)
  let message ← receive
  MonadExcept.ofExcept (outcome decode message)

end Connection

end Varlink
