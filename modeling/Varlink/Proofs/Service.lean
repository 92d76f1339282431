import Varlink.Proofs.Connection
import Varlink.Proofs.Reply
import Varlink.Service

/-!
# Typed errors

A call that is sent fails with an error of the service exactly if the next message on its connection is
a reply that names one, whatever result was asked for. The error has a typed form exactly if it has the
name of one of the typed errors and its parameters are a record with the text of this error: a record is
an object with the text at its field, or an array of the text alone. Whatever else becomes of a call has
no typed form.
-/

namespace Varlink

namespace Json

/-- The value is a record with a text as its only field. -/
inductive HoldsText (field text : String) : Json → Prop
  | object {members : List (String × Json)} (found : members.lookup field = some (.string text)) :
      HoldsText field text (.object members)
  | array : HoldsText field text (.array [.string text])

theorem readText_eq_ok {json : Json} {text : String} :
    json.readText = .ok text ↔ json = .string text := by
  cases json <;> simp [readText]

/-- A member is found by its key if no other member has it. -/
theorem lookup_of_mem {members : List (String × Json)} (once : (members.map Prod.fst).Nodup)
    {member : String × Json} (inside : member ∈ members) :
    members.lookup member.1 = some member.2 := by
  induction members with
  | nil => cases inside
  | cons other members ih =>
      obtain ⟨fresh, once⟩ := List.nodup_cons.mp once
      rcases List.mem_cons.mp inside with rfl | inside
      · exact List.lookup_cons_self
      · have differ := ne_of_mem_of_not_mem (List.mem_map_of_mem inside) fresh
        rw [List.lookup_cons, beq_false_of_ne differ]
        exact ih once inside

end Json

/-- The members of an object fit a record if each of them that is a field does. -/
theorem RecordFields.check_eq_ok {fields : RecordFields} {members : List (String × Json)} :
    fields.check members = .ok () ↔ ∀ member ∈ members, ∀ kind,
      fields.lookup member.1 = some kind → ∃ value, kind.read member.2 = .ok value := by
  induction members with
  | nil => exact ⟨fun _ => nofun, fun _ => rfl⟩
  | cons member members ih =>
      rw [List.forall_mem_cons, ← ih, check]
      cases fields.lookup member.1 with
      | none => simp
      | some kind => cases read : kind.read member.2 <;> simp [read]

namespace Service

variable {name field text : String}

/-- An object is a record with one text if the text stands at its field. Its other members do not
matter, and there is no second one with the key of the field. -/
theorem read_textForm_object {members : List (String × Json)}
    (once : (members.map Prod.fst).Nodup) :
    (textForm name field).read (.object members) = .ok (text, ()) ↔
      members.lookup field = some (.string text) := by
  have values : RecordFields.ofMembers members [(field, .text)] = .ok (text, ()) ↔
      members.lookup field = some (.string text) := by
    rw [RecordFields.ofMembers]
    cases members.lookup field with
    | none => simp
    | some value =>
        constructor
        · intro read
          obtain ⟨_, isText, ⟨⟩⟩ := bind_eq_ok.mp read
          exact congrArg some (Json.readText_eq_ok.mp isText)
        · rintro ⟨⟩
          rfl
  refine bind_eq_ok.trans ⟨fun ⟨_, _, read⟩ => values.mp read, fun found => ?_⟩
  refine ⟨(), RecordFields.check_eq_ok.mpr fun member inside kind isField => ?_, values.mpr found⟩
  by_cases isKey : member.1 = field
  · -- no other member has the key, so this is the member whose text has been found
    subst isKey
    obtain rfl : FieldKind.text = kind := Option.some.inj (List.lookup_cons_self.symm.trans isField)
    have isValue := (Json.lookup_of_mem once inside).symm.trans found
    exact ⟨text, Json.readText_eq_ok.mpr (Option.some.inj isValue)⟩
  · have other : (textForm name field).fields.lookup member.1 = none := by
      rw [textForm, List.lookup_cons, beq_false_of_ne isKey]
      rfl
    cases other.symm.trans isField

/-- An array is a record with one text if it holds the text and nothing else. -/
theorem read_textForm_array {items : List Json} :
    (textForm name field).read (.array items) = .ok (text, ()) ↔ items = [.string text] := by
  constructor
  · intro read
    obtain ⟨⟨values, left⟩, isRead, isEnd⟩ := bind_eq_ok.mp read
    cases items with
    | nil => cases isRead
    | cons item items =>
        obtain ⟨_, isText, ⟨⟩⟩ := bind_eq_ok.mp isRead
        dsimp only at isEnd
        split_ifs at isEnd with isEmpty
        obtain ⟨⟩ := isEnd
        rw [Json.readText_eq_ok.mp isText, List.isEmpty_iff.mp isEmpty]
  · rintro rfl
    rfl

/-- A record with one text is read from the values that hold the text, and from no others. -/
theorem readTextRecord_eq_ok {json : Json} (ordered : json.Ordered) :
    readTextRecord name field json = .ok text ↔ json.HoldsText field text := by
  have isRead : readTextRecord name field json = .ok text ↔
      (textForm name field).read json = .ok (text, ()) := by
    refine bind_eq_ok.trans ⟨?_, fun read => ⟨_, read, rfl⟩⟩
    rintro ⟨⟨_, _⟩, read, ⟨⟩⟩
    exact read
  rw [isRead]
  cases ordered with
  | @object members sorted each =>
      rw [read_textForm_object (sorted.imp ne_of_lt)]
      exact ⟨.object, fun (.object found) => found⟩
  | @array items each =>
      rw [read_textForm_array]
      constructor
      · rintro rfl
        exact .array
      · rintro ⟨⟩
        rfl
  | null => exact ⟨nofun, nofun⟩
  | bool => exact ⟨nofun, nofun⟩
  | number => exact ⟨nofun, nofun⟩
  | string => exact ⟨nofun, nofun⟩

end Service

namespace ServiceError

/-- The typed form that the outcome of a call has, if it has one. -/
def ofOutcome? {α : Type} : Except CallError α → Option ServiceError
  | .ok _ => none
  | .error error => ofCallError? error

/-- Of the typed errors the one with the name is found. -/
theorem find?_all (typed : ServiceError) : ∃ make,
    (all.find? fun make => Service.qualified (make "").name = Service.qualified typed.name) =
      some make ∧ make typed.field.2 = typed ∧ (make "").field.1 = typed.field.1 := by
  cases typed with
  | interfaceNotFound => exact ⟨interfaceNotFound, rfl, rfl, rfl⟩
  | methodNotFound => exact ⟨methodNotFound, rfl, rfl, rfl⟩
  | methodNotImplemented => exact ⟨methodNotImplemented, rfl, rfl, rfl⟩
  | invalidParameter => exact ⟨invalidParameter, rfl, rfl, rfl⟩

/-- An error has the typed form of which it has the name and the record. -/
theorem ofReply?_eq_some_iff {error : String} {parameters : Json} {typed : ServiceError}
    (ordered : parameters.Ordered) : ofReply? error parameters = some typed ↔
      error = Service.qualified typed.name ∧
        parameters.HoldsText typed.field.1 typed.field.2 := by
  refine Option.bind_eq_some_iff.trans ⟨?_, ?_⟩
  · rintro ⟨make, isMake, read⟩
    obtain ⟨text, isText, ⟨⟩⟩ := Option.bind_eq_some_iff.mp read
    have holds := (Service.readTextRecord_eq_ok ordered).mp (ok_of_toOption isText)
    have isName := List.find?_some isMake
    rw [decide_eq_true_eq] at isName
    have isTyped := List.mem_of_find?_eq_some isMake
    simp only [all, List.mem_cons, List.not_mem_nil, or_false] at isTyped
    rcases isTyped with rfl | rfl | rfl | rfl
    · exact ⟨isName.symm, holds⟩
    · exact ⟨isName.symm, holds⟩
    · exact ⟨isName.symm, holds⟩
    · exact ⟨isName.symm, holds⟩
  · rintro ⟨rfl, holds⟩
    obtain ⟨make, isMake, isTyped, isField⟩ := find?_all typed
    refine ⟨make, isMake, Option.bind_eq_some_iff.mpr ⟨typed.field.2, ?_, congrArg some isTyped⟩⟩
    rw [isField, (Service.readTextRecord_eq_ok ordered).mpr holds]
    rfl

end ServiceError

namespace Connection

/-- The bytes not taken on a connection that takes what is sent start with a message and the NUL that
ends it. -/
structure GetsNext (connection : Connection) (message : List UInt8) : Prop where
  free : 0 ∉ message
  delivers : ∃ rest, connection.Delivers (message ++ 0 :: rest)

variable {connection : Connection}

/-- A written value has no zero in it, so it is the whole message. -/
theorem getsNext_encode {value : Json} (integral : value.Integral) {rest : List UInt8}
    (delivers : connection.Delivers (value.encode ++ 0 :: rest)) : connection.GetsNext value.encode :=
  ⟨fun inside => Json.ne_zero_of_mem_encode integral inside rfl, rest, delivers⟩

/-- A reply that names an error fails the call with this error, whatever result was asked for, and
nothing else does. -/
theorem outcome_eq_callFailed {α : Type} {decode : Json → Except JsonMismatch α}
    {message : List UInt8} {error : String} {parameters : Json} :
    outcome decode message = .error (.callFailed error parameters) ↔
      ∃ reply, Reply.parse message = .ok reply ∧ reply.error = some error ∧
        reply.parameters.getD Json.empty = parameters := by
  rw [outcome]
  cases Reply.parse message with
  | error fault => simp
  | ok reply =>
      obtain ⟨given, named⟩ := reply
      cases named with
      | some other => simp
      | none => cases read : decode (given.getD Json.empty) <;> simp [read, Except.mapError]

variable {arguments : Json}

/-- Nothing is received on a connection that does not take what is sent. -/
theorem perform_of_failure (call : Call) (written : call.parameters = .ok arguments)
    {cause : SystemError} (fails : connection.failure = some cause) :
    (perform call connection).1 = .error (.connectionFailed cause) := by
  obtain ⟨Result, method, given, decode⟩ := call
  obtain rfl : given = .ok arguments := written
  obtain ⟨buffered, reads, sent, failure⟩ := connection
  obtain rfl : failure = some cause := fails
  rfl

theorem perform_of_getsNext (call : Call) (written : call.parameters = .ok arguments)
    {message : List UInt8} (next : connection.GetsNext message) :
    (perform call connection).1 = outcome call.decode message := by
  obtain ⟨free, rest, delivers⟩ := next
  rw [(perform_spec call written delivers).1,
    messages_of_some (nextMessage?_eq_some_iff.mpr ⟨rfl, free⟩)]
  rfl

/-- A call fails with an error of the service exactly if the next message is a reply that says so. -/
theorem perform_eq_callFailed (call : Call) (written : call.parameters = .ok arguments)
    (cut : [] ∉ connection.reads) {error : String} {parameters : Json} :
    (perform call connection).1 = .error (.callFailed error parameters) ↔
      ∃ message reply, connection.GetsNext message ∧ Reply.parse message = .ok reply ∧
        reply.error = some error ∧ reply.parameters.getD Json.empty = parameters := by
  constructor
  · intro failed
    cases listening : connection.failure with
    | some cause =>
        rw [perform_of_failure call written listening] at failed
        cases failed
    | none =>
        have delivers : connection.Delivers _ := ⟨listening, cut, rfl⟩
        cases next : nextMessage? (connection.buffered ++ connection.reads.flatten) with
        | none =>
            rw [(perform_spec call written delivers).1, messages_of_none next] at failed
            cases failed
        | some found =>
            obtain ⟨message, rest⟩ := found
            obtain ⟨incoming, free⟩ := nextMessage?_eq_some_iff.mp next
            have gets : connection.GetsNext message := ⟨free, rest, incoming ▸ delivers⟩
            rw [perform_of_getsNext call written gets] at failed
            obtain ⟨reply, parsed, named, given⟩ := outcome_eq_callFailed.mp failed
            exact ⟨message, reply, gets, parsed, named, given⟩
  · rintro ⟨message, reply, gets, said⟩
    rw [perform_of_getsNext call written gets]
    exact outcome_eq_callFailed.mpr ⟨reply, said⟩

end Connection

namespace ServiceError

open Connection

variable {connection : Connection} {arguments : Json}

/-- A call has a typed outcome exactly if it gets a reply with the name and the record of the error. -/
theorem ofOutcome?_eq_some_iff (call : Call) (written : call.parameters = .ok arguments)
    (cut : [] ∉ connection.reads) {typed : ServiceError} :
    ofOutcome? (perform call connection).1 = some typed ↔
      ∃ message reply, connection.GetsNext message ∧ Reply.parse message = .ok reply ∧
        reply.error = some (Service.qualified typed.name) ∧
        (reply.parameters.getD Json.empty).HoldsText typed.field.1 typed.field.2 := by
  constructor
  · intro isTyped
    cases result : (perform call connection).1 with
    | ok value =>
        rw [result] at isTyped
        cases isTyped
    | error failure =>
        rw [result] at isTyped
        cases failure with
        | callFailed error parameters =>
            obtain ⟨message, reply, gets, parsed, named, rfl⟩ :=
              (perform_eq_callFailed call written cut).mp result
            obtain ⟨rfl, holds⟩ :=
              (ofReply?_eq_some_iff (Reply.ordered_given_parameters parsed)).mp isTyped
            exact ⟨message, reply, gets, parsed, named, holds⟩
        | _ => cases isTyped
  · rintro ⟨message, reply, gets, parsed, named, holds⟩
    rw [(perform_eq_callFailed call written cut).mpr ⟨message, reply, gets, parsed, named, rfl⟩]
    exact (ofReply?_eq_some_iff (Reply.ordered_given_parameters parsed)).mpr ⟨rfl, holds⟩

/-- The record that a service sends with an error is the one of its typed form. -/
theorem holdsText_parameters (typed : ServiceError) :
    typed.parameters.HoldsText typed.field.1 typed.field.2 :=
  .object List.lookup_cons_self

theorem ordered_parameters (typed : ServiceError) : typed.parameters.Ordered :=
  .object (List.pairwise_singleton _ _) (List.forall_mem_singleton.mpr (.string _))

/-- The name of a typed error and its record are members that a reply can have, whatever the text is. -/
theorem fits_name (typed : ServiceError) :
    Reply.Fits ("error", .string (Service.qualified typed.name)) where
  integral := .string _
  shallow same := absurd same (show "error" ≠ "parameters" by decide)
  named _ := .inr ⟨_, rfl⟩

theorem fits_parameters (typed : ServiceError) : Reply.Fits ("parameters", typed.parameters) where
  integral := .object (List.forall_mem_singleton.mpr (.string _))
  shallow _ := by
    have shallow : typed.parameters.depth = 1 := rfl
    rw [shallow]
    decide
  named same := absurd same (show "parameters" ≠ "error" by decide)

section Written

variable {members : List (String × Json)} {rest : List UInt8} {error : String}

/-- A written reply that names an error fails the call with it and with the parameters among its
members. -/
theorem perform_of_members (call : Call) (written : call.parameters = .ok arguments)
    (cut : [] ∉ connection.reads) (fits : ∀ member ∈ members, Reply.Fits member)
    (once : (members.map Prod.fst).Nodup)
    (delivers : connection.Delivers ((Json.object members).encode ++ 0 :: rest))
    (named : members.lookup "error" = some (.string error)) :
    (perform call connection).1 = .error (.callFailed error
      (((members.lookup "parameters").bind Reply.present?).elim Json.empty Json.normalize)) :=
  (perform_eq_callFailed call written cut).mpr ⟨_, _,
    getsNext_encode (.object fun member inside => (fits member inside).integral) delivers,
    Reply.parse_encode fits once, Reply.error_ofMembers named, Reply.parameters_ofMembers members⟩

/-- A typed error among the members of a written reply comes back. -/
theorem ofOutcome?_of_members (call : Call) (written : call.parameters = .ok arguments)
    (cut : [] ∉ connection.reads) (fits : ∀ member ∈ members, Reply.Fits member)
    (once : (members.map Prod.fst).Nodup)
    (delivers : connection.Delivers ((Json.object members).encode ++ 0 :: rest))
    {typed : ServiceError}
    (named : members.lookup "error" = some (.string (Service.qualified typed.name)))
    (sent : members.lookup "parameters" = some typed.parameters) :
    ofOutcome? (perform call connection).1 = some typed := by
  have given : ((some typed.parameters).bind Reply.present?).elim Json.empty Json.normalize =
      typed.parameters := Json.normalize_of_ordered (ordered_parameters typed)
  rw [perform_of_members call written cut fits once delivers named, sent, given]
  exact (ofReply?_eq_some_iff (ordered_parameters typed)).mpr ⟨rfl, holdsText_parameters typed⟩

end Written

/-- If the next message is a reply that names an error, a call that is sent fails with this error and the
parameters of the reply, whatever its own result would have been. It has a typed form exactly if the error has the
name of the form and the parameters hold its text, and no other outcome of a call has one. From written
replies the call takes the error and the parameters wherever they stand, with the empty object for
parameters that are absent or null. So every typed error that is sent comes back, among other members
and alone. -/
theorem typed_of_perform (call : Call) (written : call.parameters = .ok arguments)
    (cut : [] ∉ connection.reads) :
    let result := (perform call connection).1
    (∀ message reply error, connection.GetsNext message → Reply.parse message = .ok reply →
      reply.error = some error →
        result = .error (.callFailed error (reply.parameters.getD Json.empty))) ∧
    (∀ typed, ofOutcome? result = some typed ↔
      ∃ message reply, connection.GetsNext message ∧ Reply.parse message = .ok reply ∧
        reply.error = some (Service.qualified typed.name) ∧
        (reply.parameters.getD Json.empty).HoldsText typed.field.1 typed.field.2) ∧
    (∀ members rest error, (∀ member ∈ members, Reply.Fits member) → (members.map Prod.fst).Nodup →
      connection.Delivers ((Json.object members).encode ++ 0 :: rest) →
      members.lookup "error" = some (.string error) →
        result = .error (.callFailed error
          (((members.lookup "parameters").bind Reply.present?).elim Json.empty Json.normalize)) ∧
        ∀ typed, error = Service.qualified typed.name →
          members.lookup "parameters" = some typed.parameters → ofOutcome? result = some typed) ∧
    ∀ (typed : ServiceError) rest, connection.Delivers ((Json.object
        [("error", .string (Service.qualified typed.name)),
          ("parameters", typed.parameters)]).encode ++ 0 :: rest) →
      ofOutcome? result = some typed := by
  refine ⟨?_, fun typed => ofOutcome?_eq_some_iff call written cut, ?_, ?_⟩
  · intro message reply error gets parsed named
    exact (perform_eq_callFailed call written cut).mpr ⟨message, reply, gets, parsed, named, rfl⟩
  · intro members rest error fits once delivers named
    refine ⟨perform_of_members call written cut fits once delivers named, ?_⟩
    rintro typed rfl sent
    exact ofOutcome?_of_members call written cut fits once delivers named sent
  · intro typed rest delivers
    have fits := List.forall_mem_cons.mpr
      ⟨fits_name typed, List.forall_mem_singleton.mpr (fits_parameters typed)⟩
    exact ofOutcome?_of_members call written cut fits (by simp) delivers rfl rfl

/-- A typed error whose text has a quote and a line break in it, sent behind another member and in two
reads to a call that asked for the description of an interface. -/
theorem typed_of_perform_description :
    let typed := methodNotFound "a\"\n"
    let members := [("continues", .array [.bool false, .ofInt (-1)]),
      ("parameters", typed.parameters), ("error", .string (Service.qualified typed.name))]
    ofOutcome? ((Service.description "a.b").run.run
      (delivering [(Json.object members).encode, [0]])).1 = some typed := by
  intro typed members
  let call : Call := ⟨String, Service.qualified "GetInterfaceDescription",
    Json.object [("interface", .string "a.b")], Service.readDescription⟩
  have cut : [] ∉ [(Json.object members).encode, [0]] := by simp [Json.encode]
  have other : Reply.Fits ("continues", .array [.bool false, .ofInt (-1)]) :=
    { integral := .array (List.forall_mem_cons.mpr ⟨.bool false,
        List.forall_mem_singleton.mpr (.integer (by decide) (by decide))⟩)
      shallow := fun same => absurd same (by decide)
      named := fun same => absurd same (by decide) }
  have fits : ∀ member ∈ members, Reply.Fits member :=
    List.forall_mem_cons.mpr ⟨other, List.forall_mem_cons.mpr ⟨fits_parameters typed,
      List.forall_mem_singleton.mpr (fits_name typed)⟩⟩
  have answered := (@typed_of_perform (delivering _) _ call rfl cut).2.2.1 members [] _ fits
    (by decide) (delivers_delivering cut) rfl
  exact answered.2 typed rfl rfl

end ServiceError

end Varlink
