import Varlink.Json.Error

/-!
# Records from JSON values

A record has a name and fields, each of which holds a text or a list of texts. As a value it is an
object with a member for each field, where other members do not matter, or an array with exactly the
fields in their order. Of several reasons why a value is no such record, those inside the members
come first, in the order of the object, and absent fields after them, in the order of the record.
-/

namespace Varlink

/-- What a field of a record holds. -/
inductive FieldKind where
  | text
  | texts
  deriving DecidableEq, Repr

/-- The values of a field. -/
abbrev FieldKind.Value : FieldKind → Type
  | text => String
  | texts => List String

/-- The fields of a record, in order. -/
abbrev RecordFields : Type := List (String × FieldKind)

/-- The values of the fields of a record, in order. -/
abbrev RecordFields.Values : RecordFields → Type
  | [] => Unit
  | (_, kind) :: rest => kind.Value × Values rest

/-- The form of a record. -/
structure RecordForm where
  name : String
  fields : RecordFields
  deriving DecidableEq, Repr

namespace Json

/-- The mismatch of a value that is not of the expected kind. -/
def unexpected (json : Json) (expected : String) : JsonMismatch :=
  .invalidType json.describe expected

/-- The text a value holds. -/
def readText : Json → Except JsonMismatch String
  | .string text => .ok text
  | other => .error (other.unexpected "a string")

/-- The texts a value holds. -/
def readTexts : Json → Except JsonMismatch (List String)
  | .array items => items.mapM readText
  | other => .error (other.unexpected "a sequence")

/-- The number of elements of a tuple, in words. -/
def elementCount (count : Nat) : String :=
  if count = 1 then "1 element" else toString count ++ " elements"

end Json

/-- The value of a field of that kind. -/
def FieldKind.read : (kind : FieldKind) → Json → Except JsonMismatch kind.Value
  | text => Json.readText
  | texts => Json.readTexts

namespace RecordFields

/-- Fails at the first member that is a field with a value that does not fit. -/
def check (fields : RecordFields) : List (String × Json) → Except JsonMismatch Unit
  | [] => .ok ()
  | (key, value) :: rest =>
    match fields.lookup key with
    | none => check fields rest
    | some kind =>
      match kind.read value with
      | .error mismatch => .error mismatch
      | .ok _ => check fields rest

/-- The values of the fields among the members of an object. -/
def ofMembers (members : List (String × Json)) :
    (fields : RecordFields) → Except JsonMismatch fields.Values
  | [] => .ok ()
  | (name, kind) :: rest =>
    match members.lookup name with
    | none => .error (.missingField name)
    | some value => do
      let value ← kind.read value
      let values ← ofMembers members rest
      return (value, values)

/-- The values of the fields from the items of an array, with the items left over; `read` is the
number of fields read before. -/
def ofItems (expected : String) (read : Nat) :
    (fields : RecordFields) → List Json → Except JsonMismatch (fields.Values × List Json)
  | [], items => .ok ((), items)
  | _ :: _, [] => .error (.invalidLength read expected)
  | (_, kind) :: rest, item :: items => do
    let value ← kind.read item
    let (values, left) ← ofItems expected (read + 1) rest items
    return ((value, values), left)

end RecordFields

namespace RecordForm

/-- The record as mismatches describe it. -/
def describe (form : RecordForm) : String := "struct " ++ form.name

/-- The record as mismatches of length describe it. -/
def describeLength (form : RecordForm) : String :=
  form.describe ++ " with " ++ Json.elementCount form.fields.length

/-- The values of a record's fields in a value. -/
def read (form : RecordForm) : Json → Except JsonMismatch form.fields.Values
  | .object members => do
    form.fields.check members
    RecordFields.ofMembers members form.fields
  | .array items => do
    let (values, left) ← RecordFields.ofItems form.describeLength 0 form.fields items
    if left.isEmpty then return values
    else .error (.invalidLength items.length "fewer elements in array")
  | other => .error (other.unexpected form.describe)

end RecordForm

/-- The record without fields. -/
def RecordForm.empty : RecordForm := ⟨"Empty", []⟩

end Varlink
