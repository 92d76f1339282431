import Varlink.Binary64

/-!
# JSON values

Numbers are integers where they were written as such and fit into 64 bits, and doubles otherwise.
The members of an object are sorted by their keys and each key occurs once; `insert` keeps this, and
`ofMembers` builds an object from members in any order, of which the last with a key counts.
-/

namespace Varlink

/-- A number: an integer of at most 64 bits, signed or unsigned, or a double. -/
inductive JsonNumber where
  | integer (value : Int)
  | double (value : Binary64)
  deriving DecidableEq, Repr

/-- A JSON value. -/
inductive Json where
  | null
  | bool (value : Bool)
  | number (value : JsonNumber)
  | string (value : String)
  | array (items : List Json)
  | object (members : List (String × Json))
  deriving Repr

namespace Json

/-- An integer as a value. -/
def ofInt (value : Int) : Json := .number (.integer value)

/-- Puts a member in its place among sorted ones, over a member with the same key. -/
def insert (key : String) (value : Json) : List (String × Json) → List (String × Json)
  | [] => [(key, value)]
  | (other, old) :: rest =>
    if key < other then (key, value) :: (other, old) :: rest
    else if key = other then (key, value) :: rest
    else (other, old) :: insert key value rest

/-- The object with the given members, later ones over earlier ones. -/
def ofMembers (members : List (String × Json)) : Json :=
  .object (members.foldl (fun sorted member => insert member.1 member.2 sorted) [])

/-- The empty object. -/
def empty : Json := .object []

/-- The member of an object with a key. -/
def member? (key : String) : Json → Option Json
  | .object members => members.lookup key
  | _ => none

end Json

end Varlink
