import Varlink.Graph
import Varlink.Interface.Numbering
import Varlink.Interface.Error
import Varlink.Event
import Varlink.Logged

/-!
# Naming inline types

Structs and enums that are written in place become declarations of their own, named after the way
that leads to them. They are discovered by a walk through the members, depth first and in order,
that enters a declared type where it is first referred to and each declared type once. A name may
be given only once: the walk fails at the first name that is taken.

The walk is split in two. The stops of a type, the groups in place and the references it meets, follow
from the type alone. The order of discovery comes from running through the stops of all declared
types and signatures and putting those of a declared type in place of the first reference to it.
-/

namespace Varlink

/-- A struct or enum with its name and number. -/
structure Declaration where
  name : String
  number : Nat
  body : Group
  deriving DecidableEq, Repr

/-- What the walk meets. -/
inductive Stop where
  /-- A group written in place. -/
  | found (declaration : Declaration)
  /-- A reference to a declared type. -/
  | enter (index : Nat)
  deriving DecidableEq, Repr

namespace TypeExpr

mutual

/-- The stops of a type whose numbers start at `first`, a group before what is inside it. -/
def stops (path : String) (first : Nat) : LinkedType → List Stop
  | .reference index => [.enter index]
  | .builtin _ => []
  | .modified _ inner => stops path first inner
  | .struct fields =>
    .found ⟨path, first + fieldsNumberCount fields, .struct fields⟩ ::
      fieldStops path first fields
  | .enum members => [.found ⟨path, first, .enum members⟩]

/-- The stops of fields. -/
def fieldStops (path : String) (first : Nat) : Fields → List Stop
  | [] => []
  | (name, type) :: rest =>
    stops (memberPath path name) first type ++ fieldStops path (first + numberCount type) rest

end

end TypeExpr

/-- The stops of a signature. One without fields is no declaration, and a declared type has been
entered before. -/
def Signature.stops (path : String) (first : Nat) : Signature → List Stop
  | inline [] => []
  | inline fields => TypeExpr.stops path first (.struct fields)
  | declared _ => []

namespace Stop

/-- Runs through the pending stops, entering each of the unseen declared types once. -/
def walk (stopsOf : Nat → List Stop) :
    (pending : List Stop) → (unseen : List Nat) → List Declaration
  | [], _ => []
  | found declaration :: pending, unseen => declaration :: walk stopsOf pending unseen
  | enter index :: pending, unseen =>
    if index ∈ unseen then walk stopsOf (stopsOf index ++ pending) (unseen.erase index)
    else walk stopsOf pending unseen
termination_by pending unseen => (unseen.length, pending.length)
decreasing_by
  · exact Prod.Lex.right _ (Nat.lt_succ_self _)
  · rename_i seen
    exact Prod.Lex.left _ _ (Graph.length_erase_lt seen)
  · exact Prod.Lex.right _ (Nat.lt_succ_self _)

end Stop

namespace Interface

/-- The stops inside a declared type. -/
def typedefStops (interface : Interface) (index : Nat) : List Stop :=
  match interface.numberedTypedefs[index]? with
  | some (first, typedef) => TypeExpr.fieldStops typedef.name first typedef.body.fields
  | none => []

/-- The structs and enums written in place, in the order of discovery. -/
def discovered (interface : Interface) : List Declaration :=
  let indices := List.range interface.typedefs.length
  Stop.walk interface.typedefStops
    (indices.map Stop.enter ++
      interface.numberedSignatures.flatMap fun (first, path, signature) =>
        signature.stops path first)
    indices

/-- The declared types as declarations. -/
def declared (interface : Interface) : List Declaration :=
  interface.typedefs.mapIdx fun index typedef =>
    ⟨typedef.name, typedefNumber index, typedef.body⟩

/-- All declarations: the declared types in their order, then those written in place in the order
of discovery. -/
def declarations (interface : Interface) : List Declaration :=
  interface.declared ++ interface.discovered

/-- The declaration of that name. -/
def declaration? (interface : Interface) (name : String) : Option Declaration :=
  interface.declarations.find? fun declaration => declaration.name = name

end Interface

/-- Gives the declarations their names, failing at the first name that is taken. -/
def giveNames (taken : List String) : List Declaration → Logged Event ResolveError Unit
  | [] => pure ()
  | declaration :: rest =>
    if declaration.name ∈ taken then .fail (.nameCollision declaration.name)
    else do
      Logged.note (.synthesizedName declaration.name)
      giveNames (declaration.name :: taken) rest

end Varlink
