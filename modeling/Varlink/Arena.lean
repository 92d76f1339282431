import Varlink.Interface.Error
import Varlink.Interface.Naming

/-!
# Arenas

The types of an interface can be kept in one list of slots and refer to each other by number. Declared
types refer to each other in any order, so a slot is reserved before it is filled, and a type is
changed where it lies when it gets its name. What reads such a list takes things for granted: that a
number has a slot, that the slot is filled, that what it holds is of the kind that is looked for.

Here nothing is taken for granted. Every such expectation is checked and has an end of its own, and a
computation that goes around in the slots forever has no end at all, so that it can be said of a
computation that all it expects is met.
-/

namespace Varlink

/-- What is expected of an arena. -/
inductive Expectation where
  /-- A number is that of a slot. -/
  | inRange
  /-- A slot that is read is filled. -/
  | present
  /-- The number of a new slot fits into 32 bits. -/
  | numbered
  /-- No slot is left reserved in the end. -/
  | filled
  /-- A declared type has a name. -/
  | typedefNamed
  /-- A struct or enum that is referred to has a name. -/
  | declarationNamed
  /-- A member of a struct has a type. -/
  | memberTyped
  /-- What is registered is a struct or an enum. -/
  | declaration
  deriving DecidableEq, Repr

/-- Why a computation ends early. -/
inductive Halt where
  | unmet (expectation : Expectation)
  | error (error : ResolveError)
  deriving DecidableEq, Repr

/-- A computation on an arena, which need not end. -/
abbrev Work (α : Type) : Type := ExceptT Halt Option α

namespace Work

/-- A computation that ends, with all expectations met. -/
def settled {α : Type} (result : Except ResolveError α) : Work α :=
  .mk (some (result.mapError .error))

end Work

/-- The number of a slot, by which other slots refer to it. -/
abbrev TypeRef : Type := Nat

/-- A type in a slot. -/
inductive SlotKind where
  | builtin (leaf : Builtin)
  | modified (modifier : Modifier) (inner : TypeRef)
  /-- The members of a struct have types, those of an enum do not. -/
  | group (kind : GroupKind) (members : List (String × Option TypeRef))
  deriving DecidableEq, Repr

/-- A filled slot. -/
structure Slot where
  name : Option String
  origin : Origin
  kind : SlotKind
  deriving DecidableEq, Repr

namespace Slot

/-- The members of a struct or an enum. -/
def members (slot : Slot) : List (String × Option TypeRef) :=
  match slot.kind with
  | .group _ members => members
  | _ => []

/-- Whether the slot holds a struct or an enum. -/
def isGroup (slot : Slot) : Bool :=
  match slot.kind with
  | .group .. => true
  | _ => false

end Slot

/-- The slots of an arena that is being built. They are numbered from one, and one that is reserved
but not filled is empty. -/
abbrev Slots : Type := List (Option Slot)

namespace Slots

/-- The slot with a number. -/
def read (slots : Slots) : (number : Nat) → Work Slot
  | 0 => throw (.unmet .inRange)
  | index + 1 =>
    match slots[index]? with
    | some (some slot) => return slot
    | some none => throw (.unmet .present)
    | none => throw (.unmet .inRange)

/-- The slots with one of them filled. -/
def write (slots : Slots) (slot : Slot) : (number : Nat) → Work Slots
  | 0 => throw (.unmet .inRange)
  | index + 1 =>
    if index < slots.length then return slots.set index (some slot)
    else throw (.unmet .inRange)

/-- The slots with one of them changed, which has to be filled. -/
def change (slots : Slots) (f : Slot → Slot) (number : Nat) : Work Slots := do
  slots.write (f (← slots.read number)) number

end Slots

/-- A method whose types are in slots. -/
structure ArenaMethod where
  name : String
  parameters : TypeRef
  results : TypeRef
  deriving DecidableEq, Repr

/-- An error whose type is in a slot. -/
structure ArenaError where
  name : String
  parameters : TypeRef
  deriving DecidableEq, Repr

/-- An interface whose types are in slots, all of them filled. -/
structure Arena where
  name : String
  methods : List ArenaMethod
  /-- The declared types, then those that got their names from where they stand. -/
  typedefs : List TypeRef
  errors : List ArenaError
  slots : List Slot
  deriving DecidableEq, Repr

/-- The slot with a number. -/
def Arena.read (arena : Arena) : (number : Nat) → Work Slot
  | 0 => throw (.unmet .inRange)
  | index + 1 =>
    match arena.slots[index]? with
    | some slot => return slot
    | none => throw (.unmet .inRange)

/-- The kind of a slot of this shape. -/
def Shape.slotKind : Shape → SlotKind
  | .builtin leaf => .builtin leaf
  | .modified modifier inner => .modified modifier inner
  | .struct fields => .group .struct (fields.map fun (name, type) => (name, some type))
  | .enum members => .group .enum (members.map fun name => (name, none))

/-- The slot of an entry. -/
def TypeEntry.slot (entry : TypeEntry) : Slot := ⟨entry.name, entry.origin, entry.shape.slotKind⟩

/-- How many numbers a method takes. -/
def Method.numberCount (method : Method) : Nat :=
  method.parameters.numberCount + method.results.numberCount

/-- A method whose own numbers start at `first`. -/
def Method.inArena (first : Nat) (method : Method) : ArenaMethod :=
  ⟨method.name, method.parameters.number first,
    method.results.number (first + method.parameters.numberCount)⟩

/-- An error whose own numbers start at `first`. -/
def ErrorCase.inArena (first : Nat) (error : ErrorCase) : ArenaError :=
  ⟨error.name, error.parameters.number first⟩

namespace Interface

/-- The first number of a type in an error. -/
def firstError (interface : Interface) : Nat :=
  interface.methods.foldl (fun first method => first + method.numberCount) interface.firstSignature

/-- The interface as it lies in an arena. -/
def arena (interface : Interface) : Arena where
  name := interface.name
  methods := (numberFrom Method.numberCount interface.firstSignature interface.methods).map
    fun (first, method) => method.inArena first
  typedefs := interface.declarations.map (·.number)
  errors := (numberFrom (·.parameters.numberCount) interface.firstError interface.errors).map
    fun (first, error) => error.inArena first
  slots := interface.types.map TypeEntry.slot

end Interface

end Varlink
