import Varlink.TypeExpr

/-!
# Events

What the program tells about its work, apart from its results. Every event has a level, a message
and named fields. Events are data here; who shows them, and from which level on, is decided at the
outside.
-/

namespace Varlink

/-- How much an event matters. -/
inductive Level where
  | trace
  | debug
  | info
  | error
  deriving DecidableEq, Repr

/-- The level as it is shown. -/
def Level.text : Level → String
  | trace => "TRACE"
  | debug => "DEBUG"
  | info => "INFO"
  | error => "ERROR"

/-- Something that happened. -/
inductive Event where
  /-- A group with members was read; `offset` is that of its opening parenthesis. -/
  | parsedGroup (offset : Nat) (kind : GroupKind)
  | parsedMethod (name : String)
  | parsedTypedef (name : String)
  | parsedError (name : String)
  /-- A text was read, with so many members of each kind. -/
  | parsedInterface (name : String) (methods typedefs errors : Nat)
  /-- An inline struct or enum got a name. -/
  | synthesizedName (name : String)
  /-- A document was resolved, with so many declared and named types. -/
  | resolvedInterface (name : String) (declared synthesized : Nat)
  /-- A service told about itself and so many interfaces. -/
  | connectedToService (vendor product version : String) (interfaces : Nat)
  /-- A file was written. -/
  | written (path : String)
  /-- An interface was left out, for the reason given. -/
  | skippedInterface (origin report : String)
  deriving DecidableEq, Repr

namespace Event

/-- The level of an event. -/
def level : Event → Level
  | parsedGroup .. | parsedMethod _ | parsedTypedef _ | parsedError _ => .trace
  | parsedInterface .. | synthesizedName _ | resolvedInterface .. => .debug
  | connectedToService .. | written _ => .info
  | skippedInterface .. => .error

/-- The message of an event. -/
def message : Event → String
  | parsedGroup .. => "parsed group"
  | parsedMethod _ => "parsed method"
  | parsedTypedef _ => "parsed type"
  | parsedError _ => "parsed error"
  | parsedInterface .. => "parsed interface"
  | synthesizedName _ => "synthesized type name"
  | resolvedInterface .. => "resolved interface"
  | connectedToService .. => "connected to service"
  | written _ => "written"
  | skippedInterface _ report => "skipping interface: " ++ report

/-- How the decision about a group is shown. -/
def committedText : GroupKind → String
  | .struct => "Some(Struct)"
  | .enum => "Some(Enum)"

/-- The fields of an event with their values as text. -/
def fields : Event → List (String × String)
  | parsedGroup offset kind => [("offset", toString offset), ("committed", committedText kind)]
  | parsedMethod name => [("method", name)]
  | parsedTypedef name => [("typedef", name)]
  | parsedError name => [("error", name)]
  | parsedInterface name methods typedefs errors =>
    [("interface", name), ("methods", toString methods), ("typedefs", toString typedefs),
      ("errors", toString errors)]
  | synthesizedName name => [("name", name)]
  | resolvedInterface name declared synthesized =>
    [("interface", name), ("declared", toString declared), ("synthesized", toString synthesized)]
  | connectedToService vendor product version interfaces =>
    [("vendor", vendor), ("product", product), ("version", version),
      ("interfaces", toString interfaces)]
  | written path => [("path", path)]
  | skippedInterface origin _ => [("origin", origin)]

end Event

end Varlink
