import Varlink.Client.Rust
import Varlink.Client.TypeScript

/-!
# Generating clients

The languages in which a client for an interface can be written. Only an interface with a name that
the language has no way to write has no client.
-/

namespace Varlink

/-- A language that clients are written in. -/
inductive Generator where
  | rust
  | typescript
  deriving DecidableEq, Repr

namespace Generator

/-- All generators. -/
def all : List Generator := [.rust, .typescript]

/-- The generator that is used unless another one is asked for. -/
def standard : Generator := .rust

/-- The name a generator is asked for by. -/
def name : Generator → String
  | rust => "rust"
  | typescript => "typescript"

/-- The generator of that name. -/
def ofName? (name : String) : Option Generator :=
  all.find? fun generator => generator.name = name

/-- The file extension of the generated code. -/
def extension : Generator → String
  | rust => "rs"
  | typescript => "ts"

/-- The client for an interface. -/
def generate : Generator → Interface → Option String
  | rust, interface => interface.outline.toRust
  | typescript, interface => some interface.outline.toTypeScript

end Generator

end Varlink
