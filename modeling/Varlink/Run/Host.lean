import Varlink.Address
import Varlink.Connection
import Varlink.Event

/-!
# What a run needs from outside

A run reads and writes files, connects to services, prints and tells about its work. These are
operations of whatever it runs in: the world of a real process, or a world that is a value, in which
what a run does can be looked at afterwards.
-/

namespace Varlink

/-- The operations a run is made of. -/
class Host (m : Type → Type) where
  /-- The text of a file. -/
  readFile : (path : String) → m (Except SystemError String)
  /-- The text at a web address. -/
  fetch : (url : String) → m (Except SystemError String)
  /-- Makes a directory, with those it stands in. -/
  makeDirectories : (path : String) → m (Except SystemError Unit)
  /-- Makes a file with the text, in place of a file that is there. -/
  writeFile : (path content : String) → m (Except SystemError Unit)
  /-- Connects to a service. -/
  connect : Address → m (Except SystemError Connection)
  /-- Gives a connection back after its last call. -/
  disconnect : Connection → m Unit
  /-- Writes to standard output. -/
  print : (content : String) → m Unit
  /-- Tells about an event. -/
  record : Event → m Unit

end Varlink
