import Varlink.Address

/-!
# Inputs

Where interface definitions come from. The beginning of the input tells: a web address, the address of
a service, or else a file.
-/

namespace Varlink

/-- Where interface definitions come from. -/
inductive Input where
  | file (path : String)
  | url (address : String)
  | service (address : String)
  deriving DecidableEq, Repr

namespace Input

/-- The schemes of web addresses. -/
def urlMarks : List String := ["http://", "https://"]

/-- The schemes of services. -/
def serviceMarks : List String := ["unix:", "tcp:"]

/-- Whether a text begins with one of the marks. -/
def beginsWith (text : String) (marks : List String) : Bool :=
  marks.any fun mark => mark.toList.isPrefixOf text.toList

/-- The input a text stands for. -/
def parse (text : String) : Input :=
  if beginsWith text urlMarks then .url text
  else if beginsWith text serviceMarks then .service text
  else .file text

end Input

end Varlink
