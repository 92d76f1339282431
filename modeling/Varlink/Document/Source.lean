import Varlink.Document.Reader
import Varlink.Event

/-!
# Documents from source texts

The document of a text is what the reader makes of its significant tokens. Only here do the places
of the tokens come in: they turn the reader's faults into locations and its notes into events, and
have no influence on the document.
-/

namespace Varlink

namespace Document

/-- The offset of the token that has `left` tokens from it to the end, where zero stands for the
end of the text. -/
def offsetOf (source : String) (tokens : List Token) (left : Nat) : Nat :=
  match tokens.drop (tokens.length - left) with
  | [] => source.utf8ByteSize
  | token :: _ => token.offset

/-- The event for a step of the reader. -/
def eventOf (source : String) (tokens : List Token) : Reader.Step → Event
  | .group left kind => .parsedGroup (offsetOf source tokens left) kind
  | .method name => .parsedMethod name
  | .typedef name => .parsedTypedef name
  | .error name => .parsedError name

/-- The error for a fault of the reader. -/
def errorOf (source : String) (tokens : List Token) (fault : Reader.Fault) : SyntaxError :=
  ⟨fault.fault, .ofOffset source (offsetOf source tokens fault.left)⟩

/-- The document a text holds, with what the reader told on the way. -/
def parse (source : String) : Logged Event SyntaxError Document :=
  let tokens := Token.significant source
  (Reader.readDocument (tokens.map (·.toLexeme))).bimap (eventOf source tokens)
    (errorOf source tokens)

end Document

end Varlink
