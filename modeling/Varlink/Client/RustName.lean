import Varlink.Text.Identifier

/-!
# Rust names

A name can be written in Rust if it is an identifier. Keywords can be written raw, with a mark in front
that is not part of the name; the four keywords that stand for paths cannot, and get a low line behind
them instead, which makes them other names.
-/

namespace Varlink

/-- A name as Rust writes it. -/
structure RustName where
  text : String
  /-- Whether the name is a keyword, which is written raw. -/
  isRaw : Bool
  deriving DecidableEq, Repr

namespace RustName

/-- The keywords that are not names even when written raw. -/
def pathKeywords : List String := ["crate", "self", "super", "Self"]

/-- The other keywords. -/
def keywords : List String :=
  ["as", "break", "const", "continue", "else", "enum", "extern", "false", "fn", "for", "if",
    "impl", "in", "let", "loop", "match", "mod", "move", "mut", "pub", "ref", "return", "static",
    "struct", "trait", "true", "type", "unsafe", "use", "where", "while", "async", "await",
    "dyn", "abstract", "become", "box", "do", "final", "macro", "override", "priv", "typeof",
    "unsized", "virtual", "yield", "try"]

/-- Whether a text is an identifier. A single low line is not. -/
def isIdentifier (text : String) : Bool :=
  match text.toList with
  | [] => false
  | first :: rest =>
    (first = '_' && !rest.isEmpty || Text.isIdentifierStart first)
      && rest.all Text.isIdentifierContinue

/-- The name for a text, if there is one. -/
def ofString? (text : String) : Option RustName :=
  if text ∈ pathKeywords then some ⟨text ++ "_", false⟩
  else if text ∈ keywords then some ⟨text, true⟩
  else if isIdentifier text then some ⟨text, false⟩
  else none

/-- The name as it is written. -/
def print (name : RustName) : String :=
  if name.isRaw then "r#" ++ name.text else name.text

/-- The text the name stands for, if the name itself does not tell. -/
def rename? (name : RustName) (text : String) : Option String :=
  if name.text = text then none else some text

end RustName

end Varlink
