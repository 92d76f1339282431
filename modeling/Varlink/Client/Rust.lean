import Varlink.Client.DocComment
import Varlink.Client.RustModule

/-!
# The text of Rust clients

How each part of a module is laid out. Attributes, lists in parentheses and angle brackets, and calls
may be spread over several lines; all other lines are written as they are, however long they get.
-/

namespace Varlink

namespace Rust

open Layout

/-- An attribute with its arguments; the mark in front tells what it belongs to. -/
def listAttribute (mark path : String) (arguments : List String) : List Layout :=
  let rec body : List String → List Layout
    | [] => []
    | [argument] => [text argument]
    | argument :: rest => text argument :: text "," :: softSpace :: body rest
  [text (mark ++ path ++ "("), block step (softBreak :: body arguments ++ [outdented (.blanks 0)]),
    text ")", text "]", softSpace]

/-- An attribute of the item after it. -/
def itemAttribute : (path : String) → (arguments : List String) → List Layout :=
  listAttribute "#["

/-- Items in parentheses. -/
def inParentheses (items : List (List Layout)) : List Layout :=
  text "(" :: listed step items ++ [text ")"]

/-- Items in angle brackets. -/
def inAngles (indent : Int) (items : List (List Layout)) : List Layout :=
  text "<" :: listed indent items ++ [text ">"]

/-- A built-in type. -/
def builtinType : Builtin → String
  | .bool => "bool"
  | .int => "i64"
  | .float => "f64"
  | .string => "String"
  | .object => "rt::Object"

/-- A type. -/
def type : RustType → List Layout
  | .named name => [text name.print]
  | .builtin leaf => [text (builtinType leaf)]
  | .option inner => text "Option" :: inAngles step [type inner]
  | .vec inner => text "Vec" :: inAngles step [type inner]
  | .map inner => text "HashMap" :: inAngles step [[text "String"], type inner]
  | .boxed inner => text "Box" :: inAngles step [type inner]

/-- The attribute for a name that differs from the one in messages. -/
def renameAttribute : Option String → List Layout
  | none => []
  | some name => itemAttribute "serde" ["rename = " ++ Text.stringLiteral name]

/-- A field of a struct. -/
def field (field : RustField) : List Layout :=
  renameAttribute field.rename
    ++ (if field.isOptional then
      itemAttribute "serde" ["default", "skip_serializing_if = \"Option::is_none\""]
    else [])
    ++ text ("pub " ++ field.name.print ++ ": ") :: type field.type ++ [text ","]

/-- A variant of an enum. -/
def variant (variant : RustVariant) : List Layout :=
  renameAttribute variant.rename ++ [text variant.name.print, text ","]

/-- A declaration. -/
def declaration (declaration : RustDeclaration) : List Layout :=
  let name := declaration.name.print
  match declaration.body with
  | .struct fields =>
    itemAttribute "derive" ["Debug", "Clone", "PartialEq", "Serialize", "Deserialize"]
      ++ braced [text ("pub struct " ++ name ++ " ")] (fields.map field) ++ [newline]
  | .enum variants =>
    itemAttribute "derive"
        ["Debug", "Clone", "Copy", "PartialEq", "Eq", "Hash", "Serialize", "Deserialize"]
      ++ braced [text ("pub enum " ++ name ++ " ")] (variants.map variant) ++ [newline]

/-- A variant of the enum of errors. -/
def errorVariant (error : RustErrorCase) : List Layout :=
  text error.name.print ::
    match error.parameters with
    | none => [text ","]
    | some parameters => inParentheses [[text parameters.print]] ++ [text ","]

/-- The expression for a case of the enum of errors. -/
def errorValue (error : RustErrorCase) : List Layout :=
  let constructor := inParentheses [[text ("Self::" ++ error.name.print)]]
  match error.parameters with
  | none => text "Some" :: constructor
  | some _ =>
    [block step (text "rt::from_parameters" :: inParentheses [[text "parameters"]]
      ++ [softBreak, text ".map", block 0 constructor])]

/-- The arm that recognises an error by its name. Braces are put around its value if the value does
not fit on the line. -/
def errorArm (error : RustErrorCase) : List Layout :=
  let before : Gap := ⟨0, 0, some '\x7b', none, none, true⟩
  let after : Gap := ⟨0, -step, none, some '\x7d', some ',', true⟩
  [fill 0 [text (Text.stringLiteral error.qualified), text " => ", gap .glue,
    block step (gap before :: errorValue error ++ [gap after])]]

/-- The function that recognises the errors of the interface. -/
def errorReader (errors : RustErrors) : List Layout :=
  braced [text "pub fn from_call_error(error: &rt::Error) -> Option<Self> "]
    [braced [text "let rt::Error::Call \x7b error, parameters \x7d = error else "]
        [[text "return None;"]] ++ [text ";"],
      braced [text "match error.as_str() "]
        (errors.cases.map errorArm ++ [[text "_ => None,"]])]

/-- The enum of errors. -/
def errorEnum (errors : RustErrors) : List Layout :=
  itemAttribute "derive" ["Debug", "Clone", "PartialEq"]
    ++ braced [text ("pub enum " ++ errors.name.print ++ " ")] (errors.cases.map errorVariant)
    ++ newline ::
      braced [text ("impl " ++ errors.name.print ++ " ")]
        [DocComment.layout .item " Converts an error reply of this interface into its typed form."
          ++ errorReader errors]
    ++ [newline]

/-- The call a function makes. -/
def call (method : RustMethod) : List Layout :=
  let parameters := match method.parameters with
    | some _ => "args"
    | none => "&rt::Empty \x7b\x7d"
  let arguments :=
    block 0 (inParentheses [[text (Text.stringLiteral method.qualified)], [text parameters]])
  match method.results with
  | some _ => [fill 0 [block step [text "self.connection", softBreak, text ".call", arguments]]]
  | none =>
    [fill 0 [block step ([text "self.connection", softBreak, text ".call", text "::"]
        ++ inAngles step [[text "_"], [text "rt::Empty"]] ++ [arguments]),
      text "?", text ";"]]

/-- The lines of a function. -/
def statements (method : RustMethod) : List (List Layout) :=
  match method.results with
  | some _ => [call method]
  | none => [call method, [text "Ok(())"]]

/-- A function of the client. -/
def method (method : RustMethod) : List Layout :=
  let parameters := match method.parameters with
    | some parameters => [[text "&mut self"], [text ("args: &" ++ parameters.print)]]
    | none => [[text "&mut self"]]
  let result := match method.results with
    | some results => results.print
    | none => "()"
  braced
    ([text ("pub fn " ++ method.name.print ++ "("), gap .glue] ++ listed 0 parameters
      ++ [text ")",
        block (-step) (text " -> Result" :: inAngles step [[text result], [text "rt::Error"]]),
        text " "])
    (statements method)

/-- The struct of the client. -/
def clientStruct (name : String) : List Layout :=
  braced
    (text ("pub struct " ++ name)
      :: inAngles 0 [[text "S", fill step [softSpace, text "= rt::BoxedStream"]]] ++ [text " "])
    [[text "connection: rt::Connection<S>,"]]

/-- The functions of a client that makes its own connection. -/
def connecting (name : String) : List Layout :=
  braced [text ("impl " ++ name ++ " ")]
    [braced [text "pub fn connect(address: &str) -> Result<Self, rt::Error> "]
      [[text "Ok(Self::new(rt::Connection::open(address)?))"]]]

/-- The functions of a client over any connection. -/
def calling (name : String) (methods : List RustMethod) : List Layout :=
  braced
    [fill (-step)
        ([block step (text "impl" :: inAngles 0 [[text "S: rt::Stream"]]), text (" " ++ name)]
          ++ inAngles step [[text "S"]]),
      text " "]
    (braced [text "pub fn new(connection: rt::Connection<S>) -> Self "]
        [[text "Self \x7b connection \x7d"]]
      :: methods.map method)

/-- A line of its own. -/
def line (content : String) : List Layout := [text content, newline]

/-- The layout of a module. -/
def layout (module : RustModule) : Layout :=
  let client := module.client.print
  block 0
    (DocComment.layout .module
        ("Generated by " ++ generatorSignature ++ " from `" ++ module.interfaceName ++ "`")
      ++ listAttribute "#![" "allow" ["dead_code", "unused_imports", "unused_variables"]
      ++ line "use std::collections::HashMap;"
      ++ line "use serde::\x7bDeserialize, Serialize\x7d;"
      ++ line "use varlink_runtime as rt;"
      ++ line ("pub const INTERFACE_NAME: &str = " ++ Text.stringLiteral module.interfaceName ++ ";")
      ++ module.declarations.flatMap declaration
      ++ (match module.errors with
        | none => []
        | some errors => errorEnum errors)
      ++ DocComment.layout .item ("Client for the `" ++ module.interfaceName ++ "` interface.")
      ++ clientStruct client ++ newline :: connecting client
      ++ newline :: calling client module.methods ++ [newline])

end Rust

/-- The text of a client in Rust, if its names can be written. -/
def Outline.toRust (outline : Outline) : Option String :=
  (RustModule.ofOutline outline).map fun module => (Rust.layout module).print

end Varlink
