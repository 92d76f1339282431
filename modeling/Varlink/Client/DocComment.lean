import Varlink.Layout
import Varlink.Text.Quoted

/-!
# Documentation comments

A text of one line is written as a line comment. A longer text is written as a block comment if its
own comment marks are balanced, so that the comment ends where it should, and as an attribute with a
string otherwise. Blanks at the ends of lines are not kept in comments.
-/

namespace Varlink

namespace DocComment

/-- What a comment belongs to: the module it stands in, or the item after it. -/
inductive Target where
  | module
  | item
  deriving DecidableEq, Repr

/-- The beginning of a line comment. -/
def lineMark : Target → String
  | .module => "//!"
  | .item => "///"

/-- The beginning of a block comment. -/
def blockMark : Target → String
  | .module => "/*!"
  | .item => "/**"

/-- The beginning of an attribute. -/
def attributeMark : Target → String
  | .module => "#!["
  | .item => "#["

/-- Whether the comment marks in a text, of which `depth` are open before it, are balanced. -/
def isBalanced (depth : Nat) : List Char → Bool
  | '/' :: '*' :: rest => isBalanced (depth + 1) rest
  | '*' :: '/' :: rest =>
    match depth with
    | 0 => false
    | depth + 1 => isBalanced depth rest
  | _ :: rest => isBalanced depth rest
  | [] => depth = 0

/-- Whether a text can stand inside a block comment. -/
def fitsBlock (text : List Char) : Bool :=
  isBalanced 0 text && text.getLast? ≠ some '/'

/-- The text without the blanks before the ends of its lines; those at the end of the text are kept. -/
def trimLines : List Char → List Char
  | [] => []
  | c :: rest =>
    if c = ' ' && (rest.dropWhile (· = ' ')).head? = some '\n' then trimLines rest
    else c :: trimLines rest

/-- The text without the blanks at its end. -/
def trimEnd (text : List Char) : List Char :=
  (text.reverse.dropWhile (· = ' ')).reverse

/-- A comment with its line end. -/
def layout (target : Target) (text : String) : List Layout :=
  let chars := text.toList
  if !chars.contains '\n' then
    [.text (lineMark target ++ String.ofList (trimEnd chars)), .newline]
  else if fitsBlock chars then
    [.text (blockMark target ++ String.ofList (trimLines chars) ++ "*/"), .newline]
  else
    [.text (attributeMark target ++ "doc = " ++ Text.stringLiteral text ++ "]"), .softSpace]

end DocComment

end Varlink
