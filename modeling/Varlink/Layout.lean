/-!
# Layout of code

Code is laid out as text, gaps and boxes. A gap is a place where the line may end. A box whose content
fits on the rest of the line is written on it, gaps and all; otherwise its gaps end lines: all of
them in a consistent box, and in an inconsistent one those before a piece that does not fit.

What has to fit is the box together with the text behind it up to the next gap, since that text cannot
be moved to another line. Widths are counted in bytes. They are read off the structure, so printing
is one walk through it with the width of what follows as an argument.
-/

namespace Varlink

/-- A place where the line may end. -/
structure Gap where
  /-- The number of blanks if the line goes on. -/
  blank : Nat
  /-- The indentation of the next line, relative to that of the box. -/
  offset : Int
  /-- What is written before the end of the line. -/
  closing : Option Char
  /-- What is written at the beginning of the next line. -/
  opening : Option Char
  /-- What is written if the line goes on. -/
  inline : Option Char
  /-- Whether the line may end at all. -/
  breakable : Bool
  deriving DecidableEq, Repr

/-- How the gaps of a box that does not fit end lines. -/
inductive Breaks where
  | consistent
  | inconsistent
  deriving DecidableEq, Repr

/-- Code to be laid out. -/
inductive Layout where
  | text (piece : String)
  | gap (place : Gap)
  /-- A box, whose lines are indented by so much more than those around it. -/
  | box (breaks : Breaks) (indent : Int) (items : List Layout)
  deriving Repr

namespace Gap

/-- A gap of so many blanks. -/
def blanks (count : Nat) : Gap := ⟨count, 0, none, none, none, true⟩

/-- A gap wider than any line, so that the box around it never fits. -/
def hard : Gap := blanks 0xFFFF

/-- The gap with another offset. -/
def withOffset (gap : Gap) (offset : Int) : Gap :=
  ⟨gap.blank, offset, gap.closing, gap.opening, gap.inline, gap.breakable⟩

/-- A gap that never ends a line. It still ends what a box before it has to fit with. -/
def glue : Gap := ⟨0, 0, none, none, none, false⟩

end Gap

/-- The text written so far, with the blanks owed before the next piece and the room left on the
line. -/
structure Page where
  out : String
  pending : Nat
  space : Int
  deriving Repr

namespace Page

/-- The width of a line. -/
def margin : Int := 89

/-- The room that a line offers at least, however far it is indented. -/
def leastSpace : Int := 60

/-- An empty page. -/
def blank : Page := ⟨"", 0, margin⟩

/-- Writes a piece of text after the blanks owed. -/
def write (page : Page) (piece : String) : Page :=
  ⟨page.out ++ String.ofList (List.replicate page.pending ' ') ++ piece, 0,
    page.space - piece.utf8ByteSize⟩

/-- Writes a mark, if there is one. -/
def writeMark (page : Page) : Option Char → Page
  | none => page
  | some mark => page.write (String.singleton mark)

/-- Goes on with the line at a gap. -/
def goOn (page : Page) (gap : Gap) : Page :=
  let page : Page := ⟨page.out, page.pending + gap.blank, page.space - gap.blank⟩
  page.writeMark gap.inline

/-- Ends the line at a gap in a box with the given indentation. Blanks at the end of a line are not
written. -/
def endLine (page : Page) (indent : Int) (gap : Gap) : Page :=
  let page := page.writeMark gap.closing
  let indent := indent + gap.offset
  let page : Page := ⟨page.out ++ "\n", indent.toNat, max (margin - indent) leastSpace⟩
  page.writeMark gap.opening

end Page

namespace Layout

mutual

/-- The width of a layout on one line. -/
def width : Layout → Nat
  | text piece => piece.utf8ByteSize
  | gap place => place.blank
  | box _ _ items => widths items

/-- The width of layouts on one line. -/
def widths : List Layout → Nat
  | [] => 0
  | item :: rest => item.width + widths rest

end

/-- The width up to the next gap, where `after` is the width up to the next gap behind the items. -/
def widthToGap (after : Nat) : List Layout → Nat
  | [] => after
  | gap _ :: _ => 0
  | item :: rest => item.width + widthToGap after rest

/-- Whether a gap ends the line, when its box is broken as `breaks` says, or fits. -/
def endsLine (breaks : Option Breaks) (place : Gap) (after : Nat) (page : Page) : Bool :=
  place.breakable &&
    match breaks with
    | none => false
    | some .consistent => true
    | some .inconsistent => page.space < place.blank + after

mutual

/-- Prints a layout behind which `after` is the width up to the next gap. -/
def printOn (breaks : Option Breaks) (indent : Int) (after : Nat) : Layout → Page → Page
  | text piece, page => page.write piece
  | gap place, page =>
    if endsLine breaks place after page then page.endLine indent place else page.goOn place
  | box breaks more items, page =>
    if page.space < widths items + after then printAll (some breaks) (indent + more) after items page
    else printAll none indent after items page

/-- Prints layouts behind which `after` is the width up to the next gap. -/
def printAll (breaks : Option Breaks) (indent : Int) (after : Nat) : List Layout → Page → Page
  | [], page => page
  | item :: rest, page =>
    printAll breaks indent after rest
      (printOn breaks indent (widthToGap after rest) item page)

end

/-- The text of a layout. -/
def print (layout : Layout) : String :=
  (printOn none 0 0 layout .blank).out

/-- A consistent box. -/
def block (indent : Int) (items : List Layout) : Layout := box .consistent indent items

/-- An inconsistent box. -/
def fill (indent : Int) (items : List Layout) : Layout := box .inconsistent indent items

/-- The end of a line. -/
def newline : Layout := gap .hard

/-- A place without blanks. -/
def softBreak : Layout := gap (.blanks 0)

/-- A place with one blank. -/
def softSpace : Layout := gap (.blanks 1)

/-- The number of blanks that each level of a block is indented by. -/
def step : Int := 4

/-- The end of the last line of a block, after which the block's own closing mark follows. -/
def outdented (place : Gap) : Layout := gap (place.withOffset (-step))

/-- Lines between braces. Without lines the braces touch. -/
def braced (header : List Layout) (lines : List (List Layout)) : List Layout :=
  let rec body : List (List Layout) → List Layout
    | [] => []
    | [line] => line ++ [outdented .hard]
    | line :: rest => line ++ newline :: body rest
  [block step (header ++ text "\x7b" :: (if lines.isEmpty then [] else newline :: body lines)),
    text "\x7d"]

/-- Items in a box of their own, each followed by a comma; the last comma is written only before the
end of a line. Without items there is no box. -/
def listed (indent : Int) (items : List (List Layout)) : List Layout :=
  let lastComma : Gap := ⟨0, -step, some ',', none, none, true⟩
  let rec body : List (List Layout) → List Layout
    | [] => []
    | [item] => item ++ [gap lastComma]
    | item :: rest => item ++ text "," :: softSpace :: body rest
  if items.isEmpty then [] else [block indent (softBreak :: body items)]

end Layout

end Varlink
