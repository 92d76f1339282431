import Varlink.Client.TypeScript
import Varlink.Text.Identifier

/-!
# How TypeScript reads types

Of all types that TypeScript has these are read here: words, the record of a type under all strings,
lists, and unions. The brackets of a list belong to what stands right before them, and a bar separates
the longest types on both sides, so that a union is an element of a list only within parentheses.

The grammar says this by three levels, of which each contains the one before, and leaves open how a
text is read by it. Reading symbol by symbol, with a stack of what has been opened and what was there
before, goes along every derivation. So there is one derivation at most, and a text is read in one way.
-/

namespace Varlink

namespace TypeScript

/-- Whether a character may be part of an identifier. -/
def isNamePart (c : Char) : Bool := c = '$' || Text.isIdentifierContinue c

/-- A symbol in the text of a type. -/
inductive Symbol where
  | word (text : String)
  | mark (c : Char)
  deriving DecidableEq, Repr

/-- The word that ends, if one has begun. -/
def endWord : (word : List Char) → List Symbol
  | [] => []
  | c :: word => [.word (String.ofList (c :: word))]

/-- The symbols of a text that goes on behind the beginning of a word. Blanks are left out. -/
def scan (word : List Char) : List Char → List Symbol
  | [] => endWord word
  | c :: rest =>
    if isNamePart c then scan (word ++ [c]) rest
    else if c = ' ' then endWord word ++ scan [] rest
    else endWord word ++ .mark c :: scan [] rest

/-- The symbols of a text. -/
def symbols (text : String) : List Symbol := scan [] text.toList

/-- A type as it is read. -/
inductive TypeTree where
  | word (text : String)
  | union (first second : TypeTree)
  | array (inner : TypeTree)
  | record (inner : TypeTree)
  deriving DecidableEq, Repr

/-- How tight a type is bound: a primary type may stand anywhere, a union not before brackets. -/
inductive Level where
  | primary
  | element
  | union
  deriving DecidableEq, Repr

/-- The types, by the symbols they are written with. -/
inductive Parses : Level → List Symbol → TypeTree → Prop
  | word (text : String) : Parses .primary [.word text] (.word text)
  | group {inner : List Symbol} {tree : TypeTree} (parses : Parses .union inner tree) :
      Parses .primary (.mark '(' :: inner ++ [.mark ')']) tree
  | record {inner : List Symbol} {tree : TypeTree} (parses : Parses .union inner tree) :
      Parses .primary
        ([.word "Record", .mark '<', .word "string", .mark ','] ++ inner ++ [.mark '>'])
        (.record tree)
  | primary {symbols : List Symbol} {tree : TypeTree} (parses : Parses .primary symbols tree) :
      Parses .element symbols tree
  | array {inner : List Symbol} {tree : TypeTree} (parses : Parses .element inner tree) :
      Parses .element (inner ++ [.mark '[', .mark ']']) (.array tree)
  | element {symbols : List Symbol} {tree : TypeTree} (parses : Parses .element symbols tree) :
      Parses .union symbols tree
  | union {first second : List Symbol} {left right : TypeTree} (parses : Parses .union first left)
      (tighter : Parses .element second right) :
      Parses .union (first ++ .mark '|' :: second) (.union left right)

section Unique

/-- What has been opened and not been closed yet. -/
inductive Opening where
  | group
  /-- A record before the comma. -/
  | key
  /-- A record behind the comma. -/
  | value
  /-- The brackets behind the elements of a list. -/
  | brackets (inner : TypeTree)

/-- What has been read of a text: what is open, each with the union in front of it, then the union in
front of the type that was read last, and this type. -/
structure Progress where
  frames : List (Opening × Option TypeTree)
  before : Option TypeTree
  operand : Option TypeTree

/-- A type behind the union in front of it. -/
def joined : Option TypeTree → TypeTree → TypeTree
  | none, type => type
  | some before, type => .union before type

/-- Reads one more symbol. -/
def advance (progress : Progress) (symbol : Symbol) : Option Progress :=
  match symbol, progress with
  | .word text, ⟨frames, before, none⟩ => some ⟨frames, before, some (.word text)⟩
  | .mark '(', ⟨frames, before, none⟩ => some ⟨(.group, before) :: frames, none, none⟩
  | .mark ')', ⟨(.group, outer) :: frames, before, some type⟩ =>
    some ⟨frames, outer, some (joined before type)⟩
  | .mark '<', ⟨frames, before, some (.word "Record")⟩ => some ⟨(.key, before) :: frames, none, none⟩
  | .mark ',', ⟨(.key, outer) :: frames, none, some (.word "string")⟩ =>
    some ⟨(.value, outer) :: frames, none, none⟩
  | .mark '>', ⟨(.value, outer) :: frames, before, some type⟩ =>
    some ⟨frames, outer, some (.record (joined before type))⟩
  | .mark '[', ⟨frames, before, some type⟩ =>
    some ⟨(.brackets type, before) :: frames, none, none⟩
  | .mark ']', ⟨(.brackets type, outer) :: frames, none, none⟩ =>
    some ⟨frames, outer, some (.array type)⟩
  | .mark '|', ⟨frames, before, some type⟩ => some ⟨frames, some (joined before type), none⟩
  | _, _ => none

/-- Reading the symbols of a type comes to the type, behind whatever was read before. A union must be
the first thing behind what was opened. -/
def Arrives (symbols : List Symbol) (tree : TypeTree) : Level → Prop
  | .union => ∀ frames, ∃ before operand, joined before operand = tree ∧
      symbols.foldlM advance ⟨frames, none, none⟩ = some ⟨frames, before, some operand⟩
  | _ => ∀ frames before,
      symbols.foldlM advance ⟨frames, before, none⟩ = some ⟨frames, before, some tree⟩

theorem Parses.arrives {level : Level} {symbols : List Symbol} {tree : TypeTree}
    (parses : Parses level symbols tree) : Arrives symbols tree level := by
  induction parses with
  | word text =>
      intro frames before
      rfl
  | group _ ih =>
      intro frames before
      obtain ⟨left, operand, rfl, inside⟩ := ih ((.group, before) :: frames)
      rw [List.cons_append, List.foldlM_cons, advance, Option.bind_eq_bind, Option.bind_some,
        List.foldlM_append, inside]
      rfl
  | record _ ih =>
      intro frames before
      obtain ⟨left, operand, rfl, inside⟩ := ih ((.value, before) :: frames)
      rw [List.foldlM_append, List.foldlM_append]
      show (List.foldlM advance ⟨(.value, before) :: frames, none, none⟩ _ >>= _) = _
      rw [inside]
      rfl
  | primary _ ih => exact ih
  | array _ ih =>
      intro frames before
      rw [List.foldlM_append, ih frames before]
      rfl
  | element _ ih =>
      intro frames
      exact ⟨none, _, rfl, ih frames none⟩
  | union _ _ first second =>
      intro frames
      obtain ⟨before, operand, rfl, inside⟩ := first frames
      refine ⟨some (joined before operand), _, rfl, ?_⟩
      rw [List.foldlM_append, inside]
      exact second frames _

/-- A text is read in one way. -/
theorem Parses.unique {symbols : List Symbol} {tree other : TypeTree}
    (parses : Parses .union symbols tree) (again : Parses .union symbols other) : tree = other := by
  obtain ⟨before, operand, rfl, first⟩ := parses.arrives []
  obtain ⟨before', operand', rfl, second⟩ := again.arrives []
  have same := Option.some.inj (first.symm.trans second)
  injection same with _ sameBefore sameOperand
  rw [sameBefore, Option.some.inj sameOperand]

end Unique

end TypeScript

end Varlink
