/-!
# Tokens of an interface definition

Every text is a sequence of tokens: single blanks, line ends, comments, the delimiters of groups
and signatures, and words. Nothing is an error at this level, since a character that is no delimiter
extends a word. `split` takes the first token off a text without losing a character, and what it
leaves is shorter, so repeating it covers the whole text.
-/

namespace Varlink

/-- The classes of tokens. -/
inductive TokenKind where
  | whitespace
  | endOfLine
  | comment
  | groupStart
  | groupEnd
  | separator
  | colon
  | arrow
  | word
  | endOfInput
  deriving DecidableEq, Repr

namespace TokenKind

/-- Tokens that stand between the meaningful ones. -/
def isTrivia : TokenKind → Bool
  | whitespace | endOfLine | comment => true
  | _ => false

/-- The kind as messages name it. -/
def describe : TokenKind → String
  | whitespace => "whitespace"
  | endOfLine => "end of line"
  | comment => "comment"
  | groupStart => "`(`"
  | groupEnd => "`)`"
  | separator => "`,`"
  | colon => "`:`"
  | arrow => "`->`"
  | word => "word"
  | endOfInput => "end of input"

/-- A choice of kinds, as messages name it. -/
def describeChoice : List TokenKind → String
  | [] => "nothing"
  | [only] => only.describe
  | first :: rest =>
    ", ".intercalate ((first :: rest).dropLast.map describe) ++ " or "
      ++ ((first :: rest).getLast (List.cons_ne_nil _ _)).describe

end TokenKind

/-- The blanks that separate words. This is a fixed list: other Unicode spaces belong to words. -/
def isBlank (c : Char) : Bool :=
  ['\t', ' ', '\u00a0', '\ufeff', '\u1680', '\u180e', '\u2000', '\u200a', '\u202f', '\u205f',
    '\u3000'].contains c

/-- The characters that end a line. -/
def isLineEnd (c : Char) : Bool :=
  ['\n', '\r', '\u2028', '\u2029'].contains c

/-- The kind of token that starts with a character, where the next one does not matter. -/
def TokenKind.ofChar (c : Char) : TokenKind :=
  if isBlank c then .whitespace
  else if isLineEnd c then .endOfLine
  else if c = '#' then .comment
  else if c = '(' then .groupStart
  else if c = ')' then .groupEnd
  else if c = ',' then .separator
  else if c = ':' then .colon
  else .word

/-- A token without its place: a kind and the characters it covers. -/
structure Lexeme where
  kind : TokenKind
  text : String
  deriving DecidableEq, Repr

/-- A lexeme at a place of a source text, counted in UTF-8 bytes. -/
structure Token extends Lexeme where
  offset : Nat
  deriving DecidableEq, Repr

namespace Lexeme

/-- The longest run of word characters at the start of a text, and what follows it. A dash belongs
to a word unless it begins an arrow. -/
def splitWord : List Char → List Char × List Char
  | [] => ([], [])
  | '-' :: '>' :: rest => ([], '-' :: '>' :: rest)
  | c :: rest =>
    if TokenKind.ofChar c = .word then
      match splitWord rest with
      | (word, after) => (c :: word, after)
    else ([], c :: rest)

/-- The characters up to the end of the line, and the text from there on. -/
def splitLine (cs : List Char) : List Char × List Char :=
  (cs.takeWhile fun c => !isLineEnd c, cs.dropWhile fun c => !isLineEnd c)

/-- The kind and the characters of the first token of a text, and the text after it. -/
def split : List Char → TokenKind × List Char × List Char
  | [] => (.endOfInput, [], [])
  | '\r' :: '\n' :: rest => (.endOfLine, ['\r', '\n'], rest)
  | '-' :: '>' :: rest => (.arrow, ['-', '>'], rest)
  | c :: rest =>
    match TokenKind.ofChar c with
    | .comment =>
      match splitLine rest with
      | (comment, after) => (.comment, c :: comment, after)
    | .word =>
      match splitWord rest with
      | (word, after) => (.word, c :: word, after)
    | kind => (kind, [c], rest)

theorem splitWord_append (cs : List Char) : (splitWord cs).1 ++ (splitWord cs).2 = cs := by
  fun_induction splitWord cs with
  | case1 => rfl
  | case2 => rfl
  | case3 c rest _ _ word after h ih => simpa [h] using ih
  | case4 => rfl

theorem splitLine_append (cs : List Char) : (splitLine cs).1 ++ (splitLine cs).2 = cs :=
  List.takeWhile_append_dropWhile

/-- No character is lost: a text is its first token followed by the rest. -/
theorem split_append (cs : List Char) : (split cs).2.1 ++ (split cs).2.2 = cs := by
  unfold split
  split
  · rfl
  · rfl
  · rfl
  · split
    · simpa using splitLine_append _
    · simpa using splitWord_append _
    · simp

/-- Only the end of the input is an empty token. -/
theorem split_text_ne_nil {cs : List Char} (h : cs ≠ []) : (split cs).2.1 ≠ [] := by
  unfold split
  split
  · contradiction
  · simp
  · simp
  · split <;> simp

theorem split_rest_length {cs : List Char} (h : cs ≠ []) :
    (split cs).2.2.length < cs.length := by
  have covered := congrArg List.length (split_append cs)
  have taken := List.length_pos_iff.mpr (split_text_ne_nil h)
  rw [List.length_append] at covered
  omega

/-- The lexemes of a text, without the end of the input. -/
def all (cs : List Char) : List Lexeme :=
  if nonempty : cs = [] then []
  else
    match first : split cs with
    | (kind, text, rest) =>
      have : rest.length < cs.length := by simpa [first] using split_rest_length nonempty
      ⟨kind, String.ofList text⟩ :: all rest
termination_by cs.length

end Lexeme

namespace Token

/-- Gives each lexeme its place, the first one at `offset`. -/
def place (offset : Nat) : List Lexeme → List Token
  | [] => []
  | lexeme :: rest => ⟨lexeme, offset⟩ :: place (offset + lexeme.text.utf8ByteSize) rest

/-- The tokens of a source text, without the end of the input. -/
def all (source : String) : List Token :=
  place 0 (Lexeme.all source.toList)

/-- The tokens of a source text that carry meaning. -/
def significant (source : String) : List Token :=
  (all source).filter fun token => !token.kind.isTrivia

end Token

/-- A place in a source text from which tokens are read one at a time. -/
structure Cursor where
  /-- The text that is still to be read. -/
  rest : List Char
  /-- The number of bytes read so far. -/
  offset : Nat
  /-- Whether `next` has returned the end of the input. -/
  finished : Bool
  deriving Repr

namespace Cursor

/-- The start of a source text. -/
def start (source : String) : Cursor :=
  ⟨source.toList, 0, false⟩

/-- Reads the token under the cursor and moves past it. At the end of the text this is an empty
token, as often as it is asked for. -/
def read (cursor : Cursor) : Token × Cursor :=
  let (kind, text, rest) := Lexeme.split cursor.rest
  let text := String.ofList text
  (⟨⟨kind, text⟩, cursor.offset⟩, { cursor with rest, offset := cursor.offset + text.utf8ByteSize })

theorem read_rest_length {cursor : Cursor} (h : cursor.rest ≠ []) :
    cursor.read.2.rest.length < cursor.rest.length :=
  Lexeme.split_rest_length h

/-- Like `read`, but the end of the input comes only once. -/
def next (cursor : Cursor) : Option Token × Cursor :=
  if cursor.finished then (none, cursor)
  else
    let (token, after) := cursor.read
    (some token, { after with finished := token.kind = .endOfInput })

/-- All tokens that `next` still returns, and the cursor after them. -/
def drain (cursor : Cursor) : List Token × Cursor :=
  if cursor.finished then ([], cursor)
  else if h : cursor.rest = [] then
    ([cursor.read.1], { cursor.read.2 with finished := true })
  else
    have := read_rest_length h
    let (tokens, last) := drain cursor.read.2
    (cursor.read.1 :: tokens, last)
termination_by cursor.rest.length

end Cursor

end Varlink
