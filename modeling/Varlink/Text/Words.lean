import Varlink.Text.Alphanumeric
import Varlink.Text.Case

/-!
# The words of a name

A name is read as a sequence of words: it is cut at every character that is not alphanumeric, and
within the remaining pieces where the case changes, as in `placeOrder` or `HTTPServer`. The three
spellings below put the words together again. Each of them loses the cuts, so different names may
get the same spelling; what the spelling stands for is kept elsewhere.
-/

namespace Varlink.Text

/-- The pieces between the characters that satisfy `cut`. -/
def splitWhere (cut : Char → Bool) : List Char → List (List Char)
  | [] => [[]]
  | c :: rest =>
    if cut c then [] :: splitWhere cut rest
    else
      match splitWhere cut rest with
      | [] => [[c]]
      | piece :: pieces => (c :: piece) :: pieces

/-- The case of the last cased character of a word, if it has one. -/
inductive WordCase where
  | uncased
  | lower
  | upper
  deriving DecidableEq, Repr

/-- The case of a word once `c` is added: an uncased character does not change it. -/
def WordCase.after (mode : WordCase) (c : Char) : WordCase :=
  if isLowercase c then .lower else if isUppercase c then .upper else mode

/-- Cuts a piece after a lowercase run that meets an uppercase character, and before the last
uppercase character of a run that meets a lowercase one. `word` is the current word backwards. -/
def humps (mode : WordCase) (word : List Char) : List Char → List (List Char)
  | [] => if word.isEmpty then [] else [word.reverse]
  | [c] => [(c :: word).reverse]
  | c :: next :: rest =>
    if mode.after c = .lower && isUppercase next then
      (c :: word).reverse :: humps .uncased [] (next :: rest)
    else if mode = .upper && isUppercase c && isLowercase next then
      word.reverse :: humps .uncased [c] (next :: rest)
    else
      humps (mode.after c) (c :: word) (next :: rest)

/-- The words of a name. -/
def words (name : String) : List (List Char) :=
  (splitWhere (fun c => !isAlphanumeric c) name.toList).flatMap (humps .uncased [])

/-- A word in lowercase. A sigma at the end of a word has a form of its own. -/
def lowerWord : List Char → List Char
  | [] => []
  | ['Σ'] => ['ς']
  | c :: rest => lowercase c ++ lowerWord rest

/-- A word with its first character in uppercase and the rest in lowercase. -/
def capitalWord : List Char → List Char
  | [] => []
  | c :: rest => uppercase c ++ lowerWord rest

/-- The lowercase words of a name, joined by low lines. -/
def snakeCase (name : String) : String :=
  "_".intercalate ((words name).map fun word => String.ofList (lowerWord word))

/-- The capitalized words of a name, joined without a mark. -/
def pascalCase (name : String) : String :=
  String.ofList ((words name).flatMap capitalWord)

/-- The words of a name joined without a mark, all but the first one capitalized. -/
def camelCase (name : String) : String :=
  match words name with
  | [] => ""
  | first :: rest => String.ofList (lowerWord first ++ rest.flatMap capitalWord)

end Varlink.Text
