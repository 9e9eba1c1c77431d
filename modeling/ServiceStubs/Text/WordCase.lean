import ServiceStubs.Text.Letter

/-!
# Names in camel case, snake case and screaming snake case

A name is cut into words, and the words are joined again in the convention of a target language.
A word ends where a character is no letter or number, between a lower-case and an upper-case
character (`userId`), and before the last of several capitals when a lower-case one follows
(`HTTPServer` is `HTTP`, `Server`).
-/

namespace ServiceStubs.Text

/-! ## Words -/

/-- The case of the last character with a case in the word being read. -/
inductive WordMode where
  | boundary
  | lowercase
  | uppercase
deriving DecidableEq, Repr

/-- The mode once `c` has been read without ending the word. -/
def WordMode.after (mode : WordMode) (c : Char) : WordMode :=
  if isLowercase c then .lowercase else if isUppercase c then .uppercase else mode

/-- Words of a stretch of letters and numbers; `word` holds the characters read of the current one,
last first. -/
def humps (mode : WordMode) (word : List Char) : List Char → List (List Char)
  | [] => []
  | [c] => [(c :: word).reverse]
  | c :: next :: rest =>
    if mode.after c = .lowercase ∧ isUppercase next then
      (c :: word).reverse :: humps .boundary [] (next :: rest)
    else if mode = .uppercase ∧ isUppercase c ∧ isLowercase next then
      word.reverse :: humps .boundary [c] (next :: rest)
    else
      humps (mode.after c) (c :: word) (next :: rest)

/-- Stretches of letters and numbers of a text, in order; the empty ones between two other characters
are kept. -/
def stretches : List Char → List (List Char)
  | [] => [[]]
  | c :: cs =>
    match stretches cs with
    | [] => [[c]]
    | s :: rest => if isAlphanumeric c then (c :: s) :: rest else [] :: s :: rest

/-- The words of a name. -/
def words (name : List Char) : List (List Char) :=
  (stretches name).flatMap (humps .boundary [])

/-! ## Spelling a word -/

/-- A word in lower case; a sigma that ends the word takes its final form. -/
def lowerWord : List Char → List Char
  | [] => []
  | [c] => if c = 'Σ' then ['ς'] else toLower c
  | c :: rest => toLower c ++ lowerWord rest

/-- A word in upper case. -/
def upperWord (word : List Char) : List Char :=
  word.flatMap toUpper

/-- A word with its first character in upper case and the others in lower case. -/
def capitalized : List Char → List Char
  | [] => []
  | c :: rest => toUpper c ++ lowerWord rest

/-! ## Joining the words -/

/-- `UserId`. -/
def upperCamel (name : String) : String :=
  String.ofList ((words name.toList).flatMap capitalized)

/-- `userId`. -/
def lowerCamel (name : String) : String :=
  match words name.toList with
  | [] => ""
  | first :: rest => String.ofList (lowerWord first ++ rest.flatMap capitalized)

/-- `user_id`. -/
def snakeCase (name : String) : String :=
  String.ofList (['_'].intercalate ((words name.toList).map lowerWord))

/-- `USER_ID`. -/
def shoutySnakeCase (name : String) : String :=
  String.ofList (['_'].intercalate ((words name.toList).map upperWord))

end ServiceStubs.Text
