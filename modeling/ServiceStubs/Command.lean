import ServiceStubs.Files.Path
import ServiceStubs.Target
import ServiceStubs.Text.Split

/-!
# Commands

What the program is asked to do, and how that is written on the command line. Options begin with `-`; a value
follows its option as a word of its own, or in the same word. After the word `--` there are no options.

Main definitions:

* `Arguments.read?` tells options from other words;
* `Command.read?` reads a whole command line.
-/

namespace ServiceStubs

/-! ## Options -/

/-- An option that has a value. -/
structure ValueOption where
  name : String
  letter : Option Char
deriving DecidableEq, Repr

/-- The words after a command, sorted. -/
structure Arguments where
  /-- The values of options, by the names of the options, in the order in which they are given. -/
  values : List (String × String)
  others : List String
  verbose : Bool
deriving Repr

/-- Arguments of which some words have been read. -/
structure ArgumentReading where
  found : Arguments
  /-- The option of which the value comes next. -/
  awaited : Option String
  /-- Whether the word `--` has been read. -/
  optionsEnded : Bool

namespace ArgumentReading

/-- The reading that begins. -/
def start : ArgumentReading :=
  ⟨⟨[], [], false⟩, none, false⟩

/-- Takes the value of an option. -/
def addValue (r : ArgumentReading) (name value : String) : ArgumentReading :=
  { r with found := { r.found with values := r.found.values ++ [(name, value)] }, awaited := none }

/-- Takes a word that is neither an option nor the value of one. -/
def addOther (r : ArgumentReading) (word : String) : ArgumentReading :=
  { r with found := { r.found with others := r.found.others ++ [word] } }

/-- Takes the option that asks for more to be told. It may be given once. -/
def addVerbose? (r : ArgumentReading) : Option ArgumentReading :=
  if r.found.verbose then none else some { r with found := { r.found with verbose := true } }

/-- Takes the option of a name, with its value if that is in the same word. -/
def addNamed? (options : List ValueOption) (r : ArgumentReading) (name : String) (value : Option String) :
    Option ArgumentReading :=
  if name = "verbose" then
    if value.isSome then none else r.addVerbose?
  else if options.any fun o => o.name = name then
    match value with
    | some value => some (r.addValue name value)
    | none => some { r with awaited := some name }
  else none

/-- Takes the options of letters. What follows the letter of an option with a value is its value. -/
def addLetters? (options : List ValueOption) (r : ArgumentReading) : List Char → Option ArgumentReading
  | [] => some r
  | letter :: rest =>
    if letter = 'v' then r.addVerbose?.bind fun r => addLetters? options r rest
    else
      match options.find? fun o => o.letter = some letter with
      | none => none
      | some o =>
        match rest with
        | [] => some { r with awaited := some o.name }
        | '=' :: value => some (r.addValue o.name (String.ofList value))
        | value => some (r.addValue o.name (String.ofList value))

/-- Takes the next word. -/
def add? (options : List ValueOption) (r : ArgumentReading) (word : String) : Option ArgumentReading :=
  if r.optionsEnded then some (r.addOther word)
  else
    match word.toList, r.awaited with
    | ['-'], some name => some (r.addValue name word)
    | ['-'], none => some (r.addOther word)
    | '-' :: _, some _ => none
    | ['-', '-'], none => some { r with optionsEnded := true }
    | '-' :: '-' :: text, none =>
      let name := String.ofList (text.takeWhile (· ≠ '='))
      match text.dropWhile (· ≠ '=') with
      | [] => addNamed? options r name none
      | _ :: value => addNamed? options r name (some (String.ofList value))
    | '-' :: letters, none => addLetters? options r letters
    | _, some name => some (r.addValue name word)
    | _, none => some (r.addOther word)

end ArgumentReading

/-- Reads the words after a command that has the given options. -/
def Arguments.read? (options : List ValueOption) (words : List String) : Option Arguments := do
  let r ← words.foldlM (ArgumentReading.add? options) ArgumentReading.start
  if r.awaited.isSome then none
  return r.found

/-- The values of an option. -/
def Arguments.all (a : Arguments) (name : String) : List String :=
  (a.values.filter fun v => v.1 = name).map Prod.snd

/-- The value of an option that may be given at most once. -/
def Arguments.atMostOne? (a : Arguments) (name : String) : Option (Option String) :=
  match a.all name with
  | [] => some none
  | [value] => some (some value)
  | _ => none

/-! ## Commands -/

/-- What the program is asked to do. -/
inductive Command where
  /-- Write clients; of those that are listed, or of those in the configuration. -/
  | generate (config : String) (targets : List Target) (directories : List String)
      (summary : Option String)
  /-- Tell what there is to call. -/
  | summarize (config : String)
  /-- Fill in the address of the service. -/
  | link (url directory : String)
deriving DecidableEq, Repr

/-- A path, which must not be empty. -/
def path? (word : String) : Option String :=
  if word = "" then none else some word

/-- The option that tells where the configuration is. -/
def configOption : ValueOption := ⟨"config", none⟩

/-- The path of the configuration. -/
def Arguments.config? (a : Arguments) (default : String) : Option String := do
  path? ((← a.atMostOne? configOption.name).getD default)

/-- Reads the words of a command that writes clients. -/
def readGenerate? (defaultConfig : String) (words : List String) : Option Command := do
  let a ← Arguments.read?
    [configOption, ⟨"language", some 'l'⟩, ⟨"output", some 'o'⟩, ⟨"summary", none⟩] words
  if !a.others.isEmpty then none
  let targets ← (a.all "language").mapM fun name => (Target.ofName name).toOption
  let directories ← (a.all "output").mapM path?
  let summary ← (← a.atMostOne? "summary").mapM path?
  return .generate (← a.config? defaultConfig) targets directories summary

/-- Reads the words of a command that tells what there is to call. -/
def readSummarize? (defaultConfig : String) (words : List String) : Option Command := do
  let a ← Arguments.read? [configOption] words
  if !a.others.isEmpty then none
  return .summarize (← a.config? defaultConfig)

/-- Reads the words of a command that fills in an address. -/
def readLink? (words : List String) : Option Command := do
  let a ← Arguments.read? [⟨"url", none⟩] words
  match a.others with
  | [directory] => return .link (← (← a.atMostOne? "url")) (← path? directory)
  | _ => none

/-- The words after the option that asks for more to be told, if they begin with it. -/
def dropVerbose : List String → List String
  | word :: rest => if word = "-v" ∨ word = "--verbose" then rest else word :: rest
  | [] => []

/-- Reads a command line. -/
def Command.read? (defaultConfig : String) (words : List String) : Option Command :=
  match dropVerbose words with
  | "generate" :: words => readGenerate? defaultConfig words
  | "summary" :: words => readSummarize? defaultConfig words
  | "link" :: words => readLink? words
  | _ => none

end ServiceStubs
