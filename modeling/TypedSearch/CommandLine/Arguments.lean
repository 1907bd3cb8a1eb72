import TypedSearch.CommandLine.Setting

/-!
Reading a command line (`Cli`, `Commands`). Its first word is a verb; the words after it give the
verb's settings, each at most once. A value stands in the word of its setting or in the next word,
which then must not look like a setting itself.

What is assumed is how the argument parser takes words that are declared so: which forms a setting may
have, and that misuse and a call for help end the program. The wording of complaints is this library's
own.
-/

namespace TypedSearch.CommandLine

inductive Misuse where
  | noVerb
  /-- A word that is no verb. -/
  | unknownVerb (word : String)
  /-- A setting that the verb does not take. -/
  | unknownSetting (word : String)
  /-- A word that belongs to no setting. -/
  | stray (word : String)
  /-- A setting without its value. -/
  | valueMissing (setting : Setting)
  | emptyPath (setting : Setting)
  /-- A name that takes no value and has one. -/
  | valueNotAllowed (name : String)
  /-- A setting that is given again. -/
  | repeated (setting : Setting)
  | settingMissing (setting : Setting)
  deriving DecidableEq, Repr

def Misuse.message : Misuse → String
  | noVerb => "a command is needed"
  | unknownVerb word => s!"unrecognized subcommand '{word}'"
  | unknownSetting word | stray word => s!"unexpected argument '{word}' found"
  | valueMissing setting | emptyPath setting => s!"a value is required for '--{setting.name}'"
  | valueNotAllowed name => s!"'--{name}' takes no value"
  | repeated setting => s!"the argument '--{setting.name}' cannot be used multiple times"
  | settingMissing setting => s!"the argument '--{setting.name}' was not provided"

/-- Why a command line is not carried out. -/
inductive Stop where
  /-- Help is asked for, on one verb or on all. -/
  | help (verb : Option Verb)
  | misuse (fault : Misuse)
  deriving DecidableEq, Repr

/-- The settings given so far, the last one first; a flag has the empty text. -/
abbrev Given := List (Setting × String)

def Given.value? (given : Given) (setting : Setting) : Option String := given.lookup setting

/-- Gives a setting, once and with a fitting value. -/
def Given.add (given : Given) (setting : Setting) (value : String) : Except Stop Given :=
  if setting.form = .path ∧ value.isEmpty then .error (.misuse (.emptyPath setting))
  else if (given.value? setting).isSome then .error (.misuse (.repeated setting))
  else .ok ((setting, value) :: given)

def Given.need (given : Given) (setting : Setting) : Except Stop String :=
  match given.value? setting with
  | some value => .ok value
  | none => .error (.misuse (.settingMissing setting))

/-- The value after an equals sign, if one stands there. -/
def afterEquals? : List Char → Option String
  | '=' :: value => some (String.ofList value)
  | _ => none

/-- The value that follows a letter in the same word, with or without an equals sign. -/
def afterLetter? (rest : List Char) : Option String :=
  match rest with
  | [] => none
  | '=' :: value => some (String.ofList value)
  | value => some (String.ofList value)

/-- Whether a word gives a setting or ends the settings, so that it cannot be a value of its own. -/
def looksLikeSetting (word : String) : Bool :=
  match word.toList with
  | '-' :: _ :: _ => true
  | _ => false

/-- The setting that a word gives to a verb, with the value that stands in the same word. -/
def readSetting (verb : Verb) (word : String) : Except Stop (Setting × Option String) :=
  match word.toList with
  | '-' :: '-' :: rest =>
    let name := String.ofList (rest.takeWhile (· ≠ '='))
    let value := afterEquals? (rest.dropWhile (· ≠ '='))
    if name = "help" then
      .error (if value.isNone then .help (some verb) else .misuse (.valueNotAllowed name))
    else
      match verb.settings.find? fun setting => setting.name = name with
      | some setting => .ok (setting, value)
      | none => .error (.misuse (.unknownSetting word))
  | '-' :: letter :: rest =>
    if letter = 'h' then .error (.help (some verb))
    else
      match verb.settings.find? fun setting => setting.letter? = some letter with
      | some setting => .ok (setting, afterLetter? rest)
      | none => .error (.misuse (.unknownSetting word))
  | _ => .error (.misuse (.stray word))

/-- Adds the settings that words give to those given before. -/
def collect (verb : Verb) (given : Given) : List String → Except Stop Given
  | [] => .ok given
  | ["--"] => .ok given
  | "--" :: extra :: _ => .error (.misuse (.stray extra))
  | word :: rest =>
    match readSetting verb word with
    | .error stop => .error stop
    | .ok (setting, some value) =>
      if setting.form = .flag then .error (.misuse (.valueNotAllowed setting.name))
      else do collect verb (← given.add setting value) rest
    | .ok (setting, none) =>
      if setting.form = .flag then do collect verb (← given.add setting "") rest
      else
        match rest with
        | [] => .error (.misuse (.valueMissing setting))
        | value :: others =>
          if looksLikeSetting value then .error (.misuse (.valueMissing setting))
          else do collect verb (← given.add setting value) others

inductive Task where
  /-- Print the API, as a value or as a text. -/
  | schema (asJson : Bool)
  | mappings
  | compile (dataset arguments : String)
  | search (dataset docs arguments : String)
  | validate
  deriving DecidableEq, Repr

def Task.paths : Task → List String
  | search _ docs _ => [docs]
  | _ => []

/-- A task on a catalog, with the settings that override its configuration. -/
structure Invocation where
  catalog : String
  /-- What stands before every index name. -/
  indexPrefix : Option String
  logQueries : Bool
  task : Task
  deriving DecidableEq, Repr

def Invocation.paths (invocation : Invocation) : List String :=
  invocation.catalog :: invocation.task.paths

/-- The arguments for a dataset; none are given by an empty object. -/
def Given.arguments (given : Given) : String := (given.value? .args).getD "\x7b\x7d"

def Given.task (given : Given) : Verb → Except Stop Task
  | .schema => .ok (.schema (given.value? .json).isSome)
  | .mappings => .ok .mappings
  | .compile => do return .compile (← given.need .dataset) given.arguments
  | .search => do return .search (← given.need .dataset) (← given.need .docs) given.arguments
  | .validate => .ok .validate

def Given.invocation (given : Given) (verb : Verb) : Except Stop Invocation := do
  return ⟨← given.need .catalog, given.value? .indexPrefix, (given.value? .logQueries).isSome,
    ← given.task verb⟩

/-- What is asked after the word for help: all verbs, or one of them. -/
def readHelp : List String → Stop
  | [] => .help none
  | [word] =>
    match Verb.ofName? word with
    | some verb => .help (some verb)
    | none => if word = "help" then .help none else .misuse (.unknownVerb word)
  | _ :: word :: _ => .misuse (.unknownVerb word)

def Invocation.ofWords : List String → Except Stop Invocation
  | [] => .error (.misuse .noVerb)
  | word :: rest =>
    match Verb.ofName? word with
    | some verb => do (← collect verb [] rest).invocation verb
    | none =>
      if word = "help" then .error (readHelp rest)
      else if word = "--help" ∨ word.startsWith "-h" then .error (.help none)
      else if looksLikeSetting word then .error (.misuse (.unknownSetting word))
      else .error (.misuse (.unknownVerb word))

end TypedSearch.CommandLine
