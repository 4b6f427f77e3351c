import CallLibrary.Command.Shell
import CallLibrary.Manifest.Load

/-!
# Requests

The arguments of the command ask for one thing: a subcommand with its options, help, or the version.
Arguments are read from the first to the last, and the first one that settles the matter, by a
mistake or by asking for help, does so without regard to the rest. What is missing is noticed last.
-/

namespace CallLibrary.Command

inductive Verb
  | generate
  | check
  | completions
  deriving DecidableEq, Repr

namespace Verb

def name : Verb → String
  | .generate => "generate"
  | .check => "check"
  | .completions => "completions"

def ofName? (name : String) : Option Verb :=
  [Verb.generate, .check, .completions].find? fun verb => verb.name == name

end Verb

/-- What help is asked for. -/
inductive Topic
  | program
  | verb (verb : Verb)
  | help
  deriving DecidableEq, Repr

inductive Request
  /-- To generate a library, into a directory if one is given. -/
  | generate (manifest : String) (output : Option String)
  | check (manifest : String)
  | completions (shell : Shell)
  | help (topic : Topic)
  | version
  deriving DecidableEq, Repr

/-- Why arguments ask for nothing. -/
inductive UsageError
  | missingVerb
  | unknownVerb (word : String)
  | unknownOption (word : String)
  | needlessValue (option : String)
  | missingValue (option : String)
  | emptyValue (option : String)
  | repeatedOption (option : String)
  | unknownShell (word : String)
  | missingShell
  | surplusWord (word : String)
  deriving DecidableEq, Repr

def UsageError.message : UsageError → String
  | .missingVerb => "a subcommand is required"
  | .unknownVerb word => "unrecognized subcommand '" ++ word ++ "'"
  | .unknownOption word => "unexpected option '" ++ word ++ "'"
  | .needlessValue option => "option '--" ++ option ++ "' takes no value"
  | .missingValue option => "option '--" ++ option ++ "' requires a value"
  | .emptyValue option => "the value of option '--" ++ option ++ "' is empty"
  | .repeatedOption option => "option '--" ++ option ++ "' cannot be used multiple times"
  | .unknownShell word => "unknown shell '" ++ word ++ "'"
  | .missingShell => "a shell is required"
  | .surplusWord word => "unexpected argument '" ++ word ++ "'"

/-- An option, with or without a value. -/
inductive Switch
  | verbose
  | help
  | version
  | manifest
  | output
  deriving DecidableEq, Repr

namespace Switch

def name : Switch → String
  | .verbose => "verbose"
  | .help => "help"
  | .version => "version"
  | .manifest => "manifest"
  | .output => "output"

def letter : Switch → Char
  | .verbose => 'v'
  | .help => 'h'
  | .version => 'V'
  | .manifest => 'm'
  | .output => 'o'

/-- The options of a subcommand, or of the command without one. -/
def allowed : Option Verb → List Switch
  | none => [.verbose, .help, .version]
  | some .generate => [.manifest, .output, .verbose, .help]
  | some .check => [.manifest, .verbose, .help]
  | some .completions => [.verbose, .help]

end Switch

inductive Argument
  /-- Two dashes: no options follow. -/
  | separator
  /-- A long name, and the value after an equals sign. -/
  | long (name : String) (value : Option String)
  /-- Short names, or one with a value. -/
  | short (letters : List Char)
  | word (text : String)
  deriving DecidableEq, Repr

/-- The form of an argument. A lone dash is a word. -/
def Argument.ofText (text : String) : Argument :=
  match text.toList with
  | ['-', '-'] => .separator
  | '-' :: '-' :: rest =>
    let name := rest.takeWhile (· != '=')
    match rest.drop name.length with
    | [] => .long (String.ofList name) none
    | _ :: value => .long (String.ofList name) (some (String.ofList value))
  | '-' :: c :: rest => .short (c :: rest)
  | _ => .word text

/-- A request with parts that may still be missing. -/
structure RequestDraft where
  manifest : Option String := none
  output : Option String := none
  shell : Option Shell := none
  deriving DecidableEq, Repr

inductive Progress
  | next (draft : RequestDraft)
  /-- The next argument is the option's value. -/
  | await (switch : Switch) (draft : RequestDraft)
  | done (request : Request)
  deriving DecidableEq, Repr

namespace RequestDraft

/-- Sets the value of an option. It may be set once and cannot be empty. -/
def setValue (draft : RequestDraft) (switch : Switch) (value : String) :
    Except UsageError RequestDraft :=
  if value.isEmpty then .error (.emptyValue switch.name)
  else match switch with
    | .manifest =>
      if draft.manifest.isSome then .error (.repeatedOption switch.name)
      else .ok { draft with manifest := some value }
    | .output =>
      if draft.output.isSome then .error (.repeatedOption switch.name)
      else .ok { draft with output := some value }
    | _ => .error (.needlessValue switch.name)

def addWord (draft : RequestDraft) (verb : Verb) (word : String) :
    Except UsageError RequestDraft :=
  match verb, draft.shell with
  | .completions, none =>
    match Shell.ofName? word with
    | some shell => .ok { draft with shell := some shell }
    | none => .error (.unknownShell word)
  | _, _ => .error (.surplusWord word)

def finish (draft : RequestDraft) (verb : Verb) : Except UsageError Request :=
  let manifest := draft.manifest.getD Manifest.standardFile
  match verb with
  | .generate => .ok (.generate manifest draft.output)
  | .check => .ok (.check manifest)
  | .completions =>
    match draft.shell with
    | some shell => .ok (.completions shell)
    | none => .error .missingShell

def addSwitch (draft : RequestDraft) (verb : Option Verb) : Switch → Progress
  | .verbose => .next draft
  | .help => .done (.help (verb.elim .program .verb))
  | .version => .done .version
  | switch => .await switch draft

/-- Takes short options written together. What follows an option with a value is the value. -/
def addLetters (draft : RequestDraft) (verb : Option Verb) : List Char → Except UsageError Progress
  | [] => .ok (.next draft)
  | c :: rest =>
    match (Switch.allowed verb).find? fun switch => switch.letter == c with
    | none => .error (.unknownOption (String.ofList ['-', c]))
    | some switch =>
      match draft.addSwitch verb switch, rest with
      | .next draft, rest => draft.addLetters verb rest
      | .done request, _ => .ok (.done request)
      | .await switch draft, [] => .ok (.await switch draft)
      | .await switch draft, d :: others => do
        let value := if d = '=' then others else d :: others
        let draft ← draft.setValue switch (String.ofList value)
        return .next draft

def addLong (draft : RequestDraft) (verb : Option Verb) (name : String) (value : Option String) :
    Except UsageError Progress :=
  match (Switch.allowed verb).find? fun switch => switch.name == name with
  | none => .error (.unknownOption ("--" ++ name))
  | some switch =>
    match value, draft.addSwitch verb switch with
    | none, progress => .ok progress
    | some value, .await switch draft => do
      let draft ← draft.setValue switch value
      return .next draft
    | some _, _ => .error (.needlessValue name)

end RequestDraft

/-- Reads arguments after which there are no options. -/
def readWords (verb : Verb) (draft : RequestDraft) : List String → Except UsageError Request
  | [] => draft.finish verb
  | word :: rest => do
    let draft ← draft.addWord verb word
    readWords verb draft rest

/-- Reads the value of an option. An argument in the form of an option is no value. -/
def readValue (draft : RequestDraft) (switch : Switch) (argument : String) :
    Except UsageError RequestDraft :=
  match Argument.ofText argument with
  | .word value => draft.setValue switch value
  | _ => .error (.missingValue switch.name)

/-- Reads the arguments of a subcommand. `awaited` is an option whose value comes next. -/
def readArguments (verb : Verb) (awaited : Option Switch) (draft : RequestDraft) :
    List String → Except UsageError Request
  | [] =>
    match awaited with
    | some switch => .error (.missingValue switch.name)
    | none => draft.finish verb
  | argument :: rest =>
    match awaited with
    | some switch => do
      let draft ← readValue draft switch argument
      readArguments verb none draft rest
    | none => do
      let progress ← match Argument.ofText argument with
        | .separator => .done <$> readWords verb draft rest
        | .word word => .next <$> draft.addWord verb word
        | .long name value => draft.addLong (some verb) name value
        | .short letters => draft.addLetters (some verb) letters
      match progress with
      | .done request => return request
      | .next draft => readArguments verb none draft rest
      | .await switch draft => readArguments verb (some switch) draft rest

def helpOn : List String → Except UsageError Request
  | [] => .ok (.help .program)
  | [word] =>
    if word = "help" then .ok (.help .help)
    else match Verb.ofName? word with
      | some verb => .ok (.help (.verb verb))
      | none => .error (.unknownVerb word)
  | word :: next :: _ =>
    if word = "help" || (Verb.ofName? word).isSome then .error (.unknownVerb next)
    else .error (.unknownVerb word)

def Request.ofArguments : List String → Except UsageError Request
  | [] => .error .missingVerb
  | argument :: rest => do
    let progress ← match Argument.ofText argument with
      | .separator => .error (rest.head?.elim .missingVerb .surplusWord)
      | .word word =>
        if word = "help" then .done <$> helpOn rest
        else match Verb.ofName? word with
          | some verb => .done <$> readArguments verb none {} rest
          | none => .error (.unknownVerb word)
      | .long name value => RequestDraft.addLong {} none name value
      | .short letters => RequestDraft.addLetters {} none letters
    match progress with
    | .done request => return request
    | .next _ => Request.ofArguments rest
    | .await switch _ => .error (.missingValue switch.name)

end CallLibrary.Command
