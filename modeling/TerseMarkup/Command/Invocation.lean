import TerseMarkup.Text.Blank

/-!
# Command line arguments

A command line names a command, a path and flags. Flags with a value are
written `--flag value`, `--flag=value`, `-f value`, `-fvalue` or `-f=value`,
and `--` ends them. A value does not start with a dash unless it is one dash
alone or is written in the same argument.
-/

namespace TerseMarkup.Command

inductive Verb where
  | compile
  | check
  | tree
  deriving DecidableEq, Repr

def Verb.name : Verb → String
  | compile => "compile"
  | check => "check"
  | tree => "ast"

def Verb.ofName? (name : String) : Option Verb :=
  [compile, check, tree].find? (·.name == name)

inductive Format where
  | html
  | json
  | yaml
  deriving DecidableEq, Repr

def Format.name : Format → String
  | html => "html"
  | json => "json"
  | yaml => "yaml"

/-- The formats that a command can write, the usual one first. -/
def Verb.formats : Verb → List Format
  | compile => [.html, .json, .yaml]
  | check => []
  | tree => [.json, .yaml]

/-- The flags that take a value. -/
inductive Flag where
  | config
  | format
  | define
  deriving DecidableEq, Repr

def Flag.name : Flag → String
  | config => "config"
  | format => "format"
  | define => "define"

def Flag.letter : Flag → Char
  | config => 'c'
  | format => 'f'
  | define => 'D'

def Verb.flags : Verb → List Flag
  | compile => [.config, .format, .define]
  | check => [.config]
  | tree => [.config, .format]

inductive UsageError where
  | missingCommand
  | unknownCommand (name : String)
  | unexpected (argument : String)
  | missingValue (flag : Flag)
  | repeated (flag : Flag)
  | badValue (flag : Flag) (value : String)
  | missingPath
  deriving DecidableEq, Repr

def UsageError.message : UsageError → String
  | missingCommand => "a command is required"
  | unknownCommand name => "unrecognized command '" ++ name ++ "'"
  | unexpected argument => "unexpected argument '" ++ argument ++ "'"
  | missingValue flag => "a value is required for '--" ++ flag.name ++ "'"
  | repeated flag => "'--" ++ flag.name ++ "' cannot be used multiple times"
  | badValue flag value =>
      "invalid value '" ++ value ++ "' for '--" ++ flag.name ++ "'"
  | missingPath => "a path is required"

structure Request where
  path : String
  config : Option String := none
  format : Format := .html
  definitions : List (String × String) := []
  deriving DecidableEq, Repr

inductive Invocation where
  | version
  | help (verb : Option Verb)
  | run (verb : Verb) (request : Request)
  deriving DecidableEq, Repr

/-- The arguments of a command as far as they are read. -/
structure Given where
  path : Option String := none
  config : Option String := none
  format : Option Format := none
  definitions : List (String × String) := []
  deriving DecidableEq, Repr

/-! ## Values -/

/-- Reads a value of an expression: a name, which is not blank, an equals sign
and the value. -/
def definition? (value : String) : Option (String × String) :=
  let characters := value.toList
  let name := Text.trim (characters.takeWhile (· ≠ '='))
  match characters.dropWhile (· ≠ '=') with
  | [] => none
  | _ :: rest =>
      if name.isEmpty then none
      else some (String.ofList name, String.ofList rest)

def Given.setFlag (given : Given) (verb : Verb) (flag : Flag)
    (value : String) : Except UsageError Given :=
  match flag with
  | .config =>
      if given.config.isSome then .error (.repeated flag)
      else .ok { given with config := some value }
  | .format =>
      if given.format.isSome then .error (.repeated flag)
      else
        match verb.formats.find? (·.name == value) with
        | some format => .ok { given with format := some format }
        | none => .error (.badValue flag value)
  | .define =>
      match definition? value with
      | some definition =>
          .ok { given with definitions := given.definitions ++ [definition] }
      | none => .error (.badValue flag value)

def Given.setPath (given : Given) (path : String) :
    Except UsageError Given :=
  if given.path.isSome then .error (.unexpected path)
  else .ok { given with path := some path }

/-! ## Arguments -/

/-- What an argument is by itself. A plain one is a path or the value of the
flag before; an unknown one starts with a dash and has no meaning. -/
inductive Argument where
  | flagsEnd
  | flag (flag : Flag) (value : Option String)
  | help
  | plain
  | unknown
  deriving DecidableEq, Repr

def isValue (argument : String) : Bool :=
  match argument.toList with
  | ['-'] => true
  | '-' :: _ => false
  | _ => true

/-- What an argument after two dashes is. -/
def classifyLong (flags : List Flag) (text : List Char) : Argument :=
  let name := String.ofList (text.takeWhile (· ≠ '='))
  let value :=
    match text.dropWhile (· ≠ '=') with
    | [] => none
    | _ :: rest => some (String.ofList rest)
  if name = "help" ∧ value = none then .help
  else
    match flags.find? (·.name == name) with
    | some flag => .flag flag value
    | none => .unknown

/-- What an argument after one dash is. -/
def classifyShort (flags : List Flag) (letter : Char) (text : List Char) :
    Argument :=
  let value :=
    match text with
    | [] => none
    | '=' :: rest => some (String.ofList rest)
    | _ => some (String.ofList text)
  if letter = 'h' then .help
  else
    match flags.find? (·.letter == letter) with
    | some flag => .flag flag value
    | none => .unknown

def classify (flags : List Flag) (argument : String) : Argument :=
  match argument.toList with
  | ['-', '-'] => .flagsEnd
  | '-' :: '-' :: text => classifyLong flags text
  | ['-'] => .plain
  | '-' :: letter :: text => classifyShort flags letter text
  | _ => .plain

inductive Asked where
  | help
  | run (given : Given)
  deriving DecidableEq, Repr

/-- Reads the arguments after the end of the flags. -/
def readPaths (given : Given) : List String → Except UsageError Given
  | [] => .ok given
  | path :: rest => do readPaths (← given.setPath path) rest

def readArguments (verb : Verb) (given : Given) :
    List String → Except UsageError Asked
  | [] => .ok (.run given)
  | argument :: rest =>
      match classify verb.flags argument with
      | .flagsEnd => do return .run (← readPaths given rest)
      | .help => .ok .help
      | .unknown => .error (.unexpected argument)
      | .plain => do readArguments verb (← given.setPath argument) rest
      | .flag flag (some value) => do
          readArguments verb (← given.setFlag verb flag value) rest
      | .flag flag none =>
          match rest with
          | [] => .error (.missingValue flag)
          | value :: rest =>
              if isValue value then do
                readArguments verb (← given.setFlag verb flag value) rest
              else .error (.missingValue flag)

def Given.request (given : Given) (verb : Verb) :
    Except UsageError Request :=
  match given.path with
  | none => .error .missingPath
  | some path =>
      .ok
        { path := path
          config := given.config
          format := given.format.getD (verb.formats.head?.getD .html)
          definitions := given.definitions }

def Invocation.readVerb (verb : Verb) (arguments : List String) :
    Except UsageError Invocation := do
  match ← readArguments verb {} arguments with
  | .help => return .help (some verb)
  | .run given => return .run verb (← given.request verb)

/-- Reads what comes after a request for help: at most the name of a
command. -/
def Invocation.readHelp : List String → Except UsageError Invocation
  | [] => .ok (.help none)
  | name :: rest =>
      match Verb.ofName? name, rest with
      | some verb, [] => .ok (.help (some verb))
      | some _, extra :: _ => .error (.unknownCommand extra)
      | none, [] =>
          if name = "help" then .ok (.help none)
          else .error (.unknownCommand name)
      | none, _ => .error (.unknownCommand name)

def Invocation.read : List String → Except UsageError Invocation
  | [] => .error .missingCommand
  | argument :: rest =>
      match argument.toList with
      | '-' :: '-' :: _ =>
          if argument = "--version" then .ok .version
          else if argument = "--help" then .ok (.help none)
          else .error (.unexpected argument)
      | '-' :: 'V' :: _ => .ok .version
      | '-' :: 'h' :: _ => .ok (.help none)
      | '-' :: _ => .error (.unexpected argument)
      | _ =>
          match Verb.ofName? argument with
          | some verb => Invocation.readVerb verb rest
          | none =>
              if argument = "help" then Invocation.readHelp rest
              else .error (.unknownCommand argument)

end TerseMarkup.Command
