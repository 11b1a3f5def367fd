import TerseMarkup.Command.Usage
import TerseMarkup.Output.Json
import TerseMarkup.Output.Yaml
import TerseMarkup.Settings.Loader
import TerseMarkup.Storage.Folder

/-!
# Carrying out a command

A command reads its configuration, then its source, and comes to an exit code
and two texts. The exit code is 0 if nothing is reported, 1 if something is,
and 2 if the command cannot be carried out.
-/

namespace TerseMarkup.Command

/-- What a command can read: standard input, and the content of each file or
why it cannot be read. -/
structure Surroundings where
  input : ByteArray := .empty
  file : String → Except ReadError ByteArray

def notText : String := "stream did not contain valid UTF-8"

/-- Surroundings with just the files of a folder. -/
def Surroundings.ofFolder (input : ByteArray) (folder : Folder) :
    Surroundings where
  input := input
  file := folder.read

def Surroundings.source (surroundings : Surroundings) (path : String) :
    Except String String := do
  let content ←
    if path = "-" then .ok surroundings.input
    else (surroundings.file path).mapError ReadError.message
  match String.fromUTF8? content with
  | some source => .ok source
  | none => .error notText

structure Outcome where
  code : Nat
  output : String := ""
  errors : String := ""
  deriving DecidableEq, Repr

namespace Outcome

def failure (message : String) : Outcome where
  code := 2
  errors := message ++ "\n"

/-- The exit code of a command that was carried out with these reports. -/
def codeOf (diagnostics : List Diagnostic) : Nat :=
  if diagnostics.isEmpty then 0 else 1

def reportLines (diagnostics : List Diagnostic) : String :=
  String.join (diagnostics.map fun report => report.display ++ "\n")

end Outcome

def Request.configuration (request : Request) (surroundings : Surroundings) :
    Except ConfigurationError Configuration :=
  let loader : Loader :=
    match request.config with
    | some name => Loader.addFile {} name true
    | none => {}
  loader.load surroundings.file

/-- The bindings of a request: those of its configuration, with its own
definitions over them. -/
def Request.bindings (request : Request) (configuration : Configuration) :
    Bindings :=
  request.definitions.foldl
    (fun bindings (name, value) => bindings.insert name value)
    configuration.bindings

/-- Compiles a source and prints it in a format. With data the reports are
part of the output. -/
def compileOutcome (format : Format) (compilation : Compilation) : Outcome :=
  let code := Outcome.codeOf compilation.diagnostics
  match format with
  | .html =>
      { code := code
        output := compilation.html
        errors := Outcome.reportLines compilation.diagnostics }
  | .json => { code := code, output := Json.document compilation.datum }
  | .yaml => { code := code, output := Yaml.document compilation.datum }

def checkOutcome (compilation : Compilation) : Outcome where
  code := Outcome.codeOf compilation.diagnostics
  output := Outcome.reportLines compilation.diagnostics

def treeOutcome (format : Format) (parsed : Parsed) : Outcome where
  code := Outcome.codeOf parsed.diagnostics
  output :=
    match format with
    | .yaml => Yaml.document (Document.datum parsed.document)
    | _ => Json.document (Document.datum parsed.document)
  errors := Outcome.reportLines parsed.diagnostics

def Request.outcomeOn
    (verb : Verb) (request : Request) (configuration : Configuration)
    (source : String) : Outcome :=
  let compiled :=
    compile configuration.compile
      (request.bindings configuration).evaluator source
  match verb with
  | .compile => compileOutcome request.format compiled
  | .check => checkOutcome compiled
  | .tree =>
      treeOutcome request.format (Document.parse configuration.compile source)

def Request.outcome
    (verb : Verb) (request : Request) (surroundings : Surroundings) :
    Outcome :=
  match request.configuration surroundings with
  | .error error =>
      .failure ("Error loading configuration: " ++ error.message)
  | .ok configuration =>
      match surroundings.source request.path with
      | .error message =>
          .failure ("Error reading " ++ request.path ++ ": " ++ message)
      | .ok source => request.outcomeOn verb configuration source

/-- The files that carrying out an invocation may read. -/
def Invocation.files : Invocation → List String
  | .run _ request =>
      (match request.config with
        | some name => name :: (Loader.fallback? name).toList
        | none => []) ++
      (if request.path = "-" then [] else [request.path])
  | _ => []

def Invocation.readsInput : Invocation → Bool
  | .run _ request => request.path == "-"
  | _ => false

def Invocation.outcome (surroundings : Surroundings) : Invocation → Outcome
  | .version => { code := 0, output := versionText }
  | .help verb => { code := 0, output := helpText verb }
  | .run verb request => request.outcome verb surroundings

def run (arguments : List String) (surroundings : Surroundings) : Outcome :=
  match Invocation.read arguments with
  | .error error => .failure ("error: " ++ error.message)
  | .ok invocation => invocation.outcome surroundings

end TerseMarkup.Command
