import TerseMarkup.Expression.Evaluator
import TerseMarkup.Options
import TerseMarkup.Settings.KeyPath
import TerseMarkup.Storage.Path
import TerseMarkup.Storage.ReadError
import TerseMarkup.Toml.Document

/-!
# Loading a configuration

A configuration starts from built-in settings. Files are laid over them in
order, and single settings over all files.
-/

namespace TerseMarkup

structure Configuration where
  compile : Options := {}
  bindings : Bindings := {}
  deriving DecidableEq, Repr

/-- Why a configuration cannot be loaded. The setting at a `badType` path
cannot be converted; a part of `badShape` is no table or lacks a setting. -/
inductive ConfigurationError where
  | badPath (path : String)
  | badFile (name : String)
  | missingFile (name : String)
  | badType (path : String)
  | badShape (part : String)
  deriving DecidableEq, Repr

def ConfigurationError.message : ConfigurationError → String
  | badPath path => "invalid key path `" ++ path ++ "`"
  | badFile name => "cannot parse \"" ++ name ++ "\""
  | missingFile name => "configuration file \"" ++ name ++ "\" not found"
  | badType path => "invalid type for key `" ++ path ++ "`"
  | badShape part => "invalid table `" ++ part ++ "`"

/-! ## From settings to a configuration -/

namespace Configuration

def joinPath (outer inner : String) : String :=
  match inner.toList with
  | [] => outer
  | '[' :: _ => outer ++ inner
  | _ => outer ++ "." ++ inner

def number (largest : Nat) (path : String) (setting : Setting) :
    Except ConfigurationError Nat :=
  match setting.number? with
  | some value => if value ≤ largest then .ok value else .error (.badType path)
  | none => .error (.badType path)

def text (path : String) (setting : Setting) :
    Except ConfigurationError String :=
  match setting.text? with
  | some value => .ok value
  | none => .error (.badType path)

def largestRepeat : Nat := 0xFFFFFFFF

/-- The options, each from the setting that `find` gives for its name and its
position, together with the path to it. -/
def optionsFrom
    (find : String → Nat → Except ConfigurationError (String × Setting)) :
    Except ConfigurationError Options := do
  let (path, setting) ← find "max_repeat" 0
  let maxRepeat ← number largestRepeat path setting
  let (path, setting) ← find "max_block_depth" 1
  let maxBlockDepth ← number Setting.largestNumber path setting
  let (path, setting) ← find "max_elements" 2
  let maxElements ← number Setting.largestNumber path setting
  let (path, setting) ← find "error_marker" 3
  let errorMarker ← text path setting
  return {
    maxRepeat := maxRepeat
    maxBlockDepth := maxBlockDepth
    maxElements := maxElements
    errorMarker := errorMarker }

/-- The options that a table gives by name, or a list by position. -/
def optionsOf : Setting → Except ConfigurationError Options
  | .table entries =>
      optionsFrom fun name _ =>
        match entries.lookup name with
        | some setting => .ok (joinPath "compile" name, setting)
        | none => .error (.badShape "compile")
  | .list items =>
      optionsFrom fun _ position =>
        match items[position]? with
        | some setting =>
            .ok (joinPath "compile" ("[" ++ toString position ++ "]"), setting)
        | none => .error (.badShape "compile")
  | _ => .error (.badShape "compile")

def bindingsOf : Setting → Except ConfigurationError Bindings
  | .table entries => do
      let values ← entries.mapM fun (name, setting) => do
        return (name, ← text (joinPath "bindings" name) setting)
      return ⟨values⟩
  | _ => .error (.badShape "bindings")

def ofSetting (settings : Setting) :
    Except ConfigurationError Configuration := do
  let compile ←
    match settings.get? "compile" with
    | some setting => optionsOf setting
    | none => .error (.badShape "compile")
  let bindings ←
    match settings.get? "bindings" with
    | some setting => bindingsOf setting
    | none => .ok {}
  return { compile := compile, bindings := bindings }

/-- The settings that a configuration starts from. -/
def defaults : Setting :=
  let options : Options := {}
  .table
    [("compile", .table
      [("max_repeat", .integer options.maxRepeat),
        ("max_block_depth", .integer options.maxBlockDepth),
        ("max_elements", .integer options.maxElements),
        ("error_marker", .text options.errorMarker)]),
      ("bindings", .table [])]

end Configuration

/-! ## Layers -/

/-- A file that is laid over the settings before it. -/
structure FileLayer where
  name : String
  isRequired : Bool
  deriving DecidableEq, Repr

/-- What a configuration is put together from: files and then single settings,
each in order. -/
structure Loader where
  files : List FileLayer := []
  overrides : List (KeyPath × Setting) := []

namespace Loader

def addFile (loader : Loader) (name : String) (isRequired : Bool) : Loader :=
  { loader with files := loader.files ++ [⟨name, isRequired⟩] }

def addOverride (loader : Loader) (path : String) (value : Setting) :
    Except ConfigurationError Loader :=
  match KeyPath.read? path.toList with
  | some read =>
      .ok { loader with overrides := loader.overrides ++ [(read, value)] }
  | none => .error (.badPath path)

/-- The name under which a file is looked for if there is none under its own
name. -/
def fallback? (name : String) : Option String :=
  Path.withEnding? ".toml" name

/-- The content of the file with a name, or of the one with `.toml` after its
name if there is no file with the name itself. -/
def findFile
    (files : String → Except ReadError ByteArray) (name : String) :
    Except ReadError ByteArray :=
  match files name, fallback? name with
  | .error error, some other =>
      if error.isAbsence then files other else .error error
  | found, _ => found

def findText?
    (files : String → Except ReadError ByteArray) (name : String) :
    Option String :=
  match findFile files name with
  | .ok content => String.fromUTF8? content
  | .error _ => none

def applyFile
    (files : String → Except ReadError ByteArray) (settings : Setting)
    (layer : FileLayer) : Except ConfigurationError Setting :=
  match findText? files layer.name with
  | none =>
      if layer.isRequired then .error (.missingFile layer.name)
      else .ok settings
  | some content =>
      match Toml.read? content.toList with
      | some read => .ok (settings.overlay read)
      | none => .error (.badFile layer.name)

def load
    (loader : Loader) (files : String → Except ReadError ByteArray) :
    Except ConfigurationError Configuration := do
  let layered ←
    loader.files.foldlM (applyFile files) Configuration.defaults
  let settings :=
    loader.overrides.foldl
      (fun settings (path, value) => path.set value settings) layered
  Configuration.ofSetting settings

end Loader

end TerseMarkup
