import TerseMarkup.Command.Invocation

/-!
# How the program is used

The texts that answer a request for help or for the version.
-/

namespace TerseMarkup.Command

def versionText : String := "shorthand 0.1.0\n"

def Verb.about : Verb → String
  | compile => "Compile a file and print the result"
  | check => "Compile a file and print only its diagnostics"
  | tree => "Print the parsed syntax tree"

def Flag.about (verb : Verb) : Flag → String
  | config => "TOML file layered over the built-in defaults"
  | format =>
      let names := verb.formats.map Format.name
      "Output format [default: " ++ names.head?.getD "" ++
        "] [possible values: " ++ ", ".intercalate names ++ "]"
  | define => "Value for an embedded expression, as name=value"

def Flag.usage (verb : Verb) (flag : Flag) : String :=
  "  -" ++ String.singleton flag.letter ++ ", --" ++ flag.name ++ " <" ++
    flag.name ++ ">  " ++ flag.about verb ++ "\n"

def programHelp : String :=
  "Compile shorthand markup into HTML\n\n" ++
    "Usage: shorthand <COMMAND>\n\n" ++
    "Commands:\n" ++
    "  compile  " ++ Verb.about .compile ++ "\n" ++
    "  check    " ++ Verb.about .check ++ "\n" ++
    "  ast      " ++ Verb.about .tree ++ "\n" ++
    "  help     Print this message or the help of the given subcommand(s)\n\n" ++
    "Options:\n" ++
    "  -h, --help     Print help\n" ++
    "  -V, --version  Print version\n"

def Verb.help (verb : Verb) : String :=
  verb.about ++ "\n\n" ++
    "Usage: shorthand " ++ verb.name ++ " [OPTIONS] <path>\n\n" ++
    "Arguments:\n" ++
    "  <path>  Path to the shorthand file, or - for standard input\n\n" ++
    "Options:\n" ++
    String.join (verb.flags.map (Flag.usage verb)) ++
    "  -h, --help             Print help\n"

def helpText : Option Verb → String
  | some verb => verb.help
  | none => programHelp

end TerseMarkup.Command
