/-!
# Diagnostics

What can be wrong with a source, and how it is reported. A fault says what
happened; a diagnostic is the report of it, with a line where there is one.
-/

namespace TerseMarkup

inductive DiagnosticKind where
  | grammar
  | unclosedBlock
  | unclosedComment
  | limit
  | evaluation
  | internal
  deriving DecidableEq, Repr

def DiagnosticKind.label : DiagnosticKind → String
  | grammar => "grammar"
  | unclosedBlock => "unclosed-block"
  | unclosedComment => "unclosed-comment"
  | limit => "limit"
  | evaluation => "evaluation"
  | internal => "internal"

/-- A report about a source, or about one line of it. -/
structure Diagnostic where
  line : Option Nat
  message : String
  kind : DiagnosticKind := .grammar
  deriving DecidableEq, Repr

namespace Diagnostic

def display (diagnostic : Diagnostic) : String :=
  match diagnostic.line with
  | some line => "Line " ++ toString line ++ ": " ++ diagnostic.message
  | none => diagnostic.message

def displayAll (diagnostics : List Diagnostic) : String :=
  "\n".intercalate (diagnostics.map display)

end Diagnostic

/-- What can go wrong on the way from a source to HTML. -/
inductive Fault where
  | grammar (token : String) (line : Nat)
  | unclosedBlock (tag : String) (line : Nat)
  | unclosedComment (line : Nat)
  | tooDeep (tag : String) (limit line : Nat)
  | tooManyCopies (count : Nat) (tag : String) (limit line : Nat)
  | tooManyElements (limit line : Nat)
  | evaluation (expression message : String)
  | internal (message : String)
  deriving DecidableEq, Repr

namespace Fault

def kind : Fault → DiagnosticKind
  | grammar _ _ => .grammar
  | unclosedBlock _ _ => .unclosedBlock
  | unclosedComment _ => .unclosedComment
  | tooDeep _ _ _ => .limit
  | tooManyCopies _ _ _ _ => .limit
  | tooManyElements _ _ => .limit
  | evaluation _ _ => .evaluation
  | internal _ => .internal

def line? : Fault → Option Nat
  | grammar _ line => some line
  | unclosedBlock _ line => some line
  | unclosedComment line => some line
  | tooDeep _ _ line => some line
  | tooManyCopies _ _ _ line => some line
  | tooManyElements _ line => some line
  | evaluation _ _ => none
  | internal _ => none

def message : Fault → String
  | grammar token _ => "Invalid syntax near \"" ++ token ++ "\"."
  | unclosedBlock tag _ => "Unclosed block starting with <" ++ tag ++ ">."
  | unclosedComment _ => "Unclosed block comment."
  | tooDeep tag limit _ =>
      "Block <" ++ tag ++ "> is nested deeper than " ++ toString limit ++
        " levels; its body was dropped."
  | tooManyCopies count tag limit _ =>
      "Repeat count " ++ toString count ++ " of <" ++ tag ++
        "> exceeds the limit of " ++ toString limit ++ "."
  | tooManyElements limit _ =>
      "Output exceeds the limit of " ++ toString limit ++
        " elements; rendering stopped here."
  | evaluation expression message =>
      "Expression evaluation failed: " ++ message ++ " in expression \"" ++
        expression ++ "\""
  | internal message => "Unexpected error: " ++ message

def diagnostic (fault : Fault) : Diagnostic where
  line := fault.line?
  message := fault.message
  kind := fault.kind

@[simp] theorem diagnostic_line (fault : Fault) :
    fault.diagnostic.line = fault.line? := rfl

@[simp] theorem diagnostic_message (fault : Fault) :
    fault.diagnostic.message = fault.message := rfl

@[simp] theorem diagnostic_kind (fault : Fault) :
    fault.diagnostic.kind = fault.kind := rfl

end Fault

end TerseMarkup
