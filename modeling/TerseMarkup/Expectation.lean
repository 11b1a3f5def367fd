import TerseMarkup.Compilation

/-!
# Expectations on a compilation

What someone who writes a source can expect of its compilation, checked one
after the other.
-/

namespace TerseMarkup

inductive Expectation where
  | html (text : String)
  | htmlContains (text : String)
  | noDiagnostics
  | diagnosticCount (count : Nat)
  | diagnostic (position : Nat) (line : Option Nat) (message : String)
  | diagnosticKind (position : Nat) (kind : DiagnosticKind)
  deriving DecidableEq, Repr

namespace Expectation

def occursIn (part : List Char) : List Char → Bool
  | [] => part.isEmpty
  | character :: rest =>
      part.isPrefixOf (character :: rest) || occursIn part rest

/-- Whether an expectation is met. There is no diagnostic at a position after
the last one, so that nothing can be expected of it. -/
def isMet (compilation : Compilation) : Expectation → Bool
  | html text => compilation.html == text
  | htmlContains text => occursIn text.toList compilation.html.toList
  | noDiagnostics => compilation.diagnostics.isEmpty
  | diagnosticCount count => compilation.diagnostics.length == count
  | diagnostic position line message =>
      match compilation.diagnostics[position]? with
      | some reported => reported.line == line && reported.message == message
      | none => false
  | diagnosticKind position kind =>
      match compilation.diagnostics[position]? with
      | some reported => reported.kind == kind
      | none => false

def firstUnmet? (compilation : Compilation)
    (expectations : List Expectation) : Option Nat :=
  expectations.findIdx? fun expectation => !expectation.isMet compilation

end Expectation

end TerseMarkup
