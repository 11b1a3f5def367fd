import TerseMarkup.Document.Scope
import TerseMarkup.Expression.Substitution
import TerseMarkup.Rendering.Document

/-!
# Compiling a source

A source is read into a document, the document is rendered, and values are
put in place of the expressions in the HTML. The reports of the three steps
follow each other.
-/

namespace TerseMarkup

/-- The HTML of a source and the reports on it, in the order in which they were
made. -/
structure Compilation where
  html : String
  diagnostics : List Diagnostic
  deriving DecidableEq, Repr

def Compilation.isClean (compilation : Compilation) : Bool :=
  compilation.diagnostics.isEmpty

def compile (options : Options) (evaluator : Evaluator) (source : String) :
    Compilation :=
  let parsed := Document.parse options source
  let (rendered, limits) := Document.render options parsed.document
  let (html, failures) := Expression.substitute options evaluator rendered
  { html := html
    diagnostics := parsed.diagnostics ++ limits ++ failures }

end TerseMarkup
