import TerseMarkup.Diagnostic
import TerseMarkup.Expression.Evaluator
import TerseMarkup.Expression.Span
import TerseMarkup.Html.Escape
import TerseMarkup.Options

/-!
# Putting values in place of expressions

Spans are replaced from left to right, and what replaces a span is not looked
at again. A value is escaped; an expression that fails is reported and
replaced by the error marker.
-/

namespace TerseMarkup.Expression

/-- What replaces an expression, and the report if it fails. -/
def replacement
    (options : Options) (evaluator : Evaluator) (expression : String) :
    List Char × List Diagnostic :=
  match (evaluator expression).result with
  | .ok (some value) => (Html.escapeChars value.toList, [])
  | .ok none => ([], [])
  | .error message =>
      (options.errorMarker.toList,
        [(Fault.evaluation expression message).diagnostic])

def substituteChars
    (options : Options) (evaluator : Evaluator) (text : List Char) :
    List Char × List Diagnostic :=
  match found : cut? text with
  | none => (text, [])
  | some cut =>
      have : cut.after.length < text.length := length_cut? found
      let (value, reports) :=
        replacement options evaluator (String.ofList cut.expression)
      let (rest, later) := substituteChars options evaluator cut.after
      (cut.before ++ value ++ rest, reports ++ later)
termination_by text.length

def substitute
    (options : Options) (evaluator : Evaluator) (html : String) :
    String × List Diagnostic :=
  let (text, diagnostics) := substituteChars options evaluator html.toList
  (String.ofList text, diagnostics)

end TerseMarkup.Expression
