/-!
# Options of the compiler

Limits on what a source may ask for, and the text that stands in for an
expression without a value.
-/

namespace TerseMarkup

/-- The limits of the compiler, and what replaces an expression that has no
value. `maxElements` is a limit on nodes, with every copy counted. -/
structure Options where
  maxRepeat : Nat := 1000
  maxBlockDepth : Nat := 64
  maxElements : Nat := 100000
  errorMarker : String := "<span style=\"color: red;\">Error</span>"
  deriving DecidableEq, Repr

end TerseMarkup
