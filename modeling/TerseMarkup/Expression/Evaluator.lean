import TerseMarkup.Text.Blank

/-!
# Values of expressions

The host of a compilation gives values to the expressions embedded in HTML.
The simplest host looks names up in a table.
-/

namespace TerseMarkup

/-- What a host answers when asked for the value of an expression. With
`absent` the expression is fine and has no value; with `crashed` the host broke
down. -/
inductive Answer where
  | value (text : String)
  | absent
  | failed (message : String)
  | crashed (message : Option String)
  deriving DecidableEq, Repr

abbrev Evaluator := String → Answer

/-- The result of asking: a text to put in place of the expression, or why
there is none. Breaking down counts as failing. -/
def Answer.result : Answer → Except String (Option String)
  | value text => .ok (some text)
  | absent => .ok none
  | failed message => .error message
  | crashed (some message) => .error message
  | crashed none => .error "panic with a non-string payload"

def Evaluator.unavailable : Evaluator :=
  fun _ => .failed "expression evaluation is not available"

/-- Names with their values, each name once. -/
structure Bindings where
  entries : List (String × String) := []
  deriving DecidableEq, Repr

namespace Bindings

def get? (bindings : Bindings) (name : String) : Option String :=
  bindings.entries.lookup name

/-- Gives a name a value, in place of the one it has. -/
def insert (bindings : Bindings) (name value : String) : Bindings where
  entries :=
    if (bindings.get? name).isSome then
      bindings.entries.map fun entry =>
        if entry.1 = name then (name, value) else entry
    else bindings.entries ++ [(name, value)]

/-- The bindings that a list of names and values makes; a later value of a
name counts. -/
def ofList (entries : List (String × String)) : Bindings :=
  entries.foldl (fun bindings (name, value) => bindings.insert name value) {}

def size (bindings : Bindings) : Nat :=
  bindings.entries.length

/-- The host that takes an expression for a name. -/
def evaluator (bindings : Bindings) : Evaluator :=
  fun expression =>
    let name := String.ofList (Text.trim expression.toList)
    match bindings.get? name with
    | some value => .value value
    | none => .failed (name ++ " is not defined")

end Bindings

end TerseMarkup
