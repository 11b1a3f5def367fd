/-!
# Escaping text for HTML

The five characters that mean something in HTML are written as references,
all others as they are.
-/

namespace TerseMarkup.Html

def escapeChar : Char → List Char
  | '&' => ['&', 'a', 'm', 'p', ';']
  | '<' => ['&', 'l', 't', ';']
  | '>' => ['&', 'g', 't', ';']
  | '"' => ['&', 'q', 'u', 'o', 't', ';']
  | '\'' => ['&', '#', '0', '3', '9', ';']
  | character => [character]

def escapeChars (text : List Char) : List Char :=
  text.flatMap escapeChar

def escape (text : String) : String :=
  String.ofList (escapeChars text.toList)

@[simp] theorem escapeChars_nil : escapeChars [] = [] := rfl

theorem escapeChars_append (first second : List Char) :
    escapeChars (first ++ second) = escapeChars first ++ escapeChars second := by
  simp [escapeChars]

@[simp] theorem toList_escape (text : String) :
    (escape text).toList = escapeChars text.toList := by
  simp [escape]

end TerseMarkup.Html
