import TerseMarkup.Diagnostic
import TerseMarkup.Document
import TerseMarkup.Options
import TerseMarkup.Source.Combinator
import TerseMarkup.Source.Cursor

/-!
# Reading a scope

The lines of a source, or of the body of a block, are read into a document.
A line is a block opener, a stray closing line, an element, or chains of
tokens; a token that is not an element is reported and kept as text. Reading
ends early at a block or a block comment that is never closed.
-/

namespace TerseMarkup

/-- A document with the reports that reading it gave. -/
structure Parsed where
  document : Document := []
  diagnostics : List Diagnostic := []
  deriving Repr

/-! ## Lines -/

/-- The link that a token makes, and the report if it is kept as text. -/
def Link.ofToken (line : Nat) (token : Line) : Link × List Diagnostic :=
  match Element.read? token with
  | some described => (.element described, [])
  | none =>
      let text := String.ofList token
      (.literal text, [(Fault.grammar text line).diagnostic])

def Chain.ofTokens (line : Nat) (tokens : List Line) :
    Chain × List Diagnostic :=
  let links := tokens.map (Link.ofToken line)
  (links.map (·.1), links.flatMap (·.2))

/-- The chains of tokens on a line. A line without any token is a token
itself. -/
def SignificantLine.tokens (line : SignificantLine) : List (List Line) :=
  match Combinator.chains line.text with
  | [] => [[line.text]]
  | chains => chains

def Node.ofLine (line : SignificantLine) : Node × List Diagnostic :=
  match Element.read? line.text with
  | some element => (.inline line.number element, [])
  | none =>
      let chains := line.tokens.map (Chain.ofTokens line.number)
      let reports := chains.flatMap (·.2)
      match chains.map (·.1) with
      | [] => (.nesting line.number [], reports)
      | [chain] => (.nesting line.number chain, reports)
      | parent :: others => (.siblings line.number parent others, reports)

/-! ## Scopes -/

def closingLine : Line := ['\\', '}']

def textOfLines (lines : List Line) : String :=
  String.ofList (lines.flatMap (· ++ ['\n']))

mutual

/-- Reads the lines at a cursor, with `depth` blocks around them. -/
def Cursor.parse (options : Options) (depth : Nat) (cursor : Cursor) :
    Parsed :=
  match found : cursor.next with
  | (.nothing, _) => {}
  | (.unclosedComment line, _) =>
      { diagnostics := [(Fault.unclosedComment line).diagnostic] }
  | (.line line, after) =>
      have : after.remaining.length < cursor.remaining.length :=
        Cursor.length_next found
      match Element.readOpener? line.text with
      | some head =>
          match taken : after.takeBody? with
          | none =>
              { diagnostics :=
                  [(Fault.unclosedBlock head.tag line.number).diagnostic] }
          | some (body, rest) =>
              have : after.remaining.length =
                  body.remaining.length + rest.remaining.length + 1 :=
                Cursor.length_takeBody? taken
              let (node, reports) :=
                Cursor.parseBlock options depth line.number head body
              let later := Cursor.parse options depth rest
              { document := node :: later.document
                diagnostics := reports ++ later.diagnostics }
      | none =>
          let later := Cursor.parse options depth after
          -- A closing line that closes nothing here is passed over.
          if line.text = closingLine then later
          else
            let (node, reports) := Node.ofLine line
            { document := node :: later.document
              diagnostics := reports ++ later.diagnostics }
termination_by 2 * cursor.remaining.length

/-- The block with the given head and body, with `depth` blocks around it, and
the reports on it. -/
def Cursor.parseBlock
    (options : Options) (depth line : Nat) (head : Element) (body : Cursor) :
    Node × List Diagnostic :=
  if head.isVerbatim then
    (.passage line head .verbatim (textOfLines body.remaining), [])
  else if head.isRaw then
    (.passage line head .raw (textOfLines body.remaining), [])
  else if options.maxBlockDepth < depth + 1 then
    (.markup line head [],
      [(Fault.tooDeep head.tag options.maxBlockDepth line).diagnostic])
  else
    let inner := Cursor.parse options (depth + 1) body
    (.markup line head inner.document, inner.diagnostics)
termination_by 2 * body.remaining.length + 1

end

/-- What comes of a block whose opener was read last: the block with the
reports on it, or that its body never ends. -/
inductive BlockFound where
  | block (node : Node) (diagnostics : List Diagnostic)
  | unclosed (fault : Fault)

/-- Reads the block with the given head whose body starts at the cursor, and
moves past it; past everything if it is never closed. -/
def Cursor.readBlock
    (options : Options) (depth line : Nat) (head : Element)
    (cursor : Cursor) : BlockFound × Cursor :=
  match cursor.takeBody? with
  | none => (.unclosed (.unclosedBlock head.tag line), cursor.exhaust)
  | some (body, rest) =>
      let (node, reports) := Cursor.parseBlock options depth line head body
      (.block node reports, rest)

def Document.parse (options : Options) (source : String) : Parsed :=
  Cursor.parse options 0 ⟨1, sourceLines source.toList⟩

end TerseMarkup
