import TerseMarkup.Compilation

/-!
# Data to be written out

Documents and compilations as plain data, the common ground of the formats in
which they can be written. A variant is a value with the name of its case.
-/

namespace TerseMarkup

/-- A piece of plain data, which every format can write. A variant carries the
name of its case. -/
inductive Datum where
  | null
  | number (value : Nat)
  | text (value : String)
  | list (items : List Datum)
  | record (fields : List (String × Datum))
  | variant (name : String) (payload : Datum)
  deriving Repr

def Datum.ofText? : Option String → Datum
  | some value => .text value
  | none => .null

def Datum.ofNumber? : Option Nat → Datum
  | some value => .number value
  | none => .null

def Element.datum (element : Element) : Datum :=
  .record
    [("tag", .text element.tag),
      ("attributes", .text element.attributes),
      ("id", .ofText? element.id),
      ("classes", .list (element.classes.map .text)),
      ("content", .text element.content),
      ("repeat", .number element.count)]

def Link.datum : Link → Datum
  | .element described => .variant "element" described.datum
  | .literal text => .variant "literal" (.text text)

def Chain.datum (chain : Chain) : Datum :=
  .record [("links", .list (chain.map Link.datum))]

/-- A node as data, from its line and its kind. -/
def Node.datumOfKind (line : Nat) (kind : Datum) : Datum :=
  .record [("line", .number line), ("kind", kind)]

def Node.blockDatum (head : Element) (body : Datum) : Datum :=
  .record [("element", head.datum), ("body", body)]

mutual

def Node.kindDatum : Node → Datum
  | .passage _ head .verbatim text =>
      .variant "block"
        (Node.blockDatum head (.variant "verbatim" (.text text)))
  | .passage _ head .raw text =>
      .variant "block" (Node.blockDatum head (.variant "raw" (.text text)))
  | .markup _ head body =>
      .variant "block"
        (Node.blockDatum head
          (.variant "markup" (.record [("nodes", .list (Node.data body))])))
  | .inline _ element => .variant "inline" element.datum
  | .nesting _ chain => .variant "nesting" (Chain.datum chain)
  | .siblings _ parent others =>
      .variant "sibling"
        (.record
          [("parent", Chain.datum parent),
            ("siblings", .list (others.map Chain.datum))])

def Node.data : List Node → List Datum
  | [] => []
  | node :: rest =>
      Node.datumOfKind node.line (Node.kindDatum node) :: Node.data rest

end

def Document.datum (document : Document) : Datum :=
  .record [("nodes", .list (Node.data document))]

def Diagnostic.datum (diagnostic : Diagnostic) : Datum :=
  .record
    [("line", .ofNumber? diagnostic.line),
      ("message", .text diagnostic.message),
      ("kind", .text diagnostic.kind.label)]

def Compilation.datum (compilation : Compilation) : Datum :=
  .record
    [("html", .text compilation.html),
      ("diagnostics", .list (compilation.diagnostics.map Diagnostic.datum))]

end TerseMarkup
