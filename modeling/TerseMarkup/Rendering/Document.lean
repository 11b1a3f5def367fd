import TerseMarkup.Rendering.Chain

/-!
# Rendering documents

Nodes are rendered in order on one budget. A block costs one node besides what
is inside of it.
-/

namespace TerseMarkup

mutual

def Node.render (options : Options) : Node → Render (List Fragment)
  | .passage line head form text => do
      let paid ← Render.charge line 1
      pure
        (if paid then
          match form with
          | .raw => [.markup (Html.escape text)]
          | .verbatim => [.passage head.tag head.headAttributes text]
        else [])
  | .markup line head body => do
      let paid ← Render.charge line 1
      if paid then
        let inner ← Node.renderAll options body
        pure [.block head.tag head.headAttributes inner]
      else pure []
  | .inline line element => element.render options line []
  | .nesting line chain => Chain.render options line chain
  | .siblings line parent others =>
      Chain.renderSiblings options line parent others

def Node.renderAll (options : Options) : List Node → Render (List Fragment)
  | [] => pure []
  | node :: rest => do
      let first ← Node.render options node
      let others ← Node.renderAll options rest
      pure (first ++ others)

end

/-- The fragments of a document, on a full budget. -/
def Document.fragments (options : Options) (document : Document) :
    Rendered (List Fragment) :=
  Node.renderAll options document (.full options.maxElements)

def Document.render (options : Options) (document : Document) :
    String × List Diagnostic :=
  let rendered := Document.fragments options document
  (Fragment.htmlAll rendered.value, rendered.diagnostics)

end TerseMarkup
