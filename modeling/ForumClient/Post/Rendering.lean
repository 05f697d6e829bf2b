import ForumClient.Post.Document

/-!
A document written out as one piece of markup. It is first laid out as a list of pieces, in which
every interactive element carries its path, its state and what it stands for; the text of the
pieces in order is the rendering.
-/

namespace ForumClient

open Markup

inductive Piece
  | html : Text → Piece
  | reference : Slot.Path → Reference → PostId → (label : Text) → Piece
  | fragmentStart
  | fragmentEnd
  | image : Slot.Path → Image → (thumbnail : Text) → (url : Text) → Piece
  deriving DecidableEq, Repr

namespace Piece

def slotAttribute : String := "data-slot"

def referenceText (id : Text) (r : Reference) (label : Text) : Text :=
  let cssClass := if r = .loading then "post-ref loading" else "post-ref"
  let marker := if r.isErrored then Reference.errorMarker else ""
  "<a href=\"javascript:void(0)\" class=\"".toList ++ cssClass.toList ++ "\" ".toList ++
    slotAttribute.toList ++ "=\"".toList ++ id ++ "\">".toList ++
    Entity.escape label ++ marker.toList ++ "</a>".toList

def imageText (id : Text) (i : Image) (thumbnail : Text) : Text :=
  let progress :=
    if i.label = [] then []
    else "<span class=\"image-progress\">".toList ++ Entity.escape i.label ++ "</span>".toList
  "<span class=\"post-image\"><img class=\"".toList ++ i.cssClass.toList ++
    "\" src=\"".toList ++ Entity.escapeQuotes (i.source thumbnail) ++ "\" ".toList ++
    slotAttribute.toList ++ "=\"".toList ++ id ++ "\">".toList ++
    progress ++ "</span>".toList

def text : Piece → Text
  | .html t => t
  | .reference p r _ label => referenceText (Slot.name p) r label
  | .fragmentStart => "<div class=\"post-ref-fragment\">".toList
  | .fragmentEnd => "</div>".toList
  | .image p i thumbnail _ => imageText (Slot.name p) i thumbnail

end Piece

namespace Document

/-- Lays out one fragment, numbering its elements from `i`; `inside` lays out what an expanded
reference shows. -/
def layoutSegments (d : Document) (inside : Slot.Path → Text → List Piece) (parent : Slot.Path) :
    Nat → List Segment → List Piece
  | _, [] => []
  | i, .html t :: segs => .html t :: d.layoutSegments inside parent i segs
  | i, .reference post label :: segs =>
    let path := parent ++ [i]
    let state := d.reference (Slot.name path)
    let shown := match state.fragment? with
      | some fragment => .fragmentStart :: inside path fragment ++ [.fragmentEnd]
      | none => []
    .reference path state post label :: shown ++ d.layoutSegments inside parent (i + 1) segs
  | i, .image thumbnail url :: segs =>
    let path := parent ++ [i]
    .image path (d.image (Slot.name path)) thumbnail url ::
      d.layoutSegments inside parent (i + 1) segs

def layoutWithin (d : Document) : Nat → Slot.Path → Text → List Piece
  | 0, _, _ => []
  | levels + 1, parent, html =>
    d.layoutSegments (d.layoutWithin levels) parent 0 (segments html)

/-- Each level below the first takes an expanded reference of its own, so there is at most one
level more than there are entries. -/
def layout (d : Document) : List Piece := d.layoutWithin (d.references.size + 1) [] d.html

def render (d : Document) : Text := d.layout.flatMap Piece.text

end Document

end ForumClient
