import ForumClient.Markup.Segment
import ForumClient.Post.Image
import ForumClient.Post.Reference
import ForumClient.Table
import ForumClient.Text.Numeral

/-!
A post on the page: its markup and the state of every reference and image that was clicked, at any
depth of expanded references. An element is found by a path: its number among the elements of its
fragment, under the path of the reference that shows the fragment. States are kept under slot names,
the numbers of a path joined by dots; a slot without an entry is in its first state.
-/

namespace ForumClient.Slot

abbrev Path := List Nat

def child (parent : Text) (index : Nat) : Text :=
  if parent = [] then Numeral.write index else parent ++ '.' :: Numeral.write index

def name (p : Path) : Text := p.foldl child []

def stepLimit : Nat := UInt64.size

def path? (id : Text) : Option Path :=
  (id.splitBy (· = '.')).mapM (Numeral.read? stepLimit)

def isUnder (parent id : Text) : Bool := (parent ++ ['.']).isPrefixOf id

end ForumClient.Slot

namespace ForumClient

open Markup

structure Document where
  html : Text
  references : Table Text Reference := .empty
  images : Table Text Image := .empty
  deriving DecidableEq

namespace Document

def ofHtml (html : Text) : Document := { html }

def reference (d : Document) (id : Text) : Reference := (d.references.get? id).getD .collapsed

def image (d : Document) (id : Text) : Image := (d.images.get? id).getD {}

/-- The element that a path leads to, from a fragment shown under the name `parent`. -/
def follow? (d : Document) (parent html : Text) : Slot.Path → Option Segment
  | [] => none
  | [i] => (interactive html)[i]?
  | i :: p => do
    let _ ← (interactive html)[i]?
    let state ← d.references.get? (Slot.child parent i)
    let fragment ← state.fragment?
    d.follow? (Slot.child parent i) fragment p

def slot? (d : Document) (id : Text) : Option Segment :=
  (Slot.path? id).bind (d.follow? [] d.html)

def purge (d : Document) (id : Text) : Document :=
  { d with
    references := d.references.keep (!Slot.isUnder id ·)
    images := d.images.keep (!Slot.isUnder id ·) }

def clickReference (d : Document) (id : Text) : Option (Reference.Action × PostId) × Document :=
  match d.slot? id with
  | some (.reference post _) =>
    let (action, state) := (d.reference id).toggle
    let d := { d with references := d.references.put id state }
    (some (action, post), if action = .collapse then d.purge id else d)
  | _ => (none, d)

def settleReference (d : Document) (id : Text) (reply : Except Failure Text) : Document :=
  { d with references := d.references.adjust id (.settle reply) }

def clickImage (d : Document) (id : Text) (view : ImageView) :
    Option (Image.Action × Text) × Document :=
  match d.slot? id with
  | some (.image _ url) =>
    let (action, state) := (d.image id).toggle view
    (some (action, url), { d with images := d.images.put id state })
  | _ => (none, d)

def imageProgress (d : Document) (id : Text) (loaded total : Float) : Document :=
  { d with images := d.images.adjust id (.progress loaded total) }

def settleImage (d : Document) (id : Text) (result : Except Failure Text) : Document :=
  { d with images := d.images.adjust id (.settle result) }

end Document

end ForumClient
