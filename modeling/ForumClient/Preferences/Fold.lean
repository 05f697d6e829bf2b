import ForumClient.Preferences.Basic

namespace ForumClient

structure Fold where
  folded : Bool := false
  deriving DecidableEq, Repr

namespace Fold

def restore (m : FoldMap) (p : PostId) : Fold := ⟨m.contains p⟩

def icon (f : Fold) : String := if f.folded then "icon-plus-squared" else "icon-minus-squared"

def showsMessage (f : Fold) : Bool := !f.folded

def flip (f : Fold) : Fold := ⟨!f.folded⟩

def record (f : Fold) (m : FoldMap) (p : PostId) (now : Millis) : FoldMap :=
  if f.folded then m.insert p now else m.remove p

/-- A map that cannot be read leaves everything as it is; once it is read the control flips,
whether or not the new map can be written. -/
def toggle (f : Fold) (p : PostId) (now : Millis) (s : Storage) :
    Except Failure Unit × Fold × Storage :=
  match s.foldMap with
  | .error e => (.error e, f, s)
  | .ok m =>
    let (result, s) := s.saveFoldMap (f.flip.record m p now)
    (result, f.flip, s)

end Fold

end ForumClient
