import ForumClient.Post.Image
import ForumClient.Preferences.FoldMap

namespace ForumClient

structure Storage where
  entries : Table String String := .empty
  readFault? : String → Option Failure := fun _ => none
  writeFault? : String → Option Failure := fun _ => none

namespace Storage

def ofEntries (es : List (String × String)) : Storage := { entries := .ofList es }

def get (s : Storage) (key : String) : Except Failure (Option String) :=
  match s.readFault? key with
  | some e => .error e
  | none => .ok (s.entries.get? key)

def set (s : Storage) (key value : String) : Except Failure Unit × Storage :=
  match s.writeFault? key with
  | some e => (.error e, s)
  | none => (.ok (), { s with entries := s.entries.put key value })

end Storage

inductive FoldLook
  | gray
  | hide
  deriving DecidableEq, Repr

namespace FoldLook

def ofSetting : Option String → FoldLook
  | none => .gray
  | some "gray" => .gray
  | some _ => .hide

def setting : FoldLook → String
  | .gray => "gray"
  | .hide => "hide"

def cssClass : FoldLook → String
  | .gray => "fold"
  | .hide => "fold fold-hide"

end FoldLook

namespace Preferences

def imageViewKey : String := "image-view"

def foldKey : String := "fold"

def foldLookKey : String := "hide-looks"

def optionsKey : String := "options"

end Preferences

namespace Storage

open Preferences

def setting? (s : Storage) (key : String) : Option String := (s.get key).toOption.join

def imageView (s : Storage) : ImageView := .ofSetting (s.setting? imageViewKey)

def setImageView (s : Storage) (v : ImageView) : Except Failure Unit × Storage :=
  s.set imageViewKey v.setting

def foldLook (s : Storage) : FoldLook := .ofSetting (s.setting? foldLookKey)

def setFoldLook (s : Storage) (l : FoldLook) : Except Failure Unit × Storage :=
  s.set foldLookKey l.setting

def options? (s : Storage) : Option String := s.setting? optionsKey

def saveOptions (s : Storage) (options : String) : Except Failure Unit × Storage :=
  s.set optionsKey options

/-- Empty when nothing is stored; a text that cannot be read is a failure, so that nobody
overwrites it. -/
def foldMap (s : Storage) : Except Failure FoldMap :=
  match s.get foldKey with
  | .error e => .error e
  | .ok none => .ok .empty
  | .ok (some json) => FoldMap.ofJson json

def saveFoldMap (s : Storage) (m : FoldMap) : Except Failure Unit × Storage :=
  s.set foldKey m.toJson

end Storage

end ForumClient
