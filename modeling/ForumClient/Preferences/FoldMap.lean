import ForumClient.Desktop
import ForumClient.Json.Reader
import ForumClient.Json.Writer
import ForumClient.Post.Id
import ForumClient.Table

namespace ForumClient

abbrev Millis := Int64

structure FoldMap where
  table : Table Text Millis := .empty
  deriving DecidableEq

namespace FoldMap

def empty : FoldMap := {}

def insert (m : FoldMap) (p : PostId) (at' : Millis) : FoldMap := ⟨m.table.put p.write at'⟩

def remove (m : FoldMap) (p : PostId) : FoldMap := ⟨m.table.erase p.write⟩

def contains (m : FoldMap) (p : PostId) : Bool := m.table.contains p.write

def size (m : FoldMap) : Nat := m.table.size

def isEmpty (m : FoldMap) : Bool := m.table.isEmpty

def inCalendar (t : Millis) : Bool :=
  -8334601228800000 ≤ t.toInt && t.toInt ≤ 8210266876799999

def foldedAt? (m : FoldMap) (p : PostId) : Option Millis := (m.table.get? p.write).filter inCalendar

def toJson (m : FoldMap) : String :=
  String.ofList (Json.writeObject
    (m.table.entries.map fun (key, stamp) => (key, Json.writeInt stamp.toInt)))

open Json (Reader)

def readMember (t : Table Text Millis) (key : Text) : Reader (Table Text Millis) := fun s =>
  (Reader.afterColon Reader.integer s).map fun (z, r) => (t.put key (Int64.ofInt z), r)

def reader : Reader FoldMap := Json.atValue fun
  | '{' :: s => (Reader.members readMember .empty s).map fun (t, r) => (⟨t⟩, r)
  | s => .error (Json.mismatch "a map" s)

def ofJson (json : String) : Except Failure FoldMap :=
  match Reader.run reader json.toList with
  | .ok m => .ok m
  | .error f => .error (.malformedResponse (String.ofList (f.text json.toList)))

end FoldMap

end ForumClient
