import ForumClient.Text.Numeral

namespace ForumClient

structure PostId where
  number : UInt64
  deriving DecidableEq, Repr

structure TopicId where
  number : UInt32
  deriving DecidableEq, Repr

namespace PostId

def limit : Nat := UInt64.size

def ofNat (n : Nat) : PostId := ⟨UInt64.ofNat n⟩

def write (p : PostId) : Text := Numeral.write p.number.toNat

def toString (p : PostId) : String := String.ofList p.write

def read (s : Text) : Except Numeral.Fault PostId := (Numeral.read limit s.trim).map ofNat

end PostId

namespace TopicId

def limit : Nat := UInt32.size

def ofNat (n : Nat) : TopicId := ⟨UInt32.ofNat n⟩

def new : TopicId := ⟨0⟩

def isNew (t : TopicId) : Bool := t.number == 0

def write (t : TopicId) : Text := Numeral.write t.number.toNat

def toString (t : TopicId) : String := String.ofList t.write

def read (s : Text) : Except Numeral.Fault TopicId := (Numeral.read limit s.trim).map ofNat

end TopicId

end ForumClient
