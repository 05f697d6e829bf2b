import ForumClient.Text.Basic

namespace ForumClient.Numeral

inductive Fault
  | empty
  | invalidDigit
  | overflow
  deriving DecidableEq, Repr

def Fault.message : Fault → String
  | .empty => "cannot parse integer from empty string"
  | .invalidDigit => "invalid digit found in string"
  | .overflow => "number too large to fit in target type"

def digit? (c : Char) : Option Nat :=
  if '0' ≤ c ∧ c ≤ '9' then some (c.toNat - '0'.toNat) else none

def readFrom (limit : Nat) : Nat → Text → Except Fault Nat
  | n, [] => .ok n
  | n, c :: s => match digit? c with
    | none => .error .invalidDigit
    | some d =>
      if n * 10 + d < limit then readFrom limit (n * 10 + d) s else .error .overflow

def read (limit : Nat) : Text → Except Fault Nat
  | [] => .error .empty
  | ['+'] => .error .invalidDigit
  | '+' :: s => readFrom limit 0 s
  | s => readFrom limit 0 s

def read? (limit : Nat) (s : Text) : Option Nat := (read limit s).toOption

def write (n : Nat) : Text := Nat.toDigits 10 n

end ForumClient.Numeral
