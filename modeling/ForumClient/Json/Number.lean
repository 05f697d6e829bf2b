import ForumClient.Json.Literal

/-!
Numbers of JSON. A whole number that fits 64 bits stays exact; any other becomes a double, by
scaling the digits read so far with one power of ten.
-/

namespace ForumClient.Json

inductive Number
  | unsigned : Nat → Number
  | negative : Int → Number
  | float : Float → Number
  deriving Repr

namespace Number

def digit? (c : Char) : Option Nat := Numeral.digit? c

def isDigit (c : Char) : Bool := (digit? c).isSome

def startsDigit : Text → Bool
  | c :: _ => isDigit c
  | [] => false

def significandLimit : Nat := UInt64.size

def exponentLimit : Nat := 0x80000000

def signedLimit : Nat := 0x8000000000000000

def powerOfTen (n : Nat) : Float := Float.ofScientific 1 false n

def scaleDown : Nat → Float → Nat → Float
  | 0, f, _ => f
  | n + 1, f, e =>
    if e ≤ 308 then f / powerOfTen e
    else if f == 0 then f
    else scaleDown n (f / powerOfTen 308) (e - 308)

def scale? (positive : Bool) (significand : Nat) (exponent : Int) : Option Float :=
  let f := significand.toFloat
  let result :=
    if exponent < 0 then some (scaleDown 4 f exponent.natAbs)
    else if exponent ≤ 308 then
      let f := f * powerOfTen exponent.toNat
      if f.isInf then none else some f
    else if f == 0 then some f
    else none
  result.map fun f => if positive then f else -f

def ofScale (positive : Bool) (significand : Nat) (exponent : Int) (rest : Text) :
    Except Fault (Number × Text) :=
  match scale? positive significand exponent with
  | some f => .ok (.float f, rest)
  | none => .error (.before .numberOutOfRange rest)

def exponentDigits (positive : Bool) (significand : Nat) (start : Int) (up : Bool) :
    Nat → Text → Except Fault (Number × Text)
  | e, [] => ofScale positive significand (if up then start + e else start - e) []
  | e, c :: s => match digit? c with
    | none => ofScale positive significand (if up then start + e else start - e) (c :: s)
    | some d =>
      if e * 10 + d < exponentLimit then
        exponentDigits positive significand start up (e * 10 + d) s
      else if significand ≠ 0 && up then .error (.before .numberOutOfRange s)
      else .ok (.float (if positive then 0 else -0.0), s.dropWhile isDigit)

def exponentPart (positive : Bool) (significand : Nat) (start : Int) (s : Text) :
    Except Fault (Number × Text) :=
  let (up, s) := match s with
    | '+' :: s => (true, s)
    | '-' :: s => (false, s)
    | s => (true, s)
  match s with
  | [] => .error (.atEnd .eofValue)
  | c :: r => match digit? c with
    | none => .error (.onFirst .invalidNumber (c :: r))
    | some d => exponentDigits positive significand start up d r

def isExponentMark (c : Char) : Bool := c == 'e' || c == 'E'

def afterFraction (positive : Bool) (significand : Nat) (exponent : Int) (s : Text) :
    Except Fault (Number × Text) :=
  match s with
  | c :: r =>
    if isExponentMark c then exponentPart positive significand exponent r
    else ofScale positive significand exponent s
  | [] => ofScale positive significand exponent s

def fraction (positive : Bool) (start : Int) :
    Nat → Int → Text → Except Fault (Number × Text)
  | significand, exponent, c :: s => match digit? c with
    | some d =>
      if significand * 10 + d < significandLimit then
        fraction positive start (significand * 10 + d) (exponent - 1) s
      else afterFraction positive significand exponent ((c :: s).dropWhile isDigit)
    | none =>
      if exponent = start then .error (.onFirst .invalidNumber (c :: s))
      else afterFraction positive significand exponent (c :: s)
  | significand, exponent, [] =>
    if exponent = start then .error (.atEnd .eofValue)
    else afterFraction positive significand exponent []

/-- A whole number that outgrew 64 bits: further digits only count. -/
def long (positive : Bool) (significand : Nat) : Int → Text → Except Fault (Number × Text)
  | exponent, c :: s =>
    if isDigit c then long positive significand (exponent + 1) s
    else if c = '.' then fraction positive exponent significand exponent s
    else afterFraction positive significand exponent (c :: s)
  | exponent, [] => ofScale positive significand exponent []

/-- What follows the digits of a whole number that fits 64 bits. Below the least negative number
of 64 bits, and for minus zero, the value is a double. -/
def afterInteger (positive : Bool) (significand : Nat) (s : Text) :
    Except Fault (Number × Text) :=
  let whole : Number :=
    if positive then .unsigned significand
    else if significand ≠ 0 ∧ significand ≤ signedLimit then .negative (-significand)
    else .float (-significand.toFloat)
  match s with
  | '.' :: r => fraction positive 0 significand 0 r
  | c :: r => if isExponentMark c then exponentPart positive significand 0 r else .ok (whole, s)
  | [] => .ok (whole, [])

def integerDigits (positive : Bool) : Nat → Text → Except Fault (Number × Text)
  | significand, c :: s => match digit? c with
    | some d =>
      if significand * 10 + d < significandLimit then
        integerDigits positive (significand * 10 + d) s
      else long positive significand 0 (c :: s)
    | none => afterInteger positive significand (c :: s)
  | significand, [] => afterInteger positive significand []

def read (positive : Bool) : Text → Except Fault (Number × Text)
  | [] => .error (.atEnd .eofValue)
  | '0' :: s =>
    if startsDigit s then .error (.onFirst .invalidNumber s) else afterInteger positive 0 s
  | c :: s => match digit? c with
    | some d => integerDigits positive d s
    | none => .error (.onFirst .invalidNumber (c :: s))

def found : Number → Found
  | .unsigned n => .integer n
  | .negative z => .integer z
  | .float f => .float (Decimal.quoted.write f)

def skipDigits1 : Text → Except Fault Text
  | c :: s =>
    if isDigit c then .ok (s.dropWhile isDigit) else .error (.onFirst .invalidNumber (c :: s))
  | [] => .error (.atEnd .invalidNumber)

def skipExponent : Text → Except Fault Text
  | '+' :: s => skipDigits1 s
  | '-' :: s => skipDigits1 s
  | s => skipDigits1 s

def skipAfterDigits : Text → Except Fault Text
  | c :: s => if isExponentMark c then skipExponent s else .ok (c :: s)
  | [] => .ok []

def skip (s : Text) : Except Fault Text := do
  let s ← match s with
    | '0' :: s => if startsDigit s then throw (.onFirst .invalidNumber s) else pure s
    | s => skipDigits1 s
  match s with
  | '.' :: s => skipAfterDigits (← skipDigits1 s)
  | s => skipAfterDigits s

end Number

end ForumClient.Json
