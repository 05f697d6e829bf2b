import ForumClient.Text.Numeral

namespace ForumClient.Decimal

structure Scaled where
  digits : Nat
  exponent : Int
  deriving DecidableEq, Repr

/-- A positive binary fraction `significand * 2 ^ exponent` whose lower neighbour may lie at half
the distance of the upper one. -/
structure Binary where
  significand : Nat
  exponent : Int
  narrowBelow : Bool
  deriving DecidableEq, Repr

namespace Binary

def ofBits (bits : UInt64) : Binary :=
  let fraction := (bits &&& 0xfffffffffffff).toNat
  let power := ((bits >>> 52) &&& 0x7ff).toNat
  if power = 0 then ⟨fraction, -1074, false⟩
  else ⟨fraction + Nat.pow 2 52, power - 1075, fraction = 0 ∧ 1 < power⟩

def scaled (b : Binary) (k : Int) : Nat × Nat :=
  (4 * b.significand * Nat.pow 2 b.exponent.toNat * Nat.pow 10 (-k).toNat,
    Nat.pow 2 (-b.exponent).toNat * Nat.pow 10 k.toNat)

/-- Whether `d * 10 ^ k` reads back as the value: it lies within half the distance to the
neighbours, the ends included when the significand is even. -/
def roundsTo (b : Binary) (d : Nat) (k : Int) : Bool :=
  let (num, den) := b.scaled k
  let unit := Nat.pow 2 b.exponent.toNat * Nat.pow 10 (-k).toNat
  let low := num - (if b.narrowBelow then 1 else 2) * unit
  let high := num + 2 * unit
  let x := 4 * d * den
  if b.significand % 2 = 0 then low ≤ x && x ≤ high else low < x && x < high

def onGrid? (b : Binary) (k : Int) : Option Nat :=
  let (num, den) := b.scaled k
  let d := num / (4 * den)
  match b.roundsTo d k && 0 < d, b.roundsTo (d + 1) k with
  | true, true =>
    let below := num - 4 * d * den
    let above := 4 * (d + 1) * den - num
    if below < above || (below = above && d % 2 = 0) then some d else some (d + 1)
  | true, false => some d
  | false, true => some (d + 1)
  | false, false => none

def magnitude (b : Binary) : Int :=
  let bits : Int := b.significand.log2 + 1 + b.exponent
  if bits ≤ 0 then bits * 3 / 10 + 1 else bits * 302 / 1000 + 1

def search (b : Binary) : Nat → Int → Scaled
  | 0, k => ⟨0, k⟩
  | n + 1, k => match b.onGrid? k with
    | some d => ⟨d, k⟩
    | none => b.search n (k - 1)

end Binary

def Scaled.trim : Nat → Scaled → Scaled
  | 0, s => s
  | n + 1, s =>
    if s.digits % 10 = 0 ∧ s.digits ≠ 0 then Scaled.trim n ⟨s.digits / 10, s.exponent + 1⟩ else s

def Binary.shortest (b : Binary) : Scaled := (b.search 30 b.magnitude).trim 30

structure Layout where
  positional : Int → Bool
  pointZero : Bool

def positionalText (pointZero : Bool) (s : Scaled) : Text :=
  let ds := Numeral.write s.digits
  let point : Int := ds.length + s.exponent
  if point ≤ 0 then "0.".toList ++ List.replicate (-point).toNat '0' ++ ds
  else if ds.length ≤ point.toNat then
    ds ++ List.replicate (point.toNat - ds.length) '0' ++ (if pointZero then ".0".toList else [])
  else ds.take point.toNat ++ '.' :: ds.drop point.toNat

def scientificText (s : Scaled) : Text :=
  let ds := Numeral.write s.digits
  let e : Int := ds.length + s.exponent - 1
  let mantissa := match ds with
    | d :: r :: rs => d :: '.' :: r :: rs
    | ds => ds
  mantissa ++ 'e' :: (if e < 0 then '-' else '+') :: Numeral.write e.natAbs

def Layout.magnitudeText (l : Layout) (s : Scaled) : Text :=
  let e : Int := (Numeral.write s.digits).length + s.exponent - 1
  if s.digits = 0 ∨ l.positional e then positionalText l.pointZero s else scientificText s

def Layout.write (l : Layout) (x : Float) : Text :=
  let magnitude : Float := x.abs
  let sign := if x.toBits >>> 63 = 1 then ['-'] else []
  if x.isNaN then "NaN".toList
  else if x.isInf then sign ++ "inf".toList
  else
    let b := Binary.ofBits magnitude.toBits
    sign ++ l.magnitudeText (if b.significand = 0 then ⟨0, 0⟩ else b.shortest)

/-- Numbers quoted in an error: an exponent from `10 ^ 16` up and below `10 ^ (-5)`. -/
def quoted : Layout := ⟨fun e => -5 ≤ e && e < 16, true⟩

/-- Numbers in a style sheet or shown to a script: never an exponent, whole numbers bare. -/
def plain : Layout := ⟨fun _ => true, false⟩

end ForumClient.Decimal
