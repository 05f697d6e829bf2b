import ForumClient.Json.Fault

namespace ForumClient.Json

def isSpace (c : Char) : Bool := c == ' ' || c == '\n' || c == '\t' || c == '\r'

def skipSpace (s : Text) : Text := s.dropWhile isSpace

def word : Text → Text → Except Fault Text
  | [], s => .ok s
  | _ :: _, [] => .error (.atEnd .eofValue)
  | e :: es, c :: s => if c = e then word es s else .error (.onFirst .expectedIdent (c :: s))

def hexDigit? (c : Char) : Option Nat :=
  if '0' ≤ c ∧ c ≤ '9' then some (c.toNat - '0'.toNat)
  else if 'a' ≤ c ∧ c ≤ 'f' then some (c.toNat - 'a'.toNat + 10)
  else if 'A' ≤ c ∧ c ≤ 'F' then some (c.toNat - 'A'.toNat + 10)
  else none

def hexDigits? : List Char → Option Nat
  | [a, b, c, d] => do
    return ((← hexDigit? a) * 16 + (← hexDigit? b)) * 256 + (← hexDigit? c) * 16 + (← hexDigit? d)
  | _ => none

def hex4 (s : Text) : Except Fault Nat :=
  match hexDigits? (s.take 4) with
  | some n => .ok n
  | none =>
    if s.byteLength < 4 then .error (.atEnd .eofString)
    else .error ⟨.invalidEscape, s.byteLength - 4⟩

def isLeading (n : Nat) : Bool := 0xd800 ≤ n && n ≤ 0xdbff

def isTrailing (n : Nat) : Bool := 0xdc00 ≤ n && n ≤ 0xdfff

/-- What a numbered escape stands for, and how many characters it takes after the `u`; a leading
surrogate must be followed by a trailing one in an escape of its own. -/
def codeUnit (s : Text) : Except Fault (Char × Nat) := do
  let n ← hex4 s
  let rest := s.drop 4
  if isTrailing n then throw (.before .loneSurrogate rest)
  else if !isLeading n then return (Char.ofNat n, 4)
  else match rest with
    | [] => throw (.atEnd .eofString)
    | '\\' :: [] => throw (.atEnd .eofString)
    | '\\' :: 'u' :: s =>
      let m ← hex4 s
      if isTrailing m then
        return (Char.ofNat ((n - 0xd800) * 0x400 + (m - 0xdc00) + 0x10000), 10)
      else throw (.before .loneSurrogate (s.drop 4))
    | '\\' :: s => throw (.onFirst .endOfHexEscape s)
    | s => throw (.onFirst .endOfHexEscape s)

def simpleEscape? : Char → Option Char
  | '"' => some '"'
  | '\\' => some '\\'
  | '/' => some '/'
  | 'b' => some '\x08'
  | 'f' => some '\x0c'
  | 'n' => some '\n'
  | 'r' => some '\r'
  | 't' => some '\t'
  | _ => none

def stringUnit : Text → Except Fault (Option (Char × Nat))
  | [] => .error (.atEnd .eofString)
  | '"' :: _ => .ok none
  | '\\' :: [] => .error (.atEnd .eofString)
  | '\\' :: 'u' :: s => do
    let (c, taken) ← codeUnit s
    return some (c, taken + 2)
  | '\\' :: c :: s => match simpleEscape? c with
    | some d => .ok (some (d, 2))
    | none => .error (.onFirst .invalidEscape (c :: s))
  | c :: s =>
    if c.toNat < 0x20 then .error (.before .controlCharacter s) else .ok (some (c, 1))

def skippedUnit : Text → Except Fault (Option (Char × Nat))
  | [] => .error (.atEnd .eofString)
  | '"' :: _ => .ok none
  | '\\' :: [] => .error (.atEnd .eofString)
  | '\\' :: 'u' :: s => do
    let _ ← hex4 s
    return some ('u', 6)
  | '\\' :: c :: s => match simpleEscape? c with
    | some d => .ok (some (d, 2))
    | none => .error (.onFirst .invalidEscape (c :: s))
  | c :: s =>
    if c.toNat < 0x20 then .error (.before .controlCharacter (c :: s)) else .ok (some (c, 1))

def unitsAfter (unit : Text → Except Fault (Option (Char × Nat))) :
    Nat → Text → Except Fault (Text × Text)
  | skip + 1, _ :: s => unitsAfter unit skip s
  | _, [] => .error (.atEnd .eofString)
  | 0, c :: s => match unit (c :: s) with
    | .error f => .error f
    | .ok none => .ok ([], s)
    | .ok (some (d, taken)) =>
      (unitsAfter unit (taken - 1) s).map fun (body, rest) => (d :: body, rest)

def stringBody (s : Text) : Except Fault (Text × Text) := unitsAfter stringUnit 0 s

def skipString (s : Text) : Except Fault Text := (unitsAfter skippedUnit 0 s).map (·.2)

end ForumClient.Json
