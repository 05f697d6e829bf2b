import ForumClient.Json.Skip

/-!
Reading JSON straight into values of known types: the text decides nothing but the order in which
the parts come, and a value of the wrong kind is a fault at the place where it stands.
-/

namespace ForumClient.Json

abbrev Reader (α : Type) := Text → Except Fault (α × Text)

/-- The fault of a value that is not of the kind wanted. Leaves are read to their end first, and
may be faulty themselves. -/
def mismatch (expected : String) (s : Text) : Fault :=
  let leaf (found : Found) : Except Fault Text → Fault
    | .ok rest => .before (.invalidType found expected) rest
    | .error f => f
  let number : Except Fault (Number × Text) → Fault
    | .ok (n, rest) => .before (.invalidType n.found expected) rest
    | .error f => f
  match s with
  | 'n' :: r => leaf .null (word "ull".toList r)
  | 't' :: r => leaf (.bool true) (word "rue".toList r)
  | 'f' :: r => leaf (.bool false) (word "alse".toList r)
  | '-' :: r => number (Number.read false r)
  | '"' :: r => match stringBody r with
    | .ok (t, rest) => .before (.invalidType (.string t) expected) rest
    | .error f => f
  | '[' :: _ => .before (.invalidType .sequence expected) s
  | '{' :: _ => .before (.invalidType .map expected) s
  | _ =>
    if Number.startsDigit s then number (Number.read true s)
    else .onFirst .expectedValue s

def atValue (read : Reader α) : Reader α := fun s => match skipSpace s with
  | [] => .error (.atEnd .eofValue)
  | s => read s

namespace Reader

def bool : Reader Bool := atValue fun
  | 't' :: r => (word "rue".toList r).map (true, ·)
  | 'f' :: r => (word "alse".toList r).map (false, ·)
  | s => .error (mismatch "a boolean" s)

def string : Reader Text := atValue fun
  | '"' :: r => stringBody r
  | s => .error (mismatch "a string" s)

def number (expected : String) (accept : Number → Option α) : Reader α := atValue fun s => do
  let (n, rest) ← match s with
    | '-' :: r => Number.read false r
    | s => if Number.startsDigit s then Number.read true s else .error (mismatch expected s)
  match accept n, n with
  | some a, _ => .ok (a, rest)
  | none, .float f => .error (.before (.invalidType (Number.found (.float f)) expected) rest)
  | none, n => .error (.before (.invalidValue n.found expected) rest)

def natural (expected : String) (limit : Nat) : Reader Nat :=
  number expected fun
    | .unsigned n => if n < limit then some n else none
    | _ => none

def integer : Reader Int :=
  number "i64" fun
    | .unsigned n => if n < Number.signedLimit then some n else none
    | .negative z => some z
    | .float _ => none

def optional (read : Reader α) : Reader (Option α) := fun s => match skipSpace s with
  | 'n' :: r => (word "ull".toList r).map (none, ·)
  | s => (read s).map fun (a, rest) => (some a, rest)

def skipped : Reader Unit := fun s => (skipValue s).map ((), ·)

def afterColon (read : Reader α) : Reader α := fun s => match skipSpace s with
  | ':' :: r => read r
  | [] => .error (.atEnd .eofObject)
  | s => .error (.onFirst .expectedColon s)

def membersWithin (member : σ → Text → Reader σ) : Nat → (first : Bool) → σ → Reader σ
  | 0, _, _, _ => .error (.atEnd .eofObject)
  | count + 1, first, state, s =>
    let key (s : Text) : Except Fault (σ × Text) := do
      let (name, s) ← stringBody s
      let (state, s) ← member state name s
      membersWithin member count false state s
    match skipSpace s with
    | [] => .error (.atEnd .eofObject)
    | '}' :: r => .ok (state, r)
    | '"' :: r =>
      if first then key r else .error (.onFirst .expectedObjectCommaOrEnd ('"' :: r))
    | ',' :: r =>
      if first then .error (.onFirst .keyNotString (',' :: r))
      else match skipSpace r with
        | '"' :: r => key r
        | '}' :: r => .error (.onFirst .trailingComma ('}' :: r))
        | [] => .error (.atEnd .eofValue)
        | r => .error (.onFirst .keyNotString r)
    | s =>
      if first then .error (.onFirst .keyNotString s)
      else .error (.onFirst .expectedObjectCommaOrEnd s)

def members (member : σ → Text → Reader σ) (state : σ) : Reader σ := fun s =>
  membersWithin member (s.length + 1) true state s

def element (first : Bool) (read : Reader α) : Reader (Option α) := fun s =>
  let some' (s : Text) := (read s).map fun (a, rest) => (some a, rest)
  match skipSpace s with
  | [] => .error (.atEnd .eofList)
  | ']' :: r => .ok (none, ']' :: r)
  | ',' :: r =>
    if first then some' (',' :: r)
    else match skipSpace r with
      | [] => .error (.atEnd .eofValue)
      | ']' :: r => .error (.onFirst .trailingComma (']' :: r))
      | r => some' r
  | s => if first then some' s else .error (.onFirst .expectedListCommaOrEnd s)

def closeList : Text → Except Fault Text := fun s => match skipSpace s with
  | ']' :: r => .ok r
  | ',' :: r => match skipSpace r with
    | ']' :: r => .error (.onFirst .trailingComma (']' :: r))
    | r => .error (.onFirst .trailingCharacters r)
  | [] => .error (.atEnd .eofList)
  | s => .error (.onFirst .trailingCharacters s)

/-- A fault found at a key is placed after the white space that follows, and after the closing
brace if that comes next. -/
def atKey (cause : Cause) (s : Text) : Fault :=
  match skipSpace s with
  | '}' :: r => .before cause r
  | r => .before cause r

def run (read : Reader α) (s : Text) : Except Fault α := do
  let (a, rest) ← read s
  match skipSpace rest with
  | [] => return a
  | r => throw (.onFirst .trailingCharacters r)

end Reader

end ForumClient.Json
