import ForumClient.Json.Number

namespace ForumClient.Json

mutual

def skipWithin : Nat → Text → Except Fault Text
  | 0, _ => .error (.atEnd .eofValue)
  | calls + 1, s => match skipSpace s with
    | [] => .error (.atEnd .eofValue)
    | 'n' :: r => word "ull".toList r
    | 't' :: r => word "rue".toList r
    | 'f' :: r => word "alse".toList r
    | '-' :: r => Number.skip r
    | '"' :: r => skipString r
    | '[' :: r => skipElements calls true r
    | '{' :: r => skipMembers calls true r
    | c :: r =>
      if Number.isDigit c then Number.skip (c :: r) else .error (.onFirst .expectedValue (c :: r))

def skipElements : Nat → (first : Bool) → Text → Except Fault Text
  | 0, _, _ => .error (.atEnd .eofValue)
  | calls + 1, first, s => match skipSpace s with
    | [] => .error (.atEnd .eofList)
    | c :: r =>
      if c = ']' then .ok r
      else if first then do skipElements calls false (← skipWithin calls (c :: r))
      else if c = ',' then do skipElements calls false (← skipWithin calls r)
      else .error (.onFirst .expectedListCommaOrEnd (c :: r))

def skipMembers : Nat → (first : Bool) → Text → Except Fault Text
  | 0, _, _ => .error (.atEnd .eofValue)
  | calls + 1, first, s => match skipSpace s with
    | [] => .error (.atEnd .eofObject)
    | c :: r =>
      if c = '}' then .ok r
      else if first then do skipMembers calls false (← skipMember calls (c :: r))
      else if c = ',' then do skipMembers calls false (← skipMember calls r)
      else .error (.onFirst .expectedObjectCommaOrEnd (c :: r))

def skipMember : Nat → Text → Except Fault Text
  | 0, _ => .error (.atEnd .eofValue)
  | calls + 1, s => match skipSpace s with
    | [] => .error (.atEnd .eofObject)
    | '"' :: r => do
      let r ← skipString r
      match skipSpace r with
      | [] => .error (.atEnd .eofObject)
      | ':' :: r => skipWithin calls r
      | r => .error (.onFirst .expectedColon r)
    | r => .error (.onFirst .keyNotString r)

end

/-- Every third call at the latest takes up a character. -/
def skipValue (s : Text) : Except Fault Text := skipWithin (3 * s.length + 3) s

end ForumClient.Json
