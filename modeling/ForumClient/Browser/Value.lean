import ForumClient.Decimal.Shortest

namespace ForumClient

inductive Value
  | undefined
  | null
  | bool : Bool → Value
  | number : Float → Value
  | string : String → Value
  | array : List Value → Value
  /-- Properties by name; reading one may throw a text. -/
  | object : List (String × Except String Value) → Value
  /-- What the function returns or throws, whatever it is called with. -/
  | function : (name : String) → Except String Value → Value
  | settled : Except Value Value → Value
  | pending : (name : String) → Value
  deriving Inhabited

namespace Value

def isMissing : Value → Bool
  | .undefined | .null => true
  | _ => false

def text? : Value → Option String
  | .string s => some s
  | _ => none

def isPrimitive : Value → Bool
  | .undefined | .null | .bool _ | .number _ | .string _ => true
  | _ => false

def describe (v : Value) : String :=
  let inner := match v with
    | .undefined => "undefined"
    | .null => "null"
    | .bool b => if b then "true" else "false"
    | .number x => String.ofList (Decimal.plain.write x)
    | .string s => "\"" ++ s ++ "\""
    | .array _ => "[]"
    | .function _ _ => "Function"
    | .object _ | .settled _ | .pending _ => "Object"
  "JsValue(" ++ inner ++ ")"

def get (v : Value) (name : String) : Except Value Value :=
  match v with
  | .object properties => match properties.lookup name with
    | some (.ok w) => .ok w
    | some (.error t) => .error (.string t)
    | none => .ok .undefined
  | _ =>
    if v.isPrimitive then .error (.string "Reflect.get called on non-object") else .ok .undefined

end Value

end ForumClient
