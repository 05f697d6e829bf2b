import ForumClient.Json.Literal

namespace ForumClient.Json

def hexChar (n : Nat) : Char := Nat.digitChar n

def escapeChar : Char → Text
  | '"' => ['\\', '"']
  | '\\' => ['\\', '\\']
  | '\x08' => ['\\', 'b']
  | '\t' => ['\\', 't']
  | '\n' => ['\\', 'n']
  | '\x0c' => ['\\', 'f']
  | '\r' => ['\\', 'r']
  | c =>
    if c.toNat < 0x20 then
      ['\\', 'u', '0', '0', hexChar (c.toNat / 16), hexChar (c.toNat % 16)]
    else [c]

def writeString (s : Text) : Text := '"' :: s.flatMap escapeChar ++ ['"']

def writeInt (z : Int) : Text :=
  (if z < 0 then ['-'] else []) ++ Numeral.write z.natAbs

def writeBool (b : Bool) : Text := (if b then "true" else "false").toList

def writeObject (members : List (Text × Text)) : Text :=
  '{' :: Text.joinWith [','] (members.map fun (key, value) => writeString key ++ ':' :: value) ++
    ['}']

end ForumClient.Json
