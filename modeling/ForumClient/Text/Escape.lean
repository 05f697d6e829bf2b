import ForumClient.Text.Basic

namespace ForumClient.Entity

def escapeChar : Char → Text
  | '&' => "&amp;".toList
  | '<' => "&lt;".toList
  | '>' => "&gt;".toList
  | '"' => "&quot;".toList
  | c => [c]

def escape (s : Text) : Text := s.flatMap escapeChar

def escapeQuotes (s : Text) : Text :=
  s.flatMap fun c => if c = '"' then "&quot;".toList else [c]

def unescape : Text → Text
  | '&' :: 'g' :: 't' :: ';' :: s => '>' :: unescape s
  | '&' :: 'l' :: 't' :: ';' :: s => '<' :: unescape s
  | '&' :: 'n' :: 'b' :: 's' :: 'p' :: ';' :: s => ' ' :: unescape s
  | '&' :: 'a' :: 'm' :: 'p' :: ';' :: s => '&' :: unescape s
  | c :: s => c :: unescape s
  | [] => []

end ForumClient.Entity

namespace ForumClient.Percent

def hexDigit? (b : UInt8) : Option UInt8 :=
  if 48 ≤ b ∧ b ≤ 57 then some (b - 48)
  else if 65 ≤ b ∧ b ≤ 70 then some (b - 55)
  else if 97 ≤ b ∧ b ≤ 102 then some (b - 87)
  else none

def decodeBytes : List UInt8 → List UInt8
  | 37 :: a :: b :: s => match hexDigit? a, hexDigit? b with
    | some m, some n => (m * 16 + n) :: decodeBytes s
    | _, _ => 37 :: decodeBytes (a :: b :: s)
  | b :: s => b :: decodeBytes s
  | [] => []

def decode (s : Text) : Text :=
  let bytes := decodeBytes (String.ofList s).toUTF8.toList
  match String.fromUTF8? ⟨bytes.toArray⟩ with
  | some t => t.toList
  | none => s

end ForumClient.Percent
