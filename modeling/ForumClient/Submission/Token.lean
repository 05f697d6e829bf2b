namespace ForumClient

structure Token where
  text : String
  deriving DecidableEq, Repr

/-- A random source: the draws given, then zeros for ever. -/
abbrev Draws := List (Fin 16)

namespace Token

/-- A place of the template: any digit, the fixed digit of the version, or one of the four digits
of the variant. -/
inductive Place
  | any
  | version
  | variant
  deriving DecidableEq, Repr

def template : List Place :=
  List.replicate 12 .any ++ [.version] ++ List.replicate 3 .any ++ [.variant] ++
    List.replicate 15 .any

def Place.digit : Place → Fin 16 → Char
  | .any, r => Nat.digitChar r
  | .version, _ => '4'
  | .variant, r => Nat.digitChar (8 + r % 4)

def fill : List Place → Draws → List Char × Draws
  | [], ds => ([], ds)
  | p :: ps, [] => let (cs, ds) := fill ps []; (p.digit 0 :: cs, ds)
  | p :: ps, r :: ds => let (cs, ds) := fill ps ds; (p.digit r :: cs, ds)

def generate (ds : Draws) : Token × Draws :=
  let (cs, ds) := fill template ds
  (⟨String.ofList cs⟩, ds)

/-- Draws until the token differs from the old one. Once the draws have run out only one token is
left to come, so after that nothing new can turn up. -/
def rotateWithin (old : Token) : Nat → Draws → Option (Token × Draws)
  | 0, _ => none
  | n + 1, ds =>
    let (t, rest) := generate ds
    if t ≠ old then some (t, rest) else rotateWithin old n rest

def rotate? (old : Token) (ds : Draws) : Option (Token × Draws) :=
  rotateWithin old (ds.length + 2) ds

def Place.accepts : Place → Char → Bool
  | .any, c => ('0' ≤ c && c ≤ '9') || ('a' ≤ c && c ≤ 'f')
  | .version, c => c == '4'
  | .variant, c => c == '8' || c == '9' || c == 'a' || c == 'b'

def acceptsAll : List Place → List Char → Bool
  | [], [] => true
  | p :: ps, c :: cs => p.accepts c && acceptsAll ps cs
  | _, _ => false

def isWellFormed (t : Token) : Bool := acceptsAll template t.text.toList

end Token

end ForumClient
