namespace ForumClient

abbrev Text := List Char

namespace Text

def isBlank (c : Char) : Bool :=
  let n := c.toNat
  (9 ≤ n && n ≤ 13) || n == 0x20 || n == 0x85 || n == 0xa0 || n == 0x1680 ||
    (0x2000 ≤ n && n ≤ 0x200a) || n == 0x2028 || n == 0x2029 || n == 0x202f || n == 0x205f ||
    n == 0x3000

def trimStart (s : Text) : Text := s.dropWhile isBlank

def trimEnd (s : Text) : Text := (s.reverse.dropWhile isBlank).reverse

def trim (s : Text) : Text := trimEnd (trimStart s)

def splitBy (sep : Char → Bool) : Text → List Text
  | [] => [[]]
  | c :: s =>
    if sep c then [] :: splitBy sep s
    else match splitBy sep s with
      | [] => [[c]]
      | w :: ws => (c :: w) :: ws

def words (s : Text) : List Text := (s.splitBy isBlank).filter (· ≠ [])

def joinWith (sep : Text) : List Text → Text
  | [] => []
  | [w] => w
  | w :: v :: ws => w ++ sep ++ joinWith sep (v :: ws)

def literal? (p : String) (s : Text) : Option Text := p.toList.isPrefixOf? s

def after? (p : Text) : Text → Option Text
  | [] => p.isPrefixOf? []
  | c :: s => match p.isPrefixOf? (c :: s) with
    | some rest => some rest
    | none => after? p s

def upTo? (q : Char) : Text → Option Text
  | [] => none
  | c :: s => if c = q then some [] else (upTo? q s).map (c :: ·)

def contains (p s : Text) : Bool := (after? p s).isSome

def byteLength (s : Text) : Nat := s.foldr (fun c n => c.utf8Size + n) 0

theorem splitBy_ne_nil (sep : Char → Bool) (s : Text) : splitBy sep s ≠ [] := by
  cases s with
  | nil => simp [splitBy]
  | cons c s =>
    simp only [splitBy]
    split
    · simp
    · split <;> simp

@[simp] theorem byteLength_nil : byteLength [] = 0 := rfl

@[simp] theorem byteLength_cons (c : Char) (s : Text) :
    byteLength (c :: s) = c.utf8Size + byteLength s := rfl

end Text

end ForumClient
