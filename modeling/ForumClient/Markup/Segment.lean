import ForumClient.Post.Id
import ForumClient.Text.Escape
import ForumClient.Text.WordChar

/-!
A post's markup cut into segments: quoted references and enlargeable images, and the markup
between them kept as it stands. A reference is an anchor whose click handler names a post; an
image is an image tag with a source and a handler that names the full image.
-/

namespace ForumClient.Markup

inductive Segment
  | html : Text → Segment
  | reference : PostId → Text → Segment
  | image : (thumbnail : Text) → (url : Text) → Segment
  deriving DecidableEq, Repr

def Segment.isInteractive : Segment → Bool
  | .html _ => false
  | _ => true

/-- A matched tag: the text it takes up and, when it can be acted on, what it stands for. -/
structure Element where
  source : Text
  meaning : Option Segment
  deriving DecidableEq, Repr

def blanks? : Text → Option Text
  | c :: s => if Text.isBlank c then some (Text.trimStart s) else none
  | [] => none

def quote? : Text → Option Text
  | '\'' :: s => some s
  | '"' :: s => some s
  | _ => none

def label? : Text → Option (Text × Text)
  | [] => none
  | c :: s => match Text.literal? "</a>" (c :: s) with
    | some rest => some ([], rest)
    | none =>
      if c = '\n' then none
      else (label? s).map fun (label, rest) => (c :: label, rest)

def anchor? (s : Text) : Option (Text × Text × Text) := do
  let s ← Text.literal? "<a" s
  let s ← blanks? s
  let s ← Text.literal? "href=" s
  let s ← quote? s
  let s ← Text.literal? "javascript:void(0)" s
  let s ← quote? s
  let s ← blanks? s
  let s ← Text.literal? "onclick=" s
  let s ← quote? s
  let s ← Text.literal? "_ref(this," s
  let s := Text.trimStart s
  let digits := s.takeWhile Text.isDigit
  guard (digits ≠ [])
  let s ← Text.literal? ")" (s.dropWhile Text.isDigit)
  let s ← quote? s
  let s ← Text.literal? ">" (Text.trimStart s)
  let (label, rest) ← label? s
  return (digits, label, rest)

def dropSlash (tag : Text) : Text :=
  if tag.getLast? = some '/' then tag.dropLast else tag

def startsWord : Text → Bool
  | c :: _ => Text.isWordChar c
  | [] => false

def imageTag? (s : Text) : Option (Text × Text) := do
  let s ← Text.literal? "<img" s
  guard (!startsWord s)
  let tag ← Text.upTo? '>' s
  return (dropSlash tag, s.drop (tag.length + 1))

def sourceHere? (s : Text) : Option Text := do
  let s ← Text.literal? "src" s
  let s ← Text.literal? "=" (Text.trimStart s)
  match Text.trimStart s with
  | '\'' :: s => Text.upTo? '\'' s
  | '"' :: s => Text.upTo? '"' s
  | _ => none

def sourceAfterBlank? : Text → Option Text
  | [] => none
  | c :: s =>
    if Text.isBlank c then
      match sourceHere? s with
      | some v => some v
      | none => sourceAfterBlank? s
    else sourceAfterBlank? s

/-- The attribute's whole name is wanted, so it starts the tag text or follows white space. -/
def source? (tag : Text) : Option Text :=
  match sourceHere? tag with
  | some v => some v
  | none => sourceAfterBlank? tag

def enlargeTarget? (tag : Text) : Option Text := do
  let s ← Text.after? "_enlarge(this,".toList tag
  match Text.trimStart s with
  | '\'' :: s => Text.upTo? '\'' s
  | '"' :: s => Text.upTo? '"' s
  | _ => none

def referenceOf? (digits label : Text) : Option Segment :=
  (Numeral.read? PostId.limit digits).map fun n =>
    .reference (PostId.ofNat n) (Entity.unescape label)

def imageOf? (tag : Text) : Option Segment := do
  let thumbnail ← source? tag
  let url ← enlargeTarget? tag
  return .image thumbnail url

def element? (s : Text) : Option Element :=
  match anchor? s with
  | some (digits, label, rest) =>
    some ⟨s.take (s.length - rest.length), referenceOf? digits label⟩
  | none => (imageTag? s).map fun (tag, rest) =>
    ⟨s.take (s.length - rest.length), imageOf? tag⟩

inductive Lexeme
  | char : Char → Lexeme
  | element : Element → Lexeme
  deriving DecidableEq, Repr

def lexemesAfter : Nat → Text → List Lexeme
  | _, [] => []
  | skip + 1, _ :: s => lexemesAfter skip s
  | 0, c :: s => match element? (c :: s) with
    | some e => .element e :: lexemesAfter (e.source.length - 1) s
    | none => .char c :: lexemesAfter 0 s

def lexemes (s : Text) : List Lexeme := lexemesAfter 0 s

def consHtml (t : Text) : List Segment → List Segment
  | .html u :: segs => .html (t ++ u) :: segs
  | segs => .html t :: segs

/-- A tag that cannot be acted on stays in the markup around it. -/
def ofLexemes : List Lexeme → List Segment
  | [] => []
  | .char c :: ls => consHtml [c] (ofLexemes ls)
  | .element ⟨source, none⟩ :: ls => consHtml source (ofLexemes ls)
  | .element ⟨_, some seg⟩ :: ls => seg :: ofLexemes ls

def segments (s : Text) : List Segment := ofLexemes (lexemes s)

def interactive (s : Text) : List Segment := (segments s).filter Segment.isInteractive

end ForumClient.Markup
