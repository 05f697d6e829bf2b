import ForumClient.Text.Escape

namespace ForumClient

structure Click where
  plain : Bool := true
  slot : Option Text := none

inductive Event
  | click : Click → Event
  | input : (value : String) → Event
  | change : (value : String) → Event
  | submit

inductive Handler (μ : Type)
  | click : (Click → μ) → Handler μ
  | input : (String → μ) → Handler μ
  | change : (String → μ) → Handler μ
  | link : μ → Handler μ
  /-- Keeps a form from being sent by the browser itself. -/
  | hold

namespace Handler

def react : Handler μ → Event → Option μ × Bool
  | .click f, .click c => (some (f c), false)
  | .input f, .input v => (some (f v), false)
  | .change f, .change v => (some (f v), false)
  | .link m, .click c => if c.plain then (some m, true) else (none, false)
  | .hold, .submit => (none, true)
  | _, _ => (none, false)

def map (f : μ → ν) : Handler μ → Handler ν
  | .click g => .click (f ∘ g)
  | .input g => .input (f ∘ g)
  | .change g => .change (f ∘ g)
  | .link m => .link (f m)
  | .hold => .hold

end Handler

abbrev Attribute := String × String

inductive Html (μ : Type)
  | text : String → Html μ
  | raw : Text → Html μ
  | element : (tag : String) → List Attribute → Option (Handler μ) → List (Html μ) → Html μ

namespace Html

def flag (name : String) (on : Bool) : List Attribute := if on then [(name, "true")] else []

mutual

def map (f : μ → ν) : Html μ → Html ν
  | .text t => .text t
  | .raw t => .raw t
  | .element tag attributes handler inner =>
    .element tag attributes (handler.map (.map f)) (mapAll f inner)

def mapAll (f : μ → ν) : List (Html μ) → List (Html ν)
  | [] => []
  | h :: hs => map f h :: mapAll f hs

end

def writeAttribute (a : Attribute) : Text :=
  ' ' :: a.1.toList ++ "=\"".toList ++ Entity.escape a.2.toList ++ ['"']

def writeAttributes (attributes : List Attribute) : Text :=
  (attributes.mergeSort fun a b => decide (a.1 ≤ b.1)).flatMap writeAttribute

mutual

def write : Html μ → Text
  | .text t => Entity.escape t.toList
  | .raw t => t
  | .element tag attributes _ inner =>
    '<' :: tag.toList ++ writeAttributes attributes ++ '>' :: writeAll inner ++
      "</".toList ++ tag.toList ++ ['>']

def writeAll : List (Html μ) → Text
  | [] => []
  | h :: hs => write h ++ writeAll hs

end

/-- An element that events can happen at, with its own handler and those around it, innermost
first. -/
structure Target (μ : Type) where
  tag : String
  attributes : List Attribute
  handlers : List (Handler μ)

mutual

/-- The elements in document order; `outer` are the handlers around them. -/
def targets (outer : List (Handler μ)) : Html μ → List (Target μ)
  | .text _ => []
  | .raw _ => []
  | .element tag attributes handler inner =>
    let handlers := handler.toList ++ outer
    ⟨tag, attributes, handlers⟩ :: targetsAll handlers inner

def targetsAll (outer : List (Handler μ)) : List (Html μ) → List (Target μ)
  | [] => []
  | h :: hs => targets outer h ++ targetsAll outer hs

end

end Html

namespace Html.Target

def isDisabled (t : Target μ) : Bool := (t.attributes.lookup "disabled").isSome

def matches? (t : Target μ) (tag : String) (cssClass : Option String) : Bool :=
  t.tag == tag && (cssClass.isNone || t.attributes.lookup "class" == cssClass)

def receive (t : Target μ) (e : Event) : List μ × Bool :=
  let reactions := t.handlers.map (·.react e)
  (reactions.filterMap (·.1), reactions.any (·.2))

end Html.Target

structure Selector where
  tag : String
  cssClass : Option String := none
  index : Nat := 0

def Html.find? (h : Html μ) (s : Selector) : Option (Html.Target μ) :=
  ((h.targets []).filter (·.matches? s.tag s.cssClass))[s.index]?

end ForumClient
