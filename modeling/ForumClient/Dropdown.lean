namespace ForumClient

namespace PageElement

inductive Kind
  | input
  | foreign
  | plain
  deriving DecidableEq, Repr

end PageElement

structure PageElement where
  kind : PageElement.Kind := .plain
  height : Float := 0
  top : Float := 0
  files : Option (List String) := none

structure Dropdown where
  height : Float
  offsetTop : Float
  scrollTop : Float
  viewportHeight : Float

namespace Dropdown

def overflow (d : Dropdown) : Float := d.height + d.offsetTop - d.scrollTop - d.viewportHeight

def atLeastZero (x : Float) : Float := if x > 0 then x else 0

def fit? (d : Dropdown) (margin : Float) : Option Float :=
  if d.overflow > 0 then some (atLeastZero (d.height - d.overflow - margin)) else none

end Dropdown

end ForumClient
