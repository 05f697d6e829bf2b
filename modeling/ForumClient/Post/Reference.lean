import ForumClient.Desktop
import ForumClient.Text.Basic

namespace ForumClient

inductive Reference
  | collapsed
  | loading
  | expanded : Text → Reference
  | errored
  deriving DecidableEq, Repr, Inhabited

namespace Reference

inductive Action
  | fetch
  | collapse
  | ignore
  deriving DecidableEq, Repr

def toggle : Reference → Action × Reference
  | .collapsed => (.fetch, .loading)
  | .expanded _ => (.collapse, .collapsed)
  | .loading => (.ignore, .loading)
  | .errored => (.ignore, .errored)

def settle (reply : Except Failure Text) : Reference → Reference
  | .loading => match reply with
    | .ok fragment => .expanded fragment
    | .error _ => .errored
  | r => r

def fragment? : Reference → Option Text
  | .expanded t => some t
  | _ => none

def isErrored : Reference → Bool
  | .errored => true
  | _ => false

def errorMarker : String := " (错误)"

end Reference

end ForumClient
