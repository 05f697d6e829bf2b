import ForumClient.Browser.Exchange
import ForumClient.Preferences.Basic
import ForumClient.Submission.Process

namespace ForumClient

open Submission

structure Sender where
  token : Token
  busy : Bool := false
  waiting : List (InFlight × Exchange) := []

namespace Sender

def mount : Act Sender := return { token := ← Host.drawToken }

def perform (f : InFlight) (s : Sender) : Effect String → Act Sender
  | .disable b => return { s with busy := b }
  | .post url fields => do
    let x ← Exchange.post url fields
    return { s with waiting := s.waiting ++ [(f, x)] }
  | .remember options => do
    let _ ← Host.keep Preferences.optionsKey ((← get).storage.saveOptions options)
    return s
  | .alert t => do Host.alert t; return s
  | .replaceToken t => return { s with token := t }
  | .navigate url => do Host.navigate url; return s
  | .reload => do Host.reload; return s
  | .askCaptcha | .callback => return s

def performAll (f : InFlight) (s : Sender) (es : List (Effect String)) : Act Sender :=
  es.foldlM (perform f) s

/-- Ends one submission; the token drawn in case of a refusal is spent only by one. -/
def settle (f : InFlight) (reply : Except Failure String) (s : Sender) :
    Act (Outcome × Sender) := do
  let h ← get
  let (next, draws) := h.redraw f.token
  let o := outcome h.config f next reply
  if let .rejected _ _ := o then modify fun h => { h with draws }
  return (o, ← performAll f s (finish f o))

def pollEach : List (InFlight × Exchange) → Sender → Act (List Outcome × Sender)
  | [], s => return ([], s)
  | (f, x) :: rest, s => do
    let x := x.advance (← get)
    match x.result? with
    | none => pollEach rest { s with waiting := s.waiting ++ [(f, x)] }
    | some r =>
      let (o, s) ← settle f (r.map (·.2)) s
      let (os, s) ← pollEach rest s
      return (o :: os, s)

def poll (s : Sender) : Act (List Outcome × Sender) :=
  pollEach s.waiting { s with waiting := [] }

def send (r : Request String) (s : Sender) : Act (List Outcome × Sender) := do
  let captcha ← if r.asksCaptcha then Host.captcha else pure none
  poll (← performAll r.inFlight s (start (← get).config captcha r))

end Sender

end ForumClient
