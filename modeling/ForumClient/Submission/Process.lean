import ForumClient.Config
import ForumClient.Server.Envelope
import ForumClient.Submission.Draft

/-!
One submission from the click to its end, as the list of its effects. It sends one request when
it starts and acts on the reply when that comes; between the two anything else may happen.
-/

namespace ForumClient

namespace Submission

structure Request (α : Type) where
  draft : Draft α
  preset : Option String := none
  hasTrigger : Bool := false
  hasCallback : Bool := false

inductive Effect (α : Type)
  | disable : Bool → Effect α
  | askCaptcha
  | post : (url : String) → List (FormField α) → Effect α
  | remember : (options : String) → Effect α
  | alert : String → Effect α
  | replaceToken : Token → Effect α
  | callback
  | navigate : (url : String) → Effect α
  | reload
  deriving DecidableEq, Repr

inductive Outcome
  | callback
  | navigated : (url : String) → Outcome
  | reloaded
  | rejected : Option ErrorCode → Token → Outcome
  | failed : Failure → Outcome
  deriving DecidableEq, Repr

structure InFlight where
  token : Token
  options : String
  hasTrigger : Bool
  hasCallback : Bool
  deriving DecidableEq, Repr

def Request.inFlight (r : Request α) : InFlight :=
  ⟨r.draft.token, r.draft.optionsText, r.hasTrigger, r.hasCallback⟩

def Request.payload (r : Request α) (d : Draft α) : Payload α := Payload.build d r.preset

def setTrigger (hasTrigger on : Bool) : List (Effect α) :=
  if hasTrigger then [.disable on] else []

/-- Decided from the preset message before the payload is built, which decides it again. -/
def Request.isUpdate (r : Request α) : Bool := r.preset.any (· ≠ "")

/-- The page's captcha is asked only for a new post that brings no answer of its own. -/
def Request.asksCaptcha (r : Request α) : Bool := !r.isUpdate && r.draft.captcha.isNone

/-- Effects up to the request; `captcha` is what the page's captcha answers if asked. -/
def start (c : Config) (captcha : Option String) (r : Request α) : List (Effect α) :=
  let draft := if r.asksCaptcha then { r.draft with captcha } else r.draft
  setTrigger r.hasTrigger true ++ (if r.asksCaptcha then [.askCaptcha] else []) ++
    [.post c.apiUrl (r.payload draft).fields]

def destination (c : Config) (f : InFlight) (e : Envelope) : Outcome :=
  if f.hasCallback then .callback
  else match e.newPost? with
    | some p =>
      if Options.mentions f.options c.noRedirectMarker then .reloaded
      else .navigated (p.permalink c)
    | none => .reloaded

def Outcome.effects : Outcome → List (Effect α)
  | .callback => [.callback]
  | .navigated url => [.navigate url]
  | .reloaded => [.reload]
  | .rejected code t => [.alert (Report.text (.rejected code)), .replaceToken t]
  | .failed e => [.alert (Report.text (.failed e))]

/-- How a submission ends; `next` is the token drawn in case the server refuses. -/
def outcome (c : Config) (f : InFlight) (next : Token) (reply : Except Failure String) : Outcome :=
  match reply.bind Envelope.parse with
  | .ok e => if e.success then destination c f e else .rejected e.error next
  | .error e => .failed e

def Outcome.isAccepted : Outcome → Bool
  | .callback | .navigated _ | .reloaded => true
  | .rejected _ _ | .failed _ => false

def finish (f : InFlight) (o : Outcome) : List (Effect α) :=
  (if o.isAccepted then [.remember f.options] else []) ++ o.effects ++
    setTrigger f.hasTrigger false

end Submission

end ForumClient
