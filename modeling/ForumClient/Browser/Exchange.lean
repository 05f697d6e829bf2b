import ForumClient.Browser.Host
import ForumClient.Desktop

namespace ForumClient

inductive Exchange
  | waiting : (fetch : Nat) → Exchange
  | reading : (status : Nat) → (body : Value) → Exchange
  | done : Except Failure (Nat × String) → Exchange

namespace Exchange

def failed (e : String) : Exchange := .done (.error (.transport e))

def result? : Exchange → Option (Except Failure (Nat × String))
  | .done r => some r
  | _ => none

/-- Asks the browser. A fetch that throws has been asked for, but no reply is owed to it. -/
def start (b : Browser) (method url : String) (form : Option (List (FormField String))) :
    Act Exchange := do
  match (do b.attempt .request "Failed to create request"; b.window : Except String Unit) with
  | .error e => return failed e
  | .ok () =>
    Host.record (.fetch method url form)
    match b.thrown? .fetch with
    | some v => return failed ("Fetch failed: " ++ v.describe)
    | none =>
      modifyGet fun h =>
        (.waiting h.replies.length, { h with replies := h.replies ++ [none] })

def form (b : Browser) (fields : List (FormField String)) : Except String Unit := do
  b.attempt .formData "FormData"
  fields.forM fun f => b.attempt (.append f.name) "FormData append"

def post (url : String) (fields : List (FormField String)) : Act Exchange := do
  match (← get).browser with
  | none => return .done (Desktop.postForm.map (0, ·))
  | some b => match form b fields with
    | .error e => return failed e
    | .ok () => start b "POST" url (some fields)

def fetchPost (p : PostId) : Act Exchange := do
  let h ← get
  match h.browser with
  | none => return .done ((Desktop.fetchPost h.config p).map (0, ·))
  | some b => start b "GET" (p.rawUrl h.config) none

def read (h : Host) (status : Nat) (body : Value) : Exchange :=
  match h.settled? body with
  | none => .reading status body
  | some (.error e) => failed ("Failed to read body: " ++ e.describe)
  | some (.ok v) => match v.text? with
    | some t => .done (.ok (status, t))
    | none => failed "Response body is not a string"

def ofReply (h : Host) : Reply → Exchange
  | .rejected v => failed ("Fetch failed: " ++ v.describe)
  | .other => failed "Response is not a Response object"
  | .response status body => match h.browser.bind (·.thrown? .text) with
    | some v => failed ("Failed to get text: " ++ v.describe)
    | none => read h status body

def advance (h : Host) : Exchange → Exchange
  | .waiting fetch => match (h.replies[fetch]?).join with
    | some r => ofReply h r
    | none => .waiting fetch
  | .reading status body => read h status body
  | .done r => .done r

def fragment (c : Config) (p : PostId) (r : Except Failure (Nat × String)) : Except Failure Text :=
  r.bind fun (status, body) =>
    if status ≥ 400 then
      .error (.transport ("HTTP " ++ toString status ++ " for " ++ p.rawUrl c))
    else .ok body.toList

end Exchange

end ForumClient
