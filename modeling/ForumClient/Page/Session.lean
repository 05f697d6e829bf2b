import ForumClient.Page.Composer
import ForumClient.Page.PostPage
import ForumClient.Page.Route
import ForumClient.Page.Settings

/-!
A session: the page that is open, what it runs on, and the steps by which either moves on. A page
that is left is dropped with everything that it was waiting for.
-/

namespace ForumClient

inductive Page
  | composer : Composer → Page
  | post : PostPage → Page
  | settings : Settings → Page

namespace Page

inductive Message
  | visit : Route → Message
  | composer : Composer.Message → Message
  | post : PostPage.Message → Message
  | settings : Settings.Message → Message
  deriving DecidableEq, Repr

def mount : Route → Act Page
  | .board => return .composer (← Composer.mount .new)
  | .topic t => return .composer (← Composer.mount t)
  | .post p => return .post (← PostPage.mount p)
  | .settings => return .settings (.ofStorage (← get).storage)

def poll : Page → Act Page
  | .composer c => return .composer (← c.poll)
  | .post p => return .post (← p.poll)
  | .settings s => return .settings s

def update (p : Page) (m : Message) : Act Page :=
  match p, m with
  | .composer c, .composer m => return .composer (← c.update m)
  | .post p, .post m => return .post (← p.update m)
  | .settings s, .settings m => return .settings (← s.update m)
  | p, _ => return p

def view (c : Config) : Page → Html Message
  | .composer p => (p.view c.noRedirectMarker).map .composer
  | .post p => (p.view c).map .post
  | .settings p => p.view.map .settings

end Page

structure Session where
  route : Route
  page : Page
  host : Host

namespace Session

def start (r : Route) (h : Host) : Session :=
  let (page, host) := (Page.mount r).run h
  ⟨r, page, host⟩

def act (s : Session) (f : Page → Act Page) : Session :=
  let (page, host) := (f s.page).run s.host
  { s with page, host }

/-- A visit to the page that is open changes nothing. -/
def update (s : Session) : Page.Message → Session
  | .visit r => if r = s.route then s else start r s.host
  | m => s.act (·.update m)

def link (current target : Route) (name : String) : Html Page.Message :=
  let here := if current = target then [("aria-current", "page")] else []
  .element "a" (("href", target.path) :: here) (some (.link (.visit target))) [.text name]

def view (s : Session) : Html Page.Message :=
  .element "div" [("class", "fofou-app")] none [
    .element "header" [("class", "app-header")] none [
      .element "nav" [] none [link s.route .board "首页", link s.route .settings "设置"]],
    .element "main" [] none [s.page.view s.host.config]]

inductive Answer
  | noElement
  | disabled
  | handled : (prevented : Bool) → Answer
  | done
  | called
  | noListener
  | dropped
  | nothingThere
  deriving DecidableEq, Repr

def dispatch (s : Session) (at' : Selector) (e : Event) : Answer × Session :=
  match s.view.find? at' with
  | none => (.noElement, s)
  | some t => match e with
    | .click _ => if t.isDisabled then (.disabled, s) else send t
    | _ => send t
where
  send (t : Html.Target Page.Message) : Answer × Session :=
    let (messages, prevented) := t.receive e
    (.handled prevented, messages.foldl update s)

def poll (s : Session) : Session := s.act Page.poll

def withHost (s : Session) (f : Host → Host) : Session := { s with host := f s.host }.poll

/-- Puts another browser under the page, which does not notice by itself. -/
def browse (s : Session) (b : Browser) : Session :=
  { s with host := { s.host with browser := s.host.browser.map fun _ => b } }

def expect (s : Session) (names : List String) : Session :=
  { s with host := ((Host.expect names).run s.host).2 }

def respond (s : Session) (fetch : Nat) (r : Reply) : Answer × Session :=
  match s.host.replies[fetch]? with
  | none => (.nothingThere, s)
  | some (some _) => (.done, s)
  | some none => (.done, s.withHost fun h => { h with replies := h.replies.set fetch (some r) })

def settle (s : Session) (promise : String) (r : Except Value Value) : Answer × Session :=
  match s.host.promises.lookup promise with
  | none => (.nothingThere, s)
  | some (some _) => (.done, s)
  | some none =>
    (.done, s.withHost fun h =>
      { h with promises := (promise, some r) :: h.promises.filter (·.1 ≠ promise) })

def awaits (s : Session) (transfer : Nat) : Bool :=
  match s.page with
  | .post p => (p.shown.map (·.body.awaits transfer)).getD false
  | _ => false

/-- Tells a listener, if one is attached and whoever attached it is still there. -/
def tell (s : Session) (transfer : Nat) (attached : Transfer → Bool) (f : Session → Session) :
    Answer × Session :=
  match s.host.transfers[transfer]? with
  | none => (.nothingThere, s)
  | some t =>
    if !attached t then (.noListener, s)
    else if s.awaits transfer then (.called, f s)
    else (.dropped, s)

def progress (s : Session) (transfer : Nat) (loaded total : Float) : Answer × Session :=
  s.tell transfer (·.watched) fun s => match s.page with
    | .post p =>
      let shown := p.shown.map fun q => { q with body := q.body.progress transfer loaded total }
      { s with page := .post { p with shown } }
    | _ => s

def endTransfer (s : Session) (transfer : Nat) (e : TransferEnd) (status : Nat) :
    Answer × Session :=
  s.tell transfer (·.listeners.contains e) fun s => s.withHost fun h =>
    { h with transfers := h.transfers.modify transfer (.finish e status) }

def endScript (s : Session) (script : Nat) (e : ScriptEnd) : Answer × Session :=
  match s.host.scripts[script]? with
  | none => (.nothingThere, s)
  | some first =>
    if s.host.awaitsScript script then
      (.called, s.withHost fun h => { h with scripts := h.scripts.set script (first <|> some e) })
    else (.dropped, s)

def takeRecords (s : Session) : List Record × Session :=
  (s.host.records, { s with host := { s.host with records := [] } })

end Session

end ForumClient
