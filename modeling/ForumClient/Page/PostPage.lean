import ForumClient.Page.PostBody
import ForumClient.Page.QuickMessage

/-!
The page of one post. The fragment is asked for when the page opens and again after each message.
The body keeps its state while fragments come and go well; it is made anew from the fragment at
hand when a message has been accepted, which is before the new fragment comes.
-/

namespace ForumClient

structure ShownPost where
  fold : Fold
  look : FoldLook
  body : PostBody

structure PostPage where
  post : PostId
  quick : QuickMessage
  generation : Nat := 0
  fragment : Option (Except Failure Text) := none
  shown : Option ShownPost := none
  fetches : List Exchange := []

namespace ShownPost

/-- The folding control as the store has it; a map that cannot be read counts as empty, with a
note. -/
def mount (s : Storage) (post : PostId) (html : Text) : ShownPost × List String :=
  match s.foldMap with
  | .ok m => (⟨.restore m post, s.foldLook, .ofHtml html⟩, [])
  | .error e =>
    (⟨.restore .empty post, s.foldLook, .ofHtml html⟩,
      ["[FOLD] Ignoring stored fold state: " ++ e.message])

def cssClass (p : ShownPost) : String :=
  if p.fold.folded then "post " ++ p.look.cssClass else "post"

end ShownPost

namespace PostPage

inductive Message
  | toggleFold
  | body : Option Text → Message
  | quick : QuickMessage.Message → Message
  deriving DecidableEq, Repr

def receive (s : Storage) (r : Except Failure Text) (p : PostPage) : PostPage × List String :=
  match r, p.shown with
  | .error _, _ => ({ p with fragment := some r, shown := none }, [])
  | .ok _, some shown =>
    ({ p with fragment := some r, shown := some { shown with look := s.foldLook } }, [])
  | .ok html, none =>
    let (shown, notes) := ShownPost.mount s p.post html
    ({ p with fragment := some r, shown := some shown }, notes)

/-- A message has been accepted: the body starts again from the fragment at hand. -/
def renew (s : Storage) (p : PostPage) : PostPage :=
  let shown := match p.fragment, p.shown with
    | some (.ok html), some shown => some { shown with look := s.foldLook, body := .ofHtml html }
    | _, shown => shown
  { p with generation := p.generation + 1, shown }

def notes (ts : List String) : Act Unit := ts.forM Host.console

def pollFetches : List Exchange → PostPage → Act PostPage
  | [], p => return p
  | x :: rest, p => do
    let h ← get
    let x := x.advance h
    match x.result? with
    | none => pollFetches rest { p with fetches := p.fetches ++ [x] }
    | some r =>
      let (p, ts) := p.receive h.storage (Exchange.fragment h.config p.post r)
      notes ts
      pollFetches rest p

def fetch (p : PostPage) : Act PostPage := do
  let x ← Exchange.fetchPost p.post
  pollFetches (p.fetches ++ [x]) { p with fetches := [] }

def mount (post : PostId) : Act PostPage := do
  fetch { post, quick := ← QuickMessage.mount }

def afterQuick : Nat × QuickMessage → PostPage → Act PostPage
  | (0, quick), p => return { p with quick }
  | (saved + 1, quick), p => do
    let p ← fetch (p.renew (← get).storage)
    afterQuick (saved, quick) p

def pollBody (p : PostPage) : Act PostPage := do
  match p.shown with
  | none => return p
  | some shown =>
    let body ← shown.body.poll
    return { p with shown := some { shown with body } }

def poll (p : PostPage) : Act PostPage := do
  let p ← pollFetches p.fetches { p with fetches := [] }
  let p ← afterQuick (← p.quick.poll) p
  pollBody p

def toggleFold (p : PostPage) : Act PostPage := do
  match p.shown with
  | none => return p
  | some shown =>
    let h ← get
    let (result, fold, s) := shown.fold.toggle p.post h.now h.storage
    if let .error e ← Host.keep Preferences.foldKey (result, s) then
      Host.console ("[FOLD] Could not save fold state: " ++ e.message)
    return { p with shown := some { shown with fold, look := (← get).storage.foldLook } }

def clickBody (slot : Option Text) (p : PostPage) : Act PostPage := do
  match p.shown, (← get).clickedSlot slot with
  | some shown, some slot =>
    let body ← shown.body.click slot
    return { p with shown := some { shown with body } }
  | _, _ => return p

def update (p : PostPage) : Message → Act PostPage
  | .toggleFold => p.toggleFold
  | .body slot => p.clickBody slot
  | .quick m => do afterQuick (← p.quick.update m) p

def viewShown (c : Config) (post : PostId) (p : ShownPost) : Html Message :=
  .element "div" [("class", p.cssClass), ("id", "post-" ++ post.toString)] none [
    .element "div" [("class", "post-header")] none [
      .element "span" [("class", "fold-toggle " ++ p.fold.icon)]
        (some (.click fun _ => .toggleFold)) [],
      .element "a" [("href", post.permalink c)] none [.text ("No." ++ post.toString)]],
    .element "div"
      [("class", "post-message"), ("style", if p.fold.showsMessage then "" else "display: none")]
      none [p.body.view.map .body]]

def view (c : Config) (p : PostPage) : Html Message :=
  let post : Html Message := match p.fragment, p.shown with
    | none, _ => .element "p" [("class", "loading")] none [.text "加载中..."]
    | some (.error e), _ => .element "div" [("class", "alert alert-error")] none [.text e.message]
    | some (.ok _), some shown => viewShown c p.post shown
    | some (.ok _), none => .text ""
  .element "div" [("class", "post-view")] none [post, p.quick.view.map .quick]

end PostPage

end ForumClient
