import ForumClient.Proofs.Offers
import ForumClient.Proofs.PageMoves
import ForumClient.Server.Forum

namespace ForumClient

open PostPage (Reached)

def Reply.text (status : Nat) (body : String) : Reply :=
  .response status (.settled (.ok (.string body)))

def Host.bare (replies : List (Option Reply)) : Host :=
  { config := {}, browser := some {}, replies }

namespace Page

/-- What holds of a page when it is opened and is kept by all that can happen to it. -/
structure Invariant (P : Page → Prop) : Prop where
  mount (r : Route) (h : Host) : P ((mount r).run h).1
  poll {page : Page} (hp : P page) (h : Host) : P (page.poll.run h).1
  update {page : Page} (hp : P page) (m : Message) (hm : page.Allows m) (h : Host) :
    P ((page.update m).run h).1
  progress {p : PostPage} (hp : P (.post p)) (number : Nat) (loaded total : Float) :
    P (.post { p with
      shown := p.shown.map fun s => { s with body := s.body.progress number loaded total } })

def openLog (h : Host) : Route → List PostPage.Move
  | .post id => PostPage.mountLog h id
  | .board | .topic _ | .settings => []

def pollLog (h : Host) : Page → List PostPage.Move
  | .post p => p.pollLog h
  | .composer _ | .settings _ => []

def updateLog (h : Host) : Page → Message → List PostPage.Move
  | .post p, .post m => p.updateLog h m
  | _, _ => []

end Page

namespace Session

inductive Input
  | event : Selector → Event → Input
  | browse : Browser → Input
  | expect : (promises : List String) → Input
  | respond : (fetch : Nat) → Reply → Input
  | settle : (promise : String) → Except Value Value → Input
  | progress : (transfer : Nat) → (loaded total : Float) → Input
  | endTransfer : (transfer : Nat) → TransferEnd → (status : Nat) → Input
  | endScript : (script : Nat) → ScriptEnd → Input

def take (s : Session) : Input → Session
  | .event at' e => (s.dispatch at' e).2
  | .browse b => s.browse b
  | .expect promises => s.expect promises
  | .respond fetch r => (s.respond fetch r).2
  | .settle promise r => (s.settle promise r).2
  | .progress transfer loaded total => (s.progress transfer loaded total).2
  | .endTransfer transfer e status => (s.endTransfer transfer e status).2
  | .endScript script e => (s.endScript script e).2

def run (s : Session) (inputs : List Input) : Session := inputs.foldl take s

def hears (s : Session) (transfer : Nat) (attached : Transfer → Bool) : Bool :=
  (s.host.transfers[transfer]?).any attached && s.awaits transfer

/-- What the page notices of an input: a message, something on its host that it may wait for, or the
progress of a transfer. -/
inductive Notice
  | message : Page.Message → Notice
  | wake : Host → Notice
  | progress : (transfer : Nat) → (loaded total : Float) → Notice

def notice? (s : Session) : Input → Option Notice
  | .event at' e => (s.message? at' e).map .message
  | .browse _ | .expect _ => none
  | .respond fetch r => match s.host.replies[fetch]? with
    | some none => some (.wake { s.host with replies := s.host.replies.set fetch (some r) })
    | some (some _) | none => none
  | .settle promise r => match s.host.promises.lookup promise with
    | some none => some (.wake { s.host with
        promises := (promise, some r) :: s.host.promises.filter (·.1 ≠ promise) })
    | some (some _) | none => none
  | .progress transfer loaded total =>
    if s.hears transfer (·.watched) then some (.progress transfer loaded total) else none
  | .endTransfer transfer e status =>
    if s.hears transfer (·.listeners.contains e) then
      some (.wake { s.host with
        transfers := s.host.transfers.modify transfer (.finish e status) })
    else none
  | .endScript script e => match s.host.scripts[script]? with
    | some first =>
      if s.host.awaitsScript script then
        some (.wake { s.host with scripts := s.host.scripts.set script (first <|> some e) })
      else none
    | none => none

/-- What can come of an input: nothing, a message that the page allows, another browser or more
promises, which no page notices by itself, something that the page waits for, or an event of a
transfer that it listens to. -/
inductive Step (s : Session) : Input → Session → Prop
  | nothing {i : Input} (notice : s.notice? i = none) : Step s i s
  | message {m : Page.Message} {at' : Selector} {e : Event}
      (notice : s.notice? (.event at' e) = some (.message m)) (allows : s.page.Allows m) :
      Step s (.event at' e) (s.update m)
  | browsed (b : Browser) : Step s (.browse b) (s.browse b)
  | expected (promises : List String) : Step s (.expect promises) (s.expect promises)
  | noticed {i : Input} (replies : List (Option Reply))
      (promises : List (String × Option (Except Value Value))) (scripts : List (Option ScriptEnd))
      (still : ∀ transfer e status, i ≠ .endTransfer transfer e status)
      (notice : s.notice? i = some (.wake { s.host with replies, promises, scripts })) :
      Step s i (s.withHost fun h => { h with replies, promises, scripts })
  | progressed {p : PostPage} {number : Nat} {loaded total : Float} (page : s.page = .post p)
      (heard : s.hears number (·.watched) = true)
      (notice : s.notice? (.progress number loaded total) = some (.progress number loaded total)) :
      Step s (.progress number loaded total) { s with page := .post { p with
        shown := p.shown.map fun q => { q with body := q.body.progress number loaded total } } }
  | ended {number : Nat} {e : TransferEnd} {status : Nat}
      (heard : s.hears number (·.listeners.contains e) = true)
      (notice : s.notice? (.endTransfer number e status) = some (.wake { s.host with
        transfers := s.host.transfers.modify number (.finish e status) })) :
      Step s (.endTransfer number e status)
        (s.withHost fun h => { h with transfers := h.transfers.modify number (.finish e status) })

def post? (s : Session) : Option PostPage :=
  match s.page with
  | .post p => some p
  | .composer _ | .settings _ => none

variable {s : Session} {p : PostPage} {P : Page → Prop}

theorem tell_eq (s : Session) (number : Nat) (attached : Transfer → Bool)
    (f : Session → Session) :
    (s.tell number attached f).2 = if s.hears number attached then f s else s := by
  rw [tell, hears]
  cases s.host.transfers[number]? with
  | none => rfl
  | some t =>
    rw [Option.any_some]
    dsimp only
    cases attached t with
    | false => rfl
    | true => cases s.awaits number <;> rfl

theorem step_take (s : Session) (i : Input) : Step s i (s.take i) := by
  cases i with
  | event at' e =>
    rw [take]
    rcases s.dispatch_cases at' e with ⟨hnone, h⟩ | ⟨m, hm, allows, h⟩
    · rw [h]
      exact .nothing (by rw [notice?, hnone]; rfl)
    · rw [h]
      exact .message (by rw [notice?, hm]; rfl) allows
  | browse b => exact .browsed b
  | expect promises => exact .expected promises
  | respond fetch r =>
    rw [take, respond]
    split
    · next h => exact .nothing (by rw [notice?, h])
    · next h => exact .nothing (by rw [notice?, h])
    · next h =>
      exact .noticed (s.host.replies.set fetch (some r)) s.host.promises s.host.scripts nofun
        (by rw [notice?, h])
  | settle promise r =>
    rw [take, settle]
    split
    · next h => exact .nothing (by rw [notice?, h])
    · next h => exact .nothing (by rw [notice?, h])
    · next h => exact .noticed s.host.replies _ s.host.scripts nofun (by rw [notice?, h])
  | progress number loaded total =>
    rw [take, progress, tell_eq]
    split
    · next heard =>
      cases hpage : s.page with
      | composer | settings =>
        rw [hears, awaits, hpage, Bool.and_false] at heard
        cases heard
      | post p => exact .progressed hpage heard (by rw [notice?, if_pos heard])
    · next unheard => exact .nothing (by rw [notice?, if_neg unheard])
  | endTransfer number e status =>
    rw [take, endTransfer, tell_eq]
    split
    · next heard => exact .ended heard (by rw [notice?, if_pos heard])
    · next unheard => exact .nothing (by rw [notice?, if_neg unheard])
  | endScript script e =>
    rw [take, endScript]
    split
    · next h => exact .nothing (by rw [notice?, h])
    · next first h =>
      split
      · next awaited =>
        exact .noticed s.host.replies s.host.promises _ nofun
          (by rw [notice?, h]; exact if_pos awaited)
      · next unawaited => exact .nothing (by rw [notice?, h]; exact if_neg unawaited)

theorem page_withHost (hP : Page.Invariant P) (hs : P s.page) (f : Host → Host) :
    P (s.withHost f).page := hP.poll hs (f s.host)

theorem page_update (hP : Page.Invariant P) (hs : P s.page) (m : Page.Message)
    (hm : s.page.Allows m) : P (s.update m).page := by
  cases m with
  | visit r =>
    rw [update]
    split
    · exact hs
    · exact hP.mount r s.host
  | composer | post | settings => exact hP.update hs _ hm s.host

theorem page_take (hP : Page.Invariant P) (hs : P s.page) (i : Input) : P (s.take i).page := by
  have step := s.step_take i
  generalize s.take i = s' at step
  cases step with
  | nothing => exact hs
  | message _ allows => exact page_update hP hs _ allows
  | browsed b => exact hs
  | expected promises => exact hs
  | noticed => exact page_withHost hP hs _
  | @progressed p number loaded total page =>
    rw [page] at hs
    exact hP.progress hs _ loaded total
  | ended => exact page_withHost hP hs _

theorem page_run (hP : Page.Invariant P) (r : Route) (h : Host) (inputs : List Input) :
    P ((start r h).run inputs).page :=
  List.foldlRecOn (motive := (P ·.page)) inputs take (hP.mount r h)
    fun _ hs i _ => page_take hP hs i

/-- A log that is kept beside a session. -/
def follow (enter : Session → Λ → Input → Λ) (s : Session) (log : Λ) : List Input → Λ
  | [] => log
  | i :: is => (s.take i).follow enter (enter s log i) is

theorem follow_run {Λ : Type} {enter : Session → Λ → Input → Λ} {P : Session → Λ → Prop}
    (step : ∀ s log i, P s log → P (s.take i) (enter s log i)) {log : Λ} (hs : P s log)
    (inputs : List Input) : P (s.run inputs) (s.follow enter log inputs) := by
  induction inputs generalizing s log with
  | nil => exact hs
  | cons i is ih => exact ih (step s log i hs)

def enterMoves (s : Session) (log : List PostPage.Move) (i : Input) : List PostPage.Move :=
  match s.notice? i with
  | none => log
  | some (.message (.visit r)) => if r = s.route then log else Page.openLog s.host r
  | some (.message m) => log ++ s.page.updateLog s.host m
  | some (.wake h) => log ++ s.page.pollLog h
  | some (.progress _ _ _) => log ++ [.other]

/-- The moves of the page of a post that is open after some inputs. -/
def moves (r : Route) (h : Host) (inputs : List Input) : List PostPage.Move :=
  (start r h).follow enterMoves (Page.openLog h r) inputs

def HasMoved (s : Session) (log : List PostPage.Move) : Prop :=
  ∀ p, s.post? = some p → Reached log p

theorem hasMoved_start (r : Route) (h : Host) : (start r h).HasMoved (Page.openLog h r) := by
  intro p hp
  cases r with
  | board | topic | settings => cases hp
  | post post =>
    cases hp
    exact PostPage.reached_mount post h

variable {log : List PostPage.Move}

theorem HasMoved.poll (hs : s.HasMoved log) (h : Host) :
    ({ s with host := h }.poll).HasMoved (log ++ s.page.pollLog h) := by
  intro p hp
  obtain ⟨route, page, host⟩ := s
  cases page with
  | composer | settings => cases hp
  | post q =>
    cases hp
    exact (hs q rfl).trans (PostPage.moves_poll q h)

theorem HasMoved.update (hs : s.HasMoved log) {m : Page.Message} (hm : ∀ r, m ≠ .visit r) :
    (s.update m).HasMoved (log ++ s.page.updateLog s.host m) := by
  intro p hp
  obtain ⟨route, page, host⟩ := s
  cases page with
  | composer | settings => cases m <;> first | exact absurd rfl (hm _) | cases hp
  | post q =>
    cases m with
    | visit r => exact absurd rfl (hm r)
    | post m =>
      cases hp
      exact (hs q rfl).trans (PostPage.moves_update m q host)
    | composer | settings =>
      cases hp
      exact (hs _ rfl).trans .refl

theorem HasMoved.take (hs : s.HasMoved log) (i : Input) :
    (s.take i).HasMoved (s.enterMoves log i) := by
  rw [enterMoves]
  have step := s.step_take i
  generalize s.take i = s' at step
  cases step with
  | nothing notice =>
    rw [notice]
    exact hs
  | browsed | expected => exact hs
  | @message m _ _ notice =>
    rw [notice]
    cases m with
    | visit r =>
      dsimp only
      rw [Session.update]
      split
      · exact hs
      · exact hasMoved_start r s.host
    | composer | post | settings => exact hs.update nofun
  | noticed replies promises scripts _ notice =>
    rw [notice]
    exact hs.poll _
  | ended _ notice =>
    rw [notice]
    exact hs.poll _
  | progressed page _ notice =>
    rw [notice]
    intro p hp
    cases hp
    exact (hs _ (by rw [post?, page])).trans (.single (PostPage.step_progress _ _ _ _))

theorem reached_moves {r : Route} {h : Host} {inputs : List Input}
    (hp : ((start r h).run inputs).post? = some p) : Reached (moves r h inputs) p :=
  follow_run (P := HasMoved) (fun _ _ i hs => hs.take i) (hasMoved_start r h) inputs p hp

def visited : Session := start (.post ⟨7⟩) (.bare [])

def sending : List Input := [
  .event { tag := "input" } (.input "hi"),
  .event { tag := "button" } (.click {})]

def accepted : Input := .respond 1 (.text 200 Forum.Answer.updated.body)

end Session

end ForumClient
