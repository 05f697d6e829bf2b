import ForumClient.Page.Session
import ForumClient.Proofs.Runs

namespace ForumClient

namespace PostPage

/-- A message is accepted, a fetch of the fragment ends, the body is clicked, or something else
happens. Which fetch has ended is told by its place among those that are waited for. -/
inductive Move
  | saved
  | answered : (place : Nat) → (r : Except Failure Text) → Move
  | clicked
  | other
  deriving DecidableEq

def ask (h : Host) (p : PostPage) : PostPage :=
  { p with fetches := p.fetches ++ [((Exchange.fetchPost p.post).run h).1] }

inductive Step : PostPage → Move → PostPage → Prop
  | saved (h : Host) : Step p .saved ((p.renew h.storage).ask h)
  | answered (h : Host) (fetches : p.fetches = before ++ x :: after)
      (result : (x.advance h).result? = some r) :
      Step p (.answered before.length (Exchange.fragment h.config p.post r))
        ({ p with fetches := before ++ after }.receive h.storage
          (Exchange.fragment h.config p.post r)).1
  | advanced (h : Host) (fetches : p.fetches = before ++ x :: after)
      (result : (x.advance h).result? = none) :
      Step p .other { p with fetches := before ++ x.advance h :: after }
  | clicked (h : Host) (slot : Text) (here : p.shown = some s) :
      Step p .clicked { p with shown := some { s with body := ((s.body.click slot).run h).1 } }
  | polled (h : Host) (here : p.shown = some s) :
      Step p .other { p with shown := some { s with body := (s.body.poll.run h).1 } }
  | progress (number : Nat) (loaded total : Float) (here : p.shown = some s) :
      Step p .other { p with shown := some { s with body := s.body.progress number loaded total } }
  | folded (fold : Fold) (look : FoldLook) (here : p.shown = some s) :
      Step p .other { p with shown := some { s with fold, look } }
  | quick (quick : QuickMessage) : Step p .other { p with quick }

def Reached (log : List Move) (p : PostPage) : Prop :=
  ∃ post quick h, Runs Step (ask h { post, quick }) log p

def answers (h : Host) (post : PostId) : (place : Nat) → List Exchange → List Move
  | _, [] => []
  | place, x :: xs => match (x.advance h).result? with
    | none => .other :: answers h post (place + 1) xs
    | some r => .answered place (Exchange.fragment h.config post r) :: answers h post place xs

def fetchLog (h : Host) (p : PostPage) : List Move :=
  let (x, h') := (Exchange.fetchPost p.post).run h
  answers h' p.post 0 (p.fetches ++ [x])

def mountLog (h : Host) (post : PostId) : List Move :=
  fetchLog (QuickMessage.mount.run h).2 { post, quick := (QuickMessage.mount.run h).1 }

def savedLog (h : Host) : Nat → PostPage → List Move
  | 0, _ => [.other]
  | saved + 1, p =>
    let renewed := p.renew h.storage
    let (p', h') := (fetch renewed).run h
    .saved :: fetchLog h renewed ++ savedLog h' saved p'

def pollLog (h : Host) (p : PostPage) : List Move :=
  let (p', h') := (pollFetches p.fetches { p with fetches := [] }).run h
  let ((saved, _), h'') := p'.quick.poll.run h'
  answers h p.post 0 p.fetches ++ savedLog h'' saved p' ++ [.other]

def clickLog (h : Host) (p : PostPage) (slot : Option Text) : List Move :=
  match p.shown, h.clickedSlot slot with
  | some _, some _ => [.clicked]
  | _, _ => []

def updateLog (h : Host) (p : PostPage) : Message → List Move
  | .toggleFold => [.other]
  | .body slot => clickLog h p slot
  | .quick m =>
    let ((saved, _), h') := (p.quick.update m).run h
    savedLog h' saved p

variable {p q q' : PostPage} {m : Move} {log log' : List Move}

theorem Reached.trans (h : Reached log p) (h' : Runs Step p log' q) : Reached (log ++ log') q := by
  obtain ⟨post, quick, host, hp⟩ := h
  exact ⟨post, quick, host, hp.trans h'⟩

theorem Step.stay (p : PostPage) : Step p .other p := .quick p.quick

theorem receive_append (s : Storage) (r : Except Failure Text) (p : PostPage)
    (xs : List Exchange) :
    ({ p with fetches := p.fetches ++ xs }.receive s r).1 =
      { (p.receive s r).1 with fetches := (p.receive s r).1.fetches ++ xs } := by
  cases r with
  | error e => rfl
  | ok html => cases h : p.shown <;> simp [receive, h]

theorem receive_eq (s : Storage) (r : Except Failure Text) (p : PostPage) : (p.receive s r).1 =
    { p with fragment := some r, shown := (p.receive s r).1.shown } := by
  cases r with
  | error e => rfl
  | ok html => cases h : p.shown <;> simp [receive, h]

theorem receive_post (s : Storage) (r : Except Failure Text) (p : PostPage) :
    (p.receive s r).1.post = p.post := by
  rw [receive_eq]

theorem receive_fetches (s : Storage) (r : Except Failure Text) (p : PostPage) :
    (p.receive s r).1.fetches = p.fetches := by
  rw [receive_eq]

theorem exists_run_notes (ts : List String) (h : Host) :
    ∃ records, ((notes ts).run h).2 = { h with records } := by
  induction ts generalizing h with
  | nil => exact ⟨h.records, rfl⟩
  | cons t ts ih =>
    have hone : ∃ records, ((Host.console t).run h).2 = { h with records } := by
      cases hb : h.browser.isSome with
      | true => exact ⟨_, if_pos hb⟩
      | false => exact ⟨h.records, if_neg (by simp [hb])⟩
    obtain ⟨first, hone⟩ := hone
    obtain ⟨records, hrest⟩ := ih { h with records := first }
    refine ⟨records, ?_⟩
    change ((notes ts).run ((Host.console t).run h).2).2 = _
    rw [hone]
    exact hrest

theorem answers_records (h : Host) (records : List Record) (post : PostId) (place : Nat)
    (xs : List Exchange) : answers { h with records } post place xs = answers h post place xs := by
  induction xs generalizing place with
  | nil => rfl
  | cons x xs ih =>
    have hx : x.advance { h with records } = x.advance h := by cases x <;> rfl
    rw [answers, answers, hx]
    cases (x.advance h).result? <;> simp [ih]

theorem pollFetches_cons_waiting {p : PostPage} {h : Host} (hx : (x.advance h).result? = none)
    (xs : List Exchange) : (pollFetches (x :: xs) p).run h =
      (pollFetches xs { p with fetches := p.fetches ++ [x.advance h] }).run h := by
  simp [pollFetches, hx]

theorem pollFetches_cons_answered {p : PostPage} {h : Host}
    (hx : (x.advance h).result? = some r) (xs : List Exchange) :
    let received := p.receive h.storage (Exchange.fragment h.config p.post r)
    (pollFetches (x :: xs) p).run h =
      (pollFetches xs received.1).run ((notes received.2).run h).2 := by
  simp [pollFetches, hx]
  rfl

theorem runs_pollFetches (xs : List Exchange) (p : PostPage) (h : Host) :
    Runs Step { p with fetches := p.fetches ++ xs } (answers h p.post p.fetches.length xs)
      ((pollFetches xs p).run h).1 := by
  induction xs generalizing p h with
  | nil =>
    rw [List.append_nil]
    exact .refl
  | cons x xs ih =>
    rw [answers]
    cases hx : (x.advance h).result? with
    | none =>
      have step : Step { p with fetches := p.fetches ++ x :: xs } .other
          { p with fetches := p.fetches ++ x.advance h :: xs } := .advanced h rfl hx
      have steps := ih { p with fetches := p.fetches ++ [x.advance h] } h
      rw [List.append_assoc, List.length_append] at steps
      rw [pollFetches_cons_waiting hx]
      exact (Runs.single step).trans steps
    | some r =>
      have step : Step { p with fetches := p.fetches ++ x :: xs } _
          ({ p with fetches := p.fetches ++ xs }.receive h.storage
            (Exchange.fragment h.config p.post r)).1 := .answered h rfl hx
      -- the fetches behind it move up by one place
      rw [receive_append] at step
      set received := p.receive h.storage (Exchange.fragment h.config p.post r)
      obtain ⟨records, hnotes⟩ := exists_run_notes received.2 h
      have hlog : answers { h with records } received.1.post received.1.fetches.length xs =
          answers h p.post p.fetches.length xs := by
        rw [answers_records, receive_post, receive_fetches]
      have steps := ih received.1 { h with records }
      rw [hlog] at steps
      rw [pollFetches_cons_answered hx, hnotes]
      exact (Runs.single step).trans steps

def Moves (f : PostPage → Act PostPage) (log : Host → PostPage → List Move) : Prop :=
  ∀ p h, Runs Step p (log h p) ((f p).run h).1

theorem runs_fetch (p : PostPage) (h : Host) :
    Runs Step (p.ask h) (fetchLog h p) ((fetch p).run h).1 :=
  runs_pollFetches (p.fetches ++ [((Exchange.fetchPost p.post).run h).1]) { p with fetches := [] }
    ((Exchange.fetchPost p.post).run h).2

theorem reached_mount (post : PostId) (h : Host) :
    Reached (mountLog h post) ((mount post).run h).1 :=
  ⟨_, _, _, runs_fetch { post, quick := (QuickMessage.mount.run h).1 } (QuickMessage.mount.run h).2⟩

theorem moves_afterQuick (saved : Nat) (quick : QuickMessage) :
    Moves (afterQuick (saved, quick)) fun h => savedLog h saved := by
  induction saved with
  | zero =>
    intro p h
    rw [afterQuick]
    exact .single (.quick quick)
  | succ saved ih =>
    intro p h
    rw [afterQuick]
    have asked := (Runs.single (Step.saved h)).trans (runs_fetch (p.renew h.storage) h)
    exact asked.trans (ih _ _)

theorem step_pollBody (p : PostPage) (h : Host) : Step p .other ((pollBody p).run h).1 := by
  rw [pollBody]
  cases hp : p.shown with
  | none => exact .stay p
  | some s => exact .polled h hp

theorem moves_poll : Moves poll pollLog := fun p h =>
  ((runs_pollFetches p.fetches { p with fetches := [] } h).trans (moves_afterQuick _ _ _ _)).tail
    (step_pollBody _ _)

theorem step_toggleFold (p : PostPage) (h : Host) : Step p .other ((toggleFold p).run h).1 := by
  rw [toggleFold]
  cases hp : p.shown with
  | none => exact .stay p
  | some s =>
    -- whether the fold could be stored shows in the records only
    simp only [Act.run_bind]
    split
    · exact .folded _ _ hp
    · exact .folded _ _ hp

theorem moves_clickBody (slot : Option Text) :
    Moves (clickBody slot) fun h p => clickLog h p slot := by
  intro p h
  dsimp only [clickBody, clickLog]
  simp only [Act.run_bind, Act.run_get]
  cases hp : p.shown with
  | none => exact .refl
  | some s => cases h.clickedSlot slot with
    | none => exact .refl
    | some slot => exact .single (.clicked h slot hp)

theorem moves_update (m : Message) : Moves (update · m) fun h p => updateLog h p m := by
  cases m with
  | toggleFold => exact fun p h => .single (step_toggleFold p h)
  | body slot => exact moves_clickBody slot
  | quick m => exact fun p h => moves_afterQuick _ _ p _

theorem step_progress (p : PostPage) (number : Nat) (loaded total : Float) :
    Step p .other { p with
      shown := p.shown.map fun s => { s with body := s.body.progress number loaded total } } := by
  cases hp : p.shown with
  | none =>
    have hstay : { p with shown := none } = p := by rw [← hp]
    exact hstay ▸ .stay p
  | some s => exact .progress number loaded total hp

end PostPage

end ForumClient
