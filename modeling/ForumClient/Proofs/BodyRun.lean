import ForumClient.Proofs.BareMessages
import ForumClient.Proofs.Downloads

namespace ForumClient

namespace Host

def Quiet (h h' : Host) : Prop :=
  h'.transfers = h.transfers ∧ h'.browser.isSome = h.browser.isSome

instance : Carries Quiet where
  refl _ := ⟨rfl, rfl⟩
  trans _ _ _ h h' := ⟨h'.1.trans h.1, h'.2.trans h.2⟩
  logs := by
    rintro h _ ⟨_, _, _, rfl, -⟩
    exact ⟨rfl, rfl⟩
  stored h s := by
    rw [withStored]
    cases hb : h.browser with
    | none => exact ⟨rfl, congrArg Option.isSome hb.symm⟩
    | some b => exact ⟨rfl, by rw [hb]; rfl⟩

end Host

open Host (Quiet)
open PostBody (Mounted)
open PostBody.Mounted (Move Reached)

namespace PostPage

def body? (p : PostPage) : Option PostBody := p.shown.map (·.body)

def receiveLog (r : Except Failure Text) (p : PostPage) (log : List Mounted.Move) : List Mounted.Move :=
  match r, p.shown with
  | .ok _, some _ => log
  | .ok _, none | .error _, _ => []

def renewLog (p : PostPage) (log : List Mounted.Move) : List Mounted.Move :=
  match p.fragment, p.shown with
  | some (.ok _), some _ => []
  | _, _ => log

def receiveAllLog : List Exchange → Host → PostPage → List Mounted.Move → List Mounted.Move
  | [], _, _, log => log
  | x :: xs, h, p, log => match (x.advance h).result? with
    | none => receiveAllLog xs h { p with fetches := p.fetches ++ [x.advance h] } log
    | some r =>
      let fragment := Exchange.fragment h.config p.post r
      let (p', ts) := p.receive h.storage fragment
      receiveAllLog xs ((notes ts).run h).2 p' (p.receiveLog fragment log ++ [.other])

def fetchBodyLog (h : Host) (p : PostPage) (log : List Mounted.Move) : List Mounted.Move :=
  let (x, h') := (Exchange.fetchPost p.post).run h
  receiveAllLog (p.fetches ++ [x]) h' { p with fetches := [] } (log ++ [.other])

def savedBodyLog : Nat → Host → PostPage → List Mounted.Move → List Mounted.Move
  | 0, _, _, log => log
  | saved + 1, h, p, log =>
    let renewed := p.renew h.storage
    let (p', h') := (fetch renewed).run h
    savedBodyLog saved h' p' (fetchBodyLog h renewed (p.renewLog log))

def pollBodyLog (h : Host) (p : PostPage) (log : List Mounted.Move) : List Mounted.Move :=
  match p.shown with
  | none => log
  | some s => log ++ Mounted.pollLog ⟨h, s.body⟩

def bodyPollLog (h : Host) (p : PostPage) (log : List Mounted.Move) : List Mounted.Move :=
  let received := receiveAllLog p.fetches h { p with fetches := [] } log
  let (p', h') := (pollFetches p.fetches { p with fetches := [] }).run h
  let (ended, h'') := p'.quick.poll.run h'
  let (p'', h₃) := (afterQuick ended p').run h''
  pollBodyLog h₃ p'' (savedBodyLog ended.1 h'' p' (received ++ [.other]))

def bodyUpdateLog (h : Host) (p : PostPage) (log : List Mounted.Move) : Message → List Mounted.Move
  | .toggleFold => log ++ [.other]
  | .body slot => match p.shown, h.clickedSlot slot with
    | some s, some slot => log ++ Mounted.clickLog ⟨h, s.body⟩ slot
    | _, _ => log
  | .quick m =>
    let (ended, h') := (p.quick.update m).run h
    savedBodyLog ended.1 h' p (log ++ [.other])

def Shows (log : List Mounted.Move) (h : Host) (p : PostPage) : Prop :=
  h.browser.isSome = true → ∀ b, p.body? = some b → Mounted.Reached log ⟨h, b⟩

theorem body?_receive (s : Storage) (r : Except Failure Text) (p : PostPage) :
    (p.receive s r).1.body? = r.toOption.bind fun html => some (p.body?.getD (.ofHtml html)) := by
  cases r with
  | error e => rfl
  | ok html =>
    cases hs : p.shown with
    | some shown => simp [receive, body?, hs, Except.toOption]
    | none =>
      have hmount : (ShownPost.mount s p.post html).1.body = .ofHtml html := by
        rw [ShownPost.mount]
        cases s.foldMap <;> rfl
      simp [receive, body?, hs, hmount, Except.toOption]

variable {h h' : Host} {p p' : PostPage} {log : List Mounted.Move}

theorem reached_ofHtml (hb : h.browser.isSome = true) (html : Text) :
    Mounted.Reached [] ⟨h, .ofHtml html⟩ := ⟨h, html, hb, .refl⟩

theorem Shows.quiet (hp : Shows log h p) (hh : Quiet h h') (hbody : p'.body? = p.body?) :
    Shows (log ++ [.other]) h' p' := fun hb b hb' =>
  (hp (hh.2 ▸ hb) b (hbody ▸ hb')).trans (.single (.elsewhere h' b.fetches hh.1 hh.2))

theorem Shows.receive (hp : Shows log h p) (s : Storage) (r : Except Failure Text) :
    Shows (p.receiveLog r log) h (p.receive s r).1 := by
  intro hb b hbody
  rw [body?_receive] at hbody
  cases r with
  | error e => cases hbody
  | ok html =>
    cases hshown : p.shown with
    | none =>
      have hnone : p.body? = none := by rw [body?, hshown]; rfl
      rw [hnone] at hbody
      cases hbody
      simp only [receiveLog, hshown]
      exact reached_ofHtml hb html
    | some shown =>
      have hsome : p.body? = some shown.body := by rw [body?, hshown]; rfl
      rw [hsome] at hbody
      cases hbody
      simp only [receiveLog, hshown]
      exact hp hb _ hsome

theorem Shows.renew (hp : Shows log h p) (s : Storage) :
    Shows (p.renewLog log) h (p.renew s) := by
  intro hb b hbody
  rw [renewLog]
  split
  · next html shown hfragment hshown =>
    rw [PostPage.renew, body?, hfragment, hshown] at hbody
    cases hbody
    exact reached_ofHtml hb html
  · next hkept =>
    have hshown : (p.renew s).shown = p.shown := by
      unfold PostPage.renew
      dsimp only
      split
      · next hfragment hshown => exact (hkept _ _ hfragment hshown).elim
      · rfl
    rw [body?, hshown] at hbody
    exact hp hb b hbody

theorem Shows.receiveAll (xs : List Exchange) (hp : Shows log h p) :
    Shows (receiveAllLog xs h p log) ((pollFetches xs p).run h).2
      ((pollFetches xs p).run h).1 := by
  induction xs generalizing p h log with
  | nil => exact hp
  | cons x xs ih =>
    rw [receiveAllLog]
    cases hx : (x.advance h).result? with
    | none =>
      rw [pollFetches_cons_waiting hx]
      exact ih hp
    | some r =>
      rw [pollFetches_cons_answered hx]
      exact ih ((hp.receive h.storage _).quiet (carries_notes _ h) rfl)

theorem Shows.fetch (hp : Shows log h p) :
    Shows (fetchBodyLog h p log) ((fetch p).run h).2 ((fetch p).run h).1 :=
  Shows.receiveAll _ (hp.quiet (Exchange.carries_fetchPost p.post h) rfl)

theorem Shows.afterQuick (hp : Shows log h p) (saved : Nat) (quick : QuickMessage) :
    Shows (savedBodyLog saved h p log) ((afterQuick (saved, quick) p).run h).2
      ((afterQuick (saved, quick) p).run h).1 := by
  induction saved generalizing p h log with
  | zero =>
    rw [PostPage.afterQuick]
    exact hp
  | succ saved ih =>
    rw [PostPage.afterQuick]
    exact ih (hp.renew h.storage).fetch

theorem Shows.act (hp : Shows log h p) {s : ShownPost} (hs : p.shown = some s)
    {f : PostBody → Act PostBody} {log' : List Mounted.Move}
    (run : Runs Mounted.Step ⟨h, s.body⟩ log' (Mounted.act ⟨h, s.body⟩ f)) :
    Shows (log ++ log') ((f s.body).run h).2
      { p with shown := some { s with body := ((f s.body).run h).1 } } := by
  intro hb b hbody
  cases hbody
  exact (hp (Mounted.browser_of_runs run ▸ hb) _ (congrArg (Option.map _) hs)).trans run

theorem Shows.pollBody (hp : Shows log h p) :
    Shows (pollBodyLog h p log) ((pollBody p).run h).2 ((pollBody p).run h).1 := by
  rw [PostPage.pollBody, pollBodyLog]
  cases hs : p.shown with
  | none => exact hp
  | some s => exact hp.act hs (Mounted.runs_poll ⟨h, s.body⟩)

theorem Shows.clickBody (hp : Shows log h p) (slot : Option Text) :
    Shows (bodyUpdateLog h p log (.body slot)) ((clickBody slot p).run h).2
      ((clickBody slot p).run h).1 := by
  unfold PostPage.clickBody
  rw [bodyUpdateLog]
  simp only [Act.run_bind, Act.run_get]
  cases hs : p.shown with
  | none => exact hp
  | some s => cases h.clickedSlot slot with
    | none => exact hp
    | some slot => exact hp.act hs (Mounted.runs_click ⟨h, s.body⟩ slot)

theorem Shows.toggleFold (hp : Shows log h p) :
    Shows (log ++ [.other]) ((toggleFold p).run h).2 ((toggleFold p).run h).1 := by
  refine hp.quiet (p.carries_toggleFold h) ?_
  rw [PostPage.toggleFold, body?, body?]
  cases hs : p.shown with
  | none => exact congrArg (Option.map _) hs
  | some s =>
    simp only [Act.run_bind]
    split <;> rfl

theorem Shows.poll (hp : Shows log h p) :
    Shows (bodyPollLog h p log) ((poll p).run h).2 ((poll p).run h).1 := by
  unfold PostPage.poll
  simp only [Act.run_bind]
  have received := Shows.receiveAll p.fetches (p := { p with fetches := [] }) hp
  exact ((received.quiet (QuickMessage.within_poll _ _) rfl).afterQuick _ _).pollBody

theorem Shows.update {m : Message} (hm : p.Allows m) (hp : Shows log h p) :
    Shows (bodyUpdateLog h p log m) ((p.update m).run h).2 ((p.update m).run h).1 := by
  cases m with
  | toggleFold => exact hp.toggleFold
  | body slot => exact hp.clickBody slot
  | quick m => exact (hp.quiet (QuickMessage.within_update hm h) rfl).afterQuick _ _

theorem Shows.progress (hp : Shows log h p) {number : Nat}
    (heard : ∀ b, p.body? = some b → Mounted.hears ⟨h, b⟩ number (·.watched) = true)
    (loaded total : Float) : Shows (log ++ [.other]) h { p with
      shown := p.shown.map fun s => { s with body := s.body.progress number loaded total } } := by
  intro hb b hbody
  rw [body?, Option.map_map] at hbody
  obtain ⟨s, hs, rfl⟩ := Option.map_eq_some_iff.mp hbody
  have hbody : p.body? = some s.body := congrArg (Option.map _) hs
  exact (hp hb s.body hbody).trans (.single (.progress number loaded total (heard s.body hbody)))

theorem Shows.tell (hp : Shows log h p) {number : Nat} {e : TransferEnd}
    (heard : ∀ b, p.body? = some b →
      Mounted.hears ⟨h, b⟩ number (·.listeners.contains e) = true) (status : Nat) :
    Shows (log ++ [.ended number e status])
      { h with transfers := h.transfers.modify number (.finish e status) } p :=
  fun hb b hbody => (hp hb b hbody).trans (.single (.ended status (heard b hbody)))

end PostPage

namespace Session

def openBodyLog (h : Host) : Route → List Move
  | .post post =>
    let (quick, h') := QuickMessage.mount.run h
    PostPage.fetchBodyLog h' { post, quick } []
  | .board | .topic _ | .settings => []

def bodyMove : Input → Move
  | .endTransfer transfer e status => .ended transfer e status
  | _ => .other

def enterBody (s : Session) (log : List Move) (i : Input) : List Move :=
  match s.notice? i, s.post? with
  | some (.message (.visit r)), _ => if r = s.route then log else openBodyLog s.host r
  | some (.message (.post m)), some p => p.bodyUpdateLog s.host log m
  | some (.wake h), some p => p.bodyPollLog h (log ++ [bodyMove i])
  | some _, _ | none, _ => log ++ [.other]

def bodyMoves (r : Route) (h : Host) (inputs : List Input) : List Move :=
  (start r h).follow enterBody (openBodyLog h r) inputs

def Shows (s : Session) (log : List Move) : Prop :=
  ∀ p, s.post? = some p → p.Shows log s.host

variable {s : Session} {p : PostPage} {log : List Move}

theorem shows_start (r : Route) (h : Host) : (start r h).Shows (openBodyLog h r) := by
  intro p hp
  cases r with
  | board | topic | settings => cases hp
  | post post =>
    cases hp
    exact PostPage.Shows.fetch fun _ _ hb => by cases hb

theorem hears_of_awaits {transfer : Nat} {attached : Transfer → Bool}
    (heard : s.hears transfer attached = true) (hp : s.post? = some p) :
    ∀ b, p.body? = some b → Mounted.hears ⟨s.host, b⟩ transfer attached = true := by
  intro b hb
  obtain ⟨route, page, host⟩ := s
  cases page with
  | composer | settings => cases hp
  | post q =>
    cases hp
    obtain ⟨shown, hshown, rfl⟩ := Option.map_eq_some_iff.mp hb
    rw [hears, awaits] at heard
    dsimp only at heard
    rw [hshown] at heard
    exact heard

theorem Shows.withHost {f : Host → Host} {i : Input} (hnotice : s.notice? i = some (.wake (f s.host)))
    (hs : ∀ p, s.post? = some p → p.Shows (log ++ [bodyMove i]) (f s.host)) :
    (s.withHost f).Shows (s.enterBody log i) := by
  intro p hp
  rw [enterBody, hnotice]
  obtain ⟨route, page, host⟩ := s
  cases page with
  | composer | settings => cases hp
  | post q =>
    cases hp
    exact (hs q rfl).poll

theorem Shows.update (hs : s.Shows log) {m : Page.Message} {i : Input}
    (hnotice : s.notice? i = some (.message m)) (hm : s.page.Allows m) :
    (s.update m).Shows (s.enterBody log i) := by
  rw [enterBody, hnotice]
  cases m with
  | visit r =>
    dsimp only
    rw [Session.update]
    split
    · exact hs
    · exact shows_start r s.host
  | post m =>
    intro p hp
    obtain ⟨route, page, host⟩ := s
    cases page with
    | composer | settings => cases hp
    | post q =>
      cases hp
      exact (hs q rfl).update hm
  | composer | settings =>
    intro p hp
    obtain ⟨route, page, host⟩ := s
    cases page with
    | composer | settings => cases hp
    | post q =>
      cases hp
      exact (hs _ rfl).quiet ⟨rfl, rfl⟩ rfl

theorem Shows.take (hs : s.Shows log) (i : Input) : (s.take i).Shows (s.enterBody log i) := by
  have quiet {h : Host} (hh : Host.Quiet s.host h) :
      ∀ p, s.post? = some p → p.Shows (log ++ [.other]) h :=
    fun p hp => (hs p hp).quiet hh rfl
  have step := s.step_take i
  generalize s.take i = s' at step
  cases step with
  | nothing notice =>
    rw [enterBody, notice]
    exact quiet ⟨rfl, rfl⟩
  | message notice allows => exact hs.update notice allows
  | browsed b => exact quiet ⟨rfl, Option.isSome_map⟩
  | expected promises => exact quiet ⟨rfl, rfl⟩
  | noticed replies promises scripts still notice =>
    refine Shows.withHost notice ?_
    have hmove : bodyMove i = .other := by
      cases i <;> first | rfl | exact absurd rfl (still _ _ _)
    rw [hmove]
    exact quiet ⟨rfl, rfl⟩
  | @progressed q number loaded total page heard notice =>
    intro p hp
    cases hp
    have hpost : s.post? = some q := by rw [post?, page]
    rw [enterBody, notice]
    exact (hs q hpost).progress (hears_of_awaits heard hpost) loaded total
  | @ended number e status heard notice =>
    exact Shows.withHost notice fun p hp => (hs p hp).tell (hears_of_awaits heard hp) status

theorem reached_bodyMoves {r : Route} {h : Host} {inputs : List Input} {b : PostBody}
    (hp : ((start r h).run inputs).post? = some p) (hb : p.body? = some b)
    (hbrowser : ((start r h).run inputs).host.browser.isSome = true) :
    Reached (bodyMoves r h inputs) ⟨((start r h).run inputs).host, b⟩ :=
  follow_run (P := Shows) (fun _ _ i hs => hs.take i) (shows_start r h) inputs p hp hbrowser b hb

end Session

end ForumClient
