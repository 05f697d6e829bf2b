import ForumClient.Proofs.SessionRun
import ForumClient.Proofs.SharedTrigger

namespace ForumClient

open Sender (Follows)
open Submission (Trigger)

namespace Composer

theorem sender_receiveSigned (signed : Option String) (p : SignPanel) (c : Composer) :
    (c.receiveSigned signed p).sender = c.sender := by
  cases signed <;> rfl

theorem sender_poll (c : Composer) (h : Host) :
    ((poll c).run h).1.sender = (c.sender.poll.run h).1.2 := by
  rw [poll]
  simp only [Act.run_bind]
  cases c.panel with
  | none => rfl
  | some p => exact sender_receiveSigned _ _ _

theorem follows_poll (c : Composer) (h : Host) : c.sender.Follows ((poll c).run h).1.sender := by
  rw [sender_poll]
  exact c.sender.follows_poll h

theorem follows_update {c : Composer} {m : Message} (hm : c.Allows m) (h : Host) :
    c.sender.Follows ((c.update m).run h).1.sender := by
  cases m with
  | send =>
    let image := ((Host.selectedFile imageInput).run h).1
    exact Sender.follows_send (r := { draft := c.draft image, hasTrigger := true }) rfl (hm rfl) _
  | panel m =>
    simp only [update]
    cases c.panel with
    | none => exact c.sender.follows_refl
    | some p => exact Sender.follows_of_eq (sender_receiveSigned _ _ c)
  | toggleMenu =>
    cases hm : c.menuOpen <;> simp only [update, hm] <;> exact c.sender.follows_refl
  | subject | message | options | toggleOption | togglePanel => exact c.sender.follows_refl

end Composer

namespace QuickMessage

theorem sender_receive (q : QuickMessage) (f : Act (List Submission.Outcome × Sender)) (h : Host) :
    ((do return q.receive (← f) : Act (Nat × QuickMessage)).run h).1.2.sender = (f.run h).1.2 := rfl

theorem follows_poll (q : QuickMessage) (h : Host) :
    q.sender.Follows ((poll q).run h).1.2.sender := by
  rw [poll, sender_receive]
  exact q.sender.follows_poll h

theorem follows_update {q : QuickMessage} {m : Message} (hm : q.Allows m) (h : Host) :
    q.sender.Follows ((q.update m).run h).1.2.sender := by
  cases m with
  | command v => exact q.sender.follows_refl
  | send =>
    rw [update, sender_receive]
    exact Sender.follows_send rfl (canSend_iff.mp (hm rfl)).1 h

end QuickMessage

namespace PostPage

theorem quick_receive (s : Storage) (r : Except Failure Text) (p : PostPage) :
    (p.receive s r).1.quick = p.quick := by
  cases r with
  | error e => rfl
  | ok html => cases h : p.shown <;> simp [receive, h]

theorem quick_pollFetches (xs : List Exchange) (p : PostPage) (h : Host) :
    ((pollFetches xs p).run h).1.quick = p.quick := by
  induction xs generalizing p h with
  | nil => rfl
  | cons x xs ih =>
    cases hx : (x.advance h).result? with
    | none => rw [pollFetches_cons_waiting hx, ih]
    | some r =>
      rw [pollFetches_cons_answered hx, ih]
      exact quick_receive _ _ _

theorem quick_fetch (p : PostPage) (h : Host) : ((fetch p).run h).1.quick = p.quick :=
  quick_pollFetches _ _ _

theorem quick_afterQuick (n : Nat) (quick : QuickMessage) (p : PostPage) (h : Host) :
    ((afterQuick (n, quick) p).run h).1.quick = quick := by
  induction n generalizing p h with
  | zero =>
    rw [afterQuick]
    rfl
  | succ n ih =>
    rw [afterQuick]
    exact ih _ _

theorem quick_pollBody (p : PostPage) (h : Host) : ((pollBody p).run h).1.quick = p.quick := by
  rw [pollBody]
  cases p.shown <;> rfl

theorem quick_toggleFold (p : PostPage) (h : Host) : ((toggleFold p).run h).1.quick = p.quick := by
  rw [toggleFold]
  cases p.shown with
  | none => rfl
  | some s =>
    simp only [Act.run_bind]
    split <;> rfl

theorem quick_clickBody (slot : Option Text) (p : PostPage) (h : Host) :
    ((clickBody slot p).run h).1.quick = p.quick := by
  rw [clickBody]
  cases p.shown with
  | none => rfl
  | some s =>
    simp only [Act.run_bind, Act.run_get]
    cases h.clickedSlot slot <;> rfl

theorem follows_poll (p : PostPage) (h : Host) :
    p.quick.sender.Follows ((poll p).run h).1.quick.sender := by
  let fetched := (pollFetches p.fetches { p with fetches := [] }).run h
  let polled := (fetched.1.quick.poll).run fetched.2
  have hrun : ((poll p).run h).1 = ((afterQuick polled.1 fetched.1 >>= pollBody).run polled.2).1 :=
    rfl
  have hquick : fetched.1.quick = p.quick := quick_pollFetches _ _ _
  rw [hrun, Act.run_bind, quick_pollBody, quick_afterQuick, ← hquick]
  exact fetched.1.quick.follows_poll fetched.2

theorem follows_update {p : PostPage} {m : Message} (hm : p.Allows m) (h : Host) :
    p.quick.sender.Follows ((p.update m).run h).1.quick.sender := by
  cases m with
  | toggleFold => exact Sender.follows_of_eq (congrArg QuickMessage.sender (quick_toggleFold p h))
  | body slot => exact Sender.follows_of_eq (congrArg QuickMessage.sender (quick_clickBody slot p h))
  | quick m =>
    rw [update, Act.run_bind, quick_afterQuick]
    exact QuickMessage.follows_update hm h

end PostPage

namespace Page

def sender? : Page → Option Sender
  | .composer c => some c.sender
  | .post p => some p.quick.sender
  | .settings _ => none

def Triggered (page : Page) : Prop :=
  ∀ s, page.sender? = some s → ∃ log, Runs (Trigger.Gated String) {} log s.trigger

theorem triggered_of_fresh {page : Page} {s : Sender} (hs : page.sender? = some s)
    (hbusy : s.busy = false) (hwaiting : s.waiting = []) : page.Triggered := by
  rintro s' hs'
  cases hs.symm.trans hs'
  rw [Sender.trigger, hbusy, hwaiting]
  exact ⟨[], .refl⟩

theorem Triggered.of_follows {page page' : Page} {s s' : Sender} (hp : page.Triggered)
    (hs : page.sender? = some s) (hs' : page'.sender? = some s') (h : s.Follows s') :
    page'.Triggered := by
  rintro s'' hs''
  cases hs'.symm.trans hs''
  obtain ⟨log, run⟩ := hp s hs
  obtain ⟨log', run'⟩ := h
  exact ⟨_, run.trans run'⟩

theorem invariant_triggered : Invariant Triggered where
  mount r h := by
    cases r with
    | board | topic => exact triggered_of_fresh rfl rfl rfl
    | post post =>
      have hquick := PostPage.quick_fetch { post, quick := (QuickMessage.mount.run h).1 }
        (QuickMessage.mount.run h).2
      have hs : sender? ((mount (.post post)).run h).1 = some (QuickMessage.mount.run h).1.sender :=
        congrArg (fun q : QuickMessage => some q.sender) hquick
      exact triggered_of_fresh hs rfl rfl
    | settings => exact nofun
  poll {page} hp h := by
    cases page with
    | composer c => exact hp.of_follows rfl rfl (c.follows_poll h)
    | post p => exact hp.of_follows rfl rfl (p.follows_poll h)
    | settings => exact nofun
  update {page} hp m hm h := by
    cases page with
    | composer c => cases m with
      | composer m => exact hp.of_follows rfl rfl (Composer.follows_update hm h)
      | visit | post | settings => exact hp
    | post p => cases m with
      | post m => exact hp.of_follows rfl rfl (PostPage.follows_update hm h)
      | visit | composer | settings => exact hp
    | settings => cases m <;> exact nofun
  progress {p} hp number loaded total := hp

end Page

namespace Session

/-- Whatever has been done to a session, the page that is open has at most one submission in flight,
and its button is disabled exactly as long as that waits for its reply. -/
theorem busy_iff_waiting {r : Route} {h : Host} {inputs : List Input} {s : Sender}
    (hs : ((start r h).run inputs).page.sender? = some s) :
    s.waiting.length ≤ 1 ∧ (s.busy = true ↔ s.waiting ≠ []) := by
  obtain ⟨log, run⟩ := page_run Page.invariant_triggered r h inputs s hs
  have hsingle := Trigger.disabled_iff_of_gated run
  rwa [Sender.trigger, List.length_map, ne_eq, List.map_eq_nil_iff] at hsingle

end Session

end ForumClient
