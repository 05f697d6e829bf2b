import ForumClient.Proofs.SharedTrigger
import ForumClient.Proofs.Trace
import ForumClient.Proofs.Within

namespace ForumClient

open Preferences

theorem Table.put_put (t : Table String String) (k a b : String) :
    (t.put k a).put k b = t.put k b := by
  refine ext_get? fun k' => ?_
  simp only [get?_put]
  split <;> rfl

namespace Submission

def kept (s : Storage) (es : List (Effect α)) : Storage :=
  es.foldl (fun s e => match e with
    | .remember options => (s.saveOptions options).2
    | _ => s) s

def accepts (reply : Except Failure String) : Bool :=
  match reply.bind Envelope.parse with
  | .ok e => e.success
  | .error _ => false

theorem kept_start (s : Storage) (c : Config) (captcha : Option String) (r : Request α) :
    kept s (start c captcha r) = s := by
  rw [start, setTrigger]
  cases r.hasTrigger <;> cases r.asksCaptcha <;> rfl

theorem isAccepted_outcome (c : Config) (f : InFlight) (next : Token)
    (reply : Except Failure String) : (outcome c f next reply).isAccepted = accepts reply := by
  rw [outcome, accepts]
  cases reply.bind Envelope.parse with
  | error e => rfl
  | ok e =>
    cases hs : e.success with
    | false => simp [hs, Outcome.isAccepted]
    | true =>
      simp only [if_pos, hs, destination]
      split
      · rfl
      · split
        · split <;> rfl
        · rfl

theorem kept_finish (s : Storage) (f : InFlight) (o : Outcome) :
    kept (α := α) s (finish f o) = if o.isAccepted then (s.saveOptions f.options).2 else s := by
  rw [finish, setTrigger]
  cases o <;> cases f.hasTrigger <;> rfl

/-- A store with the submissions that wait for a reply. -/
structure Ledger (α : Type) where
  storage : Storage
  waiting : List (Request α) := []

namespace Ledger

inductive Move (α : Type)
  | started : Request α → Move α
  | finished : Request α → (reply : Except Failure String) → Move α

inductive Step {α : Type} : Ledger α → Move α → Ledger α → Prop
  | started (c : Config) (captcha : Option String) (r : Request α) :
      Step l (.started r) ⟨kept l.storage (start c captcha r), l.waiting ++ [r]⟩
  | finished (c : Config) (next : Token) (reply : Except Failure String)
      (here : l.waiting = before ++ r :: after) :
      Step l (.finished r reply)
        ⟨kept (α := α) l.storage (finish r.inFlight (outcome c r.inFlight next reply)),
          before ++ after⟩

def Move.accepted? : Move α → Option (Request α)
  | .started _ => none
  | .finished r reply => if accepts reply then some r else none

/-- The submission that was the last to be accepted, in the order in which they ended. -/
def lastAccepted? (log : List (Move α)) : Option (Request α) :=
  (log.filterMap Move.accepted?).getLast?

variable {l l' : Ledger α} {m : Move α} {log : List (Move α)} {s : Storage}

theorem lastAccepted?_concat (log : List (Move α)) (m : Move α) :
    lastAccepted? (log ++ [m]) = m.accepted?.or (lastAccepted? log) := by
  cases h : m.accepted? <;> simp [lastAccepted?, h]

theorem storage_step (h : Step l m l') :
    l'.storage = match m.accepted? with
      | some r => (l.storage.saveOptions r.draft.optionsText).2
      | none => l.storage := by
  cases h with
  | started c captcha r => exact kept_start l.storage c captcha r
  | finished c next reply here =>
    rw [kept_finish, isAccepted_outcome, Move.accepted?]
    cases accepts reply <;> rfl

def holding (s : Storage) (r : Request α) : Storage :=
  { s with entries := s.entries.put optionsKey r.draft.optionsText }

theorem saveOptions_of_writable (h : s.writeFault? optionsKey = none) (r : Request α) :
    (s.saveOptions r.draft.optionsText).2 = holding s r := by
  rw [Storage.saveOptions, Storage.set, h]
  rfl

theorem holding_holding (s : Storage) (r r' : Request α) :
    holding (holding s r) r' = holding s r' :=
  congrArg (fun entries => { s with entries }) (Table.put_put ..)

theorem storage_of_runs (hwrite : s.writeFault? optionsKey = none)
    (run : Runs Step ⟨s, []⟩ log l) :
    l.storage = ((lastAccepted? log).map (holding s)).getD s := by
  induction run with
  | refl => rfl
  | @tail log t m u _ step ih =>
    have ht : t.storage.writeFault? optionsKey = none := by
      rw [ih]
      cases lastAccepted? log <;> exact hwrite
    rw [storage_step step, lastAccepted?_concat]
    cases hm : m.accepted? with
    | none => exact ih
    | some r =>
      change (t.storage.saveOptions r.draft.optionsText).2 = holding s r
      rw [saveOptions_of_writable ht, ih]
      cases lastAccepted? log with
      | none => rfl
      | some r' => exact holding_holding s r' r

/-- Whatever is submitted and however it ends: the store holds the options of the submission that
was accepted last, or what it held before if none was, and nothing else in it has changed. A
submission that is refused or fails leaves the store as it is. -/
theorem options_follow_last_accepted (hwrite : s.writeFault? optionsKey = none)
    (run : Runs Step ⟨s, []⟩ log l) :
    l.storage.entries.get? optionsKey =
        ((lastAccepted? log).map fun r => r.draft.options.getD "").or (s.entries.get? optionsKey) ∧
      (∀ key, key ≠ optionsKey → l.storage.entries.get? key = s.entries.get? key) ∧
      (l.storage.foldMap = s.foldMap ∧ l.storage.imageView = s.imageView ∧
        l.storage.foldLook = s.foldLook) ∧
      ∀ r reply l', Step l (.finished r reply) l' → accepts reply = false →
        l'.storage = l.storage := by
  have hstore := storage_of_runs hwrite run
  have hothers : ∀ key, key ≠ optionsKey → l.storage.get key = s.get key := by
    intro key hkey
    rw [hstore]
    cases lastAccepted? log with
    | none => rfl
    | some r => simp [Storage.get, holding, hkey]
  refine ⟨?_, fun key hkey => ?_, ⟨?_, ?_, ?_⟩, fun r reply l' step hreply => ?_⟩
  · rw [hstore]
    cases lastAccepted? log with
    | none => rfl
    | some r => exact (Table.get?_put ..).trans (if_pos rfl)
  · rw [hstore]
    cases lastAccepted? log with
    | none => rfl
    | some r => exact (Table.get?_put ..).trans (if_neg hkey)
  · rw [Storage.foldMap, hothers foldKey (by decide)]
    rfl
  · rw [Storage.imageView, Storage.setting?, hothers imageViewKey (by decide)]
    rfl
  · rw [Storage.foldLook, Storage.setting?, hothers foldLookKey (by decide)]
    rfl
  · rw [storage_step step, Move.accepted?, hreply]
    rfl

def topic : Request String := { draft := { token := ⟨"first"⟩, options := some "sage" } }

def edit : Request String := { draft := { token := ⟨"first"⟩ }, preset := some "edited" }

def overlapping : List (Move String) := [
  .started topic, .started edit,
  .finished edit (.ok Forum.Answer.updated.body),
  .finished topic (.ok (Forum.Answer.posted 7 7).body),
  .started edit, .finished edit (.ok (Forum.Answer.refused .topicLocked).body)]

def previous : Storage := .ofEntries [(optionsKey, "previous"), (imageViewKey, "tab")]

theorem options_overlapping : previous.writeFault? optionsKey = none ∧
    ∃ l, Runs Step ⟨previous, []⟩ overlapping l ∧
      l.storage.entries.get? optionsKey = some "sage" ∧ l.storage.imageView = .newTab := by
  have topicStarted := Runs.single (Step.started (l := ⟨previous, []⟩) {} none topic)
  have editStarted := topicStarted.tail (.started {} none edit)
  have editAccepted := editStarted.tail (.finished {} ⟨"second"⟩ (.ok Forum.Answer.updated.body)
    (show _ = [topic] ++ edit :: [] from rfl))
  have topicAccepted := editAccepted.tail (.finished {} ⟨"second"⟩
    (.ok (Forum.Answer.posted 7 7).body) (show _ = [] ++ topic :: [] from rfl))
  have againStarted := topicAccepted.tail (.started {} none edit)
  have editRefused := againStarted.tail (.finished {} ⟨"second"⟩
    (.ok (Forum.Answer.refused .topicLocked).body) (show _ = [] ++ edit :: [] from rfl))
  obtain ⟨hoptions, -, ⟨-, hview, -⟩, -⟩ := options_follow_last_accepted rfl editRefused
  have hlast : (lastAccepted? overlapping).map (fun r => r.draft.options.getD "") =
      some "sage" := by
    decide +kernel
  refine ⟨rfl, _, editRefused, hoptions.trans ?_, hview.trans (by decide +kernel)⟩
  exact congrArg (Option.or · _) hlast

end Ledger

end Submission

namespace Desk

open Submission (Effect Ledger Request kept)

theorem storage_performAll (d : Desk) (es : List (Effect Attachment)) :
    (d.performAll es).2.storage = kept d.storage es := by
  induction es generalizing d with
  | nil => rfl
  | cons e es ih =>
    have hstep : (d.perform e).2.storage = kept d.storage [e] := by
      cases e with
      | remember options =>
        rw [perform_remember]
        rfl
      | _ => rfl
    change ((d.perform e).2.performAll es).2.storage = _
    rw [ih, hstep]
    rfl

theorem exists_runs_submit (d : Desk) (r : Request Attachment)
    (given : Option (Except Failure String)) :
    let heard := d.heard given (d.config.baseUrl ++ d.config.apiPath) (r.form d.captcha)
    ∃ l, Runs Ledger.Step ⟨d.storage, []⟩ [.started r, .finished r heard.1] l ∧ l.waiting = [] ∧
      l.storage = (d.submit r given).2.2.storage := by
  intro heard
  let next := heard.2.2.redraw r.draft.token
  let o := Submission.outcome d.config r.inFlight next.1 heard.1
  have hstorage : (heard.2.2.spend next.2 o).storage = d.storage := by
    cases given <;> cases o <;> rfl
  have started := Runs.single (Ledger.Step.started (l := ⟨d.storage, []⟩) d.config d.captcha r)
  have finished := started.tail (.finished d.config next.1 heard.1
    (show _ = [] ++ r :: [] from rfl))
  refine ⟨_, finished, rfl, ?_⟩
  rw [submit_eq, storage_performAll, hstorage, Submission.kept_start]

end Desk

namespace Sender

open Submission (InFlight Request Effect Outcome kept Ledger)

variable {s : Sender} {h : Host} {l : Ledger String}

theorem storage_performAll (f : InFlight) (s : Sender) (es : List (Effect String)) (h : Host) :
    ((performAll f s es).run h).2.storage = kept h.storage es := by
  induction es generalizing s h with
  | nil => rfl
  | cons e es ih =>
    have hstep : ((perform f s e).run h).2.storage = kept h.storage [e] := by
      cases e with
      | remember options =>
        have hlogs : Host.Logs (fun _ => True) (h.withStored (h.storage.saveOptions options).2)
            ((Host.keep optionsKey (h.storage.saveOptions options)).run h).2 :=
          Host.logs_keep (fun _ => trivial) _ h
        exact hlogs.storage.trans (h.storage_withStored optionsKey options)
      | post url fields =>
        exact Host.Logs.storage (Exchange.within_post (P := fun _ => True) trivial h)
      | alert | navigate | reload =>
        exact Host.Logs.storage (Host.within_inWindow (P := fun _ => True) trivial h)
      | disable | askCaptcha | replaceToken | callback => rfl
    change ((performAll f ((perform f s e).run h).1 es).run ((perform f s e).run h).2).2.storage = _
    rw [ih, hstep]
    rfl

theorem storage_settle (f : InFlight) (reply : Except Failure String) (s : Sender) (h : Host) :
    ((settle f reply s).run h).2.storage = kept (α := String) h.storage
      (Submission.finish f (Submission.outcome h.config f (h.redraw f.token).1 reply)) := by
  simp only [settle, Act.run_bind, Act.run_get]
  split
  · exact storage_performAll ..
  · exact storage_performAll ..

def Keeps (l : Ledger String) (s : Sender) (h : Host) : Prop :=
  l.storage = h.storage ∧ l.waiting.map Request.inFlight = s.waiting.map (·.1)

theorem waiting_settle (f : InFlight) (reply : Except Failure String) (s : Sender) (h : Host) :
    ((settle f reply s).run h).1.2.waiting.map (·.1) = s.waiting.map (·.1) :=
  congrArg Submission.Trigger.inFlight (trigger_settle f reply s h)

theorem exists_step_settle {r : Request String} (reply : Except Failure String) (s : Sender)
    {before after : List (Request String)} (hstorage : l.storage = h.storage)
    (here : l.waiting = before ++ r :: after) :
    ∃ l', Ledger.Step l (.finished r reply) l' ∧
      l'.storage = ((settle r.inFlight reply s).run h).2.storage ∧
      l'.waiting = before ++ after := by
  refine ⟨_, .finished h.config (h.redraw r.inFlight.token).1 reply here, ?_, rfl⟩
  rw [storage_settle, hstorage]

def replyLog : List (Request String × Exchange) → Sender → Host → List (Ledger.Move String)
  | [], _, _ => []
  | (r, x) :: rest, s, h => match (x.advance h).result? with
    | none => replyLog rest { s with waiting := s.waiting ++ [(r.inFlight, x.advance h)] } h
    | some reply =>
      let ((_, s'), h') := (settle r.inFlight (reply.map (·.2)) s).run h
      .finished r (reply.map (·.2)) :: replyLog rest s' h'

theorem exists_keeps_pollEach (xs : List (Request String × Exchange)) (s : Sender) (h : Host)
    {before : List (Request String)} (hstorage : l.storage = h.storage)
    (hwaiting : l.waiting = before ++ xs.map (·.1))
    (hbefore : before.map Request.inFlight = s.waiting.map (·.1)) :
    let polled := (pollEach (xs.map fun x => (x.1.inFlight, x.2)) s).run h
    ∃ l', Runs Ledger.Step l (replyLog xs s h) l' ∧ Keeps l' polled.1.2 polled.2 := by
  induction xs generalizing s h l before with
  | nil =>
    rw [List.map_nil, List.append_nil] at hwaiting
    exact ⟨l, .refl, hstorage, hwaiting ▸ hbefore⟩
  | cons x xs ih =>
    obtain ⟨r, x⟩ := x
    rw [List.map_cons, replyLog]
    simp only [pollEach, Act.run_bind, Act.run_get]
    cases hx : (x.advance h).result? with
    | none =>
      have hwaiting' : l.waiting = (before ++ [r]) ++ xs.map (·.1) := by
        rw [hwaiting, List.map_cons, List.append_assoc]
        rfl
      have hbefore' : (before ++ [r]).map Request.inFlight =
          (s.waiting ++ [(r.inFlight, x.advance h)]).map (·.1) := by
        rw [List.map_append, List.map_append, hbefore]
        rfl
      exact ih { s with waiting := s.waiting ++ [(r.inFlight, x.advance h)] } h hstorage
        hwaiting' hbefore'
    | some reply =>
      obtain ⟨l', step, hstorage', hwaiting'⟩ :=
        exists_step_settle (reply.map (·.2)) s hstorage hwaiting
      obtain ⟨l'', run, hl''⟩ := ih ((settle r.inFlight (reply.map (·.2)) s).run h).1.2
        ((settle r.inFlight (reply.map (·.2)) s).run h).2 hstorage' hwaiting'
        (by rw [waiting_settle, hbefore])
      exact ⟨l'', (Runs.single step).trans run, hl''⟩

def pollLog (l : Ledger String) (s : Sender) (h : Host) : List (Ledger.Move String) :=
  replyLog (l.waiting.zip (s.waiting.map (·.2))) { s with waiting := [] } h

theorem exists_keeps_poll (hl : Keeps l s h) : ∃ l', Runs Ledger.Step l (pollLog l s h) l' ∧
    Keeps l' ((poll s).run h).1.2 ((poll s).run h).2 := by
  obtain ⟨hstorage, hwaiting⟩ := hl
  have hlength : l.waiting.length = (s.waiting.map (·.2)).length := by
    simpa using congrArg List.length hwaiting
  have hsent : (l.waiting.zip (s.waiting.map (·.2))).map (fun x => (x.1.inFlight, x.2)) =
      s.waiting := by
    have hmap : (fun x : Request String × Exchange => (x.1.inFlight, x.2)) =
        Prod.map Request.inFlight id := rfl
    rw [hmap, ← List.zip_map_left, hwaiting, List.zip_map']
    exact List.map_id _
  have hrequests : l.waiting = [] ++ (l.waiting.zip (s.waiting.map (·.2))).map Prod.fst :=
    (List.map_fst_zip hlength.le).symm
  have run := exists_keeps_pollEach _ { s with waiting := [] } h hstorage hrequests rfl
  rw [hsent] at run
  exact run

def sendLog (r : Request String) (l : Ledger String) (s : Sender) (h : Host) :
    List (Ledger.Move String) :=
  let (captcha, h') := if r.asksCaptcha then Host.captcha.run h else (none, h)
  let effects := Submission.start h'.config captcha r
  let (s', h'') := (performAll r.inFlight s effects).run h'
  .started r :: pollLog ⟨kept l.storage effects, l.waiting ++ [r]⟩ s' h''

theorem exists_keeps_send (r : Request String) (hl : Keeps l s h) :
    ∃ l', Runs Ledger.Step l (sendLog r l s h) l' ∧
      Keeps l' ((send r s).run h).1.2 ((send r s).run h).2 := by
  have sent (captcha : Option String) (h' : Host) (hh' : h'.storage = h.storage) :
      let effects := Submission.start h'.config captcha r
      let started := (performAll r.inFlight s effects).run h'
      ∃ l', Runs Ledger.Step l
          (.started r :: pollLog ⟨kept l.storage effects, l.waiting ++ [r]⟩ started.1 started.2) l' ∧
        Keeps l' ((poll started.1).run started.2).1.2 ((poll started.1).run started.2).2 := by
    have hinFlight := congrArg Submission.Trigger.inFlight
      (trigger_performAll r.inFlight s (Submission.start h'.config captcha r) h')
    rw [posts_start] at hinFlight
    have hkeeps : Keeps ⟨kept l.storage (Submission.start h'.config captcha r), l.waiting ++ [r]⟩
        ((performAll r.inFlight s (Submission.start h'.config captcha r)).run h').1
        ((performAll r.inFlight s (Submission.start h'.config captcha r)).run h').2 := by
      refine ⟨by rw [storage_performAll, hl.1, hh'], ?_⟩
      rw [List.map_append, hl.2]
      exact hinFlight.symm
    obtain ⟨l', run, hl'⟩ := exists_keeps_poll hkeeps
    exact ⟨l', (Runs.single (.started h'.config captcha r)).trans run, hl'⟩
  rw [send, sendLog]
  cases r.asksCaptcha with
  | true =>
    exact sent (Host.captcha.run h).1 (Host.captcha.run h).2
      (Host.Logs.storage (Host.within_captcha (P := fun _ => True) (fun _ _ => trivial) h))
  | false => exact sent none h rfl

end Sender

end ForumClient
