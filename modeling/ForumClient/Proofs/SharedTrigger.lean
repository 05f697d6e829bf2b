import ForumClient.Page.Sender
import ForumClient.Proofs.Runs
import Mathlib.Data.List.Infix

/-!
A trigger with several submissions on it. Each disables it when it starts and releases it when it has
its reply, without a look at the others, so the trigger only tells whether the last thing that
happened was a start.
-/

namespace ForumClient

namespace Submission

/-- The submissions that wait for a reply, and what was written to their trigger last. -/
structure Trigger where
  inFlight : List InFlight := []
  disabled : Bool := false

def written (disabled : Bool) (es : List (Effect α)) : Bool :=
  es.foldl (fun disabled e => match e with
    | .disable on => on
    | _ => disabled) disabled

theorem written_append (disabled : Bool) (es es' : List (Effect α)) :
    written disabled (es ++ es') = written (written disabled es) es' := by
  rw [written, List.foldl_append]
  rfl

variable {r : Request α} {f : InFlight} {disabled : Bool}

theorem written_start (htrigger : r.hasTrigger = true) (c : Config) (captcha : Option String) :
    written disabled (start c captcha r) = true := by
  rw [start, htrigger, setTrigger]
  cases r.asksCaptcha <;> rfl

theorem written_finish (htrigger : f.hasTrigger = true) (o : Outcome) :
    written (α := α) disabled (finish f o) = false := by
  rw [finish, htrigger, written_append]
  rfl

namespace Trigger

inductive Move
  | started
  | finished
  deriving DecidableEq

inductive Step (α : Type) : Trigger → Move → Trigger → Prop
  | started (c : Config) (captcha : Option String) (r : Request α)
      (trigger : r.hasTrigger = true) :
      Step α t .started ⟨t.inFlight ++ [r.inFlight], written t.disabled (start c captcha r)⟩
  | finished {f : InFlight} (c : Config) (next : Token) (reply : Except Failure String)
      (here : t.inFlight = before ++ f :: after) :
      Step α t .finished ⟨before ++ after,
        written (α := α) t.disabled (finish f (outcome c f next reply))⟩

def Reached (α : Type) (log : List Move) (t : Trigger) : Prop := Runs (Step α) {} log t

variable {t t' : Trigger} {m : Move} {log : List Move}

theorem hasTrigger_of_reached (h : Reached α log t) : ∀ f ∈ t.inFlight, f.hasTrigger = true := by
  induction h with
  | refl => exact nofun
  | tail _ step ih => cases step with
    | started c captcha r trigger =>
      rw [List.forall_mem_append]
      exact ⟨ih, fun f hf => List.mem_singleton.mp hf ▸ trigger⟩
    | finished c next reply here =>
      intro f hf
      refine ih f ?_
      rw [here]
      exact List.mem_append.mpr ((List.mem_append.mp hf).imp_right (List.mem_cons_of_mem _))

theorem disabled_step (ht : ∀ f ∈ t.inFlight, f.hasTrigger = true) (h : Step α t m t') :
    t'.disabled = true ↔ m = .started := by
  cases h with
  | started c captcha r trigger => simp [written_start trigger]
  | finished c next reply here =>
    have hf := ht _ (here ▸ List.mem_append_right _ List.mem_cons_self)
    simp [written_finish hf]

theorem length_step (h : Step α t m t') :
    t'.inFlight.length + [m].count .finished = t.inFlight.length + [m].count .started := by
  cases h with
  | started => simp
  | finished c next reply here => simp [here]; omega

theorem length_of_reached (h : Reached α log t) :
    t.inFlight.length + log.count .finished = log.count .started := by
  induction h with
  | refl => rfl
  | tail _ step ih =>
    have := length_step step
    rw [List.count_append, List.count_append]
    omega

theorem disabled_iff_of_reached (h : Reached α log t) :
    t.disabled = true ↔ log.getLast? = some .started := by
  cases h with
  | refl => simp
  | tail run step =>
    rw [disabled_step (hasTrigger_of_reached run) step, List.getLast?_concat, Option.some_inj]

theorem disabled_of_inFlight_eq_nil (h : Reached α log t) (hdone : t.inFlight = []) :
    t.disabled = false := by
  cases h with
  | refl => rfl
  | tail run step => cases step with
    | started c captcha r trigger => simp at hdone
    | finished c next reply here =>
      have hf := hasTrigger_of_reached run _ (here ▸ List.mem_append_right _ List.mem_cons_self)
      exact written_finish hf _

/-- Whether every reply comes to the only submission in flight. -/
def Alone (log : List Move) : Prop :=
  ∀ pre, pre ++ [.finished] <+: log →
    (pre ++ [Move.finished]).count .finished = (pre ++ [Move.finished]).count .started

theorem inFlight_eq_nil_iff (h : Reached α log t) :
    t.inFlight = [] ↔ log.count .finished = log.count .started := by
  have := length_of_reached h
  rw [← List.length_eq_zero_iff]
  omega

theorem disabled_of_alone (h : Reached α log t) (halone : Alone log) (hwaiting : t.inFlight ≠ []) :
    t.disabled = true := by
  rw [disabled_iff_of_reached h]
  rcases List.eq_nil_or_concat log with rfl | ⟨pre, m, rfl⟩
  · exact absurd ((inFlight_eq_nil_iff h).mpr rfl) hwaiting
  · rw [List.concat_eq_append] at *
    cases m with
    | started => rw [List.getLast?_concat]
    | finished => exact absurd ((inFlight_eq_nil_iff h).mpr (halone pre List.prefix_rfl)) hwaiting

/-- However many submissions share a trigger and in whatever order they start and have their replies,
the trigger is disabled exactly if the last that happened was a start, and it is free when all are
through. It is disabled all the time that a submission is in flight exactly if no reply comes while
another submission waits for one. -/
theorem disabled_while_in_flight_iff (h : Reached α log t) :
    (t.disabled = true ↔ log.getLast? = some .started) ∧
      (t.inFlight = [] → t.disabled = false) ∧
      ((∀ pre u, pre <+: log → Reached α pre u → u.inFlight ≠ [] → u.disabled = true) ↔
        Alone log) := by
  refine ⟨disabled_iff_of_reached h, disabled_of_inFlight_eq_nil h, fun hall pre hpre => ?_,
    fun halone pre u hpre hu => disabled_of_alone hu fun pre' hpre' =>
      halone pre' (hpre'.trans hpre)⟩
  obtain ⟨post, rfl⟩ := hpre
  rw [List.append_assoc] at h
  obtain ⟨u, u', run, step⟩ := Runs.exists_of_append h
  have hu' : Reached α (pre ++ [.finished]) u' := run.tail step
  rw [← inFlight_eq_nil_iff hu']
  by_contra hwaiting
  have := hall _ u' (List.prefix_append _ _) hu' hwaiting
  rw [disabled_iff_of_reached hu', List.getLast?_concat] at this
  cases this

def message : Request String :=
  { draft := { token := ⟨"first"⟩ }, preset := some "hello", hasTrigger := true }

theorem disabled_message : ∃ t, Reached String [.started, .finished, .started] t ∧
    t.disabled = true := by
  have first : Runs (Step String) {} [.started] _ := .single (.started {} none message rfl)
  have replied := first.tail (.finished {} ⟨"second"⟩ (.error (.transport ""))
    (show _ = [] ++ message.inFlight :: [] from rfl))
  have second := replied.tail (.started {} none message rfl)
  exact ⟨_, second, (disabled_while_in_flight_iff second).1.mpr rfl⟩

theorem released_in_flight : ∃ t, Reached String [.started, .started, .finished] t ∧
    t.inFlight ≠ [] ∧ t.disabled = false := by
  have first : Runs (Step String) {} [.started] _ := .single (.started {} none message rfl)
  have second := first.tail (.started {} none message rfl)
  have replied := second.tail (.finished {} ⟨"second"⟩ (.error (.transport ""))
    (show _ = [] ++ message.inFlight :: [message.inFlight] from rfl))
  exact ⟨_, replied, List.cons_ne_nil _ _, rfl⟩

def Gated (α : Type) (t : Trigger) (m : Move) (t' : Trigger) : Prop :=
  Step α t m t' ∧ (m = .started → t.disabled = false)

def Single (t : Trigger) : Prop := t = {} ∨ ∃ f, f.hasTrigger = true ∧ t = ⟨[f], true⟩

theorem Single.of_gated (ht : t.Single) (h : Gated α t m t') : t'.Single := by
  obtain ⟨step, hfree⟩ := h
  rcases ht with rfl | ⟨f, hf, rfl⟩
  · cases step with
    | started c captcha r trigger =>
      exact .inr ⟨r.inFlight, trigger, congrArg _ (written_start trigger c captcha)⟩
    | finished c next reply here => simp at here
  · cases step with
    | started => cases hfree rfl
    | finished c next reply here =>
      rcases List.singleton_eq_append_iff.mp here with ⟨rfl, hrest⟩ | ⟨-, hrest⟩
      · cases hrest
        exact .inl (congrArg _ (written_finish hf _))
      · cases hrest

theorem disabled_iff_of_gated (h : Runs (Gated α) {} log t) :
    t.inFlight.length ≤ 1 ∧ (t.disabled = true ↔ t.inFlight ≠ []) := by
  have hsingle : t.Single := by
    induction h with
    | refl => exact .inl rfl
    | tail _ step ih => exact ih.of_gated step
  rcases hsingle with rfl | ⟨f, -, rfl⟩ <;> simp

end Trigger

end Submission

namespace Sender

open Submission (InFlight Trigger Request Effect Outcome written)

variable {s : Sender} {f : InFlight}

def trigger (s : Sender) : Trigger := ⟨s.waiting.map (·.1), s.busy⟩

def posts (es : List (Effect String)) : Nat := es.countP fun e => match e with
  | .post _ _ => true
  | _ => false

theorem busy_perform (f : InFlight) (s : Sender) (e : Effect String) (h : Host) :
    ((perform f s e).run h).1.busy = written s.busy [e] := by
  cases e <;> rfl

theorem inFlight_perform (f : InFlight) (s : Sender) (e : Effect String) (h : Host) :
    ((perform f s e).run h).1.waiting.map (·.1) =
      s.waiting.map (·.1) ++ List.replicate (posts [e]) f := by
  cases e with
  | post url fields => exact List.map_append
  | _ => exact (List.append_nil _).symm

theorem trigger_performAll (f : InFlight) (s : Sender) (es : List (Effect String)) (h : Host) :
    ((performAll f s es).run h).1.trigger =
      ⟨s.trigger.inFlight ++ List.replicate (posts es) f, written s.busy es⟩ := by
  induction es generalizing s h with
  | nil => rw [posts, List.countP_nil, List.replicate_zero, List.append_nil]; rfl
  | cons e es ih =>
    have hrun : (performAll f s (e :: es)).run h =
      (performAll f ((perform f s e).run h).1 es).run ((perform f s e).run h).2 := rfl
    have hposts : posts (e :: es) = posts [e] + posts es := by
      rw [posts, posts, posts, ← List.countP_append]; rfl
    rw [hrun, ih, trigger, inFlight_perform, busy_perform, ← Submission.written_append, hposts,
      ← List.replicate_append_replicate, ← List.append_assoc]
    rfl

theorem posts_start (c : Config) (captcha : Option String) (r : Request String) :
    posts (Submission.start c captcha r) = 1 := by
  rw [Submission.start, Submission.setTrigger]
  cases r.hasTrigger <;> cases r.asksCaptcha <;> rfl

theorem posts_finish (f : InFlight) (o : Outcome) : posts (Submission.finish f o) = 0 := by
  rw [Submission.finish, Submission.setTrigger]
  cases o <;> cases f.hasTrigger <;> rfl

theorem step_start {r : Request String} (htrigger : r.hasTrigger = true) (s : Sender) (c : Config)
    (captcha : Option String) (h : Host) :
    Trigger.Step String s.trigger .started
      ((performAll r.inFlight s (Submission.start c captcha r)).run h).1.trigger := by
  rw [trigger_performAll, posts_start]
  exact .started c captcha r htrigger

theorem trigger_settle (f : InFlight) (reply : Except Failure String) (s : Sender) (h : Host) :
    ((settle f reply s).run h).1.2.trigger = ⟨s.trigger.inFlight, written s.busy
      (Submission.finish (α := String) f
        (Submission.outcome h.config f (h.redraw f.token).1 reply))⟩ := by
  obtain ⟨h', heq⟩ : ∃ h', ((settle f reply s).run h).1.2 = ((performAll f s
      (Submission.finish f (Submission.outcome h.config f (h.redraw f.token).1 reply))).run h').1 := by
    simp only [settle, Act.run_bind, Act.run_get]
    split <;> exact ⟨_, rfl⟩
  rw [heq, trigger_performAll, posts_finish, List.replicate_zero, List.append_nil]

theorem trigger_append (s : Sender) (xs : List (InFlight × Exchange)) :
    trigger { s with waiting := s.waiting ++ xs } =
      ⟨s.trigger.inFlight ++ xs.map (·.1), s.trigger.disabled⟩ := by
  rw [trigger, List.map_append]
  rfl

def Follows (s s' : Sender) : Prop :=
  ∃ log, Runs (Trigger.Gated String) s.trigger log s'.trigger

theorem follows_refl (s : Sender) : s.Follows s := ⟨[], .refl⟩

theorem follows_of_eq {s' : Sender} (h : s' = s) : s.Follows s' := h ▸ s.follows_refl

theorem follows_pollEach (xs : List (InFlight × Exchange)) (s : Sender) (h : Host) :
    Follows { s with waiting := s.waiting ++ xs } ((pollEach xs s).run h).1.2 := by
  induction xs generalizing s h with
  | nil =>
    rw [List.append_nil]
    exact s.follows_refl
  | cons x xs ih =>
    obtain ⟨f, x⟩ := x
    simp only [pollEach, Act.run_bind, Act.run_get]
    cases hx : (x.advance h).result? with
    | none =>
      obtain ⟨log, run⟩ := ih { s with waiting := s.waiting ++ [(f, x.advance h)] } h
      rw [trigger_append, trigger_append, List.append_assoc] at run
      rw [Follows, trigger_append]
      exact ⟨log, run⟩
    | some r =>
      have step := Trigger.Step.finished (α := String)
        (t := ⟨s.trigger.inFlight ++ f :: xs.map (·.1), s.busy⟩)
        h.config (h.redraw f.token).1 (r.map (·.2)) rfl
      obtain ⟨log, run⟩ := ih ((settle f (r.map (·.2)) s).run h).1.2
        ((settle f (r.map (·.2)) s).run h).2
      rw [trigger_append, trigger_settle] at run
      rw [Follows, trigger_append]
      exact ⟨_, (Runs.single ⟨step, nofun⟩).trans run⟩

theorem follows_poll (s : Sender) (h : Host) : s.Follows ((poll s).run h).1.2 :=
  follows_pollEach s.waiting { s with waiting := [] } h

theorem follows_send {r : Request String} (htrigger : r.hasTrigger = true) {s : Sender}
    (hfree : s.busy = false) (h : Host) : s.Follows ((send r s).run h).1.2 := by
  have sent (captcha : Option String) (h : Host) : s.Follows
      ((performAll r.inFlight s (Submission.start h.config captcha r) >>= poll).run h).1.2 := by
    obtain ⟨log, run⟩ := follows_poll
      ((performAll r.inFlight s (Submission.start h.config captcha r)).run h).1
      ((performAll r.inFlight s (Submission.start h.config captcha r)).run h).2
    exact ⟨_, (Runs.single ⟨step_start htrigger s _ _ _, fun _ => hfree⟩).trans run⟩
  rw [send]
  cases r.asksCaptcha with
  | true => exact sent (Host.captcha.run h).1 (Host.captcha.run h).2
  | false => exact sent none h

end Sender

end ForumClient
