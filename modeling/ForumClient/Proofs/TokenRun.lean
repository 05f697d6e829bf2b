import ForumClient.Proofs.Trace
import Mathlib.Data.List.Chain

namespace ForumClient

open Submission

def Submission.Effect.token? : Effect α → Option Token
  | .replaceToken t => some t
  | _ => none

def Submission.Outcome.token? : Outcome → Option Token
  | .rejected _ t => some t
  | _ => none

theorem Submission.Outcome.token?_eq_some {o : Outcome} {t : Token} :
    o.token? = some t ↔ ∃ code, o = .rejected code t := by
  cases o <;> simp [token?]

theorem Submission.Outcome.token?_eq_none {o : Outcome} :
    o.token? = none ↔ o.isAccepted = true ∨ ∃ e, o = .failed e := by
  cases o <;> simp [token?, isAccepted]

theorem Submission.token?_outcome (c : Config) (r : Request α) (next : Token)
    (reply : Except Failure String) :
    (outcome c r.inFlight next reply).token? = none ∨
      (outcome c r.inFlight next reply).token? = some next := by
  rw [outcome]
  cases reply.bind Envelope.parse with
  | error e => exact .inl rfl
  | ok e =>
    dsimp only
    split
    · obtain ⟨effect, -, leads⟩ := leads_destination c r e
      generalize destination c r.inFlight e = o at leads
      cases leads <;> exact .inl rfl
    · exact .inr rfl

namespace Desk

/-- A submission with its reply: one given beforehand, or the forum's. -/
structure Turn where
  request : Request Attachment
  given : Option (Except Failure String) := none

def opened (d : Desk) : Desk :=
  { d with token := some (Token.generate d.draws).1, draws := (Token.generate d.draws).2 }

def carried (d : Desk) (t : Turn) : Token := d.token.getD t.request.draft.token

def turn (d : Desk) (t : Turn) : Outcome × Desk :=
  let r := { t.request with draft := { t.request.draft with token := d.carried t } }
  let (o, _, d) := d.submit r t.given
  (o, d)

def after (d : Desk) (ts : List Turn) : Desk := ts.foldl (fun d t => (d.turn t).2) d

def history (d : Desk) : List Turn → List (Token × Outcome)
  | [] => []
  | t :: ts => (d.carried t, (d.turn t).1) :: (d.turn t).2.history ts

/-- Whether every redraw of a run comes to an end: after a refusal the source gives another token
than the one that was refused. -/
def Rotates (d : Desk) : List Turn → Prop
  | [] => True
  | t :: ts =>
    ((d.turn t).1.token?.isSome → ∃ n, Token.drawn d.draws n ≠ d.carried t) ∧
      (d.turn t).2.Rotates ts

instance decidableRotates (d : Desk) : (ts : List Turn) → Decidable (d.Rotates ts)
  | [] => inferInstanceAs (Decidable True)
  | t :: ts =>
    have : Decidable (∃ n, Token.drawn d.draws n ≠ d.carried t) :=
      decidable_of_iff _ Token.isSome_rotate?_iff
    have := decidableRotates (d.turn t).2 ts
    inferInstanceAs (Decidable (_ ∧ _))

variable {d : Desk} {t : Turn} {ts : List Turn} {held : Token}

theorem token_perform (d : Desk) (e : Effect Attachment) :
    (d.perform e).2.token = e.token?.or d.token := by
  cases e with
  | remember options =>
    rw [perform_remember]
    rfl
  | _ => rfl

theorem token_performAll (d : Desk) (es : List (Effect Attachment)) :
    (d.performAll es).2.token = es.foldl (fun held e => e.token?.or held) d.token := by
  induction es generalizing d with
  | nil => rfl
  | cons e es ih =>
    change ((d.perform e).2.performAll es).2.token = _
    rw [ih, token_perform, List.foldl_cons]

theorem token_finish (d : Desk) (f : InFlight) (o : Outcome) :
    (d.performAll (finish f o)).2.token = o.token?.or d.token := by
  rw [token_performAll, finish, setTrigger]
  cases o <;> cases f.hasTrigger <;> rfl

theorem redraw_heard (d : Desk) (given : Option (Except Failure String)) (url : String)
    (form : Forum.Fields) (old : Token) :
    (d.heard given url form).2.2.redraw old = d.redraw old := by
  cases given <;> rfl

theorem submit_token (d : Desk) (r : Request Attachment) (given : Option (Except Failure String)) :
    let o := (d.submit r given).1
    (d.submit r given).2.2.token = o.token?.or d.token ∧
      (o.token? = none ∨ o.token? = some (d.redraw r.draft.token).1) := by
  rw [submit_eq]
  dsimp only
  rw [redraw_heard, token_finish]
  constructor
  · congr 1
    cases given <;> cases outcome _ _ _ _ <;> rfl
  · exact token?_outcome ..

theorem turn_token (d : Desk) (t : Turn) :
    (d.turn t).2.token = (d.turn t).1.token?.or d.token ∧
      ((d.turn t).1.token? = none ∨ (d.turn t).1.token? = some (d.redraw (d.carried t)).1) :=
  d.submit_token { t.request with draft := { t.request.draft with token := d.carried t } } t.given

theorem carried_of_token (h : d.token = some held) (t : Turn) : d.carried t = held := by
  rw [carried, h, Option.getD_some]

theorem turn_cases (h : d.token = some held)
    (hends : (d.turn t).1.token?.isSome → ∃ n, Token.drawn d.draws n ≠ d.carried t) :
    (d.turn t).1.token? = none ∧ (d.turn t).2.token = some held ∨
      ∃ next, (d.turn t).1.token? = some next ∧ (d.turn t).2.token = some next ∧ next ≠ held ∧
        next.isWellFormed = true := by
  obtain ⟨htoken, hnone | hsome⟩ := d.turn_token t
  · rw [hnone, Option.none_or, h] at htoken
    exact .inl ⟨hnone, htoken⟩
  · obtain ⟨hne, hwell, -⟩ := redraw_eq (hends (by rw [hsome]; rfl))
    rw [hsome, Option.some_or] at htoken
    rw [carried_of_token h] at hne hwell hsome htoken
    exact .inr ⟨_, hsome, htoken, hne, hwell⟩

def Follows (a b : Token × Outcome) : Prop :=
  (b.1 = a.1 ↔ a.2.isAccepted = true ∨ ∃ e, a.2 = .failed e) ∧
    (b.1 ≠ a.1 ↔ ∃ code next, a.2 = .rejected code next)

theorem follows_of_same {a b : Token × Outcome} (h : a.2.token? = none) (hb : b.1 = a.1) :
    Follows a b := by
  refine ⟨iff_of_true hb (Outcome.token?_eq_none.mp h), iff_of_false (not_not_intro hb) ?_⟩
  rintro ⟨code, next, ho⟩
  rw [ho] at h
  cases h

theorem follows_of_ne {a b : Token × Outcome} {next : Token} (h : a.2.token? = some next)
    (hb : b.1 ≠ a.1) : Follows a b := by
  obtain ⟨code, ho⟩ := Outcome.token?_eq_some.mp h
  refine ⟨iff_of_false hb fun hnot => ?_, iff_of_true hb ⟨code, next, ho⟩⟩
  rw [Outcome.token?_eq_none.mpr hnot] at h
  cases h

theorem fst_head_history (h : d.token = some held) (ts : List Turn) :
    ∀ x ∈ (d.history ts).head?, x.1 = held := by
  cases ts with
  | nil => nofun
  | cons t ts =>
    rintro x ⟨⟩
    exact carried_of_token h t

theorem isChain_history (h : d.token = some held) (hends : d.Rotates ts) :
    (d.history ts).IsChain Follows := by
  induction ts generalizing d held with
  | nil => exact .nil
  | cons t ts ih =>
    rw [history, List.isChain_cons]
    rcases turn_cases h hends.1 with ⟨hnone, htoken⟩ | ⟨next, hsome, htoken, hne, -⟩
    · refine ⟨fun x hx => follows_of_same hnone ?_, ih htoken hends.2⟩
      exact (fst_head_history htoken ts x hx).trans (carried_of_token h t).symm
    · refine ⟨fun x hx => follows_of_ne hsome ?_, ih htoken hends.2⟩
      rw [fst_head_history htoken ts x hx, carried_of_token h t]
      exact hne

theorem token_after (h : d.token = some held) (hw : held.isWellFormed = true)
    (hends : d.Rotates ts) : ∃ t, (d.after ts).token = some t ∧ t.isWellFormed = true := by
  induction ts generalizing d held with
  | nil => exact ⟨held, h, hw⟩
  | cons t ts ih =>
    rcases turn_cases h hends.1 with ⟨-, htoken⟩ | ⟨next, -, htoken, -, hnext⟩
    · exact ih htoken hw hends.2
    · exact ih htoken hnext hends.2

theorem Rotates.of_prefix {pre : List Turn} (h : d.Rotates ts) (hpre : pre <+: ts) :
    d.Rotates pre := by
  induction pre generalizing d ts with
  | nil => trivial
  | cons t pre ih =>
    cases ts with
    | nil => exact absurd (List.prefix_nil.mp hpre) (List.cons_ne_nil t pre)
    | cons t' ts =>
      obtain ⟨rfl, hrest⟩ := List.cons_prefix_cons.mp hpre
      exact ⟨h.1, ih h.2 hrest⟩

/-- Whatever is submitted from a page and whatever comes back, the page holds a well formed token
all the time, and a submission carries another token than the one before exactly when that one was
refused. -/
theorem token_changes_iff_rejected (d : Desk) (ts : List Turn) (hends : d.opened.Rotates ts) :
    (∀ pre, pre <+: ts → ∃ t, (d.opened.after pre).token = some t ∧ t.isWellFormed = true) ∧
      (d.opened.history ts).IsChain fun a b =>
        (b.1 = a.1 ↔ a.2.isAccepted = true ∨ ∃ e, a.2 = .failed e) ∧
          (b.1 ≠ a.1 ↔ ∃ code next, a.2 = .rejected code next) :=
  ⟨fun _ hpre => token_after rfl (Token.isWellFormed_generate d.draws) (hends.of_prefix hpre),
    isChain_history rfl hends⟩

def attempts : List Turn :=
  let post : Request Attachment := { draft := { token := ⟨""⟩, message := "hello" } }
  let update : Request Attachment := { post with preset := some "edited", hasCallback := true }
  [⟨post, some (.ok (Forum.Answer.refused .recaptchaNeeded).body)⟩,
    ⟨post, some (.error (.transport "timeout"))⟩, ⟨post, some (.ok "")⟩,
    ⟨post, some (.ok (Forum.Answer.posted 7 7).body)⟩,
    ⟨update, some (.ok (Forum.Answer.refused .topicLocked).body)⟩,
    ⟨update, some (.ok Forum.Answer.updated.body)⟩]

def threeTokens : Desk :=
  { config := {}
    storage := {}
    draws := (List.range 96).map fun n => ⟨n / 32 % 16, Nat.mod_lt _ (by decide)⟩ }

theorem history_attempts :
    threeTokens.opened.Rotates attempts ∧
      (threeTokens.opened.history attempts).map Prod.fst =
        [0, 1, 1, 1, 1, 2].map (Token.drawn threeTokens.draws) ∧
      (threeTokens.opened.history attempts).map (·.2.isAccepted) =
        [false, false, false, true, false, true] ∧
      ∃ t, (threeTokens.opened.after attempts).token = some t ∧ t.isWellFormed = true :=
  ⟨by decide +kernel, by decide +kernel, by decide +kernel,
    (token_changes_iff_rejected threeTokens attempts (by decide +kernel)).1 attempts
      (List.prefix_refl _)⟩

end Desk

end ForumClient
