import ForumClient.Proofs.RefusalText
import ForumClient.Proofs.Token
import ForumClient.Submission.Desk
import Mathlib.Data.List.Infix

namespace ForumClient

theorem Text.contains_iff_infix (p s : Text) : Text.contains p s = true ↔ p <:+: s := by
  induction s with
  | nil =>
    rw [Text.contains, Text.after?, List.isSome_isPrefixOf?_eq_isPrefixOf,
      List.isPrefixOf_iff_prefix, List.prefix_nil, List.infix_nil]
  | cons c s ih =>
    rw [List.infix_cons_iff, ← ih, ← List.isPrefixOf_iff_prefix,
      ← List.isSome_isPrefixOf?_eq_isPrefixOf, Text.contains, Text.contains, Text.after?]
    cases p.isPrefixOf? (c :: s) <;> simp

theorem Options.mentions_iff (options marker : String) :
    Options.mentions options marker = true ↔ marker.toList <:+: options.toList :=
  Text.contains_iff_infix _ _

theorem Payload.build_eq (d : Draft α) (preset : Option String) :
    Payload.build d preset = match preset.filter (· ≠ "") with
      | some m => .update m
      | none => .newPost d := by
  cases preset with
  | none => rfl
  | some m => by_cases h : m = "" <;> simp [Payload.build, Option.filter_some, h]

theorem Envelope.newPost?_eq_some {e : Envelope} {p : PostId} :
    e.newPost? = some p ↔ ∃ n, e.longid = some n ∧ n ≠ 0 ∧ p = ⟨n⟩ := by
  rw [Envelope.newPost?]
  cases e.longid with
  | none => simp
  | some n => by_cases h : n = 0 <;> simp [h, eq_comm]

namespace Submission

variable {c : Config} {r : Request α} {e : Envelope} {captcha : Option String}

/-- The form that is sent: a preset message alone unless it is empty, otherwise the draft, with what
the page's captcha answers if it brings no answer of its own. -/
def Request.form (captcha : Option String) (r : Request α) : List (FormField α) :=
  match r.preset.filter (· ≠ "") with
  | some m => [⟨"message", .text m⟩]
  | none =>
    [⟨"subject", .text r.draft.subject⟩, ⟨"message", .text r.draft.message⟩] ++
      (r.draft.image.map fun a => ⟨"image", .file a⟩).toList ++
      [⟨"topic", .text (toString r.draft.topic.number.toNat)⟩, ⟨"uuid", .text r.draft.token.text⟩,
        ⟨"options", .text (r.draft.options.getD "")⟩] ++
      ((r.draft.captcha.or captcha).map fun t => ⟨"token", .text t⟩).toList

def refusalText (reason : Option ErrorCode) : String :=
  "发生错误：\ncode: " ++ match reason with
    | none => "\n"
    | some (.unknown name) => name ++ "\n"
    | some c => (ErrorCode.table.find? (·.2.1 = c)).elim "" fun row => row.1 ++ "\n" ++ row.2.2

def failureText (f : Failure) : String :=
  "发生错误：\n" ++ match f with
    | .transport t => "transport error: " ++ t
    | .malformedResponse t => "malformed response: " ++ t
    | .storage t => "storage error: " ++ t
    | .crypto t => "crypto error: " ++ t
    | .script t => "script load failed: " ++ t

inductive Leads (c : Config) (r : Request α) (e : Envelope) : Effect α → Outcome → Prop
  | callback (given : r.hasCallback = true) : Leads c r e .callback .callback
  | permalink {n : UInt64} {url : String} (given : r.hasCallback = false)
      (longid : e.longid = some n) (ne_zero : n ≠ 0)
      (free : ¬ c.noRedirectMarker.toList <:+: (r.draft.options.getD "").toList)
      (url_eq : url = c.baseUrl ++ ("/p/" ++ toString n.toNat)) :
      Leads c r e (.navigate url) (.navigated url)
  | reload (given : r.hasCallback = false)
      (held : ∀ n, e.longid = some n → n ≠ 0 →
        c.noRedirectMarker.toList <:+: (r.draft.options.getD "").toList) :
      Leads c r e .reload .reloaded

theorem Request.isUpdate_payload (r : Request α) (d : Draft α) :
    (r.payload d).isUpdate = r.isUpdate := by
  rw [Request.payload, Payload.build_eq, Request.isUpdate, ← Option.isSome_filter]
  cases r.preset.filter (· ≠ "") <;> rfl

theorem Request.isUpdate_eq_false_iff (r : Request α) :
    r.isUpdate = false ↔ r.preset.filter (· ≠ "") = none := by
  rw [Request.isUpdate, ← Option.isSome_filter, Option.isSome_eq_false_iff, Option.isNone_iff_eq_none]

theorem Request.asksCaptcha_iff (r : Request α) :
    r.asksCaptcha = true ↔ r.preset.filter (· ≠ "") = none ∧ r.draft.captcha = none := by
  rw [Request.asksCaptcha, ← r.isUpdate_eq_false_iff]
  simp

theorem Request.captcha_asked (h : r.isUpdate = false) (captcha : Option String) :
    (if r.asksCaptcha then { r.draft with captcha } else r.draft) =
      { r.draft with captcha := r.draft.captcha.or captcha } := by
  rw [Request.asksCaptcha, h]
  cases hc : r.draft.captcha with
  | none => rfl
  | some answer =>
    have hown : { r.draft with captcha := some answer } = r.draft := by rw [← hc]
    rw [Option.some_or, hown]
    rfl

theorem fields_newPost (d : Draft α) : (Payload.newPost d).fields =
    [⟨"subject", .text d.subject⟩, ⟨"message", .text d.message⟩] ++
      (d.image.map fun a => ⟨"image", .file a⟩).toList ++
      [⟨"topic", .text (toString d.topic.number.toNat)⟩, ⟨"uuid", .text d.token.text⟩,
        ⟨"options", .text (d.options.getD "")⟩] ++
      (d.captcha.map fun t => ⟨"token", .text t⟩).toList := by
  rw [Payload.fields, Payload.imageField.eq_def, Payload.captchaField.eq_def]
  cases d.image <;> cases d.captcha <;> rfl

theorem Request.fields_asked (r : Request α) (captcha : Option String) :
    (r.payload (if r.asksCaptcha then { r.draft with captcha } else r.draft)).fields =
      r.form captcha := by
  rw [Request.payload, Payload.build_eq, Request.form]
  cases h : r.preset.filter (· ≠ "") with
  | some m => rfl
  | none => rw [Request.captcha_asked (r.isUpdate_eq_false_iff.mpr h), fields_newPost]

theorem start_eq (c : Config) (captcha : Option String) (r : Request α) :
    start c captcha r =
      (if r.hasTrigger then [.disable true] else []) ++
        (if r.preset.filter (· ≠ "") = none ∧ r.draft.captcha = none then [.askCaptcha] else []) ++
        [.post (c.baseUrl ++ c.apiPath) (r.form captcha)] := by
  rw [start, r.fields_asked, Config.apiUrl, Config.url, setTrigger]
  simp only [r.asksCaptcha_iff]

theorem text_rejected (reason : Option ErrorCode) :
    Report.text (.rejected reason) = refusalText reason := by
  cases reason with
  | none => rfl
  | some c => cases c with
    | unknown name =>
      have hcode : Report.heading ++ "\ncode: " = "发生错误：\ncode: " := rfl
      change Report.heading ++ "\ncode: " ++ name ++ "\n" ++ "" = _
      rw [hcode, String.append_empty, String.append_assoc]
      rfl
    | _ => rfl

theorem text_failed (f : Failure) : Report.text (.failed f) = failureText f := by
  cases f <;> rfl

theorem leads_destination (c : Config) (r : Request α) (e : Envelope) :
    ∃ effect, finish r.inFlight (destination c r.inFlight e) =
        [.remember r.draft.optionsText, effect] ++ setTrigger r.hasTrigger false ∧
      Leads c r e effect (destination c r.inFlight e) := by
  have hf : r.inFlight.hasCallback = r.hasCallback := rfl
  have hopts : r.inFlight.options = r.draft.optionsText := rfl
  rw [destination, hf, hopts]
  cases hc : r.hasCallback with
  | true => exact ⟨_, rfl, .callback hc⟩
  | false =>
    rw [if_neg (by simp)]
    cases hp : e.newPost? with
    | none =>
      refine ⟨_, rfl, .reload hc fun n hn hne => ?_⟩
      have := Envelope.newPost?_eq_some.mpr ⟨n, hn, hne, rfl⟩
      rw [hp] at this
      cases this
    | some p =>
      obtain ⟨n, hn, hne, rfl⟩ := Envelope.newPost?_eq_some.mp hp
      dsimp only
      by_cases hm : Options.mentions r.draft.optionsText c.noRedirectMarker
      · rw [if_pos hm]
        exact ⟨_, rfl, .reload hc fun _ _ _ => (Options.mentions_iff _ _).mp hm⟩
      · rw [if_neg hm]
        exact ⟨_, rfl, .permalink hc hn hne (fun h => hm ((Options.mentions_iff _ _).mpr h)) rfl⟩

theorem finish_rejected (f : InFlight) (reason : Option ErrorCode) (next : Token) :
    finish (α := α) f (.rejected reason next) =
      [.alert (refusalText reason), .replaceToken next] ++ setTrigger f.hasTrigger false := by
  rw [← text_rejected]
  rfl

theorem finish_failed (f : InFlight) (e : Failure) :
    finish (α := α) f (.failed e) = [.alert (failureText e)] ++ setTrigger f.hasTrigger false := by
  rw [← text_failed]
  rfl

end Submission

namespace Desk

open Submission

inductive Remembers (s : Storage) (options : String) : Event → Storage → Prop
  | written (free : s.writeFault? Preferences.optionsKey = none) :
      Remembers s options (.did (.remember options))
        { s with entries := s.entries.put Preferences.optionsKey options }
  | failed {e : Failure} (fault : s.writeFault? Preferences.optionsKey = some e) :
      Remembers s options .notRemembered s

def led (d : Desk) : Outcome → Desk
  | .navigated url => { d with navigations := d.navigations ++ [url] }
  | .reloaded => { d with reloads := d.reloads + 1 }
  | .callback | .rejected _ _ | .failed _ => d

/-- How a submission goes on after its reply: what it shows until the trigger is released, how it
ends and what it leaves. After a refusal the next attempt has the token `next`, and `rest` is left
of the draws. -/
inductive Ends (d : Desk) (r : Request Attachment) (next : Token) (rest : Draws) :
    Except Failure Envelope → List Event → Outcome → Desk → Prop
  | accepted {e : Envelope} {effect : Effect Attachment} {o : Outcome} {event : Event}
      {storage : Storage} (success : e.success = true) (leads : Leads d.config r e effect o)
      (remembers : Remembers d.storage (r.draft.options.getD "") event storage) :
      Ends d r next rest (.ok e) [event, .did effect] o (led { d with storage } o)
  | refused {e : Envelope} (success : e.success = false) :
      Ends d r next rest (.ok e)
        [.did (.alert (refusalText e.error)), .did (.replaceToken next)] (.rejected e.error next)
        { d with
          alerts := d.alerts ++ [refusalText e.error]
          token := some next
          draws := rest }
  | failed {f : Failure} :
      Ends d r next rest (.error f) [.did (.alert (failureText f))] (.failed f)
        { d with alerts := d.alerts ++ [failureText f] }

variable {d d' : Desk} {r : Request Attachment} {given : Option (Except Failure String)}

def shows (d : Desk) : Effect Attachment → Event
  | .remember options =>
    if (d.storage.writeFault? Preferences.optionsKey).isSome then .notRemembered
    else .did (.remember options)
  | e => .did e

theorem shows_congr (h : d'.storage.writeFault? = d.storage.writeFault?) : d'.shows = d.shows := by
  funext e
  cases e <;> simp [shows, h]

theorem perform_remember (d : Desk) (options : String) :
    (d.perform (.remember options)).2 =
      { d with storage := (d.storage.saveOptions options).2 } := by
  rw [perform]
  rcases d.storage.saveOptions options with ⟨_ | _, storage⟩ <;> rfl

theorem fst_perform (d : Desk) (e : Effect Attachment) : (d.perform e).1 = d.shows e := by
  cases e with
  | remember options =>
    rw [perform, Storage.saveOptions, Storage.set, shows]
    cases d.storage.writeFault? Preferences.optionsKey <;> rfl
  | _ => rfl

theorem writeFault?_perform (d : Desk) (e : Effect Attachment) :
    (d.perform e).2.storage.writeFault? = d.storage.writeFault? := by
  cases e with
  | remember options =>
    rw [perform_remember, Storage.saveOptions, Storage.set]
    dsimp only
    split <;> rfl
  | _ => rfl

theorem fst_performAll (d : Desk) (es : List (Effect Attachment)) :
    (d.performAll es).1 = es.map d.shows := by
  induction es generalizing d with
  | nil => rfl
  | cons e es ih =>
    change (d.perform e).1 :: ((d.perform e).2.performAll es).1 = _
    rw [ih, fst_perform, shows_congr (writeFault?_perform d e), List.map_cons]

theorem performAll_start (d : Desk) (c : Config) (captcha : Option String)
    (r : Request Attachment) :
    d.performAll (start c captcha r) = ((start c captcha r).map d.shows, d) := by
  refine Prod.ext (fst_performAll d _) ?_
  rw [start, setTrigger]
  cases r.hasTrigger <;> cases r.asksCaptcha <;> rfl

def heard (d : Desk) (given : Option (Except Failure String)) (url : String)
    (form : Forum.Fields) : Except Failure String × List Event × Desk :=
  match given with
  | some reply => (reply, [], d)
  | none => ((d.forum.handle url form).1, [.replied (d.forum.handle url form).1],
      { d with forum := (d.forum.handle url form).2 })

theorem reply_start (d : Desk) (given : Option (Except Failure String)) (c : Config)
    (captcha : Option String) (r : Request Attachment) :
    d.reply given (start c captcha r) =
      d.heard given (c.baseUrl ++ c.apiPath) (r.form captcha) := by
  rw [start, r.fields_asked, setTrigger]
  cases r.hasTrigger <;> cases r.asksCaptcha <;> cases given <;> rfl

def spend (d : Desk) (draws : Draws) : Outcome → Desk
  | .rejected _ _ => { d with draws }
  | _ => d

theorem submit_eq (d : Desk) (r : Request Attachment) (given : Option (Except Failure String)) :
    let h := d.heard given (d.config.baseUrl ++ d.config.apiPath) (r.form d.captcha)
    let next := h.2.2.redraw r.draft.token
    let o := outcome d.config r.inFlight next.1 h.1
    d.submit r given =
      (o, (start d.config d.captcha r).map d.shows ++ h.2.1 ++ (finish r.inFlight o).map d.shows,
        ((h.2.2.spend next.2 o).performAll (finish r.inFlight o)).2) := by
  intro h next o
  have hconfig : h.2.2.config = d.config := by cases given <;> rfl
  have hshows : (h.2.2.spend next.2 o).shows = d.shows :=
    shows_congr (by cases given <;> cases o <;> rfl)
  have hafter := fst_performAll (h.2.2.spend next.2 o) (finish r.inFlight o)
  rw [hshows] at hafter
  have ho : outcome h.2.2.config r.inFlight next.1 h.1 = o := by rw [hconfig]
  rw [← hafter, ← ho, submit, performAll_start]
  dsimp only
  rw [reply_start]
  rfl

theorem redraw_eq {old : Token} (h : ∃ n, Token.drawn d.draws n ≠ old) :
    (d.redraw old).1 ≠ old ∧ (d.redraw old).1.isWellFormed = true ∧
      ∃ i, (d.redraw old).1 = Token.drawn d.draws i ∧ (∀ j < i, Token.drawn d.draws j = old) ∧
        (d.redraw old).2 = d.draws.drop ((i + 1) * 32) := by
  obtain ⟨⟨t, rest⟩, hrotate⟩ := Option.isSome_iff_exists.mp (Token.isSome_rotate?_iff.mpr h)
  obtain ⟨hne, hwell⟩ := Token.rotate?_eq_some hrotate
  obtain ⟨i, ht, -, hbefore, hrest⟩ := Token.rotate?_eq_some_iff_drawn.mp hrotate
  rw [redraw, hrotate]
  exact ⟨hne, hwell, i, ht.symm, hbefore, hrest⟩

theorem performAll_append (d : Desk) (es es' : List (Effect Attachment)) :
    (d.performAll (es ++ es')).2 = ((d.performAll es).2.performAll es').2 := by
  induction es generalizing d with
  | nil => rfl
  | cons e es ih => exact ih (d.perform e).2

theorem snd_performAll_release (d : Desk) (es : List (Effect Attachment)) (hasTrigger : Bool) :
    (d.performAll (es ++ setTrigger hasTrigger false)).2 = (d.performAll es).2 := by
  rw [performAll_append, setTrigger]
  cases hasTrigger <;> rfl

theorem remembers_perform (d : Desk) (options : String) :
    Remembers d.storage options (d.shows (.remember options))
      (d.perform (.remember options)).2.storage := by
  rw [perform_remember, Storage.saveOptions, Storage.set, shows]
  cases h : d.storage.writeFault? Preferences.optionsKey with
  | none => exact .written h
  | some e => exact .failed h

theorem perform_leads {c : Config} {e : Envelope} {effect : Effect Attachment} {o : Outcome}
    (h : Leads c r e effect o) (d : Desk) (draws : Draws) :
    d.perform effect = (.did effect, d.led o) ∧ d.spend draws o = d := by
  cases h <;> exact ⟨rfl, rfl⟩

theorem ends_outcome (d : Desk) (r : Request Attachment) (next : Token) (rest : Draws)
    (reply : Except Failure String) :
    let o := outcome d.config r.inFlight next reply
    ∃ middle, (finish r.inFlight o).map d.shows =
        middle ++ (setTrigger r.hasTrigger false).map d.shows ∧
      Ends d r next rest (reply.bind Envelope.parse) middle o
        ((d.spend rest o).performAll (finish r.inFlight o)).2 := by
  have htrigger : r.inFlight.hasTrigger = r.hasTrigger := rfl
  rw [outcome]
  cases reply.bind Envelope.parse with
  | error f =>
    dsimp only
    rw [finish_failed, htrigger, List.map_append, snd_performAll_release]
    exact ⟨_, rfl, .failed⟩
  | ok e =>
    dsimp only
    by_cases hs : e.success
    · rw [if_pos hs]
      obtain ⟨effect, hfinish, hleads⟩ := leads_destination d.config r e
      obtain ⟨hperform, hspend⟩ := perform_leads hleads d rest
      have hdesk : (d.performAll [.remember r.draft.optionsText, effect]).2 =
          ((d.perform (.remember r.draft.optionsText)).2.perform effect).2 := rfl
      rw [hspend, hfinish, snd_performAll_release, List.map_append, hdesk,
        (perform_leads hleads _ rest).1, List.map_cons, List.map_singleton, ← fst_perform d effect,
        hperform]
      refine ⟨_, rfl, ?_⟩
      have hremembers := d.remembers_perform r.draft.optionsText
      rw [perform_remember] at hremembers ⊢
      exact .accepted hs hleads hremembers
    · rw [if_neg hs, finish_rejected, htrigger, List.map_append, snd_performAll_release]
      exact ⟨_, rfl, .refused (Bool.eq_false_iff.mpr hs)⟩

/-- Everything a submission does, for every reply: the trigger is disabled first and released last,
one form is sent, the captcha is asked only for a new post without an answer of its own, and in
between the submission goes on in one of the three ways. The token handed to the page after a
refusal is the first that the source gives beside the old one, if it gives another one at all. -/
theorem submit_trace (d : Desk) (r : Request Attachment) (reply : Except Failure String) :
    ∃ next rest middle,
      (d.submit r (some reply)).2.1 =
        (if r.hasTrigger then [.did (.disable true)] else []) ++
        (if r.preset.filter (· ≠ "") = none ∧ r.draft.captcha = none then [.did .askCaptcha]
          else []) ++
        [.did (.post (d.config.baseUrl ++ d.config.apiPath) (r.form d.captcha))] ++ middle ++
        (if r.hasTrigger then [.did (.disable false)] else []) ∧
      Ends d r next rest (reply.bind Envelope.parse) middle (d.submit r (some reply)).1
        (d.submit r (some reply)).2.2 ∧
      ((∃ n, Token.drawn d.draws n ≠ r.draft.token) →
        next ≠ r.draft.token ∧ next.isWellFormed = true ∧
        ∃ i, next = Token.drawn d.draws i ∧ (∀ j < i, Token.drawn d.draws j = r.draft.token) ∧
          rest = d.draws.drop ((i + 1) * 32)) := by
  obtain ⟨middle, hevents, hends⟩ := d.ends_outcome r (d.redraw r.draft.token).1
    (d.redraw r.draft.token).2 reply
  rw [submit_eq]
  refine ⟨_, _, middle, ?_, hends, redraw_eq⟩
  dsimp only [heard]
  rw [hevents, start_eq, setTrigger]
  simp only [List.map_append, List.append_assoc, List.nil_append]
  split <;> split <;> rfl

def forgetful : Desk where
  config := {}
  storage := { writeFault? := fun key => some (.storage ("cannot write " ++ key)) }
  draws := []
  captcha := some "answer"

def illustrated : Request Attachment where
  draft := {
    token := ⟨"first"⟩
    message := "hi"
    image := some ⟨"cat.png", []⟩
    topic := ⟨7⟩
    options := some "sage" }
  hasTrigger := true

def illustratedForm : List (FormField Attachment) := [
  ⟨"subject", .text ""⟩, ⟨"message", .text "hi"⟩, ⟨"image", .file ⟨"cat.png", []⟩⟩,
  ⟨"topic", .text "7"⟩, ⟨"uuid", .text "first"⟩, ⟨"options", .text "sage"⟩,
  ⟨"token", .text "answer"⟩]

theorem trace_illustrated :
    (∃ next, next ≠ ⟨"first"⟩ ∧
      let s := forgetful.submit illustrated (some (.ok (Forum.Answer.refused .topicLocked).body))
      s.2.1 = [.did (.disable true), .did .askCaptcha, .did (.post "/api" illustratedForm),
        .did (.alert "发生错误：\ncode: topic-locked\n主题已被锁定"), .did (.replaceToken next),
        .did (.disable false)] ∧ s.2.2.token = some next) ∧
    let s := forgetful.submit illustrated (some (.ok (Forum.Answer.posted 9 7).body))
    s.2.1 = [.did (.disable true), .did .askCaptcha, .did (.post "/api" illustratedForm),
      .notRemembered, .did (.navigate "/p/9"), .did (.disable false)] ∧
      s.2.2.navigations = ["/p/9"] := by
  have hrefused : (Except.ok (Forum.Answer.refused .topicLocked).body).bind Envelope.parse =
      .ok { error := some .topicLocked } := by
    rfl
  have hposted : (Except.ok (Forum.Answer.posted 9 7).body).bind Envelope.parse =
      .ok { success := true, longid := some 9, topic := some 7, post := some 1 } := by
    rfl
  constructor
  · obtain ⟨next, rest, middle, hevents, hends, hnext⟩ :=
      submit_trace forgetful illustrated (.ok (Forum.Answer.refused .topicLocked).body)
    refine ⟨next, (hnext ⟨0, by decide +kernel⟩).1, ?_⟩
    rw [hrefused] at hends
    generalize forgetful.submit illustrated _ = s at hevents hends ⊢
    obtain ⟨o, events, after⟩ := s
    dsimp only at hevents hends ⊢
    cases hends with
    | accepted success => cases success
    | refused success => exact ⟨hevents, rfl⟩
  · obtain ⟨next, rest, middle, hevents, hends, -⟩ :=
      submit_trace forgetful illustrated (.ok (Forum.Answer.posted 9 7).body)
    rw [hposted] at hends
    generalize forgetful.submit illustrated _ = s at hevents hends ⊢
    obtain ⟨o, events, after⟩ := s
    dsimp only at hevents hends ⊢
    cases hends with
    | refused success => cases success
    | accepted success leads remembers =>
      cases remembers with
      | written free => cases free
      | failed fault =>
        cases leads with
        | callback given => cases given
        | reload given held => exact absurd (held 9 rfl (by decide)) (by decide +kernel)
        | permalink given longid ne_zero free url_eq =>
          cases longid
          subst url_eq
          exact ⟨hevents, rfl⟩

end Desk

end ForumClient
