import ForumClient.Proofs.ForumRun
import ForumClient.Proofs.IdText
import ForumClient.Proofs.Trace

namespace ForumClient

theorem TopicId.read_write (t : TopicId) : read t.write = .ok t := by
  have h : Numeral.Denotes (Text.trim ([] ++ (List.replicate 0 '0' ++ t.write ++ [])))
      t.number.toNat := Numeral.denotes_zeros rfl rfl
  rw [List.nil_append, List.append_nil] at h
  exact t.read_eq_ok_iff.mpr h

theorem ErrorCode.ofText_text {code : ErrorCode} (h : code ∈ known) : ofText code.text = code := by
  revert code
  decide

namespace Forum

variable {f : Forum} {d : Draft Attachment} {fields : Fields}

structure ReadsDraft (fields : Fields) (d : Draft Attachment) : Prop where
  subject : text? fields "subject" = some d.subject
  message : text? fields "message" = some d.message
  image : file? fields = d.image
  topic : topicOf fields = d.topic
  token : text? fields "uuid" = some d.token.text
  options : text? fields "options" = some d.optionsText
  captcha : text? fields "token" = d.captcha

theorem readsDraft_fields (d : Draft Attachment) : ReadsDraft (Payload.newPost d).fields d := by
  have htopic (fields : Fields) (h : text? fields "topic" = some d.topic.toString) :
      topicOf fields = d.topic := by
    rw [topicOf, h, Option.getD_some, TopicId.toString, String.toList_ofList, TopicId.read_write]
  cases himage : d.image <;> cases hcaptcha : d.captcha
  all_goals
    refine ⟨?_, ?_, ?_, htopic _ ?_, ?_, ?_, ?_⟩
    all_goals
      simp [Payload.fields, Payload.imageField, Payload.captchaField, text?, file?,
        FormField.ofText, FormField.text?, FormField.file?, himage, hcaptcha, List.findSome?_cons]

/-- A form as the forum takes it: without a token it is the message of an update. -/
def Reads (fields : Fields) : Payload Attachment → Prop
  | .update m => text? fields "uuid" = none ∧ text? fields "message" = some m
  | .newPost d => ReadsDraft fields d

theorem reads_fields (p : Payload Attachment) : Reads p.fields p := by
  cases p with
  | update m => exact ⟨rfl, rfl⟩
  | newPost d => exact readsDraft_fields d

def isTooShort (message : String) : Bool := (Text.trim message.toList).byteLength < minMessage

def objectionsBefore (f : Forum) (d : Draft Attachment) : List (Bool × ErrorCode) := [
  (!d.topic.isNew && !f.topics.contains d.topic.number, .badRequest),
  (f.needsCaptcha && d.captcha.getD "" == "", .recaptchaNeeded)]

def objectionsAfter (f : Forum) (d : Draft Attachment) : List (Bool × ErrorCode) := [
  (d.image.isSome && f.refusesImages, .imageUploadDisabled),
  (isTooShort d.message && d.image.isNone, .messageTooShort),
  (f.locked.contains d.topic.number, .topicLocked),
  (d.image.any fun a => !isImageName a.name, .imageInvalidFormat)]

def objections (f : Forum) (d : Draft Attachment) : List (Bool × ErrorCode) :=
  f.objectionsBefore d ++ (f.seen.contains d.token.text, .badRequest) :: f.objectionsAfter d

def first? (os : List (Bool × ErrorCode)) : Option ErrorCode := (os.find? (·.1)).map (·.2)

def verdict (f : Forum) : Payload Attachment → Answer
  | .update m => if isTooShort m then .refused .messageTooShort else .updated
  | .newPost d => match first? (f.objections d) with
    | some code => .refused code
    | none =>
      .posted f.nextLongid (if d.topic.isNew then f.nextLongid.toUInt32 else d.topic.number)

theorem first?_cons (b : Bool) (code : ErrorCode) (os : List (Bool × ErrorCode)) :
    first? ((b, code) :: os) = if b then some code else first? os := by
  cases b <;> rfl

theorem first?_append (os os' : List (Bool × ErrorCode)) :
    first? (os ++ os') = (first? os).or (first? os') := by
  rw [first?, List.find?_append, Option.map_or]
  rfl

theorem known_of_first? {os : List (Bool × ErrorCode)} {code : ErrorCode}
    (hos : ∀ o ∈ os, o.2 ∈ ErrorCode.known) (h : first? os = some code) :
    code ∈ ErrorCode.known := by
  obtain ⟨o, ho, rfl⟩ := Option.map_eq_some_iff.mp h
  exact hos o (List.mem_of_find?_eq_some ho)

theorem refusalBefore?_eq (h : ReadsDraft fields d) :
    f.refusalBefore? fields = first? (f.objectionsBefore d) := by
  rw [refusalBefore?, objectionsBefore]
  simp only [first?_cons, h.topic, h.captcha]
  rfl

theorem refusalAfter?_eq (h : ReadsDraft fields d) :
    f.refusalAfter? fields = first? (f.objectionsAfter d) := by
  rw [refusalAfter?, objectionsAfter]
  simp only [first?_cons, isShort, messageOf, isTooShort, h.topic, h.image, h.message,
    Option.getD_some]
  cases d.image with
  | none => rfl
  | some a => cases himage : isImageName a.name <;> simp [himage, first?]

theorem answerPost_eq_verdict (h : ReadsDraft fields d) :
    (f.answerPost d.token.text fields).1 = f.verdict (.newPost d) := by
  have hafter : { f with seen := d.token.text :: f.seen }.refusalAfter? fields =
      first? (f.objectionsAfter d) := refusalAfter?_eq h
  rw [answerPost, verdict, objections, first?_append, first?_cons, refusalBefore?_eq h]
  cases first? (f.objectionsBefore d) with
  | some code => rfl
  | none =>
    cases f.seen.contains d.token.text with
    | true => rfl
    | false =>
      simp only [Bool.false_eq_true, if_false, hafter, h.topic, Option.none_or]
      cases first? (f.objectionsAfter d) <;> rfl

theorem answer_eq_verdict (f : Forum) (p : Payload Attachment) :
    (f.answer p.fields).1 = f.verdict p := by
  cases p with
  | update m =>
    rw [answer, Payload.text?_uuid_update, verdict, isTooShort]
    simp only [isShort, messageOf, (reads_fields (.update m)).2, Option.getD_some,
      decide_eq_true_eq]
  | newPost d => rw [answer_newPost, answerPost_eq_verdict (readsDraft_fields d)]

theorem known_of_verdict {p : Payload Attachment} {code : ErrorCode}
    (h : f.verdict p = .refused code) : code ∈ ErrorCode.known := by
  cases p with
  | update m =>
    rw [verdict] at h
    split at h <;> cases h
    decide
  | newPost d =>
    rw [verdict] at h
    cases hfirst : first? (f.objections d) with
    | none => rw [hfirst] at h; cases h
    | some code' =>
      rw [hfirst] at h
      cases h
      exact known_of_first? (by simp [objections, objectionsBefore, objectionsAfter,
        ErrorCode.known]) hfirst

theorem requests_answer (f : Forum) (p : Payload Attachment) :
    (f.answer p.fields).2.requests = f.requests := by
  cases p with
  | update m => rw [answer_update]
  | newPost d =>
    rw [answer_newPost]
    rcases f.answerPost_cases d.token.text (Payload.newPost d).fields with
      ⟨code, ha, -⟩ | ⟨-, -, ⟨code, -, ha⟩ | ⟨topic, -, ha⟩⟩
    all_goals rw [ha]

theorem nextLongid_of_verdict {p : Payload Attachment} {n : UInt64} {t : UInt32}
    (h : f.verdict p = .posted n t) :
    n = f.nextLongid ∧ (f.answer p.fields).2.nextLongid = f.nextLongid + 1 := by
  cases p with
  | update m =>
    rw [verdict] at h
    split at h <;> cases h
  | newPost d =>
    rw [← answerPost_eq_verdict (readsDraft_fields d)] at h
    rw [answer_newPost]
    rcases f.answerPost_cases d.token.text (Payload.newPost d).fields with
      ⟨code, ha, -⟩ | ⟨-, -, ⟨code, -, ha⟩ | ⟨topic, -, ha⟩⟩
    all_goals
      rw [ha] at h ⊢
      cases h
    exact ⟨rfl, rfl⟩

end Forum

namespace Submission

variable {c : Config} {r : Request α}

/-- What is sent for a request: a preset message alone unless it is empty, otherwise the draft,
with what the page's captcha answers if it brings no answer of its own. -/
def Request.sent (captcha : Option String) (r : Request α) : Payload α :=
  match r.preset.filter (· ≠ "") with
  | some m => .update m
  | none => .newPost { r.draft with captcha := r.draft.captcha.or captcha }

theorem Request.form_eq (r : Request α) (captcha : Option String) :
    r.form captcha = (r.sent captcha).fields := by
  rw [Request.form, Request.sent]
  cases r.preset.filter (· ≠ "") with
  | some m => rfl
  | none => rw [fields_newPost]

/-- How a submission ends when the forum has answered it. -/
inductive Settles (c : Config) (r : Request α) : Forum.Answer → Outcome → Prop
  | callback {a : Forum.Answer} (given : r.hasCallback = true)
      (accepted : ∀ code, a ≠ .refused code) : Settles c r a .callback
  | updated (given : r.hasCallback = false) : Settles c r .updated .reloaded
  | permalink {n : UInt64} {t : UInt32} (given : r.hasCallback = false) (ne_zero : n ≠ 0)
      (free : ¬ c.noRedirectMarker.toList <:+: r.draft.optionsText.toList) :
      Settles c r (.posted n t) (.navigated (PostId.permalink ⟨n⟩ c))
  | kept {n : UInt64} {t : UInt32} (given : r.hasCallback = false)
      (held : n = 0 ∨ c.noRedirectMarker.toList <:+: r.draft.optionsText.toList) :
      Settles c r (.posted n t) .reloaded
  | refused {code : ErrorCode} {next : Token} (known : code ∈ ErrorCode.known) :
      Settles c r (.refused code) (.rejected (some code) next)

theorem Settles.ne_failed {a : Forum.Answer} {o : Outcome} (h : Settles c r a o) (e : Failure) :
    o ≠ .failed e := by
  cases h <;> simp

theorem Leads.settles {a : Forum.Answer} {effect : Effect α} {o : Outcome}
    (hsuccess : a.envelope.success = true) (h : Leads c r a.envelope effect o) :
    Settles c r a o := by
  cases h with
  | callback given =>
    refine .callback given fun code ha => ?_
    subst ha
    cases hsuccess
  | permalink given longid ne_zero free url_eq =>
    cases a with
    | updated => cases longid
    | refused code => cases hsuccess
    | posted n t =>
      cases longid
      rw [url_eq]
      exact .permalink given ne_zero free
  | reload given held =>
    cases a with
    | updated => exact .updated given
    | refused code => cases hsuccess
    | posted n t => exact .kept given (or_iff_not_imp_left.mpr (held n rfl))

theorem settles_outcome (c : Config) (r : Request α) (next : Token) {a : Forum.Answer}
    (hknown : ∀ code, a = .refused code → code ∈ ErrorCode.known) :
    Settles c r a (outcome c r.inFlight next (.ok a.body)) := by
  rw [outcome, Envelope.bind_parse_body]
  dsimp only
  by_cases hs : a.envelope.success
  · rw [if_pos hs]
    obtain ⟨effect, -, leads⟩ := leads_destination c r a.envelope
    exact leads.settles hs
  · rw [if_neg hs]
    cases a with
    | updated => cases hs rfl
    | posted n t => cases hs rfl
    | refused code =>
      have hcode := hknown code rfl
      rw [show (Forum.Answer.refused code).envelope.error = some code by
        rw [Forum.Answer.envelope, ErrorCode.ofText_text hcode]]
      exact .refused hcode

end Submission

namespace Desk

open Submission

variable {d : Desk} {r : Request Attachment}

theorem forum_perform (d : Desk) (e : Effect Attachment) : (d.perform e).2.forum = d.forum := by
  cases e with
  | remember options => rw [perform_remember]
  | _ => rfl

theorem forum_performAll (d : Desk) (es : List (Effect Attachment)) :
    (d.performAll es).2.forum = d.forum := by
  induction es generalizing d with
  | nil => rfl
  | cons e es ih =>
    change ((d.perform e).2.performAll es).2.forum = d.forum
    rw [ih, forum_perform]

def addressed (d : Desk) (r : Request Attachment) : String × Forum.Fields :=
  (d.config.baseUrl ++ d.config.apiPath, (r.sent d.captcha).fields)

theorem submit_online (hon : d.forum.offline = false) (hcanned : d.forum.canned = none)
    (r : Request Attachment) :
    let p := r.sent d.captcha
    let a := d.forum.verdict p
    let f := { d.forum with requests := d.forum.requests ++ [d.addressed r] }
    .replied (.ok a.body) ∈ (d.submit r none).2.1 ∧
      Settles d.config r a (d.submit r none).1 ∧
      (d.submit r none).2.2.forum = (f.answer p.fields).2 := by
  intro p a f
  have hheard : d.heard none (d.config.baseUrl ++ d.config.apiPath) (r.form d.captcha) =
      (.ok a.body, [.replied (.ok a.body)], { d with forum := (f.answer p.fields).2 }) := by
    rw [heard, r.form_eq, Forum.handle_online hon hcanned]
    dsimp only
    rw [Forum.answer_eq_verdict]
    rfl
  rw [submit_eq, hheard]
  refine ⟨by simp, settles_outcome d.config r _ fun code => Forum.known_of_verdict, ?_⟩
  rw [forum_performAll]
  generalize outcome d.config _ _ _ = o
  cases o <;> rfl

/-- The client and a forum that can be reached, has no reply prepared and has a number left: the
forum finds what was submitted in the form, says of it what it would say of the submission itself,
and the submission ends as the forum has decided. -/
theorem forum_settles_submission (d : Desk) (r : Request Attachment)
    (hon : d.forum.offline = false) (hcanned : d.forum.canned = none)
    (hnext : d.forum.nextLongid.toNat < UInt64.size - 1) :
    let p := r.sent d.captcha
    let a := d.forum.verdict p
    let s := d.submit r none
    s.2.2.forum.requests = d.forum.requests ++ [d.addressed r] ∧
      Forum.Reads (d.addressed r).2 p ∧
      .replied (.ok a.body) ∈ s.2.1 ∧
      Settles d.config r a s.1 ∧ (∀ e, s.1 ≠ .failed e) ∧
      ∀ n t, a = .posted n t →
        n = d.forum.nextLongid ∧ s.2.2.forum.nextLongid.toNat = n.toNat + 1 := by
  intro p a s
  obtain ⟨hreplied, hsettles, hforum⟩ := submit_online hon hcanned r
  refine ⟨?_, Forum.reads_fields p, hreplied, hsettles, fun e he => ?_, fun n t ha => ?_⟩
  · rw [hforum, Forum.requests_answer]
  · exact hsettles.ne_failed e he
  · obtain ⟨rfl, hcounted⟩ := Forum.nextLongid_of_verdict
      (f := { d.forum with requests := d.forum.requests ++ [d.addressed r] }) ha
    refine ⟨rfl, ?_⟩
    have hone : (1 : UInt64).toNat = 1 := rfl
    have hsize : UInt64.size = 2 ^ 64 := rfl
    rw [hforum, hcounted, UInt64.toNat_add]
    dsimp only
    omega

def captchaDesk : Desk where
  config := {}
  storage := {}
  forum := { topics := [12], needsCaptcha := true }
  draws := []
  captcha := some "answer"

def replyWithImage : Request Attachment where
  draft := {
    token := ⟨"first"⟩
    subject := "re"
    image := some ⟨"cat.PNG", [0]⟩
    topic := ⟨12⟩
    options := some "sage" }

theorem navigated_replyWithImage :
    captchaDesk.forum.nextLongid.toNat < UInt64.size - 1 ∧
      captchaDesk.forum.verdict (replyWithImage.sent captchaDesk.captcha) = .posted 1000 12 ∧
      (captchaDesk.submit replyWithImage none).1 = .navigated "/p/1000" := by
  have hposted : captchaDesk.forum.verdict (replyWithImage.sent captchaDesk.captcha) =
    .posted 1000 12 := by decide +kernel
  obtain ⟨-, -, -, hsettles, -⟩ :=
    forum_settles_submission captchaDesk replyWithImage rfl rfl (by decide)
  rw [hposted] at hsettles
  refine ⟨by decide, hposted, ?_⟩
  generalize (captchaDesk.submit replyWithImage none).1 = o at hsettles
  cases hsettles with
  | callback given _ => cases given
  | permalink _ _ _ => decide
  | kept _ held => revert held; decide

end Desk

end ForumClient
