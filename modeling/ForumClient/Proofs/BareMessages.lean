import ForumClient.Proofs.PageTrigger
import ForumClient.Proofs.Trim
import ForumClient.Proofs.Within

namespace ForumClient

def Record.IsBare : Record → Prop
  | .fetch method _ form => method = "GET" ∧ form = none ∨
      method = "POST" ∧ ∃ m, form = some [.ofText "message" m] ∧ m ≠ "" ∧ Text.Trimmed m.toList
  | .call _ _ => False
  | _ => True

-- A call holds values, whose sameness cannot be decided.
def Record.agrees : Record → Record → Bool
  | .fetch method url form, .fetch method' url' form' =>
      method = method' ∧ url = url' ∧ form = form'
  | .store key value, .store key' value' => key = key' ∧ value = value'
  | _, _ => false

theorem Record.eq_of_agrees {r r' : Record} (h : r.agrees r' = true) : r = r' := by
  cases r <;> cases r' <;> simp_all [agrees]

theorem Record.eq_of_allAgree {rs rs' : List Record}
    (h : List.isEqv rs rs' agrees = true) : rs = rs' := by
  induction rs generalizing rs' with
  | nil => cases rs' with
    | nil => rfl
    | cons r' rs' => cases h
  | cons r rs ih => cases rs' with
    | nil => cases h
    | cons r' rs' =>
      simp only [List.isEqv, Bool.and_eq_true] at h
      rw [eq_of_agrees h.1, ih h.2]

namespace Host

def Adds (P : Record → Prop) (h h' : Host) : Prop :=
  ∃ new, h'.records = h.records ++ new ∧ ∀ r ∈ new, P r

variable {P : Record → Prop} {h h' : Host}

instance : Std.Refl (Adds P) := ⟨fun _ => ⟨[], (List.append_nil _).symm, nofun⟩⟩

instance : IsTrans Host (Adds P) where
  trans := by
    rintro h₁ h₂ h₃ ⟨new, hrecords, hnew⟩ ⟨new', hrecords', hnew'⟩
    exact ⟨new ++ new', by rw [hrecords', hrecords, List.append_assoc],
      List.forall_mem_append.mpr ⟨hnew, hnew'⟩⟩

theorem Logs.adds (hlogs : Logs P h h') : Adds P h h' := by
  obtain ⟨new, _, _, rfl, hnew⟩ := hlogs
  exact ⟨new, rfl, hnew⟩

theorem adds_of_eq (hrecords : h'.records = h.records) : Adds P h h' :=
  ⟨[], by rw [hrecords, List.append_nil], nofun⟩

/-- What holds between a host and the same with more bare records, and when something is stored,
holds of all that the page of a post does outside the post. -/
class Carries (R : Host → Host → Prop) : Prop extends Std.Refl R, IsTrans Host R where
  logs {h h' : Host} : Logs Record.IsBare h h' → R h h'
  stored (h : Host) (s : Storage) : R h (h.withStored s)

instance : Carries (Adds Record.IsBare) where
  logs := Logs.adds
  stored h s := adds_of_eq (by rw [withStored]; cases h.browser <;> rfl)

variable {R : Host → Host → Prop} [Carries R]

theorem carries_keep (key : String) (written : Except Failure Unit × Storage) :
    (keep key written).Within R := fun h =>
  IsTrans.trans _ _ _ (Carries.stored h written.2)
    (Carries.logs (logs_keep (fun _ => trivial) written.1 h))

end Host

open Host (Adds Carries)

section carries

variable {R : Host → Host → Prop} [Carries R]

namespace Exchange

theorem carries_fetchPost (p : PostId) : (fetchPost p).Within R :=
  (within_fetchPost (fun _ => .inl ⟨rfl, rfl⟩) p).mono fun _ _ => Carries.logs

end Exchange

namespace Sender

open Submission (InFlight Effect Outcome Request)

variable {f : InFlight} {e : Effect String} {es : List (Effect String)}

def IsBare (e : Effect String) : Prop :=
  ∀ url fields, e = .post url fields → Record.IsBare (.fetch "POST" url (some fields))

theorem within_perform (he : IsBare e) (s : Sender) :
    (perform f s e).Within R := by
  have shown {r : Record} (hr : r.IsBare) :
      (do Host.inWindow r; return s : Act Sender).Within R :=
    .bind ((Host.within_inWindow hr).mono fun _ _ => Carries.logs) fun _ => .pure s
  cases e with
  | post url fields =>
    refine .bind ?_ fun _ => .pure _
    exact (Exchange.within_post (he url fields rfl)).mono fun _ _ => Carries.logs
  | remember options =>
    refine .bind .get fun h => .bind ?_ fun _ => .pure s
    exact Host.carries_keep _ _
  | alert | navigate | reload => exact shown trivial
  | disable | askCaptcha | replaceToken | callback => exact .pure _

theorem within_performAll (hes : ∀ e ∈ es, IsBare e) (s : Sender) :
    (performAll f s es).Within R :=
  .foldlM (fun s e he => within_perform (hes e he) s) s

theorem isBare_of_mem_finish {o : Outcome} (h : e ∈ Submission.finish f o) : IsBare e := by
  have hposts := List.countP_eq_zero.mp (posts_finish f o) e h
  rintro url fields rfl
  exact absurd rfl hposts

theorem within_settle (f : InFlight) (reply : Except Failure String) (s : Sender) :
    (settle f reply s).Within R := by
  refine .bind .get fun h => ?_
  have ended (o : Outcome) : (do return (o, ← performAll f s (Submission.finish f o)) :
      Act (Outcome × Sender)).Within R :=
    .bind (within_performAll (fun _ => isBare_of_mem_finish) s) fun _ => .pure _
  dsimp only
  split
  · exact .bind (fun h => Carries.logs (Host.logs_draws h _)) fun _ => ended _
  · exact ended _

theorem within_pollEach (xs : List (InFlight × Exchange)) (s : Sender) :
    (pollEach xs s).Within R := by
  induction xs generalizing s with
  | nil => exact .pure _
  | cons x xs ih =>
    rw [pollEach]
    refine .bind .get fun h => ?_
    dsimp only
    split
    · exact ih _
    · exact .bind (within_settle _ _ s) fun _ => .bind (ih _) fun _ => .pure _

theorem within_poll (s : Sender) : (poll s).Within R := within_pollEach _ _

theorem start_of_preset {m : String} {r : Request String} (hr : r.preset = some m) (hm : m ≠ "")
    (c : Config) (captcha : Option String) :
    r.asksCaptcha = false ∧ Submission.start c captcha r =
      Submission.setTrigger r.hasTrigger true ++ [.post c.apiUrl [.ofText "message" m]] := by
  have hasks : r.asksCaptcha = false := by
    simp [Request.asksCaptcha, Request.isUpdate, hr, hm]
  refine ⟨hasks, ?_⟩
  simp [Submission.start, hasks, Request.payload, Payload.build, hr, hm, Payload.fields]

theorem within_send {m : String} {r : Request String} (hr : r.preset = some m) (hm : m ≠ "")
    (htrim : Text.Trimmed m.toList) (s : Sender) : (send r s).Within R := by
  have hstart (c : Config) (captcha : Option String) :
      ∀ e ∈ Submission.start c captcha r, IsBare e := by
    rw [(start_of_preset hr hm c captcha).2, Submission.setTrigger]
    intro e he url fields hpost
    subst hpost
    have hfields : fields = [.ofText "message" m] := by
      cases r.hasTrigger <;> simp_all
    exact .inr ⟨rfl, m, congrArg some hfields, hm, htrim⟩
  rw [send, (start_of_preset hr hm {} none).1]
  refine .bind (.pure none) fun captcha => .bind .get fun h => ?_
  exact .bind (within_performAll (hstart h.config captcha) s) fun _ => within_poll _

end Sender

namespace QuickMessage

theorem trimmed_text (q : QuickMessage) : Text.Trimmed q.text.toList := by
  rw [text, String.toList_ofList]
  exact Text.trimmed_trim _

theorem within_poll (q : QuickMessage) : q.poll.Within R :=
  .bind q.sender.within_poll fun _ => .pure _

theorem within_update {q : QuickMessage} {m : Message} (hm : q.Allows m) :
    (q.update m).Within R := by
  cases m with
  | command v => exact .pure _
  | send =>
    exact .bind (Sender.within_send rfl (canSend_iff.mp (hm rfl)).2 q.trimmed_text q.sender)
      fun _ => .pure _

end QuickMessage

namespace PostPage

theorem carries_notes (ts : List String) : (notes ts).Within R := by
  rw [notes]
  induction ts with
  | nil => exact .pure ()
  | cons t ts ih =>
    exact .bind ((Host.within_record trivial).mono fun _ _ => Carries.logs) fun _ => ih

theorem carries_toggleFold (p : PostPage) : p.toggleFold.Within R := by
  rw [toggleFold]
  split
  · exact .pure p
  · refine .bind .get fun h => ?_
    dsimp only
    refine .bind (Host.carries_keep _ _) fun r => ?_
    split
    · refine .bind ?_ fun _ => .bind .get fun _ => .pure _
      exact (Host.within_record trivial).mono fun _ _ => Carries.logs
    · exact .bind .get fun _ => .pure _

end PostPage

end carries

namespace Host

theorem isBare_of_mem_start {b : Browser} {number : Nat} {url : String} {r : Record}
    (hr : r ∈ (Transfer.start b number url).2.2) : r.IsBare := by
  unfold Transfer.start at hr
  split at hr
  · cases hr
  · dsimp only at hr
    split at hr <;> simp at hr <;> rcases hr with rfl | rfl <;> trivial

theorem records_collect (b : Browser) (number status names : Nat) :
    (Transfer.collect b number status names).2 <+: [.listenersLeft number 0, .blob] := by
  unfold Transfer.collect
  split
  · exact List.nil_prefix
  · dsimp only
    split
    · exact ⟨[.blob], rfl⟩
    · split
      · exact ⟨[.blob], rfl⟩
      · split <;> exact List.prefix_rfl

theorem isBare_of_mem_conclude {b : Browser} {number names status : Nat} {e : TransferEnd}
    {r : Record} (hr : r ∈ (Transfer.conclude b number names e status).2) : r.IsBare := by
  unfold Transfer.conclude at hr
  split at hr
  · cases hr
  · have hmem := (records_collect b number status names).subset hr
    simp only [List.mem_cons, List.not_mem_nil, or_false] at hmem
    rcases hmem with rfl | rfl <;> trivial

theorem within_startDownload (url : Text) : (startDownload url).Within (Adds Record.IsBare) := by
  intro h
  unfold startDownload
  simp only [Act.run_bind, Act.run_get]
  split
  · exact refl (r := Adds Record.IsBare) h
  · split
    · exact refl (r := Adds Record.IsBare) h
    · exact ⟨_, rfl, fun r => isBare_of_mem_start⟩

theorem within_finishDownload (number : Nat) :
    (finishDownload number).Within (Adds Record.IsBare) := by
  intro h
  unfold finishDownload
  simp only [Act.run_bind, Act.run_get]
  split
  · exact ⟨_, rfl, fun r => isBare_of_mem_conclude⟩
  · exact refl (r := Adds Record.IsBare) h

end Host

namespace PostBody

theorem within_pollFetches (xs : List (Text × PostId × Exchange)) (b : PostBody) :
    (pollFetches xs b).Within (Adds Record.IsBare) := by
  induction xs generalizing b with
  | nil => exact .pure b
  | cons x xs ih =>
    refine .bind .get fun h => ?_
    dsimp only
    split
    · exact ih _
    · exact ih _

theorem within_pollDownloads (xs : List (Text × Nat)) (b : PostBody) :
    (pollDownloads xs b).Within (Adds Record.IsBare) := by
  induction xs generalizing b with
  | nil => exact .pure b
  | cons x xs ih =>
    refine .bind (Host.within_finishDownload _) fun r => ?_
    split
    · exact ih _
    · exact ih _

theorem within_poll (b : PostBody) : b.poll.Within (Adds Record.IsBare) :=
  .bind (within_pollFetches _ _) fun _ => within_pollDownloads _ _

theorem within_clickImage (slot : Text) (b : PostBody) :
    (b.clickImage slot).Within (Adds Record.IsBare) := by
  refine .bind .get fun h => ?_
  dsimp only
  split
  · refine .bind ?_ fun _ => .pure _
    exact (Host.within_inWindow trivial).mono fun _ _ => Host.Logs.adds
  · refine .bind (Host.within_startDownload _) fun r => ?_
    split
    · exact .pure _
    · exact .pure _
  all_goals exact .pure _

theorem within_click (slot : Text) (b : PostBody) :
    (b.click slot).Within (Adds Record.IsBare) := by
  rw [click]
  dsimp only
  split
  · exact .bind (Exchange.carries_fetchPost _) fun _ => within_poll _
  · exact .pure _
  · exact .pure _
  · exact within_clickImage slot b

end PostBody

namespace PostPage

theorem within_pollFetches (xs : List Exchange) (p : PostPage) :
    (pollFetches xs p).Within (Adds Record.IsBare) := by
  induction xs generalizing p with
  | nil => exact .pure p
  | cons x xs ih =>
    refine .bind .get fun h => ?_
    dsimp only
    split
    · exact ih _
    · exact .bind (carries_notes _) fun _ => ih _

theorem within_fetch (p : PostPage) : (fetch p).Within (Adds Record.IsBare) :=
  .bind (Exchange.carries_fetchPost _) fun _ => within_pollFetches _ _

theorem within_afterQuick (n : Nat) (quick : QuickMessage) (p : PostPage) :
    (afterQuick (n, quick) p).Within (Adds Record.IsBare) := by
  induction n generalizing p with
  | zero =>
    rw [afterQuick]
    exact .pure _
  | succ n ih =>
    rw [afterQuick]
    exact .bind .get fun h => .bind (within_fetch _) fun p => ih p

theorem within_pollBody (p : PostPage) : (pollBody p).Within (Adds Record.IsBare) := by
  rw [pollBody]
  split
  · exact .pure p
  · exact .bind (PostBody.within_poll _) fun _ => .pure _

theorem within_poll (p : PostPage) : p.poll.Within (Adds Record.IsBare) :=
  .bind (within_pollFetches _ _) fun p => .bind (QuickMessage.within_poll _) fun (n, quick) =>
    .bind (within_afterQuick n quick p) fun _ => within_pollBody _

theorem within_clickBody (slot : Option Text) (p : PostPage) :
    (p.clickBody slot).Within (Adds Record.IsBare) := by
  refine .bind .get fun h => ?_
  split
  · exact .bind (PostBody.within_click _ _) fun _ => .pure _
  · exact .pure p

theorem within_update {p : PostPage} {m : Message} (hm : p.Allows m) :
    (p.update m).Within (Adds Record.IsBare) := by
  cases m with
  | toggleFold => exact p.carries_toggleFold
  | body slot => exact p.within_clickBody slot
  | quick m =>
    exact .bind (QuickMessage.within_update hm) fun (n, quick) => within_afterQuick n quick p

end PostPage

namespace Page

theorem within_mount (r : Route) : (mount r).Within (Adds Record.IsBare) := by
  have drawn : Sender.mount.Within (Adds Record.IsBare) := fun _ => Host.adds_of_eq rfl
  cases r with
  | board | topic => exact .bind (.bind drawn fun _ => .bind .get fun _ => .pure _) fun _ => .pure _
  | post p => exact .bind (.bind (.bind drawn fun _ => .pure _) fun q =>
      PostPage.within_fetch _) fun _ => .pure _
  | settings => exact .bind .get fun _ => .pure _

end Page

namespace Session

variable {s : Session} {p : PostPage}

theorem adds_withHost (hs : s.page = .post p) {f : Host → Host}
    (hf : (f s.host).records = s.host.records) :
    Adds Record.IsBare s.host (s.withHost f).host := by
  have polled : (Page.poll s.page).Within (Adds Record.IsBare) := by
    rw [hs]
    exact .bind p.within_poll fun _ => .pure _
  exact IsTrans.trans _ _ _ (Host.adds_of_eq hf) (polled (f s.host))

theorem adds_update (hs : s.page = .post p) {m : Page.Message} (hm : s.page.Allows m) :
    Adds Record.IsBare s.host (s.update m).host := by
  have updated {m : Page.Message} (hm : s.page.Allows m) :
      (s.page.update m).Within (Adds Record.IsBare) := by
    rw [hs] at hm ⊢
    cases m with
    | post m => exact .bind (PostPage.within_update hm) fun _ => .pure _
    | visit | composer | settings => exact .pure _
  cases m with
  | visit r =>
    rw [update]
    split
    · exact refl (r := Adds Record.IsBare) s.host
    · exact Page.within_mount r s.host
  | composer | post | settings => exact updated hm s.host

theorem adds_take (hs : s.page = .post p) (i : Input) :
    Adds Record.IsBare s.host (s.take i).host := by
  have step := s.step_take i
  generalize s.take i = s' at step
  cases step with
  | nothing => exact refl (r := Adds Record.IsBare) s.host
  | message _ allows => exact adds_update hs allows
  | browsed b => exact Host.adds_of_eq rfl
  | expected promises => exact Host.adds_of_eq rfl
  | noticed => exact adds_withHost hs rfl
  | progressed => exact refl (r := Adds Record.IsBare) s.host
  | ended => exact adds_withHost hs rfl

def StaysOnPost (s : Session) : List Input → Prop
  | [] => True
  | i :: is => s.post?.isSome = true ∧ (s.take i).StaysOnPost is

theorem adds_run {inputs : List Input} (hs : s.StaysOnPost inputs) :
    Adds Record.IsBare s.host (s.run inputs).host := by
  induction inputs generalizing s with
  | nil => exact refl (r := Adds Record.IsBare) s.host
  | cons i is ih =>
    obtain ⟨hpost, hrest⟩ := hs
    obtain ⟨p, hp⟩ : ∃ p, s.page = .post p := by
      rw [post?] at hpost
      split at hpost
      · exact ⟨_, ‹_›⟩
      · cases hpost
      · cases hpost
    exact IsTrans.trans _ _ _ (adds_take hp i) (ih hrest)

/-- Whatever is typed, clicked and answered while the page of a post is open: of requests it is
seen to make only fetches of what is there, and posts of one field, a message that is not empty and
has no white space at its ends; and it calls nothing, so no captcha. Wherever the run has led, what
the line can send is such a post, for which no captcha is asked. -/
theorem posts_bare_messages (post : PostId) (h : Host) (inputs : List Input)
    (hstays : (start (.post post) h).StaysOnPost inputs) :
    (∃ new, ((start (.post post) h).run inputs).host.records = h.records ++ new ∧
      (∀ method url form, .fetch method url form ∈ new → method = "GET" ∧ form = none ∨
        method = "POST" ∧
          ∃ m, form = some [.ofText "message" m] ∧ m ≠ "" ∧ Text.Trimmed m.toList) ∧
      ∀ function arguments, .call function arguments ∉ new) ∧
    ∀ p, ((start (.post post) h).run inputs).post? = some p → p.quick.canSend = true →
      p.quick.request.asksCaptcha = false ∧ p.quick.text ≠ "" ∧ Text.Trimmed p.quick.text.toList ∧
        ∀ c captcha, Submission.start c captcha p.quick.request =
          [.disable true, .post c.apiUrl [.ofText "message" p.quick.text]] := by
  refine ⟨?_, fun p _ hsend => ?_⟩
  · have hadds : Adds Record.IsBare h ((start (.post post) h).run inputs).host :=
      IsTrans.trans _ _ _ (Page.within_mount (.post post) h) (adds_run hstays)
    obtain ⟨new, hrecords, hnew⟩ := hadds
    exact ⟨new, hrecords, fun method url form => hnew _, fun function arguments => hnew _⟩
  · have htext := (QuickMessage.canSend_iff.mp hsend).2
    have hstart (c : Config) (captcha : Option String) :=
      Sender.start_of_preset (r := p.quick.request) rfl htext c captcha
    refine ⟨(hstart {} none).1, htext, p.quick.trimmed_text, fun c captcha => (hstart c captcha).2⟩

def sendingSpaced : List Input := [
  .event { tag := "input" } (.input " hi "),
  .event { tag := "button" } (.click {}),
  accepted,
  .event { tag := "button" } (.click {})]

theorem records_sendingSpaced : visited.StaysOnPost sendingSpaced ∧
    (visited.run sendingSpaced).host.records = [
      .fetch "GET" "/p/7?raw=1" none,
      .fetch "POST" "/api" (some [.ofText "message" "hi"]),
      .store "options" "",
      .fetch "GET" "/p/7?raw=1" none] ∧
    ∀ function arguments, .call function arguments ∉ (visited.run sendingSpaced).host.records := by
  have hstays : visited.StaysOnPost sendingSpaced := by
    refine ⟨by decide +kernel, by decide +kernel, by decide +kernel, by decide +kernel, trivial⟩
  refine ⟨hstays, Record.eq_of_allAgree (by decide +kernel), ?_⟩
  obtain ⟨⟨new, hrecords, -, hcalls⟩, -⟩ := posts_bare_messages ⟨7⟩ (.bare []) sendingSpaced hstays
  have hnew : new = (visited.run sendingSpaced).host.records := hrecords.symm
  rw [← hnew]
  exact hcalls

end Session

end ForumClient
