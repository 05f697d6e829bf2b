import ForumClient.Proofs.Arrivals

/-!
The topics that the forum starts. It gives such a topic the low half of the post's number and does
not register it: only topics that were added are known, and the number comes again after a whole
round of the low half.
-/

namespace ForumClient.Forum

/-- A form that names no topic is accepted under a number and a topic. -/
structure Opens (f : Forum) (url : String) (r : Fields) (n : UInt64) (t : UInt32) : Prop where
  new : (topicOf r).isNew
  reply : (f.handle url r).1 = .ok (Answer.posted n t).body

structure Acceptable (f : Forum) (r : Fields) : Prop where
  online : f.offline = false
  token : ∃ token, text? r "uuid" = some token ∧ token ∉ f.seen
  captcha : f.needsCaptcha → (text? r "token").getD "" ≠ ""
  content : f.refusalAfter? r = none

def Registered (f : Forum) (xs : List Arrival) (t : UInt32) : Prop :=
  t ∈ f.topics ∨ ∃ locked, .addTopic t locked ∈ xs

def isNewPost (reply : Except Failure String) : Bool :=
  (acknowledged? reply).any (·.longid.isSome)

def newPosts (f : Forum) (xs : List Arrival) : Nat := (f.replies xs).countP isNewPost

variable {f : Forum} {url : String} {r : Fields} {n : UInt64} {t : UInt32} {x : Arrival}
  {xs : List Arrival}

theorem isNewPost_body (a : Answer) : isNewPost (.ok a.body) = a.envelope.longid.isSome := by
  rw [isNewPost, acknowledged?_body]
  cases a <;> rfl

theorem answer_frame (f : Forum) (r : Fields) :
    (f.answer r).2.topics = f.topics ∧ (f.answer r).2.canned = f.canned ∧
      (f.answer r).2.nextLongid =
        f.nextLongid + .ofNat (f.answer r).1.envelope.longid.isSome.toNat := by
  rw [answer]
  cases text? r "uuid" with
  | none =>
    refine ⟨rfl, rfl, ?_⟩
    dsimp only
    split <;> simp [Answer.envelope]
  | some token =>
    dsimp only
    rcases f.answerPost_cases token r with
      ⟨code, ha, -⟩ | ⟨-, -, ⟨code, -, ha⟩ | ⟨topic, -, ha⟩⟩
    all_goals
      rw [ha]
      simp [Answer.envelope]

theorem newPosts_cons (f : Forum) (x : Arrival) (xs : List Arrival) :
    f.newPosts (x :: xs) = f.newPosts [x] + (f.receive x).newPosts xs := by
  simp [newPosts, replies, List.countP_append]

theorem newPosts_form (f : Forum) (url : String) (r : Fields) :
    f.newPosts [.form url r] = (isNewPost (f.handle url r).1).toNat := by
  rw [newPosts, replies, replies, reply?]
  cases h : isNewPost (f.handle url r).1 <;> simp [h]

theorem handle_frame (hc : f.canned = none) (url : String) (r : Fields) :
    (f.handle url r).2.topics = f.topics ∧ (f.handle url r).2.canned = none ∧
      (f.handle url r).2.nextLongid = f.nextLongid + .ofNat (f.newPosts [.form url r]) := by
  rw [newPosts_form]
  cases hon : f.offline with
  | true =>
    rw [handle_offline hon]
    exact ⟨rfl, hc, (UInt64.add_zero _).symm⟩
  | false =>
    obtain ⟨htopics, hcanned, hnext⟩ := f.answer_frame r
    rw [handle_answer hon hc, isNewPost_body]
    exact ⟨htopics, hcanned.trans hc, hnext⟩

theorem registered_cons (f : Forum) (x : Arrival) (xs : List Arrival) (t : UInt32) :
    f.Registered (x :: xs) t ↔ f.Registered [x] t ∨ ∃ locked, .addTopic t locked ∈ xs := by
  simp only [Registered, List.mem_cons, List.not_mem_nil, or_false, exists_or]
  tauto

theorem receive_frame (hc : f.canned = none) (x : Arrival) :
    (∀ t, t ∈ (f.receive x).topics ↔ f.Registered [x] t) ∧ (f.receive x).canned = none ∧
      (f.receive x).nextLongid = f.nextLongid + .ofNat (f.newPosts [x]) := by
  cases x with
  | form url r =>
    obtain ⟨htopics, hcanned, hnext⟩ := handle_frame hc url r
    refine ⟨fun t => ?_, hcanned, hnext⟩
    rw [receive, htopics]
    simp [Registered]
  | addTopic topic locked =>
    refine ⟨fun t => ?_, hc, (UInt64.add_zero _).symm⟩
    simp [receive, addTopic, Registered, or_comm]
  | _ =>
    refine ⟨fun t => ?_, hc, (UInt64.add_zero _).symm⟩
    simp [receive, Registered]

theorem receiveAll_frame (hc : f.canned = none) (xs : List Arrival) :
    (∀ t, t ∈ (f.receiveAll xs).topics ↔ f.Registered xs t) ∧ (f.receiveAll xs).canned = none ∧
      (f.receiveAll xs).nextLongid = f.nextLongid + .ofNat (f.newPosts xs) := by
  induction xs generalizing f with
  | nil => exact ⟨fun t => by simp [receiveAll, Registered], hc, (UInt64.add_zero _).symm⟩
  | cons x xs ih =>
    obtain ⟨htopics, hcanned, hnext⟩ := receive_frame hc x
    obtain ⟨htopics', hcanned', hnext'⟩ := ih hcanned
    refine ⟨fun t => ?_, hcanned', ?_⟩
    · rw [registered_cons, ← htopics t]
      exact htopics' t
    · rw [newPosts_cons, UInt64.ofNat_add, ← UInt64.add_assoc, ← hnext]
      exact hnext'

theorem toUInt32_add_ofNat (n : UInt64) (k : Nat) :
    (n + .ofNat k).toUInt32 = n.toUInt32 ↔ UInt32.size ∣ k := by
  rw [← UInt32.toNat_inj]
  simp only [UInt64.toNat_toUInt32, UInt64.toNat_add, UInt64.toNat_ofNat', UInt32.size]
  omega

theorem Answer.eq_posted {a : Answer} (h : a.body = (Answer.posted n t).body) : a = .posted n t := by
  have hparse := Envelope.parse_body a
  rw [h, Envelope.parse_body] at hparse
  cases a <;> simp_all [Answer.envelope]

theorem Opens.eq (h : f.Opens url r n t) (hc : f.canned = none) :
    n = f.nextLongid ∧ t = n.toUInt32 := by
  have hreply := h.reply
  cases hon : f.offline with
  | true =>
    rw [handle_offline hon] at hreply
    cases hreply
  | false =>
    rw [handle_answer hon hc] at hreply
    have hanswer := Answer.eq_posted (Except.ok.inj hreply)
    rw [answer] at hanswer
    cases htoken : text? r "uuid" with
    | none =>
      rw [htoken] at hanswer
      dsimp only at hanswer
      split at hanswer <;> cases hanswer
    | some token =>
      rw [htoken] at hanswer
      dsimp only at hanswer
      by_cases hseen : token ∈ f.seen
      · rw [answerPost_of_seen hseen] at hanswer
        cases hanswer
      · rw [answerPost_of_fresh hseen, h.new] at hanswer
        cases hbefore : f.refusalBefore? r with
        | some code =>
          rw [hbefore] at hanswer
          cases hanswer
        | none =>
          cases hafter : f.refusalAfter? r with
          | some code =>
            rw [hbefore, hafter] at hanswer
            cases hanswer
          | none =>
            rw [hbefore, hafter] at hanswer
            cases hanswer
            exact ⟨rfl, rfl⟩

theorem handle_acceptable (h : f.Acceptable r) (hc : f.canned = none) (ht : topicOf r = ⟨t⟩)
    (hnew : t ≠ 0) (url : String) :
    (f.handle url r).1 =
      .ok (if t ∈ f.topics then Answer.posted f.nextLongid t else .refused .badRequest).body := by
  obtain ⟨token, htoken, hfresh⟩ := h.token
  have hold : (topicOf r).isNew = false := by simp [ht, TopicId.isNew, hnew]
  have hcaptcha : (f.needsCaptcha && (text? r "token").getD "" == "") = false := by
    simpa using h.captcha
  have hbefore : f.refusalBefore? r = if t ∈ f.topics then none else some .badRequest := by
    rw [refusalBefore?, hcaptcha, hold, ht]
    by_cases hmem : t ∈ f.topics <;> simp [hmem]
  rw [handle_answer h.online hc, answer, htoken]
  dsimp only
  rw [answerPost_of_fresh hfresh, hbefore, h.content, hold, ht]
  by_cases hmem : t ∈ f.topics
  · rw [if_pos hmem, if_pos hmem]
    rfl
  · rw [if_neg hmem, if_neg hmem]

/-- A topic that the forum has started has the low half of its post's number, the same as one
started before it if and only if the posts from that one on make up whole rounds. It is not thereby
known: an acceptable reply to it is accepted if and only if the topic was known at first or has been
added since. -/
theorem reply_accepted_iff_registered (f : Forum) (hc : f.canned = none) (xs : List Arrival)
    (url : String) (r : Fields) (n : UInt64) (t : UInt32)
    (hopens : (f.receiveAll xs).Opens url r n t) :
    t = n.toUInt32 ∧
      (∀ before url₁ r₁ n₁ t₁ between, xs = before ++ .form url₁ r₁ :: between →
        (f.receiveAll before).Opens url₁ r₁ n₁ t₁ →
          (t = t₁ ↔ UInt32.size ∣ (f.receiveAll before).newPosts (.form url₁ r₁ :: between))) ∧
      ∀ later url' r', topicOf r' = ⟨t⟩ → t ≠ 0 →
        let ys := xs ++ .form url r :: later
        let g := f.receiveAll ys
        g.Acceptable r' →
          (f.Registered ys t →
            (g.handle url' r').1 = .ok (Answer.posted g.nextLongid t).body) ∧
          (¬ f.Registered ys t →
            (g.handle url' r').1 = .ok (Answer.refused .badRequest).body) := by
  obtain ⟨-, hcanned, -⟩ := receiveAll_frame hc xs
  obtain ⟨hn, ht⟩ := hopens.eq hcanned
  refine ⟨ht, fun before url₁ r₁ n₁ t₁ between hxs h₁ => ?_, fun later url' r' ht' hnew => ?_⟩
  · obtain ⟨-, hcanned₁, -⟩ := receiveAll_frame hc before
    obtain ⟨hn₁, ht₁⟩ := h₁.eq hcanned₁
    obtain ⟨-, -, hnext⟩ := receiveAll_frame hcanned₁ (.form url₁ r₁ :: between)
    rw [← receiveAll_append, ← hxs, ← hn, ← hn₁] at hnext
    rw [ht, ht₁, hnext, toUInt32_add_ofNat]
  · intro ys g hacceptable
    obtain ⟨htopics, hcanned', -⟩ := receiveAll_frame hc ys
    rw [handle_acceptable hacceptable hcanned' ht' hnew, ← htopics t]
    exact ⟨fun h => by rw [if_pos h], fun h => by rw [if_neg h]⟩

def opening : Fields := (Payload.newPost { token := ⟨"first"⟩, message := "hello" }).fields

def replyTo (t : UInt32) : Fields :=
  (Payload.newPost { token := ⟨"second"⟩, message := "hello", topic := ⟨t⟩ }).fields

theorem accepted_registered :
    let f : Forum := {}
    let later : List Arrival := [.addTopic 1000 false]
    let g := f.receiveAll (.form "/api" opening :: later)
    f.canned = none ∧ (f.receiveAll []).Opens "/api" opening 1000 1000 ∧
      topicOf (replyTo 1000) = ⟨1000⟩ ∧ g.Acceptable (replyTo 1000) ∧
      (g.handle "/api" (replyTo 1000)).1 = .ok (Answer.posted 1001 1000).body := by
  intro f later g
  have hopens : (f.receiveAll []).Opens "/api" opening 1000 1000 := ⟨by decide, by decide +kernel⟩
  have htopic : topicOf (replyTo 1000) = ⟨1000⟩ := by decide +kernel
  have hacceptable : g.Acceptable (replyTo 1000) :=
    ⟨by decide, ⟨"second", by decide, by decide +kernel⟩, by decide, by decide +kernel⟩
  obtain ⟨-, -, hreply⟩ := reply_accepted_iff_registered f rfl [] "/api" opening 1000 1000 hopens
  have haccepted := (hreply later "/api" (replyTo 1000) htopic (by decide) hacceptable).1
  exact ⟨rfl, hopens, htopic, hacceptable, haccepted (.inr ⟨false, by simp [later]⟩)⟩

/-- An acceptable reply to a topic that has just been started is refused; and the number of a topic
that is started can be zero, and can be that of a topic that was added. -/
theorem refused_unregistered :
    let f : Forum := {}
    let g := f.receiveAll [.form "/api" opening]
    f.Opens "/api" opening 1000 1000 ∧ topicOf (replyTo 1000) = ⟨1000⟩ ∧
      g.Acceptable (replyTo 1000) ∧
      (g.handle "/api" (replyTo 1000)).1 = .ok (Answer.refused .badRequest).body ∧
      ({ nextLongid := 4294967296 } : Forum).Opens "/api" opening 4294967296 0 ∧
      ({ nextLongid := 7, topics := [7] } : Forum).Opens "/api" opening 7 7 :=
  ⟨⟨by decide, by decide +kernel⟩, by decide +kernel,
    ⟨by decide, ⟨"second", by decide, by decide +kernel⟩, by decide, by decide +kernel⟩,
    by decide +kernel, ⟨by decide, by decide +kernel⟩, ⟨by decide, by decide +kernel⟩⟩

end ForumClient.Forum
