import ForumClient.Proofs.AnswerText
import Mathlib.Data.List.Infix

namespace ForumClient

namespace Payload

theorem text?_uuid_update (m : String) : Forum.text? (Payload.update m).fields "uuid" = none := rfl

theorem text?_uuid_newPost (d : Draft Attachment) :
    Forum.text? (Payload.newPost d).fields "uuid" = some d.token.text := by
  cases h : d.image <;> simp [Forum.text?, fields, imageField, FormField.ofText, FormField.text?, h]

end Payload

namespace Forum

inductive Event
  | request : (url : String) → Payload Attachment → Event
  | addTopic : UInt32 → (locked : Bool) → Event
  | requireCaptcha : Bool → Event
  | refuseImages : Bool → Event
  | setOffline : Bool → Event

def step (f : Forum) : Event → Forum
  | .request url p => (f.handle url p.fields).2
  | .addTopic topic locked => f.addTopic topic locked
  | .requireCaptcha on => { f with needsCaptcha := on }
  | .refuseImages on => { f with refusesImages := on }
  | .setOffline on => { f with offline := on }

def run (f : Forum) (es : List Event) : Forum := es.foldl step f

def acknowledged? (reply : Except Failure String) : Option Envelope :=
  (reply.bind Envelope.parse).toOption.filter (·.success)

def posting? (f : Forum) : Event → Option (String × Envelope)
  | .request url (.newPost d) =>
    (acknowledged? (f.handle url (Payload.newPost d).fields).1).map (d.token.text, ·)
  | _ => none

def postings (f : Forum) : List Event → List (String × Envelope)
  | [] => []
  | e :: es => (f.posting? e).toList ++ (f.step e).postings es

variable {f : Forum} {token : String} {fields : Fields} {es : List Event} {e : Event}

theorem acknowledged?_body (a : Answer) :
    acknowledged? (.ok a.body) = if a.envelope.success then some a.envelope else none := by
  rw [acknowledged?, Except.bind, Envelope.parse_body]
  cases a <;> rfl

theorem run_concat (f : Forum) (es : List Event) (e : Event) :
    f.run (es ++ [e]) = (f.run es).step e := by
  simp [run]

theorem answerPost_cases (f : Forum) (token : String) (fields : Fields) :
    (∃ code, f.answerPost token fields = (.refused code, f) ∧
      (f.refusalBefore? fields = some code ∨ token ∈ f.seen ∧ code = .badRequest)) ∨
    f.refusalBefore? fields = none ∧ token ∉ f.seen ∧
      ((∃ code, f.refusalAfter? fields = some code ∧
        f.answerPost token fields = (.refused code, { f with seen := token :: f.seen })) ∨
      (∃ topic, f.refusalAfter? fields = none ∧
        f.answerPost token fields = (.posted f.nextLongid topic,
          { f with seen := token :: f.seen, nextLongid := f.nextLongid + 1 }))) := by
  rw [answerPost]
  cases hbefore : f.refusalBefore? fields with
  | some code => exact .inl ⟨code, rfl, .inl rfl⟩
  | none =>
    by_cases hseen : token ∈ f.seen
    · exact .inl ⟨.badRequest, by simp [hseen], .inr ⟨hseen, rfl⟩⟩
    · refine .inr ⟨rfl, hseen, ?_⟩
      have hafter : { f with seen := token :: f.seen }.refusalAfter? fields =
          f.refusalAfter? fields := rfl
      cases h : f.refusalAfter? fields with
      | some code =>
        rw [h] at hafter
        exact .inl ⟨code, rfl, by simp [hseen, hafter]⟩
      | none =>
        rw [h] at hafter
        exact .inr ⟨_, rfl, by simp [hseen, hafter]; rfl⟩

theorem handle_offline (h : f.offline) (url : String) (fields : Fields) :
    f.handle url fields = (.error (.transport "connection refused"), f) := by
  rw [handle, if_pos h]

theorem handle_online (h : f.offline = false) (hc : f.canned = none) (url : String)
    (fields : Fields) :
    f.handle url fields =
      let f' := { f with requests := f.requests ++ [(url, fields)] }
      (.ok (f'.answer fields).1.body, (f'.answer fields).2) := by
  rw [handle, if_neg (by simp [h])]
  simp only [hc]

theorem answer_update (f : Forum) (m : String) :
    (f.answer (Payload.update m).fields).2 = f := by
  rw [answer, Payload.text?_uuid_update]

theorem answer_newPost (f : Forum) (d : Draft Attachment) :
    f.answer (Payload.newPost d).fields = f.answerPost d.token.text (Payload.newPost d).fields := by
  rw [answer, Payload.text?_uuid_newPost]

structure Keeps (f g : Forum) : Prop where
  topics : g.topics = f.topics
  locked : g.locked = f.locked
  nextLongid : g.nextLongid = f.nextLongid
  seen : f.seen ⊆ g.seen
  canned : g.canned = f.canned

theorem keeps_self (f : Forum) : f.Keeps f := ⟨rfl, rfl, rfl, fun _ h => h, rfl⟩

structure Posts (f g : Forum) (token : String) : Prop where
  topics : g.topics = f.topics
  locked : g.locked = f.locked
  nextLongid : g.nextLongid = f.nextLongid + 1
  fresh : token ∉ f.seen
  seen : g.seen = token :: f.seen
  canned : g.canned = f.canned

theorem request_cases (hc : f.canned = none) (url : String) (p : Payload Attachment) :
    f.posting? (.request url p) = none ∧ f.Keeps (f.step (.request url p)) ∨
    ∃ token topic,
      f.posting? (.request url p) = some (token, (Answer.posted f.nextLongid topic).envelope) ∧
        f.Posts (f.step (.request url p)) token := by
  cases hon : f.offline with
  | true =>
    have h := handle_offline hon url p.fields
    refine .inl ⟨?_, by rw [step, h]; exact f.keeps_self⟩
    cases p with
    | update m => rfl
    | newPost d => rw [posting?, h]; rfl
  | false =>
    cases p with
    | update m =>
      refine .inl ⟨rfl, ?_⟩
      rw [step, handle_online hon hc, answer_update]
      exact ⟨rfl, rfl, rfl, fun _ h => h, rfl⟩
    | newPost d =>
      have h := handle_online hon hc url (Payload.newPost d).fields
      simp only [answer_newPost] at h
      rw [posting?, step, h]
      rcases answerPost_cases
          { f with requests := f.requests ++ [(url, (Payload.newPost d).fields)] }
          d.token.text (Payload.newPost d).fields with
        ⟨code, ha, -⟩ | ⟨-, hfresh, ⟨code, -, ha⟩ | ⟨topic, -, ha⟩⟩
      · refine .inl ⟨?_, ?_⟩
        · simp only [ha, acknowledged?_body]
          rfl
        · rw [ha]
          exact ⟨rfl, rfl, rfl, fun _ h => h, rfl⟩
      · refine .inl ⟨?_, ?_⟩
        · simp only [ha, acknowledged?_body]
          rfl
        · rw [ha]
          exact ⟨rfl, rfl, rfl, fun _ h => List.mem_cons_of_mem _ h, rfl⟩
      · refine .inr ⟨d.token.text, topic, ?_, ?_⟩
        · simp only [ha, acknowledged?_body]
          rfl
        · rw [ha]
          exact ⟨rfl, rfl, rfl, hfresh, rfl, rfl⟩

theorem step_cases (hc : f.canned = none) (e : Event) :
    f.posting? e = none ∧ (f.step e).canned = none ∧ (f.step e).nextLongid = f.nextLongid ∧
        f.seen ⊆ (f.step e).seen ∨
      ∃ token topic,
        f.posting? e = some (token, (Answer.posted f.nextLongid topic).envelope) ∧
          f.Posts (f.step e) token := by
  cases e with
  | request url p =>
    rcases request_cases hc url p with ⟨hnone, hkeeps⟩ | hposts
    · exact .inl ⟨hnone, hkeeps.canned.trans hc, hkeeps.nextLongid, hkeeps.seen⟩
    · exact .inr hposts
  | addTopic topic locked => exact .inl ⟨rfl, hc, rfl, fun _ h => h⟩
  | requireCaptcha on => exact .inl ⟨rfl, hc, rfl, fun _ h => h⟩
  | refuseImages on => exact .inl ⟨rfl, hc, rfl, fun _ h => h⟩
  | setOffline on => exact .inl ⟨rfl, hc, rfl, fun _ h => h⟩

theorem token_notMem_seen (hc : f.canned = none) {x : String × Envelope} (h : x ∈ f.postings es) :
    x.1 ∉ f.seen := by
  induction es generalizing f with
  | nil => cases h
  | cons e es ih =>
    rw [postings] at h
    rcases step_cases hc e with ⟨hnone, hc', -, hseen⟩ | ⟨token, topic, hsome, hposts⟩
    · rw [hnone] at h
      exact fun hx => ih hc' h (hseen hx)
    · rw [hsome] at h
      rcases List.mem_cons.mp h with rfl | h
      · exact hposts.fresh
      · have := ih (hposts.canned.trans hc) h
        rw [hposts.seen] at this
        exact fun hx => this (List.mem_cons_of_mem _ hx)

theorem nodup_tokens (hc : f.canned = none) (es : List Event) :
    ((f.postings es).map Prod.fst).Nodup := by
  induction es generalizing f with
  | nil => exact List.nodup_nil
  | cons e es ih =>
    rw [postings]
    rcases step_cases hc e with ⟨hnone, hc', -, -⟩ | ⟨token, topic, hsome, hposts⟩
    · rw [hnone]
      exact ih hc'
    · have hc' := hposts.canned.trans hc
      rw [hsome]
      refine List.nodup_cons.mpr ⟨fun hmem => ?_, ih hc'⟩
      obtain ⟨x, hx, rfl⟩ := List.mem_map.mp hmem
      have := token_notMem_seen hc' hx
      rw [hposts.seen] at this
      exact this List.mem_cons_self

/-- Whether the counter never comes to its last value. -/
def CountsOn (f : Forum) (es : List Event) : Prop :=
  ∀ pre, pre <+: es → (f.run pre).nextLongid.toNat < UInt64.size - 1

instance (f : Forum) (es : List Event) : Decidable (f.CountsOn es) :=
  decidable_of_iff (∀ pre ∈ es.inits, (f.run pre).nextLongid.toNat < UInt64.size - 1) (by
    simp only [CountsOn, List.mem_inits])

theorem CountsOn.step (h : f.CountsOn (e :: es)) : (f.step e).CountsOn es :=
  fun pre hpre => h (e :: pre) (List.cons_prefix_cons.mpr ⟨rfl, hpre⟩)

theorem CountsOn.lt_succ (h : f.CountsOn es) : f.nextLongid < f.nextLongid + 1 := by
  have := h [] List.nil_prefix
  rw [UInt64.lt_iff_toNat_lt, UInt64.toNat_add]
  simp only [run, List.foldl_nil] at this
  have : UInt64.size = 2 ^ 64 := rfl
  have : (1 : UInt64).toNat = 1 := rfl
  omega

theorem longids_increase (hc : f.canned = none) (hcount : f.CountsOn es) :
    ∃ ids : List UInt64, (f.postings es).map (·.2.longid) = ids.map some ∧
      ids.Pairwise (· < ·) ∧ ∀ id ∈ ids, f.nextLongid ≤ id := by
  induction es generalizing f with
  | nil => exact ⟨[], rfl, .nil, nofun⟩
  | cons e es ih =>
    rw [postings]
    rcases step_cases hc e with ⟨hnone, hc', hnext, -⟩ | ⟨token, topic, hsome, hposts⟩
    · obtain ⟨ids, hids, hlt, hle⟩ := ih hc' hcount.step
      rw [hnext] at hle
      rw [hnone]
      exact ⟨ids, hids, hlt, hle⟩
    · obtain ⟨ids, hids, hlt, hle⟩ := ih (hposts.canned.trans hc) hcount.step
      rw [hposts.nextLongid] at hle
      have below : ∀ id ∈ ids, f.nextLongid < id := fun id hid =>
        UInt64.lt_of_lt_of_le hcount.lt_succ (hle id hid)
      rw [hsome]
      refine ⟨f.nextLongid :: ids, ?_, List.pairwise_cons.mpr ⟨below, hlt⟩, ?_⟩
      · rw [Option.toList_some, List.singleton_append, List.map_cons, hids]
        rfl
      · rw [List.forall_mem_cons]
        exact ⟨UInt64.le_refl _, fun id hid => UInt64.le_of_lt (below id hid)⟩

theorem canned_run (hc : f.canned = none) (es : List Event) : (f.run es).canned = none := by
  induction es generalizing f with
  | nil => exact hc
  | cons e es ih =>
    rcases step_cases hc e with ⟨-, hc', -, -⟩ | ⟨token, topic, -, hposts⟩
    · exact ih hc'
    · exact ih (hposts.canned.trans hc)

/-- Whatever requests and settings come in whatever order: a token brings at most one new post, the
numbers of new posts go up, and a request that is not acknowledged leaves the topics, the locks and
the counter as they were. -/
theorem token_posts_at_most_once (f : Forum) (es : List Event) (hc : f.canned = none)
    (hcount : f.CountsOn es) :
    ((f.postings es).map Prod.fst).Nodup ∧
      (∃ ids : List UInt64, (f.postings es).map (·.2.longid) = ids.map some ∧
        ids.Pairwise (· < ·)) ∧
      ∀ pre url p, acknowledged? ((f.run pre).handle url p.fields).1 = none →
        (f.run (pre ++ [.request url p])).topics = (f.run pre).topics ∧
          (f.run (pre ++ [.request url p])).locked = (f.run pre).locked ∧
          (f.run (pre ++ [.request url p])).nextLongid = (f.run pre).nextLongid := by
  obtain ⟨ids, hids, hlt, -⟩ := longids_increase hc hcount
  refine ⟨nodup_tokens hc es, ⟨ids, hids, hlt⟩, fun pre url p hrefused => ?_⟩
  rw [run_concat]
  rcases request_cases (canned_run hc pre) url p with ⟨-, hkeeps⟩ | ⟨token, topic, hsome, -⟩
  · exact ⟨hkeeps.topics, hkeeps.locked, hkeeps.nextLongid⟩
  · cases p with
    | update m => cases hsome
    | newPost d =>
      rw [posting?, hrefused] at hsome
      cases hsome

def retries : List Event :=
  let post (token message : String) (topic : TopicId := .new) : Event :=
    .request "/api" (.newPost { token := ⟨token⟩, message, topic })
  [post "a" "x", post "a" "hello", post "b" "hello", post "b" "hello", .addTopic 7 true,
    post "c" "hello" ⟨7⟩, .setOffline true, post "d" "hello", .setOffline false,
    .request "/api" (.update "hello"), post "d" "hello"]

theorem postings_retries :
    ({} : Forum).CountsOn retries ∧
      (({} : Forum).postings retries).map (fun x => (x.1, x.2.longid)) =
        [("b", some 1000), ("d", some 1001)] ∧
      ((({} : Forum).postings retries).map Prod.fst).Nodup :=
  ⟨by decide +kernel, by decide +kernel,
    (token_posts_at_most_once {} retries rfl (by decide +kernel)).1⟩

end Forum

end ForumClient
