import ForumClient.Proofs.Arrivals
import Mathlib.Data.List.Forall2

namespace ForumClient.Forum

inductive Corresponds : FormField Attachment → FormField Attachment → Prop
  | same (x : FormField Attachment) : Corresponds x x
  | token (a b : String) : Corresponds (.ofText "uuid" a) (.ofText "uuid" b)

abbrev DifferInToken : Fields → Fields → Prop := List.Forall₂ Corresponds

/-- Forums that have recorded such forms, and may have noted the tokens of the last ones. -/
structure DifferInNoted (a b : String) (g g' : Forum) : Prop where
  rest : g' = { g with requests := g'.requests, seen := g'.seen }
  requests : List.Forall₂ (fun x y => x.1 = y.1 ∧ DifferInToken x.2 y.2) g.requests g'.requests
  seen : g'.seen = g.seen ∨ ∃ ts, g.seen = a :: ts ∧ g'.seen = b :: ts

/-- A forum beside one that has recorded other requests and may have noted another token. -/
inductive SameBut (a : String) (f : Forum) : Forum → Prop
  | mk (requests : List (String × Fields)) {seen : List String}
      (noted : ∀ t, t ≠ a → (t ∈ seen ↔ t ∈ f.seen)) : SameBut a f { f with requests, seen }

variable {f g : Forum} {r r' : Fields} {a b token name url : String}
  {x : Arrival} {xs : List Arrival}

theorem differInToken_refl (r : Fields) : DifferInToken r r :=
  List.forall₂_same.mpr fun x _ => .same x

theorem differInToken_fields (d : Draft Attachment) (t : Token) :
    DifferInToken (Payload.newPost d).fields (Payload.newPost { d with token := t }).fields :=
  List.rel_append (List.rel_append (differInToken_refl _)
    (.cons (.same _) (.cons (.token _ _) (.cons (.same _) .nil)))) (differInToken_refl _)

theorem text?_eq (h : DifferInToken r r') (hname : name ≠ "uuid") : text? r name = text? r' name := by
  induction h with
  | nil => rfl
  | @cons x y r r' hxy _ ih =>
    rw [text?, text?] at ih ⊢
    cases hxy with
    | same => cases hx : x.name == name <;> simp [hx, ih]
    | token a b =>
      have hother : ("uuid" == name) = false := beq_eq_false_iff_ne.mpr hname.symm
      simpa [FormField.ofText, hother] using ih

theorem file?_eq (h : DifferInToken r r') : file? r = file? r' := by
  induction h with
  | nil => rfl
  | cons hxy _ ih =>
    rw [file?, file?] at ih ⊢
    rw [List.findSome?_cons, List.findSome?_cons, ih]
    cases hxy <;> rfl

theorem topicOf_eq (h : DifferInToken r r') : topicOf r = topicOf r' := by
  rw [topicOf, topicOf, text?_eq h (by decide)]

theorem refusalBefore?_congr (f : Forum) (h : DifferInToken r r') :
    f.refusalBefore? r = f.refusalBefore? r' := by
  rw [refusalBefore?, refusalBefore?, topicOf_eq h, text?_eq h (by decide)]

theorem refusalAfter?_congr (f : Forum) (h : DifferInToken r r') :
    f.refusalAfter? r = f.refusalAfter? r' := by
  rw [refusalAfter?, refusalAfter?, isShort, isShort, messageOf, messageOf, topicOf_eq h,
    file?_eq h, text?_eq h (by decide)]

theorem answer_congr (h : DifferInToken r r') (ha : text? r "uuid" = some a)
    (hb : text? r' "uuid" = some b) (hfresh : a ∉ f.seen) (hfresh' : b ∉ f.seen) :
    ∃ (reply : Answer) (noted : Bool) (next : UInt64),
      f.answer r = (reply, { f with
        seen := if noted then a :: f.seen else f.seen, nextLongid := next }) ∧
      f.answer r' = (reply, { f with
        seen := if noted then b :: f.seen else f.seen, nextLongid := next }) := by
  rw [answer, answer, ha, hb]
  dsimp only
  rw [answerPost_of_fresh hfresh, answerPost_of_fresh hfresh', refusalBefore?_congr f h,
    refusalAfter?_congr f h, topicOf_eq h]
  cases f.refusalBefore? r' with
  | some code => exact ⟨_, false, f.nextLongid, rfl, rfl⟩
  | none =>
    cases f.refusalAfter? r' with
    | some code => exact ⟨_, true, f.nextLongid, rfl, rfl⟩
    | none => exact ⟨_, true, f.nextLongid + 1, rfl, rfl⟩

theorem differInNoted_self (a b : String) (f : Forum) : DifferInNoted a b f f :=
  ⟨rfl, List.forall₂_same.mpr fun x _ => ⟨rfl, differInToken_refl x.2⟩, .inl rfl⟩

theorem handle_congr (h : DifferInToken r r') (ha : text? r "uuid" = some a)
    (hb : text? r' "uuid" = some b) (hfresh : a ∉ f.seen) (hfresh' : b ∉ f.seen) (url : String) :
    (f.handle url r).1 = (f.handle url r').1 ∧
      DifferInNoted a b (f.handle url r).2 (f.handle url r').2 := by
  have hrecorded : List.Forall₂ (fun x y => x.1 = y.1 ∧ DifferInToken x.2 y.2)
      (f.requests ++ [(url, r)]) (f.requests ++ [(url, r')]) :=
    List.rel_append (differInNoted_self a b f).requests (.cons ⟨rfl, h⟩ .nil)
  cases hon : f.offline with
  | true =>
    rw [handle_offline hon, handle_offline hon]
    exact ⟨rfl, differInNoted_self a b f⟩
  | false =>
    cases hc : f.canned with
    | some body =>
      rw [handle_canned hon hc, handle_canned hon hc]
      exact ⟨rfl, rfl, hrecorded, .inl rfl⟩
    | none =>
      obtain ⟨reply, noted, next, hr, hr'⟩ := answer_congr h ha hb hfresh hfresh'
      rw [handle_answer hon hc, handle_answer hon hc, hr, hr']
      refine ⟨rfl, rfl, hrecorded, ?_⟩
      cases noted with
      | false => exact .inl rfl
      | true => exact .inr ⟨f.seen, rfl, rfl⟩

theorem sameBut_self (a : String) (f : Forum) : SameBut a f f :=
  .mk f.requests fun _ _ => Iff.rfl

theorem sameBut_of_refused (ha : text? r "uuid" = some a)
    (hrefused : acknowledged? (f.handle url r).1 = none) : SameBut a f (f.handle url r).2 := by
  cases hon : f.offline with
  | true =>
    rw [handle_offline hon]
    exact sameBut_self a f
  | false =>
    cases hc : f.canned with
    | some body =>
      rw [handle_canned hon hc]
      exact .mk _ fun _ _ => Iff.rfl
    | none =>
      rw [handle_answer hon hc, answer, ha] at hrefused ⊢
      dsimp only at hrefused ⊢
      rcases f.answerPost_cases a r with
        ⟨code, hanswer, -⟩ | ⟨-, -, ⟨code, -, hanswer⟩ | ⟨topic, -, hanswer⟩⟩
      · rw [hanswer]
        exact .mk _ fun _ _ => Iff.rfl
      · rw [hanswer]
        exact .mk _ fun t ht => by simp [ht]
      · rw [hanswer, acknowledged?_body] at hrefused
        cases hrefused

theorem answer_sameBut (h : SameBut a f g) (ha : text? r "uuid" ≠ some a) :
    (f.answer r).1 = (g.answer r).1 ∧ SameBut a (f.answer r).2 (g.answer r).2 := by
  obtain @⟨requests, seen, noted⟩ := h
  rw [answer, answer]
  cases htoken : text? r "uuid" with
  | none => exact ⟨rfl, .mk requests noted⟩
  | some t =>
    have hseen := noted t (fun e => ha (e ▸ htoken))
    have hbefore : { f with requests, seen }.refusalBefore? r = f.refusalBefore? r := rfl
    have hafter : { f with requests, seen }.refusalAfter? r = f.refusalAfter? r := rfl
    have hnoted (t' : String) (ht' : t' ≠ a) : t' ∈ t :: seen ↔ t' ∈ t :: f.seen := by
      simp only [List.mem_cons, noted t' ht']
    dsimp only
    by_cases hold : t ∈ f.seen
    · rw [answerPost_of_seen hold, answerPost_of_seen (hseen.mpr hold), hbefore]
      exact ⟨rfl, .mk requests noted⟩
    · rw [answerPost_of_fresh hold, answerPost_of_fresh (mt hseen.mp hold), hbefore, hafter]
      cases f.refusalBefore? r with
      | some code => exact ⟨rfl, .mk requests noted⟩
      | none =>
        cases f.refusalAfter? r with
        | some code => exact ⟨rfl, .mk requests hnoted⟩
        | none =>
          exact ⟨rfl, .mk requests hnoted⟩

theorem SameBut.record (h : SameBut a f g) (rs rs' : List (String × Fields)) :
    SameBut a { f with requests := rs } { g with requests := rs' } := by
  obtain @⟨requests, seen, noted⟩ := h
  exact .mk rs' noted

theorem handle_sameBut (h : SameBut a f g) (ha : text? r "uuid" ≠ some a) (url : String) :
    (f.handle url r).1 = (g.handle url r).1 ∧ SameBut a (f.handle url r).2 (g.handle url r).2 := by
  have hoffline : g.offline = f.offline := by cases h; rfl
  have hcanned : g.canned = f.canned := by cases h; rfl
  cases hon : f.offline with
  | true =>
    rw [handle_offline hon, handle_offline (hoffline.trans hon)]
    exact ⟨rfl, h⟩
  | false =>
    cases hc : f.canned with
    | some body =>
      rw [handle_canned hon hc, handle_canned (hoffline.trans hon) (hcanned.trans hc)]
      exact ⟨rfl, h.record _ _⟩
    | none =>
      obtain ⟨hreply, hrest⟩ := answer_sameBut h ha
      rw [handle_answer hon hc, handle_answer (hoffline.trans hon) (hcanned.trans hc), hreply]
      exact ⟨rfl, hrest.record _ _⟩

theorem receive_sameBut (h : SameBut a f g) (hx : x.token? ≠ some a) :
    f.reply? x = g.reply? x ∧ SameBut a (f.receive x) (g.receive x) := by
  cases x with
  | form url r =>
    obtain ⟨hreply, hrest⟩ := handle_sameBut h hx url
    exact ⟨congrArg some hreply, hrest⟩
  | _ =>
    obtain @⟨requests, seen, noted⟩ := h
    exact ⟨rfl, .mk requests noted⟩

theorem replies_sameBut (h : SameBut a f g) (hxs : ∀ x ∈ xs, x.token? ≠ some a) :
    f.replies xs = g.replies xs ∧ SameBut a (f.receiveAll xs) (g.receiveAll xs) := by
  induction xs generalizing f g with
  | nil => exact ⟨rfl, h⟩
  | cons x xs ih =>
    rw [List.forall_mem_cons] at hxs
    obtain ⟨hreply, hstep⟩ := receive_sameBut h hxs.1
    obtain ⟨hreplies, hrest⟩ := ih hstep hxs.2
    exact ⟨by rw [replies, replies, hreply, hreplies], hrest⟩

/-- The forum looks at nothing of a token but whether it is new. Two forms that differ in their
tokens alone, both of them new, have one reply and leave the same forum but for the token that is
noted. And after a form that was not accepted, whatever comes with other tokens is answered as if
that form had never come. -/
theorem only_freshness_counts (f : Forum) (url : String) {r r' : Fields} {a b : String}
    (hr : DifferInToken r r') (ha : text? r "uuid" = some a) (hb : text? r' "uuid" = some b)
    (hfresh : a ∉ f.seen) (hfresh' : b ∉ f.seen) :
    (f.handle url r).1 = (f.handle url r').1 ∧
      DifferInNoted a b (f.handle url r).2 (f.handle url r').2 ∧
      (acknowledged? (f.handle url r).1 = none →
        let f' := (f.handle url r).2
        (∀ url₂ r₂, text? r₂ "uuid" ≠ some a → (f'.handle url₂ r₂).1 = (f.handle url₂ r₂).1) ∧
          ∀ xs : List Arrival, (∀ x ∈ xs, x.token? ≠ some a) → f'.replies xs = f.replies xs) := by
  obtain ⟨hreply, hnoted⟩ := handle_congr hr ha hb hfresh hfresh' url
  refine ⟨hreply, hnoted, fun hrefused => ?_⟩
  have hleft := sameBut_of_refused ha hrefused
  exact ⟨fun url₂ r₂ h₂ => (handle_sameBut hleft h₂ url₂).1.symm,
    fun xs hxs => (replies_sameBut hleft hxs).1.symm⟩

def hasty : Draft Attachment := { token := ⟨"first"⟩, message := "x" }

def corrected : Draft Attachment := { token := ⟨"second"⟩, message := "hello" }

theorem replies_corrected :
    let f : Forum := { seen := ["old"] }
    let r := (Payload.newPost hasty).fields
    let r' := (Payload.newPost { hasty with token := ⟨"other"⟩ }).fields
    let xs : List Arrival := [.form "/api" (Payload.newPost corrected).fields]
    DifferInToken r r' ∧ text? r "uuid" = some "first" ∧ text? r' "uuid" = some "other" ∧
      "first" ∉ f.seen ∧ "other" ∉ f.seen ∧ (f.handle "/api" r).1 = (f.handle "/api" r').1 ∧
      acknowledged? (f.handle "/api" r).1 = none ∧ (∀ x ∈ xs, x.token? ≠ some "first") ∧
      (f.handle "/api" r).2.replies xs = f.replies xs := by
  intro f r r' xs
  have hr : DifferInToken r r' := differInToken_fields hasty ⟨"other"⟩
  have ha : text? r "uuid" = some "first" := by decide
  have hb : text? r' "uuid" = some "other" := by decide
  have hrefused : acknowledged? (f.handle "/api" r).1 = none := by decide +kernel
  have hxs : ∀ x ∈ xs, x.token? ≠ some "first" := by decide
  obtain ⟨hreply, -, hforgets⟩ :=
    only_freshness_counts f "/api" hr ha hb (by decide) (by decide)
  exact ⟨hr, ha, hb, by decide, by decide, hreply, hrefused, hxs, (hforgets hrefused).2 xs hxs⟩

end ForumClient.Forum
