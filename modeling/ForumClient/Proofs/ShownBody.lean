import ForumClient.Proofs.SessionRun
import Mathlib.Data.List.Induction

/-!
Which fragment the body of a post shows. A body that is shown keeps its state when another fragment
comes in; it starts again from the fragment at hand, and that is when a message is accepted, before
the fragment that follows the message has come.
-/

namespace ForumClient

namespace Html

mutual

def raws : Html μ → List Text
  | .text _ => []
  | .raw t => [t]
  | .element _ _ _ inner => rawsAll inner

def rawsAll : List (Html μ) → List Text
  | [] => []
  | h :: hs => raws h ++ rawsAll hs

end

mutual

@[simp] theorem raws_map (f : μ → ν) : (h : Html μ) → (h.map f).raws = h.raws
  | .text _ => rfl
  | .raw _ => rfl
  | .element tag attributes handler inner => by rw [map, raws, raws, rawsAll_mapAll f inner]

@[simp] theorem rawsAll_mapAll (f : μ → ν) : (hs : List (Html μ)) →
    rawsAll (mapAll f hs) = rawsAll hs
  | [] => rfl
  | h :: hs => by rw [mapAll, rawsAll, rawsAll, raws_map f h, rawsAll_mapAll f hs]

end

end Html

namespace ShownPost

theorem body_mount (s : Storage) (post : PostId) (html : Text) :
    (mount s post html).1.body = .ofHtml html := by
  rw [mount]
  split <;> rfl

end ShownPost

namespace PostPage

/-- The answer that came last, and the fragment that the body at hand was made from, as long as
nothing in it has been clicked. -/
structure Origin where
  latest : Option (Except Failure Text) := none
  made : Option Text := none

def Origin.text? (o : Origin) : Option Text := o.latest.bind (·.toOption)

def Origin.enter (o : Origin) : Move → Origin
  | .saved => { o with made := o.text? }
  | .answered _ (.ok html) =>
    { latest := some (.ok html), made := if o.text?.isSome then o.made else some html }
  | .answered _ (.error e) => { latest := some (.error e) }
  | .clicked => { o with made := none }
  | .other => o

def origin (log : List Move) : Origin := log.foldl Origin.enter {}

structure Origin.Agrees (o : Origin) (p : PostPage) : Prop where
  latest : p.fragment = o.latest
  shown : p.shown.isSome = o.text?.isSome
  made : ∀ html, o.made = some html → ∃ s, p.shown = some s ∧ s.body = .ofHtml html

variable {p q : PostPage} {m : Move} {log before after : List Move} {o : Origin} {html : Text}
  {s : ShownPost}

theorem raws_view (c : Config) (p : PostPage) : (p.view c).raws =
    match p.fragment, p.shown with
    | some (.ok _), some s => [s.body.document.render]
    | _, _ => [] := by
  have hquick : p.quick.view.raws = [] := rfl
  have hbody (s : ShownPost) : (viewShown c p.post s).raws = [s.body.document.render] := by
    simp [viewShown, PostBody.view, Html.raws, Html.rawsAll]
  rw [view, Html.raws, Html.rawsAll, Html.rawsAll, Html.rawsAll, Html.raws_map, hquick]
  cases p.fragment with
  | none => rfl
  | some r => cases r with
    | error e => rfl
    | ok html => cases p.shown with
      | none => rfl
      | some s => simp [hbody]

theorem Origin.Agrees.change (h : o.Agrees p) (here : p.shown = some s) {t : ShownPost}
    (hbody : ∀ html, s.body = .ofHtml html → t.body = .ofHtml html) :
    o.Agrees { p with shown := some t } where
  latest := h.latest
  shown := by rw [← h.shown, here]; rfl
  made html hmade := by
    obtain ⟨s₀, hs₀, hmade⟩ := h.made html hmade
    cases hs₀.symm.trans here
    exact ⟨t, rfl, hbody html hmade⟩

theorem Origin.text?_eq_some_iff : o.text? = some html ↔ o.latest = some (.ok html) := by
  rw [text?]
  cases o.latest with
  | none => simp
  | some r => cases r <;> simp [Except.toOption]

theorem renew_of_none (hp : p.shown = none) (storage : Storage) :
    p.renew storage = { p with generation := p.generation + 1 } := by
  simp [renew, hp]

theorem renew_of_some (hf : p.fragment = some (.ok html)) (hp : p.shown = some s)
    (storage : Storage) : p.renew storage =
      { p with
        generation := p.generation + 1
        shown := some { s with look := storage.foldLook, body := .ofHtml html } } := by
  simp [renew, hf, hp]

theorem Origin.Agrees.renew (h : o.Agrees p) (storage : Storage) :
    (o.enter .saved).Agrees (p.renew storage) := by
  have hshown := h.shown
  cases htext : o.text? with
  | none =>
    rw [htext, Option.isSome_none, Option.isSome_eq_false_iff, Option.isNone_iff_eq_none] at hshown
    rw [renew_of_none hshown, enter, htext]
    exact ⟨h.latest, h.shown, nofun⟩
  | some html =>
    rw [htext, Option.isSome_some] at hshown
    obtain ⟨s, hs⟩ := Option.isSome_iff_exists.mp hshown
    have hfragment : p.fragment = some (.ok html) := h.latest.trans (text?_eq_some_iff.mp htext)
    rw [renew_of_some hfragment hs, enter, htext]
    refine ⟨h.latest, congrArg Option.isSome htext.symm, fun html' hmade => ⟨_, rfl, ?_⟩⟩
    cases hmade
    rfl

theorem receive_ok_of_none (hp : p.shown = none) (storage : Storage) (html : Text) :
    (p.receive storage (.ok html)).1 =
      { p with
        fragment := some (.ok html)
        shown := some (ShownPost.mount storage p.post html).1 } := by
  simp [receive, hp]

theorem receive_ok_of_some (hp : p.shown = some s) (storage : Storage) (html : Text) :
    (p.receive storage (.ok html)).1 =
      { p with
        fragment := some (.ok html)
        shown := some { s with look := storage.foldLook } } := by
  simp [receive, hp]

theorem Origin.Agrees.receive (h : o.Agrees p) (storage : Storage) (place : Nat)
    (r : Except Failure Text) :
    (o.enter (.answered place r)).Agrees (p.receive storage r).1 := by
  cases r with
  | error e => exact ⟨rfl, rfl, nofun⟩
  | ok html =>
    have hshown := h.shown
    cases hp : p.shown with
    | none =>
      rw [hp] at hshown
      rw [receive_ok_of_none hp, enter, ← hshown]
      refine ⟨rfl, rfl, fun html' hmade => ⟨_, rfl, ?_⟩⟩
      cases hmade
      exact ShownPost.body_mount storage p.post html
    | some s =>
      rw [hp] at hshown
      rw [receive_ok_of_some hp, enter, ← hshown]
      refine ⟨rfl, rfl, fun html' hmade => ?_⟩
      have kept := h.change (t := { s with look := storage.foldLook }) hp fun _ hbody => hbody
      exact kept.made html' hmade

theorem Origin.Agrees.step (h : o.Agrees p) (hstep : Step p m q) : (o.enter m).Agrees q := by
  cases hstep with
  | saved host =>
    obtain ⟨latest, shown, made⟩ := h.renew host.storage
    exact ⟨latest, shown, made⟩
  | answered host fetches result =>
    apply Origin.Agrees.receive
    exact ⟨h.latest, h.shown, h.made⟩
  | clicked host slot here =>
    refine ⟨h.latest, ?_, nofun⟩
    have hshown := h.shown
    rw [here] at hshown
    exact hshown
  | polled host here =>
    apply h.change here
    intro html hbody
    rw [hbody]
    rfl
  | progress number loaded total here =>
    apply h.change here
    intro html hbody
    rw [hbody]
    rfl
  | folded fold look here => exact h.change here fun _ hbody => hbody
  | advanced | quick => exact ⟨h.latest, h.shown, h.made⟩

theorem origin_concat (log : List Move) (m : Move) :
    origin (log ++ [m]) = (origin log).enter m := by
  rw [origin, List.foldl_concat, origin]

theorem Reached.origin_agrees (h : Reached log p) : (origin log).Agrees p := by
  obtain ⟨post, quick, host, steps⟩ := h
  induction steps with
  | refl => exact ⟨rfl, rfl, nofun⟩
  | tail _ step ih =>
    rw [origin_concat]
    exact ih.step step

theorem isSome_text? {old : Text} (h : (origin log).made = some old) :
    (origin log).text?.isSome := by
  induction log using List.reverseRecOn with
  | nil => cases h
  | append_singleton log m ih =>
    rw [origin_concat] at h ⊢
    cases m with
    | saved => exact Option.isSome_of_eq_some h
    | answered place r => cases r with
      | error e => cases h
      | ok html => rfl
    | clicked => cases h
    | other => exact ih h

theorem origin_append_quiet (log : List Move) {after : List Move}
    (hafter : ∀ m ∈ after, m = .saved ∨ m = .other) :
    origin (log ++ after) =
      { origin log with
        made := if .saved ∈ after then (origin log).text? else (origin log).made } := by
  induction after generalizing log with
  | nil => simp
  | cons m after ih =>
    rw [List.append_cons, ih _ fun m hm => hafter m (List.mem_cons_of_mem _ hm), origin_concat]
    rcases hafter m List.mem_cons_self with rfl | rfl
    · simp [Origin.enter, Origin.text?]
    · simp [Origin.enter]

theorem Origin.Agrees.raws_view (h : o.Agrees p) (hlatest : o.latest = some (.ok html))
    {old : Text} (hmade : o.made = some old) (c : Config) :
    (p.view c).raws = [(Document.ofHtml old).render] := by
  obtain ⟨s, hs, hbody⟩ := h.made old hmade
  rw [PostPage.raws_view, h.latest, hlatest, hs]
  simp only [hbody]
  rfl

/-- What the page shows of a post after a fragment has come in, as long as nothing in the body has
been clicked since and no other answer has come. The fragment is shown if there was no body before
or a message has been accepted since; otherwise what is shown stays what it was made from. -/
theorem view_of_answered {route : Route} {host : Host} {inputs : List Session.Input}
    (hp : ((Session.start route host).run inputs).post? = some p) (c : Config) :
    Reached (Session.moves route host inputs) p ∧
    ∀ before place html after, Reached (before ++ .answered place (.ok html) :: after) p →
      (∀ m ∈ after, m = .saved ∨ m = .other) →
      ((origin before).text? = none ∨ .saved ∈ after →
        (p.view c).raws = [(Document.ofHtml html).render]) ∧
      ∀ old, (origin before).made = some old → .saved ∉ after →
        (p.view c).raws = [(Document.ofHtml old).render] := by
  refine ⟨Session.reached_moves hp, fun before place html after hlog hafter => ?_⟩
  have h := hlog.origin_agrees
  rw [List.append_cons, origin_append_quiet _ hafter, origin_concat] at h
  refine ⟨fun hmade => h.raws_view rfl ?_ c, fun old hold hsaved => h.raws_view rfl ?_ c⟩
  · by_cases hsaved : .saved ∈ after
    · rw [if_pos hsaved]
      rfl
    · have hnone := hmade.resolve_right hsaved
      rw [if_neg hsaved, Origin.enter, hnone]
      rfl
  · rw [if_neg hsaved, Origin.enter, if_pos (isSome_text? hold)]
    exact hold

def refreshed : List Session.Input :=
  Session.sending ++
    [.respond 0 (.text 200 "old"), Session.accepted, .respond 2 (.text 200 "new")]

def refreshedLog : List Move := [
  .other, .other, .other,
  .answered 0 (.ok "old".toList), .other, .other,
  .saved, .other, .other, .other,
  .answered 0 (.ok "new".toList), .other, .other]

theorem moves_refreshed : Session.moves (.post ⟨7⟩) (.bare []) refreshed = refreshedLog := by
  decide +kernel

theorem exists_refreshed :
    ∃ p, (Session.visited.run refreshed).post? = some p ∧ p.fetches = [] := by
  have hpage : (Session.visited.run refreshed).post?.map (·.fetches.isEmpty) = some true := by
    decide +kernel
  obtain ⟨p, hp, hdone⟩ := Option.map_eq_some_iff.mp hpage
  exact ⟨p, hp, List.isEmpty_iff.mp hdone⟩

theorem view_refreshed : ∃ p, (Session.visited.run refreshed).post? = some p ∧
    Session.moves (.post ⟨7⟩) (.bare []) refreshed = refreshedLog ∧
    (p.view {}).raws = [(Document.ofHtml "old".toList).render] := by
  obtain ⟨p, hp, -⟩ := exists_refreshed
  obtain ⟨hlog, hview⟩ := view_of_answered hp {}
  rw [moves_refreshed] at hlog ⊢
  have hstale := hview (refreshedLog.take 10) 0 "new".toList [.other, .other] hlog (by simp)
  exact ⟨p, hp, rfl, hstale.2 "old".toList rfl (by simp)⟩

/-- The last answer was the new fragment, nothing has been clicked, and it is not shown. -/
theorem stale_after_message : ∃ p, (Session.visited.run refreshed).post? = some p ∧
    Session.moves (.post ⟨7⟩) (.bare []) refreshed = refreshedLog ∧ .clicked ∉ refreshedLog ∧
      p.fetches = [] ∧ p.fragment = some (.ok "new".toList) ∧
      (p.view {}).raws ≠ [(Document.ofHtml "new".toList).render] := by
  obtain ⟨p, hp, hdone⟩ := exists_refreshed
  have hlog := Session.reached_moves hp
  rw [moves_refreshed] at hlog
  have h := hlog.origin_agrees
  refine ⟨p, hp, moves_refreshed, by decide, hdone, h.latest, ?_⟩
  have hview : (p.view {}).raws = [(Document.ofHtml "old".toList).render] := h.raws_view rfl rfl {}
  rw [hview]
  decide +kernel

end PostPage

end ForumClient
