import ForumClient.Page.Composer
import ForumClient.Proofs.AnswerText
import ForumClient.Proofs.Trace
import ForumClient.Proofs.Words

/-!
The option that keeps the page after posting. The page stays if the marker occurs in one of the
words of the options, the box in the composer is ticked if it is one of them; a longer word around
the marker keeps the page behind an empty box.
-/

namespace ForumClient

open Submission

namespace Html

def box? : List (Html μ) → Option (String × Bool)
  | [.element _ attributes _ _, .text t] =>
    if ("type", "checkbox") ∈ attributes then some (t, attributes.contains ("checked", "true"))
    else none
  | _ => none

mutual

def boxes : Html μ → List (String × Bool)
  | .text _ => []
  | .raw _ => []
  | .element _ _ _ inner => (box? inner).toList ++ boxesAll inner

def boxesAll : List (Html μ) → List (String × Bool)
  | [] => []
  | h :: hs => boxes h ++ boxesAll hs

end

end Html

namespace Composer

theorem boxes_checkbox (options word : String) :
    (checkbox options word).boxes = [(" " ++ word, Options.has options word)] := by
  rw [checkbox]
  cases Options.has options word <;> rfl

theorem boxes_menu (marker : String) (c : Composer) : (c.menu marker).boxes =
    if c.menuOpen then
      [(" " ++ sage, Options.has c.options sage), (" " ++ marker, Options.has c.options marker)]
    else [] := by
  cases h : c.menuOpen with
  | false => simp [menu, h, Html.boxes, Html.boxesAll, Html.box?]
  | true => simp [menu, h, Html.boxes, Html.boxesAll, Html.box?, boxes_checkbox, textInput]

theorem boxes_panel (p : SignPanel) : (p.view.map Message.panel).boxes = [] := rfl

theorem boxes_view (marker : String) (c : Composer) :
    (c.view marker).boxes = (c.menu marker).boxes := by
  rw [view]
  cases c.topic.isNew <;> cases c.panel <;>
    simp [Html.boxes, Html.boxesAll, Html.box?, group, textInput, actions, boxes_panel]

theorem mem_boxes_iff {marker : String} {c : Composer} (hopen : c.menuOpen = true) (on : Bool) :
    (" " ++ marker, on) ∈ (c.view marker).boxes ↔ on = Options.has c.options marker := by
  rw [boxes_view, boxes_menu, if_pos hopen, List.mem_cons, List.mem_singleton, Prod.mk.injEq,
    Prod.mk.injEq, String.append_right_inj, eq_self, true_and, or_iff_right_iff_imp]
  rintro ⟨rfl, hon⟩
  exact hon

end Composer

namespace Submission

variable {c : Config} {r : Request α} {e : Envelope} {n : UInt64} {reply : Except Failure String}

theorem finish_accepted (next : Token) (hcallback : r.hasCallback = false)
    (hreply : reply.bind Envelope.parse = .ok e) (hsuccess : e.success = true)
    (hlongid : e.longid = some n) (hn : n ≠ 0) :
    finish (α := α) r.inFlight (outcome c r.inFlight next reply) =
      [.remember r.draft.optionsText,
        if c.noRedirectMarker.toList <:+: r.draft.optionsText.toList then .reload
        else .navigate (PostId.permalink ⟨n⟩ c)] ++ setTrigger r.hasTrigger false := by
  have houtcome : outcome c r.inFlight next reply = destination c r.inFlight e := by
    rw [outcome, hreply]
    exact if_pos hsuccess
  obtain ⟨effect, hfinish, hleads⟩ := leads_destination c r e
  rw [houtcome, hfinish]
  generalize destination c r.inFlight e = o at hleads
  cases hleads with
  | callback given => rw [hcallback] at given; cases given
  | permalink given longid ne_zero free url_eq =>
    cases hlongid.symm.trans longid
    rw [url_eq]
    exact congrArg (_ :: · :: _) (if_neg free).symm
  | reload given held => exact congrArg (_ :: · :: _) (if_pos (held n hlongid hn)).symm

theorem reload_mem_iff (next : Token) (hcallback : r.hasCallback = false)
    (hreply : reply.bind Envelope.parse = .ok e) (hsuccess : e.success = true)
    (hlongid : e.longid = some n) (hn : n ≠ 0) :
    let effects : List (Effect α) := finish r.inFlight (outcome c r.inFlight next reply)
    (.reload ∈ effects ↔ c.noRedirectMarker.toList <:+: r.draft.optionsText.toList) ∧
      (.navigate (PostId.permalink ⟨n⟩ c) ∈ effects ↔ .reload ∉ effects) := by
  dsimp only
  rw [finish_accepted next hcallback hreply hsuccess hlongid hn, setTrigger]
  split <;> split <;> simp [*]

/-- After an accepted post the page is kept exactly if the marker occurs in one of the words of the
options, and the box of a composer with these options is ticked exactly if it is one of them. So a
ticked box keeps the page, and the two differ where the marker occurs in longer words only. -/
theorem stays_iff_word_contains (next : Token) (hmarker : c.noRedirectMarker ≠ "")
    (hword : ∀ x ∈ c.noRedirectMarker.toList, Text.isBlank x = false)
    (hcallback : r.hasCallback = false) (hreply : reply.bind Envelope.parse = .ok e)
    (hsuccess : e.success = true) (hlongid : e.longid = some n) (hn : n ≠ 0) :
    let effects : List (Effect α) := finish r.inFlight (outcome c r.inFlight next reply)
    let words := Text.words r.draft.optionsText.toList
    let ticked := Options.has r.draft.optionsText c.noRedirectMarker
    (.reload ∈ effects ↔ ∃ w ∈ words, c.noRedirectMarker.toList <:+: w) ∧
      (.navigate (PostId.permalink ⟨n⟩ c) ∈ effects ↔ .reload ∉ effects) ∧
      (∀ composer : Composer, composer.menuOpen = true →
        composer.options = r.draft.optionsText → ∀ on,
          ((" " ++ c.noRedirectMarker, on) ∈ (composer.view c.noRedirectMarker).boxes ↔
            on = ticked)) ∧
      (ticked = true → .reload ∈ effects) ∧
      ((.reload ∈ effects ↔ ticked = true) ↔
        c.noRedirectMarker.toList ∈ words ∨ ∀ w ∈ words, ¬ c.noRedirectMarker.toList <:+: w) := by
  intro effects words ticked
  have hne : c.noRedirectMarker.toList ≠ [] := by simpa using hmarker
  obtain ⟨hreload, hnavigate⟩ := reload_mem_iff next hcallback hreply hsuccess hlongid hn
  have hkept : .reload ∈ effects ↔ ∃ w ∈ words, c.noRedirectMarker.toList <:+: w :=
    hreload.trans (Text.infix_iff_exists_word hne hword)
  have hticked : ticked = true ↔ c.noRedirectMarker.toList ∈ words := Options.has_iff _ _
  have hkeeps (h : c.noRedirectMarker.toList ∈ words) :
      ∃ w ∈ words, c.noRedirectMarker.toList <:+: w := ⟨_, h, List.infix_rfl⟩
  refine ⟨hkept, hnavigate, fun composer hopen hoptions on => ?_, fun h => ?_, ?_⟩
  · rw [Composer.mem_boxes_iff hopen, hoptions]
  · exact hkept.mpr (hkeeps (hticked.mp h))
  · rw [hkept, hticked]
    constructor
    · intro h
      by_cases hw : ∃ w ∈ words, c.noRedirectMarker.toList <:+: w
      · exact .inl (h.mp hw)
      · exact .inr fun w hmem hin => hw ⟨w, hmem, hin⟩
    · rintro (h | h)
      · exact iff_of_true (hkeeps h) h
      · have hnone : ¬ ∃ w ∈ words, c.noRedirectMarker.toList <:+: w :=
          fun ⟨w, hmem, hin⟩ => h w hmem hin
        exact iff_of_false hnone fun hmem => hnone (hkeeps hmem)

def topicWith (options : String) : Request String :=
  { draft := { token := ⟨"first"⟩, message := "hello", options := some options } }

theorem reload_sageNonoko : ({} : Config).noRedirectMarker ≠ "" ∧
    (∀ x ∈ ({} : Config).noRedirectMarker.toList, Text.isBlank x = false) ∧
    (topicWith "sage\tnonoko").hasCallback = false ∧
    (Effect.reload : Effect String) ∈ finish (topicWith "sage\tnonoko").inFlight
      (outcome {} (topicWith "sage\tnonoko").inFlight ⟨"second"⟩
        (.ok (Forum.Answer.posted 42 42).body)) := by
  have hword : ∀ x ∈ ({} : Config).noRedirectMarker.toList, Text.isBlank x = false := by
    have hall : (({} : Config).noRedirectMarker.toList.all (!Text.isBlank ·)) = true := by decide
    simpa only [List.all_eq_true, Bool.not_eq_true'] using hall
  refine ⟨by decide, hword, rfl, ?_⟩
  refine (stays_iff_word_contains ⟨"second"⟩ (by decide) hword rfl
    (Envelope.bind_parse_body (.posted 42 42)) rfl rfl (by decide)).1.mpr ?_
  decide +kernel

theorem reload_unticked :
    let composer : Composer :=
      { topic := .new, sender := { token := ⟨"first"⟩ }, options := "nonokox", menuOpen := true }
    composer.options = (topicWith "nonokox").draft.optionsText ∧
      (composer.view ({} : Config).noRedirectMarker).boxes =
        [(" sage", false), (" nonoko", false)] ∧
      (Effect.reload : Effect String) ∈ finish (topicWith "nonokox").inFlight
        (outcome {} (topicWith "nonokox").inFlight ⟨"second"⟩
          (.ok (Forum.Answer.posted 42 42).body)) := by
  intro composer
  refine ⟨rfl, by rw [Composer.boxes_view, Composer.boxes_menu]; decide +kernel, ?_⟩
  refine (reload_mem_iff ⟨"second"⟩ rfl (Envelope.bind_parse_body (.posted 42 42)) rfl rfl
    (by decide)).1.mpr ?_
  decide +kernel

end Submission

end ForumClient
