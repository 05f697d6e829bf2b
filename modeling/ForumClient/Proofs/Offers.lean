import ForumClient.Page.Session
import Mathlib.Data.List.Basic

namespace ForumClient

namespace Handler

def Makes (P : μ → Prop) : Handler μ → Prop
  | .click f => ∀ c, P (f c)
  | .input f => ∀ v, P (f v)
  | .change f => ∀ v, P (f v)
  | .link m => P m
  | .hold => True

theorem of_react {P : μ → Prop} {g : Handler μ} {e : Event} {m : μ} (hg : g.Makes P)
    (h : (g.react e).1 = some m) : P m := by
  cases g with
  | click f | input f | change f =>
    cases e <;> cases h
    exact hg _
  | link m' =>
    cases e with
    | click c =>
      rw [react] at h
      split at h <;> cases h
      exact hg
    | input | change | submit => cases h
  | hold => cases e <;> cases h

theorem react_map (f : μ → ν) (g : Handler μ) (e : Event) :
    ((g.map f).react e).1 = (g.react e).1.map f := by
  cases g with
  | click | input | change | hold => cases e <;> rfl
  | link m =>
    cases e with
    | click c => cases h : c.plain <;> simp [map, react, h]
    | input | change | submit => rfl

end Handler

namespace Html

namespace Target

def Admits (t : Target μ) : Event → Prop
  | .click _ => t.isDisabled = false
  | .input _ | .change _ | .submit => True

def Offers (P : μ → Prop) (t : Target μ) : Prop :=
  ∀ e, t.Admits e → (t.receive e).1 = [] ∨ ∃ m, (t.receive e).1 = [m] ∧ P m

def map (f : μ → ν) (t : Target μ) : Target ν := ⟨t.tag, t.attributes, t.handlers.map (.map f)⟩

theorem receive_map (f : μ → ν) (t : Target μ) (e : Event) :
    ((t.map f).receive e).1 = (t.receive e).1.map f := by
  simp only [receive, map, List.map_map, List.filterMap_map, List.map_filterMap]
  exact List.filterMap_congr fun g _ => g.react_map f e

theorem Offers.map {f : μ → ν} {P : ν → Prop} {t : Target μ} (ht : t.Offers (P ∘ f)) :
    (t.map f).Offers P := by
  intro e he
  have he' : t.Admits e := by cases e <;> exact he
  rw [receive_map]
  rcases ht e he' with hnone | ⟨m, hm, hP⟩
  · exact .inl (by rw [hnone]; rfl)
  · exact .inr ⟨f m, by rw [hm]; rfl, hP⟩

variable {t : Target μ} {handler : Option (Handler μ)} {forms : Nat}

theorem receive_within (ht : t.handlers = handler.toList ++ .replicate forms .hold) (e : Event) :
    (t.receive e).1 = (handler.bind fun g => (g.react e).1).toList := by
  have hforms : (List.replicate forms (.hold : Handler μ)).filterMap
      (Prod.fst ∘ fun g => g.react e) = [] := by
    refine List.filterMap_eq_nil_iff.mpr fun g hg => ?_
    rw [List.eq_of_mem_replicate hg]
    cases e <;> rfl
  have hown : handler.toList.filterMap (Prod.fst ∘ fun g => g.react e) =
      (handler.bind fun g => (g.react e).1).toList := by
    cases handler with
    | none => rfl
    | some g => cases h : (g.react e).1 <;> simp [h]
  calc
    (t.receive e).1 = t.handlers.filterMap (Prod.fst ∘ fun g => g.react e) := List.filterMap_map
    _ = _ := by rw [ht, List.filterMap_append, hforms, List.append_nil, hown]

theorem offers_within {P : μ → Prop} (ht : t.handlers = handler.toList ++ .replicate forms .hold)
    (h : ∀ e, t.Admits e → ∀ m, (handler.bind fun g => (g.react e).1) = some m → P m) :
    t.Offers P := by
  intro e he
  rw [receive_within ht]
  cases hm : handler.bind fun g => (g.react e).1 with
  | none => exact .inl rfl
  | some m => exact .inr ⟨m, rfl, h e he m hm⟩

end Target

mutual

theorem targets_map (f : μ → ν) (outer : List (Handler μ)) : (h : Html μ) →
    (h.map f).targets (outer.map (.map f)) = (h.targets outer).map (Target.map f)
  | .text _ => rfl
  | .raw _ => rfl
  | .element tag attributes handler inner => by
    have hown : (handler.map (Handler.map f)).toList ++ outer.map (Handler.map f) =
        (handler.toList ++ outer).map (Handler.map f) := by cases handler <;> rfl
    rw [map, targets, hown, targetsAll_map]
    rfl

theorem targetsAll_map (f : μ → ν) (outer : List (Handler μ)) : (hs : List (Html μ)) →
    targetsAll (outer.map (.map f)) (mapAll f hs) = (targetsAll outer hs).map (Target.map f)
  | [] => rfl
  | h :: hs => by
    rw [mapAll, targetsAll, targets_map, targetsAll_map, ← List.map_append]
    rfl

end

theorem mem_targetsAll_iff {outer : List (Handler μ)} {hs : List (Html μ)} {t : Target μ} :
    t ∈ targetsAll outer hs ↔ ∃ h ∈ hs, t ∈ h.targets outer := by
  induction hs with
  | nil => simp [targetsAll]
  | cons h hs ih => simp [targetsAll, ih]

def Offers (P : μ → Prop) (h : Html μ) : Prop :=
  ∀ forms, ∀ t ∈ h.targets (.replicate forms .hold), t.Offers P

variable {P : μ → Prop} {tag : String} {attributes : List Attribute} {inner : List (Html μ)}

theorem offers_text {s : String} : (text s : Html μ).Offers P := fun _ _ ht => nomatch ht

theorem offers_group (h : inner.Forall (Offers P)) :
    (element tag attributes none inner).Offers P := by
  intro forms t ht
  rcases List.mem_cons.mp ht with rfl | ht
  · exact Target.offers_within rfl fun _ _ m hm => nomatch hm
  · obtain ⟨i, hi, ht⟩ := mem_targetsAll_iff.mp ht
    exact List.forall_iff_forall_mem.mp h i hi forms t ht

theorem offers_form (h : inner.Forall (Offers P)) :
    (element tag attributes (some .hold) inner).Offers P := by
  intro forms t ht
  rcases List.mem_cons.mp ht with rfl | ht
  · refine Target.offers_within rfl fun e _ m hm => ?_
    cases e <;> cases hm
  · obtain ⟨i, hi, ht⟩ := mem_targetsAll_iff.mp ht
    exact List.forall_iff_forall_mem.mp h i hi (forms + 1) t ht

def Plain (inner : List (Html μ)) : Prop :=
  ∀ outer, ∀ t ∈ targetsAll outer inner, t.handlers = outer

theorem plain_nil : Plain ([] : List (Html μ)) := fun _ _ ht => nomatch ht

theorem plain_text {s : String} : Plain [(text s : Html μ)] := fun _ _ ht => nomatch ht

theorem plain_raw {s : Text} : Plain [(raw s : Html μ)] := fun _ _ ht => nomatch ht

theorem offers_control {handler : Handler μ} (hplain : Plain inner) (h : handler.Makes P) :
    (element tag attributes (some handler) inner).Offers P := by
  intro forms t ht
  have hhandlers : t.handlers = (some handler).toList ++ .replicate forms .hold := by
    rcases List.mem_cons.mp ht with rfl | ht
    · rfl
    · exact hplain _ t ht
  exact Target.offers_within hhandlers fun _ _ _ hm => Handler.of_react h hm

theorem offers_button {f : Click → μ} {name : String}
    (h : (attributes.lookup "disabled").isSome = false → ∀ c, P (f c)) :
    (element tag attributes (some (.click f)) [.text name]).Offers P := by
  intro forms t ht
  rcases List.mem_cons.mp ht with rfl | ht
  · refine Target.offers_within rfl fun e he m hm => ?_
    cases e with
    | click c =>
      cases hm
      exact h he c
    | input | change | submit => cases hm
  · cases ht

theorem Offers.map {f : μ → ν} {Q : ν → Prop} {h : Html μ} (hh : h.Offers (Q ∘ f)) :
    (h.map f).Offers Q := by
  intro forms t ht
  have hforms : List.replicate forms (.hold : Handler ν) =
      (List.replicate forms .hold).map (Handler.map f) := by rw [List.map_replicate]; rfl
  rw [hforms, targets_map] at ht
  obtain ⟨u, hu, rfl⟩ := List.mem_map.mp ht
  exact (hh forms u hu).map

end Html

open Html

theorem SignPanel.offers_view {P : Message → Prop} (hP : ∀ m, P m) (p : SignPanel) :
    p.view.Offers P := by
  refine offers_group ⟨offers_group ⟨offers_group offers_text, ?key⟩,
    offers_group ⟨offers_group offers_text, ?passphrase⟩, ?sign⟩
  case key => exact offers_control plain_nil fun _ => hP _
  case passphrase => exact offers_control plain_nil fun _ => hP _
  case sign => exact offers_control plain_text fun _ => hP _

namespace Composer

def Allows (c : Composer) (m : Message) : Prop := m = .send → c.sender.busy = false

theorem offers_checkbox (c : Composer) (options word : String) :
    (checkbox options word).Offers c.Allows :=
  offers_group ⟨offers_control plain_nil fun _ => nofun, offers_text⟩

theorem offers_textInput (c : Composer) (hint value : String) {m : String → Message}
    (hm : ∀ v, m v ≠ .send) : (textInput hint value m).Offers c.Allows :=
  offers_control plain_nil fun v h => absurd h (hm v)

theorem offers_menu (marker : String) (c : Composer) : (c.menu marker).Offers c.Allows := by
  have button : (Html.element "button" [("type", "button")] (some (.click fun _ => .toggleMenu))
      [.text "选项"]).Offers c.Allows := offers_control plain_text fun _ => nofun
  rw [menu]
  cases c.menuOpen with
  | false => exact offers_group button
  | true =>
    exact offers_group ⟨button, offers_group ⟨c.offers_checkbox _ _, c.offers_checkbox _ _,
      c.offers_textInput _ _ nofun⟩⟩

theorem offers_actions (c : Composer) : c.actions.Offers c.Allows := by
  refine offers_group ⟨offers_control plain_text fun _ => nofun,
    offers_button fun hfree _ _ => ?_⟩
  cases hbusy : c.sender.busy with
  | false => rfl
  | true => rw [hbusy] at hfree; cases hfree

theorem offers_view (marker : String) (c : Composer) : (c.view marker).Offers c.Allows := by
  refine offers_form ?_
  rw [List.forall_append, List.forall_append, List.forall_append]
  refine ⟨⟨⟨offers_group offers_text, ?subject⟩, ?fields⟩, ?panel⟩
  case subject =>
    split
    · exact offers_group (c.offers_textInput _ _ nofun)
    · trivial
  case fields =>
    exact ⟨offers_group (offers_control plain_nil fun _ => nofun),
      offers_group (offers_group trivial), c.offers_menu marker, c.offers_actions⟩
  case panel =>
    cases c.panel with
    | none => trivial
    | some p => exact (p.offers_view fun _ => nofun).map

end Composer

namespace QuickMessage

def Allows (q : QuickMessage) (m : Message) : Prop := m = .send → q.canSend = true

theorem offers_view (q : QuickMessage) : q.view.Offers q.Allows := by
  refine offers_group ⟨offers_control plain_nil fun _ => nofun,
    offers_button fun hfree _ _ => ?_⟩
  cases hsend : q.canSend with
  | true => rfl
  | false => rw [hsend] at hfree; cases hfree

theorem canSend_iff {q : QuickMessage} :
    q.canSend = true ↔ q.sender.busy = false ∧ q.text ≠ "" := by
  simp [canSend]

end QuickMessage

namespace PostPage

def Allows (p : PostPage) : Message → Prop
  | .quick m => p.quick.Allows m
  | .toggleFold | .body _ => True

theorem offers_viewShown (c : Config) (post : PostId) (s : ShownPost) (p : PostPage) :
    (viewShown c post s).Offers p.Allows := by
  refine offers_group ⟨offers_group ⟨?fold, offers_group offers_text⟩, offers_group ?body⟩
  case fold => exact offers_control plain_nil fun _ => trivial
  case body => exact Offers.map (offers_control plain_raw fun _ => trivial)

theorem offers_view (c : Config) (p : PostPage) : (p.view c).Offers p.Allows := by
  refine offers_group ⟨?post, Offers.map ?quick⟩
  case quick => exact p.quick.offers_view
  case post =>
    split
    · exact offers_group offers_text
    · exact offers_group offers_text
    · exact p.offers_viewShown c _ _
    · exact offers_text

end PostPage

namespace Settings

theorem plain_choices (choices : List (String × String)) :
    Plain (choices.map fun (v, name) =>
      (Html.element "option" [("value", v)] none [.text name] : Html Message)) := by
  intro outer t ht
  obtain ⟨_, hchoice, ht⟩ := mem_targetsAll_iff.mp ht
  obtain ⟨⟨v, name⟩, -, rfl⟩ := List.mem_map.mp hchoice
  rw [targets, targetsAll, targets, targetsAll, List.append_nil, List.mem_singleton] at ht
  rw [ht]
  rfl

theorem offers_view {P : Message → Prop} (hP : ∀ m, P m) (p : Settings) : p.view.Offers P := by
  have select (label value : String) (m : String → Message) (choices : List (String × String)) :
      (select label value m choices).Offers P :=
    offers_group ⟨offers_group offers_text, offers_control (plain_choices choices) fun v => hP _⟩
  exact offers_group ⟨offers_group offers_text, select _ _ _ _, select _ _ _ _⟩

end Settings

namespace Page

def Allows : Page → Message → Prop
  | .composer c, .composer m => c.Allows m
  | .post p, .post m => p.Allows m
  | _, _ => True

theorem allows_visit (page : Page) (r : Route) : page.Allows (.visit r) := by
  cases page <;> trivial

theorem offers_view (c : Config) (page : Page) : (page.view c).Offers page.Allows := by
  cases page with
  | composer p =>
    apply Offers.map
    exact p.offers_view c.noRedirectMarker
  | post p =>
    apply Offers.map
    exact p.offers_view c
  | settings p =>
    apply Offers.map
    exact p.offers_view fun _ => trivial

end Page

namespace Session

theorem offers_view (s : Session) : s.view.Offers s.page.Allows := by
  have link (target : Route) (name : String) :
      (link s.route target name).Offers s.page.Allows :=
    offers_control plain_text (s.page.allows_visit target)
  exact offers_group ⟨offers_group (offers_group ⟨link _ _, link _ _⟩),
    offers_group (s.page.offers_view _)⟩

def message? (s : Session) (at' : Selector) (e : Event) : Option Page.Message :=
  match s.view.find? at' with
  | none => none
  | some t => match e with
    | .click _ => if t.isDisabled then none else (t.receive e).1.head?
    | .input _ | .change _ | .submit => (t.receive e).1.head?

theorem dispatch_cases (s : Session) (at' : Selector) (e : Event) :
    s.message? at' e = none ∧ (s.dispatch at' e).2 = s ∨
      ∃ m, s.message? at' e = some m ∧ s.page.Allows m ∧ (s.dispatch at' e).2 = s.update m := by
  have sent (t : Html.Target Page.Message) (ht : s.view.find? at' = some t) (he : t.Admits e) :
      (t.receive e).1.head? = none ∧ (dispatch.send s e t).2 = s ∨
        ∃ m, (t.receive e).1.head? = some m ∧ s.page.Allows m ∧
          (dispatch.send s e t).2 = s.update m := by
    have hmem : t ∈ s.view.targets (.replicate 0 .hold) :=
      List.mem_of_mem_filter (List.mem_of_getElem? ht)
    rcases s.offers_view 0 t hmem e he with hnone | ⟨m, hm, hallows⟩
    · exact .inl ⟨congrArg List.head? hnone, congrArg (List.foldl update s) hnone⟩
    · exact .inr ⟨m, congrArg List.head? hm, hallows, congrArg (List.foldl update s) hm⟩
  rw [dispatch, message?]
  generalize ht : s.view.find? at' = found
  cases found with
  | none => exact .inl ⟨rfl, rfl⟩
  | some t =>
    cases e with
    | click c =>
      dsimp only
      split
      · exact .inl ⟨rfl, rfl⟩
      · next hdisabled => exact sent t ht (Bool.eq_false_iff.mpr hdisabled)
    | input | change | submit => exact sent t ht trivial

end Session

end ForumClient
