import ForumClient.Proofs.SessionRun
import ForumClient.Proofs.StoredSettings
import ForumClient.Proofs.Within

namespace ForumClient

open Preferences

namespace Html

def selections (h : Html μ) : List (Option String) :=
  ((h.targets []).filter (·.tag == "select")).map (·.attributes.lookup "value")

end Html

namespace Storage

def ReadsSettings (s : Storage) : Prop :=
  s.readFault? imageViewKey = none ∧ s.readFault? foldLookKey = none

instance (s : Storage) : Decidable s.ReadsSettings := inferInstanceAs (Decidable (_ ∧ _))

end Storage

namespace Settings

def Message.choice : Message → Write
  | .imageView v => .imageView (.ofSetting (some v))
  | .foldLook v => .foldLook (.ofSetting (some v))

def Message.text (m : Message) : String := m.choice.text

def Message.index : Message → Nat
  | .imageView _ => 0
  | .foldLook _ => 1

def Message.value : Message → String
  | .imageView v => v
  | .foldLook v => v

def Message.input (m : Message) : Session.Input :=
  .event { tag := "select", index := m.index } (.change m.value)

variable {p : Settings} {m : Message} {s : Storage}

theorem key_choice (m : Message) : m.choice.key = m.key := by
  cases m <;> rfl

theorem write_eq_set (m : Message) (s : Storage) : m.write s = s.set m.key m.text := by
  rw [← key_choice, Message.text, ← perform_eq_set]
  cases m <;> rfl

theorem choose_of_writable (h : s.writeFault? m.key = none) :
    choose m p s = (.ok (), p.chosen m, (s.set m.key m.text).2) := by
  rw [choose, write_eq_set, Storage.set_of_writable h]

theorem choose_of_fault {e : Failure} (h : s.writeFault? m.key = some e) :
    choose m p s = (.error e, p, s) := by
  rw [choose, write_eq_set, Storage.set_of_fault h]

theorem storage_choose (m : Message) (p : Settings) (s : Storage) :
    (choose m p s).2.2 = (s.set m.key m.text).2 := by
  cases h : s.writeFault? m.key with
  | none => rw [choose_of_writable h]
  | some e => rw [choose_of_fault h, Storage.set_of_fault h]

theorem ofStorage_congr {t : Storage} (hs : s.ReadsSettings) (ht : t.ReadsSettings)
    (h : s.entries = t.entries) : ofStorage s = ofStorage t := by
  simp only [ofStorage, Storage.imageView, Storage.foldLook, Storage.setting?, Storage.get, hs.1,
    hs.2, ht.1, ht.2, h]

theorem ofStorage_set (hread : s.ReadsSettings) (hwrite : s.writeFault? m.key = none) :
    ofStorage (s.set m.key m.text).2 = (ofStorage s).chosen m := by
  cases m with
  | imageView v =>
    have hown : (s.set imageViewKey (ImageView.ofSetting (some v)).setting).2.imageView =
        .ofSetting (some v) := by
      rw [Storage.imageView, Storage.setting?_set_self hread.1 hwrite, ImageView.ofSetting_setting]
    have hother : (s.set imageViewKey (ImageView.ofSetting (some v)).setting).2.foldLook =
        s.foldLook := by
      rw [Storage.foldLook, Storage.setting?_set_of_ne (by decide), Storage.foldLook]
    exact congrArg₂ Settings.mk hown hother
  | foldLook v =>
    have hown : (s.set foldLookKey (FoldLook.ofSetting (some v)).setting).2.foldLook =
        .ofSetting (some v) := by
      rw [Storage.foldLook, Storage.setting?_set_self hread.2 hwrite, FoldLook.ofSetting_setting]
    have hother : (s.set foldLookKey (FoldLook.ofSetting (some v)).setting).2.imageView =
        s.imageView := by
      rw [Storage.imageView, Storage.setting?_set_of_ne (by decide), Storage.imageView]
    exact congrArg₂ Settings.mk hother hown

theorem fst_choose_ofStorage (hread : s.ReadsSettings) (m : Message) :
    (choose m (ofStorage s) s).2.1 = ofStorage (choose m (ofStorage s) s).2.2 := by
  cases h : s.writeFault? m.key with
  | none => rw [choose_of_writable h, ofStorage_set hread h]
  | some e => rw [choose_of_fault h]

theorem update_spec (p : Settings) (m : Message) (h : Host) :
    ((p.update m).run h).1 = (choose m p h.storage).2.1 ∧
      Host.Logs (fun _ => True) (h.withStored (choose m p h.storage).2.2)
        ((p.update m).run h).2 := by
  rcases hc : choose m p h.storage with ⟨result, p', s⟩
  have hkept : Host.Logs (fun _ => True) (h.withStored s) ((Host.keep m.key (result, s)).run h).2 :=
    Host.logs_keep (fun _ => trivial) result h
  rw [update, Act.run_bind, Act.run_get, hc]
  cases result with
  | ok => exact ⟨rfl, hkept⟩
  | error e => exact ⟨rfl, IsTrans.trans _ _ _ hkept (Host.within_record trivial _)⟩

theorem storage_update (p : Settings) (m : Message) (h : Host) :
    ((p.update m).run h).2.storage = (choose m p h.storage).2.2 := by
  rw [(update_spec p m h).2.storage, storage_choose, Host.storage_withStored]

end Settings

namespace Session

variable {s : Session} {p : Settings} {inputs : List Input}

theorem selections_view (hs : s.page = .settings p) :
    s.view.selections = [some p.imageView.setting, some p.foldLook.setting] := by
  rw [view, hs]
  rfl

theorem take_input (hs : s.page = .settings p) (m : Settings.Message) :
    s.take m.input = s.update (.settings m) := by
  rw [Settings.Message.input, take, dispatch, view, hs]
  cases m <;> rfl

theorem page_update_settings (hs : s.page = .settings p) (m : Settings.Message) :
    (s.update (.settings m)).page = .settings (Settings.choose m p s.host.storage).2.1 := by
  obtain ⟨route, page, host⟩ := s
  cases hs
  exact congrArg Page.settings (Settings.update_spec p m host).1

theorem storage_update_settings (hs : s.page = .settings p) (m : Settings.Message) :
    (s.update (.settings m)).host.storage = (Settings.choose m p s.host.storage).2.2 := by
  obtain ⟨route, page, host⟩ := s
  cases hs
  exact Settings.storage_update p m host

theorem page_take_settings (hs : s.page = .settings p) (m : Settings.Message) :
    (s.take m.input).page = .settings (Settings.choose m p s.host.storage).2.1 := by
  rw [take_input hs, page_update_settings hs]

theorem selections_take (hs : s.page = .settings p) (m : Settings.Message) :
    (s.take m.input).view.selections =
      if s.host.storage.writeFault? m.key = none then
        s.view.selections.set m.index (some m.text)
      else s.view.selections := by
  rw [selections_view (page_take_settings hs m), selections_view hs]
  cases h : s.host.storage.writeFault? m.key with
  | none =>
    rw [if_pos rfl, Settings.choose_of_writable h]
    cases m <;> rfl
  | some e => rw [if_neg nofun, Settings.choose_of_fault h]

theorem storage_take (hs : s.page = .settings p) (m : Settings.Message) :
    (s.take m.input).host.storage = (s.host.storage.set m.key m.text).2 := by
  rw [take_input hs, storage_update_settings hs, Settings.storage_choose]

def Current (s : Session) : Prop := ∀ p, s.page = .settings p → p = .ofStorage s.host.storage

theorem current_start (r : Route) (h : Host) : (start r h).Current := by
  intro p hp
  cases r with
  | board | topic | post => cases hp
  | settings =>
    cases hp
    rfl

theorem Current.update (hs : s.Current) (hread : s.host.storage.ReadsSettings) (m : Page.Message) :
    (s.update m).Current := by
  cases m with
  | visit r =>
    rw [Session.update]
    split
    · exact hs
    · exact current_start r s.host
  | composer | post =>
    intro p hp
    obtain ⟨route, page, host⟩ := s
    cases page with
    | composer | post => cases hp
    | settings q => exact hs p hp
  | settings m =>
    intro p' hp
    obtain ⟨route, page, host⟩ := s
    cases page with
    | composer | post => cases hp
    | settings p =>
      rw [page_update_settings rfl] at hp
      rw [storage_update_settings rfl]
      obtain rfl : p = .ofStorage host.storage := hs p rfl
      cases hp
      exact Settings.fst_choose_ofStorage hread m

theorem Current.withHost (hs : s.Current) {f : Host → Host}
    (hf : (f s.host).storage = s.host.storage) : (s.withHost f).Current := by
  intro p hp
  obtain ⟨route, page, host⟩ := s
  cases page with
  | composer | post => cases hp
  | settings q =>
    cases hp
    exact (hs p rfl).trans (congrArg Settings.ofStorage hf.symm)

def Keeps (s : Session) : Input → Prop
  | .browse b => (s.browse b).host.storage.entries = s.host.storage.entries
  | _ => True

/-- Nobody else writes to the store of the session, and the two settings can be read all along. Which
writes fail may be another thing at every moment. -/
def OwnsStore (s : Session) : List Input → Prop
  | [] => s.host.storage.ReadsSettings
  | i :: is => s.host.storage.ReadsSettings ∧ s.Keeps i ∧ (s.take i).OwnsStore is

instance (s : Session) : (i : Input) → Decidable (s.Keeps i)
  | .browse _ => inferInstanceAs (Decidable (_ = _))
  | .event .. | .expect .. | .respond .. | .settle .. | .progress .. | .endTransfer ..
  | .endScript .. => inferInstanceAs (Decidable True)

instance decidableOwnsStore (s : Session) : (inputs : List Input) → Decidable (s.OwnsStore inputs)
  | [] => inferInstanceAs (Decidable s.host.storage.ReadsSettings)
  | i :: is =>
    have := decidableOwnsStore (s.take i) is
    inferInstanceAs (Decidable (_ ∧ _))

theorem OwnsStore.reads (h : s.OwnsStore inputs) : s.host.storage.ReadsSettings := by
  cases inputs with
  | nil => exact h
  | cons i is => exact h.1

theorem Current.take (hs : s.Current) {i : Input} (hread : s.host.storage.ReadsSettings)
    (hkeeps : s.Keeps i) (hread' : (s.take i).host.storage.ReadsSettings) :
    (s.take i).Current := by
  have step := s.step_take i
  generalize hs' : s.take i = s' at step hread'
  cases step with
  | nothing => exact hs
  | @message m => exact hs.update hread m
  | browsed b => exact fun p hp => (hs p hp).trans (Settings.ofStorage_congr hread' hread hkeeps).symm
  | expected promises => exact hs
  | noticed => exact hs.withHost rfl
  | progressed => exact nofun
  | ended => exact hs.withHost rfl

theorem current_run (hs : s.Current) (h : s.OwnsStore inputs) :
    (s.run inputs).Current ∧ (s.run inputs).host.storage.ReadsSettings := by
  induction inputs generalizing s with
  | nil => exact ⟨hs, h⟩
  | cons i is ih => exact ih (hs.take h.1 h.2.1 h.2.2.reads) h.2.2

/-- After whatever has been done to a session, the settings, if they are open, show what the store
would give back. A choice at one of the two elements leaves the other element and every other entry
of the store as they are; it is shown and stored if it can be written, and otherwise nothing
changes. -/
theorem settings_show_stored {r : Route} {h : Host} (hown : (start r h).OwnsStore inputs)
    (hpage : ((start r h).run inputs).page = .settings p) :
    let s := (start r h).run inputs
    let stored := s.host.storage
    s.view.selections = [some stored.imageView.setting, some stored.foldLook.setting] ∧
      ∀ m : Settings.Message,
        let s' := s.take m.input
        (∃ p', s'.page = .settings p') ∧
        (∀ key, key ≠ m.key → s'.host.storage.get key = stored.get key) ∧
        (∀ i, i ≠ m.index → s'.view.selections[i]? = s.view.selections[i]?) ∧
        (stored.writeFault? m.key = none →
          s'.view.selections[m.index]? = some (some m.text) ∧
            s'.host.storage.get m.key = .ok (some m.text)) ∧
        (stored.writeFault? m.key ≠ none →
          s'.view.selections = s.view.selections ∧ s'.host.storage = stored) := by
  intro s stored
  obtain ⟨hcurrent, hread⟩ : s.Current ∧ stored.ReadsSettings :=
    current_run (current_start r h) hown
  have hp : p = .ofStorage stored := hcurrent p hpage
  refine ⟨by rw [selections_view hpage, hp]; rfl, fun m => ?_⟩
  intro s'
  have hshown : s'.view.selections =
      if stored.writeFault? m.key = none then s.view.selections.set m.index (some m.text)
      else s.view.selections := selections_take hpage m
  have hstored : s'.host.storage = (stored.set m.key m.text).2 := storage_take hpage m
  refine ⟨⟨_, page_take_settings hpage m⟩, fun key hkey => ?_, fun i hi => ?_,
    fun hwrite => ⟨?_, ?_⟩, fun hfault => ⟨?_, ?_⟩⟩
  · rw [hstored, Storage.get_set_of_ne hkey]
  · rw [hshown]
    split
    · exact List.getElem?_set_ne hi.symm
    · rfl
  · rw [hshown, if_pos hwrite, selections_view hpage]
    cases m <;> rfl
  · have hown : stored.readFault? m.key = none := by
      cases m
      · exact hread.1
      · exact hread.2
    rw [hstored, Storage.get_set_self hown hwrite]
  · rw [hshown, if_neg hfault]
  · obtain ⟨e, he⟩ := Option.ne_none_iff_exists'.mp hfault
    rw [hstored, Storage.set_of_fault he]

def stubborn : Browser where
  stored := .ofList [(imageViewKey, "popup"), (foldLookKey, "none")]
  faults := [("setItem image-view", "QuotaExceededError")]

def reluctant : Session := start .settings { config := {}, browser := some stubborn }

def choices : List Input := [
  (Settings.Message.imageView "expand").input,
  (Settings.Message.foldLook "gray").input,
  .browse { stored := .ofList [(imageViewKey, "popup"), (foldLookKey, "gray")] },
  (Settings.Message.imageView "expand").input,
  (Settings.Message.foldLook "gone").input]

theorem selections_choices : reluctant.OwnsStore choices ∧
    (∃ p, (reluctant.run choices).page = .settings p) ∧
    reluctant.view.selections = [some "tab", some "hide"] ∧
    (reluctant.run (choices.take 2)).view.selections = [some "tab", some "gray"] ∧
    (reluctant.run choices).view.selections = [some "expand", some "hide"] := by
  have hown : reluctant.OwnsStore choices := by decide +kernel
  refine ⟨hown, ⟨_, rfl⟩, by decide +kernel, by decide +kernel, ?_⟩
  exact (settings_show_stored hown rfl).1.trans (by decide +kernel)

end Session

end ForumClient
