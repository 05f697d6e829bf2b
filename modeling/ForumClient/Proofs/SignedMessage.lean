import ForumClient.Proofs.SessionRun
import Mathlib.Data.List.Infix

/-!
What a signature does to the message. It is made of the message at the click, takes some time in
which the message can be edited, and then puts the signed text in place of whatever the message has
become.
-/

namespace ForumClient

open Signing (Request)

namespace SignPanel

def ended? : List (Request × Signature) → Host → Option (Request × String)
  | [], _ => none
  | (r, s) :: rest, h => match (s.poll r).run h with
    | (.done (.ok t), _) => some (r, t)
    | (.done (.error e), h') =>
      ended? rest ((Host.console ("[PGP] Signing failed: " ++ e.message)).run h').2
    | (.loading _, h') | (.asked _ _ _, h') => ended? rest h'

variable {xs : List (Request × Signature)} {p : SignPanel} {r : Request} {t : String} {h : Host}

theorem fst_pollEach (xs : List (Request × Signature)) (p : SignPanel) (h : Host) :
    ((pollEach xs p).run h).1.1 = (ended? xs h).map Prod.snd := by
  induction xs generalizing p h with
  | nil => rfl
  | cons x xs ih =>
    obtain ⟨r, s⟩ := x
    rw [pollEach, Act.run_bind, ended?]
    generalize (s.poll r).run h = polled
    obtain ⟨s', h'⟩ := polled
    cases s' with
    | done result => cases result with
      | ok t => rfl
      | error e => exact ih _ _
    | loading c => exact ih _ _
    | asked library stage answer => exact ih _ _

theorem mem_of_ended? (hended : ended? xs h = some (r, t)) : r ∈ xs.map Prod.fst := by
  induction xs generalizing h with
  | nil => cases hended
  | cons x xs ih =>
    obtain ⟨r', s⟩ := x
    rw [ended?] at hended
    rw [List.map_cons, List.mem_cons]
    split at hended
    · cases hended
      exact .inl rfl
    · exact .inr (ih hended)
    · exact .inr (ih hended)
    · exact .inr (ih hended)

theorem mem_of_pollEach (hr : r ∈ ((pollEach xs p).run h).1.2.signing.map Prod.fst) :
    r ∈ p.signing.map Prod.fst ∨ r ∈ xs.map Prod.fst := by
  induction xs generalizing p h with
  | nil => exact .inl hr
  | cons x xs ih =>
    obtain ⟨r', s⟩ := x
    -- one that is still under way keeps what it was asked for
    have waiting {p' : SignPanel} {s' : Signature} {h' : Host}
        (hp' : p'.signing = p.signing ++ [(r', s')])
        (hr : r ∈ ((pollEach xs p').run h').1.2.signing.map Prod.fst) :
        r ∈ p.signing.map Prod.fst ∨ r ∈ r' :: xs.map Prod.fst := by
      rcases ih hr with hr | hr
      · rw [hp', List.map_append, List.mem_append, List.map_singleton, List.mem_singleton] at hr
        exact hr.imp_right fun h => by rw [h]; exact List.mem_cons_self
      · exact .inr (List.mem_cons_of_mem _ hr)
    rw [pollEach, Act.run_bind] at hr
    rw [List.map_cons]
    generalize (s.poll r').run h = polled at hr
    obtain ⟨s', h'⟩ := polled
    cases s' with
    | done result => cases result with
      | ok t => exact .inl hr
      | error e => exact (ih hr).imp_right (List.mem_cons_of_mem _)
    | loading c => exact waiting rfl hr
    | asked library stage answer => exact waiting rfl hr

end SignPanel

namespace Composer

def request (c : Composer) (p : SignPanel) : Request := ⟨p.armoredKey, p.passphrase, c.message⟩

def Signs (c : Composer) (r : Request) : Prop :=
  ∃ p, c.panel = some p ∧ r ∈ p.signing.map Prod.fst

structure Becomes (c : Composer) (edit : Option String) (begun : Option Request)
    (signed : Option (Request × String)) (c' : Composer) : Prop where
  message : c'.message = (signed.map Prod.snd).getD (edit.getD c.message)
  panel : signed.isSome → c'.panel = none
  signs : ∀ r, c'.Signs r → c.Signs r ∨ begun = some r
  ended : ∀ r t, signed = some (r, t) → c.Signs r ∨ begun = some r

namespace Message

def edit? : Message → Option String
  | .message v => some v
  | .subject _ | .options _ | .toggleOption _ | .toggleMenu | .togglePanel | .panel _ | .send => none

def isSign : Message → Bool
  | .panel .sign => true
  | _ => false

end Message

def begun? (c : Composer) (m : Message) : Option Request :=
  if m.isSign then c.panel.map c.request else none

def signed? (c : Composer) (h : Host) (m : Message) : Option (Request × String) :=
  if m.isSign then
    c.panel.bind fun p => SignPanel.ended? (p.signing ++ [(c.request p, .loading .fresh)]) h
  else none

def woken? (c : Composer) (h : Host) : Option (Request × String) :=
  c.panel.bind fun p => SignPanel.ended? p.signing (c.sender.poll.run h).2

variable {c c' : Composer} {p : SignPanel} {edit : Option String} {begun : Option Request}
  {r : Request}

theorem Becomes.of_panel (hmessage : c'.message = edit.getD c.message)
    (hpanel : ∀ r, c'.Signs r → c.Signs r) : c.Becomes edit begun none c' where
  message := hmessage
  panel := nofun
  signs r hr := .inl (hpanel r hr)
  ended := nofun

theorem Becomes.of_polled {xs : List (Request × Signature)} (hp : p.signing = [])
    (hmessage : c'.message = c.message)
    (hxs : ∀ r ∈ xs.map Prod.fst, c.Signs r ∨ begun = some r) (h : Host) :
    let polled := ((SignPanel.pollEach xs p).run h).1
    c.Becomes none begun (SignPanel.ended? xs h) (c'.receiveSigned polled.1 polled.2) := by
  dsimp only
  rw [SignPanel.fst_pollEach]
  generalize hended : SignPanel.ended? xs h = ended
  cases ended with
  | some x =>
    refine ⟨rfl, fun _ => rfl, fun r ⟨_, hpanel, _⟩ => (nomatch hpanel), fun r t hx => ?_⟩
    cases hx
    exact hxs r (SignPanel.mem_of_ended? hended)
  | none =>
    refine ⟨hmessage, nofun, fun r ⟨_, hpanel, hr⟩ => ?_, nofun⟩
    cases hpanel
    rcases SignPanel.mem_of_pollEach hr with hr | hr
    · rw [hp] at hr
      cases hr
    · exact hxs r hr

theorem becomes_poll (c : Composer) (h : Host) :
    c.Becomes none none (c.woken? h) ((poll c).run h).1 := by
  rw [poll, woken?]
  simp only [Act.run_bind]
  cases hp : c.panel with
  | none => exact .of_panel rfl fun r ⟨_, hpanel, _⟩ => nomatch hpanel
  | some p =>
    let polled : Composer := { c with sender := (c.sender.poll.run h).1.2, panel := some p }
    have hmessage : polled.message = c.message := rfl
    exact .of_polled (p := { p with signing := [] }) rfl hmessage
      (fun r hr => .inl ⟨p, hp, hr⟩) _

theorem becomes_sign (c : Composer) (h : Host) :
    c.Becomes none (c.begun? (.panel .sign)) (c.signed? h (.panel .sign))
      ((c.update (.panel .sign)).run h).1 := by
  have hbegun : c.begun? (.panel .sign) = c.panel.map c.request := if_pos rfl
  have hsigned : c.signed? h (.panel .sign) = c.panel.bind fun p =>
      SignPanel.ended? (p.signing ++ [(c.request p, .loading .fresh)]) h := if_pos rfl
  rw [update, hbegun, hsigned]
  cases hp : c.panel with
  | none => exact .of_panel rfl fun _ => id
  | some p =>
    refine .of_polled (p := { p with busy := true, signing := [] }) rfl rfl (fun r hr => ?_) h
    rw [List.map_append, List.mem_append] at hr
    rcases hr with hr | hr
    · exact .inl ⟨p, hp, hr⟩
    · exact .inr (by rw [List.mem_singleton.mp hr]; rfl)

theorem becomes_update (c : Composer) (m : Message) (h : Host) :
    c.Becomes m.edit? (c.begun? m) (c.signed? h m) ((c.update m).run h).1 := by
  cases m with
  | panel m => cases m with
    | sign => exact c.becomes_sign h
    | armoredKey v | passphrase v =>
      rw [update]
      cases hp : c.panel with
      | none => exact .of_panel rfl fun _ => id
      | some p =>
        refine .of_panel rfl fun r ⟨_, hpanel, hr⟩ => ⟨p, hp, ?_⟩
        cases hpanel
        exact hr
  | togglePanel =>
    refine .of_panel rfl fun r ⟨_, hpanel, hr⟩ => ?_
    -- the panel that it opens has no signature yet
    replace hpanel : (if c.panel.isSome then none else some ({} : SignPanel)) = some _ := hpanel
    split at hpanel
    · cases hpanel
    · cases hpanel
      cases hr
  | toggleMenu =>
    cases hm : c.menuOpen <;> simp only [update, hm] <;> exact .of_panel rfl fun _ => id
  | subject | message | options | toggleOption | send => exact .of_panel rfl fun _ => id

end Composer

namespace Session

def composer? (s : Session) : Option Composer :=
  match s.page with
  | .composer c => some c
  | .post _ | .settings _ => none

def leaves (s : Session) (i : Input) : Prop :=
  ∃ r, s.notice? i = some (.message (.visit r)) ∧ r ≠ s.route

def tells? (s : Session) (i : Input) : Option Composer.Message :=
  match s.notice? i with
  | some (.message (.composer m)) => some m
  | _ => none

def edit? (s : Session) (i : Input) : Option String := (s.tells? i).bind (·.edit?)

def begun? (s : Session) (i : Input) : Option Request :=
  s.composer?.bind fun c => (s.tells? i).bind c.begun?

/-- The signature that comes to an end at an input, with the signed text. -/
def signed? (s : Session) (i : Input) : Option (Request × String) :=
  s.composer?.bind fun c => match s.notice? i with
    | some (.message (.composer m)) => c.signed? s.host m
    | some (.wake h) => c.woken? h
    | _ => none

def edits (s : Session) : List Input → List String
  | [] => []
  | i :: is => (s.edit? i).toList ++ (s.take i).edits is

/-- At a click in the panel, a signature of what the message says is begun. -/
def Clicks (s : Session) (click : Input) (r : Request) : Prop :=
  ∃ c p, s.composer? = some c ∧ c.panel = some p ∧
    s.notice? click = some (.message (.composer (.panel .sign))) ∧
    r = ⟨p.armoredKey, p.passphrase, c.message⟩

def HasPanel (s : Session) : Prop := ∃ c, s.composer? = some c ∧ c.panel.isSome

variable {s : Session} {c : Composer} {i click : Input} {between : List Input} {r : Request}

theorem run_concat (s : Session) (inputs : List Input) (i : Input) :
    s.run (inputs ++ [i]) = (s.run inputs).take i := by
  rw [run, List.foldl_concat]
  rfl

theorem edits_concat (s : Session) (inputs : List Input) (i : Input) :
    s.edits (inputs ++ [i]) = s.edits inputs ++ ((s.run inputs).edit? i).toList := by
  induction inputs generalizing s with
  | nil => rw [List.nil_append, edits, edits, edits, List.append_nil, List.nil_append, run,
      List.foldl_nil]
  | cons j inputs ih =>
    rw [List.cons_append, edits, edits, ih, List.append_assoc]
    rfl

theorem clicks_of_begun? (h : s.begun? i = some r) : s.Clicks i r := by
  rw [begun?, Option.bind_eq_some_iff] at h
  obtain ⟨c, hc, h⟩ := h
  obtain ⟨m, hm, h⟩ := Option.bind_eq_some_iff.mp h
  rw [Composer.begun?] at h
  split at h
  · next hsign =>
    obtain ⟨p, hp, rfl⟩ := Option.map_eq_some_iff.mp h
    refine ⟨c, p, hc, hp, ?_, rfl⟩
    rw [tells?] at hm
    split at hm
    · next hnotice =>
      cases hm
      rw [hnotice]
      unfold Composer.Message.isSign at hsign
      split at hsign
      · rfl
      · cases hsign
    · cases hm
  · cases h

theorem becomes_take (hc : s.composer? = some c) (hstay : ¬ s.leaves i) :
    ∃ c', (s.take i).composer? = some c' ∧
      c.Becomes (s.edit? i) (s.begun? i) (s.signed? i) c' := by
  have step := s.step_take i
  generalize s.take i = s' at step
  obtain ⟨route, page, host⟩ := s
  cases page with
  | post | settings => cases hc
  | composer q =>
    cases hc
    have idle {s : Session} (hs : s.composer? = some c) (hnotice : s.tells? i = none)
        (hsigned : s.signed? i = none) :
        c.Becomes (s.edit? i) (s.begun? i) (s.signed? i) c := by
      rw [hsigned, edit?, begun?, hs, hnotice]
      exact .of_panel rfl fun _ => id
    have woken {s : Session} {h : Host} (hs : s.composer? = some c)
        (hnotice : s.notice? i = some (.wake h)) :
        c.Becomes (s.edit? i) (s.begun? i) (s.signed? i) ((c.poll).run h).1 := by
      have htells : s.tells? i = none := by rw [tells?, hnotice]
      have hsigned : s.signed? i = c.woken? h := by rw [signed?, hs, hnotice]; rfl
      rw [hsigned, edit?, begun?, hs, htells]
      exact c.becomes_poll h
    cases step with
    | nothing notice =>
      exact ⟨c, rfl, idle rfl (by rw [tells?, notice]) (by rw [signed?, notice]; rfl)⟩
    | browsed b => exact ⟨c, rfl, idle rfl rfl rfl⟩
    | expected promises => exact ⟨c, rfl, idle rfl rfl rfl⟩
    | noticed replies promises scripts _ notice => exact ⟨_, rfl, woken rfl notice⟩
    | ended _ notice => exact ⟨_, rfl, woken rfl notice⟩
    | progressed page => cases page
    | @message m _ _ notice =>
      cases m with
      | visit r =>
        have hr : r = route := by_contra fun hr => hstay ⟨r, notice, hr⟩
        refine ⟨c, ?_, idle rfl (by rw [tells?, notice]) (by rw [signed?, notice]; rfl)⟩
        rw [update, if_pos hr]
        rfl
      | post | settings =>
        exact ⟨c, rfl, idle rfl (by rw [tells?, notice]) (by rw [signed?, notice]; rfl)⟩
      | composer m =>
        refine ⟨_, rfl, ?_⟩
        rw [edit?, begun?, signed?, tells?, notice]
        exact c.becomes_update m host

theorem take_of_leaves (h : s.leaves i) : ∃ r, s.take i = start r s.host := by
  obtain ⟨r, hnotice, hr⟩ := h
  have step := s.step_take i
  generalize s.take i = s' at step
  cases step with
  | nothing notice | noticed _ _ _ _ notice | progressed _ _ notice | ended _ notice =>
    rw [notice] at hnotice
    cases hnotice
  | browsed | expected => cases hnotice
  | message notice =>
    rw [notice] at hnotice
    cases hnotice
    exact ⟨r, if_neg hr⟩

theorem not_hasPanel_start (r : Route) (h : Host) : ¬ (start r h).HasPanel := by
  rintro ⟨c, hc, hpanel⟩
  cases r <;> cases hc <;> cases hpanel

theorem composer?_of_take (hstay : ¬ s.leaves i) (hc : (s.take i).composer? = some c) :
    ∃ c, s.composer? = some c := by
  have step := s.step_take i
  generalize s.take i = s' at step hc
  obtain ⟨route, page, host⟩ := s
  cases page with
  | composer c => exact ⟨c, rfl⟩
  | post | settings =>
    cases step with
    | nothing | browsed | expected | noticed | ended | progressed page => cases hc
    | @message m _ _ notice => cases m with
      | visit r =>
        have hr : r = route := by_contra fun hr => hstay ⟨r, notice, hr⟩
        rw [update, if_pos hr] at hc
        cases hc
      | composer | post | settings => cases hc

def Signs (s : Session) (r : Request) : Prop := ∃ c, s.composer? = some c ∧ c.Signs r

theorem HasPanel.of_signs (h : s.Signs r) : s.HasPanel := by
  obtain ⟨c, hc, p, hp, -⟩ := h
  exact ⟨c, hc, by rw [hp]; rfl⟩

theorem HasPanel.stays (h : (s.take i).HasPanel) : ¬ s.leaves i := by
  intro hleaves
  obtain ⟨r, hr⟩ := take_of_leaves hleaves
  rw [hr] at h
  exact not_hasPanel_start r s.host h

theorem Signs.of_take (h : (s.take i).Signs r) : s.Signs r ∨ s.begun? i = some r := by
  have hstay := (HasPanel.of_signs h).stays
  obtain ⟨c', hc', hr⟩ := h
  obtain ⟨c, hc⟩ := composer?_of_take hstay hc'
  obtain ⟨_, hbecomes, becomes⟩ := becomes_take hc hstay
  rw [hc'] at hbecomes
  cases hbecomes
  exact (becomes.signs r hr).imp_left fun hr => ⟨c, hc, hr⟩

/-- A signature is asked for by a click, and the panel has been there since. -/
structure Asked (s : Session) (click : Input) (between : List Input) (r : Request) : Prop where
  clicks : s.Clicks click r
  kept : ∀ w, w <+: between → ((s.take click).run w).HasPanel

theorem Signs.exists_asked {route : Route} {host : Host} {inputs : List Input}
    (h : ((start route host).run inputs).Signs r) :
    ∃ before click between, inputs = before ++ click :: between ∧
      ((start route host).run before).Asked click between r := by
  induction inputs using List.reverseRecOn with
  | nil => exact absurd (HasPanel.of_signs h) (not_hasPanel_start route host)
  | append_singleton inputs i ih =>
    have hpanel := HasPanel.of_signs h
    rw [run_concat] at h
    rcases h.of_take with h | hbegun
    · obtain ⟨before, click, between, rfl, asked⟩ := ih h
      refine ⟨before, click, between ++ [i], by simp, asked.clicks, fun w hw => ?_⟩
      rcases List.prefix_concat_iff.mp hw with rfl | hw
      · simpa [run] using hpanel
      · exact asked.kept w hw
    · refine ⟨inputs, i, [], rfl, clicks_of_begun? hbegun, fun w hw => ?_⟩
      rw [List.prefix_nil.mp hw]
      rwa [run_concat] at hpanel

theorem message_take (hc : s.composer? = some c) (hpanel : (s.take i).HasPanel) {c' : Composer}
    (hc' : (s.take i).composer? = some c') : c'.message = (s.edit? i).getD c.message := by
  obtain ⟨_, htake, becomes⟩ := becomes_take hc hpanel.stays
  rw [hc'] at htake
  cases htake
  obtain ⟨_, hsome, hpanel⟩ := hpanel
  rw [hc'] at hsome
  cases hsome
  have hsigned : s.signed? i = none := by
    cases hsigned : s.signed? i with
    | none => rfl
    | some x =>
      rw [becomes.panel (by rw [hsigned]; rfl)] at hpanel
      cases hpanel
  rw [becomes.message, hsigned]
  rfl

theorem Asked.message (h : s.Asked click between r)
    (hc : ((s.take click).run between).composer? = some c) :
    c.message = ((s.take click).edits between).getLast?.getD r.text := by
  induction between using List.reverseRecOn generalizing c with
  | nil =>
    obtain ⟨⟨c₀, p, hc₀, hp, hnotice, hr⟩, hkept⟩ := h
    have hedit : s.edit? click = none := by rw [edit?, tells?, hnotice]; rfl
    have hmessage := message_take hc₀ (hkept [] List.prefix_rfl) hc
    rw [hedit] at hmessage
    rw [hmessage, hr]
    rfl
  | append_singleton between i ih =>
    have hpanel := h.kept between (List.prefix_append between [i])
    have hpanel' := h.kept _ List.prefix_rfl
    obtain ⟨c₁, hc₁, -⟩ := hpanel
    have asked : s.Asked click between r :=
      ⟨h.clicks, fun w hw => h.kept w (hw.trans (List.prefix_append between [i]))⟩
    rw [run_concat] at hc hpanel'
    rw [message_take hc₁ hpanel' hc, edits_concat, ih asked hc₁]
    cases ((s.take click).run between).edit? i with
    | none => rw [Option.toList_none, List.append_nil]; rfl
    | some v => rw [Option.toList_some, List.getLast?_concat]; rfl

theorem signed?_stays {x : Request × String} (h : s.signed? i = some x) :
    ¬ s.leaves i ∧ s.edit? i = none := by
  rw [signed?, Option.bind_eq_some_iff] at h
  obtain ⟨c, -, h⟩ := h
  rw [leaves, edit?, tells?]
  generalize s.notice? i = notice at h
  split at h
  · next m =>
    refine ⟨fun ⟨_, hvisit, _⟩ => (nomatch hvisit), ?_⟩
    rw [Composer.signed?] at h
    split at h
    · next hsign => cases m <;> first | rfl | cases hsign
    · cases h
  · exact ⟨fun ⟨_, hvisit, _⟩ => (nomatch hvisit), rfl⟩
  · cases h

end Session

namespace Composer

open Session

/-- Only edits and signatures change the message. Whenever a signature comes to an end, it is one of
what the message said at a click in the panel, which has been there since. The signed text takes the
place of what the message says by then, which is what was signed exactly if the message has not been
edited since the click or the last edit has brought the same text back. -/
theorem signed_of_clicked {route : Route} {host : Host} {inputs : List Input} {c : Composer}
    (hc : ((start route host).run inputs).composer? = some c) (i : Input) :
    let s := (start route host).run inputs
    (s.signed? i = none → ¬ s.leaves i →
      ∃ c', (s.take i).composer? = some c' ∧ c'.message = (s.edit? i).getD c.message) ∧
    ∀ r t, s.signed? i = some (r, t) →
      (∃ c', (s.take i).composer? = some c' ∧ c'.message = t ∧ c'.panel = none) ∧
      ∃ before click between, inputs ++ [i] = before ++ click :: between ∧
        let clicked := (start route host).run before
        clicked.Clicks click r ∧
        (∀ w, w <+: between → w ≠ between → ((clicked.take click).run w).HasPanel) ∧
        (r.text = c.message ↔
          ∀ v, ((clicked.take click).edits between).getLast? = some v → v = r.text) := by
  dsimp only
  constructor
  · intro hsigned hstay
    obtain ⟨c', hc', becomes⟩ := becomes_take hc hstay
    exact ⟨c', hc', by rw [becomes.message, hsigned]; rfl⟩
  · intro r t hsigned
    obtain ⟨hstay, hedit⟩ := signed?_stays hsigned
    obtain ⟨c', hc', becomes⟩ := becomes_take hc hstay
    have hmessage : c'.message = t := by rw [becomes.message, hsigned]; rfl
    refine ⟨⟨c', hc', hmessage, becomes.panel (by rw [hsigned]; rfl)⟩, ?_⟩
    rcases becomes.ended r t hsigned with hr | hbegun
    · obtain ⟨before, click, between, rfl, asked⟩ := Signs.exists_asked ⟨c, hc, hr⟩
      have hrun : (start route host).run (before ++ click :: between) =
          (((start route host).run before).take click).run between := by simp [run]
      rw [hrun] at hc hedit
      refine ⟨before, click, between ++ [i], by simp, asked.clicks, fun w hw hne => ?_, ?_⟩
      · exact asked.kept w ((List.prefix_concat_iff.mp hw).resolve_left hne)
      · rw [asked.message hc, edits_concat, hedit, Option.toList_none, List.append_nil]
        cases ((((start route host).run before).take click).edits between).getLast? with
        | none => simp
        | some v => simp [eq_comm]
    · obtain ⟨c₀, p, hc₀, hp, hnotice, rfl⟩ := clicks_of_begun? hbegun
      rw [hc] at hc₀
      cases hc₀
      refine ⟨inputs, i, [], rfl, ⟨c, p, hc, hp, hnotice, rfl⟩, fun w hw hne => ?_, ?_⟩
      · exact absurd (List.prefix_nil.mp hw) hne
      · exact iff_of_true rfl nofun

def anyKey : Value := .object [("decrypt", .ok (.function "decrypt" (.ok .undefined)))]

def slowLibrary : Value := .object [
  ("key", .ok (.object [("readArmored", .ok (.function "readArmored"
    (.ok (.object [("keys", .ok (.array [anyKey]))]))))])),
  ("cleartext", .ok (.object [("fromText", .ok (.function "fromText" (.ok (.string "m"))))])),
  ("sign", .ok (.function "sign" (.ok (.pending "signature"))))]

def signingHost : Host where
  config := {}
  browser := some { globals := [("openpgp", slowLibrary)] }

def signing : List Input := [
  .expect ["signature"],
  .event { tag := "textarea" } (.input "one"),
  .event { tag := "button", index := 1 } (.click {}),
  .event { tag := "textarea", index := 1 } (.input "KEY"),
  .event { tag := "button", index := 3 } (.click {})]

def editing : Input := .event { tag := "textarea" } (.input "one two")

def signedOne : Value := .object [("data", .ok (.string "signed(one)"))]

def signature : Input := .settle "signature" (.ok signedOne)

theorem signed_unedited :
    let s := (start .board signingHost).run signing
    s.composer?.map (·.message) = some "one" ∧
      s.signed? signature = some (⟨"KEY", "", "one"⟩, "signed(one)") ∧
      (∃ c, (s.take signature).composer? = some c ∧ c.message = "signed(one)" ∧ c.panel = none) ∧
      ∃ before click between, signing ++ [signature] = before ++ click :: between ∧
        let clicked := (start .board signingHost).run before
        clicked.Clicks click ⟨"KEY", "", "one"⟩ ∧
        ∀ v, ((clicked.take click).edits between).getLast? = some v → v = "one" := by
  have hmessage : ((start .board signingHost).run signing).composer?.map (·.message) =
      some "one" := by decide +kernel
  have hsigned : ((start .board signingHost).run signing).signed? signature =
      some (⟨"KEY", "", "one"⟩, "signed(one)") := by decide +kernel
  obtain ⟨c, hc, hone⟩ := Option.map_eq_some_iff.mp hmessage
  obtain ⟨-, h⟩ := signed_of_clicked hc signature
  obtain ⟨hdone, before, click, between, hinputs, hclicks, -, hsame⟩ := h _ _ hsigned
  exact ⟨hmessage, hsigned, hdone, before, click, between, hinputs, hclicks, hsame.mp hone.symm⟩

theorem edit_lost :
    let s := (start .board signingHost).run (signing ++ [editing])
    s.composer?.map (·.message) = some "one two" ∧
      s.signed? signature = some (⟨"KEY", "", "one"⟩, "signed(one)") ∧
      ((s.take signature).composer?.map fun c => (c.message, c.panel.isSome)) =
        some ("signed(one)", false) := by
  refine ⟨by decide +kernel, by decide +kernel, by decide +kernel⟩

end Composer

end ForumClient
