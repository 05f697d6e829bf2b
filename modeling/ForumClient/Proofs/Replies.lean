import ForumClient.Proofs.Written

/-!
Requests and replies of a document. Each click that fetches sends a request for what its element
stands for, and the reply is put into the slot that was clicked, whenever it comes. A slot that
was dropped meanwhile may wait for something else by then.
-/

namespace ForumClient

open Markup

inductive Target
  | post : PostId → Target
  | image : (url : Text) → Target
  deriving DecidableEq

def Target.isImage : Target → Bool
  | .post _ => false
  | .image _ => true

def Markup.Segment.target? : Segment → Option Target
  | .html _ => none
  | .reference post _ => some (.post post)
  | .image _ url => some (.image url)

def Download.result? : Download → Option Text
  | .loaded url => some url
  | _ => none

namespace Document

variable {d : Document} {op : Op} {id : Text} {target target' : Target} {body : Text} {seg : Segment}

def target? (d : Document) (id : Text) : Option Target := (d.slot? id).bind Segment.target?

def content? (d : Document) (id : Text) : Target → Option Text
  | .post _ => (d.reference id).fragment?
  | .image _ => (d.image id).download.result?

def Waits (d : Document) (id : Text) : Target → Prop
  | .post _ => d.reference id = .loading
  | .image _ => (d.image id).download = .loading

instance (d : Document) (id : Text) : (target : Target) → Decidable (d.Waits id target)
  | .post _ => inferInstanceAs (Decidable (_ = _))
  | .image _ => inferInstanceAs (Decidable (_ = _))

def Op.settle (id : Text) (result : Except Failure Text) : Target → Op
  | .post _ => .settleReference id result
  | .image _ => .settleImage id result

theorem offered_settle {result : Except Failure Text} (target : Target) :
    d.Offered (.settle id result target) := by
  cases target <;> trivial

theorem drops_settle {k : Text} {result : Except Failure Text} {answer : Option Action} :
    (Op.settle id result target).drops k answer = false := by
  cases target <;> rfl

theorem fragment?_next {r : Reference} {input : Reference.Input}
    (h : (r.next input).fragment? = some body) :
    r.fragment? = some body ∨ r = .loading ∧ input = .settle (.ok body) := by
  cases input with
  | toggle => cases r <;> cases h
  | settle reply =>
    cases r with
    | collapsed | errored => cases h
    | expanded fragment => exact .inl h
    | loading =>
      cases reply with
      | error e => cases h
      | ok fragment =>
        cases h
        exact .inr ⟨rfl, rfl⟩

theorem result?_next {i : Image} {input : Image.Input}
    (h : (i.next input).download.result? = some body) :
    i.download.result? = some body ∨ i.download = .loading ∧ input = .settle (.ok body) := by
  obtain ⟨enlarged, download, label⟩ := i
  cases input with
  | toggle view =>
    cases view with
    | newTab => exact .inl h
    | expand => cases download <;> cases enlarged <;> exact .inl h
  | progress loaded total => cases download <;> exact .inl h
  | settle reply =>
    cases download with
    | unloaded | failed => cases h
    | loaded url => exact .inl h
    | loading =>
      cases reply with
      | error e => cases h
      | ok url =>
        cases h
        exact .inr ⟨rfl, rfl⟩

theorem content?_perform (h : (d.perform op).content? id target = some body) :
    d.content? id target = some body ∨
      op = .settle id (.ok body) target ∧ d.Waits id target := by
  cases target with
  | post post =>
    rw [content?, reference_perform] at h
    split at h
    · cases h
    · cases hin : op.referenceInput? id (d.answer op) with
      | none =>
        rw [hin] at h
        exact .inl h
      | some input =>
        rw [hin] at h
        rcases fragment?_next h with h | ⟨hw, rfl⟩
        · exact .inl h
        · exact .inr ⟨referenceInput?_eq_settle_iff.mp hin, hw⟩
  | image url =>
    rw [content?, image_perform] at h
    split at h
    · cases h
    · cases hin : op.imageInput? id (d.answer op) with
      | none =>
        rw [hin] at h
        exact .inl h
      | some input =>
        rw [hin] at h
        rcases result?_next h with h | ⟨hw, rfl⟩
        · exact .inl h
        · exact .inr ⟨imageInput?_eq_settle_iff.mp hin, hw⟩

theorem content?_settle (h : d.Waits id target) :
    (d.perform (.settle id (.ok body) target)).content? id target = some body := by
  cases target with
  | post post =>
    rw [content?, reference_perform, drops_settle]
    rw [Waits] at h
    simp [Op.settle, Op.referenceInput?, h, Reference.next, Reference.settle, Reference.fragment?]
  | image url =>
    rw [content?, image_perform, drops_settle]
    rw [Waits] at h
    simp [Op.settle, Op.imageInput?, h, Image.next, Image.settle, Download.result?]

theorem slot?_perform_of_content? (hd : d.Attached) (hn : (d.perform op).Named)
    (h : (d.perform op).content? id target = some body) :
    (d.perform op).slot? id = d.slot? id := by
  cases target with
  | post post =>
    have hr : (d.perform op).references.get? id = _ := get?_of_reference_ne fun e => by
      rw [content?, e] at h
      cases h
    obtain ⟨p, rfl⟩ := hn.reference id _ hr
    obtain ⟨post, label, hp⟩ := hd.element?_of_references_perform hr
    exact hd.slot?_perform hp (references_of_perform hr).1
  | image url =>
    have hi : (d.perform op).images.get? id = _ := get?_of_image_ne fun e => by
      rw [content?, e] at h
      cases h
    obtain ⟨p, rfl⟩ := hn.image id _ hi
    obtain ⟨thumbnail, url, hp⟩ := hd.element?_of_images_perform hi
    exact hd.slot?_perform hp (images_of_perform hi).1

theorem target?_perform {p : Slot.Path} (hd : d.Attached)
    (h : d.target? (Slot.name p) = some target)
    (hop : op.drops (Slot.name p) (d.answer op) = false) :
    (d.perform op).target? (Slot.name p) = some target := by
  obtain ⟨seg, hslot, -⟩ := Option.bind_eq_some_iff.mp h
  rw [target?, hd.slot?_perform (hd.element?_of_slot? hslot) hop]
  exact h

theorem content?_congr (h : target.isImage = target'.isImage) :
    d.content? id target = d.content? id target' := by
  cases target <;> cases target' <;> first | rfl | cases h

theorem waits_congr (h : target.isImage = target'.isImage) :
    d.Waits id target ↔ d.Waits id target' := by
  cases target <;> cases target' <;> first | rfl | cases h

theorem settle_eq_settle {id' : Text} {result result' : Except Failure Text}
    (h : Op.settle id result target = Op.settle id' result' target') :
    id = id' ∧ result = result' ∧ target.isImage = target'.isImage := by
  cases target <;> cases target' <;> cases h <;> exact ⟨rfl, rfl, rfl⟩

theorem isImage_of_waits (hd : d.Attached) (hn : d.Named) (hw : d.Waits id target)
    (ht : d.target? id = some target') : target.isImage = target'.isImage := by
  obtain ⟨seg, hslot, hseg⟩ := Option.bind_eq_some_iff.mp ht
  cases target with
  | post post =>
    have hr : d.references.get? id = _ := get?_of_reference_ne fun e => by
      rw [Waits, e] at hw
      cases hw
    obtain ⟨p, rfl⟩ := hn.reference id _ hr
    obtain ⟨post', label, hp⟩ := hd.reference p _ hr
    cases (hd.element?_of_slot? hslot).symm.trans hp
    cases hseg
    rfl
  | image url =>
    have hi : d.images.get? id = _ := get?_of_image_ne fun e => by
      rw [Waits, e] at hw
      cases hw
    obtain ⟨p, rfl⟩ := hn.image id _ hi
    obtain ⟨thumbnail, url', hp⟩ := hd.image p _ hi
    cases (hd.element?_of_slot? hslot).symm.trans hp
    cases hseg
    rfl

end Document

structure Request where
  slot : Text
  target : Target
  dropped : Bool := false
  deriving DecidableEq

def Document.Action.request? (slot : Text) : Action → Option Request
  | .reference .fetch post => some { slot, target := .post post }
  | .image .fetch url => some { slot, target := .image url }
  | _ => none

theorem Document.of_request? {d : Document} {op : Op} {r : Request} (ho : d.Offered op)
    (h : (d.answer op).bind (Action.request? op.slot) = some r) :
    (∃ p, r.slot = Slot.name p) ∧ d.target? r.slot = some r.target ∧
      op.drops r.slot (d.answer op) = false := by
  cases op with
  | clickReference id =>
    rcases clickReference_cases d id with ⟨post, label, hs⟩ | ⟨-, hnone⟩
    · rw [answer, clickReference_eq hs] at h ⊢
      cases ha : (d.reference id).toggle.1 <;> rw [ha] at h <;> cases h
      exact ⟨name_of_mem_written ho, congrArg (·.bind Segment.target?) hs, rfl⟩
    · rw [answer, hnone] at h
      cases h
  | clickImage id view =>
    rcases clickImage_cases d id view with ⟨thumbnail, url, hs⟩ | ⟨-, hnone⟩
    · rw [answer, clickImage_eq hs] at h ⊢
      cases ha : ((d.image id).toggle view).1 <;> rw [ha] at h <;> cases h
      exact ⟨name_of_mem_written ho, congrArg (·.bind Segment.target?) hs, rfl⟩
    · rw [answer, hnone] at h
      cases h
  | settleReference | imageProgress | settleImage => cases h

structure Traffic where
  document : Document
  pending : List Request := []
  answered : List (Target × Text) := []

namespace Traffic

inductive Event
  | click : Text → ImageView → Event
  | progress : Nat → (loaded : Float) → (total : Float) → Event
  | reply : Nat → Except Failure Text → Event

def ofHtml (html : Text) : Traffic := { document := .ofHtml html }

def perform (t : Traffic) (op : Document.Op) : Traffic where
  document := t.document.perform op
  pending :=
    t.pending.map (fun r =>
      { r with dropped := r.dropped || op.drops r.slot (t.document.answer op) }) ++
    ((t.document.answer op).bind (Document.Action.request? op.slot)).toList
  answered := t.answered

def click (t : Traffic) (id : Text) (view : ImageView) : Traffic :=
  if (t.document.answer (.clickReference id)).isSome then t.perform (.clickReference id)
  else t.perform (.clickImage id view)

def progress (t : Traffic) (n : Nat) (loaded total : Float) : Traffic :=
  match t.pending[n]? with
  | some ⟨slot, .image _, _⟩ => t.perform (.imageProgress slot loaded total)
  | _ => t

def reply (t : Traffic) (n : Nat) (result : Except Failure Text) : Traffic :=
  match t.pending[n]? with
  | some r =>
    let t := t.perform (.settle r.slot result r.target)
    { t with
      pending := t.pending.eraseIdx n
      answered := result.toOption.toList.map (r.target, ·) ++ t.answered }
  | none => t

def step (t : Traffic) : Event → Traffic
  | .click id view => t.click id view
  | .progress n loaded total => t.progress n loaded total
  | .reply n result => t.reply n result

def run (t : Traffic) (es : List Event) : Traffic := es.foldl step t

def Offered (t : Traffic) : Event → Prop
  | .click id _ => id ∈ t.document.written.map Prod.fst
  | _ => True

def Offers (t : Traffic) : List Event → Prop
  | [] => True
  | e :: es => t.Offered e ∧ (t.step e).Offers es

instance decidableOffered (t : Traffic) : (e : Event) → Decidable (t.Offered e)
  | .click _ _ => inferInstanceAs (Decidable (_ ∈ _))
  | .progress _ _ _ => .isTrue trivial
  | .reply _ _ => .isTrue trivial

instance decidableOffers (t : Traffic) : (es : List Event) → Decidable (t.Offers es)
  | [] => .isTrue trivial
  | e :: es =>
    have := decidableOffers (t.step e) es
    inferInstanceAs (Decidable (_ ∧ _))

/-- What a slot has got came in reply to a request for what the slot stands for. -/
def Honest (t : Traffic) : Prop :=
  ∀ id target body, t.document.target? id = some target →
    t.document.content? id target = some body → (target, body) ∈ t.answered

/-- A reply to a dropped request comes to a slot that waits for something else, and no reply about
that has said the same. -/
def Strays (t : Traffic) : Event → Prop
  | .reply n (.ok body) => ∃ r target, t.pending[n]? = some r ∧ r.dropped ∧
      t.document.Waits r.slot r.target ∧ t.document.target? r.slot = some target ∧
      (target, body) ∉ (r.target, body) :: t.answered
  | _ => False

structure Inv (t : Traffic) : Prop where
  attached : t.document.Attached
  named : t.document.Named
  asked : ∀ r ∈ t.pending, r.dropped = false →
    (∃ p, r.slot = Slot.name p) ∧ t.document.target? r.slot = some r.target

variable {t : Traffic} {e : Event} {es fs : List Event} {op : Document.Op}

theorem run_append (t : Traffic) (es fs : List Event) : t.run (es ++ fs) = (t.run es).run fs := by
  simp [run]

theorem offers_append : t.Offers (es ++ fs) ↔ t.Offers es ∧ (t.run es).Offers fs := by
  induction es generalizing t with
  | nil => simp [Offers, run]
  | cons e es ih =>
    rw [List.cons_append, Offers, Offers, ih, and_assoc]
    rfl

theorem inv_ofHtml (html : Text) : (ofHtml html).Inv where
  attached := Document.attached_ofHtml html
  named := Document.named_ofHtml html
  asked _ h := by cases h

theorem Inv.perform (ht : t.Inv) (h : t.document.Offered op) : (t.perform op).Inv where
  attached := ht.attached.perform op
  named := ht.named.perform h
  asked r hr hdrop := by
    have stays {slot : Text} {target : Target} (hp : ∃ p, slot = Slot.name p)
        (htarget : t.document.target? slot = some target)
        (hop : op.drops slot (t.document.answer op) = false) :
        (∃ p, slot = Slot.name p) ∧ (t.document.perform op).target? slot = some target := by
      obtain ⟨p, rfl⟩ := hp
      exact ⟨⟨p, rfl⟩, Document.target?_perform ht.attached htarget hop⟩
    rcases List.mem_append.mp hr with hr | hr
    · obtain ⟨r, hr', rfl⟩ := List.mem_map.mp hr
      obtain ⟨hold, hop⟩ := Bool.or_eq_false_iff.mp hdrop
      obtain ⟨hp, htarget⟩ := ht.asked r hr' hold
      exact stays hp htarget hop
    · obtain ⟨hp, htarget, hop⟩ := Document.of_request? h (Option.mem_toList.mp hr)
      exact stays hp htarget hop

theorem Inv.reply (ht : t.Inv) (n : Nat) (result : Except Failure Text) :
    (t.reply n result).Inv := by
  rw [Traffic.reply]
  split
  · next r hr =>
    have h : (t.perform (.settle r.slot result r.target)).Inv :=
      ht.perform (Document.offered_settle _)
    exact ⟨h.attached, h.named, fun r hr => h.asked r (List.mem_of_mem_eraseIdx hr)⟩
  · exact ht

theorem Inv.step (ht : t.Inv) (h : t.Offered e) : (t.step e).Inv := by
  cases e with
  | click id view =>
    rw [Traffic.step, click]
    split
    · exact ht.perform h
    · exact ht.perform h
  | progress n loaded total =>
    rw [Traffic.step, progress]
    split
    · exact ht.perform trivial
    · exact ht
  | reply n result => exact ht.reply n result

theorem Inv.run (ht : t.Inv) (h : t.Offers es) : (t.run es).Inv := by
  induction es generalizing t with
  | nil => exact ht
  | cons e es ih => exact ih (ht.step h.1) h.2

theorem honest_perform (ht : t.Inv) (h : t.document.Offered op) (hh : t.Honest)
    (hop : ∀ id body target, op ≠ .settle id (.ok body) target) : (t.perform op).Honest := by
  intro id target body htarget hbody
  have hslot := Document.slot?_perform_of_content? ht.attached (ht.named.perform h) hbody
  rcases Document.content?_perform hbody with hold | ⟨hsettle, -⟩
  · exact hh id target body (by rw [Document.target?, ← hslot]; exact htarget) hold
  · exact absurd hsettle (hop id body target)

theorem ne_settle_of_error {id slot : Text} {target target' : Target} {body : Text} {e : Failure} :
    Document.Op.settle slot (.error e) target' ≠ .settle id (.ok body) target := by
  intro h
  cases (Document.settle_eq_settle h).2.1

theorem honest_reply_iff {n : Nat} {r : Request} {body : Text} (ht : t.Inv) (hh : t.Honest)
    (hr : t.pending[n]? = some r) :
    (t.reply n (.ok body)).Honest ↔ ¬ t.Strays (.reply n (.ok body)) := by
  have hn : (t.document.perform (.settle r.slot (.ok body) r.target)).Named :=
    ht.named.perform (Document.offered_settle _)
  rw [Honest, reply, hr]
  constructor
  · rintro h ⟨r', target, hr', -, hw, htarget, hnew⟩
    cases hr.symm.trans hr'
    have hkind := Document.isImage_of_waits ht.attached ht.named hw htarget
    have hbody : (t.document.perform (.settle r.slot (.ok body) r.target)).content? r.slot r.target =
        some body := Document.content?_settle hw
    have hslot := Document.slot?_perform_of_content? ht.attached hn hbody
    refine hnew (h r.slot target body ?_ ?_)
    · rw [Document.target?, ← hslot] at htarget
      exact htarget
    · rw [Document.content?_congr hkind] at hbody
      exact hbody
  · intro hstray id target body' htarget hbody
    have hslot := Document.slot?_perform_of_content? ht.attached hn hbody
    have htarget' : t.document.target? id = some target := by
      rw [Document.target?, ← hslot]
      exact htarget
    rcases Document.content?_perform hbody with hold | ⟨hsettle, hw⟩
    · exact List.mem_cons_of_mem _ (hh id target body' htarget' hold)
    · obtain ⟨rfl, hresult, hkind⟩ := Document.settle_eq_settle hsettle
      cases hresult
      cases hdrop : r.dropped with
      | false =>
        obtain ⟨-, hasked⟩ := ht.asked r (List.mem_of_getElem? hr) hdrop
        cases hasked.symm.trans htarget'
        exact List.mem_cons_self
      | true =>
        -- dropped, and yet taken for what the slot waits for now
        by_contra hnew
        exact hstray ⟨r, target, hr, hdrop, (Document.waits_congr hkind).mpr hw, htarget', hnew⟩

theorem honest_step_iff (ht : t.Inv) (h : t.Offered e) (hh : t.Honest) :
    (t.step e).Honest ↔ ¬ t.Strays e := by
  cases e with
  | click slot view =>
    refine iff_of_true ?_ id
    rw [step, click]
    split
    · exact honest_perform ht h hh fun _ _ target => by cases target <;> nofun
    · exact honest_perform ht h hh fun _ _ target => by cases target <;> nofun
  | progress n loaded total =>
    refine iff_of_true ?_ id
    rw [step, progress]
    split
    · exact honest_perform ht trivial hh fun _ _ target => by cases target <;> nofun
    · exact hh
  | reply n result =>
    cases hr : t.pending[n]? with
    | none =>
      have hnone : ¬ t.Strays (.reply n result) := by
        cases result with
        | error e => exact id
        | ok body =>
          rintro ⟨r, target, hr', -⟩
          cases hr.symm.trans hr'
      refine iff_of_true ?_ hnone
      rw [step, reply, hr]
      exact hh
    | some r =>
      cases result with
      | ok body => exact honest_reply_iff ht hh hr
      | error e =>
        refine iff_of_true ?_ id
        rw [step, reply, hr]
        exact honest_perform ht (Document.offered_settle _) hh fun _ _ _ => ne_settle_of_error

/-- A run shows under every slot only what was fetched for it, exactly if no reply strays. -/
theorem honest_iff_no_strays (html : Text) (es : List Event) (h : (ofHtml html).Offers es) :
    (∀ pre, pre <+: es → ((ofHtml html).run pre).Honest) ↔
      ∀ pre e, pre ++ [e] <+: es → ¬ ((ofHtml html).run pre).Strays e := by
  have inv {pre : List Event} (hpre : pre <+: es) : ((ofHtml html).run pre).Inv := by
    obtain ⟨rest, rfl⟩ := hpre
    exact (inv_ofHtml html).run (offers_append.mp h).1
  have offered {pre : List Event} {e : Event} (hpre : pre ++ [e] <+: es) :
      ((ofHtml html).run pre).Offered e := by
    obtain ⟨rest, rfl⟩ := hpre
    rw [List.append_assoc] at h
    exact (offers_append.mp h).2.1
  constructor
  · intro hall pre e hpre
    have hlt := (List.prefix_append pre [e]).trans hpre
    have := hall _ hpre
    rw [run_append] at this
    exact (honest_step_iff (inv hlt) (offered hpre) (hall _ hlt)).mp this
  · intro hnone pre hpre
    induction pre using List.reverseRecOn with
    | nil => nofun
    | append_singleton pre e ih =>
      have hlt := (List.prefix_append pre [e]).trans hpre
      rw [run_append]
      exact (honest_step_iff (inv hlt) (offered hpre) (ih hlt)).mpr (hnone _ _ hpre)

/-- A quote of post 1 is clicked, and while it waits, the post around it is shown again and now
quotes post 2 in its place. The reply about post 1 comes last. -/
def lateReply : List Event := [
  .click ['0'] .expand,
  .reply 0 (.ok (Document.quoteOf "1")),
  .click ['0', '.', '0'] .expand,
  .click ['0'] .expand,
  .click ['0'] .expand,
  .reply 1 (.ok (Document.quoteOf "2")),
  .click ['0', '.', '0'] .expand,
  .reply 0 (.ok ['h', 'i'])]

theorem shown_lateReply :
    ((ofHtml (Document.quoteOf "3")).run lateReply).document.target? ['0', '.', '0'] =
        some (.post ⟨2⟩) ∧
      ((ofHtml (Document.quoteOf "3")).run lateReply).document.content? ['0', '.', '0']
        (.post ⟨2⟩) = some ['h', 'i'] ∧
      (.post ⟨2⟩, ['h', 'i']) ∉ ((ofHtml (Document.quoteOf "3")).run lateReply).answered := by
  decide +kernel

theorem not_honest_lateReply :
    (ofHtml (Document.quoteOf "3")).Offers lateReply ∧
      ¬ ((ofHtml (Document.quoteOf "3")).run lateReply).Honest := by
  refine ⟨by decide +kernel, fun h => ?_⟩
  obtain ⟨htarget, hbody, hnew⟩ := shown_lateReply
  exact hnew (h _ _ _ htarget hbody)

theorem strays_lateReply :
    (ofHtml (Document.quoteOf "3")).Offers lateReply ∧
      ∃ pre e, pre ++ [e] <+: lateReply ∧ ((ofHtml (Document.quoteOf "3")).run pre).Strays e := by
  refine ⟨by decide +kernel, ?_⟩
  by_contra hnone
  simp only [not_exists, not_and] at hnone
  have honest := (honest_iff_no_strays _ _ (by decide +kernel)).mpr hnone lateReply List.prefix_rfl
  obtain ⟨htarget, hbody, hnew⟩ := shown_lateReply
  exact hnew (honest _ _ _ htarget hbody)

end Traffic

end ForumClient
