import ForumClient.Proofs.Run

namespace ForumClient

open Markup

namespace Document

variable {d d' : Document} {op : Op} {parent p q : Slot.Path} {html : Text} {seg : Segment}

theorem at?_of_shown (h : d.at? parent html p = some seg)
    (hs : ∀ q r fragment, p = q ++ r → q ≠ [] → r ≠ [] →
      d.shown? (parent ++ q) = some fragment → d'.shown? (parent ++ q) = some fragment) :
    d'.at? parent html p = some seg := by
  induction p generalizing parent html with
  | nil => cases h
  | cons i p ih =>
    by_cases hp : p = []
    · subst hp
      exact h
    · obtain ⟨post, label, fragment, hi, hf, hat⟩ := (at?_cons_eq_some_iff hp).mp h
      refine (at?_cons_eq_some_iff hp).mpr
        ⟨post, label, fragment, hi, hs [i] p fragment rfl (by simp) hp hf, ih hat ?_⟩
      rintro q r fragment' rfl - hr hf'
      rw [List.append_assoc] at hf' ⊢
      exact hs (i :: q) r fragment' rfl (by simp) hr hf'

theorem shown?_perform {fragment : Text} (h : d.shown? p = some fragment)
    (hop : op.drops (Slot.name q) (d.answer op) = false)
    (hq : Slot.isUnder (Slot.name p) (Slot.name q)) :
    (d.perform op).shown? p = some fragment := by
  rw [shown?_eq_some_iff] at h ⊢
  rw [← Bool.not_eq_true, drops_iff] at hop
  rw [references_perform, if_neg]
  · cases hin : op.referenceInput? (Slot.name p) (d.answer op) with
    | none => exact h
    | some input =>
      cases input with
      | settle reply =>
        rw [h]
        rfl
      | toggle =>
        obtain ⟨rfl, post, label, hslot⟩ := referenceInput?_eq_toggle_iff.mp hin
        refine absurd ⟨_, post, rfl, ?_, hq⟩ hop
        rw [answer, clickReference_eq hslot, reference, h]
        rfl
  · rw [drops_iff]
    rintro ⟨id, post, rfl, ha, hid⟩
    exact hop ⟨id, post, rfl, ha, Slot.isUnder_trans hid hq⟩

theorem element?_perform (h : d.element? p = some seg)
    (hop : op.drops (Slot.name p) (d.answer op) = false) :
    (d.perform op).element? p = some seg := by
  rw [element?, html_perform]
  apply at?_of_shown h
  rintro q r fragment rfl hq hr hf
  exact shown?_perform hf hop ((Slot.isUnder_name_iff hq).mpr ⟨r, hr, rfl⟩)

structure Attached (d : Document) : Prop where
  reference : ∀ p r, d.references.get? (Slot.name p) = some r →
    ∃ post label, d.element? p = some (.reference post label)
  image : ∀ p i, d.images.get? (Slot.name p) = some i →
    ∃ thumbnail url, d.element? p = some (.image thumbnail url)

theorem attached_ofHtml (html : Text) : (ofHtml html).Attached where
  reference _ _ h := by cases h
  image _ _ h := by cases h

theorem Attached.not_entersImage (hd : d.Attached) : ¬ d.EntersImage [] d.html p := by
  rintro ⟨q, r, thumbnail, url, rfl, -, -, hat, hs⟩
  obtain ⟨fragment, hf⟩ := Option.isSome_iff_exists.mp hs
  obtain ⟨post, label, hq⟩ := hd.reference q _ (shown?_eq_some_iff.mp hf)
  cases hat.symm.trans hq

theorem Attached.element?_of_slot? (hd : d.Attached) (h : d.slot? (Slot.name p) = some seg) :
    d.element? p = some seg :=
  (element?_of_slot?_name h).resolve_right hd.not_entersImage

theorem Attached.element?_of_references_perform (hd : d.Attached) {r : Reference}
    (h : (d.perform op).references.get? (Slot.name p) = some r) :
    ∃ post label, d.element? p = some (.reference post label) := by
  rcases (references_of_perform h).2 with ⟨r', hr'⟩ | ⟨-, post, label, hslot⟩
  · exact hd.reference p r' hr'
  · exact ⟨post, label, hd.element?_of_slot? hslot⟩

theorem Attached.element?_of_images_perform (hd : d.Attached) {i : Image}
    (h : (d.perform op).images.get? (Slot.name p) = some i) :
    ∃ thumbnail url, d.element? p = some (.image thumbnail url) := by
  rcases (images_of_perform h).2 with ⟨i', hi'⟩ | ⟨-, thumbnail, url, hslot⟩
  · exact hd.image p i' hi'
  · exact ⟨thumbnail, url, hd.element?_of_slot? hslot⟩

theorem Attached.perform (hd : d.Attached) (op : Op) : (d.perform op).Attached where
  reference p r h := by
    obtain ⟨post, label, hp⟩ := hd.element?_of_references_perform h
    exact ⟨post, label, element?_perform hp (references_of_perform h).1⟩
  image p i h := by
    obtain ⟨thumbnail, url, hp⟩ := hd.element?_of_images_perform h
    exact ⟨thumbnail, url, element?_perform hp (images_of_perform h).1⟩

theorem Attached.slot?_eq_some_iff {seg' : Segment} (hd : d.Attached)
    (h : d.element? p = some seg) :
    d.slot? (Slot.name p) = some seg' ↔
      (p ≠ [] ∧ ∀ i ∈ p, i < Slot.stepLimit) ∧ seg = seg' := by
  rw [slot?_name_eq_some_iff]
  refine and_congr_right fun hp => ?_
  constructor
  · intro hf
    have := hd.element?_of_slot? (slot?_name_eq_some_iff.mpr ⟨hp, hf⟩)
    exact Option.some.inj (h.symm.trans this)
  · intro e
    subst e
    exact follow?_of_at? h

theorem Attached.slot?_perform (hd : d.Attached) (h : d.element? p = some seg)
    (hop : op.drops (Slot.name p) (d.answer op) = false) :
    (d.perform op).slot? (Slot.name p) = d.slot? (Slot.name p) := by
  apply Option.ext
  intro seg'
  rw [hd.slot?_eq_some_iff h, (hd.perform op).slot?_eq_some_iff (element?_perform h hop)]

theorem attached_run (html : Text) (ops : List Op) : ((ofHtml html).run ops).Attached := by
  induction ops using List.reverseRecOn with
  | nil => exact attached_ofHtml html
  | append_singleton ops op ih =>
    rw [run_concat]
    exact ih.perform op

end Document

end ForumClient
