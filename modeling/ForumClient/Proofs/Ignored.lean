import ForumClient.Proofs.Respelling
import ForumClient.Proofs.Written

/-!
Names that the rendering does not write. Nothing is found under one and nothing happens to it,
unless it is a second spelling of a written name; a click on such a spelling keeps state under it,
which may still wait for a reply when what it spells is written no longer.
-/

namespace ForumClient

namespace Reference

theorem settle_of_ne_loading {r : Reference} (h : r ≠ .loading) (reply : Except Failure Text) :
    r.settle reply = r := by
  cases r with
  | loading => exact absurd rfl h
  | collapsed | expanded | errored => rfl

end Reference

namespace Image

variable {i : Image}

theorem progress_of_ne_loading (h : i.download ≠ .loading) (loaded total : Float) :
    i.progress loaded total = i := by
  rw [progress]
  split
  · next hd => exact absurd hd h
  · rfl

theorem settle_of_ne_loading (h : i.download ≠ .loading) (result : Except Failure Text) :
    i.settle result = i := by
  obtain ⟨enlarged, download, label⟩ := i
  cases download with
  | loading => exact absurd rfl h
  | unloaded | loaded | failed => cases result <;> rfl

end Image

namespace Table

variable {κ : Type u} {α : Type v} [LT κ] [DecidableEq κ] [KeyOrder κ]

theorem adjust_eq_self {t : Table κ α} {k : κ} {f : α → α}
    (h : ∀ a, t.get? k = some a → f a = a) : t.adjust k f = t := by
  apply ext_get?
  intro k'
  rw [get?_adjust]
  split
  · next e =>
    subst e
    cases ha : t.get? k' with
    | none => rfl
    | some a => exact congrArg some (h a ha)
  · rfl

end Table

open Markup

namespace Document

variable {d : Document} {html : Text} {ops : List Op} {op : Op} {id : Text} {seg : Segment}

/-- Nothing is found under a name, no click on it is heard and no operation under it changes the
document. -/
def Ignores (d : Document) (id : Text) : Prop :=
  d.slot? id = none ∧ ∀ op : Op, op.slot = id → d.answer op = none ∧ d.perform op = d

def Idle (d : Document) (id : Text) : Prop :=
  d.reference id ≠ .loading ∧ (d.image id).download ≠ .loading

theorem clickReference_of_slot?_eq_none (h : d.slot? id = none) :
    d.clickReference id = (none, d) := by
  rw [clickReference, h]

theorem clickImage_of_slot?_eq_none (h : d.slot? id = none) (view : ImageView) :
    d.clickImage id view = (none, d) := by
  rw [clickImage, h]

theorem settleReference_eq_self (h : d.reference id ≠ .loading) (reply : Except Failure Text) :
    d.settleReference id reply = d := by
  rw [settleReference, Table.adjust_eq_self]
  intro r hr
  apply Reference.settle_of_ne_loading
  rwa [reference, hr] at h

theorem adjust_images_eq_self {f : Image → Image} (h : (d.image id).download ≠ .loading)
    (hf : ∀ i : Image, i.download ≠ .loading → f i = i) :
    { d with images := d.images.adjust id f } = d := by
  rw [Table.adjust_eq_self]
  intro i hi
  apply hf
  rwa [image, hi] at h

theorem ignores_iff : d.Ignores id ↔ d.slot? id = none ∧ d.Idle id := by
  constructor
  · rintro ⟨hs, h⟩
    refine ⟨hs, fun hr => ?_, fun hi => ?_⟩
    · have hsettle := reference_perform d (.settleReference id (.error (.transport ""))) id
      rw [(h _ rfl).2, hr] at hsettle
      simp [Op.drops, Op.referenceInput?, Reference.next, Reference.settle] at hsettle
    · have hsettle := image_perform d (.settleImage id (.error (.transport ""))) id
      rw [(h _ rfl).2] at hsettle
      have := congrArg Image.download hsettle
      simp [Op.drops, Op.imageInput?, Image.next, Image.settle, hi] at this
  · rintro ⟨hs, hr, hi⟩
    refine ⟨hs, fun op hop => ?_⟩
    subst hop
    cases op with
    | clickReference id =>
      have hclick : d.clickReference id = (none, d) := clickReference_of_slot?_eq_none hs
      rw [answer, perform, hclick]
      exact ⟨rfl, rfl⟩
    | clickImage id view =>
      have hclick : d.clickImage id view = (none, d) := clickImage_of_slot?_eq_none hs view
      rw [answer, perform, hclick]
      exact ⟨rfl, rfl⟩
    | settleReference id reply => exact ⟨rfl, settleReference_eq_self hr reply⟩
    | imageProgress id loaded total =>
      exact ⟨rfl, adjust_images_eq_self hi fun _ h => Image.progress_of_ne_loading h loaded total⟩
    | settleImage id result =>
      exact ⟨rfl, adjust_images_eq_self hi fun _ h => Image.settle_of_ne_loading h result⟩

theorem Attached.slot?_eq_some_iff_spells (hd : d.Attached) : d.slot? id = some seg ↔
    ∃ p, Slot.Spells id p ∧ (Slot.name p, seg) ∈ d.written := by
  rw [slot?, Option.bind_eq_some_iff]
  simp only [Slot.path?_eq_some_iff, name_mem_written_iff]
  refine exists_congr fun p => and_congr_right fun _ => ⟨fun h => ?_, follow?_of_at?⟩
  have hat : d.at? [] d.html p = some seg ∨ d.EntersImage [] d.html p := at?_of_follow? h
  exact hat.resolve_right hd.not_entersImage

theorem Attached.slot?_eq_none_iff (hd : d.Attached) : d.slot? id = none ↔
    ∀ p, Slot.Spells id p → Slot.name p ∉ d.written.map Prod.fst := by
  rw [Option.eq_none_iff_forall_ne_some]
  constructor
  · intro h p hp hmem
    obtain ⟨⟨_, seg⟩, hseg, rfl⟩ := List.mem_map.mp hmem
    exact h seg (hd.slot?_eq_some_iff_spells.mpr ⟨p, hp, hseg⟩)
  · intro h seg hs
    obtain ⟨p, hp, hseg⟩ := hd.slot?_eq_some_iff_spells.mp hs
    exact h p hp (List.mem_map.mpr ⟨_, hseg, rfl⟩)

structure Spelled (d : Document) : Prop where
  reference : ∀ id r, d.references.get? id = some r → ∃ p, Slot.Spells id p
  image : ∀ id i, d.images.get? id = some i → ∃ p, Slot.Spells id p

theorem spells_of_slot? (h : d.slot? id = some seg) : ∃ p, Slot.Spells id p := by
  obtain ⟨p, hp, -⟩ := Option.bind_eq_some_iff.mp h
  exact ⟨p, Slot.path?_eq_some_iff.mp hp⟩

theorem Spelled.perform (hd : d.Spelled) (op : Op) : (d.perform op).Spelled where
  reference id r hr := by
    rcases (references_of_perform hr).2 with ⟨r', hr'⟩ | ⟨-, post, label, hs⟩
    · exact hd.reference id r' hr'
    · exact spells_of_slot? hs
  image id i hi := by
    rcases (images_of_perform hi).2 with ⟨i', hi'⟩ | ⟨-, thumbnail, url, hs⟩
    · exact hd.image id i' hi'
    · exact spells_of_slot? hs

theorem spelled_run (html : Text) (ops : List Op) : ((ofHtml html).run ops).Spelled := by
  induction ops using List.reverseRecOn with
  | nil => exact ⟨nofun, nofun⟩
  | append_singleton ops op ih =>
    rw [run_concat]
    exact ih.perform op

theorem idle_of_stateless (hr : ∀ r, d.references.get? id ≠ some r)
    (hi : ∀ i, d.images.get? id ≠ some i) : d.Idle id := by
  rw [Idle, reference, image, Option.eq_none_iff_forall_ne_some.mpr hr,
    Option.eq_none_iff_forall_ne_some.mpr hi]
  constructor <;> decide

theorem Spelled.idle (hd : d.Spelled) (h : ∀ p, ¬ Slot.Spells id p) : d.Idle id := by
  apply idle_of_stateless
  · intro r hr
    obtain ⟨p, hp⟩ := hd.reference id r hr
    exact h p hp
  · intro i hi
    obtain ⟨p, hp⟩ := hd.image id i hi
    exact h p hp

theorem Attached.idle {p : Slot.Path} (hd : d.Attached)
    (h : Slot.name p ∉ d.written.map Prod.fst) : d.Idle (Slot.name p) := by
  have hp (seg : Segment) : d.element? p ≠ some seg := fun hp =>
    h (List.mem_map.mpr ⟨_, name_mem_written_iff.mpr hp, rfl⟩)
  apply idle_of_stateless
  · intro r hr
    obtain ⟨post, label, hseg⟩ := hd.reference p r hr
    exact hp _ hseg
  · intro i hi
    obtain ⟨thumbnail, url, hseg⟩ := hd.image p i hi
    exact hp _ hseg

theorem Named.idle (hn : d.Named) (hd : d.Attached) (h : id ∉ d.written.map Prod.fst) :
    d.Idle id := by
  by_cases hid : ∃ p, id = Slot.name p
  · obtain ⟨p, rfl⟩ := hid
    exact hd.idle h
  · apply idle_of_stateless
    · exact fun r hr => hid (hn.reference id r hr)
    · exact fun i hi => hid (hn.image id i hi)

theorem Attached.slot?_eq_none_of_canonical (hd : d.Attached) (hid : Slot.Canonical id)
    (h : id ∉ d.written.map Prod.fst) : d.slot? id = none := by
  rw [Option.eq_none_iff_forall_ne_some]
  intro seg hs
  exact h (List.mem_map.mpr ⟨_, hd.mem_written_of_slot? hid hs, rfl⟩)

/-- A name that is not written is ignored unless it spells a written one or something is still
awaited under it; so plain names and texts that are no names are ignored. Where only written
names are clicked, nothing is awaited under others. -/
theorem ignores_unwritten_iff (html : Text) (ops : List Op) (id : Text)
    (h : id ∉ ((ofHtml html).run ops).written.map Prod.fst) :
    (((ofHtml html).run ops).Ignores id ↔
      (∀ p, Slot.Spells id p → Slot.name p ∉ ((ofHtml html).run ops).written.map Prod.fst) ∧
        ((ofHtml html).run ops).Idle id) ∧
    (Slot.Canonical id ∨ (∀ p, ¬ Slot.Spells id p) → ((ofHtml html).run ops).Ignores id) ∧
    ((ofHtml html).Offers ops → (((ofHtml html).run ops).Ignores id ↔
      ∀ p, Slot.Spells id p → Slot.name p ∉ ((ofHtml html).run ops).written.map Prod.fst)) := by
  have hd := attached_run html ops
  rw [ignores_iff, ← hd.slot?_eq_none_iff]
  refine ⟨Iff.rfl, ?_, fun hoffers => ?_⟩
  · rintro (hid | hid)
    · obtain ⟨p, -, rfl⟩ := Slot.canonical_iff.mp hid
      exact ⟨hd.slot?_eq_none_of_canonical hid h, hd.idle h⟩
    · exact ⟨hd.slot?_eq_none_iff.mpr fun p hp => absurd hp (hid p), (spelled_run html ops).idle hid⟩
  · exact and_iff_left (((named_ofHtml html).run hoffers).idle hd h)

theorem not_ignored_zeros :
    ['0', '0'] ∉ (ofHtml (quoteOf "3")).written.map Prod.fst ∧
      ¬ (ofHtml (quoteOf "3")).Ignores ['0', '0'] := by
  refine ⟨by decide +kernel, fun h => ?_⟩
  have hslot : (ofHtml (quoteOf "3")).slot? ['0', '0'] = some (.reference ⟨3⟩ ['3']) := by
    decide +kernel
  cases h.1.symm.trans hslot

def respelledClicks : List Op := [
  .clickReference ['0'],
  .settleReference ['0'] (.ok (quoteOf "1")),
  .clickReference ['0', '0', '.', '0'],
  .clickReference ['0']]

theorem awaited_respelledClicks :
    ['0', '0', '.', '0'] ∉ ((ofHtml (quoteOf "3")).run respelledClicks).written.map Prod.fst ∧
      ((ofHtml (quoteOf "3")).run respelledClicks).slot? ['0', '0', '.', '0'] = none ∧
      ¬ ((ofHtml (quoteOf "3")).run respelledClicks).Ignores ['0', '0', '.', '0'] := by
  refine ⟨by decide +kernel, by decide +kernel, fun h => ?_⟩
  have hidle := ((ignores_unwritten_iff _ _ _ (by decide +kernel)).1.mp h).2
  exact hidle.1 (by decide +kernel)

end Document

end ForumClient
