import ForumClient.Proofs.Attachment

namespace ForumClient

open Markup

namespace Document

variable {d : Document} {html : Text} {ops : List Op} {op : Op} {id : Text} {seg : Segment}

theorem slot?_of_mem_written (hd : d.Fits) (h : (id, seg) ∈ d.written) : d.slot? id = some seg := by
  obtain ⟨p, rfl, hp⟩ := mem_written_iff.mp h
  exact slot?_name_of_element? hd hp

theorem mem_written_of_slot? (hid : Slot.Canonical id) (h : d.slot? id = some seg) :
    (id, seg) ∈ d.written ∨ ∃ p, id = Slot.name p ∧ d.EntersImage [] d.html p := by
  obtain ⟨p, -, rfl⟩ := Slot.canonical_iff.mp hid
  rcases element?_of_slot?_name h with hp | hp
  · exact .inl (name_mem_written_iff.mpr hp)
  · exact .inr ⟨p, rfl, hp⟩

theorem Attached.mem_written_of_slot? (hd : d.Attached) (hid : Slot.Canonical id)
    (h : d.slot? id = some seg) : (id, seg) ∈ d.written := by
  rcases Document.mem_written_of_slot? hid h with hw | ⟨p, -, hp⟩
  · exact hw
  · exact absurd hp hd.not_entersImage

/-- Whatever states a document keeps, its rendering writes distinct names, and a name stands for
the element that it is written on. Conversely the plain names that stand for an element are
written; the names inside an image under whose name a reference's fragment is kept would be the
only others, and no operations lead to such a document. -/
theorem written_agrees_with_lookup (hd : d.Fits) :
    (d.written.map Prod.fst).Nodup ∧
      (∀ id seg, (id, seg) ∈ d.written → d.slot? id = some seg) ∧
      (∀ id seg, Slot.Canonical id → d.slot? id = some seg →
        (id, seg) ∈ d.written ∨ ∃ p, id = Slot.name p ∧ d.EntersImage [] d.html p) ∧
      ∀ html ops, d = (ofHtml html).run ops →
        ∀ id seg, Slot.Canonical id → d.slot? id = some seg → (id, seg) ∈ d.written := by
  refine ⟨nodup_names d, fun _ _ => slot?_of_mem_written hd, fun _ _ => mem_written_of_slot?, ?_⟩
  rintro html ops rfl id seg
  exact (attached_run html ops).mem_written_of_slot?

def quoteOf (number : String) : Text :=
  "<a href='javascript:void(0)' onclick='_ref(this, ".toList ++ number.toList ++ ")'>".toList ++
    number.toList ++ "</a>".toList

def nestedClicks : List Op := [
  .clickReference ['0'],
  .settleReference ['0'] (.ok (quoteOf "2" ++ quoteOf "3")),
  .clickReference ['0', '.', '1'],
  .settleReference ['0', '.', '1'] (.ok ['h', 'i'])]

theorem lookup_nestedClicks :
    ((ofHtml (quoteOf "1")).run nestedClicks).Fits ∧
      ((ofHtml (quoteOf "1")).run nestedClicks).slot? ['0', '.', '1'] =
        some (.reference ⟨3⟩ ['3']) :=
  ⟨by decide +kernel, (written_agrees_with_lookup (by decide +kernel)).2.1 _ _ (by decide +kernel)⟩

def pictured : Document where
  html := "<img src='t' onclick=\"_enlarge(this, 'u')\">".toList
  references := .ofList [(['0'], .expanded (quoteOf "1"))]

theorem unwritten_in_image :
    pictured.Fits ∧ Slot.Canonical ['0', '.', '0'] ∧
      pictured.slot? ['0', '.', '0'] = some (.reference ⟨1⟩ ['1']) ∧
      pictured.written.map Prod.fst = [['0']] :=
  ⟨by decide +kernel, Slot.canonical_iff.mpr ⟨[0, 0], by decide +kernel, by decide +kernel⟩,
    by decide +kernel, by decide +kernel⟩

def Offered (d : Document) : Op → Prop
  | .clickReference id => id ∈ d.written.map Prod.fst
  | .clickImage id _ => id ∈ d.written.map Prod.fst
  | _ => True

/-- Whether each click in a run is on a name that is written by then. -/
def Offers (d : Document) : List Op → Prop
  | [] => True
  | op :: ops => d.Offered op ∧ (d.perform op).Offers ops

instance decidableOffered (d : Document) : (op : Op) → Decidable (d.Offered op)
  | .clickReference _ => inferInstanceAs (Decidable (_ ∈ _))
  | .clickImage _ _ => inferInstanceAs (Decidable (_ ∈ _))
  | .settleReference _ _ => .isTrue trivial
  | .imageProgress _ _ _ => .isTrue trivial
  | .settleImage _ _ => .isTrue trivial

instance decidableOffers (d : Document) : (ops : List Op) → Decidable (d.Offers ops)
  | [] => .isTrue trivial
  | op :: ops =>
    have := decidableOffers (d.perform op) ops
    inferInstanceAs (Decidable (_ ∧ _))

structure Named (d : Document) : Prop where
  reference : ∀ id r, d.references.get? id = some r → ∃ p, id = Slot.name p
  image : ∀ id i, d.images.get? id = some i → ∃ p, id = Slot.name p

theorem named_ofHtml (html : Text) : (ofHtml html).Named where
  reference _ _ h := by cases h
  image _ _ h := by cases h

theorem name_of_mem_written (h : id ∈ d.written.map Prod.fst) : ∃ p, id = Slot.name p := by
  obtain ⟨⟨_, seg⟩, hw, rfl⟩ := List.mem_map.mp h
  obtain ⟨p, hp, -⟩ := mem_written_iff.mp hw
  exact ⟨p, hp.symm⟩

theorem Named.perform (hd : d.Named) (h : d.Offered op) : (d.perform op).Named where
  reference id r hr := by
    rcases (references_of_perform hr).2 with ⟨r', hr'⟩ | ⟨rfl, -⟩
    · exact hd.reference id r' hr'
    · exact name_of_mem_written h
  image id i hi := by
    rcases (images_of_perform hi).2 with ⟨i', hi'⟩ | ⟨⟨view, rfl⟩, -⟩
    · exact hd.image id i' hi'
    · exact name_of_mem_written h

theorem Named.run (hd : d.Named) (h : d.Offers ops) : (d.run ops).Named := by
  induction ops generalizing d with
  | nil => exact hd
  | cons op ops ih => exact ih (hd.perform h.1) h.2

theorem mem_written_of_references (hd : d.Attached) (hn : d.Named) {r : Reference}
    (h : d.references.get? id = some r) : ∃ post label, (id, .reference post label) ∈ d.written := by
  obtain ⟨p, rfl⟩ := hn.reference id r h
  obtain ⟨post, label, hp⟩ := hd.reference p r h
  exact ⟨post, label, name_mem_written_iff.mpr hp⟩

theorem mem_written_of_images (hd : d.Attached) (hn : d.Named) {i : Image}
    (h : d.images.get? id = some i) : ∃ thumbnail url, (id, .image thumbnail url) ∈ d.written := by
  obtain ⟨p, rfl⟩ := hn.image id i h
  obtain ⟨thumbnail, url, hp⟩ := hd.image p i h
  exact ⟨thumbnail, url, name_mem_written_iff.mpr hp⟩

theorem shows_iff {e : Slot.Path × Segment} :
    d.shows e ↔ (∃ post label, e.2 = .reference post label) ∧ Slot.name e.1 ∈ d.expanded := by
  obtain ⟨p, seg⟩ := e
  simp only [mem_expanded_iff, ← shown?_eq_some_iff, ← Option.isSome_iff_exists]
  cases seg <;> simp [shows]

theorem perm_expanded (hd : d.Attached) (hn : d.Named) :
    ((d.elements.filter d.shows).map fun e => Slot.name e.1).Perm d.expanded := by
  have nodup : ((d.elements.filter d.shows).map fun e => Slot.name e.1).Nodup := by
    have hw := nodup_names d
    rw [written, List.map_map] at hw
    exact List.Nodup.sublist (List.filter_sublist.map _) hw
  refine (List.perm_ext_iff_of_nodup nodup (nodup_expanded d)).mpr fun id => ?_
  simp only [List.mem_map, List.mem_filter, shows_iff]
  constructor
  · rintro ⟨e, ⟨-, -, h⟩, rfl⟩
    exact h
  · intro h
    obtain ⟨fragment, hf⟩ := mem_expanded_iff.mp h
    obtain ⟨p, rfl⟩ := hn.reference id _ hf
    obtain ⟨post, label, hp⟩ := hd.reference p _ hf
    exact ⟨(p, _), ⟨mem_elements_iff.mpr hp, ⟨post, label, rfl⟩, h⟩, rfl⟩

theorem count_fragmentStart_eq (hd : d.Attached) (hn : d.Named) :
    d.layout.count .fragmentStart = d.references.entries.countP fun e => e.2.fragment?.isSome := by
  rw [count_fragmentStart_layout, List.countP_eq_length_filter, List.countP_eq_length_filter]
  simpa [expanded] using (perm_expanded hd hn).length_eq

/-- No state is left over: what is kept is under a written name of an element of its kind, so
there are as many fragments on the page as references that are expanded. -/
theorem state_under_written_names (h : (ofHtml html).Offers ops) :
    (∀ id r, ((ofHtml html).run ops).references.get? id = some r →
      ∃ post label, (id, .reference post label) ∈ ((ofHtml html).run ops).written) ∧
    (∀ id i, ((ofHtml html).run ops).images.get? id = some i →
      ∃ thumbnail url, (id, .image thumbnail url) ∈ ((ofHtml html).run ops).written) ∧
    ((ofHtml html).run ops).layout.count .fragmentStart =
      ((ofHtml html).run ops).references.entries.countP fun e => e.2.fragment?.isSome := by
  have hd := attached_run html ops
  have hn := (named_ofHtml html).run h
  exact ⟨fun _ _ => mem_written_of_references hd hn, fun _ _ => mem_written_of_images hd hn,
    count_fragmentStart_eq hd hn⟩

theorem fragments_nestedClicks :
    (ofHtml (quoteOf "1")).Offers nestedClicks ∧
      ((ofHtml (quoteOf "1")).run nestedClicks).layout.count .fragmentStart = 2 :=
  ⟨by decide +kernel, (state_under_written_names (by decide +kernel)).2.2.trans (by decide +kernel)⟩

end Document

end ForumClient
