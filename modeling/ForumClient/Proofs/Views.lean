import ForumClient.Proofs.Elements

namespace ForumClient

open Markup

namespace Document

variable {d d' : Document} {parent p : Slot.Path} {html fragment : Text} {levels levels' : Nat}

structure Alike (d d' : Document) : Prop where
  html : d.html = d'.html
  reference : ∀ id, d.reference id = d'.reference id
  image : ∀ id, d.image id = d'.image id

theorem follow?_cons (d : Document) (parent html : Text) (i : Nat) (hp : p ≠ []) :
    d.follow? parent html (i :: p) = (interactive html)[i]?.bind fun _ =>
      (d.reference (Slot.child parent i)).fragment?.bind fun fragment =>
        d.follow? (Slot.child parent i) fragment p := by
  rw [follow?, reference]
  · cases (interactive html)[i]? <;> cases d.references.get? (Slot.child parent i) <;> rfl
  · exact hp

theorem Alike.shown? (h : d.Alike d') (p : Slot.Path) : d.shown? p = d'.shown? p := by
  rw [Document.shown?, Document.shown?, h.reference]

theorem Alike.follow? (h : d.Alike d') (parent html : Text) (p : Slot.Path) :
    d.follow? parent html p = d'.follow? parent html p := by
  induction p generalizing parent html with
  | nil => rfl
  | cons i p ih =>
    by_cases hp : p = []
    · subst hp
      rfl
    · simp only [follow?_cons _ _ _ _ hp, h.reference, ih]

theorem Alike.slot? (h : d.Alike d') (id : Text) : d.slot? id = d'.slot? id := by
  rw [Document.slot?, Document.slot?, h.html, funext (h.follow? [] d'.html)]

theorem Alike.pieceAt (h : d.Alike d') (p : Slot.Path) (seg : Segment) :
    d.pieceAt p seg = d'.pieceAt p seg := by
  cases seg with
  | html t => rfl
  | reference post label => rw [Document.pieceAt, Document.pieceAt, h.reference]
  | image thumbnail url => rw [Document.pieceAt, Document.pieceAt, h.image]

theorem Alike.inside (h : d.Alike d') {layOut layOut' : Slot.Path → Text → List Piece}
    (seg : Segment) (hin : ∀ post label fragment, seg = .reference post label →
      d.shown? p = some fragment → layOut p fragment = layOut' p fragment) :
    d.inside layOut p seg = d'.inside layOut' p seg := by
  cases seg with
  | html t => rfl
  | image thumbnail url => rfl
  | reference post label =>
    rw [Document.inside, Document.inside, ← h.shown?]
    cases hf : d.shown? p with
    | none => rfl
    | some fragment => simp only [hin post label fragment rfl hf]

theorem Alike.layoutSegments (h : d.Alike d') {layOut layOut' : Slot.Path → Text → List Piece}
    (i : Nat) (segs : List Segment)
    (hin : ∀ j post label fragment,
      (segs.filter Segment.isInteractive)[j]? = some (.reference post label) →
      d.shown? (parent ++ [i + j]) = some fragment →
      layOut (parent ++ [i + j]) fragment = layOut' (parent ++ [i + j]) fragment) :
    d.layoutSegments layOut parent i segs = d'.layoutSegments layOut' parent i segs := by
  induction segs generalizing i with
  | nil => rfl
  | cons seg segs ih =>
    by_cases hs : seg.isInteractive
    · rw [List.filter_cons_of_pos hs] at hin
      rw [layoutSegments_cons _ _ _ hs, layoutSegments_cons _ _ _ hs, h.pieceAt, h.inside seg, ih]
      · intro j post label fragment hj hf
        rw [Nat.add_assoc, Nat.add_comm 1 j] at hf ⊢
        exact hin (j + 1) post label fragment hj hf
      · rintro post label fragment rfl hf
        exact hin 0 post label fragment rfl hf
    · cases seg with
      | html t =>
        rw [Document.layoutSegments, Document.layoutSegments, ih i hin]
      | reference post label => exact absurd rfl hs
      | image thumbnail url => exact absurd rfl hs

def Reaches (d : Document) (levels : Nat) (parent : Slot.Path) (html : Text) : Prop :=
  0 < levels ∧ ∀ p post label fragment, d.at? parent html p = some (.reference post label) →
    d.shown? (parent ++ p) = some fragment → p.length < levels

theorem Reaches.child (h : d.Reaches (levels + 1) parent html) {i : Nat} {post : PostId}
    {label : Text} (hi : (interactive html)[i]? = some (.reference post label))
    (hf : d.shown? (parent ++ [i]) = some fragment) :
    d.Reaches levels (parent ++ [i]) fragment := by
  constructor
  · simpa using h.2 [i] post label fragment hi hf
  · intro p post' label' fragment' hat hf'
    rw [List.append_assoc] at hf'
    simpa using h.2 (i :: p) post' label' fragment'
      ((at?_cons_eq_some_iff (ne_nil_of_at? hat)).mpr ⟨post, label, fragment, hi, hf, hat⟩) hf'

theorem Alike.layoutWithin (h : d.Alike d') (hd : d.Reaches levels parent html)
    (hd' : d'.Reaches levels' parent html) :
    d.layoutWithin levels parent html = d'.layoutWithin levels' parent html := by
  induction levels generalizing levels' parent html with
  | zero => exact absurd hd.1 (by decide)
  | succ levels ih =>
    cases levels' with
    | zero => exact absurd hd'.1 (by decide)
    | succ levels' =>
      rw [Document.layoutWithin, Document.layoutWithin]
      apply h.layoutSegments
      intro i post label fragment hi hf
      rw [Nat.zero_add] at hf ⊢
      exact ih (hd.child hi hf) (hd'.child hi ((h.shown? _).symm.trans hf))

theorem length_le_of_shown? {seg : Segment} (h : d.element? p = some seg)
    (hf : d.shown? p = some fragment) : p.length ≤ d.expanded.length := by
  have nodup : (p :: Slot.ancestors p).Nodup := by
    refine List.nodup_cons.mpr ⟨fun hmem => ?_, Slot.nodup_ancestors p⟩
    obtain ⟨-, r, hr, he⟩ := Slot.mem_ancestors_iff.mp hmem
    exact hr (by simpa using he)
  have expanded : ∀ q ∈ p :: Slot.ancestors p, Slot.name q ∈ d.expanded :=
    List.forall_mem_cons.mpr ⟨mem_expanded_iff.mpr ⟨fragment, shown?_eq_some_iff.mp hf⟩,
      fun _ => expanded_of_mem_ancestors h⟩
  have hlength := length_le_length_expanded nodup expanded
  rw [List.length_cons, Slot.length_ancestors] at hlength
  omega

theorem reaches_layout (d : Document) : d.Reaches (d.references.size + 1) [] d.html := by
  refine ⟨by omega, fun p post label fragment h hf => ?_⟩
  have := length_le_of_shown? h hf
  have := d.length_expanded_le
  omega

theorem Alike.layout (h : d.Alike d') : d.layout = d'.layout := by
  have hd' := d'.reaches_layout
  rw [← h.html] at hd'
  rw [Document.layout, Document.layout, ← h.html]
  exact h.layoutWithin d.reaches_layout hd'

theorem Alike.render (h : d.Alike d') : d.render = d'.render := by
  rw [Document.render, Document.render, h.layout]

end Document

end ForumClient
