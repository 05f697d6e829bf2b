import ForumClient.Proofs.Written

/-!
Laying out with no bound on the levels. A fragment may quote the very post that it is shown in, so
what lies inside it is no smaller; the descent ends because each level below the first is shown by
an expanded reference of its own, under a name that no other level has.
-/

namespace ForumClient

open Markup

namespace Document

variable {d : Document} {parent : Slot.Path} {i n depth depth' : Nat} {segs : List Segment}
  {ps ps' : List Piece}

/-- How the rest of a fragment is laid out, its next element being number `i`, with fragments inside
one another to the given depth. Nothing limits the levels, so a layout is reached only where the
descent ends. -/
inductive LaysOut (d : Document) :
    Slot.Path → Nat → List Segment → Nat → List Piece → Prop
  | nil (parent : Slot.Path) (i : Nat) : LaysOut d parent i [] 0 []
  | html {parent : Slot.Path} {i depth : Nat} {segs : List Segment} {ps : List Piece} (t : Text)
      (behind : LaysOut d parent i segs depth ps) :
      LaysOut d parent i (.html t :: segs) depth (.html t :: ps)
  | image {parent : Slot.Path} {i depth : Nat} {segs : List Segment} {ps : List Piece}
      (thumbnail url : Text) (behind : LaysOut d parent (i + 1) segs depth ps) :
      LaysOut d parent i (.image thumbnail url :: segs) depth
        (.image (parent ++ [i]) (d.image (Slot.name (parent ++ [i]))) thumbnail url :: ps)
  | reference {parent : Slot.Path} {i depth : Nat} {segs : List Segment} {ps : List Piece}
      (post : PostId) (label : Text) (hidden : d.shown? (parent ++ [i]) = none)
      (behind : LaysOut d parent (i + 1) segs depth ps) :
      LaysOut d parent i (.reference post label :: segs) depth
        (.reference (parent ++ [i]) (d.reference (Slot.name (parent ++ [i]))) post label :: ps)
  | fragment {parent : Slot.Path} {i inner depth : Nat} {segs : List Segment}
      {qs ps : List Piece} {fragment : Text} (post : PostId) (label : Text)
      (shown : d.shown? (parent ++ [i]) = some fragment)
      (inside : LaysOut d (parent ++ [i]) 0 (segments fragment) inner qs)
      (behind : LaysOut d parent (i + 1) segs depth ps) :
      LaysOut d parent i (.reference post label :: segs) (max (inner + 1) depth)
        (.reference (parent ++ [i]) (d.reference (Slot.name (parent ++ [i]))) post label ::
          .fragmentStart :: qs ++ .fragmentEnd :: ps)

theorem LaysOut.unique (h : d.LaysOut parent i segs depth ps)
    (h' : d.LaysOut parent i segs depth' ps') : depth = depth' ∧ ps = ps' := by
  induction h generalizing depth' ps' with
  | nil => cases h'; exact ⟨rfl, rfl⟩
  | html t behind ih =>
    cases h' with
    | html _ behind' =>
      obtain ⟨rfl, rfl⟩ := ih behind'
      exact ⟨rfl, rfl⟩
  | image thumbnail url behind ih =>
    cases h' with
    | image _ _ behind' =>
      obtain ⟨rfl, rfl⟩ := ih behind'
      exact ⟨rfl, rfl⟩
  | reference post label hidden behind ih =>
    cases h' with
    | reference _ _ _ behind' =>
      obtain ⟨rfl, rfl⟩ := ih behind'
      exact ⟨rfl, rfl⟩
    | fragment _ _ shown' => cases hidden.symm.trans shown'
  | fragment post label shown inside behind ihInside ihBehind =>
    cases h' with
    | reference _ _ hidden' => cases hidden'.symm.trans shown
    | fragment _ _ shown' inside' behind' =>
      cases shown.symm.trans shown'
      obtain ⟨rfl, rfl⟩ := ihInside inside'
      obtain ⟨rfl, rfl⟩ := ihBehind behind'
      exact ⟨rfl, rfl⟩

theorem laysOut_layoutSegments {layOut : Slot.Path → Text → List Piece}
    (inside : ∀ i fragment, d.shown? (parent ++ [i]) = some fragment →
      ∃ inner < depth,
        d.LaysOut (parent ++ [i]) 0 (segments fragment) inner (layOut (parent ++ [i]) fragment))
    (i : Nat) (segs : List Segment) :
    ∃ n ≤ depth, d.LaysOut parent i segs n (d.layoutSegments layOut parent i segs) := by
  induction segs generalizing i with
  | nil => exact ⟨0, Nat.zero_le _, .nil parent i⟩
  | cons seg segs ih =>
    cases seg with
    | html t =>
      obtain ⟨n, hn, h⟩ := ih i
      exact ⟨n, hn, .html t h⟩
    | image thumbnail url =>
      obtain ⟨n, hn, h⟩ := ih (i + 1)
      exact ⟨n, hn, .image thumbnail url h⟩
    | reference post label =>
      obtain ⟨n, hn, h⟩ := ih (i + 1)
      rw [layoutSegments_cons layOut i segs rfl]
      cases hf : d.shown? (parent ++ [i]) with
      | none =>
        rw [Document.inside, hf]
        exact ⟨n, hn, .reference post label hf h⟩
      | some fragment =>
        obtain ⟨inner, hinner, hin⟩ := inside i fragment hf
        rw [Document.inside, hf, List.append_assoc]
        exact ⟨max (inner + 1) n, Nat.max_le.mpr ⟨hinner, hn⟩, .fragment post label hf hin h⟩

def Enclosed (d : Document) (parent : Slot.Path) : Prop :=
  ∀ q, q <+: parent → q ≠ [] → Slot.name q ∈ d.expanded

theorem enclosed_nil (d : Document) : d.Enclosed [] :=
  fun _ h hne => absurd (List.prefix_nil.mp h) hne

theorem Enclosed.concat {fragment : Text} (h : d.Enclosed parent)
    (hf : d.shown? (parent ++ [i]) = some fragment) : d.Enclosed (parent ++ [i]) := by
  intro q hq hne
  rcases List.prefix_concat_iff.mp hq with rfl | hq
  · exact mem_expanded_iff.mpr ⟨fragment, shown?_eq_some_iff.mp hf⟩
  · exact h q hq hne

theorem Enclosed.length_le (h : d.Enclosed parent) : parent.length ≤ d.expanded.length := by
  have around (q : Slot.Path) (hq : q ∈ Slot.ancestors (parent ++ [0])) :
      Slot.name q ∈ d.expanded := by
    obtain ⟨hne, r, hr, e⟩ := Slot.mem_ancestors_iff.mp hq
    rcases List.prefix_concat_iff.mp ⟨r, e.symm⟩ with rfl | hq
    · exact absurd (List.self_eq_append_right.mp e) hr
    · exact h q hq hne
  simpa using length_le_length_expanded (Slot.nodup_ancestors (parent ++ [0])) around

theorem Enclosed.length_lt {fragment : Text} (h : d.Enclosed parent)
    (hf : d.shown? (parent ++ [i]) = some fragment) : parent.length < d.expanded.length := by
  have hlength := (h.concat hf).length_le
  rwa [List.length_append] at hlength

theorem Enclosed.laysOut (h : d.Enclosed parent) {levels : Nat}
    (hlevels : d.expanded.length ≤ parent.length + levels) (html : Text) :
    ∃ depth ≤ d.expanded.length - parent.length,
      d.LaysOut parent 0 (segments html) depth (d.layoutWithin (levels + 1) parent html) := by
  induction levels generalizing parent html with
  | zero =>
    -- every reference that is expanded lies around this place, so none is left for the inside
    refine laysOut_layoutSegments (fun i fragment hf => ?_) 0 (segments html)
    have hlt := h.length_lt hf
    omega
  | succ levels ih =>
    refine laysOut_layoutSegments (fun i fragment hf => ?_) 0 (segments html)
    have hlt := h.length_lt hf
    have hlength : (parent ++ [i]).length = parent.length + 1 := List.length_append
    obtain ⟨inner, hinner, hin⟩ := ih (h.concat hf) (by omega) fragment
    exact ⟨inner, by omega, hin⟩

theorem laysOut_layout (d : Document) :
    ∃ depth ≤ d.expanded.length, d.LaysOut [] 0 (segments d.html) depth d.layout :=
  d.enclosed_nil.laysOut (Nat.le_trans d.length_expanded_le (Nat.le_add_left _ _)) d.html

theorem length_expanded (d : Document) :
    d.expanded.length = d.references.entries.countP fun e => e.2.fragment?.isSome := by
  rw [expanded, List.length_map, List.countP_eq_length_filter]

theorem count_fragmentStart_le (d : Document) :
    d.layout.count .fragmentStart ≤ d.expanded.length := by
  have nodup : ((d.elements.filter d.shows).map Prod.fst).Nodup :=
    (nodup_paths d).sublist (List.filter_sublist.map _)
  have shown (q : Slot.Path) (hq : q ∈ (d.elements.filter d.shows).map Prod.fst) :
      Slot.name q ∈ d.expanded := by
    obtain ⟨e, he, rfl⟩ := List.mem_map.mp hq
    exact (shows_iff.mp (List.mem_filter.mp he).2).2
  rw [count_fragmentStart_layout, List.countP_eq_length_filter, ← List.length_map Prod.fst]
  exact length_le_length_expanded nodup shown

/-- Whatever references a document keeps, laying it out comes to an end, in one way: with no more
fragments inside one another, and no more of them altogether, than references that are expanded. -/
theorem layout_ends (d : Document) :
    ∃ depth, (∀ n ps, d.LaysOut [] 0 (segments d.html) n ps ↔ n = depth ∧ ps = d.layout) ∧
      depth ≤ (d.references.entries.countP fun e => e.2.fragment?.isSome) ∧
      d.layout.count .fragmentStart ≤
        d.references.entries.countP fun e => e.2.fragment?.isSome := by
  obtain ⟨depth, hdepth, h⟩ := d.laysOut_layout
  rw [← length_expanded]
  refine ⟨depth, fun n ps => ⟨fun h' => h'.unique h, ?_⟩, hdepth, d.count_fragmentStart_le⟩
  rintro ⟨rfl, rfl⟩
  exact h

/-- A post that quotes itself, shown in itself and there once more: each of the two fragments takes
an entry. The entry under a name that is not written takes none. -/
example :
    let html := quoteOf "7"
    let d : Document := { html, references := .ofList [
      (['0'], .expanded html), ("0.0".toList, .expanded html), ("7".toList, .expanded html)] }
    d.layout.count .fragmentStart = 2 ∧ d.elements.map Prod.fst = [[0], [0, 0], [0, 0, 0]] := by
  decide +kernel

end Document

end ForumClient
