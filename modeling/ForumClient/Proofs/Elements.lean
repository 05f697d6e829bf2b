import ForumClient.Post.Rendering
import ForumClient.Proofs.SlotName
import Mathlib.Data.List.Nodup
import Mathlib.Data.List.Perm.Subperm

namespace ForumClient

open Markup

def Piece.element? : Piece → Option (Slot.Path × Segment)
  | .reference p _ post label => some (p, .reference post label)
  | .image p _ thumbnail url => some (p, .image thumbnail url)
  | _ => none

namespace Piece

@[simp] theorem element?_html (t : Text) : (html t).element? = none := rfl

@[simp] theorem element?_reference (p : Slot.Path) (r : Reference) (post : PostId) (label : Text) :
    (reference p r post label).element? = some (p, .reference post label) := rfl

@[simp] theorem element?_fragmentStart : fragmentStart.element? = none := rfl

@[simp] theorem element?_fragmentEnd : fragmentEnd.element? = none := rfl

@[simp] theorem element?_image (p : Slot.Path) (i : Image) (thumbnail url : Text) :
    (image p i thumbnail url).element? = some (p, .image thumbnail url) := rfl

end Piece

namespace Document

variable {d : Document} {parent p q r : Slot.Path} {html : Text} {seg : Segment}

def shown? (d : Document) (p : Slot.Path) : Option Text :=
  (d.reference (Slot.name p)).fragment?

def at? (d : Document) (parent : Slot.Path) (html : Text) : Slot.Path → Option Segment
  | [] => none
  | [i] => (interactive html)[i]?
  | i :: p => match (interactive html)[i]?, d.shown? (parent ++ [i]) with
    | some (.reference _ _), some fragment => d.at? (parent ++ [i]) fragment p
    | _, _ => none

abbrev element? (d : Document) (p : Slot.Path) : Option Segment := d.at? [] d.html p

@[simp] theorem at?_nil : d.at? parent html [] = none := rfl

@[simp] theorem at?_singleton (i : Nat) : d.at? parent html [i] = (interactive html)[i]? := rfl

theorem ne_nil_of_at? (h : d.at? parent html p = some seg) : p ≠ [] := by
  intro e
  subst e
  cases h

theorem at?_cons_eq_some_iff {i : Nat} (hp : p ≠ []) :
    d.at? parent html (i :: p) = some seg ↔
      ∃ post label fragment, (interactive html)[i]? = some (.reference post label) ∧
        d.shown? (parent ++ [i]) = some fragment ∧
        d.at? (parent ++ [i]) fragment p = some seg := by
  cases p with
  | nil => exact absurd rfl hp
  | cons j p =>
    rw [at?]
    · split
      · next post label fragment hi hf => simp [hi, hf]
      · next h =>
        constructor
        · intro e
          cases e
        · rintro ⟨post, label, fragment, hi, hf, -⟩
          exact absurd hf (h post label fragment hi)
    · simp

theorem at?_append_eq_some_iff (hp : p ≠ []) (hq : q ≠ []) :
    d.at? parent html (p ++ q) = some seg ↔
      ∃ post label fragment, d.at? parent html p = some (.reference post label) ∧
        d.shown? (parent ++ p) = some fragment ∧ d.at? (parent ++ p) fragment q = some seg := by
  induction p generalizing parent html with
  | nil => exact absurd rfl hp
  | cons i p ih =>
    by_cases h : p = []
    · subst h
      rw [List.singleton_append, at?_cons_eq_some_iff hq]
      rfl
    · rw [List.cons_append, at?_cons_eq_some_iff (by simp [h])]
      simp only [ih h, at?_cons_eq_some_iff h, List.append_assoc, List.singleton_append]
      constructor
      · rintro ⟨post, label, fragment, hi, hf, post', label', fragment', hp, hf', hq⟩
        exact ⟨post', label', fragment', ⟨post, label, fragment, hi, hf, hp⟩, hf', hq⟩
      · rintro ⟨post', label', fragment', ⟨post, label, fragment, hi, hf, hp⟩, hf', hq⟩
        exact ⟨post, label, fragment, hi, hf, post', label', fragment', hp, hf', hq⟩

def inside (d : Document) (layOut : Slot.Path → Text → List Piece) (p : Slot.Path) :
    Segment → List Piece
  | .reference _ _ => match d.shown? p with
    | some fragment => .fragmentStart :: layOut p fragment ++ [.fragmentEnd]
    | none => []
  | _ => []

def pieceAt (d : Document) (p : Slot.Path) : Segment → Piece
  | .html t => .html t
  | .reference post label => .reference p (d.reference (Slot.name p)) post label
  | .image thumbnail url => .image p (d.image (Slot.name p)) thumbnail url

theorem element?_pieceAt (p : Slot.Path) (h : seg.isInteractive) :
    (d.pieceAt p seg).element? = some (p, seg) := by
  cases seg with
  | html t => cases h
  | reference post label => rfl
  | image thumbnail url => rfl

theorem layoutSegments_cons (layOut : Slot.Path → Text → List Piece) (i : Nat)
    (segs : List Segment) (h : seg.isInteractive) :
    d.layoutSegments layOut parent i (seg :: segs) =
      d.pieceAt (parent ++ [i]) seg ::
        (d.inside layOut (parent ++ [i]) seg ++ d.layoutSegments layOut parent (i + 1) segs) := by
  cases seg with
  | html t => cases h
  | reference post label => rfl
  | image thumbnail url => rfl

theorem elements_layoutSegments (layOut : Slot.Path → Text → List Piece) (i : Nat)
    (segs : List Segment) :
    (d.layoutSegments layOut parent i segs).filterMap Piece.element? =
      ((segs.filter Segment.isInteractive).zipIdx i).flatMap fun (seg, j) =>
        (parent ++ [j], seg) :: (d.inside layOut (parent ++ [j]) seg).filterMap Piece.element? := by
  induction segs generalizing i with
  | nil => rfl
  | cons seg segs ih =>
    by_cases h : seg.isInteractive
    · rw [layoutSegments_cons layOut i segs h, List.filterMap_cons, element?_pieceAt _ h,
        List.filterMap_append, ih, List.filter_cons_of_pos h]
      rfl
    · cases seg with
      | html t => exact ih i
      | reference post label => exact absurd rfl h
      | image thumbnail url => exact absurd rfl h

theorem elements_inside (layOut : Slot.Path → Text → List Piece) {fragment : Text}
    {post : PostId} {label : Text} (h : d.shown? p = some fragment) :
    (d.inside layOut p (.reference post label)).filterMap Piece.element? =
      (layOut p fragment).filterMap Piece.element? := by
  simp [inside, h, List.filterMap_cons]

theorem mem_elements_inside_iff (layOut : Slot.Path → Text → List Piece) {e : Slot.Path × Segment} :
    e ∈ (d.inside layOut p seg).filterMap Piece.element? ↔
      ∃ post label fragment, seg = .reference post label ∧ d.shown? p = some fragment ∧
        e ∈ (layOut p fragment).filterMap Piece.element? := by
  cases seg with
  | html t => simp [inside]
  | image thumbnail url => simp [inside]
  | reference post label =>
    cases h : d.shown? p with
    | none => simp [inside, h]
    | some fragment => simp [elements_inside layOut h]

theorem elements_layoutWithin_succ (levels : Nat) :
    (d.layoutWithin (levels + 1) parent html).filterMap Piece.element? =
      (interactive html).zipIdx.flatMap fun (seg, i) => (parent ++ [i], seg) ::
        (d.inside (d.layoutWithin levels) (parent ++ [i]) seg).filterMap Piece.element? :=
  elements_layoutSegments _ 0 _

theorem mem_elements_layoutWithin_iff (levels : Nat) :
    (q, seg) ∈ (d.layoutWithin levels parent html).filterMap Piece.element? ↔
      ∃ p, q = parent ++ p ∧ p.length ≤ levels ∧ d.at? parent html p = some seg := by
  induction levels generalizing parent html with
  | zero => simp [layoutWithin, at?]
  | succ levels ih =>
    rw [elements_layoutWithin_succ]
    simp only [List.mem_flatMap, Prod.exists, List.mk_mem_zipIdx_iff_getElem?, List.mem_cons,
      mem_elements_inside_iff, ih]
    constructor
    · rintro ⟨s, i, hi, h | ⟨post, label, fragment, rfl, hf, p, rfl, hp, hat⟩⟩
      · cases h
        exact ⟨[i], rfl, by simp, hi⟩
      · exact ⟨i :: p, by simp, by simpa using hp,
          (at?_cons_eq_some_iff (ne_nil_of_at? hat)).mpr ⟨post, label, fragment, hi, hf, hat⟩⟩
    · rintro ⟨p, rfl, hp, hat⟩
      cases p with
      | nil => cases hat
      | cons i p =>
        by_cases h : p = []
        · subst h
          exact ⟨seg, i, hat, .inl rfl⟩
        · obtain ⟨post, label, fragment, hi, hf, hat⟩ := (at?_cons_eq_some_iff h).mp hat
          exact ⟨_, i, hi, .inr ⟨post, label, fragment, rfl, hf, p, by simp, by simpa using hp, hat⟩⟩

theorem nodup_elements_layoutWithin (levels : Nat) :
    ((d.layoutWithin levels parent html).filterMap Piece.element?).Nodup := by
  induction levels generalizing parent html with
  | zero => exact List.nodup_nil
  | succ levels ih =>
    have below {p : Slot.Path} {seg : Segment} {e : Slot.Path × Segment}
        (h : e ∈ (p, seg) :: (d.inside (d.layoutWithin levels) p seg).filterMap Piece.element?) :
        ∃ r, e.1 = p ++ r := by
      rcases List.mem_cons.mp h with rfl | h
      · exact ⟨[], by simp⟩
      · obtain ⟨post, label, fragment, -, -, h⟩ := (mem_elements_inside_iff _).mp h
        obtain ⟨r, hr, -⟩ := (mem_elements_layoutWithin_iff levels).mp h
        exact ⟨r, hr⟩
    rw [elements_layoutWithin_succ, List.nodup_flatMap]
    constructor
    · rintro ⟨seg, i⟩ -
      rw [List.nodup_cons, mem_elements_inside_iff]
      constructor
      · rintro ⟨post, label, fragment, -, -, h⟩
        obtain ⟨r, hr, -, hat⟩ := (mem_elements_layoutWithin_iff levels).mp h
        obtain rfl : r = [] := by simpa using hr
        cases hat
      · cases seg with
        | html t => exact List.nodup_nil
        | image thumbnail url => exact List.nodup_nil
        | reference post label =>
          cases h : d.shown? (parent ++ [i]) with
          | none => simp [inside, h]
          | some fragment =>
            rw [elements_inside _ h]
            exact ih
    · -- elements of different numbers lie under different paths
      have distinct : (interactive html).zipIdx.Pairwise fun x y => x.2 ≠ y.2 := by
        rw [← List.pairwise_map (f := Prod.snd) (R := (· ≠ ·)), List.zipIdx_map_snd]
        exact List.nodup_range'
      apply distinct.imp
      rintro ⟨s, i⟩ ⟨t, j⟩ hij e he he'
      obtain ⟨r, hr⟩ := below he
      obtain ⟨r', hr'⟩ := below he'
      rw [hr] at hr'
      simp only [List.append_assoc, List.singleton_append, List.append_cancel_left_eq,
        List.cons.injEq] at hr'
      exact hij hr'.1

def expanded (d : Document) : List Text :=
  (d.references.entries.filter fun e => e.2.fragment?.isSome).map Prod.fst

theorem shown?_eq (d : Document) (p : Slot.Path) :
    d.shown? p = (d.references.get? (Slot.name p)).bind Reference.fragment? := by
  rw [shown?, reference]
  cases d.references.get? (Slot.name p) <;> rfl

theorem mem_expanded_iff {id : Text} :
    id ∈ d.expanded ↔ ∃ fragment, d.references.get? id = some (.expanded fragment) := by
  simp only [expanded, List.mem_map, List.mem_filter, Prod.exists, Table.mem_entries_iff]
  constructor
  · rintro ⟨id, r, ⟨h, hr⟩, rfl⟩
    cases r with
    | expanded fragment => exact ⟨fragment, h⟩
    | collapsed | loading | errored => cases hr
  · rintro ⟨fragment, h⟩
    exact ⟨id, _, ⟨h, rfl⟩, rfl⟩

theorem shown?_eq_some_iff {fragment : Text} :
    d.shown? p = some fragment ↔
      d.references.get? (Slot.name p) = some (.expanded fragment) := by
  rw [shown?_eq]
  cases d.references.get? (Slot.name p) with
  | none => simp
  | some r => cases r <;> simp [Reference.fragment?]

theorem nodup_expanded (d : Document) : d.expanded.Nodup :=
  d.references.nodup_keys.sublist (List.filter_sublist.map Prod.fst)

theorem expanded_of_mem_ancestors (h : d.element? p = some seg) (hq : q ∈ Slot.ancestors p) :
    Slot.name q ∈ d.expanded := by
  obtain ⟨hne, r, hr, rfl⟩ := Slot.mem_ancestors_iff.mp hq
  obtain ⟨-, -, fragment, -, hf, -⟩ := (at?_append_eq_some_iff hne hr).mp h
  exact mem_expanded_iff.mpr ⟨fragment, shown?_eq_some_iff.mp hf⟩

theorem length_le_length_expanded {ps : List Slot.Path} (nodup : ps.Nodup)
    (h : ∀ q ∈ ps, Slot.name q ∈ d.expanded) : ps.length ≤ d.expanded.length := by
  have subset : ps.map Slot.name ⊆ d.expanded := by
    intro id hid
    obtain ⟨q, hq, rfl⟩ := List.mem_map.mp hid
    exact h q hq
  have := ((nodup.map Slot.name_injective).subperm subset).length_le
  rwa [List.length_map] at this

theorem length_expanded_le (d : Document) : d.expanded.length ≤ d.references.size := by
  rw [expanded, List.length_map]
  exact List.length_filter_le _ _

theorem length_le_of_element? (h : d.element? p = some seg) : p.length ≤ d.expanded.length + 1 := by
  have := length_le_length_expanded (Slot.nodup_ancestors p) fun _ => expanded_of_mem_ancestors h
  rw [Slot.length_ancestors] at this
  omega

def elements (d : Document) : List (Slot.Path × Segment) := d.layout.filterMap Piece.element?

theorem mem_elements_iff : (p, seg) ∈ d.elements ↔ d.element? p = some seg := by
  rw [elements, layout, mem_elements_layoutWithin_iff]
  constructor
  · rintro ⟨q, rfl, -, h⟩
    exact h
  · intro h
    have hlength := Nat.succ_le_succ d.length_expanded_le
    exact ⟨p, rfl, Nat.le_trans (length_le_of_element? h) hlength, h⟩

theorem nodup_elements (d : Document) : d.elements.Nodup := nodup_elements_layoutWithin _

theorem nodup_paths (d : Document) : (d.elements.map Prod.fst).Nodup := by
  apply (nodup_elements d).map_on
  rintro ⟨p, seg⟩ hp ⟨q, seg'⟩ hq rfl
  rw [mem_elements_iff] at hp hq
  rw [Option.some.inj (hp.symm.trans hq)]

/-- The elements of the rendering under the names that it writes on them. -/
def written (d : Document) : List (Text × Segment) :=
  d.elements.map fun (p, seg) => (Slot.name p, seg)

theorem mem_written_iff {id : Text} :
    (id, seg) ∈ d.written ↔ ∃ p, Slot.name p = id ∧ d.element? p = some seg := by
  simp only [written, List.mem_map, Prod.exists, Prod.mk.injEq, mem_elements_iff]
  constructor
  · rintro ⟨p, _, h, rfl, rfl⟩
    exact ⟨p, rfl, h⟩
  · rintro ⟨p, rfl, h⟩
    exact ⟨p, seg, h, rfl, rfl⟩

theorem name_mem_written_iff : (Slot.name p, seg) ∈ d.written ↔ d.element? p = some seg := by
  rw [mem_written_iff]
  constructor
  · rintro ⟨q, hq, h⟩
    rw [← Slot.name_injective hq]
    exact h
  · intro h
    exact ⟨p, rfl, h⟩

theorem nodup_names (d : Document) : (d.written.map Prod.fst).Nodup := by
  have := (nodup_paths d).map Slot.name_injective
  rw [List.map_map] at this
  rwa [written, List.map_map]

def shows (d : Document) : Slot.Path × Segment → Bool
  | (p, .reference _ _) => (d.shown? p).isSome
  | _ => false

theorem count_fragmentStart_inside {layOut : Slot.Path → Text → List Piece}
    (h : ∀ p t, (layOut p t).count .fragmentStart =
      ((layOut p t).filterMap Piece.element?).countP d.shows) (p : Slot.Path) (seg : Segment) :
    (d.inside layOut p seg).count .fragmentStart =
      ((d.inside layOut p seg).filterMap Piece.element?).countP d.shows +
        if d.shows (p, seg) then 1 else 0 := by
  cases seg with
  | html t => rfl
  | image thumbnail url => rfl
  | reference post label =>
    cases hf : d.shown? p with
    | none => simp [inside, shows, hf]
    | some fragment =>
      rw [elements_inside layOut hf]
      simp [inside, shows, hf, h]

theorem count_fragmentStart_layoutSegments {layOut : Slot.Path → Text → List Piece}
    (h : ∀ p t, (layOut p t).count .fragmentStart =
      ((layOut p t).filterMap Piece.element?).countP d.shows) (i : Nat) (segs : List Segment) :
    (d.layoutSegments layOut parent i segs).count .fragmentStart =
      ((d.layoutSegments layOut parent i segs).filterMap Piece.element?).countP d.shows := by
  induction segs generalizing i with
  | nil => rfl
  | cons seg segs ih =>
    by_cases hs : seg.isInteractive
    · have hne : d.pieceAt (parent ++ [i]) seg ≠ .fragmentStart := by
        intro e
        simpa [e] using element?_pieceAt (d := d) (parent ++ [i]) hs
      rw [layoutSegments_cons layOut i segs hs, List.filterMap_cons, element?_pieceAt _ hs,
        List.count_cons_of_ne hne, List.count_append, count_fragmentStart_inside h, ih]
      simp only [List.filterMap_append, List.countP_cons, List.countP_append]
      omega
    · cases seg with
      | html t => simpa [layoutSegments, List.filterMap_cons] using ih i
      | reference post label => exact absurd rfl hs
      | image thumbnail url => exact absurd rfl hs

theorem count_fragmentStart_layoutWithin (levels : Nat) :
    (d.layoutWithin levels parent html).count .fragmentStart =
      ((d.layoutWithin levels parent html).filterMap Piece.element?).countP d.shows := by
  induction levels generalizing parent html with
  | zero => rfl
  | succ levels ih => exact count_fragmentStart_layoutSegments (fun _ _ => ih) 0 _

theorem count_fragmentStart_layout (d : Document) :
    d.layout.count .fragmentStart = d.elements.countP d.shows :=
  count_fragmentStart_layoutWithin _

end Document

end ForumClient
