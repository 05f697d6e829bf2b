import ForumClient.Proofs.Nesting
import ForumClient.Proofs.TagReader

namespace ForumClient

open Markup

namespace Entity

theorem close_not_mem_escape (s : Text) : '>' ∉ escape s := by
  rw [escape, List.mem_flatMap]
  rintro ⟨c, -, hc⟩
  unfold escapeChar at hc
  split at hc
  · revert hc
    decide
  · revert hc
    decide
  · revert hc
    decide
  · revert hc
    decide
  · next hgt _ => exact hgt (List.mem_singleton.mp hc).symm

theorem quote_not_mem_escapeQuotes (s : Text) : '"' ∉ escapeQuotes s := by
  rw [escapeQuotes, List.mem_flatMap]
  rintro ⟨c, -, hc⟩
  split at hc
  · revert hc
    decide
  · next h => exact h (List.mem_singleton.mp hc).symm

end Entity

namespace Markup

def Item.slot? : Item → Option Text
  | .tag t => t.attributes.lookup "data-slot".toList
  | .char _ => none

def Item.opensFragment : Item → Bool
  | .tag t => t = ⟨false, "div".toList, [("class".toList, "post-ref-fragment".toList)]⟩
  | .char _ => false

/-- Markup that leaves a reader outside of all tags, with no slot and no fragment of its own. -/
structure Inert (t : Text) : Prop where
  ends : (read .outside t).2 = .outside
  slots : (read .outside t).1.filterMap Item.slot? = []
  fragments : (read .outside t).1.countP Item.opensFragment = 0

end Markup

namespace Piece

def marker (r : Reference) : Text := if r.isErrored then Reference.errorMarker.toList else []

def IsPlainText (s : Text) : Prop := '<' ∉ s ∧ '>' ∉ s

theorem isPlainText_escape (s : Text) : IsPlainText (Entity.escape s) :=
  ⟨Entity.not_mem_escape s, Entity.close_not_mem_escape s⟩

theorem isPlainText_marker (r : Reference) : IsPlainText (marker r) := by
  unfold marker IsPlainText
  split <;> decide

theorem isPlainText_inner (label : Text) (r : Reference) :
    IsPlainText (Entity.escape label ++ marker r) := by
  obtain ⟨hopen, hclose⟩ := isPlainText_escape label
  obtain ⟨hopen', hclose'⟩ := isPlainText_marker r
  exact ⟨List.not_mem_append hopen hopen', List.not_mem_append hclose hclose'⟩

def referenceClass (r : Reference) : Text :=
  if r = .loading then "post-ref loading".toList else "post-ref".toList

def referenceAttributes (id : Text) (r : Reference) : List (Text × Text) :=
  [("href".toList, "javascript:void(0)".toList), ("class".toList, referenceClass r),
    (slotAttribute.toList, id)]

theorem referenceText_eq (id : Text) (r : Reference) (label : Text) :
    referenceText id r label = openingText ['a'] (referenceAttributes id r) ++
      ((Entity.escape label ++ marker r) ++ closingText ['a']) := by
  unfold referenceText
  extract_lets cssClass errorMarker
  have hclass : cssClass.toList = referenceClass r := by
    unfold cssClass referenceClass
    split <;> rfl
  have hmarker : errorMarker.toList = marker r := by
    unfold errorMarker marker
    split <;> rfl
  rw [hclass, hmarker, referenceAttributes]
  simp only [openingText, attributeText, List.flatMap_cons, List.flatMap_nil, List.append_assoc,
    List.cons_append, List.nil_append]
  rfl

def progressText (label : Text) : Text :=
  if label = [] then []
  else openingText "span".toList [("class".toList, "image-progress".toList)] ++
    (Entity.escape label ++ closingText "span".toList)

def imageAttributes (id : Text) (i : Image) (thumbnail : Text) : List (Text × Text) :=
  [("class".toList, i.cssClass.toList), ("src".toList, Entity.escapeQuotes (i.source thumbnail)),
    (slotAttribute.toList, id)]

theorem imageText_eq (id : Text) (i : Image) (thumbnail : Text) :
    imageText id i thumbnail =
      openingText "span".toList [("class".toList, "post-image".toList)] ++
        (openingText "img".toList (imageAttributes id i thumbnail) ++
          (progressText i.label ++ closingText "span".toList)) := by
  unfold imageText
  extract_lets progress
  have hprogress : progress = progressText i.label := by
    unfold progress progressText
    split
    · rfl
    · simp only [openingText, attributeText, List.flatMap_cons, List.flatMap_nil,
        List.append_assoc, List.cons_append, List.nil_append]
      rfl
  rw [hprogress, imageAttributes]
  simp only [openingText, attributeText, List.flatMap_cons, List.flatMap_nil, List.append_assoc,
    List.cons_append, List.nil_append]
  rfl

def closingTag (name : Text) : Item := .tag { closing := true, name }

def spanTag (cssClass : Text) : Item :=
  .tag { name := "span".toList, attributes := [("class".toList, cssClass)] }

def link (id : Text) (r : Reference) (inner : Text) : List Item :=
  .tag { name := ['a'], attributes := referenceAttributes id r } :: inner.map .char ++
    [closingTag ['a']]

theorem read_referenceText {id : Text} (hid : '"' ∉ id) (r : Reference) (label : Text) :
    read .outside (referenceText id r label) =
      (link id r (Entity.escape label ++ marker r), .outside) := by
  have hattributes : ∀ a ∈ referenceAttributes id r, IsAttribute a.1 a.2 := by
    simp only [referenceAttributes, List.forall_mem_cons]
    refine ⟨⟨by decide, by decide, by decide⟩, ⟨by decide, by decide, ?_⟩,
      ⟨by decide, by decide, hid⟩, nofun⟩
    unfold referenceClass
    split <;> decide
  rw [referenceText_eq, read_append, read_openingText (by decide) hattributes, read_append,
    read_text (isPlainText_inner label r).1, read_closingText (by decide)]
  rfl

def progressItems (label : Text) : List Item :=
  if label = [] then []
  else spanTag "image-progress".toList ::
    (Entity.escape label).map .char ++ [closingTag "span".toList]

theorem isAttribute_class {name : Text} (h : '"' ∉ name) : IsAttribute "class".toList name :=
  ⟨by decide, by decide, h⟩

theorem read_progressText (label : Text) :
    read .outside (progressText label) = (progressItems label, .outside) := by
  unfold progressText progressItems
  split
  · rfl
  · rw [read_append, read_openingText (by decide)
      (List.forall_mem_singleton.mpr (isAttribute_class (by decide))), read_append,
      read_text (Entity.not_mem_escape label), read_closingText (by decide)]
    rfl

theorem read_imageText {id : Text} (hid : '"' ∉ id) (i : Image) (thumbnail : Text) :
    read .outside (imageText id i thumbnail) =
      (spanTag "post-image".toList ::
        .tag { name := "img".toList, attributes := imageAttributes id i thumbnail } ::
          progressItems i.label ++ [closingTag "span".toList], .outside) := by
  have hattributes : ∀ a ∈ imageAttributes id i thumbnail, IsAttribute a.1 a.2 := by
    simp only [imageAttributes, List.forall_mem_cons]
    refine ⟨isAttribute_class ?_, ⟨by decide, by decide, Entity.quote_not_mem_escapeQuotes _⟩,
      ⟨by decide, by decide, hid⟩, nofun⟩
    rw [Image.cssClass]
    split <;> decide
  rw [imageText_eq, read_append, read_openingText (by decide)
    (List.forall_mem_singleton.mpr (isAttribute_class (by decide))), read_append,
    read_openingText (by decide) hattributes, read_append, read_progressText,
    read_closingText (by decide)]
  rfl

theorem quote_not_mem_name (p : Slot.Path) : '"' ∉ Slot.name p :=
  fun h => absurd (Slot.isDigit_or_dot_of_mem_name h) (by decide)

inductive IsProgress : List Item → Prop
  | none : IsProgress []
  | label {inner : Text} (plain : IsPlainText inner) :
      IsProgress (spanTag "image-progress".toList ::
        inner.map .char ++ [closingTag "span".toList])

/-- What a reader makes of an element that is written under a name: one link around text, or one
picture in its frame, with at most one label behind it. These are all the tags, and all their
attributes. -/
inductive IsElement (id : Text) : Segment → List Item → Prop
  | link {post : PostId} {label inner : Text} (cssClass : Text) (plain : IsPlainText inner) :
      IsElement id (.reference post label)
        (.tag ⟨false, ['a'], [("href".toList, "javascript:void(0)".toList),
            ("class".toList, cssClass), ("data-slot".toList, id)]⟩ ::
          inner.map .char ++ [closingTag ['a']])
  | picture {thumbnail url : Text} {progress : List Item} (cssClass source : Text)
      (isProgress : IsProgress progress) :
      IsElement id (.image thumbnail url)
        (spanTag "post-image".toList ::
          .tag ⟨false, "img".toList, [("class".toList, cssClass), ("src".toList, source),
            ("data-slot".toList, id)]⟩ ::
          progress ++ [closingTag "span".toList])

theorem isProgress_progressItems (label : Text) : IsProgress (progressItems label) := by
  unfold progressItems
  split
  · exact .none
  · exact .label (isPlainText_escape label)

theorem slots_chars (s : Text) : (s.map Item.char).filterMap Item.slot? = [] := by
  simp [List.filterMap_map, Item.slot?, Function.comp_def]

theorem fragments_chars (s : Text) : (s.map Item.char).countP Item.opensFragment = 0 := by
  simp [List.countP_map, Item.opensFragment, Function.comp_def]

theorem slots_link (id : Text) (r : Reference) (inner : Text) :
    (link id r inner).filterMap Item.slot? = [id] := by
  have htag : Item.slot? (.tag { name := ['a'], attributes := referenceAttributes id r }) =
      some id := rfl
  rw [link, List.cons_append, List.filterMap_cons, htag, List.filterMap_append, slots_chars]
  rfl

theorem fragments_link (id : Text) (r : Reference) (inner : Text) :
    (link id r inner).countP Item.opensFragment = 0 := by
  rw [link, List.cons_append, List.countP_cons_of_neg (by simp [Item.opensFragment]),
    List.countP_append, fragments_chars]
  rfl

theorem items_progress (label : Text) : (progressItems label).filterMap Item.slot? = [] ∧
    (progressItems label).countP Item.opensFragment = 0 := by
  unfold progressItems
  split
  · exact ⟨rfl, rfl⟩
  · rw [List.filterMap_append, List.countP_append, List.filterMap_cons, List.countP_cons,
      slots_chars, fragments_chars]
    exact ⟨rfl, rfl⟩

theorem exists_read_text {p : Piece} (h : ∀ t, p ≠ .html t) :
    ∃ items, read .outside p.text = (items, .outside) ∧
      items.filterMap Item.slot? = (p.element?.map fun e => Slot.name e.1).toList ∧
      items.countP Item.opensFragment = [p].count .fragmentStart := by
  cases p with
  | html t => exact absurd rfl (h t)
  | fragmentStart =>
    exact ⟨[.tag ⟨false, "div".toList, [("class".toList, "post-ref-fragment".toList)]⟩],
      by decide, by decide, by decide⟩
  | fragmentEnd => exact ⟨[closingTag "div".toList], by decide, by decide, by decide⟩
  | reference p r post label =>
    exact ⟨_, read_referenceText (quote_not_mem_name p) r label, slots_link _ r _,
      fragments_link _ r _⟩
  | image p i thumbnail url =>
    obtain ⟨hslots, hfragments⟩ := items_progress i.label
    have htag : Item.slot? (.tag ⟨false, "img".toList,
        imageAttributes (Slot.name p) i thumbnail⟩) = some (Slot.name p) := rfl
    refine ⟨_, read_imageText (quote_not_mem_name p) i thumbnail, ?_, ?_⟩
    · rw [List.cons_append, List.filterMap_cons, List.cons_append, List.filterMap_cons, htag,
        List.filterMap_append, hslots]
      rfl
    · rw [List.cons_append, List.countP_cons, List.cons_append,
        List.countP_cons_of_neg (by simp [Item.opensFragment]), List.countP_append, hfragments]
      rfl

end Piece

namespace Document

variable {d : Document}

/-- Whatever a document keeps and shows, each of its elements is read as that one element, under
the name it is found by. -/
theorem elements_sealed (d : Document) {piece : Piece} {p : Slot.Path} {seg : Segment}
    (h : piece ∈ d.layout) (he : piece.element? = some (p, seg)) :
    ∃ items, read .outside piece.text = (items, .outside) ∧
      Piece.IsElement (Slot.name p) seg items ∧ (Slot.name p, seg) ∈ d.written := by
  have hwritten : (Slot.name p, seg) ∈ d.written :=
    List.mem_map_of_mem (f := fun e => (Slot.name e.1, e.2)) (List.mem_filterMap.mpr ⟨piece, h, he⟩)
  cases piece with
  | html | fragmentStart | fragmentEnd => cases he
  | reference q r post label =>
    cases he
    exact ⟨_, Piece.read_referenceText (Piece.quote_not_mem_name p) r label,
      .link _ (Piece.isPlainText_inner label r), hwritten⟩
  | image q i thumbnail url =>
    cases he
    exact ⟨_, Piece.read_imageText (Piece.quote_not_mem_name p) i thumbnail,
      .picture _ _ (Piece.isProgress_progressItems i.label), hwritten⟩

theorem read_flatMap_text {ps : List Piece} (h : ∀ t, .html t ∈ ps → Inert t) :
    ∃ items, read .outside (ps.flatMap Piece.text) = (items, .outside) ∧
      items.filterMap Item.slot? = (ps.filterMap Piece.element?).map (fun e => Slot.name e.1) ∧
      items.countP Item.opensFragment = ps.count .fragmentStart := by
  induction ps with
  | nil => exact ⟨[], rfl, rfl, rfl⟩
  | cons p ps ih =>
    obtain ⟨items, hread, hslots, hfragments⟩ := ih fun t ht => h t (.tail p ht)
    obtain ⟨first, hfirst, hslot, hfragment⟩ : ∃ items, read .outside p.text = (items, .outside) ∧
        items.filterMap Item.slot? = (p.element?.map fun e => Slot.name e.1).toList ∧
        items.countP Item.opensFragment = [p].count .fragmentStart := by
      by_cases hp : ∃ t, p = .html t
      · obtain ⟨t, rfl⟩ := hp
        obtain ⟨ends, slots, fragments⟩ := h t List.mem_cons_self
        exact ⟨_, Prod.ext rfl ends, slots, fragments⟩
      · exact Piece.exists_read_text (not_exists.mp hp)
    refine ⟨first ++ items, ?_, ?_, ?_⟩
    · rw [List.flatMap_cons, read_append, hfirst, hread]
    · rw [List.filterMap_append, hslot, hslots, List.filterMap_cons]
      cases p.element? <;> rfl
    · rw [List.countP_append, hfragment, hfragments, ← List.count_append]
      rfl

/-- What a reader finds in a rendering are the written names, in their order, and as many divisions
around fragments as the layout has. -/
theorem names_render (h : ∀ t, .html t ∈ d.layout → Inert t) :
    (read .outside d.render).1.filterMap Item.slot? = d.written.map Prod.fst ∧
      (read .outside d.render).1.countP Item.opensFragment = d.layout.count .fragmentStart := by
  obtain ⟨items, hread, hslots, hfragments⟩ := read_flatMap_text h
  rw [render, hread]
  refine ⟨hslots.trans ?_, hfragments⟩
  rw [written, elements, List.map_map]
  rfl

def hostile : Document where
  html := "<a href='javascript:void(0)' onclick='_ref(this, 1)'>\"><b x=\"</a>".toList ++
    "<img src='t' onclick=\"_enlarge(this, 'u')\">".toList
  images := .ofList [(['1'],
    { download := .loaded "\" onerror=\"x\"><b>".toList, label := "</span><b>".toList })]

theorem sealed_hostile :
    hostile.pieceAt [1] (.image ['t'] ['u']) ∈ hostile.layout ∧
      ∃ items, read .outside (hostile.pieceAt [1] (.image ['t'] ['u'])).text = (items, .outside) ∧
        Piece.IsElement ['1'] (.image ['t'] ['u']) items ∧
        (['1'], .image ['t'] ['u']) ∈ hostile.written :=
  ⟨by decide +kernel, elements_sealed hostile (p := [1]) (by decide +kernel) rfl⟩

example : (read .outside "<img src=\"\" onerror=\"x\"><b>\">".toList).1.length = 4 := by decide

end Document

end ForumClient
