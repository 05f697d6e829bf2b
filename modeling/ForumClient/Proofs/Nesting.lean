import ForumClient.Proofs.DivMarks
import ForumClient.Proofs.Replies

namespace ForumClient

open Markup

namespace Entity

theorem not_mem_escape (s : Text) : '<' ∉ escape s := by
  rw [escape, List.mem_flatMap]
  rintro ⟨c, -, hc⟩
  unfold escapeChar at hc
  split at hc
  · revert hc
    decide
  · revert hc
    decide
  · revert hc
    decide
  · revert hc
    decide
  · next hlt _ _ => exact hlt (List.mem_singleton.mp hc).symm

theorem escapeQuotes_cons (c : Char) (s : Text) : escapeQuotes (c :: s) =
    (if c = '"' then "&quot;".toList else [c]) ++ escapeQuotes s := rfl

theorem prefix_of_prefix_escapeQuotes {p s : Text} (hp : '&' ∉ p) (h : p <+: escapeQuotes s) :
    p <+: s := by
  induction s generalizing p with
  | nil => exact h
  | cons c s ih =>
    cases p with
    | nil => exact List.nil_prefix
    | cons d p =>
      rw [List.mem_cons, not_or] at hp
      rw [escapeQuotes_cons] at h
      split at h
      · exact absurd (List.cons_prefix_cons.mp h).1.symm hp.1
      · obtain ⟨rfl, hs⟩ := List.cons_prefix_cons.mp h
        exact List.cons_prefix_cons.mpr ⟨rfl, ih hp.2 hs⟩

theorem divFree_escapeQuotes {s : Text} (h : DivFree s) : DivFree (escapeQuotes s) := by
  rw [← marks_eq_nil_iff] at h ⊢
  induction s with
  | nil => rfl
  | cons c s ih =>
    rw [marks, List.append_eq_nil_iff, Option.toList_eq_nil_iff, mark?_eq_none_iff] at h
    by_cases hc : c = '"'
    · rw [escapeQuotes_cons, if_pos hc]
      exact ih h.2
    · have hesc : escapeQuotes (c :: s) = c :: escapeQuotes s := by
        rw [escapeQuotes_cons, if_neg hc]
        rfl
      have hnone : mark? (escapeQuotes (c :: s)) = none := mark?_eq_none_iff.mpr fun m hm =>
        h.1 m (prefix_of_prefix_escapeQuotes (by cases m <;> decide) hm)
      rw [hesc] at hnone ⊢
      rw [marks, hnone, ih h.2]
      rfl

end Entity

namespace Piece

theorem not_mem_name (p : Slot.Path) : '<' ∉ Slot.name p :=
  fun h => absurd (Slot.isDigit_or_dot_of_mem_name h) (by decide)

theorem marks_skip {s t : Text} (hs : '<' ∉ s) (ht : marks t = []) : marks (s ++ t) = [] :=
  (marks_append_of_not_mem hs t).trans ht

theorem marks_reference (p : Slot.Path) (r : Reference) (post : PostId) (label : Text) :
    marks (reference p r post label).text = [] := by
  change marks (referenceText (Slot.name p) r label) = []
  unfold referenceText
  extract_lets cssClass marker
  have hclass : '<' ∉ cssClass.toList := by
    unfold cssClass
    split <;> decide
  have hmarker : '<' ∉ marker.toList := by
    unfold marker
    split <;> decide
  simp only [List.append_assoc]
  refine (marks_append_of_sealed (by decide) (by decide) _).trans (marks_skip hclass ?_)
  refine marks_skip (by decide) (marks_skip (by decide) (marks_skip (by decide) ?_))
  refine marks_skip (not_mem_name p) (marks_skip (by decide) ?_)
  exact marks_skip (Entity.not_mem_escape label) (marks_skip hmarker (by decide))

theorem marks_image (p : Slot.Path) {i : Image} {thumbnail : Text} (url : Text)
    (h : DivFree (i.source thumbnail)) : marks (image p i thumbnail url).text = [] := by
  change marks (imageText (Slot.name p) i thumbnail) = []
  unfold imageText
  extract_lets progress
  have hclass : '<' ∉ i.cssClass.toList := by
    rw [Image.cssClass]
    split <;> decide
  have hsource := marks_eq_nil_iff.mpr (Entity.divFree_escapeQuotes h)
  have hprogress : marks progress = [] := by
    unfold progress
    split
    · rfl
    · rw [List.append_assoc]
      refine (marks_append_of_sealed (by decide) (by decide) _).trans ?_
      exact marks_skip (Entity.not_mem_escape i.label) (by decide)
  simp only [List.append_assoc]
  refine (marks_append_of_sealed (by decide) (by decide) _).trans (marks_skip hclass ?_)
  refine (marks_append_of_sealed (by decide) (by decide) _).trans ?_
  rw [marks_append (.inr (by rintro c ⟨⟩; decide)), hsource]
  refine marks_skip (by decide) (marks_skip (by decide) (marks_skip (by decide) ?_))
  refine marks_skip (not_mem_name p) (marks_skip (by decide) ?_)
  rw [marks_append (.inr (by rintro c ⟨⟩; decide)), hprogress]
  decide

theorem head?_text {p : Piece} (h : ∀ t, p ≠ .html t) : '<' ∈ p.text.head? := by
  cases p with
  | html t => exact absurd rfl (h t)
  | reference p r post label =>
    change _ ∈ (referenceText (Slot.name p) r label).head?
    unfold referenceText
    simp only [List.append_assoc]
    exact List.mem_head?_append_of_mem_head? (by decide)
  | fragmentStart | fragmentEnd => decide
  | image p i thumbnail url =>
    change _ ∈ (imageText (Slot.name p) i thumbnail).head?
    unfold imageText
    simp only [List.append_assoc]
    exact List.mem_head?_append_of_mem_head? (by decide)

theorem getLast?_text {p : Piece} (h : ∀ t, p ≠ .html t) : '>' ∈ p.text.getLast? := by
  cases p with
  | html t => exact absurd rfl (h t)
  | reference p r post label =>
    change _ ∈ (referenceText (Slot.name p) r label).getLast?
    unfold referenceText
    exact List.mem_getLast?_append_of_mem_getLast? (by decide)
  | fragmentStart | fragmentEnd => decide
  | image p i thumbnail url =>
    change _ ∈ (imageText (Slot.name p) i thumbnail).getLast?
    unfold imageText
    exact List.mem_getLast?_append_of_mem_getLast? (by decide)

theorem seam_text {p : Piece} (h : ∀ t, p ≠ .html t) (s t : Text) : Seam s (p.text ++ t) := by
  refine .inr fun c hc => ?_
  cases Option.mem_unique hc (List.mem_head?_append_of_mem_head? (head?_text h))
  decide

theorem marks_text_append {p : Piece} (h : ∀ t, p ≠ .html t) (s : Text) :
    marks (p.text ++ s) = marks p.text ++ marks s := by
  refine marks_append (.inl fun c hc => ?_)
  cases Option.mem_unique hc (getLast?_text h)
  decide

end Piece

namespace Document

variable {d : Document} {parent p : Slot.Path} {seg : Segment} {segs : List Segment}
  {layOut : Slot.Path → Text → List Piece}

def LaysOutBalanced (d : Document) (layOut : Slot.Path → Text → List Piece) : Prop :=
  ∀ p fragment, d.shown? p = some fragment → DivBalanced ((layOut p fragment).flatMap Piece.text)

theorem depthAfter_inside (h : d.LaysOutBalanced layOut) (p : Slot.Path) (seg : Segment) (n : Nat)
    (t : Text) : depthAfter n (marks ((d.inside layOut p seg).flatMap Piece.text ++ t)) =
      depthAfter n (marks t) := by
  cases seg with
  | html | image => rfl
  | reference post label =>
    cases hf : d.shown? p with
    | none => rw [inside, hf]; rfl
    | some fragment =>
      have hend : Seam ((layOut p fragment).flatMap Piece.text) (Piece.fragmentEnd.text ++ t) :=
        Piece.seam_text (by simp) _ t
      have hwritten : (d.inside layOut p (.reference post label)).flatMap Piece.text ++ t =
          Piece.fragmentStart.text ++ ((layOut p fragment).flatMap Piece.text ++
            (Piece.fragmentEnd.text ++ t)) := by
        simp [inside, hf]
      have hopening : marks Piece.fragmentStart.text = [.opening] := by decide
      have hclosing : marks Piece.fragmentEnd.text = [.closing] := by decide
      rw [hwritten, Piece.marks_text_append (by simp), marks_append hend,
        Piece.marks_text_append (by simp), hopening, hclosing, List.singleton_append, depthAfter,
        depthAfter_append, (h p fragment hf).depthAfter]
      rfl

theorem pieceAt_ne_html (h : seg.isInteractive) (t : Text) : d.pieceAt p seg ≠ .html t := by
  cases seg with
  | html => cases h
  | reference | image => exact nofun

theorem seam_layoutSegments {t : Text} (h : Separated (.html t :: segs)) (s : Text) (i : Nat) :
    Seam s ((d.layoutSegments layOut parent i segs).flatMap Piece.text) := by
  cases segs with
  | nil => exact .inr nofun
  | cons seg segs =>
    have hseg := ((List.isChain_cons_cons.mp h).1).resolve_left nofun
    rw [layoutSegments_cons layOut i segs hseg, List.flatMap_cons]
    exact Piece.seam_text (pieceAt_ne_html hseg) s _

def ShowsDivFree (d : Document) (segs : List Segment) : Prop :=
  ∀ id thumbnail url, .image thumbnail url ∈ segs → DivFree ((d.image id).source thumbnail)

theorem ShowsDivFree.marks_pieceAt (h : d.ShowsDivFree segs) (hmem : seg ∈ segs)
    (hseg : seg.isInteractive) (p : Slot.Path) : marks (d.pieceAt p seg).text = [] := by
  cases seg with
  | html => cases hseg
  | reference post label => exact Piece.marks_reference p _ post label
  | image thumbnail url => exact Piece.marks_image p url (h _ thumbnail url hmem)

theorem depthAfter_layoutSegments (hin : d.LaysOutBalanced layOut) (himage : d.ShowsDivFree segs)
    (h : Separated segs) (i n : Nat) :
    depthAfter n (marks ((d.layoutSegments layOut parent i segs).flatMap Piece.text)) =
      depthAfter n (segs.flatMap Segment.marks) := by
  induction segs generalizing i n with
  | nil => rfl
  | cons seg segs ih =>
    have ih := ih (fun id thumbnail url hmem => himage id thumbnail url (.tail seg hmem))
      (List.isChain_of_isChain_cons h)
    by_cases hseg : seg.isInteractive
    · have hmarks : Segment.marks seg = [] := by
        cases seg with
        | html => cases hseg
        | reference | image => rfl
      rw [layoutSegments_cons layOut i segs hseg, List.flatMap_cons, List.flatMap_append,
        Piece.marks_text_append (pieceAt_ne_html hseg),
        himage.marks_pieceAt List.mem_cons_self hseg, List.nil_append, depthAfter_inside hin, ih,
        List.flatMap_cons, hmarks, List.nil_append]
    · cases seg with
      | html t =>
        rw [layoutSegments, List.flatMap_cons, List.flatMap_cons,
          marks_append (seam_layoutSegments h _ i), depthAfter_append, depthAfter_append]
        exact congrArg _ (funext (ih i))
      | reference | image => exact absurd rfl hseg

end Document

structure Markup.Nested (html : Text) : Prop where
  balanced : DivBalanced html
  divFree : ∀ t ∈ tags html, DivFree t

namespace Document

variable {d : Document} {op : Op} {html : Text}

structure Nested (d : Document) : Prop where
  html : Markup.Nested d.html
  fragment : ∀ id fragment, (d.reference id).fragment? = some fragment → Markup.Nested fragment
  image : ∀ id url, (d.image id).download.result? = some url → DivFree url

theorem Nested.showsDivFree (hd : d.Nested) (h : Markup.Nested html) :
    d.ShowsDivFree (segments html) := by
  intro id thumbnail url hmem
  unfold Image.source
  split
  · next u hu => exact hd.image id u (congrArg Download.result? hu)
  · obtain ⟨t, ht, htag⟩ := exists_mem_tags rfl hmem
    exact (h.divFree t ht).of_isInfix (isInfix_of_isTag_image htag)

theorem Nested.balanced_layoutWithin (hd : d.Nested) (levels : Nat) (parent : Slot.Path)
    (h : Markup.Nested html) :
    DivBalanced ((d.layoutWithin levels parent html).flatMap Piece.text) := by
  induction levels generalizing parent html with
  | zero => rfl
  | succ levels ih =>
    have hin : d.LaysOutBalanced (d.layoutWithin levels) :=
      fun p fragment hp => ih p (hd.fragment _ fragment hp)
    rw [DivBalanced, layoutWithin, depthAfter_layoutSegments hin (hd.showsDivFree h)
      (separated_segments html), ← marks_eq_flatMap h.divFree]
    exact h.balanced

theorem Nested.balanced_render (hd : d.Nested) : DivBalanced d.render :=
  hd.balanced_layoutWithin _ [] hd.html

structure Balanced (d : Document) : Prop where
  html : DivBalanced d.html
  fragment : ∀ id fragment, (d.reference id).fragment? = some fragment → DivBalanced fragment

/-- No tag that can be acted on and no address of an image holds a mark. -/
structure Clean (d : Document) : Prop where
  html : ∀ t ∈ tags d.html, DivFree t
  fragment : ∀ e ∈ d.references.entries, ∀ fragment ∈ e.2.fragment?,
    ∀ t ∈ tags fragment, DivFree t
  image : ∀ e ∈ d.images.entries, ∀ url ∈ e.2.download.result?, DivFree url

instance (d : Document) : Decidable d.Clean :=
  decidable_of_iff ((∀ t ∈ tags d.html, DivFree t) ∧
      (∀ e ∈ d.references.entries, ∀ fragment ∈ e.2.fragment?, ∀ t ∈ tags fragment, DivFree t) ∧
      ∀ e ∈ d.images.entries, ∀ url ∈ e.2.download.result?, DivFree url)
    ⟨fun h => ⟨h.1, h.2.1, h.2.2⟩, fun h => ⟨h.html, h.fragment, h.image⟩⟩

theorem Balanced.nested (hd : d.Balanced) (hc : d.Clean) : d.Nested where
  html := ⟨hd.html, hc.html⟩
  fragment id fragment hf := by
    refine ⟨hd.fragment id fragment hf, ?_⟩
    rw [reference] at hf
    cases hr : d.references.get? id with
    | none => rw [hr] at hf; cases hf
    | some r =>
      rw [hr] at hf
      exact hc.fragment (id, r) (Table.mem_of_find?_eq_some hr) fragment hf
  image id url hu := by
    rw [Document.image] at hu
    cases hi : d.images.get? id with
    | none => rw [hi] at hu; cases hu
    | some i =>
      rw [hi] at hu
      exact hc.image (id, i) (Table.mem_of_find?_eq_some hi) url hu

/-- What a reply brings to a reference is balanced. -/
def Op.BringsBalanced : Op → Prop
  | .settleReference _ (.ok fragment) => DivBalanced fragment
  | _ => True

instance : (op : Op) → Decidable op.BringsBalanced
  | .settleReference _ (.ok fragment) => inferInstanceAs (Decidable (DivBalanced fragment))
  | .settleReference _ (.error _) | .settleImage _ _ | .clickReference _ | .clickImage _ _
  | .imageProgress _ _ _ => .isTrue trivial

theorem balanced_ofHtml (h : DivBalanced html) : (ofHtml html).Balanced where
  html := h
  fragment _ _ h := by cases h

theorem Balanced.perform (hd : d.Balanced) (h : op.BringsBalanced) : (d.perform op).Balanced where
  html := by
    rw [html_perform]
    exact hd.html
  fragment id fragment hf := by
    have hcontent : (d.perform op).content? id (.post ⟨0⟩) = some fragment := hf
    rcases content?_perform hcontent with hf | ⟨rfl, -⟩
    · exact hd.fragment id fragment hf
    · exact h

/-- However a post is clicked and whatever its requests bring, if all markup that comes is balanced
and no tag or address in the document holds a mark by then, its rendering is balanced. -/
theorem balanced_render_run (h : DivBalanced html) {ops : List Op}
    (hops : ∀ op ∈ ops, op.BringsBalanced) (hclean : ((ofHtml html).run ops).Clean) :
    DivBalanced ((ofHtml html).run ops).render := by
  -- tags may hold marks on the way, so only the balance is kept by every operation
  suffices hd : ((ofHtml html).run ops).Balanced from (hd.nested hclean).balanced_render
  clear hclean
  induction ops using List.reverseRecOn with
  | nil => exact balanced_ofHtml h
  | append_singleton ops op ih =>
    rw [List.forall_mem_append] at hops
    rw [run_concat]
    exact (ih hops.1).perform (hops.2 op List.mem_cons_self)

def divisionClicks : List Op := [
  .clickReference ['0'],
  .settleReference ['0'] (.ok "<img src='<div' onclick=\"_enlarge(this, 'u')\"></div>".toList),
  .clickReference ['0'],
  .clickReference ['0'],
  .settleReference ['0']
    (.ok "<div><img src='t' onclick=\"_enlarge(this, 'u')\"></div>".toList),
  .clickImage ['0', '.', '0'] .expand,
  .settleImage ['0', '.', '0'] (.ok "blob".toList)]

def division : Text := "<div>".toList ++ quoteOf "1" ++ "</div>".toList

theorem balanced_render_divisionClicks :
    DivBalanced division ∧ (∀ op ∈ divisionClicks, op.BringsBalanced) ∧
      ((ofHtml division).run divisionClicks).Clean ∧
      ((ofHtml division).run divisionClicks).content? ['0', '.', '0'] (.image []) =
        some "blob".toList ∧
      DivBalanced ((ofHtml division).run divisionClicks).render :=
  ⟨by decide +kernel, by decide +kernel, by decide +kernel, by decide +kernel,
    balanced_render_run (by decide +kernel) (by decide +kernel) (by decide +kernel)⟩

example :
    ¬ DivBalanced ((ofHtml "<img src='t' onclick=\"_enlarge(this, 'u')\">".toList).run [
      .clickImage ['0'] .expand, .settleImage ['0'] (.ok "<div".toList)]).render := by
  decide +kernel

end Document

end ForumClient
