import ForumClient.Proofs.Replacement
import ForumClient.Proofs.SlotElement

namespace ForumClient

open Markup

namespace Entity

theorem escape_cons (c : Char) (s : Text) : escape (c :: s) = escapeChar c ++ escape s := rfl

theorem escape_append (s t : Text) : escape (s ++ t) = escape s ++ escape t := List.flatMap_append

theorem escapeQuotes_append (s t : Text) :
    escapeQuotes (s ++ t) = escapeQuotes s ++ escapeQuotes t := List.flatMap_append

theorem unescape_escapeChar_append (c : Char) (s : Text) :
    unescape (escapeChar c ++ s) = escapeQuotes [c] ++ unescape s := by
  unfold escapeChar
  split
  · rfl
  · rfl
  · rfl
  · rfl
  · next hamp _ _ hquot =>
    rw [List.singleton_append, unescape_cons hamp, escapeQuotes_cons, if_neg hquot]
    rfl

theorem unescape_escape (s : Text) : unescape (escape s) = escapeQuotes s := by
  induction s with
  | nil => rfl
  | cons c s ih =>
    rw [escape_cons, unescape_escapeChar_append, ih, ← escapeQuotes_append, List.singleton_append]

theorem length_escapeQuotes (s : Text) :
    (escapeQuotes s).length = s.length + 5 * s.count '"' := by
  induction s with
  | nil => rfl
  | cons c s ih =>
    rw [escapeQuotes_cons, List.length_append, ih, List.count_cons]
    by_cases hc : c = '"' <;> simp [hc] <;> omega

theorem escapeQuotes_eq_self_iff {s : Text} : escapeQuotes s = s ↔ '"' ∉ s := by
  constructor
  · intro h
    have hlength := length_escapeQuotes s
    rw [h] at hlength
    exact List.count_eq_zero.mp (by omega)
  · intro h
    induction s with
    | nil => rfl
    | cons c s ih =>
      rw [List.mem_cons, not_or] at h
      rw [escapeQuotes_cons, if_neg (Ne.symm h.1), ih h.2]
      rfl

theorem length_escape_escapeQuotes (s : Text) :
    (escape (escapeQuotes s)).length = (escape s).length + 4 * s.count '"' := by
  induction s with
  | nil => rfl
  | cons c s ih =>
    rw [escapeQuotes_cons, escape_append, escape_cons, List.length_append, List.length_append, ih,
      List.count_cons]
    by_cases hc : c = '"'
    · simp [hc, escape, escapeChar]
      omega
    · simp [hc, escape]
      omega

theorem escape_escapeQuotes_eq_iff {s : Text} : escape (escapeQuotes s) = escape s ↔ '"' ∉ s := by
  constructor
  · intro h
    have hlength := length_escape_escapeQuotes s
    rw [h] at hlength
    exact List.count_eq_zero.mp (by omega)
  · intro h
    rw [escapeQuotes_eq_self_iff.mpr h]

end Entity

namespace Markup

variable {s t u source label : Text} {segs : List Segment} {seg : Segment}

theorem IsTag.unique {meaning meaning' : Option Segment} (h : IsTag t meaning)
    (h' : IsTag t meaning') : meaning = meaning' := by
  have he := (element?_of_isTag h []).symm.trans (element?_of_isTag h' [])
  simpa using he

theorem filter_isInteractive_consHtml (t : Text) (segs : List Segment) :
    (consHtml t segs).filter Segment.isInteractive = segs.filter Segment.isInteractive := by
  cases segs with
  | nil => rfl
  | cons seg segs => cases seg <;> rfl

theorem forall₂_tags (s : Text) :
    List.Forall₂ (fun t seg => IsTag t (some seg)) (tags s) (interactive s) := by
  induction s using tag_induction with
  | nil => exact .nil
  | char c s h ih =>
    rw [tags_char h, interactive, segments_cons h, filter_isInteractive_consHtml]
    exact ih
  | tag t meaning rest h ih =>
    rw [tags_tag h, interactive]
    cases meaning with
    | none =>
      rw [segments_kept h, filter_isInteractive_consHtml]
      exact ih
    | some seg =>
      rw [segments_tag h, List.filter_cons_of_pos (isInteractive_of_isTag h)]
      exact .cons h ih

theorem interactive_of_tags {i : Nat} (h : (tags s)[i]? = some t) :
    ∃ seg, (interactive s)[i]? = some seg ∧ IsTag t (some seg) := by
  obtain ⟨hlength, hget⟩ := List.forall₂_iff_get.mp (forall₂_tags s)
  obtain ⟨hi, rfl⟩ := List.getElem?_eq_some_iff.mp h
  exact ⟨_, List.getElem?_eq_getElem (hlength ▸ hi), hget i hi (hlength ▸ hi)⟩

/-- An anchor that quotes a post, with a label as it stands in the markup. -/
inductive Quotes (post : PostId) (label : Text) : Text → Prop
  | mk (w : Spelling) {digits closing : Text} {n : Nat} (h : IsAnchor digits closing label)
      (number : Numeral.read? PostId.limit digits = some n) (eq : PostId.ofNat n = post) :
      Quotes post label (anchorText w digits closing label)

theorem Quotes.isTag {post : PostId} (h : Quotes post label source) :
    IsTag source (some (.reference post (Entity.unescape label))) := by
  obtain ⟨w, h, number, rfl⟩ := h
  have htag := IsTag.anchor w h
  rwa [referenceOf?, number] at htag

end Markup

namespace Document

variable {d : Document} {piece : Piece} {p q : Slot.Path} {html : Text} {seg : Segment}

/-- The markup that stands under a path: the post itself, or what a reference shows. -/
def markup? (d : Document) : Slot.Path → Option Text
  | [] => some d.html
  | i :: p => match d.element? (i :: p) with
    | some (.reference _ _) => d.shown? (i :: p)
    | _ => none

theorem element?_concat (h : d.markup? q = some html) (i : Nat) :
    d.element? (q ++ [i]) = (interactive html)[i]? := by
  cases q with
  | nil =>
    cases h
    rfl
  | cons j q =>
    rw [markup?] at h
    split at h
    · next post label hat =>
      ext seg
      rw [at?_append_eq_some_iff (List.cons_ne_nil j q) (List.cons_ne_nil i [])]
      constructor
      · rintro ⟨_, _, fragment, -, hf, hi⟩
        cases h.symm.trans hf
        exact hi
      · exact fun hi => ⟨post, label, html, hat, h, hi⟩
    · cases h

def Faithful (d : Document) (piece : Piece) : Prop :=
  ∀ p seg, piece.element? = some (p, seg) → piece = d.pieceAt p seg

theorem Faithful.of_none (h : piece.element? = none) : d.Faithful piece := by
  intro p seg he
  rw [h] at he
  cases he

theorem faithful_layoutSegments {layOut : Slot.Path → Text → List Piece}
    (hin : ∀ p t, ∀ piece ∈ layOut p t, d.Faithful piece) {parent : Slot.Path} (i : Nat)
    (segs : List Segment) : ∀ piece ∈ d.layoutSegments layOut parent i segs, d.Faithful piece := by
  induction segs generalizing i with
  | nil => exact List.forall_mem_nil _
  | cons seg segs ih =>
    by_cases hseg : seg.isInteractive
    · rw [layoutSegments_cons layOut i segs hseg]
      refine List.forall_mem_cons.mpr ⟨?_, List.forall_mem_append.mpr ⟨?_, ih (i + 1)⟩⟩
      · intro p seg' he
        rw [element?_pieceAt _ hseg] at he
        cases he
        rfl
      · cases seg with
        | html | image => exact List.forall_mem_nil _
        | reference post label =>
          cases hf : d.shown? (parent ++ [i]) with
          | none =>
            rw [inside, hf]
            exact List.forall_mem_nil _
          | some fragment =>
            rw [inside, hf]
            refine List.forall_mem_append.mpr ⟨?_, ?_⟩
            · exact List.forall_mem_cons.mpr ⟨.of_none rfl, hin _ _⟩
            · exact List.forall_mem_singleton.mpr (.of_none rfl)
    · cases seg with
      | html t => exact List.forall_mem_cons.mpr ⟨.of_none rfl, ih i⟩
      | reference | image => exact absurd rfl hseg

theorem faithful_layoutWithin (levels : Nat) (parent : Slot.Path) (html : Text) :
    ∀ piece ∈ d.layoutWithin levels parent html, d.Faithful piece := by
  induction levels generalizing parent html with
  | zero => nofun
  | succ levels ih => exact faithful_layoutSegments ih 0 (segments html)

theorem pieceAt_mem_layout (h : d.element? p = some seg) : d.pieceAt p seg ∈ d.layout := by
  obtain ⟨piece, hpiece, he⟩ := List.mem_filterMap.mp (mem_elements_iff.mpr h)
  rwa [← faithful_layoutWithin _ _ _ piece hpiece p seg he]

/-- What is escaped reads back as it was exactly if it holds no quotation mark. The label of an
anchor, in the post or in any fragment that is shown, is read accordingly, and written between the
tags of its link as it stood in the markup under the same condition: otherwise the entities of its
quotation marks are escaped once more. -/
theorem label_kept_iff (t : Text) :
    Entity.unescape (Entity.escape t) = Entity.escapeQuotes t ∧
      (Entity.escapeQuotes t = t ↔ '"' ∉ t) ∧
      (Entity.escape (Entity.escapeQuotes t) = Entity.escape t ↔ '"' ∉ t) ∧
      ∀ (d : Document) (q : Slot.Path) (i : Nat) (html source : Text) (post : PostId),
        d.markup? q = some html → (tags html)[i]? = some source →
        Quotes post (Entity.escape t) source →
          (interactive html)[i]? = some (.reference post (Entity.escapeQuotes t)) ∧
          ∃ piece ∈ d.layout,
            piece.element? = some (q ++ [i], .reference post (Entity.escapeQuotes t)) ∧
            read .outside piece.text =
              (let id := Slot.name (q ++ [i])
              Piece.link id (d.reference id) (Entity.escape (Entity.escapeQuotes t) ++
                Piece.marker (d.reference id)), .outside) := by
  refine ⟨Entity.unescape_escape t, Entity.escapeQuotes_eq_self_iff,
    Entity.escape_escapeQuotes_eq_iff, ?_⟩
  intro d q i html source post hmarkup hsource hquotes
  have hread : (interactive html)[i]? = some (.reference post (Entity.escapeQuotes t)) := by
    obtain ⟨seg, hseg, htag⟩ := interactive_of_tags hsource
    rw [hseg, htag.unique hquotes.isTag, Entity.unescape_escape]
  refine ⟨hread, _, pieceAt_mem_layout ((element?_concat hmarkup i).trans hread), rfl, ?_⟩
  exact Piece.read_referenceText (Piece.quote_not_mem_name _) _ _

def labelled (label : Text) : Text :=
  "<a href='javascript:void(0)' onclick='_ref(this, 3)'>".toList ++ (label ++ "</a>".toList)

def entityLike : Text := ">>3 &quot;&amp;".toList

theorem quotes_labelled {label : Text} (hline : '\n' ∉ label) (hclose : '<' ∉ label) :
    Quotes ⟨3⟩ label (labelled label) :=
  have hanchor : IsAnchor ['3'] [] label :=
    ⟨nofun, by decide, rfl, hline, fun h => hclose (h.subset (by decide))⟩
  .mk {} hanchor (by decide) rfl

def unfetched : Document :=
  (ofHtml (labelled (Entity.escape entityLike))).run
    [.clickReference ['0'], .settleReference ['0'] (.error (.transport ""))]

theorem label_kept_entityLike :
    (tags unfetched.html)[0]? = some (labelled (Entity.escape entityLike)) ∧
      Quotes ⟨3⟩ (Entity.escape entityLike) (labelled (Entity.escape entityLike)) ∧
      (interactive unfetched.html)[0]? = some (.reference ⟨3⟩ entityLike) ∧
      ∃ piece ∈ unfetched.layout, piece.element? = some ([0], .reference ⟨3⟩ entityLike) ∧
        read .outside piece.text = (Piece.link ['0'] .errored
          (Entity.escape entityLike ++ Piece.marker .errored), .outside) := by
  have hquotes : Quotes ⟨3⟩ (Entity.escape entityLike) (labelled (Entity.escape entityLike)) :=
    quotes_labelled (by decide +kernel) (by decide +kernel)
  have htag : (tags unfetched.html)[0]? = some (labelled (Entity.escape entityLike)) := by
    decide +kernel
  have hname : Slot.name ([] ++ [0]) = ['0'] := rfl
  have hstate : unfetched.reference ['0'] = .errored := by decide +kernel
  obtain ⟨-, hkept, -, h⟩ := label_kept_iff entityLike
  have hself : Entity.escapeQuotes entityLike = entityLike := hkept.mpr (by decide +kernel)
  have hread := h unfetched [] 0 unfetched.html _ ⟨3⟩ rfl htag hquotes
  rw [hself] at hread
  simp only [hname, hstate] at hread
  exact ⟨htag, hquotes, hread⟩

theorem label_not_kept :
    Entity.unescape (Entity.escape ['"']) ≠ ['"'] ∧
      segments (labelled (Entity.escape ['"'])) = [.reference ⟨3⟩ "&quot;".toList] ∧
      (ofHtml (labelled (Entity.escape ['"']))).render =
        "<a href=\"javascript:void(0)\" class=\"post-ref\" data-slot=\"0\">".toList ++
          "&amp;quot;</a>".toList := by
  decide +kernel

end Document

end ForumClient
