import ForumClient.Proofs.Tags
import Mathlib.Data.List.Chain

namespace ForumClient.Markup

variable {s t rest : Text}

theorem lexemesAfter_append (s t : Text) : lexemesAfter s.length (s ++ t) = lexemes t := by
  induction s with
  | nil => rfl
  | cons c s ih => exact ih

theorem segments_element {seg : Segment} (ht : t ≠ [])
    (h : element? (t ++ rest) = some ⟨t, some seg⟩) :
    segments (t ++ rest) = seg :: segments rest := by
  cases t with
  | nil => exact absurd rfl ht
  | cons c t =>
    have hlex : lexemes (c :: (t ++ rest)) = .element ⟨c :: t, some seg⟩ :: lexemes rest := by
      rw [List.cons_append] at h
      rw [lexemes, lexemesAfter, h, ← lexemesAfter_append t rest]
      rfl
    rw [segments, List.cons_append, hlex, ofLexemes, segments]

theorem segments_cons {c : Char} (h : element? (c :: s) = none) :
    segments (c :: s) = consHtml [c] (segments s) := by
  rw [segments, lexemes, lexemesAfter, h]
  rfl

theorem consHtml_consHtml (s t : Text) (segs : List Segment) :
    consHtml s (consHtml t segs) = consHtml (s ++ t) segs := by
  cases segs with
  | nil => rfl
  | cons seg segs => cases seg <;> simp [consHtml]

theorem element?_eq_none (ha : ¬ "<a".toList <+: s) (himg : ¬ "<img".toList <+: s) :
    element? s = none := by
  rw [element?, anchor?, imageTag?, Text.literal?_eq_none ha, Text.literal?_eq_none himg]
  rfl

structure IsPlain (t : Text) : Prop where
  anchor : ¬ "<a".toList <:+: t
  image : ¬ "<img".toList <:+: t

theorem IsPlain.tail {c : Char} (h : IsPlain (c :: t)) : IsPlain t where
  anchor := fun hp => h.anchor (hp.trans (List.suffix_cons c t).isInfix)
  image := fun hp => h.image (hp.trans (List.suffix_cons c t).isInfix)

theorem segments_plain (ht : IsPlain t) (hne : t ≠ []) (hrest : ∀ c ∈ rest.head?, c = '<') :
    segments (t ++ rest) = consHtml t (segments rest) := by
  induction t with
  | nil => exact absurd rfl hne
  | cons c t ih =>
    have hnone : element? (c :: (t ++ rest)) = none :=
      element?_eq_none
        (Text.not_prefix_append (by decide) hrest (fun hp => ht.anchor hp.isInfix) hne)
        (Text.not_prefix_append (by decide) hrest (fun hp => ht.image hp.isInfix) hne)
    rw [List.cons_append, segments_cons hnone]
    cases t with
    | nil => rfl
    | cons d t => rw [ih ht.tail nofun, consHtml_consHtml]; rfl

inductive Part
  | html (t : Text) (ne_nil : t ≠ []) (isPlain : IsPlain t)
  | reference (w : Spelling) (post : PostId) (label : Text) (oneLine : '\n' ∉ label)
  | image (thumbnail url : Text) (isImage : IsImage thumbnail url)

namespace Part

def text : Part → Text
  | .html t _ _ => t
  | .reference w post label _ => anchor w post label
  | .image thumbnail url _ => Markup.image thumbnail url

def segment : Part → Segment
  | .html t _ _ => .html t
  | .reference _ post label _ => .reference post label
  | .image thumbnail url _ => .image thumbnail url

theorem head?_text {p : Part} (h : p.segment.isInteractive) : p.text.head? = some '<' := by
  cases p with
  | html => exact absurd h nofun
  | reference => rfl
  | image => rfl

theorem segments_append {p : Part} (h : p.segment.isInteractive) (rest : Text) :
    segments (p.text ++ rest) = p.segment :: segments rest := by
  cases p with
  | html => exact absurd h nofun
  | reference w post label hlabel =>
    exact segments_element nofun (element?_anchor w post hlabel rest)
  | image thumbnail url himage =>
    exact segments_element nofun (element?_image himage rest)

end Part

def Alternates (ps : List Part) : Prop :=
  ps.IsChain fun p q => p.segment.isInteractive ∨ q.segment.isInteractive

section Following

variable {ps : List Part} (h : ∀ p ∈ ps.head?, p.segment.isInteractive)
include h

theorem head?_flatMap_text : ∀ c ∈ (ps.flatMap Part.text).head?, c = '<' := by
  cases ps with
  | nil => nofun
  | cons p ps =>
    rw [List.flatMap_cons, List.head?_append, Part.head?_text (h p rfl)]
    rintro c ⟨⟩
    rfl

theorem consHtml_map_segment (t : Text) :
    consHtml t (ps.map Part.segment) = .html t :: ps.map Part.segment := by
  cases ps with
  | nil => rfl
  | cons p ps =>
    have hp := h p rfl
    cases p with
    | html => exact absurd hp nofun
    | reference => rfl
    | image => rfl

end Following

/-- What is read is what was written, with the labels unescaped. -/
theorem segments_flatMap_text (ps : List Part) (h : Alternates ps) :
    segments (ps.flatMap Part.text) = ps.map Part.segment := by
  induction ps with
  | nil => rfl
  | cons p ps ih =>
    obtain ⟨hnext, hps⟩ := List.isChain_cons.mp h
    have ih := ih hps
    rw [List.flatMap_cons, List.map_cons]
    by_cases hp : p.segment.isInteractive
    · rw [Part.segments_append hp, ih]
    cases p with
    | reference => exact absurd rfl hp
    | image => exact absurd rfl hp
    | html t hne hplain =>
      have hnext (q : Part) (hq : q ∈ ps.head?) : q.segment.isInteractive :=
        (hnext q hq).resolve_left hp
      calc
        segments (t ++ ps.flatMap Part.text) = consHtml t (segments (ps.flatMap Part.text)) :=
          segments_plain hplain hne (head?_flatMap_text hnext)
        _ = consHtml t (ps.map Part.segment) := by rw [ih]
        _ = .html t :: ps.map Part.segment := consHtml_map_segment hnext t

def sideBySide : List Part :=
  let mixed : Spelling := {
    hrefEnd := .double, clickStart := .double, beforeHref := { text := ['\t', '\u3000'] },
    beforeClick := { text := ['\n'] }, beforeNumber := ['\u2003'] }
  [.html "1 < 2 <".toList (by decide) ⟨by decide +kernel, by decide +kernel⟩,
    .reference mixed ⟨18446744073709551615⟩ ">&gt; \"hi\" </a>".toList (by decide),
    .reference {} ⟨0⟩ [] (by decide),
    .image "/t/'5'.jpg".toList "/i/_enlarge(this,5\".jpg".toList
      ⟨by decide, by decide, fun h => absurd h.length_le (by decide), by decide, by decide⟩,
    .html "<i".toList (by decide) ⟨by decide +kernel, by decide +kernel⟩]

theorem segments_sideBySide :
    sideBySide.flatMap Part.text =
      "1 < 2 <<a\t\u3000href='javascript:void(0)\"\nonclick=\"_ref(this,\u2003".toList ++
        "18446744073709551615)'>&gt;&amp;gt; \"hi\" &lt;/a&gt;</a>".toList ++
        "<a href='javascript:void(0)' onclick='_ref(this, 0)'></a>".toList ++
        "<img src=\"/t/'5'.jpg\" onclick=\"_enlarge(this, '/i/_enlarge(this,5\".jpg')\"><i".toList ∧
    segments (sideBySide.flatMap Part.text) =
      [.html "1 < 2 <".toList, .reference ⟨18446744073709551615⟩ ">&gt; \"hi\" </a>".toList,
        .reference ⟨0⟩ [], .image "/t/'5'.jpg".toList "/i/_enlarge(this,5\".jpg".toList,
        .html "<i".toList] :=
  ⟨by decide +kernel,
    segments_flatMap_text sideBySide
      (by simp [Alternates, sideBySide, Part.segment, Segment.isInteractive])⟩

end ForumClient.Markup
