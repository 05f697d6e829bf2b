import ForumClient.Proofs.Numeral
import ForumClient.Proofs.TagPattern

namespace ForumClient

namespace Text

variable {p s t : Text} {c : Char}

theorem after?_append_cons (hp : p ≠ []) (hc : c ∉ p) (hs : ¬ p <:+: s) (t : Text) :
    after? p (s ++ c :: t) = after? p t := by
  have skip {d : Char} {r : Text} (h : ¬ p <+: d :: r) : after? p (d :: r) = after? p r := by
    rw [after?]
    cases hr : p.isPrefixOf? (d :: r) with
    | none => rfl
    | some rest => exact absurd ⟨rest, List.isPrefixOf?_eq_some_iff_append_eq.mp hr⟩ h
  induction s with
  | nil =>
    apply skip
    intro h
    exact hp (List.prefix_nil.mp (prefix_of_prefix_append (s := []) hc h))
  | cons d s ih =>
    rw [List.cons_append, skip, ih fun h => hs (h.trans (List.infix_cons (List.infix_refl s)))]
    intro h
    exact hs (prefix_of_prefix_append (s := d :: s) hc h).isInfix

theorem after?_self (hp : p ≠ []) (t : Text) : after? p (p ++ t) = some t := by
  cases p with
  | nil => exact absurd rfl hp
  | cons c p =>
    rw [List.cons_append, after?, ← List.cons_append,
      List.isPrefixOf?_eq_some_iff_append_eq.mpr rfl]

end Text

namespace Entity

def escapeLabelChar (c : Char) : Text := if c = '"' then [c] else escapeChar c

def escapeLabel (s : Text) : Text := s.flatMap escapeLabelChar

theorem unescape_cons {c : Char} (h : c ≠ '&') (s : Text) :
    unescape (c :: s) = c :: unescape s := by
  rw [unescape] <;> exact fun _ e => absurd e h

theorem escapeLabelChar_cases (c : Char) :
    c ≠ '&' ∧ c ≠ '<' ∧ escapeLabelChar c = [c] ∨
      (∀ d ∈ escapeLabelChar c, d ≠ '<' ∧ d ≠ '\n') ∧
        ∀ s, unescape (escapeLabelChar c ++ s) = c :: unescape s := by
  rw [escapeLabelChar]
  split
  · next h => exact .inl ⟨by rw [h]; decide, by rw [h]; decide, rfl⟩
  · unfold escapeChar
    split
    · exact .inr ⟨by simp, fun s => rfl⟩
    · exact .inr ⟨by simp, fun s => rfl⟩
    · exact .inr ⟨by simp, fun s => rfl⟩
    · next h => exact absurd rfl h
    · next hamp hlt _ _ => exact .inl ⟨hamp, hlt, rfl⟩

theorem unescape_escapeLabel (s : Text) : unescape (escapeLabel s) = s := by
  induction s with
  | nil => rfl
  | cons c s ih =>
    rw [escapeLabel, List.flatMap_cons, ← escapeLabel]
    rcases escapeLabelChar_cases c with ⟨hamp, -, h⟩ | ⟨-, h⟩
    · rw [h, List.singleton_append, unescape_cons hamp, ih]
    · rw [h, ih]

theorem ne_of_mem_escapeLabel {s : Text} (hs : '\n' ∉ s) {d : Char} (h : d ∈ escapeLabel s) :
    d ≠ '<' ∧ d ≠ '\n' := by
  obtain ⟨c, hc, hd⟩ := List.mem_flatMap.mp h
  rcases escapeLabelChar_cases c with ⟨-, hlt, hc'⟩ | ⟨hentity, -⟩
  · rw [hc', List.mem_singleton] at hd
    subst hd
    exact ⟨hlt, fun e => hs (e ▸ hc)⟩
  · exact hentity d hd

end Entity

namespace Markup

variable {s t rest : Text}

def anchor (w : Spelling) (post : PostId) (label : Text) : Text :=
  "<a".toList ++ (w.beforeHref.text ++ ("href=".toList ++ (w.hrefStart.mark ::
    ("javascript:void(0)".toList ++ (w.hrefEnd.mark :: (w.beforeClick.text ++ ("onclick=".toList ++
      (w.clickStart.mark :: ("_ref(this,".toList ++ (w.beforeNumber ++ (post.write ++
        (")".toList ++ (w.clickEnd.mark :: (">".toList ++
          (Entity.escapeLabel label ++ "</a>".toList)))))))))))))))

theorem anchor_eq_anchorText (w : Spelling) (post : PostId) (label : Text) :
    anchor w post label = anchorText w post.write [] (Entity.escapeLabel label) := by
  rw [anchor, anchorText, List.nil_append]

theorem isDigit_of_mem_write {post : PostId} {c : Char} (h : c ∈ post.write) : Text.isDigit c := by
  have hc := Numeral.isDigit_iff.mp (Numeral.isDigit_of_mem_write h)
  rw [Text.isDigit, List.any_eq_true]
  exact ⟨0x30, by decide, by simp; omega⟩

theorem referenceOf?_write (post : PostId) (label : Text) :
    referenceOf? post.write (Entity.escapeLabel label) = some (.reference post label) := by
  have hread : Numeral.read? PostId.limit post.write = some post.number.toNat :=
    (Numeral.read?_write (by decide)).mpr ⟨rfl, post.number.toNat_lt⟩
  simp [referenceOf?, hread, PostId.ofNat, Entity.unescape_escapeLabel]

theorem element?_anchor (w : Spelling) (post : PostId) {label : Text} (h : '\n' ∉ label)
    (rest : Text) : element? (anchor w post label ++ rest) =
      some ⟨anchor w post label, some (.reference post label)⟩ := by
  have hlabel {d : Char} (hd : d ∈ Entity.escapeLabel label) : d ≠ '<' ∧ d ≠ '\n' :=
    Entity.ne_of_mem_escapeLabel h hd
  have hanchor : IsAnchor post.write [] (Entity.escapeLabel label) := {
    ne_nil := Numeral.write_ne_nil _
    isDigit := List.all_eq_true.mpr fun _ => isDigit_of_mem_write
    isBlank := rfl
    oneLine := fun hline => (hlabel hline).2 rfl
    noClose := fun hclose => (hlabel (hclose.subset (by decide))).1 rfl }
  rw [anchor_eq_anchorText, element?_of_isTag (.anchor w hanchor), referenceOf?_write]

def imageAttributes (thumbnail url : Text) : Text :=
  " src=".toList ++ ('"' :: (thumbnail ++ ('"' :: (" onclick=".toList ++ ('"' ::
    ("_enlarge(this,".toList ++ (' ' :: '\'' :: (url ++ ('\'' :: ")\"".toList)))))))))

def image (thumbnail url : Text) : Text :=
  "<img".toList ++ (imageAttributes thumbnail url ++ ['>'])

structure IsImage (thumbnail url : Text) : Prop where
  thumbnail_quote : '"' ∉ thumbnail
  thumbnail_close : '>' ∉ thumbnail
  thumbnail_call : ¬ "_enlarge(this,".toList <:+: thumbnail
  url_quote : '\'' ∉ url
  url_close : '>' ∉ url

namespace IsImage

variable {thumbnail url : Text}

theorem source?_eq (h : IsImage thumbnail url) :
    source? (imageAttributes thumbnail url) = some thumbnail := by
  have hhere (s : Text) :
      sourceHere? ("src=".toList ++ ('"' :: (thumbnail ++ ('"' :: s)))) = some thumbnail :=
    Text.upTo?_append h.thumbnail_quote s
  have hblank : sourceAfterBlank? (imageAttributes thumbnail url) = some thumbnail := by
    change sourceAfterBlank? (' ' :: ("src=".toList ++ _)) = _
    rw [sourceAfterBlank?, if_pos (by rfl), hhere]
  exact hblank

theorem enlargeTarget?_eq (h : IsImage thumbnail url) :
    enlargeTarget? (imageAttributes thumbnail url) = some url := by
  have hskip (s t : Text) (hs : ¬ "_enlarge(this,".toList <:+: s) :
      Text.after? "_enlarge(this,".toList (s ++ '"' :: t) =
        Text.after? "_enlarge(this,".toList t :=
    Text.after?_append_cons (by decide) (by decide) hs t
  have hcall : Text.after? "_enlarge(this,".toList (imageAttributes thumbnail url) =
      some (' ' :: '\'' :: (url ++ ('\'' :: ")\"".toList))) := by
    rw [imageAttributes, hskip, hskip, hskip, Text.after?_self (by decide)]
    · exact fun hshort => absurd hshort.length_le (by decide)
    · exact h.thumbnail_call
    · exact fun hshort => absurd hshort.length_le (by decide)
  rw [enlargeTarget?, hcall]
  exact Text.upTo?_append h.url_quote _

theorem imageOf?_eq (h : IsImage thumbnail url) :
    imageOf? (imageAttributes thumbnail url) = some (.image thumbnail url) := by
  rw [imageOf?, h.source?_eq, h.enlargeTarget?_eq]
  rfl

end IsImage

theorem element?_image {thumbnail url : Text} (h : IsImage thumbnail url) (rest : Text) :
    element? (image thumbnail url ++ rest) =
      some ⟨image thumbnail url, some (.image thumbnail url)⟩ := by
  have himage : IsImageTag (imageAttributes thumbnail url) [] := {
    wholeName := by
      have hspace : Text.isWordChar ' ' = false := by decide +kernel
      exact hspace
    noClose := by simp [imageAttributes, h.thumbnail_close, h.url_close]
    slash := .inl ⟨rfl, by simp [imageAttributes, List.getLast?_cons, List.getLast?_append]⟩ }
  have htag : imageTagText (imageAttributes thumbnail url) [] = image thumbnail url := rfl
  rw [← htag, element?_of_isTag (.image himage), h.imageOf?_eq]

end Markup

end ForumClient
