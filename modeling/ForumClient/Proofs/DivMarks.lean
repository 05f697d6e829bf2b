import ForumClient.Proofs.Segmentation

namespace ForumClient.Markup

inductive DivMark
  | opening
  | closing
  deriving DecidableEq, Repr

def DivMark.text : DivMark → Text
  | .opening => "<div".toList
  | .closing => "</div>".toList

def mark? (s : Text) : Option DivMark :=
  if DivMark.opening.text <+: s then some .opening
  else if DivMark.closing.text <+: s then some .closing
  else none

def marks : Text → List DivMark
  | [] => []
  | c :: s => (mark? (c :: s)).toList ++ marks s

def depthAfter : Nat → List DivMark → Option Nat
  | n, [] => some n
  | n, .opening :: ms => depthAfter (n + 1) ms
  | 0, .closing :: _ => none
  | n + 1, .closing :: ms => depthAfter n ms

def DivBalanced (s : Text) : Prop := depthAfter 0 (marks s) = some 0

instance (s : Text) : Decidable (DivBalanced s) := inferInstanceAs (Decidable (_ = _))

def DivFree (s : Text) : Prop := ∀ m : DivMark, ¬ m.text <:+: s

variable {s t u rest : Text} {m : DivMark} {c : Char}

theorem depthAfter_append (n : Nat) (ms ms' : List DivMark) :
    depthAfter n (ms ++ ms') = (depthAfter n ms).bind (depthAfter · ms') := by
  induction ms generalizing n with
  | nil => rfl
  | cons m ms ih =>
    cases m with
    | opening => exact ih (n + 1)
    | closing =>
      cases n with
      | zero => rfl
      | succ n => exact ih n

theorem depthAfter_add {n k : Nat} {ms : List DivMark} (h : depthAfter n ms = some k) (j : Nat) :
    depthAfter (n + j) ms = some (k + j) := by
  induction ms generalizing n with
  | nil =>
    cases h
    rfl
  | cons m ms ih =>
    cases m with
    | opening =>
      rw [depthAfter, Nat.add_right_comm]
      exact ih h
    | closing =>
      cases n with
      | zero => cases h
      | succ n =>
        rw [Nat.add_right_comm]
        exact ih h

theorem DivBalanced.depthAfter (h : DivBalanced s) (n : Nat) :
    Markup.depthAfter n (marks s) = some n := by
  simpa using depthAfter_add h n

theorem mark?_eq_none_iff : mark? s = none ↔ ∀ m : DivMark, ¬ m.text <+: s := by
  rw [mark?]
  constructor
  · intro h m
    split at h
    · cases h
    · split at h
      · cases h
      · cases m <;> assumption
  · intro h
    rw [if_neg (h .opening), if_neg (h .closing)]

theorem mark?_congr (h : ∀ m : DivMark, m.text <+: s ↔ m.text <+: t) : mark? s = mark? t := by
  simp only [mark?, h]

theorem marks_eq_nil_iff : marks s = [] ↔ DivFree s := by
  induction s with
  | nil => exact iff_of_true rfl fun m => by cases m <;> decide
  | cons c s ih =>
    rw [marks, List.append_eq_nil_iff, Option.toList_eq_nil_iff, mark?_eq_none_iff, ih, DivFree,
      DivFree, ← forall_and]
    exact forall_congr' fun m => by rw [List.infix_cons_iff, not_or]

instance (s : Text) : Decidable (DivFree s) := decidable_of_iff _ marks_eq_nil_iff

theorem DivFree.of_isInfix (h : DivFree t) (hs : s <:+: t) : DivFree s :=
  fun m hm => h m (hm.trans hs)

theorem marks_cons_of_ne (hc : c ≠ '<') (s : Text) : marks (c :: s) = marks s := by
  have hnone : mark? (c :: s) = none := by
    refine mark?_eq_none_iff.mpr fun m hm => hc ?_
    cases m <;> exact (List.cons_prefix_cons.mp hm).1.symm
  rw [marks, hnone]
  rfl

/-- No mark runs from one text on into the next. -/
def Seam (s t : Text) : Prop :=
  (∀ c ∈ s.getLast?, c ∉ "</div".toList) ∨ (∀ c ∈ t.head?, c ∉ "/div>".toList)

theorem Seam.tail (h : Seam (c :: s) t) : Seam s t := by
  refine h.imp_left fun h d hd => h d ?_
  cases s with
  | nil => cases hd
  | cons e s => exact hd

theorem marks_append_of_not_mem (h : '<' ∉ s) (t : Text) : marks (s ++ t) = marks t := by
  induction s with
  | nil => rfl
  | cons c s ih =>
    rw [List.mem_cons, not_or] at h
    exact (marks_cons_of_ne (Ne.symm h.1) _).trans (ih h.2)

theorem mem_of_text_eq (hs : s ≠ []) (h : m.text = s ++ c :: u) :
    (∃ d, s.getLast? = some d ∧ d ∈ "</div".toList) ∧ c ∈ "/div>".toList := by
  constructor
  · refine ⟨s.getLast hs, List.getLast?_eq_some_getLast hs, ?_⟩
    have hmem : s.getLast hs ∈ m.text.dropLast := by
      rw [h, List.dropLast_append_cons]
      exact List.mem_append_left _ (List.getLast_mem hs)
    have hsub : m.text.dropLast ⊆ "</div".toList := by cases m <;> decide
    exact hsub hmem
  · obtain ⟨d, s, rfl⟩ := List.exists_cons_of_ne_nil hs
    have hmem : c ∈ m.text.tail := by
      rw [h]
      exact List.mem_append_right s List.mem_cons_self
    have hsub : m.text.tail ⊆ "/div>".toList := by cases m <;> decide
    exact hsub hmem

theorem prefix_append_iff (hs : s ≠ []) (h : Seam s t) : m.text <+: s ++ t ↔ m.text <+: s := by
  refine ⟨fun hm => ?_, fun hm => hm.trans (List.prefix_append s t)⟩
  rcases Nat.le_total m.text.length s.length with hlength | hlength
  · exact List.prefix_of_prefix_length_le hm (List.prefix_append s t) hlength
  · obtain ⟨u, hu⟩ := List.prefix_of_prefix_length_le (List.prefix_append s t) hm hlength
    rw [← hu, List.prefix_append_right_inj] at hm
    cases u with
    | nil =>
      rw [List.append_nil] at hu
      exact hu ▸ List.prefix_rfl
    | cons c u =>
      obtain ⟨⟨d, hd, hlast⟩, hfirst⟩ := mem_of_text_eq hs hu.symm
      obtain ⟨t, rfl⟩ := hm
      rcases h with h | h
      · exact absurd hlast (h d hd)
      · exact absurd hfirst (h c rfl)

theorem marks_append (h : Seam s t) : marks (s ++ t) = marks s ++ marks t := by
  induction s with
  | nil => rfl
  | cons c s ih =>
    rw [List.cons_append, marks, marks, ih h.tail, List.append_assoc, ← List.cons_append,
      mark?_congr fun m => prefix_append_iff (List.cons_ne_nil c s) h]

theorem marks_append_of_sealed (hs : s.getLast?.all (· ∉ "</div".toList)) (hfree : marks s = [])
    (t : Text) : marks (s ++ t) = marks t := by
  rw [marks_append (.inl _), hfree, List.nil_append]
  simpa [Option.all_eq_true] using hs

theorem IsTag.head? {meaning : Option Segment} (h : IsTag t meaning) : t.head? = some '<' := by
  cases h <;> rfl

theorem IsTag.getLast? {meaning : Option Segment} (h : IsTag t meaning) :
    t.getLast? = some '>' := by
  cases h with
  | anchor w h => simp [anchorText, List.getLast?_append, List.getLast?_cons]
  | image h => simp [imageTagText, List.getLast?_append, List.getLast?_cons]

theorem IsTag.seam_right {meaning : Option Segment} (h : IsTag t meaning) (s : Text) :
    Seam t s := by
  left
  rw [h.getLast?]
  rintro c ⟨⟩
  decide

def tags (s : Text) : List Text := (lexemes s).filterMap fun
  | .element ⟨source, some _⟩ => some source
  | _ => none

theorem tags_char (h : element? (c :: s) = none) : tags (c :: s) = tags s := by
  rw [tags, lexemes, lexemesAfter, h]
  rfl

theorem tags_tag {meaning : Option Segment} (h : IsTag t meaning) (rest : Text) :
    tags (t ++ rest) = (meaning.map fun _ => t).toList ++ tags rest := by
  have he := element?_of_isTag h rest
  obtain ⟨d, t, rfl⟩ := List.exists_cons_of_ne_nil h.ne_nil
  rw [List.cons_append] at he ⊢
  rw [tags, lexemes, lexemesAfter, he]
  change List.filterMap _ (_ :: lexemesAfter t.length (t ++ rest)) = _
  rw [lexemesAfter_append]
  cases meaning <;> rfl

theorem exists_leading_append (s : Text) :
    ∃ rest, s = leading (segments s) ++ rest ∧ ∀ c ∈ rest.head?, c = '<' := by
  induction s using tag_induction with
  | nil => exact ⟨[], rfl, nofun⟩
  | char c s h ih =>
    obtain ⟨rest, hs, hrest⟩ := ih
    refine ⟨rest, ?_, hrest⟩
    rw [segments_cons h, consHtml_eq, leading, List.append_assoc, ← hs]
    rfl
  | tag t meaning rest h ih =>
    cases meaning with
    | some seg =>
      have hseg := isInteractive_of_isTag h
      rw [segments_tag h]
      refine ⟨t ++ rest, ?_, ?_⟩
      · cases seg with
        | html => cases hseg
        | reference | image => rfl
      · rw [List.head?_append, h.head?]
        rintro c ⟨⟩
        rfl
    | none =>
      obtain ⟨rest', hs, hrest⟩ := ih
      refine ⟨rest', ?_, hrest⟩
      rw [segments_kept h, consHtml_eq, leading, List.append_assoc, ← hs]

def Segment.marks : Segment → List DivMark
  | .html t => Markup.marks t
  | .reference _ _ | .image _ _ => []

theorem flatMap_marks_consHtml {ms : List DivMark} {segs : List Segment}
    (h : marks (t ++ leading segs) = ms ++ marks (leading segs)) :
    (consHtml t segs).flatMap Segment.marks = ms ++ segs.flatMap Segment.marks := by
  cases segs with
  | nil => simpa [consHtml, leading, Segment.marks, marks] using h
  | cons seg segs =>
    cases seg with
    | html u =>
      change marks (t ++ u) = ms ++ marks u at h
      rw [consHtml, List.flatMap_cons, List.flatMap_cons, Segment.marks, Segment.marks, h,
        List.append_assoc]
    | reference post label => simpa [consHtml, leading, Segment.marks, marks] using h
    | image thumbnail url => simpa [consHtml, leading, Segment.marks, marks] using h

theorem marks_eq_flatMap (h : ∀ t ∈ tags s, DivFree t) :
    marks s = (segments s).flatMap Segment.marks := by
  induction s using tag_induction with
  | nil => rfl
  | char c s hnone ih =>
    rw [tags_char hnone] at h
    obtain ⟨rest, hs, hrest⟩ := exists_leading_append s
    -- the piece ends before a tag, whose bracket goes on no mark
    have hseam : Seam (c :: leading (segments s)) rest := .inr fun d hd => by
      rw [hrest d hd]
      decide
    have hmark : mark? (c :: s) = mark? (c :: leading (segments s)) := by
      conv_lhs => rw [hs, ← List.cons_append]
      exact mark?_congr fun m => prefix_append_iff (List.cons_ne_nil _ _) hseam
    rw [segments_cons hnone, marks, ih h, hmark]
    exact (flatMap_marks_consHtml rfl).symm
  | tag t meaning rest htag ih =>
    rw [tags_tag htag, List.forall_mem_append] at h
    rw [marks_append (htag.seam_right rest), ih h.2]
    cases meaning with
    | none =>
      rw [segments_kept htag]
      exact (flatMap_marks_consHtml (marks_append (htag.seam_right _))).symm
    | some seg =>
      have hseg := isInteractive_of_isTag htag
      rw [segments_tag htag, marks_eq_nil_iff.mpr (h.1 t (by simp)), List.flatMap_cons]
      cases seg with
      | html => cases hseg
      | reference | image => rfl

theorem exists_mem_tags {seg : Segment} (hseg : seg.isInteractive) (h : seg ∈ segments s) :
    ∃ t ∈ tags s, IsTag t (some seg) := by
  induction s using tag_induction with
  | nil => cases h
  | char c s hnone ih =>
    rw [segments_cons hnone, consHtml_eq] at h
    rw [tags_char hnone]
    rcases List.mem_cons.mp h with rfl | h
    · cases hseg
    · exact ih (mem_of_mem_tail_consHtml h)
  | tag t meaning rest htag ih =>
    rw [tags_tag htag]
    cases meaning with
    | none =>
      rw [segments_kept htag, consHtml_eq] at h
      rcases List.mem_cons.mp h with rfl | h
      · cases hseg
      · exact ih (mem_of_mem_tail_consHtml h)
    | some seg' =>
      rw [segments_tag htag] at h
      rcases List.mem_cons.mp h with rfl | h
      · exact ⟨t, List.mem_cons_self, htag⟩
      · obtain ⟨u, hu, hutag⟩ := ih h
        exact ⟨u, List.mem_cons_of_mem t hu, hutag⟩

theorem isSuffix_trimStart (s : Text) : Text.trimStart s <:+ s := List.dropWhile_suffix _

theorem isInfix_of_sourceHere? (h : sourceHere? s = some t) : t <:+: s := by
  simp only [sourceHere?, Option.bind_eq_bind, Option.bind_eq_some_iff,
    Text.literal?_eq_some_iff] at h
  obtain ⟨u, rfl, v, hv, h⟩ := h
  have hquoted : t <:+: Text.trimStart v := by
    split at h
    · next w hw =>
      obtain ⟨-, rest, rfl⟩ := Text.upTo?_eq_some_iff.mp h
      exact ⟨_, _, (List.append_assoc ['\''] t _).trans hw.symm⟩
    · next w hw =>
      obtain ⟨-, rest, rfl⟩ := Text.upTo?_eq_some_iff.mp h
      exact ⟨_, _, (List.append_assoc ['"'] t _).trans hw.symm⟩
    · cases h
  have hv : v <:+ u := (List.suffix_append _ v).trans (hv ▸ isSuffix_trimStart u)
  exact hquoted.trans ((isSuffix_trimStart v).trans (hv.trans (List.suffix_append _ u))).isInfix

theorem isInfix_of_source? (h : source? s = some t) : t <:+: s := by
  have after (s : Text) (h : sourceAfterBlank? s = some t) : t <:+: s := by
    induction s with
    | nil => cases h
    | cons c s ih =>
      have skip (hs : t <:+: s) : t <:+: c :: s := hs.trans (List.suffix_cons c s).isInfix
      rw [sourceAfterBlank?] at h
      split at h
      · split at h
        · next hhere =>
          cases h
          exact skip (isInfix_of_sourceHere? hhere)
        · exact skip (ih h)
      · exact skip (ih h)
  rw [source?] at h
  split at h
  · next hhere =>
    cases h
    exact isInfix_of_sourceHere? hhere
  · exact after s h

theorem isInfix_of_isTag_image {thumbnail url : Text} (h : IsTag t (some (.image thumbnail url))) :
    thumbnail <:+: t := by
  generalize hm : some (Segment.image thumbnail url) = meaning at h
  cases h with
  | anchor w h =>
    obtain ⟨n, -, e⟩ := Option.map_eq_some_iff.mp hm.symm
    cases e
  | @image tag slash h =>
    obtain ⟨source, hsource, hurl⟩ := Option.bind_eq_some_iff.mp hm.symm
    obtain ⟨target, -, e⟩ := Option.bind_eq_some_iff.mp hurl
    cases e
    exact (isInfix_of_source? hsource).trans ⟨"<img".toList, slash ++ ['>'], by simp [imageTagText]⟩

end ForumClient.Markup
