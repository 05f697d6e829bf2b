import ForumClient.Proofs.MarkupText
import ForumClient.Proofs.TagPattern

namespace ForumClient.Markup

variable {s t u rest : Text} {segs : List Segment}

theorem tag_induction {motive : Text → Prop} (nil : motive [])
    (char : ∀ c s, element? (c :: s) = none → motive s → motive (c :: s))
    (tag : ∀ t meaning rest, IsTag t meaning → motive rest → motive (t ++ rest)) (s : Text) :
    motive s := by
  -- no tag is empty, so there is less text behind it
  induction hn : s.length using Nat.strongRecOn generalizing s with
  | ind n ih =>
    subst hn
    cases s with
    | nil => exact nil
    | cons c s =>
      cases he : element? (c :: s) with
      | none => exact char c s he (ih s.length (by simp) s rfl)
      | some e =>
        obtain ⟨htag, rest, hs⟩ := element?_eq_some_iff.mp he
        rw [hs]
        apply tag e.source e.meaning rest htag
        apply ih rest.length ?_ rest rfl
        have := List.length_pos_iff.mpr htag.ne_nil
        rw [hs, List.length_append]
        omega

theorem segments_kept (h : IsTag t none) (rest : Text) :
    segments (t ++ rest) = consHtml t (segments rest) := by
  have he := element?_of_isTag h rest
  obtain ⟨c, t, rfl⟩ := List.exists_cons_of_ne_nil h.ne_nil
  rw [List.cons_append] at he ⊢
  rw [segments, lexemes, lexemesAfter, he, ofLexemes]
  exact congrArg (fun ls => consHtml (c :: t) (ofLexemes ls)) (lexemesAfter_append t rest)

theorem segments_tag {seg : Segment} (h : IsTag t (some seg)) (rest : Text) :
    segments (t ++ rest) = seg :: segments rest :=
  segments_element h.ne_nil (element?_of_isTag h rest)

theorem isInteractive_of_isTag {seg : Segment} (h : IsTag t (some seg)) : seg.isInteractive := by
  generalize hm : some seg = meaning at h
  cases h with
  | anchor w h =>
    obtain ⟨n, -, rfl⟩ := Option.map_eq_some_iff.mp hm.symm
    rfl
  | image h =>
    obtain ⟨thumbnail, -, hurl⟩ := Option.bind_eq_some_iff.mp hm.symm
    obtain ⟨url, -, e⟩ := Option.bind_eq_some_iff.mp hurl
    cases e
    rfl

inductive Takes : Text → Segment → Prop
  | html (t : Text) : Takes t (.html t)
  | tag {t : Text} {seg : Segment} (h : IsTag t (some seg)) : Takes t seg

theorem takes_html (h : Takes t (.html u)) : t = u := by
  cases h with
  | html => rfl
  | tag h => exact absurd (isInteractive_of_isTag h) nofun

def Covers (s : Text) (segs : List Segment) : Prop :=
  ∃ ts : List Text, ts.flatten = s ∧ (∀ t ∈ ts, t ≠ []) ∧ List.Forall₂ Takes ts segs

theorem Covers.cons {seg : Segment} (ht : Takes t seg) (hne : t ≠ []) (h : Covers s segs) :
    Covers (t ++ s) (seg :: segs) := by
  obtain ⟨ts, rfl, hts, hsegs⟩ := h
  exact ⟨t :: ts, rfl, List.forall_mem_cons.mpr ⟨hne, hts⟩, .cons ht hsegs⟩

theorem Covers.consHtml (hne : t ≠ []) (h : Covers s segs) :
    Covers (t ++ s) (consHtml t segs) := by
  cases segs with
  | nil => exact h.cons (.html t) hne
  | cons seg segs =>
    cases seg with
    | reference post label => exact h.cons (.html t) hne
    | image thumbnail url => exact h.cons (.html t) hne
    | html u =>
      obtain ⟨ts, rfl, hts, hsegs⟩ := h
      cases hsegs with
      | @cons v _ ts _ hv hsegs =>
        obtain rfl := takes_html hv
        refine ⟨(t ++ v) :: ts, by simp, ?_, .cons (.html _) hsegs⟩
        rw [List.forall_mem_cons] at hts ⊢
        exact ⟨by simp [hne], hts.2⟩

theorem covers_segments (s : Text) : Covers s (segments s) := by
  induction s using tag_induction with
  | nil => exact ⟨[], rfl, nofun, .nil⟩
  | char c s h ih =>
    rw [segments_cons h]
    exact ih.consHtml (t := [c]) nofun
  | tag t meaning rest h ih =>
    cases meaning with
    | none =>
      rw [segments_kept h]
      exact ih.consHtml h.ne_nil
    | some seg =>
      rw [segments_tag h]
      exact ih.cons (.tag h) h.ne_nil

def Separated (segs : List Segment) : Prop :=
  segs.IsChain fun p q => p.isInteractive ∨ q.isInteractive

theorem Separated.consHtml (h : Separated segs) (t : Text) : Separated (consHtml t segs) := by
  cases segs with
  | nil => exact .singleton _
  | cons seg segs =>
    cases seg with
    | reference post label => exact .cons_cons (.inr rfl) h
    | image thumbnail url => exact .cons_cons (.inr rfl) h
    | html u =>
      rw [Separated, List.isChain_cons] at h
      exact List.isChain_cons.mpr h

theorem separated_segments (s : Text) : Separated (segments s) := by
  induction s using tag_induction with
  | nil => exact .nil
  | char c s h ih =>
    rw [segments_cons h]
    exact ih.consHtml [c]
  | tag t meaning rest h ih =>
    cases meaning with
    | none =>
      rw [segments_kept h]
      exact ih.consHtml t
    | some seg =>
      rw [segments_tag h]
      exact List.isChain_cons.mpr ⟨fun _ _ => .inl (isInteractive_of_isTag h), ih⟩

def leading : List Segment → Text
  | .html t :: _ => t
  | _ => []

theorem consHtml_eq (t : Text) (segs : List Segment) :
    consHtml t segs = .html (t ++ leading segs) :: (consHtml t segs).tail := by
  cases segs with
  | nil => simp [consHtml, leading]
  | cons seg segs => cases seg <;> simp [consHtml, leading]

theorem mem_of_mem_tail_consHtml {seg : Segment} (h : seg ∈ (consHtml t segs).tail) :
    seg ∈ segs := by
  cases segs with
  | nil => cases h
  | cons seg' segs =>
    cases seg' with
    | html u => exact List.mem_cons_of_mem _ h
    | reference post label => exact h
    | image thumbnail url => exact h

theorem leading_isPrefix (s : Text) : leading (segments s) <+: s := by
  obtain ⟨ts, hts, -, hsegs⟩ := covers_segments s
  cases hseg : segments s with
  | nil => exact List.nil_prefix
  | cons seg segs =>
    cases seg with
    | reference post label => exact List.nil_prefix
    | image thumbnail url => exact List.nil_prefix
    | html u =>
      rw [hseg] at hsegs
      cases hsegs with
      | @cons v _ ts _ hv hsegs =>
        obtain rfl := takes_html hv
        exact ⟨ts.flatten, hts⟩

theorem element?_eq_none_of_isPrefix (hu : u <+: s) (h : element? s = none) : element? u = none := by
  cases he : element? u with
  | none => rfl
  | some e =>
    obtain ⟨htag, rest, rfl⟩ := element?_eq_some_iff.mp he
    obtain ⟨rest', rfl⟩ := hu
    rw [List.append_assoc, element?_of_isTag htag] at h
    cases h

@[simp] theorem segments_nil : segments [] = [] := rfl

theorem consHtml_leading (h : ∀ u, .html u ∈ segs → segments u = [.html u]) (t : Text) :
    consHtml t (segments (leading segs)) = [.html (t ++ leading segs)] := by
  cases segs with
  | nil => simp [leading, consHtml]
  | cons seg segs =>
    cases seg with
    | html u =>
      rw [leading, h u List.mem_cons_self]
      rfl
    | reference post label => simp [leading, consHtml]
    | image thumbnail url => simp [leading, consHtml]

theorem segments_of_html_mem (h : .html u ∈ segments s) : segments u = [.html u] := by
  induction s using tag_induction generalizing u with
  | nil => cases h
  | char c s hnone ih =>
    rw [segments_cons hnone, consHtml_eq] at h
    rcases List.mem_cons.mp h with h | h
    · cases h
      have hprefix : c :: leading (segments s) <+: c :: s :=
        List.cons_prefix_cons.mpr ⟨rfl, leading_isPrefix s⟩
      rw [List.singleton_append, segments_cons (element?_eq_none_of_isPrefix hprefix hnone)]
      exact consHtml_leading (fun _ => ih) [c]
    · exact ih (mem_of_mem_tail_consHtml h)
  | tag t meaning rest htag ih =>
    cases meaning with
    | some seg =>
      rw [segments_tag htag] at h
      rcases List.mem_cons.mp h with rfl | h
      · exact absurd (isInteractive_of_isTag htag) nofun
      · exact ih h
    | none =>
      rw [segments_kept htag, consHtml_eq] at h
      rcases List.mem_cons.mp h with h | h
      · cases h
        rw [segments_kept htag]
        exact consHtml_leading (fun _ => ih) t
      · exact ih (mem_of_mem_tail_consHtml h)

/-- A text is cut into segments without a rest: plain markup as it stands, everything else by one
tag of the pattern. Plain markup between two tags is one piece, in which no second reading finds
anything. -/
theorem segments_cover (s : Text) :
    (∃ ts : List Text, ts.flatten = s ∧ (∀ t ∈ ts, t ≠ []) ∧ List.Forall₂ Takes ts (segments s)) ∧
      (segments s).IsChain (fun p q => p.isInteractive ∨ q.isInteractive) ∧
      ∀ t, .html t ∈ segments s → t ≠ [] ∧ segments t = [.html t] := by
  refine ⟨covers_segments s, separated_segments s, fun t ht => ⟨?_, segments_of_html_mem ht⟩⟩
  rintro rfl
  cases segments_of_html_mem ht

def unreadable : Text :=
  "<a href='javascript:void(0)' onclick='_ref(this, 18446744073709551616)'>x</a>".toList ++
    "<img src=\"/s.gif\">".toList

theorem cover_unreadable :
    segments (unreadable ++ image ['t'] ['u'] ++ ['!']) =
        [.html unreadable, .image ['t'] ['u'], .html ['!']] ∧
      segments unreadable = [.html unreadable] :=
  ⟨by decide +kernel,
    ((segments_cover (unreadable ++ image ['t'] ['u'] ++ ['!'])).2.2 unreadable
      (by decide +kernel)).2⟩

end ForumClient.Markup
