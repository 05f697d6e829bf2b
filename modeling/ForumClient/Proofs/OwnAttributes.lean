import ForumClient.Proofs.Segmentation
import ForumClient.Proofs.TagAttributes

namespace ForumClient

theorem Text.isPrefix_of_first {p u v s t : Text} {c : Char} (hc : c ∉ p) (hu : ¬ c :: p <:+: u)
    (h : u ++ (c :: p ++ s) = v ++ (c :: p ++ t)) : u <+: v := by
  rcases List.append_eq_append_iff.mp h with ⟨d, rfl, -⟩ | ⟨d, rfl, hd⟩
  · exact List.prefix_append u d
  · by_cases hne : d = []
    · simp [hne]
    · -- the second occurrence would start before the first and run on into it
      have hstart : ¬ c :: p <+: d ++ (c :: p ++ s) :=
        not_prefix_append hc (by simp) (fun hp => hu (hp.isInfix.trans List.infix_append_right)) hne
      exact absurd ⟨t, hd⟩ hstart

namespace Markup

def Quote.other : Quote → Quote
  | .single => .double
  | .double => .single

def ownSource? (as : List TagAttribute) : Option Text :=
  (as.find? fun a => a.name = "src".toList).map TagAttribute.value

def enlarge (q : Quote) (ws url : Text) : Text :=
  enlargeCall ++ (ws ++ q.mark :: (url ++ [q.mark, ')']))

/-- A click handler that calls for a full image behind the text `u`, its address between quotation
marks other than the attribute's own. -/
structure CallAt (a : TagAttribute) (u url : Text) : Prop where
  name : a.name = "onclick".toList
  closed : a.quote.other.mark ∉ url
  call : ∃ ws, ws.all Text.isBlank ∧ u ++ enlarge a.quote.other ws url <+: a.value

inductive OwnCall : List TagAttribute → Text → Prop
  | here {a : TagAttribute} {as : List TagAttribute} {u url : Text} (call : CallAt a u url)
      (first : ∀ u' url', CallAt a u' url' → u <+: u') : OwnCall (a :: as) url
  | later {a : TagAttribute} {as : List TagAttribute} {url : Text}
      (first : ∀ u url', ¬ CallAt a u url') (call : OwnCall as url) : OwnCall (a :: as) url

/-- No value before the first `src` has the look of a source. -/
inductive PlainSource : List TagAttribute → Prop
  | nil : PlainSource []
  | own {a : TagAttribute} {as : List TagAttribute} (name : a.name = "src".toList) :
      PlainSource (a :: as)
  | other {a : TagAttribute} {as : List TagAttribute}
      (unlike : ∀ t, ¬ Mimics (a.behind as) a.value t) (plain : PlainSource as) :
      PlainSource (a :: as)

/-- Where a call begins for the first time, a click handler makes it. -/
inductive PlainCall : List TagAttribute → Prop
  | nil : PlainCall []
  | own {a : TagAttribute} {as : List TagAttribute} {u url : Text} (call : CallAt a u url)
      (first : ¬ enlargeCall <:+: u) : PlainCall (a :: as)
  | other {a : TagAttribute} {as : List TagAttribute} (unlike : ¬ enlargeCall <:+: a.value)
      (plain : PlainCall as) : PlainCall (a :: as)

variable {s t u url url' w rest : Text} {a : TagAttribute} {as : List TagAttribute}

theorem StartsQuoted.unique (h : StartsQuoted s t) (h' : StartsQuoted s u) : t = u := by
  rw [← quotedText?_eq_some_iff] at h h'
  exact Option.some.inj (h.symm.trans h')

theorem Calls.unique (h : Calls as url) (h' : Calls as url') : url = url' := by
  rw [← enlargeTarget?_attributesText] at h h'
  exact Option.some.inj (h.symm.trans h')

theorem CallAt.exists_target (h : CallAt a u url) : ∃ w, a.value = u ++ (enlargeCall ++ w) ∧
    ∀ s, StartsQuoted (w ++ s) url := by
  obtain ⟨ws, hws, v, hv⟩ := h.call
  refine ⟨ws ++ a.quote.other.mark :: (url ++ a.quote.other.mark :: ')' :: v), ?_, fun s => ?_⟩
  · simp [← hv, enlarge]
  · have hquoted := StartsQuoted.mk hws a.quote.other h.closed (')' :: (v ++ s))
    simpa using hquoted

theorem CallAt.infix (h : CallAt a u url) : enlargeCall <:+: a.value := by
  obtain ⟨w, hw, -⟩ := h.exists_target
  exact ⟨u, w, by rw [hw, List.append_assoc]⟩

theorem CallAt.unique (h : CallAt a u url) (h' : CallAt a u url') : url = url' := by
  obtain ⟨w, hw, hquoted⟩ := h.exists_target
  obtain ⟨w', hw', hquoted'⟩ := h'.exists_target
  rw [hw, List.append_cancel_left_eq, List.append_cancel_left_eq] at hw'
  subst hw'
  exact (hquoted []).unique (hquoted' [])

theorem CallAt.isPrefix (h : CallAt a u url) (hu : ¬ enlargeCall <:+: u) (h' : CallAt a t url') :
    u <+: t := by
  obtain ⟨w, hw, -⟩ := h.exists_target
  obtain ⟨w', hw', -⟩ := h'.exists_target
  exact Text.isPrefix_of_first (by decide) hu (hw.symm.trans hw')

theorem exists_ownCall : (∃ url, OwnCall as url) ↔ ∃ a ∈ as, ∃ u url, CallAt a u url := by
  constructor
  · rintro ⟨url, h⟩
    induction h with
    | here call => exact ⟨_, List.mem_cons_self, _, _, call⟩
    | later _ _ ih =>
      obtain ⟨b, hb, h⟩ := ih
      exact ⟨b, List.mem_cons_of_mem _ hb, h⟩
  · rintro ⟨b, hb, hcall⟩
    induction as with
    | nil => cases hb
    | cons a as ih =>
      by_cases ha : ∃ u url, CallAt a u url
      · obtain ⟨u, ⟨url, hu⟩, hmin⟩ :=
          (measure List.length).wf.has_min {u | ∃ url, CallAt a u url} ha
        refine ⟨url, .here hu fun u' url' h' => ?_⟩
        have hlength : u.length ≤ u'.length := Nat.le_of_not_lt (hmin u' ⟨url', h'⟩)
        obtain ⟨w, hw, -⟩ := hu.exists_target
        obtain ⟨w', hw', -⟩ := h'.exists_target
        exact List.prefix_of_prefix_length_le ⟨_, hw.symm⟩ ⟨_, hw'.symm⟩ hlength
      · rcases List.mem_cons.mp hb with rfl | hb
        · exact absurd hcall ha
        · obtain ⟨url, h⟩ := ih hb
          exact ⟨url, .later (fun u url' h => ha ⟨u, url', h⟩) h⟩

theorem exists_ownSource : (∃ t, ownSource? as = some t) ↔ ∃ a ∈ as, a.name = "src".toList := by
  simp [ownSource?, ← Option.isSome_iff_exists]

theorem ownSource?_own (name : a.name = "src".toList) (as : List TagAttribute) :
    ownSource? (a :: as) = some a.value := by
  rw [ownSource?, List.find?_cons_of_pos (by simpa using name)]
  rfl

theorem ownSource?_other (name : a.name ≠ "src".toList) (as : List TagAttribute) :
    ownSource? (a :: as) = ownSource? as := by
  rw [ownSource?, List.find?_cons_of_neg (by simpa using name), ownSource?]

theorem sources_own (name : a.name = "src".toList) :
    Sources (a :: as) t ↔ ownSource? (a :: as) = some t := by
  rw [ownSource?_own name]
  constructor
  · rintro (_ | ⟨hne, -⟩ | ⟨hne, -, -⟩)
    · rfl
    · exact absurd name hne
    · exact absurd name hne
  · rintro ⟨⟩
    exact .own name

theorem PlainSource.sources_iff (h : PlainSource as) : Sources as t ↔ ownSource? as = some t := by
  induction h with
  | nil => exact ⟨nofun, nofun⟩
  | own name => exact sources_own name
  | @other a as unlike _ ih =>
    by_cases name : a.name = "src".toList
    · exact sources_own name
    · rw [ownSource?_other name, ← ih]
      constructor
      · rintro (hname | ⟨-, hmimics⟩ | ⟨-, -, h⟩)
        · exact absurd hname name
        · exact absurd hmimics (unlike t)
        · exact h
      · exact .later name unlike

theorem plainSource_cons : PlainSource (a :: as) ↔
    a.name = "src".toList ∨ mimicked? (a.behind as) a.value = none ∧ PlainSource as := by
  rw [Option.eq_none_iff_forall_ne_some]
  simp only [ne_eq, mimicked?_eq_some_iff]
  constructor
  · rintro (_ | name | ⟨unlike, plain⟩)
    · exact .inl name
    · exact .inr ⟨unlike, plain⟩
  · rintro (name | ⟨unlike, plain⟩)
    · exact .own name
    · exact .other unlike plain

instance decidablePlainSource : (as : List TagAttribute) → Decidable (PlainSource as)
  | [] => isTrue .nil
  | _ :: as =>
    have := decidablePlainSource as
    decidable_of_iff _ plainSource_cons.symm

theorem PlainCall.calls_iff (h : PlainCall as) : Calls as url ↔ OwnCall as url := by
  induction h with
  | nil => exact ⟨nofun, nofun⟩
  | @own a as u url₀ call first =>
    obtain ⟨w, hw, hquoted⟩ := call.exists_target
    have hcalls : Calls (a :: as) url₀ := .here hw first (hquoted (a.behind as))
    constructor
    · intro h
      rw [h.unique hcalls]
      exact .here call fun _ _ => call.isPrefix first
    · rintro (⟨call', first'⟩ | ⟨hnone, -⟩)
      · have hu := (call.isPrefix first call').eq_of_length_le (first' u url₀ call).length_le
        subst hu
        rwa [call'.unique call]
      · exact absurd call (hnone u url₀)
  | @other a as unlike _ ih =>
    constructor
    · rintro (⟨hvalue, -, -⟩ | ⟨-, h⟩)
      · exact absurd ⟨_, _, by rw [hvalue, List.append_assoc]⟩ unlike
      · exact .later (fun _ _ call => unlike call.infix) (ih.mp h)
    · rintro (⟨call, -⟩ | ⟨-, h⟩)
      · exact absurd call.infix unlike
      · exact .later unlike (ih.mpr h)

theorem imageOf?_eq_some_iff {tag : Text} {seg : Segment} : imageOf? tag = some seg ↔
    ∃ t, source? tag = some t ∧ ∃ url, enlargeTarget? tag = some url ∧ .image t url = seg := by
  simp only [imageOf?, Option.bind_eq_bind, Option.bind_eq_some_iff, Option.pure_def,
    Option.some.injEq]

theorem segments_taggedImage : segments (taggedImage as ++ rest) = .image t url :: segments rest ↔
    Sources as t ∧ Calls as url := by
  have htag := isTag_taggedImage as
  rw [← source?_attributesText, ← enlargeTarget?_attributesText]
  cases hm : imageOf? (attributesText as) with
  | none =>
    rw [hm] at htag
    rw [segments_kept htag, consHtml_eq]
    refine ⟨nofun, fun ⟨ht, hurl⟩ => ?_⟩
    rw [imageOf?_eq_some_iff.mpr ⟨t, ht, url, hurl, rfl⟩] at hm
    cases hm
  | some seg =>
    rw [hm] at htag
    obtain ⟨t', ht, url', hurl, rfl⟩ := imageOf?_eq_some_iff.mp hm
    rw [segments_tag htag, ht, hurl]
    simp

theorem segments_taggedImage_cases (as : List TagAttribute) (rest : Text) :
    (∃ t url, segments (taggedImage as ++ rest) = .image t url :: segments rest) ∨
      segments (taggedImage as ++ rest) = consHtml (taggedImage as) (segments rest) := by
  have htag := isTag_taggedImage as
  cases hm : imageOf? (attributesText as) with
  | none =>
    rw [hm] at htag
    exact .inr (segments_kept htag rest)
  | some seg =>
    rw [hm] at htag
    obtain ⟨t, -, url, -, rfl⟩ := imageOf?_eq_some_iff.mp hm
    exact .inl ⟨t, url, segments_tag htag rest⟩

/-- An image tag is cut out as an image or stays in the markup around it. It is an image exactly if
the rules find a source and a call in it, and these are its own, with a handler that makes the call,
if no other value looks like either of them. -/
theorem image_by_attributes (as : List TagAttribute) (rest : Text) :
    (∀ t url, segments (taggedImage as ++ rest) = .image t url :: segments rest ↔
        Sources as t ∧ Calls as url) ∧
      ((∃ t url, segments (taggedImage as ++ rest) = .image t url :: segments rest) ∨
        segments (taggedImage as ++ rest) = consHtml (taggedImage as) (segments rest)) ∧
      (PlainSource as → PlainCall as →
        (∀ t url, segments (taggedImage as ++ rest) = .image t url :: segments rest ↔
            ownSource? as = some t ∧ OwnCall as url) ∧
          ((∃ t url, segments (taggedImage as ++ rest) = .image t url :: segments rest) ↔
            (∃ a ∈ as, a.name = "src".toList) ∧ ∃ a ∈ as, ∃ u url, CallAt a u url)) := by
  refine ⟨fun t url => segments_taggedImage, segments_taggedImage_cases as rest, fun hs hc => ?_⟩
  have hown (t url : Text) : segments (taggedImage as ++ rest) = .image t url :: segments rest ↔
      ownSource? as = some t ∧ OwnCall as url := by
    rw [segments_taggedImage, hs.sources_iff, hc.calls_iff]
  refine ⟨hown, ?_⟩
  simp only [hown, exists_and_left, exists_and_right, exists_ownSource, exists_ownCall]

def enlargeHandler : TagAttribute :=
  { name := "onclick".toList, value := "_enlarge(this, '/u.jpg')".toList }

theorem callAt_enlargeHandler : CallAt enlargeHandler [] "/u.jpg".toList :=
  ⟨rfl, by decide +kernel, [' '], rfl, by decide +kernel⟩

def lazyImage : List TagAttribute :=
  [{ name := "data-src".toList, value := "/lazy.jpg".toList },
    { name := "alt".toList, value := "the src of it".toList },
    { name := "src".toList, quote := .single, value := "/t.jpg".toList },
    enlargeHandler]

theorem image_lazyImage : PlainSource lazyImage ∧ PlainCall lazyImage ∧
    segments (taggedImage lazyImage ++ ['!']) =
      [.image "/t.jpg".toList "/u.jpg".toList, .html ['!']] := by
  have hs : PlainSource lazyImage := by decide +kernel
  have hc : PlainCall lazyImage :=
    .other (by decide +kernel) (.other (by decide +kernel) (.other (by decide +kernel)
      (.own callAt_enlargeHandler (by decide +kernel))))
  have hown : OwnCall lazyImage "/u.jpg".toList :=
    hc.calls_iff.mp ((enlargeTarget?_attributesText lazyImage).mp (by decide +kernel))
  have himage := (image_by_attributes lazyImage ['!']).2.2 hs hc
  exact ⟨hs, hc, (himage.1 "/t.jpg".toList "/u.jpg".toList).mpr ⟨rfl, hown⟩⟩

def titledImage : List TagAttribute :=
  [{ name := "alt".toList, value := " src='x'".toList },
    { name := "src".toList, value := "/t.jpg".toList },
    enlargeHandler]

theorem image_titledImage : segments (taggedImage titledImage) =
      [.image "x".toList "/u.jpg".toList] ∧
    ownSource? titledImage = some "/t.jpg".toList ∧ OwnCall titledImage "/u.jpg".toList := by
  have hc : PlainCall titledImage :=
    .other (by decide +kernel) (.other (by decide +kernel)
      (.own callAt_enlargeHandler (by decide +kernel)))
  have hown : OwnCall titledImage "/u.jpg".toList :=
    hc.calls_iff.mp ((enlargeTarget?_attributesText titledImage).mp (by decide +kernel))
  exact ⟨by decide +kernel, by decide +kernel, hown⟩

end Markup

end ForumClient
