import ForumClient.Markup.Segment
import ForumClient.Proofs.Trim
import Mathlib.Data.List.DropRight
import Mathlib.Data.Option.Basic
import Mathlib.Tactic.IntervalCases

namespace ForumClient

namespace Text

variable {p s t : Text} {q c : Char}

theorem literal?_eq_some_iff {w : String} : literal? w s = some t ↔ s = w.toList ++ t := by
  rw [literal?, List.isPrefixOf?_eq_some_iff_append_eq, eq_comm]

@[simp] theorem literal?_append (w : String) (s : Text) : literal? w (w.toList ++ s) = some s :=
  literal?_eq_some_iff.mpr rfl

theorem literal?_eq_none {w : String} (h : ¬ w.toList <+: s) : literal? w s = none := by
  rw [Option.eq_none_iff_forall_ne_some]
  intro t ht
  exact h ⟨t, (literal?_eq_some_iff.mp ht).symm⟩

theorem upTo?_append {q : Char} (h : q ∉ s) (t : Text) : upTo? q (s ++ q :: t) = some s := by
  induction s with
  | nil => simp [upTo?]
  | cons c s ih =>
    rw [List.mem_cons, not_or] at h
    simp [upTo?, Ne.symm h.1, ih h.2]

theorem prefix_of_prefix_append (hc : c ∉ p) (h : p <+: s ++ c :: t) : p <+: s := by
  rcases Nat.le_total p.length s.length with hlength | hlength
  · exact List.prefix_of_prefix_length_le h (List.prefix_append _ _) hlength
  · obtain ⟨q, rfl⟩ := List.prefix_of_prefix_length_le (List.prefix_append s _) h hlength
    rw [List.prefix_append_right_inj] at h
    cases q with
    | nil => simp
    | cons d q =>
      obtain rfl := (List.cons_prefix_cons.mp h).1
      exact absurd (by simp) hc

theorem not_prefix_append (hp : c ∉ p) (ht : ∀ d ∈ t.head?, d = c) (h : ¬ c :: p <+: s)
    (hs : s ≠ []) : ¬ c :: p <+: s ++ t := by
  cases t with
  | nil => rwa [List.append_nil]
  | cons e t =>
    obtain rfl : e = c := ht e rfl
    cases s with
    | nil => exact absurd rfl hs
    | cons d s =>
      rw [List.cons_append, List.cons_prefix_cons]
      rintro ⟨rfl, hstart⟩
      exact h (List.cons_prefix_cons.mpr ⟨rfl, prefix_of_prefix_append hp hstart⟩)

theorem upTo?_eq_some_iff : upTo? q s = some t ↔ q ∉ t ∧ ∃ rest, s = t ++ q :: rest := by
  constructor
  · intro h
    induction s generalizing t with
    | nil => cases h
    | cons c s ih =>
      rw [upTo?] at h
      split at h
      · next hc =>
        cases h
        exact ⟨nofun, s, by rw [hc]; rfl⟩
      · next hc =>
        obtain ⟨u, hu, rfl⟩ := Option.map_eq_some_iff.mp h
        obtain ⟨hq, rest, rfl⟩ := ih hu
        exact ⟨by simp [hq, Ne.symm hc], rest, rfl⟩
  · rintro ⟨hq, rest, rfl⟩
    exact upTo?_append hq rest

theorem isBlank_of_isDigit {c : Char} (hc : isDigit c) : isBlank c = false := by
  rw [← Bool.not_eq_true]
  intro h
  revert hc
  rw [isBlank] at h
  rw [isDigit, imp_false, Bool.not_eq_true]
  generalize c.toNat = n at h ⊢
  simp only [Bool.or_eq_true, Bool.and_eq_true, decide_eq_true_eq, beq_iff_eq, or_assoc] at h
  rcases h with ⟨hlow, hhigh⟩ | h | h | h | h | ⟨hlow, hhigh⟩ | h | h | h | h | h
  case inl => interval_cases n <;> decide
  case inr.inr.inr.inr.inr.inl => interval_cases n <;> decide
  all_goals
    subst h
    decide

end Text

namespace Markup

variable {s t rest digits label closing : Text}

inductive Quote
  | single
  | double
  deriving DecidableEq, Repr

def Quote.mark : Quote → Char
  | .single => '\''
  | .double => '"'

@[simp] theorem quote?_mark (q : Quote) (s : Text) : quote? (q.mark :: s) = some s := by
  cases q <;> rfl

structure Gap where
  text : Text
  ne_nil : text ≠ [] := by decide
  isBlank : text.all Text.isBlank := by rfl

theorem Gap.blanks?_append (g : Gap) (s : Text) :
    blanks? (g.text ++ s) = some (Text.trimStart s) := by
  obtain ⟨text, hne, hblank⟩ := g
  cases text with
  | nil => exact absurd rfl hne
  | cons c ws =>
    rw [List.all_cons, Bool.and_eq_true] at hblank
    change blanks? (c :: (ws ++ s)) = _
    rw [blanks?, if_pos hblank.1, Text.trimStart_append hblank.2]

structure Spelling where
  hrefStart : Quote := .single
  hrefEnd : Quote := .single
  clickStart : Quote := .single
  clickEnd : Quote := .single
  beforeHref : Gap := { text := [' '] }
  beforeClick : Gap := { text := [' '] }
  beforeNumber : Text := [' ']
  isBlank : beforeNumber.all Text.isBlank := by rfl

theorem quote?_eq_some_iff : quote? s = some t ↔ ∃ q : Quote, s = q.mark :: t := by
  constructor
  · intro h
    unfold quote? at h
    split at h
    · cases h
      exact ⟨.single, rfl⟩
    · cases h
      exact ⟨.double, rfl⟩
    · cases h
  · rintro ⟨q, rfl⟩
    exact quote?_mark q t

theorem blanks?_eq_some_iff :
    blanks? s = some t ↔ ∃ g : Gap, s = g.text ++ t ∧ Text.trimStart t = t := by
  constructor
  · intro h
    cases s with
    | nil => cases h
    | cons c s =>
      rw [blanks?] at h
      split at h
      · next hc =>
        cases h
        obtain ⟨ws, hws, hs⟩ := Text.exists_blank_append s
        refine ⟨⟨c :: ws, nofun, by simp [hc, hws]⟩, ?_, Text.trimStart_trimStart s⟩
        exact congrArg (c :: ·) hs
      · cases h
  · rintro ⟨g, rfl, ht⟩
    rw [g.blanks?_append, ht]

theorem label?_of_close (h : "</a>".toList ++ rest = s) : label? s = some ([], rest) := by
  cases s with
  | nil => cases h
  | cons c s => rw [label?, Text.literal?_eq_some_iff.mpr h.symm]

theorem label?_cons {c : Char} (h : ¬ "</a>".toList <+: c :: s) (hc : c ≠ '\n') :
    label? (c :: s) = (label? s).map fun (label, rest) => (c :: label, rest) := by
  rw [label?, Text.literal?_eq_none h]
  exact if_neg hc

theorem not_prefix_label (hne : label ≠ []) (h : ¬ "</a>".toList <:+: label) (rest : Text) :
    ¬ "</a>".toList <+: label ++ ("</a>".toList ++ rest) := by
  change ¬ '<' :: "/a>".toList <+: _
  apply Text.not_prefix_append
  · decide
  · rintro c ⟨⟩
    rfl
  · exact fun hp => h hp.isInfix
  · exact hne

theorem label?_close (hline : '\n' ∉ label) (h : ¬ "</a>".toList <:+: label) (rest : Text) :
    label? (label ++ ("</a>".toList ++ rest)) = some (label, rest) := by
  induction label with
  | nil => exact label?_of_close rfl
  | cons c label ih =>
    rw [List.mem_cons, not_or] at hline
    have ih := ih hline.2 fun hp => h (hp.trans (List.suffix_cons c label).isInfix)
    have hstart := not_prefix_label (List.cons_ne_nil c label) h rest
    rw [List.cons_append] at hstart ⊢
    rw [label?_cons hstart (Ne.symm hline.1), ih]
    rfl

theorem exists_of_label? (h : label? s = some (label, rest)) :
    s = label ++ ("</a>".toList ++ rest) ∧ '\n' ∉ label ∧ ¬ "</a>".toList <:+: label := by
  induction s generalizing label with
  | nil => cases h
  | cons c s ih =>
    by_cases hclose : "</a>".toList <+: c :: s
    · obtain ⟨rest', hs⟩ := hclose
      rw [label?_of_close hs] at h
      cases h
      exact ⟨hs.symm, nofun, by simp⟩
    · by_cases hc : c = '\n'
      · rw [label?, Text.literal?_eq_none hclose, hc] at h
        cases h
      · rw [label?_cons hclose hc] at h
        obtain ⟨⟨label', rest'⟩, h', e⟩ := Option.map_eq_some_iff.mp h
        cases e
        obtain ⟨rfl, hline, hinner⟩ := ih h'
        refine ⟨rfl, by simp [hline, Ne.symm hc], fun hp => ?_⟩
        rcases List.infix_cons_iff.mp hp with hp | hp
        · exact hclose (hp.trans (List.prefix_append (c :: label') _))
        · exact hinner hp

theorem label?_eq_some_iff : label? s = some (label, rest) ↔
    s = label ++ ("</a>".toList ++ rest) ∧ '\n' ∉ label ∧ ¬ "</a>".toList <:+: label := by
  constructor
  · exact exists_of_label?
  · rintro ⟨rfl, hline, h⟩
    exact label?_close hline h rest

def anchorText (w : Spelling) (digits closing label : Text) : Text :=
  "<a".toList ++ (w.beforeHref.text ++ ("href=".toList ++ (w.hrefStart.mark ::
    ("javascript:void(0)".toList ++ (w.hrefEnd.mark :: (w.beforeClick.text ++ ("onclick=".toList ++
      (w.clickStart.mark :: ("_ref(this,".toList ++ (w.beforeNumber ++ (digits ++
        (")".toList ++ (w.clickEnd.mark :: (closing ++ (">".toList ++
          (label ++ "</a>".toList))))))))))))))))

structure IsAnchor (digits closing label : Text) : Prop where
  ne_nil : digits ≠ []
  isDigit : digits.all Text.isDigit
  isBlank : closing.all Text.isBlank
  oneLine : '\n' ∉ label
  noClose : ¬ "</a>".toList <:+: label

theorem anchor?_anchorText (w : Spelling) (h : IsAnchor digits closing label) (rest : Text) :
    anchor? (anchorText w digits closing label ++ rest) = some (digits, label, rest) := by
  have hhref (s : Text) : Text.trimStart ("href=".toList ++ s) = "href=".toList ++ s := rfl
  have hclick (s : Text) : Text.trimStart ("onclick=".toList ++ s) = "onclick=".toList ++ s := rfl
  have hend (s : Text) : Text.trimStart (">".toList ++ s) = ">".toList ++ s := rfl
  have hnumber (s : Text) : Text.trimStart (digits ++ s) = digits ++ s := by
    have hdigits := h.isDigit
    obtain ⟨c, digits', rfl⟩ := List.exists_cons_of_ne_nil h.ne_nil
    rw [List.all_cons, Bool.and_eq_true] at hdigits
    exact Text.trimStart_cons (Text.isBlank_of_isDigit hdigits.1) (digits' ++ s)
  have htake (s : Text) : (digits ++ (")".toList ++ s)).takeWhile Text.isDigit = digits := by
    rw [List.takeWhile_append_of_pos (List.all_eq_true.mp h.isDigit)]
    exact List.append_nil digits
  have hdrop (s : Text) :
      (digits ++ (")".toList ++ s)).dropWhile Text.isDigit = ")".toList ++ s :=
    List.dropWhile_append_of_pos (List.all_eq_true.mp h.isDigit)
  simp only [anchorText, anchor?, List.append_assoc, List.cons_append, Text.literal?_append,
    Gap.blanks?_append, quote?_mark, hhref, hclick, hend, Text.trimStart_append w.isBlank,
    Text.trimStart_append h.isBlank, hnumber, htake, hdrop,
    label?_close h.oneLine h.noClose, h.ne_nil, guard, ne_eq,
    not_false_eq_true, if_true, Option.bind_eq_bind, Option.bind_some, Option.pure_def]

theorem exists_of_anchor? (h : anchor? s = some (digits, label, rest)) :
    ∃ w closing, s = anchorText w digits closing label ++ rest ∧ IsAnchor digits closing label := by
  simp only [anchor?, Option.bind_eq_bind, Option.bind_eq_some_iff, Text.literal?_eq_some_iff,
    blanks?_eq_some_iff, quote?_eq_some_iff, Option.guard_eq_some', Option.pure_def] at h
  obtain ⟨_, rfl, _, ⟨beforeHref, rfl, -⟩, _, rfl, _, ⟨hrefStart, rfl⟩, _, rfl, _, ⟨hrefEnd, rfl⟩, _,
    ⟨beforeClick, rfl, -⟩, _, rfl, _, ⟨clickStart, rfl⟩, t, rfl, -, hne, _, hnumber, u,
    ⟨clickEnd, rfl⟩, _, hclosing, ⟨_, _⟩, hlabel, e⟩ := h
  simp only [Option.some.injEq, Prod.mk.injEq] at e
  obtain ⟨hdigits, rfl, rfl⟩ := e
  obtain ⟨rfl, hline, hclose⟩ := label?_eq_some_iff.mp hlabel
  obtain ⟨beforeNumber, hblank, ht⟩ := Text.exists_blank_append t
  obtain ⟨closing, hblank', hu⟩ := Text.exists_blank_append u
  rw [← List.takeWhile_append_dropWhile (p := Text.isDigit) (l := t.trimStart), hnumber,
    hdigits] at ht
  rw [hdigits] at hne
  rw [hclosing] at hu
  let w : Spelling :=
    { hrefStart, hrefEnd, clickStart, clickEnd, beforeHref, beforeClick, beforeNumber
      isBlank := hblank }
  refine ⟨w, closing, ?_, hne, hdigits ▸ List.all_takeWhile, hblank', hline, hclose⟩
  rw [ht, hu]
  simp only [anchorText, List.append_assoc, List.cons_append, w]

def imageTagText (tag slash : Text) : Text :=
  "<img".toList ++ (tag ++ (slash ++ ['>']))

structure IsImageTag (tag slash : Text) : Prop where
  wholeName : startsWord tag = false
  noClose : '>' ∉ tag
  slash : slash = [] ∧ tag.getLast? ≠ some '/' ∨ slash = ['/']

theorem exists_slash (body : Text) : ∃ slash, body = dropSlash body ++ slash ∧
    (slash = [] ∧ (dropSlash body).getLast? ≠ some '/' ∨ slash = ['/']) := by
  rw [dropSlash]
  split
  · next h => exact ⟨['/'], (List.dropLast_append_getLast? _ h).symm, .inr rfl⟩
  · next h => exact ⟨[], (List.append_nil body).symm, .inl ⟨rfl, h⟩⟩

theorem dropSlash_append {tag slash : Text}
    (h : slash = [] ∧ tag.getLast? ≠ some '/' ∨ slash = ['/']) : dropSlash (tag ++ slash) = tag := by
  rcases h with ⟨rfl, h⟩ | rfl
  · rw [List.append_nil, dropSlash, if_neg h]
  · rw [dropSlash, if_pos List.getLast?_concat, List.dropLast_concat]

theorem startsWord_append {tag slash : Text} (h : IsImageTag tag slash) (rest : Text) :
    startsWord (tag ++ (slash ++ '>' :: rest)) = startsWord tag := by
  have hmarks : Text.isWordChar '/' = false ∧ Text.isWordChar '>' = false := by decide +kernel
  cases tag with
  | cons c tag => rfl
  | nil =>
    rcases h.slash with ⟨rfl, -⟩ | rfl
    · exact hmarks.2
    · exact hmarks.1

theorem imageTag?_imageTagText {tag slash : Text} (h : IsImageTag tag slash) (rest : Text) :
    imageTag? (imageTagText tag slash ++ rest) = some (tag, rest) := by
  have hclose : '>' ∉ tag ++ slash := by
    rcases h.slash with ⟨rfl, -⟩ | rfl <;> simp [h.noClose]
  have hbody := Text.upTo?_append hclose rest
  have hrest : (tag ++ slash ++ '>' :: rest).drop ((tag ++ slash).length + 1) = rest := by
    rw [List.drop_length_add_append]
    rfl
  rw [List.append_assoc] at hbody hrest
  simp only [imageTag?, imageTagText, List.append_assoc, List.singleton_append, Text.literal?_append,
    startsWord_append h, h.wholeName, hbody, hrest, dropSlash_append h.slash, guard, Bool.not_false,
    if_true, Option.bind_eq_bind, Option.bind_some, Option.pure_def]

theorem exists_of_imageTag? {tag : Text} (h : imageTag? s = some (tag, rest)) :
    ∃ slash, s = imageTagText tag slash ++ rest ∧ IsImageTag tag slash := by
  simp only [imageTag?, Option.bind_eq_bind, Option.bind_eq_some_iff, Text.literal?_eq_some_iff,
    Text.upTo?_eq_some_iff, Option.guard_eq_some', Option.pure_def, Option.some.injEq,
    Prod.mk.injEq] at h
  obtain ⟨_, rfl, -, hword, body, ⟨hclose, rest', rfl⟩, rfl, hrest⟩ := h
  obtain ⟨slash, hbody, hslash⟩ := exists_slash body
  have hrest' : (body ++ '>' :: rest').drop (body.length + 1) = rest' := by
    rw [List.drop_length_add_append]
    rfl
  have hword' : startsWord (dropSlash body) = false := by
    rw [hbody] at hword
    cases hd : dropSlash body with
    | nil => rfl
    | cons c tag => simpa [hd, startsWord] using hword
  refine ⟨slash, ?_, hword', fun hmem => hclose ?_, hslash⟩
  · rw [← hrest, hrest', imageTagText, ← List.append_assoc (dropSlash body), ← hbody]
    simp
  · rw [hbody]
    exact List.mem_append_left slash hmem

/-- A text that is matched as a tag, and what the tag stands for, if it can be acted on. -/
inductive IsTag : Text → Option Segment → Prop
  | anchor (w : Spelling) {digits closing label : Text} (h : IsAnchor digits closing label) :
      IsTag (anchorText w digits closing label) (referenceOf? digits label)
  | image {tag slash : Text} (h : IsImageTag tag slash) :
      IsTag (imageTagText tag slash) (imageOf? tag)

theorem IsTag.ne_nil {meaning : Option Segment} (h : IsTag s meaning) : s ≠ [] := by
  cases h <;> nofun

theorem take_source (s rest : Text) : (s ++ rest).take ((s ++ rest).length - rest.length) = s := by
  simp

theorem element?_of_isTag {meaning : Option Segment} (h : IsTag s meaning) (rest : Text) :
    element? (s ++ rest) = some ⟨s, meaning⟩ := by
  cases h with
  | anchor w h =>
    rw [element?, anchor?_anchorText w h]
    simp
  | @image tag slash h =>
    have hanchor : anchor? (imageTagText tag slash ++ rest) = none := by
      have hname : ¬ "<a".toList <+: imageTagText tag slash ++ rest := by simp [imageTagText]
      rw [anchor?, Text.literal?_eq_none hname]
      rfl
    rw [element?, hanchor]
    simp [imageTag?_imageTagText h]

theorem exists_of_element? {e : Element} (h : element? s = some e) :
    IsTag e.source e.meaning ∧ ∃ rest, s = e.source ++ rest := by
  rw [element?] at h
  split at h
  · next digits label rest hanchor =>
    obtain ⟨w, closing, rfl, hlabel⟩ := exists_of_anchor? hanchor
    cases h
    rw [take_source]
    exact ⟨.anchor w hlabel, rest, rfl⟩
  · next hanchor =>
    obtain ⟨⟨tag, rest⟩, himage, rfl⟩ := Option.map_eq_some_iff.mp h
    obtain ⟨slash, rfl, htag⟩ := exists_of_imageTag? himage
    dsimp only
    rw [take_source]
    exact ⟨.image htag, rest, rfl⟩

theorem element?_eq_some_iff {e : Element} :
    element? s = some e ↔ IsTag e.source e.meaning ∧ ∃ rest, s = e.source ++ rest := by
  constructor
  · exact exists_of_element?
  · rintro ⟨htag, rest, rfl⟩
    exact element?_of_isTag htag rest

end Markup

end ForumClient
