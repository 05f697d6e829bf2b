import ForumClient.Proofs.Tags

/-!
Image tags as lists of attributes, and what the search for a source and for a call finds in them.
The search goes over the text of the tag: it takes an attribute by its name, and also what merely
looks like an attribute or a call within the value of another one.
-/

namespace ForumClient

namespace Text

variable {p p' s t u w : Text} {c : Char}

theorem isWordChar_of_isBlank (hc : isBlank c) : isWordChar c = false := by
  have hall : ∀ n ∈ [9, 10, 11, 12, 13, 0x20, 0x85, 0xa0, 0x1680, 0x2000, 0x2001, 0x2002, 0x2003,
      0x2004, 0x2005, 0x2006, 0x2007, 0x2008, 0x2009, 0x200a, 0x2028, 0x2029, 0x202f, 0x205f,
      0x3000], isWordChar (.ofNat n) = false := by
    decide +kernel
  rw [← Char.ofNat_toNat c]
  apply hall
  rw [isBlank] at hc
  generalize c.toNat = n at hc
  simp only [Bool.or_eq_true, Bool.and_eq_true, decide_eq_true_eq, beq_iff_eq] at hc
  simp only [List.mem_cons, List.not_mem_nil, or_false]
  omega

theorem after?_append (hc : c ∉ p) (hu : ¬ c :: p <:+: u) (w : Text) :
    after? (c :: p) (u ++ (c :: p ++ w)) = some w := by
  induction u with
  | nil => exact after?_self (List.cons_ne_nil c p) w
  | cons d u ih =>
    have hstart : ¬ c :: p <+: d :: (u ++ (c :: p ++ w)) :=
      not_prefix_append (s := d :: u) hc (by simp) (fun h => hu h.isInfix) nofun
    have hnone : (c :: p).isPrefixOf? (d :: (u ++ (c :: p ++ w))) = none := by
      rw [Option.eq_none_iff_forall_ne_some]
      exact fun t ht => hstart ⟨t, List.isPrefixOf?_eq_some_iff_append_eq.mp ht⟩
    rw [List.cons_append, after?, hnone]
    exact ih fun h => hu (List.infix_cons h)

theorem exists_first (hp : p ≠ []) (h : p <:+: s) :
    ∃ u w, s = u ++ (p ++ w) ∧ ¬ p <:+: u := by
  have hnil : ¬ p <:+: [] := fun h => hp (List.infix_nil.mp h)
  induction s with
  | nil => exact absurd h hnil
  | cons c s ih =>
    by_cases hstart : p <+: c :: s
    · obtain ⟨w, hw⟩ := hstart
      exact ⟨[], w, hw.symm, hnil⟩
    · obtain ⟨u, w, rfl, hu⟩ := ih ((List.infix_cons_iff.mp h).resolve_left hstart)
      refine ⟨c :: u, w, rfl, fun h => ?_⟩
      rcases List.infix_cons_iff.mp h with h | h
      · exact hstart (h.trans (List.prefix_append (c :: u) _))
      · exact hu h

end Text

namespace Markup

def isNameChar (c : Char) : Bool := c.isAlpha || c = '-'

theorem isBlank_space : [' '].all Text.isBlank := rfl

theorem space_ne_nil : [' '] ≠ [] := nofun

def Gap.space : Gap := ⟨[' '], space_ne_nil, isBlank_space⟩

/-- An attribute as an image tag may hold it: its value holds neither its own quotation mark nor
the bracket that closes the tag. -/
structure TagAttribute where
  before : Gap := .space
  name : Text
  quote : Quote := .double
  value : Text
  ne_nil : name ≠ [] := by decide
  isName : name.all isNameChar := by decide
  closed : quote.mark ∉ value := by decide
  noClose : '>' ∉ value := by decide

namespace TagAttribute

def text (a : TagAttribute) : Text :=
  a.before.text ++ (a.name ++ '=' :: a.quote.mark :: (a.value ++ [a.quote.mark]))

end TagAttribute

def attributesText (as : List TagAttribute) : Text := as.flatMap TagAttribute.text

def taggedImage (as : List TagAttribute) : Text := "<img".toList ++ (attributesText as ++ ['>'])

def TagAttribute.behind (a : TagAttribute) (as : List TagAttribute) : Text :=
  a.quote.mark :: attributesText as

inductive StartsQuoted : Text → Text → Prop
  | mk {ws t : Text} (blank : ws.all Text.isBlank) (q : Quote) (closed : q.mark ∉ t)
      (rest : Text) : StartsQuoted (ws ++ q.mark :: (t ++ q.mark :: rest)) t

inductive StartsSource : Text → Text → Prop
  | mk {ws s t : Text} (blank : ws.all Text.isBlank) (quoted : StartsQuoted s t) :
      StartsSource ("src".toList ++ (ws ++ '=' :: s)) t

/-- A value that holds, behind white space, the look of a source attribute; the look may go on
behind the value. The first one counts. -/
inductive Mimics (behind : Text) : Text → Text → Prop
  | here {c : Char} {v t : Text} (blank : Text.isBlank c)
      (source : StartsSource (v ++ behind) t) : Mimics behind (c :: v) t
  | later {c : Char} {v t : Text}
      (first : Text.isBlank c → ∀ u, ¬ StartsSource (v ++ behind) u)
      (mimics : Mimics behind v t) : Mimics behind (c :: v) t

/-- What is taken for the source of an image: the first attribute of that name, or the first look
of one in a value before it. -/
inductive Sources : List TagAttribute → Text → Prop
  | own {a : TagAttribute} {as : List TagAttribute} (name : a.name = "src".toList) :
      Sources (a :: as) a.value
  | mimicked {a : TagAttribute} {as : List TagAttribute} {t : Text} (name : a.name ≠ "src".toList)
      (mimics : Mimics (a.behind as) a.value t) : Sources (a :: as) t
  | later {a : TagAttribute} {as : List TagAttribute} {t : Text} (name : a.name ≠ "src".toList)
      (first : ∀ u, ¬ Mimics (a.behind as) a.value u) (sources : Sources as t) : Sources (a :: as) t

def enlargeCall : Text := "_enlarge(this,".toList

/-- What is taken for the address of the full image: the text between quotation marks behind the
first beginning of a call, whatever attribute holds it and wherever the marks stand. -/
inductive Calls : List TagAttribute → Text → Prop
  | here {a : TagAttribute} {as : List TagAttribute} {u w url : Text}
      (value : a.value = u ++ (enlargeCall ++ w)) (first : ¬ enlargeCall <:+: u)
      (target : StartsQuoted (w ++ a.behind as) url) : Calls (a :: as) url
  | later {a : TagAttribute} {as : List TagAttribute} {url : Text}
      (first : ¬ enlargeCall <:+: a.value) (calls : Calls as url) : Calls (a :: as) url

variable {s t v w url behind : Text} {a : TagAttribute} {as : List TagAttribute} {c : Char}

def quotedText? : Text → Option Text
  | '\'' :: s => Text.upTo? '\'' s
  | '"' :: s => Text.upTo? '"' s
  | _ => none

theorem quotedText?_mark (q : Quote) (s : Text) :
    quotedText? (q.mark :: s) = Text.upTo? q.mark s := by
  cases q <;> rfl

theorem trimStart_mark (q : Quote) (s : Text) : Text.trimStart (q.mark :: s) = q.mark :: s := by
  cases q <;> rfl

theorem quotedText?_eq_some_iff :
    quotedText? (Text.trimStart s) = some t ↔ StartsQuoted s t := by
  constructor
  · intro h
    obtain ⟨ws, hws, hs⟩ := Text.exists_blank_append s
    rw [hs]
    unfold quotedText? at h
    split at h
    · next u hu =>
      obtain ⟨hclosed, rest, rfl⟩ := Text.upTo?_eq_some_iff.mp h
      rw [hu]
      exact .mk hws .single hclosed rest
    · next u hu =>
      obtain ⟨hclosed, rest, rfl⟩ := Text.upTo?_eq_some_iff.mp h
      rw [hu]
      exact .mk hws .double hclosed rest
    · cases h
  · rintro ⟨hws, q, hclosed, rest⟩
    rw [Text.trimStart_append hws, trimStart_mark, quotedText?_mark, Text.upTo?_append hclosed]

theorem sourceHere?_eq_some_iff : sourceHere? s = some t ↔ StartsSource s t := by
  have heq : sourceHere? s = (Text.literal? "src" s).bind fun s =>
      (Text.literal? "=" (Text.trimStart s)).bind fun s => quotedText? (Text.trimStart s) := rfl
  simp only [heq, Option.bind_eq_some_iff, Text.literal?_eq_some_iff, quotedText?_eq_some_iff]
  constructor
  · rintro ⟨u, rfl, v, hv, h⟩
    obtain ⟨ws, hws, hu⟩ := Text.exists_blank_append u
    rw [hu, hv]
    exact .mk hws h
  · rintro ⟨hws, h⟩
    exact ⟨_, rfl, _, Text.trimStart_append hws _, h⟩

theorem enlargeTarget?_eq (tag : Text) : enlargeTarget? tag =
    (Text.after? enlargeCall tag).bind fun s => quotedText? (Text.trimStart s) := rfl

theorem sourceAfterBlank?_cons (c : Char) (s : Text) :
    sourceAfterBlank? (c :: s) = (if Text.isBlank c then sourceHere? s else none).or
      (sourceAfterBlank? s) := by
  rw [sourceAfterBlank?]
  split
  · cases sourceHere? s <;> rfl
  · rfl

def mimicked? (behind : Text) : Text → Option Text
  | [] => none
  | c :: v => (if Text.isBlank c then sourceHere? (v ++ behind) else none).or (mimicked? behind v)

theorem ite_sourceHere?_eq_some_iff :
    (if Text.isBlank c then sourceHere? s else none) = some t ↔
      Text.isBlank c ∧ StartsSource s t := by
  split <;> simp [sourceHere?_eq_some_iff, *]

theorem mimicked?_eq_some_iff : mimicked? behind v = some t ↔ Mimics behind v t := by
  induction v with
  | nil => exact ⟨nofun, nofun⟩
  | cons c v ih =>
    rw [mimicked?, Option.or_eq_some_iff, ite_sourceHere?_eq_some_iff, ih,
      Option.eq_none_iff_forall_ne_some]
    simp only [ne_eq, ite_sourceHere?_eq_some_iff, not_and]
    constructor
    · rintro (⟨hc, h⟩ | ⟨hfirst, h⟩)
      · exact .here hc h
      · exact .later (fun hc u => hfirst u hc) h
    · rintro (⟨hc, h⟩ | ⟨hfirst, h⟩)
      · exact .inl ⟨hc, h⟩
      · exact .inr ⟨fun u hc => hfirst hc u, h⟩

theorem sourceAfterBlank?_append (v behind : Text) : sourceAfterBlank? (v ++ behind) =
    (mimicked? behind v).or (sourceAfterBlank? behind) := by
  induction v with
  | nil => rfl
  | cons c v ih => rw [List.cons_append, sourceAfterBlank?_cons, ih, mimicked?, Option.or_assoc]

theorem sourceAfterBlank?_append_of_forall (h : ∀ c ∈ v, Text.isBlank c = false) (s : Text) :
    sourceAfterBlank? (v ++ s) = sourceAfterBlank? s := by
  induction v with
  | nil => rfl
  | cons c v ih =>
    rw [List.forall_mem_cons] at h
    rw [List.cons_append, sourceAfterBlank?_cons, h.1, ih h.2]
    rfl

theorem sourceHere?_of_isBlank (hc : Text.isBlank c) (s : Text) : sourceHere? (c :: s) = none := by
  rw [Option.eq_none_iff_forall_ne_some]
  intro t ht
  generalize hs : c :: s = u at ht
  obtain ⟨-, -⟩ := sourceHere?_eq_some_iff.mp ht
  obtain rfl := (List.cons.inj hs).1
  exact absurd hc (by decide)

theorem sourceAfterBlank?_gap (g : Gap) (s : Text) : sourceAfterBlank? (g.text ++ s) =
    (sourceHere? s).or (sourceAfterBlank? s) := by
  obtain ⟨ws, hne, hblank⟩ := g
  dsimp only
  induction ws with
  | nil => exact absurd rfl hne
  | cons c ws ih =>
    rw [List.all_cons, Bool.and_eq_true] at hblank
    rw [List.cons_append, sourceAfterBlank?_cons, if_pos hblank.1]
    cases ws with
    | nil => rfl
    | cons d ws =>
      have hd := List.all_eq_true.mp hblank.2 d List.mem_cons_self
      rw [ih nofun hblank.2, List.cons_append, sourceHere?_of_isBlank hd]
      rfl

theorem isBlank_of_isNameChar (hc : isNameChar c) : Text.isBlank c = false := by
  have hrange : 65 ≤ c.toNat ∧ c.toNat ≤ 122 ∨ c.toNat = 45 := by
    rcases Bool.or_eq_true_iff.mp hc with hletter | hhyphen
    · rcases Bool.or_eq_true_iff.mp hletter with hcase | hcase
      · obtain ⟨hlow, hhigh⟩ := of_decide_eq_true hcase
        exact .inl ⟨hlow, Nat.le_trans hhigh (by decide)⟩
      · obtain ⟨hlow, hhigh⟩ := Bool.and_eq_true_iff.mp hcase
        exact .inl ⟨Nat.le_trans (by decide) (of_decide_eq_true hlow), of_decide_eq_true hhigh⟩
    · exact .inr (congrArg Char.toNat (of_decide_eq_true hhyphen))
  rw [Text.isBlank, Bool.eq_false_iff]
  generalize c.toNat = n at hrange ⊢
  intro h
  simp only [Bool.or_eq_true, Bool.and_eq_true, decide_eq_true_eq, beq_iff_eq] at h
  omega

theorem isBlank_mark (q : Quote) : Text.isBlank q.mark = false := by
  cases q <;> decide

namespace TagAttribute

theorem not_mem_name (a : TagAttribute) (hc : isNameChar c = false) : c ∉ a.name := fun h =>
  absurd (List.all_eq_true.mp a.isName c h) (by simp [hc])

theorem not_mem_before (a : TagAttribute) (hc : Text.isBlank c = false) : c ∉ a.before.text :=
  fun h => absurd (List.all_eq_true.mp a.before.isBlank c h) (by simp [hc])

theorem eq_src_of_startsSource (a : TagAttribute) (h : StartsSource (a.name ++ '=' :: s) t) :
    a.name = "src".toList := by
  generalize hs : a.name ++ '=' :: s = u at h
  obtain @⟨ws, _, _, hblank, -⟩ := h
  have hws : '=' ∉ ws := fun h => absurd (List.all_eq_true.mp hblank _ h) (by decide)
  have hname : a.name = "src".toList ++ ws := by
    rw [← List.append_assoc] at hs
    have hup := congrArg (Text.upTo? '=') hs
    rw [Text.upTo?_append (a.not_mem_name (by decide)), Text.upTo?_append (by simp [hws])] at hup
    exact Option.some.inj hup
  cases ws with
  | nil => exact hname
  | cons c ws =>
    have hc : isNameChar c := List.all_eq_true.mp a.isName c (by simp [hname])
    exact absurd (List.all_eq_true.mp hblank c List.mem_cons_self)
      (by simp [isBlank_of_isNameChar hc])

theorem text_append (a : TagAttribute) (s : Text) : a.text ++ s =
    a.before.text ++ (a.name ++ '=' :: a.quote.mark :: (a.value ++ a.quote.mark :: s)) := by
  simp [text]

theorem sourceHere?_name (a : TagAttribute) (s : Text) :
    sourceHere? (a.name ++ '=' :: a.quote.mark :: (a.value ++ a.quote.mark :: s)) =
      if a.name = "src".toList then some a.value else none := by
  split
  · next hname =>
    rw [hname]
    exact sourceHere?_eq_some_iff.mpr
      (@StartsSource.mk [] _ _ rfl (@StartsQuoted.mk [] _ rfl a.quote a.closed s))
  · next hname =>
    rw [Option.eq_none_iff_forall_ne_some]
    exact fun t ht => hname (a.eq_src_of_startsSource (sourceHere?_eq_some_iff.mp ht))

theorem sourceAfterBlank?_text (a : TagAttribute) (s : Text) : sourceAfterBlank? (a.text ++ s) =
    if a.name = "src".toList then some a.value
    else (mimicked? (a.quote.mark :: s) a.value).or (sourceAfterBlank? s) := by
  have hname : ∀ c ∈ a.name, Text.isBlank c = false := fun c hc =>
    isBlank_of_isNameChar (List.all_eq_true.mp a.isName c hc)
  have hmark (s : Text) : sourceAfterBlank? (a.quote.mark :: s) = sourceAfterBlank? s :=
    sourceAfterBlank?_append_of_forall (List.forall_mem_singleton.mpr (isBlank_mark a.quote)) s
  have hequals (s : Text) : sourceAfterBlank? ('=' :: s) = sourceAfterBlank? s :=
    sourceAfterBlank?_append_of_forall (List.forall_mem_singleton.mpr (by decide)) s
  rw [text_append, sourceAfterBlank?_gap, sourceHere?_name,
    sourceAfterBlank?_append_of_forall hname, hequals, hmark, sourceAfterBlank?_append, hmark]
  split <;> rfl

end TagAttribute

theorem sourceAfterBlank?_attributesText (as : List TagAttribute) :
    sourceAfterBlank? (attributesText as) = some t ↔ Sources as t := by
  induction as with
  | nil => exact ⟨nofun, nofun⟩
  | cons a as ih =>
    rw [attributesText, List.flatMap_cons, a.sourceAfterBlank?_text, ← attributesText]
    split
    · next hname =>
      constructor
      · rintro ⟨⟩
        exact .own hname
      · rintro (_ | ⟨hne, -⟩ | ⟨hne, -, -⟩)
        · rfl
        · exact absurd hname hne
        · exact absurd hname hne
    · next hname =>
      rw [Option.or_eq_some_iff, mimicked?_eq_some_iff, ih, Option.eq_none_iff_forall_ne_some]
      simp only [ne_eq, mimicked?_eq_some_iff]
      constructor
      · rintro (h | ⟨hfirst, h⟩)
        · exact .mimicked hname h
        · exact .later hname hfirst h
      · rintro (hown | ⟨-, h⟩ | ⟨-, hfirst, h⟩)
        · exact absurd hown hname
        · exact .inl h
        · exact .inr ⟨hfirst, h⟩

theorem attributesText_cases (as : List TagAttribute) :
    attributesText as = [] ∨ ∃ c s, Text.isBlank c ∧ attributesText as = c :: s := by
  cases as with
  | nil => exact .inl rfl
  | cons a as =>
    obtain ⟨c, ws, hws⟩ := List.exists_cons_of_ne_nil a.before.ne_nil
    have hc : Text.isBlank c := List.all_eq_true.mp a.before.isBlank c (by simp [hws])
    rw [attributesText, List.flatMap_cons, a.text_append, hws, List.cons_append]
    exact .inr ⟨c, _, hc, rfl⟩

theorem source?_attributesText (as : List TagAttribute) :
    source? (attributesText as) = some t ↔ Sources as t := by
  have hstart : sourceHere? (attributesText as) = none := by
    rcases attributesText_cases as with h | ⟨c, s, hc, h⟩
    · rw [h]
      rfl
    · rw [h]
      exact sourceHere?_of_isBlank hc s
  rw [source?, hstart]
  exact sourceAfterBlank?_attributesText as

namespace TagAttribute

theorem mark_not_mem_enlargeCall (q : Quote) : q.mark ∉ enlargeCall := by
  cases q <;> decide

theorem after?_text (a : TagAttribute) (s : Text) : Text.after? enlargeCall (a.text ++ s) =
    Text.after? enlargeCall (a.value ++ a.quote.mark :: s) := by
  have hname : ¬ enlargeCall <:+: a.before.text ++ a.name := fun h => by
    have hmem : '_' ∈ a.before.text ++ a.name := h.subset (by decide)
    rcases List.mem_append.mp hmem with h | h
    · exact a.not_mem_before (by decide) h
    · exact a.not_mem_name (by decide) h
  have hmark (s : Text) : Text.after? enlargeCall (a.quote.mark :: s) =
      Text.after? enlargeCall s :=
    Text.after?_append_cons (by decide) (mark_not_mem_enlargeCall a.quote)
      (fun h => absurd (List.infix_nil.mp h) (by decide)) s
  rw [text_append, ← List.append_assoc,
    Text.after?_append_cons (by decide) (by decide) hname, hmark]

end TagAttribute

theorem enlargeTarget?_skip (h : ¬ enlargeCall <:+: a.value) (as : List TagAttribute) :
    enlargeTarget? (attributesText (a :: as)) = enlargeTarget? (attributesText as) := by
  rw [enlargeTarget?_eq, enlargeTarget?_eq, attributesText, List.flatMap_cons, a.after?_text,
    Text.after?_append_cons (by decide) (TagAttribute.mark_not_mem_enlargeCall a.quote) h]
  rfl

theorem enlargeTarget?_here {u : Text} (hvalue : a.value = u ++ (enlargeCall ++ w))
    (hfirst : ¬ enlargeCall <:+: u) (as : List TagAttribute) :
    enlargeTarget? (attributesText (a :: as)) = some url ↔ StartsQuoted (w ++ a.behind as) url := by
  have hcall : Text.after? enlargeCall (attributesText (a :: as)) = some (w ++ a.behind as) := by
    rw [attributesText, List.flatMap_cons, a.after?_text, hvalue, List.append_assoc,
      List.append_assoc]
    exact Text.after?_append (by decide) hfirst _
  rw [enlargeTarget?_eq, hcall]
  exact quotedText?_eq_some_iff

theorem enlargeTarget?_attributesText (as : List TagAttribute) :
    enlargeTarget? (attributesText as) = some url ↔ Calls as url := by
  constructor
  · intro hurl
    induction as with
    | nil => cases hurl
    | cons a as ih =>
      by_cases h : enlargeCall <:+: a.value
      · obtain ⟨u, w, hvalue, hfirst⟩ := Text.exists_first (by decide) h
        exact .here hvalue hfirst ((enlargeTarget?_here hvalue hfirst as).mp hurl)
      · rw [enlargeTarget?_skip h] at hurl
        exact .later h (ih hurl)
  · intro h
    induction h with
    | here hvalue hfirst htarget => exact (enlargeTarget?_here hvalue hfirst _).mpr htarget
    | later hfirst _ ih => rwa [enlargeTarget?_skip hfirst]

theorem TagAttribute.not_mem_text (a : TagAttribute) : '>' ∉ a.text := by
  have hmark : '>' ≠ a.quote.mark := by
    rcases a.quote with _ | _ <;> decide
  have hname : '>' ∉ a.name := a.not_mem_name (by decide)
  have hbefore : '>' ∉ a.before.text := a.not_mem_before (by decide)
  simp [text, hmark, hname, hbefore, a.noClose]

theorem startsWord_attributesText (as : List TagAttribute) :
    startsWord (attributesText as) = false := by
  rcases attributesText_cases as with h | ⟨c, s, hc, h⟩
  · rw [h]
    rfl
  · rw [h]
    exact Text.isWordChar_of_isBlank hc

theorem getLast?_attributesText (as : List TagAttribute) :
    (attributesText as).getLast? ≠ some '/' := by
  rcases List.eq_nil_or_concat as with rfl | ⟨as, a, rfl⟩
  · decide
  · have hmark : a.quote.mark ≠ '/' := by
      rcases a.quote with _ | _ <;> decide
    simp [attributesText, TagAttribute.text, List.getLast?_append, List.getLast?_cons, hmark]

theorem isTag_taggedImage (as : List TagAttribute) :
    IsTag (taggedImage as) (imageOf? (attributesText as)) := by
  have htag : IsImageTag (attributesText as) [] := {
    wholeName := startsWord_attributesText as
    noClose := fun h => by
      obtain ⟨a, -, ha⟩ := List.mem_flatMap.mp h
      exact a.not_mem_text ha
    slash := .inl ⟨rfl, getLast?_attributesText as⟩ }
  exact .image htag

end Markup

end ForumClient
