import ForumClient.Proofs.Elements

namespace ForumClient

namespace Text

def maxBytes : Nat := UInt64.size / 2 - 1

theorem length_le_byteLength (s : Text) : s.length ≤ s.byteLength := by
  induction s with
  | nil => simp
  | cons c s ih =>
    have := c.utf8Size_pos
    simp only [List.length_cons, byteLength_cons]
    omega

end Text

namespace Markup

theorem length_lexemesAfter_le (skip : Nat) (s : Text) : (lexemesAfter skip s).length ≤ s.length := by
  fun_induction lexemesAfter skip s with
  | case1 => simp
  | case2 skip c s ih => exact Nat.le_succ_of_le ih
  | case3 c s e he ih => simpa using ih
  | case4 c s he ih => simpa using ih

theorem length_consHtml_le (t : Text) (segs : List Segment) :
    (consHtml t segs).length ≤ segs.length + 1 := by
  unfold consHtml
  split <;> simp

theorem length_ofLexemes_le (ls : List Lexeme) : (ofLexemes ls).length ≤ ls.length := by
  fun_induction ofLexemes ls with
  | case1 => simp
  | case2 c ls ih => exact Nat.le_trans (length_consHtml_le _ _) (Nat.succ_le_succ ih)
  | case3 source ls ih => exact Nat.le_trans (length_consHtml_le _ _) (Nat.succ_le_succ ih)
  | case4 source seg ls ih => exact Nat.succ_le_succ ih

theorem length_interactive_le (html : Text) : (interactive html).length ≤ html.byteLength :=
  calc
    (interactive html).length ≤ (segments html).length := List.length_filter_le _ _
    _ ≤ (lexemes html).length := length_ofLexemes_le _
    _ ≤ html.length := length_lexemesAfter_le 0 html
    _ ≤ html.byteLength := Text.length_le_byteLength html

end Markup

open Markup

namespace Document

variable {d : Document} {parent p q r : Slot.Path} {html : Text} {seg : Segment}

def Fits (d : Document) : Prop :=
  d.html.byteLength ≤ Text.maxBytes ∧
    ∀ e ∈ d.references.entries, ∀ fragment ∈ e.2.fragment?, fragment.byteLength ≤ Text.maxBytes

instance (d : Document) : Decidable d.Fits := inferInstanceAs (Decidable (_ ∧ _))

theorem Fits.shown {fragment : Text} (hd : d.Fits) (h : d.shown? p = some fragment) :
    fragment.byteLength ≤ Text.maxBytes :=
  hd.2 _ (Table.mem_entries_iff.mpr (shown?_eq_some_iff.mp h)) fragment rfl

theorem lt_stepLimit_of_getElem? {i : Nat} (h : html.byteLength ≤ Text.maxBytes)
    (hi : (interactive html)[i]? = some seg) : i < Slot.stepLimit := by
  obtain ⟨hlt, -⟩ := List.getElem?_eq_some_iff.mp hi
  have hle := length_interactive_le html
  have hlim : Text.maxBytes < Slot.stepLimit := by decide
  omega

theorem lt_stepLimit_of_at? (hd : d.Fits) (hhtml : html.byteLength ≤ Text.maxBytes)
    (h : d.at? parent html p = some seg) : ∀ i ∈ p, i < Slot.stepLimit := by
  induction p generalizing parent html with
  | nil => cases h
  | cons i p ih =>
    rw [List.forall_mem_cons]
    by_cases hp : p = []
    · subst hp
      exact ⟨lt_stepLimit_of_getElem? hhtml h, by simp⟩
    · obtain ⟨post, label, fragment, hi, hf, hat⟩ := (at?_cons_eq_some_iff hp).mp h
      exact ⟨lt_stepLimit_of_getElem? hhtml hi, ih (hd.shown hf) hat⟩

theorem child_name (p : Slot.Path) (i : Nat) :
    Slot.child (Slot.name p) i = Slot.name (p ++ [i]) := (Slot.name_concat p i).symm

theorem follow?_cons_eq_some_iff {i : Nat} (hp : p ≠ []) :
    d.follow? (Slot.name parent) html (i :: p) = some seg ↔
      ∃ s fragment, (interactive html)[i]? = some s ∧ d.shown? (parent ++ [i]) = some fragment ∧
        d.follow? (Slot.name (parent ++ [i])) fragment p = some seg := by
  cases p with
  | nil => exact absurd rfl hp
  | cons j p =>
    rw [follow?, child_name, shown?_eq]
    · cases (interactive html)[i]? <;>
        cases d.references.get? (Slot.name (parent ++ [i])) <;> simp [Option.bind_eq_some_iff]
    · simp

theorem follow?_of_at? (h : d.at? parent html p = some seg) :
    d.follow? (Slot.name parent) html p = some seg := by
  induction p generalizing parent html with
  | nil => cases h
  | cons i p ih =>
    by_cases hp : p = []
    · subst hp
      exact h
    · obtain ⟨post, label, fragment, hi, hf, hat⟩ := (at?_cons_eq_some_iff hp).mp h
      exact (follow?_cons_eq_some_iff hp).mpr ⟨_, fragment, hi, hf, ih hat⟩

/-- Whether a path enters an image under whose name a reference's fragment is kept. -/
def EntersImage (d : Document) (parent : Slot.Path) (html : Text) (p : Slot.Path) : Prop :=
  ∃ q r thumbnail url, p = q ++ r ∧ q ≠ [] ∧ r ≠ [] ∧
    d.at? parent html q = some (.image thumbnail url) ∧ (d.shown? (parent ++ q)).isSome

theorem at?_of_follow? (h : d.follow? (Slot.name parent) html p = some seg) :
    d.at? parent html p = some seg ∨ d.EntersImage parent html p := by
  induction p generalizing parent html with
  | nil => cases h
  | cons i p ih =>
    by_cases hp : p = []
    · subst hp
      exact .inl h
    · obtain ⟨s, fragment, hi, hf, hfollow⟩ := (follow?_cons_eq_some_iff hp).mp h
      cases s with
      | html t =>
        have := List.of_mem_filter (List.mem_of_getElem? hi)
        cases this
      | image thumbnail url =>
        exact .inr ⟨[i], p, thumbnail, url, rfl, by simp, hp, hi, by rw [hf]; rfl⟩
      | reference post label =>
        rcases ih hfollow with hat | ⟨q, r, thumbnail, url, rfl, hq, hr, hat, hs⟩
        · exact .inl ((at?_cons_eq_some_iff hp).mpr ⟨post, label, fragment, hi, hf, hat⟩)
        · exact .inr ⟨i :: q, r, thumbnail, url, rfl, by simp, hr,
            (at?_cons_eq_some_iff hq).mpr ⟨post, label, fragment, hi, hf, hat⟩, by simpa using hs⟩

theorem slot?_name_eq_some_iff :
    d.slot? (Slot.name p) = some seg ↔
      (p ≠ [] ∧ ∀ i ∈ p, i < Slot.stepLimit) ∧ d.follow? [] d.html p = some seg := by
  rw [slot?, Option.bind_eq_some_iff]
  simp only [Slot.path?_name_eq_some_iff]
  constructor
  · rintro ⟨q, ⟨hne, rfl, hlt⟩, h⟩
    exact ⟨⟨hne, hlt⟩, h⟩
  · rintro ⟨⟨hne, hlt⟩, h⟩
    exact ⟨p, ⟨hne, rfl, hlt⟩, h⟩

theorem slot?_name_of_element? (hd : d.Fits) (h : d.element? p = some seg) :
    d.slot? (Slot.name p) = some seg :=
  slot?_name_eq_some_iff.mpr
    ⟨⟨ne_nil_of_at? h, lt_stepLimit_of_at? hd hd.1 h⟩, follow?_of_at? h⟩

theorem element?_of_slot?_name (h : d.slot? (Slot.name p) = some seg) :
    d.element? p = some seg ∨ d.EntersImage [] d.html p :=
  at?_of_follow? (slot?_name_eq_some_iff.mp h).2

end Document

end ForumClient
