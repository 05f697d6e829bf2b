import ForumClient.Post.Document
import ForumClient.Proofs.Numeral
import Mathlib.Data.List.Basic
import Mathlib.Data.List.Induction
import Mathlib.Data.List.Nodup

namespace ForumClient

namespace Text

theorem splitBy_append {sep : Char → Bool} {c : Char} (hc : sep c) (s t : Text) :
    splitBy sep (s ++ c :: t) = splitBy sep s ++ splitBy sep t := by
  induction s with
  | nil => simp [splitBy, hc]
  | cons x s ih =>
    simp only [List.cons_append, splitBy, ih]
    split
    · rfl
    · cases h : splitBy sep s with
      | nil => exact absurd h (splitBy_ne_nil sep s)
      | cons w ws => rfl

theorem splitBy_of_forall {sep : Char → Bool} {s : Text} (h : ∀ c ∈ s, sep c = false) :
    splitBy sep s = [s] := by
  induction s with
  | nil => rfl
  | cons c s ih =>
    rw [List.forall_mem_cons] at h
    simp [splitBy, h.1, ih h.2]

theorem joinWith_cons (sep w : Text) {ws : List Text} (h : ws ≠ []) :
    joinWith sep (w :: ws) = w ++ sep ++ joinWith sep ws := by
  cases ws with
  | nil => exact absurd rfl h
  | cons v ws => rfl

end Text

namespace Slot

variable {p q : Path}

@[simp] theorem name_nil : name [] = [] := rfl

@[simp] theorem name_singleton (i : Nat) : name [i] = Numeral.write i := rfl

theorem name_concat (p : Path) (i : Nat) : name (p ++ [i]) = child (name p) i := by
  simp [name]

@[simp] theorem name_eq_nil_iff : name p = [] ↔ p = [] := by
  cases p using List.reverseRecOn with
  | nil => simp
  | append_singleton p i =>
    rw [name_concat, child]
    split <;> simp [Numeral.write_ne_nil]

theorem name_append (hp : p ≠ []) (hq : q ≠ []) : name (p ++ q) = name p ++ '.' :: name q := by
  induction q using List.reverseRecOn with
  | nil => exact absurd rfl hq
  | append_singleton q i ih =>
    rw [← List.append_assoc, name_concat, name_concat, child]
    by_cases h : q = []
    · subst h
      simp [child, hp]
    · rw [ih h, child]
      simp [h]

theorem name_cons (i : Nat) (hp : p ≠ []) : name (i :: p) = Numeral.write i ++ '.' :: name p :=
  name_append (p := [i]) (by simp) hp

theorem ne_dot_of_mem_write {n : Nat} {c : Char} (h : c ∈ Numeral.write n) :
    decide (c = '.') = false := by
  have := Numeral.isDigit_of_mem_write h
  rw [decide_eq_false_iff_not]
  intro e
  subst e
  exact absurd this (by decide)

theorem isDigit_or_dot_of_mem_name {c : Char} (h : c ∈ name p) : c.isDigit ∨ c = '.' := by
  induction p using List.reverseRecOn with
  | nil => cases h
  | append_singleton p i ih =>
    rw [name_concat, child] at h
    split at h
    · exact .inl (Numeral.isDigit_of_mem_write h)
    · rw [List.mem_append, List.mem_cons] at h
      rcases h with h | h | h
      · exact ih h
      · exact .inr h
      · exact .inl (Numeral.isDigit_of_mem_write h)

theorem splitBy_name (hp : p ≠ []) : (name p).splitBy (· = '.') = p.map Numeral.write := by
  induction p with
  | nil => exact absurd rfl hp
  | cons i p ih =>
    by_cases h : p = []
    · subst h
      exact Text.splitBy_of_forall fun _ => ne_dot_of_mem_write
    · rw [name_cons i h, Text.splitBy_append (by simp), ih h,
        Text.splitBy_of_forall fun _ => ne_dot_of_mem_write]
      rfl

theorem name_injective : Function.Injective name := by
  intro p q h
  by_cases hp : p = []
  · subst hp
    exact (name_eq_nil_iff.mp h.symm).symm
  · have hq : q ≠ [] := fun e => hp (name_eq_nil_iff.mp (by rw [h, e]; rfl))
    have hs := congrArg (Text.splitBy (· = '.')) h
    rw [splitBy_name hp, splitBy_name hq] at hs
    exact Numeral.write_injective.list_map hs

theorem mapM_eq_some_iff {α β : Type} {f : α → Option β} {xs : List α} {ys : List β} :
    xs.mapM f = some ys ↔ xs.map f = ys.map some := by
  induction xs generalizing ys with
  | nil => cases ys <;> simp
  | cons x xs ih =>
    rw [List.mapM_cons, List.map_cons]
    cases ys with
    | nil => cases f x <;> cases xs.mapM f <;> simp
    | cons y ys =>
      have h : xs.mapM f = some ys ↔ xs.map f = ys.map some := ih
      cases f x <;> cases hxs : xs.mapM f <;> simp_all

theorem map_read?_write_iff :
    p.map (Numeral.read? stepLimit ∘ Numeral.write) = q.map some ↔
      p = q ∧ ∀ i ∈ p, i < stepLimit := by
  induction p generalizing q with
  | nil => cases q <;> simp
  | cons i p ih =>
    cases q with
    | nil => simp
    | cons j q =>
      have h : Numeral.read? stepLimit (Numeral.write i) = some j ↔ i = j ∧ j < stepLimit :=
        Numeral.read?_write (by decide)
      simp only [List.map_cons, Function.comp_apply, List.cons.injEq, h, ih, List.forall_mem_cons]
      constructor
      · rintro ⟨⟨rfl, hi⟩, rfl, hp⟩
        exact ⟨⟨rfl, rfl⟩, hi, hp⟩
      · rintro ⟨⟨rfl, rfl⟩, hi, hp⟩
        exact ⟨⟨rfl, hi⟩, rfl, hp⟩

theorem path?_name_eq_some_iff :
    path? (name p) = some q ↔ p ≠ [] ∧ p = q ∧ ∀ i ∈ p, i < stepLimit := by
  by_cases hp : p = []
  · subst hp
    simp [path?, Text.splitBy, Numeral.read?, Numeral.read, Except.toOption]
  · rw [path?, splitBy_name hp, mapM_eq_some_iff, List.map_map, and_iff_right hp]
    exact map_read?_write_iff

theorem isUnder_iff {parent id : Text} :
    isUnder parent id ↔ ∃ rest, id = parent ++ '.' :: rest := by
  rw [isUnder, List.isPrefixOf_iff_prefix]
  constructor
  · rintro ⟨rest, rfl⟩
    exact ⟨rest, by simp⟩
  · rintro ⟨rest, rfl⟩
    exact ⟨rest, by simp⟩

theorem isUnder_self (id : Text) : isUnder id id = false := by
  rw [← Bool.not_eq_true, isUnder_iff]
  rintro ⟨rest, h⟩
  simpa using congrArg List.length h

theorem isUnder_trans {a b c : Text} (hab : isUnder a b) (hbc : isUnder b c) : isUnder a c := by
  obtain ⟨s, rfl⟩ := isUnder_iff.mp hab
  obtain ⟨t, rfl⟩ := isUnder_iff.mp hbc
  exact isUnder_iff.mpr ⟨s ++ '.' :: t, by simp⟩

theorem isUnder_name_iff (hp : p ≠ []) :
    isUnder (name p) (name q) ↔ ∃ r, r ≠ [] ∧ q = p ++ r := by
  rw [isUnder_iff]
  constructor
  · rintro ⟨rest, h⟩
    have hq : q ≠ [] := by
      intro e
      subst e
      simp at h
    have hs := congrArg (Text.splitBy (· = '.')) h
    rw [Text.splitBy_append (by simp), splitBy_name hp, splitBy_name hq] at hs
    obtain ⟨p', r, rfl, hp', hr⟩ := List.map_eq_append_iff.mp hs
    obtain rfl := Numeral.write_injective.list_map hp'
    refine ⟨r, ?_, rfl⟩
    intro e
    subst e
    exact Text.splitBy_ne_nil _ _ hr.symm
  · rintro ⟨r, hr, rfl⟩
    exact ⟨name r, name_append hp hr⟩

def ancestors (p : Path) : List Path := (List.range (p.length - 1)).map fun k => p.take (k + 1)

@[simp] theorem length_ancestors (p : Path) : (ancestors p).length = p.length - 1 := by
  simp [ancestors]

theorem mem_ancestors_iff : q ∈ ancestors p ↔ q ≠ [] ∧ ∃ r, r ≠ [] ∧ p = q ++ r := by
  simp only [ancestors, List.mem_map, List.mem_range]
  constructor
  · rintro ⟨k, hk, rfl⟩
    have hp : p ≠ [] := by
      intro e
      subst e
      simp at hk
    exact ⟨by simp [hp], p.drop (k + 1), by simp; omega, by simp⟩
  · rintro ⟨hq, r, hr, rfl⟩
    have := List.length_pos_iff.mpr hq
    have := List.length_pos_iff.mpr hr
    exact ⟨q.length - 1, by simp; omega, by rw [Nat.sub_add_cancel (by omega), List.take_left]⟩

theorem nodup_ancestors (p : Path) : (ancestors p).Nodup := by
  apply List.nodup_range.map_on
  intro i hi j hj h
  rw [List.mem_range] at hi hj
  have := congrArg List.length h
  simp only [List.length_take] at this
  omega

def Canonical (id : Text) : Prop :=
  ∃ steps : List Text, steps ≠ [] ∧ (∀ s ∈ steps, Numeral.Plain s) ∧ id = Text.joinWith ['.'] steps

theorem name_eq_joinWith (p : Path) : name p = Text.joinWith ['.'] (p.map Numeral.write) := by
  induction p with
  | nil => rfl
  | cons i p ih =>
    by_cases h : p = []
    · subst h
      rfl
    · rw [name_cons i h, List.map_cons, Text.joinWith_cons _ _ (by simpa using h), ih]
      simp

theorem canonical_iff {id : Text} : Canonical id ↔ ∃ p, p ≠ [] ∧ id = name p := by
  constructor
  · rintro ⟨steps, hne, hplain, rfl⟩
    refine ⟨steps.map Numeral.value, by simpa using hne, ?_⟩
    have hwrite : steps.map (Numeral.write ∘ Numeral.value) = steps.map id :=
      List.map_congr_left fun s hs => (hplain s hs).write_value
    rw [name_eq_joinWith, List.map_map, hwrite, List.map_id]
  · rintro ⟨p, hp, rfl⟩
    refine ⟨p.map Numeral.write, by simpa using hp, ?_, name_eq_joinWith p⟩
    simp only [List.forall_mem_map]
    exact fun i _ => Numeral.plain_write i

end Slot

end ForumClient
