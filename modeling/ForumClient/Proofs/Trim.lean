import ForumClient.Text.Basic
import Mathlib.Data.List.DropRight

namespace ForumClient.Text

variable {s t before after : Text} {c : Char}

def Trimmed (s : Text) : Prop := ∀ c, c ∈ s.head? ∨ c ∈ s.getLast? → isBlank c = false

theorem trimmed_of_forall (h : ∀ c ∈ s, isBlank c = false) : Trimmed s := by
  rintro c (hc | hc)
  · exact h c (List.mem_of_mem_head? hc)
  · exact h c (List.mem_of_mem_getLast? hc)

theorem trimStart_append (h : before.all isBlank) (s : Text) :
    trimStart (before ++ s) = trimStart s :=
  List.dropWhile_append_of_pos (List.all_eq_true.mp h)

theorem trimStart_cons (hc : isBlank c = false) (s : Text) : trimStart (c :: s) = c :: s :=
  List.dropWhile_cons_of_neg (by simp [hc])

theorem trimStart_trimStart (s : Text) : trimStart (trimStart s) = trimStart s :=
  List.dropWhile_idempotent _ _

theorem exists_blank_append (s : Text) : ∃ before, before.all isBlank ∧ s = before ++ trimStart s :=
  ⟨s.takeWhile isBlank, List.all_takeWhile, List.takeWhile_append_dropWhile.symm⟩

theorem trimEnd_append (h : after.all isBlank) (s : Text) :
    trimEnd (s ++ after) = trimEnd s := by
  rw [trimEnd, trimEnd, List.reverse_append, List.dropWhile_append_of_pos]
  exact fun c hc => List.all_eq_true.mp h c (List.mem_reverse.mp hc)

theorem exists_append_blank (s : Text) : ∃ after, after.all isBlank ∧ s = trimEnd s ++ after := by
  obtain ⟨after, hafter, hs⟩ := exists_blank_append s.reverse
  refine ⟨after.reverse, by rwa [List.all_reverse], ?_⟩
  calc
    s = (after ++ trimStart s.reverse).reverse := by rw [← hs, List.reverse_reverse]
    _ = trimEnd s ++ after.reverse := List.reverse_append

theorem trimmed_trim (s : Text) : Trimmed (trim s) := by
  rintro c (hc | hc)
  · have hprefix : trim s <+: trimStart s := List.rdropWhile_prefix isBlank _
    obtain ⟨t, ht⟩ := List.head?_eq_some_iff.mp hc
    rw [ht] at hprefix
    have hhead : c ∈ (s.dropWhile isBlank).head? := by
      obtain ⟨u, hu⟩ := hprefix
      rw [trimStart] at hu
      rw [← hu]
      rfl
    have hnot := List.head?_dropWhile_not isBlank s
    rw [Option.mem_def.mp hhead] at hnot
    exact hnot
  · obtain ⟨hne, rfl⟩ := List.mem_getLast?_eq_getLast hc
    exact Bool.eq_false_iff.mpr (List.rdropWhile_last_not isBlank (trimStart s) hne)

theorem Trimmed.trim_append (ht : Trimmed t) (hbefore : before.all isBlank)
    (hafter : after.all isBlank) : trim (before ++ (t ++ after)) = t := by
  cases t with
  | nil =>
    have hnone : trimStart after = [] :=
      List.dropWhile_eq_nil_iff.mpr (List.all_eq_true.mp hafter)
    rw [trim, trimStart_append hbefore, List.nil_append, hnone]
    rfl
  | cons c t =>
    have hhead : isBlank c = false := ht c (.inl rfl)
    have hlast : trimEnd (c :: t) = c :: t :=
      List.rdropWhile_eq_self_iff.mpr fun hne =>
        Bool.eq_false_iff.mp (ht _ (.inr (List.getLast_mem_getLast? hne)))
    rw [trim, trimStart_append hbefore, List.cons_append, trimStart_cons hhead,
      ← List.cons_append, trimEnd_append hafter, hlast]

theorem trim_eq_iff (ht : Trimmed t) : s.trim = t ↔
    ∃ before after, before.all isBlank ∧ after.all isBlank ∧ s = before ++ (t ++ after) := by
  constructor
  · rintro rfl
    obtain ⟨before, hbefore, hs⟩ := exists_blank_append s
    obtain ⟨after, hafter, hstart⟩ := exists_append_blank s.trimStart
    exact ⟨before, after, hbefore, hafter, hs.trans (congrArg (before ++ ·) hstart)⟩
  · rintro ⟨before, after, hbefore, hafter, rfl⟩
    exact ht.trim_append hbefore hafter

end ForumClient.Text
