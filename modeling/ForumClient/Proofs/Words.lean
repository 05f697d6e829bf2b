import ForumClient.Submission.Draft
import Mathlib.Data.List.Infix

namespace ForumClient

namespace Text

variable {sep : Char → Bool} {c : Char} {m s w : Text} {ws : List Text}

theorem splitBy_cons_of_sep (hc : sep c) (s : Text) : splitBy sep (c :: s) = [] :: splitBy sep s := by
  rw [splitBy, if_pos hc]

theorem splitBy_cons_of_not_sep (hc : sep c = false) (h : splitBy sep s = w :: ws) :
    splitBy sep (c :: s) = (c :: w) :: ws := by
  rw [splitBy, if_neg (by simp [hc]), h]

theorem prefix_iff_of_splitBy (hm : ∀ c ∈ m, sep c = false) (h : splitBy sep s = w :: ws) :
    m <+: s ↔ m <+: w := by
  induction s generalizing m w ws with
  | nil =>
    cases h
    rfl
  | cons c s ih =>
    cases m with
    | nil => simp
    | cons a m =>
      rw [List.forall_mem_cons] at hm
      by_cases hc : sep c
      · rw [splitBy_cons_of_sep hc] at h
        cases h
        refine iff_of_false (fun hp => ?_) (by simp)
        rw [(List.cons_prefix_cons.mp hp).1, hc] at hm
        cases hm.1
      · rw [Bool.not_eq_true] at hc
        obtain ⟨v, vs, hv⟩ := List.exists_cons_of_ne_nil (splitBy_ne_nil sep s)
        rw [splitBy_cons_of_not_sep hc hv] at h
        cases h
        rw [List.cons_prefix_cons, List.cons_prefix_cons, ih hm.2 hv]

theorem infix_iff_exists_splitBy (hm : ∀ c ∈ m, sep c = false) :
    m <:+: s ↔ ∃ w ∈ splitBy sep s, m <:+: w := by
  induction s with
  | nil => simp [splitBy]
  | cons c s ih =>
    rw [List.infix_cons_iff, ih]
    by_cases hc : sep c
    · have hfirst := prefix_iff_of_splitBy hm (splitBy_cons_of_sep hc s)
      rw [hfirst, List.prefix_nil, splitBy_cons_of_sep hc, List.exists_mem_cons_iff,
        List.infix_nil]
    · rw [Bool.not_eq_true] at hc
      obtain ⟨v, vs, hv⟩ := List.exists_cons_of_ne_nil (splitBy_ne_nil sep s)
      have hsplit := splitBy_cons_of_not_sep hc hv
      rw [prefix_iff_of_splitBy hm hsplit, hsplit, hv, List.exists_mem_cons_iff,
        List.exists_mem_cons_iff, List.infix_cons_iff, or_assoc]

theorem infix_iff_exists_word (hne : m ≠ []) (hm : ∀ c ∈ m, isBlank c = false) :
    m <:+: s ↔ ∃ w ∈ words s, m <:+: w := by
  rw [infix_iff_exists_splitBy hm, words]
  refine exists_congr fun w => ?_
  rw [List.mem_filter, and_assoc]
  refine and_congr_right fun _ => ⟨fun h => ⟨?_, h⟩, And.right⟩
  rw [decide_eq_true_eq]
  rintro rfl
  exact hne (List.infix_nil.mp h)

end Text

theorem Options.has_iff (options word : String) :
    Options.has options word = true ↔ word.toList ∈ Text.words options.toList := by
  rw [Options.has, List.contains_iff_mem]

end ForumClient
