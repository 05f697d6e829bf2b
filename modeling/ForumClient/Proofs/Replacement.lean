import ForumClient.Text.Escape
import Mathlib.Data.List.Basic

namespace ForumClient

namespace Text

def replaceAfter (old new : Text) : Nat → Text → Text
  | _, [] => []
  | skip + 1, _ :: s => replaceAfter old new skip s
  | 0, c :: s =>
    if old.isPrefixOf (c :: s) then new ++ replaceAfter old new (old.length - 1) s
    else c :: replaceAfter old new 0 s

def replace (old new s : Text) : Text := replaceAfter old new 0 s

variable {old new p s : Text} {c d : Char}

theorem replaceAfter_append (s t : Text) :
    replaceAfter old new s.length (s ++ t) = replace old new t := by
  induction s with
  | nil => rfl
  | cons c s ih => exact ih

theorem replace_append (hold : old ≠ []) (s : Text) :
    replace old new (old ++ s) = new ++ replace old new s := by
  obtain ⟨c, old, rfl⟩ := List.exists_cons_of_ne_nil hold
  have hprefix : (c :: old).isPrefixOf (c :: (old ++ s)) :=
    List.isPrefixOf_iff_prefix.mpr (List.prefix_append (c :: old) s)
  rw [replace, List.cons_append, replaceAfter, if_pos hprefix]
  exact congrArg (new ++ ·) (replaceAfter_append old s)

theorem replace_cons (h : ¬ old <+: c :: s) :
    replace old new (c :: s) = c :: replace old new s := by
  rw [replace, replaceAfter, if_neg (by rwa [List.isPrefixOf_iff_prefix])]
  rfl

theorem replace_cons_of_ne (h : c ≠ d) (s : Text) :
    replace (d :: p) new (c :: s) = c :: replace (d :: p) new s :=
  replace_cons fun hp => h (List.cons_prefix_cons.mp hp).1.symm

theorem replace_char (s : Text) :
    replace [d] new s = s.flatMap fun c => if c = d then new else [c] := by
  induction s with
  | nil => rfl
  | cons c s ih =>
    rw [List.flatMap_cons, ← ih]
    by_cases hc : c = d
    · rw [if_pos hc, hc]
      exact replace_append (List.cons_ne_nil d []) s
    · rw [if_neg hc, replace_cons_of_ne hc]
      rfl

theorem prefix_of_prefix_replace (hold : old ≠ []) (hd : d ∉ p)
    (h : p <+: replace old [d] s) : p <+: s := by
  induction s generalizing p with
  | nil => exact h
  | cons c s ih =>
    cases p with
    | nil => exact List.nil_prefix
    | cons e p =>
      rw [List.mem_cons, not_or] at hd
      by_cases hmatch : old <+: c :: s
      · obtain ⟨t, ht⟩ := hmatch
        rw [← ht, replace_append hold] at h
        exact absurd (List.cons_prefix_cons.mp h).1.symm hd.1
      · rw [replace_cons hmatch] at h
        obtain ⟨rfl, hp⟩ := List.cons_prefix_cons.mp h
        exact List.cons_prefix_cons.mpr ⟨rfl, ih hd.2 hp⟩

end Text

namespace Entity

open Text

variable {c d : Char} {p u s : Text}

theorem escape_eq_replace (s : Text) :
    escape s = replace ['"'] "&quot;".toList (replace ['>'] "&gt;".toList
      (replace ['<'] "&lt;".toList (replace ['&'] "&amp;".toList s))) := by
  simp only [replace_char, List.flatMap_assoc]
  refine List.flatMap_congr fun c _ => ?_
  unfold escapeChar
  split
  · decide
  · decide
  · decide
  · decide
  · next hamp hlt hgt hquot =>
    rw [if_neg hamp, List.flatMap_singleton, if_neg hlt, List.flatMap_singleton, if_neg hgt,
      List.flatMap_singleton, if_neg hquot]

def replaced (s : Text) : Text :=
  replace "&amp;".toList ['&'] (replace "&nbsp;".toList [' ']
    (replace "&lt;".toList ['<'] (replace "&gt;".toList ['>'] s)))

theorem replaced_entity (s : Text) :
    replaced ("&gt;".toList ++ s) = '>' :: replaced s ∧
      replaced ("&lt;".toList ++ s) = '<' :: replaced s ∧
      replaced ("&nbsp;".toList ++ s) = ' ' :: replaced s ∧
      replaced ("&amp;".toList ++ s) = '&' :: replaced s :=
  ⟨rfl, rfl, rfl, rfl⟩

theorem replaced_cons (hgt : ¬ "&gt;".toList <+: c :: s)
    (hlt : ¬ "&lt;".toList <+: c :: replace "&gt;".toList ['>'] s)
    (hnbsp : ¬ "&nbsp;".toList <+:
      c :: replace "&lt;".toList ['<'] (replace "&gt;".toList ['>'] s))
    (hamp : ¬ "&amp;".toList <+: c :: replace "&nbsp;".toList [' ']
      (replace "&lt;".toList ['<'] (replace "&gt;".toList ['>'] s))) :
    replaced (c :: s) = c :: replaced s := by
  rw [replaced, replace_cons hgt, replace_cons hlt, replace_cons hnbsp, replace_cons hamp, replaced]

theorem replaced_cons_of_ne (hc : c ≠ '&') (s : Text) : replaced (c :: s) = c :: replaced s := by
  have hne {p s : Text} : ¬ '&' :: p <+: c :: s :=
    fun hp => hc (List.cons_prefix_cons.mp hp).1.symm
  exact replaced_cons hne hne hne hne

theorem replaced_ampersand (hgt : ¬ "gt;".toList <+: s) (hlt : ¬ "lt;".toList <+: s)
    (hnbsp : ¬ "nbsp;".toList <+: s) (hamp : ¬ "amp;".toList <+: s) :
    replaced ('&' :: s) = '&' :: replaced s := by
  have hstart {p s : Text} (h : ¬ p <+: s) : ¬ '&' :: p <+: '&' :: s :=
    fun hp => h (List.cons_prefix_cons.mp hp).2
  have hback {old p : Text} {d : Char} (hold : old ≠ []) (hd : d ∉ p) {s : Text}
      (h : ¬ p <+: s) : ¬ p <+: replace old [d] s :=
    fun hp => h (prefix_of_prefix_replace hold hd hp)
  refine replaced_cons (hstart hgt) (hstart (hback ?_ ?_ hlt))
    (hstart (hback ?_ ?_ (hback ?_ ?_ hnbsp)))
    (hstart (hback ?_ ?_ (hback ?_ ?_ (hback ?_ ?_ hamp)))) <;> decide

theorem unescape_eq_replaced (s : Text) : unescape s = replaced s := by
  fun_induction unescape s with
  | case1 s ih => rw [ih]; exact (replaced_entity s).1.symm
  | case2 s ih => rw [ih]; exact (replaced_entity s).2.1.symm
  | case3 s ih => rw [ih]; exact (replaced_entity s).2.2.1.symm
  | case4 s ih => rw [ih]; exact (replaced_entity s).2.2.2.symm
  | case5 c s hgt hlt hnbsp hamp ih =>
    rw [ih]
    by_cases hc : c = '&'
    · subst hc
      refine (replaced_ampersand ?_ ?_ ?_ ?_).symm
      · rintro ⟨t, rfl⟩
        exact hgt t rfl rfl
      · rintro ⟨t, rfl⟩
        exact hlt t rfl rfl
      · rintro ⟨t, rfl⟩
        exact hnbsp t rfl rfl
      · rintro ⟨t, rfl⟩
        exact hamp t rfl rfl
    · exact (replaced_cons_of_ne hc s).symm
  | case6 => rfl

end Entity

end ForumClient
