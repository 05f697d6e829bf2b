import ForumClient.Submission.Token
import Mathlib.Data.Nat.Find

namespace ForumClient.Token

variable {old t : Token} {r : Token × Draws} {ds rest : Draws} {i n : Nat}

theorem Place.accepts_digit (p : Place) (r : Fin 16) : p.accepts (p.digit r) = true := by
  cases p <;> revert r <;> decide

theorem acceptsAll_fill (ps : List Place) (ds : Draws) : acceptsAll ps (fill ps ds).1 = true := by
  induction ps generalizing ds with
  | nil => rfl
  | cons p ps ih => cases ds <;> simp [fill, acceptsAll, p.accepts_digit, ih]

theorem fill_snd (ps : List Place) (ds : Draws) : (fill ps ds).2 = ds.drop ps.length := by
  induction ps generalizing ds with
  | nil => rfl
  | cons p ps ih => cases ds <;> simp [fill, ih]

theorem isWellFormed_generate (ds : Draws) : (generate ds).1.isWellFormed = true := by
  simp only [isWellFormed, generate, String.toList_ofList]
  exact acceptsAll_fill template ds

theorem generate_snd (ds : Draws) : (generate ds).2 = ds.drop template.length :=
  fill_snd template ds

def drawn (ds : Draws) (n : Nat) : Token := (generate (ds.drop (n * template.length))).1

theorem drawn_zero (ds : Draws) : drawn ds 0 = (generate ds).1 := by
  rw [drawn, Nat.zero_mul, List.drop_zero]

theorem drawn_succ (ds : Draws) (n : Nat) : drawn ds (n + 1) = drawn (generate ds).2 n := by
  rw [drawn, drawn, generate_snd, List.drop_drop, Nat.succ_mul, Nat.add_comm]

theorem drawn_of_length_le (h : ds.length ≤ n) : drawn ds n = drawn ds ds.length := by
  have none_left : ∀ m, ds.length ≤ m → ds.drop (m * template.length) = [] := fun m hm =>
    List.drop_eq_nil_of_le (Nat.le_trans hm (Nat.le_mul_of_pos_right m (by decide)))
  rw [drawn, drawn, none_left n h, none_left _ (Nat.le_refl _)]

theorem rotateWithin_succ (old : Token) (n : Nat) (ds : Draws) :
    rotateWithin old (n + 1) ds =
      if (generate ds).1 ≠ old then some (generate ds)
      else rotateWithin old n (generate ds).2 := rfl

structure IsFirst (old : Token) (ds : Draws) (i : Nat) : Prop where
  ne : drawn ds i ≠ old
  before : ∀ j < i, drawn ds j = old

theorem IsFirst.eq_zero (h : IsFirst old ds i) (hne : (generate ds).1 ≠ old) : i = 0 := by
  rw [← drawn_zero] at hne
  exact Nat.eq_zero_of_not_pos fun hpos => hne (h.before 0 hpos)

theorem isFirst_zero (hne : (generate ds).1 ≠ old) : IsFirst old ds 0 :=
  ⟨drawn_zero ds ▸ hne, nofun⟩

theorem isFirst_succ_iff (hold : (generate ds).1 = old) :
    IsFirst old ds (i + 1) ↔ IsFirst old (generate ds).2 i := by
  constructor
  · rintro ⟨hne, hbefore⟩
    exact ⟨drawn_succ ds i ▸ hne, fun j hj => drawn_succ ds j ▸ hbefore _ (Nat.succ_lt_succ hj)⟩
  · rintro ⟨hne, hbefore⟩
    refine ⟨drawn_succ ds i ▸ hne, fun j hj => ?_⟩
    cases j with
    | zero => rwa [drawn_zero]
    | succ j => rw [drawn_succ, hbefore j (Nat.lt_of_succ_lt_succ hj)]

theorem rotateWithin_eq_some_iff : rotateWithin old n ds = some r ↔
    ∃ i < n, IsFirst old ds i ∧ generate (ds.drop (i * template.length)) = r := by
  induction n generalizing ds with
  | zero => exact iff_of_false nofun fun ⟨i, hi, _⟩ => Nat.not_lt_zero i hi
  | succ n ih =>
    rw [rotateWithin_succ]
    by_cases hold : (generate ds).1 = old
    · have hdrop (i : Nat) : (generate ds).2.drop (i * template.length) =
          ds.drop ((i + 1) * template.length) := by
        rw [generate_snd, List.drop_drop, Nat.succ_mul, Nat.add_comm]
      simp only [if_neg (not_not_intro hold), ih, ← isFirst_succ_iff hold, hdrop]
      constructor
      · rintro ⟨i, hi, h⟩
        exact ⟨i + 1, Nat.succ_lt_succ hi, h⟩
      · rintro ⟨i, hi, hfirst, h⟩
        cases i with
        | zero => exact absurd (drawn_zero ds ▸ hold) hfirst.ne
        | succ i => exact ⟨i, Nat.lt_of_succ_lt_succ hi, hfirst, h⟩
    · rw [if_pos hold]
      constructor
      · intro h
        exact ⟨0, Nat.succ_pos n, isFirst_zero hold, by simpa using h⟩
      · rintro ⟨i, -, hfirst, h⟩
        rw [hfirst.eq_zero hold, Nat.zero_mul, List.drop_zero] at h
        rw [h]

theorem IsFirst.le_length (h : IsFirst old ds i) : i ≤ ds.length := by
  by_contra hlt
  rw [Nat.not_le] at hlt
  have hlast := h.before ds.length hlt
  exact h.ne (drawn_of_length_le (Nat.le_of_lt hlt) ▸ hlast)

theorem rotate?_eq_some_iff : rotate? old ds = some r ↔
    ∃ i, IsFirst old ds i ∧ generate (ds.drop (i * template.length)) = r := by
  rw [rotate?, rotateWithin_eq_some_iff]
  constructor
  · rintro ⟨i, -, h⟩
    exact ⟨i, h⟩
  · rintro ⟨i, hfirst, h⟩
    exact ⟨i, by have := hfirst.le_length; omega, hfirst, h⟩

theorem exists_isFirst (h : ∃ i, drawn ds i ≠ old) : ∃ i, IsFirst old ds i := by
  classical
  exact ⟨Nat.find h, Nat.find_spec h, fun j hj => not_not.mp (Nat.find_min h hj)⟩

theorem isSome_rotate?_iff : (rotate? old ds).isSome ↔ ∃ i, drawn ds i ≠ old := by
  rw [Option.isSome_iff_exists]
  constructor
  · rintro ⟨r, h⟩
    obtain ⟨i, hfirst, -⟩ := rotate?_eq_some_iff.mp h
    exact ⟨i, hfirst.ne⟩
  · intro h
    obtain ⟨i, hfirst⟩ := exists_isFirst h
    exact ⟨_, rotate?_eq_some_iff.mpr ⟨i, hfirst, rfl⟩⟩

theorem rotate?_eq_some (h : rotate? old ds = some (t, rest)) :
    t ≠ old ∧ t.isWellFormed = true := by
  obtain ⟨i, hfirst, hdrawn⟩ := rotate?_eq_some_iff.mp h
  obtain rfl : drawn ds i = t := congrArg Prod.fst hdrawn
  exact ⟨hfirst.ne, isWellFormed_generate _⟩

theorem generate_drop (ds : Draws) (i : Nat) : generate (ds.drop (i * template.length)) =
    (drawn ds i, ds.drop ((i + 1) * 32)) := by
  refine Prod.ext rfl ?_
  rw [generate_snd, List.drop_drop, Nat.succ_mul]
  rfl

theorem rotate?_eq_some_iff_drawn : rotate? old ds = some (t, rest) ↔
    ∃ i, drawn ds i = t ∧ t ≠ old ∧ (∀ j < i, drawn ds j = old) ∧
      rest = ds.drop ((i + 1) * 32) := by
  simp only [rotate?_eq_some_iff, generate_drop, Prod.mk.injEq]
  constructor
  · rintro ⟨i, ⟨hne, hbefore⟩, rfl, hrest⟩
    exact ⟨i, rfl, hne, hbefore, hrest.symm⟩
  · rintro ⟨i, rfl, hne, hbefore, hrest⟩
    exact ⟨i, ⟨hne, hbefore⟩, rfl, hrest.symm⟩

end ForumClient.Token
