import ForumClient.Proofs.SlotName
import Mathlib.Data.List.Forall2

namespace ForumClient

namespace Text

theorem joinWith_splitBy (c : Char) (s : Text) : joinWith [c] (splitBy (· = c) s) = s := by
  induction s with
  | nil => rfl
  | cons x s ih =>
    have hne := splitBy_ne_nil (· = c) s
    simp only [splitBy]
    split
    · next hx =>
      rw [joinWith_cons _ _ hne, ih]
      simpa using (of_decide_eq_true hx).symm
    · cases hs : splitBy (· = c) s with
      | nil => exact absurd hs hne
      | cons w ws =>
        rw [hs] at ih
        cases ws with
        | nil => exact congrArg (x :: ·) ih
        | cons v ws => exact congrArg (x :: ·) ih

theorem splitBy_joinWith {c : Char} {ws : List Text} (hne : ws ≠ []) (h : ∀ w ∈ ws, c ∉ w) :
    splitBy (· = c) (joinWith [c] ws) = ws := by
  induction ws with
  | nil => exact absurd rfl hne
  | cons w ws ih =>
    rw [List.forall_mem_cons] at h
    have hw : splitBy (· = c) w = [w] :=
      splitBy_of_forall fun x hx => decide_eq_false fun e => h.1 (e ▸ hx)
    by_cases hws : ws = []
    · subst hws
      exact hw
    · rw [joinWith_cons _ _ hws, List.append_assoc, List.singleton_append, splitBy_append (by simp),
        ih hws h.2, hw]
      rfl

end Text

namespace Numeral

variable {limit n : Nat} {s : Text}

def Spells (limit : Nat) (s : Text) (n : Nat) : Prop :=
  n < limit ∧ ∃ sign zeros, (sign = [] ∨ sign = ['+']) ∧
    s = sign ++ (List.replicate zeros '0' ++ write n)

theorem value_zeros (zeros : Nat) (s : Text) :
    value (List.replicate zeros '0' ++ s) = value s := by
  induction zeros with
  | zero => rfl
  | succ zeros ih =>
    rw [List.replicate_succ, List.cons_append, value_cons]
    exact ih

theorem exists_zeros (hne : s ≠ []) (hd : ∀ c ∈ s, c.isDigit) :
    ∃ zeros, s = List.replicate zeros '0' ++ write (value s) := by
  induction s with
  | nil => exact absurd rfl hne
  | cons c s ih =>
    rw [List.forall_mem_cons] at hd
    by_cases hc : c = '0' ∧ s ≠ []
    · obtain ⟨rfl, hs⟩ := hc
      obtain ⟨zeros, hzeros⟩ := ih hs hd.2
      refine ⟨zeros + 1, ?_⟩
      rw [List.replicate_succ, List.cons_append, value_cons]
      exact congrArg ('0' :: ·) hzeros
    · have hplain : Plain (c :: s) := by
        refine ⟨nofun, List.forall_mem_cons.mpr hd, fun h => ?_⟩
        obtain rfl : c = '0' := by simpa using h
        rw [not_and_not_right] at hc
        rw [hc rfl]
      exact ⟨0, hplain.write_value.symm⟩

theorem digits_iff (hne : s ≠ []) : (∀ c ∈ s, c.isDigit) ∧ value s = n ↔
    ∃ zeros, s = List.replicate zeros '0' ++ write n := by
  constructor
  · rintro ⟨hd, rfl⟩
    exact exists_zeros hne hd
  · rintro ⟨zeros, rfl⟩
    refine ⟨fun c hc => ?_, by rw [value_zeros, value_write]⟩
    rcases List.mem_append.mp hc with hc | hc
    · rw [List.eq_of_mem_replicate hc]
      rfl
    · exact isDigit_of_mem_write hc

theorem readFrom_zero_iff (hl : 0 < limit) (hne : s ≠ []) :
    (readFrom limit 0 s).toOption = some n ↔
      n < limit ∧ ∃ zeros, s = List.replicate zeros '0' ++ write n := by
  have hread : (readFrom limit 0 s).toOption = some n ↔ readFrom limit 0 s = .ok n := by
    cases readFrom limit 0 s <;> simp [Except.toOption]
  rw [hread, readFrom_eq_ok_iff hl, ← digits_iff hne, and_comm (a := n < limit), and_assoc]

theorem isDigit_of_mem_zeros {zeros : Nat} {c : Char}
    (h : c ∈ List.replicate zeros '0' ++ write n) : c.isDigit := by
  have hne : List.replicate zeros '0' ++ write n ≠ [] := by simp [write_ne_nil]
  exact ((digits_iff hne).mpr ⟨zeros, rfl⟩).1 c h

theorem spells_plus : Spells limit ('+' :: s) n ↔
    n < limit ∧ ∃ zeros, s = List.replicate zeros '0' ++ write n := by
  refine and_congr_right fun _ => ⟨?_, ?_⟩
  · rintro ⟨sign, zeros, rfl | rfl, h⟩
    · have hplus : '+' ∈ List.replicate zeros '0' ++ write n := by
        rw [List.nil_append] at h
        rw [← h]
        exact List.mem_cons_self
      exact absurd (isDigit_of_mem_zeros hplus) (by decide)
    · exact ⟨zeros, List.cons.inj h |>.2⟩
  · rintro ⟨zeros, rfl⟩
    exact ⟨['+'], zeros, .inr rfl, rfl⟩

theorem spells_of_ne_plus (h : s.head? ≠ some '+') : Spells limit s n ↔
    n < limit ∧ ∃ zeros, s = List.replicate zeros '0' ++ write n := by
  refine and_congr_right fun _ => ⟨?_, ?_⟩
  · rintro ⟨sign, zeros, rfl | rfl, hs⟩
    · exact ⟨zeros, hs⟩
    · exact absurd (by rw [hs]; rfl) h
  · rintro ⟨zeros, hs⟩
    exact ⟨[], zeros, .inl rfl, hs⟩

theorem read?_eq_some_iff_spells (hl : 0 < limit) : read? limit s = some n ↔ Spells limit s n := by
  have hnil (zeros : Nat) : [] ≠ List.replicate zeros '0' ++ write n := by
    simp [write_ne_nil]
  cases s with
  | nil =>
    rw [spells_of_ne_plus (by simp)]
    exact iff_of_false nofun fun ⟨_, zeros, h⟩ => hnil zeros h
  | cons c s =>
    by_cases hc : c = '+'
    · subst hc
      rw [spells_plus]
      cases s with
      | nil => exact iff_of_false nofun fun ⟨_, zeros, h⟩ => hnil zeros h
      | cons d s => exact readFrom_zero_iff hl nofun
    · have hhead : (c :: s).head? ≠ some '+' := by simpa using hc
      rw [read?, read_of_ne_plus hc, readFrom_zero_iff hl (List.cons_ne_nil c s),
        spells_of_ne_plus hhead]

theorem not_dot_mem_of_spells (h : Spells limit s n) : '.' ∉ s := by
  obtain ⟨-, sign, zeros, hsign, rfl⟩ := h
  intro hdot
  rcases List.mem_append.mp hdot with hdot | hdot
  · rcases hsign with rfl | rfl
    · cases hdot
    · exact absurd hdot (by decide)
  · exact absurd (isDigit_of_mem_zeros hdot) (by decide)

end Numeral

namespace Slot

variable {id : Text} {p : Path}

def Spells (id : Text) (p : Path) : Prop :=
  p ≠ [] ∧ ∃ steps, id = Text.joinWith ['.'] steps ∧
    List.Forall₂ (Numeral.Spells stepLimit) steps p

theorem forall₂_iff_map {α β : Type} {f : α → Option β} {xs : List α} {ys : List β} :
    xs.map f = ys.map some ↔ List.Forall₂ (fun x y => f x = some y) xs ys := by
  rw [← List.forall₂_eq_eq_eq, List.forall₂_map_left_iff, List.forall₂_map_right_iff]

theorem not_dot_mem_of_forall₂ {steps : List Text}
    (h : List.Forall₂ (Numeral.Spells stepLimit) steps p) : ∀ s ∈ steps, '.' ∉ s := by
  induction h with
  | nil => nofun
  | cons h _ ih => exact List.forall_mem_cons.mpr ⟨Numeral.not_dot_mem_of_spells h, ih⟩

theorem path?_eq_some_iff : path? id = some p ↔ Spells id p := by
  have hstep {s : Text} {i : Nat} :
      Numeral.read? stepLimit s = some i ↔ Numeral.Spells stepLimit s i :=
    Numeral.read?_eq_some_iff_spells (by decide)
  rw [path?, mapM_eq_some_iff, forall₂_iff_map]
  simp only [hstep]
  constructor
  · intro h
    refine ⟨?_, id.splitBy (· = '.'), (Text.joinWith_splitBy '.' id).symm, h⟩
    rintro rfl
    exact Text.splitBy_ne_nil _ id (List.forall₂_nil_right_iff.mp h)
  · rintro ⟨hp, steps, rfl, h⟩
    rw [Text.splitBy_joinWith]
    · exact h
    · rintro rfl
      exact hp (List.forall₂_nil_left_iff.mp h)
    · exact not_dot_mem_of_forall₂ h

end Slot

end ForumClient
