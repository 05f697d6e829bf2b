import ForumClient.Text.Numeral

namespace ForumClient.Numeral

abbrev value (digits : Text) (before : Nat := 0) : Nat := Nat.ofDigitChars 10 digits before

def Plain (s : Text) : Prop :=
  s ≠ [] ∧ (∀ c ∈ s, c.isDigit) ∧ (s.head? = some '0' → s = ['0'])

theorem isDigit_iff {c : Char} : c.isDigit ↔ 48 ≤ c.toNat ∧ c.toNat ≤ 57 := by
  simp only [Char.isDigit, Bool.and_eq_true, decide_eq_true_eq, UInt32.le_iff_toNat_le]
  rfl

theorem ne_of_isDigit {c d : Char} (hc : c.isDigit) (hd : d.isDigit = false) : c ≠ d := by
  rintro rfl
  rw [hc] at hd
  cases hd

theorem digit?_eq (c : Char) : digit? c = if c.isDigit then some (c.toNat - 48) else none := by
  have h : ('0' ≤ c ∧ c ≤ '9') ↔ c.isDigit := by
    rw [isDigit_iff, Char.le_def, Char.le_def, UInt32.le_iff_toNat_le, UInt32.le_iff_toNat_le]
    rfl
  simp only [digit?, h]
  rfl

@[simp] theorem value_nil (k : Nat) : value [] k = k := Nat.ofDigitChars_nil

@[simp] theorem value_cons (c : Char) (s : Text) (k : Nat) :
    value (c :: s) k = value s (10 * k + (c.toNat - 48)) := Nat.ofDigitChars_cons

theorem le_value (s : Text) (k : Nat) : k ≤ value s k := by
  induction s generalizing k with
  | nil => simp
  | cons c s ih =>
    rw [value_cons]
    exact Nat.le_trans (by omega) (ih (10 * k + (c.toNat - 48)))

theorem readFrom_eq_ok_iff {limit k m : Nat} {s : Text} (hk : k < limit) :
    readFrom limit k s = .ok m ↔ (∀ c ∈ s, c.isDigit) ∧ value s k = m ∧ m < limit := by
  induction s generalizing k with
  | nil =>
    simp only [readFrom, Except.ok.injEq, value_nil, List.not_mem_nil, false_implies, implies_true,
      true_and]
    constructor
    · intro e
      subst e
      exact ⟨rfl, hk⟩
    · exact And.left
  | cons c s ih =>
    rw [readFrom, digit?_eq]
    by_cases hc : c.isDigit
    · simp only [hc, if_true, List.forall_mem_cons, true_and, value_cons, Nat.mul_comm k]
      split
      · next h => exact ih h
      · next h =>
        constructor
        · intro e
          cases e
        · rintro ⟨-, rfl, h'⟩
          exact absurd (Nat.lt_of_le_of_lt (le_value _ _) h') h
    · simp [hc]

theorem read_of_ne_plus {limit : Nat} {c : Char} (hc : c ≠ '+') (s : Text) :
    read limit (c :: s) = readFrom limit 0 (c :: s) := by
  simp [read, hc]

theorem read?_eq_some_iff {limit m : Nat} (hl : 0 < limit) {s : Text} (hs : s ≠ [])
    (hd : ∀ c ∈ s, c.isDigit) : read? limit s = some m ↔ value s = m ∧ m < limit := by
  cases s with
  | nil => exact absurd rfl hs
  | cons c s =>
    have hc : c ≠ '+' := by
      intro e
      subst e
      exact absurd (hd '+' (by simp)) (by decide)
    rw [read?, read_of_ne_plus hc, ← and_iff_right hd (b := _ ∧ _), ← readFrom_eq_ok_iff hl]
    cases readFrom limit 0 (c :: s) <;> simp [Except.toOption]

theorem isDigit_of_mem_write {n : Nat} {c : Char} (h : c ∈ write n) : c.isDigit :=
  Nat.isDigit_of_mem_toDigits (by decide) (by decide) h

theorem write_ne_nil (n : Nat) : write n ≠ [] := Nat.toDigits_ne_nil

@[simp] theorem value_write (n : Nat) : value (write n) = n := Nat.ofDigitChars_ten_toDigits

theorem write_injective : Function.Injective write := by
  intro m n h
  simpa using congrArg value h

theorem read?_write {limit n m : Nat} (hl : 0 < limit) :
    read? limit (write n) = some m ↔ n = m ∧ m < limit := by
  rw [read?_eq_some_iff hl (write_ne_nil n) fun _ => isDigit_of_mem_write, value_write]

theorem write_digit {c : Char} (h : c.isDigit) : write (c.toNat - 48) = [c] := by
  rw [isDigit_iff] at h
  rw [write, Nat.toDigits_of_lt_base (by omega)]
  congr 1
  apply Char.toNat_inj.mp
  rw [Nat.toNat_digitChar_of_lt_ten (by omega)]
  omega

theorem write_append {k : Nat} (hk : 0 < k) {s : Text} (hs : ∀ c ∈ s, c.isDigit) :
    write k ++ s = write (value s k) := by
  induction s generalizing k with
  | nil => simp
  | cons c s ih =>
    rw [List.forall_mem_cons] at hs
    have hc := isDigit_iff.mp hs.1
    calc
      write k ++ c :: s = write k ++ write (c.toNat - 48) ++ s := by simp [write_digit hs.1]
      _ = write (10 * k + (c.toNat - 48)) ++ s := by
        simp only [write]
        rw [Nat.toDigits_append_toDigits (by decide) hk (by omega)]
      _ = write (value (c :: s) k) := by rw [ih (by omega) hs.2, value_cons]

theorem Plain.write_value {s : Text} (h : Plain s) : write (value s) = s := by
  obtain ⟨hne, hd, hz⟩ := h
  cases s with
  | nil => exact absurd rfl hne
  | cons c s =>
    rw [List.forall_mem_cons] at hd
    by_cases hc : c = '0'
    · subst hc
      rw [hz rfl]
      rfl
    · have hpos : 0 < c.toNat - 48 := by
        have h48 : c.toNat ≠ 48 := fun e => hc (Char.toNat_inj.mp e)
        have := isDigit_iff.mp hd.1
        omega
      rw [value_cons, Nat.mul_zero, Nat.zero_add, ← write_append hpos hd.2, write_digit hd.1]
      rfl

theorem head?_write_eq_zero_iff (n : Nat) : (write n).head? = some '0' ↔ n = 0 := by
  induction n using Nat.strongRecOn with
  | ind n ih =>
    by_cases hn : n < 10
    · simp [write, Nat.toDigits_of_lt_base hn]
    · have hw : write n = write (n / 10) ++ [(n % 10).digitChar] :=
        Nat.toDigits_of_base_le (by decide) (by omega)
      obtain ⟨c, s, hs⟩ := List.exists_cons_of_ne_nil (write_ne_nil (n / 10))
      have h := ih (n / 10) (by omega)
      rw [hs, List.head?_cons] at h
      rw [hw, hs, List.cons_append, List.head?_cons, h]
      omega

theorem plain_write (n : Nat) : Plain (write n) := by
  refine ⟨write_ne_nil n, fun _ => isDigit_of_mem_write, fun h => ?_⟩
  rw [(head?_write_eq_zero_iff n).mp h]
  rfl

end ForumClient.Numeral
