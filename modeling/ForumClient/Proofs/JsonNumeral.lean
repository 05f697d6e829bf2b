import ForumClient.Proofs.JsonSpelling

namespace ForumClient.Json

namespace Number

variable {positive up : Bool} {significand k : Nat} {s rest : Text} {n : Number}

theorem ends_append {gap : Text} (hgap : Spaces gap) (hs : Ends s) : Ends (gap ++ s) := by
  cases gap with
  | nil => exact hs
  | cons d gap =>
    intro d' r e
    cases e
    have hd := hgap d List.mem_cons_self
    simp only [isSpace, Bool.or_eq_true, beq_iff_eq] at hd
    rcases hd with ((rfl | rfl) | rfl) | rfl <;> decide

theorem ends_of_spaces {gap : Text} (hgap : Spaces gap) {c : Char}
    (hc : c = ',' ∨ c = '}') (rest : Text) : Ends (gap ++ c :: rest) :=
  ends_append hgap (ends_of_mark hc rest)

def GivesFloat (r : Except Fault (Number × Text)) : Prop :=
  ∀ n rest, r = .ok (n, rest) → ∃ f, n = .float f

theorem givesFloat_error (f : Fault) : GivesFloat (.error f) := nofun

theorem givesFloat_ofScale (positive : Bool) (significand : Nat) (exponent : Int) (s : Text) :
    GivesFloat (ofScale positive significand exponent s) := by
  intro n rest h
  rw [ofScale] at h
  split at h <;> cases h
  exact ⟨_, rfl⟩

theorem givesFloat_exponentDigits (start : Int) (e : Nat) (s : Text) :
    GivesFloat (exponentDigits positive significand start up e s) := by
  induction s generalizing e with
  | nil => exact givesFloat_ofScale _ _ _ _
  | cons c s ih =>
    rw [exponentDigits]
    split
    · exact givesFloat_ofScale _ _ _ _
    · split
      · exact ih _
      · split
        · exact givesFloat_error _
        · intro n rest h
          cases h
          exact ⟨_, rfl⟩

theorem givesFloat_exponentPart (start : Int) (s : Text) :
    GivesFloat (exponentPart positive significand start s) := by
  unfold exponentPart
  split
  split
  · exact givesFloat_error _
  · split
    · exact givesFloat_error _
    · exact givesFloat_exponentDigits _ _ _

theorem givesFloat_afterFraction (exponent : Int) (s : Text) :
    GivesFloat (afterFraction positive significand exponent s) := by
  rw [afterFraction.eq_def]
  split
  · split
    · exact givesFloat_exponentPart _ _
    · exact givesFloat_ofScale _ _ _ _
  · exact givesFloat_ofScale _ _ _ _

theorem givesFloat_fraction (start : Int) (significand : Nat) (exponent : Int) (s : Text) :
    GivesFloat (fraction positive start significand exponent s) := by
  induction s generalizing significand exponent with
  | nil =>
    rw [fraction]
    split
    · exact givesFloat_error _
    · exact givesFloat_afterFraction _ _
  | cons c s ih =>
    rw [fraction]
    split
    · split
      · exact ih _ _
      · exact givesFloat_afterFraction _ _
    · split
      · exact givesFloat_error _
      · exact givesFloat_afterFraction _ _

theorem givesFloat_long (exponent : Int) (s : Text) :
    GivesFloat (long positive significand exponent s) := by
  induction s generalizing exponent with
  | nil => exact givesFloat_ofScale _ _ _ _
  | cons c s ih =>
    rw [long]
    split
    · exact ih _
    · split
      · exact givesFloat_fraction _ _ _ _
      · exact givesFloat_afterFraction _ _

theorem startsDigit_cons (c : Char) (s : Text) : startsDigit (c :: s) = c.isDigit := by
  rw [startsDigit, isDigit, digit?, Numeral.digit?_eq]
  cases c.isDigit <;> rfl

theorem afterInteger_cases (hs : startsDigit s = false)
    (h : afterInteger positive k s = .ok (n, rest)) :
    (∃ f, n = .float f) ∨ n = whole positive k ∧ rest = s ∧ Ends s := by
  unfold afterInteger at h
  dsimp only at h
  split at h
  · exact .inl (givesFloat_fraction _ _ _ _ n rest h)
  · next c r point =>
    split at h
    · exact .inl (givesFloat_exponentPart _ _ n rest h)
    · next mark =>
      cases h
      refine .inr ⟨rfl, rfl, fun c' r' e => ?_⟩
      cases e
      exact ⟨startsDigit_cons c r ▸ hs, point, Bool.not_eq_true _ ▸ mark⟩
  · cases h
    exact .inr ⟨rfl, rfl, nofun⟩

theorem integerDigits_cases (hk : k < significandLimit)
    (h : integerDigits positive k s = .ok (n, rest)) :
    (∃ f, n = .float f) ∨ ∃ ds, (∀ c ∈ ds, c.isDigit) ∧ Numeral.value ds k < significandLimit ∧
      n = whole positive (Numeral.value ds k) ∧ s = ds ++ rest ∧ Ends rest := by
  induction s generalizing k with
  | nil =>
    refine (afterInteger_cases rfl h).imp_right ?_
    rintro ⟨hn, rfl, hends⟩
    exact ⟨[], nofun, hk, hn, rfl, hends⟩
  | cons c s ih =>
    by_cases hc : c.isDigit
    · rw [integerDigits, digit?_of_isDigit hc] at h
      dsimp only at h
      split at h
      · next hvalue =>
        refine (ih hvalue h).imp_right ?_
        rintro ⟨ds, hds, hlimit, hn, rfl, hends⟩
        rw [Nat.mul_comm] at hlimit hn
        refine ⟨c :: ds, List.forall_mem_cons.mpr ⟨hc, hds⟩, ?_, ?_, rfl, hends⟩
        · rwa [Numeral.value_cons]
        · rwa [Numeral.value_cons]
      · exact .inl (givesFloat_long _ _ n rest h)
    · rw [Bool.not_eq_true] at hc
      rw [integerDigits, digit?_of_not_isDigit hc] at h
      refine (afterInteger_cases (startsDigit_cons c s ▸ hc) h).imp_right ?_
      rintro ⟨hn, rfl, hends⟩
      exact ⟨[], nofun, hk, hn, rfl, hends⟩

theorem read_cases (h : read positive s = .ok (n, rest)) :
    (∃ f, n = .float f) ∨ ∃ k < significandLimit, n = whole positive k ∧
      s = Numeral.write k ++ rest ∧ Ends rest := by
  unfold read at h
  split at h
  · cases h
  · split at h
    · cases h
    · next hs =>
      rw [Bool.not_eq_true] at hs
      refine (afterInteger_cases hs h).imp_right ?_
      rintro ⟨hn, rfl, hends⟩
      exact ⟨0, by decide, hn, rfl, hends⟩
  · next c s zero =>
    by_cases hc : c.isDigit
    · rw [digit?_of_isDigit hc] at h
      have hlimit : c.toNat - 48 < significandLimit := by
        have := (Numeral.isDigit_iff.mp hc).2
        exact Nat.lt_trans (by omega : c.toNat - 48 < 10) (by decide)
      refine (integerDigits_cases hlimit h).imp_right ?_
      rintro ⟨ds, hds, hvalue, hn, rfl, hends⟩
      have hplain : Numeral.Plain (c :: ds) :=
        ⟨by simp, List.forall_mem_cons.mpr ⟨hc, hds⟩, fun e => absurd (Option.some.inj e) zero⟩
      have hfirst : Numeral.value (c :: ds) = Numeral.value ds (c.toNat - 48) := by
        rw [Numeral.value_cons, Nat.mul_zero, Nat.zero_add]
      rw [← hfirst] at hvalue hn
      exact ⟨_, hvalue, hn, by rw [hplain.write_value]; rfl, hends⟩
    · rw [Bool.not_eq_true] at hc
      rw [digit?_of_not_isDigit hc] at h
      cases h

end Number

namespace Reader

variable {s rest gap : Text} {z : Int}

theorem atValue_append (read : Reader α) (hgap : Spaces gap) (s : Text) :
    atValue read (gap ++ s) = atValue read s := by
  rw [atValue, atValue, skipSpace_append hgap]

theorem exists_of_number {expected : String} {accept : Number → Option α} {a : α}
    (h : number expected accept s = .ok (a, rest)) :
    ∃ n, accept n = some a ∧
      ((∃ r, skipSpace s = '-' :: r ∧ Number.read false r = .ok (n, rest)) ∨
        Number.read true (skipSpace s) = .ok (n, rest)) := by
  rw [number, atValue] at h
  split at h
  · cases h
  · dsimp only at h
    split at h
    · next r hs =>
      obtain ⟨⟨n, rest'⟩, hread, h⟩ := bind_eq_ok_iff.mp h
      dsimp only at h
      split at h <;> cases h
      exact ⟨_, ‹_›, .inl ⟨r, hs, hread⟩⟩
    · split at h
      · obtain ⟨⟨n, rest'⟩, hread, h⟩ := bind_eq_ok_iff.mp h
        dsimp only at h
        split at h <;> cases h
        exact ⟨_, ‹_›, .inr hread⟩
      · cases h

theorem integer_eq_ok_iff : integer s = .ok (z, rest) ↔
    (-Number.signedLimit ≤ z ∧ z < Number.signedLimit) ∧ Number.Ends rest ∧
      ∃ gap, Spaces gap ∧ s = gap ++ (writeInt z ++ rest) := by
  constructor
  · intro h
    obtain ⟨n, haccept, hread⟩ := exists_of_number h
    obtain ⟨gap, hgap, hs⟩ := exists_spaces s
    rcases hread with ⟨r, hr, hread⟩ | hread
    · obtain ⟨f, rfl⟩ | ⟨k, -, rfl, rfl, hends⟩ := Number.read_cases hread
      · cases haccept
      · -- Zero behind a sign is a double, like what is too low.
        by_cases hk : k ≠ 0 ∧ k ≤ Number.signedLimit
        · rw [Number.whole, if_neg Bool.false_ne_true, if_pos hk] at haccept
          cases haccept
          refine ⟨by omega, hends, gap, hgap, ?_⟩
          rw [hs, hr, writeInt, if_pos (by omega), Int.natAbs_neg, Int.natAbs_natCast]
          simp
        · rw [Number.whole, if_neg Bool.false_ne_true, if_neg hk] at haccept
          cases haccept
    · obtain ⟨f, rfl⟩ | ⟨k, -, rfl, hr, hends⟩ := Number.read_cases hread
      · cases haccept
      · rw [Number.whole, if_pos rfl] at haccept
        dsimp only at haccept
        split at haccept
        · next hk =>
          cases haccept
          refine ⟨by omega, hends, gap, hgap, ?_⟩
          rw [hs, hr, writeInt, if_neg (by omega), Int.natAbs_natCast]
          simp
        · cases haccept
  · rintro ⟨⟨hlow, hhigh⟩, hends, gap, hgap, rfl⟩
    rw [integer, number, atValue_append _ hgap]
    exact integer_writeInt hlow hhigh hends

end Reader

end ForumClient.Json
