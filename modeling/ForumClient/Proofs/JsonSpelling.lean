import ForumClient.Proofs.JsonText
import Mathlib.Data.List.TakeWhile

namespace ForumClient.Json

def Spaces (s : Text) : Prop := ∀ c ∈ s, isSpace c

/-- The ways to spell a character within a string: by itself, by a mark or by its number behind a
backslash, or by the numbers of two surrogates. -/
inductive SpellsChar : Char → Text → Prop
  | itself (quote : c ≠ '"') (escape : c ≠ '\\') (visible : ¬ c.toNat < 0x20) : SpellsChar c [c]
  | mark {e : Char} (mark : simpleEscape? e = some c) : SpellsChar c ['\\', e]
  | number (digits : hexDigits? ds = some n) (trailing : isTrailing n = false)
      (leading : isLeading n = false) : SpellsChar (Char.ofNat n) ('\\' :: 'u' :: ds)
  | pair {ds' : Text} {m : Nat} (digits : hexDigits? ds = some n) (trailing : isTrailing n = false)
      (leading : isLeading n = true) (digits' : hexDigits? ds' = some m)
      (trailing' : isTrailing m = true) :
      SpellsChar (Char.ofNat ((n - 0xd800) * 0x400 + (m - 0xdc00) + 0x10000))
        ('\\' :: 'u' :: (ds ++ '\\' :: 'u' :: ds'))

inductive SpellsText : Text → Text → Prop
  | nil : SpellsText [] []
  | cons (head : SpellsChar c piece) (tail : SpellsText t body) :
      SpellsText (c :: t) (piece ++ body)

inductive TakesMembers {σ : Type} (member : σ → Text → Reader σ) :
    (first : Bool) → σ → Text → σ → Text → Prop
  | close (hgap : Spaces gap) : TakesMembers member first x (gap ++ '}' :: rest) x rest
  | first (hgap : Spaces gap) (hkey : SpellsText key body)
      (head : member x key after = .ok (y, after'))
      (tail : TakesMembers member false y after' z rest) :
      TakesMembers member true x (gap ++ '"' :: (body ++ '"' :: after)) z rest
  | next (hgap : Spaces gap) (hgap' : Spaces gap') (hkey : SpellsText key body)
      (head : member x key after = .ok (y, after'))
      (tail : TakesMembers member false y after' z rest) :
      TakesMembers member false x (gap ++ ',' :: (gap' ++ '"' :: (body ++ '"' :: after))) z rest

variable {s t rest gap body piece ds : Text} {c : Char} {n k : Nat}

theorem bind_eq_ok_iff {x : Except ε α} {f : α → Except ε β} {b : β} :
    x >>= f = .ok b ↔ ∃ a, x = .ok a ∧ f a = .ok b := by
  cases x <;> simp [bind, Except.bind]

theorem map_eq_ok_iff {x : Except ε α} {f : α → β} {b : β} :
    x.map f = .ok b ↔ ∃ a, x = .ok a ∧ f a = b := by
  cases x <;> simp [Except.map]

theorem exists_spaces (s : Text) : ∃ gap, Spaces gap ∧ s = gap ++ skipSpace s :=
  ⟨s.takeWhile isSpace, fun _ => List.mem_takeWhile_imp, List.takeWhile_append_dropWhile.symm⟩

theorem skipSpace_append (hgap : Spaces gap) (s : Text) : skipSpace (gap ++ s) = skipSpace s :=
  List.dropWhile_append_of_pos hgap

theorem skipSpace_eq_nil_iff : skipSpace s = [] ↔ Spaces s := List.dropWhile_eq_nil_iff

theorem skipSpace_eq_cons_iff : skipSpace s = c :: rest ↔
    isSpace c = false ∧ ∃ gap, Spaces gap ∧ s = gap ++ c :: rest := by
  constructor
  · intro h
    obtain ⟨gap, hgap, hs⟩ := exists_spaces s
    rw [h] at hs
    refine ⟨?_, gap, hgap, hs⟩
    have hdrop : s.dropWhile isSpace = c :: rest := h
    simpa [hdrop] using List.head_dropWhile_not isSpace (l := s) (by simp [hdrop])
  · rintro ⟨hc, gap, hgap, rfl⟩
    rw [skipSpace_append hgap, skipSpace_cons hc]

theorem length_of_hexDigits? (h : hexDigits? ds = some n) : ds.length = 4 := by
  unfold hexDigits? at h
  split at h
  · rfl
  · cases h

theorem hex4_append (h : hexDigits? ds = some n) (s : Text) : hex4 (ds ++ s) = .ok n := by
  rw [hex4, ← length_of_hexDigits? h, List.take_left, h]

theorem drop_hexDigits (h : hexDigits? ds = some n) (s : Text) : (ds ++ s).drop 4 = s := by
  rw [← length_of_hexDigits? h, List.drop_left]

theorem exists_of_hex4 (h : hex4 s = .ok n) :
    ∃ ds rest, hexDigits? ds = some n ∧ s = ds ++ rest := by
  rw [hex4] at h
  split at h
  · next m hm =>
    cases h
    exact ⟨s.take 4, s.drop 4, hm, (List.take_append_drop 4 s).symm⟩
  · split at h <;> cases h

theorem SpellsChar.length_pos (h : SpellsChar c piece) : 0 < piece.length := by
  cases h <;> simp

theorem SpellsChar.stringUnit (h : SpellsChar c piece) (rest : Text) :
    stringUnit (piece ++ rest) = .ok (some (c, piece.length)) := by
  cases h with
  | itself quote escape visible => exact stringUnit_plain quote escape visible rest
  | mark mark =>
    rw [List.cons_append, List.singleton_append, Json.stringUnit, mark]
    · rfl
    · rintro rfl
      cases mark
  | number digits trailing leading =>
    simp [Json.stringUnit, codeUnit, hex4_append digits, trailing, leading, bind, Except.bind, pure,
      Except.pure, length_of_hexDigits? digits]
  | pair digits trailing leading digits' trailing' =>
    simp [Json.stringUnit, codeUnit, hex4_append digits, drop_hexDigits digits, trailing, leading,
      hex4_append digits', trailing', bind, Except.bind, pure, Except.pure,
      length_of_hexDigits? digits, length_of_hexDigits? digits']

theorem exists_of_codeUnit (h : codeUnit s = .ok (c, k)) :
    ∃ ds rest, SpellsChar c ('\\' :: 'u' :: ds) ∧ ds.length = k ∧ s = ds ++ rest := by
  rw [codeUnit, bind_eq_ok_iff] at h
  obtain ⟨n, hn, h⟩ := h
  obtain ⟨ds, rest, hds, rfl⟩ := exists_of_hex4 hn
  simp only [drop_hexDigits hds, Bool.not_eq_true'] at h
  split at h
  · cases h
  · next trailing =>
    rw [Bool.not_eq_true] at trailing
    split at h
    · next leading =>
      cases h
      exact ⟨ds, rest, .number hds trailing leading, length_of_hexDigits? hds, rfl⟩
    · next leading =>
      rw [Bool.not_eq_false] at leading
      split at h
      · cases h
      · cases h
      · next s =>
        obtain ⟨m, hm, h⟩ := bind_eq_ok_iff.mp h
        obtain ⟨ds', rest', hds', rfl⟩ := exists_of_hex4 hm
        split at h
        · next trailing' =>
          obtain ⟨rfl, rfl⟩ := Prod.mk.inj (Except.ok.inj h)
          have hspells := SpellsChar.pair hds trailing leading hds' trailing'
          refine ⟨ds ++ '\\' :: 'u' :: ds', rest', hspells, ?_, by simp⟩
          simp [length_of_hexDigits? hds, length_of_hexDigits? hds']
        · cases h
      · cases h
      · cases h

theorem exists_of_stringUnit (h : stringUnit s = .ok (some (c, k))) :
    ∃ piece rest, SpellsChar c piece ∧ piece.length = k ∧ s = piece ++ rest := by
  unfold stringUnit at h
  split at h
  · cases h
  · cases h
  · cases h
  · next s =>
    obtain ⟨⟨d, taken⟩, hunit, h⟩ := bind_eq_ok_iff.mp h
    cases h
    obtain ⟨ds, rest, hspells, rfl, rfl⟩ := exists_of_codeUnit hunit
    exact ⟨_, rest, hspells, rfl, rfl⟩
  · next e s _ =>
    split at h
    · next d mark =>
      cases h
      exact ⟨['\\', e], s, .mark mark, rfl, rfl⟩
    · cases h
  · next d s quote alone _ followed =>
    split at h
    · cases h
    · next visible =>
      cases h
      refine ⟨[c], s, .itself quote (fun e => ?_) visible, rfl, rfl⟩
      cases s with
      | nil => exact alone e rfl
      | cons a s => exact followed a s e rfl

theorem exists_of_stringUnit_none (h : stringUnit s = .ok none) : ∃ rest, s = '"' :: rest := by
  unfold stringUnit at h
  split at h
  · cases h
  · exact ⟨_, rfl⟩
  · cases h
  · obtain ⟨_, _, h⟩ := bind_eq_ok_iff.mp h
    cases h
  · split at h <;> cases h
  · split at h <;> cases h

theorem unitsAfter_eq_drop (unit : Text → Except Fault (Option (Char × Nat))) (k : Nat) (s : Text) :
    unitsAfter unit k s = unitsAfter unit 0 (s.drop k) := by
  induction k generalizing s with
  | zero => rfl
  | succ k ih =>
    cases s with
    | nil => rfl
    | cons c s => exact ih s

theorem unitsAfter_append {unit : Text → Except Fault (Option (Char × Nat))} (hpiece : piece ≠ [])
    (hunit : unit (piece ++ rest) = .ok (some (c, piece.length))) :
    unitsAfter unit 0 (piece ++ rest) =
      (unitsAfter unit 0 rest).map fun (body, rest) => (c :: body, rest) := by
  cases piece with
  | nil => exact absurd rfl hpiece
  | cons d piece =>
    rw [List.cons_append] at hunit ⊢
    rw [unitsAfter, hunit]
    dsimp only
    rw [unitsAfter_eq_drop, List.length_cons, Nat.add_sub_cancel, List.drop_left]

theorem unitsAfter_spells (h : SpellsChar c piece) (rest : Text) :
    unitsAfter stringUnit 0 (piece ++ rest) =
      (unitsAfter stringUnit 0 rest).map fun (body, rest) => (c :: body, rest) :=
  unitsAfter_append (List.ne_nil_of_length_pos h.length_pos) (h.stringUnit rest)

theorem SpellsText.stringBody (h : SpellsText t body) (rest : Text) :
    stringBody (body ++ '"' :: rest) = .ok (t, rest) := by
  rw [Json.stringBody]
  induction h with
  | nil => rfl
  | cons head _ ih =>
    rw [List.append_assoc, unitsAfter_spells head, ih]
    rfl

theorem exists_of_stringBody (h : stringBody s = .ok (t, rest)) :
    ∃ body, SpellsText t body ∧ s = body ++ '"' :: rest := by
  -- A character may be spelled by several, so the induction is on how much is left.
  induction hl : s.length using Nat.strongRecOn generalizing s t with
  | ind l ih =>
    cases s with
    | nil => cases h
    | cons d s =>
      rw [stringBody] at h
      cases hunit : stringUnit (d :: s) with
      | error f =>
        rw [unitsAfter, hunit] at h
        cases h
      | ok r =>
        cases r with
        | none =>
          rw [unitsAfter, hunit] at h
          cases h
          obtain ⟨rest, hrest⟩ := exists_of_stringUnit_none hunit
          cases hrest
          exact ⟨[], .nil, rfl⟩
        | some r =>
          obtain ⟨piece, after, hspells, hlength, hs⟩ := exists_of_stringUnit hunit
          rw [hs, unitsAfter_spells hspells] at h
          obtain ⟨_, hafter, h⟩ := map_eq_ok_iff.mp h
          cases h
          have hshorter : after.length < l := by
            have := hspells.length_pos
            rw [hs, List.length_append] at hl
            omega
          obtain ⟨body, hbody, hrest⟩ := ih _ hshorter hafter rfl
          exact ⟨piece ++ body, .cons hspells hbody, by rw [hs, hrest, List.append_assoc]⟩

section Members

variable {σ β : Type} {member : σ → Text → Reader σ} {x y z : σ} {b : β} {count : Nat}
  {first : Bool} {key gap' : Text}

theorem exists_of_key {next : σ → Text → Except Fault β}
    (h : (do
      let (key, s) ← stringBody s
      let (x, s) ← member x key s
      next x s) = .ok b) :
    ∃ key body after y after', SpellsText key body ∧ s = body ++ '"' :: after ∧
      member x key after = .ok (y, after') ∧ next y after' = .ok b := by
  obtain ⟨⟨key, after⟩, hkey, h⟩ := bind_eq_ok_iff.mp h
  obtain ⟨⟨y, after'⟩, hmember, h⟩ := bind_eq_ok_iff.mp h
  obtain ⟨body, hbody, hs⟩ := exists_of_stringBody hkey
  exact ⟨key, body, after, y, after', hbody, hs, hmember, h⟩

theorem exists_of_membersWithin
    (h : Reader.membersWithin member count first x s = .ok (z, rest)) :
    TakesMembers member first x s z rest := by
  induction count generalizing first x s with
  | zero => cases h
  | succ count ih =>
    rw [Reader.membersWithin] at h
    split at h
    · cases h
    · next r hs =>
      obtain ⟨-, gap, hgap, rfl⟩ := skipSpace_eq_cons_iff.mp hs
      cases h
      exact .close hgap
    · next r hs =>
      obtain ⟨-, gap, hgap, rfl⟩ := skipSpace_eq_cons_iff.mp hs
      split at h
      · next hfirst =>
        obtain ⟨key, body, after, y, after', hkey, rfl, hhead, htail⟩ := exists_of_key h
        rw [hfirst]
        exact .first hgap hkey hhead (ih htail)
      · cases h
    · next r hs =>
      obtain ⟨-, gap, hgap, rfl⟩ := skipSpace_eq_cons_iff.mp hs
      split at h
      · cases h
      · next hfirst =>
        rw [Bool.not_eq_true] at hfirst
        split at h
        · next r hr =>
          obtain ⟨-, gap', hgap', rfl⟩ := skipSpace_eq_cons_iff.mp hr
          obtain ⟨key, body, after, y, after', hkey, rfl, hhead, htail⟩ := exists_of_key h
          rw [hfirst]
          exact .next hgap hgap' hkey hhead (ih htail)
        · cases h
        · cases h
        · cases h
    · split at h <;> cases h

theorem membersWithin_close (hgap : Spaces gap) :
    Reader.membersWithin member (count + 1) first x (gap ++ '}' :: rest) = .ok (x, rest) := by
  rw [Reader.membersWithin, skipSpace_append hgap, skipSpace_cons (by decide)]
  rfl

theorem membersWithin_quote (hgap : Spaces gap) (hkey : SpellsText key body) (s : Text) :
    Reader.membersWithin member (count + 1) true x (gap ++ '"' :: (body ++ '"' :: s)) =
      member x key s >>= fun (y, s) => Reader.membersWithin member count false y s := by
  rw [Reader.membersWithin, skipSpace_append hgap, skipSpace_cons (by decide)]
  simp only [if_true, hkey.stringBody, bind, Except.bind]

theorem membersWithin_comma (hgap : Spaces gap) (hgap' : Spaces gap') (hkey : SpellsText key body)
    (s : Text) :
    Reader.membersWithin member (count + 1) false x
        (gap ++ ',' :: (gap' ++ '"' :: (body ++ '"' :: s))) =
      member x key s >>= fun (y, s) => Reader.membersWithin member count false y s := by
  have hquote (s : Text) : skipSpace ('"' :: s) = '"' :: s := skipSpace_cons (by decide) s
  rw [Reader.membersWithin, skipSpace_append hgap, skipSpace_cons (by decide)]
  simp only [Bool.false_eq_true, if_false, skipSpace_append hgap', hquote, hkey.stringBody, bind,
    Except.bind]

theorem TakesMembers.membersWithin (h : TakesMembers member first x s z rest)
    (hshort : ∀ x key s y rest, member x key s = .ok (y, rest) → rest.length ≤ s.length)
    (hcount : s.length < count) :
    Reader.membersWithin member count first x s = .ok (z, rest) := by
  -- Each member takes something off the text, so the count lasts to its end.
  induction h generalizing count with
  | close hgap =>
    obtain ⟨count, rfl⟩ := Nat.exists_eq_succ_of_ne_zero (Nat.ne_zero_of_lt hcount)
    exact membersWithin_close hgap
  | first hgap hkey head _ ih =>
    obtain ⟨count, rfl⟩ := Nat.exists_eq_succ_of_ne_zero (Nat.ne_zero_of_lt hcount)
    have hafter := hshort _ _ _ _ _ head
    rw [membersWithin_quote hgap hkey, head]
    refine ih ?_
    simp only [List.length_append, List.length_cons] at hcount
    omega
  | next hgap hgap' hkey head _ ih =>
    obtain ⟨count, rfl⟩ := Nat.exists_eq_succ_of_ne_zero (Nat.ne_zero_of_lt hcount)
    have hafter := hshort _ _ _ _ _ head
    rw [membersWithin_comma hgap hgap' hkey, head]
    refine ih ?_
    simp only [List.length_append, List.length_cons] at hcount
    omega

theorem members_eq_ok_iff
    (hshort : ∀ x key s y rest, member x key s = .ok (y, rest) → rest.length ≤ s.length) :
    Reader.members member x s = .ok (z, rest) ↔ TakesMembers member true x s z rest :=
  ⟨exists_of_membersWithin, fun h => h.membersWithin hshort (Nat.lt_succ_self s.length)⟩

end Members

namespace Reader

variable {α : Type} {read : Reader α} {a : α}

theorem afterColon_append (hgap : Spaces gap) (s : Text) :
    afterColon read (gap ++ ':' :: s) = read s := by
  rw [afterColon, skipSpace_append hgap, skipSpace_cons (by decide)]
  rfl

theorem afterColon_eq_ok_iff : afterColon read s = .ok (a, rest) ↔
    ∃ gap r, Spaces gap ∧ s = gap ++ ':' :: r ∧ read r = .ok (a, rest) := by
  constructor
  · intro h
    rw [afterColon] at h
    split at h
    · next r hs =>
      obtain ⟨-, gap, hgap, rfl⟩ := skipSpace_eq_cons_iff.mp hs
      exact ⟨gap, r, hgap, rfl, h⟩
    · cases h
    · cases h
  · rintro ⟨gap, r, hgap, rfl, h⟩
    rwa [afterColon_append hgap]

theorem run_eq_ok_iff : run read s = .ok a ↔ ∃ rest, Spaces rest ∧ read s = .ok (a, rest) := by
  rw [run, bind_eq_ok_iff]
  constructor
  · rintro ⟨⟨b, rest⟩, hread, h⟩
    dsimp only at h
    split at h
    · next hrest =>
      cases h
      exact ⟨rest, skipSpace_eq_nil_iff.mp hrest, hread⟩
    · cases h
  · rintro ⟨rest, hrest, hread⟩
    refine ⟨(a, rest), hread, ?_⟩
    dsimp only
    rw [skipSpace_eq_nil_iff.mpr hrest]
    rfl

end Reader

end ForumClient.Json
