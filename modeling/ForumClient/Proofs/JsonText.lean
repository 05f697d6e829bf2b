import ForumClient.Json.Reader
import ForumClient.Json.Writer
import ForumClient.Proofs.Numeral

namespace ForumClient.Json

theorem skipSpace_cons {c : Char} (h : isSpace c = false) (s : Text) :
    skipSpace (c :: s) = c :: s := by
  rw [skipSpace, List.dropWhile_cons_of_neg]
  simp [h]

theorem hexDigits?_control : ∀ n < 0x20,
    hexDigits? ['0', '0', hexChar (n / 16), hexChar (n % 16)] = some n ∧
      isTrailing n = false ∧ isLeading n = false := by decide

theorem stringUnit_control {c : Char} (h : c.toNat < 0x20) (s : Text) :
    stringUnit ('\\' :: 'u' :: '0' :: '0' :: hexChar (c.toNat / 16) ::
      hexChar (c.toNat % 16) :: s) = .ok (some (c, 6)) := by
  obtain ⟨hex, trailing, leading⟩ := hexDigits?_control c.toNat h
  simp [stringUnit, codeUnit, hex4, hex, trailing, leading, bind, Except.bind, pure, Except.pure]

theorem stringUnit_plain {c : Char} (hquote : c ≠ '"') (hescape : c ≠ '\\')
    (h : ¬ c.toNat < 0x20) (s : Text) : stringUnit (c :: s) = .ok (some (c, 1)) := by
  rw [stringUnit, if_neg h]
  · exact hquote
  · exact fun e => absurd e hescape
  · exact fun _ e => absurd e hescape
  · exact fun _ _ e => absurd e hescape

theorem unitsAfter_escapeChar (c : Char) (s : Text) :
    unitsAfter stringUnit 0 (escapeChar c ++ s) =
      (unitsAfter stringUnit 0 s).map fun (body, rest) => (c :: body, rest) := by
  unfold escapeChar
  split
  any_goals rfl
  next hquote hescape _ _ _ _ _ =>
  split
  · next h =>
    simp only [List.cons_append, List.nil_append]
    rw [unitsAfter, stringUnit_control h]
    rfl
  · next h =>
    simp only [List.cons_append, List.nil_append]
    rw [unitsAfter, stringUnit_plain hquote hescape h]

theorem stringBody_flatMap (s rest : Text) :
    stringBody (s.flatMap escapeChar ++ '"' :: rest) = .ok (s, rest) := by
  rw [stringBody]
  induction s with
  | nil => rfl
  | cons c s ih =>
    rw [List.flatMap_cons, List.append_assoc, unitsAfter_escapeChar, ih]
    rfl

theorem writeString_append (s rest : Text) :
    writeString s ++ rest = '"' :: (s.flatMap escapeChar ++ '"' :: rest) := by
  simp [writeString]

theorem Reader.string_writeString (s rest : Text) :
    Reader.string (writeString s ++ rest) = .ok (s, rest) := by
  rw [writeString_append, Reader.string, atValue, skipSpace_cons (by decide)]
  exact stringBody_flatMap s rest

theorem Reader.bool_writeBool (b : Bool) (rest : Text) :
    Reader.bool (writeBool b ++ rest) = .ok (b, rest) := by
  cases b <;> rfl

namespace Number

def Ends (s : Text) : Prop :=
  ∀ c r, s = c :: r → c.isDigit = false ∧ c ≠ '.' ∧ isExponentMark c = false

theorem ends_of_mark {c : Char} (hc : c = ',' ∨ c = '}') (rest : Text) : Ends (c :: rest) := by
  intro c' r e
  cases e
  rcases hc with rfl | rfl <;> decide

theorem digit?_of_isDigit {c : Char} (h : c.isDigit) : digit? c = some (c.toNat - 48) := by
  rw [digit?, Numeral.digit?_eq, if_pos h]

theorem digit?_of_not_isDigit {c : Char} (h : c.isDigit = false) : digit? c = none := by
  rw [digit?, Numeral.digit?_eq, if_neg (by simp [h])]

def whole (positive : Bool) (n : Nat) : Number :=
  if positive then .unsigned n
  else if n ≠ 0 ∧ n ≤ signedLimit then .negative (-n)
  else .float (-n.toFloat)

theorem afterInteger_of_ends {s : Text} (hs : Ends s) (positive : Bool) (n : Nat) :
    afterInteger positive n s = .ok (whole positive n, s) := by
  cases s with
  | nil => rfl
  | cons c r =>
    obtain ⟨-, hpoint, hmark⟩ := hs c r rfl
    rw [afterInteger]
    · simp only [hmark, Bool.false_eq_true, if_false]
      rfl
    · exact hpoint

theorem integerDigits_append {s : Text} (hs : Ends s) {ds : Text} (hds : ∀ c ∈ ds, c.isDigit)
    (positive : Bool) {k : Nat} (hk : Numeral.value ds k < significandLimit) :
    integerDigits positive k (ds ++ s) = .ok (whole positive (Numeral.value ds k), s) := by
  induction ds generalizing k with
  | nil =>
    rw [List.nil_append, Numeral.value_nil]
    cases s with
    | nil => rfl
    | cons c r =>
      rw [integerDigits, digit?_of_not_isDigit (hs c r rfl).1]
      exact afterInteger_of_ends hs positive k
  | cons c ds ih =>
    rw [List.forall_mem_cons] at hds
    rw [Numeral.value_cons, Nat.mul_comm] at hk ⊢
    rw [List.cons_append, integerDigits, digit?_of_isDigit hds.1]
    have := Nat.lt_of_le_of_lt (Numeral.le_value ds _) hk
    simp only [this, if_true]
    exact ih hds.2 hk

theorem startsDigit_of_ends {s : Text} (hs : Ends s) : startsDigit s = false := by
  cases s with
  | nil => rfl
  | cons c r => rw [startsDigit, isDigit, digit?_of_not_isDigit (hs c r rfl).1]; rfl

theorem read_write (positive : Bool) {n : Nat} (hn : n < significandLimit) {s : Text}
    (hs : Ends s) : read positive (Numeral.write n ++ s) = .ok (whole positive n, s) := by
  obtain ⟨hne, hd, hz⟩ := Numeral.plain_write n
  have hvalue := Numeral.value_write n
  cases hw : Numeral.write n with
  | nil => exact absurd hw hne
  | cons c ds =>
    rw [hw] at hd hz hvalue
    rw [List.forall_mem_cons] at hd
    by_cases hc : c = '0'
    · subst hc
      obtain rfl : ds = [] := by simpa using hz rfl
      obtain rfl : 0 = n := hvalue
      rw [List.cons_append, List.nil_append, read, startsDigit_of_ends hs]
      exact afterInteger_of_ends hs positive 0
    · rw [Numeral.value_cons, Nat.mul_zero, Nat.zero_add] at hvalue
      rw [List.cons_append, read, digit?_of_isDigit hd.1]
      · simp only
        rw [integerDigits_append hs hd.2 positive (by rw [hvalue]; exact hn), hvalue]
      · exact hc

end Number

namespace Reader

theorem digit_cases {n : Nat} : ∃ c ds, Numeral.write n = c :: ds ∧ c.isDigit := by
  obtain ⟨c, ds, h⟩ := List.exists_cons_of_ne_nil (Numeral.write_ne_nil n)
  exact ⟨c, ds, h, Numeral.isDigit_of_mem_write (by rw [h]; exact List.mem_cons_self)⟩

theorem isSpace_of_isDigit {c : Char} (h : c.isDigit) : isSpace c = false := by
  rw [← Bool.not_eq_true]
  intro hs
  simp only [isSpace, Bool.or_eq_true, beq_iff_eq] at hs
  rcases hs with ((rfl | rfl) | rfl) | rfl <;> exact absurd h (by decide)

theorem number_write (expected : String) {accept : Number → Option α} {n : Nat} {a : α}
    (hn : n < Number.significandLimit) (ha : accept (.unsigned n) = some a) {s : Text}
    (hs : Number.Ends s) : number expected accept (Numeral.write n ++ s) = .ok (a, s) := by
  have hread := Number.read_write true hn hs
  obtain ⟨c, ds, hw, hc⟩ := digit_cases (n := n)
  rw [hw, List.cons_append] at hread ⊢
  have hstart : Number.startsDigit (c :: (ds ++ s)) = true := by
    rw [Number.startsDigit, Number.isDigit, Number.digit?_of_isDigit hc]
    rfl
  have hminus : c ≠ '-' := Numeral.ne_of_isDigit hc (by decide)
  rw [number, atValue, skipSpace_cons (isSpace_of_isDigit hc)]
  simp [hminus, hstart, hread, Number.whole, ha, bind, Except.bind]

theorem number_minus (expected : String) {accept : Number → Option α} {n : Nat} {a : α}
    (hn : n < Number.significandLimit) (ha : accept (Number.whole false n) = some a) {s : Text}
    (hs : Number.Ends s) : number expected accept ('-' :: (Numeral.write n ++ s)) = .ok (a, s) := by
  rw [number, atValue, skipSpace_cons (by decide)]
  simp [Number.read_write false hn hs, ha, bind, Except.bind]

theorem natural_write (expected : String) {limit n : Nat} (hn : n < limit)
    (hlimit : limit ≤ Number.significandLimit) {s : Text} (hs : Number.Ends s) :
    natural expected limit (Numeral.write n ++ s) = .ok (n, s) :=
  number_write expected (Nat.lt_of_lt_of_le hn hlimit) (if_pos hn) hs

theorem integer_writeInt {z : Int} (hlow : -Number.signedLimit ≤ z) (hhigh : z < Number.signedLimit)
    {s : Text} (hs : Number.Ends s) : integer (writeInt z ++ s) = .ok (z, s) := by
  have hlimit : 2 * Number.signedLimit = Number.significandLimit := rfl
  by_cases hz : z < 0
  · have hwhole : Number.whole false z.natAbs = .negative z := by
      rw [Number.whole, if_neg (by decide), if_pos (by omega)]
      congr 1
      omega
    rw [writeInt, if_pos hz, integer]
    exact number_minus "i64" (by omega) (by rw [hwhole]) hs
  · rw [writeInt, if_neg hz, List.nil_append, integer]
    have hsmall : z.natAbs < Number.signedLimit := by omega
    refine number_write "i64" (by omega) ?_ hs
    simp only [hsmall, if_true]
    congr 1
    omega

theorem optional_of_read {read : Reader α} {c : Char} {s rest : Text} {a : α}
    (hspace : isSpace c = false) (hnull : c ≠ 'n') (h : read (c :: s) = .ok (a, rest)) :
    optional read (c :: s) = .ok (some a, rest) := by
  rw [optional, skipSpace_cons hspace]
  simp [hnull, h, Except.map]

theorem optional_natural {expected : String} {limit n : Nat} (hn : n < limit)
    (hlimit : limit ≤ Number.significandLimit) {s : Text} (hs : Number.Ends s) :
    optional (natural expected limit) (Numeral.write n ++ s) = .ok (some n, s) := by
  have hread := natural_write expected hn hlimit hs
  obtain ⟨c, ds, hw, hc⟩ := digit_cases (n := n)
  rw [hw, List.cons_append] at hread ⊢
  have hnull : c ≠ 'n' := Numeral.ne_of_isDigit hc (by decide)
  exact optional_of_read (isSpace_of_isDigit hc) hnull hread

theorem afterColon_colon (read : Reader α) (s : Text) : afterColon read (':' :: s) = read s := by
  rw [afterColon, skipSpace_cons (by decide)]
  rfl

end Reader

def writeMember (m : Text × Text) : Text := writeString m.1 ++ ':' :: m.2

theorem joinWith_comma (w : Text) (ws : List Text) :
    Text.joinWith [','] (w :: ws) = w ++ ws.flatMap (',' :: ·) := by
  induction ws generalizing w with
  | nil => simp [Text.joinWith]
  | cons v ws ih => simp [Text.joinWith, ih]

theorem writeObject_cons (m : Text × Text) (ms : List (Text × Text)) :
    writeObject (m :: ms) =
      '{' :: (writeMember m ++ (ms.flatMap (',' :: writeMember ·) ++ ['}'])) := by
  rw [writeObject, List.map_cons, joinWith_comma]
  simp [writeMember, List.flatMap_map]

inductive Reads {σ : Type} (member : σ → Text → Reader σ) : σ → List (Text × Text) → σ → Prop
  | nil (s : σ) : Reads member s [] s
  | cons {s s' s'' : σ} {key value : Text} {ms : List (Text × Text)}
      (head : ∀ c rest, c = ',' ∨ c = '}' →
        member s key (':' :: (value ++ c :: rest)) = .ok (s', c :: rest))
      (tail : Reads member s' ms s'') : Reads member s ((key, value) :: ms) s''

section Members

variable {σ : Type} {member : σ → Text → Reader σ} {s s' s'' : σ} {key value : Text}
  {ms : List (Text × Text)} {count : Nat}

theorem membersWithin_first (c : Char) (rest : Text)
    (h : member s key (':' :: (value ++ c :: rest)) = .ok (s', c :: rest)) :
    Reader.membersWithin member (count + 1) true s (writeMember (key, value) ++ c :: rest) =
      Reader.membersWithin member count false s' (c :: rest) := by
  simp only [writeMember, List.append_assoc, List.cons_append]
  rw [writeString_append, Reader.membersWithin, skipSpace_cons (by decide)]
  simp [stringBody_flatMap, h, bind, Except.bind]

theorem membersWithin_next (c : Char) (rest : Text)
    (h : member s key (':' :: (value ++ c :: rest)) = .ok (s', c :: rest)) :
    Reader.membersWithin member (count + 1) false s
        (',' :: (writeMember (key, value) ++ c :: rest)) =
      Reader.membersWithin member count false s' (c :: rest) := by
  simp only [writeMember, List.append_assoc, List.cons_append]
  rw [writeString_append, Reader.membersWithin, skipSpace_cons (by decide)]
  simp [skipSpace_cons, isSpace, stringBody_flatMap, h, bind, Except.bind]

theorem exists_mark (ms : List (Text × Text)) (rest : Text) :
    ∃ c tail, (c = ',' ∨ c = '}') ∧
      ms.flatMap (',' :: writeMember ·) ++ '}' :: rest = c :: tail := by
  cases ms with
  | nil => exact ⟨'}', rest, .inr rfl, rfl⟩
  | cons m ms => exact ⟨',', _, .inl rfl, rfl⟩

theorem length_le_flatMap (ms : List (Text × Text)) :
    ms.length ≤ (ms.flatMap (',' :: writeMember ·)).length := by
  induction ms with
  | nil => exact Nat.le_refl 0
  | cons m ms ih =>
    simp only [List.flatMap_cons, List.length_append, List.length_cons]
    omega

theorem membersWithin_flatMap (h : Reads member s ms s') (hcount : ms.length < count)
    (rest : Text) :
    Reader.membersWithin member count false s (ms.flatMap (',' :: writeMember ·) ++ '}' :: rest) =
      .ok (s', rest) := by
  induction h generalizing count with
  | nil s =>
    obtain ⟨count, rfl⟩ := Nat.exists_eq_succ_of_ne_zero (Nat.ne_of_gt hcount)
    rw [List.flatMap_nil, List.nil_append, Reader.membersWithin, skipSpace_cons (by decide)]
    rfl
  | @cons s s' s'' key value ms head tail ih =>
    obtain ⟨count, rfl⟩ := Nat.exists_eq_succ_of_ne_zero (Nat.ne_of_gt (Nat.zero_lt_of_lt hcount))
    obtain ⟨c, text, hc, htext⟩ := exists_mark ms rest
    rw [List.flatMap_cons, List.append_assoc, List.cons_append, htext,
      membersWithin_next c text (head c text hc), ← htext]
    exact ih (by simpa using hcount)

theorem members_writeObject (h : Reads member s ms s') (rest : Text) :
    ∃ body, writeObject ms ++ rest = '{' :: body ∧
      Reader.members member s body = .ok (s', rest) := by
  cases h with
  | nil =>
    refine ⟨'}' :: rest, rfl, ?_⟩
    rw [Reader.members, Reader.membersWithin, skipSpace_cons (by decide)]
    rfl
  | @cons _ s' s'' key value ms head tail =>
    refine ⟨writeMember (key, value) ++ (ms.flatMap (',' :: writeMember ·) ++ '}' :: rest),
      by rw [writeObject_cons]; simp, ?_⟩
    obtain ⟨c, text, hc, htext⟩ := exists_mark ms rest
    rw [Reader.members, htext, membersWithin_first c text (head c text hc), ← htext]
    apply membersWithin_flatMap tail
    have := length_le_flatMap ms
    simp only [List.length_append, List.length_cons]
    omega

end Members

end ForumClient.Json
