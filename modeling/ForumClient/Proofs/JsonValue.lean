import ForumClient.Proofs.JsonNumeral

namespace ForumClient.Json

inductive StringChar : Text → Prop
  | itself (quote : c ≠ '"') (escape : c ≠ '\\') (visible : ¬ c.toNat < 0x20) : StringChar [c]
  | mark (mark : simpleEscape? e = some d) : StringChar ['\\', e]
  | number (digits : hexDigits? ds = some n) : StringChar ('\\' :: 'u' :: ds)

inductive StringText : Text → Prop
  | nil : StringText []
  | cons (head : StringChar piece) (tail : StringText body) : StringText (piece ++ body)

inductive Fraction : Text → Prop
  | none : Fraction []
  | places (nonempty : ds ≠ []) (digits : ∀ c ∈ ds, c.isDigit) : Fraction ('.' :: ds)

inductive Exponent : Text → Prop
  | none : Exponent []
  | power (mark : Number.isExponentMark c) (sign : g = [] ∨ g = ['+'] ∨ g = ['-'])
      (nonempty : ds ≠ []) (digits : ∀ c ∈ ds, c.isDigit) : Exponent (c :: (g ++ ds))

inductive Unsigned : Text → Prop
  | mk (whole : Numeral.Plain ds) (fraction : Fraction f) (exponent : Exponent e) :
      Unsigned (ds ++ (f ++ e))

/-- What can stand in a text: a value, a member, and the elements or the members up to the closing
mark, with a comma before each but the first. -/
inductive Part
  | value
  | member
  | elements (first : Bool)
  | members (first : Bool)

inductive Spelled : Part → Text → Prop
  | null : Spelled .value "null".toList
  | bool (b : Bool) : Spelled .value (writeBool b)
  | string (body : StringText s) : Spelled .value ('"' :: (s ++ ['"']))
  | number (unsigned : Unsigned s) : Spelled .value s
  | negative (unsigned : Unsigned s) : Spelled .value ('-' :: s)
  | list (elements : Spelled (.elements true) s) : Spelled .value ('[' :: s)
  | object (members : Spelled (.members true) s) : Spelled .value ('{' :: s)
  | member (name : StringText s) (gap : Spaces g) (gap' : Spaces g') (value : Spelled .value v) :
      Spelled .member ('"' :: (s ++ '"' :: (g ++ ':' :: (g' ++ v))))
  | closeList (gap : Spaces g) : Spelled (.elements first) (g ++ [']'])
  | firstElement (gap : Spaces g) (value : Spelled .value v) (tail : Spelled (.elements false) t) :
      Spelled (.elements true) (g ++ (v ++ t))
  | nextElement (gap : Spaces g) (gap' : Spaces g') (value : Spelled .value v)
      (tail : Spelled (.elements false) t) :
      Spelled (.elements false) (g ++ ',' :: (g' ++ (v ++ t)))
  | closeObject (gap : Spaces g) : Spelled (.members first) (g ++ ['}'])
  | firstMember (gap : Spaces g) (member : Spelled .member m) (tail : Spelled (.members false) t) :
      Spelled (.members true) (g ++ (m ++ t))
  | nextMember (gap : Spaces g) (gap' : Spaces g') (member : Spelled .member m)
      (tail : Spelled (.members false) t) :
      Spelled (.members false) (g ++ ',' :: (g' ++ (m ++ t)))

def Part.skip : Part → Nat → Text → Except Fault Text
  | .value, calls => skipWithin calls
  | .member, calls => skipMember calls
  | .elements first, calls => skipElements calls first
  | .members first, calls => skipMembers calls first

variable {s t v body piece rest gap ds f e : Text} {c : Char} {first : Bool} {part : Part}
  {calls : Nat}

section Strings

theorem StringChar.skippedUnit (h : StringChar piece) (rest : Text) :
    ∃ c, skippedUnit (piece ++ rest) = .ok (some (c, piece.length)) := by
  cases h with
  | @itself c quote escape visible =>
    refine ⟨c, ?_⟩
    rw [List.singleton_append, Json.skippedUnit, if_neg visible]
    · rfl
    · exact quote
    · exact fun e => absurd e escape
    · exact fun _ e => absurd e escape
    · exact fun _ _ e => absurd e escape
  | @mark e d mark =>
    refine ⟨d, ?_⟩
    rw [List.cons_append, List.singleton_append, Json.skippedUnit, mark]
    · rfl
    · rintro rfl
      cases mark
  | number digits =>
    refine ⟨'u', ?_⟩
    simp [Json.skippedUnit, hex4_append digits, bind, Except.bind, pure, Except.pure,
      length_of_hexDigits? digits]

theorem StringChar.ne_nil (h : StringChar piece) : piece ≠ [] := by
  cases h <;> simp

theorem StringText.skipString (h : StringText body) (rest : Text) :
    skipString (body ++ '"' :: rest) = .ok rest := by
  have hunits : ∃ t, unitsAfter Json.skippedUnit 0 (body ++ '"' :: rest) = .ok (t, rest) := by
    induction h with
    | nil => exact ⟨[], rfl⟩
    | cons head _ ih =>
      obtain ⟨c, hunit⟩ := head.skippedUnit _
      obtain ⟨t, ht⟩ := ih
      refine ⟨c :: t, ?_⟩
      rw [List.append_assoc, unitsAfter_append head.ne_nil hunit, ht]
      rfl
  obtain ⟨t, ht⟩ := hunits
  rw [Json.skipString, ht]
  rfl

theorem SpellsChar.stringText (h : SpellsChar c piece) (tail : StringText body) :
    StringText (piece ++ body) := by
  cases h with
  | itself quote escape visible => exact .cons (.itself quote escape visible) tail
  | mark mark => exact .cons (.mark mark) tail
  | number digits => exact .cons (.number digits) tail
  | pair digits _ _ digits' _ =>
    have := StringText.cons (.number digits) (.cons (.number digits') tail)
    simpa using this

theorem SpellsText.stringText (h : SpellsText t body) : StringText body := by
  induction h with
  | nil => exact .nil
  | cons head _ ih => exact head.stringText ih

end Strings

section Numbers

namespace Number

theorem isDigit_eq (c : Char) : isDigit c = c.isDigit := startsDigit_cons c []

theorem skipDigits1_append (nonempty : ds ≠ []) (digits : ∀ c ∈ ds, c.isDigit)
    (hs : startsDigit s = false) : skipDigits1 (ds ++ s) = .ok s := by
  have hdrop : ∀ t : Text, (∀ c ∈ t, c.isDigit) → (t ++ s).dropWhile isDigit = s := by
    intro t ht
    rw [List.dropWhile_append_of_pos fun c hc => (isDigit_eq c).trans (ht c hc)]
    cases s with
    | nil => rfl
    | cons c s => exact List.dropWhile_cons_of_neg (by simpa [startsDigit] using hs)
  cases ds with
  | nil => exact absurd rfl nonempty
  | cons c ds =>
    rw [List.forall_mem_cons] at digits
    rw [List.cons_append, skipDigits1, isDigit_eq, if_pos digits.1, hdrop ds digits.2]

end Number

open Number

theorem Exponent.skipAfterDigits (h : Exponent e) (hrest : Ends rest) :
    skipAfterDigits (e ++ rest) = .ok rest := by
  cases h with
  | none =>
    cases rest with
    | nil => rfl
    | cons c r => simp [Number.skipAfterDigits, (hrest c r rfl).2.2]
  | @power c g ds mark sign nonempty digits =>
    have hdigits := skipDigits1_append nonempty digits (startsDigit_of_ends hrest)
    rw [List.cons_append, Number.skipAfterDigits, if_pos mark, List.append_assoc]
    rcases sign with rfl | rfl | rfl
    · rw [List.nil_append, skipExponent, hdigits]
      all_goals
        rintro r e
        rw [e] at hdigits
        cases hdigits
    · exact hdigits
    · exact hdigits

theorem Exponent.head (h : Exponent e) (hrest : Ends rest) :
    startsDigit (e ++ rest) = false ∧ ∀ r, e ++ rest ≠ '.' :: r := by
  cases h with
  | none =>
    refine ⟨startsDigit_of_ends hrest, ?_⟩
    rintro r rfl
    exact (hrest '.' r rfl).2.1 rfl
  | power mark =>
    simp only [isExponentMark, Bool.or_eq_true, beq_iff_eq] at mark
    rcases mark with rfl | rfl <;> exact ⟨startsDigit_cons _ _, nofun⟩

theorem Fraction.startsDigit (h : Fraction f) (he : Exponent e) (hrest : Ends rest) :
    startsDigit (f ++ (e ++ rest)) = false := by
  cases h with
  | none => exact (he.head hrest).1
  | places => exact startsDigit_cons _ _

def Number.skipAfterWhole : Text → Except Fault Text
  | '.' :: s => skipDigits1 s >>= skipAfterDigits
  | s => skipAfterDigits s

theorem Number.skip_append (whole : Numeral.Plain ds) (hs : Number.startsDigit s = false) :
    Number.skip (ds ++ s) = skipAfterWhole s := by
  obtain ⟨nonempty, digits, zero⟩ := whole
  by_cases hzero : ds.head? = some '0'
  · rw [zero hzero, List.singleton_append]
    unfold Number.skip
    simp only [hs, Bool.false_eq_true, if_false]
    rfl
  · have hdigits := skipDigits1_append nonempty digits hs
    cases ds with
    | nil => exact absurd rfl nonempty
    | cons c ds =>
      rw [List.cons_append] at hdigits ⊢
      unfold Number.skip
      split
      · next e => exact absurd (congrArg List.head? e) (by simpa using hzero)
      · rw [hdigits]
        rfl

theorem Fraction.skipAfterWhole (h : Fraction f) (he : Exponent e) (hrest : Ends rest) :
    skipAfterWhole (f ++ (e ++ rest)) = .ok rest := by
  obtain ⟨hdigit, hpoint⟩ := he.head hrest
  cases h with
  | none => rw [List.nil_append, Number.skipAfterWhole.eq_2 _ hpoint, he.skipAfterDigits hrest]
  | places nonempty digits =>
    rw [List.cons_append, Number.skipAfterWhole, skipDigits1_append nonempty digits hdigit]
    exact he.skipAfterDigits hrest

theorem Unsigned.skip (h : Unsigned s) (hrest : Ends rest) :
    Number.skip (s ++ rest) = .ok rest := by
  obtain ⟨whole, fraction, exponent⟩ := h
  rw [List.append_assoc, List.append_assoc, skip_append whole (fraction.startsDigit exponent hrest)]
  exact fraction.skipAfterWhole exponent hrest

end Numbers

section Parts

variable {r v : Text}

theorem Unsigned.exists_digit (h : Unsigned s) : ∃ c r, s = c :: r ∧ c.isDigit := by
  obtain ⟨⟨nonempty, digits, -⟩, -, -⟩ := h
  obtain ⟨c, ds, rfl⟩ := List.exists_cons_of_ne_nil nonempty
  exact ⟨c, _, rfl, digits c List.mem_cons_self⟩

theorem Spelled.exists_head (h : Spelled .value v) :
    ∃ c r, v = c :: r ∧ isSpace c = false ∧ c ≠ ']' := by
  cases h with
  | null => exact ⟨_, _, rfl, by decide⟩
  | bool b => cases b <;> exact ⟨_, _, rfl, by decide⟩
  | string => exact ⟨_, _, rfl, by decide⟩
  | number unsigned =>
    obtain ⟨c, r, rfl, hc⟩ := unsigned.exists_digit
    exact ⟨c, r, rfl, Reader.isSpace_of_isDigit hc, Numeral.ne_of_isDigit hc (by decide)⟩
  | negative => exact ⟨_, _, rfl, by decide⟩
  | list => exact ⟨_, _, rfl, by decide⟩
  | object => exact ⟨_, _, rfl, by decide⟩

theorem Spelled.exists_quote (h : Spelled .member s) : ∃ r, s = '"' :: r := by
  cases h with
  | member => exact ⟨_, rfl⟩

theorem Spelled.ne_nil (h : Spelled part s) : s ≠ [] := by
  induction h with
  | bool b => cases b <;> decide
  | number unsigned =>
    obtain ⟨c, r, rfl, -⟩ := unsigned.exists_digit
    exact List.cons_ne_nil c r
  | firstElement _ _ _ value => simp [value]
  | firstMember _ _ _ member => simp [member]
  | _ => simp

theorem Spelled.ends (h : Spelled part s) (hpart : part = .elements false ∨ part = .members false)
    (rest : Text) : Number.Ends (s ++ rest) := by
  have hend {g : Text} (hgap : Spaces g) {c : Char} (hc : c = ']' ∨ c = ',' ∨ c = '}')
      (r : Text) : Number.Ends (g ++ c :: r ++ rest) := by
    rw [List.append_assoc]
    refine Number.ends_append hgap ?_
    rintro _ _ ⟨⟩
    rcases hc with rfl | rfl | rfl <;> decide
  cases h with
  | closeList gap => exact hend gap (.inl rfl) []
  | nextElement gap => exact hend gap (.inr (.inl rfl)) _
  | closeObject gap => exact hend gap (.inr (.inr rfl)) []
  | nextMember gap => exact hend gap (.inr (.inl rfl)) _
  | _ => rcases hpart with h | h <;> cases h

theorem skipWithin_append (hgap : Spaces gap) (s : Text) :
    skipWithin calls (gap ++ s) = skipWithin calls s := by
  cases calls <;> simp only [skipWithin, skipSpace_append hgap]

theorem skipMember_append (hgap : Spaces gap) (s : Text) :
    skipMember calls (gap ++ s) = skipMember calls s := by
  cases calls <;> simp only [skipMember, skipSpace_append hgap]

theorem skipWithin_digit (hc : c.isDigit) :
    skipWithin (calls + 1) (c :: s) = Number.skip (c :: s) := by
  rw [skipWithin, skipSpace_cons (Reader.isSpace_of_isDigit hc)]
  simp [Numeral.ne_of_isDigit hc, Number.isDigit_eq, hc]

theorem skipElements_close (hgap : Spaces gap) :
    skipElements (calls + 1) first (gap ++ ']' :: s) = .ok s := by
  rw [skipElements, skipSpace_append hgap]
  rfl

theorem skipElements_first (hgap : Spaces gap) (hspace : isSpace c = false) (hc : c ≠ ']') :
    skipElements (calls + 1) true (gap ++ c :: s) =
      skipWithin calls (c :: s) >>= skipElements calls false := by
  rw [skipElements, skipSpace_append hgap, skipSpace_cons hspace]
  exact if_neg hc

theorem skipElements_next (hgap : Spaces gap) :
    skipElements (calls + 1) false (gap ++ ',' :: s) =
      skipWithin calls s >>= skipElements calls false := by
  rw [skipElements, skipSpace_append hgap]
  rfl

theorem skipMembers_close (hgap : Spaces gap) :
    skipMembers (calls + 1) first (gap ++ '}' :: s) = .ok s := by
  rw [skipMembers, skipSpace_append hgap]
  rfl

theorem skipMembers_first (hgap : Spaces gap) :
    skipMembers (calls + 1) true (gap ++ '"' :: s) =
      skipMember calls ('"' :: s) >>= skipMembers calls false := by
  rw [skipMembers, skipSpace_append hgap]
  rfl

theorem skipMembers_next (hgap : Spaces gap) :
    skipMembers (calls + 1) false (gap ++ ',' :: s) =
      skipMember calls s >>= skipMembers calls false := by
  rw [skipMembers, skipSpace_append hgap]
  rfl

theorem skipMember_colon (name : StringText body) (hgap : Spaces gap) :
    skipMember (calls + 1) ('"' :: (body ++ '"' :: (gap ++ ':' :: s))) = skipWithin calls s := by
  rw [skipMember, skipSpace_cons (by decide)]
  simp only [name.skipString, bind, Except.bind, skipSpace_append hgap]
  rw [skipSpace_cons (by decide)]
  rfl

theorem exists_succ (hs : s ≠ []) (hcalls : 2 * s.length ≤ calls) : ∃ k, calls = k + 1 := by
  have := List.length_pos_iff.mpr hs
  exact Nat.exists_eq_add_one.mpr (by omega)

theorem Spelled.skip (h : Spelled part s) (hcalls : 2 * s.length ≤ calls)
    (hrest : Number.Ends rest) : part.skip calls (s ++ rest) = .ok rest := by
  induction h generalizing calls rest with
  | null =>
    obtain ⟨calls, rfl⟩ := exists_succ Spelled.null.ne_nil hcalls
    rfl
  | bool b =>
    obtain ⟨calls, rfl⟩ := exists_succ (Spelled.bool b).ne_nil hcalls
    cases b <;> rfl
  | string body =>
    obtain ⟨calls, rfl⟩ := exists_succ (by simp) hcalls
    rw [List.cons_append, List.append_assoc]
    exact body.skipString rest
  | number unsigned =>
    obtain ⟨calls, rfl⟩ := exists_succ (Spelled.number unsigned).ne_nil hcalls
    have hskip := unsigned.skip hrest
    obtain ⟨c, r, rfl, hc⟩ := unsigned.exists_digit
    exact (skipWithin_digit hc).trans hskip
  | negative unsigned =>
    obtain ⟨calls, rfl⟩ := exists_succ (by simp) hcalls
    exact unsigned.skip hrest
  | list _ ih =>
    obtain ⟨calls, rfl⟩ := exists_succ (by simp) hcalls
    exact ih (by rw [List.length_cons] at hcalls; omega) hrest
  | object _ ih =>
    obtain ⟨calls, rfl⟩ := exists_succ (by simp) hcalls
    exact ih (by rw [List.length_cons] at hcalls; omega) hrest
  | member name gap gap' _ ih =>
    obtain ⟨calls, rfl⟩ := exists_succ (by simp) hcalls
    simp only [List.append_assoc, List.cons_append, List.length_append, List.length_cons]
      at hcalls ⊢
    rw [Part.skip, skipMember_colon name gap, skipWithin_append gap']
    exact ih (by omega) hrest
  | closeList gap =>
    obtain ⟨calls, rfl⟩ := exists_succ (by simp) hcalls
    rw [List.append_assoc]
    exact skipElements_close gap
  | closeObject gap =>
    obtain ⟨calls, rfl⟩ := exists_succ (by simp) hcalls
    rw [List.append_assoc]
    exact skipMembers_close gap
  | @firstElement g v t gap value tail valueSkip tailSkip =>
    obtain ⟨calls, rfl⟩ := exists_succ (by simp [value.ne_nil]) hcalls
    have hv := List.length_pos_iff.mpr value.ne_nil
    have ht := List.length_pos_iff.mpr tail.ne_nil
    simp only [List.append_assoc, List.length_append] at hcalls ⊢
    have hvalue : skipWithin calls (v ++ (t ++ rest)) = .ok (t ++ rest) :=
      valueSkip (by omega) (tail.ends (.inl rfl) rest)
    have htail : skipElements calls false (t ++ rest) = .ok rest := tailSkip (by omega) hrest
    obtain ⟨c, r, rfl, hspace, hc⟩ := value.exists_head
    rw [Part.skip, List.cons_append, skipElements_first gap hspace hc, ← List.cons_append, hvalue]
    exact htail
  | @nextElement g g' v t gap gap' value tail valueSkip tailSkip =>
    obtain ⟨calls, rfl⟩ := exists_succ (by simp) hcalls
    have hv := List.length_pos_iff.mpr value.ne_nil
    simp only [List.append_assoc, List.cons_append, List.length_append, List.length_cons]
      at hcalls ⊢
    have hvalue : skipWithin calls (v ++ (t ++ rest)) = .ok (t ++ rest) :=
      valueSkip (by omega) (tail.ends (.inl rfl) rest)
    have htail : skipElements calls false (t ++ rest) = .ok rest := tailSkip (by omega) hrest
    rw [Part.skip, skipElements_next gap, skipWithin_append gap', hvalue]
    exact htail
  | @firstMember g m t gap member tail memberSkip tailSkip =>
    obtain ⟨calls, rfl⟩ := exists_succ (by simp [member.ne_nil]) hcalls
    have ht := List.length_pos_iff.mpr tail.ne_nil
    have hm := List.length_pos_iff.mpr member.ne_nil
    simp only [List.append_assoc, List.length_append] at hcalls ⊢
    have hmember : skipMember calls (m ++ (t ++ rest)) = .ok (t ++ rest) :=
      memberSkip (by omega) (tail.ends (.inr rfl) rest)
    have htail : skipMembers calls false (t ++ rest) = .ok rest := tailSkip (by omega) hrest
    obtain ⟨r, rfl⟩ := member.exists_quote
    rw [Part.skip, List.cons_append, skipMembers_first gap, ← List.cons_append, hmember]
    exact htail
  | @nextMember g g' m t gap gap' member tail memberSkip tailSkip =>
    obtain ⟨calls, rfl⟩ := exists_succ (by simp) hcalls
    have hm := List.length_pos_iff.mpr member.ne_nil
    simp only [List.append_assoc, List.cons_append, List.length_append, List.length_cons]
      at hcalls ⊢
    have hmember : skipMember calls (m ++ (t ++ rest)) = .ok (t ++ rest) :=
      memberSkip (by omega) (tail.ends (.inr rfl) rest)
    have htail : skipMembers calls false (t ++ rest) = .ok rest := tailSkip (by omega) hrest
    rw [Part.skip, skipMembers_next gap, skipMember_append gap', hmember]
    exact htail

def Stops (s rest : Text) : Prop := ∀ calls, 2 * s.length ≤ calls → skipWithin calls s = .ok rest

theorem Spelled.stops (h : Spelled .value v) (hgap : Spaces gap) (hrest : Number.Ends rest) :
    Stops (gap ++ (v ++ rest)) rest := by
  intro calls hcalls
  simp only [List.length_append] at hcalls
  rw [skipWithin_append hgap]
  exact h.skip (by omega) hrest

theorem Stops.unique (h : Stops s rest) (h' : Stops s t) : rest = t := by
  have := (h _ (Nat.le_refl _)).symm.trans (h' _ (Nat.le_refl _))
  exact Except.ok.inj this

theorem Stops.skipValue (h : Stops s rest) : skipValue s = .ok rest := h _ (by omega)

end Parts

end ForumClient.Json
