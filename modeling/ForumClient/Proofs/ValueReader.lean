import ForumClient.Proofs.JsonValue

namespace ForumClient.Json

inductive SpellsMember : Text → Text → Text → Prop
  | mk (name : SpellsText n body) (gap : Spaces g) (gap' : Spaces g') (value : Spelled .value v) :
      SpellsMember n v ('"' :: (body ++ '"' :: (g ++ ':' :: (g' ++ v))))

inductive SpellsMembers : (first : Bool) → List (Text × Text) → Text → Prop
  | close (gap : Spaces g) : SpellsMembers first [] (g ++ ['}'])
  | first (gap : Spaces g) (member : SpellsMember n v m) (tail : SpellsMembers false ms t) :
      SpellsMembers true ((n, v) :: ms) (g ++ (m ++ t))
  | next (gap : Spaces g) (gap' : Spaces g') (member : SpellsMember n v m)
      (tail : SpellsMembers false ms t) :
      SpellsMembers false ((n, v) :: ms) (g ++ ',' :: (g' ++ (m ++ t)))

def SpellsObject (ms : List (Text × Text)) (s : Text) : Prop :=
  ∃ gap t gap', Spaces gap ∧ SpellsMembers true ms t ∧ Spaces gap' ∧
    s = gap ++ '{' :: (t ++ gap')

variable {s rest gap v body : Text} {c : Char}

theorem word_eq_ok_iff {w : Text} : word w s = .ok rest ↔ s = w ++ rest := by
  induction w generalizing s with
  | nil =>
    rw [word, List.nil_append]
    exact ⟨fun h => Except.ok.inj h, fun h => congrArg _ h⟩
  | cons e w ih =>
    cases s with
    | nil => simp [word]
    | cons c s =>
      rw [word, List.cons_append]
      split
      · next h => rw [ih, h, List.cons.injEq, and_iff_right rfl]
      · next h => simp [h]

theorem spaces_nil : Spaces [] := nofun

theorem skipSpace_skipSpace (s : Text) : skipSpace (skipSpace s) = skipSpace s := by
  obtain ⟨gap, hgap, hs⟩ := exists_spaces s
  rw [← skipSpace_append hgap, ← hs]

theorem stops_of_skipSpace (h : Stops (skipSpace s) rest) : Stops s rest := by
  obtain ⟨gap, hgap, hs⟩ := exists_spaces s
  intro calls hcalls
  rw [hs, skipWithin_append hgap]
  refine h calls ?_
  rw [hs, List.length_append] at hcalls
  omega

theorem stops_bool (b : Bool) (rest : Text) : Stops (writeBool b ++ rest) rest := by
  intro calls hcalls
  obtain ⟨calls, rfl⟩ := exists_succ (by cases b <;> simp [writeBool]) hcalls
  cases b <;> rfl

theorem stops_null (rest : Text) : Stops ("null".toList ++ rest) rest := by
  intro calls hcalls
  obtain ⟨calls, rfl⟩ := exists_succ (by simp) hcalls
  rfl

theorem stops_string (h : StringText body) (rest : Text) :
    Stops ('"' :: (body ++ '"' :: rest)) rest := by
  intro calls hcalls
  obtain ⟨calls, rfl⟩ := exists_succ (by simp) hcalls
  exact h.skipString rest

theorem unsigned_write (n : Nat) : Unsigned (Numeral.write n) := by
  simpa using Unsigned.mk (Numeral.plain_write n) .none .none

namespace Reader

structure Takes (read : Reader α) (spells : α → Text → Prop) : Prop where
  complete : ∀ {gap a v rest}, Spaces gap → spells a v → Number.Ends rest →
    read (gap ++ (v ++ rest)) = .ok (a, rest)
  sound : ∀ {s a rest}, read s = .ok (a, rest) →
    ∃ v, spells a v ∧ skipSpace s = v ++ rest ∧ Stops s rest

variable {read : Reader α} {spells : α → Text → Prop} {a : α}

theorem Takes.eq_ok_iff (h : Takes read spells) (hgap : Spaces gap) (hv : Spelled .value v)
    (hrest : Number.Ends rest) :
    read (gap ++ (v ++ rest)) = .ok (a, s) ↔ s = rest ∧ spells a v := by
  constructor
  · intro hread
    obtain ⟨w, hw, hs, hstops⟩ := h.sound hread
    -- Stepping over has one result, so both end at the same place.
    obtain rfl := hstops.unique (hv.stops hgap hrest)
    obtain ⟨c, r, rfl, hspace, -⟩ := hv.exists_head
    rw [skipSpace_append hgap, List.cons_append, skipSpace_cons hspace, ← List.cons_append] at hs
    exact ⟨rfl, List.append_cancel_right hs ▸ hw⟩
  · rintro ⟨rfl, hv⟩
    exact h.complete hgap hv hrest

theorem skipped_eq_ok (hgap : Spaces gap) (hv : Spelled .value v) (hrest : Number.Ends rest) :
    skipped (gap ++ (v ++ rest)) = .ok ((), rest) := by
  rw [skipped, (hv.stops hgap hrest).skipValue]
  rfl

theorem takes_bool : Takes bool fun b v => v = writeBool b where
  complete := by
    rintro gap b v rest hgap rfl -
    rw [bool, atValue_append _ hgap]
    exact bool_writeBool b rest
  sound := by
    intro s b rest h
    rw [bool, atValue] at h
    split at h
    · cases h
    · split at h
      · next r hs =>
        obtain ⟨_, hword, h⟩ := map_eq_ok_iff.mp h
        cases h
        rw [word_eq_ok_iff.mp hword] at hs
        exact ⟨_, rfl, hs, stops_of_skipSpace (hs ▸ stops_bool true rest)⟩
      · next r hs =>
        obtain ⟨_, hword, h⟩ := map_eq_ok_iff.mp h
        cases h
        rw [word_eq_ok_iff.mp hword] at hs
        exact ⟨_, rfl, hs, stops_of_skipSpace (hs ▸ stops_bool false rest)⟩
      · cases h

theorem Takes.of_iff {spells' : α → Text → Prop} (h : Takes read spells)
    (hiff : ∀ a v, spells' a v ↔ spells a v) : Takes read spells' := by
  obtain rfl : spells' = spells := funext fun a => funext fun v => propext (hiff a v)
  exact h

theorem Takes.map (h : Takes read spells) (g : α → β) :
    Takes (fun s => (read s).map fun (a, r) => (g a, r)) fun b v => ∃ a, spells a v ∧ g a = b where
  complete := by
    rintro gap b v rest hgap ⟨a, ha, rfl⟩ hrest
    rw [h.complete hgap ha hrest]
    rfl
  sound := by
    intro s b rest hread
    obtain ⟨⟨a, r⟩, hread, e⟩ := map_eq_ok_iff.mp hread
    cases e
    obtain ⟨v, hv, hs, hstops⟩ := h.sound hread
    exact ⟨v, ⟨a, hv, rfl⟩, hs, hstops⟩

def SpellsString (t v : Text) : Prop := ∃ body, SpellsText t body ∧ v = '"' :: (body ++ ['"'])

theorem takes_string : Takes string SpellsString where
  complete := by
    rintro gap t v rest hgap ⟨body, hbody, rfl⟩ -
    rw [string, atValue_append _ hgap, List.cons_append, List.append_assoc, atValue,
      skipSpace_cons (by decide)]
    exact hbody.stringBody rest
  sound := by
    intro s t rest h
    rw [string, atValue] at h
    split at h
    · cases h
    · split at h
      · next r hs =>
        obtain ⟨body, hbody, rfl⟩ := exists_of_stringBody h
        refine ⟨_, ⟨body, hbody, rfl⟩, by simp [hs], ?_⟩
        exact stops_of_skipSpace (hs ▸ stops_string hbody.stringText rest)
      · cases h

theorem takes_natural (expected : String) {limit : Nat} (hlimit : limit ≤ Number.significandLimit) :
    Takes (natural expected limit) fun n v => n < limit ∧ v = Numeral.write n where
  complete := by
    rintro gap n v rest hgap ⟨hn, rfl⟩ hrest
    have hread := natural_write expected hn hlimit hrest
    rw [natural, number] at hread ⊢
    rwa [atValue_append _ hgap]
  sound := by
    intro s n rest h
    obtain ⟨m, haccept, hread⟩ := exists_of_number h
    rcases hread with ⟨r, -, hread⟩ | hread
    · obtain ⟨f, rfl⟩ | ⟨k, -, rfl, -⟩ := Number.read_cases hread
      · cases haccept
      · rw [Number.whole, if_neg Bool.false_ne_true] at haccept
        by_cases hk : k ≠ 0 ∧ k ≤ Number.signedLimit
        · rw [if_pos hk] at haccept
          cases haccept
        · rw [if_neg hk] at haccept
          cases haccept
    · obtain ⟨f, rfl⟩ | ⟨k, -, rfl, hs, hends⟩ := Number.read_cases hread
      · cases haccept
      · rw [Number.whole, if_pos rfl] at haccept
        dsimp only at haccept
        split at haccept
        · next hk =>
          cases haccept
          refine ⟨_, ⟨hk, rfl⟩, hs, stops_of_skipSpace ?_⟩
          rw [hs]
          exact (Spelled.number (unsigned_write n)).stops spaces_nil hends
        · cases haccept

def OrNull (spells : α → Text → Prop) : Option α → Text → Prop
  | none, v => v = "null".toList
  | some a, v => spells a v

theorem orNull_map_iff {spells' : β → Text → Prop} {g : α → β}
    (hg : ∀ b v, spells' b v ↔ ∃ a, spells a v ∧ g a = b) (b : Option β) (v : Text) :
    OrNull spells' b v ↔ ∃ a, OrNull spells a v ∧ a.map g = b := by
  cases b with
  | none => simp [OrNull]
  | some b => simp [OrNull, Option.exists, hg]

theorem Takes.optional (h : Takes read spells)
    (hhead : ∀ a v, spells a v → ∃ c r, v = c :: r ∧ isSpace c = false ∧ c ≠ 'n') :
    Takes (optional read) (OrNull spells) where
  complete := by
    rintro gap (- | a) v rest hgap hv hrest
    · obtain rfl : v = _ := hv
      rw [Reader.optional, skipSpace_append hgap]
      rfl
    · have hread := h.complete spaces_nil hv hrest
      obtain ⟨c, r, rfl, hspace, hnull⟩ := hhead a v hv
      have hoptional := optional_of_read hspace hnull hread
      rw [Reader.optional, skipSpace_append hgap]
      exact hoptional
  sound := by
    intro s a rest h'
    rw [Reader.optional] at h'
    split at h'
    · next r hs =>
      obtain ⟨_, hword, h'⟩ := map_eq_ok_iff.mp h'
      cases h'
      rw [word_eq_ok_iff.mp hword] at hs
      exact ⟨_, rfl, hs, stops_of_skipSpace (hs ▸ stops_null rest)⟩
    · obtain ⟨⟨b, _⟩, hread, h'⟩ := map_eq_ok_iff.mp h'
      cases h'
      obtain ⟨v, hv, hs, hstops⟩ := h.sound hread
      refine ⟨v, hv, ?_, stops_of_skipSpace hstops⟩
      rwa [skipSpace_skipSpace] at hs

end Reader

section Objects

variable {ms : List (Text × Text)} {first : Bool} {n t : Text}

theorem SpellsMembers.ends (h : SpellsMembers false ms t) (rest : Text) :
    Number.Ends (t ++ rest) := by
  cases h with
  | close gap =>
    rw [List.append_assoc]
    exact Number.ends_of_spaces gap (.inr rfl) rest
  | next gap =>
    rw [List.append_assoc]
    exact Number.ends_of_spaces gap (.inl rfl) _

def isPlain (c : Char) : Bool := c != '"' && c != '\\' && !(c.toNat < 0x20)

theorem spellsText_self (ht : t.all isPlain) : SpellsText t t := by
  induction t with
  | nil => exact .nil
  | cons c t ih =>
    simp only [List.all_cons, isPlain, Bool.and_eq_true, bne_iff_ne, Bool.not_eq_true',
      decide_eq_false_iff_not] at ht
    obtain ⟨⟨⟨quote, escape⟩, visible⟩, ht⟩ := ht
    exact .cons (.itself quote escape visible) (ih ht)

theorem spellsMember_self (hn : n.all isPlain) (hv : Spelled .value v) :
    SpellsMember n v ('"' :: (n ++ '"' :: ':' :: v)) :=
  .mk (spellsText_self hn) spaces_nil spaces_nil hv

theorem spellsText_flatMap (t : Text) : SpellsText t (t.flatMap escapeChar) := by
  obtain ⟨body, hbody, h⟩ := exists_of_stringBody (stringBody_flatMap t [])
  rwa [List.append_cancel_right h]

theorem spellsString_writeString (t : Text) : Reader.SpellsString t (writeString t) :=
  ⟨_, spellsText_flatMap t, rfl⟩

theorem Reader.SpellsString.spelled (h : Reader.SpellsString t v) : Spelled .value v := by
  obtain ⟨body, hbody, rfl⟩ := h
  exact .string hbody.stringText

theorem spellsMember_writeMember (m : Text × Text) (h : Spelled .value m.2) :
    SpellsMember m.1 m.2 (writeMember m) := by
  rw [writeMember, writeString_append]
  exact .mk (spellsText_flatMap m.1) spaces_nil spaces_nil h

theorem spellsMembers_flatMap (h : ∀ m ∈ ms, Spelled .value m.2) :
    SpellsMembers false ms (ms.flatMap (',' :: writeMember ·) ++ ['}']) := by
  induction ms with
  | nil => exact .close spaces_nil
  | cons m ms ih =>
    rw [List.forall_mem_cons] at h
    have hnext : SpellsMembers false (m :: ms) ([] ++ ',' :: ([] ++ (writeMember m ++ _))) :=
      .next spaces_nil spaces_nil (spellsMember_writeMember m h.1) (ih h.2)
    rw [List.flatMap_cons, List.append_assoc]
    exact hnext

theorem spellsObject_writeObject (m : Text × Text) (h : ∀ n ∈ m :: ms, Spelled .value n.2) :
    SpellsObject (m :: ms) (writeObject (m :: ms)) := by
  rw [List.forall_mem_cons] at h
  rw [writeObject_cons]
  have hfirst : SpellsMembers true (m :: ms) ([] ++ (writeMember m ++ _)) :=
    .first spaces_nil (spellsMember_writeMember m h.1) (spellsMembers_flatMap h.2)
  exact ⟨[], _, [], spaces_nil, hfirst, spaces_nil, by simp⟩

end Objects

end ForumClient.Json
