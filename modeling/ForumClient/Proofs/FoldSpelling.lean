import ForumClient.Proofs.FoldText
import ForumClient.Proofs.JsonNumeral
import Mathlib.Data.List.Forall2

namespace ForumClient

open Json

namespace FoldMap

inductive SpellsEntry : Text × Millis → Text → Prop
  | mk (before : Spaces g₁) (key : SpellsText k body) (colon : Spaces g₂) (value : Spaces g₃)
      (after : Spaces g₄) : SpellsEntry (k, stamp)
        (g₁ ++ '"' :: (body ++ '"' :: (g₂ ++ ':' :: (g₃ ++ (writeInt stamp.toInt ++ g₄)))))

inductive Spells : List (Text × Millis) → Text → Prop
  | empty (before : Spaces g) (within : Spaces g') (after : Spaces g'') :
      Spells [] (g ++ '{' :: (g' ++ '}' :: g''))
  | entries (some : es ≠ []) (spells : List.Forall₂ SpellsEntry es pieces) (before : Spaces g)
      (after : Spaces g') : Spells es (g ++ '{' :: (Text.joinWith [','] pieces ++ '}' :: g'))

variable {t t' : Table Text Millis} {key body s rest gap gap' after tail piece : Text}
  {e : Text × Millis} {es : List (Text × Millis)} {pieces : List Text} {m : FoldMap}

theorem readMember_eq_ok_iff : readMember t key s = .ok (t', rest) ↔
    ∃ stamp : Millis, t' = t.put key stamp ∧ Number.Ends rest ∧
      ∃ gap gap', Spaces gap ∧ Spaces gap' ∧
        s = gap ++ ':' :: (gap' ++ (writeInt stamp.toInt ++ rest)) := by
  constructor
  · intro h
    obtain ⟨⟨z, rest'⟩, hread, h⟩ := map_eq_ok_iff.mp h
    obtain ⟨rfl, rfl⟩ := Prod.mk.inj h
    obtain ⟨gap, r, hgap, rfl, hinteger⟩ := Reader.afterColon_eq_ok_iff.mp hread
    obtain ⟨⟨hlow, hhigh⟩, hends, gap', hgap', rfl⟩ := Reader.integer_eq_ok_iff.mp hinteger
    refine ⟨.ofInt z, rfl, hends, gap, gap', hgap, hgap', ?_⟩
    rw [Int64.toInt_ofInt_of_le hlow hhigh]
  · rintro ⟨stamp, rfl, hends, gap, gap', hgap, hgap', rfl⟩
    have hinteger := Reader.integer_eq_ok_iff.mpr
      ⟨⟨stamp.le_toInt, stamp.toInt_lt⟩, hends, gap', hgap', rfl⟩
    rw [readMember, Reader.afterColon_eq_ok_iff.mpr ⟨gap, _, hgap, rfl, hinteger⟩]
    simp [Except.map]

theorem length_of_readMember (h : readMember t key s = .ok (t', rest)) :
    rest.length ≤ s.length := by
  obtain ⟨stamp, -, -, gap, gap', -, -, rfl⟩ := readMember_eq_ok_iff.mp h
  simp only [List.length_append, List.length_cons]
  omega

theorem ends_of_pieces (hgap : Spaces gap) (pieces : List Text) (rest : Text) :
    Number.Ends (gap ++ (pieces.flatMap (',' :: ·) ++ '}' :: rest)) := by
  cases pieces with
  | nil => exact Number.ends_of_spaces hgap (.inr rfl) rest
  | cons piece pieces => exact Number.ends_of_spaces hgap (.inl rfl) _

theorem exists_entry (hgap : Spaces gap) (hkey : SpellsText key body)
    (head : readMember t key after = .ok (t', gap' ++ tail)) (hgap' : Spaces gap') :
    ∃ stamp piece, SpellsEntry (key, stamp) piece ∧ t' = t.put key stamp ∧
      gap ++ '"' :: (body ++ '"' :: after) = piece ++ tail := by
  obtain ⟨stamp, rfl, -, gap₂, gap₃, hgap₂, hgap₃, rfl⟩ := readMember_eq_ok_iff.mp head
  exact ⟨stamp, _, .mk hgap hkey hgap₂ hgap₃ hgap', rfl, by simp⟩

theorem SpellsEntry.exists_readMember (h : SpellsEntry e piece) (pieces : List Text) (rest : Text) :
    ∃ gap body after gap', Spaces gap ∧ SpellsText e.1 body ∧ Spaces gap' ∧
      piece ++ (pieces.flatMap (',' :: ·) ++ '}' :: rest) = gap ++ '"' :: (body ++ '"' :: after) ∧
      ∀ t, readMember t e.1 after =
        .ok (t.put e.1 e.2, gap' ++ (pieces.flatMap (',' :: ·) ++ '}' :: rest)) := by
  obtain @⟨gap, key, body, gap₂, gap₃, gap', stamp, hgap, hkey, hgap₂, hgap₃, hgap'⟩ := h
  refine ⟨gap, body, _, gap', hgap, hkey, hgap', ?_, fun t => readMember_eq_ok_iff.mpr
    ⟨stamp, rfl, ends_of_pieces hgap' pieces rest, gap₂, gap₃, hgap₂, hgap₃, rfl⟩⟩
  simp

theorem exists_of_takesMembers (h : TakesMembers readMember false t s t' rest) :
    ∃ gap es pieces, Spaces gap ∧ List.Forall₂ SpellsEntry es pieces ∧
      s = gap ++ (pieces.flatMap (',' :: ·) ++ '}' :: rest) ∧
      t' = es.foldl (fun t e => t.put e.1 e.2) t := by
  generalize hfirst : false = first at h
  induction h with
  | @close gap first t rest hgap => exact ⟨gap, [], [], hgap, .nil, rfl, rfl⟩
  | first => cases hfirst
  | @next gap gap' key body t after t₁ after' t' rest hgap hgap' hkey head _ ih =>
    -- White space in front of what follows belongs to this entry.
    obtain ⟨gap'', es, pieces, hgap'', hpieces, rfl, ht'⟩ := ih rfl
    obtain ⟨stamp, piece, hentry, rfl, htext⟩ := exists_entry hgap' hkey head hgap''
    refine ⟨gap, (key, stamp) :: es, piece :: pieces, hgap, .cons hentry hpieces, ?_, ht'⟩
    rw [htext, List.flatMap_cons]
    simp

theorem takesMembers_of_pieces (h : List.Forall₂ SpellsEntry es pieces) (hgap : Spaces gap)
    (t : Table Text Millis) (rest : Text) :
    TakesMembers readMember false t (gap ++ (pieces.flatMap (',' :: ·) ++ '}' :: rest))
      (es.foldl (fun t e => t.put e.1 e.2) t) rest := by
  induction h generalizing gap t with
  | nil => exact .close hgap
  | @cons e piece es pieces hentry _ ih =>
    obtain ⟨gap', body, after, gap'', hgap', hkey, hgap'', htext, head⟩ :=
      hentry.exists_readMember pieces rest
    rw [List.flatMap_cons, List.append_assoc, List.cons_append, htext]
    exact .next hgap hgap' hkey (head t) (ih hgap'' _)

theorem takesMembers_iff : TakesMembers readMember true t s t' rest ↔
    (∃ gap, Spaces gap ∧ s = gap ++ '}' :: rest ∧ t' = t) ∨
      ∃ es pieces, es ≠ [] ∧ List.Forall₂ SpellsEntry es pieces ∧
        s = Text.joinWith [','] pieces ++ '}' :: rest ∧
        t' = es.foldl (fun t e => t.put e.1 e.2) t := by
  constructor
  · intro h
    cases h with
    | close hgap => exact .inl ⟨_, hgap, rfl, rfl⟩
    | @first gap key body _ after t₁ after' _ _ hgap hkey head tail =>
      obtain ⟨gap', es, pieces, hgap', hpieces, rfl, rfl⟩ := exists_of_takesMembers tail
      obtain ⟨stamp, piece, hentry, rfl, htext⟩ := exists_entry hgap hkey head hgap'
      refine .inr ⟨(key, stamp) :: es, piece :: pieces, by simp, .cons hentry hpieces, ?_, rfl⟩
      rw [htext, joinWith_comma, List.append_assoc]
  · rintro (⟨gap, hgap, rfl, rfl⟩ | ⟨es, pieces, hsome, hpieces, rfl, rfl⟩)
    · exact .close hgap
    · cases hpieces with
      | nil => exact absurd rfl hsome
      | @cons e piece es pieces hentry hpieces =>
        obtain ⟨gap, body, after, gap', hgap, hkey, hgap', htext, head⟩ :=
          hentry.exists_readMember pieces rest
        rw [joinWith_comma, List.append_assoc, htext]
        exact .first hgap hkey (head t) (takesMembers_of_pieces hpieces hgap' _ rest)

theorem reader_eq_ok_iff : reader s = .ok (m, rest) ↔
    ∃ gap r, Spaces gap ∧ s = gap ++ '{' :: r ∧
      TakesMembers readMember true .empty r m.table rest := by
  have hshort : ∀ t key s t' rest, readMember t key s = .ok (t', rest) → rest.length ≤ s.length :=
    fun _ _ _ _ _ => length_of_readMember
  constructor
  · intro h
    rw [reader, atValue] at h
    split at h
    · cases h
    · split at h
      · next r hs =>
        obtain ⟨-, gap, hgap, rfl⟩ := skipSpace_eq_cons_iff.mp hs
        obtain ⟨⟨t, rest'⟩, hmembers, h⟩ := map_eq_ok_iff.mp h
        obtain ⟨rfl, rfl⟩ := Prod.mk.inj h
        exact ⟨gap, r, hgap, rfl, (members_eq_ok_iff hshort).mp hmembers⟩
      · cases h
  · rintro ⟨gap, r, hgap, rfl, h⟩
    rw [reader, Reader.atValue_append _ hgap, atValue, skipSpace_cons (by decide)]
    simp [(members_eq_ok_iff hshort).mpr h, Except.map]

theorem exists_of_reader (h : reader s = .ok (m, rest)) (hrest : Spaces rest) :
    ∃ es, Spells es s ∧ m = ⟨.ofList es⟩ := by
  obtain ⟨gap, r, hgap, rfl, hmembers⟩ := reader_eq_ok_iff.mp h
  obtain ⟨table⟩ := m
  rcases takesMembers_iff.mp hmembers with
    ⟨gap', hgap', rfl, rfl⟩ | ⟨es, pieces, hsome, hpieces, rfl, rfl⟩
  · exact ⟨[], .empty hgap hgap' hrest, rfl⟩
  · exact ⟨es, .entries hsome hpieces hgap hrest, rfl⟩

theorem Spells.exists_reader (h : Spells es s) :
    ∃ rest, Spaces rest ∧ reader s = .ok (⟨.ofList es⟩, rest) := by
  cases h with
  | empty before within after =>
    exact ⟨_, after, reader_eq_ok_iff.mpr
      ⟨_, _, before, rfl, takesMembers_iff.mpr (.inl ⟨_, within, rfl, rfl⟩)⟩⟩
  | entries some spells before after =>
    exact ⟨_, after, reader_eq_ok_iff.mpr
      ⟨_, _, before, rfl, takesMembers_iff.mpr (.inr ⟨es, _, some, spells, rfl, rfl⟩)⟩⟩

theorem ofJson_eq_ok_iff {json : String} :
    ofJson json = .ok m ↔ ∃ es, Spells es json.toList ∧ m = ⟨.ofList es⟩ := by
  have hrun : ofJson json = .ok m ↔ Reader.run reader json.toList = .ok m := by
    rw [ofJson]
    cases Reader.run reader json.toList <;> simp
  rw [hrun, Reader.run_eq_ok_iff]
  constructor
  · rintro ⟨rest, hrest, h⟩
    exact exists_of_reader h hrest
  · rintro ⟨es, hes, rfl⟩
    exact hes.exists_reader

/-- A map survives its text, in whichever order its entries are written; so does any map that was
read; and a text is read exactly if it spells entries, as the map that they make up. -/
theorem reads_what_it_writes (m : FoldMap) :
    (∀ es : List (Text × Millis), es.Perm m.table.entries →
      ofJson (String.ofList (writeObject (es.map member))) = .ok m) ∧
    (∀ json, ofJson json = .ok m → ofJson m.toJson = .ok m) ∧
    ∀ json, ofJson json = .ok m ↔ ∃ es, Spells es json.toList ∧ m = ⟨.ofList es⟩ :=
  ⟨fun _ h => ofJson_of_perm h, fun _ _ => ofJson_toJson m, fun _ => ofJson_eq_ok_iff⟩

def hostile : FoldMap :=
  ⟨.ofList [([], Int64.minValue), (['"', '\\', '\x00', '𝄞'], Int64.maxValue)]⟩

def hostileText : String :=
  "\x7b \"\" : 7, \"\\u0022\\\\\\u0000\\uD834\\udd1e\"\n: 9223372036854775807" ++
    "\t, \"\":-9223372036854775808\x7d "

theorem hostile_kept :
    hostile.table.entries.reverse.Perm hostile.table.entries ∧
    ofJson (String.ofList (writeObject (hostile.table.entries.reverse.map member))) =
      .ok hostile ∧
    ofJson hostileText = .ok hostile ∧ ofJson hostile.toJson = .ok hostile ∧
    ∃ es, Spells es hostileText.toList ∧ hostile = ⟨.ofList es⟩ := by
  have hperm : hostile.table.entries.reverse.Perm hostile.table.entries := List.reverse_perm _
  have hread : ofJson hostileText = .ok hostile := by decide +kernel
  obtain ⟨kept, again, spelled⟩ := reads_what_it_writes hostile
  exact ⟨hperm, kept _ hperm, hread, again _ hread, (spelled _).mp hread⟩

end FoldMap

end ForumClient
