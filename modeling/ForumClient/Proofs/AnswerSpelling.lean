import ForumClient.Proofs.AnswerText
import ForumClient.Proofs.ValueReader

namespace ForumClient.Envelope

open Json

namespace Field

abbrev Value : Field → Type
  | success => Bool
  | error => Option ErrorCode
  | longid => Option UInt64
  | topic => Option UInt32
  | post => Option UInt16
  | modOperation => Option String

def get : (f : Field) → Envelope → f.Value
  | success, e => e.success
  | error, e => e.error
  | longid, e => e.longid
  | topic, e => e.topic
  | post, e => e.post
  | modOperation, e => e.modOperation

def set : (f : Field) → f.Value → Envelope → Envelope
  | success, b, e => { e with success := b }
  | error, c, e => { e with error := c }
  | longid, n, e => { e with longid := n }
  | topic, n, e => { e with topic := n }
  | post, n, e => { e with post := n }
  | modOperation, t, e => { e with modOperation := t }

def Spells : (f : Field) → f.Value → Text → Prop
  | success, b, v => v = writeBool b
  | error, c, v =>
    Reader.OrNull (fun c v => ∃ t, Reader.SpellsString t v ∧ ErrorCode.ofText (String.ofList t) = c)
      c v
  | longid, n, v => Reader.OrNull (fun n v => v = Numeral.write n.toNat) n v
  | topic, n, v => Reader.OrNull (fun n v => v = Numeral.write n.toNat) n v
  | post, n, v => Reader.OrNull (fun n v => v = Numeral.write n.toNat) n v
  | modOperation, t, v => Reader.OrNull (fun t v => Reader.SpellsString t.toList v) t v

def limit? : Field → Option Nat
  | longid => some UInt64.size
  | topic => some UInt32.size
  | post => some UInt16.size
  | _ => none

variable {f g : Field}

@[simp] theorem get_set (f : Field) (a : f.Value) (e : Envelope) : f.get (f.set a e) = a := by
  cases f <;> rfl

theorem get_set_of_ne (h : g ≠ f) (a : f.Value) (e : Envelope) : g.get (f.set a e) = g.get e := by
  cases f <;> cases g <;> first | rfl | exact absurd rfl h

theorem name_injective (h : f.name.toList = g.name.toList) : f = g := by
  have := ofName?_name f
  rw [h, ofName?_name] at this
  exact (Option.some.inj this).symm

theorem name_of_ofName? {name : Text} (h : ofName? name = some f) : name = f.name.toList := by
  have := List.find?_some h
  exact (beq_iff_eq.mp this).symm

end Field

theorem ext_get {e e' : Envelope} (h : ∀ f : Field, f.get e = f.get e') : e = e' := by
  cases e
  cases e'
  simp only [Envelope.mk.injEq]
  exact ⟨h .success, h .error, h .longid, h .topic, h .post, h .modOperation⟩

/-- Members say what an answer is: they give each field at most once and with a text of its value,
and a field that they omit is as it was before them. -/
structure Tells (x : Envelope) (ms : List (Text × Text)) (e : Envelope) : Prop where
  once (f : Field) : (ms.map Prod.fst).count f.name.toList ≤ 1
  given (f : Field) (v : Text) : (f.name.toList, v) ∈ ms → f.Spells (f.get e) v
  omitted (f : Field) : f.name.toList ∉ ms.map Prod.fst → f.get e = f.get x

structure TellsFrom (taken : List Field) (x : Envelope) (ms : List (Text × Text)) (e : Envelope) :
    Prop extends Tells x ms e where
  fresh (f : Field) : f ∈ taken → f.name.toList ∉ ms.map Prod.fst

section Members

variable {taken : List Field} {x e : Envelope} {ms : List (Text × Text)} {f : Field}
  {name v : Text}

theorem tellsFrom_nil_iff : TellsFrom taken x [] e ↔ e = x := by
  constructor
  · intro h
    exact ext_get fun f => h.omitted f (by simp)
  · rintro rfl
    exact ⟨⟨by simp, by simp, fun _ _ => rfl⟩, by simp⟩

theorem tellsFrom_iff_tells : TellsFrom [] x ms e ↔ Tells x ms e :=
  ⟨fun h => h.toTells, fun h => ⟨h, by simp⟩⟩

theorem tellsFrom_other (hname : Field.ofName? name = none) :
    TellsFrom taken x ((name, v) :: ms) e ↔ TellsFrom taken x ms e := by
  have hne (f : Field) : f.name.toList ≠ name := by
    rintro rfl
    rw [ofName?_name] at hname
    cases hname
  constructor
  · rintro ⟨⟨once, given, omitted⟩, fresh⟩
    simp only [List.map_cons, List.mem_cons, List.count_cons_of_ne (hne _).symm, hne, false_or,
      Prod.mk.injEq, false_and] at once given omitted fresh
    exact ⟨⟨once, given, omitted⟩, fresh⟩
  · rintro ⟨⟨once, given, omitted⟩, fresh⟩
    refine ⟨⟨?_, ?_, ?_⟩, ?_⟩ <;>
      simpa only [List.map_cons, List.mem_cons, List.count_cons_of_ne (hne _).symm, hne, false_or,
        Prod.mk.injEq, false_and]

theorem tellsFrom_field : TellsFrom taken x ((f.name.toList, v) :: ms) e ↔
    f ∉ taken ∧ ∃ a, f.Spells a v ∧ TellsFrom (f :: taken) (f.set a x) ms e := by
  constructor
  · intro h
    have hrest : f.name.toList ∉ ms.map Prod.fst := by
      have := h.once f
      rw [List.map_cons, List.count_cons_self] at this
      exact List.count_eq_zero.mp (by omega)
    refine ⟨fun hf => h.fresh f hf (by simp), f.get e, h.given f v (by simp), ⟨?_, ?_, ?_⟩, ?_⟩
    · intro g
      have := h.once g
      rw [List.map_cons, List.count_cons] at this
      omega
    · exact fun g w hw => h.given g w (List.mem_cons_of_mem _ hw)
    · intro g hg
      by_cases hgf : g = f
      · subst hgf
        rw [Field.get_set]
      · rw [Field.get_set_of_ne hgf]
        refine h.omitted g ?_
        rw [List.map_cons, List.mem_cons, not_or]
        exact ⟨fun hn => hgf (Field.name_injective hn), hg⟩
    · intro g hg
      rcases List.mem_cons.mp hg with rfl | hg
      · exact hrest
      · exact fun hmem => h.fresh g hg (List.mem_cons_of_mem _ hmem)
  · rintro ⟨hf, a, ha, h⟩
    have hrest := h.fresh f List.mem_cons_self
    have hget : f.get e = a := by rw [h.omitted f hrest, Field.get_set]
    refine ⟨⟨?_, ?_, ?_⟩, ?_⟩
    · intro g
      rw [List.map_cons, List.count_cons]
      by_cases hgf : g = f
      · subst hgf
        simp [List.count_eq_zero.mpr hrest]
      · have hne : f.name.toList ≠ g.name.toList := fun hn => hgf (Field.name_injective hn).symm
        simp [hne, h.once g]
    · intro g w hw
      rcases List.mem_cons.mp hw with hw | hw
      · obtain ⟨hn, rfl⟩ := Prod.mk.inj hw
        obtain rfl := Field.name_injective hn
        rwa [hget]
      · exact h.given g w hw
    · intro g hg
      rw [List.map_cons, List.mem_cons, not_or] at hg
      rw [h.omitted g hg.2, Field.get_set_of_ne fun hgf => hg.1 (by rw [hgf])]
    · intro g hg
      rw [List.map_cons, List.mem_cons, not_or]
      exact ⟨fun hn => hf (Field.name_injective hn ▸ hg), h.fresh g (List.mem_cons_of_mem _ hg)⟩

end Members

section Values

variable {f : Field} {e e' : Envelope} {v gap s rest : Text}

def Field.reader : (f : Field) → Reader f.Value
  | success, s => Reader.bool s
  | error, s => Reader.optional ErrorCode.reader s
  | longid, s =>
    (Reader.optional (Reader.natural "u64" UInt64.size) s).map fun (n, r) => (n.map UInt64.ofNat, r)
  | topic, s =>
    (Reader.optional (Reader.natural "u32" UInt32.size) s).map fun (n, r) => (n.map UInt32.ofNat, r)
  | post, s =>
    (Reader.optional (Reader.natural "u16" UInt16.size) s).map fun (n, r) => (n.map UInt16.ofNat, r)
  | modOperation, s => (Reader.optional Reader.string s).map fun (t, r) => (t.map String.ofList, r)

theorem readField_eq (e : Envelope) (f : Field) (s : Text) :
    e.readField f s = (f.reader s).map fun (a, r) => (f.set a e, r) := by
  cases f with
  | success => rfl
  | error => rfl
  | _ =>
    rw [readField, Field.reader]
    cases Reader.optional _ s <;> rfl

theorem takes_word {α : Type} (expected : String) {limit : Nat} {ofNat : Nat → α} {toNat : α → Nat}
    (hlimit : limit ≤ Number.significandLimit) (hlt : ∀ a, toNat a < limit)
    (hof : ∀ a, ofNat (toNat a) = a) (hto : ∀ n < limit, toNat (ofNat n) = n) :
    Reader.Takes (fun s => (Reader.optional (Reader.natural expected limit) s).map fun (n, r) =>
        (n.map ofNat, r))
      (Reader.OrNull fun a v => v = Numeral.write (toNat a)) := by
  have hhead (n : Nat) (v : Text) (h : n < limit ∧ v = Numeral.write n) :
      ∃ c r, v = c :: r ∧ isSpace c = false ∧ c ≠ 'n' := by
    obtain ⟨c, r, hw, hc⟩ := Reader.digit_cases (n := n)
    exact ⟨c, r, h.2.trans hw, Reader.isSpace_of_isDigit hc, Numeral.ne_of_isDigit hc (by decide)⟩
  refine (((Reader.takes_natural expected hlimit).optional hhead).map (Option.map ofNat)).of_iff
    (Reader.orNull_map_iff fun a v => ?_)
  constructor
  · rintro rfl
    exact ⟨toNat a, ⟨hlt a, rfl⟩, hof a⟩
  · rintro ⟨n, ⟨hn, rfl⟩, rfl⟩
    rw [hto n hn]

theorem head_of_spellsString {t : Text} (h : Reader.SpellsString t v) :
    ∃ c r, v = c :: r ∧ isSpace c = false ∧ c ≠ 'n' := by
  obtain ⟨body, -, rfl⟩ := h
  exact ⟨_, _, rfl, by decide⟩

theorem takes_reader (f : Field) : Reader.Takes f.reader f.Spells := by
  cases f with
  | success => exact Reader.takes_bool
  | error =>
    refine (Reader.takes_string.map fun t => ErrorCode.ofText (String.ofList t)).optional ?_
    rintro c v ⟨t, ht, -⟩
    exact head_of_spellsString ht
  | longid =>
    exact takes_word "u64" (by decide) UInt64.toNat_lt_size (fun _ => UInt64.ofNat_toNat)
      fun _ => UInt64.toNat_ofNat_of_lt
  | topic =>
    exact takes_word "u32" (by decide) UInt32.toNat_lt_size (fun _ => UInt32.ofNat_toNat)
      fun _ => UInt32.toNat_ofNat_of_lt
  | post =>
    exact takes_word "u16" (by decide) UInt16.toNat_lt_size (fun _ => UInt16.ofNat_toNat)
      fun _ => UInt16.toNat_ofNat_of_lt
  | modOperation =>
    refine ((Reader.takes_string.optional fun _ _ => head_of_spellsString).map
      (Option.map String.ofList)).of_iff (Reader.orNull_map_iff fun t v => ?_)
    constructor
    · exact fun h => ⟨_, h, String.ofList_toList⟩
    · rintro ⟨t, h, rfl⟩
      rwa [String.toList_ofList]

theorem readField_eq_ok_iff (hgap : Spaces gap) (hv : Spelled .value v) (hrest : Number.Ends rest) :
    e.readField f (gap ++ (v ++ rest)) = .ok (e', s) ↔
      s = rest ∧ ∃ a, f.Spells a v ∧ f.set a e = e' := by
  rw [readField_eq, map_eq_ok_iff]
  constructor
  · rintro ⟨⟨a, r⟩, hread, h⟩
    obtain ⟨rfl, ha⟩ := ((takes_reader f).eq_ok_iff hgap hv hrest).mp hread
    cases h
    exact ⟨rfl, a, ha, rfl⟩
  · rintro ⟨rfl, a, ha, rfl⟩
    exact ⟨(a, s), ((takes_reader f).eq_ok_iff hgap hv hrest).mpr ⟨rfl, ha⟩, rfl⟩

theorem exists_of_limit? {limit : Nat} (hf : f.limit? = some limit) {a : f.Value}
    (h : f.Spells a v) : v = "null".toList ∨ ∃ n < limit, v = Numeral.write n := by
  cases f with
  | longid =>
    cases hf
    exact a.casesOn .inl (fun n h => .inr ⟨n.toNat, n.toNat_lt_size, h⟩) h
  | topic =>
    cases hf
    exact a.casesOn .inl (fun n h => .inr ⟨n.toNat, n.toNat_lt_size, h⟩) h
  | post =>
    cases hf
    exact a.casesOn .inl (fun n h => .inr ⟨n.toNat, n.toNat_lt_size, h⟩) h
  | _ => cases hf

end Values

section Text

variable {taken : List Field} {x e : Envelope} {ms : List (Text × Text)} {first : Bool}
  {name v gap gap' s t rest : Text} {count : Nat}

theorem readMember_other (hname : Field.ofName? name = none) (hgap : Spaces gap)
    (hgap' : Spaces gap') (hv : Spelled .value v) (hrest : Number.Ends rest) :
    readMember (taken, x) name (gap ++ ':' :: (gap' ++ (v ++ rest))) = .ok ((taken, x), rest) := by
  rw [readMember, hname]
  dsimp only
  rw [Reader.afterColon_append hgap, Reader.skipped_eq_ok hgap' hv hrest]
  rfl

theorem readMember_field (f : Field) (hgap : Spaces gap) (hgap' : Spaces gap')
    (hv : Spelled .value v) (hrest : Number.Ends rest) {y : List Field × Envelope} :
    readMember (taken, x) f.name.toList (gap ++ ':' :: (gap' ++ (v ++ rest))) = .ok (y, s) ↔
      f ∉ taken ∧ s = rest ∧ ∃ a, f.Spells a v ∧ y = (f :: taken, f.set a x) := by
  rw [readMember, ofName?_name]
  dsimp only
  by_cases hf : f ∈ taken
  · rw [if_pos hf]
    constructor
    · intro h
      cases h
    · exact fun h => absurd hf h.1
  · rw [if_neg hf, Reader.afterColon_append hgap, map_eq_ok_iff, and_iff_right hf]
    constructor
    · rintro ⟨⟨e, r⟩, hread, h⟩
      obtain ⟨rfl, a, ha, rfl⟩ := (readField_eq_ok_iff hgap' hv hrest).mp hread
      cases h
      exact ⟨rfl, a, ha, rfl⟩
    · rintro ⟨rfl, a, ha, rfl⟩
      exact ⟨(f.set a x, s), (readField_eq_ok_iff hgap' hv hrest).mpr ⟨rfl, a, ha, rfl⟩, rfl⟩

theorem readMember_bind {next : List Field × Envelope → Reader (List Field × Envelope)}
    (hgap : Spaces gap) (hgap' : Spaces gap') (hv : Spelled .value v) (hrest : Number.Ends t)
    (hnext : ∀ taken x, (∃ taken', next (taken, x) t = .ok ((taken', e), s)) ↔
      s = rest ∧ TellsFrom taken x ms e) :
    (∃ taken', (readMember (taken, x) name (gap ++ ':' :: (gap' ++ (v ++ t))) >>=
        fun (y, s) => next y s) = .ok ((taken', e), s)) ↔
      s = rest ∧ TellsFrom taken x ((name, v) :: ms) e := by
  cases hname : Field.ofName? name with
  | none =>
    rw [readMember_other hname hgap hgap' hv hrest, tellsFrom_other hname]
    exact hnext taken x
  | some f =>
    obtain rfl := Field.name_of_ofName? hname
    rw [tellsFrom_field]
    simp only [bind_eq_ok_iff]
    constructor
    · rintro ⟨taken', ⟨y, r⟩, hread, h⟩
      obtain ⟨hf, rfl, a, ha, rfl⟩ := (readMember_field f hgap hgap' hv hrest).mp hread
      obtain ⟨rfl, h⟩ := (hnext _ _).mp ⟨taken', h⟩
      exact ⟨rfl, hf, a, ha, h⟩
    · rintro ⟨rfl, hf, a, ha, h⟩
      obtain ⟨taken', h⟩ := (hnext _ _).mpr ⟨rfl, h⟩
      refine ⟨taken', ((f :: taken, f.set a x), t), ?_, h⟩
      exact (readMember_field f hgap hgap' hv hrest).mpr ⟨hf, rfl, a, ha, rfl⟩

theorem membersWithin_iff (h : SpellsMembers first ms t) (hcount : t.length ≤ count) (rest : Text) :
    (∃ taken', Reader.membersWithin readMember count first (taken, x) (t ++ rest) =
        .ok ((taken', e), s)) ↔ s = rest ∧ TellsFrom taken x ms e := by
  induction h generalizing taken x count with
  | close gap =>
    obtain ⟨count, rfl⟩ : ∃ k, count = k + 1 := by
      rw [List.length_append, List.length_singleton] at hcount
      exact Nat.exists_eq_add_one.mpr (by omega)
    rw [List.append_assoc, tellsFrom_nil_iff]
    simp only [List.cons_append, List.nil_append, membersWithin_close gap, Except.ok.injEq,
      Prod.mk.injEq]
    constructor
    · rintro ⟨taken', ⟨-, rfl⟩, rfl⟩
      exact ⟨rfl, rfl⟩
    · rintro ⟨rfl, rfl⟩
      exact ⟨taken, ⟨rfl, rfl⟩, rfl⟩
  | first gap member tail ih =>
    obtain ⟨name, colon, after, value⟩ := member
    simp only [List.append_assoc, List.cons_append, List.length_append, List.length_cons]
      at hcount ⊢
    obtain ⟨count, rfl⟩ : ∃ k, count = k + 1 := Nat.exists_eq_add_one.mpr (by omega)
    simp only [membersWithin_quote gap name]
    exact readMember_bind colon after value (tail.ends rest) fun _ _ => ih (by omega)
  | next gap gap' member tail ih =>
    obtain ⟨name, colon, after, value⟩ := member
    simp only [List.append_assoc, List.cons_append, List.length_append, List.length_cons]
      at hcount ⊢
    obtain ⟨count, rfl⟩ : ∃ k, count = k + 1 := Nat.exists_eq_add_one.mpr (by omega)
    simp only [membersWithin_comma gap gap' name]
    exact readMember_bind colon after value (tail.ends rest) fun _ _ => ih (by omega)

theorem parse_eq_ok_iff {body : String} (h : SpellsObject ms body.toList) :
    parse body = .ok e ↔ Tells {} ms e := by
  obtain ⟨gap, t, gap', hgap, hmembers, hgap', hbody⟩ := h
  have hparse : parse body = .ok e ↔ Reader.run reader body.toList = .ok e := by
    rw [parse]
    cases Reader.run reader body.toList <;> simp
  rw [hparse, Reader.run_eq_ok_iff, hbody, reader, Reader.atValue_append _ hgap, atValue,
    skipSpace_cons (by decide)]
  dsimp only
  have hcount : t.length ≤ (t ++ gap').length + 1 := by
    rw [List.length_append]
    omega
  have hiff (s : Text) : (∃ taken, Reader.members readMember ([], {}) (t ++ gap') =
      .ok ((taken, e), s)) ↔ s = gap' ∧ Tells {} ms e :=
    (membersWithin_iff hmembers hcount gap').trans (and_congr_right' tellsFrom_iff_tells)
  constructor
  · rintro ⟨rest, -, h⟩
    obtain ⟨⟨⟨taken, _⟩, _⟩, hread, h⟩ := map_eq_ok_iff.mp h
    cases h
    exact ((hiff _).mp ⟨taken, hread⟩).2
  · intro h
    obtain ⟨taken, hread⟩ := (hiff gap').mpr ⟨rfl, h⟩
    exact ⟨gap', hgap', map_eq_ok_iff.mpr ⟨_, hread, rfl⟩⟩

theorem malformed_of_not_ok {body : String} (h : ∀ e, parse body ≠ .ok e) :
    ∃ m, parse body = .error (.malformedResponse m) := by
  rw [parse] at h ⊢
  split
  · next e hread =>
    rw [hread] at h
    exact absurd rfl (h e)
  · exact ⟨_, rfl⟩

def Outside (limit : Nat) (v : Text) : Prop := v ≠ "null".toList ∧ ∀ n < limit, v ≠ Numeral.write n

theorem outside_writeInt {limit : Nat} {z : Int} (h : z < 0 ∨ limit ≤ z) :
    Outside limit (writeInt z) := by
  obtain ⟨c, r, hw, hc⟩ := Reader.digit_cases (n := z.natAbs)
  by_cases hz : z < 0
  · rw [writeInt, if_pos hz]
    refine ⟨by simp, fun n _ hn => ?_⟩
    have hminus : '-' ∈ Numeral.write n := by simp [← hn]
    exact absurd (Numeral.isDigit_of_mem_write hminus) (by decide)
  · rw [writeInt, if_neg hz, List.nil_append]
    refine ⟨fun hnull => ?_, fun n hn e => ?_⟩
    · rw [hw] at hnull
      exact Numeral.ne_of_isDigit hc (by decide) (List.cons.inj hnull).1
    · have := Numeral.write_injective e
      omega

/-- An object in any layout is read as the answer that its members tell of, and as no other. It is
malformed if a field comes twice, or if a field of so many bits holds a number outside of them:
too large, below zero, or written with a fraction or an exponent. The names of members are Unicode
texts in any spelling, so none has an escape for half of a surrogate pair; as values of members that
nobody reads such escapes may stand. -/
theorem layout_ignored {body : String} (h : SpellsObject ms body.toList) :
    (∀ e, parse body = .ok e ↔ Tells {} ms e) ∧
    (∀ f : Field, 2 ≤ (ms.map Prod.fst).count f.name.toList →
      ∃ m, parse body = .error (.malformedResponse m)) ∧
    ∀ (f : Field) (limit : Nat) (v : Text), f.limit? = some limit → (f.name.toList, v) ∈ ms →
      Outside limit v → ∃ m, parse body = .error (.malformedResponse m) := by
  have hiff (e : Envelope) : parse body = .ok e ↔ Tells {} ms e := parse_eq_ok_iff h
  refine ⟨hiff, fun f htwice => ?_, fun f limit v hf hmem ⟨hnull, hout⟩ => ?_⟩
  · refine malformed_of_not_ok fun e he => ?_
    have := ((hiff e).mp he).once f
    omega
  · refine malformed_of_not_ok fun e he => ?_
    rcases exists_of_limit? hf (((hiff e).mp he).given f v hmem) with hv | ⟨n, hn, hv⟩
    · exact hnull hv
    · exact hout n hn hv

theorem layout_ignored_reordered :
    parse " \x7b\"x\":[\x7b\x7d] ,\"longid\":7,\"\\u0073uccess\" : true,\"error\":null\x7d" =
      .ok { success := true, longid := some 7 } ∧
    (∃ m, parse "\x7b\"topic\":1,\"topic\":1\x7d" = .error (.malformedResponse m)) ∧
    ∃ m, parse "\x7b\"post\":65536\x7d" = .error (.malformedResponse m) := by
  have hspace : Spaces [' '] := by simp [Spaces, isSpace]
  have hs : SpellsChar (Char.ofNat 0x73) "\\u0073".toList :=
    .number (by decide : hexDigits? "0073".toList = some 0x73) (by decide) (by decide)
  have huccess : SpellsText "uccess".toList "uccess".toList := spellsText_self (by decide)
  have hsuccess : SpellsText "success".toList "\\u0073uccess".toList := .cons hs huccess
  have hvalue : Spelled .value "[\x7b\x7d]".toList :=
    .list (.firstElement spaces_nil (.object (.closeObject spaces_nil)) (.closeList spaces_nil))
  have hnumber (n : Nat) : Spelled .value (Numeral.write n) := .number (unsigned_write n)
  have hmember (n : Nat) (f : Field) : SpellsMember f.name.toList (Numeral.write n)
      ('"' :: (f.name.toList ++ '"' :: ':' :: Numeral.write n)) :=
    spellsMember_self (by cases f <;> decide) (hnumber n)
  have hreordered : SpellsMembers true [("x".toList, "[\x7b\x7d]".toList),
      (Field.longid.name.toList, Numeral.write 7), (Field.success.name.toList, writeBool true),
      (Field.error.name.toList, "null".toList)] _ :=
    .first spaces_nil (spellsMember_self (by decide) hvalue)
      (.next hspace spaces_nil (hmember 7 .longid)
        (.next spaces_nil spaces_nil (.mk hsuccess hspace hspace (.bool true))
          (.next spaces_nil spaces_nil (spellsMember_self (by decide) .null) (.close spaces_nil))))
  have htwice : SpellsMembers true [(Field.topic.name.toList, Numeral.write 1),
      (Field.topic.name.toList, Numeral.write 1)] _ :=
    .first spaces_nil (hmember 1 .topic)
      (.next spaces_nil spaces_nil (hmember 1 .topic) (.close spaces_nil))
  have hlarge : SpellsMembers true [(Field.post.name.toList, Numeral.write 65536)] _ :=
    .first spaces_nil (hmember 65536 .post) (.close spaces_nil)
  refine ⟨((layout_ignored ⟨[' '], _, [], hspace, hreordered, spaces_nil, by decide⟩).1 _).mpr
      ⟨?_, ?_, ?_⟩,
    (layout_ignored ⟨[], _, [], spaces_nil, htwice, spaces_nil, by decide⟩).2.1 .topic (by decide),
    (layout_ignored ⟨[], _, [], spaces_nil, hlarge, spaces_nil, by decide⟩).2.2 .post _ _ rfl
      List.mem_cons_self (outside_writeInt (by decide : (65536 : Int) < 0 ∨ _))⟩
  · intro f
    cases f <;> decide
  · intro f v hmem
    simp only [List.mem_cons, Prod.mk.injEq, List.not_mem_nil, or_false] at hmem
    rcases hmem with ⟨hf, -⟩ | ⟨hf, rfl⟩ | ⟨hf, rfl⟩ | ⟨hf, rfl⟩
    · cases f <;> exact absurd hf (by decide)
    all_goals
      obtain rfl := Field.name_injective hf
      rfl
  · intro f hf
    cases f <;> first | rfl | exact absurd hf (by decide)

end Text

end ForumClient.Envelope
