import ForumClient.Proofs.Token
import Mathlib.Data.List.Forall2

namespace ForumClient.Token

def isHexByte (b : UInt8) : Bool := (48 ≤ b && b ≤ 57) || (97 ≤ b && b ≤ 102)

def checkBytes (bytes : List UInt8) : Bool :=
  bytes.length == 32 && bytes.all isHexByte && bytes[12]? == some 52 &&
    bytes[16]?.any fun b => b == 56 || b == 57 || b == 97 || b == 98

abbrev Source := Nat → Fin 16

def Source.draws (σ : Source) (start n : Nat) : Draws := (List.range' start n).map σ

def Source.token (σ : Source) (i : Nat) : Token := (generate (σ.draws (i * 32) 32)).1

section Digits

variable {p : Place} {ps : List Place} {c : Char} {cs : List Char}

theorem forall_ascii {P : Char → Prop} (h : ∀ n < 128, P (Char.ofNat n)) (hc : c.toNat < 128) :
    P c := by
  have := h c.toNat hc
  rwa [Char.ofNat_toNat] at this

theorem Place.accepts_any (h : p.accepts c = true) : any.accepts c = true := by
  cases p with
  | any => exact h
  | version =>
    obtain rfl := beq_iff_eq.mp h
    decide
  | variant =>
    simp only [accepts, Bool.or_eq_true, beq_iff_eq, or_assoc] at h
    rcases h with rfl | rfl | rfl | rfl <;> decide

theorem Place.toNat_lt (h : any.accepts c = true) : c.toNat < 128 := by
  simp only [accepts, Bool.or_eq_true, Bool.and_eq_true, decide_eq_true_eq, Char.le_def,
    UInt32.le_iff_toNat_le] at h
  have h9 : '9'.val.toNat = 57 := rfl
  have hf : 'f'.val.toNat = 102 := rfl
  have hc : c.toNat = c.val.toNat := rfl
  omega

theorem Place.exists_digit (h : p.accepts c = true) : ∃ r, p.digit r = c := by
  have hc := toNat_lt (accepts_any h)
  revert h
  refine forall_ascii (P := fun c => p.accepts c = true → ∃ r, p.digit r = c) ?_ hc
  cases p <;> decide +kernel

theorem acceptsAll_iff :
    acceptsAll ps cs = true ↔ List.Forall₂ (fun p c => p.accepts c = true) ps cs := by
  induction ps generalizing cs with
  | nil => cases cs <;> simp [acceptsAll]
  | cons p ps ih => cases cs <;> simp [acceptsAll, ih]

theorem exists_fill (h : acceptsAll ps cs = true) :
    ∃ ds, ds.length = ps.length ∧ (fill ps ds).1 = cs := by
  rw [acceptsAll_iff] at h
  induction h with
  | nil => exact ⟨[], rfl, rfl⟩
  | cons hp _ ih =>
    obtain ⟨r, hr⟩ := Place.exists_digit hp
    obtain ⟨ds, hlength, hds⟩ := ih
    exact ⟨r :: ds, congrArg (· + 1) hlength, congrArg₂ List.cons hr hds⟩

theorem isWellFormed_iff_generate {t : Token} :
    t.isWellFormed = true ↔ ∃ ds, ds.length = 32 ∧ (generate ds).1 = t := by
  constructor
  · intro h
    obtain ⟨ds, hlength, hds⟩ := exists_fill h
    refine ⟨ds, hlength, ?_⟩
    have htext : (generate ds).1 = ⟨String.ofList (fill template ds).1⟩ := rfl
    rw [htext, hds, String.ofList_toList]
  · rintro ⟨ds, -, rfl⟩
    exact isWellFormed_generate ds

end Digits

section Bytes

variable {c : Char} {cs : List Char}

open String (utf8EncodeChar)

theorem get_template (i : Fin template.length) : template.get i =
    if i.val = 12 then .version else if i.val = 16 then .variant else .any := by
  revert i
  decide

theorem acceptsAll_template_iff : acceptsAll template cs = true ↔
    cs.length = 32 ∧ (∀ c ∈ cs, Place.any.accepts c = true) ∧
      (∃ c ∈ cs[12]?, Place.version.accepts c = true) ∧
      ∃ c ∈ cs[16]?, Place.variant.accepts c = true := by
  rw [acceptsAll_iff, List.forall₂_iff_get]
  simp only [get_template]
  simp only [List.get_eq_getElem]
  constructor
  · rintro ⟨hlength, h⟩
    replace hlength : cs.length = 32 := hlength.symm
    have hversion := h 12 (by decide) (by omega)
    have hvariant := h 16 (by decide) (by omega)
    refine ⟨hlength, fun c hc => ?_, ⟨_, List.getElem?_eq_getElem _, hversion⟩,
      ⟨_, List.getElem?_eq_getElem _, hvariant⟩⟩
    obtain ⟨i, hi, rfl⟩ := List.getElem_of_mem hc
    exact Place.accepts_any (h i (by rwa [hlength] at hi) hi)
  · rintro ⟨hlength, hany, ⟨c, hc, hversion⟩, ⟨d, hd, hvariant⟩⟩
    obtain ⟨_, rfl⟩ := List.getElem?_eq_some_iff.mp hc
    obtain ⟨_, rfl⟩ := List.getElem?_eq_some_iff.mp hd
    refine ⟨hlength.symm, fun i _ hi => ?_⟩
    split
    case isTrue h =>
      subst h
      exact hversion
    case isFalse =>
      split
      case isTrue h =>
        subst h
        exact hvariant
      case isFalse => exact hany _ (List.getElem_mem hi)

theorem utf8EncodeChar_of_lt (h : c.toNat < 128) : utf8EncodeChar c = [UInt8.ofNat c.toNat] := by
  have hle : c.val.toNat ≤ 127 := Nat.le_of_lt_succ h
  simp only [utf8EncodeChar, if_pos hle]
  rfl

theorem isHexByte_of_le {n : Nat} (h : 128 ≤ n) (hn : n < 256) :
    isHexByte (UInt8.ofNat n) = false := by
  have htoNat : (UInt8.ofNat n).toNat = n := UInt8.toNat_ofNat_of_lt' hn
  simp only [isHexByte, UInt8.le_iff_toNat_le, htoNat, Bool.or_eq_false_iff,
    Bool.and_eq_false_iff, decide_eq_false_iff_not, UInt8.reduceToNat]
  omega

theorem exists_mem_utf8EncodeChar (h : 128 ≤ c.toNat) :
    ∃ b ∈ utf8EncodeChar c, isHexByte b = false := by
  have hle : ¬ c.val.toNat ≤ 127 := Nat.not_le.mpr h
  refine ⟨UInt8.ofNat (c.val.toNat % 64 + 128), ?_, isHexByte_of_le (by omega) (by omega)⟩
  simp only [utf8EncodeChar, if_neg hle]
  split
  · simp
  · split <;> simp

theorem all_utf8EncodeChar (c : Char) :
    (utf8EncodeChar c).all isHexByte = Place.any.accepts c := by
  rcases Nat.lt_or_ge c.toNat 128 with hc | hc
  · exact forall_ascii (P := fun c => (utf8EncodeChar c).all isHexByte = Place.any.accepts c)
      (by decide +kernel) hc
  · obtain ⟨b, hb, hhex⟩ := exists_mem_utf8EncodeChar hc
    have hany : Place.any.accepts c = false :=
      Bool.eq_false_iff.mpr fun h => Nat.not_lt.mpr hc (Place.toNat_lt h)
    rw [hany, List.all_eq_false]
    exact ⟨b, hb, Bool.eq_false_iff.mp hhex⟩

theorem bytes_eq_flatMap (t : Token) :
    t.text.toByteArray.data.toList = t.text.toList.flatMap utf8EncodeChar := by
  obtain ⟨text⟩ := t
  obtain ⟨cs, rfl⟩ : ∃ cs, text = String.ofList cs := ⟨text.toList, String.ofList_toList.symm⟩
  rw [String.toByteArray_ofList, String.toList_ofList, List.utf8Encode,
    List.toList_data_toByteArray]

theorem flatMap_utf8EncodeChar (h : ∀ c ∈ cs, Place.any.accepts c = true) :
    cs.flatMap utf8EncodeChar = cs.map fun c => UInt8.ofNat c.toNat := by
  rw [List.map_eq_flatMap]
  exact List.flatMap_congr fun c hc => utf8EncodeChar_of_lt (Place.toNat_lt (h c hc))

theorem version_byte (h : c.toNat < 128) :
    (UInt8.ofNat c.toNat == 52) = Place.version.accepts c :=
  forall_ascii (P := fun c => (UInt8.ofNat c.toNat == 52) = Place.version.accepts c)
    (by decide +kernel) h

theorem variant_byte (h : c.toNat < 128) :
    (UInt8.ofNat c.toNat == 56 || UInt8.ofNat c.toNat == 57 || UInt8.ofNat c.toNat == 97 ||
      UInt8.ofNat c.toNat == 98) = Place.variant.accepts c :=
  forall_ascii (P := fun c => (UInt8.ofNat c.toNat == 56 || UInt8.ofNat c.toNat == 57 ||
    UInt8.ofNat c.toNat == 97 || UInt8.ofNat c.toNat == 98) = Place.variant.accepts c)
    (by decide +kernel) h

theorem isWellFormed_eq_checkBytes (t : Token) :
    t.isWellFormed = checkBytes t.text.toByteArray.data.toList := by
  have hall (cs : List Char) : (cs.flatMap utf8EncodeChar).all isHexByte = true ↔
      ∀ c ∈ cs, Place.any.accepts c = true := by
    simp only [List.all_flatMap, all_utf8EncodeChar, List.all_eq_true]
  rw [bytes_eq_flatMap, isWellFormed, Bool.eq_iff_iff, acceptsAll_template_iff]
  generalize t.text.toList = cs
  simp only [checkBytes, Bool.and_eq_true, hall, beq_iff_eq, and_assoc]
  by_cases hany : ∀ c ∈ cs, Place.any.accepts c = true
  · have hlt {i : Nat} {c : Char} (hc : cs[i]? = some c) : c.toNat < 128 :=
      Place.toNat_lt (hany c (List.mem_of_getElem? hc))
    rw [flatMap_utf8EncodeChar hany, List.length_map, List.getElem?_map, List.getElem?_map]
    refine and_congr_right fun _ => and_congr_right fun _ => and_congr ?_ ?_
    · cases hc : cs[12]? with
      | none => simp
      | some c => simp [← version_byte (hlt hc)]
    · cases hc : cs[16]? with
      | none => simp
      | some c => simp [← variant_byte (hlt hc), or_assoc]
  · simp [hany]

end Bytes

section Redraw

variable {old t : Token} {ds rest : Draws} {σ : Source} {i n : Nat}

theorem fill_take (ps : List Place) (ds : Draws) :
    (fill ps (ds.take ps.length)).1 = (fill ps ds).1 := by
  induction ps generalizing ds with
  | nil => rfl
  | cons p ps ih =>
    cases ds with
    | nil => rfl
    | cons r ds => exact congrArg (p.digit r :: ·) (ih ds)

theorem generate_take (ds : Draws) : (generate (ds.take 32)).1 = (generate ds).1 :=
  congrArg (fun cs => Token.mk (String.ofList cs)) (fill_take template ds)

theorem Source.drop_draws (σ : Source) (n k : Nat) :
    (σ.draws 0 n).drop k = σ.draws k (n - k) := by
  rw [draws, draws, ← List.map_drop, List.drop_range', Nat.zero_add, Nat.mul_one]

theorem Source.drawn_draws (σ : Source) (hn : (i + 1) * 32 ≤ n) :
    drawn (σ.draws 0 n) i = σ.token i := by
  have htake : (σ.draws (i * 32) (n - i * 32)).take 32 = σ.draws (i * 32) 32 := by
    rw [draws, draws, ← List.map_take, List.take_range'_of_length_ge (by omega)]
  calc
    drawn (σ.draws 0 n) i = (generate ((σ.draws 0 n).drop (i * 32))).1 := rfl
    _ = (generate (σ.draws (i * 32) (n - i * 32))).1 := by rw [drop_draws]
    _ = σ.token i := by rw [← generate_take, htake, token]

theorem Source.rotate?_draws (hne : σ.token i ≠ old) (hbefore : ∀ j < i, σ.token j = old)
    (hn : (i + 1) * 32 ≤ n) : rotate? old (σ.draws 0 n) =
      some (σ.token i, σ.draws ((i + 1) * 32) (n - (i + 1) * 32)) := by
  refine rotate?_eq_some_iff_drawn.mpr ⟨i, σ.drawn_draws hn, hne, fun j hj => ?_, ?_⟩
  · rw [σ.drawn_draws (by omega)]
    exact hbefore j hj
  · rw [drop_draws]

end Redraw

/-- A text is well formed, which its bytes tell, exactly if it comes of some draws. A redraw gives
the first token that differs from the old one, of a source that runs out into zeros as of one that
never does. -/
theorem well_formed_iff_drawn :
    (∀ t : Token, t.isWellFormed = checkBytes t.text.toByteArray.data.toList) ∧
    (∀ t : Token, t.isWellFormed = true ↔ ∃ ds, ds.length = 32 ∧ (generate ds).1 = t) ∧
    (∀ ds, (generate ds).1.isWellFormed = true) ∧
    (∀ old ds t rest, rotate? old ds = some (t, rest) ↔
      ∃ i, drawn ds i = t ∧ t ≠ old ∧ (∀ j < i, drawn ds j = old) ∧
        rest = ds.drop ((i + 1) * 32)) ∧
    (∀ old ds, (∃ i, drawn ds i ≠ old) →
      ∃ t rest, rotate? old ds = some (t, rest) ∧ t.isWellFormed = true) ∧
    ∀ old (σ : Source) i n, σ.token i ≠ old → (∀ j < i, σ.token j = old) → (i + 1) * 32 ≤ n →
      (σ.token i).isWellFormed = true ∧ rotate? old (σ.draws 0 n) =
        some (σ.token i, σ.draws ((i + 1) * 32) (n - (i + 1) * 32)) := by
  refine ⟨isWellFormed_eq_checkBytes, fun t => isWellFormed_iff_generate, isWellFormed_generate,
    fun old ds t rest => rotate?_eq_some_iff_drawn, fun old ds h => ?_,
    fun old σ i n hne hbefore hn => ⟨isWellFormed_generate _, Source.rotate?_draws hne hbefore hn⟩⟩
  obtain ⟨⟨t, rest⟩, hrotate⟩ := Option.isSome_iff_exists.mp (isSome_rotate?_iff.mpr h)
  exact ⟨t, rest, hrotate, (rotate?_eq_some hrotate).2⟩

def Source.lateChange : Source := fun k => ⟨k / 64 % 16, Nat.mod_lt _ (by decide)⟩

def zeros : Token := ⟨"00000000000040008000000000000000"⟩

def ones : Token := ⟨"11111111111141119111111111111111"⟩

theorem rotate?_lateChange : zeros.isWellFormed = true ∧ ones.isWellFormed = true ∧
    rotate? zeros (Source.lateChange.draws 0 100) =
      some (ones, Source.lateChange.draws 96 4) ∧
    ∃ t rest, rotate? ones [5] = some (t, rest) ∧ t.isWellFormed = true := by
  obtain ⟨-, hdrawn, -, -, hsome, hsource⟩ := well_formed_iff_drawn
  obtain ⟨hones, hrotate⟩ := hsource zeros Source.lateChange 2 100 (by decide +kernel)
    (by decide +kernel) (by decide)
  have htoken : Source.lateChange.token 2 = ones := by decide +kernel
  rw [htoken] at hones hrotate
  exact ⟨(hdrawn zeros).mpr ⟨List.replicate 32 0, rfl, by decide +kernel⟩, hones, hrotate,
    hsome ones [5] ⟨0, by decide +kernel⟩⟩

example : (Token.mk "0123456789ab4def8123456789abcd\u00e9").isWellFormed = false := by
  decide +kernel

end ForumClient.Token
