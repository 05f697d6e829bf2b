import ForumClient.Config
import ForumClient.Proofs.FoldText
import ForumClient.Proofs.JsonSpelling
import ForumClient.Proofs.Respelling
import ForumClient.Proofs.Trim

namespace ForumClient

variable {s before after : Text} {zeros : Nat}

namespace Numeral

variable {limit n : Nat}

def Denotes (s : Text) (n : Nat) : Prop :=
  ∃ sign digits, (sign = [] ∨ sign = ['+']) ∧ s = sign ++ digits ∧ digits ≠ [] ∧
    (∀ c ∈ digits, c.isDigit) ∧ value digits = n

def Padded (s : Text) (n : Nat) : Prop :=
  ∃ before t after, before.all Text.isBlank ∧ after.all Text.isBlank ∧
    s = before ++ (t ++ after) ∧ Denotes t n

theorem spells_iff : Spells limit s n ↔ n < limit ∧ Denotes s n := by
  refine and_congr_right fun _ => ⟨?_, ?_⟩
  · rintro ⟨sign, zeros, hsign, rfl⟩
    have hne : List.replicate zeros '0' ++ write n ≠ [] := by simp [write_ne_nil]
    exact ⟨sign, _, hsign, rfl, hne, (digits_iff hne).mpr ⟨zeros, rfl⟩⟩
  · rintro ⟨sign, digits, hsign, rfl, hne, hdigits⟩
    obtain ⟨zeros, hzeros⟩ := (digits_iff hne).mp hdigits
    exact ⟨sign, zeros, hsign, congrArg (sign ++ ·) hzeros⟩

theorem read_eq_ok_iff (hl : 0 < limit) : read limit s = .ok n ↔ n < limit ∧ Denotes s n := by
  rw [← spells_iff, ← read?_eq_some_iff_spells hl, read?]
  cases read limit s <;> simp [Except.toOption]

theorem isBlank_of_isDigit {c : Char} (h : c.isDigit) : Text.isBlank c = false := by
  have := isDigit_iff.mp h
  simp only [Text.isBlank, Bool.or_eq_false_iff, Bool.and_eq_false_iff, decide_eq_false_iff_not,
    beq_eq_false_iff_ne]
  omega

theorem Denotes.trimmed (h : Denotes s n) : Text.Trimmed s := by
  obtain ⟨sign, digits, hsign, rfl, -, hdigits, -⟩ := h
  refine Text.trimmed_of_forall (List.forall_mem_append.mpr ⟨?_, fun c hc => ?_⟩)
  · rcases hsign with rfl | rfl
    · exact nofun
    · exact List.forall_mem_singleton.mpr rfl
  · exact isBlank_of_isDigit (hdigits c hc)

theorem denotes_trim_iff : Denotes s.trim n ↔ Padded s n := by
  constructor
  · intro h
    obtain ⟨before, after, hbefore, hafter, hs⟩ := (Text.trim_eq_iff h.trimmed).mp rfl
    exact ⟨before, _, after, hbefore, hafter, hs, h⟩
  · rintro ⟨before, t, after, hbefore, hafter, rfl, h⟩
    rwa [h.trimmed.trim_append hbefore hafter]

theorem denotes_zeros (hbefore : before.all Text.isBlank) (hafter : after.all Text.isBlank) :
    Denotes (Text.trim (before ++ (List.replicate zeros '0' ++ write n ++ after))) n := by
  have hspells : Spells (n + 1) (List.replicate zeros '0' ++ write n) n :=
    ⟨Nat.lt_succ_self n, [], zeros, .inl rfl, rfl⟩
  exact denotes_trim_iff.mpr ⟨before, _, after, hbefore, hafter, rfl, (spells_iff.mp hspells).2⟩

theorem read_map_eq_ok_iff {α : Type} (ofNat : Nat → α) (toNat : α → Nat) (hl : 0 < limit)
    (hlt : ∀ a, toNat a < limit) (hof : ∀ a, ofNat (toNat a) = a)
    (hto : ∀ n < limit, toNat (ofNat n) = n) (s : Text) (a : α) :
    (read limit s.trim).map ofNat = .ok a ↔ Denotes s.trim (toNat a) := by
  simp only [Json.map_eq_ok_iff, read_eq_ok_iff hl]
  constructor
  · rintro ⟨n, ⟨hn, h⟩, rfl⟩
    rwa [hto n hn]
  · intro h
    exact ⟨_, ⟨hlt a, h⟩, hof a⟩

end Numeral

namespace PostId

theorem read_eq_ok_iff (p : PostId) : read s = .ok p ↔ Numeral.Denotes s.trim p.number.toNat :=
  Numeral.read_map_eq_ok_iff ofNat (fun p => p.number.toNat) (by decide)
    (fun p => p.number.toNat_lt_size) (fun _ => congrArg mk UInt64.ofNat_toNat)
    (fun _ => UInt64.toNat_ofNat_of_lt') s p

theorem permalink_injective (c : Config) : Function.Injective fun p => permalink p c := by
  intro p q h
  have hpath : "/p/" ++ p.toString = "/p/" ++ q.toString := String.append_right_inj _ |>.mp h
  exact write_injective (String.ofList_injective (String.append_right_inj _ |>.mp hpath))

end PostId

namespace TopicId

theorem read_eq_ok_iff (t : TopicId) : read s = .ok t ↔ Numeral.Denotes s.trim t.number.toNat :=
  Numeral.read_map_eq_ok_iff ofNat (fun t => t.number.toNat) (by decide)
    (fun t => t.number.toNat_lt_size) (fun _ => congrArg mk UInt32.ofNat_toNat)
    (fun _ => UInt32.toNat_ofNat_of_lt') s t

end TopicId

/-- The numbers of posts and topics that are read are the decimal numerals that fit, with any white
space around them, which trimming takes off. A number is read back from its written form behind any
zeros, so no two posts have one key in a fold map, or one address. -/
theorem numbers_read_as_written :
    (∀ s n, Numeral.Denotes s.trim n ↔ Numeral.Padded s n) ∧
    (∀ s p, PostId.read s = .ok p ↔
      ∃ n < UInt64.size, Numeral.Denotes s.trim n ∧ p.number.toNat = n) ∧
    (∀ s t, TopicId.read s = .ok t ↔
      ∃ n < UInt32.size, Numeral.Denotes s.trim n ∧ t.number.toNat = n) ∧
    (∀ before after zeros, before.all Text.isBlank → after.all Text.isBlank →
      (∀ p : PostId, PostId.read
        (before ++ (List.replicate zeros '0' ++ p.toString.toList ++ after)) = .ok p) ∧
      ∀ t : TopicId, TopicId.read
        (before ++ (List.replicate zeros '0' ++ t.toString.toList ++ after)) = .ok t) ∧
    ∀ p q : PostId, p ≠ q → p.toString ≠ q.toString ∧
      (∀ (m : FoldMap) at',
        (m.insert p at').table.get? q.toString.toList = m.table.get? q.toString.toList ∧
        (m.remove p).table.get? q.toString.toList = m.table.get? q.toString.toList) ∧
      ∀ c, p.permalink c ≠ q.permalink c := by
  refine ⟨fun s n => Numeral.denotes_trim_iff, fun s p => ?_, fun s t => ?_,
    fun before after zeros hbefore hafter => ⟨?_, ?_⟩, fun p q hne => ?_⟩
  · rw [PostId.read_eq_ok_iff]
    exact ⟨fun h => ⟨_, p.number.toNat_lt_size, h, rfl⟩, fun ⟨_, _, h, hn⟩ => hn ▸ h⟩
  · rw [TopicId.read_eq_ok_iff]
    exact ⟨fun h => ⟨_, t.number.toNat_lt_size, h, rfl⟩, fun ⟨_, _, h, hn⟩ => hn ▸ h⟩
  · intro p
    rw [PostId.toString, String.toList_ofList]
    exact (PostId.read_eq_ok_iff p).mpr (Numeral.denotes_zeros hbefore hafter)
  · intro t
    rw [TopicId.toString, String.toList_ofList]
    exact (TopicId.read_eq_ok_iff t).mpr (Numeral.denotes_zeros hbefore hafter)
  · have hkey : q.write ≠ p.write := fun h => hne (PostId.write_injective h).symm
    refine ⟨fun h => hkey (String.ofList_injective h).symm, fun m at' => ?_,
      fun c h => hne (PostId.permalink_injective c h)⟩
    rw [PostId.toString, String.toList_ofList]
    exact ⟨(Table.get?_put ..).trans (if_neg hkey), (Table.get?_erase ..).trans (if_neg hkey)⟩

theorem numbers_read_largest :
    PostId.read "\u3000\t00018446744073709551615\u0085".toList = .ok ⟨18446744073709551615⟩ ∧
      TopicId.read "\u3000\t0004294967295\u0085".toList = .ok ⟨4294967295⟩ ∧
      PostId.permalink ⟨1⟩ {} ≠ PostId.permalink ⟨10⟩ {} := by
  obtain ⟨-, -, -, hpadded, hdistinct⟩ := numbers_read_as_written
  obtain ⟨hpost, htopic⟩ := hpadded "\u3000\t".toList "\u0085".toList 3 (by decide) (by decide)
  exact ⟨hpost ⟨18446744073709551615⟩, htopic ⟨4294967295⟩,
    (hdistinct ⟨1⟩ ⟨10⟩ (by decide)).2.2 {}⟩

example : PostId.read "+18446744073709551616".toList = .error .overflow := by decide

example : TopicId.read "++7".toList = .error .invalidDigit := by decide

end ForumClient
