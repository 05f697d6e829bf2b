import ForumClient.Page.PostPage
import ForumClient.Proofs.FoldText

namespace ForumClient

open Preferences

namespace Fold

variable {f : Fold} {m : FoldMap} {p : PostId} {now : Millis} {s : Storage} {e : Failure}

theorem get?_record (f : Fold) (m : FoldMap) (p : PostId) (now : Millis) (key : Text) :
    (f.record m p now).table.get? key =
      if key = p.write then (if f.folded then some now else none) else m.table.get? key := by
  rw [record]
  split
  · exact Table.get?_put ..
  · exact Table.get?_erase ..

theorem restore_of_get? (h : m.table.get? p.write = if f.folded then some now else none) :
    restore m p = f := by
  rw [restore, FoldMap.contains, Table.contains, h]
  obtain ⟨folded⟩ := f
  cases folded <;> rfl

theorem toggle_of_unreadable (h : s.foldMap = .error e) :
    f.toggle p now s = (.error e, f, s) := by
  rw [toggle, h]

theorem toggle_of_unwritable (hm : s.foldMap = .ok m) (h : s.writeFault? foldKey = some e) :
    f.toggle p now s = (.error e, f.flip, s) := by
  simp only [toggle, hm, Storage.saveFoldMap, Storage.set, h]

theorem toggle_of_writable (hm : s.foldMap = .ok m) (h : s.writeFault? foldKey = none) :
    f.toggle p now s = (.ok (), f.flip,
      { s with entries := s.entries.put foldKey (f.flip.record m p now).toJson }) := by
  simp only [toggle, hm, Storage.saveFoldMap, Storage.set, h]

theorem flip_ne (f : Fold) : f.flip ≠ f := by
  intro h
  have hfolded := congrArg folded h
  cases hf : f.folded <;> simp [flip, hf] at hfolded

end Fold

structure Storage.Holds (s : Storage) (m : FoldMap) : Prop where
  foldMap : s.foldMap = .ok m
  readFault? : s.readFault? foldKey = none
  writeFault? : s.writeFault? foldKey = none

theorem Storage.Holds.put {s : Storage} {m : FoldMap} (h : s.Holds m) (m' : FoldMap) :
    Storage.Holds { s with entries := s.entries.put foldKey m'.toJson } m' := by
  refine ⟨?_, h.readFault?, h.writeFault?⟩
  rw [Storage.foldMap, Storage.get, h.readFault?]
  simp

/-- A store with any number of folding controls, of the same post or of different ones. -/
structure Folding where
  storage : Storage
  controls : Nat → Fold

namespace Folding

structure Use where
  control : Nat
  post : PostId
  now : Millis
  deriving DecidableEq

def use (d : Folding) (u : Use) : Except Failure Unit × Folding :=
  let (result, f, storage) := (d.controls u.control).toggle u.post u.now d.storage
  (result, ⟨storage, fun i => if i = u.control then f else d.controls i⟩)

def after (d : Folding) (us : List Use) : Folding := us.foldl (fun d u => (d.use u).2) d

variable {d : Folding} {m : FoldMap} {u : Use} {us : List Use}

theorem after_append (d : Folding) (us vs : List Use) :
    d.after (us ++ vs) = (d.after us).after vs :=
  List.foldl_append

theorem use_spec (h : d.storage.Holds m) (u : Use) :
    (d.use u).1 = .ok () ∧
      (d.use u).2.storage.Holds ((d.controls u.control).flip.record m u.post u.now) ∧
      (d.use u).2.controls u.control = (d.controls u.control).flip := by
  rw [use, Fold.toggle_of_writable h.foldMap h.writeFault?]
  exact ⟨rfl, h.put _, if_pos rfl⟩

theorem after_spec (h : d.storage.Holds m) (us : List Use) :
    ∃ m', (d.after us).storage.Holds m' ∧
      ∀ key, (∀ u ∈ us, u.post.write ≠ key) → m'.table.get? key = m.table.get? key := by
  induction us generalizing d m with
  | nil => exact ⟨m, h, fun _ _ => rfl⟩
  | cons u us ih =>
    obtain ⟨-, hholds, -⟩ := use_spec h u
    obtain ⟨m', hm', hkeeps⟩ := ih hholds
    refine ⟨m', hm', fun key hkey => ?_⟩
    rw [List.forall_mem_cons] at hkey
    rw [hkeeps key hkey.2, Fold.get?_record, if_neg hkey.1.symm]

theorem controls_after (d : Folding) {i : Nat} (h : ∀ u ∈ us, u.control ≠ i) :
    (d.after us).controls i = d.controls i := by
  induction us generalizing d with
  | nil => rfl
  | cons u us ih =>
    rw [List.forall_mem_cons] at h
    exact (ih (d.use u).2 h.2).trans (if_neg h.1.symm)

/-- Whichever controls are used on whichever posts: the stored map is the one from before, but for
the posts of the uses. Such a post has an entry if the last control used on it came out folded,
with the time of that use, and a control made anew from the map comes out the same. -/
theorem stored_map_follows_last_use (d : Folding) (m : FoldMap) (us : List Use)
    (hread : d.storage.readFault? foldKey = none) (hwrite : d.storage.writeFault? foldKey = none)
    (hm : d.storage.foldMap = .ok m) :
    (∀ before u, before ++ [u] <+: us → ((d.after before).use u).1 = .ok ()) ∧
      ∃ m', (d.after us).storage.foldMap = .ok m' ∧
        (∀ key, (∀ u ∈ us, u.post.write ≠ key) → m'.table.get? key = m.table.get? key) ∧
        ∀ before u later, us = before ++ u :: later → (∀ v ∈ later, v.post ≠ u.post) →
          let f := (d.after (before ++ [u])).controls u.control
          f.folded = !((d.after before).controls u.control).folded ∧
            m'.table.get? u.post.write = (if f.folded then some u.now else none) ∧
            Fold.restore m' u.post = f ∧
            ((∀ v ∈ later, v.control ≠ u.control) → (d.after us).controls u.control = f) := by
  have holds : d.storage.Holds m := ⟨hm, hread, hwrite⟩
  refine ⟨fun before u _ => ?_, ?_⟩
  · obtain ⟨m', hm', -⟩ := after_spec holds before
    exact (use_spec hm' u).1
  · obtain ⟨m', hm', hkeeps⟩ := after_spec holds us
    refine ⟨m', hm'.foldMap, hkeeps, fun before u later hus hlater => ?_⟩
    obtain ⟨m₁, hm₁, -⟩ := after_spec holds before
    obtain ⟨-, hm₂, hcontrol⟩ := use_spec hm₁ u
    obtain ⟨m₃, hm₃, hrest⟩ := after_spec hm₂ later
    have hafter : d.after us = (((d.after before).use u).2).after later := by
      rw [hus, after_append]
      rfl
    obtain rfl : m₃ = m' := by
      have := hm'.foldMap
      rw [hafter, hm₃.foldMap] at this
      exact Except.ok.inj this
    have hlast : d.after (before ++ [u]) = ((d.after before).use u).2 := by
      rw [after_append]
      rfl
    have hentry := hrest u.post.write fun v hv e => hlater v hv (PostId.write_injective e)
    rw [Fold.get?_record, if_pos rfl, ← hcontrol, ← hlast] at hentry
    refine ⟨by rw [hlast, hcontrol]; rfl, hentry, Fold.restore_of_get? hentry, fun hv => ?_⟩
    rw [hafter, controls_after _ hv, hlast]

def foreign : FoldMap := ⟨.ofList [("note".toList, -5), (['7'], Int64.maxValue)]⟩

def twoTabs : Folding where
  storage := .ofEntries [(foldKey, "\x7b\"note\":-5,\"7\":9223372036854775807\x7d")]
  controls := fun _ => {}

def twoTabsUses : List Use := [⟨0, ⟨5⟩, 100⟩, ⟨1, ⟨5⟩, 200⟩, ⟨2, ⟨8⟩, 300⟩, ⟨0, ⟨5⟩, 400⟩]

theorem foldMap_twoTabs :
    twoTabs.storage.foldMap = .ok foreign ∧
      ∃ m, (twoTabs.after twoTabsUses).storage.foldMap = .ok m ∧
        m.table.get? "note".toList = some (-5) ∧ m.table.get? ['7'] = some Int64.maxValue ∧
        m.table.get? ['5'] = none ∧ m.table.get? ['8'] = some 300 := by
  have hread : twoTabs.storage.foldMap = .ok foreign := by rfl
  obtain ⟨-, m, hm, hkeeps, hlast⟩ :=
    stored_map_follows_last_use twoTabs foreign twoTabsUses rfl rfl hread
  have h5 := (hlast [⟨0, ⟨5⟩, 100⟩, ⟨1, ⟨5⟩, 200⟩, ⟨2, ⟨8⟩, 300⟩] ⟨0, ⟨5⟩, 400⟩ [] rfl nofun).2.1
  have h8 := (hlast [⟨0, ⟨5⟩, 100⟩, ⟨1, ⟨5⟩, 200⟩] ⟨2, ⟨8⟩, 300⟩ [⟨0, ⟨5⟩, 400⟩] rfl
    (by decide)).2.1
  refine ⟨hread, m, hm, ?_, ?_, h5.trans (by decide +kernel), h8.trans (by decide +kernel)⟩
  · exact (hkeeps _ (by decide +kernel)).trans (by decide +kernel)
  · exact (hkeeps _ (by decide +kernel)).trans (by decide +kernel)

end Folding

namespace Fold

/-- A use of a control that fails leaves the store as it is. The control is left as it is only if
the map could not be read; if it could not be written the control flips, and no longer shows what
the page would show when it is opened again. -/
theorem failed_toggle_keeps_fold_iff (f : Fold) (p : PostId) (now : Millis) (s : Storage)
    (html : Text) (e : Failure) (h : (f.toggle p now s).1 = .error e) :
    (f.toggle p now s).2.2 = s ∧
      ((f.toggle p now s).2.1 = f ↔ s.foldMap = .error e) ∧
      ((f.toggle p now s).2.1 = f.flip ↔
        (∃ m, s.foldMap = .ok m) ∧ s.writeFault? foldKey = some e) ∧
      ((ShownPost.mount s p html).1.fold = f →
        ((ShownPost.mount (f.toggle p now s).2.2 p html).1.fold = (f.toggle p now s).2.1 ↔
          s.foldMap = .error e)) := by
  cases hm : s.foldMap with
  | error e' =>
    rw [toggle_of_unreadable hm] at h ⊢
    obtain rfl : e' = e := Except.error.inj h
    refine ⟨rfl, by simp, ⟨fun hflip => absurd hflip.symm f.flip_ne, ?_⟩, fun hf => by simp [hf]⟩
    rintro ⟨⟨m, hm'⟩, -⟩
    cases hm'
  | ok m =>
    cases hw : s.writeFault? foldKey with
    | none =>
      rw [toggle_of_writable hm hw] at h
      cases h
    | some e' =>
      rw [toggle_of_unwritable hm hw] at h ⊢
      obtain rfl : e' = e := Except.error.inj h
      refine ⟨rfl, by simp [f.flip_ne], by simp, fun hf => ?_⟩
      rw [hf]
      simp [f.flip_ne.symm]

def full : Storage := { writeFault? := fun key => some (.storage ("cannot write " ++ key)) }

theorem flips_full :
    (({} : Fold).toggle ⟨5⟩ 100 full).1 = .error (.storage "cannot write fold") ∧
      (({} : Fold).toggle ⟨5⟩ 100 full).2.1 = flip {} := by
  have hfailed : (({} : Fold).toggle ⟨5⟩ 100 full).1 = .error (.storage "cannot write fold") := rfl
  exact ⟨hfailed,
    (failed_toggle_keeps_fold_iff {} ⟨5⟩ 100 full [] _ hfailed).2.2.1.mpr ⟨⟨.empty, rfl⟩, rfl⟩⟩

theorem not_kept_full :
    (∃ e, (({} : Fold).toggle ⟨5⟩ 100 full).1 = .error e) ∧
      (({} : Fold).toggle ⟨5⟩ 100 full).2.1 ≠ {} ∧
      (ShownPost.mount (({} : Fold).toggle ⟨5⟩ 100 full).2.2 ⟨5⟩ []).1.fold ≠
        (({} : Fold).toggle ⟨5⟩ 100 full).2.1 :=
  ⟨⟨_, rfl⟩, by decide +kernel, by decide +kernel⟩

end Fold

end ForumClient
