import ForumClient.Proofs.FoldText

namespace ForumClient

open Preferences

structure Storage.InMemory (s : Storage) : Prop where
  readFault? : ∀ key, s.readFault? key = none
  writeFault? : ∀ key, s.writeFault? key = none

namespace Storage

variable {s : Storage} {key key' value : String}

theorem inMemory_empty : ({} : Storage).InMemory := ⟨fun _ => rfl, fun _ => rfl⟩

theorem set_of_fault {e : Failure} (h : s.writeFault? key = some e) :
    s.set key value = (.error e, s) := by
  rw [set, h]

theorem set_of_writable (h : s.writeFault? key = none) :
    s.set key value = (.ok (), { s with entries := s.entries.put key value }) := by
  rw [set, h]

theorem get_set_of_ne (h : key' ≠ key) : (s.set key value).2.get key' = s.get key' := by
  rw [set]
  split
  · rfl
  · rw [get, get, Table.get?_put, if_neg h]

theorem get_set_self (hread : s.readFault? key = none) (hwrite : s.writeFault? key = none) :
    (s.set key value).2.get key = .ok (some value) := by
  rw [set_of_writable hwrite, get, hread]
  dsimp only
  rw [Table.get?_put, if_pos rfl]

theorem setting?_set_of_ne (h : key' ≠ key) :
    (s.set key value).2.setting? key' = s.setting? key' := by
  rw [setting?, get_set_of_ne h, setting?]

theorem setting?_set_self (hread : s.readFault? key = none) (hwrite : s.writeFault? key = none) :
    (s.set key value).2.setting? key = some value := by
  rw [setting?, get_set_self hread hwrite]
  rfl

theorem InMemory.set (h : s.InMemory) : (s.set key value).2.InMemory := by
  rw [set_of_writable (h.writeFault? key)]
  exact ⟨h.readFault?, h.writeFault?⟩

theorem get_set (h : s.InMemory) (key key' value : String) :
    (s.set key value).2.get key' = if key' = key then .ok (some value) else s.get key' := by
  by_cases hkey : key' = key
  · subst hkey
    rw [get_set_self (h.readFault? key') (h.writeFault? key'), if_pos rfl]
  · rw [get_set_of_ne hkey, if_neg hkey]

theorem setting?_set (h : s.InMemory) (key key' value : String) :
    (s.set key value).2.setting? key' = if key' = key then some value else s.setting? key' := by
  rw [setting?, get_set h, setting?]
  split <;> rfl

theorem foldMap_set (h : s.InMemory) (key value : String) :
    (s.set key value).2.foldMap =
      if foldKey = key then FoldMap.ofJson value else s.foldMap := by
  rw [foldMap, get_set h, foldMap]
  by_cases hkey : foldKey = key
  · rw [if_pos hkey, if_pos hkey]
  · rw [if_neg hkey, if_neg hkey]

end Storage

@[simp] theorem ImageView.ofSetting_setting (v : ImageView) : ofSetting (some v.setting) = v := by
  cases v <;> rfl

@[simp] theorem FoldLook.ofSetting_setting (l : FoldLook) : ofSetting (some l.setting) = l := by
  cases l <;> rfl

namespace Preferences

inductive Write
  | imageView : ImageView → Write
  | foldLook : FoldLook → Write
  | options : String → Write
  | foldMap : FoldMap → Write

namespace Write

def perform (s : Storage) : Write → Except Failure Unit × Storage
  | .imageView v => s.setImageView v
  | .foldLook l => s.setFoldLook l
  | .options t => s.saveOptions t
  | .foldMap m => s.saveFoldMap m

def key : Write → String
  | .imageView _ => imageViewKey
  | .foldLook _ => foldLookKey
  | .options _ => optionsKey
  | .foldMap _ => foldKey

def text : Write → String
  | .imageView v => v.setting
  | .foldLook l => l.setting
  | .options t => t
  | .foldMap m => m.toJson

def imageView? : Write → Option ImageView
  | .imageView v => some v
  | _ => none

def foldLook? : Write → Option FoldLook
  | .foldLook l => some l
  | _ => none

def options? : Write → Option String
  | .options t => some t
  | _ => none

def foldMap? : Write → Option FoldMap
  | .foldMap m => some m
  | _ => none

end Write

def afterWrites (s : Storage) (ws : List Write) : Storage := ws.foldl (fun s w => (w.perform s).2) s

variable {s : Storage} {w : Write}

theorem perform_eq_set (s : Storage) (w : Write) : w.perform s = s.set w.key w.text := by
  cases w <;> rfl

theorem inMemory_perform (h : s.InMemory) (w : Write) : (w.perform s).2.InMemory := by
  rw [perform_eq_set]
  exact h.set

theorem inMemory_afterWrites (h : s.InMemory) (ws : List Write) : (afterWrites s ws).InMemory := by
  induction ws generalizing s with
  | nil => exact h
  | cons w ws ih => exact ih (inMemory_perform h w)

theorem perform_ok (h : s.InMemory) (w : Write) : (w.perform s).1 = .ok () := by
  rw [perform_eq_set, Storage.set_of_writable (h.writeFault? w.key)]

theorem imageView_perform (h : s.InMemory) (w : Write) :
    (w.perform s).2.imageView = w.imageView?.getD s.imageView := by
  rw [Storage.imageView, perform_eq_set, Storage.setting?_set h]
  cases w with
  | imageView v => exact v.ofSetting_setting
  | _ => rfl

theorem foldLook_perform (h : s.InMemory) (w : Write) :
    (w.perform s).2.foldLook = w.foldLook?.getD s.foldLook := by
  rw [Storage.foldLook, perform_eq_set, Storage.setting?_set h]
  cases w with
  | foldLook l => exact l.ofSetting_setting
  | _ => rfl

theorem options?_perform (h : s.InMemory) (w : Write) :
    (w.perform s).2.options? = (w.options?.map some).getD s.options? := by
  rw [Storage.options?, perform_eq_set, Storage.setting?_set h]
  cases w <;> rfl

theorem foldMap_perform (h : s.InMemory) (w : Write) :
    (w.perform s).2.foldMap = (w.foldMap?.map .ok).getD s.foldMap := by
  rw [perform_eq_set, Storage.foldMap_set h]
  cases w with
  | foldMap m => exact m.ofJson_toJson
  | _ => rfl

theorem read_afterWrites {β : Type} {read : Storage → β} {own? : Write → Option β}
    (step : ∀ {s : Storage}, s.InMemory → ∀ w : Write,
      read (w.perform s).2 = (own? w).getD (read s))
    (h : s.InMemory) (ws : List Write) :
    read (afterWrites s ws) = (ws.filterMap own?).getLast?.getD (read s) := by
  induction ws generalizing s with
  | nil => rfl
  | cons w ws ih =>
    have hafter : read (afterWrites s (w :: ws)) = _ := ih (inMemory_perform h w)
    rw [hafter, step h]
    cases hw : own? w with
    | none => rw [List.filterMap_cons_none hw, Option.getD_none]
    | some b => rw [List.filterMap_cons_some hw, List.getLast?_cons, Option.getD_some]; rfl

/-- Any sequence of writes to an empty store succeeds, and each setting then has the value that was
written to it last, or its default if none was. -/
theorem settings_keep_last_write (ws : List Write) :
    let s := afterWrites {} ws
    (∀ w : Write, (w.perform s).1 = .ok ()) ∧
      s.imageView = (ws.filterMap Write.imageView?).getLast?.getD .expand ∧
      s.foldLook = (ws.filterMap Write.foldLook?).getLast?.getD .gray ∧
      s.options? = (ws.filterMap Write.options?).getLast? ∧
      s.foldMap = .ok ((ws.filterMap Write.foldMap?).getLast?.getD .empty) := by
  have h := Storage.inMemory_empty
  refine ⟨perform_ok (inMemory_afterWrites h ws), ?_, ?_, ?_, ?_⟩
  · exact read_afterWrites imageView_perform h ws
  · exact read_afterWrites foldLook_perform h ws
  · rw [read_afterWrites options?_perform h ws, ← List.map_filterMap, List.getLast?_map]
    cases (ws.filterMap Write.options?).getLast? <;> rfl
  · rw [read_afterWrites foldMap_perform h ws, ← List.map_filterMap, List.getLast?_map]
    cases (ws.filterMap Write.foldMap?).getLast? <;> rfl

end Preferences

end ForumClient
