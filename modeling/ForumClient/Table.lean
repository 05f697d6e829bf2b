/-!
Finite maps as lists of entries in ascending key order. The order is kept by the type, so two
tables with the same look-ups are equal (`ext_get?`).
-/

namespace ForumClient

class KeyOrder (κ : Type u) [LT κ] : Prop where
  trans : ∀ {a b c : κ}, a < b → b < c → a < c
  irrefl : ∀ a : κ, ¬ a < a
  trichotomy : ∀ {a b : κ}, ¬ a < b → ¬ b < a → a = b

instance : KeyOrder String where
  trans := String.lt_trans
  irrefl := String.lt_irrefl
  trichotomy := Std.Trichotomous.trichotomous _ _

instance : KeyOrder (List Char) where
  trans := List.lt_trans
  irrefl := List.lt_irrefl
  trichotomy := Std.Trichotomous.trichotomous _ _

structure Table (κ : Type u) (α : Type v) [LT κ] where
  entries : List (κ × α) := []
  sorted : entries.Pairwise (fun a b => a.1 < b.1) := by exact .nil

namespace Table

variable {κ : Type u} {α : Type v} [LT κ] [DecidableEq κ]

instance [DecidableEq α] : DecidableEq (Table κ α) := fun s t =>
  if h : s.entries = t.entries then
    .isTrue (by cases s; cases t; cases h; rfl)
  else
    .isFalse (fun e => h (congrArg entries e))

def empty : Table κ α := {}

instance : Inhabited (Table κ α) := ⟨empty⟩

def size (t : Table κ α) : Nat := t.entries.length

def isEmpty (t : Table κ α) : Bool := t.entries.isEmpty

def find? (k : κ) : List (κ × α) → Option α
  | [] => none
  | (k', a) :: es => if k = k' then some a else find? k es

def get? (t : Table κ α) (k : κ) : Option α := find? k t.entries

def contains (t : Table κ α) (k : κ) : Bool := (t.get? k).isSome

def insertEntry [DecidableLT κ] (k : κ) (a : α) : List (κ × α) → List (κ × α)
  | [] => [(k, a)]
  | (k', b) :: es =>
    if k = k' then (k, a) :: es
    else if k < k' then (k, a) :: (k', b) :: es
    else (k', b) :: insertEntry k a es

theorem mem_insertEntry [DecidableLT κ] {k : κ} {a : α} {e : κ × α} {es : List (κ × α)}
    (h : e ∈ insertEntry k a es) : e = (k, a) ∨ e ∈ es := by
  induction es with
  | nil => simp_all [insertEntry]
  | cons d es ih =>
    obtain ⟨k', b⟩ := d
    simp only [insertEntry] at h
    split at h
    · simp_all; grind
    · split at h <;> simp_all; grind

theorem sorted_insertEntry [DecidableLT κ] [KeyOrder κ] {k : κ} {a : α} {es : List (κ × α)}
    (h : es.Pairwise (fun a b => a.1 < b.1)) :
    (insertEntry k a es).Pairwise (fun a b => a.1 < b.1) := by
  induction es with
  | nil => simp [insertEntry]
  | cons d es ih =>
    obtain ⟨k', b⟩ := d
    rw [List.pairwise_cons] at h
    simp only [insertEntry]
    split
    · next e => subst e; exact List.pairwise_cons.2 h
    · next ne =>
      split
      · next lt =>
        refine List.pairwise_cons.2 ⟨fun e he => ?_, List.pairwise_cons.2 h⟩
        rcases List.mem_cons.1 he with rfl | he
        · exact lt
        · exact KeyOrder.trans lt (h.1 e he)
      · next nlt =>
        refine List.pairwise_cons.2 ⟨fun e he => ?_, ih h.2⟩
        rcases mem_insertEntry he with rfl | he
        · exact Decidable.byContradiction fun ngt => ne (KeyOrder.trichotomy nlt ngt)
        · exact h.1 e he

section Insertion

variable [DecidableLT κ] [KeyOrder κ]

def put (t : Table κ α) (k : κ) (a : α) : Table κ α :=
  ⟨insertEntry k a t.entries, sorted_insertEntry t.sorted⟩

/-- Later pairs overwrite earlier ones. -/
def ofList (es : List (κ × α)) : Table κ α :=
  es.foldl (fun t e => t.put e.1 e.2) empty

end Insertion

def keep (t : Table κ α) (p : κ → Bool) : Table κ α :=
  ⟨t.entries.filter (fun e => p e.1), t.sorted.filter _⟩

def erase (t : Table κ α) (k : κ) : Table κ α := t.keep (· ≠ k)

def adjust (t : Table κ α) (k : κ) (f : α → α) : Table κ α :=
  ⟨t.entries.map (fun e => (e.1, if e.1 = k then f e.2 else e.2)),
    List.pairwise_map.2 (t.sorted.imp (fun h => h))⟩

@[simp] theorem get?_empty (k : κ) : (empty : Table κ α).get? k = none := rfl

theorem find?_insertEntry [DecidableLT κ] (k k' : κ) (a : α) (es : List (κ × α)) :
    find? k' (insertEntry k a es) = if k' = k then some a else find? k' es := by
  induction es with
  | nil => simp [insertEntry, find?]
  | cons d es ih =>
    obtain ⟨k'', b⟩ := d
    simp only [insertEntry]
    split
    · subst_vars; simp [find?]; grind
    · split
      · simp [find?]
      · simp only [find?, ih]; grind

@[simp] theorem get?_put [DecidableLT κ] [KeyOrder κ] (t : Table κ α) (k k' : κ) (a : α) :
    (t.put k a).get? k' = if k' = k then some a else t.get? k' :=
  find?_insertEntry k k' a t.entries

omit [LT κ] in
theorem find?_filter (p : κ → Bool) (k : κ) (es : List (κ × α)) :
    find? k (es.filter (fun e => p e.1)) = if p k then find? k es else none := by
  induction es with
  | nil => simp [find?]
  | cons e es ih => simp only [List.filter_cons, find?]; split <;> simp [find?, ih] <;> grind

@[simp] theorem get?_keep (t : Table κ α) (p : κ → Bool) (k : κ) :
    (t.keep p).get? k = if p k then t.get? k else none :=
  find?_filter p k t.entries

@[simp] theorem get?_erase (t : Table κ α) (k k' : κ) :
    (t.erase k).get? k' = if k' = k then none else t.get? k' := by
  simp [erase]

omit [LT κ] in
theorem find?_map (f : α → α) (k k' : κ) (es : List (κ × α)) :
    find? k' (es.map (fun e => (e.1, if e.1 = k then f e.2 else e.2))) =
      if k' = k then (find? k' es).map f else find? k' es := by
  induction es with
  | nil => simp [find?]
  | cons e es ih => simp only [List.map_cons, find?, ih]; grind

@[simp] theorem get?_adjust (t : Table κ α) (k k' : κ) (f : α → α) :
    (t.adjust k f).get? k' = if k' = k then (t.get? k').map f else t.get? k' :=
  find?_map f k k' t.entries

omit [LT κ] in
theorem find?_eq_none_of_ne {k : κ} {es : List (κ × α)} (h : ∀ e ∈ es, k ≠ e.1) :
    find? k es = none := by
  induction es with
  | nil => rfl
  | cons e es ih => simp [find?, h e (by simp), ih fun d hd => h d (by simp [hd])]

omit [DecidableEq κ] in
theorem ne_of_lt [KeyOrder κ] {k k' : κ} (h : k < k') : k ≠ k' := by
  rintro rfl
  exact KeyOrder.irrefl k h

theorem find?_eq_none_of_lt [KeyOrder κ] {k : κ} {es : List (κ × α)}
    (h : ∀ e ∈ es, k < e.1) : find? k es = none :=
  find?_eq_none_of_ne fun e he => ne_of_lt (h e he)

omit [LT κ] in
theorem mem_of_find?_eq_some {k : κ} {a : α} {es : List (κ × α)} (h : find? k es = some a) :
    (k, a) ∈ es := by
  induction es with
  | nil => simp [find?] at h
  | cons e es ih =>
    simp only [find?] at h
    split at h
    · next eq =>
      obtain rfl : e.2 = a := by simpa using h
      rw [eq]
      exact List.mem_cons_self
    · exact List.mem_cons_of_mem e (ih h)

omit [LT κ] in
theorem find?_eq_some_of_mem {k : κ} {a : α} {es : List (κ × α)}
    (hes : es.Pairwise (fun a b => a.1 ≠ b.1)) (h : (k, a) ∈ es) : find? k es = some a := by
  induction es with
  | nil => simp at h
  | cons e es ih =>
    rw [List.pairwise_cons] at hes
    rcases List.mem_cons.1 h with rfl | h
    · simp [find?]
    · simp [find?, (hes.1 _ h).symm, ih hes.2 h]

omit [DecidableEq κ] in
theorem distinct_keys [KeyOrder κ] (t : Table κ α) :
    t.entries.Pairwise (fun a b => a.1 ≠ b.1) :=
  t.sorted.imp ne_of_lt

theorem mem_entries_iff [KeyOrder κ] {t : Table κ α} {k : κ} {a : α} :
    (k, a) ∈ t.entries ↔ t.get? k = some a :=
  ⟨find?_eq_some_of_mem t.distinct_keys, mem_of_find?_eq_some⟩

omit [DecidableEq κ] in
theorem nodup_keys [KeyOrder κ] (t : Table κ α) : (t.entries.map Prod.fst).Nodup :=
  List.pairwise_map.2 t.distinct_keys

theorem eq_of_find? [KeyOrder κ] {es fs : List (κ × α)}
    (hes : es.Pairwise (fun a b => a.1 < b.1)) (hfs : fs.Pairwise (fun a b => a.1 < b.1))
    (h : ∀ k, find? k es = find? k fs) : es = fs := by
  induction es generalizing fs with
  | nil =>
    cases fs with
    | nil => rfl
    | cons f fs => simpa [find?] using h f.1
  | cons e es ih =>
    cases fs with
    | nil => simpa [find?] using h e.1
    | cons f fs =>
      rw [List.pairwise_cons] at hes hfs
      have notLt : ¬ e.1 < f.1 := fun lt => by
        have none := @find?_eq_none_of_lt _ _ _ _ _ e.1 (f :: fs) fun d hd => by
          rcases List.mem_cons.1 hd with rfl | hd
          · exact lt
          · exact KeyOrder.trans lt (hfs.1 d hd)
        rw [← h] at none
        simp [find?] at none
      have notGt : ¬ f.1 < e.1 := fun lt => by
        have none := @find?_eq_none_of_lt _ _ _ _ _ f.1 (e :: es) fun d hd => by
          rcases List.mem_cons.1 hd with rfl | hd
          · exact lt
          · exact KeyOrder.trans lt (hes.1 d hd)
        rw [h] at none
        simp [find?] at none
      have key : e.1 = f.1 := KeyOrder.trichotomy notLt notGt
      have val : e.2 = f.2 := by simpa [find?, key] using h e.1
      have rest : es = fs := ih hes.2 hfs.2 fun k => by
        by_cases eq : k = e.1
        · subst eq
          rw [find?_eq_none_of_lt hes.1, find?_eq_none_of_lt (key ▸ hfs.1)]
        · have := h k
          simp only [find?, eq, key ▸ eq, if_false] at this
          exact this
      rw [rest, Prod.ext key val]

theorem ext_get? [KeyOrder κ] {s t : Table κ α}
    (h : ∀ k, s.get? k = t.get? k) : s = t := by
  cases s; cases t; simp only [mk.injEq]; exact eq_of_find? ‹_› ‹_› h

section Rebuilding

variable [DecidableLT κ] [KeyOrder κ]

theorem get?_foldl_put {es : List (κ × α)} (h : es.Pairwise (fun a b => a.1 ≠ b.1))
    (t : Table κ α) (k : κ) :
    (es.foldl (fun t e => t.put e.1 e.2) t).get? k = (find? k es).or (t.get? k) := by
  induction es generalizing t with
  | nil => rfl
  | cons e es ih =>
    rw [List.pairwise_cons] at h
    rw [List.foldl_cons, ih h.2, get?_put, find?]
    by_cases eq : k = e.1
    · rw [eq, find?_eq_none_of_ne h.1, if_pos rfl, if_pos rfl]
      rfl
    · rw [if_neg eq, if_neg eq]

theorem ofList_of_perm {es : List (κ × α)} {t : Table κ α} (h : es.Perm t.entries) :
    ofList es = t := by
  have hes : es.Pairwise (fun a b => a.1 ≠ b.1) :=
    t.distinct_keys.perm h.symm (fun ne => ne.symm)
  apply ext_get?
  intro k
  rw [ofList, get?_foldl_put hes, get?_empty, Option.or_none]
  apply Option.ext
  intro a
  rw [← mem_entries_iff, ← h.mem_iff]
  exact ⟨mem_of_find?_eq_some, find?_eq_some_of_mem hes⟩

end Rebuilding

end Table

end ForumClient
