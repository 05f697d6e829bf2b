import ForumClient.Proofs.PageMoves

namespace ForumClient

def Act.Within (R : Host → Host → Prop) (f : Act α) : Prop := ∀ h, R h (f.run h).2

namespace Act.Within

variable {R R' : Host → Host → Prop} {f : Act α}

theorem bind [IsTrans Host R] {g : α → Act β} (hf : Within R f) (hg : ∀ a, Within R (g a)) :
    Within R (f >>= g) :=
  fun h => IsTrans.trans _ _ _ (hf h) (hg (f.run h).1 (f.run h).2)

theorem pure [Std.Refl R] (a : α) : Within R (Pure.pure a) := fun h => refl h

theorem get [Std.Refl R] : Within R MonadState.get := fun h => refl h

theorem mono (hf : Within R f) (h : ∀ h h', R h h' → R' h h') : Within R' f :=
  fun host => h host _ (hf host)

theorem foldlM [Std.Refl R] [IsTrans Host R] {g : σ → α → Act σ} {xs : List α}
    (hg : ∀ s, ∀ x ∈ xs, Within R (g s x)) (s : σ) : Within R (xs.foldlM g s) := by
  induction xs generalizing s with
  | nil => exact .pure s
  | cons x xs ih =>
    rw [List.foldlM_cons]
    exact .bind (hg s x List.mem_cons_self) fun s' =>
      ih (fun s x hx => hg s x (List.mem_cons_of_mem _ hx)) s'

end Act.Within

namespace Host

def Logs (P : Record → Prop) (h h' : Host) : Prop :=
  ∃ records replies draws, h' = { h with records := h.records ++ records, replies, draws } ∧
    ∀ r ∈ records, P r

variable {P : Record → Prop} {h h' : Host}

instance : Std.Refl (Logs P) :=
  ⟨fun h => ⟨[], h.replies, h.draws, by rw [List.append_nil], nofun⟩⟩

instance : IsTrans Host (Logs P) where
  trans := by
    rintro h _ _ ⟨new, replies, draws, rfl, hnew⟩ ⟨new', replies', draws', rfl, hnew'⟩
    exact ⟨new ++ new', replies', draws', by rw [List.append_assoc],
      List.forall_mem_append.mpr ⟨hnew, hnew'⟩⟩

theorem Logs.storage (hlogs : Logs P h h') : h'.storage = h.storage := by
  obtain ⟨_, _, _, rfl, -⟩ := hlogs
  rfl

theorem logs_draws (h : Host) (draws : Draws) : Logs P h { h with draws } :=
  ⟨[], h.replies, draws, by rw [List.append_nil], nofun⟩

theorem within_record {r : Record} (hr : P r) : (record r).Within (Logs P) := by
  intro h
  change Logs P h (if h.browser.isSome then { h with records := h.records ++ [r] } else h)
  split
  · exact ⟨[r], _, _, rfl, List.forall_mem_singleton.mpr hr⟩
  · exact refl h

theorem within_inWindow {r : Record} (hr : P r) : (inWindow r).Within (Logs P) := by
  refine .bind .get fun h => ?_
  split
  · split
    · exact within_record hr
    · exact .pure ()
  · exact .pure ()

def withStored (h : Host) (s : Storage) : Host :=
  match h.browser with
  | some b => { h with browser := some { b with stored := s.entries } }
  | none => { h with memory := s }

theorem storage_withStored (h : Host) (key value : String) :
    (h.withStored (h.storage.set key value).2).storage = (h.storage.set key value).2 := by
  have hset (s : Storage) : (s.set key value).2 =
      { s with entries := (s.set key value).2.entries } := by
    rw [Storage.set]
    split <;> rfl
  rw [withStored, hset]
  cases hb : h.browser with
  | none => rfl
  | some b => simp only [storage, hb]; rfl

theorem logs_keep {key : String} {s : Storage} (hP : ∀ value, P (.store key value))
    (result : Except Failure Unit) (h : Host) :
    Logs P (h.withStored s) ((keep key (result, s)).run h).2 := by
  cases result with
  | error e => exact refl (r := Logs P) (h.withStored s)
  | ok => exact within_record (hP _) (h.withStored s)

theorem within_captcha (hP : ∀ name arguments, P (.call name arguments)) :
    captcha.Within (Logs P) := by
  refine .bind .get fun h => ?_
  split
  · exact .pure none
  · refine .bind ?_ fun _ => ?_
    · unfold invoke
      split
      · exact .bind (within_record (hP _ _)) fun _ => .pure _
      · exact .pure none
    · split <;> exact .pure _

end Host

namespace Exchange

open Host (Logs)

variable {P : Record → Prop}

theorem within_start {method url : String} {form : Option (List (FormField String))}
    (hP : P (.fetch method url form)) (b : Browser) :
    (start b method url form).Within (Logs P) := by
  unfold start
  split
  · exact .pure _
  · refine .bind (Host.within_record hP) fun _ => ?_
    split
    · exact .pure _
    · exact fun h => ⟨[], _, _, by rw [List.append_nil]; rfl, nofun⟩

theorem within_post {url : String} {fields : List (FormField String)}
    (hP : P (.fetch "POST" url (some fields))) : (post url fields).Within (Logs P) := by
  refine .bind .get fun h => ?_
  split
  · exact .pure _
  · split
    · exact .pure _
    · exact within_start hP _

theorem within_fetchPost (hP : ∀ url, P (.fetch "GET" url none)) (p : PostId) :
    (fetchPost p).Within (Logs P) := by
  refine .bind .get fun h => ?_
  split
  · exact .pure _
  · exact within_start (hP _) _

end Exchange

end ForumClient
