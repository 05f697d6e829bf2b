import ForumClient.Proofs.Downloads
import ForumClient.Proofs.SessionRun

/-!
How a download ends. The image waits until its download is settled, by the first of the ways in
which the transfer has ended; nothing is heard afterwards. Downloads are told apart by their slots
only, so one that was begun before its slot was dropped is settled into the same image.
-/

namespace ForumClient

namespace Browser

theorem attempt_eq_ok_iff {b : Browser} {c : Call} {what : String} :
    b.attempt c what = .ok () ↔ b.thrown? c = none := by
  rw [Browser.attempt]
  cases b.thrown? c <;> simp

end Browser

namespace Transfer

/-- Whether a transfer that is over brings an image: no call on the way to a name for its bytes
throws. -/
def Delivers (b : Browser) (e : TransferEnd) (status : Nat) : Prop :=
  e = .load ∧ status < 400 ∧
    ∀ c ∈ [Call.status, .response, .blob, .objectUrl], b.thrown? c = none

instance (b : Browser) (e : TransferEnd) (status : Nat) : Decidable (Delivers b e status) :=
  inferInstanceAs (Decidable (_ ∧ _ ∧ _))

variable {b : Browser} {e : TransferEnd} {status number names : Nat} {url : Text}

theorem collect_eq_ok_iff : (collect b number status names).1 = .ok url ↔
    Delivers b .load status ∧ ("blob:" ++ toString (names + 1)).toList = url := by
  unfold collect
  have called {c : Call} {what : String} (h : b.thrown? c = none) : b.attempt c what = .ok () :=
    Browser.attempt_eq_ok_iff.mpr h
  constructor
  · intro h
    split at h
    · cases h
    next hstatus =>
    dsimp only at h
    split at h
    · cases h
    next hsmall =>
    split at h
    · cases h
    next hblob =>
    split at h
    · cases h
    next hurl =>
    cases hresponse : b.attempt .response "XHR response" with
    | error e => rw [hresponse] at hblob; cases hblob
    | ok =>
      rw [hresponse] at hblob
      refine ⟨⟨rfl, Nat.lt_of_not_le hsmall, ?_⟩, Except.ok.inj h⟩
      simp only [List.forall_mem_cons]
      exact ⟨Browser.attempt_eq_ok_iff.mp hstatus, Browser.attempt_eq_ok_iff.mp hresponse,
        Browser.attempt_eq_ok_iff.mp hblob, Browser.attempt_eq_ok_iff.mp hurl, nofun⟩
  · rintro ⟨⟨-, hsmall, hcalls⟩, rfl⟩
    simp only [List.forall_mem_cons] at hcalls
    obtain ⟨hstatus, hresponse, hblob, hurl, -⟩ := hcalls
    have hbytes : (do b.attempt .response "XHR response"; b.attempt .blob "Blob" :
        Except String Unit) = .ok () := by
      rw [called hresponse, called hblob]
      rfl
    rw [called hstatus]
    dsimp only
    rw [if_neg (Nat.not_le_of_lt hsmall), hbytes, called hurl]

theorem conclude_eq_ok_iff : (conclude b number names e status).1 = .ok url ↔
    Delivers b e status ∧ ("blob:" ++ toString (names + 1)).toList = url := by
  cases e with
  | error | abort | timeout => exact iff_of_false nofun fun h => by cases h.1.1
  | load =>
    have hcollect : (collect b number status names).1 = .ok url ↔ _ := collect_eq_ok_iff
    rw [← hcollect]
    change (collect b number status names).1.mapError Failure.transport = .ok url ↔ _
    cases (collect b number status names).1 with
    | error e => exact iff_of_false nofun nofun
    | ok url' => exact ⟨fun h => by cases h; rfl, fun h => by cases h; rfl⟩

end Transfer

namespace Image

variable {i : Image}

def Waits (i : Image) : Prop := i.enlarged = true ∧ i.download = .loading

def ofEnd (b : Browser) (names : Nat) (e : TransferEnd) (status : Nat) : Image :=
  if Transfer.Delivers b e status then
    { enlarged := true, download := .loaded ("blob:" ++ toString (names + 1)).toList }
  else { enlarged := true, download := .failed, label := failedLabel }

theorem settle_conclude (hi : i.Waits) (b : Browser) (number names : Nat) (e : TransferEnd)
    (status : Nat) :
    i.settle (Transfer.conclude b number names e status).1 = ofEnd b names e status := by
  obtain ⟨enlarged, download, label⟩ := i
  obtain ⟨rfl, rfl⟩ := hi
  rw [ofEnd]
  split
  · next h =>
    rw [Transfer.conclude_eq_ok_iff.mpr ⟨h, rfl⟩]
    rfl
  · next h =>
    cases hr : (Transfer.conclude b number names e status).1 with
    | error failure => rfl
    | ok url => exact absurd (Transfer.conclude_eq_ok_iff.mp hr).1 h

theorem Waits.progress (hi : i.Waits) (loaded total : Float) : (i.progress loaded total).Waits := by
  obtain ⟨enlarged, download, label⟩ := i
  obtain ⟨rfl, rfl⟩ := hi
  exact ⟨rfl, rfl⟩

theorem Waits.toggle (hi : i.Waits) (view : ImageView) : (i.toggle view).2 = i := by
  obtain ⟨enlarged, download, label⟩ := i
  obtain ⟨rfl, rfl⟩ := hi
  cases view <;> rfl

theorem of_toggle_fetch {view : ImageView} (h : (i.toggle view).1 = .fetch) :
    i.download ≠ .loading ∧
      (i.toggle view).2 = { enlarged := true, download := .loading, label := startLabel } := by
  obtain ⟨enlarged, download, label⟩ := i
  cases view with
  | newTab => cases h
  | expand => cases download <;> cases enlarged <;> first | exact ⟨by simp, rfl⟩ | cases h

end Image

namespace Document

variable {d : Document} {op : Op} {k : Text}

theorem image_perform_of_keeps (h : op.drops k (d.answer op) = false) :
    (d.perform op).image k =
      (op.imageInput? k (d.answer op)).elim (d.image k) (d.image k).next := by
  rw [image_perform, h]
  cases op.imageInput? k (d.answer op) <;> rfl

theorem image_clickImage (d : Document) (id : Text) (view : ImageView) (k : Text) :
    (d.perform (.clickImage id view)).image k =
      if k = id ∧ (d.answer (.clickImage id view)).isSome then ((d.image k).toggle view).2
      else d.image k := by
  rw [image_perform_of_keeps rfl]
  cases d.answer (.clickImage id view) with
  | none => simp [Op.imageInput?]
  | some a => by_cases e : k = id <;> simp [Op.imageInput?, e, Image.next]

theorem image_imageProgress (d : Document) (id : Text) (loaded total : Float) (k : Text) :
    (d.perform (.imageProgress id loaded total)).image k =
      if k = id then (d.image k).progress loaded total else d.image k := by
  rw [image_perform_of_keeps rfl]
  by_cases e : k = id <;> simp [Op.imageInput?, e, Image.next]

theorem image_settleImage (d : Document) (id : Text) (result : Except Failure Text) (k : Text) :
    (d.perform (.settleImage id result)).image k =
      if k = id then (d.image k).settle result else d.image k := by
  rw [image_perform_of_keeps rfl]
  by_cases e : k = id <;> simp [Op.imageInput?, e, Image.next]

theorem toggle_of_answer {id : Text} {view : ImageView} {action : Image.Action} {url : Text}
    (h : d.answer (.clickImage id view) = some (.image action url)) :
    ((d.image id).toggle view).1 = action := by
  rw [answer, Option.map_eq_some_iff] at h
  obtain ⟨⟨action', url'⟩, h, e⟩ := h
  cases e
  exact (action_clickImage h).symm

end Document

namespace PostBody

open Document (Op quoteOf)

namespace Mounted

def Move.drops (slot : Text) : Move → Bool
  | .clicked id answer => (Op.clickReference id).drops slot answer
  | _ => false

def Move.settles (slot : Text) : Move → Bool
  | .settled slot' _ => slot' = slot
  | _ => false

def Move.clicks (slot : Text) : Move → Bool
  | .viewed slot' | .begun slot' _ | .refused slot' => slot' = slot
  | .clicked id answer => (Op.clickReference id).drops slot answer
  | _ => false

inductive Touch (m : Mounted) (slot : Text) : Move → Image → Prop
  | none (mv : Move) : Touch m slot mv (m.image slot)
  | progress (loaded total : Float) : Touch m slot .other ((m.image slot).progress loaded total)
  | viewed (view : ImageView) : Touch m slot (.viewed slot) ((m.image slot).toggle view).2
  | begun (view : ImageView) (fetch : ((m.image slot).toggle view).1 = .fetch) :
      Touch m slot (.begun slot n) ((m.image slot).toggle view).2
  | refused (view : ImageView) (fetch : ((m.image slot).toggle view).1 = .fetch) (e : Failure) :
      Touch m slot (.refused slot) (((m.image slot).toggle view).2.settle (.error e))
  | settled (result : ((Host.finishDownload n).run m.host).1 = some r) :
      Touch m slot (.settled slot n) ((m.image slot).settle r)

variable {m m' : Mounted} {mv : Move} {log : List Move} {slot : Text} {n : Nat}

theorem Step.touch (h : Step m mv m') (hd : mv.drops slot = false) :
    Touch m slot mv (m'.image slot) := by
  cases h with
  | reference id fetches =>
    rw [image, Document.image_perform_of_keeps hd]
    exact .none _
  | viewed view answer =>
    rw [image, Document.image_clickImage]
    split
    · next h =>
      obtain ⟨rfl, -⟩ := h
      exact .viewed view
    · exact .none _
  | begun view answer start =>
    rw [image, Document.image_clickImage]
    split
    · next h =>
      obtain ⟨rfl, -⟩ := h
      exact .begun view (Document.toggle_of_answer answer)
    · exact .none _
  | refused view answer start =>
    rw [image, Document.image_settleImage, Document.image_clickImage]
    split
    · next h =>
      subst h
      rw [if_pos ⟨rfl, Option.isSome_of_mem answer⟩]
      exact .refused view (Document.toggle_of_answer answer) _
    · next h =>
      rw [if_neg fun hk => h hk.1]
      exact .none _
  | progress k loaded total heard =>
    rw [image, PostBody.progress]
    split
    · change Touch m slot .other ((m.body.document.perform (.imageProgress _ _ _)).image slot)
      rw [Document.image_imageProgress]
      split
      · exact .progress loaded total
      · exact .none _
    · exact .none _
  | ended status heard => exact .none _
  | settled here result =>
    rw [image, Document.image_settleImage]
    split
    · next h =>
      subst h
      exact .settled result
    · exact .none _
  | answered id reply fetches =>
    rw [image, Document.image_perform_of_keeps rfl]
    exact .none _
  | elsewhere h fetches transfers browser => exact .none _

theorem Touch.waits {i : Image} (h : Touch m slot mv i) (hw : (m.image slot).Waits)
    (hs : mv.settles slot = false) : i.Waits := by
  cases h with
  | none => exact hw
  | progress loaded total => exact hw.progress loaded total
  | viewed view =>
    rw [hw.toggle]
    exact hw
  | begun view fetch | refused view fetch => exact absurd hw.2 (Image.of_toggle_fetch fetch).1
  | settled result => simp [Move.settles] at hs

theorem Touch.stays {i : Image} (h : Touch m slot mv i) (hl : (m.image slot).download ≠ .loading)
    (hc : mv.clicks slot = false) : i = m.image slot := by
  cases h with
  | none => rfl
  | progress loaded total => exact Image.progress_of_ne_loading hl loaded total
  | settled result => exact Image.settle_of_ne_loading hl _
  | viewed | begun | refused => simp [Move.clicks] at hc

def Undisturbed (slot : Text) (log : List Move) : Prop :=
  ∀ mv ∈ log, mv.drops slot = false ∧ mv.settles slot = false

theorem waits_of_runs (run : Runs Step m log m') (hw : (m.image slot).Waits)
    (hlog : Undisturbed slot log) : (m'.image slot).Waits := by
  induction run with
  | refl => exact hw
  | tail _ last ih =>
    obtain ⟨hbefore, hlast⟩ := List.forall_mem_append.mp hlog
    obtain ⟨hdrops, hsettles⟩ := hlast _ (List.mem_singleton_self _)
    exact (last.touch hdrops).waits (ih hbefore) hsettles

theorem image_of_runs (run : Runs Step m log m') (hl : (m.image slot).download ≠ .loading)
    (hlog : ∀ mv ∈ log, mv.clicks slot = false) : m'.image slot = m.image slot := by
  induction run with
  | refl => rfl
  | @tail log t mv u _ last ih =>
    obtain ⟨hbefore, hlast⟩ := List.forall_mem_append.mp hlog
    have hclick := hlast mv (List.mem_singleton_self _)
    have hsame := ih hbefore
    have hdrops : mv.drops slot = false := by
      cases mv with
      | clicked => exact hclick
      | viewed | begun | refused | ended | settled | other => rfl
    rw [(last.touch hdrops).stays (hsame ▸ hl) hclick, hsame]

/-- How a download stands that a click on a slot began: `before` are the moves up to the click,
which found the body as `m₀`, and `after` those since. -/
structure Stands (before after : List Move) (m₀ : Mounted) (slot : Text) (n : Nat) (m : Mounted) :
    Prop where
  waits : .settled slot n ∉ after →
    (slot, n) ∈ m.body.downloads ∧ m.host.transfers[n]? = some (.listening (firstEnd? n after))
  settles : (firstEnd? n after).isSome = true →
    ∃ log, Runs Step m log (m.act poll) ∧ .settled slot n ∈ after ++ log
  silent : .settled slot n ∈ after → ∀ e : TransferEnd,
    m.hears n (·.watched) = false ∧ m.hears n (·.listeners.contains e) = false
  loading : Undisturbed slot after → (m.image slot).Waits
  own : Undisturbed slot after → ∀ m' later m'', Step m (.settled slot n) m' →
    Runs Step m' later m'' → (∀ mv ∈ later, mv.clicks slot = false) →
    ∃ b e status, m.host.browser = some b ∧ firstEnd? n after = some (e, status) ∧
      m''.image slot = .ofEnd b m.host.objectUrls e status
  /-- Another download that is settled in its place was waited for under the same name when the
  click asked for this one; the image is what that one's first end says. -/
  stray : Undisturbed slot after → ∀ k m' later m'', k ≠ n → Step m (.settled slot k) m' →
    Runs Step m' later m'' → (∀ mv ∈ later, mv.clicks slot = false) →
    (slot, k) ∈ m₀.body.downloads ∧
      ∃ b e status, m.host.browser = some b ∧ firstEnd? k (before ++ after) = some (e, status) ∧
        m''.image slot = .ofEnd b m.host.objectUrls e status
  /-- Where there is no such download, only a collapse around the slot can disturb it. -/
  alone : (∀ k, (slot, k) ∉ m₀.body.downloads) → (∀ mv ∈ after, mv.drops slot = false) →
    .settled slot n ∉ after → Undisturbed slot after

theorem Step.begun_inv (h : Step m (.begun slot n) m') :
    n = m.host.transfers.length ∧ (m.image slot).download ≠ .loading ∧ (m'.image slot).Waits := by
  cases h with
  | begun view answer start =>
    obtain ⟨hidle, hasked⟩ := Image.of_toggle_fetch (Document.toggle_of_answer answer)
    refine ⟨(Host.startDownload_of_ok start).1, hidle, ?_⟩
    rw [image, Document.image_clickImage, if_pos ⟨rfl, Option.isSome_of_mem answer⟩, hasked]
    exact ⟨rfl, rfl⟩

theorem Step.refused_inv (h : Step m (.refused slot) m') :
    m'.image slot = { enlarged := true, download := .failed, label := Image.failedLabel } ∧
      m'.body.downloads = m.body.downloads := by
  cases h with
  | refused view answer start =>
    obtain ⟨-, hasked⟩ := Image.of_toggle_fetch (Document.toggle_of_answer answer)
    refine ⟨?_, rfl⟩
    rw [image, Document.image_settleImage, if_pos rfl, Document.image_clickImage,
      if_pos ⟨rfl, Option.isSome_of_mem answer⟩, hasked]
    rfl

theorem Step.settled_inv (h : Step m (.settled slot n) m') :
    (slot, n) ∈ m.body.downloads ∧
      ∃ r, ((Host.finishDownload n).run m.host).1 = some r ∧
        m'.image slot = (m.image slot).settle r := by
  cases h with
  | settled here result =>
    refine ⟨here ▸ List.mem_append_right _ (List.mem_cons_self ..), _, result, ?_⟩
    rw [image, Document.image_settleImage, if_pos rfl]
    rfl

section begun

variable {before after : List Move} {m₀ m₁ : Mounted}

theorem not_begun_of_undisturbed (run : Runs Step m₁ after m) (hw : (m₁.image slot).Waits)
    (hlog : Undisturbed slot after) (k : Nat) : .begun slot k ∉ after := by
  intro hk
  obtain ⟨a, c, rfl⟩ := List.append_of_mem hk
  obtain ⟨t, t', hrun, hstep⟩ := run.exists_of_append
  exact hstep.begun_inv.2.1 (waits_of_runs hrun hw (List.forall_mem_append.mp hlog).1).2

theorem firstEnd?_begun (reached : Reached before m₀) (begun : Step m₀ (.begun slot n) m₁) :
    firstEnd? n before = none ∧ ∀ slot', .settled slot' n ∉ before := by
  have ht := Tracks.of_reached reached
  rw [begun.begun_inv.1]
  exact ⟨ht.firstEnd?_next, fun slot' h => Nat.lt_irrefl _ (ht.number _ h _ rfl)⟩

theorem firstEnd?_append_begun (k : Nat) (before after : List Move) :
    firstEnd? k (before ++ [.begun slot n] ++ after) = firstEnd? k (before ++ after) := by
  rw [firstEnd?_append, firstEnd?_concat, firstEnd?_append]
  exact congrArg (Option.or · _) Option.or_none

theorem image_of_settled {k : Nat} {later : List Move} {m'' : Mounted} (ht : Tracks log m)
    (hw : (m.image slot).Waits) (step : Step m (.settled slot k) m') (run : Runs Step m' later m'')
    (hlater : ∀ mv ∈ later, mv.clicks slot = false) :
    ∃ b e status, m.host.browser = some b ∧ firstEnd? k log = some (e, status) ∧
      m''.image slot = .ofEnd b m.host.objectUrls e status := by
  obtain ⟨hd, r, result, himage⟩ := step.settled_inv
  obtain ⟨b, e, status, hb, hk⟩ := Host.ended?_of_finishDownload result
  have hend : firstEnd? k log = some (e, status) := by
    rw [Host.ended?, ht.listening slot k hd] at hk
    exact hk
  rw [(Host.finishDownload_of_ended hb hk).1] at result
  have hresult := Option.some.inj result
  rw [← hresult, Image.settle_conclude hw] at himage
  refine ⟨b, e, status, hb, hend, ?_⟩
  rw [image_of_runs run ?_ hlater, himage]
  rw [himage, Image.ofEnd]
  split <;> simp

theorem older_of_settled {k : Nat} (reached : Reached before m₀)
    (begun : Step m₀ (.begun slot n) m₁) (run : Runs Step m₁ after m)
    (hlog : Undisturbed slot after) (hk : k ≠ n) (step : Step m (.settled slot k) m') :
    (slot, k) ∈ m₀.body.downloads := by
  have ht := Tracks.of_reached ((reached.trans (.single begun)).trans run)
  -- it has been begun before the click, by the click, or since
  obtain ⟨hbegun, hsettled⟩ := (ht.waiting slot k).mp step.settled_inv.1
  simp only [List.mem_append, List.mem_singleton, Move.begun.injEq, true_and, not_or] at *
  refine ((Tracks.of_reached reached).waiting slot k).mpr ⟨?_, hsettled.1.1⟩
  rcases hbegun with (h | h) | h
  · exact h
  · exact absurd h hk
  · exact absurd h (not_begun_of_undisturbed run begun.begun_inv.2.2 hlog k)

theorem undisturbed_of_alone (reached : Reached before m₀) (begun : Step m₀ (.begun slot n) m₁)
    (run : Runs Step m₁ after m) (alone : ∀ k, (slot, k) ∉ m₀.body.downloads)
    (hdrops : ∀ mv ∈ after, mv.drops slot = false) (hn : .settled slot n ∉ after) :
    Undisturbed slot after := by
  induction run with
  | refl => exact fun _ h => by cases h
  | @tail log t mv u run last ih =>
    obtain ⟨hbefore, hlast⟩ := List.forall_mem_append.mp hdrops
    have hlog : Undisturbed slot log := ih hbefore fun h => hn (List.mem_append_left _ h)
    refine List.forall_mem_append.mpr ⟨hlog, List.forall_mem_singleton.mpr
      ⟨hlast mv (List.mem_singleton_self mv), ?_⟩⟩
    -- the first to be settled in the slot would have been waited for before the click
    cases mv with
    | settled slot' k =>
      refine decide_eq_false fun h => ?_
      subst h
      have hk : k ≠ n := by
        rintro rfl
        exact hn (List.mem_append_right _ (List.mem_singleton_self _))
      exact alone k (older_of_settled reached begun run hlog hk last)
    | clicked | viewed | begun | refused | ended | other => rfl

theorem stands_of_begun (reached : Reached before m₀) (begun : Step m₀ (.begun slot n) m₁)
    (run : Runs Step m₁ after m) : Stands before after m₀ slot n m := by
  obtain ⟨hnone, hfresh⟩ := firstEnd?_begun reached begun
  have hreached := (reached.trans (.single begun)).trans run
  have ht := Tracks.of_reached hreached
  have hown : firstEnd? n (before ++ [.begun slot n] ++ after) = firstEnd? n after := by
    rw [firstEnd?_append_begun, firstEnd?_append, hnone, Option.none_or]
  have waits (h : .settled slot n ∉ after) : (slot, n) ∈ m.body.downloads ∧
      m.host.transfers[n]? = some (.listening (firstEnd? n after)) := by
    have hd : (slot, n) ∈ m.body.downloads :=
      (ht.waiting slot n).mpr ⟨by simp, by simp [hfresh slot, h]⟩
    exact ⟨hd, hown ▸ ht.listening slot n hd⟩
  have loading (hlog : Undisturbed slot after) : (m.image slot).Waits :=
    waits_of_runs run begun.begun_inv.2.2 hlog
  refine ⟨waits, fun hended => ?_, fun hsettled e => ?_, loading,
    fun hlog m' later m'' step run' hc => ?_,
    fun hlog k m' later m'' hk step run' hc => ?_, undisturbed_of_alone reached begun run⟩
  · refine ⟨m.pollLog, runs_poll m, List.mem_append.mpr ?_⟩
    by_cases h : .settled slot n ∈ after
    · exact .inl h
    · obtain ⟨hd, hget⟩ := waits h
      refine .inr (settled_mem_pollLog hreached.browser hd ?_)
      rwa [Host.ended?, hget]
  · obtain ⟨t, hget, hwatched, hlisteners⟩ := ht.released slot n (List.mem_append_right _ hsettled)
    simp [hears, hget, hwatched, hlisteners]
  · obtain ⟨b, e, status, hb, hend, himage⟩ := image_of_settled ht (loading hlog) step run' hc
    exact ⟨b, e, status, hb, hown ▸ hend, himage⟩
  · obtain ⟨b, e, status, hb, hend, himage⟩ := image_of_settled ht (loading hlog) step run' hc
    exact ⟨older_of_settled reached begun run hlog hk step, b, e, status, hb,
      firstEnd?_append_begun k before after ▸ hend, himage⟩

end begun

/-- An image that is asked for fails at once, or a download begins. The download waits until its
transfer has ended, in whichever way, and is then settled by the first of its ends, unless the slot
is dropped or a download that was waited for under the same name before is settled first. -/
theorem download_settles_by_first_end {before : List Move} {m₀ : Mounted} {url : Text}
    (reached : Reached before m₀)
    (asks : m₀.body.document.answer (.clickImage slot m₀.host.storage.imageView) =
      some (.image .fetch url)) :
    match ((Host.startDownload url).run m₀.host).1 with
    | .error _ => (m₀.act (click slot)).image slot =
          { enlarged := true, download := .failed, label := Image.failedLabel } ∧
        (m₀.act (click slot)).body.downloads = m₀.body.downloads
    | .ok n => ∀ after m, Runs Step (m₀.act (click slot)) after m →
        Stands before after m₀ slot n m := by
  have hclick : m₀.act (click slot) = m₀.act (clickImage slot) := by
    unfold act click
    rw [clickReference_of_asks asks]
  have step := step_clickImage asks
  rw [hclick]
  cases start : ((Host.startDownload url).run m₀.host).1 with
  | ok n =>
    rw [start] at step
    exact fun after m run => stands_of_begun reached step run
  | error e =>
    rw [start] at step
    exact step.refused_inv

def imageOf : Text := "<img src='t' onclick=\"_enlarge(this, 'u')\">".toList

def toldTwice : Mounted :=
  ((act ⟨.bare [], .ofHtml imageOf⟩ (click ['0'])).tell 0 .error 0).tell 0 .load 200

theorem failed_toldTwice : Reached [] ⟨.bare [], .ofHtml imageOf⟩ ∧
    (Document.ofHtml imageOf).answer (.clickImage ['0'] (Host.bare []).storage.imageView) =
      some (.image .fetch ['u']) ∧
    Runs Step (act ⟨.bare [], .ofHtml imageOf⟩ (click ['0']))
      [.ended 0 .error 0, .ended 0 .load 200] toldTwice ∧
    ∃ m, Step toldTwice (.settled ['0'] 0) m ∧
      m.image ['0'] = { enlarged := true, download := .failed, label := Image.failedLabel } := by
  have reached : Reached [] ⟨.bare [], .ofHtml imageOf⟩ := ⟨_, _, rfl, .refl⟩
  have asks : (Document.ofHtml imageOf).answer
      (.clickImage ['0'] (Host.bare []).storage.imageView) = some (.image .fetch ['u']) := by
    decide +kernel
  have run : Runs Step (act ⟨.bare [], .ofHtml imageOf⟩ (click ['0']))
      [.ended 0 .error 0, .ended 0 .load 200] toldTwice :=
    (Runs.single (.ended 0 (by decide +kernel))).tail (.ended 200 (by decide +kernel))
  have here : toldTwice.body.downloads = [] ++ (['0'], 0) :: [] := by decide +kernel
  have ended : toldTwice.host.ended? 0 = some (.error, 0) := by decide +kernel
  have browser : toldTwice.host.browser.isSome = true := by decide +kernel
  obtain ⟨b, hb⟩ := Option.isSome_iff_exists.mp browser
  have settled := Step.settled here (Host.finishDownload_of_ended hb ended).1
  refine ⟨reached, asks, run, _, settled, ?_⟩
  have start : ((Host.startDownload ['u']).run (.bare [])).1 = .ok 0 := rfl
  have stands := download_settles_by_first_end reached asks
  rw [start] at stands
  have undisturbed : Undisturbed ['0'] [.ended 0 .error 0, .ended 0 .load 200] := by
    simp [Undisturbed, Move.drops, Move.settles]
  obtain ⟨_, e, status, -, hend, himage⟩ :=
    (stands _ _ run).own undisturbed _ _ _ settled .refl nofun
  cases hend
  rw [himage, Image.ofEnd, if_neg fun h => by cases h.1]

def reopened : Mounted :=
  let opened := (act ⟨.bare [], .ofHtml (quoteOf "3")⟩ (click ['0'])).respond 0
    (.text 200 (String.ofList imageOf))
  let closed := (opened.act (click ['0', '.', '0'])).act (click ['0'])
  (closed.act (click ['0'])).respond 1 (.text 200 (String.ofList imageOf))

/-- The image is asked for again, and its transfer fails after the other one has ended well. -/
theorem loaded_by_other :
    let m := reopened.act (click ['0', '.', '0'])
    let last := (((m.tell 0 .load 200).act poll).tell 1 .error 0).act poll
    reopened.body.document.answer
        (.clickImage ['0', '.', '0'] reopened.host.storage.imageView) = some (.image .fetch ['u']) ∧
      m.body.downloads = [(['0', '.', '0'], 0), (['0', '.', '0'], 1)] ∧
      last.host.ended? 1 = some (.error, 0) ∧
      last.image ['0', '.', '0'] = { enlarged := true, download := .loaded "blob:1".toList } := by
  decide +kernel

end Mounted

end PostBody

end ForumClient
