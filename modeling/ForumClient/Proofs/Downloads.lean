import ForumClient.Proofs.Runs
import ForumClient.Proofs.Ignored
import ForumClient.Proofs.Machines
import ForumClient.Proofs.Within

namespace ForumClient

namespace Transfer

variable {b : Browser} {t : Transfer}

def listening (ended : Option (TransferEnd × Nat)) : Transfer :=
  { watched := true, listeners := TransferEnd.all, ended }

theorem attachable_of_attachAll (h : attachAll b = .ok ()) : attachable b = TransferEnd.all := by
  have attached (es : List TransferEnd)
      (h : es.forM (fun e => b.attempt (.listen e.event) "XHR listener") = .ok ()) :
      es.takeWhile (fun e => (b.thrown? (.listen e.event)).isNone) = es := by
    induction es with
    | nil => rfl
    | cons e es ih =>
      change (do b.attempt _ _; _ : Except String Unit) = _ at h
      rw [Browser.attempt] at h
      cases hthrown : b.thrown? (.listen e.event) with
      | some v =>
        rw [hthrown] at h
        cases h
      | none =>
        rw [hthrown] at h
        rw [List.takeWhile_cons_of_pos (by rw [hthrown]; rfl), ih h]
  exact attached TransferEnd.all h

theorem start_of_ok {number : Nat} {url : String} (h : (start b number url).1 = .ok ()) :
    (start b number url).2.1 = listening none := by
  unfold start at h ⊢
  split
  · next hopen => rw [hopen] at h; cases h
  · next hopen =>
    rw [hopen] at h
    dsimp only at h ⊢
    split
    · next hsend => rw [hsend] at h; cases h
    · next hsend =>
      have hattach : attachAll b = .ok () := by
        cases hall : attachAll b with
        | ok => rfl
        | error e => rw [hall] at hsend; cases hsend
      rw [listening, attachable_of_attachAll hattach]

end Transfer

namespace Host

variable {b : Browser} {h : Host} {url : Text} {n : Nat}

def Started (h h' : Host) : Prop := h'.browser = h.browser ∧ h.transfers <+: h'.transfers

theorem started_startDownload (url : Text) (h : Host) :
    h.Started ((startDownload url).run h).2 := by
  have unchanged : h.Started h := ⟨rfl, List.prefix_rfl⟩
  unfold startDownload
  simp only [Act.run_bind, Act.run_get]
  split
  · exact unchanged
  · split
    · exact unchanged
    · exact ⟨rfl, List.prefix_append _ _⟩

theorem run_startDownload (hb : h.browser = some b) (ht : b.attempt .transfer "XHR" = .ok ()) :
    let started := Transfer.start b (h.transfers.length + 1) (String.ofList url)
    (startDownload url).run h = ((started.1.map fun _ => h.transfers.length).mapError .transport,
      { h with
        transfers := h.transfers ++ [started.2.1]
        records := h.records ++ started.2.2 }) := by
  unfold startDownload
  simp only [Act.run_bind, Act.run_get, hb, ht]
  rfl

theorem startDownload_of_ok (hok : ((startDownload url).run h).1 = .ok n) :
    n = h.transfers.length ∧
      ((startDownload url).run h).2.transfers = h.transfers ++ [.listening none] := by
  cases hb : h.browser with
  | none =>
    unfold startDownload at hok
    simp only [Act.run_bind, Act.run_get, hb] at hok
    cases hok
  | some b =>
    cases ht : b.attempt .transfer "XHR" with
    | error e =>
      unfold startDownload at hok
      simp only [Act.run_bind, Act.run_get, hb, ht] at hok
      cases hok
    | ok =>
      rw [run_startDownload hb ht] at hok ⊢
      cases hstart : (Transfer.start b (h.transfers.length + 1) (String.ofList url)).1 with
      | error e =>
        rw [hstart] at hok
        cases hok
      | ok =>
        rw [hstart] at hok
        cases hok
        exact ⟨rfl, congrArg (h.transfers ++ [·]) (Transfer.start_of_ok hstart)⟩

def ended? (h : Host) (n : Nat) : Option (TransferEnd × Nat) := (h.transfers[n]?).bind (·.ended)

theorem finishDownload_of_none (result : ((finishDownload n).run h).1 = none) :
    ((finishDownload n).run h).2 = h := by
  unfold finishDownload at result ⊢
  simp only [Act.run_bind, Act.run_get] at result ⊢
  split at result
  · cases result
  · rfl

theorem ended?_of_finishDownload {r : Except Failure Text}
    (result : ((finishDownload n).run h).1 = some r) :
    ∃ b e status, h.browser = some b ∧ h.ended? n = some (e, status) := by
  unfold finishDownload at result
  simp only [Act.run_bind, Act.run_get] at result
  split at result
  · next b e status hb hn => exact ⟨b, e, status, hb, hn⟩
  · cases result

theorem finishDownload_of_ended {e : TransferEnd} {status : Nat} (hb : h.browser = some b)
    (hn : h.ended? n = some (e, status)) :
    ((finishDownload n).run h).1 =
        some (Transfer.conclude b (n + 1) h.objectUrls e status).1 ∧
      ((finishDownload n).run h).2.transfers = h.transfers.modify n Transfer.release ∧
      ((finishDownload n).run h).2.browser = h.browser := by
  rw [ended?] at hn
  unfold finishDownload
  simp only [Act.run_bind, Act.run_get, hn, hb]
  exact ⟨rfl, rfl, rfl⟩

theorem ended?_release {h' : Host} {k : Nat}
    (htransfers : h'.transfers = h.transfers.modify k Transfer.release) (n : Nat) :
    h'.ended? n = h.ended? n := by
  rw [ended?, ended?, htransfers, List.getElem?_modify]
  cases h.transfers[n]? with
  | none => rfl
  | some t =>
    change (if k = n then t.release else t).ended = t.ended
    split <;> rfl

end Host

namespace PostBody

structure Mounted where
  host : Host
  body : PostBody

namespace Mounted

def act (m : Mounted) (f : PostBody → Act PostBody) : Mounted :=
  ⟨((f m.body).run m.host).2, ((f m.body).run m.host).1⟩

def respond (fetch : Nat) (r : Reply) (m : Mounted) : Mounted :=
  act ⟨{ m.host with replies := m.host.replies.set fetch (some r) }, m.body⟩ poll

def tell (n : Nat) (e : TransferEnd) (status : Nat) (m : Mounted) : Mounted :=
  ⟨{ m.host with transfers := m.host.transfers.modify n (.finish e status) }, m.body⟩

def image (m : Mounted) (slot : Text) : Image := m.body.document.image slot

def hears (m : Mounted) (n : Nat) (attached : Transfer → Bool) : Bool :=
  (m.host.transfers[n]?).any attached && m.body.awaits n

/-- A reference is clicked; an image is clicked, which asks for no download, begins one or is
refused one; a transfer ends; a download is settled; or something else happens. -/
inductive Move
  | clicked : Text → Option Document.Action → Move
  | viewed : (slot : Text) → Move
  | begun : (slot : Text) → (number : Nat) → Move
  | refused : (slot : Text) → Move
  | ended : (number : Nat) → TransferEnd → (status : Nat) → Move
  | settled : (slot : Text) → (number : Nat) → Move
  | other

/-- One move. What the host does besides does not touch the transfers. -/
inductive Step : Mounted → Move → Mounted → Prop
  | reference (id : Text) (fetches : List (Text × PostId × Exchange)) :
      Step m (.clicked id (m.body.document.answer (.clickReference id)))
        ⟨m.host, { m.body with
          document := m.body.document.perform (.clickReference id)
          fetches }⟩
  | viewed (view : ImageView)
      (answer : ∀ url, m.body.document.answer (.clickImage slot view) ≠ some (.image .fetch url)) :
      Step m (.viewed slot)
        ⟨m.host, { m.body with document := m.body.document.perform (.clickImage slot view) }⟩
  | begun (view : ImageView)
      (answer : m.body.document.answer (.clickImage slot view) = some (.image .fetch url))
      (start : ((Host.startDownload url).run m.host).1 = .ok n) :
      Step m (.begun slot n) ⟨((Host.startDownload url).run m.host).2, { m.body with
        document := m.body.document.perform (.clickImage slot view)
        downloads := m.body.downloads ++ [(slot, n)] }⟩
  | refused (view : ImageView)
      (answer : m.body.document.answer (.clickImage slot view) = some (.image .fetch url))
      (start : ((Host.startDownload url).run m.host).1 = .error e) :
      Step m (.refused slot) ⟨((Host.startDownload url).run m.host).2, { m.body with
        document := (m.body.document.perform (.clickImage slot view)).perform
          (.settleImage slot (.error e)) }⟩
  | progress (n : Nat) (loaded total : Float) (heard : m.hears n (·.watched) = true) :
      Step m .other ⟨m.host, m.body.progress n loaded total⟩
  | ended (status : Nat) (heard : m.hears n (·.listeners.contains e) = true) :
      Step m (.ended n e status) (m.tell n e status)
  | settled (here : m.body.downloads = before ++ (slot, n) :: after)
      (result : ((Host.finishDownload n).run m.host).1 = some r) :
      Step m (.settled slot n) ⟨((Host.finishDownload n).run m.host).2, { m.body with
        document := m.body.document.perform (.settleImage slot r)
        downloads := before ++ after }⟩
  | answered (id : Text) (reply : Except Failure Text)
      (fetches : List (Text × PostId × Exchange)) :
      Step m .other ⟨m.host, { m.body with
        document := m.body.document.perform (.settleReference id reply)
        fetches }⟩
  | elsewhere (h : Host) (fetches : List (Text × PostId × Exchange))
      (transfers : h.transfers = m.host.transfers)
      (browser : h.browser.isSome = m.host.browser.isSome) :
      Step m .other ⟨h, { m.body with fetches }⟩

def Reached (log : List Move) (m : Mounted) : Prop :=
  ∃ h html, h.browser.isSome = true ∧ Runs Step ⟨h, .ofHtml html⟩ log m

def Move.end? (n : Nat) : Move → Option (TransferEnd × Nat)
  | .ended k e status => if k = n then some (e, status) else none
  | _ => none

def firstEnd? (n : Nat) (log : List Move) : Option (TransferEnd × Nat) := log.findSome? (·.end? n)

def Move.number? : Move → Option Nat
  | .begun _ n | .ended n _ _ | .settled _ n => some n
  | .clicked _ _ | .viewed _ | .refused _ | .other => none

/-- What a log says about the downloads. -/
structure Tracks (log : List Move) (m : Mounted) : Prop where
  number : ∀ mv ∈ log, ∀ n ∈ mv.number?, n < m.host.transfers.length
  waiting : ∀ slot n,
    (slot, n) ∈ m.body.downloads ↔ .begun slot n ∈ log ∧ .settled slot n ∉ log
  nodup : (m.body.downloads.map Prod.snd).Nodup
  listening : ∀ slot n, (slot, n) ∈ m.body.downloads →
    m.host.transfers[n]? = some (.listening (firstEnd? n log))
  released : ∀ slot n, .settled slot n ∈ log →
    ∃ t, m.host.transfers[n]? = some t ∧ t.watched = false ∧ t.listeners = []

variable {m m' : Mounted} {mv : Move} {log : List Move} {slot : Text} {n : Nat}

theorem firstEnd?_append (n : Nat) (log log' : List Move) :
    firstEnd? n (log ++ log') = (firstEnd? n log).or (firstEnd? n log') :=
  List.findSome?_append

theorem firstEnd?_concat (n : Nat) (log : List Move) (mv : Move) :
    firstEnd? n (log ++ [mv]) = (firstEnd? n log).or (mv.end? n) := by
  rw [firstEnd?_append, firstEnd?, firstEnd?, List.findSome?_singleton]

theorem Move.end?_of_number? (h : mv.number? ≠ some n) : mv.end? n = none := by
  cases mv with
  | ended k e status => exact if_neg fun hk => h (congrArg some hk)
  | clicked | viewed | begun | refused | settled | other => rfl

theorem firstEnd?_eq_none (h : ∀ mv ∈ log, ∀ k ∈ mv.number?, k ≠ n) : firstEnd? n log = none :=
  List.findSome?_eq_none_iff.mpr fun mv hmv => Move.end?_of_number? fun hn => h mv hmv n hn rfl

theorem tracks_ofHtml (h : Host) (html : Text) : Tracks [] ⟨h, .ofHtml html⟩ where
  number _ hmv := by cases hmv
  waiting slot n := ⟨nofun, nofun⟩
  nodup := List.nodup_nil
  listening _ _ h := by cases h
  released _ _ h := by cases h

theorem Tracks.of_other (ht : Tracks log m) (hmv : mv.number? = none)
    (htransfers : m.host.transfers <+: m'.host.transfers)
    (hdownloads : m'.body.downloads = m.body.downloads) : Tracks (log ++ [mv]) m' := by
  have hlog {k : Move} (hk : k.number?.isSome = true) : k ∈ log ++ [mv] ↔ k ∈ log := by
    rw [List.mem_append, List.mem_singleton, or_iff_left]
    rintro rfl
    rw [hmv] at hk
    cases hk
  have hend (n : Nat) : firstEnd? n (log ++ [mv]) = firstEnd? n log := by
    rw [firstEnd?_concat, Move.end?_of_number? (by rw [hmv]; nofun), Option.or_none]
  have hget {n : Nat} {t : Transfer} (h : m.host.transfers[n]? = some t) :
      m'.host.transfers[n]? = some t := by
    obtain ⟨ts, hts⟩ := htransfers
    rw [← hts, List.getElem?_append_left (List.getElem?_eq_some_iff.mp h).1, h]
  refine ⟨fun k hk n hn => ?_, fun slot n => ?_, ?_, fun slot n hd => ?_,
    fun slot n hd => ?_⟩
  · exact Nat.lt_of_lt_of_le (ht.number k ((hlog (Option.isSome_of_mem hn)).mp hk) n hn)
      htransfers.length_le
  · rw [hdownloads, ht.waiting, hlog rfl, hlog rfl]
  · rw [hdownloads]
    exact ht.nodup
  · rw [hdownloads] at hd
    rw [hend]
    exact hget (ht.listening slot n hd)
  · obtain ⟨t, hget', h⟩ := ht.released slot n ((hlog rfl).mp hd)
    exact ⟨t, hget hget', h⟩

theorem Tracks.firstEnd?_next (ht : Tracks log m) :
    firstEnd? m.host.transfers.length log = none :=
  firstEnd?_eq_none fun mv hmv k hk => Nat.ne_of_lt (ht.number mv hmv k hk)

theorem Tracks.begun (ht : Tracks log m) (hn : n = m.host.transfers.length)
    (htransfers : m'.host.transfers = m.host.transfers ++ [.listening none])
    (hdownloads : m'.body.downloads = m.body.downloads ++ [(slot, n)]) :
    Tracks (log ++ [.begun slot n]) m' := by
  have hend (k : Nat) : firstEnd? k (log ++ [.begun slot n]) = firstEnd? k log := by
    rw [firstEnd?_concat]
    exact Option.or_none
  -- the log has told of no transfer with that number
  have hfresh {slot' : Text} : .settled slot' n ∉ log := fun h =>
    Nat.ne_of_lt (ht.number _ h n rfl) hn
  have hget {k : Nat} {t : Transfer} (h : m.host.transfers[k]? = some t) :
      m'.host.transfers[k]? = some t := by
    rw [htransfers, List.getElem?_append_left (List.getElem?_eq_some_iff.mp h).1, h]
  have hbefore {slot' : Text} {k : Nat} (hd : (slot', k) ∈ m.body.downloads) : k ≠ n := by
    rw [hn]
    exact Nat.ne_of_lt (List.getElem?_eq_some_iff.mp (ht.listening slot' k hd)).1
  refine ⟨fun mv hmv k hk => ?_, fun slot' k => ?_, ?_,
    fun slot' k hd => ?_, fun slot' k hd => ?_⟩
  · rw [htransfers, List.length_append, List.length_singleton, Nat.lt_succ_iff]
    rcases List.mem_append.mp hmv with hmv | hmv
    · exact Nat.le_of_lt (ht.number mv hmv k hk)
    · cases List.mem_singleton.mp hmv
      cases hk
      exact Nat.le_of_eq hn
  · simp only [hdownloads, List.mem_append, List.mem_singleton, ht.waiting, Prod.mk.injEq,
      Move.begun.injEq, reduceCtorEq, or_false]
    constructor
    · rintro (⟨hb, hs⟩ | ⟨rfl, rfl⟩)
      · exact ⟨.inl hb, hs⟩
      · exact ⟨.inr ⟨rfl, rfl⟩, hfresh⟩
    · rintro ⟨hb | hb, hs⟩
      · exact .inl ⟨hb, hs⟩
      · exact .inr hb
  · rw [hdownloads, List.map_append, List.nodup_append]
    refine ⟨ht.nodup, List.nodup_singleton _, fun k hk j hj => ?_⟩
    obtain ⟨⟨slot', _⟩, hd, rfl⟩ := List.mem_map.mp hk
    cases List.mem_singleton.mp hj
    exact hbefore hd
  · rw [hdownloads] at hd
    rw [hend]
    rcases List.mem_append.mp hd with hd | hd
    · exact hget (ht.listening slot' k hd)
    · cases List.mem_singleton.mp hd
      rw [htransfers, hn, List.getElem?_concat_length, ht.firstEnd?_next]
  · rcases List.mem_append.mp hd with hd | hd
    · obtain ⟨t, ht', h⟩ := ht.released slot' k hd
      exact ⟨t, hget ht', h⟩
    · cases List.mem_singleton.mp hd

theorem Tracks.ended (ht : Tracks log m) (hn : n < m.host.transfers.length) (e : TransferEnd)
    (status : Nat) : Tracks (log ++ [.ended n e status]) (m.tell n e status) := by
  have hlog {k : Move} (hk : k ≠ .ended n e status) : k ∈ log ++ [.ended n e status] ↔ k ∈ log := by
    rw [List.mem_append, List.mem_singleton, or_iff_left hk]
  have hget (k : Nat) : (m.tell n e status).host.transfers[k]? =
      (m.host.transfers[k]?).map fun t => if n = k then t.finish e status else t := by
    rw [tell, List.getElem?_modify]
    rfl
  refine ⟨fun mv hmv k hk => ?_, fun slot' k => ?_, ht.nodup, fun slot' k hd => ?_,
    fun slot' k hd => ?_⟩
  · rw [tell, List.length_modify]
    rcases List.mem_append.mp hmv with hmv | hmv
    · exact ht.number mv hmv k hk
    · cases List.mem_singleton.mp hmv
      cases hk
      exact hn
  · rw [hlog (by simp), hlog (by simp)]
    exact ht.waiting slot' k
  · rw [hget, ht.listening slot' k hd, firstEnd?_concat, Move.end?]
    split
    · cases firstEnd? k log <;> rfl
    · rw [Option.or_none]
      rfl
  · obtain ⟨t, ht', h⟩ := ht.released slot' k ((hlog (by simp)).mp hd)
    rw [hget, ht']
    refine ⟨_, rfl, ?_⟩
    split <;> exact h

theorem Tracks.settled (ht : Tracks log m) {before after : List (Text × Nat)}
    (here : m.body.downloads = before ++ (slot, n) :: after)
    (htransfers : m'.host.transfers = m.host.transfers.modify n Transfer.release)
    (hdownloads : m'.body.downloads = before ++ after) : Tracks (log ++ [.settled slot n]) m' := by
  have hend (k : Nat) : firstEnd? k (log ++ [.settled slot n]) = firstEnd? k log := by
    rw [firstEnd?_concat]
    exact Option.or_none
  have hget (k : Nat) : m'.host.transfers[k]? =
      (m.host.transfers[k]?).map fun t => if n = k then t.release else t := by
    rw [htransfers, List.getElem?_modify]
    rfl
  have hthis : m.host.transfers[n]? = some (.listening (firstEnd? n log)) :=
    ht.listening slot n (here ▸ List.mem_append_right before (List.mem_cons_self ..))
  -- no number stands for two downloads, so the others are all but this one
  have hnodup := ht.nodup
  rw [here, List.map_append, List.map_cons, List.nodup_middle, List.nodup_cons, ← List.map_append]
    at hnodup
  have hothers {slot' : Text} {k : Nat} :
      (slot', k) ∈ before ++ after ↔ (slot', k) ∈ m.body.downloads ∧ (slot', k) ≠ (slot, n) := by
    have hnot : (slot, n) ∉ before ++ after := fun h => hnodup.1 (List.mem_map_of_mem h)
    rw [here, List.mem_append, List.mem_append, List.mem_cons] at *
    constructor
    · intro h
      refine ⟨h.imp_right .inr, fun hk => ?_⟩
      rw [hk] at h
      exact hnot h
    · rintro ⟨h | h | h, hne⟩
      · exact .inl h
      · exact absurd h hne
      · exact .inr h
  refine ⟨fun mv hmv k hk => ?_, fun slot' k => ?_, ?_, fun slot' k hd => ?_,
    fun slot' k hd => ?_⟩
  · rw [htransfers, List.length_modify]
    rcases List.mem_append.mp hmv with hmv | hmv
    · exact ht.number mv hmv k hk
    · cases List.mem_singleton.mp hmv
      cases hk
      exact (List.getElem?_eq_some_iff.mp hthis).1
  · rw [hdownloads, hothers, ht.waiting]
    simp only [List.mem_append, List.mem_singleton, Move.settled.injEq, reduceCtorEq, or_false,
      not_or, Prod.mk.injEq, ne_eq, and_assoc]
  · rw [hdownloads]
    exact hnodup.2
  · rw [hdownloads] at hd
    have hk : n ≠ k := by
      rintro rfl
      exact hnodup.1 (List.mem_map.mpr ⟨_, hd, rfl⟩)
    rw [hget, hend, ht.listening slot' k (hothers.mp hd).1]
    exact congrArg some (if_neg hk)
  · rw [hget]
    rcases List.mem_append.mp hd with hd | hd
    · obtain ⟨t, ht', h⟩ := ht.released slot' k hd
      rw [ht']
      refine ⟨_, rfl, ?_⟩
      split
      · exact ⟨rfl, rfl⟩
      · exact h
    · cases List.mem_singleton.mp hd
      rw [hthis]
      exact ⟨_, congrArg some (if_pos rfl), rfl, rfl⟩

theorem lt_of_hears {attached : Transfer → Bool} (h : m.hears n attached = true) :
    n < m.host.transfers.length := by
  rw [hears, Bool.and_eq_true] at h
  obtain ⟨t, ht, -⟩ := (Option.any_eq_true _ _).mp h.1
  exact (List.getElem?_eq_some_iff.mp ht).1

theorem Tracks.step (ht : Tracks log m) (h : Step m mv m') : Tracks (log ++ [mv]) m' := by
  have still : m.host.transfers <+: m.host.transfers := List.prefix_rfl
  cases h with
  | reference id fetches => exact ht.of_other rfl still rfl
  | viewed view answer => exact ht.of_other rfl still rfl
  | begun view answer start =>
    obtain ⟨hn, htransfers⟩ := Host.startDownload_of_ok start
    exact ht.begun hn htransfers rfl
  | refused view answer start =>
    exact ht.of_other rfl (Host.started_startDownload _ m.host).2 rfl
  | progress n loaded total heard =>
    refine ht.of_other rfl still ?_
    rw [PostBody.progress]
    split <;> rfl
  | ended status heard => exact ht.ended (lt_of_hears heard) _ status
  | settled here result =>
    obtain ⟨b, e, status, hb, hn⟩ := Host.ended?_of_finishDownload result
    exact ht.settled here (Host.finishDownload_of_ended hb hn).2.1 rfl
  | answered id reply fetches => exact ht.of_other rfl still rfl
  | elsewhere h fetches transfers browser => exact ht.of_other rfl (transfers ▸ still) rfl

theorem Tracks.of_reached (h : Reached log m) : Tracks log m := by
  obtain ⟨h, html, -, run⟩ := h
  induction run with
  | refl => exact tracks_ofHtml h html
  | tail _ last ih => exact ih.step last

theorem Step.browser (h : Step m mv m') : m'.host.browser.isSome = m.host.browser.isSome := by
  cases h with
  | begun | refused => exact congrArg Option.isSome (Host.started_startDownload _ m.host).1
  | settled here result =>
    obtain ⟨b, e, status, hb, hn⟩ := Host.ended?_of_finishDownload result
    exact congrArg Option.isSome (Host.finishDownload_of_ended hb hn).2.2
  | elsewhere h fetches transfers browser => exact browser
  | reference | viewed | progress | ended | answered => rfl

theorem browser_of_runs (run : Runs Step m log m') :
    m'.host.browser.isSome = m.host.browser.isSome := by
  induction run with
  | refl => rfl
  | tail _ last ih => exact last.browser.trans ih

theorem Reached.browser (h : Reached log m) : m.host.browser.isSome = true := by
  obtain ⟨h, html, hb, run⟩ := h
  exact (browser_of_runs run).trans hb

theorem Reached.trans {log' : List Move} (h : Reached log m) (run : Runs Step m log' m') :
    Reached (log ++ log') m' := by
  obtain ⟨host, html, hb, first⟩ := h
  exact ⟨host, html, hb, first.trans run⟩

theorem act_pollFetches_cons (slot : Text) (post : PostId) (x : Exchange)
    (xs : List (Text × PostId × Exchange)) (b : PostBody) (h : Host) :
    act ⟨h, b⟩ (pollFetches ((slot, post, x) :: xs)) =
      match (x.advance h).result? with
      | none => act ⟨h, { b with fetches := b.fetches ++ [(slot, post, x.advance h)] }⟩
          (pollFetches xs)
      | some r => act ⟨h, { b with
          document := b.document.settleReference slot (Exchange.fragment h.config post r) }⟩
            (pollFetches xs) := by
  unfold act
  rw [pollFetches]
  simp only [Act.run_bind, Act.run_get]
  cases (x.advance h).result? <;> rfl

def fetchLog (h : Host) : List (Text × PostId × Exchange) → List Move
  | [] => [.other]
  | (_, _, x) :: xs => match (x.advance h).result? with
    | none => fetchLog h xs
    | some _ => .other :: fetchLog h xs

theorem runs_pollFetches (xs fetches : List (Text × PostId × Exchange)) (b : PostBody) (h : Host) :
    Runs Step ⟨h, { b with fetches }⟩ (fetchLog h xs) (act ⟨h, b⟩ (pollFetches xs)) := by
  induction xs generalizing fetches b with
  | nil => exact .single (.elsewhere h b.fetches rfl rfl)
  | cons x xs ih =>
    obtain ⟨slot, post, x⟩ := x
    rw [act_pollFetches_cons, fetchLog]
    cases (x.advance h).result? with
    | none => exact ih fetches { b with fetches := b.fetches ++ [(slot, post, x.advance h)] }
    | some r =>
      exact (Runs.single (.answered slot _ b.fetches)).trans (ih b.fetches
        { b with document := b.document.settleReference slot (Exchange.fragment h.config post r) })

theorem downloads_pollFetches (xs : List (Text × PostId × Exchange)) (b : PostBody) (h : Host) :
    (act ⟨h, b⟩ (pollFetches xs)).host = h ∧
      (act ⟨h, b⟩ (pollFetches xs)).body.downloads = b.downloads := by
  induction xs generalizing b with
  | nil => exact ⟨rfl, rfl⟩
  | cons x xs ih =>
    obtain ⟨slot, post, x⟩ := x
    rw [act_pollFetches_cons]
    cases (x.advance h).result? with
    | none => exact ih { b with fetches := b.fetches ++ [(slot, post, x.advance h)] }
    | some r =>
      exact ih
        { b with document := b.document.settleReference slot (Exchange.fragment h.config post r) }

def downloadLog (h : Host) : List (Text × Nat) → List Move
  | [] => []
  | (slot, n) :: ds => match ((Host.finishDownload n).run h).1 with
    | none => downloadLog h ds
    | some _ => .settled slot n :: downloadLog ((Host.finishDownload n).run h).2 ds

theorem runs_pollDownloads (ds : List (Text × Nat)) (b : PostBody) (h : Host) :
    Runs Step ⟨h, { b with downloads := b.downloads ++ ds }⟩ (downloadLog h ds)
      (act ⟨h, b⟩ (pollDownloads ds)) := by
  induction ds generalizing b h with
  | nil =>
    rw [List.append_nil]
    exact .refl
  | cons d ds ih =>
    obtain ⟨slot, n⟩ := d
    unfold act
    rw [pollDownloads, downloadLog]
    simp only [Act.run_bind]
    cases result : ((Host.finishDownload n).run h).1 with
    | none =>
      have run := ih { b with downloads := b.downloads ++ [(slot, n)] } h
      rw [List.append_assoc] at run
      rw [Host.finishDownload_of_none result]
      exact run
    | some r =>
      exact (Runs.single (.settled rfl result)).trans
        (ih { b with document := b.document.settleImage slot r } _)

theorem settled_mem_downloadLog {h : Host} (hb : h.browser.isSome = true)
    {ds : List (Text × Nat)} (hn : (slot, n) ∈ ds) (hended : (h.ended? n).isSome = true) :
    .settled slot n ∈ downloadLog h ds := by
  induction ds generalizing h with
  | nil => cases hn
  | cons d ds ih =>
    obtain ⟨slot', k⟩ := d
    rw [downloadLog]
    cases result : ((Host.finishDownload k).run h).1 with
    | none =>
      rcases List.mem_cons.mp hn with hn | hn
      · cases hn
        obtain ⟨browser, hbrowser⟩ := Option.isSome_iff_exists.mp hb
        obtain ⟨first, hfirst⟩ := Option.isSome_iff_exists.mp hended
        rw [(Host.finishDownload_of_ended hbrowser hfirst).1] at result
        cases result
      · exact ih hb hn hended
    | some r =>
      obtain ⟨browser, e, status, hbrowser, hk⟩ := Host.ended?_of_finishDownload result
      obtain ⟨-, htransfers, hsame⟩ := Host.finishDownload_of_ended hbrowser hk
      rcases List.mem_cons.mp hn with hn | hn
      · cases hn
        exact List.mem_cons_self ..
      · refine List.mem_cons_of_mem _ (ih (hsame ▸ hb) hn ?_)
        rwa [Host.ended?_release htransfers]

def pollLog (m : Mounted) : List Move :=
  fetchLog m.host m.body.fetches ++ downloadLog m.host m.body.downloads

theorem runs_poll (m : Mounted) : Runs Step m m.pollLog (m.act poll) := by
  obtain ⟨host, body⟩ := m
  have replies := runs_pollFetches body.fetches body.fetches { body with fetches := [] } host
  obtain ⟨hhost, hdownloads⟩ := downloads_pollFetches body.fetches { body with fetches := [] } host
  set m' := act ⟨host, { body with fetches := [] }⟩ (pollFetches body.fetches)
  have downloads :=
    runs_pollDownloads m'.body.downloads { m'.body with downloads := [] } m'.host
  have hlog : downloadLog m'.host m'.body.downloads = downloadLog host body.downloads := by
    rw [hhost, hdownloads]
  rw [hlog] at downloads
  exact replies.trans downloads

theorem settled_mem_pollLog {m : Mounted} (hb : m.host.browser.isSome = true)
    (hn : (slot, n) ∈ m.body.downloads) (hended : (m.host.ended? n).isSome = true) :
    .settled slot n ∈ m.pollLog :=
  List.mem_append_right _ (settled_mem_downloadLog hb hn hended)

theorem step_of_logs {P : Record → Prop} {h h' : Host} (logs : Host.Logs P h h') (b : PostBody)
    (fetches : List (Text × PostId × Exchange)) :
    Step ⟨h, b⟩ .other ⟨h', { b with fetches }⟩ := by
  obtain ⟨_, _, _, rfl, -⟩ := logs
  exact .elsewhere _ fetches rfl rfl

theorem clickReference_of_asks {d : Document} {view : ImageView} {action : Document.Action}
    (asks : d.answer (.clickImage slot view) = some action) :
    d.clickReference slot = (none, d) := by
  rcases d.clickImage_cases slot view with ⟨thumbnail, url, hslot⟩ | ⟨-, hnone⟩
  · rw [Document.clickReference, hslot]
  · rw [Document.answer, hnone] at asks
    cases asks

theorem answer_clickImage_iff {d : Document} {view : ImageView} {url : Text} :
    d.answer (.clickImage slot view) = some (.image .fetch url) ↔
      (d.clickImage slot view).1 = some (.fetch, url) := by
  rw [Document.answer]
  cases (d.clickImage slot view).1 with
  | none => simp
  | some asked => simp [Prod.ext_iff]

theorem step_clickImage {url : Text} (asks : m.body.document.answer
      (.clickImage slot m.host.storage.imageView) = some (.image .fetch url)) :
    Step m (match ((Host.startDownload url).run m.host).1 with
      | .ok n => .begun slot n
      | .error _ => .refused slot) (m.act (clickImage slot)) := by
  have hclick := answer_clickImage_iff.mp asks
  unfold act clickImage
  simp only [Act.run_bind, Act.run_get, hclick]
  cases hstart : ((Host.startDownload url).run m.host).1 with
  | ok n => exact .begun _ asks hstart
  | error e => exact .refused _ asks hstart

def imageLog (m : Mounted) (slot : Text) : List Move :=
  match (m.body.document.clickImage slot m.host.storage.imageView).1 with
  | some (.fetch, url) => match ((Host.startDownload url).run m.host).1 with
    | .ok n => [.begun slot n]
    | .error _ => [.refused slot]
  | some (.openInNewTab, _) => [.viewed slot, .other]
  | some (.enlarge, _) | some (.shrink, _) | some (.ignore, _) | none => [.viewed slot]

theorem runs_clickImage (m : Mounted) (slot : Text) :
    Runs Step m (m.imageLog slot) (m.act (clickImage slot)) := by
  have viewed (idle : ∀ url, (m.body.document.clickImage slot m.host.storage.imageView).1 ≠
      some (.fetch, url)) : Runs Step m [.viewed slot] ⟨m.host, { m.body with
        document := m.body.document.perform (.clickImage slot m.host.storage.imageView) }⟩ :=
    .single (.viewed _ fun url asks => idle url (answer_clickImage_iff.mp asks))
  rw [imageLog]
  split
  · next url h =>
    have step := step_clickImage (answer_clickImage_iff.mpr h)
    cases hstart : ((Host.startDownload url).run m.host).1 with
    | ok n | error e =>
      rw [hstart] at step
      exact .single step
  · next url h =>
    have viewed := viewed (by rw [h]; exact nofun)
    have opened : (Host.openInNewTab (String.ofList url)).Within (Host.Logs fun _ => True) :=
      Host.within_inWindow trivial
    unfold act clickImage
    simp only [Act.run_bind, Act.run_get, h]
    exact viewed.tail (step_of_logs (opened m.host) _ m.body.fetches)
  all_goals
    next h =>
      have viewed := viewed (by rw [h]; exact nofun)
      unfold act clickImage
      simp only [Act.run_bind, Act.run_get, h]
      exact viewed

def clickLog (m : Mounted) (slot : Text) : List Move :=
  match (m.body.document.clickReference slot).1 with
  | none => m.imageLog slot
  | some (.fetch, post) =>
    let (x, host) := (Exchange.fetchPost post).run m.host
    .clicked slot (m.body.document.answer (.clickReference slot)) :: .other ::
      pollLog ⟨host, { m.body with
        document := m.body.document.perform (.clickReference slot)
        fetches := m.body.fetches ++ [(slot, post, x)] }⟩
  | some (.collapse, _) | some (.ignore, _) =>
    [.clicked slot (m.body.document.answer (.clickReference slot))]

theorem runs_click (m : Mounted) (slot : Text) :
    Runs Step m (m.clickLog slot) (m.act (click slot)) := by
  have clicked : Runs Step m _ _ := .single (.reference slot m.body.fetches)
  unfold act click
  rw [clickLog]
  cases h : (m.body.document.clickReference slot).1 with
  | none =>
    simp only [h]
    exact runs_clickImage m slot
  | some asked =>
    obtain ⟨action, post⟩ := asked
    cases action with
    | fetch =>
      simp only [h, Act.run_bind]
      have asked := Exchange.within_fetchPost (P := fun _ => True) (fun _ => trivial) post m.host
      exact (clicked.tail (step_of_logs asked _ _)).trans (runs_poll ⟨_, { m.body with
        document := m.body.document.perform (.clickReference slot)
        fetches := m.body.fetches ++ [(slot, post, ((Exchange.fetchPost post).run m.host).1)] }⟩)
    | collapse | ignore =>
      simp only [h]
      exact clicked

end Mounted

end PostBody

end ForumClient
