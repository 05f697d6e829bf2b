import ForumClient.Signing.Lazy

/-!
Calls that share a load, polled in any order and dropped at any time. At every moment the loads are
a row of failures and at most one more, which has not failed and is the one that callers join. So
a load is started only when all before it have failed, a load that succeeds is the last one, and a
caller that comes late for a failure finds nothing to clear.
-/

namespace ForumClient

namespace Lazy

variable {α : Type} {es : List Failure} {k n : Nat} {a : α} {e : Failure}

inductive Phase (α : Type)
  | idle
  | loading
  | loaded : α → Phase α

def Phase.loads : Phase α → List (Option (Except Failure α))
  | .idle => []
  | .loading => [none]
  | .loaded a => [some (.ok a)]

def Phase.current (load : Nat) : Phase α → Option Nat
  | .idle => none
  | _ => some load

def after (es : List Failure) (p : Phase α) : Lazy α :=
  ⟨es.map (fun e => some (.error e)) ++ p.loads, p.current es.length⟩

def driven (es : List Failure) : Option (Except Failure α) → Lazy α
  | none => after es .loading
  | some (.ok a) => after es (.loaded a)
  | some (.error e) => after (es ++ [e]) .idle

variable {p : Phase α}

theorem loads_after (es : List Failure) (p : Phase α) :
    (after es p).loads = es.map (fun e => some (.error e)) ++ p.loads := rfl

theorem getElem?_loads_of_failed (h : es[k]? = some e) (p : Phase α) :
    (after es p).loads[k]? = some (some (.error e)) := by
  have hk : k < es.length := (List.getElem?_eq_some_iff.mp h).1
  rw [loads_after, List.getElem?_append_left (by simpa using hk), List.getElem?_map, h]
  rfl

theorem getElem?_loads_length (es : List Failure) (p : Phase α) :
    (after es p).loads[es.length]? = p.loads.head? := by
  rw [loads_after, List.getElem?_append_right (by simp), List.length_map, Nat.sub_self,
    List.head?_eq_getElem?]

theorem result?_of_failed (h : es[k]? = some e) (p : Phase α) :
    (after es p).result? k = some (.error e) := by
  rw [result?, getElem?_loads_of_failed h]
  rfl

theorem load_cases (h : k < (after es p).loads.length) :
    (∃ e, es[k]? = some e) ∨ k = es.length ∧ p.loads ≠ [] := by
  rw [loads_after, List.length_append, List.length_map] at h
  rcases Nat.lt_or_ge k es.length with hk | hk
  · exact .inl ⟨_, List.getElem?_eq_getElem hk⟩
  · cases p with
    | idle => exact absurd h (Nat.not_lt.mpr hk)
    | loading => exact .inr ⟨Nat.le_antisymm (Nat.le_of_lt_succ h) hk, nofun⟩
    | loaded a => exact .inr ⟨Nat.le_antisymm (Nat.le_of_lt_succ h) hk, nofun⟩

theorem lt_length_of_result? {l : Lazy α} {r : Except Failure α} (h : l.result? k = some r) :
    k < l.loads.length := by
  rw [result?, Option.join_eq_some_iff] at h
  exact (List.getElem?_eq_some_iff.mp h).1

theorem result?_eq_ok (h : (after es p).result? k = some (.ok a)) :
    k = es.length ∧ p = .loaded a := by
  rcases load_cases (lt_length_of_result? h) with ⟨e, he⟩ | ⟨rfl, -⟩
  · rw [result?_of_failed he] at h
    cases h
  · rw [result?, getElem?_loads_length] at h
    cases p <;> cases h
    exact ⟨rfl, rfl⟩

theorem result?_of_not_loaded (hp : ∀ a, p ≠ .loaded a) :
    (after es p).result? es.length = none := by
  rw [result?, getElem?_loads_length]
  cases p with
  | idle => rfl
  | loading => rfl
  | loaded a => exact absurd rfl (hp a)

def Caller.load (l : Lazy α) : Caller → Nat
  | .fresh => l.join.1
  | .waiting load => load

/-- What a poll finds at the load that the caller waits for, and how it leaves the library. -/
inductive Polls (ready : Nat → Option (Except Failure α)) (es : List Failure) :
    Phase α → Nat → Option (Except Failure α) → Lazy α → Prop
  | drives {p : Phase α} : (∀ a, p ≠ .loaded a) →
      Polls ready es p es.length (ready es.length) (driven es (ready es.length))
  | shares (a : α) : Polls ready es (.loaded a) es.length (some (.ok a)) (after es (.loaded a))
  | tells {p : Phase α} {k : Nat} {e : Failure} : es[k]? = some e →
      Polls ready es p k (some (.error e)) (after es p)

theorem join_idle (es : List Failure) :
    (after es (.idle : Phase α)).join = (es.length, after es .loading) := by
  simp [join, after, Phase.current, Phase.loads]

theorem join_of_current {l : Lazy α} (h : l.current = some k) : l.join = (k, l) := by
  rw [join, h]

theorem poll_fresh (ready : Nat → Option (Except Failure α)) (l : Lazy α) :
    l.poll ready .fresh = l.join.2.poll ready (.waiting l.join.1) := rfl

theorem poll_of_none {ready : Nat → Option (Except Failure α)} (l : Lazy α) (h : ready k = none) :
    l.poll ready (.waiting k) = ((l.await k).1, .waiting k, (l.await k).2) := by
  simp only [poll, h]

theorem poll_of_some {ready : Nat → Option (Except Failure α)} {r : Except Failure α} (l : Lazy α)
    (h : ready k = some r) : l.poll ready (.waiting k) =
      (((l.finish k r).await k).1, .waiting k, ((l.finish k r).await k).2) := by
  simp only [poll, h]

theorem await_of_ok {l : Lazy α} (h : l.result? k = some (.ok a)) :
    l.await k = (some (.ok a), l) := by
  rw [await, h]

theorem await_of_error {l : Lazy α} (h : l.result? k = some (.error e)) :
    l.await k = (some (.error e), l.forget) := by
  rw [await, h]

theorem finish_loading (es : List Failure) (r : Except Failure α) :
    (after es .loading).finish es.length r =
      ⟨es.map (fun e => some (.error e)) ++ [some r], some es.length⟩ := by
  simp [finish, Phase.loads, after, Phase.current]

theorem result?_finish_loading (es : List Failure) (r : Except Failure α) :
    ((after es .loading).finish es.length r).result? es.length = some r := by
  simp [finish_loading, result?]

theorem forget_finish_loading (es : List Failure) (e : Failure) :
    ((after es .loading).finish es.length (.error e)).forget =
      after (es ++ [e]) (.idle : Phase α) := by
  rw [finish_loading]
  simp [forget, result?, isFailed, after, Phase.current, Phase.loads]

theorem poll_loading (ready : Nat → Option (Except Failure α)) (es : List Failure) :
    (after es .loading).poll ready (.waiting es.length) =
      (ready es.length, .waiting es.length, driven es (ready es.length)) := by
  cases hr : ready es.length with
  | none =>
    rw [poll_of_none _ hr, await, result?, getElem?_loads_length]
    rfl
  | some r =>
    rw [poll_of_some _ hr]
    cases r with
    | ok a =>
      rw [await_of_ok (result?_finish_loading es (.ok a)), finish_loading]
      rfl
    | error e =>
      rw [await_of_error (result?_finish_loading es (.error e)), forget_finish_loading]
      rfl

theorem finish_of_result? {l : Lazy α} {r : Except Failure α} (h : l.result? k = some r)
    (r' : Except Failure α) : l.finish k r' = l := by
  rw [result?, Option.join_eq_some_iff] at h
  rw [finish, h]

theorem forget_after (es : List Failure) (p : Phase α) : (after es p).forget = after es p := by
  cases p <;> simp [forget, after, Phase.current, result?, Phase.loads, isFailed]

theorem poll_of_result? (ready : Nat → Option (Except Failure α)) {r : Except Failure α}
    (h : (after es p).result? k = some r) :
    (after es p).poll ready (.waiting k) = (some r, .waiting k, after es p) := by
  have hawait : (after es p).await k = (some r, after es p) := by
    cases r with
    | ok a => exact await_of_ok h
    | error e => rw [await_of_error h, forget_after]
  cases hr : ready k with
  | none => rw [poll_of_none _ hr, hawait]
  | some r' => rw [poll_of_some _ hr, finish_of_result? h, hawait]

theorem poll_waiting (ready : Nat → Option (Except Failure α)) (h : k < (after es p).loads.length) :
    ∃ r l, (after es p).poll ready (.waiting k) = (r, .waiting k, l) ∧ Polls ready es p k r l := by
  rcases load_cases h with ⟨e, he⟩ | ⟨rfl, hp⟩
  · exact ⟨_, _, poll_of_result? ready (result?_of_failed he p), .tells he⟩
  · cases p with
    | idle => exact absurd rfl hp
    | loading => exact ⟨_, _, poll_loading ready es, .drives (fun _ => nofun)⟩
    | loaded a =>
      refine ⟨_, _, poll_of_result? ready ?_, .shares a⟩
      rw [result?, getElem?_loads_length]
      rfl

theorem poll_spec (ready : Nat → Option (Except Failure α)) (es : List Failure) (p : Phase α)
    (c : Caller) (h : ∀ k, c = .waiting k → k < (after es p).loads.length) :
    ∃ r l, (after es p).poll ready c = (r, .waiting (c.load (after es p)), l) ∧
      Polls ready es p (c.load (after es p)) r l := by
  cases c with
  | waiting k => exact poll_waiting ready (h k rfl)
  | fresh =>
    rw [poll_fresh, Caller.load]
    cases p with
    | idle =>
      rw [join_idle, poll_loading]
      exact ⟨_, _, rfl, .drives (fun _ => nofun)⟩
    | loading =>
      rw [join_of_current rfl]
      exact poll_waiting ready (by simp [loads_after, Phase.loads])
    | loaded a =>
      rw [join_of_current rfl]
      exact poll_waiting ready (by simp [loads_after, Phase.loads])

theorem loads_driven (es : List Failure) (r : Option (Except Failure α)) :
    (driven es r).loads = es.map (fun e => some (.error e)) ++ [r] := by
  cases r with
  | none => rfl
  | some r => cases r <;> simp [driven, loads_after, Phase.loads]

theorem result?_driven_of_failed (h : es[k]? = some e) (r : Option (Except Failure α)) :
    (driven es r).result? k = some (.error e) := by
  have hk : k < es.length := (List.getElem?_eq_some_iff.mp h).1
  rw [result?, loads_driven, List.getElem?_append_left (by simpa using hk), List.getElem?_map, h]
  rfl

theorem result?_driven_length (es : List Failure) (r : Option (Except Failure α)) :
    (driven es r).result? es.length = r := by
  simp [result?, loads_driven]

namespace Polls

variable {ready : Nat → Option (Except Failure α)} {r : Option (Except Failure α)} {l : Lazy α}

theorem exists_after (h : Polls ready es p k r l) : ∃ es' p', l = after es' p' := by
  cases h with
  | drives =>
    cases ready es.length with
    | none => exact ⟨_, _, rfl⟩
    | some r => cases r <;> exact ⟨_, _, rfl⟩
  | shares a => exact ⟨_, _, rfl⟩
  | tells => exact ⟨_, _, rfl⟩

theorem lt_length (h : Polls ready es p k r l) : k < l.loads.length := by
  cases h with
  | drives => simp [loads_driven]
  | shares a => simp [loads_after, Phase.loads]
  | tells he => exact lt_length_of_result? (result?_of_failed he p)

theorem result (h : Polls ready es p k r l) : l.result? k = r := by
  cases h with
  | drives => exact result?_driven_length es _
  | shares a => rw [result?, getElem?_loads_length]; rfl
  | tells he => exact result?_of_failed he p

theorem length_le (h : Polls ready es p k r l) :
    (after es p).loads.length ≤ l.loads.length := by
  cases h with
  | drives hp => cases p <;> simp [loads_driven, loads_after, Phase.loads]
  | shares a => exact Nat.le_refl _
  | tells => exact Nat.le_refl _

theorem keeps {r' : Except Failure α} (h : Polls ready es p k r l)
    (hn : (after es p).result? n = some r') : l.result? n = some r' := by
  cases h with
  | shares a => exact hn
  | tells => exact hn
  | drives hp =>
    rcases load_cases (lt_length_of_result? hn) with ⟨e, he⟩ | ⟨rfl, -⟩
    · rw [result?_of_failed he] at hn
      rw [result?_driven_of_failed he, hn]
    · rw [result?_of_not_loaded hp] at hn
      cases hn

theorem eq_of_loaded (h : Polls ready es (.loaded a) k r l) : l = after es (.loaded a) := by
  cases h with
  | drives hp => exact absurd rfl (hp a)
  | shares => rfl
  | tells => rfl

theorem eq_of_result? {r' : Except Failure α} (h : Polls ready es p k r l)
    (hk : (after es p).result? k = some r') : l = after es p := by
  cases h with
  | drives hp => rw [result?_of_not_loaded hp] at hk; cases hk
  | shares => rfl
  | tells => rfl

theorem result_eq (h : Polls ready es p k r l) : r = ((after es p).result? k).or (ready k) := by
  cases h with
  | drives hp => rw [result?_of_not_loaded hp]; rfl
  | shares a => rw [result?, getElem?_loads_length]; rfl
  | tells he => rw [result?_of_failed he]; rfl

theorem eq_driven (h : Polls ready es .idle es.length r l) : l = driven es (ready es.length) := by
  cases h with
  | drives => rfl
  | tells he => simp at he

theorem idle_of_length_lt (h : Polls ready es p k r l)
    (hlt : (after es p).loads.length < l.loads.length) : p = .idle := by
  cases h with
  | shares => exact absurd hlt (Nat.lt_irrefl _)
  | tells => exact absurd hlt (Nat.lt_irrefl _)
  | drives hp =>
    rw [loads_driven, loads_after] at hlt
    cases p with
    | idle => rfl
    | loading => simp [Phase.loads] at hlt
    | loaded a => exact absurd rfl (hp a)

end Polls

/-- A call of the library: on its way, come back from the load that it joined, or dropped. -/
inductive Task (α : Type)
  | running : Caller → Task α
  | returned : (load : Nat) → Except Failure α → Task α
  | dropped

namespace Task

def load? : Task α → Option Nat
  | .running .fresh => none
  | .running (.waiting load) => some load
  | .returned load _ => some load
  | .dropped => none

def ofPoll : Option (Except Failure α) → Caller → Task α
  | some r, .waiting load => .returned load r
  | _, c => .running c

def Fits (l : Lazy α) : Task α → Prop
  | .running .fresh => True
  | .running (.waiting load) => load < l.loads.length
  | .returned load r => l.result? load = some r
  | .dropped => True

variable {l l' : Lazy α} {r : Option (Except Failure α)}

theorem Fits.mono {t : Task α} (h : t.Fits l) (hlength : l.loads.length ≤ l'.loads.length)
    (hkeeps : ∀ n r, l.result? n = some r → l'.result? n = some r) : t.Fits l' := by
  cases t with
  | running c =>
    cases c with
    | fresh => trivial
    | waiting load => exact Nat.lt_of_lt_of_le h hlength
  | returned load r => exact hkeeps load r h
  | dropped => trivial

theorem load?_ofPoll (r : Option (Except Failure α)) (k : Nat) :
    (ofPoll r (.waiting k)).load? = some k := by
  cases r <;> rfl

theorem fits_ofPoll (hk : k < l.loads.length) (hr : l.result? k = r) :
    (ofPoll r (.waiting k)).Fits l := by
  cases r with
  | none => exact hk
  | some r => exact hr

end Task

inductive Event (α : Type)
  | call
  | poll : (task : Nat) → (ready : Nat → Option (Except Failure α)) → Event α
  | drop : (task : Nat) → Event α

structure Crowd (α : Type) where
  library : Lazy α := {}
  tasks : List (Task α) := []

namespace Crowd

def step (c : Crowd α) : Event α → Crowd α
  | .call => { c with tasks := c.tasks ++ [.running .fresh] }
  | .poll i ready => match c.tasks[i]? with
    | some (.running caller) =>
      let (result, caller, library) := c.library.poll ready caller
      ⟨library, c.tasks.set i (.ofPoll result caller)⟩
    | _ => c
  | .drop i => match c.tasks[i]? with
    | some (.running _) => { c with tasks := c.tasks.set i .dropped }
    | _ => c

def run (c : Crowd α) (es : List (Event α)) : Crowd α := es.foldl step c

structure Inv (c : Crowd α) (es : List Failure) (p : Phase α) : Prop where
  library : c.library = after es p
  tasks : ∀ t ∈ c.tasks, t.Fits c.library

variable {c : Crowd α} {i : Nat} {caller : Caller} {ready : Nat → Option (Except Failure α)}

theorem inv_empty : Inv ({} : Crowd α) [] .idle := ⟨rfl, nofun⟩

theorem step_poll (h : Inv c es p) (ht : c.tasks[i]? = some (.running caller))
    (ready : Nat → Option (Except Failure α)) :
    ∃ r l, c.step (.poll i ready) =
        ⟨l, c.tasks.set i (.ofPoll r (.waiting (caller.load c.library)))⟩ ∧
      Polls ready es p (caller.load c.library) r l := by
  have hfits := h.tasks _ (List.mem_of_getElem? ht)
  rw [h.library] at hfits ⊢
  obtain ⟨r, l, hpoll, hpolls⟩ := poll_spec ready es p caller (by rintro k rfl; exact hfits)
  refine ⟨r, l, ?_, hpolls⟩
  simp only [step, ht, h.library, hpoll]

inductive Steps (c : Crowd α) (es : List Failure) (p : Phase α) : Crowd α → Prop
  | stays : Steps c es p c
  | calls : Steps c es p { c with tasks := c.tasks ++ [.running .fresh] }
  | drops {i : Nat} {caller : Caller} : c.tasks[i]? = some (.running caller) →
      Steps c es p { c with tasks := c.tasks.set i .dropped }
  | polls {i : Nat} {caller : Caller} {ready : Nat → Option (Except Failure α)}
      {r : Option (Except Failure α)} {l : Lazy α} : c.tasks[i]? = some (.running caller) →
      Polls ready es p (caller.load c.library) r l →
      Steps c es p ⟨l, c.tasks.set i (.ofPoll r (.waiting (caller.load c.library)))⟩

theorem step_spec (h : Inv c es p) (e : Event α) : Steps c es p (c.step e) := by
  cases e with
  | call => exact .calls
  | drop i =>
    rw [step]
    split
    · next caller ht => exact .drops ht
    · exact .stays
  | poll i ready =>
    by_cases ht : ∃ caller, c.tasks[i]? = some (.running caller)
    · obtain ⟨caller, ht⟩ := ht
      obtain ⟨r, l, hstep, hpolls⟩ := step_poll h ht ready
      rw [hstep]
      exact .polls ht hpolls
    · rw [step]
      split
      · next caller ht' => exact absurd ⟨caller, ht'⟩ ht
      · exact .stays

theorem Inv.steps {c' : Crowd α} (h : Inv c es p) (hsteps : Steps c es p c') :
    ∃ es' p', Inv c' es' p' := by
  cases hsteps with
  | stays => exact ⟨es, p, h⟩
  | calls =>
    refine ⟨es, p, h.library, fun t ht => ?_⟩
    rcases List.mem_append.mp ht with ht | ht
    · exact h.tasks t ht
    · rw [List.mem_singleton.mp ht]
      trivial
  | drops =>
    refine ⟨es, p, h.library, fun t ht => ?_⟩
    rcases List.mem_or_eq_of_mem_set ht with ht | rfl
    · exact h.tasks t ht
    · trivial
  | polls ht hpolls =>
    obtain ⟨es', p', rfl⟩ := hpolls.exists_after
    refine ⟨es', p', rfl, fun t ht => ?_⟩
    rcases List.mem_or_eq_of_mem_set ht with ht | rfl
    · have hfits := h.tasks t ht
      rw [h.library] at hfits
      exact hfits.mono hpolls.length_le fun _ _ => hpolls.keeps
    · exact Task.fits_ofPoll hpolls.lt_length hpolls.result

theorem Inv.run (h : Inv c es p) (events : List (Event α)) :
    ∃ es' p', Inv (c.run events) es' p' := by
  induction events generalizing c es p with
  | nil => exact ⟨es, p, h⟩
  | cons e events ih =>
    obtain ⟨es', p', h'⟩ := h.steps (step_spec h e)
    exact ih h'

theorem Steps.library_of_loaded {c' : Crowd α} (h : Steps c es (.loaded a) c')
    (hc : c.library = after es (.loaded a)) : c'.library = c.library := by
  cases h with
  | stays => rfl
  | calls => rfl
  | drops => rfl
  | polls ht hpolls => rw [hpolls.eq_of_loaded, hc]

theorem library_run_of_loaded (h : Inv c es (.loaded a)) (events : List (Event α)) :
    (c.run events).library = c.library := by
  induction events generalizing c with
  | nil => rfl
  | cons e events ih =>
    have hlibrary := (step_spec h e).library_of_loaded h.library
    obtain ⟨_, _, h'⟩ := h.steps (step_spec h e)
    exact (ih ⟨hlibrary.trans h.library, h'.tasks⟩).trans hlibrary

theorem Steps.idle_of_length_lt {c' : Crowd α} (h : Steps c es p c') (hc : c.library = after es p)
    (hlt : c.library.loads.length < c'.library.loads.length) : p = .idle := by
  cases h with
  | stays => exact absurd hlt (Nat.lt_irrefl _)
  | calls => exact absurd hlt (Nat.lt_irrefl _)
  | drops => exact absurd hlt (Nat.lt_irrefl _)
  | polls ht hpolls =>
    rw [hc] at hlt
    exact hpolls.idle_of_length_lt hlt

def Stays (c : Crowd α) (i load : Nat) : Prop :=
  ∃ t, c.tasks[i]? = some t ∧ (t = .dropped ∨ t.load? = some load)

theorem Stays.set {t : Task α} (h : c.Stays i n) (j : Nat)
    (ht : j = i → t = .dropped ∨ t.load? = some n) (l : Lazy α) :
    Crowd.Stays ⟨l, c.tasks.set j t⟩ i n := by
  obtain ⟨t', ht', hload⟩ := h
  by_cases hj : j = i
  · subst hj
    exact ⟨t, List.getElem?_set_self (List.getElem?_eq_some_iff.mp ht').1, ht rfl⟩
  · exact ⟨t', by rw [List.getElem?_set_ne hj, ht'], hload⟩

theorem Stays.steps {c' : Crowd α} (h : c.Stays i n) (hsteps : Steps c es p c') :
    c'.Stays i n := by
  cases hsteps with
  | stays => exact h
  | calls =>
    obtain ⟨t, ht, hload⟩ := h
    exact ⟨t, by rw [List.getElem?_append_left (List.getElem?_eq_some_iff.mp ht).1, ht], hload⟩
  | drops => exact h.set _ (fun _ => .inl rfl) _
  | @polls j caller _ r l hcaller hpolls =>
    refine h.set j (fun hj => .inr ?_) l
    subst hj
    obtain ⟨t, ht, hload⟩ := h
    obtain rfl : .running caller = t := Option.some.inj (hcaller.symm.trans ht)
    rw [Task.load?_ofPoll]
    cases caller with
    | fresh => rcases hload with hload | hload <;> cases hload
    | waiting k =>
      rcases hload with hload | hload
      · cases hload
      · exact hload

theorem Stays.run (h : c.Stays i n) (hinv : Inv c es p) (events : List (Event α)) :
    (c.run events).Stays i n := by
  induction events generalizing c es p with
  | nil => exact h
  | cons e events ih =>
    obtain ⟨es', p', hinv'⟩ := hinv.steps (step_spec hinv e)
    exact ih (h.steps (step_spec hinv e)) hinv'

theorem countP_isNone_le (es : List Failure) (p : Phase α) :
    (after es p).loads.countP Option.isNone ≤ 1 := by
  have hfailed : (es.map (fun e => (some (.error e) : Option (Except Failure α)))).countP
      Option.isNone = 0 := by
    simp [List.countP_eq_zero]
  rw [loads_after, List.countP_append, hfailed]
  cases p <;> simp [Phase.loads]

theorem length_le_countP_isFailed (es : List Failure) (p : Phase α) :
    (after es p).loads.length ≤ (after es p).loads.countP isFailed + 1 := by
  have hfailed : (es.map (fun e => (some (.error e) : Option (Except Failure α)))).countP
      isFailed = es.length := by
    rw [List.countP_eq_length.mpr (by simp [isFailed]), List.length_map]
  rw [loads_after, List.countP_append, hfailed, List.length_append, List.length_map]
  cases p <;> simp [Phase.loads]

theorem isFailed_of_mem_idle {r : Option (Except Failure α)} (h : r ∈ (after es .idle).loads) :
    isFailed r = true := by
  simp only [loads_after, Phase.loads, List.append_nil, List.mem_map] at h
  obtain ⟨e, -, rfl⟩ := h
  rfl

theorem idle_of_getLast? (h : (after es p).loads.getLast? = some (some (.error e))) :
    p = .idle := by
  cases p with
  | idle => rfl
  | loading => simp [loads_after, Phase.loads] at h
  | loaded a => simp [loads_after, Phase.loads] at h

def load? (c : Crowd α) (i : Nat) : Option Nat := c.tasks[i]?.bind Task.load?

theorem load?_step_poll (h : Inv c es p) (ht : c.tasks[i]? = some (.running caller)) :
    (c.step (.poll i ready)).load? i = some (caller.load c.library) := by
  obtain ⟨r, l, hstep, -⟩ := step_poll h ht ready
  rw [hstep, load?, List.getElem?_set_self (List.getElem?_eq_some_iff.mp ht).1]
  exact Task.load?_ofPoll r _

theorem starts_after_failure (h : Inv c es p) (ht : c.tasks[i]? = some (.running .fresh))
    (hlast : c.library.loads.getLast? = some (some (.error e))) :
    (c.step (.poll i ready)).library.loads.length = c.library.loads.length + 1 ∧
      (c.step (.poll i ready)).load? i = some c.library.loads.length := by
  rw [load?_step_poll h ht]
  obtain ⟨r, l, hstep, hpolls⟩ := step_poll h ht ready
  rw [h.library] at hlast hpolls
  obtain rfl := idle_of_getLast? hlast
  rw [Caller.load, join_idle] at hpolls
  rw [hstep, hpolls.eq_driven, loads_driven, Caller.load, h.library, join_idle, loads_after]
  simp [Phase.loads]

theorem stays_of_load? {load : Nat} (h : c.load? i = some load) : c.Stays i load := by
  rw [load?, Option.bind_eq_some_iff] at h
  obtain ⟨t, ht, hload⟩ := h
  exact ⟨t, ht, .inr hload⟩

theorem returned_of_stays {load load' : Nat} {r : Except Failure α} (h : Inv c es p)
    (hstays : c.Stays i load) (ht : c.tasks[i]? = some (.returned load' r)) :
    load' = load ∧ c.library.result? load = some r := by
  obtain ⟨t, ht', hload⟩ := hstays
  obtain rfl : .returned load' r = t := Option.some.inj (ht.symm.trans ht')
  rcases hload with hload | hload
  · cases hload
  · obtain rfl : load' = load := Option.some.inj hload
    exact ⟨rfl, h.tasks _ (List.mem_of_getElem? ht)⟩

theorem returns {r : Except Failure α} (h : Inv c es p)
    (ht : c.tasks[i]? = some (.running caller)) (ready : Nat → Option (Except Failure α))
    (hr : (c.library.result? (caller.load c.library)).or (ready (caller.load c.library)) = some r) :
    (c.step (.poll i ready)).tasks[i]? = some (.returned (caller.load c.library) r) := by
  obtain ⟨r', l, hstep, hpolls⟩ := step_poll h ht ready
  obtain rfl : r' = some r := by
    rw [hpolls.result_eq, ← h.library, hr]
  rw [hstep, List.getElem?_set_self (List.getElem?_eq_some_iff.mp ht).1]
  rfl

theorem late_poll {r : Except Failure α} (h : Inv c es p)
    (ht : c.tasks[i]? = some (.running caller))
    (hr : c.library.result? (caller.load c.library) = some r) :
    (c.step (.poll i ready)).library = c.library := by
  obtain ⟨r', l, hstep, hpolls⟩ := step_poll h ht ready
  rw [hstep, h.library]
  rw [h.library] at hr hpolls
  exact hpolls.eq_of_result? hr

/-- However the calls of a library are made, polled and dropped: one load at most is unfinished, a
load is started only when all before it have failed, and then by the next call that begins. A call
comes back with the result of the load that it joined as soon as that has finished, and if it comes
late it leaves the library as it is. A load that succeeds is the last one, and every call that
begins after it comes back with it at once. -/
theorem load_shared_until_failure (events : List (Event α)) :
    let c := ({} : Crowd α).run events
    c.library.loads.countP Option.isNone ≤ 1 ∧
      c.library.loads.length ≤ c.library.loads.countP isFailed + 1 ∧
      (∀ event, c.library.loads.length < (c.step event).library.loads.length →
        ∀ r ∈ c.library.loads, isFailed r = true) ∧
      (∀ i ready e, c.tasks[i]? = some (.running .fresh) →
        c.library.loads.getLast? = some (some (.error e)) →
          (c.step (.poll i ready)).library.loads.length = c.library.loads.length + 1 ∧
            (c.step (.poll i ready)).load? i = some c.library.loads.length) ∧
      (∀ i ready, c.tasks[i]? = some (.running .fresh) →
        (c.step (.poll i ready)).load? i = some c.library.join.1) ∧
      (∀ i load, c.load? i = some load → ∀ later load' r,
        (c.run later).tasks[i]? = some (.returned load' r) →
          load' = load ∧ (c.run later).library.result? load = some r) ∧
      (∀ i load r ready, c.tasks[i]? = some (.running (.waiting load)) →
        (c.library.result? load).or (ready load) = some r →
          (c.step (.poll i ready)).tasks[i]? = some (.returned load r)) ∧
      (∀ i load r ready, c.tasks[i]? = some (.running (.waiting load)) →
        c.library.result? load = some r → (c.step (.poll i ready)).library = c.library) ∧
      ∀ load a, c.library.result? load = some (.ok a) → ∀ later,
        (c.run later).library = c.library ∧ (c.run later).library.isLoaded = true ∧
          ∀ i ready, (c.run later).tasks[i]? = some (.running .fresh) →
            ((c.run later).step (.poll i ready)).tasks[i]? = some (.returned load (.ok a)) := by
  intro c
  obtain ⟨es, p, h⟩ : ∃ es p, Inv c es p := inv_empty.run events
  refine ⟨?_, ?_, fun event hlt => ?_, fun i ready e ht hlast => starts_after_failure h ht hlast,
    fun i ready ht => load?_step_poll h ht, fun i load hload later load' r ht => ?_,
    fun i load r ready ht hr => returns h ht ready hr,
    fun i load r ready ht hr => late_poll h ht hr, fun load a hload later => ?_⟩
  · rw [h.library]
    exact countP_isNone_le es p
  · rw [h.library]
    exact length_le_countP_isFailed es p
  · -- a step that starts a load has found none to join
    obtain rfl := (step_spec h event).idle_of_length_lt h.library hlt
    rw [h.library]
    exact fun r => isFailed_of_mem_idle
  · obtain ⟨es', p', h'⟩ := h.run later
    exact returned_of_stays h' ((stays_of_load? hload).run h later) ht
  · rw [h.library] at hload
    obtain ⟨rfl, rfl⟩ := result?_eq_ok hload
    have hlibrary := library_run_of_loaded h later
    obtain ⟨_, _, h'⟩ := h.run later
    have hloaded : Inv (c.run later) es (.loaded a) := ⟨hlibrary.trans h.library, h'.tasks⟩
    refine ⟨hlibrary, ?_, fun i ready ht => ?_⟩
    · rw [hloaded.library, isLoaded]
      simp [after, Phase.current, result?, Phase.loads, isOk]
    · have hjoin : (c.run later).library.join.1 = es.length := by
        rw [hloaded.library, join_of_current rfl]
      have hreturns := returns (r := .ok a) hloaded ht ready
      rw [Caller.load, hjoin, hloaded.library, hload] at hreturns
      exact hreturns rfl

def retried : List (Event Nat) := [
  .call, .call, .call,
  .poll 0 fun _ => none,
  .poll 1 fun _ => none,
  .poll 0 fun _ => some (.error (.script "404")),
  .poll 2 fun _ => none]

theorem late_after_retried :
    let c := ({} : Crowd Nat).run retried
    c.library = ⟨[some (.error (.script "404")), none], some 1⟩ ∧
      ∀ ready, (c.step (.poll 1 ready)).library = c.library ∧
        (c.step (.poll 1 ready)).tasks[1]? = some (.returned 0 (.error (.script "404"))) := by
  intro c
  obtain ⟨-, -, -, -, -, -, returns, late, -⟩ := load_shared_until_failure retried
  exact ⟨rfl, fun ready => ⟨late 1 0 _ ready rfl rfl, returns 1 0 _ ready rfl rfl⟩⟩

end Crowd

end Lazy

end ForumClient
