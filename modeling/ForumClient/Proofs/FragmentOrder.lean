import ForumClient.Proofs.SessionRun
import Mathlib.Data.List.Induction
import Mathlib.Data.List.Nodup
import Mathlib.Data.List.Perm.Basic

namespace ForumClient

namespace PostPage

/-- The fetches of the fragment by their numbers, from zero in the order in which they were begun.
Answers stand in the order in which they came. -/
structure Ledger where
  begun : Nat := 1
  waiting : List Nat := [0]
  answers : List (Nat × Except Failure Text) := []

def Ledger.enter (l : Ledger) : Move → Ledger
  | .saved => { l with begun := l.begun + 1, waiting := l.waiting ++ [l.begun] }
  | .answered place r =>
    { l with
      waiting := l.waiting.eraseIdx place
      answers := l.answers ++ (l.waiting[place]?.map (·, r)).toList }
  | .clicked | .other => l

def ledger (log : List Move) : Ledger := log.foldl Ledger.enter {}

structure Ledger.Agrees (l : Ledger) (p : PostPage) : Prop where
  begun : l.begun = p.generation + 1
  waiting : l.waiting.length = p.fetches.length
  numbers : (l.waiting ++ l.answers.map Prod.fst).Perm (List.range l.begun)
  fragment : p.fragment = l.answers.getLast?.map Prod.snd

def Ledger.InOrder (l : Ledger) : Prop := l.answers.map Prod.fst ++ l.waiting = List.range l.begun

variable {p q : PostPage} {m : Move} {log : List Move} {l : Ledger} {place : Nat}
  {r : Except Failure Text}

theorem ledger_concat (log : List Move) (m : Move) : ledger (log ++ [m]) = (ledger log).enter m := by
  rw [ledger, List.foldl_concat, ledger]

theorem Ledger.enter_answered (h : place < l.waiting.length) : l.enter (.answered place r) =
    { l with
      waiting := l.waiting.eraseIdx place
      answers := l.answers ++ [(l.waiting[place], r)] } := by
  rw [enter, List.getElem?_eq_getElem h]
  rfl

theorem Ledger.perm_enter_answered (h : place < l.waiting.length) :
    ((l.enter (.answered place r)).waiting ++
      (l.enter (.answered place r)).answers.map Prod.fst).Perm
        (l.waiting ++ l.answers.map Prod.fst) := by
  rw [enter_answered h, List.map_append, ← List.append_assoc]
  apply (List.perm_append_singleton _ _).trans
  exact (List.getElem_cons_eraseIdx_perm h).append_right _

theorem Ledger.perm_enter_saved (l : Ledger) (h : (l.waiting ++ l.answers.map Prod.fst).Perm
    (List.range l.begun)) : ((l.enter .saved).waiting ++
      (l.enter .saved).answers.map Prod.fst).Perm (List.range (l.begun + 1)) := by
  rw [List.range_succ]
  apply List.Perm.trans _ (h.append_right [l.begun])
  simp only [enter, List.append_assoc]
  exact List.perm_append_comm.append_left l.waiting

theorem Ledger.Agrees.step (h : l.Agrees p) (hstep : Step p m q) : (l.enter m).Agrees q := by
  cases hstep with
  | saved host =>
    refine ⟨congrArg (· + 1) h.begun, ?_, l.perm_enter_saved h.numbers, h.fragment⟩
    simp [enter, ask, renew, h.waiting]
  | @answered before _ after _ _ host fetches result =>
    have hplace : before.length < l.waiting.length := by
      rw [h.waiting, fetches, List.length_append, List.length_cons]
      omega
    rw [receive_eq]
    refine ⟨h.begun, ?_, (perm_enter_answered hplace).trans h.numbers, ?_⟩
    · have hlength := h.waiting
      rw [fetches] at hlength
      simp [enter_answered hplace, List.length_eraseIdx_of_lt hplace, hlength]
    · simp [enter_answered hplace]
  | advanced host fetches result =>
    refine ⟨h.begun, ?_, h.numbers, h.fragment⟩
    rw [enter, h.waiting, fetches]
    simp
  | clicked | polled | progress | folded | quick =>
    exact ⟨h.begun, h.waiting, h.numbers, h.fragment⟩

theorem Reached.agrees (h : Reached log p) : (ledger log).Agrees p := by
  obtain ⟨post, quick, host, steps⟩ := h
  induction steps with
  | refl => exact ⟨rfl, rfl, List.Perm.refl _, rfl⟩
  | tail _ step ih =>
    rw [ledger_concat]
    exact ih.step step

theorem Ledger.InOrder.enter (h : l.InOrder) (hm : ∀ place r, m = .answered place r → place = 0) :
    (l.enter m).InOrder := by
  rw [InOrder] at h ⊢
  cases m with
  | saved => simp [Ledger.enter, List.range_succ, ← h]
  | answered place r =>
    cases hm place r rfl
    cases hw : l.waiting with
    | nil => simpa [Ledger.enter, hw] using h
    | cons n waiting => simpa [Ledger.enter, hw] using h
  | clicked | other => exact h

theorem inOrder_ledger (h : ∀ place r, .answered place r ∈ log → place = 0) :
    (ledger log).InOrder := by
  induction log using List.reverseRecOn with
  | nil => rfl
  | append_singleton log m ih =>
    rw [ledger_concat]
    apply (ih fun place r hr => h place r (List.mem_append_left _ hr)).enter
    intro place r hm
    exact h place r (by simp [hm])

section Settled

variable (h : l.Agrees p) (hdone : p.fetches = [])
include h hdone

theorem Ledger.Agrees.waiting_eq_nil : l.waiting = [] := by
  rw [← List.length_eq_zero_iff, h.waiting, hdone, List.length_nil]

theorem Ledger.Agrees.perm_range :
    (l.answers.map Prod.fst).Perm (List.range (p.generation + 1)) := by
  have hnumbers := h.numbers
  rwa [h.waiting_eq_nil hdone, List.nil_append, h.begun] at hnumbers

theorem Ledger.Agrees.exists_newest : ∃ newest, (p.generation, newest) ∈ l.answers := by
  have hmem : p.generation ∈ l.answers.map Prod.fst :=
    (h.perm_range hdone).mem_iff.mpr (List.mem_range.mpr (Nat.lt_succ_self _))
  obtain ⟨⟨_, newest⟩, hnewest, rfl⟩ := List.mem_map.mp hmem
  exact ⟨newest, hnewest⟩

theorem Ledger.Agrees.answer_unique {a b : Nat × Except Failure Text} (ha : a ∈ l.answers)
    (hb : b ∈ l.answers) (hab : a.1 = b.1) : a = b := by
  have hnodup : (l.answers.map Prod.fst).Nodup :=
    (h.perm_range hdone).nodup_iff.mpr List.nodup_range
  exact List.inj_on_of_nodup_map hnodup ha hb hab

theorem Ledger.Agrees.last_of_inOrder (hl : l.InOrder) :
    l.answers.getLast?.map Prod.fst = some p.generation := by
  rw [InOrder, h.waiting_eq_nil hdone, List.append_nil, h.begun] at hl
  rw [← List.getLast?_map, hl, List.range_succ, List.getLast?_concat]

end Settled

/-- Once every fetch of the fragment has ended, each has ended once and the page has what the last
to end has brought. That is what the newest has brought if the newest ended last, and so it is
whenever answers keep the order of the fetches. -/
theorem fragment_eq_last_answer {route : Route} {host : Host} {inputs : List Session.Input}
    (hp : ((Session.start route host).run inputs).post? = some p) :
    Reached (Session.moves route host inputs) p ∧ ∀ log, Reached log p → p.fetches = [] →
      ((ledger log).answers.map Prod.fst).Perm (List.range (p.generation + 1)) ∧
      ∃ newest, (p.generation, newest) ∈ (ledger log).answers ∧
        (p.fragment = some newest ↔
          (ledger log).answers.getLast?.map Prod.snd = some newest) ∧
        ((ledger log).answers.getLast?.map Prod.fst = some p.generation →
          p.fragment = some newest) ∧
        ((∀ place r, .answered place r ∈ log → place = 0) → p.fragment = some newest) := by
  refine ⟨Session.reached_moves hp, fun log hlog hdone => ?_⟩
  have h := hlog.agrees
  obtain ⟨newest, hnewest⟩ := h.exists_newest hdone
  have hlast (heq : (ledger log).answers.getLast?.map Prod.fst = some p.generation) :
      p.fragment = some newest := by
    obtain ⟨last, hlast, heq⟩ := Option.map_eq_some_iff.mp heq
    rw [h.fragment, hlast, h.answer_unique hdone (List.mem_of_getLast? hlast) hnewest heq,
      Option.map_some]
  refine ⟨h.perm_range hdone, newest, hnewest, by rw [h.fragment], hlast, fun horder => ?_⟩
  exact hlast (h.last_of_inOrder hdone (inOrder_ledger horder))

def overtaken : List Session.Input :=
  Session.sending ++
    [Session.accepted, .respond 2 (.text 200 "new"), .respond 0 (.text 500 "")]

def overtakenLog : List Move := [
  .other, .other, .other, .other,
  .saved, .other, .other, .other, .other, .other,
  .answered 1 (.ok "new".toList), .other, .other,
  .answered 0 (.error (.transport "HTTP 500 for /p/7?raw=1")), .other, .other]

theorem moves_overtaken : Session.moves (.post ⟨7⟩) (.bare []) overtaken = overtakenLog := by
  decide +kernel

theorem exists_overtaken : ∃ p, (Session.visited.run overtaken).post? = some p ∧
    Reached overtakenLog p ∧ p.fetches = [] ∧ p.generation = 1 := by
  have hpage : (Session.visited.run overtaken).post?.map
      (fun p => (p.fetches.isEmpty, p.generation)) = some (true, 1) := by
    decide +kernel
  obtain ⟨p, hp, hstate⟩ := Option.map_eq_some_iff.mp hpage
  obtain ⟨hdone, hgeneration⟩ := Prod.mk.inj hstate
  have hlog := Session.reached_moves hp
  rw [moves_overtaken] at hlog
  exact ⟨p, hp, hlog, List.isEmpty_iff.mp hdone, hgeneration⟩

theorem fragment_overtaken : ∃ p, (Session.visited.run overtaken).post? = some p ∧
    Session.moves (.post ⟨7⟩) (.bare []) overtaken = overtakenLog ∧ p.fetches = [] ∧
      ∃ newest, (p.generation, newest) ∈ (ledger overtakenLog).answers ∧
        p.fragment ≠ some newest := by
  obtain ⟨p, hp, hlog, hdone, hgeneration⟩ := exists_overtaken
  obtain ⟨-, newest, hnewest, hiff, -⟩ := (fragment_eq_last_answer hp).2 overtakenLog hlog hdone
  refine ⟨p, hp, moves_overtaken, hdone, newest, hnewest, fun heq => ?_⟩
  rw [hgeneration] at hnewest
  cases hiff.mp heq
  exact absurd hnewest (by decide)

/-- The newest fetch has brought a text, and the page has the failure of the other. -/
theorem newest_overtaken : ∃ p, (Session.visited.run overtaken).post? = some p ∧
    Session.moves (.post ⟨7⟩) (.bare []) overtaken = overtakenLog ∧ p.fetches = [] ∧
      (p.generation, .ok "new".toList) ∈ (ledger overtakenLog).answers ∧
      p.fragment = some (.error (.transport "HTTP 500 for /p/7?raw=1")) := by
  obtain ⟨p, hp, hlog, hdone, hgeneration⟩ := exists_overtaken
  refine ⟨p, hp, moves_overtaken, hdone, ?_, hlog.agrees.fragment⟩
  rw [hgeneration]
  decide

end PostPage

end ForumClient
