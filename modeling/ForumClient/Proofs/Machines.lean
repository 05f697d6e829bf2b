import ForumClient.Proofs.Run
import Mathlib.Data.List.DropRight

namespace ForumClient

namespace Document

variable {d : Document} {op : Op} {id k : Text}

def log (d : Document) : List Op → List (Op × Option Action)
  | [] => []
  | op :: ops => (op, d.answer op) :: (d.perform op).log ops

theorem log_concat (d : Document) (ops : List Op) (op : Op) :
    d.log (ops ++ [op]) = d.log ops ++ [(op, (d.run ops).answer op)] := by
  induction ops generalizing d with
  | nil => rfl
  | cons op' ops ih =>
    rw [List.cons_append, log, ih]
    rfl

def since (k : Text) (log : List (Op × Option Action)) : List (Op × Option Action) :=
  log.rtakeWhile fun e => !e.1.drops k e.2

theorem since_concat (k : Text) (log : List (Op × Option Action)) (e : Op × Option Action) :
    since k (log ++ [e]) = if e.1.drops k e.2 then [] else since k log ++ [e] := by
  rw [since, List.rtakeWhile_concat]
  cases e.1.drops k e.2 <;> rfl

section Replay

variable {σ ι : Type} (input? : Op → Option Action → Option ι) (next : σ → ι → σ) (init : σ)

def replay (k : Text) (log : List (Op × Option Action)) : σ :=
  ((since k log).filterMap fun e => input? e.1 e.2).foldl next init

theorem replay_concat (k : Text) (log : List (Op × Option Action)) (op : Op)
    (answer : Option Action) :
    replay input? next init k (log ++ [(op, answer)]) =
      if op.drops k answer then init
      else (input? op answer).toList.foldl next (replay input? next init k log) := by
  rw [replay, since_concat]
  split
  · rfl
  · rw [List.filterMap_append, List.foldl_append]
    cases h : input? op answer <;> simp [replay, h]

end Replay

def referenceMachine (k : Text) (log : List (Op × Option Action)) : Reference :=
  replay (Op.referenceInput? k) .next .collapsed k log

def imageMachine (k : Text) (log : List (Op × Option Action)) : Image :=
  replay (Op.imageInput? k) .next {} k log

theorem reference_run (html : Text) (ops : List Op) (k : Text) :
    ((ofHtml html).run ops).reference k = referenceMachine k ((ofHtml html).log ops) := by
  induction ops using List.reverseRecOn with
  | nil => rfl
  | append_singleton ops op ih =>
    rw [run_concat, log_concat, reference_perform, referenceMachine, replay_concat, ih]
    rfl

theorem image_run (html : Text) (ops : List Op) (k : Text) :
    ((ofHtml html).run ops).image k = imageMachine k ((ofHtml html).log ops) := by
  induction ops using List.reverseRecOn with
  | nil => rfl
  | append_singleton ops op ih =>
    rw [run_concat, log_concat, image_perform, imageMachine, replay_concat, ih]
    rfl

theorem action_clickReference {action : Reference.Action} {post : PostId}
    (h : (d.clickReference id).1 = some (action, post)) : action = (d.reference id).toggle.1 := by
  rcases clickReference_cases d id with ⟨post, label, hs⟩ | ⟨-, hnone⟩
  · rw [clickReference_eq hs] at h
    cases h
    rfl
  · rw [hnone] at h
    cases h

theorem action_clickImage {view : ImageView} {action : Image.Action} {url : Text}
    (h : (d.clickImage id view).1 = some (action, url)) :
    action = ((d.image id).toggle view).1 := by
  rcases clickImage_cases d id view with ⟨thumbnail, url, hs⟩ | ⟨-, hnone⟩
  · rw [clickImage_eq hs] at h
    cases h
    rfl
  · rw [hnone] at h
    cases h

theorem drops_of_not_isUnder {answer : Option Action} (h : Slot.isUnder op.slot k = false) :
    op.drops k answer = false := by
  rw [← Bool.not_eq_true, drops_iff]
  rintro ⟨id, post, rfl, -, hid⟩
  rw [Op.slot, hid] at h
  cases h

theorem referenceInput?_of_ne {answer : Option Action} (h : op.slot ≠ k) :
    op.referenceInput? k answer = none := by
  cases op <;> cases answer <;> simp_all [Op.slot, Op.referenceInput?, Ne.symm]

theorem imageInput?_of_ne {answer : Option Action} (h : op.slot ≠ k) :
    op.imageInput? k answer = none := by
  cases op <;> cases answer <;> simp_all [Op.slot, Op.imageInput?, Ne.symm]

theorem perform_elsewhere (d : Document) (h : op.slot ≠ k)
    (hunder : Slot.isUnder op.slot k = false) :
    (d.perform op).reference k = d.reference k ∧ (d.perform op).image k = d.image k := by
  rw [reference_perform, image_perform, drops_of_not_isUnder hunder, referenceInput?_of_ne h,
    imageInput?_of_ne h]
  exact ⟨rfl, rfl⟩

/-- After any run, a slot is in the state of its own machine, the next click on it is answered as
that machine answers, and an operation elsewhere does not reach it. -/
theorem run_refines_machines (html : Text) (ops : List Op) (id : Text) :
    ((ofHtml html).run ops).reference id = referenceMachine id ((ofHtml html).log ops) ∧
    ((ofHtml html).run ops).image id = imageMachine id ((ofHtml html).log ops) ∧
    (∀ action post, (((ofHtml html).run ops).clickReference id).1 = some (action, post) →
      action = (referenceMachine id ((ofHtml html).log ops)).toggle.1) ∧
    (∀ view action url, (((ofHtml html).run ops).clickImage id view).1 = some (action, url) →
      action = ((imageMachine id ((ofHtml html).log ops)).toggle view).1) ∧
    ∀ op, op.slot ≠ id → Slot.isUnder op.slot id = false →
      (((ofHtml html).run ops).perform op).reference id = ((ofHtml html).run ops).reference id ∧
      (((ofHtml html).run ops).perform op).image id = ((ofHtml html).run ops).image id := by
  refine ⟨reference_run html ops id, image_run html ops id, ?_, ?_, ?_⟩
  · intro action post h
    rw [← reference_run]
    exact action_clickReference h
  · intro view action url h
    rw [← image_run]
    exact action_clickImage h
  · intro op
    exact perform_elsewhere _

end Document

end ForumClient
