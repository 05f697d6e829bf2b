import ForumClient.Proofs.Lookup

namespace ForumClient

open Markup

namespace Reference

inductive Input
  | toggle
  | settle : Except Failure Text → Input

def next (r : Reference) : Input → Reference
  | .toggle => r.toggle.2
  | .settle reply => r.settle reply

end Reference

namespace Image

inductive Input
  | toggle : ImageView → Input
  | progress : (loaded : Float) → (total : Float) → Input
  | settle : Except Failure Text → Input

def next (i : Image) : Input → Image
  | .toggle view => (i.toggle view).2
  | .progress loaded total => i.progress loaded total
  | .settle result => i.settle result

end Image

namespace Document

inductive Op
  | clickReference : Text → Op
  | settleReference : Text → Except Failure Text → Op
  | clickImage : Text → ImageView → Op
  | imageProgress : Text → (loaded : Float) → (total : Float) → Op
  | settleImage : Text → Except Failure Text → Op

inductive Action
  | reference : Reference.Action → PostId → Action
  | image : Image.Action → (url : Text) → Action
  deriving DecidableEq

def perform (d : Document) : Op → Document
  | .clickReference id => (d.clickReference id).2
  | .settleReference id reply => d.settleReference id reply
  | .clickImage id view => (d.clickImage id view).2
  | .imageProgress id loaded total => d.imageProgress id loaded total
  | .settleImage id result => d.settleImage id result

def answer (d : Document) : Op → Option Action
  | .clickReference id => (d.clickReference id).1.map fun (action, post) => .reference action post
  | .clickImage id view => (d.clickImage id view).1.map fun (action, url) => .image action url
  | _ => none

def run (d : Document) (ops : List Op) : Document := ops.foldl perform d

theorem run_concat (d : Document) (ops : List Op) (op : Op) :
    d.run (ops ++ [op]) = (d.run ops).perform op := by
  simp [run]

namespace Op

def slot : Op → Text
  | .clickReference id => id
  | .settleReference id _ => id
  | .clickImage id _ => id
  | .imageProgress id _ _ => id
  | .settleImage id _ => id

def drops (k : Text) : Op → Option Action → Bool
  | .clickReference id, some (.reference .collapse _) => Slot.isUnder id k
  | _, _ => false

def referenceInput? (k : Text) : Op → Option Action → Option Reference.Input
  | .clickReference id, some _ => if k = id then some .toggle else none
  | .settleReference id reply, _ => if k = id then some (.settle reply) else none
  | _, _ => none

def imageInput? (k : Text) : Op → Option Action → Option Image.Input
  | .clickImage id view, some _ => if k = id then some (.toggle view) else none
  | .imageProgress id loaded total, _ => if k = id then some (.progress loaded total) else none
  | .settleImage id result, _ => if k = id then some (.settle result) else none
  | _, _ => none

end Op

variable {d d' : Document} {id k : Text} {parent p q : Slot.Path} {html : Text} {seg : Segment}
  {post : PostId} {label : Text} {thumbnail url : Text} {op : Op}

theorem get?_of_reference_ne (h : d.reference id ≠ .collapsed) :
    d.references.get? id = some (d.reference id) := by
  rw [reference] at h ⊢
  cases hr : d.references.get? id with
  | none => exact absurd (by rw [hr]; rfl) h
  | some r => rfl

theorem get?_of_image_ne (h : d.image id ≠ {}) : d.images.get? id = some (d.image id) := by
  rw [image] at h ⊢
  cases hi : d.images.get? id with
  | none => exact absurd (by rw [hi]; rfl) h
  | some i => rfl

theorem clickReference_eq (h : d.slot? id = some (.reference post label)) :
    d.clickReference id = (some ((d.reference id).toggle.1, post),
      let d' := { d with references := d.references.put id (d.reference id).toggle.2 }
      if (d.reference id).toggle.1 = .collapse then d'.purge id else d') := by
  rw [clickReference, h]

theorem clickReference_cases (d : Document) (id : Text) :
    (∃ post label, d.slot? id = some (.reference post label)) ∨
      (∀ post label, d.slot? id ≠ some (.reference post label)) ∧
        d.clickReference id = (none, d) := by
  rw [clickReference]
  split
  · next post label h => exact .inl ⟨post, label, h⟩
  · next h => exact .inr ⟨h, rfl⟩

theorem clickImage_eq {view : ImageView} (h : d.slot? id = some (.image thumbnail url)) :
    d.clickImage id view = (some ((d.image id).toggle view |>.1, url),
      { d with images := d.images.put id ((d.image id).toggle view).2 }) := by
  rw [clickImage, h]

theorem clickImage_cases (d : Document) (id : Text) (view : ImageView) :
    (∃ thumbnail url, d.slot? id = some (.image thumbnail url)) ∨
      (∀ thumbnail url, d.slot? id ≠ some (.image thumbnail url)) ∧
        d.clickImage id view = (none, d) := by
  rw [clickImage]
  split
  · next thumbnail url h => exact .inl ⟨thumbnail, url, h⟩
  · next h => exact .inr ⟨h, rfl⟩

theorem html_perform (d : Document) (op : Op) : (d.perform op).html = d.html := by
  cases op with
  | clickReference id =>
    rw [perform, clickReference]
    split
    · dsimp only
      split <;> rfl
    · rfl
  | clickImage id view =>
    rw [perform, clickImage]
    split <;> rfl
  | settleReference | imageProgress | settleImage => rfl

theorem references_perform (d : Document) (op : Op) (k : Text) :
    (d.perform op).references.get? k =
      if op.drops k (d.answer op) then none
      else match op.referenceInput? k (d.answer op) with
        | some .toggle => some (d.reference k).toggle.2
        | some (.settle reply) => (d.references.get? k).map (.settle reply)
        | none => d.references.get? k := by
  cases op with
  | clickReference id =>
    rcases clickReference_cases d id with ⟨post, label, h⟩ | ⟨-, hnone⟩
    · rw [perform, answer, clickReference_eq h]
      by_cases e : k = id
      · subst e
        cases ha : (d.reference k).toggle.1 <;>
          simp [purge, Op.drops, Op.referenceInput?, Slot.isUnder_self]
      · cases ha : (d.reference id).toggle.1 <;> cases hk : Slot.isUnder id k <;>
          simp [purge, hk, Op.drops, Op.referenceInput?, e]
    · rw [perform, answer, hnone]
      rfl
  | settleReference id reply =>
    by_cases e : k = id <;> simp [perform, settleReference, Op.drops, Op.referenceInput?, e]
  | clickImage id view =>
    rw [perform, clickImage]
    split <;> rfl
  | imageProgress id loaded total => rfl
  | settleImage id result => rfl

theorem images_perform (d : Document) (op : Op) (k : Text) :
    (d.perform op).images.get? k =
      if op.drops k (d.answer op) then none
      else match op.imageInput? k (d.answer op) with
        | some (.toggle view) => some ((d.image k).toggle view).2
        | some (.progress loaded total) => (d.images.get? k).map (.progress loaded total)
        | some (.settle result) => (d.images.get? k).map (.settle result)
        | none => d.images.get? k := by
  cases op with
  | clickReference id =>
    rcases clickReference_cases d id with ⟨post, label, h⟩ | ⟨-, hnone⟩
    · rw [perform, answer, clickReference_eq h]
      cases ha : (d.reference id).toggle.1 <;> cases hk : Slot.isUnder id k <;>
        simp [purge, hk, Op.drops, Op.imageInput?]
    · rw [perform, answer, hnone]
      rfl
  | settleReference id reply => rfl
  | clickImage id view =>
    rcases clickImage_cases d id view with ⟨thumbnail, url, h⟩ | ⟨-, hnone⟩
    · rw [perform, answer, clickImage_eq h]
      by_cases e : k = id
      · subst e
        simp [Op.drops, Op.imageInput?]
      · simp [Op.drops, Op.imageInput?, e]
    · rw [perform, answer, hnone]
      rfl
  | imageProgress id loaded total =>
    by_cases e : k = id <;> simp [perform, imageProgress, Op.drops, Op.imageInput?, e]
  | settleImage id result =>
    by_cases e : k = id <;> simp [perform, settleImage, Op.drops, Op.imageInput?, e]

theorem reference_perform (d : Document) (op : Op) (k : Text) :
    (d.perform op).reference k =
      if op.drops k (d.answer op) then .collapsed
      else ((op.referenceInput? k (d.answer op)).toList.foldl .next (d.reference k)) := by
  rw [reference, references_perform]
  split
  · rfl
  · cases op.referenceInput? k (d.answer op) with
    | none => rfl
    | some input =>
      cases input with
      | toggle => rfl
      | settle reply =>
        rw [reference]
        cases d.references.get? k <;> rfl

theorem image_perform (d : Document) (op : Op) (k : Text) :
    (d.perform op).image k =
      if op.drops k (d.answer op) then {}
      else ((op.imageInput? k (d.answer op)).toList.foldl .next (d.image k)) := by
  rw [image, images_perform]
  split
  · rfl
  · cases op.imageInput? k (d.answer op) with
    | none => rfl
    | some input =>
      cases input with
      | toggle view => rfl
      | progress loaded total =>
        rw [image]
        cases d.images.get? k <;> rfl
      | settle result =>
        rw [image]
        cases d.images.get? k <;> rfl

theorem drops_iff {answer : Option Action} : op.drops k answer ↔
    ∃ id post, op = .clickReference id ∧ answer = some (.reference .collapse post) ∧
      Slot.isUnder id k := by
  cases op with
  | clickReference id => cases answer with
    | none => simp [Op.drops]
    | some a => cases a with
      | reference a post => cases a <;> simp [Op.drops]
      | image a url => simp [Op.drops]
  | settleReference | clickImage | imageProgress | settleImage => simp [Op.drops]

theorem referenceInput?_eq_toggle_iff :
    op.referenceInput? k (d.answer op) = some .toggle ↔
      op = .clickReference k ∧ ∃ post label, d.slot? k = some (.reference post label) := by
  cases op with
  | clickReference id =>
    rcases clickReference_cases d id with ⟨post, label, h⟩ | ⟨h, hnone⟩
    · rw [answer, clickReference_eq h]
      by_cases e : k = id
      · subst e
        simp [Op.referenceInput?, h]
      · simp [Op.referenceInput?, e, Ne.symm e]
    · rw [answer, hnone]
      simp only [Option.map_none, Op.referenceInput?, reduceCtorEq, Op.clickReference.injEq,
        false_iff, not_and, not_exists]
      intro e
      subst e
      exact h
  | settleReference id reply => by_cases e : k = id <;> simp [Op.referenceInput?, e]
  | clickImage | imageProgress | settleImage => simp [Op.referenceInput?]

theorem imageInput?_eq_toggle_iff {view : ImageView} :
    op.imageInput? k (d.answer op) = some (.toggle view) ↔
      op = .clickImage k view ∧ ∃ thumbnail url, d.slot? k = some (.image thumbnail url) := by
  cases op with
  | clickImage id view' =>
    rcases clickImage_cases d id view' with ⟨thumbnail, url, h⟩ | ⟨h, hnone⟩
    · rw [answer, clickImage_eq h]
      by_cases e : k = id
      · subst e
        simp [Op.imageInput?, h]
      · simp [Op.imageInput?, e, Ne.symm e]
    · rw [answer, hnone]
      simp only [Option.map_none, Op.imageInput?, reduceCtorEq, Op.clickImage.injEq,
        false_iff, not_and, not_exists, and_imp]
      rintro rfl -
      exact h
  | settleImage id result => by_cases e : k = id <;> simp [Op.imageInput?, e]
  | imageProgress id loaded total => by_cases e : k = id <;> simp [Op.imageInput?, e]
  | clickReference | settleReference => simp [Op.imageInput?]

theorem referenceInput?_eq_settle_iff {answer : Option Action} {reply : Except Failure Text} :
    op.referenceInput? k answer = some (.settle reply) ↔ op = .settleReference k reply := by
  cases op with
  | settleReference id reply' =>
    by_cases e : k = id
    · simp [Op.referenceInput?, e]
    · simp [Op.referenceInput?, e, Ne.symm e]
  | clickReference id => cases answer <;> simp [Op.referenceInput?]
  | clickImage | imageProgress | settleImage => simp [Op.referenceInput?]

theorem imageInput?_eq_settle_iff {answer : Option Action} {result : Except Failure Text} :
    op.imageInput? k answer = some (.settle result) ↔ op = .settleImage k result := by
  cases op with
  | settleImage id result' =>
    by_cases e : k = id
    · simp [Op.imageInput?, e]
    · simp [Op.imageInput?, e, Ne.symm e]
  | clickImage id view => cases answer <;> simp [Op.imageInput?]
  | imageProgress id loaded total => simp [Op.imageInput?]
  | clickReference | settleReference => simp [Op.imageInput?]

theorem references_of_perform {r : Reference} (h : (d.perform op).references.get? k = some r) :
    op.drops k (d.answer op) = false ∧ ((∃ r', d.references.get? k = some r') ∨
      op = .clickReference k ∧ ∃ post label, d.slot? k = some (.reference post label)) := by
  rw [references_perform] at h
  split at h
  · cases h
  · next hop =>
    refine ⟨(Bool.not_eq_true _).mp hop, ?_⟩
    cases hin : op.referenceInput? k (d.answer op) with
    | none =>
      rw [hin] at h
      exact .inl ⟨r, h⟩
    | some input =>
      rw [hin] at h
      cases input with
      | settle reply =>
        obtain ⟨r', hr', -⟩ := Option.map_eq_some_iff.mp h
        exact .inl ⟨r', hr'⟩
      | toggle => exact .inr (referenceInput?_eq_toggle_iff.mp hin)

theorem images_of_perform {i : Image} (h : (d.perform op).images.get? k = some i) :
    op.drops k (d.answer op) = false ∧ ((∃ i', d.images.get? k = some i') ∨
      (∃ view, op = .clickImage k view) ∧
        ∃ thumbnail url, d.slot? k = some (.image thumbnail url)) := by
  rw [images_perform] at h
  split at h
  · cases h
  · next hop =>
    refine ⟨(Bool.not_eq_true _).mp hop, ?_⟩
    cases hin : op.imageInput? k (d.answer op) with
    | none =>
      rw [hin] at h
      exact .inl ⟨i, h⟩
    | some input =>
      rw [hin] at h
      cases input with
      | progress loaded total =>
        obtain ⟨i', hi', -⟩ := Option.map_eq_some_iff.mp h
        exact .inl ⟨i', hi'⟩
      | settle result =>
        obtain ⟨i', hi', -⟩ := Option.map_eq_some_iff.mp h
        exact .inl ⟨i', hi'⟩
      | toggle view =>
        obtain ⟨hclick, hslot⟩ := imageInput?_eq_toggle_iff.mp hin
        exact .inr ⟨⟨view, hclick⟩, hslot⟩

end Document

end ForumClient
