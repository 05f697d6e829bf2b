import ForumClient.Proofs.Machines
import ForumClient.Proofs.Views
import ForumClient.Proofs.Written

namespace ForumClient

open Markup

namespace Slot

variable {id k : Text}

theorem path?_eq_none_of_isUnder (h : path? id = none) (hk : isUnder id k) : path? k = none := by
  obtain ⟨rest, rfl⟩ := isUnder_iff.mp hk
  rw [path?, Text.splitBy_append (by simp)]
  rw [← Option.not_isSome_iff_eq_none, Option.isSome_iff_exists] at h ⊢
  rintro ⟨p, hp⟩
  rw [mapM_eq_some_iff, List.map_append] at hp
  obtain ⟨q, r, -, hq, -⟩ := List.append_eq_map_iff.mp hp
  exact h ⟨q, mapM_eq_some_iff.mpr hq.symm⟩

end Slot

namespace Document

variable {d : Document} {html : Text} {ops inside late : List Op} {op : Op} {id k label : Text}
  {post : PostId} {fragment : Text}

namespace Op

def isClick : Op → Bool
  | .clickReference _ | .clickImage _ _ => true
  | .settleReference _ _ | .imageProgress _ _ _ | .settleImage _ _ => false

end Op

theorem run_append (d : Document) (ops ops' : List Op) :
    d.run (ops ++ ops') = (d.run ops).run ops' := by
  simp [run]

theorem html_run (d : Document) (ops : List Op) : (d.run ops).html = d.html := by
  induction ops generalizing d with
  | nil => rfl
  | cons op ops ih => exact (ih (d.perform op)).trans (html_perform d op)

theorem run_elsewhere (d : Document) (ops : List Op)
    (h : ∀ op ∈ ops, op.slot ≠ k ∧ Slot.isUnder op.slot k = false) :
    (d.run ops).reference k = d.reference k ∧ (d.run ops).image k = d.image k := by
  induction ops generalizing d with
  | nil => exact ⟨rfl, rfl⟩
  | cons op ops ih =>
    rw [List.forall_mem_cons] at h
    obtain ⟨hr, hi⟩ := perform_elsewhere d h.1.1 h.1.2
    obtain ⟨hrs, his⟩ := ih (d.perform op) h.2
    exact ⟨hrs.trans hr, his.trans hi⟩

theorem elsewhere_of_isUnder (hk : Slot.isUnder id k = false) (hop : Slot.isUnder id op.slot) :
    op.slot ≠ k ∧ Slot.isUnder op.slot k = false := by
  constructor
  · intro e
    rw [e, hk] at hop
    cases hop
  · rw [← Bool.not_eq_true]
    intro hunder
    rw [Slot.isUnder_trans hop hunder] at hk
    cases hk

def Bare (d : Document) (id : Text) : Prop :=
  ∀ k, Slot.isUnder id k → d.references.get? k = none ∧ d.images.get? k = none

theorem Bare.reference (h : d.Bare id) (hk : Slot.isUnder id k) : d.reference k = .collapsed := by
  rw [Document.reference, (h k hk).1]
  rfl

theorem Bare.image (h : d.Bare id) (hk : Slot.isUnder id k) : d.image k = {} := by
  rw [Document.image, (h k hk).2]
  rfl

theorem Bare.perform (h : d.Bare id)
    (hop : ∀ k, Slot.isUnder id k → op.slot = k → op.isClick → d.slot? k = none) :
    (d.perform op).Bare id := by
  intro k hk
  obtain ⟨hr, hi⟩ := h k hk
  constructor
  · by_contra hne
    obtain ⟨r, hr'⟩ := Option.ne_none_iff_exists'.mp hne
    rcases (references_of_perform hr').2 with ⟨r', hr''⟩ | ⟨rfl, post, label, hs⟩
    · exact absurd (hr.symm.trans hr'') nofun
    · exact absurd ((hop k hk rfl rfl).symm.trans hs) nofun
  · by_contra hne
    obtain ⟨i, hi'⟩ := Option.ne_none_iff_exists'.mp hne
    rcases (images_of_perform hi').2 with ⟨i', hi''⟩ | ⟨⟨view, rfl⟩, thumbnail, url, hs⟩
    · exact absurd (hi.symm.trans hi'') nofun
    · exact absurd ((hop k hk rfl rfl).symm.trans hs) nofun

theorem Bare.run_reports (h : d.Bare id) (hops : ∀ op ∈ ops, op.isClick = false) :
    (d.run ops).Bare id := by
  induction ops generalizing d with
  | nil => exact h
  | cons op ops ih =>
    rw [List.forall_mem_cons] at hops
    refine ih (h.perform fun k hk e hclick => ?_) hops.2
    rw [hops.1] at hclick
    cases hclick

theorem Bare.run_nowhere (h : d.Bare id) (hid : Slot.path? id = none) (ops : List Op) :
    (d.run ops).Bare id := by
  induction ops generalizing d with
  | nil => exact h
  | cons op ops ih =>
    refine ih (h.perform fun k hk _ _ => ?_)
    rw [slot?, Slot.path?_eq_none_of_isUnder hid hk]
    rfl

theorem collapsed_run_nowhere (hid : Slot.path? id = none) (h : d.reference id = .collapsed)
    (ops : List Op) : (d.run ops).reference id = .collapsed := by
  induction ops generalizing d with
  | nil => exact h
  | cons op ops ih =>
    refine ih ?_
    rw [reference_perform, h]
    split
    · rfl
    · cases hin : op.referenceInput? id (d.answer op) with
      | none => rfl
      | some input =>
        cases input with
        | settle reply => rfl
        | toggle =>
          obtain ⟨-, post, label, hs⟩ := referenceInput?_eq_toggle_iff.mp hin
          rw [slot?, hid] at hs
          cases hs

theorem Attached.bare (hd : d.Attached) (hn : d.Named) {p : Slot.Path} (hp : p ≠ [])
    (hc : d.shown? p = none) : d.Bare (Slot.name p) := by
  have outside {q : Slot.Path} {seg : Segment} (hk : Slot.isUnder (Slot.name p) (Slot.name q)) :
      d.element? q ≠ some seg := by
    obtain ⟨r, hr, rfl⟩ := (Slot.isUnder_name_iff hp).mp hk
    intro hq
    obtain ⟨-, -, fragment, -, hf, -⟩ := (at?_append_eq_some_iff hp hr).mp hq
    exact absurd (hc.symm.trans hf) nofun
  intro k hk
  constructor
  · by_contra hne
    obtain ⟨r, hr⟩ := Option.ne_none_iff_exists'.mp hne
    obtain ⟨q, rfl⟩ := hn.reference k r hr
    obtain ⟨post, label, hq⟩ := hd.reference q r hr
    exact outside hk hq
  · by_contra hne
    obtain ⟨i, hi⟩ := Option.ne_none_iff_exists'.mp hne
    obtain ⟨q, rfl⟩ := hn.image k i hi
    obtain ⟨thumbnail, url, hq⟩ := hd.image q i hi
    exact outside hk hq

theorem element?_run {p : Slot.Path} {seg : Segment} (h : d.element? p = some seg)
    (hops : ∀ op ∈ ops, Slot.isUnder op.slot (Slot.name p) = false) :
    (d.run ops).element? p = some seg := by
  induction ops generalizing d with
  | nil => exact h
  | cons op ops ih =>
    rw [List.forall_mem_cons] at hops
    exact ih (element?_perform h (drops_of_not_isUnder hops.1)) hops.2

theorem Attached.slot?_run (hd : d.Attached) {p : Slot.Path} {seg : Segment}
    (h : d.element? p = some seg)
    (hops : ∀ op ∈ ops, Slot.isUnder op.slot (Slot.name p) = false) :
    (d.run ops).slot? (Slot.name p) = d.slot? (Slot.name p) := by
  induction ops generalizing d with
  | nil => rfl
  | cons op ops ih =>
    rw [List.forall_mem_cons] at hops
    have hop : op.drops (Slot.name p) (d.answer op) = false := drops_of_not_isUnder hops.1
    exact (ih (hd.perform op) (element?_perform h hop) hops.2).trans (hd.slot?_perform h hop)

theorem Attached.run (hd : d.Attached) (ops : List Op) : (d.run ops).Attached := by
  induction ops generalizing d with
  | nil => exact hd
  | cons op ops ih => exact ih (hd.perform op)

theorem reference_clickReference (h : d.slot? id = some (.reference post label)) :
    (d.perform (.clickReference id)).reference id = (d.reference id).toggle.2 := by
  have hdrop : Op.drops id (.clickReference id) (d.answer (.clickReference id)) = false :=
    drops_of_not_isUnder (Slot.isUnder_self id)
  rw [reference_perform, hdrop, referenceInput?_eq_toggle_iff.mpr ⟨rfl, post, label, h⟩]
  rfl

theorem bare_of_collapse (h : d.slot? id = some (.reference post label))
    (he : d.reference id = .expanded fragment) : (d.perform (.clickReference id)).Bare id := by
  intro k hk
  have hdrop : Op.drops k (.clickReference id) (d.answer (.clickReference id)) := by
    rw [answer, clickReference_eq h, he]
    exact hk
  rw [references_perform, images_perform, if_pos hdrop, if_pos hdrop]
  exact ⟨rfl, rfl⟩

/-- A click on a reference, its reply, and what is then done inside. -/
def stay (id fragment : Text) (inside : List Op) : List Op :=
  .clickReference id :: .settleReference id (.ok fragment) :: inside

/-- A stay that ends with a second click, and what comes in for the inside after that. -/
def visit (id fragment : Text) (inside late : List Op) : List Op :=
  stay id fragment inside ++ .clickReference id :: late

theorem slot_of_mem_stay (hin : ∀ op ∈ inside, Slot.isUnder id op.slot)
    (hop : op ∈ stay id fragment inside) : op.slot = id ∨ Slot.isUnder id op.slot := by
  rcases List.mem_cons.mp hop with rfl | hop
  · exact .inl rfl
  · rcases List.mem_cons.mp hop with rfl | hop
    · exact .inl rfl
    · exact .inr (hin op hop)

theorem slot_of_mem_visit (hin : ∀ op ∈ inside, Slot.isUnder id op.slot)
    (hlate : ∀ op ∈ late, Slot.isUnder id op.slot ∧ op.isClick = false)
    (hop : op ∈ visit id fragment inside late) : op.slot = id ∨ Slot.isUnder id op.slot := by
  rcases List.mem_append.mp hop with hop | hop
  · exact slot_of_mem_stay hin hop
  · rcases List.mem_cons.mp hop with rfl | hop
    · exact .inl rfl
    · exact .inr (hlate op hop).1

theorem not_isUnder_of_within (h : op.slot = id ∨ Slot.isUnder id op.slot) :
    Slot.isUnder op.slot id = false := by
  rcases h with rfl | h
  · exact Slot.isUnder_self op.slot
  · exact (elsewhere_of_isUnder (Slot.isUnder_self id) h).2

variable {p : Slot.Path}

theorem Attached.run_stay (hd : d.Attached) (fragment : Text)
    (hp : d.element? p = some (.reference post label))
    (hs : d.slot? (Slot.name p) = some (.reference post label))
    (hc : d.reference (Slot.name p) = .collapsed)
    (hin : ∀ op ∈ inside, Slot.isUnder (Slot.name p) op.slot) :
    (d.run (stay (Slot.name p) fragment inside)).slot? (Slot.name p) =
        some (.reference post label) ∧
      (d.run (stay (Slot.name p) fragment inside)).reference (Slot.name p) =
        .expanded fragment := by
  constructor
  · rw [hd.slot?_run hp fun op hop => not_isUnder_of_within (slot_of_mem_stay hin hop)]
    exact hs
  · have hclick :
        (d.perform (.clickReference (Slot.name p))).reference (Slot.name p) = .loading := by
      rw [reference_clickReference hs, hc]
      rfl
    have hsettle : ((d.perform (.clickReference (Slot.name p))).perform
        (.settleReference (Slot.name p) (.ok fragment))).reference (Slot.name p) =
          .expanded fragment := by
      rw [reference_perform, hclick]
      simp [Op.drops, Op.referenceInput?, Reference.next, Reference.settle]
    refine (run_elsewhere _ inside fun op hop => ?_).1.trans hsettle
    exact elsewhere_of_isUnder (Slot.isUnder_self _) (hin op hop)

theorem shown?_of_collapsed (h : d.reference (Slot.name p) = .collapsed) : d.shown? p = none := by
  rw [shown?, h]
  rfl

theorem Attached.run_visit (hd : d.Attached) (hn : d.Named) (fragment : Text)
    (hp : d.element? p = some (.reference post label))
    (hc : d.reference (Slot.name p) = .collapsed)
    (hin : ∀ op ∈ inside, Slot.isUnder (Slot.name p) op.slot)
    (hlate : ∀ op ∈ late, Slot.isUnder (Slot.name p) op.slot ∧ op.isClick = false) :
    (d.run (visit (Slot.name p) fragment inside late)).Bare (Slot.name p) ∧
      (d.run (visit (Slot.name p) fragment inside late)).reference (Slot.name p) = .collapsed := by
  have hne := ne_nil_of_at? hp
  by_cases hsteps : ∀ i ∈ p, i < Slot.stepLimit
  · have hs := (hd.slot?_eq_some_iff hp).mpr ⟨⟨hne, hsteps⟩, rfl⟩
    obtain ⟨hslot, hshown⟩ := hd.run_stay fragment hp hs hc hin
    have hclosed := reference_clickReference hslot
    rw [hshown] at hclosed
    rw [visit, run_append]
    constructor
    · exact (bare_of_collapse hslot hshown).run_reports fun op hop => (hlate op hop).2
    · refine (run_elsewhere _ late fun op hop => ?_).1.trans hclosed
      exact elsewhere_of_isUnder (Slot.isUnder_self _) (hlate op hop).1
  · -- a step too large to be read: no click on the name is heard
    have hnone : Slot.path? (Slot.name p) = none := by
      rw [← Option.not_isSome_iff_eq_none, Option.isSome_iff_exists]
      rintro ⟨q, hq⟩
      exact hsteps (Slot.path?_name_eq_some_iff.mp hq).2.2
    have hbare := hd.bare hn hne (shown?_of_collapsed hc)
    exact ⟨hbare.run_nowhere hnone _, collapsed_run_nowhere hnone hc _⟩

theorem Attached.image_eq_of_reference (hd : d.Attached)
    (hp : d.element? p = some (.reference post label)) : d.image (Slot.name p) = {} := by
  by_contra hne
  obtain ⟨thumbnail, url, hi⟩ := hd.image p _ (get?_of_image_ne hne)
  cases hp.symm.trans hi

theorem Attached.alike_visit (hd : d.Attached) (hn : d.Named) (fragment : Text)
    (hp : d.element? p = some (.reference post label))
    (hc : d.reference (Slot.name p) = .collapsed)
    (hin : ∀ op ∈ inside, Slot.isUnder (Slot.name p) op.slot)
    (hlate : ∀ op ∈ late, Slot.isUnder (Slot.name p) op.slot ∧ op.isClick = false) :
    (d.run (visit (Slot.name p) fragment inside late)).Alike d := by
  have hbare := hd.bare hn (ne_nil_of_at? hp) (shown?_of_collapsed hc)
  obtain ⟨hbare', hc'⟩ := hd.run_visit hn fragment hp hc hin hlate
  have within : ∀ op ∈ visit (Slot.name p) fragment inside late,
      op.slot = Slot.name p ∨ Slot.isUnder (Slot.name p) op.slot :=
    fun _ => slot_of_mem_visit hin hlate
  have hp' := element?_run hp fun op hop => not_isUnder_of_within (within op hop)
  -- neither the clicks nor what is done inside reaches any other name
  have elsewhere {k : Text} (hk : k ≠ Slot.name p)
      (hunder : Slot.isUnder (Slot.name p) k = false) :=
    run_elsewhere (k := k) d (visit (Slot.name p) fragment inside late) fun op hop => by
      rcases within op hop with e | h
      · rw [e]
        exact ⟨hk.symm, hunder⟩
      · exact elsewhere_of_isUnder hunder h
  refine ⟨html_run d _, fun k => ?_, fun k => ?_⟩
  · by_cases hk : k = Slot.name p
    · rw [hk, hc', hc]
    · cases hunder : Slot.isUnder (Slot.name p) k with
      | true => rw [hbare'.reference hunder, hbare.reference hunder]
      | false => exact (elsewhere hk hunder).1
  · by_cases hk : k = Slot.name p
    · rw [hk, (hd.run _).image_eq_of_reference hp', hd.image_eq_of_reference hp]
    · cases hunder : Slot.isUnder (Slot.name p) k with
      | true => rw [hbare'.image hunder, hbare.image hunder]
      | false => exact (elsewhere hk hunder).2

/-- A reference that is opened and closed again leaves the document as it was: it is written the
same and every name stands for the same in the same state, whatever was done inside meanwhile and
whatever still comes in for it. The two clicks do fetch and close. -/
theorem visit_leaves_no_trace (h : (ofHtml html).Offers ops) (hd : (ofHtml html).run ops = d)
    (hid : (id, .reference post label) ∈ d.written) (hc : d.reference id = .collapsed)
    (hin : ∀ op ∈ inside, Slot.isUnder id op.slot)
    (hlate : ∀ op ∈ late, Slot.isUnder id op.slot ∧ op.isClick = false) :
    (d.run (visit id fragment inside late)).render = d.render ∧
      (∀ k, (d.run (visit id fragment inside late)).slot? k = d.slot? k ∧
        (d.run (visit id fragment inside late)).reference k = d.reference k ∧
        (d.run (visit id fragment inside late)).image k = d.image k) ∧
      (d.Fits → d.answer (.clickReference id) = some (.reference .fetch post) ∧
        (d.run (stay id fragment inside)).answer (.clickReference id) =
          some (.reference .collapse post)) := by
  subst hd
  have hd := attached_run html ops
  have hn := (named_ofHtml html).run h
  obtain ⟨p, rfl, hp⟩ := mem_written_iff.mp hid
  have alike := hd.alike_visit hn fragment hp hc hin hlate
  refine ⟨alike.render, fun k => ⟨alike.slot? k, alike.reference k, alike.image k⟩, fun hfits => ?_⟩
  have hs := slot?_of_mem_written hfits hid
  obtain ⟨hslot, hshown⟩ := hd.run_stay fragment hp hs hc hin
  constructor
  · rw [answer, clickReference_eq hs, hc]
    rfl
  · rw [answer, clickReference_eq hslot, hshown]
    rfl

theorem visit_nestedClicks :
    let d := (ofHtml (quoteOf "1")).run nestedClicks
    let fragment := "<img src='t' onclick=\"_enlarge(this, 'u')\">".toList ++ quoteOf "4"
    let inside : List Op := [
      .clickImage ['0', '.', '0', '.', '0'] .expand,
      .clickReference ['0', '.', '0', '.', '1'],
      .settleReference ['0', '.', '0', '.', '1'] (.error (.transport "gone"))]
    let late : List Op := [.settleImage ['0', '.', '0', '.', '0'] (.ok ['b'])]
    d.reference ['0', '.', '0'] = .collapsed ∧
      d.reference ['0', '.', '1'] = .expanded ['h', 'i'] ∧
      (d.run (visit ['0', '.', '0'] fragment inside late)).render = d.render :=
  have written : (['0', '.', '0'], .reference ⟨2⟩ ['2']) ∈
      ((ofHtml (quoteOf "1")).run nestedClicks).written := by decide +kernel
  ⟨by decide +kernel, by decide +kernel,
    (visit_leaves_no_trace (by decide +kernel) rfl written (by decide +kernel) (by decide +kernel)
      (by decide +kernel)).1⟩

end Document

end ForumClient
