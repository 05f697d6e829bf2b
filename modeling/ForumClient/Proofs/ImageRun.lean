import ForumClient.Proofs.Run

namespace ForumClient

namespace Image

variable {i i' : Image} {x : Input} {action : Option Action}

def answer? (i : Image) : Input → Option Action
  | .toggle view => some (i.toggle view).1
  | _ => none

def after (i : Image) (inputs : List Input) : Image := inputs.foldl next i

/-- What an input does, with the answer to it. -/
inductive Turn (i : Image) : Input → Option Action → Image → Prop
  | opened : Turn i (.toggle .newTab) (some .openInNewTab) i
  | refused (loading : i.download = .loading) : Turn i (.toggle .expand) (some .ignore) i
  | shrunk (notLoading : i.download ≠ .loading) (large : i.enlarged = true) :
      Turn i (.toggle .expand) (some .shrink) { i with enlarged := false }
  | shown (loaded : i.download = .loaded url) (small : i.enlarged = false) :
      Turn i (.toggle .expand) (some .enlarge) { i with enlarged := true }
  | asked (missing : i.download = .unloaded ∨ i.download = .failed) (small : i.enlarged = false) :
      Turn i (.toggle .expand) (some .fetch)
        { enlarged := true, download := .loading, label := startLabel }
  | advanced (loading : i.download = .loading) (known : progressLabel loaded total = some text) :
      Turn i (.progress loaded total) none { i with label := text }
  | unmeasured (unknown : progressLabel loaded total = none) :
      Turn i (.progress loaded total) none i
  | delivered (loading : i.download = .loading) :
      Turn i (.settle (.ok url)) none { i with download := .loaded url, label := [] }
  | broken (loading : i.download = .loading) :
      Turn i (.settle (.error e)) none { i with download := .failed, label := failedLabel }
  | strayProgress (notLoading : i.download ≠ .loading) : Turn i (.progress loaded total) none i
  | strayResult (notLoading : i.download ≠ .loading) : Turn i (.settle result) none i

theorem turn_toggle (i : Image) (view : ImageView) :
    Turn i (.toggle view) (some (i.toggle view).1) (i.toggle view).2 := by
  obtain ⟨enlarged, download, label⟩ := i
  cases view with
  | newTab => exact .opened
  | expand =>
    cases download with
    | loading => exact .refused rfl
    | unloaded =>
      cases enlarged with
      | true => exact .shrunk nofun rfl
      | false => exact .asked (.inl rfl) rfl
    | loaded url =>
      cases enlarged with
      | true => exact .shrunk nofun rfl
      | false => exact .shown rfl rfl
    | failed =>
      cases enlarged with
      | true => exact .shrunk nofun rfl
      | false => exact .asked (.inr rfl) rfl

theorem turn_progress (i : Image) (loaded total : Float) :
    Turn i (.progress loaded total) none (i.progress loaded total) := by
  unfold progress
  split
  · next loading =>
    cases known : progressLabel loaded total with
    | none => exact .unmeasured known
    | some text => exact .advanced loading known
  · next notLoading => exact .strayProgress notLoading

theorem turn_settle (i : Image) (result : Except Failure Text) :
    Turn i (.settle result) none (i.settle result) := by
  obtain ⟨enlarged, download, label⟩ := i
  cases download with
  | loading =>
    cases result with
    | ok url => exact .delivered rfl
    | error e => exact .broken rfl
  | unloaded | loaded | failed => cases result <;> exact .strayResult nofun

theorem turn (i : Image) (x : Input) : Turn i x (i.answer? x) (i.next x) := by
  cases x with
  | toggle view => exact turn_toggle i view
  | progress loaded total => exact turn_progress i loaded total
  | settle result => exact turn_settle i result

structure Consistent (i : Image) : Prop where
  unloaded : i.download = .unloaded → i.enlarged = false ∧ i.label = []
  loading : i.download = .loading → i.enlarged = true ∧
    (i.label = startLabel ∨ ∃ loaded total, progressLabel loaded total = some i.label)
  loaded : ∀ url, i.download = .loaded url → i.label = []
  failed : i.download = .failed → i.label = failedLabel

theorem consistent_default : Consistent {} := ⟨fun _ => ⟨rfl, rfl⟩, nofun, nofun, nofun⟩

theorem Consistent.turn (h : Turn i x action i') (hi : i.Consistent) : i'.Consistent := by
  cases h with
  | opened | refused | unmeasured | strayProgress | strayResult => exact hi
  | shrunk notLoading large =>
    refine ⟨fun hd => ?_, fun hd => absurd hd notLoading, hi.loaded, hi.failed⟩
    rw [(hi.unloaded hd).1] at large
    cases large
  | shown loaded small =>
    refine ⟨fun hd => ?_, fun hd => ?_, hi.loaded, hi.failed⟩
    · cases loaded.symm.trans hd
    · cases loaded.symm.trans hd
  | asked => exact ⟨nofun, fun _ => ⟨rfl, .inl rfl⟩, nofun, nofun⟩
  | advanced loading known =>
    refine ⟨fun hd => ?_, fun hd => ⟨(hi.loading hd).1, .inr ⟨_, _, known⟩⟩, fun url hd => ?_,
      fun hd => ?_⟩
    · cases loading.symm.trans hd
    · cases loading.symm.trans hd
    · cases loading.symm.trans hd
  | delivered => exact ⟨nofun, nofun, fun _ _ => rfl, nofun⟩
  | broken => exact ⟨nofun, nofun, nofun, fun _ => rfl⟩

theorem Consistent.after (hi : i.Consistent) (inputs : List Input) :
    (i.after inputs).Consistent := by
  induction inputs generalizing i with
  | nil => exact hi
  | cons x inputs ih => exact ih (hi.turn (i.turn x))

def held (i : Image) : Nat :=
  match i.download with
  | .loading | .loaded _ => 1
  | .unloaded | .failed => 0

theorem held_of_loading (h : i.download = .loading) : i.held = 1 := by rw [held, h]

theorem held_of_missing (h : i.download = .unloaded ∨ i.download = .failed) : i.held = 0 := by
  rcases h with h | h <;> rw [held, h]

def isSettle : Input → Bool
  | .settle _ => true
  | _ => false

def fetches (i : Image) (x : Input) : Bool := i.answer? x = some .fetch

def fails (i : Image) (x : Input) : Bool :=
  isSettle x && i.download ≠ .failed && (i.next x).download = .failed

theorem Turn.conserved (h : Turn i x action i') :
    (decide (action = some .fetch)).toNat + i.held =
      (isSettle x && i.download ≠ .failed && i'.download = .failed).toNat + i'.held := by
  cases h with
  | opened | refused | shrunk | shown | advanced | unmeasured | strayProgress =>
    simp [isSettle, held]
  | asked missing => rw [held_of_missing missing]; rfl
  | delivered loading => rw [held_of_loading loading, loading]; rfl
  | broken loading => rw [held_of_loading loading, loading]; rfl
  | strayResult => simp [isSettle]

/-- How many inputs of a run have a property in the state that they meet. -/
def count (p : Image → Input → Bool) : Image → List Input → Nat
  | _, [] => 0
  | i, x :: inputs => (p i x).toNat + (i.next x).count p inputs

theorem count_fetches (i : Image) (inputs : List Input) :
    i.count fetches inputs + i.held = i.count fails inputs + (i.after inputs).held := by
  induction inputs generalizing i with
  | nil => rfl
  | cons x inputs ih =>
    have hstep : (i.fetches x).toNat + i.held = (i.fails x).toNat + (i.next x).held :=
      (i.turn x).conserved
    have hrest := ih (i.next x)
    simp only [count, after, List.foldl_cons] at hrest ⊢
    omega

theorem Turn.loading (h : Turn i x action i') (hi : i.download = .loading)
    (hx : isSettle x = false) : i'.download = .loading ∧ action ≠ some .fetch := by
  cases h with
  | opened | refused | advanced | unmeasured | strayProgress => exact ⟨hi, nofun⟩
  | shrunk notLoading => exact absurd hi notLoading
  | shown loaded => cases hi.symm.trans loaded
  | asked missing => rcases missing with hd | hd <;> cases hi.symm.trans hd
  | delivered | broken | strayResult => cases hx

theorem Turn.loaded (h : Turn i x action i') (hi : i.download = .loaded url) :
    i'.download = .loaded url ∧ action ≠ some .fetch := by
  cases h with
  | opened | shrunk | shown | unmeasured | strayProgress | strayResult => exact ⟨hi, nofun⟩
  | refused loading | advanced loading | delivered loading | broken loading =>
    cases hi.symm.trans loading
  | asked missing => rcases missing with hd | hd <;> cases hi.symm.trans hd

theorem count_fetches_eq_zero {P : Image → Prop} {q : Input → Prop}
    (hstep : ∀ i x, P i → q x → P (i.next x) ∧ i.answer? x ≠ some .fetch) {inputs : List Input}
    (hi : P i) (hq : ∀ x ∈ inputs, q x) : i.count fetches inputs = 0 ∧ P (i.after inputs) := by
  induction inputs generalizing i with
  | nil => exact ⟨rfl, hi⟩
  | cons x inputs ih =>
    rw [List.forall_mem_cons] at hq
    obtain ⟨hnext, hasks⟩ := hstep i x hi hq.1
    obtain ⟨hcount, hafter⟩ := ih hnext hq.2
    refine ⟨?_, hafter⟩
    rw [count, hcount, fetches, decide_eq_false hasks]
    rfl

theorem source_of_loaded (h : i.download = .loaded url) (thumbnail : Text) :
    i.source thumbnail = url := by
  rw [source, h]

theorem source_of_not_loaded (h : ∀ url, i.download ≠ .loaded url) (thumbnail : Text) :
    i.source thumbnail = thumbnail := by
  rw [source]
  split
  · next url hd => exact absurd hd (h url)
  · rfl

/-- Whatever is done to a thumbnail, its parts agree with one another, and every download that was
asked for has failed but for the one under way or kept. None is asked for until the one under way
has ended, and none ever again once one has come; until then the thumbnail itself is shown. -/
theorem one_download_at_a_time (inputs : List Input) :
    let i := after {} inputs
    i.Consistent ∧
      count fetches {} inputs = count fails {} inputs + i.held ∧
      (i.download = .loading → ∀ later, (∀ x ∈ later, isSettle x = false) →
        i.count fetches later = 0 ∧ (i.after later).download = .loading) ∧
      (∀ url, i.download = .loaded url → ∀ later,
        i.count fetches later = 0 ∧ ∀ thumbnail, (i.after later).source thumbnail = url) ∧
      ((∀ url, i.download ≠ .loaded url) → ∀ thumbnail, i.source thumbnail = thumbnail) := by
  intro i
  refine ⟨consistent_default.after inputs, count_fetches {} inputs, ?_, ?_, source_of_not_loaded⟩
  · intro hi later hlater
    exact count_fetches_eq_zero (P := fun i => i.download = .loading)
      (fun i x hi hx => (i.turn x).loading hi hx) hi hlater
  · intro url hi later
    obtain ⟨hcount, hafter⟩ := count_fetches_eq_zero (P := fun i => i.download = .loaded url)
      (fun i x hi _ => (i.turn x).loaded hi) hi fun x (_ : x ∈ later) => trivial
    exact ⟨hcount, source_of_loaded hafter⟩

def retried : List Input :=
  [.progress 1 2, .settle (.ok ['x']), .toggle .newTab, .toggle .expand, .toggle .expand,
    .progress 1 2, .settle (.error (.transport "reset")), .settle (.ok ['x']), .toggle .expand,
    .toggle .expand, .progress 1 0, .settle (.ok ['b'])]

theorem source_retried : (after {} retried).download = .loaded ['b'] ∧
    count fetches {} retried = 2 ∧
    ((after {} retried).after
      [.toggle .expand, .toggle .expand, .settle (.ok ['x'])]).source ['t'] = ['b'] := by
  have hloaded : (after {} retried).download = .loaded ['b'] := rfl
  obtain ⟨-, hcount, -, hkept, -⟩ := one_download_at_a_time retried
  exact ⟨hloaded, hcount.trans rfl, (hkept ['b'] hloaded _).2 ['t']⟩

end Image

end ForumClient
