import ForumClient.Proofs.Machines
import ForumClient.Proofs.Respelling
import ForumClient.Proofs.Written

namespace ForumClient

namespace Numeral

theorem plain_iff_all {s : Text} :
    Plain s ↔ s ≠ [] ∧ s.all Char.isDigit ∧ (s.head? = some '0' → s = ['0']) := by
  rw [Plain, List.all_eq_true]

instance : DecidablePred Plain := fun _ => decidable_of_iff _ plain_iff_all.symm

theorem Plain.dot_not_mem {s : Text} (h : Plain s) : '.' ∉ s := fun hdot =>
  absurd (h.2.1 '.' hdot) (by decide)

end Numeral

namespace Slot

variable {p q : Path} {id k : Text}

theorem properPrefix_iff : p <+: q ∧ p ≠ q ↔ ∃ r, r ≠ [] ∧ q = p ++ r := by
  constructor
  · rintro ⟨⟨r, rfl⟩, hne⟩
    refine ⟨r, ?_, rfl⟩
    rintro rfl
    exact hne (List.append_nil p).symm
  · rintro ⟨r, hr, rfl⟩
    exact ⟨List.prefix_append p r, fun h => hr (List.self_eq_append_right.mp h)⟩

theorem isUnder_name_iff_properPrefix (hp : p ≠ []) :
    isUnder (name p) (name q) ↔ p <+: q ∧ p ≠ q :=
  (isUnder_name_iff hp).trans properPrefix_iff.symm

theorem path?_name (hp : p ≠ []) (hsteps : ∀ i ∈ p, i < stepLimit) : path? (name p) = some p :=
  path?_name_eq_some_iff.mpr ⟨hp, rfl, hsteps⟩

theorem canonical_iff_splitBy :
    Canonical id ↔ ∀ s ∈ Text.splitBy (· = '.') id, Numeral.Plain s := by
  constructor
  · rintro ⟨steps, hne, hplain, rfl⟩
    rwa [Text.splitBy_joinWith hne fun s hs => (hplain s hs).dot_not_mem]
  · intro h
    exact ⟨_, Text.splitBy_ne_nil _ id, h, (Text.joinWith_splitBy '.' id).symm⟩

instance : DecidablePred Canonical := fun _ => decidable_of_iff _ canonical_iff_splitBy.symm

theorem canonical_of_isUnder (hk : Canonical k) (h : isUnder id k) : Canonical id := by
  obtain ⟨rest, rfl⟩ := isUnder_iff.mp h
  rw [canonical_iff_splitBy, Text.splitBy_append (by simp)] at hk
  exact canonical_iff_splitBy.mpr fun s hs => hk s (List.mem_append_left _ hs)

end Slot

theorem Reference.toggle_of_collapse {r : Reference} (h : r.toggle.1 = .collapse) :
    r.toggle.2 = .collapsed := by
  cases r with
  | expanded => rfl
  | collapsed | loading | errored => cases h

namespace Document

variable {d : Document} {p q : Slot.Path} {id : Text} {post : PostId}

theorem slot?_name (d : Document) (hp : p ≠ []) (hsteps : ∀ i ∈ p, i < Slot.stepLimit) :
    d.slot? (Slot.name p) = d.follow? [] d.html p := by
  rw [slot?, Slot.path?_name hp hsteps, Option.bind_some]

theorem ne_nil_of_click {answer : Reference.Action × PostId}
    (h : (d.clickReference (Slot.name p)).1 = some answer) : p ≠ [] := by
  rcases clickReference_cases d (Slot.name p) with ⟨post, label, hs⟩ | ⟨-, hnone⟩
  · exact (slot?_name_eq_some_iff.mp hs).1.1
  · rw [hnone] at h
    cases h

theorem images_of_collapse (h : (d.clickReference id).1 = some (.collapse, post)) (k : Text) :
    (d.clickReference id).2.images.get? k =
      if Slot.isUnder id k then none else d.images.get? k := by
  have hperform := images_perform d (.clickReference id) k
  rw [answer, h] at hperform
  exact hperform

theorem references_of_collapse (h : (d.clickReference id).1 = some (.collapse, post)) (k : Text) :
    (d.clickReference id).2.references.get? k =
      if Slot.isUnder id k then none
      else if k = id then some .collapsed else d.references.get? k := by
  have hperform := references_perform d (.clickReference id) k
  have htoggle := Reference.toggle_of_collapse (action_clickReference h).symm
  rw [answer, h] at hperform
  refine hperform.trans (if_congr Iff.rfl rfl ?_)
  by_cases hk : k = id
  · subst hk
    simp [Op.referenceInput?, htoggle]
  · simp [Op.referenceInput?, hk]

/-- The plain names are those of paths, and no two paths share one. A name whose steps fit a word is
read back as its path and looked up along it, and it begins with another and a dot just where its
path goes on from the other's. A click that closes a reference therefore takes away the state of
the slots strictly inside and of no other. If its name was spelled otherwise, as with a leading
zero, the click takes away nothing that is kept under a plain name. -/
theorem names_encode_paths :
    Function.Injective Slot.name ∧
    (∀ id, Slot.Canonical id ↔ ∃ p, p ≠ [] ∧ id = Slot.name p) ∧
    (∀ p : Slot.Path, p ≠ [] → (∀ i ∈ p, i < Slot.stepLimit) →
      Slot.path? (Slot.name p) = some p ∧
        ∀ d : Document, d.slot? (Slot.name p) = d.follow? [] d.html p) ∧
    (∀ p q : Slot.Path, p ≠ [] →
      (Slot.isUnder (Slot.name p) (Slot.name q) ↔ p <+: q ∧ p ≠ q)) ∧
    (∀ (d : Document) (p : Slot.Path) post,
      (d.clickReference (Slot.name p)).1 = some (.collapse, post) → ∀ q : Slot.Path,
        (d.clickReference (Slot.name p)).2.images.get? (Slot.name q) =
          (if p <+: q ∧ p ≠ q then none else d.images.get? (Slot.name q)) ∧
        (d.clickReference (Slot.name p)).2.references.get? (Slot.name q) =
          if p <+: q ∧ p ≠ q then none
          else if q = p then some .collapsed else d.references.get? (Slot.name q)) ∧
    ∀ (d : Document) id post, (d.clickReference id).1 = some (.collapse, post) →
      ¬ Slot.Canonical id → ∀ k, Slot.Canonical k →
        (d.clickReference id).2.images.get? k = d.images.get? k ∧
        (d.clickReference id).2.references.get? k = d.references.get? k := by
  refine ⟨Slot.name_injective, fun id => Slot.canonical_iff,
    fun p hp hsteps => ⟨Slot.path?_name hp hsteps, fun d => d.slot?_name hp hsteps⟩,
    fun p q => Slot.isUnder_name_iff_properPrefix, fun d p post h q => ?_,
    fun d id post h hid k hk => ?_⟩
  · have hunder := Slot.isUnder_name_iff_properPrefix (q := q) (ne_nil_of_click h)
    rw [images_of_collapse h, references_of_collapse h]
    exact ⟨if_congr hunder rfl rfl,
      if_congr hunder rfl (if_congr Slot.name_injective.eq_iff rfl rfl)⟩
  · have hunder : ¬ Slot.isUnder id k := fun hu => hid (Slot.canonical_of_isUnder hk hu)
    have hne : k ≠ id := fun e => hid (e ▸ hk)
    rw [images_of_collapse h, references_of_collapse h, if_neg hunder, if_neg hunder, if_neg hne]
    exact ⟨rfl, rfl⟩

def elevenQuotes : Document :=
  (ofHtml (List.replicate 11 (quoteOf "1")).flatten).run [
    .clickReference (Slot.name [1]), .settleReference (Slot.name [1]) (.ok (quoteOf "2")),
    .clickReference (Slot.name [1, 0]),
    .clickReference (Slot.name [10]), .settleReference (Slot.name [10]) (.ok (quoteOf "2")),
    .clickReference (Slot.name [10, 0]),
    .clickReference ['0', '1'], .settleReference ['0', '1'] (.ok (quoteOf "2"))]

theorem collapse_elevenQuotes :
    Slot.path? ['1', '0', '.', '0'] = some [10, 0] ∧
      Slot.isUnder ['1'] ['1', '.', '1', '0'] ∧
      elevenQuotes.references.get? (Slot.name [1, 0]) = some .loading ∧
      (elevenQuotes.clickReference (Slot.name [1])).1 = some (.collapse, ⟨1⟩) ∧
      (elevenQuotes.clickReference (Slot.name [1])).2.references.get? (Slot.name [1, 0]) = none ∧
      (elevenQuotes.clickReference (Slot.name [1])).2.references.get? (Slot.name [10, 0]) =
        some .loading ∧
      (elevenQuotes.clickReference ['0', '1']).1 = some (.collapse, ⟨1⟩) ∧
      (elevenQuotes.clickReference ['0', '1']).2.references.get? (Slot.name [1, 0]) =
        some .loading := by
  obtain ⟨-, -, hread, horder, hcollapse, hspelled⟩ := names_encode_paths
  have hclick : (elevenQuotes.clickReference (Slot.name [1])).1 = some (.collapse, ⟨1⟩) := by
    decide +kernel
  have hclick' : (elevenQuotes.clickReference ['0', '1']).1 = some (.collapse, ⟨1⟩) := by
    decide +kernel
  have hinside : elevenQuotes.references.get? (Slot.name [1, 0]) = some .loading := by
    decide +kernel
  have hbeside : elevenQuotes.references.get? (Slot.name [10, 0]) = some .loading := by
    decide +kernel
  refine ⟨(hread [10, 0] (by decide) (by decide)).1,
    (horder [1] [1, 10] (by decide)).mpr (by decide), hinside, hclick, ?_, ?_, hclick', ?_⟩
  · exact (hcollapse _ [1] _ hclick [1, 0]).2.trans (if_pos (by decide))
  · rw [(hcollapse _ [1] _ hclick [10, 0]).2, if_neg (by decide), if_neg (by decide), hbeside]
  · exact (hspelled _ _ _ hclick' (by decide) _ (by decide)).2.trans hinside

end Document

end ForumClient
