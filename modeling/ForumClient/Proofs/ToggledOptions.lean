import ForumClient.Proofs.SlotName
import ForumClient.Proofs.StayOnPage

namespace ForumClient

namespace Text

variable {sep : Char → Bool} {c : Char} {s w : Text} {ws : List Text}

def IsWord (w : Text) : Prop := w ≠ [] ∧ ∀ c ∈ w, isBlank c = false

instance (w : Text) : Decidable (IsWord w) :=
  decidable_of_iff (w ≠ [] ∧ w.all (!isBlank ·)) (by simp [IsWord])

theorem not_sep_of_mem_splitBy (hw : w ∈ splitBy sep s) : ∀ c ∈ w, sep c = false := by
  induction s generalizing w with
  | nil =>
    obtain rfl := List.mem_singleton.mp hw
    simp
  | cons c s ih =>
    by_cases hc : sep c
    · rw [splitBy_cons_of_sep hc] at hw
      rcases List.mem_cons.mp hw with rfl | hw
      · simp
      · exact ih hw
    · rw [Bool.not_eq_true] at hc
      obtain ⟨v, vs, hv⟩ := List.exists_cons_of_ne_nil (splitBy_ne_nil sep s)
      rw [splitBy_cons_of_not_sep hc hv] at hw
      rw [hv] at ih
      rcases List.mem_cons.mp hw with rfl | hw
      · exact List.forall_mem_cons.mpr ⟨hc, ih List.mem_cons_self⟩
      · exact ih (List.mem_cons_of_mem _ hw)

theorem isWord_of_mem_words (hw : w ∈ words s) : IsWord w := by
  rw [words, List.mem_filter, decide_eq_true_eq] at hw
  exact ⟨hw.2, not_sep_of_mem_splitBy hw.1⟩

theorem words_append_blank (hc : isBlank c) (s t : Text) :
    words (s ++ c :: t) = words s ++ words t := by
  rw [words, splitBy_append hc, List.filter_append]
  rfl

theorem IsWord.words_eq (hw : IsWord w) : words w = [w] := by
  rw [words, splitBy_of_forall hw.2]
  simp [hw.1]

theorem words_joinWith (hws : ∀ w ∈ ws, IsWord w) : words (joinWith [' '] ws) = ws := by
  induction ws with
  | nil => rfl
  | cons w ws ih =>
    rw [List.forall_mem_cons] at hws
    by_cases hne : ws = []
    · subst hne
      exact hws.1.words_eq
    · rw [joinWith_cons _ _ hne, List.append_assoc, List.singleton_append,
        words_append_blank (by decide), hws.1.words_eq, ih hws.2]
      rfl

end Text

namespace Options

open Text (IsWord words)

variable {word : Text} {ws : List Text}

theorem forall_mem_toggleWord (hword : IsWord word) (hws : ∀ w ∈ ws, IsWord w) :
    ∀ w ∈ toggleWord word ws, IsWord w := by
  intro w hw
  rw [toggleWord] at hw
  split at hw
  · exact hws w (List.mem_of_mem_erase hw)
  · rcases List.mem_append.mp hw with hw | hw
    · exact hws w hw
    · rwa [List.mem_singleton.mp hw]

theorem filter_ne_toggleWord (word : Text) (ws : List Text) :
    (toggleWord word ws).filter (· ≠ word) = ws.filter (· ≠ word) := by
  rw [toggleWord]
  split
  · next h =>
    obtain ⟨before, after, -, hsplit, herase⟩ :=
      List.exists_erase_eq (List.contains_iff_mem.mp h)
    rw [herase, hsplit]
    simp
  · simp

theorem count_toggleWord (word : Text) (ws : List Text) :
    (toggleWord word ws).count word = if ws.count word = 0 then 1 else ws.count word - 1 := by
  rw [toggleWord]
  split
  · next h =>
    have hpos : ws.count word ≠ 0 := by simpa [List.count_eq_zero] using h
    rw [if_neg hpos, List.count_erase_self]
  · next h =>
    have hzero : ws.count word = 0 := by simpa [List.count_eq_zero] using h
    rw [if_pos hzero, List.count_append, hzero, List.count_singleton_self]

theorem toList_toggle (options word : String) : (toggle options word).toList =
    Text.joinWith [' '] (toggleWord word.toList (words options.toList)) :=
  String.toList_ofList

theorem words_toggle {word : String} (hword : IsWord word.toList) (options : String) :
    words (toggle options word).toList = toggleWord word.toList (words options.toList) := by
  rw [toList_toggle]
  exact Text.words_joinWith (forall_mem_toggleWord hword fun _ => Text.isWord_of_mem_words)

/-- A toggle changes how often its word stands in the options, by one, and no other word. -/
theorem toggle_changes_one_word (options word : String) (hword : IsWord word.toList) :
    let before := words options.toList
    let after := words (toggle options word).toList
    after.filter (· ≠ word.toList) = before.filter (· ≠ word.toList) ∧
      (before.count word.toList = 0 ∧ after.count word.toList = 1 ∨
        before.count word.toList = after.count word.toList + 1) ∧
      (toggle options word).toList = Text.joinWith [' '] after := by
  intro before after
  have hafter : after = toggleWord word.toList before := words_toggle hword options
  refine ⟨by rw [hafter, filter_ne_toggleWord], ?_, by rw [hafter, toList_toggle]⟩
  rw [hafter, count_toggleWord]
  split <;> omega

theorem toggle_spaced : IsWord "sage".toList ∧
    words (toggle "\u3000sage\tnonoko  sage\u00a0sagesage sage\n" "sage").toList =
      ["nonoko".toList, "sage".toList, "sagesage".toList, "sage".toList] ∧
    (words "\u3000sage\tnonoko  sage\u00a0sagesage sage\n".toList).filter (· ≠ "sage".toList) =
      ["nonoko".toList, "sagesage".toList] := by
  have hword : IsWord "sage".toList := by decide
  obtain ⟨hothers, -, -⟩ :=
    toggle_changes_one_word "\u3000sage\tnonoko  sage\u00a0sagesage sage\n" "sage" hword
  exact ⟨hword, by decide +kernel, hothers.symm.trans (by decide +kernel)⟩

theorem has_eq (options word : String) :
    has options word = decide (0 < (words options.toList).count word.toList) := by
  rw [Bool.eq_iff_iff, decide_eq_true_eq, List.count_pos_iff, has_iff]

theorem count_toggle {word : String} (hword : IsWord word.toList) (options : String) :
    (words (toggle options word).toList).count word.toList =
      if (words options.toList).count word.toList = 0 then 1
      else (words options.toList).count word.toList - 1 := by
  rw [words_toggle hword, count_toggleWord]

theorem has_toggle {word : String} (hword : IsWord word.toList) (options : String) :
    has (toggle options word) word = decide ((words options.toList).count word.toList ≠ 1) := by
  rw [has_eq, count_toggle hword, decide_eq_decide]
  split <;> omega

theorem count_iterate_toggle {word : String} (hword : IsWord word.toList) (options : String)
    {n : Nat} (hn : n ≤ (words options.toList).count word.toList) :
    (words ((toggle · word)^[n] options).toList).count word.toList =
      (words options.toList).count word.toList - n := by
  induction n with
  | zero => rfl
  | succ n ih =>
    rw [Function.iterate_succ_apply', count_toggle hword, ih (by omega)]
    split <;> omega

end Options

namespace Composer

open Options Text

theorem run_toggleOption (c : Composer) (word : String) (h : Host) :
    ((c.update (.toggleOption word)).run h).1 = { c with options := toggle c.options word } := rfl

theorem mem_boxes_of_offered {c : Composer} {marker word : String} (hopen : c.menuOpen = true)
    (hword : word = sage ∨ word = marker) (on : Bool) :
    (" " ++ word, on) ∈ (c.view marker).boxes ↔ on = has c.options word := by
  rcases hword with rfl | rfl
  · rw [boxes_view, boxes_menu, if_pos hopen, List.mem_cons, List.mem_singleton, Prod.mk.injEq,
      Prod.mk.injEq, String.append_right_inj, eq_self, true_and, or_iff_left_iff_imp]
    rintro ⟨hmarker, hon⟩
    rwa [(String.append_right_inj _).mp hmarker]
  · exact mem_boxes_iff hopen on

/-- Toggling a word turns its box over unless the word stands in the options more than once: it is
taken away once for each click, and the box is ticked until none is left. -/
theorem box_turns_iff (options word : String) (hword : IsWord word.toList) :
    let count := (words options.toList).count word.toList
    (has (toggle options word) word = !has options word ↔ count ≤ 1) ∧
      (∀ n ≤ count, has ((toggle · word)^[n] options) word = decide (n < count)) ∧
      ∀ (c : Composer) (marker : String) (h : Host), c.options = options → c.menuOpen = true →
        word = sage ∨ word = marker → ∀ on, (" " ++ word, on) ∈ (c.view marker).boxes →
          ((" " ++ word, !on) ∈ (((c.update (.toggleOption word)).run h).1.view marker).boxes ↔
            count ≤ 1) := by
  intro count
  have hturns : has (toggle options word) word = !has options word ↔ count ≤ 1 := by
    rw [has_toggle hword, has_eq, ← decide_not, decide_eq_decide]
    omega
  refine ⟨hturns, fun n hn => ?_, ?_⟩
  · rw [has_eq, count_iterate_toggle hword options hn, decide_eq_decide]
    omega
  · rintro c marker h rfl hopen hoffered on hon
    have hnext : ((c.update (.toggleOption word)).run h).1.menuOpen = true := hopen
    rw [mem_boxes_of_offered hopen hoffered] at hon
    rw [mem_boxes_of_offered hnext hoffered, run_toggleOption, hon, eq_comm]
    exact hturns

def opened (options : String) : Composer :=
  { topic := .new, sender := { token := ⟨"first"⟩ }, options, menuOpen := true }

theorem turns_nonoko : IsWord "nonoko".toList ∧
    (" nonoko", true) ∈ ((opened "nonokox\u3000nonoko").view "nonoko").boxes ∧
    (" nonoko", false) ∈ ((((opened "nonokox\u3000nonoko").update (.toggleOption "nonoko")).run
      { config := {}, browser := none }).1.view "nonoko").boxes := by
  have hword : IsWord "nonoko".toList := by decide
  have hbox : (" nonoko", true) ∈ ((opened "nonokox\u3000nonoko").view "nonoko").boxes :=
    (mem_boxes_iff rfl true).mpr (by decide +kernel)
  obtain ⟨-, -, hcomposer⟩ := box_turns_iff "nonokox\u3000nonoko" "nonoko" hword
  exact ⟨hword, hbox,
    (hcomposer _ "nonoko" _ rfl rfl (.inr rfl) true hbox).mpr (by decide +kernel)⟩

theorem not_turned_repeated : IsWord "sage".toList ∧
    has (toggle "sage sage" "sage") "sage" ≠ !has "sage sage" "sage" := by
  decide +kernel

end Composer

end ForumClient
