import Mathlib.Data.List.Basic

namespace ForumClient

inductive Runs (step : σ → μ → σ → Prop) : σ → List μ → σ → Prop
  | refl : Runs step s [] s
  | tail : Runs step s log t → step t m u → Runs step s (log ++ [m]) u

namespace Runs

variable {step : σ → μ → σ → Prop} {s t u : σ} {m : μ} {log log' : List μ}

theorem single (h : step s m t) : Runs step s [m] t := .tail .refl h

theorem trans (h : Runs step s log t) (h' : Runs step t log' u) : Runs step s (log ++ log') u := by
  induction h' with
  | refl => rwa [List.append_nil]
  | tail _ last ih =>
    rw [← List.append_assoc]
    exact ih.tail last

theorem exists_of_append (h : Runs step s (log ++ m :: log') u) :
    ∃ t t', Runs step s log t ∧ step t m t' := by
  generalize hl : log ++ m :: log' = all at h
  induction h generalizing log' with
  | refl => simp at hl
  | @tail before t' m' u' run last ih =>
    rcases List.eq_nil_or_concat log' with rfl | ⟨log'', m'', rfl⟩
    · obtain ⟨rfl, hm⟩ := List.append_inj' hl rfl
      cases hm
      exact ⟨t', u', run, last⟩
    · have hl' : (log ++ m :: log'') ++ [m''] = before ++ [m'] := by
        rw [← hl, List.append_assoc, List.cons_append, List.concat_eq_append]
      exact ih (List.append_inj' hl' rfl).1

end Runs

end ForumClient
