import Mathlib.Algebra.BigOperators.Ring.Finset
import PredictionLeague.Proofs.Ranking
import PredictionLeague.Standings

/-!
# Winners and totals

* `mem_topScorers`: the winners are those whose score is not zero and not exceeded;
* `roundPoints_congr`: what the points of the players in some rounds depend on.
-/

namespace PredictionLeague.Standings

theorem users_totals (standings : Standings) (figure : RoundScore → Int) :
    (standings.totals figure).map (·.1) = standings.players := by
  rw [totals, List.map_map]
  exact List.map_id _

theorem nodup_topScorers {scores : Scores} (h : (scores.map (·.1)).Nodup) :
    (topScorers scores).Nodup := by
  unfold topScorers
  split
  · exact List.nodup_nil
  · split
    · exact List.nodup_nil
    · exact h.sublist (List.filter_sublist.map _)

/-- The winners are the players whose score is not zero and not exceeded by another. -/
theorem mem_topScorers {scores : Scores} {u : Int} : u ∈ topScorers scores ↔
    ∃ x, (u, x) ∈ scores ∧ x ≠ 0 ∧ ∀ p ∈ scores, p.2 ≤ x := by
  unfold topScorers
  cases hmax : (scores.map (·.2)).max? with
  | none =>
    have hnil : scores = [] := by simpa using hmax
    simp [hnil]
  | some best =>
    obtain ⟨hbest, hle⟩ := List.max?_eq_some_iff.1 hmax
    have hle : ∀ p ∈ scores, p.2 ≤ best := fun p hp => hle p.2 (List.mem_map_of_mem hp)
    obtain ⟨top, htop, htopbest⟩ := List.mem_map.1 hbest
    have hwinner : (∃ x, (u, x) ∈ scores ∧ x ≠ 0 ∧ ∀ p ∈ scores, p.2 ≤ x) ↔
        best ≠ 0 ∧ (u, best) ∈ scores := by
      constructor
      · rintro ⟨x, hx, hzero, hall⟩
        have hsame : x = best :=
          Int.le_antisymm (hle (u, x) hx) (htopbest ▸ hall top htop)
        exact ⟨hsame ▸ hzero, hsame ▸ hx⟩
      · rintro ⟨hzero, hu⟩
        exact ⟨best, hu, hzero, hle⟩
    rw [hwinner]
    by_cases hzero : best = 0
    · simp [hzero]
    · have hholders : u ∈ (scores.filter (·.2 == best)).map (·.1) ↔ (u, best) ∈ scores := by
        simp [List.mem_map, List.mem_filter]
      simp only [hzero, reduceIte, ne_eq, not_false_eq_true, true_and]
      exact hholders

/-! ### Totals -/

theorem sumOf_eq_sum (numbers : List Int) : sumOf numbers = numbers.sum := rfl

theorem sumOf_of_perm {xs ys : List Int} (h : xs.Perm ys) : sumOf xs = sumOf ys := h.sum_eq

/-- A sum does not depend on elements that add nothing. -/
theorem sumOf_map_filter {α : Type} (f : α → Int) (p : α → Bool) (xs : List α)
    (h : ∀ x ∈ xs, p x = false → f x = 0) : sumOf (xs.map f) = sumOf ((xs.filter p).map f) := by
  induction xs with
  | nil => rfl
  | cons x xs ih =>
    have ih := ih fun x hx => h x (List.mem_cons_of_mem _ hx)
    rw [sumOf_eq_sum, sumOf_eq_sum] at ih ⊢
    rw [List.map_cons, List.sum_cons, ih, List.filter_cons]
    split
    · rw [List.map_cons, List.sum_cons]
    · rename_i hp
      rw [h x List.mem_cons_self (by simpa using hp), Int.zero_add]

/-- The points in some rounds depend on the results of these rounds alone. -/
theorem roundPoints_congr (members : List Int) {results results' : List RoundScore}
    {roundIds : List Int} (h : results.filter (fun r => roundIds.contains r.roundId) =
      results'.filter fun r => roundIds.contains r.roundId) :
    (⟨members, results⟩ : Standings).roundPoints roundIds =
      (⟨members, results'⟩ : Standings).roundPoints roundIds := by
  refine List.map_congr_left fun userId _ => ?_
  have hpart (results : List RoundScore) :
      (⟨members, results⟩ : Standings).total
          (fun r => if roundIds.contains r.roundId then r.points else 0) userId =
        sumOf (((results.filter fun r => roundIds.contains r.roundId).filter
          (·.userId == userId)).map
            fun r => if roundIds.contains r.roundId then r.points else 0) := by
    rw [total, sumOf_map_filter _ (fun r => roundIds.contains r.roundId)]
    · rw [List.filter_filter, List.filter_filter]
      simp only [Bool.and_comm]
    · exact fun r _ hnot => if_neg (Bool.not_eq_true _ ▸ hnot)
  rw [hpart, hpart, h]

end PredictionLeague.Standings
