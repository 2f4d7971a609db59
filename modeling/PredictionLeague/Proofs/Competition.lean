import Mathlib.Algebra.Ring.Nat
import Mathlib.Data.List.Perm.Basic
import PredictionLeague.Proofs.Ranking

/-!
# The law of competition ranking

Ranking splits the players into groups of equal score, highest first, and a group is ranked by how
many players stand above it. What the groups are depends on the scores alone, not on the order in
which they were given.

* `Scores.nodup_ofPairs`: a player has one score;
* `Scores.strict_holders`, `Scores.disjoint_holders`: the players on a score, and those on another;
* `scores_rankGroups`, `perm_rankGroups`: the groups are those of the different scores, and together
  all players;
* `rank_of_groupsFrom_eq_append`: a group is ranked by the sizes of the groups before it;
* `rankGroups_of_perm`: the order in which scores are given does not matter;
* `Competition`, `RanksAll`: the law for the groups and for the rank of each player;
* `rankGroups_competition`: the groups and ranks of any scores obey it.
-/

namespace PredictionLeague

namespace Scores

variable {scores scores' : Scores} {x y : Int}

/-- Players whose scores are entered one after the other have one score each. -/
theorem nodup_ofPairs (pairs : List (Int × Int)) : ((ofPairs pairs).map (·.1)).Nodup := by
  have hfold (pairs : List (Int × Int)) (scores : Scores) (h : (scores.map (·.1)).Nodup) :
      ((pairs.foldl (fun scores p => scores.filter (·.1 != p.1) ++ [p]) scores).map
        (·.1)).Nodup := by
    induction pairs generalizing scores with
    | nil => exact h
    | cons p pairs ih =>
      refine ih _ ?_
      rw [List.map_append, List.nodup_append]
      refine ⟨h.sublist (List.filter_sublist.map _), List.nodup_singleton _, ?_⟩
      intro u hu v hv
      obtain ⟨q, hq, rfl⟩ := List.mem_map.1 hu
      rw [List.mem_singleton.1 hv]
      simpa using List.of_mem_filter hq
  exact hfold pairs [] List.nodup_nil

/-- The players on a score are in strictly ascending order. -/
theorem strict_holders (h : (scores.map (·.1)).Nodup) (x : Int) :
    (scores.holders x).Pairwise (· < ·) :=
  strict_ascending (h.sublist (List.filter_sublist.map _))

/-- A player has one score. -/
theorem disjoint_holders (h : (scores.map (·.1)).Nodup) (hne : x ≠ y) :
    (scores.holders x).Disjoint (scores.holders y) := by
  intro u hx hy
  have hpair : (u, x) = (u, y) :=
    List.inj_on_of_nodup_map h (mem_holders.1 hx) (mem_holders.1 hy) rfl
  exact hne (Prod.mk.inj hpair).2

/-- Somebody stands on every level. -/
theorem holders_ne_nil (h : x ∈ scores.levels) : scores.holders x ≠ [] := by
  obtain ⟨⟨u, _⟩, hp, rfl⟩ := mem_levels.1 h
  exact List.ne_nil_of_mem (mem_holders.2 hp)

theorem holders_of_perm (h : scores'.Perm scores) (x : Int) :
    scores'.holders x = scores.holders x :=
  ascending_eq_of_perm ((h.filter _).map _)

theorem levels_of_perm (h : scores'.Perm scores) : scores'.levels = scores.levels := by
  have hdups : (scores'.map (·.2)).eraseDups.Perm (scores.map (·.2)).eraseDups := by
    refine (List.perm_ext_iff_of_nodup (nodup_eraseDups _) (nodup_eraseDups _)).2 fun x => ?_
    rw [List.mem_eraseDups, List.mem_eraseDups, (h.map _).mem_iff]
  rw [levels, levels, ascending_eq_of_perm hdups]

/-- The players, level by level. -/
theorem holders_levels_perm (scores : Scores) :
    (scores.levels.flatMap scores.holders).Perm (scores.map (·.1)) := by
  have hnodup : scores.levels.Nodup := (pairwise_levels scores).imp fun h => (Int.ne_of_lt h).symm
  have hall : (scores.filter fun p => scores.levels.contains p.2) = scores :=
    List.filter_eq_self.2 fun p hp => List.contains_iff_mem.2 (mem_levels.2 ⟨p, hp, rfl⟩)
  have hholders : (scores.levels.flatMap scores.holders).Perm
      (scores.levels.flatMap fun x => (scores.filter (·.2 == x)).map (·.1)) :=
    .flatMap_left _ fun x _ => sorted_perm _
  have hpicked := (flatMap_filter_perm (·.2) scores hnodup).map (·.1)
  rw [hall, List.map_flatMap] at hpicked
  exact hholders.trans hpicked

end Scores

variable {scores scores' : Scores}

/-! ### The groups -/

theorem scores_groupsFrom (scores : Scores) (above : Nat) (levels : List Int) :
    (groupsFrom scores above levels).map (·.score) = levels := by
  induction levels generalizing above with
  | nil => rfl
  | cons level rest ih => exact congrArg (level :: ·) (ih _)

theorem userIds_groupsFrom (scores : Scores) (above : Nat) (levels : List Int) :
    (groupsFrom scores above levels).flatMap (·.userIds) = levels.flatMap scores.holders := by
  induction levels generalizing above with
  | nil => rfl
  | cons level rest ih => exact congrArg (scores.holders level ++ ·) (ih _)

theorem groupsFrom_congr (h : ∀ x, scores'.holders x = scores.holders x) (above : Nat)
    (levels : List Int) : groupsFrom scores' above levels = groupsFrom scores above levels := by
  induction levels generalizing above with
  | nil => rfl
  | cons level rest ih =>
    rw [groupsFrom, groupsFrom, h, ih]

/-- A group is ranked by the players above the levels and those in the groups before it. -/
theorem rank_of_groupsFrom_eq_append {levels : List Int} {above : Nat}
    {before after : List RankGroup} {group : RankGroup}
    (h : groupsFrom scores above levels = before ++ group :: after) :
    group.rank = 1 + above + (before.map (·.userIds.length)).sum := by
  -- Each group before it adds its players to those above.
  induction levels generalizing above before with
  | nil => exact absurd h (by simp [groupsFrom])
  | cons level rest ih =>
    cases before with
    | nil =>
      obtain ⟨rfl, -⟩ := List.cons.inj h
      exact Nat.add_comm above 1
    | cons first before =>
      obtain ⟨rfl, hrest⟩ := List.cons.inj h
      rw [ih hrest, List.map_cons, List.sum_cons]
      dsimp only
      omega

/-- There is one group for each of the different scores, highest first. -/
theorem scores_rankGroups (scores : Scores) :
    (rankGroups scores).map (·.score) = scores.levels := scores_groupsFrom scores 0 scores.levels

theorem pairwise_rankGroups (scores : Scores) :
    (rankGroups scores).Pairwise fun g h => h.score < g.score := by
  rw [← List.pairwise_map (f := RankGroup.score) (R := fun x y => y < x), scores_rankGroups]
  exact Scores.pairwise_levels scores

/-- The groups hold every player once. -/
theorem perm_rankGroups (scores : Scores) :
    ((rankGroups scores).flatMap (·.userIds)).Perm (scores.map (·.1)) := by
  rw [rankGroups, userIds_groupsFrom]
  exact scores.holders_levels_perm

theorem rankGroups_of_perm (h : scores'.Perm scores) : rankGroups scores' = rankGroups scores := by
  rw [rankGroups, rankGroups, Scores.levels_of_perm h, groupsFrom_congr (Scores.holders_of_perm h)]

/-! ### The ranks of the players -/

theorem map_fst_ranks (scores : Scores) :
    (ranks scores).map (·.1) = (rankGroups scores).flatMap (·.userIds) := by
  rw [ranks, List.map_flatMap]
  refine List.flatMap_congr fun group _ => ?_
  rw [List.map_map]
  exact List.map_id _

theorem nodup_map_fst_ranks (h : (scores.map (·.1)).Nodup) : ((ranks scores).map (·.1)).Nodup := by
  rw [map_fst_ranks]
  exact (perm_rankGroups scores).nodup_iff.2 h

/-- The players of a group are found with its rank. -/
theorem lookup_ranks (h : (scores.map (·.1)).Nodup) {group : RankGroup}
    (hgroup : group ∈ rankGroups scores) {u : Int} (hu : u ∈ group.userIds) :
    (ranks scores).lookup u = some group.rank := by
  have hmem : (u, group.rank) ∈ ranks scores :=
    List.mem_flatMap.2 ⟨group, hgroup, List.mem_map_of_mem hu⟩
  exact Table.lookup_of_mem (nodup_map_fst_ranks h) hmem

/-- Better ranks are higher scores. -/
theorem competitionRank_le_iff {x y : Int} (hx : ∃ p ∈ scores, p.2 = x)
    (hy : ∃ p ∈ scores, p.2 = y) :
    competitionRank scores x ≤ competitionRank scores y ↔ y ≤ x := by
  constructor
  · intro hle
    by_contra hlt
    exact absurd (competitionRank_lt (Int.not_le.1 hlt) hy) (Nat.not_lt.2 hle)
  · intro hle
    rcases Int.lt_or_eq_of_le hle with hlt | rfl
    · exact Nat.le_of_lt (competitionRank_lt hlt hx)
    · exact Nat.le_refl _

/-! ### The law -/

/-- Groups are a competition ranking of players with scores: one group for each score, highest
first, with its players in ascending order and ranked by the number of players above. -/
structure Competition (scores : Scores) (groups : List RankGroup) : Prop where
  descending : groups.Pairwise fun g h => h.score < g.score
  ascending : ∀ g ∈ groups, g.userIds.Pairwise (· < ·)
  inhabited : ∀ g ∈ groups, g.userIds ≠ []
  disjoint : groups.Pairwise fun g h => g.userIds.Disjoint h.userIds
  players : ∀ u, (∃ g ∈ groups, u ∈ g.userIds) ↔ ∃ p ∈ scores, p.1 = u
  score : ∀ g ∈ groups, ∀ u ∈ g.userIds, (u, g.score) ∈ scores
  rank : ∀ g ∈ groups, g.rank = 1 + scores.countP fun p => g.score < p.2
  position : ∀ before g after, groups = before ++ g :: after →
    g.rank = 1 + (before.map (·.userIds.length)).sum

/-- Every player with a score, and nobody else, has the rank of its group, and better ranks are
higher scores. -/
structure RanksAll (scores : Scores) : Prop where
  players : ((ranks scores).map (·.1)).Perm (scores.map (·.1))
  group : ∀ g ∈ rankGroups scores, ∀ u ∈ g.userIds, (ranks scores).lookup u = some g.rank
  order : ∀ p ∈ scores, ∀ q ∈ scores, rankOf scores p.1 ≤ rankOf scores q.1 ↔ q.2 ≤ p.2

theorem competition_rankGroups (h : (scores.map (·.1)).Nodup) :
    Competition scores (rankGroups scores) where
  descending := pairwise_rankGroups scores
  ascending g hg := by
    rw [(mem_rankGroups hg).2]
    exact Scores.strict_holders h g.score
  inhabited g hg := by
    rw [(mem_rankGroups hg).2]
    exact Scores.holders_ne_nil (mem_rankGroups hg).1
  disjoint := by
    refine (pairwise_rankGroups scores).imp_of_mem fun hg hg' hlt => ?_
    rw [(mem_rankGroups hg).2, (mem_rankGroups hg').2]
    exact Scores.disjoint_holders h (Int.ne_of_gt hlt)
  players u := by
    rw [← List.mem_flatMap, (perm_rankGroups scores).mem_iff, List.mem_map]
  score g hg u hu := by
    rw [(mem_rankGroups hg).2] at hu
    exact Scores.mem_holders.1 hu
  rank _ hg := rank_of_mem_rankGroups hg
  position _ _ _ hsplit := rank_of_groupsFrom_eq_append hsplit

theorem ranksAll (h : (scores.map (·.1)).Nodup) : RanksAll scores where
  players := by
    rw [map_fst_ranks]
    exact perm_rankGroups scores
  group _ hg _ hu := lookup_ranks h hg hu
  order p hp q hq := by
    rw [rankOf_eq_competitionRank h hp, rankOf_eq_competitionRank h hq]
    exact competitionRank_le_iff ⟨p, hp, rfl⟩ ⟨q, hq, rfl⟩

/-- Players with any scores are put into groups that are a competition ranking, and each of them is
given the rank of its group, in whatever order the scores are listed. -/
theorem rankGroups_competition {scores : Scores} (h : (scores.map (·.1)).Nodup) :
    Competition scores (rankGroups scores) ∧ RanksAll scores ∧
      ∀ scores' : Scores, scores'.Perm scores →
        rankGroups scores' = rankGroups scores ∧ ranks scores' = ranks scores := by
  refine ⟨competition_rankGroups h, ranksAll h, fun scores' hperm => ?_⟩
  have hgroups := rankGroups_of_perm hperm
  exact ⟨hgroups, by rw [ranks, ranks, hgroups]⟩

/-- Scores entered in another order, one of them corrected, give the same ranking. -/
theorem corrected_scores_competition :
    let scores := Scores.ofPairs [(1, 4), (2, 9), (3, 4), (4, 0), (5, 9)]
    let entered := Scores.ofPairs [(5, 9), (3, 7), (4, 0), (2, 9), (3, 4), (1, 4)]
    (scores.map (·.1)).Nodup ∧ Competition scores (rankGroups scores) ∧ RanksAll scores ∧
      rankGroups entered = rankGroups scores ∧
      rankGroups scores = [⟨1, 9, [2, 5]⟩, ⟨3, 4, [1, 3]⟩, ⟨5, 0, [4]⟩] := by
  intro scores entered
  have hnodup : (scores.map (·.1)).Nodup := Scores.nodup_ofPairs _
  have hperm : entered.Perm scores := by decide
  obtain ⟨hcompetition, hranks, hsame⟩ := rankGroups_competition hnodup
  exact ⟨hnodup, hcompetition, hranks, (hsame entered hperm).1, by decide⟩

end PredictionLeague
