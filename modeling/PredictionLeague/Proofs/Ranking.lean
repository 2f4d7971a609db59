import Mathlib.Data.List.Dedup
import PredictionLeague.Proofs.Store
import PredictionLeague.Ranking

/-!
# Ranks by counting

The groups of a ranking are the holders of each score, and the rank of a group is one more than the
number of players above it.

* `mem_levels`, `pairwise_levels`: the different scores, highest first;
* `rank_of_mem_rankGroups`: the rank of a group is the competition rank of its score;
* `groupAt`, `mem_groupAt`: the players on a rank;
* `rankOf_eq_competitionRank`: the rank of a player;
* `Store.memberRank`: the rank of a member of a league by counting the members above it.
-/

namespace PredictionLeague

/-- Sorted integers are in order. -/
theorem pairwise_ascending (xs : List Int) : (ascending xs).Pairwise (· ≤ ·) := by
  have h : (ascending xs).Pairwise fun a b => decide (a ≤ b) = true :=
    pairwise_sorted (fun a b => by simpa using Int.le_total a b)
      (fun a b c hab hbc => by
        simp only [decide_eq_true_eq] at hab hbc ⊢
        omega) xs
  exact h.imp fun hle => by simpa using hle

@[simp] theorem mem_ascending {x : Int} {xs : List Int} : x ∈ ascending xs ↔ x ∈ xs := mem_sorted

@[simp] theorem length_ascending (xs : List Int) : (ascending xs).length = xs.length :=
  length_sorted xs

theorem nodup_ascending {xs : List Int} : (ascending xs).Nodup ↔ xs.Nodup :=
  (sorted_perm xs).nodup_iff

/-- Different players in ascending order are in strictly ascending order. -/
theorem strict_ascending {xs : List Int} (h : xs.Nodup) : (ascending xs).Pairwise (· < ·) := by
  refine ((pairwise_ascending xs).and (nodup_ascending.2 h)).imp ?_
  rintro a b ⟨hle, hne⟩
  omega

/-- The order in which integers are sorted does not depend on how they were given. -/
theorem ascending_eq_of_perm {xs ys : List Int} (h : xs.Perm ys) : ascending xs = ascending ys :=
  List.Perm.eq_of_pairwise (fun _ _ _ _ => Int.le_antisymm) (pairwise_ascending xs)
    (pairwise_ascending ys) (((sorted_perm xs).trans h).trans (sorted_perm ys).symm)

namespace Scores

variable {scores : Scores}

theorem mem_levels {x : Int} : x ∈ scores.levels ↔ ∃ p ∈ scores, p.2 = x := by
  rw [levels, List.mem_reverse, mem_ascending, List.mem_eraseDups, List.mem_map]

/-- The different scores, highest first. -/
theorem pairwise_levels (scores : Scores) : scores.levels.Pairwise (· > ·) := by
  have hnodup : (ascending (scores.map (·.2)).eraseDups).Nodup :=
    nodup_ascending.2 (nodup_eraseDups _)
  rw [levels, List.pairwise_reverse]
  exact ((pairwise_ascending _).and hnodup).imp fun h => Int.lt_iff_le_and_ne.2 h

theorem mem_holders {u x : Int} : u ∈ scores.holders x ↔ (u, x) ∈ scores := by
  rw [holders, mem_ascending, List.mem_map]
  constructor
  · rintro ⟨p, hp, rfl⟩
    have hx : p.2 = x := by simpa using List.of_mem_filter hp
    exact hx ▸ List.mem_of_mem_filter hp
  · exact fun h => ⟨(u, x), List.mem_filter.2 ⟨h, beq_self_eq_true x⟩, rfl⟩

theorem length_holders (scores : Scores) (x : Int) :
    (scores.holders x).length = scores.countP (·.2 == x) := by
  rw [holders, length_ascending, List.length_map, List.countP_eq_length_filter]

theorem nodup_holders (h : (scores.map (·.1)).Nodup) (x : Int) : (scores.holders x).Nodup :=
  nodup_ascending.2 (h.sublist (List.filter_sublist.map _))

end Scores

variable {scores : Scores}

/-- Higher scores have better ranks. -/
theorem competitionRank_lt {x y : Int} (hlt : x < y) (hy : ∃ p ∈ scores, p.2 = y) :
    competitionRank scores y < competitionRank scores x := by
  obtain ⟨p, hp, rfl⟩ := hy
  rw [competitionRank, competitionRank, Nat.add_lt_add_iff_left, List.countP_eq_length_filter,
    List.countP_eq_length_filter]
  have hsub : (scores.filter fun q => decide (p.2 < q.2)).Sublist
      (scores.filter fun q => decide (x < q.2)) :=
    List.monotone_filter_right _ fun q hq => by
      simp only [decide_eq_true_eq] at hq ⊢
      omega
  -- The player on the higher score is above the lower score and not above its own.
  refine Nat.lt_of_le_of_ne hsub.length_le fun heq => ?_
  have hmem : p ∈ scores.filter fun q => decide (p.2 < q.2) := by
    rw [hsub.eq_of_length heq]
    exact List.mem_filter.2 ⟨hp, by simpa using hlt⟩
  simpa using List.of_mem_filter hmem

/-- A rank belongs to one score. -/
theorem competitionRank_inj {x y : Int} (hx : ∃ p ∈ scores, p.2 = x) (hy : ∃ p ∈ scores, p.2 = y)
    (h : competitionRank scores x = competitionRank scores y) : x = y := by
  rcases Int.lt_trichotomy x y with hlt | heq | hlt
  · exact absurd h (Nat.ne_of_gt (competitionRank_lt hlt hy))
  · exact heq
  · exact absurd h (Nat.ne_of_lt (competitionRank_lt hlt hx))

theorem mem_groupsFrom {levels : List Int} {above : Nat} {group : RankGroup} :
    group ∈ groupsFrom scores above levels → group.score ∈ levels ∧
      group.userIds = scores.holders group.score := by
  induction levels generalizing above with
  | nil => exact fun h => absurd h (by simp [groupsFrom])
  | cons level rest ih =>
    intro h
    rcases List.mem_cons.1 h with rfl | h
    · exact ⟨List.mem_cons_self, rfl⟩
    · exact ⟨List.mem_cons_of_mem _ (ih h).1, (ih h).2⟩

theorem exists_mem_groupsFrom (scores : Scores) {levels : List Int} (above : Nat) {x : Int}
    (hx : x ∈ levels) : ∃ group ∈ groupsFrom scores above levels, group.score = x := by
  induction levels generalizing above with
  | nil => exact absurd hx (by simp)
  | cons level rest ih =>
    rcases List.mem_cons.1 hx with rfl | hx
    · exact ⟨_, List.mem_cons_self, rfl⟩
    · obtain ⟨group, hgroup, hscore⟩ := ih (above + (scores.holders level).length) hx
      exact ⟨group, List.mem_cons_of_mem _ hgroup, hscore⟩

/-- When all players on other scores are above, a group's rank counts the players above it. -/
theorem rank_of_mem_groupsFrom {levels : List Int} {above : Nat} (hdesc : levels.Pairwise (· > ·))
    (habove : above = scores.countP fun p => !levels.contains p.2)
    (hhigher : ∀ p ∈ scores, p.2 ∉ levels → ∀ level ∈ levels, level < p.2)
    {group : RankGroup} (h : group ∈ groupsFrom scores above levels) :
    group.rank = competitionRank scores group.score := by
  -- Going down the levels, the invariant is that those above are the players on levels passed.
  induction levels generalizing above with
  | nil => exact absurd h (by simp [groupsFrom])
  | cons level rest ih =>
    obtain ⟨hfirst, hrest⟩ := List.pairwise_cons.1 hdesc
    rcases List.mem_cons.1 h with rfl | h
    · have hcount : (scores.countP fun p => !(level :: rest).contains p.2) =
          scores.countP fun p => decide (level < p.2) := by
        refine List.countP_congr fun p hp => ?_
        simp only [Bool.not_eq_true', List.contains_eq_mem, decide_eq_false_iff_not,
          decide_eq_true_eq]
        constructor
        · exact fun hnot => hhigher p hp hnot level List.mem_cons_self
        · intro hlt hmem
          rcases List.mem_cons.1 hmem with heq | hmem
          · omega
          · have hbelow := hfirst p.2 hmem
            omega
      rw [habove, hcount]
      exact Nat.add_comm _ _
    · have hlevel : level ∉ rest := fun hmem => Int.lt_irrefl level (hfirst level hmem)
      refine ih hrest ?_ (fun p hp hnot l hl => ?_) h
      · rw [habove, Scores.length_holders, Nat.add_comm,
          List.countP_eq_countP_filter_add scores (fun p => !rest.contains p.2) (·.2 == level),
          List.countP_filter, List.countP_filter]
        congr 1 <;> refine List.countP_congr fun p _ => ?_
        · by_cases heq : p.2 = level <;> simp [heq, hlevel]
        · by_cases heq : p.2 = level <;> simp [heq]
      · by_cases heq : p.2 = level
        · exact heq ▸ hfirst l hl
        · exact hhigher p hp (by simp [heq, hnot]) l (List.mem_cons_of_mem _ hl)

/-- The rank of a group is the competition rank of its score. -/
theorem rank_of_mem_rankGroups {group : RankGroup} (h : group ∈ rankGroups scores) :
    group.rank = competitionRank scores group.score := by
  have hall : ∀ p ∈ scores, p.2 ∈ scores.levels := fun p hp => Scores.mem_levels.2 ⟨p, hp, rfl⟩
  refine rank_of_mem_groupsFrom (Scores.pairwise_levels scores) ?_
    (fun p hp hnot => absurd (hall p hp) hnot) h
  refine (List.countP_eq_zero.2 fun p hp => ?_).symm
  simpa using hall p hp

/-- The players on a rank; nobody when the rank is absorbed by a tie above it. -/
def groupAt (groups : List RankGroup) (rank : Int) : List Int :=
  ((groups.find? fun g => (g.rank : Int) == rank).map (·.userIds)).getD []

theorem groupAt_of_none {groups : List RankGroup} {rank : Int}
    (h : (groups.find? fun g => (g.rank : Int) == rank) = none) : groupAt groups rank = [] := by
  rw [groupAt, h]
  rfl

theorem groupAt_of_some {groups : List RankGroup} {rank : Int} {group : RankGroup}
    (h : (groups.find? fun g => (g.rank : Int) == rank) = some group) :
    groupAt groups rank = group.userIds := by
  rw [groupAt, h]
  rfl

theorem mem_rankGroups {group : RankGroup} (h : group ∈ rankGroups scores) :
    group.score ∈ scores.levels ∧ group.userIds = scores.holders group.score :=
  mem_groupsFrom h

/-- The players on a rank are those whose score has the rank. -/
theorem mem_groupAt {rank u : Int} : u ∈ groupAt (rankGroups scores) rank ↔
    ∃ x, (u, x) ∈ scores ∧ (competitionRank scores x : Int) = rank := by
  constructor
  · intro hu
    cases hfind : (rankGroups scores).find? fun g => (g.rank : Int) == rank with
    | none => exact absurd hu (by simp [groupAt_of_none hfind])
    | some group =>
      have hmem := List.mem_of_find?_eq_some hfind
      rw [groupAt_of_some hfind, (mem_rankGroups hmem).2, Scores.mem_holders] at hu
      refine ⟨group.score, hu, ?_⟩
      rw [← rank_of_mem_rankGroups hmem]
      simpa using List.find?_some hfind
  · rintro ⟨x, hx, hrank⟩
    obtain ⟨group, hgroup, rfl⟩ :=
      exists_mem_groupsFrom scores 0 (Scores.mem_levels.2 ⟨_, hx, rfl⟩)
    cases hfind : (rankGroups scores).find? fun g => (g.rank : Int) == rank with
    | none =>
      refine absurd (List.find?_eq_none.1 hfind group hgroup) ?_
      rw [rank_of_mem_rankGroups hgroup, hrank]
      simp
    | some other =>
      -- The group that is found may be another one only if its score has the same rank.
      have hmem := List.mem_of_find?_eq_some hfind
      have hother : (other.rank : Int) = rank := by simpa using List.find?_some hfind
      have hsame : other.score = group.score := by
        refine competitionRank_inj (Scores.mem_levels.1 (mem_rankGroups hmem).1) ⟨_, hx, rfl⟩ ?_
        rw [← rank_of_mem_rankGroups hmem]
        omega
      rw [groupAt_of_some hfind, (mem_rankGroups hmem).2, hsame]
      exact Scores.mem_holders.2 hx

/-- A player's rank is the competition rank of its score. -/
theorem rankOf_eq_competitionRank (h : (scores.map (·.1)).Nodup) {u x : Int}
    (hx : (u, x) ∈ scores) : rankOf scores u = competitionRank scores x := by
  cases hlookup : (ranks scores).lookup u with
  | none =>
    -- The player stands in the group of its score.
    obtain ⟨group, hgroup, rfl⟩ :=
      exists_mem_groupsFrom scores 0 (Scores.mem_levels.2 ⟨_, hx, rfl⟩)
    have hu : u ∈ group.userIds := by
      rw [(mem_rankGroups hgroup).2, Scores.mem_holders]
      exact hx
    have hmem : (u, group.rank) ∈ ranks scores :=
      List.mem_flatMap.2 ⟨group, hgroup, List.mem_map_of_mem hu⟩
    have hnone := List.lookup_eq_none_iff.1 hlookup _ hmem
    simp at hnone
  | some rank =>
    -- Whatever group it is found in, it has the score of that group and no other.
    obtain ⟨group, hgroup, hrank⟩ := List.mem_flatMap.1 (Table.mem_of_lookup hlookup)
    obtain ⟨v, hv, hpair⟩ := List.mem_map.1 hrank
    obtain ⟨rfl, rfl⟩ := Prod.mk.inj hpair
    rw [(mem_rankGroups hgroup).2, Scores.mem_holders] at hv
    have hscore : group.score = x := congrArg Prod.snd (List.inj_on_of_nodup_map h hv hx rfl)
    rw [rankOf, hlookup, Option.getD_some, rank_of_mem_rankGroups hgroup, hscore]

theorem nodup_groupAt (h : (scores.map (·.1)).Nodup) (rank : Int) :
    (groupAt (rankGroups scores) rank).Nodup := by
  cases hfind : (rankGroups scores).find? fun g => (g.rank : Int) == rank with
  | none =>
    rw [groupAt_of_none hfind]
    exact List.nodup_nil
  | some group =>
    rw [groupAt_of_some hfind, (mem_rankGroups (List.mem_of_find?_eq_some hfind)).2]
    exact Scores.nodup_holders h _

/-! ### The members of a league -/

namespace Store

/-- The rank of a member of a league by points: one more than the number of approved members with
strictly more. -/
def memberRank (s : Store) (leagueId : Int) (points : Int → Int) (userId : Int) : Nat :=
  1 + (s.approvedMembers leagueId).countP fun other => decide (points userId < points other)

theorem users_members (users : List Int) (points : Int → Int) :
    (users.map fun u => (u, points u)).map (·.1) = users := by
  rw [List.map_map]
  exact List.map_id _

section Members

variable {s : Store} (hs : s.Keyed) {leagueId userId : Int}
  (hmember : s.isMember leagueId userId = true) (points : Int → Int)

include hs hmember

/-- Members that are given points are ranked by them. -/
theorem Keyed.rankOf_members :
    rankOf ((s.approvedMembers leagueId).map fun u => (u, points u)) userId =
      s.memberRank leagueId points userId := by
  have hnodup : (((s.approvedMembers leagueId).map fun u => (u, points u)).map (·.1)).Nodup := by
    rw [users_members]
    exact hs.approvedMembers_nodup leagueId
  have hmem : (userId, points userId) ∈
      (s.approvedMembers leagueId).map fun u => (u, points u) :=
    List.mem_map_of_mem (mem_approvedMembers.2 hmember)
  rw [rankOf_eq_competitionRank hnodup hmem, competitionRank, memberRank, List.countP_map]
  rfl

theorem Keyed.lookup_members :
    ((s.approvedMembers leagueId).map fun u => (u, points u)).lookup userId =
      some (points userId) := by
  have hnodup : (((s.approvedMembers leagueId).map fun u => (u, points u)).map (·.1)).Nodup := by
    rw [users_members]
    exact hs.approvedMembers_nodup leagueId
  have hmem : (userId, points userId) ∈
      (s.approvedMembers leagueId).map fun u => (u, points u) :=
    List.mem_map_of_mem (mem_approvedMembers.2 hmember)
  exact Table.lookup_of_mem hnodup hmem

end Members

end Store

end PredictionLeague
