import Mathlib.Data.Finset.Card
import PredictionLeague.Proofs.Competition
import PredictionLeague.Proofs.Standings

/-!
# Who wins

The standings of a league are made from a list of members and a list of results, in any order and
with results of anybody. The members with the highest sum win, unless it is zero, and the ranking
over all rounds places every member by its sum.

* `pointsIn`, `sumOver`: sums over results;
* `WonBy`, `PlacedBy`: who wins by sums, and who is placed where;
* `CountsRounds`: the points in some rounds are those of a set of rounds, and add up;
* `mem_totals_of`, `totals_of_perm`: the totals of standings are sums over the results of the
  members, in whatever order these are listed;
* `standings_winners`: what standings say of any members and results.
-/

namespace PredictionLeague

theorem eraseDups_sublist (xs : List Int) : xs.eraseDups.Sublist xs := by
  match xs with
  | [] => exact .slnil
  | x :: xs =>
    rw [List.eraseDups_cons]
    exact ((eraseDups_sublist _).trans List.filter_sublist).cons_cons x
termination_by xs.length
decreasing_by exact Nat.lt_succ_of_le (List.length_filter_le _ _)

namespace Standings

/-- The points of a player in some rounds: the sum over its results in them. -/
def pointsIn (results : List RoundScore) (roundIds : List Int) (userId : Int) : Int :=
  ((results.filter fun r => r.userId == userId && roundIds.contains r.roundId).map (·.points)).sum

/-- The sum of a figure over all results of a player. -/
def sumOver (results : List RoundScore) (figure : RoundScore → Int) (userId : Int) : Int :=
  ((results.filter (·.userId == userId)).map figure).sum

/-- The players who win by a sum: the members whose sum is not zero and not exceeded by that of
another, in ascending order. -/
structure WonBy (memberIds : List Int) (sum : Int → Int) (winners : List Int) : Prop where
  mem : ∀ u, u ∈ winners ↔ u ∈ memberIds ∧ sum u ≠ 0 ∧ ∀ v ∈ memberIds, sum v ≤ sum u
  ascending : winners.Pairwise (· < ·)

/-- Groups place every member, and nobody else, once, ranked by the number of members whose sum is
strictly greater. -/
structure PlacedBy (memberIds : List Int) (sum : Int → Int) (groups : List RankGroup) : Prop where
  mem : ∀ u, u ∈ groups.flatMap (·.userIds) ↔ u ∈ memberIds
  once : (groups.flatMap (·.userIds)).Nodup
  rank : ∀ g ∈ groups, ∀ u ∈ g.userIds,
    g.rank = 1 + (memberIds.toFinset.filter fun v => sum u < sum v).card

/-- Every member, and nobody else, has points in some rounds: the sum over its results there. They
depend on which rounds these are, and add up over rounds that are not the same. -/
structure CountsRounds (memberIds : List Int) (results : List RoundScore)
    (points : List Int → Scores) : Prop where
  each : ∀ roundIds u, (points roundIds).lookup u =
    if u ∈ memberIds then some (pointsIn results roundIds u) else none
  same : ∀ roundIds roundIds', (∀ id, id ∈ roundIds' ↔ id ∈ roundIds) →
    points roundIds' = points roundIds
  additive : ∀ first second : List Int, first.Disjoint second → ∀ u ∈ memberIds, ∃ x y,
    (points first).lookup u = some x ∧ (points second).lookup u = some y ∧
      (points (first ++ second)).lookup u = some (x + y)

variable {memberIds memberIds' : List Int} {results results' : List RoundScore}

/-! ### Sums -/

theorem pointsIn_eq (results : List RoundScore) (roundIds : List Int) (userId : Int) :
    pointsIn results roundIds userId =
      sumOver results (fun r => if roundIds.contains r.roundId then r.points else 0) userId := by
  have hsum := sumOf_map_filter (fun r => if roundIds.contains r.roundId then r.points else 0)
    (fun r => roundIds.contains r.roundId) (results.filter (·.userId == userId))
    fun r _ hnot => if_neg (Bool.not_eq_true _ ▸ hnot)
  rw [sumOf_eq_sum, sumOf_eq_sum, List.filter_filter] at hsum
  rw [sumOver, hsum, pointsIn]
  simp only [Bool.and_comm]
  refine congrArg List.sum (List.map_congr_left fun r hr => ?_)
  have hround := List.of_mem_filter hr
  rw [Bool.and_eq_true] at hround
  exact (if_pos hround.2).symm

/-- Points over different rounds add up. -/
theorem pointsIn_append {first second : List Int} (h : first.Disjoint second) (userId : Int) :
    pointsIn results (first ++ second) userId =
      pointsIn results first userId + pointsIn results second userId := by
  simp only [pointsIn_eq, sumOver]
  rw [← List.sum_map_add]
  refine congrArg List.sum (List.map_congr_left fun r _ => ?_)
  by_cases hfirst : r.roundId ∈ first
  · have hsecond : r.roundId ∉ second := fun hmem => h hfirst hmem
    simp [hfirst, hsecond]
  · simp [hfirst]

/-! ### Totals -/

theorem mem_players_of {u : Int} : u ∈ (Standings.of memberIds results).players ↔
    u ∈ memberIds := by
  rw [players, List.mem_eraseDups]
  exact mem_ascending

/-- Every member is listed with its sum. -/
theorem mem_totals_of {figure : RoundScore → Int} {u x : Int} :
    (u, x) ∈ (Standings.of memberIds results).totals figure ↔
      u ∈ memberIds ∧ x = sumOver results figure u := by
  rw [totals, List.mem_map]
  constructor
  · rintro ⟨v, hv, hpair⟩
    obtain ⟨rfl, rfl⟩ := Prod.mk.inj hpair
    exact ⟨mem_players_of.1 hv, rfl⟩
  · rintro ⟨hu, rfl⟩
    exact ⟨u, mem_players_of.2 hu, rfl⟩

section Totals

variable (memberIds : List Int) (results : List RoundScore) (figure : RoundScore → Int)

theorem nodup_players_of : (Standings.of memberIds results).players.Nodup := nodup_eraseDups _

/-- The members are listed in ascending order, each of them once. -/
theorem strict_players_of : (Standings.of memberIds results).players.Pairwise (· < ·) := by
  have hsorted : (Standings.of memberIds results).players.Pairwise (· ≤ ·) :=
    (pairwise_ascending memberIds).sublist (eraseDups_sublist _)
  refine (hsorted.and (nodup_players_of memberIds results)).imp ?_
  rintro a b ⟨hle, hne⟩
  omega

theorem nodup_totals_of :
    (((Standings.of memberIds results).totals figure).map (·.1)).Nodup := by
  rw [users_totals]
  exact nodup_players_of memberIds results

theorem lookup_totals_of (u : Int) :
    ((Standings.of memberIds results).totals figure).lookup u =
      if u ∈ memberIds then some (sumOver results figure u) else none := by
  split
  · rename_i hu
    exact Table.lookup_of_mem (nodup_totals_of memberIds results figure) (mem_totals_of.2 ⟨hu, rfl⟩)
  · rename_i hu
    refine List.lookup_eq_none_iff.2 fun p hp => bne_iff_ne.2 fun heq => hu ?_
    rw [heq]
    exact (mem_totals_of.1 hp).1

/-- Sums and players do not depend on the order in which members and results are listed. -/
theorem totals_of_perm {memberIds results} (hmembers : memberIds'.Perm memberIds)
    (hresults : results'.Perm results) :
    (Standings.of memberIds' results').totals figure =
      (Standings.of memberIds results).totals figure := by
  have hplayers : (Standings.of memberIds' results').players =
      (Standings.of memberIds results).players :=
    congrArg List.eraseDups (ascending_eq_of_perm hmembers)
  rw [totals, totals, hplayers]
  refine List.map_congr_left fun u _ => congrArg (u, ·) ?_
  exact ((hresults.filter _).map figure).sum_eq

/-! ### Winners and places -/

/-- The top scorers by a sum are the players who win by it. -/
theorem wonBy_topScorers :
    WonBy memberIds (sumOver results figure)
      (topScorers ((Standings.of memberIds results).totals figure)) where
  mem u := by
    simp only [mem_topScorers, mem_totals_of, Prod.forall, and_imp]
    constructor
    · rintro ⟨x, ⟨hu, rfl⟩, hzero, htop⟩
      exact ⟨hu, hzero, fun v hv => htop v _ hv rfl⟩
    · rintro ⟨hu, hzero, htop⟩
      refine ⟨_, ⟨hu, rfl⟩, hzero, ?_⟩
      rintro v x hv rfl
      exact htop v hv
  ascending := by
    -- They are players in the order of the standings.
    have hstrict := strict_players_of memberIds results
    rw [← users_totals _ figure] at hstrict
    unfold topScorers
    split
    · exact .nil
    · split
      · exact .nil
      · exact hstrict.sublist (List.filter_sublist.map _)

/-- A member that is listed more than once counts once. -/
theorem card_members (p : Int → Bool) :
    (Standings.of memberIds results).players.countP p =
      (memberIds.toFinset.filter fun v => p v = true).card := by
  have hset : (memberIds.toFinset.filter fun v => p v = true) =
      ((Standings.of memberIds results).players.filter p).toFinset := by
    ext v
    rw [Finset.mem_filter, List.mem_toFinset, List.mem_toFinset, List.mem_filter,
      mem_players_of]
  rw [hset, List.toFinset_card_of_nodup ((nodup_players_of memberIds results).filter p),
    List.countP_eq_length_filter]

theorem placedBy_rankGroups :
    PlacedBy memberIds (sumOver results figure)
      (rankGroups ((Standings.of memberIds results).totals figure)) where
  mem u := by
    rw [(perm_rankGroups _).mem_iff, users_totals]
    exact mem_players_of
  once := (perm_rankGroups _).nodup_iff.2 (nodup_totals_of memberIds results figure)
  rank g hg u hu := by
    rw [(mem_rankGroups hg).2, Scores.mem_holders, mem_totals_of] at hu
    rw [rank_of_mem_rankGroups hg, competitionRank, hu.2, totals, List.countP_map, card_members]
    simp only [Function.comp_apply, decide_eq_true_eq]
    rfl

end Totals

theorem countsRounds_of (memberIds : List Int) (results : List RoundScore) :
    CountsRounds memberIds results (Standings.of memberIds results).roundPoints := by
  have heach (roundIds : List Int) (u : Int) :
      ((Standings.of memberIds results).roundPoints roundIds).lookup u =
        if u ∈ memberIds then some (pointsIn results roundIds u) else none := by
    rw [pointsIn_eq]
    exact lookup_totals_of memberIds results _ u
  refine ⟨heach, fun roundIds roundIds' hsame => ?_, fun first second hdisjoint u hu => ?_⟩
  · have hcontains (id : Int) : roundIds'.contains id = roundIds.contains id := by
      rw [Bool.eq_iff_iff, List.contains_iff_mem, List.contains_iff_mem, hsame]
    simp only [roundPoints, hcontains]
  · refine ⟨_, _, (heach first u).trans (if_pos hu), (heach second u).trans (if_pos hu), ?_⟩
    rw [heach, if_pos hu, pointsIn_append hdisjoint]

/-- Whatever members and results standings are made from, the winners of a round, of several rounds
and by exact scores are the members whose sum is not zero and not exceeded by that of another
member, in ascending order; the ranking over all rounds places every member once by its sum; the
points in some rounds are those of a set of rounds, and add up over different ones; and none of it
depends on the order in which members and results are listed. -/
theorem standings_winners (memberIds : List Int) (results : List RoundScore) :
    let s := Standings.of memberIds results
    (∀ roundId, WonBy memberIds (pointsIn results [roundId]) (s.roundWinners roundId)) ∧
      (∀ roundIds, WonBy memberIds (pointsIn results roundIds) (s.periodWinners roundIds)) ∧
      WonBy memberIds (sumOver results (·.exactScores)) s.mostExact ∧
      PlacedBy memberIds (sumOver results (·.points)) s.overall ∧
      CountsRounds memberIds results s.roundPoints ∧
      (∀ roundIds roundIds', (∀ id, id ∈ roundIds' ↔ id ∈ roundIds) →
        s.periodWinners roundIds' = s.periodWinners roundIds) ∧
      ∀ memberIds' results', memberIds'.Perm memberIds → results'.Perm results →
        let s' := Standings.of memberIds' results'
        s'.roundWinners = s.roundWinners ∧ s'.periodWinners = s.periodWinners ∧
          s'.mostExact = s.mostExact ∧ s'.overall = s.overall := by
  intro s
  have hperiod (roundIds : List Int) :
      WonBy memberIds (pointsIn results roundIds) (s.periodWinners roundIds) := by
    rw [funext (pointsIn_eq results roundIds)]
    exact wonBy_topScorers memberIds results _
  have hcounts := countsRounds_of memberIds results
  refine ⟨fun roundId => hperiod [roundId], hperiod, wonBy_topScorers memberIds results _,
    placedBy_rankGroups memberIds results _, hcounts, fun roundIds roundIds' hsame => ?_,
    fun memberIds' results' hmembers hresults => ?_⟩
  · exact congrArg topScorers (hcounts.same roundIds roundIds' hsame)
  · intro s'
    have htotals (figure : RoundScore → Int) : s'.totals figure = s.totals figure :=
      totals_of_perm figure hmembers hresults
    refine ⟨funext fun roundId => ?_, funext fun roundIds => ?_, ?_, ?_⟩
    · exact congrArg topScorers (htotals _)
    · exact congrArg topScorers (htotals _)
    · exact congrArg topScorers (htotals _)
    · exact congrArg rankGroups (htotals _)

/-- Two members lead with three points below zero; a guest's results do not count, nor does it
matter that a member is named twice and a round as well. -/
theorem losing_members_win :
    let results : List RoundScore :=
      [⟨7, 1, -5, 0⟩, ⟨3, 1, 2, 1⟩, ⟨9, 1, 8, 4⟩, ⟨3, 2, -5, 0⟩, ⟨7, 1, 2, 0⟩, ⟨5, 2, -4, 1⟩]
    let s := Standings.of [7, 3, 5, 7] results
    let s' := Standings.of [5, 7, 7, 3] results.reverse
    ([7, 3, 5, 7] : List Int).Perm [5, 7, 7, 3] ∧ results.Perm results.reverse ∧
      WonBy [7, 3, 5, 7] (pointsIn results [1, 2]) (s.periodWinners [1, 2]) ∧
      s.periodWinners [1, 2] = [3, 7] ∧ s'.periodWinners [2, 1, 2] = [3, 7] ∧
      s.overall = [⟨1, -3, [3, 7]⟩, ⟨3, -4, [5]⟩] ∧ s.mostExact = [3, 5] := by
  intro results s s'
  have hmembers : ([7, 3, 5, 7] : List Int).Perm [5, 7, 7, 3] := by decide
  have hresults : results.Perm results.reverse := (List.reverse_perm results).symm
  obtain ⟨-, hperiod, -, -, -, hrounds, hperm⟩ := standings_winners [7, 3, 5, 7] results
  obtain ⟨-, hsame, -, -⟩ := hperm [5, 7, 7, 3] results.reverse hmembers.symm hresults.symm
  have hwinners : s.periodWinners [1, 2] = [3, 7] := by decide
  refine ⟨hmembers, hresults, hperiod [1, 2], hwinners, ?_, by decide, by decide⟩
  have hagain := hrounds [1, 2] [2, 1, 2] (by simp [or_comm])
  exact (congrFun hsame [2, 1, 2]).trans (hagain.trans hwinners)

end Standings

end PredictionLeague
