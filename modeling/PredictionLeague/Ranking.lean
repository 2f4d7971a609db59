import PredictionLeague.Sorted

/-!
# Competition ranking

Players on the same score share a rank, and the next score down is ranked by how many players
are above it: scores 10, 10, 5 give ranks 1, 1, 3.

* `rankGroups`: the groups of equal score, highest first;
* `ranks`: each player with the rank of its group;
* `competitionRank`: the same rank by counting, one more than the number of greater scores.
-/

namespace PredictionLeague

/-- Players with their scores; a player occurs once. -/
abbrev Scores := List (Int × Int)

/-- The players who share a score, with their common rank. -/
structure RankGroup where
  rank : Nat
  score : Int
  userIds : List Int
  deriving DecidableEq

namespace Scores

/-- Scores from pairs in which a later pair replaces an earlier one of the same player. -/
def ofPairs (pairs : List (Int × Int)) : Scores :=
  pairs.foldl (fun scores p => scores.filter (·.1 != p.1) ++ [p]) []

/-- The different scores, highest first. -/
def levels (scores : Scores) : List Int :=
  (ascending (scores.map (·.2)).eraseDups).reverse

/-- The players on a score, ascending. -/
def holders (scores : Scores) (score : Int) : List Int :=
  ascending ((scores.filter (·.2 == score)).map (·.1))

end Scores

/-- The groups of the given scores, when `above` players are ranked before them. -/
def groupsFrom (scores : Scores) (above : Nat) : List Int → List RankGroup
  | [] => []
  | score :: rest =>
    let userIds := scores.holders score
    ⟨above + 1, score, userIds⟩ :: groupsFrom scores (above + userIds.length) rest

/-- The groups of equal score, highest first. -/
def rankGroups (scores : Scores) : List RankGroup := groupsFrom scores 0 scores.levels

/-- Each player with the rank of its group. -/
def ranks (scores : Scores) : List (Int × Nat) :=
  (rankGroups scores).flatMap fun group => group.userIds.map (·, group.rank)

/-- The rank of a player; a player without a score stands first. -/
def rankOf (scores : Scores) (userId : Int) : Nat :=
  ((ranks scores).lookup userId).getD 1

/-- The rank of a score by counting: one more than the number of greater scores. -/
def competitionRank (scores : Scores) (score : Int) : Nat :=
  1 + scores.countP fun p => score < p.2

end PredictionLeague
