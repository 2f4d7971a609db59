import PredictionLeague.Store.Record

/-!
# The tables as records

For each table its name, its columns with their defaults, its unique keys, and how its rows are
read from records and written to them.
-/

namespace PredictionLeague

/-- Rows that are kept in a table of the store and can be read from records. -/
class Stored (α : Type) extends Row α where
  table : String
  columns : List Column
  /-- The columns of each unique key. -/
  uniqueKeys : List (List String)
  /-- The values of each unique key. -/
  keysOf : α → List (List Cell)
  ofRecord : Record → Except Fault α
  toRecord : α → Record
  rows : Store → List α
  withRows : Store → List α → Store

namespace Schema

open Record (required integer? truth? text? word? date? pennies?)
open Cell (ofDate ofPennies ofOption)

/-- The address of a player who gives none. -/
def defaultEmail (r : Record) : Cell :=
  .text ("user" ++ (match r.cell "id" with
    | .integer n => toString n
    | _ => "None") ++ "@example.com")

instance : Stored User where
  table := "users"
  columns :=
    [.id, .supplied "email" .text defaultEmail, .required "first_name" .text,
      .defaulting "last_name" .text (.text "")]
  uniqueKeys := [["id"], ["email"]]
  keysOf u := [[.integer u.id], [.text u.email]]
  ofRecord r := do
    return ⟨← required integer? "users" r "id", ← required text? "users" r "email",
      ← required text? "users" r "first_name", ← required text? "users" r "last_name"⟩
  toRecord u :=
    [("id", .integer u.id), ("email", .text u.email), ("first_name", .text u.firstName),
      ("last_name", .text u.lastName)]
  rows := Store.users
  withRows s users := { s with users }

instance : Stored Season where
  table := "seasons"
  columns :=
    [.id, .optional "name" .text, .required "start_date_utc" .date,
      .required "end_date_utc" .date, .required "number_of_rounds" .integer]
  uniqueKeys := [["id"]]
  keysOf x := [[.integer x.id]]
  ofRecord r := do
    let id ← required integer? "seasons" r "id"
    return ⟨id, (text? (r.cell "name")).getD (Season.defaultName id),
      ← required date? "seasons" r "start_date_utc", ← required date? "seasons" r "end_date_utc",
      ← required integer? "seasons" r "number_of_rounds"⟩
  toRecord x :=
    [("id", .integer x.id), ("name", .text x.name), ("start_date_utc", ofDate x.start),
      ("end_date_utc", ofDate x.finish), ("number_of_rounds", .integer x.roundCount)]
  rows := Store.seasons
  withRows s seasons := { s with seasons }

instance : Stored Round where
  table := "rounds"
  columns :=
    [.id, .required "season_id" .integer, .required "round_number" .integer,
      .required "start_date_utc" .date, .required "deadline_utc" .date,
      .defaulting "status" (.word .roundStatus) (.text RoundStatus.draft.name),
      .optional "completed_date_utc" .date]
  uniqueKeys := [["id"], ["season_id", "round_number"]]
  keysOf x := [[.integer x.id], [.integer x.seasonId, .integer x.number]]
  ofRecord r := do
    return ⟨← required integer? "rounds" r "id", ← required integer? "rounds" r "season_id",
      ← required integer? "rounds" r "round_number", ← required date? "rounds" r "start_date_utc",
      ← required date? "rounds" r "deadline_utc",
      ← required (word? RoundStatus.ofName?) "rounds" r "status",
      date? (r.cell "completed_date_utc")⟩
  toRecord x :=
    [("id", .integer x.id), ("season_id", .integer x.seasonId),
      ("round_number", .integer x.number), ("start_date_utc", ofDate x.start),
      ("deadline_utc", ofDate x.deadline), ("status", .text x.status.name),
      ("completed_date_utc", ofOption ofDate x.completed)]
  rows := Store.rounds
  withRows s rounds := { s with rounds }

instance : Stored Match where
  table := "matches"
  columns :=
    [.id, .required "round_id" .integer, .optional "actual_home_score" .integer,
      .optional "actual_away_score" .integer,
      .defaulting "status" (.word .matchStatus) (.text MatchStatus.scheduled.name)]
  uniqueKeys := [["id"]]
  keysOf x := [[.integer x.id]]
  ofRecord r := do
    return ⟨← required integer? "matches" r "id", ← required integer? "matches" r "round_id",
      integer? (r.cell "actual_home_score"), integer? (r.cell "actual_away_score"),
      ← required (word? MatchStatus.ofName?) "matches" r "status"⟩
  toRecord x :=
    [("id", .integer x.id), ("round_id", .integer x.roundId),
      ("actual_home_score", ofOption .integer x.home),
      ("actual_away_score", ofOption .integer x.away), ("status", .text x.status.name)]
  rows := Store.fixtures
  withRows s fixtures := { s with fixtures }

instance : Stored Prediction where
  table := "predictions"
  columns :=
    [.id, .required "user_id" .integer, .required "match_id" .integer,
      .required "predicted_home_score" .integer, .required "predicted_away_score" .integer,
      .defaulting "outcome" (.word .outcome) (.text Outcome.pending.name),
      .stamped "updated_at"]
  uniqueKeys := [["id"], ["user_id", "match_id"]]
  keysOf x := [[.integer x.id], [.integer x.userId, .integer x.matchId]]
  ofRecord r := do
    return ⟨← required integer? "predictions" r "id",
      ← required integer? "predictions" r "user_id",
      ← required integer? "predictions" r "match_id",
      ← required integer? "predictions" r "predicted_home_score",
      ← required integer? "predictions" r "predicted_away_score",
      ← required (word? Outcome.ofName?) "predictions" r "outcome",
      ← required date? "predictions" r "updated_at"⟩
  toRecord x :=
    [("id", .integer x.id), ("user_id", .integer x.userId), ("match_id", .integer x.matchId),
      ("predicted_home_score", .integer x.home), ("predicted_away_score", .integer x.away),
      ("outcome", .text x.outcome.name), ("updated_at", ofDate x.updated)]
  rows := Store.predictions
  withRows s predictions := { s with predictions }

instance : Stored League where
  table := "leagues"
  columns :=
    [.id, .required "season_id" .integer,
      .supplied "entry_deadline_utc" .date fun _ => .ofDate .newYear2025,
      .defaulting "points_for_exact_score" .integer (.integer 5),
      .defaulting "points_for_correct_result" .integer (.integer 3),
      .defaulting "price" .money (.text "0")]
  uniqueKeys := [["id"]]
  keysOf x := [[.integer x.id]]
  ofRecord r := do
    return ⟨← required integer? "leagues" r "id", ← required integer? "leagues" r "season_id",
      ← required date? "leagues" r "entry_deadline_utc",
      ← required integer? "leagues" r "points_for_exact_score",
      ← required integer? "leagues" r "points_for_correct_result",
      ← required pennies? "leagues" r "price"⟩
  toRecord x :=
    [("id", .integer x.id), ("season_id", .integer x.seasonId),
      ("entry_deadline_utc", ofDate x.entryDeadline),
      ("points_for_exact_score", .integer x.exactWeight),
      ("points_for_correct_result", .integer x.resultWeight), ("price", ofPennies x.price)]
  rows := Store.leagues
  withRows s leagues := { s with leagues }

instance : Stored Membership where
  table := "league_members"
  columns :=
    [.id, .required "league_id" .integer, .required "user_id" .integer,
      .defaulting "status" (.word .membershipStatus) (.text MembershipStatus.pending.name)]
  uniqueKeys := [["id"], ["league_id", "user_id"]]
  keysOf x := [[.integer x.id], [.integer x.leagueId, .integer x.userId]]
  ofRecord r := do
    return ⟨← required integer? "league_members" r "id",
      ← required integer? "league_members" r "league_id",
      ← required integer? "league_members" r "user_id",
      ← required (word? MembershipStatus.ofName?) "league_members" r "status"⟩
  toRecord x :=
    [("id", .integer x.id), ("league_id", .integer x.leagueId), ("user_id", .integer x.userId),
      ("status", .text x.status.name)]
  rows := Store.members
  withRows s members := { s with members }

instance : Stored PrizeSetting where
  table := "league_prize_settings"
  columns :=
    [.id, .required "league_id" .integer, .required "prize_type" (.word .prizeKind),
      .defaulting "rank" .integer (.integer 1), .required "prize_amount" .money,
      .optional "description" .text]
  uniqueKeys := [["id"], ["league_id", "prize_type", "rank"]]
  keysOf x := [[.integer x.id], [.integer x.leagueId, .text x.kind.name, .integer x.rank]]
  ofRecord r := do
    return ⟨← required integer? "league_prize_settings" r "id",
      ← required integer? "league_prize_settings" r "league_id",
      ← required (word? PrizeKind.ofName?) "league_prize_settings" r "prize_type",
      ← required integer? "league_prize_settings" r "rank",
      ← required pennies? "league_prize_settings" r "prize_amount",
      text? (r.cell "description")⟩
  toRecord x :=
    [("id", .integer x.id), ("league_id", .integer x.leagueId), ("prize_type", .text x.kind.name),
      ("rank", .integer x.rank), ("prize_amount", ofPennies x.amount),
      ("description", ofOption .text x.description)]
  rows := Store.prizeSettings
  withRows s prizeSettings := { s with prizeSettings }

instance : Stored RoundResult where
  table := "round_results"
  columns :=
    [.id, .required "round_id" .integer, .required "user_id" .integer,
      .defaulting "exact_score_count" .integer (.integer 0),
      .defaulting "correct_result_count" .integer (.integer 0),
      .defaulting "incorrect_count" .integer (.integer 0)]
  uniqueKeys := [["id"], ["round_id", "user_id"]]
  keysOf x := [[.integer x.id], [.integer x.roundId, .integer x.userId]]
  ofRecord r := do
    return ⟨← required integer? "round_results" r "id",
      ← required integer? "round_results" r "round_id",
      ← required integer? "round_results" r "user_id",
      ← required integer? "round_results" r "exact_score_count",
      ← required integer? "round_results" r "correct_result_count",
      ← required integer? "round_results" r "incorrect_count"⟩
  toRecord x :=
    [("id", .integer x.id), ("round_id", .integer x.roundId), ("user_id", .integer x.userId),
      ("exact_score_count", .integer x.exact), ("correct_result_count", .integer x.correct),
      ("incorrect_count", .integer x.incorrect)]
  rows := Store.roundResults
  withRows s roundResults := { s with roundResults }

instance : Stored LeagueResult where
  table := "league_round_results"
  columns :=
    [.id, .required "league_id" .integer, .required "round_id" .integer,
      .required "user_id" .integer, .defaulting "base_points" .integer (.integer 0),
      .defaulting "boosted_points" .integer (.integer 0),
      .defaulting "has_boost" .truth (.truth false), .optional "applied_boost_code" .text,
      .defaulting "exact_score_count" .integer (.integer 0)]
  uniqueKeys := [["id"], ["league_id", "round_id", "user_id"]]
  keysOf x := [[.integer x.id], [.integer x.leagueId, .integer x.roundId, .integer x.userId]]
  ofRecord r := do
    return ⟨← required integer? "league_round_results" r "id",
      ← required integer? "league_round_results" r "league_id",
      ← required integer? "league_round_results" r "round_id",
      ← required integer? "league_round_results" r "user_id",
      ← required integer? "league_round_results" r "base_points",
      ← required integer? "league_round_results" r "boosted_points",
      ← required truth? "league_round_results" r "has_boost",
      text? (r.cell "applied_boost_code"),
      ← required integer? "league_round_results" r "exact_score_count"⟩
  toRecord x :=
    [("id", .integer x.id), ("league_id", .integer x.leagueId), ("round_id", .integer x.roundId),
      ("user_id", .integer x.userId), ("base_points", .integer x.basePoints),
      ("boosted_points", .integer x.boostedPoints), ("has_boost", .truth x.hasBoost),
      ("applied_boost_code", ofOption .text x.boostCode),
      ("exact_score_count", .integer x.exactScores)]
  rows := Store.leagueResults
  withRows s leagueResults := { s with leagueResults }

instance : Stored BoostRule where
  table := "league_boost_rules"
  columns :=
    [.id, .required "league_id" .integer, .required "boost_code" .text,
      .defaulting "is_enabled" .truth (.truth true),
      .defaulting "total_uses_per_season" .integer (.integer 0)]
  uniqueKeys := [["id"], ["league_id", "boost_code"]]
  keysOf x := [[.integer x.id], [.integer x.leagueId, .text x.boostCode]]
  ofRecord r := do
    return ⟨← required integer? "league_boost_rules" r "id",
      ← required integer? "league_boost_rules" r "league_id",
      ← required text? "league_boost_rules" r "boost_code",
      ← required truth? "league_boost_rules" r "is_enabled",
      ← required integer? "league_boost_rules" r "total_uses_per_season"⟩
  toRecord x :=
    [("id", .integer x.id), ("league_id", .integer x.leagueId), ("boost_code", .text x.boostCode),
      ("is_enabled", .truth x.enabled), ("total_uses_per_season", .integer x.seasonLimit)]
  rows := Store.boostRules
  withRows s boostRules := { s with boostRules }

instance : Stored BoostWindow where
  table := "league_boost_windows"
  columns :=
    [.id, .required "league_boost_rule_id" .integer, .required "start_round_number" .integer,
      .required "end_round_number" .integer,
      .defaulting "max_uses_in_window" .integer (.integer 0)]
  uniqueKeys := [["id"]]
  keysOf x := [[.integer x.id]]
  ofRecord r := do
    return ⟨← required integer? "league_boost_windows" r "id",
      ← required integer? "league_boost_windows" r "league_boost_rule_id",
      ← required integer? "league_boost_windows" r "start_round_number",
      ← required integer? "league_boost_windows" r "end_round_number",
      ← required integer? "league_boost_windows" r "max_uses_in_window"⟩
  toRecord x :=
    [("id", .integer x.id), ("league_boost_rule_id", .integer x.ruleId),
      ("start_round_number", .integer x.first), ("end_round_number", .integer x.last),
      ("max_uses_in_window", .integer x.limit)]
  rows := Store.boostWindows
  withRows s boostWindows := { s with boostWindows }

instance : Stored BoostUsage where
  table := "user_boost_usages"
  columns :=
    [.id, .required "user_id" .integer, .required "league_id" .integer,
      .required "season_id" .integer, .required "round_id" .integer,
      .required "boost_code" .text, .stamped "used_at_utc"]
  uniqueKeys := [["id"], ["user_id", "league_id", "round_id"]]
  keysOf x := [[.integer x.id], [.integer x.userId, .integer x.leagueId, .integer x.roundId]]
  ofRecord r := do
    return ⟨← required integer? "user_boost_usages" r "id",
      ← required integer? "user_boost_usages" r "user_id",
      ← required integer? "user_boost_usages" r "league_id",
      ← required integer? "user_boost_usages" r "season_id",
      ← required integer? "user_boost_usages" r "round_id",
      ← required text? "user_boost_usages" r "boost_code",
      ← required date? "user_boost_usages" r "used_at_utc"⟩
  toRecord x :=
    [("id", .integer x.id), ("user_id", .integer x.userId), ("league_id", .integer x.leagueId),
      ("season_id", .integer x.seasonId), ("round_id", .integer x.roundId),
      ("boost_code", .text x.boostCode), ("used_at_utc", ofDate x.usedAt)]
  rows := Store.boostUsages
  withRows s boostUsages := { s with boostUsages }

instance : Stored MemberStats where
  table := "league_member_stats"
  columns :=
    [.id, .required "league_id" .integer, .required "user_id" .integer,
      .defaulting "overall_rank" .integer (.integer 1),
      .defaulting "month_rank" .integer (.integer 1),
      .defaulting "live_round_rank" .integer (.integer 1),
      .defaulting "live_round_points" .integer (.integer 0),
      .defaulting "stable_round_rank" .integer (.integer 1),
      .defaulting "stable_round_points" .integer (.integer 0),
      .optional "snapshot_overall_rank" .integer, .optional "snapshot_month_rank" .integer]
  uniqueKeys := [["id"], ["league_id", "user_id"]]
  keysOf x := [[.integer x.id], [.integer x.leagueId, .integer x.userId]]
  ofRecord r := do
    return ⟨← required integer? "league_member_stats" r "id",
      ← required integer? "league_member_stats" r "league_id",
      ← required integer? "league_member_stats" r "user_id",
      ← required integer? "league_member_stats" r "overall_rank",
      ← required integer? "league_member_stats" r "month_rank",
      ← required integer? "league_member_stats" r "live_round_rank",
      ← required integer? "league_member_stats" r "live_round_points",
      ← required integer? "league_member_stats" r "stable_round_rank",
      ← required integer? "league_member_stats" r "stable_round_points",
      integer? (r.cell "snapshot_overall_rank"), integer? (r.cell "snapshot_month_rank")⟩
  toRecord x :=
    [("id", .integer x.id), ("league_id", .integer x.leagueId), ("user_id", .integer x.userId),
      ("overall_rank", .integer x.overallRank), ("month_rank", .integer x.monthRank),
      ("live_round_rank", .integer x.liveRank), ("live_round_points", .integer x.livePoints),
      ("stable_round_rank", .integer x.stableRank),
      ("stable_round_points", .integer x.stablePoints),
      ("snapshot_overall_rank", ofOption .integer x.snapshotOverallRank),
      ("snapshot_month_rank", ofOption .integer x.snapshotMonthRank)]
  rows := Store.stats
  withRows s stats := { s with stats }

instance : Stored Winning where
  table := "winnings"
  columns :=
    [.id, .required "user_id" .integer, .required "league_prize_setting_id" .integer,
      .required "amount" .money, .optional "round_number" .integer, .optional "month" .integer,
      .stamped "awarded_date_utc"]
  uniqueKeys := [["id"]]
  keysOf x := [[.integer x.id]]
  ofRecord r := do
    return ⟨← required integer? "winnings" r "id", ← required integer? "winnings" r "user_id",
      ← required integer? "winnings" r "league_prize_setting_id",
      ← required pennies? "winnings" r "amount", integer? (r.cell "round_number"),
      integer? (r.cell "month"), ← required date? "winnings" r "awarded_date_utc"⟩
  toRecord x :=
    [("id", .integer x.id), ("user_id", .integer x.userId),
      ("league_prize_setting_id", .integer x.settingId), ("amount", ofPennies x.amount),
      ("round_number", ofOption .integer x.roundNumber), ("month", ofOption .integer x.month),
      ("awarded_date_utc", ofDate x.awarded)]
  rows := Store.winnings
  withRows s winnings := { s with winnings }

end Schema

end PredictionLeague
