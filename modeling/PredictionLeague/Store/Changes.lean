import PredictionLeague.Store.Edit

/-!
# What changed between two stores

The tables that the engine writes are watched: for each one the fields that are shown and the
fields that tell rows apart. Between two stores a table has rows that are new or differ, and rows
that are gone. The winnings are made anew rather than changed, so they are shown as a whole.
-/

namespace PredictionLeague

/-- A table that is watched. -/
structure Watch where
  table : String
  key : List String
  fields : List String

/-- What changed in a table: the rows that are there now, or the differences by key. -/
inductive TableChange
  | whole (rows : List Record)
  | rows (set : List Record) (removed : List (List Cell))

namespace Watch

/-- The tables that are told apart by a key. -/
def keyed : List Watch :=
  [⟨"rounds", ["id"], ["id", "status", "completed_date_utc"]⟩,
    ⟨"matches", ["id"], ["id", "actual_home_score", "actual_away_score", "status"]⟩,
    ⟨"predictions", ["id"], ["id", "outcome", "updated_at"]⟩,
    ⟨"round_results", ["round_id", "user_id"],
      ["round_id", "user_id", "exact_score_count", "correct_result_count", "incorrect_count"]⟩,
    ⟨"league_round_results", ["league_id", "round_id", "user_id"],
      ["league_id", "round_id", "user_id", "base_points", "boosted_points", "has_boost",
        "applied_boost_code", "exact_score_count"]⟩,
    ⟨"league_member_stats", ["league_id", "user_id"],
      ["league_id", "user_id", "overall_rank", "month_rank", "live_round_rank",
        "live_round_points", "stable_round_rank", "stable_round_points",
        "snapshot_overall_rank", "snapshot_month_rank"]⟩,
    ⟨"user_boost_usages", ["user_id", "league_id", "round_id"],
      ["user_id", "league_id", "season_id", "round_id", "boost_code", "used_at_utc"]⟩]

/-- The table that is shown as a whole. -/
def winnings : Watch :=
  ⟨"winnings", [],
    ["user_id", "league_prize_setting_id", "amount", "round_number", "month",
      "awarded_date_utc"]⟩

/-- The given fields of a record. -/
def pick (names : List String) (r : Record) : Record := names.map fun n => (n, r.cell n)

/-- The rows of a watched table as they are shown. -/
def shown (w : Watch) (s : Store) : List Record :=
  match TableAccess.ofName? w.table with
  | none => []
  | some table => (table.records s).map (pick w.fields)

/-- The key of a shown row. -/
def keyOf (w : Watch) (r : Record) : List Cell := w.key.map r.cell

/-- The order of keys. -/
def keyBefore : List Cell → List Cell → Bool
  | .integer a :: as, .integer b :: bs => a < b || (a == b && keyBefore as bs)
  | _, _ => true

/-- What changed in a table that is told apart by a key, in key order. -/
def change? (w : Watch) (before after : Store) : Option TableChange :=
  let old := w.shown before
  let new := w.shown after
  let set := new.filter fun r => !old.contains r
  let removed := (old.map w.keyOf).filter fun k => !new.any fun r => w.keyOf r == k
  if set.isEmpty && removed.isEmpty then none
  else some (.rows (sorted (fun a b => keyBefore (w.keyOf a) (w.keyOf b)) set)
    (sorted keyBefore removed))

end Watch

/-- The watched tables that changed between two stores. -/
def Store.changes (before after : Store) : List (String × TableChange) :=
  let keyed := Watch.keyed.filterMap fun w => (w.change? before after).map (w.table, ·)
  let old := Watch.winnings.shown before
  let new := Watch.winnings.shown after
  if old = new then keyed else keyed ++ [(Watch.winnings.table, .whole new)]

end PredictionLeague
