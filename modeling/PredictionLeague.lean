import PredictionLeague.Fault
import PredictionLeague.Calendar
import PredictionLeague.Log
import PredictionLeague.Outcome
import PredictionLeague.Prize.Kind
import PredictionLeague.Decimal
import PredictionLeague.Decimal.Binary
import PredictionLeague.Decimal.Numeral
import PredictionLeague.Money
import PredictionLeague.Prize.Split
import PredictionLeague.Boost.Code
import PredictionLeague.Boost.Eligibility
import PredictionLeague.LogFormat
import PredictionLeague.LogSetup
import PredictionLeague.Ranking
import PredictionLeague.Standings
import PredictionLeague.Store
import PredictionLeague.Engine
import PredictionLeague.Points
import PredictionLeague.Stats
import PredictionLeague.Boost.Use
import PredictionLeague.Prize.Award
import PredictionLeague.Settlement
import PredictionLeague.Report
import PredictionLeague.Data
import PredictionLeague.Data.Json
import PredictionLeague.Store.Changes
import PredictionLeague.Api.Access
import PredictionLeague.Api.Address
import PredictionLeague.Api.Handler
import PredictionLeague.Api.WholeNumber
import PredictionLeague.Lookup
import PredictionLeague.Proofs.Engine
import PredictionLeague.Proofs.Store
import PredictionLeague.Proofs.Table
import PredictionLeague.Proofs.Points
import PredictionLeague.Proofs.Recompute
import PredictionLeague.Proofs.Prize.Split
import PredictionLeague.Proofs.Prize.Award
import PredictionLeague.Proofs.Standings
import PredictionLeague.Proofs.Invariant
import PredictionLeague.Proofs.Prize.Ledger
import PredictionLeague.Proofs.Ranking
import PredictionLeague.Proofs.Prize.Record
import PredictionLeague.Proofs.Settlement
import PredictionLeague.Proofs.Settled
import PredictionLeague.Proofs.Walk
import PredictionLeague.Proofs.Prize.Season
import PredictionLeague.Proofs.Recalculate
import PredictionLeague.Proofs.Figures
import PredictionLeague.Proofs.Scores
import PredictionLeague.Proofs.Progress
import PredictionLeague.Proofs.Results
import PredictionLeague.Proofs.Updates
import PredictionLeague.Proofs.Boost.Limits
import PredictionLeague.Proofs.Stages
import PredictionLeague.Proofs.LiveRanks
import PredictionLeague.Proofs.Faults
import PredictionLeague.Proofs.InPlay
import PredictionLeague.Proofs.StableFigures
import PredictionLeague.Proofs.Resettle
import PredictionLeague.Proofs.Calls
import PredictionLeague.Proofs.Coherence
import PredictionLeague.Proofs.Prize.Unit
import PredictionLeague.Proofs.FailFast
import PredictionLeague.Proofs.Snapshots
import PredictionLeague.Proofs.Recording
import PredictionLeague.Proofs.HalfWay
import PredictionLeague.Proofs.Repeat
import PredictionLeague.Proofs.Prize.Overall
import PredictionLeague.Proofs.Boost.Deadline
import PredictionLeague.Proofs.Boost.Shown
import PredictionLeague.Proofs.Prize.Kind
import PredictionLeague.Proofs.Prize.Months
import PredictionLeague.Proofs.Amounts
import PredictionLeague.Proofs.Report.Lines
import PredictionLeague.Proofs.Report.Promise
import PredictionLeague.Proofs.Report.Leaderboard
import PredictionLeague.Proofs.Report.Account
import PredictionLeague.Proofs.Report.Ledger
import PredictionLeague.Proofs.Api.Access
import PredictionLeague.Proofs.Apart
import PredictionLeague.Proofs.Lifecycle
import PredictionLeague.Proofs.Inserts
import PredictionLeague.Proofs.Strict
import PredictionLeague.Proofs.StableBase
import PredictionLeague.Proofs.Prize.Even
import PredictionLeague.Proofs.Prize.Payout
import PredictionLeague.Proofs.Boost.Decision
import PredictionLeague.Proofs.Competition
import PredictionLeague.Proofs.Winners
import PredictionLeague.Proofs.Overflow
import PredictionLeague.Proofs.LateJoiners
import PredictionLeague.Proofs.Boost.Windows
import PredictionLeague.Proofs.Boost.GiveBack
import PredictionLeague.Proofs.Calendar
import PredictionLeague.Proofs.Report.Months
