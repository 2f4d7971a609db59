import PredictionLeague.Proofs.Calls
import PredictionLeague.Proofs.Inserts

/-!
# Keys that are never taken twice

Round results, league results, stats and uses of boosts are made when they are missing, each under
a key of its own. Here the engine is run once more over tables that refuse: every new row is put in
by itself, and a key that is taken stops the call. It never stops for that, so what the engine looks
up before it makes a row is always the row that stands in the way.

* `Store.scoreTargets`, `Keyed.counted`, `Keyed.scored`: points made anew keep keys different;
* `Keyed.effect_writeCounts`, `Keyed.effect_writePoints`, `Keyed.effect_writeStats`,
  `Keyed.effect_writeUse`: the writes that make rows are not refused;
* `Strict`: the parts of the engine that make rows, over tables that refuse;
* `Call.strict`, `Call.effect_strict`: a call over tables that refuse does the same;
* `Boost.applyBoost_decides`: the use of a boost ends with what was decided, never with a taken key;
* `keys_never_taken`: the keys along every run of calls.
-/

namespace PredictionLeague

open Engine Store

/-! ### The same effect -/

namespace Engine

variable {α β : Type} {s : Store}

/-- Actions that do the same and then go on the same way. -/
theorem effect_bind_congr {x y : Engine α} {f g : α → Engine β} [∀ a, Quiet (f a)]
    [∀ a, Quiet (g a)] (hx : x.effect s = y.effect s)
    (h : ∀ a t, y.Returns s a t → (f a).effect t = (g a).effect t) :
    (x >>= f).effect s = (y >>= g).effect s := by
  rw [effect_bind, effect_bind, hx]
  rcases hy : y.effect s with ⟨fault | a, t⟩
  · rfl
  · exact h a t hy

theorem effect_atomically_congr {x y : Engine α} [Quiet x] [Quiet y]
    (h : x.effect s = y.effect s) : (atomically x).effect s = (atomically y).effect s := by
  rw [effect_atomically, effect_atomically, h]

/-- Loops whose steps do the same on stores with a property that is kept. -/
theorem effect_forM_congr {P : Store → Prop} {f g : α → Engine Unit} [∀ a, Quiet (f a)]
    [∀ a, Quiet (g a)] (hsame : ∀ a t, P t → (f a).effect t = (g a).effect t)
    (hkeeps : ∀ a, Keeps P (g a)) (as : List α) (hs : P s) :
    (as.forM f).effect s = (as.forM g).effect s := by
  induction as generalizing s with
  | nil => rfl
  | cons a as ih =>
    refine effect_bind_congr (hsame a s hs) fun _ t ht => ih ?_
    rw [← ht.storeAfter]
    exact (hkeeps a).storeAfter hs

theorem returns_getRound {id : Int} {round : Round} {t : Store} :
    (getRound id).Returns s round t ↔ (fits id = true ∧ s.round? id = some round) ∧ t = s := by
  rw [Returns, effect_getRound, Prod.mk.injEq, found_eq_ok, eq_comm (a := s)]

theorem returns_checkAll {numbers : List Int} {u : Unit} {t : Store} :
    (checkAll numbers).Returns s u t ↔ numbers.all fits = true ∧ t = s := by
  rw [Returns, effect_checkAll, Prod.mk.injEq, checked_eq_ok, eq_comm (a := s)]

end Engine

/-! ### Tables and their keys -/

theorem knownBy_roundResult : Stored.KnownBy RoundResult.key where
  shared a b h := by
    simpa [Stored.Clash, Stored.keysOf, RoundResult.key, Row.id] using h
  holds _ _ := rfl

theorem knownBy_leagueResult : Stored.KnownBy LeagueResult.key where
  shared a b h := by
    simpa [Stored.Clash, Stored.keysOf, LeagueResult.key, Row.id, and_assoc] using h
  holds _ _ := rfl

theorem knownBy_boostUsage :
    Stored.KnownBy fun u : BoostUsage => (u.userId, u.leagueId, u.roundId) where
  shared a b h := by
    simpa [Stored.Clash, Stored.keysOf, Row.id] using h
  holds _ _ := rfl

theorem knownBy_memberStats : Stored.KnownBy MemberStats.key where
  shared a b h := by
    simpa [Stored.Clash, Stored.keysOf, MemberStats.key, Row.id] using h
  holds _ _ := rfl

namespace Store

variable {s : Store}

/-! ### Writes that make rows -/

/-- The league results to make by the counts that are there, member by member. -/
def scoreTargets (s : Store) (roundId : Int) (league : League) :
    List (Int × (Int → LeagueResult)) :=
  Table.targetsOf (s.approvedMembers league.id) fun userId =>
    (s.roundResult? roundId userId).map league.result

theorem roundResult?_keys {roundId userId : Int} {counts : RoundResult}
    (h : s.roundResult? roundId userId = some counts) :
    counts.roundId = roundId ∧ counts.userId = userId := by
  simpa using List.find?_some h

theorem scored_eq (s : Store) (roundId : Int) (league : League) : s.scored roundId league =
    { s with
      leagueResults := Table.rebuild s.leagueResults (resultOf league roundId) (·.userId)
        (s.scoreTargets roundId league) } := by
  have htargets : ((s.memberCounts league roundId).map fun counts =>
      (counts.userId, league.result counts)) = s.scoreTargets roundId league := by
    rw [memberCounts, List.map_filterMap, scoreTargets, Table.targetsOf]
    refine List.filterMap_congr fun userId _ => ?_
    cases hcounts : s.roundResult? roundId userId with
    | none => rfl
    | some counts =>
      rw [Option.map_some, Option.map_some, Option.map_some, (roundResult?_keys hcounts).2]
  rw [scored, htargets]
  rfl

theorem Keyed.targets_scoreTargets (hs : s.Keyed) (roundId : Int) (league : League) :
    Table.Targets (resultOf league roundId) LeagueResult.userId (s.scoreTargets roundId league) :=
  Table.Targets.of (hs.approvedMembers_nodup _) fun _ _ hmake id => by
    obtain ⟨counts, hcounts, rfl⟩ := Option.map_eq_some_iff.1 hmake
    obtain ⟨hround, huser⟩ := roundResult?_keys hcounts
    refine ⟨?_, huser⟩
    simp [resultOf, League.result, hround]

theorem Keyed.counted (hs : s.Keyed) (roundId : Int) : (s.counted roundId).Keyed := by
  rw [hs.counted_eq]
  refine { hs with roundResults := ?_ }
  exact Table.nodup_rebuild RoundResult.key roundId (fun _ => rfl) (fun _ => rfl)
    (s.targets_countTargets roundId) hs.roundResults

theorem Keyed.scored (hs : s.Keyed) (roundId : Int) (league : League) :
    (s.scored roundId league).Keyed := by
  rw [scored_eq]
  refine { hs with leagueResults := ?_ }
  exact Table.nodup_rebuild LeagueResult.key (league.id, roundId)
    (fun r => resultOf_eq league roundId r) (fun _ => rfl)
    (hs.targets_scoreTargets roundId league) hs.leagueResults

/-- The round results that are made are not refused. -/
theorem Keyed.effect_writeCounts (hs : s.Keyed) (roundId : Int) :
    (write (s.counted roundId).roundResults).effect s = (.ok (), s.counted roundId) := by
  have htargets := s.targets_countTargets roundId
  have hmake : ∀ t ∈ s.countTargets roundId, ∀ id, Row.id (t.2 id) = id := by
    intro t ht id
    exact (wantedCounts_keys (Table.wanted_of_mem ht) id).1
  rw [hs.counted_eq]
  exact effect_write knownBy_roundResult (Table.added_rebuild hmake htargets)
    (Table.newer_missing hmake s.roundResults)
    (Table.nodup_grown roundId (fun _ => rfl) (fun _ => rfl) htargets hs.roundResults)

/-- Nor are the league results. -/
theorem Keyed.effect_writePoints (hs : s.Keyed) (roundId : Int) (league : League) :
    (write (s.scored roundId league).leagueResults).effect s =
      (.ok (), s.scored roundId league) := by
  have htargets := hs.targets_scoreTargets roundId league
  have hmake : ∀ t ∈ s.scoreTargets roundId league, ∀ id, Row.id (t.2 id) = id := by
    intro t ht id
    obtain ⟨counts, -, hcounts⟩ := Option.map_eq_some_iff.1 (Table.wanted_of_mem ht)
    rw [← hcounts]
    rfl
  rw [scored_eq]
  exact effect_write knownBy_leagueResult (Table.added_rebuild hmake htargets)
    (Table.newer_missing hmake s.leagueResults)
    (Table.nodup_grown (league.id, roundId) (fun r => resultOf_eq league roundId r)
      (fun _ => rfl) htargets hs.leagueResults)

/-- Nor are the stats of members that have none. -/
theorem Keyed.effect_writeStats (hs : s.Keyed) (leagueId : Int) {g : MemberStats → MemberStats}
    (hkey : ∀ r, (g r).key = r.key) (hid : ∀ r, (g r).id = r.id) :
    (write (s.changeStats leagueId g).stats).effect s = (.ok (), s.changeStats leagueId g) := by
  have htargets : Table.Targets (·.leagueId == leagueId) MemberStats.userId
      ((s.approvedMembers leagueId).map fun k => (k, MemberStats.fresh leagueId k)) :=
    Table.targets_ensure (hs.approvedMembers_nodup leagueId) (fresh_stats leagueId)
  have hmake : ∀ t ∈ (s.approvedMembers leagueId).map fun k => (k, MemberStats.fresh leagueId k),
      ∀ id, Row.id (t.2 id) = id := by
    intro t ht id
    obtain ⟨k, -, rfl⟩ := List.mem_map.1 ht
    rfl
  have hkeys : MemberStats.key ∘ g = MemberStats.key := funext hkey
  refine effect_write knownBy_memberStats (Table.added_map_ensure (fun _ _ => rfl) hid)
    ((Table.newer_missing hmake s.stats).map hid) ?_
  -- A row that is changed keeps its key.
  rw [List.map_append, List.map_map, hkeys, ← List.map_append]
  exact Table.nodup_grown leagueId (fun _ => rfl) (fun _ => rfl) htargets hs.stats

/-- Nor is the use of a boost in a round without one. -/
theorem Keyed.effect_writeUse (hs : s.Keyed) {userId leagueId : Int} {round : Round}
    (hnone : s.useInRound? userId leagueId round.id = none) (code : String) (now : DateTime) :
    (write (s.withUse userId leagueId round code now).boostUsages).effect s =
      (.ok (), s.withUse userId leagueId round code now) := by
  have hnewer : Table.Newer s.boostUsages [s.newUse userId leagueId round code now] :=
    Table.newer_next (fun id =>
      (⟨id, userId, leagueId, round.seasonId, round.id, code, now⟩ : BoostUsage))
      (fun _ => rfl) s.boostUsages
  refine effect_write knownBy_boostUsage ?_ hnewer (hs.withUse hnone code now).boostUsages
  exact Table.added_append (fun row hrow => List.mem_map_of_mem hrow) hnewer

end Store

/-! ### The engine over tables that refuse -/

namespace Strict

/-- Count the verdicts of a round. -/
def updateRoundResults (roundId : Int) : Engine Nat := do
  let _ ← getRound roundId
  let s ← current
  write (s.counted roundId).roundResults
  return (s.tallies roundId).length

/-- Make the league results of one league in a round anew. -/
def scoreLeague (roundId : Int) (league : League) : Engine Unit := do
  let s ← current
  checkAll ((s.memberCounts league roundId).map league.basePoints)
  write (s.scored roundId league).leagueResults

/-- Turn the counts of a round into points in every league of its season. -/
def updateLeagueResults (roundId : Int) : Engine Nat := do
  let round ← getRound roundId
  let leagues := (← current).leaguesOf round.seasonId
  atomically (leagues.forM (scoreLeague roundId))
  return leagues.length

/-- Count, weigh and boost the points of a round as one unit. -/
def recomputePoints (roundId : Int) : Engine Unit :=
  atomically do
    let _ ← updateRoundResults roundId
    let _ ← updateLeagueResults roundId
    let _ ← applyRoundBoosts roundId

/-- Update the stats of one league after the other. -/
def updateStats (update : Store → League → Store) (leagues : List League) : Engine Unit :=
  leagues.forM fun league => do
    let s ← current
    write (update s league).stats

/-- Freeze the ranks of all members of the leagues of a round. -/
def takeSnapshots (roundId : Int) : Engine Nat := do
  let round ← getRound roundId
  let leagues := (← current).leaguesOf round.seasonId
  updateStats snapshotLeague leagues
  return leagues.length

/-- Rank the members of the leagues of a round by their present points. -/
def updateLiveStats (roundId : Int) : Engine Nat := do
  let round ← getRound roundId
  let leagues := (← current).leaguesOf round.seasonId
  updateStats (fun s league => s.liveLeague round league) leagues
  return leagues.length

/-- Rank the members of the leagues of a round by its completed matches. -/
def updateStableStats (roundId : Int) : Engine Nat := do
  let round ← getRound roundId
  let s ← current
  let leagues := s.leaguesOf round.seasonId
  checkAll (leagues.flatMap fun league => (s.stableScores league roundId).map (·.2))
  updateStats (fun s league => s.stableLeague roundId league) leagues
  return leagues.length

/-- Settle a completed round. -/
def settleRound (roundId : Int) (now : DateTime) : Engine Nat := do
  let round ← getRound roundId
  if round.status ≠ .completed then
    throw (.roundNotCompleted roundId round.number round.status)
  recomputePoints roundId
  settlePrizes round now

/-- Settle a round of a season walk. -/
def settleStep (now : DateTime) (round : Round) : Engine Unit :=
  tryCatch (do let _ ← settleRound round.id now) fun fault =>
    throw (.settlement round.id round.number fault.message)

/-- Settle the completed rounds of a season. -/
def recalculateSeason (seasonId : Int) (now : DateTime) : Engine Nat := do
  let _ ← getSeason seasonId
  let rounds := (← current).completedRounds seasonId
  rounds.forM (settleStep now)
  return rounds.length

/-- Start a published round. -/
def startRound (round : Round) (now : DateTime) : Engine Unit := do
  put ((← current).withRoundStatus round .inProgress now)
  let _ ← takeSnapshots round.id

/-- What follows once the points are made anew. -/
def showScores (roundId : Int) (recording : Recording) (now : DateTime) : Engine Nat := do
  if recording.newlyCompleted then
    let _ ← updateStableStats roundId
  let _ ← updateLiveStats roundId
  completeRound roundId now
  return recording.updated.length

/-- What follows once the scores are recorded and the predictions judged. -/
def settleScores (roundId : Int) (recording : Recording) (now : DateTime) : Engine Nat := do
  recomputePoints roundId
  showScores roundId recording now

/-- What follows once the scores are recorded. -/
def carryScores (round : Round) (recording : Recording) (roundId : Int) (now : DateTime) :
    Engine Nat := do
  if round.status = .published ∧ recording.anyStarted then startRound round now
  rescoreMatches recording.updated now
  settleScores roundId recording now

/-- Record scores of the matches of a round and carry them through. -/
def updateMatchResults (roundId : Int) (scores : List MatchScore) (now : DateTime) :
    Engine Nat := do
  let round ← getRound roundId
  let s ← current
  let recording ← recordScores roundId scores (.start (s.fixturesOf roundId))
  if recording.updated.isEmpty then return 0
  checkAll recording.numbers
  put (s.withRecording recording)
  carryScores round recording roundId now

/-- Use a boost if that is allowed; the use is put in without another look. -/
def applyBoost (userId leagueId roundId : Int) (code : String) (now : DateTime) :
    Engine Boost.Eligibility := do
  let eligibility ← Boost.boostEligibility userId leagueId roundId code now
  if !eligibility.canUse then return eligibility
  let round ← getRound roundId
  let s ← current
  write (s.withUse userId leagueId round code now).boostUsages
  return eligibility

/-! ### They do the same -/

section Quiet

variable (roundId : Int) (round : Round) (recording : Recording) (now : DateTime)

instance : Quiet (updateRoundResults roundId) := by
  unfold updateRoundResults
  infer_instance

instance (league : League) : Quiet (scoreLeague roundId league) := by
  unfold scoreLeague
  infer_instance

instance : Quiet (updateLeagueResults roundId) := by
  unfold updateLeagueResults
  infer_instance

instance : Quiet (recomputePoints roundId) := by
  unfold recomputePoints
  infer_instance

instance (update : Store → League → Store) (leagues : List League) :
    Quiet (updateStats update leagues) := by
  unfold updateStats
  infer_instance

instance : Quiet (takeSnapshots roundId) := by
  unfold takeSnapshots
  infer_instance

instance : Quiet (updateLiveStats roundId) := by
  unfold updateLiveStats
  infer_instance

instance : Quiet (updateStableStats roundId) := by
  unfold updateStableStats
  infer_instance

instance : Quiet (settleRound roundId now) := by
  unfold settleRound
  infer_instance

instance : Quiet (settleStep now round) := by
  unfold settleStep
  infer_instance

instance : Quiet (startRound round now) := by
  unfold startRound
  infer_instance

instance : Quiet (showScores roundId recording now) := by
  have hlive : Quiet (do
      let _ ← updateLiveStats roundId
      completeRound roundId now
      return recording.updated.length) := inferInstance
  show Quiet (ite _ _ _)
  split
  · exact quiet_bind inferInstance fun _ => hlive
  · exact hlive

instance : Quiet (settleScores roundId recording now) := by
  unfold settleScores
  infer_instance

instance : Quiet (carryScores round recording roundId now) := by
  have hscores : Quiet (do
      rescoreMatches recording.updated now
      settleScores roundId recording now) := inferInstance
  show Quiet (ite _ _ _)
  split
  · exact quiet_bind inferInstance fun _ => hscores
  · exact hscores

end Quiet

section Effect

variable {s : Store} (hs : s.Keyed) (roundId : Int) {round : Round} {recording : Recording}
  (now : DateTime)

include hs

theorem effect_updateRoundResults : (updateRoundResults roundId).effect s =
    (PredictionLeague.updateRoundResults roundId).effect s := by
  unfold updateRoundResults
  rw [PredictionLeague.effect_updateRoundResults, effect_bind, effect_getRound]
  cases found "Round" (s.round? roundId) roundId with
  | error fault => rfl
  | ok round =>
    simp only [effect_bind, effect_current, hs.effect_writeCounts roundId, effect_pure]

theorem effect_scoreLeague (league : League) : (scoreLeague roundId league).effect s =
    (PredictionLeague.scoreLeague roundId league).effect s := by
  unfold scoreLeague
  rw [PredictionLeague.effect_scoreLeague, baseFits, effect_bind, effect_current]
  simp only
  rw [effect_bind, effect_checkAll]
  cases checked (((s.memberCounts league roundId).map league.basePoints).all fits) with
  | error fault => rfl
  | ok _ => exact hs.effect_writePoints roundId league

theorem effect_updateLeagueResults : (updateLeagueResults roundId).effect s =
    (PredictionLeague.updateLeagueResults roundId).effect s := by
  have hkeeps (league : League) : Keeps Keyed (PredictionLeague.scoreLeague roundId league) := by
    refine keeps_of_effect fun t ht => ?_
    rw [PredictionLeague.effect_scoreLeague]
    split
    · exact ht.scored roundId league
    · exact ht
  unfold updateLeagueResults PredictionLeague.updateLeagueResults
  refine effect_bind_congr rfl fun round t hround => ?_
  obtain ⟨-, rfl⟩ := returns_getRound.1 hround
  have hscored : ((t.leaguesOf round.seasonId).forM (scoreLeague roundId)).effect t =
      ((t.leaguesOf round.seasonId).forM (PredictionLeague.scoreLeague roundId)).effect t :=
    effect_forM_congr (fun league _ hu => effect_scoreLeague hu roundId league) hkeeps _ hs
  rw [effect_bind, effect_bind, effect_current]
  exact effect_bind_congr (effect_atomically_congr hscored) fun _ _ _ => rfl

theorem effect_recomputePoints : (recomputePoints roundId).effect s =
    (PredictionLeague.recomputePoints roundId).effect s := by
  refine effect_atomically_congr ?_
  refine effect_bind_congr (effect_updateRoundResults hs roundId) fun _ t ht => ?_
  have hcounted : t.Keyed := by
    rw [Returns, PredictionLeague.effect_updateRoundResults] at ht
    split at ht
    · obtain ⟨-, rfl⟩ := Prod.mk.inj ht
      exact hs.counted roundId
    · simp at ht
  exact effect_bind_congr (effect_updateLeagueResults hcounted roundId) fun _ _ _ => rfl

/-- Stats that are updated league by league. -/
theorem effect_updateStats {update : Store → League → Store}
    {g : Store → League → MemberStats → MemberStats}
    (hupdate : ∀ s league, update s league = s.changeStats league.id (g s league))
    (hkey : ∀ s league r, (g s league r).key = r.key)
    (hid : ∀ s league r, (g s league r).id = r.id) (leagues : List League) :
    (updateStats update leagues).effect s = (.ok (), leagues.foldl update s) := by
  induction leagues generalizing s with
  | nil => rfl
  | cons league leagues ih =>
    have hstep : (write (update s league).stats).effect s = (.ok (), update s league) := by
      rw [hupdate]
      exact hs.effect_writeStats league.id (hkey s league) (hid s league)
    have hkeyed : (update s league).Keyed := by
      rw [hupdate]
      exact hs.changeStats (hkey s league)
    unfold updateStats at ih ⊢
    rw [effect_forM_cons, effect_bind, effect_current]
    simp only [hstep]
    exact ih hkeyed

theorem effect_takeSnapshots : (takeSnapshots roundId).effect s =
    (PredictionLeague.takeSnapshots roundId).effect s := by
  have hid (_ : Store) (league : League) (r : MemberStats) : (snapshotRow league r).id = r.id := by
    unfold snapshotRow
    split <;> rfl
  unfold takeSnapshots
  rw [PredictionLeague.effect_takeSnapshots, effect_bind, effect_getRound]
  cases found "Round" (s.round? roundId) roundId with
  | error fault => rfl
  | ok round =>
    simp only [effect_bind, effect_current, effect_pure,
      effect_updateStats hs snapshotLeague_eq (fun _ => key_snapshotRow) hid]

theorem effect_updateLiveStats : (updateLiveStats roundId).effect s =
    (PredictionLeague.updateLiveStats roundId).effect s := by
  have hid (round : Round) (s : Store) (league : League) (r : MemberStats) :
      (s.liveRow round league r).id = r.id := by
    unfold liveRow
    split <;> rfl
  unfold updateLiveStats
  rw [PredictionLeague.effect_updateLiveStats, effect_bind, effect_getRound]
  cases found "Round" (s.round? roundId) roundId with
  | error fault => rfl
  | ok round =>
    simp only [effect_bind, effect_current, effect_pure,
      effect_updateStats hs (fun s => s.liveLeague_eq round) (fun s => s.key_liveRow round)
        (hid round)]
    rfl

theorem effect_updateStableStats : (updateStableStats roundId).effect s =
    (PredictionLeague.updateStableStats roundId).effect s := by
  have hid (s : Store) (league : League) (r : MemberStats) :
      (s.stableRow roundId league r).id = r.id := by
    unfold stableRow
    split <;> rfl
  unfold updateStableStats PredictionLeague.updateStableStats
  refine effect_bind_congr rfl fun round t hround => ?_
  obtain ⟨-, rfl⟩ := returns_getRound.1 hround
  rw [effect_bind, effect_bind, effect_current]
  refine effect_bind_congr rfl fun _ u hcheck => ?_
  obtain ⟨-, rfl⟩ := returns_checkAll.1 hcheck
  rw [effect_bind, effect_updateStats hs (fun s => s.stableLeague_eq roundId)
    (fun s => s.key_stableRow roundId) hid]
  rfl

/-! ### Settling -/

theorem effect_settleRound : (settleRound roundId now).effect s =
    (PredictionLeague.settleRound roundId now).effect s := by
  unfold settleRound PredictionLeague.settleRound
  refine effect_bind_congr rfl fun round t hround => ?_
  obtain ⟨-, rfl⟩ := returns_getRound.1 hround
  by_cases hstatus : round.status = .completed
  · simp only [hstatus, ne_eq, not_true_eq_false, if_false]
    refine effect_bind_congr (effect_recomputePoints hs roundId) fun _ u _ => ?_
    rw [effect_bind]
    rcases (settlePrizes round now).effect u with ⟨fault | n, v⟩
    · rfl
    · rfl
  · simp only [hstatus, ne_eq, not_false_eq_true, if_true]
    exact effect_bind_congr rfl fun _ _ hthrow => absurd hthrow not_returns_throw

theorem effect_settleStep (seasonId : Int) (round : Round) : (settleStep now round).effect s =
    (PredictionLeague.settleStep seasonId now round).effect s := by
  have hsettle : (do let _ ← settleRound round.id now : Engine Unit).effect s =
      (do let _ ← PredictionLeague.settleRound round.id now : Engine Unit).effect s :=
    effect_bind_congr (effect_settleRound hs round.id now) fun _ _ _ => rfl
  unfold settleStep PredictionLeague.settleStep
  rw [effect_tryCatch, effect_tryCatch, hsettle]
  rfl

theorem effect_recalculateSeason (seasonId : Int) : (recalculateSeason seasonId now).effect s =
    (PredictionLeague.recalculateSeason seasonId now).effect s := by
  unfold recalculateSeason PredictionLeague.recalculateSeason
  rw [effect_bind, effect_bind, effect_getSeason]
  cases found "Season" (s.season? seasonId) seasonId with
  | error fault => rfl
  | ok season =>
    have hwalk : ((s.completedRounds seasonId).forM (settleStep now)).effect s =
        ((s.completedRounds seasonId).forM (PredictionLeague.settleStep seasonId now)).effect s :=
      effect_forM_congr (fun round _ ht => effect_settleStep ht now seasonId round)
        (fun round => keptBySettling_keyed.keeps_settleStep seasonId now round) _ hs
    simp only
    rw [effect_bind, effect_bind, effect_current]
    exact effect_bind_congr hwalk fun _ _ _ => rfl

/-! ### Recording results -/

theorem effect_startRound (hround : round ∈ s.rounds) : (startRound round now).effect s =
    (PredictionLeague.startRound round now).effect s := by
  have hstarted := (hs.withRoundStatus hround .inProgress now).1
  unfold startRound PredictionLeague.startRound
  rw [effect_bind, effect_bind, effect_current]
  simp only
  rw [effect_bind, effect_bind, effect_put]
  exact effect_bind_congr (effect_takeSnapshots hstarted round.id) fun _ _ _ => rfl

theorem effect_showScores : (showScores roundId recording now).effect s =
    (PredictionLeague.showScores roundId recording now).effect s := by
  have hlive {t : Store} (ht : t.Keyed) : (do
      let _ ← updateLiveStats roundId
      completeRound roundId now
      return recording.updated.length : Engine Nat).effect t = (do
      let _ ← PredictionLeague.updateLiveStats roundId
      completeRound roundId now
      return recording.updated.length : Engine Nat).effect t :=
    effect_bind_congr (effect_updateLiveStats ht roundId) fun _ _ _ => rfl
  unfold showScores PredictionLeague.showScores
  cases recording.newlyCompleted with
  | false => exact hlive hs
  | true =>
    refine effect_bind_congr (effect_updateStableStats hs roundId) fun _ t ht => ?_
    exact hlive (progressed_stableStats hs ht).1

theorem effect_settleScores : (settleScores roundId recording now).effect s =
    (PredictionLeague.settleScores roundId recording now).effect s := by
  refine effect_bind_congr (effect_recomputePoints hs roundId) fun _ t ht => ?_
  obtain ⟨round, -, -, rfl⟩ := returns_recomputePoints.1 ht
  exact effect_showScores (hs.recomputed round) roundId now

theorem effect_carryScores (hround : round ∈ s.rounds) :
    (carryScores round recording roundId now).effect s =
      (PredictionLeague.carryScores round recording roundId now).effect s := by
  have hscores {t : Store} (ht : t.Keyed) : (do
      rescoreMatches recording.updated now
      settleScores roundId recording now : Engine Nat).effect t = (do
      rescoreMatches recording.updated now
      PredictionLeague.settleScores roundId recording now : Engine Nat).effect t := by
    refine effect_bind_congr rfl fun _ u hu => ?_
    obtain rfl := returns_rescoreMatches.1 hu
    have hjudged : (t.rejudged recording.updated now).Keyed := { ht with }
    exact effect_settleScores hjudged roundId now
  unfold carryScores PredictionLeague.carryScores
  by_cases hstart : round.status = .published ∧ recording.anyStarted
  · simp only [if_pos hstart]
    refine effect_bind_congr (effect_startRound hs now hround) fun _ t ht => ?_
    exact hscores (progressed_startRound hs hround ht).1
  · simp only [if_neg hstart]
    exact hscores hs

theorem effect_updateMatchResults (scores : List MatchScore) :
    (updateMatchResults roundId scores now).effect s =
      (PredictionLeague.updateMatchResults roundId scores now).effect s := by
  unfold updateMatchResults
  rw [updateMatchResults_eq]
  refine effect_bind_congr rfl fun round t hfound => ?_
  obtain ⟨⟨hfits, hround⟩, rfl⟩ := returns_getRound.1 hfound
  obtain rfl : round.id = roundId := Table.id_of_get? hround
  rw [effect_bind, effect_bind, effect_current]
  refine effect_bind_congr rfl fun recording u hrecord => ?_
  -- Recording only reads the store.
  have hkept : (recordScores round.id scores (.start (t.fixturesOf round.id))).storeAfter t = t :=
    Keeps.storeAfter (P := (· = t)) (KeptByWrites.keeps_recordScores round.id scores _) rfl
  obtain rfl : u = t := hrecord.storeAfter.symm.trans hkept
  by_cases hempty : recording.updated.isEmpty = true
  · simp only [if_pos hempty]
  · simp only [if_neg hempty]
    refine effect_bind_congr rfl fun _ v hcheck => ?_
    obtain ⟨hnumbers, rfl⟩ := returns_checkAll.1 hcheck
    have haccepts : v.Accepts round.id scores recording :=
      ⟨hfits, hrecord, by simpa using hempty, hnumbers⟩
    have hrecorded : (v.withRecording recording).Keyed :=
      hs.withFixtures (hs.fixtures_accepted haccepts)
    have hmem : round ∈ (v.withRecording recording).rounds :=
      ((Table.get?_eq_some hs.rounds).1 hround).1
    rw [effect_bind, effect_bind, effect_put]
    exact effect_carryScores hrecorded round.id now hmem

/-! ### Boosts -/

theorem effect_applyBoost (userId leagueId : Int) (code : String) :
    (applyBoost userId leagueId roundId code now).effect s =
      (Boost.applyBoost userId leagueId roundId code now).effect s := by
  unfold applyBoost Boost.applyBoost Boost.applyBoostAmid
  refine effect_bind_congr rfl fun e t he => ?_
  have hkept := Boost.storeAfter_boostEligibility s userId leagueId roundId code now
  obtain rfl : t = s := he.storeAfter.symm.trans hkept
  cases hcan : e.canUse with
  | false => rfl
  | true =>
    obtain ⟨round, league, rule, hround, rfl, hgranted⟩ := Boost.granted_of_eligible he hcan
    simp only [Bool.not_true, Bool.false_eq_true, if_false]
    rw [effect_bind, effect_getRound, found_eq_ok.2 hround, effect_bind, effect_pure]
    simp only
    rw [effect_bind, effect_bind, effect_current, effect_getRound, found_eq_ok.2 hround]
    simp only
    rw [effect_bind, effect_bind, hs.effect_writeUse hgranted.unused,
      Boost.effect_recordUse hgranted.unused]
    rfl

end Effect

end Strict

/-! ### Calls -/

/-- A call over tables that refuse. Prizes are paid under no key of their own, and taking a boost
back makes no row. -/
def Call.strict : Call → Engine Unit
  | updateResults roundId scores now => do
    let _ ← Strict.updateMatchResults roundId scores now
  | settle roundId now => do let _ ← Strict.settleRound roundId now
  | recalculate seasonId now => do let _ ← Strict.recalculateSeason seasonId now
  | payPrizes leagueId roundId now => do let _ ← Prize.processPrizes leagueId roundId now
  | useBoost userId leagueId roundId code now => do
    let _ ← Strict.applyBoost userId leagueId roundId code now
  | dropBoost userId leagueId roundId now => do
    let _ ← Boost.removeBoost userId leagueId roundId now
  | takeSnapshots roundId => do let _ ← Strict.takeSnapshots roundId
  | updateLive roundId => do let _ ← Strict.updateLiveStats roundId
  | updateStable roundId => do let _ ← Strict.updateStableStats roundId

/-- Over tables that refuse, every call does what it does. -/
theorem Call.effect_strict {s : Store} (hs : s.Keyed) (call : Call) :
    call.strict.effect s = call.action.effect s := by
  have hvoid {x y : Engine Nat} (h : x.effect s = y.effect s) :
      (do let _ ← x : Engine Unit).effect s = (do let _ ← y : Engine Unit).effect s :=
    effect_bind_congr h fun _ _ _ => rfl
  cases call with
  | updateResults roundId scores now =>
    exact hvoid (Strict.effect_updateMatchResults hs roundId now scores)
  | settle roundId now => exact hvoid (Strict.effect_settleRound hs roundId now)
  | recalculate seasonId now => exact hvoid (Strict.effect_recalculateSeason hs now seasonId)
  | payPrizes leagueId roundId now => rfl
  | useBoost userId leagueId roundId code now =>
    exact effect_bind_congr (Strict.effect_applyBoost hs roundId now userId leagueId code)
      fun _ _ _ => rfl
  | dropBoost userId leagueId roundId now => rfl
  | takeSnapshots roundId => exact hvoid (Strict.effect_takeSnapshots hs roundId)
  | updateLive roundId => exact hvoid (Strict.effect_updateLiveStats hs roundId)
  | updateStable roundId => exact hvoid (Strict.effect_updateStableStats hs roundId)

/-! ### Boosts that are allowed -/

namespace Boost

variable (userId leagueId roundId : Int) (code : String) (now : DateTime)

/-- The decision is taken without a word. -/
theorem outcome_boostEligibility (st : EngineState) : ∃ answer,
    (boostEligibility userId leagueId roundId code now).outcome st = (answer, st) := by
  unfold boostEligibility
  rw [outcome_bind, outcome_getRound]
  cases found "Round" (st.store.round? roundId) roundId with
  | error fault => exact ⟨_, rfl⟩
  | ok round =>
    simp only
    rw [outcome_bind, outcome_getLeague]
    cases found "League" (st.store.league? leagueId) leagueId with
    | error fault => exact ⟨_, rfl⟩
    | ok league =>
      have hcurrent : outcome current st = (.ok st.store, st) := rfl
      simp only
      rw [outcome_bind, hcurrent]
      simp only
      split
      · exact ⟨_, rfl⟩
      · split
        · exact ⟨_, rfl⟩
        · rw [outcome_bind, outcome_checkKey]
          cases checked (fits userId) with
          | error fault => exact ⟨_, rfl⟩
          | ok _ => exact ⟨_, rfl⟩

/-- A use is recorded without a word when there is none in the round. -/
theorem outcome_recordUse {round : Round} {st : EngineState}
    (h : st.store.useInRound? userId leagueId round.id = none) :
    (recordUse userId leagueId round code now).outcome st =
      (.ok true, { st with store := st.store.withUse userId leagueId round code now }) := by
  show outcome (if (st.store.useInRound? userId leagueId round.id).isSome then _ else _) st = _
  rw [h]
  rfl

/-- The answer to a call is the decision, and no warning is written: a use that is allowed is
recorded. -/
theorem applyBoost_decides (s : Store) :
    ((applyBoost userId leagueId roundId code now).effect s).1 =
      ((boostEligibility userId leagueId roundId code now).effect s).1 ∧
    ∀ entry ∈ ((applyBoost userId leagueId roundId code now).runOn s).2.log,
      entry.level = .info := by
  obtain ⟨answer, hanswer⟩ := outcome_boostEligibility userId leagueId roundId code now ⟨s, []⟩
  have hdecided : (boostEligibility userId leagueId roundId code now).effect s = (answer, s) := by
    rw [effect_eq, hanswer]
  rw [hdecided]
  show ((applyBoost userId leagueId roundId code now).outcome ⟨s, []⟩).1 = answer ∧
    ∀ entry ∈ ((applyBoost userId leagueId roundId code now).outcome ⟨s, []⟩).2.log,
      entry.level = .info
  unfold applyBoost applyBoostAmid
  rw [outcome_bind, hanswer]
  cases answer with
  | error fault => exact ⟨rfl, by simp⟩
  | ok e =>
    cases hcan : e.canUse with
    | false =>
      simp only [hcan, Bool.not_false, if_true]
      exact ⟨rfl, by rintro entry (_ | ⟨_, ⟨⟩⟩); rfl⟩
    | true =>
      obtain ⟨round, league, rule, hround, rfl, hgranted⟩ := granted_of_eligible hdecided hcan
      simp only [hcan, Bool.not_true, Bool.false_eq_true, if_false]
      rw [outcome_bind]
      show (outcome (getRound roundId >>= _) ⟨s, []⟩).1 = _ ∧
        ∀ entry ∈ (outcome (getRound roundId >>= _) ⟨s, []⟩).2.log, entry.level = .info
      rw [outcome_bind, outcome_getRound, found_eq_ok.2 hround]
      simp only
      rw [outcome_bind, outcome_recordUse userId league.id code now hgranted.unused]
      exact ⟨rfl, by rintro entry (_ | ⟨_, ⟨⟩⟩); rfl⟩

end Boost

/-- The keys of all tables stay different along every run of calls, each of which may return or
stop. A call over tables that refuse does just what it does, so no row is ever put in under a key
that is taken; and a boost that is allowed is never refused as a second use of the round. -/
theorem keys_never_taken {s : Store} (hs : s.Keyed) (calls : List Call) :
    (Call.afterAll calls s).Keyed ∧
      (∀ call : Call, call.strict.effect (Call.afterAll calls s) =
        call.action.effect (Call.afterAll calls s)) ∧
      ∀ userId leagueId roundId code now,
        ((Boost.applyBoost userId leagueId roundId code now).effect (Call.afterAll calls s)).1 =
          ((Boost.boostEligibility userId leagueId roundId code now).effect
            (Call.afterAll calls s)).1 ∧
        ∀ entry ∈ ((Boost.applyBoost userId leagueId roundId code now).runOn
          (Call.afterAll calls s)).2.log, entry.level = .info := by
  have hkeyed : (Call.afterAll calls s).Keyed :=
    Call.afterAll_keeps (P := Keyed) (fun _ call ht => Call.keyed_after ht call) calls hs
  refine ⟨hkeyed, fun call => Call.effect_strict hkeyed call, ?_⟩
  intro userId leagueId roundId code now
  exact Boost.applyBoost_decides userId leagueId roundId code now _

/-- The last match of the round with stale rows is over. -/
def lastWhistle : Call := .updateResults 1 [⟨2, 1, 1, .completed⟩] .newYear2025

theorem stale_rows_keep_keys :
    staleStore.Keyed ∧ (Call.afterAll [lastWhistle] staleStore).Keyed ∧
      (lastWhistle.strict.effect staleStore).1 = .ok () ∧
      ((Call.settle 1 .newYear2025).strict.effect (Call.afterAll [lastWhistle] staleStore)).1 =
        .ok () := by
  have hkeyed : staleStore.Keyed := by decide
  obtain ⟨-, hfirst, -⟩ := keys_never_taken hkeyed []
  obtain ⟨hafter, hstrict, -⟩ := keys_never_taken hkeyed [lastWhistle]
  refine ⟨hkeyed, hafter, ?_, ?_⟩
  · rw [show staleStore = Call.afterAll [] staleStore from rfl, hfirst]
    decide +kernel
  · rw [hstrict]
    decide +kernel

end PredictionLeague
