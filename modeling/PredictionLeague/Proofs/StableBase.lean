import PredictionLeague.Proofs.LiveRanks
import PredictionLeague.Proofs.Settled
import PredictionLeague.Proofs.Snapshots

/-!
# Points made twice

The points of a round before boosts are made twice. The league results are made from the counts of
all judged predictions, the stable points straight from the predictions on completed matches. So the
stable points are the league points that there would be if only the completed matches existed, and
both agree once nothing else is judged.

* `Store.baseIn`: the points before a boost in a league result;
* `Store.onlyCompleted`: the store as if only the completed matches of a round existed;
* `Keyed.stablePoints_eq_wantedBase`: the stable points are the league points of that store;
* `Keyed.returns_base_onlyCompleted`: that store really gives these points;
* `Refigures`: points made anew and members ranked by completed matches, in either order;
* `StableRow`, `StableOnly`: what this does to the stats of a member, and to all other stats;
* `refigures_agrees`: the two agree.
-/

namespace PredictionLeague

namespace Store

/-- The points before a boost in the result of a player of a league in a round; zero without a
result. -/
def baseIn (s : Store) (leagueId roundId userId : Int) : Int :=
  ((s.leagueResults.find? fun r =>
    r.leagueId == leagueId && r.roundId == roundId && r.userId == userId).map
      (·.basePoints)).getD 0

/-- The store as it is when of the matches of a round only the completed ones exist: the others are
gone, and with them the predictions on them. -/
def onlyCompleted (s : Store) (roundId : Int) : Store :=
  { s with
    fixtures := s.fixtures.filter fun m => m.roundId != roundId || m.status == .completed
    predictions := s.predictions.filter fun p =>
      !s.inRound roundId p || s.onCompleted roundId p }

/-- The matches of a round with a judged prediction are completed. -/
def JudgedCompleted (s : Store) (roundId : Int) : Prop :=
  ∀ m ∈ s.fixturesOf roundId, ∀ p ∈ s.predictions, p.matchId = m.id → p.outcome ≠ .pending →
    m.status = .completed

instance (s : Store) (roundId : Int) : Decidable (s.JudgedCompleted roundId) :=
  inferInstanceAs (Decidable (∀ m ∈ s.fixturesOf roundId, ∀ p ∈ s.predictions,
    p.matchId = m.id → p.outcome ≠ .pending → m.status = .completed))

variable {s t : Store} {round : Round} {roundId userId : Int} {league : League}

/-! ### Points in league results -/

/-- The points in the results of a league are those of the rows that should be there. -/
theorem baseIn_of_records {wanted : Int → Option (Int → LeagueResult)} {base : Int}
    (h : Table.Records s.leagueResults (resultOf league roundId) (·.userId) wanted)
    (hnone : wanted userId = none → base = 0)
    (hsome : ∀ make, wanted userId = some make → ∀ id, (make id).basePoints = base) :
    s.baseIn league.id roundId userId = base := by
  have hrow : (s.leagueResults.find? fun r =>
      r.leagueId == league.id && r.roundId == roundId && r.userId == userId) =
      (Table.rowsOf s.leagueResults (resultOf league roundId) (·.userId) userId).head? :=
    (List.head?_filter ..).symm
  rw [baseIn, hrow]
  cases hwanted : wanted userId with
  | none =>
    rw [h.absent userId hwanted, hnone hwanted]
    rfl
  | some make =>
    obtain ⟨id, hid⟩ := h.present userId make hwanted
    rw [hid]
    exact hsome make hwanted id

/-- Without a judged prediction there are no points. -/
theorem wantedBase_eq_zero (h : s.hasVerdict roundId userId = false) :
    s.wantedBase league roundId userId = 0 := by
  have hnone {verdict : Outcome} (hjudged : verdict ≠ .pending) :
      s.verdictCount roundId userId verdict = 0 := by
    rw [verdictCount, List.countP_eq_zero]
    intro p hp hcounted
    rw [hasVerdict, List.any_eq_false] at h
    simp only [Bool.and_eq_true, beq_iff_eq] at hcounted
    refine h p hp ?_
    simp only [Bool.and_eq_true, beq_iff_eq, bne_iff_ne]
    exact ⟨hcounted.1, hcounted.2 ▸ hjudged⟩
  rw [wantedBase, hnone (by decide), hnone (by decide)]
  simp

/-- The result to be made of a player has the points by its verdicts. -/
theorem base_of_plainPoints {make : Int → LeagueResult}
    (h : s.plainPoints league roundId userId = some make) (id : Int) :
    (make id).basePoints = s.wantedBase league roundId userId := by
  rw [plainPoints] at h
  obtain ⟨counts, hcounts, rfl⟩ := Option.map_eq_some_iff.1 h
  rw [wantedCounts] at hcounts
  split at hcounts
  · obtain rfl := Option.some.inj hcounts
    rfl
  · exact absurd hcounts (by simp)

/-- A member has the points by all its verdicts once they are made anew. -/
theorem PointsSettled.baseIn (h : s.PointsSettled round)
    (hleague : league ∈ s.leaguesOf round.seasonId)
    (hmember : s.isMember league.id userId = true) :
    s.baseIn league.id round.id userId = s.wantedBase league round.id userId := by
  refine baseIn_of_records (h.points league hleague) (fun hnone => ?_) fun make hmake id => ?_
  · refine wantedBase_eq_zero ?_
    by_contra hverdict
    rw [wantedPoints, hmember, Bool.eq_true_of_not_eq_false hverdict] at hnone
    exact absurd hnone (by simp)
  · rw [wantedPoints] at hmake
    split at hmake
    · obtain rfl := Option.some.inj hmake
      rfl
    · exact absurd hmake (by simp)

theorem Keyed.baseIn_recomputed (hs : s.Keyed) (hleague : league ∈ s.leaguesOf round.seasonId)
    (hmember : s.isMember league.id userId = true) :
    (s.recomputed round).baseIn league.id round.id userId =
      s.wantedBase league round.id userId := by
  have hsettled := hs.pointsSettled_recomputed round
  obtain ⟨counts, points, hpoints⟩ := s.recomputed_frame round
  rw [hpoints] at hsettled ⊢
  exact hsettled.baseIn hleague hmember

/-- And also before the boosts are applied. -/
theorem Keyed.baseIn_pointed (hs : s.Keyed) (hleague : league ∈ s.leaguesOf round.seasonId)
    (hmember : s.isMember league.id userId = true) :
    (s.pointed round).baseIn league.id round.id userId = s.wantedBase league round.id userId := by
  have hmembers : (s.counted round.id).members = s.members := rfl
  have hrecords := Table.records_rebuildAll (hs.leagues_disjoint round.seasonId round.id)
    (fun league _ => targets_pointTargets hs round.id league)
    (fun league _ => hs.unique_leagueResults league round.id) hleague
  rw [pointed, foldl_scored _ hmembers (hs.records_counted round.id)]
  refine baseIn_of_records hrecords (fun hnone => ?_) fun make hmake id => ?_
  · refine wantedBase_eq_zero ?_
    by_contra hverdict
    rw [pointTargets, Table.lookup_targetsOf, if_pos (mem_approvedMembers.2 hmember), plainPoints,
      wantedCounts, Bool.eq_true_of_not_eq_false hverdict] at hnone
    exact absurd hnone (by simp)
  · rw [pointTargets, Table.lookup_targetsOf, if_pos (mem_approvedMembers.2 hmember)] at hmake
    exact base_of_plainPoints hmake id

/-- The points that are made for a league fit when those of all its members do: a member without a
judged prediction gets no row, and would have no points. -/
theorem all_pointTargets_iff : ((s.pointTargets roundId league).map fun t =>
      (t.2 0).basePoints).all fits = true ↔
    ∀ userId, s.isMember league.id userId = true →
      fits (s.wantedBase league roundId userId) = true := by
  rw [List.all_map, List.all_eq_true]
  constructor
  · intro h userId hmember
    cases hplain : s.plainPoints league roundId userId with
    | none =>
      have hverdict : s.hasVerdict roundId userId = false := by
        simpa [plainPoints, wantedCounts] using hplain
      rw [wantedBase_eq_zero hverdict]
      rfl
    | some make =>
      have hlookup : (s.pointTargets roundId league).lookup userId = some make := by
        rw [pointTargets, Table.lookup_targetsOf, if_pos (mem_approvedMembers.2 hmember), hplain]
      have hfits := h _ (Table.mem_of_lookup hlookup)
      rwa [Function.comp_apply, base_of_plainPoints hplain] at hfits
  · intro h target htarget
    have hkey : target.1 ∈ (s.pointTargets roundId league).map (·.1) :=
      List.mem_map_of_mem htarget
    rw [pointTargets, Table.keys_targetsOf] at hkey
    have hmember := mem_approvedMembers.1 (List.mem_of_mem_filter hkey)
    rw [Function.comp_apply, base_of_plainPoints (Table.wanted_of_mem htarget)]
    exact h target.1 hmember

/-- The points of a league fit when those by the verdicts of its members do. -/
theorem Keyed.baseFits_of_wanted (hs : s.Keyed)
    (h : ∀ userId, s.isMember league.id userId = true →
      fits (s.wantedBase league roundId userId) = true) :
    (s.counted roundId).baseFits roundId league = true := by
  rw [hs.baseFits_counted, all_pointTargets_iff]
  exact h

/-! ### Completed matches alone -/

theorem Keyed.onlyCompleted (hs : s.Keyed) (roundId : Int) : (s.onlyCompleted roundId).Keyed :=
  { hs with fixtures := hs.fixtures.filter _ }

/-- The matches of the round that are left are the completed ones. -/
theorem fixturesOf_onlyCompleted (s : Store) (roundId : Int) :
    (s.onlyCompleted roundId).fixturesOf roundId = s.completedOf roundId := by
  rw [completedOf, fixturesOf, fixturesOf, Store.onlyCompleted]
  dsimp only
  rw [List.filter_filter, List.filter_filter]
  refine List.filter_congr fun m _ => ?_
  cases hround : m.roundId == roundId <;> simp [bne, hround]

theorem inRound_of_onCompleted {p : Prediction} (h : s.onCompleted roundId p = true) :
    s.inRound roundId p = true := by
  obtain ⟨m, hm, hid⟩ := List.any_eq_true.1 h
  exact List.any_eq_true.2 ⟨m, (mem_completedOf.1 hm).1, hid⟩

/-- With completed matches alone the round counts the verdicts on their predictions. -/
theorem Keyed.verdictCount_onlyCompleted (hs : s.Keyed) (roundId userId : Int)
    (verdict : Outcome) : (s.onlyCompleted roundId).verdictCount roundId userId verdict =
      (s.completedVerdicts roundId userId).count verdict := by
  have hround (p : Prediction) :
      (s.onlyCompleted roundId).inRound roundId p = s.onCompleted roundId p := by
    rw [inRound, fixturesOf_onlyCompleted, onCompleted]
  rw [hs.count_onCompleted, verdictCount, Store.onlyCompleted]
  dsimp only
  rw [List.countP_filter]
  refine List.countP_congr fun p _ => ?_
  have hsame := hround p
  rw [Store.onlyCompleted] at hsame
  rw [hsame]
  cases s.onCompleted roundId p <;> simp

/-- The stable points of a player are its league points with completed matches alone. -/
theorem Keyed.stablePoints_eq_wantedBase (hs : s.Keyed) (league : League) (roundId userId : Int) :
    s.stablePoints league roundId userId =
      (s.onlyCompleted roundId).wantedBase league roundId userId := by
  rw [wantedBase, hs.verdictCount_onlyCompleted, hs.verdictCount_onlyCompleted]
  rfl

/-- A round has no fewer verdicts with all its matches. -/
theorem Keyed.count_completed_le (hs : s.Keyed) (roundId userId : Int) (verdict : Outcome) :
    (s.completedVerdicts roundId userId).count verdict ≤ s.verdictCount roundId userId verdict := by
  rw [hs.count_onCompleted]
  refine List.countP_mono_left fun p _ hp => ?_
  simp only [Bool.and_eq_true] at hp ⊢
  exact ⟨⟨hp.1.1, inRound_of_onCompleted hp.1.2⟩, hp.2⟩

/-- It has as many when only predictions on completed matches are judged. -/
theorem Keyed.count_completed_eq (hs : s.Keyed) (h : s.JudgedCompleted roundId) (userId : Int)
    {verdict : Outcome} (hverdict : verdict ≠ .pending) :
    (s.completedVerdicts roundId userId).count verdict =
      s.verdictCount roundId userId verdict := by
  rw [hs.count_onCompleted]
  refine List.countP_congr fun p hp => ?_
  simp only [Bool.and_eq_true, beq_iff_eq]
  constructor
  · rintro ⟨⟨huser, hcompleted⟩, houtcome⟩
    exact ⟨⟨huser, inRound_of_onCompleted hcompleted⟩, houtcome⟩
  · rintro ⟨⟨huser, hround⟩, houtcome⟩
    obtain ⟨m, hm, hid⟩ := List.any_eq_true.1 hround
    have hstatus := h m hm p hp (beq_iff_eq.1 hid).symm (houtcome ▸ hverdict)
    exact ⟨⟨huser, List.any_eq_true.2 ⟨m, mem_completedOf.2 ⟨hm, hstatus⟩, hid⟩⟩, houtcome⟩

/-- With weights that are not negative no match takes points away. -/
theorem Keyed.stablePoints_le (hs : s.Keyed) (hexact : 0 ≤ league.exactWeight)
    (hresult : 0 ≤ league.resultWeight) (roundId userId : Int) :
    s.stablePoints league roundId userId ≤ s.wantedBase league roundId userId := by
  have hcount (verdict : Outcome) : ((s.completedVerdicts roundId userId).count verdict : Int) ≤
      s.verdictCount roundId userId verdict :=
    Int.ofNat_le.2 (hs.count_completed_le roundId userId verdict)
  exact Int.add_le_add (Int.mul_le_mul_of_nonneg_right (hcount _) hexact)
    (Int.mul_le_mul_of_nonneg_right (hcount _) hresult)

theorem Keyed.stablePoints_eq_of_judged (hs : s.Keyed) (h : s.JudgedCompleted roundId)
    (league : League) (userId : Int) :
    s.stablePoints league roundId userId = s.wantedBase league roundId userId := by
  have hexact : (s.completedVerdicts roundId userId).count .exactScore =
      s.verdictCount roundId userId .exactScore := hs.count_completed_eq h userId (by decide)
  have hresult : (s.completedVerdicts roundId userId).count .correctResult =
      s.verdictCount roundId userId .correctResult := hs.count_completed_eq h userId (by decide)
  rw [wantedBase, ← hexact, ← hresult]
  rfl

end Store

/-! ### Both at once -/

/-- Points made anew and members ranked by completed matches, in either order, both returning. -/
def Refigures (roundId : Int) (s t : Store) : Prop :=
  ∃ u n, ((recomputePoints roundId).Returns s () u ∧ (updateStableStats roundId).Returns u n t) ∨
    ((updateStableStats roundId).Returns s n u ∧ (recomputePoints roundId).Returns u () t)

/-- Stats with the stable figures of fresh ones: what a change of the stable figures keeps. -/
def MemberStats.withoutStable (r : MemberStats) : MemberStats :=
  { r with stablePoints := 0, stableRank := 1 }

/-- The stats of a member once both are done, where `made` is the store with the league points that
completed matches alone would give. -/
structure StableRow (s t made : Store) (roundId : Int) (league : League) (row : MemberStats) :
    Prop where
  points : row.stablePoints = made.baseIn league.id roundId row.userId
  /-- Once nothing else is judged they are the points in the league result. -/
  agree : s.JudgedCompleted roundId → row.stablePoints = t.baseIn league.id roundId row.userId
  le : 0 ≤ league.exactWeight → 0 ≤ league.resultWeight →
    row.stablePoints ≤ t.baseIn league.id roundId row.userId
  /-- The rank counts the approved members whose stats have strictly more stable points. -/
  rank : row.stableRank = 1 + (t.approvedMembers league.id).countP fun other =>
    (t.statsOf league.id other).any fun row' => decide (row.stablePoints < row'.stablePoints)

/-- Of the stats only the stable figures of members change, and besides them only points do. -/
structure StableOnly (s t : Store) (round : Round) : Prop where
  kept : ∀ row ∈ s.stats, ∃ row', t.statsOf row.leagueId row.userId = [row'] ∧
    row'.withoutStable = row.withoutStable
  /-- Rows are added for members that have none, with nothing but stable figures. -/
  added : ∀ row' ∈ t.stats, s.statsOf row'.leagueId row'.userId = [] →
    s.isMember row'.leagueId row'.userId = true ∧
      row'.withoutStable = MemberStats.fresh row'.leagueId row'.userId row'.id
  outsiders : ∀ leagueId userId, s.isMember leagueId userId = false →
    t.statsOf leagueId userId = s.statsOf leagueId userId
  otherLeagues : ∀ leagueId, (∀ league ∈ s.leaguesOf round.seasonId, league.id ≠ leagueId) →
    t.stats.filter (·.leagueId == leagueId) = s.stats.filter (·.leagueId == leagueId)
  rest : t = { s with
    roundResults := t.roundResults, leagueResults := t.leagueResults, stats := t.stats }

namespace Store

variable {s t : Store} {round : Round} {userId : Int} {league : League}

theorem recomputed_withStats (s : Store) (round : Round) (stats : List MemberStats) :
    { s with stats }.recomputed round = { s.recomputed round with stats } := by
  have hfold (leagues : List League) (c : Store) :
      leagues.foldl (fun s league => s.scored round.id league) { c with stats } =
        { leagues.foldl (fun s league => s.scored round.id league) c with stats } := by
    induction leagues generalizing c with
    | nil => rfl
    | cons league leagues ih => exact ih (c.scored round.id league)
  exact congrArg (·.boosted round.id) (hfold (s.leaguesOf round.seasonId) (s.counted round.id))

theorem ranked_withPoints (s : Store) (round : Round) (counts : List RoundResult)
    (points : List LeagueResult) :
    { s with roundResults := counts, leagueResults := points }.ranked round =
      { s.ranked round with roundResults := counts, leagueResults := points } := by
  have hfold (leagues : List League) (c : Store) :
      leagues.foldl (fun s league => s.stableLeague round.id league)
          { c with roundResults := counts, leagueResults := points } =
        { leagues.foldl (fun s league => s.stableLeague round.id league) c with
          roundResults := counts, leagueResults := points } := by
    induction leagues generalizing c with
    | nil => rfl
    | cons league leagues ih => exact ih (c.stableLeague round.id league)
  exact hfold (s.leaguesOf round.seasonId) s

/-- In either order the points are those made anew, and the stats those of the ranking. -/
theorem eq_of_refigures {roundId : Int} (hround : s.round? roundId = some round)
    (h : Refigures roundId s t) : fits roundId = true ∧ s.stableFits round = true ∧
      t = { s.recomputed round with stats := (s.ranked round).stats } := by
  obtain ⟨counts, points, hpoints⟩ := s.recomputed_frame round
  obtain ⟨stats, hstats⟩ := s.exists_ranked round
  obtain rfl : round.id = roundId := Table.id_of_get? hround
  obtain ⟨u, n, ⟨hmade, hranked⟩ | ⟨hranked, hmade⟩⟩ := h
  · obtain ⟨round', ⟨-, hround'⟩, -, rfl⟩ := returns_recomputePoints.1 hmade
    obtain rfl : round = round' := Option.some.inj (hround.symm.trans hround')
    obtain ⟨round', ⟨hfits, hround'⟩, hstable, -, rfl⟩ := returns_updateStableStats.1 hranked
    rw [round?_recomputed] at hround'
    obtain rfl : round = round' := Option.some.inj (hround.symm.trans hround')
    refine ⟨hfits, ?_, ?_⟩
    · rw [hpoints] at hstable
      exact hstable
    · show (s.recomputed round).ranked round = _
      rw [hpoints, ranked_withPoints, hstats]
  · obtain ⟨round', ⟨hfits, hround'⟩, hstable, -, rfl⟩ := returns_updateStableStats.1 hranked
    obtain rfl : round = round' := Option.some.inj (hround.symm.trans hround')
    have hmade' : (recomputePoints round.id).Returns (s.ranked round) () t := hmade
    obtain ⟨round', ⟨-, hround'⟩, -, rfl⟩ := returns_recomputePoints.1 hmade'
    rw [hstats] at hround'
    obtain rfl : round = round' := Option.some.inj (hround.symm.trans hround')
    refine ⟨hfits, hstable, ?_⟩
    rw [hstats, recomputed_withStats]

/-- The points that completed matches alone give are really made. -/
theorem Keyed.returns_base_onlyCompleted (hs : s.Keyed) (hfits : fits round.id = true)
    (hround : s.round? round.id = some round) (hstable : s.stableFits round = true) :
    ∃ players leagues, (updateRoundResults round.id).Returns (s.onlyCompleted round.id) players
        ((s.onlyCompleted round.id).counted round.id) ∧
      (updateLeagueResults round.id).Returns ((s.onlyCompleted round.id).counted round.id)
        leagues ((s.onlyCompleted round.id).pointed round) := by
  have hfound : Engine.found "Round" ((s.onlyCompleted round.id).round? round.id) round.id =
      .ok round := Engine.found_eq_ok.2 ⟨hfits, hround⟩
  have hbase : (s.leaguesOf round.seasonId).all
      (((s.onlyCompleted round.id).counted round.id).baseFits round.id) = true := by
    refine List.all_eq_true.2 fun league hleague => ?_
    refine (hs.onlyCompleted round.id).baseFits_of_wanted fun userId hmember => ?_
    rw [← hs.stablePoints_eq_wantedBase]
    refine List.all_eq_true.1 hstable _ (List.mem_flatMap.2 ⟨league, hleague, ?_⟩)
    refine List.mem_map.2 ⟨_, List.mem_map_of_mem (mem_approvedMembers.2 hmember), rfl⟩
  have hfound' : Engine.found "Round"
      (((s.onlyCompleted round.id).counted round.id).round? round.id) round.id = .ok round := hfound
  have hcounted := effect_updateRoundResults round.id (s.onlyCompleted round.id)
  have hmade := effect_updateLeagueResults hfound'
  rw [hfound] at hcounted
  exact ⟨_, _, hcounted, hmade.trans (if_pos hbase)⟩

section Rows

variable (hs : s.Keyed) (hleague : league ∈ s.leaguesOf round.seasonId)

include hs hleague

/-- Every member of a league of the season has one row, with the stable figures of the verdicts. -/
theorem Keyed.exists_statsOf_ranked (hmember : s.isMember league.id userId = true) :
    ∃ row, (s.ranked round).statsOf league.id userId = [row] ∧
      row.stablePoints = s.stablePoints league round.id userId ∧
      row.stableRank = s.memberRank league.id (s.stablePoints league round.id) userId := by
  have hfigures := hs.stableOf_ranked_eq hleague hmember
  obtain ⟨row, hrow, hstable⟩ := List.map_eq_singleton_iff.1 hfigures
  exact ⟨row, hrow, congrArg StableFigures.points hstable, congrArg StableFigures.rank hstable⟩

/-- A member without stats gets fresh ones but for the stable figures. -/
theorem Keyed.statsOf_ranked_new (hmember : s.isMember league.id userId = true)
    (hnone : s.statsOf league.id userId = []) : ∃ id row,
      (s.ranked round).statsOf league.id userId = [row] ∧
        row.withoutStable = MemberStats.fresh league.id userId id := by
  obtain ⟨stats, id, hown⟩ := hs.exists_statsOf_new hleague (leagueUpdate_stable round.id)
    (fun u => u.stableLeague_eq round.id) (fun u => u.key_stableRow round.id) hmember hnone
  refine ⟨id, _, hown, ?_⟩
  unfold stableRow
  split <;> rfl

end Rows

theorem withoutStable_stableRow (s : Store) (roundId : Int) (league : League) (r : MemberStats) :
    (s.stableRow roundId league r).withoutStable = r.withoutStable := by
  unfold stableRow
  split <;> rfl

/-- Ranking a round changes the stable figures of members only. -/
theorem Keyed.stableOnly (hs : s.Keyed) (round : Round) (counts : List RoundResult)
    (points : List LeagueResult) :
    StableOnly s { s with
      roundResults := counts, leagueResults := points, stats := (s.ranked round).stats } round where
  kept row hrow := by
    have hkept := hs.map_statsOf_ranked round (f := MemberStats.withoutStable)
      (fun u league r => withoutStable_stableRow u round.id league r)
      (congrArg (List.map MemberStats.withoutStable) (hs.statsOf_of_mem hrow))
    exact List.map_eq_singleton_iff.1 hkept
  added row' hrow' hnone := by
    have hmem : row' ∈ (s.ranked round).statsOf row'.leagueId row'.userId :=
      mem_statsOf.2 ⟨hrow', rfl, rfl⟩
    have hmember : s.isMember row'.leagueId row'.userId = true := by
      by_contra hnot
      rw [hs.statsOf_ranked_outsider round (Bool.eq_false_iff.2 hnot), hnone] at hmem
      exact absurd hmem (by simp)
    have hseason : ∃ league ∈ s.leaguesOf round.seasonId, league.id = row'.leagueId := by
      by_contra hnot
      rw [statsOf_congr (hs.others_ranked fun league hleague hid => hnot ⟨league, hleague, hid⟩),
        hnone] at hmem
      exact absurd hmem (by simp)
    obtain ⟨league, hleague, hid⟩ := hseason
    rw [← hid] at hmember hnone hmem ⊢
    obtain ⟨id, row, hrow, hfresh⟩ := hs.statsOf_ranked_new hleague hmember hnone
    rw [hrow, List.mem_singleton] at hmem
    have hsame : row'.id = id := by
      rw [hmem]
      exact congrArg MemberStats.id hfresh
    rw [hsame]
    exact ⟨hmember, hmem ▸ hfresh⟩
  outsiders leagueId userId hnot := hs.statsOf_ranked_outsider round hnot
  otherLeagues leagueId hother := hs.others_ranked hother
  rest := rfl

end Store

open Store

/-- When the points of a round are made anew and its leagues are ranked by completed matches, in
either order, every approved member of a league of the season has the stable points that the league
points would be if only the completed matches of the round existed. They are the points of its
league result before boosts when nothing but predictions on completed matches is judged, and never
more when the weights are not negative. Stable ranks count the approved members with strictly more;
all else in the stats, and the stats of others, stay as they are. -/
theorem refigures_agrees {s t : Store} {round : Round} {roundId : Int} (hs : s.Keyed)
    (hround : s.round? roundId = some round) (h : Refigures roundId s t) :
    (∃ players leagues counted made,
      (updateRoundResults roundId).Returns (s.onlyCompleted roundId) players counted ∧
      (updateLeagueResults roundId).Returns counted leagues made ∧
      ∀ league ∈ s.leaguesOf round.seasonId, ∀ userId, s.isMember league.id userId = true →
        ∃ row, t.statsOf league.id userId = [row] ∧ StableRow s t made roundId league row) ∧
    StableOnly s t round := by
  obtain ⟨hfits, hstable, rfl⟩ := eq_of_refigures hround h
  obtain rfl : round.id = roundId := Table.id_of_get? hround
  obtain ⟨players, leagues, hcounted, hmade⟩ := hs.returns_base_onlyCompleted hfits hround hstable
  obtain ⟨counts, points, hpoints⟩ := s.recomputed_frame round
  have honly := hs.stableOnly round counts points
  rw [hpoints]
  refine ⟨⟨_, _, _, _, hcounted, hmade, fun league hleague userId hmember => ?_⟩, honly⟩
  obtain ⟨row, hrow, hstablePoints, hrank⟩ := hs.exists_statsOf_ranked hleague hmember
  have huser : row.userId = userId := by
    have hmem : row ∈ (s.ranked round).statsOf league.id userId := hrow ▸ List.mem_singleton_self _
    exact (mem_statsOf.1 hmem).2.2
  have hbase := hs.baseIn_recomputed hleague hmember
  rw [hpoints] at hbase
  refine ⟨row, hrow, ?_, ?_, ?_, ?_⟩
  · rw [huser, hstablePoints, hs.stablePoints_eq_wantedBase]
    exact ((hs.onlyCompleted round.id).baseIn_pointed hleague hmember).symm
  · intro hjudged
    rw [huser, hstablePoints, hs.stablePoints_eq_of_judged hjudged]
    exact hbase.symm
  · intro hexact hresult
    rw [huser, hstablePoints]
    exact (hs.stablePoints_le hexact hresult round.id userId).trans_eq hbase.symm
  · rw [hrank, memberRank, Int.natCast_add]
    refine congrArg _ (congrArg _ (List.countP_congr fun other hother => ?_))
    obtain ⟨row', hrow', hother', -⟩ :=
      hs.exists_statsOf_ranked hleague (mem_approvedMembers.1 hother)
    have hrows : ({ s with
        roundResults := counts
        leagueResults := points
        stats := (s.ranked round).stats } : Store).statsOf league.id other = [row'] := hrow'
    rw [hrows, List.any_cons, List.any_nil, Bool.or_false, hother', hstablePoints]

/-- The open round when its first match is over and its second one is played, before figures are
made. -/
def halfPlayed : Store :=
  { openStoreAfter [[⟨1, 2, 1, .completed⟩, ⟨2, 1, 1, .inProgress⟩]] with
    roundResults := [], leagueResults := [], stats := earlierStats }

/-- The half played round once its points are made and its members ranked by completed matches. -/
def halfRanked : Store :=
  (updateStableStats 1).storeAfter ((recomputePoints 1).storeAfter halfPlayed)

/-- Player 11 has five points by the match that is played, and none of them are stable. -/
theorem half_played_agrees :
    let round : Round := ⟨1, 1, 1, .newYear2025, .newYear2025, .inProgress, none⟩
    let league : League := ⟨1, 1, .newYear2025, 5, 3, 0⟩
    halfPlayed.Keyed ∧ halfPlayed.round? 1 = some round ∧ Refigures 1 halfPlayed halfRanked ∧
      (∃ made row, halfRanked.statsOf 1 11 = [row] ∧
        StableRow halfPlayed halfRanked made 1 league row) ∧
      StableOnly halfPlayed halfRanked round ∧ halfRanked.stableOf 1 11 = [⟨0, 2⟩] ∧
      halfRanked.baseIn 1 1 11 = 5 := by
  intro round league
  have hkeyed : halfPlayed.Keyed := by decide +kernel
  have hround : halfPlayed.round? 1 = some round := by decide +kernel
  have hrefigures : Refigures 1 halfPlayed halfRanked :=
    ⟨(recomputePoints 1).storeAfter halfPlayed, 1, .inl (by decide +kernel)⟩
  obtain ⟨⟨-, -, -, made, -, -, hrows⟩, honly⟩ := refigures_agrees hkeyed hround hrefigures
  obtain ⟨row, hrow, hstable⟩ := hrows league (by decide +kernel) 11 (by decide +kernel)
  exact ⟨hkeyed, hround, hrefigures, ⟨made, row, hrow, hstable⟩, honly, by decide +kernel,
    by decide +kernel⟩

end PredictionLeague
