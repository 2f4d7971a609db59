import PredictionLeague.Points
import PredictionLeague.Proofs.Store

/-!
# The points of a round

What the round results and league results of a round should hold, said by counting predictions and
looking up boosts, and the proof that making them anew brings it about from any earlier contents.

* `Store.verdictCount`, `Store.hasVerdict`: the verdicts on a player's predictions in a round;
* `Store.wantedCounts`, `Store.wantedPoints`: the rows that should be there, up to their ids;
* `Store.Boosted`: a league result shows the boost that its member used;
* `Store.PointsSettled`: the rows of a round are the wanted ones;
* `Store.SameWanted`: two stores that want the same; `PointsSettled.of_rows`;
* `Store.recomputed`: the points of a round made anew;
* `Keyed.pointsSettled_recomputed`, `Keyed.recomputed_of_settled`: the points are settled then, and
  settled points stay as they are.
-/

namespace PredictionLeague

namespace Store

/-! ### What should be there -/

section Wanted

variable (s : Store)

/-- Whether a prediction is on a match of a round. -/
def inRound (roundId : Int) (p : Prediction) : Bool :=
  (s.fixturesOf roundId).any (·.id == p.matchId)

/-- How many predictions of a player on matches of a round got a verdict. -/
def verdictCount (roundId userId : Int) (verdict : Outcome) : Nat :=
  s.predictions.countP fun p =>
    p.userId == userId && s.inRound roundId p && p.outcome == verdict

/-- Whether a prediction of a player on a match of a round is judged. -/
def hasVerdict (roundId userId : Int) : Bool :=
  s.predictions.any fun p => p.userId == userId && s.inRound roundId p && p.outcome != .pending

/-- The round result that a player should have. -/
def wantedCounts (roundId userId : Int) : Option (Int → RoundResult) :=
  if s.hasVerdict roundId userId then
    some fun id => ⟨id, roundId, userId, s.verdictCount roundId userId .exactScore,
      s.verdictCount roundId userId .correctResult, s.verdictCount roundId userId .incorrect⟩
  else none

/-- The points before a boost that a member should have. -/
def wantedBase (league : League) (roundId userId : Int) : Int :=
  s.verdictCount roundId userId .exactScore * league.exactWeight +
    s.verdictCount roundId userId .correctResult * league.resultWeight

/-- The league result that a player should have: none for a player who is no approved member or has
no judged prediction. -/
def wantedPoints (league : League) (roundId userId : Int) : Option (Int → LeagueResult) :=
  if s.isMember league.id userId && s.hasVerdict roundId userId then
    some fun id =>
      let base := s.wantedBase league roundId userId
      let code := s.boostIn league.id userId roundId
      ⟨id, league.id, roundId, userId, base, Boost.boostedPoints code base, code.isSome, code,
        s.verdictCount roundId userId .exactScore⟩
  else none

/-- A league result shows the boost that its member used in the round, or none. -/
structure Boosted (r : LeagueResult) : Prop where
  used : ∀ u ∈ s.boostUsages, u.userId = r.userId → u.leagueId = r.leagueId →
    u.roundId = r.roundId → r.hasBoost = true ∧ r.boostCode = some u.boostCode ∧
      r.boostedPoints = if u.boostCode = "DoubleUp" then 2 * r.basePoints else r.basePoints
  unused : (∀ u ∈ s.boostUsages, u.userId = r.userId → u.leagueId = r.leagueId →
    u.roundId ≠ r.roundId) → r.hasBoost = false ∧ r.boostCode = none ∧
      r.boostedPoints = r.basePoints

/-- The results of a league in a round. -/
def resultOf (league : League) (roundId : Int) (r : LeagueResult) : Bool :=
  r.leagueId == league.id && r.roundId == roundId

/-- The round results and the league results of a round are the wanted ones. -/
structure PointsSettled (round : Round) : Prop where
  counts : Table.Records s.roundResults (·.roundId == round.id) (·.userId)
    (s.wantedCounts round.id)
  points : ∀ league ∈ s.leaguesOf round.seasonId, Table.Records s.leagueResults
    (resultOf league round.id) (·.userId) (s.wantedPoints league round.id)
  boosts : ∀ r ∈ s.leagueResults, r.roundId = round.id → s.Boosted r

/-- Two stores want the same points of a round. -/
structure SameWanted (s' : Store) (round : Round) : Prop where
  leagues : s'.leaguesOf round.seasonId = s.leaguesOf round.seasonId
  boostUsages : s'.boostUsages = s.boostUsages
  counts : s'.wantedCounts round.id = s.wantedCounts round.id
  points : ∀ league, s'.wantedPoints league round.id = s.wantedPoints league round.id

end Wanted

variable {s : Store}

/-! ### What the points depend on -/

section Same

variable {t : Store} {round : Round}

theorem SameWanted.symm (h : s.SameWanted t round) : t.SameWanted s round :=
  ⟨h.leagues.symm, h.boostUsages.symm, h.counts.symm, fun league => (h.points league).symm⟩

/-- Verdicts are those on the predictions of the matches. -/
theorem hasVerdict_congr (hfixtures : t.fixtures = s.fixtures)
    (hpredictions : t.predictions = s.predictions) (roundId : Int) :
    t.hasVerdict roundId = s.hasVerdict roundId := by
  funext userId
  simp only [hasVerdict, inRound, fixturesOf, hfixtures, hpredictions]

theorem verdictCount_congr (hfixtures : t.fixtures = s.fixtures)
    (hpredictions : t.predictions = s.predictions) (roundId : Int) :
    t.verdictCount roundId = s.verdictCount roundId := by
  funext userId verdict
  simp only [verdictCount, inRound, fixturesOf, hfixtures, hpredictions]

/-- What is wanted of a round depends on its verdicts, on the leagues and members and on boosts. -/
theorem sameWanted_of_verdicts (hleagues : t.leaguesOf round.seasonId = s.leaguesOf round.seasonId)
    (hmembers : t.members = s.members) (hboosts : t.boostUsages = s.boostUsages)
    (hhas : t.hasVerdict round.id = s.hasVerdict round.id)
    (hcount : t.verdictCount round.id = s.verdictCount round.id) : s.SameWanted t round where
  leagues := hleagues
  boostUsages := hboosts
  counts := by
    funext userId
    rw [wantedCounts, wantedCounts, hhas, hcount]
  points league := by
    funext userId
    rw [wantedPoints, wantedPoints, wantedBase, wantedBase, isMember, isMember, boostIn, boostIn,
      hhas, hcount, hmembers, hboosts]

/-- A settled round stays settled where its rows stay and the same points are wanted. -/
theorem PointsSettled.of_rows (h : s.PointsSettled round) (hwanted : s.SameWanted t round)
    (hcounts : t.roundResults.filter (·.roundId == round.id) =
      s.roundResults.filter (·.roundId == round.id))
    (hpoints : t.leagueResults.filter (·.roundId == round.id) =
      s.leagueResults.filter (·.roundId == round.id)) : t.PointsSettled round where
  counts := by
    rw [hwanted.counts]
    exact h.counts.of_filter_eq hcounts
  points league hleague := by
    rw [hwanted.leagues] at hleague
    rw [hwanted.points]
    refine (h.points league hleague).of_filter_eq ?_
    have hrows (u : Store) : u.leagueResults.filter (resultOf league round.id) =
        (u.leagueResults.filter (·.roundId == round.id)).filter (·.leagueId == league.id) :=
      List.filter_filter.symm
    rw [hrows, hrows, hpoints]
  boosts r hr hround := by
    have hrow : r ∈ t.leagueResults.filter (·.roundId == round.id) :=
      List.mem_filter.2 ⟨hr, beq_iff_eq.2 hround⟩
    rw [hpoints] at hrow
    obtain ⟨hused, hunused⟩ := h.boosts r (List.mem_of_mem_filter hrow) hround
    exact ⟨hwanted.boostUsages ▸ hused, hwanted.boostUsages ▸ hunused⟩

end Same

/-! ### Verdicts by counting -/

/-- The predictions of some matches, match by match. -/
theorem predictionsOf_perm (s : Store) {ms : List Match} (hnodup : (ms.map Match.id).Nodup) :
    (ms.flatMap fun m => s.predictionsOf m.id).Perm
      (s.predictions.filter fun p => ms.any (·.id == p.matchId)) := by
  have hperm := flatMap_filter_perm Prediction.matchId s.predictions hnodup
  rw [List.flatMap_map] at hperm
  refine hperm.trans (.of_eq (List.filter_congr fun p _ => ?_))
  rw [List.contains_eq_any_beq, List.any_map]
  refine List.any_congr rfl fun m => ?_
  exact Bool.beq_comm

/-- The verdicts of a round are those on the judged predictions of its matches. -/
theorem Keyed.verdicts_perm (hs : s.Keyed) (roundId : Int) :
    (s.verdicts roundId).Perm
      ((s.predictions.filter fun p => s.inRound roundId p && p.outcome != .pending).map
        fun p => (p.userId, p.outcome)) := by
  have hpicked : ((s.fixturesOf roundId).flatMap fun m => s.predictionsOf m.id).Perm
      (s.predictions.filter (s.inRound roundId)) :=
    s.predictionsOf_perm (hs.fixtures.filter fun m => m.roundId == roundId).nodup_ids
  have hmap : (s.verdicts roundId) = ((((s.fixturesOf roundId).flatMap fun m =>
      s.predictionsOf m.id).map fun p => (p.userId, p.outcome)).filter (·.2 != .pending)) := by
    rw [verdicts, List.map_flatMap]
  rw [hmap]
  refine ((hpicked.map _).filter _).trans (.of_eq ?_)
  rw [List.filter_map, List.filter_filter]
  congr 1
  exact List.filter_congr fun p _ => Bool.and_comm _ _

/-- A player has a verdict when the verdicts of the round name the player. -/
theorem Keyed.mem_verdict_users (hs : s.Keyed) {roundId userId : Int} :
    userId ∈ ((s.verdicts roundId).map (·.1)).eraseDups ↔ s.hasVerdict roundId userId = true := by
  rw [List.mem_eraseDups, ((hs.verdicts_perm roundId).map _).mem_iff, List.map_map]
  simp only [hasVerdict, List.mem_map, List.mem_filter, List.any_eq_true, Bool.and_eq_true,
    beq_iff_eq, Function.comp_apply]
  constructor
  · rintro ⟨p, ⟨hp, hround, hjudged⟩, huser⟩
    exact ⟨p, hp, ⟨huser, hround⟩, hjudged⟩
  · rintro ⟨p, hp, ⟨huser, hround⟩, hjudged⟩
    exact ⟨p, ⟨hp, hround, hjudged⟩, huser⟩

/-- Counting a player's verdicts is counting predictions. -/
theorem Keyed.count_verdicts (hs : s.Keyed) (roundId userId : Int) {verdict : Outcome}
    (hv : verdict ≠ .pending) :
    (((s.verdicts roundId).filter (·.1 == userId)).map (·.2)).count verdict =
      s.verdictCount roundId userId verdict := by
  rw [(((hs.verdicts_perm roundId).filter _).map _).count_eq, List.count_eq_countP, List.countP_map,
    List.filter_map, List.countP_map, List.filter_filter, List.countP_filter, verdictCount]
  refine List.countP_congr fun p _ => ?_
  simp only [Function.comp_apply, Bool.and_eq_true, beq_iff_eq, bne_iff_ne]
  constructor
  · rintro ⟨hverdict, huser, hround, -⟩
    exact ⟨⟨huser, hround⟩, hverdict⟩
  · rintro ⟨⟨huser, hround⟩, hverdict⟩
    exact ⟨hverdict, huser, hround, hverdict ▸ hv⟩

theorem Keyed.tally (hs : s.Keyed) (roundId userId : Int) :
    Tally.of (((s.verdicts roundId).filter (·.1 == userId)).map (·.2)) =
      ⟨s.verdictCount roundId userId .exactScore, s.verdictCount roundId userId .correctResult,
        s.verdictCount roundId userId .incorrect⟩ := by
  rw [Tally.of, hs.count_verdicts _ _ (by decide), hs.count_verdicts _ _ (by decide),
    hs.count_verdicts _ _ (by decide)]

/-! ### Boosts by looking them up -/

theorem Keyed.boostIn_of_mem (hs : s.Keyed) {u : BoostUsage} (hu : u ∈ s.boostUsages) :
    s.boostIn u.leagueId u.userId u.roundId = some u.boostCode := by
  rw [boostIn]
  cases hfind : s.boostUsages.find? fun v =>
      v.roundId == u.roundId && v.leagueId == u.leagueId && v.userId == u.userId with
  | none => simpa using List.find?_eq_none.1 hfind u hu
  | some v =>
    have hv := List.find?_some hfind
    simp only [Bool.and_eq_true, beq_iff_eq] at hv
    have heq : v = u := List.inj_on_of_nodup_map hs.boostUsages (List.mem_of_find?_eq_some hfind) hu
      (by rw [hv.1.1, hv.1.2, hv.2])
    rw [heq, Option.map_some]

theorem boostIn_eq_none {leagueId userId roundId : Int} (h : ∀ u ∈ s.boostUsages,
    u.userId = userId → u.leagueId = leagueId → u.roundId ≠ roundId) :
    s.boostIn leagueId userId roundId = none := by
  rw [boostIn, Option.map_eq_none_iff, List.find?_eq_none]
  intro u hu hmatch
  simp only [Bool.and_eq_true, beq_iff_eq] at hmatch
  exact h u hu hmatch.2 hmatch.1.2 hmatch.1.1

theorem withBoost_eq_self (r : LeagueResult) : s.withBoost r = r ↔
    r.boostedPoints =
      Boost.boostedPoints (s.boostIn r.leagueId r.userId r.roundId) r.basePoints ∧
    r.hasBoost = (s.boostIn r.leagueId r.userId r.roundId).isSome ∧
    r.boostCode = s.boostIn r.leagueId r.userId r.roundId := by
  rcases r with ⟨id, l, rd, u, base, boosted, has, code, exact⟩
  simp only [withBoost, LeagueResult.mk.injEq, true_and, and_true]
  constructor
  · rintro ⟨h₁, h₂, h₃⟩
    exact ⟨h₁.symm, h₂.symm, h₃.symm⟩
  · rintro ⟨h₁, h₂, h₃⟩
    exact ⟨h₁.symm, h₂.symm, h₃.symm⟩

theorem boostedPoints_some (code : String) (base : Int) :
    Boost.boostedPoints (some code) base = if code = "DoubleUp" then 2 * base else base := by
  rw [Boost.boostedPoints, Boost.multiplier, Boost.doubleUp]
  split
  · exact Int.mul_comm ..
  · exact Int.mul_one _

/-- The results that show their boosts are those that applying boosts does not change. -/
theorem Keyed.boosted_iff (hs : s.Keyed) (r : LeagueResult) :
    s.Boosted r ↔ s.withBoost r = r := by
  rw [withBoost_eq_self]
  -- Both sides are about the one boost that the member used in the round, if there is one.
  by_cases hused : ∃ u ∈ s.boostUsages, u.userId = r.userId ∧ u.leagueId = r.leagueId ∧
      u.roundId = r.roundId
  · obtain ⟨u, hu, huser, hleague, hround⟩ := hused
    have hboost := hs.boostIn_of_mem hu
    rw [huser, hleague, hround] at hboost
    rw [hboost, boostedPoints_some]
    constructor
    · intro h
      obtain ⟨hhas, hcode, hboosted⟩ := h.used u hu huser hleague hround
      exact ⟨hboosted, hhas, hcode⟩
    · rintro ⟨hboosted, hhas, hcode⟩
      refine ⟨fun v hv hvuser hvleague hvround => ?_,
        fun hunused => absurd hround (hunused u hu huser hleague)⟩
      have heq : v = u := List.inj_on_of_nodup_map hs.boostUsages hv hu
        (by rw [huser, hleague, hround, hvuser, hvleague, hvround])
      rw [heq]
      exact ⟨hhas, hcode, hboosted⟩
  · have hunused : ∀ u ∈ s.boostUsages, u.userId = r.userId → u.leagueId = r.leagueId →
        u.roundId ≠ r.roundId :=
      fun u hu huser hleague hround => hused ⟨u, hu, huser, hleague, hround⟩
    rw [boostIn_eq_none hunused]
    constructor
    · intro h
      obtain ⟨hhas, hcode, hboosted⟩ := h.unused hunused
      exact ⟨hboosted, hhas, hcode⟩
    · rintro ⟨hboosted, hhas, hcode⟩
      exact ⟨fun u hu huser hleague hround => absurd hround (hunused u hu huser hleague),
        fun _ => ⟨hhas, hcode, hboosted⟩⟩

theorem Keyed.boosted_withBoost (hs : s.Keyed) (r : LeagueResult) : s.Boosted (s.withBoost r) :=
  (hs.boosted_iff _).2 rfl

/-! ### The three steps -/

/-- The round results to make, player by player. -/
def countTargets (s : Store) (roundId : Int) : List (Int × (Int → RoundResult)) :=
  Table.targetsOf ((s.verdicts roundId).map (·.1)).eraseDups (s.wantedCounts roundId)

/-- The league result without a boost that a player should have. -/
def plainPoints (s : Store) (league : League) (roundId userId : Int) :
    Option (Int → LeagueResult) :=
  (s.wantedCounts roundId userId).map fun counts => league.result (counts 0)

/-- The league results to make, member by member. -/
def pointTargets (s : Store) (roundId : Int) (league : League) :
    List (Int × (Int → LeagueResult)) :=
  Table.targetsOf (s.approvedMembers league.id) (s.plainPoints league roundId)

theorem Keyed.targets_counts (hs : s.Keyed) (roundId : Int) :
    ((s.tallies roundId).map fun (userId, tally) => (userId, fun id =>
      (⟨id, roundId, userId, tally.exact, tally.correct, tally.incorrect⟩ : RoundResult))) =
        s.countTargets roundId := by
  rw [tallies, List.map_map, countTargets, Table.targetsOf, ← List.filterMap_eq_map]
  refine List.filterMap_congr fun userId huser => ?_
  rw [wantedCounts, if_pos (hs.mem_verdict_users.1 huser)]
  simp only [Function.comp_apply, hs.tally, Option.map_some]

theorem lookup_countTargets (hs : s.Keyed) (roundId userId : Int) :
    (s.countTargets roundId).lookup userId = s.wantedCounts roundId userId := by
  rw [countTargets, Table.lookup_targetsOf]
  simp only [hs.mem_verdict_users, wantedCounts]
  split <;> rfl

theorem wantedCounts_keys {roundId userId : Int} {make : Int → RoundResult}
    (h : s.wantedCounts roundId userId = some make) (id : Int) :
    (make id).id = id ∧ (make id).roundId = roundId ∧ (make id).userId = userId := by
  unfold wantedCounts at h
  split at h
  · obtain rfl := Option.some.inj h
    exact ⟨rfl, rfl, rfl⟩
  · exact absurd h (by simp)

theorem targets_countTargets (s : Store) (roundId : Int) :
    Table.Targets (·.roundId == roundId) RoundResult.userId (s.countTargets roundId) :=
  Table.Targets.of (nodup_eraseDups _) fun _ _ hmake id =>
    ⟨beq_iff_eq.2 (wantedCounts_keys hmake id).2.1, (wantedCounts_keys hmake id).2.2⟩

theorem Keyed.counted_eq (hs : s.Keyed) (roundId : Int) :
    s.counted roundId =
      { s with
        roundResults := Table.rebuild s.roundResults (·.roundId == roundId) (·.userId)
          (s.countTargets roundId) } := by
  rw [counted, hs.targets_counts]

theorem Keyed.unique_roundResults (hs : s.Keyed) (roundId : Int) :
    Table.Unique s.roundResults (·.roundId == roundId) RoundResult.userId :=
  Table.unique_of_nodup RoundResult.key roundId (fun _ => rfl) (fun _ => rfl)
    hs.roundResults

theorem Keyed.records_counted (hs : s.Keyed) (roundId : Int) :
    Table.Records (s.counted roundId).roundResults (·.roundId == roundId) (·.userId)
      (s.wantedCounts roundId) := by
  have h := Table.records_rebuild (s.targets_countTargets roundId) (hs.unique_roundResults roundId)
  rw [hs.counted_eq]
  simpa only [lookup_countTargets hs] using h

/-- The counts of the members, when the round results are the wanted ones. -/
theorem targets_points {c : Store} {roundId : Int} (hmembers : c.members = s.members)
    (hcounts : Table.Records c.roundResults (·.roundId == roundId) (·.userId)
      (s.wantedCounts roundId)) (league : League) :
    ((c.memberCounts league roundId).map fun counts => (counts.userId, league.result counts)) =
      s.pointTargets roundId league := by
  have happroved : c.approvedMembers league.id = s.approvedMembers league.id := by
    rw [approvedMembers, approvedMembers, hmembers]
  rw [memberCounts, happroved, List.map_filterMap, pointTargets, Table.targetsOf]
  refine List.filterMap_congr fun userId _ => ?_
  have hfind : c.roundResult? roundId userId =
      (Table.rowsOf c.roundResults (·.roundId == roundId) (·.userId) userId).head? := by
    rw [roundResult?, Table.rowsOf, List.head?_filter]
  rw [hfind, plainPoints]
  cases hw : s.wantedCounts roundId userId with
  | none => rw [hcounts.absent userId hw]; rfl
  | some make =>
    obtain ⟨id, hid⟩ := hcounts.present userId make hw
    rw [hid]
    unfold wantedCounts at hw
    split at hw
    · obtain rfl := Option.some.inj hw
      rfl
    · exact absurd hw (by simp)

theorem plainPoints_keys {league : League} {roundId userId : Int} {make : Int → LeagueResult}
    (h : s.plainPoints league roundId userId = some make) (id : Int) :
    (make id).id = id ∧ (make id).leagueId = league.id ∧ (make id).roundId = roundId ∧
      (make id).userId = userId := by
  obtain ⟨counts, hcounts, rfl⟩ := Option.map_eq_some_iff.1 h
  obtain ⟨-, hround, huser⟩ := wantedCounts_keys hcounts 0
  exact ⟨rfl, rfl, hround, huser⟩

theorem targets_pointTargets (hs : s.Keyed) (roundId : Int) (league : League) :
    Table.Targets (resultOf league roundId) LeagueResult.userId (s.pointTargets roundId league) :=
  Table.Targets.of (hs.approvedMembers_nodup _) fun _ _ hmake id => by
    obtain ⟨-, hleague, hround, huser⟩ := plainPoints_keys hmake id
    exact ⟨by rw [resultOf, hleague, hround, beq_self_eq_true, beq_self_eq_true]; rfl, huser⟩

/-- Boosts applied to the results of one round. -/
def boostRow (s : Store) (roundId : Int) (r : LeagueResult) : LeagueResult :=
  if r.roundId == roundId then s.withBoost r else r

/-- The wanted league results are the plain ones with the boosts of their members. -/
theorem map_pointTargets (s : Store) (league : League) (roundId userId : Int) :
    (((s.pointTargets roundId league).lookup userId).map
        fun make id => s.boostRow roundId (make id)) =
      s.wantedPoints league roundId userId := by
  rw [pointTargets, Table.lookup_targetsOf]
  simp only [mem_approvedMembers, plainPoints, wantedPoints, wantedCounts]
  by_cases hmember : s.isMember league.id userId
  · by_cases hverdict : s.hasVerdict roundId userId
    · simp only [hmember, hverdict, if_true, Bool.and_self, Option.map_some]
      exact congrArg some (funext fun id => if_pos (beq_self_eq_true roundId))
    · simp [hmember, hverdict]
  · simp [hmember]

/-- The points of a round made anew in every league of its season, and then boosted. -/
def recomputed (s : Store) (round : Round) : Store :=
  ((s.leaguesOf round.seasonId).foldl (fun s league => s.scored round.id league)
    (s.counted round.id)).boosted round.id

/-- The league results of several leagues made anew. -/
theorem foldl_scored {roundId : Int} (leagues : List League) {c : Store}
    (hmembers : c.members = s.members)
    (hcounts : Table.Records c.roundResults (·.roundId == roundId) (·.userId)
      (s.wantedCounts roundId)) :
    leagues.foldl (fun s league => s.scored roundId league) c =
      { c with
        leagueResults := Table.rebuildAll (resultOf · roundId) LeagueResult.userId
          (s.pointTargets roundId) leagues c.leagueResults } := by
  -- What a league is scored by, members and counts, is the same after the leagues before it.
  induction leagues generalizing c with
  | nil => rfl
  | cons league leagues ih =>
    have hstep : c.scored roundId league =
        { c with
          leagueResults := Table.rebuild c.leagueResults (resultOf league roundId)
            (·.userId) (s.pointTargets roundId league) } := by
      rw [scored, targets_points hmembers hcounts]
      rfl
    rw [List.foldl_cons, hstep]
    exact ih hmembers hcounts

/-- Making points anew touches two tables only. -/
theorem recomputed_frame (s : Store) (round : Round) : ∃ counts points,
    s.recomputed round = { s with roundResults := counts, leagueResults := points } := by
  have hfold (leagues : List League) (c : Store) : ∃ points,
      leagues.foldl (fun s league => s.scored round.id league) c =
        { c with leagueResults := points } := by
    induction leagues generalizing c with
    | nil => exact ⟨_, rfl⟩
    | cons league leagues ih => exact ih (c.scored round.id league)
  obtain ⟨points, hpoints⟩ := hfold (s.leaguesOf round.seasonId) (s.counted round.id)
  rw [recomputed, hpoints]
  exact ⟨_, _, rfl⟩

@[simp] theorem round?_recomputed (s : Store) (round : Round) (id : Int) :
    (s.recomputed round).round? id = s.round? id := by
  obtain ⟨counts, points, hpoints⟩ := s.recomputed_frame round
  rw [hpoints]
  rfl

theorem Keyed.recomputed_eq (hs : s.Keyed) (round : Round) :
    s.recomputed round =
      { s with
        roundResults := Table.rebuild s.roundResults (·.roundId == round.id) (·.userId)
          (s.countTargets round.id)
        leagueResults := (Table.rebuildAll (resultOf · round.id) LeagueResult.userId
          (s.pointTargets round.id) (s.leaguesOf round.seasonId) s.leagueResults).map
            (s.boostRow round.id) } := by
  have hmembers : (s.counted round.id).members = s.members := rfl
  rw [recomputed, foldl_scored _ hmembers (hs.records_counted round.id), hs.counted_eq]
  rfl

/-! ### Settled points -/

theorem Keyed.leagues_disjoint (hs : s.Keyed) (seasonId roundId : Int) :
    (s.leaguesOf seasonId).Pairwise fun a b =>
      ∀ r, resultOf a roundId r = true → resultOf b roundId r = false := by
  refine (hs.leagues.filter _).imp fun {a b} hlt r hr => ?_
  simp only [resultOf, Bool.and_eq_true, beq_iff_eq, Bool.and_eq_false_imp] at hr ⊢
  intro hb
  exact absurd (hr.1.symm.trans hb) (Int.ne_of_lt hlt)

theorem resultOf_eq (league : League) (roundId : Int) (r : LeagueResult) :
    resultOf league roundId r =
      decide (r.key.1 = (league.id, roundId)) := by
  simp [resultOf, LeagueResult.key, Bool.decide_and, Bool.beq_eq_decide_eq]

section BoostRow

variable (s : Store) (roundId : Int) (r : LeagueResult)

@[simp] theorem id_boostRow : (s.boostRow roundId r).id = r.id := by
  unfold boostRow
  split <;> rfl

@[simp] theorem roundId_boostRow : (s.boostRow roundId r).roundId = r.roundId := by
  unfold boostRow
  split <;> rfl

@[simp] theorem key_boostRow : (s.boostRow roundId r).key = r.key := by
  unfold boostRow
  split <;> rfl

@[simp] theorem userId_boostRow : (s.boostRow roundId r).userId = r.userId :=
  congrArg Prod.snd (s.key_boostRow roundId r)

@[simp] theorem leagueId_boostRow : (s.boostRow roundId r).leagueId = r.leagueId :=
  congrArg (·.1.1) (s.key_boostRow roundId r)

theorem resultOf_boostRow (league : League) :
    resultOf league roundId (s.boostRow roundId r) = resultOf league roundId r := by
  simp [resultOf]

end BoostRow

theorem Keyed.unique_leagueResults (hs : s.Keyed) (league : League) (roundId : Int) :
    Table.Unique s.leagueResults (resultOf league roundId) LeagueResult.userId :=
  Table.unique_of_nodup LeagueResult.key (league.id, roundId)
    (resultOf_eq league roundId) (fun _ => rfl) hs.leagueResults

theorem Keyed.records_points (hs : s.Keyed) {round : Round} {league : League}
    (hleague : league ∈ s.leaguesOf round.seasonId) :
    Table.Records (s.recomputed round).leagueResults (resultOf league round.id) (·.userId)
      (s.wantedPoints league round.id) := by
  have hplain := Table.records_rebuildAll (hs.leagues_disjoint round.seasonId round.id)
    (fun league _ => targets_pointTargets hs round.id league)
    (fun league _ => hs.unique_leagueResults league round.id) hleague
  have hboosted := hplain.map (s.boostRow round.id)
    (fun r => s.resultOf_boostRow round.id r league) (s.userId_boostRow round.id)
  rw [hs.recomputed_eq]
  simpa only [map_pointTargets] using hboosted

/-- Making the points of a round anew brings about the wanted rows, whatever was there before. -/
theorem Keyed.pointsSettled_recomputed (hs : s.Keyed) (round : Round) :
    (s.recomputed round).PointsSettled round where
  counts := by
    have h := hs.records_counted round.id
    rw [hs.counted_eq] at h
    rwa [hs.recomputed_eq]
  points league hleague := by
    have hsame : (s.recomputed round).leaguesOf round.seasonId = s.leaguesOf round.seasonId := by
      rw [hs.recomputed_eq]
      rfl
    rw [hsame] at hleague
    have h := hs.records_points hleague
    rw [hs.recomputed_eq] at h ⊢
    exact h
  boosts r hr hround := by
    have hboosted : s.Boosted r := by
      rw [hs.recomputed_eq] at hr
      obtain ⟨r', -, rfl⟩ := List.mem_map.1 hr
      rw [roundId_boostRow] at hround
      rw [boostRow, if_pos (beq_iff_eq.2 hround)]
      exact hs.boosted_withBoost r'
    rw [hs.recomputed_eq]
    exact ⟨hboosted.used, hboosted.unused⟩

/-- Rows of other rounds stay as they were. -/
theorem Keyed.roundResults_recomputed (hs : s.Keyed) (round : Round) :
    (s.recomputed round).roundResults.filter (·.roundId != round.id) =
      s.roundResults.filter (·.roundId != round.id) := by
  rw [hs.recomputed_eq]
  exact Table.filter_rebuild (s.targets_countTargets round.id) fun r hr => by
    simpa [bne] using hr

/-- Results of other rounds stay as they were, and so do the results of the round in leagues of
other seasons but for their boosts. -/
theorem Keyed.leagueResults_recomputed (hs : s.Keyed) (round : Round) {p : LeagueResult → Bool}
    (hp : ∀ league ∈ s.leaguesOf round.seasonId, ∀ r, p r = true →
      resultOf league round.id r = false)
    (hboost : ∀ r, p (s.boostRow round.id r) = p r) :
    (s.recomputed round).leagueResults.filter p =
      (s.leagueResults.filter p).map (s.boostRow round.id) := by
  have hcomp : p ∘ s.boostRow round.id = p := funext hboost
  rw [hs.recomputed_eq]
  rw [List.filter_map, hcomp,
    Table.filter_rebuildAll (fun league _ => targets_pointTargets hs round.id league) hp]

theorem Keyed.recomputed (hs : s.Keyed) (round : Round) : (s.recomputed round).Keyed := by
  have hround : ((s.recomputed round).roundResults.map RoundResult.key).Nodup := by
    rw [hs.recomputed_eq]
    exact Table.nodup_rebuild RoundResult.key round.id (fun _ => rfl)
      (fun _ => rfl) (s.targets_countTargets round.id) hs.roundResults
  have hleague : ((s.recomputed round).leagueResults.map LeagueResult.key).Nodup := by
    have hkeys : LeagueResult.key ∘ s.boostRow round.id = LeagueResult.key :=
      funext (s.key_boostRow round.id)
    rw [hs.recomputed_eq]
    rw [List.map_map, hkeys]
    exact Table.nodup_rebuildAll LeagueResult.key (fun league => (league.id, round.id))
      (fun league r => resultOf_eq league round.id r) (fun _ => rfl)
      (fun league _ => targets_pointTargets hs round.id league) hs.leagueResults
  rw [hs.recomputed_eq] at hround hleague ⊢
  exact { hs with roundResults := hround, leagueResults := hleague }

/-- Settled points stay as they are, with the ids of their rows. -/
theorem Keyed.recomputed_of_settled (hs : s.Keyed) {round : Round} (h : s.PointsSettled round) :
    s.recomputed round = s := by
  have hcounts : Table.rebuild s.roundResults (·.roundId == round.id) (·.userId)
      (s.countTargets round.id) = s.roundResults := by
    have hrecords : Table.Records (s.roundResults.map fun r => r) (·.roundId == round.id)
        (·.userId) fun userId =>
          ((s.countTargets round.id).lookup userId).map fun make id => make id := by
      simpa only [lookup_countTargets hs, List.map_id', Option.map_id'] using h.counts
    have hrebuild := Table.map_rebuild_of_records (fun r => r) (fun _ => rfl) (fun _ => rfl)
      (fun _ => rfl) (s.targets_countTargets round.id)
      (fun t ht id => (wantedCounts_keys (Table.wanted_of_mem ht) id).1) hrecords
    simpa only [List.map_id'] using hrebuild
  -- The league results are rebuilt without boosts, so they are the same with their boosts only.
  have hsame : s.leagueResults.map (s.boostRow round.id) = s.leagueResults := by
    refine (List.map_congr_left fun r hr => ?_).trans (List.map_id _)
    by_cases hround : r.roundId = round.id
    · rw [boostRow, if_pos (beq_iff_eq.2 hround), (hs.boosted_iff r).1 (h.boosts r hr hround)]
      rfl
    · rw [boostRow, if_neg (by simpa using hround)]
      rfl
  have hpoints := Table.map_rebuildAll_of_records (s.boostRow round.id)
    (fun league r => s.resultOf_boostRow round.id r league) (s.userId_boostRow round.id)
    (s.id_boostRow round.id)
    (fun league _ => targets_pointTargets hs round.id league)
    (fun league _ t ht id => (plainPoints_keys (Table.wanted_of_mem ht) id).1)
    (fun league hleague => by
      rw [hsame]
      simpa only [map_pointTargets] using h.points league hleague)
  rw [hs.recomputed_eq, hcounts, hpoints, hsame]

end Store

end PredictionLeague
