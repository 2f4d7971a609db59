import PredictionLeague.Proofs.Settled
import PredictionLeague.Proofs.Stages

/-!
# Results and the settlement agree

The call that brings the last result of a round makes its points, completes it and pays its prizes.
Settling the round after it finds all of that in place.

* `Store.PaidUp`: a completed round whose points are settled and whose awards were recorded last;
* `PaidUp.settleRound`: settling such a round again changes nothing but ids of winnings;
* `paidUp_completeRound`, `paidUp_settleScores`, `paidUp_carryScores`: what pays a round up;
* `settleRound_after_updateMatchResults`: a call that leaves all matches over pays its round up.
-/

namespace PredictionLeague

open Engine Store

variable {s s' : Store} {roundId : Int} {now : DateTime}

/-! ### Points that stay settled -/

/-- Settled points stay settled while states of rounds, stats and winnings change. -/
theorem Store.Progressed.settled (h : s.Progressed s') (hs : s.Keyed) (hs' : s'.Keyed)
    {round : Round} (hsettled : s.Settled round) : s'.Settled round := by
  have hpoints := h.pointsSettled hsettled.points
  obtain ⟨hbase, hboosted⟩ := (hs.pointsFit_iff round).1 hsettled.fit
  rw [hs.recomputed_of_settled hsettled.points] at hboosted
  refine ⟨hpoints, (hs'.pointsFit_iff round).2 ?_⟩
  rw [hs'.recomputed_of_settled hpoints]
  obtain ⟨rounds, stats, winnings, rfl⟩ := h.rest
  exact ⟨hbase, hboosted⟩

/-- Settled points are about the place of a round. -/
theorem Store.Keyed.settled_of_slot (hs : s.Keyed) {round round' : Round}
    (hsettled : s.Settled round) (hslot : round'.slot = round.slot) : s.Settled round' := by
  have hpoints := hsettled.points.of_slot hslot
  obtain ⟨hbase, hboosted⟩ := (hs.pointsFit_iff round).1 hsettled.fit
  rw [hs.recomputed_of_settled hsettled.points] at hboosted
  refine ⟨hpoints, (hs.pointsFit_iff round').2 ?_⟩
  rw [hs.recomputed_of_settled hpoints,
    show round'.id = round.id from congrArg RoundSlot.id hslot,
    show round'.seasonId = round.seasonId from congrArg RoundSlot.seasonId hslot]
  exact ⟨hbase, hboosted⟩

/-! ### Paid up rounds -/

/-- A round is paid up: it is completed, its points are settled, and the last that happened to the
winnings is that the awards of its leagues were recorded. -/
structure Store.PaidUp (s : Store) (roundId : Int) (now : DateTime) (round : Round)
    (awards : List Prize.Award) : Prop where
  keyed : s.Keyed
  found : fits roundId ∧ s.round? roundId = some round
  completed : round.status = .completed
  settled : s.Settled round
  leagues : ∀ league ∈ s.leaguesOf round.seasonId, fits league.id
  awarded : s.roundAwards round = .ok awards
  recorded : ∃ winnings, s.winnings = (Prize.recordAwards now winnings awards).1

namespace Store.PaidUp

variable {round : Round} {awards : List Prize.Award}

/-- Settling a round that is paid up changes nothing but ids of winnings. -/
theorem settleRound (h : s.PaidUp roundId now round awards) :
    ∃ winnings, (settleRound roundId now).Returns s (s.leaguesOf round.seasonId).length
        { s with winnings } ∧
      winnings.map Winning.bare = s.winnings.map Winning.bare := by
  have hstays : s.recomputed round = s := h.keyed.recomputed_of_settled h.settled.points
  refine ⟨(s.withAwards now awards).winnings, ?_, ?_⟩
  · refine returns_settleRound.2 ⟨round, h.found, h.completed, h.settled.fit, h.leagues, awards, ?_⟩
    rw [hstays]
    exact ⟨h.awarded, rfl, rfl⟩
  · obtain ⟨winnings, hrecorded⟩ := h.recorded
    exact Prize.recordAwards_twice (known_roundAwards h.awarded) now
      (congrArg (List.map Winning.bare) hrecorded)

end Store.PaidUp

/-! ### What pays a round up -/

/-- Prizes are paid for the place of a round, whatever its state. -/
theorem settlePrizes_withStatus (round : Round) (status : RoundStatus) (now' : DateTime) :
    settlePrizes (round.withStatus status now') now = settlePrizes round now := rfl

/-- Paying the prizes of a completed round with settled points pays it up. -/
theorem paidUp_settlePrizes {round : Round} {n : Nat} (hs : s.Keyed)
    (hfits : fits roundId = true) (hround : s.round? roundId = some round)
    (hcompleted : round.status = .completed) (hsettled : s.Settled round)
    (h : (settlePrizes round now).Returns s n s') :
    ∃ awards, s'.PaidUp roundId now round awards := by
  obtain rfl : round.id = roundId := Table.id_of_get? hround
  obtain ⟨hleagues, awards, hawards, rfl, -⟩ := (returns_settlePrizes ⟨hfits, hround⟩).1 h
  have hprogress : s.Progressed (s.withAwards now awards) := ⟨⟨_, _, _, rfl⟩, rfl⟩
  have hkeyed : (s.withAwards now awards).Keyed := { hs with }
  exact ⟨awards, hkeyed, ⟨hfits, hround⟩, hcompleted, hprogress.settled hs hkeyed hsettled,
    hleagues, hawards, s.winnings, rfl⟩

/-- When all matches are over, a round with settled points is completed and paid up. -/
theorem paidUp_completeRound {round : Round} (hs : s.Keyed) (hround : s.round? roundId = some round)
    (hsettled : s.Settled round) (hover : ∀ m ∈ s.fixturesOf roundId, m.status = .completed)
    (h : (completeRound roundId now).Returns s () s') :
    ∃ round' awards, s'.PaidUp roundId now round' awards := by
  obtain rfl : round.id = roundId := Table.id_of_get? hround
  unfold completeRound at h
  obtain ⟨found, ⟨hfits, hfound⟩, h⟩ := returns_getRound_bind.1 h
  obtain rfl : round = found := Option.some.inj (hround.symm.trans hfound)
  rw [returns_current_bind] at h
  have hall : (s.fixturesOf round.id).all (·.status == .completed) = true :=
    List.all_eq_true.2 fun m hm => beq_iff_eq.2 (hover m hm)
  rw [if_pos hall] at h
  by_cases hstatus : round.status = .completed
  · -- The round was completed before, so its state is left alone.
    rw [if_neg (not_not.2 hstatus)] at h
    obtain ⟨n, t, hprizes, hdone⟩ := returns_bind.1 h
    obtain ⟨-, rfl⟩ := returns_pure.1 hdone
    exact ⟨round, paidUp_settlePrizes hs hfits hround hstatus hsettled hprizes⟩
  · rw [if_pos hstatus, returns_put_bind, returns_say_bind] at h
    obtain ⟨n, t, hprizes, hdone⟩ := returns_bind.1 h
    obtain ⟨-, rfl⟩ := returns_pure.1 hdone
    have hmem := ((Table.get?_eq_some hs.rounds).1 hround).1
    obtain ⟨hkeyed, hprogress⟩ := hs.withRoundStatus hmem .completed now
    have hclosed : (s.withRoundStatus round .completed now).round? round.id =
        some (round.withStatus .completed now) :=
      s.round?_withRoundStatus .completed now hround
    have hsettled' := hprogress.settled hs hkeyed hsettled
    rw [← settlePrizes_withStatus round .completed now] at hprizes
    exact ⟨_, paidUp_settlePrizes hkeyed hfits hclosed rfl
      (hkeyed.settled_of_slot hsettled' rfl) hprizes⟩

/-- The matches are left alone while states of rounds, stats and winnings change. -/
theorem Store.Progressed.fixturesOf (h : s.Progressed s') (roundId : Int) :
    s'.fixturesOf roundId = s.fixturesOf roundId := by
  obtain ⟨_, _, _, rfl⟩ := h.rest
  rfl

variable {recording : Recording} {round : Round} {n : Nat}

/-- The figures are brought up to date before the round is completed. -/
theorem showScores_completes (hs : s.Keyed) (hround : s.round? roundId = some round)
    (h : (showScores roundId recording now).Returns s n s') :
    ∃ t, t.Keyed ∧ s.Progressed t ∧ (completeRound roundId now).Returns t () s' := by
  have hlive {t : Store} (ht : t.Keyed) (hprogress : s.Progressed t)
      (h : (do
        let _ ← updateLiveStats roundId
        completeRound roundId now
        return recording.updated.length : Engine Nat).Returns t n s') :
      ∃ u, u.Keyed ∧ s.Progressed u ∧ (completeRound roundId now).Returns u () s' := by
    obtain ⟨_, u, hstats, h⟩ := returns_bind.1 h
    obtain ⟨_, v, hcomplete, h⟩ := returns_bind.1 h
    obtain ⟨-, rfl⟩ := returns_pure.1 h
    obtain ⟨round', hround', -⟩ := exists_round_of_slots hprogress.slots hround
    obtain ⟨hu, hshown, -⟩ := progressed_liveStats ht hround' hstats
    exact ⟨u, hu, hprogress.trans hshown, hcomplete⟩
  unfold showScores at h
  dsimp only at h
  split at h
  · obtain ⟨_, t, hstats, h⟩ := returns_bind.1 h
    obtain ⟨ht, hprogress⟩ := progressed_stableStats hs hstats
    exact hlive ht hprogress h
  · exact hlive hs (.refl s) h

/-- Once the predictions are judged, a call that leaves all matches over pays the round up. -/
theorem paidUp_settleScores (hs : s.Keyed) (hround : s.round? roundId = some round)
    (h : (settleScores roundId recording now).Returns s n s')
    (hover : ∀ m ∈ s'.fixturesOf roundId, m.status = .completed) :
    ∃ round' awards, s'.PaidUp roundId now round' awards := by
  unfold settleScores at h
  obtain ⟨_, t, hpoints, hshow⟩ := returns_bind.1 h
  obtain ⟨found, ⟨-, hfound⟩, hfit, rfl⟩ := returns_recomputePoints.1 hpoints
  obtain rfl : round = found := Option.some.inj (hround.symm.trans hfound)
  have ht := hs.recomputed round
  have htround : (s.recomputed round).round? roundId = some round := by
    rw [s.round?_recomputed]
    exact hround
  obtain ⟨u, hu, hprogress, hcomplete⟩ := showScores_completes ht htround hshow
  obtain ⟨round', hround', hslot⟩ := exists_round_of_slots hprogress.slots htround
  obtain ⟨-, hcompleted, -⟩ := progressed_completeRound hu hcomplete
  have hsettled := hprogress.settled ht hu (hs.settled_recomputed hfit)
  refine paidUp_completeRound hu hround' (hu.settled_of_slot hsettled hslot) ?_ hcomplete
  rwa [hcompleted.fixturesOf] at hover

/-- Once the scores are recorded, a call that leaves all matches over pays the round up. -/
theorem paidUp_carryScores (hs : s.Keyed) (hround : s.round? roundId = some round)
    (h : (carryScores round recording roundId now).Returns s n s')
    (hover : ∀ m ∈ s'.fixturesOf roundId, m.status = .completed) :
    ∃ round' awards, s'.PaidUp roundId now round' awards := by
  have hmem : round ∈ s.rounds := ((Table.get?_eq_some hs.rounds).1 hround).1
  obtain ⟨t, ht, hstart, h⟩ : ∃ t, t.Keyed ∧ s.Progressed t ∧ (do
      rescoreMatches recording.updated now
      settleScores roundId recording now : Engine Nat).Returns t n s' := by
    unfold carryScores at h
    dsimp only at h
    split at h
    · obtain ⟨_, t, hstart, h⟩ := returns_bind.1 h
      obtain ⟨ht, hprogress⟩ := progressed_startRound hs hmem hstart
      exact ⟨t, ht, hprogress, h⟩
    · exact ⟨s, hs, .refl s, h⟩
  obtain ⟨_, u, hrescore, hsettle⟩ := returns_bind.1 h
  have hu := returns_rescoreMatches.1 hrescore
  obtain ⟨round', hround', -⟩ := exists_round_of_slots hstart.slots hround
  have hjudged : u.round? roundId = some round' := by
    rw [hu]
    exact hround'
  exact paidUp_settleScores (hu ▸ { ht with }) hjudged hsettle hover

/-- A call that takes a score and leaves all matches of the round over pays the round up. -/
theorem paidUp_updateMatchResults {scores : List MatchScore} (hs : s.Keyed)
    (h : (updateMatchResults roundId scores now).Returns s n s') (hn : n ≠ 0)
    (hover : ∀ m ∈ s'.fixturesOf roundId, m.status = .completed) :
    ∃ round awards, s'.PaidUp roundId now round awards := by
  rw [updateMatchResults_eq] at h
  obtain ⟨round, ⟨-, hround⟩, h⟩ := returns_getRound_bind.1 h
  rw [returns_current_bind] at h
  obtain ⟨recording, t, hrecord, h⟩ := returns_bind.1 h
  have hnodup : ((s.fixturesOf roundId).map (·.id)).Nodup :=
    (hs.fixtures.filter fun m => m.roundId == roundId).nodup_ids
  obtain ⟨rfl, hrecorded, -⟩ := recordScores_returns hnodup hrecord
  split at h
  · exact absurd (returns_pure.1 h).1 hn
  · rw [returns_checkAll_bind, returns_put_bind] at h
    have hrecording := hs.withFixtures (hs.fixtures_withRecording hrecorded)
    exact paidUp_carryScores (s := t.withRecording recording) hrecording hround h.2 hover

/-! ### The two ways agree -/

/-- The two ways to points and prizes agree: when a call that records results has taken a score and
leaves all matches of the round over, settling the round after it succeeds and changes nothing, but
for ids of winnings. -/
theorem settleRound_after_updateMatchResults {scores : List MatchScore} (hs : s.Keyed)
    (h : (updateMatchResults roundId scores now).Returns s n s') (hn : n ≠ 0)
    (hover : ∀ m ∈ s'.fixturesOf roundId, m.status = .completed) :
    ∃ leagues winnings, (settleRound roundId now).Returns s' leagues { s' with winnings } ∧
      winnings.map Winning.bare = s'.winnings.map Winning.bare := by
  obtain ⟨round, awards, hpaid⟩ := paidUp_updateMatchResults hs h hn hover
  obtain ⟨winnings, hsettle, hsame⟩ := hpaid.settleRound
  exact ⟨_, winnings, hsettle, hsame⟩

/-- The last round of a season with one match to go: two leagues pay for the round, its month and
the season, and an earlier winning of the season is replaced. -/
def lastMatchStore : Store :=
  { Store.empty with
    seasons := [⟨1, "2025", .newYear2025, .june2025, 2⟩]
    rounds := [⟨1, 1, 2, .newYear2025, .newYear2025, .inProgress, none⟩]
    fixtures := [⟨1, 1, some 1, some 0, .completed⟩, ⟨2, 1, none, none, .scheduled⟩]
    predictions :=
      [⟨1, 10, 1, 1, 0, .exactScore, .newYear2025⟩, ⟨2, 11, 1, 2, 0, .correctResult, .newYear2025⟩,
        ⟨3, 11, 2, 1, 1, .pending, .newYear2025⟩]
    leagues := [⟨1, 1, .newYear2025, 5, 3, 0⟩, ⟨2, 1, .newYear2025, 1, 1, 0⟩]
    members :=
      [⟨1, 1, 10, .approved⟩, ⟨2, 1, 11, .approved⟩, ⟨3, 2, 10, .approved⟩, ⟨4, 2, 11, .approved⟩]
    prizeSettings :=
      [⟨1, 1, .round, 1, 1000, none⟩, ⟨2, 1, .overall, 1, 5000, none⟩, ⟨3, 2, .round, 1, 2000, none⟩,
        ⟨4, 2, .monthly, 1, 700, none⟩]
    winnings := [⟨1, 10, 2, 5000, none, none, .newYear2025⟩] }

/-- The season once its last result has come: the earlier winning is replaced. -/
def lastMatchOver : Store :=
  (updateMatchResults 1 [⟨2, 1, 1, .completed⟩] .newYear2025).storeAfter lastMatchStore

theorem last_match_settles_again :
    lastMatchStore.Keyed ∧
      (updateMatchResults 1 [⟨2, 1, 1, .completed⟩] .newYear2025).Returns lastMatchStore 1
        lastMatchOver ∧
      (∀ m ∈ lastMatchOver.fixturesOf 1, m.status = .completed) ∧
      ∃ leagues winnings,
        (settleRound 1 .newYear2025).Returns lastMatchOver leagues
          { lastMatchOver with winnings } ∧
        winnings.map Winning.bare = lastMatchOver.winnings.map Winning.bare := by
  have hkeyed : lastMatchStore.Keyed := by decide
  have hreturns : (updateMatchResults 1 [⟨2, 1, 1, .completed⟩] .newYear2025).Returns
      lastMatchStore 1 lastMatchOver := by decide +kernel
  have hover : ∀ m ∈ lastMatchOver.fixturesOf 1, m.status = .completed := by decide +kernel
  exact ⟨hkeyed, hreturns, hover,
    settleRound_after_updateMatchResults hkeyed hreturns (by decide) hover⟩

end PredictionLeague
