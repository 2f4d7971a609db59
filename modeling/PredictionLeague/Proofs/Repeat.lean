import PredictionLeague.Proofs.Recording
import PredictionLeague.Proofs.Resettle
import PredictionLeague.Proofs.StableFigures

/-!
# The same call again

A call that returned finds everything in place when it is made again: the matches have their scores,
the predictions their verdicts, the round its points, the members their figures and the winners their
prizes. So it changes nothing but ids of winnings. There is one exception, for scores that name a
match more than once: a match that was completed before the first call, and that the scores report
completed first and leave open, is completed by the second call and not by the first, and then the
stable figures are made anew.

* `Reopens`: scores that report a completed match completed first and leave it open;
* `completes_again_iff`: when scores that complete no match complete one the second time;
* `Store.InPlace`: what a call that returned leaves; `inPlace_updateMatchResults`;
* `InPlace.again`, `InPlace.ranked_again`: what the same call does then;
* `updateMatchResults_again`: the same call again, and the same settlement.
-/

namespace PredictionLeague

open Engine

/-! ### Scores that complete a match the second time -/

/-- The first of the scores of a match. -/
def firstScore? (scores : List MatchScore) (matchId : Int) : Option MatchScore :=
  scores.find? (·.matchId == matchId)

/-- The scores report a completed match completed first, and leave it open. -/
def Reopens (fixtures : List Match) (scores : List MatchScore) : Prop :=
  ∃ m ∈ fixtures, m.status = .completed ∧
    (firstScore? scores m.id).map (·.status) = some .completed ∧
      (m.afterScores scores).status ≠ .completed

instance (fixtures : List Match) (scores : List MatchScore) :
    Decidable (Reopens fixtures scores) :=
  inferInstanceAs (Decidable (∃ m ∈ fixtures, m.status = .completed ∧
    (firstScore? scores m.id).map (·.status) = some .completed ∧
      (m.afterScores scores).status ≠ .completed))

theorem lastScore?_eq_none {scores : List MatchScore} {matchId : Int} :
    lastScore? scores matchId = none ↔ ∀ score ∈ scores, score.matchId ≠ matchId := by
  rw [← Option.not_isSome_iff_eq_none, isSome_lastScore?]
  simp only [not_exists, not_and, ne_eq]

/-- Scores of other matches leave a match as it is. -/
theorem Match.afterScores_of_none {scores : List MatchScore} {m : Match}
    (h : lastScore? scores m.id = none) : m.afterScores scores = m := by
  rw [afterScores, h]

/-- Scores that complete no match complete one the second time when they report a completed match
completed first and leave it open. -/
theorem completes_again_iff {fixtures : List Match} {scores : List MatchScore}
    (hnot : ¬Completes fixtures scores) :
    Completes (fixtures.map (Match.afterScores scores)) scores ↔ Reopens fixtures scores := by
  constructor
  · rintro ⟨xs, score, ys, hscores, hstatus, m', hm', hid, hopen⟩
    obtain ⟨m, hm, rfl⟩ := List.mem_map.1 hm'
    rw [Match.id_afterScores] at hid
    -- An earlier score of the match would have made this one complete it the first time.
    have hearlier : lastScore? xs m.id = none := by
      by_contra hsome
      obtain ⟨last, hlast⟩ := Option.ne_none_iff_exists'.1 hsome
      refine hnot ⟨xs, score, ys, hscores, hstatus, m, hm, hid, ?_⟩
      rw [← Match.afterScores_append, Match.afterScores, lastScore?_append, hlast] at hopen
      rw [Match.afterScores, hlast]
      exact hopen
    have hfirst : firstScore? scores m.id = some score := by
      have hnone : xs.find? (·.matchId == m.id) = none := by
        refine List.find?_eq_none.2 fun x hx hsame => ?_
        exact lastScore?_eq_none.1 hearlier x hx (beq_iff_eq.1 hsame)
      rw [firstScore?, hscores, List.find?_append, hnone, Option.none_or]
      exact List.find?_cons_of_pos (beq_iff_eq.2 hid.symm)
    refine ⟨m, hm, ?_, ?_, ?_⟩
    · by_contra hstill
      refine hnot ⟨xs, score, ys, hscores, hstatus, m, hm, hid, ?_⟩
      rwa [Match.afterScores_of_none hearlier]
    · rw [hfirst, Option.map_some, hstatus]
    · rwa [Match.afterScores_of_none (by rwa [Match.id_afterScores])] at hopen
  · rintro ⟨m, hm, -, hfirst, hopen⟩
    obtain ⟨score, hfind, hstatus⟩ := Option.map_eq_some_iff.1 hfirst
    obtain ⟨hid, xs, ys, hscores, hearlier⟩ := List.find?_eq_some_iff_append.1 hfind
    refine ⟨xs, score, ys, hscores, hstatus, _, List.mem_map_of_mem hm, ?_, ?_⟩
    · rw [Match.id_afterScores, beq_iff_eq.1 hid]
    · have hnone : lastScore? xs (m.afterScores scores).id = none := by
        refine lastScore?_eq_none.2 fun x hx hsame => ?_
        have hother := hearlier x hx
        rw [Match.id_afterScores] at hsame
        simp [hsame] at hother
      rwa [Match.afterScores_of_none hnone]

namespace Store

/-! ### What a call leaves -/

/-- Everything that a call for a round brings about is in place: its scores are recorded and would
be taken again, the round is in its present state, its points and live figures are made, and when
its matches are over its prizes are paid. -/
structure InPlace (t : Store) (round : Round) (scores : List MatchScore) (recording : Recording)
    (now : DateTime) : Prop where
  keyed : t.Keyed
  found : t.round? round.id = some round
  accepts : t.Accepts round.id scores recording
  carried : t.carried round recording now = t
  opened : round.opened recording now = round
  settled : t.Settled round
  figures : ∀ league ∈ t.leaguesOf round.seasonId, ∀ userId,
    t.isMember league.id userId = true →
      t.figuresOf league.id userId = [t.liveFigures round league.id userId]
  paid : (∀ m ∈ t.fixturesOf round.id, m.status = .completed) →
    ∃ awards, t.PaidUp round.id now round awards

/-- The stable figures of a round are in place: they fit, and its members show them. -/
def Stable (t : Store) (round : Round) : Prop :=
  t.stableFits round = true ∧ t.ranked round = t

variable {s t : Store} {round : Round} {scores : List MatchScore} {recording : Recording}
  {now : DateTime}

namespace InPlace

/-- Paying prizes that are paid changes nothing but ids of winnings. -/
theorem completeRound (h : t.InPlace round scores recording now) :
    ∃ winnings, (completeRound round.id now).Returns t () { t with winnings } ∧
      winnings.map Winning.bare = t.winnings.map Winning.bare := by
  have hfound : fits round.id = true ∧ t.round? round.id = some round := ⟨h.accepts.key, h.found⟩
  by_cases hover : ∀ m ∈ t.fixturesOf round.id, m.status = .completed
  · obtain ⟨awards, hpaid⟩ := h.paid hover
    have hall : (t.fixturesOf round.id).all (·.status == .completed) = true :=
      List.all_eq_true.2 fun m hm => beq_iff_eq.2 (hover m hm)
    have hclosed : t.closed round now = t := if_neg fun hopen => hopen.2 hpaid.completed
    have hprizes : (settlePrizes round now).Returns t (t.leaguesOf round.seasonId).length
        (t.withAwards now awards) :=
      (returns_settlePrizes hfound).2 ⟨hpaid.leagues, awards, hpaid.awarded, rfl, rfl⟩
    obtain ⟨winnings, hrecorded⟩ := hpaid.recorded
    refine ⟨(t.withAwards now awards).winnings, ?_, ?_⟩
    · rw [Returns, effect_completeRound hfound, if_pos hall, hclosed, hprizes.effect_bind]
      rfl
    · exact Prize.recordAwards_twice (known_roundAwards hpaid.awarded) now
        (congrArg (List.map Winning.bare) hrecorded)
  · have hall : ¬(t.fixturesOf round.id).all (·.status == .completed) = true := by
      intro hall
      exact hover fun m hm => beq_iff_eq.1 (List.all_eq_true.1 hall m hm)
    refine ⟨t.winnings, ?_, rfl⟩
    rw [Returns, effect_completeRound hfound, if_neg hall]

/-- What the same call does: the scores are taken again and change nothing. -/
theorem effect_again (h : t.InPlace round scores recording now) :
    (updateMatchResults round.id scores now).effect t =
      (settleScores round.id recording now).effect t := by
  rw [effect_updateMatchResults h.found h.accepts, h.carried]

/-- When the same call completes no match, or the stable figures are in place as well, it changes
nothing but ids of winnings. -/
theorem again (h : t.InPlace round scores recording now)
    (hstable : recording.newlyCompleted = true → t.Stable round) :
    ∃ winnings, (updateMatchResults round.id scores now).Returns t recording.updated.length
        { t with winnings } ∧
      winnings.map Winning.bare = t.winnings.map Winning.bare := by
  have hpoints : t.recomputed round = t := h.keyed.recomputed_of_settled h.settled.points
  have hfigured : t.figured round recording.newlyCompleted = t := by
    rw [figured, hpoints]
    split
    · rename_i hnewly
      rw [(hstable hnewly).2]
      exact h.keyed.shown_eq_self h.figures
    · exact h.keyed.shown_eq_self h.figures
  obtain ⟨winnings, hcomplete, hbare⟩ := h.completeRound
  refine ⟨winnings, ?_, hbare⟩
  rw [Returns, h.effect_again, ← Returns, returns_settleScores ⟨h.accepts.key, h.found⟩, hpoints,
    hfigured]
  exact ⟨h.settled.fit, fun hnewly => (hstable hnewly).1, hcomplete, rfl⟩

/-- When the same call completes a match and leaves one open, the stable figures are made anew, or
they do not fit and nothing changes. -/
theorem ranked_again (h : t.InPlace round scores recording now)
    (hnewly : recording.newlyCompleted = true)
    (hopen : ∃ m ∈ t.fixturesOf round.id, m.status ≠ .completed) :
    (updateMatchResults round.id scores now).effect t =
      if t.stableFits round then (.ok recording.updated.length, t.ranked round)
      else (.error .integerTooLarge, t) := by
  have hpoints : t.recomputed round = t := h.keyed.recomputed_of_settled h.settled.points
  rw [h.effect_again, effect_settleScores ⟨h.accepts.key, h.found⟩, if_pos h.settled.fit, hpoints]
  cases hfits : t.stableFits round with
  | false => rw [if_pos ⟨hnewly, rfl⟩, if_neg Bool.false_ne_true]
  | true =>
    rw [if_neg fun hunfit => Bool.false_ne_true hunfit.2.symm, if_pos rfl]
    -- Ranking by completed matches leaves the live figures in place.
    have hshown : (t.ranked round).shown round = t.ranked round := by
      have hkeyed := h.keyed.ranked round
      obtain ⟨stats, hstats⟩ := t.exists_ranked round
      refine hkeyed.shown_eq_self fun league hleague userId hmember => ?_
      have hfigures : (t.ranked round).figuresOf league.id userId =
          [t.liveFigures round league.id userId] := by
        refine h.keyed.map_statsOf_ranked round (fun u league r => ?_) (h.figures league ?_ userId ?_)
        · unfold stableRow
          split <;> rfl
        · rwa [hstats] at hleague
        · rwa [hstats] at hmember
      rw [hfigures, hstats]
      rfl
    have hfigured : t.figured round recording.newlyCompleted = t.ranked round := by
      rw [figured, hnewly, if_pos rfl, hpoints, hshown]
    obtain ⟨stats, hstats⟩ := t.exists_ranked round
    have hfound : fits round.id = true ∧ (t.ranked round).round? round.id = some round := by
      rw [hstats]
      exact ⟨h.accepts.key, h.found⟩
    have hall : ¬((t.ranked round).fixturesOf round.id).all (·.status == .completed) = true := by
      obtain ⟨m, hm, hstill⟩ := hopen
      intro hall
      rw [hstats] at hall
      exact hstill (beq_iff_eq.1 (List.all_eq_true.1 hall m hm))
    have hcomplete : (PredictionLeague.completeRound round.id now).Returns (t.ranked round) ()
        (t.ranked round) := by
      rw [Returns, effect_completeRound hfound, if_neg hall]
    rw [hfigured, hcomplete.effect_bind]
    rfl

end InPlace

/-! ### What puts everything in place -/

/-- Scores that were taken are taken again. -/
theorem Accepts.again (hs : s.Keyed) (h : s.Accepts round.id scores recording) (ht : t.Keyed)
    (hfixtures : t.fixtures = s.fixtures.map (matchAfter round.id scores)) :
    ∃ recording', t.Accepts round.id scores recording' ∧
      recording'.fixtures = recording.fixtures ∧ recording'.updated = recording.updated := by
  have hmatches := fixturesOf_after hfixtures
  have hids : (t.fixturesOf round.id).map (·.id) = (s.fixturesOf round.id).map (·.id) := by
    rw [hmatches, Match.map_id_afterScores]
  obtain ⟨hkey, ⟨m, hm, hlast⟩, hgood, hnumbers⟩ := (exists_accepts_iff hs).1 ⟨recording, h⟩
  obtain ⟨recording', h'⟩ : ∃ recording', t.Accepts round.id scores recording' := by
    refine (exists_accepts_iff ht).2 ⟨hkey, ?_, (goodScores_congr hids).2 hgood, ?_⟩
    · rw [Named, hmatches]
      exact ⟨_, List.mem_map_of_mem hm, by rwa [Match.id_afterScores]⟩
    · rw [hmatches]
      intro m' hm'
      obtain ⟨m, hm, rfl⟩ := List.mem_map.1 hm'
      rw [Match.afterScores_twice]
      exact hnumbers m hm
  refine ⟨recording', h', ?_, ?_⟩
  · rw [h'.fixtures ht, h.fixtures hs, hmatches, List.map_map]
    exact List.map_congr_left fun m _ => m.afterScores_twice scores
  · rw [h'.updated_eq, h.updated_eq, scoresOf_congr hids]

/-- Scores that are recorded are recorded once more as they are, when they do not start the round. -/
theorem Keyed.carried_eq_self (ht : t.Keyed) (h : t.Accepts round.id scores recording)
    (hstart : ¬(round.status = .published ∧ recording.anyStarted))
    (hfixtures : t.fixtures.map (matchAfter round.id scores) = t.fixtures)
    (hpredictions : t.predictions.map (t.predictionAfter round.id scores now) = t.predictions) :
    t.carried round recording now = t := by
  have hmatches := ht.fixtures_carried h now
  have hverdicts := ht.predictions_carried h now
  rw [hfixtures] at hmatches
  rw [hpredictions] at hverdicts
  have hframe : t.carried round recording now =
      { t with
        fixtures := (t.carried round recording now).fixtures
        predictions := (t.carried round recording now).predictions } := by
    rw [Store.carried, if_neg hstart]
    rfl
  rw [hframe, hmatches, hverdicts]

section Call

variable {n : Nat} (hround : s.round? round.id = some round)
  (h : s.Accepts round.id scores recording)
  (hreturns : (updateMatchResults round.id scores now).Returns s n t)

include hround h hreturns

/-- What a call that returned does once its scores are recorded. -/
theorem settles_updateMatchResults : n = recording.updated.length ∧
    (s.carried round recording now).pointsFit (round.opened recording now) = true ∧
    (recording.newlyCompleted = true →
      ((s.carried round recording now).recomputed (round.opened recording now)).stableFits
        (round.opened recording now) = true) ∧
    (completeRound round.id now).Returns ((s.carried round recording now).figured
      (round.opened recording now) recording.newlyCompleted) () t := by
  rw [Returns, effect_updateMatchResults hround h, ← Returns] at hreturns
  have hfound := s.round?_carried recording now hround
  have hkey := h.key
  rw [← round.id_opened recording now] at hreturns hfound hkey
  obtain ⟨hfit, hstable, hcomplete, hn⟩ := (returns_settleScores ⟨hkey, hfound⟩ recording).1 hreturns
  rw [Round.id_opened] at hcomplete
  exact ⟨hn, hfit, hstable, hcomplete⟩

/-- A round that would still start was not started, so no match that was updated has kicked off. -/
theorem not_started_again {round' : Round} (hround' : t.round? round.id = some round') :
    ¬(round'.status = .published ∧ recording.anyStarted) := by
  have hreported := reported_updateMatchResults hround scores now
  rw [hreturns.storeAfter, hreturns] at hreported
  rintro ⟨hpublished, hany⟩
  cases hreported with
  | refused _ hnone => exact hnone recording h
  | carried recording' haccepts hends =>
    obtain rfl := haccepts.unique h
    rcases hends.round?_of_carried hround with hsame | ⟨-, hcompleted⟩
    · obtain rfl := Option.some.inj (hround'.symm.trans hsame)
      by_cases hstart : round.status = .published ∧ recording'.anyStarted
      · rw [Round.opened, if_pos hstart] at hpublished
        exact RoundStatus.noConfusion hpublished
      · rw [Round.opened, if_neg hstart] at hpublished
        exact hstart ⟨hpublished, hany⟩
    · obtain rfl := Option.some.inj (hround'.symm.trans hcompleted)
      exact RoundStatus.noConfusion hpublished

/-- What a call that returned leaves of the points and of the stable figures. -/
theorem settled_updateMatchResults (hs : s.Keyed) {round' : Round} (hslot : round'.slot = round.slot) :
    t.Settled round' ∧ (recording.newlyCompleted = true → t.Stable round') := by
  have hkeyed := hs.carried h hround now
  have hfound := s.round?_carried recording now hround
  have hmem := ((Table.get?_eq_some hkeyed.rounds).1 hfound).1
  obtain ⟨-, hfit, hstable, hcomplete⟩ := settles_updateMatchResults hround h hreturns
  have hopened : round'.slot = (round.opened recording now).slot := by
    rw [hslot, Round.opened]
    split <;> rfl
  generalize round.opened recording now = opened at hfit hstable hcomplete hopened hmem
  generalize s.carried round recording now = u at hkeyed hfit hstable hcomplete hmem
  have hid : round'.id = opened.id := congrArg RoundSlot.id hopened
  have hseason : round'.seasonId = opened.seasonId := congrArg RoundSlot.seasonId hopened
  have hfigured := hkeyed.figured opened recording.newlyCompleted
  obtain ⟨ht, hprogress, hstats⟩ := progressed_completeRound hfigured hcomplete
  have hpassed := (u.progressed_figured opened recording.newlyCompleted).trans hprogress
  refine ⟨ht.settled_of_slot (hpassed.settled (hkeyed.recomputed opened) ht
    (hkeyed.settled_recomputed hfit)) hopened, fun hnewly => ?_⟩
  have hmade {league : League} {userId : Int} : league ∈ u.leaguesOf opened.seasonId →
      u.isMember league.id userId = true →
      (u.figured opened true).stableOf league.id userId =
        [u.stableFigures opened.id league userId] :=
    fun hleague hmember => hkeyed.stableOf_figured_newly hleague hmember
  rw [hnewly] at hstats hprogress
  obtain ⟨counts, points, hpoints⟩ := u.recomputed_frame opened
  obtain ⟨counts', points', stats, hframe⟩ := u.figured_frame opened true
  obtain ⟨rounds, stats', winnings, hrest⟩ := hprogress.rest
  rw [hframe] at hrest
  have hfits := hstable hnewly
  rw [hpoints] at hfits
  refine ⟨?_, ht.ranked_eq_self fun league hleague userId hmember => ?_⟩
  · rw [stableFits, hid, hseason, hrest]
    exact hfits
  · have hshows : t.stableOf league.id userId = (u.figured opened true).stableOf league.id userId :=
      congrArg (List.map MemberStats.stable) (statsOf_congr (by rw [hstats]) userId)
    rw [hshows, hmade]
    · rw [hrest, hid]
      rfl
    · rwa [hseason, hrest] at hleague
    · rwa [hrest] at hmember

/-- A call that returned and takes its scores leaves everything in place, the stable figures as well
when it completed a match. -/
theorem inPlace_updateMatchResults (hs : s.Keyed) :
    ∃ round' recording', round'.slot = round.slot ∧ recording'.updated = recording.updated ∧
      t.InPlace round' scores recording' now ∧
      (recording.newlyCompleted = true → t.Stable round') := by
  have hrefreshed := hs.refreshed_of_accepts hround h hreturns
  obtain ⟨round', hround', hslot⟩ := exists_round_of_slots hrefreshed.slots hround
  have hid : round'.id = round.id := congrArg RoundSlot.id hslot
  have hseason : round'.seasonId = round.seasonId := congrArg RoundSlot.seasonId hslot
  obtain ⟨recording', h', hsame, hupdated⟩ := h.again hs hrefreshed.keyed hrefreshed.fixtures
  have hstart : ¬(round'.status = .published ∧ recording'.anyStarted) := by
    rw [Recording.anyStarted, hsame, hupdated, ← Recording.anyStarted]
    exact not_started_again hround h hreturns hround'
  obtain ⟨hsettled, hstable⟩ := settled_updateMatchResults hround h hreturns hs hslot
  have hn : n ≠ 0 := by
    rw [(settles_updateMatchResults hround h hreturns).1]
    simpa using h.some
  have hmatches : t.fixtures.map (matchAfter round'.id scores) = t.fixtures := by
    rw [hid, hrefreshed.fixtures, List.map_map]
    exact List.map_congr_left fun m _ => matchAfter_twice round.id scores m
  have hverdicts : t.predictions.map (t.predictionAfter round'.id scores now) = t.predictions := by
    rw [hid]
    conv_rhs => rw [hrefreshed.predictions]
    conv_lhs => rw [hrefreshed.predictions, List.map_map]
    exact List.map_congr_left fun p _ => predictionAfter_twice hrefreshed.fixtures now p
  rw [← hid] at h' hround'
  refine ⟨round', recording', hslot, hupdated, ?_, hstable⟩
  exact {
    keyed := hrefreshed.keyed
    found := hround'
    accepts := h'
    carried := hrefreshed.keyed.carried_eq_self h' hstart hmatches hverdicts
    opened := if_neg hstart
    settled := hsettled
    figures := by
      intro league hleague userId hmember
      rw [hseason, hrefreshed.leaguesOf] at hleague
      rw [hrefreshed.isMember] at hmember
      rw [hrefreshed.figures league hleague userId hmember, liveFigures_of_slot hslot]
    paid := by
      intro hover
      rw [hid] at hover hround' ⊢
      obtain ⟨paid, awards, hpaid⟩ := paidUp_updateMatchResults hs hreturns hn hover
      obtain rfl := Option.some.inj (hpaid.found.2.symm.trans hround')
      exact ⟨awards, hpaid⟩ }

end Call

end Store

open Store

/-! ### The same call and the same settlement -/

variable {s t : Store} {roundId : Int} {now : DateTime} {n : Nat}

/-- A settlement pays its round up. -/
theorem paidUp_settleRound (hs : s.Keyed) (h : (settleRound roundId now).Returns s n t) :
    ∃ round awards, t.PaidUp roundId now round awards ∧
      n = (t.leaguesOf round.seasonId).length := by
  obtain ⟨round, ⟨hkey, hround⟩, hstatus, hfit, hleagues, awards, hawards, ht, hn⟩ :=
    returns_settleRound.1 h
  obtain rfl : round.id = roundId := Table.id_of_get? hround
  have hsame : (s.recomputed round).leaguesOf round.seasonId = s.leaguesOf round.seasonId := by
    obtain ⟨counts, points, hframe⟩ := s.recomputed_frame round
    rw [hframe]
    rfl
  have hfound : (s.recomputed round).round? round.id = some round := by
    rwa [s.round?_recomputed]
  have hprizes : (settlePrizes round now).Returns (s.recomputed round) n t := by
    refine (returns_settlePrizes ⟨hkey, hfound⟩).2 ⟨?_, awards, hawards, ht, ?_⟩
    · rwa [hsame]
    · rw [hsame, hn]
  obtain ⟨awards', hpaid⟩ := paidUp_settlePrizes (hs.recomputed round) hkey hfound hstatus
    (hs.settled_recomputed hfit) hprizes
  refine ⟨round, awards', hpaid, ?_⟩
  rw [hn, ht, ← hsame]
  rfl

/-- A call that returned changes nothing but ids of winnings when it is made again, unless it
completed no match and its scores report a completed match completed first and leave it open. Then
the call made again ranks the members by completed matches and changes nothing else, or it stops and
changes nothing, because these points do not fit. A settlement that returned changes nothing but ids
of winnings when it is made again. -/
theorem updateMatchResults_again (hs : s.Keyed) (roundId : Int) (scores : List MatchScore)
    (now : DateTime) :
    (∀ n t, (updateMatchResults roundId scores now).Returns s n t →
      (Completes (s.fixturesOf roundId) scores ∨ ¬Reopens (s.fixturesOf roundId) scores →
        ∃ winnings, (updateMatchResults roundId scores now).Returns t n { t with winnings } ∧
          winnings.map Winning.bare = t.winnings.map Winning.bare) ∧
      (¬Completes (s.fixturesOf roundId) scores → Reopens (s.fixturesOf roundId) scores →
        ∃ round, t.round? roundId = some round ∧
          (updateMatchResults roundId scores now).effect t =
            if t.stableFits round then (.ok n, t.ranked round)
            else (.error .integerTooLarge, t))) ∧
    ∀ n t, (settleRound roundId now).Returns s n t →
      ∃ winnings, (settleRound roundId now).Returns t n { t with winnings } ∧
        winnings.map Winning.bare = t.winnings.map Winning.bare := by
  refine ⟨fun n t h => ?_, fun n t h => ?_⟩
  · obtain ⟨round, hround⟩ := exists_round_of_returns h
    obtain rfl : round.id = roundId := Table.id_of_get? hround
    by_cases hname : s.Named round.id scores
    · obtain ⟨recording, haccepts⟩ := exists_accepts hs h hname
      obtain ⟨round', recording', hslot, hupdated, hplace, hstable⟩ :=
        inPlace_updateMatchResults hround haccepts h hs
      have hid : round'.id = round.id := congrArg RoundSlot.id hslot
      have hn : n = recording'.updated.length := by
        rw [hupdated]
        exact (settles_updateMatchResults hround haccepts h).1
      have hmatches : t.fixturesOf round.id =
          (s.fixturesOf round.id).map (Match.afterScores scores) := by
        obtain ⟨-, hrefreshed⟩ := (refreshed_updateMatchResults hs hround h).resolve_left
          fun hnot => hnot.1 hname
        exact fixturesOf_after hrefreshed.fixtures
      have hnewly : recording'.newlyCompleted = true ↔
          Completes ((s.fixturesOf round.id).map (Match.afterScores scores)) scores := by
        rw [hplace.accepts.newly_iff hplace.keyed, hid, hmatches]
      rw [← hid, hn]
      refine ⟨fun hcase => hplace.again fun hagain => ?_, fun hnot hreopens => ?_⟩
      · rw [hid] at hcase
        by_cases hcompletes : Completes (s.fixturesOf round.id) scores
        · exact hstable ((haccepts.newly_iff hs).2 hcompletes)
        · have hnone := hcase.resolve_left hcompletes
          exact absurd ((completes_again_iff hcompletes).1 (hnewly.1 hagain)) hnone
      · rw [hid] at hnot hreopens
        obtain ⟨m, hm, -, -, hopen⟩ := id hreopens
        refine ⟨round', hplace.found,
          hplace.ranked_again (hnewly.2 ((completes_again_iff hnot).2 hreopens)) ?_⟩
        rw [hid, hmatches]
        exact ⟨_, List.mem_map_of_mem hm, hopen⟩
    · -- Scores that name no match of the round are skipped both times.
      obtain ⟨-, rfl⟩ := (refreshed_updateMatchResults hs hround h).resolve_right
        fun hrefreshed => hname hrefreshed.1
      refine ⟨fun _ => ⟨t.winnings, h, rfl⟩, fun _ hreopens => ?_⟩
      obtain ⟨m, hm, -, hfirst, -⟩ := hreopens
      obtain ⟨score, hfind, -⟩ := Option.map_eq_some_iff.1 hfirst
      have hmatch : score.matchId = m.id := by simpa using List.find?_some hfind
      have hlast := isSome_lastScore?.2 ⟨score, List.mem_of_find?_eq_some hfind, hmatch⟩
      exact absurd ⟨m, hm, hlast⟩ hname
  · obtain ⟨round, awards, hpaid, rfl⟩ := paidUp_settleRound hs h
    exact hpaid.settleRound

/-- The first match is reported completed and then still in progress. -/
def reopeningScores : List MatchScore := [⟨1, 0, 0, .completed⟩, ⟨1, 0, 0, .inProgress⟩]

/-- The open round when its first match was completed and then opened again. -/
def firstReopened : Store := openStoreAfter [[⟨1, 0, 0, .completed⟩], reopeningScores]

theorem same_calls_again :
    (lastMatchStore.Keyed ∧
      (updateMatchResults 1 [⟨2, 1, 1, .completed⟩] .newYear2025).Returns lastMatchStore 1
        lastMatchOver ∧
      ∃ winnings, (updateMatchResults 1 [⟨2, 1, 1, .completed⟩] .newYear2025).Returns lastMatchOver 1
          { lastMatchOver with winnings } ∧
        winnings.map Winning.bare = lastMatchOver.winnings.map Winning.bare) ∧
    (firstCompleted.Keyed ∧
      (updateMatchResults 1 reopeningScores .newYear2025).Returns firstCompleted 2 firstReopened ∧
      ∃ round, firstReopened.round? 1 = some round ∧
        (updateMatchResults 1 reopeningScores .newYear2025).effect firstReopened =
          if firstReopened.stableFits round then (.ok 2, firstReopened.ranked round)
          else (.error .integerTooLarge, firstReopened)) ∧
    (lastMatchOver.Keyed ∧
      ∃ t, (settleRound 1 .newYear2025).Returns lastMatchOver 2 t ∧
        ∃ winnings, (settleRound 1 .newYear2025).Returns t 2 { t with winnings } ∧
          winnings.map Winning.bare = t.winnings.map Winning.bare) := by
  have hlast : lastMatchStore.Keyed := by decide
  have hover : lastMatchOver.Keyed := by decide +kernel
  have hfirst : firstCompleted.Keyed := by decide +kernel
  have hcall : (updateMatchResults 1 [⟨2, 1, 1, .completed⟩] .newYear2025).Returns lastMatchStore 1
      lastMatchOver := by decide +kernel
  have hreopened : (updateMatchResults 1 reopeningScores .newYear2025).Returns firstCompleted 2
      firstReopened := by decide +kernel
  have hsettled : (settleRound 1 .newYear2025).Returns lastMatchOver 2
      ((settleRound 1 .newYear2025).storeAfter lastMatchOver) := by decide +kernel
  have hreopens : Reopens (firstCompleted.fixturesOf 1) reopeningScores := by decide +kernel
  have hcompletes : ¬Completes (firstCompleted.fixturesOf 1) reopeningScores := by decide +kernel
  have hnone : ¬Reopens (lastMatchStore.fixturesOf 1) [⟨2, 1, 1, .completed⟩] := by decide
  exact ⟨⟨hlast, hcall,
      ((updateMatchResults_again hlast 1 _ .newYear2025).1 _ _ hcall).1 (.inr hnone)⟩,
    ⟨hfirst, hreopened,
      ((updateMatchResults_again hfirst 1 _ .newYear2025).1 _ _ hreopened).2 hcompletes hreopens⟩,
    ⟨hover, _, hsettled, (updateMatchResults_again hover 1 [] .newYear2025).2 _ _ hsettled⟩⟩

/-- The second time the match is completed again, and player 11 loses the points for it. -/
theorem reopened_match_counts_again : ¬∀ (s t : Store) (roundId : Int) (scores : List MatchScore)
    (now : DateTime) (n : Nat), s.Keyed → (updateMatchResults roundId scores now).Returns s n t →
      ∃ winnings, (updateMatchResults roundId scores now).Returns t n { t with winnings } ∧
        winnings.map Winning.bare = t.winnings.map Winning.bare := by
  intro h
  have hreopened : (updateMatchResults 1 reopeningScores .newYear2025).Returns firstCompleted 2
      firstReopened := by decide +kernel
  obtain ⟨winnings, hagain, -⟩ :=
    h firstCompleted firstReopened 1 reopeningScores .newYear2025 2 (by decide +kernel) hreopened
  have hkept : ((updateMatchResults 1 reopeningScores .newYear2025).storeAfter
      firstReopened).stableOf 1 11 = firstReopened.stableOf 1 11 := by
    rw [hagain.storeAfter]
    rfl
  exact absurd hkept (by decide +kernel)

end PredictionLeague
