import PredictionLeague.Proofs.Ranking
import PredictionLeague.Proofs.Stages

/-!
# Stable figures

The stable figures of a round are made from its completed matches, and only by a call that completes
one. So they show the matches that were completed then, with the scores that they had then; a call
that corrects or reopens a completed match and completes none leaves them as they are.

* `Store.completedOf`, `Store.stableFrom`: the completed matches of a round, and the stable figures
  that given matches make;
* `Keyed.stableOf_ranked`, `Keyed.stableOf_shown`, `Keyed.stableOf_snapshots`: what ranking, showing
  and starting a round do to the stable figures;
* `Played`: calls that record scores of a round, and the matches from which its stable figures were
  made last;
* `Played.reflects`: the stable figures are made from these matches;
* `Played.stable_updateMatchResults`: what a call that returns does to these matches.
-/

namespace PredictionLeague

/-- The figures of a member by completed matches. -/
structure StableFigures where
  points : Int
  rank : Int
  deriving DecidableEq

/-- The stable figures of a stats row. -/
def MemberStats.stable (r : MemberStats) : StableFigures := ⟨r.stablePoints, r.stableRank⟩

namespace Store

/-- The completed matches of a round. -/
def completedOf (s : Store) (roundId : Int) : List Match :=
  (s.fixturesOf roundId).filter (·.status == .completed)

/-- Whether a prediction is on a completed match of a round. -/
def onCompleted (s : Store) (roundId : Int) (p : Prediction) : Bool :=
  (s.completedOf roundId).any (·.id == p.matchId)

/-- How many predictions of a player get a verdict from given matches. -/
def verdictsFrom (s : Store) (ms : List Match) (userId : Int) (verdict : Outcome) : Nat :=
  s.predictions.countP fun p =>
    p.userId == userId && ms.any fun m => m.id == p.matchId && p.verdict m == verdict

/-- The points of a player by given matches. -/
def pointsFrom (s : Store) (ms : List Match) (league : League) (userId : Int) : Int :=
  s.verdictsFrom ms userId .exactScore * league.exactWeight +
    s.verdictsFrom ms userId .correctResult * league.resultWeight

/-- The stable figures that given matches make for a member of a league. -/
def stableFrom (s : Store) (ms : List Match) (league : League) (userId : Int) : StableFigures :=
  ⟨s.pointsFrom ms league userId, s.memberRank league.id (s.pointsFrom ms league) userId⟩

/-- The stable figures in the stats of a player in a league. -/
def stableOf (s : Store) (leagueId userId : Int) : List StableFigures :=
  (s.statsOf leagueId userId).map MemberStats.stable

/-- The stable figures of a member by the verdicts on its predictions of completed matches. -/
def stableFigures (s : Store) (roundId : Int) (league : League) (userId : Int) : StableFigures :=
  ⟨s.stablePoints league roundId userId,
    s.memberRank league.id (s.stablePoints league roundId) userId⟩

/-- The predictions on the matches of a round are judged by the matches as they are. -/
def Judged (s : Store) (roundId : Int) : Prop :=
  ∀ m ∈ s.fixturesOf roundId, ∀ p ∈ s.predictions, p.matchId = m.id → p.outcome = p.verdict m

instance (s : Store) (roundId : Int) : Decidable (s.Judged roundId) :=
  inferInstanceAs (Decidable (∀ m ∈ s.fixturesOf roundId, ∀ p ∈ s.predictions,
    p.matchId = m.id → p.outcome = p.verdict m))

/-- A round is published and has not started. -/
def Published (s : Store) (roundId : Int) : Prop :=
  ∃ round, s.round? roundId = some round ∧ round.status = .published

variable {s t : Store} {roundId userId : Int} {league : League}

/-! ### Points by completed matches -/

theorem mem_completedOf {m : Match} :
    m ∈ s.completedOf roundId ↔ m ∈ s.fixturesOf roundId ∧ m.status = .completed := by
  rw [completedOf, List.mem_filter, beq_iff_eq]

/-- Counting the verdicts on a player's predictions of completed matches. -/
theorem Keyed.count_onCompleted (hs : s.Keyed) (roundId userId : Int) (verdict : Outcome) :
    (s.completedVerdicts roundId userId).count verdict =
      s.predictions.countP fun p =>
        p.userId == userId && s.onCompleted roundId p && p.outcome == verdict := by
  have hlist : s.completedVerdicts roundId userId =
      (((s.completedOf roundId).flatMap fun m => s.predictionsOf m.id).filter
        (·.userId == userId)).map (·.outcome) := by
    rw [List.filter_flatMap, List.map_flatMap]
    rfl
  have hnodup : ((s.completedOf roundId).map Match.id).Nodup :=
    ((hs.fixtures.filter fun m => m.roundId == roundId).filter _).nodup_ids
  rw [hlist, (((s.predictionsOf_perm hnodup).filter _).map _).count_eq, List.count_eq_countP,
    List.countP_map, List.filter_filter, List.countP_filter]
  refine List.countP_congr fun p _ => ?_
  simp only [Function.comp_apply, Bool.and_eq_true, onCompleted]
  tauto

/-- They are those of the matches as they are, once the predictions are judged by them. -/
theorem Keyed.count_completedVerdicts (hs : s.Keyed) (hjudged : s.Judged roundId)
    (verdict : Outcome) : (s.completedVerdicts roundId userId).count verdict =
      s.verdictsFrom (s.completedOf roundId) userId verdict := by
  rw [hs.count_onCompleted, verdictsFrom]
  refine List.countP_congr fun p hp => ?_
  simp only [onCompleted, Bool.and_eq_true, beq_iff_eq, List.any_eq_true]
  -- The verdict on a prediction is that of its match.
  constructor
  · rintro ⟨⟨huser, m, hm, hid⟩, hverdict⟩
    have houtcome := hjudged m (mem_completedOf.1 hm).1 p hp hid.symm
    exact ⟨huser, m, hm, hid, houtcome ▸ hverdict⟩
  · rintro ⟨huser, m, hm, hid, hverdict⟩
    have houtcome := hjudged m (mem_completedOf.1 hm).1 p hp hid.symm
    exact ⟨⟨huser, m, hm, hid⟩, houtcome.trans hverdict⟩

theorem Keyed.stablePoints_eq (hs : s.Keyed) (hjudged : s.Judged roundId) (league : League) :
    s.stablePoints league roundId = s.pointsFrom (s.completedOf roundId) league := by
  funext userId
  simp only [stablePoints, Tally.of, League.points, pointsFrom,
    hs.count_completedVerdicts hjudged]

/-- No matches make no points, and everybody is first. -/
theorem stableFrom_nil (s : Store) (league : League) (userId : Int) :
    s.stableFrom [] league userId = ⟨0, 1⟩ := by
  have hnone (userId : Int) (verdict : Outcome) : s.verdictsFrom [] userId verdict = 0 := by
    simp [verdictsFrom]
  have hpoints : s.pointsFrom [] league = fun _ => 0 := by
    funext userId
    simp [pointsFrom, hnone]
  simp [stableFrom, hpoints, memberRank]

/-- Figures made from given matches depend on what was predicted, and on the members. -/
theorem stableFrom_congr (hmembers : t.members = s.members) {f : Prediction → Prediction}
    (hf : ∀ p, SamePrediction p (f p)) (hpredictions : t.predictions = s.predictions.map f)
    (ms : List Match) (league : League) : t.stableFrom ms league = s.stableFrom ms league := by
  have hverdicts (userId : Int) (verdict : Outcome) :
      t.verdictsFrom ms userId verdict = s.verdictsFrom ms userId verdict := by
    rw [verdictsFrom, hpredictions, List.countP_map, verdictsFrom]
    refine List.countP_congr fun p _ => ?_
    simp only [Function.comp_apply, (hf p).userId, (hf p).matchId, (hf p).verdict]
  have hpoints : t.pointsFrom ms league = s.pointsFrom ms league := by
    funext userId
    rw [pointsFrom, hverdicts, hverdicts, pointsFrom]
  funext userId
  rw [stableFrom, stableFrom, hpoints, memberRank, memberRank, approvedMembers, approvedMembers,
    hmembers]

/-! ### The three updates -/

section Updates

variable {round : Round} (hs : s.Keyed) (hleague : league ∈ s.leaguesOf round.seasonId)
  (hmember : s.isMember league.id userId = true)

include hs hleague

theorem Keyed.exists_stats_foldl {f : Store → League → Store} (hf : LeagueUpdate f)
    (userId : Int) : ∃ stats, { s with stats }.Keyed ∧
      { s with stats }.statsOf league.id userId = s.statsOf league.id userId ∧
      ((s.leaguesOf round.seasonId).foldl f s).statsOf league.id userId =
        (f { s with stats } league).statsOf league.id userId := by
  obtain ⟨stats, hkeyed, hkept, hown⟩ := hf.foldl_own hs (hs.leagues.filter _).nodup_ids hleague
  exact ⟨stats, hkeyed, statsOf_congr hkept userId, statsOf_congr hown userId⟩

section Change

variable {f : Store → League → Store} {g : Store → League → MemberStats → MemberStats}
  (hf : LeagueUpdate f) (hchange : ∀ s league, f s league = s.changeStats league.id (g s league))
  (hkey : ∀ s league r, (g s league r).key = r.key)

include hf hchange hkey

/-- The stats that a player has are changed by the update of its league. -/
theorem Keyed.exists_statsOf_old (hsome : s.statsOf league.id userId ≠ []) : ∃ stats,
    ((s.leaguesOf round.seasonId).foldl f s).statsOf league.id userId =
      (s.statsOf league.id userId).map (g { s with stats } league) := by
  obtain ⟨stats, hkeyed, hkept, hown⟩ := hs.exists_stats_foldl hleague hf userId
  refine ⟨stats, ?_⟩
  rw [hown, hchange, hkeyed.statsOf_changeStats (hkey _ league) (.inr (hkept ▸ hsome)), hkept]

/-- A member without stats gets fresh ones, and these are changed. -/
theorem Keyed.exists_statsOf_new (hmember : s.isMember league.id userId = true)
    (hnone : s.statsOf league.id userId = []) : ∃ stats id,
    ((s.leaguesOf round.seasonId).foldl f s).statsOf league.id userId =
      [g { s with stats } league (MemberStats.fresh league.id userId id)] := by
  obtain ⟨stats, hkeyed, hkept, hown⟩ := hs.exists_stats_foldl hleague hf userId
  obtain ⟨id, hid⟩ := hkeyed.statsOf_changeStats_new (hkey { s with stats } league) hmember
    (hkept.trans hnone)
  exact ⟨stats, id, by rw [hown, hchange, hid]⟩

end Change

include hmember

/-- Ranking a round gives its members the stable figures of the verdicts. -/
theorem Keyed.stableOf_ranked_eq :
    (s.ranked round).stableOf league.id userId = [s.stableFigures round.id league userId] := by
  obtain ⟨stats, hkeyed, -, hown⟩ :=
    hs.exists_stats_foldl hleague (leagueUpdate_stable round.id) userId
  obtain ⟨row, hid, rfl, hrow⟩ := hkeyed.exists_statsOf_changeStats
    (key_stableRow { s with stats } round.id league) hmember
  have hpicked : (row.leagueId == league.id &&
      (s.approvedMembers league.id).contains row.userId) = true := by
    rw [hid, beq_self_eq_true, Bool.true_and, List.contains_iff_mem]
    exact mem_approvedMembers.2 hmember
  rw [stableOf, Store.ranked, hown, stableLeague_eq, hrow, List.map_singleton, stableRow,
    if_pos (by exact hpicked), MemberStats.stable]
  simp only [stableScores]
  rw [hkeyed.lookup_members hmember, hkeyed.rankOf_members hmember, Option.getD_some]
  rfl

/-- Ranking a round makes the stable figures of its members from its completed matches. -/
theorem Keyed.stableOf_ranked (hjudged : s.Judged round.id) :
    (s.ranked round).stableOf league.id userId =
      [s.stableFrom (s.completedOf round.id) league userId] := by
  rw [hs.stableOf_ranked_eq hleague hmember, stableFigures, hs.stablePoints_eq hjudged, stableFrom]

/-- Starting a round resets the stable figures of its members. -/
theorem Keyed.stableOf_snapshots :
    ((s.leaguesOf round.seasonId).foldl snapshotLeague s).stableOf league.id userId =
      [⟨0, 1⟩] := by
  obtain ⟨stats, hkeyed, -, hown⟩ := hs.exists_stats_foldl hleague leagueUpdate_snapshot userId
  obtain ⟨row, hid, rfl, hrow⟩ :=
    hkeyed.exists_statsOf_changeStats (key_snapshotRow league) hmember
  rw [stableOf, hown, snapshotLeague_eq, hrow, List.map_singleton, snapshotRow,
    if_pos (beq_iff_eq.2 hid)]
  rfl

omit hmember in
/-- Showing the points of a round leaves stable figures that are there alone. -/
theorem Keyed.stableOf_shown (hsome : s.stableOf league.id userId ≠ []) :
    (s.shown round).stableOf league.id userId = s.stableOf league.id userId := by
  have hrows : s.statsOf league.id userId ≠ [] := by
    intro hnone
    exact hsome (by rw [stableOf, hnone]; rfl)
  obtain ⟨stats, hown⟩ := hs.exists_statsOf_old hleague (leagueUpdate_live round)
    (fun u => u.liveLeague_eq round) (fun u => u.key_liveRow round) hrows
  rw [stableOf, Store.shown, hown, List.map_map]
  refine List.map_congr_left fun r _ => ?_
  rw [Function.comp_apply, liveRow]
  split <;> rfl

end Updates

section Figured

variable {round : Round}

theorem stable_liveRow (s : Store) (round : Round) (league : League) (r : MemberStats) :
    (s.liveRow round league r).stable = r.stable := by
  unfold liveRow
  split <;> rfl

/-- Making the points anew, ranking the members by completed matches and showing their points gives
them the stable figures of the verdicts. -/
theorem Keyed.stableOf_figured_newly (hs : s.Keyed) {league : League}
    (hleague : league ∈ s.leaguesOf round.seasonId) {userId : Int}
    (hmember : s.isMember league.id userId = true) :
    (s.figured round true).stableOf league.id userId =
      [s.stableFigures round.id league userId] := by
  have hkeyed := hs.recomputed round
  obtain ⟨counts, points, hpoints⟩ := s.recomputed_frame round
  rw [Store.figured, if_pos rfl]
  rw [hpoints] at hkeyed ⊢
  have hranked := hkeyed.stableOf_ranked_eq hleague hmember
  exact (hkeyed.ranked round).map_statsOf_shown round (fun u => stable_liveRow u round) hranked

/-- Without a ranking the stable figures that are there stay. -/
theorem Keyed.stableOf_figured (hs : s.Keyed) {leagueId userId : Int} {figures : StableFigures}
    (h : s.stableOf leagueId userId = [figures]) :
    (s.figured round false).stableOf leagueId userId = [figures] := by
  have hkeyed := hs.recomputed round
  obtain ⟨counts, points, hpoints⟩ := s.recomputed_frame round
  rw [Store.figured, if_neg Bool.false_ne_true]
  rw [hpoints] at hkeyed ⊢
  exact hkeyed.map_statsOf_shown round (fun u => stable_liveRow u round) h

/-- A round whose members all have the stable figures of the verdicts is left as it is by ranking
it. -/
theorem Keyed.ranked_eq_self (hs : s.Keyed) {round : Round}
    (h : ∀ league ∈ s.leaguesOf round.seasonId, ∀ userId, s.isMember league.id userId = true →
      s.stableOf league.id userId = [s.stableFigures round.id league userId]) :
    s.ranked round = s := by
  refine foldl_eq_self fun league hleague => ?_
  rw [stableLeague_eq]
  refine changeStats_eq_self (fun userId hmember hnone => ?_) fun r hr => ?_
  · have hfigures := h league hleague userId hmember
    rw [stableOf, hnone] at hfigures
    exact absurd hfigures.symm (List.cons_ne_nil _ _)
  · rw [stableRow]
    split
    · rename_i hpicked
      rw [Bool.and_eq_true, beq_iff_eq, List.contains_iff_mem, mem_approvedMembers] at hpicked
      obtain ⟨hid, hmember⟩ := hpicked
      have hfigures := h league hleague r.userId hmember
      rw [← hid, stableOf, hs.statsOf_of_mem hr, List.map_singleton] at hfigures
      have hstable : r.stable = s.stableFigures round.id league r.userId :=
        List.head_eq_of_cons_eq hfigures
      have hlookup := hs.lookup_members hmember (s.stablePoints league round.id)
      have hrank := hs.rankOf_members hmember (s.stablePoints league round.id)
      rw [stableScores, hlookup, hrank, Option.getD_some,
        show s.stablePoints league round.id r.userId = r.stablePoints from
          (congrArg StableFigures.points hstable).symm,
        show (s.memberRank league.id (s.stablePoints league round.id) r.userId : Int) =
          r.stableRank from (congrArg StableFigures.rank hstable).symm]
    · rfl

end Figured


/-! ### One call -/

section Call

variable {round : Round} {scores : List MatchScore} {recording : Recording} {now : DateTime}
  {newly : Bool} {answer : Except Fault Nat} {basis : List Match}

/-- The members of the leagues of a season have the stable figures that given matches make. -/
def Reflects (s : Store) (seasonId : Int) (basis : List Match) : Prop :=
  ∀ league ∈ s.leaguesOf seasonId, ∀ userId, s.isMember league.id userId = true →
    s.stableOf league.id userId = [s.stableFrom basis league userId]

/-- A call makes the stable figures anew: its scores are accepted and complete a match, and the
points fit. -/
def Recounts (s : Store) (roundId : Int) (scores : List MatchScore) (now : DateTime) : Prop :=
  ∃ round recording, s.round? roundId = some round ∧ s.Accepts roundId scores recording ∧
    Completes (s.fixturesOf roundId) scores ∧
    (s.carried round recording now).pointsFit (round.opened recording now) = true ∧
    ((s.carried round recording now).recomputed (round.opened recording now)).stableFits
      (round.opened recording now) = true

/-- Completing a round and paying prizes leaves stable figures alone. -/
theorem stableOf_closed (s : Store) (round : Round) (now : DateTime) (winnings : List Winning)
    (leagueId userId : Int) :
    { s.closed round now with winnings }.stableOf leagueId userId =
      s.stableOf leagueId userId := by
  obtain ⟨rounds, hclosed⟩ := s.closed_frame round now
  rw [hclosed]
  rfl

/-- Judging again keeps the predictions of a round judged. -/
theorem Judged.carried (hjudged : s.Judged round.id) (hs : s.Keyed)
    (h : s.Accepts round.id scores recording) (now : DateTime) :
    (s.carried round recording now).Judged round.id := by
  intro m' hm' p' hp' hid
  rw [fixturesOf_after (hs.fixtures_carried h now)] at hm'
  rw [hs.predictions_carried h now] at hp'
  obtain ⟨m, hm, rfl⟩ := List.mem_map.1 hm'
  obtain ⟨p, hp, rfl⟩ := List.mem_map.1 hp'
  have hsame := s.samePrediction_predictionAfter round.id scores now p
  rw [hsame.matchId, Match.id_afterScores] at hid
  have hfound : Table.get? (s.fixturesOf round.id) p.matchId = some m :=
    (Table.get?_eq_some (hs.fixtures.filter _)).2 ⟨hm, hid.symm⟩
  rw [hsame.verdict, predictionAfter, hfound, Match.afterScores, ← hid]
  cases lastScore? scores p.matchId with
  | none => exact hjudged m hm p hp hid
  | some score => rfl

/-- A round that starts resets the stable figures of its members. -/
theorem Keyed.stableOf_carried (hs : s.Keyed) (hround : s.round? round.id = some round)
    (h : s.Accepts round.id scores recording) (now : DateTime)
    (hstart : round.status = .published ∧ recording.anyStarted)
    (hleague : league ∈ s.leaguesOf round.seasonId)
    (hmember : s.isMember league.id userId = true) :
    (s.carried round recording now).stableOf league.id userId = [⟨0, 1⟩] := by
  have hrecorded : (s.withRecording recording).Keyed := hs.withFixtures (hs.fixtures_accepted h)
  have hmem : round ∈ s.rounds := ((Table.get?_eq_some hs.rounds).1 hround).1
  have hkeyed := (hrecorded.withRoundStatus hmem .inProgress now).1
  rw [Store.carried, if_pos hstart]
  exact hkeyed.stableOf_snapshots hleague hmember

/-- When a call does not make the stable figures anew, those that are there stay. -/
theorem Ends.stableOf_kept (h : s.Ends round newly now answer t) (hs : s.Keyed)
    (hleague : league ∈ s.leaguesOf round.seasonId) (hsome : s.stableOf league.id userId ≠ [])
    (hnot : ¬(newly = true ∧ s.pointsFit round = true ∧
      (s.recomputed round).stableFits round = true)) :
    t.stableOf league.id userId = s.stableOf league.id userId := by
  cases h with
  | unpointed => rfl
  | unranked =>
    obtain ⟨counts, points, hpoints⟩ := s.recomputed_frame round
    rw [hpoints]
    rfl
  | figured _ hfit hstable winnings =>
    cases newly with
    | true => exact absurd ⟨rfl, hfit, hstable rfl⟩ hnot
    | false =>
      have hkeyed := hs.recomputed round
      rw [stableOf_closed, Store.figured, if_neg Bool.false_ne_true]
      obtain ⟨counts, points, hpoints⟩ := s.recomputed_frame round
      rw [hpoints] at hkeyed ⊢
      exact hkeyed.stableOf_shown hleague hsome

/-- When a call makes the stable figures anew, they are those of the completed matches. -/
theorem Ends.stableOf_made (h : s.Ends round newly now answer t) (hs : s.Keyed)
    (hjudged : s.Judged round.id) (hleague : league ∈ s.leaguesOf round.seasonId)
    (hmember : s.isMember league.id userId = true) (hnewly : newly = true)
    (hfit : s.pointsFit round = true) (hstable : (s.recomputed round).stableFits round = true) :
    t.stableOf league.id userId = [s.stableFrom (s.completedOf round.id) league userId] := by
  cases h with
  | unpointed _ hunfit => exact absurd hfit (by simp [hunfit])
  | unranked _ _ _ hunfit => exact absurd hstable (by simp [hunfit])
  | figured _ _ _ winnings =>
    have hkeyed := hs.recomputed round
    rw [stableOf_closed, Store.figured, if_pos hnewly]
    obtain ⟨counts, points, hpoints⟩ := s.recomputed_frame round
    rw [hpoints] at hkeyed ⊢
    have hranked := hkeyed.stableOf_ranked hleague hmember hjudged
    have hkeyed' := hkeyed.ranked round
    obtain ⟨stats, hstats⟩ :=
      Store.exists_ranked { s with roundResults := counts, leagueResults := points } round
    rw [hstats] at hranked hkeyed' ⊢
    rw [hkeyed'.stableOf_shown hleague (by rw [hranked]; exact List.cons_ne_nil _ _), hranked]
    rfl

/-- A round of which no match that was updated has kicked off has an open match. -/
theorem Accepts.exists_open (h : s.Accepts roundId scores recording) (hs : s.Keyed)
    (hnot : recording.anyStarted = false) :
    ∃ m ∈ recording.fixtures, m.status ≠ .completed := by
  obtain ⟨id, hid⟩ := List.exists_mem_of_ne_nil _ h.some
  obtain ⟨hmem, -⟩ := (h.mem_updated hs id).1 hid
  obtain ⟨m, hm, rfl⟩ := List.mem_map.1 hmem
  have hafter : m.afterScores scores ∈ recording.fixtures := by
    rw [h.fixtures hs]
    exact List.mem_map_of_mem hm
  refine ⟨_, hafter, ?_⟩
  intro hcompleted
  rw [Recording.anyStarted, List.any_eq_false] at hnot
  refine hnot _ hafter ?_
  rw [Match.id_afterScores, hcompleted, Bool.and_eq_true, List.contains_iff_mem]
  exact ⟨hid, rfl⟩

/-- A published round without a match that kicks off stays published. -/
theorem Ends.stays_published
    (hends : (s.carried round recording now).Ends (round.opened recording now) newly now answer t)
    (hs : s.Keyed) (hround : s.round? round.id = some round)
    (h : s.Accepts round.id scores recording) (hnot : recording.anyStarted = false) :
    t.round? round.id = some round := by
  have hopened : round.opened recording now = round := by
    rw [Round.opened, if_neg]
    rintro ⟨-, hstarted⟩
    rw [hnot] at hstarted
    simp at hstarted
  rcases hends.round?_of_carried hround with hsame | ⟨hall, -⟩
  · rwa [hopened] at hsame
  · obtain ⟨m, hm, hopen⟩ := h.exists_open hs hnot
    rw [fixturesOf_after (hends.fixtures_of_accepts hs h), ← h.fixtures hs] at hall
    exact absurd (hall m hm) hopen

/-- A call leaves members, leagues and what was predicted alone. -/
theorem Ends.stableFrom_eq {round' : Round}
    (hends : (s.carried round recording now).Ends round' newly now answer t) (hs : s.Keyed)
    (h : s.Accepts round.id scores recording) (ms : List Match) (league : League) :
    t.isMember = s.isMember ∧ t.leaguesOf = s.leaguesOf ∧
      (s.carried round recording now).stableFrom ms league = s.stableFrom ms league ∧
      t.stableFrom ms league = s.stableFrom ms league := by
  have hcarried : (s.carried round recording now).stableFrom ms league = s.stableFrom ms league :=
    stableFrom_congr (s.members_carried round recording now)
      (s.samePrediction_predictionAfter round.id scores now) (hs.predictions_carried h now) ms
      league
  obtain ⟨counts, points, stats, rounds, winnings, hframe⟩ := hends.frame
  rw [hframe]
  exact ⟨s.isMember_carried round recording now, s.leaguesOf_carried round recording now, hcarried,
    hcarried⟩

section Reflects

variable (hs : s.Keyed) (hround : s.round? round.id = some round)
  (h : s.Accepts round.id scores recording)
  (hends : (s.carried round recording now).Ends (round.opened recording now)
    recording.newlyCompleted now answer t)

include hs hround h hends

/-- A call that makes the stable figures anew makes them from the completed matches. -/
theorem Ends.reflects_made (hjudged : s.Judged round.id)
    (hrecounts : s.Recounts round.id scores now) :
    t.Reflects round.seasonId (t.completedOf round.id) := by
  obtain ⟨round', recording', hround', h', hcompletes, hfit, hstable⟩ := hrecounts
  obtain rfl : round' = round := Option.some.inj (hround'.symm.trans hround)
  obtain rfl : recording' = recording := h'.unique h
  have hnewly := (h.newly_iff hs).2 hcompletes
  have hcompleted : t.completedOf round'.id =
      (s.carried round' recording' now).completedOf round'.id := by
    obtain ⟨counts, points, stats, rounds, winnings, hframe⟩ := hends.frame
    rw [hframe]
    rfl
  intro league hleague userId hmember
  obtain ⟨hisMember, hleagues, hbefore, hafter⟩ :=
    hends.stableFrom_eq hs h (t.completedOf round'.id) league
  rw [hisMember] at hmember
  rw [hleagues] at hleague
  rw [hends.stableOf_made (hs.carried h hround now) (by simpa using hjudged.carried hs h now)
    (by simpa using hleague) (by simpa using hmember) hnewly hfit hstable, Round.id_opened,
    ← hcompleted, hbefore, hafter]

/-- Any other call leaves them as they are once the scores are recorded. -/
theorem Ends.reflects_of_carried (hnot : ¬s.Recounts round.id scores now)
    (hcarried : ∀ league ∈ s.leaguesOf round.seasonId, ∀ userId,
      s.isMember league.id userId = true →
        (s.carried round recording now).stableOf league.id userId =
          [s.stableFrom basis league userId]) :
    t.Reflects round.seasonId basis := by
  intro league hleague userId hmember
  obtain ⟨hisMember, hleagues, -, hafter⟩ := hends.stableFrom_eq hs h basis league
  rw [hisMember] at hmember
  rw [hleagues] at hleague
  have hbefore := hcarried league hleague userId hmember
  rw [hafter, ← hbefore]
  refine hends.stableOf_kept (hs.carried h hround now) (by simpa using hleague) ?_ ?_
  · rw [hbefore]
    exact List.cons_ne_nil _ _
  · rintro ⟨hnewly, hfit, hstable⟩
    exact hnot ⟨round, recording, hround, h, (h.newly_iff hs).1 hnewly, hfit, hstable⟩

end Reflects

/-- The invariant of a run: predictions are judged, and once the round has started the stable
figures are those that given matches make. -/
structure Reflecting (s : Store) (roundId : Int) (basis : List Match) : Prop where
  keyed : s.Keyed
  judged : s.Judged roundId
  reflects : ∃ round, s.round? roundId = some round ∧
    (round.status ≠ .published → s.Reflects round.seasonId basis)

theorem Ends.judged {round' : Round}
    (hends : (s.carried round recording now).Ends round' newly now answer t) (hs : s.Keyed)
    (h : s.Accepts round.id scores recording) (hjudged : s.Judged round.id) :
    t.Judged round.id := by
  have hcarried := hjudged.carried hs h now
  obtain ⟨counts, points, stats, rounds, winnings, hframe⟩ := hends.frame
  rw [hframe]
  exact hcarried

theorem Ends.exists_round (hround : s.round? round.id = some round)
    (hends : (s.carried round recording now).Ends (round.opened recording now) newly now answer t) :
    ∃ round', t.round? round.id = some round' ∧ round'.seasonId = round.seasonId := by
  rcases hends.round?_of_carried hround with hsame | ⟨-, hcompleted⟩
  · exact ⟨_, hsame, round.seasonId_opened recording now⟩
  · exact ⟨_, hcompleted, round.seasonId_opened recording now⟩

/-- One call keeps the invariant, with the completed matches when it makes the stable figures anew,
with none when it leaves a published round, and else with the same matches. -/
theorem Reflecting.call {basis' : List Match} (hinv : s.Reflecting round.id basis)
    (hround : s.round? round.id = some round) (h : s.Reported round scores now answer t)
    (hmade : s.Recounts round.id scores now → basis' = t.completedOf round.id)
    (hreset : ¬s.Recounts round.id scores now → round.status = .published → basis' = [])
    (hkept : ¬s.Recounts round.id scores now → round.status ≠ .published → basis' = basis) :
    t.Reflecting round.id basis' := by
  have hs := hinv.keyed
  have hbefore : round.status ≠ .published → s.Reflects round.seasonId basis := by
    obtain ⟨round', hround', hreflects⟩ := hinv.reflects
    obtain rfl : round' = round := Option.some.inj (hround'.symm.trans hround)
    exact hreflects
  cases h with
  | refused _ hnone =>
    have hnot : ¬s.Recounts round.id scores now := by
      rintro ⟨_, recording, -, haccepts, -⟩
      exact hnone recording haccepts
    refine ⟨hs, hinv.judged, round, hround, ?_⟩
    intro hstatus
    rw [hkept hnot hstatus]
    exact hbefore hstatus
  | carried recording haccepts hends =>
    obtain ⟨round', hround', hseason⟩ := hends.exists_round hround
    refine ⟨?_, hends.judged hs haccepts hinv.judged, round', hround', ?_⟩
    · exact Reported.keyed (.carried recording haccepts hends) hs hround
    · intro hstatus
      rw [hseason]
      by_cases hrecounts : s.Recounts round.id scores now
      · rw [hmade hrecounts]
        exact hends.reflects_made hs hround haccepts hinv.judged hrecounts
      · by_cases hpublished : round.status = .published
        · rw [hreset hrecounts hpublished]
          by_cases hstarted : recording.anyStarted = true
          · refine hends.reflects_of_carried hs hround haccepts hrecounts ?_
            intro league hleague userId hmember
            rw [stableFrom_nil]
            exact hs.stableOf_carried hround haccepts now ⟨hpublished, hstarted⟩ hleague hmember
          · have hsame := hends.stays_published hs hround haccepts (by simpa using hstarted)
            obtain rfl : round = round' := Option.some.inj (hsame.symm.trans hround')
            exact absurd hpublished hstatus
        · rw [hkept hrecounts hpublished]
          refine hends.reflects_of_carried hs hround haccepts hrecounts ?_
          intro league hleague userId hmember
          have hstats : (s.carried round recording now).stableOf league.id userId =
              s.stableOf league.id userId := by
            rw [Store.carried, if_neg (fun hstart => hpublished hstart.1)]
            rfl
          rw [hstats]
          exact hbefore hpublished league hleague userId hmember

end Call

/-- What may happen between two calls: the round, its matches and predictions, the leagues and
members, and the stats of the leagues of its season stay as they are, and so does what was predicted
elsewhere. -/
structure Undisturbed (s t : Store) (roundId : Int) : Prop where
  keyed : t.Keyed
  round : t.round? roundId = s.round? roundId
  fixtures : t.fixturesOf roundId = s.fixturesOf roundId
  predictions : ∃ f : Prediction → Prediction, (∀ p, SamePrediction p (f p)) ∧
    (∀ p, s.inRound roundId p = true → f p = p) ∧ t.predictions = s.predictions.map f
  leagues : t.leagues = s.leagues
  members : t.members = s.members
  stats : ∀ round, s.round? roundId = some round → ∀ league ∈ s.leaguesOf round.seasonId,
    t.stats.filter (·.leagueId == league.id) = s.stats.filter (·.leagueId == league.id)

theorem Undisturbed.reflecting {basis : List Match} (h : s.Undisturbed t roundId)
    (hinv : s.Reflecting roundId basis) : t.Reflecting roundId basis := by
  obtain ⟨round, hround, hreflects⟩ := hinv.reflects
  obtain ⟨f, hsame, hown, hpredictions⟩ := h.predictions
  refine ⟨h.keyed, ?_, round, h.round.trans hround, ?_⟩
  · intro m hm p' hp' hid
    rw [h.fixtures] at hm
    rw [hpredictions] at hp'
    obtain ⟨p, hp, rfl⟩ := List.mem_map.1 hp'
    rw [(hsame p).matchId] at hid
    rw [hown p (List.any_eq_true.2 ⟨m, hm, beq_iff_eq.2 hid.symm⟩)]
    exact hinv.judged m hm p hp hid
  · intro hstatus league hleague userId hmember
    have hleague' : league ∈ s.leaguesOf round.seasonId := by
      rw [leaguesOf, h.leagues] at hleague
      exact hleague
    have hmember' : s.isMember league.id userId = true := by
      rw [isMember, h.members] at hmember
      exact hmember
    rw [stableOf, statsOf_congr (h.stats round hround league hleague'), ← stableOf,
      hreflects hstatus league hleague' userId hmember',
      stableFrom_congr h.members hsame hpredictions]

end Store

/-! ### Runs -/

open Store

/-- Calls that record scores of a round one after the other, returning or not, from a store where
the round is published and its predictions are judged; and the matches from which the stable figures
were made last. These are the completed matches after a call that makes the figures anew, and none
after any other call for the published round. -/
inductive Played (roundId : Int) : Store → List Match → Prop
  | start {s : Store} (hs : s.Keyed) (hround : s.Published roundId) (hjudged : s.Judged roundId) :
    Played roundId s []
  | makes {s : Store} {basis : List Match} (h : Played roundId s basis) (scores : List MatchScore)
    (now : DateTime) (hrecounts : s.Recounts roundId scores now) :
    Played roundId ((updateMatchResults roundId scores now).storeAfter s)
      (((updateMatchResults roundId scores now).storeAfter s).completedOf roundId)
  | resets {s : Store} {basis : List Match} (h : Played roundId s basis) (scores : List MatchScore)
    (now : DateTime) (hnot : ¬s.Recounts roundId scores now) (hpublished : s.Published roundId) :
    Played roundId ((updateMatchResults roundId scores now).storeAfter s) []
  | keeps {s : Store} {basis : List Match} (h : Played roundId s basis) (scores : List MatchScore)
    (now : DateTime) (hnot : ¬s.Recounts roundId scores now) (hpublished : ¬s.Published roundId) :
    Played roundId ((updateMatchResults roundId scores now).storeAfter s) basis
  | change {s t : Store} {basis : List Match} (h : Played roundId s basis)
    (hsame : s.Undisturbed t roundId) : Played roundId t basis

section Played

variable {s t : Store} {round : Round} {roundId : Int} {scores : List MatchScore} {now : DateTime}
  {basis : List Match} {n : Nat}

theorem published_iff (hround : s.round? roundId = some round) :
    s.Published roundId ↔ round.status = .published := by
  constructor
  · rintro ⟨round', hround', hstatus⟩
    obtain rfl : round' = round := Option.some.inj (hround'.symm.trans hround)
    exact hstatus
  · intro hstatus
    exact ⟨round, hround, hstatus⟩

/-- Along every run the stable figures are made from the matches that the run names. -/
theorem Played.reflecting (h : Played roundId s basis) : s.Reflecting roundId basis := by
  induction h with
  | start hs hround hjudged =>
    obtain ⟨round, hround, hstatus⟩ := hround
    exact ⟨hs, hjudged, round, hround, fun hstarted => absurd hstatus hstarted⟩
  | makes h scores now hrecounts ih =>
    obtain ⟨round, hround, -⟩ := ih.reflects
    obtain rfl : round.id = roundId := Table.id_of_get? hround
    exact ih.call hround (reported_updateMatchResults hround scores now) (fun _ => rfl)
      (fun hnot => absurd hrecounts hnot) (fun hnot => absurd hrecounts hnot)
  | resets h scores now hnot hpublished ih =>
    obtain ⟨round, hround, -⟩ := ih.reflects
    obtain rfl : round.id = roundId := Table.id_of_get? hround
    exact ih.call hround (reported_updateMatchResults hround scores now)
      (fun hrecounts => absurd hrecounts hnot) (fun _ _ => rfl)
      (fun _ hstatus => absurd ((published_iff hround).1 hpublished) hstatus)
  | keeps h scores now hnot hpublished ih =>
    obtain ⟨round, hround, -⟩ := ih.reflects
    obtain rfl : round.id = roundId := Table.id_of_get? hround
    exact ih.call hround (reported_updateMatchResults hround scores now)
      (fun hrecounts => absurd hrecounts hnot)
      (fun _ hstatus => absurd ((published_iff hround).2 hstatus) hpublished) (fun _ _ => rfl)
  | change h hsame ih => exact hsame.reflecting ih

/-- A call that returns makes the stable figures anew exactly when it completes a match. -/
theorem recounts_iff_completes (hs : s.Keyed) (hround : s.round? roundId = some round)
    (h : (updateMatchResults roundId scores now).Returns s n t) :
    s.Recounts roundId scores now ↔ Completes (s.fixturesOf roundId) scores := by
  obtain rfl : round.id = roundId := Table.id_of_get? hround
  constructor
  · rintro ⟨_, _, -, -, hcompletes, -⟩
    exact hcompletes
  · intro hcompletes
    obtain ⟨recording, haccepts⟩ := exists_accepts hs h (named_of_completes hcompletes)
    have hreported := reported_updateMatchResults hround scores now
    rw [h.storeAfter, h] at hreported
    cases hreported with
    | refused _ hnone => exact absurd haccepts (hnone recording)
    | carried recording haccepts hends =>
      have hnewly := (haccepts.newly_iff hs).2 hcompletes
      cases hends with
      | figured _ hfit hstable => exact ⟨round, recording, hround, haccepts, hcompletes, hfit,
          hstable hnewly⟩

/-- A call that completes no match, and leaves those that are completed as they are, leaves the
completed matches of the round. -/
theorem completedOf_of_not_completes (hs : s.Keyed) {answer : Except Fault Nat}
    (h : s.Reported round scores now answer t) (hnot : ¬Completes (s.fixturesOf round.id) scores)
    (hsame : ∀ m ∈ s.completedOf round.id, m.afterScores scores = m) :
    t.completedOf round.id = s.completedOf round.id := by
  cases h with
  | refused => rfl
  | carried recording haccepts hends =>
    have hcompleted : ∀ m ∈ s.fixturesOf round.id,
        ((m.afterScores scores).status == .completed) = (m.status == .completed) := by
      intro m hm
      by_cases hstatus : m.status = .completed
      · rw [hsame m (mem_completedOf.2 ⟨hm, hstatus⟩)]
      · rw [beq_false_of_ne hstatus, beq_false_of_ne (open_afterScores hnot hm hstatus)]
    have hfilter : (s.fixturesOf round.id).filter
        ((fun m => m.status == .completed) ∘ fun m => m.afterScores scores) =
          s.completedOf round.id :=
      List.filter_congr hcompleted
    rw [completedOf, fixturesOf_after (hends.fixtures_of_accepts hs haccepts), List.filter_map,
      hfilter]
    refine (List.map_congr_left fun m hm => ?_).trans (List.map_id _)
    exact hsame m hm

/-- After every call that returns and leaves the round started, the stable figures of every member
of every league of the season are made from the matches that were completed after the last call that
completed one: those of this call when it completes one, none when it starts the round without, and
else those from before. As long as no call corrects or reopens a completed match these are the
completed matches. -/
theorem Played.stable_updateMatchResults (h : Played roundId s basis)
    (hreturns : (updateMatchResults roundId scores now).Returns s n t)
    (hround : t.round? roundId = some round)
    (hstarted : round.status = .inProgress ∨ round.status = .completed) :
    ∃ basis', Played roundId t basis' ∧
      (∀ league ∈ t.leaguesOf round.seasonId, ∀ userId, t.isMember league.id userId = true →
        t.stableOf league.id userId = [t.stableFrom basis' league userId]) ∧
      (Completes (s.fixturesOf roundId) scores → basis' = t.completedOf roundId) ∧
      (¬Completes (s.fixturesOf roundId) scores →
        (s.Published roundId → basis' = []) ∧ (¬s.Published roundId → basis' = basis) ∧
        ((∀ m ∈ s.completedOf roundId, m.afterScores scores = m) →
          t.completedOf roundId = s.completedOf roundId)) := by
  have hinv := h.reflecting
  obtain ⟨before, hbefore, -⟩ := hinv.reflects
  have hrecounts := recounts_iff_completes hinv.keyed hbefore hreturns
  have hreflects {basis' : List Match} (hplayed : Played roundId t basis') :
      t.Reflects round.seasonId basis' := by
    obtain ⟨round', hround', hreflects⟩ := hplayed.reflecting.reflects
    obtain rfl : round' = round := Option.some.inj (hround'.symm.trans hround)
    refine hreflects ?_
    rcases hstarted with hstatus | hstatus
    · simp [hstatus]
    · simp [hstatus]
  by_cases hcompletes : Completes (s.fixturesOf roundId) scores
  · have hplayed : Played roundId t (t.completedOf roundId) := by
      have hmade := h.makes scores now (hrecounts.2 hcompletes)
      rwa [hreturns.storeAfter] at hmade
    exact ⟨_, hplayed, hreflects hplayed, fun _ => rfl, fun hnot => absurd hcompletes hnot⟩
  · have hnot : ¬s.Recounts roundId scores now := fun hmade => hcompletes (hrecounts.1 hmade)
    have hstays : (∀ m ∈ s.completedOf roundId, m.afterScores scores = m) →
        t.completedOf roundId = s.completedOf roundId := by
      intro hsame
      have hreported := reported_updateMatchResults hbefore scores now
      rw [hreturns.storeAfter] at hreported
      obtain rfl : before.id = roundId := Table.id_of_get? hbefore
      exact completedOf_of_not_completes hinv.keyed hreported hcompletes hsame
    by_cases hpublished : s.Published roundId
    · have hplayed : Played roundId t [] := by
        have hreset := h.resets scores now hnot hpublished
        rwa [hreturns.storeAfter] at hreset
      exact ⟨_, hplayed, hreflects hplayed, fun hmade => absurd hmade hcompletes,
        fun _ => ⟨fun _ => rfl, fun hopen => absurd hpublished hopen, hstays⟩⟩
    · have hplayed : Played roundId t basis := by
        have hkept := h.keeps scores now hnot hpublished
        rwa [hreturns.storeAfter] at hkept
      exact ⟨_, hplayed, hreflects hplayed, fun hmade => absurd hmade hcompletes,
        fun _ => ⟨fun hclosed => absurd hclosed hpublished, fun _ => rfl, hstays⟩⟩

end Played

/-- The open round when its first match ended without goals, as player 11 predicted it. -/
def firstCompleted : Store := openStoreAfter [[⟨1, 0, 0, .completed⟩]]

theorem first_match_makes_stable_figures :
    Played 1 openStore [] ∧
      (updateMatchResults 1 [⟨1, 0, 0, .completed⟩] .newYear2025).Returns openStore 1
        firstCompleted ∧
      firstCompleted.stableOf 1 10 = [⟨0, 2⟩] ∧ firstCompleted.stableOf 1 11 = [⟨5, 1⟩] := by
  have hplayed : Played 1 openStore [] := .start (by decide) ⟨_, rfl, rfl⟩ (by decide)
  have hreturns : (updateMatchResults 1 [⟨1, 0, 0, .completed⟩] .newYear2025).Returns openStore 1
      firstCompleted := by decide +kernel
  have hcompletes : Completes (openStore.fixturesOf 1) [⟨1, 0, 0, .completed⟩] :=
    ⟨[], _, [], rfl, rfl, _, List.mem_cons_self, rfl, by decide⟩
  obtain ⟨basis, -, hfigures, hbasis, -⟩ :=
    hplayed.stable_updateMatchResults hreturns (by decide +kernel : firstCompleted.round? 1 =
      some ⟨1, 1, 1, .newYear2025, .newYear2025, .inProgress, none⟩) (.inl rfl)
  obtain rfl := hbasis hcompletes
  have hleague : (⟨1, 1, .newYear2025, 5, 3, 0⟩ : League) ∈ firstCompleted.leaguesOf 1 := by
    decide +kernel
  have hfirst := hfigures _ hleague 10 (by decide +kernel)
  have hsecond := hfigures _ hleague 11 (by decide +kernel)
  exact ⟨hplayed, hreturns, hfirst.trans (by decide +kernel), hsecond.trans (by decide +kernel)⟩

/-- When the score of the first match is corrected to what player 10 predicted, player 11 keeps the
points for it. -/
theorem corrected_score_leaves_stable_figures : ¬∀ (s t : Store) (roundId : Int) (now : DateTime)
    (batches : List (List MatchScore)) (round : Round), s.Keyed → s.Published roundId →
    s.Judged roundId → Updates roundId now s batches t → t.round? roundId = some round →
    round.status = .inProgress ∨ round.status = .completed →
    ∀ league ∈ t.leaguesOf round.seasonId, ∀ userId, t.isMember league.id userId = true →
      t.stableOf league.id userId = [t.stableFrom (t.completedOf roundId) league userId] := by
  intro h
  have hfirst : (updateMatchResults 1 [⟨1, 0, 0, .completed⟩] .newYear2025).Returns openStore 1
      firstCompleted := by decide +kernel
  have hcorrected : (updateMatchResults 1 [⟨1, 2, 1, .completed⟩] .newYear2025).Returns
      firstCompleted 1 (openStoreAfter [[⟨1, 0, 0, .completed⟩], [⟨1, 2, 1, .completed⟩]]) := by
    decide +kernel
  have hfigures := h openStore _ 1 .newYear2025 _
    ⟨1, 1, 1, .newYear2025, .newYear2025, .inProgress, none⟩ (by decide) ⟨_, rfl, rfl⟩ (by decide)
    (.call hfirst (.call hcorrected (.done _))) (by decide +kernel) (.inl rfl)
    ⟨1, 1, .newYear2025, 5, 3, 0⟩ (by decide +kernel) 10 (by decide +kernel)
  exact absurd hfigures (by decide +kernel)

end PredictionLeague
