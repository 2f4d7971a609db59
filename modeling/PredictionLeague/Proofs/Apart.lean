import PredictionLeague.Proofs.Coherence
import PredictionLeague.Proofs.Settled
import PredictionLeague.Proofs.Snapshots

/-!
# Calls for different rounds

A call that records results of a round changes the state of the round, its matches, the predictions
on them and its points, and what it makes of them it reads from the round alone. So calls for two
rounds may be made in either order.

* `Store.roundAfter`: a round when scores of it were recorded; `rounds_updateMatchResults`;
* `comm_of_apart`: changes of different rows commute;
* `Refreshed.pointsSettled_of_ne`: a call for one round leaves another one settled;
* `Store.SameRounds`: two stores that hold the same rounds;
* `Store.BothWays`: two calls that were made in either order; `BothWays.sameRounds`,
  `BothWays.overallRank`;
* `updateMatchResults_comm`: what two calls leave does not depend on their order.
-/

namespace PredictionLeague

/-- A change of some rows and a change of others commute. -/
theorem comm_of_apart {α : Type} {f g : α → α} {p q : α → Prop} (hf : ∀ x, ¬p x → f x = x)
    (hg : ∀ x, ¬q x → g x = x) (hpg : ∀ x, p (g x) ↔ p x) (hqf : ∀ x, q (f x) ↔ q x) {x : α}
    (hnot : ¬(p x ∧ q x)) : g (f x) = f (g x) := by
  by_cases hp : p x
  · have hq : ¬q x := fun hq => hnot ⟨hp, hq⟩
    rw [hg x hq, hg (f x) fun hqx => hq ((hqf x).1 hqx)]
  · rw [hf x hp, hf (g x) fun hpx => hp ((hpg x).1 hpx)]

/-! ### The state of a round -/

/-- Whether a match that the scores name has kicked off once they are recorded. -/
def kickedOff (fixtures : List Match) (scores : List MatchScore) : Bool :=
  fixtures.any fun m => (lastScore? scores m.id).isSome && (m.afterScores scores).status.started

/-- A round with its matches, completed when all of them are. -/
def Round.closing (r : Round) (fixtures : List Match) (now : DateTime) : Round :=
  if fixtures.all (·.status == .completed) ∧ r.status ≠ .completed then r.withStatus .completed now
  else r

namespace Store

/-- A round of the store when scores of a round were recorded: it starts with the first match that
kicks off, and it is completed when all its matches are. -/
def roundAfter (s : Store) (roundId : Int) (scores : List MatchScore) (now : DateTime)
    (r : Round) : Round :=
  if r.id == roundId then
    (if r.status = .published ∧ kickedOff (s.fixturesOf roundId) scores then
      r.withStatus .inProgress now else r).closing
        ((s.fixturesOf roundId).map (Match.afterScores scores)) now
  else r

variable {s t u : Store} {round other : Round} {roundId id : Int} {scores xs ys : List MatchScore}
  {recording : Recording} {now : DateTime} {newly : Bool}

@[simp] theorem id_roundAfter (s : Store) (roundId : Int) (scores : List MatchScore)
    (now : DateTime) (r : Round) : (s.roundAfter roundId scores now r).id = r.id := by
  unfold roundAfter Round.closing
  split_ifs <;> rfl

theorem Keyed.anyStarted_eq (hs : s.Keyed) (h : s.Accepts roundId scores recording) :
    recording.anyStarted = kickedOff (s.fixturesOf roundId) scores := by
  rw [Bool.eq_iff_iff, hs.anyStarted_iff h, kickedOff, List.any_eq_true]
  simp only [Bool.and_eq_true, isSome_lastScore?, MatchStatus.started_iff]

theorem round?_closed (hround : s.round? round.id = some round) (now : DateTime) :
    (s.closed round now).round? round.id =
      some (round.closing (s.fixturesOf round.id) now) := by
  unfold closed Round.closing
  split
  · exact s.round?_withRoundStatus .completed now hround
  · exact hround

/-- When a call returns, its round is completed if all its matches are. -/
theorem Ends.round?_of_ok {n : Nat} (h : s.Ends round newly now (.ok n) t)
    (hround : s.round? round.id = some round) :
    t.round? round.id = some (round.closing (s.fixturesOf round.id) now) := by
  cases h with
  | figured _ hfit hstable winnings =>
    obtain ⟨counts, points, stats, hfigured⟩ := s.figured_frame round newly
    have hclosed : ((s.figured round newly).closed round now).round? round.id =
        some (round.closing ((s.figured round newly).fixturesOf round.id) now) := by
      refine round?_closed ?_ now
      rw [hfigured]
      exact hround
    rw [hfigured] at hclosed ⊢
    exact hclosed

/-- A call that returns changes the state of its round. -/
theorem rounds_updateMatchResults {n : Nat} (hs : s.Keyed) (hround : s.round? roundId = some round)
    (h : (updateMatchResults roundId scores now).Returns s n t) (hname : s.Named roundId scores) :
    t.rounds = s.rounds.map (s.roundAfter roundId scores now) := by
  obtain rfl : round.id = roundId := Table.id_of_get? hround
  obtain ⟨recording, haccepts⟩ := exists_accepts hs h hname
  have hrefreshed := refreshed_of_named hs hround h hname
  have hreported := reported_updateMatchResults hround scores now
  rw [h.storeAfter, h] at hreported
  refine hrefreshed.keyed.rounds.eq_map (ids_of_slots hrefreshed.slots) fun r hr => ?_
  by_cases hid : r.id = round.id
  · obtain rfl : r = round :=
      hs.rounds.eq_of_id_eq hr ((Table.get?_eq_some hs.rounds).1 hround).1 hid
    cases hreported with
    | refused _ hnone => exact absurd haccepts (hnone recording)
    | carried recording' haccepts' hends =>
      obtain rfl := haccepts'.unique haccepts
      have hfound := s.round?_carried recording' now hround
      rw [← r.id_opened recording' now] at hfound
      have hclosed := hends.round?_of_ok hfound
      rw [r.id_opened, fixturesOf_after (hs.fixtures_carried haccepts now), Round.opened,
        hs.anyStarted_eq haccepts] at hclosed
      rw [roundAfter, if_pos (beq_self_eq_true r.id)]
      exact hclosed
  · have hfound : s.round? r.id = some r := (Table.get?_eq_some hs.rounds).2 ⟨hr, rfl⟩
    rw [roundAfter, if_neg (by simpa using hid)]
    exact (hreported.round?_of_ne hid).trans hfound

/-- The scores of a round are recorded and everything that follows from them is brought up to date,
the state of the round with it. -/
structure FullyRefreshed (s s' : Store) (round : Round) (scores : List MatchScore)
    (now : DateTime) : Prop extends s.Refreshed s' round scores now where
  rounds : s'.rounds = s.rounds.map (s.roundAfter round.id scores now)

/-- A call that names a match of its round brings everything up to date. -/
theorem fullyRefreshed_of_named {n : Nat} (hs : s.Keyed) (hround : s.round? round.id = some round)
    (h : (updateMatchResults round.id scores now).Returns s n t) (hname : s.Named round.id scores) :
    s.FullyRefreshed t round scores now where
  toRefreshed := refreshed_of_named hs hround h hname
  rounds := rounds_updateMatchResults hs hround h hname

/-! ### Changes that commute -/

theorem matchAfter_comm {a b : Int} (hne : a ≠ b) (xs ys : List MatchScore) (m : Match) :
    matchAfter b ys (matchAfter a xs m) = matchAfter a xs (matchAfter b ys m) := by
  have hkept {id : Int} {zs : List MatchScore} (m : Match) (hid : ¬m.roundId = id) :
      matchAfter id zs m = m := if_neg (by simpa using hid)
  refine comm_of_apart (p := (·.roundId = a)) (q := (·.roundId = b)) hkept hkept
    (fun m => by rw [roundId_matchAfter]) (fun m => by rw [roundId_matchAfter]) ?_
  rintro ⟨ha, hb⟩
  exact hne (ha.symm.trans hb)

theorem roundAfter_comm {a b : Int} (hne : a ≠ b) (xs ys : List MatchScore) (now : DateTime)
    (r : Round) : s.roundAfter b ys now (s.roundAfter a xs now r) =
      s.roundAfter a xs now (s.roundAfter b ys now r) := by
  have hkept {id : Int} {zs : List MatchScore} (r : Round) (hid : ¬r.id = id) :
      s.roundAfter id zs now r = r := if_neg (by simpa using hid)
  refine comm_of_apart (p := (·.id = a)) (q := (·.id = b)) hkept hkept
    (fun r => by rw [id_roundAfter]) (fun r => by rw [id_roundAfter]) ?_
  rintro ⟨ha, hb⟩
  exact hne (ha.symm.trans hb)

theorem inRound_predictionAfter (s : Store) (a b : Int) (ys : List MatchScore) (now : DateTime)
    (p : Prediction) : s.inRound a (s.predictionAfter b ys now p) = s.inRound a p := by
  rw [inRound, (s.samePrediction_predictionAfter b ys now p).matchId, inRound]

theorem Keyed.predictionAfter_comm (hs : s.Keyed) {a b : Int} (hne : a ≠ b)
    (xs ys : List MatchScore) (now : DateTime) (p : Prediction) :
    s.predictionAfter b ys now (s.predictionAfter a xs now p) =
      s.predictionAfter a xs now (s.predictionAfter b ys now p) := by
  refine comm_of_apart (p := (s.inRound a · = true)) (q := (s.inRound b · = true))
    (fun _ => predictionAfter_of_not_inRound) (fun _ => predictionAfter_of_not_inRound)
    (fun p => by rw [inRound_predictionAfter]) (fun p => by rw [inRound_predictionAfter]) ?_
  rintro ⟨ha, hb⟩
  exact hne (hs.inRound_unique ha hb)

/-! ### What a call leaves of other rounds -/

section Other

variable (h : s.Refreshed t round scores now) (hs : s.Keyed) (hne : id ≠ round.id)

include h hne

theorem Refreshed.fixturesOf_of_ne : t.fixturesOf id = s.fixturesOf id :=
  fixturesOf_after_of_ne h.fixtures hne

theorem Refreshed.roundAfter_of_ne : t.roundAfter id ys now = s.roundAfter id ys now := by
  funext r
  rw [roundAfter, roundAfter, h.fixturesOf_of_ne hne]

theorem Refreshed.predictionAfter_of_ne :
    t.predictionAfter id ys now = s.predictionAfter id ys now := by
  funext p
  rw [predictionAfter.eq_def t, predictionAfter.eq_def s, h.fixturesOf_of_ne hne]

/-- The league results of other rounds are those that were there. -/
theorem Refreshed.pointsOf_of_ne (p : LeagueResult → Bool) :
    t.leagueResults.filter (fun r => p r && r.roundId == id) =
      s.leagueResults.filter fun r => p r && r.roundId == id := by
  refine filter_eq_of_filter_eq h.others.points fun r hr => bne_iff_ne.2 ?_
  rw [beq_iff_eq.1 (Bool.and_eq_true_iff.1 hr).2]
  exact hne

include hs

/-- What a player's predictions in another round count is what they counted. -/
theorem Refreshed.judged_of_ne (test : Outcome → Bool) (userId : Int) (p : Prediction) :
    ((s.predictionAfter round.id scores now p).userId == userId &&
      t.inRound id (s.predictionAfter round.id scores now p) &&
        test (s.predictionAfter round.id scores now p).outcome) =
      (p.userId == userId && s.inRound id p && test p.outcome) := by
  rw [inRound, h.fixturesOf_of_ne hne, ← inRound, inRound_predictionAfter]
  cases hp : s.inRound id p with
  | false => simp only [Bool.and_false, Bool.false_and]
  | true =>
    rw [predictionAfter_of_not_inRound fun hother => hne (hs.inRound_unique hp hother)]

theorem Refreshed.hasVerdict_of_ne : t.hasVerdict id = s.hasVerdict id := by
  funext userId
  rw [hasVerdict, hasVerdict, h.predictions, List.any_map]
  exact List.any_congr rfl fun p => h.judged_of_ne hs hne (· != .pending) userId p

theorem Refreshed.verdictCount_of_ne : t.verdictCount id = s.verdictCount id := by
  funext userId verdict
  rw [verdictCount, verdictCount, h.predictions, List.countP_map]
  exact List.countP_congr fun p _ =>
    Bool.eq_iff_iff.1 (h.judged_of_ne hs hne (· == verdict) userId p)

end Other

/-- A call for one round leaves another one settled. -/
theorem Refreshed.pointsSettled_of_ne (h : s.Refreshed t round scores now) (hs : s.Keyed)
    (hne : other.id ≠ round.id) (hsettled : s.PointsSettled other) : t.PointsSettled other := by
  have hwanted : s.SameWanted t other :=
    sameWanted_of_verdicts (h.leaguesOf _) h.members h.boostUsages (h.hasVerdict_of_ne hs hne)
      (h.verdictCount_of_ne hs hne)
  refine hsettled.of_rows hwanted ?_ (by simpa using h.pointsOf_of_ne hne fun _ => true)
  refine filter_eq_of_filter_eq h.others.counts fun r hr => bne_iff_ne.2 ?_
  rw [beq_iff_eq.1 hr]
  exact hne

/-! ### Either order -/

/-- Two stores that hold the same rounds: their states, matches, predictions and points, but for the
ids of the rows of points. -/
structure SameRounds (s s' : Store) : Prop where
  rounds : s'.rounds = s.rounds
  fixtures : s'.fixtures = s.fixtures
  predictions : s'.predictions = s.predictions
  counts : (s'.roundResults.map RoundResult.bare).Perm (s.roundResults.map RoundResult.bare)
  points : (s'.leagueResults.map LeagueResult.bare).Perm (s.leagueResults.map LeagueResult.bare)

theorem SameRounds.refl (s : Store) : s.SameRounds s := ⟨rfl, rfl, rfl, .refl _, .refl _⟩

/-- Scores of two rounds are recorded in either order: those of the first round and then those of
the second one, or the other way round. -/
structure BothWays (s t t' u u' : Store) (a b : Round) (xs ys : List MatchScore) (now : DateTime) :
    Prop where
  keyed : s.Keyed
  apart : a.id ≠ b.id
  first : s.FullyRefreshed t a xs now
  second : t.FullyRefreshed t' b ys now
  first' : s.FullyRefreshed u b ys now
  second' : u.FullyRefreshed u' a xs now

namespace BothWays

variable {t' u' : Store} {a b : Round}

theorem symm (h : s.BothWays t t' u u' a b xs ys now) : s.BothWays u u' t t' b a ys xs now :=
  ⟨h.keyed, h.apart.symm, h.first', h.second', h.first, h.second⟩

section

variable (h : s.BothWays t t' u u' a b xs ys now)

include h

theorem rounds : u'.rounds = t'.rounds := by
  rw [h.second'.rounds, h.first'.rounds, h.second.rounds, h.first.rounds,
    h.first'.roundAfter_of_ne h.apart, h.first.roundAfter_of_ne h.apart.symm, List.map_map,
    List.map_map]
  exact List.map_congr_left fun r _ => (roundAfter_comm h.apart xs ys now r).symm

theorem fixtures : u'.fixtures = t'.fixtures := by
  rw [h.second'.fixtures, h.first'.fixtures, h.second.fixtures, h.first.fixtures, List.map_map,
    List.map_map]
  exact List.map_congr_left fun m _ => (matchAfter_comm h.apart xs ys m).symm

theorem predictions : u'.predictions = t'.predictions := by
  rw [h.second'.predictions, h.first'.predictions, h.second.predictions, h.first.predictions,
    h.first'.predictionAfter_of_ne h.apart, h.first.predictionAfter_of_ne h.apart.symm,
    List.map_map, List.map_map]
  exact List.map_congr_left fun p _ => (h.keyed.predictionAfter_comm h.apart xs ys now p).symm

theorem members : u'.members = t'.members := by
  rw [h.second'.members, h.first'.members, h.second.members, h.first.members]

theorem leaguesOf (seasonId : Int) : t'.leaguesOf seasonId = s.leaguesOf seasonId := by
  rw [h.second.leaguesOf, h.first.leaguesOf]

/-- The first round is settled alike: one way it was settled before the call for the other round,
the other way it was settled last. -/
theorem settledAlike : t'.SettledAlike u' a where
  before := h.second.pointsSettled_of_ne h.first.keyed h.apart h.first.settled
  after := h.second'.settled
  wanted := by
    refine sameWanted_of_verdicts ?_ h.members ?_ (hasVerdict_congr h.fixtures h.predictions a.id)
      (verdictCount_congr h.fixtures h.predictions a.id)
    · rw [h.leaguesOf, h.symm.leaguesOf]
    · rw [h.second'.boostUsages, h.first'.boostUsages, h.second.boostUsages, h.first.boostUsages]
  otherLeagues leagueId hleague := by
    rw [h.leaguesOf] at hleague
    have hboosts : u.withBoost = s.withBoost := funext h.first'.withBoost
    rw [h.second.pointsOf_of_ne h.apart, h.first.others.otherLeagues leagueId hleague,
      h.second'.others.otherLeagues leagueId (h.first'.leaguesOf a.seasonId ▸ hleague),
      h.first'.pointsOf_of_ne h.apart, hboosts]

/-- The order of the calls does not matter to the rounds. -/
theorem sameRounds : t'.SameRounds u' := by
  have halike : ∀ round ∈ [a, b], t'.SettledAlike u' round := by
    simpa using ⟨h.settledAlike, h.symm.settledAlike.symm⟩
  refine ⟨h.rounds, h.fixtures, h.predictions,
    h.second.keyed.counts_perm h.second'.keyed halike fun r hne => ?_,
    h.second.keyed.points_perm h.second'.keyed halike fun r hne => ?_⟩
  -- Rows of neither round are those from before both calls.
  · obtain ⟨ha, hb⟩ : r.roundId ≠ a.id ∧ r.roundId ≠ b.id := by simpa using hne
    rw [h.second'.others.mem_counts ha, h.first'.others.mem_counts hb,
      h.second.others.mem_counts hb, h.first.others.mem_counts ha]
  · obtain ⟨ha, hb⟩ : r.roundId ≠ a.id ∧ r.roundId ≠ b.id := by simpa using hne
    rw [h.second'.others.mem_points ha, h.first'.others.mem_points hb,
      h.second.others.mem_points hb, h.first.others.mem_points ha]

end

/-- The last call shows the ranks of the members over the season of its round. -/
theorem overallRank_last (h : s.BothWays t t' u u' a b xs ys now) {league : League}
    (hleague : league ∈ s.leaguesOf b.seasonId) {userId : Int}
    (hmember : s.isMember league.id userId = true) :
    (t'.statsOf league.id userId).map (·.overallRank) =
      [rankOf (t'.scoresOver league.id ((t'.roundsOf b.seasonId).map (·.id))) userId] := by
  rw [← h.first.leaguesOf] at hleague
  rw [← h.first.isMember] at hmember
  have hfigures := h.second.figures league hleague userId hmember
  have hranks : (t'.statsOf league.id userId).map (·.overallRank) =
      (t'.figuresOf league.id userId).map (·.overallRank) := by
    rw [figuresOf_eq, List.map_map]
    rfl
  rw [hranks, hfigures]
  rfl

/-- For rounds of one season the order of the calls does not matter to the ranks over the season. -/
theorem overallRank (h : s.BothWays t t' u u' a b xs ys now) (hseason : b.seasonId = a.seasonId)
    {league : League} (hleague : league ∈ s.leaguesOf a.seasonId) {userId : Int}
    (hmember : s.isMember league.id userId = true) :
    ∃ rank, (t'.statsOf league.id userId).map (·.overallRank) = [rank] ∧
      (u'.statsOf league.id userId).map (·.overallRank) = [rank] := by
  have hrank := h.overallRank_last (hseason ▸ hleague) hmember
  have hrank' := h.symm.overallRank_last hleague hmember
  have hrounds : u'.roundsOf a.seasonId = t'.roundsOf b.seasonId := by
    rw [roundsOf, roundsOf, h.rounds, hseason]
  rw [hrounds, scoresOver_of_perm h.members h.sameRounds.points] at hrank'
  exact ⟨_, hrank, hrank'⟩

end BothWays

end Store

/-! ### Two calls -/

section Calls

open Engine Store

variable {s t t' u u' : Store} {a b : Round} {xs ys : List MatchScore} {now : DateTime}
  {n n' m m' : Nat}

/-- A call that names no match of its round takes no score and leaves the store as it is. -/
theorem returns_of_not_named (hs : s.Keyed) (ha : s.round? a.id = some a)
    (h : (updateMatchResults a.id xs now).Returns s n t) (hnot : ¬s.Named a.id xs) :
    n = 0 ∧ t = s := by
  refine ⟨?_, ((refreshed_updateMatchResults hs ha h).resolve_right fun hname => hnot hname.1).2⟩
  by_contra hn
  exact hnot (hs.named_of_taken ha h hn)

section Other

variable (hs : s.Keyed) (hb : s.round? b.id = some b)
  (h : (updateMatchResults b.id ys now).Returns s m u) (hne : a.id ≠ b.id)

include hb h hne

/-- A call for one round leaves the state of another one alone. -/
theorem round?_of_returns : u.round? a.id = s.round? a.id := by
  have hreported := reported_updateMatchResults hb ys now
  rw [h.storeAfter] at hreported
  exact hreported.round?_of_ne hne

include hs

/-- And whether scores name a match of it. -/
theorem named_of_returns : u.Named a.id xs ↔ s.Named a.id xs := by
  have hreported := reported_updateMatchResults hb ys now
  rw [h.storeAfter] at hreported
  rw [Named, Named, hreported.fixturesOf_of_ne hs hne]

end Other

section Orders

variable (hs : s.Keyed) (ha : s.round? a.id = some a) (hb : s.round? b.id = some b)
  (hne : a.id ≠ b.id) (ht : (updateMatchResults a.id xs now).Returns s n t)
  (ht' : (updateMatchResults b.id ys now).Returns t m t')
  (hu : (updateMatchResults b.id ys now).Returns s m' u)
  (hu' : (updateMatchResults a.id xs now).Returns u n' u')

include hs ha hb hne ht ht' hu hu'

/-- When the scores of one round name none of its matches, what is left is what the other call
leaves. -/
theorem same_of_not_named (hnot : ¬s.Named a.id xs) : n = 0 ∧ t' = u' := by
  obtain ⟨hn, rfl⟩ := returns_of_not_named hs ha ht hnot
  have hsame : t' = u := congrArg Prod.snd (ht'.symm.trans hu)
  have hkeyed : u.Keyed := by
    rcases refreshed_updateMatchResults hs hb hu with ⟨-, rfl⟩ | ⟨-, hrefreshed⟩
    · exact hs
    · exact hrefreshed.keyed
  have hfound := (round?_of_returns hb hu hne).trans ha
  have hidle := (returns_of_not_named hkeyed hfound hu'
    fun hname => hnot ((named_of_returns hs hb hu hne).1 hname)).2
  exact ⟨hn, hsame.trans hidle.symm⟩

/-- Otherwise the scores of both rounds are recorded, in either order. -/
theorem bothWays_of_named (hname : s.Named a.id xs) (hname' : s.Named b.id ys) :
    s.BothWays t t' u u' a b xs ys now := by
  have hfirst := fullyRefreshed_of_named hs ha ht hname
  have hfirst' := fullyRefreshed_of_named hs hb hu hname'
  have hfound : t.round? b.id = some b := (round?_of_returns ha ht hne.symm).trans hb
  have hfound' : u.round? a.id = some a := (round?_of_returns hb hu hne).trans ha
  have hsecond := fullyRefreshed_of_named hfirst.keyed hfound ht'
    ((named_of_returns hs ha ht hne.symm).2 hname')
  have hsecond' := fullyRefreshed_of_named hfirst'.keyed hfound' hu'
    ((named_of_returns hs hb hu hne).2 hname)
  exact ⟨hs, hne, hfirst, hsecond, hfirst', hsecond'⟩

end Orders

/-- Calls for different rounds commute. When the calls return in either order, the stores that they
leave hold the same rounds with their states, matches and predictions, and the same points but for
the ids of their rows. And when the rounds are of one season and both calls took a score, every
approved member of a league of the season has the same rank over the season. -/
theorem updateMatchResults_comm {roundId roundId' : Int} (hs : s.Keyed) (hne : roundId ≠ roundId')
    (ht : (updateMatchResults roundId xs now).Returns s n t)
    (ht' : (updateMatchResults roundId' ys now).Returns t m t')
    (hu : (updateMatchResults roundId' ys now).Returns s m' u)
    (hu' : (updateMatchResults roundId xs now).Returns u n' u') :
    t'.SameRounds u' ∧
      ∀ a b, s.round? roundId = some a → s.round? roundId' = some b → b.seasonId = a.seasonId →
        n ≠ 0 → m ≠ 0 → ∀ league ∈ s.leaguesOf a.seasonId, ∀ userId,
          s.isMember league.id userId = true →
            ∃ rank, (t'.statsOf league.id userId).map (·.overallRank) = [rank] ∧
              (u'.statsOf league.id userId).map (·.overallRank) = [rank] := by
  obtain ⟨a, ha⟩ := exists_round_of_returns ht
  obtain ⟨b, hb⟩ := exists_round_of_returns hu
  obtain rfl : a.id = roundId := Table.id_of_get? ha
  obtain rfl : b.id = roundId' := Table.id_of_get? hb
  by_cases hname : s.Named a.id xs
  · by_cases hname' : s.Named b.id ys
    · have hboth := bothWays_of_named hs ha hb hne ht ht' hu hu' hname hname'
      refine ⟨hboth.sameRounds, ?_⟩
      rintro a' b' ha' hb' hseason - - league hleague userId hmember
      obtain rfl : a = a' := Option.some.inj (ha.symm.trans ha')
      obtain rfl : b = b' := Option.some.inj (hb.symm.trans hb')
      exact hboth.overallRank hseason hleague hmember
    · -- The second call has nothing to record in either order.
      obtain ⟨-, rfl⟩ := same_of_not_named hs hb ha hne.symm hu hu' ht ht' hname'
      have hfirst := fullyRefreshed_of_named hs ha ht hname
      have hfound : t.round? b.id = some b := (round?_of_returns ha ht hne.symm).trans hb
      have hm := (returns_of_not_named hfirst.keyed hfound ht'
        fun h => hname' ((named_of_returns hs ha ht hne.symm).1 h)).1
      exact ⟨.refl _, fun _ _ _ _ _ _ hsome => absurd hm hsome⟩
  · obtain ⟨hn, rfl⟩ := same_of_not_named hs ha hb hne ht ht' hu hu' hname
    exact ⟨.refl _, fun _ _ _ _ _ hsome => absurd hn hsome⟩

end Calls

/-- Two published rounds of a season; player 10 doubles in the first one. -/
def openPair : Store :=
  { openStore with
    rounds :=
      [⟨1, 1, 1, .newYear2025, .newYear2025, .published, none⟩,
        ⟨2, 1, 2, .newYear2025, .newYear2025, .published, none⟩]
    fixtures := openStore.fixtures ++ [⟨3, 2, none, none, .scheduled⟩]
    predictions := openStore.predictions ++
      [⟨4, 10, 3, 0, 1, .pending, .newYear2025⟩, ⟨5, 11, 3, 1, 0, .pending, .newYear2025⟩]
    boostUsages := [⟨1, 10, 1, 1, 1, "DoubleUp", .newYear2025⟩] }

/-- The store once the first match of the first round stands at 2:1. -/
def afterFirst : Store → Store :=
  (updateMatchResults 1 [⟨1, 2, 1, .inProgress⟩] .newYear2025).storeAfter

/-- The store once the match of the second round ended 1:0. -/
def afterSecond : Store → Store :=
  (updateMatchResults 2 [⟨3, 1, 0, .completed⟩] .newYear2025).storeAfter

theorem two_rounds_commute :
    openPair.Keyed ∧
      (updateMatchResults 1 [⟨1, 2, 1, .inProgress⟩] .newYear2025).Returns openPair 1
        (afterFirst openPair) ∧
      (updateMatchResults 2 [⟨3, 1, 0, .completed⟩] .newYear2025).Returns (afterFirst openPair) 1
        (afterSecond (afterFirst openPair)) ∧
      (updateMatchResults 2 [⟨3, 1, 0, .completed⟩] .newYear2025).Returns openPair 1
        (afterSecond openPair) ∧
      (updateMatchResults 1 [⟨1, 2, 1, .inProgress⟩] .newYear2025).Returns (afterSecond openPair) 1
        (afterFirst (afterSecond openPair)) ∧
      (afterSecond (afterFirst openPair)).SameRounds (afterFirst (afterSecond openPair)) ∧
      ((afterSecond (afterFirst openPair)).statsOf 1 11).map (·.overallRank) = [2] ∧
      ((afterFirst (afterSecond openPair)).statsOf 1 11).map (·.overallRank) = [2] := by
  have hkeyed : openPair.Keyed := by decide
  have ht : (updateMatchResults 1 [⟨1, 2, 1, .inProgress⟩] .newYear2025).Returns openPair 1
      (afterFirst openPair) := by decide +kernel
  have ht' : (updateMatchResults 2 [⟨3, 1, 0, .completed⟩] .newYear2025).Returns
      (afterFirst openPair) 1 (afterSecond (afterFirst openPair)) := by decide +kernel
  have hu : (updateMatchResults 2 [⟨3, 1, 0, .completed⟩] .newYear2025).Returns openPair 1
      (afterSecond openPair) := by decide +kernel
  have hu' : (updateMatchResults 1 [⟨1, 2, 1, .inProgress⟩] .newYear2025).Returns
      (afterSecond openPair) 1 (afterFirst (afterSecond openPair)) := by decide +kernel
  obtain ⟨hsame, hranks⟩ := updateMatchResults_comm hkeyed (by decide) ht ht' hu hu'
  obtain ⟨rank, hrank, hrank'⟩ := hranks _ _ rfl rfl rfl Nat.one_ne_zero Nat.one_ne_zero
    ⟨1, 1, .newYear2025, 5, 3, 0⟩ List.mem_cons_self 11 (by decide)
  have hsecond : ((afterSecond (afterFirst openPair)).statsOf 1 11).map (·.overallRank) = [2] := by
    decide +kernel
  obtain rfl : rank = 2 := List.singleton_inj.1 (hrank.symm.trans hsecond)
  exact ⟨hkeyed, ht, ht', hu, hu', hsame, hsecond, hrank'⟩

end PredictionLeague
