import PredictionLeague.Proofs.Prize.Record
import PredictionLeague.Proofs.Recompute
import PredictionLeague.Settlement

/-!
# What a settlement does

When a settlement returns, the points of the round are made anew and the awards of all leagues of
its season are recorded; nothing else changes.

* `Store.roundAwards`: the awards of all leagues after a round;
* `Store.withAwards`: the store with awards recorded;
* `returns_settlePrizes`, `returns_settleRound`: when a settlement returns, and what it leaves.
-/

namespace PredictionLeague

namespace Store

/-- The awards of a league after a round. -/
def leagueAwards (s : Store) (round : Round) (league : League) :
    Except Fault (List Prize.Award) :=
  Prize.awards s (Prize.settingsOf s league.id) (s.standings league.id) round
    (s.season? round.seasonId)

/-- The awards of all leagues after a round. -/
def roundAwards (s : Store) (round : Round) : Except Fault (List Prize.Award) := do
  let lists ← (s.leaguesOf round.seasonId).mapM (s.leagueAwards round)
  return lists.flatten

variable {s : Store} {round : Round} {as : List Prize.Award}

/-- The awards of a round: one for each league of its season and each kind that is due there. -/
theorem mem_roundAwards (h : s.roundAwards round = .ok as) {award : Prize.Award} :
    award ∈ as ↔ ∃ league ∈ s.leaguesOf round.seasonId,
      ∃ kind ∈ Prize.dueKinds s (Prize.settingsOf s league.id) round (s.season? round.seasonId),
        Prize.awardOf s (s.standings league.id) round kind
          ((Prize.settingsOf s league.id).filter (·.kind == kind)) = award := by
  obtain ⟨lists, hlists, h⟩ := bind_eq_ok.1 h
  obtain rfl := Except.ok.inj h
  obtain ⟨hback, hforth⟩ := mem_of_mapM_ok hlists
  rw [List.mem_flatten]
  constructor
  · rintro ⟨list, hlist, haward⟩
    obtain ⟨league, hleague, hok⟩ := hback list hlist
    rw [Prize.awards_ok hok] at haward
    exact ⟨league, hleague, List.mem_map.1 haward⟩
  · rintro ⟨league, hleague, haward⟩
    obtain ⟨list, hlist, hok⟩ := hforth league hleague
    refine ⟨list, hlist, ?_⟩
    rw [Prize.awards_ok hok]
    exact List.mem_map.2 haward

theorem known_roundAwards (h : s.roundAwards round = .ok as) : ∀ award ∈ as, award.Known := by
  intro award haward
  obtain ⟨league, -, kind, -, rfl⟩ := (mem_roundAwards h).1 haward
  exact Prize.known_awardOf s (s.standings league.id) round kind _

/-- The store with awards recorded. -/
def withAwards (s : Store) (now : DateTime) (awards : List Prize.Award) : Store :=
  { s with winnings := (Prize.recordAwards now s.winnings awards).1 }

theorem withAwards_append (s : Store) (now : DateTime) (as bs : List Prize.Award) :
    s.withAwards now (as ++ bs) = (s.withAwards now as).withAwards now bs := by
  rw [withAwards, Prize.recordAwards_append]
  rfl

end Store

section Returns

open Engine

variable {s s' : Store}

instance (leagueId roundId : Int) (now : DateTime) :
    Quiet (Prize.processPrizes leagueId roundId now) := by
  refine quiet_bind inferInstance fun round => quiet_bind inferInstance fun _ =>
    quiet_bind inferInstance fun s => ?_
  dsimp only
  split
  · infer_instance
  · split <;> infer_instance

theorem awards_nil (s : Store) (standings : Standings) (round : Round) (season : Option Season) :
    Prize.awards s [] standings round season = .ok [] := rfl

theorem returns_processPrizes {leagueId roundId : Int} {now : DateTime} {paid : List Winning} :
    (Prize.processPrizes leagueId roundId now).Returns s paid s' ↔
      ∃ round, (fits roundId ∧ s.round? roundId = some round) ∧
        ∃ league, (fits leagueId ∧ s.league? leagueId = some league) ∧
          ∃ awards, Prize.awards s (Prize.settingsOf s leagueId) (s.standings leagueId) round
              (s.season? round.seasonId) = .ok awards ∧
            paid = (Prize.recordAwards now s.winnings awards).2 ∧
            s' = s.withAwards now awards := by
  unfold Prize.processPrizes
  rw [returns_getRound_bind]
  refine exists_congr fun round => and_congr_right fun _ => ?_
  rw [returns_getLeague_bind]
  refine exists_congr fun league => and_congr_right fun _ => ?_
  rw [returns_current_bind]
  simp only
  split
  · rename_i hempty
    rw [List.isEmpty_iff] at hempty
    rw [hempty, awards_nil, returns_say_bind, returns_pure]
    simp only [Except.ok.injEq, exists_eq_left']
    rfl
  · split
    · rename_i hawards
      simp [returns_say_bind, hawards]
    · rename_i hawards
      simp only [returns_put_bind, returns_say_bind, returns_pure, hawards, Except.ok.injEq,
        exists_eq_left']
      rfl

theorem league?_isSome {league : League} (h : league ∈ s.leagues) :
    ∃ found, s.league? league.id = some found := by
  cases hfind : s.league? league.id with
  | none => exact absurd (beq_self_eq_true league.id) (List.find?_eq_none.1 hfind league h)
  | some found => exact ⟨found, rfl⟩

/-- Settling leagues one after the other records the awards of all of them. -/
theorem returns_payLeagues {round : Round} {now : DateTime} {leagues : List League}
    (hround : fits round.id ∧ s.round? round.id = some round)
    (hleagues : ∀ league ∈ leagues, league ∈ s.leagues) :
    (leagues.forM fun league => do
        let _ ← Prize.processPrizes league.id round.id now).Returns s () s' ↔
      (∀ league ∈ leagues, fits league.id) ∧
        ∃ lists, leagues.mapM (s.leagueAwards round) = .ok lists ∧
          s' = s.withAwards now lists.flatten := by
  induction leagues generalizing s with
  | nil =>
    refine returns_pure.trans ?_
    simp [pure, Except.pure, Store.withAwards, Prize.recordAwards]
  | cons league leagues ih =>
    obtain ⟨hfirst, hrest⟩ := List.forall_mem_cons.1 hleagues
    have hstep {t : Store} :
        (do let _ ← Prize.processPrizes league.id round.id now).Returns s () t ↔
          fits league.id ∧ ∃ awards, s.leagueAwards round league = .ok awards ∧
            t = s.withAwards now awards := by
      rw [returns_bind]
      simp only [returns_pure, returns_processPrizes, hround, Option.some.injEq]
      constructor
      · rintro ⟨paid, u, ⟨round', ⟨-, rfl⟩, found, ⟨hfits, -⟩, awards, hawards, rfl, rfl⟩, -, rfl⟩
        exact ⟨hfits, awards, hawards, rfl⟩
      · rintro ⟨hfits, awards, hawards, rfl⟩
        obtain ⟨found, hfound⟩ := league?_isSome hfirst
        exact ⟨_, _, ⟨round, ⟨trivial, rfl⟩, found, ⟨hfits, hfound⟩, awards, hawards, rfl, rfl⟩,
          trivial, rfl⟩
    rw [returns_forM_cons, List.forall_mem_cons]
    simp only [hstep, mapM_cons_eq_ok]
    -- The awards of the other leagues are the same with those of the first one recorded.
    constructor
    · rintro ⟨t, ⟨hfits, awards, hawards, rfl⟩, hmore⟩
      obtain ⟨hall, lists, hlists, rfl⟩ := (ih (s := s.withAwards now awards) hround hrest).1 hmore
      exact ⟨⟨hfits, hall⟩, awards :: lists, ⟨awards, lists, hawards, hlists, rfl⟩,
        (s.withAwards_append now awards lists.flatten).symm⟩
    · rintro ⟨⟨hfits, hall⟩, lists, ⟨awards, rest, hawards, hlists, rfl⟩, rfl⟩
      refine ⟨s.withAwards now awards, ⟨hfits, awards, hawards, rfl⟩, ?_⟩
      exact (ih (s := s.withAwards now awards) hround hrest).2
        ⟨hall, rest, hlists, s.withAwards_append now awards rest.flatten⟩

instance (round : Round) (now : DateTime) : Quiet (settlePrizes round now) := by
  unfold settlePrizes
  infer_instance

/-- When the prizes of all leagues of a round are settled, and what that leaves. -/
theorem returns_settlePrizes {round : Round} {now : DateTime} {n : Nat}
    (hround : fits round.id ∧ s.round? round.id = some round) :
    (settlePrizes round now).Returns s n s' ↔
      (∀ league ∈ s.leaguesOf round.seasonId, fits league.id) ∧
        ∃ awards, s.roundAwards round = .ok awards ∧ s' = s.withAwards now awards ∧
          n = (s.leaguesOf round.seasonId).length := by
  unfold settlePrizes
  rw [returns_current_bind, returns_bind]
  have hleagues : ∀ league ∈ s.leaguesOf round.seasonId, league ∈ s.leagues :=
    fun league hleague => List.mem_of_mem_filter hleague
  simp only [returns_pure, Store.roundAwards, bind_eq_ok]
  constructor
  · rintro ⟨u, t, hpay, rfl, rfl⟩
    obtain ⟨hfits, lists, hlists, rfl⟩ := (returns_payLeagues hround hleagues).1 hpay
    exact ⟨hfits, lists.flatten, ⟨lists, hlists, rfl⟩, rfl, rfl⟩
  · rintro ⟨hfits, awards, ⟨lists, hlists, hawards⟩, hs', hn⟩
    obtain rfl := Except.ok.inj hawards
    exact ⟨(), s', (returns_payLeagues hround hleagues).2 ⟨hfits, lists, hlists, hs'⟩, hn, rfl⟩

instance (roundId : Int) (now : DateTime) : Quiet (settleRound roundId now) := by
  unfold settleRound
  infer_instance

/-- When a round is settled, and what that leaves. -/
theorem returns_settleRound {roundId : Int} {now : DateTime} {n : Nat} :
    (settleRound roundId now).Returns s n s' ↔
      ∃ round, (fits roundId ∧ s.round? roundId = some round) ∧ round.status = .completed ∧
        s.pointsFit round ∧ (∀ league ∈ s.leaguesOf round.seasonId, fits league.id) ∧
          ∃ awards, (s.recomputed round).roundAwards round = .ok awards ∧
            s' = (s.recomputed round).withAwards now awards ∧
            n = (s.leaguesOf round.seasonId).length := by
  unfold settleRound
  rw [returns_getRound_bind]
  refine exists_congr fun round => and_congr_right fun hround => ?_
  by_cases hstatus : round.status = .completed
  · have hid : round.id = roundId := Table.id_of_get? hround.2
    rw [if_neg (not_not.2 hstatus), returns_bind]
    have hsettle {t u : Store} {m : Nat} (hframe : ∃ counts points,
        t = { s with roundResults := counts, leagueResults := points }) :
        (settlePrizes round now).Returns t m u ↔
          (∀ league ∈ s.leaguesOf round.seasonId, fits league.id) ∧
            ∃ awards, t.roundAwards round = .ok awards ∧ u = t.withAwards now awards ∧
              m = (s.leaguesOf round.seasonId).length := by
      obtain ⟨counts, points, rfl⟩ := hframe
      exact returns_settlePrizes (hid ▸ hround)
    constructor
    · rintro ⟨u, t, hpoints, hrest⟩
      obtain ⟨round', ⟨-, hround'⟩, hfit, rfl⟩ := returns_recomputePoints.1 hpoints
      obtain rfl : round' = round := Option.some.inj (hround'.symm.trans hround.2)
      obtain ⟨m, v, hprizes, hsay⟩ := returns_bind.1 hrest
      obtain ⟨rfl, rfl⟩ := returns_pure.1 ((returns_say_bind (f := fun _ => pure m)).1 hsay)
      obtain ⟨hfits, awards, hawards, rfl, rfl⟩ := (hsettle (s.recomputed_frame round')).1 hprizes
      exact ⟨hstatus, hfit, hfits, awards, hawards, rfl, rfl⟩
    · rintro ⟨-, hfit, hfits, awards, hawards, rfl, rfl⟩
      refine ⟨(), s.recomputed round,
        returns_recomputePoints.2 ⟨round, hround, hfit, rfl⟩, returns_bind.2 ⟨_, _,
          (hsettle (s.recomputed_frame round)).2 ⟨hfits, awards, hawards, rfl, rfl⟩,
          returns_say_bind.2 (returns_pure.2 ⟨rfl, rfl⟩)⟩⟩
  · rw [if_pos hstatus, returns_bind]
    exact ⟨fun ⟨_, _, h, _⟩ => absurd h not_returns_throw, fun h => absurd h.1 hstatus⟩

/-! ### The walk over a season -/

instance (seasonId : Int) (now : DateTime) (round : Round) :
    Quiet (settleStep seasonId now round) := by
  unfold settleStep
  infer_instance

/-- A step of the walk returns when the settlement of its round does. -/
theorem returns_settleStep {seasonId : Int} {now : DateTime} {round : Round} :
    (settleStep seasonId now round).Returns s () s' ↔
      ∃ n, (settleRound round.id now).Returns s n s' := by
  unfold settleStep
  rw [returns_tryCatch]
  · simp only [returns_bind, returns_pure, true_and]
    constructor
    · rintro ⟨n, t, h, rfl⟩
      exact ⟨n, h⟩
    · rintro ⟨n, h⟩
      exact ⟨n, s', h, rfl⟩
  · intro fault t h
    exact absurd (returns_say_bind.1 h) not_returns_throw

theorem returns_recalculateSeason {seasonId : Int} {now : DateTime} {n : Nat} :
    (recalculateSeason seasonId now).Returns s n s' ↔
      ∃ season, (fits seasonId ∧ s.season? seasonId = some season) ∧
        ((s.completedRounds seasonId).forM (settleStep seasonId now)).Returns s () s' ∧
          n = (s.completedRounds seasonId).length := by
  unfold recalculateSeason
  rw [returns_getSeason_bind]
  refine exists_congr fun season => and_congr_right fun _ => ?_
  rw [returns_current_bind, returns_bind]
  simp only [returns_say_bind, returns_pure]
  constructor
  · rintro ⟨u, t, h, rfl, rfl⟩
    exact ⟨h, rfl⟩
  · rintro ⟨h, rfl⟩
    exact ⟨(), s', h, rfl, rfl⟩

end Returns

end PredictionLeague
