import PredictionLeague.Proofs.Boost.Deadline
import PredictionLeague.Proofs.FailFast

/-!
# Results show the boosts of their round

The points of a round are made from nothing, with the boosts that are used in it. Once the deadline
has passed these boosts stay, so from the first time that its points are made the results of the
round show them, whichever calls follow and wherever these stop.

* `Store.resultsIn`, `Store.ShowsBoosts`: the results of a round, and that they show its boosts;
* `Call.Recomputes`: a call makes the points of a round, whatever happens to it later on;
* `Store.MadeOrKept`: the results of a round show its boosts if its points were made, and are as
  they were if not;
* `Call.madeOrKept_after`, `Call.madeOrKept_afterAll`: one call, and a run of calls;
* `boosts_freeze`: boosts and results after the deadline of a round.
-/

namespace PredictionLeague

open Engine

/-- A result shows the boost that its player uses in its league, out of the boosts of its round:
it has a boost when there is one, with its code, and its points are those before the boost times the
factor of the code. -/
structure LeagueResult.Shows (r : LeagueResult) (uses : List BoostUsage) : Prop where
  has : r.hasBoost = true ↔ ∃ u ∈ uses, u.userId = r.userId ∧ u.leagueId = r.leagueId
  boosted : ∀ u ∈ uses, u.userId = r.userId → u.leagueId = r.leagueId →
    r.boostCode = some u.boostCode ∧
      r.boostedPoints = r.basePoints * Boost.multiplier u.boostCode
  plain : r.hasBoost = false → r.boostCode = none ∧ r.boostedPoints = r.basePoints

namespace Store

/-- The results of a round in all leagues. -/
def resultsIn (s : Store) (roundId : Int) : List LeagueResult :=
  s.leagueResults.filter (·.roundId == roundId)

/-- The results of a round show the boosts that are used in it. -/
def ShowsBoosts (s : Store) (roundId : Int) : Prop :=
  ∀ r ∈ s.resultsIn roundId, r.Shows (s.usesIn roundId)

/-- Settling a round makes its points: it is completed and its points can be made. -/
def Settles (s : Store) (roundId : Int) : Prop :=
  ∃ round t, s.round? roundId = some round ∧ round.status = .completed ∧
    (recomputePoints roundId).Returns s () t

/-- The results of a round show its boosts if its points were made, and are as they were if not. -/
structure MadeOrKept (s t : Store) (roundId : Int) (made : Prop) : Prop where
  shown : made → t.ShowsBoosts roundId
  kept : ¬made → t.resultsIn roundId = s.resultsIn roundId

variable {s t u : Store} {roundId : Int} {round : Round} {made made' : Prop}

/-! ### Results and boosts -/

theorem ShowsBoosts.congr (h : s.ShowsBoosts roundId)
    (hresults : t.resultsIn roundId = s.resultsIn roundId)
    (huses : t.usesIn roundId = s.usesIn roundId) : t.ShowsBoosts roundId := by
  rw [ShowsBoosts, hresults, huses]
  exact h

/-- A result that is boosted as its player used it shows the boosts of its round. -/
theorem Boosted.shows {r : LeagueResult} (h : s.Boosted r) : r.Shows (s.usesIn r.roundId) := by
  have hmem {u : BoostUsage} : u ∈ s.usesIn r.roundId ↔
      u ∈ s.boostUsages ∧ u.roundId = r.roundId := by
    rw [usesIn, List.mem_filter, beq_iff_eq]
  by_cases hused : ∃ u ∈ s.usesIn r.roundId, u.userId = r.userId ∧ u.leagueId = r.leagueId
  · obtain ⟨u, hu, huser, hleague⟩ := id hused
    obtain ⟨hu, hround⟩ := hmem.1 hu
    obtain ⟨hhas, -, -⟩ := h.used u hu huser hleague hround
    refine ⟨iff_of_true hhas hused, fun v hv hvuser hvleague => ?_, fun hnot => ?_⟩
    · obtain ⟨hv, hvround⟩ := hmem.1 hv
      obtain ⟨-, hcode, hpoints⟩ := h.used v hv hvuser hvleague hvround
      refine ⟨hcode, ?_⟩
      rw [hpoints, ← boostedPoints_some, Boost.boostedPoints]
    · rw [hhas] at hnot
      exact absurd hnot (by simp)
  · have hunused : ∀ u ∈ s.boostUsages, u.userId = r.userId → u.leagueId = r.leagueId →
        u.roundId ≠ r.roundId :=
      fun u hu huser hleague hround => hused ⟨u, hmem.2 ⟨hu, hround⟩, huser, hleague⟩
    obtain ⟨hhas, hcode, hpoints⟩ := h.unused hunused
    refine ⟨iff_of_false (by simp [hhas]) hused, fun v hv hvuser hvleague => ?_, fun _ => ?_⟩
    · exact absurd ⟨v, hv, hvuser, hvleague⟩ hused
    · exact ⟨hcode, hpoints⟩

/-- When the points of a round are made, its results show its boosts. -/
theorem Keyed.showsBoosts_recomputed (hs : s.Keyed) (round : Round) :
    (s.recomputed round).ShowsBoosts round.id := by
  intro r hr
  obtain ⟨hr, hround⟩ := List.mem_filter.1 hr
  have hboosted := (hs.pointsSettled_recomputed round).boosts r hr (beq_iff_eq.1 hround)
  rw [← beq_iff_eq.1 hround]
  exact hboosted.shows

/-- The results of other rounds are as they were. -/
theorem Keyed.resultsIn_recomputed_of_ne (hs : s.Keyed) (hne : round.id ≠ roundId) :
    (s.recomputed round).resultsIn roundId = s.resultsIn roundId := by
  have hagree : AgreeOn (· == roundId) s (s.recomputed round) :=
    hs.agreeOn_recomputed (beq_false_of_ne hne)
  exact hagree.points

/-- Making the points of a round makes the points of that round and keeps those of others. -/
theorem Keyed.madeOrKept_recomputed (hs : s.Keyed) (round : Round) (roundId : Int) :
    s.MadeOrKept (s.recomputed round) roundId (round.id = roundId) where
  shown := by
    rintro rfl
    exact hs.showsBoosts_recomputed round
  kept hne := hs.resultsIn_recomputed_of_ne hne

theorem MadeOrKept.of_kept (h : t.resultsIn roundId = s.resultsIn roundId) (hnot : ¬made) :
    s.MadeOrKept t roundId made :=
  ⟨fun hmade => absurd hmade hnot, fun _ => h⟩

/-- Only the results and the boosts of the round matter. -/
theorem MadeOrKept.congr (h : s.MadeOrKept t roundId made)
    (hbefore : s.leagueResults = u.leagueResults) {v : Store}
    (hresults : v.leagueResults = t.leagueResults) (huses : v.boostUsages = t.boostUsages)
    (hmade : made' ↔ made) : u.MadeOrKept v roundId made' := by
  have hafter : v.resultsIn roundId = t.resultsIn roundId := by rw [resultsIn, hresults, resultsIn]
  refine ⟨fun h' => (h.shown (hmade.1 h')).congr hafter (usesIn_of_boostUsages huses roundId),
    fun h' => ?_⟩
  rw [hafter, h.kept (mt hmade.2 h'), resultsIn, hbefore, resultsIn]

/-- What is made first and then kept is made, and so is what is made later. -/
theorem MadeOrKept.trans (h : s.MadeOrKept t roundId made) (h' : t.MadeOrKept u roundId made')
    (huses : u.usesIn roundId = t.usesIn roundId) : s.MadeOrKept u roundId (made ∨ made') := by
  refine ⟨fun hmade => ?_, fun hnot => ?_⟩
  · by_cases hlater : made'
    · exact h'.shown hlater
    · exact (h.shown (hmade.resolve_right hlater)).congr (h'.kept hlater) huses
  · rw [not_or] at hnot
    rw [h'.kept hnot.2, h.kept hnot.1]

/-- Where a call ends once its scores are recorded, the points of the round were made or not. -/
theorem Ends.points_eq {newly : Bool} {now : DateTime} {answer : Except Fault Nat}
    (h : s.Ends round newly now answer t) :
    s.pointsFit round = false ∧ t.leagueResults = s.leagueResults ∨
      s.pointsFit round = true ∧ t.leagueResults = (s.recomputed round).leagueResults := by
  cases h with
  | unpointed fault hfit => exact .inl ⟨hfit, rfl⟩
  | unranked fault hfit hnewly hstable => exact .inr ⟨hfit, rfl⟩
  | figured answer hfit hstable winnings =>
    refine .inr ⟨hfit, ?_⟩
    obtain ⟨_, hclosed⟩ := (s.figured round newly).closed_frame round now
    obtain ⟨_, _, _, hfigured⟩ := (s.progressed_figured round newly).rest
    rw [hclosed, hfigured]

end Store

open Store

/-! ### Settling -/

section Settling

variable {s : Store} {now : DateTime}

theorem settles_iff {round : Round} {id : Int}
    (hround : fits id = true ∧ s.round? id = some round) :
    s.Settles id ↔ round.status = .completed ∧ s.pointsFit round = true := by
  constructor
  · rintro ⟨found, t, hfound, hstatus, hreturns⟩
    obtain ⟨found', ⟨-, hfound'⟩, hfit, -⟩ := returns_recomputePoints.1 hreturns
    obtain rfl : round = found := Option.some.inj (hround.2.symm.trans hfound)
    obtain rfl : round = found' := Option.some.inj (hround.2.symm.trans hfound')
    exact ⟨hstatus, hfit⟩
  · rintro ⟨hstatus, hfit⟩
    exact ⟨round, s.recomputed round, hround.2, hstatus,
      returns_recomputePoints.2 ⟨round, hround, hfit, rfl⟩⟩

/-- Settling a round leaves the store as it is, or makes the points of the round and pays some
prizes. -/
theorem storeAfter_settleRound (s : Store) (id : Int) (now : DateTime) :
    ¬s.Settles id ∧ (settleRound id now).storeAfter s = s ∨
      s.Settles id ∧ ∃ round winnings, round.id = id ∧
        (settleRound id now).storeAfter s = { s.recomputed round with winnings } := by
  unfold settleRound
  rw [storeAfter_eq, effect_bind, effect_getRound]
  cases hfound : found "Round" (s.round? id) id with
  | error fault =>
    refine .inl ⟨?_, rfl⟩
    rintro ⟨round, t, -, -, hreturns⟩
    obtain ⟨round', hround', -⟩ := returns_recomputePoints.1 hreturns
    rw [found_eq_ok.2 hround'] at hfound
    simp at hfound
  | ok round =>
    have hround := found_eq_ok.1 hfound
    rw [settles_iff hround]
    simp only [effect_ite]
    by_cases hstatus : round.status = .completed
    · rw [if_neg (not_not.2 hstatus), effect_bind, effect_recomputePoints, hfound]
      by_cases hfit : s.pointsFit round = true
      · refine .inr ⟨⟨hstatus, hfit⟩, round, ?_⟩
        obtain ⟨winnings, hpaid⟩ := storeAfter_settlePrizes (s.recomputed round) round now
        refine ⟨winnings, Table.id_of_get? hround.2, ?_⟩
        simp only [hfit, reduceIte]
        rw [storeAfter_eq] at hpaid
        rw [effect_bind]
        rcases hpays : (settlePrizes round now).effect (s.recomputed round) with ⟨_ | _, _⟩
        · rwa [hpays] at hpaid
        · rwa [hpays] at hpaid
      · exact .inl ⟨fun h => hfit h.2, by simp [hfit]⟩
    · exact .inl ⟨fun h => hstatus h.1, by rw [if_pos hstatus, effect_bind, effect_throw]⟩

theorem Store.Keyed.madeOrKept_settleRound (hs : s.Keyed) (id : Int) (now : DateTime)
    (roundId : Int) : s.MadeOrKept ((settleRound id now).storeAfter s) roundId
      (id = roundId ∧ s.Settles id) := by
  rcases storeAfter_settleRound s id now with ⟨hnot, hsame⟩ | ⟨hsettles, round, _, rfl, hmade⟩
  · rw [hsame]
    exact .of_kept rfl fun h => hnot h.2
  · rw [hmade]
    exact (hs.madeOrKept_recomputed round roundId).congr rfl rfl rfl (and_iff_left hsettles)

/-! ### Settling a season -/

/-- A step of the walk leaves what settling its round leaves. -/
theorem storeAfter_settleStep (s : Store) (seasonId : Int) (now : DateTime) (round : Round) :
    (settleStep seasonId now round).storeAfter s = (settleRound round.id now).storeAfter s := by
  refine Eq.trans ?_ (storeAfter_bind_pure (settleRound round.id now) (fun _ => ()) s)
  rw [storeAfter_eq, settleStep, effect_tryCatch, storeAfter_eq]
  rcases (settleRound round.id now >>= fun _ => pure ()).effect s with ⟨fault | _, _⟩
  · rfl
  · rfl

/-- The walk over rounds settles a round: those before it are settled, and then it is. -/
def Store.WalkSettles (s : Store) (seasonId : Int) (now : DateTime) (rounds : List Round)
    (roundId : Int) : Prop :=
  ∃ before round after t, rounds = before ++ round :: after ∧
    (before.forM (settleStep seasonId now)).Returns s () t ∧ round.id = roundId ∧
      t.Settles round.id

section Walk

variable {seasonId roundId : Int} {round : Round} {rounds : List Round}

/-- The walk settles a round at its first step, or later if this step returns. -/
theorem walkSettles_cons : s.WalkSettles seasonId now (round :: rounds) roundId ↔
    (round.id = roundId ∧ s.Settles round.id) ∨
      ∃ t, (settleStep seasonId now round).Returns s () t ∧
        t.WalkSettles seasonId now rounds roundId := by
  constructor
  · rintro ⟨_ | ⟨first, before⟩, round', after, t, hrounds, hbefore, hid, hsettles⟩
    · obtain ⟨rfl, rfl⟩ := List.cons.inj hrounds
      obtain ⟨-, rfl⟩ := returns_pure.1 hbefore
      exact .inl ⟨hid, hsettles⟩
    · obtain ⟨rfl, rfl⟩ := List.cons.inj hrounds
      obtain ⟨u, hfirst, hbefore⟩ := returns_forM_cons.1 hbefore
      exact .inr ⟨u, hfirst, before, round', after, t, rfl, hbefore, hid, hsettles⟩
  · rintro (⟨hid, hsettles⟩ | ⟨u, hfirst, before, round', after, t, rfl, hbefore, hid, hsettles⟩)
    · exact ⟨[], round, rounds, s, rfl, returns_pure.2 ⟨rfl, rfl⟩, hid, hsettles⟩
    · exact ⟨round :: before, round', after, t, rfl,
        returns_forM_cons.2 ⟨u, hfirst, hbefore⟩, hid, hsettles⟩

/-- A walk makes the points of the rounds that it settles and keeps those of others, wherever it
stops. -/
theorem Store.Keyed.madeOrKept_settleSteps (hs : s.Keyed) (seasonId : Int) (now : DateTime)
    (rounds : List Round) (roundId : Int) :
    s.MadeOrKept ((rounds.forM (settleStep seasonId now)).storeAfter s) roundId
      (s.WalkSettles seasonId now rounds roundId) := by
  -- By induction on the rounds; the walk goes on from where the first step returns.
  induction rounds generalizing s with
  | nil =>
    refine .of_kept rfl ?_
    rintro ⟨before, round, after, t, hrounds, -⟩
    simp at hrounds
  | cons round rounds ih =>
    have hfirst := hs.madeOrKept_settleRound round.id now roundId
    rw [← storeAfter_settleStep s seasonId] at hfirst
    rw [walkSettles_cons, storeAfter_eq, effect_forM_cons]
    cases hstep : (settleStep seasonId now round).effect s with
    | mk answer t =>
      have ht : (settleStep seasonId now round).storeAfter s = t := by rw [storeAfter_eq, hstep]
      rw [ht] at hfirst
      cases answer with
      | error fault =>
        refine hfirst.congr rfl rfl rfl ⟨fun h => h.resolve_right ?_, .inl⟩
        rintro ⟨u, hreturns, -⟩
        rw [Returns, hstep] at hreturns
        simp at hreturns
      | ok _ =>
        have hkeyed : t.Keyed := by
          rw [← ht, storeAfter_settleStep]
          exact keptBySettling_keyed.storeAfter_settleRound hs round.id now
        have hlater : (∃ u, (settleStep seasonId now round).Returns s () u ∧
            u.WalkSettles seasonId now rounds roundId) ↔
              t.WalkSettles seasonId now rounds roundId := by
          simp [Returns, hstep]
        rw [hlater]
        refine hfirst.trans (ih hkeyed) (usesIn_of_boostUsages ?_ roundId)
        exact (Call.keptBySettling_boostUsages t.boostUsages).storeAfter_settleSteps rfl seasonId
          now rounds

end Walk

/-- The settlement of a season settles a round: the season is there, and the walk over its completed
rounds settles the round. -/
def Store.SeasonSettles (s : Store) (seasonId : Int) (now : DateTime) (roundId : Int) : Prop :=
  (fits seasonId = true ∧ ∃ season, s.season? seasonId = some season) ∧
    s.WalkSettles seasonId now (s.completedRounds seasonId) roundId

theorem Store.Keyed.madeOrKept_recalculateSeason (hs : s.Keyed) (seasonId : Int) (now : DateTime)
    (roundId : Int) : s.MadeOrKept ((recalculateSeason seasonId now).storeAfter s) roundId
      (s.SeasonSettles seasonId now roundId) := by
  unfold recalculateSeason
  rw [storeAfter_eq, effect_bind, effect_getSeason]
  cases hfound : found "Season" (s.season? seasonId) seasonId with
  | error fault =>
    refine .of_kept rfl ?_
    rintro ⟨⟨hfits, season, hseason⟩, -⟩
    rw [found_eq_ok.2 ⟨hfits, hseason⟩] at hfound
    simp at hfound
  | ok season =>
    have hthere : fits seasonId = true ∧ ∃ season, s.season? seasonId = some season :=
      ⟨(found_eq_ok.1 hfound).1, season, (found_eq_ok.1 hfound).2⟩
    have hwalk := (hs.madeOrKept_settleSteps seasonId now (s.completedRounds seasonId)
      roundId).congr rfl rfl rfl (and_iff_right hthere)
    simp only
    rw [effect_bind, effect_current]
    simp only
    rw [storeAfter_eq] at hwalk
    rw [effect_bind]
    rcases hstops : ((s.completedRounds seasonId).forM (settleStep seasonId now)).effect s with
      ⟨_ | _, _⟩
    · rwa [hstops] at hwalk
    · rwa [hstops] at hwalk

end Settling

/-! ### Recording results -/

/-- Recording scores makes the points of their round: the scores are recorded, and its points can be
made once the predictions are judged. -/
def Store.RecordsPoints (s : Store) (roundId : Int) (scores : List MatchScore) (now : DateTime) :
    Prop :=
  ∃ round recording t, s.round? roundId = some round ∧ s.Accepts roundId scores recording ∧
    (recomputePoints roundId).Returns (s.carried round recording now) () t

section Recording

variable {s : Store} {round : Round} {scores : List MatchScore} {recording : Recording}
  {now : DateTime}

theorem recordsPoints_iff (hround : s.round? round.id = some round)
    (haccepts : s.Accepts round.id scores recording) : s.RecordsPoints round.id scores now ↔
      (s.carried round recording now).pointsFit (round.opened recording now) = true := by
  have hfound := s.round?_carried recording now hround
  constructor
  · rintro ⟨found, recording', t, hround', haccepts', hreturns⟩
    obtain rfl : round = found := Option.some.inj (hround.symm.trans hround')
    obtain rfl := haccepts.unique haccepts'
    obtain ⟨opened, ⟨-, hopened⟩, hfit, -⟩ := returns_recomputePoints.1 hreturns
    obtain rfl := Option.some.inj (hfound.symm.trans hopened)
    exact hfit
  · intro hfit
    exact ⟨round, recording, _, hround, haccepts,
      returns_recomputePoints.2 ⟨_, ⟨haccepts.key, hfound⟩, hfit, rfl⟩⟩

/-- A call that records results makes the points of its round or keeps them, and keeps those of
other rounds, wherever it stops. -/
theorem Store.Keyed.madeOrKept_updateMatchResults (hs : s.Keyed) (id : Int)
    (scores : List MatchScore) (now : DateTime) (roundId : Int) :
    s.MadeOrKept ((updateMatchResults id scores now).storeAfter s) roundId
      (id = roundId ∧ s.RecordsPoints id scores now) := by
  cases hround : s.round? id with
  | none =>
    rw [storeAfter_updateMatchResults_of_none hround]
    refine .of_kept rfl ?_
    rintro ⟨-, round, recording, t, hsome, -⟩
    rw [hround] at hsome
    simp at hsome
  | some round =>
    obtain rfl : round.id = id := Table.id_of_get? hround
    have hreported := reported_updateMatchResults hround scores now
    generalize ((updateMatchResults round.id scores now).effect s).1 = answer at hreported
    generalize (updateMatchResults round.id scores now).storeAfter s = t at hreported ⊢
    cases hreported with
    | refused _ hrefused _ =>
      refine .of_kept rfl ?_
      rintro ⟨-, _, recording, _, -, haccepts, -⟩
      exact hrefused recording haccepts
    | carried recording haccepts hends =>
      obtain ⟨_, _, _, _, hframe⟩ := s.carried_frame round recording now
      have hresults : (s.carried round recording now).leagueResults = s.leagueResults := by
        rw [hframe]
      rw [recordsPoints_iff hround haccepts]
      rcases hends.points_eq with ⟨hfit, hkept⟩ | ⟨hfit, hmade⟩
      · refine .of_kept ?_ fun h => Bool.eq_false_iff.1 hfit h.2
        rw [resultsIn, hkept, hresults, resultsIn]
      · have hpoints := (hs.carried haccepts hround now).madeOrKept_recomputed
          (round.opened recording now) roundId
        have huses : t.boostUsages = ((s.carried round recording now).recomputed
            (round.opened recording now)).boostUsages := by
          obtain ⟨_, _, _, _, _, hended⟩ := hends.frame
          obtain ⟨_, _, hmade⟩ := (s.carried round recording now).recomputed_frame
            (round.opened recording now)
          rw [hended, hmade]
        rw [Round.id_opened] at hpoints
        exact hpoints.congr hresults hmade huses (and_iff_left hfit)

end Recording

/-! ### Any call -/

namespace Call

/-- The call makes the points of a round, whether or not it goes on to return. -/
def Recomputes (call : Call) (s : Store) (roundId : Int) : Prop :=
  match call with
  | updateResults id scores now => id = roundId ∧ s.RecordsPoints id scores now
  | settle id _ => id = roundId ∧ s.Settles id
  | recalculate seasonId now => s.SeasonSettles seasonId now roundId
  | _ => False

variable {s : Store}

/-- A call makes the points of a round, and then its results show its boosts, or keeps its
results. -/
theorem madeOrKept_after (hs : s.Keyed) (call : Call) (roundId : Int) :
    s.MadeOrKept (call.after s) roundId (call.Recomputes s roundId) := by
  have hkept {t : Store} (ht : t.leagueResults = s.leagueResults) :
      s.MadeOrKept t roundId False := .of_kept (by rw [resultsIn, ht, resultsIn]) not_false
  have hranks {t : Store} (ht : s.Refigured t) : s.MadeOrKept t roundId False := by
    obtain ⟨stats, rfl⟩ := ht.frame
    exact hkept rfl
  rw [after_eq]
  cases call with
  | updateResults id scores now => exact hs.madeOrKept_updateMatchResults id scores now roundId
  | settle id now => exact hs.madeOrKept_settleRound id now roundId
  | recalculate seasonId now => exact hs.madeOrKept_recalculateSeason seasonId now roundId
  | payPrizes leagueId id now =>
    have hpaid := KeptByWrites.keeps_processPrizes (P := fun t => t.leagueResults = s.leagueResults)
      (fun _ _ _ _ _ ht _ => ht) leagueId id now
    exact hkept (hpaid.storeAfter rfl)
  | useBoost userId leagueId id code now =>
    rcases Boost.storeAfter_applyBoost s userId leagueId id code now with
      hsame | ⟨_, _, _, -, -, -, hused⟩
    · exact hkept (congrArg Store.leagueResults hsame :)
    · exact hkept (congrArg Store.leagueResults hused :)
  | dropBoost userId leagueId id now =>
    obtain ⟨uses, -, hdropped⟩ := Boost.storeAfter_removeBoost s userId leagueId id now
    exact hkept (congrArg Store.leagueResults hdropped :)
  | takeSnapshots id => exact hranks (refigured_takeSnapshots s id)
  | updateLive id => exact hranks (refigured_updateLiveStats s id)
  | updateStable id => exact hranks (refigured_updateStableStats s id)

/-- One of the calls makes the points of a round. -/
def SomeRecomputes (calls : List Call) (s : Store) (roundId : Int) : Prop :=
  ∃ before call later, calls = before ++ call :: later ∧
    call.Recomputes (afterAll before s) roundId

theorem someRecomputes_cons {call : Call} {calls : List Call} {roundId : Int} :
    SomeRecomputes (call :: calls) s roundId ↔
      call.Recomputes s roundId ∨ SomeRecomputes calls (call.after s) roundId := by
  constructor
  · rintro ⟨_ | ⟨first, before⟩, made, later, hcalls, hmade⟩
    · obtain ⟨rfl, rfl⟩ := List.cons.inj hcalls
      exact .inl hmade
    · obtain ⟨rfl, rfl⟩ := List.cons.inj hcalls
      exact .inr ⟨before, made, later, rfl, hmade⟩
  · rintro (hmade | ⟨before, made, later, rfl, hmade⟩)
    · exact ⟨[], call, calls, rfl, hmade⟩
    · exact ⟨call :: before, made, later, rfl, hmade⟩

/-- After the deadline of a round no run of calls changes the boosts that are used in it, and its
results show them once a call has made its points; until then they are as they were. -/
theorem madeOrKept_afterAll (hs : s.Keyed) (huses : Table.Ordered s.boostUsages) {roundId : Int}
    {deadline : DateTime} (hdeadline : s.deadline? roundId = some deadline) {calls : List Call}
    (hafter : ∀ call ∈ calls, call.IsAfter deadline) :
    (afterAll calls s).usesIn roundId = s.usesIn roundId ∧
      s.MadeOrKept (afterAll calls s) roundId (SomeRecomputes calls s roundId) := by
  -- By induction on the calls; each keeps what the tables promise, the deadline and the boosts.
  induction calls generalizing s with
  | nil =>
    refine ⟨rfl, .of_kept rfl ?_⟩
    rintro ⟨before, call, later, hcalls, -⟩
    simp at hcalls
  | cons call calls ih =>
    obtain ⟨hfirst, hafter⟩ := List.forall_mem_cons.1 hafter
    obtain ⟨hsame, hlater⟩ := ih (keyed_after hs call) (ordered_uses_after huses call)
      ((deadline?_after s call roundId).trans hdeadline) hafter
    refine ⟨hsame.trans (usesIn_after huses hdeadline hfirst), ?_⟩
    rw [someRecomputes_cons]
    exact (madeOrKept_after hs call roundId).trans hlater hsame

end Call

/-- Boosts freeze at the deadline. At every point of a run of calls after the deadline of a round,
whether the calls returned or stopped, the boosts that are used in it are those from before the run;
and once a call of the run has made the points of the round, its results show these boosts. -/
theorem boosts_freeze {s : Store} {round : Round} {roundId : Int} (hs : s.Keyed)
    (huses : Table.Ordered s.boostUsages) (hround : s.round? roundId = some round)
    {calls : List Call} (hafter : ∀ call ∈ calls, call.IsAfter round.deadline) :
    ∀ front rest, calls = front ++ rest →
      (Call.afterAll front s).usesIn roundId = s.usesIn roundId ∧
        ∀ before call later, front = before ++ call :: later →
          call.Recomputes (Call.afterAll before s) roundId →
            (Call.afterAll front s).ShowsBoosts roundId := by
  rintro front rest rfl
  have hfront : ∀ call ∈ front, call.IsAfter round.deadline :=
    fun call hcall => hafter call (List.mem_append_left rest hcall)
  obtain ⟨hsame, hmade⟩ :=
    Call.madeOrKept_afterAll hs huses (deadline?_of_round hround) hfront
  exact ⟨hsame, fun before call later hcalls hrecomputes =>
    hmade.shown ⟨before, call, later, hcalls, hrecomputes⟩⟩

/-- A completed round in which player 10 doubles, and one that is still open. Two exact scores
doubled are worth more than fits. -/
def doubledRound : Store :=
  { Store.empty with
    seasons := [⟨1, "2025", .newYear2025, .june2025, 2⟩]
    rounds := [⟨1, 1, 1, .newYear2025, .newYear2025, .completed, none⟩,
      ⟨2, 1, 2, .june2025, .june2025, .published, none⟩]
    fixtures := [⟨1, 1, some 2, some 1, .completed⟩, ⟨2, 1, some 0, some 1, .completed⟩]
    predictions :=
      [⟨1, 10, 1, 2, 1, .exactScore, .newYear2025⟩, ⟨2, 10, 2, 1, 1, .incorrect, .newYear2025⟩,
        ⟨3, 11, 1, 0, 0, .incorrect, .newYear2025⟩]
    leagues := [⟨1, 1, .newYear2025, 3000000000000000000, 3, 0⟩]
    members := [⟨1, 1, 10, .approved⟩, ⟨2, 1, 11, .approved⟩]
    boostRules := [⟨1, 1, "DoubleUp", true, 2⟩]
    boostUsages := [⟨1, 10, 1, 1, 1, "DoubleUp", .newYear2025⟩] }

/-- The round is settled; then player 10 asks for the boost back and player 11 for one in each
round, and a correction stops at the points. -/
def lateCalls : List Call :=
  [.settle 1 .june2025, .dropBoost 10 1 1 .june2025, .useBoost 11 1 1 "DoubleUp" .june2025,
    .useBoost 11 1 2 "DoubleUp" .june2025, .updateResults 1 [⟨2, 1, 1, .completed⟩] .june2025]

theorem late_calls_freeze :
    doubledRound.Keyed ∧ Table.Ordered doubledRound.boostUsages ∧
      (∀ call ∈ lateCalls, call.IsAfter .newYear2025) ∧
      (Call.settle 1 .june2025).Recomputes doubledRound 1 ∧
      (Call.afterAll lateCalls doubledRound).usesIn 1 = doubledRound.boostUsages ∧
      (Call.afterAll lateCalls doubledRound).ShowsBoosts 1 ∧
      (Call.afterAll lateCalls doubledRound).resultsIn 1 =
        [⟨1, 1, 1, 10, 3000000000000000000, 6000000000000000000, true, some "DoubleUp", 1⟩,
          ⟨2, 1, 1, 11, 0, 0, false, none, 0⟩] := by
  have hkeyed : doubledRound.Keyed := by decide
  have huses : Table.Ordered doubledRound.boostUsages := by decide
  have hafter : ∀ call ∈ lateCalls, call.IsAfter .newYear2025 := by decide
  have hrecomputes : (Call.settle 1 .june2025).Recomputes doubledRound 1 :=
    ⟨rfl, (settles_iff ⟨rfl, rfl⟩).2 ⟨rfl, by decide +kernel⟩⟩
  have hround : doubledRound.round? 1 =
      some ⟨1, 1, 1, .newYear2025, .newYear2025, .completed, none⟩ := rfl
  obtain ⟨hsame, hshown⟩ := boosts_freeze hkeyed huses hround hafter lateCalls [] rfl
  exact ⟨hkeyed, huses, hafter, hrecomputes, hsame, hshown [] _ _ rfl hrecomputes,
    by decide +kernel⟩

end PredictionLeague
