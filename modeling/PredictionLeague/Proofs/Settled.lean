import PredictionLeague.Proofs.Recompute
import PredictionLeague.Proofs.Settlement
import PredictionLeague.Proofs.Standings

/-!
# Rounds whose points are settled

Making the points of one round anew leaves the other rounds alone, so a round that was settled stays
settled, and settling it again changes nothing.

* `Store.AgreeOn`: two stores with the same points in some rounds, and the same in everything but
  points;
* `Keyed.agreeOn_recomputed`: making points anew leaves the other rounds alone;
* `Store.Settled`: the points of a round are the wanted ones and fit; `AgreeOn.settled`;
* `AgreeOn.roundAwards`: what the awards of a round depend on.
-/

namespace PredictionLeague

theorem filter_eq_of_filter_eq {α : Type} {xs ys : List α} {p q : α → Bool}
    (h : xs.filter q = ys.filter q) (hpq : ∀ x, p x = true → q x = true) :
    xs.filter p = ys.filter p := by
  have hboth (zs : List α) : zs.filter p = (zs.filter q).filter p := by
    rw [List.filter_filter]
    refine List.filter_congr fun x _ => ?_
    by_cases hp : p x = true
    · rw [hp, hpq x hp, Bool.true_and]
    · rw [Bool.eq_false_of_not_eq_true hp, Bool.false_and]
  rw [hboth xs, hboth ys, h]

namespace Store

/-! ### Agreement -/

/-- Two stores agree on some rounds: they differ in points alone, and not in those of these
rounds. -/
structure AgreeOn (rounds : Int → Bool) (s s' : Store) : Prop where
  rest : ∃ counts points, s' = { s with roundResults := counts, leagueResults := points }
  counts : s'.roundResults.filter (fun r => rounds r.roundId) =
    s.roundResults.filter fun r => rounds r.roundId
  points : s'.leagueResults.filter (fun r => rounds r.roundId) =
    s.leagueResults.filter fun r => rounds r.roundId

variable {s s' s'' : Store} {rounds : Int → Bool}

theorem AgreeOn.refl (rounds : Int → Bool) (s : Store) : AgreeOn rounds s s :=
  ⟨⟨_, _, rfl⟩, rfl, rfl⟩

theorem AgreeOn.trans (h : AgreeOn rounds s s') (h' : AgreeOn rounds s' s'') :
    AgreeOn rounds s s'' where
  rest := by
    obtain ⟨counts, points, rfl⟩ := h.rest
    obtain ⟨counts', points', rfl⟩ := h'.rest
    exact ⟨counts', points', rfl⟩
  counts := h'.counts.trans h.counts
  points := h'.points.trans h.points

/-- Making the points of a round anew leaves the other rounds alone. -/
theorem Keyed.agreeOn_recomputed (hs : s.Keyed) {round : Round} (h : rounds round.id = false) :
    AgreeOn rounds s (s.recomputed round) := by
  have hother (id : Int) (hid : rounds id = true) : (id != round.id) = true := by
    refine bne_iff_ne.2 fun heq => ?_
    rw [heq, h] at hid
    exact absurd hid (by simp)
  have hkept := hs.otherRowsKept round
  exact ⟨s.recomputed_frame round,
    filter_eq_of_filter_eq hkept.counts fun r hr => hother r.roundId hr,
    filter_eq_of_filter_eq hkept.points fun r hr => hother r.roundId hr⟩

/-! ### Settled rounds -/

/-- The points of a round are the wanted ones, and they fit. -/
structure Settled (s : Store) (round : Round) : Prop where
  points : s.PointsSettled round
  fit : s.pointsFit round = true

theorem Keyed.baseFits_counted (hs : s.Keyed) (roundId : Int) (league : League) :
    (s.counted roundId).baseFits roundId league =
      ((s.pointTargets roundId league).map fun t => (t.2 0).basePoints).all fits := by
  have hmembers : (s.counted roundId).members = s.members := rfl
  rw [← targets_points hmembers (hs.records_counted roundId) league, List.map_map]
  rfl

/-- The points of a round fit when those before boosts do, and those that are left. -/
theorem Keyed.pointsFit_iff (hs : s.Keyed) (round : Round) :
    s.pointsFit round = true ↔
      (∀ league ∈ s.leaguesOf round.seasonId,
        ((s.pointTargets round.id league).map fun t => (t.2 0).basePoints).all fits = true) ∧
      ∀ r ∈ (s.recomputed round).leagueResults, r.roundId = round.id →
        fits r.boostedPoints = true := by
  have hrows : (s.recomputed round).leagueResults =
      (s.pointed round).leagueResults.map ((s.pointed round).boostRow round.id) := rfl
  rw [pointsFit, Bool.and_eq_true, List.all_eq_true]
  simp only [hs.baseFits_counted, hrows, boostedResults, List.all_map, List.all_filter,
    List.all_eq_true, List.forall_mem_map, roundId_boostRow, Function.comp_apply,
    Bool.or_eq_true, Bool.not_eq_true', beq_eq_false_iff_ne]
  refine and_congr_right fun _ => forall₂_congr fun r _ => ?_
  rw [← imp_iff_not_or]
  refine forall_congr' fun hround => ?_
  rw [boostRow, if_pos (beq_iff_eq.2 hround)]

theorem Keyed.settled_recomputed (hs : s.Keyed) {round : Round} (hfit : s.pointsFit round = true) :
    (s.recomputed round).Settled round := by
  have hsettled := hs.pointsSettled_recomputed round
  refine ⟨hsettled, ((hs.recomputed round).pointsFit_iff round).2 ?_⟩
  rw [(hs.recomputed round).recomputed_of_settled hsettled]
  obtain ⟨hbase, hboosted⟩ := (hs.pointsFit_iff round).1 hfit
  obtain ⟨counts, points, hrest⟩ := s.recomputed_frame round
  refine ⟨fun league hleague => ?_, hboosted⟩
  rw [hrest] at hleague ⊢
  exact hbase league hleague

/-- A settled round stays settled where its points stay. -/
theorem AgreeOn.settled (h : AgreeOn rounds s s') (hs : s.Keyed) (hs' : s'.Keyed) {round : Round}
    (hround : rounds round.id = true) (hsettled : s.Settled round) : s'.Settled round := by
  have hcounts := filter_eq_of_filter_eq (p := (·.roundId == round.id)) h.counts fun r hr =>
    beq_iff_eq.1 hr ▸ hround
  have hpoints := filter_eq_of_filter_eq (p := (·.roundId == round.id)) h.points fun r hr =>
    beq_iff_eq.1 hr ▸ hround
  -- The results of the round are those that it had, and what is wanted reads no points.
  have hmem : ∀ r ∈ s'.leagueResults, r.roundId = round.id → r ∈ s.leagueResults := by
    intro r hr hid
    have hrow : r ∈ s'.leagueResults.filter (·.roundId == round.id) :=
      List.mem_filter.2 ⟨hr, beq_iff_eq.2 hid⟩
    exact List.mem_of_mem_filter (hpoints ▸ hrow)
  obtain ⟨counts, points, rfl⟩ := h.rest
  obtain ⟨hbase, hboosted⟩ := (hs.pointsFit_iff round).1 hsettled.fit
  rw [hs.recomputed_of_settled hsettled.points] at hboosted
  have hwanted : s.SameWanted { s with roundResults := counts, leagueResults := points } round :=
    sameWanted_of_verdicts rfl rfl rfl rfl rfl
  have hpointsSettled := hsettled.points.of_rows hwanted hcounts hpoints
  refine ⟨hpointsSettled, (hs'.pointsFit_iff round).2 ⟨hbase, fun r hr hid => ?_⟩⟩
  rw [hs'.recomputed_of_settled hpointsSettled] at hr
  exact hboosted r (hmem r hr hid) hid

/-! ### Awards -/

/-- The points of players in rounds on which two stores agree. -/
theorem AgreeOn.roundPoints (h : AgreeOn rounds s s') {ids : List Int}
    (hids : ∀ id ∈ ids, rounds id = true) (leagueId : Int) :
    (s'.standings leagueId).roundPoints ids = (s.standings leagueId).roundPoints ids := by
  have hrows : (s'.resultsOf leagueId).filter (fun r => ids.contains r.roundId) =
      (s.resultsOf leagueId).filter fun r => ids.contains r.roundId := by
    rw [resultsOf, resultsOf, List.filter_filter, List.filter_filter]
    refine filter_eq_of_filter_eq h.points fun r hr => hids r.roundId ?_
    exact List.contains_iff_mem.1 (Bool.and_eq_true_iff.1 hr).1
  obtain ⟨counts, points, rfl⟩ := h.rest
  refine Standings.roundPoints_congr _ ?_
  rw [List.filter_map, List.filter_map]
  exact congrArg (List.map _) hrows

/-- The awards of a round depend on the points of the round, on those of its month if it is the last
of it, and on who wins the season prizes if it is the last of the season. -/
theorem AgreeOn.roundAwards (h : AgreeOn rounds s s') {round : Round}
    (hround : rounds round.id = true)
    (hmonth : ((s.monthOf round).map (·.id)).getLast? = some round.id →
      ∀ id ∈ (s.monthOf round).map (·.id), rounds id = true)
    (hseason : (s.season? round.seasonId).any (Prize.isLastRound · round) = true →
      ∀ league ∈ s.leaguesOf round.seasonId, ∀ kind ∈ [PrizeKind.overall, .mostExactScores],
        ∀ setting ∈ Prize.payable ((Prize.settingsOf s league.id).filter (·.kind == kind)) kind,
          (Prize.winners s' (s'.standings league.id) round setting kind).Perm
            (Prize.winners s (s.standings league.id) round setting kind)) :
    s'.roundAwards round = s.roundAwards round := by
  have hsame (leagueId : Int) : (s'.standings leagueId).roundPoints [round.id] =
      (s.standings leagueId).roundPoints [round.id] :=
    h.roundPoints (by simpa using hround) leagueId
  have hmonthly := fun hlast leagueId => h.roundPoints (hmonth hlast) leagueId
  obtain ⟨counts, points, rfl⟩ := h.rest
  refine congrArg (· >>= fun lists => Except.ok lists.flatten) (mapM_congr fun league hleague => ?_)
  refine Prize.awards_congr rfl fun kind hdue setting hsetting => ?_
  cases kind with
  | round => exact .of_eq (congrArg Standings.topScorers (hsame league.id))
  | monthly =>
    exact .of_eq (congrArg Standings.topScorers (hmonthly (beq_iff_eq.1 hdue) league.id))
  | overall => exact hseason hdue league hleague .overall (by simp) setting hsetting
  | mostExactScores =>
    exact hseason hdue league hleague .mostExactScores (by simp) setting hsetting

end Store

end PredictionLeague
