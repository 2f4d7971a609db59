import PredictionLeague.Proofs.Figures
import PredictionLeague.Proofs.Recompute
import PredictionLeague.Proofs.Settlement

/-!
# States of rounds, stats and winnings

Starting and completing a round, ranking its members and paying its prizes leave the points alone,
and what the points are about.

* `RoundSlot`: what of a round does not change while it is played;
* `Store.Progressed`: two stores that differ in states of rounds, stats and winnings alone;
* `Progressed.liveFigures`, `Progressed.pointsSettled`: what is the same in both;
* `progressed_startRound`, `progressed_stableStats`, `progressed_liveStats`,
  `progressed_completeRound`.
-/

namespace PredictionLeague

/-- A round without its state: its place in the season and the time of its start. -/
structure RoundSlot where
  id : Int
  seasonId : Int
  number : Int
  start : DateTime
  deriving DecidableEq

/-- The place of a round. -/
def Round.slot (r : Round) : RoundSlot := ⟨r.id, r.seasonId, r.number, r.start⟩

namespace Store

/-- Two stores that differ in the states of rounds, in stats and in winnings alone. -/
structure Progressed (s s' : Store) : Prop where
  rest : ∃ rounds stats winnings, s' = { s with rounds, stats, winnings }
  slots : s'.rounds.map Round.slot = s.rounds.map Round.slot

variable {s s' s'' : Store}

theorem Progressed.refl (s : Store) : s.Progressed s := ⟨⟨_, _, _, rfl⟩, rfl⟩

theorem Progressed.trans (h : s.Progressed s') (h' : s'.Progressed s'') : s.Progressed s'' where
  rest := by
    obtain ⟨rounds, stats, winnings, rfl⟩ := h.rest
    obtain ⟨rounds', stats', winnings', rfl⟩ := h'.rest
    exact ⟨rounds', stats', winnings', rfl⟩
  slots := h'.slots.trans h.slots

theorem Progressed.of_stats (stats : List MemberStats) : s.Progressed { s with stats } :=
  ⟨⟨_, _, _, rfl⟩, rfl⟩

/-! ### Places of rounds -/

/-- Rounds in the same places keep their ids and numbers different. -/
theorem Keyed.of_slots (hs : s.Keyed) {rounds : List Round}
    (h : rounds.map Round.slot = s.rounds.map Round.slot) : { s with rounds }.Keyed := by
  have hkeys {β : Type} (f : RoundSlot → β) :
      rounds.map (fun r => f r.slot) = s.rounds.map fun r => f r.slot := by
    have hmap := congrArg (List.map f) h
    rwa [List.map_map, List.map_map] at hmap
  have hids : rounds.map Row.id = s.rounds.map Row.id := hkeys RoundSlot.id
  have hnumbers := hkeys fun slot => (slot.seasonId, slot.number)
  refine { hs with rounds := ?_, roundNumbers := ?_ }
  · have hordered := List.pairwise_map.2 hs.rounds
    rw [← hids] at hordered
    exact List.pairwise_map.1 hordered
  · exact hnumbers ▸ hs.roundNumbers

/-- A round is found in its place. -/
theorem exists_round_of_slots (h : s'.rounds.map Round.slot = s.rounds.map Round.slot) {id : Int}
    {round : Round} (hround : s.round? id = some round) :
    ∃ round', s'.round? id = some round' ∧ round'.slot = round.slot := by
  have hfind (rounds : List Round) : (Table.get? rounds id).map Round.slot =
      (rounds.map Round.slot).find? (·.id == id) := by
    rw [List.find?_map]
    rfl
  have hslots := hfind s'.rounds
  rw [h, ← hfind, show Table.get? s.rounds id = some round from hround] at hslots
  exact Option.map_eq_some_iff.1 hslots

theorem slots_roundsOf (s : Store) (seasonId : Int) : (s.roundsOf seasonId).map Round.slot =
    (s.rounds.map Round.slot).filter (·.seasonId == seasonId) := by
  rw [roundsOf, List.filter_map]
  rfl

theorem slots_monthOf (s : Store) (round : Round) : (s.monthOf round).map Round.slot =
    (sorted (fun a b : RoundSlot => a.start.stamp ≤ b.start.stamp)
      ((s.roundsOf round.seasonId).map Round.slot)).filter
        (·.start.calendarMonth == round.start.calendarMonth) := by
  rw [← map_sorted, List.filter_map]
  rfl

theorem ids_of_slots {rounds rounds' : List Round}
    (h : rounds'.map Round.slot = rounds.map Round.slot) :
    rounds'.map (·.id) = rounds.map (·.id) := by
  have hids := congrArg (List.map RoundSlot.id) h
  rwa [List.map_map, List.map_map] at hids

theorem ids_roundsOf_of_slots (h : s'.rounds.map Round.slot = s.rounds.map Round.slot)
    (seasonId : Int) : (s'.roundsOf seasonId).map (·.id) = (s.roundsOf seasonId).map (·.id) := by
  apply ids_of_slots
  rw [slots_roundsOf, h, slots_roundsOf]

/-! ### Points and figures -/

/-- Points are about the place of a round. -/
theorem PointsSettled.of_slot {round round' : Round} (h : s.PointsSettled round)
    (hslot : round'.slot = round.slot) : s.PointsSettled round' := by
  have hid : round'.id = round.id := congrArg RoundSlot.id hslot
  have hseason : round'.seasonId = round.seasonId := congrArg RoundSlot.seasonId hslot
  constructor
  · rw [hid]
    exact h.counts
  · rw [hid, hseason]
    exact h.points
  · rw [hid]
    exact h.boosts

theorem Progressed.pointsSettled (h : s.Progressed s') {round : Round}
    (hsettled : s.PointsSettled round) : s'.PointsSettled round := by
  obtain ⟨rounds, stats, winnings, rfl⟩ := h.rest
  exact ⟨hsettled.counts, hsettled.points, fun r hr hround =>
    ⟨(hsettled.boosts r hr hround).used, (hsettled.boosts r hr hround).unused⟩⟩

theorem liveFigures_of_slot {round round' : Round} (hslot : round'.slot = round.slot)
    (leagueId userId : Int) :
    s.liveFigures round' leagueId userId = s.liveFigures round leagueId userId := by
  have hid : round'.id = round.id := congrArg RoundSlot.id hslot
  have hseason : round'.seasonId = round.seasonId := congrArg RoundSlot.seasonId hslot
  have hstart : round'.start = round.start := congrArg RoundSlot.start hslot
  have hmonth : s.monthOf round' = s.monthOf round := by
    rw [monthOf, monthOf, hseason, hstart]
  rw [liveFigures, hid, hseason, hmonth]
  rfl

/-- Live figures depend on points and on the places of rounds. -/
theorem liveFigures_congr (hslots : s'.rounds.map Round.slot = s.rounds.map Round.slot)
    {leagueId : Int} (hscores : ∀ ids, s'.scoresOver leagueId ids = s.scoresOver leagueId ids)
    (round : Round) (userId : Int) :
    s'.liveFigures round leagueId userId = s.liveFigures round leagueId userId := by
  have hrounds : (s'.roundsOf round.seasonId).map Round.slot =
      (s.roundsOf round.seasonId).map Round.slot := by
    rw [slots_roundsOf, slots_roundsOf, hslots]
  have hmonth : (s'.monthOf round).map Round.slot = (s.monthOf round).map Round.slot := by
    rw [slots_monthOf, slots_monthOf, hrounds]
  rw [liveFigures, hscores, hscores, hscores, ids_of_slots hrounds, ids_of_slots hmonth]
  rfl

theorem Progressed.liveFigures (h : s.Progressed s') (round : Round) (leagueId userId : Int) :
    s'.liveFigures round leagueId userId = s.liveFigures round leagueId userId := by
  refine liveFigures_congr h.slots (fun ids => ?_) round userId
  obtain ⟨rounds, stats, winnings, rfl⟩ := h.rest
  rfl

/-- A round in another state stands in its place. -/
theorem Keyed.slots_withRoundStatus (hs : s.Keyed) {round : Round} (hround : round ∈ s.rounds)
    (status : RoundStatus) (now : DateTime) :
    (s.withRoundStatus round status now).rounds.map Round.slot = s.rounds.map Round.slot := by
  show (Table.replace s.rounds _).map Round.slot = _
  rw [Table.replace, List.map_map]
  refine List.map_congr_left fun r hr => ?_
  rw [Function.comp_apply]
  split
  · rename_i hid
    obtain rfl : r = round := hs.rounds.eq_of_id_eq hr hround (beq_iff_eq.1 hid)
    rfl
  · rfl

theorem Keyed.withRoundStatus (hs : s.Keyed) {round : Round} (hround : round ∈ s.rounds)
    (status : RoundStatus) (now : DateTime) :
    (s.withRoundStatus round status now).Keyed ∧
      s.Progressed (s.withRoundStatus round status now) :=
  ⟨hs.of_slots (hs.slots_withRoundStatus hround status now),
    ⟨_, _, _, rfl⟩, hs.slots_withRoundStatus hround status now⟩

end Store

/-! ### The actions -/

section Returns

open Engine Store

variable {s s' : Store} {round : Round} {roundId : Int} {now : DateTime} {n : Nat}

instance (round : Round) (now : DateTime) : Quiet (startRound round now) := by
  unfold startRound
  infer_instance

instance (roundId : Int) (now : DateTime) : Quiet (completeRound roundId now) := by
  unfold completeRound
  infer_instance

theorem progressed_startRound (hs : s.Keyed) (hround : round ∈ s.rounds)
    (h : (startRound round now).Returns s () s') : s'.Keyed ∧ s.Progressed s' := by
  unfold startRound at h
  rw [returns_current_bind, returns_put_bind, returns_bind] at h
  obtain ⟨_, t, hsnapshot, hsay⟩ := h
  obtain ⟨-, rfl⟩ := returns_pure.1 (returns_say_bind (f := fun _ => pure ()).1 hsay)
  obtain ⟨round', -, -, rfl⟩ := returns_takeSnapshots.1 hsnapshot
  obtain ⟨hstarted, hprogress⟩ := hs.withRoundStatus hround .inProgress now
  obtain ⟨stats, hstats⟩ := leagueUpdate_snapshot.exists_foldl
    (s.withRoundStatus round .inProgress now)
    ((s.withRoundStatus round .inProgress now).leaguesOf round'.seasonId)
  exact ⟨leagueUpdate_snapshot.keyed_foldl hstarted _, hprogress.trans (hstats ▸ .of_stats stats)⟩

theorem progressed_stableStats (hs : s.Keyed) (h : (updateStableStats roundId).Returns s n s') :
    s'.Keyed ∧ s.Progressed s' := by
  obtain ⟨round, -, -, -, rfl⟩ := returns_updateStableStats.1 h
  obtain ⟨stats, hstats⟩ :=
    (leagueUpdate_stable roundId).exists_foldl s (s.leaguesOf round.seasonId)
  exact ⟨(leagueUpdate_stable roundId).keyed_foldl hs _, hstats ▸ .of_stats stats⟩

/-- The live figures are brought up to date and nothing else. -/
theorem progressed_liveStats (hs : s.Keyed) (hround : s.round? roundId = some round)
    (h : (updateLiveStats roundId).Returns s n s') :
    s'.Keyed ∧ s.Progressed s' ∧ ∀ league ∈ s.leaguesOf round.seasonId, ∀ userId,
      s.isMember league.id userId = true →
        s'.figuresOf league.id userId = [s'.liveFigures round league.id userId] := by
  obtain ⟨round', ⟨-, hround'⟩, -, rfl⟩ := returns_updateLiveStats.1 h
  obtain rfl : round = round' := Option.some.inj (hround.symm.trans hround')
  obtain ⟨stats, hstats⟩ := (leagueUpdate_live round).exists_foldl s (s.leaguesOf round.seasonId)
  refine ⟨(leagueUpdate_live round).keyed_foldl hs _, hstats ▸ .of_stats stats, ?_⟩
  intro league hleague userId hmember
  have hnodup : ((s.leaguesOf round.seasonId).map (·.id)).Nodup :=
    (hs.leagues.filter fun league => league.seasonId == round.seasonId).nodup_ids
  rw [hs.figuresOf_live round hnodup hleague hmember]
  rw [hstats]
  rfl

/-- Paying the prizes of a round changes winnings alone. -/
theorem frame_settlePrizes (h : (settlePrizes round now).Returns s n s') :
    ∃ winnings, s' = { s with winnings } := by
  unfold settlePrizes at h
  rw [returns_current_bind, returns_bind] at h
  obtain ⟨_, t, hpay, hdone⟩ := h
  obtain ⟨-, rfl⟩ := returns_pure.1 hdone
  clear hdone
  generalize s.leaguesOf round.seasonId = leagues at hpay
  induction leagues generalizing s with
  | nil =>
    obtain ⟨-, rfl⟩ := returns_pure.1 hpay
    exact ⟨_, rfl⟩
  | cons league leagues ih =>
    obtain ⟨u, hfirst, hrest⟩ := returns_forM_cons.1 hpay
    obtain ⟨paid, v, hprizes, hdone⟩ := returns_bind.1 hfirst
    obtain ⟨-, rfl⟩ := returns_pure.1 hdone
    obtain ⟨_, -, _, -, awards, -, -, rfl⟩ := returns_processPrizes.1 hprizes
    obtain ⟨winnings, rfl⟩ := ih hrest
    exact ⟨winnings, rfl⟩

/-- Completing a round and paying its prizes changes states of rounds and winnings alone. -/
theorem progressed_completeRound (hs : s.Keyed) (h : (completeRound roundId now).Returns s () s') :
    s'.Keyed ∧ s.Progressed s' ∧ s'.stats = s.stats := by
  -- The prizes are paid whether or not the round was completed before.
  have hsettle {t : Store} {round : Round} (ht : t.Keyed)
      (h : (settlePrizes round now >>= fun _ => pure ()).Returns t () s') :
      s'.Keyed ∧ t.Progressed s' ∧ s'.stats = t.stats := by
    obtain ⟨n, u, hprizes, hdone⟩ := returns_bind.1 h
    obtain ⟨-, rfl⟩ := returns_pure.1 hdone
    obtain ⟨winnings, rfl⟩ := frame_settlePrizes hprizes
    exact ⟨{ ht with }, ⟨⟨_, _, _, rfl⟩, rfl⟩, rfl⟩
  unfold completeRound at h
  obtain ⟨round, ⟨-, hround⟩, h⟩ := returns_getRound_bind.1 h
  rw [returns_current_bind] at h
  have hmem := ((Table.get?_eq_some hs.rounds).1 hround).1
  split at h
  · split at h
    · rw [returns_put_bind, returns_say_bind] at h
      obtain ⟨hcompleted, hprogress⟩ := hs.withRoundStatus hmem .completed now
      obtain ⟨hkeyed, hpaid, hstats⟩ := hsettle hcompleted h
      exact ⟨hkeyed, hprogress.trans hpaid, hstats⟩
    · exact hsettle hs h
  · obtain ⟨-, rfl⟩ := returns_pure.1 h
    exact ⟨hs, .refl s', rfl⟩

end Returns

end PredictionLeague
