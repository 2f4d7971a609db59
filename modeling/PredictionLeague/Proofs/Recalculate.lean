import PredictionLeague.Proofs.Prize.Season
import PredictionLeague.Proofs.Walk

/-!
# Settling a season anew

The completed rounds of a season are settled in the order in which they were played, but the prizes
of the season are paid when the round with the last number is settled. Rounds that were played after
that one are made anew too late for them: the prizes go by what the results of these rounds were.

* `Store.settledAfter`, `Store.seasonResults`: the results that the prizes of a season go by;
* `Keyed.month_settled`: a month is paid for when all its completed rounds are settled;
* `recalculateSeason_pays`: who is paid when a season is settled, and when this is who should be.
-/

namespace PredictionLeague

namespace Store

/-- The completed rounds that are settled after a round when its season is settled. -/
def settledAfter (s : Store) (round : Round) : List Round :=
  ((s.completedRounds round.seasonId).dropWhile (·.id != round.id)).tail

/-- The results that the prizes of a season go by when it is settled from the store `s` to the store
`s'`: those that it ends with, but for rounds that are settled after the last one those that it
began with. -/
def seasonResults (s s' : Store) (last : Round) : List LeagueResult :=
  s'.leagueResults.filter (fun r => Walk.others (s.settledAfter last) r.roundId) ++
    s.leagueResults.filter fun r => !Walk.others (s.settledAfter last) r.roundId

variable {s : Store} {seasonId : Int}

/-! ### The order of the walk -/

theorem mem_scheduleOf {round : Round} :
    round ∈ s.scheduleOf seasonId ↔ round ∈ s.rounds ∧ round.seasonId = seasonId := by
  simp [scheduleOf, roundsOf]

theorem mem_completedRounds {round : Round} :
    round ∈ s.completedRounds seasonId ↔
      (round ∈ s.rounds ∧ round.seasonId = seasonId) ∧ round.status = .completed := by
  simp [completedRounds, mem_scheduleOf]

theorem Keyed.round?_of_mem_completedRounds (hs : s.Keyed) {round : Round}
    (h : round ∈ s.completedRounds seasonId) :
    s.round? round.id = some round ∧ round.status = .completed := by
  obtain ⟨⟨hstored, -⟩, hstatus⟩ := mem_completedRounds.1 h
  exact ⟨(Table.get?_eq_some hs.rounds).2 ⟨hstored, rfl⟩, hstatus⟩

theorem Keyed.nodup_scheduleOf (hs : s.Keyed) (seasonId : Int) :
    ((s.scheduleOf seasonId).map (·.id)).Nodup :=
  ((sorted_perm _).map _).nodup_iff.2 (hs.rounds.filter _).nodup_ids

theorem Keyed.nodup_completedRounds (hs : s.Keyed) (seasonId : Int) :
    ((s.completedRounds seasonId).map (·.id)).Nodup :=
  (hs.nodup_scheduleOf seasonId).sublist (List.filter_sublist.map _)

theorem settledAfter_eq {last : Round} {before after : List Round}
    (h : s.completedRounds last.seasonId = before ++ last :: after)
    (hnodup : ((before ++ last :: after).map (·.id)).Nodup) : s.settledAfter last = after := by
  have hbefore : ∀ round ∈ before, (round.id != last.id) = true := by
    intro round hround
    rw [List.map_append, List.map_cons, List.nodup_append] at hnodup
    exact bne_iff_ne.2 (hnodup.2.2 round.id (List.mem_map_of_mem hround) last.id
      List.mem_cons_self)
  rw [settledAfter, h, List.dropWhile_append_of_pos hbefore, List.dropWhile_cons_of_neg (by simp),
    List.tail_cons]

theorem not_mem_of_getLast? {α : Type} {a b : α} {xs : List α} (hnodup : xs.Nodup)
    (hlast : xs.getLast? = some a) : ¬[a, b].Sublist xs := by
  obtain ⟨ys, rfl⟩ := List.getLast?_eq_some_iff.1 hlast
  intro hsub
  obtain ⟨l₁, l₂, heq, hl₁, hl₂⟩ := List.sublist_append_iff.1 hsub
  have hnot : a ∉ ys := fun ha =>
    (List.nodup_append.1 hnodup).2.2 a ha a List.mem_cons_self rfl
  cases l₁ with
  | nil =>
    have hlength := hl₂.length_le
    rw [← show [a, b] = l₂ from heq] at hlength
    exact absurd hlength (by simp)
  | cons c l₁ =>
    obtain rfl : a = c := (List.cons.inj heq).1
    exact hnot (hl₁.subset List.mem_cons_self)

/-- A month is paid for after the last of its rounds, so no round of it is settled later. -/
theorem Keyed.month_settled (hs : s.Keyed) {round : Round} {before after : List Round}
    (h : s.completedRounds round.seasonId = before ++ round :: after)
    (hlast : ((s.monthOf round).map (·.id)).getLast? = some round.id) :
    ∀ id ∈ (s.monthOf round).map (·.id), Walk.others after id = true := by
  have hnodup := hs.nodup_scheduleOf round.seasonId
  intro id hid
  refine Walk.others_of_not_mem fun hafter => ?_
  obtain ⟨member, hmember, rfl⟩ := List.mem_map.1 hid
  obtain ⟨later, hlater, hsame⟩ := List.mem_map.1 hafter
  -- A later round of the month would stand after the last one of the month.
  have hsub : (round :: after).Sublist (s.scheduleOf round.seasonId) :=
    (h ▸ List.sublist_append_right before (round :: after)).trans List.filter_sublist
  obtain ⟨hschedule, hmonth⟩ := List.mem_filter.1 hmember
  obtain rfl : later = member := List.inj_on_of_nodup_map hnodup
    (hsub.subset (List.mem_cons_of_mem _ hlater)) hschedule hsame
  have hboth : [round, later].filter (·.start.calendarMonth == round.start.calendarMonth) =
      [round, later] := List.filter_eq_self.2 (by simpa using hmonth)
  have hpair : ([round, later].filter
      (·.start.calendarMonth == round.start.calendarMonth)).Sublist (s.monthOf round) :=
    (((List.singleton_sublist.2 hlater).cons_cons round).trans hsub).filter _
  rw [hboth] at hpair
  exact not_mem_of_getLast? (b := later.id) (hnodup.sublist (List.filter_sublist.map _)) hlast
    (hpair.map (fun r : Round => r.id))

/-- Of the rounds of a season only the one with the last number settles the season prizes. -/
theorem Keyed.eq_last (hs : s.Keyed) {round last : Round} {season : Season}
    (hseason : s.season? last.seasonId = some season) (hnumber : last.number = season.roundCount)
    (hlast : last ∈ s.rounds) (hround : round ∈ s.rounds) (hsame : round.seasonId = last.seasonId)
    (h : (s.season? round.seasonId).any (Prize.isLastRound · round) = true) : round = last := by
  rw [hsame, hseason, Option.any_some, Prize.isLastRound, beq_iff_eq] at h
  exact List.inj_on_of_nodup_map hs.roundNumbers hround hlast
    (by rw [hsame, h, hnumber])

/-- No round that is settled after the last one ends the season. -/
theorem Keyed.not_last_of_after (hs : s.Keyed) {last : Round} {season : Season}
    (hseason : s.season? last.seasonId = some season) (hnumber : last.number = season.roundCount)
    {before after : List Round}
    (hrounds : s.completedRounds last.seasonId = before ++ last :: after) :
    ∀ round ∈ after, (s.season? round.seasonId).any (Prize.isLastRound · round) = false := by
  have hmem {round : Round} (hround : round ∈ last :: after) :
      round ∈ s.rounds ∧ round.seasonId = last.seasonId := by
    refine (mem_completedRounds.1 ?_).1
    rw [hrounds]
    exact List.mem_append_right _ hround
  intro round hround
  by_contra hends
  obtain ⟨hstored, hsame⟩ := hmem (List.mem_cons_of_mem _ hround)
  obtain rfl : round = last := hs.eq_last hseason hnumber (hmem List.mem_cons_self).1 hstored hsame
    (by simpa using hends)
  -- The last round would be settled twice.
  have hnodup := hs.nodup_completedRounds round.seasonId
  rw [hrounds, List.map_append, List.map_cons] at hnodup
  exact (List.nodup_cons.1 (List.nodup_append.1 hnodup).2.1).1 (List.mem_map_of_mem hround)

end Store

namespace Walk

variable {s t : Store} {last : Round} {awards : List Prize.Award}

/-- Rounds that do not end the season leave the season prizes alone. -/
theorem not_mem_settingIds {rounds : List Round} (h : Walk s rounds awards t) (hs : s.Keyed)
    (hnot : ∀ round ∈ rounds,
      (s.season? round.seasonId).any (Prize.isLastRound · round) = false)
    {setting : PrizeSetting} (hsetting : setting ∈ s.prizeSettings)
    (hkind : setting.kind = .overall ∨ setting.kind = .mostExactScores) :
    ∀ award ∈ awards, setting.id ∉ award.settingIds := by
  induction h with
  | done s => exact fun award haward => absurd haward (by simp)
  | @settle s t round rounds as bs _ hawards _ ih =>
    obtain ⟨hfirst, hrest⟩ := List.forall_mem_cons.1 hnot
    have hs' := hs.recomputed round
    obtain ⟨counts, points, hframe⟩ := s.recomputed_frame round
    rw [hframe] at hs' hawards ih
    refine List.forall_mem_append.2 ⟨fun award haward hid => ?_, ih hs' hrest hsetting⟩
    have hdue := (hs'.award_of_setting hawards hsetting haward hid).1
    rcases hkind with hkind | hkind
    all_goals
      rw [hkind] at hdue
      exact absurd (hdue.symm.trans hfirst) (by simp)

/-- The last round of a walk finds its awards on the store that the walk leaves. -/
theorem awards_of_last {before : List Round} (h : Walk s (before ++ [last]) awards t) :
    ∃ as bs, awards = as ++ bs ∧ t.roundAwards last = .ok bs := by
  obtain ⟨m, as, bs, -, hlast, rfl⟩ := h.split
  cases hlast with
  | settle _ hawards hdone =>
    cases hdone
    exact ⟨as, _, by rw [List.append_nil], hawards⟩

/-- The results of the moment when the last round was settled. -/
theorem perm_seasonResults {before after : List Round} {as bs : List Prize.Award} {m : Store}
    (hs : s.Keyed) (hrounds : s.completedRounds last.seasonId = before ++ last :: after)
    (hbefore : Walk s (before ++ [last]) as m) (hafter : Walk m after bs t) :
    m.leagueResults.Perm (s.seasonResults t last) := by
  have hnodup := hs.nodup_completedRounds last.seasonId
  rw [hrounds] at hnodup
  have hlate := (hafter.agreeOn (hbefore.keyed hs) fun _ => others_of_mem).points
  have hearly : Store.AgreeOn (fun id => !others after id) s m := by
    refine hbefore.agreeOn hs fun round hround => ?_
    rw [List.append_cons, List.map_append, List.nodup_append] at hnodup
    rw [Bool.not_eq_false']
    exact others_of_not_mem fun hmem =>
      hnodup.2.2 round.id (List.mem_map_of_mem hround) round.id hmem rfl
  rw [Store.seasonResults, Store.settledAfter_eq hrounds hnodup, hlate, ← hearly.points]
  exact (List.filter_append_perm _ _).symm

variable (h : Walk s (s.completedRounds last.seasonId) awards t) (hs : s.Keyed) {season : Season}
  (hseason : s.season? last.seasonId = some season) (hnumber : last.number = season.roundCount)
  (hlast : last ∈ s.completedRounds last.seasonId)

include h hs hseason hnumber hlast

/-- The season prizes are paid to those who should be by the results of the moment when the last
round was settled. -/
theorem paysSeason (now : DateTime) :
    (t.withAwards now awards).PaysSeason last.seasonId (s.seasonResults t last) := by
  obtain ⟨before, after, hrounds⟩ := List.append_of_mem hlast
  have hafterFree := hs.not_last_of_after hseason hnumber hrounds
  have hframe := h.frame
  -- The walk is cut at the last round: the awards before it do not matter, those after it are
  -- about other prizes.
  rw [hrounds, List.append_cons] at h
  obtain ⟨m, _, bs, hwalk, hafter, rfl⟩ := h.split
  obtain ⟨as, ds, rfl, hawards⟩ := hwalk.awards_of_last
  have hperm := perm_seasonResults hs hrounds hwalk hafter
  have hm := hwalk.keyed hs
  obtain ⟨counts, points, rfl⟩ := hwalk.frame
  obtain ⟨counts', points', rfl⟩ := hframe
  intro setting hprize
  have hkind := hprize.kind.imp_right And.left
  have hends : (s.season? last.seasonId).any (Prize.isLastRound · last) = true := by
    rw [hseason]
    exact beq_iff_eq.2 hnumber
  have hpaid := hm.paid_seasonPrize hawards hends
    ⟨hprize.stored, hprize.league, hprize.kind⟩
    (hafter.not_mem_settingIds hm hafterFree hprize.stored hkind) hafter.known as now s.winnings
  rw [← List.append_assoc] at hpaid
  rw [Store.paidPlayers]
  refine hpaid.symm ▸ ⟨nodup_ascending.2 (Prize.nodup_winners ..), fun userId => ?_⟩
  rw [mem_ascending, hm.mem_winners rfl hkind, Store.deserves_of_perm hperm]
  exact Iff.rfl

/-- When the season prizes are paid to those who should be by the final results, the walk finds
everything in place that it needs to do the same again. -/
theorem again_of_paysSeason (now : DateTime)
    (hpays : (t.withAwards now awards).PaysSeason last.seasonId t.leagueResults) :
    Walk t (s.completedRounds last.seasonId) awards t := by
  have hnodup := hs.nodup_completedRounds last.seasonId
  have hpaid := h.paysSeason hs hseason hnumber hlast now
  have ht := h.keyed hs
  have htframe := h.frame
  refine h.again hs hnodup fun before round after as m bs hrounds hbefore hafter => ?_
  have hround : round ∈ s.completedRounds last.seasonId := by
    rw [hrounds]
    exact List.mem_append_right _ List.mem_cons_self
  obtain ⟨⟨hstored, hsame⟩, -⟩ := Store.mem_completedRounds.1 hround
  have hm := hbefore.keyed hs
  rw [hrounds, List.map_append, List.map_cons] at hnodup
  have hagree := hafter.agreeOn (p := others after) hm fun _ => others_of_mem
  have hmonth := hs.month_settled (hsame.symm ▸ hrounds)
  have hlater := others_of_not_mem (List.nodup_cons.1 (List.nodup_append.1 hnodup).2.1).1
  have hmframe := hbefore.frame
  refine hagree.roundAwards hlater ?_ fun hends league hleague kind hkind setting hsetting => ?_
  · obtain ⟨counts, points, rfl⟩ := hmframe
    exact hmonth
  -- At the last round both stores name the same winners, for both pay the same players.
  have hround' : round = last := by
    obtain ⟨counts, points, rfl⟩ := hmframe
    exact hs.eq_last hseason hnumber (Store.mem_completedRounds.1 hlast).1.1 hstored hsame hends
  subst hround'
  have hkind : kind = .overall ∨ kind = .mostExactScores := by simpa using hkind
  obtain ⟨-, hleagueId, rfl, -⟩ := hm.mem_payable.1 hsetting
  rw [← hleagueId] at hsetting ⊢
  have hprize : m.SeasonPrize round.seasonId setting :=
    hm.seasonPrize_iff.2 ⟨⟨league, hleague, hleagueId.symm⟩, hkind, hsetting⟩
  have hperm := perm_seasonResults hs hrounds hbefore hafter
  refine hm.winners_perm ht hkind fun userId => ?_
  rw [Store.deserves_of_perm hperm]
  obtain ⟨counts, points, rfl⟩ := hmframe
  obtain ⟨counts', points', rfl⟩ := htframe
  exact ((hpays setting ⟨hprize.stored, hprize.league, hprize.kind⟩).2 userId).symm.trans
    ((hpaid setting ⟨hprize.stored, hprize.league, hprize.kind⟩).2 userId)

end Walk

/-! ### Settling a season anew -/

section Returns

open Engine

variable {s s' : Store}

/-- A season is settled when the walk over its completed rounds can be made, and then the awards of
the walk are recorded. -/
theorem returns_recalculateSeason_walk (hs : s.Keyed) {seasonId : Int} {now : DateTime} {n : Nat} :
    (recalculateSeason seasonId now).Returns s n s' ↔
      ∃ season, (fits seasonId ∧ s.season? seasonId = some season) ∧
        ((∀ round ∈ s.completedRounds seasonId,
            fits round.id ∧ ∀ league ∈ s.leaguesOf round.seasonId, fits league.id) ∧
          ∃ awards t, Walk s (s.completedRounds seasonId) awards t ∧
            s' = t.withAwards now awards) ∧
        n = (s.completedRounds seasonId).length := by
  rw [returns_recalculateSeason,
    returns_walk fun round hround => hs.round?_of_mem_completedRounds hround]

/-- When a season is settled anew, its prizes are paid to those who should be by the results of the
moment when the last round was settled. They are those who should be by the final results just when
the two agree on who that is, and so whenever no round is settled after the last one; and settling
the season once more then changes no winning. -/
theorem recalculateSeason_pays {seasonId : Int} {now : DateTime} {n : Nat} {season : Season}
    {last : Round} (hs : s.Keyed) (h : (recalculateSeason seasonId now).Returns s n s')
    (hseason : s.season? seasonId = some season) (hlast : last ∈ s.completedRounds seasonId)
    (hnumber : last.number = season.roundCount) :
    s'.PaysSeason seasonId (s.seasonResults s' last) ∧
      (s'.PaysSeason seasonId s'.leagueResults ↔
        ∀ setting, s'.SeasonPrize seasonId setting → ∀ userId,
          s'.Deserves (s.seasonResults s' last) setting userId ↔
            s'.Deserves s'.leagueResults setting userId) ∧
      (s.settledAfter last = [] → s'.PaysSeason seasonId s'.leagueResults) ∧
      (s'.PaysSeason seasonId s'.leagueResults → ∃ s'',
        (recalculateSeason seasonId now).Returns s' n s'' ∧
          s''.winnings.map Winning.bare = s'.winnings.map Winning.bare) := by
  obtain ⟨_, ⟨hfits, -⟩, ⟨hchecks, awards, t, hwalk, rfl⟩, hn⟩ :=
    (returns_recalculateSeason_walk hs).1 h
  obtain ⟨⟨-, rfl⟩, -⟩ := Store.mem_completedRounds.1 hlast
  have hpays := hwalk.paysSeason hs hseason hnumber hlast now
  refine ⟨hpays, ⟨fun hfinal setting hprize userId => ?_, fun hsame setting hprize => ?_⟩,
    fun hnone => ?_, fun hfinal => ?_⟩
  · exact ((hpays setting hprize).2 userId).symm.trans ((hfinal setting hprize).2 userId)
  · obtain ⟨hnodup, hmem⟩ := hpays setting hprize
    exact ⟨hnodup, fun userId => (hmem userId).trans (hsame setting hprize userId)⟩
  · have hall : s.seasonResults (t.withAwards now awards) last =
        (t.withAwards now awards).leagueResults := by
      simp [Store.seasonResults, hnone, Walk.others]
    rwa [← hall]
  · have hagain := (hwalk.again_of_paysSeason hs hseason hnumber hlast now hfinal).withWinnings
      (t.withAwards now awards).winnings
    have hs' : (t.withAwards now awards).Keyed := { hwalk.keyed hs with }
    have hknown := hwalk.known
    obtain ⟨counts, points, rfl⟩ := hwalk.frame
    exact ⟨_, (returns_recalculateSeason_walk hs').2
      ⟨season, ⟨hfits, hseason⟩, ⟨hchecks, awards, _, hagain, rfl⟩, hn⟩,
      Prize.recordAwards_twice hknown now rfl⟩

/-- The prize for the highest rank of a season. -/
def titlePrize : PrizeSetting := ⟨1, 1, .overall, 1, 1000, none⟩

/-- A round of January with a number. -/
def januaryRound (number : Int) : Round :=
  ⟨1, 1, number, .newYear2025, .newYear2025, .completed, some .newYear2025⟩

/-- A season of two rounds, with the numbers under which they are played in January and in June.
Player 11 has a correct result in January and player 10 an exact score in June; no points are made
yet. -/
def twoRounds (january june : Int) : Store :=
  { Store.empty with
    seasons := [⟨1, "2025", .newYear2025, .june2025, 2⟩]
    rounds :=
      [januaryRound january, ⟨2, 1, june, .june2025, .june2025, .completed, some .june2025⟩]
    fixtures := [⟨1, 1, some 2, some 1, .completed⟩, ⟨2, 2, some 1, some 0, .completed⟩]
    predictions := [⟨1, 11, 1, 1, 0, .correctResult, .newYear2025⟩,
      ⟨2, 10, 2, 1, 0, .exactScore, .newYear2025⟩]
    leagues := [⟨1, 1, .newYear2025, 5, 3, 0⟩]
    members := [⟨1, 1, 10, .approved⟩, ⟨2, 1, 11, .approved⟩]
    prizeSettings := [titlePrize] }

/-- The season when its points are made, and a player was paid for the highest rank. -/
def twoRoundsPaid (january june winner winningId : Int) : Store :=
  { twoRounds january june with
    roundResults := [⟨1, 1, 11, 0, 1, 0⟩, ⟨2, 2, 10, 1, 0, 0⟩]
    leagueResults := [⟨1, 1, 1, 11, 3, 3, false, none, 0⟩, ⟨2, 1, 2, 10, 5, 5, false, none, 1⟩]
    winnings := [⟨winningId, winner, 1, 1000, none, none, .june2025⟩] }

theorem rounds_in_order_pay :
    (twoRounds 1 2).Keyed ∧
      (recalculateSeason 1 .june2025).Returns (twoRounds 1 2) 2 (twoRoundsPaid 1 2 10 1) ∧
      (twoRoundsPaid 1 2 10 1).PaysSeason 1 (twoRoundsPaid 1 2 10 1).leagueResults := by
  have hkeyed : (twoRounds 1 2).Keyed := by decide
  have hreturns : (recalculateSeason 1 .june2025).Returns (twoRounds 1 2) 2
      (twoRoundsPaid 1 2 10 1) := by decide +kernel
  have hlast : (⟨2, 1, 2, .june2025, .june2025, .completed, some .june2025⟩ : Round) ∈
      (twoRounds 1 2).completedRounds 1 := by decide
  exact ⟨hkeyed, hreturns, (recalculateSeason_pays hkeyed hreturns rfl hlast rfl).2.2.1 rfl⟩

/-- The prize of the season is paid before the round of June is settled, to player 11 although
player 10 is ahead in the end, and settling the season once more pays player 10. -/
theorem last_number_in_january_misses :
    (twoRounds 2 1).Keyed ∧
      (recalculateSeason 1 .june2025).Returns (twoRounds 2 1) 2 (twoRoundsPaid 2 1 11 1) ∧
      januaryRound 2 ∈ (twoRounds 2 1).completedRounds 1 ∧
      ¬(twoRoundsPaid 2 1 11 1).PaysSeason 1 (twoRoundsPaid 2 1 11 1).leagueResults ∧
      (recalculateSeason 1 .june2025).Returns (twoRoundsPaid 2 1 11 1) 2
        (twoRoundsPaid 2 1 10 1) ∧
      (twoRoundsPaid 2 1 10 1).winnings.map Winning.bare ≠
        (twoRoundsPaid 2 1 11 1).winnings.map Winning.bare := by
  refine ⟨by decide, by decide +kernel, by decide, fun hpays => ?_, by decide +kernel, by decide⟩
  have hprize : (twoRoundsPaid 2 1 11 1).SeasonPrize 1 titlePrize :=
    ⟨List.mem_cons_self, ⟨_, List.mem_cons_self, rfl⟩, .inl rfl⟩
  have hpaid := ((hpays titlePrize hprize).2 10).2 ⟨rfl, rfl⟩
  exact absurd hpaid (by decide)

end Returns

end PredictionLeague
