import PredictionLeague.Proofs.Faults
import PredictionLeague.Proofs.Prize.Unit
import PredictionLeague.Proofs.Recalculate

/-!
# Where a settlement stops

A season is settled round by round and a round league by league, and what was settled before the
first that fails stays settled. The league that fails keeps its winnings and those after it keep
theirs. The rounds that would have followed keep the rows that name them: their counts and points,
and the winnings of round prizes. A monthly winning names the number of a month, and neither a round
nor a year: an earlier round that ends a month also replaces the winnings of the month with the same
number in which a later round is played.

* `Store.winningsOf`, `Store.roundWinnings`: the winnings of a league, and those of round prizes
  for one round number;
* `Prize.filter_recordAwards`: winnings that no award replaces stay;
* `Store.StopsAt`, `stopsAt_settleRound`: where the settlement of a round stops;
* `Store.StopsIn`, `stopsIn_recalculateSeason`: where the settlement of a season stops;
* `settlement_stops`: both, and the prizes of a league.
-/

namespace PredictionLeague

open Engine

/-! ### Winnings that stay -/

namespace Store

/-- A winning is paid by a prize of a kind. -/
def paidBy (s : Store) (p : PrizeSetting → Bool) (w : Winning) : Bool :=
  s.prizeSettings.any fun setting => setting.id == w.settingId && p setting

/-- The winnings of the prizes of a league. -/
def winningsOf (s : Store) (leagueId : Int) : List Winning :=
  s.winnings.filter (s.paidBy (·.leagueId == leagueId))

/-- A winning is paid by a round prize for a round number. -/
def paidForRound (s : Store) (number : Int) (w : Winning) : Bool :=
  w.roundNumber == some number && s.paidBy (·.kind == .round) w

/-- The winnings of round prizes for a round number. -/
def roundWinnings (s : Store) (number : Int) : List Winning :=
  s.winnings.filter (s.paidForRound number)

end Store

namespace Prize

/-- An award would replace the winnings that it pays. -/
theorem Award.replaces_paid {award : Award} (h : award.Known) {now : DateTime}
    {winnings : List Winning} {w : Winning} (hw : w ∈ award.paid now winnings) :
    award.replaces w = true := by
  obtain ⟨payment, hpayment, n, rfl⟩ := Table.mem_numbered hw
  rw [Award.replaces, covers_winning, Bool.and_true, List.contains_iff_mem]
  exact h payment hpayment

/-- Winnings that no award replaces stay as they are. -/
theorem filter_recordAwards {q : Winning → Bool} {as : List Award} (hknown : ∀ a ∈ as, a.Known)
    (hq : ∀ a ∈ as, ∀ w, a.replaces w = true → q w = false) (now : DateTime)
    (winnings : List Winning) : (recordAwards now winnings as).1.filter q = winnings.filter q := by
  induction as generalizing winnings with
  | nil => rfl
  | cons a as ih =>
    obtain ⟨hfirst, hknown⟩ := List.forall_mem_cons.1 hknown
    obtain ⟨hreplaced, hq⟩ := List.forall_mem_cons.1 hq
    have hkept : (a.kept winnings).filter q = winnings.filter q := by
      rw [Award.kept, List.filter_filter]
      apply List.filter_congr
      intro w _
      by_cases hw : a.replaces w = true
      · rw [hreplaced w hw, Bool.false_and]
      · rw [Bool.eq_false_of_not_eq_true hw, Bool.not_false, Bool.and_true]
    have hpaid : (a.paid now winnings).filter q = [] := by
      apply List.filter_eq_nil_iff.2
      intro w hw hqw
      rw [hreplaced w (a.replaces_paid hfirst hw)] at hqw
      exact absurd hqw Bool.false_ne_true
    refine (ih hknown hq (a.kept winnings ++ a.paid now winnings)).trans ?_
    rw [List.filter_append, hkept, hpaid, List.append_nil]

end Prize

namespace Store

variable {s t : Store} {round : Round} {league : League} {as : List Prize.Award}

/-- An award of a league replaces winnings of its own prizes, and of round prizes those of its own
round number. -/
theorem Keyed.setting_of_replaces (hs : s.Keyed) (h : s.leagueAwards round league = .ok as)
    {award : Prize.Award} (haward : award ∈ as) {w : Winning} (hw : award.replaces w = true)
    {p : PrizeSetting → Bool} (hpaid : s.paidBy p w = true) :
    ∃ setting, setting.leagueId = league.id ∧ p setting = true ∧
      (setting.kind = .round → w.roundNumber = some round.number) := by
  rw [Prize.awards_ok h] at haward
  obtain ⟨kind, -, rfl⟩ := List.mem_map.1 haward
  obtain ⟨hid, hcovers⟩ := Bool.and_eq_true_iff.1 hw
  obtain ⟨setting, hsetting, hsame⟩ := List.mem_map.1 (List.contains_iff_mem.1 hid)
  obtain ⟨hsetting, hkind⟩ := List.mem_filter.1 hsetting
  obtain ⟨hstored, hleague⟩ := Prize.mem_settingsOf.1 hsetting
  obtain ⟨other, hother, hp⟩ := List.any_eq_true.1 hpaid
  obtain ⟨hotherId, hp⟩ := Bool.and_eq_true_iff.1 hp
  obtain rfl : other = setting :=
    hs.prizeSettings.eq_of_id_eq hother hstored ((beq_iff_eq.1 hotherId).trans hsame.symm)
  refine ⟨other, hleague, hp, fun hround => ?_⟩
  obtain rfl : kind = .round := (beq_iff_eq.1 hkind).symm.trans hround
  exact beq_iff_eq.1 hcovers

/-- Awards of several leagues, one after the other. -/
theorem mem_leagueAwards {leagues : List League} {lists : List (List Prize.Award)}
    (h : leagues.mapM (s.leagueAwards round) = .ok lists) {award : Prize.Award}
    (haward : award ∈ lists.flatten) :
    ∃ league ∈ leagues, ∃ as, s.leagueAwards round league = .ok as ∧ award ∈ as := by
  obtain ⟨list, hlist, haward⟩ := List.mem_flatten.1 haward
  obtain ⟨league, hleague, hok⟩ := (mem_of_mapM_ok h).1 list hlist
  exact ⟨league, hleague, list, hok, haward⟩

section Leagues

variable {leagues : List League} {lists : List (List Prize.Award)}
  (h : leagues.mapM (s.leagueAwards round) = .ok lists)

include h

theorem known_leagueAwards : ∀ award ∈ lists.flatten, award.Known := by
  intro award haward
  obtain ⟨league, -, as, has, haward⟩ := mem_leagueAwards h haward
  rw [Prize.awards_ok has] at haward
  obtain ⟨kind, -, rfl⟩ := List.mem_map.1 haward
  exact Prize.known_awardOf s _ round kind _

/-- Paying leagues leaves the winnings of the others alone. -/
theorem Keyed.winningsOf_withAwards (hs : s.Keyed) (now : DateTime) {leagueId : Int}
    (hother : ∀ league ∈ leagues, league.id ≠ leagueId) :
    (s.withAwards now lists.flatten).winningsOf leagueId = s.winningsOf leagueId := by
  apply Prize.filter_recordAwards (q := s.paidBy (·.leagueId == leagueId)) (known_leagueAwards h)
  intro award haward w hw
  obtain ⟨league, hleague, as, has, haward⟩ := mem_leagueAwards h haward
  by_contra hpaid
  obtain ⟨setting, hown, hforeign, -⟩ :=
    hs.setting_of_replaces has haward hw (by simpa using hpaid)
  exact hother league hleague (hown.symm.trans (beq_iff_eq.1 hforeign))

/-- Awards after a round do not replace round prizes of other round numbers. -/
theorem Keyed.spares_leagueAwards (hs : s.Keyed) {number : Int} (hother : round.number ≠ number) :
    ∀ award ∈ lists.flatten, ∀ w, award.replaces w = true → s.paidForRound number w = false := by
  intro award haward w hw
  obtain ⟨league, -, as, has, haward⟩ := mem_leagueAwards h haward
  by_contra hpaid
  obtain ⟨hnumber, hround⟩ := Bool.and_eq_true_iff.1 (Bool.eq_true_of_not_eq_false hpaid)
  obtain ⟨setting, -, hkind, hown⟩ := hs.setting_of_replaces has haward hw hround
  rw [hown (beq_iff_eq.1 hkind)] at hnumber
  exact hother (Option.some.inj (beq_iff_eq.1 hnumber))

end Leagues

theorem leagues_recomputed (s : Store) (round : Round) :
    (s.recomputed round).leagues = s.leagues := by
  obtain ⟨counts, points, hframe⟩ := s.recomputed_frame round
  rw [hframe]

theorem leaguesOf_recomputed (s : Store) (round : Round) (seasonId : Int) :
    (s.recomputed round).leaguesOf seasonId = s.leaguesOf seasonId := by
  rw [leaguesOf, leagues_recomputed, leaguesOf]

/-- The winnings of a league, with points made anew. -/
theorem winningsOf_recomputed (s : Store) (round : Round) (leagueId : Int) :
    (s.recomputed round).winningsOf leagueId = s.winningsOf leagueId := by
  obtain ⟨counts, points, hframe⟩ := s.recomputed_frame round
  rw [hframe]
  rfl

theorem paidForRound_recomputed (s : Store) (round : Round) :
    (s.recomputed round).paidForRound = s.paidForRound := by
  obtain ⟨counts, points, hframe⟩ := s.recomputed_frame round
  rw [hframe]
  rfl

theorem winnings_recomputed (s : Store) (round : Round) :
    (s.recomputed round).winnings = s.winnings := by
  obtain ⟨counts, points, hframe⟩ := s.recomputed_frame round
  rw [hframe]

/-- The leagues of a season stand in the order of their ids. -/
theorem Keyed.leaguesOf_split (hs : s.Keyed) {seasonId : Int} {before after : List League}
    (h : s.leaguesOf seasonId = before ++ league :: after) :
    (∀ other ∈ before, other.id < league.id) ∧ ∀ other ∈ after, league.id < other.id := by
  have hordered : Table.Ordered (s.leaguesOf seasonId) := hs.leagues.filter _
  rw [h] at hordered
  obtain ⟨-, hlater, hcross⟩ := List.pairwise_append.1 hordered
  exact ⟨fun other hother => hcross other hother league List.mem_cons_self,
    (List.pairwise_cons.1 hlater).1⟩

end Store

/-! ### A round -/

/-- Where the settlement of a round stops: at its points, and then nothing changes; or at the prizes
of a league, once its points were made anew and the leagues with smaller ids were paid, and then
that league and those after it keep their winnings. -/
inductive Store.StopsAt (s : Store) (round : Round) (now : DateTime) (fault : Fault) :
    Store → Prop
  | unpointed (points : (recomputePoints round.id).effect s = (.error fault, s)) :
    StopsAt s round now fault s
  | unpaid {before after : List League} {league : League} {t : Store}
    (leagues : s.leaguesOf round.seasonId = before ++ league :: after)
    (smaller : ∀ other ∈ before, other.id < league.id)
    (larger : ∀ other ∈ after, league.id < other.id)
    (points : (recomputePoints round.id).Returns s () (s.recomputed round))
    (paid : (before.forM fun other => do
      let _ ← Prize.processPrizes other.id round.id now).Returns (s.recomputed round) () t)
    (stops : (Prize.processPrizes league.id round.id now).effect t = (.error fault, t))
    (untouched : ∀ other ∈ league :: after, t.winningsOf other.id = s.winningsOf other.id) :
    StopsAt s round now fault t

section Round

variable {s t : Store} {round : Round} {now : DateTime} {fault : Fault}

/-- Prizes stop at the first league that cannot be paid. -/
theorem stops_settlePrizes (h : (settlePrizes round now).effect s = (.error fault, t)) :
    ∃ before league after, s.leaguesOf round.seasonId = before ++ league :: after ∧
      (before.forM fun other => do
        let _ ← Prize.processPrizes other.id round.id now).Returns s () t ∧
      (Prize.processPrizes league.id round.id now).effect t = (.error fault, t) := by
  unfold settlePrizes at h
  rw [Engine.effect_bind, effect_current] at h
  obtain ⟨before, league, after, m, hleagues, hbefore, hstops⟩ := stops_forM (stops_bind_pure h)
  have hleague := stops_bind_pure hstops
  obtain rfl := processPrizes_stops hleague
  exact ⟨before, league, after, hleagues, hbefore, hleague⟩

/-- Leagues of a round that were paid once its points were made anew had their awards recorded. -/
theorem awards_of_paid (hround : fits round.id = true ∧ s.round? round.id = some round)
    {before after : List League} (hleagues : s.leaguesOf round.seasonId = before ++ after)
    (h : (before.forM fun league => do
      let _ ← Prize.processPrizes league.id round.id now).Returns (s.recomputed round) () t) :
    ∃ lists, before.mapM ((s.recomputed round).leagueAwards round) = .ok lists ∧
      t = (s.recomputed round).withAwards now lists.flatten := by
  have hstored : ∀ league ∈ before, league ∈ (s.recomputed round).leagues := by
    intro league hmem
    rw [Store.leagues_recomputed]
    apply List.mem_of_mem_filter (p := fun league => league.seasonId == round.seasonId)
    show league ∈ s.leaguesOf round.seasonId
    rw [hleagues]
    exact List.mem_append_left _ hmem
  have hfound : (s.recomputed round).round? round.id = some round := by
    rw [s.round?_recomputed]
    exact hround.2
  obtain ⟨-, lists, hlists, ht⟩ := (returns_payLeagues ⟨hround.1, hfound⟩ hstored).1 h
  exact ⟨lists, hlists, ht⟩

/-- Points that cannot be made anew leave the store as it was. -/
theorem recomputePoints_stops {roundId : Int}
    (h : (recomputePoints roundId).effect s = (.error fault, t)) : t = s := by
  rw [effect_recomputePoints] at h
  cases hfound : found "Round" (s.round? roundId) roundId with
  | error fault' =>
    rw [hfound] at h
    exact (Prod.mk.inj h).2.symm
  | ok round =>
    rw [hfound] at h
    by_cases hfit : s.pointsFit round = true
    · simp [hfit] at h
    · simp only [hfit] at h
      exact (Prod.mk.inj h).2.symm

/-- Where the settlement of a completed round stops. -/
theorem stopsAt_settleRound (hs : s.Keyed) (hround : s.round? round.id = some round)
    (hstatus : round.status = .completed)
    (h : (settleRound round.id now).effect s = (.error fault, t)) :
    s.StopsAt round now fault t := by
  unfold settleRound at h
  rcases stops_bind h with hfind | ⟨found, u, hfind, h⟩
  · -- Without the round the points are not made anew either.
    rw [effect_getRound] at hfind
    obtain ⟨hnone, rfl⟩ := Prod.mk.inj hfind
    apply Store.StopsAt.unpointed
    rw [effect_recomputePoints, hnone]
  rw [Returns, effect_getRound] at hfind
  obtain ⟨hfound, rfl⟩ := Prod.mk.inj hfind
  obtain rfl : round = found := Option.some.inj (hround.symm.trans (found_eq_ok.1 hfound).2)
  rw [if_neg (not_not.2 hstatus)] at h
  rcases stops_bind h with hstops | ⟨_, u, hpoints, h⟩
  · obtain rfl := recomputePoints_stops hstops
    exact .unpointed hstops
  obtain ⟨found, ⟨-, hfound'⟩, -, rfl⟩ := returns_recomputePoints.1 hpoints
  obtain rfl : round = found := Option.some.inj (hround.symm.trans hfound')
  obtain ⟨before, league, after, hleagues, hpaid, hstops⟩ :=
    stops_settlePrizes (stops_bind_say h)
  rw [Store.leaguesOf_recomputed] at hleagues
  obtain ⟨hsmaller, hlarger⟩ := hs.leaguesOf_split hleagues
  refine .unpaid hleagues hsmaller hlarger hpoints hpaid hstops fun other hother => ?_
  -- The leagues that were paid stand before the one that failed.
  obtain ⟨lists, hlists, rfl⟩ :=
    awards_of_paid (found_eq_ok.1 hfound) hleagues hpaid
  rw [(hs.recomputed round).winningsOf_withAwards hlists now, Store.winningsOf_recomputed]
  intro paid hmem
  rcases List.mem_cons.1 hother with rfl | hafter
  · exact Int.ne_of_lt (hsmaller paid hmem)
  · exact Int.ne_of_lt ((hsmaller paid hmem).trans (hlarger other hafter))

/-- Where the settlement of a round stops, only its own points and the winnings of some of its
leagues were written. -/
theorem Store.StopsAt.written (h : s.StopsAt round now fault t)
    (hround : s.round? round.id = some round) :
    t = s ∨ ∃ (leagues : List League) (lists : List (List Prize.Award)),
      leagues.mapM ((s.recomputed round).leagueAwards round) = .ok lists ∧
        t = (s.recomputed round).withAwards now lists.flatten := by
  cases h with
  | unpointed points => exact .inl rfl
  | unpaid leagues _ _ points paid =>
    obtain ⟨found, ⟨hfits, -⟩, -⟩ := returns_recomputePoints.1 points
    obtain ⟨lists, hlists, ht⟩ := awards_of_paid ⟨hfits, hround⟩ leagues paid
    exact .inr ⟨_, lists, hlists, ht⟩

/-- Where the settlement of a round stops, the rows of other rounds are as they were. -/
theorem Store.StopsAt.agreeOn (h : s.StopsAt round now fault t) (hs : s.Keyed)
    (hround : s.round? round.id = some round) {p : Int → Bool} (hp : p round.id = false) :
    Store.AgreeOn p s { t with winnings := s.winnings } := by
  rcases h.written hround with rfl | ⟨leagues, lists, -, rfl⟩
  · exact .refl p t
  · have hagree := hs.agreeOn_recomputed hp
    obtain ⟨counts, points, hframe⟩ := s.recomputed_frame round
    rw [hframe] at hagree ⊢
    exact hagree

/-- And so are the round prizes of other round numbers. -/
theorem Store.StopsAt.roundWinnings (h : s.StopsAt round now fault t) (hs : s.Keyed)
    (hround : s.round? round.id = some round) {number : Int} (hne : round.number ≠ number) :
    t.roundWinnings number = s.roundWinnings number := by
  rcases h.written hround with rfl | ⟨leagues, lists, hlists, rfl⟩
  · rfl
  · have hspares := (hs.recomputed round).spares_leagueAwards hlists hne
    rw [Store.paidForRound_recomputed] at hspares
    have hkept := Prize.filter_recordAwards (Store.known_leagueAwards hlists) hspares now
      (s.recomputed round).winnings
    rw [Store.roundWinnings, Store.roundWinnings, ← s.winnings_recomputed round,
      ← s.paidForRound_recomputed round]
    rw [← s.paidForRound_recomputed round] at hkept
    exact hkept

end Round

/-! ### A season -/

namespace Walk

variable {s t : Store} {rounds : List Round} {awards : List Prize.Award}

/-- The awards of a walk do not replace round prizes of round numbers that it does not pass. -/
theorem spares (h : Walk s rounds awards t) (hs : s.Keyed) {number : Int}
    (hother : ∀ round ∈ rounds, round.number ≠ number) :
    ∀ award ∈ awards, ∀ w, award.replaces w = true → s.paidForRound number w = false := by
  induction h with
  | done s => exact fun award haward => absurd haward (by simp)
  | @settle s t round rounds as bs _ hawards _ ih =>
    obtain ⟨hfirst, hother⟩ := List.forall_mem_cons.1 hother
    have hs' := hs.recomputed round
    have hrest := ih hs' hother
    obtain ⟨lists, hlists, has⟩ := bind_eq_ok.1 hawards
    obtain rfl := Except.ok.inj has
    have hspares := hs'.spares_leagueAwards hlists hfirst
    rw [Store.paidForRound_recomputed] at hspares hrest
    exact List.forall_mem_append.2 ⟨hspares, hrest⟩

/-- A walk leaves the round prizes of round numbers alone that it does not pass. -/
theorem roundWinnings (h : Walk s rounds awards t) (hs : s.Keyed) (now : DateTime) {number : Int}
    (hother : ∀ round ∈ rounds, round.number ≠ number) :
    (t.withAwards now awards).roundWinnings number = s.roundWinnings number := by
  have hkept := Prize.filter_recordAwards h.known (h.spares hs hother) now s.winnings
  obtain ⟨counts, points, rfl⟩ := h.frame
  exact hkept

end Walk

/-- Where the settlement of a season stops: the completed rounds of the season are settled in the
order in which they were played, and the first that fails when those before it are settled is where
it stops. The store is as these left it, but for what the settlement of that round wrote before it
failed. The counts, points and round prizes of later rounds are as they were. Monthly winnings are
what these settlements leave of them: an earlier round that ends a month also replaces those of the
month with the same number in which a later round is played. -/
structure Store.StopsIn (s : Store) (seasonId : Int) (now : DateTime) (before : List Round)
    (round : Round) (after : List Round) (m : Store) (fault : Fault) (t : Store) : Prop where
  rounds : s.completedRounds seasonId = before ++ round :: after
  order : (s.completedRounds seasonId).Pairwise fun a b =>
    a.start.stamp < b.start.stamp ∨ a.start.stamp = b.start.stamp ∧ a.id < b.id
  settled : (before.forM fun earlier => do
    let _ ← settleRound earlier.id now).Returns s () m
  stops : (settleRound round.id now).effect m = (.error fault, t)
  left : m.StopsAt round now fault t
  laterCounts : ∀ later ∈ after, t.roundResults.filter (·.roundId == later.id) =
    s.roundResults.filter (·.roundId == later.id)
  laterPoints : ∀ later ∈ after, t.leagueResults.filter (·.roundId == later.id) =
    s.leagueResults.filter (·.roundId == later.id)
  laterPrizes : ∀ later ∈ after, t.roundWinnings later.number = s.roundWinnings later.number
  rest : ∃ counts points winnings,
    t = { s with roundResults := counts, leagueResults := points, winnings }

section Season

variable {s t : Store} {seasonId : Int} {now : DateTime} {fault : Fault}

/-- The rounds of a season stand in the order of their starts, and of their ids where these are the
same. -/
theorem Store.Keyed.pairwise_scheduleOf (hs : s.Keyed) (seasonId : Int) :
    (s.scheduleOf seasonId).Pairwise fun a b =>
      a.start.stamp < b.start.stamp ∨ a.start.stamp = b.start.stamp ∧ a.id < b.id := by
  have hordered : (s.roundsOf seasonId).Pairwise fun a b => a.id < b.id :=
    hs.rounds.filter fun round => round.seasonId == seasonId
  have hsorted := @stable_sorted Round (fun a b => decide (a.start.stamp ≤ b.start.stamp))
    (fun a b => by simpa using Nat.le_total a.start.stamp b.start.stamp)
    (fun a b c hab hbc => by simpa using Nat.le_trans (by simpa using hab) (by simpa using hbc))
    _ _ hordered
  apply hsorted.imp
  intro a b hab
  obtain ⟨hle, hstable⟩ := hab
  rcases Nat.lt_or_eq_of_le (of_decide_eq_true hle) with hlt | heq
  · exact .inl hlt
  · exact .inr ⟨heq, hstable (decide_eq_true heq.ge)⟩

/-- So do the completed ones among them. -/
theorem Store.Keyed.pairwise_completedRounds (hs : s.Keyed) (seasonId : Int) :
    (s.completedRounds seasonId).Pairwise fun a b =>
      a.start.stamp < b.start.stamp ∨ a.start.stamp = b.start.stamp ∧ a.id < b.id :=
  (hs.pairwise_scheduleOf seasonId).filter _

/-- A step of the walk stops when the settlement of its round does, and names the round. -/
theorem stops_settleStep {round : Round}
    (h : (settleStep seasonId now round).effect s = (.error fault, t)) :
    ∃ cause, (settleRound round.id now).effect s = (.error cause, t) ∧
      fault = .settlement round.id round.number cause.message := by
  unfold settleStep at h
  rw [effect_tryCatch] at h
  cases hsettle : (do let _ ← settleRound round.id now : Engine Unit).effect s with
  | mk answer m =>
    rw [hsettle] at h
    cases answer with
    | ok _ => simp at h
    | error cause =>
      simp only at h
      rw [Engine.effect_bind, effect_say] at h
      obtain ⟨hfault, rfl⟩ := Prod.mk.inj h
      exact ⟨cause, stops_bind_pure hsettle, (Except.error.inj hfault).symm⟩

/-- The steps of a walk settle its rounds. -/
theorem returns_settleSteps {rounds : List Round}
    (h : (rounds.forM (settleStep seasonId now)).Returns s () t) :
    (rounds.forM fun round => do let _ ← settleRound round.id now).Returns s () t := by
  induction rounds generalizing s with
  | nil => exact h
  | cons round rounds ih =>
    obtain ⟨u, hfirst, hrest⟩ := returns_forM_cons.1 h
    obtain ⟨n, hsettle⟩ := returns_settleStep.1 hfirst
    exact returns_forM_cons.2
      ⟨u, returns_bind.2 ⟨n, u, hsettle, returns_pure.2 ⟨rfl, rfl⟩⟩, ih hrest⟩

/-- A settlement of a season that names a round stops in its walk over the rounds. -/
theorem stops_recalculateSeason {id number : Int} {cause : String}
    (h : (recalculateSeason seasonId now).effect s = (.error (.settlement id number cause), t)) :
    ∃ before round after m fault, s.completedRounds seasonId = before ++ round :: after ∧
      (before.forM (settleStep seasonId now)).Returns s () m ∧
      (settleRound round.id now).effect m = (.error fault, t) ∧
      id = round.id ∧ number = round.number ∧ cause = fault.message := by
  unfold recalculateSeason at h
  rcases stops_bind h with hfind | ⟨season, u, hfind, h⟩
  · -- A season that is not found is reported as such.
    rw [effect_getSeason] at hfind
    have hfault := failsWith_found "Season" (s.season? seasonId) seasonId _ (Prod.mk.inj hfind).1
    cases hfault
  rw [Returns, effect_getSeason] at hfind
  obtain ⟨-, rfl⟩ := Prod.mk.inj hfind
  rw [Engine.effect_bind, effect_current] at h
  obtain ⟨before, round, after, m, hrounds, hbefore, hstep⟩ := stops_forM (stops_bind_say h)
  obtain ⟨fault, hstops, hfault⟩ := stops_settleStep hstep
  obtain ⟨hid, hnumber, hcause⟩ := Fault.settlement.inj hfault
  exact ⟨before, round, after, m, fault, hrounds, hbefore, hstops, hid, hnumber, hcause⟩

/-- Later rounds have other ids and other numbers than those that are settled before them. -/
theorem Store.Keyed.ne_of_later (hs : s.Keyed) {before after : List Round} {round : Round}
    (hrounds : s.completedRounds seasonId = before ++ round :: after) {later : Round}
    (hlater : later ∈ after) {r : Round} (hr : r ∈ before ++ [round]) :
    r.id ≠ later.id ∧ r.number ≠ later.number := by
  have hnodup := hs.nodup_completedRounds seasonId
  rw [List.append_cons] at hrounds
  rw [hrounds, List.map_append] at hnodup
  have hids : r.id ≠ later.id := (List.nodup_append.1 hnodup).2.2 r.id (List.mem_map_of_mem hr)
    later.id (List.mem_map_of_mem hlater)
  refine ⟨hids, fun hsame => hids ?_⟩
  have hmem : r ∈ s.completedRounds seasonId := hrounds ▸ List.mem_append_left _ hr
  have hmem' : later ∈ s.completedRounds seasonId := hrounds ▸ List.mem_append_right _ hlater
  obtain ⟨⟨hstored, hseason⟩, -⟩ := Store.mem_completedRounds.1 hmem
  obtain ⟨⟨hstored', hseason'⟩, -⟩ := Store.mem_completedRounds.1 hmem'
  -- Rounds of one season with one number are the same.
  rw [List.inj_on_of_nodup_map hs.roundNumbers hstored hstored' (by rw [hsame, hseason, hseason'])]

/-- Where the settlement of a season stops. -/
theorem stopsIn_recalculateSeason (hs : s.Keyed) {id number : Int} {cause : String}
    (h : (recalculateSeason seasonId now).effect s = (.error (.settlement id number cause), t)) :
    ∃ before round after m fault, id = round.id ∧ number = round.number ∧ cause = fault.message ∧
      s.StopsIn seasonId now before round after m fault t := by
  obtain ⟨before, round, after, m, fault, hrounds, hbefore, hstops, hid, hnumber, hcause⟩ :=
    stops_recalculateSeason h
  refine ⟨before, round, after, m, fault, hid, hnumber, hcause, ?_⟩
  have hcompleted : ∀ r ∈ before ++ round :: after,
      s.round? r.id = some r ∧ r.status = .completed := by
    intro r hr
    rw [← hrounds] at hr
    exact hs.round?_of_mem_completedRounds hr
  obtain ⟨hfound, hstatus⟩ := hcompleted round (List.mem_append_right _ List.mem_cons_self)
  -- The rounds before it make a walk, which leaves the round itself as it is.
  obtain ⟨-, awards, u, hwalk, rfl⟩ :=
    (returns_walk fun r hr => hcompleted r (List.mem_append_left _ hr)).1 hbefore
  have hu := hwalk.keyed hs
  have hm : (u.withAwards now awards).Keyed := { hu with }
  have hround : (u.withAwards now awards).round? round.id = some round := by
    obtain ⟨counts, points, rfl⟩ := hwalk.frame
    exact hfound
  have hleft := stopsAt_settleRound hm hround hstatus hstops
  have hothers : ∀ later ∈ after, Walk.others (before ++ [round]) later.id = true := by
    intro later hlater
    apply Walk.others_of_not_mem
    intro hmem
    obtain ⟨r, hr, hsame⟩ := List.mem_map.1 hmem
    exact (hs.ne_of_later hrounds hlater hr).1 hsame
  have hpassed : ∀ r ∈ before ++ [round], Walk.others (before ++ [round]) r.id = false :=
    fun r hr => Walk.others_of_mem hr
  have hbefore' := hwalk.agreeOn hs fun r hr => hpassed r (List.mem_append_left _ hr)
  have hround' := hleft.agreeOn hm hround
    (hpassed round (List.mem_append_right _ List.mem_cons_self))
  exact {
    rounds := hrounds
    order := hs.pairwise_completedRounds seasonId
    settled := returns_settleSteps hbefore
    stops := hstops
    left := hleft
    laterCounts := fun later hlater => filter_eq_of_filter_eq
      (hround'.counts.trans hbefore'.counts) fun r hr => beq_iff_eq.1 hr ▸ hothers later hlater
    laterPoints := fun later hlater => filter_eq_of_filter_eq
      (hround'.points.trans hbefore'.points) fun r hr => beq_iff_eq.1 hr ▸ hothers later hlater
    laterPrizes := by
      intro later hlater
      have hnumbers : ∀ r ∈ before ++ [round], r.number ≠ later.number :=
        fun r hr => (hs.ne_of_later hrounds hlater hr).2
      rw [hleft.roundWinnings hm hround
        (hnumbers round (List.mem_append_right _ List.mem_cons_self))]
      exact hwalk.roundWinnings hs now fun r hr => hnumbers r (List.mem_append_left _ hr)
    rest := by
      obtain ⟨counts, points, hrest⟩ := hbefore'.rest
      obtain ⟨counts', points', hrest'⟩ := hround'.rest
      rw [hrest] at hrest'
      refine ⟨counts', points', t.winnings, ?_⟩
      have ht := congrArg (fun v : Store => { v with winnings := t.winnings }) hrest'
      exact ht }

/-- Where settlements stop. When the settlement of a season stops at a round, that is the first of
its completed rounds, in the order in which they were played, that cannot be settled once those
before it are; what was settled by then stays settled, and the counts, points and round prizes of
later rounds stay as they were, though monthly winnings of their months need not. When the
settlement of the prizes of a league stops, nothing has changed. -/
theorem settlement_stops (hs : s.Keyed) :
    (∀ seasonId now id number cause t,
      (recalculateSeason seasonId now).effect s = (.error (.settlement id number cause), t) →
        ∃ before round after m fault,
          id = round.id ∧ number = round.number ∧ cause = fault.message ∧
            s.StopsIn seasonId now before round after m fault t) ∧
    ∀ leagueId roundId now fault t,
      (Prize.processPrizes leagueId roundId now).effect s = (.error fault, t) → t = s :=
  ⟨fun _ _ _ _ _ _ h => stopsIn_recalculateSeason hs h, fun _ _ _ _ _ h => processPrizes_stops h⟩

end Season

/-- A season of two rounds and two leagues. The second league pays for each round, and for the
season more than can be split. -/
def dearSeason : Store :=
  { twoRounds 1 2 with
    leagues := [⟨1, 1, .newYear2025, 5, 3, 0⟩, ⟨2, 1, .newYear2025, 5, 3, 0⟩]
    members :=
      [⟨1, 1, 10, .approved⟩, ⟨2, 1, 11, .approved⟩, ⟨3, 2, 10, .approved⟩, ⟨4, 2, 11, .approved⟩]
    prizeSettings :=
      [titlePrize, ⟨2, 2, .round, 1, 500, none⟩,
        ⟨3, 2, .overall, 1, 1000000000000000000000000000000, none⟩]
    winnings := [⟨1, 11, 3, 700, none, none, .newYear2025⟩] }

/-- The season once it was settled: the round of January is paid in the second league, the season in
the first, and nothing else. -/
def dearSeasonAfter : Store := (recalculateSeason 1 .june2025).storeAfter dearSeason

theorem dear_season_stops :
    dearSeason.Keyed ∧
      (recalculateSeason 1 .june2025).effect dearSeason =
        (.error (.settlement 2 2 Fault.invalidDecimal.message), dearSeasonAfter) ∧
      ∃ before round after m fault, 2 = round.id ∧ 2 = round.number ∧
        Fault.invalidDecimal.message = fault.message ∧
          dearSeason.StopsIn 1 .june2025 before round after m fault dearSeasonAfter := by
  have hkeyed : dearSeason.Keyed := by decide
  have hstops : (recalculateSeason 1 .june2025).effect dearSeason =
      (.error (.settlement 2 2 Fault.invalidDecimal.message), dearSeasonAfter) := by decide +kernel
  exact ⟨hkeyed, hstops, (settlement_stops hkeyed).1 1 .june2025 2 2 _ _ hstops⟩

end PredictionLeague
