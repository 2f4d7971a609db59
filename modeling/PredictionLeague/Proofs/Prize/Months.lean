import PredictionLeague.Proofs.Prize.Kind

/-!
# Months and monthly prizes

The rounds of a month are those of one month of one year, but a monthly winning names its month by
number only. So the payout of a month replaces that of the same month of another year, and leaves
the other months alone.

* `Store.EndsMonth`: a round is the last of its season in its month;
* `Store.monthWinnings`: the winnings of the monthly prizes of a league for a month number;
* `Keyed.monthWinnings_settled`: what the settlement of such a round does to them;
* `processPrizes_months`: what is left of the payout of a month after another month was settled.
-/

namespace PredictionLeague

open Engine

namespace Store

/-- A round is the last of its season that starts in its month: the others start earlier, or at the
same time with a smaller id. -/
def EndsMonth (s : Store) (round : Round) : Prop :=
  round ∈ s.rounds ∧ ∀ other ∈ s.rounds, other.seasonId = round.seasonId →
    other.start.calendarMonth = round.start.calendarMonth →
      other.start.stamp < round.start.stamp ∨
        other.start.stamp = round.start.stamp ∧ other.id ≤ round.id

instance (s : Store) (round : Round) : Decidable (s.EndsMonth round) :=
  inferInstanceAs (Decidable (round ∈ s.rounds ∧ ∀ other ∈ s.rounds,
    other.seasonId = round.seasonId → other.start.calendarMonth = round.start.calendarMonth →
      other.start.stamp < round.start.stamp ∨
        other.start.stamp = round.start.stamp ∧ other.id ≤ round.id))

/-- The winnings of the monthly prizes of a league for a month number. -/
def monthWinnings (s : Store) (leagueId month : Int) : List Winning :=
  s.winnings.filter fun w => s.paidByKind leagueId .monthly w && w.month == some month

variable {s t : Store} {round : Round} {leagueId : Int}

theorem mem_monthOf {other : Round} : other ∈ s.monthOf round ↔ other ∈ s.rounds ∧
    other.seasonId = round.seasonId ∧ other.start.calendarMonth = round.start.calendarMonth := by
  simp [monthOf, scheduleOf, roundsOf, and_assoc]

theorem Keyed.pairwise_monthOf (hs : s.Keyed) (round : Round) :
    (s.monthOf round).Pairwise fun a b =>
      a.start.stamp < b.start.stamp ∨ a.start.stamp = b.start.stamp ∧ a.id < b.id :=
  (hs.pairwise_scheduleOf round.seasonId).filter _

/-- The monthly prizes are settled after the last round of a month. -/
theorem Keyed.due_monthly (hs : s.Keyed) (h : s.EndsMonth round) (season : Option Season) :
    Prize.due s round season .monthly = true := by
  have hround : round ∈ s.monthOf round := mem_monthOf.2 ⟨h.1, rfl, rfl⟩
  obtain ⟨front, last, hsplit⟩ := List.eq_nil_or_concat' (s.monthOf round) |>.resolve_left
    (List.ne_nil_of_mem hround)
  have hsame : last = round := by
    have hlast : last ∈ s.monthOf round := by simp [hsplit]
    obtain ⟨hstored, hseason, hmonth⟩ := mem_monthOf.1 hlast
    have hbefore := h.2 last hstored hseason hmonth
    have hpairwise := hs.pairwise_monthOf round
    rw [hsplit] at hround hpairwise
    rcases List.mem_append.1 hround with hfront | hself
    · have hafter := (List.pairwise_append.1 hpairwise).2.2 round hfront last (by simp)
      omega
    · exact (List.mem_singleton.1 hself).symm
  rw [Prize.due, hsplit, hsame]
  simp

/-- They are settled after no other round. -/
theorem Keyed.endsMonth_of_due (hs : s.Keyed) (hround : round ∈ s.rounds) {season : Option Season}
    (h : Prize.due s round season .monthly = true) : s.EndsMonth round := by
  have hlast : ((s.monthOf round).map (·.id)).getLast? = some round.id := beq_iff_eq.1 h
  rw [List.getLast?_map] at hlast
  obtain ⟨last, hlast, hid⟩ := Option.map_eq_some_iff.1 hlast
  obtain ⟨front, hsplit⟩ := List.getLast?_eq_some_iff.1 hlast
  have hmem : last ∈ s.monthOf round := by simp [hsplit]
  obtain rfl : last = round := hs.rounds.eq_of_id_eq (mem_monthOf.1 hmem).1 hround hid
  refine ⟨hround, fun other hother hseason hmonth => ?_⟩
  have hother := mem_monthOf.2 ⟨hother, hseason, hmonth⟩
  have hpairwise := hs.pairwise_monthOf last
  rw [hsplit] at hother hpairwise
  rcases List.mem_append.1 hother with hfront | hself
  · have hbefore := (List.pairwise_append.1 hpairwise).2.2 other hfront last (by simp)
    omega
  · obtain rfl := List.mem_singleton.1 hself
    exact .inr ⟨rfl, Int.le_refl _⟩

theorem winningsOf_filter_month (s : Store) (leagueId month : Int) :
    (s.winningsOf leagueId).filter (fun w =>
      s.paidByKind leagueId .monthly w && w.month == some month) =
        s.monthWinnings leagueId month := by
  rw [winningsOf, monthWinnings, List.filter_filter]
  refine List.filter_congr fun w _ => ?_
  by_cases hpaid : s.paidByKind leagueId .monthly w = true
  · have hleague : s.paidBy (·.leagueId == leagueId) w = true := by
      obtain ⟨setting, hstored, hmatch⟩ := List.any_eq_true.1 hpaid
      simp only [Bool.and_eq_true] at hmatch
      exact List.any_eq_true.2 ⟨setting, hstored, by simp [hmatch]⟩
    rw [hleague, Bool.and_true]
  · rw [Bool.eq_false_of_not_eq_true hpaid, Bool.false_and, Bool.false_and]

/-- The settlement of the last round of a month replaces the winnings of the month by its own, and
those of other month numbers stay. -/
theorem Keyed.monthWinnings_settled (hs : s.Keyed) {roundId : Int} {now : DateTime}
    {paid : List Winning} (hround : s.round? roundId = some round) (hends : s.EndsMonth round)
    (h : (Prize.processPrizes leagueId roundId now).Returns s paid t) (month : Int) :
    t.monthWinnings leagueId month =
      if round.start.month = month then paid.filter (s.paidByKind leagueId .monthly)
      else s.monthWinnings leagueId month := by
  obtain ⟨league, awards, rfl, hawarded, rfl, rfl⟩ := awards_of_processPrizes hround h
  obtain ⟨left, hnew, hleft⟩ := hs.kind_due hawarded
    (hs.due_monthly hends (s.season? round.seasonId)) now s.winnings
  split
  · rename_i hmonth
    subst hmonth
    rw [hnew, ← hleft]
    refine List.filter_congr fun w _ => ?_
    rw [replaces_kindAward]
    rfl
  · rename_i hmonth
    -- The award of the month is for another number, and those of other kinds are not monthly.
    rw [kinds_of_leagueAwards hawarded]
    apply Prize.filter_recordAwards
      (q := fun w => s.paidByKind league.id .monthly w && w.month == some month)
    · exact s.known_kindAwards round league _
    · intro award haward w hw
      obtain ⟨kind, -, rfl⟩ := List.mem_map.1 haward
      by_cases hkind : kind = .monthly
      · subst hkind
        rw [replaces_kindAward] at hw
        have hcovers : w.month = some (round.start.month : Int) :=
          beq_iff_eq.1 (Bool.and_eq_true_iff.1 hw).2
        simp [hcovers, hmonth]
      · rw [hs.replaces_otherKind hkind hw, Bool.false_and]

end Store

/-- After the last round of a month was settled, and then the last round of a month in a store with
the same prizes and the same winnings of the league, the payout of the first month is what it was if
the numbers of the months differ; otherwise it is that of the second one. -/
theorem processPrizes_months {s t t' u : Store} (hs : s.Keyed) (ht' : t'.Keyed) {leagueId : Int}
    {firstId secondId : Int} {now now' : DateTime} {first second : Round}
    {paid paid' : List Winning} (hfirst : s.round? firstId = some first)
    (hfirstEnds : s.EndsMonth first)
    (hpaid : (Prize.processPrizes leagueId firstId now).Returns s paid t)
    (hsettings : t'.prizeSettings = t.prizeSettings)
    (hwinnings : t'.winningsOf leagueId = t.winningsOf leagueId)
    (hsecond : t'.round? secondId = some second) (hsecondEnds : t'.EndsMonth second)
    (hpaid' : (Prize.processPrizes leagueId secondId now').Returns t' paid' u) :
    t.monthWinnings leagueId first.start.month = paid.filter (s.paidByKind leagueId .monthly) ∧
      u.monthWinnings leagueId first.start.month =
        if second.start.month = first.start.month then
          paid'.filter (s.paidByKind leagueId .monthly)
        else paid.filter (s.paidByKind leagueId .monthly) := by
  have hpaidFirst : t.monthWinnings leagueId first.start.month =
      paid.filter (s.paidByKind leagueId .monthly) := by
    rw [hs.monthWinnings_settled hfirst hfirstEnds hpaid, if_pos rfl]
  have hsame : t.prizeSettings = s.prizeSettings := by
    obtain ⟨_, -, _, -, awards, -, -, rfl⟩ := returns_processPrizes.1 hpaid
    rfl
  have hbetween : t'.monthWinnings leagueId first.start.month =
      t.monthWinnings leagueId first.start.month := by
    rw [← Store.winningsOf_filter_month, ← Store.winningsOf_filter_month, hwinnings,
      Store.paidByKind_congr hsettings]
  refine ⟨hpaidFirst, ?_⟩
  rw [ht'.monthWinnings_settled hsecond hsecondEnds hpaid', hbetween, hpaidFirst,
    Store.paidByKind_congr (hsettings.trans hsame)]
  exact if_congr Int.natCast_inj rfl rfl

/-- The first moment of the year 2026. -/
def newYear2026 : DateTime :=
  (DateTime.ofParts 2026 1 1 0 0 0 0).toOption.getD .newYear2025

/-- A season with a round in January, one in June and one in January of the next year. Player 10 has
the most points in the first two, player 11 in the third, and there is a prize for each month. -/
def longSeason : Store :=
  { Store.empty with
    seasons := [⟨1, "2025", .newYear2025, newYear2026, 4⟩]
    rounds := [⟨1, 1, 1, .newYear2025, .newYear2025, .completed, some .newYear2025⟩,
      ⟨2, 1, 2, .june2025, .june2025, .completed, some .june2025⟩,
      ⟨3, 1, 3, newYear2026, newYear2026, .completed, some newYear2026⟩]
    leagues := [⟨1, 1, .newYear2025, 5, 3, 0⟩]
    members := [⟨1, 1, 10, .approved⟩, ⟨2, 1, 11, .approved⟩]
    prizeSettings := [⟨1, 1, .monthly, 1, 1000, none⟩]
    leagueResults := [⟨1, 1, 1, 10, 5, 5, false, none, 1⟩, ⟨2, 1, 2, 10, 5, 5, false, none, 1⟩,
      ⟨3, 1, 3, 11, 5, 5, false, none, 1⟩] }

/-- The season with the prize of the first January paid. -/
def januaryPaid : Store := (Prize.processPrizes 1 1 newYear2026).storeAfter longSeason

/-- The payout of January stands after June was settled. -/
theorem june_keeps_january :
    longSeason.Keyed ∧
      (Prize.processPrizes 1 1 newYear2026).Returns longSeason
        [⟨1, 10, 1, 1000, none, some 1, newYear2026⟩] januaryPaid ∧
      (Prize.processPrizes 1 2 newYear2026).Returns januaryPaid
        [⟨2, 10, 1, 1000, none, some 6, newYear2026⟩]
        ((Prize.processPrizes 1 2 newYear2026).storeAfter januaryPaid) ∧
      ((Prize.processPrizes 1 2 newYear2026).storeAfter januaryPaid).monthWinnings 1 1 =
        [⟨1, 10, 1, 1000, none, some 1, newYear2026⟩] := by
  have hkeyed : longSeason.Keyed := by decide
  have hkeyed' : januaryPaid.Keyed := by decide +kernel
  have hjanuary : (Prize.processPrizes 1 1 newYear2026).Returns longSeason
      [⟨1, 10, 1, 1000, none, some 1, newYear2026⟩] januaryPaid := by decide +kernel
  have hjune : (Prize.processPrizes 1 2 newYear2026).Returns januaryPaid
      [⟨2, 10, 1, 1000, none, some 6, newYear2026⟩]
      ((Prize.processPrizes 1 2 newYear2026).storeAfter januaryPaid) := by decide +kernel
  have hfirst : longSeason.round? 1 =
      some ⟨1, 1, 1, .newYear2025, .newYear2025, .completed, some .newYear2025⟩ := rfl
  have hsecond : januaryPaid.round? 2 =
      some ⟨2, 1, 2, .june2025, .june2025, .completed, some .june2025⟩ := by decide +kernel
  have hkept := processPrizes_months hkeyed hkeyed' hfirst (by decide) hjanuary rfl rfl hsecond
    (by decide +kernel) hjune
  exact ⟨hkeyed, hjanuary, hjune, hkept.2⟩

/-- Settling a month does not always keep the payout of another month: the payout of a January is
lost when that of the next year is paid. -/
theorem next_january_overwrites : ¬∀ (s t u : Store) (leagueId firstId secondId : Int)
    (now : DateTime) (first second : Round) (paid paid' : List Winning), s.Keyed →
    s.round? firstId = some first → s.EndsMonth first →
    s.round? secondId = some second → s.EndsMonth second →
    first.seasonId = second.seasonId → first.start.calendarMonth ≠ second.start.calendarMonth →
    (Prize.processPrizes leagueId firstId now).Returns s paid t →
    (Prize.processPrizes leagueId secondId now).Returns t paid' u →
    ∀ w ∈ paid, s.paidByKind leagueId .monthly w = true → w ∈ u.winnings := by
  intro h
  have hkept := h longSeason januaryPaid
    ((Prize.processPrizes 1 3 newYear2026).storeAfter januaryPaid) 1 1 3 newYear2026
    ⟨1, 1, 1, .newYear2025, .newYear2025, .completed, some .newYear2025⟩
    ⟨3, 1, 3, newYear2026, newYear2026, .completed, some newYear2026⟩
    [⟨1, 10, 1, 1000, none, some 1, newYear2026⟩] [⟨1, 11, 1, 1000, none, some 1, newYear2026⟩]
    (by decide) rfl (by decide) rfl (by decide) rfl (by decide) (by decide +kernel)
    (by decide +kernel) _ List.mem_cons_self (by decide)
  exact absurd hkept (by decide +kernel)

end PredictionLeague
