import PredictionLeague.Proofs.Prize.Months
import PredictionLeague.Proofs.Prize.Overall

/-!
# What a settlement writes

The settlement of the prizes of a league after a round, said by the results and the settings of the
league: which kinds of prizes the round settles, who wins them, and that the winnings of their
periods are then one for each winner, with its share of the prize. All other winnings stay.

* `Store.Tops`, `Store.Wins`: the members with the most of a figure, and the winners of a prize;
* `Store.SettlesKind`: the kinds of prizes that a round settles;
* `Store.PaidSettings`: the settings of a kind that are paid;
* `Store.PaysOut`, `Store.PaysKind`: the winnings of a prize, and those of a kind of prizes;
* `Store.WritesPrizes`: what a settlement leaves of the winnings of a store;
* `Prize.paysOut_numbered`: the payments of a setting, recorded, are its winnings;
* `processPrizes_writes`: a settlement that returns has written exactly these winnings.
-/

namespace PredictionLeague

open Engine

namespace Store

/-! ### Winners and periods -/

/-- An approved member has the most of a figure among the approved members, and it is not zero. -/
def Tops (s : Store) (leagueId : Int) (figure : Int → Int) (userId : Int) : Prop :=
  s.isMember leagueId userId = true ∧ figure userId ≠ 0 ∧
    ∀ other, s.isMember leagueId other = true → figure other ≤ figure userId

/-- A player wins a prize after a round: with the most points in the round, or in the rounds of its
month, on the rank of the prize by all points, or with the most exact scores of all. -/
def Wins (s : Store) (round : Round) (setting : PrizeSetting) (userId : Int) : Prop :=
  match setting.kind with
  | .round => s.Tops setting.leagueId (s.boostedIn setting.leagueId round.id) userId
  | .monthly =>
    s.Tops setting.leagueId (s.pointsOver setting.leagueId ((s.monthOf round).map (·.id))) userId
  | .overall =>
    s.isMember setting.leagueId userId = true ∧
      (s.rankOver s.leagueResults setting.leagueId userId : Int) = setting.rank
  | .mostExactScores =>
    s.Tops setting.leagueId (totalOver s.leagueResults (·.exactScores) setting.leagueId) userId

/-- A round settles a kind of prize: every round its own prizes, the last of a month those of the
month, and the last of a season those of the season. -/
def SettlesKind (s : Store) (season : Season) (round : Round) : PrizeKind → Prop
  | .round => True
  | .monthly => s.EndsMonth round
  | .overall | .mostExactScores => round.number = season.roundCount

/-- The settings of a kind of prize that are paid, in the order of their ranks and then of their
ids: for ranks all of them, otherwise the first. -/
structure PaidSettings (s : Store) (leagueId : Int) (kind : PrizeKind)
    (settings : List PrizeSetting) : Prop where
  ordered : settings.Pairwise fun a b => a.rank < b.rank ∨ a.rank = b.rank ∧ a.id < b.id
  mem_iff : ∀ setting, setting ∈ settings ↔
    setting ∈ s.prizeSettings ∧ setting.leagueId = leagueId ∧ setting.kind = kind ∧
      (kind = .overall ∨ ∀ other ∈ s.prizeSettings, other.leagueId = leagueId →
        other.kind = kind →
          setting.rank < other.rank ∨ setting.rank = other.rank ∧ setting.id ≤ other.id)

/-- The winnings of a prize for a period: one for each winner in ascending order, who share the
prize. -/
structure PaysOut (setting : PrizeSetting) (wins : Int → Prop) (period : Prize.Period)
    (now : DateTime) (rows : List Winning) : Prop where
  ascending : (rows.map (·.userId)).Pairwise (· < ·)
  winners : ∀ userId, userId ∈ rows.map (·.userId) ↔ wins userId
  /-- An amount is what the store keeps of a share. -/
  kept : ∃ shares,
    Prize.distribute (.finite (Decimal.ofPennies setting.amount)) rows.length = .ok shares ∧
      rows.map (·.amount) = shares.map fun share => Money.kept share.pennies
  /-- Of a prize of at most fifteen digits it keeps all. -/
  exactly : Prize.Payable setting →
    Prize.distribute (.finite (Decimal.ofPennies setting.amount)) rows.length =
      .ok (rows.map fun w => Decimal.ofPennies w.amount)
  fields : ∀ w ∈ rows, w.settingId = setting.id ∧ w.roundNumber = period.roundNumber ∧
    w.month = period.monthNumber ∧ w.awarded = now

/-- The winnings of a kind of prizes of a league after a round: those of the settings that are
paid, one after the other. -/
def PaysKind (s : Store) (leagueId : Int) (round : Round) (kind : PrizeKind) (now : DateTime)
    (rows : List Winning) : Prop :=
  ∃ settings parts, s.PaidSettings leagueId kind settings ∧
    List.Forall₂ (fun setting part =>
      PaysOut setting (s.Wins round setting) (Prize.periodOf round kind) now part) settings parts ∧
    rows = parts.flatten

/-- A winning of a kind of prizes of a league, for the period that a round belongs to. -/
def paidFor (s : Store) (leagueId : Int) (round : Round) (kind : PrizeKind) (w : Winning) : Bool :=
  s.paidByKind leagueId kind w && (Prize.periodOf round kind).covers w

/-- What the settlement of a league after a round leaves, given the new winnings of each kind. -/
structure WritesPrizes (s t : Store) (leagueId : Int) (season : Season) (round : Round)
    (now : DateTime) (rows : PrizeKind → List Winning) : Prop where
  /-- A kind that is settled is paid out, and no other winning of its period is left. -/
  settled : ∀ kind, s.SettlesKind season round kind →
    s.PaysKind leagueId round kind now (rows kind) ∧
      t.winnings.filter (s.paidFor leagueId round kind) = rows kind
  /-- A kind that is not settled is not paid, and its winnings stay. -/
  unsettled : ∀ kind, ¬s.SettlesKind season round kind → rows kind = [] ∧
    t.winnings.filter (s.paidByKind leagueId kind) = s.winnings.filter (s.paidByKind leagueId kind)
  /-- So do all winnings but those of the periods that are settled. -/
  others : ∀ q : Winning → Bool, (∀ kind, s.SettlesKind season round kind →
      ∀ w, s.paidFor leagueId round kind w = true → q w = false) →
    t.winnings.filter q = s.winnings.filter q
  rest : t = { s with winnings := t.winnings }

variable {s t : Store} {round : Round} {season : Season} {leagueId : Int} {kind : PrizeKind}

/-- The kinds that a round settles are those that are due. -/
theorem Keyed.due_iff (hs : s.Keyed) (hround : round ∈ s.rounds) (kind : PrizeKind) :
    Prize.due s round (some season) kind = true ↔ s.SettlesKind season round kind := by
  have hlast : (some season).any (Prize.isLastRound · round) = true ↔
      round.number = season.roundCount := beq_iff_eq
  cases kind with
  | round => exact iff_of_true rfl trivial
  | monthly => exact ⟨hs.endsMonth_of_due hround, fun hends => hs.due_monthly hends _⟩
  | overall => exact hlast
  | mostExactScores => exact hlast

/-- The points of a player in some rounds, by the standings, are those in its results. -/
theorem total_rounds (leagueId : Int) (roundIds : List Int) (userId : Int) :
    (s.standings leagueId).total
        (fun r => if roundIds.contains r.roundId then r.points else 0) userId =
      s.pointsOver leagueId roundIds userId := by
  rw [total_standings, totalOver, pointsOver, ← Standings.sumOf_eq_sum,
    Standings.sumOf_map_filter _ (fun r => roundIds.contains r.roundId)]
  · have hrows : ((s.leagueResults.filter fun r =>
          r.leagueId == leagueId && r.userId == userId).filter
            fun r => roundIds.contains r.roundId) =
        (s.resultsOf leagueId).filter
          fun r => r.userId == userId && roundIds.contains r.roundId := by
      rw [resultsOf, List.filter_filter, List.filter_filter]
      refine List.filter_congr fun r _ => ?_
      ac_rfl
    rw [hrows]
    refine congrArg _ (List.map_congr_left fun r hr => ?_)
    have hcounts := (List.mem_filter.1 hr).2
    exact if_pos (Bool.and_eq_true_iff.1 hcounts).2
  · exact fun r _ hnot => if_neg (Bool.not_eq_true _ ▸ hnot)

/-- The winners of a prize by the standings are those who win it by the results. -/
theorem Keyed.mem_winners_iff (hs : s.Keyed) (round : Round) (setting : PrizeSetting)
    (userId : Int) :
    userId ∈ Prize.winners s (s.standings setting.leagueId) round setting setting.kind ↔
      s.Wins round setting userId := by
  cases hkind : setting.kind with
  | round =>
    simp only [Prize.winners, Standings.roundWinners, Standings.roundPoints, mem_topScorers_totals,
      total_rounds, hs.pointsOver_singleton, Wins, hkind, Tops]
  | monthly =>
    simp only [Prize.winners, Standings.periodWinners, Standings.roundPoints,
      mem_topScorers_totals, total_rounds, Wins, hkind, Tops]
  | overall =>
    rw [hs.mem_winners hkind (.inl rfl)]
    simp only [Deserves, Wins, hkind, reduceIte]
  | mostExactScores =>
    rw [hs.mem_winners hkind (.inr rfl)]
    simp only [Deserves, Wins, hkind, reduceCtorEq, reduceIte, Tops]

/-- The settings that a settlement pays are those that are to be paid. -/
theorem Keyed.paidSettings_payable (hs : s.Keyed) (leagueId : Int) (kind : PrizeKind) :
    s.PaidSettings leagueId kind
      (Prize.payable ((Prize.settingsOf s leagueId).filter (·.kind == kind)) kind) where
  ordered := ((hs.pairwise_settingsOf leagueId).filter _).sublist (Prize.payable_sublist _ kind)
  mem_iff _ := hs.mem_payable

end Store

/-! ### Recording payments -/

namespace Prize

/-- The payments of a setting, recorded for a period, are the winnings of the prize. -/
theorem paysOut_numbered {setting : PrizeSetting} {winners : List Int} {wins : Int → Prop}
    (hpay : pay setting winners = .ok (paid setting winners)) (hnodup : winners.Nodup)
    (hwins : ∀ userId, userId ∈ winners ↔ wins userId) (period : Period) (now : DateTime)
    (n : Int) :
    Store.PaysOut setting wins period now (Table.numbered n
      ((paid setting winners).map fun payment => payment.winning period now)) := by
  obtain ⟨rows, hrows⟩ : ∃ rows, rows = Table.numbered n
      ((paid setting winners).map fun payment => payment.winning period now) := ⟨_, rfl⟩
  have husers : rows.map (·.userId) = ascending winners := by
    rw [hrows, ← users_of_pay hpay]
    exact Table.map_numbered_map _ _ _ fun _ _ => rfl
  have hamounts : rows.map (·.amount) = (paid setting winners).map (·.amount) := by
    rw [hrows]
    exact Table.map_numbered_map _ _ _ fun _ _ => rfl
  have hlength : rows.length = winners.length := by
    rw [← length_ascending winners, ← husers, List.length_map]
  rw [← hrows]
  refine ⟨?_, ?_, ?_, fun hpayable => ?_, ?_⟩
  · rw [husers]
    exact strict_ascending hnodup
  · intro userId
    rw [husers, mem_ascending, hwins]
  · rw [hlength, distribute_finite, hamounts]
    exact amounts_of_pay hpay
  · have hpennies : rows.map (fun w => Decimal.ofPennies w.amount) =
        (shares setting.amount.toNat winners.length).map Decimal.whole := by
      calc rows.map (fun w => Decimal.ofPennies w.amount)
          = (rows.map (·.amount)).map Decimal.ofPennies := by rw [List.map_map]; rfl
        _ = (shares setting.amount.toNat winners.length).map
              (fun share : Nat => Decimal.ofPennies share) := by
            rw [hamounts, amounts_paid hpayable, List.map_map]
            rfl
        _ = (shares setting.amount.toNat winners.length).map Decimal.whole :=
            List.map_congr_left fun share _ => Decimal.ofPennies_eq_whole share
    rw [hlength, distribute_finite, split_payable hpayable, hpennies]
  · intro w hw
    obtain ⟨payment, hpayment, id, rfl⟩ := Table.mem_numbered (hrows ▸ hw)
    exact ⟨(mem_paid hpayment).1, rfl, rfl, rfl⟩

end Prize

namespace Store

variable {s t : Store} {round : Round} {season : Season} {league : League} {kind : PrizeKind}

/-- The new winnings of the award of a kind that is due pay the kind. -/
theorem Keyed.paysKind_kindAward (hs : s.Keyed) {awards : List Prize.Award}
    (h : s.leagueAwards round league = .ok awards)
    (hdue : Prize.due s round (s.season? round.seasonId) kind = true) (now : DateTime)
    (winnings : List Winning) :
    s.PaysKind league.id round kind now ((s.kindAward round league kind).paid now winnings) := by
  let payments (setting : PrizeSetting) : List (Int → Winning) :=
    (Prize.paid setting (Prize.winners s (s.standings league.id) round setting kind)).map
      fun payment => payment.winning (Prize.periodOf round kind) now
  have hsettings := hs.paidSettings_payable league.id kind
  have hpays : ∀ setting ∈ Prize.payable (s.settingsOfKind league.id kind) kind, ∀ n,
      PaysOut setting (s.Wins round setting) (Prize.periodOf round kind) now
        (Table.numbered n (payments setting)) := by
    intro setting hsetting n
    have hpay := Prize.pay_of_awards_ok h hdue hsetting
    obtain ⟨-, hleague, rfl, -⟩ := (hsettings.mem_iff setting).1 hsetting
    have hwins := hs.mem_winners_iff round setting
    rw [hleague] at hwins
    exact Prize.paysOut_numbered hpay (Prize.nodup_winners ..) hwins _ now n
  obtain ⟨parts, hparts, hflatten⟩ := Table.exists_parts_numbered
    (Table.nextId ((s.kindAward round league kind).kept winnings)) hpays
  refine ⟨_, parts, hsettings, hparts, ?_⟩
  rw [← hflatten, ← List.map_flatMap]
  rfl

/-- What the awards of a league after a round leave, recorded in a store. -/
theorem Keyed.writesPrizes (hs : s.Keyed) (hround : round ∈ s.rounds)
    (hseason : s.season? round.seasonId = some season) {awards : List Prize.Award}
    (h : s.leagueAwards round league = .ok awards) (now : DateTime) :
    s.WritesPrizes (s.withAwards now awards) league.id season round now fun kind =>
      (Prize.recordAwards now s.winnings awards).2.filter (s.paidByKind league.id kind) := by
  have hdue (kind : PrizeKind) :
      Prize.due s round (s.season? round.seasonId) kind = true ↔
        s.SettlesKind season round kind := by
    rw [hseason]
    exact hs.due_iff hround kind
  obtain rfl := kinds_of_leagueAwards h
  have hsettled {kind : PrizeKind} (hkind : kind ∈ Prize.dueKinds s
      (Prize.settingsOf s league.id) round (s.season? round.seasonId)) :
      s.SettlesKind season round kind :=
    (hdue kind).1 (Bool.and_eq_true_iff.1 (List.mem_filter.1 hkind).2).2
  have hreplaced (kind : PrizeKind) :
      (s.kindAward round league kind).replaces = s.paidFor league.id round kind :=
    funext fun w => replaces_kindAward kind w
  have hknown := s.known_kindAwards round league
  refine ⟨fun kind hsettles => ?_, fun kind hsettles => ⟨?_, ?_⟩, fun q hq => ?_, rfl⟩
  · obtain ⟨left, hnew, hleft⟩ := hs.kind_due h ((hdue kind).2 hsettles) now s.winnings
    rw [hnew, ← hreplaced]
    exact ⟨hs.paysKind_kindAward h ((hdue kind).2 hsettles) now left, hleft⟩
  · exact hs.filter_new_otherKinds (fun hkind => hsettles (hsettled hkind)) now s.winnings
  · exact Prize.filter_recordAwards (hknown _)
      (hs.replaces_otherKinds fun hkind => hsettles (hsettled hkind)) now s.winnings
  · refine Prize.filter_recordAwards (hknown _) (List.forall_mem_map.2 fun kind hkind w hw => ?_)
      now s.winnings
    rw [hreplaced] at hw
    exact hq kind (hsettled hkind) w hw

end Store

/-- A settlement of the prizes of a league that returns has written exactly the right winnings: the
kinds of prizes that the round settles are paid out, their old winnings of the period are gone, and
all others stay. It returns the new winnings of all kinds in the order of payment. -/
theorem processPrizes_writes {s t : Store} (hs : s.Keyed) {leagueId roundId : Int}
    {now : DateTime} {round : Round} {season : Season} {paid : List Winning}
    (hround : s.round? roundId = some round)
    (hseason : s.season? round.seasonId = some season)
    (h : (Prize.processPrizes leagueId roundId now).Returns s paid t) :
    ∃ rows : PrizeKind → List Winning,
      paid = rows .round ++ rows .monthly ++ rows .overall ++ rows .mostExactScores ∧
        s.WritesPrizes t leagueId season round now rows := by
  obtain ⟨league, awards, rfl, hawarded, rfl, rfl⟩ := Store.awards_of_processPrizes hround h
  have hstored : round ∈ s.rounds := ((Table.get?_eq_some hs.rounds).1 hround).1
  refine ⟨_, ?_, hs.writesPrizes hstored hseason hawarded now⟩
  have hkinds := hs.new_by_kind hawarded now s.winnings
  simpa only [PrizeKind.all, List.flatMap_cons, List.flatMap_nil, List.append_nil,
    List.append_assoc] using hkinds

/-- The last round of a season, in June. Players 11 and 12 tie for the round and for the month, and
players 10 and 11 for the season, so the second rank is absorbed; both have one exact score. All
prizes of the round were paid before to player 10, and those of the first round to player 12. -/
def lastRound : Store :=
  { Store.empty with
    seasons := [⟨1, "2025", .newYear2025, .june2025, 2⟩]
    rounds := [⟨1, 1, 1, .newYear2025, .newYear2025, .completed, some .newYear2025⟩,
      ⟨2, 1, 2, .june2025, .june2025, .completed, some .june2025⟩]
    leagues := [⟨1, 1, .newYear2025, 5, 3, 0⟩]
    members := [⟨1, 1, 10, .approved⟩, ⟨2, 1, 11, .approved⟩, ⟨3, 1, 12, .approved⟩]
    prizeSettings := [⟨1, 1, .round, 1, 1001, none⟩, ⟨2, 1, .monthly, 1, 2000, none⟩,
      ⟨3, 1, .overall, 1, 5000, none⟩, ⟨4, 1, .overall, 2, 3000, none⟩,
      ⟨5, 1, .overall, 3, 1000, none⟩, ⟨6, 1, .mostExactScores, 1, 701, none⟩]
    leagueResults := [⟨1, 1, 1, 10, 5, 5, false, none, 1⟩, ⟨2, 1, 1, 11, 3, 3, false, none, 0⟩,
      ⟨3, 1, 2, 11, 2, 2, false, none, 1⟩, ⟨4, 1, 2, 12, 2, 2, false, none, 0⟩]
    winnings := [⟨1, 12, 1, 1001, some 1, none, .newYear2025⟩,
      ⟨2, 12, 2, 2000, none, some 1, .newYear2025⟩, ⟨3, 10, 1, 1001, some 2, none, .newYear2025⟩,
      ⟨4, 10, 2, 2000, none, some 6, .newYear2025⟩, ⟨5, 10, 4, 3000, none, none, .newYear2025⟩,
      ⟨6, 10, 6, 701, none, none, .newYear2025⟩] }

/-- What the settlement of the last round pays. -/
def lastRoundPaid : List Winning :=
  [⟨7, 11, 1, 501, some 2, none, .june2025⟩, ⟨8, 12, 1, 500, some 2, none, .june2025⟩,
    ⟨9, 11, 2, 1000, none, some 6, .june2025⟩, ⟨10, 12, 2, 1000, none, some 6, .june2025⟩,
    ⟨11, 10, 3, 2500, none, none, .june2025⟩, ⟨12, 11, 3, 2500, none, none, .june2025⟩,
    ⟨13, 12, 5, 1000, none, none, .june2025⟩, ⟨14, 10, 6, 351, none, none, .june2025⟩,
    ⟨15, 11, 6, 350, none, none, .june2025⟩]

/-- The last round settles all kinds of prizes, and what was paid for the first round stays. -/
theorem last_round_writes :
    let season : Season := ⟨1, "2025", .newYear2025, .june2025, 2⟩
    let round : Round := ⟨2, 1, 2, .june2025, .june2025, .completed, some .june2025⟩
    let t := (Prize.processPrizes 1 2 .june2025).storeAfter lastRound
    lastRound.Keyed ∧ lastRound.round? 2 = some round ∧
      lastRound.season? round.seasonId = some season ∧
      (Prize.processPrizes 1 2 .june2025).Returns lastRound lastRoundPaid t ∧
      (∃ rows : PrizeKind → List Winning,
        lastRoundPaid = rows .round ++ rows .monthly ++ rows .overall ++ rows .mostExactScores ∧
          lastRound.WritesPrizes t 1 season round .june2025 rows) ∧
      (∀ kind, lastRound.SettlesKind season round kind) ∧
      t.winnings = lastRound.winnings.take 2 ++ lastRoundPaid := by
  intro season round t
  have hkeyed : lastRound.Keyed := by decide
  have hround : lastRound.round? 2 = some round := rfl
  have hseason : lastRound.season? round.seasonId = some season := rfl
  have hreturns : (Prize.processPrizes 1 2 .june2025).Returns lastRound lastRoundPaid t := by
    decide +kernel
  have hends : lastRound.EndsMonth round := by decide
  have hall : ∀ kind, lastRound.SettlesKind season round kind := by
    intro kind
    cases kind with
    | round => trivial
    | monthly => exact hends
    | overall => rfl
    | mostExactScores => rfl
  exact ⟨hkeyed, hround, hseason, hreturns, processPrizes_writes hkeyed hround hseason hreturns,
    hall, by decide +kernel⟩

/-- Three players tie for a prize of nineteen digits. -/
def dearTie : Store :=
  { Store.empty with
    seasons := [⟨1, "2025", .newYear2025, .june2025, 2⟩]
    rounds := [⟨1, 1, 1, .newYear2025, .newYear2025, .completed, some .newYear2025⟩]
    leagues := [⟨1, 1, .newYear2025, 5, 3, 0⟩]
    members := [⟨1, 1, 10, .approved⟩, ⟨2, 1, 11, .approved⟩, ⟨3, 1, 12, .approved⟩]
    prizeSettings := [⟨1, 1, .round, 1, 1000000000000000000, none⟩]
    leagueResults := [⟨1, 1, 1, 10, 5, 5, false, none, 1⟩, ⟨2, 1, 1, 11, 5, 5, false, none, 1⟩,
      ⟨3, 1, 1, 12, 5, 5, false, none, 1⟩] }

/-- The recorded amounts are not always the shares of the prize: of larger prizes the store keeps
the binary numbers nearest to the shares. -/
theorem dear_tie_is_not_shared : ¬∀ (s t : Store) (leagueId roundId : Int) (now : DateTime)
    (round : Round) (season : Season) (paid : List Winning), s.Keyed →
    s.round? roundId = some round → s.season? round.seasonId = some season →
    (Prize.processPrizes leagueId roundId now).Returns s paid t →
    ∀ setting ∈ s.prizeSettings, setting.leagueId = leagueId → setting.kind = .round →
      (∀ other ∈ s.prizeSettings, other.leagueId = leagueId → other.kind = .round →
        setting.rank < other.rank ∨ setting.rank = other.rank ∧ setting.id ≤ other.id) →
      let rows := t.winnings.filter fun w =>
        w.settingId == setting.id && w.roundNumber == some round.number
      Prize.distribute (.finite (Decimal.ofPennies setting.amount)) rows.length =
        .ok (rows.map fun w => Decimal.ofPennies w.amount) := by
  intro h
  have hshared := h dearTie ((Prize.processPrizes 1 1 .newYear2025).storeAfter dearTie) 1 1
    .newYear2025 ⟨1, 1, 1, .newYear2025, .newYear2025, .completed, some .newYear2025⟩
    ⟨1, "2025", .newYear2025, .june2025, 2⟩
    [⟨1, 10, 1, 333333333333333350, some 1, none, .newYear2025⟩,
      ⟨2, 11, 1, 333333333333333350, some 1, none, .newYear2025⟩,
      ⟨3, 12, 1, 333333333333333350, some 1, none, .newYear2025⟩]
    (by decide) rfl rfl (by decide +kernel) ⟨1, 1, .round, 1, 1000000000000000000, none⟩
    List.mem_cons_self rfl rfl (by decide)
  exact absurd hshared (by decide +kernel)

end PredictionLeague
