import PredictionLeague.Proofs.Settlement

/-!
# The prizes at the end of a season

Who should be paid for the ranks and the exact scores of a season, going by given results of the
leagues, and who is paid when the awards of its last round are recorded.

* `Store.SeasonPrize`: the settings that are paid at the end of a season;
* `Store.Deserves`: who should be paid, by ranks and totals over given results;
* `Store.PaysSeason`: the prizes of a season are paid to those who should be;
* `Keyed.mem_winners`: the winners are those who should be paid by the results of the store;
* `Keyed.exists_seasonAward`: the award of the last round that pays a season prize;
* `Keyed.paid_seasonPrize`: the winners are paid when the awards of the last round are recorded.
-/

namespace PredictionLeague

namespace Store

/-! ### What should be paid -/

/-- A figure of a player added up over results of a league. -/
def totalOver (results : List LeagueResult) (figure : LeagueResult → Int) (leagueId userId : Int) :
    Int :=
  ((results.filter fun r => r.leagueId == leagueId && r.userId == userId).map figure).sum

/-- The rank of a player of a league by points: one more than the number of approved members with
strictly more. -/
def rankOver (s : Store) (results : List LeagueResult) (leagueId userId : Int) : Nat :=
  1 + (s.approvedMembers leagueId).countP fun other =>
    totalOver results (·.boostedPoints) leagueId userId <
      totalOver results (·.boostedPoints) leagueId other

/-- The settings that are paid at the end of a season: the rank prizes of its leagues, and in each
league the first of the prizes for most exact scores, by rank and then by id. -/
structure SeasonPrize (s : Store) (seasonId : Int) (setting : PrizeSetting) : Prop where
  stored : setting ∈ s.prizeSettings
  league : ∃ league ∈ s.leaguesOf seasonId, league.id = setting.leagueId
  kind : setting.kind = .overall ∨ setting.kind = .mostExactScores ∧
    ∀ other ∈ s.prizeSettings, other.leagueId = setting.leagueId → other.kind = .mostExactScores →
      setting.rank < other.rank ∨ setting.rank = other.rank ∧ setting.id ≤ other.id

/-- A player should be paid a season prize: an approved member on the rank of the prize, or one with
the most exact scores if there are any. -/
def Deserves (s : Store) (results : List LeagueResult) (setting : PrizeSetting) (userId : Int) :
    Prop :=
  s.isMember setting.leagueId userId = true ∧
    if setting.kind = .overall then
      (s.rankOver results setting.leagueId userId : Int) = setting.rank
    else
      totalOver results (·.exactScores) setting.leagueId userId ≠ 0 ∧
        ∀ other, s.isMember setting.leagueId other = true →
          totalOver results (·.exactScores) setting.leagueId other ≤
            totalOver results (·.exactScores) setting.leagueId userId

/-- The players with a winning of a setting. -/
def paidPlayers (s : Store) (setting : PrizeSetting) : List Int :=
  (s.winnings.filter (·.settingId == setting.id)).map (·.userId)

/-- Every prize of a season is paid exactly to those who should be paid by the given results, with
one winning each. -/
def PaysSeason (s : Store) (seasonId : Int) (results : List LeagueResult) : Prop :=
  ∀ setting, s.SeasonPrize seasonId setting → (s.paidPlayers setting).Nodup ∧
    ∀ userId, userId ∈ s.paidPlayers setting ↔ s.Deserves results setting userId

variable {s : Store}

/-! ### Totals -/

theorem totalOver_of_perm {results results' : List LeagueResult} (h : results.Perm results')
    (figure : LeagueResult → Int) (leagueId userId : Int) :
    totalOver results figure leagueId userId = totalOver results' figure leagueId userId :=
  ((h.filter _).map figure).sum_eq

theorem deserves_of_perm {results results' : List LeagueResult} (h : results.Perm results')
    (setting : PrizeSetting) (userId : Int) :
    s.Deserves results setting userId ↔ s.Deserves results' setting userId := by
  simp only [Deserves, rankOver, totalOver_of_perm h]

/-- The totals of the standings are the totals over the results of the store. -/
theorem total_standings (figure : RoundScore → Int) (leagueId userId : Int) :
    (s.standings leagueId).total figure userId = totalOver s.leagueResults
      (fun r => figure ⟨r.userId, r.roundId, r.boostedPoints, r.exactScores⟩) leagueId userId := by
  rw [Standings.total, Standings.sumOf_eq_sum, totalOver]
  show ((((s.resultsOf leagueId).map _).filter _).map figure).sum = _
  rw [List.filter_map, List.map_map, resultsOf, List.filter_filter]
  simp only [Function.comp_def, Bool.and_comm]

theorem mem_players {leagueId userId : Int} :
    userId ∈ (s.standings leagueId).players ↔ s.isMember leagueId userId = true := by
  rw [Standings.players, List.mem_eraseDups, ← mem_approvedMembers]
  exact mem_ascending

theorem Keyed.players_perm (hs : s.Keyed) (leagueId : Int) :
    (s.standings leagueId).players.Perm (s.approvedMembers leagueId) :=
  (List.perm_ext_iff_of_nodup (nodup_eraseDups _) (hs.approvedMembers_nodup leagueId)).2
    fun _ => mem_players.trans mem_approvedMembers.symm

theorem mem_totals {figure : RoundScore → Int} {leagueId userId x : Int} :
    (userId, x) ∈ (s.standings leagueId).totals figure ↔
      s.isMember leagueId userId = true ∧ x = (s.standings leagueId).total figure userId := by
  simp only [Standings.totals, List.mem_map, Prod.mk.injEq, mem_players]
  constructor
  · rintro ⟨_, hmember, rfl, rfl⟩
    exact ⟨hmember, rfl⟩
  · rintro ⟨hmember, rfl⟩
    exact ⟨userId, hmember, rfl, rfl⟩

/-- The top scorers of the standings are the members with the most of a figure, if there is any. -/
theorem mem_topScorers_totals {figure : RoundScore → Int} {leagueId userId : Int} :
    userId ∈ Standings.topScorers ((s.standings leagueId).totals figure) ↔
      s.isMember leagueId userId = true ∧ (s.standings leagueId).total figure userId ≠ 0 ∧
        ∀ other, s.isMember leagueId other = true → (s.standings leagueId).total figure other ≤
          (s.standings leagueId).total figure userId := by
  simp only [Standings.mem_topScorers, mem_totals, Prod.forall, and_imp]
  constructor
  · rintro ⟨x, ⟨hmember, rfl⟩, hzero, htop⟩
    exact ⟨hmember, hzero, fun other hother => htop other _ hother rfl⟩
  · rintro ⟨hmember, hzero, htop⟩
    exact ⟨_, ⟨hmember, rfl⟩, hzero, fun other x hother hx => hx ▸ htop other hother⟩

/-- The winners of a season prize by the standings of a store are those who deserve it by its
results. -/
theorem Keyed.mem_winners (hs : s.Keyed) {round : Round} {setting : PrizeSetting} {kind : PrizeKind}
    (hkind : setting.kind = kind) (hseason : kind = .overall ∨ kind = .mostExactScores)
    (userId : Int) :
    userId ∈ Prize.winners s (s.standings setting.leagueId) round setting kind ↔
      s.Deserves s.leagueResults setting userId := by
  rcases hseason with rfl | rfl
  · -- Ranks count players of the standings, who are the approved members in another order.
    simp only [Prize.winners, Standings.overall, mem_groupAt, mem_totals, Deserves, hkind,
      reduceIte, total_standings, rankOver, competitionRank]
    have hcount (x : Int) : ((s.standings setting.leagueId).totals (·.points)).countP
        (fun p => x < p.2) = (s.approvedMembers setting.leagueId).countP fun other =>
          x < totalOver s.leagueResults (·.boostedPoints) setting.leagueId other := by
      rw [Standings.totals, List.countP_map, (hs.players_perm setting.leagueId).countP_eq]
      simp only [Function.comp_def, total_standings]
    simp only [hcount]
    constructor
    · rintro ⟨x, ⟨hmember, rfl⟩, hrank⟩
      exact ⟨hmember, hrank⟩
    · rintro ⟨hmember, hrank⟩
      exact ⟨_, ⟨hmember, rfl⟩, hrank⟩
  · simp only [Prize.winners, Standings.mostExact, mem_topScorers_totals, Deserves, hkind,
      reduceCtorEq, reduceIte, total_standings]

/-- Two stores by whose results the same players deserve a season prize name the same winners. -/
theorem Keyed.winners_perm {s' : Store} (hs : s.Keyed) (hs' : s'.Keyed) {round : Round}
    {setting : PrizeSetting} (hkind : setting.kind = .overall ∨ setting.kind = .mostExactScores)
    (h : ∀ userId, s'.Deserves s'.leagueResults setting userId ↔
      s.Deserves s.leagueResults setting userId) :
    (Prize.winners s' (s'.standings setting.leagueId) round setting setting.kind).Perm
      (Prize.winners s (s.standings setting.leagueId) round setting setting.kind) := by
  refine (List.perm_ext_iff_of_nodup (Prize.nodup_winners ..) (Prize.nodup_winners ..)).2 ?_
  intro userId
  rw [hs.mem_winners rfl hkind, hs'.mem_winners rfl hkind]
  exact h userId

/-! ### Settings -/

theorem mem_take_one {α : Type} {before : α → α → Prop} {xs : List α} (h : xs.Pairwise before)
    (hasymm : ∀ a b, before a b → ¬before b a) {x : α} :
    x ∈ xs.take 1 ↔ x ∈ xs ∧ ∀ y ∈ xs, x = y ∨ before x y := by
  cases xs with
  | nil => simp
  | cons first xs =>
    obtain ⟨hfirst, -⟩ := List.pairwise_cons.1 h
    rw [List.take_succ_cons, List.take_zero, List.mem_singleton]
    constructor
    · rintro rfl
      exact ⟨List.mem_cons_self, List.forall_mem_cons.2 ⟨.inl rfl, fun y hy => .inr (hfirst y hy)⟩⟩
    · rintro ⟨hx, hall⟩
      rcases hall first List.mem_cons_self with heq | hbefore
      · exact heq
      · rcases List.mem_cons.1 hx with heq | hx
        · exact heq
        · exact absurd (hfirst x hx) (hasymm x first hbefore)

/-- The settings of a league are in the order of their ranks, and of their ids on the same rank. -/
theorem Keyed.pairwise_settingsOf (hs : s.Keyed) (leagueId : Int) :
    (Prize.settingsOf s leagueId).Pairwise fun a b =>
      a.rank < b.rank ∨ a.rank = b.rank ∧ a.id < b.id := by
  have htotal (a b : PrizeSetting) : decide (a.rank ≤ b.rank) ∨ decide (b.rank ≤ a.rank) := by
    simpa using Int.le_total a.rank b.rank
  have htrans (a b c : PrizeSetting) (hab : decide (a.rank ≤ b.rank))
      (hbc : decide (b.rank ≤ c.rank)) : decide (a.rank ≤ c.rank) := by
    simp only [decide_eq_true_eq] at hab hbc ⊢
    omega
  have hstable := stable_sorted htotal htrans (hs.prizeSettings.filter (·.leagueId == leagueId))
  refine hstable.imp fun {a b} hab => ?_
  simp only [decide_eq_true_eq] at hab
  obtain ⟨hrank, hid⟩ := hab
  by_cases heq : a.rank = b.rank
  · exact .inr ⟨heq, hid (by omega)⟩
  · exact .inl (by omega)

/-- Of a kind of prize the first setting is paid, by rank and then by id; of the ranks all are. -/
theorem Keyed.mem_payable (hs : s.Keyed) {leagueId : Int} {kind : PrizeKind}
    {setting : PrizeSetting} :
    setting ∈ Prize.payable ((Prize.settingsOf s leagueId).filter (·.kind == kind)) kind ↔
      setting ∈ s.prizeSettings ∧ setting.leagueId = leagueId ∧ setting.kind = kind ∧
        (kind = .overall ∨ ∀ other ∈ s.prizeSettings, other.leagueId = leagueId →
          other.kind = kind → setting.rank < other.rank ∨
            setting.rank = other.rank ∧ setting.id ≤ other.id) := by
  have hmem (setting : PrizeSetting) :
      setting ∈ (Prize.settingsOf s leagueId).filter (·.kind == kind) ↔
        setting ∈ s.prizeSettings ∧ setting.leagueId = leagueId ∧ setting.kind = kind := by
    rw [List.mem_filter, Prize.mem_settingsOf, beq_iff_eq, and_assoc]
  by_cases hoverall : kind = .overall
  · subst hoverall
    simp only [Prize.payable, hmem, true_or, and_true]
  · have hfirst (settings : List PrizeSetting) : Prize.payable settings kind = settings.take 1 := by
      cases kind <;> first | rfl | exact absurd rfl hoverall
    have hpairwise := (hs.pairwise_settingsOf leagueId).filter (·.kind == kind)
    rw [hfirst, mem_take_one hpairwise fun a b hab hba => by omega]
    simp only [hmem, hoverall, false_or, and_imp, and_assoc]
    refine and_congr_right fun hsetting => and_congr_right fun hleague => and_congr_right fun _ =>
      forall₄_congr fun other hother hother' _ => ?_
    -- Settings with the same rank and id are the same setting.
    constructor
    · rintro (rfl | hlt | ⟨hrank, hid⟩)
      · exact .inr ⟨rfl, by omega⟩
      · exact .inl hlt
      · exact .inr ⟨hrank, by omega⟩
    · rintro (hlt | ⟨hrank, hid⟩)
      · exact .inr (.inl hlt)
      · by_cases hsame : setting.id = other.id
        · exact .inl (hs.prizeSettings.eq_of_id_eq hsetting hother hsame)
        · exact .inr (.inr ⟨hrank, by omega⟩)

/-- The season prizes are the settings that are paid at the end of the season. -/
theorem Keyed.seasonPrize_iff (hs : s.Keyed) {seasonId : Int} {setting : PrizeSetting} :
    s.SeasonPrize seasonId setting ↔
      (∃ league ∈ s.leaguesOf seasonId, league.id = setting.leagueId) ∧
        (setting.kind = .overall ∨ setting.kind = .mostExactScores) ∧
          setting ∈ Prize.payable ((Prize.settingsOf s setting.leagueId).filter
            (·.kind == setting.kind)) setting.kind := by
  constructor
  · rintro ⟨hstored, hleague, hkind⟩
    have hseason := hkind.imp_right And.left
    refine ⟨hleague, hseason, hs.mem_payable.2 ⟨hstored, rfl, rfl, ?_⟩⟩
    rcases hkind with hoverall | ⟨hexact, hfirst⟩
    · exact .inl hoverall
    · exact .inr fun other hother hsame hkind => hfirst other hother hsame (hkind.trans hexact)
  · rintro ⟨hleague, hseason, hpayable⟩
    obtain ⟨hstored, -, -, hfirst⟩ := hs.mem_payable.1 hpayable
    refine ⟨hstored, hleague, ?_⟩
    rcases hseason with hoverall | hexact
    · exact .inl hoverall
    · refine .inr ⟨hexact, fun other hother hsame hkind => ?_⟩
      rcases hfirst with hoverall | hfirst
      · rw [hexact] at hoverall
        exact absurd hoverall (by simp)
      · exact hfirst other hother hsame (hkind.trans hexact.symm)

/-! ### The awards of a setting -/

/-- Only the award of its own league and kind pays a setting, and only when its kind is due. -/
theorem Keyed.award_of_setting (hs : s.Keyed) {round : Round} {as : List Prize.Award}
    (h : s.roundAwards round = .ok as) {setting : PrizeSetting}
    (hsetting : setting ∈ s.prizeSettings) {award : Prize.Award} (haward : award ∈ as)
    (hid : setting.id ∈ award.settingIds) :
    Prize.due s round (s.season? round.seasonId) setting.kind = true ∧
      award = Prize.awardOf s (s.standings setting.leagueId) round setting.kind
        ((Prize.settingsOf s setting.leagueId).filter (·.kind == setting.kind)) := by
  obtain ⟨league, -, kind, hkind, rfl⟩ := (mem_roundAwards h).1 haward
  obtain ⟨other, hother, hsame⟩ := List.mem_map.1 hid
  obtain ⟨hother, hotherKind⟩ := List.mem_filter.1 hother
  obtain ⟨hother, hleague⟩ := Prize.mem_settingsOf.1 hother
  obtain rfl : other = setting := hs.prizeSettings.eq_of_id_eq hother hsetting hsame
  obtain rfl := beq_iff_eq.1 hotherKind
  rw [hleague]
  have hdue := (List.mem_filter.1 hkind).2
  exact ⟨(Bool.and_eq_true_iff.1 hdue).2, rfl⟩

theorem exists_last {α : Type} {p : α → Prop} {xs : List α} (h : ∃ x ∈ xs, p x) :
    ∃ before x after, xs = before ++ x :: after ∧ p x ∧ ∀ y ∈ after, ¬p y := by
  induction xs with
  | nil =>
    obtain ⟨x, hx, -⟩ := h
    exact absurd hx (by simp)
  | cons x xs ih =>
    by_cases hrest : ∃ y ∈ xs, p y
    · obtain ⟨before, y, after, rfl, hy, hafter⟩ := ih hrest
      exact ⟨x :: before, y, after, rfl, hy, hafter⟩
    · obtain ⟨y, hy, hpy⟩ := h
      rcases List.mem_cons.1 hy with rfl | hy
      · exact ⟨[], y, xs, rfl, hpy, fun z hz hpz => hrest ⟨z, hz, hpz⟩⟩
      · exact absurd ⟨y, hy, hpy⟩ hrest

/-- The awards of the last round of a season hold one of each season prize, which pays the prize to
its winners; no award after it is about the prize. -/
theorem Keyed.exists_seasonAward (hs : s.Keyed) {last : Round} {as : List Prize.Award}
    (h : s.roundAwards last = .ok as)
    (hlast : (s.season? last.seasonId).any (Prize.isLastRound · last) = true)
    {setting : PrizeSetting} (hprize : s.SeasonPrize last.seasonId setting) :
    ∃ front award back, as = front ++ award :: back ∧ setting.id ∈ award.settingIds ∧
      (∀ other ∈ back, setting.id ∉ other.settingIds) ∧ award.period = .season ∧
      (award.payments.filter (·.settingId == setting.id)).map (·.userId) =
        ascending (Prize.winners s (s.standings setting.leagueId) last setting setting.kind) := by
  obtain ⟨⟨league, hleague, hid⟩, hseason, hpayable⟩ := hs.seasonPrize_iff.1 hprize
  have hdue : Prize.due s last (s.season? last.seasonId) setting.kind = true := by
    rcases hseason with hkind | hkind <;> rw [hkind] <;> exact hlast
  have hmem := (Prize.payable_sublist _ _).subset hpayable
  have hkind : setting.kind ∈ Prize.dueKinds s (Prize.settingsOf s league.id) last
      (s.season? last.seasonId) := by
    refine List.mem_filter.2 ⟨by cases setting.kind <;> decide, ?_⟩
    rw [hdue, Bool.and_true, Bool.not_eq_true', List.isEmpty_eq_false_iff, hid]
    exact List.ne_nil_of_mem hmem
  have hexists : ∃ award ∈ as, setting.id ∈ award.settingIds := by
    refine ⟨_, (mem_roundAwards h).2 ⟨league, hleague, setting.kind, hkind, rfl⟩, ?_⟩
    rw [hid]
    exact List.mem_map_of_mem hmem
  -- The last award of the prize is the one that counts.
  obtain ⟨front, award, back, rfl, haward, hback⟩ := exists_last hexists
  obtain ⟨-, hsame⟩ := hs.award_of_setting h hprize.stored
    (List.mem_append_right _ List.mem_cons_self) haward
  refine ⟨front, award, back, rfl, haward, hback, ?_, ?_⟩
  · rw [hsame]
    rcases hseason with hkind | hkind <;> rw [hkind] <;> rfl
  · obtain ⟨lists, hlists, -⟩ := bind_eq_ok.1 h
    obtain ⟨list, -, hlist⟩ := (mem_of_mapM_ok hlists).2 league hleague
    rw [leagueAwards, hid] at hlist
    rw [hsame, Prize.filter_payments_awardOf hs.prizeSettings.nodup_ids _ _ _ _ hprize.stored,
      if_pos hpayable]
    exact Prize.users_of_pay (Prize.pay_of_awards_ok hlist hdue hpayable)

/-- When the awards of the last round of a season are recorded, and after them awards that leave the
season prizes alone, a season prize is paid to its winners. -/
theorem Keyed.paid_seasonPrize (hs : s.Keyed) {last : Round} {as after : List Prize.Award}
    (h : s.roundAwards last = .ok as)
    (hlast : (s.season? last.seasonId).any (Prize.isLastRound · last) = true)
    {setting : PrizeSetting} (hprize : s.SeasonPrize last.seasonId setting)
    (hafter : ∀ award ∈ after, setting.id ∉ award.settingIds)
    (hknown : ∀ award ∈ after, award.Known) (before : List Prize.Award) (now : DateTime)
    (winnings : List Winning) :
    (((Prize.recordAwards now winnings (before ++ (as ++ after))).1.filter
        (·.settingId == setting.id)).map (·.userId)) =
      ascending (Prize.winners s (s.standings setting.leagueId) last setting setting.kind) := by
  obtain ⟨front, award, back, rfl, haward, hback, hperiod, husers⟩ :=
    hs.exists_seasonAward h hlast hprize
  have hlater : ∀ other ∈ back ++ after, other.Known := by
    refine List.forall_mem_append.2 ⟨fun other hother => known_roundAwards h other ?_, hknown⟩
    exact List.mem_append_right _ (List.mem_cons_of_mem _ hother)
  -- What is recorded of a prize is what the last award of it paid.
  have hshares : (Prize.recorded (Prize.recordAwards now winnings ((before ++ front) ++
      award :: (back ++ after))).1 setting.id award.period).map Winning.share =
        (award.payments.filter (·.settingId == setting.id)).map Prize.Payment.share :=
    Prize.shares_recordAwards haward (List.forall_mem_append.2 ⟨hback, hafter⟩) hlater now winnings
  have hfst := congrArg (List.map Prod.fst) hshares
  rw [List.map_map, List.map_map, hperiod] at hfst
  rw [← husers]
  refine Eq.trans ?_ hfst
  simp only [Prize.recorded, Prize.Period.covers, Bool.and_true, List.append_assoc,
    List.cons_append]
  rfl

end Store

end PredictionLeague
