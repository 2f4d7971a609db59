import PredictionLeague.Proofs.Snapshots

/-!
# Members who joined late

Ranks over the season are made when points are shown, for the members of that time. A member who
was approved since has no stats before the next round starts, so its snapshot is taken of fresh
stats, in which everybody is first. The snapshots of all others count only members with stats, which
is enough: who joined late has no points yet, and nobody ranks below a member without points.

* `Store.seasonPoints`, `Store.seasonRank`: points and rank over a season;
* `Store.RankedBefore`: a league whose members were ranked before some of them joined;
* `Store.Joined`, `Joined.rankedBefore`: showing points and approving members leaves such a
  league;
* `RankedBefore.rank_of_stats`, `RankedBefore.rank_of_late_iff`: which ranks are still right;
* `takeSnapshots_late`: the snapshots of such a league.
-/

namespace PredictionLeague

open Engine

namespace Store

/-- The points of a player of a league over a season. -/
def seasonPoints (s : Store) (seasonId leagueId userId : Int) : Int :=
  s.pointsOver leagueId ((s.roundsOf seasonId).map (·.id)) userId

/-- The rank of a member over a season, among all approved members of the league. -/
def seasonRank (s : Store) (seasonId leagueId userId : Int) : Nat :=
  s.memberRank leagueId (s.seasonPoints seasonId leagueId) userId

/-- Whether a player has no stats in a league. -/
def isLate (s : Store) (leagueId userId : Int) : Bool := (s.statsOf leagueId userId).isEmpty

/-- A league whose members with stats were ranked over the season among themselves. Points are not
negative, and members without stats have no results. -/
structure RankedBefore (s : Store) (seasonId : Int) (league : League) : Prop where
  ranks : ∀ userId, s.isMember league.id userId = true → ∀ row ∈ s.statsOf league.id userId,
    row.overallRank = 1 + (s.approvedMembers league.id).countP fun other =>
      !s.isLate league.id other && decide (s.seasonPoints seasonId league.id userId <
        s.seasonPoints seasonId league.id other)
  points : ∀ userId, s.isMember league.id userId = true →
    0 ≤ s.seasonPoints seasonId league.id userId
  late : ∀ userId, s.isMember league.id userId = true → s.isLate league.id userId = true →
    ∀ r ∈ s.leagueResults, r.leagueId = league.id → r.userId ≠ userId

/-- Members of a league are approved, and nothing but memberships changes. Those who are have
neither stats nor results in the league. -/
structure Joined (s t : Store) (leagueId : Int) : Prop where
  rest : t = { s with members := t.members }
  kept : ∀ userId, s.isMember leagueId userId = true → t.isMember leagueId userId = true
  late : ∀ userId, s.isMember leagueId userId = false → t.isMember leagueId userId = true →
    s.isLate leagueId userId = true ∧
      ∀ r ∈ s.leagueResults, r.leagueId = leagueId → r.userId ≠ userId

variable {s t : Store} {round : Round} {league : League} {seasonId leagueId userId : Int}

/-! ### Ranks among members with stats -/

theorem seasonPoints_eq_zero
    (h : ∀ r ∈ s.leagueResults, r.leagueId = leagueId → r.userId ≠ userId) :
    s.seasonPoints seasonId leagueId userId = 0 := by
  have hnone : (s.resultsOf leagueId).filter (fun r => r.userId == userId &&
      ((s.roundsOf seasonId).map (·.id)).contains r.roundId) = [] := by
    refine List.filter_eq_nil_iff.2 fun r hr => ?_
    obtain ⟨hr, hleague⟩ := List.mem_filter.1 hr
    simp [h r hr (beq_iff_eq.1 hleague)]
  rw [seasonPoints, pointsOver, hnone]
  rfl

/-- A member without stats has no points over the season. -/
theorem RankedBefore.points_of_late (h : s.RankedBefore seasonId league)
    (hmember : s.isMember league.id userId = true) (hlate : s.isLate league.id userId = true) :
    s.seasonPoints seasonId league.id userId = 0 :=
  seasonPoints_eq_zero (h.late userId hmember hlate)

/-- The ranks of members with stats are right for the whole league: who joined late has no points,
and so is above nobody. -/
theorem RankedBefore.rank_of_stats (h : s.RankedBefore seasonId league)
    (hmember : s.isMember league.id userId = true) {row : MemberStats}
    (hrow : row ∈ s.statsOf league.id userId) :
    row.overallRank = s.seasonRank seasonId league.id userId := by
  rw [h.ranks userId hmember row hrow, seasonRank, memberRank, Int.natCast_add]
  refine congrArg (fun n : Nat => (1 + n : Int)) (List.countP_congr fun other hother => ?_)
  simp only [Bool.and_eq_true, Bool.not_eq_true', decide_eq_true_eq, and_iff_right_iff_imp]
  intro habove
  by_contra hlate
  have hpoints := h.points_of_late (mem_approvedMembers.1 hother)
    (Bool.eq_true_of_not_eq_false hlate)
  have hnonneg := h.points userId hmember
  omega

/-- Who joined late is first when no member has points, and only then. -/
theorem RankedBefore.rank_of_late_iff (h : s.RankedBefore seasonId league)
    (hmember : s.isMember league.id userId = true) (hlate : s.isLate league.id userId = true) :
    s.seasonRank seasonId league.id userId = 1 ↔
      ∀ other, s.isMember league.id other = true →
        s.seasonPoints seasonId league.id other = 0 := by
  rw [seasonRank, memberRank, h.points_of_late hmember hlate, Nat.add_eq_left,
    List.countP_eq_zero]
  constructor
  · intro hnone other hother
    have hle := hnone other (mem_approvedMembers.2 hother)
    have hnonneg := h.points other hother
    rw [decide_eq_true_eq] at hle
    omega
  · intro hzero other hother
    rw [hzero other (mem_approvedMembers.1 hother)]
    exact of_decide_eq_false rfl

/-! ### Showing points, and approving members -/

/-- Showing points gives every member stats with its rank over the season. -/
theorem Keyed.statsOf_live (hs : s.Keyed) (hleague : league ∈ s.leaguesOf round.seasonId)
    (hmember : s.isMember league.id userId = true) :
    ∃ row, (s.shown round).statsOf league.id userId = [row] ∧
      row.overallRank = s.seasonRank round.seasonId league.id userId := by
  have hfigures : (s.shown round).figuresOf league.id userId =
      [s.liveFigures round league.id userId] :=
    hs.figuresOf_live round (hs.leagues.filter _).nodup_ids hleague hmember
  rw [figuresOf_eq, List.map_eq_singleton_iff, hs.liveFigures_eq round hmember] at hfigures
  obtain ⟨row, hrow, hlive⟩ := hfigures
  exact ⟨row, hrow, congrArg LiveFigures.overallRank hlive⟩

/-- When players are approved after points were shown, the members with stats are those from
before. -/
theorem Joined.member_iff (h : (s.shown round).Joined t league.id) (hs : s.Keyed)
    (hleague : league ∈ s.leaguesOf round.seasonId) :
    t.isMember league.id userId = true ∧ t.isLate league.id userId = false ↔
      s.isMember league.id userId = true := by
  have hstats : t.statsOf league.id userId = (s.shown round).statsOf league.id userId := by
    rw [h.rest]
    rfl
  have hmembers : (s.shown round).isMember league.id userId = s.isMember league.id userId := by
    obtain ⟨stats, hshown⟩ := s.exists_shown round
    rw [hshown]
    rfl
  rw [isLate, hstats, ← hmembers]
  constructor
  · rintro ⟨hmember, hsome⟩
    by_contra hnot
    have hlate := (h.late userId (Bool.eq_false_of_not_eq_true hnot) hmember).1
    rw [isLate, hsome] at hlate
    exact Bool.false_ne_true hlate
  · intro hmember
    obtain ⟨row, hrow, -⟩ := hs.statsOf_live hleague (hmembers ▸ hmember)
    exact ⟨h.kept userId hmember, by rw [hrow]; rfl⟩

/-- When points are shown and members are approved after that, the league was ranked before these
joined. -/
theorem Joined.rankedBefore (h : (s.shown round).Joined t league.id) (hs : s.Keyed) (ht : t.Keyed)
    (hleague : league ∈ s.leaguesOf round.seasonId)
    (hpoints : ∀ userId, t.isMember league.id userId = true →
      0 ≤ t.seasonPoints round.seasonId league.id userId) :
    t.RankedBefore round.seasonId league := by
  have hstats (userId : Int) :
      t.statsOf league.id userId = (s.shown round).statsOf league.id userId := by
    rw [h.rest]
    rfl
  obtain ⟨stats, hshown⟩ := s.exists_shown round
  have hsame : t.seasonPoints round.seasonId league.id =
      s.seasonPoints round.seasonId league.id := by
    rw [h.rest, hshown]
    rfl
  refine ⟨fun userId hmember row hrow => ?_, hpoints, fun userId hmember hlate => ?_⟩
  · have hearly : s.isMember league.id userId = true := by
      refine (h.member_iff hs hleague).1 ⟨hmember, ?_⟩
      rw [isLate, List.isEmpty_eq_false_iff]
      exact List.ne_nil_of_mem hrow
    obtain ⟨row', hrow', hrank⟩ := hs.statsOf_live hleague hearly
    rw [hstats, hrow', List.mem_singleton] at hrow
    have hperm : ((t.approvedMembers league.id).filter fun other =>
        !t.isLate league.id other).Perm (s.approvedMembers league.id) := by
      refine (List.perm_ext_iff_of_nodup ((ht.approvedMembers_nodup league.id).filter _)
        (hs.approvedMembers_nodup league.id)).2 fun other => ?_
      rw [List.mem_filter, mem_approvedMembers, mem_approvedMembers, Bool.not_eq_true',
        h.member_iff hs hleague]
    rw [hrow, hrank, seasonRank, memberRank, Int.natCast_add, ← hperm.countP_eq,
      List.countP_filter, hsame]
    simp only [Bool.and_comm]
    rfl
  · have hlater : (s.shown round).isMember league.id userId = false := by
      refine Bool.eq_false_of_not_eq_true fun hearly => ?_
      have hsome := ((h.member_iff hs hleague).2 (by rw [hshown] at hearly; exact hearly)).2
      exact Bool.false_ne_true (hsome.symm.trans hlate)
    have hresults := (h.late userId hlater hmember).2
    rw [h.rest]
    exact hresults

/-! ### Snapshots -/

/-- The snapshot of a member without stats is one of fresh stats. -/
theorem Keyed.overall_snapshots_late (hs : s.Keyed) (hleague : league ∈ s.leaguesOf round.seasonId)
    (hmember : s.isMember league.id userId = true) (hlate : s.isLate league.id userId = true) :
    (((s.leaguesOf round.seasonId).foldl snapshotLeague s).frozenOf league.id userId).map
      Ranks.overall = [some 1] := by
  obtain ⟨stats, id, hown⟩ := hs.exists_statsOf_new hleague leagueUpdate_snapshot
    snapshotLeague_eq (fun _ => key_snapshotRow) hmember (List.isEmpty_iff.1 hlate)
  have hid : (MemberStats.fresh league.id userId id).leagueId = league.id := rfl
  rw [frozenOf, hown, List.map_singleton, List.map_singleton, snapshotRow,
    if_pos (beq_iff_eq.2 hid)]
  rfl

/-- The snapshot of a member with stats is its rank in them. -/
theorem Keyed.overall_snapshots (hs : s.Keyed) (hleague : league ∈ s.leaguesOf round.seasonId)
    {row : MemberStats} (hrow : s.statsOf league.id userId = [row]) :
    (((s.leaguesOf round.seasonId).foldl snapshotLeague s).frozenOf league.id userId).map
      Ranks.overall = [some row.overallRank] := by
  have hid : row.leagueId = league.id :=
    (mem_statsOf.1 (hrow ▸ List.mem_singleton_self row)).2.1
  rw [frozenOf, hs.statsOf_snapshots hleague hid hrow, List.map_singleton, List.map_singleton,
    MemberStats.frozen_snapshot]
  rfl

/-- A member without stats is shown first, every other member as it ranks in the whole league. -/
theorem RankedBefore.overall_snapshots (h : s.RankedBefore round.seasonId league) (hs : s.Keyed)
    (hleague : league ∈ s.leaguesOf round.seasonId)
    (hmember : s.isMember league.id userId = true) :
    (((s.leaguesOf round.seasonId).foldl snapshotLeague s).frozenOf league.id userId).map
      Ranks.overall = [some (if s.isLate league.id userId then 1
        else (s.seasonRank round.seasonId league.id userId : Int))] := by
  cases hlate : s.isLate league.id userId with
  | true => exact hs.overall_snapshots_late hleague hmember hlate
  | false =>
    obtain ⟨row, hrow⟩ := List.exists_mem_of_ne_nil _ (List.isEmpty_eq_false_iff.1 hlate)
    obtain ⟨hstored, hid, huser⟩ := mem_statsOf.1 hrow
    have hrows := hs.statsOf_of_mem hstored
    rw [hid, huser] at hrows
    rw [hs.overall_snapshots hleague hrows, h.rank_of_stats hmember hrow]
    rfl

end Store

open Store

/-- When a round starts in a league whose members were ranked before some of them joined, every
member with stats has the snapshot of its rank over the season, one more than the number of approved
members with strictly more points, and every member without has that of the first rank. This is its
rank when no member has points, and only then. -/
theorem takeSnapshots_late {s : Store} {roundId : Int} {round : Round} {league : League}
    (hs : s.Keyed) (hkey : fits roundId = true) (hround : s.round? roundId = some round)
    (hleague : league ∈ s.leaguesOf round.seasonId)
    (hranked : s.RankedBefore round.seasonId league) :
    ∃ n t, (takeSnapshots roundId).Returns s n t ∧
      ∀ userId, s.isMember league.id userId = true →
        (t.frozenOf league.id userId).map Ranks.overall =
            [some (if s.isLate league.id userId then 1
              else (s.seasonRank round.seasonId league.id userId : Int))] ∧
          ((t.frozenOf league.id userId).map Ranks.overall =
              [some (s.seasonRank round.seasonId league.id userId : Int)] ↔
            s.isLate league.id userId = false ∨ ∀ other, s.isMember league.id other = true →
              s.seasonPoints round.seasonId league.id other = 0) := by
  refine ⟨_, _, returns_takeSnapshots.2 ⟨round, ⟨hkey, hround⟩, rfl, rfl⟩, fun userId hmember => ?_⟩
  have hsnapshot := hranked.overall_snapshots hs hleague hmember
  refine ⟨hsnapshot, ?_⟩
  rw [hsnapshot]
  cases hlate : s.isLate league.id userId with
  | false => simp
  | true =>
    have hfirst : (1 : Int) = s.seasonRank round.seasonId league.id userId ↔
        s.seasonRank round.seasonId league.id userId = 1 := by omega
    rw [← hranked.rank_of_late_iff hmember hlate]
    simp [hfirst]

/-- A round was completed with points of player 10; the next one is published. -/
def shownStore : Store :=
  { Store.empty with
    rounds := [⟨1, 1, 1, .newYear2025, .newYear2025, .completed, some .newYear2025⟩,
      ⟨2, 1, 2, .newYear2025, .newYear2025, .published, none⟩]
    leagues := [⟨1, 1, .newYear2025, 5, 3, 0⟩]
    members := [⟨1, 1, 10, .approved⟩]
    leagueResults := [⟨1, 1, 1, 10, 5, 5, false, none, 1⟩] }

/-- Player 11 is approved after the points were shown. -/
def joinedStore : Store :=
  { (updateLiveStats 1).storeAfter shownStore with
    members := [⟨1, 1, 10, .approved⟩, ⟨2, 1, 11, .approved⟩] }

theorem joinedStore_rankedBefore :
    joinedStore.Keyed ∧ joinedStore.RankedBefore 1 ⟨1, 1, .newYear2025, 5, 3, 0⟩ := by
  let round : Round := ⟨1, 1, 1, .newYear2025, .newYear2025, .completed, some .newYear2025⟩
  let league : League := ⟨1, 1, .newYear2025, 5, 3, 0⟩
  have hkeyed : joinedStore.Keyed := by decide +kernel
  have hlive : (updateLiveStats 1).Returns shownStore 1 (shownStore.shown round) :=
    returns_updateLiveStats.2 ⟨round, ⟨by decide, rfl⟩, rfl, rfl⟩
  have hmembers (userId : Int) (hmember : joinedStore.isMember 1 userId = true) :
      userId = 10 ∨ userId = 11 := by
    have hsome : [(⟨1, 1, 10, .approved⟩ : Membership), ⟨2, 1, 11, .approved⟩].any (fun m =>
        m.leagueId == 1 && m.userId == userId && m.status == .approved) = true := hmember
    have heither : 10 = userId ∨ 11 = userId := by simpa using hsome
    exact heither.imp Eq.symm Eq.symm
  have hjoined : (shownStore.shown round).Joined joinedStore league.id := by
    refine ⟨by rw [joinedStore, hlive.storeAfter], fun userId hmember => ?_,
      fun userId hnot hmember => ?_⟩
    · obtain ⟨stats, hshown⟩ := shownStore.exists_shown round
      rw [hshown] at hmember
      have hsome : [(⟨1, 1, 10, .approved⟩ : Membership)].any (fun m =>
          m.leagueId == 1 && m.userId == userId && m.status == .approved) = true := hmember
      obtain rfl : 10 = userId := by simpa using hsome
      decide +kernel
    · obtain rfl | rfl := hmembers userId hmember
      · exact absurd hnot (by decide +kernel)
      · exact ⟨by decide +kernel, by decide +kernel⟩
  have hshown : shownStore.Keyed := by decide
  have hranked : joinedStore.RankedBefore round.seasonId league := by
    refine hjoined.rankedBefore hshown hkeyed List.mem_cons_self fun userId hmember => ?_
    obtain rfl | rfl := hmembers userId hmember <;> decide +kernel
  exact ⟨hkeyed, hranked⟩

theorem late_member_is_first :
    joinedStore.Keyed ∧ joinedStore.RankedBefore 1 ⟨1, 1, .newYear2025, 5, 3, 0⟩ ∧
      joinedStore.seasonRank 1 1 11 = 2 ∧
      ∃ n t, (takeSnapshots 2).Returns joinedStore n t ∧
        (t.frozenOf 1 10).map Ranks.overall = [some 1] ∧
        (t.frozenOf 1 11).map Ranks.overall = [some 1] := by
  obtain ⟨hkeyed, hranked⟩ := joinedStore_rankedBefore
  have hkey : fits 2 = true := by decide
  have hround : joinedStore.round? 2 =
      some ⟨2, 1, 2, .newYear2025, .newYear2025, .published, none⟩ := by decide +kernel
  obtain ⟨n, t, hreturns, hsnapshots⟩ :=
    takeSnapshots_late hkeyed hkey hround (by decide +kernel) hranked
  refine ⟨hkeyed, hranked, by decide +kernel, n, t, hreturns, ?_, ?_⟩
  · exact (hsnapshots 10 (by decide +kernel)).1.trans (by decide +kernel)
  · exact (hsnapshots 11 (by decide +kernel)).1.trans (by decide +kernel)

theorem late_member_shown_too_high : ¬∀ (s t : Store) (roundId : Int) (round : Round)
    (league : League) (n : Nat), s.Keyed → s.round? roundId = some round →
      league ∈ s.leaguesOf round.seasonId → s.RankedBefore round.seasonId league →
      (takeSnapshots roundId).Returns s n t →
      ∀ userId, s.isMember league.id userId = true →
        (t.frozenOf league.id userId).map Ranks.overall =
          [some (s.seasonRank round.seasonId league.id userId : Int)] := by
  intro h
  obtain ⟨hkeyed, hranked⟩ := joinedStore_rankedBefore
  have hwrong := h joinedStore ((takeSnapshots 2).storeAfter joinedStore) 2
    ⟨2, 1, 2, .newYear2025, .newYear2025, .published, none⟩ ⟨1, 1, .newYear2025, 5, 3, 0⟩ 1 hkeyed
    (by decide +kernel) (by decide +kernel) hranked (by decide +kernel) 11 (by decide +kernel)
  exact absurd hwrong (by decide +kernel)

end PredictionLeague
