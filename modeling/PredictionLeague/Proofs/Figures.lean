import PredictionLeague.Proofs.Engine
import PredictionLeague.Proofs.Store
import PredictionLeague.Stats

/-!
# Figures of the members

Every update of the stats changes the rows of one league after the other and leaves the other tables
alone; the live one gives each member of a league the figures of its points, whatever its stats
were.

* `Store.liveFigures`: the live figures that a player should have in a league;
* `Store.figuresOf`: those that its stats show;
* `Store.changeStats`: the rows of a league changed, with the missing rows of its members;
* `LeagueUpdate`: an update of one league, and what several of them leave;
* `Keyed.figuresOf_live`: after an update they are the same, for all members of all leagues;
* `returns_takeSnapshots`, `returns_updateStableStats`, `returns_updateLiveStats`: what the updates
  leave.
-/

namespace PredictionLeague

/-- The figures of a member by its present points. -/
structure LiveFigures where
  livePoints : Int
  liveRank : Int
  overallRank : Int
  monthRank : Int
  deriving DecidableEq

/-- The live figures of a stats row. -/
def MemberStats.live (r : MemberStats) : LiveFigures :=
  ⟨r.livePoints, r.liveRank, r.overallRank, r.monthRank⟩

/-- Stats are known by their league and player. -/
def MemberStats.key (r : MemberStats) : Int × Int := (r.leagueId, r.userId)

theorem MemberStats.leagueId_eq {r r' : MemberStats} (h : r'.key = r.key) :
    r'.leagueId = r.leagueId := congrArg Prod.fst h

theorem MemberStats.userId_eq {r r' : MemberStats} (h : r'.key = r.key) : r'.userId = r.userId :=
  congrArg Prod.snd h

namespace Store

/-- The live figures that a player should have in a league when a round is played. -/
def liveFigures (s : Store) (round : Round) (leagueId userId : Int) : LiveFigures :=
  let inRound := s.scoresOver leagueId [round.id]
  { livePoints := (inRound.lookup userId).getD 0
    liveRank := rankOf inRound userId
    overallRank := rankOf (s.scoresOver leagueId ((s.roundsOf round.seasonId).map (·.id))) userId
    monthRank := rankOf (s.scoresOver leagueId ((s.monthOf round).map (·.id))) userId }

/-- The live figures in the stats of a player in a league. -/
def figuresOf (s : Store) (leagueId userId : Int) : List LiveFigures :=
  (Table.rowsOf s.stats (·.leagueId == leagueId) (·.userId) userId).map MemberStats.live

/-- The stats of a player in a league. -/
def statsOf (s : Store) (leagueId userId : Int) : List MemberStats :=
  Table.rowsOf s.stats (·.leagueId == leagueId) (·.userId) userId

/-- The stats of a league with the missing rows of its members, changed row by row. -/
def changeStats (s : Store) (leagueId : Int) (g : MemberStats → MemberStats) : Store :=
  { s with stats := (s.withStats leagueId (s.approvedMembers leagueId)).stats.map g }

variable {s : Store} {leagueId userId : Int} {g : MemberStats → MemberStats}

theorem figuresOf_eq (s : Store) (leagueId userId : Int) :
    s.figuresOf leagueId userId = (s.statsOf leagueId userId).map MemberStats.live := rfl

theorem mem_statsOf {r : MemberStats} :
    r ∈ s.statsOf leagueId userId ↔ r ∈ s.stats ∧ r.leagueId = leagueId ∧ r.userId = userId := by
  simp [statsOf, Table.mem_rowsOf]

/-- The stats of a player are among those of the league. -/
theorem statsOf_congr {s' : Store}
    (h : s'.stats.filter (·.leagueId == leagueId) = s.stats.filter (·.leagueId == leagueId))
    (userId : Int) : s'.statsOf leagueId userId = s.statsOf leagueId userId :=
  Table.rowsOf_of_filter_eq h userId

/-! ### One league -/

theorem Keyed.unique_stats (hs : s.Keyed) (leagueId : Int) :
    Table.Unique s.stats (·.leagueId == leagueId) MemberStats.userId :=
  Table.unique_of_nodup MemberStats.key leagueId (fun _ => rfl) (fun _ => rfl) hs.stats

/-- Stats are the only ones of their player in their league. -/
theorem Keyed.statsOf_of_mem (hs : s.Keyed) {row : MemberStats} (hrow : row ∈ s.stats) :
    s.statsOf row.leagueId row.userId = [row] :=
  (hs.unique_stats row.leagueId).rowsOf_of_mem hrow (beq_self_eq_true row.leagueId)

theorem fresh_stats (leagueId userId id : Int) :
    ((MemberStats.fresh leagueId userId id).leagueId == leagueId) = true ∧
      (MemberStats.fresh leagueId userId id).userId = userId :=
  ⟨beq_self_eq_true leagueId, rfl⟩

section ChangeStats

variable (hs : s.Keyed) (hg : ∀ r, (g r).key = r.key)

include hs hg

theorem Keyed.changeStats : (s.changeStats leagueId g).Keyed := by
  have hkeys : MemberStats.key ∘ g = MemberStats.key := funext hg
  have hnodup : ((s.withStats leagueId (s.approvedMembers leagueId)).stats.map
      MemberStats.key).Nodup :=
    Table.nodup_ensure (hs.approvedMembers_nodup leagueId) (fresh_stats leagueId) MemberStats.key
      leagueId (fun _ => rfl) (fun _ => rfl) hs.stats
  refine { hs with stats := ?_ }
  rw [← hkeys, ← List.map_map] at hnodup
  exact hnodup

omit hs in
theorem statsOf_changeStats_eq (other userId : Int) :
    (s.changeStats leagueId g).statsOf other userId =
      ((s.withStats leagueId (s.approvedMembers leagueId)).statsOf other userId).map g :=
  Table.rowsOf_map g (fun r => by rw [MemberStats.leagueId_eq (hg r)])
    (fun r => MemberStats.userId_eq (hg r)) userId

/-- The stats of a player that has some, or needs none, are changed in their places. -/
theorem Keyed.statsOf_changeStats
    (h : s.isMember leagueId userId = false ∨ s.statsOf leagueId userId ≠ []) :
    (s.changeStats leagueId g).statsOf leagueId userId = (s.statsOf leagueId userId).map g := by
  have hold : userId ∉ s.approvedMembers leagueId ∨ s.statsOf leagueId userId ≠ [] := by
    rw [mem_approvedMembers]
    simpa using h
  rw [statsOf_changeStats_eq hg]
  exact congrArg _ (Table.rowsOf_ensure_old (hs.approvedMembers_nodup leagueId)
    (fresh_stats leagueId) hold)

/-- A member without stats gets fresh ones, changed like all others. -/
theorem Keyed.statsOf_changeStats_new (hmember : s.isMember leagueId userId = true)
    (hnone : s.statsOf leagueId userId = []) : ∃ id,
      (s.changeStats leagueId g).statsOf leagueId userId =
        [g (MemberStats.fresh leagueId userId id)] := by
  obtain ⟨id, hid⟩ := Table.rowsOf_ensure_new (hs.approvedMembers_nodup leagueId)
    (fresh_stats leagueId) (mem_approvedMembers.2 hmember) hnone
  refine ⟨id, ?_⟩
  rw [statsOf_changeStats_eq hg]
  exact congrArg (List.map g) hid

/-- Every member has one row of stats afterwards, a changed one. -/
theorem Keyed.exists_statsOf_changeStats (hmember : s.isMember leagueId userId = true) :
    ∃ row, row.leagueId = leagueId ∧ row.userId = userId ∧
      (s.changeStats leagueId g).statsOf leagueId userId = [g row] := by
  by_cases hnone : s.statsOf leagueId userId = []
  · obtain ⟨id, hid⟩ := hs.statsOf_changeStats_new hg hmember hnone
    exact ⟨_, rfl, rfl, hid⟩
  · obtain ⟨row, hrow⟩ := List.exists_mem_of_ne_nil _ hnone
    obtain ⟨hstored, rfl, rfl⟩ := mem_statsOf.1 hrow
    refine ⟨row, rfl, rfl, ?_⟩
    rw [hs.statsOf_changeStats hg (.inr hnone), hs.statsOf_of_mem hstored, List.map_singleton]

/-- What a change keeps of every row, it keeps of the stats that a player has. -/
theorem Keyed.map_statsOf_changeStats {α : Type} {f : MemberStats → α} {x : α}
    (hf : ∀ r, f (g r) = f r) (h : (s.statsOf leagueId userId).map f = [x]) :
    ((s.changeStats leagueId g).statsOf leagueId userId).map f = [x] := by
  have hsome : s.statsOf leagueId userId ≠ [] := by
    intro hnone
    rw [hnone] at h
    exact absurd h.symm (List.cons_ne_nil _ _)
  rw [← h, hs.statsOf_changeStats hg (.inr hsome), List.map_map]
  exact List.map_congr_left fun r _ => hf r

/-- The stats of other leagues stay as they are. -/
theorem Keyed.filter_changeStats {other : Int} (hne : leagueId ≠ other)
    (hsame : ∀ r, r.leagueId = other → g r = r) :
    (s.changeStats leagueId g).stats.filter (·.leagueId == other) =
      s.stats.filter (·.leagueId == other) := by
  have hadded : (s.withStats leagueId (s.approvedMembers leagueId)).stats.filter
      (·.leagueId == other) = s.stats.filter (·.leagueId == other) :=
    Table.filter_ensure (hs.approvedMembers_nodup leagueId) (fresh_stats leagueId) fun r hr => by
      rw [beq_iff_eq.1 hr]
      exact beq_false_of_ne hne.symm
  have hleague : (fun r => r.leagueId == other) ∘ g = fun r => r.leagueId == other := by
    funext r
    rw [Function.comp_apply, MemberStats.leagueId_eq (hg r)]
  rw [Store.changeStats]
  dsimp only
  rw [List.filter_map, hleague, hadded]
  refine (List.map_congr_left fun r hr => ?_).trans (List.map_id _)
  have hown : (r.leagueId == other) = true := by simpa using List.of_mem_filter hr
  exact hsame r (beq_iff_eq.1 hown)

omit hs hg in
/-- A change that keeps every row changes nothing in a league whose members all have stats. -/
theorem changeStats_eq_self
    (hsome : ∀ userId, s.isMember leagueId userId = true → s.statsOf leagueId userId ≠ [])
    (hsame : ∀ r ∈ s.stats, g r = r) : s.changeStats leagueId g = s := by
  have hpresent : (s.withStats leagueId (s.approvedMembers leagueId)).stats = s.stats :=
    Table.ensure_of_present fun userId hmember => hsome userId (mem_approvedMembers.1 hmember)
  have hrows : s.stats.map g = s.stats := (List.map_congr_left hsame).trans (List.map_id _)
  rw [Store.changeStats, hpresent, hrows]

end ChangeStats

/-! ### All leagues of a round -/

/-- An update of the stats of one league: the other tables and leagues are left alone. -/
structure LeagueUpdate (f : Store → League → Store) : Prop where
  keyed : ∀ {s : Store}, s.Keyed → ∀ league, (f s league).Keyed
  frame : ∀ s league, ∃ stats, f s league = { s with stats }
  others : ∀ {s : Store}, s.Keyed → ∀ {league : League} {other : Int}, league.id ≠ other →
    (f s league).stats.filter (·.leagueId == other) = s.stats.filter (·.leagueId == other)

theorem LeagueUpdate.of_changeStats {f : Store → League → Store}
    (g : Store → League → MemberStats → MemberStats)
    (hf : ∀ s league, f s league = s.changeStats league.id (g s league))
    (hkey : ∀ s league r, (g s league r).key = r.key)
    (hother : ∀ s league r, (r.leagueId == league.id) = false → g s league r = r) :
    LeagueUpdate f where
  keyed hs league := by
    rw [hf]
    exact hs.changeStats (hkey _ league)
  frame s league := ⟨_, hf s league⟩
  others {s} hs {league other} hne := by
    rw [hf]
    refine hs.filter_changeStats (hkey s league) hne fun r hr => hother s league r ?_
    rw [hr]
    exact beq_false_of_ne hne.symm

section Fold

variable {f : Store → League → Store} (hf : LeagueUpdate f)

include hf

omit hf in
/-- An update that leaves every league as it is changes nothing. -/
theorem foldl_eq_self {leagues : List League} (h : ∀ league ∈ leagues, f s league = s) :
    leagues.foldl f s = s := by
  induction leagues with
  | nil => rfl
  | cons league leagues ih =>
    obtain ⟨hfirst, hrest⟩ := List.forall_mem_cons.1 h
    rw [List.foldl_cons, hfirst]
    exact ih hrest

/-- An update of the stats, league by league: the other tables are left alone. -/
theorem LeagueUpdate.exists_foldl (s : Store) (leagues : List League) :
    ∃ stats, leagues.foldl f s = { s with stats } := by
  induction leagues generalizing s with
  | nil => exact ⟨_, rfl⟩
  | cons league leagues ih =>
    obtain ⟨stats, hstats⟩ := hf.frame s league
    obtain ⟨stats', hstats'⟩ := ih (f s league)
    refine ⟨stats', ?_⟩
    rw [List.foldl_cons, hstats', hstats]

theorem LeagueUpdate.keyed_foldl (hs : s.Keyed) (leagues : List League) :
    (leagues.foldl f s).Keyed := by
  induction leagues generalizing s with
  | nil => exact hs
  | cons league leagues ih => exact ih (hf.keyed hs league)

/-- The stats of a league that is not updated stay as they are. -/
theorem LeagueUpdate.foldl_others (hs : s.Keyed) {leagues : List League} {other : Int}
    (hnot : ∀ league ∈ leagues, league.id ≠ other) :
    (leagues.foldl f s).stats.filter (·.leagueId == other) =
      s.stats.filter (·.leagueId == other) := by
  induction leagues generalizing s with
  | nil => rfl
  | cons league leagues ih =>
    obtain ⟨hfirst, hrest⟩ := List.forall_mem_cons.1 hnot
    rw [List.foldl_cons, ih (hf.keyed hs league) hrest, hf.others hs hfirst]

/-- The stats of a league are updated once, from what they were before. -/
theorem LeagueUpdate.foldl_own (hs : s.Keyed) {leagues : List League}
    (hnodup : (leagues.map (·.id)).Nodup) {league : League} (hleague : league ∈ leagues) :
    ∃ stats, { s with stats }.Keyed ∧
      stats.filter (·.leagueId == league.id) = s.stats.filter (·.leagueId == league.id) ∧
      (leagues.foldl f s).stats.filter (·.leagueId == league.id) =
        (f { s with stats } league).stats.filter (·.leagueId == league.id) := by
  induction leagues generalizing s with
  | nil => exact absurd hleague (by simp)
  | cons first leagues ih =>
    obtain ⟨hfirst, hnodup⟩ := List.nodup_cons.1 hnodup
    rw [List.foldl_cons]
    rcases List.mem_cons.1 hleague with rfl | hleague
    · -- The leagues after this one have other ids.
      refine ⟨s.stats, hs, rfl, hf.foldl_others (hf.keyed hs league) ?_⟩
      intro other hother heq
      exact hfirst (List.mem_map.2 ⟨other, hother, heq⟩)
    · have hne : first.id ≠ league.id := by
        intro heq
        exact hfirst (List.mem_map.2 ⟨league, hleague, heq.symm⟩)
      obtain ⟨stats', hstats'⟩ := hf.frame s first
      obtain ⟨stats, hkeyed, hkept, hown⟩ := ih (hf.keyed hs first) hnodup hleague
      rw [hf.others hs hne] at hkept
      rw [hstats'] at hkeyed hown ⊢
      exact ⟨stats, hkeyed, hkept, hown⟩

/-- What an update of its league keeps of the stats of a player, an update of several leagues
keeps. -/
theorem LeagueUpdate.statsOf_foldl {P : List MemberStats → Prop} (hs : s.Keyed)
    (leagues : List League)
    (hkept : ∀ stats, { s with stats }.Keyed → ∀ league : League, league.id = leagueId →
      P ({ s with stats }.statsOf leagueId userId) →
      P ((f { s with stats } league).statsOf leagueId userId))
    (h : P (s.statsOf leagueId userId)) :
    P ((leagues.foldl f s).statsOf leagueId userId) := by
  induction leagues generalizing s with
  | nil => exact h
  | cons league leagues ih =>
    obtain ⟨stats, hstats⟩ := hf.frame s league
    have hkeyed := hf.keyed hs league
    have hrows : P ((f s league).statsOf leagueId userId) := by
      by_cases hid : league.id = leagueId
      · exact hkept s.stats hs league hid h
      · rw [statsOf_congr (hf.others hs hid) userId]
        exact h
    rw [List.foldl_cons]
    rw [hstats] at hkeyed hrows ⊢
    exact ih hkeyed hkept hrows

end Fold

/-! ### The three updates -/

/-- A row of stats when snapshots of a league are taken. -/
def snapshotRow (league : League) (r : MemberStats) : MemberStats :=
  if r.leagueId == league.id then r.snapshot else r

/-- A row of stats when a league is ranked by completed matches. -/
def stableRow (s : Store) (roundId : Int) (league : League) (r : MemberStats) : MemberStats :=
  if r.leagueId == league.id && (s.approvedMembers league.id).contains r.userId then
    { r with
      stablePoints := ((s.stableScores league roundId).lookup r.userId).getD 0
      stableRank := rankOf (s.stableScores league roundId) r.userId }
  else r

/-- A row of stats when a league is ranked by its points. -/
def liveRow (s : Store) (round : Round) (league : League) (r : MemberStats) : MemberStats :=
  if r.leagueId == league.id && (s.approvedMembers league.id).contains r.userId then
    { r with
      livePoints := (s.liveFigures round league.id r.userId).livePoints
      liveRank := (s.liveFigures round league.id r.userId).liveRank
      overallRank := (s.liveFigures round league.id r.userId).overallRank
      monthRank := (s.liveFigures round league.id r.userId).monthRank }
  else r

theorem snapshotLeague_eq (s : Store) (league : League) :
    s.snapshotLeague league = s.changeStats league.id (snapshotRow league) := rfl

theorem stableLeague_eq (s : Store) (roundId : Int) (league : League) :
    s.stableLeague roundId league = s.changeStats league.id (s.stableRow roundId league) := rfl

theorem liveLeague_eq (s : Store) (round : Round) (league : League) :
    s.liveLeague round league = s.changeStats league.id (s.liveRow round league) := rfl

theorem key_snapshotRow (league : League) (r : MemberStats) :
    (snapshotRow league r).key = r.key := by
  unfold snapshotRow
  split <;> rfl

theorem key_stableRow (s : Store) (roundId : Int) (league : League) (r : MemberStats) :
    (s.stableRow roundId league r).key = r.key := by
  unfold stableRow
  split <;> rfl

theorem key_liveRow (s : Store) (round : Round) (league : League) (r : MemberStats) :
    (s.liveRow round league r).key = r.key := by
  unfold liveRow
  split <;> rfl

theorem leagueUpdate_snapshot : LeagueUpdate Store.snapshotLeague :=
  .of_changeStats (fun _ league => snapshotRow league) snapshotLeague_eq
    (fun _ => key_snapshotRow) fun s league r hr => by rw [snapshotRow, hr]; rfl

theorem leagueUpdate_stable (roundId : Int) :
    LeagueUpdate fun s league => s.stableLeague roundId league :=
  .of_changeStats (fun s => s.stableRow roundId) (fun s => s.stableLeague_eq roundId)
    (fun s => s.key_stableRow roundId) fun s league r hr => by rw [stableRow, hr]; rfl

theorem leagueUpdate_live (round : Round) :
    LeagueUpdate fun s league => s.liveLeague round league :=
  .of_changeStats (fun s => s.liveRow round) (fun s => s.liveLeague_eq round)
    (fun s => s.key_liveRow round) fun s league r hr => by rw [liveRow, hr]; rfl

/-- A member of the league gets the figures of its points. -/
theorem Keyed.figuresOf_liveLeague (hs : s.Keyed) (round : Round) (league : League) {userId : Int}
    (hmember : s.isMember league.id userId = true) :
    (s.liveLeague round league).figuresOf league.id userId =
      [s.liveFigures round league.id userId] := by
  -- The member has one row of stats, an old one or a fresh one, and it is given the figures.
  obtain ⟨row, hleague, rfl, hrow⟩ :=
    hs.exists_statsOf_changeStats (s.key_liveRow round league) hmember
  have hpicked : (row.leagueId == league.id &&
      (s.approvedMembers league.id).contains row.userId) = true := by
    rw [hleague, beq_self_eq_true, Bool.true_and, List.contains_iff_mem]
    exact mem_approvedMembers.2 hmember
  rw [figuresOf_eq, liveLeague_eq, hrow, List.map_singleton, liveRow, if_pos hpicked]
  rfl

/-- A league whose members show the figures of their points is left as it is. -/
theorem Keyed.liveLeague_eq_self (hs : s.Keyed) {round : Round} {league : League}
    (h : ∀ userId, s.isMember league.id userId = true →
      s.figuresOf league.id userId = [s.liveFigures round league.id userId]) :
    s.liveLeague round league = s := by
  rw [liveLeague_eq]
  refine changeStats_eq_self (fun userId hmember hnone => ?_) fun r hr => ?_
  · have hfigures := h userId hmember
    rw [figuresOf_eq, hnone] at hfigures
    exact absurd hfigures.symm (List.cons_ne_nil _ _)
  · rw [liveRow]
    split
    · rename_i hpicked
      rw [Bool.and_eq_true, beq_iff_eq, List.contains_iff_mem, mem_approvedMembers] at hpicked
      obtain ⟨hid, hmember⟩ := hpicked
      have hfigures := h r.userId hmember
      rw [← hid, figuresOf_eq, hs.statsOf_of_mem hr, List.map_singleton] at hfigures
      rw [← hid, ← List.head_eq_of_cons_eq hfigures]
      rfl
    · rfl

/-- All members of all leagues get the figures of their points. -/
theorem Keyed.figuresOf_live (hs : s.Keyed) (round : Round) {leagues : List League}
    (hnodup : (leagues.map (·.id)).Nodup) {league : League} (hleague : league ∈ leagues)
    {userId : Int} (hmember : s.isMember league.id userId = true) :
    (leagues.foldl (fun s league => s.liveLeague round league) s).figuresOf league.id userId =
      [s.liveFigures round league.id userId] := by
  obtain ⟨stats, hkeyed, -, hown⟩ := (leagueUpdate_live round).foldl_own hs hnodup hleague
  rw [figuresOf_eq, statsOf_congr hown, ← figuresOf_eq,
    hkeyed.figuresOf_liveLeague round league hmember]
  -- Live figures do not depend on stats.
  rfl

end Store

/-! ### The actions -/

section Returns

open Engine

variable {s s' : Store} {roundId : Int} {n : Nat}

instance (roundId : Int) : Quiet (takeSnapshots roundId) := by
  unfold takeSnapshots
  infer_instance

instance (roundId : Int) : Quiet (updateLiveStats roundId) := by
  unfold updateLiveStats
  infer_instance

instance (roundId : Int) : Quiet (updateStableStats roundId) := by
  unfold updateStableStats
  infer_instance

theorem returns_takeSnapshots : (takeSnapshots roundId).Returns s n s' ↔
    ∃ round, (fits roundId ∧ s.round? roundId = some round) ∧
      n = (s.leaguesOf round.seasonId).length ∧
        s' = (s.leaguesOf round.seasonId).foldl Store.snapshotLeague s := by
  unfold takeSnapshots
  rw [returns_getRound_bind]
  simp only [returns_current_bind, returns_put_bind, returns_say_bind, returns_pure]

theorem returns_updateLiveStats : (updateLiveStats roundId).Returns s n s' ↔
    ∃ round, (fits roundId ∧ s.round? roundId = some round) ∧
      n = (s.leaguesOf round.seasonId).length ∧
        s' = (s.leaguesOf round.seasonId).foldl (fun s league => s.liveLeague round league) s := by
  unfold updateLiveStats
  rw [returns_getRound_bind]
  simp only [returns_current_bind, returns_put_bind, returns_say_bind, returns_pure]

theorem returns_updateStableStats : (updateStableStats roundId).Returns s n s' ↔
    ∃ round, (fits roundId ∧ s.round? roundId = some round) ∧
      ((s.leaguesOf round.seasonId).flatMap fun league =>
        (s.stableScores league roundId).map (·.2)).all fits = true ∧
      n = (s.leaguesOf round.seasonId).length ∧
        s' = (s.leaguesOf round.seasonId).foldl
          (fun s league => s.stableLeague roundId league) s := by
  unfold updateStableStats
  rw [returns_getRound_bind]
  simp only [returns_current_bind, returns_checkAll_bind, returns_put_bind, returns_say_bind,
    returns_pure]

end Returns

end PredictionLeague
