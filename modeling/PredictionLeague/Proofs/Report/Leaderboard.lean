import PredictionLeague.Proofs.Amounts
import PredictionLeague.Proofs.Report.Lines

/-!
# The table of the members

The table of a report has one entry for each approved member of the league who is a known player,
with what the member has won by kind of prize, the largest total first.

* `Store.wonBy`, `Store.allWonBy`: the amounts that a player has won in a league;
* `Store.InReach`: the amounts that a player has won have at most 28 digits in all;
* `Report.entry_eq`: the entry of such a player is exact;
* `Report.Tabled`, `Report.tabled_leaderboard`: whom the table lists, in which order, and how much
  they have won.
-/

namespace PredictionLeague

open Decimal

namespace Store

/-- The amounts that a player has won in a league by a kind of prize. -/
def wonBy (s : Store) (leagueId userId : Int) (kind : PrizeKind) : List Int :=
  ((s.winningsOfKind leagueId kind).filter (·.userId == userId)).map (·.amount)

/-- The amounts that a player has won in a league. -/
def allWonBy (s : Store) (leagueId userId : Int) : List Int :=
  ((s.winningsOf leagueId).filter (·.userId == userId)).map (·.amount)

/-- The amounts that a player has won in a league have at most 28 digits in all. -/
def InReach (s : Store) (leagueId userId : Int) : Prop :=
  ((s.allWonBy leagueId userId).map Int.natAbs).sum < tens digitLimit

instance (s : Store) (leagueId userId : Int) : Decidable (s.InReach leagueId userId) :=
  inferInstanceAs (Decidable (_ < _))

/-- What a player has won is what was won by each kind of prize. -/
theorem Keyed.allWonBy_perm {s : Store} (hs : s.Keyed) (leagueId userId : Int) :
    (PrizeKind.all.flatMap (s.wonBy leagueId userId)).Perm (s.allWonBy leagueId userId) := by
  have hperm := ((hs.winningsOf_perm leagueId).filter (·.userId == userId)).map (·.amount)
  rw [List.filter_flatMap, List.map_flatMap] at hperm
  exact hperm

theorem Keyed.sum_allWonBy {s : Store} (hs : s.Keyed) (leagueId userId : Int) :
    (s.allWonBy leagueId userId).sum = (s.wonBy leagueId userId .round).sum +
      ((s.wonBy leagueId userId .monthly).sum + ((s.wonBy leagueId userId .overall).sum +
        (s.wonBy leagueId userId .mostExactScores).sum)) := by
  rw [← (hs.allWonBy_perm leagueId userId).sum_eq]
  simp [PrizeKind.all]

theorem Keyed.some_allWonBy {s : Store} (hs : s.Keyed) {leagueId userId : Int} {kind : PrizeKind}
    (h : (!(s.wonBy leagueId userId kind).isEmpty) = true) :
    (!(s.allWonBy leagueId userId).isEmpty) = true := by
  rw [Bool.not_eq_true', List.isEmpty_eq_false_iff] at h ⊢
  obtain ⟨amount, hamount⟩ := List.exists_mem_of_ne_nil _ h
  have hkind : kind ∈ PrizeKind.all := by cases kind <;> decide
  exact List.ne_nil_of_mem ((hs.allWonBy_perm leagueId userId).mem_iff.1
    (List.mem_flatMap.2 ⟨kind, hkind, hamount⟩))

end Store

namespace Report

/-- What a sum of amounts shows. -/
def money (amounts : List Int) : Decimal := shown (!amounts.isEmpty) amounts.sum

theorem sum_of_isEmpty {amounts : List Int} (h : (!amounts.isEmpty) = false) :
    amounts.sum = 0 := by
  rw [Bool.not_eq_false', List.isEmpty_iff] at h
  rw [h, List.sum_nil]

theorem natAbs_sum_le (amounts : List Int) :
    amounts.sum.natAbs ≤ (amounts.map Int.natAbs).sum := by
  induction amounts with
  | nil => rfl
  | cons amount amounts ih =>
    rw [List.sum_cons, List.map_cons, List.sum_cons]
    omega

/-- Sums of several kinds that have at most 28 digits in all add up exactly. -/
theorem foldl_sum_eq {kinds : List PrizeKind} {won : PrizeKind → List Int} {p : Bool} {n : Int}
    (hn : p = false → n = 0)
    (h : n.natAbs + ((kinds.flatMap won).map Int.natAbs).sum < tens digitLimit) :
    kinds.foldl (fun total kind => (total + sum (won kind)).kept) (shown p n) =
      shown (p || !(kinds.flatMap won).isEmpty) (n + (kinds.flatMap won).sum) := by
  induction kinds generalizing p n with
  | nil => simp
  | cons kind kinds ih =>
    rw [List.flatMap_cons, List.map_append, List.sum_append] at h
    have hsum := natAbs_sum_le (won kind)
    have hzero : (!(won kind).isEmpty) = false → (won kind).sum = 0 := sum_of_isEmpty
    rw [List.foldl_cons, sum_eq_shown (by omega), shown_add hn hzero, kept_shown _ (by omega),
      ih ?_ (by omega)]
    · have hempty : (won kind ++ kinds.flatMap won).isEmpty =
          ((won kind).isEmpty && (kinds.flatMap won).isEmpty) := by
        cases won kind <;> rfl
      rw [List.flatMap_cons, List.sum_append, hempty, Bool.not_and, ← Bool.or_assoc, Int.add_assoc]
    · intro hnone
      obtain ⟨hp, hempty⟩ := Bool.or_eq_false_iff.1 hnone
      rw [hn hp, hzero hempty]
      rfl

section Entry

variable {s : Store} {leagueId : Int}

/-- What the entry of a member with winnings in reach shows. -/
theorem entry_eq (hs : s.Keyed) {user : User} (h : s.InReach leagueId user.id) :
    entry (s.prizesOf leagueId) (s.winningsOf leagueId) user =
      ⟨user.id, user.displayName, money (s.wonBy leagueId user.id .round),
        money (s.wonBy leagueId user.id .monthly),
        shown (!(s.allWonBy leagueId user.id).isEmpty)
          ((s.wonBy leagueId user.id .overall).sum +
            (s.wonBy leagueId user.id .mostExactScores).sum),
        money (s.allWonBy leagueId user.id)⟩ := by
  have hwon (kind : PrizeKind) : (s.winningsOf leagueId).filter (fun w => w.userId == user.id &&
      (s.prizesOf leagueId).any fun setting => setting.id == w.settingId && setting.kind == kind) =
        (s.winningsOfKind leagueId kind).filter (·.userId == user.id) := by
    rw [← List.filter_filter, s.filter_winningsOf leagueId (·.kind == kind)]
    rfl
  let won := s.wonBy leagueId user.id
  have hperm := hs.allWonBy_perm leagueId user.id
  have hparts : PrizeKind.all.flatMap won =
      won .round ++ (won .monthly ++ (won .overall ++ won .mostExactScores)) := by
    simp [PrizeKind.all]
  have hreach : (((PrizeKind.all.flatMap won).map Int.natAbs).sum) < tens digitLimit := by
    rw [(hperm.map Int.natAbs).sum_eq]
    exact h
  have htotal : PrizeKind.all.foldl (fun total kind => (total + sum (won kind)).kept) (.ofInt 0) =
      money (s.allWonBy leagueId user.id) := by
    have hfold := foldl_sum_eq (p := false) (n := 0) (fun _ => rfl)
      (show (0 : Int).natAbs + _ < _ by rw [Int.natAbs_zero, Nat.zero_add]; exact hreach)
    rw [Bool.false_or, Int.zero_add, hperm.sum_eq, hperm.isEmpty_eq] at hfold
    exact hfold
  have hsum : (s.allWonBy leagueId user.id).sum = (won .round).sum + ((won .monthly).sum +
      ((won .overall).sum + (won .mostExactScores).sum)) := hs.sum_allWonBy leagueId user.id
  rw [hparts] at hreach
  simp only [List.map_append, List.sum_append] at hreach
  have hround : sum (won .round) = money (won .round) := sum_eq_shown (by omega)
  have hmonthly : sum (won .monthly) = money (won .monthly) := sum_eq_shown (by omega)
  -- The differences are what was won by the other kinds.
  have hrest : ((money (s.allWonBy leagueId user.id) - money (won .round)).kept -
      money (won .monthly)).kept = shown (!(s.allWonBy leagueId user.id).isEmpty)
        ((won .overall).sum + (won .mostExactScores).sum) := by
    have hmonthlySum := natAbs_sum_le (won .monthly)
    have hoverallSum := natAbs_sum_le (won .overall)
    have hexactSum := natAbs_sum_le (won .mostExactScores)
    have hzero (kind : PrizeKind) : (!(won kind).isEmpty) = false → (won kind).sum = 0 :=
      sum_of_isEmpty
    have hsome (kind : PrizeKind) : (!(won kind).isEmpty) = true →
        (!(s.allWonBy leagueId user.id).isEmpty) = true := hs.some_allWonBy
    rw [money, money, money, hsum, shown_sub (hzero .round) (hsome .round),
      kept_shown _ (by omega), shown_sub (hzero .monthly) (hsome .monthly),
      kept_shown _ (by omega)]
    congr 1
    omega
  simp only [entry, hwon]
  show (⟨user.id, user.displayName, sum (won .round), sum (won .monthly),
    ((PrizeKind.all.foldl (fun total kind => (total + sum (won kind)).kept) (.ofInt 0) -
      sum (won .round)).kept - sum (won .monthly)).kept,
    PrizeKind.all.foldl (fun total kind => (total + sum (won kind)).kept) (.ofInt 0)⟩ :
      LeaderboardEntry) = _
  rw [htotal, hround, hmonthly, hrest]

/-- The total is the sum of its parts. -/
theorem total_eq (hs : s.Keyed) (leagueId userId : Int) :
    money (s.allWonBy leagueId userId) = money (s.wonBy leagueId userId .round) +
      money (s.wonBy leagueId userId .monthly) + shown (!(s.allWonBy leagueId userId).isEmpty)
        ((s.wonBy leagueId userId .overall).sum +
          (s.wonBy leagueId userId .mostExactScores).sum) := by
  have hnone {kind : PrizeKind} (h : (!(s.allWonBy leagueId userId).isEmpty) = false) :
      (!(s.wonBy leagueId userId kind).isEmpty) = false := by
    by_contra hsome
    rw [hs.some_allWonBy (Bool.eq_true_of_not_eq_false hsome)] at h
    exact absurd h (by decide)
  have hrest (h : (!(s.allWonBy leagueId userId).isEmpty) = false) :
      (s.wonBy leagueId userId .overall).sum + (s.wonBy leagueId userId .mostExactScores).sum =
        0 := by
    rw [sum_of_isEmpty (hnone h), sum_of_isEmpty (hnone h)]
    rfl
  rw [money, money, money, shown_add sum_of_isEmpty sum_of_isEmpty, shown_add ?_ hrest,
    hs.sum_allWonBy, Int.add_assoc]
  · congr 1
    cases hall : !(s.allWonBy leagueId userId).isEmpty with
    | false => rw [hnone hall, hnone hall]; rfl
    | true => rw [Bool.or_true]
  · intro h
    obtain ⟨hround, hmonthly⟩ := Bool.or_eq_false_iff.1 h
    rw [sum_of_isEmpty hround, sum_of_isEmpty hmonthly]
    rfl

end Entry

/-! ### The order -/

theorem entryBefore_iff {a b : LeaderboardEntry} : entryBefore a b = true ↔
    ¬a.total.atMost b.total = true ∨
      b.total.atMost a.total = true ∧ a.playerName ≤ b.playerName := by
  simp only [entryBefore, Bool.or_eq_true, Bool.and_eq_true, Bool.not_eq_true', decide_eq_true_eq,
    Bool.not_eq_true]

theorem entryBefore_total (a b : LeaderboardEntry) : entryBefore a b ∨ entryBefore b a := by
  rw [entryBefore_iff, entryBefore_iff]
  by_cases hab : a.total.atMost b.total = true
  · by_cases hba : b.total.atMost a.total = true
    · exact (String.le_total a.playerName b.playerName).imp (fun h => .inr ⟨hba, h⟩)
        fun h => .inr ⟨hab, h⟩
    · exact .inr (.inl hba)
  · exact .inl (.inl hab)

theorem entryBefore_trans (a b c : LeaderboardEntry) (hab : entryBefore a b)
    (hbc : entryBefore b c) : entryBefore a c := by
  rw [entryBefore_iff] at hab hbc ⊢
  by_cases hac : a.total.atMost c.total = true
  · -- Then neither step goes to a smaller total, so the totals are the same and the names decide.
    rcases hab with hnot | ⟨hba, hname⟩
    · rcases hbc with hnot' | ⟨hcb, -⟩
      · have hcb := (atMost_total b.total c.total).resolve_left hnot'
        exact absurd (atMost_trans hac hcb) hnot
      · exact absurd (atMost_trans hac hcb) hnot
    · rcases hbc with hnot' | ⟨hcb, hname'⟩
      · exact absurd (atMost_trans hba hac) hnot'
      · exact .inr ⟨atMost_trans hcb hba, String.le_trans hname hname'⟩
  · exact .inl hac

/-! ### The table -/

/-- A table lists the approved members of a league who are known players, once each and by name,
with what they have won in order; for amounts in reach the sums are exact. -/
structure Tabled (s : Store) (leagueId : Int) (table : List LeaderboardEntry) : Prop where
  nodup : (table.map (·.userId)).Nodup
  listed : ∀ userId, userId ∈ table.map (·.userId) ↔
    s.isMember leagueId userId = true ∧ (Table.get? s.users userId).isSome = true
  named : ∀ e ∈ table, playerName? s e.userId = some e.playerName
  sums : ∀ e ∈ table, s.InReach leagueId e.userId →
    e.round = money (s.wonBy leagueId e.userId .round) ∧
      e.monthly = money (s.wonBy leagueId e.userId .monthly) ∧
      e.endOfSeason = shown (!(s.allWonBy leagueId e.userId).isEmpty)
        ((s.wonBy leagueId e.userId .overall).sum +
          (s.wonBy leagueId e.userId .mostExactScores).sum) ∧
      e.total = money (s.allWonBy leagueId e.userId) ∧
      e.total = e.round + e.monthly + e.endOfSeason
  order : table.Pairwise fun a b => s.InReach leagueId a.userId → s.InReach leagueId b.userId →
    (s.allWonBy leagueId b.userId).sum < (s.allWonBy leagueId a.userId).sum ∨
      (s.allWonBy leagueId b.userId).sum = (s.allWonBy leagueId a.userId).sum ∧
        a.playerName ≤ b.playerName

section Table

variable {s : Store} {leagueId : Int}

/-- The players of a league are those of its approved members who are known. -/
theorem ids_players (s : Store) (leagueId : Int) : (players s leagueId).map (·.id) =
    ((s.members.filter fun m => m.leagueId == leagueId && m.status == .approved).map
      (·.userId)).filter fun userId => (Table.get? s.users userId).isSome := by
  rw [players]
  induction s.members.filter fun m => m.leagueId == leagueId && m.status == .approved with
  | nil => rfl
  | cons m ms ih =>
    rw [List.filterMap_cons, List.map_cons, List.filter_cons]
    cases hfound : Table.get? s.users m.userId with
    | none => exact ih
    | some user =>
      rw [if_pos Option.isSome_some, ← ih, show m.userId = user.id from
        (Table.id_of_get? hfound).symm]
      rfl

theorem mem_players_found {user : User} (h : user ∈ players s leagueId) :
    Table.get? s.users user.id = some user := by
  obtain ⟨m, -, hfound⟩ := List.mem_filterMap.1 h
  rw [show user.id = m.userId from Table.id_of_get? hfound]
  exact hfound

/-- The table of a report lists the members and what they have won. -/
theorem tabled_leaderboard (hs : s.Keyed) (leagueId : Int) :
    Tabled s leagueId (leaderboard s leagueId (s.prizesOf leagueId) (s.winningsOf leagueId)) := by
  have hperm : (leaderboard s leagueId (s.prizesOf leagueId) (s.winningsOf leagueId)).Perm
      ((players s leagueId).map (entry (s.prizesOf leagueId) (s.winningsOf leagueId))) :=
    sorted_perm _
  have hids := hperm.map (·.userId)
  rw [List.map_map, show ((·.userId) : LeaderboardEntry → Int) ∘
    entry (s.prizesOf leagueId) (s.winningsOf leagueId) = User.id from rfl] at hids
  have hmade {e : LeaderboardEntry}
      (he : e ∈ leaderboard s leagueId (s.prizesOf leagueId) (s.winningsOf leagueId)) :
      ∃ user ∈ players s leagueId,
        entry (s.prizesOf leagueId) (s.winningsOf leagueId) user = e :=
    List.mem_map.1 (hperm.mem_iff.1 he)
  have htotal {e : LeaderboardEntry}
      (he : e ∈ leaderboard s leagueId (s.prizesOf leagueId) (s.winningsOf leagueId))
      (hreach : s.InReach leagueId e.userId) :
      e.total = money (s.allWonBy leagueId e.userId) := by
    obtain ⟨user, -, rfl⟩ := hmade he
    rw [entry_eq hs hreach]
  refine ⟨?_, fun userId => ?_, fun e he => ?_, fun e he hreach => ?_, ?_⟩
  · rw [hids.nodup_iff, ids_players]
    exact ((sorted_perm _).nodup_iff.1 (hs.approvedMembers_nodup leagueId)).filter _
  · rw [hids.mem_iff, ids_players, List.mem_filter, ← Store.mem_approvedMembers,
      Store.approvedMembers, mem_ascending]
  · obtain ⟨user, huser, rfl⟩ := hmade he
    show (Table.get? s.users user.id).map User.displayName = _
    rw [mem_players_found huser]
    rfl
  · obtain ⟨user, huser, rfl⟩ := hmade he
    rw [entry_eq hs hreach]
    exact ⟨rfl, rfl, rfl, rfl, total_eq hs leagueId user.id⟩
  · refine ((pairwise_sorted entryBefore_total entryBefore_trans _).imp_of_mem ?_)
    intro a b ha hb hab hreach hreach'
    rw [entryBefore_iff, htotal ha hreach, htotal hb hreach', money, money,
      atMost_shown sum_of_isEmpty sum_of_isEmpty, atMost_shown sum_of_isEmpty sum_of_isEmpty] at hab
    rcases hab with hlt | ⟨hle, hname⟩
    · exact .inl (Int.not_le.1 hlt)
    · rcases Int.lt_or_eq_of_le hle with hlt | heq
      · exact .inl hlt
      · exact .inr ⟨heq, hname⟩

end Table

end Report

end PredictionLeague
