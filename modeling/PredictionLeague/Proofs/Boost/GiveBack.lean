import PredictionLeague.Proofs.Boost.Decision
import PredictionLeague.Proofs.Boost.Deadline
import PredictionLeague.Proofs.Settled

/-!
# Boosts that are given back

A boost that is used and taken back in time leaves the store as it was, so that the member, like
everybody else, may do what it could do before. And what a member does with boosts in a league never
changes what other members may do, or the same member in other leagues.

* `Table.erase_add`: a row that is added and dropped again leaves the table as it was;
* `Boost.placed_of_returns`: what a call to use a boost finds and records when it is allowed;
* `Boost.returns_removeBoost`: a call in time takes back the boost that is used in the round;
* `Store.SameOthers`: two stores that differ in the boosts of one member in one league alone;
* `Boost.boostEligibility_congr`: they give all others the same answers;
* `Call.after_cases`: what a call of a member does with boosts;
* `Call.sameOthers_after`, `Call.sameOthers_afterAll`: one such call, and a run of them;
* `Boost.removeBoost_gives_back`: using and taking back, and what others see of it.
-/

namespace PredictionLeague

open Engine

namespace Table

variable {α : Type} [Row α]

/-- A row that is added and dropped again leaves the table as it was. -/
theorem erase_add (table : List α) (row : Int → α) (hid : ∀ id, Row.id (row id) = id) :
    erase (add table row) (nextId table) = table := by
  have hkept : table.filter (Row.id · != nextId table) = table :=
    List.filter_eq_self.2 fun r hr => bne_iff_ne.2 (Int.ne_of_lt (lt_nextId hr))
  rw [add, erase, List.filter_append, hkept, List.filter_cons_of_neg (by simp [hid]),
    List.filter_nil, List.append_nil]

variable {table : List α}

/-- The id of a row that is added is a new one. -/
theorem nodup_ids_add (h : (table.map Row.id).Nodup) (row : Int → α)
    (hid : ∀ id, Row.id (row id) = id) : ((add table row).map Row.id).Nodup := by
  have hnew : nextId table ∉ table.map Row.id := fun hmem => by
    obtain ⟨r, hr, heq⟩ := List.mem_map.1 hmem
    exact Int.ne_of_lt (lt_nextId hr) heq
  rw [add, List.map_append, List.map_singleton, hid, ← List.concat_eq_append]
  exact h.concat hnew

theorem nodup_ids_erase (h : (table.map Row.id).Nodup) (id : Int) :
    ((erase table id).map Row.id).Nodup :=
  h.sublist (List.filter_sublist.map Row.id)

end Table

/-! ### Using and taking back -/

namespace Store

variable {s : Store} {userId leagueId : Int} {round : Round}

/-- The use that was recorded is the one that is found in its round. -/
theorem useInRound?_withUse (h : s.useInRound? userId leagueId round.id = none) (code : String)
    (now : DateTime) :
    (s.withUse userId leagueId round code now).useInRound? userId leagueId round.id =
      some (s.newUse userId leagueId round code now) := by
  show (s.boostUsages ++ [s.newUse userId leagueId round code now]).find? _ = _
  rw [List.find?_append]
  show (s.useInRound? userId leagueId round.id).or _ = _
  rw [h, Option.none_or, List.find?_cons_of_pos (by simp [newUse])]

/-- Without the use that was recorded last the uses are as they were. -/
theorem erase_withUse (s : Store) (userId leagueId : Int) (round : Round) (code : String)
    (now : DateTime) :
    Table.erase (s.withUse userId leagueId round code now).boostUsages
      (s.newUse userId leagueId round code now).id = s.boostUsages :=
  Table.erase_add s.boostUsages (⟨·, userId, leagueId, round.seasonId, round.id, code, now⟩)
    fun _ => rfl

end Store

namespace Boost

variable {s t : Store} {userId leagueId roundId : Int} {code : String} {now : DateTime}
  {round : Round} {league : League} {e : Eligibility}

/-- Only a player can be allowed to use a boost. -/
theorem fits_of_answer (h : answer s userId league round code now = .ok e)
    (hcan : e.canUse = true) : fits userId = true := by
  rw [answer] at h
  split at h
  · rw [← Except.ok.inj h] at hcan
    exact absurd hcan Bool.false_ne_true
  · split at h
    · rw [← Except.ok.inj h] at hcan
      exact absurd hcan Bool.false_ne_true
    · split at h
      · assumption
      · simp at h

/-- A boost that is allowed is used by a player in a round and a league that exist. There is no
other one in the round, and the use is recorded. -/
theorem placed_of_returns (h : (applyBoost userId leagueId roundId code now).Returns s e t)
    (hcan : e.canUse = true) :
    ∃ round league, (fits roundId = true ∧ s.round? roundId = some round) ∧
      (fits leagueId = true ∧ s.league? leagueId = some league) ∧ fits userId = true ∧
      s.useInRound? userId leagueId round.id = none ∧
      t = s.withUse userId leagueId round code now := by
  have hasked := h
  unfold applyBoost applyBoostAmid at hasked
  obtain ⟨e', t', hdecided, -⟩ := returns_bind.1 hasked
  unfold boostEligibility at hdecided
  obtain ⟨round, hround, hdecided⟩ := returns_getRound_bind.1 hdecided
  obtain ⟨league, hleague, -⟩ := returns_getLeague_bind.1 hdecided
  have heffect : (applyBoost userId leagueId roundId code now).effect s = (.ok e, t) := h
  rw [effect_applyBoost hround hleague] at heffect
  obtain ⟨hanswer, hstore⟩ := Prod.mk.inj heffect
  obtain rfl : league.id = leagueId := Table.id_of_get? hleague.2
  obtain ⟨rule, hmay⟩ := (decided_of_answer hanswer).canUse.1 hcan
  refine ⟨round, league, hround, hleague, fits_of_answer hanswer hcan, ?_, ?_⟩
  · simpa using unused_iff.2 hmay.unused
  · rw [← hstore, hanswer]
    dsimp only
    rw [if_pos hcan]

/-- A call in time takes back the boost that a player uses in a round. -/
theorem returns_removeBoost (hround : fits roundId = true ∧ s.round? roundId = some round)
    (hleague : fits leagueId = true ∧ s.league? leagueId = some league)
    (hintime : ¬round.deadline.stamp < now.stamp) (huser : fits userId = true) {use : BoostUsage}
    (huse : s.useInRound? userId leagueId roundId = some use) :
    (removeBoost userId leagueId roundId now).Returns s true
      { s with boostUsages := Table.erase s.boostUsages use.id } := by
  rw [removeBoost_eq, returns_getRound_bind]
  refine ⟨round, hround, returns_getLeague_bind.2 ⟨league, hleague, ?_⟩⟩
  rw [if_neg hintime]
  refine returns_bind.2 ⟨(), s, ?_, ?_⟩
  · rw [Returns, effect_checkKey, checked_eq_ok.2 huser]
  · unfold dropUse
    rw [returns_current_bind, huse]
    exact returns_put_bind.2 (returns_say_bind.2 (returns_pure.2 ⟨rfl, rfl⟩))

end Boost

/-! ### The others -/

/-- The boost is used by a member in a league. -/
def BoostUsage.isOf (u : BoostUsage) (userId leagueId : Int) : Bool :=
  u.userId == userId && u.leagueId == leagueId

namespace Store

/-- Two stores that differ in the boosts of one member in one league alone. -/
structure SameOthers (s t : Store) (userId leagueId : Int) : Prop where
  rest : ∃ uses, t = { s with boostUsages := uses }
  uses : t.boostUsages.filter (fun u => !u.isOf userId leagueId) =
    s.boostUsages.filter fun u => !u.isOf userId leagueId

variable {s t u : Store} {userId leagueId : Int}

theorem SameOthers.refl (s : Store) (userId leagueId : Int) : s.SameOthers s userId leagueId :=
  ⟨⟨_, rfl⟩, rfl⟩

theorem SameOthers.trans (h : s.SameOthers t userId leagueId)
    (h' : t.SameOthers u userId leagueId) : s.SameOthers u userId leagueId where
  rest := by
    obtain ⟨uses, rfl⟩ := h.rest
    obtain ⟨uses', rfl⟩ := h'.rest
    exact ⟨uses', rfl⟩
  uses := h'.uses.trans h.uses

/-- A boost that the member uses in the league is none of the others. -/
theorem sameOthers_withUse (s : Store) (userId leagueId : Int) (round : Round) (code : String)
    (now : DateTime) :
    s.SameOthers (s.withUse userId leagueId round code now) userId leagueId where
  rest := ⟨_, rfl⟩
  uses := by
    show (s.boostUsages ++ [s.newUse userId leagueId round code now]).filter _ = _
    rw [List.filter_append, List.filter_cons_of_neg (by simp [newUse, BoostUsage.isOf]),
      List.filter_nil, List.append_nil]

/-- Nor is one that is taken back: the id belongs to no other row. -/
theorem sameOthers_erase (huses : (s.boostUsages.map Row.id).Nodup) {use : BoostUsage}
    (huse : use ∈ s.boostUsages) (hof : use.isOf userId leagueId = true) :
    s.SameOthers { s with boostUsages := Table.erase s.boostUsages use.id } userId leagueId where
  rest := ⟨_, rfl⟩
  uses := by
    show (s.boostUsages.filter (·.id != use.id)).filter _ = _
    rw [List.filter_filter]
    refine List.filter_congr fun other hother => ?_
    by_cases hid : other.id = use.id
    · obtain rfl : other = use := List.inj_on_of_nodup_map huses hother huse hid
      rw [hof, Bool.not_true, Bool.false_and]
    · rw [bne_iff_ne.2 hid, Bool.and_true]

theorem isOf_of_useInRound? {roundId : Int} {use : BoostUsage}
    (h : s.useInRound? userId leagueId roundId = some use) : use.isOf userId leagueId = true := by
  have hkey := List.find?_some h
  exact (Bool.and_eq_true_iff.1 hkey).1

section Other

variable {otherUser otherLeague : Int} (h : s.SameOthers t userId leagueId)
  (hne : (otherUser, otherLeague) ≠ (userId, leagueId))

include h hne

/-- The boosts of another member, or in another league, are the same. -/
theorem SameOthers.filter_eq {p : BoostUsage → Bool}
    (hp : ∀ u, p u = true → u.userId = otherUser ∧ u.leagueId = otherLeague) :
    t.boostUsages.filter p = s.boostUsages.filter p := by
  refine filter_eq_of_filter_eq h.uses fun u hu => ?_
  obtain ⟨rfl, rfl⟩ := hp u hu
  rw [Bool.not_eq_true', BoostUsage.isOf, Bool.and_eq_false_iff, beq_eq_false_iff_ne,
    beq_eq_false_iff_ne]
  by_contra hboth
  rw [not_or, not_not, not_not] at hboth
  exact hne (Prod.ext hboth.1 hboth.2)

/-- The uses that count for them are the same in every round. -/
theorem SameOthers.usage (round : Round) (code : String) (windows : List Boost.Window) :
    t.usage otherUser otherLeague round code windows =
      s.usage otherUser otherLeague round code windows := by
  have hseason : t.usesInSeason otherUser otherLeague round.seasonId code =
      s.usesInSeason otherUser otherLeague round.seasonId code := by
    refine h.filter_eq hne fun u hu => ?_
    simp only [Bool.and_eq_true, beq_iff_eq] at hu
    exact hu.1.1
  have hround : t.useInRound? otherUser otherLeague round.id =
      s.useInRound? otherUser otherLeague round.id := by
    rw [useInRound?, useInRound?, ← List.head?_filter, ← List.head?_filter]
    refine congrArg List.head? (h.filter_eq hne fun u hu => ?_)
    simp only [Bool.and_eq_true, beq_iff_eq] at hu
    exact hu.1
  obtain ⟨uses, rfl⟩ := h.rest
  simp only [Store.usage, hseason, hround]
  rfl

end Other

end Store

namespace Boost

variable {s t : Store} {userId leagueId otherUser otherLeague roundId : Int} {code : String}
  {now : DateTime}

/-- Without the round there is no answer. -/
theorem effect_boostEligibility_of_round {fault : Fault}
    (h : found "Round" (s.round? roundId) roundId = .error fault) :
    (boostEligibility userId leagueId roundId code now).effect s = (.error fault, s) := by
  unfold boostEligibility
  rw [effect_eq, outcome_bind, outcome_getRound, h]

/-- Nor is there one without the league. -/
theorem effect_boostEligibility_of_league {round : Round} {fault : Fault}
    (hround : found "Round" (s.round? roundId) roundId = .ok round)
    (h : found "League" (s.league? leagueId) leagueId = .error fault) :
    (boostEligibility userId leagueId roundId code now).effect s = (.error fault, s) := by
  unfold boostEligibility
  rw [effect_eq, outcome_bind, outcome_getRound, hround]
  dsimp only
  rw [outcome_bind, outcome_getLeague, h]

/-- The rule, its windows and the members are no boosts, and the uses that count are the same. -/
theorem answer_congr (h : s.SameOthers t userId leagueId) {league : League}
    (hne : (otherUser, league.id) ≠ (userId, leagueId)) (round : Round) (code : String)
    (now : DateTime) :
    answer t otherUser league round code now = answer s otherUser league round code now := by
  have husage := h.usage hne
  obtain ⟨uses, rfl⟩ := h.rest
  simp only [answer, ruled, husage]
  rfl

/-- Whatever changed in the boosts of a member in a league, whoever else asks is given the same
answer. -/
theorem boostEligibility_congr (h : s.SameOthers t userId leagueId)
    (hne : (otherUser, otherLeague) ≠ (userId, leagueId)) (roundId : Int) (code : String)
    (now : DateTime) :
    ((boostEligibility otherUser otherLeague roundId code now).effect t).1 =
      ((boostEligibility otherUser otherLeague roundId code now).effect s).1 := by
  have hrounds : t.round? roundId = s.round? roundId := by
    obtain ⟨uses, rfl⟩ := h.rest
    rfl
  have hleagues : t.league? otherLeague = s.league? otherLeague := by
    obtain ⟨uses, rfl⟩ := h.rest
    rfl
  cases hround : found "Round" (s.round? roundId) roundId with
  | error fault =>
    rw [effect_boostEligibility_of_round hround,
      effect_boostEligibility_of_round (hrounds ▸ hround)]
  | ok round =>
    cases hleague : found "League" (s.league? otherLeague) otherLeague with
    | error fault =>
      rw [effect_boostEligibility_of_league hround hleague,
        effect_boostEligibility_of_league (hrounds ▸ hround) (hleagues ▸ hleague)]
    | ok league =>
      rw [found_eq_ok] at hround hleague
      obtain rfl : league.id = otherLeague := Table.id_of_get? hleague.2
      rw [effect_boostEligibility hround hleague,
        effect_boostEligibility (hrounds ▸ hround) (hleagues ▸ hleague)]
      exact answer_congr h hne round code now

end Boost

namespace Call

variable {s : Store} {userId leagueId : Int}

/-- The call uses a boost or takes one back for a member in a league. -/
def BoostsFor (userId leagueId : Int) : Call → Prop
  | useBoost user league _ _ _ => user = userId ∧ league = leagueId
  | dropBoost user league _ _ => user = userId ∧ league = leagueId
  | _ => False

/-- What a call of a member does with boosts: nothing, or a use is added, or one of the member's is
dropped. -/
theorem after_cases {call : Call} (h : call.BoostsFor userId leagueId) :
    call.after s = s ∨
      (∃ round code now, call.after s = s.withUse userId leagueId round code now) ∨
      ∃ use ∈ s.boostUsages, use.isOf userId leagueId = true ∧
        call.after s = { s with boostUsages := Table.erase s.boostUsages use.id } := by
  rw [after_eq]
  cases call with
  | useBoost user league roundId code now =>
    obtain ⟨rfl, rfl⟩ := h
    rcases Boost.storeAfter_applyBoost s user league roundId code now with
      hsame | ⟨round, _, _, -, -, -, hused⟩
    · exact .inl hsame
    · exact .inr (.inl ⟨round, code, now, hused⟩)
  | dropBoost user league roundId now =>
    obtain ⟨rfl, rfl⟩ := h
    rcases Boost.storeAfter_removeBoost_eq s user league roundId now with
      hsame | ⟨_, use, -, -, huse, hdropped⟩
    · exact .inl hsame
    · exact .inr (.inr ⟨use, List.mem_of_find?_eq_some huse, Store.isOf_of_useInRound? huse,
        hdropped⟩)
  | _ => exact absurd h not_false

/-- A call of a member changes no boosts of others. -/
theorem sameOthers_after (huses : (s.boostUsages.map Row.id).Nodup) {call : Call}
    (h : call.BoostsFor userId leagueId) : s.SameOthers (call.after s) userId leagueId := by
  rcases after_cases (s := s) h with
    hsame | ⟨round, code, now, hused⟩ | ⟨use, huse, hof, hdropped⟩
  · rw [hsame]
    exact .refl s userId leagueId
  · rw [hused]
    exact s.sameOthers_withUse userId leagueId round code now
  · rw [hdropped]
    exact Store.sameOthers_erase huses huse hof

/-- It keeps the ids of the boosts different. -/
theorem nodup_ids_after (huses : (s.boostUsages.map Row.id).Nodup) {call : Call}
    (h : call.BoostsFor userId leagueId) : ((call.after s).boostUsages.map Row.id).Nodup := by
  rcases after_cases (s := s) h with hsame | ⟨round, code, now, hused⟩ | ⟨use, -, -, hdropped⟩
  · rwa [hsame]
  · rw [hused]
    exact Table.nodup_ids_add huses
      (⟨·, userId, leagueId, round.seasonId, round.id, code, now⟩) fun _ => rfl
  · rw [hdropped]
    exact Table.nodup_ids_erase huses use.id

/-- Nor does a run of such calls change boosts of others. -/
theorem sameOthers_afterAll {calls : List Call} (huses : (s.boostUsages.map Row.id).Nodup)
    (h : ∀ call ∈ calls, call.BoostsFor userId leagueId) :
    s.SameOthers (afterAll calls s) userId leagueId := by
  induction calls generalizing s with
  | nil => exact .refl s userId leagueId
  | cons call calls ih =>
    obtain ⟨hcall, hcalls⟩ := List.forall_mem_cons.1 h
    exact (sameOthers_after huses hcall).trans (ih (nodup_ids_after huses hcall) hcalls)

end Call

namespace Boost

/-- When a member uses a boost in a round, a use is recorded; taking it back before the deadline
succeeds and leaves the store as it was before, so that whoever asks for whatever boost in whatever
round is given the same answer as before. However often a member uses boosts in a league and takes
them back, all other members, and the same member in other leagues, are given the same answers. -/
theorem removeBoost_gives_back {s : Store} (huses : (s.boostUsages.map Row.id).Nodup)
    (userId leagueId : Int) :
    (∀ roundId code used taken e t, (applyBoost userId leagueId roundId code used).Returns s e t →
      e.canUse = true → (∀ deadline ∈ s.deadline? roundId, taken.stamp ≤ deadline.stamp) →
        (∃ round, s.round? roundId = some round ∧
          t = s.withUse userId leagueId round code used) ∧
        (removeBoost userId leagueId roundId taken).Returns t true s ∧
        ∀ anyUser anyLeague anyRound anyCode now,
          (boostEligibility anyUser anyLeague anyRound anyCode now).effect
              ((removeBoost userId leagueId roundId taken).storeAfter t) =
            (boostEligibility anyUser anyLeague anyRound anyCode now).effect s) ∧
    ∀ calls : List Call, (∀ call ∈ calls, call.BoostsFor userId leagueId) →
      ∀ otherUser otherLeague, (otherUser, otherLeague) ≠ (userId, leagueId) →
        ∀ roundId code now,
          ((boostEligibility otherUser otherLeague roundId code now).effect
              (Call.afterAll calls s)).1 =
            ((boostEligibility otherUser otherLeague roundId code now).effect s).1 := by
  constructor
  · intro roundId code used taken e t happlied hcan hintime
    obtain ⟨round, league, hround, hleague, huser, hunused, rfl⟩ := placed_of_returns happlied hcan
    have hdeadline : ¬round.deadline.stamp < taken.stamp :=
      Nat.not_lt.2 (hintime _ (Store.deadline?_of_round hround.2))
    have htaken : (removeBoost userId leagueId roundId taken).Returns
        (s.withUse userId leagueId round code used) true s := by
      have huse := Store.useInRound?_withUse hunused code used
      rw [show round.id = roundId from Table.id_of_get? hround.2] at huse
      have hreturns := returns_removeBoost (s := s.withUse userId leagueId round code used) hround
        hleague hdeadline huser huse
      rwa [s.erase_withUse] at hreturns
    refine ⟨⟨round, hround.2, rfl⟩, htaken, fun anyUser anyLeague anyRound anyCode now => ?_⟩
    rw [htaken.storeAfter]
  · intro calls hcalls otherUser otherLeague hne roundId code now
    exact boostEligibility_congr (Call.sameOthers_afterAll huses hcalls) hne roundId code now

/-- A league of two members, each of whom has used the boost in one of the three rounds. -/
def sharedLeague : Store :=
  { windowedStore with
    members := [⟨1, 1, 10, .approved⟩, ⟨2, 1, 11, .approved⟩]
    boostUsages := [⟨1, 11, 1, 1, 1, "DoubleUp", .newYear2025⟩,
      ⟨2, 10, 1, 1, 3, "DoubleUp", .newYear2025⟩] }

/-- Player 10 uses the boost in the first round too, and takes it back; then it moves its boost from
the third round to the first. To player 11 it stays available in the third round. -/
theorem shared_league_gives_back :
    let round : Round := ⟨1, 1, 1, .newYear2025, .newYear2025, .published, none⟩
    let used := sharedLeague.withUse 10 1 round "DoubleUp" .newYear2025
    let calls : List Call :=
      [.dropBoost 10 1 3 .newYear2025, .useBoost 10 1 1 "DoubleUp" .newYear2025]
    (sharedLeague.boostUsages.map Row.id).Nodup ∧
      (applyBoost 10 1 1 "DoubleUp" .newYear2025).Returns sharedLeague (.allowed 1 1) used ∧
      (removeBoost 10 1 1 .newYear2025).Returns used true sharedLeague ∧
      (Call.afterAll calls sharedLeague).boostUsages.map (fun u => (u.userId, u.roundId)) =
        [(11, 1), (10, 1)] ∧
      ((boostEligibility 11 1 3 "DoubleUp" .newYear2025).effect
        (Call.afterAll calls sharedLeague)).1 = .ok (.allowed 1 1) := by
  intro round used calls
  have huses : (sharedLeague.boostUsages.map Row.id).Nodup := by decide
  have hcalls : ∀ call ∈ calls, call.BoostsFor 10 1 := by
    simp [calls, Call.BoostsFor]
  have happlied : (applyBoost 10 1 1 "DoubleUp" .newYear2025).Returns sharedLeague (.allowed 1 1)
      used := by decide
  have hasked : ((boostEligibility 11 1 3 "DoubleUp" .newYear2025).effect sharedLeague).1 =
      .ok (.allowed 1 1) := by decide
  obtain ⟨hback, hothers⟩ := removeBoost_gives_back huses 10 1
  obtain ⟨-, htaken, -⟩ := hback 1 "DoubleUp" .newYear2025 .newYear2025 (.allowed 1 1) used happlied
    rfl (by decide)
  refine ⟨huses, happlied, htaken, by decide, ?_⟩
  rw [hothers calls hcalls 11 1 (by decide) 3 "DoubleUp" .newYear2025, hasked]

end Boost

end PredictionLeague
