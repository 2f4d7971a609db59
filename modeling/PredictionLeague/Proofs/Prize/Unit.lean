import PredictionLeague.Proofs.Settlement

/-!
# Prizes of a league as one unit

The prizes of a league are calculated first and then recorded at once. That comes to the same as
replacing the winnings of one kind of prize after the other and undoing all of it when one of them
cannot be paid: a settlement that stops leaves the store as it was, even when some kinds were paid.

* `Prize.payKind`, `Prize.payKinds`: one kind of prize, and all of them as one unit;
* `Prize.effect_forM_payKind`: what paying kinds one after the other does;
* `effect_processPrizes`: settling the prizes of a league is paying all kinds as one unit;
* `processPrizes_stops`: a settlement that stops leaves the store as it was.
-/

namespace PredictionLeague

namespace Prize

open Engine Store

/-- What a kind of prize of a league pays after a round by the tables of a store. -/
def kindAward? (leagueId : Int) (standings : Standings) (round : Round) (s : Store)
    (kind : PrizeKind) : Except Fault (Option Award) :=
  award? s kind ((settingsOf s leagueId).filter (·.kind == kind)) standings round
    (s.season? round.seasonId)

/-- Pay one kind of prize of a league: the winnings of its period are replaced. -/
def payKind (leagueId : Int) (standings : Standings) (round : Round) (now : DateTime)
    (kind : PrizeKind) : Engine Unit := do
  let s ← current
  let award? ← lift (kindAward? leagueId standings round s kind)
  put (s.withAwards now award?.toList)

/-- Pay all kinds of prizes of a league one after the other, as one unit. -/
def payKinds (leagueId : Int) (round : Round) (now : DateTime) : Engine Unit := do
  let s ← current
  atomically (PrizeKind.all.forM (payKind leagueId (s.standings leagueId) round now))

section Kinds

variable (leagueId : Int) (standings : Standings) (round : Round) (now : DateTime)

instance (kind : PrizeKind) : Quiet (payKind leagueId standings round now kind) := by
  unfold payKind
  infer_instance

instance : Quiet (payKinds leagueId round now) := by
  unfold payKinds
  infer_instance

/-- What is paid does not depend on winnings. -/
theorem kindAward?_withAwards (s : Store) (awards : List Award) :
    kindAward? leagueId standings round (s.withAwards now awards) =
      kindAward? leagueId standings round s := rfl

theorem effect_payKind (kind : PrizeKind) (s : Store) :
    (payKind leagueId standings round now kind).effect s =
      match kindAward? leagueId standings round s kind with
      | .ok award? => (.ok (), s.withAwards now award?.toList)
      | .error fault => (.error fault, s) := by
  unfold payKind
  rw [effect_bind, effect_current]
  simp only
  rw [effect_bind, effect_lift]
  cases kindAward? leagueId standings round s kind with
  | error fault => rfl
  | ok award? => rfl

/-- Kinds are paid one after the other when the awards of all of them can be calculated. -/
theorem effect_forM_payKind (kinds : List PrizeKind) (s : Store) :
    match kinds.mapM (kindAward? leagueId standings round s) with
    | .ok awards =>
      effect (kinds.forM (payKind leagueId standings round now)) s =
        (.ok (), s.withAwards now (awards.filterMap id))
    | .error fault =>
      ∃ t, effect (kinds.forM (payKind leagueId standings round now)) s = (.error fault, t) := by
  -- The awards of the kinds that follow are the same once those of the first are recorded.
  induction kinds generalizing s with
  | nil => exact rfl
  | cons kind kinds ih =>
    rw [List.mapM_cons, effect_forM_cons, effect_payKind]
    cases hkind : kindAward? leagueId standings round s kind with
    | error fault => exact ⟨s, rfl⟩
    | ok award? =>
      have hrest := ih (s.withAwards now award?.toList)
      rw [kindAward?_withAwards] at hrest
      cases hkinds : kinds.mapM (kindAward? leagueId standings round s) with
      | error fault =>
        rw [hkinds] at hrest
        exact hrest
      | ok awards =>
        rw [hkinds] at hrest
        refine hrest.trans ?_
        rw [← withAwards_append]
        cases award? with
        | none => rfl
        | some award => rfl

/-- All kinds of prizes are paid, or the store stays as it was. -/
theorem effect_payKinds (s : Store) :
    (payKinds leagueId round now).effect s =
      match awards s (settingsOf s leagueId) (s.standings leagueId) round
        (s.season? round.seasonId) with
      | .ok awards => (.ok (), s.withAwards now awards)
      | .error fault => (.error fault, s) := by
  have hawards : awards s (settingsOf s leagueId) (s.standings leagueId) round
      (s.season? round.seasonId) =
        (PrizeKind.all.mapM (kindAward? leagueId (s.standings leagueId) round s)) >>= fun awards =>
          pure (awards.filterMap id) := rfl
  unfold payKinds
  rw [effect_bind, effect_current, hawards]
  simp only
  rw [effect_atomically]
  have hpaid := effect_forM_payKind leagueId (s.standings leagueId) round now PrizeKind.all s
  cases hkinds : PrizeKind.all.mapM (kindAward? leagueId (s.standings leagueId) round s) with
  | error fault =>
    rw [hkinds] at hpaid
    obtain ⟨t, ht⟩ := hpaid
    rw [ht]
    rfl
  | ok awards =>
    rw [hkinds] at hpaid
    rw [hpaid]
    rfl

end Kinds

/-! ### The settlement of a league -/

/-- What follows once the round and the league are found: the awards are calculated and recorded. -/
def payLeague (leagueId roundId : Int) (round : Round) (now : DateTime) (s : Store) :
    Engine (List Winning) :=
  if (settingsOf s leagueId).isEmpty then do
    say .warning .prizes
      ("League " ++ toString leagueId ++ " has no prize settings, nothing to settle")
    return []
  else
    match awards s (settingsOf s leagueId) (s.standings leagueId) round
      (s.season? round.seasonId) with
    | .error fault => do
      say .error .prizes ("Prize settlement failed for league " ++ toString leagueId ++
        ", round " ++ toString roundId)
      throw fault
    | .ok awards => do
      put (s.withAwards now awards)
      say .info .prizes ("League " ++ toString leagueId ++ ", round " ++
        toString round.number ++ ": awarded " ++
        toString (recordAwards now s.winnings awards).2.length ++ " winnings")
      return (recordAwards now s.winnings awards).2

instance (leagueId roundId : Int) (round : Round) (now : DateTime) (s : Store) :
    Quiet (payLeague leagueId roundId round now s) := by
  unfold payLeague
  split
  · infer_instance
  · split <;> infer_instance

/-- A settlement looks for its round and its league before it pays. -/
theorem processPrizes_eq (leagueId roundId : Int) (now : DateTime) :
    processPrizes leagueId roundId now = (do
      let round ← getRound roundId
      let _ ← getLeague leagueId
      let s ← current
      payLeague leagueId roundId round now s) := rfl

/-- The awards of a league are recorded, or the store stays as it was. -/
theorem effect_payLeague (leagueId roundId : Int) (round : Round) (now : DateTime) (s : Store) :
    (do let _ ← payLeague leagueId roundId round now s : Engine Unit).effect s =
      (payKinds leagueId round now).effect s := by
  rw [effect_payKinds, payLeague]
  split
  · rename_i hempty
    rw [List.isEmpty_iff] at hempty
    rw [hempty, awards_nil]
    rfl
  · split
    · rename_i fault hawards
      rw [hawards]
      rfl
    · rename_i awards hawards
      rw [hawards]
      rfl

end Prize

open Engine Store

/-- Settling the prizes of a league comes to the same as paying all its kinds as one unit. -/
theorem effect_processPrizes (leagueId roundId : Int) (now : DateTime) (s : Store) :
    (do let _ ← Prize.processPrizes leagueId roundId now : Engine Unit).effect s =
      (do
        let round ← getRound roundId
        let _ ← getLeague leagueId
        Prize.payKinds leagueId round now : Engine Unit).effect s := by
  have hpaid (round : Round) := Prize.effect_payLeague leagueId roundId round now s
  simp only [Engine.effect_bind] at hpaid
  rw [Prize.processPrizes_eq]
  simp only [Engine.effect_bind, effect_getRound, effect_getLeague, effect_current]
  cases found "Round" (s.round? roundId) roundId with
  | error fault => rfl
  | ok round =>
    cases hleague : found "League" (s.league? leagueId) leagueId with
    | error fault => simp only [hleague]
    | ok league =>
      simp only [hleague]
      exact hpaid round

/-- A settlement of the prizes of a league that stops leaves the store as it was. -/
theorem processPrizes_stops {leagueId roundId : Int} {now : DateTime} {s t : Store} {fault : Fault}
    (h : (Prize.processPrizes leagueId roundId now).effect s = (.error fault, t)) : t = s := by
  have hstops : (do let _ ← Prize.processPrizes leagueId roundId now : Engine Unit).effect s =
      (.error fault, t) := by
    rw [Engine.effect_bind, h]
  rw [effect_processPrizes, Engine.effect_bind, effect_getRound] at hstops
  cases hround : found "Round" (s.round? roundId) roundId with
  | error fault' =>
    rw [hround] at hstops
    exact (Prod.mk.inj hstops).2.symm
  | ok round =>
    rw [hround] at hstops
    simp only at hstops
    rw [Engine.effect_bind, effect_getLeague] at hstops
    cases hleague : found "League" (s.league? leagueId) leagueId with
    | error fault' =>
      rw [hleague] at hstops
      exact (Prod.mk.inj hstops).2.symm
    | ok league =>
      rw [hleague] at hstops
      simp only at hstops
      rw [Prize.effect_payKinds] at hstops
      split at hstops
      · exact absurd (Prod.mk.inj hstops).1 (by simp)
      · exact (Prod.mk.inj hstops).2.symm

end PredictionLeague
