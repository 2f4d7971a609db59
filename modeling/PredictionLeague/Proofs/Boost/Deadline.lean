import PredictionLeague.Proofs.Calls

/-!
# Boosts after the deadline

Once the deadline of a round has passed, the boosts that are used in it stay: nobody uses one in it
or takes one back, whatever happens in other rounds.

* `Call.time?`, `Call.IsAfter`: when a call is made; calls that are strictly after a deadline;
* `Store.usesIn`, `Store.deadline?`: the boosts that are used in a round, and its deadline;
* `Boost.storeAfter_applyBoost_late`, `Boost.storeAfter_removeBoost_eq`: late calls do nothing;
* `Call.usesIn_after`, `Call.deadline?_after`, `Call.ordered_uses_after`: what one call leaves.
-/

namespace PredictionLeague

open Engine

namespace Store

/-- The boosts that are used in a round. -/
def usesIn (s : Store) (roundId : Int) : List BoostUsage :=
  s.boostUsages.filter (·.roundId == roundId)

/-- The deadline of a round. -/
def deadline? (s : Store) (roundId : Int) : Option DateTime :=
  (s.round? roundId).map (·.deadline)

theorem deadline?_of_round {s : Store} {round : Round} {roundId : Int}
    (h : s.round? roundId = some round) : s.deadline? roundId = some round.deadline := by
  rw [deadline?, h, Option.map_some]

end Store

open Store

namespace Boost

variable {s : Store} {userId leagueId roundId : Int} {round : Round} {code : String}
  {now : DateTime}

/-! ### Late calls -/

/-- After the deadline no boost may be used in a round. -/
theorem not_canUse_of_late {e : Eligibility} {t : Store} (hround : s.round? roundId = some round)
    (hlate : round.deadline.stamp < now.stamp)
    (h : (boostEligibility userId leagueId roundId code now).Returns s e t) : e.canUse = false := by
  unfold boostEligibility at h
  obtain ⟨found, ⟨-, hfound⟩, h⟩ := returns_getRound_bind.1 h
  obtain ⟨league, -, h⟩ := returns_getLeague_bind.1 h
  obtain rfl : round = found := Option.some.inj (hround.symm.trans hfound)
  rw [returns_current_bind, if_pos hlate] at h
  obtain ⟨rfl, -⟩ := returns_pure.1 h
  rfl

/-- A late call to use a boost changes nothing. -/
theorem storeAfter_applyBoost_late (hround : s.round? roundId = some round)
    (hlate : round.deadline.stamp < now.stamp) :
    (applyBoost userId leagueId roundId code now).storeAfter s = s := by
  have hstore := storeAfter_boostEligibility s userId leagueId roundId code now
  rw [storeAfter_eq] at hstore ⊢
  unfold applyBoost applyBoostAmid
  rw [effect_bind]
  rcases heffect : (boostEligibility userId leagueId roundId code now).effect s with ⟨_ | e, t⟩
  · rw [heffect] at hstore
    exact hstore
  · obtain rfl : t = s := by rw [heffect] at hstore; exact hstore
    simp only [effect_ite, not_canUse_of_late hround hlate heffect]
    rfl

/-- Take back the use that a member makes in a round. -/
def dropUse (userId leagueId roundId : Int) : Engine Bool := do
  let s ← current
  match s.useInRound? userId leagueId roundId with
  | none => return false
  | some use =>
    put { s with boostUsages := Table.erase s.boostUsages use.id }
    say .info .boosts ("Boost " ++ use.boostCode ++ " removed " ++ place userId leagueId roundId)
    return true

instance (userId leagueId roundId : Int) : Quiet (dropUse userId leagueId roundId) := by
  refine quiet_bind inferInstance fun s => ?_
  split <;> infer_instance

/-- A call to take a boost back checks the deadline first. -/
theorem removeBoost_eq (userId leagueId roundId : Int) (now : DateTime) :
    removeBoost userId leagueId roundId now = (do
      let round ← getRound roundId
      let _ ← getLeague leagueId
      if round.deadline.stamp < now.stamp then return false
      checkKey userId
      dropUse userId leagueId roundId) := rfl

theorem storeAfter_dropUse (s : Store) (userId leagueId roundId : Int) :
    (dropUse userId leagueId roundId).storeAfter s =
      match s.useInRound? userId leagueId roundId with
      | none => s
      | some use => { s with boostUsages := Table.erase s.boostUsages use.id } := by
  show ((match s.useInRound? userId leagueId roundId with
    | none => pure false
    | some use => do
      put { s with boostUsages := Table.erase s.boostUsages use.id }
      say .info .boosts ("Boost " ++ use.boostCode ++ " removed " ++ place userId leagueId roundId)
      return true : Engine Bool).storeAfter s) = _
  cases s.useInRound? userId leagueId roundId with
  | none => rfl
  | some use => rfl

/-- A call to take a boost back changes nothing, or it comes in time and drops the one that is used
in the round. -/
theorem storeAfter_removeBoost_eq (s : Store) (userId leagueId roundId : Int) (now : DateTime) :
    (removeBoost userId leagueId roundId now).storeAfter s = s ∨
      ∃ round use, s.round? roundId = some round ∧ ¬round.deadline.stamp < now.stamp ∧
        s.useInRound? userId leagueId roundId = some use ∧
        (removeBoost userId leagueId roundId now).storeAfter s =
          { s with boostUsages := Table.erase s.boostUsages use.id } := by
  rw [removeBoost_eq, storeAfter_eq, effect_bind, effect_getRound]
  cases hfound : found "Round" (s.round? roundId) roundId with
  | error fault => exact .inl rfl
  | ok round =>
    simp only
    rw [effect_bind, effect_getLeague]
    cases found "League" (s.league? leagueId) leagueId with
    | error fault => exact .inl rfl
    | ok league =>
      simp only
      rw [effect_ite]
      split
      · exact .inl rfl
      · rename_i hlate
        rw [effect_bind, effect_checkKey]
        cases checked (fits userId) with
        | error fault => exact .inl rfl
        | ok _ =>
          simp only
          rw [← storeAfter_eq, storeAfter_dropUse]
          cases huse : s.useInRound? userId leagueId roundId with
          | none => exact .inl rfl
          | some use => exact .inr ⟨round, use, (found_eq_ok.1 hfound).2, hlate, rfl, rfl⟩

end Boost

namespace Store

variable {s t : Store} {roundId : Int}

/-! ### The boosts of a round -/

theorem usesIn_of_boostUsages (h : t.boostUsages = s.boostUsages) (roundId : Int) :
    t.usesIn roundId = s.usesIn roundId := by
  rw [usesIn, h, usesIn]

/-- A boost that is used in another round changes nothing in this one. -/
theorem usesIn_withUse_of_ne {round : Round} (hne : round.id ≠ roundId) (userId leagueId : Int)
    (code : String) (now : DateTime) :
    (s.withUse userId leagueId round code now).usesIn roundId = s.usesIn roundId := by
  rw [usesIn, withUse, Table.add, List.filter_append,
    List.filter_cons_of_neg (by simpa using hne), List.filter_nil, List.append_nil, usesIn]

/-- Nor does one that is taken back in another round. -/
theorem usesIn_erase_of_ne (huses : Table.Ordered s.boostUsages) {use : BoostUsage}
    (huse : use ∈ s.boostUsages) (hne : use.roundId ≠ roundId) :
    { s with boostUsages := Table.erase s.boostUsages use.id }.usesIn roundId =
      s.usesIn roundId := by
  show (s.boostUsages.filter (·.id != use.id)).filter (·.roundId == roundId) = s.usesIn roundId
  rw [List.filter_filter, usesIn]
  refine List.filter_congr fun u hu => ?_
  by_cases hid : u.id = use.id
  · obtain rfl : u = use := huses.eq_of_id_eq hu huse hid
    rw [beq_false_of_ne hne, Bool.false_and]
  · rw [bne_iff_ne.2 hid, Bool.and_true]

theorem roundId_of_useInRound? {userId leagueId : Int} {use : BoostUsage}
    (h : s.useInRound? userId leagueId roundId = some use) : use.roundId = roundId := by
  have hkey := List.find?_some h
  simp only [Bool.and_eq_true, beq_iff_eq] at hkey
  exact hkey.2

section Late

variable {deadline now : DateTime} (hdeadline : s.deadline? roundId = some deadline)
  (hlate : deadline.stamp < now.stamp)

include hdeadline hlate

/-- After the deadline of a round a call to use a boost changes no boost in it. -/
theorem usesIn_applyBoost (userId leagueId id : Int) (code : String) :
    ((Boost.applyBoost userId leagueId id code now).storeAfter s).usesIn roundId =
      s.usesIn roundId := by
  obtain ⟨round, hround, rfl⟩ := Option.map_eq_some_iff.1 hdeadline
  by_cases hid : id = roundId
  · rw [hid, Boost.storeAfter_applyBoost_late hround hlate]
  · rcases Boost.storeAfter_applyBoost s userId leagueId id code now with
      hsame | ⟨other, league, rule, hother, -, -, hused⟩
    · rw [hsame]
    · rw [hused]
      refine usesIn_withUse_of_ne ?_ userId leagueId code now
      rwa [show other.id = id from Table.id_of_get? hother]

/-- Nor does a call to take a boost back. -/
theorem usesIn_removeBoost (huses : Table.Ordered s.boostUsages) (userId leagueId id : Int) :
    ((Boost.removeBoost userId leagueId id now).storeAfter s).usesIn roundId =
      s.usesIn roundId := by
  obtain ⟨round, hround, rfl⟩ := Option.map_eq_some_iff.1 hdeadline
  rcases Boost.storeAfter_removeBoost_eq s userId leagueId id now with
    hsame | ⟨other, use, hother, hintime, huse, hdropped⟩
  · rw [hsame]
  · rw [hdropped]
    refine usesIn_erase_of_ne huses (List.mem_of_find?_eq_some huse) ?_
    rw [roundId_of_useInRound? huse]
    rintro rfl
    obtain rfl : round = other := Option.some.inj (hround.symm.trans hother)
    exact hintime hlate

end Late

/-! ### Calls that record results -/

variable {round : Round} {scores : List MatchScore} {now : DateTime} {answer : Except Fault Nat}

/-- A call that records results leaves the uses of boosts alone. -/
theorem Reported.boostUsages (h : s.Reported round scores now answer t) :
    t.boostUsages = s.boostUsages := by
  cases h with
  | refused => rfl
  | carried recording _ hends =>
    obtain ⟨_, _, _, _, _, hframe⟩ := hends.frame
    obtain ⟨_, _, _, _, hcarried⟩ := s.carried_frame round recording now
    rw [hframe, hcarried]

/-- And the deadlines of rounds. -/
theorem Reported.deadline? (h : s.Reported round scores now answer t)
    (hround : s.round? round.id = some round) (id : Int) : t.deadline? id = s.deadline? id := by
  by_cases hid : id = round.id
  · subst hid
    cases h with
    | refused => rfl
    | carried recording _ hends =>
      have hopened : (round.opened recording now).deadline = round.deadline := by
        unfold Round.opened
        split <;> rfl
      rw [deadline?_of_round hround]
      rcases hends.round?_of_carried hround with hsame | ⟨-, hcompleted⟩
      · rw [deadline?_of_round hsame, hopened]
      · rw [deadline?_of_round hcompleted, Round.withStatus, hopened]
  · rw [Store.deadline?, h.round?_of_ne hid, Store.deadline?]

end Store

namespace Call

/-- The time at which a call is made; ranking members takes none. -/
def time? : Call → Option DateTime
  | updateResults _ _ now => some now
  | settle _ now => some now
  | recalculate _ now => some now
  | payPrizes _ _ now => some now
  | useBoost _ _ _ _ now => some now
  | dropBoost _ _ _ now => some now
  | _ => none

/-- The call is made strictly after a deadline. -/
def IsAfter (call : Call) (deadline : DateTime) : Prop :=
  ∀ now ∈ call.time?, deadline.stamp < now.stamp

instance (call : Call) (deadline : DateTime) : Decidable (call.IsAfter deadline) :=
  inferInstanceAs (Decidable (∀ now ∈ call.time?, deadline.stamp < now.stamp))

variable {s : Store} {roundId : Int} {deadline : DateTime}

/-! ### One call -/

/-- No call moves a deadline. -/
theorem deadline?_after (s : Store) (call : Call) (roundId : Int) :
    (call.after s).deadline? roundId = s.deadline? roundId := by
  by_cases hrecords : call.Records
  · cases call with
    | updateResults id scores now =>
      rw [after_updateResults]
      exact kept_updateMatchResults (P := fun t => t.deadline? roundId = s.deadline? roundId) rfl
        fun round answer t _ hround h => h.deadline? hround roundId
    | _ => exact absurd hrecords id
  · obtain ⟨counts, points, uses, stats, winnings, hsame⟩ := samePlay_after s hrecords
    rw [hsame]
    rfl

/-- The call uses a boost or takes one back. -/
def Boosts : Call → Prop
  | useBoost _ _ _ _ _ => True
  | dropBoost _ _ _ _ => True
  | _ => False

theorem keptBySettling_boostUsages (uses : List BoostUsage) :
    KeptBySettling fun t => t.boostUsages = uses where
  recomputed s round hs := by
    obtain ⟨counts, points, hpoints⟩ := s.recomputed_frame round
    rw [hpoints]
    exact hs
  paid _ _ _ hs := hs

/-- Boosts are used and taken back by their own calls alone. -/
theorem boostUsages_after (s : Store) {call : Call} (h : ¬call.Boosts) :
    (call.after s).boostUsages = s.boostUsages := by
  have hranks {t : Store} (ht : s.Refigured t) : t.boostUsages = s.boostUsages := by
    obtain ⟨stats, rfl⟩ := ht.frame
    rfl
  have hsettling := keptBySettling_boostUsages s.boostUsages
  rw [after_eq]
  cases call with
  | updateResults id scores now =>
    exact kept_updateMatchResults (P := fun t => t.boostUsages = s.boostUsages) rfl
      fun _ _ _ _ _ h => h.boostUsages
  | settle id now => exact hsettling.storeAfter_settleRound rfl id now
  | recalculate seasonId now => exact hsettling.storeAfter_recalculateSeason rfl seasonId now
  | payPrizes leagueId id now => exact hsettling.storeAfter_processPrizes rfl leagueId id now
  | useBoost => exact absurd trivial h
  | dropBoost => exact absurd trivial h
  | takeSnapshots id => exact hranks (refigured_takeSnapshots s id)
  | updateLive id => exact hranks (refigured_updateLiveStats s id)
  | updateStable id => exact hranks (refigured_updateStableStats s id)

theorem keptBetweenResults_ordered :
    KeptBetweenResults fun t => Table.Ordered t.boostUsages where
  recomputed s round hs := by
    rw [(keptBySettling_boostUsages s.boostUsages).recomputed s round rfl]
    exact hs
  paid _ _ _ hs := hs
  used s _ _ _ _ _ hs _ := by
    dsimp only [Store.withUse]
    exact hs.add fun _ => rfl
  dropped _ _ huses hs := hs.sublist huses

/-- The uses of boosts stay in the order of their ids. -/
theorem ordered_uses_after (huses : Table.Ordered s.boostUsages) (call : Call) :
    Table.Ordered (call.after s).boostUsages := by
  by_cases hrecords : call.Records
  · cases call with
    | updateResults =>
      rw [boostUsages_after s]
      · exact huses
      · exact not_false
    | _ => exact absurd hrecords id
  · refine keptBetweenResults_ordered.after hrecords (fun _ t ht => ?_) huses
    obtain ⟨stats, rfl⟩ := ht.frame
    exact huses

/-- After the deadline of a round no call changes the boosts that are used in it. -/
theorem usesIn_after (huses : Table.Ordered s.boostUsages)
    (hdeadline : s.deadline? roundId = some deadline) {call : Call}
    (hafter : call.IsAfter deadline) : (call.after s).usesIn roundId = s.usesIn roundId := by
  cases call with
  | useBoost userId leagueId id code now =>
    rw [after_eq]
    exact usesIn_applyBoost hdeadline (hafter now rfl) userId leagueId id code
  | dropBoost userId leagueId id now =>
    rw [after_eq]
    exact usesIn_removeBoost hdeadline (hafter now rfl) huses userId leagueId id
  | _ =>
    refine usesIn_of_boostUsages (boostUsages_after s ?_) roundId
    exact not_false

end Call

end PredictionLeague
