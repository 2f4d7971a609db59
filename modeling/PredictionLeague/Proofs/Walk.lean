import PredictionLeague.Proofs.Prize.Record
import PredictionLeague.Proofs.Settled

/-!
# The walk over the rounds of a season

The rounds of a season are settled one after the other: each finds the points of the rounds before
it made anew, and those of the rounds after it as they were.

* `Walk`: the awards found on a walk over rounds, and the store that it leaves;
* `returns_walk`: a season is settled by recording the awards of its walk;
* `Walk.agreeOn`, `Walk.settled`: what a walk leaves alone, and what it settles;
* `Walk.again`: a walk over settled rounds finds the same awards and leaves the store as it is, if
  every round finds what it needs already in place.
-/

namespace PredictionLeague

/-- A walk over rounds: the points of each round are made anew and its awards are found on them. -/
inductive Walk : Store → List Round → List Prize.Award → Store → Prop
  | done (s : Store) : Walk s [] [] s
  | settle {s t : Store} {round : Round} {rounds : List Round} {as bs : List Prize.Award}
    (fit : s.pointsFit round = true) (awards : (s.recomputed round).roundAwards round = .ok as)
    (rest : Walk (s.recomputed round) rounds bs t) : Walk s (round :: rounds) (as ++ bs) t

namespace Store

/-! ### Winnings do not matter -/

theorem pointed_withWinnings (s : Store) (round : Round) (winnings : List Winning) :
    { s with winnings }.pointed round = { s.pointed round with winnings } := by
  have hfold (leagues : List League) (c : Store) :
      leagues.foldl (fun s league => s.scored round.id league) { c with winnings } =
        { leagues.foldl (fun s league => s.scored round.id league) c with winnings } := by
    induction leagues generalizing c with
    | nil => rfl
    | cons league leagues ih => exact ih (c.scored round.id league)
  exact hfold (s.leaguesOf round.seasonId) (s.counted round.id)

theorem recomputed_withWinnings (s : Store) (round : Round) (winnings : List Winning) :
    { s with winnings }.recomputed round = { s.recomputed round with winnings } :=
  congrArg (·.boosted round.id) (s.pointed_withWinnings round winnings)

theorem pointsFit_withWinnings (s : Store) (round : Round) (winnings : List Winning) :
    { s with winnings }.pointsFit round = s.pointsFit round := by
  rw [pointsFit, pointed_withWinnings]
  rfl

end Store

namespace Walk

variable {s t : Store} {rounds : List Round} {awards : List Prize.Award}

theorem withWinnings (h : Walk s rounds awards t) (winnings : List Winning) :
    Walk { s with winnings } rounds awards { t with winnings } := by
  induction h with
  | done s => exact .done _
  | @settle s t round rounds as bs hfit hawards _ ih =>
    rw [← s.recomputed_withWinnings round winnings] at ih
    refine .settle ((s.pointsFit_withWinnings round winnings).trans hfit) ?_ ih
    rw [s.recomputed_withWinnings round winnings]
    exact hawards

/-- A walk touches points alone. -/
theorem frame (h : Walk s rounds awards t) :
    ∃ counts points, t = { s with roundResults := counts, leagueResults := points } := by
  induction h with
  | done s => exact ⟨_, _, rfl⟩
  | @settle s t round rounds as bs _ _ _ ih =>
    obtain ⟨counts, points, hround⟩ := s.recomputed_frame round
    obtain ⟨counts', points', rfl⟩ := ih
    exact ⟨counts', points', by rw [hround]⟩

/-- Awards recorded before a walk are recorded before its own. -/
theorem exists_withAwards {s s' : Store} {rounds : List Round} {bs : List Prize.Award}
    (now : DateTime) (as : List Prize.Award) :
    (∃ t, Walk (s.withAwards now as) rounds bs t ∧ s' = t.withAwards now bs) ↔
      ∃ t, Walk s rounds bs t ∧ s' = t.withAwards now (as ++ bs) := by
  constructor
  · rintro ⟨t, hwalk, rfl⟩
    refine ⟨_, hwalk.withWinnings s.winnings, ?_⟩
    obtain ⟨counts, points, rfl⟩ := hwalk.frame
    rw [Store.withAwards_append]
    rfl
  · rintro ⟨t, hwalk, rfl⟩
    refine ⟨_, hwalk.withWinnings (s.withAwards now as).winnings, ?_⟩
    obtain ⟨counts, points, rfl⟩ := hwalk.frame
    rw [Store.withAwards_append]
    rfl

theorem keyed (h : Walk s rounds awards t) (hs : s.Keyed) : t.Keyed := by
  induction h with
  | done s => exact hs
  | settle _ _ _ ih => exact ih (hs.recomputed _)

theorem split {xs ys : List Round} (h : Walk s (xs ++ ys) awards t) :
    ∃ m as bs, Walk s xs as m ∧ Walk m ys bs t ∧ awards = as ++ bs := by
  induction xs generalizing s awards with
  | nil => exact ⟨s, [], awards, .done s, h, rfl⟩
  | cons x xs ih =>
    cases h with
    | @settle _ _ _ _ as bs hfit hawards hrest =>
      obtain ⟨m, cs, ds, hxs, hys, rfl⟩ := ih hrest
      exact ⟨m, as ++ cs, ds, .settle hfit hawards hxs, hys, (List.append_assoc ..).symm⟩

theorem known (h : Walk s rounds awards t) : ∀ award ∈ awards, award.Known := by
  induction h with
  | done s => exact fun award haward => absurd haward (by simp)
  | settle _ hawards _ ih =>
    exact List.forall_mem_append.2 ⟨Store.known_roundAwards hawards, ih⟩

/-- A walk leaves the rounds alone that it does not pass. -/
theorem agreeOn (h : Walk s rounds awards t) (hs : s.Keyed) {p : Int → Bool}
    (hp : ∀ round ∈ rounds, p round.id = false) : Store.AgreeOn p s t := by
  induction h with
  | done s => exact .refl p s
  | settle _ _ _ ih =>
    obtain ⟨hfirst, hrest⟩ := List.forall_mem_cons.1 hp
    exact (hs.agreeOn_recomputed hfirst).trans (ih (hs.recomputed _) hrest)

/-- The rounds other than those that a walk passes. -/
def others (rounds : List Round) (id : Int) : Bool := !rounds.any (·.id == id)

theorem others_of_mem {round : Round} (h : round ∈ rounds) : others rounds round.id = false := by
  rw [others, Bool.not_eq_false', List.any_eq_true]
  exact ⟨round, h, beq_self_eq_true round.id⟩

theorem others_of_not_mem {id : Int} (h : id ∉ rounds.map (·.id)) : others rounds id = true := by
  rw [others, Bool.not_eq_true', List.any_eq_false]
  exact fun round hround hid => h (List.mem_map.2 ⟨round, hround, beq_iff_eq.1 hid⟩)

/-- A walk settles the rounds that it passes. -/
theorem settled (h : Walk s rounds awards t) (hs : s.Keyed) (hnodup : (rounds.map (·.id)).Nodup) :
    ∀ round ∈ rounds, t.Settled round := by
  -- The first round is settled when it is passed, and the others leave it alone.
  induction h with
  | done s => exact fun round hround => absurd hround (by simp)
  | @settle s t round rounds as bs hfit _ hrest ih =>
    obtain ⟨hfirst, hnodup⟩ := List.nodup_cons.1 hnodup
    have hs' := hs.recomputed round
    refine List.forall_mem_cons.2 ⟨?_, ih hs' hnodup⟩
    exact (hrest.agreeOn hs' fun _ => others_of_mem).settled hs' (hrest.keyed hs')
      (others_of_not_mem hfirst) (hs.settled_recomputed hfit)

/-- A walk over settled rounds finds the same awards and leaves the store as it is, if the awards of
every round are the same at the end as when the round was passed. -/
theorem again (h : Walk s rounds awards t) (hs : s.Keyed) (hnodup : (rounds.map (·.id)).Nodup)
    (hsame : ∀ before round after as m bs, rounds = before ++ round :: after →
      Walk s (before ++ [round]) as m → Walk m after bs t →
        t.roundAwards round = m.roundAwards round) :
    Walk t rounds awards t := by
  have hsettled := h.settled hs hnodup
  have ht := h.keyed hs
  clear hnodup
  -- The walk is followed from the store that it leaves, which every round leaves as it is.
  induction h with
  | done s => exact .done s
  | @settle s t round rounds as bs hfit hawards hrest ih =>
    obtain ⟨hfirst, hsettled⟩ := List.forall_mem_cons.1 hsettled
    have hstays : t.recomputed round = t := ht.recomputed_of_settled hfirst.points
    have hhere : t.roundAwards round = .ok as :=
      (hsame [] round rounds _ _ _ rfl (.settle hfit hawards (.done _)) hrest).trans hawards
    refine .settle hfirst.fit (hstays.symm ▸ hhere) ?_
    rw [hstays]
    refine ih (hs.recomputed round) (fun before r after cs m ds hrounds hbefore hafter => ?_)
      hsettled ht
    exact hsame (round :: before) r after _ m ds (by rw [hrounds]; rfl)
      (.settle hfit hawards hbefore) hafter

end Walk

/-! ### Settling a season -/

section Returns

open Engine

variable {s s' : Store}

/-- Rounds are settled one after the other when a walk over them can be made, and then the awards of
the walk are recorded. -/
theorem returns_walk {seasonId : Int} {now : DateTime} {rounds : List Round}
    (hrounds : ∀ round ∈ rounds, s.round? round.id = some round ∧ round.status = .completed) :
    (rounds.forM (settleStep seasonId now)).Returns s () s' ↔
      (∀ round ∈ rounds, fits round.id ∧ ∀ league ∈ s.leaguesOf round.seasonId, fits league.id) ∧
        ∃ awards t, Walk s rounds awards t ∧ s' = t.withAwards now awards := by
  induction rounds generalizing s with
  | nil =>
    refine returns_pure.trans ?_
    constructor
    · rintro ⟨-, rfl⟩
      exact ⟨fun round hround => absurd hround (by simp), [], s', .done s', rfl⟩
    · rintro ⟨-, awards, t, ⟨⟩, rfl⟩
      exact ⟨rfl, rfl⟩
  | cons round rounds ih =>
    obtain ⟨hround, hrest⟩ := List.forall_mem_cons.1 hrounds
    obtain ⟨counts, points, hframe⟩ := s.recomputed_frame round
    -- What was paid on the way does not matter to the rounds that follow.
    have hstep (as : List Prize.Award) : (rounds.forM (settleStep seasonId now)).Returns
        ((s.recomputed round).withAwards now as) () s' ↔
          (∀ round ∈ rounds,
              fits round.id ∧ ∀ league ∈ s.leaguesOf round.seasonId, fits league.id) ∧
            ∃ bs t, Walk (s.recomputed round) rounds bs t ∧ s' = t.withAwards now (as ++ bs) := by
      have hmiddle : ∀ round' ∈ rounds,
          ((s.recomputed round).withAwards now as).round? round'.id = some round' ∧
            round'.status = .completed := by
        rw [hframe]
        exact hrest
      have hleagues (seasonId : Int) :
          ((s.recomputed round).withAwards now as).leaguesOf seasonId = s.leaguesOf seasonId := by
        rw [hframe]
        rfl
      rw [ih hmiddle]
      simp only [hleagues, Walk.exists_withAwards]
    rw [returns_forM_cons]
    simp only [returns_settleStep, returns_settleRound, List.forall_mem_cons]
    constructor
    · rintro ⟨u, ⟨n, round', ⟨hfits, hround'⟩, -, hfit, hleagues, as, hawards, rfl, -⟩, hmore⟩
      obtain rfl : round = round' := Option.some.inj (hround.1.symm.trans hround')
      obtain ⟨hall, bs, t, hwalk, rfl⟩ := (hstep as).1 hmore
      exact ⟨⟨⟨hfits, hleagues⟩, hall⟩, as ++ bs, t, .settle hfit hawards hwalk, rfl⟩
    · rintro ⟨⟨⟨hfits, hleagues⟩, hall⟩, awards, t, hwalk, rfl⟩
      cases hwalk with
      | @settle _ _ _ _ as bs hfit hawards hmore =>
        exact ⟨_, ⟨_, round, ⟨hfits, hround.1⟩, hround.2, hfit, hleagues, as, hawards, rfl, rfl⟩,
          (hstep as).2 ⟨hall, bs, t, hmore, rfl⟩⟩

end Returns

end PredictionLeague
