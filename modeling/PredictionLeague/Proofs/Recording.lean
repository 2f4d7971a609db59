import PredictionLeague.Proofs.Stages

/-!
# Scores that are taken

The scores of a call are taken together or not at all: one score below zero of a match of the round
refuses all of them, and so does a number that does not fit. Scores of other matches do not count,
whatever they say.

* `GoodScores`: no score of one of the matches is below zero;
* `exists_recordScores`, `updated_recordScores`: good scores are recorded and no others, and which
  matches they update;
* `Store.Refuses`: a round that does not exist, a score below zero, or a number that does not fit;
* `exists_accepts_iff`: which scores are taken;
* `stops_of_refuses`, `accepts_of_stops`: what a call does with others, and why else it stops;
* `effect_updateMatchResults_scoresOf`: scores of other matches do not count.
-/

namespace PredictionLeague

open Engine

/-- The numbers of a match. -/
def Match.numbers (m : Match) : List Int := m.home.toList ++ m.away.toList

/-- No score of one of the matches is below zero. -/
def GoodScores (fixtures : List Match) (scores : List MatchScore) : Prop :=
  ∀ score ∈ scores, score.matchId ∈ fixtures.map (·.id) → 0 ≤ score.home ∧ 0 ≤ score.away

/-- The scores of the given matches. -/
def scoresOf (fixtures : List Match) (scores : List MatchScore) : List MatchScore :=
  scores.filter fun score => (fixtures.map (·.id)).contains score.matchId

theorem Match.record_eq_ok {m m' : Match} {score : MatchScore} :
    m.record score.home score.away score.status = .ok m' ↔
      (0 ≤ score.home ∧ 0 ≤ score.away) ∧ m' = m.withScore score := by
  have hnegative : (score.home < 0 ∨ score.away < 0) ↔ ¬(0 ≤ score.home ∧ 0 ≤ score.away) := by
    omega
  constructor
  · intro h
    refine ⟨?_, Match.eq_withScore h⟩
    by_contra hbad
    rw [Match.record, if_pos (hnegative.2 hbad)] at h
    simp at h
  · rintro ⟨hgood, rfl⟩
    rw [Match.record, if_neg fun hbad => hnegative.1 hbad hgood, Match.withScore]
    split <;> rfl

theorem isSome_get?_fixtures {fixtures : List Match} {id : Int} :
    (Table.get? fixtures id).isSome = true ↔ id ∈ fixtures.map (·.id) := by
  rw [Table.get?, List.find?_isSome, List.mem_map]
  simp only [beq_iff_eq]
  exact Iff.rfl

section Scores

variable {s s' : Store} {roundId : Int} {scores : List MatchScore} {r r' : Recording}

/-- A match that takes a score stays one of the matches. -/
theorem map_id_take {m : Match} {score : MatchScore} (h : r.take m score = .ok r') :
    r'.fixtures.map (·.id) = r.fixtures.map (·.id) := by
  unfold Recording.take at h
  cases hrecord : m.record score.home score.away score.status with
  | error fault => simp [hrecord, bind, Except.bind] at h
  | ok m' =>
    rw [hrecord] at h
    obtain rfl := Except.ok.inj h
    show (Table.replace r.fixtures m').map (·.id) = _
    rw [Table.replace, List.map_map]
    refine List.map_congr_left fun m hm => ?_
    rw [Function.comp_apply]
    split
    · rename_i hid
      exact (beq_iff_eq.1 hid).symm
    · rfl

/-- A score of one of the matches is among their scores. -/
theorem scoresOf_cons_of_mem {fixtures : List Match} {score : MatchScore}
    (h : score.matchId ∈ fixtures.map (·.id)) (scores : List MatchScore) :
    scoresOf fixtures (score :: scores) = score :: scoresOf fixtures scores :=
  List.filter_cons_of_pos (List.contains_iff_mem.2 h)

theorem scoresOf_cons_of_not_mem {fixtures : List Match} {score : MatchScore}
    (h : score.matchId ∉ fixtures.map (·.id)) (scores : List MatchScore) :
    scoresOf fixtures (score :: scores) = scoresOf fixtures scores :=
  List.filter_cons_of_neg fun hmem => h (List.contains_iff_mem.1 hmem)

theorem scoresOf_congr {fixtures fixtures' : List Match}
    (h : fixtures'.map (·.id) = fixtures.map (·.id)) (scores : List MatchScore) :
    scoresOf fixtures' scores = scoresOf fixtures scores := by
  unfold scoresOf
  rw [h]

/-- A match takes a score that is not below zero, and no other. -/
theorem exists_take_iff {m : Match} {score : MatchScore} :
    (∃ r', r.take m score = .ok r') ↔ 0 ≤ score.home ∧ 0 ≤ score.away := by
  unfold Recording.take
  simp only [bind_eq_ok, Match.record_eq_ok]
  constructor
  · rintro ⟨_, _, ⟨hgood, -⟩, -⟩
    exact hgood
  · intro hgood
    exact ⟨_, _, ⟨hgood, rfl⟩, rfl⟩

theorem goodScores_cons {fixtures : List Match} {score : MatchScore} :
    GoodScores fixtures (score :: scores) ↔
      (score.matchId ∈ fixtures.map (·.id) → 0 ≤ score.home ∧ 0 ≤ score.away) ∧
        GoodScores fixtures scores :=
  List.forall_mem_cons

theorem goodScores_congr {fixtures fixtures' : List Match}
    (h : fixtures'.map (·.id) = fixtures.map (·.id)) :
    GoodScores fixtures' scores ↔ GoodScores fixtures scores := by
  unfold GoodScores
  rw [h]

/-- Good scores are recorded. -/
theorem exists_recordScores (hgood : GoodScores r.fixtures scores) :
    ∃ r', (recordScores roundId scores r).Returns s r' s := by
  induction scores generalizing r with
  | nil => exact ⟨r, returns_pure.2 ⟨rfl, rfl⟩⟩
  | cons score scores ih =>
    obtain ⟨hfirst, hrest⟩ := goodScores_cons.1 hgood
    unfold recordScores
    split
    · obtain ⟨r', hr'⟩ := ih hrest
      exact ⟨r', returns_say_bind.2 hr'⟩
    · rename_i m hm
      have hnamed := isSome_get?_fixtures.1 (Option.isSome_iff_exists.2 ⟨m, hm⟩)
      obtain ⟨r₁, htake⟩ := exists_take_iff.2 (hfirst hnamed)
      obtain ⟨r', hr'⟩ := ih ((goodScores_congr (map_id_take htake)).2 hrest)
      exact ⟨r', returns_lift_bind.2 ⟨r₁, htake, hr'⟩⟩

/-- Scores that are recorded are good, and they update their matches in their order. -/
theorem updated_recordScores (h : (recordScores roundId scores r).Returns s r' s') :
    GoodScores r.fixtures scores ∧
      r'.updated = r.updated ++ (scoresOf r.fixtures scores).map (·.matchId) := by
  induction scores generalizing r with
  | nil =>
    obtain ⟨rfl, -⟩ := returns_pure.1 h
    exact ⟨by simp [GoodScores], by simp [scoresOf]⟩
  | cons score scores ih =>
    unfold recordScores at h
    split at h
    · rename_i hnone
      have hother : score.matchId ∉ r.fixtures.map (·.id) := by
        rw [← isSome_get?_fixtures, hnone]
        exact Bool.false_ne_true
      obtain ⟨hgood, hupdated⟩ := ih (returns_say_bind.1 h)
      refine ⟨goodScores_cons.2 ⟨fun hmem => absurd hmem hother, hgood⟩, ?_⟩
      rw [scoresOf_cons_of_not_mem hother]
      exact hupdated
    · rename_i m hm
      have hid : m.id = score.matchId := Table.id_of_get? hm
      have hnamed := isSome_get?_fixtures.1 (Option.isSome_iff_exists.2 ⟨m, hm⟩)
      obtain ⟨r₁, htake, h⟩ := returns_lift_bind.1 h
      have hids := map_id_take htake
      obtain ⟨hgood, hupdated⟩ := ih h
      refine ⟨goodScores_cons.2 ⟨fun _ => exists_take_iff.1 ⟨r₁, htake⟩,
        (goodScores_congr hids).1 hgood⟩, ?_⟩
      have hfirst : r₁.updated = r.updated ++ [score.matchId] := by
        unfold Recording.take at htake
        obtain ⟨m', -, hr₁⟩ := bind_eq_ok.1 htake
        obtain rfl := Except.ok.inj hr₁
        rw [hid]
      rw [hupdated, hfirst, scoresOf_congr hids, scoresOf_cons_of_mem hnamed, List.map_cons,
        List.append_assoc, List.singleton_append]

/-- Scores of other matches are skipped. -/
theorem effect_recordScores_scoresOf (r : Recording) (s : Store) :
    (recordScores roundId (scoresOf r.fixtures scores) r).effect s =
      (recordScores roundId scores r).effect s := by
  induction scores generalizing r with
  | nil => rfl
  | cons score scores ih =>
    cases hm : Table.get? r.fixtures score.matchId with
    | none =>
      have hother : score.matchId ∉ r.fixtures.map (·.id) := by
        rw [← isSome_get?_fixtures, hm]
        exact Bool.false_ne_true
      rw [scoresOf_cons_of_not_mem hother, recordScores.eq_2, hm]
      simp only
      rw [Engine.effect_bind, effect_say]
      exact ih r
    | some m =>
      have hnamed := isSome_get?_fixtures.1 (Option.isSome_iff_exists.2 ⟨m, hm⟩)
      rw [scoresOf_cons_of_mem hnamed, recordScores.eq_2, recordScores.eq_2, hm]
      simp only
      rw [Engine.effect_bind, Engine.effect_bind, effect_lift]
      cases htake : r.take m score with
      | error fault => rfl
      | ok r₁ =>
        have hrest := ih r₁
        rw [scoresOf_congr (map_id_take htake)] at hrest
        exact hrest

end Scores

/-! ### Calls -/

namespace Store

variable {s : Store} {roundId : Int} {scores : List MatchScore} {recording : Recording}
  {now : DateTime}

/-- A call is refused: there is no such round, a score of one of its matches is below zero, or a
number is recorded that does not fit. -/
inductive Refuses (s : Store) (roundId : Int) (scores : List MatchScore) : Prop
  | missing (h : fits roundId = true → s.round? roundId = none)
  | negative (score : MatchScore) (hscore : score ∈ scores)
    (hnamed : score.matchId ∈ (s.fixturesOf roundId).map (·.id))
    (h : score.home < 0 ∨ score.away < 0)
  | unfit (hname : s.Named roundId scores) (m : Match) (hm : m ∈ s.fixturesOf roundId) (n : Int)
    (hn : n ∈ (m.afterScores scores).numbers) (h : fits n = false)

theorem refuses_iff : s.Refuses roundId scores ↔
    (fits roundId = true → s.round? roundId = none) ∨
      (∃ score ∈ scores, score.matchId ∈ (s.fixturesOf roundId).map (·.id) ∧
        (score.home < 0 ∨ score.away < 0)) ∨
      ((∃ m ∈ s.fixturesOf roundId, (lastScore? scores m.id).isSome = true) ∧
        ∃ m ∈ s.fixturesOf roundId, ∃ n ∈ (m.afterScores scores).numbers, fits n = false) := by
  constructor
  · intro h
    cases h with
    | missing h => exact .inl h
    | negative score hscore hnamed h => exact .inr (.inl ⟨score, hscore, hnamed, h⟩)
    | unfit hname m hm n hn h => exact .inr (.inr ⟨hname, m, hm, n, hn, h⟩)
  · rintro (h | ⟨score, hscore, hnamed, h⟩ | ⟨hname, m, hm, n, hn, h⟩)
    · exact .missing h
    · exact .negative score hscore hnamed h
    · exact .unfit hname m hm n hn h

instance (s : Store) (roundId : Int) (scores : List MatchScore) :
    Decidable (s.Refuses roundId scores) := decidable_of_iff _ refuses_iff.symm

/-- The numbers of all matches, with what is recorded, fit. -/
def NumbersFit (fixtures : List Match) (scores : List MatchScore) : Prop :=
  ∀ m ∈ fixtures, ∀ n ∈ (m.afterScores scores).numbers, fits n = true

theorem Accepts.good (h : s.Accepts roundId scores recording) :
    GoodScores (s.fixturesOf roundId) scores := (updated_recordScores h.recorded).1

theorem Accepts.updated_eq (h : s.Accepts roundId scores recording) :
    recording.updated = (scoresOf (s.fixturesOf roundId) scores).map (·.matchId) :=
  (updated_recordScores h.recorded).2

theorem Accepts.numbers_iff (hs : s.Keyed)
    (h : (recordScores roundId scores (.start (s.fixturesOf roundId))).Returns s recording s) :
    recording.numbers.all fits = true ↔ NumbersFit (s.fixturesOf roundId) scores := by
  obtain ⟨-, hfixtures, -⟩ := recordScores_returns (hs.fixtures.filter _).nodup_ids h
  rw [Recording.numbers, hfixtures, List.all_eq_true]
  simp only [List.mem_flatMap]
  constructor
  · intro hall m hm n hn
    exact hall n ⟨_, List.mem_map_of_mem hm, hn⟩
  · rintro hall n ⟨_, hm', hn⟩
    obtain ⟨m, hm, rfl⟩ := List.mem_map.1 hm'
    exact hall m hm n hn

/-- Which scores are taken. -/
theorem exists_accepts_iff (hs : s.Keyed) : (∃ recording, s.Accepts roundId scores recording) ↔
    fits roundId = true ∧ s.Named roundId scores ∧ GoodScores (s.fixturesOf roundId) scores ∧
      NumbersFit (s.fixturesOf roundId) scores := by
  constructor
  · rintro ⟨recording, h⟩
    exact ⟨h.key, h.named hs, h.good, (Accepts.numbers_iff hs h.recorded).1 h.numbers⟩
  · rintro ⟨hkey, ⟨m, hm, hlast⟩, hgood, hnumbers⟩
    obtain ⟨recording, hrecorded⟩ : ∃ recording,
        (recordScores roundId scores (.start (s.fixturesOf roundId))).Returns s recording s :=
      exists_recordScores hgood
    obtain ⟨-, -, hupdated⟩ := recordScores_returns (hs.fixtures.filter _).nodup_ids hrecorded
    have hmem : m.id ∈ recording.updated := (hupdated m.id).2 (.inr ⟨List.mem_map_of_mem hm, hlast⟩)
    exact ⟨recording, hkey, hrecorded, List.ne_nil_of_mem hmem,
      (Accepts.numbers_iff hs hrecorded).2 hnumbers⟩

end Store

open Store

variable {s t : Store} {roundId : Int} {scores : List MatchScore} {now : DateTime} {n : Nat}

/-- A call that returns was not refused. -/
theorem not_refuses_of_returns (hs : s.Keyed)
    (h : (updateMatchResults roundId scores now).Returns s n t) : ¬s.Refuses roundId scores := by
  have hfound := h
  rw [updateMatchResults_eq] at hfound
  obtain ⟨round, ⟨hkey, hround⟩, hfound⟩ := returns_getRound_bind.1 hfound
  obtain rfl : round.id = roundId := Table.id_of_get? hround
  rw [returns_current_bind] at hfound
  obtain ⟨recording, u, hrecord, -⟩ := returns_bind.1 hfound
  intro hrefuses
  cases hrefuses with
  | missing hnone =>
    rw [hnone hkey] at hround
    simp at hround
  | negative score hscore hnamed hbad =>
    have hgood := (updated_recordScores hrecord).1 score hscore hnamed
    omega
  | unfit hname m hm x hx hunfit =>
    obtain ⟨recording', haccepts⟩ := exists_accepts hs h hname
    have hfits := (Accepts.numbers_iff hs haccepts.recorded).1 haccepts.numbers m hm x hx
    rw [hunfit] at hfits
    exact Bool.false_ne_true hfits

/-- A call that is refused changes nothing. -/
theorem stops_of_refuses (hs : s.Keyed) (h : s.Refuses roundId scores) :
    ∃ fault, (updateMatchResults roundId scores now).effect s = (.error fault, s) := by
  have hstore : (updateMatchResults roundId scores now).storeAfter s = s := by
    refine kept_updateMatchResults (P := fun t => t = s) rfl ?_
    rintro round answer t rfl hround hreported
    cases hreported with
    | refused => rfl
    | carried recording haccepts hends =>
      -- Scores that are taken give no reason to refuse them.
      obtain ⟨hkey, hname, hgood, hnumbers⟩ := (exists_accepts_iff hs).1 ⟨recording, haccepts⟩
      cases h with
      | missing hnone =>
        rw [hnone hkey] at hround
        simp at hround
      | negative score hscore hnamed hbad =>
        have hgood := hgood score hscore hnamed
        omega
      | unfit _ m hm x hx hunfit =>
        have hfits := hnumbers m hm x hx
        rw [hunfit] at hfits
        exact absurd hfits Bool.false_ne_true
  rw [storeAfter_eq] at hstore
  cases heffect : (updateMatchResults roundId scores now).effect s with
  | mk answer t =>
    rw [heffect] at hstore
    obtain rfl : t = s := hstore
    cases answer with
    | error fault => exact ⟨fault, rfl⟩
    | ok n => exact absurd h (not_refuses_of_returns hs heffect)

/-- A call that stops was refused, or its scores were taken. -/
theorem accepts_of_stops {fault : Fault} (hs : s.Keyed) (hnot : ¬s.Refuses roundId scores)
    (h : (updateMatchResults roundId scores now).effect s = (.error fault, t)) :
    ∃ round recording, s.round? roundId = some round ∧ s.Accepts roundId scores recording := by
  have hgood : GoodScores (s.fixturesOf roundId) scores := by
    intro score hscore hnamed
    by_contra hbad
    exact hnot (.negative score hscore hnamed (by omega))
  obtain ⟨hkey, round, hround⟩ : fits roundId = true ∧ ∃ round, s.round? roundId = some round := by
    by_contra hmissing
    refine hnot (.missing fun hkey => ?_)
    by_contra hsome
    exact hmissing ⟨hkey, Option.ne_none_iff_exists'.1 hsome⟩
  by_cases hname : s.Named roundId scores
  · have hnumbers : NumbersFit (s.fixturesOf roundId) scores := by
      intro m hm n hn
      by_contra hunfit
      exact hnot (.unfit hname m hm n hn (Bool.eq_false_of_not_eq_true hunfit))
    obtain ⟨recording, haccepts⟩ := (exists_accepts_iff hs).2 ⟨hkey, hname, hgood, hnumbers⟩
    exact ⟨round, recording, hround, haccepts⟩
  · -- Without a score of the round the call returns at once.
    obtain ⟨recording, hrecord⟩ : ∃ recording,
        (recordScores roundId scores (.start (s.fixturesOf roundId))).Returns s recording s :=
      exists_recordScores hgood
    obtain ⟨-, -, hupdated⟩ := recordScores_returns (hs.fixtures.filter _).nodup_ids hrecord
    have hempty : recording.updated.isEmpty = true := by
      rw [List.isEmpty_iff, List.eq_nil_iff_forall_not_mem]
      intro id hid
      rcases (hupdated id).1 hid with hmem | ⟨hmem, hlast⟩
      · exact List.not_mem_nil hmem
      · obtain ⟨m, hm, rfl⟩ := List.mem_map.1 hmem
        exact hname ⟨m, hm, hlast⟩
    have hreturns : (updateMatchResults roundId scores now).Returns s 0 s := by
      rw [updateMatchResults_eq, returns_getRound_bind]
      refine ⟨round, ⟨hkey, hround⟩, ?_⟩
      rw [returns_current_bind, returns_bind]
      refine ⟨recording, s, hrecord, ?_⟩
      rw [if_pos hempty]
      exact returns_pure.2 ⟨rfl, rfl⟩
    rw [hreturns] at h
    simp at h

/-- Scores of other matches do not count, whatever they say. -/
theorem effect_updateMatchResults_scoresOf (roundId : Int) (scores : List MatchScore)
    (now : DateTime) (s : Store) :
    (updateMatchResults roundId (scoresOf (s.fixturesOf roundId) scores) now).effect s =
      (updateMatchResults roundId scores now).effect s := by
  rw [updateMatchResults_eq, updateMatchResults_eq, Engine.effect_bind, Engine.effect_bind,
    effect_getRound]
  cases found "Round" (s.round? roundId) roundId with
  | error fault => rfl
  | ok round =>
    simp only
    rw [Engine.effect_bind, Engine.effect_bind, effect_current]
    simp only
    have hskip : (recordScores roundId (scoresOf (s.fixturesOf roundId) scores)
          (.start (s.fixturesOf roundId))).effect s =
        (recordScores roundId scores (.start (s.fixturesOf roundId))).effect s :=
      effect_recordScores_scoresOf (.start (s.fixturesOf roundId)) s
    rw [Engine.effect_bind, Engine.effect_bind, hskip]

end PredictionLeague
