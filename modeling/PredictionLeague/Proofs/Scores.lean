import PredictionLeague.Proofs.Engine
import PredictionLeague.Proofs.Store
import PredictionLeague.Settlement

/-!
# Scores of the matches of a round

Of several scores of a match the last one counts, for the match and for the verdicts on its
predictions.

* `lastScore?`: the last of the scores that name a match;
* `Match.afterScores`: a match when scores were recorded;
* `Store.matchAfter`, `Store.predictionAfter`: a match and a prediction of the store when scores of
  a round were recorded;
* `recordScores_returns`, `fixtures_withRecording`: what is recorded;
* `Completes`, `newlyCompleted_recordScores`: whether a match was completed;
* `returns_rescoreMatches`: which predictions are judged again.
-/

namespace PredictionLeague

/-- The last of the scores of a match. -/
def lastScore? (scores : List MatchScore) (matchId : Int) : Option MatchScore :=
  scores.reverse.find? (·.matchId == matchId)

theorem lastScore?_append (xs ys : List MatchScore) (matchId : Int) :
    lastScore? (xs ++ ys) matchId = (lastScore? ys matchId).or (lastScore? xs matchId) := by
  rw [lastScore?, List.reverse_append, List.find?_append, lastScore?, lastScore?]

/-- Scores that come twice end as they do once. -/
theorem lastScore?_twice (scores : List MatchScore) (matchId : Int) :
    lastScore? (scores ++ scores) matchId = lastScore? scores matchId := by
  rw [lastScore?_append, Option.or_self]

theorem lastScore?_singleton (score : MatchScore) (matchId : Int) :
    lastScore? [score] matchId = if score.matchId == matchId then some score else none := by
  rw [lastScore?, List.reverse_singleton, List.find?_singleton]

theorem lastScore?_cons (score : MatchScore) (scores : List MatchScore) (matchId : Int) :
    lastScore? (score :: scores) matchId =
      (lastScore? scores matchId).or (if score.matchId == matchId then some score else none) := by
  rw [← lastScore?_singleton]
  exact lastScore?_append [score] scores matchId

/-- There is a last score of a match when one names it. -/
theorem isSome_lastScore? {scores : List MatchScore} {matchId : Int} :
    (lastScore? scores matchId).isSome = true ↔ ∃ score ∈ scores, score.matchId = matchId := by
  rw [lastScore?, List.find?_isSome]
  simp only [List.mem_reverse, beq_iff_eq]

namespace Match

/-- A match with a score; a scheduled match has none. -/
def withScore (m : Match) (score : MatchScore) : Match :=
  if score.status = .scheduled then { m with home := none, away := none, status := score.status }
  else { m with home := some score.home, away := some score.away, status := score.status }

/-- A match when scores were recorded: the last one that names it counts. -/
def afterScores (scores : List MatchScore) (m : Match) : Match :=
  match lastScore? scores m.id with
  | some score => m.withScore score
  | none => m

theorem eq_withScore {m m' : Match} {score : MatchScore}
    (h : m.record score.home score.away score.status = .ok m') : m' = m.withScore score := by
  unfold record at h
  unfold withScore
  split at h
  · exact absurd h (by simp)
  · split at h
    · rename_i hscheduled
      rw [if_pos hscheduled]
      exact (Except.ok.inj h).symm
    · rename_i hscheduled
      rw [if_neg hscheduled]
      exact (Except.ok.inj h).symm

@[simp] theorem id_withScore (m : Match) (score : MatchScore) : (m.withScore score).id = m.id := by
  unfold withScore
  split <;> rfl

@[simp] theorem roundId_withScore (m : Match) (score : MatchScore) :
    (m.withScore score).roundId = m.roundId := by
  unfold withScore
  split <;> rfl

@[simp] theorem status_withScore (m : Match) (score : MatchScore) :
    (m.withScore score).status = score.status := by
  unfold withScore
  split <;> rfl

/-- A score leaves no trace of the one before. -/
theorem withScore_withScore (m : Match) (score score' : MatchScore) :
    (m.withScore score).withScore score' = m.withScore score' := by
  unfold withScore
  split <;> split <;> rfl

@[simp] theorem id_afterScores (scores : List MatchScore) (m : Match) :
    (m.afterScores scores).id = m.id := by
  unfold afterScores
  split
  · exact id_withScore ..
  · rfl

theorem map_id_afterScores (scores : List MatchScore) (fixtures : List Match) :
    (fixtures.map (afterScores scores)).map (·.id) = fixtures.map (·.id) := by
  rw [List.map_map]
  exact List.map_congr_left fun m _ => m.id_afterScores scores

@[simp] theorem roundId_afterScores (scores : List MatchScore) (m : Match) :
    (m.afterScores scores).roundId = m.roundId := by
  unfold afterScores
  split
  · exact roundId_withScore ..
  · rfl

theorem withScore_afterScores (scores : List MatchScore) (m : Match) (score : MatchScore) :
    (m.afterScores scores).withScore score = m.withScore score := by
  rw [afterScores]
  split
  · exact withScore_withScore ..
  · rfl

theorem afterScores_append (xs ys : List MatchScore) (m : Match) :
    m.afterScores (xs ++ ys) = (m.afterScores xs).afterScores ys := by
  have hafter : (m.afterScores xs).afterScores ys = match lastScore? ys m.id with
      | some score => (m.afterScores xs).withScore score
      | none => m.afterScores xs := by
    rw [afterScores, id_afterScores]
  rw [hafter, afterScores, lastScore?_append]
  cases lastScore? ys m.id with
  | none => rw [Option.none_or, afterScores]
  | some score => exact (withScore_afterScores xs m score).symm

/-- The same scores once more change nothing. -/
theorem afterScores_twice (scores : List MatchScore) (m : Match) :
    (m.afterScores scores).afterScores scores = m.afterScores scores := by
  rw [← afterScores_append, afterScores, lastScore?_twice, afterScores]

end Match

/-! ### Recording -/

section Recording

open Engine

variable {s s' : Store} {roundId : Int} {scores : List MatchScore}

instance (roundId : Int) (scores : List MatchScore) (r : Recording) :
    Quiet (recordScores roundId scores r) := by
  induction scores generalizing r with
  | nil => exact inferInstanceAs (Quiet (pure r))
  | cons score scores ih =>
    unfold recordScores
    split
    · infer_instance
    · exact inferInstanceAs (Quiet (lift _ >>= fun r => recordScores roundId scores r))

theorem replace_withScore {fixtures : List Match} (hnodup : (fixtures.map (·.id)).Nodup) {m : Match}
    {score : MatchScore} (hm : Table.get? fixtures score.matchId = some m) :
    Table.replace fixtures (m.withScore score) = fixtures.map (Match.afterScores [score]) := by
  have hid : m.id = score.matchId := Table.id_of_get? hm
  refine List.map_congr_left fun r hr => ?_
  show (if r.id == (m.withScore score).id then _ else _) = _
  rw [Match.id_withScore, hid, Match.afterScores, lastScore?_singleton]
  by_cases hsame : r.id = score.matchId
  · obtain rfl : r = m := List.inj_on_of_nodup_map hnodup hr (List.mem_of_find?_eq_some hm)
      (hsame.trans hid.symm)
    rw [if_pos (beq_iff_eq.2 hsame), if_pos (beq_iff_eq.2 hsame.symm)]
  · rw [if_neg (by simpa using hsame), if_neg (by simpa using Ne.symm hsame)]

/-- A score of none of the matches leaves them as they are. -/
theorem map_afterScores_of_get?_none {fixtures : List Match} {score : MatchScore}
    (h : Table.get? fixtures score.matchId = none) :
    fixtures.map (Match.afterScores [score]) = fixtures := by
  refine (List.map_congr_left fun m hm => ?_).trans (List.map_id _)
  have hne : ¬(score.matchId == m.id) = true := by
    intro heq
    exact List.find?_eq_none.1 h m hm (beq_iff_eq.2 (beq_iff_eq.1 heq).symm)
  rw [Match.afterScores, lastScore?_singleton, if_neg hne]
  rfl

/-- A score that is taken is recorded on its match, which is named as updated. -/
theorem take_ok {r r' : Recording} (hnodup : (r.fixtures.map (·.id)).Nodup) {m : Match}
    {score : MatchScore} (hm : Table.get? r.fixtures score.matchId = some m)
    (h : r.take m score = .ok r') :
    r'.fixtures = r.fixtures.map (Match.afterScores [score]) ∧ r'.updated = r.updated ++ [m.id] ∧
      r'.newlyCompleted =
        (r.newlyCompleted || (score.status == .completed && m.status != .completed)) := by
  unfold Recording.take at h
  cases hrecord : m.record score.home score.away score.status with
  | error fault => simp [hrecord, bind, Except.bind] at h
  | ok m' =>
    rw [hrecord] at h
    obtain rfl := Except.ok.inj h
    refine ⟨?_, rfl, rfl⟩
    rw [← replace_withScore hnodup hm, Match.eq_withScore hrecord]

/-- What is recorded: every match with its last score, and which matches were named. -/
theorem recordScores_returns {r r' : Recording} (hnodup : (r.fixtures.map (·.id)).Nodup)
    (h : (recordScores roundId scores r).Returns s r' s') :
    s' = s ∧ r'.fixtures = r.fixtures.map (Match.afterScores scores) ∧
      ∀ id, id ∈ r'.updated ↔ id ∈ r.updated ∨
        id ∈ r.fixtures.map (·.id) ∧ (lastScore? scores id).isSome = true := by
  -- Score by score the recording of the rest starts from the matches as they are by then.
  induction scores generalizing r with
  | nil =>
    obtain ⟨rfl, rfl⟩ := returns_pure.1 h
    exact ⟨rfl, (List.map_id _).symm, fun id => by simp [lastScore?]⟩
  | cons score scores ih =>
    unfold recordScores at h
    split at h
    · -- A score of another match is skipped, and does not count for any match of the round.
      rename_i hnone
      have hskip : ∀ id ∈ r.fixtures.map (·.id),
          lastScore? (score :: scores) id = lastScore? scores id := by
        intro id hid
        obtain ⟨m, hm, rfl⟩ := List.mem_map.1 hid
        have hne : score.matchId ≠ m.id := fun heq =>
          List.find?_eq_none.1 hnone m hm (beq_iff_eq.2 heq.symm)
        rw [lastScore?_cons, if_neg (by simpa using hne), Option.or_none]
      obtain ⟨rfl, hfixtures, hupdated⟩ := ih hnodup (returns_say_bind.1 h)
      refine ⟨rfl, hfixtures.trans (List.map_congr_left fun m hm => ?_), fun id => ?_⟩
      · rw [Match.afterScores, Match.afterScores, hskip m.id (List.mem_map_of_mem hm)]
      · rw [hupdated]
        refine or_congr_right (and_congr_right fun hid => ?_)
        rw [hskip id hid]
    · -- The ids stay the same, so the score that was taken is the last one unless a later is.
      rename_i m hm
      obtain ⟨r₁, htake, h⟩ := returns_lift_bind.1 h
      obtain ⟨htaken, hnamed, -⟩ := take_ok hnodup hm htake
      have hids : r₁.fixtures.map (·.id) = r.fixtures.map (·.id) := by
        rw [htaken, Match.map_id_afterScores]
      obtain ⟨rfl, hfixtures, hupdated⟩ := ih (hids ▸ hnodup) h
      refine ⟨rfl, ?_, fun id => ?_⟩
      · rw [hfixtures, htaken, List.map_map]
        exact List.map_congr_left fun m _ => (Match.afterScores_append [score] scores m).symm
      · have hid : m.id = score.matchId := Table.id_of_get? hm
        have hmem : score.matchId ∈ r.fixtures.map (·.id) :=
          hid ▸ List.mem_map_of_mem (List.mem_of_find?_eq_some hm)
        rw [hupdated, hnamed, hids, lastScore?_cons, List.mem_append, List.mem_singleton, hid]
        by_cases hsame : score.matchId = id
        · subst hsame
          simp [hmem]
        · simp [hsame, Ne.symm hsame]

/-- One of the scores completes a match that was not completed by then. -/
def Completes (fixtures : List Match) (scores : List MatchScore) : Prop :=
  ∃ xs score ys, scores = xs ++ score :: ys ∧ score.status = .completed ∧
    ∃ m ∈ fixtures, m.id = score.matchId ∧ (m.afterScores xs).status ≠ .completed

theorem not_completes_nil (fixtures : List Match) : ¬Completes fixtures [] := by
  rintro ⟨xs, score, ys, h, -⟩
  simp at h

/-- The first score completes its match, or one of the others does by the matches as they are
then. -/
theorem completes_cons {fixtures : List Match} {score : MatchScore} :
    Completes fixtures (score :: scores) ↔
      (score.status = .completed ∧
        ∃ m ∈ fixtures, m.id = score.matchId ∧ m.status ≠ .completed) ∨
      Completes (fixtures.map (Match.afterScores [score])) scores := by
  constructor
  · rintro ⟨xs, score', ys, h, hstatus, m, hm, hid, hopen⟩
    cases xs with
    | nil =>
      obtain ⟨rfl, rfl⟩ := List.cons.inj h
      exact .inl ⟨hstatus, m, hm, hid, hopen⟩
    | cons x xs =>
      obtain ⟨rfl, rfl⟩ := List.cons.inj h
      refine .inr ⟨xs, score', ys, rfl, hstatus, _, List.mem_map_of_mem hm, ?_, ?_⟩
      · rw [Match.id_afterScores, hid]
      · rwa [← Match.afterScores_append]
  · rintro (⟨hstatus, m, hm, hid, hopen⟩ | ⟨xs, score', ys, rfl, hstatus, m', hm', hid, hopen⟩)
    · exact ⟨[], score, scores, rfl, hstatus, m, hm, hid, hopen⟩
    · obtain ⟨m, hm, rfl⟩ := List.mem_map.1 hm'
      refine ⟨score :: xs, score', ys, rfl, hstatus, m, hm, ?_, ?_⟩
      · rwa [Match.id_afterScores] at hid
      · rwa [← Match.afterScores_append] at hopen

instance decidableCompletes :
    (fixtures : List Match) → (scores : List MatchScore) → Decidable (Completes fixtures scores)
  | fixtures, [] => isFalse (not_completes_nil fixtures)
  | fixtures, score :: scores =>
    have : Decidable (Completes (fixtures.map (Match.afterScores [score])) scores) :=
      decidableCompletes _ scores
    decidable_of_iff _ completes_cons.symm

/-- A match that no score completes is still open in the end. -/
theorem open_afterScores {fixtures : List Match} (hnot : ¬Completes fixtures scores) {m : Match}
    (hm : m ∈ fixtures) (hopen : m.status ≠ .completed) :
    (m.afterScores scores).status ≠ .completed := by
  induction scores generalizing fixtures m with
  | nil => exact hopen
  | cons score scores ih =>
    rw [completes_cons, not_or] at hnot
    obtain ⟨hfirst, hrest⟩ := hnot
    have hstep : (m.afterScores [score]).status ≠ .completed := by
      rw [Match.afterScores, lastScore?_singleton]
      by_cases hid : score.matchId = m.id
      · rw [if_pos (beq_iff_eq.2 hid)]
        intro hstatus
        rw [Match.status_withScore] at hstatus
        exact hfirst ⟨hstatus, m, hm, hid.symm, hopen⟩
      · rw [if_neg (by simpa using hid)]
        exact hopen
    have hlater := ih hrest (List.mem_map_of_mem hm) hstep
    rwa [← Match.afterScores_append] at hlater

/-- Whether a match was completed by one of the scores. -/
theorem newlyCompleted_recordScores {r r' : Recording} (hnodup : (r.fixtures.map (·.id)).Nodup)
    (h : (recordScores roundId scores r).Returns s r' s') :
    r'.newlyCompleted = true ↔ r.newlyCompleted = true ∨ Completes r.fixtures scores := by
  induction scores generalizing r with
  | nil =>
    obtain ⟨rfl, -⟩ := returns_pure.1 h
    rw [or_iff_left (not_completes_nil _)]
  | cons score scores ih =>
    rw [completes_cons]
    unfold recordScores at h
    split at h
    · rename_i hnone
      have hother : ¬∃ m ∈ r.fixtures, m.id = score.matchId ∧ m.status ≠ .completed := by
        rintro ⟨m, hm, hid, -⟩
        exact List.find?_eq_none.1 hnone m hm (beq_iff_eq.2 hid)
      rw [map_afterScores_of_get?_none hnone, ih hnodup (returns_say_bind.1 h)]
      simp only [hother, and_false, false_or]
    · rename_i m hm
      obtain ⟨r₁, htake, h⟩ := returns_lift_bind.1 h
      obtain ⟨htaken, -, hnewly⟩ := take_ok hnodup hm htake
      have hids : r₁.fixtures.map (·.id) = r.fixtures.map (·.id) := by
        rw [htaken, Match.map_id_afterScores]
      -- The match that is found is the only one with the id of the score.
      have hopen : (∃ m' ∈ r.fixtures, m'.id = score.matchId ∧ m'.status ≠ .completed) ↔
          m.status ≠ .completed := by
        have hid : m.id = score.matchId := Table.id_of_get? hm
        constructor
        · rintro ⟨m', hm', hid', hstatus⟩
          obtain rfl : m' = m := List.inj_on_of_nodup_map hnodup hm'
            (List.mem_of_find?_eq_some hm) (hid'.trans hid.symm)
          exact hstatus
        · intro hstatus
          exact ⟨m, List.mem_of_find?_eq_some hm, hid, hstatus⟩
      rw [ih (hids ▸ hnodup) h, hnewly, htaken, hopen]
      simp only [Bool.or_eq_true, Bool.and_eq_true, beq_iff_eq, bne_iff_ne, or_assoc]

end Recording

namespace Store

variable {s : Store}

/-- A match of the store when scores of a round were recorded. -/
def matchAfter (roundId : Int) (scores : List MatchScore) (m : Match) : Match :=
  if m.roundId == roundId then m.afterScores scores else m

@[simp] theorem id_matchAfter (roundId : Int) (scores : List MatchScore) (m : Match) :
    (matchAfter roundId scores m).id = m.id := by
  unfold matchAfter
  split
  · exact m.id_afterScores scores
  · rfl

@[simp] theorem roundId_matchAfter (roundId : Int) (scores : List MatchScore) (m : Match) :
    (matchAfter roundId scores m).roundId = m.roundId := by
  unfold matchAfter
  split
  · exact m.roundId_afterScores scores
  · rfl

@[simp] theorem matchAfter_nil (roundId : Int) : matchAfter roundId [] = id := by
  funext m
  rw [matchAfter]
  exact ite_self m

/-- Recorded scores leave the ids of the matches alone. -/
theorem Keyed.withFixtures (hs : s.Keyed) {roundId : Int} {scores : List MatchScore}
    {fixtures : List Match} (h : fixtures = s.fixtures.map (matchAfter roundId scores)) :
    { s with fixtures }.Keyed := by
  refine { hs with fixtures := ?_ }
  rw [h]
  refine List.pairwise_map.2 (hs.fixtures.imp fun {a b} hlt => ?_)
  show (matchAfter roundId scores a).id < (matchAfter roundId scores b).id
  rwa [id_matchAfter, id_matchAfter]

/-- The matches of the store with a recording of the scores of a round. -/
theorem Keyed.fixtures_withRecording (hs : s.Keyed) {roundId : Int} {scores : List MatchScore}
    {recording : Recording}
    (h : recording.fixtures = (s.fixturesOf roundId).map (Match.afterScores scores)) :
    (s.withRecording recording).fixtures = s.fixtures.map (matchAfter roundId scores) := by
  have hsub : (s.fixturesOf roundId).Sublist s.fixtures := List.filter_sublist
  have hnodup : ((s.fixturesOf roundId).map Row.id).Nodup :=
    (hs.fixtures.filter fun m => m.roundId == roundId).nodup_ids
  show recording.fixtures.foldl Table.replace s.fixtures = _
  rw [h, Table.foldl_replace (Match.afterScores scores) (fun m => m.id_afterScores scores) hnodup
    fun m hm m' hm' hid => hs.fixtures.eq_of_id_eq (hsub.subset hm) hm' hid]
  refine List.map_congr_left fun m hm => if_congr ?_ rfl rfl
  rw [List.any_eq_true]
  constructor
  · rintro ⟨m', hm', hid⟩
    obtain ⟨hstored, hround⟩ := List.mem_filter.1 hm'
    exact hs.fixtures.eq_of_id_eq hstored hm (beq_iff_eq.1 hid) ▸ hround
  · exact fun hround => ⟨m, List.mem_filter.2 ⟨hm, hround⟩, beq_self_eq_true m.id⟩

/-! ### Judging again -/

/-- A prediction judged again by its match. -/
def judgedAgain (s : Store) (now : DateTime) (p : Prediction) : Prediction :=
  match s.match? p.matchId with
  | some m => p.judged m now
  | none => p

/-- A prediction of the store when scores of a round were recorded: it is judged again if one of
them names its match. -/
def predictionAfter (s : Store) (roundId : Int) (scores : List MatchScore) (now : DateTime)
    (p : Prediction) : Prediction :=
  match Table.get? (s.fixturesOf roundId) p.matchId, lastScore? scores p.matchId with
  | some m, some score => p.judged (m.withScore score) now
  | _, _ => p

@[simp] theorem predictionAfter_nil (s : Store) (roundId : Int) (now : DateTime) :
    s.predictionAfter roundId [] now = id := by
  funext p
  rw [predictionAfter]
  cases Table.get? (s.fixturesOf roundId) p.matchId <;> rfl

/-- Judging a prediction leaves what was predicted alone. -/
structure SamePrediction (p q : Prediction) : Prop where
  userId : q.userId = p.userId
  matchId : q.matchId = p.matchId
  verdict : ∀ m, q.verdict m = p.verdict m

theorem samePrediction_predictionAfter (s : Store) (roundId : Int) (scores : List MatchScore)
    (now : DateTime) (p : Prediction) :
    SamePrediction p (s.predictionAfter roundId scores now p) := by
  unfold predictionAfter
  split
  · exact ⟨rfl, rfl, fun m => rfl⟩
  · exact ⟨rfl, rfl, fun m => rfl⟩

theorem matchId_judgedAgain (s : Store) (now : DateTime) (p : Prediction) :
    (s.judgedAgain now p).matchId = p.matchId := by
  unfold judgedAgain
  split <;> rfl

theorem judgedAgain_judgedAgain (s : Store) (now : DateTime) (p : Prediction) :
    s.judgedAgain now (s.judgedAgain now p) = s.judgedAgain now p := by
  rw [judgedAgain, matchId_judgedAgain, judgedAgain]
  cases s.match? p.matchId with
  | none => rfl
  | some m => rfl

/-! ### Several batches of scores -/

theorem matchAfter_append (roundId : Int) (xs ys : List MatchScore) (m : Match) :
    matchAfter roundId (xs ++ ys) m = matchAfter roundId ys (matchAfter roundId xs m) := by
  by_cases hround : m.roundId = roundId
  · simp [matchAfter, hround, Match.afterScores_append]
  · simp [matchAfter, hround]

theorem matchAfter_twice (roundId : Int) (xs : List MatchScore) (m : Match) :
    matchAfter roundId xs (matchAfter roundId xs m) = matchAfter roundId xs m := by
  by_cases hround : m.roundId = roundId
  · simp [matchAfter, hround, Match.afterScores_twice]
  · simp [matchAfter, hround]

section After

variable {t : Store} {roundId : Int} {xs : List MatchScore}
  (ht : t.fixtures = s.fixtures.map (matchAfter roundId xs))

include ht

theorem fixturesOf_after :
    t.fixturesOf roundId = (s.fixturesOf roundId).map (·.afterScores xs) := by
  rw [fixturesOf, ht, List.filter_map, fixturesOf]
  have hround : (fun m : Match => m.roundId == roundId) ∘ matchAfter roundId xs =
      fun m => m.roundId == roundId := by
    funext m
    rw [Function.comp_apply, roundId_matchAfter]
  rw [hround]
  exact List.map_congr_left fun m hm => if_pos (List.of_mem_filter hm)

/-- The matches of other rounds stay as they are. -/
theorem fixturesOf_after_of_ne {id : Int} (hne : id ≠ roundId) :
    t.fixturesOf id = s.fixturesOf id := by
  rw [fixturesOf, ht, List.filter_map, fixturesOf]
  have hround : (fun m : Match => m.roundId == id) ∘ matchAfter roundId xs =
      fun m => m.roundId == id := by
    funext m
    rw [Function.comp_apply, roundId_matchAfter]
  rw [hround]
  refine (List.map_congr_left fun m hm => ?_).trans (List.map_id _)
  obtain ⟨-, hid⟩ := List.mem_filter.1 hm
  have hother : ¬(m.roundId == roundId) = true := by
    rw [beq_iff_eq.1 hid, beq_iff_eq]
    exact hne
  rw [matchAfter, if_neg hother]
  rfl

theorem get?_fixturesOf_after (id : Int) : Table.get? (t.fixturesOf roundId) id =
    (Table.get? (s.fixturesOf roundId) id).map (·.afterScores xs) := by
  rw [fixturesOf_after ht, Table.get?, List.find?_map]
  congr 2
  funext m
  exact congrArg (· == id) (m.id_afterScores xs)

/-- Of two batches of scores the second one counts where it names a match. -/
theorem predictionAfter_append (ys : List MatchScore) (now : DateTime) (p : Prediction) :
    t.predictionAfter roundId ys now (s.predictionAfter roundId xs now p) =
      s.predictionAfter roundId (xs ++ ys) now p := by
  have hmatch : (s.predictionAfter roundId xs now p).matchId = p.matchId :=
    (s.samePrediction_predictionAfter roundId xs now p).matchId
  rw [predictionAfter.eq_def t, hmatch, get?_fixturesOf_after ht, predictionAfter.eq_def s roundId
    (xs ++ ys), lastScore?_append, predictionAfter]
  cases hm : Table.get? (s.fixturesOf roundId) p.matchId with
  | none => rfl
  | some m =>
    have hid : m.id = p.matchId := Table.id_of_get? hm
    cases hlast : lastScore? ys p.matchId with
    | none => rfl
    | some score =>
      have hscore := Match.withScore_afterScores xs m score
      cases lastScore? xs p.matchId with
      | none => exact congrArg (p.judged · now) hscore
      | some score' => exact congrArg (p.judged · now) hscore

/-- Predictions that were judged by scores are judged by them once more as they are. -/
theorem predictionAfter_twice (now : DateTime) (p : Prediction) :
    t.predictionAfter roundId xs now (s.predictionAfter roundId xs now p) =
      s.predictionAfter roundId xs now p := by
  rw [predictionAfter_append ht, predictionAfter, lastScore?_twice, predictionAfter]

/-- The predictions of the matches that were named are judged again. -/
theorem Keyed.judgedAgain_eq (hs : s.Keyed) {ids : List Int}
    (hids : ∀ id, id ∈ ids ↔ id ∈ (s.fixturesOf roundId).map (·.id) ∧
      (lastScore? xs id).isSome = true) (now : DateTime) (p : Prediction) :
    (if ids.contains p.matchId then t.judgedAgain now p else p) =
      s.predictionAfter roundId xs now p := by
  have hmatch : t.match? p.matchId = (s.match? p.matchId).map (matchAfter roundId xs) := by
    rw [match?, ht, Table.get?, List.find?_map]
    congr 2
    funext m
    exact congrArg (· == p.matchId) (id_matchAfter roundId xs m)
  rw [predictionAfter]
  cases hm : Table.get? (s.fixturesOf roundId) p.matchId with
  | none =>
    have hnot : ¬ids.contains p.matchId = true := by
      rw [List.contains_iff_mem, hids]
      rintro ⟨hmem, -⟩
      obtain ⟨m, hmem, hid⟩ := List.mem_map.1 hmem
      exact List.find?_eq_none.1 hm m hmem (beq_iff_eq.2 hid)
    rw [if_neg hnot]
  | some m =>
    have hmem := List.mem_of_find?_eq_some hm
    have hid : m.id = p.matchId := Table.id_of_get? hm
    obtain ⟨hstored, hround⟩ := List.mem_filter.1 hmem
    have hfound : s.match? p.matchId = some m :=
      (Table.get?_eq_some hs.fixtures).2 ⟨hstored, hid⟩
    have hnamed : ids.contains p.matchId = (lastScore? xs p.matchId).isSome := by
      rw [Bool.eq_iff_iff, List.contains_iff_mem, hids, ← hid]
      exact and_iff_right (List.mem_map_of_mem hmem)
    rw [hnamed, judgedAgain, hmatch, hfound]
    cases hlast : lastScore? xs p.matchId with
    | none => rfl
    | some score =>
      have hafter : matchAfter roundId xs m = m.withScore score := by
        rw [matchAfter, if_pos hround, Match.afterScores, hid, hlast]
      exact congrArg (p.judged · now) hafter

end After

end Store

section Rescore

open Engine

variable {s s' : Store} {now : DateTime}

instance (m : Match) (now : DateTime) : Quiet (rescoreMatch m now) := by
  unfold rescoreMatch
  infer_instance

/-- Judge the predictions of one match again. -/
def rescoreOne (now : DateTime) (id : Int) : Engine Unit := do
  match (← current).match? id with
  | none => pure ()
  | some m => let _ ← rescoreMatch m now

theorem rescoreMatches_eq (ids : List Int) :
    rescoreMatches ids now = ids.forM (rescoreOne now) := rfl

instance (now : DateTime) (id : Int) : Quiet (rescoreOne now id) := by
  refine quiet_bind inferInstance fun s => ?_
  split <;> infer_instance

instance (ids : List Int) (now : DateTime) : Quiet (rescoreMatches ids now) := by
  rw [rescoreMatches_eq]
  infer_instance

theorem returns_rescoreMatch {m : Match} {n : Nat} :
    (rescoreMatch m now).Returns s n s' ↔
      n = (s.predictionsOf m.id).length ∧ s' = s.rescored m now := by
  unfold rescoreMatch
  rw [returns_current_bind, returns_put_bind, returns_pure]

/-- The predictions of one match are judged again. -/
theorem returns_rescoreOne {id : Int} :
    (rescoreOne now id).Returns s () s' ↔
      s' = { s with
        predictions := s.predictions.map fun p =>
          if p.matchId == id then s.judgedAgain now p else p } := by
  unfold rescoreOne
  rw [returns_current_bind]
  cases hm : s.match? id with
  | none =>
    have hsame : (s.predictions.map fun p => if p.matchId == id then s.judgedAgain now p else p) =
        s.predictions := by
      refine (List.map_congr_left fun p _ => ?_).trans (List.map_id _)
      split
      · rename_i hp
        rw [Store.judgedAgain, beq_iff_eq.1 hp, hm]
        rfl
      · rfl
    simp only [returns_pure, true_and, hsame]
  | some m =>
    have hid : m.id = id := Table.id_of_get? hm
    have hrescored : (s.predictions.map fun p => if p.matchId == m.id then p.judged m now else p) =
        s.predictions.map fun p => if p.matchId == id then s.judgedAgain now p else p := by
      refine List.map_congr_left fun p _ => ?_
      rw [hid]
      split
      · rename_i hp
        rw [Store.judgedAgain, beq_iff_eq.1 hp, hm]
      · rfl
    simp only [returns_bind, returns_rescoreMatch, returns_pure, true_and, Store.rescored,
      hrescored]
    constructor
    · rintro ⟨_, _, ⟨-, rfl⟩, h⟩
      exact h
    · intro h
      exact ⟨_, _, ⟨rfl, rfl⟩, h⟩

/-- The predictions of the given matches are judged again. -/
theorem returns_rescoreMatches {ids : List Int} :
    (rescoreMatches ids now).Returns s () s' ↔
      s' = { s with
        predictions := s.predictions.map fun p =>
          if ids.contains p.matchId then s.judgedAgain now p else p } := by
  induction ids generalizing s with
  | nil =>
    refine returns_pure.trans ?_
    simp
  | cons id ids ih =>
    rw [rescoreMatches_eq] at ih ⊢
    rw [returns_forM_cons]
    refine (exists_congr fun t => and_congr returns_rescoreOne ih).trans ?_
    -- A match that is named twice is judged twice, which is the same as once.
    have htwice : s.predictions.map ((fun p =>
          if ids.contains p.matchId then s.judgedAgain now p else p) ∘
            fun p => if p.matchId == id then s.judgedAgain now p else p) =
        s.predictions.map fun p =>
          if (id :: ids).contains p.matchId then s.judgedAgain now p else p := by
      refine List.map_congr_left fun p _ => ?_
      rw [Function.comp_apply, List.contains_cons]
      by_cases hid : p.matchId = id
      · simp [hid, s.matchId_judgedAgain, s.judgedAgain_judgedAgain]
      · simp [hid]
    simp only [exists_eq_left, List.map_map, ← htwice]
    rfl

end Rescore

end PredictionLeague
