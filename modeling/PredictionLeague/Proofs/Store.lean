import Mathlib.Data.List.Nodup
import PredictionLeague.Proofs.Table
import PredictionLeague.Store

/-!
# What the tables promise

Rows stand in the order of their ids, and every table keeps its natural keys different.

* `Table.Ordered`: rows in ascending order of their ids;
* `Store.Keyed`: ids in order and natural keys different;
* `mem_approvedMembers`, `approvedMembers_nodup`: the approved members of a league.
-/

namespace PredictionLeague

/-! ### Lists -/

theorem nodup_eraseDups (xs : List Int) : xs.eraseDups.Nodup := by
  match xs with
  | [] => exact List.nodup_nil
  | x :: xs =>
    rw [List.eraseDups_cons, List.nodup_cons]
    refine ⟨fun h => ?_, nodup_eraseDups _⟩
    have hmem := List.of_mem_filter (List.mem_eraseDups.1 h)
    simp at hmem
termination_by xs.length
decreasing_by exact Nat.lt_succ_of_le (List.length_filter_le _ _)

/-- Filters of which at most one picks an element pick together what any of them picks. -/
theorem flatMap_picks_perm {ι α : Type} {keys : List ι} {p : ι → α → Bool} (hkeys : keys.Nodup)
    (hone : ∀ i ∈ keys, ∀ j ∈ keys, ∀ x, p i x = true → p j x = true → i = j) (xs : List α) :
    (keys.flatMap fun i => xs.filter (p i)).Perm (xs.filter fun x => keys.any fun i => p i x) := by
  induction keys with
  | nil => simp
  | cons i keys ih =>
    obtain ⟨hnot, hkeys⟩ := List.nodup_cons.1 hkeys
    have hrest := ih hkeys fun j hj k hk =>
      hone j (List.mem_cons_of_mem _ hj) k (List.mem_cons_of_mem _ hk)
    rw [List.flatMap_cons]
    refine (hrest.append_left _).trans ?_
    -- What the first filter picks is not picked by the others.
    refine .trans (.of_eq ?_) (List.filter_append_perm (p i) _)
    rw [List.filter_filter, List.filter_filter]
    congr 1
    · refine List.filter_congr fun x _ => ?_
      rw [List.any_cons]
      cases p i x <;> rfl
    · refine List.filter_congr fun x _ => ?_
      rw [List.any_cons]
      cases hi : p i x with
      | false => simp
      | true =>
        have hnone : (keys.any fun j => p j x) = false := by
          refine List.any_eq_false.2 fun j hj hjx => hnot ?_
          exact hone i List.mem_cons_self j (List.mem_cons_of_mem _ hj) x hi hjx ▸ hj
        simp [hnone]

/-- Elements picked key by key are the elements of these keys. -/
theorem flatMap_filter_perm {α : Type} (key : α → Int) (l : List α) {keys : List Int}
    (h : keys.Nodup) :
    (keys.flatMap fun k => l.filter (key · == k)).Perm
      (l.filter fun a => keys.contains (key a)) := by
  have hone : ∀ k ∈ keys, ∀ k' ∈ keys, ∀ a, (key a == k) = true → (key a == k') = true → k = k' :=
    fun _ _ _ _ _ hk hk' => (beq_iff_eq.1 hk).symm.trans (beq_iff_eq.1 hk')
  refine (flatMap_picks_perm h hone l).trans (.of_eq (List.filter_congr fun a _ => ?_))
  exact List.contains_eq_any_beq.symm

namespace Table

/-- Rows in ascending order of their ids. -/
def Ordered {α : Type} [Row α] (table : List α) : Prop :=
  table.Pairwise fun a b => Row.id a < Row.id b

instance {α : Type} [Row α] (table : List α) : Decidable (Ordered table) :=
  inferInstanceAs (Decidable (table.Pairwise fun a b => Row.id a < Row.id b))

section Ordered

variable {α : Type} [Row α] {table : List α}

theorem Ordered.nodup_ids (h : Ordered table) : (table.map Row.id).Nodup :=
  (List.pairwise_map.2 h).imp fun hlt => Int.ne_of_lt hlt

theorem Ordered.eq_of_id_eq (h : Ordered table) {a b : α} (ha : a ∈ table) (hb : b ∈ table)
    (hid : Row.id a = Row.id b) : a = b :=
  List.inj_on_of_nodup_map h.nodup_ids ha hb hid

theorem Ordered.filter (h : Ordered table) (p : α → Bool) : Ordered (table.filter p) :=
  List.Pairwise.filter p h

theorem get?_eq_some (h : Ordered table) {id : Int} {row : α} :
    get? table id = some row ↔ row ∈ table ∧ Row.id row = id := by
  constructor
  · intro hrow
    exact ⟨List.mem_of_find?_eq_some hrow, by simpa using List.find?_some hrow⟩
  · rintro ⟨hmem, rfl⟩
    cases hfind : get? table (Row.id row) with
    | none => simpa using List.find?_eq_none.1 hfind row hmem
    | some row' =>
      have hid : Row.id row' = Row.id row := by simpa using List.find?_some hfind
      rw [h.eq_of_id_eq (List.mem_of_find?_eq_some hfind) hmem hid]

/-- A table holds the rows that its ids find. -/
theorem Ordered.filterMap_get? (h : Ordered table) :
    (table.map Row.id).filterMap (get? table) = table := by
  rw [List.filterMap_map]
  refine (List.filterMap_congr fun row hrow => ?_).trans List.filterMap_some
  exact (get?_eq_some h).2 ⟨hrow, rfl⟩

/-- A table with the same ids in which every id finds its changed row is the changed table. -/
theorem Ordered.eq_map {table' : List α} (h' : Ordered table') {f : α → α}
    (hids : table'.map Row.id = table.map Row.id)
    (hget : ∀ row ∈ table, get? table' (Row.id row) = some (f row)) : table' = table.map f := by
  rw [← h'.filterMap_get?, hids, List.filterMap_map, ← List.filterMap_eq_map]
  exact List.filterMap_congr hget

theorem id_of_get? {id : Int} {row : α} (h : get? table id = some row) : Row.id row = id := by
  simpa using List.find?_some h

/-- A row that is put in the place of another is found there. -/
theorem get?_replace {row old : α} (h : get? table (Row.id row) = some old) :
    get? (replace table row) (Row.id row) = some row := by
  have hids : (fun r => Row.id r == Row.id row) ∘
      (fun r => if Row.id r == Row.id row then row else r) = fun r => Row.id r == Row.id row := by
    funext r
    by_cases hr : Row.id r = Row.id row <;> simp [hr]
  have hold : (Row.id old == Row.id row) = true := beq_iff_eq.2 (id_of_get? h)
  rw [get?, replace, List.find?_map, hids, ← get?, h, Option.map_some, if_pos hold]

/-- Rows with other ids stay where they are. -/
theorem get?_replace_of_ne {row : α} {id : Int} (h : id ≠ Row.id row) :
    get? (replace table row) id = get? table id := by
  have hids : (fun r => Row.id r == id) ∘ (fun r => if Row.id r == Row.id row then row else r) =
      fun r => Row.id r == id := by
    funext r
    by_cases hr : Row.id r = Row.id row <;> simp [hr]
  rw [get?, replace, List.find?_map, hids, ← get?]
  cases hfind : get? table id with
  | none => rfl
  | some r =>
    have hne : (Row.id r == Row.id row) = false := by
      rw [id_of_get? hfind]
      exact beq_false_of_ne h
    rw [Option.map_some, hne]
    rfl

/-- A fresh id is above all ids that are in use. -/
theorem lt_nextId {row : α} (h : row ∈ table) : Row.id row < nextId table := by
  have hid : Row.id row ∈ table.map Row.id := List.mem_map_of_mem h
  rw [nextId]
  cases hmax : (table.map Row.id).max? with
  | none =>
    rw [List.max?_eq_none_iff] at hmax
    rw [hmax] at hid
    exact absurd hid List.not_mem_nil
  | some last => exact Int.lt_add_one_of_le ((List.max?_le_iff hmax).1 (Int.le_refl last) _ hid)

/-- A row that is added under its fresh id comes last. -/
theorem Ordered.add (h : Ordered table) {row : Int → α} (hid : ∀ id, Row.id (row id) = id) :
    Ordered (Table.add table row) := by
  refine List.pairwise_append.2 ⟨h, List.pairwise_singleton _ _, fun old hold new hnew => ?_⟩
  rw [List.mem_singleton.1 hnew, hid]
  exact lt_nextId hold

end Ordered

end Table

/-- A round result is known by its round and player. -/
def RoundResult.key (r : RoundResult) : Int × Int := (r.roundId, r.userId)

/-- A league result is known by its league and round, and its player. -/
def LeagueResult.key (r : LeagueResult) : (Int × Int) × Int := ((r.leagueId, r.roundId), r.userId)

namespace Store

/-- Rows stand in the order of their ids, and natural keys are different. -/
structure Keyed (s : Store) : Prop where
  rounds : Table.Ordered s.rounds
  fixtures : Table.Ordered s.fixtures
  leagues : Table.Ordered s.leagues
  prizeSettings : Table.Ordered s.prizeSettings
  roundNumbers : (s.rounds.map fun r => (r.seasonId, r.number)).Nodup
  members : (s.members.map fun m => (m.leagueId, m.userId)).Nodup
  roundResults : (s.roundResults.map RoundResult.key).Nodup
  leagueResults : (s.leagueResults.map LeagueResult.key).Nodup
  boostUsages : (s.boostUsages.map fun u => (u.userId, u.leagueId, u.roundId)).Nodup
  stats : (s.stats.map fun r => (r.leagueId, r.userId)).Nodup

instance (s : Store) : Decidable s.Keyed :=
  decidable_of_iff
    (Table.Ordered s.rounds ∧ Table.Ordered s.fixtures ∧ Table.Ordered s.leagues ∧
      Table.Ordered s.prizeSettings ∧ (s.rounds.map fun r => (r.seasonId, r.number)).Nodup ∧
      (s.members.map fun m => (m.leagueId, m.userId)).Nodup ∧
      (s.roundResults.map RoundResult.key).Nodup ∧ (s.leagueResults.map LeagueResult.key).Nodup ∧
      (s.boostUsages.map fun u => (u.userId, u.leagueId, u.roundId)).Nodup ∧
      (s.stats.map fun r => (r.leagueId, r.userId)).Nodup)
    ⟨fun ⟨h₁, h₂, h₃, h₄, h₅, h₆, h₇, h₈, h₉, h₁₀⟩ => ⟨h₁, h₂, h₃, h₄, h₅, h₆, h₇, h₈, h₉, h₁₀⟩,
      fun ⟨h₁, h₂, h₃, h₄, h₅, h₆, h₇, h₈, h₉, h₁₀⟩ => ⟨h₁, h₂, h₃, h₄, h₅, h₆, h₇, h₈, h₉, h₁₀⟩⟩

variable {s : Store}

/-! ### Members -/

theorem mem_approvedMembers {leagueId userId : Int} :
    userId ∈ s.approvedMembers leagueId ↔ s.isMember leagueId userId = true := by
  simp only [approvedMembers, ascending, mem_sorted, List.mem_map, List.mem_filter, isMember,
    List.any_eq_true, Bool.and_eq_true, beq_iff_eq]
  constructor
  · rintro ⟨m, ⟨hm, hleague, hstatus⟩, huser⟩
    exact ⟨m, hm, ⟨hleague, huser⟩, hstatus⟩
  · rintro ⟨m, hm, ⟨hleague, huser⟩, hstatus⟩
    exact ⟨m, ⟨hm, hleague, hstatus⟩, huser⟩

theorem Keyed.approvedMembers_nodup (h : s.Keyed) (leagueId : Int) :
    (s.approvedMembers leagueId).Nodup := by
  refine (sorted_perm _).nodup_iff.2 ((h.members.of_map _).filter _ |>.map_on ?_)
  intro a ha b hb hab
  simp only [List.mem_filter, Bool.and_eq_true, beq_iff_eq] at ha hb
  exact List.inj_on_of_nodup_map h.members ha.1 hb.1 (by rw [ha.2.1, hb.2.1, hab])

end Store

end PredictionLeague
