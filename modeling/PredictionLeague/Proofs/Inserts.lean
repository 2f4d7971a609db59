import PredictionLeague.Proofs.Engine
import PredictionLeague.Proofs.Store
import PredictionLeague.Store.Edit

/-!
# Tables that refuse

A table with unique keys takes a new row only when no row that is there shares a key with it. Here
rows are put in one at a time, while the rows that are about to be dropped are still there.

* `Stored.putIn`: rows put in one after the other;
* `Engine.write`: a table replaced, once it has taken the rows that are new;
* `Table.added`, `Table.Newer`: the rows that are new, and rows whose ids are;
* `Stored.KnownBy`: a table whose rows are known by their ids and by one other key;
* `effect_write`: new ids and different keys are never refused;
* `added_rebuild`, `added_map_ensure`, `nodup_grown`: the rows that are new after a rebuild, and
  after missing rows were added.
-/

namespace PredictionLeague

/-! ### New rows -/

namespace Table

variable {α : Type} [Row α] {table : List α}

/-- The rows of a changed table that are new. -/
def added (table rows : List α) : List α :=
  rows.filter fun row => !table.any (Row.id · == Row.id row)

/-- Rows with different ids above all ids of a table. -/
structure Newer (table new : List α) : Prop where
  ids : (new.map Row.id).Nodup
  above : ∀ row ∈ new, ∀ old ∈ table, Row.id old < Row.id row

theorem mem_insert {row r : α} : r ∈ insert table row ↔ r = row ∨ r ∈ table := by
  rw [insert, List.mem_append, List.mem_cons]
  conv_rhs => rw [← List.takeWhile_append_dropWhile (p := (Row.id · < Row.id row)) (l := table),
    List.mem_append]
  exact or_left_comm

/-- New rows after rows that were there. -/
theorem added_append {old new : List α} (hold : ∀ row ∈ old, Row.id row ∈ table.map Row.id)
    (hnew : Newer table new) : added table (old ++ new) = new := by
  have hnone : added table old = [] := by
    refine List.filter_eq_nil_iff.2 fun row hrow hadded => ?_
    obtain ⟨r, hr, hid⟩ := List.mem_map.1 (hold row hrow)
    have hany : (table.any (Row.id · == Row.id row)) = true :=
      List.any_eq_true.2 ⟨r, hr, beq_iff_eq.2 hid⟩
    simp [hany] at hadded
  have hall : added table new = new := by
    refine List.filter_eq_self.2 fun row hrow => ?_
    rw [Bool.not_eq_true', List.any_eq_false]
    intro r hr hid
    exact absurd (beq_iff_eq.1 hid) (Int.ne_of_lt (hnew.above row hrow r hr))
  rw [added, List.filter_append]
  exact (congrArg₂ (· ++ ·) hnone hall).trans (List.nil_append _)

/-- A change that keeps ids. -/
theorem Newer.map {new : List α} (h : Newer table new) {f : α → α}
    (hf : ∀ row, Row.id (f row) = Row.id row) : Newer table (new.map f) where
  ids := by
    have hids : Row.id ∘ f = Row.id := funext hf
    rw [List.map_map, hids]
    exact h.ids
  above row hrow old hold := by
    obtain ⟨r, hr, rfl⟩ := List.mem_map.1 hrow
    rw [hf]
    exact h.above r hr old hold

section Numbered

variable {makes : List (Int → α)} (hid : ∀ make ∈ makes, ∀ id, Row.id (make id) = id)

include hid

theorem le_id_of_mem_numbered {n : Int} {row : α} (h : row ∈ numbered n makes) :
    n ≤ Row.id row := by
  induction makes generalizing n with
  | nil => exact absurd h List.not_mem_nil
  | cons make makes ih =>
    obtain ⟨hfirst, hrest⟩ := List.forall_mem_cons.1 hid
    rcases List.mem_cons.1 h with rfl | h
    · exact Int.le_of_eq (hfirst n).symm
    · have hle := ih hrest h
      omega

theorem nodup_numbered (n : Int) : ((numbered n makes).map Row.id).Nodup := by
  induction makes generalizing n with
  | nil => exact List.nodup_nil
  | cons make makes ih =>
    obtain ⟨hfirst, hrest⟩ := List.forall_mem_cons.1 hid
    rw [numbered, List.map_cons, List.nodup_cons]
    refine ⟨fun hmem => ?_, ih hrest (n + 1)⟩
    obtain ⟨row, hrow, hsame⟩ := List.mem_map.1 hmem
    have hle := le_id_of_mem_numbered hrest hrow
    rw [hsame, hfirst] at hle
    omega

/-- Fresh rows are new. -/
theorem newer_fresh (table : List α) : Newer table (fresh table makes) where
  ids := nodup_numbered hid _
  above row hrow old hold := by
    have hle := le_id_of_mem_numbered hid hrow
    have hlt := lt_nextId hold
    omega

end Numbered

/-- A row with a fresh id is new. -/
theorem newer_next (make : Int → α) (hid : ∀ id, Row.id (make id) = id) (table : List α) :
    Newer table [make (nextId table)] :=
  newer_fresh (List.forall_mem_singleton.2 hid) table

section Grown

variable {owned : α → Bool} {key : α → Int} {targets : List (Int × (Int → α))}

omit [Row α] in
/-- Numbered rows have the keys of their targets. -/
theorem map_numbered {κ : Type} [DecidableEq κ] {full : α → κ × Int} {owner : κ}
    (howned : ∀ row, owned row = decide ((full row).1 = owner))
    (hkey : ∀ row, key row = (full row).2) (h : Targets owned key targets) (n : Int) :
    (numbered n (targets.map (·.2))).map full = targets.map fun t => (owner, t.1) := by
  induction targets generalizing n with
  | nil => rfl
  | cons t targets ih =>
    have howner : (full (t.2 n)).1 = owner := by
      have hown := h.owned t List.mem_cons_self n
      rw [howned] at hown
      exact of_decide_eq_true hown
    have hsecond : (full (t.2 n)).2 = t.1 := by
      rw [← hkey]
      exact h.key t List.mem_cons_self n
    have hfull : full (t.2 n) = (owner, t.1) := Prod.ext howner hsecond
    rw [List.map_cons, numbered, List.map_cons, List.map_cons, hfull, ih h.tail]

/-- Keys stay different when rows are added for the targets that have none, even before any row is
dropped. -/
theorem nodup_grown {κ : Type} [DecidableEq κ] {full : α → κ × Int} (owner : κ)
    (howned : ∀ row, owned row = decide ((full row).1 = owner))
    (hkey : ∀ row, key row = (full row).2) (h : Targets owned key targets)
    (hnodup : (table.map full).Nodup) :
    ((table ++ fresh table ((missing table owned key targets).map (·.2))).map full).Nodup := by
  have hmissing : Targets owned key (missing table owned key targets) := h.filter _
  rw [List.map_append, fresh, map_numbered howned hkey hmissing, List.nodup_append]
  refine ⟨hnodup, ?_, ?_⟩
  · have hkeys := hmissing.keys_nodup.map (f := fun k => (owner, k)) fun _ _ heq =>
      (Prod.mk.inj heq).2
    rwa [List.map_map] at hkeys
  · rintro k hk k' hk' rfl
    obtain ⟨row, hrow, hfull⟩ := List.mem_map.1 hk
    obtain ⟨t, ht, rfl⟩ := List.mem_map.1 hk'
    have hnone := (List.mem_filter.1 ht).2
    rw [Bool.not_eq_true', List.any_eq_false] at hnone
    refine hnone row hrow ?_
    rw [howned, hkey, hfull]
    simp

variable (hmake : ∀ t ∈ targets, ∀ id, Row.id (t.2 id) = id)

include hmake

theorem newer_missing (table : List α) :
    Newer table (fresh table ((missing table owned key targets).map (·.2))) := by
  refine newer_fresh (fun make hmem id => ?_) table
  obtain ⟨t, ht, rfl⟩ := List.mem_map.1 hmem
  exact hmake t (List.mem_of_mem_filter ht) id

/-- The rows that a rebuild adds are those of the targets that had none. -/
theorem added_rebuild (h : Targets owned key targets) :
    added table (rebuild table owned key targets) =
      fresh table ((missing table owned key targets).map (·.2)) := by
  have hfresh : (fresh table ((missing table owned key targets).map (·.2))).filterMap
      (renewed owned key targets) =
        fresh table ((missing table owned key targets).map (·.2)) := by
    refine (List.filterMap_congr fun row hrow => ?_).trans List.filterMap_some
    -- A fresh row is made by its target, and making it again gives the same row.
    obtain ⟨t, ht, id, rfl⟩ := mem_numbered hrow
    have hmem : t ∈ targets := List.mem_of_mem_filter ht
    rw [renewed, if_pos (h.owned t hmem id), h.key t hmem id, lookup_of_mem h.keys_nodup hmem]
    rw [Option.map_some, hmake t hmem id]
  rw [rebuild_eq, List.filterMap_append, hfresh]
  refine added_append (fun row hrow => ?_) (newer_missing hmake table)
  obtain ⟨r, hr, hrenewed⟩ := List.mem_filterMap.1 hrow
  rw [renewed] at hrenewed
  split at hrenewed
  · obtain ⟨make, hlookup, rfl⟩ := Option.map_eq_some_iff.1 hrenewed
    rw [hmake _ (mem_of_lookup hlookup)]
    exact List.mem_map_of_mem hr
  · obtain rfl := Option.some.inj hrenewed
    exact List.mem_map_of_mem hr

end Grown

/-- The rows that are new once missing rows were added and all rows changed. -/
theorem added_map_ensure {owned : α → Bool} {key : α → Int} {make : Int → Int → α}
    {keys : List Int} (hmake : ∀ k id, Row.id (make k id) = id) {f : α → α}
    (hf : ∀ row, Row.id (f row) = Row.id row) :
    added table ((ensure table owned key make keys).map f) =
      (fresh table
        ((missing table owned key (keys.map fun k => (k, make k))).map (·.2))).map f := by
  have htargets : ∀ t ∈ keys.map fun k => (k, make k), ∀ id, Row.id (t.2 id) = id := by
    intro t ht id
    obtain ⟨k, -, rfl⟩ := List.mem_map.1 ht
    exact hmake k id
  rw [ensure_eq, List.map_append]
  refine added_append (fun row hrow => ?_) ((newer_missing htargets table).map hf)
  obtain ⟨r, hr, rfl⟩ := List.mem_map.1 hrow
  rw [hf]
  exact List.mem_map_of_mem hr

end Table

/-! ### Taking rows -/

namespace Stored

variable {α : Type} [Stored α] {s : Store}

/-- Put rows into a table one after the other; one that shares a unique key with a row that is there
is refused. -/
def putIn (s : Store) (new : List α) : Except Fault Store :=
  new.foldlM (fun s row => addRow s (rows s) row) s

/-- Two rows share a unique key. -/
def Clash (row other : α) : Prop := ∃ key ∈ keysOf row, key ∈ keysOf other

/-- A table whose rows are known by their ids and by one other key, and that holds what is written
to it. -/
structure KnownBy {κ : Type} (full : α → κ) : Prop where
  shared : ∀ a b : α, Clash a b → Row.id a = Row.id b ∨ full a = full b
  holds : ∀ (s : Store) (table : List α), rows (withRows s table) = table

/-- A row that shares no key is taken. -/
theorem addRow_eq_ok {others : List α} {row : α} (h : ∀ r ∈ others, ¬Clash row r) :
    addRow s others row = .ok (withRows s (Table.insert others row)) := by
  have hnone : ((keysOf row).zip (uniqueKeys α)).find? (fun p =>
      others.any fun r => (keysOf r).contains p.1) = none := by
    refine List.find?_eq_none.2 fun p hp htaken => ?_
    obtain ⟨r, hr, hkey⟩ := List.any_eq_true.1 htaken
    exact h r hr ⟨p.1, (List.of_mem_zip hp).1, List.contains_iff_mem.1 hkey⟩
  unfold addRow
  dsimp only
  rw [hnone]

/-- Rows that share no key with each other or with a row that is there are all taken. -/
theorem exists_putIn {κ : Type} {full : α → κ} (h : KnownBy full) {new : List α}
    (hold : ∀ row ∈ new, ∀ r ∈ (rows s : List α), ¬Clash row r)
    (hnew : new.Pairwise fun a b => ¬Clash b a) : ∃ t, putIn s new = .ok t := by
  induction new generalizing s with
  | nil => exact ⟨s, rfl⟩
  | cons row new ih =>
    obtain ⟨hfirst, hrest⟩ := List.forall_mem_cons.1 hold
    obtain ⟨hnone, hnew⟩ := List.pairwise_cons.1 hnew
    have hnext : ∀ row' ∈ new,
        ∀ r ∈ (rows (withRows s (Table.insert (rows s) row)) : List α), ¬Clash row' r := by
      intro row' hrow' r hr
      rw [h.holds, Table.mem_insert] at hr
      rcases hr with rfl | hr
      · exact hnone row' hrow'
      · exact hrest row' hrow' r hr
    obtain ⟨t, ht⟩ := ih hnext hnew
    refine ⟨t, ?_⟩
    rw [putIn, List.foldlM_cons, addRow_eq_ok hfirst]
    exact ht

/-- New rows with new ids and different keys are all taken. -/
theorem KnownBy.exists_putIn {κ : Type} {full : α → κ} (h : KnownBy full) {new : List α}
    (hnewer : Table.Newer (rows s) new) (hkeys : ((rows s ++ new).map full).Nodup) :
    ∃ t, putIn s new = .ok t := by
  rw [List.map_append, List.nodup_append] at hkeys
  obtain ⟨-, hnodup, hdisjoint⟩ := hkeys
  refine Stored.exists_putIn h ?_ ?_
  · intro row hrow r hr hclash
    rcases h.shared row r hclash with hid | hfull
    · exact absurd hid.symm (Int.ne_of_lt (hnewer.above row hrow r hr))
    · exact hdisjoint _ (List.mem_map_of_mem hr) _ (List.mem_map_of_mem hrow) hfull.symm
  · have hids := List.pairwise_map.1 hnewer.ids
    have hfulls := List.pairwise_map.1 hnodup
    refine (hids.and hfulls).imp fun {a b} hne hclash => ?_
    rcases h.shared b a hclash with hid | hfull
    · exact hne.1 hid.symm
    · exact hne.2 hfull.symm

end Stored

namespace Engine

variable {α : Type} [Stored α]

/-- Replace a table by a changed one: the rows that are new are put in one after the other, while
all old rows are still there. -/
def write (table : List α) : Engine Unit := do
  let s ← current
  let _ ← lift (Stored.putIn s (Table.added (Stored.rows s) table))
  put (Stored.withRows s table)

instance (table : List α) : Quiet (write table) := by
  unfold write
  infer_instance

/-- New rows with new ids and different keys are never refused. -/
theorem effect_write {κ : Type} {full : α → κ} (h : Stored.KnownBy full) {s : Store}
    {table new : List α} (hadded : Table.added (Stored.rows s) table = new)
    (hnewer : Table.Newer (Stored.rows s) new)
    (hkeys : ((Stored.rows s ++ new).map full).Nodup) :
    (write table).effect s = (.ok (), Stored.withRows s table) := by
  obtain ⟨t, ht⟩ := h.exists_putIn hnewer hkeys
  unfold write
  rw [effect_bind, effect_current]
  simp only
  rw [hadded, effect_bind, effect_lift, ht]
  rfl

end Engine

/-- A second use of a boost in the same round is refused. -/
example : (Engine.write [(⟨1, 10, 1, 1, 1, "DoubleUp", .newYear2025⟩ : BoostUsage),
    ⟨2, 10, 1, 1, 1, "DoubleUp", .newYear2025⟩]).effect Store.empty =
      (.error (.duplicateKey "user_boost_usages" ["user_id", "league_id", "round_id"]),
        Store.empty) := by
  decide +kernel

end PredictionLeague
