import Mathlib.Data.List.Nodup
import Mathlib.Data.List.Count
import PredictionLeague.Store.Table

/-!
# Rows by owner and key

A table that is rebuilt for one owner holds one row for each wanted key and none for the others,
whatever it held before; rows of other owners stay as they were.

* `Table.rowsOf`: the rows of an owner with a key;
* `Table.Unique`: an owner has at most one row with a key;
* `Table.Records`: an owner has exactly the wanted rows, up to their ids;
* `records_rebuild`, `filter_rebuild`, `nodup_rebuild`: what a rebuilt table holds;
* `rowsOf_ensure_old`, `rowsOf_ensure_new`, `filter_ensure`, `nodup_ensure`: what a table with its
  missing rows holds;
* `foldl_replace`: rows put in their places one after the other.
-/

namespace PredictionLeague.Table

variable {α : Type}

/-- The rows of an owner with a key. -/
def rowsOf (table : List α) (owned : α → Bool) (key : α → Int) (k : Int) : List α :=
  table.filter fun row => owned row && key row == k

/-- An owner has at most one row with a key. -/
def Unique (table : List α) (owned : α → Bool) (key : α → Int) : Prop :=
  ∀ k, (rowsOf table owned key k).length ≤ 1

/-- An owner has one row for each wanted key, made as wanted with some id, and no other row. -/
structure Records (table : List α) (owned : α → Bool) (key : α → Int)
    (wanted : Int → Option (Int → α)) : Prop where
  absent : ∀ k, wanted k = none → rowsOf table owned key k = []
  present : ∀ k make, wanted k = some make → ∃ id, rowsOf table owned key k = [make id]

/-- The targets of a rebuild: different keys, and rows of the owner with these keys. -/
structure Targets (owned : α → Bool) (key : α → Int) (targets : List (Int × (Int → α))) : Prop where
  keys_nodup : (targets.map (·.1)).Nodup
  owned : ∀ t ∈ targets, ∀ id, owned (t.2 id) = true
  key : ∀ t ∈ targets, ∀ id, key (t.2 id) = t.1

section Rows

variable {table : List α} {owned : α → Bool} {key : α → Int} {wanted : Int → Option (Int → α)}

theorem rowsOf_append (table' : List α) (k : Int) :
    rowsOf (table ++ table') owned key k = rowsOf table owned key k ++ rowsOf table' owned key k :=
  List.filter_append ..

theorem mem_rowsOf {row : α} {k : Int} :
    row ∈ rowsOf table owned key k ↔ row ∈ table ∧ owned row ∧ key row = k := by
  simp [rowsOf]

theorem any_eq_false_iff {k : Int} :
    (table.any fun row => owned row && key row == k) = false ↔ rowsOf table owned key k = [] := by
  simp [rowsOf]

theorem Records.unique (h : Records table owned key wanted) : Unique table owned key := by
  intro k
  cases hw : wanted k with
  | none => simp [h.absent k hw]
  | some make =>
    obtain ⟨id, hid⟩ := h.present k make hw
    simp [hid]

/-- A change of rows that keeps owner and key changes the rows of a key alike. -/
theorem rowsOf_map (f : α → α) (howned : ∀ row, owned (f row) = owned row)
    (hkey : ∀ row, key (f row) = key row) (k : Int) :
    rowsOf (table.map f) owned key k = (rowsOf table owned key k).map f := by
  rw [rowsOf, List.filter_map]
  congr 1
  exact List.filter_congr fun row _ => by simp [howned, hkey]

theorem Records.map (h : Records table owned key wanted) (f : α → α)
    (howned : ∀ row, owned (f row) = owned row) (hkey : ∀ row, key (f row) = key row) :
    Records (table.map f) owned key fun k => (wanted k).map fun make id => f (make id) where
  absent k hk := by
    rw [rowsOf_map f howned hkey, h.absent k (Option.map_eq_none_iff.1 hk), List.map_nil]
  present k make hk := by
    obtain ⟨make', hmake', rfl⟩ := Option.map_eq_some_iff.1 hk
    obtain ⟨id, hid⟩ := h.present k make' hmake'
    exact ⟨id, by rw [rowsOf_map f howned hkey, hid, List.map_singleton]⟩

/-- The rows of an owner are untouched when only rows of others change. -/
theorem rowsOf_of_filter_eq {table' : List α} (heq : table'.filter owned = table.filter owned)
    (k : Int) : rowsOf table' owned key k = rowsOf table owned key k := by
  have hsplit (t : List α) : rowsOf t owned key k = (t.filter owned).filter (key · == k) := by
    rw [List.filter_filter]
    exact List.filter_congr fun row _ => Bool.and_comm _ _
  rw [hsplit, hsplit, heq]

theorem Records.of_filter_eq {table' : List α} (h : Records table owned key wanted)
    (heq : table'.filter owned = table.filter owned) : Records table' owned key wanted where
  absent k hk := (rowsOf_of_filter_eq heq k).trans (h.absent k hk)
  present k make hk := (h.present k make hk).imp fun _ hid => (rowsOf_of_filter_eq heq k).trans hid

/-- Two tables with the wanted rows hold the same rows, but for what does not count. -/
theorem Records.exists_same {table' : List α} {β : Type} {f : α → β}
    (h : Records table owned key wanted) (h' : Records table' owned key wanted)
    (hf : ∀ k make, wanted k = some make → ∀ id id', f (make id) = f (make id')) {row : α}
    (hrow : row ∈ table) (howned : owned row = true) : ∃ row' ∈ table', f row' = f row := by
  have hmem : row ∈ rowsOf table owned key (key row) := mem_rowsOf.2 ⟨hrow, howned, rfl⟩
  cases hw : wanted (key row) with
  | none => simp [h.absent _ hw] at hmem
  | some make =>
    obtain ⟨id, hid⟩ := h.present _ make hw
    obtain ⟨id', hid'⟩ := h'.present _ make hw
    rw [hid, List.mem_singleton] at hmem
    have hmem' : make id' ∈ rowsOf table' owned key (key row) := hid' ▸ List.mem_singleton_self _
    refine ⟨make id', (mem_rowsOf.1 hmem').1, ?_⟩
    rw [hf _ make hw id' id, ← hmem]

/-- A row is the only one of its owner with its key. -/
theorem Unique.rowsOf_of_mem (h : Unique table owned key) {row : α} (hrow : row ∈ table)
    (howned : owned row = true) : rowsOf table owned key (key row) = [row] := by
  have hmem : row ∈ rowsOf table owned key (key row) := mem_rowsOf.2 ⟨hrow, howned, rfl⟩
  have hlength := Nat.le_antisymm (h (key row)) (List.length_pos_of_mem hmem)
  obtain ⟨row', hrows⟩ := List.length_eq_one_iff.1 hlength
  rw [hrows, List.mem_singleton] at hmem
  rw [hrows, hmem]

theorem Unique.of_filter_eq {table' : List α} (h : Unique table owned key)
    (heq : table'.filter owned = table.filter owned) : Unique table' owned key := by
  intro k
  rw [rowsOf_of_filter_eq heq]
  exact h k

/-- A table with different full keys has at most one row for each owner and key. -/
theorem unique_of_nodup {κ : Type} [DecidableEq κ] (full : α → κ × Int) (owner : κ)
    (howned : ∀ row, owned row = decide ((full row).1 = owner))
    (hkey : ∀ row, key row = (full row).2)
    (h : (table.map full).Nodup) : Unique table owned key := by
  intro k
  have hcount := List.nodup_iff_count_le_one.1 h (owner, k)
  rw [List.count_eq_countP, List.countP_map, List.countP_eq_length_filter] at hcount
  have hrows : rowsOf table owned key k = table.filter ((· == (owner, k)) ∘ full) := by
    refine List.filter_congr fun row _ => ?_
    simp only [howned, hkey, Function.comp_apply]
    rcases full row with ⟨o, k'⟩
    by_cases ho : o = owner <;> by_cases hk : k' = k <;> simp [ho, hk]
  rwa [hrows]

end Rows

/-! ### Fresh rows -/

section Numbered

variable {β γ : Type} {make : β → Int → α} {bs : List β}

theorem mem_numbered {n : Int} {row : α} (h : row ∈ numbered n (bs.map make)) :
    ∃ b ∈ bs, ∃ id, row = make b id := by
  induction bs generalizing n with
  | nil => simp [numbered] at h
  | cons b bs ih =>
    rcases List.mem_cons.1 h with rfl | h
    · exact ⟨b, List.mem_cons_self, n, rfl⟩
    · obtain ⟨b', hb', id, hid⟩ := ih h
      exact ⟨b', List.mem_cons_of_mem _ hb', id, hid⟩

/-- What does not depend on ids is the same for numbered rows and for what they are made of. -/
theorem map_filter_numbered (n : Int) (p : α → Bool) (q : β → Bool) (f : α → γ) (g : β → γ)
    (hp : ∀ b id, p (make b id) = q b) (hf : ∀ b id, f (make b id) = g b) :
    ((numbered n (bs.map make)).filter p).map f = (bs.filter q).map g := by
  induction bs generalizing n with
  | nil => rfl
  | cons b bs ih =>
    rw [List.map_cons, numbered, List.filter_cons, List.filter_cons, hp]
    split
    · rw [List.map_cons, List.map_cons, hf, ih]
    · exact ih _

/-- The same for all of them. -/
theorem map_numbered_map (n : Int) (f : α → γ) (g : β → γ) (hf : ∀ b id, f (make b id) = g b) :
    (numbered n (bs.map make)).map f = bs.map g := by
  induction bs generalizing n with
  | nil => rfl
  | cons b bs ih => rw [List.map_cons, numbered, List.map_cons, List.map_cons, hf, ih]

theorem numbered_append (n : Int) (xs ys : List (Int → α)) :
    numbered n (xs ++ ys) = numbered n xs ++ numbered (n + xs.length) ys := by
  induction xs generalizing n with
  | nil => rw [List.length_nil, Int.natCast_zero, Int.add_zero]; rfl
  | cons x xs ih =>
    have hnext : n + 1 + (xs.length : Int) = n + ((x :: xs).length : Int) := by
      rw [List.length_cons]
      omega
    rw [List.cons_append, numbered, ih, hnext]
    rfl

/-- Numbered rows that come in parts are numbered part by part. -/
theorem exists_parts_numbered (n : Int) {f : β → List (Int → α)} {p : β → List α → Prop}
    {bs : List β} (h : ∀ b ∈ bs, ∀ id, p b (numbered id (f b))) :
    ∃ parts, List.Forall₂ p bs parts ∧ numbered n (bs.flatMap f) = parts.flatten := by
  induction bs generalizing n with
  | nil => exact ⟨[], .nil, rfl⟩
  | cons b bs ih =>
    obtain ⟨hfirst, hrest⟩ := List.forall_mem_cons.1 h
    obtain ⟨parts, hparts, hflatten⟩ := ih (n + (f b).length) hrest
    refine ⟨numbered n (f b) :: parts, .cons (hfirst n) hparts, ?_⟩
    rw [List.flatMap_cons, numbered_append, hflatten, List.flatten_cons]

end Numbered

section Fresh

variable {owned : α → Bool} {key : α → Int}

theorem lookup_cons_of_ne {β : Type} {k k' : Int} (h : k ≠ k') (b : β) (l : List (Int × β)) :
    ((k', b) :: l).lookup k = l.lookup k := by
  rw [List.lookup_cons, beq_false_of_ne h]

theorem mem_of_lookup {β : Type} {k : Int} {b : β} {l : List (Int × β)} (h : l.lookup k = some b) :
    (k, b) ∈ l := by
  obtain ⟨l₁, l₂, rfl, -⟩ := List.lookup_eq_some_iff.1 h
  simp

theorem lookup_of_mem {β : Type} {t : Int × β} {l : List (Int × β)} (h : (l.map (·.1)).Nodup)
    (ht : t ∈ l) : l.lookup t.1 = some t.2 := by
  induction l with
  | nil => simp at ht
  | cons t' l ih =>
    obtain ⟨hfirst, hrest⟩ := List.nodup_cons.1 h
    rcases List.mem_cons.1 ht with rfl | ht
    · exact List.lookup_cons_self
    · have hne : t.1 ≠ t'.1 := fun he => hfirst (List.mem_map.2 ⟨t, ht, he⟩)
      rw [lookup_cons_of_ne hne]
      exact ih hrest ht

theorem lookup_filter_key (targets : List (Int × (Int → α))) (p : Int → Bool) (k : Int) :
    (targets.filter fun t => p t.1).lookup k = if p k then targets.lookup k else none := by
  induction targets with
  | nil => simp
  | cons t targets ih =>
    obtain ⟨k', make⟩ := t
    rw [List.filter_cons]
    by_cases hk : k = k'
    · subst hk
      by_cases hp : p k
      · simp [hp]
      · simpa [hp] using ih
    · by_cases hp : p k' <;> simp [hp, lookup_cons_of_ne hk, ih]

theorem Targets.tail {t : Int × (Int → α)} {targets : List (Int × (Int → α))}
    (h : Targets owned key (t :: targets)) : Targets owned key targets where
  keys_nodup := (List.nodup_cons.1 h.keys_nodup).2
  owned t ht := h.owned t (List.mem_cons_of_mem _ ht)
  key t ht := h.key t (List.mem_cons_of_mem _ ht)

theorem Targets.filter {targets : List (Int × (Int → α))} (h : Targets owned key targets)
    (p : Int × (Int → α) → Bool) : Targets owned key (targets.filter p) where
  keys_nodup := h.keys_nodup.sublist (List.filter_sublist.map _)
  owned t ht := h.owned t (List.mem_of_mem_filter ht)
  key t ht := h.key t (List.mem_of_mem_filter ht)

theorem owned_of_mem_numbered {targets : List (Int × (Int → α))} (h : Targets owned key targets)
    {n : Int} {row : α} (hrow : row ∈ numbered n (targets.map (·.2))) : owned row = true := by
  induction targets generalizing n with
  | nil => simp [numbered] at hrow
  | cons t targets ih =>
    rcases List.mem_cons.1 hrow with rfl | hrow
    · exact h.owned t List.mem_cons_self n
    · exact ih h.tail hrow

/-- Numbered rows of different keys: one for each key. -/
theorem records_numbered {targets : List (Int × (Int → α))} (h : Targets owned key targets)
    (n : Int) :
    Records (numbered n (targets.map (·.2))) owned key fun k => targets.lookup k := by
  induction targets generalizing n with
  | nil => exact ⟨fun k _ => rfl, fun k make hk => by simp at hk⟩
  | cons t targets ih =>
    have ih := ih h.tail (n + 1)
    obtain ⟨k', make'⟩ := t
    have howned : owned (make' n) = true := h.owned _ List.mem_cons_self n
    have hkey : key (make' n) = k' := h.key _ List.mem_cons_self n
    have hrow (k : Int) : rowsOf (numbered n (((k', make') :: targets).map (·.2))) owned key k =
        (if k' = k then [make' n] else []) ++
          rowsOf (numbered (n + 1) (targets.map (·.2))) owned key k := by
      simp only [rowsOf, List.map_cons, numbered, List.filter_cons, howned, hkey, Bool.true_and,
        beq_iff_eq]
      split <;> rfl
    refine ⟨fun k hk => ?_, fun k make hk => ?_⟩
    · have hne : k ≠ k' := by rintro rfl; simp at hk
      rw [hrow, if_neg hne.symm, List.nil_append]
      exact ih.absent k (by rwa [lookup_cons_of_ne hne] at hk)
    · by_cases he : k = k'
      · subst he
        have hnone : targets.lookup k = none := by
          rw [List.lookup_eq_none_iff]
          intro t ht
          have hne : k ≠ t.1 := fun e =>
            (List.nodup_cons.1 h.keys_nodup).1 (List.mem_map.2 ⟨t, ht, e.symm⟩)
          simpa using hne
        obtain rfl : make' = make := by simpa using hk
        exact ⟨n, by rw [hrow, if_pos rfl, ih.absent k hnone, List.append_nil]⟩
      · obtain ⟨id, hid⟩ := ih.present k make (by rwa [lookup_cons_of_ne he] at hk)
        exact ⟨id, by rw [hrow, if_neg (Ne.symm he), List.nil_append, hid]⟩

end Fresh

/-! ### Targets by key -/

section TargetsOf

variable {β : Type}

/-- The wanted rows of the given keys. -/
def targetsOf (keys : List Int) (wanted : Int → Option β) : List (Int × β) :=
  keys.filterMap fun k => (wanted k).map (k, ·)

theorem lookup_targetsOf (keys : List Int) (wanted : Int → Option β) (k : Int) :
    (targetsOf keys wanted).lookup k = if k ∈ keys then wanted k else none := by
  induction keys with
  | nil => rfl
  | cons k' keys ih =>
    cases hw : wanted k' with
    | none =>
      have hcons : targetsOf (k' :: keys) wanted = targetsOf keys wanted := by simp [targetsOf, hw]
      rw [hcons, ih]
      by_cases hk : k = k'
      · subst hk; simp [hw]
      · simp [hk]
    | some b =>
      have hcons : targetsOf (k' :: keys) wanted = (k', b) :: targetsOf keys wanted := by
        simp [targetsOf, hw]
      rw [hcons]
      by_cases hk : k = k'
      · subst hk; simp [hw]
      · rw [lookup_cons_of_ne hk, ih]
        simp [hk]

theorem keys_targetsOf (keys : List Int) (wanted : Int → Option β) :
    (targetsOf keys wanted).map (·.1) = keys.filter fun k => (wanted k).isSome := by
  rw [targetsOf, List.map_filterMap, ← List.filterMap_eq_filter]
  congr 1
  funext k
  cases h : wanted k <;> simp [Option.guard, h]

theorem wanted_of_mem {keys : List Int} {wanted : Int → Option β} {t : Int × β}
    (ht : t ∈ targetsOf keys wanted) : wanted t.1 = some t.2 := by
  obtain ⟨k, -, hk⟩ := List.mem_filterMap.1 ht
  obtain ⟨b, hb, rfl⟩ := Option.map_eq_some_iff.1 hk
  exact hb

theorem Targets.of {owned : α → Bool} {key : α → Int} {keys : List Int}
    {wanted : Int → Option (Int → α)} (hkeys : keys.Nodup)
    (howned : ∀ k make, wanted k = some make → ∀ id, owned (make id) = true ∧ key (make id) = k) :
    Targets owned key (targetsOf keys wanted) where
  keys_nodup := by
    rw [keys_targetsOf]
    exact hkeys.filter _
  owned t ht id := (howned t.1 t.2 (wanted_of_mem ht) id).1
  key t ht id := (howned t.1 t.2 (wanted_of_mem ht) id).2

end TargetsOf

/-! ### Rebuilt tables -/

section Rebuild

variable [Row α] {table : List α} {owned : α → Bool} {key : α → Int}
  {targets : List (Int × (Int → α))}

omit [Row α] in
theorem owned_of_lookup (h : Targets owned key targets) {k : Int} {make : Int → α}
    (hk : targets.lookup k = some make) (id : Int) :
    owned (make id) = true ∧ key (make id) = k :=
  ⟨h.owned _ (mem_of_lookup hk) id, h.key _ (mem_of_lookup hk) id⟩

/-- The targets for which a table has no row yet. -/
def missing (table : List α) (owned : α → Bool) (key : α → Int)
    (targets : List (Int × (Int → α))) : List (Int × (Int → α)) :=
  targets.filter fun t => !table.any fun row => owned row && key row == t.1

/-- The row of a rebuilt table in the place of an old one. -/
def renewed (owned : α → Bool) (key : α → Int) (targets : List (Int × (Int → α))) (row : α) :
    Option α :=
  if owned row then (targets.lookup (key row)).map fun make => make (Row.id row) else some row

omit [Row α] in
theorem lookup_missing (table : List α) (owned : α → Bool) (key : α → Int)
    (targets : List (Int × (Int → α))) (k : Int) : (missing table owned key targets).lookup k =
      if !(table.any fun row => owned row && key row == k) then targets.lookup k else none :=
  lookup_filter_key targets (fun k => !table.any fun row => owned row && key row == k) k

theorem rebuild_eq : rebuild table owned key targets =
    (table ++ fresh table ((missing table owned key targets).map (·.2))).filterMap
      (renewed owned key targets) := rfl

/-- Owner by owner and key by key a rebuild changes the rows one by one. -/
theorem rowsOf_rebuild (h : Targets owned key targets) (k : Int) :
    rowsOf (rebuild table owned key targets) owned key k =
      (rowsOf (table ++ fresh table ((missing table owned key targets).map (·.2)))
        owned key k).filterMap fun row => (targets.lookup k).map fun make => make (Row.id row) := by
  rw [rebuild_eq, rowsOf, List.filter_filterMap, rowsOf, List.filterMap_filter]
  congr 1
  funext row
  by_cases hrow : owned row
  · by_cases hk : key row = k
    · subst hk
      cases hl : targets.lookup (key row) with
      | none => simp [renewed, hrow, hl]
      | some make => simp [renewed, hrow, hl, owned_of_lookup h hl]
    · cases hl : targets.lookup (key row) with
      | none => simp [renewed, hrow, hl, hk]
      | some make => simp [renewed, hrow, hl, hk, owned_of_lookup h hl]
  · simp [renewed, hrow]

/-- A rebuilt table holds the wanted rows of the owner, whatever it held before. -/
theorem records_rebuild (h : Targets owned key targets) (hu : Unique table owned key) :
    Records (rebuild table owned key targets) owned key fun k => targets.lookup k := by
  have hfresh : Records (fresh table ((missing table owned key targets).map (·.2))) owned key
      fun k => (missing table owned key targets).lookup k := records_numbered (h.filter _) _
  refine ⟨fun k hk => ?_, fun k make hk => ?_⟩
  · rw [rowsOf_rebuild h, hk]
    simp
  · rw [rowsOf_rebuild h, hk, rowsOf_append]
    have hmissing := lookup_missing table owned key targets k
    -- A wanted row is made in the place of the old one, or as a fresh row if there is none.
    match hrows : rowsOf table owned key k with
    | [] =>
      rw [any_eq_false_iff.2 hrows, hk] at hmissing
      obtain ⟨id, hid⟩ := hfresh.present k make hmissing
      exact ⟨Row.id (make id), by rw [hid]; rfl⟩
    | [row] =>
      have hany : (table.any fun row => owned row && key row == k) = true := by
        rw [← Bool.not_eq_false, any_eq_false_iff, hrows]
        simp
      rw [hany] at hmissing
      exact ⟨Row.id row, by rw [hfresh.absent k hmissing]; rfl⟩
    | _ :: _ :: _ =>
      have hlen := hu k
      rw [hrows] at hlen
      simp at hlen

theorem filter_fresh (h : Targets owned key targets) {p : α → Bool}
    (hp : ∀ row, p row = true → owned row = false) :
    (fresh table ((missing table owned key targets).map (·.2))).filter p = [] := by
  refine List.filter_eq_nil_iff.2 fun row hrow hpr => ?_
  have := owned_of_mem_numbered (h.filter _) hrow
  simp [hp row hpr] at this

/-- A rebuild leaves the rows of other owners as they were. -/
theorem filter_rebuild (h : Targets owned key targets) {p : α → Bool}
    (hp : ∀ row, p row = true → owned row = false) :
    (rebuild table owned key targets).filter p = table.filter p := by
  -- A row of the owner fails `p` before and after, any other row is kept as it is.
  have hrenewed (row : α) : (renewed owned key targets row).filter p = Option.guard p row := by
    by_cases hrow : owned row
    · have hpf : p row = false := by
        by_contra hne
        simp [hp row (by simpa using hne)] at hrow
      cases hl : targets.lookup (key row) with
      | none => simp [renewed, hrow, hl, hpf, Option.guard]
      | some make =>
        have hmake : p (make (Row.id row)) = false := by
          by_contra hne
          have := hp (make (Row.id row)) (by simpa using hne)
          simp [owned_of_lookup h hl] at this
        simp [renewed, hrow, hl, hpf, hmake, Option.guard, Option.filter]
    · by_cases hpr : p row <;> simp [renewed, hrow, hpr, Option.guard, Option.filter]
  rw [rebuild_eq, List.filter_filterMap]
  simp only [hrenewed]
  rw [List.filterMap_eq_filter, List.filter_append, filter_fresh h hp, List.append_nil]

omit [Row α] in
/-- Full keys stay different when an owner has one row for each key and the rows of others stay. -/
theorem nodup_of_unique {κ : Type} [DecidableEq κ] (full : α → κ × Int) (owner : κ)
    (howned : ∀ row, owned row = decide ((full row).1 = owner))
    (hkey : ∀ row, key row = (full row).2)
    {table' : List α} (hunique : Unique table' owned key)
    (hothers : ∀ p : α → Bool, (∀ row, p row = true → owned row = false) →
      table'.filter p = table.filter p)
    (hnodup : (table.map full).Nodup) : (table'.map full).Nodup := by
  refine List.nodup_iff_count_le_one.2 fun ⟨o, k⟩ => ?_
  -- A full key is counted among the rows of its owner: this one, or another whose rows stay.
  rw [List.count_eq_countP, List.countP_map, List.countP_eq_length_filter]
  by_cases ho : o = owner
  · have hrows : table'.filter ((· == (o, k)) ∘ full) = rowsOf table' owned key k := by
      refine List.filter_congr fun row _ => ?_
      simp only [howned, hkey, Function.comp_apply, ho]
      rcases full row with ⟨o', k'⟩
      by_cases ho' : o' = owner <;> by_cases hk' : k' = k <;> simp [ho', hk']
    rw [hrows]
    exact hunique k
  · have hother : ∀ row, ((· == (o, k)) ∘ full) row = true → owned row = false := by
      intro row hrow
      have hfull : full row = (o, k) := by simpa using hrow
      rw [howned, hfull]
      simpa using ho
    rw [hothers _ hother]
    have hcount := List.nodup_iff_count_le_one.1 hnodup (o, k)
    rwa [List.count_eq_countP, List.countP_map, List.countP_eq_length_filter] at hcount

/-- A rebuild keeps full keys different. -/
theorem nodup_rebuild {κ : Type} [DecidableEq κ] (full : α → κ × Int) (owner : κ)
    (howned : ∀ row, owned row = decide ((full row).1 = owner))
    (hkey : ∀ row, key row = (full row).2)
    (h : Targets owned key targets) (hnodup : (table.map full).Nodup) :
    ((rebuild table owned key targets).map full).Nodup :=
  nodup_of_unique full owner howned hkey
    (records_rebuild h (unique_of_nodup full owner howned hkey hnodup)).unique
    (fun _ hp => filter_rebuild h hp) hnodup

/-- A table that holds the wanted rows after a change `f` that keeps ids, owners and keys is not
changed by a rebuild, as far as the change tells. -/
theorem map_rebuild_of_records (f : α → α) (howned : ∀ row, owned (f row) = owned row)
    (hkey : ∀ row, key (f row) = key row) (hid : ∀ row, Row.id (f row) = Row.id row)
    (h : Targets owned key targets) (hmake : ∀ t ∈ targets, ∀ id, Row.id (t.2 id) = id)
    (hr : Records (table.map f) owned key fun k =>
      (targets.lookup k).map fun make id => f (make id)) :
    (rebuild table owned key targets).map f = table.map f := by
  -- Nothing is missing, and every row is renewed to one that the change cannot tell from it.
  have hmissing : missing table owned key targets = [] := by
    refine List.filter_eq_nil_iff.2 fun t ht hany => ?_
    rw [Bool.not_eq_true', any_eq_false_iff] at hany
    obtain ⟨id, hrow⟩ := hr.present t.1 (fun id => f (t.2 id))
      (by rw [lookup_of_mem h.keys_nodup ht]; rfl)
    rw [rowsOf_map f howned hkey, hany] at hrow
    simp at hrow
  have hrenewed : ∀ row ∈ table, (renewed owned key targets row).map f = some (f row) := by
    intro row hrow
    by_cases ho : owned row
    · have hmem : f row ∈ rowsOf (table.map f) owned key (key row) :=
        mem_rowsOf.2 ⟨List.mem_map_of_mem hrow, by rw [howned, ho], hkey row⟩
      cases hl : targets.lookup (key row) with
      | none => simp [hr.absent (key row) (by rw [hl]; rfl)] at hmem
      | some make =>
        obtain ⟨id, hrows⟩ := hr.present (key row) (fun id => f (make id)) (by rw [hl]; rfl)
        rw [hrows, List.mem_singleton] at hmem
        have hrowid : Row.id row = id := by
          rw [← hid row, hmem, hid, hmake _ (mem_of_lookup hl)]
        simp [renewed, ho, hl, hrowid, hmem]
    · simp [renewed, ho]
  rw [rebuild_eq, hmissing, List.map_nil, fresh, numbered, List.append_nil, List.map_filterMap]
  rw [List.filterMap_congr hrenewed, List.filterMap_eq_map']

end Rebuild

/-! ### Tables with the missing rows -/

section Ensure

variable [Row α] {table : List α} {owned : α → Bool} {key : α → Int} {make : Int → Int → α}
  {keys : List Int}

theorem ensure_eq : ensure table owned key make keys =
    table ++ fresh table ((missing table owned key (keys.map fun k => (k, make k))).map (·.2)) := by
  rw [ensure, addAll, missing, List.filter_map, List.map_map]
  rfl

/-- When all keys have rows, none is added. -/
theorem ensure_of_present (h : ∀ k ∈ keys, rowsOf table owned key k ≠ []) :
    ensure table owned key make keys = table := by
  have hnone : (keys.filter fun k => !table.any fun row => owned row && key row == k) = [] := by
    refine List.filter_eq_nil_iff.2 fun k hk hmissing => h k hk ?_
    exact any_eq_false_iff.1 (by simpa using hmissing)
  rw [ensure, hnone, List.map_nil, addAll, fresh, numbered, List.append_nil]

variable (hkeys : keys.Nodup)
  (hmake : ∀ k id, owned (make k id) = true ∧ key (make k id) = k)

include hkeys hmake

omit [Row α] in
theorem targets_ensure : Targets owned key (keys.map fun k => (k, make k)) where
  keys_nodup := by
    rw [List.map_map]
    exact (List.map_id keys).symm ▸ hkeys
  owned t ht id := by
    obtain ⟨k, -, rfl⟩ := List.mem_map.1 ht
    exact (hmake k id).1
  key t ht id := by
    obtain ⟨k, -, rfl⟩ := List.mem_map.1 ht
    exact (hmake k id).2

/-- A key without a row gets one. -/
theorem rowsOf_ensure_new {k : Int} (hk : k ∈ keys) (hnone : rowsOf table owned key k = []) :
    ∃ id, rowsOf (ensure table owned key make keys) owned key k = [make k id] := by
  have htargets : Targets owned key (keys.map fun k => (k, make k)) := targets_ensure hkeys hmake
  have hfresh := records_numbered (htargets.filter fun t =>
    !table.any fun row => owned row && key row == t.1) (nextId table)
  have hlookup := lookup_missing table owned key (keys.map fun k => (k, make k)) k
  have hmem : (k, make k) ∈ keys.map fun k => (k, make k) := List.mem_map_of_mem hk
  rw [any_eq_false_iff.2 hnone, lookup_of_mem htargets.keys_nodup hmem] at hlookup
  obtain ⟨id, hid⟩ := hfresh.present k (make k) hlookup
  refine ⟨id, ?_⟩
  rw [ensure_eq, rowsOf_append, hnone, List.nil_append]
  exact hid

/-- A key that has a row, or is not asked for, gets none. -/
theorem rowsOf_ensure_old {k : Int} (hold : k ∉ keys ∨ rowsOf table owned key k ≠ []) :
    rowsOf (ensure table owned key make keys) owned key k = rowsOf table owned key k := by
  have htargets : Targets owned key (keys.map fun k => (k, make k)) := targets_ensure hkeys hmake
  have hfresh := records_numbered (htargets.filter fun t =>
    !table.any fun row => owned row && key row == t.1) (nextId table)
  have habsent : (missing table owned key (keys.map fun k => (k, make k))).lookup k = none := by
    rw [lookup_missing]
    rcases hold with hk | hsome
    · have hnot : (keys.map fun k => (k, make k)).lookup k = none := by
        rw [List.lookup_eq_none_iff]
        intro t ht
        obtain ⟨k', hk', rfl⟩ := List.mem_map.1 ht
        have hne : k ≠ k' := fun heq => hk (heq ▸ hk')
        simpa using hne
      rw [hnot, ite_self]
    · have hany : (table.any fun row => owned row && key row == k) = true := by
        rwa [← Bool.not_eq_false, any_eq_false_iff]
      rw [hany]
      rfl
  rw [ensure_eq, rowsOf_append]
  exact (congrArg (rowsOf table owned key k ++ ·) (hfresh.absent k habsent)).trans
    (List.append_nil _)

theorem unique_ensure (hunique : Unique table owned key) :
    Unique (ensure table owned key make keys) owned key := by
  intro k
  by_cases hk : k ∈ keys ∧ rowsOf table owned key k = []
  · obtain ⟨id, hid⟩ := rowsOf_ensure_new hkeys hmake hk.1 hk.2
    rw [hid]
    simp
  · rw [not_and_or] at hk
    rw [rowsOf_ensure_old hkeys hmake hk]
    exact hunique k

/-- Missing rows of an owner are added without a change of the rows of others. -/
theorem filter_ensure {p : α → Bool} (hp : ∀ row, p row = true → owned row = false) :
    (ensure table owned key make keys).filter p = table.filter p := by
  rw [ensure_eq, List.filter_append, filter_fresh (targets_ensure hkeys hmake) hp, List.append_nil]

theorem nodup_ensure {κ : Type} [DecidableEq κ] (full : α → κ × Int) (owner : κ)
    (howned : ∀ row, owned row = decide ((full row).1 = owner))
    (hkey : ∀ row, key row = (full row).2)
    (hnodup : (table.map full).Nodup) :
    ((ensure table owned key make keys).map full).Nodup :=
  nodup_of_unique full owner howned hkey
    (unique_ensure hkeys hmake (unique_of_nodup full owner howned hkey hnodup))
    (fun _ hp => filter_ensure hkeys hmake hp) hnodup

end Ensure

/-! ### Several owners -/

section RebuildAll

variable [Row α] {ω : Type} (owned : ω → α → Bool) (key : α → Int)
  (targets : ω → List (Int × (Int → α)))

/-- The rows of several owners rebuilt, one owner after the other. -/
def rebuildAll (owners : List ω) (table : List α) : List α :=
  owners.foldl (fun table o => rebuild table (owned o) key (targets o)) table

variable {owned key targets} {owners : List ω}

theorem filter_rebuildAll (h : ∀ o ∈ owners, Targets (owned o) key (targets o)) {p : α → Bool}
    (hp : ∀ o ∈ owners, ∀ row, p row = true → owned o row = false) (table : List α) :
    (rebuildAll owned key targets owners table).filter p = table.filter p := by
  induction owners generalizing table with
  | nil => rfl
  | cons o owners ih =>
    rw [rebuildAll, List.foldl_cons]
    exact (ih (fun o' ho' => h o' (List.mem_cons_of_mem _ ho'))
      (fun o' ho' => hp o' (List.mem_cons_of_mem _ ho')) _).trans
      (filter_rebuild (h o List.mem_cons_self) (hp o List.mem_cons_self))

/-- Owners that share no row each get their wanted rows. -/
theorem records_rebuildAll
    (hdisjoint : owners.Pairwise fun a b => ∀ row, owned a row = true → owned b row = false)
    (h : ∀ o ∈ owners, Targets (owned o) key (targets o)) {table : List α}
    (hu : ∀ o ∈ owners, Unique table (owned o) key) {o : ω} (ho : o ∈ owners) :
    Records (rebuildAll owned key targets owners table) (owned o) key
      fun k => (targets o).lookup k := by
  induction owners generalizing table with
  | nil => simp at ho
  | cons o' owners ih =>
    obtain ⟨hfirst, hrest⟩ := List.pairwise_cons.1 hdisjoint
    have hhead := h o' List.mem_cons_self
    have htail : ∀ o ∈ owners, Targets (owned o) key (targets o) :=
      fun o ho => h o (List.mem_cons_of_mem _ ho)
    rw [rebuildAll, List.foldl_cons]
    rcases List.mem_cons.1 ho with rfl | ho
    · -- The owners after this one leave its rows alone.
      have hrecords := records_rebuild hhead (hu o List.mem_cons_self)
      exact hrecords.of_filter_eq (filter_rebuildAll htail (fun o' ho' => hfirst o' ho') _)
    · refine ih hrest htail (fun o ho => ?_) ho
      have hother : ∀ row, owned o row = true → owned o' row = false := by
        intro row hrow
        by_contra hne
        have := hfirst o ho row (by simpa using hne)
        simp [hrow] at this
      exact (hu o (List.mem_cons_of_mem _ ho)).of_filter_eq (filter_rebuild hhead hother)

theorem nodup_rebuildAll {κ : Type} [DecidableEq κ] (full : α → κ × Int) (owner : ω → κ)
    (howned : ∀ o row, owned o row = decide ((full row).1 = owner o))
    (hkey : ∀ row, key row = (full row).2)
    (h : ∀ o ∈ owners, Targets (owned o) key (targets o)) {table : List α}
    (hnodup : (table.map full).Nodup) :
    ((rebuildAll owned key targets owners table).map full).Nodup := by
  induction owners generalizing table with
  | nil => exact hnodup
  | cons o owners ih =>
    rw [rebuildAll, List.foldl_cons]
    exact ih (fun o' ho' => h o' (List.mem_cons_of_mem _ ho'))
      (nodup_rebuild full (owner o) (howned o) hkey (h o List.mem_cons_self) hnodup)

theorem map_rebuildAll_of_records (f : α → α) (howned : ∀ o row, owned o (f row) = owned o row)
    (hkey : ∀ row, key (f row) = key row) (hid : ∀ row, Row.id (f row) = Row.id row)
    (h : ∀ o ∈ owners, Targets (owned o) key (targets o))
    (hmake : ∀ o ∈ owners, ∀ t ∈ targets o, ∀ id, Row.id (t.2 id) = id) {table : List α}
    (hr : ∀ o ∈ owners, Records (table.map f) (owned o) key
      fun k => ((targets o).lookup k).map fun make id => f (make id)) :
    (rebuildAll owned key targets owners table).map f = table.map f := by
  induction owners generalizing table with
  | nil => rfl
  | cons o owners ih =>
    have hstep : (rebuild table (owned o) key (targets o)).map f = table.map f :=
      map_rebuild_of_records f (howned o) hkey hid (h o List.mem_cons_self)
        (hmake o List.mem_cons_self) (hr o List.mem_cons_self)
    rw [rebuildAll, List.foldl_cons]
    refine (ih (fun o' ho' => h o' (List.mem_cons_of_mem _ ho'))
      (fun o' ho' => hmake o' (List.mem_cons_of_mem _ ho')) fun o' ho' => ?_).trans hstep
    rw [hstep]
    exact hr o' (List.mem_cons_of_mem _ ho')

end RebuildAll

/-! ### Several rows put in their places -/

/-- Changed rows put in the places of the old ones, one after the other. -/
theorem foldl_replace [Row α] (f : α → α) (hf : ∀ row, Row.id (f row) = Row.id row) {rows : List α}
    (hnodup : (rows.map Row.id).Nodup) {table : List α}
    (h : ∀ row ∈ rows, ∀ row' ∈ table, Row.id row = Row.id row' → row = row') :
    (rows.map f).foldl replace table =
      table.map fun row => if rows.any (Row.id · == Row.id row) then f row else row := by
  induction rows generalizing table with
  | nil => exact (List.map_id table).symm
  | cons row rows ih =>
    obtain ⟨hfirst, hrest⟩ := List.nodup_cons.1 hnodup
    obtain ⟨hrow, hrows⟩ := List.forall_mem_cons.1 h
    have hstep : replace table (f row) =
        table.map fun r => if Row.id row == Row.id r then f r else r := by
      refine List.map_congr_left fun r hr => ?_
      rw [hf]
      by_cases hid : Row.id r = Row.id row
      · rw [if_pos (beq_iff_eq.2 hid), if_pos (beq_iff_eq.2 hid.symm), hrow r hr hid.symm]
      · rw [if_neg (by simpa using hid), if_neg (by simpa using Ne.symm hid)]
    -- The rows that come later have other ids, so they do not meet the one just put in place.
    rw [List.map_cons, List.foldl_cons, hstep, ih hrest]
    · rw [List.map_map]
      refine List.map_congr_left fun r _ => ?_
      by_cases hid : Row.id row = Row.id r
      · have hnot : rows.any (Row.id · == Row.id r) = false := by
          rw [List.any_eq_false]
          intro r' hr' hsame
          exact hfirst (List.mem_map.2 ⟨r', hr', (beq_iff_eq.1 hsame).trans hid.symm⟩)
        have hsame : (Row.id row == Row.id r) = true := beq_iff_eq.2 hid
        rw [Function.comp_apply, if_pos hsame, hf, hnot, List.any_cons, hsame]
        rfl
      · simp [hid]
    · intro r hr r' hr' hid
      obtain ⟨r'', hr'', rfl⟩ := List.mem_map.1 hr'
      by_cases hsame : Row.id row = Row.id r''
      · rw [if_pos (beq_iff_eq.2 hsame), hf, ← hsame] at hid
        exact absurd (List.mem_map.2 ⟨r, hr, hid⟩) hfirst
      · rw [if_neg (by simpa using hsame)] at hid ⊢
        exact hrows r hr r'' hr'' hid

end PredictionLeague.Table
