/-!
# Sorting by insertion

A stable sort by structural recursion: elements that compare equal keep their order.

* `sorted le xs` holds the elements of `xs` (`sorted_perm`), in order when `le` is total and
  transitive (`pairwise_sorted`), and elements that compare equal in the order that they had
  (`stable_sorted`);
* `sorted_eq_flatMap`: elements sorted by keys that ascend are listed key by key.
-/

namespace PredictionLeague

/-- Insert an element before the first one that it may precede. -/
def insertSorted {α : Type} (le : α → α → Bool) (x : α) : List α → List α
  | [] => [x]
  | y :: ys => if le x y then x :: y :: ys else y :: insertSorted le x ys

/-- The elements of a list in order. -/
def sorted {α : Type} (le : α → α → Bool) : List α → List α
  | [] => []
  | x :: xs => insertSorted le x (sorted le xs)

/-- Integers in ascending order. -/
def ascending (xs : List Int) : List Int := sorted (fun a b => decide (a ≤ b)) xs

variable {α : Type} {le : α → α → Bool}

theorem insertSorted_perm (x : α) (xs : List α) : (insertSorted le x xs).Perm (x :: xs) := by
  induction xs with
  | nil => exact .refl _
  | cons y ys ih =>
    unfold insertSorted
    split
    · exact .refl _
    · exact (ih.cons y).trans (.swap x y ys)

/-- Sorting only reorders. -/
theorem sorted_perm (xs : List α) : (sorted le xs).Perm xs := by
  induction xs with
  | nil => exact .refl _
  | cons x xs ih => exact (insertSorted_perm x _).trans (ih.cons x)

@[simp] theorem mem_sorted {x : α} {xs : List α} : x ∈ sorted le xs ↔ x ∈ xs :=
  (sorted_perm xs).mem_iff

@[simp] theorem length_sorted (xs : List α) : (sorted le xs).length = xs.length :=
  (sorted_perm xs).length_eq

/-- Sorting by values commutes with taking them. -/
theorem map_sorted {β : Type} (le : β → β → Bool) (f : α → β) (xs : List α) :
    (sorted (fun a b => le (f a) (f b)) xs).map f = sorted le (xs.map f) := by
  have hinsert (x : α) (ys : List α) :
      (insertSorted (fun a b => le (f a) (f b)) x ys).map f =
        insertSorted le (f x) (ys.map f) := by
    induction ys with
    | nil => rfl
    | cons y ys ih =>
      rw [insertSorted, List.map_cons, insertSorted]
      split
      · rfl
      · rw [List.map_cons, ih]
  induction xs with
  | nil => rfl
  | cons x xs ih => rw [sorted, hinsert, ih, List.map_cons, sorted]

theorem pairwise_insertSorted (total : ∀ a b, le a b ∨ le b a)
    (trans : ∀ a b c, le a b → le b c → le a c) {x : α} {xs : List α}
    (h : xs.Pairwise fun a b => le a b) : (insertSorted le x xs).Pairwise fun a b => le a b := by
  induction xs with
  | nil => simp [insertSorted]
  | cons y ys ih =>
    obtain ⟨hy, hys⟩ := List.pairwise_cons.1 h
    unfold insertSorted
    split
    · rename_i hxy
      refine List.pairwise_cons.2 ⟨fun z hz => ?_, h⟩
      rcases List.mem_cons.1 hz with rfl | hz
      · exact hxy
      · exact trans x y z hxy (hy z hz)
    · rename_i hxy
      refine List.pairwise_cons.2 ⟨fun z hz => ?_, ih hys⟩
      rcases List.mem_cons.1 ((insertSorted_perm x ys).mem_iff.1 hz) with rfl | hz
      · exact (total z y).resolve_left hxy
      · exact hy z hz

/-- A sorted list is in order. -/
theorem pairwise_sorted (total : ∀ a b, le a b ∨ le b a)
    (trans : ∀ a b c, le a b → le b c → le a c) (xs : List α) :
    (sorted le xs).Pairwise fun a b => le a b := by
  induction xs with
  | nil => exact .nil
  | cons x xs ih => exact pairwise_insertSorted total trans ih

theorem stable_insertSorted (total : ∀ a b, le a b ∨ le b a)
    (trans : ∀ a b c, le a b → le b c → le a c) {before : α → α → Prop} {x : α} {xs : List α}
    (hx : ∀ y ∈ xs, before x y) (h : xs.Pairwise fun a b => le a b ∧ (le b a → before a b)) :
    (insertSorted le x xs).Pairwise fun a b => le a b ∧ (le b a → before a b) := by
  induction xs with
  | nil => simp [insertSorted]
  | cons y ys ih =>
    obtain ⟨hy, hys⟩ := List.pairwise_cons.1 h
    obtain ⟨hxy, hxys⟩ := List.forall_mem_cons.1 hx
    unfold insertSorted
    split
    · rename_i hle
      refine List.pairwise_cons.2 ⟨fun z hz => ⟨?_, fun _ => hx z hz⟩, h⟩
      rcases List.mem_cons.1 hz with rfl | hz
      · exact hle
      · exact trans x y z hle (hy z hz).1
    · rename_i hle
      refine List.pairwise_cons.2 ⟨fun z hz => ?_, ih hxys hys⟩
      rcases List.mem_cons.1 ((insertSorted_perm x ys).mem_iff.1 hz) with rfl | hz
      · exact ⟨(total z y).resolve_left hle, fun hzy => absurd hzy hle⟩
      · exact hy z hz

/-- Sorting keeps the order of elements that compare equal. -/
theorem stable_sorted (total : ∀ a b, le a b ∨ le b a)
    (trans : ∀ a b c, le a b → le b c → le a c) {before : α → α → Prop} {xs : List α}
    (h : xs.Pairwise before) :
    (sorted le xs).Pairwise fun a b => le a b ∧ (le b a → before a b) := by
  induction xs with
  | nil => exact .nil
  | cons x xs ih =>
    obtain ⟨hx, hxs⟩ := List.pairwise_cons.1 h
    exact stable_insertSorted total trans (fun y hy => hx y (mem_sorted.1 hy)) (ih hxs)

/-! ### Key by key -/

theorem insertSorted_of_before {x : α} {ys : List α} (h : ∀ y ∈ ys, le x y = true) :
    insertSorted le x ys = x :: ys := by
  cases ys with
  | nil => rfl
  | cons y ys => rw [insertSorted, if_pos (h y List.mem_cons_self)]

theorem insertSorted_append {x : α} {ys : List α} (h : ∀ y ∈ ys, le x y = false) (zs : List α) :
    insertSorted le x (ys ++ zs) = ys ++ insertSorted le x zs := by
  induction ys with
  | nil => rfl
  | cons y ys ih =>
    obtain ⟨hy, hys⟩ := List.forall_mem_cons.1 h
    rw [List.cons_append, insertSorted, hy, if_neg Bool.false_ne_true, ih hys, List.cons_append]

section Keys

variable {κ : Type} [BEq κ] [LawfulBEq κ] {le : κ → κ → Bool} (refl : ∀ k, le k k = true)
  (key : α → κ) {keys : List κ} (hkeys : keys.Pairwise fun a b => le a b = true ∧ le b a = false)

include refl hkeys

/-- An element that is inserted into a list key by key joins those with its key. -/
theorem insertSorted_flatMap {x : α} (hx : key x ∈ keys) (xs : List α) :
    insertSorted (fun a b => le (key a) (key b)) x
        (keys.flatMap fun k => xs.filter (key · == k)) =
      keys.flatMap fun k => (x :: xs).filter (key · == k) := by
  obtain ⟨earlier, later, rfl⟩ := List.append_of_mem hx
  obtain ⟨-, hlater, hearlier⟩ := List.pairwise_append.1 hkeys
  have hbefore : ∀ k ∈ earlier, le (key x) k = false := fun k hk =>
    (hearlier k hk (key x) List.mem_cons_self).2
  have hafter : ∀ k ∈ later, le (key x) k = true ∧ le k (key x) = false :=
    (List.pairwise_cons.1 hlater).1
  have hown : (x :: xs).filter (key · == key x) = x :: xs.filter (key · == key x) :=
    List.filter_cons_of_pos (beq_self_eq_true (key x))
  have hothers {ks : List κ} (hks : ∀ k ∈ ks, le (key x) k = false ∨ le k (key x) = false) :
      (ks.flatMap fun k => (x :: xs).filter (key · == k)) =
        ks.flatMap fun k => xs.filter (key · == k) := by
    rw [List.flatMap_def, List.flatMap_def]
    refine congrArg _ (List.map_congr_left fun k hk => List.filter_cons_of_neg fun heq => ?_)
    have hk := hks k hk
    rw [eq_of_beq heq, refl] at hk
    exact hk.elim Bool.noConfusion Bool.noConfusion
  rw [List.flatMap_append, List.flatMap_append, List.flatMap_cons, List.flatMap_cons,
    insertSorted_append, insertSorted_of_before, hown, List.cons_append,
    hothers fun k hk => .inl (hbefore k hk), hothers fun k hk => .inr (hafter k hk).2]
  · intro y hy
    rcases List.mem_append.1 hy with hy | hy
    · rw [eq_of_beq (List.mem_filter.1 hy).2]
      exact refl (key x)
    · obtain ⟨k, hk, hy⟩ := List.mem_flatMap.1 hy
      rw [eq_of_beq (List.mem_filter.1 hy).2]
      exact (hafter k hk).1
  · intro y hy
    obtain ⟨k, hk, hy⟩ := List.mem_flatMap.1 hy
    rw [eq_of_beq (List.mem_filter.1 hy).2]
    exact hbefore k hk

/-- Elements sorted by their keys are listed key by key, those with the same key in the order that
they had. -/
theorem sorted_eq_flatMap {xs : List α} (hxs : ∀ x ∈ xs, key x ∈ keys) :
    sorted (fun a b => le (key a) (key b)) xs = keys.flatMap fun k => xs.filter (key · == k) := by
  induction xs with
  | nil => simp [sorted]
  | cons x xs ih =>
    obtain ⟨hx, hrest⟩ := List.forall_mem_cons.1 hxs
    rw [sorted, ih hrest, insertSorted_flatMap refl key hkeys hx]

end Keys

end PredictionLeague
