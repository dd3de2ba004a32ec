import Mathlib.Data.List.Sort

/-!
# Batches

A list is cut into batches that are worked on one after the other, and what comes back for a batch
may come in another order, with a tag that tells the place.

## Main results

* `Batches.flatten_cut` — the batches one after the other are the list;
* `Batches.insertionSort_eq_of_perm` — items that are sorted by their tags are in their places.
-/

universe u v

namespace Batches

variable {α : Type u} {τ : Type v}

/-- The batches of a list: `items[start : start + size]` for each start. -/
def cut (size : ℕ) (items : List α) : List (List α) :=
  (List.range' 0 ((items.length + size - 1) / size) size).map fun start =>
    (items.drop start).take size

theorem flatten_slices (size : ℕ) (items : List α) (start count : ℕ) :
    ((List.range' start count size).map fun start => (items.drop start).take size).flatten =
      (items.drop start).take (count * size) := by
  induction count generalizing start with
  | zero => simp
  | succ count ih =>
      rw [List.range'_succ, List.map_cons, List.flatten_cons, ih, ← List.drop_drop, Nat.add_mul,
        Nat.one_mul, Nat.add_comm, List.take_add]

/-- **Nothing is lost and nothing is moved.** -/
theorem flatten_cut {size : ℕ} (hsize : 1 ≤ size) (items : List α) :
    (cut size items).flatten = items := by
  rw [cut, flatten_slices, List.drop_zero]
  refine List.take_of_length_le ?_
  have hdiv := Nat.div_add_mod (items.length + size - 1) size
  have hmod := Nat.mod_lt (items.length + size - 1) hsize
  rw [Nat.mul_comm] at hdiv
  omega

theorem length_cut (size : ℕ) (items : List α) :
    (cut size items).length = (items.length + size - 1) / size := by
  rw [cut, List.length_map, List.length_range']

/-- **Tagged items** are in their places when they are sorted by their tags. -/
theorem insertionSort_eq_of_perm [LinearOrder τ] {tag : α → τ} {items places : List α}
    (hperm : items.Perm places) (hplaces : places.Pairwise fun a b => tag a < tag b) :
    items.insertionSort (fun a b => tag a ≤ tag b) = places := by
  have hsorted : (items.insertionSort fun a b => tag a ≤ tag b).Pairwise
      fun a b => tag a ≤ tag b := by
    have htotal : Std.Total fun a b : α => tag a ≤ tag b := ⟨fun a b => le_total (tag a) (tag b)⟩
    have htrans : IsTrans α fun a b => tag a ≤ tag b := ⟨fun _ _ _ => le_trans⟩
    exact List.pairwise_insertionSort _ items
  have hnodup : (places.map tag).Nodup := by
    refine List.Pairwise.map tag ?_ hplaces
    exact fun _ _ => ne_of_lt
  refine ((List.perm_insertionSort _ items).trans hperm).eq_of_pairwise ?_ hsorted
    (hplaces.imp le_of_lt)
  intro a b ha hb hab hba
  exact List.inj_on_of_nodup_map hnodup
    (((List.perm_insertionSort _ items).trans hperm).mem_iff.mp ha) hb (le_antisymm hab hba)

end Batches
