import Mathlib.Data.List.Perm.Basic
import Mathlib.Data.List.Flatten
import Mathlib.Data.List.Forall2
import Mathlib.Data.List.Sort

/-!
# Keys of lists

A list of rows is selected from, mapped and grouped by a key. The lemmas here say what this
does to the keys: what a selection keeps, when two selections have the same keys, and that the
groups of a list make up the list.

## Main results

* `Rows.filterMap_sublist_map` — the values a selection maps to are some of all the values;
* `Rows.filter_map_key_eq_iff` — selections of two tables with the same distinct keys;
* `Rows.foldl_append` — a loop that appends to a list;
* `Rows.perm_flatMap_filter` — the groups of a list make up the list;
* `Rows.pairwise_insertionSort_of_pairwise` — sorting keeps the order of equal rows.
-/

universe u

namespace Rows

variable {ρ : Type u}

/-- A selection that maps each row to a value of it or to none is part of the values. -/
theorem filterMap_sublist_map {ρ' : Type*} {f : ρ → Option ρ'} {g : ρ → ρ'}
    (h : ∀ row value, f row = some value → value = g row) (rows : List ρ) :
    (rows.filterMap f).Sublist (rows.map g) := by
  induction rows with
  | nil => exact List.Sublist.refl _
  | cons row rows ih =>
      cases hrow : f row with
      | none =>
          rw [List.filterMap_cons_none hrow]
          exact ih.cons _
      | some value =>
          rw [List.filterMap_cons_some hrow, List.map_cons, h row value hrow]
          exact ih.cons_cons _

/-- A loop that appends to a list appends what its steps do. -/
theorem foldl_append {σ α β : Type*} {get : σ → List β} {step : σ → α → σ} {out : α → List β}
    (h : ∀ s a, get (step s a) = get s ++ out a) (as : List α) (s : σ) :
    get (as.foldl step s) = get s ++ as.flatMap out := by
  induction as generalizing s with
  | nil => simp
  | cons a as ih => rw [List.foldl_cons, ih, h, List.append_assoc, List.flatMap_cons]

/-- A list of what some elements map to, and what each of these gives. -/
theorem flatMap_filterMap_eq {ρ' β : Type*} {f : ρ → Option ρ'} {g : ρ' → List β}
    {k : ρ → List β} {rows : List ρ}
    (h : ∀ row ∈ rows, (match f row with | some value => g value | none => []) = k row) :
    (rows.filterMap f).flatMap g = rows.flatMap k := by
  induction rows with
  | nil => rfl
  | cons row rows ih =>
      have hrest := ih fun other hother => h other (List.mem_cons_of_mem _ hother)
      have hrow := h row List.mem_cons_self
      cases hf : f row with
      | none =>
          simp only [hf] at hrow
          rw [List.filterMap_cons_none hf, List.flatMap_cons, hrest, ← hrow, List.nil_append]
      | some value =>
          simp only [hf] at hrow
          rw [List.filterMap_cons_some hf, List.flatMap_cons, List.flatMap_cons, hrest, hrow]

/-- One more row in the group that has its key. -/
theorem perm_flatMap_cons {κ : Type*} [DecidableEq κ] {groups : List κ} (hnodup : groups.Nodup)
    {k : κ} (hk : k ∈ groups) (row : ρ) (f : κ → List ρ) :
    (groups.flatMap fun group => if k = group then row :: f group else f group).Perm
      (row :: groups.flatMap f) := by
  induction groups with
  | nil => exact absurd hk (by simp)
  | cons group groups ih =>
      obtain ⟨hnotin, hrest⟩ := List.nodup_cons.mp hnodup
      rw [List.flatMap_cons, List.flatMap_cons]
      rcases List.mem_cons.mp hk with rfl | hmem
      · have hsame : (groups.flatMap fun group => if k = group then row :: f group else f group) =
            groups.flatMap f := by
          refine List.flatMap_congr fun group hgroup => ?_
          rw [if_neg]
          rintro rfl
          exact hnotin hgroup
        rw [if_pos rfl, hsame]
        exact List.Perm.refl _
      · have hne : k ≠ group := fun heq => hnotin (heq ▸ hmem)
        rw [if_neg hne]
        exact ((ih hrest hmem).append_left _).trans List.perm_middle

/-- The groups of a list make up the list. -/
theorem perm_flatMap_filter {κ : Type*} [DecidableEq κ] {groups : List κ}
    (hnodup : groups.Nodup) {key : ρ → κ} {rows : List ρ} (hkeys : ∀ row ∈ rows, key row ∈ groups) :
    (groups.flatMap fun group => rows.filter (key · == group)).Perm rows := by
  induction rows with
  | nil => simp
  | cons row rows ih =>
      have hcons : (groups.flatMap fun group => (row :: rows).filter (key · == group)) =
          groups.flatMap fun group =>
            if key row = group then row :: rows.filter (key · == group)
            else rows.filter (key · == group) := by
        refine List.flatMap_congr fun group _ => ?_
        by_cases hgroup : key row = group
        · simp [hgroup]
        · simp [hgroup]
      rw [hcons]
      refine (perm_flatMap_cons hnodup (hkeys row List.mem_cons_self) row _).trans ?_
      exact (ih fun other hother => hkeys other (List.mem_cons_of_mem _ hother)).cons row

/-- If every element has an image, the list has a list of images. -/
theorem exists_forall₂ {ρ' : Type*} {R : ρ → ρ' → Prop} {rows : List ρ}
    (h : ∀ row ∈ rows, ∃ value, R row value) : ∃ values, List.Forall₂ R rows values := by
  induction rows with
  | nil => exact ⟨[], .nil⟩
  | cons row rows ih =>
      obtain ⟨value, hvalue⟩ := h row List.mem_cons_self
      obtain ⟨values, hvalues⟩ := ih fun other hother => h other (List.mem_cons_of_mem _ hother)
      exact ⟨value :: values, .cons hvalue hvalues⟩

/-- Two tables with the same distinct keys: a selection of both has the same keys exactly when
it selects the same rows. -/
theorem filter_map_key_eq_iff {κ : Type*} {rows rows' : List ρ} {p : ρ → Bool} {key : ρ → κ}
    (hkeys : rows.map key = rows'.map key) (hnodup : (rows.map key).Nodup) :
    (rows.filter p).map key = (rows'.filter p).map key ↔ rows.map p = rows'.map p := by
  induction rows generalizing rows' with
  | nil =>
      obtain rfl : rows' = [] := List.map_eq_nil_iff.mp hkeys.symm
      simp
  | cons row rows ih =>
      cases rows' with
      | nil => exact absurd hkeys (by simp)
      | cons row' rows' =>
          obtain ⟨hkey, hrest⟩ := List.cons.inj hkeys
          obtain ⟨hnew, hnodup'⟩ := List.nodup_cons.mp hnodup
          have hih := ih hrest hnodup'
          have hnotin : key row ∉ (rows.filter p).map key := fun hmem => by
            obtain ⟨other, hother, heq⟩ := List.mem_map.mp hmem
            exact hnew (heq ▸ List.mem_map_of_mem (List.mem_of_mem_filter hother))
          have hnotin' : key row' ∉ (rows'.filter p).map key := fun hmem => by
            obtain ⟨other, hother, heq⟩ := List.mem_map.mp hmem
            refine hnew ?_
            rw [hrest, show key row = key row' from hkey, ← heq]
            exact List.mem_map_of_mem (List.mem_of_mem_filter hother)
          cases hp : p row with
          | true =>
              cases hp' : p row' with
              | true => simp [hp, hp', show key row = key row' from hkey, hih]
              | false =>
                  simp only [hp, hp', List.filter_cons, if_true, List.map_cons, reduceCtorEq,
                    List.cons.injEq, false_and, iff_false]
                  intro heq
                  refine hnotin' ?_
                  rw [← show key row = key row' from hkey, show (rows'.filter p).map key = _ from
                    heq.symm]
                  exact List.mem_cons_self
          | false =>
              cases hp' : p row' with
              | true =>
                  simp only [hp, hp', List.filter_cons, if_true, List.map_cons, reduceCtorEq,
                    List.cons.injEq, false_and, iff_false]
                  intro heq
                  refine hnotin ?_
                  rw [show key row = key row' from hkey, show (rows.filter p).map key = _ from heq]
                  exact List.mem_cons_self
              | false => simp [hp, hp', hih]

/-- Of the pairs of two lists, the first ones are some of the first list. -/
theorem zipWith_sublist_map {ρ' κ : Type*} {f : ρ → ρ' → κ} {g : ρ → κ}
    (h : ∀ row other, f row other = g row) (rows : List ρ) (others : List ρ') :
    (List.zipWith f rows others).Sublist (rows.map g) := by
  induction rows generalizing others with
  | nil => simp
  | cons row rows ih =>
      cases others with
      | nil => simp
      | cons other others =>
          rw [List.zipWith_cons_cons, List.map_cons, h]
          exact (ih others).cons_cons _

/-- An insertion in front of later elements keeps a list sorted, and equal elements in order. -/
theorem pairwise_orderedInsert {r s : ρ → ρ → Prop} [DecidableRel r]
    (htotal : ∀ a b, r a b ∨ r b a) (htrans : ∀ a b c, r a b → r b c → r a c) {row : ρ}
    {rows : List ρ} (h : rows.Pairwise fun a b => r a b ∧ (r b a → s a b))
    (hlater : ∀ other ∈ rows, s row other) :
    (rows.orderedInsert r row).Pairwise fun a b => r a b ∧ (r b a → s a b) := by
  induction rows with
  | nil => exact List.pairwise_singleton _ _
  | cons first rest ih =>
      obtain ⟨hfirst, hrest⟩ := List.pairwise_cons.mp h
      rw [List.orderedInsert_cons]
      by_cases hle : r row first
      · rw [if_pos hle]
        refine List.pairwise_cons.mpr ⟨fun other hother => ⟨?_, fun _ => hlater other hother⟩, h⟩
        rcases List.mem_cons.mp hother with rfl | hmem
        · exact hle
        · exact htrans _ _ _ hle (hfirst other hmem).1
      · rw [if_neg hle]
        refine List.pairwise_cons.mpr ⟨fun other hother => ?_,
          ih hrest fun other hother => hlater other (List.mem_cons_of_mem _ hother)⟩
        rcases (List.mem_orderedInsert r).mp hother with rfl | hmem
        · exact ⟨(htotal _ _).resolve_left hle, fun h => absurd h hle⟩
        · exact hfirst other hmem

/-- An insertion sort keeps the order of equal elements. -/
theorem pairwise_insertionSort_of_pairwise {r s : ρ → ρ → Prop} [DecidableRel r]
    (htotal : ∀ a b, r a b ∨ r b a) (htrans : ∀ a b c, r a b → r b c → r a c)
    {rows : List ρ} (h : rows.Pairwise s) :
    (rows.insertionSort r).Pairwise fun a b => r a b ∧ (r b a → s a b) := by
  induction rows with
  | nil => exact List.Pairwise.nil
  | cons row rest ih =>
      obtain ⟨hrow, hrest⟩ := List.pairwise_cons.mp h
      rw [List.insertionSort_cons]
      refine pairwise_orderedInsert htotal htrans (ih hrest) fun other hother => hrow other ?_
      exact (List.mem_insertionSort r).mp hother

end Rows
