import Mathlib.Data.List.Basic

/-!
# The first of each key

A loop over a list keeps an item unless it has seen its key before. What is kept of a key is the
first item that has it.

## Main results

* `Firsts.mem_keep` — an item is kept if it is the first of its key;
* `Firsts.nodup_keys_keep` — no key is kept twice;
* `Firsts.find?_label_congr` — when the first of a key is labelled alike in two lists.
-/

universe u v

namespace Firsts

variable {α : Type u} {κ : Type v} [DecidableEq κ] (key : α → κ)

/-- The items whose keys were not seen before. -/
def keep : List κ → List α → List α
  | _, [] => []
  | seen, item :: rest =>
      if key item ∈ seen then keep seen rest else item :: keep (key item :: seen) rest

variable {key}

/-- An item is kept if it is the first of its key, and its key was not seen. -/
theorem mem_keep {items : List α} {seen : List κ} {item : α} :
    item ∈ keep key seen items ↔
      key item ∉ seen ∧ items.find? (fun other => key other = key item) = some item := by
  induction items generalizing seen with
  | nil => simp [keep]
  | cons first rest ih =>
      rw [keep, List.find?_cons]
      by_cases hkey : key first = key item
      · by_cases hseen : key first ∈ seen
        · rw [if_pos hseen, ih]
          simp [hkey ▸ hseen]
        · rw [if_neg hseen, List.mem_cons, ih]
          simp only [hkey, decide_true, List.mem_cons, true_or, not_true, false_and, or_false,
            Option.some.injEq]
          constructor
          · intro h
            exact ⟨hkey ▸ hseen, h.symm⟩
          · intro h
            exact h.2.symm
      · have hne : item ≠ first := fun h => hkey (h ▸ rfl)
        simp only [hkey, decide_false]
        by_cases hseen : key first ∈ seen
        · rw [if_pos hseen, ih]
        · rw [if_neg hseen, List.mem_cons, ih, List.mem_cons]
          simp [hne, Ne.symm hkey]

/-- No key is kept twice, and no key that was seen. -/
theorem nodup_keys_keep (seen : List κ) (items : List α) :
    ((keep key seen items).map key).Nodup := by
  induction items generalizing seen with
  | nil => exact List.nodup_nil
  | cons first rest ih =>
      rw [keep]
      split
      · exact ih seen
      · rw [List.map_cons, List.nodup_cons]
        refine ⟨?_, ih _⟩
        intro hmem
        obtain ⟨item, hitem, hkey⟩ := List.mem_map.mp hmem
        exact (mem_keep.mp hitem).1 (hkey ▸ List.mem_cons_self)

/-- The first items of a key in two lists are labelled alike, if each list has the keys of the
other and the labels of the first list are those of the second, with one label for each key. -/
theorem find?_label_congr {ℓ : Type*} {label : α → ℓ} {items items' : List α}
    (hitems : ∀ item ∈ items, ∃ item' ∈ items', key item' = key item)
    (hitems' : ∀ item' ∈ items', ∃ item ∈ items, key item = key item' ∧ label item = label item')
    (huniform : ∀ item ∈ items, ∀ other ∈ items, key item = key other → label item = label other)
    (k : κ) :
    (items.find? fun item => key item = k).map label =
      (items'.find? fun item => key item = k).map label := by
  cases hfirst : items.find? fun item => key item = k with
  | none =>
      have hnone := List.find?_eq_none.mp hfirst
      have hnone' : items'.find? (fun item => key item = k) = none := by
        refine List.find?_eq_none.mpr fun item' hitem' => ?_
        obtain ⟨item, hitem, hkey, -⟩ := hitems' item' hitem'
        rw [← hkey]
        exact hnone item hitem
      rw [hnone']
  | some first =>
      have hkey : key first = k := by simpa using List.find?_some hfirst
      have hmem := List.mem_of_find?_eq_some hfirst
      cases hfirst' : items'.find? fun item => key item = k with
      | none =>
          obtain ⟨item', hitem', hkey'⟩ := hitems first hmem
          have hnot := List.find?_eq_none.mp hfirst' item' hitem'
          simp [hkey', hkey] at hnot
      | some first' =>
          have hkey' : key first' = k := by simpa using List.find?_some hfirst'
          obtain ⟨item, hitem, hsame, hlabel⟩ :=
            hitems' first' (List.mem_of_find?_eq_some hfirst')
          rw [Option.map_some, Option.map_some, ← hlabel]
          rw [huniform first hmem item hitem (hkey.trans (hkey'.symm.trans hsame.symm))]

/-- The first value of a list is that of the first item which has one. -/
theorem findSome?_eq_bind {β : Type*} {f : α → Option β} {p : α → Bool}
    (h : ∀ item, (f item).isSome = p item) (items : List α) :
    items.findSome? f = (items.find? p).bind f := by
  induction items with
  | nil => rfl
  | cons first rest ih =>
      rw [List.findSome?_cons, List.find?_cons, ← h first]
      cases hfirst : f first with
      | none => exact ih
      | some value => exact hfirst.symm

end Firsts
