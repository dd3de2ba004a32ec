import Mathlib.Data.List.Basic
import StoryForge.Library.Dict

/-!
# Repeats

A scan over items that have a key and an owner remembers one owner for each key, and finds the
items whose key it has met under another owner.

## Main results

* `Repeats.found_ownerState` — the scan compares every item with the first one of its key;
* `Repeats.found_eq_nil_iff` — it finds nothing exactly if no key has two owners.
-/

universe u v w

namespace Repeats

variable {β : Type u} {κ : Type v} {ω : Type w} [DecidableEq κ] (key : β → κ) (owner : β → ω)

/-- The owner of the first item with a key. -/
def firstOwner (items : List β) (k : κ) : Option ω :=
  (items.find? fun item => decide (key item = k)).map owner

theorem firstOwner_concat (items : List β) (item : β) (k : κ) :
    firstOwner key owner (items ++ [item]) k =
      (firstOwner key owner items k).or (if k = key item then some (owner item) else none) := by
  unfold firstOwner
  rw [List.find?_append, Option.map_or]
  by_cases hkey : k = key item
  · rw [if_pos hkey, List.find?_singleton, if_pos (decide_eq_true hkey.symm)]
    rfl
  · rw [if_neg hkey, List.find?_singleton, if_neg (by simpa using Ne.symm hkey)]
    rfl

theorem exists_firstOwner {items : List β} {item : β} (h : item ∈ items) :
    ∃ first ∈ items, key first = key item ∧
      firstOwner key owner items (key item) = some (owner first) := by
  cases hfind : items.find? fun other => decide (key other = key item) with
  | none =>
      rw [List.find?_eq_none] at hfind
      exact absurd (decide_eq_true rfl) (hfind item h)
  | some first =>
      have hkey := List.find?_some hfind
      refine ⟨first, List.mem_of_find?_eq_some hfind, of_decide_eq_true hkey, ?_⟩
      rw [firstOwner, hfind]
      rfl

/-- What a scan for keys of other owners remembers: the owner of each key, and the items whose
key had another owner, with it. -/
structure OwnerState (β : Type u) (κ : Type v) (ω : Type w) where
  owners : List (κ × ω)
  found : List (ω × β)

variable [DecidableEq ω]

/-- One turn of the scan: an item is found if its key has another owner, else its owner becomes
the owner of the key. -/
def visitOwner (state : OwnerState β κ ω) (item : β) : OwnerState β κ ω :=
  match state.owners.lookup (key item) with
  | some first =>
    if first ≠ owner item then { state with found := state.found ++ [(first, item)] }
    else { state with owners := Dict.set (key item) (owner item) state.owners }
  | none => { state with owners := Dict.set (key item) (owner item) state.owners }

/-- The scan after some items. -/
def ownerState (items : List β) : OwnerState β κ ω :=
  items.foldl (visitOwner key owner) ⟨[], []⟩

/-- What is found at an item if its key has an owner. -/
def foundAt (first : Option ω) (item : β) : Option (ω × β) :=
  first.bind fun first => if first ≠ owner item then some (first, item) else none

theorem ownerState_concat (items : List β) (item : β) :
    ownerState key owner (items ++ [item]) =
      visitOwner key owner (ownerState key owner items) item :=
  List.foldl_concat ..

/-- A turn keeps the owner that a key has. -/
theorem lookup_visitOwner (state : OwnerState β κ ω) (item : β) (k : κ) :
    (visitOwner key owner state item).owners.lookup k =
      (state.owners.lookup k).or (if k = key item then some (owner item) else none) := by
  unfold visitOwner
  split
  · next first hfirst =>
      split
      · next hother =>
          by_cases hkey : k = key item
          · rw [hkey, hfirst]
            rfl
          · rw [if_neg hkey, Option.or_none]
      · next hsame =>
          rw [Dict.lookup_set]
          by_cases hkey : k = key item
          · rw [if_pos hkey, hkey, hfirst, not_not.mp hsame]
            rfl
          · rw [if_neg hkey, if_neg hkey, Option.or_none]
  · next hnone =>
      rw [Dict.lookup_set]
      by_cases hkey : k = key item
      · rw [if_pos hkey, if_pos hkey, hkey, hnone]
        rfl
      · rw [if_neg hkey, if_neg hkey, Option.or_none]

/-- What a turn finds. -/
theorem found_visitOwner (state : OwnerState β κ ω) (item : β) :
    (visitOwner key owner state item).found =
      state.found ++ (foundAt owner (state.owners.lookup (key item)) item).toList := by
  unfold visitOwner foundAt
  split
  · next first hfirst =>
      rw [hfirst, Option.bind_some]
      split
      · rfl
      · exact (List.append_nil _).symm
  · next hnone =>
      rw [hnone]
      exact (List.append_nil _).symm

/-- The owner of a key is the one of its first item. -/
theorem lookup_owners (items : List β) (k : κ) :
    (ownerState key owner items).owners.lookup k = firstOwner key owner items k := by
  induction items using List.reverseRecOn with
  | nil => rfl
  | append_singleton items item ih =>
      rw [ownerState_concat, lookup_visitOwner, firstOwner_concat, ih]

/-- **The scan compares every item** with the first one of its key. -/
theorem found_ownerState (items : List β) :
    (ownerState key owner items).found =
      items.filterMap fun item => foundAt owner (firstOwner key owner items (key item)) item := by
  induction items using List.reverseRecOn with
  | nil => rfl
  | append_singleton items item ih =>
      have hold : ∀ old ∈ items,
          foundAt owner (firstOwner key owner (items ++ [item]) (key old)) old =
            foundAt owner (firstOwner key owner items (key old)) old := by
        intro old hold
        obtain ⟨first, -, -, hfirst⟩ := exists_firstOwner key owner hold
        rw [firstOwner_concat, hfirst]
        rfl
      have hnew : foundAt owner (firstOwner key owner (items ++ [item]) (key item)) item =
          foundAt owner (firstOwner key owner items (key item)) item := by
        rw [firstOwner_concat, if_pos rfl]
        cases firstOwner key owner items (key item) with
        | some first => rfl
        | none => exact if_neg (not_not.mpr rfl)
      rw [ownerState_concat, found_visitOwner, ih, lookup_owners, List.filterMap_append,
        List.filterMap_congr hold, List.filterMap_cons, hnew]
      cases foundAt owner (firstOwner key owner items (key item)) item <;> rfl

/-- Nothing is found if every key has one owner. -/
theorem found_eq_nil_iff {items : List β} :
    (ownerState key owner items).found = [] ↔
      ∀ a ∈ items, ∀ b ∈ items, key a = key b → owner a = owner b := by
  rw [found_ownerState, List.filterMap_eq_nil_iff]
  have hsame : ∀ item ∈ items,
      foundAt owner (firstOwner key owner items (key item)) item = none ↔
        firstOwner key owner items (key item) = some (owner item) := by
    intro item hitem
    obtain ⟨first, -, -, hfirst⟩ := exists_firstOwner key owner hitem
    rw [hfirst, foundAt, Option.bind_some, Option.some_inj]
    by_cases hne : owner first = owner item
    · rw [if_neg (not_not.mpr hne)]
      exact iff_of_true rfl hne
    · rw [if_pos hne]
      exact iff_of_false (Option.some_ne_none _) hne
  constructor
  · intro h a ha b hb hkey
    have hfirst := (hsame a ha).mp (h a ha)
    rw [hkey, (hsame b hb).mp (h b hb), Option.some_inj] at hfirst
    exact hfirst.symm
  · intro h item hitem
    obtain ⟨first, hmem, hkey, hfirst⟩ := exists_firstOwner key owner hitem
    rw [hsame item hitem, hfirst, h first hmem item hitem hkey]

end Repeats
