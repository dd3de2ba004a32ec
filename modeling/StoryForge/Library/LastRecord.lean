import StoryForge.Library.Dict

/-!
# Scans that remember records

A scan walks over items. Some items are records, and the scan remembers the last record of each
key; every other item is compared with the record that is remembered for its key, and the two may
be reported.

## Main results

* `LastRecord.lookup_foldl_visit` — what is remembered is the last record;
* `LastRecord.mem_scan` — what a scan reports;
* `LastRecord.lt_iff` — of items in order, the last record is below a bound if all records are.
-/

universe u v w

namespace LastRecord

variable {α : Type u} {β : Type v} {κ : Type w} [DecidableEq κ] (key : α → κ)
  (isRecord : α → Bool) (report : α → α → Option β)

/-- The last record of a key. -/
def lastRecord (items : List α) (k : κ) : Option α :=
  items.reverse.find? fun item => isRecord item && decide (key item = k)

/-- One turn of a scan: what is remembered, and what has been reported. -/
def visit (state : List (κ × α) × List β) (item : α) : List (κ × α) × List β :=
  if isRecord item then (Dict.set (key item) item state.1, state.2)
  else
    (state.1, state.2 ++ ((state.1.lookup (key item)).bind fun record => report record item).toList)

/-- What a scan reports. -/
def scan (items : List α) : List β := (items.foldl (visit key isRecord report) ([], [])).2

theorem lastRecord_concat (items : List α) (item : α) (k : κ) :
    lastRecord key isRecord (items ++ [item]) k =
      if isRecord item = true ∧ key item = k then some item
      else lastRecord key isRecord items k := by
  rw [lastRecord, List.reverse_append, List.reverse_singleton, List.singleton_append,
    List.find?_cons]
  by_cases h : isRecord item = true ∧ key item = k
  · rw [if_pos h, h.1, decide_eq_true h.2]
    rfl
  · rw [if_neg h]
    have hfalse : (isRecord item && decide (key item = k)) = false := by
      rw [Bool.eq_false_iff]
      intro htrue
      rw [Bool.and_eq_true, decide_eq_true_eq] at htrue
      exact h htrue
    rw [hfalse]
    rfl

/-- What is remembered for a key is its last record. -/
theorem lookup_foldl_visit (items : List α) (k : κ) :
    (items.foldl (visit key isRecord report) ([], [])).1.lookup k =
      lastRecord key isRecord items k := by
  induction items using List.reverseRecOn with
  | nil => rfl
  | append_singleton items item ih =>
      rw [List.foldl_concat, lastRecord_concat, visit]
      cases hrecord : isRecord item with
      | false => simp [ih]
      | true =>
          simp only [if_true, true_and, Dict.lookup_set, ih]
          by_cases hkey : k = key item
          · rw [if_pos hkey, if_pos hkey.symm]
          · rw [if_neg hkey, if_neg (Ne.symm hkey)]

variable {key isRecord report} {items : List α} {item record : α} {k : κ}

theorem scan_concat :
    scan key isRecord report (items ++ [item]) = scan key isRecord report items ++
      (if isRecord item then [] else ((lastRecord key isRecord items (key item)).bind fun record =>
        report record item).toList) := by
  rw [scan, List.foldl_concat, visit, lookup_foldl_visit]
  split
  · exact (List.append_nil _).symm
  · rfl

/-- A scan reports an item that is no record with the last record before it. -/
theorem mem_scan {found : β} :
    found ∈ scan key isRecord report items ↔
      ∃ before item after, items = before ++ item :: after ∧ isRecord item = false ∧
        ∃ record ∈ lastRecord key isRecord before (key item), report record item = some found := by
  induction items using List.reverseRecOn with
  | nil => simp [scan]
  | append_singleton items last ih =>
      rw [scan_concat, List.mem_append, ih]
      constructor
      · rintro (⟨before, item, after, rfl, hreport⟩ | hlast)
        · exact ⟨before, item, after ++ [last], by simp, hreport⟩
        · split at hlast
          · contradiction
          · next hrecord =>
              rw [Option.mem_toList, Option.bind_eq_some_iff] at hlast
              exact ⟨items, last, [], rfl, by simpa using hrecord, hlast⟩
      · rintro ⟨before, item, after, hitems, hrecord, hreport⟩
        rcases List.eq_nil_or_concat' after with rfl | ⟨after, final, rfl⟩
        · obtain ⟨rfl, hlast⟩ := List.append_inj' hitems rfl
          obtain rfl := List.singleton_inj.mp hlast
          rw [hrecord, if_neg Bool.false_ne_true, Option.mem_toList, Option.bind_eq_some_iff]
          exact .inr hreport
        · left
          rw [← List.cons_append, ← List.append_assoc] at hitems
          obtain ⟨rfl, -⟩ := List.append_inj' hitems rfl
          exact ⟨before, item, after, rfl, hrecord, hreport⟩

theorem mem_of_lastRecord (h : lastRecord key isRecord items k = some record) :
    record ∈ items ∧ isRecord record = true ∧ key record = k := by
  have hfound := List.find?_some h
  rw [Bool.and_eq_true, decide_eq_true_eq] at hfound
  exact ⟨List.mem_reverse.mp (List.mem_of_find?_eq_some h), hfound⟩

/-- A key with a record has a last one. -/
theorem exists_lastRecord (hmem : record ∈ items) (hrecord : isRecord record = true) :
    ∃ last, lastRecord key isRecord items (key record) = some last := by
  rw [← Option.isSome_iff_exists, lastRecord, List.find?_isSome]
  exact ⟨record, List.mem_reverse.mpr hmem, by simp [hrecord]⟩

/-- The last record of items in order is the greatest. -/
theorem le_lastRecord {measure : α → ℕ}
    (hsorted : items.Pairwise fun a b => measure a ≤ measure b)
    (hlast : lastRecord key isRecord items k = some record) {other : α} (hmem : other ∈ items)
    (hother : isRecord other = true) (hkey : key other = k) : measure other ≤ measure record := by
  induction items using List.reverseRecOn with
  | nil => contradiction
  | append_singleton items item ih =>
      obtain ⟨hitems, -, hbelow⟩ := List.pairwise_append.mp hsorted
      rw [lastRecord_concat] at hlast
      split at hlast
      · obtain rfl := Option.some.inj hlast
        rcases List.mem_append.mp hmem with hold | hnew
        · exact hbelow other hold item (List.mem_singleton_self _)
        · exact Nat.le_of_eq (congrArg measure (List.mem_singleton.mp hnew))
      · next hnot =>
          rcases List.mem_append.mp hmem with hold | hnew
          · exact ih hitems hlast hold
          · obtain rfl := List.mem_singleton.mp hnew
            exact absurd ⟨hother, hkey⟩ hnot

/-- **Of items in order**, a key has a last record below a bound exactly if it has records and all
of them are below the bound. -/
theorem lt_iff {measure : α → ℕ} {bound : ℕ}
    (hsorted : items.Pairwise fun a b => measure a ≤ measure b) :
    (∃ record ∈ lastRecord key isRecord items k, measure record < bound) ↔
      (∃ record ∈ items, isRecord record = true ∧ key record = k) ∧
        ∀ record ∈ items, isRecord record = true → key record = k → measure record < bound := by
  constructor
  · rintro ⟨last, hlast, hbound⟩
    refine ⟨⟨last, mem_of_lastRecord hlast⟩, fun record hmem hrecord hkey => ?_⟩
    exact Nat.lt_of_le_of_lt (le_lastRecord hsorted hlast hmem hrecord hkey) hbound
  · rintro ⟨⟨record, hmem, hrecord, rfl⟩, hall⟩
    obtain ⟨last, hlast⟩ := @exists_lastRecord _ _ _ key _ _ _ hmem hrecord
    obtain ⟨hlastMem, hlastRecord, hlastKey⟩ := mem_of_lastRecord hlast
    exact ⟨last, hlast, hall last hlastMem hlastRecord hlastKey⟩

end LastRecord
