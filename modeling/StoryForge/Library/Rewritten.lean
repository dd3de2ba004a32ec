import Mathlib.Data.List.Basic

/-!
# Rows written in place

A table whose rows are written but neither added nor removed: each row stays at its id and is
related to what it was. Writes to one row and to all rows are of this kind when they respect the
relation, and a search for rows that the relation keeps finds the same row before and after.

## Main results

* `Rows.Rewritten.modify`, `Rows.Rewritten.set`, `Rows.Rewritten.mapIdx` — the writes;
* `Rows.Rewritten.exists_new`, `Rows.Rewritten.exists_old` — where a row goes and comes from;
* `Rows.findIdx?_of_kept` — a search by columns that are kept.
-/

universe u

namespace Rows

variable {ρ : Type u}

/-- The rows are related to what they were, id by id. -/
structure Rewritten (R : ℕ → ρ → ρ → Prop) (rows rows' : List ρ) : Prop where
  length : rows'.length = rows.length
  related : ∀ id row row', rows[id]? = some row → rows'[id]? = some row' → R id row row'

variable {R : ℕ → ρ → ρ → Prop} {rows rows' : List ρ}

/-- Rows that are not written. -/
theorem Rewritten.refl (hsame : ∀ id row, rows[id]? = some row → R id row row) :
    Rewritten R rows rows where
  length := rfl
  related id row row' hrow hrow' := by
    obtain rfl := Option.some.inj (hrow.symm.trans hrow')
    exact hsame id row hrow

/-- A write to one row. -/
theorem Rewritten.modify {id : ℕ} {f : ρ → ρ}
    (hsame : ∀ id row, rows[id]? = some row → R id row row)
    (hf : ∀ row, rows[id]? = some row → R id row (f row)) :
    Rewritten R rows (rows.modify id f) where
  length := List.length_modify ..
  related other row row' hrow hrow' := by
    rw [List.getElem?_modify, hrow] at hrow'
    by_cases hid : id = other
    · subst hid
      simp only [if_true, Option.map_eq_map, Option.map_some, Option.some.injEq] at hrow'
      exact hrow' ▸ hf row hrow
    · simp only [if_neg hid, Option.map_eq_map, Option.map_some, Option.some.injEq] at hrow'
      exact hrow' ▸ hsame other row hrow

/-- A row that is written back. -/
theorem Rewritten.set {id : ℕ} {new : ρ} (hsame : ∀ id row, rows[id]? = some row → R id row row)
    (hnew : ∀ row, rows[id]? = some row → R id row new) :
    Rewritten R rows (rows.set id new) where
  length := List.length_set ..
  related other row row' hrow hrow' := by
    by_cases hid : id = other
    · subst hid
      rw [List.getElem?_set_self (List.getElem?_eq_some_iff.mp hrow).1] at hrow'
      exact Option.some.inj hrow' ▸ hnew row hrow
    · rw [List.getElem?_set_ne hid] at hrow'
      obtain rfl := Option.some.inj (hrow.symm.trans hrow')
      exact hsame other row hrow

/-- A write to all rows. -/
theorem Rewritten.mapIdx {f : ℕ → ρ → ρ}
    (hf : ∀ id row, rows[id]? = some row → R id row (f id row)) :
    Rewritten R rows (rows.mapIdx f) where
  length := List.length_mapIdx
  related id row row' hrow hrow' := by
    rw [List.getElem?_mapIdx, hrow, Option.map_some] at hrow'
    exact Option.some.inj hrow' ▸ hf id row hrow

/-- Where a row goes. -/
theorem Rewritten.exists_new (h : Rewritten R rows rows') {id : ℕ} {row : ρ}
    (hrow : rows[id]? = some row) : ∃ row', rows'[id]? = some row' ∧ R id row row' := by
  have hid : id < rows'.length := h.length ▸ (List.getElem?_eq_some_iff.mp hrow).1
  have hrow' := List.getElem?_eq_getElem hid
  exact ⟨_, hrow', h.related id row _ hrow hrow'⟩

/-- Where a row comes from. -/
theorem Rewritten.exists_old (h : Rewritten R rows rows') {id : ℕ} {row' : ρ}
    (hrow' : rows'[id]? = some row') : ∃ row, rows[id]? = some row ∧ R id row row' := by
  have hid : id < rows.length := h.length ▸ (List.getElem?_eq_some_iff.mp hrow').1
  have hrow := List.getElem?_eq_getElem hid
  exact ⟨_, hrow, h.related id _ row' hrow hrow'⟩

/-- A row that a search finds is found again as long as the rows up to it keep what is searched
for. -/
theorem findIdx?_of_kept {p : ρ → Bool} {id : ℕ} (h : rows.findIdx? p = some id)
    (hkept : ∀ (other : ℕ) (row : ρ), rows[other]? = some row →
      ∃ row', rows'[other]? = some row' ∧ p row' = p row) :
    rows'.findIdx? p = some id := by
  obtain ⟨hid, hp, hbefore⟩ := List.findIdx?_eq_some_iff_getElem.mp h
  have hcolumns : ∀ other, (hother : other < rows.length) → ∃ hother' : other < rows'.length,
      p rows'[other] = p rows[other] := by
    intro other hother
    obtain ⟨row', hrow', heq⟩ := hkept other _ (List.getElem?_eq_getElem hother)
    obtain ⟨hother', rfl⟩ := List.getElem?_eq_some_iff.mp hrow'
    exact ⟨hother', heq⟩
  obtain ⟨hid', heq⟩ := hcolumns id hid
  refine List.findIdx?_eq_some_iff_getElem.mpr ⟨hid', heq.trans hp, fun other hother => ?_⟩
  obtain ⟨_, heq⟩ := hcolumns other (Nat.lt_trans hother hid)
  rw [heq]
  exact hbefore other hother

end Rows
