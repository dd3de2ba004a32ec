import Mathlib.Data.List.Basic

/-!
# Upserts

A row is written by its key: the row that has the key is updated, or a new row is added. The
lemmas say which row is written, and that the other rows stay.

## Main results

* `Rows.getElem?_upsert_cases` — a row after an upsert is an old one or the one written;
* `Rows.getElem?_upsert_of` — no row is lost;
* `Rows.getElem?_upsert_self` — what the row written looks like;
* `Rows.findIdx?_upsert_self`, `Rows.findIdx?_upsert_of` — the row written is the first one of its
  key, and the first rows of other keys stay the first;
* `Rows.find?_upsert`, `Rows.mem_upsert_first` — the same for the rows themselves.
-/

universe u

namespace Rows

variable {ρ : Type u}

/-- Update the first row that has the key, or add a row. The id of the row is returned. -/
def upsert (hasKey : ρ → Bool) (update : ρ → ρ) (new : ρ) (rows : List ρ) : ℕ × List ρ :=
  match rows.findIdx? hasKey with
  | some id => (id, rows.modify id update)
  | none => (rows.length, rows ++ [new])

variable {hasKey : ρ → Bool} {update : ρ → ρ} {new : ρ} {rows : List ρ}

/-- An upsert updates a row with the key, or adds a row when there is none. -/
theorem upsert_cases (hasKey : ρ → Bool) (update : ρ → ρ) (new : ρ) (rows : List ρ) :
    (∃ (id : ℕ) (row : ρ), rows[id]? = some row ∧ hasKey row = true ∧
      upsert hasKey update new rows = (id, rows.modify id update)) ∨
    (∀ row ∈ rows, hasKey row = false) ∧
      upsert hasKey update new rows = (rows.length, rows ++ [new]) := by
  unfold upsert
  cases hfind : rows.findIdx? hasKey with
  | none =>
      refine .inr ⟨fun row hrow => ?_, rfl⟩
      exact List.findIdx?_eq_none_iff.mp hfind row hrow
  | some id =>
      obtain ⟨hlt, hkey, -⟩ := List.findIdx?_eq_some_iff_getElem.mp hfind
      exact .inl ⟨id, rows[id], List.getElem?_eq_getElem hlt, hkey, rfl⟩

/-- A row after an upsert is an old one, an old one updated, or the new one. -/
theorem getElem?_upsert_cases {j : ℕ} {row : ρ}
    (h : (upsert hasKey update new rows).2[j]? = some row) :
    rows[j]? = some row ∨
      (∃ old, rows[j]? = some old ∧ hasKey old = true ∧ row = update old) ∨ row = new := by
  rcases upsert_cases hasKey update new rows with ⟨id, old, hold, hkey, heq⟩ | ⟨-, heq⟩
  · rw [heq] at h
    by_cases hid : id = j
    · subst hid
      rw [List.getElem?_modify_eq, hold] at h
      exact .inr (.inl ⟨old, hold, hkey, (Option.some.inj h).symm⟩)
    · rw [List.getElem?_modify_ne _ _ hid] at h
      exact .inl h
  · rw [heq] at h
    have hmem := List.mem_of_getElem? h
    by_cases hj : j < rows.length
    · rw [List.getElem?_append_left hj] at h
      exact .inl h
    · rw [List.getElem?_append_right (Nat.not_lt.mp hj)] at h
      exact .inr (.inr (List.mem_singleton.mp (List.mem_of_getElem? h)))

/-- The same for the rows of the table. -/
theorem mem_upsert {row : ρ} (h : row ∈ (upsert hasKey update new rows).2) :
    row ∈ rows ∨ (∃ old ∈ rows, hasKey old = true ∧ row = update old) ∨ row = new := by
  obtain ⟨j, hj⟩ := List.mem_iff_getElem?.mp h
  rcases getElem?_upsert_cases hj with hold | ⟨old, hold, hkey, heq⟩ | hnew
  · exact .inl (List.mem_of_getElem? hold)
  · exact .inr (.inl ⟨old, List.mem_of_getElem? hold, hkey, heq⟩)
  · exact .inr (.inr hnew)

/-- No row is lost: it is the same as before, or updated. -/
theorem getElem?_upsert_of {j : ℕ} {row : ρ} (h : rows[j]? = some row) :
    (upsert hasKey update new rows).2[j]? = some row ∨
      (upsert hasKey update new rows).2[j]? = some (update row) := by
  rcases upsert_cases hasKey update new rows with ⟨id, old, hold, -, heq⟩ | ⟨-, heq⟩
  · rw [heq]
    by_cases hid : id = j
    · subst hid
      rw [List.getElem?_modify_eq, h]
      exact .inr rfl
    · rw [List.getElem?_modify_ne _ _ hid]
      exact .inl h
  · rw [heq, List.getElem?_append_left (List.getElem?_eq_some_iff.mp h).1]
    exact .inl h

/-- The row written is a row with the key, updated, or the new one. -/
theorem getElem?_upsert_self (hasKey : ρ → Bool) (update : ρ → ρ) (new : ρ) (rows : List ρ) :
    ∃ row, (upsert hasKey update new rows).2[(upsert hasKey update new rows).1]? = some row ∧
      ((∃ old ∈ rows, hasKey old = true ∧ row = update old) ∨ row = new) := by
  rcases upsert_cases hasKey update new rows with ⟨id, old, hold, hkey, heq⟩ | ⟨-, heq⟩
  · rw [heq, List.getElem?_modify_eq, hold]
    exact ⟨_, rfl, .inl ⟨old, List.mem_of_getElem? hold, hkey, rfl⟩⟩
  · rw [heq, List.getElem?_concat_length]
    exact ⟨new, rfl, .inr rfl⟩

/-- The first row that satisfies a predicate stays so, if updates keep what it says. -/
theorem findIdx?_upsert_of {p : ρ → Bool} (hp : ∀ row, p (update row) = p row)
    (hasKey : ρ → Bool) (new : ρ) {id : ℕ} (h : rows.findIdx? p = some id) :
    (upsert hasKey update new rows).2.findIdx? p = some id := by
  obtain ⟨hlt, hfound, hbefore⟩ := List.findIdx?_eq_some_iff_getElem.mp h
  rcases upsert_cases hasKey update new rows with ⟨other, old, -, -, heq⟩ | ⟨-, heq⟩
  · rw [heq]
    refine List.findIdx?_eq_some_iff_getElem.mpr ⟨by simpa using hlt, ?_, fun j hj => ?_⟩
    · rw [List.getElem_modify]
      split
      · rw [hp]
        exact hfound
      · exact hfound
    · rw [List.getElem_modify]
      split
      · rw [hp]
        exact hbefore j hj
      · exact hbefore j hj
  · rw [heq, List.findIdx?_append, h]
    rfl

/-- The row written is the first one of its key. -/
theorem findIdx?_upsert_self {hasKey : ρ → Bool} {new : ρ}
    (hupdate : ∀ row, hasKey (update row) = hasKey row) (hnew : hasKey new = true) :
    (upsert hasKey update new rows).2.findIdx? hasKey =
      some (upsert hasKey update new rows).1 := by
  cases h : rows.findIdx? hasKey with
  | some id =>
      have hself := findIdx?_upsert_of hupdate hasKey new h
      rw [hself, upsert, h]
  | none =>
      have heq : upsert hasKey update new rows = (rows.length, rows ++ [new]) := by
        rw [upsert, h]
      rw [heq, List.findIdx?_append, h]
      simp [List.findIdx?_cons, hnew]

/-- The first row that satisfies a predicate is the same after an update, or the row updated, if
updates keep what the predicate says. -/
theorem find?_modify {p : ρ → Bool} (hp : ∀ row, p (update row) = p row) (id : ℕ) (rows : List ρ) :
    (rows.modify id update).find? p = rows.find? p ∨
      (rows.modify id update).find? p = (rows.find? p).map update := by
  induction rows generalizing id with
  | nil => exact .inl (by rw [List.modify_nil])
  | cons row rows ih =>
      cases id with
      | zero =>
          rw [List.modify_zero_cons, List.find?_cons, List.find?_cons, hp]
          cases p row with
          | true => exact .inr rfl
          | false => exact .inl rfl
      | succ id =>
          rw [List.modify_succ_cons, List.find?_cons, List.find?_cons]
          cases p row with
          | true => exact .inl rfl
          | false => exact ih id

/-- The first row that satisfies a predicate after an upsert. -/
theorem find?_upsert {p : ρ → Bool} (hp : ∀ row, p (update row) = p row) (hasKey : ρ → Bool)
    (new : ρ) (rows : List ρ) :
    (upsert hasKey update new rows).2.find? p = rows.find? p ∨
      (upsert hasKey update new rows).2.find? p = (rows.find? p).map update ∨
      rows.find? p = none ∧ (upsert hasKey update new rows).2.find? p = some new := by
  rcases upsert_cases hasKey update new rows with ⟨id, old, -, -, heq⟩ | ⟨-, heq⟩
  · rw [heq]
    rcases find?_modify hp id rows with hsame | hupdated
    · exact .inl hsame
    · exact .inr (.inl hupdated)
  · rw [heq, List.find?_append]
    cases hfind : rows.find? p with
    | some row => exact .inl rfl
    | none =>
        cases hnew : p new with
        | true => exact .inr (.inr ⟨rfl, by simp [hnew]⟩)
        | false => exact .inl (by simp [hnew])

/-- The row that an upsert updates is the first one that has the key. -/
theorem upsert_first (hasKey : ρ → Bool) (update : ρ → ρ) (new : ρ) (rows : List ρ) :
    (∃ (id : ℕ) (row : ρ), rows[id]? = some row ∧ rows.find? hasKey = some row ∧
      upsert hasKey update new rows = (id, rows.modify id update)) ∨
    rows.find? hasKey = none ∧ upsert hasKey update new rows = (rows.length, rows ++ [new]) := by
  unfold upsert
  cases hfind : rows.findIdx? hasKey with
  | none =>
      refine .inr ⟨List.find?_eq_none.mpr fun row hrow => ?_, rfl⟩
      rw [List.findIdx?_eq_none_iff.mp hfind row hrow]
      exact Bool.false_ne_true
  | some id =>
      obtain ⟨hlt, hkey, hbefore⟩ := List.findIdx?_eq_some_iff_getElem.mp hfind
      refine .inl ⟨id, rows[id], List.getElem?_eq_getElem hlt, ?_, rfl⟩
      exact List.find?_eq_some_iff_getElem.mpr
        ⟨hkey, id, hlt, rfl, fun j hj => by simpa using hbefore j hj⟩

/-- A row after an upsert is an old one, the first one of the key updated, or the new one. -/
theorem mem_upsert_first {row : ρ} (h : row ∈ (upsert hasKey update new rows).2) :
    row ∈ rows ∨ (∃ old, rows.find? hasKey = some old ∧ row = update old) ∨ row = new := by
  rcases upsert_first hasKey update new rows with ⟨id, old, hold, hfirst, heq⟩ | ⟨-, heq⟩
  · rw [heq] at h
    obtain ⟨j, hj⟩ := List.mem_iff_getElem?.mp h
    by_cases hid : id = j
    · subst hid
      rw [List.getElem?_modify_eq, hold] at hj
      exact .inr (.inl ⟨old, hfirst, (Option.some.inj hj).symm⟩)
    · rw [List.getElem?_modify_ne _ _ hid] at hj
      exact .inl (List.mem_of_getElem? hj)
  · rw [heq] at h
    rcases List.mem_append.mp h with hold | hnew
    · exact .inl hold
    · exact .inr (.inr (List.mem_singleton.mp hnew))

/-- The first row of the key is updated. -/
theorem mem_upsert_of_find? {row : ρ} (h : rows.find? hasKey = some row) :
    update row ∈ (upsert hasKey update new rows).2 := by
  rcases upsert_first hasKey update new rows with ⟨id, old, hold, hfirst, heq⟩ | ⟨hnone, -⟩
  · obtain rfl := Option.some.inj (h.symm.trans hfirst)
    have hget : (rows.modify id update)[id]? = some (update row) := by
      rw [List.getElem?_modify_eq, hold]
      rfl
    rw [heq]
    exact List.mem_of_getElem? hget
  · exact absurd (hnone.symm.trans h) (by simp)

end Rows
