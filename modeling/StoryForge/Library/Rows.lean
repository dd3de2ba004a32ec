import Mathlib.Data.List.Sort

/-!
# Row stores and transactions

A table that is only appended to and updated is a list of rows; the id of a row is its
position. This module has the two queries such a table is used with and the rules for
transactions, which are functions into `Except`: an error stands for a rollback, so the
caller keeps the store it had.

## Main results

* `Rows.mem_idsWhere`, `Rows.getLast?_idsWhere` — the ids a selection returns are those of the
  rows it selects, and its last one is the largest;
* `Rows.mem_selectBy`, `Rows.mem_selectBy_of_room` — an ordered and bounded selection
  returns selected rows only, and all of them when the bound leaves room;
* `Rows.map_filter_zipIdx_congr` — two queries that see the same of each id give the same list;
* `Rows.getElem?_set_cases`, `Rows.getElem?_concat_cases` — a row of a table after a write is
  an old one or the one written;
* `Rows.map_modify`, `Rows.map_mapIdx` — columns that writes leave alone;
* `Except.bind_eq_ok`, `Except.mapM_eq_ok` — a sequence of steps succeeds when each does;
* `Except.foldlM_invariant` — a loop keeps what each of its successful steps keeps;
* `Except.foldlM_invariant_of_nodup`, `Except.foldlM_establishes_of_nodup`,
  `Except.foldlM_ok_of_nodup` — invariants, what one step establishes, and success, for a
  loop over distinct rows whose steps leave the other rows alone.
-/

universe u v w

namespace Rows

variable {ρ : Type u}

/-- The rows satisfying `p` with their ids, in id order. -/
def select (rows : List ρ) (p : ρ → Bool) : List (ρ × ℕ) :=
  rows.zipIdx.filter fun r => p r.1

/-- The ids of the rows satisfying `p`, in id order. -/
def idsWhere (rows : List ρ) (p : ρ → Bool) : List ℕ :=
  (select rows p).map (·.2)

/-- The ids of the first `limit` rows satisfying `p`, ordered by `key` and then by id. -/
def selectBy (rows : List ρ) (p : ρ → Bool) (key : ρ → ℤ) (limit : ℕ) : List ℕ :=
  (((select rows p).insertionSort fun a b => key a.1 ≤ key b.1).take limit).map (·.2)

theorem mem_select {rows : List ρ} {p : ρ → Bool} {row : ρ} {id : ℕ} :
    (row, id) ∈ select rows p ↔ rows[id]? = some row ∧ p row = true := by
  simp only [select, List.mem_filter, List.mem_zipIdx_iff_getElem?]

theorem mem_idsWhere {rows : List ρ} {p : ρ → Bool} {id : ℕ} :
    id ∈ idsWhere rows p ↔ ∃ row, rows[id]? = some row ∧ p row = true := by
  simp only [idsWhere, List.mem_map]
  constructor
  · rintro ⟨⟨row, id⟩, hrow, rfl⟩
    exact ⟨row, mem_select.mp hrow⟩
  · rintro ⟨row, hrow⟩
    exact ⟨(row, id), mem_select.mpr hrow, rfl⟩

theorem pairwise_idsWhere (rows : List ρ) (p : ρ → Bool) :
    (idsWhere rows p).Pairwise (· < ·) := by
  have hsub : (idsWhere rows p).Sublist (rows.zipIdx.map (·.2)) := List.filter_sublist.map _
  rw [List.zipIdx_map_snd] at hsub
  exact (List.pairwise_lt_range' (s := 0) (n := rows.length)).sublist hsub

/-- What a query sees of the selected rows, with their ids, is in id order. -/
theorem pairwise_map_filter {β : Type v} (rows : List ρ) (p : ρ × ℕ → Bool) (f : ρ × ℕ → β) :
    ((rows.zipIdx.filter p).map fun r => (f r, r.2)).Pairwise fun a b => a.2 < b.2 := by
  have hids : (rows.zipIdx.map (·.2)).Pairwise (· < ·) := by
    rw [List.zipIdx_map_snd]
    exact List.pairwise_lt_range'
  rw [List.pairwise_map]
  exact (List.pairwise_map.mp hids).sublist List.filter_sublist

theorem mem_map_filter {β : Type v} {rows : List ρ} {p : ρ × ℕ → Bool} {f : ρ × ℕ → β} {y : β}
    {id : ℕ} :
    (y, id) ∈ ((rows.zipIdx.filter p).map fun r => (f r, r.2)) ↔
      ((rows[id]?.map (·, id)).filter p).map f = some y := by
  simp only [List.mem_map, List.mem_filter, Prod.exists, List.mem_zipIdx_iff_getElem?,
    Prod.mk.injEq, Option.map_eq_some_iff, Option.filter_eq_some_iff]
  constructor
  · rintro ⟨row, id, ⟨hrow, hp⟩, hy, rfl⟩
    exact ⟨row, id, ⟨⟨row, hrow, rfl, rfl⟩, hp⟩, hy⟩
  · rintro ⟨row, other, ⟨⟨row, hrow, rfl, rfl⟩, hp⟩, hy⟩
    exact ⟨row, id, ⟨hrow, hp⟩, hy, rfl⟩

/-- Two queries that see the same of each id give the same list. -/
theorem map_filter_zipIdx_congr {β : Type v} {rows rows' : List ρ} {p p' : ρ × ℕ → Bool}
    {f f' : ρ × ℕ → β}
    (h : ∀ id, ((rows[id]?.map (·, id)).filter p).map f =
      ((rows'[id]?.map (·, id)).filter p').map f') :
    (rows.zipIdx.filter p).map f = (rows'.zipIdx.filter p').map f' := by
  have hirrefl : Std.Irrefl fun a b : β × ℕ => a.2 < b.2 := ⟨fun a => Nat.lt_irrefl a.2⟩
  have heq := List.Pairwise.eq_of_mem_iff (pairwise_map_filter rows p f)
    (pairwise_map_filter rows' p' f') fun (y, id) => by rw [mem_map_filter, mem_map_filter, h]
  simpa [Function.comp_def] using congrArg (List.map Prod.fst) heq

/-- A selection by a part of the rows. -/
theorem idsWhere_map {ρ' : Type*} (rows : List ρ) (f : ρ → ρ') (p : ρ' → Bool) :
    idsWhere (rows.map f) p = idsWhere rows fun row => p (f row) := by
  simp only [idsWhere, select, List.zipIdx_map, List.filter_map, List.map_map]
  rfl

/-- Two tables made of the same rows, which agree on the rows selected. -/
theorem select_map_congr {ρ' : Type*} {rows : List ρ'} {f g : ρ' → ρ} {p : ρ → Bool}
    (hp : ∀ row ∈ rows, p (f row) = p (g row))
    (hfg : ∀ row ∈ rows, p (f row) = true → f row = g row) :
    select (rows.map f) p = select (rows.map g) p := by
  unfold select
  generalize 0 = start
  induction rows generalizing start with
  | nil => rfl
  | cons row rows ih =>
      have hrest := ih (fun other h => hp other (List.mem_cons_of_mem _ h))
        (fun other h => hfg other (List.mem_cons_of_mem _ h)) (start + 1)
      have hrow := hp row List.mem_cons_self
      simp only [List.map_cons, List.zipIdx_cons, List.filter_cons, ← hrow, hrest]
      cases hsel : p (f row) with
      | false => rfl
      | true => simp only [if_true, hfg row List.mem_cons_self hsel]

/-- One more row. -/
theorem idsWhere_concat (rows : List ρ) (row : ρ) (p : ρ → Bool) :
    idsWhere (rows ++ [row]) p = idsWhere rows p ++ if p row then [rows.length] else [] := by
  simp only [idsWhere, select, List.zipIdx_append, List.filter_append, List.map_append]
  by_cases h : p row <;> simp [h]

/-- The last id of a selection is the largest id of a selected row. -/
theorem getLast?_idsWhere {rows : List ρ} {p : ρ → Bool} {id : ℕ} :
    (idsWhere rows p).getLast? = some id ↔ id ∈ idsWhere rows p ∧ ∀ k ∈ idsWhere rows p, k ≤ id := by
  have hsorted := pairwise_idsWhere rows p
  generalize idsWhere rows p = ids at hsorted
  constructor
  · intro hlast
    refine ⟨List.mem_of_getLast? hlast, fun k hk => ?_⟩
    obtain ⟨init, rfl⟩ := List.getLast?_eq_some_iff.mp hlast
    rcases List.mem_append.mp hk with hinit | hself
    · exact Nat.le_of_lt ((List.pairwise_append.mp hsorted).2.2 k hinit id List.mem_cons_self)
    · exact Nat.le_of_eq (List.mem_singleton.mp hself)
  · rintro ⟨hid, hmax⟩
    have hne : ids ≠ [] := List.ne_nil_of_mem hid
    have hlast := List.getLast?_eq_some_getLast hne
    obtain ⟨init, hinit⟩ := List.getLast?_eq_some_iff.mp hlast
    have hle := hmax _ (List.getLast_mem hne)
    rw [hinit] at hid hsorted
    rcases List.mem_append.mp hid with hbefore | hself
    · have hlt := (List.pairwise_append.mp hsorted).2.2 id hbefore _ List.mem_cons_self
      omega
    · rw [hlast, List.mem_singleton.mp hself]

/-- Modifying distinct rows one after the other modifies each of them once. -/
theorem getElem?_foldl_modify {ids : List ℕ} (hnodup : ids.Nodup) (f : ρ → ρ) (rows : List ρ)
    (id : ℕ) :
    (ids.foldl (fun rows id => rows.modify id f) rows)[id]? =
      if id ∈ ids then rows[id]?.map f else rows[id]? := by
  induction ids generalizing rows with
  | nil => simp
  | cons k ids ih =>
      obtain ⟨hk, hids⟩ := List.nodup_cons.mp hnodup
      rw [List.foldl_cons, ih hids]
      by_cases hid : id = k
      · subst hid
        rw [if_neg hk, if_pos List.mem_cons_self, List.getElem?_modify_eq, Option.map_eq_map]
      · rw [List.getElem?_modify_ne _ _ (Ne.symm hid)]
        by_cases hmem : id ∈ ids
        · rw [if_pos hmem, if_pos (List.mem_cons_of_mem _ hmem)]
        · rw [if_neg hmem, if_neg (by simp [hid, hmem])]

/-- A bounded selection returns selected rows only. -/
theorem mem_selectBy {rows : List ρ} {p : ρ → Bool} {key : ρ → ℤ} {limit id : ℕ}
    (hid : id ∈ selectBy rows p key limit) : ∃ row, rows[id]? = some row ∧ p row = true := by
  obtain ⟨⟨row, id⟩, hmem, rfl⟩ := List.mem_map.mp hid
  exact ⟨row, mem_select.mp ((List.mem_insertionSort _).mp (List.mem_of_mem_take hmem))⟩

/-- With room for all of them, it returns every selected row. -/
theorem mem_selectBy_of_room {rows : List ρ} {p : ρ → Bool} {key : ρ → ℤ} {limit id : ℕ}
    {row : ρ} (hroom : (idsWhere rows p).length ≤ limit) (hrow : rows[id]? = some row)
    (hp : p row = true) : id ∈ selectBy rows p key limit := by
  have hlen : ((select rows p).insertionSort fun a b => key a.1 ≤ key b.1).length ≤ limit := by
    rw [List.length_insertionSort]
    rwa [idsWhere, List.length_map] at hroom
  rw [selectBy, List.take_of_length_le hlen]
  exact List.mem_map.mpr ⟨(row, id), (List.mem_insertionSort _).mpr (mem_select.mpr ⟨hrow, hp⟩), rfl⟩

/-- A selection lists no row twice. -/
theorem selectBy_nodup {rows : List ρ} {p : ρ → Bool} {key : ρ → ℤ} {limit : ℕ} :
    (selectBy rows p key limit).Nodup := by
  have hids : (idsWhere rows p).Nodup :=
    (pairwise_idsWhere rows p).imp fun hlt => Nat.ne_of_lt hlt
  have hperm : (((select rows p).insertionSort fun a b => key a.1 ≤ key b.1).map (·.2)).Perm
      (idsWhere rows p) := (List.perm_insertionSort _ _).map _
  rw [selectBy, List.map_take]
  exact (List.take_sublist _ _).nodup (hperm.nodup_iff.mpr hids)

/-! ### Rows after a write -/

/-- A row of an updated table is the one written, or another one. -/
theorem getElem?_set_cases {rows : List ρ} {i j : ℕ} {x y : ρ}
    (h : (rows.set i x)[j]? = some y) : i = j ∧ x = y ∨ i ≠ j ∧ rows[j]? = some y := by
  by_cases hij : i = j
  · subst hij
    rw [List.getElem?_set_self'] at h
    obtain ⟨_, -, hy⟩ := Option.map_eq_some_iff.mp h
    exact .inl ⟨rfl, hy⟩
  · rw [List.getElem?_set_ne hij] at h
    exact .inr ⟨hij, h⟩

/-- A row of a table with a new row is an old one, or the new one. -/
theorem getElem?_concat_cases {rows : List ρ} {j : ℕ} {x y : ρ}
    (h : (rows ++ [x])[j]? = some y) : rows[j]? = some y ∨ j = rows.length ∧ x = y := by
  by_cases hj : j < rows.length
  · rw [List.getElem?_append_left hj] at h
    exact .inl h
  · rw [List.getElem?_append_right (Nat.not_lt.mp hj)] at h
    obtain ⟨hlt, hy⟩ := List.getElem?_eq_some_iff.mp h
    simp only [List.length_singleton] at hlt
    exact .inr ⟨by omega, by simpa using hy⟩

/-- Columns that a write leaves alone. -/
theorem map_modify {β : Type v} {g : ρ → β} {f : ρ → ρ} (h : ∀ row, g (f row) = g row)
    (rows : List ρ) (id : ℕ) : (rows.modify id f).map g = rows.map g := by
  refine List.ext_getElem? fun j => ?_
  rw [List.getElem?_map, List.getElem?_modify, List.getElem?_map]
  cases rows[j]? with
  | none => rfl
  | some row => by_cases hj : id = j <;> simp [hj, h]

/-- Columns that writes to all rows leave alone. -/
theorem map_mapIdx {β : Type v} {g : ρ → β} {f : ℕ → ρ → ρ} (h : ∀ id row, g (f id row) = g row)
    (rows : List ρ) : (rows.mapIdx f).map g = rows.map g := by
  refine List.ext_getElem? fun j => ?_
  rw [List.getElem?_map, List.getElem?_mapIdx, List.getElem?_map]
  cases rows[j]? with
  | none => rfl
  | some row => simp [h]

/-- Writing a row adds it to a count, and takes the row that was there out of it. -/
theorem countP_set_add {rows : List ρ} {p : ρ → Bool} {i : ℕ} {x y : ρ} (h : rows[i]? = some x) :
    (rows.set i y).countP p + (p x).toNat = rows.countP p + (p y).toNat := by
  obtain ⟨hlt, rfl⟩ := List.getElem?_eq_some_iff.mp h
  have hpos : p rows[i] → 0 < rows.countP p := fun hp =>
    List.countP_pos_iff.mpr ⟨_, List.getElem_mem hlt, hp⟩
  rw [List.countP_set hlt]
  cases hx : p rows[i] with
  | false => cases p y <;> simp
  | true =>
      have := hpos hx
      cases p y <;> simp <;> omega

theorem length_idsWhere (rows : List ρ) (p : ρ → Bool) :
    (idsWhere rows p).length = rows.countP p := by
  rw [idsWhere, select, List.length_map, ← List.countP_eq_length_filter]
  conv_rhs => rw [← List.zipIdx_map_fst 0 rows, List.countP_map]
  rfl

/-- Appending a row counts it. -/
theorem countP_concat (p : ρ → Bool) (rows : List ρ) (row : ρ) :
    (rows ++ [row]).countP p = rows.countP p + (p row).toNat := by
  rw [List.countP_append, List.countP_singleton]
  cases p row <;> rfl

/-- A selection that has neither the old row nor the new one. -/
theorem filter_set {rows : List ρ} {p : ρ → Bool} {i : ℕ} {x y : ρ} (h : rows[i]? = some x)
    (hx : p x = false) (hy : p y = false) : (rows.set i y).filter p = rows.filter p := by
  induction rows generalizing i with
  | nil => rfl
  | cons row rows ih =>
      cases i with
      | zero =>
          obtain rfl : row = x := by simpa using h
          simp [hx, hy]
      | succ i =>
          have hrest := ih (i := i) (by simpa using h)
          rw [List.set_cons_succ, List.filter_cons, List.filter_cons, hrest]

/-- The other rows stay. -/
theorem mem_set_of_ne {rows : List ρ} {i : ℕ} {x y row : ρ} (h : rows[i]? = some x)
    (hmem : row ∈ rows) (hne : row ≠ x) : row ∈ rows.set i y := by
  obtain ⟨j, hj⟩ := List.mem_iff_getElem?.mp hmem
  have hij : i ≠ j := by
    rintro rfl
    exact hne (Option.some.inj (hj.symm.trans h))
  exact List.mem_of_getElem? ((List.getElem?_set_ne hij).trans hj)

end Rows

namespace Except

variable {ε : Type u} {β : Type v} {ι : Type w} {γ : Type v}

/-- A successful bind is a successful first half followed by a successful second half. -/
theorem bind_eq_ok {x : Except ε β} {f : β → Except ε γ} {r : γ} :
    (x >>= f) = .ok r ↔ ∃ b, x = .ok b ∧ f b = .ok r := by
  cases x with
  | error e => simp [bind, Except.bind]
  | ok b => simp [bind, Except.bind]

/-- A bind succeeds when both halves do. -/
theorem exists_ok_bind {x : Except ε β} {f : β → Except ε γ} {b : β} (hx : x = .ok b)
    (hf : ∃ r, f b = .ok r) : ∃ r, (x >>= f) = .ok r := by
  obtain ⟨r, hr⟩ := hf
  exact ⟨r, bind_eq_ok.mpr ⟨b, hx, hr⟩⟩

/-- A bind looks at the second half only where the first half succeeds. -/
theorem bind_congr_ok {x : Except ε β} {f g : β → Except ε γ} (h : ∀ b, x = .ok b → f b = g b) :
    (x >>= f) = x >>= g := by
  cases x with
  | error e => rfl
  | ok b => exact h b rfl

/-- A successful map is a success mapped. -/
theorem map_eq_ok {x : Except ε β} {f : β → γ} {r : γ} :
    (f <$> x) = .ok r ↔ ∃ b, x = .ok b ∧ f b = r := by
  cases x with
  | error e => simp [Functor.map, Except.map]
  | ok b => simp [Functor.map, Except.map]

@[simp] theorem pure_eq_ok {a b : β} : (pure a : Except ε β) = .ok b ↔ a = b := by
  simp [pure, Except.pure]

@[simp] theorem throw_ne_ok {e : ε} {b : β} : (throw e : Except ε β) = .ok b ↔ False := by
  simp [throw, throwThe, MonadExceptOf.throw]

/-- A successful map over a list maps each element successfully. -/
theorem mapM_eq_ok {f : ι → Except ε β} {is : List ι} {bs : List β} :
    is.mapM f = .ok bs ↔ List.Forall₂ (fun i b => f i = .ok b) is bs := by
  induction is generalizing bs with
  | nil =>
      cases bs with
      | nil => simp
      | cons b bs => simp
  | cons i is ih =>
      rw [List.mapM_cons, bind_eq_ok]
      constructor
      · rintro ⟨b, hb, hmap⟩
        obtain ⟨rest, hrest, hok⟩ := bind_eq_ok.mp hmap
        obtain rfl := pure_eq_ok.mp hok
        exact .cons hb (ih.mp hrest)
      · rintro (_ | ⟨hb, hrest⟩)
        exact ⟨_, hb, bind_eq_ok.mpr ⟨_, ih.mpr hrest, rfl⟩⟩

/-- A success is known by what is read of it. -/
theorem exists_of_toOption {x : Except ε β} {f : β → γ} {r : γ} (h : x.toOption.map f = some r) :
    ∃ b, x = .ok b ∧ f b = r := by
  cases x with
  | error e => contradiction
  | ok b => exact ⟨b, rfl, Option.some.inj h⟩

/-- A map over a list succeeds if it does on every element. -/
theorem exists_mapM_ok {f : ι → Except ε β} {is : List ι} :
    (∃ bs, is.mapM f = .ok bs) ↔ ∀ i ∈ is, ∃ b, f i = .ok b := by
  simp only [mapM_eq_ok]
  induction is with
  | nil => simp
  | cons i is ih =>
      rw [List.forall_mem_cons, ← ih]
      constructor
      · rintro ⟨_, hb | ⟨hb, hrest⟩⟩
        exact ⟨⟨_, hb⟩, _, hrest⟩
      · rintro ⟨⟨b, hb⟩, bs, hrest⟩
        exact ⟨b :: bs, .cons hb hrest⟩

/-- A result of a map over a list is that of an element. -/
theorem exists_of_mem_mapM {f : ι → Except ε β} {is : List ι} {bs : List β}
    (h : is.mapM f = .ok bs) {b : β} (hb : b ∈ bs) : ∃ i ∈ is, f i = .ok b := by
  rw [mapM_eq_ok] at h
  induction h with
  | nil => contradiction
  | cons hfirst _ ih =>
      rcases List.mem_cons.mp hb with rfl | hrest
      · exact ⟨_, List.mem_cons_self, hfirst⟩
      · obtain ⟨i, hi, hok⟩ := ih hrest
        exact ⟨i, List.mem_cons_of_mem _ hi, hok⟩

/-- What a map over a list keeps of each element, it keeps of all. -/
theorem map_of_mapM {κ : Type*} {f : ι → Except ε β} {g : β → κ} {k : ι → κ} {is : List ι}
    {bs : List β} (h : is.mapM f = .ok bs) (hkeep : ∀ i b, f i = .ok b → g b = k i) :
    bs.map g = is.map k := by
  rw [mapM_eq_ok] at h
  induction h with
  | nil => rfl
  | cons hfirst _ ih => rw [List.map_cons, List.map_cons, hkeep _ _ hfirst, ih]

/-- Another map over the list has the same results exactly when it agrees on every element. -/
theorem forall₂_ok_iff {f g : ι → Except ε β} {is : List ι} {bs : List β}
    (h : List.Forall₂ (fun i b => f i = .ok b) is bs) :
    List.Forall₂ (fun i b => g i = .ok b) is bs ↔ ∀ i ∈ is, g i = f i := by
  induction h with
  | nil => simp
  | @cons i b is bs hi his ih =>
      rw [List.forall₂_cons, ih, List.forall_mem_cons, hi]

/-- What every successful step of a transaction keeps, the whole loop keeps. -/
theorem foldlM_invariant {I : β → Prop} {f : β → ι → Except ε β} {is : List ι}
    (hstep : ∀ b i b', i ∈ is → I b → f b i = .ok b' → I b') {b b' : β}
    (hb : I b) (hrun : is.foldlM f b = .ok b') : I b' := by
  induction is generalizing b with
  | nil =>
      obtain rfl : b = b' := Except.ok.inj hrun
      exact hb
  | cons i is ih =>
      rw [List.foldlM_cons] at hrun
      obtain ⟨mid, hmid, hrest⟩ := bind_eq_ok.mp hrun
      exact ih (fun c j c' hj => hstep c j c' (List.mem_cons_of_mem _ hj))
        (hstep b i mid List.mem_cons_self hb hmid) hrest

/-- The same for a loop over distinct indices whose steps each leave the view of the other
indices alone: a step may then use what its index looked like before the loop. -/
theorem foldlM_invariant_of_nodup {ν : Type*} {I : β → Prop} {f : β → ι → Except ε β}
    {v : β → ι → ν} {b₀ b' : β} {is : List ι} (hnodup : is.Nodup)
    (hstep : ∀ b i b', i ∈ is → I b → v b i = v b₀ i → f b i = .ok b' →
      I b' ∧ ∀ k, k ≠ i → v b' k = v b k)
    (hb : I b₀) (hrun : is.foldlM f b₀ = .ok b') : I b' := by
  suffices ∀ (js : List ι) (b : β), js.Nodup → js ⊆ is → I b →
      (∀ k ∈ js, v b k = v b₀ k) → js.foldlM f b = .ok b' → I b' from
    this is b₀ hnodup (List.Subset.refl is) hb (fun _ _ => rfl) hrun
  intro js
  induction js with
  | nil =>
      intro b _ _ hb _ hrun
      obtain rfl : b = b' := Except.ok.inj hrun
      exact hb
  | cons j js ih =>
      intro b hnd hsub hb hview hrun
      rw [List.foldlM_cons] at hrun
      obtain ⟨mid, hmid, hrest⟩ := bind_eq_ok.mp hrun
      obtain ⟨hI, hframe⟩ :=
        hstep b j mid (hsub List.mem_cons_self) hb (hview j List.mem_cons_self) hmid
      have hj := (List.nodup_cons.mp hnd).1
      refine ih mid (List.nodup_cons.mp hnd).2 (fun k hk => hsub (List.mem_cons_of_mem _ hk)) hI
        (fun k hk => ?_) hrest
      rw [hframe k fun heq => hj (heq ▸ hk)]
      exact hview k (List.mem_cons_of_mem _ hk)

/-- What the step at index `i` establishes, and the steps at other indices keep, holds at
the end of such a loop. -/
theorem foldlM_establishes_of_nodup {ν : Type*} {I P : β → Prop} {f : β → ι → Except ε β}
    {v : β → ι → ν} {b₀ b' : β} {is : List ι} {i : ι} (hnodup : is.Nodup) (hi : i ∈ is)
    (hstep : ∀ b k b', k ∈ is → I b → v b k = v b₀ k → f b k = .ok b' →
      I b' ∧ ∀ l, l ≠ k → v b' l = v b l)
    (hdo : ∀ b b', I b → v b i = v b₀ i → f b i = .ok b' → P b')
    (hkeep : ∀ b k b', k ∈ is → k ≠ i → v b k = v b₀ k → P b → f b k = .ok b' → P b')
    (hb : I b₀) (hrun : is.foldlM f b₀ = .ok b') : P b' := by
  suffices ∀ (js : List ι) (b : β), js.Nodup → js ⊆ is → I b →
      (∀ k ∈ js, v b k = v b₀ k) → (i ∈ js ∨ i ∉ js ∧ P b) →
      js.foldlM f b = .ok b' → P b' from
    this is b₀ hnodup (List.Subset.refl is) hb (fun _ _ => rfl) (.inl hi) hrun
  intro js
  induction js with
  | nil =>
      intro b _ _ _ _ hP hrun
      obtain rfl : b = b' := Except.ok.inj hrun
      exact (hP.resolve_left (by simp)).2
  | cons j js ih =>
      intro b hnd hsub hb hview hP hrun
      rw [List.foldlM_cons] at hrun
      obtain ⟨mid, hmid, hrest⟩ := bind_eq_ok.mp hrun
      obtain ⟨hj, hnd'⟩ := List.nodup_cons.mp hnd
      have hjv := hview j List.mem_cons_self
      obtain ⟨hI, hframe⟩ := hstep b j mid (hsub List.mem_cons_self) hb hjv hmid
      refine ih mid hnd' (fun k hk => hsub (List.mem_cons_of_mem _ hk)) hI (fun k hk => ?_) ?_ hrest
      · rw [hframe k fun heq => hj (heq ▸ hk)]
        exact hview k (List.mem_cons_of_mem _ hk)
      · rcases eq_or_ne j i with rfl | hne
        · exact .inr ⟨hj, hdo b mid hb hjv hmid⟩
        · rcases hP with hmem | ⟨hnot, hPb⟩
          · exact .inl ((List.mem_cons.mp hmem).resolve_left (Ne.symm hne))
          · exact .inr ⟨fun h => hnot (List.mem_cons_of_mem _ h),
              hkeep b j mid (hsub List.mem_cons_self) hne hjv hPb hmid⟩

/-- Such a loop succeeds when every step does. -/
theorem foldlM_ok_of_nodup {ν : Type*} {I : β → Prop} {f : β → ι → Except ε β}
    {v : β → ι → ν} {b₀ : β} {is : List ι} (hnodup : is.Nodup)
    (hstep : ∀ b i, i ∈ is → I b → v b i = v b₀ i →
      ∃ b', f b i = .ok b' ∧ I b' ∧ ∀ k, k ≠ i → v b' k = v b k)
    (hb : I b₀) : ∃ b', is.foldlM f b₀ = .ok b' := by
  suffices ∀ (js : List ι) (b : β), js.Nodup → js ⊆ is → I b →
      (∀ k ∈ js, v b k = v b₀ k) → ∃ b', js.foldlM f b = .ok b' from
    this is b₀ hnodup (List.Subset.refl is) hb fun _ _ => rfl
  intro js
  induction js with
  | nil => exact fun b _ _ _ _ => ⟨b, rfl⟩
  | cons j js ih =>
      intro b hnd hsub hb hview
      obtain ⟨mid, hmid, hI, hframe⟩ :=
        hstep b j (hsub List.mem_cons_self) hb (hview j List.mem_cons_self)
      have hj := (List.nodup_cons.mp hnd).1
      rw [List.foldlM_cons]
      refine exists_ok_bind hmid (ih mid (List.nodup_cons.mp hnd).2
        (fun k hk => hsub (List.mem_cons_of_mem _ hk)) hI fun k hk => ?_)
      rw [hframe k fun heq => hj (heq ▸ hk)]
      exact hview k (List.mem_cons_of_mem _ hk)

end Except
