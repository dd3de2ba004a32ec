import Mathlib.Data.List.Basic
import Mathlib.Data.List.Induction

/-!
# Dictionaries

A dictionary is a list of entries in insertion order. Writing a key replaces the value of the
entry that has it, or adds an entry at the end; it is read with `List.lookup`.

## Main results

* `Dict.lookup_set` — what is read after a write;
* `Dict.mem_set` — the entries after a write are the one written and old ones;
* `Dict.lookup_ofList` — of several values of a key, a dictionary has the last;
* `Dict.lookup_ofList_of_pairwise` — of values in order, it has the greatest of each key;
* `Dict.mem_iff_lookup` — an entry of a dictionary is what is read for its key;
* `Dict.mem_values_ofList` — of values that are their own keys' values, the last of each key stays;
* `Dict.lookup_group` — a group has the values of its key;
* `Dict.lookup_accumulate` — what items of one key become, where each is added to the last.
-/

universe u v

namespace Dict

variable {κ : Type u} {ν : Type v} [DecidableEq κ]

/-- `dict[key] = value`. -/
def set (key : κ) (value : ν) : List (κ × ν) → List (κ × ν)
  | [] => [(key, value)]
  | entry :: rest =>
      if entry.1 = key then (key, value) :: rest else entry :: set key value rest

/-- Reading looks at the first entry first. -/
theorem lookup_cons (other : κ) (entry : κ × ν) (rest : List (κ × ν)) :
    (entry :: rest).lookup other = if other = entry.1 then some entry.2 else rest.lookup other := by
  obtain ⟨key, value⟩ := entry
  rw [List.lookup_cons]
  by_cases h : other = key
  · simp [h]
  · simp [h, beq_eq_false_iff_ne.mpr h]

/-- What is read after a write. -/
theorem lookup_set (key other : κ) (value : ν) (dict : List (κ × ν)) :
    (set key value dict).lookup other =
      if other = key then some value else dict.lookup other := by
  induction dict with
  | nil => rw [set, lookup_cons]
  | cons entry rest ih =>
      rw [set, lookup_cons]
      by_cases hentry : entry.1 = key
      · rw [if_pos hentry, lookup_cons, hentry]
        by_cases h : other = key
        · rw [if_pos h, if_pos h]
        · rw [if_neg h, if_neg h, if_neg h]
      · rw [if_neg hentry, lookup_cons, ih]
        by_cases h : other = key
        · rw [if_neg (h ▸ Ne.symm hentry), if_pos h, if_pos h]
        · rw [if_neg h, if_neg h]

/-- A written key is read back. -/
@[simp] theorem lookup_set_self (key : κ) (value : ν) (dict : List (κ × ν)) :
    (set key value dict).lookup key = some value := by
  rw [lookup_set, if_pos rfl]

/-- The entries after a write are the one written and old ones. -/
theorem mem_set {key : κ} {value : ν} {dict : List (κ × ν)} {entry : κ × ν}
    (h : entry ∈ set key value dict) : entry = (key, value) ∨ entry ∈ dict := by
  induction dict with
  | nil => exact .inl (List.mem_singleton.mp h)
  | cons first rest ih =>
      unfold set at h
      split at h
      · rcases List.mem_cons.mp h with rfl | hrest
        · exact .inl rfl
        · exact .inr (List.mem_cons_of_mem _ hrest)
      · rcases List.mem_cons.mp h with rfl | hrest
        · exact .inr List.mem_cons_self
        · rcases ih hrest with heq | hmem
          · exact .inl heq
          · exact .inr (List.mem_cons_of_mem _ hmem)

/-- A write adds its key at the end, unless the key is there. -/
theorem keys_set (key : κ) (value : ν) (dict : List (κ × ν)) :
    (set key value dict).map (·.1) =
      if key ∈ dict.map (·.1) then dict.map (·.1) else dict.map (·.1) ++ [key] := by
  induction dict with
  | nil => rfl
  | cons entry rest ih =>
      rw [set]
      by_cases hentry : entry.1 = key
      · simp [hentry]
      · rw [if_neg hentry, List.map_cons, ih, List.map_cons]
        by_cases hmem : key ∈ rest.map (·.1)
        · rw [if_pos hmem, if_pos (List.mem_cons_of_mem _ hmem)]
        · rw [if_neg hmem, if_neg, List.cons_append]
          rintro (_ | ⟨_, hrest⟩)
          · exact hentry rfl
          · exact hmem hrest

/-- `{key: value for key, value in entries}`. -/
def ofList (entries : List (κ × ν)) : List (κ × ν) :=
  entries.foldl (fun dict entry => set entry.1 entry.2 dict) []

theorem ofList_concat (entries : List (κ × ν)) (entry : κ × ν) :
    ofList (entries ++ [entry]) = set entry.1 entry.2 (ofList entries) := by
  simp [ofList]

/-- A write keeps keys distinct. -/
theorem nodup_keys_set {dict : List (κ × ν)} (h : (dict.map (·.1)).Nodup) (key : κ) (value : ν) :
    ((set key value dict).map (·.1)).Nodup := by
  rw [keys_set]
  split
  · exact h
  · next hmem =>
      refine List.nodup_append.mpr ⟨h, by simp, ?_⟩
      intro other hother last hlast
      obtain rfl := List.mem_singleton.mp hlast
      rintro rfl
      exact hmem hother

/-- The keys of a dictionary are distinct. -/
theorem nodup_keys_ofList (entries : List (κ × ν)) : ((ofList entries).map (·.1)).Nodup := by
  induction entries using List.reverseRecOn with
  | nil => exact List.nodup_nil
  | append_singleton entries entry ih =>
      rw [ofList_concat]
      exact nodup_keys_set ih entry.1 entry.2

/-- The entries of a dictionary are among those that were written. -/
theorem mem_of_mem_ofList {entries : List (κ × ν)} {entry : κ × ν} (h : entry ∈ ofList entries) :
    entry ∈ entries := by
  induction entries using List.reverseRecOn with
  | nil => exact h
  | append_singleton entries last ih =>
      rw [ofList_concat] at h
      rcases mem_set h with rfl | hold
      · exact List.mem_append_right _ (List.mem_singleton_self _)
      · exact List.mem_append_left _ (ih hold)

/-- Of several values of a key, a dictionary has the last. -/
theorem lookup_ofList (key : κ) (entries : List (κ × ν)) :
    (ofList entries).lookup key = entries.reverse.lookup key := by
  induction entries using List.reverseRecOn with
  | nil => rfl
  | append_singleton entries entry ih =>
      rw [ofList_concat, lookup_set, ih, List.reverse_append, List.reverse_singleton,
        List.singleton_append, lookup_cons]

/-- Where keys are distinct, an entry is what is read for its key. -/
theorem mem_iff_lookup {dict : List (κ × ν)} (h : (dict.map (·.1)).Nodup) {key : κ} {value : ν} :
    (key, value) ∈ dict ↔ dict.lookup key = some value := by
  induction dict with
  | nil => simp
  | cons entry rest ih =>
      obtain ⟨first, stored⟩ := entry
      rw [List.map_cons, List.nodup_cons] at h
      rw [List.mem_cons, lookup_cons, ih h.2, Prod.mk.injEq]
      by_cases hkey : key = first
      · subst hkey
        simp only [true_and, if_true, Option.some.injEq]
        constructor
        · rintro (hvalue | hrest)
          · exact hvalue.symm
          · exact absurd (List.mem_map_of_mem ((ih h.2).mpr hrest)) h.1
        · intro hvalue
          exact .inl hvalue.symm
      · simp [hkey]

/-- Reading values by their own keys finds the first value of a key. -/
theorem lookup_map_self (key : ν → κ) (values : List ν) (k : κ) :
    (values.map fun value => (key value, value)).lookup k =
      values.find? fun value => key value = k := by
  induction values with
  | nil => rfl
  | cons first rest ih =>
      rw [List.map_cons, lookup_cons, List.find?_cons, ih]
      by_cases hkey : key first = k
      · rw [if_pos hkey.symm, decide_eq_true hkey]
      · rw [if_neg (Ne.symm hkey), decide_eq_false hkey]

/-- `{key(value): value for value in values}.values()` has the last value of each key. -/
theorem mem_values_ofList {key : ν → κ} {values : List ν} {value : ν} :
    value ∈ (ofList (values.map fun value => (key value, value))).map (·.2) ↔
      (values.reverse.find? fun other => key other = key value) = some value := by
  have hentry : ∀ k, (k, value) ∈ ofList (values.map fun value => (key value, value)) ↔
      (values.reverse.find? fun other => key other = k) = some value := by
    intro k
    rw [mem_iff_lookup (nodup_keys_ofList _), lookup_ofList, ← List.map_reverse, lookup_map_self]
  constructor
  · intro h
    obtain ⟨⟨k, found⟩, hfound, rfl⟩ := List.mem_map.mp h
    have hlast := (hentry k).mp hfound
    have hkey : key found = k := by simpa using List.find?_some hlast
    rwa [hkey]
  · intro h
    exact List.mem_map.mpr ⟨(key value, value), (hentry _).mpr h, rfl⟩

/-- Every value has one of its key that stays. -/
theorem exists_mem_values_ofList {key : ν → κ} {values : List ν} {value : ν} (h : value ∈ values) :
    ∃ last ∈ (ofList (values.map fun value => (key value, value))).map (·.2),
      last ∈ values ∧ key last = key value := by
  have hsome : (values.reverse.find? fun other => decide (key other = key value)).isSome := by
    rw [List.find?_isSome]
    exact ⟨value, List.mem_reverse.mpr h, decide_eq_true rfl⟩
  obtain ⟨last, hlast⟩ := Option.isSome_iff_exists.mp hsome
  have hkey : key last = key value := by simpa using List.find?_some hlast
  refine ⟨last, mem_values_ofList.mpr ?_, List.mem_reverse.mp (List.mem_of_find?_eq_some hlast),
    hkey⟩
  rw [hkey, hlast]

/-- What stays is among the values. -/
theorem mem_of_mem_values_ofList {key : ν → κ} {values : List ν} {value : ν}
    (h : value ∈ (ofList (values.map fun value => (key value, value))).map (·.2)) :
    value ∈ values :=
  List.mem_reverse.mp (List.mem_of_find?_eq_some (mem_values_ofList.mp h))

/-- `{key(value): value for value in values}.values()` has no two values of one key. -/
theorem nodup_map_values_ofList (key : ν → κ) (values : List ν) :
    (((ofList (values.map fun value => (key value, value))).map (·.2)).map key).Nodup := by
  have hkeys : ((ofList (values.map fun value => (key value, value))).map (·.2)).map key =
      (ofList (values.map fun value => (key value, value))).map (·.1) := by
    rw [List.map_map]
    refine List.map_congr_left fun entry hentry => ?_
    obtain ⟨value, -, heq⟩ := List.mem_map.mp (mem_of_mem_ofList hentry)
    rw [← heq]
    rfl
  rw [hkeys]
  exact nodup_keys_ofList _

/-- Of several values of a key in an ordered list, a dictionary has the greatest. -/
theorem lookup_ofList_of_pairwise {before : ν → ν → Prop} {key : ν → κ} {values : List ν}
    (h : values.Pairwise before) (hasymm : ∀ a b, before a b → ¬ before b a) {k : κ} {value : ν} :
    (ofList (values.map fun value => (key value, value))).lookup k = some value ↔
      (value ∈ values ∧ key value = k) ∧
        ∀ other ∈ values, key other = k → other = value ∨ before other value := by
  rw [lookup_ofList]
  induction values using List.reverseRecOn with
  | nil => simp
  | append_singleton values last ih =>
      obtain ⟨hvalues, -, hlast⟩ := List.pairwise_append.mp h
      rw [List.map_append, List.reverse_append, List.map_singleton, List.reverse_singleton,
        List.singleton_append, lookup_cons]
      by_cases hk : k = key last
      · rw [if_pos hk, Option.some.injEq]
        constructor
        · rintro rfl
          refine ⟨⟨by simp, hk.symm⟩, fun other hother _ => ?_⟩
          rcases List.mem_append.mp hother with hmem | hmem
          · exact .inr (hlast other hmem _ (List.mem_singleton_self _))
          · exact .inl (List.mem_singleton.mp hmem)
        · rintro ⟨⟨hmem, -⟩, hgreatest⟩
          rcases hgreatest last (by simp) hk.symm with heq | hbefore
          · exact heq
          · rcases List.mem_append.mp hmem with hmem | hmem
            · exact absurd hbefore (hasymm _ _ (hlast value hmem _ (List.mem_singleton_self _)))
            · exact (List.mem_singleton.mp hmem).symm
      · rw [if_neg hk, ih hvalues]
        constructor
        · rintro ⟨⟨hmem, hkey⟩, hgreatest⟩
          refine ⟨⟨List.mem_append_left _ hmem, hkey⟩, fun other hother hsame => ?_⟩
          rcases List.mem_append.mp hother with hmem' | hmem'
          · exact hgreatest other hmem' hsame
          · rw [List.mem_singleton.mp hmem'] at hsame
            exact absurd hsame.symm hk
        · rintro ⟨⟨hmem, hkey⟩, hgreatest⟩
          refine ⟨⟨?_, hkey⟩, fun other hother => hgreatest other (List.mem_append_left _ hother)⟩
          rcases List.mem_append.mp hmem with hmem' | hmem'
          · exact hmem'
          · rw [List.mem_singleton.mp hmem'] at hkey
            exact absurd hkey.symm hk

/-! ### Groups -/

/-- `for key, value in entries: dict.setdefault(key, []).append(value)`. -/
def group (entries : List (κ × ν)) : List (κ × List ν) :=
  entries.foldl (fun dict entry =>
    set entry.1 ((dict.lookup entry.1).getD [] ++ [entry.2]) dict) []

theorem group_concat (entries : List (κ × ν)) (entry : κ × ν) :
    group (entries ++ [entry]) =
      set entry.1 (((group entries).lookup entry.1).getD [] ++ [entry.2]) (group entries) := by
  simp [group]

theorem nodup_keys_group (entries : List (κ × ν)) : ((group entries).map (·.1)).Nodup := by
  induction entries using List.reverseRecOn with
  | nil => exact List.nodup_nil
  | append_singleton entries entry ih =>
      rw [group_concat]
      exact nodup_keys_set ih entry.1 _

theorem mem_keys_group {entries : List (κ × ν)} {key : κ} :
    key ∈ (group entries).map (·.1) ↔ key ∈ entries.map (·.1) := by
  induction entries using List.reverseRecOn with
  | nil => exact Iff.rfl
  | append_singleton entries entry ih =>
      rw [group_concat, keys_set, List.map_append, List.mem_append, List.map_singleton,
        List.mem_singleton, ← ih]
      split
      · next hmem =>
          constructor
          · exact .inl
          · rintro (h | rfl)
            · exact h
            · exact hmem
      · rw [List.mem_append, List.mem_singleton]

/-- A group has the values of its key, in order. -/
theorem lookup_group (entries : List (κ × ν)) (key : κ) :
    ((group entries).lookup key).getD [] =
      (entries.filter fun entry => entry.1 = key).map (·.2) := by
  induction entries using List.reverseRecOn with
  | nil => rfl
  | append_singleton entries entry ih =>
      rw [group_concat, lookup_set, List.filter_append, List.map_append]
      by_cases hkey : key = entry.1
      · subst hkey
        simp [ih]
      · rw [if_neg hkey, ih]
        simp [Ne.symm hkey]

/-! ### Accumulating -/

variable {α : Type*} (key : α → κ) (start : α → ν) (add : ν → α → ν)

/-- `if key in dict: dict[key] = add(dict[key], item) else: dict[key] = start(item)`. -/
def accumulate (dict : List (κ × ν)) (item : α) : List (κ × ν) :=
  match dict.lookup (key item) with
  | none => dict ++ [(key item, start item)]
  | some value => set (key item) (add value item) dict

/-- What the items of one key become. -/
def combine : List α → Option ν
  | [] => none
  | first :: rest => some (rest.foldl add (start first))

omit [DecidableEq κ] in
theorem combine_concat (items : List α) (item : α) :
    combine start add (items ++ [item]) =
      some (((combine start add items).map fun value => add value item).getD (start item)) := by
  cases items with
  | nil => rfl
  | cons first rest => simp [combine]

/-- Writing a key that is not there adds an entry at the end. -/
theorem set_of_lookup_eq_none {dict : List (κ × ν)} {k : κ} (h : dict.lookup k = none) (value : ν) :
    set k value dict = dict ++ [(k, value)] := by
  induction dict with
  | nil => rfl
  | cons entry rest ih =>
      rw [lookup_cons] at h
      by_cases hkey : k = entry.1
      · rw [if_pos hkey] at h
        exact absurd h (by simp)
      · rw [if_neg hkey] at h
        rw [set, if_neg (Ne.symm hkey), ih h, List.cons_append]

theorem accumulate_eq_set (dict : List (κ × ν)) (item : α) :
    accumulate key start add dict item =
      set (key item)
        (((dict.lookup (key item)).map fun value => add value item).getD (start item)) dict := by
  unfold accumulate
  cases h : dict.lookup (key item) with
  | none => exact (set_of_lookup_eq_none h _).symm
  | some value => rfl

theorem nodup_keys_accumulate (items : List α) :
    ((items.foldl (accumulate key start add) []).map (·.1)).Nodup := by
  induction items using List.reverseRecOn with
  | nil => exact List.nodup_nil
  | append_singleton items item ih =>
      rw [List.foldl_concat, accumulate_eq_set]
      exact nodup_keys_set ih _ _

/-- An entry has what the items of its key become, in order. -/
theorem lookup_accumulate (items : List α) (k : κ) :
    (items.foldl (accumulate key start add) []).lookup k =
      combine start add (items.filter fun item => key item = k) := by
  induction items using List.reverseRecOn with
  | nil => rfl
  | append_singleton items item ih =>
      rw [List.foldl_concat, accumulate_eq_set, lookup_set, List.filter_append]
      by_cases hkey : k = key item
      · subst hkey
        rw [if_pos rfl, ih, List.filter_singleton, decide_eq_true rfl, cond_true, combine_concat]
      · rw [if_neg hkey, ih, List.filter_singleton, decide_eq_false (Ne.symm hkey), cond_false,
          List.append_nil]

end Dict
