import Mathlib.Data.List.Nodup
import Mathlib.Data.List.Sort
import Mathlib.Data.String.Basic
import StoryForge.Library.Batches
import StoryForge.Library.Json

/-!
# Canonical JSON texts

The canonical text of a value has the members of its objects in the order of their names, at
every depth. In a value whose objects have no name twice, nothing but the order of members is
lost: two values have one canonical text exactly if they are the same up to that order.

## Main results

* `Json.sortKeys_eq_iff` — values that are the same up to the order of members are equal when
  their members are sorted;
* `Json.canonical_eq_iff` — the canonical text of values;
* `Json.same_object_zip_iff` — dictionaries with one list of names;
* `Json.same_optional_iff` — values that may be missing.
-/

namespace Json

/-! ### Sorted members -/

mutual

/-- The value with its members in the order of their names, at every depth. -/
def sortKeys : Json → Json
  | .array items => .array (sortItems items)
  | .object members => .object ((sortMembers members).insertionSort fun a b => a.1 ≤ b.1)
  | .null => .null
  | .bool value => .bool value
  | .int value => .int value
  | .float value => .float value
  | .string value => .string value

/-- The items with their members in order. -/
def sortItems : List Json → List Json
  | [] => []
  | item :: items => sortKeys item :: sortItems items

/-- The members, as they come, with their values in order. -/
def sortMembers : List (String × Json) → List (String × Json)
  | [] => []
  | (name, value) :: members => (name, sortKeys value) :: sortMembers members

end

/-- `json.dumps(value, sort_keys=True)` without blanks. -/
def canonical (ascii : Bool) (v : Json) : List Char := write ascii (sortKeys v)

mutual

/-- No object has a name twice, at any depth. -/
def Unique : Json → Prop
  | .array items => UniqueItems items
  | .object members => (members.map (·.1)).Nodup ∧ UniqueMembers members
  | _ => True

/-- No object of the items has a name twice. -/
def UniqueItems : List Json → Prop
  | [] => True
  | item :: items => Unique item ∧ UniqueItems items

/-- No object of the values has a name twice. -/
def UniqueMembers : List (String × Json) → Prop
  | [] => True
  | (_, value) :: members => Unique value ∧ UniqueMembers members

end

mutual

/-- The values are the same up to the order of members. -/
def Same : Json → Json → Prop
  | .array items, w => ∃ items', w = .array items' ∧ SameItems items items'
  | .object members, w => ∃ members', w = .object members' ∧
      members.length = members'.length ∧ SameMembers members members'
  | .null, w => w = .null
  | .bool value, w => w = .bool value
  | .int value, w => w = .int value
  | .float value, w => w = .float value
  | .string value, w => w = .string value

/-- The items are the same, one by one. -/
def SameItems : List Json → List Json → Prop
  | [], items' => items' = []
  | item :: items, items' => ∃ item' rest, items' = item' :: rest ∧ Same item item' ∧
      SameItems items rest

/-- Every member is one of the others, with the same value. -/
def SameMembers : List (String × Json) → List (String × Json) → Prop
  | [], _ => True
  | (name, value) :: members, members' =>
      (∃ value', (name, value') ∈ members' ∧ Same value value') ∧ SameMembers members members'

end

theorem sortMembers_eq_map (members : List (String × Json)) :
    sortMembers members = members.map fun member => (member.1, sortKeys member.2) := by
  induction members with
  | nil => rw [sortMembers, List.map_nil]
  | cons member members ih => rw [sortMembers, ih, List.map_cons]

theorem names_sortMembers (members : List (String × Json)) :
    (sortMembers members).map (·.1) = members.map (·.1) := by
  rw [sortMembers_eq_map, List.map_map]
  rfl

theorem UniqueMembers.of_mem {members : List (String × Json)} (h : UniqueMembers members)
    {member : String × Json} (hmem : member ∈ members) : Unique member.2 := by
  induction members with
  | nil => exact absurd hmem List.not_mem_nil
  | cons first members ih =>
      rw [UniqueMembers] at h
      rcases List.mem_cons.mp hmem with rfl | hrest
      · exact h.1
      · exact ih h.2 hrest

/-! ### Members in another order -/

theorem pairwise_sorted {members : List (String × Json)} (h : (members.map (·.1)).Nodup) :
    (members.insertionSort fun a b => a.1 ≤ b.1).Pairwise fun a b => a.1 < b.1 := by
  have htotal : Std.Total fun a b : String × Json => a.1 ≤ b.1 := ⟨fun a b => le_total a.1 b.1⟩
  have htrans : IsTrans (String × Json) fun a b => a.1 ≤ b.1 := ⟨fun _ _ _ => le_trans⟩
  have hsorted := List.pairwise_insertionSort (fun a b : String × Json => a.1 ≤ b.1) members
  have hnodup : (members.insertionSort fun a b => a.1 ≤ b.1).Pairwise fun a b => a.1 ≠ b.1 := by
    have hperm := (List.perm_insertionSort (fun a b : String × Json => a.1 ≤ b.1) members).map (·.1)
    exact List.pairwise_map.mp (hperm.nodup_iff.mpr h)
  exact hsorted.imp₂ (fun _ _ hle hne => lt_of_le_of_ne hle hne) hnodup

/-- Sorting forgets the order and nothing else. -/
theorem sorted_eq_iff {members members' : List (String × Json)}
    (h : (members.map (·.1)).Nodup) (h' : (members'.map (·.1)).Nodup) :
    (members.insertionSort fun a b => a.1 ≤ b.1) =
        (members'.insertionSort fun a b => a.1 ≤ b.1) ↔
      members.length = members'.length ∧ members ⊆ members' := by
  constructor
  · intro heq
    have hperm : members.Perm members' :=
      (List.perm_insertionSort _ members).symm.trans
        (heq ▸ List.perm_insertionSort _ members')
    exact ⟨hperm.length_eq, hperm.subset⟩
  · rintro ⟨hlength, hsub⟩
    have hperm : members.Perm members' :=
      (List.subperm_of_subset h.of_map hsub).perm_of_length_le hlength.ge
    exact Batches.insertionSort_eq_of_perm
      (hperm.trans (List.perm_insertionSort _ members').symm) (pairwise_sorted h')

/-- Members that are sorted by themselves are found among others. -/
theorem mem_sortMembers {members : List (String × Json)} {name : String} {value : Json} :
    (name, value) ∈ sortMembers members ↔
      ∃ value', (name, value') ∈ members ∧ value = sortKeys value' := by
  rw [sortMembers_eq_map, List.mem_map]
  constructor
  · rintro ⟨⟨name', value'⟩, hmem, heq⟩
    obtain ⟨rfl, rfl⟩ := Prod.mk.inj heq
    exact ⟨value', hmem, rfl⟩
  · rintro ⟨value', hmem, rfl⟩
    exact ⟨(name, value'), hmem, rfl⟩

mutual

/-- **Sorted values are equal** exactly if the values are the same up to the order of members. -/
theorem sortKeys_eq_iff : ∀ v w : Json, Unique v → Unique w →
    (sortKeys v = sortKeys w ↔ Same v w)
  | .array items, w, hv, hw => by
      rw [Same, sortKeys]
      cases w with
      | array items' =>
          rw [Unique] at hv hw
          rw [sortKeys, Json.array.injEq, sortItems_eq_iff items items' hv hw]
          constructor
          · intro h
            exact ⟨items', rfl, h⟩
          · rintro ⟨_, heq, h⟩
            rw [Json.array.inj heq]
            exact h
      | _ => simp [sortKeys]
  | .object members, w, hv, hw => by
      rw [Same, sortKeys]
      cases w with
      | object members' =>
          rw [Unique] at hv hw
          have hnames : ((sortMembers members).map (·.1)).Nodup := by
            rw [names_sortMembers]
            exact hv.1
          have hnames' : ((sortMembers members').map (·.1)).Nodup := by
            rw [names_sortMembers]
            exact hw.1
          have hlengths : (sortMembers members).length = (sortMembers members').length ↔
              members.length = members'.length := by
            rw [sortMembers_eq_map, sortMembers_eq_map, List.length_map, List.length_map]
          rw [sortKeys, Json.object.injEq, sorted_eq_iff hnames hnames', hlengths,
            sortMembers_subset_iff members members' hv.2 hw.2]
          constructor
          · rintro ⟨hlength, h⟩
            exact ⟨members', rfl, hlength, h⟩
          · rintro ⟨_, heq, hlength, h⟩
            rw [Json.object.inj heq]
            exact ⟨hlength, h⟩
      | _ => simp [sortKeys]
  | .null, w, _, _ => by
      rw [Same, sortKeys]
      cases w <;> simp [sortKeys]
  | .bool value, w, _, _ => by
      rw [Same, sortKeys]
      cases w <;> simp [sortKeys, eq_comm]
  | .int value, w, _, _ => by
      rw [Same, sortKeys]
      cases w <;> simp [sortKeys, eq_comm]
  | .float value, w, _, _ => by
      rw [Same, sortKeys]
      cases w <;> simp [sortKeys, eq_comm]
  | .string value, w, _, _ => by
      rw [Same, sortKeys]
      cases w <;> simp [sortKeys, eq_comm]

theorem sortItems_eq_iff : ∀ items items' : List Json, UniqueItems items → UniqueItems items' →
    (sortItems items = sortItems items' ↔ SameItems items items')
  | [], items', _, _ => by
      rw [SameItems, sortItems]
      cases items' <;> simp [sortItems]
  | item :: items, items', hv, hw => by
      rw [SameItems, sortItems]
      cases items' with
      | nil => simp [sortItems]
      | cons item' items' =>
          rw [UniqueItems] at hv hw
          rw [sortItems, List.cons.injEq, sortKeys_eq_iff item item' hv.1 hw.1,
            sortItems_eq_iff items items' hv.2 hw.2]
          constructor
          · rintro ⟨hitem, hitems⟩
            exact ⟨item', items', rfl, hitem, hitems⟩
          · rintro ⟨_, _, heq, hitem, hitems⟩
            obtain ⟨rfl, rfl⟩ := List.cons.inj heq
            exact ⟨hitem, hitems⟩

theorem sortMembers_subset_iff : ∀ members members' : List (String × Json),
    UniqueMembers members → UniqueMembers members' →
      (sortMembers members ⊆ sortMembers members' ↔ SameMembers members members')
  | [], members', _, _ => by
      rw [SameMembers, sortMembers]
      exact iff_of_true (List.nil_subset _) trivial
  | (name, value) :: members, members', hv, hw => by
      rw [UniqueMembers] at hv
      rw [SameMembers, sortMembers, List.cons_subset, mem_sortMembers,
        sortMembers_subset_iff members members' hv.2 hw]
      refine and_congr_left fun _ => exists_congr fun value' => and_congr_right fun hmem => ?_
      exact sortKeys_eq_iff value value' hv.1 (hw.of_mem hmem)

end

/-- **Values have one canonical text** exactly if they are the same up to the order of members. -/
theorem canonical_eq_iff {ascii : Bool} {v w : Json} (hv : Unique v) (hw : Unique w) :
    canonical ascii v = canonical ascii w ↔ Same v w := by
  rw [canonical, canonical, (write_injective ascii).eq_iff, sortKeys_eq_iff v w hv hw]

/-! ### Objects -/

theorem uniqueMembers_iff {members : List (String × Json)} :
    UniqueMembers members ↔ ∀ member ∈ members, Unique member.2 := by
  induction members with
  | nil => simp [UniqueMembers]
  | cons member members ih => rw [UniqueMembers, ih, List.forall_mem_cons]

theorem uniqueItems_iff {items : List Json} : UniqueItems items ↔ ∀ item ∈ items, Unique item := by
  induction items with
  | nil => simp [UniqueItems]
  | cons item items ih => rw [UniqueItems, ih, List.forall_mem_cons]

theorem sameItems_iff {items items' : List Json} :
    SameItems items items' ↔ List.Forall₂ Same items items' := by
  induction items generalizing items' with
  | nil => rw [SameItems, List.forall₂_nil_left_iff]
  | cons item items ih =>
      rw [SameItems, List.forall₂_cons_left_iff]
      constructor
      · rintro ⟨item', rest, rfl, hitem, hrest⟩
        exact ⟨item', rest, hitem, ih.mp hrest, rfl⟩
      · rintro ⟨item', rest, hitem, hrest, rfl⟩
        exact ⟨item', rest, rfl, hitem, ih.mpr hrest⟩

/-- Objects with their members in another order. -/
theorem unique_of_perm {members members' : List (String × Json)} (h : members.Perm members')
    (hunique : Unique (.object members')) : Unique (.object members) := by
  rw [Unique, uniqueMembers_iff] at hunique ⊢
  exact ⟨(h.map (·.1)).nodup_iff.mpr hunique.1, fun member hmem => hunique.2 member (h.subset hmem)⟩

theorem sortKeys_of_perm {members members' : List (String × Json)} (h : members.Perm members')
    (hunique : Unique (.object members')) :
    sortKeys (.object members) = sortKeys (.object members') := by
  have hnames' : ((sortMembers members').map (·.1)).Nodup := by
    rw [names_sortMembers]
    rw [Unique] at hunique
    exact hunique.1
  have hperm : (sortMembers members).Perm (sortMembers members') := by
    rw [sortMembers_eq_map, sortMembers_eq_map]
    exact h.map _
  have hnames := (hperm.map (·.1)).nodup_iff.mpr hnames'
  rw [sortKeys, sortKeys, (sorted_eq_iff hnames hnames').mpr ⟨hperm.length_eq, hperm.subset⟩]

theorem same_of_perm_iff {members members' others others' : List (String × Json)}
    (h : members.Perm members') (h' : others.Perm others') (hunique : Unique (.object members'))
    (hunique' : Unique (.object others')) :
    Same (.object members) (.object others) ↔ Same (.object members') (.object others') := by
  rw [← sortKeys_eq_iff _ _ (unique_of_perm h hunique) (unique_of_perm h' hunique'),
    ← sortKeys_eq_iff _ _ hunique hunique', sortKeys_of_perm h hunique,
    sortKeys_of_perm h' hunique']

theorem mem_of_mem_names {names : List String} {values : List Json} {name : String}
    {value : Json} (h : (name, value) ∈ names.zip values) : name ∈ names :=
  (List.of_mem_zip h).1

theorem sameMembers_zip_iff {names : List String} {values values' : List Json}
    (before : List (String × Json)) (hnames : names.Nodup)
    (hbefore : ∀ name ∈ names, name ∉ before.map (·.1)) (hlength : names.length = values.length)
    (hlength' : names.length = values'.length) :
    SameMembers (names.zip values) (before ++ names.zip values') ↔
      List.Forall₂ Same values values' := by
  induction names generalizing values values' before with
  | nil =>
      obtain rfl := List.length_eq_zero_iff.mp hlength.symm
      obtain rfl := List.length_eq_zero_iff.mp hlength'.symm
      rw [List.zip_nil_left, SameMembers]
      exact iff_of_true trivial .nil
  | cons name names ih =>
      obtain ⟨value, values, rfl⟩ := List.exists_cons_of_length_eq_add_one hlength.symm
      obtain ⟨value', values', rfl⟩ := List.exists_cons_of_length_eq_add_one hlength'.symm
      rw [List.nodup_cons] at hnames
      rw [List.forall_mem_cons] at hbefore
      have hmember : (∃ other, (name, other) ∈ before ++ (name, value') :: names.zip values' ∧
          Same value other) ↔ Same value value' := by
        constructor
        · rintro ⟨other, hmem, hsame⟩
          rcases List.mem_append.mp hmem with hmem | hmem
          · exact absurd (List.mem_map_of_mem hmem) hbefore.1
          · rcases List.mem_cons.mp hmem with heq | hmem
            · rw [(Prod.mk.inj heq).2] at hsame
              exact hsame
            · exact absurd (mem_of_mem_names hmem) hnames.1
        · intro hsame
          exact ⟨value', List.mem_append_right _ List.mem_cons_self, hsame⟩
      have hnew : ∀ other ∈ names, other ∉ (before ++ [(name, value')]).map (·.1) := by
        intro other hother hmem
        rw [List.map_append, List.mem_append, List.map_singleton, List.mem_singleton] at hmem
        rcases hmem with hmem | rfl
        · exact hbefore.2 other hother hmem
        · exact hnames.1 hother
      have hrest : SameMembers (names.zip values)
            (before ++ [(name, value')] ++ names.zip values') ↔
          List.Forall₂ Same values values' :=
        ih _ hnames.2 hnew (Nat.succ.inj hlength) (Nat.succ.inj hlength')
      rw [List.append_assoc, List.singleton_append] at hrest
      rw [List.zip_cons_cons, List.zip_cons_cons, SameMembers, hmember, hrest, List.forall₂_cons]

/-- Two dictionaries with one list of names are the same exactly if their values are. -/
theorem same_object_zip_iff {names : List String} {values values' : List Json}
    (hnames : names.Nodup) (hlength : names.length = values.length)
    (hlength' : names.length = values'.length) :
    Same (.object (names.zip values)) (.object (names.zip values')) ↔
      List.Forall₂ Same values values' := by
  have hmembers := sameMembers_zip_iff [] hnames (fun _ _ => List.not_mem_nil) hlength hlength'
  rw [List.nil_append] at hmembers
  rw [Same, ← hmembers]
  constructor
  · rintro ⟨_, heq, -, h⟩
    rw [Json.object.inj heq]
    exact h
  · intro h
    refine ⟨_, rfl, ?_, h⟩
    rw [List.length_zip, List.length_zip, ← hlength, ← hlength']

/-! ### Values that may be missing -/

theorem unique_optional {α : Type} (toJson : α → Json) (h : ∀ a, Unique (toJson a))
    (value : Option α) : Unique (optional toJson value) := by
  cases value with
  | none => exact trivial
  | some a => exact h a

theorem same_null_iff {v : Json} : Same v .null ↔ v = .null := by
  cases v <;> simp [Same]

/-- A value that may be missing, when one that is there is not `null`. -/
theorem same_optional_iff {α : Type} {toJson : α → Json} (hnull : ∀ a, toJson a ≠ .null)
    (hsame : ∀ a b, Same (toJson a) (toJson b) ↔ a = b) {value other : Option α} :
    Same (optional toJson value) (optional toJson other) ↔ value = other := by
  cases value with
  | none =>
      cases other with
      | none => exact iff_of_true rfl rfl
      | some b => exact iff_of_false (hnull b) (Option.some_ne_none b).symm
  | some a =>
      cases other with
      | none =>
          rw [optional, optional, same_null_iff]
          exact iff_of_false (hnull a) (Option.some_ne_none a)
      | some b => exact (hsame a b).trans Option.some_inj.symm

end Json
