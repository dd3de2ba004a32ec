import Mathlib.Logic.Basic

/-!
# Selections

Items belong to groups. A group may point to one of its items as the chosen one, and items
may carry a mark. A `Selection` holds both representations of the same choice; they agree
when the marked items are exactly the items pointed to.

## Main results

* `Agrees.eq_of_marked` — the chosen item is the only marked item of its group;
* `Agrees.kept` — changes that keep pointers and marks, and may add unmarked items, keep
  agreement;
* `Agrees.chose` — pointing a group to an item keeps agreement when the mark moves with it.
-/

universe u v

/-- Groups that point to items, and items that are marked. `group` is `none` for an item
that does not exist. -/
structure Selection (γ : Type u) (ι : Type v) where
  group : ι → Option γ
  chosen : γ → Option ι
  marked : ι → Prop

namespace Selection

variable {γ : Type u} {ι : Type v} {s s' : Selection γ ι} {c : γ} {i j : ι}

/-- Pointers stay inside their group, and marks and pointers say the same. -/
structure Agrees (s : Selection γ ι) : Prop where
  valid : ∀ c i, s.chosen c = some i → s.group i = some c
  marked_iff : ∀ i, s.marked i ↔ ∃ c, s.chosen c = some i

/-- A marked item is the one its group points to. -/
theorem Agrees.chosen_of_marked (h : s.Agrees) (hi : s.marked i) (hc : s.group i = some c) :
    s.chosen c = some i := by
  obtain ⟨d, hd⟩ := (h.marked_iff i).mp hi
  have hgroup := h.valid d i hd
  rw [hc] at hgroup
  obtain rfl := Option.some.inj hgroup
  exact hd

theorem Agrees.marked_of_chosen (h : s.Agrees) (hi : s.chosen c = some i) : s.marked i :=
  (h.marked_iff i).mpr ⟨c, hi⟩

/-- The chosen item is the only marked item of its group. -/
theorem Agrees.eq_of_marked (h : s.Agrees) (hi : s.chosen c = some i) (hj : s.marked j)
    (hc : s.group j = some c) : j = i := by
  have hchosen := h.chosen_of_marked hj hc
  rw [hi] at hchosen
  exact (Option.some.inj hchosen).symm

/-- Nothing was chosen or unchosen, and no item changed its group. -/
structure Kept (s s' : Selection γ ι) : Prop where
  group : ∀ i c, s.group i = some c → s'.group i = some c
  chosen : ∀ c, s'.chosen c = s.chosen c
  marked : ∀ i, s'.marked i ↔ s.marked i

theorem Agrees.kept (h : s.Agrees) (hkept : s.Kept s') : s'.Agrees where
  valid c i hi := hkept.group i c (h.valid c i (hkept.chosen c ▸ hi))
  marked_iff i := by
    rw [hkept.marked, h.marked_iff]
    exact exists_congr fun c => by rw [hkept.chosen]

/-- Group `c` was pointed to its item `i`, and the mark moved there. -/
structure Chose (s s' : Selection γ ι) (c : γ) (i : ι) : Prop where
  group : ∀ j d, s.group j = some d → s'.group j = some d
  member : s.group i = some c
  chosen : s'.chosen c = some i
  others : ∀ d, d ≠ c → s'.chosen d = s.chosen d
  marked : ∀ j, s'.marked j ↔ j = i ∨ s.marked j ∧ s.chosen c ≠ some j

theorem Agrees.chose (h : s.Agrees) (hchose : s.Chose s' c i) : s'.Agrees where
  valid d j hj := by
    by_cases hd : d = c
    · subst hd
      rw [hchose.chosen] at hj
      obtain rfl := Option.some.inj hj
      exact hchose.group _ _ hchose.member
    · rw [hchose.others d hd] at hj
      exact hchose.group j d (h.valid d j hj)
  marked_iff j := by
    rw [hchose.marked]
    constructor
    · rintro (rfl | ⟨hj, hne⟩)
      · exact ⟨c, hchose.chosen⟩
      · obtain ⟨d, hd⟩ := (h.marked_iff j).mp hj
        have hdc : d ≠ c := fun heq => hne (heq ▸ hd)
        exact ⟨d, (hchose.others d hdc).trans hd⟩
    · rintro ⟨d, hd⟩
      by_cases hdc : d = c
      · subst hdc
        rw [hchose.chosen] at hd
        exact .inl (Option.some.inj hd).symm
      · rw [hchose.others d hdc] at hd
        refine .inr ⟨h.marked_of_chosen hd, fun hj => hdc ?_⟩
        exact Option.some.inj ((h.valid d j hd).symm.trans (h.valid c j hj))

end Selection
