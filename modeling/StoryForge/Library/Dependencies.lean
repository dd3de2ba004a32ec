import Mathlib.Logic.Relation
import Mathlib.Order.WellFoundedSet

/-!
# Dependencies

Elements require others. Requirements are acyclic if no element requires itself, through others
or not. Then of finitely many elements that are left, one requires none of the others.

## Main results

* `Acyclic.exists_ready` — an element without requirements among those that are left;
* `acyclic_of_acc` — requirements are acyclic if all elements can be reached from below.
-/

universe u

namespace Dependencies

open Relation

variable {α : Type u} {requires : α → α → Prop}

/-- No element requires itself, through others or not. -/
def Acyclic (requires : α → α → Prop) : Prop := ∀ a, ¬ TransGen requires a a

/-- Of finitely many elements that are left, one requires none of the others. -/
theorem Acyclic.exists_ready (h : Acyclic requires) {left : List α} (hne : left ≠ []) :
    ∃ a ∈ left, ∀ b, requires a b → b ∉ left := by
  have hirrefl : Std.Irrefl fun b a : α => TransGen requires a b := ⟨h⟩
  have htrans : IsTrans α fun b a : α => TransGen requires a b :=
    ⟨fun _ _ _ hab hbc => hbc.trans hab⟩
  have hwf : {a | a ∈ left}.WellFoundedOn fun b a : α => TransGen requires a b := by
    have horder : IsStrictOrder α fun b a : α => TransGen requires a b := ⟨⟩
    exact (List.finite_toSet left).wellFoundedOn
  obtain ⟨a, ha⟩ := List.exists_mem_of_ne_nil left hne
  obtain ⟨least, -, hleast⟩ := hwf.has_min Set.univ ⟨⟨a, ha⟩, trivial⟩
  exact ⟨least, least.2, fun b hb hmem => hleast ⟨b, hmem⟩ trivial (.single hb)⟩

/-- An element that is reached from below does not require itself. -/
theorem not_transGen_of_acc {a : α} (h : Acc (fun b a => requires a b) a) :
    ¬ TransGen requires a a := by
  induction h with
  | intro a _ ih =>
      intro hcycle
      obtain ⟨b, hab, hba⟩ := TransGen.head'_iff.mp hcycle
      exact ih b hab (TransGen.tail' hba hab)

/-- Requirements are acyclic if all elements that require others are reached from below. -/
theorem acyclic_of_acc (h : ∀ a b, requires a b → Acc (fun b a => requires a b) a) :
    Acyclic requires := by
  intro a hcycle
  obtain ⟨b, hab, -⟩ := TransGen.head'_iff.mp hcycle
  exact not_transGen_of_acc (h a b hab) hcycle

end Dependencies
