import Mathlib.Data.List.Basic
import Mathlib.Data.List.DropRight

/-!
# Texts up to blanks

A text is a list of characters of which some are blank. Two texts have the same ink when they
differ only in blanks. Stripping a text, cutting it into pieces and joining pieces with blanks
keep the ink.

## Main results

* `Text.ink_strip` — stripping keeps the ink;
* `Text.strip_eq_nil` — only blank texts are stripped to nothing;
* `Text.flatten_slices` — the slices of a text make up the text.
-/

universe u

namespace Text

variable {α : Type u}

/-! ### Ink -/

section Ink

variable (blank : α → Bool)

/-- What is left of a text without its blanks. -/
def ink (text : List α) : List α := text.filter fun c => !blank c

/-- `text.strip()`. -/
def strip (text : List α) : List α :=
  ((text.dropWhile blank).reverse.dropWhile blank).reverse

variable {blank}

@[simp] theorem ink_nil : ink blank [] = [] := rfl

@[simp] theorem ink_append (a b : List α) : ink blank (a ++ b) = ink blank a ++ ink blank b :=
  List.filter_append a b

theorem ink_cons_of_blank {c : α} (h : blank c = true) (rest : List α) :
    ink blank (c :: rest) = ink blank rest :=
  List.filter_cons_of_neg (by simp [h])

theorem ink_cons_of_not {c : α} (h : blank c = false) (rest : List α) :
    ink blank (c :: rest) = c :: ink blank rest :=
  List.filter_cons_of_pos (by simp [h])

theorem ink_reverse (text : List α) : ink blank text.reverse = (ink blank text).reverse :=
  List.filter_reverse

theorem ink_flatten (texts : List (List α)) :
    ink blank texts.flatten = (texts.map (ink blank)).flatten := by
  induction texts with
  | nil => rfl
  | cons text rest ih => rw [List.flatten_cons, ink_append, ih, List.map_cons, List.flatten_cons]

theorem ink_eq_nil {text : List α} : ink blank text = [] ↔ ∀ c ∈ text, blank c = true := by
  simp [ink]

theorem ink_of_blank {text : List α} (h : ∀ c ∈ text, blank c = true) : ink blank text = [] :=
  ink_eq_nil.mpr h

theorem ink_dropWhile (text : List α) : ink blank (text.dropWhile blank) = ink blank text := by
  induction text with
  | nil => rfl
  | cons c rest ih =>
      cases hc : blank c with
      | true => rw [List.dropWhile_cons_of_pos hc, ih, ink_cons_of_blank hc]
      | false => rw [List.dropWhile_cons_of_neg (by simp [hc])]

/-- Stripping keeps the ink. -/
@[simp] theorem ink_strip (text : List α) : ink blank (strip blank text) = ink blank text := by
  rw [strip, ink_reverse, ink_dropWhile, ink_reverse, List.reverse_reverse, ink_dropWhile]

/-- Stripping removes blanks only. -/
theorem length_strip_le (text : List α) : (strip blank text).length ≤ text.length := by
  rw [strip, List.length_reverse]
  refine le_trans (List.dropWhile_suffix blank).length_le ?_
  rw [List.length_reverse]
  exact (List.dropWhile_suffix blank).length_le

/-- The blanks that a text starts with. -/
theorem blank_of_mem_take {text : List α} {size : ℕ}
    (h : size ≤ (text.takeWhile blank).length) : ∀ c ∈ text.take size, blank c = true := by
  intro c hc
  rw [← List.takeWhile_append_dropWhile (p := blank) (l := text),
    List.take_append_of_le_length h] at hc
  exact List.mem_takeWhile_imp (List.mem_of_mem_take hc)

/-- A text without blanks is stripped already. -/
theorem strip_eq_self {text : List α} (h : ∀ c ∈ text, blank c = false) :
    strip blank text = text := by
  have hdrop : ∀ text : List α, (∀ c ∈ text, blank c = false) → text.dropWhile blank = text := by
    intro text h
    cases text with
    | nil => rfl
    | cons c rest => exact List.dropWhile_cons_of_neg (by simp [h c List.mem_cons_self])
  rw [strip, hdrop text h, hdrop _ fun c hc => h c (List.mem_reverse.mp hc), List.reverse_reverse]

/-- Only blank texts are stripped to nothing. -/
theorem strip_eq_nil {text : List α} : strip blank text = [] ↔ ink blank text = [] := by
  constructor
  · intro h
    rw [← ink_strip, h, ink_nil]
  · intro h
    have hall : ∀ c ∈ text, blank c = true := ink_eq_nil.mp h
    rw [strip, List.dropWhile_eq_nil_iff.mpr hall]
    rfl

/-- What is left of a stripped text is not blank. -/
theorem ink_strip_ne_nil {text : List α} (h : strip blank text ≠ []) :
    ink blank (strip blank text) ≠ [] := by
  rw [ink_strip]
  exact fun hnil => h (strip_eq_nil.mpr hnil)

/-- The pieces of a text that are not blank, each stripped, have the ink of the text. -/
theorem ink_stripped (texts : List (List α)) :
    ink blank ((texts.map (strip blank)).filter (· ≠ [])).flatten = ink blank texts.flatten := by
  induction texts with
  | nil => rfl
  | cons text rest ih =>
      rw [List.map_cons, List.flatten_cons, ink_append, ← ih]
      by_cases hnil : strip blank text = []
      · rw [List.filter_cons_of_neg (by simp [hnil]), strip_eq_nil.mp hnil, List.nil_append]
      · rw [List.filter_cons_of_pos (by simp [hnil]), List.flatten_cons, ink_append, ink_strip]

end Ink

/-! ### Slices -/

/-- `[text[start : start + size] for start in range(0, len(text), size)]`. -/
def slices (size : ℕ) (text : List α) : List (List α) :=
  (List.range ((text.length + size - 1) / size)).map fun index =>
    (text.drop (index * size)).take size

theorem flatten_map_range (size : ℕ) (text : List α) (count : ℕ) :
    ((List.range count).map fun index => (text.drop (index * size)).take size).flatten =
      text.take (count * size) := by
  induction count with
  | zero => simp
  | succ count ih =>
      rw [List.range_succ, List.map_append, List.flatten_append, ih, Nat.succ_mul, List.take_add]
      simp

/-- The slices of a text make up the text. -/
theorem flatten_slices {size : ℕ} (h : 0 < size) (text : List α) :
    (slices size text).flatten = text := by
  rw [slices, flatten_map_range]
  refine List.take_of_length_le ?_
  have hdiv := Nat.div_add_mod (text.length + size - 1) size
  have hmod := Nat.mod_lt (text.length + size - 1) h
  rw [Nat.mul_comm]
  omega

/-- Slices are no longer than their size. -/
theorem length_le_of_mem_slices {size : ℕ} {text piece : List α} (h : piece ∈ slices size text) :
    piece.length ≤ size := by
  obtain ⟨index, -, rfl⟩ := List.mem_map.mp h
  exact List.length_take_le _ _

end Text
