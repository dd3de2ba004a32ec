import Mathlib.Data.Int.Basic
import Mathlib.Data.List.Basic

/-!
# Texts of lists of integers

A list of integers is written as its decimal texts between brackets, with a comma and a blank
between two of them. The list can be read back from the text.

## Main results

* `Listing.digits_injective` — different integers have different texts;
* `Listing.text_injective` — and so have different lists.
-/

namespace Listing

/-- `str(number)`. -/
def digits (number : ℤ) : List Char :=
  (if number < 0 then ['-'] else []) ++ Nat.toDigits 10 number.natAbs

/-- `", ".join(texts)`. -/
def join : List (List Char) → List Char
  | [] => []
  | [text] => text
  | text :: next :: rest => text ++ ',' :: ' ' :: join (next :: rest)

/-- `str(numbers)`. -/
def text (numbers : List ℤ) : List Char := '[' :: join (numbers.map digits) ++ [']']

/-- The text of an integer has digits in it, and perhaps a sign. -/
theorem mem_digits {number : ℤ} {c : Char} (h : c ∈ digits number) :
    c = '-' ∨ c.isDigit = true := by
  rcases List.mem_append.mp h with hsign | hdigit
  · split at hsign
    · exact .inl (List.mem_singleton.mp hsign)
    · contradiction
  · exact .inr (Nat.isDigit_of_mem_toDigits (by decide) (by decide) hdigit)

theorem digits_ne_nil (number : ℤ) : digits number ≠ [] :=
  List.append_ne_nil_of_right_ne_nil _ Nat.toDigits_ne_nil

theorem not_mem_digits {number : ℤ} {c : Char} (hsign : c ≠ '-') (hdigit : c.isDigit = false) :
    c ∉ digits number := by
  intro h
  rcases mem_digits h with heq | hisDigit
  · exact hsign heq
  · rw [hdigit] at hisDigit
    contradiction

theorem toDigits_injective : Function.Injective (Nat.toDigits 10) := by
  intro a b h
  rw [← Nat.ofDigitChars_ten_toDigits (n := a), h, Nat.ofDigitChars_ten_toDigits]

/-- A number without a sign does not begin with one. -/
theorem sign_ne_toDigits (a b : ℕ) : '-' :: Nat.toDigits 10 a ≠ Nat.toDigits 10 b := by
  intro h
  have hmem : '-' ∈ Nat.toDigits 10 b := h ▸ List.mem_cons_self
  exact absurd (Nat.isDigit_of_mem_toDigits (by decide) (by decide) hmem) (by decide)

/-- Different integers have different texts. -/
theorem digits_injective : Function.Injective digits := by
  intro a b h
  unfold digits at h
  by_cases ha : a < 0
  · rw [if_pos ha] at h
    by_cases hb : b < 0
    · rw [if_pos hb] at h
      have habs := toDigits_injective (List.cons_inj_right _ |>.mp h)
      omega
    · rw [if_neg hb] at h
      exact absurd h (sign_ne_toDigits _ _)
  · rw [if_neg ha] at h
    by_cases hb : b < 0
    · rw [if_pos hb] at h
      exact absurd h.symm (sign_ne_toDigits _ _)
    · rw [if_neg hb] at h
      have habs := toDigits_injective h
      omega

/-- A text can be cut at the first place of a mark. -/
theorem cut_injective {α : Type*} {mark : α} {before before' after after' : List α}
    (h : mark ∉ before) (h' : mark ∉ before')
    (heq : before ++ mark :: after = before' ++ mark :: after') :
    before = before' ∧ after = after' := by
  induction before generalizing before' with
  | nil =>
      cases before' with
      | nil => exact ⟨rfl, (List.cons.inj heq).2⟩
      | cons c rest => exact absurd ((List.cons.inj heq).1 ▸ List.mem_cons_self) h'
  | cons c rest ih =>
      cases before' with
      | nil => exact absurd ((List.cons.inj heq).1 ▸ List.mem_cons_self) h
      | cons c' rest' =>
          obtain ⟨rfl, htail⟩ := List.cons.inj heq
          obtain ⟨rfl, hafter⟩ := ih (fun hmem => h (List.mem_cons_of_mem _ hmem))
            (fun hmem => h' (List.mem_cons_of_mem _ hmem)) htail
          exact ⟨rfl, hafter⟩

/-- Texts without commas can be read back. -/
theorem join_injective {texts others : List (List Char)}
    (h : ∀ text ∈ texts, ',' ∉ text ∧ text ≠ []) (h' : ∀ text ∈ others, ',' ∉ text ∧ text ≠ [])
    (heq : join texts = join others) : texts = others := by
  have hcomma : ∀ {text next : List Char} {rest : List (List Char)},
      ',' ∈ join (text :: next :: rest) :=
    List.mem_append_right _ List.mem_cons_self
  induction texts generalizing others with
  | nil =>
      rcases others with _ | ⟨text, _ | ⟨next, rest⟩⟩
      · rfl
      · exact absurd heq.symm (h' text List.mem_cons_self).2
      · exact absurd (heq ▸ hcomma) List.not_mem_nil
  | cons text rest ih =>
      rcases others with _ | ⟨other, others⟩
      · rcases rest with _ | ⟨next, rest⟩
        · exact absurd heq (h text List.mem_cons_self).2
        · exact absurd (heq ▸ hcomma) List.not_mem_nil
      · have htext := (h text List.mem_cons_self).1
        have hother := (h' other List.mem_cons_self).1
        rcases rest with _ | ⟨next, rest⟩
        · rcases others with _ | ⟨next', others⟩
          · exact congrArg (fun only => [only]) heq
          · exact absurd (heq.symm ▸ hcomma : ',' ∈ join [text]) htext
        · rcases others with _ | ⟨next', others⟩
          · exact absurd (heq ▸ hcomma : ',' ∈ join [other]) hother
          · rw [join, join] at heq
            obtain ⟨rfl, hafter⟩ := cut_injective htext hother heq
            rw [ih (fun text hmem => h text (List.mem_cons_of_mem _ hmem))
              (fun text hmem => h' text (List.mem_cons_of_mem _ hmem)) (List.cons.inj hafter).2]

/-- Different lists have different texts. -/
theorem text_injective : Function.Injective text := by
  intro numbers others h
  have hjoin : join (numbers.map digits) = join (others.map digits) :=
    List.append_cancel_right (List.cons_inj_right _ |>.mp h)
  have hplain : ∀ numbers : List ℤ, ∀ text ∈ numbers.map digits, ',' ∉ text ∧ text ≠ [] := by
    intro numbers text htext
    obtain ⟨number, -, rfl⟩ := List.mem_map.mp htext
    exact ⟨not_mem_digits (by decide) (by decide), digits_ne_nil number⟩
  exact List.map_injective_iff.mpr digits_injective (join_injective (hplain _) (hplain _) hjoin)

/-- A text of integers has only their characters in it. -/
theorem not_mem_join {texts : List (List Char)} {c : Char} (h : ∀ text ∈ texts, c ∉ text)
    (hcomma : c ≠ ',') (hblank : c ≠ ' ') : c ∉ join texts := by
  induction texts with
  | nil => exact List.not_mem_nil
  | cons text rest ih =>
      have htext := h text List.mem_cons_self
      have hrest := ih fun text hmem => h text (List.mem_cons_of_mem _ hmem)
      cases rest with
      | nil => exact htext
      | cons next rest =>
          rw [join]
          simp [htext, hcomma, hblank, hrest]

theorem colon_not_mem_text (numbers : List ℤ) : ':' ∉ text numbers := by
  have hjoin : ':' ∉ join (numbers.map digits) := by
    refine not_mem_join (fun text htext => ?_) (by decide) (by decide)
    obtain ⟨number, -, rfl⟩ := List.mem_map.mp htext
    exact not_mem_digits (by decide) (by decide)
  rw [text]
  simp [hjoin]

end Listing
