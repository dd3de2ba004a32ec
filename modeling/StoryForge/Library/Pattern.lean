import StoryForge.Library.Regex
import StoryForge.Library.Substitution

/-!
# Patterns with a hidden part

A pattern is an expression of three parts. A substitution with it keeps what the first and the
last part have read, and puts a mask in the place of what the one in the middle has.

## Main results

* `Regex.replaceAt_of_many` — what is found where the hidden part is a repetition;
* `Regex.alike_of_many` — what is found before two texts that begin in the class of the
  repetition is alike;
* `Regex.out_of_replaceAt` — a replacement ends with the mask.
-/

namespace Regex

/-! ### Patterns -/

/-- An expression of three parts, of which the one in the middle is hidden. -/
structure Pattern where
  kept : Regex
  hidden : Regex
  closing : Regex

/-- The first way to read a text, by what is left behind each part. -/
def Pattern.first (pattern : Pattern) (text : List Char) :
    Option (List Char × List Char × List Char) :=
  (pattern.kept.rests text).findSome? fun a =>
    (pattern.hidden.rests a).findSome? fun b =>
      (pattern.closing.rests b).head?.map fun c => (a, b, c)

/-- What replaces the beginning of a text, with a mask for the part that is hidden. -/
def Pattern.replaceAt (pattern : Pattern) (mask text : List Char) :
    Option (List Char × List Char) :=
  (pattern.first text).map fun found =>
    (text.take (text.length - found.1.length) ++ mask ++
      found.2.1.take (found.2.1.length - found.2.2.length), found.2.2)

/-- A text has no character, or one of a class first. -/
def startsIn (cls : Char → Bool) (text : List Char) : Bool := text.head?.all cls

variable {x t v mask text : List Char} {cls : Char → Bool} {kept hidden : Regex}

theorem take_length_sub_append (h : v.length ≤ t.length) :
    (t ++ x).take ((t ++ x).length - (v ++ x).length) = t.take (t.length - v.length) := by
  rw [List.length_append, List.length_append, Nat.add_sub_add_right, List.take_append_of_le_length]
  omega

/-- What replaces a match ends with the mask, before which comes a beginning of the text. -/
theorem out_of_replaceAt {out rest : List Char}
    (h : Pattern.replaceAt ⟨kept, hidden, word []⟩ mask text = some (out, rest)) :
    ∃ begun, out = begun ++ mask ∧ begun <+: text ∧ begun.length + rest.length ≤ text.length := by
  obtain ⟨⟨a, b, c⟩, hfirst, heq⟩ := Option.map_eq_some_iff.mp h
  obtain ⟨place, hplace, hbehind⟩ := List.exists_of_findSome?_eq_some hfirst
  obtain ⟨other, hother, hclosing⟩ := List.exists_of_findSome?_eq_some hbehind
  obtain ⟨last, hlast, hfound⟩ := Option.map_eq_some_iff.mp hclosing
  obtain ⟨rfl, hends⟩ := Prod.mk.inj hfound
  obtain ⟨rfl, rfl⟩ := Prod.mk.inj hends
  obtain rfl : other = last := Option.some.inj hlast
  obtain ⟨rfl, rfl⟩ := Prod.mk.inj heq
  have hle := (suffix_of_mem_rests hother).length_le
  have hplacele := (suffix_of_mem_rests hplace).length_le
  refine ⟨text.take (text.length - place.length), ?_, List.take_prefix _ _, ?_⟩
  · rw [Nat.sub_self, List.take_zero, List.append_nil]
  · rw [List.length_take]
    change _ + other.length ≤ _
    omega

/-- What a pattern finds that hides all of it. -/
theorem replaceAt_of_hidden (text : List Char) :
    Pattern.replaceAt ⟨word [], hidden, word []⟩ mask text =
      (hidden.rests text).head?.map fun rest => (mask, rest) := by
  rw [Pattern.replaceAt, Pattern.first, rests_word, readWord, Option.toList_some,
    List.findSome?_singleton]
  cases hidden.rests text with
  | nil => rfl
  | cons rest others => simp [rests, readWord]

theorem findSome?_congr {α β : Type*} {f g : α → Option β} {places : List α}
    (h : ∀ v ∈ places, f v = g v) : places.findSome? f = places.findSome? g := by
  induction places with
  | nil => rfl
  | cons v places ih =>
      rw [List.findSome?_cons, List.findSome?_cons, h v List.mem_cons_self,
        ih fun v hv => h v (List.mem_cons_of_mem _ hv)]

/-- Finding in several places is alike if it is alike in each of them. -/
theorem alike_findSome? {f g : List Char → Option (List Char × List Char)}
    {places : List (List Char)} (h : ∀ v ∈ places, Alike t x y xEnd yEnd (f v) (g v)) :
    Alike t x y xEnd yEnd (places.findSome? f) (places.findSome? g) := by
  induction places with
  | nil => exact .none
  | cons v places ih =>
      have hv := h v List.mem_cons_self
      have ih := ih fun v hv => h v (List.mem_cons_of_mem _ hv)
      rw [List.findSome?_cons, List.findSome?_cons]
      generalize f v = fv at hv
      generalize g v = gv at hv
      cases hv with
      | none => exact ih
      | inside out w shorter => exact .inside out w shorter
      | across out => exact .across out

/-- A repetition reads something where a text starts in its class. -/
theorem one_le_takeWhile_iff (hx : v = [] → ∃ c, x.head? = some c ∧ cls c = true) :
    1 ≤ ((v ++ x).takeWhile cls).length ↔ startsIn cls v = true := by
  cases v with
  | nil =>
      obtain ⟨c, hhead, hcls⟩ := hx rfl
      cases x with
      | nil => contradiction
      | cons d x =>
          obtain rfl := Option.some.inj hhead
          simp [startsIn, hcls]
  | cons d v =>
      cases hd : cls d with
      | false => simp [startsIn, hd]
      | true => simp [startsIn, hd]

/-- The first way to read a repetition at one of several places. -/
theorem findSome?_readMany {places : List (List Char)}
    (hx : places.find? (startsIn cls) = some [] → ∃ c, x.head? = some c ∧ cls c = true) :
    ((places.map (· ++ x)).findSome? fun a => (readMany cls 1 a).findSome? fun b =>
        ((word []).rests b).head?.map fun c => (a, b, c)) =
      (places.find? (startsIn cls)).map fun v =>
        (v ++ x, (v ++ x).dropWhile cls, (v ++ x).dropWhile cls) := by
  induction places with
  | nil => rfl
  | cons v places ih =>
      have hhead : ((readMany cls 1 (v ++ x)).findSome? fun b =>
          ((word []).rests b).head?.map fun c => (v ++ x, b, c)) =
          (readMany cls 1 (v ++ x)).head?.map fun b => (v ++ x, b, b) := by
        cases readMany cls 1 (v ++ x) <;> rfl
      have hnil : v = [] → ∃ c, x.head? = some c ∧ cls c = true := by
        rintro rfl
        exact hx rfl
      rw [List.map_cons, List.findSome?_cons, List.find?_cons, hhead, head?_readMany]
      by_cases hstarts : startsIn cls v = true
      · rw [if_pos ((one_le_takeWhile_iff hnil).mpr hstarts), hstarts]
        rfl
      · rw [List.find?_cons_of_neg hstarts] at hx
        rw [if_neg fun hle => hstarts ((one_le_takeWhile_iff hnil).mp hle),
          Bool.eq_false_iff.mpr hstarts]
        exact ih hx

/-- What a pattern finds whose hidden part is a repetition: it begins at the first place where it
can, and takes all characters of its class. -/
theorem replaceAt_of_many (hkept : kept.rests (t ++ x) = (kept.rests t).map (· ++ x))
    (hx : (kept.rests t).find? (startsIn cls) = some [] →
      ∃ c, x.head? = some c ∧ cls c = true) :
    Pattern.replaceAt ⟨kept, many cls 1, word []⟩ mask (t ++ x) =
      ((kept.rests t).find? (startsIn cls)).map fun v =>
        (t.take (t.length - v.length) ++ mask, (v ++ x).dropWhile cls) := by
  rw [Pattern.replaceAt, Pattern.first, hkept]
  rw [show (fun a => ((many cls 1).rests a).findSome? fun b => ((word []).rests b).head?.map
    fun c => (a, b, c)) = fun a => (readMany cls 1 a).findSome? fun b =>
        ((word []).rests b).head?.map fun c => (a, b, c) from rfl,
    findSome?_readMany hx, Option.map_map]
  cases hfound : (kept.rests t).find? (startsIn cls) with
  | none => rfl
  | some v =>
      have hle : v.length ≤ t.length :=
        (suffix_of_mem_rests (List.mem_of_find?_eq_some hfound)).length_le
      simp only [Option.map_some, Function.comp_apply, take_length_sub_append hle]
      simp

theorem length_dropWhile_lt (hstarts : startsIn cls v = true) (hne : v ≠ []) :
    (v.dropWhile cls).length < v.length := by
  cases v with
  | nil => exact absurd rfl hne
  | cons d v =>
      have hd : cls d = true := hstarts
      rw [List.dropWhile_cons_of_pos hd, List.length_cons]
      exact Nat.lt_succ_of_le (List.dropWhile_sublist cls).length_le

/-- What such a pattern finds where its first way to begin leaves a text of the class. -/
theorem replaceAt_of_head {a : List Char} {others : List (List Char)}
    (hkept : kept.rests text = a :: others) (ha : ∃ c, a.head? = some c ∧ cls c = true) :
    Pattern.replaceAt ⟨kept, many cls 1, word []⟩ mask text =
      some (text.take (text.length - a.length) ++ mask, a.dropWhile cls) := by
  have hread : 1 ≤ (a.takeWhile cls).length :=
    (one_le_takeWhile_iff (v := []) fun _ => ha).mpr rfl
  have hhead : ((readMany cls 1 a).findSome? fun b =>
      ((word []).rests b).head?.map fun c => (a, b, c)) =
      some (a, a.dropWhile cls, a.dropWhile cls) := by
    have hfirst : (readMany cls 1 a).head? = some (a.dropWhile cls) := by
      rw [head?_readMany, if_pos hread]
    cases hmany : readMany cls 1 a with
    | nil => rw [hmany] at hfirst; contradiction
    | cons b bs =>
        rw [hmany] at hfirst
        obtain rfl := Option.some.inj hfirst
        rfl
  rw [Pattern.replaceAt, Pattern.first, hkept, List.findSome?_cons]
  rw [show (many cls 1).rests a = readMany cls 1 a from rfl, hhead]
  simp

/-- What such a pattern finds before two texts is alike. -/
theorem alike_of_many {y : List Char}
    (hkeptx : kept.rests (t ++ x) = (kept.rests t).map (· ++ x))
    (hkepty : kept.rests (t ++ y) = (kept.rests t).map (· ++ y))
    (hx : ∃ c, x.head? = some c ∧ cls c = true) (hy : ∃ c, y.head? = some c ∧ cls c = true) :
    Alike t x y (x.dropWhile cls) (y.dropWhile cls)
      (Pattern.replaceAt ⟨kept, many cls 1, word []⟩ mask (t ++ x))
      (Pattern.replaceAt ⟨kept, many cls 1, word []⟩ mask (t ++ y)) := by
  rw [replaceAt_of_many hkeptx fun _ => hx, replaceAt_of_many hkepty fun _ => hy]
  cases hfound : (kept.rests t).find? (startsIn cls) with
  | none => exact .none
  | some v =>
      have hle := (suffix_of_mem_rests (List.mem_of_find?_eq_some hfound)).length_le
      have hstarts : startsIn cls v = true := by simpa using List.find?_some hfound
      simp only [Option.map_some, List.dropWhile_append]
      cases hrest : v.dropWhile cls with
      | nil => exact .across _
      | cons c rest =>
          have hne : v ≠ [] := by
            rintro rfl
            contradiction
          refine .inside _ (c :: rest) ?_
          rw [← hrest]
          exact (length_dropWhile_lt hstarts hne).trans_le hle

/-- The same where the texts begin with a character of the class behind which the expression cannot
read on. -/
theorem alike_of_many_cons {y : List Char} {d : Char} (hd : cls d = true)
    (hkeptx : kept.rests (t ++ [d] ++ x) = (kept.rests (t ++ [d])).map (· ++ x))
    (hkepty : kept.rests (t ++ [d] ++ y) = (kept.rests (t ++ [d])).map (· ++ y))
    (hx : ∃ c, x.head? = some c ∧ cls c = true) (hy : ∃ c, y.head? = some c ∧ cls c = true) :
    Alike t (d :: x) (d :: y) (x.dropWhile cls) (y.dropWhile cls)
      (Pattern.replaceAt ⟨kept, many cls 1, word []⟩ mask (t ++ d :: x))
      (Pattern.replaceAt ⟨kept, many cls 1, word []⟩ mask (t ++ d :: y)) := by
  rw [List.append_cons t d x, List.append_cons t d y, replaceAt_of_many hkeptx fun _ => hx,
    replaceAt_of_many hkepty fun _ => hy]
  cases hfound : (kept.rests (t ++ [d])).find? (startsIn cls) with
  | none => exact .none
  | some v =>
      have hsuffix := suffix_of_mem_rests (List.mem_of_find?_eq_some hfound)
      have hstarts : startsIn cls v = true := by simpa using List.find?_some hfound
      simp only [Option.map_some]
      rcases List.eq_nil_or_concat' v with rfl | ⟨v, e, rfl⟩
      · exact .across _
      · -- what is left ends with the character that the texts begin with
        obtain ⟨w, hw⟩ := hsuffix
        rw [← List.append_assoc] at hw
        obtain ⟨rfl, he⟩ := List.append_inj' hw rfl
        obtain rfl := List.singleton_inj.mp he
        have hle : v.length ≤ (w ++ v).length := by
          rw [List.length_append]
          exact Nat.le_add_left _ _
        rw [← List.append_cons v e x, ← List.append_cons v e y, List.dropWhile_append,
          List.dropWhile_append]
        cases hrest : v.dropWhile cls with
        | nil =>
            simp only [List.isEmpty_nil, if_true, List.dropWhile_cons_of_pos hd]
            exact .across _
        | cons c rest =>
            have hne : v ≠ [] := by
              rintro rfl
              contradiction
            have hstartsv : startsIn cls v = true := by
              cases v with
              | nil => exact absurd rfl hne
              | cons _ _ => exact hstarts
            refine .inside _ (c :: rest) ?_
            rw [← hrest]
            exact (length_dropWhile_lt hstartsv hne).trans_le hle

end Regex
