import StoryForge.Chapters.Models
import StoryForge.Library.Decimal
import StoryForge.Library.Text

/-!
# `FactNormalizer`

Facts are compared by normalized texts. The object of a fact is normalized as a number when it
is one, and else as words: folded, without punctuation. Texts are lists of characters here, and
what Python knows of characters is a parameter.

A number with a unit is normalized as words, so that it loses its point and keeps its sign and
zeros; a bare number is rounded to the digits of the decimal context. This module shows for which
pairs of quantities the normalized texts are equal exactly when the quantities are.

## Main results

* `numberText_eq_iff` — bare numbers have equal texts when sign and rounded number are equal;
* `normalizeObject_quantity` — what becomes of a number with a unit;
* `normalizedByValue_iff` — when equal quantities, and only those, are normalized alike;
* `quantities_merged` — a point that words lose.
-/

namespace StoryForge.Consistency

/-! ### Characters -/

/-- `BOOLEAN_VALUES`. -/
def booleanValues : List (List Char × List Char) :=
  [("alive", "alive"), ("surviving", "alive"), ("存活", "alive"), ("活着", "alive"),
    ("dead", "dead"), ("deceased", "dead"), ("死亡", "dead"), ("已死", "dead"),
    ("true", "true"), ("yes", "true"), ("是", "true"),
    ("false", "false"), ("no", "false"), ("否", "false")].map fun entry =>
      (entry.1.toList, entry.2.toList)

/-- `_PUNCTUATION_RE`, one character of it. -/
def isPunctuation (c : Char) : Bool :=
  isSpace c || [',', '，', '。', '.', '!', '！', '?', '？', ';', '；', ':', '：', '\'', '"',
    '“', '”', '‘', '’', '（', '）', '(', ')', '[', ']', '{', '}'].contains c

/-- A sign or a point. -/
def isSignOrPoint (c : Char) : Bool := c == '+' || c == '-' || c == '.'

/-- What Python knows of characters: the value of a decimal digit, as `\d` matches it, and the
text that a character is folded to. -/
structure CharacterTable where
  digit : Char → Option ℕ
  fold : Char → List Char
  digit_plain : ∀ c, (digit c).isSome = true → isPunctuation c = false ∧ isSignOrPoint c = false
  digit_word : ∀ entry ∈ booleanValues, ∀ c ∈ entry.1, digit c = none
  fold_self : ∀ c, (digit c).isSome = true ∨ isSignOrPoint c = true ∨ isSpace c = true →
    fold c = [c]
  fold_other : ∀ c, digit c = none → isSignOrPoint c = false →
    ∀ other ∈ fold c, digit other = none ∧ isSignOrPoint other = false
  fold_space : ∀ c, isSpace c = false → ∃ other ∈ fold c, isSpace other = false

namespace CharacterTable

variable (table : CharacterTable)

/-- `value.casefold()`. -/
def casefold (value : List Char) : List Char := value.flatMap table.fold

/-! ### Numbers -/

/-- A decimal literal: its sign, if it is written, and the digits before and after the point. -/
structure Literal where
  sign : Option Bool
  whole : List Char
  fraction : List Char
  deriving DecidableEq, Repr

namespace Literal

variable (literal : Literal)

/-- The sign as it is written. -/
def signText : List Char :=
  match literal.sign with
  | none => []
  | some false => ['+']
  | some true => ['-']

/-- The literal as it is written. -/
def text : List Char :=
  literal.signText ++ literal.whole ++
    if literal.fraction = [] then [] else '.' :: literal.fraction

/-- All digits. -/
def digits : List Char := literal.whole ++ literal.fraction

/-- Whether there is a minus. -/
def negative : Bool := literal.sign == some true

/-- The number without its sign. -/
def magnitude : ℚ :=
  (literal.digits.foldl (fun number c => 10 * number + (table.digit c).getD 0) 0 : ℕ) /
    10 ^ literal.fraction.length

/-- The number a literal denotes. -/
def value : ℚ := if literal.negative then -literal.magnitude table else literal.magnitude table

/-- There are digits before the point, and all digits are digits. -/
def Valid : Prop :=
  literal.whole ≠ [] ∧ ∀ c ∈ literal.digits, (table.digit c).isSome = true

instance : Decidable (literal.Valid table) :=
  decidable_of_iff
    (literal.whole ≠ [] ∧ (literal.digits.all fun c => (table.digit c).isSome) = true)
    (and_congr_right fun _ => List.all_eq_true)

end Literal

/-- `_NUMBER_RE.fullmatch`, after the sign. -/
def matchDigits (sign : Option Bool) (text : List Char) : Option Literal :=
  let whole := text.takeWhile fun c => (table.digit c).isSome
  if whole = [] then none
  else
    match text.dropWhile fun c => (table.digit c).isSome with
    | [] => some ⟨sign, whole, []⟩
    | '.' :: fraction =>
        if fraction ≠ [] ∧ fraction.all fun c => (table.digit c).isSome then
          some ⟨sign, whole, fraction⟩
        else none
    | _ => none

/-- `_NUMBER_RE.fullmatch`. -/
def matchNumber : List Char → Option Literal
  | '+' :: text => table.matchDigits (some false) text
  | '-' :: text => table.matchDigits (some true) text
  | text => table.matchDigits none text

/-- `text.rstrip(c)`. -/
def rstrip (c : Char) (text : List Char) : List Char :=
  (text.reverse.dropWhile (· == c)).reverse

/-- The text of a normalized number. -/
def numberText (negative : Bool) (number : ℕ × ℤ) : List Char :=
  let text := (if negative then ['-'] else []) ++ Decimal.fixed (Decimal.reduce number)
  let text := if '.' ∈ text then rstrip '.' (rstrip '0' text) else text
  if text = [] then ['0'] else text

/-! ### Normalization -/

/-- `normalize_subject`. -/
def normalizeSubject (value : List Char) : List Char :=
  Text.strip isSpace ((table.casefold value).filter fun c => !isPunctuation c)

/-- `PREDICATE_ALIASES`. -/
def predicateAliases : List (List Char × List Char) :=
  [("locatedat", "location"), ("isat", "location"), ("location", "location"),
    ("位于", "location"), ("在", "location"), ("owns", "possession"), ("carries", "possession"),
    ("possesses", "possession"), ("持有", "possession"), ("携带", "possession"),
    ("knows", "knowledge"), ("learned", "knowledge"), ("discovered", "knowledge"),
    ("知道", "knowledge"), ("得知", "knowledge"), ("revealed", "reveal"), ("reveal", "reveal"),
    ("揭示", "reveal"), ("state", "state"), ("状态", "state"), ("isalive", "alive"),
    ("alive", "alive"), ("timelineorder", "timeline_order"), ("sequence", "timeline_order"),
    ("eventstatus", "event_status"), ("uses", "use"), ("used", "use"), ("使用", "use"),
    ("transfers", "transfer"), ("transferred", "transfer"), ("转移", "transfer"),
    ("moves", "move"), ("travels", "move"), ("arrives", "arrive"), ("departs", "depart"),
    ("walks", "walk"), ("speaks", "speak"), ("attacks", "attack")].map fun entry =>
      (entry.1.toList, entry.2.toList)

/-- `normalize_predicate`. -/
def normalizePredicate (value : List Char) : List Char :=
  let normalized := (table.normalizeSubject value).filter (· != '_')
  (predicateAliases.lookup normalized).getD normalized

/-- An object that is not a number. -/
def wordText (value : List Char) : List Char :=
  let normalized := table.normalizeSubject value
  (booleanValues.lookup normalized).getD normalized

/-- `decimal.Overflow`. -/
def overflowError : Error := .other "Overflow" "above Emax"

/-- `normalize_object`. -/
def normalizeObject (value : List Char) : Except Error (List Char) :=
  match table.matchNumber ((table.casefold value).filter fun c => !isSpace c) with
  | some literal =>
      match Decimal.Context.default.round (literal.magnitude table) with
      | some number => .ok (numberText literal.negative number)
      | none => .error overflowError
  | none => .ok (table.wordText value)

/-! ### Bare numbers -/

theorem rstrip_concat {c last : Char} (h : last ≠ c) (text : List Char) :
    rstrip c (text ++ [last]) = text ++ [last] := by
  rw [rstrip, List.reverse_concat, List.dropWhile_cons_of_neg (by simpa using h),
    List.reverse_cons, List.reverse_reverse]

/-- A reduced number has nothing to strip. -/
theorem numberText_eq (negative : Bool) (number : ℕ × ℤ) :
    numberText negative number =
      (if negative then ['-'] else []) ++ Decimal.fixed (Decimal.reduce number) := by
  have hne : (if negative then ['-'] else []) ++ Decimal.fixed (Decimal.reduce number) ≠ [] :=
    List.append_ne_nil_of_right_ne_nil _ (Decimal.fixed_ne_nil _)
  unfold numberText
  dsimp only
  by_cases hpoint : '.' ∈ (if negative then ['-'] else []) ++
      Decimal.fixed (Decimal.reduce number)
  · have hfixed : '.' ∈ Decimal.fixed (Decimal.reduce number) := by
      rcases List.mem_append.mp hpoint with hsign | hfixed
      · split at hsign
        · exact absurd hsign (by decide)
        · contradiction
      · exact hfixed
    obtain ⟨text, last, htext, hzero, hpoint'⟩ :=
      Decimal.fixed_reduced (Decimal.reduced_reduce number) hfixed
    rw [if_pos hpoint, htext, ← List.append_assoc, rstrip_concat hzero, rstrip_concat hpoint',
      if_neg (by simp)]
  · rw [if_neg hpoint, if_neg hne]

/-- Bare numbers have equal texts when sign and rounded number are equal. -/
theorem numberText_eq_iff {negative negative' : Bool} {number number' : ℕ × ℤ} :
    numberText negative number = numberText negative' number' ↔
      negative = negative' ∧ Decimal.value number = Decimal.value number' := by
  rw [numberText_eq, numberText_eq, ← Decimal.fixed_reduce_eq_iff]
  have hminus : ∀ (number : ℕ × ℤ) (text : List Char),
      Decimal.fixed (Decimal.reduce number) ≠ '-' :: text := by
    intro number text h
    have hmem : '-' ∈ Decimal.fixed (Decimal.reduce number) := by rw [h]; simp
    rcases Decimal.mem_fixed hmem with hdigit | hpoint
    · exact absurd hdigit (by decide)
    · exact absurd hpoint (by decide)
  cases negative <;> cases negative'
  · simp
  · simpa using hminus number _
  · simpa using fun h => hminus number' _ h.symm
  · simp

/-! ### Literals -/

section Literals

variable {table}

theorem casefold_append (a b : List Char) :
    table.casefold (a ++ b) = table.casefold a ++ table.casefold b :=
  List.flatMap_append

theorem casefold_eq_self {value : List Char}
    (h : ∀ c ∈ value, (table.digit c).isSome = true ∨ isSignOrPoint c = true) :
    table.casefold value = value := by
  induction value with
  | nil => rfl
  | cons c rest ih =>
      have hc := h c List.mem_cons_self
      rw [casefold, List.flatMap_cons, table.fold_self c (hc.imp_right Or.inl)]
      exact congrArg (c :: ·) (ih fun other hother => h other (List.mem_cons_of_mem _ hother))

/-- A literal is made of signs, points and digits. -/
theorem mem_text {a : Literal} (ha : a.Valid table) :
    ∀ c ∈ a.text, (table.digit c).isSome = true ∨ isSignOrPoint c = true := by
  intro c hc
  unfold Literal.text at hc
  rcases List.mem_append.mp hc with hsign | hfraction
  · rcases List.mem_append.mp hsign with hsign | hwhole
    · refine .inr ?_
      unfold Literal.signText at hsign
      split at hsign
      · contradiction
      · obtain rfl := List.mem_singleton.mp hsign
        decide
      · obtain rfl := List.mem_singleton.mp hsign
        decide
    · exact .inl (ha.2 c (List.mem_append_left _ hwhole))
  · split at hfraction
    · contradiction
    · rcases List.mem_cons.mp hfraction with rfl | hdigit
      · exact .inr (by decide)
      · exact .inl (ha.2 c (List.mem_append_right _ hdigit))

theorem not_space_of_plain {c : Char} (h : (table.digit c).isSome = true ∨ isSignOrPoint c = true) :
    isSpace c = false := by
  rcases h with hdigit | hsign
  · have hplain := (table.digit_plain c hdigit).1
    rw [isPunctuation, Bool.or_eq_false_iff] at hplain
    exact hplain.1
  · simp only [isSignOrPoint, Bool.or_eq_true, beq_iff_eq] at hsign
    rcases hsign with (rfl | rfl) | rfl <;> decide

/-- The digits of a literal are matched, and what is after them is looked at. -/
theorem takeWhile_digits {digits rest : List Char}
    (h : ∀ c ∈ digits, (table.digit c).isSome = true)
    (hrest : ∀ c ∈ rest.head?, (table.digit c).isSome = false) :
    (digits ++ rest).takeWhile (fun c => (table.digit c).isSome) = digits ∧
      (digits ++ rest).dropWhile (fun c => (table.digit c).isSome) = rest := by
  have hstop : rest.takeWhile (fun c => (table.digit c).isSome) = [] ∧
      rest.dropWhile (fun c => (table.digit c).isSome) = rest := by
    cases rest with
    | nil => exact ⟨rfl, rfl⟩
    | cons c rest =>
        have hc := hrest c rfl
        exact ⟨List.takeWhile_cons_of_neg (by simp [hc]),
          List.dropWhile_cons_of_neg (by simp [hc])⟩
  rw [List.takeWhile_append_of_pos h, List.dropWhile_append_of_pos h, hstop.1, hstop.2]
  exact ⟨List.append_nil _, rfl⟩

theorem digit_point : (table.digit '.').isSome = false := by
  cases h : (table.digit '.').isSome with
  | false => rfl
  | true => exact absurd (table.digit_plain '.' h).2 (by decide)

/-- A literal is matched as it is written. -/
theorem matchDigits_text {a : Literal} (ha : a.Valid table) :
    table.matchDigits a.sign
      (a.whole ++ if a.fraction = [] then [] else '.' :: a.fraction) = some a := by
  obtain ⟨sign, whole, fraction⟩ := a
  obtain ⟨hne, hdigits⟩ := ha
  have hwhole : ∀ c ∈ whole, (table.digit c).isSome = true := fun c hc =>
    hdigits c (List.mem_append_left _ hc)
  have hfraction : ∀ c ∈ fraction, (table.digit c).isSome = true := fun c hc =>
    hdigits c (List.mem_append_right _ hc)
  unfold matchDigits
  dsimp only at hne ⊢
  by_cases hnone : fraction = []
  · obtain ⟨htake, hdrop⟩ := takeWhile_digits hwhole
      (fun c hc => absurd hc (by simp) : ∀ c ∈ ([] : List Char).head?, _)
    rw [if_pos hnone, htake, if_neg hne, hdrop, hnone]
  · obtain ⟨htake, hdrop⟩ := takeWhile_digits hwhole
      (fun c hc => by
        obtain rfl := Option.some.inj hc
        exact digit_point : ∀ c ∈ ('.' :: fraction).head?, _)
    rw [if_neg hnone, htake, if_neg hne, hdrop]
    exact if_pos ⟨hnone, List.all_eq_true.mpr hfraction⟩

theorem matchNumber_text {a : Literal} (ha : a.Valid table) : table.matchNumber a.text = some a := by
  have hmatch := matchDigits_text ha
  obtain ⟨sign, whole, fraction⟩ := a
  cases sign with
  | some negative => cases negative <;> exact hmatch
  | none =>
      obtain ⟨first, rest, hwhole⟩ := List.exists_cons_of_ne_nil ha.1
      have hfirst := (table.digit_plain first (ha.2 first (by
        rw [Literal.digits, hwhole]; simp))).2
      simp only at hwhole
      subst hwhole
      simp only [isSignOrPoint, Bool.or_eq_false_iff, beq_eq_false_iff_ne] at hfirst
      unfold Literal.text Literal.signText
      dsimp only at hmatch ⊢
      rw [List.nil_append, List.cons_append, matchNumber]
      · exact hmatch
      · exact fun text h => hfirst.1.1 (List.cons.inj h).1
      · exact fun text h => hfirst.1.2 (List.cons.inj h).1

/-- Only signs, points and digits are matched. -/
theorem mem_of_matchDigits {sign : Option Bool} {text : List Char} {a : Literal}
    (h : table.matchDigits sign text = some a) :
    ∀ c ∈ text, (table.digit c).isSome = true ∨ isSignOrPoint c = true := by
  intro c hc
  unfold matchDigits at h
  dsimp only at h
  split at h
  · contradiction
  · rw [← List.takeWhile_append_dropWhile (p := fun c => (table.digit c).isSome) (l := text)] at hc
    rcases List.mem_append.mp hc with hwhole | hrest
    · exact .inl (List.mem_takeWhile_imp (p := fun c => (table.digit c).isSome) hwhole)
    · split at h
      · next hnil => rw [hnil] at hrest; contradiction
      · next fraction hfraction =>
          rw [hfraction] at hrest
          split at h
          · next hdigits =>
              rcases List.mem_cons.mp hrest with rfl | hdigit
              · exact .inr (by decide)
              · exact .inl (List.all_eq_true.mp hdigits.2 c hdigit)
          · contradiction
      · contradiction

theorem mem_of_matchNumber {text : List Char} {a : Literal}
    (h : table.matchNumber text = some a) :
    ∀ c ∈ text, (table.digit c).isSome = true ∨ isSignOrPoint c = true := by
  intro c hc
  unfold matchNumber at h
  split at h
  · rcases List.mem_cons.mp hc with rfl | hrest
    · exact .inr (by decide)
    · exact mem_of_matchDigits h c hrest
  · rcases List.mem_cons.mp hc with rfl | hrest
    · exact .inr (by decide)
    · exact mem_of_matchDigits h c hrest
  · exact mem_of_matchDigits h c hc

/-! ### Quantities -/

/-- A unit has no digits, signs or points. -/
def IsUnit (unit : List Char) : Prop :=
  ∀ c ∈ unit, table.digit c = none ∧ isSignOrPoint c = false

/-- A unit of blanks only is dropped, and any other one keeps a literal from being a number. -/
theorem matchNumber_quantity {a : Literal} (ha : a.Valid table) {unit : List Char}
    (hunit : table.IsUnit unit) :
    table.matchNumber ((table.casefold (a.text ++ unit)).filter fun c => !isSpace c) =
      if unit.all isSpace then some a else none := by
  have htext : (table.casefold (a.text ++ unit)).filter (fun c => !isSpace c) =
      a.text ++ (table.casefold unit).filter fun c => !isSpace c := by
    rw [casefold_append, casefold_eq_self (mem_text ha), List.filter_append]
    congr 1
    exact List.filter_eq_self.mpr fun c hc => by simp [not_space_of_plain (mem_text ha c hc)]
  rw [htext]
  split
  · next hblank =>
      have hfold : (table.casefold unit).filter (fun c => !isSpace c) = [] := by
        refine List.filter_eq_nil_iff.mpr fun c hc => ?_
        obtain ⟨source, hsource, hmem⟩ := List.mem_flatMap.mp hc
        have hspace := List.all_eq_true.mp hblank source hsource
        rw [table.fold_self source (.inr (.inr hspace)), List.mem_singleton] at hmem
        simp [hmem, hspace]
      rw [hfold, List.append_nil, matchNumber_text ha]
  · next hblank =>
      obtain ⟨source, hsource, hspace⟩ : ∃ c ∈ unit, isSpace c = false := by
        by_contra hnone
        refine hblank (List.all_eq_true.mpr fun c hc => ?_)
        by_contra hc'
        exact hnone ⟨c, hc, by simpa using hc'⟩
      obtain ⟨other, hother, hink⟩ := table.fold_space source hspace
      have hmem : other ∈ a.text ++ (table.casefold unit).filter fun c => !isSpace c := by
        refine List.mem_append_right _ (List.mem_filter.mpr ⟨?_, by simp [hink]⟩)
        exact List.mem_flatMap.mpr ⟨source, hsource, hother⟩
      obtain ⟨hdigit, hsign⟩ := table.fold_other source (hunit source hsource).1
        (hunit source hsource).2 other hother
      cases hmatch : table.matchNumber (a.text ++ (table.casefold unit).filter fun c => !isSpace c)
        with
      | none => rfl
      | some found =>
          rcases mem_of_matchNumber hmatch other hmem with h | h
          · rw [hdigit] at h
            contradiction
          · rw [hsign] at h
            contradiction

/-- What words keep of a unit. -/
def unitText (table : CharacterTable) (unit : List Char) : List Char :=
  (table.casefold unit).filter fun c => !isPunctuation c

/-- Words keep the sign and the digits of a literal, and not its point. -/
theorem wordText_quantity {a : Literal} (ha : a.Valid table) (unit : List Char) :
    table.wordText (a.text ++ unit) = a.signText ++ a.digits ++ table.unitText unit := by
  have hdigits : ∀ c ∈ a.digits, isPunctuation c = false := fun c hc =>
    (table.digit_plain c (ha.2 c hc)).1
  have hsign : ∀ c ∈ a.signText, isPunctuation c = false := by
    intro c hc
    unfold Literal.signText at hc
    split at hc
    · contradiction
    · obtain rfl := List.mem_singleton.mp hc
      decide
    · obtain rfl := List.mem_singleton.mp hc
      decide
  have hplain : ∀ {text : List Char}, (∀ c ∈ text, isPunctuation c = false) →
      text.filter (fun c => !isPunctuation c) = text := fun h =>
    List.filter_eq_self.mpr fun c hc => by simp [h c hc]
  have htext : a.text.filter (fun c => !isPunctuation c) = a.signText ++ a.digits := by
    have hwhole : a.whole.filter (fun c => !isPunctuation c) = a.whole :=
      hplain fun c hc => hdigits c (List.mem_append_left _ hc)
    have hfraction : a.fraction.filter (fun c => !isPunctuation c) = a.fraction :=
      hplain fun c hc => hdigits c (List.mem_append_right _ hc)
    have hpoint : (if a.fraction = [] then [] else '.' :: a.fraction).filter
        (fun c => !isPunctuation c) = a.fraction := by
      split
      · next hnil => rw [hnil]; rfl
      · rw [List.filter_cons_of_neg (by decide), hfraction]
    rw [Literal.text, List.filter_append, List.filter_append, hplain hsign, hwhole, hpoint,
      List.append_assoc, Literal.digits]
  have hsubject : table.normalizeSubject (a.text ++ unit) =
      a.signText ++ a.digits ++ table.unitText unit := by
    rw [normalizeSubject, casefold_append, casefold_eq_self (mem_text ha), List.filter_append,
      htext]
    refine Text.strip_eq_self fun c hc => ?_
    have hpunctuation : isPunctuation c = false := by
      rcases List.mem_append.mp hc with hliteral | hfold
      · rcases List.mem_append.mp hliteral with hmem | hmem
        · exact hsign c hmem
        · exact hdigits c hmem
      · simpa using (List.mem_filter.mp hfold).2
    rw [isPunctuation, Bool.or_eq_false_iff] at hpunctuation
    exact hpunctuation.1
  have hword : booleanValues.lookup (a.signText ++ a.digits ++ table.unitText unit) = none := by
    cases hlookup : booleanValues.lookup (a.signText ++ a.digits ++ table.unitText unit) with
    | none => rfl
    | some word =>
        obtain ⟨before, after, hsplit, -⟩ := List.lookup_eq_some_iff.mp hlookup
        obtain ⟨first, rest, hwhole⟩ := List.exists_cons_of_ne_nil ha.1
        have hfirst : first ∈ a.digits := by simp [Literal.digits, hwhole]
        have hentry : (a.signText ++ a.digits ++ table.unitText unit, word) ∈ booleanValues := by
          rw [hsplit]
          simp
        have hnone := table.digit_word _ hentry first
          (List.mem_append_left _ (List.mem_append_right _ hfirst))
        have hsome := ha.2 first hfirst
        rw [hnone] at hsome
        contradiction
  rw [wordText]
  simp only [hsubject, hword, Option.getD_none]

/-- A quantity is rounded if its unit is blank, and loses its point otherwise. -/
theorem normalizeObject_quantity {a : Literal} (ha : a.Valid table) {unit : List Char}
    (hunit : table.IsUnit unit) :
    table.normalizeObject (a.text ++ unit) =
      if unit.all isSpace then
        match Decimal.Context.default.round (a.magnitude table) with
        | some number => .ok (numberText a.negative number)
        | none => .error overflowError
      else .ok (a.signText ++ a.digits ++ table.unitText unit) := by
  rw [normalizeObject, matchNumber_quantity ha hunit, wordText_quantity ha]
  split
  · next hmatch =>
      split at hmatch
      · next hblank =>
          obtain rfl := Option.some.inj hmatch
          rw [if_pos hblank]
      · contradiction
  · next hmatch =>
      split at hmatch
      · contradiction
      · next hblank => rw [if_neg hblank]

/-- Two quantities with a unit are normalized alike exactly when they are equal. -/
def NormalizedByValue (table : CharacterTable) (a b : Literal) (unit : List Char) : Prop :=
  ∃ x y, table.normalizeObject (a.text ++ unit) = .ok x ∧
    table.normalizeObject (b.text ++ unit) = .ok y ∧ (x = y ↔ a.value table = b.value table)

/-- Two literals have the same sign and digits, apart from the point. -/
def SameDigits (a b : Literal) : Prop := a.sign = b.sign ∧ a.digits = b.digits

/-- For a bare number: neither is too large for the context, zeros have the same sign, and
numbers that differ still do so after rounding. With a unit: the two have the same sign and
digits if they are equal, and only then. -/
def Comparable (table : CharacterTable) (a b : Literal) (unit : List Char) : Prop :=
  if unit.all isSpace then
    ∃ number number', Decimal.Context.default.round (a.magnitude table) = some number ∧
      Decimal.Context.default.round (b.magnitude table) = some number' ∧
      (a.value table = b.value table → a.value table = 0 → a.negative = b.negative) ∧
      (a.value table ≠ b.value table → a.negative = b.negative →
        Decimal.value number ≠ Decimal.value number')
  else SameDigits a b ↔ a.value table = b.value table

/-- The sign and the digits of a literal can be told apart. -/
theorem sameDigits_iff {a b : Literal} (ha : a.Valid table) (hb : b.Valid table) :
    a.signText ++ a.digits = b.signText ++ b.digits ↔ SameDigits a b := by
  have hsign : ∀ a : Literal, a.signText.filter isSignOrPoint = a.signText := by
    rintro ⟨_ | _ | _, -, -⟩ <;> rfl
  have hdigits : ∀ {a : Literal}, a.Valid table → a.digits.filter isSignOrPoint = [] :=
    fun ha => List.filter_eq_nil_iff.mpr fun c hc => by
      simp [(table.digit_plain c (ha.2 c hc)).2]
  constructor
  · intro h
    have hsigns := congrArg (List.filter isSignOrPoint) h
    rw [List.filter_append, List.filter_append, hsign, hsign, hdigits ha, hdigits hb,
      List.append_nil, List.append_nil] at hsigns
    rw [hsigns] at h
    refine ⟨?_, List.append_cancel_left h⟩
    obtain ⟨_ | _ | _, _, _⟩ := a <;> obtain ⟨_ | _ | _, _, _⟩ := b <;>
      simp_all [Literal.signText]
  · rintro ⟨hsigns, hsame⟩
    rw [Literal.signText, Literal.signText, hsigns, hsame]

theorem magnitude_nonneg (a : Literal) : 0 ≤ a.magnitude table := by
  unfold Literal.magnitude
  positivity

/-- Equal numbers have equal magnitudes, and equal signs unless they are zero. -/
theorem value_eq_iff {a b : Literal} :
    a.value table = b.value table ↔
      a.magnitude table = b.magnitude table ∧
        (a.negative = b.negative ∨ a.magnitude table = 0) := by
  have ha : 0 ≤ a.magnitude table := magnitude_nonneg a
  have hb : 0 ≤ b.magnitude table := magnitude_nonneg b
  unfold Literal.value
  cases a.negative <;> cases b.negative
  · simp
  · simp only [Bool.false_eq_true, if_false, if_true, false_or]
    constructor
    · intro h
      exact ⟨by linarith, by linarith⟩
    · rintro ⟨h, hzero⟩
      linarith
  · simp only [Bool.true_eq_false, if_true, Bool.false_eq_true, if_false, false_or]
    constructor
    · intro h
      exact ⟨by linarith, by linarith⟩
    · rintro ⟨h, hzero⟩
      linarith
  · simp

theorem value_eq_zero {a : Literal} : a.value table = 0 ↔ a.magnitude table = 0 := by
  unfold Literal.value
  split <;> simp

/-- Bare numbers that are rounded are told apart by their signs and rounded values. -/
theorem numbersByValue_iff {a b : Literal} {number number' : ℕ × ℤ}
    (ha : Decimal.Context.default.round (a.magnitude table) = some number)
    (hb : Decimal.Context.default.round (b.magnitude table) = some number') :
    (numberText a.negative number = numberText b.negative number' ↔
        a.value table = b.value table) ↔
      (a.value table = b.value table → a.value table = 0 → a.negative = b.negative) ∧
        (a.value table ≠ b.value table → a.negative = b.negative →
          Decimal.value number ≠ Decimal.value number') := by
  rw [numberText_eq_iff]
  constructor
  · intro h
    exact ⟨fun heq _ => (h.mpr heq).1, fun hne hsign hvalue => hne (h.mp ⟨hsign, hvalue⟩)⟩
  · rintro ⟨hzero, hdistinct⟩
    constructor
    · rintro ⟨hsign, hvalue⟩
      by_contra hne
      exact hdistinct hne hsign hvalue
    · intro heq
      obtain ⟨hmagnitude, hsign⟩ := value_eq_iff.mp heq
      rw [hmagnitude, hb] at ha
      obtain rfl := Option.some.inj ha
      exact ⟨hsign.elim id fun h => hzero heq (value_eq_zero.mpr h), rfl⟩

/-- Equal quantities, and only those, are normalized alike exactly when they are comparable. -/
theorem normalizedByValue_iff {a b : Literal} (ha : a.Valid table) (hb : b.Valid table)
    {unit : List Char} (hunit : table.IsUnit unit) :
    NormalizedByValue table a b unit ↔ Comparable table a b unit := by
  unfold NormalizedByValue Comparable
  rw [normalizeObject_quantity ha hunit, normalizeObject_quantity hb hunit]
  by_cases hblank : unit.all isSpace = true
  · rw [if_pos hblank, if_pos hblank, if_pos hblank]
    cases hround : Decimal.Context.default.round (a.magnitude table) with
    | none => simp
    | some number =>
        cases hround' : Decimal.Context.default.round (b.magnitude table) with
        | none => simp
        | some number' =>
            constructor
            · rintro ⟨x, y, hx, hy, h⟩
              obtain rfl := Except.ok.inj hx
              obtain rfl := Except.ok.inj hy
              exact ⟨number, number', rfl, rfl, (numbersByValue_iff hround hround').mp h⟩
            · rintro ⟨_, _, hn, hn', h⟩
              obtain rfl := Option.some.inj hn
              obtain rfl := Option.some.inj hn'
              exact ⟨_, _, rfl, rfl, (numbersByValue_iff hround hround').mpr h⟩
  · rw [if_neg hblank, if_neg hblank, if_neg hblank, ← sameDigits_iff ha hb]
    constructor
    · rintro ⟨x, y, hx, hy, h⟩
      obtain rfl := Except.ok.inj hx
      obtain rfl := Except.ok.inj hy
      rwa [List.append_left_inj] at h
    · intro h
      refine ⟨_, _, rfl, rfl, ?_⟩
      rwa [List.append_left_inj]

end Literals

/-! ### Texts of facts -/

/-- An object that is normalized as words if it is too large a number. -/
def objectText (table : CharacterTable) (value : List Char) : List Char :=
  match table.normalizeObject value with
  | .ok normalized => normalized
  | .error _ => table.wordText value

/-- Texts that differ in case are normalized alike. -/
theorem objectText_congr {a b : List Char} (h : table.casefold a = table.casefold b) :
    table.objectText a = table.objectText b := by
  simp only [objectText, normalizeObject, wordText, normalizeSubject, h]

/-- Nothing is left of a blank text. -/
theorem objectText_blank {value : List Char} (h : value.all isSpace = true) :
    table.objectText value = [] := by
  have hfold : table.casefold value = value := by
    rw [casefold]
    have hself : ∀ c ∈ value, table.fold c = [c] := fun c hc =>
      table.fold_self c (.inr (.inr (List.all_eq_true.mp h c hc)))
    rw [List.flatMap_congr hself, List.flatMap_singleton']
  have hspace : value.filter (fun c => !isSpace c) = [] :=
    List.filter_eq_nil_iff.mpr fun c hc => by simp [List.all_eq_true.mp h c hc]
  have hpunctuation : value.filter (fun c => !isPunctuation c) = [] :=
    List.filter_eq_nil_iff.mpr fun c hc => by simp [isPunctuation, List.all_eq_true.mp h c hc]
  have hword : table.wordText value = [] := by
    rw [wordText, normalizeSubject, hfold, hpunctuation]
    rfl
  rw [objectText, normalizeObject, hfold, hspace, hword]
  rfl
/-! ### Instances -/

/-- Folding and digits of lower-case English texts. -/
def plain : CharacterTable where
  digit c := if '0' ≤ c ∧ c ≤ '9' then some (c.toNat - 48) else none
  fold c := [c]
  digit_plain := by
    intro c hc
    have hrange : 48 ≤ c.toNat ∧ c.toNat ≤ 57 := by
      split at hc
      · next h => exact ⟨h.1, h.2⟩
      · contradiction
    constructor
    · rw [Bool.eq_false_iff]
      intro hpunctuation
      rcases Bool.or_eq_true_iff.mp hpunctuation with hspace | hmem
      · simp only [isSpace, Bool.or_eq_true, Bool.and_eq_true, decide_eq_true_eq, beq_iff_eq] at hspace
        omega
      · have hall : ([',', '，', '。', '.', '!', '！', '?', '？', ';', '；', ':', '：', '\'', '"',
            '“', '”', '‘', '’', '（', '）', '(', ')', '[', ']', '{', '}'].all fun other =>
              decide (other.toNat < 48 ∨ 57 < other.toNat)) = true := by decide
        have hc := List.all_eq_true.mp hall c (List.contains_iff_mem.mp hmem)
        rcases of_decide_eq_true hc with hlt | hlt <;> omega
    · rw [Bool.eq_false_iff]
      intro hsign
      simp only [isSignOrPoint, Bool.or_eq_true, beq_iff_eq] at hsign
      rcases hsign with (rfl | rfl) | rfl <;> simp at hrange
  digit_word := by
    have hall : (booleanValues.all fun entry => entry.1.all fun c =>
        !decide ('0' ≤ c ∧ c ≤ '9')) = true := by decide +kernel
    intro entry hentry c hc
    have hword := List.all_eq_true.mp (List.all_eq_true.mp hall entry hentry) c hc
    rw [Bool.not_eq_true', decide_eq_false_iff_not] at hword
    rw [if_neg hword]
  fold_self := fun _ _ => rfl
  fold_other := by
    intro c hdigit hsign other hother
    obtain rfl := List.mem_singleton.mp hother
    exact ⟨hdigit, hsign⟩
  fold_space := fun c hc => ⟨c, List.mem_singleton_self c, hc⟩

/-- One and a half kilometres are taken for fifteen. -/
theorem quantities_merged :
    plain.normalizeObject "1.5km".toList = plain.normalizeObject "15km".toList ∧
      ¬ NormalizedByValue plain ⟨none, ['1'], ['5']⟩ ⟨none, ['1', '5'], []⟩ ['k', 'm'] := by
  refine ⟨by decide +kernel, ?_⟩
  rintro ⟨x, y, hx, hy, h⟩
  have hmerged : x = y := by
    have hsame : plain.normalizeObject (Literal.text ⟨none, ['1'], ['5']⟩ ++ ['k', 'm']) =
        plain.normalizeObject (Literal.text ⟨none, ['1', '5'], []⟩ ++ ['k', 'm']) := by
      decide +kernel
    rw [hx, hy] at hsame
    exact Except.ok.inj hsame
  exact absurd (h.mp hmerged) (by decide +kernel)

/-- Two and a half kilometres and three and a half are told apart. -/
theorem normalizedByValue_iff_distances :
    NormalizedByValue plain ⟨none, ['2'], ['5']⟩ ⟨none, ['3'], ['5']⟩ ['k', 'm'] := by
  refine (normalizedByValue_iff (by decide) (by decide) ?_).mpr ?_
  · intro c hc
    have hall : (['k', 'm'].all fun c => plain.digit c == none && !isSignOrPoint c) = true := by
      decide
    simpa using List.all_eq_true.mp hall c hc
  · rw [Comparable, if_neg (by decide)]
    constructor
    · rintro ⟨-, hdigits⟩
      exact absurd hdigits (by decide)
    · intro h
      exact absurd h (by decide +kernel)

end CharacterTable

/-- `FactNormalizer`, on texts, and `str.casefold`. Texts that differ in case are normalized
alike, and nothing is left of a blank object. -/
structure FactNormalizer where
  casefold : String → String
  subject : String → String
  predicate : String → String
  object : String → String
  subject_congr : ∀ a b, casefold a = casefold b → subject a = subject b
  object_congr : ∀ a b, casefold a = casefold b → object a = object b
  object_blank : ∀ text, isBlank text = true → object text = ""

/-- The normalizer for what Python knows of characters. -/
def CharacterTable.factNormalizer (table : CharacterTable) : FactNormalizer where
  casefold value := String.ofList (table.casefold value.toList)
  subject value := String.ofList (table.normalizeSubject value.toList)
  predicate value := String.ofList (table.normalizePredicate value.toList)
  object value := String.ofList (table.objectText value.toList)
  subject_congr a b h := by
    rw [String.ofList_inj] at h
    simp only [CharacterTable.normalizeSubject, h]
  object_congr a b h := by
    rw [String.ofList_inj] at h
    rw [table.objectText_congr h]
  object_blank text h := by
    rw [table.objectText_blank h]

end StoryForge.Consistency
