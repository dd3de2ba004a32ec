import Mathlib.Data.List.Basic
import Mathlib.Data.List.Infix

/-!
# Substitutions

A substitution goes through a text from left to right, replaces what a matcher finds at a place,
and goes on behind it.

## Main results

* `Regex.sub_append` — a substitution goes through the beginning of a text, and then on from
  where its last match ended;
* `Regex.scan_alike`, `Regex.sub_append_of_alike` — it goes through a beginning in the same way
  before two texts, if the matcher finds the same there;
* `Regex.sub_append_of_closed` — and so it does where no match goes on behind the beginning;
* `Regex.suffix_of_suffix_textOf` — an end of what is left of a text that no replacement could
  have ended in is an end of the text.
-/

namespace Regex

/-! ### Substitution -/

/-- A part of a text after a substitution. -/
inductive Piece
  | kept (c : Char)
  | replaced (text : List Char)
  deriving DecidableEq, Repr

/-- The text of a part. -/
def Piece.chars : Piece → List Char
  | kept c => [c]
  | replaced text => text

/-- Whether a part is a replaced one. -/
def Piece.isReplaced : Piece → Bool
  | kept _ => false
  | replaced _ => true

/-- What replaces the beginning of a text, and what is left of the text, given the character
before it. -/
abbrev Matcher := Option Char → List Char → Option (List Char × List Char)

/-- A substitution, some characters of which have been matched before. -/
def subFrom (m : Matcher) : Option Char → ℕ → List Char → List Piece
  | _, _, [] => []
  | _, skip + 1, c :: text => subFrom m (some c) skip text
  | before, 0, c :: text =>
      match m before (c :: text) with
      | some (out, rest) =>
          .replaced out :: subFrom m (some c) (text.length - rest.length) text
      | none => .kept c :: subFrom m (some c) 0 text

/-- A substitution whose matcher does not look back. -/
def sub (find : List Char → Option (List Char × List Char)) (text : List Char) : List Piece :=
  subFrom (fun _ => find) none 0 text

/-- The text after a substitution. -/
def textOf (pieces : List Piece) : List Char := pieces.flatMap Piece.chars

/-- The number of replacements. -/
def amountOf (pieces : List Piece) : ℕ := pieces.countP Piece.isReplaced

variable {x p text : List Char} {c : Char} {cls : Char → Bool}
  {find : List Char → Option (List Char × List Char)}

theorem subFrom_eq_sub (before : Option Char) (skip : ℕ) (text : List Char) :
    subFrom (fun _ => find) before skip text = sub find (text.drop skip) := by
  induction text generalizing before skip with
  | nil => simp [subFrom, sub]
  | cons c text ih =>
      cases skip with
      | zero => rfl
      | succ skip => exact ih _ _

theorem sub_cons_none (h : find (c :: text) = none) :
    sub find (c :: text) = .kept c :: sub find text := by
  rw [sub, subFrom, h]
  exact congrArg _ (subFrom_eq_sub _ 0 text)

theorem sub_cons_some {out rest : List Char} (h : find (c :: text) = some (out, rest))
    (hrest : rest <:+ text) : sub find (c :: text) = .replaced out :: sub find rest := by
  rw [sub, subFrom, h]
  refine congrArg _ ((subFrom_eq_sub _ _ text).trans ?_)
  rw [← List.suffix_iff_eq_drop.mp hrest]

/-- What a substitution does with the beginning of a text, and how many characters of the rest
are part of its last match. -/
def scanFrom (find : List Char → Option (List Char × List Char)) (x : List Char) :
    ℕ → List Char → List Piece × ℕ
  | skip, [] => ([], skip)
  | skip + 1, _ :: p => scanFrom find x skip p
  | 0, c :: p =>
      match find (c :: (p ++ x)) with
      | some (out, rest) =>
          let scanned := scanFrom find x ((p ++ x).length - rest.length) p
          (.replaced out :: scanned.1, scanned.2)
      | none =>
          let scanned := scanFrom find x 0 p
          (.kept c :: scanned.1, scanned.2)

theorem subFrom_append (before : Option Char) (skip : ℕ) (p x : List Char) :
    subFrom (fun _ => find) before skip (p ++ x) =
      (scanFrom find x skip p).1 ++ sub find (x.drop (scanFrom find x skip p).2) := by
  induction p generalizing before skip with
  | nil => exact subFrom_eq_sub before skip x
  | cons c p ih =>
      cases skip with
      | succ skip => exact ih _ _
      | zero =>
          rw [List.cons_append, subFrom, scanFrom]
          cases find (c :: (p ++ x)) with
          | none => exact congrArg _ (ih _ _)
          | some found => exact congrArg _ (ih _ _)

/-- **A substitution goes through the beginning of a text**, and on from where its last match
ended. -/
theorem sub_append (p x : List Char) :
    sub find (p ++ x) =
      (scanFrom find x 0 p).1 ++ sub find (x.drop (scanFrom find x 0 p).2) :=
  subFrom_append none 0 p x

theorem scanFrom_cons_none (h : find (c :: (p ++ x)) = none) :
    scanFrom find x 0 (c :: p) =
      (.kept c :: (scanFrom find x 0 p).1, (scanFrom find x 0 p).2) := by
  rw [scanFrom, h]

theorem scanFrom_cons_some {out rest : List Char} (h : find (c :: (p ++ x)) = some (out, rest)) :
    scanFrom find x 0 (c :: p) =
      (.replaced out :: (scanFrom find x ((p ++ x).length - rest.length) p).1,
        (scanFrom find x ((p ++ x).length - rest.length) p).2) := by
  rw [scanFrom, h]

theorem scanFrom_of_none (h : ∀ t, t ≠ [] → t <:+ p → find (t ++ x) = none) :
    scanFrom find x 0 p = (p.map .kept, 0) := by
  induction p with
  | nil => rfl
  | cons c p ih =>
      have hnone : find (c :: (p ++ x)) = none :=
        h (c :: p) (List.cons_ne_nil _ _) List.suffix_rfl
      rw [scanFrom_cons_none hnone, ih fun t hne ht => h t hne (ht.trans (List.suffix_cons _ _))]
      rfl

/-- Where nothing is found, everything is kept. -/
theorem sub_append_of_none (h : ∀ t, t ≠ [] → t <:+ p → find (t ++ x) = none) :
    sub find (p ++ x) = p.map .kept ++ sub find x := by
  rw [sub_append, scanFrom_of_none h, List.drop_zero]

/-- What is found at a place before two texts is the same, and ends at the same place before them,
or goes on to one place in each. -/
inductive Alike (t x y xEnd yEnd : List Char) :
    Option (List Char × List Char) → Option (List Char × List Char) → Prop
  | none : Alike t x y xEnd yEnd none none
  | inside (out v : List Char) (shorter : v.length < t.length) :
      Alike t x y xEnd yEnd (some (out, v ++ x)) (some (out, v ++ y))
  | across (out : List Char) : Alike t x y xEnd yEnd (some (out, xEnd)) (some (out, yEnd))

/-- How far two substitutions have got behind one beginning of two texts: to one place before
their ends, or to a place in each. -/
inductive Aligned (x y xEnd yEnd : List Char) : ℕ → ℕ → ℕ → Prop
  | inside {length skip : ℕ} (le : skip ≤ length) : Aligned x y xEnd yEnd length skip skip
  | across {length i j : ℕ} (hi : 0 < i) (hj : 0 < j) (hx : x.drop i = xEnd)
      (hy : y.drop j = yEnd) : Aligned x y xEnd yEnd length (length + i) (length + j)

variable {y xEnd yEnd : List Char}

/-- How far a match gets that ends in the text behind. -/
theorem drop_length_sub (h : xEnd <:+ x) : x.drop (x.length - xEnd.length) = xEnd :=
  (List.suffix_iff_eq_drop.mp h).symm

/-- **Substitutions that find the same** in a beginning do the same with it. -/
theorem scan_alike (hx : xEnd <:+ x) (hy : yEnd <:+ y) (hxlt : xEnd.length < x.length)
    (hylt : yEnd.length < y.length)
    (h : ∀ t, t ≠ [] → t <:+ p → Alike t x y xEnd yEnd (find (t ++ x)) (find (t ++ y)))
    {skip other : ℕ} (hskip : Aligned x y xEnd yEnd p.length skip other) :
    (scanFrom find x skip p).1 = (scanFrom find y other p).1 ∧
      Aligned x y xEnd yEnd 0 (scanFrom find x skip p).2 (scanFrom find y other p).2 := by
  induction p generalizing skip other with
  | nil => simpa [scanFrom] using hskip
  | cons c p ih =>
      have ih := @ih fun t hne ht => h t hne (ht.trans (List.suffix_cons _ _))
      have hfound := h (c :: p) (List.cons_ne_nil _ _) List.suffix_rfl
      rw [List.cons_append, List.cons_append] at hfound
      generalize hfx : find (c :: (p ++ x)) = fx at hfound
      generalize hfy : find (c :: (p ++ y)) = fy at hfound
      cases hskip with
      | across hi hj hxi hyj =>
          rw [List.length_cons, Nat.succ_add, Nat.succ_add]
          exact ih (.across hi hj hxi hyj)
      | inside hle =>
          cases skip with
          | succ skip => exact ih (.inside (Nat.le_of_succ_le_succ hle))
          | zero =>
              cases hfound with
              | none =>
                  rw [scanFrom_cons_none hfx, scanFrom_cons_none hfy]
                  obtain ⟨hpieces, haligned⟩ := ih (.inside (Nat.zero_le _))
                  exact ⟨congrArg (List.cons _) hpieces, haligned⟩
              | inside out v hlt =>
                  rw [scanFrom_cons_some hfx, scanFrom_cons_some hfy]
                  have hsame : (p ++ x).length - (v ++ x).length =
                      (p ++ y).length - (v ++ y).length := by
                    simp only [List.length_append]
                    omega
                  have hle : (p ++ y).length - (v ++ y).length ≤ p.length := by
                    simp only [List.length_append]
                    omega
                  obtain ⟨hpieces, haligned⟩ := ih (.inside hle)
                  rw [hsame]
                  exact ⟨congrArg (List.cons _) hpieces, haligned⟩
              | across out =>
                  rw [scanFrom_cons_some hfx, scanFrom_cons_some hfy]
                  have hskipx : (p ++ x).length - xEnd.length =
                      p.length + (x.length - xEnd.length) := by
                    rw [List.length_append]
                    omega
                  have hskipy : (p ++ y).length - yEnd.length =
                      p.length + (y.length - yEnd.length) := by
                    rw [List.length_append]
                    omega
                  rw [hskipx, hskipy]
                  obtain ⟨hpieces, haligned⟩ := ih (.across (by omega) (by omega)
                    (drop_length_sub hx) (drop_length_sub hy))
                  exact ⟨congrArg (List.cons _) hpieces, haligned⟩

/-- The last match in a beginning goes on in what follows. -/
def Opens (find : List Char → Option (List Char × List Char)) (p x : List Char) : Prop :=
  0 < (scanFrom find x 0 p).2

instance : Decidable (Opens find p x) := Nat.decLt _ _

/-- A substitution goes through a beginning as it does before a text where the same is found. -/
theorem sub_append_of_alike (hx : xEnd <:+ x) (hy : yEnd <:+ y) (hxlt : xEnd.length < x.length)
    (hylt : yEnd.length < y.length)
    (h : ∀ t, t ≠ [] → t <:+ p → Alike t x y xEnd yEnd (find (t ++ x)) (find (t ++ y))) :
    sub find (p ++ x) =
      (scanFrom find y 0 p).1 ++ sub find (if Opens find p y then xEnd else x) := by
  obtain ⟨hpieces, haligned⟩ := scan_alike hx hy hxlt hylt h (.inside (Nat.zero_le _))
  have hend : x.drop (scanFrom find x 0 p).2 = if Opens find p y then xEnd else x := by
    by_cases hopen : Opens find p y
    · rw [if_pos hopen]
      unfold Opens at hopen
      generalize (scanFrom find x 0 p).2 = i at haligned ⊢
      generalize (scanFrom find y 0 p).2 = j at haligned hopen
      cases haligned with
      | inside hle => omega
      | across hi hj hxi hyj => rw [Nat.zero_add, hxi]
    · rw [if_neg hopen]
      unfold Opens at hopen
      generalize (scanFrom find x 0 p).2 = i at haligned ⊢
      generalize (scanFrom find y 0 p).2 = j at haligned hopen
      cases haligned with
      | inside hle => rw [Nat.le_zero.mp hle, List.drop_zero]
      | across hi hj hxi hyj => omega
  rw [sub_append, hpieces, hend]

/-- Where no match is open before one text, none is open before another that is alike. -/
theorem scanFrom_of_alike (hx : xEnd <:+ x) (hy : yEnd <:+ y) (hxlt : xEnd.length < x.length)
    (hylt : yEnd.length < y.length)
    (h : ∀ t, t ≠ [] → t <:+ p → Alike t x y xEnd yEnd (find (t ++ x)) (find (t ++ y)))
    (hclosed : ¬Opens find p y) : scanFrom find x 0 p = ((scanFrom find y 0 p).1, 0) := by
  obtain ⟨hpieces, haligned⟩ := scan_alike hx hy hxlt hylt h (.inside (Nat.zero_le _))
  refine Prod.ext hpieces ?_
  unfold Opens at hclosed
  generalize (scanFrom find x 0 p).2 = i at haligned ⊢
  generalize (scanFrom find y 0 p).2 = j at haligned hclosed
  cases haligned with
  | inside hle => exact Nat.le_zero.mp hle
  | across hi hj hxi hyj => omega

/-- A match that goes on behind a beginning is open at its end. -/
theorem scanFrom_beyond (x : List Char) (i : ℕ) (p : List Char) :
    scanFrom find x (p.length + i) p = ([], i) := by
  induction p with
  | nil => rw [List.length_nil, Nat.zero_add, scanFrom]
  | cons c p ih =>
      rw [List.length_cons, Nat.succ_add]
      exact ih

/-- A match of a whole beginning that goes on behind it is open at its end. -/
theorem opens_of_found {out rest : List Char} (hp : p ≠ [])
    (h : find (p ++ x) = some (out, rest)) (hlt : rest.length < x.length) : Opens find p x := by
  obtain ⟨c, p, rfl⟩ := List.exists_cons_of_ne_nil hp
  have hbeyond : (p ++ x).length - rest.length = p.length + (x.length - rest.length) := by
    rw [List.length_append]
    omega
  rw [Opens, scanFrom_cons_some h, hbeyond, scanFrom_beyond]
  exact Nat.sub_pos_of_lt hlt

/-- How far the last match in a beginning goes on is how far some match does. -/
theorem carry_of_found {P : ℕ → Prop} (hzero : P 0)
    (h : ∀ t, t ≠ [] → t <:+ p → ∀ out rest, find (t ++ x) = some (out, rest) →
      rest.length < x.length → P (x.length - rest.length)) :
    P (scanFrom find x 0 p).2 := by
  have hscan : ∀ skip ≤ p.length, P (scanFrom find x skip p).2 := by
    induction p with
    | nil =>
        intro skip hskip
        rw [Nat.le_zero.mp hskip]
        exact hzero
    | cons c p ih =>
        have ih := ih fun t hne ht => h t hne (ht.trans (List.suffix_cons _ _))
        intro skip hskip
        cases skip with
        | succ skip => exact ih skip (Nat.le_of_succ_le_succ hskip)
        | zero =>
            cases hfound : find (c :: (p ++ x)) with
            | none =>
                rw [scanFrom_cons_none hfound]
                exact ih 0 (Nat.zero_le _)
            | some found =>
                rw [scanFrom_cons_some hfound, List.length_append]
                by_cases hlt : found.2.length < x.length
                · have hcarry := h (c :: p) (List.cons_ne_nil _ _) List.suffix_rfl _ _ hfound hlt
                  rwa [show p.length + x.length - found.2.length =
                    p.length + (x.length - found.2.length) by omega, scanFrom_beyond]
                · exact ih _ (by omega)
  exact hscan 0 (Nat.zero_le _)

/-- Where no match goes on behind a beginning, none is open at its end. -/
theorem not_opens
    (h : ∀ t, t ≠ [] → t <:+ p → ∀ out rest, find (t ++ x) = some (out, rest) →
      x.length ≤ rest.length) :
    ¬Opens find p x := by
  have hzero : (scanFrom find x 0 p).2 = 0 := carry_of_found (P := (· = 0)) rfl
    fun t hne ht out rest hfound hlt => absurd (h t hne ht out rest hfound) (Nat.not_le.mpr hlt)
  rw [Opens, hzero]
  exact lt_irrefl 0

/-- A substitution goes through a beginning part by part. -/
theorem scanFrom_append (x : List Char) (skip : ℕ) (p other : List Char) :
    scanFrom find x skip (p ++ other) =
      ((scanFrom find (other ++ x) skip p).1 ++
          (scanFrom find x (scanFrom find (other ++ x) skip p).2 other).1,
        (scanFrom find x (scanFrom find (other ++ x) skip p).2 other).2) := by
  induction p generalizing skip with
  | nil => simp [scanFrom]
  | cons c p ih =>
      cases skip with
      | succ skip => exact ih skip
      | zero =>
          rw [List.cons_append, scanFrom, scanFrom, List.append_assoc]
          cases find (c :: (p ++ (other ++ x))) with
          | none => simp only [ih, List.cons_append]
          | some found => simp only [ih, List.cons_append]

/-- **Where no match is open at the end of a beginning**, a substitution goes through it before
another text as well, if what ends in the beginning is found there. -/
theorem sub_append_of_closed (hclosed : ¬Opens find p y)
    (hnone : ∀ t, t ≠ [] → t <:+ p → find (t ++ y) = none → find (t ++ x) = none)
    (hsome : ∀ t, t ≠ [] → t <:+ p → ∀ out rest, find (t ++ y) = some (out, rest) →
      y.length ≤ rest.length →
        ∃ v, rest = v ++ y ∧ v.length < t.length ∧ find (t ++ x) = some (out, v ++ x)) :
    sub find (p ++ x) = (scanFrom find y 0 p).1 ++ sub find x := by
  have hscan : ∀ skip ≤ p.length, (scanFrom find y skip p).2 = 0 →
      scanFrom find x skip p = ((scanFrom find y skip p).1, 0) := by
    clear hclosed
    induction p with
    | nil =>
        intro skip hskip _
        rw [Nat.le_zero.mp hskip]
        rfl
    | cons c p ih =>
        have ih := ih (fun t hne ht => hnone t hne (ht.trans (List.suffix_cons _ _)))
          fun t hne ht => hsome t hne (ht.trans (List.suffix_cons _ _))
        have hnone := hnone (c :: p) (List.cons_ne_nil _ _) List.suffix_rfl
        have hsome := hsome (c :: p) (List.cons_ne_nil _ _) List.suffix_rfl
        rw [List.cons_append, List.cons_append] at hnone hsome
        intro skip hskip hcarry
        cases skip with
        | succ skip => exact ih skip (Nat.le_of_succ_le_succ hskip) hcarry
        | zero =>
            cases hfound : find (c :: (p ++ y)) with
            | none =>
                rw [scanFrom_cons_none hfound] at hcarry
                rw [scanFrom_cons_none hfound, scanFrom_cons_none (hnone hfound),
                  ih 0 (Nat.zero_le _) hcarry]
            | some found =>
                obtain ⟨out, rest⟩ := found
                rw [scanFrom_cons_some hfound] at hcarry
                by_cases hinside : y.length ≤ rest.length
                · obtain ⟨v, rfl, hlt, hfoundx⟩ := hsome out rest hfound hinside
                  have hsame : (p ++ x).length - (v ++ x).length =
                      (p ++ y).length - (v ++ y).length := by
                    simp only [List.length_append]
                    omega
                  have hle : (p ++ y).length - (v ++ y).length ≤ p.length := by
                    simp only [List.length_append]
                    omega
                  rw [scanFrom_cons_some hfound, scanFrom_cons_some hfoundx, hsame,
                    ih _ hle hcarry]
                · have hbeyond : (p ++ y).length - rest.length =
                      p.length + (y.length - rest.length) := by
                    rw [List.length_append]
                    omega
                  rw [hbeyond, scanFrom_beyond] at hcarry
                  change y.length - rest.length = 0 at hcarry
                  omega
  have hcarry : (scanFrom find y 0 p).2 = 0 := Nat.eq_zero_of_not_pos hclosed
  rw [sub_append, hscan 0 (Nat.zero_le _) hcarry, List.drop_zero]

/-! ### Texts -/

theorem textOf_append (pieces others : List Piece) :
    textOf (pieces ++ others) = textOf pieces ++ textOf others := List.flatMap_append

theorem textOf_map_kept (text : List Char) : textOf (text.map .kept) = text := by
  rw [textOf, List.flatMap_map]
  exact List.flatMap_singleton' text

theorem amountOf_append (pieces others : List Piece) :
    amountOf (pieces ++ others) = amountOf pieces + amountOf others := List.countP_append

theorem amountOf_map_kept (text : List Char) : amountOf (text.map .kept) = 0 := by
  rw [amountOf, List.countP_map, List.countP_eq_zero]
  intro c _
  exact Bool.false_ne_true

theorem textOf_cons (piece : Piece) (pieces : List Piece) :
    textOf (piece :: pieces) = piece.chars ++ textOf pieces := List.flatMap_cons

/-- Where no match is open at the end of a beginning, all that is left of it is of a class, if it
is and so are the replacements. -/
theorem all_textOf_of_closed (hclosed : ¬Opens find p x) (hp : ∀ c ∈ p, cls c = true)
    (h : ∀ t, t ≠ [] → t <:+ p → ∀ out rest, find (t ++ x) = some (out, rest) →
      x.length ≤ rest.length → ∀ c ∈ out, cls c = true) :
    ∀ c ∈ textOf (scanFrom find x 0 p).1, cls c = true := by
  have hscan : ∀ skip ≤ p.length, (scanFrom find x skip p).2 = 0 →
      ∀ c ∈ textOf (scanFrom find x skip p).1, cls c = true := by
    clear hclosed
    induction p with
    | nil =>
        intro skip _ _ c hc
        contradiction
    | cons d p ih =>
        have ih := ih (fun c hc => hp c (List.mem_cons_of_mem _ hc))
          fun t hne ht => h t hne (ht.trans (List.suffix_cons _ _))
        have hfound := h (d :: p) (List.cons_ne_nil _ _) List.suffix_rfl
        rw [List.cons_append] at hfound
        intro skip hskip hcarry
        cases skip with
        | succ skip => exact ih skip (Nat.le_of_succ_le_succ hskip) hcarry
        | zero =>
            cases hsome : find (d :: (p ++ x)) with
            | none =>
                rw [scanFrom_cons_none hsome] at hcarry ⊢
                intro c hc
                rw [textOf_cons] at hc
                rcases List.mem_cons.mp hc with rfl | hc
                · exact hp _ List.mem_cons_self
                · exact ih 0 (Nat.zero_le _) hcarry c hc
            | some found =>
                rw [scanFrom_cons_some hsome] at hcarry ⊢
                by_cases hinside : x.length ≤ found.2.length
                · intro c hc
                  rw [textOf_cons] at hc
                  rcases List.mem_append.mp hc with hc | hc
                  · exact hfound _ _ hsome hinside c hc
                  · exact ih _ (by rw [List.length_append]; omega) hcarry c hc
                · have hbeyond : (p ++ x).length - found.2.length =
                      p.length + (x.length - found.2.length) := by
                    rw [List.length_append]
                    omega
                  rw [hbeyond, scanFrom_beyond] at hcarry
                  change x.length - found.2.length = 0 at hcarry
                  omega
  exact hscan 0 (Nat.zero_le _) (Nat.eq_zero_of_not_pos hclosed)

/-- A substitution leaves something of a text, if no replacement is empty. -/
theorem textOf_ne_nil (h : ∀ t out rest, find t = some (out, rest) → out ≠ []) (hp : p ≠ []) :
    textOf (scanFrom find x 0 p).1 ≠ [] := by
  obtain ⟨c, p, rfl⟩ := List.exists_cons_of_ne_nil hp
  cases hfound : find (c :: (p ++ x)) with
  | none =>
      rw [scanFrom_cons_none hfound]
      exact List.cons_ne_nil _ _
  | some found =>
      rw [scanFrom_cons_some hfound, textOf_cons]
      exact List.append_ne_nil_of_left_ne_nil (h _ _ _ hfound) _

/-- What is left of a text is the text itself, if it is of a class that no replacement is of. -/
theorem textOf_eq_of_all (h : ∀ t out rest, find t = some (out, rest) → ∃ c ∈ out, cls c = false)
    (hall : ∀ c ∈ textOf (scanFrom find x 0 p).1, cls c = true) :
    textOf (scanFrom find x 0 p).1 = p := by
  induction p with
  | nil => rfl
  | cons c p ih =>
      cases hfound : find (c :: (p ++ x)) with
      | none =>
          rw [scanFrom_cons_none hfound, textOf_cons] at hall ⊢
          exact congrArg (List.cons c) (ih fun d hd => hall d (List.mem_cons_of_mem _ hd))
      | some found =>
          obtain ⟨d, hd, hcls⟩ := h _ _ _ hfound
          rw [scanFrom_cons_some hfound, textOf_cons] at hall
          exact absurd (hall d (List.mem_append_left _ hd)) (Bool.eq_false_iff.mp hcls)

/-- An end of what is left of a text is an end of the text, if it is of a class that no replacement
ends in. -/
theorem suffix_of_suffix_textOf {w : List Char}
    (h : ∀ t out rest, find t = some (out, rest) →
      ∃ begun d, out = begun ++ [d] ∧ cls d = false)
    (hw : ∀ c ∈ w, cls c = true) {skip : ℕ} (hsuffix : w <:+ textOf (scanFrom find x skip p).1) :
    w <:+ p := by
  induction p generalizing skip with
  | nil =>
      cases skip <;> exact hsuffix
  | cons c p ih =>
      cases skip with
      | succ skip => exact (ih hsuffix).trans (List.suffix_cons _ _)
      | zero =>
          cases hfound : find (c :: (p ++ x)) with
          | none =>
              rw [scanFrom_cons_none hfound, textOf_cons] at hsuffix
              rcases List.suffix_cons_iff.mp hsuffix with rfl | hsuffix
              · rw [textOf_eq_of_all (fun t out rest hsome => ?_) fun d hd =>
                  hw d (List.mem_cons_of_mem _ hd)]
                · exact List.suffix_rfl
                · obtain ⟨begun, d, rfl, hd⟩ := h t out rest hsome
                  exact ⟨d, List.mem_append_right _ (List.mem_singleton_self _), hd⟩
              · exact (ih hsuffix).trans (List.suffix_cons _ _)
          | some found =>
              obtain ⟨begun, d, hout, hd⟩ := h _ _ _ hfound
              rw [scanFrom_cons_some hfound, textOf_cons] at hsuffix
              generalize hrest : textOf (scanFrom find x _ p).1 = rest at hsuffix
              have hbehind : rest <:+ (Piece.replaced found.1).chars ++ rest :=
                List.suffix_append _ _
              have hend : d :: rest <:+ (Piece.replaced found.1).chars ++ rest := by
                refine ⟨begun, ?_⟩
                rw [List.append_cons, ← hout]
                rfl
              by_cases hle : w.length ≤ rest.length
              · have hinside := List.suffix_of_suffix_length_le hsuffix hbehind hle
                rw [← hrest] at hinside
                exact (ih hinside).trans (List.suffix_cons _ _)
              · -- an end that reaches into the replacement has its last character
                have hover := List.suffix_of_suffix_length_le hend hsuffix (Nat.not_le.mp hle)
                exact absurd (hw d (hover.subset List.mem_cons_self)) (Bool.eq_false_iff.mp hd)

end Regex
