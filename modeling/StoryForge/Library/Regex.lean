import Mathlib.Data.List.Basic
import Mathlib.Data.List.Infix

/-!
# Regular expressions

An expression reads a text from its beginning. It may be able to read it in several ways, and
tries them in an order: as many characters as it can first, an optional part first with it. What
it has read is given by what is left of the text, and all ways by the list of what they leave.

## Main results

* `Regex.rests_append` — an expression reads a text as if it ended where something follows that
  the expression cannot read into;
* `Regex.rests_separated` — it reads up to a separator as if the text ended there;
* `Regex.head?_readMany` — how far a greedy repetition reads first;
* `Regex.suffix_of_mem_rests` — what is left of a text is its end.
-/

/-- An expression, by the characters that it reads. -/
inductive Regex
  | word (classes : List (Char → Bool))
  | many (cls : Char → Bool) (atLeast : ℕ)
  | seq (first second : Regex)
  | alt (first second : Regex)
  | opt (inner : Regex)

namespace Regex

/-! ### Reading -/

/-- A character of each class, in order. -/
def readWord : List (Char → Bool) → List Char → Option (List Char)
  | [], text => some text
  | _ :: _, [] => none
  | cls :: classes, c :: text => if cls c then readWord classes text else none

/-- Characters of a class, as many as possible first, and at least a number of them. -/
def readMany (cls : Char → Bool) : ℕ → List Char → List (List Char)
  | atLeast, [] => if atLeast = 0 then [[]] else []
  | atLeast, c :: text =>
      (if cls c then readMany cls (atLeast - 1) text else []) ++
        (if atLeast = 0 then [c :: text] else [])

/-- What is left of a text, for each way to read its beginning, in order. -/
def rests : Regex → List Char → List (List Char)
  | word classes, text => (readWord classes text).toList
  | many cls atLeast, text => readMany cls atLeast text
  | seq first second, text => (first.rests text).flatMap second.rests
  | alt first second, text => first.rests text ++ second.rests text
  | opt inner, text => inner.rests text ++ [text]

/-- An expression cannot read into a text from before it. -/
def Stops (x : List Char) : Regex → Prop
  | word classes => ∀ rest, rest <:+ classes → rest ≠ [] → readWord rest x = none
  | many cls _ => ∀ c ∈ x.head?, cls c = false
  | seq first second => first.Stops x ∧ second.Stops x
  | alt first second => first.Stops x ∧ second.Stops x
  | opt inner => inner.Stops x

/-- An expression has a class for a character. -/
def accepts (c : Char) : Regex → Bool
  | word classes => classes.any fun cls => cls c
  | many cls _ => cls c
  | seq first second => first.accepts c || second.accepts c
  | alt first second => first.accepts c || second.accepts c
  | opt inner => inner.accepts c

variable {x p text : List Char} {c : Char} {cls : Char → Bool} {classes : List (Char → Bool)}

theorem rests_word (classes : List (Char → Bool)) (text : List Char) :
    (word classes).rests text = (readWord classes text).toList := rfl

theorem rests_many (cls : Char → Bool) (atLeast : ℕ) (text : List Char) :
    (many cls atLeast).rests text = readMany cls atLeast text := rfl

theorem rests_seq (first second : Regex) (text : List Char) :
    (seq first second).rests text = (first.rests text).flatMap second.rests := rfl

theorem rests_alt (first second : Regex) (text : List Char) :
    (alt first second).rests text = first.rests text ++ second.rests text := rfl

theorem rests_opt (inner : Regex) (text : List Char) :
    (opt inner).rests text = inner.rests text ++ [text] := rfl

/-- A character that no class accepts stops an expression. -/
theorem stops_of_accepts {r : Regex} (h : r.accepts c = false) : r.Stops (c :: x) := by
  induction r with
  | word classes =>
      intro rest hrest hne
      cases rest with
      | nil => exact absurd rfl hne
      | cons cls rest =>
          have hmem : cls ∈ classes := hrest.subset List.mem_cons_self
          have hcls : cls c = false := by
            cases hc : cls c with
            | false => rfl
            | true => exact absurd (List.any_eq_true.mpr ⟨cls, hmem, hc⟩) (by
                rw [show classes.any (fun cls => cls c) = false from h]; exact Bool.false_ne_true)
          rw [readWord, hcls]
          rfl
  | many cls atLeast =>
      intro other hother
      obtain rfl := Option.some.inj hother
      exact h
  | seq first second ihf ihs =>
      rw [accepts, Bool.or_eq_false_iff] at h
      exact ⟨ihf h.1, ihs h.2⟩
  | alt first second ihf ihs =>
      rw [accepts, Bool.or_eq_false_iff] at h
      exact ⟨ihf h.1, ihs h.2⟩
  | opt inner ih => exact ih h

theorem readWord_append_of_stops (h : (word classes).Stops x) (p : List Char) :
    readWord classes (p ++ x) = (readWord classes p).map (· ++ x) := by
  induction p generalizing classes with
  | nil =>
      cases classes with
      | nil => rfl
      | cons cls classes => exact h _ List.suffix_rfl (List.cons_ne_nil _ _)
  | cons c p ih =>
      cases classes with
      | nil => rfl
      | cons cls classes =>
          rw [List.cons_append, readWord, readWord]
          split
          · exact ih fun rest hrest => h rest (hrest.trans (List.suffix_cons _ _))
          · rfl

theorem readMany_append_of_stops (h : ∀ c ∈ x.head?, cls c = false) (atLeast : ℕ)
    (p : List Char) :
    readMany cls atLeast (p ++ x) = (readMany cls atLeast p).map (· ++ x) := by
  induction p generalizing atLeast with
  | nil =>
      cases x with
      | nil => simp
      | cons c x =>
          have hc : cls c = false := h c rfl
          by_cases hzero : atLeast = 0
          · simp [readMany, hc, hzero]
          · simp [readMany, hc, hzero]
  | cons c p ih =>
      rw [List.cons_append, readMany, readMany, List.map_append]
      congr 1
      · split
        · exact ih _
        · rfl
      · split <;> rfl

/-- A repetition reads nothing where a text does not begin in its class. -/
theorem readMany_of_stops (h : ∀ c ∈ x.head?, cls c = false) (atLeast : ℕ) :
    readMany cls atLeast x = if atLeast = 0 then [x] else [] := by
  have hread := readMany_append_of_stops h atLeast []
  rw [List.nil_append, readMany] at hread
  rw [hread]
  split <;> rfl

/-- **A text ends for an expression** where something follows that it cannot read into. -/
theorem rests_append {r : Regex} (h : r.Stops x) (p : List Char) :
    r.rests (p ++ x) = (r.rests p).map (· ++ x) := by
  induction r generalizing p with
  | word classes =>
      rw [rests, rests, readWord_append_of_stops h]
      cases readWord classes p <;> rfl
  | many cls atLeast => exact readMany_append_of_stops h atLeast p
  | seq first second ihf ihs =>
      rw [rests, rests, ihf h.1, List.flatMap_map, List.map_flatMap]
      exact List.flatMap_congr fun rest _ => ihs h.2 rest
  | alt first second ihf ihs => rw [rests, rests, ihf h.1, ihs h.2, List.map_append]
  | opt inner ih => rw [rests, rests, ih h, List.map_append, List.map_singleton]

/-- A word is stopped where none of its ends can be read. -/
theorem stops_word_cons (hword : readWord (cls :: classes) x = none) (h : (word classes).Stops x) :
    (word (cls :: classes)).Stops x := by
  intro rest hrest hne
  rcases List.suffix_cons_iff.mp hrest with rfl | hsuffix
  · exact hword
  · exact h rest hsuffix hne

theorem stops_word_nil : (word []).Stops x := by
  intro rest hrest hne
  exact absurd (List.suffix_nil.mp hrest) hne

/-- A word that has been begun is stopped if the rest of it is. -/
theorem readWord_cons_append (h : (word classes).Stops x) (hp : p ≠ []) :
    readWord (cls :: classes) (p ++ x) = (readWord (cls :: classes) p).map (· ++ x) := by
  obtain ⟨c, p, rfl⟩ := List.exists_cons_of_ne_nil hp
  rw [List.cons_append, readWord, readWord]
  split
  · exact readWord_append_of_stops h p
  · rfl

theorem rests_word_cons_append (h : (word classes).Stops x) (hp : p ≠ []) :
    (word (cls :: classes)).rests (p ++ x) =
      ((word (cls :: classes)).rests p).map (· ++ x) := by
  rw [rests_word, rests_word, readWord_cons_append h hp]
  cases readWord (cls :: classes) p <;> rfl

/-- A word has as many characters as classes. -/
theorem length_readWord {rest : List Char} (h : readWord classes text = some rest) :
    rest.length + classes.length = text.length := by
  induction text generalizing classes with
  | nil =>
      cases classes with
      | nil => rw [← Option.some.inj h]; rfl
      | cons cls classes => contradiction
  | cons c text ih =>
      cases classes with
      | nil => rw [← Option.some.inj h]; rfl
      | cons cls classes =>
          rw [readWord] at h
          split at h
          · rw [List.length_cons, List.length_cons, ← Nat.add_assoc, ih h]
          · contradiction

/-- A sequence reads a text as if it ended, if its parts do. -/
theorem rests_seq_append {first second : Regex}
    (hfirst : first.rests p = (first.rests text).map (· ++ x)) (hsecond : second.Stops x) :
    (seq first second).rests p = ((seq first second).rests text).map (· ++ x) := by
  rw [rests, rests, hfirst, List.flatMap_map, List.map_flatMap]
  exact List.flatMap_congr fun rest _ => rests_append hsecond rest

/-- An expression with a separator reads up to a separator as if the text ended there, if its last
part reads nothing behind it. -/
theorem rests_separated {first last : Regex} {separator : Char}
    (hfirst : first.Stops (separator :: x)) (halone : first.Stops [separator])
    (hlast : last.accepts separator = false) (hseparator : cls separator = true)
    (hbehind : last.rests x = [x]) (hnil : last.rests [] = [[]]) (p : List Char) :
    (seq first (seq (word [cls]) last)).rests (p ++ [separator] ++ x) =
      ((seq first (seq (word [cls]) last)).rests (p ++ [separator])).map (· ++ x) := by
  rw [← List.append_cons, rests, rests, rests_append hfirst, rests_append halone,
    List.flatMap_map, List.flatMap_map, List.map_flatMap]
  refine List.flatMap_congr fun rest _ => ?_
  cases rest with
  | nil => simp [rests, readWord, hseparator, hbehind, hnil]
  | cons c rest =>
      cases hc : cls c with
      | false => simp [rests, readWord, hc]
      | true =>
          have hx := rests_append (stops_of_accepts (x := x) hlast) rest
          have hn := rests_append (stops_of_accepts (x := []) hlast) rest
          simp [rests, readWord, hc, hx, hn]

/-- The same for an expression that ends with the separator. -/
theorem rests_before_separator {first : Regex} {separator : Char}
    (hfirst : first.Stops (separator :: x)) (halone : first.Stops [separator])
    (hseparator : cls separator = true) (p : List Char) :
    (seq first (word [cls])).rests (p ++ [separator] ++ x) =
      ((seq first (word [cls])).rests (p ++ [separator])).map (· ++ x) := by
  have hlast : (seq (word [cls]) (word [])).rests = (word [cls]).rests :=
    funext fun text => List.flatMap_singleton' _
  have hrests := @rests_separated x cls first (word []) separator hfirst halone rfl hseparator rfl
    rfl p
  rwa [rests_seq, rests_seq, hlast] at hrests

theorem readWord_append {rest : List Char} (h : readWord classes text = some rest)
    (x : List Char) : readWord classes (text ++ x) = some (rest ++ x) := by
  induction text generalizing classes with
  | nil =>
      cases classes with
      | nil => exact congrArg (fun t => some (t ++ x)) (Option.some.inj h)
      | cons cls classes => contradiction
  | cons c text ih =>
      cases classes with
      | nil => exact congrArg (fun t => some (t ++ x)) (Option.some.inj h)
      | cons cls classes =>
          rw [readWord] at h
          rw [List.cons_append, readWord]
          split at h
          · next hcls =>
              rw [if_pos hcls]
              exact ih h
          · contradiction

/-- A greedy repetition reads all characters of its class first. -/
theorem head?_readMany (atLeast : ℕ) (text : List Char) :
    (readMany cls atLeast text).head? =
      if atLeast ≤ (text.takeWhile cls).length then some (text.dropWhile cls) else none := by
  induction text generalizing atLeast with
  | nil =>
      rw [readMany]
      by_cases hzero : atLeast = 0
      · simp [hzero]
      · simp [hzero]
  | cons c text ih =>
      rw [readMany, List.head?_append, List.takeWhile_cons, List.dropWhile_cons]
      cases hc : cls c with
      | false =>
          by_cases hzero : atLeast = 0
          · simp [hzero]
          · simp [hzero]
      | true =>
          simp only [if_true, ih, List.length_cons]
          by_cases hzero : atLeast = 0
          · simp [hzero]
          · rw [if_neg hzero]
            by_cases hle : atLeast - 1 ≤ (text.takeWhile cls).length
            · rw [if_pos hle, if_pos (by omega)]
              rfl
            · rw [if_neg hle, if_neg (by omega)]
              rfl

/-- What is found behind a greedy repetition, if it is not found where the repetition could go
on. -/
theorem findSome?_readMany_of_none {α : Type*} {f : List Char → Option α}
    (h : ∀ c text, cls c = true → f (c :: text) = none) (atLeast : ℕ) (text : List Char) :
    (readMany cls atLeast text).findSome? f =
      if atLeast ≤ (text.takeWhile cls).length then f (text.dropWhile cls) else none := by
  induction text generalizing atLeast with
  | nil =>
      rw [readMany]
      by_cases hzero : atLeast = 0
      · simp [hzero]
      · simp [hzero]
  | cons c text ih =>
      rw [readMany, List.findSome?_append, List.takeWhile_cons, List.dropWhile_cons]
      cases hc : cls c with
      | false =>
          by_cases hzero : atLeast = 0
          · simp [hzero]
          · simp [hzero]
      | true =>
          have hhere : (if atLeast = 0 then [c :: text] else []).findSome? f = none := by
            split
            · rw [List.findSome?_singleton, h c text hc]
            · rfl
          rw [if_pos rfl, if_pos rfl, if_pos rfl, ih, hhere, Option.or_none, List.length_cons]
          by_cases hle : atLeast - 1 ≤ (text.takeWhile cls).length
          · rw [if_pos hle, if_pos (by omega)]
          · rw [if_neg hle, if_neg (by omega)]

/-- What is left of a text is its end. -/
theorem readWord_suffix {rest : List Char} (h : readWord classes text = some rest) :
    rest <:+ text := by
  induction text generalizing classes with
  | nil =>
      cases classes with
      | nil => exact (Option.some.inj h) ▸ List.suffix_rfl
      | cons cls classes => contradiction
  | cons c text ih =>
      cases classes with
      | nil => exact (Option.some.inj h) ▸ List.suffix_rfl
      | cons cls classes =>
          rw [readWord] at h
          split at h
          · exact (ih h).trans (List.suffix_cons _ _)
          · contradiction

/-- What a word has read is of its classes. -/
theorem mem_of_readWord {rest : List Char} (h : readWord classes text = some rest) :
    ∀ d ∈ text, d ∈ rest ∨ ∃ cls ∈ classes, cls d = true := by
  induction text generalizing classes with
  | nil =>
      intro d hd
      contradiction
  | cons c text ih =>
      cases classes with
      | nil =>
          rw [← Option.some.inj h]
          exact fun d hd => .inl hd
      | cons cls classes =>
          rw [readWord] at h
          split at h
          · next hcls =>
              intro d hd
              rcases List.mem_cons.mp hd with rfl | hd
              · exact .inr ⟨cls, List.mem_cons_self, hcls⟩
              · exact (ih h d hd).imp_right fun ⟨other, hmem, hother⟩ =>
                  ⟨other, List.mem_cons_of_mem _ hmem, hother⟩
          · contradiction

/-- A word has read a character of each of its classes. -/
theorem exists_of_readWord {rest : List Char} (h : readWord classes text = some rest)
    (hcls : cls ∈ classes) : ∃ d ∈ text, cls d = true := by
  induction text generalizing classes with
  | nil =>
      cases classes with
      | nil => contradiction
      | cons other classes => contradiction
  | cons c text ih =>
      cases classes with
      | nil => contradiction
      | cons other classes =>
          rw [readWord] at h
          split at h
          · next hother =>
              rcases List.mem_cons.mp hcls with rfl | hcls
              · exact ⟨c, List.mem_cons_self, hother⟩
              · obtain ⟨d, hd, hread⟩ := ih h hcls
                exact ⟨d, List.mem_cons_of_mem _ hd, hread⟩
          · contradiction

/-- What is left by a way to read a text is its end. -/
theorem suffix_of_mem_rests {r : Regex} {rest : List Char} (h : rest ∈ r.rests text) :
    rest <:+ text := by
  induction r generalizing text rest with
  | word classes => exact readWord_suffix (Option.mem_toList.mp h)
  | many cls atLeast =>
      rw [rests] at h
      induction text generalizing atLeast with
      | nil =>
          rw [readMany] at h
          split at h
          · rw [List.mem_singleton.mp h]
          · contradiction
      | cons c text ih =>
          rw [readMany, List.mem_append] at h
          rcases h with hlonger | hhere
          · split at hlonger
            · exact (ih _ hlonger).trans (List.suffix_cons _ _)
            · contradiction
          · split at hhere
            · rw [List.mem_singleton.mp hhere]
            · contradiction
  | seq first second ihf ihs =>
      obtain ⟨middle, hmiddle, hrest⟩ := List.mem_flatMap.mp h
      exact (ihs hrest).trans (ihf hmiddle)
  | alt first second ihf ihs => exact (List.mem_append.mp h).elim ihf ihs
  | opt inner ih =>
      rcases List.mem_append.mp h with hinner | hskip
      · exact ih hinner
      · rw [List.mem_singleton.mp hskip]

end Regex
