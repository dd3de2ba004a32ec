import Mathlib.Algebra.BigOperators.Group.Multiset.Basic
import Mathlib.Data.Finset.Card
import Mathlib.Tactic.Linarith
import StoryForge.Books.Analysis
import StoryForge.Books.Critique
import StoryForge.Library.Decimal
import StoryForge.Library.Repeats

/-!
# Repetition

Repetition between the chapters of a book: equal paragraphs in two chapters, chapters with many
common phrases, and phrases of many chapters.

## Main results

* `RepetitionDetector.mem_exactCandidates` — the equal paragraphs that are found are those that
  another chapter has first;
* `RepetitionDetector.score_eq_ten_iff` — when a book is free of repetition.
-/

namespace StoryForge

/-- A repetition that a reviewer should look at, with how similar its passages are. -/
structure RepetitionFinding extends RepetitionCandidate where
  similarity : ℚ
  deriving DecidableEq, Repr

/-- What the detector finds in a book. -/
structure RepetitionAnalysisResult where
  score : ℚ
  candidates : List RepetitionFinding
  duplicateParagraphs : ℕ
  repeatedPhraseCount : ℕ

/-- What the detector uses of Unicode: `str.casefold` and the class `\w`. -/
structure RepetitionText where
  casefold : List Char → List Char
  isWord : Char → Bool

namespace RepetitionDetector

variable (text : RepetitionText)

/-! ### Texts -/

/-- `_normalized`: `[\s\W_]+` is taken out. -/
def normalized (value : List Char) : List Char :=
  (text.casefold value).filter fun c => !isSpace c && text.isWord c && c != '_'

/-- A line feed, spaces and a last line feed at the start of a text, and what follows them. -/
def findBlankLine : List Char → Option (List Char)
  | [] => none
  | c :: rest =>
      let spaces := rest.takeWhile isSpace
      if c = '\n' ∧ '\n' ∈ spaces then
        some ((spaces.reverse.takeWhile (· ≠ '\n')).reverse ++ rest.dropWhile isSpace)
      else none

/-- `re.split(r"\n\s*\n", text)`. `skip` characters belong to the match before. -/
def splitFrom : ℕ → List Char → List (List Char)
  | _, [] => [[]]
  | skip + 1, _ :: rest => splitFrom skip rest
  | 0, c :: rest =>
      match findBlankLine (c :: rest) with
      | some after => [] :: splitFrom (rest.length - after.length) rest
      | none =>
          match splitFrom 0 rest with
          | [] => [[c]]
          | piece :: pieces => (c :: piece) :: pieces

/-- The paragraphs of a chapter. -/
def paragraphs (content : String) : List (List Char) := splitFrom 0 content.toList

/-- The words of a text. -/
def tokens (content : List Char) : List (List Char) :=
  ((text.casefold content).splitOnP fun c =>
    !(text.isWord c || (0x3400 ≤ c.toNat && c.toNat ≤ 0x9fff))).filter (· ≠ [])

/-- `_ngrams`. -/
def ngrams (content : String) (size : ℕ) : Finset (List Char) :=
  let words := tokens text content.toList
  ((List.range (words.length + 1 - size)).map fun index =>
    [' '].intercalate ((words.drop index).take size)).toFinset

/-! ### Equal paragraphs -/

/-- A paragraph of a chapter. -/
structure Paragraph where
  chapterNumber : ℕ
  content : List Char
  deriving DecidableEq, Repr

/-- The paragraphs of a book that are long enough to be compared, in order. -/
def longParagraphs (chapters : List SnapshotChapter) : List Paragraph :=
  chapters.flatMap fun chapter =>
    ((paragraphs chapter.content).filter fun paragraph =>
      30 ≤ (normalized text paragraph).length).map (⟨chapter.chapterNumber, ·⟩)

/-- The candidate of a paragraph that another chapter has first. -/
def exactCandidate (owner : ℕ) (paragraph : Paragraph) : RepetitionFinding where
  code := "repetition.exact_paragraph"
  severity := .medium
  chapterNumbers := [owner, paragraph.chapterNumber]
  similarity := 1
  evidence := [bounded (String.ofList paragraph.content) 160]
  legitimateCallback := false

/-- What a paragraph is compared by. -/
def keyOf (paragraph : Paragraph) : List Char := normalized text paragraph.content

/-- The loop over the paragraphs. It remembers the chapter of each paragraph in `paragraph_owner`,
and finds the paragraphs of which another chapter is the owner. -/
def exactCandidates (chapters : List SnapshotChapter) : List RepetitionFinding :=
  (Repeats.ownerState (keyOf text) Paragraph.chapterNumber
    (longParagraphs text chapters)).found.map fun found => exactCandidate found.1 found.2

/-! ### Similar chapters and common phrases -/

/-- `itertools.combinations(items, 2)`. -/
def pairs {α : Type} : List α → List (α × α)
  | [] => []
  | item :: rest => rest.map (item, ·) ++ pairs rest

/-- The share of the phrases of three words that two chapters have in common. -/
def similarity (left right : SnapshotChapter) : ℚ :=
  let leftGrams := ngrams text left.content 3
  let rightGrams := ngrams text right.content 3
  (leftGrams ∩ rightGrams).card / (leftGrams ∪ rightGrams).card

/-- `"callback" in _normalized(event)`. -/
def isCallback (event : String) : Bool :=
  decide ("callback".toList <:+: normalized text event.toList)

/-- The candidate of two similar chapters. -/
def similarCandidate (pair : SnapshotChapter × SnapshotChapter) : Option RepetitionFinding :=
  if ngrams text pair.1.content 3 = ∅ ∨ ngrams text pair.2.content 3 = ∅ then none
  else if 55 / 100 ≤ similarity text pair.1 pair.2 ∧ ¬pair.2.keyEvents.any (isCallback text) then
    some {
      code := "repetition.similar_scene"
      severity := .medium
      chapterNumbers := [pair.1.chapterNumber, pair.2.chapterNumber]
      similarity := Decimal.roundTo 4 (similarity text pair.1 pair.2)
      evidence := [pair.1.title, pair.2.title]
      legitimateCallback := false }
  else none

/-- `Counter(gram for chapter in chapters for gram in self._ngrams(chapter.content, 4))`. -/
def phrases (chapters : List SnapshotChapter) : Multiset (List Char) :=
  (chapters.map fun chapter => (ngrams text chapter.content 4).val).sum

/-- `sum(count >= 4 for count in phrases.values())`. -/
def repeatedPhrases (chapters : List SnapshotChapter) : ℕ :=
  ((phrases text chapters).toFinset.filter fun gram => 4 ≤ (phrases text chapters).count gram).card

/-- The candidates of similar chapters. -/
def similarCandidates (chapters : List SnapshotChapter) : List RepetitionFinding :=
  (pairs chapters).filterMap (similarCandidate text)

/-- What the repetitions take from the score. -/
def penalty (chapters : List SnapshotChapter) : ℚ :=
  (exactCandidates text chapters).length * (15 / 10) + repeatedPhrases text chapters * (1 / 10) +
    (similarCandidates text chapters).length * (5 / 10)

/-- `analyze`. -/
def analyze (chapters : List SnapshotChapter) : RepetitionAnalysisResult where
  score := Decimal.roundTo 2 (max 0 (min 10 (10 - penalty text chapters)))
  candidates := exactCandidates text chapters ++ similarCandidates text chapters
  duplicateParagraphs := (exactCandidates text chapters).length
  repeatedPhraseCount := repeatedPhrases text chapters

/-! ### What is found -/

variable {text} {chapters : List SnapshotChapter}

/-- The paragraphs of a chapter, as far as they are compared. -/
theorem mem_longParagraphs {paragraph : Paragraph} :
    paragraph ∈ longParagraphs text chapters ↔
      30 ≤ (keyOf text paragraph).length ∧ ∃ chapter ∈ chapters,
        chapter.chapterNumber = paragraph.chapterNumber ∧
          paragraph.content ∈ paragraphs chapter.content := by
  unfold longParagraphs
  rw [List.mem_flatMap]
  constructor
  · rintro ⟨chapter, hchapter, hmem⟩
    obtain ⟨content, hcontent, rfl⟩ := List.mem_map.mp hmem
    rw [List.mem_filter, decide_eq_true_iff] at hcontent
    exact ⟨hcontent.2, chapter, hchapter, rfl, hcontent.1⟩
  · rintro ⟨hlong, chapter, hchapter, hnumber, hcontent⟩
    refine ⟨chapter, hchapter, List.mem_map.mpr ⟨paragraph.content, ?_, ?_⟩⟩
    · exact List.mem_filter.mpr ⟨hcontent, decide_eq_true hlong⟩
    · rw [hnumber]

theorem mem_pairs {α : Type} {items : List α} {pair : α × α} :
    pair ∈ pairs items ↔ [pair.1, pair.2].Sublist items := by
  obtain ⟨left, right⟩ := pair
  induction items with
  | nil => simp [pairs]
  | cons item rest ih =>
      rw [pairs, List.mem_append, List.mem_map, ih, List.sublist_cons_iff, or_comm]
      refine or_congr_right ?_
      constructor
      · rintro ⟨other, hother, hpair⟩
        obtain ⟨rfl, rfl⟩ := Prod.mk.inj hpair
        exact ⟨_, rfl, List.singleton_sublist.mpr hother⟩
      · rintro ⟨tail, htail, hsub⟩
        obtain ⟨rfl, rfl⟩ := List.cons.inj htail
        exact ⟨right, List.singleton_sublist.mp hsub, rfl⟩

/-- The counter counts the chapters that have a phrase. -/
theorem count_phrases (gram : List Char) :
    (phrases text chapters).count gram =
      chapters.countP fun chapter => gram ∈ ngrams text chapter.content 4 := by
  unfold phrases
  induction chapters with
  | nil => rfl
  | cons chapter rest ih =>
      rw [List.map_cons, List.sum_cons, Multiset.count_add, ih, List.countP_cons, Nat.add_comm,
        Multiset.count_eq_of_nodup (ngrams text chapter.content 4).nodup]
      simp only [Finset.mem_val, decide_eq_true_eq]

theorem repeatedPhrases_eq_zero_iff :
    repeatedPhrases text chapters = 0 ↔
      ∀ gram, chapters.countP (fun chapter => gram ∈ ngrams text chapter.content 4) < 4 := by
  rw [repeatedPhrases, Finset.card_eq_zero, Finset.filter_eq_empty_iff]
  simp only [← count_phrases, not_le]
  constructor
  · intro h gram
    by_cases hmem : gram ∈ (phrases text chapters).toFinset
    · exact h hmem
    · rw [Multiset.mem_toFinset] at hmem
      rw [Multiset.count_eq_zero_of_notMem hmem]
      omega
  · intro h gram _
    exact h gram

/-- A book that is free of repetition between its chapters: no two chapters have a long paragraph
in common, no two are similar unless the second calls back, and no phrase of four words is in
four chapters. -/
structure Free (text : RepetitionText) (chapters : List SnapshotChapter) : Prop where
  paragraphs : ∀ a ∈ longParagraphs text chapters, ∀ b ∈ longParagraphs text chapters,
    keyOf text a = keyOf text b → a.chapterNumber = b.chapterNumber
  scenes : ∀ left right, [left, right].Sublist chapters →
    ngrams text left.content 3 ≠ ∅ → ngrams text right.content 3 ≠ ∅ →
      (∃ event ∈ right.keyEvents, isCallback text event = true) ∨
        similarity text left right < 55 / 100
  phrases : ∀ gram, chapters.countP (fun chapter => gram ∈ ngrams text chapter.content 4) < 4

/-- The equal paragraphs that are found are those that another chapter has first. -/
theorem mem_exactCandidates {candidate : RepetitionFinding} :
    candidate ∈ exactCandidates text chapters ↔
      ∃ paragraph ∈ longParagraphs text chapters, ∃ owner,
        Repeats.firstOwner (keyOf text) Paragraph.chapterNumber (longParagraphs text chapters)
          (keyOf text paragraph) = some owner ∧
        owner ≠ paragraph.chapterNumber ∧ candidate = exactCandidate owner paragraph := by
  rw [exactCandidates, Repeats.found_ownerState, List.mem_map]
  simp only [List.mem_filterMap, Repeats.foundAt, Option.bind_eq_some_iff]
  constructor
  · rintro ⟨found, ⟨paragraph, hparagraph, owner, howner, hfound⟩, rfl⟩
    split at hfound
    · next hne =>
        obtain rfl := Option.some_inj.mp hfound
        exact ⟨paragraph, hparagraph, owner, howner, hne, rfl⟩
    · exact absurd hfound (by simp)
  · rintro ⟨paragraph, hparagraph, owner, howner, hne, rfl⟩
    exact ⟨(owner, paragraph), ⟨paragraph, hparagraph, owner, howner, if_pos hne⟩, rfl⟩

theorem exactCandidates_eq_nil_iff :
    exactCandidates text chapters = [] ↔
      ∀ a ∈ longParagraphs text chapters, ∀ b ∈ longParagraphs text chapters,
        keyOf text a = keyOf text b → a.chapterNumber = b.chapterNumber := by
  rw [exactCandidates, List.map_eq_nil_iff, Repeats.found_eq_nil_iff]

theorem similarCandidate_eq_none_iff {left right : SnapshotChapter} :
    similarCandidate text (left, right) = none ↔
      (ngrams text left.content 3 ≠ ∅ → ngrams text right.content 3 ≠ ∅ →
        (∃ event ∈ right.keyEvents, isCallback text event = true) ∨
          similarity text left right < 55 / 100) := by
  unfold similarCandidate
  split
  · next hempty =>
      refine iff_of_true rfl fun hleft hright => ?_
      rcases hempty with h | h
      · exact absurd h hleft
      · exact absurd h hright
  · next hgrams =>
      rw [not_or] at hgrams
      split
      · next hsimilar =>
          rw [List.any_eq_true, not_exists] at hsimilar
          refine iff_of_false (Option.some_ne_none _) fun hfree => ?_
          rcases hfree hgrams.1 hgrams.2 with ⟨event, hevent, hcallback⟩ | hlow
          · exact hsimilar.2 event ⟨hevent, hcallback⟩
          · exact absurd hsimilar.1 (not_le.mpr hlow)
      · next hother =>
          refine iff_of_true rfl fun _ _ => ?_
          rw [not_and_or, not_le, not_not, List.any_eq_true] at hother
          exact hother.symm

theorem similarCandidates_eq_nil_iff :
    similarCandidates text chapters = [] ↔
      ∀ left right, [left, right].Sublist chapters →
        ngrams text left.content 3 ≠ ∅ → ngrams text right.content 3 ≠ ∅ →
          (∃ event ∈ right.keyEvents, isCallback text event = true) ∨
            similarity text left right < 55 / 100 := by
  rw [similarCandidates, List.filterMap_eq_nil_iff]
  constructor
  · intro h left right hsub
    exact similarCandidate_eq_none_iff.mp (h (left, right) (mem_pairs.mpr hsub))
  · rintro h ⟨left, right⟩ hmem
    exact similarCandidate_eq_none_iff.mpr (h left right (mem_pairs.mp hmem))

theorem score_of_penalty_eq_zero (h : penalty text chapters = 0) :
    (analyze text chapters).score = 10 := by
  have hround : Decimal.roundTo 2 (max 0 (min 10 (10 - 0))) = 10 := by decide +kernel
  rw [analyze, h]
  exact hround

/-- A penalty shows in the score. -/
theorem score_lt_ten_of_penalty (h : 1 / 10 ≤ penalty text chapters) :
    (analyze text chapters).score < 10 := by
  have hle : max 0 (min 10 (10 - penalty text chapters)) ≤ (99 / 10 : ℚ) := by
    refine max_le (by norm_num) (min_le_of_right_le ?_)
    linarith
  have hround : Decimal.roundTo 2 (99 / 10) < 10 := by decide +kernel
  exact (Decimal.roundTo_mono (le_max_left _ _) hle).trans_lt hround

theorem one_div_ten_le_penalty (h : exactCandidates text chapters ≠ [] ∨
    repeatedPhrases text chapters ≠ 0 ∨ similarCandidates text chapters ≠ []) :
    1 / 10 ≤ penalty text chapters := by
  have hexact : (0 : ℚ) ≤ (exactCandidates text chapters).length := Nat.cast_nonneg _
  have hphrases : (0 : ℚ) ≤ repeatedPhrases text chapters := Nat.cast_nonneg _
  have hsimilar : (0 : ℚ) ≤ (similarCandidates text chapters).length := Nat.cast_nonneg _
  unfold penalty
  rcases h with h | h | h
  · have : (1 : ℚ) ≤ (exactCandidates text chapters).length := by
      exact_mod_cast List.length_pos_of_ne_nil h
    linarith
  · have : (1 : ℚ) ≤ repeatedPhrases text chapters := by
      exact_mod_cast Nat.one_le_iff_ne_zero.mpr h
    linarith
  · have : (1 : ℚ) ≤ (similarCandidates text chapters).length := by
      exact_mod_cast List.length_pos_of_ne_nil h
    linarith

theorem score_eq_ten_iff_nil :
    (analyze text chapters).score = 10 ↔ exactCandidates text chapters = [] ∧
      repeatedPhrases text chapters = 0 ∧ similarCandidates text chapters = [] := by
  constructor
  · intro hten
    by_contra hfound
    rw [not_and_or, not_and_or] at hfound
    exact (score_lt_ten_of_penalty (one_div_ten_le_penalty hfound)).ne hten
  · rintro ⟨hexact, hphrases, hsimilar⟩
    apply score_of_penalty_eq_zero
    rw [penalty, hexact, hphrases, hsimilar]
    norm_num

/-- **A book has the full score** exactly if it is free of repetition. -/
theorem score_eq_ten_iff : (analyze text chapters).score = 10 ↔ Free text chapters := by
  rw [score_eq_ten_iff_nil, exactCandidates_eq_nil_iff, repeatedPhrases_eq_zero_iff,
    similarCandidates_eq_nil_iff]
  constructor
  · rintro ⟨hparagraphs, hphrases, hscenes⟩
    exact ⟨hparagraphs, hscenes, hphrases⟩
  · intro h
    exact ⟨h.paragraphs, h.phrases, h.scenes⟩

end RepetitionDetector

end StoryForge
