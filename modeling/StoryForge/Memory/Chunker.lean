import StoryForge.Chapters.Models
import StoryForge.Library.Dict
import StoryForge.Library.Text

/-!
# `MemoryChunker`

A text is cut at headings, paragraphs and sentences before a hard limit is used, and the pieces
are packed into chunks that overlap. Texts are lists of characters here. The regular expressions
are translated into the functions that find their matches.

The sentence boundary takes a closing mark after the sentence with it, so that a segment that is
cut at sentences loses the mark. `dropMarks` says what is left of a segment.

## Main results

* `ink_structuralSegments` — segments have the ink of the text;
* `ink_boundedSegments`, `ink_pieces_of_segment` — what is left of a segment;
* `inked_boundedSegments` — no piece is blank.
-/

namespace StoryForge.Memory

/-! ### Configuration -/

/-- `ChunkingConfig`, with its checks. -/
structure ChunkingConfig where
  targetChars : ℕ
  maxChars : ℕ
  overlapChars : ℕ
  maxChunksPerSource : ℕ
  tokenEstimatorVersion : String
  target_valid : 50 ≤ targetChars
  max_valid : targetChars ≤ maxChars
  overlap_valid : overlapChars < targetChars
  count_valid : 1 ≤ maxChunksPerSource

theorem ChunkingConfig.maxChars_pos (config : ChunkingConfig) : 0 < config.maxChars := by
  have htarget := config.target_valid
  have hmax := config.max_valid
  omega

/-- A bounded chunk of a source. The values of `metadata` are texts. -/
structure ChunkDraft where
  chunkIndex : ℕ
  content : List Char
  contentHash : String
  tokenEstimate : ℕ
  characterCount : ℕ
  metadata : List (String × String)
  deriving DecidableEq, Repr

/-! ### Segments -/

/-- `content.replace("\r\n", "\n")`. -/
def joinLineEnds : List Char → List Char
  | '\r' :: '\n' :: rest => '\n' :: joinLineEnds rest
  | c :: rest => c :: joinLineEnds rest
  | [] => []

/-- The content with its line ends normalized, stripped. -/
def normalizeContent (content : List Char) : List Char :=
  Text.strip isSpace ((joinLineEnds content).map fun c => if c = '\r' then '\n' else c)

/-- Whether `#{1,6}\s+` matches. -/
def isHeading (text : List Char) : Bool :=
  let marks := (text.takeWhile (· == '#')).length
  decide (1 ≤ marks ∧ marks ≤ 6) && (text.drop marks).head?.any isSpace

/-- `_HEADING.sub`: headings become paragraphs. -/
def breakHeadings : Bool → List Char → List Char
  | _, [] => []
  | lineStart, c :: rest =>
      (if lineStart && isHeading (c :: rest) then ['\n', '\n'] else []) ++
        c :: breakHeadings (c == '\n') rest

/-- How much of a text `\n\s*\n+` matches: up to the last line end of the blanks after the
first. -/
def paragraphBreak : List Char → Option ℕ
  | '\n' :: rest =>
      let blanks := rest.takeWhile isSpace
      if '\n' ∈ blanks then
        some (1 + (blanks.reverse.dropWhile (· != '\n')).length)
      else none
  | _ => none

/-- `re.split(r"\n\s*\n+", content)`. The first argument is what is left of a match, and the
second one the part so far, backwards. -/
def splitParagraphs : ℕ → List Char → List Char → List (List Char)
  | _, part, [] => [part.reverse]
  | skip + 1, part, _ :: rest => splitParagraphs skip part rest
  | 0, part, c :: rest =>
      match paragraphBreak (c :: rest) with
      | some size => part.reverse :: splitParagraphs (size - 1) [] rest
      | none => splitParagraphs 0 (c :: part) rest

/-- `_structural_segments`. -/
def structuralSegments (content : List Char) : List (List Char) :=
  ((splitParagraphs 0 [] (breakHeadings true content)).map (Text.strip isSpace)).filter (· ≠ [])

/-! ### Sentences -/

/-- `[\u3002\uff01\uff1f.!?]`. -/
def isTerminator (c : Char) : Bool :=
  c == '。' || c == '！' || c == '？' || c == '.' || c == '!' || c == '?'

/-- `["'\u201d\u2019\uff09\u3011]`. -/
def isClosingMark (c : Char) : Bool :=
  c == '"' || c == '\'' || c == '”' || c == '’' || c == '）' || c == '】'

/-- How much of a text after a terminator `["'\u201d\u2019\uff09\u3011]?\s*` matches. -/
def boundarySize : List Char → ℕ
  | [] => 0
  | c :: rest =>
      if isClosingMark c then 1 + (rest.takeWhile isSpace).length
      else ((c :: rest).takeWhile isSpace).length

/-- `_SENTENCE_BOUNDARY.split`. The first argument is what is left of a match, and the second one
the sentence so far, backwards. -/
def splitSentences : ℕ → List Char → List Char → List (List Char)
  | _, sentence, [] => [sentence.reverse]
  | skip + 1, sentence, _ :: rest => splitSentences skip sentence rest
  | 0, sentence, c :: rest =>
      if isTerminator c then
        (c :: sentence).reverse :: splitSentences (boundarySize rest) [] rest
      else splitSentences 0 (c :: sentence) rest

/-- The sentences of a segment. -/
def sentencesOf (segment : List Char) : List (List Char) :=
  ((splitSentences 0 [] segment).map (Text.strip isSpace)).filter (· ≠ [])

/-! ### Pieces -/

namespace ChunkingConfig

variable (config : ChunkingConfig)

/-- `_hard_split`. -/
def hardSplit (value : List Char) : List (List Char) :=
  ((Text.slices config.maxChars value).map (Text.strip isSpace)).filter (· ≠ [])

/-- One turn of the loop of `_bounded_segments`. -/
def packSentence (state : List (List Char) × List Char) (sentence : List Char) :
    List (List Char) × List Char :=
  let (output, current) := state
  if config.maxChars < sentence.length then
    ((if current ≠ [] then output ++ [current] else output) ++ config.hardSplit sentence, [])
  else if current ≠ [] ∧ config.maxChars < current.length + sentence.length then
    (output ++ [current], sentence)
  else (output, current ++ sentence)

/-- `_bounded_segments`. -/
def boundedSegments (segment : List Char) : List (List Char) :=
  if segment.length ≤ config.maxChars then [segment]
  else if (sentencesOf segment).length ≤ 1 then config.hardSplit segment
  else
    let (output, current) := (sentencesOf segment).foldl config.packSentence ([], [])
    if current ≠ [] then output ++ [current] else output

/-! ### Packing -/

/-- `text.find(part)`. -/
def findText (part : List Char) (text : List Char) : Option ℕ :=
  (List.range (text.length + 1)).find? fun index => part.isPrefixOf (text.drop index)

/-- `_overlap`. -/
def overlap (value : List Char) : List Char :=
  if config.overlapChars = 0 then []
  else
    let tail := value.drop (value.length - config.overlapChars)
    let boundaries := [findText ['。'] tail, findText ['！'] tail, findText ['？'] tail,
      findText ['.', ' '] tail]
    match (boundaries.filterMap id).max? with
    | some boundary => Text.strip isSpace (tail.drop (boundary + 1))
    | none => Text.strip isSpace tail

/-- The chunks so far and the one in progress. -/
structure Packing where
  chunks : List (List Char)
  current : List Char

/-- A piece is added to the chunk in progress, or starts the next one. -/
def place (packing : Packing) (piece : List Char) : Packing :=
  let separator := if packing.current ≠ [] then ['\n', '\n'] else []
  if packing.current ≠ [] ∧
      config.targetChars < packing.current.length + separator.length + piece.length then
    let overlap := config.overlap packing.current
    { chunks := packing.chunks ++ [Text.strip isSpace packing.current]
      current := if overlap ≠ [] then Text.strip isSpace (overlap ++ ['\n', '\n'] ++ piece) else piece }
  else
    { packing with current := Text.strip isSpace (packing.current ++ separator ++ piece) }

/-- One turn of the loop of `chunk`. -/
def packPiece (packing : Packing) (piece : List Char) : Except Error Packing :=
  let packing := config.place packing piece
  if config.maxChars < packing.current.length then
    match (config.hardSplit packing.current).getLast? with
    | some last =>
        .ok ⟨packing.chunks ++ (config.hardSplit packing.current).dropLast, last⟩
    | none => .error (.other "IndexError" "list index out of range")
  else .ok packing

/-- `_token_estimate`. -/
def tokenEstimate (value : List Char) : ℕ :=
  let cjk := value.countP fun c =>
    (0x3400 ≤ c.toNat && c.toNat ≤ 0x4dbf) || (0x4e00 ≤ c.toNat && c.toNat ≤ 0x9fff)
  cjk + (value.length - cjk + 3) / 4

/-- `Source exceeds the configured memory chunk limit`. -/
def chunkLimitError : Error :=
  .other "ValueError" "Source exceeds the configured memory chunk limit"

/-- The finished chunks. -/
def Packing.items (packing : Packing) : List (List Char) :=
  (if packing.current ≠ [] then packing.chunks ++ [Text.strip isSpace packing.current]
    else packing.chunks).filter (· ≠ [])

/-- `{**base, **(metadata or {})}`. -/
def baseMetadata (sourceType language : String) (metadata : List (String × String)) :
    List (String × String) :=
  metadata.foldl (fun base entry => Dict.set entry.1 entry.2 base)
    [("source_type", sourceType), ("language", language),
      ("token_estimator", config.tokenEstimatorVersion)]

/-- The draft of a chunk. -/
def draft (sha256 : List Char → String) (metadata : List (String × String)) (index : ℕ)
    (item : List Char) : ChunkDraft where
  chunkIndex := index
  content := item
  contentHash := sha256 item
  tokenEstimate := tokenEstimate item
  characterCount := item.length
  metadata := metadata

/-- `chunk`. -/
def chunk (sha256 : List Char → String) (content : List Char) (sourceType language : String)
    (metadata : List (String × String)) : Except Error (List ChunkDraft) :=
  let normalized := normalizeContent content
  if normalized = [] then .ok []
  else do
    let pieces := (structuralSegments normalized).flatMap config.boundedSegments
    let packing ← pieces.foldlM config.packPiece ⟨[], []⟩
    if config.maxChunksPerSource < packing.items.length then .error chunkLimitError
    else
      .ok (packing.items.mapIdx
        (draft sha256 (config.baseMetadata sourceType language metadata)))

end ChunkingConfig

/-! ### The ink of the segments -/

theorem ink_joinLineEnds (content : List Char) :
    Text.ink isSpace (joinLineEnds content) = Text.ink isSpace content := by
  induction content using joinLineEnds.induct with
  | case1 rest ih =>
      rw [joinLineEnds, Text.ink_cons_of_blank (by decide), Text.ink_cons_of_blank (by decide),
        Text.ink_cons_of_blank (by decide), ih]
  | case2 c rest hnot ih =>
      rw [joinLineEnds]
      · cases hc : isSpace c with
        | true => rw [Text.ink_cons_of_blank hc, Text.ink_cons_of_blank hc, ih]
        | false => rw [Text.ink_cons_of_not hc, Text.ink_cons_of_not hc, ih]
      · exact hnot
  | case3 => rfl

/-- Normalizing line ends keeps the ink. -/
theorem ink_normalizeContent (content : List Char) :
    Text.ink isSpace (normalizeContent content) = Text.ink isSpace content := by
  have hmap : ∀ text : List Char,
      Text.ink isSpace (text.map fun c => if c = '\r' then '\n' else c) =
        Text.ink isSpace text := by
    intro text
    induction text with
    | nil => rfl
    | cons c rest ih =>
        rw [List.map_cons]
        by_cases hc : c = '\r'
        · rw [if_pos hc, hc, Text.ink_cons_of_blank (by decide),
            Text.ink_cons_of_blank (by decide), ih]
        · rw [if_neg hc]
          cases hblank : isSpace c with
          | true => rw [Text.ink_cons_of_blank hblank, Text.ink_cons_of_blank hblank, ih]
          | false => rw [Text.ink_cons_of_not hblank, Text.ink_cons_of_not hblank, ih]
  rw [normalizeContent, Text.ink_strip, hmap, ink_joinLineEnds]

theorem ink_breakHeadings (lineStart : Bool) (text : List Char) :
    Text.ink isSpace (breakHeadings lineStart text) = Text.ink isSpace text := by
  induction text generalizing lineStart with
  | nil => rfl
  | cons c rest ih =>
      have hbreak : Text.ink isSpace
          (if lineStart && isHeading (c :: rest) then ['\n', '\n'] else []) = [] := by
        split
        · exact Text.ink_of_blank (List.all_eq_true.mp (by decide))
        · rfl
      rw [breakHeadings, Text.ink_append, hbreak, List.nil_append]
      cases hc : isSpace c with
      | true => rw [Text.ink_cons_of_blank hc, Text.ink_cons_of_blank hc, ih]
      | false => rw [Text.ink_cons_of_not hc, Text.ink_cons_of_not hc, ih]

/-- A break between paragraphs is blank. -/
theorem blank_of_paragraphBreak {c : Char} {rest : List Char} {size : ℕ}
    (h : paragraphBreak (c :: rest) = some size) :
    isSpace c = true ∧ ∀ other ∈ rest.take (size - 1), isSpace other = true := by
  unfold paragraphBreak at h
  split at h
  · next heq =>
      obtain ⟨rfl, rfl⟩ := List.cons.inj heq
      dsimp only at h
      split at h
      · obtain rfl := Option.some.inj h
        refine ⟨by decide, fun other hother => ?_⟩
        refine Text.blank_of_mem_take ?_ other hother
        have hsuffix := (List.dropWhile_suffix (l := (rest.takeWhile isSpace).reverse)
          (· != '\n')).length_le
        rw [List.length_reverse] at hsuffix
        omega
      · contradiction
  · contradiction

/-- Splitting at breaks keeps the ink. -/
theorem ink_splitParagraphs (text : List Char) : ∀ (skip : ℕ) (part : List Char),
    (∀ c ∈ text.take skip, isSpace c = true) →
      Text.ink isSpace (splitParagraphs skip part text).flatten =
        Text.ink isSpace part.reverse ++ Text.ink isSpace text := by
  induction text with
  | nil =>
      intro skip part _
      simp [splitParagraphs]
  | cons c rest ih =>
      intro skip part hskip
      cases skip with
      | succ skip =>
          have hc : isSpace c = true := hskip c (by simp)
          rw [splitParagraphs, ih skip part fun other hother => hskip other (by simp [hother]),
            Text.ink_cons_of_blank hc]
      | zero =>
          rw [splitParagraphs]
          cases hbreak : paragraphBreak (c :: rest) with
          | some size =>
              obtain ⟨hc, hrest⟩ := blank_of_paragraphBreak hbreak
              rw [List.flatten_cons, Text.ink_append, ih (size - 1) [] hrest,
                Text.ink_cons_of_blank hc]
              rfl
          | none =>
              rw [ih 0 (c :: part) (by simp), List.reverse_cons, Text.ink_append,
                List.append_assoc, ← Text.ink_append, List.singleton_append]

/-- Segments have the ink of the text. -/
theorem ink_structuralSegments (content : List Char) :
    Text.ink isSpace (structuralSegments content).flatten = Text.ink isSpace content := by
  rw [structuralSegments, Text.ink_stripped, ink_splitParagraphs _ _ _ (by simp),
    ink_breakHeadings]
  rfl

/-! ### The ink of the sentences -/

/-- What is left of a segment that is cut at sentences. The first argument is whether a sentence
has just ended. -/
def dropMarks : Bool → List Char → List Char
  | _, [] => []
  | ended, c :: rest =>
      if ended && isClosingMark c then dropMarks false rest
      else c :: dropMarks (isTerminator c) rest

theorem not_blank_of_isClosingMark {c : Char} (h : isClosingMark c = true) :
    isSpace c = false := by
  simp only [isClosingMark, Bool.or_eq_true, beq_iff_eq] at h
  rcases h with ((((rfl | rfl) | rfl) | rfl) | rfl) | rfl <;> decide

theorem not_blank_of_isTerminator {c : Char} (h : isTerminator c = true) :
    isSpace c = false := by
  simp only [isTerminator, Bool.or_eq_true, beq_iff_eq] at h
  rcases h with ((((rfl | rfl) | rfl) | rfl) | rfl) | rfl <;> decide

theorem dropMarks_of_not_mark (ended : Bool) {c : Char} (h : isClosingMark c = false)
    (rest : List Char) : dropMarks ended (c :: rest) = c :: dropMarks (isTerminator c) rest := by
  rw [dropMarks, h, Bool.and_false]
  rfl

theorem dropMarks_false (c : Char) (rest : List Char) :
    dropMarks false (c :: rest) = c :: dropMarks (isTerminator c) rest := rfl

/-- Splitting at the ends of sentences drops the closing marks there. -/
theorem ink_splitSentences (text : List Char) :
    (∀ (skip : ℕ) (sentence : List Char), (∀ c ∈ text.take skip, isSpace c = true) →
      Text.ink isSpace (splitSentences skip sentence text).flatten =
        Text.ink isSpace sentence.reverse ++ Text.ink isSpace (dropMarks false text)) ∧
    ∀ sentence : List Char,
      Text.ink isSpace (splitSentences (boundarySize text) sentence text).flatten =
        Text.ink isSpace sentence.reverse ++ Text.ink isSpace (dropMarks true text) := by
  induction text with
  | nil => simp [splitSentences, dropMarks]
  | cons c rest ih =>
      obtain ⟨ihSkip, ihEnd⟩ := ih
      have hskip : ∀ (skip : ℕ) (sentence : List Char),
          (∀ other ∈ (c :: rest).take skip, isSpace other = true) →
          Text.ink isSpace (splitSentences skip sentence (c :: rest)).flatten =
            Text.ink isSpace sentence.reverse ++
              Text.ink isSpace (dropMarks false (c :: rest)) := by
        intro skip sentence hblank
        rw [dropMarks_false]
        cases skip with
        | succ skip =>
            have hc : isSpace c = true := hblank c (by simp)
            have hterminator : isTerminator c = false := by
              by_contra hterminator
              rw [not_blank_of_isTerminator (by simpa using hterminator)] at hc
              contradiction
            rw [splitSentences, ihSkip skip sentence fun other hother => hblank other (by
              simp [hother]), hterminator, Text.ink_cons_of_blank hc]
        | zero =>
            rw [splitSentences]
            cases hterminator : isTerminator c with
            | true =>
                rw [if_pos rfl, List.flatten_cons, Text.ink_append, ihEnd, List.reverse_cons,
                  Text.ink_append, List.append_assoc, List.reverse_nil, Text.ink_nil,
                  List.nil_append, ← Text.ink_append, List.singleton_append]
            | false =>
                rw [if_neg (by simp), ihSkip 0 (c :: sentence) (by simp), List.reverse_cons,
                  Text.ink_append, List.append_assoc, ← Text.ink_append, List.singleton_append]
      refine ⟨hskip, fun sentence => ?_⟩
      cases hmark : isClosingMark c with
      | true =>
          -- the mark is taken with the boundary
          have hblank : ∀ other ∈ rest.take (rest.takeWhile isSpace).length,
              isSpace other = true := Text.blank_of_mem_take le_rfl
          rw [boundarySize, if_pos hmark, Nat.add_comm, splitSentences, ihSkip _ _ hblank,
            dropMarks, hmark]
          rfl
      | false =>
          have hblank : ∀ other ∈ (c :: rest).take ((c :: rest).takeWhile isSpace).length,
              isSpace other = true := Text.blank_of_mem_take le_rfl
          rw [boundarySize, if_neg (by simp [hmark]), hskip _ _ hblank, dropMarks_false,
            dropMarks_of_not_mark true hmark]

theorem ink_sentencesOf (segment : List Char) :
    Text.ink isSpace (sentencesOf segment).flatten =
      Text.ink isSpace (dropMarks false segment) := by
  rw [sentencesOf, Text.ink_stripped, (ink_splitSentences segment).1 0 [] (by simp)]
  rfl

/-- A sentence ends in a closing mark. -/
def EndsInMark (text : List Char) : Prop :=
  ∃ terminator mark, isTerminator terminator = true ∧ isClosingMark mark = true ∧
    [terminator, mark] <:+: text

theorem endsInMark_cons {c : Char} {rest : List Char} :
    EndsInMark (c :: rest) ↔
      (isTerminator c = true ∧ ∃ mark ∈ rest.head?, isClosingMark mark = true) ∨
        EndsInMark rest := by
  constructor
  · rintro ⟨terminator, mark, hterminator, hmark, hinfix⟩
    rcases List.infix_cons_iff.mp hinfix with hprefix_ | hrest
    · obtain ⟨rfl, tail, htail⟩ := List.cons_prefix_cons.mp hprefix_
      refine .inl ⟨hterminator, mark, ?_, hmark⟩
      rw [← htail]
      rfl
    · exact .inr ⟨terminator, mark, hterminator, hmark, hrest⟩
  · rintro (⟨hterminator, mark, hhead, hmark⟩ | ⟨terminator, mark, hterminator, hmark, hinfix⟩)
    · obtain ⟨tail, rfl⟩ : ∃ tail, rest = mark :: tail := by
        cases rest with
        | nil => simp at hhead
        | cons first tail =>
            obtain rfl := Option.some.inj hhead
            exact ⟨tail, rfl⟩
      exact ⟨c, mark, hterminator, hmark, ⟨[], tail, rfl⟩⟩
    · exact ⟨terminator, mark, hterminator, hmark, hinfix.trans (List.suffix_cons _ _).isInfix⟩

/-- A text loses a mark, after the end of a sentence or within it. -/
def LosesMark (ended : Bool) (text : List Char) : Prop :=
  (ended = true ∧ ∃ mark ∈ text.head?, isClosingMark mark = true) ∨ EndsInMark text

theorem ink_dropMarks (text : List Char) : ∀ ended : Bool,
    (LosesMark ended text →
      (Text.ink isSpace (dropMarks ended text)).length < (Text.ink isSpace text).length) ∧
    (¬ LosesMark ended text → dropMarks ended text = text) := by
  induction text with
  | nil =>
      intro ended
      refine ⟨?_, fun _ => rfl⟩
      rintro (⟨-, mark, hmark, -⟩ | ⟨terminator, mark, -, -, hinfix⟩)
      · simp at hmark
      · simp at hinfix
  | cons c rest ih =>
      intro ended
      by_cases hdrop : (ended && isClosingMark c) = true
      · obtain ⟨hended, hmark⟩ := Bool.and_eq_true_iff.mp hdrop
        have hlose : LosesMark ended (c :: rest) := .inl ⟨hended, c, rfl, hmark⟩
        refine ⟨fun _ => ?_, fun hkeep => absurd hlose hkeep⟩
        have hle : (Text.ink isSpace (dropMarks false rest)).length ≤
            (Text.ink isSpace rest).length := by
          by_cases hrest : LosesMark false rest
          · exact ((ih false).1 hrest).le
          · rw [(ih false).2 hrest]
        rw [dropMarks, if_pos hdrop, Text.ink_cons_of_not (not_blank_of_isClosingMark hmark),
          List.length_cons]
        omega
      · have hrest : LosesMark ended (c :: rest) ↔ LosesMark (isTerminator c) rest := by
          unfold LosesMark
          rw [endsInMark_cons, or_iff_right]
          rintro ⟨hended, mark, hhead, hmark⟩
          obtain rfl := Option.some.inj hhead
          exact hdrop (Bool.and_eq_true_iff.mpr ⟨hended, hmark⟩)
        rw [hrest, dropMarks, if_neg hdrop]
        refine ⟨fun hlose => ?_, fun hkeep => by rw [(ih _).2 hkeep]⟩
        have hlt := (ih _).1 hlose
        cases hblank : isSpace c with
        | true => rwa [Text.ink_cons_of_blank hblank, Text.ink_cons_of_blank hblank]
        | false =>
            rw [Text.ink_cons_of_not hblank, Text.ink_cons_of_not hblank, List.length_cons,
              List.length_cons]
            omega

/-- The end of a sentence is never dropped with its mark. -/
theorem ink_dropMarks_ne_nil {text : List Char} (h : Text.ink isSpace text ≠ []) :
    Text.ink isSpace (dropMarks false text) ≠ [] := by
  induction text with
  | nil => exact h
  | cons c rest ih =>
      rw [dropMarks_false]
      cases hblank : isSpace c with
      | false =>
          rw [Text.ink_cons_of_not hblank]
          exact List.cons_ne_nil _ _
      | true =>
          have hterminator : isTerminator c = false := by
            by_contra hterminator
            rw [not_blank_of_isTerminator (by simpa using hterminator)] at hblank
            contradiction
          rw [Text.ink_cons_of_blank hblank] at h ⊢
          rw [hterminator]
          exact ih h

/-! ### The ink of the pieces -/

section Pieces

variable (config : ChunkingConfig)

/-- A hard split keeps the ink. -/
theorem ink_hardSplit (value : List Char) :
    Text.ink isSpace (config.hardSplit value).flatten = Text.ink isSpace value := by
  rw [ChunkingConfig.hardSplit, Text.ink_stripped, Text.flatten_slices config.maxChars_pos]

/-- The parts of a hard split are not blank, and within the limit. -/
theorem mem_hardSplit {value part : List Char} (h : part ∈ config.hardSplit value) :
    Text.ink isSpace part ≠ [] ∧ part.length ≤ config.maxChars := by
  obtain ⟨hmem, hne⟩ := List.mem_filter.mp h
  obtain ⟨slice, hslice, rfl⟩ := List.mem_map.mp hmem
  rw [Text.ink_strip]
  refine ⟨fun hnil => of_decide_eq_true hne (Text.strip_eq_nil.mpr hnil), ?_⟩
  exact (Text.length_strip_le slice).trans (Text.length_le_of_mem_slices hslice)

/-- What `_bounded_segments` has packed. -/
def packed (state : List (List Char) × List Char) : List Char := state.1.flatten ++ state.2

/-- Adding a sentence adds its ink. -/
theorem ink_packSentence (state : List (List Char) × List Char) (sentence : List Char) :
    Text.ink isSpace (packed (config.packSentence state sentence)) =
      Text.ink isSpace (packed state) ++ Text.ink isSpace sentence := by
  obtain ⟨output, current⟩ := state
  unfold ChunkingConfig.packSentence packed
  dsimp only
  split
  · split
    · simp [ink_hardSplit]
    · next hcurrent =>
        have hnil : current = [] := by simpa using hcurrent
        simp [ink_hardSplit, hnil]
  · split
    · simp
    · simp

theorem ink_foldl_packSentence (sentences : List (List Char)) :
    ∀ state : List (List Char) × List Char,
      Text.ink isSpace (packed (sentences.foldl config.packSentence state)) =
        Text.ink isSpace (packed state) ++ Text.ink isSpace sentences.flatten := by
  induction sentences with
  | nil => simp
  | cons sentence rest ih =>
      intro state
      rw [List.foldl_cons, ih, ink_packSentence, List.flatten_cons, Text.ink_append,
        List.append_assoc]

/-- A segment is cut at its sentences. -/
def ChunkingConfig.CutAtSentences (segment : List Char) : Prop :=
  config.maxChars < segment.length ∧ 1 < (sentencesOf segment).length

/-- What is left of a segment that is cut. -/
theorem ink_boundedSegments (segment : List Char) :
    (config.CutAtSentences segment → Text.ink isSpace (config.boundedSegments segment).flatten =
      Text.ink isSpace (dropMarks false segment)) ∧
    (¬ config.CutAtSentences segment →
      Text.ink isSpace (config.boundedSegments segment).flatten = Text.ink isSpace segment) := by
  have hfold := ink_foldl_packSentence config (sentencesOf segment) ([], [])
  rw [ink_sentencesOf] at hfold
  unfold ChunkingConfig.CutAtSentences ChunkingConfig.boundedSegments
  by_cases hshort : segment.length ≤ config.maxChars
  · rw [if_pos hshort]
    exact ⟨fun h => absurd h.1 (by omega), fun _ => by simp⟩
  · rw [if_neg hshort]
    by_cases hfew : (sentencesOf segment).length ≤ 1
    · rw [if_pos hfew]
      exact ⟨fun h => absurd h.2 (by omega), fun _ => ink_hardSplit config segment⟩
    · rw [if_neg hfew]
      refine ⟨fun _ => ?_, fun h => absurd ⟨by omega, by omega⟩ h⟩
      dsimp only
      split
      · simpa [packed] using hfold
      · next hcurrent =>
          have hnil : ((sentencesOf segment).foldl config.packSentence ([], [])).2 = [] := by
            simpa using hcurrent
          simpa [packed, hnil] using hfold

/-- A segment that is cut loses the closing marks after its sentences. -/
def ChunkingConfig.LosesMark (segment : List Char) : Prop :=
  config.CutAtSentences segment ∧ EndsInMark segment

/-- The pieces of a segment have its ink, unless it loses a mark. -/
theorem ink_pieces_of_segment (segment : List Char) :
    (config.LosesMark segment → (Text.ink isSpace (config.boundedSegments segment).flatten).length <
      (Text.ink isSpace segment).length) ∧
    (¬ config.LosesMark segment →
      Text.ink isSpace (config.boundedSegments segment).flatten = Text.ink isSpace segment) := by
  obtain ⟨hcut, hwhole⟩ := ink_boundedSegments config segment
  obtain ⟨hlose, hkeep⟩ := ink_dropMarks segment false
  have hmark : LosesMark false segment ↔ EndsInMark segment :=
    or_iff_right fun h => Bool.false_ne_true h.1
  rw [hmark] at hlose hkeep
  constructor
  · rintro ⟨hsentences, hends⟩
    rw [hcut hsentences]
    exact hlose hends
  · intro h
    by_cases hsentences : config.CutAtSentences segment
    · rw [hcut hsentences, hkeep fun hends => h ⟨hsentences, hends⟩]
    · exact hwhole hsentences

/-- The pieces of a segment that is not blank are not all blank. -/
theorem ink_pieces_ne_nil {segment : List Char} (h : Text.ink isSpace segment ≠ []) :
    Text.ink isSpace (config.boundedSegments segment).flatten ≠ [] := by
  obtain ⟨hcut, hwhole⟩ := ink_boundedSegments config segment
  by_cases hsentences : config.CutAtSentences segment
  · rw [hcut hsentences]
    exact ink_dropMarks_ne_nil h
  · rwa [hwhole hsentences]

/-- Parts that are not blank. -/
def Inked (parts : List (List Char)) : Prop := ∀ part ∈ parts, Text.ink isSpace part ≠ []

theorem Inked.append {parts others : List (List Char)} (h : Inked parts) (h' : Inked others) :
    Inked (parts ++ others) := by
  intro part hpart
  rcases List.mem_append.mp hpart with hmem | hmem
  · exact h part hmem
  · exact h' part hmem

theorem Inked.concat {parts : List (List Char)} {part : List Char} (h : Inked parts)
    (h' : Text.ink isSpace part ≠ []) : Inked (parts ++ [part]) := by
  refine h.append fun other hother => ?_
  obtain rfl := List.mem_singleton.mp hother
  exact h'

/-- What is stripped and not empty is not blank. -/
theorem inked_stripped (parts : List (List Char)) :
    Inked ((parts.map (Text.strip isSpace)).filter (· ≠ [])) := by
  intro part hpart
  obtain ⟨hmem, hne⟩ := List.mem_filter.mp hpart
  obtain ⟨whole, -, rfl⟩ := List.mem_map.mp hmem
  rw [Text.ink_strip]
  exact fun hnil => of_decide_eq_true hne (Text.strip_eq_nil.mpr hnil)

/-- Packing keeps parts that are not blank. -/
theorem inked_packSentence {state : List (List Char) × List Char} {sentence : List Char}
    (houtput : Inked state.1) (hcurrent : state.2 ≠ [] → Text.ink isSpace state.2 ≠ [])
    (hsentence : Text.ink isSpace sentence ≠ []) :
    Inked (config.packSentence state sentence).1 ∧
      ((config.packSentence state sentence).2 ≠ [] →
        Text.ink isSpace (config.packSentence state sentence).2 ≠ []) := by
  obtain ⟨output, current⟩ := state
  unfold ChunkingConfig.packSentence
  dsimp only at houtput hcurrent ⊢
  split
  · refine ⟨Inked.append ?_ (inked_stripped _), fun h => absurd rfl h⟩
    split
    · next hne => exact houtput.concat (hcurrent hne)
    · exact houtput
  · split
    · next hfull => exact ⟨houtput.concat (hcurrent hfull.1), fun _ => hsentence⟩
    · refine ⟨houtput, fun _ => ?_⟩
      rw [Text.ink_append]
      exact List.append_ne_nil_of_right_ne_nil _ hsentence

/-- The pieces of a segment are not blank. -/
theorem inked_boundedSegments {segment : List Char} (h : Text.ink isSpace segment ≠ []) :
    Inked (config.boundedSegments segment) := by
  have hfold : ∀ (sentences : List (List Char)) (state : List (List Char) × List Char),
      Inked sentences → Inked state.1 → (state.2 ≠ [] → Text.ink isSpace state.2 ≠ []) →
      Inked (sentences.foldl config.packSentence state).1 ∧
        ((sentences.foldl config.packSentence state).2 ≠ [] →
          Text.ink isSpace (sentences.foldl config.packSentence state).2 ≠ []) := by
    intro sentences
    induction sentences with
    | nil => exact fun state _ houtput hcurrent => ⟨houtput, hcurrent⟩
    | cons sentence rest ih =>
        intro state hsentences houtput hcurrent
        obtain ⟨houtput', hcurrent'⟩ := inked_packSentence config houtput hcurrent
          (hsentences sentence List.mem_cons_self)
        exact ih _ (fun part hpart => hsentences part (List.mem_cons_of_mem _ hpart)) houtput'
          hcurrent'
  unfold ChunkingConfig.boundedSegments
  split
  · intro part hpart
    obtain rfl := List.mem_singleton.mp hpart
    exact h
  · split
    · exact inked_stripped _
    · obtain ⟨houtput, hcurrent⟩ := hfold (sentencesOf segment) ([], []) (inked_stripped _)
        (by simp [Inked]) (fun hne => absurd rfl hne)
      dsimp only
      split
      · next hne => exact houtput.concat (hcurrent hne)
      · exact houtput

end Pieces

end StoryForge.Memory
