import StoryForge.Memory.Chunker

/-!
# What chunks keep

Packing pieces into chunks adds overlaps and never drops a character. This module follows the
ink of a text through the chunker, and the lengths of the chunks.

## Main results

* `chunk_cases` — a text is chunked, or has too many chunks;
* `chunk_bounded` — chunks are numbered, not blank, and within the limits;
* `chunk_lossless` — when the chunks have all of the text;
* `mark_lost` — a closing mark that is not in any chunk.
-/

namespace StoryForge.Memory

/-! ### Packing -/

namespace ChunkingConfig

variable (config : ChunkingConfig)

/-- What has been packed so far. -/
def Packing.ink (packing : Packing) : List Char :=
  Text.ink isSpace (packing.chunks.flatten ++ packing.current)

/-- A finished chunk is within the limit, and empty if it is blank. -/
def Finished (item : List Char) : Prop :=
  (item ≠ [] → Text.ink isSpace item ≠ []) ∧ item.length ≤ config.maxChars

/-- What is stripped is finished, if it is within the limit. -/
theorem finished_strip {value : List Char} (h : value.length ≤ config.maxChars) :
    config.Finished (Text.strip isSpace value) :=
  ⟨Text.ink_strip_ne_nil, (Text.length_strip_le value).trans h⟩

/-- All chunks are finished, and the one in progress is within the limit. -/
def Packing.Within (packing : Packing) : Prop :=
  (∀ item ∈ packing.chunks, config.Finished item) ∧
    packing.current.length ≤ config.maxChars

/-- A piece is added to the chunk in progress, or starts a chunk with what overlaps. -/
theorem place_cases (packing : Packing) (piece : List Char) :
    (∃ before, (config.place packing piece).chunks = packing.chunks ∧
      (config.place packing piece).current =
        Text.strip isSpace (packing.current ++ before ++ piece) ∧
      Text.ink isSpace before = []) ∨
    (config.place packing piece).chunks =
        packing.chunks ++ [Text.strip isSpace packing.current] ∧
      ((config.place packing piece).current = piece ∨
        config.overlap packing.current ≠ [] ∧
          (config.place packing piece).current =
            Text.strip isSpace (config.overlap packing.current ++ ['\n', '\n'] ++ piece)) := by
  unfold place
  dsimp only
  by_cases hfull : packing.current ≠ [] ∧ config.targetChars <
      packing.current.length +
        (if packing.current ≠ [] then ['\n', '\n'] else []).length + piece.length
  · rw [if_pos hfull]
    refine .inr ⟨rfl, ?_⟩
    by_cases hoverlap : config.overlap packing.current = []
    · exact .inl (if_neg (by simp [hoverlap]))
    · exact .inr ⟨hoverlap, if_pos hoverlap⟩
  · rw [if_neg hfull]
    refine .inl ⟨_, rfl, rfl, ?_⟩
    split
    · exact Text.ink_of_blank (List.all_eq_true.mp (by decide))
    · rfl

/-- A piece that is placed leaves a chunk in progress that is not blank. -/
theorem place_current (packing : Packing) {piece : List Char}
    (hpiece : Text.ink isSpace piece ≠ []) :
    Text.ink isSpace (config.place packing piece).current ≠ [] := by
  rcases place_cases config packing piece with ⟨before, -, hcurrent, -⟩ | ⟨-, hcurrent | ⟨-, hcurrent⟩⟩
  · rw [hcurrent, Text.ink_strip, Text.ink_append]
    exact List.append_ne_nil_of_right_ne_nil _ hpiece
  · rwa [hcurrent]
  · rw [hcurrent, Text.ink_strip, Text.ink_append]
    exact List.append_ne_nil_of_right_ne_nil _ hpiece

/-- Placing a piece adds it, and perhaps an overlap before it. -/
theorem place_ink (packing : Packing) (piece : List Char) :
    ∃ overlap, (config.place packing piece).ink =
        packing.ink ++ overlap ++ Text.ink isSpace piece ∧
      (config.overlapChars = 0 → overlap = []) := by
  unfold Packing.ink
  rcases place_cases config packing piece with
    ⟨before, hchunks, hcurrent, hblank⟩ | ⟨hchunks, hcurrent | ⟨hoverlap, hcurrent⟩⟩
  · refine ⟨[], ?_, fun _ => rfl⟩
    rw [hchunks, hcurrent]
    simp [hblank]
  · refine ⟨[], ?_, fun _ => rfl⟩
    rw [hchunks, hcurrent]
    simp
  · refine ⟨Text.ink isSpace (config.overlap packing.current), ?_, fun hnone => ?_⟩
    · have hbreak : Text.ink isSpace ['\n', '\n'] = [] := Text.ink_of_blank (List.all_eq_true.mp (by decide))
      rw [hchunks, hcurrent]
      simp only [List.flatten_append, List.flatten_singleton, Text.ink_append, Text.ink_strip,
        hbreak, List.nil_append, List.append_assoc]
    · exact absurd (if_pos hnone) hoverlap

/-- What is finished when a piece is placed. -/
theorem place_chunks {packing : Packing} (h : packing.Within config) (piece : List Char) :
    ∀ item ∈ (config.place packing piece).chunks, config.Finished item := by
  intro item hitem
  rcases place_cases config packing piece with ⟨-, hchunks, -, -⟩ | ⟨hchunks, -⟩
  · rw [hchunks] at hitem
    exact h.1 item hitem
  · rw [hchunks] at hitem
    rcases List.mem_append.mp hitem with hmem | hmem
    · exact h.1 item hmem
    · obtain rfl := List.mem_singleton.mp hmem
      exact finished_strip config h.2

/-- A turn of the loop does not fail, adds its piece, and keeps the chunks within the limit. -/
theorem packPiece_ok {packing : Packing} (h : packing.Within config) {piece : List Char}
    (hpiece : Text.ink isSpace piece ≠ []) :
    ∃ packing', config.packPiece packing piece = .ok packing' ∧ packing'.Within config ∧
      ∃ overlap, packing'.ink = packing.ink ++ overlap ++ Text.ink isSpace piece ∧
        (config.overlapChars = 0 → overlap = []) := by
  have hcurrent := place_current config packing hpiece
  have hchunks := place_chunks config h piece
  obtain ⟨overlap, hink, hnone⟩ := place_ink config packing piece
  unfold packPiece
  dsimp only
  split
  · -- the chunk in progress is split, and its last part goes on
    have hsplit := ink_hardSplit config (config.place packing piece).current
    cases hlast : (config.hardSplit (config.place packing piece).current).getLast? with
    | none =>
        rw [List.getLast?_eq_none_iff.mp hlast] at hsplit
        exact absurd hsplit.symm hcurrent
    | some last =>
        refine ⟨_, rfl, ⟨fun item hitem => ?_, (mem_hardSplit config
          (List.mem_of_getLast? hlast)).2⟩, overlap, ?_, hnone⟩
        · rcases List.mem_append.mp hitem with hmem | hmem
          · exact hchunks item hmem
          · have hpart := mem_hardSplit config (List.dropLast_subset _ hmem)
            exact ⟨fun _ => hpart.1, hpart.2⟩
        · have hparts := List.dropLast_append_getLast? last hlast
          rw [← hink, Packing.ink, Packing.ink, Text.ink_append, Text.ink_append, ← hsplit,
            ← hparts]
          simp
  · exact ⟨_, rfl, ⟨hchunks, by omega⟩, overlap, hink, hnone⟩

/-- The loop does not fail, and the chunks have all pieces: only them without overlaps. -/
theorem packPieces_ok {pieces : List (List Char)} (hpieces : Inked pieces) :
    ∀ packing : Packing, packing.Within config →
      ∃ packing', pieces.foldlM config.packPiece packing = .ok packing' ∧
        packing'.Within config ∧
        (packing.ink ++ Text.ink isSpace pieces.flatten).Sublist packing'.ink ∧
        (config.overlapChars = 0 →
          packing'.ink = packing.ink ++ Text.ink isSpace pieces.flatten) := by
  induction pieces with
  | nil => exact fun packing h => ⟨packing, rfl, h, by simp, fun _ => by simp⟩
  | cons piece rest ih =>
      intro packing h
      obtain ⟨next, hnext, hwithin, overlap, hink, hnone⟩ :=
        packPiece_ok config h (hpieces piece List.mem_cons_self)
      obtain ⟨packing', hrest, hwithin', hsub, heq⟩ :=
        ih (fun part hpart => hpieces part (List.mem_cons_of_mem _ hpart)) next hwithin
      refine ⟨packing', ?_, hwithin', ?_, fun hoverlap => ?_⟩
      · rw [List.foldlM_cons, hnext]
        exact hrest
      · refine List.Sublist.trans ?_ hsub
        rw [hink, List.flatten_cons, Text.ink_append, ← List.append_assoc]
        refine List.Sublist.append_right ?_ _
        exact List.Sublist.append_right (List.sublist_append_left _ _) _
      · rw [heq hoverlap, hink, hnone hoverlap, List.flatten_cons, Text.ink_append]
        simp

end ChunkingConfig

/-! ### Chunks -/

section Chunks

variable (config : ChunkingConfig) (content : List Char)

/-- The pieces of a text. -/
def ChunkingConfig.piecesOf : List (List Char) :=
  (structuralSegments (normalizeContent content)).flatMap config.boundedSegments

/-- The segments of a text have its ink, and none is blank. -/
theorem ink_segments : Text.ink isSpace (structuralSegments (normalizeContent content)).flatten =
    Text.ink isSpace content := by
  rw [ink_structuralSegments, ink_normalizeContent]

theorem inked_piecesOf : Inked (config.piecesOf content) := by
  intro piece hpiece
  obtain ⟨segment, hsegment, hmem⟩ := List.mem_flatMap.mp hpiece
  exact inked_boundedSegments config (inked_stripped _ segment hsegment) piece hmem

/-- A text without segments is blank. -/
theorem normalizeContent_eq_nil : normalizeContent content = [] ↔ Text.ink isSpace content = [] := by
  constructor
  · intro h
    rw [← ink_normalizeContent, h, Text.ink_nil]
  · intro h
    rw [← ink_normalizeContent, normalizeContent, Text.ink_strip] at h
    exact Text.strip_eq_nil.mpr h

/-- A text has a segment that is cut and loses a mark. -/
def ChunkingConfig.LosesText : Prop :=
  ∃ segment ∈ structuralSegments (normalizeContent content), config.LosesMark segment

theorem ink_flatMap_boundedSegments (segments : List (List Char)) :
    ((∃ segment ∈ segments, config.LosesMark segment) →
      (Text.ink isSpace (segments.flatMap config.boundedSegments).flatten).length <
        (Text.ink isSpace segments.flatten).length) ∧
    ((∀ segment ∈ segments, ¬ config.LosesMark segment) →
      Text.ink isSpace (segments.flatMap config.boundedSegments).flatten =
        Text.ink isSpace segments.flatten) := by
  induction segments with
  | nil => simp
  | cons segment rest ih =>
      obtain ⟨hlose, hkeep⟩ := ink_pieces_of_segment config segment
      simp only [List.flatMap_cons, List.flatten_append, List.flatten_cons, Text.ink_append,
        List.length_append]
      have hle : (Text.ink isSpace (config.boundedSegments segment).flatten).length ≤
          (Text.ink isSpace segment).length := by
        by_cases h : config.LosesMark segment
        · exact (hlose h).le
        · rw [hkeep h]
      have hrest : (Text.ink isSpace (rest.flatMap config.boundedSegments).flatten).length ≤
          (Text.ink isSpace rest.flatten).length := by
        by_cases h : ∃ segment ∈ rest, config.LosesMark segment
        · exact (ih.1 h).le
        · rw [ih.2 fun other hother hloses => h ⟨other, hother, hloses⟩]
      constructor
      · rintro ⟨loser, hloser, hloses⟩
        rcases List.mem_cons.mp hloser with rfl | hmem
        · have := hlose hloses
          omega
        · have := ih.1 ⟨loser, hmem, hloses⟩
          omega
      · intro h
        rw [hkeep (h segment List.mem_cons_self),
          ih.2 fun other hother => h other (List.mem_cons_of_mem _ hother)]

/-- The pieces of a text have its ink, unless a segment loses a mark. -/
theorem ink_piecesOf :
    (config.LosesText content →
      (Text.ink isSpace (config.piecesOf content).flatten).length <
        (Text.ink isSpace content).length) ∧
    (¬ config.LosesText content →
      Text.ink isSpace (config.piecesOf content).flatten = Text.ink isSpace content) := by
  obtain ⟨hlose, hkeep⟩ := ink_flatMap_boundedSegments config
    (structuralSegments (normalizeContent content))
  rw [ink_segments] at hlose hkeep
  exact ⟨hlose, fun h => hkeep fun segment hsegment hloses => h ⟨segment, hsegment, hloses⟩⟩

/-- A text that is not blank has a piece that is not. -/
theorem ink_piecesOf_ne_nil (h : Text.ink isSpace content ≠ []) :
    Text.ink isSpace (config.piecesOf content).flatten ≠ [] := by
  rw [← ink_segments, Text.ink_flatten] at h
  obtain ⟨ink, hink, hne⟩ := List.flatten_ne_nil_iff.mp h
  obtain ⟨segment, hsegment, rfl⟩ := List.mem_map.mp hink
  intro hnil
  refine ink_pieces_ne_nil config hne (Text.ink_of_blank fun c hc => ?_)
  refine Text.ink_eq_nil.mp hnil c ?_
  obtain ⟨piece, hpiece, hmem⟩ := List.mem_flatten.mp hc
  exact List.mem_flatten.mpr ⟨piece, List.mem_flatMap.mpr ⟨segment, hsegment, hpiece⟩, hmem⟩

theorem flatten_filter_ne_nil (texts : List (List Char)) :
    (texts.filter (· ≠ [])).flatten = texts.flatten := by
  induction texts with
  | nil => rfl
  | cons text rest ih =>
      by_cases hnil : text = []
      · rw [List.filter_cons_of_neg (by simp [hnil]), ih, hnil, List.flatten_cons, List.nil_append]
      · rw [List.filter_cons_of_pos (by simp [hnil]), List.flatten_cons, ih, List.flatten_cons]

/-- The chunks have what was packed. -/
theorem ink_items (packing : ChunkingConfig.Packing) :
    Text.ink isSpace packing.items.flatten = packing.ink := by
  rw [ChunkingConfig.Packing.items, flatten_filter_ne_nil, ChunkingConfig.Packing.ink]
  split
  · simp
  · next hcurrent =>
      have hnil : packing.current = [] := by simpa using hcurrent
      rw [hnil, List.append_nil]

/-- The chunks are not blank, and within the limit. -/
theorem mem_items {packing : ChunkingConfig.Packing} (h : packing.Within config) :
    ∀ item ∈ packing.items, Text.strip isSpace item ≠ [] ∧ item.length ≤ config.maxChars := by
  intro item hitem
  obtain ⟨hmem, hne⟩ := List.mem_filter.mp hitem
  have hfinished : config.Finished item := by
    split at hmem
    · rcases List.mem_append.mp hmem with hchunk | hcurrent
      · exact h.1 item hchunk
      · obtain rfl := List.mem_singleton.mp hcurrent
        exact ChunkingConfig.finished_strip config h.2
    · exact h.1 item hmem
  refine ⟨fun hnil => ?_, hfinished.2⟩
  exact hfinished.1 (of_decide_eq_true hne) (Text.strip_eq_nil.mp hnil)

/-- A text is chunked, or has too many chunks. -/
theorem chunk_cases (sha256 : List Char → String) (sourceType language : String)
    (metadata : List (String × String)) :
    ∃ items : List (List Char),
      (∀ item ∈ items, Text.strip isSpace item ≠ [] ∧ item.length ≤ config.maxChars) ∧
      (Text.ink isSpace (config.piecesOf content).flatten).Sublist
        (Text.ink isSpace items.flatten) ∧
      (config.overlapChars = 0 → Text.ink isSpace items.flatten =
        Text.ink isSpace (config.piecesOf content).flatten) ∧
      (config.maxChunksPerSource < items.length →
        config.chunk sha256 content sourceType language metadata =
          .error ChunkingConfig.chunkLimitError) ∧
      (items.length ≤ config.maxChunksPerSource → ∃ drafts,
        config.chunk sha256 content sourceType language metadata = .ok drafts ∧
          drafts.map (·.content) = items ∧
          drafts.map (·.chunkIndex) = List.range items.length) := by
  by_cases hblank : normalizeContent content = []
  · -- a blank text has no chunks
    refine ⟨[], by simp, ?_, fun _ => ?_, fun h => absurd h (by simp), fun _ => ⟨[], ?_, rfl, rfl⟩⟩
    · rw [ChunkingConfig.piecesOf, hblank]
      exact .refl _
    · rw [ChunkingConfig.piecesOf, hblank]
      rfl
    · rw [ChunkingConfig.chunk, hblank]
      rfl
  · obtain ⟨packing, hpacking, hwithin, hsub, heq⟩ :=
      ChunkingConfig.packPieces_ok config (inked_piecesOf config content) ⟨[], []⟩
        ⟨by simp, Nat.zero_le _⟩
    have hempty : (⟨[], []⟩ : ChunkingConfig.Packing).ink = [] := rfl
    rw [hempty, List.nil_append] at hsub
    rw [hempty, List.nil_append] at heq
    refine ⟨packing.items, mem_items config hwithin, by rwa [ink_items], ?_, ?_, ?_⟩
    · intro hoverlap
      rw [ink_items, heq hoverlap]
    · intro hmany
      unfold ChunkingConfig.chunk
      rw [if_neg hblank]
      refine (congrArg (· >>= _) hpacking).trans ?_
      exact if_pos hmany
    · intro hfew
      refine ⟨packing.items.mapIdx (ChunkingConfig.draft sha256
        (config.baseMetadata sourceType language metadata)), ?_, ?_, ?_⟩
      · unfold ChunkingConfig.chunk
        rw [if_neg hblank]
        exact Except.bind_eq_ok.mpr ⟨packing, hpacking, if_neg (by omega)⟩
      · refine List.ext_getElem (by simp) fun index h h' => ?_
        simp [ChunkingConfig.draft]
      · refine List.ext_getElem (by simp) fun index h h' => ?_
        simp [ChunkingConfig.draft]

/-- Chunks are numbered from zero, not blank, no longer and no more than the limits allow, and a
text that is not blank has one; a text with too many chunks is refused, and nothing else is. -/
theorem chunk_bounded (sha256 : List Char → String) (sourceType language : String)
    (metadata : List (String × String)) :
    match config.chunk sha256 content sourceType language metadata with
    | .error error => error = ChunkingConfig.chunkLimitError
    | .ok drafts =>
        drafts.length ≤ config.maxChunksPerSource ∧
          drafts.map (·.chunkIndex) = List.range drafts.length ∧
          (∀ draft ∈ drafts, Text.strip isSpace draft.content ≠ [] ∧
            draft.content.length ≤ config.maxChars) ∧
          ((∃ c ∈ content, isSpace c = false) → drafts ≠ []) := by
  obtain ⟨items, hitems, hsub, -, hmany, hfew⟩ :=
    chunk_cases config content sha256 sourceType language metadata
  by_cases hcount : items.length ≤ config.maxChunksPerSource
  · obtain ⟨drafts, hdrafts, hcontents, hindices⟩ := hfew hcount
    have hlength : drafts.length = items.length := by rw [← hcontents, List.length_map]
    rw [hdrafts]
    refine ⟨by omega, by rw [hindices, hlength], fun draft hdraft => ?_, ?_⟩
    · exact hitems draft.content (hcontents ▸ List.mem_map_of_mem hdraft)
    · rintro ⟨c, hc, hblank⟩ hnil
      have hink : Text.ink isSpace content ≠ [] := by
        intro hnone
        rw [Text.ink_eq_nil.mp hnone c hc] at hblank
        contradiction
      rw [hnil, List.map_nil] at hcontents
      rw [← hcontents] at hsub
      exact ink_piecesOf_ne_nil config content hink (List.sublist_nil.mp hsub)
  · rw [hmany (by omega)]

/-- The chunks of a text have all of its characters but blanks, in order, when no segment loses
a mark; without overlaps only then. -/
theorem chunk_lossless (sha256 : List Char → String) (sourceType language : String)
    (metadata : List (String × String)) (drafts : List ChunkDraft)
    (h : config.chunk sha256 content sourceType language metadata = .ok drafts) :
    (¬ config.LosesText content →
      (Text.ink isSpace content).Sublist
        (Text.ink isSpace (drafts.map (·.content)).flatten)) ∧
    (config.overlapChars = 0 →
      (Text.ink isSpace content).Sublist
        (Text.ink isSpace (drafts.map (·.content)).flatten) →
      ¬ config.LosesText content) := by
  obtain ⟨items, -, hsub, heq, hmany, hfew⟩ :=
    chunk_cases config content sha256 sourceType language metadata
  obtain ⟨hlose, hkeep⟩ := ink_piecesOf config content
  have hcount : items.length ≤ config.maxChunksPerSource := by
    by_contra hcount
    rw [hmany (by omega)] at h
    contradiction
  obtain ⟨found, hfound, hcontents, -⟩ := hfew hcount
  rw [hfound] at h
  obtain rfl := Except.ok.inj h
  rw [hcontents]
  refine ⟨fun hwhole => ?_, fun hoverlap hall hloses => ?_⟩
  · rwa [hkeep hwhole] at hsub
  · have hlength := hall.length_le
    rw [heq hoverlap] at hlength
    have := hlose hloses
    omega

end Chunks

/-! ### Instances -/

/-- Chunks of fifty characters that do not overlap. -/
def smallChunks : ChunkingConfig where
  targetChars := 50
  maxChars := 50
  overlapChars := 0
  maxChunksPerSource := 200
  tokenEstimatorVersion := "char-cjk-v1"
  target_valid := le_rfl
  max_valid := le_rfl
  overlap_valid := by decide
  count_valid := by decide

/-- A quotation that ends with its sentence, in a paragraph that is too long for a chunk. -/
def quotation : List Char :=
  "She said \"we leave at dawn.\" Nobody in the harbour answered her.".toList

/-- Its closing mark is in no chunk. -/
theorem mark_lost : ∃ drafts,
    smallChunks.chunk (fun _ => "") quotation "chapter_content" "en" [] = .ok drafts ∧
      ¬ (Text.ink isSpace quotation).Sublist
        (Text.ink isSpace (drafts.map (·.content)).flatten) :=
  ⟨_, rfl, by decide +kernel⟩

/-- Two paragraphs that fit into a chunk each. -/
def paragraphs : List Char :=
  "She said \"we leave at dawn.\"\n\nNobody in the harbour answered her.".toList

/-- They lose nothing. -/
theorem chunk_lossless_paragraphs : ∃ drafts,
    smallChunks.chunk (fun _ => "") paragraphs "chapter_content" "en" [] = .ok drafts ∧
      drafts.length = 2 ∧
      (Text.ink isSpace paragraphs).Sublist
        (Text.ink isSpace (drafts.map (·.content)).flatten) := by
  refine ⟨_, rfl, by decide +kernel, (chunk_lossless smallChunks paragraphs (fun _ => "")
    "chapter_content" "en" [] _ rfl).1 ?_⟩
  have hshort : ∀ segment ∈ structuralSegments (normalizeContent paragraphs),
      segment.length ≤ 50 := by decide +kernel
  rintro ⟨segment, hsegment, ⟨hlong, -⟩, -⟩
  exact absurd (hshort segment hsegment) (Nat.not_le.mpr hlong)

end StoryForge.Memory
