import StoryForge.Retrieval.Hybrid

/-!
# What fusion merges

Visible hits of one key become one hit, the first of them. The key of a fact is its normalized
text, that of a passage is its hash if it has one, and else its normalized text. Normalizing keeps
ASCII letters and digits and two ranges of ideographs, and drops the letters of all other scripts.

## Main results

* `fuseAll_eq`, `mem_fuseAll` — an entry of the fusion has the visible hits of its key;
* `exists_visible_of_mem`, `exists_mem_fuseAll` — entries and visible hits correspond;
* `key_of_fact`, `key_of_hash`, `key_of_content` — what the key of a hit is;
* `keepsApart_iff` — hits with different letters or digits are kept apart exactly where they
  differ in characters that the normalization keeps;
* `facts_merged` — two facts in Russian are merged.
-/

namespace StoryForge.Retrieval

variable {S : Type} [Score S]

/-- A hit of a route, at its rank. -/
structure RankedHit (S : Type) where
  source : RetrievalSource
  hit : RetrievalHit S
  rank : ℕ

/-- The hits of the routes. -/
def rankedHits (perSource : List (RetrievalSource × List (RetrievalHit S))) :
    List (RankedHit S) :=
  perSource.flatMap fun route => (route.2.zipIdx 1).map fun ranked => ⟨route.1, ranked.1, ranked.2⟩

/-- Those that are visible to a request. -/
def visibleHits (request : HybridRetrievalRequest)
    (perSource : List (RetrievalSource × List (RetrievalHit S))) : List (RankedHit S) :=
  (rankedHits perSource).filter fun ranked => isVisible request ranked.hit

/-- What a hit adds to a score. -/
def RankedHit.share (retriever : HybridRetriever S) (ranked : RankedHit S) : S :=
  retriever.weights.of ranked.source / Score.ofRat (retriever.rrfK + ranked.rank : ℕ)

/-- A hit on its own. -/
def RankedHit.alone (retriever : HybridRetriever S) (ranked : RankedHit S) : FusedHit S :=
  ⟨ranked.hit, Score.ofRat 0 + ranked.share retriever⟩

/-- A hit is merged into another. -/
def FusedHit.merge (retriever : HybridRetriever S) (fused : FusedHit S) (ranked : RankedHit S) :
    FusedHit S where
  hit :=
    { fused.hit with
      matchedSources := RetrievalSource.sorted.filter fun other =>
        fused.hit.matchedSources.contains other || ranked.hit.matchedSources.contains other
      explanation := fused.hit.explanation ++ "; also " ++ ranked.source.value }
  score := fused.score + ranked.share retriever

/-- `_dedup_key` of a ranked hit. -/
def RankedHit.key (retriever : HybridRetriever S) (ranked : RankedHit S) : String :=
  dedupKey retriever.text ranked.hit

theorem fuse_eq (retriever : HybridRetriever S) (request : HybridRetrievalRequest)
    (merged : List (String × FusedHit S)) (ranked : RankedHit S) :
    fuse retriever request ranked.source merged (ranked.hit, ranked.rank) =
      if isVisible request ranked.hit then
        Dict.accumulate (·.key retriever) (·.alone retriever) (·.merge retriever) merged ranked
      else merged := by
  obtain ⟨source, hit, rank⟩ := ranked
  cases hvisible : isVisible request hit with
  | false => simp only [fuse, hvisible, Bool.not_false, if_true, Bool.false_eq_true, if_false]
  | true =>
      simp only [fuse, hvisible, Bool.not_true, if_true, Bool.false_eq_true, if_false,
        Dict.accumulate, RankedHit.key]
      cases merged.lookup (dedupKey retriever.text hit) with
      | none => rfl
      | some current => rfl

theorem fuseAll_eq (retriever : HybridRetriever S) (request : HybridRetrievalRequest)
    (perSource : List (RetrievalSource × List (RetrievalHit S))) :
    fuseAll retriever request perSource = (visibleHits request perSource).foldl
      (Dict.accumulate (·.key retriever) (·.alone retriever) (·.merge retriever)) [] := by
  unfold fuseAll visibleHits rankedHits
  rw [List.foldl_filter, List.foldl_flatMap]
  congr 1
  funext merged route
  rw [List.foldl_map]
  congr 1
  funext merged ranked
  exact fuse_eq retriever request merged ⟨route.1, ranked.1, ranked.2⟩

/-- An entry has the visible hits of its key. -/
theorem mem_fuseAll {retriever : HybridRetriever S} {request : HybridRetrievalRequest}
    {perSource : List (RetrievalSource × List (RetrievalHit S))} {key : String}
    {fused : FusedHit S} :
    (key, fused) ∈ fuseAll retriever request perSource ↔
      Dict.combine (·.alone retriever) (·.merge retriever)
        ((visibleHits request perSource).filter fun ranked => ranked.key retriever = key) =
          some fused := by
  rw [fuseAll_eq, Dict.mem_iff_lookup (Dict.nodup_keys_accumulate _ _ _ _),
    Dict.lookup_accumulate]

theorem nodup_keys_fuseAll (retriever : HybridRetriever S) (request : HybridRetrievalRequest)
    (perSource : List (RetrievalSource × List (RetrievalHit S))) :
    ((fuseAll retriever request perSource).map (·.1)).Nodup := by
  rw [fuseAll_eq]
  exact Dict.nodup_keys_accumulate _ _ _ _

/-- Two hits are the same up to where they were found and how well they fit. -/
def RetrievalHit.SameBut (a b : RetrievalHit S) : Prop :=
  ∃ sources explanation score,
    a = { b with matchedSources := sources, explanation := explanation, score := score }

omit [Score S] in
theorem RetrievalHit.SameBut.trans {a b c : RetrievalHit S} (hab : a.SameBut b)
    (hbc : b.SameBut c) : a.SameBut c := by
  obtain ⟨sources, explanation, score, rfl⟩ := hab
  obtain ⟨sources', explanation', score', rfl⟩ := hbc
  exact ⟨sources, explanation, score, rfl⟩

section SameBut

variable {a b : RetrievalHit S}

omit [Score S] in
theorem RetrievalHit.SameBut.content (h : a.SameBut b) : a.content = b.content := by
  obtain ⟨_, _, _, rfl⟩ := h
  rfl

omit [Score S] in
theorem RetrievalHit.SameBut.dedupKey (h : a.SameBut b) (text : TextFunctions) :
    Retrieval.dedupKey text a = Retrieval.dedupKey text b := by
  obtain ⟨_, _, _, rfl⟩ := h
  rfl

omit [Score S] in
theorem RetrievalHit.SameBut.isVisible (h : a.SameBut b) (request : HybridRetrievalRequest) :
    Retrieval.isVisible request a = Retrieval.isVisible request b := by
  obtain ⟨_, _, _, rfl⟩ := h
  rfl

end SameBut

/-- A merged hit is the first of its hits. -/
theorem sameBut_foldl_merge (retriever : HybridRetriever S) (rest : List (RankedHit S))
    (fused : FusedHit S) : (rest.foldl (·.merge retriever) fused).hit.SameBut fused.hit := by
  induction rest generalizing fused with
  | nil => exact ⟨_, _, _, rfl⟩
  | cons ranked rest ih => exact (ih _).trans ⟨_, _, _, rfl⟩

section Entries

variable {retriever : HybridRetriever S} {request : HybridRetrievalRequest}
  {perSource : List (RetrievalSource × List (RetrievalHit S))}

/-- An entry is a visible hit of its key. -/
theorem exists_visible_of_mem {entry : String × FusedHit S}
    (h : entry ∈ fuseAll retriever request perSource) :
    ∃ ranked ∈ visibleHits request perSource,
      ranked.key retriever = entry.1 ∧ entry.2.hit.SameBut ranked.hit := by
  obtain ⟨key, fused⟩ := entry
  rw [mem_fuseAll] at h
  cases hhits : (visibleHits request perSource).filter fun ranked =>
      ranked.key retriever = key with
  | nil =>
      rw [hhits] at h
      exact absurd h (by simp [Dict.combine])
  | cons first rest =>
      rw [hhits, Dict.combine, Option.some.injEq] at h
      have hfirst : first ∈ visibleHits request perSource ∧ first.key retriever = key := by
        have hmem : first ∈ first :: rest := List.mem_cons_self
        rwa [← hhits, List.mem_filter, decide_eq_true_eq] at hmem
      subst h
      exact ⟨first, hfirst.1, hfirst.2, sameBut_foldl_merge retriever rest _⟩

/-- A visible hit has an entry under its key. -/
theorem exists_mem_fuseAll (retriever : HybridRetriever S) {ranked : RankedHit S}
    (h : ranked ∈ visibleHits request perSource) :
    ∃ entry ∈ fuseAll retriever request perSource, entry.1 = ranked.key retriever := by
  cases hhits : (visibleHits request perSource).filter fun other =>
      other.key retriever = ranked.key retriever with
  | nil =>
      have hmem : ranked ∈ (visibleHits request perSource).filter fun other =>
          other.key retriever = ranked.key retriever :=
        List.mem_filter.mpr ⟨h, decide_eq_true rfl⟩
      rw [hhits] at hmem
      exact absurd hmem List.not_mem_nil
  | cons first rest =>
      refine ⟨(ranked.key retriever, rest.foldl (·.merge retriever) (first.alone retriever)),
        mem_fuseAll.mpr ?_, rfl⟩
      rw [hhits]
      rfl

end Entries

/-! ### Keys -/

/-- What `_NORMALIZE` leaves: ASCII letters and digits, and two ranges of ideographs. -/
def isKept (c : Char) : Bool :=
  decide ('a' ≤ c ∧ c ≤ 'z') || decide ('0' ≤ c ∧ c ≤ '9') ||
    decide (0x3400 ≤ c.toNat ∧ c.toNat ≤ 0x4dbf) || decide (0x4e00 ≤ c.toNat ∧ c.toNat ≤ 0x9fff)

/-- `_NORMALIZE.sub("", content)`. -/
def normalizeContent (content : String) : String := String.ofList (content.toList.filter isKept)

/-- The letters and digits of a text, in any script and whatever their case. -/
def wording (text : TextFunctions) (content : String) : List Char :=
  (text.casefold content).toList.filter text.isalnum

/-- What the key of a hit is made of. -/
inductive KeyKind
  | fact
  | hash
  | content
  deriving DecidableEq, Repr

/-- The kind of a hit whose hash is that of its content. -/
def keyKind (hit : RetrievalHit S) : KeyKind :=
  if hit.sourceType = "fact" then .fact
  else if (hit.metadata.contentHash.filter (· != "")).isSome then .hash
  else .content

/-- The hashes of hits are those of their contents, in hexadecimal digits, and differ where the
contents do. -/
structure StoredHashes (sha256 : String → String) (hits : List (RankedHit S)) : Prop where
  stored : ∀ ranked ∈ hits, ranked.hit.sourceType ≠ "fact" →
    ranked.hit.metadata.normalizedHash = none ∧
      ∀ hash ∈ ranked.hit.metadata.contentHash, hash = sha256 ranked.hit.content
  hexadecimal : ∀ ranked ∈ hits, keyKind ranked.hit = .hash →
    ':' ∉ (sha256 ranked.hit.content).toList
  injective : ∀ a ∈ hits, ∀ b ∈ hits, keyKind a.hit = .hash → keyKind b.hit = .hash →
    sha256 a.hit.content = sha256 b.hit.content → a.hit.content = b.hit.content

section Keys

variable {retriever : HybridRetriever S} {sha256 : String → String} {hits : List (RankedHit S)}
  {ranked : RankedHit S}

omit [Score S] in
/-- The normalized content of a hit. -/
theorem key_of_fact (h : keyKind ranked.hit = .fact) :
    ranked.key retriever =
      "fact:" ++ retriever.text.normalize (retriever.text.casefold ranked.hit.content) := by
  unfold keyKind at h
  split at h
  · next hfact => rw [RankedHit.key, dedupKey, if_pos hfact]
  · split at h <;> exact absurd h (by decide)

omit [Score S] in
theorem key_of_hash (hstored : StoredHashes sha256 hits) (hmem : ranked ∈ hits)
    (h : keyKind ranked.hit = .hash) : ranked.key retriever = sha256 ranked.hit.content := by
  unfold keyKind at h
  split at h
  · exact absurd h (by decide)
  next hfact =>
  obtain ⟨hnone, hhash⟩ := hstored.stored ranked hmem hfact
  split at h
  · next hsome =>
      obtain ⟨hash, hfilter⟩ := Option.isSome_iff_exists.mp hsome
      have hcontent := hhash hash (Option.filter_eq_some_iff.mp hfilter).1
      rw [RankedHit.key, dedupKey, if_neg hfact, hnone, hfilter, hcontent]
      rfl
  · exact absurd h (by decide)

omit [Score S] in
theorem key_of_content (hstored : StoredHashes sha256 hits) (hmem : ranked ∈ hits)
    (h : keyKind ranked.hit = .content) :
    ranked.key retriever =
      retriever.text.normalize (retriever.text.casefold ranked.hit.content) := by
  unfold keyKind at h
  split at h
  · exact absurd h (by decide)
  next hfact =>
  obtain ⟨hnone, hhash⟩ := hstored.stored ranked hmem hfact
  split at h
  · exact absurd h (by decide)
  · next hsome =>
      rw [Option.not_isSome_iff_eq_none] at hsome
      rw [RankedHit.key, dedupKey, if_neg hfact, hnone, hsome]
      rfl

/-- A normalized content has no colon. -/
theorem colon_not_mem_normalizeContent (content : String) :
    ':' ∉ (normalizeContent content).toList := by
  rw [normalizeContent, String.toList_ofList]
  intro h
  exact absurd (List.mem_filter.mp h).2 (by decide)

theorem colon_mem_fact (content : String) : ':' ∈ ("fact:" ++ content).toList := by
  rw [String.toList_append]
  exact List.mem_append_left _ (by decide)

end Keys

/-! ### What is kept apart -/

/-- **Only equal contents are merged**: hits under one entry have the same letters and digits, and
so every visible hit has an entry with its own. -/
structure KeepsApart (retriever : HybridRetriever S) (request : HybridRetrievalRequest)
    (perSource : List (RetrievalSource × List (RetrievalHit S))) : Prop where
  merged : ∀ entry ∈ fuseAll retriever request perSource,
    ∀ a ∈ visibleHits request perSource, ∀ b ∈ visibleHits request perSource,
      a.key retriever = entry.1 → b.key retriever = entry.1 →
        wording retriever.text a.hit.content = wording retriever.text b.hit.content
  kept : ∀ ranked ∈ visibleHits request perSource,
    ∃ entry ∈ fuseAll retriever request perSource,
      wording retriever.text entry.2.hit.content = wording retriever.text ranked.hit.content

/-- The texts in which hits differ are written with ASCII letters and digits or ideographs, and
no text is the hash of another one. -/
structure Spelled (text : TextFunctions) (sha256 : String → String)
    (hits : List (RankedHit S)) : Prop where
  contents : ∀ a ∈ hits, ∀ b ∈ hits, keyKind a.hit = keyKind b.hit → keyKind a.hit ≠ .hash →
    normalizeContent (text.casefold a.hit.content) =
        normalizeContent (text.casefold b.hit.content) →
      wording text a.hit.content = wording text b.hit.content
  hashes : ∀ a ∈ hits, ∀ b ∈ hits, keyKind a.hit = .hash → keyKind b.hit = .content →
    sha256 a.hit.content = normalizeContent (text.casefold b.hit.content) →
      wording text a.hit.content = wording text b.hit.content

section Apart

variable {retriever : HybridRetriever S} {request : HybridRetrievalRequest}
  {perSource : List (RetrievalSource × List (RetrievalHit S))}

/-- Hits of one key have the same wording. -/
theorem keepsApart_iff_keys :
    KeepsApart retriever request perSource ↔
      ∀ a ∈ visibleHits request perSource, ∀ b ∈ visibleHits request perSource,
        a.key retriever = b.key retriever →
          wording retriever.text a.hit.content = wording retriever.text b.hit.content := by
  constructor
  · intro h a ha b hb hkey
    obtain ⟨entry, hentry, heq⟩ := exists_mem_fuseAll retriever ha
    exact h.merged entry hentry a ha b hb heq.symm (hkey.symm.trans heq.symm)
  · intro h
    refine ⟨fun entry _ a ha b hb hkey hkey' => h a ha b hb (hkey.trans hkey'.symm), ?_⟩
    intro ranked hranked
    obtain ⟨entry, hentry, heq⟩ := exists_mem_fuseAll retriever hranked
    obtain ⟨other, hother, hkey, hsame⟩ := exists_visible_of_mem hentry
    refine ⟨entry, hentry, ?_⟩
    rw [hsame.content]
    exact h other hother ranked hranked (hkey.trans heq)

/-- **What fusion merges** has the same letters and digits exactly where the texts are spelled
with the characters that the normalization keeps. -/
theorem keepsApart_iff (sha256 : String → String)
    (hnormalize : retriever.text.normalize = normalizeContent)
    (hstored : StoredHashes sha256 (visibleHits request perSource)) :
    KeepsApart retriever request perSource ↔
      Spelled retriever.text sha256 (visibleHits request perSource) := by
  rw [keepsApart_iff_keys]
  constructor
  · intro h
    constructor
    · intro a ha b hb hkind hnot hsame
      refine h a ha b hb ?_
      cases hb' : keyKind b.hit with
      | fact => rw [key_of_fact (hkind.trans hb'), key_of_fact hb', hnormalize, hsame]
      | hash => exact absurd (hkind.trans hb') hnot
      | content =>
          rw [key_of_content hstored ha (hkind.trans hb'), key_of_content hstored hb hb',
            hnormalize, hsame]
    · intro a ha b hb hkind hkind' hsame
      refine h a ha b hb ?_
      rw [key_of_hash hstored ha hkind, key_of_content hstored hb hkind', hnormalize, hsame]
  · rintro ⟨hcontents, hhashes⟩ a ha b hb hkey
    -- a key that starts with `fact:` is neither a hash nor a normalized content
    have hfact : ∀ x ∈ visibleHits request perSource, ∀ y ∈ visibleHits request perSource,
        keyKind x.hit = .fact → x.key retriever = y.key retriever → keyKind y.hit = .fact := by
      intro x hx y hy hkind heq
      rw [key_of_fact hkind] at heq
      have hcolon := colon_mem_fact
        (retriever.text.normalize (retriever.text.casefold x.hit.content))
      rw [heq] at hcolon
      cases hy' : keyKind y.hit with
      | fact => rfl
      | hash =>
          rw [key_of_hash hstored hy hy'] at hcolon
          exact absurd hcolon (hstored.hexadecimal y hy hy')
      | content =>
          rw [key_of_content hstored hy hy', hnormalize] at hcolon
          exact absurd hcolon (colon_not_mem_normalizeContent _)
    cases ha' : keyKind a.hit with
    | fact =>
        have hb' := hfact a ha b hb ha' hkey
        rw [key_of_fact ha', key_of_fact hb', hnormalize] at hkey
        exact hcontents a ha b hb (ha'.trans hb'.symm) (by rw [ha']; decide)
          ((String.append_right_inj _).mp hkey)
    | hash =>
        cases hb' : keyKind b.hit with
        | fact => exact absurd (hfact b hb a ha hb' hkey.symm) (by rw [ha']; decide)
        | hash =>
            rw [key_of_hash hstored ha ha', key_of_hash hstored hb hb'] at hkey
            rw [hstored.injective a ha b hb ha' hb' hkey]
        | content =>
            rw [key_of_hash hstored ha ha', key_of_content hstored hb hb', hnormalize] at hkey
            exact hhashes a ha b hb ha' hb' hkey
    | content =>
        cases hb' : keyKind b.hit with
        | fact => exact absurd (hfact b hb a ha hb' hkey.symm) (by rw [ha']; decide)
        | hash =>
            rw [key_of_content hstored ha ha', key_of_hash hstored hb hb', hnormalize] at hkey
            exact (hhashes b hb a ha hb' ha' hkey.symm).symm
        | content =>
            rw [key_of_content hstored ha ha', key_of_content hstored hb hb', hnormalize] at hkey
            exact hcontents a ha b hb (ha'.trans hb'.symm) (by rw [ha']; decide) hkey

end Apart

/-! ### Instances -/

/-- Case folding of ASCII and of Russian letters in lower case, which are letters too. -/
def russian : TextFunctions where
  casefold text := text.toLower
  terms _ := []
  ilike _ _ := false
  normalize := normalizeContent
  isalnum c := c.isAlphanum || decide (0x430 ≤ c.toNat ∧ c.toNat ≤ 0x44f)
  normalizeName text := text

/-- A retriever with the weights of the settings and no bonuses. -/
def exactRetriever : HybridRetriever ℚ where
  text := russian
  vector := ⟨fun _ => none, 0, false, fun _ _ => 0⟩
  graph := ⟨2, 50, 100, .inr rfl⟩
  weights := ⟨1 / 5, 7 / 20, 1 / 4, 1 / 5⟩
  reranker := ⟨0, 0, 0, 0, 0, 0, 0, 0, 0, 1800, 0⟩
  rrfK := 60

/-- A request of a second chapter. -/
def secondChapter : HybridRetrievalRequest where
  projectId := 1
  query := "secret"
  currentChapter := 2
  characterNames := []
  locationNames := []
  sourceTypes := []
  topK := 20
  maxContextChars := 1000
  includeSources := none

/-- A hit of the first chapter. -/
def firstChapterHit (id : ℕ) (source : RetrievalSource) (sourceType content : String)
    (contentHash : Option String) : RetrievalHit ℚ where
  id := id
  source := source
  matchedSources := [source]
  sourceType := sourceType
  content := content
  score := 1
  rawScore := 1
  projectId := 1
  chapterNumber := some 1
  versionId := some 1
  entityNames := []
  relationPath := []
  metadata := ⟨some "accepted", contentHash, none, none⟩
  explanation := ""

/-- Two facts in Russian. -/
def russianFacts : List (RetrievalSource × List (RetrievalHit ℚ)) :=
  [(.fact, [firstChapterHit 1 .fact "fact" "анна лжет" none,
    firstChapterHit 2 .fact "fact" "борис спит" none])]

/-- Nothing of the two facts is left in their keys, so they are merged, and the second one is
lost. -/
theorem facts_merged :
    StoredHashes (fun _ => "") (visibleHits secondChapter russianFacts) ∧
      ¬KeepsApart exactRetriever secondChapter russianFacts := by
  constructor
  · have hfacts : ∀ ranked ∈ visibleHits secondChapter russianFacts,
        ranked.hit.sourceType = "fact" := by decide +kernel
    have hkinds : ∀ ranked ∈ visibleHits secondChapter russianFacts,
        keyKind ranked.hit ≠ .hash := by decide +kernel
    exact ⟨fun ranked hmem hnot => absurd (hfacts ranked hmem) hnot,
      fun ranked hmem hhash => absurd hhash (hkinds ranked hmem),
      fun a ha _ _ hhash => absurd hhash (hkinds a ha)⟩
  · intro h
    have hcontents : ∀ entry ∈ fuseAll exactRetriever secondChapter russianFacts,
        wording russian entry.2.hit.content ≠ wording russian "борис спит" := by decide +kernel
    obtain ⟨entry, hentry, hwording⟩ := h.kept
      ⟨.fact, firstChapterHit 2 .fact "fact" "борис спит" none, 2⟩
      (List.mem_filter.mpr ⟨by simp [rankedHits, russianFacts], by decide +kernel⟩)
    exact hcontents entry hentry hwording

/-- A passage, two facts and a relation in English. -/
def englishHits : List (RetrievalSource × List (RetrievalHit ℚ)) :=
  [(.keyword, [firstChapterHit 1 .keyword "chapter_content" "Ann lies."
      (some "7e5b2cc8a94ed7df0cd8ec662a912d886ca011409bed829b592a69d0233f23ec")]),
    (.fact, [firstChapterHit 1 .fact "fact" "Ann tells lies" none,
      firstChapterHit 2 .fact "fact" "Bob sleeps" none]),
    (.graph, [firstChapterHit 1 .graph "graph_relation" "Ann KNOWS Bob" none])]

/-- They are kept apart. -/
theorem keepsApart_english : KeepsApart exactRetriever secondChapter englishHits :=
  (keepsApart_iff
    (fun _ => "7e5b2cc8a94ed7df0cd8ec662a912d886ca011409bed829b592a69d0233f23ec") rfl
    ⟨by decide +kernel, by decide +kernel, by decide +kernel⟩).mpr
    ⟨by decide +kernel, by decide +kernel⟩

end StoryForge.Retrieval
