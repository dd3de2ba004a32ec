import Mathlib.Algebra.Order.Field.Basic
import Mathlib.Algebra.Order.Ring.Rat
import Mathlib.Data.Nat.Cast.Order.Ring
import StoryForge.Retrieval.Fusion

/-!
# The contract of hybrid retrieval

A result has few hits, of distinct keys, which fit and are visible to the request, with scores
between zero and one. Before the hits are ranked, their scores are divided by the largest one.
A route may have no weight, and where all visible hits come from such routes, this divides by
zero.

## Main results

* `clamp_mem`, `isZero_maxScore` — what scores do;
* `mem_runRoutes` — the routes that answer;
* `selectHits_spec` — what fits;
* `isZero_maxScore_fuseAll` — the largest score is zero if no visible hit has a share;
* `contract_iff` — there is a result, and it keeps the contract, exactly if a visible hit has a
  share or there is none;
* `zero_weight` — a retrieval that divides by zero.
-/

namespace StoryForge.Retrieval

/-! ### Scores -/

/-- What floating point numbers do, those that are no numbers included: `min` and `max` return
their first argument unless the second one is beyond it, and sums and quotients of numbers that
are not negative are rounded upwards of what they are made of. -/
class LawfulScore (S : Type) [Score S] : Prop where
  zero_le_zero : Score.le (Score.ofRat 0 : S) (Score.ofRat 0) = true
  zero_le_one : Score.le (Score.ofRat 0 : S) (Score.ofRat 1) = true
  one_le_one : Score.le (Score.ofRat 1 : S) (Score.ofRat 1) = true
  le_trans : ∀ a b c : S, Score.le a b = true → Score.le b c = true → Score.le a c = true
  max_eq : ∀ a b : S, max a b = if Score.le a b && !Score.le b a then b else a
  min_eq : ∀ a b : S, min a b = if Score.le b a && !Score.le a b then b else a
  div_nonneg : ∀ (a : S) (n : ℕ), 0 < n → Score.le (Score.ofRat 0) a = true →
    Score.le (Score.ofRat 0) (a / Score.ofRat n) = true
  le_add_right : ∀ a b : S, Score.le (Score.ofRat 0) a = true →
    Score.le (Score.ofRat 0) b = true → Score.le a (a + b) = true
  le_add_left : ∀ a b : S, Score.le (Score.ofRat 0) a = true →
    Score.le (Score.ofRat 0) b = true → Score.le b (a + b) = true
  add_le_zero : ∀ a b : S, Score.le a (Score.ofRat 0) = true → Score.le b (Score.ofRat 0) = true →
    Score.le (a + b) (Score.ofRat 0) = true

instance : LawfulScore ℚ where
  zero_le_zero := by decide
  zero_le_one := by decide
  one_le_one := by decide
  le_trans a b c hab hbc := by
    simp only [Score.le, decide_eq_true_eq] at hab hbc ⊢
    exact hab.trans hbc
  max_eq a b := by
    simp only [Score.le, Bool.and_eq_true, Bool.not_eq_true', decide_eq_true_eq,
      decide_eq_false_iff_not, not_le]
    split
    · next h => exact max_eq_right h.1
    · next h =>
        rcases le_total a b with hab | hba
        · exact max_eq_left (not_lt.mp fun hlt => h ⟨hab, hlt⟩)
        · exact max_eq_left hba
  min_eq a b := by
    simp only [Score.le, Bool.and_eq_true, Bool.not_eq_true', decide_eq_true_eq,
      decide_eq_false_iff_not, not_le]
    split
    · next h => exact min_eq_right h.1
    · next h =>
        rcases le_total a b with hab | hba
        · exact min_eq_left hab
        · exact min_eq_left (not_lt.mp fun hlt => h ⟨hba, hlt⟩)
  div_nonneg a n _ ha := by
    simp only [Score.le, Score.ofRat, id, decide_eq_true_eq] at ha ⊢
    exact div_nonneg ha (Nat.cast_nonneg n)
  le_add_right a b _ hb := by
    simp only [Score.le, Score.ofRat, id, decide_eq_true_eq] at hb ⊢
    exact le_add_of_nonneg_right hb
  le_add_left a b ha _ := by
    simp only [Score.le, Score.ofRat, id, decide_eq_true_eq] at ha ⊢
    exact le_add_of_nonneg_left ha
  add_le_zero a b ha hb := by
    simp only [Score.le, Score.ofRat, id, decide_eq_true_eq] at ha hb ⊢
    exact add_nonpos ha hb

variable {S : Type} [Score S]

/-- `0 <= score`. -/
def IsNonneg (score : S) : Prop := Score.le (Score.ofRat 0) score = true

section Laws

variable [LawfulScore S] {a b : S}

omit [LawfulScore S] in
/-- A score is zero if it is not positive. -/
theorem isZero_iff (ha : IsNonneg a) : isZero a = true ↔ Score.le a (Score.ofRat 0) = true := by
  rw [isZero, Bool.and_eq_true]
  exact and_iff_left ha

theorem isNonneg_zero : IsNonneg (Score.ofRat 0 : S) := LawfulScore.zero_le_zero

theorem isZero_zero : isZero (Score.ofRat 0 : S) = true :=
  (isZero_iff isNonneg_zero).mpr LawfulScore.zero_le_zero

theorem max_cases (a b : S) : max a b = b ∧ Score.le a b = true ∨ max a b = a := by
  rw [LawfulScore.max_eq]
  split
  · next h => exact .inl ⟨rfl, (Bool.and_eq_true _ _ ▸ h).1⟩
  · exact .inr rfl

theorem min_cases (a b : S) : min a b = b ∧ Score.le b a = true ∨ min a b = a := by
  rw [LawfulScore.min_eq]
  split
  · next h => exact .inl ⟨rfl, (Bool.and_eq_true _ _ ▸ h).1⟩
  · exact .inr rfl

/-- A score between the bounds. -/
theorem clamp_mem (a : S) :
    Score.le (Score.ofRat 0) (clamp a) = true ∧ Score.le (clamp a) (Score.ofRat 1) = true := by
  unfold clamp
  rcases max_cases (Score.ofRat 0) (min (Score.ofRat 1) a) with ⟨heq, hpositive⟩ | heq
  · rw [heq]
    refine ⟨hpositive, ?_⟩
    rcases min_cases (Score.ofRat 1) a with ⟨heq', hless⟩ | heq'
    · rwa [heq']
    · rw [heq']
      exact LawfulScore.one_le_one
  · rw [heq]
    exact ⟨LawfulScore.zero_le_zero, LawfulScore.zero_le_one⟩

theorem IsNonneg.add (ha : IsNonneg a) (hb : IsNonneg b) : IsNonneg (a + b) :=
  LawfulScore.le_trans _ _ _ ha (LawfulScore.le_add_right a b ha hb)

/-- A sum is zero if its parts are. -/
theorem isZero_add (ha : IsNonneg a) (hb : IsNonneg b) :
    isZero (a + b) = true ↔ isZero a = true ∧ isZero b = true := by
  rw [isZero_iff (ha.add hb), isZero_iff ha, isZero_iff hb]
  constructor
  · intro h
    exact ⟨LawfulScore.le_trans _ _ _ (LawfulScore.le_add_right a b ha hb) h,
      LawfulScore.le_trans _ _ _ (LawfulScore.le_add_left a b ha hb) h⟩
  · rintro ⟨ha', hb'⟩
    exact LawfulScore.add_le_zero a b ha' hb'

theorem IsNonneg.max (ha : IsNonneg a) (hb : IsNonneg b) : IsNonneg (max a b) := by
  rw [LawfulScore.max_eq]
  split
  · exact hb
  · exact ha

/-- The larger of two scores is zero if both are. -/
theorem isZero_max (ha : IsNonneg a) (hb : IsNonneg b) :
    isZero (max a b) = true ↔ isZero a = true ∧ isZero b = true := by
  rw [isZero_iff (ha.max hb), isZero_iff ha, isZero_iff hb, LawfulScore.max_eq]
  split
  · next hless =>
      rw [Bool.and_eq_true, Bool.not_eq_true'] at hless
      constructor
      · intro h
        exact ⟨LawfulScore.le_trans _ _ _ hless.1 h, h⟩
      · exact And.right
  · next hless =>
      constructor
      · intro h
        refine ⟨h, ?_⟩
        have hab : Score.le a b = true := LawfulScore.le_trans _ _ _ h hb
        have hba : Score.le b a = true := by
          by_contra hnot
          exact hless (by rw [hab, Bool.eq_false_iff.mpr hnot]; rfl)
        exact LawfulScore.le_trans _ _ _ hba h
      · exact And.left

/-- The largest of some scores is zero if all are. -/
theorem isZero_foldl_max {scores : List S} (hscores : ∀ score ∈ scores, IsNonneg score)
    (ha : IsNonneg a) :
    isZero (scores.foldl max a) = true ↔
      isZero a = true ∧ ∀ score ∈ scores, isZero score = true := by
  induction scores generalizing a with
  | nil => simp
  | cons score rest ih =>
      have hscore := hscores score List.mem_cons_self
      rw [List.foldl_cons, ih (fun other hother => hscores other (List.mem_cons_of_mem _ hother))
        (ha.max hscore), isZero_max ha hscore, List.forall_mem_cons, and_assoc]

theorem isZero_maxScore {scores : List S} (hscores : ∀ score ∈ scores, IsNonneg score)
    (hne : scores ≠ []) :
    isZero (maxScore scores) = true ↔ ∀ score ∈ scores, isZero score = true := by
  cases scores with
  | nil => exact absurd rfl hne
  | cons score rest =>
      rw [maxScore, isZero_foldl_max
        (fun other hother => hscores other (List.mem_cons_of_mem _ hother))
        (hscores score List.mem_cons_self), List.forall_mem_cons]

end Laws

/-! ### Routes that answer -/

/-- The routes that a request asks. -/
def HybridRetrievalRequest.included (request : HybridRetrievalRequest) : List RetrievalSource :=
  (request.includeSources.filter fun sources => !sources.isEmpty).getD RetrievalSource.all

section Routes

variable {routes : RetrievalSource → Except Error (List (RetrievalHit S))}

omit [Score S] in
/-- The results are those of the routes that answer. -/
theorem runRoutes_spec (routes : RetrievalSource → Except Error (List (RetrievalHit S)))
    (included : List RetrievalSource) :
    ((runRoutes routes included).1.map (·.1)).Nodup ∧
      ∀ source, (runRoutes routes included).1.lookup source =
        if source ∈ included then (routes source).toOption else none := by
  induction included using List.reverseRecOn with
  | nil => exact ⟨List.nodup_nil, fun _ => rfl⟩
  | append_singleton included last ih =>
      obtain ⟨hnodup, hlookup⟩ := ih
      unfold runRoutes at hnodup hlookup ⊢
      rw [List.foldl_concat]
      generalize List.foldl _ _ included = results at hnodup hlookup ⊢
      obtain ⟨perSource, failures⟩ := results
      dsimp only at hnodup hlookup ⊢
      cases hroute : routes last with
      | ok hits =>
          refine ⟨Dict.nodup_keys_set hnodup last hits, fun source => ?_⟩
          rw [Dict.lookup_set, hlookup]
          by_cases hsource : source = last
          · subst hsource
            simp [hroute, Except.toOption]
          · simp [hsource]
      | error e =>
          refine ⟨hnodup, fun source => ?_⟩
          rw [hlookup]
          by_cases hsource : source = last
          · subst hsource
            simp [hroute, Except.toOption]
          · simp [hsource]

omit [Score S] in
theorem mem_runRoutes {included : List RetrievalSource} {source : RetrievalSource}
    {hits : List (RetrievalHit S)} :
    (source, hits) ∈ (runRoutes routes included).1 ↔
      source ∈ included ∧ routes source = .ok hits := by
  obtain ⟨hnodup, hlookup⟩ := runRoutes_spec routes included
  rw [Dict.mem_iff_lookup hnodup, hlookup]
  cases routes source with
  | ok found =>
      by_cases hsource : source ∈ included <;> simp [hsource, Except.toOption]
  | error e => simp [Except.toOption]

end Routes

/-! ### Selection -/

omit [Score S] in
/-- **What fits**: hits in their order, up to a number of hits and of characters. -/
theorem selectHits_spec (topK maxChars : ℕ) (hits : List (RetrievalHit S)) :
    (selectHits topK maxChars hits).1.Sublist hits ∧
      (selectHits topK maxChars hits).1.length ≤ topK ∧
      (selectHits topK maxChars hits).2 =
        ((selectHits topK maxChars hits).1.map (·.content.length)).sum ∧
      (selectHits topK maxChars hits).2 ≤ maxChars := by
  induction hits using List.reverseRecOn with
  | nil => exact ⟨List.Sublist.refl _, Nat.zero_le _, rfl, Nat.zero_le _⟩
  | append_singleton hits last ih =>
      obtain ⟨hsublist, hlength, hsum, hroom⟩ := ih
      unfold selectHits at hsublist hlength hsum hroom ⊢
      rw [List.foldl_concat]
      generalize List.foldl _ _ hits = state at hsublist hlength hsum hroom ⊢
      obtain ⟨selected, estimated⟩ := state
      dsimp only at hsublist hlength hsum hroom ⊢
      split
      · exact ⟨hsublist.trans (List.sublist_append_left hits [last]), hlength, hsum, hroom⟩
      · next hfits =>
          refine ⟨hsublist.append (List.Sublist.refl _), ?_, ?_, ?_⟩
          · rw [List.length_append, List.length_singleton]
            omega
          · rw [List.map_append, List.sum_append, hsum, List.map_singleton, List.sum_singleton]
          · dsimp only
            omega

/-! ### Weights -/

/-- The checks of the weights: each between zero and one, and one in sum. -/
structure HybridWeights.Valid (weights : HybridWeights S) : Prop where
  nonneg : ∀ source, IsNonneg (weights.of source)
  le_one : ∀ source, Score.le (weights.of source) (Score.ofRat 1) = true
  total :
    let excess := weights.keyword + weights.vector + weights.fact + weights.graph - Score.ofRat 1
    Score.le (max excess (Score.ofRat 0 - excess)) (Score.ofRat (1 / 10 ^ 9)) = true

/-- A visible hit of a route that is asked and answers, at its rank. -/
def Shows (routes : RetrievalSource → Except Error (List (RetrievalHit S)))
    (request : HybridRetrievalRequest) (ranked : RankedHit S) : Prop :=
  ranked.source ∈ request.included ∧ ∃ hits, routes ranked.source = .ok hits ∧
    (ranked.hit, ranked.rank) ∈ hits.zipIdx 1 ∧ isVisible request ranked.hit = true

/-- Some visible hit has a share, unless there is none. -/
def Weighted (retriever : HybridRetriever S)
    (routes : RetrievalSource → Except Error (List (RetrievalHit S)))
    (request : HybridRetrievalRequest) : Prop :=
  (∃ ranked, Shows routes request ranked) →
    ∃ ranked, Shows routes request ranked ∧ isZero (ranked.share retriever) = false

section Weights

variable {retriever : HybridRetriever S}
  {routes : RetrievalSource → Except Error (List (RetrievalHit S))}
  {request : HybridRetrievalRequest}
  {perSource : List (RetrievalSource × List (RetrievalHit S))}

omit [Score S] in
theorem mem_visibleHits {ranked : RankedHit S} :
    ranked ∈ visibleHits request perSource ↔
      ∃ hits, (ranked.source, hits) ∈ perSource ∧ (ranked.hit, ranked.rank) ∈ hits.zipIdx 1 ∧
        isVisible request ranked.hit = true := by
  simp only [visibleHits, rankedHits, List.mem_filter, List.mem_flatMap, List.mem_map]
  constructor
  · rintro ⟨⟨⟨source, hits⟩, hroute, ⟨hit, rank⟩, hmem, rfl⟩, hvisible⟩
    exact ⟨hits, hroute, hmem, hvisible⟩
  · rintro ⟨hits, hroute, hmem, hvisible⟩
    exact ⟨⟨⟨ranked.source, hits⟩, hroute, ⟨ranked.hit, ranked.rank⟩, hmem, rfl⟩, hvisible⟩

omit [Score S] in
theorem mem_visibleHits_runRoutes {ranked : RankedHit S} :
    ranked ∈ visibleHits request (runRoutes routes request.included).1 ↔
      Shows routes request ranked := by
  rw [mem_visibleHits, Shows, ← exists_and_left]
  simp only [mem_runRoutes, and_assoc]

variable [LawfulScore S]

theorem share_nonneg (hweights : retriever.weights.Valid) {ranked : RankedHit S}
    (h : ranked ∈ visibleHits request perSource) : IsNonneg (ranked.share retriever) := by
  obtain ⟨hits, -, hmem, -⟩ := mem_visibleHits.mp h
  have hrank : 1 ≤ ranked.rank := (List.mem_zipIdx hmem).1
  exact LawfulScore.div_nonneg _ _ (by omega) (hweights.nonneg ranked.source)

/-- The score of a merged hit is zero if all its shares are. -/
theorem isZero_foldl_merge {rest : List (RankedHit S)} {fused : FusedHit S}
    (hrest : ∀ ranked ∈ rest, IsNonneg (ranked.share retriever))
    (hfused : IsNonneg fused.score) :
    IsNonneg (rest.foldl (·.merge retriever) fused).score ∧
      (isZero (rest.foldl (·.merge retriever) fused).score = true ↔
        isZero fused.score = true ∧
          ∀ ranked ∈ rest, isZero (ranked.share retriever) = true) := by
  induction rest generalizing fused with
  | nil => exact ⟨hfused, by simp⟩
  | cons ranked rest ih =>
      have hshare := hrest ranked List.mem_cons_self
      have hsum : IsNonneg (fused.merge retriever ranked).score := hfused.add hshare
      obtain ⟨hnonneg, hzero⟩ :=
        ih (fun other hother => hrest other (List.mem_cons_of_mem _ hother)) hsum
      refine ⟨hnonneg, ?_⟩
      rw [List.foldl_cons, hzero, List.forall_mem_cons]
      change isZero (fused.score + ranked.share retriever) = true ∧ _ ↔ _
      rw [isZero_add hfused hshare, and_assoc]

/-- The score of an entry is zero if all shares of its hits are. -/
theorem isZero_of_mem_fuseAll (hweights : retriever.weights.Valid) {entry : String × FusedHit S}
    (h : entry ∈ fuseAll retriever request perSource) :
    IsNonneg entry.2.score ∧
      (isZero entry.2.score = true ↔
        ∀ ranked ∈ visibleHits request perSource, ranked.key retriever = entry.1 →
          isZero (ranked.share retriever) = true) := by
  obtain ⟨key, fused⟩ := entry
  rw [mem_fuseAll] at h
  have hmem : ∀ ranked, ranked ∈ (visibleHits request perSource).filter
      (fun ranked => ranked.key retriever = key) ↔
        ranked ∈ visibleHits request perSource ∧ ranked.key retriever = key := by
    intro ranked
    rw [List.mem_filter, decide_eq_true_eq]
  cases hhits : (visibleHits request perSource).filter fun ranked =>
      ranked.key retriever = key with
  | nil =>
      rw [hhits] at h
      exact absurd h (by simp [Dict.combine])
  | cons first rest =>
      rw [hhits, Dict.combine, Option.some.injEq] at h
      rw [hhits] at hmem
      subst h
      have hshares : ∀ ranked ∈ first :: rest, IsNonneg (ranked.share retriever) :=
        fun ranked hranked => share_nonneg hweights ((hmem ranked).mp hranked).1
      have hfirst := hshares first List.mem_cons_self
      have hstart : IsNonneg (first.alone retriever).score := isNonneg_zero.add hfirst
      obtain ⟨hnonneg, hzero⟩ := isZero_foldl_merge
        (fun ranked hranked => hshares ranked (List.mem_cons_of_mem _ hranked)) hstart
      refine ⟨hnonneg, hzero.trans ?_⟩
      change isZero (Score.ofRat 0 + first.share retriever) = true ∧ _ ↔ _
      rw [isZero_add isNonneg_zero hfirst, and_iff_right isZero_zero,
        ← List.forall_mem_cons
          (p := fun ranked : RankedHit S => isZero (ranked.share retriever) = true)]
      simp only [hmem, and_imp]

/-- The largest score is zero if no visible hit has a share. -/
theorem isZero_maxScore_fuseAll (hweights : retriever.weights.Valid)
    (hne : fuseAll retriever request perSource ≠ []) :
    isZero (maxScore ((fuseAll retriever request perSource).map (·.2.score))) = true ↔
      ∀ ranked ∈ visibleHits request perSource, isZero (ranked.share retriever) = true := by
  rw [isZero_maxScore]
  · constructor
    · intro h ranked hranked
      obtain ⟨entry, hentry, hkey⟩ := exists_mem_fuseAll retriever hranked
      exact ((isZero_of_mem_fuseAll hweights hentry).2.mp (h _ (List.mem_map_of_mem hentry)))
        ranked hranked hkey.symm
    · intro h score hscore
      obtain ⟨entry, hentry, rfl⟩ := List.mem_map.mp hscore
      exact (isZero_of_mem_fuseAll hweights hentry).2.mpr fun ranked hranked _ => h ranked hranked
  · intro score hscore
    obtain ⟨entry, hentry, rfl⟩ := List.mem_map.mp hscore
    exact (isZero_of_mem_fuseAll hweights hentry).1
  · simpa using hne

end Weights

/-! ### The contract -/

/-- What a result promises: few hits, of distinct keys, which fit and are visible, with scores
between zero and one. -/
structure Contract (retriever : HybridRetriever S) (request : HybridRetrievalRequest)
    (result : HybridRetrievalResult S) : Prop where
  topK : result.hits.length ≤ request.topK
  distinct : (result.hits.map (dedupKey retriever.text)).Nodup
  estimated : result.estimatedChars = (result.hits.map (·.content.length)).sum
  room : result.estimatedChars ≤ request.maxContextChars
  project : ∀ hit ∈ result.hits, hit.projectId = request.projectId
  accepted : ∀ hit ∈ result.hits, ∀ status ∈ hit.metadata.status, status = "accepted"
  earlier : ∀ hit ∈ result.hits, ∀ number ∈ hit.chapterNumber, number < request.currentChapter
  scores : ∀ hit ∈ result.hits, Score.le (Score.ofRat 0) hit.score = true ∧
    Score.le hit.score (Score.ofRat 1) = true

section Results

variable {retriever : HybridRetriever S}
  {routes : RetrievalSource → Except Error (List (RetrievalHit S))}
  {request : HybridRetrievalRequest} {merged : List (String × FusedHit S)}

/-- Scores can be made relative unless all of them are zero. -/
theorem relative_cases (merged : List (String × FusedHit S)) :
    (merged ≠ [] ∧ isZero (maxScore (merged.map (·.2.score))) = true ∧
        ∃ e, relative merged = .error e) ∨
      ((merged ≠ [] → isZero (maxScore (merged.map (·.2.score))) = false) ∧
        relative merged = .ok (merged.map fun entry =>
          { entry.2.hit with
            score := entry.2.score / maxScore (merged.map (·.2.score)) })) := by
  unfold relative
  dsimp only
  split
  · next hzero =>
      rw [Bool.and_eq_true, Bool.not_eq_true', List.isEmpty_eq_false_iff] at hzero
      exact .inl ⟨hzero.1, hzero.2, _, rfl⟩
  · next hzero =>
      refine .inr ⟨fun hne => ?_, rfl⟩
      rw [Bool.and_eq_true, Bool.not_eq_true', List.isEmpty_eq_false_iff, not_and] at hzero
      exact Bool.eq_false_iff.mpr (hzero hne)

/-- A hit after reranking is one before it, with a score between the bounds. -/
theorem mem_rerank [LawfulScore S] {text : TextFunctions} {config : RerankerConfig S}
    {hits : List (RetrievalHit S)} {hit : RetrievalHit S}
    (h : hit ∈ rerank text config request hits) :
    (Score.le (Score.ofRat 0) hit.score = true ∧ Score.le hit.score (Score.ofRat 1) = true) ∧
      ∃ other ∈ hits, hit.SameBut other := by
  obtain ⟨other, hother, rfl⟩ := List.mem_map.mp ((List.mem_insertionSort _).mp h)
  exact ⟨clamp_mem _, other, hother, _, _, _, rfl⟩

/-- Reranking keeps the keys. -/
theorem keys_rerank (text : TextFunctions) (config : RerankerConfig S)
    (hits : List (RetrievalHit S)) :
    ((rerank text config request hits).map (dedupKey text)).Perm (hits.map (dedupKey text)) := by
  unfold rerank
  refine ((List.perm_insertionSort _ _).map _).trans (List.Perm.of_eq ?_)
  rw [List.map_map]
  rfl

/-- The keys of the merged hits are those they are filed under. -/
theorem keys_relative {perSource : List (RetrievalSource × List (RetrievalHit S))} (largest : S) :
    ((fuseAll retriever request perSource).map fun entry =>
        { entry.2.hit with score := entry.2.score / largest }).map (dedupKey retriever.text) =
      (fuseAll retriever request perSource).map (·.1) := by
  rw [List.map_map]
  refine List.map_congr_left fun entry hentry => ?_
  obtain ⟨ranked, -, hkey, hsame⟩ := exists_visible_of_mem hentry
  rw [← hkey]
  exact hsame.dedupKey retriever.text

/-- What is selected keeps the contract. -/
theorem contract_of_select [LawfulScore S]
    {perSource : List (RetrievalSource × List (RetrievalHit S))} (largest : S)
    {result : HybridRetrievalResult S}
    (h : selectHits request.topK request.maxContextChars
      (rerank retriever.text retriever.reranker request
        ((fuseAll retriever request perSource).map fun entry =>
          { entry.2.hit with score := entry.2.score / largest })) =
      (result.hits, result.estimatedChars)) : Contract retriever request result := by
  obtain ⟨hsublist, htopK, hsum, hroom⟩ := selectHits_spec request.topK request.maxContextChars
    (rerank retriever.text retriever.reranker request
      ((fuseAll retriever request perSource).map fun entry =>
        { entry.2.hit with score := entry.2.score / largest }))
  rw [h] at hsublist htopK hsum hroom
  have hvisible : ∀ hit ∈ result.hits, isVisible request hit = true := by
    intro hit hhit
    obtain ⟨-, other, hother, hsame⟩ := mem_rerank (hsublist.subset hhit)
    obtain ⟨entry, hentry, rfl⟩ := List.mem_map.mp hother
    obtain ⟨ranked, hranked, -, hsame'⟩ := exists_visible_of_mem hentry
    rw [hsame.isVisible, ← (mem_visibleHits.mp hranked).choose_spec.2.2]
    exact hsame'.isVisible request
  have hnodup : (result.hits.map (dedupKey retriever.text)).Nodup := by
    refine (hsublist.map _).nodup ((keys_rerank _ _ _).nodup_iff.mpr ?_)
    rw [keys_relative]
    exact nodup_keys_fuseAll retriever request perSource
  refine ⟨htopK, hnodup, hsum, hroom, fun hit hhit => ?_, fun hit hhit => ?_, fun hit hhit => ?_,
    fun hit hhit => (mem_rerank (hsublist.subset hhit)).1⟩
  · have h := hvisible hit hhit
    simp only [isVisible, Bool.and_eq_true, beq_iff_eq] at h
    exact h.1.2
  · have h := hvisible hit hhit
    simp only [isVisible, Bool.and_eq_true, Option.all_eq_true, beq_iff_eq] at h
    exact h.1.1
  · have h := hvisible hit hhit
    simp only [isVisible, Bool.and_eq_true, Option.all_eq_true, decide_eq_true_eq] at h
    exact h.2

/-- A retrieval fails where scores cannot be made relative. -/
theorem hybridRetrieve_error (hanswered : (runRoutes routes request.included).1.isEmpty = false)
    {e : Error}
    (h : relative (fuseAll retriever request (runRoutes routes request.included).1) = .error e) :
    hybridRetrieve retriever routes request = .error e := by
  unfold HybridRetrievalRequest.included at hanswered h
  unfold hybridRetrieve
  dsimp only
  generalize runRoutes routes ((request.includeSources.filter fun sources =>
    !sources.isEmpty).getD RetrievalSource.all) = results at hanswered h ⊢
  obtain ⟨perSource, failures⟩ := results
  dsimp only at hanswered h ⊢
  rw [hanswered, if_neg Bool.false_ne_true, h]
  rfl

/-- Else it returns what is selected. -/
theorem hybridRetrieve_ok (hanswered : (runRoutes routes request.included).1.isEmpty = false)
    {fused : List (RetrievalHit S)}
    (h : relative (fuseAll retriever request (runRoutes routes request.included).1) = .ok fused) :
    ∃ result, hybridRetrieve retriever routes request = .ok result ∧
      selectHits request.topK request.maxContextChars
        (rerank retriever.text retriever.reranker request fused) =
          (result.hits, result.estimatedChars) := by
  unfold HybridRetrievalRequest.included at hanswered h
  unfold hybridRetrieve
  dsimp only
  generalize runRoutes routes ((request.includeSources.filter fun sources =>
    !sources.isEmpty).getD RetrievalSource.all) = results at hanswered h ⊢
  obtain ⟨perSource, failures⟩ := results
  dsimp only at hanswered h ⊢
  rw [hanswered, if_neg Bool.false_ne_true, h]
  exact ⟨_, rfl, rfl⟩

/-- **What retrieval returns**: if a route answers, there is a result, and it keeps the contract,
exactly if some visible hit has a share or there is none. -/
theorem contract_iff [LawfulScore S] (hweights : retriever.weights.Valid)
    (hroute : ∃ source ∈ request.included, ∃ hits, routes source = .ok hits) :
    (∃ result, hybridRetrieve retriever routes request = .ok result ∧
      Contract retriever request result) ↔ Weighted retriever routes request := by
  obtain ⟨source, hsource, hits, hhits⟩ := hroute
  have hanswered : (runRoutes routes request.included).1.isEmpty = false := by
    rw [List.isEmpty_eq_false_iff]
    exact List.ne_nil_of_mem (mem_runRoutes.mpr ⟨hsource, hhits⟩)
  have hempty : fuseAll retriever request (runRoutes routes request.included).1 ≠ [] ↔
      ∃ ranked, Shows routes request ranked := by
    constructor
    · intro hne
      obtain ⟨entry, hentry⟩ := List.exists_mem_of_ne_nil _ hne
      obtain ⟨ranked, hranked, -⟩ := exists_visible_of_mem hentry
      exact ⟨ranked, mem_visibleHits_runRoutes.mp hranked⟩
    · rintro ⟨ranked, hranked⟩
      obtain ⟨entry, hentry, -⟩ :=
        exists_mem_fuseAll retriever (mem_visibleHits_runRoutes.mpr hranked)
      exact List.ne_nil_of_mem hentry
  rcases relative_cases (fuseAll retriever request (runRoutes routes request.included).1) with
    ⟨hne, hzero, e, herror⟩ | ⟨hsome, hok⟩
  · refine iff_of_false ?_ ?_
    · rintro ⟨result, hresult, -⟩
      rw [hybridRetrieve_error hanswered herror] at hresult
      exact absurd hresult (by simp)
    · intro hweighted
      obtain ⟨ranked, hranked, hshare⟩ := hweighted (hempty.mp hne)
      rw [(isZero_maxScore_fuseAll hweights hne).mp hzero ranked
        (mem_visibleHits_runRoutes.mpr hranked)] at hshare
      exact absurd hshare (by decide)
  · refine iff_of_true ?_ ?_
    · obtain ⟨result, hresult, hselect⟩ := hybridRetrieve_ok hanswered hok
      exact ⟨result, hresult, contract_of_select _ hselect⟩
    · intro hshown
      by_contra hnone
      have hne := hempty.mpr hshown
      have hall : ∀ ranked ∈ visibleHits request (runRoutes routes request.included).1,
          isZero (ranked.share retriever) = true := by
        intro ranked hranked
        by_contra hshare
        exact hnone ⟨ranked, mem_visibleHits_runRoutes.mp hranked, Bool.eq_false_iff.mpr hshare⟩
      rw [(isZero_maxScore_fuseAll hweights hne).mpr hall] at hsome
      exact absurd (hsome hne) (by decide)

end Results

/-! ### Instances -/

/-- The weights of the settings. -/
theorem valid_exactRetriever : exactRetriever.weights.Valid where
  nonneg source := by cases source <;> exact decide_eq_true (by decide +kernel)
  le_one source := by cases source <;> exact decide_eq_true (by decide +kernel)
  total := by decide +kernel

/-- All routes but the vectors answer. -/
def englishRoutes (source : RetrievalSource) : Except Error (List (RetrievalHit ℚ)) :=
  match englishHits.lookup source with
  | some hits => .ok hits
  | none => .error (.other "RetrieverUnavailableError" "Vector embedding is unavailable")

/-- The hits that are found are returned. -/
theorem contract_english : ∃ result,
    hybridRetrieve exactRetriever englishRoutes secondChapter = .ok result ∧
      Contract exactRetriever secondChapter result :=
  (contract_iff valid_exactRetriever ⟨.keyword, by decide, _, rfl⟩).mpr fun _ =>
    ⟨⟨.graph, firstChapterHit 1 .graph "graph_relation" "Ann KNOWS Bob" none, 1⟩,
      ⟨by decide, _, rfl, List.mem_singleton_self _, by decide +kernel⟩, by decide +kernel⟩

/-- All weight is on the keywords. -/
def keywordsOnly : HybridRetriever ℚ := { exactRetriever with weights := ⟨1, 0, 0, 0⟩ }

/-- Only the graph finds something. -/
def graphRoutes : RetrievalSource → Except Error (List (RetrievalHit ℚ))
  | .graph => .ok [firstChapterHit 1 .graph "graph_relation" "Ann KNOWS Bob" none]
  | _ => .ok []

/-- Hits of routes without weight are divided by a score of zero. -/
theorem zero_weight : keywordsOnly.weights.Valid ∧
    (∃ source ∈ secondChapter.included, ∃ hits, graphRoutes source = .ok hits) ∧
    ¬∃ result, hybridRetrieve keywordsOnly graphRoutes secondChapter = .ok result := by
  refine ⟨?_, ⟨.graph, by decide, _, rfl⟩, ?_⟩
  · refine ⟨fun source => ?_, fun source => ?_, by decide +kernel⟩
    · cases source <;> exact decide_eq_true (by decide +kernel)
    · cases source <;> exact decide_eq_true (by decide +kernel)
  · rintro ⟨result, hresult⟩
    have hnone : (hybridRetrieve keywordsOnly graphRoutes secondChapter).toOption.isNone = true :=
      by decide +kernel
    rw [hresult] at hnone
    exact Bool.false_ne_true hnone

end StoryForge.Retrieval
