import StoryForge.Library.Batches
import StoryForge.Memory.Failures

/-!
# Embedding requests

The client of an embeddings endpoint cuts the texts it is given into batches and requests the
vectors of one batch after the other. The vectors of a batch come back in any order, each with
the place of its text, and are sorted. A request that fails in passing is repeated after a sleep
that doubles every time. An answer of the wrong shape is not asked for again.

## Main results

* `OpenAICompatibleEmbeddingProvider.embedTexts_traffic` — what is sent, and how long the client
  sleeps;
* `OpenAICompatibleEmbeddingProvider.embedTexts_ok_of_recovers` — the failures a call outlasts;
* `IndexEnvironment.embed_eq_map` — the vectors a run stores are those of its sources, in their
  order.
-/

namespace StoryForge.Memory

/-! ### The endpoint -/

/-- The request for the vectors of a batch. -/
structure EmbeddingRequest where
  model : String
  input : List String
  dimensions : ℕ
  deriving DecidableEq, Repr

/-- A vector of an answer. A value that is not finite is `none`. -/
structure EmbeddingItem where
  index : ℤ
  embedding : List (Option ℚ)
  deriving DecidableEq, Repr

/-- What a request comes to. -/
inductive EmbeddingAnswer
  | data (items : List EmbeddingItem)
  | apiTimeout
  | rejected
  | openAI
  | exception (e : IndexException)
  deriving DecidableEq, Repr

/-- The failures after which a batch is requested again. -/
def EmbeddingAnswer.isTransient : EmbeddingAnswer → Bool
  | .apiTimeout | .openAI => true
  | _ => false

/-- What has been sent, and how long the client has slept in between. -/
structure EmbeddingTraffic where
  requests : List EmbeddingRequest := []
  delays : List ℚ := []
  deriving DecidableEq, Repr

/-- Batch text through the embeddings endpoint while preserving input order. -/
structure OpenAICompatibleEmbeddingProvider where
  model : String
  dimensions : ℕ
  batchSize : ℕ
  maxRetries : ℕ
  model_ne : strip model ≠ ""
  two_le_dimensions : 2 ≤ dimensions
  one_le_batchSize : 1 ≤ batchSize

namespace OpenAICompatibleEmbeddingProvider

/-- What is done about an answer. -/
inductive Reaction
  | vectors (vectors : List Embedding)
  | raise (e : IndexException)
  | retry (exhausted : IndexException)
  deriving DecidableEq, Repr

variable (client : OpenAICompatibleEmbeddingProvider)

/-- The request for a batch. -/
def request (texts : List String) : EmbeddingRequest := ⟨client.model, texts, client.dimensions⟩

/-- `sorted(response.data, key=lambda item: item.index)`. -/
def ordered (items : List EmbeddingItem) : List EmbeddingItem :=
  items.insertionSort fun a b => a.index ≤ b.index

/-- A vector with the right number of finite values. -/
def vector (values : List (Option ℚ)) : Option Embedding :=
  if values.length = client.dimensions then values.mapM id else none

/-- The answer to the request for a batch is read. -/
def react (texts : List String) : EmbeddingAnswer → Reaction
  | .data items =>
      if (ordered items).length ≠ texts.length then
        .raise (.embeddingError .invalidResponse "Embedding response count did not match input")
      else
        match (ordered items).mapM fun item => client.vector item.embedding with
        | some vectors => .vectors vectors
        | none => .raise (.embeddingError .dimension
            "Embedding response dimension did not match configuration")
  | .apiTimeout => .retry (.embeddingError .timeout "Embedding request timed out")
  | .rejected => .raise (.embeddingError .provider "Embedding credentials were rejected")
  | .openAI => .retry (.embeddingError .provider "Embedding provider request failed")
  | .exception e => .raise e

/-- How long the client sleeps after an attempt. -/
def backoff (attempt : ℕ) : ℚ := 1 / 2 * 2 ^ attempt

variable (endpoint : List EmbeddingRequest → EmbeddingAnswer)

/-- The attempts from one on, when some more are allowed. -/
def attempts (texts : List String) :
    ℕ → ℕ → EmbeddingTraffic → Except IndexException (List Embedding) × EmbeddingTraffic
  | retries, attempt, traffic =>
      let requests := traffic.requests ++ [client.request texts]
      match client.react texts (endpoint requests) with
      | .vectors vectors => (.ok vectors, { traffic with requests := requests })
      | .raise e => (.error e, { traffic with requests := requests })
      | .retry exhausted =>
          match retries with
          | 0 => (.error exhausted, { traffic with requests := requests })
          | retries + 1 =>
              attempts texts retries (attempt + 1)
                ⟨requests, traffic.delays ++ [backoff attempt]⟩

/-- `_request_batch`. -/
def requestBatch (texts : List String) (traffic : EmbeddingTraffic) :
    Except IndexException (List Embedding) × EmbeddingTraffic :=
  if texts.any fun text => strip text == "" then
    (.error (.embeddingError .provider "Embedding input must not be empty"), traffic)
  else client.attempts endpoint texts client.maxRetries 0 traffic

/-- The batches one after the other. -/
def requestBatches : List (List String) → EmbeddingTraffic →
    Except IndexException (List Embedding) × EmbeddingTraffic
  | [], traffic => (.ok [], traffic)
  | batch :: rest, traffic =>
      match client.requestBatch endpoint batch traffic with
      | (.error e, after) => (.error e, after)
      | (.ok vectors, after) =>
          match requestBatches rest after with
          | (.error e, last) => (.error e, last)
          | (.ok others, last) => (.ok (vectors ++ others), last)

/-- `embed_texts`. -/
def embedTexts (texts : List String) (traffic : EmbeddingTraffic) :
    Except IndexException (List Embedding) × EmbeddingTraffic :=
  if texts = [] then (.ok [], traffic)
  else
    match client.requestBatches endpoint (Batches.cut client.batchSize texts) traffic with
    | (.error e, after) => (.error e, after)
    | (.ok vectors, after) =>
        if vectors.length ≠ texts.length then
          (.error (.embeddingError .invalidResponse
            "Embedding response count did not match input"), after)
        else (.ok vectors, after)

/-! ### One answer -/

variable {client endpoint} {f : String → Embedding} {texts : List String}

/-- The vectors of some texts, each with the place of its text. -/
def places (f : String → Embedding) (texts : List String) : List EmbeddingItem :=
  texts.zipIdx.map fun row => ⟨row.2, (f row.1).map some⟩

theorem map_embedding_places (f : String → Embedding) (texts : List String) :
    (places f texts).map (·.embedding) = texts.map fun text => (f text).map some := by
  rw [places, List.map_map]
  calc
    _ = (texts.zipIdx.map Prod.fst).map fun text => (f text).map some := by
      rw [List.map_map]
      rfl
    _ = _ := by rw [List.zipIdx_map_fst]

theorem ordered_eq {items : List EmbeddingItem} (h : items.Perm (places f texts)) :
    ordered items = places f texts := by
  refine Batches.insertionSort_eq_of_perm h ?_
  rw [places, List.pairwise_map]
  have hplaces : (texts.zipIdx.map Prod.snd).Pairwise (· < ·) := by
    rw [List.zipIdx_map_snd]
    exact List.pairwise_lt_range'
  exact (List.pairwise_map.mp hplaces).imp fun hlt => Int.ofNat_lt.mpr hlt

theorem mapM_id_map_some (values : List ℚ) : (values.map some).mapM id = some values := by
  induction values with
  | nil => rfl
  | cons value rest ih =>
      rw [List.map_cons, List.mapM_cons, ih]
      rfl

/-- A vector that is read is one of the answer, with the right number of values. -/
theorem vector_map_some (values : Embedding) :
    client.vector (values.map some) =
      if values.length = client.dimensions then some values else none := by
  rw [vector, List.length_map, mapM_id_map_some]

theorem mapM_vector (f : String → Embedding) (texts : List String) :
    (texts.mapM fun text => client.vector ((f text).map some)) =
      if ∀ text ∈ texts, (f text).length = client.dimensions then some (texts.map f) else none := by
  induction texts with
  | nil => rfl
  | cons text rest ih =>
      rw [List.mapM_cons, vector_map_some, ih, List.map_cons]
      simp only [List.forall_mem_cons]
      by_cases hdimensions : (f text).length = client.dimensions
      · by_cases hrest : ∀ text ∈ rest, (f text).length = client.dimensions
        · rw [if_pos hdimensions, if_pos hrest, if_pos ⟨hdimensions, hrest⟩]
          rfl
        · rw [if_pos hdimensions, if_neg hrest, if_neg fun h => hrest h.2]
          rfl
      · have hboth : ¬((f text).length = client.dimensions ∧
            ∀ text ∈ rest, (f text).length = client.dimensions) := fun h => hdimensions h.1
        rw [if_neg hdimensions, if_neg hboth]
        rfl

/-- **The answer with the vectors of the texts** is read in the order of the texts. -/
theorem react_data {items : List EmbeddingItem} (h : items.Perm (places f texts)) :
    client.react texts (.data items) =
      if ∀ text ∈ texts, (f text).length = client.dimensions then .vectors (texts.map f)
      else .raise (.embeddingError .dimension
        "Embedding response dimension did not match configuration") := by
  have hlength : (places f texts).length = texts.length := by
    rw [places, List.length_map, List.length_zipIdx]
  have hread : ((places f texts).mapM fun item => client.vector item.embedding) =
      texts.mapM fun text => client.vector ((f text).map some) := by
    calc
      _ = ((places f texts).map (·.embedding)).mapM client.vector := List.mapM_map.symm
      _ = _ := by
        rw [map_embedding_places, List.mapM_map]
        rfl
  rw [react, ordered_eq h, if_neg (not_not.mpr hlength), hread, mapM_vector]
  by_cases hdimensions : ∀ text ∈ texts, (f text).length = client.dimensions
  · rw [if_pos hdimensions, if_pos hdimensions]
  · rw [if_neg hdimensions, if_neg hdimensions]

/-! ### One batch -/

/-- **What a batch sends**: the same request again and again, once at least and once more than
there are retries at most, and a longer sleep before each request but the first. -/
theorem attempts_traffic (retries attempt : ℕ) (traffic : EmbeddingTraffic) :
    ∃ count, count ≤ retries ∧
      (client.attempts endpoint texts retries attempt traffic).2.requests =
        traffic.requests ++ List.replicate (count + 1) (client.request texts) ∧
      (client.attempts endpoint texts retries attempt traffic).2.delays =
        traffic.delays ++ (List.range' attempt count).map backoff := by
  induction retries generalizing attempt traffic with
  | zero =>
      refine ⟨0, le_rfl, ?_⟩
      rw [attempts]
      dsimp only
      split
      · simp
      · simp
      · simp
  | succ retries ih =>
      rw [attempts]
      dsimp only
      split
      · exact ⟨0, Nat.zero_le _, by simp⟩
      · exact ⟨0, Nat.zero_le _, by simp⟩
      · obtain ⟨count, hcount, hrequests, hdelays⟩ := ih (attempt + 1)
          ⟨traffic.requests ++ [client.request texts], traffic.delays ++ [backoff attempt]⟩
        refine ⟨count + 1, by omega, ?_, ?_⟩
        · rw [hrequests, List.append_assoc, List.replicate_succ]
          rfl
        · rw [hdelays, List.append_assoc, List.range'_succ]
          rfl

/-- Vectors come from an answer to the request for their batch. -/
theorem exists_data_of_attempts {retries attempt : ℕ} {traffic after : EmbeddingTraffic}
    {vectors : List Embedding}
    (h : client.attempts endpoint texts retries attempt traffic = (.ok vectors, after)) :
    ∃ sent, client.react texts (endpoint (sent ++ [client.request texts])) = .vectors vectors := by
  induction retries generalizing attempt traffic with
  | zero =>
      rw [attempts] at h
      dsimp only at h
      split at h
      case h_1 found hreact =>
          obtain rfl := Except.ok.inj (Prod.mk.inj h).1
          exact ⟨_, hreact⟩
      case h_2 => exact absurd (Prod.mk.inj h).1 (by simp)
      case h_3 => exact absurd (Prod.mk.inj h).1 (by simp)
  | succ retries ih =>
      rw [attempts] at h
      dsimp only at h
      split at h
      case h_1 found hreact =>
          obtain rfl := Except.ok.inj (Prod.mk.inj h).1
          exact ⟨_, hreact⟩
      case h_2 => exact absurd (Prod.mk.inj h).1 (by simp)
      case h_3 => exact ih h

/-- The endpoint answers with the vectors of the texts it is sent, each with the place of its
text, in any order. -/
def Answers (endpoint : List EmbeddingRequest → EmbeddingAnswer) (f : String → Embedding) : Prop :=
  ∀ (sent : List EmbeddingRequest) (request : EmbeddingRequest) (items : List EmbeddingItem),
    endpoint (sent ++ [request]) = .data items → items.Perm (places f request.input)

theorem eq_map_of_attempts (hendpoint : Answers endpoint f) {retries attempt : ℕ}
    {traffic after : EmbeddingTraffic} {vectors : List Embedding}
    (h : client.attempts endpoint texts retries attempt traffic = (.ok vectors, after)) :
    vectors = texts.map f ∧ ∀ text ∈ texts, (f text).length = client.dimensions := by
  obtain ⟨sent, hreact⟩ := exists_data_of_attempts h
  cases hanswer : endpoint (sent ++ [client.request texts]) with
  | data items =>
      have hitems : items.Perm (places f texts) := hendpoint _ _ _ hanswer
      rw [hanswer, react_data hitems] at hreact
      split at hreact
      case isTrue hdimensions => exact ⟨(Reaction.vectors.inj hreact).symm, hdimensions⟩
      case isFalse => exact absurd hreact (by simp)
  | apiTimeout =>
      rw [hanswer] at hreact
      exact absurd hreact (by simp [react])
  | rejected =>
      rw [hanswer] at hreact
      exact absurd hreact (by simp [react])
  | openAI =>
      rw [hanswer] at hreact
      exact absurd hreact (by simp [react])
  | exception e =>
      rw [hanswer] at hreact
      exact absurd hreact (by simp [react])

theorem eq_map_of_requestBatch (hendpoint : Answers endpoint f) {traffic after : EmbeddingTraffic}
    {vectors : List Embedding}
    (h : client.requestBatch endpoint texts traffic = (.ok vectors, after)) :
    vectors = texts.map f ∧ ∀ text ∈ texts, (f text).length = client.dimensions := by
  rw [requestBatch] at h
  split at h
  case isTrue => exact absurd (Prod.mk.inj h).1 (by simp)
  case isFalse => exact eq_map_of_attempts hendpoint h

/-! ### All batches -/

/-- The batches that come back are the vectors of their texts, one batch after the other. -/
theorem eq_map_of_requestBatches (hendpoint : Answers endpoint f) {batches : List (List String)}
    {traffic after : EmbeddingTraffic} {vectors : List Embedding}
    (h : client.requestBatches endpoint batches traffic = (.ok vectors, after)) :
    vectors = batches.flatten.map f ∧
      ∀ text ∈ batches.flatten, (f text).length = client.dimensions := by
  induction batches generalizing traffic vectors after with
  | nil =>
      obtain rfl := Except.ok.inj (Prod.mk.inj h).1
      exact ⟨rfl, nofun⟩
  | cons batch rest ih =>
      rw [requestBatches] at h
      split at h
      case h_1 => exact absurd (Prod.mk.inj h).1 (by simp)
      case h_2 found middle hbatch =>
          split at h
          case h_1 => exact absurd (Prod.mk.inj h).1 (by simp)
          case h_2 others last hrest =>
              obtain rfl := Except.ok.inj (Prod.mk.inj h).1
              obtain ⟨rfl, hfound⟩ := eq_map_of_requestBatch hendpoint hbatch
              obtain ⟨rfl, hothers⟩ := ih hrest
              rw [List.flatten_cons, List.map_append]
              refine ⟨rfl, fun text htext => ?_⟩
              rcases List.mem_append.mp htext with htext | htext
              · exact hfound text htext
              · exact hothers text htext

/-- **The vectors are those of the texts in the order of the texts**, whatever the size of the
batches and the order in the answers. -/
theorem eq_map_of_embedTexts (hendpoint : Answers endpoint f) {traffic after : EmbeddingTraffic}
    {vectors : List Embedding}
    (h : client.embedTexts endpoint texts traffic = (.ok vectors, after)) :
    vectors = texts.map f ∧ ∀ text ∈ texts, (f text).length = client.dimensions := by
  rw [embedTexts] at h
  split at h
  case isTrue hnil =>
      obtain rfl := Except.ok.inj (Prod.mk.inj h).1
      rw [hnil]
      exact ⟨rfl, nofun⟩
  case isFalse =>
      split at h
      case h_1 => exact absurd (Prod.mk.inj h).1 (by simp)
      case h_2 found last hbatches =>
          split at h
          case isTrue => exact absurd (Prod.mk.inj h).1 (by simp)
          case isFalse =>
              obtain rfl := Except.ok.inj (Prod.mk.inj h).1
              have hvectors := eq_map_of_requestBatches hendpoint hbatches
              rw [Batches.flatten_cut client.one_le_batchSize] at hvectors
              exact hvectors

/-! ### Traffic -/

/-- The requests for some batches, for each batch so many. -/
def repeated (client : OpenAICompatibleEmbeddingProvider) (batches : List (List String))
    (counts : List ℕ) : List EmbeddingRequest :=
  (batches.zip counts).flatMap fun row => List.replicate row.2 (client.request row.1)

/-- The sleeps between so many requests for each batch. -/
def slept (counts : List ℕ) : List ℚ :=
  counts.flatMap fun count => (List.range' 0 (count - 1)).map backoff

/-- Batches are requested in their order, each of them once at least and once more than there
are retries at most. -/
structure Requested (client : OpenAICompatibleEmbeddingProvider) (batches : List (List String))
    (traffic after : EmbeddingTraffic) (counts : List ℕ) : Prop where
  length_le : counts.length ≤ batches.length
  bounded : ∀ count ∈ counts, 1 ≤ count ∧ count ≤ client.maxRetries + 1
  requests : after.requests = traffic.requests ++ client.repeated batches counts
  delays : after.delays = traffic.delays ++ slept counts

theorem Requested.nil (batches : List (List String)) (traffic : EmbeddingTraffic) :
    client.Requested batches traffic traffic [] :=
  ⟨Nat.zero_le _, nofun, by simp [repeated], by simp [slept]⟩

theorem Requested.cons {batch : List String} {rest : List (List String)}
    {traffic middle after : EmbeddingTraffic} {count : ℕ} {counts : List ℕ}
    (hcount : count ≤ client.maxRetries)
    (hrequests : middle.requests =
      traffic.requests ++ List.replicate (count + 1) (client.request batch))
    (hdelays : middle.delays = traffic.delays ++ (List.range' 0 count).map backoff)
    (h : client.Requested rest middle after counts) :
    client.Requested (batch :: rest) traffic after ((count + 1) :: counts) where
  length_le := by
    rw [List.length_cons, List.length_cons]
    exact Nat.succ_le_succ h.length_le
  bounded := by
    rw [List.forall_mem_cons]
    exact ⟨⟨Nat.succ_le_succ (Nat.zero_le _), Nat.succ_le_succ hcount⟩, h.bounded⟩
  requests := by
    rw [h.requests, hrequests, List.append_assoc]
    rfl
  delays := by
    rw [h.delays, hdelays, List.append_assoc]
    rfl

variable (client endpoint) in
/-- A batch is not requested when one of its texts is blank. -/
theorem requestBatch_traffic (batch : List String) (traffic : EmbeddingTraffic) :
    (∃ e, client.requestBatch endpoint batch traffic = (.error e, traffic)) ∨
      ∃ count ≤ client.maxRetries,
        (client.requestBatch endpoint batch traffic).2.requests =
          traffic.requests ++ List.replicate (count + 1) (client.request batch) ∧
        (client.requestBatch endpoint batch traffic).2.delays =
          traffic.delays ++ (List.range' 0 count).map backoff := by
  rw [requestBatch]
  split
  case isTrue => exact .inl ⟨_, rfl⟩
  case isFalse => exact .inr (attempts_traffic client.maxRetries 0 traffic)

variable (client endpoint) in
theorem requestBatches_traffic (batches : List (List String)) (traffic : EmbeddingTraffic) :
    ∃ counts, client.Requested batches traffic
        (client.requestBatches endpoint batches traffic).2 counts ∧
      ((client.requestBatches endpoint batches traffic).1.isOk = true →
        counts.length = batches.length) := by
  induction batches generalizing traffic with
  | nil => exact ⟨[], .nil [] traffic, fun _ => rfl⟩
  | cons batch rest ih =>
      rw [requestBatches]
      rcases requestBatch_traffic client endpoint batch traffic with
        ⟨e, hbatch⟩ | ⟨count, hcount, hrequests, hdelays⟩
      · rw [hbatch]
        exact ⟨[], .nil _ traffic, nofun⟩
      · split
        case h_1 e after hbatch =>
            rw [hbatch] at hrequests hdelays
            exact ⟨[count + 1], .cons hcount hrequests hdelays (.nil rest after), nofun⟩
        case h_2 vectors after hbatch =>
            rw [hbatch] at hrequests hdelays
            obtain ⟨counts, hrequested, hok⟩ := ih after
            refine ⟨(count + 1) :: counts, ?_, ?_⟩
            · split
              case h_1 e last hrest =>
                  rw [hrest] at hrequested
                  exact .cons hcount hrequests hdelays hrequested
              case h_2 others last hrest =>
                  rw [hrest] at hrequested
                  exact .cons hcount hrequests hdelays hrequested
            · split
              case h_1 => exact nofun
              case h_2 others last hrest =>
                  intro _
                  rw [hrest] at hok
                  rw [List.length_cons, List.length_cons, hok rfl]

/-- **What a call sends**: the batches of the texts in their order, each of them at most once
more than there are retries, and all of them when it succeeds. -/
theorem embedTexts_traffic (client : OpenAICompatibleEmbeddingProvider)
    (endpoint : List EmbeddingRequest → EmbeddingAnswer) (texts : List String)
    (traffic : EmbeddingTraffic) :
    ∃ counts, client.Requested (Batches.cut client.batchSize texts) traffic
        (client.embedTexts endpoint texts traffic).2 counts ∧
      ((client.embedTexts endpoint texts traffic).1.isOk = true →
        counts.length = (texts.length + client.batchSize - 1) / client.batchSize) := by
  obtain ⟨counts, hrequested, hok⟩ := requestBatches_traffic client endpoint
    (Batches.cut client.batchSize texts) traffic
  rw [Batches.length_cut] at hok
  rw [embedTexts]
  split
  case isTrue hnil =>
      refine ⟨[], .nil _ traffic, fun _ => ?_⟩
      have hsize := client.one_le_batchSize
      rw [hnil, List.length_nil, List.length_nil, Nat.zero_add]
      exact (Nat.div_eq_of_lt (by omega)).symm
  case isFalse =>
      refine ⟨counts, ?_, ?_⟩
      · split
        case h_1 e after hbatches =>
            rw [hbatches] at hrequested
            exact hrequested
        case h_2 vectors after hbatches =>
            rw [hbatches] at hrequested
            split
            · exact hrequested
            · exact hrequested
      · split
        case h_1 => exact nofun
        case h_2 vectors after hbatches =>
            intro _
            rw [hbatches] at hok
            exact hok rfl

/-! ### Endpoints that recover -/

/-- However often the endpoint fails, it answers a request that is repeated so many times. -/
def Recovers (endpoint : List EmbeddingRequest → EmbeddingAnswer) (f : String → Embedding)
    (retries : ℕ) : Prop :=
  ∀ (sent : List EmbeddingRequest) (request : EmbeddingRequest), ∃ count ≤ retries,
    (∀ k < count, (endpoint (sent ++ List.replicate (k + 1) request)).isTransient = true) ∧
    ∃ items, endpoint (sent ++ List.replicate (count + 1) request) = .data items ∧
      items.Perm (places f request.input)

variable (client texts) in
theorem exists_retry_of_isTransient {answer : EmbeddingAnswer} (h : answer.isTransient = true) :
    ∃ exhausted, client.react texts answer = .retry exhausted := by
  cases answer with
  | data items => exact absurd h (by simp [EmbeddingAnswer.isTransient])
  | apiTimeout => exact ⟨_, rfl⟩
  | rejected => exact absurd h (by simp [EmbeddingAnswer.isTransient])
  | openAI => exact ⟨_, rfl⟩
  | exception e => exact absurd h (by simp [EmbeddingAnswer.isTransient])

theorem attempts_ok {count retries attempt : ℕ} {traffic : EmbeddingTraffic}
    {items : List EmbeddingItem} (hcount : count ≤ retries)
    (htransient : ∀ k < count, (endpoint (traffic.requests ++
      List.replicate (k + 1) (client.request texts))).isTransient = true)
    (hdata : endpoint (traffic.requests ++ List.replicate (count + 1) (client.request texts)) =
      .data items)
    (hitems : items.Perm (places f texts))
    (hdimensions : ∀ text ∈ texts, (f text).length = client.dimensions) :
    (client.attempts endpoint texts retries attempt traffic).1 = .ok (texts.map f) := by
  induction count generalizing retries attempt traffic with
  | zero =>
      have hreact : client.react texts (.data items) = .vectors (texts.map f) := by
        rw [react_data hitems, if_pos hdimensions]
      rw [List.replicate_one] at hdata
      rw [attempts, hdata, hreact]
  | succ count ih =>
      cases retries with
      | zero => exact absurd hcount (by omega)
      | succ retries =>
          obtain ⟨exhausted, hretry⟩ := exists_retry_of_isTransient client texts
            (htransient 0 (Nat.succ_pos count))
          rw [Nat.zero_add, List.replicate_one] at hretry
          rw [attempts, hretry]
          refine ih (Nat.le_of_succ_le_succ hcount) (fun k hk => ?_) ?_
          · rw [List.append_assoc, List.singleton_append, ← List.replicate_succ]
            exact htransient (k + 1) (Nat.succ_lt_succ hk)
          · rw [List.append_assoc, List.singleton_append, ← List.replicate_succ]
            exact hdata

theorem requestBatches_ok {batches : List (List String)}
    (hrecovers : Recovers endpoint f client.maxRetries)
    (hdimensions : ∀ text ∈ batches.flatten, (f text).length = client.dimensions)
    (hblank : ∀ text ∈ batches.flatten, strip text ≠ "") (traffic : EmbeddingTraffic) :
    (client.requestBatches endpoint batches traffic).1 = .ok (batches.flatten.map f) := by
  induction batches generalizing traffic with
  | nil => rfl
  | cons batch rest ih =>
      rw [List.flatten_cons, List.forall_mem_append] at hdimensions hblank
      obtain ⟨count, hcount, htransient, items, hdata, hitems⟩ :=
        hrecovers traffic.requests (client.request batch)
      have hbatch : (client.requestBatch endpoint batch traffic).1 = .ok (batch.map f) := by
        rw [requestBatch, if_neg ?_]
        · exact attempts_ok hcount htransient hdata hitems hdimensions.1
        · rw [List.any_eq_true]
          rintro ⟨text, htext, hstrip⟩
          exact hblank.1 text htext (eq_of_beq hstrip)
      have hrest := ih hdimensions.2 hblank.2 (client.requestBatch endpoint batch traffic).2
      rw [requestBatches]
      split
      case h_1 e after hfailed =>
          rw [hfailed] at hbatch
          exact absurd hbatch (by simp)
      case h_2 vectors after hvectors =>
          rw [hvectors] at hbatch hrest
          obtain rfl := Except.ok.inj hbatch
          split
          case h_1 e last hfailed =>
              rw [hfailed] at hrest
              exact absurd hrest (by simp)
          case h_2 others last hothers =>
              rw [hothers] at hrest
              obtain rfl := Except.ok.inj hrest
              rw [List.flatten_cons, List.map_append]

/-- **A call outlasts transient failures**: no more of them in a row than there are retries. -/
theorem embedTexts_ok_of_recovers (hrecovers : Recovers endpoint f client.maxRetries)
    (hdimensions : ∀ text ∈ texts, (f text).length = client.dimensions)
    (hblank : ∀ text ∈ texts, strip text ≠ "") (traffic : EmbeddingTraffic) :
    (client.embedTexts endpoint texts traffic).1 = .ok (texts.map f) := by
  have hflatten := Batches.flatten_cut client.one_le_batchSize texts
  have hbatches : (client.requestBatches endpoint (Batches.cut client.batchSize texts) traffic).1 =
      .ok ((Batches.cut client.batchSize texts).flatten.map f) :=
    requestBatches_ok hrecovers (hflatten.symm ▸ hdimensions) (hflatten.symm ▸ hblank) traffic
  rw [hflatten] at hbatches
  rw [embedTexts]
  split
  case isTrue hnil => rw [hnil, List.map_nil]
  case isFalse =>
      split
      case h_1 e after hfailed =>
          rw [hfailed] at hbatches
          exact absurd hbatches (by simp)
      case h_2 vectors after hvectors =>
          rw [hvectors] at hbatches
          obtain rfl := Except.ok.inj hbatches
          rw [if_neg (not_not.mpr (List.length_map _))]

/-- Two texts for each request, and one retry. -/
def pairs : OpenAICompatibleEmbeddingProvider where
  model := "text-embedding"
  dimensions := 64
  batchSize := 2
  maxRetries := 1
  model_ne := by decide +kernel
  two_le_dimensions := by decide
  one_le_batchSize := by decide

/-- A vector that tells how long a text is. -/
def lengths (text : String) : Embedding := List.replicate 64 (text.length : ℚ)

/-- An endpoint that answers every other request, with the vectors in reverse order. -/
def everyOther (requests : List EmbeddingRequest) : EmbeddingAnswer :=
  if requests.length % 2 = 1 then .apiTimeout
  else
    match requests.getLast? with
    | none => .openAI
    | some request => .data (places lengths request.input).reverse

theorem everyOther_append (sent : List EmbeddingRequest) (request : EmbeddingRequest) :
    everyOther (sent ++ [request]) =
      if sent.length % 2 = 0 then .apiTimeout
      else .data (places lengths request.input).reverse := by
  rw [everyOther, List.length_append, List.length_singleton, List.getLast?_append]
  by_cases heven : sent.length % 2 = 0
  · rw [if_pos heven, if_pos (by omega)]
  · rw [if_neg heven, if_neg (by omega)]
    rfl

theorem answers_everyOther : Answers everyOther lengths := by
  intro sent request items h
  rw [everyOther_append] at h
  split at h
  case isTrue => exact absurd h (by simp)
  case isFalse =>
      obtain rfl := EmbeddingAnswer.data.inj h
      exact List.reverse_perm _

theorem recovers_everyOther : Recovers everyOther lengths 1 := by
  intro sent request
  by_cases heven : sent.length % 2 = 0
  · refine ⟨1, le_rfl, ?_, (places lengths request.input).reverse, ?_, List.reverse_perm _⟩
    · intro k hk
      obtain rfl : k = 0 := by omega
      rw [Nat.zero_add, List.replicate_one, everyOther_append, if_pos heven]
      rfl
    · have hsplit : sent ++ List.replicate (1 + 1) request = (sent ++ [request]) ++ [request] := by
        rw [List.append_assoc]
        rfl
      rw [hsplit, everyOther_append, if_neg]
      rw [List.length_append, List.length_singleton]
      omega
  · refine ⟨0, by omega, nofun, (places lengths request.input).reverse, ?_, List.reverse_perm _⟩
    rw [Nat.zero_add, List.replicate_one, everyOther_append, if_neg heven]

theorem embedTexts_ok_of_recovers_pairs :
    (pairs.embedTexts everyOther ["a", "bc", "def"] {}).1 =
      .ok (["a", "bc", "def"].map lengths) :=
  embedTexts_ok_of_recovers recovers_everyOther (fun _ _ => List.length_replicate)
    (by decide +kernel) {}

/-! ### What is indexed -/

/-- The client under the governance of a provider: an attempt that is let pass asks the client. -/
def govern (client : OpenAICompatibleEmbeddingProvider)
    (endpoint : List EmbeddingRequest → EmbeddingAnswer) (traffic : ℕ → EmbeddingTraffic)
    (admission : ℕ → Except IndexException Unit) (governed : GovernedEmbeddingProvider) :
    GovernedEmbeddingProvider :=
  { governed with
    dimensions := client.dimensions
    call := fun number prepared => do
      admission number
      (client.embedTexts endpoint prepared (traffic number)).1 }

end OpenAICompatibleEmbeddingProvider

namespace GovernedEmbeddingProvider

variable {provider : GovernedEmbeddingProvider}

/-- What of a text leaves the program. -/
def prepared (provider : GovernedEmbeddingProvider) (text : String) : String :=
  if provider.privacyPolicy = .strict ∧ provider.external = true then provider.redact text
  else text

theorem eq_map_of_prepare {texts sent : List String} (h : provider.prepare texts = .ok sent) :
    sent = texts.map provider.prepared := by
  rw [prepare] at h
  split at h
  case isTrue => exact absurd h (by simp)
  case isFalse =>
      split at h
      case isTrue hopen =>
          obtain rfl := Except.ok.inj h
          have hprepared : provider.prepared = id := by
            funext text
            rw [prepared, if_neg]
            · rfl
            · rintro ⟨hstrict, hexternal⟩
              rcases hopen with hopen | hopen
              · exact hopen hstrict
              · exact absurd (hopen.symm.trans hexternal) (by simp)
          rw [hprepared, List.map_id]
      case isFalse hstrict =>
          obtain rfl := Except.ok.inj h
          refine List.map_congr_left fun text _ => ?_
          rw [prepared, if_pos]
          rw [not_or, not_not, Bool.not_eq_false] at hstrict
          exact hstrict

theorem call_of_attempt {sent : List String} {number : ℕ} {vectors : List Embedding}
    (h : provider.attempt number sent = .ok vectors) : provider.call number sent = .ok vectors := by
  cases hcall : provider.call number sent with
  | error e =>
      rw [attempt, hcall] at h
      exact absurd h (by simp [bind, Except.bind])
  | ok found =>
      rw [attempt, hcall] at h
      change (if _ then _ else _ : Except IndexException (List Embedding)) = _ at h
      split at h
      · exact absurd h (by simp)
      · cases hsettle : provider.settle number with
        | error e =>
            rw [hsettle] at h
            exact absurd h (by simp [bind, Except.bind])
        | ok closed =>
            rw [hsettle] at h
            exact congrArg Except.ok (Except.ok.inj h)

/-- What comes back was handed over by an attempt. -/
theorem exists_call_of_attempts {sent : List String} {retries number : ℕ}
    {vectors : List Embedding} (h : provider.attempts sent retries number = .ok vectors) :
    ∃ number, provider.call number sent = .ok vectors := by
  induction retries generalizing number with
  | zero =>
      rw [attempts] at h
      split at h
      case h_1 found hattempt =>
          obtain rfl := Except.ok.inj h
          exact ⟨number, call_of_attempt hattempt⟩
      case h_2 e hattempt =>
          split at h
          · exact absurd h (by simp)
          · exact absurd h (by simp)
  | succ retries ih =>
      rw [attempts] at h
      split at h
      case h_1 found hattempt =>
          obtain rfl := Except.ok.inj h
          exact ⟨number, call_of_attempt hattempt⟩
      case h_2 e hattempt =>
          split at h
          · exact absurd h (by simp)
          · dsimp only at h
            split at h
            · exact ih h
            · exact absurd h (by simp)

theorem exists_call_of_embedTexts {texts : List String} {vectors : List Embedding}
    (h : provider.embedTexts texts = .ok vectors) :
    texts = [] ∧ vectors = [] ∨
      ∃ number, provider.call number (texts.map provider.prepared) = .ok vectors := by
  rw [embedTexts] at h
  split at h
  case isTrue hnil => exact .inl ⟨hnil, (Except.ok.inj h).symm⟩
  case isFalse =>
      refine .inr ?_
      cases hrun : provider.workflowRun with
      | error e =>
          rw [hrun] at h
          exact absurd h (by simp [bind, Except.bind])
      | ok found =>
          cases hprepare : provider.prepare texts with
          | error e =>
              rw [hrun, hprepare] at h
              have hreleased : (do
                  provider.release 1 e
                  Except.error e : Except IndexException (List Embedding)) = .ok vectors := h
              cases hrelease : provider.release 1 e with
              | error again =>
                  rw [hrelease] at hreleased
                  exact absurd hreleased (by simp [bind, Except.bind])
              | ok closed =>
                  rw [hrelease] at hreleased
                  exact absurd hreleased (by simp [bind, Except.bind])
          | ok sent =>
              rw [hrun, hprepare] at h
              rw [← eq_map_of_prepare hprepare]
              exact exists_call_of_attempts h

end GovernedEmbeddingProvider

namespace OpenAICompatibleEmbeddingProvider

variable {client : OpenAICompatibleEmbeddingProvider}
  {endpoint : List EmbeddingRequest → EmbeddingAnswer} {f : String → Embedding}

/-- **The governed client**: each text gets the vector of what of it leaves the program. -/
theorem eq_map_of_govern (hendpoint : Answers endpoint f) {traffic : ℕ → EmbeddingTraffic}
    {admission : ℕ → Except IndexException Unit} {governed : GovernedEmbeddingProvider}
    {texts : List String} {vectors : List Embedding}
    (h : (client.govern endpoint traffic admission governed).embedTexts texts = .ok vectors) :
    vectors = texts.map fun text => f (governed.prepared text) := by
  rcases GovernedEmbeddingProvider.exists_call_of_embedTexts h with ⟨rfl, rfl⟩ | ⟨number, hcall⟩
  · rfl
  · have hmap := List.map_map (f := governed.prepared) (g := f) (l := texts)
    cases hadmission : admission number with
    | error e =>
        simp only [govern, hadmission] at hcall
        exact absurd hcall (by simp [bind, Except.bind])
    | ok passed =>
        simp only [govern, hadmission] at hcall
        exact ((eq_map_of_embedTexts hendpoint (Prod.ext hcall rfl)).1).trans hmap

end OpenAICompatibleEmbeddingProvider

namespace IndexEnvironment

open OpenAICompatibleEmbeddingProvider

/-- **Vectors stay with their sources.** Whatever the order in which the endpoint answers, the
size of the batches, and the attempts that fail before, the vectors that are stored are those of
the sources in their order, of their texts as they leave the program. -/
theorem embed_eq_map {env : IndexEnvironment} {client : OpenAICompatibleEmbeddingProvider}
    {endpoint : List EmbeddingRequest → EmbeddingAnswer} {f : String → Embedding}
    {traffic : ℕ → EmbeddingTraffic} {admission : ℕ → Except IndexException Unit}
    {governed : GovernedEmbeddingProvider} {drafts : List SourceDraft} {vectors : List Embedding}
    (hendpoint : Answers endpoint f)
    (hfactory : env.providerFactory = .ok (client.govern endpoint traffic admission governed))
    (h : env.embed drafts = .ok vectors) :
    vectors = (drafts.map fun draft => f (governed.prepared draft.content)) ∧
      ∀ vector ∈ vectors, vector.length = databaseEmbeddingDimensions := by
  rw [embed, hfactory] at h
  change (if _ then _ else _ : Except IndexException (List Embedding)) = _ at h
  split at h
  case isTrue => exact absurd h (by simp)
  case isFalse =>
      cases hembed : (client.govern endpoint traffic admission governed).embedTexts
        (drafts.map (·.content)) with
      | error e =>
          rw [hembed] at h
          exact absurd h (by simp [bind, Except.bind])
      | ok found =>
          rw [hembed] at h
          change (if _ then _ else _ : Except IndexException (List Embedding)) = _ at h
          split at h
          case isTrue => exact absurd h (by simp)
          case isFalse hshape =>
              obtain rfl := Except.ok.inj h
              rw [not_or, not_exists] at hshape
              refine ⟨?_, fun vector hvector => ?_⟩
              · rw [eq_map_of_govern hendpoint hembed, List.map_map]
                rfl
              · by_contra hne
                exact hshape.2 vector ⟨hvector, hne⟩

/-- A source with a text. -/
def sourceOf (sourceId : ℕ) (content : String) : SourceDraft where
  sourceType := .fact
  sourceId := sourceId
  chapterId := none
  chapterVersionId := some 1
  validFromChapter := 1
  entityNames := []
  chunkIndex := 0
  content := content
  contentHash := ""

/-- A strict policy that shortens what leaves the program, and attempts that all pass. -/
def strictly : GovernedEmbeddingProvider where
  dimensions := 64
  privacyPolicy := .strict
  external := true
  maxRetries := 1
  redact := fun text => String.ofList (text.toList.take 4)
  workflowRun := .ok ()
  call := fun _ _ => .ok []
  settle := fun _ => .ok ()
  release := fun _ _ => .ok ()

/-- The pairs of texts go to an endpoint that answers every other request. -/
def everyOtherEnvironment : IndexEnvironment where
  providerFactory := .ok (pairs.govern everyOther (fun _ => {}) (fun _ => .ok ()) strictly)
  transaction := .ok ()

theorem embed_eq_map_everyOther :
    [4, 2, 3].map (List.replicate 64) =
        ([sourceOf 1 "storms", sourceOf 2 "ab", sourceOf 3 "abc"].map fun draft =>
          lengths (strictly.prepared draft.content)) ∧
      ∀ vector ∈ ([4, 2, 3].map (List.replicate 64) : List Embedding),
        vector.length = databaseEmbeddingDimensions :=
  have hfactory : everyOtherEnvironment.providerFactory =
      .ok (pairs.govern everyOther (fun _ => {}) (fun _ => .ok ()) strictly) := rfl
  embed_eq_map answers_everyOther hfactory (by decide +kernel)

end IndexEnvironment

end StoryForge.Memory
