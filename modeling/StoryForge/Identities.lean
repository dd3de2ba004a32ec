import StoryForge.Jobs.Service
import StoryForge.Library.CanonicalJson
import StoryForge.Providers.Gateway

/-!
# Identities

An idempotency key is the SHA-256 of a canonical JSON text. The services above take the digest
as a function of the fields; here are the texts, and that each of them determines its fields:
for a job the fields and the payload up to the order of its keys, for a provider call its scope
and the messages.

A payload has no secrets: its keys are looked through at every depth before it is stored.

## Main results

* `JobArguments.identityText_eq_iff` — which jobs have one identity;
* `JobArguments.exists_digest` — the digest of a job is a function of its fields;
* `Gateway.idempotencyKey_eq_iff` — which provider calls have one key;
* `JobArguments.validatePayload_spec` — which payloads are valid, and what is reported of others.
-/

namespace StoryForge

def JobType.value : JobType → String
  | .generatePlan => "generate_plan"
  | .generateChapter => "generate_chapter"
  | .evaluateChapter => "evaluate_chapter"
  | .runChapterWorkflow => "run_chapter_workflow"
  | .resumeWorkflow => "resume_workflow"
  | .reindexMemory => "reindex_memory"
  | .runRetrievalWarmup => "run_retrieval_warmup"
  | .runBook => "run_book"
  | .resumeBook => "resume_book"

def ModelProfile.value : ModelProfile → String
  | .offline => "offline"
  | .economy => "economy"
  | .balanced => "balanced"
  | .quality => "quality"

/-- The JSON of a number that may be missing. -/
def optionalInt (value : Option ℕ) : Json := Json.optional (fun n : ℕ => .int n) value

/-! ### Jobs -/

/-- The arguments of `JobService.create` that identify a job. The payload is a dictionary, and so
are the ones in it. -/
structure JobArguments where
  jobType : JobType
  projectId : Option ℕ
  chapterId : Option ℕ
  workflowRunId : Option ℕ
  operation : String
  payload : List (String × Json)
  externalKey : Option String
  payload_unique : (Json.object payload).Unique

namespace JobArguments

/-- `normalized_payload`. -/
def normalizedPayload (payload : List (String × Json)) : List (String × Json) :=
  payload.insertionSort fun a b => a.1 ≤ b.1

variable (arguments : JobArguments)

/-- The dictionary that is digested. -/
def body : Json :=
  .object
    [("job_type", .string arguments.jobType.value),
      ("project_id", optionalInt arguments.projectId),
      ("chapter_id", optionalInt arguments.chapterId),
      ("workflow_run_id", optionalInt arguments.workflowRunId),
      ("operation", .string arguments.operation),
      ("payload_schema_version", .int 1),
      ("payload", .object (normalizedPayload arguments.payload)),
      ("external_key", .string (arguments.externalKey.getD ""))]

/-- The text that is digested. -/
def identityText : List Char := (body arguments).canonical true

/-- The fields that the digest of the job service is a function of. -/
def toIdempotencyBody : IdempotencyBody where
  jobType := arguments.jobType
  projectId := arguments.projectId
  chapterId := arguments.chapterId
  workflowRunId := arguments.workflowRunId
  operation := arguments.operation
  payload := String.ofList ((Json.object arguments.payload).canonical true)
  externalKey := arguments.externalKey.getD ""

/-! ### Payloads without secrets -/

/-- `_SENSITIVE_KEYS`. -/
def sensitiveKeys : List String :=
  ["api_key", "authorization", "password", "secret", "token", "database_url", "content"]

/-- Whether a key may hold a secret. -/
def isSensitive (casefold : String → String) (key : String) : Bool :=
  casefold key ∈ sensitiveKeys || decide ("_key".toList <:+ (casefold key).toList)

/-- The error of a payload with a sensitive key. -/
def sensitiveField (path : List String) : Error :=
  .other "DomainValidationError"
    ("Job payload cannot contain sensitive field " ++ ".".intercalate path)

mutual

/-- `inspect`. -/
def inspect (casefold : String → String) (path : List String) : Json → Except Error Unit
  | .object members => inspectMembers casefold path members
  | .array items => inspectItems casefold path items
  | _ => .ok ()

/-- The loop over the items of a list. -/
def inspectItems (casefold : String → String) (path : List String) : List Json → Except Error Unit
  | [] => .ok ()
  | item :: items => do
      inspect casefold path item
      inspectItems casefold path items

/-- The loop over the items of a dictionary. -/
def inspectMembers (casefold : String → String) (path : List String) :
    List (String × Json) → Except Error Unit
  | [] => .ok ()
  | (key, item) :: members =>
      if isSensitive casefold key then .error (sensitiveField (path ++ [key]))
      else do
        inspect casefold (path ++ [key]) item
        inspectMembers casefold path members

end

/-- `_validate_payload`, on the normalized payload. -/
def validatePayload (casefold : String → String) : Except Error Unit :=
  inspect casefold [] (.object (normalizedPayload arguments.payload))

end JobArguments

/-! ### Provider calls -/

/-- The dictionary of a message. -/
def messageJson (message : String × String) : Json :=
  .object [("role", .string message.1), ("content", .string message.2)]

/-- The dictionary of a prompt request. -/
def PromptRequest.json (request : PromptRequest) : Json :=
  .object
    [("prompt", .string request.promptName),
      ("version", .string request.promptVersion),
      ("messages", .array (request.messages.map messageJson))]

/-- The text that is digested for a prompt request. -/
def PromptRequest.text (request : PromptRequest) : List Char := request.json.canonical false

namespace RequestIdentity

/-- The dictionary of the identity of a call. -/
def json (identity : RequestIdentity) : Json :=
  .object
    [("project", optionalInt identity.project),
      ("workflow", optionalInt identity.workflow),
      ("chapter", optionalInt identity.chapter),
      ("version", optionalInt identity.version),
      ("scope", Json.optional .string identity.scope),
      ("task", .string identity.task),
      ("profile", .string identity.profile.value),
      ("request_hash", .string identity.requestHash)]

/-- The text that is digested for a call. -/
def text (identity : RequestIdentity) : List Char := identity.json.canonical true

end RequestIdentity

/-! ### Texts determine their fields -/

theorem same_string_iff {value other : String} :
    (Json.string value).Same (.string other) ↔ value = other := by
  rw [Json.Same, Json.string.injEq, eq_comm]

theorem unique_optionalInt (value : Option ℕ) : (optionalInt value).Unique :=
  Json.unique_optional (fun n : ℕ => .int n) (fun _ => trivial) value

theorem same_optionalInt_iff {value other : Option ℕ} :
    (optionalInt value).Same (optionalInt other) ↔ value = other := by
  refine Json.same_optional_iff (fun _ => Json.noConfusion) fun a b => ?_
  rw [Json.Same, Json.int.injEq, Int.natCast_inj, eq_comm]

theorem same_optionalString_iff {value other : Option String} :
    (Json.optional .string value).Same (Json.optional .string other) ↔ value = other :=
  Json.same_optional_iff (fun _ => Json.noConfusion) fun _ _ => same_string_iff

/-- Values have one digest if they are equal, and only then as far as the digest has no collision
on their texts. -/
theorem digest_eq_iff {α : Type} {toText : α → List Char} (htext : Function.Injective toText)
    {sha256 : List Char → String} {a b : α}
    (h : sha256 (toText a) = sha256 (toText b) → toText a = toText b) :
    sha256 (toText a) = sha256 (toText b) ↔ a = b := by
  constructor
  · intro hsha
    exact htext (h hsha)
  · intro hsame
    rw [hsame]

theorem JobType.value_injective : Function.Injective JobType.value := by
  intro a b h
  cases a <;> cases b <;> first | rfl | simp [JobType.value] at h

theorem ModelProfile.value_injective : Function.Injective ModelProfile.value := by
  intro a b h
  cases a <;> cases b <;> first | rfl | simp [ModelProfile.value] at h

namespace JobArguments

variable {arguments a b : JobArguments}

/-- The names of the digested dictionary. -/
def names : List String :=
  ["job_type", "project_id", "chapter_id", "workflow_run_id", "operation",
    "payload_schema_version", "payload", "external_key"]

/-- The values of the digested dictionary. -/
def values (arguments : JobArguments) : List Json :=
  [.string arguments.jobType.value, optionalInt arguments.projectId,
    optionalInt arguments.chapterId, optionalInt arguments.workflowRunId,
    .string arguments.operation, .int 1, .object (normalizedPayload arguments.payload),
    .string (arguments.externalKey.getD "")]

theorem body_eq_zip : arguments.body = .object (names.zip arguments.values) := rfl

theorem normalizedPayload_perm (payload : List (String × Json)) :
    (normalizedPayload payload).Perm payload :=
  List.perm_insertionSort _ _

theorem nodup_names : names.Nodup := by decide

theorem unique_body : arguments.body.Unique := by
  have hpayload := Json.unique_of_perm (normalizedPayload_perm _) arguments.payload_unique
  rw [body, Json.Unique]
  refine ⟨nodup_names, ?_⟩
  simp only [Json.UniqueMembers, unique_optionalInt, hpayload, and_true, true_and]
  exact ⟨trivial, trivial, trivial, trivial⟩

/-- **Jobs have one identity** exactly if they agree in their fields, an external key that is
missing being an empty one, and in their payloads up to the order of keys at every depth. -/
theorem identityText_eq_iff :
    a.identityText = b.identityText ↔
      a.jobType = b.jobType ∧ a.projectId = b.projectId ∧ a.chapterId = b.chapterId ∧
        a.workflowRunId = b.workflowRunId ∧ a.operation = b.operation ∧
        (Json.object a.payload).Same (.object b.payload) ∧
        a.externalKey.getD "" = b.externalKey.getD "" := by
  have hpayload : (Json.object (normalizedPayload a.payload)).Same
        (.object (normalizedPayload b.payload)) ↔
      (Json.object a.payload).Same (.object b.payload) :=
    Json.same_of_perm_iff (normalizedPayload_perm _) (normalizedPayload_perm _) a.payload_unique
      b.payload_unique
  have hversion : (Json.int 1).Same (.int 1) := rfl
  rw [identityText, identityText, Json.canonical_eq_iff unique_body unique_body, body_eq_zip,
    body_eq_zip, Json.same_object_zip_iff nodup_names rfl rfl, values, values]
  simp only [List.forall₂_cons, List.forall₂_nil_right_iff, and_true, same_string_iff,
    same_optionalInt_iff, JobType.value_injective.eq_iff, hpayload, hversion, true_and]

/-- The digest is a function of the fields. -/
theorem identityText_of_body (h : a.toIdempotencyBody = b.toIdempotencyBody) :
    a.identityText = b.identityText := by
  simp only [toIdempotencyBody, IdempotencyBody.mk.injEq] at h
  obtain ⟨hjobType, hproject, hchapter, hworkflow, hoperation, hpayload, hkey⟩ := h
  rw [identityText_eq_iff]
  refine ⟨hjobType, hproject, hchapter, hworkflow, hoperation, ?_, hkey⟩
  have htext := String.ofList_injective hpayload
  exact (Json.canonical_eq_iff a.payload_unique b.payload_unique).mp htext

/-- **The digest of the job service** is that of the text: a digest of the texts is a function of
the fields. -/
theorem exists_digest (sha256 : List Char → String) :
    ∃ digest : IdempotencyBody → String, ∀ arguments : JobArguments,
      digest arguments.toIdempotencyBody = sha256 arguments.identityText := by
  have hfactors : Function.FactorsThrough (fun arguments => sha256 arguments.identityText)
      toIdempotencyBody :=
    fun _ _ h => congrArg sha256 (identityText_of_body h)
  exact ⟨Function.extend toIdempotencyBody (fun arguments => sha256 arguments.identityText)
    fun _ => "", fun arguments => hfactors.extend_apply _ arguments⟩

/-! ### The first sensitive key -/

mutual

/-- The keys of a value at every depth, in reading order, each with the keys above it. -/
def keyPlaces : Json → List (List String × String)
  | .object members => memberPlaces members
  | .array items => itemPlaces items
  | _ => []

/-- The keys of the items of a list. -/
def itemPlaces : List Json → List (List String × String)
  | [] => []
  | item :: items => keyPlaces item ++ itemPlaces items

/-- The keys of a dictionary, and those below each of them. -/
def memberPlaces : List (String × Json) → List (List String × String)
  | [] => []
  | (key, item) :: members =>
      ([], key) :: (keyPlaces item).map (fun place => (key :: place.1, place.2)) ++
        memberPlaces members

end

/-- What is raised for a sensitive key below a path. -/
def reported (path : List String) : Option (List String × String) → Except Error Unit
  | none => .ok ()
  | some place => .error (sensitiveField (path ++ place.1 ++ [place.2]))

theorem reported_or (path : List String) (first second : Option (List String × String)) :
    reported path (first.or second) = (do reported path first; reported path second) := by
  cases first <;> rfl

theorem reported_below (path : List String) (key : String)
    (found : Option (List String × String)) :
    reported path (found.map fun place => (key :: place.1, place.2)) =
      reported (path ++ [key]) found := by
  cases found with
  | none => rfl
  | some place =>
      rw [Option.map_some, reported, reported, List.append_assoc path [key], List.singleton_append]

mutual

theorem inspect_eq (casefold : String → String) : ∀ (v : Json) (path : List String),
    inspect casefold path v =
      reported path ((keyPlaces v).find? fun place => isSensitive casefold place.2)
  | .object members, path => by
      rw [inspect, keyPlaces, inspectMembers_eq casefold members path]
  | .array items, path => by
      rw [inspect, keyPlaces, inspectItems_eq casefold items path]
  | .null, _ | .bool _, _ | .int _, _ | .float _, _ | .string _, _ => by
      rw [inspect.eq_def, keyPlaces.eq_def]
      rfl

theorem inspectItems_eq (casefold : String → String) : ∀ (items : List Json) (path : List String),
    inspectItems casefold path items =
      reported path ((itemPlaces items).find? fun place => isSensitive casefold place.2)
  | [], _ => by
      rw [inspectItems, itemPlaces]
      rfl
  | item :: items, path => by
      rw [inspectItems, itemPlaces, List.find?_append, reported_or,
        inspect_eq casefold item path, inspectItems_eq casefold items path]

theorem inspectMembers_eq (casefold : String → String) :
    ∀ (members : List (String × Json)) (path : List String),
      inspectMembers casefold path members =
        reported path ((memberPlaces members).find? fun place => isSensitive casefold place.2)
  | [], _ => by
      rw [inspectMembers, memberPlaces]
      rfl
  | (key, item) :: members, path => by
      rw [inspectMembers, memberPlaces]
      by_cases hkey : isSensitive casefold key = true
      · have hfirst := List.find?_cons_of_pos
          (p := fun place : List String × String => isSensitive casefold place.2)
          (a := ([], key)) (l := (keyPlaces item).map (fun place => (key :: place.1, place.2)) ++
            memberPlaces members) hkey
        rw [if_pos hkey, List.cons_append, hfirst, reported, List.append_nil]
      · have hmap : ((keyPlaces item).map fun place => (key :: place.1, place.2)).find?
              (fun place => isSensitive casefold place.2) =
            ((keyPlaces item).find? fun place => isSensitive casefold place.2).map
              fun place => (key :: place.1, place.2) :=
          List.find?_map ..
        have hrest := List.find?_cons_of_neg
          (p := fun place : List String × String => isSensitive casefold place.2)
          (a := ([], key)) (l := (keyPlaces item).map (fun place => (key :: place.1, place.2)) ++
            memberPlaces members) hkey
        rw [if_neg hkey, List.cons_append, hrest, List.find?_append, reported_or, hmap,
          reported_below, inspect_eq casefold item (path ++ [key]),
          inspectMembers_eq casefold members path]

end

/-- The first sensitive key of a payload is reported. -/
theorem validatePayload_eq (casefold : String → String) (arguments : JobArguments) :
    arguments.validatePayload casefold =
      reported [] ((memberPlaces (normalizedPayload arguments.payload)).find? fun place =>
        isSensitive casefold place.2) := by
  rw [validatePayload, inspect, inspectMembers_eq]

theorem mem_memberPlaces {members : List (String × Json)} {place : List String × String} :
    place ∈ memberPlaces members ↔ ∃ member ∈ members, place = ([], member.1) ∨
      ∃ below ∈ keyPlaces member.2, (member.1 :: below.1, below.2) = place := by
  induction members with
  | nil => simp [memberPlaces]
  | cons member members ih =>
      rw [memberPlaces, List.mem_append, List.mem_cons, List.mem_map, ih, List.exists_mem_cons_iff]

/-- **A payload is valid** exactly if no key of it is sensitive, at any depth, and an error names
a sensitive key with the keys above it. -/
theorem validatePayload_spec (casefold : String → String) (arguments : JobArguments) :
    (arguments.validatePayload casefold = .ok () ↔
      ∀ place ∈ keyPlaces (.object arguments.payload), isSensitive casefold place.2 = false) ∧
      ∀ error, arguments.validatePayload casefold = .error error →
        ∃ place ∈ keyPlaces (.object arguments.payload),
          isSensitive casefold place.2 = true ∧
            error = sensitiveField (place.1 ++ [place.2]) := by
  have hmem : ∀ place, place ∈ memberPlaces (normalizedPayload arguments.payload) ↔
      place ∈ keyPlaces (.object arguments.payload) := by
    intro place
    rw [keyPlaces, mem_memberPlaces, mem_memberPlaces]
    simp only [(normalizedPayload_perm arguments.payload).mem_iff]
  simp only [validatePayload_eq, ← hmem]
  cases hfind : (memberPlaces (normalizedPayload arguments.payload)).find? fun place =>
      isSensitive casefold place.2 with
  | none =>
      rw [List.find?_eq_none] at hfind
      refine ⟨iff_of_true rfl fun place hplace => Bool.eq_false_iff.mpr (hfind place hplace), ?_⟩
      intro error herror
      contradiction
  | some place =>
      have hplace := List.mem_of_find?_eq_some hfind
      have hsensitive := List.find?_some hfind
      refine ⟨iff_of_false (by simp [reported]) fun hnone => ?_, ?_⟩
      · exact absurd (hnone place hplace) (by simp [hsensitive])
      · intro error herror
        exact ⟨place, hplace, hsensitive, (Except.error.inj herror).symm⟩

end JobArguments

/-! ### Identities of provider calls -/

theorem nodup_messageNames : ["role", "content"].Nodup := by decide

theorem unique_messageJson (message : String × String) : (messageJson message).Unique := by
  rw [messageJson, Json.Unique]
  exact ⟨nodup_messageNames, trivial, trivial, trivial⟩

theorem same_messageJson_iff {message other : String × String} :
    (messageJson message).Same (messageJson other) ↔ message = other := by
  have hzip (m : String × String) : messageJson m =
      .object (["role", "content"].zip [.string m.1, .string m.2]) := rfl
  rw [hzip, hzip, Json.same_object_zip_iff nodup_messageNames rfl rfl, Prod.ext_iff]
  simp only [List.forall₂_cons, List.forall₂_nil_right_iff, and_true, same_string_iff]

namespace PromptRequest

theorem nodup_names : ["prompt", "version", "messages"].Nodup := by decide

theorem unique_json (request : PromptRequest) : request.json.Unique := by
  have hmessages : Json.UniqueItems (request.messages.map messageJson) := by
    rw [Json.uniqueItems_iff]
    intro item hitem
    obtain ⟨message, -, rfl⟩ := List.mem_map.mp hitem
    exact unique_messageJson message
  rw [json, Json.Unique]
  exact ⟨nodup_names, trivial, trivial, hmessages, trivial⟩

/-- A prompt request is determined by its text. -/
theorem text_injective : Function.Injective text := by
  intro a b h
  have hzip (r : PromptRequest) : r.json = .object (["prompt", "version", "messages"].zip
      [.string r.promptName, .string r.promptVersion, .array (r.messages.map messageJson)]) := rfl
  have hmessages : Json.SameItems (a.messages.map messageJson) (b.messages.map messageJson) ↔
      a.messages = b.messages := by
    rw [Json.sameItems_iff, List.forall₂_map_left_iff, List.forall₂_map_right_iff]
    simp only [same_messageJson_iff]
    rw [List.forall₂_eq_eq_eq]
  rw [text, text, Json.canonical_eq_iff a.unique_json b.unique_json, hzip, hzip,
    Json.same_object_zip_iff nodup_names rfl rfl] at h
  simp only [List.forall₂_cons, List.forall₂_nil_right_iff, and_true, same_string_iff] at h
  obtain ⟨hname, hversion, items, hitems, hsame⟩ := h
  rw [← Json.array.inj hitems, hmessages] at hsame
  cases a
  cases b
  simp_all

end PromptRequest

namespace RequestIdentity

variable {identity a b : RequestIdentity}

/-- The names of the digested dictionary. -/
def names : List String :=
  ["project", "workflow", "chapter", "version", "scope", "task", "profile", "request_hash"]

theorem nodup_names : names.Nodup := by decide

theorem unique_json : identity.json.Unique := by
  have hscope : (Json.optional .string identity.scope).Unique :=
    Json.unique_optional .string (fun _ => trivial) identity.scope
  rw [json, Json.Unique]
  refine ⟨nodup_names, ?_⟩
  simp only [Json.UniqueMembers, unique_optionalInt, hscope, true_and, and_true]
  exact ⟨trivial, trivial, trivial⟩

/-- The identity of a call is determined by its text. -/
theorem text_injective : Function.Injective text := by
  intro a b h
  have hzip (r : RequestIdentity) : r.json = .object (names.zip
      [optionalInt r.project, optionalInt r.workflow, optionalInt r.chapter,
        optionalInt r.version, Json.optional .string r.scope, .string r.task,
        .string r.profile.value, .string r.requestHash]) := rfl
  rw [text, text, Json.canonical_eq_iff unique_json unique_json, hzip, hzip,
    Json.same_object_zip_iff nodup_names rfl rfl] at h
  simp only [List.forall₂_cons, List.forall₂_nil_right_iff, and_true, same_string_iff,
    same_optionalInt_iff, same_optionalString_iff, ModelProfile.value_injective.eq_iff] at h
  cases a
  cases b
  simp_all

end RequestIdentity

namespace Gateway

variable {g g' : Gateway} {sha256 : List Char → String} {request request' : PromptRequest}
  {route route' : ModelRoute} {workflow workflow' : Option ℕ}

/-- The digests of a gateway are those of the texts. -/
structure Digested (sha256 : List Char → String) (gateway : Gateway) : Prop where
  hashRequest : ∀ request, gateway.hashRequest request = sha256 request.text
  hashIdentity : ∀ identity, gateway.hashIdentity identity = sha256 identity.text

/-- What a call is known by. -/
def identity (gateway : Gateway) (request : PromptRequest) (route : ModelRoute)
    (workflow : Option ℕ) : RequestIdentity where
  project := gateway.context.projectId
  workflow := workflow
  chapter := gateway.context.chapterId
  version := gateway.context.chapterVersionId
  scope := gateway.context.idempotencyScope
  task := route.task
  profile := gateway.context.profile
  requestHash := gateway.hashRequest request

/-- **Provider calls have one key** exactly if they are for the same work with the same messages,
as far as the digest has no collision on their texts. The model that answers is no part of it. -/
theorem idempotencyKey_eq_iff (h : g.Digested sha256) (h' : g'.Digested sha256)
    (hrequest : sha256 request.text = sha256 request'.text → request.text = request'.text)
    (hidentity : sha256 (g.identity request route workflow).text =
        sha256 (g'.identity request' route' workflow').text →
      (g.identity request route workflow).text = (g'.identity request' route' workflow').text) :
    g.idempotencyKey request route workflow = g'.idempotencyKey request' route' workflow' ↔
      g.context.projectId = g'.context.projectId ∧ workflow = workflow' ∧
        g.context.chapterId = g'.context.chapterId ∧
        g.context.chapterVersionId = g'.context.chapterVersionId ∧
        g.context.idempotencyScope = g'.context.idempotencyScope ∧ route.task = route'.task ∧
        g.context.profile = g'.context.profile ∧ request = request' := by
  have hkey : g.idempotencyKey request route workflow =
      sha256 (g.identity request route workflow).text := h.hashIdentity _
  have hkey' : g'.idempotencyKey request' route' workflow' =
      sha256 (g'.identity request' route' workflow').text := h'.hashIdentity _
  have hhash : g.hashRequest request = g'.hashRequest request' ↔ request = request' := by
    rw [h.hashRequest, h'.hashRequest]
    exact digest_eq_iff PromptRequest.text_injective hrequest
  rw [hkey, hkey', digest_eq_iff RequestIdentity.text_injective hidentity, identity, identity,
    RequestIdentity.mk.injEq, hhash]

/-- A gateway whose digests are the texts. -/
def textual : Gateway :=
  { Gateway.sample with
    hashRequest := fun request => String.ofList request.text
    hashIdentity := fun identity => String.ofList identity.text }

theorem digested_textual : textual.Digested String.ofList :=
  ⟨fun _ => rfl, fun _ => rfl⟩

/-- Another model answers under the same key, another message does not. -/
theorem idempotencyKey_eq_iff_textual :
    textual.idempotencyKey .sample ⟨"drafting", [⟨"local", "model"⟩], 100⟩ (some 0) =
        textual.idempotencyKey .sample ⟨"drafting", [⟨"remote", "larger"⟩], 200⟩ (some 0) ∧
      textual.idempotencyKey .sample ⟨"drafting", [], 100⟩ (some 0) ≠
        textual.idempotencyKey ⟨"draft", "1", [("user", "More.")]⟩ ⟨"drafting", [], 100⟩
          (some 0) := by
  constructor
  · exact (idempotencyKey_eq_iff digested_textual digested_textual
      (fun hsame => String.ofList_injective hsame)
      fun hsame => String.ofList_injective hsame).mpr ⟨rfl, rfl, rfl, rfl, rfl, rfl, rfl, rfl⟩
  · intro hsame
    have hrequests := ((idempotencyKey_eq_iff digested_textual digested_textual
      (fun hsame => String.ofList_injective hsame)
      fun hsame => String.ofList_injective hsame).mp hsame).2.2.2.2.2.2.2
    exact absurd hrequests (by decide)

end Gateway

end StoryForge
