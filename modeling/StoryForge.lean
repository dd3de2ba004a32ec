import StoryForge.Jobs.Recovery
import StoryForge.Jobs.Fencing
import StoryForge.Chapters.Accepted
import StoryForge.Library.Program
import StoryForge.Library.Reservation
import StoryForge.Providers.Conservation
import StoryForge.Providers.Records
import StoryForge.Usage.Solvency
import StoryForge.Jobs.EventLog
import StoryForge.Jobs.EventStream
import StoryForge.Jobs.Outcomes
import StoryForge.Jobs.Ownership
import StoryForge.Jobs.Creation
import StoryForge.Workflows.Finality
import StoryForge.Jobs.Exclusion
import StoryForge.Workflows.Agreement
import StoryForge.Library.Transducer
import StoryForge.Providers.Ceiling
import StoryForge.Providers.StopConditions
import StoryForge.Reliability.Distributed
import StoryForge.Workflows.Revisions
import StoryForge.Chapters.Canon
import StoryForge.Chapters.Promotion
import StoryForge.Chapters.Supersession
import StoryForge.Books.Admission
import StoryForge.Books.Analysis
import StoryForge.Jobs.Attempts
import StoryForge.Jobs.Legality
import StoryForge.Planning.Replanning
import StoryForge.Library.Upsert
import StoryForge.Memory.Endpoints
import StoryForge.Memory.Reindex
import StoryForge.Memory.Failures
import StoryForge.Memory.Resolution
import StoryForge.Books.Execution
import StoryForge.Books.Spending
import StoryForge.Books.Progress
import StoryForge.Context.Builder
import StoryForge.Context.Causality
import StoryForge.Context.Budget
import StoryForge.Retrieval.Contract
import StoryForge.Retrieval.Expansion
import StoryForge.Consistency.Normalizer
import StoryForge.Memory.Chunker
import StoryForge.Memory.Chunks
import StoryForge.Revision.Brief
import StoryForge.Consistency.Models
import StoryForge.Library.Firsts
import StoryForge.Consistency.Checker
import StoryForge.Consistency.History
import StoryForge.Consistency.Masking
import StoryForge.Consistency.Unambiguous
import StoryForge.Books.Plans
import StoryForge.Books.RevisionPlan
import StoryForge.Chapters.Numbers
import StoryForge.Chapters.Calls
import StoryForge.Chapters.Stuck
import StoryForge.Providers.HalfOpen
import StoryForge.Reliability.DistributedRate
import StoryForge.Books.Backpressure
import StoryForge.Books.Scoring
import StoryForge.Books.Timeline
import StoryForge.Privacy.Concealment
import StoryForge.Providers.Requests
import StoryForge.Jobs.Subscription
import StoryForge.Chapters.Gate
import StoryForge.Memory.Embeddings
import StoryForge.Books.Completion
import StoryForge.Books.Gate
import StoryForge.Books.Repetition
import StoryForge.Identities
