import Mathlib.Data.List.Basic
import StoryForge.Library.Machine

/-!
# Logs with a sequence number per key

Transactions append entries to one log. Every key has a counter, and an entry is appended
in two statements: one raises the counter of its key and returns the new value, the next
inserts the entry under that number. A counter that a transaction has changed is locked
until the transaction ends. Ids are handed out at insertion, to all keys and transactions
alike, and are not given back by a rollback.

Statements of any number of transactions interleave freely.

## Main results

* `SequencedLog.ordered_next` — what each statement keeps;
* `SequencedLog.numbered_of_reachable` — in every reachable state the committed entries of
  a key are numbered from one to its counter, in the order of their ids and of the commits.
-/

namespace SequencedLog

variable {κ α : Type*}

/-- An entry: its id, its key, and its number among the entries of the key. -/
structure Entry (κ α : Type*) where
  id : ℕ
  key : κ
  sequence : ℕ
  payload : α

/-- The log and what the transactions in progress have done to it. Transactions are named
by numbers; one that has done nothing need not be told from one that does not exist. -/
structure Log (κ α : Type*) where
  /-- The committed counters, `none` for a key without one. -/
  counters : κ → Option ℕ
  /-- The committed entries, in the order of the commits. -/
  entries : List (Entry κ α)
  /-- The id of the next insertion. -/
  nextId : ℕ
  /-- The transaction that holds a counter, and the value it left there. -/
  locks : κ → Option (ℕ × ℕ)
  /-- What a transaction has inserted. -/
  written : ℕ → List (Entry κ α)
  /-- The number a transaction was given for its next entry. -/
  allocated : ℕ → Option (κ × ℕ)

/-- The statements of a transaction. -/
inductive Statement (κ α : Type*)
  | create (key : κ)
  | lock (key : κ)
  | allocate (key : κ)
  | insert (payload : α)
  | commit
  | rollback

variable [DecidableEq κ] {l l' : Log κ α} {t u n m : ℕ} {k : κ}

namespace Log

/-- The counter of a key as transaction `t` finds it, `none` while another one holds it. -/
def visible (l : Log κ α) (t : ℕ) (k : κ) : Option ℕ :=
  match l.locks k with
  | none => l.counters k
  | some (u, n) => if u = t then some n else none

/-- Transaction `t` holds the counter of `k` at `n`. -/
def hold (l : Log κ α) (t : ℕ) (k : κ) (n : ℕ) : Log κ α :=
  { l with locks := Function.update l.locks k (some (t, n)) }

/-- Whether transaction `t` holds the counter of `k`. -/
def heldBy (l : Log κ α) (t : ℕ) (k : κ) : Bool := (l.locks k).any (·.1 = t)

/-- The end of transaction `t`: its locks are released, its work is forgotten. -/
def release (l : Log κ α) (t : ℕ) : Log κ α :=
  { l with
    locks := fun k => if l.heldBy t k then none else l.locks k
    written := Function.update l.written t []
    allocated := Function.update l.allocated t none }

/-- The committed state with the work of transaction `t`. -/
def publish (l : Log κ α) (t : ℕ) : Log κ α :=
  { l with
    counters := fun k => if l.heldBy t k then (l.locks k).map (·.2) else l.counters k
    entries := l.entries ++ l.written t }

/-- The effect of a statement of transaction `t`, `none` when it has to wait. -/
def next (l : Log κ α) (t : ℕ) : Statement κ α → Option (Log κ α)
  | .create k =>
      if l.counters k = none ∧ l.locks k = none then some (l.hold t k 0) else none
  | .lock k => (l.visible t k).map (l.hold t k)
  | .allocate k =>
      if l.allocated t = none then
        (l.visible t k).map fun n =>
          { l.hold t k (n + 1) with allocated := Function.update l.allocated t (some (k, n + 1)) }
      else none
  | .insert payload =>
      (l.allocated t).map fun (k, n) =>
        { l with
          nextId := l.nextId + 1
          written := Function.update l.written t (l.written t ++ [⟨l.nextId, k, n, payload⟩])
          allocated := Function.update l.allocated t none }
  | .commit => if l.allocated t = none then some ((l.publish t).release t) else none
  | .rollback => some (l.release t)

/-- A log nobody is working on. -/
def idle (counters : κ → Option ℕ) (entries : List (Entry κ α)) (nextId : ℕ) : Log κ α :=
  ⟨counters, entries, nextId, fun _ => none, fun _ => [], fun _ => none⟩

end Log

/-- The log as a machine; an action is a statement of a transaction. Runs start empty. -/
def machine (κ α : Type*) [DecidableEq κ] : Machine (Log κ α) (ℕ × Statement κ α) where
  init l := l = .idle (fun _ => none) [] 0
  next l a := l.next a.1 a.2

/-! ### The order of the entries of one key -/

/-- The entries of a key. -/
def ofKey (k : κ) (entries : List (Entry κ α)) : List (Entry κ α) :=
  entries.filter (·.key = k)

omit [DecidableEq κ] in
/-- Entries are numbered from one to `n` in the order of their ids. -/
def Numbered (entries : List (Entry κ α)) (n : ℕ) : Prop :=
  entries.map (·.sequence) = List.range' 1 n ∧ entries.Pairwise (·.id < ·.id)

theorem ofKey_append (k : κ) (as bs : List (Entry κ α)) :
    ofKey k (as ++ bs) = ofKey k as ++ ofKey k bs := List.filter_append ..

theorem mem_ofKey {e : Entry κ α} {es : List (Entry κ α)} :
    e ∈ ofKey k es ↔ e ∈ es ∧ e.key = k := by
  simp [ofKey]

theorem ofKey_eq_nil {es : List (Entry κ α)} (h : ∀ e ∈ es, e.key ≠ k) : ofKey k es = [] := by
  rw [ofKey, List.filter_eq_nil_iff]
  intro e he
  simpa using h e he

omit [DecidableEq κ] in
theorem numbered_nil : Numbered ([] : List (Entry κ α)) 0 := ⟨rfl, .nil⟩

omit [DecidableEq κ] in
/-- One more entry, with the next number and a fresh id. -/
theorem Numbered.append {es : List (Entry κ α)} {e : Entry κ α} (h : Numbered es n)
    (hseq : e.sequence = n + 1) (hid : ∀ old ∈ es, old.id < e.id) :
    Numbered (es ++ [e]) (n + 1) := by
  obtain ⟨hmap, hids⟩ := h
  constructor
  · rw [List.map_append, hmap, List.map_singleton, hseq, List.range'_concat]
    simp [Nat.add_comm]
  · rw [List.pairwise_append]
    refine ⟨hids, List.pairwise_singleton _ _, ?_⟩
    intro old hold new hnew
    rw [List.mem_singleton.mp hnew]
    exact hid old hold

/-- What holds while transactions are in progress: the entries a transaction has inserted
continue those committed under the same key, as far as it has inserted what it allocated. -/
structure Ordered (l : Log κ α) : Prop where
  committed : ∀ k, Numbered (ofKey k l.entries) ((l.counters k).getD 0)
  inProgress : ∀ k t n, l.locks k = some (t, n) →
    if l.allocated t = some (k, n) then
      ∃ m, n = m + 1 ∧ Numbered (ofKey k l.entries ++ ofKey k (l.written t)) m
    else Numbered (ofKey k l.entries ++ ofKey k (l.written t)) n
  held : ∀ t, ∀ e ∈ l.written t, ∃ n, l.locks e.key = some (t, n)
  allocated : ∀ t k n, l.allocated t = some (k, n) → l.locks k = some (t, n)
  entryIds : ∀ e ∈ l.entries, e.id < l.nextId
  writtenIds : ∀ t, ∀ e ∈ l.written t, e.id < l.nextId

namespace Ordered

/-- A transaction has written nothing under a key it does not hold. -/
theorem ofKey_written_eq_nil (h : Ordered l) (hfree : ∀ n, l.locks k ≠ some (t, n)) :
    ofKey k (l.written t) = [] := by
  refine ofKey_eq_nil fun e he hkey => ?_
  obtain ⟨n, hn⟩ := h.held t e he
  exact hfree n (hkey ▸ hn)

/-- The counter a transaction sees counts the entries it sees, unless it has a number in
hand. -/
theorem numbered_of_visible (h : Ordered l) (hvis : l.visible t k = some n)
    (hnone : ∀ n, l.allocated t ≠ some (k, n)) :
    Numbered (ofKey k l.entries ++ ofKey k (l.written t)) n := by
  unfold Log.visible at hvis
  split at hvis
  · rename_i hfree
    rw [h.ofKey_written_eq_nil (by simp [hfree]), List.append_nil]
    have hcommitted := h.committed k
    rwa [hvis] at hcommitted
  · rename_i u m hlock
    split at hvis
    · rename_i hut
      obtain rfl := hut
      obtain rfl := Option.some.inj hvis
      have hprogress := h.inProgress k u m hlock
      rwa [if_neg (hnone m)] at hprogress
    · exact absurd hvis (by simp)

/-- A statement that takes a free lock, or changes nothing about a lock already held. -/
theorem hold (h : Ordered l) (hlock : l.locks k = none ∨ l.locks k = some (t, n))
    (hnum : l.locks k = none → Numbered (ofKey k l.entries) n) : Ordered (l.hold t k n) := by
  rcases hlock with hfree | hown
  swap
  · have hsame : l.hold t k n = l := by
      rw [Log.hold, ← hown, Function.update_eq_self]
    rwa [hsame]
  have hnew {k' : κ} {u m : ℕ} (hold : l.locks k' = some (u, m)) :
      (l.hold t k n).locks k' = some (u, m) := by
    have hk : k' ≠ k := by
      rintro rfl
      exact absurd (hfree.symm.trans hold) (by simp)
    simp only [Log.hold, Function.update_of_ne hk, hold]
  refine ⟨h.committed, fun k' u m hm => ?_, fun u e he => ?_,
    fun u k' m hm => hnew (h.allocated u k' m hm), h.entryIds, h.writtenIds⟩
  · by_cases hk : k' = k
    · subst hk
      simp only [Log.hold, Function.update_self, Option.some.injEq, Prod.mk.injEq] at hm
      obtain ⟨rfl, rfl⟩ := hm
      have hnone : l.allocated t ≠ some (k', n) := fun hsome =>
        absurd (hfree.symm.trans (h.allocated t k' n hsome)) (by simp)
      rw [if_neg (show (l.hold t k' n).allocated t ≠ some (k', n) from hnone)]
      simp only [Log.hold]
      rw [h.ofKey_written_eq_nil (by simp [hfree]), List.append_nil]
      exact hnum hfree
    · simp only [Log.hold, Function.update_of_ne hk] at hm
      exact h.inProgress k' u m hm
  · obtain ⟨m, hm⟩ := h.held u e he
    exact ⟨m, hnew hm⟩

/-- A counter is raised for the next entry of its key. -/
theorem allocate (h : Ordered l) (hvis : l.visible t k = some n) (hfree : l.allocated t = none) :
    Ordered { l.hold t k (n + 1) with
      allocated := Function.update l.allocated t (some (k, n + 1)) } := by
  have hother {k' : κ} {u m : ℕ} (hold : l.locks k' = some (u, m)) (hne : u ≠ t) : k' ≠ k := by
    rintro rfl
    simp [Log.visible, hold, hne] at hvis
  refine ⟨h.committed, fun k' u m hm => ?_, fun u e he => ?_, fun u k' m hm => ?_,
    h.entryIds, h.writtenIds⟩
  · by_cases hk : k' = k
    · subst hk
      simp only [Log.hold, Function.update_self, Option.some.injEq, Prod.mk.injEq] at hm
      obtain ⟨rfl, rfl⟩ := hm
      simp only [Log.hold, Function.update_self, if_true]
      exact ⟨n, rfl, h.numbered_of_visible hvis (by simp [hfree])⟩
    · simp only [Log.hold, Function.update_of_ne hk] at hm
      have hprogress := h.inProgress k' u m hm
      by_cases hu : u = t
      · subst hu
        simpa [Log.hold, hfree, Ne.symm hk] using hprogress
      · simpa only [Log.hold, Function.update_of_ne hu] using hprogress
  · obtain ⟨m, hm⟩ := h.held u e he
    by_cases hk : e.key = k
    · by_cases hu : u = t
      · exact ⟨n + 1, by simp [Log.hold, hk, hu]⟩
      · exact absurd hk (hother hm hu)
    · exact ⟨m, by simpa only [Log.hold, Function.update_of_ne hk] using hm⟩
  · by_cases hu : u = t
    · subst hu
      simp only [Function.update_self, Option.some.injEq, Prod.mk.injEq] at hm
      obtain ⟨rfl, rfl⟩ := hm
      simp [Log.hold]
    · simp only [Function.update_of_ne hu] at hm
      have hlock := h.allocated u k' m hm
      simp only [Log.hold, Function.update_of_ne (hother hlock hu)]
      exact hlock

/-- The entry is inserted under the number it was given. -/
theorem insert (h : Ordered l) (payload : α) (hgiven : l.allocated t = some (k, n)) :
    Ordered { l with
      nextId := l.nextId + 1
      written := Function.update l.written t (l.written t ++ [⟨l.nextId, k, n, payload⟩])
      allocated := Function.update l.allocated t none } := by
  have hlock := h.allocated t k n hgiven
  refine ⟨h.committed, fun k' u m hm => ?_, fun u e he => ?_, fun u k' m hm => ?_,
    fun e he => Nat.lt_succ_of_lt (h.entryIds e he), fun u e he => ?_⟩
  · have hprogress := h.inProgress k' u m hm
    by_cases hu : u = t
    swap
    · simpa only [Function.update_of_ne hu] using hprogress
    subst hu
    simp only [Function.update_self, reduceCtorEq, if_false]
    rw [ofKey_append, ← List.append_assoc]
    by_cases hk : k' = k
    · subst hk
      obtain rfl : n = m := by simpa using hlock.symm.trans hm
      rw [if_pos hgiven] at hprogress
      obtain ⟨count, rfl, hnumbered⟩ := hprogress
      have hone : ofKey k' [(⟨l.nextId, k', count + 1, payload⟩ : Entry κ α)] =
          [⟨l.nextId, k', count + 1, payload⟩] := by simp [ofKey]
      rw [hone]
      refine hnumbered.append rfl fun old hold => ?_
      rcases List.mem_append.mp hold with hold | hold
      · exact h.entryIds old (mem_ofKey.mp hold).1
      · exact h.writtenIds u old (mem_ofKey.mp hold).1
    · have hnone : ofKey k' [(⟨l.nextId, k, n, payload⟩ : Entry κ α)] = [] := by
        simp [ofKey, Ne.symm hk]
      rw [hnone, List.append_nil]
      rwa [if_neg (by simp [hgiven, Ne.symm hk])] at hprogress
  · by_cases hu : u = t
    · subst hu
      simp only [Function.update_self, List.mem_append, List.mem_singleton] at he
      rcases he with he | rfl
      · exact h.held u e he
      · exact ⟨n, hlock⟩
    · simp only [Function.update_of_ne hu] at he
      exact h.held u e he
  · by_cases hu : u = t
    · subst hu
      simp at hm
    · simp only [Function.update_of_ne hu] at hm
      exact h.allocated u k' m hm
  · by_cases hu : u = t
    · subst hu
      simp only [Function.update_self, List.mem_append, List.mem_singleton] at he
      rcases he with he | rfl
      · exact Nat.lt_succ_of_lt (h.writtenIds u e he)
      · exact Nat.lt_succ_self _
    · simp only [Function.update_of_ne hu] at he
      exact Nat.lt_succ_of_lt (h.writtenIds u e he)

omit [DecidableEq κ] in
theorem heldBy_of_locks (hlock : l.locks k = some (u, m)) : l.heldBy t k = decide (u = t) := by
  simp [Log.heldBy, hlock]

omit [DecidableEq κ] in
/-- The locks after a transaction has ended. -/
theorem locks_of_release (hm : (l.release t).locks k = some (u, m)) :
    u ≠ t ∧ l.locks k = some (u, m) := by
  simp only [Log.release] at hm
  by_cases hheld : l.heldBy t k
  · rw [if_pos hheld] at hm
    exact absurd hm (by simp)
  · rw [if_neg hheld] at hm
    rw [heldBy_of_locks hm] at hheld
    exact ⟨by simpa using hheld, hm⟩

/-- What another transaction has done is kept by the end of transaction `t`. -/
theorem release_of_committed (h : Ordered l) (committed : Log κ α)
    (hcounters : ∀ k, Numbered (ofKey k committed.entries) ((committed.counters k).getD 0))
    (hsame : ∀ k u n, u ≠ t → l.locks k = some (u, n) →
      ofKey k committed.entries = ofKey k l.entries)
    (hids : ∀ e ∈ committed.entries, e.id < l.nextId) :
    Ordered { l.release t with counters := committed.counters, entries := committed.entries } := by
  refine ⟨hcounters, fun k u n hn => ?_, fun u e he => ?_, fun u k n hn => ?_, hids,
    fun u e he => ?_⟩
  · obtain ⟨hu, hlock⟩ := locks_of_release hn
    simp only [Log.release, Function.update_of_ne hu]
    rw [hsame k u n hu hlock]
    exact h.inProgress k u n hlock
  · by_cases hu : u = t
    · simp [Log.release, hu] at he
    · simp only [Log.release, Function.update_of_ne hu] at he
      obtain ⟨n, hn⟩ := h.held u e he
      exact ⟨n, by simp [Log.release, Log.heldBy, hn, hu]⟩
  · by_cases hu : u = t
    · simp [Log.release, hu] at hn
    · simp only [Log.release, Function.update_of_ne hu] at hn
      have hlock := h.allocated u k n hn
      simp [Log.release, Log.heldBy, hlock, hu]
  · by_cases hu : u = t
    · simp [Log.release, hu] at he
    · simp only [Log.release, Function.update_of_ne hu] at he
      exact h.writtenIds u e he

/-- A rollback leaves the log as it was. -/
theorem rollback (h : Ordered l) (t : ℕ) : Ordered (l.release t) :=
  h.release_of_committed l h.committed (fun _ _ _ _ _ => rfl) h.entryIds

/-- A commit of a transaction without a number in hand continues the log. -/
theorem commit (h : Ordered l) (hnone : l.allocated t = none) :
    Ordered ((l.publish t).release t) := by
  refine h.release_of_committed (l.publish t) (fun k => ?_) (fun k u n hu hn => ?_)
    fun e he => ?_
  · simp only [Log.publish, ofKey_append]
    cases hlock : l.locks k with
    | none =>
        have hheld : l.heldBy t k = false := by simp [Log.heldBy, hlock]
        rw [h.ofKey_written_eq_nil (by simp [hlock]), List.append_nil, hheld]
        exact h.committed k
    | some holder =>
        obtain ⟨u, n⟩ := holder
        rw [heldBy_of_locks hlock]
        by_cases hu : u = t
        · subst hu
          have hprogress := h.inProgress k u n hlock
          rw [if_neg (by simp [hnone])] at hprogress
          simpa using hprogress
        · rw [h.ofKey_written_eq_nil (by simp [hlock, hu]), List.append_nil]
          simpa [hu] using h.committed k
  · simp only [Log.publish, ofKey_append]
    rw [h.ofKey_written_eq_nil (by simp [hn, hu]), List.append_nil]
  · rcases List.mem_append.mp he with he | he
    · exact h.entryIds e he
    · exact h.writtenIds t e he

end Ordered

/-- **One statement** of any transaction keeps the order. -/
theorem ordered_next {statement : Statement κ α} (h : Ordered l)
    (hnext : l.next t statement = some l') : Ordered l' := by
  cases statement with
  | create k =>
      simp only [Log.next] at hnext
      split at hnext
      · rename_i hfree
        obtain rfl := Option.some.inj hnext
        refine h.hold (.inl hfree.2) fun _ => ?_
        have hcommitted := h.committed k
        rwa [hfree.1] at hcommitted
      · exact absurd hnext (by simp)
  | lock k =>
      obtain ⟨n, hvis, rfl⟩ := Option.map_eq_some_iff.mp hnext
      unfold Log.visible at hvis
      split at hvis
      · rename_i hfree
        refine h.hold (.inl hfree) fun _ => ?_
        have hcommitted := h.committed k
        rwa [hvis] at hcommitted
      · rename_i u m hlock
        split at hvis
        · rename_i hu
          obtain rfl := hu
          obtain rfl := Option.some.inj hvis
          exact h.hold (.inr hlock) fun hfree => absurd (hfree.symm.trans hlock) (by simp)
        · exact absurd hvis (by simp)
  | allocate k =>
      simp only [Log.next] at hnext
      split at hnext
      · rename_i hnone
        obtain ⟨n, hvis, rfl⟩ := Option.map_eq_some_iff.mp hnext
        exact h.allocate hvis hnone
      · exact absurd hnext (by simp)
  | insert payload =>
      obtain ⟨⟨k, n⟩, hgiven, rfl⟩ := Option.map_eq_some_iff.mp hnext
      exact h.insert payload hgiven
  | commit =>
      simp only [Log.next] at hnext
      split at hnext
      · rename_i hnone
        obtain rfl := Option.some.inj hnext
        exact h.commit hnone
      · exact absurd hnext (by simp)
  | rollback =>
      obtain rfl := Option.some.inj hnext
      exact h.rollback t

theorem ordered_of_reachable (hl : (machine κ α).Reachable l) : Ordered l := by
  refine hl.invariant (I := Ordered) (fun l hinit => ?_)
    fun l a l' _ h _ hnext => ordered_next (t := a.1) h hnext
  obtain rfl := hinit
  exact ⟨fun _ => numbered_nil, by simp [Log.idle], by simp [Log.idle], by simp [Log.idle],
    by simp [Log.idle], by simp [Log.idle]⟩

/-- **Committed entries are numbered.** In every reachable state the committed entries of a
key, in the order of the commits, have the numbers from one to the counter of the key and
increasing ids. -/
theorem numbered_of_reachable (hl : (machine κ α).Reachable l) (k : κ) :
    Numbered (ofKey k l.entries) ((l.counters k).getD 0) :=
  (ordered_of_reachable hl).committed k

end SequencedLog
