import StoryForge.Books.Scheduler
import StoryForge.Library.Dependencies
import StoryForge.Library.Dict

/-!
# Plans that can be completed

A plan is accepted if its chapters are numbered from one on and each requires other chapters of
the plan, without a cycle. The scheduler finds that out by counting: it visits a chapter when all
that it requires has been visited. An accepted plan always has a chapter that can be scheduled,
until all are done.

## Main results

* `visited_walk` — what is visited is closed under requirements, and can be reached from below;
* `visited_rounds` — the walk is over after as many rounds as there are chapters;
* `acyclic_iff` — all chapters are visited exactly if there is no cycle;
* `validatePlan_ok_iff` — which plans are accepted;
* `decide_schedules` — a chapter is scheduled if nothing is active and something is not done;
* `scheduler_completes` — a plan is completed in as many steps as it has unfinished chapters;
* `empty_map_accepted` — an empty map stands for the chain of all chapters.
-/

namespace StoryForge

open Dependencies

namespace BookChapterScheduler

/-- A dependency map. -/
structure DependencyMap where
  entries : List (ℕ × List ℕ)
  nodup : (entries.map (·.1)).Nodup

/-! ### Requirements -/

/-- The chapters that a chapter requires. -/
def required (graph : List (ℕ × List ℕ)) (chapter : ℕ) : List ℕ := (graph.lookup chapter).getD []

/-- A chapter requires another. -/
def Requires (graph : List (ℕ × List ℕ)) (chapter other : ℕ) : Prop :=
  other ∈ required graph chapter

variable {graph : List (ℕ × List ℕ)}

theorem required_cons (entry : ℕ × List ℕ) (rest : List (ℕ × List ℕ)) (chapter : ℕ) :
    required (entry :: rest) chapter =
      if chapter = entry.1 then entry.2 else required rest chapter := by
  rw [required, Dict.lookup_cons]
  split
  · rfl
  · rfl

/-- A chapter that requires another is a key. -/
theorem mem_keys_of_requires {chapter other : ℕ} (h : Requires graph chapter other) :
    chapter ∈ graph.map (·.1) := by
  induction graph with
  | nil => exact absurd h List.not_mem_nil
  | cons entry rest ih =>
      rw [Requires, required_cons] at h
      by_cases hkey : chapter = entry.1
      · rw [hkey]
        exact List.mem_cons_self
      · rw [if_neg hkey] at h
        exact List.mem_cons_of_mem _ (ih h)

/-- A key that is not there requires nothing. -/
theorem required_eq_nil {chapter : ℕ} (h : chapter ∉ graph.map (·.1)) :
    required graph chapter = [] := by
  by_contra hne
  obtain ⟨other, hother⟩ := List.exists_mem_of_ne_nil _ hne
  exact h (mem_keys_of_requires hother)

/-- A chapter is released once for each time it requires another. -/
theorem count_outgoing (hnodup : (graph.map (·.1)).Nodup) (chapter other : ℕ) :
    (outgoing graph other).count chapter = (required graph chapter).count other := by
  induction graph with
  | nil => rfl
  | cons entry rest ih =>
      obtain ⟨hkey, hrest⟩ := List.nodup_cons.mp hnodup
      have hsplit : outgoing (entry :: rest) other =
          ((entry.2.map (·, entry.1)).filter (·.1 == other)).map (·.2) ++ outgoing rest other := by
        rw [outgoing, edges, List.flatMap_cons, List.filter_append, List.map_append]
        rfl
      have hown : (((entry.2.map (·, entry.1)).filter (·.1 == other)).map (·.2)).count chapter =
          if chapter = entry.1 then entry.2.count other else 0 := by
        rw [List.filter_map, List.map_map]
        have hconst : ∀ l : List ℕ, (l.map fun _ => entry.1).count chapter =
            if chapter = entry.1 then l.length else 0 := by
          intro l
          rw [List.map_const', List.count_replicate]
          by_cases h : chapter = entry.1
          · simp [h]
          · simp [h, Ne.symm h]
        refine (hconst _).trans ?_
        congr 1
        rw [List.count, ← List.countP_eq_length_filter]
        rfl
      rw [hsplit, List.count_append, hown, ih hrest, required_cons]
      by_cases h : chapter = entry.1
      · rw [if_pos h, if_pos h, h, required_eq_nil hkey, List.count_nil, Nat.add_zero]
      · rw [if_neg h, if_neg h, Nat.zero_add]

/-- A round lowers the degrees of the children, and queues those that it lowers to zero. -/
theorem release_spec {children : List ℕ} (queue : List ℕ) {degree : ℕ → ℤ}
    (h : ∀ chapter, (children.count chapter : ℤ) ≤ degree chapter) :
    ∃ new, release children degree queue =
        (fun chapter => degree chapter - children.count chapter, queue ++ new) ∧
      new.Nodup ∧
      ∀ chapter, chapter ∈ new ↔ chapter ∈ children ∧ degree chapter = children.count chapter := by
  induction children generalizing degree queue with
  | nil => exact ⟨[], by simp [release], List.nodup_nil, by simp⟩
  | cons child children ih =>
      have hlower : ∀ chapter, (children.count chapter : ℤ) ≤
          Function.update degree child (degree child - 1) chapter := by
        intro chapter
        have hchapter := h chapter
        by_cases heq : chapter = child
        · subst heq
          rw [List.count_cons_self] at hchapter
          rw [Function.update_self]
          push_cast at hchapter
          omega
        · rw [List.count_cons_of_ne (Ne.symm heq)] at hchapter
          rw [Function.update_of_ne heq]
          exact hchapter
      have hdegree : ∀ chapter, Function.update degree child (degree child - 1) chapter -
          (children.count chapter : ℤ) = degree chapter - ((child :: children).count chapter : ℤ) := by
        intro chapter
        by_cases heq : chapter = child
        · subst heq
          rw [Function.update_self, List.count_cons_self]
          push_cast
          omega
        · rw [Function.update_of_ne heq, List.count_cons_of_ne (Ne.symm heq)]
      rw [release]
      simp only [Function.update_self]
      by_cases hzero : degree child - 1 = 0
      · -- the last edge of the child, which is not among the others
        have hnotin : child ∉ children := by
          have hchild := h child
          rw [List.count_cons_self] at hchild
          push_cast at hchild
          exact List.count_eq_zero.mp (by omega)
        rw [if_pos hzero]
        obtain ⟨new, hrelease, hnodup, hmem⟩ := ih (queue ++ [child]) hlower
        refine ⟨child :: new, ?_, ?_, ?_⟩
        · rw [hrelease, List.append_assoc, List.singleton_append]
          exact congrArg (·, _) (funext hdegree)
        · exact List.nodup_cons.mpr ⟨fun hin => hnotin ((hmem child).mp hin).1, hnodup⟩
        · intro chapter
          rw [List.mem_cons, List.mem_cons, hmem]
          by_cases heq : chapter = child
          · subst heq
            rw [List.count_cons_self, List.count_eq_zero.mpr hnotin]
            simp only [true_or, true_and, true_iff]
            push_cast
            omega
          · rw [Function.update_of_ne heq, List.count_cons_of_ne (Ne.symm heq)]
            simp only [heq, false_or]
      · rw [if_neg hzero]
        obtain ⟨new, hrelease, hnodup, hmem⟩ := ih queue hlower
        refine ⟨new, ?_, hnodup, ?_⟩
        · rw [hrelease]
          exact congrArg (·, _) (funext hdegree)
        · intro chapter
          rw [hmem, List.mem_cons]
          by_cases heq : chapter = child
          · subst heq
            rw [Function.update_self, List.count_cons_self]
            push_cast
            constructor
            · rintro ⟨-, hcount⟩
              exact ⟨.inl rfl, by omega⟩
            · rintro ⟨-, hcount⟩
              refine ⟨List.count_pos_iff.mp ?_, by omega⟩
              omega
          · rw [Function.update_of_ne heq, List.count_cons_of_ne (Ne.symm heq)]
            simp only [heq, false_or]

/-! ### The walk -/

/-- Where the walk is: what has been visited, and what is queued. -/
structure Walk (graph : List (ℕ × List ℕ)) (seen queue : List ℕ) (degree : ℕ → ℤ) : Prop where
  nodup : (seen ++ queue).Nodup
  keys : ∀ chapter ∈ seen ++ queue, chapter ∈ graph.map (·.1)
  degree : ∀ chapter, degree chapter = (required graph chapter).countP (· ∉ seen)
  ready : ∀ chapter ∈ graph.map (·.1),
    chapter ∈ seen ++ queue ↔ ∀ other ∈ required graph chapter, other ∈ seen
  acc : ∀ chapter ∈ seen ++ queue, Acc (fun b a => Requires graph a b) chapter

/-- One more chapter is visited. -/
theorem countP_concat {seen : List ℕ} {chapter : ℕ} (h : chapter ∉ seen) (others : List ℕ) :
    others.countP (· ∉ seen) = others.countP (· ∉ seen ++ [chapter]) + others.count chapter := by
  induction others with
  | nil => rfl
  | cons other others ih =>
      rw [List.countP_cons, List.countP_cons, List.count_cons, ih]
      by_cases heq : other = chapter
      · subst heq
        simp [h]
        omega
      · by_cases hseen : other ∈ seen
        · simp [hseen, heq]
        · simp [hseen, heq]
          omega

/-- A chapter has degree zero when all that it requires has been visited. -/
theorem countP_eq_zero_iff {seen others : List ℕ} :
    others.countP (· ∉ seen) = 0 ↔ ∀ other ∈ others, other ∈ seen := by
  rw [List.countP_eq_zero]
  simp

/-- What a round makes of the walk. -/
theorem Walk.step (hnodup : (graph.map (·.1)).Nodup) {seen queue : List ℕ} {degree : ℕ → ℤ}
    {current : ℕ} (h : Walk graph seen (current :: queue) degree) :
    Walk graph (seen ++ [current]) (release (outgoing graph current) degree queue).2
      (release (outgoing graph current) degree queue).1 := by
  have hcurrent : current ∉ seen := fun hin =>
    (List.nodup_append.mp h.nodup).2.2 current hin current List.mem_cons_self rfl
  have hcount : ∀ chapter, (outgoing graph current).count chapter =
      (required graph chapter).count current := fun chapter =>
    count_outgoing hnodup chapter current
  have hdegree : ∀ chapter, degree chapter - ((outgoing graph current).count chapter : ℤ) =
      (required graph chapter).countP (· ∉ seen ++ [current]) := by
    intro chapter
    rw [h.degree, hcount, countP_concat hcurrent]
    push_cast
    omega
  have hle : ∀ chapter, ((outgoing graph current).count chapter : ℤ) ≤ degree chapter := by
    intro chapter
    have := hdegree chapter
    omega
  obtain ⟨new, hrelease, hnew, hmem⟩ := release_spec queue hle
  rw [hrelease]
  -- what is queued now requires the current chapter, and nothing that was not visited
  have hnew_iff : ∀ chapter, chapter ∈ new ↔ current ∈ required graph chapter ∧
      ∀ other ∈ required graph chapter, other ∈ seen ++ [current] := by
    intro chapter
    rw [hmem, ← List.count_pos_iff, hcount, List.count_pos_iff, ← countP_eq_zero_iff]
    have := hdegree chapter
    rw [hcount] at this
    constructor
    · rintro ⟨hrequires, heq⟩
      exact ⟨hrequires, by omega⟩
    · rintro ⟨hrequires, heq⟩
      exact ⟨hrequires, by omega⟩
  have hold : seen ++ [current] ++ (queue ++ new) = (seen ++ current :: queue) ++ new := by
    simp
  have hready : ∀ chapter ∈ graph.map (·.1), chapter ∈ seen ++ [current] ++ (queue ++ new) ↔
      ∀ other ∈ required graph chapter, other ∈ seen ++ [current] := by
    intro chapter hkey
    rw [hold, List.mem_append, h.ready chapter hkey, hnew_iff]
    constructor
    · rintro (hseen | ⟨-, hall⟩)
      · exact fun other hother => List.mem_append_left _ (hseen other hother)
      · exact hall
    · intro hall
      by_cases hrequires : current ∈ required graph chapter
      · exact .inr ⟨hrequires, hall⟩
      · refine .inl fun other hother => ?_
        rcases List.mem_append.mp (hall other hother) with hseen | hlast
        · exact hseen
        · rw [List.mem_singleton.mp hlast] at hother
          exact absurd hother hrequires
  constructor
  · rw [hold]
    refine List.nodup_append.mpr ⟨h.nodup, hnew, ?_⟩
    intro chapter hchapter other hother
    rintro rfl
    obtain ⟨hrequires, -⟩ := (hnew_iff chapter).mp hother
    exact hcurrent ((h.ready chapter (h.keys chapter hchapter)).mp hchapter current hrequires)
  · intro chapter hchapter
    rw [hold] at hchapter
    rcases List.mem_append.mp hchapter with hmem | hmem
    · exact h.keys chapter hmem
    · exact mem_keys_of_requires ((hnew_iff chapter).mp hmem).1
  · intro chapter
    exact hdegree chapter
  · exact hready
  · intro chapter hchapter
    rw [hold] at hchapter
    rcases List.mem_append.mp hchapter with hmem | hmem
    · exact h.acc chapter hmem
    · refine Acc.intro chapter fun other hother => h.acc other ?_
      have hseen := ((hnew_iff chapter).mp hmem).2 other hother
      rcases List.mem_append.mp hseen with hin | hin
      · exact List.mem_append_left _ hin
      · rw [List.mem_singleton.mp hin]
        exact List.mem_append_right _ List.mem_cons_self

/-- The walk visits chapters until none is queued. -/
theorem visited_walk (hnodup : (graph.map (·.1)).Nodup) (rounds : ℕ) {seen queue : List ℕ}
    {degree : ℕ → ℤ} (h : Walk graph seen queue degree)
    (hrounds : graph.length ≤ seen.length + rounds) :
    ∃ final degree', Walk graph final [] degree' ∧
      visited graph rounds degree queue + seen.length = final.length := by
  induction rounds generalizing seen queue degree with
  | zero =>
      have hlength : (seen ++ queue).length ≤ (graph.map (·.1)).length :=
        (List.subperm_of_subset h.nodup h.keys).length_le
      rw [List.length_append, List.length_map] at hlength
      have hqueue : queue = [] := List.eq_nil_of_length_eq_zero (by omega)
      subst hqueue
      exact ⟨seen, degree, h, by rw [visited, Nat.zero_add]⟩
  | succ rounds ih =>
      cases queue with
      | nil => exact ⟨seen, degree, h, by rw [visited, Nat.zero_add]⟩
      | cons current queue =>
          obtain ⟨final, degree', hfinal, hlength⟩ := ih (h.step hnodup) (by
            rw [List.length_append, List.length_singleton]
            omega)
          refine ⟨final, degree', hfinal, ?_⟩
          rw [List.length_append, List.length_singleton] at hlength
          change 1 + visited graph rounds (release (outgoing graph current) degree queue).1
            (release (outgoing graph current) degree queue).2 + seen.length = final.length
          omega

/-- Of two walks that are over, each has visited what the other has. -/
theorem Walk.subset {first second : List ℕ} {degree degree' : ℕ → ℤ}
    (hfirst : Walk graph first [] degree) (hsecond : Walk graph second [] degree') :
    first ⊆ second := by
  intro chapter hchapter
  have hacc := hfirst.acc chapter (List.mem_append_left _ hchapter)
  induction hacc with
  | intro chapter _ ih =>
      have hkey := hfirst.keys chapter (List.mem_append_left _ hchapter)
      have hrequired := (hfirst.ready chapter hkey).mp (List.mem_append_left _ hchapter)
      have hvisited := (hsecond.ready chapter hkey).mpr fun other hother =>
        ih other hother (hrequired other hother)
      rwa [List.append_nil] at hvisited

/-- More rounds than there are chapters visit nothing more. -/
theorem visited_rounds (hnodup : (graph.map (·.1)).Nodup) {rounds : ℕ}
    (h : graph.length ≤ rounds) {queue : List ℕ} {degree : ℕ → ℤ}
    (hwalk : Walk graph [] queue degree) :
    visited graph rounds degree queue = visited graph graph.length degree queue := by
  obtain ⟨first, _, hfirst, hlength⟩ := visited_walk hnodup rounds hwalk (by simpa using h)
  obtain ⟨second, _, hsecond, hlength'⟩ := visited_walk hnodup graph.length hwalk (by simp)
  have hnodup₁ := hfirst.nodup
  have hnodup₂ := hsecond.nodup
  rw [List.append_nil] at hnodup₁ hnodup₂
  have hle := (List.subperm_of_subset hnodup₁ (hfirst.subset hsecond)).length_le
  have hge := (List.subperm_of_subset hnodup₂ (hsecond.subset hfirst)).length_le
  rw [List.length_nil] at hlength hlength'
  omega

/-- The walk starts with the chapters that require nothing. -/
theorem walk_roots (hnodup : (graph.map (·.1)).Nodup) :
    Walk graph [] ((graph.map (·.1)).filter fun chapter => indegree graph chapter == 0)
      (indegree graph) := by
  have hroot : ∀ chapter, indegree graph chapter = 0 ↔ required graph chapter = [] := by
    intro chapter
    rw [indegree, ← required, Int.natCast_eq_zero, List.length_eq_zero_iff]
  constructor
  · exact hnodup.filter _
  · intro chapter hchapter
    exact (List.mem_filter.mp hchapter).1
  · intro chapter
    rw [indegree, ← required]
    congr 1
    rw [eq_comm, List.countP_eq_length]
    simp
  · intro chapter hkey
    simp only [List.nil_append, List.mem_filter, hkey, true_and, beq_iff_eq, hroot,
      List.not_mem_nil]
    constructor
    · intro hnil other hother
      rw [hnil] at hother
      exact List.not_mem_nil hother
    · exact fun hnone => List.eq_nil_iff_forall_not_mem.mpr hnone
  · intro chapter hchapter
    have hnil := (hroot chapter).mp (by simpa using (List.mem_filter.mp hchapter).2)
    refine Acc.intro chapter fun other hother => ?_
    rw [Requires, hnil] at hother
    exact absurd hother List.not_mem_nil

/-- All chapters are visited exactly if there is no cycle. -/
theorem acyclic_iff (hnodup : (graph.map (·.1)).Nodup)
    (hplanned : ∀ chapter other, Requires graph chapter other → other ∈ graph.map (·.1)) :
    acyclic graph = true ↔ Acyclic (Requires graph) := by
  obtain ⟨final, degree, hwalk, hvisited⟩ := visited_walk hnodup graph.length
    (walk_roots hnodup) (by simp)
  have hacyclic : acyclic graph = true ↔ final.length = graph.length := by
    rw [acyclic, beq_iff_eq, ← hvisited, List.length_nil, Nat.add_zero]
  have hfinal := hwalk.nodup
  rw [List.append_nil] at hfinal
  have hkeys := hwalk.keys
  have hready := hwalk.ready
  have hacc := hwalk.acc
  rw [List.append_nil] at hkeys hready hacc
  rw [hacyclic]
  constructor
  · intro hlength
    have hall : ∀ chapter ∈ graph.map (·.1), chapter ∈ final := by
      have hperm := (List.subperm_of_subset hfinal hkeys).perm_of_length_le (by
        rw [List.length_map, hlength])
      exact fun chapter hchapter => hperm.mem_iff.mpr hchapter
    refine acyclic_of_acc fun chapter other hrequires => ?_
    exact hacc chapter (hall chapter (mem_keys_of_requires hrequires))
  · intro hcycle
    by_contra hlength
    have hleft : (graph.map (·.1)).filter (· ∉ final) ≠ [] := by
      intro hnil
      refine hlength (le_antisymm ?_ ?_)
      · have hle := (List.subperm_of_subset hfinal hkeys).length_le
        rwa [List.length_map] at hle
      · have hsubset : ∀ chapter ∈ graph.map (·.1), chapter ∈ final := fun chapter hchapter => by
          have hnot := List.filter_eq_nil_iff.mp hnil chapter hchapter
          simpa using hnot
        have hle := (List.subperm_of_subset hnodup hsubset).length_le
        rwa [List.length_map] at hle
    obtain ⟨chapter, hchapter, hrequired⟩ := hcycle.exists_ready hleft
    obtain ⟨hkey, hopen⟩ := List.mem_filter.mp hchapter
    refine absurd ((hready chapter hkey).mpr fun other hother => ?_) (by simpa using hopen)
    by_contra hnot
    refine hrequired other hother (List.mem_filter.mpr ⟨hplanned chapter other hother, ?_⟩)
    simpa using hnot

/-! ### Accepted plans -/

/-- What is returned of a graph: chapters and requirements in order. -/
def arranged (graph : List (ℕ × List ℕ)) : List (ℕ × List ℕ) :=
  (graph.insertionSort fun a b => a.1 ≤ b.1).map fun entry =>
    (entry.1, entry.2.insertionSort (· ≤ ·))

/-- A requirement is an entry of the graph. -/
theorem requires_iff (hnodup : (graph.map (·.1)).Nodup) {chapter other : ℕ} :
    Requires graph chapter other ↔ ∃ entry ∈ graph, entry.1 = chapter ∧ other ∈ entry.2 := by
  rw [Requires, required]
  constructor
  · intro h
    cases hlookup : graph.lookup chapter with
    | none =>
        rw [hlookup] at h
        exact absurd h List.not_mem_nil
    | some others =>
        rw [hlookup] at h
        exact ⟨(chapter, others), (Dict.mem_iff_lookup hnodup).mpr hlookup, rfl, h⟩
  · rintro ⟨⟨_, others⟩, hentry, rfl, hother⟩
    rw [(Dict.mem_iff_lookup hnodup).mp hentry]
    exact hother

/-- The graph of a plan that passes all checks. -/
structure IsGraph (ordered : List ℕ) (graph : List (ℕ × List ℕ)) : Prop where
  covers : ∀ chapter, chapter ∈ graph.map (·.1) ↔ chapter ∈ ordered
  planned : ∀ chapter other, Requires graph chapter other → other ∈ graph.map (·.1)
  acyclic : Acyclic (Requires graph)

/-- The chapters are numbered from one on. -/
def Numbered (numbers : List ℕ) : Prop :=
  numbers ≠ [] ∧ numbers.Perm (List.range' 1 numbers.length)

/-- The first check: chapters are numbered from one on. -/
theorem numbered_iff {numbers : List ℕ} :
    (numbers.insertionSort (· ≤ ·) = [] ∨ numbers.insertionSort (· ≤ ·) ≠
      List.range' 1 (numbers.insertionSort (· ≤ ·)).length) ↔ ¬ Numbered numbers := by
  have hperm := List.perm_insertionSort (· ≤ ·) numbers
  rw [Numbered, List.length_insertionSort, not_and_or, not_not]
  refine or_congr ?_ (not_congr ?_)
  · constructor
    · intro hnil
      rw [hnil] at hperm
      exact List.nil_perm.mp hperm
    · rintro rfl
      rfl
  · constructor
    · intro heq
      rw [heq] at hperm
      exact hperm.symm
    · intro hrange
      have hsorted : (List.range' 1 numbers.length).Pairwise (· ≤ ·) :=
        (List.pairwise_lt_range' (s := 1) (n := numbers.length)).imp le_of_lt
      exact (hperm.trans hrange).eq_of_pairwise (fun a b _ _ => le_antisymm)
        (List.pairwise_insertionSort _ _) hsorted

/-- The second check: the map covers the chapters. -/
theorem covers_iff {chapters numbers : List ℕ} :
    ((chapters.any fun chapter => !(numbers.insertionSort (· ≤ ·)).contains chapter) ||
      (numbers.insertionSort (· ≤ ·)).any fun chapter => !chapters.contains chapter) = true ↔
        ¬ ∀ chapter, chapter ∈ chapters ↔ chapter ∈ numbers := by
  have hout : ∀ (chapter : ℕ) (others : List ℕ),
      (!others.contains chapter) = true ↔ chapter ∉ others := fun chapter others => by simp
  rw [Bool.or_eq_true, List.any_eq_true, List.any_eq_true]
  simp only [hout, List.mem_insertionSort]
  constructor
  · rintro (⟨chapter, hmem, hnot⟩ | ⟨chapter, hmem, hnot⟩) hall
    · exact hnot ((hall chapter).mp hmem)
    · exact hnot ((hall chapter).mpr hmem)
  · intro hnot
    by_contra hnone
    refine hnot fun chapter => ⟨fun hmem => ?_, fun hmem => ?_⟩
    · by_contra hmissing
      exact hnone (.inl ⟨chapter, hmem, hmissing⟩)
    · by_contra hmissing
      exact hnone (.inr ⟨chapter, hmem, hmissing⟩)

/-- The third check: chapters require other chapters of the map. -/
theorem edges_iff (hnodup : (graph.map (·.1)).Nodup) :
    (graph.any fun entry => entry.2.contains entry.1 ||
      entry.2.any fun other => !(graph.map (·.1)).contains other) = true ↔
        ¬ ∀ chapter other, Requires graph chapter other →
          other ≠ chapter ∧ other ∈ graph.map (·.1) := by
  have hout : ∀ (chapter : ℕ) (others : List ℕ),
      (!others.contains chapter) = true ↔ chapter ∉ others := fun chapter others => by simp
  rw [List.any_eq_true]
  simp only [Bool.or_eq_true, List.contains_iff_mem, List.any_eq_true, hout]
  constructor
  · rintro ⟨entry, hentry, hself | ⟨other, hother, hmissing⟩⟩ hall
    · exact (hall entry.1 entry.1 ((requires_iff hnodup).mpr ⟨entry, hentry, rfl, hself⟩)).1 rfl
    · exact hmissing
        (hall entry.1 other ((requires_iff hnodup).mpr ⟨entry, hentry, rfl, hother⟩)).2
  · intro hnot
    by_contra hnone
    refine hnot fun chapter other hrequires => ?_
    obtain ⟨entry, hentry, rfl, hother⟩ := (requires_iff hnodup).mp hrequires
    by_contra hwrong
    refine hnone ⟨entry, hentry, ?_⟩
    by_cases hself : other = entry.1
    · exact .inl (hself ▸ hother)
    · exact .inr ⟨other, hother, fun hmem => hwrong ⟨hself, hmem⟩⟩

/-- Chapters of a plan that is accepted are numbered from one on. -/
theorem numbered_of_ok {numbers : List ℕ} {dependencies : Option (List (ℕ × List ℕ))}
    {result : List (ℕ × List ℕ)} (h : validatePlan numbers dependencies = .ok result) :
    Numbered numbers := by
  by_contra hnot
  unfold validatePlan at h
  simp only at h
  rw [if_pos (numbered_iff.mpr hnot)] at h
  contradiction

/-- A plan is accepted if its chapters are numbered from one on and its graph passes. -/
theorem validatePlan_eq_ok {numbers : List ℕ} {dependencies : Option (List (ℕ × List ℕ))}
    {result : List (ℕ × List ℕ)}
    (hgraph : dependencyGraph (numbers.insertionSort (· ≤ ·)) dependencies = graph)
    (hnodup : (graph.map (·.1)).Nodup) :
    validatePlan numbers dependencies = .ok result ↔
      Numbered numbers ∧ IsGraph numbers graph ∧ result = arranged graph := by
  unfold validatePlan
  simp only [hgraph]
  by_cases hn : Numbered numbers
  · rw [if_neg fun h => numbered_iff.mp h hn]
    by_cases hc : ∀ chapter, chapter ∈ graph.map (·.1) ↔ chapter ∈ numbers
    · rw [if_neg fun h => covers_iff.mp h hc]
      by_cases he : ∀ chapter other, Requires graph chapter other →
          other ≠ chapter ∧ other ∈ graph.map (·.1)
      · rw [if_neg fun h => (edges_iff hnodup).mp h he]
        have hplanned := fun chapter other h => (he chapter other h).2
        have hacyclic := acyclic_iff hnodup hplanned
        by_cases ha : Acyclic (Requires graph)
        · rw [if_neg (by simp [hacyclic.mpr ha])]
          constructor
          · intro h
            exact ⟨hn, ⟨hc, hplanned, ha⟩, (Except.ok.inj h).symm⟩
          · rintro ⟨-, -, rfl⟩
            rfl
        · rw [if_pos (by simpa using fun h => ha (hacyclic.mp h))]
          constructor
          · intro h
            contradiction
          · rintro ⟨-, hgraph, -⟩
            exact absurd hgraph.acyclic ha
      · rw [if_pos ((edges_iff hnodup).mpr he)]
        constructor
        · intro h
          contradiction
        · rintro ⟨-, hgraph, -⟩
          refine absurd (fun chapter other hrequires => ⟨?_, hgraph.planned _ _ hrequires⟩) he
          rintro rfl
          exact hgraph.acyclic _ (.single hrequires)
    · rw [if_pos (covers_iff.mpr hc)]
      constructor
      · intro h
        contradiction
      · rintro ⟨-, hgraph, -⟩
        exact absurd hgraph.covers hc
  · rw [if_pos (numbered_iff.mpr hn)]
    constructor
    · intro h
      contradiction
    · rintro ⟨hn', -⟩
      exact absurd hn' hn

/-- A chain of all chapters passes. -/
theorem isGraph_sequential {numbers : List ℕ}
    (h : numbers.Perm (List.range' 1 numbers.length)) :
    ((sequentialGraph (numbers.insertionSort (· ≤ ·))).map (·.1)).Nodup ∧
      IsGraph numbers (sequentialGraph (numbers.insertionSort (· ≤ ·))) := by
  have hkeys : (sequentialGraph (numbers.insertionSort (· ≤ ·))).map (·.1) =
      numbers.insertionSort (· ≤ ·) := by
    rw [sequentialGraph, List.map_map]
    exact List.map_id _
  have hnodup : ((sequentialGraph (numbers.insertionSort (· ≤ ·))).map (·.1)).Nodup := by
    rw [hkeys]
    exact ((List.perm_insertionSort _ numbers).trans h).nodup_iff.mpr List.nodup_range'
  have hrequires : ∀ chapter other,
      Requires (sequentialGraph (numbers.insertionSort (· ≤ ·))) chapter other →
        chapter ∈ numbers ∧ chapter ≠ 1 ∧ other = chapter - 1 := by
    intro chapter other hrequires
    obtain ⟨entry, hentry, rfl, hother⟩ := (requires_iff hnodup).mp hrequires
    obtain ⟨chapter, hchapter, rfl⟩ := List.mem_map.mp hentry
    by_cases hone : chapter = 1
    · rw [if_pos hone] at hother
      exact absurd hother List.not_mem_nil
    · rw [if_neg hone] at hother
      exact ⟨(List.mem_insertionSort _).mp hchapter, hone, List.mem_singleton.mp hother⟩
  have hrange : ∀ chapter, chapter ∈ numbers ↔ 1 ≤ chapter ∧ chapter < 1 + numbers.length :=
    fun chapter => h.mem_iff.trans List.mem_range'_1
  refine ⟨hnodup, ?_, ?_, ?_⟩
  · intro chapter
    rw [hkeys, List.mem_insertionSort]
  · intro chapter other hother
    obtain ⟨hmem, hone, rfl⟩ := hrequires chapter other hother
    rw [hkeys, List.mem_insertionSort, hrange]
    have := (hrange chapter).mp hmem
    omega
  · have hless : ∀ a b, Relation.TransGen
        (Requires (sequentialGraph (numbers.insertionSort (· ≤ ·)))) a b → b < a := by
      intro a b hab
      induction hab with
      | single hstep =>
          obtain ⟨hmem, hone, rfl⟩ := hrequires _ _ hstep
          have := (hrange a).mp hmem
          omega
      | tail _ hstep ih =>
          obtain ⟨hmem, hone, rfl⟩ := hrequires _ _ hstep
          omega
    exact fun a hcycle => absurd (hless a a hcycle) (lt_irrefl a)

/-- A plan: chapters numbered from one on, and a map of what each of them requires. A map that is
missing or empty stands for the chain of all chapters. -/
structure IsPlan (numbers : List ℕ) (dependencies : Option DependencyMap) : Prop where
  nonempty : numbers ≠ []
  perm : numbers.Perm (List.range' 1 numbers.length)
  graph : ∀ map ∈ dependencies, map.entries ≠ [] → IsGraph numbers map.entries

/-- The graph of a plan. -/
def planGraph (numbers : List ℕ) (dependencies : Option DependencyMap) : List (ℕ × List ℕ) :=
  dependencyGraph (numbers.insertionSort (· ≤ ·)) (dependencies.map (·.entries))

/-- The graph of a plan is the map, or the chain of all chapters. -/
theorem planGraph_cases (numbers : List ℕ) (dependencies : Option DependencyMap) :
    (∃ map ∈ dependencies, map.entries ≠ [] ∧ planGraph numbers dependencies = map.entries) ∨
      (∀ map ∈ dependencies, map.entries = []) ∧
        planGraph numbers dependencies = sequentialGraph (numbers.insertionSort (· ≤ ·)) := by
  cases dependencies with
  | none => exact .inr ⟨by simp, rfl⟩
  | some map =>
      by_cases hempty : map.entries = []
      · refine .inr ⟨by simpa using hempty, ?_⟩
        rw [planGraph, Option.map_some, hempty]
        rfl
      · refine .inl ⟨map, rfl, hempty, ?_⟩
        rw [planGraph, Option.map_some, dependencyGraph]
        exact hempty

/-- The graph of a plan passes. -/
theorem IsPlan.isGraph {numbers : List ℕ} {dependencies : Option DependencyMap}
    (h : IsPlan numbers dependencies) :
    ((planGraph numbers dependencies).map (·.1)).Nodup ∧
      IsGraph numbers (planGraph numbers dependencies) := by
  rcases planGraph_cases numbers dependencies with ⟨map, hmap, hne, hgraph⟩ | ⟨-, hgraph⟩
  · rw [hgraph]
    exact ⟨map.nodup, h.graph map hmap hne⟩
  · rw [hgraph]
    exact isGraph_sequential h.perm

/-- Plans are accepted, and nothing else is. -/
theorem validatePlan_ok_iff {numbers : List ℕ} {dependencies : Option DependencyMap}
    {result : List (ℕ × List ℕ)} :
    validatePlan numbers (dependencies.map (·.entries)) = .ok result ↔
      IsPlan numbers dependencies ∧ result = arranged (planGraph numbers dependencies) := by
  rcases planGraph_cases numbers dependencies with ⟨map, hmap, hne, hgraph⟩ | ⟨hempty, hgraph⟩
  · rw [validatePlan_eq_ok hgraph map.nodup, hgraph]
    constructor
    · rintro ⟨⟨hnonempty, hperm⟩, hpasses, rfl⟩
      refine ⟨⟨hnonempty, hperm, fun other hother _ => ?_⟩, rfl⟩
      rwa [Option.mem_unique hother hmap]
    · rintro ⟨hplan, rfl⟩
      exact ⟨⟨hplan.nonempty, hplan.perm⟩, hplan.graph map hmap hne, rfl⟩
  · constructor
    · intro hok
      have hperm := numbered_of_ok hok
      have hpasses := isGraph_sequential hperm.2
      obtain ⟨-, -, rfl⟩ := (validatePlan_eq_ok hgraph hpasses.1).mp hok
      refine ⟨⟨hperm.1, hperm.2, fun map hmap hne => absurd (hempty map hmap) hne⟩, ?_⟩
      rw [hgraph]
    · rintro ⟨hplan, rfl⟩
      have hpasses := isGraph_sequential hplan.perm
      rw [validatePlan_eq_ok hgraph hpasses.1, hgraph]
      exact ⟨⟨hplan.nonempty, hplan.perm⟩, hpasses.2, rfl⟩

/-! ### Decisions -/

/-- What is returned of a graph has the same requirements. -/
theorem required_arranged (hnodup : (graph.map (·.1)).Nodup) (chapter : ℕ) :
    (required (arranged graph) chapter).Perm (required graph chapter) := by
  have hperm := List.perm_insertionSort (fun a b : ℕ × List ℕ => a.1 ≤ b.1) graph
  have hkeys : ((arranged graph).map (·.1)).Nodup := by
    rw [arranged, List.map_map]
    exact (hperm.map _).nodup_iff.mpr hnodup
  cases hlookup : graph.lookup chapter with
  | none =>
      have hmissing : chapter ∉ graph.map (·.1) := by
        intro hmem
        obtain ⟨entry, hentry, rfl⟩ := List.mem_map.mp hmem
        rw [(Dict.mem_iff_lookup hnodup).mp hentry] at hlookup
        contradiction
      rw [required_eq_nil hmissing, required_eq_nil]
      rw [arranged, List.map_map]
      exact fun hmem => hmissing ((hperm.map _).mem_iff.mp hmem)
  | some others =>
      have hentry := (Dict.mem_iff_lookup hnodup).mpr hlookup
      have harranged : (chapter, others.insertionSort (· ≤ ·)) ∈ arranged graph :=
        List.mem_map.mpr ⟨(chapter, others), hperm.mem_iff.mpr hentry, rfl⟩
      rw [required, required, hlookup, (Dict.mem_iff_lookup hkeys).mp harranged]
      exact List.perm_insertionSort _ _

/-- A request about a plan, without a cancellation or a pause. -/
structure ScheduleRequestFor (request : ScheduleRequest) (numbers : List ℕ)
    (dependencies : Option DependencyMap) : Prop where
  chapterNumbers : request.chapterNumbers = numbers
  dependencies : request.dependencies = dependencies.map (·.entries)
  cancelRequested : request.cancelRequested = false
  pauseRequested : request.pauseRequested = false

/-- No status is active. -/
def Idle (request : ScheduleRequest) : Prop :=
  ∀ entry ∈ request.chapterStatus, entry.2 ∉ active

/-- No status needs review. -/
def Reviewed (request : ScheduleRequest) : Prop :=
  ∀ entry ∈ request.chapterStatus, entry.2 ≠ "needs_review"

/-- Every chapter is done. -/
def AllDone (request : ScheduleRequest) : Prop :=
  ∀ chapter ∈ request.chapterNumbers, isDone request.chapterStatus chapter = true

variable {concurrency : ℕ} {request : ScheduleRequest} {numbers : List ℕ}
  {dependencies : Option DependencyMap} {decision : ChapterScheduleDecision}

/-- Of an accepted plan the scheduler decides with its graph. -/
theorem decide_eq_decideValid (hplan : IsPlan numbers dependencies)
    (hrequest : ScheduleRequestFor request numbers dependencies) :
    decide concurrency request =
      decideValid concurrency request (arranged (planGraph numbers dependencies)) := by
  rw [decide, hrequest.chapterNumbers, hrequest.dependencies,
    validatePlan_ok_iff.mpr ⟨hplan, rfl⟩]
  rfl

theorem any_active_iff :
    (request.chapterStatus.any fun entry => active.contains entry.2) = true ↔ ¬ Idle request := by
  simp [Idle]

theorem all_done_iff :
    request.chapterNumbers.all (isDone request.chapterStatus) = true ↔ AllDone request := by
  rw [List.all_eq_true, AllDone]

/-- The decision on a plan in which something is active. -/
theorem decideValid_active (hrequest : ScheduleRequestFor request numbers dependencies)
    (h : ¬ Idle request) (graph : List (ℕ × List ℕ)) :
    decideValid concurrency request graph = .ok ⟨none, .wait, "A chapter job is still active",
      sortedStatus request.chapterStatus⟩ := by
  rw [decideValid, hrequest.cancelRequested, hrequest.pauseRequested]
  rw [if_neg Bool.false_ne_true, if_neg Bool.false_ne_true, if_pos (any_active_iff.mpr h)]

/-- The decision on a plan that is done. -/
theorem decideValid_done (hrequest : ScheduleRequestFor request numbers dependencies)
    (hidle : Idle request) (hdone : AllDone request) (graph : List (ℕ × List ℕ)) :
    decideValid concurrency request graph = .ok ⟨none, .complete,
      "Every planned chapter has an accepted version", sortedStatus request.chapterStatus⟩ := by
  rw [decideValid, hrequest.cancelRequested, hrequest.pauseRequested]
  rw [if_neg Bool.false_ne_true, if_neg Bool.false_ne_true,
    if_neg fun h => any_active_iff.mp h hidle, if_pos (all_done_iff.mpr hdone)]

/-- The decision on a plan that is not done, where the first candidate is scheduled unless a
review is waited for. -/
theorem decideValid_left (hrequest : ScheduleRequestFor request numbers dependencies)
    (hidle : Idle request) (hleft : ¬ AllDone request) (graph : List (ℕ × List ℕ)) :
    decideValid concurrency request graph =
      match (needingReview request.chapterStatus).min?, request.continueAfterNeedsReview with
      | some 0, false => .error (.other "ValidationError" "chapter_number")
      | some chapter, false =>
          .ok ⟨some chapter, .humanReview, "A chapter reached its revision limit",
            sortedStatus request.chapterStatus⟩
      | _, _ =>
          match candidates concurrency request graph with
          | [] => .ok ⟨none, .wait, "No chapter has all dependencies accepted",
              sortedStatus request.chapterStatus⟩
          | chapter :: _ =>
              .ok ⟨some chapter, .schedule, "All required predecessor chapters are accepted",
                ((graph.lookup chapter).getD []).dedup.map fun required =>
                  (required, (request.chapterStatus.lookup required).getD "missing")⟩ := by
  refine (if_neg ?_).trans ((if_neg ?_).trans ((if_neg ?_).trans (if_neg ?_)))
  · rw [hrequest.cancelRequested]
    exact Bool.false_ne_true
  · rw [hrequest.pauseRequested]
    exact Bool.false_ne_true
  · exact fun h => any_active_iff.mp h hidle
  · exact fun h => hleft (all_done_iff.mp h)

/-- What is scheduled is the first candidate. -/
theorem candidate_of_schedule (hrequest : ScheduleRequestFor request numbers dependencies)
    (hleft : Idle request → ¬ AllDone request)
    (h : decideValid concurrency request graph = .ok decision)
    (haction : decision.action = .schedule) :
    ∃ chapter ∈ candidates concurrency request graph, decision.chapterNumber = some chapter := by
  by_cases hidle : Idle request
  · rw [decideValid_left hrequest hidle (hleft hidle)] at h
    split at h
    · contradiction
    · obtain rfl := Except.ok.inj h
      contradiction
    · split at h
      · obtain rfl := Except.ok.inj h
        contradiction
      · next chapter rest hcandidates =>
          obtain rfl := Except.ok.inj h
          exact ⟨chapter, hcandidates ▸ List.mem_cons_self, rfl⟩
  · rw [decideValid_active hrequest hidle] at h
    obtain rfl := Except.ok.inj h
    contradiction

/-- A candidate is not done, and all that it requires is. -/
theorem mem_candidates {chapter : ℕ} (hplan : IsPlan numbers dependencies)
    (hrequest : ScheduleRequestFor request numbers dependencies)
    (h : chapter ∈ candidates concurrency request (arranged (planGraph numbers dependencies))) :
    chapter ∈ numbers ∧ isDone request.chapterStatus chapter = false ∧
      ∀ other ∈ required (planGraph numbers dependencies) chapter,
        isDone request.chapterStatus other = true := by
  have hmem := List.mem_of_mem_take h
  rw [List.mem_filter, List.mem_insertionSort, Bool.and_eq_true, Bool.not_eq_true',
    List.all_eq_true, hrequest.chapterNumbers] at hmem
  refine ⟨hmem.1, hmem.2.1, fun other hother => hmem.2.2 other ?_⟩
  exact (required_arranged hplan.isGraph.1 chapter).mem_iff.mpr hother

/-- While something is not done, there is a candidate. -/
theorem candidates_ne_nil (hconcurrency : 0 < concurrency) (hplan : IsPlan numbers dependencies)
    (hrequest : ScheduleRequestFor request numbers dependencies) (hleft : ¬ AllDone request) :
    candidates concurrency request (arranged (planGraph numbers dependencies)) ≠ [] := by
  obtain ⟨hnodup, hgraph⟩ := hplan.isGraph
  have hopen : (numbers.filter fun chapter => !isDone request.chapterStatus chapter) ≠ [] := by
    intro hnil
    refine hleft fun chapter hchapter => ?_
    have hnot := List.filter_eq_nil_iff.mp hnil chapter (hrequest.chapterNumbers ▸ hchapter)
    simpa using hnot
  -- of the chapters that are left, one requires none of the others
  obtain ⟨chapter, hchapter, hready⟩ := hgraph.acyclic.exists_ready hopen
  obtain ⟨hmem, hnot⟩ := List.mem_filter.mp hchapter
  have hdone : ∀ other ∈ required (planGraph numbers dependencies) chapter,
      isDone request.chapterStatus other = true := by
    intro other hother
    by_contra hundone
    refine hready other hother (List.mem_filter.mpr ⟨?_, by simpa using hundone⟩)
    exact (hgraph.covers other).mp (hgraph.planned chapter other hother)
  have hcandidate : chapter ∈ (request.chapterNumbers.insertionSort (· ≤ ·)).filter fun chapter =>
      !isDone request.chapterStatus chapter &&
        (((arranged (planGraph numbers dependencies)).lookup chapter).getD []).all
          (isDone request.chapterStatus) := by
    rw [List.mem_filter, List.mem_insertionSort, Bool.and_eq_true, List.all_eq_true,
      hrequest.chapterNumbers]
    refine ⟨hmem, hnot, fun other hother => hdone other ?_⟩
    exact (required_arranged hnodup chapter).mem_iff.mp hother
  intro hnil
  rcases List.take_eq_nil_iff.mp hnil with hzero | hempty
  · cases hmode : request.mode with
    | sequential =>
        rw [hmode] at hzero
        exact absurd hzero one_ne_zero
    | dependencyAware =>
        rw [hmode] at hzero
        exact absurd hzero hconcurrency.ne'
  · rw [hempty] at hcandidate
    exact List.not_mem_nil hcandidate

/-- A chapter is scheduled if nothing is active or needs review, and something is not done. -/
theorem decide_schedules (hconcurrency : 0 < concurrency) (hplan : IsPlan numbers dependencies)
    (hrequest : ScheduleRequestFor request numbers dependencies) (hidle : Idle request)
    (hreviewed : Reviewed request) (hleft : ¬ AllDone request) :
    ∃ decision, decide concurrency request = .ok decision ∧ decision.action = .schedule := by
  have hreview : (needingReview request.chapterStatus).min? = none := by
    have hnone : needingReview request.chapterStatus = [] := by
      rw [needingReview, List.map_eq_nil_iff, List.filter_eq_nil_iff]
      exact fun entry hentry => by simpa using hreviewed entry hentry
    rw [hnone]
    rfl
  rw [decide_eq_decideValid hplan hrequest, decideValid_left hrequest hidle hleft, hreview]
  cases hcandidates : candidates concurrency request
      (arranged (planGraph numbers dependencies)) with
  | nil => exact absurd hcandidates (candidates_ne_nil hconcurrency hplan hrequest hleft)
  | cons chapter rest => exact ⟨_, rfl, rfl⟩

/-- A plan is complete when nothing is active and all is done. -/
theorem decide_complete_iff (hplan : IsPlan numbers dependencies)
    (hrequest : ScheduleRequestFor request numbers dependencies) :
    (∃ decision, decide concurrency request = .ok decision ∧ decision.action = .complete) ↔
      Idle request ∧ AllDone request := by
  rw [decide_eq_decideValid hplan hrequest]
  constructor
  · rintro ⟨decision, hdecision, haction⟩
    by_cases hidle : Idle request
    · refine ⟨hidle, ?_⟩
      by_contra hleft
      rw [decideValid_left hrequest hidle hleft] at hdecision
      split at hdecision
      · contradiction
      · obtain rfl := Except.ok.inj hdecision
        contradiction
      · split at hdecision
        · obtain rfl := Except.ok.inj hdecision
          contradiction
        · obtain rfl := Except.ok.inj hdecision
          contradiction
    · rw [decideValid_active hrequest hidle] at hdecision
      obtain rfl := Except.ok.inj hdecision
      contradiction
  · rintro ⟨hidle, hdone⟩
    exact ⟨_, decideValid_done hrequest hidle hdone _, rfl⟩

/-- A chapter that is scheduled is not done, and all that it requires is. -/
theorem ready_of_schedule (hplan : IsPlan numbers dependencies)
    (hrequest : ScheduleRequestFor request numbers dependencies)
    (h : decide concurrency request = .ok decision) (haction : decision.action = .schedule) :
    ∃ chapter ∈ numbers, decision.chapterNumber = some chapter ∧
      isDone request.chapterStatus chapter = false ∧
      ∀ other ∈ required (planGraph numbers dependencies) chapter,
        isDone request.chapterStatus other = true := by
  have hdecide := h
  rw [decide_eq_decideValid hplan hrequest] at h
  have hleft : Idle request → ¬ AllDone request := by
    intro hidle hdone
    rw [decideValid_done hrequest hidle hdone] at h
    obtain rfl := Except.ok.inj h
    contradiction
  obtain ⟨chapter, hcandidate, hchapter⟩ := candidate_of_schedule hrequest hleft h haction
  obtain ⟨hmem, hnot, hready⟩ := mem_candidates hplan hrequest hcandidate
  exact ⟨chapter, hmem, hchapter, hnot, hready⟩

/-! ### Completing a plan -/

/-- A chapter is finished. -/
def finish (request : ScheduleRequest) (chapter : ℕ) (mark : String) : ScheduleRequest :=
  { request with chapterStatus := Dict.set chapter mark request.chapterStatus }

/-- The scheduled chapter is finished, some times. -/
def finishScheduled (concurrency : ℕ) (marks : ℕ → String) :
    ℕ → ScheduleRequest → Option ScheduleRequest
  | 0, request => some request
  | times + 1, request =>
      match decide concurrency request with
      | .ok ⟨some chapter, .schedule, _, _⟩ =>
          finishScheduled concurrency marks times (finish request chapter (marks chapter))
      | _ => none

/-- The number of chapters that are not done. -/
def unfinished (request : ScheduleRequest) : ℕ :=
  request.chapterNumbers.countP fun chapter => !isDone request.chapterStatus chapter

/-- A chapter that is finished is done, and other chapters stay as they are. -/
theorem isDone_set {status : List (ℕ × String)} {chapter : ℕ} {mark : String} (h : mark ∈ done)
    (other : ℕ) :
    isDone (Dict.set chapter mark status) other =
      if other = chapter then true else isDone status other := by
  rw [isDone, Dict.lookup_set]
  split
  · simpa using h
  · rfl

/-- One chapter less is left. -/
theorem unfinished_finish {chapter : ℕ} {mark : String} (hmark : mark ∈ done)
    (hnodup : request.chapterNumbers.Nodup) (hmem : chapter ∈ request.chapterNumbers)
    (hnot : isDone request.chapterStatus chapter = false) :
    unfinished request = unfinished (finish request chapter mark) + 1 := by
  have hperm := List.perm_cons_erase hmem
  have hrest : (request.chapterNumbers.erase chapter).countP
      (fun other => !isDone (finish request chapter mark).chapterStatus other) =
        (request.chapterNumbers.erase chapter).countP
          fun other => !isDone request.chapterStatus other := by
    refine List.countP_congr fun other hother => ?_
    have hne : other ≠ chapter := fun heq => by
      rw [heq] at hother
      exact hnodup.not_mem_erase hother
    rw [finish, isDone_set hmark, if_neg hne]
  rw [unfinished, unfinished, hperm.countP_eq, List.countP_cons_of_pos (by simp [hnot]), ← hrest]
  congr 1
  have hfinished : (finish request chapter mark).chapterNumbers = request.chapterNumbers := rfl
  rw [hfinished, hperm.countP_eq, List.countP_cons_of_neg]
  rw [finish, isDone_set hmark, if_pos rfl]
  simp

/-- A plan is completed in as many steps as it has unfinished chapters. -/
theorem scheduler_completes (hconcurrency : 0 < concurrency) {marks : ℕ → String}
    (hmarks : ∀ chapter, marks chapter ∈ done) (hplan : IsPlan numbers dependencies)
    (hrequest : ScheduleRequestFor request numbers dependencies) (hidle : Idle request)
    (hreviewed : Reviewed request) :
    ∃ last decision,
      finishScheduled concurrency marks (unfinished request) request = some last ∧
        decide concurrency last = .ok decision ∧ decision.action = .complete := by
  induction hcount : unfinished request generalizing request with
  | zero =>
      have hdone : AllDone request := by
        intro chapter hchapter
        have hnot := List.countP_eq_zero.mp hcount chapter hchapter
        simpa using hnot
      obtain ⟨decision, hdecision, haction⟩ : ∃ decision,
          decide concurrency request = .ok decision ∧ decision.action = .complete :=
        (decide_complete_iff hplan hrequest).mpr ⟨hidle, hdone⟩
      exact ⟨request, decision, rfl, hdecision, haction⟩
  | succ times ih =>
      have hleft : ¬ AllDone request := by
        intro hdone
        have hzero : unfinished request = 0 := List.countP_eq_zero.mpr fun chapter hchapter => by
          simp [hdone chapter hchapter]
        omega
      obtain ⟨decision, hdecision, haction⟩ :=
        decide_schedules hconcurrency hplan hrequest hidle hreviewed hleft
      obtain ⟨chapter, hmem, hchapter, hnot, -⟩ :=
        ready_of_schedule hplan hrequest hdecision haction
      have hmem' : chapter ∈ request.chapterNumbers := hrequest.chapterNumbers ▸ hmem
      have hnodup : request.chapterNumbers.Nodup := by
        rw [hrequest.chapterNumbers]
        exact hplan.perm.nodup_iff.mpr List.nodup_range'
      have hentries : ∀ entry ∈ (finish request chapter (marks chapter)).chapterStatus,
          entry = (chapter, marks chapter) ∨ entry ∈ request.chapterStatus := fun entry hentry =>
        Dict.mem_set hentry
      have hfinished : ∀ mark ∈ done, mark ∉ active ∧ mark ≠ "needs_review" := by decide
      have hrequest' : ScheduleRequestFor (finish request chapter (marks chapter)) numbers
          dependencies :=
        ⟨hrequest.chapterNumbers, hrequest.dependencies, hrequest.cancelRequested,
          hrequest.pauseRequested⟩
      obtain ⟨last, final, hlast, hfinal, hcomplete⟩ := ih hrequest'
        (fun entry hentry => by
          rcases hentries entry hentry with rfl | hold
          · exact (hfinished _ (hmarks chapter)).1
          · exact hidle entry hold)
        (fun entry hentry => by
          rcases hentries entry hentry with rfl | hold
          · exact (hfinished _ (hmarks chapter)).2
          · exact hreviewed entry hold)
        (by
          have := unfinished_finish (hmarks chapter) hnodup hmem' hnot
          omega)
      refine ⟨last, final, ?_, hfinal, hcomplete⟩
      obtain ⟨number, action, reason, status⟩ := decision
      obtain rfl : number = some chapter := hchapter
      obtain rfl : action = .schedule := haction
      rw [finishScheduled, hdecision]
      exact hlast

/-! ### The scheduler -/

/-- The scheduler accepts plans only. Of a plan, it answers that it is complete when nothing is
active and all is done; it schedules chapters that are not done and require only what is; it
schedules one while something is left and nothing is active or needs review; and so the plan is
completed. -/
theorem scheduler_correct {concurrency : ℕ} (hconcurrency : 0 < concurrency) (numbers : List ℕ)
    (dependencies : Option DependencyMap) :
    ((∃ graph, validatePlan numbers (dependencies.map (·.entries)) = .ok graph) ↔
      IsPlan numbers dependencies) ∧
    (IsPlan numbers dependencies → ∀ request, ScheduleRequestFor request numbers dependencies →
      ((∃ decision, decide concurrency request = .ok decision ∧ decision.action = .complete) ↔
        Idle request ∧ AllDone request) ∧
      (∀ decision, decide concurrency request = .ok decision → decision.action = .schedule →
        ∃ chapter ∈ numbers, decision.chapterNumber = some chapter ∧
          isDone request.chapterStatus chapter = false ∧
          ∀ other ∈ required (planGraph numbers dependencies) chapter,
            isDone request.chapterStatus other = true) ∧
      (Idle request → Reviewed request → ¬ AllDone request →
        ∃ decision, decide concurrency request = .ok decision ∧ decision.action = .schedule) ∧
      (Idle request → Reviewed request → ∀ marks : ℕ → String, (∀ chapter, marks chapter ∈ done) →
        ∃ last decision,
          finishScheduled concurrency marks (unfinished request) request = some last ∧
            decide concurrency last = .ok decision ∧ decision.action = .complete)) := by
  refine ⟨⟨?_, ?_⟩, fun hplan request hrequest => ⟨?_, ?_, ?_, ?_⟩⟩
  · rintro ⟨graph, hgraph⟩
    exact (validatePlan_ok_iff.mp hgraph).1
  · intro hplan
    exact ⟨_, validatePlan_ok_iff.mpr ⟨hplan, rfl⟩⟩
  · exact decide_complete_iff hplan hrequest
  · intro decision hdecision haction
    exact ready_of_schedule hplan hrequest hdecision haction
  · intro hidle hreviewed hleft
    exact decide_schedules hconcurrency hplan hrequest hidle hreviewed hleft
  · intro hidle hreviewed marks hmarks
    exact scheduler_completes hconcurrency hmarks hplan hrequest hidle hreviewed

/-- An empty map is accepted, although it covers no chapter. -/
theorem empty_map_accepted :
    validatePlan [1] ((some (⟨[], List.nodup_nil⟩ : DependencyMap)).map (·.entries)) =
        .ok [(1, [])] ∧
      ¬ ∀ chapter, chapter ∈ ([] : List (ℕ × List ℕ)).map (·.1) ↔ chapter ∈ [1] := by
  refine ⟨by decide +kernel, fun hcovers => ?_⟩
  exact List.not_mem_nil ((hcovers 1).mpr List.mem_cons_self)

/-- The second of two chapters requires the first, which is said twice. -/
def twice : DependencyMap := ⟨[(2, [1, 1]), (1, [])], by decide⟩

/-- Both are completed in two steps. -/
theorem scheduler_correct_twice :
    ∃ last decision,
      finishScheduled 1 (fun _ => "accepted") 2 ⟨.sequential, [2, 1],
        [(1, "planned"), (2, "failed")], some [(2, [1, 1]), (1, [])], false, false, false⟩ =
          some last ∧
        decide 1 last = .ok decision ∧ decision.action = .complete := by
  obtain ⟨haccepted, hcorrect⟩ := scheduler_correct Nat.one_pos [2, 1] (some twice)
  have hplan : IsPlan [2, 1] (some twice) :=
    haccepted.mp ⟨[(1, []), (2, [1, 1])], by decide +kernel⟩
  obtain ⟨-, -, -, hcompletes⟩ := hcorrect hplan ⟨.sequential, [2, 1],
    [(1, "planned"), (2, "failed")], some [(2, [1, 1]), (1, [])], false, false, false⟩
    ⟨rfl, rfl, rfl, rfl⟩
  refine hcompletes ?_ ?_ (fun _ => "accepted") fun _ => by decide
  · unfold Idle
    decide
  · unfold Reviewed
    decide

end BookChapterScheduler

end StoryForge
