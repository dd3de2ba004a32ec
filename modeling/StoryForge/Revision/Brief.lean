import Mathlib.Data.List.Sort
import Mathlib.Data.Prod.Lex
import Mathlib.Data.String.Basic
import StoryForge.Enums
import StoryForge.Library.Dict

/-!
# `RevisionBriefBuilder`

A revision brief asks for a few changes of a chapter, the most urgent ones first. The issues it
is built from come from several evaluators, which may report one code more than once and with
different severities. The builder keeps the last issue of each code. This module shows when that
is the severity to keep.

Category names are folded by `casefold`, and the range of words is taken from floating point
products that the configuration gives.

## Main results

* `mem_latest` — the builder looks at the last issue of each code;
* `keepsSeverities_iff` — when a brief keeps the severities of its issues;
* `severity_lost` — a repeated code takes the severity of its last issue.
-/

namespace StoryForge.Revision

/-! ### Contracts -/

/-- Normalized issue input consumed by the rule-based brief builder. -/
structure RevisionIssue where
  code : String
  category : String
  severity : ConflictSeverity
  problem : String
  evidence : Option String
  suggestion : String
  deriving DecidableEq, Repr

/-- One ordered, testable change requested from the writer. -/
structure RevisionInstruction where
  priority : ℕ
  code : String
  category : String
  severity : ConflictSeverity
  problem : String
  evidence : Option String
  requiredChange : String
  preserve : List String
  avoid : List String
  acceptanceCriteria : List String
  deriving DecidableEq, Repr

/-- Deterministic, bounded revision task for one source version. -/
structure RevisionBrief where
  chapterId : ℕ
  sourceVersionId : ℕ
  revisionAttempt : ℕ
  objective : String
  instructions : List RevisionInstruction
  globalConstraints : List String
  mustPreserveFacts : List String
  forbiddenChanges : List String
  targetWordRange : ℕ × ℕ
  strategy : String
  deriving DecidableEq, Repr

/-- Limits and default constraints for one revision round. `lowerWords` and `upperWords` are
`round(target_words * (1 - tolerance))` and `round(target_words * (1 + tolerance))`. -/
structure RevisionBriefConfig where
  maxInstructions : ℕ
  lowerWords : ℕ → ℕ
  upperWords : ℕ → ℕ
  three_le_maxInstructions : 3 ≤ maxInstructions
  maxInstructions_le_five : maxInstructions ≤ 5

/-- What a brief is built from. -/
structure RevisionRequest where
  chapterId : ℕ
  sourceVersionId : ℕ
  revisionAttempt : ℕ
  objective : String
  issues : List RevisionIssue
  mustPreserveFacts : List String
  forbiddenChanges : List String
  targetWords : ℕ
  previousImproved : Option Bool

/-! ### Building -/

/-- `_SEVERITY_ORDER`. -/
def severityOrder : ConflictSeverity → ℕ
  | .critical => 0
  | .high => 1
  | .medium => 2
  | .low => 3

/-- `_CATEGORY_ORDER.get(category, 8)`. -/
def categoryOrder (category : String) : ℕ :=
  ([("consistency", 0), ("forbidden_reveal", 1), ("outline", 2), ("character", 3), ("plot", 4),
    ("pacing", 5), ("prose", 6), ("mechanical", 7)].lookup category).getD 8

/-- The key issues are sorted by. -/
def issueKey (casefold : String → String) (issue : RevisionIssue) : ℕ ×ₗ ℕ ×ₗ String :=
  toLex (severityOrder issue.severity,
    toLex (categoryOrder (casefold issue.category), issue.code))

/-- `{item.code: item for item in issues}.values()`. -/
def latest (issues : List RevisionIssue) : List RevisionIssue :=
  (Dict.ofList (issues.map fun issue => (issue.code, issue))).map (·.2)

/-- The issues that the builder looks at, in the order of their keys. -/
def sortedIssues (casefold : String → String) (issues : List RevisionIssue) :
    List RevisionIssue :=
  (latest issues).insertionSort fun a b => issueKey casefold a ≤ issueKey casefold b

/-- The issues a brief has instructions for. -/
def selected (casefold : String → String) (maxInstructions : ℕ) (issues : List RevisionIssue) :
    List RevisionIssue :=
  (sortedIssues casefold issues).take maxInstructions

/-- `sorted(set(texts))`. -/
def sortedSet (texts : List String) : List String :=
  texts.dedup.insertionSort (· ≤ ·)

/-- The instruction for an issue. -/
def instructionFor (request : RevisionRequest) (index : ℕ) (issue : RevisionIssue) :
    RevisionInstruction where
  priority := index + 1
  code := issue.code
  category := issue.category
  severity := issue.severity
  problem := issue.problem
  evidence := issue.evidence
  requiredChange := issue.suggestion
  preserve := request.mustPreserveFacts.take 3
  avoid := request.forbiddenChanges
  acceptanceCriteria :=
    ["Resolve issue " ++ issue.code,
      "Do not introduce a new high or critical consistency conflict"]

/-- `RevisionBriefBuilder.build`. -/
def RevisionBriefConfig.build (config : RevisionBriefConfig) (casefold : String → String)
    (request : RevisionRequest) : RevisionBrief :=
  let lower := max 1 (config.lowerWords request.targetWords)
  { chapterId := request.chapterId
    sourceVersionId := request.sourceVersionId
    revisionAttempt := request.revisionAttempt
    objective :=
      if request.objective = "" then
        "Resolve blocking evaluation issues while preserving continuity."
      else request.objective
    instructions :=
      (selected casefold config.maxInstructions request.issues).mapIdx (instructionFor request)
    globalConstraints :=
      ["Follow the current chapter outline and do not reveal future information.",
        "Preserve accepted facts unless an instruction explicitly corrects a conflict.",
        "Return a complete chapter, not notes or an outline."]
    mustPreserveFacts := sortedSet request.mustPreserveFacts
    forbiddenChanges := sortedSet request.forbiddenChanges
    targetWordRange := (lower, max lower (config.upperWords request.targetWords))
    strategy :=
      if request.previousImproved = some false then "structural_rewrite"
      else if 1 < request.revisionAttempt then "alternative_approach"
      else "targeted_repair" }

/-! ### What a brief owes to its issues -/

/-- A severity is at least another one. -/
def AtLeast (a b : ConflictSeverity) : Prop := severityOrder a ≤ severityOrder b

instance (a b : ConflictSeverity) : Decidable (AtLeast a b) :=
  inferInstanceAs (Decidable (severityOrder a ≤ severityOrder b))

/-- A brief has at most a number of instructions with distinct codes, the severest first; each
has the highest severity that the issues of its code have, and no issue of another code has a
higher severity. -/
structure KeepsSeverities (maxInstructions : ℕ) (issues : List RevisionIssue)
    (instructions : List RevisionInstruction) : Prop where
  bounded : instructions.length ≤ maxInstructions
  distinct : (instructions.map (·.code)).Nodup
  raised : ∀ instruction ∈ instructions, ∃ issue ∈ issues,
    issue.code = instruction.code ∧ issue.severity = instruction.severity
  highest : ∀ instruction ∈ instructions, ∀ issue ∈ issues, issue.code = instruction.code →
    AtLeast instruction.severity issue.severity
  ordered : instructions.Pairwise fun a b => AtLeast a.severity b.severity
  rest : ∀ issue ∈ issues, issue.code ∉ instructions.map (·.code) →
    ∀ instruction ∈ instructions, AtLeast instruction.severity issue.severity

/-- The last issue of each code. -/
def lastOfCode : List RevisionIssue → List RevisionIssue
  | [] => []
  | issue :: rest =>
      if issue.code ∈ rest.map (·.code) then lastOfCode rest else issue :: lastOfCode rest

/-- An issue is as severe as the last one of its code, or there is no room for it among codes
whose last issue is as severe. -/
def LastIsHighest (maxInstructions : ℕ) (issues : List RevisionIssue) : Prop :=
  ∀ issue ∈ issues,
    (∃ last ∈ lastOfCode issues, last.code = issue.code ∧ AtLeast last.severity issue.severity) ∨
      maxInstructions ≤ (lastOfCode issues).countP fun last =>
        decide (AtLeast last.severity issue.severity)

/-! ### The last issue of each code -/

/-- The issues with their codes, as the dictionary is built from them. -/
def coded (issues : List RevisionIssue) : List (String × RevisionIssue) :=
  issues.map fun issue => (issue.code, issue)

theorem lookup_reverse_coded_cons (code : String) (issue : RevisionIssue)
    (rest : List RevisionIssue) :
    (coded (issue :: rest)).reverse.lookup code =
      ((coded rest).reverse.lookup code).or (if code = issue.code then some issue else none) := by
  rw [coded, List.map_cons, List.reverse_cons, List.lookup_append, Dict.lookup_cons]
  rfl

theorem lookup_reverse_coded_eq_none {code : String} {issues : List RevisionIssue} :
    (coded issues).reverse.lookup code = none ↔ code ∉ issues.map (·.code) := by
  induction issues with
  | nil => simp [coded]
  | cons issue rest ih =>
      rw [lookup_reverse_coded_cons, Option.or_eq_none_iff, ih, List.map_cons, List.mem_cons,
        not_or, and_comm]
      simp

/-- What is found under a code has that code and is an issue. -/
theorem code_of_lookup {code : String} {issues : List RevisionIssue} {issue : RevisionIssue}
    (h : (coded issues).reverse.lookup code = some issue) :
    issue.code = code ∧ issue ∈ issues := by
  induction issues with
  | nil => simp [coded] at h
  | cons first rest ih =>
      rw [lookup_reverse_coded_cons] at h
      rcases Option.or_eq_some_iff.mp h with hrest | ⟨-, hfirst⟩
      · exact ⟨(ih hrest).1, List.mem_cons_of_mem _ (ih hrest).2⟩
      · split at hfirst
        · next hcode =>
            obtain rfl := Option.some.inj hfirst
            exact ⟨hcode.symm, List.mem_cons_self⟩
        · contradiction

theorem mem_lastOfCode {issues : List RevisionIssue} {issue : RevisionIssue} :
    issue ∈ lastOfCode issues ↔ (coded issues).reverse.lookup issue.code = some issue := by
  induction issues with
  | nil => simp [lastOfCode, coded]
  | cons first rest ih =>
      rw [lastOfCode, lookup_reverse_coded_cons]
      cases hrest : (coded rest).reverse.lookup first.code with
      | none =>
          have hnot := lookup_reverse_coded_eq_none.mp hrest
          rw [if_neg hnot, List.mem_cons, ih]
          by_cases hcode : issue.code = first.code
          · rw [hcode, hrest]
            simp [eq_comm]
          · have hne : issue ≠ first := fun h => hcode (h ▸ rfl)
            simp [hcode, hne]
      | some last =>
          have hmem : first.code ∈ rest.map (·.code) := by
            by_contra hnot
            rw [lookup_reverse_coded_eq_none.mpr hnot] at hrest
            contradiction
          rw [if_pos hmem, ih]
          by_cases hcode : issue.code = first.code
          · rw [hcode, hrest, Option.some_or]
          · simp [hcode]

theorem mem_latest {issues : List RevisionIssue} {issue : RevisionIssue} :
    issue ∈ latest issues ↔ (coded issues).reverse.lookup issue.code = some issue := by
  have hentry : ∀ code, (code, issue) ∈ Dict.ofList (coded issues) ↔
      (coded issues).reverse.lookup code = some issue := by
    intro code
    rw [Dict.mem_iff_lookup (Dict.nodup_keys_ofList _), Dict.lookup_ofList]
  unfold latest
  constructor
  · intro h
    obtain ⟨⟨code, found⟩, hfound, rfl⟩ := List.mem_map.mp h
    have hlookup := (hentry code).mp hfound
    rwa [(code_of_lookup hlookup).1]
  · intro h
    exact List.mem_map.mpr ⟨(issue.code, issue), (hentry _).mpr h, rfl⟩

/-- The codes of the issues that the builder looks at are distinct. -/
theorem nodup_latest (issues : List RevisionIssue) : ((latest issues).map (·.code)).Nodup := by
  have hcodes : (latest issues).map (·.code) = (Dict.ofList (coded issues)).map (·.1) := by
    unfold latest
    rw [List.map_map]
    refine List.map_congr_left fun entry hentry => ?_
    obtain ⟨code, issue⟩ := entry
    have hlookup := (Dict.mem_iff_lookup (Dict.nodup_keys_ofList _)).mp hentry
    rw [Dict.lookup_ofList] at hlookup
    exact (code_of_lookup hlookup).1
  rw [hcodes]
  exact Dict.nodup_keys_ofList _

theorem nodup_lastOfCode (issues : List RevisionIssue) : (lastOfCode issues).Nodup := by
  induction issues with
  | nil => exact List.nodup_nil
  | cons issue rest ih =>
      rw [lastOfCode]
      split
      · exact ih
      · next hcode =>
          refine List.nodup_cons.mpr ⟨fun hmem => hcode ?_, ih⟩
          exact List.mem_map_of_mem (code_of_lookup (mem_lastOfCode.mp hmem)).2

/-- The builder looks at the last issue of each code. -/
theorem latest_perm (issues : List RevisionIssue) : (latest issues).Perm (lastOfCode issues) := by
  refine (List.perm_ext_iff_of_nodup (nodup_latest issues).of_map (nodup_lastOfCode issues)).mpr ?_
  intro issue
  rw [mem_latest, mem_lastOfCode]

/-! ### The order of the instructions -/

section Selected

variable (casefold : String → String) (issues : List RevisionIssue)

theorem sortedIssues_perm : (sortedIssues casefold issues).Perm (lastOfCode issues) :=
  (List.perm_insertionSort _ _).trans (latest_perm issues)

/-- Severer issues come first. -/
theorem pairwise_sortedIssues :
    (sortedIssues casefold issues).Pairwise fun a b => AtLeast a.severity b.severity := by
  have hsorted : (sortedIssues casefold issues).Pairwise fun a b =>
      issueKey casefold a ≤ issueKey casefold b :=
    List.pairwise_insertionSort _ _
  refine hsorted.imp fun hkey => ?_
  rcases Prod.Lex.toLex_le_toLex.mp hkey with hlt | ⟨heq, -⟩
  · exact hlt.le
  · exact heq.le

/-- Where severer ones come first, the first few are as severe as any number of them. -/
theorem atLeast_of_mem_take {severity : ConflictSeverity} {sorted : List RevisionIssue}
    (h : sorted.Pairwise fun a b => AtLeast a.severity b.severity) :
    ∀ maxInstructions, maxInstructions ≤ sorted.countP (fun issue =>
        decide (AtLeast issue.severity severity)) →
      ∀ issue ∈ sorted.take maxInstructions, AtLeast issue.severity severity := by
  induction sorted with
  | nil =>
      intro maxInstructions _ issue hissue
      simp at hissue
  | cons first rest ih =>
      intro maxInstructions hcount issue hissue
      obtain ⟨hfirst, hrest⟩ := List.pairwise_cons.mp h
      cases maxInstructions with
      | zero => simp at hissue
      | succ maxInstructions =>
          -- when the first one is not as severe, none of them is
          by_cases hsevere : AtLeast first.severity severity
          · rw [List.countP_cons_of_pos (by simpa using hsevere)] at hcount
            rw [List.take_succ_cons] at hissue
            rcases List.mem_cons.mp hissue with rfl | hmem
            · exact hsevere
            · exact ih hrest maxInstructions (by omega) issue hmem
          · have hnone : rest.countP (fun issue => decide (AtLeast issue.severity severity)) = 0 := by
              refine List.countP_eq_zero.mpr fun other hother hatLeast => hsevere ?_
              have hle := hfirst other hother
              unfold AtLeast at hle ⊢
              have hatLeast := of_decide_eq_true hatLeast
              unfold AtLeast at hatLeast
              omega
            rw [List.countP_cons_of_neg (by simpa using hsevere), hnone] at hcount
            omega

end Selected

/-! ### Severities -/

section Keeps

variable {casefold : String → String} {maxInstructions : ℕ} {issues : List RevisionIssue}

theorem mem_lastOfCode_of_mem_selected {last : RevisionIssue}
    (h : last ∈ selected casefold maxInstructions issues) : last ∈ lastOfCode issues :=
  (sortedIssues_perm casefold issues).mem_iff.mp (List.mem_of_mem_take h)

/-- The last issue of a code is the only one of its code. -/
theorem eq_of_code_eq {a b : RevisionIssue} (ha : a ∈ lastOfCode issues)
    (hb : b ∈ lastOfCode issues) (hcode : a.code = b.code) : a = b := by
  rw [mem_lastOfCode] at ha hb
  rw [hcode, hb] at ha
  exact (Option.some.inj ha).symm

/-- Every issue has a last one of its code. -/
theorem exists_last {issue : RevisionIssue} (h : issue ∈ issues) :
    ∃ last ∈ lastOfCode issues, last.code = issue.code := by
  cases hlookup : (coded issues).reverse.lookup issue.code with
  | none => exact absurd (List.mem_map_of_mem h) (lookup_reverse_coded_eq_none.mp hlookup)
  | some last =>
      have hcode := (code_of_lookup hlookup).1
      exact ⟨last, mem_lastOfCode.mpr (by rw [hcode]; exact hlookup), hcode⟩

/-- What was not selected is no severer than what was. -/
theorem atLeast_of_not_selected {last chosen : RevisionIssue} (hlast : last ∈ lastOfCode issues)
    (hnot : last ∉ selected casefold maxInstructions issues)
    (hchosen : chosen ∈ selected casefold maxInstructions issues) :
    AtLeast chosen.severity last.severity := by
  have hsplit := pairwise_sortedIssues casefold issues
  rw [← List.take_append_drop maxInstructions (sortedIssues casefold issues),
    List.pairwise_append] at hsplit
  have hmem := (sortedIssues_perm casefold issues).mem_iff.mpr hlast
  rw [← List.take_append_drop maxInstructions (sortedIssues casefold issues),
    List.mem_append] at hmem
  exact hsplit.2.2 chosen hchosen last (hmem.resolve_left hnot)

/-- When something was not selected, there was no room for it. -/
theorem length_selected {last : RevisionIssue} (hlast : last ∈ lastOfCode issues)
    (hnot : last ∉ selected casefold maxInstructions issues) :
    (selected casefold maxInstructions issues).length = maxInstructions := by
  have hlength : ¬(sortedIssues casefold issues).length ≤ maxInstructions := by
    intro hle
    refine hnot ?_
    have hall : selected casefold maxInstructions issues = sortedIssues casefold issues :=
      List.take_of_length_le hle
    rw [hall]
    exact (sortedIssues_perm casefold issues).mem_iff.mpr hlast
  have htake : (selected casefold maxInstructions issues).length =
      min maxInstructions (sortedIssues casefold issues).length := List.length_take
  omega

/-- The issues that are selected are among those that the builder looks at. -/
theorem countP_selected_le (p : RevisionIssue → Bool) :
    (selected casefold maxInstructions issues).countP p ≤ (lastOfCode issues).countP p := by
  rw [← (sortedIssues_perm casefold issues).countP_eq]
  exact (List.take_sublist _ _).countP_le

/-- What is selected has the highest severity of its code, when the last issues have it. -/
theorem highest_of_lastIsHighest (h : LastIsHighest maxInstructions issues)
    {chosen issue : RevisionIssue} (hchosen : chosen ∈ selected casefold maxInstructions issues)
    (hissue : issue ∈ issues) (hcode : issue.code = chosen.code) :
    AtLeast chosen.severity issue.severity := by
  rcases h issue hissue with ⟨last, hlast, hsame, hatLeast⟩ | hroom
  · rwa [eq_of_code_eq (mem_lastOfCode_of_mem_selected hchosen) hlast
      (hcode.symm.trans hsame.symm)]
  · rw [← (sortedIssues_perm casefold issues).countP_eq] at hroom
    exact atLeast_of_mem_take (pairwise_sortedIssues casefold issues) _ hroom chosen hchosen

end Keeps

/-! ### Briefs -/

section Briefs

variable (config : RevisionBriefConfig) (casefold : String → String) (request : RevisionRequest)

/-- The instructions have the codes and severities of the selected issues, in their order. -/
theorem map_instructions {α : Type} (f : String → ConflictSeverity → α) :
    (config.build casefold request).instructions.map
        (fun instruction => f instruction.code instruction.severity) =
      (selected casefold config.maxInstructions request.issues).map
        fun issue => f issue.code issue.severity := by
  refine List.ext_getElem (by simp [RevisionBriefConfig.build]) fun index h h' => ?_
  simp [RevisionBriefConfig.build, instructionFor]

theorem mem_instructions {code : String} {severity : ConflictSeverity} :
    (∃ instruction ∈ (config.build casefold request).instructions,
      instruction.code = code ∧ instruction.severity = severity) ↔
    ∃ issue ∈ selected casefold config.maxInstructions request.issues,
      issue.code = code ∧ issue.severity = severity := by
  have hpairs := congrArg ((code, severity) ∈ ·) (map_instructions config casefold request Prod.mk)
  simpa using hpairs

/-- A brief keeps the severities of its issues exactly when each code ends with its severest
issue, or is left out anyway for severer ones. -/
theorem keepsSeverities_iff :
    KeepsSeverities config.maxInstructions request.issues
        (config.build casefold request).instructions ↔
      LastIsHighest config.maxInstructions request.issues := by
  have hcodes := map_instructions config casefold request fun code _ => code
  have hseverities := map_instructions config casefold request fun _ severity => severity
  constructor
  · intro h issue hissue
    obtain ⟨last, hlast, hcode⟩ := exists_last hissue
    by_cases hselected : last ∈ selected casefold config.maxInstructions request.issues
    · -- the code has an instruction
      obtain ⟨instruction, hinstruction, hsame, hseverity⟩ :=
        (mem_instructions config casefold request).mpr ⟨last, hselected, rfl, rfl⟩
      have hhighest := h.highest instruction hinstruction issue hissue (hcode.symm.trans hsame.symm)
      exact .inl ⟨last, hlast, hcode, hseverity ▸ hhighest⟩
    · -- the code was left out, so that all that were not are as severe
      refine .inr ?_
      have hleft : issue.code ∉ (config.build casefold request).instructions.map (·.code) := by
        rw [hcodes]
        intro hmem
        obtain ⟨chosen, hchosen, hsame⟩ := List.mem_map.mp hmem
        refine hselected ?_
        rwa [eq_of_code_eq hlast (mem_lastOfCode_of_mem_selected hchosen)
          (hcode.trans hsame.symm)]
      have hall : ∀ chosen ∈ selected casefold config.maxInstructions request.issues,
          decide (AtLeast chosen.severity issue.severity) = true := by
        intro chosen hchosen
        obtain ⟨instruction, hinstruction, -, hseverity⟩ :=
          (mem_instructions config casefold request).mpr ⟨chosen, hchosen, rfl, rfl⟩
        exact decide_eq_true (hseverity ▸ h.rest issue hissue hleft instruction hinstruction)
      have hcount := List.countP_eq_length.mpr hall
      rw [length_selected hlast hselected] at hcount
      calc config.maxInstructions
          = (selected casefold config.maxInstructions request.issues).countP fun chosen =>
              decide (AtLeast chosen.severity issue.severity) := hcount.symm
        _ ≤ _ := countP_selected_le _
  · intro h
    refine ⟨?_, ?_, ?_, ?_, ?_, ?_⟩
    · have hlength := congrArg List.length hcodes
      rw [List.length_map, List.length_map] at hlength
      rw [hlength]
      exact List.length_take_le _ _
    · rw [hcodes]
      have hperm : ((sortedIssues casefold request.issues).map (·.code)).Nodup :=
        ((List.perm_insertionSort _ _).map _).nodup_iff.mpr (nodup_latest _)
      exact hperm.sublist ((List.take_sublist _ _).map _)
    · intro instruction hinstruction
      obtain ⟨issue, hissue, hcode, hseverity⟩ :=
        (mem_instructions config casefold request).mp ⟨instruction, hinstruction, rfl, rfl⟩
      have hmem := (code_of_lookup (mem_lastOfCode.mp (mem_lastOfCode_of_mem_selected hissue))).2
      exact ⟨issue, hmem, hcode, hseverity⟩
    · intro instruction hinstruction issue hissue hcode
      obtain ⟨chosen, hchosen, hsame, hseverity⟩ :=
        (mem_instructions config casefold request).mp ⟨instruction, hinstruction, rfl, rfl⟩
      rw [← hseverity]
      exact highest_of_lastIsHighest h hchosen hissue (hcode.trans hsame.symm)
    · have hsorted := (pairwise_sortedIssues casefold request.issues).sublist
        (List.take_sublist config.maxInstructions _)
      have hpairs : ((selected casefold config.maxInstructions request.issues).map
          (·.severity)).Pairwise AtLeast := List.pairwise_map.mpr hsorted
      rw [← hseverities] at hpairs
      exact List.pairwise_map.mp hpairs
    · intro issue hissue hleft instruction hinstruction
      obtain ⟨chosen, hchosen, hsame, hseverity⟩ :=
        (mem_instructions config casefold request).mp ⟨instruction, hinstruction, rfl, rfl⟩
      rw [← hseverity]
      rcases h issue hissue with ⟨last, hlast, hcode, hatLeast⟩ | hroom
      · have hnot : last ∉ selected casefold config.maxInstructions request.issues := by
          intro hselected
          refine hleft ?_
          rw [hcodes, ← hcode]
          exact List.mem_map_of_mem hselected
        exact le_trans (atLeast_of_not_selected hlast hnot hchosen) hatLeast
      · rw [← (sortedIssues_perm casefold request.issues).countP_eq] at hroom
        exact atLeast_of_mem_take (pairwise_sortedIssues casefold request.issues) _ hroom chosen
          hchosen

end Briefs

/-- Two acts of dead characters in one chapter, of which the second is less certain. -/
def deadActions : List RevisionIssue :=
  [⟨"character.dead_action", "consistency", .critical, "A character marked dead acts.", none,
      "Mark the scene as memory."⟩,
    ⟨"character.dead_action", "consistency", .high, "A character marked dead acts.", none,
      "Mark the scene as memory."⟩]

/-- A code that is reported twice takes the severity of its last issue. -/
theorem severity_lost : ¬ KeepsSeverities 5 deadActions
    (RevisionBriefConfig.build ⟨5, id, id, by decide, by decide⟩ id
      ⟨1, 1, 1, "", deadActions, [], [], 1000, none⟩).instructions := by
  intro h
  have hcritical := h.highest
    ⟨1, "character.dead_action", "consistency", .high, "A character marked dead acts.", none,
      "Mark the scene as memory.", [], [], ["Resolve issue character.dead_action",
        "Do not introduce a new high or critical consistency conflict"]⟩
    (by decide +kernel)
    ⟨"character.dead_action", "consistency", .critical, "A character marked dead acts.", none,
      "Mark the scene as memory."⟩
    (by decide +kernel) rfl
  exact absurd hcritical (by decide)

end StoryForge.Revision
