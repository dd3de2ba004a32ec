import Mathlib.Data.Finset.Card
import Mathlib.Data.Finset.Dedup
import StoryForge.Library.Keys
import StoryForge.Library.Ranking
import StoryForge.Retrieval.Fusion

/-!
# What the graph route finds

The expansion goes one or two hops from the entities that are asked for. Each hop queries the
relations of the entities that were found in the last one, by confidence, up to what the hops
before have left of the edges. For the second hop this query lists the relations of the first hop
again, which were counted already: relations of the second hop can fall behind the limit although
there are few.

## Main results

* `Expansion.Room.foldl_visit` — what a hop visits where there is room for all entities;
* `Expansion.Bounded.expand` — what holds whether there is room or not;
* `expand_hits` — what the expansion finds;
* `nodup_reached` — each relation is reached once;
* `complete_iff` — the route returns all relations within its limits exactly if there is room for
  the entities and the relations of the second hop are ranked before the limit;
* `chain_cut` — a relation that is lost.
-/

namespace StoryForge.Retrieval

open Memory

variable {S : Type} [Score S]

/-! ### Hops -/

/-- The entities that a relation connects. -/
def ends (row : GraphRelation × ℕ) : List ℕ := [row.1.subjectEntityId, row.1.objectEntityId]

/-- Whether a relation ends in one of some entities. -/
def touches (ids : List ℕ) (row : GraphRelation × ℕ) : Bool :=
  ids.contains row.1.subjectEntityId || ids.contains row.1.objectEntityId

/-- The order of `(-confidence, id)`. -/
def Sooner (a b : GraphRelation × ℕ) : Prop :=
  b.1.confidence < a.1.confidence ∨ a.1.confidence = b.1.confidence ∧ a.2 < b.2

instance : DecidableRel Sooner := fun a b => by unfold Sooner; infer_instance

namespace GraphView

variable (view : GraphView)

/-- The entities that are asked for. -/
def seedIds : List ℕ := view.seeds.map (·.1)

/-- The relations of some entities. -/
def touching (ids : List ℕ) : List (GraphRelation × ℕ) := view.relations.filter (touches ids)

/-- The relations of the seeds. -/
def firstRelations : List (GraphRelation × ℕ) := view.touching view.seedIds

/-- The entities next to the seeds. -/
def neighbours : List ℕ :=
  (view.firstRelations.flatMap ends).filter fun id => !view.seedIds.contains id

/-- The relations of these that do not end in a seed. -/
def secondRelations : List (GraphRelation × ℕ) :=
  (view.touching view.neighbours).filter fun row => !touches view.seedIds row

/-- The relations within a number of hops, each with the hop at which it is first reached. -/
def reached (maxHops : ℕ) : List ((GraphRelation × ℕ) × ℕ) :=
  view.firstRelations.map (·, 1) ++
    if maxHops = 2 then view.secondRelations.map (·, 2) else []

/-- The entities that these touch. -/
def touched (maxHops : ℕ) : Finset ℕ :=
  ((view.reached maxHops).flatMap fun entry => ends entry.1).toFinset

/-- The name of an entity. -/
def nameOf (id : ℕ) : String := (view.canonicalName id).getD ""

/-- The hit of a relation at a hop. -/
def hitOf (hop : ℕ) (row : GraphRelation × ℕ) : RetrievalHit S :=
  relationHit hop row (view.nameOf row.1.subjectEntityId) (view.nameOf row.1.objectEntityId)

/-- What the tables guarantee: relations are given by increasing ids, and entities have names. -/
structure Stored : Prop where
  ids : view.relations.Pairwise fun a b => a.2 < b.2
  named : ∀ row ∈ view.relations, ∀ id ∈ ends row, (view.canonicalName id).isSome = true
  seeds : view.seedIds.Nodup
  seeds_named : ∀ entry ∈ view.seeds, view.canonicalName entry.1 = some entry.2

end GraphView

/-! ### Visits -/

/-- The entities that are known. -/
def Expansion.ids (expansion : Expansion S) : List ℕ := expansion.known.map (·.1)

/-- There is room for some entities, and what is known are entities of these. -/
structure Expansion.Room (view : GraphView) (maxNodes : ℕ) (all : Finset ℕ)
    (expansion : Expansion S) : Prop where
  nodup : expansion.ids.Nodup
  named : ∀ entry ∈ expansion.known, view.canonicalName entry.1 = some entry.2
  subset : ∀ id ∈ expansion.ids, id ∈ all
  room : all.card ≤ maxNodes ∨ ∀ id ∈ all, id ∈ expansion.ids

/-- Some relations are visited. -/
structure Expansion.Grows (view : GraphView) (hop : ℕ) (rows : List (GraphRelation × ℕ))
    (expansion expansion' : Expansion S) : Prop where
  ids : ∀ id, id ∈ expansion'.ids ↔ id ∈ expansion.ids ∨ ∃ row ∈ rows, id ∈ ends row
  next : ∀ id, id ∈ expansion'.nextFrontier ↔
    id ∈ expansion.nextFrontier ∨ id ∉ expansion.ids ∧ ∃ row ∈ rows, id ∈ ends row
  visited : expansion'.visitedEdges = expansion.visitedEdges ++ rows.map (·.2)
  hits : expansion'.hits = expansion.hits ++ rows.map (view.hitOf hop)

section Visits

variable {view : GraphView} {maxNodes hop : ℕ} {all : Finset ℕ} {expansion : Expansion S}

omit [Score S] in
theorem lookup_isNone {id : ℕ} :
    (expansion.known.lookup id).isNone = true ↔ id ∉ expansion.ids := by
  rw [Option.isNone_iff_eq_none, Expansion.ids]
  induction expansion.known with
  | nil => simp
  | cons entry rest ih =>
      rw [Dict.lookup_cons, List.map_cons, List.mem_cons, not_or]
      by_cases hid : id = entry.1
      · simp [hid]
      · rw [if_neg hid, ih, and_iff_right hid]

omit [Score S] in
/-- An entity that becomes known joins those that are. -/
theorem mem_ids_concat {id other : ℕ} (name : String) :
    other ∈ (expansion.known ++ [(id, name)]).map (·.1) ↔ other ∈ expansion.ids ∨ other = id := by
  rw [List.map_append, List.mem_append, List.map_singleton, List.mem_singleton, Expansion.ids]

omit [Score S] in
theorem nodup_ids_concat {id : ℕ} (h : expansion.ids.Nodup) (hnew : id ∉ expansion.ids)
    (name : String) : ((expansion.known ++ [(id, name)]).map (·.1)).Nodup := by
  rw [List.map_append, List.map_singleton]
  refine List.nodup_append.mpr ⟨h, List.nodup_singleton _, ?_⟩
  intro other hother last hlast
  rw [List.mem_singleton.mp hlast]
  rintro rfl
  exact hnew hother

omit [Score S] in
/-- The name of a known entity. -/
theorem Expansion.Room.lookup (h : expansion.Room view maxNodes all) {id : ℕ}
    (hid : id ∈ expansion.ids) : expansion.known.lookup id = some (view.nameOf id) := by
  obtain ⟨⟨other, name⟩, hentry, rfl⟩ := List.mem_map.mp hid
  rw [GraphView.nameOf, h.named _ hentry]
  exact (Dict.mem_iff_lookup h.nodup).mp hentry

omit [Score S] in
/-- With room, an entity becomes known. -/
theorem Expansion.Room.meet (h : expansion.Room view maxNodes all) {id : ℕ} (hid : id ∈ all)
    (hname : (view.canonicalName id).isSome = true) :
    (expansion.meet maxNodes view.canonicalName id).Room view maxNodes all ∧
      (∀ other, other ∈ (expansion.meet maxNodes view.canonicalName id).ids ↔
        other ∈ expansion.ids ∨ other = id) ∧
      (∀ other, other ∈ (expansion.meet maxNodes view.canonicalName id).nextFrontier ↔
        other ∈ expansion.nextFrontier ∨ other ∉ expansion.ids ∧ other = id) ∧
      (expansion.meet maxNodes view.canonicalName id).visitedEdges = expansion.visitedEdges ∧
      (expansion.meet maxNodes view.canonicalName id).hits = expansion.hits := by
  unfold Expansion.meet
  by_cases hknown : id ∈ expansion.ids
  · have hnone : (expansion.known.lookup id).isNone = false :=
      Bool.eq_false_iff.mpr fun hnone => lookup_isNone.mp hnone hknown
    rw [hnone, Bool.false_and, if_neg Bool.false_ne_true]
    refine ⟨h, fun other => ?_, fun other => ?_, rfl, rfl⟩
    · constructor
      · exact .inl
      · rintro (hmem | rfl)
        · exact hmem
        · exact hknown
    · constructor
      · exact .inl
      · rintro (hmem | ⟨hnot, rfl⟩)
        · exact hmem
        · exact absurd hknown hnot
  · obtain ⟨name, hsome⟩ := Option.isSome_iff_exists.mp hname
    have hcard : all.card ≤ maxNodes := h.room.resolve_right fun hall => hknown (hall id hid)
    -- what is known leaves out this entity
    have hlength : expansion.known.length < maxNodes := by
      have hsubset : expansion.ids.toFinset ⊆ all.erase id := by
        intro other hother
        rw [List.mem_toFinset] at hother
        refine Finset.mem_erase.mpr ⟨?_, h.subset other hother⟩
        rintro rfl
        exact hknown hother
      have hle := Finset.card_le_card hsubset
      rw [List.toFinset_card_of_nodup h.nodup, Finset.card_erase_of_mem hid, Expansion.ids,
        List.length_map] at hle
      have hpos : 0 < all.card := Finset.card_pos.mpr ⟨id, hid⟩
      omega
    rw [lookup_isNone.mpr hknown, decide_eq_true hlength, Bool.true_and, if_pos rfl, hsome]
    refine ⟨⟨nodup_ids_concat h.nodup hknown name, ?_, ?_, .inl hcard⟩, fun other =>
      mem_ids_concat name, fun other => ?_, rfl, rfl⟩
    · intro entry hentry
      rcases List.mem_append.mp hentry with hold | hnew
      · exact h.named entry hold
      · rw [List.mem_singleton.mp hnew, hsome]
    · intro other hother
      rcases (mem_ids_concat name).mp hother with hold | rfl
      · exact h.subset other hold
      · exact hid
    · rw [List.mem_append, List.mem_singleton]
      constructor
      · rintro (hmem | rfl)
        · exact .inl hmem
        · exact .inr ⟨hknown, rfl⟩
      · rintro (hmem | ⟨-, rfl⟩)
        · exact .inl hmem
        · exact .inr rfl

theorem Expansion.Grows.refl (view : GraphView) (hop : ℕ) (expansion : Expansion S) :
    expansion.Grows view hop [] expansion := by
  refine ⟨fun id => ?_, fun id => ?_, ?_, ?_⟩
  · simp
  · simp
  · simp
  · simp

theorem Expansion.Grows.trans {rows rows' : List (GraphRelation × ℕ)}
    {first second third : Expansion S} (h : first.Grows view hop rows second)
    (h' : second.Grows view hop rows' third) : first.Grows view hop (rows ++ rows') third := by
  have hrows : ∀ id, (∃ row ∈ rows ++ rows', id ∈ ends row) ↔
      (∃ row ∈ rows, id ∈ ends row) ∨ ∃ row ∈ rows', id ∈ ends row := by
    intro id
    simp only [List.mem_append, or_and_right, exists_or]
  refine ⟨fun id => ?_, fun id => ?_, ?_, ?_⟩
  · rw [h'.ids, h.ids, hrows, or_assoc]
  · rw [h'.next, h.next, h.ids, hrows]
    generalize (∃ row ∈ rows, id ∈ ends row) = here
    generalize (∃ row ∈ rows', id ∈ ends row) = there
    tauto
  · rw [h'.visited, h.visited, List.map_append, List.append_assoc]
  · rw [h'.hits, h.hits, List.map_append, List.append_assoc]

/-- A relation that was visited is passed over. -/
theorem visit_of_mem {row : GraphRelation × ℕ} (h : row.2 ∈ expansion.visitedEdges)
    (maxNodes : ℕ) (canonicalName : ℕ → Option String) (hop : ℕ) :
    expansion.visit maxNodes canonicalName hop row = expansion := by
  rw [Expansion.visit, if_pos (List.contains_iff_mem.mpr h)]

/-- With room, a relation that was not visited becomes a hit. -/
theorem Expansion.Room.visit (h : expansion.Room view maxNodes all) {row : GraphRelation × ℕ}
    (hrow : row.2 ∉ expansion.visitedEdges)
    (hends : ∀ id ∈ ends row, id ∈ all ∧ (view.canonicalName id).isSome = true) (hop : ℕ) :
    (expansion.visit maxNodes view.canonicalName hop row).Room view maxNodes all ∧
      expansion.Grows view hop [row]
        (expansion.visit maxNodes view.canonicalName hop row) := by
  obtain ⟨hsubject, hsubjectName⟩ := hends row.1.subjectEntityId List.mem_cons_self
  obtain ⟨hobject, hobjectName⟩ :=
    hends row.1.objectEntityId (List.mem_cons_of_mem _ List.mem_cons_self)
  have hmarked : Expansion.Room view maxNodes all
      { expansion with visitedEdges := expansion.visitedEdges ++ [row.2] } :=
    ⟨h.nodup, h.named, h.subset, h.room⟩
  obtain ⟨hroom, hids, hnext, hvisited, hhits⟩ := hmarked.meet hsubject hsubjectName
  obtain ⟨hroom', hids', hnext', hvisited', hhits'⟩ := hroom.meet hobject hobjectName
  have hvisit : expansion.visit maxNodes view.canonicalName hop row =
      { Expansion.meet maxNodes view.canonicalName (Expansion.meet maxNodes view.canonicalName
          { expansion with visitedEdges := expansion.visitedEdges ++ [row.2] }
          row.1.subjectEntityId) row.1.objectEntityId with
        hits := expansion.hits ++ [view.hitOf hop row] } := by
    rw [Expansion.visit, if_neg (fun hmem => hrow (List.contains_iff_mem.mp hmem))]
    dsimp only
    rw [hroom'.lookup ((hids' _).mpr (.inl ((hids _).mpr (.inr rfl)))),
      hroom'.lookup ((hids' _).mpr (.inr rfl)), hhits', hhits]
    rfl
  have hmem : ∀ id, (∃ other ∈ [row], id ∈ ends other) ↔
      id = row.1.subjectEntityId ∨ id = row.1.objectEntityId := by
    intro id
    simp only [exists_eq_left, ends, List.mem_cons, List.not_mem_nil, or_false]
  rw [hvisit]
  refine ⟨⟨hroom'.nodup, hroom'.named, hroom'.subset, hroom'.room⟩, fun id => ?_, fun id => ?_,
    ?_, ?_⟩
  · rw [hmem, ← or_assoc]
    exact (hids' id).trans (or_congr_left (hids id))
  · rw [hmem]
    refine (hnext' id).trans ?_
    rw [hnext, hids]
    change (id ∈ expansion.nextFrontier ∨ id ∉ expansion.ids ∧ id = _) ∨
      ¬(id ∈ expansion.ids ∨ id = _) ∧ id = _ ↔ _
    by_cases hsame : id = row.1.subjectEntityId
    · simp only [hsame]
      tauto
    · tauto
  · exact hvisited'.trans hvisited
  · rfl

/-- **A hop** visits the relations that were not visited before. -/
theorem Expansion.Room.foldl_visit {rows : List (GraphRelation × ℕ)}
    (h : expansion.Room view maxNodes all) (hnodup : (rows.map (·.2)).Nodup)
    (hends : ∀ row ∈ rows, ∀ id ∈ ends row,
      id ∈ all ∧ (view.canonicalName id).isSome = true) (hop : ℕ) :
    (rows.foldl (Expansion.visit maxNodes view.canonicalName hop) expansion).Room
        view maxNodes all ∧
      expansion.Grows view hop (rows.filter fun row => !expansion.visitedEdges.contains row.2)
        (rows.foldl (Expansion.visit maxNodes view.canonicalName hop) expansion) := by
  induction rows generalizing expansion with
  | nil => exact ⟨h, .refl view hop expansion⟩
  | cons row rest ih =>
      obtain ⟨hfresh, hnodup⟩ := List.nodup_cons.mp hnodup
      have hrest : ∀ other ∈ rest, ∀ id ∈ ends other,
          id ∈ all ∧ (view.canonicalName id).isSome = true :=
        fun other hother => hends other (List.mem_cons_of_mem _ hother)
      rw [List.foldl_cons, List.filter_cons]
      by_cases hrow : row.2 ∈ expansion.visitedEdges
      · rw [visit_of_mem hrow, List.contains_iff_mem.mpr hrow, Bool.not_true,
          if_neg Bool.false_ne_true]
        exact ih h hnodup hrest
      · obtain ⟨hroom, hgrows⟩ := h.visit hrow (hends row List.mem_cons_self) hop
        obtain ⟨hroom', hgrows'⟩ := ih hroom hnodup hrest
        refine ⟨hroom', ?_⟩
        have hsame : (rest.filter fun other => !(expansion.visit maxNodes view.canonicalName hop
              row).visitedEdges.contains other.2) =
            rest.filter fun other => !expansion.visitedEdges.contains other.2 := by
          refine List.filter_congr fun other hother => ?_
          have hne : other.2 ≠ row.2 := fun heq =>
            hfresh (List.mem_map.mpr ⟨other, hother, heq⟩)
          rw [hgrows.visited]
          simp [hne]
        rw [hsame] at hgrows'
        have hnot : expansion.visitedEdges.contains row.2 = false :=
          Bool.eq_false_iff.mpr fun hmem => hrow (List.contains_iff_mem.mp hmem)
        rw [hnot, Bool.not_false, if_pos rfl]
        exact hgrows.trans hgrows'

end Visits

/-! ### Hops of the expansion -/

/-- One hop: the relations of the frontier are visited. -/
def oneHop (retriever : GraphRetriever) (view : GraphView) (hop : ℕ) (frontier : List ℕ)
    (expansion : Expansion S) : Expansion S :=
  (view.visibleForEntities frontier
      (retriever.maxEdges - expansion.visitedEdges.length)).foldl
    (Expansion.visit retriever.maxNodes view.canonicalName hop)
    { expansion with nextFrontier := [] }

theorem expand_succ (retriever : GraphRetriever) (view : GraphView) (remaining hop : ℕ)
    (frontier : List ℕ) (expansion : Expansion S) :
    expand retriever view (remaining + 1) hop frontier expansion =
      if (oneHop retriever view hop frontier expansion).nextFrontier.isEmpty ||
          decide (retriever.maxEdges ≤
            (oneHop retriever view hop frontier expansion).visitedEdges.length) then
        oneHop retriever view hop frontier expansion
      else
        expand retriever view remaining (hop + 1)
          (oneHop retriever view hop frontier expansion).nextFrontier
          (oneHop retriever view hop frontier expansion) := by
  have hquery : (if frontier.isEmpty then [] else view.visibleForEntities frontier
      (retriever.maxEdges - expansion.visitedEdges.length)) =
        view.visibleForEntities frontier
          (retriever.maxEdges - expansion.visitedEdges.length) := by
    cases frontier with
    | nil => simp [GraphView.visibleForEntities]
    | cons id rest => rfl
  rw [expand, hquery]
  rfl

/-! ### Bounds -/

/-- What holds of an expansion whether there is room or not: few entities are known, and hits
are relations between known ones. -/
structure Expansion.Bounded (view : GraphView) (maxNodes : ℕ) (expansion : Expansion S) :
    Prop where
  nodup : expansion.ids.Nodup
  length : expansion.ids.length ≤ max view.seedIds.length maxNodes
  seeds : ∀ id ∈ view.seedIds, id ∈ expansion.ids
  hits : ∀ hit ∈ expansion.hits, ∃ row ∈ view.relations, row.2 = hit.id ∧
    ∀ id ∈ ends row, id ∈ expansion.ids

section Bounds

variable {view : GraphView} {maxNodes hop : ℕ} {expansion : Expansion S}

omit [Score S] in
theorem Expansion.Bounded.meet (h : expansion.Bounded view maxNodes)
    (canonicalName : ℕ → Option String) (id : ℕ) :
    (expansion.meet maxNodes canonicalName id).Bounded view maxNodes := by
  unfold Expansion.meet
  split
  · next hmeet =>
      rw [Bool.and_eq_true, lookup_isNone, decide_eq_true_eq] at hmeet
      obtain ⟨hnew, hlength⟩ := hmeet
      split
      · next name _ =>
          refine ⟨nodup_ids_concat h.nodup hnew name, ?_, fun other hother =>
            (mem_ids_concat name).mpr (.inl (h.seeds other hother)), ?_⟩
          · change ((expansion.known ++ [(id, name)]).map (·.1)).length ≤ _
            rw [List.length_map, List.length_append, List.length_singleton]
            omega
          · intro hit hhit
            obtain ⟨row, hrow, hid, hends⟩ := h.hits hit hhit
            exact ⟨row, hrow, hid, fun other hother =>
              (mem_ids_concat name).mpr (.inl (hends other hother))⟩
      · exact h
  · exact h

theorem Expansion.Bounded.visit (h : expansion.Bounded view maxNodes)
    (canonicalName : ℕ → Option String) {row : GraphRelation × ℕ} (hrow : row ∈ view.relations) :
    (expansion.visit maxNodes canonicalName hop row).Bounded view maxNodes := by
  unfold Expansion.visit
  split
  · exact h
  · have hmarked : Expansion.Bounded view maxNodes
        { expansion with visitedEdges := expansion.visitedEdges ++ [row.2] } :=
      ⟨h.nodup, h.length, h.seeds, h.hits⟩
    have hmet := (hmarked.meet canonicalName row.1.subjectEntityId).meet canonicalName
      row.1.objectEntityId
    dsimp only
    split
    · next subject object hsubject hobject =>
        refine ⟨hmet.nodup, hmet.length, hmet.seeds, fun hit hhit => ?_⟩
        rcases List.mem_append.mp hhit with hold | hnew
        · exact hmet.hits hit hold
        · rw [List.mem_singleton.mp hnew]
          refine ⟨row, hrow, rfl, fun id hid => ?_⟩
          have hlookup : ∀ name, (Expansion.meet maxNodes canonicalName (Expansion.meet maxNodes
              canonicalName { expansion with visitedEdges := expansion.visitedEdges ++ [row.2] }
              row.1.subjectEntityId) row.1.objectEntityId).known.lookup id = some name →
              id ∈ (Expansion.meet maxNodes canonicalName (Expansion.meet maxNodes
              canonicalName { expansion with visitedEdges := expansion.visitedEdges ++ [row.2] }
              row.1.subjectEntityId) row.1.objectEntityId).ids := by
            intro name hname
            by_contra hnot
            rw [Option.isNone_iff_eq_none.mp (lookup_isNone.mpr hnot)] at hname
            exact absurd hname (by simp)
          simp only [ends, List.mem_cons, List.not_mem_nil, or_false] at hid
          rcases hid with rfl | rfl
          · exact hlookup _ hsubject
          · exact hlookup _ hobject
    · exact hmet

/-- Every hop keeps the bounds. -/
theorem Expansion.Bounded.expand (retriever : GraphRetriever) (remaining hop : ℕ)
    (frontier : List ℕ) (h : expansion.Bounded view retriever.maxNodes) :
    (Retrieval.expand retriever view remaining hop frontier expansion).Bounded view
      retriever.maxNodes := by
  induction remaining generalizing hop frontier expansion with
  | zero => exact h
  | succ remaining ih =>
      have hfold : ∀ rows : List (GraphRelation × ℕ), (∀ row ∈ rows, row ∈ view.relations) →
          ∀ start : Expansion S, start.Bounded view retriever.maxNodes →
            (rows.foldl (Expansion.visit retriever.maxNodes view.canonicalName hop)
              start).Bounded view retriever.maxNodes := by
        intro rows hrows
        induction rows with
        | nil => exact fun start hstart => hstart
        | cons row rest ihrows =>
            intro start hstart
            exact ihrows (fun other hother => hrows other (List.mem_cons_of_mem _ hother)) _
              (hstart.visit view.canonicalName (hrows row List.mem_cons_self))
      have hstart : Expansion.Bounded view retriever.maxNodes
          { expansion with nextFrontier := [] } := ⟨h.nodup, h.length, h.seeds, h.hits⟩
      have hvisited : (oneHop retriever view hop frontier expansion).Bounded view
          retriever.maxNodes :=
        hfold _ (fun row hrow => GraphView.mem_of_mem_visibleForEntities hrow) _ hstart
      rw [expand_succ]
      split
      · exact hvisited
      · exact ih _ _ hvisited

end Bounds

/-! ### What two hops find -/

namespace GraphView

variable {view : GraphView} {row : GraphRelation × ℕ} {ids ids' : List ℕ}

theorem touches_iff : touches ids row = true ↔ ∃ id ∈ ends row, id ∈ ids := by
  simp only [touches, ends, Bool.or_eq_true, List.contains_iff_mem, List.mem_cons,
    List.not_mem_nil, or_false, exists_eq_or_imp, exists_eq_left]

theorem touching_congr (h : ∀ id, id ∈ ids ↔ id ∈ ids') :
    view.touching ids = view.touching ids' := by
  unfold touching
  refine List.filter_congr fun row _ => Bool.eq_iff_iff.mpr ?_
  simp only [touches_iff, h]

/-- A relation is given by its id. -/
theorem Stored.eq_of_id (h : view.Stored) {a b : GraphRelation × ℕ} (ha : a ∈ view.relations)
    (hb : b ∈ view.relations) (heq : a.2 = b.2) : a = b := by
  have hnodup : (view.relations.map (·.2)).Nodup := by
    rw [List.Nodup, List.pairwise_map]
    exact h.ids.imp fun hlt => Nat.ne_of_lt hlt
  exact List.inj_on_of_nodup_map hnodup ha hb heq

theorem Stored.nodup (h : view.Stored) : view.relations.Nodup :=
  h.ids.imp fun hlt heq => absurd (congrArg Prod.snd heq) (Nat.ne_of_lt hlt)

/-- The relations of some entities, in the order of a query. -/
def ranked (view : GraphView) (ids : List ℕ) : List (GraphRelation × ℕ) :=
  (view.touching ids).insertionSort fun a b => b.1.confidence ≤ a.1.confidence

theorem visibleForEntities_eq (view : GraphView) (ids : List ℕ) (limit : ℕ) :
    view.visibleForEntities ids limit = (view.ranked ids).take limit := rfl

theorem ranked_perm (view : GraphView) (ids : List ℕ) :
    (view.ranked ids).Perm (view.touching ids) := List.perm_insertionSort _ _

theorem ranked_nil (view : GraphView) : view.ranked [] = [] := by
  have hnone : view.touching [] = [] :=
    List.filter_eq_nil_iff.mpr fun row _ => by simp [touches]
  rw [ranked, hnone]
  rfl

theorem mem_ranked : row ∈ view.ranked ids ↔ row ∈ view.relations ∧ touches ids row = true := by
  rw [(ranked_perm view ids).mem_iff, touching, List.mem_filter]

/-- A query ranks relations by confidence and id. -/
theorem Stored.pairwise_ranked (h : view.Stored) (ids : List ℕ) :
    (view.ranked ids).Pairwise Sooner := by
  have hsorted := Rows.pairwise_insertionSort_of_pairwise
    (r := fun a b : GraphRelation × ℕ => b.1.confidence ≤ a.1.confidence)
    (fun a b => le_total _ _) (fun a b c hab hbc => le_trans hbc hab)
    (h.ids.sublist (List.filter_sublist : (view.touching ids).Sublist view.relations))
  refine hsorted.imp fun {a b} hab => ?_
  rcases lt_or_eq_of_le hab.1 with hlt | heq
  · exact .inl hlt
  · exact .inr ⟨heq.symm, hab.2 heq.ge⟩

theorem Stored.nodup_ids_ranked (h : view.Stored) (ids : List ℕ) :
    ((view.ranked ids).map (·.2)).Nodup := by
  refine ((ranked_perm view ids).map _).nodup_iff.mpr ?_
  rw [List.Nodup, List.pairwise_map]
  exact (h.ids.sublist List.filter_sublist).imp fun hlt => Nat.ne_of_lt hlt

end GraphView

theorem Sooner.asymm {a b : GraphRelation × ℕ} (h : Sooner a b) : ¬Sooner b a := by
  rcases h with hlt | ⟨heq, hid⟩
  · rintro (hlt' | ⟨heq', -⟩)
    · exact absurd hlt (lt_asymm hlt')
    · exact absurd hlt (by rw [heq']; exact lt_irrefl _)
  · rintro (hlt' | ⟨-, hid'⟩)
    · exact absurd hlt' (by rw [heq]; exact lt_irrefl _)
    · omega

section Found

variable {retriever : GraphRetriever} {view : GraphView}

/-- What the second hop finds: the first relations of the neighbours, as many as the first hop has
left, without those of the seeds. -/
def found (retriever : GraphRetriever) (view : GraphView) : List (GraphRelation × ℕ) :=
  ((view.ranked view.neighbours).take
    (retriever.maxEdges - view.firstRelations.length)).filter fun row =>
      !touches view.seedIds row

/-- The entities that are touched are asked for, or there is room for them beside those. -/
def Roomy (retriever : GraphRetriever) (view : GraphView) : Prop :=
  (∀ id ∈ view.touched retriever.maxHops, id ∈ view.seedIds) ∨
    (view.seedIds.toFinset ∪ view.touched retriever.maxHops).card ≤ retriever.maxNodes

/-- The expansion before the first hop. -/
def atSeeds (view : GraphView) : Expansion S := ⟨view.seeds, [], [], []⟩

omit [Score S] in
theorem room_atSeeds (hstored : view.Stored) (hroomy : Roomy retriever view) :
    (atSeeds view : Expansion S).Room view retriever.maxNodes
      (view.seedIds.toFinset ∪ view.touched retriever.maxHops) := by
  refine ⟨hstored.seeds, hstored.seeds_named, fun id hid => ?_, ?_⟩
  · exact Finset.mem_union_left _ (List.mem_toFinset.mpr hid)
  · rcases hroomy with hseeds | hcard
    · refine .inr fun id hid => ?_
      rcases Finset.mem_union.mp hid with hmem | hmem
      · exact List.mem_toFinset.mp hmem
      · exact hseeds id hmem
    · exact .inl hcard

theorem mem_touched_of_reached {maxHops : ℕ} {entry : (GraphRelation × ℕ) × ℕ}
    (h : entry ∈ view.reached maxHops) {id : ℕ} (hid : id ∈ ends entry.1) :
    id ∈ view.touched maxHops :=
  List.mem_toFinset.mpr (List.mem_flatMap.mpr ⟨entry, h, hid⟩)

/-- **The first hop** finds the relations of the seeds. -/
theorem first_hop (hstored : view.Stored) (hroomy : Roomy retriever view)
    (hcount : view.firstRelations.length ≤ retriever.maxEdges) :
    (oneHop retriever view 1 view.seedIds (atSeeds view : Expansion S)).Room view
        retriever.maxNodes (view.seedIds.toFinset ∪ view.touched retriever.maxHops) ∧
      (atSeeds view : Expansion S).Grows view 1 (view.ranked view.seedIds)
        (oneHop retriever view 1 view.seedIds (atSeeds view)) := by
  have hrows : view.visibleForEntities view.seedIds (retriever.maxEdges - 0) =
      view.ranked view.seedIds := by
    rw [GraphView.visibleForEntities_eq]
    refine List.take_of_length_le ?_
    rw [(GraphView.ranked_perm view view.seedIds).length_eq]
    exact hcount
  have hends : ∀ row ∈ view.ranked view.seedIds, ∀ id ∈ ends row,
      id ∈ view.seedIds.toFinset ∪ view.touched retriever.maxHops ∧
        (view.canonicalName id).isSome = true := by
    intro row hrow id hid
    have hfirst : (row, 1) ∈ view.reached retriever.maxHops :=
      List.mem_append_left _
        (List.mem_map.mpr ⟨row, (GraphView.ranked_perm view view.seedIds).mem_iff.mp hrow, rfl⟩)
    exact ⟨Finset.mem_union_right _ (mem_touched_of_reached hfirst hid),
      hstored.named row (GraphView.mem_ranked.mp hrow).1 id hid⟩
  have hfold := (room_atSeeds (S := S) hstored hroomy).foldl_visit
    (hstored.nodup_ids_ranked view.seedIds) hends 1
  rw [show (view.ranked view.seedIds).filter (fun row =>
      !(atSeeds view : Expansion S).visitedEdges.contains row.2) = view.ranked view.seedIds from
    List.filter_eq_self.mpr fun row _ => rfl] at hfold
  have hhop : oneHop retriever view 1 view.seedIds (atSeeds view : Expansion S) =
      (view.ranked view.seedIds).foldl
        (Expansion.visit retriever.maxNodes view.canonicalName 1) (atSeeds view) := by
    rw [← hrows]
    rfl
  rw [hhop]
  exact hfold

/-- What the second hop visits. -/
theorem second_hop (hstored : view.Stored) (hhops : retriever.maxHops = 2) {first : Expansion S}
    (hfirst : first.Room view retriever.maxNodes
      (view.seedIds.toFinset ∪ view.touched retriever.maxHops))
    (hgrows : (atSeeds view : Expansion S).Grows view 1 (view.ranked view.seedIds) first) :
    (oneHop retriever view 2 first.nextFrontier first).hits =
      first.hits ++ (found retriever view).map (view.hitOf 2) := by
  have hmem : ∀ row ∈ view.relations,
      row.2 ∈ first.visitedEdges ↔ touches view.seedIds row = true := by
    intro row hrow
    rw [hgrows.visited, atSeeds, List.nil_append]
    constructor
    · intro h
      obtain ⟨other, hother, hid⟩ := List.mem_map.mp h
      obtain ⟨hother, htouches⟩ := GraphView.mem_ranked.mp hother
      rwa [← hstored.eq_of_id hother hrow hid]
    · intro h
      exact List.mem_map_of_mem (GraphView.mem_ranked.mpr ⟨hrow, h⟩)
  have hvisited : first.visitedEdges.length = view.firstRelations.length := by
    rw [hgrows.visited, atSeeds, List.nil_append, List.length_map,
      (GraphView.ranked_perm view view.seedIds).length_eq]
    rfl
  have hnext : ∀ id, id ∈ first.nextFrontier ↔ id ∈ view.neighbours := by
    intro id
    rw [hgrows.next, GraphView.neighbours, List.mem_filter, List.mem_flatMap]
    simp only [atSeeds, List.not_mem_nil, false_or, Bool.not_eq_true',
      ← Bool.not_eq_true, List.contains_iff_mem, and_comm (a := id ∉ _)]
    refine and_congr_left fun _ => exists_congr fun row => and_congr_left fun _ => ?_
    exact (GraphView.ranked_perm view view.seedIds).mem_iff
  have hrows : view.visibleForEntities first.nextFrontier
      (retriever.maxEdges - first.visitedEdges.length) =
        (view.ranked view.neighbours).take
          (retriever.maxEdges - view.firstRelations.length) := by
    rw [GraphView.visibleForEntities_eq, hvisited, GraphView.ranked,
      GraphView.touching_congr hnext]
    rfl
  have hsub : ∀ row ∈ (view.ranked view.neighbours).take
      (retriever.maxEdges - view.firstRelations.length),
        row ∈ view.relations ∧ touches view.neighbours row = true :=
    fun row hrow => GraphView.mem_ranked.mp (List.mem_of_mem_take hrow)
  have hends : ∀ row ∈ (view.ranked view.neighbours).take
      (retriever.maxEdges - view.firstRelations.length), ∀ id ∈ ends row,
        id ∈ view.seedIds.toFinset ∪ view.touched retriever.maxHops ∧
          (view.canonicalName id).isSome = true := by
    intro row hrow id hid
    obtain ⟨hrelation, htouches⟩ := hsub row hrow
    refine ⟨Finset.mem_union_right _ ?_, hstored.named row hrelation id hid⟩
    by_cases hseed : touches view.seedIds row = true
    · have hreached : (row, 1) ∈ view.reached retriever.maxHops :=
        List.mem_append_left _
          (List.mem_map.mpr ⟨row, List.mem_filter.mpr ⟨hrelation, hseed⟩, rfl⟩)
      exact mem_touched_of_reached hreached hid
    · have hreached : (row, 2) ∈ view.reached retriever.maxHops := by
        refine List.mem_append_right _ ?_
        rw [if_pos hhops]
        refine List.mem_map.mpr ⟨row, List.mem_filter.mpr
          ⟨List.mem_filter.mpr ⟨hrelation, htouches⟩, ?_⟩, rfl⟩
        rw [Bool.not_eq_true', Bool.eq_false_iff]
        exact hseed
      exact mem_touched_of_reached hreached hid
  have hstart : Expansion.Room view retriever.maxNodes
      (view.seedIds.toFinset ∪ view.touched retriever.maxHops)
      { first with nextFrontier := [] } :=
    ⟨hfirst.nodup, hfirst.named, hfirst.subset, hfirst.room⟩
  have hnodup : (((view.ranked view.neighbours).take
      (retriever.maxEdges - view.firstRelations.length)).map (·.2)).Nodup :=
    (hstored.nodup_ids_ranked view.neighbours).sublist ((List.take_sublist _ _).map _)
  have hfold := (hstart.foldl_visit hnodup hends 2).2.hits
  unfold oneHop
  rw [hrows, hfold, found]
  congr 2
  refine List.filter_congr fun row hrow => congrArg Bool.not (Bool.eq_iff_iff.mpr ?_)
  rw [List.contains_iff_mem]
  exact hmem row (hsub row hrow).1

/-- **What the expansion finds**, where there is room. -/
theorem expand_hits (hstored : view.Stored) (hroomy : Roomy retriever view)
    (hcount : view.firstRelations.length ≤ retriever.maxEdges) :
    (expand retriever view retriever.maxHops 1 view.seedIds (atSeeds view : Expansion S)).hits =
      (view.ranked view.seedIds).map (view.hitOf 1) ++
        if retriever.maxHops = 2 then (found retriever view).map (view.hitOf 2) else [] := by
  obtain ⟨hroom, hgrows⟩ := first_hop (S := S) hstored hroomy hcount
  have hhits : (oneHop retriever view 1 view.seedIds (atSeeds view : Expansion S)).hits =
      (view.ranked view.seedIds).map (view.hitOf 1) := hgrows.hits
  rcases retriever.maxHops_range with hone | htwo
  · rw [hone, if_neg (by decide : ¬(1 : ℕ) = 2), List.append_nil, ← hhits, expand_succ]
    split <;> rfl
  · have hsecond := second_hop hstored htwo hroom hgrows
    rw [htwo, if_pos rfl, ← hhits, ← hsecond, expand_succ]
    generalize oneHop retriever view 1 view.seedIds (atSeeds view : Expansion S) = first at *
    split
    · next hstop =>
        -- the second hop would ask for nothing
        have hrows : view.visibleForEntities first.nextFrontier
            (retriever.maxEdges - first.visitedEdges.length) = [] := by
          rw [Bool.or_eq_true, List.isEmpty_iff, decide_eq_true_eq] at hstop
          rw [GraphView.visibleForEntities_eq]
          rcases hstop with hnone | hfull
          · rw [hnone, GraphView.ranked_nil, List.take_nil]
          · rw [Nat.sub_eq_zero_of_le hfull, List.take_zero]
        rw [oneHop, hrows]
        rfl
    · rw [expand_succ]
      split <;> rfl

theorem found_sublist (retriever : GraphRetriever) (view : GraphView) :
    (found retriever view).Sublist
      ((view.ranked view.neighbours).filter fun row => !touches view.seedIds row) :=
  (List.take_sublist _ _).filter _

theorem second_perm (view : GraphView) :
    ((view.ranked view.neighbours).filter fun row => !touches view.seedIds row).Perm
      view.secondRelations := (GraphView.ranked_perm view view.neighbours).filter _

/-- A relation of the second hop is found if it is among the first that are asked for. -/
theorem mem_found (hstored : view.Stored) {row : GraphRelation × ℕ}
    (hrow : row ∈ view.secondRelations) :
    row ∈ found retriever view ↔ view.firstRelations.length +
      ((view.touching view.neighbours).filter fun other => Sooner other row).length <
        retriever.maxEdges := by
  obtain ⟨htouching, hnot⟩ := List.mem_filter.mp hrow
  have hranked : row ∈ view.ranked view.neighbours :=
    (GraphView.ranked_perm view view.neighbours).mem_iff.mpr htouching
  rw [found, List.mem_filter, and_iff_left hnot,
    Ranking.mem_take_iff (hstored.pairwise_ranked view.neighbours) (fun _ _ => Sooner.asymm),
    and_iff_right hranked,
    ((GraphView.ranked_perm view view.neighbours).filter fun other =>
      decide (Sooner other row)).length_eq]
  omega

/-- What the second hop finds is complete if each of its relations is found. -/
theorem found_perm_iff (hstored : view.Stored) :
    ((found retriever view).map (view.hitOf 2 : _ → RetrievalHit S)).Perm
        (view.secondRelations.map (view.hitOf 2)) ↔
      ∀ row ∈ view.secondRelations, row ∈ found retriever view := by
  have hsub : ∀ row ∈ found retriever view, row ∈ view.secondRelations := fun row hrow =>
    (second_perm view).mem_iff.mp ((found_sublist retriever view).subset hrow)
  have hrelation : ∀ row ∈ view.secondRelations, row ∈ view.relations := fun row hrow =>
    (List.mem_filter.mp (List.mem_filter.mp hrow).1).1
  have hsecond : view.secondRelations.Nodup := (hstored.nodup.filter _).filter _
  constructor
  · intro hperm row hrow
    obtain ⟨other, hother, heq⟩ :=
      List.mem_map.mp (hperm.mem_iff.mpr (List.mem_map_of_mem hrow))
    have hid : other.2 = row.2 := congrArg RetrievalHit.id heq
    rwa [← hstored.eq_of_id (hrelation _ (hsub other hother)) (hrelation row hrow) hid]
  · intro h
    refine List.Perm.map _ ((List.perm_ext_iff_of_nodup ?_ hsecond).mpr fun row =>
      ⟨hsub row, h row⟩)
    exact ((second_perm view).nodup_iff.mpr hsecond).sublist (found_sublist retriever view)

/-- All hits are returned if they are not too many. -/
theorem best_perm {topK : ℕ} {hits : List (RetrievalHit S)} (h : hits.length ≤ topK) :
    (best topK hits).Perm hits := by
  unfold best
  rw [List.take_of_length_le ((List.length_insertionSort _ _).trans_le h)]
  exact List.perm_insertionSort _ _

/-- No relation is lost: relations are asked for, there is room for the entities they touch, and
those of the second hop are among the first relations of the neighbours, as many as the first hop
has left. The query for these lists the relations of the first hop again. -/
structure Unhindered (retriever : GraphRetriever) (request : HybridRetrievalRequest)
    (view : GraphView) : Prop where
  asked : view.reached retriever.maxHops ≠ [] →
    request.sourceTypes = [] ∨ "graph_relation" ∈ request.sourceTypes
  roomy : Roomy retriever view
  ranked : retriever.maxHops = 2 → ∀ row ∈ view.secondRelations,
    view.firstRelations.length +
      ((view.touching view.neighbours).filter fun other => Sooner other row).length <
        retriever.maxEdges

/-- The expansion finds all relations only if there is room for the entities they touch. -/
theorem roomy_of_perm {hits : List (RetrievalHit S)}
    (hstored : view.Stored)
    (hhits : ∀ hit ∈ hits, hit ∈ (expand retriever view retriever.maxHops 1 view.seedIds
      (atSeeds view)).hits)
    (hperm : hits.Perm ((view.reached retriever.maxHops).map fun entry =>
      view.hitOf entry.2 entry.1)) : Roomy retriever view := by
  have hstart : (atSeeds view : Expansion S).Bounded view retriever.maxNodes :=
    ⟨hstored.seeds, le_max_left _ _, fun _ hid => hid,
      fun _ hhit => absurd hhit List.not_mem_nil⟩
  have hbounded := hstart.expand retriever retriever.maxHops 1 view.seedIds
  generalize expand retriever view retriever.maxHops 1 view.seedIds
    (atSeeds view : Expansion S) = final at hhits hbounded
  have hknown : ∀ id ∈ view.touched retriever.maxHops, id ∈ final.ids := by
    intro id hid
    obtain ⟨entry, hentry, hend⟩ := List.mem_flatMap.mp (List.mem_toFinset.mp hid)
    obtain ⟨row, hrow, hsame, hends⟩ := hbounded.hits _
      (hhits _ (hperm.mem_iff.mpr (List.mem_map_of_mem hentry)))
    have hrelation : entry.1 ∈ view.relations := by
      rcases List.mem_append.mp hentry with hfirst | hsecond
      · obtain ⟨other, hother, rfl⟩ := List.mem_map.mp hfirst
        exact (List.mem_filter.mp hother).1
      · split at hsecond
        · obtain ⟨other, hother, rfl⟩ := List.mem_map.mp hsecond
          exact (List.mem_filter.mp (List.mem_filter.mp hother).1).1
        · exact absurd hsecond List.not_mem_nil
    have heq : row = entry.1 := hstored.eq_of_id hrow hrelation hsame
    rw [← heq] at hend
    exact hends id hend
  by_cases hall : ∀ id ∈ view.touched retriever.maxHops, id ∈ view.seedIds
  · exact .inl hall
  · right
    obtain ⟨id, hid, hnot⟩ : ∃ id ∈ view.touched retriever.maxHops, id ∉ view.seedIds := by
      by_contra hnone
      exact hall fun id hid => by_contra fun hnot => hnone ⟨id, hid, hnot⟩
    have hsubset : view.seedIds.toFinset ∪ view.touched retriever.maxHops ⊆
        final.ids.toFinset := by
      intro other hother
      rw [List.mem_toFinset]
      rcases Finset.mem_union.mp hother with hseed | htouched
      · exact hbounded.seeds other (List.mem_toFinset.mp hseed)
      · exact hknown other htouched
    have hcard := Finset.card_le_card hsubset
    rw [List.toFinset_card_of_nodup hbounded.nodup] at hcard
    have hmore : view.seedIds.length <
        (view.seedIds.toFinset ∪ view.touched retriever.maxHops).card := by
      rw [← List.toFinset_card_of_nodup hstored.seeds]
      refine Finset.card_lt_card (Finset.ssubset_iff_subset_ne.mpr
        ⟨Finset.subset_union_left, fun heq => hnot ?_⟩)
      rw [← List.mem_toFinset, heq]
      exact Finset.mem_union_right _ hid
    have hlength := hbounded.length
    omega

/-- Each relation is reached once. -/
theorem nodup_reached (hstored : view.Stored) (maxHops : ℕ) :
    ((view.reached maxHops).map (·.1)).Nodup := by
  have hfirst : view.firstRelations.Nodup := hstored.nodup.filter _
  have hsecond : view.secondRelations.Nodup := (hstored.nodup.filter _).filter _
  rw [GraphView.reached, List.map_append, List.map_map]
  split
  · rw [List.map_map]
    refine List.nodup_append.mpr ⟨by simpa [Function.comp_def] using hfirst,
      by simpa [Function.comp_def] using hsecond, ?_⟩
    rintro row hrow other hother rfl
    simp only [Function.comp_def, List.map_id'] at hrow hother
    have hnot := (List.mem_filter.mp hother).2
    rw [(List.mem_filter.mp hrow).2] at hnot
    exact absurd hnot (by decide)
  · simpa [Function.comp_def] using hfirst

/-- The hits of the relations that are reached. -/
theorem map_reached (view : GraphView) (maxHops : ℕ) :
    ((view.reached maxHops).map fun entry => (view.hitOf entry.2 entry.1 : RetrievalHit S)) =
      view.firstRelations.map (view.hitOf 1) ++
        if maxHops = 2 then view.secondRelations.map (view.hitOf 2) else [] := by
  rw [GraphView.reached, List.map_append, List.map_map]
  split
  · rw [List.map_map]
    rfl
  · rfl

/-- What is returned where relations are asked for and there is room. -/
theorem retrieve_perm (hstored : view.Stored) (hroomy : Roomy retriever view)
    {request : HybridRetrievalRequest}
    (hasked : request.sourceTypes = [] ∨ "graph_relation" ∈ request.sourceTypes)
    (hedges : (view.reached retriever.maxHops).length ≤ retriever.maxEdges)
    (htopK : (view.reached retriever.maxHops).length ≤ request.topK) :
    (graphRetrieve retriever request view : List (RetrievalHit S)).Perm
      (view.firstRelations.map (view.hitOf 1) ++
        if retriever.maxHops = 2 then (found retriever view).map (view.hitOf 2) else []) := by
  have hfirst : view.firstRelations.length ≤ (view.reached retriever.maxHops).length := by
    rw [GraphView.reached, List.length_append, List.length_map]
    exact Nat.le_add_right _ _
  have hhits := expand_hits (S := S) hstored hroomy (hfirst.trans hedges)
  have hlength : (expand retriever view retriever.maxHops 1 view.seedIds
      (atSeeds view : Expansion S)).hits.length ≤ request.topK := by
    refine le_trans ?_ htopK
    rw [hhits, GraphView.reached, List.length_append, List.length_append, List.length_map,
      List.length_map, (GraphView.ranked_perm view view.seedIds).length_eq]
    refine Nat.add_le_add_left ?_ _
    split
    · rw [List.length_map, List.length_map, ← (second_perm view).length_eq]
      exact (found_sublist retriever view).length_le
    · exact le_rfl
  have hretrieve : (graphRetrieve retriever request view : List (RetrievalHit S)) =
      best request.topK (expand retriever view retriever.maxHops 1 view.seedIds
        (atSeeds view)).hits := by
    rw [graphRetrieve, if_neg]
    · rfl
    · rcases hasked with hnone | hmem
      · simp [hnone]
      · simp [hmem]
  rw [hretrieve]
  refine (best_perm hlength).trans ?_
  rw [hhits]
  exact ((GraphView.ranked_perm view view.seedIds).map _).append_right _

/-- The route returns all relations within its limits if nothing is in its way. -/
theorem graphRetrieve_perm_iff (retriever : GraphRetriever) (hstored : view.Stored)
    {request : HybridRetrievalRequest}
    (hedges : (view.reached retriever.maxHops).length ≤ retriever.maxEdges)
    (htopK : (view.reached retriever.maxHops).length ≤ request.topK) :
    (graphRetrieve retriever request view : List (RetrievalHit S)).Perm
        ((view.reached retriever.maxHops).map fun entry => view.hitOf entry.2 entry.1) ↔
      Unhindered retriever request view := by
  by_cases hasked : request.sourceTypes = [] ∨ "graph_relation" ∈ request.sourceTypes
  · constructor
    · intro hperm
      have hroomy : Roomy retriever view := by
        refine roomy_of_perm hstored (fun hit hhit => ?_) hperm
        unfold graphRetrieve at hhit
        split at hhit
        · exact absurd hhit List.not_mem_nil
        · exact (List.mem_insertionSort _).mp (List.mem_of_mem_take hhit)
      refine ⟨fun _ => hasked, hroomy, fun htwo row hrow => (mem_found hstored hrow).mp ?_⟩
      have hfound := (retrieve_perm hstored hroomy hasked hedges htopK).symm.trans hperm
      rw [map_reached, if_pos htwo, if_pos htwo, List.perm_append_left_iff] at hfound
      exact (found_perm_iff hstored).mp hfound row hrow
    · rintro ⟨-, hroomy, hranked⟩
      refine (retrieve_perm hstored hroomy hasked hedges htopK).trans ?_
      rw [map_reached, List.perm_append_left_iff]
      split
      · next htwo =>
          exact (found_perm_iff hstored).mpr fun row hrow =>
            (mem_found hstored hrow).mpr (hranked htwo row hrow)
      · exact List.Perm.refl _
  · have hnone : (graphRetrieve retriever request view : List (RetrievalHit S)) = [] := by
      rw [graphRetrieve, if_pos]
      rw [not_or] at hasked
      simp [hasked]
    rw [hnone, List.nil_perm, List.map_eq_nil_iff]
    constructor
    · intro hreached
      refine ⟨fun hne => absurd hreached hne, .inl ?_, fun htwo row hrow => ?_⟩
      · intro id hid
        rw [GraphView.touched, hreached] at hid
        exact absurd hid (by simp)
      · rw [GraphView.reached, if_pos htwo, List.append_eq_nil_iff, List.map_eq_nil_iff,
          List.map_eq_nil_iff] at hreached
        rw [hreached.2] at hrow
        exact absurd hrow List.not_mem_nil
    · rintro ⟨hshown, -, -⟩
      by_contra hne
      exact hasked (hshown hne)

end Found

/-! ### Stored graphs -/

omit [Score S] in
/-- What the graph route reads of a database in which relations connect stored entities. -/
theorem stored_graphView (db : ContextDatabase S) (text : TextFunctions)
    (request : HybridRetrievalRequest)
    (hlinked : ∀ row ∈ db.relations,
      row.subjectEntityId < db.entities.length ∧ row.objectEntityId < db.entities.length) :
    (db.graphView text request).Stored where
  ids := List.pairwise_map.mp (Rows.pairwise_idsWhere db.relations _)
  named := by
    rintro ⟨row, id⟩ hrow other hother
    obtain ⟨hsubject, hobject⟩ :=
      hlinked row (List.mem_of_getElem? (Rows.mem_select.mp hrow).1)
    have hlt : other < db.entities.length := by
      simp only [ends, List.mem_cons, List.not_mem_nil, or_false] at hother
      rcases hother with rfl | rfl
      · exact hsubject
      · exact hobject
    change (db.entities[other]?.map (·.canonicalName)).isSome = true
    rw [List.getElem?_eq_getElem hlt]
    rfl
  seeds := by
    change ((db.findVisible text request.projectId request.names.eraseDups).map (·.1)).Nodup
    rw [ContextDatabase.findVisible, List.map_map]
    exact (Rows.pairwise_idsWhere db.entities _).imp fun hlt => Nat.ne_of_lt hlt
  seeds_named := by
    rintro ⟨id, name⟩ hentry
    obtain ⟨⟨row, other⟩, hrow, heq⟩ := List.mem_map.mp hentry
    obtain ⟨rfl, rfl⟩ := Prod.mk.inj heq
    change db.entities[other]?.map (·.canonicalName) = some row.canonicalName
    rw [(Rows.mem_select.mp hrow).1]
    rfl

/-- **The graph route is complete** within its limits exactly if nothing is in its way: it returns
the visible relations within the hops, each once and with the hop at which it is first reached. -/
theorem complete_iff (retriever : GraphRetriever) (text : TextFunctions) (db : ContextDatabase S)
    (request : HybridRetrievalRequest)
    (hlinked : ∀ row ∈ db.relations,
      row.subjectEntityId < db.entities.length ∧ row.objectEntityId < db.entities.length)
    (hedges : ((db.graphView text request).reached retriever.maxHops).length ≤
      retriever.maxEdges)
    (htopK : ((db.graphView text request).reached retriever.maxHops).length ≤ request.topK) :
    (graphRetrieve retriever request (db.graphView text request) :
        List (RetrievalHit S)).Perm
          (((db.graphView text request).reached retriever.maxHops).map fun entry =>
            (db.graphView text request).hitOf entry.2 entry.1) ↔
      Unhindered retriever request (db.graphView text request) :=
  graphRetrieve_perm_iff retriever (stored_graphView db text request hlinked) hedges htopK

/-! ### Instances -/

/-- A relation that the first chapter tells. -/
def toldRelation (subjectId objectId : ℕ) (confidence : ℚ) : GraphRelation where
  projectId := 0
  subjectEntityId := subjectId
  predicate := .relatedTo
  objectEntityId := objectId
  sourceChapterId := some 0
  sourceVersionId := some 0
  confidence := confidence
  validFromChapter := 1
  validToChapter := none
  status := .accepted
  evidence := "They meet"
  evidenceHash := ""

/-- A character of the graph. -/
def personEntity (name : String) : GraphEntity :=
  ⟨0, .character, name, name, "", none, none, none, .accepted, 1⟩

/-- Ann is related to Bob, and less certainly Bob to Cat. -/
def chain : ContextDatabase ℚ where
  projects := [⟨.generating⟩]
  chapters := [⟨0, 1, .accepted, 1, "One", "Text", "Summary", some 90, none, some 0⟩]
  versions := []
  facts := []
  evaluations := []
  revisions := []
  comparisons := []
  runs := []
  characters := []
  descriptions := fun _ => ""
  locations := []
  rules := []
  foreshadowings := []
  factDetails := fun _ => ⟨"", 0, "", 1, none⟩
  outlineNames := fun _ => []
  chunks := []
  entities := [personEntity "Ann", personEntity "Bob", personEntity "Cat"]
  relations := [toldRelation 0 1 (9 / 10), toldRelation 1 2 (4 / 5)]
  indexRecords := fun _ => none
  plans := fun _ => ⟨"Sea", "Drama", "A voyage", [], none, none, none, none, "en", none, none⟩
  chapterPlans := fun _ => none
  profiles := fun _ => ⟨"lead", [], [], "terse"⟩
  locationRules := fun _ => []
  ruleCategories := fun _ => ""
  importances := fun _ => ""
  embeddings := fun _ => []
  chunks_dated := by simp
  relations_dated := by decide

/-- What the second chapter asks about Ann. -/
def aboutAnn : HybridRetrievalRequest :=
  { secondChapter with projectId := 0, characterNames := ["Ann"] }

/-- The two relations fit into two edges. But the query for those of Bob lists the first one
again, and the second one is lost. -/
theorem chain_cut :
    let retriever : GraphRetriever := ⟨2, 50, 2, .inr rfl⟩
    let view := chain.graphView russian aboutAnn
    (view.reached 2).length ≤ retriever.maxEdges ∧ (view.reached 2).length ≤ aboutAnn.topK ∧
      (view.touched 2).card ≤ retriever.maxNodes ∧
      ¬(graphRetrieve retriever aboutAnn view : List (RetrievalHit ℚ)).Perm
        ((view.reached 2).map fun entry => view.hitOf entry.2 entry.1) := by
  refine ⟨by decide +kernel, by decide +kernel, by decide +kernel, fun hperm => ?_⟩
  have hlength := hperm.length_eq
  rw [List.length_map] at hlength
  exact absurd hlength (by decide +kernel)

/-- With room for one more edge both are returned. -/
theorem chain_complete :
    (graphRetrieve ⟨2, 50, 3, .inr rfl⟩ aboutAnn (chain.graphView russian aboutAnn) :
        List (RetrievalHit ℚ)).Perm
      (((chain.graphView russian aboutAnn).reached 2).map fun entry =>
        (chain.graphView russian aboutAnn).hitOf entry.2 entry.1) :=
  (complete_iff ⟨2, 50, 3, .inr rfl⟩ russian chain aboutAnn (by decide) (by decide +kernel)
    (by decide +kernel)).mpr
    ⟨fun _ => .inl rfl, .inr (by decide +kernel), fun _ => by decide +kernel⟩

end StoryForge.Retrieval
