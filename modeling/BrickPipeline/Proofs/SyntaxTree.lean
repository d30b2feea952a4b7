import BrickPipeline.Expr.Traversal
import Mathlib.Data.List.Nodup

/-!
The syntax of pipelines as a tree. Its nodes are steps and config values, and a site says where a
node stands, turn by turn. A walk over a pipeline comes to the steps of its tree, to each of them at
one site.
-/
namespace BrickPipeline

theorem flatMap_eq_zipIdx {α β : Type} (f : α → List β) (xs : List α) :
    xs.flatMap f = xs.zipIdx.flatMap fun numbered => f numbered.1 := by
  conv_lhs => rw [← List.zipIdx_map_fst 0 xs, List.flatMap_map]

/-- A step or a config value, as a part of a pipeline. -/
inductive Node where
  | ofStep (step : Step)
  | ofValue (value : Expr)

/-- The way from a node to a part of it. -/
inductive Turn where
  | argument (index : Nat) (name : String)
  | inner
  | item (index : Nat)
  | field (index : Nat)
  | step (index : Nat)
deriving DecidableEq

namespace Turn

/-- The number of the part that is turned to. -/
def index : Turn → Nat
  | argument index _ | item index | field index | step index => index
  | inner => 0

/-- What shows of a turn in the places of steps. -/
def text : Turn → String
  | argument _ name => ".config." ++ name
  | step index => "[" ++ toString index ++ "]"
  | _ => ""

end Turn

/-- Where a node stands in the tree below another. -/
abbrev Site := List Turn

namespace Site

/-- What shows of a site in the place of a step. -/
def text (site : Site) : String := String.join (site.map Turn.text)

@[simp] theorem text_nil : text [] = "" := rfl

@[simp] theorem text_cons (turn : Turn) (rest : Site) :
    text (turn :: rest) = turn.text ++ text rest :=
  String.join_cons

end Site

namespace Node

/-- The parts of a node, in order: the arguments of a step, the steps of a sub-pipeline, and what
other values are made of. -/
def parts : Node → List (Turn × Node)
  | ofStep step =>
    step.config.zipIdx.map fun (entry, index) => (.argument index entry.1, ofValue entry.2)
  | ofValue (.pipeline steps _) =>
    steps.zipIdx.map fun (step, index) => (.step index, ofStep step)
  | ofValue (.defer inner) => [(.inner, ofValue inner)]
  | ofValue (.array items) => items.zipIdx.map fun (item, index) => (.item index, ofValue item)
  | ofValue (.object entries) =>
    entries.zipIdx.map fun (entry, index) => (.field index, ofValue entry.2)
  | ofValue _ => []

/-- The node at a site, if there is one. -/
def at? (node : Node) : Site → Option Node
  | [] => some node
  | turn :: rest => (node.parts.lookup turn).bind (·.at? rest)

/-- The node itself, if it is a step. -/
def own : Node → List Step
  | ofStep step => [step]
  | ofValue _ => []

theorem index_parts (node : Node) :
    node.parts.map (·.1.index) = List.range node.parts.length := by
  have hzip {α : Type} (xs : List α) : xs.zipIdx.map Prod.snd = List.range xs.length := by
    rw [List.zipIdx_map_snd, List.range_eq_range']
  unfold parts
  split <;> simp [Turn.index, Function.comp_def, ← hzip]

/-- There is one part in every direction. -/
theorem nodup_parts (node : Node) : (node.parts.map Prod.fst).Nodup := by
  refine List.Nodup.of_map Turn.index ?_
  rw [List.map_map]
  exact node.index_parts ▸ List.nodup_range

theorem sizeOf_lt_of_mem_parts {node part : Node} {turn : Turn} (h : (turn, part) ∈ node.parts) :
    sizeOf part < sizeOf node := by
  have hentry {entries : List (String × Expr)} {entry : String × Expr} (hm : entry ∈ entries) :
      sizeOf entry.2 < sizeOf entries := by
    have hlt := List.sizeOf_lt_of_mem hm
    obtain ⟨name, value⟩ := entry
    simp only [Prod.mk.sizeOf_spec] at hlt ⊢
    omega
  unfold parts at h
  split at h
  · rename_i step
    obtain ⟨numbered, hm, he⟩ := List.mem_map.1 h
    cases he
    have hlt := hentry (List.fst_mem_of_mem_zipIdx hm)
    cases step
    simp only [Step.config, ofStep.sizeOf_spec, ofValue.sizeOf_spec, Step.mk.sizeOf_spec] at hlt ⊢
    omega
  · obtain ⟨numbered, hm, he⟩ := List.mem_map.1 h
    cases he
    have hlt := List.sizeOf_lt_of_mem (List.fst_mem_of_mem_zipIdx hm)
    simp only [ofStep.sizeOf_spec, ofValue.sizeOf_spec, Expr.pipeline.sizeOf_spec]
    omega
  · cases List.mem_singleton.1 h
    simp
  · obtain ⟨numbered, hm, he⟩ := List.mem_map.1 h
    cases he
    have hlt := List.sizeOf_lt_of_mem (List.fst_mem_of_mem_zipIdx hm)
    simp only [ofValue.sizeOf_spec, Expr.array.sizeOf_spec]
    omega
  · obtain ⟨numbered, hm, he⟩ := List.mem_map.1 h
    cases he
    have hlt := hentry (List.fst_mem_of_mem_zipIdx hm)
    simp only [ofValue.sizeOf_spec, Expr.object.sizeOf_spec]
    omega
  · cases h

/-- All steps in the tree below a node, each with its site and before the steps in it. -/
def occurrences (node : Node) : List (Site × Step) :=
  node.own.map ([], ·) ++ node.parts.attach.flatMap fun ⟨(turn, part), _⟩ =>
    part.occurrences.map fun (site, step) => (turn :: site, step)
termination_by sizeOf node
decreasing_by exact sizeOf_lt_of_mem_parts ‹_›

theorem occurrences_eq (node : Node) :
    node.occurrences = node.own.map ([], ·) ++ node.parts.flatMap fun (turn, part) =>
      part.occurrences.map fun (site, step) => (turn :: site, step) := by
  rw [occurrences]
  simp only [List.flatMap_subtype, List.unattach_attach]

/-- What holds of a node as soon as it holds of its parts holds of all nodes. -/
theorem induction_on {motive : Node → Prop} (node : Node)
    (h : ∀ node, (∀ turn part, (turn, part) ∈ node.parts → motive part) → motive node) :
    motive node :=
  occurrences.induct motive h node

theorem mem_occurrences_nil {node : Node} {step : Step} :
    ([], step) ∈ node.occurrences ↔ node = ofStep step := by
  rw [occurrences_eq]
  cases node <;> simp [own, eq_comm]

theorem mem_occurrences_cons {node : Node} {turn : Turn} {rest : Site} {step : Step} :
    (turn :: rest, step) ∈ node.occurrences ↔
      ∃ part, (turn, part) ∈ node.parts ∧ (rest, step) ∈ part.occurrences := by
  rw [occurrences_eq]
  simp

theorem lookup_parts_iff {node part : Node} {turn : Turn} :
    node.parts.lookup turn = some part ↔ (turn, part) ∈ node.parts := by
  rw [List.lookup_eq_some_iff]
  constructor
  · rintro ⟨before, behind, h, -⟩
    rw [h]
    exact List.mem_append_right _ List.mem_cons_self
  · intro h
    obtain ⟨before, behind, h⟩ := List.append_of_mem h
    refine ⟨before, behind, h, fun other hm => bne_iff_ne.2 ?_⟩
    rintro rfl
    have hnodup := node.nodup_parts
    rw [h, List.map_append, List.map_cons, List.nodup_middle] at hnodup
    have hmem : other.1 ∈ before.map Prod.fst := List.mem_map_of_mem hm
    exact (List.nodup_cons.1 hnodup).1 (List.mem_append_left _ hmem)

theorem at?_cons {node found : Node} {turn : Turn} {rest : Site} :
    node.at? (turn :: rest) = some found ↔
      ∃ part, (turn, part) ∈ node.parts ∧ part.at? rest = some found := by
  rw [at?, Option.bind_eq_some_iff]
  simp only [lookup_parts_iff]

/-- Steps occur exactly at the sites at which they stand. -/
theorem mem_occurrences_iff {node : Node} {site : Site} {step : Step} :
    (site, step) ∈ node.occurrences ↔ node.at? site = some (ofStep step) := by
  induction site generalizing node with
  | nil => simp [mem_occurrences_nil, at?]
  | cons turn rest ih => simp only [mem_occurrences_cons, at?_cons, ih]

/-- No two of them occur at one site. -/
theorem nodup_sites (node : Node) : (node.occurrences.map Prod.fst).Nodup := by
  induction node using induction_on with
  | h node ih =>
    have hsites : node.occurrences.map Prod.fst = node.own.map (fun _ => []) ++
        node.parts.flatMap fun (turn, part) => (part.occurrences.map Prod.fst).map (turn :: ·) := by
      rw [occurrences_eq]
      simp [List.map_flatMap, Function.comp_def]
    have hparts : (node.parts.flatMap fun (turn, part) =>
        (part.occurrences.map Prod.fst).map (turn :: ·)).Nodup := by
      refine List.nodup_flatMap.2 ⟨fun (turn, part) hm => ?_, ?_⟩
      · exact (ih turn part hm).map (List.cons_injective)
      · refine (List.pairwise_map.1 node.nodup_parts).imp ?_
        rintro ⟨turn, part⟩ ⟨other, last⟩ hne site hfirst hsecond
        obtain ⟨rest, -, rfl⟩ := List.mem_map.1 hfirst
        obtain ⟨_, -, he⟩ := List.mem_map.1 hsecond
        exact hne (List.cons.inj he).1.symm
    rw [hsites]
    cases node with
    | ofValue _ => exact hparts
    | ofStep step =>
      refine List.nodup_cons.2 ⟨fun hm => ?_, hparts⟩
      obtain ⟨_, -, hm⟩ := List.mem_flatMap.1 hm
      obtain ⟨_, -, he⟩ := List.mem_map.1 hm
      cases he

end Node

/-! Steps in the sub-pipelines of the arguments of a step, and those in theirs. -/

namespace Expr

theorem subPipelinesOfItems_eq_flatMap (items : List Expr) :
    subPipelinesOfItems items = items.flatMap subPipelines := by
  induction items with
  | nil => rfl
  | cons item rest ih => rw [subPipelinesOfItems, ih, List.flatMap_cons]

theorem subPipelinesOfEntries_eq_flatMap (entries : List (String × Expr)) :
    subPipelinesOfEntries entries = entries.flatMap fun entry => entry.2.subPipelines := by
  induction entries with
  | nil => rfl
  | cons entry rest ih => rw [subPipelinesOfEntries, ih, List.flatMap_cons]

end Expr

/-- The steps that a node is or has next below it. -/
def Node.heads : Node → List Step
  | ofStep step => [step]
  | ofValue value => value.subPipelines.flatMap (·.steps)

theorem Node.heads_ofValue (value : Expr) : (ofValue value).heads =
    (ofValue value).parts.flatMap fun entry => entry.2.heads := by
  cases value with
  | pipeline steps environment =>
    simp only [heads, parts, Expr.subPipelines, List.flatMap_singleton, List.flatMap_map]
    exact (List.flatMap_singleton' steps).symm.trans (flatMap_eq_zipIdx ([·]) steps)
  | defer inner => simp [heads, parts, Expr.subPipelines]
  | array items =>
    simp only [heads, parts, Expr.subPipelines, Expr.subPipelinesOfItems_eq_flatMap,
      List.flatMap_map, List.flatMap_assoc]
    rw [flatMap_eq_zipIdx]
  | object entries =>
    simp only [heads, parts, Expr.subPipelines, Expr.subPipelinesOfEntries_eq_flatMap,
      List.flatMap_map, List.flatMap_assoc]
    rw [flatMap_eq_zipIdx]
  | _ => rfl

/-- What holds of a step as soon as it holds of the steps of all sub-pipelines in its arguments
holds of all steps. -/
theorem Step.induction_on {motive : Step → Prop} (step : Step)
    (h : ∀ step, (∀ entry ∈ step.config, ∀ sub ∈ entry.2.subPipelines, ∀ inner ∈ sub.steps,
      motive inner) → motive step) : motive step := by
  have hnode (node : Node) : ∀ head ∈ node.heads, motive head := by
    induction node using Node.induction_on with
    | h node ih =>
      cases node with
      | ofStep step =>
        refine List.forall_mem_singleton.2 (h step fun entry hentry sub hs inner hm => ?_)
        obtain ⟨index, hi⟩ := List.getElem?_of_mem hentry
        have hpart : (.argument index entry.1, .ofValue entry.2) ∈ (Node.ofStep step).parts :=
          List.mem_map.2 ⟨(entry, index), List.mem_zipIdx_iff_getElem?.2 hi, rfl⟩
        exact ih _ _ hpart inner (List.mem_flatMap.2 ⟨sub, hs, hm⟩)
      | ofValue value =>
        rw [Node.heads_ofValue, List.forall_mem_flatMap]
        exact fun (turn, part) hm => ih turn part hm
  exact hnode (.ofStep step) step List.mem_cons_self

end BrickPipeline
