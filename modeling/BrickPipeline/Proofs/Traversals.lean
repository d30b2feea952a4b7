import BrickPipeline.Proofs.Diagnostics
import BrickPipeline.Proofs.SyntaxTree

/-!
Traversals of pipelines. The walk, the two tests and the collection of what is used are recursions
of their own over the syntax; all of them take up the steps in the tree of a pipeline, in one order
and each at its site.
-/
namespace BrickPipeline

variable {σ : Type}

/-! The walk comes to the steps of the tree. -/

namespace Pipeline

theorem walk_eq_flatMap (scope : String) (steps : List Step) (index : Nat) :
    walk scope index steps =
      (steps.zipIdx index).flatMap fun (step, index) => walkStep (stepPlace scope index) step := by
  induction steps generalizing index with
  | nil => rfl
  | cons step rest ih => rw [walk, ih, List.zipIdx_cons, List.flatMap_cons]

theorem walkItems_eq_flatMap (scope : String) (items : List Expr) :
    walkItems scope items = items.flatMap (walkValue scope) := by
  induction items with
  | nil => rfl
  | cons item rest ih => rw [walkItems, ih, List.flatMap_cons]

theorem walkFields_eq_flatMap (scope : String) (entries : List (String × Expr)) :
    walkFields scope entries = entries.flatMap fun entry => walkValue scope entry.2 := by
  induction entries with
  | nil => rfl
  | cons entry rest ih => rw [walkFields, ih, List.flatMap_cons]

theorem walkEntries_eq_flatMap (place : String) (entries : List (String × Expr)) :
    walkEntries place entries =
      entries.flatMap fun entry => walkValue (argumentPlace place entry.1) entry.2 := by
  induction entries with
  | nil => rfl
  | cons entry rest ih => rw [walkEntries, ih, List.flatMap_cons]

theorem walkStep_eq (place : String) (step : Step) :
    walkStep place step = (place, step) :: walkEntries place step.config := by
  cases step
  rfl

mutual

/-- The walk over a value is that over its sub-pipelines, one after the other, with one scope. -/
theorem walkValue_eq_flatMap (scope : String) : ∀ value : Expr,
    walkValue scope value = value.subPipelines.flatMap fun sub => walk scope 0 sub.steps
  | .pipeline steps environment => by
    rw [walkValue, Expr.subPipelines, List.flatMap_singleton]
  | .defer inner => walkValue_eq_flatMap scope inner
  | .array items => walkItems_eq_flatMap_sub scope items
  | .object entries => walkFields_eq_flatMap_sub scope entries
  | .literal _ | .template .. | .var _ => rfl

theorem walkItems_eq_flatMap_sub (scope : String) : ∀ items : List Expr, walkItems scope items =
    (Expr.subPipelinesOfItems items).flatMap fun sub => walk scope 0 sub.steps
  | [] => rfl
  | item :: rest => by
    rw [walkItems, Expr.subPipelinesOfItems, List.flatMap_append, walkValue_eq_flatMap scope item,
      walkItems_eq_flatMap_sub scope rest]

theorem walkFields_eq_flatMap_sub (scope : String) : ∀ entries : List (String × Expr),
    walkFields scope entries =
      (Expr.subPipelinesOfEntries entries).flatMap fun sub => walk scope 0 sub.steps
  | [] => rfl
  | (_, value) :: rest => by
    rw [walkFields, Expr.subPipelinesOfEntries, List.flatMap_append,
      walkValue_eq_flatMap scope value, walkFields_eq_flatMap_sub scope rest]

end

theorem stepPlace_eq (scope : String) (index : Nat) :
    stepPlace scope index = scope ++ (Turn.step index).text := by
  show scope ++ "[" ++ toString index ++ "]" = scope ++ ("[" ++ toString index ++ "]")
  simp only [String.append_assoc]

theorem argumentPlace_eq (place name : String) (index : Nat) :
    argumentPlace place name = place ++ (Turn.argument index name).text := by
  show place ++ ".config." ++ name = place ++ (".config." ++ name)
  rw [String.append_assoc]

end Pipeline

namespace Node

/-- All steps in the tree below a node, with places that start with that of the node. -/
def walk (place : String) : Node → List (String × Step)
  | ofStep step => Pipeline.walkStep place step
  | ofValue value => Pipeline.walkValue place value

theorem walk_eq (place : String) (node : Node) :
    node.walk place = node.own.map (place, ·) ++
      node.parts.flatMap fun (turn, part) => part.walk (place ++ turn.text) := by
  cases node with
  | ofStep step =>
    cases step
    simp only [walk, Pipeline.walkStep, own, parts, List.map_cons, List.map_nil,
      List.singleton_append, List.flatMap_map, ← Pipeline.argumentPlace_eq, Step.config,
      Pipeline.walkEntries_eq_flatMap]
    rw [flatMap_eq_zipIdx]
  | ofValue value =>
    cases value with
    | pipeline steps environment =>
      simp only [walk, Pipeline.walkValue, own, parts, List.map_nil, List.nil_append,
        List.flatMap_map, ← Pipeline.stepPlace_eq, Pipeline.walk_eq_flatMap]
    | defer inner => simp [walk, Pipeline.walkValue, own, parts, Turn.text]
    | array items =>
      simp only [walk, Pipeline.walkValue, own, parts, List.map_nil, List.nil_append,
        List.flatMap_map, Turn.text, String.append_empty, Pipeline.walkItems_eq_flatMap]
      rw [flatMap_eq_zipIdx]
    | object entries =>
      simp only [walk, Pipeline.walkValue, own, parts, List.map_nil, List.nil_append,
        List.flatMap_map, Turn.text, String.append_empty, Pipeline.walkFields_eq_flatMap]
      rw [flatMap_eq_zipIdx]
    | _ => rfl

/-- The walk comes to every occurrence of a step in the tree, and tells its site by a text. -/
theorem walk_eq_map (place : String) (node : Node) :
    node.walk place = node.occurrences.map fun (site, step) => (place ++ site.text, step) := by
  induction node using induction_on generalizing place with
  | h node ih =>
    have hparts : (node.parts.flatMap fun (turn, part) => part.walk (place ++ turn.text)) =
        node.parts.flatMap fun (turn, part) => part.occurrences.map fun (site, step) =>
          (place ++ Site.text (turn :: site), step) := by
      refine List.flatMap_congr fun (turn, part) hm => ?_
      simp only [ih turn part hm, Site.text_cons, String.append_assoc]
    rw [walk_eq, hparts, occurrences_eq]
    simp [List.map_flatMap, Function.comp_def]

end Node

namespace Pipeline

/-- The tree of a pipeline. -/
def root (steps : Pipeline) : Node := .ofValue (.ofSteps steps)

theorem placedSteps_eq (steps : Pipeline) : placedSteps steps =
    (root steps).occurrences.map fun (site, step) => ("pipeline" ++ site.text, step) :=
  (root steps).walk_eq_map "pipeline"

/-! The other traversals take up what the walk comes to. -/

/-- A recursion over the syntax that joins what it makes of the steps, in the order of the walk. -/
structure Traversal (α : Type) where
  /-- What is made of steps one after the other. -/
  total : List Step → α
  join : α → α → α
  ofSteps : List Step → α
  ofStep : Step → α
  ofValue : Expr → α
  ofItems : List Expr → α
  ofEntries : List (String × Expr) → α
  total_append : ∀ first second, total (first ++ second) = join (total first) (total second)
  step : ∀ step, ofStep step = join (total [step]) (ofEntries step.config)
  -- The other equations are those of the definitions.
  steps_nil : ofSteps [] = total [] := by rfl
  steps_cons : ∀ step rest, ofSteps (step :: rest) = join (ofStep step) (ofSteps rest) := by
    intros; rfl
  literal : ∀ value, ofValue (.literal value) = total [] := by intros; rfl
  template : ∀ engine text, ofValue (.template engine text) = total [] := by intros; rfl
  var : ∀ path, ofValue (.var path) = total [] := by intros; rfl
  pipeline : ∀ steps environment, ofValue (.pipeline steps environment) = ofSteps steps := by
    intros; rfl
  defer : ∀ inner, ofValue (.defer inner) = ofValue inner := by intros; rfl
  array : ∀ items, ofValue (.array items) = ofItems items := by intros; rfl
  object : ∀ entries, ofValue (.object entries) = ofEntries entries := by intros; rfl
  items_nil : ofItems [] = total [] := by rfl
  items_cons : ∀ item rest, ofItems (item :: rest) = join (ofValue item) (ofItems rest) := by
    intros; rfl
  entries_nil : ofEntries [] = total [] := by rfl
  entries_cons : ∀ entry rest,
    ofEntries (entry :: rest) = join (ofValue entry.2) (ofEntries rest) := by intros; rfl

namespace Traversal

variable {α : Type} (t : Traversal α)

/-! The cases are those of the walk, which goes through entries in two ways. -/

mutual

theorem ofSteps_eq (scope : String) (index : Nat) : ∀ steps : List Step,
    t.ofSteps steps = t.total ((walk scope index steps).map Prod.snd)
  | [] => t.steps_nil
  | step :: rest => by
    rw [t.steps_cons, walk, List.map_append, t.total_append, ofStep_eq (stepPlace scope index),
      ofSteps_eq scope (index + 1) rest]

theorem ofStep_eq (place : String) : ∀ step : Step,
    t.ofStep step = t.total ((walkStep place step).map Prod.snd)
  | .mk id config outputKey onError condition engine label instanceId => by
    rw [t.step]
    exact (congrArg (t.join _) (ofEntries_eq place config)).trans (t.total_append [_] _).symm

theorem ofValue_eq (scope : String) : ∀ value : Expr,
    t.ofValue value = t.total ((walkValue scope value).map Prod.snd)
  | .literal value => t.literal value
  | .template engine text => t.template engine text
  | .var path => t.var path
  | .pipeline steps environment => (t.pipeline steps environment).trans (ofSteps_eq scope 0 steps)
  | .defer inner => (t.defer inner).trans (ofValue_eq scope inner)
  | .array items => (t.array items).trans (ofItems_eq scope items)
  | .object entries => (t.object entries).trans (ofFields_eq scope entries)

theorem ofItems_eq (scope : String) : ∀ items : List Expr,
    t.ofItems items = t.total ((walkItems scope items).map Prod.snd)
  | [] => t.items_nil
  | item :: rest => by
    rw [t.items_cons, walkItems, List.map_append, t.total_append, ofValue_eq scope item,
      ofItems_eq scope rest]

theorem ofFields_eq (scope : String) : ∀ entries : List (String × Expr),
    t.ofEntries entries = t.total ((walkFields scope entries).map Prod.snd)
  | [] => t.entries_nil
  | (arg, value) :: rest => by
    rw [t.entries_cons, walkFields, List.map_append, t.total_append, ofValue_eq scope value,
      ofFields_eq scope rest]

theorem ofEntries_eq (place : String) : ∀ entries : List (String × Expr),
    t.ofEntries entries = t.total ((walkEntries place entries).map Prod.snd)
  | [] => t.entries_nil
  | (arg, value) :: rest => by
    rw [t.entries_cons, walkEntries, List.map_append, t.total_append,
      ofValue_eq (argumentPlace place arg) value, ofEntries_eq place rest]

end

/-- What is made of a pipeline is made of the steps that the walk comes to. -/
theorem ofSteps_eq_total (steps : Pipeline) :
    t.ofSteps steps = t.total ((placedSteps steps).map Prod.snd) :=
  t.ofSteps_eq "pipeline" 0 steps

end Traversal

def testEvery (p : Step → Bool) : Traversal Bool where
  total := fun steps => steps.all p
  join := and
  ofSteps := every p
  ofStep := everyInStep p
  ofValue := everyInValue p
  ofItems := everyInItems p
  ofEntries := everyInEntries p
  total_append := fun _ _ => List.all_append
  step := fun | .mk .. => by simp [everyInStep, Step.config]

def testSome (p : Step → Bool) : Traversal Bool where
  total := fun steps => steps.any p
  join := or
  ofSteps := some p
  ofStep := someInStep p
  ofValue := someInValue p
  ofItems := someInItems p
  ofEntries := someInEntries p
  total_append := fun _ _ => List.any_append
  step := fun | .mk .. => by simp [someInStep, Step.config]

/-- What is found so far goes from step to step. -/
def collecting {α : Type} (f : α → Step → α) : Traversal (α → α) where
  total := fun steps found => steps.foldl f found
  join := fun first second found => second (first found)
  ofSteps := fun steps found => collect f found steps
  ofStep := fun step found => collectStep f found step
  ofValue := fun value found => collectValue f found value
  ofItems := fun items found => collectItems f found items
  ofEntries := fun entries found => collectEntries f found entries
  total_append := fun _ _ => funext fun _ => List.foldl_append
  step := fun | .mk .. => rfl

theorem every_eq_all (p : Step → Bool) (steps : Pipeline) :
    every p steps = ((placedSteps steps).map Prod.snd).all p :=
  (testEvery p).ofSteps_eq_total steps

theorem some_eq_any (p : Step → Bool) (steps : Pipeline) :
    some p steps = ((placedSteps steps).map Prod.snd).any p :=
  (testSome p).ofSteps_eq_total steps

theorem collect_eq_foldl {α : Type} (f : α → Step → α) (found : α) (steps : Pipeline) :
    collect f found steps = ((placedSteps steps).map Prod.snd).foldl f found :=
  congrFun ((collecting f).ofSteps_eq_total steps) found

/-! The bricks that are used. -/

theorem mem_keys_foldl_useBrick {used : Entries Unit} {steps : List Step} {id : String} :
    id ∈ (steps.foldl useBrick used).keys ↔
      id ∈ used.keys ∨ ∃ step ∈ steps, step.id.text = id := by
  induction steps generalizing used with
  | nil => simp
  | cons first rest ih =>
    rw [List.foldl_cons, ih, useBrick, Entries.mem_keys_insert, List.exists_mem_cons_iff, eq_comm,
      or_comm (b := id ∈ used.keys), or_assoc]

theorem sorted_foldl_useBrick {used : Entries Unit} (sorted : used.Sorted) (steps : List Step) :
    (steps.foldl useBrick used).Sorted := by
  induction steps generalizing used with
  | nil => exact sorted
  | cons first rest ih => exact ih (Entries.sorted_insert _ () sorted)

theorem mem_brickIds_iff {steps : Pipeline} {id : String} :
    id ∈ brickIds steps ↔ ∃ step ∈ (placedSteps steps).map Prod.snd, step.id.text = id := by
  rw [brickIds, collect_eq_foldl, mem_keys_foldl_useBrick]
  exact or_iff_right nofun

theorem sorted_brickIds (steps : Pipeline) : (brickIds steps).Pairwise (· < ·) := by
  rw [brickIds, collect_eq_foldl]
  exact sorted_foldl_useBrick (show Entries.Sorted ([] : Entries Unit) from List.Pairwise.nil) _

end Pipeline

namespace Registry

open Pipeline (placedSteps)

variable (registry : Registry σ) (steps : Pipeline)

theorem isPure_iff : registry.isPure steps = true ↔
    ∀ step ∈ (placedSteps steps).map Prod.snd,
      ∃ brick, registry.get? step.id.text = some brick ∧ brick.isPure = true := by
  rw [isPure, Pipeline.every_eq_all, List.all_eq_true]
  simp only [isPureStep, Option.any_eq_true]

theorem isRootAware_iff : registry.isRootAware steps = true ↔
    ∃ step ∈ (placedSteps steps).map Prod.snd, registry.has step.id.text = false ∨
      ∃ brick, registry.get? step.id.text = some brick ∧ brick.isRootAware = true := by
  have hstep (step : Step) : registry.isRootAwareStep step = true ↔
      registry.has step.id.text = false ∨
        ∃ brick, registry.get? step.id.text = some brick ∧ brick.isRootAware = true := by
    rw [isRootAwareStep, has]
    cases registry.get? step.id.text <;> simp
  rw [isRootAware, Pipeline.some_eq_any, List.any_eq_true]
  simp only [hstep]

end Registry

/-- The diagnostics about unknown bricks, for the steps that a walk has come to. -/
theorem Lint.unknownBrick_eq (registry : Registry σ) (document : Document) :
    unknownBrick registry document =
      ((Pipeline.placedSteps document.pipeline).filter fun placed =>
        !registry.has placed.2.id.text).map fun (path, step) =>
          errorAt "unknown_brick" s!"Brick '{step.id}' is not registered" path none := by
  rw [← List.filterMap_eq_map, List.filterMap_filter]
  refine List.filterMap_congr fun (path, step) _ => ?_
  cases h : registry.has step.id.text <;> simp [h]

/-- All traversals of a pipeline see the same steps. The walk comes to every step in the tree of the
pipeline, once for each site at which one stands. The diagnostics about unknown bricks are about
those of them whose bricks are not registered, in the order of the walk. The pipeline is pure if all
of them run known pure bricks, it is root-aware if some of them may read the root, and the bricks
that are used are theirs, each once. -/
theorem Registry.traversals_agree (registry : Registry σ) (steps : Pipeline) :
    let placed := Pipeline.placedSteps steps
    let seen := placed.map Prod.snd
    let root := Pipeline.root steps
    (∃ sites : List Site, sites.Nodup ∧
        (∀ site, site ∈ sites ↔ ∃ step, root.at? site = some (.ofStep step)) ∧
        sites.map root.at? = seen.map (some ∘ Node.ofStep)) ∧
      (∀ document : Document,
        (Lint.diagnose registry { document with pipeline := steps }).filter
            (·.rule = "unknown_brick") =
          (placed.filter fun (_, step) => !registry.has step.id.text).map fun (path, step) =>
            Lint.errorAt "unknown_brick" s!"Brick '{step.id}' is not registered" path none) ∧
      (registry.isPure steps = true ↔ ∀ step ∈ seen,
        ∃ brick, registry.get? step.id.text = some brick ∧ brick.isPure = true) ∧
      (registry.isRootAware steps = true ↔ ∃ step ∈ seen, registry.has step.id.text = false ∨
        ∃ brick, registry.get? step.id.text = some brick ∧ brick.isRootAware = true) ∧
      (Pipeline.brickIds steps).Pairwise (· < ·) ∧
      ∀ id, id ∈ Pipeline.brickIds steps ↔ ∃ step ∈ seen, step.id.text = id := by
  intro placed seen root
  have hplaced : placed =
      root.occurrences.map fun (site, step) => ("pipeline" ++ site.text, step) :=
    Pipeline.placedSteps_eq steps
  have hseen : seen = root.occurrences.map Prod.snd := by
    unfold seen
    rw [hplaced, List.map_map]
    rfl
  refine ⟨⟨root.occurrences.map Prod.fst, root.nodup_sites, fun site => ?_, ?_⟩,
    fun document => ?_, registry.isPure_iff steps, registry.isRootAware_iff steps,
    Pipeline.sorted_brickIds steps, fun id => Pipeline.mem_brickIds_iff⟩
  · simp only [List.mem_map, Prod.exists, exists_and_right, exists_eq_right,
      Node.mem_occurrences_iff]
  · rw [hseen, List.map_map, List.map_map]
    exact List.map_congr_left fun (site, step) hm => Node.mem_occurrences_iff.1 hm
  · rw [Lint.diagnose_unknownBrick, Lint.unknownBrick_eq]

end BrickPipeline
