import BrickPipeline.Proofs.Traversals

/-!
Places of steps, as diagnostics tell them. A place shows positions in pipelines and the names of
arguments, but not where in its argument a sub-pipeline stands, so steps are told apart by their
places as long as no argument holds two sub-pipelines with steps.
-/
namespace BrickPipeline

variable {σ : Type}

/-- What does not hold a character ends before the first that follows. -/
theorem Text.prefix_of_append_eq {x : Char} {front rest before behind : List Char}
    (h : x ∉ front) (he : front ++ rest = before ++ x :: behind) : front <+: before := by
  obtain ⟨more, rfl, -⟩ | ⟨more, rfl, hx⟩ := List.append_eq_append_iff.1 he
  · exact List.prefix_append _ _
  · cases more with
    | nil => simp
    | cons y ys =>
      cases hx
      exact absurd (List.mem_append_right _ List.mem_cons_self) h

namespace Pipeline

theorem toList_stepPlace (scope : String) (index : Nat) : (stepPlace scope index).toList =
    scope.toList ++ '[' :: (Nat.toDigits 10 index ++ [']']) := by
  show (scope ++ "[" ++ toString index ++ "]").toList = _
  simp [Nat.toString_eq_repr]

theorem toList_argumentPlace (place name : String) : (argumentPlace place name).toList =
    place.toList ++ (".config.".toList ++ name.toList) := by
  show (place ++ ".config." ++ name).toList = _
  simp

/-- Whether a place is that of a step or of one in its arguments. -/
def Within (place found : String) : Prop :=
  found = place ∨ ∃ rest, found = argumentPlace place rest

theorem exists_tail_of_within {scope found : String} {index : Nat}
    (h : Within (stepPlace scope index) found) :
    ∃ tail, found.toList = scope.toList ++ '[' :: (Nat.toDigits 10 index ++ ']' :: tail) ∧
      (tail = [] ∨ ".config.".toList <+: tail) := by
  obtain rfl | ⟨rest, rfl⟩ := h
  · exact ⟨[], toList_stepPlace scope index, .inl rfl⟩
  · refine ⟨".config.".toList ++ rest.toList, ?_, .inr (List.prefix_append _ _)⟩
    simp [toList_argumentPlace, toList_stepPlace]

theorem notMem_toDigits {c : Char} (h : c.isDigit = false) (n : Nat) : c ∉ Nat.toDigits 10 n := by
  intro hm
  rw [Nat.isDigit_of_mem_toDigits (by decide) (by decide) hm] at h
  cases h

/-- Steps of one pipeline have places apart from each other, with all that is in them. -/
theorem index_eq_of_within {scope found : String} {m n : Nat}
    (hm : Within (stepPlace scope m) found) (hn : Within (stepPlace scope n) found) : m = n := by
  obtain ⟨tail, hfound, -⟩ := exists_tail_of_within hm
  obtain ⟨other, hother, -⟩ := exists_tail_of_within hn
  rw [hfound, List.append_cancel_left_eq, List.cons_inj_right] at hother
  have hmn : Nat.toDigits 10 m <+: Nat.toDigits 10 n :=
    Text.prefix_of_append_eq (notMem_toDigits rfl m) hother
  have hnm : Nat.toDigits 10 n <+: Nat.toDigits 10 m :=
    Text.prefix_of_append_eq (notMem_toDigits rfl n) hother.symm
  have hdigits : Nat.toDigits 10 m = Nat.toDigits 10 n := hmn.eq_of_length_le hnm.length_le
  have hvalue := congrArg (Nat.ofDigitChars 10 · 0) hdigits
  simpa only [Nat.ofDigitChars_ten_toDigits] using hvalue

/-- Whether the name of an argument goes on from another like a place in that argument. -/
def Imitates (other name : String) : Prop :=
  ∃ index, (argumentPlace (stepPlace name index) "").toList <+: other.toList

theorem imitates_of_append {name other : String} {index : Nat} {tail more behind : List Char}
    (htail : tail = [] ∨ ".config.".toList <+: tail) (hother : other.toList = name.toList ++ more)
    (hmore : more ≠ [])
    (h : '[' :: (Nat.toDigits 10 index ++ ']' :: tail) = more ++ '[' :: behind) :
    Imitates other name := by
  obtain ⟨c, cs, rfl⟩ := List.exists_cons_of_ne_nil hmore
  obtain ⟨rfl, hcs⟩ := List.cons.inj h
  have hdigits : '[' ∉ Nat.toDigits 10 index := notMem_toDigits rfl index
  obtain rfl | ⟨rest, rfl⟩ := htail
  · have hm : '[' ∈ Nat.toDigits 10 index ++ [']'] := by
      rw [hcs]
      exact List.mem_append_right _ List.mem_cons_self
    simp [hdigits] at hm
  · have hnot : '[' ∉ Nat.toDigits 10 index ++ ']' :: ".config.".toList := by simp [hdigits]
    have hstart : Nat.toDigits 10 index ++ ']' :: ".config.".toList <+: cs :=
      Text.prefix_of_append_eq hnot (by simpa using hcs)
    refine ⟨index, ?_⟩
    rw [hother, toList_argumentPlace, toList_stepPlace]
    simpa using hstart

/-- Arguments of one step have places apart from each other, unless one imitates the other. -/
theorem name_eq_of_within {place found name other : String} {m n : Nat}
    (hm : Within (stepPlace (argumentPlace place name) m) found)
    (hn : Within (stepPlace (argumentPlace place other) n) found) :
    name = other ∨ Imitates other name ∨ Imitates name other := by
  obtain ⟨tail, hfound, htail⟩ := exists_tail_of_within hm
  obtain ⟨rest, hother, hrest⟩ := exists_tail_of_within hn
  rw [hfound, toList_argumentPlace, toList_argumentPlace] at hother
  simp only [List.append_assoc, List.append_cancel_left_eq] at hother
  obtain ⟨more, hname, h⟩ | ⟨more, hname, h⟩ := List.append_eq_append_iff.1 hother
  · by_cases hmore : more = []
    · rw [hmore, List.append_nil] at hname
      exact .inl (String.toList_inj.1 hname).symm
    · exact .inr (.inl (imitates_of_append htail hname hmore h))
  · by_cases hmore : more = []
    · rw [hmore, List.append_nil] at hname
      exact .inl (String.toList_inj.1 hname)
    · exact .inr (.inr (imitates_of_append hrest hname hmore h))

theorem within_of_mem_walkStep {place found : String} {step : Step}
    (h : found ∈ (walkStep place step).map Prod.fst) : Within place found := by
  have hwalk := (Node.ofStep step).walk_eq_map place
  rw [Node.walk] at hwalk
  rw [hwalk, List.map_map] at h
  obtain ⟨⟨site, inner⟩, hm, rfl⟩ := List.mem_map.1 h
  cases site with
  | nil => exact .inl (String.append_empty ..)
  | cons turn rest =>
    obtain ⟨part, hpart, -⟩ := Node.mem_occurrences_cons.1 hm
    obtain ⟨⟨entry, index⟩, -, he⟩ := List.mem_map.1 hpart
    cases he
    refine .inr ⟨entry.1 ++ Site.text rest, ?_⟩
    rw [argumentPlace_eq place _ 0]
    simp [Turn.text, String.append_assoc]

theorem exists_within_of_mem_walk {scope found : String} {steps : Pipeline}
    (h : found ∈ (walk scope 0 steps).map Prod.fst) :
    ∃ index, Within (stepPlace scope index) found := by
  rw [walk_eq_flatMap, List.map_flatMap] at h
  obtain ⟨⟨step, index⟩, -, hm⟩ := List.mem_flatMap.1 h
  exact ⟨index, within_of_mem_walkStep hm⟩

theorem exists_within_of_mem_walkValue {scope found : String} {value : Expr}
    (h : found ∈ (walkValue scope value).map Prod.fst) :
    ∃ index, Within (stepPlace scope index) found := by
  rw [walkValue_eq_flatMap, List.map_flatMap] at h
  obtain ⟨sub, -, hm⟩ := List.mem_flatMap.1 h
  exact exists_within_of_mem_walk hm

theorem nodup_walk_iff {scope : String} {steps : Pipeline} :
    ((walk scope 0 steps).map Prod.fst).Nodup ↔ ∀ numbered ∈ steps.zipIdx,
      ((walkStep (stepPlace scope numbered.2) numbered.1).map Prod.fst).Nodup := by
  have hindices : (steps.zipIdx.map Prod.snd).Nodup := by
    rw [List.zipIdx_map_snd]
    exact List.nodup_range'
  rw [walk_eq_flatMap, List.map_flatMap, List.nodup_flatMap]
  refine and_iff_left ((List.pairwise_map.1 hindices).imp fun hne found hfirst hsecond => hne ?_)
  exact index_eq_of_within (within_of_mem_walkStep hfirst) (within_of_mem_walkStep hsecond)

/-- Whether one of two sub-pipelines has no steps. -/
def OneEmpty (sub other : SubPipeline) : Prop := sub.steps = [] ∨ other.steps = []

instance : DecidableRel OneEmpty := fun sub other =>
  inferInstanceAs (Decidable (sub.steps = [] ∨ other.steps = []))

theorem disjoint_walk_iff {scope : String} {sub other : SubPipeline} :
    List.Disjoint ((walk scope 0 sub.steps).map Prod.fst)
      ((walk scope 0 other.steps).map Prod.fst) ↔ OneEmpty sub other := by
  have hfirst (step : Step) (rest : Pipeline) :
      stepPlace scope 0 ∈ (walk scope 0 (step :: rest)).map Prod.fst := by
    rw [walk, walkStep_eq]
    exact List.mem_cons_self
  constructor
  · intro h
    cases hs : sub.steps with
    | nil => exact .inl hs
    | cons step rest =>
      cases ho : other.steps with
      | nil => exact .inr ho
      | cons first more =>
        rw [hs, ho] at h
        exact (h (hfirst step rest) (hfirst first more)).elim
  · rintro (h | h) <;> rw [h, walk, List.map_nil]
    · exact List.disjoint_nil_left _
    · exact List.disjoint_nil_right _

theorem nodup_walkValue_iff {scope : String} {value : Expr} :
    ((walkValue scope value).map Prod.fst).Nodup ↔
      (∀ sub ∈ value.subPipelines, ((walk scope 0 sub.steps).map Prod.fst).Nodup) ∧
        value.subPipelines.Pairwise OneEmpty := by
  rw [walkValue_eq_flatMap, List.map_flatMap, List.nodup_flatMap]
  exact and_congr_right fun _ => List.Pairwise.iff fun _ _ => disjoint_walk_iff

end Pipeline

/-- Whether the names of a step's arguments tell them apart in places: they differ, and none
imitates another. -/
structure Step.NamesApart (step : Step) : Prop where
  nodup : (Entries.keys step.config).Nodup
  clear : ∀ name ∈ Entries.keys step.config, ∀ other ∈ Entries.keys step.config,
    ¬ Pipeline.Imitates other name

/-- Whether no argument of a step holds two sub-pipelines with steps. -/
def Step.SingleScopes (step : Step) : Prop :=
  ∀ entry ∈ step.config, entry.2.subPipelines.Pairwise Pipeline.OneEmpty

instance : DecidablePred Step.SingleScopes := fun step =>
  inferInstanceAs (Decidable (∀ entry ∈ step.config, _))

namespace Pipeline

/-- What stands in an argument of a step has other places than the step. -/
theorem not_within_argumentPlace (place name : String) (index : Nat) :
    ¬ Within (stepPlace (argumentPlace place name) index) place := by
  intro h
  obtain ⟨tail, hplace, -⟩ := exists_tail_of_within h
  have hlength := congrArg List.length hplace
  rw [toList_argumentPlace] at hlength
  simp only [List.length_append, List.length_cons] at hlength
  omega

theorem nodup_walkStep_iff {place : String} {step : Step} (apart : step.NamesApart) :
    ((walkStep place step).map Prod.fst).Nodup ↔ ∀ entry ∈ step.config,
      ((walkValue (argumentPlace place entry.1) entry.2).map Prod.fst).Nodup := by
  have hplace : place ∉ step.config.flatMap fun entry =>
      (walkValue (argumentPlace place entry.1) entry.2).map Prod.fst := by
    intro hm
    obtain ⟨entry, -, hm⟩ := List.mem_flatMap.1 hm
    obtain ⟨index, h⟩ := exists_within_of_mem_walkValue hm
    exact not_within_argumentPlace place entry.1 index h
  have hdisjoint : step.config.Pairwise (Function.onFun List.Disjoint fun entry =>
      (walkValue (argumentPlace place entry.1) entry.2).map Prod.fst) := by
    refine (List.pairwise_map.1 apart.nodup).imp_of_mem fun {entry other} hm ho hne => ?_
    intro found hfirst hsecond
    obtain ⟨m, hfirst⟩ := exists_within_of_mem_walkValue hfirst
    obtain ⟨n, hsecond⟩ := exists_within_of_mem_walkValue hsecond
    have hentry := List.mem_map_of_mem (f := Prod.fst) hm
    have hother := List.mem_map_of_mem (f := Prod.fst) ho
    obtain he | himitates | himitates := name_eq_of_within hfirst hsecond
    · exact hne he
    · exact apart.clear _ hentry _ hother himitates
    · exact apart.clear _ hother _ hentry himitates
  rw [walkStep_eq, List.map_cons, walkEntries_eq_flatMap, List.map_flatMap, List.nodup_cons,
    and_iff_right hplace, List.nodup_flatMap, and_iff_left hdisjoint]

theorem forall_mem_walk {P : Step → Prop} {scope : String} {steps : Pipeline} :
    (∀ step ∈ (walk scope 0 steps).map Prod.snd, P step) ↔ ∀ numbered ∈ steps.zipIdx,
      ∀ step ∈ (walkStep (stepPlace scope numbered.2) numbered.1).map Prod.snd, P step := by
  rw [walk_eq_flatMap, List.map_flatMap, List.forall_mem_flatMap]

theorem forall_mem_walkStep {P : Step → Prop} {place : String} {step : Step} :
    (∀ inner ∈ (walkStep place step).map Prod.snd, P inner) ↔ P step ∧
      ∀ entry ∈ step.config, ∀ sub ∈ entry.2.subPipelines,
        ∀ inner ∈ (walk (argumentPlace place entry.1) 0 sub.steps).map Prod.snd, P inner := by
  rw [walkStep_eq, List.map_cons, List.forall_mem_cons, walkEntries_eq_flatMap, List.map_flatMap,
    List.forall_mem_flatMap]
  simp only [walkValue_eq_flatMap, List.map_flatMap, List.forall_mem_flatMap]

theorem nodup_walkStep_iff_forall {place : String} {step : Step}
    (apart : ∀ inner ∈ (walkStep place step).map Prod.snd, inner.NamesApart) :
    ((walkStep place step).map Prod.fst).Nodup ↔
      ∀ inner ∈ (walkStep place step).map Prod.snd, inner.SingleScopes := by
  induction step using Step.induction_on generalizing place with
  | h step ih =>
    obtain ⟨hstep, hinner⟩ := forall_mem_walkStep.1 apart
    have hsub : ∀ entry ∈ step.config, ∀ sub ∈ entry.2.subPipelines,
        (((walk (argumentPlace place entry.1) 0 sub.steps).map Prod.fst).Nodup ↔
          ∀ inner ∈ (walk (argumentPlace place entry.1) 0 sub.steps).map Prod.snd,
            inner.SingleScopes) := by
      intro entry hentry sub hs
      have hapart := forall_mem_walk.1 (hinner entry hentry sub hs)
      rw [nodup_walk_iff, forall_mem_walk]
      exact forall₂_congr fun numbered hm =>
        ih entry hentry sub hs numbered.1 (List.fst_mem_of_mem_zipIdx hm) (hapart numbered hm)
    rw [nodup_walkStep_iff hstep, forall_mem_walkStep, and_comm, Step.SingleScopes, ← forall₂_and]
    refine forall₂_congr fun entry hentry => ?_
    rw [nodup_walkValue_iff]
    exact and_congr_left fun _ => forall₂_congr (hsub entry hentry)

/-- Where the names of arguments tell them apart, all steps have places of their own exactly if no
argument holds two sub-pipelines with steps. -/
theorem nodup_places_iff {steps : Pipeline}
    (apart : ∀ step ∈ (placedSteps steps).map Prod.snd, step.NamesApart) :
    ((placedSteps steps).map Prod.fst).Nodup ↔
      ∀ step ∈ (placedSteps steps).map Prod.snd, step.SingleScopes := by
  rw [placedSteps, forall_mem_walk] at apart
  rw [placedSteps, nodup_walk_iff, forall_mem_walk]
  exact forall₂_congr fun numbered hm => nodup_walkStep_iff_forall (apart numbered hm)

end Pipeline

/-- Names without brackets imitate nothing. -/
theorem Step.namesApart_of_notMem {step : Step} (nodup : (Entries.keys step.config).Nodup)
    (h : ∀ name ∈ Entries.keys step.config, '[' ∉ name.toList) : step.NamesApart where
  nodup := nodup
  clear name _ other hother := by
    rintro ⟨index, hstart⟩
    refine h other hother (hstart.subset ?_)
    simp [Pipeline.toList_argumentPlace, Pipeline.toList_stepPlace]

namespace Lint

theorem dependencyPlace_ne (index : Nat) (text : String) :
    dependencyPlace index ≠ "pipeline" ++ text := by
  intro h
  have hlist : ("integrationDependencies[" ++ toString index ++ "]").toList =
      ("pipeline" ++ text).toList := congrArg String.toList h
  simp at hlist

variable (registry : Registry σ) (document : Document)

/-- Where the names of arguments tell them apart, the steps that the walk comes to have places of
their own exactly if no argument holds two sub-pipelines with steps. The path of a diagnostic, if it
is not that of a dependency, then stands for one site in the tree of the pipeline. -/
theorem path_locates (apart : ∀ step ∈ (Pipeline.placedSteps document.pipeline).map Prod.snd,
    step.NamesApart) :
    let placed := Pipeline.placedSteps document.pipeline
    let single := ∀ step ∈ placed.map Prod.snd, step.SingleScopes
    ((placed.map Prod.fst).Nodup ↔ single) ∧
      (single → ∀ diagnostic ∈ diagnose registry document, ∀ path, diagnostic.path = some path →
        (∃ index, path = dependencyPlace index) ∨ ∃! site : Site,
          "pipeline" ++ site.text = path ∧
            ∃ step, (Pipeline.root document.pipeline).at? site = some (.ofStep step)) := by
  intro placed single
  have hnodup : (placed.map Prod.fst).Nodup ↔ single := Pipeline.nodup_places_iff apart
  refine ⟨hnodup, fun hsingle diagnostic hm path hp => ?_⟩
  refine (isPlace_of_mem_diagnose registry document hm hp).imp_right fun hpath => ?_
  have hsites := hnodup.2 hsingle
  unfold placed at hsites
  rw [Pipeline.placedSteps_eq, List.map_map] at hsites hpath
  obtain ⟨⟨site, step⟩, hsite, rfl⟩ := List.mem_map.1 hpath
  refine ⟨site, ⟨rfl, step, Node.mem_occurrences_iff.1 hsite⟩, fun other hother => ?_⟩
  obtain ⟨htext, inner, hat⟩ := hother
  have hocc := Node.mem_occurrences_iff.2 hat
  have he := List.inj_on_of_nodup_map hsites hocc hsite htext
  exact congrArg Prod.fst he

end Lint

namespace Sample

/-- Steps of bricks that are not registered. -/
def firstUnknown : Step := Step.new ⟨"acme/first", by decide⟩

def secondUnknown : Step := Step.new ⟨"acme/second", by decide⟩

def identityStep : Step := Step.new (Brick.identity : Brick Unit).id

/-- Sub-pipelines in two arguments, one of them in a list and beside an empty one. -/
def located : Pipeline :=
  [(identityStep.withArg "body" (.defer (.array [.ofSteps [], .ofSteps [firstUnknown]]))).withArg
    "else" (.ofSteps [identityStep, secondUnknown])]

/-- Two sub-pipelines in one argument. -/
def branching : Pipeline :=
  [identityStep.withArg "branches" (.array [.ofSteps [firstUnknown], .ofSteps [secondUnknown]])]

/-- An argument that is named like a place in another. -/
def imitating : Pipeline :=
  [(identityStep.withArg "a" (.ofSteps [identityStep.withArg "b" (.ofSteps [firstUnknown])])
    ).withArg "a[0].config.b" (.ofSteps [secondUnknown])]

def ofPipeline (steps : Pipeline) : Document := ⟨.v3, none, steps, [], none, .null⟩

end Sample

theorem Lint.path_locates_sample :
    let placed := Pipeline.placedSteps Sample.located
    (∀ step ∈ placed.map Prod.snd, step.NamesApart) ∧
      (∀ step ∈ placed.map Prod.snd, step.SingleScopes) ∧ (placed.map Prod.fst).Nodup ∧
      ∃! site : Site, "pipeline" ++ site.text = "pipeline[0].config.body[0]" ∧
        ∃ step, (Pipeline.root Sample.located).at? site = some (.ofStep step) := by
  intro placed
  have hnames : ∀ step ∈ placed.map Prod.snd, (Entries.keys step.config).Nodup ∧
      ∀ name ∈ Entries.keys step.config, '[' ∉ name.toList := by decide +kernel
  have apart : ∀ step ∈ placed.map Prod.snd, step.NamesApart := fun step hm =>
    Step.namesApart_of_notMem (hnames step hm).1 (hnames step hm).2
  have single : ∀ step ∈ placed.map Prod.snd, step.SingleScopes := by decide +kernel
  have hm : errorAt "unknown_brick" "Brick 'acme/first' is not registered"
      "pipeline[0].config.body[0]" none ∈
        diagnose (Registry.standard : Registry Unit) (Sample.ofPipeline Sample.located) := by
    decide +kernel
  obtain ⟨hnodup, hunique⟩ :=
    path_locates (Registry.standard : Registry Unit) (Sample.ofPipeline Sample.located) apart
  refine ⟨apart, single, hnodup.2 single, (hunique single _ hm _ rfl).resolve_left ?_⟩
  rintro ⟨index, h⟩
  exact dependencyPlace_ne index "[0].config.body[0]" h.symm

/-- The steps of two sub-pipelines in one argument share their places, although names of arguments
tell them apart; and an argument can be named like a place in another. -/
theorem Pipeline.exists_shared_place :
    (∃ (steps : Pipeline) (place : String) (first second : Step), first.id ≠ second.id ∧
      (∀ step ∈ (placedSteps steps).map Prod.snd, step.NamesApart) ∧
      (place, first) ∈ placedSteps steps ∧ (place, second) ∈ placedSteps steps) ∧
    ∃ (steps : Pipeline) (place : String) (first second : Step), first.id ≠ second.id ∧
      (∀ step ∈ (placedSteps steps).map Prod.snd, step.SingleScopes) ∧
      (place, first) ∈ placedSteps steps ∧ (place, second) ∈ placedSteps steps := by
  have hnames : ∀ step ∈ (placedSteps Sample.branching).map Prod.snd,
      (Entries.keys step.config).Nodup ∧
        ∀ name ∈ Entries.keys step.config, '[' ∉ name.toList := by decide +kernel
  have hids : Sample.firstUnknown.id ≠ Sample.secondUnknown.id := by decide
  refine ⟨⟨Sample.branching, "pipeline[0].config.branches[0]", Sample.firstUnknown,
    Sample.secondUnknown, hids, fun step hm => Step.namesApart_of_notMem (hnames step hm).1
      (hnames step hm).2, ?_, ?_⟩,
    ⟨Sample.imitating, "pipeline[0].config.a[0].config.b[0]", Sample.firstUnknown,
      Sample.secondUnknown, hids, by decide +kernel, ?_, ?_⟩⟩
  · exact .tail _ (.head _)
  · exact .tail _ (.tail _ (.head _))
  · exact .tail _ (.tail _ (.head _))
  · exact .tail _ (.tail _ (.tail _ (.head _)))

end BrickPipeline
