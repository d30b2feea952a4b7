import BrickPipeline.Proofs.Codec

/-!
What is read from JSON is legible, be it a text or a value in memory.
-/
namespace BrickPipeline

open Wire (RecordType Field Read)

namespace Wire.RecordType

variable {ι σ : Type} {record : RecordType ι σ} {P : σ → Prop} {Q : ι → Prop}

/-- What every field keeps, given contents that are good, the record keeps. -/
theorem takeFields_keeps (hk : ∀ field ∈ record.fields, ∀ content state next, Q content → P state →
      field.take content state = .ok next → P next)
    {fields : List (String × ι)} {seen after : List String} {state next : σ}
    (hq : ∀ entry ∈ fields, Q entry.2) (hp : P state)
    (h : record.takeFields fields seen state = .ok (after, next)) : P next := by
  induction fields generalizing seen state with
  | nil =>
    cases h
    exact hp
  | cons entry rest ih =>
    obtain ⟨name, content⟩ := entry
    have hr : ∀ entry ∈ rest, Q entry.2 := fun entry hm => hq entry (List.mem_cons_of_mem _ hm)
    unfold takeFields at h
    split at h
    · exact ih hr hp h
    · rename_i field hf
      split at h
      · cases h
      · obtain ⟨taken, ht, hrest⟩ := Except.ok_of_bind h
        have hm : field ∈ record.fields := List.mem_of_find?_eq_some hf
        exact ih hr (hk field hm content state taken (hq _ List.mem_cons_self) hp ht) hrest

theorem ofFields_keeps (hk : ∀ field ∈ record.fields, ∀ content state next, Q content → P state →
      field.take content state = .ok next → P next)
    {fields : List (String × ι)} {state next : σ} (hq : ∀ entry ∈ fields, Q entry.2) (hp : P state)
    (h : record.ofFields state fields = .ok next) : P next := by
  obtain ⟨⟨seen, taken⟩, ht, hf⟩ := Except.ok_of_bind h
  have hn : P taken := takeFields_keeps hk hq hp ht
  revert hf
  dsimp only
  split
  · nofun
  · intro hf
    cases hf
    exact hn

theorem takeItems_keeps {index : Nat} {fields : List (Field ι σ)}
    (hk : ∀ field ∈ fields, ∀ content state next, Q content → P state →
      field.take content state = .ok next → P next)
    {items rest : List ι} {state next : σ} (hq : ∀ item ∈ items, Q item) (hp : P state)
    (h : record.takeItems index fields items state = .ok (rest, next)) : P next := by
  induction fields generalizing index items state with
  | nil =>
    unfold takeItems at h
    cases h
    exact hp
  | cons field fields ih =>
    have hf : ∀ field ∈ fields, ∀ content state next, Q content → P state →
        field.take content state = .ok next → P next :=
      fun field hm => hk field (List.mem_cons_of_mem _ hm)
    cases items with
    | nil =>
      unfold takeItems at h
      split at h
      · cases h
      · exact ih hf hq hp h
    | cons item items =>
      unfold takeItems at h
      obtain ⟨taken, ht, hrest⟩ := Except.ok_of_bind h
      exact ih hf (fun item hm => hq item (List.mem_cons_of_mem _ hm))
        (hk field List.mem_cons_self item state taken (hq _ List.mem_cons_self) hp ht) hrest

theorem ofItems_keeps {origin : Origin} (hk : ∀ field ∈ record.fields, ∀ content state next,
      Q content → P state → field.take content state = .ok next → P next)
    {items : List ι} {state next : σ} (hq : ∀ item ∈ items, Q item) (hp : P state)
    (h : record.ofItems origin state items = .ok next) : P next := by
  obtain ⟨⟨rest, taken⟩, ht, hf⟩ := Except.ok_of_bind h
  obtain ⟨_, -, hn⟩ := Except.ok_of_bind hf
  cases hn
  exact takeItems_keeps hk hq hp ht

end Wire.RecordType

namespace Step

open BrickPipeline.Expr

/-- Whether what was read of a step so far is legible. -/
def Draft.Legible (draft : Draft) : Prop :=
  LegibleEntries draft.config ∧ LegibleCondition draft.condition

/-- Whether a field can only be read as something legible. -/
def Source.Legible (source : Source) : Prop :=
  (∀ config, source.config () = .ok config → LegibleEntries config) ∧
    ∀ value, source.tree () ≠ .null → source.value () = .ok value →
      value ≠ .literal .null ∧ Expr.Legible value

theorem legible_of_optionalValue {source : Source} (h : source.Legible) {value : Option Expr}
    (hv : source.optionalValue = .ok value) : LegibleCondition value := by
  unfold Source.optionalValue at hv
  split at hv
  · cases hv
    trivial
  · rename_i hne
    obtain ⟨read, hr, rfl⟩ := Except.ok_of_map hv
    exact h.2 read hne hr

theorem legible_of_take (origin : Wire.Origin) : ∀ field ∈ (record origin).fields,
    ∀ content state next, Source.Legible content → Draft.Legible state →
      field.take content state = .ok next → Draft.Legible next := by
  intro field hm content state next hc hs h
  simp only [record, fields, List.mem_cons, List.not_mem_nil, or_false] at hm
  rcases hm with rfl | rfl | rfl | rfl | rfl | rfl | rfl | rfl
  case inr.inl =>
    obtain ⟨config, hr, rfl⟩ := Except.ok_of_map h
    exact ⟨hc.1 config hr, hs.2⟩
  case inr.inr.inr.inr.inl =>
    obtain ⟨condition, hr, rfl⟩ := Except.ok_of_map h
    exact ⟨hs.1, legible_of_optionalValue hc hr⟩
  -- No other field touches the arguments or the condition.
  all_goals
    obtain ⟨_, -, rfl⟩ := Except.ok_of_map h
    exact hs

theorem legible_of_finish {draft : Draft} {step : Step} (h : draft.Legible)
    (hf : draft.finish = .ok step) : LegibleStep step := by
  unfold Draft.finish at hf
  split at hf
  · cases hf
    exact h
  · cases hf

theorem legible_of_ofFields {origin : Wire.Origin} {sources : List (String × Source)} {step : Step}
    (hs : ∀ entry ∈ sources, entry.2.Legible) (h : ofFields origin sources = .ok step) :
    LegibleStep step := by
  obtain ⟨draft, hd, hf⟩ := Except.ok_of_bind h
  have hi : Draft.initial.Legible := ⟨trivial, trivial⟩
  exact legible_of_finish (RecordType.ofFields_keeps (legible_of_take origin) hs hi hd) hf

theorem legible_of_ofItems {origin : Wire.Origin} {sources : List Source} {step : Step}
    (hs : ∀ source ∈ sources, source.Legible) (h : ofItems origin sources = .ok step) :
    LegibleStep step := by
  obtain ⟨draft, hd, hf⟩ := Except.ok_of_bind h
  have hi : Draft.initial.Legible := ⟨trivial, trivial⟩
  exact legible_of_finish (RecordType.ofItems_keeps (legible_of_take origin) hs hi hd) hf

end Step

namespace Expr

theorem get?_of_fromEntries {key : String} {fields : List (String × Json)}
    {entries : List (String × Expr)} (h : fromEntries fields = .ok entries)
    (hn : Entries.get? key fields = none) : Entries.get? key entries = none := by
  induction fields generalizing entries with
  | nil =>
    cases h
    rfl
  | cons field rest ih =>
    obtain ⟨k, value⟩ := field
    unfold fromEntries at h
    obtain ⟨_, -, hr⟩ := Except.ok_of_bind h
    obtain ⟨others, ho, hc⟩ := Except.ok_of_bind hr
    cases hc
    rw [Entries.get?_cons] at hn ⊢
    split at hn
    · cases hn
    · rename_i hk
      rw [if_neg hk]
      exact ih ho hn

theorem ok_of_pipelineContent {all : Entries Json} {key : String} {content : Json}
    {rest : List (String × Json)} {read : Expr} (hk : key = valueTag)
    (h : fromContent .pipeline all ((key, content) :: rest) = .ok read) :
    ∃ steps environment, read = .pipeline steps environment ∧
      Expr.environment all = .ok environment ∧
      (steps = [] ∨ readSteps content = .ok steps) := by
  unfold fromContent at h
  rw [if_pos hk] at h
  by_cases hn : content.isNull = true
  · simp only [hn, if_true] at h
    obtain ⟨steps, hs, hr⟩ := Except.ok_of_bind h
    obtain ⟨environment, he, hp⟩ := Except.ok_of_bind hr
    cases hp
    cases hs
    exact ⟨[], environment, rfl, he, Or.inl rfl⟩
  · simp only [hn, if_false, Bool.false_eq_true] at h
    obtain ⟨steps, hs, hr⟩ := Except.ok_of_bind h
    obtain ⟨environment, he, hp⟩ := Except.ok_of_bind hr
    cases hp
    exact ⟨steps, environment, rfl, he, Or.inr (ok_of_invalidPipeline hs)⟩

/-- What is read as an expression of a kind is of that kind. -/
theorem kind?_of_fromContent {kind : Kind} {all : Entries Json} {fields : List (String × Json)}
    {read : Expr} (h : fromContent kind all fields = .ok read) : read.kind? = some kind := by
  induction fields with
  | nil =>
    unfold fromContent withoutContent at h
    cases kind with
    | pipeline =>
      obtain ⟨_, -, rfl⟩ := Except.ok_of_map h
      rfl
    | _ =>
      cases h
      rfl
  | cons field rest ih =>
    obtain ⟨key, content⟩ := field
    by_cases hk : key = valueTag
    · cases kind with
      | pipeline =>
        obtain ⟨steps, environment, rfl, -⟩ := ok_of_pipelineContent hk h
        rfl
      | _ =>
        unfold fromContent at h
        rw [if_pos hk] at h
        obtain ⟨_, -, rfl⟩ := Except.ok_of_map h
        rfl
    · unfold fromContent at h
      rw [if_neg hk] at h
      exact ih h

theorem ne_null_of_fromJson {value : Json} {read : Expr} (hn : value ≠ .null)
    (h : fromJson value = .ok read) : read ≠ .literal .null := by
  rintro rfl
  cases value with
  | null => exact hn rfl
  | array items =>
    obtain ⟨_, -, he⟩ := Except.ok_of_map h
    cases he
  | object fields =>
    unfold fromJson at h
    split at h
    · obtain ⟨_, -, he⟩ := Except.ok_of_map h
      cases he
    · split at h
      · have hk := kind?_of_fromContent h
        cases hk
      · cases h
    · cases h
  | _ => cases h

theorem legible_source {value : Json}
    (hc : ∀ config, readConfig value = .ok config → LegibleEntries config)
    (hv : ∀ read, fromJson value = .ok read → Legible read) :
    Step.Source.Legible ⟨fun _ => value.toTree, fun _ => readConfig value,
      fun _ => refused (fromJson value)⟩ := by
  refine ⟨hc, fun read hn hr => ?_⟩
  have hread := ok_of_refused hr
  refine ⟨ne_null_of_fromJson ?_ hread, hv read hread⟩
  rintro rfl
  exact hn rfl

mutual

/-- What is read from a value in memory is legible. -/
theorem legible_of_fromJson : ∀ (value : Json) {read : Expr}, fromJson value = .ok read →
    Legible read
  | .null, _, h | .bool _, _, h | .number _, _, h | .string _, _, h => by
    cases h
    trivial
  | .array items, _, h => by
    obtain ⟨read, hr, rfl⟩ := Except.ok_of_map h
    exact legible_of_fromItems items hr
  | .object fields, _, h => by
    unfold fromJson at h
    split at h
    · rename_i ht
      obtain ⟨read, hr, rfl⟩ := Except.ok_of_map h
      exact ⟨get?_of_fromEntries hr ht, legible_of_fromEntries fields hr⟩
    · split at h
      · rename_i kind _
        exact legible_of_fromContent kind fields fields h
      · cases h
    · cases h

theorem legible_of_fromItems : ∀ (items : List Json) {read : List Expr},
    fromItems items = .ok read → LegibleItems read
  | [], _, h => by
    cases h
    trivial
  | item :: rest, _, h => by
    obtain ⟨first, hf, hr⟩ := Except.ok_of_bind h
    obtain ⟨others, ho, hc⟩ := Except.ok_of_bind hr
    cases hc
    exact ⟨legible_of_fromJson item hf, legible_of_fromItems rest ho⟩

theorem legible_of_fromEntries : ∀ (fields : List (String × Json)) {read : List (String × Expr)},
    fromEntries fields = .ok read → LegibleEntries read
  | [], _, h => by
    cases h
    trivial
  | (key, value) :: rest, _, h => by
    unfold fromEntries at h
    obtain ⟨first, hf, hr⟩ := Except.ok_of_bind h
    obtain ⟨others, ho, hc⟩ := Except.ok_of_bind hr
    cases hc
    exact ⟨legible_of_fromJson value hf, legible_of_fromEntries rest ho⟩

theorem legible_of_fromContent (kind : Kind) (all : Entries Json) :
    ∀ (fields : List (String × Json)) {read : Expr}, fromContent kind all fields = .ok read →
      Legible read
  | [], _, h => by
    unfold fromContent withoutContent at h
    cases kind with
    | pipeline =>
      obtain ⟨_, -, rfl⟩ := Except.ok_of_map h
      trivial
    | _ =>
      cases h
      trivial
  | (key, content) :: rest, _, h => by
    by_cases hk : key = valueTag
    · cases kind with
      | pipeline =>
        obtain ⟨steps, environment, rfl, -, rfl | hs⟩ := ok_of_pipelineContent hk h
        · trivial
        · show LegibleSteps steps
          exact legible_of_readSteps content hs
      | defer =>
        unfold fromContent at h
        rw [if_pos hk] at h
        obtain ⟨inner, hi, rfl⟩ := Except.ok_of_map h
        show Legible inner
        exact legible_of_fromJson content hi
      | _ =>
        unfold fromContent at h
        rw [if_pos hk] at h
        obtain ⟨_, -, rfl⟩ := Except.ok_of_map h
        trivial
    · unfold fromContent at h
      rw [if_neg hk] at h
      exact legible_of_fromContent kind all rest h

theorem legible_of_readSteps : ∀ (content : Json) {read : List Step},
    readSteps content = .ok read → LegibleSteps read
  | .array items, _, h => legible_of_readStepItems items h
  | .null, _, h | .bool _, _, h | .number _, _, h | .string _, _, h | .object _, _, h => by cases h

theorem legible_of_readStepItems : ∀ (items : List Json) {read : List Step},
    readStepItems items = .ok read → LegibleSteps read
  | [], _, h => by
    cases h
    trivial
  | item :: rest, _, h => by
    obtain ⟨first, hf, hr⟩ := Except.ok_of_bind h
    obtain ⟨others, ho, hc⟩ := Except.ok_of_bind hr
    cases hc
    exact ⟨legible_of_readStep item hf, legible_of_readStepItems rest ho⟩

theorem legible_of_readStep : ∀ (value : Json) {read : Step}, readStep value = .ok read →
    LegibleStep read
  | .object fields, _, h => Step.legible_of_ofFields (legible_fieldSources fields) h
  | .array items, _, h => Step.legible_of_ofItems (legible_itemSources items) h
  | .null, _, h | .bool _, _, h | .number _, _, h | .string _, _, h => by cases h

theorem legible_fieldSources : ∀ fields : List (String × Json),
    ∀ entry ∈ fieldSources fields, entry.2.Legible
  | [], _, hm => by cases hm
  | (key, value) :: rest, entry, hm => by
    unfold fieldSources at hm
    rcases List.mem_cons.1 hm with rfl | hm
    · exact legible_source (fun _ hc => legible_of_readConfig value hc)
        (fun _ hv => legible_of_fromJson value hv)
    · exact legible_fieldSources rest entry hm

theorem legible_itemSources : ∀ items : List Json, ∀ source ∈ itemSources items, source.Legible
  | [], _, hm => by cases hm
  | value :: rest, source, hm => by
    unfold itemSources at hm
    rcases List.mem_cons.1 hm with rfl | hm
    · exact legible_source (fun _ hc => legible_of_readConfig value hc)
        (fun _ hv => legible_of_fromJson value hv)
    · exact legible_itemSources rest source hm

theorem legible_of_readConfig : ∀ (value : Json) {read : Entries Expr},
    readConfig value = .ok read → LegibleEntries read
  | .object fields, _, h => legible_of_fromEntries fields (ok_of_refused h)
  | .null, _, h | .bool _, _, h | .number _, _, h | .string _, _, h | .array _, _, h => by cases h

end

theorem legibleEntries_iff {entries : List (String × Expr)} :
    LegibleEntries entries ↔ ∀ entry ∈ entries, Legible entry.2 := by
  induction entries with
  | nil => simp [LegibleEntries]
  | cons entry rest ih => simp [LegibleEntries, ih]

end Expr

theorem forall_of_mapM {ε α β : Type} {P : β → Prop} {f : α → Except ε β}
    (hf : ∀ x y, f x = .ok y → P y) {xs : List α} {ys : List β} (h : xs.mapM f = .ok ys) :
    ∀ y ∈ ys, P y := by
  induction xs generalizing ys with
  | nil =>
    rw [List.mapM_nil] at h
    cases h
    nofun
  | cons x xs ih =>
    rw [List.mapM_cons] at h
    obtain ⟨first, hx, hr⟩ := Except.ok_of_bind h
    obtain ⟨others, ho, hc⟩ := Except.ok_of_bind hr
    cases hc
    exact List.forall_mem_cons.2 ⟨hf x first hx, ih ho⟩

namespace Step

open BrickPipeline.Expr

theorem toJson?_ne_null {tree : Json.Tree} (hn : tree ≠ .null) {value : Json}
    (h : Wire.json tree = .ok value) : value ≠ .null := by
  rintro rfl
  have hj : tree.toJson? = some .null := by
    unfold Wire.json at h
    split at h
    · rename_i found hf
      cases h
      exact hf
    · cases h
  cases tree with
  | null => exact hn rfl
  | array items =>
    unfold Json.Tree.toJson? at hj
    cases hi : Json.Tree.itemsToJson? items <;> simp [hi] at hj
  | object fields =>
    unfold Json.Tree.toJson? at hj
    cases hf : Json.Tree.fieldsToJson? fields <;> simp [hf, Json.ofFields] at hj
  | _ => simp [Json.Tree.toJson?] at hj

theorem Source.legible_ofTree (tree : Json.Tree) : (Source.ofTree tree).Legible := by
  constructor
  · intro config h
    unfold Source.ofTree at h
    dsimp only at h
    split at h
    · obtain ⟨entries, he, hc⟩ := Except.ok_of_bind h
      cases hc
      have hall : ∀ entry ∈ entries, Expr.Legible entry.2 := by
        refine forall_of_mapM (fun x y hxy => ?_) he
        obtain ⟨value, -, hr⟩ := Except.ok_of_bind hxy
        obtain ⟨read, hread, hy⟩ := Except.ok_of_bind hr
        cases hy
        exact legible_of_fromJson value (ok_of_refused hread)
      exact legibleEntries_iff.2 fun entry hm => hall entry (Entries.mem_of_mem_ofList hm)
    · cases h
  · intro read hn h
    obtain ⟨value, hv, hr⟩ := Except.ok_of_bind h
    have hread := ok_of_refused hr
    exact ⟨ne_null_of_fromJson (toJson?_ne_null hn hv) hread, legible_of_fromJson value hread⟩

/-- A step that was read is legible. -/
theorem legible_of_read {origin : Wire.Origin} {tree : Json.Tree} {step : Step}
    (h : Step.read origin tree = .ok step) : LegibleStep step := by
  unfold Step.read at h
  split at h
  · refine legible_of_ofFields (fun entry hm => ?_) h
    obtain ⟨field, -, rfl⟩ := List.mem_map.1 hm
    exact Source.legible_ofTree field.2
  · refine legible_of_ofItems (fun source hm => ?_) h
    obtain ⟨item, -, rfl⟩ := List.mem_map.1 hm
    exact Source.legible_ofTree item
  · cases h

end Step

/-- A pipeline that was read is legible. -/
theorem Pipeline.legible_of_read {origin : Wire.Origin} {tree : Json.Tree} {steps : Pipeline}
    (h : Pipeline.read origin tree = .ok steps) : Expr.LegibleSteps steps := by
  have hall : ∀ step ∈ steps, Expr.LegibleStep step := by
    unfold Pipeline.read Wire.list at h
    split at h
    · exact forall_of_mapM (fun _ _ => Step.legible_of_read) h
    · cases h
  clear h
  induction steps with
  | nil => trivial
  | cons step rest ih =>
    exact ⟨hall _ List.mem_cons_self, ih fun s hm => hall s (List.mem_cons_of_mem _ hm)⟩

end BrickPipeline
