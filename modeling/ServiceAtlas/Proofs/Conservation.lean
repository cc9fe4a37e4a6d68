/-
Nothing is lost silently between declarations and a document.

A document can lose an operation or a schema in three ways only: a method asks for a verb
that endpoints cannot have, an operation replaces another one, or a schema replaces another
one.  Each of them is reported, once for every time it happens, and nothing else is reported
in those words.  So what a document holds and what the log says was lost add up to what
the declarations offer.

The count follows the run.  A method is an endpoint or a refusal, a fold over endpoints keeps
or replaces, a fold over models keeps or replaces, and each step adds one to exactly one side.
-/
import ServiceAtlas.OpenApi.Document
import ServiceAtlas.Proofs.OrderedMap
import ServiceAtlas.Proofs.Catalog

namespace ServiceAtlas

/-! ### Reports of losses -/

/-- The ways in which something can be missing from a document. -/
inductive Loss where
  | verb
  | operation
  | model
  deriving DecidableEq

/-- The loss that a notice reports, if it reports one. -/
def Notice.loss? : Notice → Option Loss
  | .unsupportedVerb .. => some .verb
  | .duplicateOperation .. => some .operation
  | .duplicateModel .. => some .model
  | _ => none

namespace Loss

/-- How often a log reports a loss. -/
def count (l : Loss) (log : List Notice) : Nat :=
  log.countP fun n => n.loss? = some l

@[simp] theorem count_append (l : Loss) (log log' : List Notice) :
    l.count (log ++ log') = l.count log + l.count log' :=
  List.countP_append

theorem count_eq_zero {l : Loss} {log : List Notice} (h : ∀ n ∈ log, n.loss? ≠ some l) :
    l.count log = 0 := by
  refine List.countP_eq_zero.mpr fun n hn => ?_
  simpa using h n hn

theorem count_eq_zero_of_none {l : Loss} {log : List Notice} (h : ∀ n ∈ log, n.loss? = none) :
    l.count log = 0 :=
  count_eq_zero fun n hn => by simp [h n hn]

/-- A log that reports losses of one kind only reports none of another. -/
theorem count_other {l l' : Loss} (hne : l' ≠ l) {log : List Notice}
    (h : ∀ n ∈ log, n.loss? = some l ∨ n.loss? = none) : l'.count log = 0 := by
  refine count_eq_zero fun n hn => ?_
  rcases h n hn with hl | hnone
  · rw [hl]
    exact fun hc => hne (Option.some.inj hc).symm
  · rw [hnone]
    exact nofun

theorem count_eq_length {l : Loss} {log : List Notice} (h : ∀ n ∈ log, n.loss? = some l) :
    l.count log = log.length := by
  refine List.countP_eq_length.mpr fun n hn => ?_
  simpa using h n hn

end Loss

/-! ### Annotations report no loss -/

/-- The effect reports no loss. -/
def PropertyEffect.Lossless (effect : PropertyEffect) : Prop :=
  ∀ a p, ∀ n ∈ (effect a p).2, n.loss? = none

namespace PropertyEffect

theorem lossless_of_silent {effect : PropertyEffect} (h : ∀ a p, (effect a p).2 = []) :
    effect.Lossless := by
  intro a p n hn
  rw [h a p] at hn
  cases hn

theorem lossless_lengthBound (key rule : String) : (lengthBound key rule).Lossless := by
  intro a p n hn
  unfold lengthBound at hn
  split at hn
  · cases hn
  · split at hn
    · cases hn
    · rw [List.mem_singleton.mp hn]
      rfl

theorem lossless_bound (rule : String) : (bound rule).Lossless := by
  intro a p n hn
  unfold bound at hn
  split at hn
  · cases hn
  · split at hn
    · cases hn
    · rw [List.mem_singleton.mp hn]
      rfl

theorem lossless_size : size.Lossless := by
  intro a p n hn
  unfold size at hn
  split at hn
  rename_i q low hlow
  split at hn
  rename_i r high hhigh
  rcases List.mem_append.mp hn with hmem | hmem
  · exact lossless_lengthBound "min" "minLength" a p n (by rw [hlow]; exact hmem)
  · exact lossless_lengthBound "max" "maxLength" a q n (by rw [hhigh]; exact hmem)

theorem lossless_pattern : pattern.Lossless := by
  refine lossless_of_silent fun a p => ?_
  unfold pattern
  split <;> rfl

theorem lossless_markDeprecated : markDeprecated.Lossless := by
  refine lossless_of_silent fun a p => ?_
  unfold markDeprecated
  simp only
  split <;> rfl

end PropertyEffect

namespace EffectTable

open PropertyEffect

/-- No effect on a property reports a loss. -/
def Lossless (effects : EffectTable) : Prop :=
  ∀ marks p, ∀ n ∈ (effects.applyToProperty marks p).2, n.loss? = none

theorem lossless_of_effects {effects : EffectTable}
    (h : ∀ name effect, effects.properties.get? name = some effect →
      effect.Lossless) : effects.Lossless := by
  intro marks
  induction marks with
  | nil => intro p n hn; cases hn
  | cons a rest ih =>
      intro p n hn
      rw [applyToProperty] at hn
      rcases List.mem_append.mp hn with hfirst | hrest
      · unfold onProperty at hfirst
        split at hfirst
        · rename_i effect heffect
          exact h _ _ heffect a p n hfirst
        · cases hfirst
      · exact ih _ n hrest

/-- Of the usual annotations only those with bounds report anything, and what they report is
that a bound was passed over. -/
theorem lossless_standard : standard.Lossless := by
  refine lossless_of_effects fun name effect heffect => ?_
  have hmem := OrderedMap.mem_of_get?_ofList heffect
  revert hmem
  simp only [List.mem_cons, Prod.mk.injEq, List.not_mem_nil, or_false]
  rintro (⟨-, rfl⟩ | ⟨-, rfl⟩ | ⟨-, rfl⟩ | ⟨-, rfl⟩ | ⟨-, rfl⟩ | ⟨-, rfl⟩ | ⟨-, rfl⟩ |
    ⟨-, rfl⟩ | ⟨-, rfl⟩ | ⟨-, rfl⟩ | ⟨-, rfl⟩ | ⟨-, rfl⟩ | ⟨-, rfl⟩)
  -- In the order of the table.
  exacts [lossless_of_silent fun _ _ => rfl, lossless_of_silent fun _ _ => rfl,
    lossless_of_silent fun _ _ => rfl, lossless_size, lossless_bound _, lossless_bound _,
    lossless_bound _, lossless_bound _, lossless_pattern, lossless_of_silent fun _ _ => rfl,
    lossless_markDeprecated, lossless_of_silent fun _ _ => rfl, lossless_of_silent fun _ _ => rfl]

end EffectTable

/-! ### Surveys of models report no loss -/

namespace Survey

variable {h : Heuristics} {effects : EffectTable} {d : Declaration} {m : Method}

theorem lossless_property (hl : effects.Lossless) (name : String) (type : WrittenType)
    (marks : List Mark) (documentation : Documentation) :
    (property effects name type marks documentation).Reports fun n => n.loss? = none := by
  refine (reports_typeRef type).bind fun r => ?_
  intro n hn
  refine hl marks (.plain name (some r)) n ?_
  cases hp : effects.applyToProperty marks (.plain name (some r)) with
  | mk p ns =>
      rw [hp] at hn
      change n ∈ ns ++ [] at hn
      rwa [List.append_nil] at hn

theorem lossless_interfaceModel (hl : effects.Lossless) (d : Declaration) :
    (interfaceModel effects d).Reports fun n => n.loss? = none :=
  (reports_each (fun _ => lossless_property hl _ _ _ _) _).bind fun _ => reports_pure _

theorem lossless_model (hl : effects.Lossless) (d : Declaration) :
    (model effects d).Reports fun n => n.loss? = none := by
  unfold model
  split
  · exact reports_pure _
  · exact lossless_interfaceModel hl d
  · exact (reports_each (fun _ => lossless_property hl _ _ _ _) _).bind fun _ => reports_pure _

/-! ### A method with a mapping is an endpoint or a report -/

/-- The method carries a mapping annotation. -/
def isMapped (h : Heuristics) (m : Method) : Bool :=
  Mark.any m.marks h.mappingMarks

theorem isMapped_eq_isSome : isMapped h m = (Mark.find? m.marks h.mappingMarks).isSome := by
  rw [Bool.eq_iff_iff, isMapped, Mark.any, List.any_eq_true, Mark.find?, List.find?_isSome]

/-- A mapped method is either an endpoint or a refused verb, any other method neither. -/
theorem endpoint?_conserved (wt : ∀ t ∈ m.types, t.isWellFormed = true) :
    (endpoint? h d m).result.toList.length + Loss.verb.count (endpoint? h d m).notices
      = if isMapped h m then 1 else 0 := by
  rw [isMapped_eq_isSome]
  rcases endpoint?_cases (h := h) (d := d) wt with
    ⟨hfind, heq⟩ | ⟨_, hfind, -, heq⟩ | ⟨_, _, _, hfind, -, heq, -⟩
  all_goals
    rw [heq, hfind]
    rfl

theorem loss_of_mem_endpoint? (wt : ∀ t ∈ m.types, t.isWellFormed = true) :
    ∀ n ∈ (endpoint? h d m).notices, n.loss? = some .verb := by
  intro n hn
  rcases endpoint?_cases (h := h) (d := d) wt with ⟨-, heq⟩ | ⟨_, -, -, heq⟩ | ⟨_, _, _, -, -, heq, -⟩
  all_goals rw [heq] at hn
  · cases hn
  · rw [List.mem_singleton.mp hn]
    rfl
  · cases hn

theorem methods_conserved :
    ∀ {ms : List Method}, (∀ m ∈ ms, ∀ t ∈ m.types, t.isWellFormed = true) →
      (ms.filterMap fun m => (endpoint? h d m).result).length
          + Loss.verb.count (ms.flatMap fun m => (endpoint? h d m).notices)
        = ms.countP (isMapped h) := by
  intro ms
  induction ms with
  | nil => intro _; rfl
  | cons m rest ih =>
      intro wt
      have hrest := ih fun m' hm' => wt m' (by simp [hm'])
      have hfirst := endpoint?_conserved (h := h) (d := d) (wt m (by simp))
      rw [List.flatMap_cons, Loss.count_append, List.countP_cons, ← hfirst, ← hrest]
      cases hres : (endpoint? h d m).result with
      | none =>
          simp only [List.filterMap_cons, hres, Option.toList_none, List.length_nil]
          omega
      | some e =>
          simp only [List.filterMap_cons, hres, Option.toList_some, List.length_cons,
            List.length_nil]
          omega

theorem endpoints_conserved (wt : d.WellTyped) :
    (endpoints h d).result.length + Loss.verb.count (endpoints h d).notices
      = d.methods.countP (isMapped h) := by
  rw [← methods_conserved (d := d) fun m hm => wt.method hm, endpoints_ok wt]
  show _ + Loss.verb.count (_ ++ _) = _
  rw [Loss.count_append]
  rfl

theorem loss_of_mem_endpoints (wt : d.WellTyped) :
    ∀ n ∈ (endpoints h d).notices, n.loss? = some .verb ∨ n.loss? = none := by
  intro n hn
  rw [endpoints_ok wt] at hn
  rcases List.mem_append.mp hn with hmethod | hlast
  · obtain ⟨m, hm, hnm⟩ := List.mem_flatMap.mp hmethod
    exact Or.inl (loss_of_mem_endpoint? (wt.method hm) n hnm)
  · rw [List.mem_singleton.mp hlast]
    exact Or.inr rfl

/-! ### From declarations to endpoints and models -/

theorem findings_conserved (wt : d.WellTyped) (hl : effects.Lossless) :
    (endpointsOf h [d]).length + Loss.verb.count (findings h effects d).notices
      = ((ofRole h .controller [d]).flatMap (·.methods)).countP (isMapped h) := by
  cases hrole : d.role h with
  | model =>
      rw [findings_of_model effects wt hrole]
      simp only [endpointsOf, ofRole, List.filter_cons, hrole]
      show 0 + Loss.verb.count (model effects d).notices = 0
      rw [Loss.count_eq_zero_of_none (lossless_model hl d)]
  | controller =>
      have hcount := endpoints_conserved (h := h) wt
      rw [findings_of_controller effects wt hrole]
      simpa [endpointsOf, ofRole, hrole, notices] using hcount
  | skip =>
      rw [findings_of_skip effects hrole]
      simp only [endpointsOf, ofRole, List.filter_cons, hrole]
      rfl

/-- Every mapped method of a controller is an endpoint or a reported refusal. -/
theorem endpointsOf_conserved (hl : effects.Lossless) :
    ∀ {ds : List Declaration}, (∀ d ∈ ds, d.WellTyped) →
      (endpointsOf h ds).length
          + Loss.verb.count (ds.flatMap fun d => (findings h effects d).notices)
        = ((ofRole h .controller ds).flatMap (·.methods)).countP (isMapped h) := by
  intro ds
  induction ds with
  | nil => intro _; rfl
  | cons d rest ih =>
      intro wt
      have hrest := ih fun d' hd' => wt d' (by simp [hd'])
      have hfirst := findings_conserved (h := h) (wt d (by simp)) hl
      rw [← List.singleton_append, endpointsOf_append, ofRole_append, List.flatMap_append,
        List.flatMap_append, List.length_append, List.countP_append, Loss.count_append,
        List.flatMap_singleton]
      omega

theorem loss_of_mem_findings (wt : d.WellTyped) (hl : effects.Lossless) :
    ∀ n ∈ (findings h effects d).notices, n.loss? = some .verb ∨ n.loss? = none := by
  intro n hn
  cases hrole : d.role h with
  | model =>
      rw [findings_of_model effects wt hrole] at hn
      exact Or.inr (lossless_model hl d n hn)
  | controller =>
      rw [findings_of_controller effects wt hrole] at hn
      exact loss_of_mem_endpoints wt n hn
  | skip =>
      rw [findings_of_skip effects hrole] at hn
      rw [List.mem_singleton.mp hn]
      exact Or.inr rfl

theorem loss_of_mem_duplicateNotices :
    ∀ (ms : List Model) (seen : List String),
      ∀ n ∈ duplicateNotices seen ms, n.loss? = some .model := by
  intro ms
  induction ms with
  | nil => intro seen n hn; cases hn
  | cons m rest ih =>
      intro seen n hn
      rw [duplicateNotices] at hn
      split at hn
      · rcases List.mem_cons.mp hn with rfl | hrest
        · rfl
        · exact ih seen n hrest
      · exact ih _ n hn

theorem length_modelsOf (ds : List Declaration) :
    (modelsOf h effects ds).length
      = ds.countP (fun d => d.role h = .model)
        + ds.countP fun d => d.role h = .skip && d.isModelInterface h := by
  rw [modelsOf, List.length_append, List.length_map, List.length_map, ofRole, mined,
    List.countP_eq_length_filter, List.countP_eq_length_filter]

/-- What the log of a catalog says was lost: refused verbs by the controllers, replaced models
by the models, and no operation. -/
theorem count_catalogNotices {ds : List Declaration} (wt : ∀ d ∈ ds, d.WellTyped)
    (hl : effects.Lossless) :
    Loss.verb.count (catalogNotices h effects ds)
        = Loss.verb.count (ds.flatMap fun d => (findings h effects d).notices) ∧
      Loss.model.count (catalogNotices h effects ds)
        = (duplicateNotices [] (modelsOf h effects ds)).length ∧
      Loss.operation.count (catalogNotices h effects ds) = 0 := by
  have hfound : ∀ n ∈ ds.flatMap (fun d => (findings h effects d).notices),
      n.loss? = some .verb ∨ n.loss? = none := by
    intro n hn
    obtain ⟨d, hd, hnd⟩ := List.mem_flatMap.mp hn
    exact loss_of_mem_findings (wt d hd) hl n hnd
  have hmined : ∀ n ∈ (mined h ds).flatMap (fun d => (interfaceModel effects d).notices),
      n.loss? = none := by
    intro n hn
    obtain ⟨d, -, hnd⟩ := List.mem_flatMap.mp hn
    exact lossless_interfaceModel hl d n hnd
  have hsame := loss_of_mem_duplicateNotices (modelsOf h effects ds) []
  have hverb : ∀ l : Loss, l ≠ .verb →
      l.count (ds.flatMap fun d => (findings h effects d).notices) = 0 :=
    fun l hne => Loss.count_other hne hfound
  have hmodel : ∀ l : Loss, l ≠ .model →
      l.count (duplicateNotices [] (modelsOf h effects ds)) = 0 :=
    fun l hne => Loss.count_other hne fun n hn => Or.inl (hsame n hn)
  have hlast : ∀ l : Loss, l.count [Notice.surveyed (endpointsOf h ds).length
      (modelsOf h effects ds).length ds.length] = 0 := fun l => rfl
  unfold catalogNotices
  simp only [Loss.count_append, hlast, Loss.count_eq_zero_of_none hmined]
  refine ⟨?_, ?_, ?_⟩
  · rw [hmodel .verb (by decide)]
    rfl
  · rw [hverb .model (by decide), Loss.count_eq_length hsame]
    omega
  · rw [hverb .operation (by decide), hmodel .operation (by decide)]

end Survey

/-! ### A fold over endpoints keeps or replaces -/

namespace OpenApi

/-- The number of operations under all paths. -/
def Paths.operationCount (paths : Paths) : Nat :=
  (paths.values.map OrderedMap.size).sum

namespace Paths

variable (style : DocumentStyle)

theorem size_item (paths : Paths) (key : String) :
    (paths.item key).size = ((paths.get? key).map OrderedMap.size).getD 0 := by
  unfold item
  cases paths.get? key with
  | none => rfl
  | some item => rfl

/-- One more endpoint is one more operation or one more report. -/
theorem operationCount_add (paths : Paths) (e : Endpoint) :
    (paths.add style e).operationCount + (paths.replacement e).length
      = paths.operationCount + 1 := by
  have hsum := paths.sum_values_insert OrderedMap.size (pathKey e)
    ((paths.item (pathKey e)).insert e.verb (.ofEndpoint style e))
  rw [OrderedMap.size_insert, ← size_item] at hsum
  unfold add operationCount replacement
  by_cases hin : e.verb ∈ (paths.item (pathKey e)).keys
  · rw [if_pos hin] at hsum
    rw [if_pos (OrderedMap.contains_iff.mpr hin), List.length_singleton]
    omega
  · rw [if_neg hin] at hsum
    rw [if_neg fun hc => hin (OrderedMap.contains_iff.mp hc), List.length_nil]
    omega

theorem operationCount_addAll :
    ∀ (es : List Endpoint) (paths : Paths),
      (addAll style paths es).1.operationCount + (addAll style paths es).2.length
        = paths.operationCount + es.length := by
  intro es
  induction es with
  | nil => intro paths; rfl
  | cons e rest ih =>
      intro paths
      have hrest := ih (paths.add style e)
      have hfirst := operationCount_add style paths e
      simp only [addAll, List.length_append, List.length_cons]
      omega

theorem loss_of_mem_addAll :
    ∀ (es : List Endpoint) (paths : Paths),
      ∀ n ∈ (addAll style paths es).2, n.loss? = some .operation := by
  intro es
  induction es with
  | nil => intro paths n hn; cases hn
  | cons e rest ih =>
      intro paths n hn
      rcases List.mem_append.mp hn with hfirst | hrest
      · unfold replacement at hfirst
        split at hfirst
        · rw [List.mem_singleton.mp hfirst]
          rfl
        · cases hfirst
      · exact ih _ n hrest

end Paths

/-! ### A fold over models keeps or replaces -/

theorem size_foldl_insert {α : Type} (f : Model → α) :
    ∀ (ms : List Model) (seen : List String) (schemas : OrderedMap String α),
      (∀ name, name ∈ seen ↔ name ∈ schemas.keys) →
        (ms.foldl (fun schemas m => schemas.insert m.name (f m)) schemas).size
            + (Survey.duplicateNotices seen ms).length
          = schemas.size + ms.length := by
  intro ms
  induction ms with
  | nil => intro seen schemas _; rfl
  | cons m rest ih =>
      intro seen schemas hseen
      have hsize := schemas.size_insert m.name (f m)
      rw [List.foldl_cons, Survey.duplicateNotices, List.length_cons]
      by_cases hin : m.name ∈ seen
      · have hrest := ih seen (schemas.insert m.name (f m)) fun name => by
          rw [OrderedMap.keys_insert, if_pos ((hseen _).mp hin)]
          exact hseen name
        rw [if_pos ((hseen _).mp hin)] at hsize
        rw [if_pos (by simpa using hin), List.length_cons]
        omega
      · have hrest := ih (m.name :: seen) (schemas.insert m.name (f m)) fun name => by
          rw [List.mem_cons, OrderedMap.mem_keys_insert, hseen name]
        rw [if_neg fun hc => hin ((hseen _).mpr hc)] at hsize
        rw [if_neg (by simpa using hin)]
        omega

theorem size_modelSchemas (ms : List Model) :
    (modelSchemas ms).size + (Survey.duplicateNotices [] ms).length = ms.length := by
  have hfold := size_foldl_insert modelSchema ms [] ∅ fun name => Iff.rfl
  rw [modelSchemas, OrderedMap.ofList, List.foldl_map]
  exact hfold.trans (Nat.zero_add _)

/-! ### The document and the log add up to the declarations -/

theorem operations_conserved (h : Heuristics) {effects : EffectTable} (hl : effects.Lossless)
    (style : DocumentStyle) {ds : List Declaration} (wt : ∀ d ∈ ds, d.WellTyped) :
    let c := Survey.catalogOf h effects ds
    let log := Survey.catalogNotices h effects ds ++ (document style c).2
    (document style c).1.paths.operationCount + Loss.operation.count log + Loss.verb.count log
      = ((Survey.ofRole h .controller ds).flatMap (·.methods)).countP (Survey.isMapped h) := by
  intro c log
  obtain ⟨hverb, -, hoperation⟩ := Survey.count_catalogNotices (h := h) wt hl
  have hmethods := Survey.endpointsOf_conserved (h := h) hl wt
  have hpaths := Paths.operationCount_addAll style c.endpoints ∅
  have hlost := Paths.loss_of_mem_addAll style c.endpoints ∅
  have hlength : c.endpoints.length = (Survey.endpointsOf h ds).length := by
    simp [c, Survey.catalogOf, Edge.attachAll]
  have hempty : Paths.operationCount ∅ = 0 := rfl
  have hreplaced : Loss.operation.count log = (Paths.addAll style ∅ c.endpoints).2.length := by
    rw [Loss.count_append, hoperation, Nat.zero_add]
    exact Loss.count_eq_length hlost
  have hrefused : Loss.verb.count log
      = Loss.verb.count (ds.flatMap fun d => (Survey.findings h effects d).notices) := by
    have hnone : Loss.verb.count (document style c).2 = 0 :=
      Loss.count_other (by decide) fun n hn => Or.inl (hlost n hn)
    rw [Loss.count_append, hverb, hnone, Nat.add_zero]
  have hkept : (document style c).1.paths = (Paths.addAll style ∅ c.endpoints).1 := rfl
  rw [hreplaced, hrefused, hkept]
  omega

theorem schemas_conserved (h : Heuristics) {effects : EffectTable} (hl : effects.Lossless)
    (style : DocumentStyle) {ds : List Declaration} (wt : ∀ d ∈ ds, d.WellTyped) :
    let c := Survey.catalogOf h effects ds
    let log := Survey.catalogNotices h effects ds ++ (document style c).2
    (document style c).1.schemas.size + Loss.model.count log
      = ds.countP (fun d => d.role h = .model)
        + ds.countP (fun d => d.role h = .skip && d.isModelInterface h) := by
  intro c log
  obtain ⟨-, hmodel, -⟩ := Survey.count_catalogNotices (h := h) wt hl
  have hlost := Paths.loss_of_mem_addAll style c.endpoints ∅
  have hnone : Loss.model.count (document style c).2 = 0 :=
    Loss.count_other (by decide) fun n hn => Or.inl (hlost n hn)
  have hkept : (document style c).1.schemas = modelSchemas (Survey.modelsOf h effects ds) := rfl
  rw [Loss.count_append, hmodel, hnone, Nat.add_zero, hkept, size_modelSchemas,
    Survey.length_modelsOf]

/--
**Nothing is lost silently.**  A document's operations, with the reported replacements of
operations and the reported refusals of verbs, are as many as the mapped methods of all
controllers; its schemas, with the reported replacements of models, are as many as the model
declarations and the mined interfaces.
-/
theorem document_conserves (h : Heuristics) (style : DocumentStyle) {ds : List Declaration}
    (wt : ∀ d ∈ ds, d.WellTyped) :
    ∃ c notices, Survey.catalog h .standard ds = .ok (c, notices) ∧
      let log := notices ++ (document style c).2
      (document style c).1.paths.operationCount + Loss.operation.count log + Loss.verb.count log
        = ((ds.filter fun d => d.role h = .controller).flatMap (·.methods)).countP
            (fun m => Mark.any m.marks h.mappingMarks) ∧
      (document style c).1.schemas.size + Loss.model.count log
        = ds.countP (fun d => d.role h = .model)
          + ds.countP (fun d => d.role h = .skip && d.isModelInterface h) :=
  ⟨_, _, Survey.catalog_ok wt, operations_conserved h EffectTable.lossless_standard style wt,
    schemas_conserved h EffectTable.lossless_standard style wt⟩

/-- Two controllers that meet on one path, written differently, a method that asks for a
refused verb, and a class and an interface of one name. -/
def meeting : List Declaration :=
  let read (path : String) : Method :=
    ⟨"read", .simple "User", [], [⟨"GetMapping", .ofList [("value", path)]⟩], .none, []⟩
  let probe : Method :=
    ⟨"probe", .void, [], [⟨"RequestMapping", .ofList [("method", "RequestMethod.HEAD")]⟩],
      .none, []⟩
  let controller (name : String) (methods : List Method) : Declaration :=
    { Declaration.bare name "shop.web" .plainClass with
      marks := [.plain "RestController"]
      methods := methods }
  [controller "Home" [read "\"\"", probe], controller "Start" [read "\"/\""],
    .bare "User" "shop.model" .plainClass, .bare "User" "shop.model.view" .interface]

theorem document_conserves_meeting :
    (∀ d ∈ meeting, d.WellTyped) ∧
      ∃ c notices, Survey.catalog .standard .standard meeting = .ok (c, notices) ∧
        let log := notices ++ (document .standard c).2
        (document .standard c).1.paths.operationCount + Loss.operation.count log
            + Loss.verb.count log = 3 ∧
          (document .standard c).1.schemas.size + Loss.model.count log = 2 := by
  have hmapped : ((meeting.filter fun d => d.role .standard = .controller).flatMap
      (·.methods)).countP (fun m => Mark.any m.marks Heuristics.standard.mappingMarks) = 3 := by
    decide
  have hmodels : meeting.countP (fun d => d.role .standard = .model)
      + meeting.countP (fun d => d.role .standard = .skip && d.isModelInterface .standard) = 2 := by
    decide
  have hwt : ∀ d ∈ meeting, d.WellTyped := by decide
  have hlaw := document_conserves .standard .standard hwt
  rw [hmapped, hmodels] at hlaw
  exact ⟨hwt, hlaw⟩

end OpenApi

end ServiceAtlas
