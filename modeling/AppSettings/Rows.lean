import AppSettings.Repositories

/-!
# The repository rows editor

The row handlers of `AppSettingsScreen` (`handleArtifactoryTypeChange`,
`handleArtifactoryRepositoryChange`, `handleRemoveArtifactoryIntegration`,
`handleAddArtifactoryIntegration`), the per-row option filter of the render (`usedTypes`,
`availableOptions`) and the Add button's guard, as a state machine over the row list.  The
rebuild effect (`setArtifactoryIntegrations(mapRepositoriesToIntegrations(...))`) is one more
step.

What is proved here:

* `rows_invariant`: whatever the type list the handlers close over, and however it changes
  between steps, every reachable row list has distinct ids and distinct non-empty types, so
  `integrationsToRepositoryMap` does not depend on the order of the rows and keeps every row's
  trimmed key;
* `addCap_invariant`: with the type list fixed and duplicate-free, the Add button's count guard
  keeps at most one row per type, and every row has a type left to choose.
-/

namespace AppSettings

/-- `SUPPORTED_ARTIFACTORY_REPO_TYPES`: the values of `ArtifactoryRepositoryTypes`, the
fallback when the repository-type query has no data. -/
def SUPPORTED_ARTIFACTORY_REPO_TYPES : List String :=
  ["pypi", "npm", "maven", "gradle", "go", "nuget", "docker", "helm", "terraform", "conan",
    "cargo", "composer", "gems", "cocoapods", "cran", "pub", "sbt", "ivy", "swift", "bower"]

/-! ## Handlers -/

/-- `handleArtifactoryTypeChange(id, value)` applied to the rows, with the `repositoryTypes`
its callback closes over: a type outside the list becomes `""`, and a new type clears the key. -/
def handleArtifactoryTypeChange (repositoryTypes : List String) (id value : String)
    (prev : List ArtifactoryRepositoryIntegration) : List ArtifactoryRepositoryIntegration :=
  prev.map fun integration =>
    if integration.id ≠ id then integration
    else
      let nextType := if value ∈ repositoryTypes then value else ""
      let shouldResetRepository := nextType ≠ integration.repositoryType
      { integration with
        repositoryType := nextType
        repositoryKey := if shouldResetRepository then "" else integration.repositoryKey }

/-- `handleArtifactoryRepositoryChange(id)(value)`: the key is replaced verbatim. -/
def handleArtifactoryRepositoryChange (id value : String)
    (prev : List ArtifactoryRepositoryIntegration) : List ArtifactoryRepositoryIntegration :=
  prev.map fun integration =>
    if integration.id = id then { integration with repositoryKey := value } else integration

/-- `handleRemoveArtifactoryIntegration(id)`. -/
def handleRemoveArtifactoryIntegration (id : String)
    (prev : List ArtifactoryRepositoryIntegration) : List ArtifactoryRepositoryIntegration :=
  prev.filter fun integration => integration.id ≠ id

/-- `handleAddArtifactoryIntegration()`: a blank row with a random id. -/
def handleAddArtifactoryIntegration (randomSuffix : String)
    (prev : List ArtifactoryRepositoryIntegration) : List ArtifactoryRepositoryIntegration :=
  prev ++ [createIntegration none none none randomSuffix]

/-- `usedTypes` in the render of `integration`: the types the other rows have chosen. -/
def usedTypes (integrations : List ArtifactoryRepositoryIntegration)
    (integration : ArtifactoryRepositoryIntegration) : List String :=
  (integrations.filter fun item => item.id ≠ integration.id ∧ item.repositoryType ≠ "").map
    (·.repositoryType)

/-- The values of `availableOptions` for `integration` (the labels are display text only). -/
def availableOptions (repositoryTypes : List String)
    (integrations : List ArtifactoryRepositoryIntegration)
    (integration : ArtifactoryRepositoryIntegration) : List String :=
  repositoryTypes.filter fun option =>
    option = integration.repositoryType ∨ option ∉ usedTypes integrations integration

/-- The Add button's `isDisabled`. -/
def addButtonDisabled (isPending : Bool) (repositoryTypes : List String)
    (integrations : List ArtifactoryRepositoryIntegration) : Bool :=
  isPending || repositoryTypes.length = 0 || integrations.length ≥ repositoryTypes.length

/-! ## The rows machine -/

/-- What can happen to the rows. -/
inductive RowEvent
  /-- the effect on `settings?.ARTIFACTORY_REPOSITORIES` -/
  | rebuild (repositories : Option RepositoryMap)
  | add (randomSuffix : String)
  | remove (id : String)
  | changeKey (id value : String)
  | changeType (repositoryTypes : List String) (id value : String)

/-- The rows after an event. -/
def RowEvent.apply : RowEvent → List ArtifactoryRepositoryIntegration →
    List ArtifactoryRepositoryIntegration
  | .rebuild repositories, _ => mapRepositoriesToIntegrations repositories
  | .add randomSuffix, rows => handleAddArtifactoryIntegration randomSuffix rows
  | .remove id, rows => handleRemoveArtifactoryIntegration id rows
  | .changeKey id value, rows => handleArtifactoryRepositoryChange id value rows
  | .changeType repositoryTypes id value, rows =>
    handleArtifactoryTypeChange repositoryTypes id value rows

/-- Row lists reachable from `useState([])` by the events `allowed` admits. -/
inductive RowsReachable (allowed : RowEvent → List ArtifactoryRepositoryIntegration → Prop) :
    List ArtifactoryRepositoryIntegration → Prop
  | init : RowsReachable allowed []
  | step {rows} (e : RowEvent) : RowsReachable allowed rows → allowed e rows →
      RowsReachable allowed (e.apply rows)

/-! ## Distinct ids and distinct types -/

/-- The steps the rendered controls allow: Add draws an id no row has, and a row's type select
offers only the row's `availableOptions`, computed from the type list the handler closes over
(which may differ from step to step). -/
def EditorStep : RowEvent → List ArtifactoryRepositoryIntegration → Prop
  | .add randomSuffix, rows => ∀ r ∈ rows, r.id ≠ "artifactory-" ++ randomSuffix
  | .changeType repositoryTypes id value, rows =>
    ∀ r ∈ rows, r.id = id → value ∈ availableOptions repositoryTypes rows r
  | _, _ => True

/-- Two rows that may stand in one list: different ids, and a shared type only if it is `""`. -/
def Compatible (a b : ArtifactoryRepositoryIntegration) : Prop :=
  a.id ≠ b.id ∧ (a.repositoryType = b.repositoryType → a.repositoryType = "")

theorem Compatible.symm {a b : ArtifactoryRepositoryIntegration} (h : Compatible a b) :
    Compatible b a :=
  ⟨Ne.symm h.1, fun e => e.trans (h.2 e.symm)⟩

/-- The invariant of the editor: rows pairwise compatible. -/
def Distinct (rows : List ArtifactoryRepositoryIntegration) : Prop := rows.Pairwise Compatible

theorem append_prefix_inj {p a b : String} (h : p ++ a = p ++ b) : a = b :=
  String.ext (by simpa using congrArg String.data h)

theorem distinct_rebuild (repositories : Option RepositoryMap) :
    Distinct (mapRepositoriesToIntegrations repositories) := by
  cases repositories with
  | none => exact List.Pairwise.nil
  | some m =>
    refine List.pairwise_map.2 ((List.pairwise_map.1 m.nodup).imp fun {a b} hab => ?_)
    exact ⟨fun h => hab (append_prefix_inj h), fun h => absurd h hab⟩

theorem distinct_add {rows : List ArtifactoryRepositoryIntegration} (h : Distinct rows)
    {randomSuffix : String} (hfresh : ∀ r ∈ rows, r.id ≠ "artifactory-" ++ randomSuffix) :
    Distinct (handleAddArtifactoryIntegration randomSuffix rows) :=
  List.pairwise_append.2 ⟨h, List.pairwise_singleton _ _, fun a ha b hb => by
    rw [List.mem_singleton] at hb
    subst hb
    exact ⟨hfresh a ha, id⟩⟩

theorem distinct_remove {rows : List ArtifactoryRepositoryIntegration} (h : Distinct rows)
    (id : String) : Distinct (handleRemoveArtifactoryIntegration id rows) :=
  h.sublist (List.filter_sublist _)

theorem distinct_changeKey {rows : List ArtifactoryRepositoryIntegration} (h : Distinct rows)
    (id value : String) : Distinct (handleArtifactoryRepositoryChange id value rows) := by
  refine List.pairwise_map.2 (h.imp fun {a b} hab => ?_)
  split_ifs <;> exact hab

/-- One row under `handleArtifactoryTypeChange`. -/
def typeChangeRow (repositoryTypes : List String) (id value : String)
    (integration : ArtifactoryRepositoryIntegration) : ArtifactoryRepositoryIntegration :=
  if integration.id ≠ id then integration
  else
    let nextType := if value ∈ repositoryTypes then value else ""
    { integration with
      repositoryType := nextType
      repositoryKey := if nextType ≠ integration.repositoryType then "" else
        integration.repositoryKey }

theorem handleArtifactoryTypeChange_eq (repositoryTypes : List String) (id value : String)
    (prev : List ArtifactoryRepositoryIntegration) :
    handleArtifactoryTypeChange repositoryTypes id value prev =
      prev.map (typeChangeRow repositoryTypes id value) := rfl

theorem typeChangeRow_of_ne {repositoryTypes : List String} {id value : String}
    {integration : ArtifactoryRepositoryIntegration} (h : integration.id ≠ id) :
    typeChangeRow repositoryTypes id value integration = integration := if_pos h

/-- The row that changes type stays compatible with every other row. -/
theorem compatible_typeChangeRow {rows : List ArtifactoryRepositoryIntegration}
    {repositoryTypes : List String} {id value : String} {a b : ArtifactoryRepositoryIntegration}
    (hb : b ∈ rows) (hab : Compatible a b) (hida : a.id = id)
    (hopt : value ∈ availableOptions repositoryTypes rows a) :
    Compatible (typeChangeRow repositoryTypes id value a) b := by
  simp only [availableOptions, List.mem_filter, decide_eq_true_eq] at hopt
  obtain ⟨hT, hfree⟩ := hopt
  simp only [typeChangeRow, hida, ne_eq, not_true_eq_false, if_false, if_pos hT]
  refine ⟨hida ▸ hab.1, fun hvb => ?_⟩
  rcases hfree with hva | hused
  · exact hva ▸ hab.2 (hva ▸ hvb)
  · -- `b` is another row, so its type is among the used ones unless it is `""`
    by_contra hv
    refine hused (List.mem_map.2 ⟨b, List.mem_filter.2 ⟨hb, ?_⟩, hvb.symm⟩)
    simpa [Ne.symm hab.1] using (hvb ▸ hv : b.repositoryType ≠ "")

theorem distinct_changeType {rows : List ArtifactoryRepositoryIntegration} (h : Distinct rows)
    {repositoryTypes : List String} {id value : String}
    (hopt : ∀ r ∈ rows, r.id = id → value ∈ availableOptions repositoryTypes rows r) :
    Distinct (handleArtifactoryTypeChange repositoryTypes id value rows) := by
  rw [handleArtifactoryTypeChange_eq, Distinct, List.pairwise_map]
  refine h.imp_of_mem fun {a b} ha hb hab => ?_
  by_cases hida : a.id = id <;> by_cases hidb : b.id = id
  · exact absurd (hida.trans hidb.symm) hab.1
  · rw [typeChangeRow_of_ne hidb]
    exact compatible_typeChangeRow hb hab hida (hopt a ha hida)
  · rw [typeChangeRow_of_ne hida]
    exact (compatible_typeChangeRow ha hab.symm hidb (hopt b hb hidb)).symm
  · rw [typeChangeRow_of_ne hida, typeChangeRow_of_ne hidb]
    exact hab

theorem distinct_of_reachable {rows : List ArtifactoryRepositoryIntegration}
    (h : RowsReachable EditorStep rows) : Distinct rows := by
  induction h with
  | init => exact List.Pairwise.nil
  | step e _ he ih =>
    cases e with
    | rebuild repositories => exact distinct_rebuild repositories
    | add randomSuffix => exact distinct_add ih he
    | remove id => exact distinct_remove ih id
    | changeKey id value => exact distinct_changeKey ih id value
    | changeType repositoryTypes id value => exact distinct_changeType ih he

/-! ## The repository map of distinct rows -/

theorem integrationEntry_eq_some {r : ArtifactoryRepositoryIntegration} {kv : String × String}
    (h : integrationEntry r = some kv) :
    kv = (r.repositoryType, jsTrim r.repositoryKey) ∧ r.repositoryType ≠ "" := by
  unfold integrationEntry at h
  split_ifs at h with h1
  exact ⟨(Option.some.inj h).symm, h1⟩

theorem nodup_keys_integrationEntries {rows : List ArtifactoryRepositoryIntegration}
    (h : Distinct rows) : ((rows.filterMap integrationEntry).map Prod.fst).Nodup := by
  refine List.pairwise_map.2 (List.pairwise_filterMap.2 (h.imp fun {a b} hab x hx y hy => ?_))
  obtain ⟨rfl, ha⟩ := integrationEntry_eq_some hx
  obtain ⟨rfl, -⟩ := integrationEntry_eq_some hy
  exact fun e => ha (hab.2 e)

theorem get?_integrationsToRepositoryMap {rows : List ArtifactoryRepositoryIntegration}
    (h : Distinct rows) (k : String) :
    (integrationsToRepositoryMap rows).get? k = (rows.filterMap integrationEntry).lookup k := by
  rw [integrationsToRepositoryMap_eq, JsObject.get?_empty_assignAll
    (nodup_keys_integrationEntries h)]

/-- **The editor keeps one row per id and one row per type.**  In every row list reachable by
rebuilds, adds with fresh ids, removals, key edits and type changes to an available option
(the type list changing arbitrarily between steps), ids are distinct and non-empty types are
distinct.  So `integrationsToRepositoryMap` gives the same finite map for every order of the
rows, and it maps each row with a type and a non-blank key to the trimmed key. -/
theorem rows_invariant {rows : List ArtifactoryRepositoryIntegration}
    (h : RowsReachable EditorStep rows) :
    (rows.map (·.id)).Nodup ∧
      ((rows.filter (·.repositoryType ≠ "")).map (·.repositoryType)).Nodup ∧
      (∀ rows' : List ArtifactoryRepositoryIntegration, rows'.Perm rows →
        (integrationsToRepositoryMap rows').Equiv (integrationsToRepositoryMap rows)) ∧
      (∀ r ∈ rows, r.repositoryType ≠ "" → jsTrim r.repositoryKey ≠ "" →
        (integrationsToRepositoryMap rows).get? r.repositoryType =
          some (jsTrim r.repositoryKey)) := by
  have hd := distinct_of_reachable h
  refine ⟨List.pairwise_map.2 (hd.imp (·.1)), ?_, fun rows' hp k => ?_, fun r hr ht hk => ?_⟩
  · refine List.pairwise_map.2 ((hd.filter _).imp_of_mem fun {a b} ha _ hab e => ?_)
    simp only [List.mem_filter, decide_eq_true_eq] at ha
    exact ha.2 (hab.2 e)
  · have hd' : Distinct rows' := (hp.pairwise_iff @Compatible.symm).2 hd
    rw [get?_integrationsToRepositoryMap hd, get?_integrationsToRepositoryMap hd',
      JsObject.lookup_eq_of_perm (hp.filterMap _) (nodup_keys_integrationEntries hd')]
  · rw [get?_integrationsToRepositoryMap hd,
      JsObject.lookup_eq_some_iff (nodup_keys_integrationEntries hd)]
    exact List.mem_filterMap.2 ⟨r, hr, by simp [integrationEntry, ht, hk]⟩

/-- Two rows rebuilt from `sampleRepositories`, a blank row added, then given the type `go`. -/
def sampleRows : List ArtifactoryRepositoryIntegration :=
  (RowEvent.changeType SUPPORTED_ARTIFACTORY_REPO_TYPES "artifactory-k3x9q2ab" "go").apply
    ((RowEvent.add "k3x9q2ab").apply ((RowEvent.rebuild (some sampleRepositories)).apply []))

theorem sampleRows_reachable : RowsReachable EditorStep sampleRows :=
  .step _ (.step _ (.step _ .init trivial) (by unfold EditorStep; decide))
    (by unfold EditorStep; decide)

theorem rows_invariant_sampleRows :
    RowsReachable EditorStep sampleRows ∧
      ((sampleRows.map (·.id)).Nodup ∧
      ((sampleRows.filter (·.repositoryType ≠ "")).map (·.repositoryType)).Nodup ∧
      (∀ rows' : List ArtifactoryRepositoryIntegration, rows'.Perm sampleRows →
        (integrationsToRepositoryMap rows').Equiv (integrationsToRepositoryMap sampleRows)) ∧
      (∀ r ∈ sampleRows, r.repositoryType ≠ "" → jsTrim r.repositoryKey ≠ "" →
        (integrationsToRepositoryMap sampleRows).get? r.repositoryType =
          some (jsTrim r.repositoryKey))) :=
  ⟨sampleRows_reachable, rows_invariant sampleRows_reachable⟩

/-! ## The Add button's cap -/

/-- The steps with the type list `repositoryTypes` fixed: a rebuild loads a baseline whose
types all belong to the list, and Add is clicked only while its button is enabled. -/
def AddCapStep (repositoryTypes : List String) :
    RowEvent → List ArtifactoryRepositoryIntegration → Prop
  | .rebuild repositories, _ => ∀ m ∈ repositories, ∀ k ∈ m.keys, k ∈ repositoryTypes
  | .add _, rows => addButtonDisabled false repositoryTypes rows = false
  | _, _ => True

theorem length_le_of_addCap {repositoryTypes : List String}
    {rows : List ArtifactoryRepositoryIntegration}
    (h : RowsReachable (AddCapStep repositoryTypes) rows) : rows.length ≤ repositoryTypes.length := by
  induction h with
  | init => exact Nat.zero_le _
  | step e _ he ih =>
    cases e with
    | rebuild repositories =>
      cases repositories with
      | none => exact Nat.zero_le _
      | some m =>
        -- the baseline's keys are distinct and all among the types
        have := (m.nodup.subperm (he m rfl)).length_le
        simpa [RowEvent.apply, mapRepositoriesToIntegrations] using this
    | add randomSuffix =>
      simp only [AddCapStep, addButtonDisabled, Bool.false_or, Bool.or_eq_false_iff,
        decide_eq_false_iff_not, not_le] at he
      simpa [RowEvent.apply, handleAddArtifactoryIntegration] using he.2
    | remove id =>
      exact (List.length_filter_le _ _).trans ih
    | changeKey id value => simpa [RowEvent.apply, handleArtifactoryRepositoryChange] using ih
    | changeType T id value => simpa [RowEvent.apply, handleArtifactoryTypeChange] using ih

/-- Fewer rows than types leave every row an option: the other rows use fewer types than the
list holds, so one is left. -/
theorem availableOptions_ne_nil {repositoryTypes : List String} (hT : repositoryTypes.Nodup)
    {rows : List ArtifactoryRepositoryIntegration} (hlen : rows.length ≤ repositoryTypes.length)
    {r : ArtifactoryRepositoryIntegration} (hr : r ∈ rows) :
    availableOptions repositoryTypes rows r ≠ [] := by
  have hused : (usedTypes rows r).length < repositoryTypes.length := by
    refine lt_of_lt_of_le ?_ hlen
    rw [usedTypes, List.length_map, List.length_filter_lt_length_iff_exists]
    exact ⟨r, hr, by simp⟩
  obtain ⟨o, ho, hfree⟩ : ∃ o ∈ repositoryTypes, o ∉ usedTypes rows r := by
    by_contra hall
    push_neg at hall
    exact absurd (hT.subperm hall).length_le (not_le.2 hused)
  exact List.ne_nil_of_mem (List.mem_filter.2 ⟨ho, by simp [hfree]⟩)

/-- **The Add cap leaves every row a category.**  With the type list fixed and
duplicate-free, baselines whose types lie in the list, and Add taken only while enabled, every
reachable row list has at most as many rows as types, and every row has a non-empty
`availableOptions`. -/
theorem addCap_invariant {repositoryTypes : List String} (hT : repositoryTypes.Nodup)
    {rows : List ArtifactoryRepositoryIntegration}
    (h : RowsReachable (AddCapStep repositoryTypes) rows) :
    rows.length ≤ repositoryTypes.length ∧
      ∀ r ∈ rows, availableOptions repositoryTypes rows r ≠ [] :=
  ⟨length_le_of_addCap h, fun _ hr => availableOptions_ne_nil hT (length_le_of_addCap h) hr⟩

/-- Three types; the two rows of `sampleRepositories` and one added row. -/
def sampleTypes : List String := ["npm", "pypi", "go"]

def sampleCappedRows : List ArtifactoryRepositoryIntegration :=
  (RowEvent.add "k3x9q2ab").apply ((RowEvent.rebuild (some sampleRepositories)).apply [])

theorem addCap_invariant_sample :
    sampleTypes.Nodup ∧ RowsReachable (AddCapStep sampleTypes) sampleCappedRows ∧
      (sampleCappedRows.length ≤ sampleTypes.length ∧
        ∀ r ∈ sampleCappedRows, availableOptions sampleTypes sampleCappedRows r ≠ []) :=
  have hreach : RowsReachable (AddCapStep sampleTypes) sampleCappedRows :=
    .step _ (.step _ .init (by unfold AddCapStep; decide)) (by unfold AddCapStep; decide)
  ⟨by decide, hreach, addCap_invariant (by decide) hreach⟩

end AppSettings
