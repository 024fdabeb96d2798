import AppSettings.ScreenRows

/-!
# The row's type select

Each row renders a `SettingsSelect` (`settings-select.tsx`): a `<select>` whose value is
`integration.repositoryType || ""`, with a hidden, disabled placeholder option of value `""`
and one option per entry of `availableOptions`, labelled through `ARTIFACTORY_REPO_LABELS`.
React keeps a controlled `<select>` on the first option whose value is the select's value, and
when no option has it, on the first option that is not disabled (`updateOptions` in
`ReactDOMSelect`); the user can pick only an option that is not disabled.

* `selectedOption_value`: a controlled select shows its value exactly when one of its options
  carries it, and otherwise its first enabled option;
* `pickableValues_rowTypeSelect`: the types a user can pick in a row's select are the row's
  `availableOptions`, the values `Enabled` admits for a `typeChange`;
* `shownValue_rowTypeSelect`: a row's select shows the row's type when that type is empty or
  listed in `repositoryTypes`, and otherwise the first available type, which the row does not
  hold;
* `rowTypesAccounted_step`: the handlers give a row only an empty or a listed type, the rows
  effect only a key of the loaded map;
* `typeSelect_shows_rowType`: in every run whose updates of the type list keep the listed types
  the rows hold beyond the loaded map's keys, a row's select shows the row's own type, unless
  that type is a key of the loaded repository map missing from `repositoryTypes`; then it shows
  the first available type.
-/

namespace AppSettings

/-! ## `SettingsSelect` -/

/-- `SettingsSelectOption`. -/
structure SettingsSelectOption where
  value : String
  label : String
deriving DecidableEq

/-- The props of `SettingsSelect` that its `<select>` reads (the label, test id, name, optional
tag and class names are display only). -/
structure SettingsSelectProps where
  value : Option String
  placeholder : Option String
  options : List SettingsSelectOption
  isDisabled : Option Bool

/-- An `<option>` element: its `value`, its text, and whether it is `disabled`. -/
structure OptionElement where
  value : String
  text : String
  disabled : Bool
deriving DecidableEq

/-- React's `updateOptions` for a controlled single `<select>`: the first option whose value is
the select's value, else the first option that is not disabled. -/
def selectedOption (value : String) (options : List OptionElement) : Option OptionElement :=
  (options.find? (·.value == value)).orElse fun _ => options.find? (!·.disabled)

namespace SettingsSelectProps

variable (p : SettingsSelectProps)

/-- The `<option>`s: `{placeholder && <option value="" disabled hidden>}`, then one per
option. -/
def optionElements : List OptionElement :=
  ((jsTruthy p.placeholder).map fun placeholder => ⟨"", placeholder, true⟩).toList ++
    p.options.map fun option => ⟨option.value, option.label, false⟩

/-- The values an `onChange` can carry: those of the enabled options, none when the select is
disabled. -/
def pickableValues : List String :=
  if p.isDisabled.getD false then [] else (p.optionElements.filter (!·.disabled)).map (·.value)

/-- The option the `<select>` shows for `value={value ?? ""}`. -/
def shownOption : Option OptionElement := selectedOption (p.value.getD "") p.optionElements

end SettingsSelectProps

/-- A controlled select shows its value exactly when an option carries it; otherwise it shows its
first enabled option, if any. -/
theorem selectedOption_value (value : String) (options : List OptionElement) :
    (selectedOption value options).map (·.value) =
      if value ∈ options.map (·.value) then some value
      else ((options.filter (!·.disabled)).map (·.value)).head? := by
  unfold selectedOption
  split_ifs with h
  · obtain ⟨o, ho, rfl⟩ := List.mem_map.1 h
    obtain ⟨o', hfind⟩ : ∃ o', options.find? (·.value == o.value) = some o' :=
      Option.isSome_iff_exists.1 (List.find?_isSome.2 ⟨o, ho, by simp⟩)
    have hv : o'.value = o.value := by simpa using List.find?_some hfind
    simp [hfind, hv]
  · have hnone : options.find? (·.value == value) = none :=
      List.find?_eq_none.2 fun o ho hv => h (List.mem_map.2 ⟨o, ho, by simpa using hv⟩)
    simp [hnone, List.head?_map]

/-! ## The row's select -/

/-- `ARTIFACTORY_REPO_LABELS`: the i18n key of each supported type's label. -/
def ARTIFACTORY_REPO_LABELS : String → Option String
  | "pypi" => some "SETTINGS$ARTIFACTORY_REPO_PYPI"
  | "npm" => some "SETTINGS$ARTIFACTORY_REPO_NPM"
  | "maven" => some "SETTINGS$ARTIFACTORY_REPO_MAVEN"
  | "gradle" => some "SETTINGS$ARTIFACTORY_REPO_GRADLE"
  | "go" => some "SETTINGS$ARTIFACTORY_REPO_GO"
  | "nuget" => some "SETTINGS$ARTIFACTORY_REPO_NUGET"
  | "docker" => some "SETTINGS$ARTIFACTORY_REPO_DOCKER"
  | "helm" => some "SETTINGS$ARTIFACTORY_REPO_HELM"
  | "terraform" => some "SETTINGS$ARTIFACTORY_REPO_TERRAFORM"
  | "conan" => some "SETTINGS$ARTIFACTORY_REPO_CONAN"
  | "cargo" => some "SETTINGS$ARTIFACTORY_REPO_CARGO"
  | "composer" => some "SETTINGS$ARTIFACTORY_REPO_COMPOSER"
  | "gems" => some "SETTINGS$ARTIFACTORY_REPO_GEMS"
  | "cocoapods" => some "SETTINGS$ARTIFACTORY_REPO_COCOAPODS"
  | "cran" => some "SETTINGS$ARTIFACTORY_REPO_CRAN"
  | "pub" => some "SETTINGS$ARTIFACTORY_REPO_PUB"
  | "sbt" => some "SETTINGS$ARTIFACTORY_REPO_SBT"
  | "ivy" => some "SETTINGS$ARTIFACTORY_REPO_IVY"
  | "swift" => some "SETTINGS$ARTIFACTORY_REPO_SWIFT"
  | "bower" => some "SETTINGS$ARTIFACTORY_REPO_BOWER"
  | _ => none

/-- The memo `artifactoryRepositoryOptions`, with `t` the translation:
`labelKey ? t(labelKey) : type`. -/
def artifactoryRepositoryOptions (t : String → String) (repositoryTypes : List String) :
    List SettingsSelectOption :=
  repositoryTypes.map fun type => ⟨type, ((ARTIFACTORY_REPO_LABELS type).map t).getD type⟩

/-- The i18n key of the type select's placeholder. -/
def typePlaceholderKey : String := "SETTINGS$ARTIFACTORY_REPOSITORY_TYPE_PLACEHOLDER"

/-- The `SettingsSelect` of `integration`'s row: `availableOptions` as options and
`integration.repositoryType || ""` as value; no `isDisabled`. -/
def rowTypeSelect (t : String → String) (repositoryTypes : List String)
    (integrations : List ArtifactoryRepositoryIntegration)
    (integration : ArtifactoryRepositoryIntegration) : SettingsSelectProps where
  value := some (jsOr (some integration.repositoryType) "")
  placeholder := some (t typePlaceholderKey)
  options := (artifactoryRepositoryOptions t repositoryTypes).filter fun option =>
    option.value = integration.repositoryType ∨ option.value ∉ usedTypes integrations integration
  isDisabled := none

section RowSelect

variable (t : String → String) (repositoryTypes : List String)
  (integrations : List ArtifactoryRepositoryIntegration) (integration : ArtifactoryRepositoryIntegration)

/-- The options' values are the row's `availableOptions`. -/
theorem rowTypeSelect_option_values :
    (rowTypeSelect t repositoryTypes integrations integration).options.map (·.value) =
      availableOptions repositoryTypes integrations integration := by
  simp [rowTypeSelect, artifactoryRepositoryOptions, availableOptions, List.filter_map,
    Function.comp_def]

/-- The values of the enabled `<option>`s: the placeholder is disabled. -/
theorem rowTypeSelect_enabled_values :
    (((rowTypeSelect t repositoryTypes integrations integration).optionElements.filter
      (!·.disabled)).map (·.value)) = availableOptions repositoryTypes integrations integration := by
  rw [← rowTypeSelect_option_values t]
  cases h : jsTruthy (some (t typePlaceholderKey)) <;>
    simp [SettingsSelectProps.optionElements, rowTypeSelect, h, List.filter_map,
      Function.comp_def]

/-- **The select offers the row's available options.** -/
theorem pickableValues_rowTypeSelect :
    (rowTypeSelect t repositoryTypes integrations integration).pickableValues =
      availableOptions repositoryTypes integrations integration := by
  rw [SettingsSelectProps.pickableValues, if_neg (by simp [rowTypeSelect]),
    rowTypeSelect_enabled_values]

/-- A row's own type is among its options exactly when it is listed. -/
theorem mem_availableOptions_self :
    integration.repositoryType ∈ availableOptions repositoryTypes integrations integration ↔
      integration.repositoryType ∈ repositoryTypes := by
  simp [availableOptions]

/-- **What a row's select shows.**  The row's type when it is empty (the placeholder) or listed;
otherwise the first available type. -/
theorem shownValue_rowTypeSelect (ht : t typePlaceholderKey ≠ "") :
    (rowTypeSelect t repositoryTypes integrations integration).shownOption.map (·.value) =
      if integration.repositoryType = "" ∨ integration.repositoryType ∈ repositoryTypes then
        some integration.repositoryType
      else (availableOptions repositoryTypes integrations integration).head? := by
  have hvalues : (rowTypeSelect t repositoryTypes integrations integration).optionElements.map
      (·.value) = "" :: availableOptions repositoryTypes integrations integration := by
    rw [← rowTypeSelect_option_values t]
    simp [SettingsSelectProps.optionElements, rowTypeSelect, ht]
  rw [SettingsSelectProps.shownOption, selectedOption_value, hvalues,
    rowTypeSelect_enabled_values]
  simp [rowTypeSelect, eq_comm (a := ""), mem_availableOptions_self]

end RowSelect

/-! ## Where a row's type comes from -/

/-- The keys of the loaded repository map, the types the rows effect gives the rows. -/
def ScreenState.baselineRepositoryTypes (s : ScreenState) : List String :=
  (s.settings.map (·.ARTIFACTORY_REPOSITORIES.keys)).getD []

/-- Every row's type is empty, listed in `repositoryTypes`, or a key of the loaded repository
map. -/
def RowTypesAccounted (s : ScreenState) : Prop :=
  ∀ r ∈ s.artifactoryIntegrations, r.repositoryType = "" ∨ r.repositoryType ∈ s.repositoryTypes ∨
    r.repositoryType ∈ s.baselineRepositoryTypes

/-- Runs in which an update of the type list keeps every listed type a row holds that is not a
key of the loaded repository map. -/
def TypeListKeepsRowTypes : ScreenEvent → ScreenState → Prop
  | .repositoryTypesQuery data, s => ∀ r ∈ s.artifactoryIntegrations,
      r.repositoryType ∈ s.repositoryTypes → r.repositoryType ∉ s.baselineRepositoryTypes →
        r.repositoryType ∈ data.getD SUPPORTED_ARTIFACTORY_REPO_TYPES
  | _, _ => True

theorem repositoryType_mem_keys {repositories : Option RepositoryMap}
    {r : ArtifactoryRepositoryIntegration} (h : r ∈ mapRepositoriesToIntegrations repositories) :
    r.repositoryType ∈ (repositories.map (·.keys)).getD [] := by
  cases repositories with
  | none => cases h
  | some m =>
    obtain ⟨⟨type, key⟩, hmem, rfl⟩ := List.mem_map.1 h
    exact List.mem_map.2 ⟨_, hmem, rfl⟩

theorem repositoryType_of_mem_typeChange {repositoryTypes : List String} {id value : String}
    {rows : List ArtifactoryRepositoryIntegration} {r : ArtifactoryRepositoryIntegration}
    (h : r ∈ handleArtifactoryTypeChange repositoryTypes id value rows) :
    r ∈ rows ∨ r.repositoryType = "" ∨ r.repositoryType ∈ repositoryTypes := by
  rw [handleArtifactoryTypeChange_eq] at h
  obtain ⟨r₀, hr₀, rfl⟩ := List.mem_map.1 h
  by_cases hid : r₀.id ≠ id
  · exact .inl (by rwa [typeChangeRow_of_ne hid])
  · simp only [typeChangeRow, if_neg hid]
    by_cases hv : value ∈ repositoryTypes <;> simp [hv]

section Step

variable {c : Collaborators} {config : Option Config} {e : ScreenEvent} {s : ScreenState}

/-- The repository maps of two loads that React Query keeps as one object have the same keys. -/
theorem baselineRepositoryTypes_of_same {settings data : Option Settings}
    (h : SameRepositories (settings.map (·.ARTIFACTORY_REPOSITORIES))
      (data.map (·.ARTIFACTORY_REPOSITORIES))) (k : String) :
    k ∈ (settings.map (·.ARTIFACTORY_REPOSITORIES.keys)).getD [] ↔
      k ∈ (data.map (·.ARTIFACTORY_REPOSITORIES.keys)).getD [] := by
  cases settings <;> cases data <;>
    simp only [SameRepositories, Option.map_some', Option.map_none'] at h ⊢
  exact h.mem_keys

/-- **Each step keeps every row's type accounted for.** -/
theorem rowTypesAccounted_step (hi : RowTypesAccounted s) (he : Enabled config e s)
    (ha : TypeListKeepsRowTypes e s) : RowTypesAccounted (step c config e s) := by
  intro r hr
  simp only [step_artifactoryIntegrations] at hr
  simp only [ScreenState.repositoryTypes, ScreenState.baselineRepositoryTypes, step_settings,
    step_repoTypesFromApi]
  cases e with
  | settingsQuery data isLoading newRepositoriesObject =>
    simp only [handle_settingsQuery_settings, handle_settingsQuery_repoTypesFromApi]
    rw [handle_settingsQuery_artifactoryIntegrations] at hr
    cases newRepositoriesObject with
    | true =>
      exact .inr (.inr (by simpa [Option.map_map, Function.comp_def] using
        repositoryType_mem_keys hr))
    | false =>
      have hsame := Classical.not_not.1 (mt he.2 Bool.false_ne_true)
      rcases hi r hr with h | h | h
      · exact .inl h
      · exact .inr (.inl h)
      · exact .inr (.inr ((baselineRepositoryTypes_of_same hsame _).1 h))
  | repositoryTypesQuery data =>
    rcases hi r hr with h | h | h
    · exact .inl h
    · by_cases hb : r.repositoryType ∈ s.baselineRepositoryTypes
      · exact .inr (.inr hb)
      · exact .inr (.inl (ha r hr h hb))
    · exact .inr (.inr h)
  | typeChange id value =>
    rcases repositoryType_of_mem_typeChange hr with hr | h | h
    · exact hi r hr
    · exact .inl h
    · exact .inr (.inl h)
  | repositoryChange id value =>
    obtain ⟨r₀, hr₀, rfl⟩ := List.mem_map.1 hr
    have := hi r₀ hr₀
    split_ifs <;> exact this
  | removeIntegration id => exact hi r (List.mem_filter.1 hr).1
  | addIntegration randomSuffix =>
    rcases List.mem_append.1 hr with hr | hr
    · exact hi r hr
    · rw [List.mem_singleton.1 hr]; exact .inl rfl
  | edit | apiKeyInput | clearApiKeyToggle | submit | saveSettled => exact hi r hr

end Step

/-- In every run whose type-list updates keep the listed types the rows hold beyond the loaded
map's keys, every row's type is empty, listed, or a key of the loaded repository map. -/
theorem rowTypesAccounted_of_reachable {c : Collaborators} {config : Option Config}
    {s : ScreenState} (h : Reachable c config TypeListKeepsRowTypes s) : RowTypesAccounted s := by
  induction h with
  | init settings _ _ _ =>
    intro r hr
    exact .inr (.inr (by simpa [ScreenState.baselineRepositoryTypes, Option.map_map,
      Function.comp_def] using repositoryType_mem_keys hr))
  | step e _ he ha ih => exact rowTypesAccounted_step ih he ha

/-- **A row's type select shows the row's type, unless the loaded map gave the row a type the
list lacks.**  In every run whose updates of the type list keep the listed types the rows hold
(those the loaded map gave them apart), each row's select offers exactly the row's available
options, and shows the row's type (the placeholder for an empty one); the only exception is a
row whose type is a key of the loaded repository map missing from `repositoryTypes`, whose
select shows the first available type instead. -/
theorem typeSelect_shows_rowType {c : Collaborators} {config : Option Config} {s : ScreenState}
    (t : String → String) (ht : t typePlaceholderKey ≠ "")
    (h : Reachable c config TypeListKeepsRowTypes s) (r : ArtifactoryRepositoryIntegration)
    (hr : r ∈ s.artifactoryIntegrations) :
    (rowTypeSelect t s.repositoryTypes s.artifactoryIntegrations r).pickableValues =
        availableOptions s.repositoryTypes s.artifactoryIntegrations r ∧
      ((rowTypeSelect t s.repositoryTypes s.artifactoryIntegrations r).shownOption.map (·.value) =
          some r.repositoryType ∨
        r.repositoryType ∉ s.repositoryTypes ∧ r.repositoryType ∈ s.baselineRepositoryTypes ∧
          (rowTypeSelect t s.repositoryTypes s.artifactoryIntegrations r).shownOption.map
            (·.value) = (availableOptions s.repositoryTypes s.artifactoryIntegrations r).head?) := by
  refine ⟨pickableValues_rowTypeSelect .., ?_⟩
  rw [shownValue_rowTypeSelect _ _ _ _ ht]
  by_cases hshown : r.repositoryType = "" ∨ r.repositoryType ∈ s.repositoryTypes
  · exact .inl (if_pos hshown)
  · rw [if_neg hshown]
    push_neg at hshown
    rcases rowTypesAccounted_of_reachable h r hr with h' | h' | h'
    · exact absurd h' hshown.1
    · exact absurd h' hshown.2
    · exact .inr ⟨hshown.2, h', rfl⟩

/-- The settings loaded with saved `npm` and `pypi` repositories while the type list holds only
`go` and `pypi`. -/
def sampleNarrowTypes : ScreenState :=
  ScreenState.init (some sampleBaseline) false (some ["go", "pypi"])

/-- Its `npm` row. -/
def sampleNpmRow : ArtifactoryRepositoryIntegration :=
  createIntegration (some "npm") (some " lodash ") (some "artifactory-npm") ""

theorem typeSelect_shows_rowType_sample :
    id typePlaceholderKey ≠ "" ∧
      Reachable sampleCollaborators none TypeListKeepsRowTypes sampleNarrowTypes ∧
      sampleNpmRow ∈ sampleNarrowTypes.artifactoryIntegrations ∧
      ((rowTypeSelect id sampleNarrowTypes.repositoryTypes sampleNarrowTypes.artifactoryIntegrations
          sampleNpmRow).pickableValues =
          availableOptions sampleNarrowTypes.repositoryTypes sampleNarrowTypes.artifactoryIntegrations
            sampleNpmRow ∧
        ((rowTypeSelect id sampleNarrowTypes.repositoryTypes
            sampleNarrowTypes.artifactoryIntegrations sampleNpmRow).shownOption.map (·.value) =
            some sampleNpmRow.repositoryType ∨
          sampleNpmRow.repositoryType ∉ sampleNarrowTypes.repositoryTypes ∧
            sampleNpmRow.repositoryType ∈ sampleNarrowTypes.baselineRepositoryTypes ∧
            (rowTypeSelect id sampleNarrowTypes.repositoryTypes
                sampleNarrowTypes.artifactoryIntegrations sampleNpmRow).shownOption.map
              (·.value) = (availableOptions sampleNarrowTypes.repositoryTypes
                sampleNarrowTypes.artifactoryIntegrations sampleNpmRow).head?)) :=
  have ht : id typePlaceholderKey ≠ "" := by decide
  have h : Reachable sampleCollaborators none TypeListKeepsRowTypes sampleNarrowTypes :=
    .init _ _ _ (by simp)
  have hr : sampleNpmRow ∈ sampleNarrowTypes.artifactoryIntegrations := by decide
  ⟨ht, h, hr, typeSelect_shows_rowType id ht h _ hr⟩

/-- Its select shows `go`, the one type left for it, while the row holds `npm`. -/
example : (rowTypeSelect id sampleNarrowTypes.repositoryTypes
    sampleNarrowTypes.artifactoryIntegrations sampleNpmRow).shownOption.map (·.value) =
      some "go" := by decide

end AppSettings
