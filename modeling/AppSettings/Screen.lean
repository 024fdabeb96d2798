import AppSettings.FormAction
import AppSettings.Rows

/-!
# `AppSettingsScreen` as a state machine

The component's state (its `useState` hooks, the data of the queries it reads, the save
mutation in flight, and the DOM state of its uncontrolled inputs), the events that change it
(query updates, edits, row operations, submitting and the save settling), and the effects that
follow a render:

* the rows effect rebuilds the rows when `settings?.ARTIFACTORY_REPOSITORIES` is a new object;
  React Query keeps the old object when a refetch returns an equal map, so the model lets a
  refetch rebuild or not when the maps are equal, and always rebuilds when they differ;
* the Artifactory effect resets the host, CLI URL and API-key state when
  `ARTIFACTORY_HOST`, `ARTIFACTORY_CLI_INSTALL_URL` or `ARTIFACTORY_API_KEY_SET` changes;
* the inputs are unmounted while `shouldBeLoading` holds and mount afresh after it: every
  draft is then untouched and the API-key field empty, and an untouched input shows the default
  rendered from the settings of that moment.  The inputs are uncontrolled (`defaultValue`,
  `defaultIsToggled`, `defaultKey`), so they keep those mount-time defaults when a refetch
  changes the settings while they stay mounted.

`Enabled` says when the user can take a step (the inputs must be mounted, a button enabled)
and what the query engine guarantees (`isLoading` only without data).  `Reachable` is
parameterised by a further restriction on the environment, so that one machine serves the
properties that hold in every run and those that hold when refetches keep some fields.
-/

namespace AppSettings

/-- How a save settles: `onSuccess`, or `onError` with what `retrieveAxiosErrorMessage`
extracted. -/
inductive SaveResult
  | success
  | failure (errorMessage : Option String)

/-- The calls into collaborators the screen makes when a save settles. -/
inductive SideEffect
  /-- `handleCaptureConsent(enableAnalytics)` -/
  | captureConsent (enabled : Bool)
  /-- `displaySuccessToast(t(...))`, by translation key -/
  | successToast (message : String)
  /-- `displayErrorToast(errorMessage || t(...))` -/
  | errorToast (message : String)
deriving DecidableEq

/-- The screen: query data, hook state, the save in flight, and the DOM of the inputs. -/
structure ScreenState where
  /-- `useSettings().data` -/
  settings : Option Settings
  /-- `useSettings().isLoading` -/
  isLoading : Bool
  /-- `useArtifactoryRepositoryTypes().data` -/
  repoTypesFromApi : Option (List String)
  /-- the payload of the `saveSettings` mutation in flight -/
  pendingSave : Option Payload
  /-- the ten `…HasChanged` states -/
  hasChanged : ScalarField → Bool
  artifactoryApiKeyHasChanged : Bool
  artifactoryClearApiKey : Bool
  artifactoryApiKeyInputValue : String
  artifactoryIntegrations : List ArtifactoryRepositoryIntegration
  /-- each input's value last passed to its handler since the inputs were last mounted -/
  drafts : (f : ScalarField) → Option f.Value
  /-- the text in the API-key field -/
  artifactoryApiKeyText : String
  /-- the settings the inputs last mounted with, from which their untouched values come -/
  mountedSettings : Option Settings
  sideEffects : List SideEffect

namespace ScreenState

variable (s : ScreenState)

/-- `useSaveSettings().isPending`. -/
def isPending : Bool := s.pendingSave.isSome

/-- `repoTypesFromApi ?? SUPPORTED_ARTIFACTORY_REPO_TYPES`. -/
def repositoryTypes : List String := s.repoTypesFromApi.getD SUPPORTED_ARTIFACTORY_REPO_TYPES

/-- The memo `artifactoryRepositoriesPayload`. -/
def artifactoryRepositoriesPayload : JsObject String :=
  integrationsToRepositoryMap s.artifactoryIntegrations

/-- The memo `artifactoryReposHaveChanged`. -/
def reposHaveChanged : Bool :=
  artifactoryReposHaveChanged (s.settings.map (·.ARTIFACTORY_REPOSITORIES)) s.artifactoryIntegrations

/-- `formIsClean`. -/
def formIsClean : Bool :=
  (ScalarField.all.all fun f => !s.hasChanged f) && !s.artifactoryApiKeyHasChanged &&
    !s.artifactoryClearApiKey && !s.reposHaveChanged

/-- `shouldBeLoading`: the skeleton is shown and the inputs are unmounted. -/
def shouldBeLoading : Bool := s.settings.isNone || s.isLoading || s.isPending

/-- The submit button's `isDisabled`. -/
def submitDisabled : Bool := s.isPending || s.formIsClean

/-- The form data on submit: nothing but the button while the inputs are unmounted, and
otherwise the inputs' values over the defaults they mounted with. -/
def formData (c : Collaborators) (config : Option Config) : FormData :=
  match s.mountedSettings with
  | some B => if s.shouldBeLoading then [] else formDataOf c config B s.drafts s.artifactoryApiKeyText
  | none => []

/-- The payload `formAction` builds when the form is submitted in this state. -/
def submitPayload (c : Collaborators) (config : Option Config) : Payload :=
  formAction c s.artifactoryClearApiKey s.artifactoryApiKeyHasChanged
    s.artifactoryRepositoriesPayload (s.formData c config)

/-- The first render and its effects: no flags, no drafts, and the rows built from the data the
settings query already holds, which the inputs mount with when it is loaded. -/
def init (settings : Option Settings) (isLoading : Bool)
    (repoTypesFromApi : Option (List String)) : ScreenState where
  settings := settings
  isLoading := isLoading
  repoTypesFromApi := repoTypesFromApi
  pendingSave := none
  hasChanged := fun _ => false
  artifactoryApiKeyHasChanged := false
  artifactoryClearApiKey := false
  artifactoryApiKeyInputValue := ""
  artifactoryIntegrations := mapRepositoriesToIntegrations
    (settings.map (·.ARTIFACTORY_REPOSITORIES))
  drafts := fun _ => none
  artifactoryApiKeyText := ""
  mountedSettings := settings
  sideEffects := []

end ScreenState

/-! ## Handlers and effects -/

/-- The flags with the listed fields set to `false`. -/
def resetFlags (fields : List ScalarField) (flags : ScalarField → Bool) : ScalarField → Bool :=
  fun f => if f ∈ fields then false else flags f

/-- The flags `onSettled` resets, in its order: every scalar flag but the solvability one. -/
def onSettledResets : List ScalarField :=
  [.language, .analytics, .soundNotifications, .proactiveConversations, .maxBudgetPerTask,
    .gitUserName, .gitUserEmail, .artifactoryHost, .artifactoryCliInstallUrl]

/-- `onSettled`. -/
def onSettled (s : ScreenState) : ScreenState :=
  { s with
    hasChanged := resetFlags onSettledResets s.hasChanged
    artifactoryApiKeyHasChanged := false
    artifactoryClearApiKey := false
    artifactoryApiKeyInputValue := "" }

/-- The effect on the Artifactory fields of the baseline. -/
def resetArtifactoryEffect (s : ScreenState) : ScreenState :=
  { s with
    hasChanged := resetFlags [.artifactoryHost, .artifactoryCliInstallUrl] s.hasChanged
    artifactoryApiKeyHasChanged := false
    artifactoryClearApiKey := false
    artifactoryApiKeyInputValue := "" }

/-- The dependencies of that effect. -/
def artifactoryDeps (settings : Option Settings) :
    Option String × Option String × Option Bool :=
  (settings.bind (·.ARTIFACTORY_HOST), settings.bind (·.ARTIFACTORY_CLI_INSTALL_URL),
    settings.bind (·.ARTIFACTORY_API_KEY_SET))

/-- `handleArtifactoryApiKeyInputChange(value)` (`trimmed.length > 0` is `trimmed ≠ ""`). -/
def handleArtifactoryApiKeyInputChange (value : String) (s : ScreenState) : ScreenState :=
  let trimmed := jsTrim value
  { s with
    artifactoryApiKeyInputValue := value
    artifactoryApiKeyHasChanged := trimmed ≠ ""
    artifactoryClearApiKey := if trimmed ≠ "" then false else s.artifactoryClearApiKey }

/-- The clear switch's `onToggle(checked)`. -/
def onClearArtifactoryApiKeyToggle (checked : Bool) (s : ScreenState) : ScreenState :=
  { s with
    artifactoryClearApiKey := checked
    artifactoryApiKeyHasChanged :=
      if checked then true else jsTrim s.artifactoryApiKeyInputValue ≠ "" }

/-- The side effects of `onSuccess` or `onError`. -/
def settleEffects : SaveResult → Option Payload → List SideEffect
  | .success, some payload =>
    [.captureConsent payload.user_consents_to_analytics, .successToast "SETTINGS$SAVED"]
  | .success, none => []
  | .failure errorMessage, _ => [.errorToast (jsOr errorMessage "ERROR$GENERIC")]

/-! ## Events -/

/-- What can happen to the screen. -/
inductive ScreenEvent
  /-- the settings query reports data and `isLoading`; `newRepositoriesObject` says whether
  `settings?.ARTIFACTORY_REPOSITORIES` is a new object -/
  | settingsQuery (data : Option Settings) (isLoading newRepositoriesObject : Bool)
  | repositoryTypesQuery (data : Option (List String))
  | edit (f : ScalarField) (value : f.Value)
  | apiKeyInput (value : String)
  | clearApiKeyToggle (checked : Bool)
  | typeChange (id value : String)
  | repositoryChange (id value : String)
  | removeIntegration (id : String)
  | addIntegration (randomSuffix : String)
  | submit
  | saveSettled (result : SaveResult)

/-- An event's handler and the effects of the render that follows, before the inputs mount. -/
def ScreenEvent.handle (c : Collaborators) (config : Option Config) :
    ScreenEvent → ScreenState → ScreenState
  | .settingsQuery data isLoading newRepositoriesObject, s =>
    let s' := { s with settings := data, isLoading := isLoading }
    let s' := if newRepositoriesObject then
        { s' with artifactoryIntegrations :=
            mapRepositoriesToIntegrations (data.map (·.ARTIFACTORY_REPOSITORIES)) }
      else s'
    if artifactoryDeps s.settings ≠ artifactoryDeps data then resetArtifactoryEffect s' else s'
  | .repositoryTypesQuery data, s => { s with repoTypesFromApi := data }
  | .edit f value, s =>
    { s with
      drafts := Function.update s.drafts f (some value)
      hasChanged := Function.update s.hasChanged f (f.hasChanged c s.settings value) }
  | .apiKeyInput value, s =>
    handleArtifactoryApiKeyInputChange value { s with artifactoryApiKeyText := value }
  | .clearApiKeyToggle checked, s => onClearArtifactoryApiKeyToggle checked s
  | .typeChange id value, s =>
    { s with artifactoryIntegrations :=
        handleArtifactoryTypeChange s.repositoryTypes id value s.artifactoryIntegrations }
  | .repositoryChange id value, s =>
    { s with artifactoryIntegrations :=
        handleArtifactoryRepositoryChange id value s.artifactoryIntegrations }
  | .removeIntegration id, s =>
    { s with artifactoryIntegrations :=
        handleRemoveArtifactoryIntegration id s.artifactoryIntegrations }
  | .addIntegration randomSuffix, s =>
    { s with artifactoryIntegrations :=
        handleAddArtifactoryIntegration randomSuffix s.artifactoryIntegrations }
  | .submit, s => { s with pendingSave := some (s.submitPayload c config) }
  | .saveSettled result, s =>
    onSettled { s with
      pendingSave := none
      sideEffects := s.sideEffects ++ settleEffects result s.pendingSave }

/-! ## What a settings-query update changes -/

section SettingsQuery

variable (c : Collaborators) (config : Option Config) (data : Option Settings)
  (isLoading newRepositoriesObject : Bool) (s : ScreenState)

@[simp] theorem handle_settingsQuery_settings :
    ((ScreenEvent.settingsQuery data isLoading newRepositoriesObject).handle c config s).settings =
      data := by
  simp only [ScreenEvent.handle]; split_ifs <;> rfl

@[simp] theorem handle_settingsQuery_isLoading :
    ((ScreenEvent.settingsQuery data isLoading newRepositoriesObject).handle c config
      s).isLoading = isLoading := by
  simp only [ScreenEvent.handle]; split_ifs <;> rfl

@[simp] theorem handle_settingsQuery_pendingSave :
    ((ScreenEvent.settingsQuery data isLoading newRepositoriesObject).handle c config
      s).pendingSave = s.pendingSave := by
  simp only [ScreenEvent.handle]; split_ifs <;> rfl

@[simp] theorem handle_settingsQuery_repoTypesFromApi :
    ((ScreenEvent.settingsQuery data isLoading newRepositoriesObject).handle c config
      s).repoTypesFromApi = s.repoTypesFromApi := by
  simp only [ScreenEvent.handle]; split_ifs <;> rfl

@[simp] theorem handle_settingsQuery_drafts :
    ((ScreenEvent.settingsQuery data isLoading newRepositoriesObject).handle c config
      s).drafts = s.drafts := by
  simp only [ScreenEvent.handle]; split_ifs <;> rfl

@[simp] theorem handle_settingsQuery_artifactoryApiKeyText :
    ((ScreenEvent.settingsQuery data isLoading newRepositoriesObject).handle c config
      s).artifactoryApiKeyText = s.artifactoryApiKeyText := by
  simp only [ScreenEvent.handle]; split_ifs <;> rfl

theorem handle_settingsQuery_artifactoryIntegrations :
    ((ScreenEvent.settingsQuery data isLoading newRepositoriesObject).handle c config
      s).artifactoryIntegrations =
      if newRepositoriesObject then
        mapRepositoriesToIntegrations (data.map (·.ARTIFACTORY_REPOSITORIES))
      else s.artifactoryIntegrations := by
  simp only [ScreenEvent.handle]; split_ifs <;> rfl

/-- The flags, with the Artifactory ones reset when the effect's dependencies move. -/
theorem handle_settingsQuery_hasChanged :
    ((ScreenEvent.settingsQuery data isLoading newRepositoriesObject).handle c config
      s).hasChanged =
      if artifactoryDeps s.settings ≠ artifactoryDeps data then
        resetFlags [.artifactoryHost, .artifactoryCliInstallUrl] s.hasChanged
      else s.hasChanged := by
  simp only [ScreenEvent.handle]; split_ifs <;> rfl

theorem handle_settingsQuery_artifactoryApiKeyInputValue :
    ((ScreenEvent.settingsQuery data isLoading newRepositoriesObject).handle c config
      s).artifactoryApiKeyInputValue =
      if artifactoryDeps s.settings ≠ artifactoryDeps data then ""
      else s.artifactoryApiKeyInputValue := by
  simp only [ScreenEvent.handle]; split_ifs <;> rfl

theorem handle_settingsQuery_artifactoryApiKeyHasChanged :
    ((ScreenEvent.settingsQuery data isLoading newRepositoriesObject).handle c config
      s).artifactoryApiKeyHasChanged =
      if artifactoryDeps s.settings ≠ artifactoryDeps data then false
      else s.artifactoryApiKeyHasChanged := by
  simp only [ScreenEvent.handle]; split_ifs <;> rfl

theorem handle_settingsQuery_artifactoryClearApiKey :
    ((ScreenEvent.settingsQuery data isLoading newRepositoriesObject).handle c config
      s).artifactoryClearApiKey =
      if artifactoryDeps s.settings ≠ artifactoryDeps data then false
      else s.artifactoryClearApiKey := by
  simp only [ScreenEvent.handle]; split_ifs <;> rfl

/-- With the effect's dependencies in place, an update touches only the query data and, on a
new repositories object, the rows. -/
theorem handle_settingsQuery_of_deps (h : artifactoryDeps s.settings = artifactoryDeps data) :
    (ScreenEvent.settingsQuery data isLoading newRepositoriesObject).handle c config s =
      { s with
        settings := data
        isLoading := isLoading
        artifactoryIntegrations :=
          if newRepositoriesObject then
            mapRepositoriesToIntegrations (data.map (·.ARTIFACTORY_REPOSITORIES))
          else s.artifactoryIntegrations } := by
  simp only [ScreenEvent.handle, h, ne_eq, not_true_eq_false, if_false]
  split_ifs <;> rfl

end SettingsQuery

/-- The inputs mounting afresh, with the defaults the current settings render. -/
def remount (s : ScreenState) : ScreenState :=
  { s with drafts := fun _ => none, artifactoryApiKeyText := "", mountedSettings := s.settings }

/-- One event: its handler, then the inputs mount if the skeleton gave way to them. -/
def step (c : Collaborators) (config : Option Config) (e : ScreenEvent) (s : ScreenState) :
    ScreenState :=
  let s' := e.handle c config s
  if s.shouldBeLoading && !s'.shouldBeLoading then remount s' else s'

/-- Two repository maps React Query would keep as one object: both absent, or equal as maps. -/
def SameRepositories : Option RepositoryMap → Option RepositoryMap → Prop
  | none, none => True
  | some m, some m' => m.Equiv m'
  | _, _ => False

/-- When the user can take a step, and what the query engine guarantees. -/
def Enabled (config : Option Config) : ScreenEvent → ScreenState → Prop
  | .settingsQuery data isLoading newRepositoriesObject, s =>
    (isLoading = true → data = none) ∧
      (¬SameRepositories (s.settings.map (·.ARTIFACTORY_REPOSITORIES))
        (data.map (·.ARTIFACTORY_REPOSITORIES)) → newRepositoriesObject = true)
  | .repositoryTypesQuery _, _ => True
  | .edit f _, s => s.shouldBeLoading = false ∧ f ∈ renderedFields (isSaas config)
  | .apiKeyInput _, s => s.shouldBeLoading = false
  | .clearApiKeyToggle _, s =>
    s.shouldBeLoading = false ∧ s.settings.bind (·.ARTIFACTORY_API_KEY_SET) = some true
  | .typeChange id value, s =>
    s.shouldBeLoading = false ∧ ∀ r ∈ s.artifactoryIntegrations, r.id = id →
      value ∈ availableOptions s.repositoryTypes s.artifactoryIntegrations r
  | .repositoryChange id _, s =>
    s.shouldBeLoading = false ∧
      ∃ r ∈ s.artifactoryIntegrations, r.id = id ∧ r.repositoryType ≠ ""
  | .removeIntegration _, s => s.shouldBeLoading = false
  | .addIntegration randomSuffix, s =>
    s.shouldBeLoading = false ∧
      addButtonDisabled s.isPending s.repositoryTypes s.artifactoryIntegrations = false ∧
      ∀ r ∈ s.artifactoryIntegrations, r.id ≠ "artifactory-" ++ randomSuffix
  | .submit, s => s.submitDisabled = false
  | .saveSettled _, s => s.pendingSave.isSome

/-- States reachable from the first render by enabled events that `allowed` admits. -/
inductive Reachable (c : Collaborators) (config : Option Config)
    (allowed : ScreenEvent → ScreenState → Prop) : ScreenState → Prop
  | init (settings : Option Settings) (isLoading : Bool) (repoTypesFromApi : Option (List String)) :
      (isLoading = true → settings = none) →
      Reachable c config allowed (ScreenState.init settings isLoading repoTypesFromApi)
  | step {s : ScreenState} (e : ScreenEvent) : Reachable c config allowed s →
      Enabled config e s → allowed e s → Reachable c config allowed (step c config e s)

/-- Every run: the environment may do anything the query engine allows. -/
def AnyRun : ScreenEvent → ScreenState → Prop := fun _ _ => True

/-- Runs in which settings, once loaded, never become unavailable again. -/
def SettingsStayLoaded : ScreenEvent → ScreenState → Prop
  | .settingsQuery data _ _, s => s.settings.isSome → data.isSome
  | _, _ => True

end AppSettings
