import AppSettings.Screen

/-!
# What a step changes, and the screen before its settings load

The frame of `step` (a remount touches only the inputs: their DOM and the settings they mount
with), and the invariant that
holds while the settings are unavailable in runs where they never become unavailable again
after loading: no flag is set, no input touched, no row present.

What is proved here:

* `notLoadedClean_of_reachable`: that invariant;
* `inputsMountedWith_of_reachable`: in every run, mounted inputs were mounted with loaded
  settings, over whose defaults the form data is read;
* `submitDisabled_of_shouldBeLoading`: so in those runs the submit button is disabled whenever
  the skeleton is shown, and `formAction` never runs on a form without its inputs;
* `submit_enabled_while_skeleton`: when settings become unavailable after an edit, the button
  stays enabled over the skeleton.
-/

namespace AppSettings

variable {c : Collaborators} {config : Option Config} {e : ScreenEvent} {s : ScreenState}

/-! ## The frame of a step -/

section Frame

variable (c config e s)

@[simp] theorem step_settings : (step c config e s).settings = (e.handle c config s).settings := by
  simp only [step]; split <;> rfl

@[simp] theorem step_isLoading : (step c config e s).isLoading = (e.handle c config s).isLoading := by
  simp only [step]; split <;> rfl

@[simp] theorem step_pendingSave :
    (step c config e s).pendingSave = (e.handle c config s).pendingSave := by
  simp only [step]; split <;> rfl

@[simp] theorem step_hasChanged :
    (step c config e s).hasChanged = (e.handle c config s).hasChanged := by
  simp only [step]; split <;> rfl

@[simp] theorem step_artifactoryApiKeyHasChanged :
    (step c config e s).artifactoryApiKeyHasChanged =
      (e.handle c config s).artifactoryApiKeyHasChanged := by
  simp only [step]; split <;> rfl

@[simp] theorem step_artifactoryClearApiKey :
    (step c config e s).artifactoryClearApiKey = (e.handle c config s).artifactoryClearApiKey := by
  simp only [step]; split <;> rfl

@[simp] theorem step_artifactoryApiKeyInputValue :
    (step c config e s).artifactoryApiKeyInputValue =
      (e.handle c config s).artifactoryApiKeyInputValue := by
  simp only [step]; split <;> rfl

@[simp] theorem step_artifactoryIntegrations :
    (step c config e s).artifactoryIntegrations =
      (e.handle c config s).artifactoryIntegrations := by
  simp only [step]; split <;> rfl

theorem step_artifactoryApiKeyText_of_loaded (h : s.shouldBeLoading = false) :
    (step c config e s).artifactoryApiKeyText = (e.handle c config s).artifactoryApiKeyText := by
  simp [step, h]

@[simp] theorem step_repoTypesFromApi :
    (step c config e s).repoTypesFromApi = (e.handle c config s).repoTypesFromApi := by
  simp only [step]; split <;> rfl

@[simp] theorem step_sideEffects :
    (step c config e s).sideEffects = (e.handle c config s).sideEffects := by
  simp only [step]; split <;> rfl

/-- A handler that leaves the skeleton up, if it was up, mounts nothing. -/
theorem step_eq_handle
    (h : s.shouldBeLoading = true → (e.handle c config s).shouldBeLoading = true) :
    step c config e s = e.handle c config s := by
  cases hs : s.shouldBeLoading <;> simp [step, hs, h]

/-- After a step the drafts are the handler's, or all untouched. -/
theorem step_drafts_cases :
    (step c config e s).drafts = (e.handle c config s).drafts ∨
      (step c config e s).drafts = fun _ => none := by
  simp only [step]; split
  · exact .inr rfl
  · exact .inl rfl

theorem step_artifactoryApiKeyText_cases :
    (step c config e s).artifactoryApiKeyText = (e.handle c config s).artifactoryApiKeyText ∨
      (step c config e s).artifactoryApiKeyText = "" := by
  simp only [step]; split
  · exact .inr rfl
  · exact .inl rfl

end Frame

/-! ## Before the settings load -/

/-- While the settings are unavailable nothing has been touched. -/
structure NotLoadedClean (s : ScreenState) : Prop where
  loading_unloaded : s.isLoading = true → s.settings = none
  flags : s.settings = none → ∀ f, s.hasChanged f = false
  drafts : s.settings = none → ∀ f, s.drafts f = none
  apiKey : s.settings = none → s.artifactoryApiKeyHasChanged = false ∧
    s.artifactoryClearApiKey = false ∧ s.artifactoryApiKeyInputValue = "" ∧
    s.artifactoryApiKeyText = ""
  rows : s.settings = none → s.artifactoryIntegrations = []
  pending : s.settings = none → s.pendingSave = none

theorem notLoadedClean_init (settings : Option Settings) (isLoading : Bool)
    (repoTypesFromApi : Option (List String)) (h : isLoading = true → settings = none) :
    NotLoadedClean (ScreenState.init settings isLoading repoTypesFromApi) where
  loading_unloaded := h
  flags _ _ := rfl
  drafts _ _ := rfl
  apiKey _ := ⟨rfl, rfl, rfl, rfl⟩
  rows h := by obtain rfl : settings = none := h; rfl
  pending _ := rfl

/-- A loaded state is clean of these facts vacuously. -/
theorem notLoadedClean_of_loaded {s : ScreenState} (h : s.settings.isSome)
    (hl : s.isLoading = false) : NotLoadedClean s where
  loading_unloaded h' := absurd h' (by simp [hl])
  flags h' := absurd h (by simp [h'])
  drafts h' := absurd h (by simp [h'])
  apiKey h' := absurd h (by simp [h'])
  rows h' := absurd h (by simp [h'])
  pending h' := absurd h (by simp [h'])

theorem loaded_of_mounted {s : ScreenState} (h : s.shouldBeLoading = false) :
    s.settings.isSome ∧ s.isLoading = false := by
  cases hs : s.settings <;> simp_all [ScreenState.shouldBeLoading]

/-! ## The settings the inputs mounted with -/

/-- Mounted inputs were mounted with loaded settings. -/
def InputsMountedWith (s : ScreenState) : Prop :=
  s.shouldBeLoading = false → s.mountedSettings.isSome

/-- Only a remount changes the settings the inputs mounted with. -/
theorem handle_mountedSettings (c : Collaborators) (config : Option Config) (e : ScreenEvent)
    (s : ScreenState) : (e.handle c config s).mountedSettings = s.mountedSettings := by
  cases e <;> simp only [ScreenEvent.handle] <;> (try split_ifs) <;> rfl

theorem inputsMountedWith_step (hi : InputsMountedWith s) :
    InputsMountedWith (step c config e s) := by
  intro hm
  simp only [step] at hm ⊢
  split_ifs at hm ⊢ with h
  · -- the inputs mount now, with the settings of the moment
    exact (loaded_of_mounted hm).1
  · rw [handle_mountedSettings]
    exact hi (by simpa [hm] using h)

/-- In every run, mounted inputs were mounted with loaded settings. -/
theorem inputsMountedWith_of_reachable {allowed : ScreenEvent → ScreenState → Prop}
    (h : Reachable c config allowed s) : InputsMountedWith s := by
  induction h with
  | init => exact fun hm => (loaded_of_mounted hm).1
  | step e _ _ _ ih => exact inputsMountedWith_step ih

/-- A mounted form submits what its inputs hold over the settings they mounted with. -/
theorem formData_of_mounted (c : Collaborators) (config : Option Config)
    (hw : InputsMountedWith s) (hm : s.shouldBeLoading = false) :
    ∃ B, s.mountedSettings = some B ∧
      s.formData c config = formDataOf c config B s.drafts s.artifactoryApiKeyText := by
  obtain ⟨B, hB⟩ := Option.isSome_iff_exists.1 (hw hm)
  exact ⟨B, hB, by simp [ScreenState.formData, hB, hm]⟩

theorem step_drafts_none (h : ∀ f, (e.handle c config s).drafts f = none) (f : ScalarField) :
    (step c config e s).drafts f = none := by
  rcases step_drafts_cases c config e s with h' | h' <;> simp [h', h]

theorem step_artifactoryApiKeyText_empty (h : (e.handle c config s).artifactoryApiKeyText = "") :
    (step c config e s).artifactoryApiKeyText = "" := by
  rcases step_artifactoryApiKeyText_cases c config e s with h' | h' <;> simp [h', h]

/-- Loaded settings are not loading. -/
theorem loaded_not_loading (hi : NotLoadedClean s) (hs : s.settings.isSome) :
    s.isLoading = false := by
  cases hl : s.isLoading
  · rfl
  · simp [hi.loading_unloaded hl] at hs

/-- A save is pending only over loaded settings. -/
theorem loaded_of_pending (hi : NotLoadedClean s) (hp : s.pendingSave.isSome) :
    s.settings.isSome := by
  cases hs : s.settings
  · simp [hi.pending hs] at hp
  · rfl

/-- A step from loaded settings that keeps them leaves nothing to check. -/
theorem notLoadedClean_step_of_loaded (hs : s.settings.isSome) (hl : s.isLoading = false)
    (hs' : (e.handle c config s).settings = s.settings)
    (hl' : (e.handle c config s).isLoading = s.isLoading) :
    NotLoadedClean (step c config e s) :=
  notLoadedClean_of_loaded (by simpa [hs'] using hs) (by simpa [hl'] using hl)

/-- The steps that need the inputs mounted keep the settings loaded. -/
theorem notLoadedClean_step_of_mounted (hm : s.shouldBeLoading = false)
    (hs' : (e.handle c config s).settings = s.settings)
    (hl' : (e.handle c config s).isLoading = s.isLoading) :
    NotLoadedClean (step c config e s) :=
  notLoadedClean_step_of_loaded (loaded_of_mounted hm).1 (loaded_of_mounted hm).2 hs' hl'

/-- An unloaded form is clean: no flag, no API-key change, and no rows to differ from the
missing baseline map. -/
theorem formIsClean_of_unloaded (hi : NotLoadedClean s) (h : s.settings = none) :
    s.formIsClean = true := by
  have hrepos : artifactoryReposHaveChanged none [] = false := rfl
  simp [ScreenState.formIsClean, ScreenState.reposHaveChanged, hi.flags h, hi.apiKey h,
    hi.rows h, h, hrepos]

theorem notLoadedClean_step (hi : NotLoadedClean s) (he : Enabled config e s)
    (ha : SettingsStayLoaded e s) : NotLoadedClean (step c config e s) := by
  cases e with
  | settingsQuery data isLoading newRepositoriesObject =>
    obtain ⟨hload, -⟩ := he
    cases data with
    | some B =>
      exact notLoadedClean_of_loaded (by simp) (by cases isLoading <;> simp_all)
    | none =>
      -- settings were unavailable already: only the rows may be rebuilt, from nothing
      have hs : s.settings = none := by
        cases h : s.settings <;> simp_all [SettingsStayLoaded]
      have hh := handle_settingsQuery_of_deps c config none isLoading newRepositoriesObject s
        (by rw [hs])
      exact {
        loading_unloaded := fun _ => by simp
        flags := fun _ f => by simp [hh, hi.flags hs f]
        drafts := fun _ => step_drafts_none (by simp [hi.drafts hs])
        apiKey := fun _ => by
          simpa [hh, hi.apiKey hs] using step_artifactoryApiKeyText_empty
            (by simpa using (hi.apiKey hs).2.2.2)
        rows := fun _ => by simp [hh, hi.rows hs, mapRepositoriesToIntegrations]
        pending := fun _ => by simp [hi.pending hs] }
  | repositoryTypesQuery data =>
    rw [step_eq_handle _ _ _ _ id]; exact ⟨hi.1, hi.2, hi.3, hi.4, hi.5, hi.6⟩
  | edit | clearApiKeyToggle | typeChange | repositoryChange | addIntegration =>
    exact notLoadedClean_step_of_mounted he.1 rfl rfl
  | apiKeyInput | removeIntegration => exact notLoadedClean_step_of_mounted he rfl rfl
  | submit =>
    -- an unloaded form is clean, so the button is enabled only over loaded settings
    have hs : s.settings.isSome := by
      cases h : s.settings
      · simp [Enabled, ScreenState.submitDisabled, formIsClean_of_unloaded hi h] at he
      · rfl
    exact notLoadedClean_step_of_loaded hs (loaded_not_loading hi hs) rfl rfl
  | saveSettled result =>
    have hs := loaded_of_pending hi he
    exact notLoadedClean_step_of_loaded hs (loaded_not_loading hi hs) rfl rfl

/-- A refetch that answers every loaded baseline with data keeps the settings loaded; the
disciplines that relate the old baseline to the new one refine `SettingsStayLoaded` by it. -/
theorem isSome_of_refetch {R : Settings → Settings → Prop} {settings data : Option Settings}
    (h : ∀ B ∈ settings, ∃ B' ∈ data, R B B') (hs : settings.isSome) : data.isSome := by
  obtain ⟨B, hB⟩ := Option.isSome_iff_exists.1 hs
  obtain ⟨B', hB', -⟩ := h B hB
  exact Option.isSome_iff_exists.2 ⟨B', hB'⟩

theorem notLoadedClean_of_reachable (h : Reachable c config SettingsStayLoaded s) :
    NotLoadedClean s := by
  induction h with
  | init settings isLoading repoTypesFromApi h => exact notLoadedClean_init settings isLoading _ h
  | step e _ he ha ih => exact notLoadedClean_step ih he ha

/-- Runs admitted by a discipline are admitted by a looser one. -/
theorem Reachable.mono {allowed allowed' : ScreenEvent → ScreenState → Prop}
    (hmono : ∀ e s, allowed e s → allowed' e s) (h : Reachable c config allowed s) :
    Reachable c config allowed' s := by
  induction h with
  | init settings isLoading repoTypesFromApi h => exact .init settings isLoading _ h
  | step e _ he ha ih => exact .step e ih he (hmono e _ ha)

/-- The skeleton with no save pending means the settings are missing. -/
theorem unloaded_of_shouldBeLoading (hi : NotLoadedClean s) (hl : s.shouldBeLoading = true)
    (hp : s.pendingSave = none) : s.settings = none := by
  cases hs : s.settings with
  | none => rfl
  | some B =>
    simp [ScreenState.shouldBeLoading, ScreenState.isPending, hs, hp] at hl
    simpa [hs] using hi.loading_unloaded hl

/-- A save settles over loaded settings, so the inputs mount afresh after it. -/
theorem step_saveSettled_remounts (hi : NotLoadedClean s) (hp : s.pendingSave.isSome)
    (result : SaveResult) :
    step c config (.saveSettled result) s =
      remount ((ScreenEvent.saveSettled result).handle c config s) := by
  obtain ⟨B, hs⟩ := Option.isSome_iff_exists.1 (loaded_of_pending hi hp)
  have hl := loaded_not_loading hi (loaded_of_pending hi hp)
  have hload : s.shouldBeLoading = true := by
    simp [ScreenState.shouldBeLoading, ScreenState.isPending, hp]
  refine if_pos ?_
  simp [hload, ScreenEvent.handle, onSettled, ScreenState.shouldBeLoading, ScreenState.isPending,
    hs, hl, hp]

/-! ## The submit button over the skeleton -/

/-- In runs where the settings stay loaded once loaded, the submit button is disabled whenever
the skeleton is shown: a pending save disables it, and before the settings load the form is
clean. -/
theorem submitDisabled_of_shouldBeLoading (h : Reachable c config SettingsStayLoaded s)
    (hl : s.shouldBeLoading = true) : s.submitDisabled = true := by
  have hi := notLoadedClean_of_reachable h
  cases hp : s.pendingSave with
  | none =>
    simp [ScreenState.submitDisabled, formIsClean_of_unloaded hi (unloaded_of_shouldBeLoading hi hl hp)]
  | some _ => simp [ScreenState.submitDisabled, ScreenState.isPending, hp]

/-- The settings loaded, then the git user name edited. -/
def sampleEdited : ScreenState :=
  step sampleCollaborators none (.edit .gitUserName "alice")
    (ScreenState.init (some sampleBaseline) false none)

theorem sampleEdited_reachable {allowed : ScreenEvent → ScreenState → Prop}
    (ha : ∀ s, allowed (.edit .gitUserName "alice") s) :
    Reachable sampleCollaborators none allowed sampleEdited :=
  .step _ (.init _ _ _ (by simp)) ⟨rfl, by decide⟩ (ha _)

/-- A save of that edit, pending. -/
def sampleSaving : ScreenState := step sampleCollaborators none .submit sampleEdited

theorem submitDisabled_of_shouldBeLoading_saving :
    Reachable sampleCollaborators none SettingsStayLoaded sampleSaving ∧
      sampleSaving.shouldBeLoading = true ∧ sampleSaving.submitDisabled = true :=
  have h : Reachable sampleCollaborators none SettingsStayLoaded sampleSaving :=
    .step _ (sampleEdited_reachable fun _ => trivial)
      (show sampleEdited.submitDisabled = false by decide) trivial
  ⟨h, by decide, submitDisabled_of_shouldBeLoading h (by decide)⟩

/-- After the edit, the settings query's data gone. -/
def sampleUnloadedAfterEdit : ScreenState :=
  step sampleCollaborators none (.settingsQuery none false true) sampleEdited

/-- Without the settings the button stays enabled over the skeleton, and `formAction` would
save the defaults: the dirty git-name flag outlives the baseline it was set against. -/
theorem submit_enabled_while_skeleton :
    Reachable sampleCollaborators none AnyRun sampleUnloadedAfterEdit ∧
      sampleUnloadedAfterEdit.shouldBeLoading = true ∧
      sampleUnloadedAfterEdit.submitDisabled = false ∧
      sampleUnloadedAfterEdit.submitPayload sampleCollaborators none =
        { LANGUAGE := "en"
          user_consents_to_analytics := false
          ENABLE_SOUND_NOTIFICATIONS := false
          ENABLE_PROACTIVE_CONVERSATION_STARTERS := false
          ENABLE_SOLVABILITY_ANALYSIS := false
          MAX_BUDGET_PER_TASK := none
          GIT_USER_NAME := "default-user"
          GIT_USER_EMAIL := "default-user@example.com"
          ARTIFACTORY_HOST := ""
          ARTIFACTORY_CLI_INSTALL_URL := ""
          ARTIFACTORY_REPOSITORIES := JsObject.empty
          artifactory_api_key := none } :=
  ⟨.step _ (sampleEdited_reachable fun _ => trivial) ⟨by simp, fun _ => rfl⟩ trivial,
    by decide, by decide, by decide⟩

end AppSettings
