import AppSettings.Loaded

/-!
# The Artifactory API key in the payload

`formAction` sends `artifactory_api_key = ""` when `artifactoryClearApiKey` is set, the trimmed
text of the key field when `artifactoryApiKeyHasChanged`, and no key otherwise.  The flags follow
`artifactoryApiKeyInputValue`, which the key field's handler writes; but the field itself is
uncontrolled, so what it shows is the DOM's, kept until the inputs mount afresh, and the
Artifactory effect that empties the tracked value cannot empty it.  The clear switch's own
checked state (its `SettingsSwitch` keeps it) is not modelled: typing a key drops
`artifactoryClearApiKey` while the switch still shows on, so the results below speak of the
flag.

* `apiKeyFlags_step`, `apiKey_changed_tracks_input`: every event from every state keeps "with
  `artifactoryClearApiKey` unset, the key counts as changed exactly when the tracked value is
  not blank", so it holds in every run;
* `apiKey_tri_state`: in runs whose refetches keep the Artifactory host, CLI URL and key flag,
  the tracked value is the field's text, so in a mounted form the payload has `""` when
  `artifactoryClearApiKey` is set, no key when the text is blank, and the trimmed text otherwise;
* `apiKey_dropped_after_refetch`: a refetch that changes the host empties the tracked value but
  not the field, and a save then drops the key the field shows.
-/

namespace AppSettings

variable {c : Collaborators} {config : Option Config} {e : ScreenEvent} {s : ScreenState}

/-! ## The flags follow the tracked value -/

/-- With `artifactoryClearApiKey` unset, the key counts as changed exactly when the tracked value
is not blank. -/
def ApiKeyFlags (s : ScreenState) : Prop :=
  s.artifactoryClearApiKey = false →
    (s.artifactoryApiKeyHasChanged = true ↔ jsTrim s.artifactoryApiKeyInputValue ≠ "")

theorem apiKeyFlags_handle (hk : ApiKeyFlags s) : ApiKeyFlags (e.handle c config s) := by
  cases e with
  | settingsQuery data isLoading newRepositoriesObject =>
    simp only [ScreenEvent.handle]
    split_ifs
    all_goals first | exact hk | simp [ApiKeyFlags, resetArtifactoryEffect]
  | apiKeyInput value =>
    by_cases hv : jsTrim value = "" <;>
      simp [ApiKeyFlags, ScreenEvent.handle, handleArtifactoryApiKeyInputChange, hv]
  | clearApiKeyToggle checked =>
    cases checked <;> simp [ApiKeyFlags, ScreenEvent.handle, onClearArtifactoryApiKeyToggle]
  | saveSettled result => simp [ApiKeyFlags, ScreenEvent.handle, onSettled]
  | repositoryTypesQuery | edit | typeChange | repositoryChange | removeIntegration
  | addIntegration | submit => exact hk

/-- Every event keeps the API-key flags in step with the tracked value. -/
theorem apiKeyFlags_step (e : ScreenEvent) (s : ScreenState) (hk : ApiKeyFlags s) :
    ApiKeyFlags (step c config e s) := by
  have := @apiKeyFlags_handle c config e s hk
  simpa only [ApiKeyFlags, step_artifactoryClearApiKey, step_artifactoryApiKeyHasChanged,
    step_artifactoryApiKeyInputValue] using this

/-- In every run, with `artifactoryClearApiKey` unset the key counts as changed exactly when the
tracked value is not blank. -/
theorem apiKey_changed_tracks_input {allowed : ScreenEvent → ScreenState → Prop}
    (h : Reachable c config allowed s) (hc : s.artifactoryClearApiKey = false) :
    s.artifactoryApiKeyHasChanged = true ↔ jsTrim s.artifactoryApiKeyInputValue ≠ "" := by
  induction h with
  | init => simp [ScreenState.init]
  | step e _ _ _ ih => exact apiKeyFlags_step e _ ih hc

/-- The settings loaded and a key typed. -/
def sampleKeyTyped : ScreenState :=
  step sampleCollaborators none (.apiKeyInput " s3cret ")
    (ScreenState.init (some sampleBaseline) false none)

theorem apiKey_changed_tracks_input_sample :
    Reachable sampleCollaborators none AnyRun sampleKeyTyped ∧
      sampleKeyTyped.artifactoryClearApiKey = false ∧
      (sampleKeyTyped.artifactoryApiKeyHasChanged = true ↔
        jsTrim sampleKeyTyped.artifactoryApiKeyInputValue ≠ "") :=
  have h : Reachable sampleCollaborators none AnyRun sampleKeyTyped :=
    .step _ (.init _ _ _ (by simp)) rfl trivial
  ⟨h, by decide, apiKey_changed_tracks_input h (by decide)⟩

/-! ## The tracked value is the field's text -/

/-- Runs in which a refetch of loaded settings keeps `ARTIFACTORY_HOST`,
`ARTIFACTORY_CLI_INSTALL_URL` and `ARTIFACTORY_API_KEY_SET`, so the Artifactory effect stays
quiet once the inputs are mounted. -/
def ArtifactoryStaysPut : ScreenEvent → ScreenState → Prop
  | .settingsQuery data _ _, s =>
    ∀ B ∈ s.settings, ∃ B' ∈ data, artifactoryDeps (some B') = artifactoryDeps (some B)
  | _, _ => True

theorem settingsStayLoaded_of_artifactoryStaysPut (h : ArtifactoryStaysPut e s) :
    SettingsStayLoaded e s := by
  cases e with
  | settingsQuery => exact isSome_of_refetch h
  | _ => trivial

/-- The tracked value is what the key field shows. -/
def ApiKeyText (s : ScreenState) : Prop :=
  s.artifactoryApiKeyInputValue = s.artifactoryApiKeyText

theorem apiKeyText_step (hi : NotLoadedClean s) (ht : ApiKeyText s) (he : Enabled config e s)
    (ha : ArtifactoryStaysPut e s) : ApiKeyText (step c config e s) := by
  cases e with
  | settingsQuery data isLoading newRepositoriesObject =>
    cases hs : s.settings with
    | none =>
      -- before the settings load both are empty, and the effect and a remount keep them so
      have hk := hi.apiKey hs
      rcases step_artifactoryApiKeyText_cases c config
          (.settingsQuery data isLoading newRepositoriesObject) s with h | h <;>
        simp [ApiKeyText, h, handle_settingsQuery_artifactoryApiKeyInputValue, hk.2.2.1, hk.2.2.2]
    | some B =>
      -- the effect stays quiet, and the inputs are mounted or a save is pending
      obtain ⟨B', rfl, hB⟩ := ha B hs
      have hh := handle_settingsQuery_of_deps c config (some B') isLoading newRepositoriesObject s
        (by rw [hs, hB])
      rw [step_eq_handle, hh]
      · exact ht
      · intro hl
        have hp : s.pendingSave.isSome := by
          cases hpend : s.pendingSave
          · simp [unloaded_of_shouldBeLoading hi hl hpend] at hs
          · rfl
        simp [hh, ScreenState.shouldBeLoading, ScreenState.isPending, hp]
  | saveSettled result =>
    rw [step_saveSettled_remounts hi he]
    simp [ApiKeyText, remount, ScreenEvent.handle, onSettled]
  | repositoryTypesQuery data => rw [step_eq_handle _ _ _ _ id]; exact ht
  | submit =>
    rw [step_eq_handle _ _ _ _ fun _ => by
      simp [ScreenEvent.handle, ScreenState.shouldBeLoading, ScreenState.isPending]]
    exact ht
  | apiKeyInput value =>
    simp [ApiKeyText, step_artifactoryApiKeyText_of_loaded c config _ s he, ScreenEvent.handle,
      handleArtifactoryApiKeyInputChange]
  | clearApiKeyToggle checked =>
    simpa [ApiKeyText, step_artifactoryApiKeyText_of_loaded c config _ s he.1, ScreenEvent.handle,
      onClearArtifactoryApiKeyToggle] using ht
  | edit | typeChange | repositoryChange | addIntegration =>
    simpa [ApiKeyText, step_artifactoryApiKeyText_of_loaded c config _ s he.1] using ht
  | removeIntegration id =>
    simpa [ApiKeyText, step_artifactoryApiKeyText_of_loaded c config _ s he] using ht

theorem apiKey_reachable (h : Reachable c config ArtifactoryStaysPut s) :
    ApiKeyFlags s ∧ ApiKeyText s := by
  induction h with
  | init => exact ⟨fun _ => by simp [ScreenState.init], rfl⟩
  | step e hr he ha ih =>
    exact ⟨apiKeyFlags_step e _ ih.1, apiKeyText_step
      (notLoadedClean_of_reachable (hr.mono fun _ _ => settingsStayLoaded_of_artifactoryStaysPut))
      ih.2 he ha⟩

/-! ## The key in the payload -/

/-- In runs whose refetches keep the Artifactory host, CLI URL and key flag, a mounted form's
payload has `artifactory_api_key = ""` when `artifactoryClearApiKey` is set, no key when the
field's text is blank, and the trimmed text otherwise. -/
theorem apiKey_tri_state (h : Reachable c config ArtifactoryStaysPut s)
    (hm : s.shouldBeLoading = false) :
    (s.submitPayload c config).artifactory_api_key =
      if s.artifactoryClearApiKey then some ""
      else if jsTrim s.artifactoryApiKeyText = "" then none
      else some (jsTrim s.artifactoryApiKeyText) := by
  obtain ⟨hk, ht⟩ := apiKey_reachable h
  obtain ⟨B, -, hfd⟩ := formData_of_mounted c config (inputsMountedWith_of_reachable h) hm
  rw [ScreenState.submitPayload, formAction_artifactory_api_key, hfd, get_formDataOf_apiKey]
  cases hc : s.artifactoryClearApiKey
  · have hchanged := hk hc
    rw [ht] at hchanged
    by_cases hblank : jsTrim s.artifactoryApiKeyText = ""
    · simp [hblank] at hchanged
      simp [hblank, hchanged]
    · simp [hblank, hchanged.2 hblank]
  · rfl

theorem apiKey_tri_state_sample :
    Reachable sampleCollaborators none ArtifactoryStaysPut sampleKeyTyped ∧
      sampleKeyTyped.shouldBeLoading = false ∧
      (sampleKeyTyped.submitPayload sampleCollaborators none).artifactory_api_key =
        if sampleKeyTyped.artifactoryClearApiKey then some ""
        else if jsTrim sampleKeyTyped.artifactoryApiKeyText = "" then none
        else some (jsTrim sampleKeyTyped.artifactoryApiKeyText) :=
  have h : Reachable sampleCollaborators none ArtifactoryStaysPut sampleKeyTyped :=
    .step _ (.init _ _ _ (by simp)) rfl trivial
  ⟨h, rfl, apiKey_tri_state h rfl⟩

/-- A key typed, a refetch that moves the Artifactory host, then the git user name edited: the
field still shows the key, the button is enabled, and the payload carries no key. -/
def sampleKeyAfterRefetch : ScreenState :=
  step sampleCollaborators none (.edit .gitUserName "alice")
    (step sampleCollaborators none
      (.settingsQuery
        (some { sampleBaseline with ARTIFACTORY_HOST := some "https://other.jfrog.io/artifactory" })
        false true)
      sampleKeyTyped)

theorem apiKey_dropped_after_refetch :
    Reachable sampleCollaborators none SettingsStayLoaded sampleKeyAfterRefetch ∧
      sampleKeyAfterRefetch.shouldBeLoading = false ∧
      sampleKeyAfterRefetch.submitDisabled = false ∧
      sampleKeyAfterRefetch.artifactoryClearApiKey = false ∧
      jsTrim sampleKeyAfterRefetch.artifactoryApiKeyText = "s3cret" ∧
      (sampleKeyAfterRefetch.submitPayload sampleCollaborators none).artifactory_api_key = none :=
  ⟨.step _ (.step _ (.step _ (.init _ _ _ (by simp)) rfl trivial) ⟨by simp, fun _ => rfl⟩
      fun _ => rfl) ⟨rfl, by decide⟩ trivial,
    by decide, by decide, by decide, by decide, by decide⟩

end AppSettings
