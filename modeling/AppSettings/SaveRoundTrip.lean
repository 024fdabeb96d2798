import AppSettings.Flags

/-!
# A save, and the refetch of what it saved

`formAction` sends `ARTIFACTORY_REPOSITORIES: artifactoryRepositoriesPayload`, the map the rows
produce; the server stores it and the settings query refetches it.  When the refetched map is
the one sent, its keys in any order, the screen must not read the rows as changed, whether
React Query hands over a new object, so that the rows effect rebuilds them, or keeps the old
one.

* `reposHaveChanged_of_echo` (in `AppSettings.Repositories`): a baseline that echoes the rows'
  map compares equal to the rows, and to the rows rebuilt from it;
* `save_round_trip_clean`: submitting, the save succeeding and the saved settings refetched
  leave no repository change, and the form is clean exactly when the solvability flag, which
  `onSettled` does not reset, was down before the save.
-/

namespace AppSettings

variable (c : Collaborators) (config : Option Config)

/-- The server returns the repository map a save sent, its keys in any order. -/
def EchoesRepositories (B : Settings) (payload : Payload) : Prop :=
  B.ARTIFACTORY_REPOSITORIES.Equiv (payloadAsRepositoryMap payload.ARTIFACTORY_REPOSITORIES)

/-- Submitting, the save succeeding, and the settings query then reporting `B`. -/
def saveRoundTrip (B : Settings) (isLoading newRepositoriesObject : Bool) (s : ScreenState) :
    ScreenState :=
  step c config (.settingsQuery (some B) isLoading newRepositoriesObject)
    (step c config (.saveSettled .success) (step c config .submit s))

/-- After a submit and its success: no save pending, the baseline and the rows as they were,
every flag but the solvability one down, and the API-key state cleared. -/
theorem saved_after_submit (s : ScreenState) :
    (step c config (.saveSettled .success) (step c config .submit s)).pendingSave = none ∧
      (step c config (.saveSettled .success) (step c config .submit s)).settings = s.settings ∧
      (step c config (.saveSettled .success) (step c config .submit s)).artifactoryIntegrations =
        s.artifactoryIntegrations ∧
      (step c config (.saveSettled .success) (step c config .submit s)).hasChanged =
        resetFlags onSettledResets s.hasChanged ∧
      (step c config (.saveSettled .success)
        (step c config .submit s)).artifactoryApiKeyHasChanged = false ∧
      (step c config (.saveSettled .success) (step c config .submit s)).artifactoryClearApiKey =
        false := by
  simp [step_submit, ScreenEvent.handle, onSettled]

/-- **A save round trip leaves the form clean but for the solvability flag.**  From every state,
submitting, the save succeeding, and a refetch whose repository map is the one the save sent
(in any key order, with or without a rebuild of the rows) leave no repository change, and the
form is clean, and the submit button disabled, exactly when the solvability flag was down before
the save. -/
theorem save_round_trip_clean (B : Settings) (isLoading newRepositoriesObject : Bool)
    (s : ScreenState) (hB : EchoesRepositories B (s.submitPayload c config)) :
    (saveRoundTrip c config B isLoading newRepositoriesObject s).reposHaveChanged = false ∧
      (saveRoundTrip c config B isLoading newRepositoriesObject s).formIsClean =
        !s.hasChanged .solvabilityAnalysis ∧
      (saveRoundTrip c config B isLoading newRepositoriesObject s).submitDisabled =
        !s.hasChanged .solvabilityAnalysis := by
  unfold saveRoundTrip
  obtain ⟨hpending, -, hrows, hflags, hkey, hclear⟩ := saved_after_submit c config s
  generalize step c config (.saveSettled .success) (step c config .submit s) = t
    at hpending hrows hflags hkey hclear
  have hrepos : (step c config (.settingsQuery (some B) isLoading newRepositoriesObject)
      t).reposHaveChanged = false := by
    simp only [ScreenState.reposHaveChanged, step_settings, step_artifactoryIntegrations,
      handle_settingsQuery_settings, handle_settingsQuery_artifactoryIntegrations,
      Option.map_some', hrows]
    exact reposHaveChanged_of_echo hB newRepositoriesObject
  have hclean : (step c config (.settingsQuery (some B) isLoading newRepositoriesObject)
      t).formIsClean = !s.hasChanged .solvabilityAnalysis := by
    rw [ScreenState.formIsClean, hrepos]
    simp only [step_hasChanged, step_artifactoryApiKeyHasChanged, step_artifactoryClearApiKey,
      handle_settingsQuery_hasChanged, handle_settingsQuery_artifactoryApiKeyHasChanged,
      handle_settingsQuery_artifactoryClearApiKey, hflags, hkey, hclear, ite_self]
    -- whether or not the Artifactory effect runs, only the solvability flag can be up
    split_ifs <;> simp [ScalarField.all, resetFlags, onSettledResets]
  refine ⟨hrepos, hclean, ?_⟩
  simp [ScreenState.submitDisabled, ScreenState.isPending, hclean, hpending]

/-- The saved map echoed without the padded key's spaces and without the `null` entry. -/
def sampleSavedBaseline : Settings :=
  { sampleBaseline with ARTIFACTORY_REPOSITORIES := ⟨[("npm", some "lodash")], by decide⟩ }

theorem save_round_trip_clean_sample :
    EchoesRepositories sampleSavedBaseline (sampleEdited.submitPayload sampleCollaborators none) ∧
      ((saveRoundTrip sampleCollaborators none sampleSavedBaseline false true
          sampleEdited).reposHaveChanged = false ∧
        (saveRoundTrip sampleCollaborators none sampleSavedBaseline false true
          sampleEdited).formIsClean = !sampleEdited.hasChanged .solvabilityAnalysis ∧
        (saveRoundTrip sampleCollaborators none sampleSavedBaseline false true
          sampleEdited).submitDisabled = !sampleEdited.hasChanged .solvabilityAnalysis) :=
  have h : EchoesRepositories sampleSavedBaseline
      (sampleEdited.submitPayload sampleCollaborators none) := by
    unfold EchoesRepositories
    rw [show sampleSavedBaseline.ARTIFACTORY_REPOSITORIES = payloadAsRepositoryMap
      (sampleEdited.submitPayload sampleCollaborators none).ARTIFACTORY_REPOSITORIES by decide]
    exact .refl _
  ⟨h, save_round_trip_clean _ _ _ _ _ _ h⟩

end AppSettings
