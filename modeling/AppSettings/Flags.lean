import AppSettings.Loaded

/-!
# The dirty flags against the inputs

A flag is set by its input's change handler, from that input's comparator at the baseline of
the moment, and dropped by `onSettled` and by the Artifactory effect; an input keeps what was
typed into it until the inputs mount afresh.  When does a flag agree with its input?

* `handle_field_cases`: what a handler can do to one input's draft and flag;
* `untouched_flag_clear`: in runs where the settings stay loaded, an input untouched since the
  inputs mounted has its flag down, for every input but the solvability switch;
* `touched_flag_tracks`: in runs whose refetches keep every scalar field, a touched input's
  flag is its comparator at the baseline and the input's value;
* `solvability_flag_survives_save`: `onSettled` does not reset the solvability flag, so after a
  save of that switch every input is untouched and the form still reads as dirty;
* `failed_save_settles`: a failed save ends where a successful one does, apart from the toast,
  and `failed_save_resets_flags` is a run where that drops the flag of an unsaved edit.
-/

namespace AppSettings

variable {c : Collaborators} {config : Option Config} {e : ScreenEvent} {s : ScreenState}

/-! ## What a handler does to one input -/

theorem resetFlags_cases (fields : List ScalarField) (flags : ScalarField → Bool)
    (f : ScalarField) : resetFlags fields flags f = flags f ∨ resetFlags fields flags f = false := by
  unfold resetFlags; split_ifs <;> simp

theorem mem_onSettledResets (f : ScalarField) :
    f ∈ onSettledResets ↔ f ≠ .solvabilityAnalysis := by
  cases f <;> decide

/-- A handler keeps an input's draft and keeps or drops its flag, unless it is an edit of that
input, which writes both. -/
theorem handle_field_cases (c : Collaborators) (config : Option Config) (e : ScreenEvent)
    (s : ScreenState) (f : ScalarField) :
    ((e.handle c config s).drafts f = s.drafts f ∧
      ((e.handle c config s).hasChanged f = s.hasChanged f ∨
        (e.handle c config s).hasChanged f = false)) ∨
    ∃ v, e = .edit f v ∧ (e.handle c config s).drafts f = some v ∧
      (e.handle c config s).hasChanged f = f.hasChanged c s.settings v := by
  cases e with
  | settingsQuery data isLoading newRepositoriesObject =>
    refine .inl ⟨by simp, ?_⟩
    rw [handle_settingsQuery_hasChanged]
    split_ifs
    · exact resetFlags_cases _ _ _
    · exact .inl rfl
  | edit g v =>
    by_cases hg : f = g
    · subst hg
      exact .inr ⟨v, rfl, by simp [ScreenEvent.handle], by simp [ScreenEvent.handle]⟩
    · exact .inl ⟨by simp [ScreenEvent.handle, Function.update_noteq hg],
        .inl (by simp [ScreenEvent.handle, Function.update_noteq hg])⟩
  | saveSettled result =>
    exact .inl ⟨rfl, resetFlags_cases _ _ _⟩
  | repositoryTypesQuery | apiKeyInput | clearApiKeyToggle | typeChange | repositoryChange
  | removeIntegration | addIntegration | submit => exact .inl ⟨rfl, .inl rfl⟩

/-! ## Untouched inputs -/

/-- Every input but the solvability switch that is untouched since the inputs mounted has its
flag down. -/
def UntouchedClean (s : ScreenState) : Prop :=
  ∀ f, f ≠ .solvabilityAnalysis → s.drafts f = none → s.hasChanged f = false

/-- When the inputs mount afresh the flags but the solvability one are down: the settings have
just loaded, so nothing was set, or a save has just settled. -/
theorem handle_flags_of_remount (hi : NotLoadedClean s) (he : Enabled config e s)
    (hl : s.shouldBeLoading = true) (hm : (e.handle c config s).shouldBeLoading = false)
    {f : ScalarField} (hf : f ≠ .solvabilityAnalysis) :
    (e.handle c config s).hasChanged f = false := by
  cases e with
  | settingsQuery data isLoading newRepositoriesObject =>
    -- no save was pending, so the settings were missing and every flag was down
    have hp : s.pendingSave = none := by
      simp [ScreenState.shouldBeLoading, ScreenState.isPending] at hm
      exact hm.2
    rw [handle_settingsQuery_hasChanged]
    split_ifs <;> simp [resetFlags, hi.flags (unloaded_of_shouldBeLoading hi hl hp) f]
  | saveSettled result =>
    simp [ScreenEvent.handle, onSettled, resetFlags, (mem_onSettledResets f).2 hf]
  | repositoryTypesQuery data => exact absurd (show s.shouldBeLoading = false from hm) (by simp [hl])
  | submit => simp [ScreenEvent.handle, ScreenState.shouldBeLoading, ScreenState.isPending] at hm
  | edit | clearApiKeyToggle | typeChange | repositoryChange | addIntegration =>
    simp [Enabled, hl] at he
  | apiKeyInput | removeIntegration => simp [Enabled, hl] at he

theorem untouchedClean_step (hi : NotLoadedClean s) (hu : UntouchedClean s)
    (he : Enabled config e s) : UntouchedClean (step c config e s) := by
  intro f hf hd
  simp only [step] at hd ⊢
  split_ifs at hd ⊢ with hr
  · simp only [Bool.and_eq_true, Bool.not_eq_true'] at hr
    exact handle_flags_of_remount hi he hr.1 hr.2 hf
  · rcases handle_field_cases c config e s f with ⟨hd', h | h⟩ | ⟨v, -, hv, -⟩
    · rw [h]; exact hu f hf (hd'.symm.trans hd)
    · exact h
    · simp [hv] at hd

/-- In runs where the settings stay loaded once loaded, every input but the solvability switch
that is untouched since the inputs mounted has its flag down. -/
theorem untouched_flag_clear (h : Reachable c config SettingsStayLoaded s) :
    ∀ f, f ≠ .solvabilityAnalysis → s.drafts f = none → s.hasChanged f = false := by
  induction h with
  | init => intro _ _ _; rfl
  | step e hr he _ ih => exact untouchedClean_step (notLoadedClean_of_reachable hr) ih he

theorem untouched_flag_clear_sample :
    Reachable sampleCollaborators none SettingsStayLoaded sampleEdited ∧
      ScalarField.gitUserEmail ≠ .solvabilityAnalysis ∧ sampleEdited.drafts .gitUserEmail = none ∧
      sampleEdited.hasChanged .gitUserEmail = false :=
  have h := sampleEdited_reachable fun _ => trivial
  ⟨h, by decide, rfl, untouched_flag_clear h .gitUserEmail (by decide) rfl⟩

/-! ## Touched inputs -/

/-- Two baselines that differ at most in their repository maps. -/
def SameScalars (B B' : Settings) : Prop :=
  { B with ARTIFACTORY_REPOSITORIES := B'.ARTIFACTORY_REPOSITORIES } = B'

/-- Runs in which a refetch of loaded settings keeps every scalar field; the repository map may
change. -/
def ScalarsStayPut : ScreenEvent → ScreenState → Prop
  | .settingsQuery data _ _, s => ∀ B ∈ s.settings, ∃ B' ∈ data, SameScalars B B'
  | _, _ => True

theorem settingsStayLoaded_of_scalarsStayPut (h : ScalarsStayPut e s) : SettingsStayLoaded e s := by
  cases e with
  | settingsQuery => exact isSome_of_refetch h
  | _ => trivial

theorem hasChanged_of_sameScalars {B B' : Settings} (h : SameScalars B B') (f : ScalarField)
    (v : f.Value) : f.hasChanged c (some B') v = f.hasChanged c (some B) v := by
  rw [← h]; cases f <;> rfl

theorem artifactoryDeps_of_sameScalars {B B' : Settings} (h : SameScalars B B') :
    artifactoryDeps (some B') = artifactoryDeps (some B) := by
  rw [← h]; rfl

/-- A touched input's flag is its comparator at the baseline and the input's value. -/
def TouchedTracks (c : Collaborators) (s : ScreenState) : Prop :=
  ∀ f v, s.drafts f = some v → s.hasChanged f = f.hasChanged c s.settings v

theorem touchedTracks_step (hi : NotLoadedClean s) (ht : TouchedTracks c s)
    (he : Enabled config e s) (ha : ScalarsStayPut e s) : TouchedTracks c (step c config e s) := by
  intro f v hv
  rw [step_hasChanged, step_settings]
  rcases step_drafts_cases c config e s with hd | hd
  swap
  · simp [hd] at hv
  rw [hd] at hv
  cases e with
  | settingsQuery data isLoading newRepositoriesObject =>
    cases hs : s.settings with
    | none => simp [hi.drafts hs] at hv
    | some B =>
      -- the refetch keeps the scalars, so neither the effect nor the comparators move
      obtain ⟨B', rfl, hB⟩ := ha B hs
      rw [handle_settingsQuery_of_deps _ _ _ _ _ _ (by rw [hs, artifactoryDeps_of_sameScalars hB])]
        at hv ⊢
      dsimp only at hv ⊢
      rw [hasChanged_of_sameScalars hB, ← hs]
      exact ht f v hv
  | edit g w =>
    by_cases hg : f = g
    · subst hg
      simp only [ScreenEvent.handle, Function.update_same, Option.some.injEq] at hv ⊢
      rw [hv]
    · simp only [ScreenEvent.handle, Function.update_noteq hg] at hv ⊢
      exact ht f v hv
  | saveSettled result =>
    -- a settled save remounts the inputs, so nothing is touched after it
    have h0 := congrFun hd f
    rw [step_saveSettled_remounts hi he] at h0
    simp [remount, hv] at h0
  | repositoryTypesQuery | apiKeyInput | clearApiKeyToggle | typeChange | repositoryChange
  | removeIntegration | addIntegration | submit => exact ht f v hv

/-- In runs whose refetches keep every scalar field, an input touched since the inputs mounted
has as flag its comparator at the baseline and the input's value. -/
theorem touched_flag_tracks (h : Reachable c config ScalarsStayPut s) :
    ∀ f v, s.drafts f = some v → s.hasChanged f = f.hasChanged c s.settings v := by
  induction h with
  | init => intro _ _ h; cases h
  | step e hr he ha ih =>
    exact touchedTracks_step
      (notLoadedClean_of_reachable (hr.mono fun _ _ => settingsStayLoaded_of_scalarsStayPut))
      ih he ha

theorem touched_flag_tracks_sample :
    Reachable sampleCollaborators none ScalarsStayPut sampleEdited ∧
      sampleEdited.drafts .gitUserName = some "alice" ∧
      sampleEdited.hasChanged .gitUserName =
        ScalarField.gitUserName.hasChanged sampleCollaborators sampleEdited.settings "alice" :=
  have h := sampleEdited_reachable fun _ => trivial
  ⟨h, rfl, touched_flag_tracks h .gitUserName "alice" rfl⟩

/-! ## The solvability flag over a save -/

/-- `config?.APP_MODE === "saas"`. -/
def sampleSaasConfig : Option Config := some ⟨"saas"⟩

/-- In saas mode: the solvability switch turned on, saved, and the settings refetched with the
saved value. -/
def sampleSavedSolvability : ScreenState :=
  step sampleCollaborators sampleSaasConfig
    (.settingsQuery (some { sampleBaseline with ENABLE_SOLVABILITY_ANALYSIS := true }) false true)
    (step sampleCollaborators sampleSaasConfig (.saveSettled .success)
      (step sampleCollaborators sampleSaasConfig .submit
        (step sampleCollaborators sampleSaasConfig (.edit .solvabilityAnalysis true)
          (ScreenState.init (some sampleBaseline) false none))))

/-- `onSettled` resets every flag but `solvabilityAnalysisSwitchHasChanged`: after the save every
input is untouched, yet the flag is up and the button enabled. -/
theorem solvability_flag_survives_save :
    Reachable sampleCollaborators sampleSaasConfig SettingsStayLoaded sampleSavedSolvability ∧
      (ScalarField.all.all fun f => (sampleSavedSolvability.drafts f).isNone) = true ∧
      sampleSavedSolvability.hasChanged .solvabilityAnalysis = true ∧
      sampleSavedSolvability.submitDisabled = false :=
  ⟨.step _ (.step _ (.step _ (.step _ (.init _ _ _ (by simp)) ⟨rfl, by decide⟩ trivial)
      (show _ = false by decide) trivial) rfl trivial) ⟨by simp, fun _ => rfl⟩ fun _ => rfl,
    by decide, by decide, by decide⟩

/-- The switch mounted when the save settled, before the refetch, so a second save would send
the old value back. -/
example : (sampleSavedSolvability.submitPayload sampleCollaborators
    sampleSaasConfig).ENABLE_SOLVABILITY_ANALYSIS = false := by
  decide

/-! ## A failed save -/

theorem step_submit (c : Collaborators) (config : Option Config) (s : ScreenState) :
    step c config .submit s = { s with pendingSave := some (s.submitPayload c config) } := by
  simp [step, ScreenEvent.handle, ScreenState.shouldBeLoading, ScreenState.isPending]

/-- A failed save ends where a successful one does, apart from the toast: the baseline and the
rows are kept, every flag but the solvability one is dropped with the API-key state, and when
the inputs were mounted they mount afresh, so every edit is gone. -/
theorem failed_save_settles (c : Collaborators) (config : Option Config) (s : ScreenState)
    (errorMessage : Option String) :
    let submitted := step c config .submit s
    let failed := step c config (.saveSettled (.failure errorMessage)) submitted
    failed = { step c config (.saveSettled .success) submitted with
      sideEffects := s.sideEffects ++ [.errorToast (jsOr errorMessage "ERROR$GENERIC")] } ∧
    failed.settings = s.settings ∧ failed.artifactoryIntegrations = s.artifactoryIntegrations ∧
    (∀ f, failed.hasChanged f = if f = .solvabilityAnalysis then s.hasChanged f else false) ∧
    failed.artifactoryApiKeyHasChanged = false ∧ failed.artifactoryClearApiKey = false ∧
    failed.artifactoryApiKeyInputValue = "" ∧
    (s.shouldBeLoading = false → (∀ f, failed.drafts f = none) ∧ failed.artifactoryApiKeyText = "") := by
  dsimp only
  rw [step_submit]
  simp only [step, ScreenEvent.handle, onSettled, ScreenState.shouldBeLoading,
    ScreenState.isPending, Option.isSome_some, Option.isSome_none, Bool.or_true, Bool.or_false,
    Bool.true_and]
  cases hc : (s.settings.isNone || s.isLoading) <;>
    simp [remount, resetFlags, mem_onSettledResets, settleEffects, hc]

/-- The git user name edited, then a save of it failing: the flag of the edit is dropped and the
input mounts afresh without it. -/
theorem failed_save_resets_flags :
    Reachable sampleCollaborators none AnyRun sampleEdited ∧ sampleEdited.submitDisabled = false ∧
      sampleEdited.hasChanged .gitUserName = true ∧
      (step sampleCollaborators none (.saveSettled (.failure none)) sampleSaving).hasChanged
        .gitUserName = false ∧
      (step sampleCollaborators none (.saveSettled (.failure none)) sampleSaving).drafts
        .gitUserName = none :=
  ⟨sampleEdited_reachable fun _ => trivial, by decide, by decide, by decide, rfl⟩

end AppSettings
