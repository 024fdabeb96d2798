import AppSettings.Loaded
import AppSettings.RepositoryEdits

/-!
# The screen drives the rows machine

Every change the screen makes to `artifactoryIntegrations` is a step of the rows machine of
`AppSettings.Rows`: the rows effect rebuilds, the row handlers add, remove, rename and retype,
and `Enabled` gives each step the guard the rows machine asks of it (a fresh id to add, an
available option to retype to, computed from the screen's `repositoryTypes`).

* `handle_rows_cases`: a handler keeps the rows or takes one guarded rows step;
* `screen_rows_reachable`: the rows of every reachable screen are reachable rows, so no two of
  them share an id or a non-empty type;
* `screen_refines_map_edits`: from every reachable screen, every event changes the map a save
  would send by the edit of the rows event it takes (`AppSettings.RepositoryEdits`);
* `screen_addCap`: in every run whose type list is fixed and whose loaded maps use only listed
  types, the rows are a run of the Add-cap machine of `AppSettings.Rows`, so there are never
  more rows than types and every row keeps an available option.
-/

namespace AppSettings

variable {c : Collaborators} {config : Option Config} {e : ScreenEvent} {s : ScreenState}

/-- An enabled handler keeps the rows, or takes one step of the rows machine that the editor's
guard admits. -/
theorem handle_rows_cases (he : Enabled config e s) :
    (e.handle c config s).artifactoryIntegrations = s.artifactoryIntegrations ∨
      ∃ re, EditorStep re s.artifactoryIntegrations ∧
        (e.handle c config s).artifactoryIntegrations = re.apply s.artifactoryIntegrations := by
  cases e with
  | settingsQuery data isLoading newRepositoriesObject =>
    rw [handle_settingsQuery_artifactoryIntegrations]
    cases newRepositoriesObject
    · exact .inl rfl
    · exact .inr ⟨.rebuild _, trivial, rfl⟩
  | typeChange id value => exact .inr ⟨.changeType s.repositoryTypes id value, he.2, rfl⟩
  | repositoryChange id value => exact .inr ⟨.changeKey id value, trivial, rfl⟩
  | removeIntegration id => exact .inr ⟨.remove id, trivial, rfl⟩
  | addIntegration randomSuffix => exact .inr ⟨.add randomSuffix, he.2.2, rfl⟩
  | saveSettled result => exact .inl rfl
  | repositoryTypesQuery | edit | apiKeyInput | clearApiKeyToggle | submit => exact .inl rfl

/-- The rows of every reachable screen are reachable by the editor's steps. -/
theorem rowsReachable_of_reachable {allowed : ScreenEvent → ScreenState → Prop}
    (h : Reachable c config allowed s) : RowsReachable EditorStep s.artifactoryIntegrations := by
  induction h with
  | init settings _ _ _ => exact .step (.rebuild _) .init trivial
  | step e _ he _ ih =>
    rw [step_artifactoryIntegrations]
    rcases handle_rows_cases (c := c) he with h | ⟨re, hre, h⟩
    · rw [h]; exact ih
    · rw [h]; exact .step re ih hre

/-- **The screen refines the rows machine.**  In every run of the screen its rows are reachable
by the editor's steps, so ids are distinct and non-empty types are distinct. -/
theorem screen_rows_reachable {allowed : ScreenEvent → ScreenState → Prop}
    (h : Reachable c config allowed s) :
    RowsReachable EditorStep s.artifactoryIntegrations ∧ Distinct s.artifactoryIntegrations :=
  ⟨rowsReachable_of_reachable h, distinct_of_reachable (rowsReachable_of_reachable h)⟩

theorem screen_rows_reachable_sample :
    Reachable sampleCollaborators none AnyRun sampleEdited ∧
      (RowsReachable EditorStep sampleEdited.artifactoryIntegrations ∧
        Distinct sampleEdited.artifactoryIntegrations) :=
  have h := sampleEdited_reachable fun _ => trivial
  ⟨h, screen_rows_reachable h⟩

/-! ## The map the save would send -/

/-- The rows event a screen event takes, if any. -/
def ScreenEvent.rowEvent (s : ScreenState) : ScreenEvent → Option RowEvent
  | .settingsQuery data _ newRepositoriesObject =>
    if newRepositoriesObject then some (.rebuild (data.map (·.ARTIFACTORY_REPOSITORIES)))
    else none
  | .typeChange id value => some (.changeType s.repositoryTypes id value)
  | .repositoryChange id value => some (.changeKey id value)
  | .removeIntegration id => some (.remove id)
  | .addIntegration randomSuffix => some (.add randomSuffix)
  | .repositoryTypesQuery _ | .edit _ _ | .apiKeyInput _ | .clearApiKeyToggle _ | .submit
  | .saveSettled _ => none

/-- A handler changes the rows by the rows event it takes, and otherwise keeps them. -/
theorem handle_rows_eq (e : ScreenEvent) (s : ScreenState) :
    (e.handle c config s).artifactoryIntegrations =
      ((e.rowEvent s).map fun re => re.apply s.artifactoryIntegrations).getD
        s.artifactoryIntegrations := by
  cases e with
  | settingsQuery data isLoading newRepositoriesObject =>
    rw [handle_settingsQuery_artifactoryIntegrations]
    cases newRepositoriesObject <;> rfl
  | _ => rfl

/-- **The screen edits the repository map.**  From every reachable screen, every event changes the
map a save would send (`artifactoryRepositoriesPayload`) by one edit: the edit of the rows event
it takes (a rebuild reloads the baseline's normal form, a key typed into a typed row puts or
deletes, a removal or a type change deletes the row's type, an added row keeps the map), and no
edit at all when it takes none. -/
theorem screen_refines_map_edits {allowed : ScreenEvent → ScreenState → Prop}
    (h : Reachable c config allowed s) (e : ScreenEvent) :
    (step c config e s).artifactoryRepositoriesPayload.get? =
      (((e.rowEvent s).map fun re : RowEvent => re.mapEdit s.artifactoryIntegrations).getD MapEdit.keep).apply
        s.artifactoryRepositoriesPayload.get? := by
  simp only [ScreenState.artifactoryRepositoriesPayload, step_artifactoryIntegrations,
    handle_rows_eq]
  cases e.rowEvent s with
  | none => rfl
  | some re => exact rows_refine_map_edits (rowsReachable_of_reachable h) re

theorem screen_refines_map_edits_sample :
    Reachable sampleCollaborators none AnyRun sampleEdited ∧
      (step sampleCollaborators none (.repositoryChange "artifactory-npm" "")
          sampleEdited).artifactoryRepositoriesPayload.get? =
        ((((ScreenEvent.repositoryChange "artifactory-npm" "").rowEvent sampleEdited).map
          fun re => re.mapEdit sampleEdited.artifactoryIntegrations).getD MapEdit.keep).apply
          sampleEdited.artifactoryRepositoriesPayload.get? :=
  have h : Reachable sampleCollaborators none AnyRun sampleEdited :=
    sampleEdited_reachable fun _ => trivial
  ⟨h, screen_refines_map_edits h _⟩

example : ((ScreenEvent.repositoryChange "artifactory-npm" "").rowEvent sampleEdited).map
    (fun re : RowEvent => re.mapEdit sampleEdited.artifactoryIntegrations) = some (.delete "npm") := by
  decide

/-! ## The Add cap over screen runs -/

/-- The screen's type list is `L`, and the loaded repository map uses only types of `L`. -/
def TypesWithin (L : List String) (s : ScreenState) : Prop :=
  s.repositoryTypes = L ∧ ∀ B ∈ s.settings, ∀ k ∈ B.ARTIFACTORY_REPOSITORIES.keys, k ∈ L

/-- Runs in which every event happens while the type list is `L` and the loaded repository map
uses only types of `L`. -/
def FixedTypeList (L : List String) : ScreenEvent → ScreenState → Prop := fun _ => TypesWithin L

/-- The rows effect over settings whose map uses only types of `L` is an Add-cap step. -/
theorem addCapStep_rebuild {L : List String} {settings : Option Settings}
    (h : ∀ B ∈ settings, ∀ k ∈ B.ARTIFACTORY_REPOSITORIES.keys, k ∈ L)
    (rows : List ArtifactoryRepositoryIntegration) :
    AddCapStep L (.rebuild (settings.map (·.ARTIFACTORY_REPOSITORIES))) rows := by
  intro m hm
  obtain ⟨B, hB, rfl⟩ := Option.mem_map.1 hm
  exact h B hB

/-- An enabled event over the type list `L` takes an Add-cap step, if it takes a rows step. -/
theorem addCapStep_rowEvent {L : List String} (he : Enabled config e s) (hs : TypesWithin L s)
    (hs' : TypesWithin L (step c config e s)) {re : RowEvent} (hre : e.rowEvent s = some re) :
    AddCapStep L re s.artifactoryIntegrations := by
  cases e with
  | settingsQuery data isLoading newRepositoriesObject =>
    cases newRepositoriesObject <;> simp only [ScreenEvent.rowEvent, if_false, if_true,
      reduceCtorEq, Option.some.injEq] at hre
    subst hre
    -- the refetched settings are the loaded ones after the step
    exact addCapStep_rebuild (by simpa using hs'.2) _
  | addIntegration randomSuffix =>
    cases hre
    have hadd := he.2.1
    rw [hs.1] at hadd
    show addButtonDisabled false L s.artifactoryIntegrations = false
    simp only [addButtonDisabled, Bool.false_or, Bool.or_eq_false_iff] at hadd ⊢
    exact ⟨hadd.1.2, hadd.2⟩
  | typeChange | repositoryChange | removeIntegration => cases hre; trivial
  | repositoryTypesQuery | edit | apiKeyInput | clearApiKeyToggle | submit | saveSettled =>
    cases hre

/-- **The screen refines the Add-cap machine.**  In every run whose type list stays `L`, with no
duplicates, and whose loaded repository maps use only types of `L`, the rows are a run of the
Add-cap rows machine over `L`: there are never more rows than types, and every row keeps an
available option. -/
theorem screen_addCap {L : List String} (hL : L.Nodup)
    (h : Reachable c config (FixedTypeList L) s) (hs : TypesWithin L s) :
    RowsReachable (AddCapStep L) s.artifactoryIntegrations ∧
      s.artifactoryIntegrations.length ≤ L.length ∧
      ∀ r ∈ s.artifactoryIntegrations,
        availableOptions L s.artifactoryIntegrations r ≠ [] := by
  have hreach : RowsReachable (AddCapStep L) s.artifactoryIntegrations := by
    induction h with
    | init settings _ _ _ => exact .step (.rebuild _) .init (addCapStep_rebuild hs.2 [])
    | step e _ he ha ih =>
      rw [step_artifactoryIntegrations, handle_rows_eq]
      cases hre : e.rowEvent _ with
      | none => exact ih ha
      | some re => exact .step re (ih ha) (addCapStep_rowEvent he ha hs hre)
  exact ⟨hreach, length_le_of_addCap hreach,
    fun _ hr => availableOptions_ne_nil hL (length_le_of_addCap hreach) hr⟩

theorem screen_addCap_sample :
    SUPPORTED_ARTIFACTORY_REPO_TYPES.Nodup ∧
      Reachable sampleCollaborators none (FixedTypeList SUPPORTED_ARTIFACTORY_REPO_TYPES)
        sampleEdited ∧
      TypesWithin SUPPORTED_ARTIFACTORY_REPO_TYPES sampleEdited ∧
      (RowsReachable (AddCapStep SUPPORTED_ARTIFACTORY_REPO_TYPES)
          sampleEdited.artifactoryIntegrations ∧
        sampleEdited.artifactoryIntegrations.length ≤ SUPPORTED_ARTIFACTORY_REPO_TYPES.length ∧
        ∀ r ∈ sampleEdited.artifactoryIntegrations,
          availableOptions SUPPORTED_ARTIFACTORY_REPO_TYPES sampleEdited.artifactoryIntegrations r ≠
            []) :=
  have hs : TypesWithin SUPPORTED_ARTIFACTORY_REPO_TYPES sampleEdited := ⟨rfl, by decide⟩
  have h : Reachable sampleCollaborators none (FixedTypeList SUPPORTED_ARTIFACTORY_REPO_TYPES)
      sampleEdited :=
    .step _ (.init _ _ _ (by simp)) ⟨rfl, by decide⟩ ⟨rfl, by decide⟩
  ⟨by decide, h, hs, screen_addCap (by decide) h hs⟩

end AppSettings
