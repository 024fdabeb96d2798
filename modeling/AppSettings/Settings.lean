import AppSettings.Repositories
import Mathlib.Data.Rat.Defs
import Mathlib.Logic.Function.Basic

/-!
# The settings document and the scalar inputs of the screen

The part of `Settings` (`#/types/settings`) that `AppSettingsScreen` reads, the collaborators it
imports from files outside this slice (`AvailableLanguages`, `DEFAULT_SETTINGS`,
`parseMaxBudgetPerTask`, the `LanguageInput` component), and its ten scalar inputs: for each,
the default the render gives it and the `checkIf…HasChanged` comparator its change handler runs.

Optional strings and booleans are `none` when absent or `null`: every read of them in the
screen (`||`, `??`, `!!`, `!==` against a string) treats the two alike.  Numbers are rationals;
`parseMaxBudgetPerTask` never yields `NaN` there.

What is proved here:

* `defaultValue_clean`: re-entering the value an input is rendered with leaves it clean, for the
  four switches, the Artifactory host and the CLI install URL, and for the git identity when
  the baseline has one;
* `gitIdentity_default_dirty_iff`: the empty text a git identity input shows reads as a change
  exactly when the baseline has no value there, because `checkIfGitUserNameHasChanged` and
  `checkIfGitUserEmailHasChanged` compare with the raw baseline where the render and the host
  comparator use `|| ""`.
-/

namespace AppSettings

/-- The fields of `Settings` the screen reads. -/
structure Settings where
  LANGUAGE : String
  USER_CONSENTS_TO_ANALYTICS : Option Bool
  ENABLE_SOUND_NOTIFICATIONS : Bool
  ENABLE_PROACTIVE_CONVERSATION_STARTERS : Bool
  ENABLE_SOLVABILITY_ANALYSIS : Bool
  MAX_BUDGET_PER_TASK : Option ℚ
  GIT_USER_NAME : Option String
  GIT_USER_EMAIL : Option String
  ARTIFACTORY_HOST : Option String
  ARTIFACTORY_CLI_INSTALL_URL : Option String
  ARTIFACTORY_API_KEY_SET : Option Bool
  ARTIFACTORY_REPOSITORIES : RepositoryMap
deriving DecidableEq

/-- The part of `useConfig()`'s data the screen reads. -/
structure Config where
  APP_MODE : String
deriving DecidableEq

/-- `config?.APP_MODE === "saas"`: the two saas-only switches are rendered. -/
def isSaas (config : Option Config) : Bool := config.map (·.APP_MODE) == some "saas"

/-- An entry of `AvailableLanguages`. -/
structure LanguageOption where
  label : String
  value : String

/-- The fields of `DEFAULT_SETTINGS` the screen reads. -/
structure DefaultSettings where
  LANGUAGE : String
  GIT_USER_NAME : String
  GIT_USER_EMAIL : String
  ARTIFACTORY_CLI_INSTALL_URL : Option String

/-- What the screen imports from outside this slice, taken as parameters. -/
structure Collaborators where
  AvailableLanguages : List LanguageOption
  DEFAULT_SETTINGS : DefaultSettings
  parseMaxBudgetPerTask : String → Option ℚ
  /-- the text `LanguageInput` submits for its `defaultKey` before any edit -/
  languageInputDefault : String → String
  /-- `Number.prototype.toString` -/
  numberToString : ℚ → String

/-! ## The scalar inputs -/

/-- The ten inputs whose edits set a `…HasChanged` flag, in the order of the render. -/
inductive ScalarField
  | language | analytics | soundNotifications | proactiveConversations | solvabilityAnalysis
  | maxBudgetPerTask | gitUserName | gitUserEmail | artifactoryHost | artifactoryCliInstallUrl
deriving DecidableEq, Repr

/-- What a field's change handler receives: a switch's new state or an input's text. -/
def ScalarField.Value : ScalarField → Type
  | .analytics | .soundNotifications | .proactiveConversations | .solvabilityAnalysis => Bool
  | .language | .maxBudgetPerTask | .gitUserName | .gitUserEmail | .artifactoryHost
  | .artifactoryCliInstallUrl => String

/-- All ten, in the order `formIsClean` reads their flags. -/
def ScalarField.all : List ScalarField :=
  [.language, .analytics, .soundNotifications, .proactiveConversations, .solvabilityAnalysis,
    .maxBudgetPerTask, .gitUserName, .gitUserEmail, .artifactoryHost, .artifactoryCliInstallUrl]

/-! ## Comparators -/

/-- `checkIfLanguageInputHasChanged`: the label typed against the label of the baseline's
language code. -/
def checkIfLanguageInputHasChanged (c : Collaborators) (settings : Option Settings)
    (value : String) : Bool :=
  let selectedLanguage := (c.AvailableLanguages.find? fun l => l.label = value).map (·.label)
  let currentLanguage :=
    (c.AvailableLanguages.find? fun l => some l.value = settings.map (·.LANGUAGE)).map (·.label)
  selectedLanguage != currentLanguage

/-- The switch comparators: the new state against `!!settings?.FIELD`. -/
def checkIfSwitchHasChanged (current : Settings → Bool) (settings : Option Settings)
    (checked : Bool) : Bool :=
  checked != (settings.map current).getD false

/-- `checkIfAnalyticsSwitchHasChanged` (`!!` reads `null` as `false`). -/
def checkIfAnalyticsSwitchHasChanged : Option Settings → Bool → Bool :=
  checkIfSwitchHasChanged fun s => s.USER_CONSENTS_TO_ANALYTICS.getD false

/-- `checkIfSoundNotificationsSwitchHasChanged`. -/
def checkIfSoundNotificationsSwitchHasChanged : Option Settings → Bool → Bool :=
  checkIfSwitchHasChanged (·.ENABLE_SOUND_NOTIFICATIONS)

/-- `checkIfProactiveConversationsSwitchHasChanged`. -/
def checkIfProactiveConversationsSwitchHasChanged : Option Settings → Bool → Bool :=
  checkIfSwitchHasChanged (·.ENABLE_PROACTIVE_CONVERSATION_STARTERS)

/-- `checkIfSolvabilityAnalysisSwitchHasChanged`. -/
def checkIfSolvabilityAnalysisSwitchHasChanged : Option Settings → Bool → Bool :=
  checkIfSwitchHasChanged (·.ENABLE_SOLVABILITY_ANALYSIS)

/-- `checkIfMaxBudgetPerTaskHasChanged`: the parsed text against the baseline's number. -/
def checkIfMaxBudgetPerTaskHasChanged (c : Collaborators) (settings : Option Settings)
    (value : String) : Bool :=
  c.parseMaxBudgetPerTask value != settings.bind (·.MAX_BUDGET_PER_TASK)

/-- The git comparators: the text against the raw baseline value, `value !== settings?.FIELD`. -/
def checkIfGitFieldHasChanged (current : Settings → Option String) (settings : Option Settings)
    (value : String) : Bool :=
  some value != settings.bind current

/-- `checkIfGitUserNameHasChanged`. -/
def checkIfGitUserNameHasChanged : Option Settings → String → Bool :=
  checkIfGitFieldHasChanged (·.GIT_USER_NAME)

/-- `checkIfGitUserEmailHasChanged`. -/
def checkIfGitUserEmailHasChanged : Option Settings → String → Bool :=
  checkIfGitFieldHasChanged (·.GIT_USER_EMAIL)

/-- `checkIfArtifactoryHostHasChanged`: against `settings?.ARTIFACTORY_HOST || ""`. -/
def checkIfArtifactoryHostHasChanged (settings : Option Settings) (value : String) : Bool :=
  value != jsOr (settings.bind (·.ARTIFACTORY_HOST)) ""

/-- `checkIfArtifactoryCliInstallUrlHasChanged`: both sides trimmed, the baseline defaulting
through `??` to `DEFAULT_SETTINGS.ARTIFACTORY_CLI_INSTALL_URL` and then `""`. -/
def checkIfArtifactoryCliInstallUrlHasChanged (c : Collaborators) (settings : Option Settings)
    (value : String) : Bool :=
  let normalizedValue := jsTrim value
  let currentValue := ((settings.bind (·.ARTIFACTORY_CLI_INSTALL_URL)).or
    c.DEFAULT_SETTINGS.ARTIFACTORY_CLI_INSTALL_URL).getD ""
  normalizedValue != jsTrim currentValue

/-- The comparator each input's change handler runs. -/
def ScalarField.hasChanged (c : Collaborators) (settings : Option Settings) :
    (f : ScalarField) → f.Value → Bool
  | .language => checkIfLanguageInputHasChanged c settings
  | .analytics => checkIfAnalyticsSwitchHasChanged settings
  | .soundNotifications => checkIfSoundNotificationsSwitchHasChanged settings
  | .proactiveConversations => checkIfProactiveConversationsSwitchHasChanged settings
  | .solvabilityAnalysis => checkIfSolvabilityAnalysisSwitchHasChanged settings
  | .maxBudgetPerTask => checkIfMaxBudgetPerTaskHasChanged c settings
  | .gitUserName => checkIfGitUserNameHasChanged settings
  | .gitUserEmail => checkIfGitUserEmailHasChanged settings
  | .artifactoryHost => checkIfArtifactoryHostHasChanged settings
  | .artifactoryCliInstallUrl => checkIfArtifactoryCliInstallUrlHasChanged c settings

/-! ## Defaults -/

/-- The value an input shows when mounted: `defaultKey`, `defaultIsToggled` or
`defaultValue` of the render. -/
def ScalarField.defaultValue (c : Collaborators) (settings : Settings) :
    (f : ScalarField) → f.Value
  | .language => c.languageInputDefault settings.LANGUAGE
  | .analytics => settings.USER_CONSENTS_TO_ANALYTICS.getD false
  | .soundNotifications => settings.ENABLE_SOUND_NOTIFICATIONS
  | .proactiveConversations => settings.ENABLE_PROACTIVE_CONVERSATION_STARTERS
  | .solvabilityAnalysis => settings.ENABLE_SOLVABILITY_ANALYSIS
  | .maxBudgetPerTask => jsOr (settings.MAX_BUDGET_PER_TASK.map c.numberToString) ""
  | .gitUserName => jsOr settings.GIT_USER_NAME ""
  | .gitUserEmail => jsOr settings.GIT_USER_EMAIL ""
  | .artifactoryHost => jsOr settings.ARTIFACTORY_HOST ""
  | .artifactoryCliInstallUrl =>
    (settings.ARTIFACTORY_CLI_INSTALL_URL.or c.DEFAULT_SETTINGS.ARTIFACTORY_CLI_INSTALL_URL).getD ""

/-! ## Re-entering the displayed default -/

/-- Re-entering the value a switch, the Artifactory host or the CLI install URL is rendered
with leaves the field clean. -/
theorem defaultValue_clean (c : Collaborators) (B : Settings) :
    ∀ f ∈ [ScalarField.analytics, .soundNotifications, .proactiveConversations,
      .solvabilityAnalysis, .artifactoryHost, .artifactoryCliInstallUrl],
      f.hasChanged c (some B) (f.defaultValue c B) = false := by
  intro f hf
  simp only [List.mem_cons, List.mem_singleton, List.not_mem_nil, or_false] at hf
  rcases hf with rfl | rfl | rfl | rfl | rfl | rfl <;>
    simp [ScalarField.hasChanged, ScalarField.defaultValue, checkIfSwitchHasChanged,
      checkIfAnalyticsSwitchHasChanged, checkIfSoundNotificationsSwitchHasChanged,
      checkIfProactiveConversationsSwitchHasChanged, checkIfSolvabilityAnalysisSwitchHasChanged,
      checkIfArtifactoryHostHasChanged, checkIfArtifactoryCliInstallUrlHasChanged]

/-- The git identity inputs render `GIT_USER_NAME || ""` but compare with the raw baseline: the
rendered default reads as a change exactly when the baseline has no value. -/
theorem gitIdentity_default_dirty_iff (c : Collaborators) (B : Settings) :
    (ScalarField.gitUserName.hasChanged c (some B) (ScalarField.gitUserName.defaultValue c B) =
        true ↔ B.GIT_USER_NAME = none) ∧
      (ScalarField.gitUserEmail.hasChanged c (some B) (ScalarField.gitUserEmail.defaultValue c B) =
        true ↔ B.GIT_USER_EMAIL = none) := by
  have key : ∀ x : Option String, (some (jsOr x "") != x) = true ↔ x = none := by
    intro x
    rcases x with _ | s
    · simp
    · by_cases hs : s = "" <;> simp [jsOr, hs]
  exact ⟨key _, key _⟩

/-- Collaborators for the concrete runs of this development: two languages, and the CLI URL
default of `#/types/settings`. -/
def sampleCollaborators : Collaborators where
  AvailableLanguages := [⟨"English", "en"⟩, ⟨"Deutsch", "de"⟩]
  DEFAULT_SETTINGS := ⟨"en", "default-user", "default-user@example.com",
    some "https://getcli.jfrog.io"⟩
  parseMaxBudgetPerTask := fun text => text.toNat?.map fun n => (n : ℚ)
  languageInputDefault := fun key => if key = "de" then "Deutsch" else "English"
  numberToString := toString

/-- A baseline with no git user name, a `null`-free analytics consent and a stored API key. -/
def sampleBaseline : Settings where
  LANGUAGE := "en"
  USER_CONSENTS_TO_ANALYTICS := some false
  ENABLE_SOUND_NOTIFICATIONS := true
  ENABLE_PROACTIVE_CONVERSATION_STARTERS := true
  ENABLE_SOLVABILITY_ANALYSIS := false
  MAX_BUDGET_PER_TASK := none
  GIT_USER_NAME := none
  GIT_USER_EMAIL := some "dev@example.com"
  ARTIFACTORY_HOST := some "https://example.jfrog.io/artifactory"
  ARTIFACTORY_CLI_INSTALL_URL := none
  ARTIFACTORY_API_KEY_SET := some true
  ARTIFACTORY_REPOSITORIES := sampleRepositories

theorem defaultValue_clean_host :
    ScalarField.artifactoryHost ∈ [ScalarField.analytics, .soundNotifications,
        .proactiveConversations, .solvabilityAnalysis, .artifactoryHost,
        .artifactoryCliInstallUrl] ∧
      ScalarField.artifactoryHost.hasChanged sampleCollaborators (some sampleBaseline)
        (ScalarField.artifactoryHost.defaultValue sampleCollaborators sampleBaseline) = false :=
  ⟨by decide, defaultValue_clean sampleCollaborators sampleBaseline _ (by decide)⟩

end AppSettings
