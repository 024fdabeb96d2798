import AppSettings.Settings

/-!
# The form data and the save payload

What the browser collects from the mounted inputs when the form is submitted (`FormData`), and
`formAction`, which turns it into the `Partial<PostSettings>` payload of the save request.

What is proved here:

* `get_formDataOf`: the form data holds, under each rendered input's name, the value the input
  submits (its draft, or its default when untouched), and nothing under an input that is not
  rendered;
* `formAction_untouched`: a field left untouched is sent as the screen reads the baseline: `!!`
  for the switches, `|| DEFAULT_SETTINGS…` for the git identity, trimmed for the host and the CLI
  URL, and `false` for a saas-only switch outside saas mode;
* `formAction_drops_hidden_switch`: so outside saas mode an enabled proactive-conversation
  setting is sent back as `false` without the user touching it.
-/

namespace AppSettings

/-- The name and value of each form control that submits one, in document order. -/
abbrev FormData := List (String × String)

/-- `formData.get(name)?.toString()`: the first value under `name`. -/
def FormData.get (formData : FormData) (name : String) : Option String := formData.lookup name

/-- The `name` of each input. -/
def ScalarField.inputName : ScalarField → String
  | .language => "language-input"
  | .analytics => "enable-analytics-switch"
  | .soundNotifications => "enable-sound-notifications-switch"
  | .proactiveConversations => "enable-proactive-conversations-switch"
  | .solvabilityAnalysis => "enable-solvability-analysis-switch"
  | .maxBudgetPerTask => "max-budget-per-task-input"
  | .gitUserName => "git-user-name-input"
  | .gitUserEmail => "git-user-email-input"
  | .artifactoryHost => "artifactory-host-input"
  | .artifactoryCliInstallUrl => "artifactory-cli-install-url-input"

theorem ScalarField.inputName_injective : Function.Injective ScalarField.inputName := by
  intro f g h
  cases f <;> cases g <;> first | rfl | exact absurd h (by decide)

theorem ScalarField.inputName_ne_apiKey (f : ScalarField) :
    f.inputName ≠ "artifactory-api-key-input" := by
  cases f <;> decide

/-- What a checkbox submits: `on` when checked, nothing otherwise. -/
def checkboxValue (checked : Bool) : Option String := if checked then some "on" else none

/-- `formData.get(name)?.toString() === "on"` reads a checkbox back. -/
@[simp] theorem checkboxValue_beq_on (checked : Bool) : (checkboxValue checked == some "on") = checked := by
  cases checked <;> rfl

/-- What an input submits under its name: a switch its checkbox value, a text input its text. -/
def ScalarField.submitted : (f : ScalarField) → f.Value → Option String
  | .language, text => some text
  | .analytics, checked => checkboxValue checked
  | .soundNotifications, checked => checkboxValue checked
  | .proactiveConversations, checked => checkboxValue checked
  | .solvabilityAnalysis, checked => checkboxValue checked
  | .maxBudgetPerTask, text => some text
  | .gitUserName, text => some text
  | .gitUserEmail, text => some text
  | .artifactoryHost, text => some text
  | .artifactoryCliInstallUrl, text => some text

/-- The entry an input adds to the form data. -/
def ScalarField.formEntry (f : ScalarField) (v : f.Value) : FormData :=
  (f.submitted v).toList.map fun value => (f.inputName, value)

/-- The scalar inputs the render mounts, in document order. -/
def renderedFields (saas : Bool) : List ScalarField :=
  [.language, .analytics, .soundNotifications] ++
    (if saas then [.proactiveConversations, .solvabilityAnalysis] else []) ++
    [.maxBudgetPerTask, .gitUserName, .gitUserEmail, .artifactoryHost, .artifactoryCliInstallUrl]

theorem renderedFields_nodup (saas : Bool) : (renderedFields saas).Nodup := by
  cases saas <;> decide

/-- The form data of the mounted inputs: each scalar input shows its draft, or its default when
untouched, and the API-key field its text. -/
def formDataOf (c : Collaborators) (config : Option Config) (settings : Settings)
    (drafts : (f : ScalarField) → Option f.Value) (artifactoryApiKeyText : String) : FormData :=
  (renderedFields (isSaas config)).flatMap
      (fun f => f.formEntry ((drafts f).getD (f.defaultValue c settings))) ++
    [("artifactory-api-key-input", artifactoryApiKeyText)]

theorem lookup_flatMap_formEntry (vals : (f : ScalarField) → f.Value) (rest : FormData)
    (f : ScalarField) (hrest : rest.lookup f.inputName = none) :
    ∀ fs : List ScalarField, fs.Nodup →
      ((fs.flatMap fun g => g.formEntry (vals g)) ++ rest).lookup f.inputName =
        if f ∈ fs then f.submitted (vals f) else none
  | [], _ => by simpa using hrest
  | g :: gs, hnd => by
    rw [List.nodup_cons] at hnd
    rw [List.flatMap_cons, List.append_assoc, List.lookup_append,
      lookup_flatMap_formEntry vals rest f hrest gs hnd.2]
    by_cases hg : g = f
    · subst hg
      cases hs : g.submitted (vals g) <;> simp [ScalarField.formEntry, hs, hnd.1]
    · have : f.inputName ≠ g.inputName := fun h => hg (ScalarField.inputName_injective h).symm
      cases hs : g.submitted (vals g) <;> simp [ScalarField.formEntry, hs, this, Ne.symm hg]

/-- Each rendered input's name carries what it submits; other names carry nothing. -/
theorem get_formDataOf (c : Collaborators) (config : Option Config) (settings : Settings)
    (drafts : (f : ScalarField) → Option f.Value) (text : String) (f : ScalarField) :
    (formDataOf c config settings drafts text).get f.inputName =
      if f ∈ renderedFields (isSaas config) then
        f.submitted ((drafts f).getD (f.defaultValue c settings))
      else none :=
  lookup_flatMap_formEntry _ _ f
    (JsObject.lookup_eq_none_of_not_mem (by simpa using f.inputName_ne_apiKey)) _
    (renderedFields_nodup _)

theorem get_formDataOf_apiKey (c : Collaborators) (config : Option Config)
    (settings : Settings) (drafts : (f : ScalarField) → Option f.Value) (text : String) :
    (formDataOf c config settings drafts text).get "artifactory-api-key-input" = some text := by
  rw [FormData.get, formDataOf, List.lookup_append]
  have : ((renderedFields (isSaas config)).flatMap fun f =>
      f.formEntry ((drafts f).getD (f.defaultValue c settings))).lookup
        "artifactory-api-key-input" = none := by
    refine JsObject.lookup_eq_none_of_not_mem fun hm => ?_
    simp only [List.mem_map, List.mem_flatMap, ScalarField.formEntry] at hm
    obtain ⟨_, ⟨f, -, _, -, rfl⟩, he⟩ := hm
    exact f.inputName_ne_apiKey he
  simp [this]

/-! ## The payload -/

/-- The `Partial<PostSettings>` object `formAction` sends; `artifactory_api_key` is `none` when
the key is absent from the object. -/
structure Payload where
  LANGUAGE : String
  user_consents_to_analytics : Bool
  ENABLE_SOUND_NOTIFICATIONS : Bool
  ENABLE_PROACTIVE_CONVERSATION_STARTERS : Bool
  ENABLE_SOLVABILITY_ANALYSIS : Bool
  MAX_BUDGET_PER_TASK : Option ℚ
  GIT_USER_NAME : String
  GIT_USER_EMAIL : String
  ARTIFACTORY_HOST : String
  ARTIFACTORY_CLI_INSTALL_URL : String
  ARTIFACTORY_REPOSITORIES : JsObject String
  artifactory_api_key : Option String
deriving DecidableEq

/-- `formAction`: read the form data, and the API-key flags and repository payload the closure
holds, into the save payload. -/
def formAction (c : Collaborators) (artifactoryClearApiKey artifactoryApiKeyHasChanged : Bool)
    (artifactoryRepositoriesPayload : JsObject String) (formData : FormData) : Payload :=
  let languageLabel := formData.get "language-input"
  let languageValue :=
    (c.AvailableLanguages.find? fun l => some l.label = languageLabel).map (·.value)
  let language := jsOr languageValue c.DEFAULT_SETTINGS.LANGUAGE
  let enableAnalytics := formData.get "enable-analytics-switch" == some "on"
  let enableSoundNotifications := formData.get "enable-sound-notifications-switch" == some "on"
  let enableProactiveConversations :=
    formData.get "enable-proactive-conversations-switch" == some "on"
  let enableSolvabilityAnalysis := formData.get "enable-solvability-analysis-switch" == some "on"
  let maxBudgetPerTaskValue := formData.get "max-budget-per-task-input"
  let maxBudgetPerTask := c.parseMaxBudgetPerTask (jsOr maxBudgetPerTaskValue "")
  let gitUserName := jsOr (formData.get "git-user-name-input") c.DEFAULT_SETTINGS.GIT_USER_NAME
  let gitUserEmail := jsOr (formData.get "git-user-email-input") c.DEFAULT_SETTINGS.GIT_USER_EMAIL
  let artifactoryHost := jsOr ((formData.get "artifactory-host-input").map jsTrim) ""
  let artifactoryCliInstallUrl :=
    ((formData.get "artifactory-cli-install-url-input").map jsTrim).getD ""
  let artifactoryApiKeyInput := jsOr ((formData.get "artifactory-api-key-input").map jsTrim) ""
  let shouldSendArtifactoryKey := artifactoryClearApiKey || artifactoryApiKeyHasChanged
  let artifactoryApiKeyPayload : Option String :=
    if artifactoryClearApiKey then some ""
    else if artifactoryApiKeyHasChanged then some artifactoryApiKeyInput
    else none
  { LANGUAGE := language
    user_consents_to_analytics := enableAnalytics
    ENABLE_SOUND_NOTIFICATIONS := enableSoundNotifications
    ENABLE_PROACTIVE_CONVERSATION_STARTERS := enableProactiveConversations
    ENABLE_SOLVABILITY_ANALYSIS := enableSolvabilityAnalysis
    MAX_BUDGET_PER_TASK := maxBudgetPerTask
    GIT_USER_NAME := gitUserName
    GIT_USER_EMAIL := gitUserEmail
    ARTIFACTORY_HOST := artifactoryHost
    ARTIFACTORY_CLI_INSTALL_URL := artifactoryCliInstallUrl
    ARTIFACTORY_REPOSITORIES := artifactoryRepositoriesPayload
    artifactory_api_key :=
      if shouldSendArtifactoryKey then some (artifactoryApiKeyPayload.getD "") else none }

/-- The API key the payload carries: `""` to clear, the trimmed text to replace, nothing to
keep. -/
theorem formAction_artifactory_api_key (c : Collaborators) (clear changed : Bool)
    (repositories : JsObject String) (formData : FormData) :
    (formAction c clear changed repositories formData).artifactory_api_key =
      if clear then some ""
      else if changed then some (jsOr ((formData.get "artifactory-api-key-input").map jsTrim) "")
      else none := by
  cases clear <;> cases changed <;> rfl

/-! ## Untouched fields -/

/-- What the form submits for an untouched input. -/
theorem get_formDataOf_untouched (c : Collaborators) (config : Option Config) (B : Settings)
    {drafts : (f : ScalarField) → Option f.Value} (text : String) {f : ScalarField}
    (h : drafts f = none) :
    (formDataOf c config B drafts text).get f.inputName =
      if f ∈ renderedFields (isSaas config) then f.submitted (f.defaultValue c B) else none := by
  rw [get_formDataOf, h, Option.getD_none]

/-- **Untouched fields are sent as the screen reads the baseline.**  For every baseline, app
mode and set of drafts, a field whose input is untouched is sent as `!!` reads it (switches,
with `null` as `false`), as `|| DEFAULT_SETTINGS…` reads it (git identity), trimmed (host, and
the CLI URL defaulted through `??`), and as `false` when it is a saas-only switch outside saas
mode. -/
theorem formAction_untouched (c : Collaborators) (config : Option Config) (B : Settings)
    (drafts : (f : ScalarField) → Option f.Value) (text : String) (clear changed : Bool)
    (repositories : JsObject String) :
    let p := formAction c clear changed repositories (formDataOf c config B drafts text)
    (drafts .analytics = none →
      p.user_consents_to_analytics = B.USER_CONSENTS_TO_ANALYTICS.getD false) ∧
    (drafts .soundNotifications = none →
      p.ENABLE_SOUND_NOTIFICATIONS = B.ENABLE_SOUND_NOTIFICATIONS) ∧
    (drafts .proactiveConversations = none →
      p.ENABLE_PROACTIVE_CONVERSATION_STARTERS =
        (isSaas config && B.ENABLE_PROACTIVE_CONVERSATION_STARTERS)) ∧
    (drafts .solvabilityAnalysis = none →
      p.ENABLE_SOLVABILITY_ANALYSIS = (isSaas config && B.ENABLE_SOLVABILITY_ANALYSIS)) ∧
    (drafts .gitUserName = none →
      p.GIT_USER_NAME = jsOr B.GIT_USER_NAME c.DEFAULT_SETTINGS.GIT_USER_NAME) ∧
    (drafts .gitUserEmail = none →
      p.GIT_USER_EMAIL = jsOr B.GIT_USER_EMAIL c.DEFAULT_SETTINGS.GIT_USER_EMAIL) ∧
    (drafts .artifactoryHost = none →
      p.ARTIFACTORY_HOST = jsTrim (jsOr B.ARTIFACTORY_HOST "")) ∧
    (drafts .artifactoryCliInstallUrl = none →
      p.ARTIFACTORY_CLI_INSTALL_URL = jsTrim ((B.ARTIFACTORY_CLI_INSTALL_URL.or
        c.DEFAULT_SETTINGS.ARTIFACTORY_CLI_INSTALL_URL).getD "")) := by
  intro p
  refine ⟨fun h => ?_, fun h => ?_, fun h => ?_, fun h => ?_, fun h => ?_, fun h => ?_,
    fun h => ?_, fun h => ?_⟩ <;>
  · have hget := get_formDataOf_untouched c config B text h
    simp only [ScalarField.inputName] at hget
    simp only [p, formAction, hget]
    cases hs : isSaas config <;>
      simp [renderedFields, ScalarField.submitted, ScalarField.defaultValue]

/-- Outside saas mode the proactive-conversation switch is not rendered, so a baseline that has
the feature on is saved with it off, though the user never touched it. -/
theorem formAction_drops_hidden_switch :
    sampleBaseline.ENABLE_PROACTIVE_CONVERSATION_STARTERS = true ∧
      (formAction sampleCollaborators false false JsObject.empty
        (formDataOf sampleCollaborators none sampleBaseline (fun _ => none) "")
        ).ENABLE_PROACTIVE_CONVERSATION_STARTERS = false := by
  decide

end AppSettings
