import AppSettings.Screen

/-!
# The repository types the server offers

`useArtifactoryRepositoryTypes` (`src/frontend/src/hooks/query/use-artifactory-repository-search.ts`)
passes the server's list through `normalizeRepositoryTypes`: each entry trimmed and
lower-cased, the supported ones kept, repeats dropped through a `Set`, and every supported type
when nothing is left.  The screen reads the result as `repoTypesFromApi`, and falls back to the
same `Object.values(ArtifactoryRepositoryTypes)` when the query has no data.

`String.prototype.toLowerCase` is Unicode's default case conversion: it maps the Kelvin sign
U+212A to `k`, so a server entry `"DOC\u212AER"` becomes `"docker"`, and an ASCII-only model
would lose it.  It is taken as a parameter, and every result holds for every such function.

* `normalizeRepositoryTypes_spec`: the result is `supportedFirstOccurrences`, the trimmed,
  lower-cased entries that are supported with later repeats removed, or `SUPPORTED_TYPES` when
  none is left; so it is non-empty, duplicate-free and within `SUPPORTED_TYPES`;
* `screenTypes_addCap`: with the hook's list or the screen's fallback as the type list, the Add
  button's count guard keeps the rows within the types and leaves every row an option.
-/

namespace AppSettings

/-- `SUPPORTED_TYPES`: `Object.values(ArtifactoryRepositoryTypes)`, the list the screen calls
`SUPPORTED_ARTIFACTORY_REPO_TYPES`. -/
def SUPPORTED_TYPES : List String := SUPPORTED_ARTIFACTORY_REPO_TYPES

/-- `normalizeRepositoryTypes(repositoryTypes)`, with `String.prototype.toLowerCase` as
`toLowerCase`. -/
def normalizeRepositoryTypes (toLowerCase : String → String) (repositoryTypes : List String) :
    List String :=
  let supported := JsSet.ofList SUPPORTED_TYPES
  let normalized := (repositoryTypes.map fun type => toLowerCase (jsTrim type)).filter
    fun type => supported.has type
  let unique := (JsSet.ofList normalized).elems
  if unique.length > 0 then unique else SUPPORTED_TYPES

theorem SUPPORTED_TYPES_nodup : SUPPORTED_TYPES.Nodup := by decide

/-- The server's entries trimmed and lower-cased, those in `SUPPORTED_TYPES` kept, and later
repeats removed: the normalisation as a specification, with `List.eraseDups` in place of the
two `Set`s. -/
def supportedFirstOccurrences (toLowerCase : String → String) (repositoryTypes : List String) :
    List String :=
  ((repositoryTypes.map fun type => toLowerCase (jsTrim type)).filter
    (· ∈ SUPPORTED_TYPES)).eraseDups

section Normalize

variable (toLowerCase : String → String) (repositoryTypes : List String)

/-- The two `Set`s compute `supportedFirstOccurrences`. -/
theorem normalizeRepositoryTypes_eq :
    normalizeRepositoryTypes toLowerCase repositoryTypes =
      if supportedFirstOccurrences toLowerCase repositoryTypes ≠ [] then
        supportedFirstOccurrences toLowerCase repositoryTypes
      else SUPPORTED_TYPES := by
  simp only [normalizeRepositoryTypes, supportedFirstOccurrences, JsSet.has_ofList,
    JsSet.elems_ofList, List.length_pos]

theorem normalizeRepositoryTypes_ne_nil :
    normalizeRepositoryTypes toLowerCase repositoryTypes ≠ [] := by
  rw [normalizeRepositoryTypes_eq]
  split_ifs with h
  · exact h
  · decide

theorem normalizeRepositoryTypes_nodup :
    (normalizeRepositoryTypes toLowerCase repositoryTypes).Nodup := by
  rw [normalizeRepositoryTypes_eq]
  split_ifs
  · exact nodup_eraseDups _
  · exact SUPPORTED_TYPES_nodup

theorem mem_SUPPORTED_TYPES_of_normalize {type : String}
    (h : type ∈ normalizeRepositoryTypes toLowerCase repositoryTypes) :
    type ∈ SUPPORTED_TYPES := by
  rw [normalizeRepositoryTypes_eq] at h
  split_ifs at h
  · exact of_decide_eq_true (List.mem_filter.1 (mem_eraseDups.1 h)).2
  · exact h

/-- **Normalising the server's types.**  For every list the server returns and every case
conversion, `normalizeRepositoryTypes` gives the entries trimmed, lower-cased and kept when
supported, with later repeats removed and first occurrences kept in order, or `SUPPORTED_TYPES`
when no entry is left; so its result is non-empty, duplicate-free and within
`SUPPORTED_TYPES`. -/
theorem normalizeRepositoryTypes_spec :
    normalizeRepositoryTypes toLowerCase repositoryTypes =
        (if supportedFirstOccurrences toLowerCase repositoryTypes ≠ [] then
          supportedFirstOccurrences toLowerCase repositoryTypes
        else SUPPORTED_TYPES) ∧
      normalizeRepositoryTypes toLowerCase repositoryTypes ≠ [] ∧
      (normalizeRepositoryTypes toLowerCase repositoryTypes).Nodup ∧
      ∀ type ∈ normalizeRepositoryTypes toLowerCase repositoryTypes, type ∈ SUPPORTED_TYPES :=
  ⟨normalizeRepositoryTypes_eq toLowerCase repositoryTypes,
    normalizeRepositoryTypes_ne_nil toLowerCase repositoryTypes,
    normalizeRepositoryTypes_nodup toLowerCase repositoryTypes,
    fun _ => mem_SUPPORTED_TYPES_of_normalize toLowerCase repositoryTypes⟩

end Normalize

/-- Lower-casing of ASCII letters, as a case conversion for concrete runs. -/
def sampleToLowerCase (s : String) : String := ⟨s.data.map Char.toLower⟩

/-- A server list with padded, upper-case, unknown and repeated entries. -/
def sampleServerTypes : List String := [" NPM ", "PyPI", "rubygems", "go", "npm"]

example :
    normalizeRepositoryTypes sampleToLowerCase sampleServerTypes = ["npm", "pypi", "go"] := by
  decide

example : normalizeRepositoryTypes sampleToLowerCase ["rubygems", " "] = SUPPORTED_TYPES := by
  decide

/-! ## What the screen's row guards get -/

/-- The data of `useArtifactoryRepositoryTypes`: none yet, or a list `normalizeRepositoryTypes`
returned. -/
def TypesFromHook (toLowerCase : String → String) (repoTypesFromApi : Option (List String)) :
    Prop :=
  ∀ L ∈ repoTypesFromApi,
    ∃ repositoryTypes, L = normalizeRepositoryTypes toLowerCase repositoryTypes

/-- The screen's `repoTypesFromApi ?? SUPPORTED_ARTIFACTORY_REPO_TYPES` is non-empty and
duplicate-free whichever side it takes. -/
theorem repositoryTypes_ne_nil_nodup {toLowerCase : String → String} {s : ScreenState}
    (h : TypesFromHook toLowerCase s.repoTypesFromApi) :
    s.repositoryTypes ≠ [] ∧ s.repositoryTypes.Nodup := by
  unfold ScreenState.repositoryTypes
  cases hs : s.repoTypesFromApi with
  | none => exact ⟨by decide, SUPPORTED_TYPES_nodup⟩
  | some L =>
    rw [hs] at h
    obtain ⟨repositoryTypes, rfl⟩ := h L rfl
    exact ⟨normalizeRepositoryTypes_ne_nil _ _, normalizeRepositoryTypes_nodup _ _⟩

/-- **The screen's type list serves the Add cap.**  Whether the hook has delivered its
normalised list or the screen falls back to every type, the Add button is enabled over no rows
while no save is pending, and in every run of the rows machine over the screen's type list that
takes Add only while it is enabled the rows stay within the types and every row keeps an
option. -/
theorem screenTypes_addCap (toLowerCase : String → String) {s : ScreenState}
    (hs : TypesFromHook toLowerCase s.repoTypesFromApi)
    {rows : List ArtifactoryRepositoryIntegration}
    (h : RowsReachable (AddCapStep s.repositoryTypes) rows) :
    addButtonDisabled false s.repositoryTypes [] = false ∧
      rows.length ≤ s.repositoryTypes.length ∧
      ∀ r ∈ rows, availableOptions s.repositoryTypes rows r ≠ [] := by
  obtain ⟨hne, hnodup⟩ := repositoryTypes_ne_nil_nodup hs
  refine ⟨?_, length_le_of_addCap h, fun _ hr =>
    availableOptions_ne_nil hnodup (length_le_of_addCap h) hr⟩
  simpa [addButtonDisabled, List.length_pos] using hne

/-- The first render once the hook has delivered the sample list. -/
def sampleTypesLoaded : ScreenState :=
  ScreenState.init none false (some (normalizeRepositoryTypes sampleToLowerCase sampleServerTypes))

theorem screenTypes_addCap_sample :
    TypesFromHook sampleToLowerCase sampleTypesLoaded.repoTypesFromApi ∧
      RowsReachable (AddCapStep sampleTypesLoaded.repositoryTypes) sampleCappedRows ∧
      (addButtonDisabled false sampleTypesLoaded.repositoryTypes [] = false ∧
        sampleCappedRows.length ≤ sampleTypesLoaded.repositoryTypes.length ∧
        ∀ r ∈ sampleCappedRows,
          availableOptions sampleTypesLoaded.repositoryTypes sampleCappedRows r ≠ []) :=
  have hs : TypesFromHook sampleToLowerCase sampleTypesLoaded.repoTypesFromApi :=
    fun _ hL => ⟨sampleServerTypes, (Option.some.inj hL).symm⟩
  have hreach : RowsReachable (AddCapStep sampleTypesLoaded.repositoryTypes) sampleCappedRows :=
    .step _ (.step _ .init (by unfold AddCapStep; decide)) (by unfold AddCapStep; decide)
  ⟨hs, hreach, screenTypes_addCap _ hs hreach⟩

end AppSettings
