import AppSettings.Js

/-!
# Artifactory repository maps

The pure helpers at the top of `src/frontend/src/routes/app-settings.tsx` that move between
the baseline's `ARTIFACTORY_REPOSITORIES` object and the editable rows:
`createIntegration`, `mapRepositoriesToIntegrations`, `integrationsToRepositoryMap`,
`normalizeRepositoryMap` and `repositoryMapsEqual`, and the screen's derived
`artifactoryReposHaveChanged`.

What is proved here:

* `integrationsToRepositoryMap_eq` and `normalizeRepositoryMap_some`: both loops are runs of
  assignments to `{}` of the entries that survive their filters;
* `repositoryMap_round_trip`: rebuilding rows from a baseline and reading the map back gives
  the baseline's normal form, so a fresh rebuild never reads as a change, and a saved map is
  already in normal form;
* `repositoryMapsEqual_iff`: `repositoryMapsEqual` is equality of the normal forms as finite
  maps, whatever the order of the keys.
-/

namespace AppSettings

/-- A repository map as the settings service returns it: repository type to repository key,
where a value read from the server may be `null` (`none`). -/
abbrev RepositoryMap := JsObject (Option String)

/-- `ArtifactoryRepositoryIntegration`: one editable row.  An empty `repositoryType` is the
`""` of `ArtifactoryRepositoryType | ""`. -/
structure ArtifactoryRepositoryIntegration where
  id : String
  repositoryType : String
  repositoryKey : String
deriving DecidableEq, Repr

/-- `createIntegration(repositoryType?, repositoryKey?, id?)`.  `randomSuffix` stands for
`Math.random().toString(36).slice(2, 10)`, read only when no id is given. -/
def createIntegration (repositoryType repositoryKey id : Option String) (randomSuffix : String) :
    ArtifactoryRepositoryIntegration where
  id := id.getD ("artifactory-" ++ randomSuffix)
  repositoryType := repositoryType.getD ""
  repositoryKey := repositoryKey.getD ""

/-- `mapRepositoriesToIntegrations`: one row per entry, with the id `artifactory-${type}`
(`repositoryKey || ""` turns `null` into `""`). -/
def mapRepositoriesToIntegrations :
    Option RepositoryMap → List ArtifactoryRepositoryIntegration
  | none => []
  | some repositories => repositories.entries.map fun (type, repositoryKey) =>
      createIntegration (some type) (some (repositoryKey.getD "")) (some ("artifactory-" ++ type)) ""

/-- `integrationsToRepositoryMap`: rows without a type are skipped, keys are trimmed, and blank
keys are dropped. -/
def integrationsToRepositoryMap (integrations : List ArtifactoryRepositoryIntegration) :
    JsObject String :=
  integrations.foldl (fun result integration =>
      if integration.repositoryType = "" then result
      else
        let trimmed := jsTrim integration.repositoryKey
        if trimmed = "" then result else result.set integration.repositoryType trimmed)
    JsObject.empty

/-- `normalizeRepositoryMap`: string values are trimmed, blank and non-string values dropped. -/
def normalizeRepositoryMap : Option RepositoryMap → JsObject String
  | none => JsObject.empty
  | some map => map.entries.foldl (fun normalized (type, repositoryKey) =>
      match repositoryKey with
      | some key =>
        let trimmed := jsTrim key
        if trimmed = "" then normalized else normalized.set type trimmed
      | none => normalized)
    JsObject.empty

/-- `repositoryMapsEqual`: compare the key counts, then the values at the first map's keys. -/
def repositoryMapsEqual (a b : Option RepositoryMap) : Bool :=
  let normalizedA := normalizeRepositoryMap a
  let normalizedB := normalizeRepositoryMap b
  let keysA := normalizedA.keys
  let keysB := normalizedB.keys
  if keysA.length ≠ keysB.length then false
  else keysA.all fun key => normalizedA.get? key == normalizedB.get? key

/-- The `Record<string, string>` payload read as a repository map. -/
def payloadAsRepositoryMap (payload : JsObject String) : RepositoryMap :=
  payload.mapValues some

/-- The screen's memo `artifactoryReposHaveChanged`, from `settings?.ARTIFACTORY_REPOSITORIES`
and the current rows. -/
def artifactoryReposHaveChanged (repositories : Option RepositoryMap)
    (integrations : List ArtifactoryRepositoryIntegration) : Bool :=
  !repositoryMapsEqual repositories
    (some (payloadAsRepositoryMap (integrationsToRepositoryMap integrations)))

/-! ## Both loops are runs of assignments -/

/-- The assignment one row contributes to `integrationsToRepositoryMap`, if any. -/
def integrationEntry (integration : ArtifactoryRepositoryIntegration) : Option (String × String) :=
  if integration.repositoryType = "" then none
  else if jsTrim integration.repositoryKey = "" then none
  else some (integration.repositoryType, jsTrim integration.repositoryKey)

/-- The assignment one entry contributes to `normalizeRepositoryMap`, if any. -/
def normalizeEntry (entry : String × Option String) : Option (String × String) :=
  match entry.2 with
  | some key => if jsTrim key = "" then none else some (entry.1, jsTrim key)
  | none => none

theorem foldl_eq_assignAll {α γ : Type} (f : γ → Option (String × α)) (o : JsObject α)
    (xs : List γ) :
    xs.foldl (fun acc x => match f x with | some kv => acc.set kv.1 kv.2 | none => acc) o =
      o.assignAll (xs.filterMap f) := by
  induction xs generalizing o with
  | nil => rfl
  | cons x xs ih => cases h : f x <;> simp [List.filterMap_cons, h, ih]

theorem integrationsToRepositoryMap_eq (integrations : List ArtifactoryRepositoryIntegration) :
    integrationsToRepositoryMap integrations =
      JsObject.empty.assignAll (integrations.filterMap integrationEntry) := by
  rw [← foldl_eq_assignAll, integrationsToRepositoryMap]
  congr 1; funext result integration
  unfold integrationEntry
  dsimp only
  split_ifs <;> rfl

theorem normalizeRepositoryMap_some (map : RepositoryMap) :
    normalizeRepositoryMap (some map) =
      JsObject.empty.assignAll (map.entries.filterMap normalizeEntry) := by
  rw [← foldl_eq_assignAll, normalizeRepositoryMap]
  congr 1; funext normalized entry
  obtain ⟨type, _ | key⟩ := entry
  · rfl
  · unfold normalizeEntry; dsimp only; split_ifs <;> rfl

theorem mem_integrationsToRepositoryMap {integrations : List ArtifactoryRepositoryIntegration}
    {e : String × String} (h : e ∈ (integrationsToRepositoryMap integrations).entries) :
    jsTrim e.2 = e.2 ∧ e.2 ≠ "" := by
  rw [integrationsToRepositoryMap_eq] at h
  rcases JsObject.mem_entries_assignAll h with h | h
  · simp [JsObject.empty] at h
  · obtain ⟨r, -, hr⟩ := List.mem_filterMap.1 h
    unfold integrationEntry at hr
    split_ifs at hr with h1 h2
    cases hr
    exact ⟨jsTrim_jsTrim _, h2⟩

/-- Every entry of the rows' map is one row's assignment. -/
theorem exists_integrationEntry_of_mem {integrations : List ArtifactoryRepositoryIntegration}
    {e : String × String} (h : e ∈ (integrationsToRepositoryMap integrations).entries) :
    ∃ r ∈ integrations, integrationEntry r = some e := by
  rw [integrationsToRepositoryMap_eq] at h
  rcases JsObject.mem_entries_assignAll h with h | h
  · simp [JsObject.empty] at h
  · exact List.mem_filterMap.1 h

/-- Every key of the rows' map is a row's non-empty type. -/
theorem key_ne_empty_of_mem_keys {integrations : List ArtifactoryRepositoryIntegration}
    {k : String} (h : k ∈ (integrationsToRepositoryMap integrations).keys) : k ≠ "" := by
  obtain ⟨e, he, rfl⟩ := List.mem_map.1 h
  obtain ⟨r, -, hr⟩ := exists_integrationEntry_of_mem he
  unfold integrationEntry at hr
  split_ifs at hr with htype
  cases hr
  exact htype

/-! ## The round trip -/

/-- A map already in normal form is its own normal form. -/
theorem normalizeRepositoryMap_payload (o : JsObject String)
    (h : ∀ e ∈ o.entries, jsTrim e.2 = e.2 ∧ e.2 ≠ "") :
    normalizeRepositoryMap (some (payloadAsRepositoryMap o)) = o := by
  rw [normalizeRepositoryMap_some, payloadAsRepositoryMap, JsObject.mapValues, List.filterMap_map]
  conv_rhs => rw [← JsObject.empty_assignAll_entries o]
  congr 1
  refine (List.filterMap_congr fun e he => ?_).trans (List.filterMap_some _)
  simp [normalizeEntry, (h e he).1, (h e he).2]

theorem repositoryMapsEqual_of_normalize_eq {a b : Option RepositoryMap}
    (h : normalizeRepositoryMap a = normalizeRepositoryMap b) : repositoryMapsEqual a b = true := by
  simp [repositoryMapsEqual, h]

/-- Rebuilding rows from a map with non-empty keys and reading them back gives its normal
form. -/
theorem integrationsToRepositoryMap_rebuild (m : RepositoryMap) (hkeys : ∀ k ∈ m.keys, k ≠ "") :
    integrationsToRepositoryMap (mapRepositoriesToIntegrations (some m)) =
      normalizeRepositoryMap (some m) := by
  rw [integrationsToRepositoryMap_eq, normalizeRepositoryMap_some, mapRepositoriesToIntegrations,
    List.filterMap_map]
  congr 1
  refine List.filterMap_congr fun ⟨type, key⟩ he => ?_
  have htype : type ≠ "" := hkeys type (List.mem_map.2 ⟨_, he, rfl⟩)
  cases key <;> simp [integrationEntry, normalizeEntry, createIntegration, htype]

/-- The map the rows produce is its own normal form. -/
theorem normalizeRepositoryMap_rows (integrations : List ArtifactoryRepositoryIntegration) :
    normalizeRepositoryMap (some (payloadAsRepositoryMap (integrationsToRepositoryMap integrations))) =
      integrationsToRepositoryMap integrations :=
  normalizeRepositoryMap_payload _ fun _ he => mem_integrationsToRepositoryMap he

/-- **Round trip.**  For a baseline map whose keys are non-empty, reading the rebuilt rows back
gives the baseline's normal form, so the map and the rebuilt rows compare equal and the screen
sees no repository change right after a rebuild; and the map the rows produce is already in
normal form, so a baseline that echoes a saved payload compares equal to it. -/
theorem repositoryMap_round_trip (m : RepositoryMap) (hkeys : ∀ k ∈ m.keys, k ≠ "")
    (integrations : List ArtifactoryRepositoryIntegration) :
    integrationsToRepositoryMap (mapRepositoriesToIntegrations (some m)) =
        normalizeRepositoryMap (some m) ∧
      repositoryMapsEqual (some m) (some (payloadAsRepositoryMap
        (integrationsToRepositoryMap (mapRepositoriesToIntegrations (some m))))) = true ∧
      artifactoryReposHaveChanged (some m) (mapRepositoriesToIntegrations (some m)) = false ∧
      normalizeRepositoryMap (some (payloadAsRepositoryMap
        (integrationsToRepositoryMap integrations))) = integrationsToRepositoryMap integrations := by
  have heq : repositoryMapsEqual (some m) (some (payloadAsRepositoryMap
      (integrationsToRepositoryMap (mapRepositoriesToIntegrations (some m))))) = true :=
    repositoryMapsEqual_of_normalize_eq
      (by rw [normalizeRepositoryMap_rows, integrationsToRepositoryMap_rebuild m hkeys])
  exact ⟨integrationsToRepositoryMap_rebuild m hkeys, heq,
    by simp [artifactoryReposHaveChanged, heq], normalizeRepositoryMap_rows integrations⟩

/-- A baseline with a padded key and a `null` key. -/
def sampleRepositories : RepositoryMap := ⟨[("npm", some " lodash "), ("pypi", none)], by decide⟩

theorem repositoryMap_round_trip_sample :
    (∀ k ∈ sampleRepositories.keys, k ≠ "") ∧
      (integrationsToRepositoryMap (mapRepositoriesToIntegrations (some sampleRepositories)) =
          normalizeRepositoryMap (some sampleRepositories) ∧
        repositoryMapsEqual (some sampleRepositories) (some (payloadAsRepositoryMap
          (integrationsToRepositoryMap
            (mapRepositoriesToIntegrations (some sampleRepositories))))) = true ∧
        artifactoryReposHaveChanged (some sampleRepositories)
          (mapRepositoriesToIntegrations (some sampleRepositories)) = false ∧
        normalizeRepositoryMap (some (payloadAsRepositoryMap (integrationsToRepositoryMap []))) =
          integrationsToRepositoryMap []) :=
  ⟨by decide, repositoryMap_round_trip sampleRepositories (by decide) []⟩

example : (integrationsToRepositoryMap
    (mapRepositoriesToIntegrations (some sampleRepositories))).entries = [("npm", "lodash")] := by
  decide

/-! ## `repositoryMapsEqual` is equality of normal forms -/

theorem normalizeEntry_fst {e : String × Option String} {kv : String × String}
    (h : normalizeEntry e = some kv) : kv.1 = e.1 := by
  unfold normalizeEntry at h
  split at h
  · split_ifs at h; cases h; rfl
  · cases h

/-- The normal form of a map reordered is the same finite map. -/
theorem normalizeRepositoryMap_perm {m m' : RepositoryMap} (h : m.entries.Perm m'.entries) :
    (normalizeRepositoryMap (some m)).Equiv (normalizeRepositoryMap (some m')) := by
  intro k
  have hn : ((m.entries.filterMap normalizeEntry).map Prod.fst).Nodup :=
    (JsObject.keys_filterMap_sublist _ (fun _ _ => normalizeEntry_fst) _).nodup m.nodup
  have hp := h.filterMap normalizeEntry
  rw [normalizeRepositoryMap_some, normalizeRepositoryMap_some,
    JsObject.get?_empty_assignAll hn, JsObject.get?_empty_assignAll ((hp.map _).nodup_iff.1 hn),
    JsObject.lookup_eq_of_perm hp hn]

theorem repositoryMapsEqual_iff_equiv (a b : Option RepositoryMap) :
    repositoryMapsEqual a b = true ↔
      (normalizeRepositoryMap a).Equiv (normalizeRepositoryMap b) := by
  rw [JsObject.equiv_iff_keys, repositoryMapsEqual]
  by_cases h : (normalizeRepositoryMap a).keys.length = (normalizeRepositoryMap b).keys.length <;>
    simp [h]

/-- **`repositoryMapsEqual` is map equality after normalisation.**  It holds exactly when the
normal forms have the same keys and the same value at each key; hence it is reflexive,
symmetric and transitive, and reordering the keys of either map does not change it. -/
theorem repositoryMapsEqual_spec :
    (∀ a b, repositoryMapsEqual a b = true ↔
      (normalizeRepositoryMap a).Equiv (normalizeRepositoryMap b)) ∧
    (∀ a, repositoryMapsEqual a a = true) ∧
    (∀ a b, repositoryMapsEqual a b = repositoryMapsEqual b a) ∧
    (∀ a b c, repositoryMapsEqual a b = true → repositoryMapsEqual b c = true →
      repositoryMapsEqual a c = true) ∧
    (∀ (m m' : RepositoryMap) b, m.entries.Perm m'.entries →
      repositoryMapsEqual (some m) b = repositoryMapsEqual (some m') b) := by
  refine ⟨repositoryMapsEqual_iff_equiv, fun a => ?_, fun a b => ?_, fun a b c => ?_,
    fun m m' b hp => ?_⟩
  · exact (repositoryMapsEqual_iff_equiv a a).2 (.refl _)
  · rw [Bool.eq_iff_iff, repositoryMapsEqual_iff_equiv, repositoryMapsEqual_iff_equiv]
    exact ⟨.symm, .symm⟩
  · rw [repositoryMapsEqual_iff_equiv, repositoryMapsEqual_iff_equiv,
      repositoryMapsEqual_iff_equiv]
    exact .trans
  · have he := normalizeRepositoryMap_perm hp
    rw [Bool.eq_iff_iff, repositoryMapsEqual_iff_equiv, repositoryMapsEqual_iff_equiv]
    exact ⟨he.symm.trans, he.trans⟩

/-! ## A baseline that echoes a saved map -/

/-- A baseline whose repository map is the rows' own map, its keys in any order, compares equal
to the rows, and to the rows rebuilt from it: whether the rows effect runs or not, the screen
sees no repository change. -/
theorem reposHaveChanged_of_echo {m : RepositoryMap} {rows : List ArtifactoryRepositoryIntegration}
    (h : m.Equiv (payloadAsRepositoryMap (integrationsToRepositoryMap rows))) (rebuild : Bool) :
    artifactoryReposHaveChanged (some m)
      (if rebuild then mapRepositoriesToIntegrations (some m) else rows) = false := by
  rw [artifactoryReposHaveChanged, Bool.not_eq_false', repositoryMapsEqual_iff_equiv,
    normalizeRepositoryMap_rows]
  cases rebuild
  · -- the rows stay: the baseline is their map reordered
    simpa only [normalizeRepositoryMap_rows] using normalizeRepositoryMap_perm h.perm
  · -- the rows are rebuilt from the baseline, whose keys are the rows' types
    have hkeys : ∀ k ∈ m.keys, k ≠ "" := fun k hk => key_ne_empty_of_mem_keys
      (by simpa [payloadAsRepositoryMap] using h.mem_keys.1 hk)
    rw [if_pos rfl, integrationsToRepositoryMap_rebuild m hkeys]
    exact .refl _

end AppSettings
