import AppSettings.Rows

/-!
# The rows edit the repository map

The map a save sends is `integrationsToRepositoryMap` of the rows.  Read through that map, each
step of the rows editor is one edit of a finite map from repository types to keys:

* a key typed into a row with a type puts the trimmed key under the type, or deletes the type
  when the key is blank;
* removing a row with a type, or giving it another type (which clears its key), deletes the
  type;
* adding a row, or editing a row without a type, keeps the map;
* the rows effect reloads the baseline's normal form, in which a row cannot hold the empty type.

* `rows_refine_map_edits`: for every reachable row list and every row event, the map after the
  event is the event's edit applied to the map before it.  The editor's invariant of distinct
  ids and types is what lets an event touch no entry but its own row's.
-/

namespace AppSettings

/-! ## Edits of a finite map -/

/-- An edit of a finite map from repository types to repository keys. -/
inductive MapEdit
  /-- `map[type] = key` -/
  | put (type key : String)
  /-- `delete map[type]` -/
  | delete (type : String)
  /-- the map replaced by another one, except at the empty type -/
  | reload (map : JsObject String)
  | keep
deriving DecidableEq

/-- An edit applied to a map, given by its lookup. -/
def MapEdit.apply : MapEdit → (String → Option String) → String → Option String
  | .put type key, m => Function.update m type (some key)
  | .delete type, m => Function.update m type none
  | .reload map, _ => fun k => if k = "" then none else map.get? k
  | .keep, m => m

/-- The edit a row event makes, read off the row it targets in the rows before it. -/
def RowEvent.mapEdit (rows : List ArtifactoryRepositoryIntegration) : RowEvent → MapEdit
  | .rebuild repositories => .reload (normalizeRepositoryMap repositories)
  | .add _ => .keep
  | .remove id =>
    match rows.find? (·.id == id) with
    | some r => if r.repositoryType = "" then .keep else .delete r.repositoryType
    | none => .keep
  | .changeKey id value =>
    match rows.find? (·.id == id) with
    | some r =>
      if r.repositoryType = "" then .keep
      else if jsTrim value = "" then .delete r.repositoryType
      else .put r.repositoryType (jsTrim value)
    | none => .keep
  | .changeType repositoryTypes id value =>
    match rows.find? (·.id == id) with
    | some r =>
      if r.repositoryType = "" ∨
          (if value ∈ repositoryTypes then value else "") = r.repositoryType then .keep
      else .delete r.repositoryType
    | none => .keep

/-! ## The map around one row -/

theorem not_mem_keys_filterMap {rows : List ArtifactoryRepositoryIntegration} {t : String}
    (h : ∀ r ∈ rows, r.repositoryType ≠ t) :
    t ∉ (rows.filterMap integrationEntry).map Prod.fst := by
  intro hk
  obtain ⟨kv, hkv, hkt⟩ := List.mem_map.1 hk
  obtain ⟨r, hr, hre⟩ := List.mem_filterMap.1 hkv
  obtain ⟨rfl, -⟩ := integrationEntry_eq_some hre
  exact h r hr hkt

/-- No row holds the empty type in the map. -/
theorem get?_empty_type (rows : List ArtifactoryRepositoryIntegration) :
    (integrationsToRepositoryMap rows).get? "" = none := by
  rw [← Option.not_isSome_iff_eq_none, ← JsObject.mem_keys_iff]
  exact fun h => key_ne_empty_of_mem_keys h rfl

/-- A row whose entry is dropped leaves the map as the other rows make it. -/
theorem integrationsToRepositoryMap_of_entry_none {pre post : List ArtifactoryRepositoryIntegration}
    {x : ArtifactoryRepositoryIntegration} (hx : integrationEntry x = none) :
    integrationsToRepositoryMap (pre ++ x :: post) = integrationsToRepositoryMap (pre ++ post) := by
  simp only [integrationsToRepositoryMap_eq, List.filterMap_append, List.filterMap_cons, hx]

section Split

variable {pre post : List ArtifactoryRepositoryIntegration} {r₀ : ArtifactoryRepositoryIntegration}

/-- Around a row of distinct rows, the other rows have other ids, and other types when the row
has one. -/
theorem distinct_split (hd : Distinct (pre ++ r₀ :: post)) {r : ArtifactoryRepositoryIntegration}
    (hr : r ∈ pre ++ post) :
    r.id ≠ r₀.id ∧ (r₀.repositoryType ≠ "" → r.repositoryType ≠ r₀.repositoryType) := by
  rw [Distinct, List.pairwise_append, List.pairwise_cons] at hd
  rcases List.mem_append.1 hr with hr | hr
  · have hc := hd.2.2 r hr r₀ (List.mem_cons_self _ _)
    exact ⟨hc.1, fun ht he => ht (he.symm.trans (hc.2 he))⟩
  · have hc := hd.2.1.1 r hr
    exact ⟨Ne.symm hc.1, fun ht he => ht (hc.2 he.symm)⟩

/-- The map of distinct rows around a row: the row's own entry at its type, and the map of the
other rows elsewhere. -/
theorem get?_split (hd : Distinct (pre ++ r₀ :: post)) (k : String) :
    (integrationsToRepositoryMap (pre ++ r₀ :: post)).get? k =
      if k = r₀.repositoryType ∧ r₀.repositoryType ≠ "" then (integrationEntry r₀).map Prod.snd
      else (integrationsToRepositoryMap (pre ++ post)).get? k := by
  have hd' : Distinct (pre ++ post) := hd.sublist ((List.sublist_cons_self r₀ post).append_left pre)
  have hother : r₀.repositoryType ≠ "" → ∀ r ∈ pre ++ post, r.repositoryType ≠ r₀.repositoryType :=
    fun ht r hr => (distinct_split hd hr).2 ht
  rw [get?_integrationsToRepositoryMap hd, get?_integrationsToRepositoryMap hd',
    List.filterMap_append, List.filterMap_append, List.filterMap_cons]
  cases he : integrationEntry r₀ with
  | none =>
    -- the row has no entry, and at its type the other rows have none either
    split_ifs with hk
    · obtain ⟨rfl, ht⟩ := hk
      exact JsObject.lookup_eq_none_of_not_mem
        (by rw [← List.filterMap_append]; exact not_mem_keys_filterMap (hother ht))
    · rfl
  | some kv =>
    obtain ⟨rfl, ht⟩ := integrationEntry_eq_some he
    have hpre : (pre.filterMap integrationEntry).lookup r₀.repositoryType = none :=
      JsObject.lookup_eq_none_of_not_mem
        (not_mem_keys_filterMap fun r hr => hother ht r (List.mem_append_left _ hr))
    rw [List.lookup_append, List.lookup_append, JsObject.lookup_cons_pair]
    by_cases hk : k = r₀.repositoryType
    · rw [hk, hpre]; simp [ht]
    · simp [hk]

/-- The map of the other rows has nothing at the row's type. -/
theorem get?_split_type (hd : Distinct (pre ++ r₀ :: post)) (ht : r₀.repositoryType ≠ "") :
    (integrationsToRepositoryMap (pre ++ post)).get? r₀.repositoryType = none := by
  rw [← Option.not_isSome_iff_eq_none, ← JsObject.mem_keys_iff]
  intro hk
  obtain ⟨e, he, hek⟩ := List.mem_map.1 hk
  obtain ⟨r, hr, hre⟩ := exists_integrationEntry_of_mem he
  obtain ⟨rfl, -⟩ := integrationEntry_eq_some hre
  exact (distinct_split hd hr).2 ht hek

/-- Dropping a row without a type keeps the map. -/
theorem get?_split_keep (hd : Distinct (pre ++ r₀ :: post)) (ht : r₀.repositoryType = "") :
    (integrationsToRepositoryMap (pre ++ post)).get? =
      MapEdit.keep.apply (integrationsToRepositoryMap (pre ++ r₀ :: post)).get? := by
  funext k
  simp [MapEdit.apply, get?_split hd, ht]

/-- Dropping a row with a type deletes its type from the map. -/
theorem get?_split_delete (hd : Distinct (pre ++ r₀ :: post)) (ht : r₀.repositoryType ≠ "") :
    (integrationsToRepositoryMap (pre ++ post)).get? =
      (MapEdit.delete r₀.repositoryType).apply
        (integrationsToRepositoryMap (pre ++ r₀ :: post)).get? := by
  funext k
  simp only [MapEdit.apply, Function.update_apply, get?_split hd]
  by_cases hk : k = r₀.repositoryType
  · rw [if_pos hk, hk]; exact get?_split_type hd ht
  · rw [if_neg hk, if_neg fun h => hk h.1]

/-- A handler that changes only the rows with id `id` changes only that row of a split. -/
theorem map_split {f : ArtifactoryRepositoryIntegration → ArtifactoryRepositoryIntegration}
    {id : String} (hf : ∀ r, r.id ≠ id → f r = r) (hpp : ∀ r ∈ pre ++ post, r.id ≠ id) :
    (pre ++ r₀ :: post).map f = pre ++ f r₀ :: post := by
  have hpre : pre.map f = pre :=
    (List.map_congr_left fun r hr => hf r (hpp r (List.mem_append_left _ hr))).trans (List.map_id' pre)
  have hpost : post.map f = post :=
    (List.map_congr_left fun r hr => hf r (hpp r (List.mem_append_right _ hr))).trans (List.map_id' post)
  rw [List.map_append, List.map_cons, hpre, hpost]

end Split

/-- The row an event targets splits the rows. -/
theorem exists_split {rows : List ArtifactoryRepositoryIntegration} {id : String}
    {r₀ : ArtifactoryRepositoryIntegration} (hf : rows.find? (·.id == id) = some r₀) :
    ∃ pre post, rows = pre ++ r₀ :: post ∧ r₀.id = id := by
  obtain ⟨pre, post, h⟩ := List.append_of_mem (List.mem_of_find?_eq_some hf)
  exact ⟨pre, post, h, by simpa using List.find?_some hf⟩

/-! ## Each event is its edit -/

/-- Dropping the entries of the empty key changes no lookup of another key. -/
theorem lookup_filterMap_of_ne_empty {γ : Type} {f g : γ → Option (String × String)}
    (hfg : ∀ e, f e = none ∨ f e = g e) (hg : ∀ e kv, g e = some kv → f e = none → kv.1 = "")
    {k : String} (hk : k ≠ "") (l : List γ) :
    (l.filterMap f).lookup k = (l.filterMap g).lookup k := by
  induction l with
  | nil => rfl
  | cons e l ih =>
    rw [List.filterMap_cons, List.filterMap_cons]
    rcases hfg e with hf | hf
    · rw [hf]
      cases hge : g e with
      | none => exact ih
      | some kv =>
        obtain ⟨k', v'⟩ := kv
        obtain rfl : k' = "" := hg e _ hge hf
        rw [JsObject.lookup_cons_pair, if_neg hk]
        exact ih
    · rw [hf]
      cases g e with
      | none => exact ih
      | some kv => obtain ⟨k', v'⟩ := kv; rw [JsObject.lookup_cons_pair, JsObject.lookup_cons_pair, ih]

theorem get?_rebuild (repositories : Option RepositoryMap) :
    (integrationsToRepositoryMap (mapRepositoriesToIntegrations repositories)).get? =
      (MapEdit.reload (normalizeRepositoryMap repositories)).apply (fun _ => none) := by
  funext k
  simp only [MapEdit.apply]
  split_ifs with hk
  · rw [hk, get?_empty_type]
  · cases repositories with
    | none => rfl
    | some m =>
      have hn : ((m.entries.filterMap normalizeEntry).map Prod.fst).Nodup :=
        (JsObject.keys_filterMap_sublist _ (fun _ _ => normalizeEntry_fst) _).nodup m.nodup
      rw [get?_integrationsToRepositoryMap (distinct_rebuild _), normalizeRepositoryMap_some,
        JsObject.get?_empty_assignAll hn, mapRepositoriesToIntegrations, List.filterMap_map]
      -- a baseline entry becomes a row with the same entry, unless its type is empty
      refine lookup_filterMap_of_ne_empty (fun ⟨type, key⟩ => ?_)
        (fun ⟨type, key⟩ kv hg hf => ?_) hk _
      · by_cases ht : type = ""
        · simp [integrationEntry, createIntegration, ht]
        · cases key <;> simp [integrationEntry, normalizeEntry, createIntegration, ht]
      · by_cases ht : type = ""
        · subst ht; exact normalizeEntry_fst hg
        · cases key <;> simp_all [integrationEntry, normalizeEntry, createIntegration]

theorem get?_add (randomSuffix : String) (rows : List ArtifactoryRepositoryIntegration) :
    integrationsToRepositoryMap (handleAddArtifactoryIntegration randomSuffix rows) =
      integrationsToRepositoryMap rows := by
  simpa using @integrationsToRepositoryMap_of_entry_none rows []
    (createIntegration none none none randomSuffix) (by simp [integrationEntry, createIntegration])

section Events

variable {rows : List ArtifactoryRepositoryIntegration}

/-- Rows none of which has the id are left as they are by a map that changes only that id. -/
theorem map_of_find?_none {f : ArtifactoryRepositoryIntegration → ArtifactoryRepositoryIntegration}
    {id : String} (hf : ∀ r, r.id ≠ id → f r = r) (hnone : rows.find? (·.id == id) = none) :
    rows.map f = rows :=
  (List.map_congr_left fun r hr => hf r (by simpa using List.find?_eq_none.1 hnone r hr)).trans
    (List.map_id' rows)

theorem get?_remove (hd : Distinct rows) (id : String) :
    (integrationsToRepositoryMap (handleRemoveArtifactoryIntegration id rows)).get? =
      ((RowEvent.remove id).mapEdit rows).apply (integrationsToRepositoryMap rows).get? := by
  simp only [RowEvent.mapEdit]
  cases hf : rows.find? (·.id == id) with
  | none =>
    rw [handleRemoveArtifactoryIntegration, List.filter_eq_self.2 fun r hr => by
      simpa using List.find?_eq_none.1 hf r hr]
    rfl
  | some r₀ =>
    obtain ⟨pre, post, rfl, hid⟩ := exists_split hf
    have hrm : handleRemoveArtifactoryIntegration id (pre ++ r₀ :: post) = pre ++ post := by
      rw [handleRemoveArtifactoryIntegration, List.filter_append, List.filter_cons_of_neg
          (by simp [hid]), List.filter_eq_self.2, List.filter_eq_self.2] <;>
        exact fun r hr => by simpa [hid] using (distinct_split hd (by simp [hr])).1
    rw [hrm]
    dsimp only
    split_ifs with ht
    · exact get?_split_keep hd ht
    · exact get?_split_delete hd ht

theorem get?_changeKey (hd : Distinct rows) (id value : String) :
    (integrationsToRepositoryMap (handleArtifactoryRepositoryChange id value rows)).get? =
      ((RowEvent.changeKey id value).mapEdit rows).apply (integrationsToRepositoryMap rows).get? := by
  simp only [RowEvent.mapEdit]
  cases hf : rows.find? (·.id == id) with
  | none => rw [handleArtifactoryRepositoryChange, map_of_find?_none (fun r h => if_neg h) hf]; rfl
  | some r₀ =>
    obtain ⟨pre, post, rfl, hid⟩ := exists_split hf
    have hmap : handleArtifactoryRepositoryChange id value (pre ++ r₀ :: post) =
        pre ++ { r₀ with repositoryKey := value } :: post := by
      rw [handleArtifactoryRepositoryChange, map_split (fun r h => if_neg h)
        fun r hr => hid ▸ (distinct_split hd hr).1, if_pos hid]
    have hd' := hmap ▸ distinct_changeKey hd id value
    funext k
    rw [hmap, get?_split hd' k]
    dsimp only
    -- the row keeps its type, and its entry is the new key trimmed
    by_cases ht : r₀.repositoryType = ""
    · simp [MapEdit.apply, get?_split hd, ht]
    · by_cases hk : k = r₀.repositoryType
      · by_cases hv : jsTrim value = "" <;>
          simp [MapEdit.apply, Function.update_apply, integrationEntry, ht, hv, hk]
      · rw [if_neg fun h => hk h.1]
        split_ifs <;> simp [MapEdit.apply, Function.update_apply, get?_split hd, hk]

theorem get?_changeType (hd : Distinct rows) (repositoryTypes : List String) (id value : String) :
    (integrationsToRepositoryMap (handleArtifactoryTypeChange repositoryTypes id value rows)).get? =
      ((RowEvent.changeType repositoryTypes id value).mapEdit rows).apply
        (integrationsToRepositoryMap rows).get? := by
  simp only [RowEvent.mapEdit]
  cases hf : rows.find? (·.id == id) with
  | none =>
    rw [handleArtifactoryTypeChange_eq, map_of_find?_none (fun r h => typeChangeRow_of_ne h) hf]
    rfl
  | some r₀ =>
    obtain ⟨pre, post, rfl, hid⟩ := exists_split hf
    have hmap : handleArtifactoryTypeChange repositoryTypes id value (pre ++ r₀ :: post) =
        pre ++ typeChangeRow repositoryTypes id value r₀ :: post := by
      rw [handleArtifactoryTypeChange_eq]
      exact map_split (fun r h => typeChangeRow_of_ne h) fun r hr => hid ▸ (distinct_split hd hr).1
    rw [hmap]
    dsimp only
    by_cases hsame : (if value ∈ repositoryTypes then value else "") = r₀.repositoryType
    · -- the type stays, and with it the key
      have hrow : typeChangeRow repositoryTypes id value r₀ = r₀ := by
        subst hid; simp [typeChangeRow, hsame]
      simp only [hrow, hsame, or_true, if_true]
      rfl
    · -- a new type clears the key, so the row drops out of the map
      have hnone : integrationEntry (typeChangeRow repositoryTypes id value r₀) = none := by
        simp [typeChangeRow, hid, hsame, integrationEntry]
      rw [integrationsToRepositoryMap_of_entry_none hnone]
      by_cases ht : r₀.repositoryType = ""
      · simpa only [ht, true_or, if_true] using get?_split_keep hd ht
      · simpa only [ht, hsame, or_self, if_false] using get?_split_delete hd ht

end Events

/-- **The rows edit the repository map.**  For every row list the editor can reach and every row
event, the map a save would send after the event is the event's edit of the map before it: a
key typed into a row with a type puts the trimmed key under the type, or deletes the type when
blank; removing a row with a type or giving it another type deletes its type; adding a row or
editing an untyped one keeps the map; the rows effect reloads the baseline's normal form. -/
theorem rows_refine_map_edits {rows : List ArtifactoryRepositoryIntegration}
    (h : RowsReachable EditorStep rows) (e : RowEvent) :
    (integrationsToRepositoryMap (e.apply rows)).get? =
      (e.mapEdit rows).apply (integrationsToRepositoryMap rows).get? := by
  have hd := distinct_of_reachable h
  cases e with
  | rebuild repositories => exact get?_rebuild repositories
  | add randomSuffix => simp only [RowEvent.apply, get?_add]; rfl
  | remove id => exact get?_remove hd id
  | changeKey id value => exact get?_changeKey hd id value
  | changeType repositoryTypes id value => exact get?_changeType hd repositoryTypes id value

example : (RowEvent.changeKey "artifactory-npm" " react ").mapEdit sampleRows = .put "npm" "react" := by
  decide

end AppSettings
