import Mathlib.Data.List.DropRight
import Mathlib.Data.List.Nodup
import Mathlib.Data.List.Perm.Subperm

/-!
# The JavaScript runtime the settings screen relies on

`src/frontend/src/routes/app-settings.tsx` normalises text with `String.prototype.trim` and
keeps repository maps in plain objects, filled by `Object.entries(...).forEach` loops that
assign `result[key] = value`.  This file models both.

* `jsTrim` removes ECMAScript white space and line terminators from both ends; it is
  idempotent (`jsTrim_jsTrim`).
* `JsObject α` is a plain object with string keys, kept as the list `Object.entries` returns.
  A key occurs once, which the structure carries as a field.  Assignment `o[k] = v`
  (`JsObject.set`) overwrites an existing key in place and appends a new one.  The main facts
  are `get?_assignAll` (a run of assignments is looked up by its last write to the key) and
  `entries_assignAll` (assigning fresh keys appends them).

* `JsSet` is a `Set` of strings, kept as its elements in insertion order, each once (again a
  field of the structure).  `new Set(xs)` keeps the first occurrence of each element in order,
  which is the standard library's `List.eraseDups` (`elems_ofList`).

Keys are taken to be own-property names: JavaScript's special `"__proto__"` key, whose
assignment does not create a property, and array-index keys, which `Object.entries` lists
first, are not category identifiers and are not modelled.
-/

namespace AppSettings

/-! ## `String.prototype.trim` -/

/-- The ECMAScript `WhiteSpace` and `LineTerminator` code points: what `trim` removes. -/
def isJsWhiteSpace (c : Char) : Bool :=
  let n := c.toNat
  n == 0x09 || n == 0x0A || n == 0x0B || n == 0x0C || n == 0x0D || n == 0x20 || n == 0xA0 ||
    n == 0x1680 || (0x2000 ≤ n && n ≤ 0x200A) || n == 0x2028 || n == 0x2029 || n == 0x202F ||
    n == 0x205F || n == 0x3000 || n == 0xFEFF

/-- `String.prototype.trim`. -/
def jsTrim (s : String) : String :=
  ⟨(s.data.dropWhile isJsWhiteSpace).rdropWhile isJsWhiteSpace⟩

theorem dropWhile_rdropWhile_dropWhile {α : Type} (p : α → Bool) (l : List α) :
    ((l.dropWhile p).rdropWhile p).dropWhile p = (l.dropWhile p).rdropWhile p := by
  cases h : l.dropWhile p with
  | nil => simp
  | cons a ys =>
    -- the first kept character is not white space, and `rdropWhile` keeps a prefix
    have ha : p a = false := by
      simpa [h] using List.head_dropWhile_not p l (by simp [h])
    rcases List.prefix_cons_iff.1 (List.rdropWhile_prefix p (a :: ys)) with
      h' | ⟨t, h', -⟩
    · rw [h']; rfl
    · rw [h', List.dropWhile_cons_of_neg (by simp [ha])]

/-- Trimming twice is trimming once. -/
@[simp] theorem jsTrim_jsTrim (s : String) : jsTrim (jsTrim s) = jsTrim s := by
  simp only [jsTrim, dropWhile_rdropWhile_dropWhile, List.rdropWhile_idempotent]

@[simp] theorem jsTrim_empty : jsTrim "" = "" := rfl

/-- `x || fallback` for a string that may be `undefined` or `null`: the empty string is falsy. -/
def jsOr (x : Option String) (fallback : String) : String :=
  match x with
  | some s => if s = "" then fallback else s
  | none => fallback

@[simp] theorem jsOr_none (fallback : String) : jsOr none fallback = fallback := rfl

@[simp] theorem jsOr_some_empty (s : String) : jsOr (some s) "" = s := by
  by_cases h : s = "" <;> simp [jsOr, h]

@[simp] theorem jsOr_some_jsOr (x : Option String) (fallback : String) :
    jsOr (some (jsOr x "")) fallback = jsOr x fallback := by
  rcases x with _ | s
  · rfl
  · by_cases h : s = "" <;> simp [jsOr, h]

/-- `x || undefined` (or `x || null`) for a string that may be absent, and the test of
`x ? ... : ...`: the string when it is non-empty. -/
def jsTruthy (x : Option String) : Option String := x.filter fun s => s ≠ ""

@[simp] theorem jsTruthy_some (s : String) :
    jsTruthy (some s) = if s = "" then none else some s := by
  by_cases h : s = "" <;> simp [jsTruthy, Option.filter, h]

/-! ## Plain objects -/

/-- A plain JavaScript object with string keys, as the list `Object.entries` returns: each
key once, in enumeration order. -/
@[ext] structure JsObject (α : Type) where
  entries : List (String × α)
  nodup : (entries.map Prod.fst).Nodup

namespace JsObject

variable {α β : Type}

instance [DecidableEq α] : DecidableEq (JsObject α) := fun a b =>
  decidable_of_iff (a.entries = b.entries) JsObject.ext_iff.symm

/-- The object literal `{}`. -/
def empty : JsObject α := ⟨[], List.nodup_nil⟩

/-- `Object.keys`. -/
def keys (o : JsObject α) : List String := o.entries.map Prod.fst

@[simp] theorem lookup_cons_pair (k k' : String) (v : α) (es : List (String × α)) :
    ((k', v) :: es).lookup k = if k = k' then some v else es.lookup k := by
  rw [List.lookup_cons]
  by_cases h : k = k'
  · subst h; simp
  · have : (k == k') = false := by simpa using h
    simp only [this, h, if_false]

theorem mem_of_lookup_eq_some {es : List (String × α)} {k : String} {v : α}
    (h : es.lookup k = some v) : (k, v) ∈ es := by
  induction es with
  | nil => simp at h
  | cons e es ih =>
    obtain ⟨k', v'⟩ := e
    rw [lookup_cons_pair] at h
    split at h
    · simp_all
    · exact List.mem_cons_of_mem _ (ih h)

theorem lookup_eq_none_of_not_mem {es : List (String × α)} {k : String}
    (h : k ∉ es.map Prod.fst) : es.lookup k = none := by
  induction es with
  | nil => rfl
  | cons e es ih =>
    obtain ⟨k', v⟩ := e
    simp only [List.map_cons, List.mem_cons, not_or] at h
    simp [h.1, ih h.2]

/-- The property `o[k]`, `none` when `o` has no such key. -/
def get? (o : JsObject α) (k : String) : Option α := o.entries.lookup k

/-- The entry list after `o[k] = v`: an existing key keeps its place. -/
def setEntry (k : String) (v : α) : List (String × α) → List (String × α)
  | [] => [(k, v)]
  | (k', v') :: es => if k' = k then (k, v) :: es else (k', v') :: setEntry k v es

theorem map_fst_setEntry (k : String) (v : α) (es : List (String × α)) :
    (setEntry k v es).map Prod.fst =
      if k ∈ es.map Prod.fst then es.map Prod.fst else es.map Prod.fst ++ [k] := by
  induction es with
  | nil => simp [setEntry]
  | cons e es ih =>
    obtain ⟨k', v'⟩ := e
    by_cases h : k' = k
    · subst h; simp [setEntry]
    · by_cases hk : k ∈ es.map Prod.fst <;> simp [setEntry, h, ih, hk, Ne.symm h]

theorem nodup_setEntry (k : String) (v : α) {es : List (String × α)}
    (h : (es.map Prod.fst).Nodup) : ((setEntry k v es).map Prod.fst).Nodup := by
  rw [map_fst_setEntry]
  split
  · exact h
  · rename_i hk
    exact List.nodup_append.2 ⟨h, List.nodup_singleton k, by simpa using hk⟩

theorem lookup_setEntry (k k' : String) (v : α) (es : List (String × α)) :
    (setEntry k v es).lookup k' = if k' = k then some v else es.lookup k' := by
  induction es with
  | nil => simp [setEntry]
  | cons e es ih =>
    obtain ⟨k'', v'⟩ := e
    by_cases h : k'' = k
    · subst h; by_cases h' : k' = k'' <;> simp [setEntry, h']
    · by_cases h' : k' = k'' <;> simp_all [setEntry]

/-- The assignment `o[k] = v`. -/
def set (o : JsObject α) (k : String) (v : α) : JsObject α :=
  ⟨setEntry k v o.entries, nodup_setEntry k v o.nodup⟩

@[simp] theorem get?_set (o : JsObject α) (k k' : String) (v : α) :
    (o.set k v).get? k' = if k' = k then some v else o.get? k' :=
  lookup_setEntry k k' v o.entries

theorem setEntry_of_not_mem {k : String} (v : α) {es : List (String × α)}
    (h : k ∉ es.map Prod.fst) : setEntry k v es = es ++ [(k, v)] := by
  induction es with
  | nil => rfl
  | cons e es ih =>
    simp only [List.map_cons, List.mem_cons, not_or] at h
    simp [setEntry, Ne.symm h.1, ih h.2]

theorem entries_set_of_not_mem (o : JsObject α) {k : String} (v : α) (h : k ∉ o.keys) :
    (o.set k v).entries = o.entries ++ [(k, v)] :=
  setEntry_of_not_mem v h

/-- The object a JavaScript value of type `Record<string, string>` is when read as a map whose
values may also be `null`: the same entries, each value a string. -/
def mapValues (f : α → β) (o : JsObject α) : JsObject β :=
  ⟨o.entries.map (fun e => (e.1, f e.2)), by simpa [Function.comp_def] using o.nodup⟩

@[simp] theorem keys_mapValues (f : α → β) (o : JsObject α) : (o.mapValues f).keys = o.keys := by
  simp [keys, mapValues, Function.comp_def]

/-- Two objects with the same keys and the same value at each key. -/
def Equiv (a b : JsObject α) : Prop := ∀ k, a.get? k = b.get? k

theorem Equiv.refl (a : JsObject α) : a.Equiv a := fun _ => rfl

theorem Equiv.symm {a b : JsObject α} (h : a.Equiv b) : b.Equiv a := fun k => (h k).symm

theorem Equiv.trans {a b c : JsObject α} (h₁ : a.Equiv b) (h₂ : b.Equiv c) : a.Equiv c :=
  fun k => (h₁ k).trans (h₂ k)

theorem mem_keys_iff (o : JsObject α) (k : String) : k ∈ o.keys ↔ (o.get? k).isSome := by
  simp only [keys, get?]
  induction o.entries with
  | nil => simp
  | cons e es ih => obtain ⟨k', v⟩ := e; by_cases h : k = k' <;> simp_all [lookup_cons_pair]

theorem lookup_eq_some_iff {es : List (String × α)} (hn : (es.map Prod.fst).Nodup)
    (k : String) (v : α) : es.lookup k = some v ↔ (k, v) ∈ es := by
  induction es with
  | nil => simp
  | cons e es ih =>
    obtain ⟨k', v'⟩ := e
    simp only [List.map_cons, List.nodup_cons] at hn
    by_cases h : k = k'
    · subst h
      have : (k, v) ∉ es := fun hm => hn.1 (List.mem_map.2 ⟨_, hm, rfl⟩)
      simp [this, eq_comm]
    · simp [h, ih hn.2]

/-- With each key once, a lookup does not depend on the order of the pairs. -/
theorem lookup_eq_of_perm {es es' : List (String × α)} (hp : es.Perm es')
    (hn : (es.map Prod.fst).Nodup) (k : String) : es.lookup k = es'.lookup k := by
  have hn' : (es'.map Prod.fst).Nodup := (hp.map Prod.fst).nodup_iff.1 hn
  refine Option.ext fun v => ?_
  rw [Option.mem_def, Option.mem_def, lookup_eq_some_iff hn, lookup_eq_some_iff hn', hp.mem_iff]

theorem get?_eq_some_iff (o : JsObject α) (k : String) (v : α) :
    o.get? k = some v ↔ (k, v) ∈ o.entries :=
  lookup_eq_some_iff o.nodup k v

/-- Objects with the same value at every key list the same entries, in some order. -/
theorem Equiv.perm {a b : JsObject α} (h : a.Equiv b) : a.entries.Perm b.entries :=
  (List.perm_ext_iff_of_nodup (a.nodup.of_map Prod.fst) (b.nodup.of_map Prod.fst)).2
    fun ⟨k, v⟩ => by rw [← get?_eq_some_iff, ← get?_eq_some_iff, h k]

/-- Objects with the same value at every key have the same keys. -/
theorem Equiv.mem_keys {a b : JsObject α} (h : a.Equiv b) {k : String} :
    k ∈ a.keys ↔ k ∈ b.keys := by
  rw [mem_keys_iff, mem_keys_iff, h k]

/-- Equal lengths of `Object.keys` and agreement on the keys of the first object: the test
`repositoryMapsEqual` runs, which is exactly equality as finite maps. -/
theorem equiv_iff_keys (a b : JsObject α) :
    a.Equiv b ↔ a.keys.length = b.keys.length ∧ ∀ k ∈ a.keys, a.get? k = b.get? k := by
  have hkeys : ∀ {a b : JsObject α}, (∀ k ∈ a.keys, a.get? k = b.get? k) → a.keys ⊆ b.keys :=
    fun {a b} h k hk => by
      rw [mem_keys_iff] at hk ⊢; rwa [← h k ((mem_keys_iff _ _).2 hk)]
  constructor
  · intro h
    have hp : a.keys.Perm b.keys :=
      (@List.perm_ext_iff_of_nodup _ a.keys b.keys a.nodup b.nodup).2 fun k => by
        rw [mem_keys_iff, mem_keys_iff, h k]
    exact ⟨hp.length_eq, fun k _ => h k⟩
  · rintro ⟨hlen, h⟩ k
    by_cases hk : k ∈ a.keys
    · exact h k hk
    · -- `a`'s keys all lie among `b`'s, and there are as many: they are `b`'s keys
      have hp := (a.nodup.subperm (hkeys h)).perm_of_length_le hlen.ge
      have hb : k ∉ b.keys := fun hb => hk (hp.mem_iff.2 hb)
      rw [mem_keys_iff, Option.not_isSome_iff_eq_none] at hk hb
      rw [hk, hb]

/-! ## Runs of assignments -/

/-- The assignments `o[k] = v` for the pairs of `kvs`, in order. -/
def assignAll (o : JsObject α) (kvs : List (String × α)) : JsObject α :=
  kvs.foldl (fun acc kv => acc.set kv.1 kv.2) o

@[simp] theorem assignAll_nil (o : JsObject α) : o.assignAll [] = o := rfl

@[simp] theorem assignAll_cons (o : JsObject α) (kv : String × α) (kvs : List (String × α)) :
    o.assignAll (kv :: kvs) = (o.set kv.1 kv.2).assignAll kvs := rfl

/-- A run of assignments is read back by its last write to the key. -/
theorem get?_assignAll (o : JsObject α) (kvs : List (String × α)) (k : String) :
    (o.assignAll kvs).get? k = (kvs.reverse.lookup k).or (o.get? k) := by
  induction kvs generalizing o with
  | nil => simp
  | cons kv kvs ih =>
    obtain ⟨k', v⟩ := kv
    rw [assignAll_cons, ih, get?_set, List.reverse_cons, List.lookup_append, Option.or_assoc]
    by_cases h : k = k' <;> simp [h]

/-- Assigning keys the object does not have, each once, appends them. -/
theorem entries_assignAll (o : JsObject α) (kvs : List (String × α))
    (h : (o.keys ++ kvs.map Prod.fst).Nodup) : (o.assignAll kvs).entries = o.entries ++ kvs := by
  induction kvs generalizing o with
  | nil => simp
  | cons kv kvs ih =>
    have hk : kv.1 ∉ o.keys := fun hm =>
      (List.nodup_append.1 h).2.2 hm (List.mem_cons_self _ _)
    rw [assignAll_cons, ih, entries_set_of_not_mem o kv.2 hk, List.append_assoc]
    · rfl
    · simpa [keys, entries_set_of_not_mem o kv.2 hk] using h

/-- Every entry after a run of assignments was already there or was assigned. -/
theorem mem_entries_assignAll {o : JsObject α} {kvs : List (String × α)} {e : String × α}
    (h : e ∈ (o.assignAll kvs).entries) : e ∈ o.entries ∨ e ∈ kvs := by
  rw [← get?_eq_some_iff, get?_assignAll] at h
  rcases Option.or_eq_some.1 h with h | ⟨-, h⟩
  · exact .inr (List.mem_reverse.1 (mem_of_lookup_eq_some h))
  · exact .inl ((get?_eq_some_iff _ _ _).1 h)

/-- Assigning pairs with distinct keys to `{}`: the last write is the only write. -/
theorem get?_empty_assignAll {kvs : List (String × α)} (hn : (kvs.map Prod.fst).Nodup)
    (k : String) : (empty.assignAll kvs).get? k = kvs.lookup k := by
  rw [get?_assignAll, lookup_eq_of_perm (List.reverse_perm kvs) (by rw [List.map_reverse, List.nodup_reverse]; exact hn)]
  cases kvs.lookup k <;> rfl

/-- Filtering a list of pairs with a map that keeps each key keeps a sublist of the keys. -/
theorem keys_filterMap_sublist {γ : Type} (f : String × γ → Option (String × α))
    (hf : ∀ e kv, f e = some kv → kv.1 = e.1) (l : List (String × γ)) :
    ((l.filterMap f).map Prod.fst).Sublist (l.map Prod.fst) := by
  induction l with
  | nil => simp
  | cons e l ih =>
    cases h : f e with
    | none => simpa [List.filterMap_cons, h] using ih.cons e.1
    | some kv => simpa [List.filterMap_cons, h, hf e kv h] using ih.cons₂ e.1

theorem empty_assignAll_entries (o : JsObject α) : empty.assignAll o.entries = o :=
  JsObject.ext (entries_assignAll empty o.entries o.nodup)

end JsObject

/-! ## `Set` -/

/-- A JavaScript `Set` of strings: its elements in insertion order, each once. -/
structure JsSet where
  elems : List String
  nodup : elems.Nodup

namespace JsSet

/-- `new Set()`. -/
def empty : JsSet := ⟨[], List.nodup_nil⟩

/-- `set.add(x)`: a new element goes last, a present one stays where it is. -/
def add (s : JsSet) (x : String) : JsSet :=
  if h : x ∈ s.elems then s
  else ⟨s.elems ++ [x], List.nodup_append.2 ⟨s.nodup, List.nodup_singleton x, by simpa using h⟩⟩

/-- `new Set(iterable)`: the elements added in turn. -/
def ofList (xs : List String) : JsSet := xs.foldl add empty

/-- `set.has(x)`. -/
def has (s : JsSet) (x : String) : Bool := decide (x ∈ s.elems)

/-- Adding in turn is `List.eraseDups`'s loop, whose accumulator holds the elements reversed. -/
theorem elems_foldl_add (xs : List String) (s : JsSet) (bs : List String)
    (h : s.elems = bs.reverse) : (xs.foldl add s).elems = List.eraseDups.loop xs bs := by
  induction xs generalizing s bs with
  | nil => simpa [List.eraseDups.loop] using h
  | cons x xs ih =>
    by_cases hx : x ∈ bs
    · have hadd : s.add x = s := dif_pos (by simpa [h] using hx)
      simp only [List.foldl_cons, hadd, List.eraseDups.loop, List.elem_eq_true_of_mem hx]
      exact ih s bs h
    · have hadd : (s.add x).elems = (x :: bs).reverse := by
        simp [add, h, hx]
      have helem : bs.elem x = false := by simpa using hx
      simp only [List.foldl_cons, List.eraseDups.loop, helem]
      exact ih _ _ hadd

/-- `Array.from(new Set(xs))` keeps the first occurrence of each element, in order. -/
theorem elems_ofList (xs : List String) : (ofList xs).elems = xs.eraseDups :=
  elems_foldl_add xs empty [] rfl

@[simp] theorem mem_add (s : JsSet) (x y : String) :
    x ∈ (s.add y).elems ↔ x ∈ s.elems ∨ x = y := by
  unfold add
  split_ifs with hy
  · exact ⟨.inl, fun h => h.elim id (· ▸ hy)⟩
  · simp

theorem mem_foldl_add (xs : List String) (s : JsSet) (x : String) :
    x ∈ (xs.foldl add s).elems ↔ x ∈ s.elems ∨ x ∈ xs := by
  induction xs generalizing s with
  | nil => simp
  | cons y ys ih => simp [ih, or_assoc]

@[simp] theorem mem_ofList (xs : List String) (x : String) : x ∈ (ofList xs).elems ↔ x ∈ xs := by
  simp [ofList, mem_foldl_add, empty]

@[simp] theorem has_ofList (xs : List String) (x : String) :
    (ofList xs).has x = decide (x ∈ xs) := by
  simp [has]

end JsSet

theorem mem_eraseDups {xs : List String} {x : String} : x ∈ xs.eraseDups ↔ x ∈ xs := by
  rw [← JsSet.elems_ofList, JsSet.mem_ofList]

theorem nodup_eraseDups (xs : List String) : xs.eraseDups.Nodup :=
  JsSet.elems_ofList xs ▸ (JsSet.ofList xs).nodup

end AppSettings
