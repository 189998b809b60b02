import Mathlib.Data.List.Induction
import Mathlib.Data.List.Nodup
import Mathlib.Tactic.Tauto

/-!
# Insertion-ordered dictionaries

A dictionary is a list of key and value pairs without repeated keys, in the order in
which the keys were first set. Setting a key that is present replaces its value and
keeps its place; setting a new one appends it.

## Main definitions

* `Dict` — the dictionary, with `get?`, `set`, `setAll` and `update`
* `firstKeys` — the keys of a list, each where it first appears

## Main results

* `get?_set`, `keys_set` — one assignment
* `get?_update`, `update_ofPairs` — many assignments, in one pass or two
-/

/-- A dictionary that remembers the order its keys were first set in. -/
structure Dict (κ α : Type*) where
  items : List (κ × α)
  nodup : (items.map Prod.fst).Nodup
  deriving DecidableEq

namespace Dict

variable {κ α : Type*}

/-- The dictionary with no keys. -/
def empty : Dict κ α := ⟨[], List.nodup_nil⟩

instance : Inhabited (Dict κ α) := ⟨empty⟩

/-- The keys, oldest first. -/
def keys (d : Dict κ α) : List κ := d.items.map Prod.fst

/-- The values, in the order of their keys. -/
def values (d : Dict κ α) : List α := d.items.map Prod.snd

@[simp] theorem keys_empty : (empty : Dict κ α).keys = [] := rfl

theorem keys_nodup (d : Dict κ α) : d.keys.Nodup := d.nodup

variable [DecidableEq κ]

/-! ## Association lists -/

/-- The value stored under `k`, if any. -/
def lookup (k : κ) : List (κ × α) → Option α
  | [] => none
  | (k', v) :: rest => if k' = k then some v else lookup k rest

/-- Replace the value under `k` in place, or append it. -/
def store (k : κ) (v : α) : List (κ × α) → List (κ × α)
  | [] => [(k, v)]
  | (k', v') :: rest => if k' = k then (k', v) :: rest else (k', v') :: store k v rest

theorem lookup_store (k k' : κ) (v : α) (items : List (κ × α)) :
    lookup k' (store k v items) = if k = k' then some v else lookup k' items := by
  induction items with
  | nil => simp [lookup, store]
  | cons item rest ih =>
    obtain ⟨key, value⟩ := item
    by_cases hkey : key = k
    · subst hkey
      by_cases hk : key = k' <;> simp [lookup, store, hk]
    · simp only [store, if_neg hkey, lookup, ih]
      by_cases hk : k = k'
      · subst hk
        simp [hkey]
      · simp [hk]

theorem keys_store (k : κ) (v : α) (items : List (κ × α)) :
    (store k v items).map Prod.fst =
      if k ∈ items.map Prod.fst then items.map Prod.fst
      else items.map Prod.fst ++ [k] := by
  induction items with
  | nil => simp [store]
  | cons item rest ih =>
    obtain ⟨key, value⟩ := item
    by_cases hkey : key = k
    · simp [store, hkey]
    · have hne : ¬ k = key := fun h => hkey h.symm
      simp only [store, hkey, if_false, List.map_cons, ih, List.mem_cons, hne, false_or]
      split_ifs <;> simp

theorem nodup_store (k : κ) (v : α) {items : List (κ × α)}
    (h : (items.map Prod.fst).Nodup) : ((store k v items).map Prod.fst).Nodup := by
  rw [keys_store]
  split_ifs with hk
  · exact h
  · exact List.nodup_append.mpr ⟨h, by simp, fun a ha b hb => by
      rw [List.mem_singleton] at hb
      exact fun hab => hk ((hab.trans hb) ▸ ha)⟩

theorem lookup_isSome_iff {k : κ} {items : List (κ × α)} :
    (lookup k items).isSome ↔ k ∈ items.map Prod.fst := by
  induction items with
  | nil => simp [lookup]
  | cons item rest ih =>
    obtain ⟨key, value⟩ := item
    by_cases hkey : key = k
    · simp [lookup, hkey]
    · have hne : ¬ k = key := fun h => hkey h.symm
      simp [lookup, hkey, hne, ih]

theorem lookup_eq_some_iff {k : κ} {v : α} {items : List (κ × α)}
    (h : (items.map Prod.fst).Nodup) : lookup k items = some v ↔ (k, v) ∈ items := by
  induction items with
  | nil => simp [lookup]
  | cons item rest ih =>
    obtain ⟨key, value⟩ := item
    rw [List.map_cons, List.nodup_cons] at h
    by_cases hkey : key = k
    · subst hkey
      have hout : (key, v) ∉ rest := fun hin =>
        h.1 (List.mem_map.mpr ⟨(key, v), hin, rfl⟩)
      simp [lookup, hout, eq_comm]
    · have hne : ¬ k = key := fun h' => hkey h'.symm
      simp [lookup, hkey, hne, ih h.2]

/-! ## Dictionaries -/

/-- The value under `k`, if the key was set. -/
def get? (d : Dict κ α) (k : κ) : Option α := lookup k d.items

/-- The value under `k`, or a default. -/
def getD (d : Dict κ α) (k : κ) (default : α) : α := (d.get? k).getD default

/-- Set the value under `k`. -/
def set (d : Dict κ α) (k : κ) (v : α) : Dict κ α :=
  ⟨store k v d.items, nodup_store k v d.nodup⟩

/-- Set every pair of the list in turn; a repeated key keeps its last value. -/
def setAll (d : Dict κ α) (pairs : List (κ × α)) : Dict κ α :=
  pairs.foldl (fun acc pair => acc.set pair.1 pair.2) d

/-- The dictionary a list of pairs builds from nothing. -/
def ofPairs (pairs : List (κ × α)) : Dict κ α := empty.setAll pairs

@[simp] theorem get?_empty (k : κ) : (empty : Dict κ α).get? k = none := rfl

theorem get?_set (d : Dict κ α) (k k' : κ) (v : α) :
    (d.set k v).get? k' = if k = k' then some v else d.get? k' :=
  lookup_store k k' v d.items

@[simp] theorem get?_set_self (d : Dict κ α) (k : κ) (v : α) :
    (d.set k v).get? k = some v := by
  simp [get?_set]

theorem get?_set_of_ne (d : Dict κ α) {k k' : κ} (h : k ≠ k') (v : α) :
    (d.set k v).get? k' = d.get? k' := by
  simp [get?_set, h]

theorem keys_set (d : Dict κ α) (k : κ) (v : α) :
    (d.set k v).keys = if k ∈ d.keys then d.keys else d.keys ++ [k] :=
  keys_store k v d.items

theorem get?_isSome_iff {d : Dict κ α} {k : κ} : (d.get? k).isSome ↔ k ∈ d.keys :=
  lookup_isSome_iff

theorem get?_eq_none_iff {d : Dict κ α} {k : κ} : d.get? k = none ↔ k ∉ d.keys := by
  rw [← get?_isSome_iff, Option.not_isSome_iff_eq_none]

theorem get?_eq_some_iff {d : Dict κ α} {k : κ} {v : α} :
    d.get? k = some v ↔ (k, v) ∈ d.items :=
  lookup_eq_some_iff d.nodup

/-- Lookups do not depend on the order of the entries. -/
theorem get?_perm {d d' : Dict κ α} (h : d'.items.Perm d.items) (k : κ) :
    d'.get? k = d.get? k := by
  apply Option.ext
  intro v
  rw [get?_eq_some_iff, get?_eq_some_iff, h.mem_iff]

theorem mem_values {d : Dict κ α} {v : α} : v ∈ d.values ↔ ∃ k, d.get? k = some v := by
  simp [values, get?_eq_some_iff]

omit [DecidableEq κ] in
/-- Two entries with one key are one entry. -/
theorem eq_of_key_eq (d : Dict κ α) {a b : κ × α} (ha : a ∈ d.items) (hb : b ∈ d.items)
    (h : a.1 = b.1) : a = b :=
  List.inj_on_of_nodup_map d.nodup ha hb h

/-- The entries with one of them moved to the front. -/
def moveToFront [DecidableEq α] (d : Dict κ α) (item : κ × α) (h : item ∈ d.items) : Dict κ α :=
  ⟨item :: d.items.erase item,
    ((List.perm_cons_erase h).map Prod.fst).nodup_iff.mp d.nodup⟩

theorem moveToFront_perm [DecidableEq α] (d : Dict κ α) {item : κ × α} (h : item ∈ d.items) :
    (d.moveToFront item h).items.Perm d.items :=
  (List.perm_cons_erase h).symm

/-- The entries are the keys with their lookups. -/
theorem items_eq_map_keys (d : Dict κ α) (default : α) :
    d.items = d.keys.map fun k => (k, d.getD k default) := by
  rw [keys, List.map_map]
  refine (List.map_id d.items).symm.trans (List.map_congr_left fun item hitem => ?_)
  have hget : d.get? item.1 = some item.2 := get?_eq_some_iff.mpr hitem
  simp [getD, hget]

theorem mem_keys_set {d : Dict κ α} {k k' : κ} {v : α} :
    k' ∈ (d.set k v).keys ↔ k' = k ∨ k' ∈ d.keys := by
  rw [keys_set]
  split_ifs with h
  · constructor
    · exact Or.inr
    · rintro (rfl | h')
      · exact h
      · exact h'
  · simp [or_comm]

/-- A dictionary is its keys in order together with its lookups. -/
theorem ext_of_get? {d d' : Dict κ α} (hkeys : d.keys = d'.keys)
    (hget : ∀ k, d.get? k = d'.get? k) : d = d' := by
  have hvalue : ∀ (e : Dict κ α), e.items = e.keys.attach.map fun k =>
      (k.1, (e.get? k.1).get (get?_isSome_iff.mpr k.2)) := by
    intro e
    apply List.ext_getElem
    · simp [keys]
    · intro n h₁ h₂
      have hmem : e.items[n] ∈ e.items := List.getElem_mem h₁
      have hsome : e.get? e.items[n].1 = some e.items[n].2 := get?_eq_some_iff.mpr hmem
      simp [keys, hsome]
  have hitems : d.items = d'.items := by
    rw [hvalue d, hvalue d']
    apply List.ext_getElem
    · simp [hkeys]
    · intro n h₁ h₂
      simp [hkeys, hget]
  cases d
  cases d'
  simp_all

/-! ## Keys in order of appearance -/

/-- Note a key, unless it was noted before. -/
def noteKey (seen : List κ) (k : κ) : List κ := if k ∈ seen then seen else seen ++ [k]

/-- The keys of a list, each at its first appearance. -/
def firstKeys (ks : List κ) : List κ := ks.foldl noteKey []

@[simp] theorem firstKeys_nil : firstKeys ([] : List κ) = [] := rfl

@[simp] theorem firstKeys_concat (ks : List κ) (k : κ) :
    firstKeys (ks ++ [k]) = noteKey (firstKeys ks) k := by
  simp [firstKeys]

theorem mem_noteKey {seen : List κ} {k k' : κ} :
    k' ∈ noteKey seen k ↔ k' ∈ seen ∨ k' = k := by
  unfold noteKey
  split_ifs with h
  · constructor
    · exact Or.inl
    · rintro (h' | rfl)
      · exact h'
      · exact h
  · simp

theorem mem_firstKeys {ks : List κ} {k : κ} : k ∈ firstKeys ks ↔ k ∈ ks := by
  induction ks using List.reverseRecOn with
  | nil => simp
  | append_singleton ks k' ih => simp [mem_noteKey, ih]

theorem nodup_firstKeys (ks : List κ) : (firstKeys ks).Nodup := by
  induction ks using List.reverseRecOn with
  | nil => simp
  | append_singleton ks k ih =>
    rw [firstKeys_concat, noteKey]
    split_ifs with h
    · exact ih
    · exact List.nodup_append.mpr ⟨ih, by simp, fun a ha b hb hab =>
        h ((List.mem_singleton.mp hb) ▸ hab ▸ ha)⟩

theorem mem_foldl_noteKey {ks seen : List κ} {k : κ} :
    k ∈ ks.foldl noteKey seen ↔ k ∈ seen ∨ k ∈ ks := by
  induction ks generalizing seen with
  | nil => simp
  | cons k' ks ih =>
    rw [List.foldl_cons, ih, mem_noteKey, List.mem_cons]
    tauto

/-- Noting repeated keys once notes the same keys. -/
theorem foldl_noteKey_firstKeys (ks seen : List κ) :
    (firstKeys ks).foldl noteKey seen = ks.foldl noteKey seen := by
  induction ks using List.reverseRecOn with
  | nil => rfl
  | append_singleton ks k ih =>
    rw [firstKeys_concat, List.foldl_append, List.foldl_cons, List.foldl_nil]
    by_cases hk : k ∈ firstKeys ks
    · have hseen : k ∈ ks.foldl noteKey seen :=
        mem_foldl_noteKey.mpr (Or.inr (mem_firstKeys.mp hk))
      rw [noteKey, if_pos hk, ih, noteKey, if_pos hseen]
    · rw [noteKey, if_neg hk, List.foldl_append, List.foldl_cons, List.foldl_nil, ih]

theorem keys_set_eq_noteKey (d : Dict κ α) (k : κ) (v : α) :
    (d.set k v).keys = noteKey d.keys k :=
  d.keys_set k v

/-! ## Many assignments -/

@[simp] theorem setAll_nil (d : Dict κ α) : d.setAll [] = d := rfl

theorem setAll_concat (d : Dict κ α) (pairs : List (κ × α)) (k : κ) (v : α) :
    d.setAll (pairs ++ [(k, v)]) = (d.setAll pairs).set k v := by
  simp [setAll]

theorem setAll_append (d : Dict κ α) (xs ys : List (κ × α)) :
    d.setAll (xs ++ ys) = (d.setAll xs).setAll ys := by
  simp [setAll]

theorem keys_setAll (d : Dict κ α) (pairs : List (κ × α)) :
    (d.setAll pairs).keys = (pairs.map Prod.fst).foldl noteKey d.keys := by
  induction pairs using List.reverseRecOn with
  | nil => rfl
  | append_singleton pairs pair ih =>
    rw [setAll_concat, keys_set_eq_noteKey, ih]
    simp

/-- An assignment of the list hides what was stored before. -/
theorem get?_setAll (d : Dict κ α) (pairs : List (κ × α)) (k : κ) :
    (d.setAll pairs).get? k = ((ofPairs pairs).get? k).or (d.get? k) := by
  induction pairs using List.reverseRecOn with
  | nil => rfl
  | append_singleton pairs pair ih =>
    rw [setAll_concat, ofPairs, setAll_concat, get?_set, get?_set, ih, ofPairs]
    split_ifs <;> rfl

/-- What is found after many assignments was assigned. -/
theorem mem_of_get?_ofPairs {pairs : List (κ × α)} {k : κ} {v : α}
    (h : (ofPairs pairs).get? k = some v) : (k, v) ∈ pairs := by
  induction pairs using List.reverseRecOn with
  | nil => cases h
  | append_singleton pairs pair ih =>
    rw [ofPairs, setAll_concat, get?_set] at h
    rw [List.mem_append, List.mem_singleton]
    split_ifs at h with hkey
    · cases h
      exact Or.inr (Prod.ext hkey.symm rfl)
    · exact Or.inl (ih h)

theorem mem_keys_ofPairs {pairs : List (κ × α)} {k : κ} :
    k ∈ (ofPairs pairs).keys ↔ k ∈ pairs.map Prod.fst := by
  rw [ofPairs, keys_setAll, mem_foldl_noteKey, keys_empty]
  simp

/-- The last pair of a key is the one that is found. -/
theorem get?_ofPairs (pairs : List (κ × α)) (k : κ) :
    (ofPairs pairs).get? k = (pairs.filter (·.1 = k)).getLast?.map Prod.snd := by
  induction pairs using List.reverseRecOn with
  | nil => rfl
  | append_singleton pairs pair ih =>
    rw [ofPairs, setAll_concat, get?_set, List.filter_append]
    by_cases h : pair.1 = k
    · simp [h]
    · rw [if_neg h, ← ofPairs, ih]
      simp [h]

theorem items_ofPairs_ne_nil (p : κ × α) (rest : List (κ × α)) :
    (ofPairs (p :: rest)).items ≠ [] := by
  intro hitems
  have hkey : p.1 ∈ (ofPairs (p :: rest)).keys :=
    mem_keys_ofPairs.mpr (List.mem_map_of_mem List.mem_cons_self)
  rw [keys, hitems] at hkey
  exact List.not_mem_nil hkey

/-- Where a key comes with one value only, that value is found. -/
theorem get?_ofPairs_iff {pairs : List (κ × α)}
    (hone : ∀ p ∈ pairs, ∀ q ∈ pairs, p.1 = q.1 → p = q) {k : κ} {v : α} :
    (ofPairs pairs).get? k = some v ↔ (k, v) ∈ pairs := by
  constructor
  · exact mem_of_get?_ofPairs
  · intro h
    have hkey : k ∈ (ofPairs pairs).keys :=
      mem_keys_ofPairs.mpr (List.mem_map.mpr ⟨(k, v), h, rfl⟩)
    obtain ⟨w, hw⟩ := Option.isSome_iff_exists.mp (get?_isSome_iff.mpr hkey)
    have hpair := hone _ (mem_of_get?_ofPairs hw) _ h rfl
    cases hpair
    exact hw

/-- A dictionary's own pairs build it again. -/
theorem ofPairs_items (d : Dict κ α) : ofPairs d.items = d := by
  have hprefix : ∀ (pairs : List (κ × α)) (h : (pairs.map Prod.fst).Nodup),
      ofPairs pairs = ⟨pairs, h⟩ := by
    intro pairs
    induction pairs using List.reverseRecOn with
    | nil => intro _; rfl
    | append_singleton pairs pair ih =>
      intro h
      obtain ⟨k, v⟩ := pair
      rw [List.map_append, List.nodup_append] at h
      have hnew : k ∉ pairs.map Prod.fst := fun hk =>
        h.2.2 k hk k (by simp) rfl
      have hstore : ∀ items : List (κ × α), k ∉ items.map Prod.fst →
          store k v items = items ++ [(k, v)] := by
        intro items
        induction items with
        | nil => intro _; rfl
        | cons item rest ihs =>
          obtain ⟨key, value⟩ := item
          intro hk
          rw [List.map_cons, List.mem_cons, not_or] at hk
          rw [store, if_neg (Ne.symm hk.1), ihs hk.2]
          rfl
      rw [ofPairs, setAll_concat, ← ofPairs, ih h.1]
      simp only [set, hstore pairs hnew]
  exact hprefix d.items d.nodup

/-- Set all the pairs of another dictionary over this one. -/
def update (d e : Dict κ α) : Dict κ α := d.setAll e.items

theorem get?_update (d e : Dict κ α) (k : κ) :
    (d.update e).get? k = (e.get? k).or (d.get? k) := by
  rw [update, get?_setAll, ofPairs_items]

/-- Collecting assignments in a dictionary of their own first makes no difference. -/
theorem update_ofPairs (d : Dict κ α) (pairs : List (κ × α)) :
    d.update (ofPairs pairs) = d.setAll pairs := by
  refine ext_of_get? ?_ fun k => ?_
  · rw [update, keys_setAll, keys_setAll]
    have hkeys : (ofPairs pairs).items.map Prod.fst = firstKeys (pairs.map Prod.fst) :=
      keys_setAll empty pairs
    rw [hkeys, foldl_noteKey_firstKeys]
  · rw [get?_update, get?_setAll]

/-! ## Keeping entries -/

omit [DecidableEq κ] in
theorem nodup_filter {items : List (κ × α)} (p : α → Bool) (h : (items.map Prod.fst).Nodup) :
    ((items.filter fun item => p item.2).map Prod.fst).Nodup :=
  h.sublist (List.filter_sublist.map Prod.fst)

omit [DecidableEq κ] in
/-- The entries whose value has a property. -/
def filter (p : α → Bool) (d : Dict κ α) : Dict κ α :=
  ⟨d.items.filter fun item => p item.2, nodup_filter p d.nodup⟩

theorem get?_filter (p : α → Bool) (d : Dict κ α) (k : κ) :
    (d.filter p).get? k = (d.get? k).filter p := by
  apply Option.ext
  intro v
  rw [get?_eq_some_iff, Option.filter_eq_some_iff, get?_eq_some_iff]
  exact List.mem_filter

omit [DecidableEq κ] in
theorem values_filter (p : α → Bool) (d : Dict κ α) :
    (d.filter p).values = d.values.filter p := by
  simp only [values, filter, List.filter_map]
  rfl

/-- Reading every key in turn reads the values. -/
theorem filterMap_keys (d : Dict κ α) : d.keys.filterMap d.get? = d.values := by
  rw [keys, values, List.filterMap_map]
  rw [← List.filterMap_eq_map]
  apply List.filterMap_congr
  intro item hitem
  exact get?_eq_some_iff.mpr hitem

end Dict
