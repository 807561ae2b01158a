import Nomenclator.Table
import Mathlib.Data.List.Induction
import Mathlib.Data.List.Nodup
import Mathlib.Tactic.Lemma

/-!
# Laws of ordered tables

A table is observed in two ways: through `List.lookup`, which finds the value of a key, and through
`Table.keys`, which lists the keys in the order of their first writing.  This module says what every
operation does to both views, so that nothing later on unfolds `put` or `merge`.

A table whose keys are distinct is determined by the two views together, and `put` keeps keys
distinct.  The order of the keys of a merged table is described by places in the list of all
writings: `ofEntries_keys_pairwise` says that an earlier key was *first* written earlier, whatever
was written to it afterwards.  This is the fact behind the precedence of settings, where a key that
is written again keeps its old place.

`merge_ofEntries` says that repeated writings may be carried out before a merge as well as in it.
-/

namespace Nomenclator.Table

variable {α : Type}

/-! ## Keys and look-up -/

@[simp] lemma keys_nil : keys ([] : Table α) = [] := rfl

@[simp] lemma keys_cons (entry : String × α) (table : Table α) :
    keys (entry :: table) = entry.1 :: table.keys := rfl

@[simp] lemma keys_append (a b : Table α) : keys (a ++ b) = keys a ++ keys b := by
  simp [keys]

@[simp] lemma keys_reverse (table : Table α) : keys table.reverse = table.keys.reverse := by
  simp [keys]

lemma hasKey_iff {table : Table α} {key : String} :
    table.hasKey key = true ↔ key ∈ table.keys := by
  simp [hasKey, keys]

@[simp] lemma lookup_cons (entry : String × α) (table : Table α) (key : String) :
    List.lookup key (entry :: table)
      = if key = entry.1 then some entry.2 else table.lookup key := by
  by_cases hkey : key = entry.1
  · rw [hkey, List.lookup_cons, beq_self_eq_true, if_pos rfl]
  · rw [List.lookup_cons, beq_eq_false_iff_ne.mpr hkey, if_neg hkey]

lemma lookup_eq_none_iff {table : Table α} {key : String} :
    table.lookup key = none ↔ key ∉ table.keys := by
  simp only [List.lookup_eq_none_iff, keys, List.mem_map, not_exists, not_and, bne_iff_ne]
  exact ⟨fun h entry hentry heq => h entry hentry heq.symm,
    fun h entry hentry heq => h entry hentry heq.symm⟩

lemma exists_lookup_iff {table : Table α} {key : String} :
    (∃ value, table.lookup key = some value) ↔ key ∈ table.keys := by
  rw [← Option.isSome_iff_exists, ← Option.ne_none_iff_isSome, ne_eq, lookup_eq_none_iff, not_not]

lemma mem_of_lookup {table : Table α} {key : String} {value : α}
    (h : table.lookup key = some value) : (key, value) ∈ table := by
  obtain ⟨before, after, rfl, -⟩ := List.lookup_eq_some_iff.mp h
  simp

/-- In a table with distinct keys an entry is what its key finds. -/
lemma mem_iff_lookup {table : Table α} (hkeys : table.keys.Nodup) {key : String} {value : α} :
    (key, value) ∈ table ↔ table.lookup key = some value := by
  refine ⟨fun h => ?_, mem_of_lookup⟩
  induction table with
  | nil => simp at h
  | cons entry rest ih =>
    rw [keys_cons, List.nodup_cons] at hkeys
    rcases List.mem_cons.mp h with rfl | hrest
    · simp
    · have hne : key ≠ entry.1 := fun heq =>
        hkeys.1 (heq ▸ List.mem_map_of_mem (f := Prod.fst) hrest)
      rw [lookup_cons, if_neg hne]
      exact ih hkeys.2 hrest

/-- Keeping the entries of a test, in a table with distinct keys, keeps what keys find. -/
lemma lookup_filter {table : Table α} (hkeys : table.keys.Nodup) (test : String × α → Bool)
    (key : String) :
    List.lookup key (table.filter test) = (table.lookup key).filter fun v => test (key, v) := by
  ext value
  have hfilter : (keys (table.filter test)).Nodup :=
    hkeys.sublist (List.filter_sublist.map Prod.fst)
  rw [← mem_iff_lookup hfilter, List.mem_filter, mem_iff_lookup hkeys, Option.filter_eq_some_iff]

/-- What keys find, in a table with distinct keys, does not depend on the order of the entries. -/
lemma lookup_perm {a b : Table α} (h : a.Perm b) (hkeys : a.keys.Nodup) (key : String) :
    a.lookup key = b.lookup key := by
  have hkeys' : b.keys.Nodup := (h.map Prod.fst).nodup_iff.mp hkeys
  ext value
  rw [← mem_iff_lookup hkeys, ← mem_iff_lookup hkeys', h.mem_iff]

/-! ## Writing a key -/

lemma lookup_put (key : String) (value : α) (table : Table α) (k : String) :
    (put key value table).lookup k = if k = key then some value else table.lookup k := by
  induction table with
  | nil => simp [put]
  | cons entry rest ih =>
    obtain ⟨first, old⟩ := entry
    by_cases hfirst : first = key
    · subst hfirst
      by_cases hk : k = first <;> simp [put, hk]
    · by_cases hk : k = first
      · simp [put, hk, hfirst]
      · simp [put, hk, hfirst, ih]

/-- A key that stands already keeps its place; a new one is put at the end. -/
lemma keys_put (key : String) (value : α) (table : Table α) :
    (put key value table).keys = if key ∈ table.keys then table.keys else table.keys ++ [key] := by
  induction table with
  | nil => simp [put]
  | cons entry rest ih =>
    obtain ⟨first, old⟩ := entry
    by_cases hfirst : first = key
    · simp [put, hfirst]
    · have hne : key ≠ first := fun h => hfirst h.symm
      by_cases hrest : key ∈ keys rest <;> simp [put, hfirst, hne, hrest, ih]

lemma mem_keys_put {key : String} {value : α} {table : Table α} {k : String} :
    k ∈ (put key value table).keys ↔ k = key ∨ k ∈ table.keys := by
  rw [keys_put]
  split <;> rename_i hkey
  · exact ⟨Or.inr, fun h => h.elim (· ▸ hkey) id⟩
  · simp [or_comm]

lemma put_keys_nodup {table : Table α} (hkeys : table.keys.Nodup) (key : String) (value : α) :
    (put key value table).keys.Nodup := by
  rw [keys_put]
  split <;> rename_i hkey
  · exact hkeys
  · exact List.nodup_append.mpr ⟨hkeys, by simp, by grind⟩

lemma put_of_not_mem {table : Table α} {key : String} (hkey : key ∉ table.keys) (value : α) :
    put key value table = table ++ [(key, value)] := by
  induction table with
  | nil => rfl
  | cons entry rest ih =>
    rw [keys_cons, List.mem_cons, not_or] at hkey
    rw [put, if_neg (fun h => hkey.1 h.symm), ih hkey.2]
    rfl

/-- The second of two writings of one key is what stays. -/
lemma put_put_self (key : String) (old value : α) (table : Table α) :
    put key value (put key old table) = put key value table := by
  induction table with
  | nil => simp [put]
  | cons entry rest ih =>
    by_cases hfirst : entry.1 = key <;> simp [put, hfirst, ih]

/-- Writings of two keys change places when the one that comes first afterwards has its place
already. -/
lemma put_comm {table : Table α} {key k : String} (hne : key ≠ k) (hkey : key ∈ table.keys)
    (value v : α) : put key value (put k v table) = put k v (put key value table) := by
  induction table with
  | nil => simp at hkey
  | cons entry rest ih =>
    obtain ⟨first, old⟩ := entry
    by_cases hfirst : first = key
    · subst hfirst
      simp [put, hne]
    · have hrest : key ∈ keys rest := by
        rcases List.mem_cons.mp hkey with h | h
        · exact absurd h.symm hfirst
        · exact h
      by_cases hk : first = k
      · subst hk
        simp [put, hfirst]
      · simp [put, hfirst, hk, ih hrest]

/-! ## Merging -/

@[simp] lemma merge_nil (base : Table α) : merge base [] = base := rfl

@[simp] lemma merge_cons (base extra : Table α) (entry : String × α) :
    merge base (entry :: extra) = merge (base.put entry.1 entry.2) extra := rfl

lemma merge_append (base a b : Table α) : merge base (a ++ b) = merge (merge base a) b := by
  simp [merge]

lemma merge_keys_nodup {base : Table α} (hbase : base.keys.Nodup) (extra : Table α) :
    (merge base extra).keys.Nodup := by
  induction extra generalizing base with
  | nil => exact hbase
  | cons entry rest ih => exact ih (put_keys_nodup hbase _ _)

lemma mem_keys_merge {base extra : Table α} {key : String} :
    key ∈ (merge base extra).keys ↔ key ∈ base.keys ∨ key ∈ extra.keys := by
  induction extra generalizing base with
  | nil => simp
  | cons entry rest ih => rw [merge_cons, ih, mem_keys_put, keys_cons, List.mem_cons]; tauto

/-- A merged table finds the last of the writings of a key, and what the first table has for a key
that is not written. -/
lemma lookup_merge_reverse (base extra : Table α) (key : String) :
    (merge base extra).lookup key = (List.lookup key extra.reverse).or (base.lookup key) := by
  induction extra generalizing base with
  | nil => simp
  | cons entry rest ih =>
    rw [merge_cons, ih, lookup_put, List.reverse_cons, List.lookup_append, lookup_cons]
    by_cases hkey : key = entry.1 <;> cases List.lookup key rest.reverse <;> simp [hkey]

lemma lookup_reverse {table : Table α} (hkeys : table.keys.Nodup) (key : String) :
    List.lookup key table.reverse = table.lookup key := by
  have hreverse : (keys table.reverse).Nodup := by
    rw [keys_reverse]
    exact List.nodup_reverse.mpr hkeys
  ext value
  rw [← mem_iff_lookup hreverse, ← mem_iff_lookup hkeys, List.mem_reverse]

/-! ## Keeping the entries of a test -/

lemma mem_put {key : String} {value : α} {table : Table α} {entry : String × α}
    (h : entry ∈ put key value table) : entry = (key, value) ∨ entry ∈ table := by
  induction table with
  | nil => simpa [put] using h
  | cons first rest ih =>
    by_cases hfirst : first.1 = key
    · rw [put, if_pos hfirst, List.mem_cons] at h
      exact h.imp_right (List.mem_cons_of_mem _)
    · rw [put, if_neg hfirst, List.mem_cons] at h
      rcases h with rfl | hrest
      · exact Or.inr List.mem_cons_self
      · exact (ih hrest).imp_right (List.mem_cons_of_mem _)

/-- Writing a key leaves no trace in what a test keeps, if the test drops what is written and what
the key had before. -/
lemma filter_put {test : String × α → Bool} {key : String} {value : α} {table : Table α}
    (hvalue : test (key, value) = false)
    (hold : ∀ entry ∈ table, entry.1 = key → test entry = false) :
    (put key value table).filter test = table.filter test := by
  induction table with
  | nil => simp [put, hvalue]
  | cons first rest ih =>
    by_cases hfirst : first.1 = key
    · have hdropped := hold first List.mem_cons_self hfirst
      simp [put, hfirst, hvalue, hdropped]
    · have hrest := ih fun entry hentry => hold entry (List.mem_cons_of_mem _ hentry)
      simp [put, hfirst, List.filter_cons, hrest]

/-- The same of a merge. -/
lemma filter_merge {test : String × α → Bool} {base extra : Table α}
    (hextra : ∀ entry ∈ extra, test entry = false)
    (hbase : ∀ entry ∈ base, entry.1 ∈ extra.keys → test entry = false) :
    (merge base extra).filter test = base.filter test := by
  induction extra generalizing base with
  | nil => rfl
  | cons first rest ih =>
    have hfirst : test first = false := hextra first List.mem_cons_self
    rw [merge_cons, ih (fun entry hentry => hextra entry (List.mem_cons_of_mem _ hentry)),
      filter_put hfirst fun entry hentry hkey => hbase entry hentry (by simp [hkey])]
    intro entry hentry hkey
    rcases mem_put hentry with rfl | hold
    · exact hfirst
    · exact hbase entry hold (List.mem_cons_of_mem _ hkey)

/-- A test of keys keeps or drops a writing as a whole. -/
lemma filter_key_put (test : String → Bool) (key : String) (value : α) (table : Table α) :
    (put key value table).filter (fun entry => test entry.1)
      = if test key then put key value (table.filter fun entry => test entry.1)
        else table.filter fun entry => test entry.1 := by
  induction table with
  | nil => cases hkey : test key <;> simp [put, hkey]
  | cons first rest ih =>
    by_cases hfirst : first.1 = key
    · cases hkey : test key <;> simp [put, hfirst, hkey]
    · rw [put, if_neg hfirst, List.filter_cons, List.filter_cons, ih]
      cases test key <;> cases test first.1 <;> simp [put, hfirst]

/-- A test of keys may be made before a merge as well as after it. -/
lemma filter_key_merge (test : String → Bool) (base extra : Table α) :
    (merge base extra).filter (fun entry => test entry.1)
      = merge (base.filter fun entry => test entry.1) (extra.filter fun entry => test entry.1) := by
  induction extra generalizing base with
  | nil => rfl
  | cons first rest ih =>
    rw [merge_cons, ih, filter_key_put, List.filter_cons]
    cases test first.1 <;> rfl

lemma ofEntries_append (a b : List (String × α)) : ofEntries (a ++ b) = merge (ofEntries a) b :=
  merge_append [] a b

lemma ofEntries_keys_nodup (entries : List (String × α)) : (ofEntries entries).keys.Nodup :=
  merge_keys_nodup (by simp) entries

lemma mem_keys_ofEntries {entries : List (String × α)} {key : String} :
    key ∈ (ofEntries entries).keys ↔ key ∈ keys entries := by
  simp [ofEntries, mem_keys_merge]

lemma merge_of_disjoint {base extra : Table α} (hextra : extra.keys.Nodup)
    (hdisjoint : ∀ key ∈ extra.keys, key ∉ base.keys) : merge base extra = base ++ extra := by
  induction extra generalizing base with
  | nil => simp
  | cons entry rest ih =>
    obtain ⟨hfirst, hrest⟩ := List.nodup_cons.mp hextra
    rw [merge_cons, put_of_not_mem (hdisjoint _ (by simp)), ih hrest]
    · simp
    · intro key hkey
      rw [keys_append, List.mem_append, not_or]
      refine ⟨hdisjoint key (List.mem_cons_of_mem _ hkey), ?_⟩
      rintro hmem
      obtain rfl : key = entry.1 := by simpa [keys] using hmem
      exact hfirst hkey

/-- Entries with distinct keys are a table as they stand. -/
lemma ofEntries_of_nodup {entries : List (String × α)} (h : (keys entries).Nodup) :
    ofEntries entries = entries := by
  rw [ofEntries, merge_of_disjoint h (by simp), List.nil_append]

/-- Entries are a table as they stand only if their keys are distinct. -/
lemma ofEntries_eq_self_iff {entries : List (String × α)} :
    ofEntries entries = entries ↔ (keys entries).Nodup := by
  refine ⟨fun h => ?_, ofEntries_of_nodup⟩
  have hnodup := ofEntries_keys_nodup entries
  rwa [h] at hnodup

/-- The keys of a table stand in the order in which they were first written. -/
lemma ofEntries_keys_pairwise (entries : List (String × α)) :
    (ofEntries entries).keys.Pairwise
      fun a b => (keys entries).idxOf a < (keys entries).idxOf b := by
  induction entries using List.reverseRecOn with
  | nil => exact List.Pairwise.nil
  | append_singleton entries entry ih =>
    have hold : ∀ a ∈ (ofEntries entries).keys,
        (keys (entries ++ [entry])).idxOf a = (keys entries).idxOf a := by
      intro a ha
      rw [keys_append, List.idxOf_append_of_mem (mem_keys_ofEntries.mp ha)]
    have hpairs : (ofEntries entries).keys.Pairwise fun a b =>
        (keys (entries ++ [entry])).idxOf a < (keys (entries ++ [entry])).idxOf b := by
      refine List.Pairwise.imp_of_mem (fun {a b} ha hb hab => ?_) ih
      rwa [hold a ha, hold b hb]
    rw [ofEntries_append, merge_cons, merge_nil, keys_put]
    split <;> rename_i hkey
    · exact hpairs
    · refine List.pairwise_append.mpr ⟨hpairs, List.pairwise_singleton _ _, ?_⟩
      intro a ha b hb
      obtain rfl := List.mem_singleton.mp hb
      -- a key that is new is first written at the end of all writings before it
      have hnew : entry.1 ∉ keys entries := fun h => hkey (mem_keys_ofEntries.mpr h)
      rw [hold a ha, keys_append, List.idxOf_append_of_notMem hnew]
      exact Nat.lt_of_lt_of_le (List.idxOf_lt_length_of_mem (mem_keys_ofEntries.mp ha))
        (Nat.le_add_right _ _)

/-! ## Writing before merging -/

/-- A writing to a key that has its place may be made before a merge that leaves the key alone. -/
lemma merge_put_of_mem {base extra : Table α} {key : String} (hbase : key ∈ base.keys)
    (hextra : key ∉ extra.keys) (value : α) :
    merge (put key value base) extra = put key value (merge base extra) := by
  induction extra generalizing base with
  | nil => rfl
  | cons entry rest ih =>
    rw [keys_cons, List.mem_cons, not_or] at hextra
    rw [merge_cons, merge_cons, ← put_comm hextra.1 hbase,
      ih (mem_keys_put.mpr (Or.inr hbase)) hextra.2]

lemma merge_put (base : Table α) {extra : Table α} (hextra : extra.keys.Nodup) (key : String)
    (value : α) : merge base (put key value extra) = put key value (merge base extra) := by
  induction extra generalizing base with
  | nil => rfl
  | cons entry rest ih =>
    obtain ⟨hfirst, hrest⟩ := List.nodup_cons.mp hextra
    by_cases hkey : entry.1 = key
    · have hmem : key ∈ (base.put entry.1 entry.2).keys := mem_keys_put.mpr (Or.inl hkey.symm)
      rw [put, if_pos hkey, merge_cons, merge_cons,
        ← merge_put_of_mem hmem (hkey ▸ hfirst) value, hkey, put_put_self]
    · rw [put, if_neg hkey, merge_cons, merge_cons, ih _ hrest]

/-- Entries may be made a table before they are merged. -/
lemma merge_ofEntries (base : Table α) (entries : List (String × α)) :
    merge base (ofEntries entries) = merge base entries := by
  induction entries using List.reverseRecOn with
  | nil => rfl
  | append_singleton entries entry ih =>
    rw [ofEntries_append, merge_append, merge_cons, merge_nil,
      merge_put base (ofEntries_keys_nodup entries), ih]
    rfl

end Nomenclator.Table
