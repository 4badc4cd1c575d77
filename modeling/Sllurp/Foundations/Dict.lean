/-
# Insertion-ordered dictionaries

A dictionary is a list of entries whose keys are distinct. Assigning to a key
that is present keeps its position; a new key goes to the end. Two dictionaries
are equal as mappings when they hold the same value under every key, in
whatever order the keys were inserted.
-/

import Mathlib.Data.List.Nodup

namespace Sllurp.Foundations

/-- Entries in insertion order, one for each key. -/
structure Dict (κ ν : Type) where
  entries : List (κ × ν)
  nodup : (entries.map Prod.fst).Nodup

namespace Dict

variable {κ ν μ : Type} [DecidableEq κ]

/-- The dictionary without entries. -/
def empty : Dict κ ν := ⟨[], List.nodup_nil⟩

instance : EmptyCollection (Dict κ ν) := ⟨empty⟩

instance : Inhabited (Dict κ ν) := ⟨empty⟩

def keys (dict : Dict κ ν) : List κ := dict.entries.map Prod.fst

def values (dict : Dict κ ν) : List ν := dict.entries.map Prod.snd

def isEmpty (dict : Dict κ ν) : Bool := dict.entries.isEmpty

/-- The value under a key. -/
def get? (dict : Dict κ ν) (key : κ) : Option ν :=
  (dict.entries.find? fun entry => entry.1 = key).map Prod.snd

def contains (dict : Dict κ ν) (key : κ) : Bool := (dict.get? key).isSome

/-- The value under a key, or a default. -/
def getD (dict : Dict κ ν) (key : κ) (default : ν) : ν := (dict.get? key).getD default

private theorem keys_replace (entries : List (κ × ν)) (key : κ) (value : ν) :
    (entries.map fun entry => if entry.1 = key then (key, value) else entry).map Prod.fst =
      entries.map Prod.fst := by
  induction entries with
  | nil => rfl
  | cons entry entries ih =>
    by_cases hkey : entry.1 = key
    · simp only [List.map_cons, hkey, if_true, ih]
    · simp only [List.map_cons, hkey, if_false, ih]

/-- Assign to a key: in place if it is present, at the end otherwise. -/
def set (dict : Dict κ ν) (key : κ) (value : ν) : Dict κ ν :=
  if hkey : key ∈ dict.keys then
    ⟨dict.entries.map fun entry => if entry.1 = key then (key, value) else entry, by
      rw [keys_replace]
      exact dict.nodup⟩
  else
    ⟨dict.entries ++ [(key, value)], by
      rw [List.map_append]
      exact dict.nodup.append (List.nodup_singleton key) (by simpa [keys] using hkey)⟩

/-- Remove a key, if it is present. -/
def erase (dict : Dict κ ν) (key : κ) : Dict κ ν :=
  ⟨dict.entries.filter fun entry => entry.1 ≠ key,
    dict.nodup.sublist (List.filter_sublist.map Prod.fst)⟩

/-- Assign the entries of a list one after the other. -/
def update (dict : Dict κ ν) (entries : List (κ × ν)) : Dict κ ν :=
  entries.foldl (fun dict entry => dict.set entry.1 entry.2) dict

def ofList (entries : List (κ × ν)) : Dict κ ν := empty.update entries

/-- Assign to a key unless it is present. -/
def setdefault (dict : Dict κ ν) (key : κ) (value : ν) : Dict κ ν :=
  if dict.contains key then dict else dict.set key value

/-- The same keys with a function of their values. -/
def mapValues (dict : Dict κ ν) (f : ν → μ) : Dict κ μ :=
  ⟨dict.entries.map fun entry => (entry.1, f entry.2), by
    rw [List.map_map]
    exact dict.nodup⟩

/-- Whether the keys are exactly the given ones, repetitions and order aside. -/
def hasKeys (dict : Dict κ ν) (keys : List κ) : Bool :=
  keys.all dict.contains && dict.keys.all (· ∈ keys)

/-- Whether both dictionaries have the same keys, with values that `same`
accepts under every key. -/
def agree (same : ν → ν → Bool) (first second : Dict κ ν) : Bool :=
  (first.keys ++ second.keys).all fun key =>
    match first.get? key, second.get? key with
    | some left, some right => same left right
    | _, _ => false

instance [DecidableEq ν] : DecidableEq (Dict κ ν) := fun first second =>
  decidable_of_iff (first.entries = second.entries) <| by
    cases first
    cases second
    simp

@[simp]
theorem get?_empty (key : κ) : (empty : Dict κ ν).get? key = none := rfl

private theorem find?_replace_self {entries : List (κ × ν)} {key : κ} {value : ν}
    (hkey : key ∈ entries.map Prod.fst) :
    (entries.map fun entry => if entry.1 = key then (key, value) else entry).find?
      (fun entry => entry.1 = key) = some (key, value) := by
  induction entries with
  | nil => cases hkey
  | cons entry entries ih =>
    by_cases hentry : entry.1 = key
    · simp [hentry]
    · have htail : key ∈ entries.map Prod.fst := by
        simpa [Ne.symm hentry] using hkey
      simp [hentry, ih htail]

private theorem find?_replace_of_ne {entries : List (κ × ν)} {key other : κ} {value : ν}
    (hother : other ≠ key) :
    (entries.map fun entry => if entry.1 = key then (key, value) else entry).find?
      (fun entry => entry.1 = other) = entries.find? fun entry => entry.1 = other := by
  induction entries with
  | nil => rfl
  | cons entry entries ih =>
    by_cases hentry : entry.1 = key
    · have hne : entry.1 ≠ other := fun heq => hother (heq ▸ hentry)
      simp [hentry, Ne.symm hother, ih]
    · by_cases hfound : entry.1 = other
      · simp [hfound, hother]
      · simp [hentry, hfound, ih]

theorem get?_set (dict : Dict κ ν) (key other : κ) (value : ν) :
    (dict.set key value).get? other = if other = key then some value else dict.get? other := by
  unfold set get?
  by_cases hmem : key ∈ dict.keys
  · rw [dif_pos hmem]
    by_cases hother : other = key
    · subst hother
      rw [find?_replace_self hmem]
      simp
    · rw [find?_replace_of_ne hother, if_neg hother]
  · rw [dif_neg hmem]
    by_cases hother : other = key
    · subst hother
      have hnone : dict.entries.find? (fun entry => entry.1 = other) = none := by
        rw [List.find?_eq_none]
        intro entry hentry hkey
        exact hmem (List.mem_map.mpr ⟨entry, hentry, by simpa using hkey⟩)
      simp [hnone]
    · simp [hother, Ne.symm hother, List.find?_append]

@[simp]
theorem get?_set_self (dict : Dict κ ν) (key : κ) (value : ν) :
    (dict.set key value).get? key = some value := by
  rw [get?_set, if_pos rfl]

/-- A key is present exactly when it has a value. -/
theorem get?_isSome (dict : Dict κ ν) (key : κ) :
    (dict.get? key).isSome = true ↔ key ∈ dict.keys := by
  unfold get? keys
  rw [Option.isSome_map, List.find?_isSome]
  simp

theorem get?_erase (dict : Dict κ ν) (key other : κ) :
    (dict.erase key).get? other = if other = key then none else dict.get? other := by
  unfold erase get?
  rw [List.find?_filter]
  by_cases hother : other = key
  · subst hother
    rw [if_pos rfl, Option.map_eq_none_iff, List.find?_eq_none]
    intro entry _
    simp
  · rw [if_neg hother]
    congr 2
    funext entry
    by_cases hentry : entry.1 = other
    · simp [hentry, hother]
    · simp [hentry]

@[simp]
theorem get?_erase_self (dict : Dict κ ν) (key : κ) : (dict.erase key).get? key = none := by
  rw [get?_erase, if_pos rfl]

theorem mem_keys_iff (dict : Dict κ ν) (key : κ) :
    key ∈ dict.keys ↔ ∃ value, dict.get? key = some value := by
  rw [← get?_isSome, Option.isSome_iff_exists]

/-- Removing the key that was just added restores the dictionary. -/
theorem erase_set_of_not_mem (dict : Dict κ ν) (key : κ) (value : ν) (hkey : key ∉ dict.keys) :
    (dict.set key value).erase key = dict := by
  have hentries : ((dict.set key value).erase key).entries = dict.entries := by
    unfold erase set
    rw [dif_neg hkey]
    simp only [List.filter_append, ne_eq, not_true_eq_false, decide_false, Bool.false_eq_true,
      not_false_eq_true, List.filter_cons_of_neg, List.filter_nil, List.append_nil]
    rw [List.filter_eq_self]
    intro entry hentry
    exact decide_eq_true fun heq => hkey (List.mem_map.mpr ⟨entry, hentry, heq⟩)
  cases dict
  cases hdict : (Dict.set _ key value).erase key
  simp_all

theorem get?_eq_some_iff (dict : Dict κ ν) (key : κ) (value : ν) :
    dict.get? key = some value ↔ (key, value) ∈ dict.entries := by
  unfold get?
  rw [Option.map_eq_some_iff]
  constructor
  · rintro ⟨entry, hentry, rfl⟩
    have hkey : entry.1 = key := by simpa using List.find?_some hentry
    rw [← hkey]
    exact List.mem_of_find?_eq_some hentry
  · intro hmem
    have hsome : (dict.entries.find? fun entry => entry.1 = key).isSome = true := by
      rw [List.find?_isSome]
      exact ⟨(key, value), hmem, decide_eq_true rfl⟩
    obtain ⟨entry, hentry⟩ := Option.isSome_iff_exists.mp hsome
    have hkey : entry.1 = key := by simpa using List.find?_some hentry
    have hsame := List.inj_on_of_nodup_map dict.nodup (List.mem_of_find?_eq_some hentry) hmem hkey
    exact ⟨entry, hentry, by rw [hsame]⟩

/-- Removing the key of the first entry leaves the others. -/
theorem entries_erase_head {dict : Dict κ ν} {key : κ} {value : ν} {rest : List (κ × ν)}
    (hentries : dict.entries = (key, value) :: rest) : (dict.erase key).entries = rest := by
  have hnodup := dict.nodup
  rw [hentries, List.map_cons, List.nodup_cons] at hnodup
  change (dict.entries.filter fun entry => entry.1 ≠ key) = rest
  rw [hentries, List.filter_cons_of_neg (by simp), List.filter_eq_self]
  intro entry hmem
  exact decide_eq_true fun heq => hnodup.1 (List.mem_map.mpr ⟨entry, hmem, heq⟩)

/-- A new key goes to the end. -/
theorem entries_set_of_not_mem {dict : Dict κ ν} {key : κ} (hkey : key ∉ dict.keys) (value : ν) :
    (dict.set key value).entries = dict.entries ++ [(key, value)] := by
  unfold set
  rw [dif_neg hkey]

theorem keys_set_of_not_mem {dict : Dict κ ν} {key : κ} (hkey : key ∉ dict.keys) (value : ν) :
    (dict.set key value).keys = dict.keys ++ [key] := by
  rw [keys, entries_set_of_not_mem hkey, List.map_append]
  rfl

theorem keys_erase [BEq κ] [LawfulBEq κ] (dict : Dict κ ν) (key : κ) :
    (dict.erase key).keys = dict.keys.erase key := by
  have hnodup : dict.keys.Nodup := dict.nodup
  rw [hnodup.erase_eq_filter]
  unfold keys erase
  rw [List.filter_map]
  apply congrArg (List.map Prod.fst)
  apply List.filter_congr
  intro entry _
  by_cases hkey : entry.1 = key <;> simp [hkey]

/-- Putting the entries of a dictionary behind others that share no key. -/
theorem entries_update {dict : Dict κ ν} {entries : List (κ × ν)}
    (hnodup : ((dict.entries ++ entries).map Prod.fst).Nodup) :
    (dict.update entries).entries = dict.entries ++ entries := by
  induction entries generalizing dict with
  | nil => exact (List.append_nil _).symm
  | cons entry entries ih =>
    have hkey : entry.1 ∉ dict.keys := by
      intro hmem
      rw [List.map_append, List.nodup_append] at hnodup
      exact hnodup.2.2 entry.1 hmem entry.1 (by simp) rfl
    have hset := entries_set_of_not_mem hkey entry.2
    have hlater : (((dict.set entry.1 entry.2).entries ++ entries).map Prod.fst).Nodup := by
      rw [hset, List.append_assoc]
      exact hnodup
    change ((dict.set entry.1 entry.2).update entries).entries = _
    rw [ih hlater, hset, List.append_assoc]
    rfl

/-- A dictionary is made of its entries. -/
theorem ofList_entries (dict : Dict κ ν) : ofList dict.entries = dict := by
  have hentries : (ofList dict.entries).entries = dict.entries := entries_update dict.nodup
  generalize ofList dict.entries = other at hentries
  cases other
  cases dict
  cases hentries
  rfl

/-- A new key adds its entry to every count of entries. -/
theorem countP_set_of_not_mem (dict : Dict κ ν) (key : κ) (value : ν) (hkey : key ∉ dict.keys)
    (counted : κ × ν → Bool) :
    (dict.set key value).entries.countP counted =
      dict.entries.countP counted + if counted (key, value) then 1 else 0 := by
  unfold set
  rw [dif_neg hkey, List.countP_append, List.countP_singleton]

/-- Removing a key takes its entry out of every count of entries. -/
theorem countP_erase (dict : Dict κ ν) {key : κ} {value : ν}
    (hget : dict.get? key = some value) (counted : κ × ν → Bool) :
    (dict.erase key).entries.countP counted + (if counted (key, value) then 1 else 0) =
      dict.entries.countP counted := by
  obtain ⟨entries, nodup⟩ := dict
  have hmem : (key, value) ∈ entries := (get?_eq_some_iff _ _ _).mp hget
  clear hget
  unfold erase
  induction entries with
  | nil => cases hmem
  | cons entry entries ih =>
    rw [List.map_cons, List.nodup_cons] at nodup
    rcases List.mem_cons.mp hmem with heq | htail
    · subst heq
      have hrest : entries.filter (fun entry => entry.1 ≠ key) = entries := by
        rw [List.filter_eq_self]
        intro entry hentry
        exact decide_eq_true fun heq => nodup.1 (List.mem_map.mpr ⟨entry, hentry, heq⟩)
      simp only [ne_eq, not_true_eq_false, decide_false, Bool.false_eq_true, not_false_eq_true,
        List.filter_cons_of_neg, List.countP_cons]
      rw [hrest]
    · have hne : entry.1 ≠ key := fun heq =>
        nodup.1 (heq ▸ List.mem_map.mpr ⟨(key, value), htail, rfl⟩)
      have hcount := ih nodup.2 htail
      simp only [ne_eq, hne, not_false_eq_true, decide_true, List.filter_cons_of_pos,
        List.countP_cons] at hcount ⊢
      omega

theorem agree_refl {same : ν → ν → Bool} (hsame : ∀ value, same value value = true)
    (dict : Dict κ ν) : dict.agree same dict = true := by
  simp only [agree, List.all_eq_true, List.mem_append, or_self]
  intro key hkey
  obtain ⟨value, hvalue⟩ := Option.isSome_iff_exists.mp ((dict.get?_isSome key).mpr hkey)
  simp only [hvalue, hsame]

/-! ## Updates that change nothing -/

/-- Assigning a value that is there already changes nothing. -/
theorem set_of_get? {dict : Dict κ ν} {key : κ} {value : ν}
    (hget : dict.get? key = some value) : dict.set key value = dict := by
  have hkey : key ∈ dict.keys := (dict.get?_isSome key).mp (by rw [hget]; rfl)
  have hentries : (dict.entries.map fun entry => if entry.1 = key then (key, value) else entry) =
      dict.entries := by
    refine (List.map_congr_left fun entry hentry => ?_).trans (List.map_id _)
    split
    · rename_i heq
      have hvalue := (dict.get?_eq_some_iff entry.1 entry.2).mpr hentry
      rw [heq, hget] at hvalue
      exact Prod.ext heq.symm (Option.some.inj hvalue)
    · rfl
  unfold set
  rw [dif_pos hkey]
  cases dict
  simp only [mk.injEq]
  exact hentries

theorem get?_setdefault (dict : Dict κ ν) (key other : κ) (value : ν) :
    (dict.setdefault key value).get? other =
      if other = key then some ((dict.get? key).getD value) else dict.get? other := by
  unfold setdefault contains
  cases hget : dict.get? key with
  | some current =>
    rw [if_pos Option.isSome_some]
    split
    · rename_i heq
      rw [heq, hget]
      rfl
    · rfl
  | none =>
    rw [if_neg (by simp), get?_set]
    rfl

theorem setdefault_of_isSome {dict : Dict κ ν} {key : κ}
    (hkey : (dict.get? key).isSome = true) (value : ν) : dict.setdefault key value = dict :=
  if_pos hkey

/-- Assigning entries that are there already changes nothing. -/
theorem update_of_get? {dict : Dict κ ν} {entries : List (κ × ν)}
    (hentries : ∀ entry ∈ entries, dict.get? entry.1 = some entry.2) :
    dict.update entries = dict := by
  induction entries with
  | nil => rfl
  | cons entry entries ih =>
    change (dict.set entry.1 entry.2).update entries = dict
    rw [set_of_get? (hentries entry (List.mem_cons_self ..))]
    exact ih fun other hother => hentries other (List.mem_cons_of_mem _ hother)

/-- What an update assigns last under a key is what it holds. -/
theorem get?_update (dict : Dict κ ν) (entries : List (κ × ν)) (key : κ) :
    (dict.update entries).get? key =
      ((entries.reverse.find? fun entry => entry.1 = key).map Prod.snd).or (dict.get? key) := by
  induction entries generalizing dict with
  | nil => rfl
  | cons entry entries ih =>
    change ((dict.set entry.1 entry.2).update entries).get? key = _
    rw [ih, List.reverse_cons, List.find?_append, get?_set]
    cases hfind : entries.reverse.find? fun entry => entry.1 = key with
    | some found => rfl
    | none =>
      by_cases hkey : key = entry.1
      · subst hkey
        simp
      · simp [hkey, Ne.symm hkey]

theorem contains_ofList {entries : List (κ × ν)} {key : κ} (hkey : key ∈ entries.map Prod.fst) :
    (ofList entries).contains key = true := by
  obtain ⟨entry, hentry, rfl⟩ := List.mem_map.mp hkey
  rw [contains, ofList, get?_update, get?_empty, Option.or_none, Option.isSome_map,
    List.find?_isSome]
  exact ⟨entry, List.mem_reverse.mpr hentry, decide_eq_true rfl⟩

/-- A dictionary has the keys that it is made from. -/
theorem mem_keys_ofList {entries : List (κ × ν)} {key : κ} :
    key ∈ (ofList entries).keys ↔ key ∈ entries.map Prod.fst := by
  constructor
  · intro hkey
    rw [← get?_isSome, ofList, get?_update, get?_empty, Option.or_none, Option.isSome_map,
      List.find?_isSome] at hkey
    obtain ⟨entry, hentry, heq⟩ := hkey
    exact List.mem_map.mpr ⟨entry, List.mem_reverse.mp hentry, of_decide_eq_true heq⟩
  · intro hkey
    rw [← get?_isSome]
    exact contains_ofList hkey

/-- Under each key, an update by a dictionary holds that dictionary's value if it
has one. -/
theorem get?_update_entries (dict other : Dict κ ν) (key : κ) :
    (dict.update other.entries).get? key = (other.get? key).or (dict.get? key) := by
  have hreverse : (other.entries.reverse.map Prod.fst).Nodup := by
    rw [List.map_reverse, List.nodup_reverse]
    exact other.nodup
  have hsame : (⟨other.entries.reverse, hreverse⟩ : Dict κ ν).get? key = other.get? key := by
    ext value
    simp only [get?_eq_some_iff, List.mem_reverse]
  rw [get?_update, ← hsame]
  rfl

omit [DecidableEq κ] in
theorem ext_entries {first second : Dict κ ν} (hentries : first.entries = second.entries) :
    first = second := by
  cases first
  cases second
  congr

omit [DecidableEq κ] in
theorem keys_mapValues (dict : Dict κ ν) (f : ν → μ) : (dict.mapValues f).keys = dict.keys := by
  unfold mapValues keys
  rw [List.map_map]
  rfl

theorem mapValues_erase (dict : Dict κ ν) (f : ν → μ) (key : κ) :
    (dict.erase key).mapValues f = (dict.mapValues f).erase key := by
  apply ext_entries
  change _ = (dict.entries.map _).filter _
  rw [List.filter_map]
  rfl

theorem mapValues_set (dict : Dict κ ν) (f : ν → μ) (key : κ) (value : ν) :
    (dict.set key value).mapValues f = (dict.mapValues f).set key (f value) := by
  have hkeys := keys_mapValues dict f
  apply ext_entries
  unfold set
  by_cases hkey : key ∈ dict.keys
  · rw [dif_pos hkey, dif_pos (hkeys ▸ hkey)]
    unfold mapValues
    simp only [List.map_map]
    apply List.map_congr_left
    intro entry _
    by_cases hentry : entry.1 = key <;> simp [hentry]
  · rw [dif_neg hkey, dif_neg (hkeys ▸ hkey)]
    unfold mapValues
    simp only [List.map_append, List.map_cons, List.map_nil]

theorem get?_mapValues (dict : Dict κ ν) (f : ν → μ) (key : κ) :
    (dict.mapValues f).get? key = (dict.get? key).map f := by
  unfold mapValues get?
  rw [List.find?_map, Option.map_map, Option.map_map]
  rfl

/-! ## Equality as mappings -/

/-- Dictionaries with the same values have the same keys. -/
theorem mem_keys_congr {first second : Dict κ ν} (hget : ∀ key, first.get? key = second.get? key)
    (key : κ) : key ∈ first.keys ↔ key ∈ second.keys := by
  rw [← get?_isSome, ← get?_isSome, hget]

theorem isEmpty_congr {first second : Dict κ ν}
    (hget : ∀ key, first.get? key = second.get? key) : first.isEmpty = second.isEmpty := by
  have hempty : ∀ dict : Dict κ ν, dict.isEmpty = true ↔ ∀ key, key ∉ dict.keys := by
    intro dict
    rw [isEmpty, List.isEmpty_iff, ← List.map_eq_nil_iff, ← List.eq_nil_iff_forall_not_mem]
    rfl
  rw [Bool.eq_iff_iff, hempty, hempty]
  simp only [mem_keys_congr hget]

theorem hasKeys_congr {first second : Dict κ ν}
    (hget : ∀ key, first.get? key = second.get? key) (keys : List κ) :
    first.hasKeys keys = second.hasKeys keys := by
  rw [Bool.eq_iff_iff]
  simp only [hasKeys, contains, Bool.and_eq_true, List.all_eq_true, decide_eq_true_eq, hget,
    mem_keys_congr hget]

/-- Dictionaries with the same values hold the same entries. -/
theorem entries_perm {first second : Dict κ ν}
    (hget : ∀ key, first.get? key = second.get? key) :
    first.entries.Perm second.entries := by
  have hnodup : ∀ dict : Dict κ ν, dict.entries.Nodup := fun dict => dict.nodup.of_map
  rw [List.perm_ext_iff_of_nodup (hnodup first) (hnodup second)]
  rintro ⟨key, value⟩
  rw [← get?_eq_some_iff, ← get?_eq_some_iff, hget]

end Dict

end Sllurp.Foundations
