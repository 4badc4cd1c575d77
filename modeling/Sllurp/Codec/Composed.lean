/-
# Readings of composed values

A mapping that an application composes of nested mappings is read as a mapping composed
of their readings. For any registry that a table mirrors, the reading of a parameter
comes from that of its fixed part and from those of the parameters inside, added one
after the other; repeated parameters and records without a name pile up in lists.
-/

import Sllurp.Codec.ReadBack

namespace Sllurp.Codec

open Sllurp.Foundations Sllurp.Foundations.Outcome Sllurp.Protocol

/-! ## Mappings with keys that may be missing -/

/-- An entry for a value that may be missing. -/
def optional {α : Type} (key : String) (value : α → Value) (found : Option α) :
    List (String × Value) :=
  found.toList.map fun found => (key, value found)

/-- An entry for a list, unless it is empty. -/
def listed {α : Type} (key : String) (value : α → Value) (items : List α) :
    List (String × Value) :=
  if items.isEmpty then [] else [(key, .list (items.map value))]

namespace Fields

variable (fields : Fields) {α : Type}

theorem entries_set_of_mem {key : String} (hkey : key ∈ fields.keys) (value : Value) :
    (fields.set key value).entries =
      fields.entries.map fun entry => if entry.1 = key then (key, value) else entry := by
  unfold Dict.set
  rw [dif_pos hkey]

/-- Assigning again replaces what was assigned. -/
theorem set_set (key : String) (first second : Value) :
    (fields.set key first).set key second = fields.set key second := by
  have hassigned : key ∈ (fields.set key first).keys := by
    rw [← Dict.get?_isSome, Dict.get?_set_self]
    rfl
  have hsame : ∀ entry : String × Value,
      (if (if entry.1 = key then (key, first) else entry).1 = key then (key, second)
        else if entry.1 = key then (key, first) else entry) =
      if entry.1 = key then (key, second) else entry := by
    intro entry
    by_cases hentry : entry.1 = key
    · simp only [hentry, if_true]
    · simp only [hentry, if_false]
  refine Dict.ext_entries ?_
  rw [entries_set_of_mem _ hassigned]
  by_cases hkey : key ∈ fields.keys
  · rw [entries_set_of_mem _ hkey, entries_set_of_mem _ hkey, List.map_map]
    exact List.map_congr_left fun entry _ => hsame entry
  · rw [Dict.entries_set_of_not_mem hkey, Dict.entries_set_of_not_mem hkey, List.map_append,
      List.map_singleton, if_pos rfl]
    congr 1
    refine (List.map_congr_left fun entry hentry => if_neg ?_).trans (List.map_id _)
    rintro rfl
    exact hkey (List.mem_map_of_mem hentry)

theorem ofList_append (entries others : List (String × Value)) :
    (Dict.ofList (entries ++ others) : Fields) = (Dict.ofList entries : Fields).update others :=
  List.foldl_append ..

@[simp]
theorem update_append (entries others : List (String × Value)) :
    fields.update (entries ++ others) = (fields.update entries).update others :=
  List.foldl_append ..

@[simp]
theorem update_nil : fields.update [] = fields := rfl

@[simp]
theorem update_cons (entry : String × Value) (entries : List (String × Value)) :
    fields.update (entry :: entries) = (fields.set entry.1 entry.2).update entries := rfl

@[simp]
theorem get?_update_optional (name : String) (value : α → Value) (found : Option α)
    (key : String) :
    (fields.update (optional name value found)).get? key =
      if key = name then (found.map value).or (fields.get? key) else fields.get? key := by
  cases found with
  | none => simp [optional, Dict.update]
  | some found =>
    change (fields.set name (value found)).get? key = _
    rw [Dict.get?_set]
    rfl

@[simp]
theorem get?_update_listed (name : String) (value : α → Value) (items : List α)
    (key : String) :
    (fields.update (listed name value items)).get? key =
      if key = name ∧ items ≠ [] then some (.list (items.map value)) else fields.get? key := by
  cases items with
  | nil => simp [listed, Dict.update]
  | cons item items =>
    change (fields.set name (.list ((item :: items).map value))).get? key = _
    rw [Dict.get?_set]
    simp

end Fields

/-- The mapping with these entries. -/
def mapping (entries : List (String × Value)) : Value := Fields.value (.ofList entries)

theorem fields?_mapping (entries : List (String × Value)) :
    (mapping entries).fields? = some (.ofList entries) := Value.fields?_value _

theorem item_mapping_eq (entries : List (String × Value)) (key : String) :
    (mapping entries).item key =
      ((Dict.ofList entries : Fields).get? key).elim (.error (.missingKey key)) .ok := by
  unfold Value.item
  rw [fields?_mapping]
  dsimp only
  cases (Dict.ofList entries : Fields).get? key <;> rfl

theorem contains_value (fields : Fields) (key : String) :
    fields.value.contains key = .ok (fields.get? key).isSome := by
  change Except.ok (fields.entries.any _) = _
  congr 1
  rw [Bool.eq_iff_iff, Dict.get?_isSome]
  simp [Dict.keys]

theorem contains_mapping (entries : List (String × Value)) (key : String) :
    (mapping entries).contains key = .ok ((Dict.ofList entries : Fields).get? key).isSome :=
  contains_value _ key

/-- Entries with different keys are a mapping as they stand. -/
theorem mapping_eq_dict {entries : List (String × Value)}
    (hnodup : (entries.map Prod.fst).Nodup) : mapping entries = .dict entries := by
  have hempty : ((Dict.empty : Fields).entries ++ entries).map Prod.fst =
      entries.map Prod.fst := rfl
  exact congrArg Value.dict (Dict.entries_update (hempty ▸ hnodup))

/-- The parameters of one name under its key. -/
def paramsOf (name : String) (isMultiple : Bool) (found : Option Value) :
    List (String × Value) :=
  match found with
  | none => []
  | some value =>
    if isMultiple then
      match value with
      | .list items => items.map fun item => (name, item)
      | _ => []
    else [(name, value)]

section paramsOf

variable (name : String) {α : Type}

@[simp]
theorem paramsOf_none (isMultiple : Bool) : paramsOf name isMultiple none = [] := rfl

@[simp]
theorem paramsOf_some (value : Value) : paramsOf name false (some value) = [(name, value)] := rfl

@[simp]
theorem paramsOf_list (items : List Value) :
    paramsOf name true (some (.list items)) = items.map fun item => (name, item) := rfl

@[simp]
theorem paramsOf_map (value : α → Value) (found : Option α) :
    paramsOf name false (found.map value) = optional name value found := by
  cases found <;> rfl

@[simp]
theorem paramsOf_listed (value : α → Value) (items : List α) :
    paramsOf name true (if items = [] then none else some (.list (items.map value))) =
      items.map fun item => (name, value item) := by
  cases items with
  | nil => rfl
  | cons item items => simp [paramsOf]

end paramsOf

@[simp]
theorem childrenOf_value (fields : Fields) (name : String) (isMultiple : Bool) :
    childrenOf fields.value name isMultiple = paramsOf name isMultiple (fields.get? name) := by
  unfold childrenOf
  rw [Value.fields?_value]
  rfl

@[simp]
theorem childrenOf_mapping (entries : List (String × Value)) (name : String)
    (isMultiple : Bool) :
    childrenOf (mapping entries) name isMultiple =
      paramsOf name isMultiple ((Dict.ofList entries : Fields).get? name) :=
  childrenOf_value _ name isMultiple

namespace Registry

/-! ## Readings -/

/-- Wherever the value can be written, this is what is read. -/
def Reads (registry : Registry) (forms : String → Form) (name : String) (par : Value)
    (reading : Reading) : Prop :=
  ∀ fuel bytes, registry.encodeParamWith fuel name par = .ok bytes →
    registry.readBackWith forms fuel name par = .ok (some reading)

/-- Storing the readings of parameters one after the other makes one mapping another. -/
inductive Adds (registry : Registry) (forms : String → Form) (nFields : List String) :
    Fields → List (String × Value) → Fields → Prop
  | nil (fields : Fields) : Adds registry forms nFields fields [] fields
  | cons {fields next last : Fields} {name : String} {par : Value} {reading : Reading}
      {params : List (String × Value)} (hreads : registry.Reads forms name par reading)
      (hstore : store nFields fields (reading.param 0) = .ok next)
      (hrest : Adds registry forms nFields next params last) :
      Adds registry forms nFields fields ((name, par) :: params) last

variable {registry : Registry} {forms : String → Form} {nFields : List String}

/-- What parameters were written as is read as what they add. -/
theorem readParameters_of_adds {fuel : ℕ} {fields last : Fields}
    {params : List (String × Value)} (hadds : registry.Adds forms nFields fields params last)
    {bytes : List UInt8} (hwritten : registry.Written fuel params bytes) :
    readParameters (registry.readBackWith forms fuel) nFields fields params = .ok last := by
  induction hadds generalizing bytes with
  | nil fields => rfl
  | cons hreads hstore hrest ih =>
    obtain ⟨first, rest, hfirst, hothers, -⟩ := written_cons_iff.mp hwritten
    rw [readParameters_cons, hreads fuel first hfirst]
    change (store _ _ _ >>= fun _ => _) = _
    rw [hstore]
    exact ih hothers

/-- A reading under the name of a repeated parameter is appended. -/
theorem store_repeated {name : String} (hname : name ∈ nFields) (fields : Fields)
    (value : Value) :
    store nFields fields (Reading.param 0 ⟨some name, value⟩) = fields.append name value :=
  if_pos hname

namespace Adds

theorem append {fields next last : Fields} {params others : List (String × Value)}
    (hparams : registry.Adds forms nFields fields params next)
    (hothers : registry.Adds forms nFields next others last) :
    registry.Adds forms nFields fields (params ++ others) last := by
  induction hparams with
  | nil fields => exact hothers
  | cons hreads hstore _ ih => exact .cons hreads hstore (ih hothers)

/-- A parameter that is not repeated. -/
theorem one (fields : Fields) {name : String} {par value : Value} (hname : name ∉ nFields)
    (hreads : registry.Reads forms name par ⟨some name, value⟩) :
    registry.Adds forms nFields fields [(name, par)] (fields.update [(name, value)]) :=
  .cons hreads (if_neg hname) (.nil _)

/-- A parameter that may be missing. -/
theorem optional {α : Type} (fields : Fields) {name : String} {par value : α → Value}
    {found : Option α} (hname : name ∉ nFields)
    (hreads : ∀ item, found = some item →
      registry.Reads forms name (par item) ⟨some name, value item⟩) :
    registry.Adds forms nFields fields (Codec.optional name par found)
      (fields.update (Codec.optional name value found)) := by
  cases found with
  | none => exact .nil fields
  | some item => exact .one fields hname (hreads item rfl)

/-- A repeated parameter that there is once. -/
theorem single {fields : Fields} {name : String} {par value : Value}
    (hkey : fields.get? name = none) (hname : name ∈ nFields)
    (hreads : registry.Reads forms name par ⟨some name, value⟩) :
    registry.Adds forms nFields fields [(name, par)]
      (fields.update [(name, .list [value])]) := by
  refine .cons hreads ((store_repeated hname fields value).trans ?_) (.nil _)
  unfold Fields.append
  rw [hkey]
  rfl

/-- Readings that are appended to one list. -/
theorem pile {α : Type} {fields : Fields} {name key : String} {par value : α → Value}
    {tag : Option String} {items : List α} (hkey : fields.get? key = none)
    (hstore : ∀ (fields : Fields) (value : Value),
      store nFields fields (Reading.param 0 ⟨tag, value⟩) = fields.append key value)
    (hreads : ∀ item ∈ items, registry.Reads forms name (par item) ⟨tag, value item⟩) :
    registry.Adds forms nFields fields (items.map fun item => (name, par item))
      (fields.update (listed key value items)) := by
  -- The list so far is generalized: it is what was there before and what was appended.
  have hmore : ∀ (items : List α) (before : List Value),
      (∀ item ∈ items, registry.Reads forms name (par item) ⟨tag, value item⟩) →
      registry.Adds forms nFields (fields.set key (.list before))
        (items.map fun item => (name, par item))
        (fields.set key (.list (before ++ items.map value))) := by
    intro items
    induction items with
    | nil =>
      intro before _
      rw [List.map_nil, List.map_nil, List.append_nil]
      exact .nil _
    | cons item items ih =>
      intro before hreads
      have happend : Fields.append (fields.set key (.list before)) key (value item) =
          .ok (fields.set key (.list (before ++ [value item]))) := by
        unfold Fields.append
        rw [Dict.get?_set_self]
        dsimp only
        rw [Fields.set_set]
      have hrest := ih (before ++ [value item]) fun other hother =>
        hreads other (List.mem_cons_of_mem _ hother)
      rw [List.append_assoc] at hrest
      exact .cons (hreads item List.mem_cons_self) ((hstore _ _).trans happend) hrest
  cases items with
  | nil => exact .nil fields
  | cons item items =>
    have hfirst : fields.append key (value item) = .ok (fields.set key (.list [value item])) := by
      unfold Fields.append
      rw [hkey]
    exact .cons (hreads item List.mem_cons_self) ((hstore _ _).trans hfirst)
      (hmore items [value item] fun other hother => hreads other (List.mem_cons_of_mem _ hother))

end Adds

/-! ## Nodes -/

/-- The body of what was written, and the reading of a type that says which it is itself. -/
theorem reads_of_body {name : String} {info : ParamInfo} {encode : Encoder} {par : Value}
    {reading : Reading} (hname : name ≠ "CustomParameter")
    (hparam : registry.param name = some info) (hencoder : info.encode = some encode)
    (hbody : ∀ fuel body, encode (registry.encodeParamWith fuel) info.toLayout par = .ok body →
      settle
        { paramType := info.type
          vendorId := info.vendorId
          subtype := info.subtype
          headerLength := 0
          fullLength := 0 } name body
        ((forms name).read (registry.readBackWith forms fuel) info.toLayout par) =
          .ok reading) :
    registry.Reads forms name par reading := by
  intro fuel bytes hencode
  cases fuel with
  | zero => cases hencode
  | succ fuel =>
    rw [encodeParamWith] at hencode
    rw [readBackWith]
    simp only [hparam, hencoder] at hencode ⊢
    obtain ⟨body, hsome, -⟩ := bind_eq_ok_iff.mp hencode
    rw [hsome, ok_bind, writtenKey_of_ne hname, ok_bind, if_neg hname, hbody fuel body hsome]
    rfl

/-- A type that is read as a value. -/
theorem reads_of_value {name : String} {info : ParamInfo} {encode : Encoder}
    {read : Value → Except Exn Value} {par value : Value} (hname : name ≠ "CustomParameter")
    (hparam : registry.param name = some info) (hencoder : info.encode = some encode)
    (hform : forms name = .value read) (hread : read par = .ok value) :
    registry.Reads forms name par ⟨some name, value⟩ := by
  refine reads_of_body hname hparam hencoder fun fuel body _ => ?_
  rw [hform, Form.read, hread]
  rfl

/-- A type that is read as its fixed part, with what the parameters inside add. -/
theorem reads_of_fields (hmirrors : registry.Mirrors forms) {name : String} {info : ParamInfo}
    {encode : Encoder} {read : Value → Except Exn Fields}
    {inner : Layout → Value → List (String × Value)} {par : Value} {fields last : Fields}
    (hname : name ≠ "CustomParameter") (hparam : registry.param name = some info)
    (hencoder : info.encode = some encode) (hform : forms name = .fields read inner)
    (hread : read par = .ok fields)
    (hadds : registry.Adds forms info.nFields fields (inner info.toLayout par) last) :
    registry.Reads forms name par ⟨some name, last.value⟩ := by
  refine reads_of_body hname hparam hencoder fun fuel body hbody => ?_
  have hagrees := hmirrors.agrees name info encode hparam hencoder hname
  rw [hform] at hagrees ⊢
  cases hagrees with
  | fields hdecoder hdecode =>
    obtain ⟨rest, hwritten, -⟩ := hdecode fuel par body hbody
    rw [Form.read, hread, ok_bind, readParameters_of_adds hadds hwritten]
    rfl

end Registry

end Sllurp.Codec
