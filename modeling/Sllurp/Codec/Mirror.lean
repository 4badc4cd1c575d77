/-
# The registry reads what it writes

Each registered type reads its own fields back in the way of its form. Most types are
a record of numbers, alone or in front of parameters; the others have an argument of
their own, since their flags, names and counts are packed in several ways.
-/

import Sllurp.Codec.Forms

namespace Sllurp.Codec

open Sllurp.Foundations Sllurp.Foundations.Wire Sllurp.Foundations.Outcome Sllurp.Protocol

/-! ## The parameters behind a fixed part -/

namespace Registry

variable {registry : Registry}

theorem written_append {fuel : ℕ} {params others : List (String × Value)}
    {bytes more : List UInt8} (hbytes : registry.Written fuel params bytes)
    (hmore : registry.Written fuel others more) :
    registry.Written fuel (params ++ others) (bytes ++ more) := by
  induction params generalizing bytes with
  | nil =>
    rw [written_nil_iff.mp hbytes]
    exact hmore
  | cons param params ih =>
    obtain ⟨first, rest, hfirst, hrest, rfl⟩ := written_cons_iff.mp hbytes
    rw [List.cons_append, List.append_assoc]
    exact written_cons_iff.mpr ⟨first, rest ++ more, hfirst, ih hrest, rfl⟩

/-- What a repeated parameter adds to the data. -/
theorem written_of_items {fuel : ℕ} {name : String} {items : List Value}
    {packed body : List UInt8}
    (hencode : items.foldlM
      (fun data item => do .ok (data ++ (← registry.encodeParamWith fuel name item))) packed =
        Except.ok (ε := Exn) body) :
    ∃ rest, registry.Written fuel (items.map fun item => (name, item)) rest ∧
      body = packed ++ rest := by
  induction items generalizing packed with
  | nil =>
    cases hencode
    exact ⟨[], written_nil_iff.mpr rfl, (List.append_nil _).symm⟩
  | cons item items ih =>
    rw [List.foldlM_cons] at hencode
    obtain ⟨data, hdata, hencode⟩ := bind_eq_ok_iff.mp hencode
    obtain ⟨first, hfirst, hdata⟩ := bind_eq_ok_iff.mp hdata
    cases hdata
    obtain ⟨rest, hrest, rfl⟩ := ih hencode
    exact ⟨first ++ rest, written_cons_iff.mpr ⟨first, rest, hfirst, hrest, rfl⟩,
      List.append_assoc _ _ _⟩

theorem get?_of_item {par value : Value} {name : String} (hitem : par.item name = .ok value) :
    par.fields?.bind (·.get? name) = some value := by
  unfold Value.item at hitem
  cases hfields : par.fields? with
  | none =>
    simp only [hfields] at hitem
    cases hitem
  | some fields =>
    simp only [hfields] at hitem
    cases hget : fields.get? name with
    | none =>
      simp only [hget] at hitem
      cases hitem
    | some found =>
      simp only [hget] at hitem
      cases hitem
      exact hget

theorem get?_of_not_contains {par : Value} {name : String}
    (hcontains : par.contains name = .ok false) : par.fields?.bind (·.get? name) = none := by
  cases par with
  | dict entries =>
    change (Dict.ofList entries).get? name = none
    cases hget : (Dict.ofList entries).get? name with
    | none => rfl
    | some value =>
      have hmem := Dict.mem_keys_ofList.mp ((Dict.mem_keys_iff _ _).mpr ⟨value, hget⟩)
      obtain ⟨entry, hentry, heq⟩ := List.mem_map.mp hmem
      have hnone := List.any_eq_false.mp (Except.ok.inj hcontains) entry hentry
      exact absurd (decide_eq_true heq) hnone
  | _ => rfl

theorem childrenOf_of_none {par : Value} {name : String}
    (hnone : par.fields?.bind (·.get? name) = none) (isMultiple : Bool) :
    childrenOf par name isMultiple = [] := by
  unfold childrenOf
  rw [hnone]

theorem childrenOf_of_some {par value : Value} {name : String}
    (hsome : par.fields?.bind (·.get? name) = some value) :
    childrenOf par name false = [(name, value)] := by
  unfold childrenOf
  rw [hsome]
  rfl

theorem childrenOf_of_list {par : Value} {name : String} {items : List Value}
    (hsome : par.fields?.bind (·.get? name) = some (.list items)) :
    childrenOf par name true = items.map fun item => (name, item) := by
  unfold childrenOf
  rw [hsome]
  rfl

/-- A value that is no list has no repeated parameters. -/
theorem childrenOf_of_not_list {par value : Value} {name : String}
    (hsome : par.fields?.bind (·.get? name) = some value)
    (hlist : ∀ items, value ≠ .list items) : childrenOf par name true = [] := by
  unfold childrenOf
  rw [hsome]
  cases value with
  | list items => exact absurd rfl (hlist items)
  | _ => rfl

/-- What an encoder writes behind a fixed part is what it writes for the parameters in the
value, one after the other. -/
theorem written_of_encodeAllParameters {fuel : ℕ} {layout : Layout} {par : Value}
    {packed body : List UInt8}
    (hencode : encodeAllParameters (registry.encodeParamWith fuel) layout par packed = .ok body) :
    ∃ rest, registry.Written fuel (children layout par) rest ∧ body = packed ++ rest := by
  unfold encodeAllParameters at hencode
  unfold children
  generalize layout.autoFields = fields at hencode ⊢
  induction fields generalizing packed with
  | nil =>
    cases hencode
    exact ⟨[], written_nil_iff.mpr rfl, (List.append_nil _).symm⟩
  | cons field fields ih =>
    obtain ⟨name, isMultiple⟩ := field
    rw [List.foldlM_cons] at hencode
    obtain ⟨data, hdata, hencode⟩ := bind_eq_ok_iff.mp hencode
    obtain ⟨rest, hrest, rfl⟩ := ih hencode
    obtain ⟨isThere, hcontains, hdata⟩ := bind_eq_ok_iff.mp hdata
    rw [List.flatMap_cons]
    cases isThere with
    | false =>
      cases hdata
      rw [childrenOf_of_none (get?_of_not_contains hcontains)]
      exact ⟨rest, hrest, rfl⟩
    | true =>
      obtain ⟨value, hitem, hdata⟩ := bind_eq_ok_iff.mp hdata
      have hsome := get?_of_item hitem
      cases isMultiple with
      | false =>
        obtain ⟨first, hfirst, hdata⟩ := bind_eq_ok_iff.mp hdata
        cases hdata
        rw [childrenOf_of_some hsome]
        refine ⟨first ++ rest, ?_, List.append_assoc _ _ _⟩
        exact written_cons_iff.mpr ⟨first, rest, hfirst, hrest, rfl⟩
      | true =>
        cases value with
        | list items =>
          obtain ⟨first, hfirst, rfl⟩ := written_of_items hdata
          rw [childrenOf_of_list hsome]
          exact ⟨first ++ rest, written_append hfirst hrest, List.append_assoc _ _ _⟩
        | _ =>
          cases hdata
          rw [childrenOf_of_not_list hsome (by simp)]
          exact ⟨rest, hrest, rfl⟩

/-- A type with a fixed part in front of its parameters agrees if its decoder reads the
fixed part, whatever comes behind it. -/
theorem agrees_auto {name : String} {info : ParamInfo} {encode : Encoder} {decode : Decoder}
    {readings : List FieldReading} (hdecoder : info.decode = some decode)
    (hparts : ∀ encodeParam par body, encode encodeParam info.toLayout par = .ok body →
      ∃ packed, encodeAllParameters encodeParam info.toLayout par packed = .ok body ∧
        ∀ rest, decode name (packed ++ rest) =
          (readFields readings par).map fun fields => .rest name fields rest) :
    registry.Agrees name info encode (.auto readings) := by
  refine .fields hdecoder fun fuel par body hbody => ?_
  obtain ⟨packed, hall, hdecode⟩ := hparts _ par body hbody
  obtain ⟨rest, hrest, rfl⟩ := written_of_encodeAllParameters hall
  exact ⟨rest, hrest, hdecode rest⟩

/-- A type without parameters agrees if its decoder reads its body. -/
theorem agrees_record {name : String} {info : ParamInfo} {encode : Encoder} {decode : Decoder}
    {readings : List FieldReading} (hdecoder : info.decode = some decode)
    (hdecode : ∀ encodeParam par body, encode encodeParam info.toLayout par = .ok body →
      decode name body = (readFields readings par).map fun fields => .value fields.value) :
    registry.Agrees name info encode (.record readings) := by
  refine .value hdecoder fun fuel par body hbody => ?_
  rw [hdecode _ par body hbody]
  cases readFields readings par with
  | error raised => rfl
  | ok fields => rfl

end Registry

/-! ## Records of numbers -/

/-- The numbers of a record are read as they were packed. -/
theorem readFields_numbers {args : List String} {par : Value} {values : List Value}
    {found : List ℤ} (hitems : args.mapM par.item = .ok values)
    (hindex : values.map Value.index = found.map .ok) :
    readFields (args.map .number) par = .ok (zipFields args found) := by
  have hentries : (args.map FieldReading.number).mapM
      (fun reading => do .ok (reading.key, ← reading.read par)) =
        Except.ok (ε := Exn) (args.zip (found.map .int)) := by
    induction args generalizing values found with
    | nil => rfl
    | cons arg args ih =>
      rw [List.mapM_cons] at hitems
      obtain ⟨value, hvalue, hitems⟩ := bind_eq_ok_iff.mp hitems
      obtain ⟨others, hothers, hitems⟩ := bind_eq_ok_iff.mp hitems
      cases hitems
      cases found with
      | nil => cases hindex
      | cons first found =>
        obtain ⟨hfirst, hrest⟩ := List.cons.inj hindex
        rw [List.map_cons, List.mapM_cons]
        simp only [FieldReading.number, hvalue, ok_bind, hfirst]
        rw [ih hothers hrest, ok_bind]
        rfl
  unfold readFields
  rw [hentries]
  rfl

/-- A record is read in front of anything. -/
theorem unpackHead_of_pack {formats : List Format} {values : List Value} {packed : List UInt8}
    (hpack : packStruct formats values = .ok packed) (rest : List UInt8) :
    ∃ record : Record formats, values.map Value.index = (numbers record).map .ok ∧
      holdsAll formats record ∧ unpackHead formats (packed ++ rest) = .ok record ∧
      (packed ++ rest).drop (recordSize formats) = rest := by
  obtain ⟨record, hvalues, hholds, hunpack⟩ := unpackHead_append hpack rest
  exact ⟨record, hvalues, hholds, hunpack, List.drop_left' (length_of_packStruct hpack)⟩

theorem record_agrees {name : String} {info : ParamInfo} {formats : List Format}
    {args : List String} (hargs : args ≠ [])
    (hdecoder : info.decode = some (basicParamDecodeGenerator formats args)) :
    registry.Agrees name info (basicParamEncodeGenerator formats args)
      (.record (args.map .number)) := by
  refine Registry.agrees_record hdecoder fun encodeParam par body hbody => ?_
  obtain ⟨values, hitems, hpack⟩ := bind_eq_ok_iff.mp hbody
  obtain ⟨record, hvalues, -, hunpack⟩ := unpackStruct_of_packStruct hpack
  rw [readFields_numbers hitems hvalues, basicParamDecodeGenerator, hunpack, ok_bind,
    if_neg (by simpa using hargs)]
  rfl

theorem auto_agrees {name : String} {info : ParamInfo} {formats : List Format}
    {args : List String}
    (hdecoder : info.decode = some (basicAutoParamDecodeGenerator formats args)) :
    registry.Agrees name info (basicAutoParamEncodeGenerator formats args)
      (.auto (args.map .number)) := by
  refine Registry.agrees_auto hdecoder fun encodeParam par body hbody => ?_
  obtain ⟨values, hitems, hbody⟩ := bind_eq_ok_iff.mp hbody
  obtain ⟨packed, hpack, hall⟩ := bind_eq_ok_iff.mp hbody
  refine ⟨packed, hall, fun rest => ?_⟩
  obtain ⟨record, hvalues, -, hunpack, hdrop⟩ := unpackHead_of_pack hpack rest
  rw [readFields_numbers hitems hvalues, basicAutoParamDecodeGenerator]
  change (unpackHead formats (packed ++ rest) >>= _) = _
  rw [hunpack, ok_bind, hdrop]
  rfl

theorem all_agrees {name : String} {info : ParamInfo} (hdecoder : info.decode = some decodeAll) :
    registry.Agrees name info encodeAll (.auto []) :=
  Registry.agrees_auto hdecoder fun _ _ _ hbody => ⟨[], hbody, fun _ => rfl⟩

theorem nothing_agrees {name : String} {info : ParamInfo}
    (hdecoder : info.decode = some decodeAll) :
    registry.Agrees name info encodeNothing (.alone []) := by
  refine .fields hdecoder fun fuel par body hbody => ?_
  cases hbody
  exact ⟨[], Registry.written_nil_iff.mpr rfl, rfl⟩

/-! ## Names and flags -/

/-- The name of a code is looked up under the code again. -/
theorem exists_of_code {names : Enumeration} {value coded : Value}
    (hnames : ∀ entry ∈ names, names.name? entry.2 = some entry.1)
    (hcode : names.code value = .ok coded) :
    ∃ text number, value = .text text ∧ coded = .int number ∧
      names.name number = .ok (.text text) := by
  obtain ⟨found, hfound, hcode⟩ := bind_eq_ok_iff.mp hcode
  cases value with
  | text text =>
    cases hfound
    cases hlookup : names.lookup text with
    | none =>
      simp only [hlookup] at hcode
      cases hcode
    | some number =>
      simp only [hlookup] at hcode
      cases hcode
      refine ⟨text, number, rfl, rfl, ?_⟩
      unfold Enumeration.name
      rw [hnames (text, number) (mem_of_lookup hlookup)]
  | list items => cases hfound
  | dict entries => cases hfound
  | _ =>
    cases hfound
    cases hcode

@[simp]
theorem index_flagBit (isSet : Bool) (position : ℕ) :
    (flagBit isSet position).index = .ok (if isSet then 2 ^ position else 0) := rfl

/-- A flag is read at the position where it was set. -/
theorem flag_of_flagBit (isSet : Bool) (position : ℕ) :
    flag (if isSet then 2 ^ position else 0) position = .bool isSet := by
  unfold flag
  cases isSet with
  | false => simp
  | true =>
    have hnat : ((2 : ℤ) ^ position).toNat = 2 ^ position := by
      rw [← Int.toNat_natCast (2 ^ position)]
      norm_cast
    simp [hnat, Nat.testBit_two_pow_self]

/-- The values of the fields, one after the other. -/
theorem mapM_readings_cons (reading : FieldReading) (readings : List FieldReading) (par : Value) :
    (reading :: readings).mapM (fun reading => do
      Except.ok (ε := Exn) (reading.key, ← reading.read par)) = (do
        let value ← reading.read par
        let entries ← readings.mapM fun reading => do .ok (reading.key, ← reading.read par)
        .ok ((reading.key, value) :: entries)) := by
  rw [List.mapM_cons]
  cases reading.read par with
  | error raised => rfl
  | ok value => rfl

theorem encodeROSpec_agrees {info : ParamInfo}
    (hdecoder : info.decode = some (basicAutoParamDecodeGenerator [.uint, .ubyte, .ubyte]
      ["ROSpecID", "Priority", "CurrentState"])) :
    registry.Agrees "ROSpec" info encodeROSpec
      (.auto [.number "ROSpecID", .number "Priority", .code Names.roSpecState "CurrentState"]) := by
  refine Registry.agrees_auto hdecoder fun encodeParam par body hbody => ?_
  simp only [encodeROSpec, bind_eq_ok_iff] at hbody
  obtain ⟨stateName, hitem, state, hstate, id, hid, priority, hpriority, packed, hpack, hall⟩ :=
    hbody
  refine ⟨packed, hall, fun rest => ?_⟩
  obtain ⟨⟨idNumber, priorityNumber, stateNumber, _⟩, hvalues, -, hunpack, hdrop⟩ :=
    unpackHead_of_pack hpack rest
  obtain ⟨text, number, rfl, rfl, -⟩ := exists_of_code (by decide) hstate
  simp only [List.map_cons, List.map_nil, numbers, List.cons.injEq, Value.index_int,
    Except.ok.injEq, and_true] at hvalues
  obtain ⟨hidNumber, hpriorityNumber, rfl⟩ := hvalues
  simp only [readFields, mapM_readings_cons, FieldReading.number, FieldReading.code, hitem, hid,
    hpriority, hidNumber, hpriorityNumber, hstate, ok_bind, List.mapM_nil, pure_eq_ok, Except.map]
  unfold basicAutoParamDecodeGenerator
  change (unpackHead _ (packed ++ rest) >>= _) = _
  rw [hunpack, ok_bind, hdrop]
  rfl

theorem encodeGPITriggerValue_agrees {info : ParamInfo}
    (hdecoder : info.decode = some decodeGPITriggerValue) :
    registry.Agrees "GPITriggerValue" info encodeGPITriggerValue
      (.record [.number "GPIPortNum", .isSet "GPIEvent", .whole "Timeout"]) := by
  refine Registry.agrees_record hdecoder fun encodeParam par body hbody => ?_
  simp only [encodeGPITriggerValue, bind_eq_ok_iff] at hbody
  obtain ⟨event, hevent, port, hport, timeout, htimeout, number, hnumber, hpack⟩ := hbody
  obtain ⟨⟨portNumber, eventBits, timeoutNumber, _⟩, hvalues, -, hunpack, -⟩ :=
    unpackHead_of_pack hpack []
  simp only [List.map_cons, List.map_nil, numbers, List.cons.injEq, Value.index_int,
    Except.ok.injEq, and_true, index_flagBit] at hvalues
  obtain ⟨hportNumber, rfl, rfl⟩ := hvalues
  rw [List.append_nil] at hunpack
  simp only [readFields, mapM_readings_cons, FieldReading.number, FieldReading.isSet,
    FieldReading.whole, hevent, hport, htimeout, hnumber, hportNumber, ok_bind, List.mapM_nil,
    pure_eq_ok, Except.map, decodeGPITriggerValue, hunpack, flag_of_flagBit]

theorem encodeROSpecStartTrigger_agrees {info : ParamInfo}
    (hdecoder : info.decode =
      some (basicAutoParamDecodeGenerator [.ubyte] ["ROSpecStartTriggerType"])) :
    registry.Agrees "ROSpecStartTrigger" info encodeROSpecStartTrigger
      (.auto [.code Names.roSpecStartTriggerType "ROSpecStartTriggerType"]) := by
  refine Registry.agrees_auto hdecoder fun encodeParam par body hbody => ?_
  simp only [encodeROSpecStartTrigger, bind_eq_ok_iff] at hbody
  obtain ⟨triggerName, hitem, triggerType, htype, packed, hpack, hall⟩ := hbody
  refine ⟨packed, hall, fun rest => ?_⟩
  obtain ⟨⟨found, _⟩, hvalues, -, hunpack, hdrop⟩ := unpackHead_of_pack hpack rest
  obtain ⟨text, number, rfl, rfl, -⟩ := exists_of_code (by decide) htype
  simp only [List.map_cons, List.map_nil, numbers, List.cons.injEq, Value.index_int,
    Except.ok.injEq, and_true] at hvalues
  subst hvalues
  simp only [readFields, mapM_readings_cons, FieldReading.code, hitem, htype, ok_bind,
    List.mapM_nil, pure_eq_ok, Except.map]
  unfold basicAutoParamDecodeGenerator
  change (unpackHead _ (packed ++ rest) >>= _) = _
  rw [hunpack, ok_bind, hdrop]
  rfl

theorem encodeROSpecStopTrigger_agrees {info : ParamInfo}
    (hdecoder : info.decode = some decodeROSpecStopTrigger) :
    registry.Agrees "ROSpecStopTrigger" info encodeROSpecStopTrigger
      (.auto [.same "ROSpecStopTriggerType", .whole "DurationTriggerValue"]) := by
  refine Registry.agrees_auto hdecoder fun encodeParam par body hbody => ?_
  simp only [encodeROSpecStopTrigger, bind_eq_ok_iff] at hbody
  obtain ⟨triggerName, hitem, triggerType, htype, value, hvalue, duration, hduration, packed,
    hpack, hall⟩ := hbody
  refine ⟨packed, hall, fun rest => ?_⟩
  obtain ⟨⟨found, foundDuration, _⟩, hvalues, -, hunpack, hdrop⟩ := unpackHead_of_pack hpack rest
  obtain ⟨text, number, rfl, rfl, hname⟩ := exists_of_code (by decide) htype
  simp only [List.map_cons, List.map_nil, numbers, List.cons.injEq, Value.index_int,
    Except.ok.injEq, and_true] at hvalues
  obtain ⟨rfl, rfl⟩ := hvalues
  simp only [readFields, mapM_readings_cons, FieldReading.same, FieldReading.whole, hitem, hvalue,
    hduration, ok_bind, List.mapM_nil, pure_eq_ok, Except.map, decodeROSpecStopTrigger, hunpack,
    hname]
  rw [show (packed ++ rest).drop 5 = rest from hdrop]

/-- The elements of an array are read as they were packed. -/
theorem decodeArray_of_pack {format : Format} {found : List ℤ} {parts : List (List UInt8)}
    (hparts : found.mapM (fun number => packStruct [format] [.int number]) = .ok parts)
    (rest : List UInt8) :
    decodeArray format found.length (parts.flatten ++ rest) = .ok (found.map .int) ∧
      parts.flatten.length = format.size * found.length := by
  induction found generalizing parts with
  | nil =>
    cases hparts
    exact ⟨rfl, rfl⟩
  | cons number found ih =>
    rw [List.mapM_cons] at hparts
    obtain ⟨part, hpart, hparts⟩ := bind_eq_ok_iff.mp hparts
    obtain ⟨others, hothers, hparts⟩ := bind_eq_ok_iff.mp hparts
    cases hparts
    obtain ⟨hdecode, hlength⟩ := ih hothers
    have hsize : part.length = format.size := length_of_packStruct hpart
    obtain ⟨⟨read, _⟩, hvalues, -, hunpack⟩ := unpackStruct_of_packStruct hpart
    simp only [List.map_cons, List.map_nil, numbers, List.cons.injEq, Value.index_int,
      Except.ok.injEq, and_true] at hvalues
    subst hvalues
    constructor
    · rw [List.flatten_cons, List.append_assoc, List.length_cons, decodeArray,
        List.take_left' hsize, List.drop_left' hsize, hunpack, ok_bind]
      simp only [hdecode, ok_bind, List.map_cons]
    · rw [List.flatten_cons, List.length_append, hsize, hlength, List.length_cons]
      ring

/-- Elements that are converted before they are packed. -/
theorem exists_of_mapM_pack {format : Format} {convert : Value → Except Exn ℤ}
    {items : List Value} {parts : List (List UInt8)}
    (hparts : items.mapM (fun item => do packStruct [format] [.int (← convert item)]) =
      .ok parts) :
    ∃ found : List ℤ, found.length = items.length ∧
      items.mapM (fun item => do .ok (.int (← convert item))) =
        Except.ok (ε := Exn) (found.map Value.int) ∧
      found.mapM (fun number => packStruct [format] [.int number]) = .ok parts := by
  induction items generalizing parts with
  | nil =>
    cases hparts
    exact ⟨[], rfl, rfl, rfl⟩
  | cons item items ih =>
    rw [List.mapM_cons] at hparts
    obtain ⟨part, hpart, hparts⟩ := bind_eq_ok_iff.mp hparts
    obtain ⟨others, hothers, hparts⟩ := bind_eq_ok_iff.mp hparts
    cases hparts
    obtain ⟨number, hnumber, hpart⟩ := bind_eq_ok_iff.mp hpart
    obtain ⟨found, hlength, hread, hpack⟩ := ih hothers
    refine ⟨number :: found, by rw [List.length_cons, List.length_cons, hlength], ?_, ?_⟩
    · rw [List.mapM_cons, hnumber, ok_bind, ok_bind, hread]
      rfl
    · rw [List.mapM_cons, hpart, ok_bind, hpack]
      rfl

theorem encodeAISpec_agrees {info : ParamInfo} (hdecoder : info.decode = some decodeAISPec) :
    registry.Agrees "AISpec" info encodeAISpec (.auto [.antennaCount, .antennas]) := by
  refine Registry.agrees_auto hdecoder fun encodeParam par body hbody => ?_
  simp only [encodeAISpec, bind_eq_ok_iff] at hbody
  obtain ⟨value, hvalue, items, hitems, count, hcount, ids, hids, hall⟩ := hbody
  refine ⟨count ++ ids.flatten, hall, fun rest => ?_⟩
  obtain ⟨found, hlength, hread, hpack⟩ := exists_of_mapM_pack hids
  obtain ⟨hdecode, hsize⟩ := decodeArray_of_pack hpack []
  obtain ⟨⟨number, _⟩, hvalues, -, hunpack, hdrop⟩ :=
    unpackHead_of_pack hcount (ids.flatten ++ rest)
  simp only [List.map_cons, List.map_nil, numbers, List.cons.injEq, Value.index_int,
    Except.ok.injEq, and_true] at hvalues
  subst hvalues
  have hwhole : (ids.flatten ++ rest).take (2 * items.length) = ids.flatten :=
    List.take_left' (by rw [hsize, hlength]; rfl)
  have hrest : (count ++ (ids.flatten ++ rest)).drop (2 + 2 * items.length) = rest := by
    rw [← List.drop_drop, show (count ++ (ids.flatten ++ rest)).drop 2 = _ from hdrop]
    exact List.drop_left' (by rw [hsize, hlength]; rfl)
  have harray : wholeArray .ushort ids.flatten = .ok (found.map .int) := by
    rw [List.append_nil] at hdecode
    rw [wholeArray, hsize, Nat.mul_div_cancel_left _ (by decide)]
    exact hdecode
  simp only [readFields, mapM_readings_cons, FieldReading.antennaCount, FieldReading.antennas,
    hvalue, hitems, hread, ok_bind, List.mapM_nil, pure_eq_ok, Except.map, decodeAISPec,
    List.append_assoc, hunpack, Int.toNat_natCast, hrest]
  rw [show (count ++ (ids.flatten ++ rest)).drop 2 = _ from hdrop, hwhole, harray]
  rfl

theorem encodeAISpecStopTrigger_agrees {info : ParamInfo}
    (hdecoder : info.decode = some (basicAutoParamDecodeGenerator [.ubyte, .uint]
      ["AISpecStopTriggerType", "DurationTriggerValue"])) :
    registry.Agrees "AISpecStopTrigger" info encodeAISpecStopTrigger
      (.auto [.code Names.aiSpecStopTriggerType "AISpecStopTriggerType",
        .optionalDuration]) := by
  refine Registry.agrees_auto hdecoder fun encodeParam par body hbody => ?_
  simp only [encodeAISpecStopTrigger, bind_eq_ok_iff] at hbody
  obtain ⟨triggerName, hitem, triggerType, htype, value, hvalue, duration, hduration, packed,
    hpack, hall⟩ := hbody
  refine ⟨packed, hall, fun rest => ?_⟩
  obtain ⟨⟨found, foundDuration, _⟩, hvalues, -, hunpack, hdrop⟩ := unpackHead_of_pack hpack rest
  obtain ⟨text, number, rfl, rfl, -⟩ := exists_of_code (by decide) htype
  simp only [List.map_cons, List.map_nil, numbers, List.cons.injEq, Value.index_int,
    Except.ok.injEq, and_true] at hvalues
  obtain ⟨rfl, rfl⟩ := hvalues
  simp only [readFields, mapM_readings_cons, FieldReading.code, FieldReading.optionalDuration,
    hitem, htype, hvalue, hduration, ok_bind, List.mapM_nil, pure_eq_ok, Except.map]
  unfold basicAutoParamDecodeGenerator
  change (unpackHead _ (packed ++ rest) >>= _) = _
  rw [hunpack, ok_bind, hdrop]
  rfl

theorem encodeTagObservationTrigger_agrees {info : ParamInfo}
    (hdecoder : info.decode = some decodeTagObservationTrigger) :
    registry.Agrees "TagObservationTrigger" info encodeTagObservationTrigger
      (.record [.same "TriggerType", .whole "NumberOfTags", .whole "NumberOfAttempts",
        .whole "T", .whole "Timeout"]) := by
  refine Registry.agrees_record hdecoder fun encodeParam par body hbody => ?_
  simp only [encodeTagObservationTrigger, bind_eq_ok_iff] at hbody
  obtain ⟨triggerName, hitem, triggerType, htype, tagsValue, htagsValue, tags, htags,
    attemptsValue, hattemptsValue, attempts, hattempts, tValue, htValue, t, ht, timeoutValue,
    htimeoutValue, timeout, htimeout, hpack⟩ := hbody
  obtain ⟨⟨found, _, foundTags, foundAttempts, foundT, foundTimeout, _⟩, hvalues, -, hunpack⟩ :=
    unpackStruct_of_packStruct hpack
  obtain ⟨text, number, rfl, rfl, hname⟩ := exists_of_code (by decide) htype
  simp only [List.map_cons, List.map_nil, numbers, List.cons.injEq, Value.index_int,
    Except.ok.injEq, and_true] at hvalues
  obtain ⟨rfl, -, rfl, rfl, rfl, rfl⟩ := hvalues
  simp only [readFields, mapM_readings_cons, FieldReading.same, FieldReading.whole, hitem,
    htagsValue, htags, hattemptsValue, hattempts, htValue, ht, htimeoutValue, htimeout, ok_bind,
    List.mapM_nil, pure_eq_ok, Except.map, decodeTagObservationTrigger, hunpack, hname]

/-! ## Reader configuration -/

theorem encodeGPIPortCurrentState_agrees {info : ParamInfo}
    (hdecoder : info.decode = some decodeGPIPortCurrentState) :
    registry.Agrees "GPIPortCurrentState" info encodeGPIPortCurrentState
      (.record [.number "GPIPortNum", .constant "GPIState" (.int 0), .isSet "GPIConfig"]) := by
  refine Registry.agrees_record hdecoder fun encodeParam par body hbody => ?_
  simp only [encodeGPIPortCurrentState, bind_eq_ok_iff] at hbody
  obtain ⟨config, hconfig, port, hport, hpack⟩ := hbody
  obtain ⟨⟨portNumber, flags, state, _⟩, hvalues, -, hunpack⟩ := unpackStruct_of_packStruct hpack
  simp only [List.map_cons, List.map_nil, numbers, List.cons.injEq, Value.index_int,
    Except.ok.injEq, and_true, index_flagBit] at hvalues
  obtain ⟨hportNumber, rfl, rfl⟩ := hvalues
  simp only [readFields, mapM_readings_cons, FieldReading.number, FieldReading.constant,
    FieldReading.isSet, hconfig, hport, hportNumber, ok_bind, List.mapM_nil, pure_eq_ok,
    Except.map, decodeGPIPortCurrentState, hunpack, flag_of_flagBit]

theorem encodeC1G2InventoryCommand_agrees {info : ParamInfo}
    (hdecoder : info.decode = some decodeC1G2InventoryCommand) :
    registry.Agrees "C1G2InventoryCommand" info encodeC1G2InventoryCommand
      (.auto [.isSet "TagInventoryStateAware"]) := by
  refine Registry.agrees_auto hdecoder fun encodeParam par body hbody => ?_
  simp only [encodeC1G2InventoryCommand, bind_eq_ok_iff] at hbody
  obtain ⟨aware, haware, packed, hpack, hall⟩ := hbody
  refine ⟨packed, hall, fun rest => ?_⟩
  obtain ⟨⟨flags, _⟩, hvalues, -, hunpack, hdrop⟩ := unpackHead_of_pack hpack rest
  simp only [List.map_cons, List.map_nil, numbers, List.cons.injEq, Except.ok.injEq, and_true,
    index_flagBit] at hvalues
  subst hvalues
  simp only [readFields, mapM_readings_cons, FieldReading.isSet, haware, ok_bind, List.mapM_nil,
    pure_eq_ok, Except.map, decodeC1G2InventoryCommand, hunpack, flag_of_flagBit]
  rw [show (packed ++ rest).drop 1 = rest from hdrop]

theorem encodeC1G2SingulationControl_agrees {info : ParamInfo}
    (hdecoder : info.decode = some decodeC1G2SingulationControl) :
    registry.Agrees "C1G2SingulationControl" info encodeC1G2SingulationControl
      (.alone [.number "TagPopulation", .number "TagTransitTime", .session]) := by
  refine .fields hdecoder fun fuel par body hbody => ⟨[], Registry.written_nil_iff.mpr rfl, ?_⟩
  simp only [encodeC1G2SingulationControl, bind_eq_ok_iff] at hbody
  obtain ⟨session, hsession, shifted, hshifted, population, hpopulation, transit, htransit,
    hpack⟩ := hbody
  obtain ⟨⟨bits, count, time, _⟩, hvalues, -, hunpack, hdrop⟩ := unpackHead_of_pack hpack []
  simp only [List.map_cons, List.map_nil, numbers, List.cons.injEq, and_true] at hvalues
  obtain ⟨hbits, hcount, htime⟩ := hvalues
  rw [List.append_nil] at hunpack hdrop
  simp only [readFields, mapM_readings_cons, FieldReading.number, FieldReading.session, hsession,
    hshifted, hbits, hpopulation, hcount, htransit, htime, ok_bind, List.mapM_nil, pure_eq_ok,
    Except.map, decodeC1G2SingulationControl, hunpack]
  rw [show body.drop 7 = [] from hdrop]

theorem encodeROReportSpec_agrees {info : ParamInfo}
    (hdecoder : info.decode = some decodeROReportSpec) :
    registry.Agrees "ROReportSpec" info encodeROReportSpec
      (.auto [.whole "N", .same "ROReportTrigger"]) := by
  refine Registry.agrees_auto hdecoder fun encodeParam par body hbody => ?_
  simp only [encodeROReportSpec, bind_eq_ok_iff] at hbody
  obtain ⟨triggerName, hitem, trigger, htrigger, value, hvalue, n, hn, packed, hpack, hall⟩ :=
    hbody
  refine ⟨packed, hall, fun rest => ?_⟩
  obtain ⟨⟨found, foundN, _⟩, hvalues, -, hunpack, hdrop⟩ := unpackHead_of_pack hpack rest
  obtain ⟨text, number, rfl, rfl, hname⟩ := exists_of_code (by decide) htrigger
  simp only [List.map_cons, List.map_nil, numbers, List.cons.injEq, Value.index_int,
    Except.ok.injEq, and_true] at hvalues
  obtain ⟨rfl, rfl⟩ := hvalues
  simp only [readFields, mapM_readings_cons, FieldReading.same, FieldReading.whole, hitem, hvalue,
    hn, ok_bind, List.mapM_nil, pure_eq_ok, Except.map, decodeROReportSpec, hunpack, hname]
  rw [show (packed ++ rest).drop 3 = rest from hdrop]

theorem encodeEventNotificationState_agrees {info : ParamInfo}
    (hdecoder : info.decode = some decodeEventNotificationState) :
    registry.Agrees "EventNotificationState" info encodeEventNotificationState
      (.record [.same "EventType", .isSet "NotificationState"]) := by
  refine Registry.agrees_record hdecoder fun encodeParam par body hbody => ?_
  simp only [encodeEventNotificationState, bind_eq_ok_iff] at hbody
  obtain ⟨eventName, hitem, event, hevent, state, hstate, hpack⟩ := hbody
  obtain ⟨⟨found, flags, _⟩, hvalues, -, hunpack⟩ := unpackStruct_of_packStruct hpack
  obtain ⟨text, number, rfl, rfl, hname⟩ := exists_of_code (by decide) hevent
  simp only [List.map_cons, List.map_nil, numbers, List.cons.injEq, Value.index_int,
    Except.ok.injEq, and_true, index_flagBit] at hvalues
  obtain ⟨rfl, rfl⟩ := hvalues
  simp only [readFields, mapM_readings_cons, FieldReading.same, FieldReading.isSet, hitem, hstate,
    ok_bind, List.mapM_nil, pure_eq_ok, Except.map, decodeEventNotificationState, hunpack, hname,
    flag_of_flagBit]

/-- The states of the events that have a code are the parameters of the specification. -/
theorem written_of_states {fuel : ℕ} {entries : List (String × Value)} {packed body : List UInt8}
    (hencode : entries.foldlM
      (fun data entry =>
        if isKnownEvent entry then do
          .ok (data ++
            (← registry.encodeParamWith fuel "EventNotificationState" (eventState entry)))
        else .ok data)
      packed = Except.ok (ε := Exn) body) :
    ∃ rest, registry.Written fuel
      ((entries.filter isKnownEvent).map fun entry =>
        ("EventNotificationState", eventState entry)) rest ∧ body = packed ++ rest := by
  induction entries generalizing packed with
  | nil =>
    cases hencode
    exact ⟨[], Registry.written_nil_iff.mpr rfl, (List.append_nil _).symm⟩
  | cons entry entries ih =>
    rw [List.foldlM_cons] at hencode
    obtain ⟨data, hdata, hencode⟩ := bind_eq_ok_iff.mp hencode
    obtain ⟨rest, hrest, rfl⟩ := ih hencode
    cases hknown : isKnownEvent entry with
    | false =>
      rw [hknown, if_neg Bool.false_ne_true] at hdata
      cases hdata
      rw [List.filter_cons_of_neg (by rw [hknown]; exact Bool.false_ne_true)]
      exact ⟨rest, hrest, rfl⟩
    | true =>
      rw [hknown, if_pos rfl] at hdata
      obtain ⟨first, hfirst, hdata⟩ := bind_eq_ok_iff.mp hdata
      cases hdata
      rw [List.filter_cons_of_pos hknown]
      refine ⟨first ++ rest, ?_, List.append_assoc _ _ _⟩
      exact Registry.written_cons_iff.mpr ⟨first, rest, hfirst, hrest, rfl⟩

theorem encodeReaderEventNotificationSpec_agrees {info : ParamInfo}
    (hdecoder : info.decode = some decodeAll) :
    registry.Agrees "ReaderEventNotificationSpec" info encodeReaderEventNotificationSpec
      (.fields (readFields []) fun _ par => eventStates par) := by
  refine .fields hdecoder fun fuel par body hbody => ?_
  simp only [encodeReaderEventNotificationSpec, bind_eq_ok_iff] at hbody
  obtain ⟨value, hvalue, entries, hentries, hbody⟩ := hbody
  cases value with
  | dict states =>
    cases hentries
    obtain ⟨rest, hrest, hbytes⟩ := written_of_states hbody
    rw [List.nil_append] at hbytes
    subst hbytes
    refine ⟨body, ?_, rfl⟩
    unfold eventStates
    simp only [hvalue]
    exact hrest
  | _ => cases hentries

/-! ## Selectors -/

/-- The flags of a selector from an index on, each at its own position. -/
def weight (top : ℕ) : List Bool → ℕ → ℕ
  | [], _ => 0
  | isSet :: areSet, index =>
    (if isSet then 2 ^ (top - index) else 0) + weight top areSet (index + 1)

theorem selectorFlags_eq_weight (areSet : List Bool) (top : ℕ) :
    selectorFlags areSet top = weight top areSet 0 := by
  have hfold : ∀ (index : ℕ) (flags : ℤ),
      (areSet.zipIdx index).foldl
        (fun flags entry => if entry.1 then flags + 2 ^ (top - entry.2) else flags) flags =
          flags + weight top areSet index := by
    induction areSet with
    | nil => exact fun _ flags => (Int.add_zero flags).symm
    | cons isSet areSet ih =>
      intro index flags
      rw [List.zipIdx_cons, List.foldl_cons, ih, weight]
      cases isSet with
      | false => simp
      | true =>
        push_cast
        simp only [if_true]
        ring
  exact (hfold 0 0).trans (Int.zero_add _)

theorem weight_lt {top : ℕ} {areSet : List Bool} {index : ℕ}
    (hlength : index + areSet.length ≤ top + 1) :
    weight top areSet index < 2 ^ (top + 1 - index) := by
  induction areSet generalizing index with
  | nil => exact Nat.two_pow_pos _
  | cons isSet areSet ih =>
    rw [List.length_cons] at hlength
    have hrest := @ih (index + 1) (by omega)
    have hexp : top + 1 - index = top - index + 1 := by omega
    have hsame : top + 1 - (index + 1) = top - index := by omega
    rw [hsame] at hrest
    rw [weight, hexp, pow_succ]
    split
    · omega
    · omega

/-- Where a flag stands, its bit is set. -/
theorem testBit_weight {top : ℕ} {areSet : List Bool} {index : ℕ}
    (hlength : index + areSet.length ≤ top + 1) {offset : ℕ} (hoffset : offset < areSet.length) :
    (weight top areSet index).testBit (top - (index + offset)) = areSet[offset] := by
  induction areSet generalizing index offset with
  | nil => exact absurd hoffset (Nat.not_lt_zero _)
  | cons isSet areSet ih =>
    rw [List.length_cons] at hlength hoffset
    have hrest := @weight_lt top areSet (index + 1) (by omega)
    have hsame : top + 1 - (index + 1) = top - index := by omega
    rw [hsame] at hrest
    rw [weight]
    cases offset with
    | zero =>
      change (_ : ℕ).testBit (top - index) = isSet
      cases isSet with
      | false =>
        rw [if_neg Bool.false_ne_true, Nat.zero_add]
        exact Nat.testBit_lt_two_pow hrest
      | true => rw [if_pos rfl, Nat.testBit_two_pow_add_eq, Nat.testBit_lt_two_pow hrest]; rfl
    | succ offset =>
      have hbit := @ih (index + 1) (by omega) offset (by omega)
      rw [show index + 1 + offset = index + (offset + 1) by omega] at hbit
      rw [List.getElem_cons_succ, ← hbit]
      split
      · exact Nat.testBit_two_pow_add_gt (by omega) _
      · rw [Nat.zero_add]

/-- The fields of a selector show the flags that it was made from. -/
theorem selectorFields_of_flags {names : List String} {areSet : List Bool} {top : ℕ}
    (hlength : names.length = areSet.length) (htop : names.length ≤ top + 1) :
    selectorFields (selectorFlags areSet top) names top = names.zip (areSet.map .bool) := by
  apply List.ext_getElem
  · simp [selectorFields, hlength]
  · intro index hindex hother
    have hnames : index < names.length := by
      simpa [selectorFields] using hindex
    have hbit := @testBit_weight top areSet 0 (by omega) index (by omega)
    rw [Nat.zero_add] at hbit
    simp only [selectorFields, List.getElem_map, List.getElem_zipIdx, List.getElem_zip, flag,
      selectorFlags_eq_weight, Int.toNat_natCast, Nat.zero_add, hbit]

/-- Flags of a selector, each looked up by itself. -/
theorem mapM_readings_of_flags {names : List String} {read : String → FieldReading} {par : Value}
    {find : String → Except Exn Bool} {areSet : List Bool}
    (hread : ∀ name, (read name).key = name ∧
      (read name).read par = (find name).map Value.bool)
    (hfind : names.mapM find = .ok areSet) :
    readFields (names.map read) par = .ok (.ofList (names.zip (areSet.map .bool))) ∧
      names.length = areSet.length := by
  have hentries : (names.map read).mapM
      (fun reading => do .ok (reading.key, ← reading.read par)) =
        Except.ok (ε := Exn) (names.zip (areSet.map .bool)) ∧ names.length = areSet.length := by
    induction names generalizing areSet with
    | nil =>
      cases hfind
      exact ⟨rfl, rfl⟩
    | cons name names ih =>
      rw [List.mapM_cons] at hfind
      obtain ⟨isSet, hset, hfind⟩ := bind_eq_ok_iff.mp hfind
      obtain ⟨others, hothers, hfind⟩ := bind_eq_ok_iff.mp hfind
      cases hfind
      obtain ⟨hrest, hlength⟩ := ih hothers
      refine ⟨?_, by rw [List.length_cons, List.length_cons, hlength]⟩
      rw [List.map_cons, mapM_readings_cons, (hread name).1, (hread name).2, hset]
      simp only [Except.map, ok_bind, hrest, List.map_cons, List.zip_cons_cons]
  refine ⟨?_, hentries.2⟩
  unfold readFields
  rw [hentries.1]
  rfl

theorem selected_read (par : Value) (name : String) :
    (FieldReading.selected name).key = name ∧ (FieldReading.selected name).read par =
      (do .ok (← par.getD name (.bool false)).truthy : Except Exn Bool).map Value.bool := by
  refine ⟨rfl, ?_⟩
  simp only [FieldReading.selected]
  cases par.getD name (.bool false) with
  | error raised => rfl
  | ok value => rfl

theorem encodeTagReportContentSelector_agrees {info : ParamInfo}
    (hdecoder : info.decode = some decodeTagReportContentSelector)
    (hnames : selectorNames info.toLayout = tagReportContentSelectorNames) :
    registry.Agrees "TagReportContentSelector" info encodeTagReportContentSelector
      (.auto (tagReportContentSelectorNames.map .selected)) := by
  refine Registry.agrees_auto hdecoder fun encodeParam par body hbody => ?_
  obtain ⟨areSet, hset, hbody⟩ := bind_eq_ok_iff.mp hbody
  obtain ⟨packed, hpack, hall⟩ := bind_eq_ok_iff.mp hbody
  rw [hnames] at hset
  refine ⟨packed, hall, fun rest => ?_⟩
  obtain ⟨⟨flags, _⟩, hvalues, -, hunpack, hdrop⟩ := unpackHead_of_pack hpack rest
  simp only [List.map_cons, List.map_nil, numbers, List.cons.injEq, Value.index_int,
    Except.ok.injEq, and_true] at hvalues
  subst hvalues
  obtain ⟨hread, hlength⟩ := mapM_readings_of_flags (selected_read par) hset
  rw [hread]
  have hfields := @selectorFields_of_flags _ areSet 15 hlength (by decide)
  simp only [decodeTagReportContentSelector, hunpack, ok_bind, Except.map, hfields]
  rw [show (packed ++ rest).drop 2 = rest from hdrop]

theorem encodeMotoTagReportContentSelector_agrees {info : ParamInfo}
    (hdecoder : info.decode = some decodeMotoTagReportContentSelector)
    (hnames : selectorNames info.toLayout = motoTagReportContentSelectorNames) :
    registry.Agrees "MotoTagReportContentSelector" info encodeMotoTagReportContentSelector
      (.record (motoTagReportContentSelectorNames.map .selected)) := by
  refine Registry.agrees_record hdecoder fun encodeParam par body hbody => ?_
  obtain ⟨areSet, hset, hpack⟩ := bind_eq_ok_iff.mp hbody
  rw [hnames] at hset
  obtain ⟨⟨flags, _⟩, hvalues, -, hunpack, -⟩ := unpackHead_of_pack hpack []
  simp only [List.map_cons, List.map_nil, numbers, List.cons.injEq, Value.index_int,
    Except.ok.injEq, and_true] at hvalues
  subst hvalues
  rw [List.append_nil] at hunpack
  obtain ⟨hread, hlength⟩ := mapM_readings_of_flags (selected_read par) hset
  rw [hread]
  have hfields := @selectorFields_of_flags _ areSet 31 hlength (by decide)
  simp only [decodeMotoTagReportContentSelector, hunpack, ok_bind, Except.map, hfields]

theorem present_read (par : Value) (name : String) :
    (FieldReading.present name).key = name ∧ (FieldReading.present name).read par =
      (do if ← par.contains name then .ok (← par.item name).truthy else .ok false :
        Except Exn Bool).map Value.bool := by
  refine ⟨rfl, ?_⟩
  simp only [FieldReading.present]
  cases par.contains name with
  | error raised => rfl
  | ok isThere =>
    cases isThere with
    | false => rfl
    | true =>
      cases par.item name with
      | error raised => rfl
      | ok value => rfl

theorem encodeC1G2EPCMemorySelector_agrees {info : ParamInfo}
    (hdecoder : info.decode = some decodeC1G2EPCMemorySelector)
    (hnames : selectorNames info.toLayout = ["EnableCRC", "EnablePCBits", "EnableXPCBits"]) :
    registry.Agrees "C1G2EPCMemorySelector" info encodeC1G2EPCMemorySelector
      (.record [.present "EnableCRC", .present "EnablePCBits", .present "EnableXPCBits"]) := by
  refine Registry.agrees_record hdecoder fun encodeParam par body hbody => ?_
  obtain ⟨areSet, hset, hpack⟩ := bind_eq_ok_iff.mp hbody
  rw [hnames] at hset
  obtain ⟨⟨flags, _⟩, hvalues, -, hunpack⟩ := unpackStruct_of_packStruct hpack
  simp only [List.map_cons, List.map_nil, numbers, List.cons.injEq, Value.index_int,
    Except.ok.injEq, and_true] at hvalues
  subst hvalues
  obtain ⟨hread, hlength⟩ := mapM_readings_of_flags (present_read par) hset
  have hfields : flagFields (selectorFlags areSet 7)
      [("EnableCRC", 7), ("EnablePCBits", 6), ("EnableXPCBits", 5)] =
        ["EnableCRC", "EnablePCBits", "EnableXPCBits"].zip (areSet.map .bool) :=
    @selectorFields_of_flags _ areSet 7 hlength (by decide)
  change _ = (readFields (["EnableCRC", "EnablePCBits", "EnableXPCBits"].map .present) par).map _
  rw [hread]
  simp only [decodeC1G2EPCMemorySelector, hunpack, ok_bind, Except.map, hfields]

/-! ## Events -/

theorem encodeGPIEvent_agrees {info : ParamInfo} (hdecoder : info.decode = some decodeGPIEvent) :
    registry.Agrees "GPIEvent" info encodeGPIEvent
      (.record [.number "GPIPortNumber", .isSet "GPIEvent"]) := by
  refine Registry.agrees_record hdecoder fun encodeParam par body hbody => ?_
  simp only [encodeGPIEvent, bind_eq_ok_iff] at hbody
  obtain ⟨event, hevent, port, hport, hpack⟩ := hbody
  obtain ⟨⟨portNumber, flags, _⟩, hvalues, -, hunpack⟩ := unpackStruct_of_packStruct hpack
  simp only [List.map_cons, List.map_nil, numbers, List.cons.injEq, Except.ok.injEq, and_true,
    index_flagBit] at hvalues
  obtain ⟨hportNumber, rfl⟩ := hvalues
  simp only [readFields, mapM_readings_cons, FieldReading.number, FieldReading.isSet, hevent,
    hport, hportNumber, ok_bind, List.mapM_nil, pure_eq_ok, Except.map, decodeGPIEvent, hunpack,
    flag_of_flagBit]

/-- The event types that are encoded, each with its code. -/
theorem exists_of_eventCode {events : Enumeration} {encoder : String} {par coded : Value}
    (hcode : eventCode events encoder par = .ok coded) :
    ∃ text number, par.item "EventType" = .ok (.text text) ∧ coded = .int number ∧
      (text, number) ∈ events := by
  obtain ⟨value, hvalue, hcode⟩ := bind_eq_ok_iff.mp hcode
  obtain ⟨found, hfound, hcode⟩ := bind_eq_ok_iff.mp hcode
  cases value with
  | text text =>
    cases hfound
    cases hlookup : events.lookup text with
    | none =>
      simp only [hlookup] at hcode
      cases hcode
    | some number =>
      simp only [hlookup] at hcode
      cases hcode
      exact ⟨text, number, hvalue, rfl, mem_of_lookup hlookup⟩
  | list items => cases hfound
  | dict entries => cases hfound
  | _ =>
    cases hfound
    cases hcode

theorem encodeROSpecEvent_agrees {info : ParamInfo}
    (hdecoder : info.decode = some decodeROSpecEvent) :
    registry.Agrees "ROSpecEvent" info encodeROSpecEvent
      (.record [.number "ROSpecID", .number "PreemptingROSpecID", .same "EventType"]) := by
  refine Registry.agrees_record hdecoder fun encodeParam par body hbody => ?_
  simp only [encodeROSpecEvent, bind_eq_ok_iff] at hbody
  obtain ⟨event, hevent, id, hid, preempting, hpreempting, hpack⟩ := hbody
  obtain ⟨⟨found, idNumber, preemptingNumber, _⟩, hvalues, -, hunpack⟩ :=
    unpackStruct_of_packStruct hpack
  obtain ⟨text, number, hitem, rfl, hmem⟩ := exists_of_eventCode hevent
  simp only [List.map_cons, List.map_nil, numbers, List.cons.injEq, Value.index_int,
    Except.ok.injEq, and_true] at hvalues
  obtain ⟨rfl, hidNumber, hpreemptingNumber⟩ := hvalues
  have hname : (if number = 0 then "Start_of_ROSpec"
      else if number = 1 then "End_of_ROSpec" else "Preemption_of_ROSpec") = text := by
    simp only [roSpecEvents, List.mem_cons, List.not_mem_nil, or_false, Prod.mk.injEq] at hmem
    rcases hmem with ⟨rfl, rfl⟩ | ⟨rfl, rfl⟩ | ⟨rfl, rfl⟩
    · rfl
    · rfl
    · rfl
  simp only [readFields, mapM_readings_cons, FieldReading.number, FieldReading.same, hitem, hid,
    hidNumber, hpreempting, hpreemptingNumber, ok_bind, List.mapM_nil, pure_eq_ok, Except.map,
    decodeROSpecEvent, hunpack, hname]

theorem encodeRFSurveyEvent_agrees {info : ParamInfo}
    (hdecoder : info.decode = some decodeRFSurveyEvent) :
    registry.Agrees "RFSurveyEvent" info encodeRFSurveyEvent
      (.record [.number "ROSpecID", .number "SpecIndex", .same "EventType"]) := by
  refine Registry.agrees_record hdecoder fun encodeParam par body hbody => ?_
  simp only [encodeRFSurveyEvent, bind_eq_ok_iff] at hbody
  obtain ⟨event, hevent, id, hid, index, hindex, hpack⟩ := hbody
  obtain ⟨⟨found, idNumber, indexNumber, _⟩, hvalues, -, hunpack⟩ :=
    unpackStruct_of_packStruct hpack
  obtain ⟨text, number, hitem, rfl, hmem⟩ := exists_of_eventCode hevent
  simp only [List.map_cons, List.map_nil, numbers, List.cons.injEq, Value.index_int,
    Except.ok.injEq, and_true] at hvalues
  obtain ⟨rfl, hidNumber, hindexNumber⟩ := hvalues
  have hname : (if number = 0 then "Start_of_RFSurvey" else "End_of_RFSurvey") = text := by
    simp only [rfSurveyEvents, List.mem_cons, List.not_mem_nil, or_false, Prod.mk.injEq] at hmem
    rcases hmem with ⟨rfl, rfl⟩ | ⟨rfl, rfl⟩
    · rfl
    · rfl
  simp only [readFields, mapM_readings_cons, FieldReading.number, FieldReading.same, hitem, hid,
    hidNumber, hindex, hindexNumber, ok_bind, List.mapM_nil, pure_eq_ok, Except.map,
    decodeRFSurveyEvent, hunpack, hname]

theorem encodeAntennaEvent_agrees {info : ParamInfo}
    (hdecoder : info.decode = some decodeAntennaEvent) :
    registry.Agrees "AntennaEvent" info encodeAntennaEvent
      (.record [.number "AntennaID", .same "EventType"]) := by
  refine Registry.agrees_record hdecoder fun encodeParam par body hbody => ?_
  simp only [encodeAntennaEvent, bind_eq_ok_iff] at hbody
  obtain ⟨event, hevent, antenna, hantenna, hpack⟩ := hbody
  obtain ⟨⟨found, antennaNumber, _⟩, hvalues, -, hunpack⟩ := unpackStruct_of_packStruct hpack
  obtain ⟨text, number, hitem, rfl, hmem⟩ := exists_of_eventCode hevent
  simp only [List.map_cons, List.map_nil, numbers, List.cons.injEq, Value.index_int,
    Except.ok.injEq, and_true] at hvalues
  obtain ⟨rfl, hantennaNumber⟩ := hvalues
  have hname : (if number ≠ 0 then "Connected" else "Disconnected") = text := by
    simp only [antennaEvents, List.mem_cons, List.not_mem_nil, or_false, Prod.mk.injEq] at hmem
    rcases hmem with ⟨rfl, rfl⟩ | ⟨rfl, rfl⟩
    · rfl
    · rfl
  simp only [readFields, mapM_readings_cons, FieldReading.number, FieldReading.same, hitem,
    hantenna, hantennaNumber, ok_bind, List.mapM_nil, pure_eq_ok, Except.map, decodeAntennaEvent,
    hunpack, hname]

theorem encodeConnectionAttemptEvent_agrees {info : ParamInfo}
    (hdecoder : info.decode = some decodeConnectionAttemptEvent) :
    registry.Agrees "ConnectionAttemptEvent" info encodeConnectionAttemptEvent
      (.record [.same "Status"]) := by
  refine Registry.agrees_record hdecoder fun encodeParam par body hbody => ?_
  simp only [encodeConnectionAttemptEvent, bind_eq_ok_iff] at hbody
  obtain ⟨status, hstatus, coded, hcoded, hpack⟩ := hbody
  obtain ⟨⟨found, _⟩, hvalues, -, hunpack⟩ := unpackStruct_of_packStruct hpack
  obtain ⟨text, number, rfl, rfl, hname⟩ := exists_of_code (by decide) hcoded
  simp only [List.map_cons, List.map_nil, numbers, List.cons.injEq, Value.index_int,
    Except.ok.injEq, and_true] at hvalues
  subst hvalues
  simp only [readFields, mapM_readings_cons, FieldReading.same, hstatus, ok_bind, List.mapM_nil,
    pure_eq_ok, Except.map, decodeConnectionAttemptEvent, hunpack, hname]

theorem encodeReaderExceptionEvent_agrees {info : ParamInfo}
    (hdecoder : info.decode = some decodeReaderExceptionEvent) :
    registry.Agrees "ReaderExceptionEvent" info encodeReaderExceptionEvent
      (.auto [.same "Message"]) := by
  refine Registry.agrees_auto hdecoder fun encodeParam par body hbody => ?_
  simp only [encodeReaderExceptionEvent, bind_eq_ok_iff] at hbody
  obtain ⟨message, hmessage, length, hlength, count, hcount, bytes, hbytes, hall⟩ := hbody
  refine ⟨count ++ bytes, hall, fun rest => ?_⟩
  cases message with
  | bytes data =>
    cases hlength
    cases hbytes
    obtain ⟨⟨number, _⟩, hvalues, -, hunpack, hdrop⟩ := unpackHead_of_pack hcount (bytes ++ rest)
    simp only [List.map_cons, List.map_nil, numbers, List.cons.injEq, Value.index_int,
      Except.ok.injEq, and_true] at hvalues
    subst hvalues
    simp only [readFields, mapM_readings_cons, FieldReading.same, hmessage, ok_bind,
      List.mapM_nil, pure_eq_ok, Except.map, decodeReaderExceptionEvent, List.append_assoc,
      hunpack, Int.toNat_natCast]
    rw [show (count ++ (bytes ++ rest)).drop 2 = bytes ++ rest from hdrop, List.take_left' rfl,
      List.drop_left' rfl]
  | _ => cases hbytes

theorem length_of_singulationDetails {fuel : ℕ} {value : Value} {bytes : List UInt8}
    (hencode : registry.encodeParamWith fuel "C1G2SingulationDetails" value = .ok bytes) :
    bytes.length = 5 := by
  cases fuel with
  | zero => cases hencode
  | succ fuel =>
    have hfound : registry.param "C1G2SingulationDetails" = some
        { type := 18, tvEncoded := true
          ownFields := ["NumCollisionSlots", "NumEmptySlots"]
          decode := some (basicParamDecodeGenerator [.ushort, .ushort]
            ["NumCollisionSlots", "NumEmptySlots"])
          encode := some (basicParamEncodeGenerator [.ushort, .ushort]
            ["NumCollisionSlots", "NumEmptySlots"]) } := rfl
    rw [Registry.encodeParamWith, hfound] at hencode
    obtain ⟨body, hbody, hencode⟩ := bind_eq_ok_iff.mp hencode
    obtain ⟨head, hhead, hencode⟩ := bind_eq_ok_iff.mp hencode
    obtain ⟨values, -, hpack⟩ := bind_eq_ok_iff.mp hbody
    cases hencode
    rw [List.length_append, length_of_packStruct hpack, length_of_packStruct hhead]
    rfl

theorem length_of_customParameter {fuel : ℕ} {value : Value} {bytes : List UInt8}
    (hencode : registry.encodeParamWith fuel "CustomParameter" value = .ok bytes) :
    12 ≤ bytes.length := by
  cases fuel with
  | zero => cases hencode
  | succ fuel =>
    have hfound : registry.param "CustomParameter" = some
        { type := typeCustom
          ownFields := ["VendorID", "Subtype", "Payload"]
          encode := some encodeCustomParameter } := rfl
    rw [Registry.encodeParamWith, hfound] at hencode
    obtain ⟨body, -, hencode⟩ := bind_eq_ok_iff.mp hencode
    obtain ⟨head, hhead, hencode⟩ := bind_eq_ok_iff.mp hencode
    obtain ⟨vendor, -, hpack⟩ := bind_eq_ok_iff.mp hhead
    cases hencode
    have hsize : head.length = 12 := length_of_packStruct hpack
    rw [List.length_append, hsize]
    exact Nat.le_add_right _ _

theorem length_of_customs {fuel : ℕ} {items : List Value} {bytes : List UInt8}
    (hwritten : registry.Written fuel (items.map fun item => ("CustomParameter", item)) bytes) :
    bytes = [] ∧ items = [] ∨ 12 ≤ bytes.length := by
  cases items with
  | nil => exact .inl ⟨Registry.written_nil_iff.mp hwritten, rfl⟩
  | cons item items =>
    obtain ⟨first, rest, hfirst, -, rfl⟩ := Registry.written_cons_iff.mp hwritten
    have hlength := length_of_customParameter hfirst
    rw [List.length_append]
    exact .inr (by omega)

/-- Repeated parameters are those in a list. -/
theorem exists_items (par : Value) (name : String) :
    ∃ items : List Value, childrenOf par name true = items.map fun item => (name, item) := by
  unfold childrenOf
  cases par.fields?.bind (·.get? name) with
  | none => exact ⟨[], rfl⟩
  | some value =>
    cases value with
    | list items => exact ⟨items, rfl⟩
    | _ => exact ⟨[], rfl⟩

/-- A single parameter is there or not. -/
theorem childrenOf_single (par : Value) (name : String) :
    childrenOf par name false = [] ∨ ∃ value, childrenOf par name false = [(name, value)] := by
  unfold childrenOf
  cases par.fields?.bind (·.get? name) with
  | none => exact .inl rfl
  | some value => exact .inr ⟨value, rfl⟩

/-- Behind an event of an inventory there is never as much as singulation details without
a header take. -/
theorem length_of_singulation {fuel : ℕ} {layout : Layout} {par : Value} {rest : List UInt8}
    (hfields : layout.autoFields = [("C1G2SingulationDetails", false), ("CustomParameter", true)])
    (hwritten : registry.Written fuel (children layout par) rest) :
    rest.length ≠ 4 ∧ rest.length ≠ 6 := by
  obtain ⟨items, hitems⟩ := exists_items par "CustomParameter"
  rw [children, hfields, List.flatMap_cons, List.flatMap_singleton, hitems] at hwritten
  rcases childrenOf_single par "C1G2SingulationDetails" with hnone | ⟨value, hsome⟩
  · rw [hnone, List.nil_append] at hwritten
    rcases length_of_customs hwritten with ⟨rfl, -⟩ | hlong
    · exact ⟨by decide, by decide⟩
    · omega
  · rw [hsome, List.singleton_append] at hwritten
    obtain ⟨first, others, hfirst, hothers, rfl⟩ := Registry.written_cons_iff.mp hwritten
    have hlength := length_of_singulationDetails hfirst
    rw [List.length_append, hlength]
    rcases length_of_customs hothers with ⟨rfl, -⟩ | hlong
    · exact ⟨by decide, by decide⟩
    · omega

theorem encodeAISpecEvent_agrees {info : ParamInfo}
    (hdecoder : info.decode = some decodeAISpecEvent)
    (hfields : info.autoFields = [("C1G2SingulationDetails", false), ("CustomParameter", true)]) :
    registry.Agrees "AISpecEvent" info encodeAISpecEvent
      (.auto [.number "ROSpecID", .number "SpecIndex",
        .constant "EventType" (.text "End_of_AISpec")]) := by
  refine .fields hdecoder fun fuel par body hbody => ?_
  simp only [encodeAISpecEvent, bind_eq_ok_iff] at hbody
  obtain ⟨id, hid, index, hindex, packed, hpack, hall⟩ := hbody
  obtain ⟨rest, hrest, rfl⟩ := Registry.written_of_encodeAllParameters hall
  refine ⟨rest, hrest, ?_⟩
  obtain ⟨hfour, hsix⟩ := length_of_singulation hfields hrest
  obtain ⟨⟨event, idNumber, indexNumber, _⟩, hvalues, -, hunpack, hdrop⟩ :=
    unpackHead_of_pack hpack rest
  simp only [List.map_cons, List.map_nil, numbers, List.cons.injEq, Value.index_int,
    Except.ok.injEq, and_true] at hvalues
  obtain ⟨rfl, hidNumber, hindexNumber⟩ := hvalues
  have hsize : packed.length = 7 := length_of_packStruct hpack
  have hlong : ¬(packed ++ rest).length < 7 := by
    rw [List.length_append]
    omega
  have hlegacy : legacySingulation rest = .ok none := by
    rw [legacySingulation, if_neg hfour, if_neg hsix]
  simp only [readFields, mapM_readings_cons, FieldReading.number, FieldReading.constant, hid,
    hidNumber, hindex, hindexNumber, ok_bind, List.mapM_nil, pure_eq_ok, Except.map,
    decodeAISpecEvent, if_neg hlong, hunpack, ne_eq, not_true_eq_false, if_false]
  rw [show (packed ++ rest).drop 7 = rest from hdrop, hlegacy]
  rfl

/-- The trigger type is looked up by its number. -/
theorem encodeKeepaliveSpec_agrees {info : ParamInfo}
    (hdecoder : info.decode = some decodeKeepaliveSpec)
    (hfields : info.autoFields = [("CustomParameter", true)]) :
    registry.Agrees "KeepaliveSpec" info
      (basicAutoParamEncodeGenerator [.ubyte, .uint] ["KeepaliveTriggerType", "TimeInterval"])
      (.value readKeepaliveSpec) := by
  refine .value hdecoder fun fuel par body hbody => ?_
  obtain ⟨values, hitems, hbody⟩ := bind_eq_ok_iff.mp hbody
  obtain ⟨packed, hpack, hall⟩ := bind_eq_ok_iff.mp hbody
  simp only [List.mapM_cons, List.mapM_nil, bind_eq_ok_iff, pure_eq_ok] at hitems
  obtain ⟨triggerType, htype, _, ⟨interval, hinterval, _, hnil, hcons⟩, hvalues⟩ := hitems
  cases hnil
  cases hcons
  cases hvalues
  obtain ⟨rest, hrest, rfl⟩ := Registry.written_of_encodeAllParameters hall
  obtain ⟨⟨typeNumber, intervalNumber, _⟩, hvalues, -, hunpack⟩ := unpackStruct_of_packStruct hpack
  simp only [List.map_cons, List.map_nil, numbers, List.cons.injEq, and_true] at hvalues
  obtain ⟨htypeNumber, hintervalNumber⟩ := hvalues
  obtain ⟨items, hitems⟩ := exists_items par "CustomParameter"
  have hchildren : ∀ layout : Layout, layout.autoFields = [("CustomParameter", true)] →
      children layout par = items.map fun item => ("CustomParameter", item) := by
    intro layout hlayout
    rw [children, hlayout, List.flatMap_singleton, hitems]
  rw [hchildren _ hfields] at hrest
  simp only [readKeepaliveSpec, htype, ok_bind, htypeNumber, hinterval, hintervalNumber,
    hchildren { type := 220 } rfl, List.isEmpty_map]
  rcases length_of_customs hrest with ⟨rfl, rfl⟩ | hlong
  · rw [List.append_nil, decodeKeepaliveSpec, hunpack]
    simp only [ok_bind, List.isEmpty_nil, if_true]
    cases Names.keepaliveTriggerType.name typeNumber with
    | error raised => rfl
    | ok triggerName => rfl
  · have hitemsEmpty : items.isEmpty = false := by
      cases items with
      | nil =>
        rw [Registry.written_nil_iff.mp hrest] at hlong
        exact absurd hlong (by decide)
      | cons item items => rfl
    have hsize : packed.length = 5 := length_of_packStruct hpack
    have hfail : unpackStruct [.ubyte, .uint] (packed ++ rest) =
        .error (.structError "unpack requires a buffer of 5 bytes") := by
      have hnone : unpack [.ubyte, .uint] (packed ++ rest) = none := by
        rw [← Option.not_isSome_iff_eq_none, unpack_isSome_iff, List.length_append, hsize]
        change ¬5 + rest.length = 5
        omega
      rw [unpackStruct, hnone]
      rfl
    rw [hitemsEmpty, decodeKeepaliveSpec, hfail]
    rfl

/-! ## Vendors -/

/-- A value is packed as the number that it counts as. -/
theorem packStruct_index (format : Format) (value : Value) :
    packStruct [format] [value] =
      (do packStruct [format] [.int (← value.index)] : Except Exn (List UInt8)) := by
  rw [packStruct_cons]
  cases value.index with
  | error raised => rfl
  | ok number => rfl

theorem encodeImpinjFixedFrequencyList_agrees {info : ParamInfo}
    (hdecoder : info.decode = some decodeImpinjFixedFrequencyList) :
    registry.Agrees "ImpinjFixedFrequencyList" info encodeImpinjFixedFrequencyList
      (.record [.number "FixedFrequencyMode", .channels]) := by
  refine .value hdecoder fun fuel par body hbody => ?_
  simp only [encodeImpinjFixedFrequencyList, bind_eq_ok_iff] at hbody
  obtain ⟨value, hvalue, items, hitems, mode, hmode, head, hhead, indexes, hindexes, hall⟩ := hbody
  obtain ⟨rest, -, rfl⟩ := Registry.written_of_encodeAllParameters hall
  rw [funext (packStruct_index .ushort)] at hindexes
  obtain ⟨found, hlength, hread, hpack⟩ := exists_of_mapM_pack hindexes
  obtain ⟨hdecode, -⟩ := decodeArray_of_pack hpack rest
  obtain ⟨⟨modeNumber, _, count, _⟩, hvalues, -, hunpack, hdrop⟩ :=
    unpackHead_of_pack hhead (indexes.flatten ++ rest)
  simp only [List.map_cons, List.map_nil, numbers, List.cons.injEq, Value.index_int,
    Except.ok.injEq, and_true] at hvalues
  obtain ⟨hmodeNumber, -, rfl⟩ := hvalues
  rw [hlength] at hdecode
  simp only [readFields, mapM_readings_cons, FieldReading.number, FieldReading.channels, hvalue,
    hitems, hmode, hmodeNumber, hread, ok_bind, List.mapM_nil, pure_eq_ok, Except.map,
    decodeImpinjFixedFrequencyList, decodeChannelList, List.append_assoc, hunpack,
    Int.toNat_natCast]
  rw [show (head ++ (indexes.flatten ++ rest)).drop 6 = indexes.flatten ++ rest from hdrop,
    hdecode]
  rfl

theorem encodeImpinjIntelligentAntennaManagement_agrees {info : ParamInfo}
    (hdecoder : info.decode = some decodeImpinjIntelligentAntennaManagement) :
    registry.Agrees "ImpinjIntelligentAntennaManagement" info
      encodeImpinjIntelligentAntennaManagement (.record [.enabled "ManagementEnabled"]) := by
  refine Registry.agrees_record hdecoder fun encodeParam par body hbody => ?_
  obtain ⟨⟨flags, _⟩, hvalues, -, hunpack⟩ := unpackStruct_of_packStruct hbody
  simp only [List.map_cons, List.map_nil, numbers, List.cons.injEq, Except.ok.injEq, and_true,
    index_flagBit] at hvalues
  subst hvalues
  simp only [readFields, mapM_readings_cons, FieldReading.enabled, ok_bind, List.mapM_nil,
    pure_eq_ok, Except.map, decodeImpinjIntelligentAntennaManagement, hunpack, flag_of_flagBit]

theorem encodeImpinjAntennaEventConfiguration_agrees {info : ParamInfo}
    (hdecoder : info.decode = some decodeImpinjAntennaEventConfiguration) :
    registry.Agrees "ImpinjAntennaEventConfiguration" info encodeImpinjAntennaEventConfiguration
      (.alone [.enabled "EnableAntennaAttemptNotification"]) := by
  refine .fields hdecoder fun fuel par body hbody => ⟨[], Registry.written_nil_iff.mpr rfl, ?_⟩
  obtain ⟨⟨flags, _⟩, hvalues, -, hunpack, hdrop⟩ := unpackHead_of_pack hbody []
  simp only [List.map_cons, List.map_nil, numbers, List.cons.injEq, Except.ok.injEq, and_true,
    index_flagBit] at hvalues
  subst hvalues
  rw [List.append_nil] at hunpack hdrop
  simp only [readFields, mapM_readings_cons, FieldReading.enabled, ok_bind, List.mapM_nil,
    pure_eq_ok, Except.map, decodeImpinjAntennaEventConfiguration, hunpack, flag_of_flagBit]
  rw [show body.drop 1 = [] from hdrop]

/-! ## The whole registry -/

theorem encodeAccessReportSpec_agrees {info : ParamInfo}
    (hdecoder : info.decode = some (basicParamDecodeGenerator [.ubyte] [])) :
    registry.Agrees "AccessReportSpec" info
      (basicParamEncodeGenerator [.ubyte] ["AccessReportTrigger"])
      (.value fun par => do .ok (.int (← (← par.item "AccessReportTrigger").index))) := by
  refine .value hdecoder fun fuel par body hbody => ?_
  obtain ⟨values, hitems, hpack⟩ := bind_eq_ok_iff.mp hbody
  simp only [List.mapM_cons, List.mapM_nil, bind_eq_ok_iff, pure_eq_ok] at hitems
  obtain ⟨trigger, htrigger, _, hnil, hvalues⟩ := hitems
  cases hnil
  cases hvalues
  obtain ⟨⟨number, _⟩, hvalues, -, hunpack⟩ := unpackStruct_of_packStruct hpack
  simp only [List.map_cons, List.map_nil, numbers, List.cons.injEq, and_true] at hvalues
  simp only [basicParamDecodeGenerator, hunpack, htrigger, hvalues, ok_bind, Except.map]
  rfl

/-- The forms of those entries of a list that have an encoder, in the same order. -/
inductive Covers : List (String × ParamInfo) → List (String × Form) → Prop
  | nil : Covers [] []
  | skip {entry : String × ParamInfo} {entries : List (String × ParamInfo)}
      {table : List (String × Form)}
      (hskip : entry.2.encode = none ∨ entry.1 = "CustomParameter")
      (hcovers : Covers entries table) : Covers (entry :: entries) table
  | take {name : String} {info : ParamInfo} {encode : Encoder} {form : Form}
      {entries : List (String × ParamInfo)} {table : List (String × Form)}
      (hencoder : info.encode = some encode) (hagrees : registry.Agrees name info encode form)
      (hcovers : Covers entries table) : Covers ((name, info) :: entries) ((name, form) :: table)

theorem Covers.append {entries others : List (String × ParamInfo)}
    {table more : List (String × Form)} (hcovers : Covers entries table)
    (hothers : Covers others more) : Covers (entries ++ others) (table ++ more) := by
  induction hcovers with
  | nil => exact hothers
  | skip hskip _ ih => exact .skip hskip ih
  | take hencoder hagrees _ ih => exact .take hencoder hagrees ih

/-- An entry that can be written has a form in the table. -/
theorem Covers.exists_form {entries : List (String × ParamInfo)} {table : List (String × Form)}
    (hcovers : Covers entries table) {name : String} {info : ParamInfo} {encode : Encoder}
    (hentry : (name, info) ∈ entries) (hencoder : info.encode = some encode)
    (hname : name ≠ "CustomParameter") :
    ∃ form, (name, form) ∈ table ∧ registry.Agrees name info encode form := by
  induction hcovers with
  | nil => exact absurd hentry List.not_mem_nil
  | skip hskip _ ih =>
    rcases List.mem_cons.mp hentry with rfl | hentry
    · rcases hskip with hnone | hcustom
      · exact absurd (hencoder.symm.trans hnone) (Option.some_ne_none _)
      · exact absurd hcustom hname
    · exact ih hentry
  | @take other otherInfo otherEncode form _ _ hother hagrees _ ih =>
    rcases List.mem_cons.mp hentry with heq | hentry
    · cases heq
      have hsame : encode = otherEncode := Option.some.inj (hencoder.symm.trans hother)
      subst hsame
      exact ⟨form, List.mem_cons_self, hagrees⟩
    · obtain ⟨found, hmem, hfound⟩ := ih hentry
      exact ⟨found, List.mem_cons_of_mem _ hmem, hfound⟩

/-- The first entries have no encoder. -/
theorem Covers.skips (count : ℕ) {entries : List (String × ParamInfo)}
    {table : List (String × Form)}
    (hnone : (entries.take count).all (·.2.encode.isNone) = true)
    (hrest : Covers (entries.drop count) table) : Covers entries table := by
  induction count generalizing entries with
  | zero => exact hrest
  | succ count ih =>
    cases entries with
    | nil => exact hrest
    | cons entry entries =>
      rw [List.take_succ_cons, List.all_cons, Bool.and_eq_true, Option.isNone_iff_eq_none] at hnone
      exact .skip (.inl hnone.1) (ih hnone.2 hrest)

/-- No entry has an encoder. -/
theorem covers_of_none {entries : List (String × ParamInfo)}
    (hnone : ∀ entry ∈ entries, entry.2.encode = none) : Covers entries [] := by
  induction entries with
  | nil => exact .nil
  | cons entry entries ih =>
    exact .skip (.inl (hnone entry List.mem_cons_self))
      (ih fun other hother => hnone other (List.mem_cons_of_mem _ hother))

theorem capabilityParams_covers : Covers capabilityParams capabilityForms :=
  .take rfl (record_agrees (by decide) rfl) <|
  .take rfl (record_agrees (by decide) rfl) <|
  .take rfl (auto_agrees rfl) <|
  .skips 16 rfl <|
  .nil

theorem operationParams_covers : Covers operationParams operationForms :=
  .take rfl (encodeROSpec_agrees rfl) <|
  .take rfl (.unread rfl) <|
  .take rfl (.unread rfl) <|
  .take rfl (.unread rfl) <|
  .take rfl (.unread rfl) <|
  .take rfl (.unread rfl) <|
  .take rfl (.unread rfl) <|
  .take rfl (.unread rfl) <|
  .take rfl (.unread rfl) <|
  .take rfl (.unread rfl) <|
  .take rfl (.unread rfl) <|
  .take rfl (encodeAccessReportSpec_agrees rfl) <|
  .take rfl (all_agrees rfl) <|
  .take rfl (encodeROSpecStartTrigger_agrees rfl) <|
  .take rfl (auto_agrees rfl) <|
  .take rfl (encodeGPITriggerValue_agrees rfl) <|
  .take rfl (encodeROSpecStopTrigger_agrees rfl) <|
  .take rfl (encodeAISpec_agrees rfl) <|
  .take rfl (encodeAISpecStopTrigger_agrees rfl) <|
  .take rfl (encodeTagObservationTrigger_agrees rfl) <|
  .take rfl (auto_agrees rfl) <|
  .nil

theorem configurationParams_covers : Covers configurationParams configurationForms :=
  .skips 3 rfl <|
  .take rfl (encodeKeepaliveSpec_agrees rfl rfl) <|
  .skip (.inl rfl) <|
  .take rfl (auto_agrees rfl) <|
  .take rfl (record_agrees (by decide) rfl) <|
  .take rfl (record_agrees (by decide) rfl) <|
  .take rfl (encodeGPIPortCurrentState_agrees rfl) <|
  .skip (.inl rfl) <|
  .take rfl (encodeC1G2InventoryCommand_agrees rfl) <|
  .take rfl (.unread rfl) <|
  .take rfl (.unread rfl) <|
  .take rfl (record_agrees (by decide) rfl) <|
  .take rfl (encodeC1G2SingulationControl_agrees rfl) <|
  .skip (.inl rfl) <|
  .take rfl (encodeROReportSpec_agrees rfl) <|
  .take rfl (encodeReaderEventNotificationSpec_agrees rfl) <|
  .take rfl (encodeEventNotificationState_agrees rfl) <|
  .take rfl (encodeTagReportContentSelector_agrees rfl rfl) <|
  .take rfl (encodeC1G2EPCMemorySelector_agrees rfl rfl) <|
  .nil

theorem reportParams_covers : Covers reportParams reportForms :=
  .skips 12 rfl <|
  .take rfl (record_agrees (by decide) rfl) <|
  .nil

theorem eventParams_covers : Covers eventParams eventForms :=
  .take rfl (record_agrees (by decide) rfl) <|
  .take rfl (encodeGPIEvent_agrees rfl) <|
  .take rfl (encodeROSpecEvent_agrees rfl) <|
  .take rfl (record_agrees (by decide) rfl) <|
  .take rfl (nothing_agrees rfl) <|
  .take rfl (encodeReaderExceptionEvent_agrees rfl) <|
  .take rfl (encodeRFSurveyEvent_agrees rfl) <|
  .take rfl (encodeAISpecEvent_agrees rfl rfl) <|
  .take rfl (encodeAntennaEvent_agrees rfl) <|
  .take rfl (encodeConnectionAttemptEvent_agrees rfl) <|
  .take rfl (nothing_agrees rfl) <|
  .take rfl (record_agrees (by decide) rfl) <|
  .take rfl (all_agrees rfl) <|
  .nil

theorem errorParams_covers (typeName : ℤ → Option String) :
    Covers (errorParams typeName) [] :=
  .skips 3 rfl <|
  .skip (.inr rfl) <|
  .nil

theorem impinjParams_covers : Covers impinjParams impinjForms :=
  .take rfl (.unread rfl) <|
  .skip (.inl rfl) <|
  .take rfl (auto_agrees rfl) <|
  .take rfl (encodeImpinjFixedFrequencyList_agrees rfl) <|
  .skips 10 rfl <|
  .take rfl (all_agrees rfl) <|
  .take rfl (record_agrees (by decide) rfl) <|
  .take rfl (record_agrees (by decide) rfl) <|
  .take rfl (record_agrees (by decide) rfl) <|
  .take rfl (record_agrees (by decide) rfl) <|
  .skips 9 rfl <|
  .take rfl (auto_agrees rfl) <|
  .skip (.inl rfl) <|
  .take rfl (record_agrees (by decide) rfl) <|
  .skips 2 rfl <|
  .take rfl (record_agrees (by decide) rfl) <|
  .skips 2 rfl <|
  .take rfl (all_agrees rfl) <|
  .take rfl (auto_agrees rfl) <|
  .take rfl (all_agrees rfl) <|
  .skip (.inl rfl) <|
  .take rfl (encodeImpinjIntelligentAntennaManagement_agrees rfl) <|
  .skip (.inl rfl) <|
  .take rfl (encodeImpinjAntennaEventConfiguration_agrees rfl) <|
  .take rfl (record_agrees (by decide) rfl) <|
  .skips 2 rfl <|
  .nil

theorem motorolaParams_covers : Covers motorolaParams motorolaForms :=
  .skips 7 rfl <|
  .take rfl (encodeMotoTagReportContentSelector_agrees rfl rfl) <|
  .skips 13 rfl <|
  .nil

theorem tveParams_covers : Covers tveParams [] := by
  refine covers_of_none fun entry hentry => ?_
  obtain ⟨format, -, rfl⟩ := List.mem_map.mp hentry
  rfl

theorem allParams_covers (typeName : ℤ → Option String) :
    Covers (allParams typeName) allForms :=
  (((((((tveParams_covers.append capabilityParams_covers).append operationParams_covers).append
    configurationParams_covers).append reportParams_covers).append eventParams_covers).append
    (errorParams_covers typeName)).append impinjParams_covers).append motorolaParams_covers

/-- What the key under a header depends on. -/
def keyOf (entry : String × ParamInfo) : String × (ℕ × ℕ × ℕ) × Bool × Bool :=
  (entry.1, entry.2.key, entry.2.tvEncoded, entry.2.encode.isSome)

theorem map_keyOf_allParams (first second : ℤ → Option String) :
    (allParams first).map keyOf = (allParams second).map keyOf := by
  have herrors : (errorParams first).map keyOf = (errorParams second).map keyOf := rfl
  simp only [allParams, List.map_append, herrors]

/-- What can be written has a type, which is that of no other parameter. -/
theorem keys_registered :
    ∀ entry ∈ (allParams fun _ => none).map keyOf, entry.2.2.2 = true →
      entry.2.1.1 ≠ 0 ∧ paramType2Name.lookup entry.2.1 = some entry.1 ∧
        (¬(entry.2.2.1 = false ∧ entry.2.1.1 = typeCustom) →
          entry.2.1.2.1 = 0 ∧ entry.2.1.2.2 = 0) := by
  decide +kernel

theorem key_of_registered {name : String} {info : ParamInfo}
    (hparam : registry.param name = some info) (hencoder : info.encode.isSome = true) :
    info.type ≠ 0 ∧ registry.typeName info.key = some name ∧
      (¬(info.tvEncoded = false ∧ info.type = typeCustom) →
        info.vendorId = 0 ∧ info.subtype = 0) := by
  have hmem : keyOf (name, info) ∈ (allParams fun _ => none).map keyOf := by
    rw [map_keyOf_allParams _ fun type => paramType2Name.lookup (type.toNat, 0, 0)]
    exact List.mem_map_of_mem (mem_of_lookup hparam)
  exact keys_registered _ hmem hencoder

/-- A key that there is once is looked up where it is. -/
theorem lookup_of_count {ν : Type} {entries : List (String × ν)} {name : String} {value : ν}
    (hcount : (entries.map Prod.fst).count name = 1) (hmem : (name, value) ∈ entries) :
    entries.lookup name = some value := by
  obtain ⟨before, after, rfl⟩ := List.append_of_mem hmem
  rw [List.map_append, List.map_cons, List.count_append, List.count_cons_self] at hcount
  refine List.lookup_eq_some_iff.mpr ⟨before, after, rfl, fun entry hentry => ?_⟩
  have hnone : (before.map Prod.fst).count name = 0 := by omega
  refine bne_iff_ne.mpr fun heq => List.count_eq_zero.mp hnone ?_
  exact heq ▸ List.mem_map_of_mem hentry

theorem allForms_nodup : (allForms.map Prod.fst).Nodup := by decide +kernel

theorem forms_of_mem {name : String} {form : Form} (hmem : (name, form) ∈ allForms) :
    forms name = form := by
  have hcount := List.count_eq_one_of_mem allForms_nodup (List.mem_map_of_mem hmem)
  rw [forms, lookup_of_count hcount hmem]
  rfl

/-- The types of which applications compose an operation or an event. -/
def composedNames : List String :=
  ["ROSpec", "ROBoundarySpec", "ROSpecStartTrigger", "ROSpecStopTrigger", "AISpec",
    "AISpecStopTrigger", "TagObservationTrigger", "InventoryParameterSpec",
    "AntennaConfiguration", "RFTransmitter", "C1G2InventoryCommand", "C1G2Filter",
    "C1G2TagInventoryMask", "C1G2RFControl", "C1G2SingulationControl", "ROReportSpec",
    "TagReportContentSelector", "C1G2EPCMemorySelector", "ImpinjInventorySearchMode",
    "ImpinjFixedFrequencyList", "ImpinjTagReportContentSelector", "ImpinjEnableRFPhaseAngle",
    "ImpinjEnablePeakRSSI", "ImpinjEnableRFDopplerFrequency", "MotoTagReportContentSelector",
    "CustomParameter", "ReaderEventNotificationData", "UTCTimestamp", "Uptime", "HoppingEvent",
    "GPIEvent", "ROSpecEvent", "ReportBufferOverflowErrorEvent", "ReaderExceptionEvent",
    "RFSurveyEvent", "AISpecEvent", "C1G2SingulationDetails", "AntennaEvent",
    "ConnectionAttemptEvent", "ConnectionCloseEvent", "SpecLoopEvent",
    "ImpinjAntennaAttemptEvent", "AccessSpec", "AccessSpecStopTrigger", "AccessCommand",
    "C1G2TagSpec", "C1G2TargetTag", "C1G2Read", "C1G2Write", "C1G2Lock", "C1G2LockPayload",
    "C1G2BlockWrite", "AccessReportSpec"]

/-- Each of them has one entry. -/
theorem count_composedNames :
    ∀ name ∈ composedNames, ((allParams fun _ => none).map Prod.fst).count name = 1 := by
  decide +kernel

theorem param_of_mem {name : String} {info : ParamInfo} (hname : name ∈ composedNames)
    (hmem : (name, info) ∈ paramStruct) : registry.param name = some info := by
  have hnames := congrArg (List.map Prod.fst)
    (map_keyOf_allParams (fun type => paramType2Name.lookup (type.toNat, 0, 0)) fun _ => none)
  rw [List.map_map, List.map_map] at hnames
  change paramStruct.map Prod.fst = (allParams fun _ => none).map Prod.fst at hnames
  exact lookup_of_count (hnames ▸ count_composedNames name hname) hmem

theorem operationParams_subset : operationParams ⊆ paramStruct := by
  intro entry hentry
  simp only [paramStruct, allParams, List.mem_append]
  tauto

theorem configurationParams_subset : configurationParams ⊆ paramStruct := by
  intro entry hentry
  simp only [paramStruct, allParams, List.mem_append]
  tauto

theorem impinjParams_subset : impinjParams ⊆ paramStruct := by
  intro entry hentry
  simp only [paramStruct, allParams, List.mem_append]
  tauto

theorem motorolaParams_subset : motorolaParams ⊆ paramStruct := by
  intro entry hentry
  simp only [paramStruct, allParams, List.mem_append]
  tauto

/-- A type is registered where it stands. -/
theorem param_at {group : List (String × ParamInfo)} (hgroup : group ⊆ paramStruct) (index : ℕ)
    {name : String} {info : ParamInfo} (hname : name ∈ composedNames)
    (hentry : group[index]? = some (name, info)) : registry.param name = some info :=
  param_of_mem hname (hgroup (List.mem_of_getElem? hentry))

theorem registry_mirrors : registry.Mirrors forms where
  sound := registry_sound
  headed := fun _ _ _ _ _ _ hparam hencoder hbody => headed_of_registered hparam hencoder hbody
  typed := fun _ _ hparam hencoder => (key_of_registered hparam hencoder).1
  named := fun _ _ hparam hencoder _ => (key_of_registered hparam hencoder).2
  own := by
    intro info hparam
    have hfound : registry.param "CustomParameter" = some
        { type := typeCustom
          ownFields := ["VendorID", "Subtype", "Payload"]
          encode := some encodeCustomParameter } := rfl
    cases hparam.symm.trans hfound
    exact ⟨rfl, rfl⟩
  agrees := by
    intro name info encode hparam hencoder hname
    obtain ⟨form, hmem, hagrees⟩ :=
      (allParams_covers _).exists_form (mem_of_lookup hparam) hencoder hname
    rw [forms_of_mem hmem]
    exact hagrees

theorem form_at (index : ℕ) {name : String} {form : Form}
    (hentry : allForms[index]? = some (name, form)) : forms name = form :=
  forms_of_mem (List.mem_of_getElem? hentry)

/-! ## Reading back -/

/-- What the encoder writes for a value, if it writes anything, is read as the form of its
type says: under its name, in as many bytes as were written, whatever comes behind them. -/
theorem decodeParam_of_encodeParam {name : String} {par : Value} {bytes : List UInt8}
    (hencode : registry.encodeParam name par = .ok bytes) :
    bytes = [] ∧ registry.readBack forms name par = .ok none ∨
      bytes ≠ [] ∧ registry.readBack forms name par ≠ .ok none ∧
        ∀ tail, registry.decodeParam registry.walk (bytes ++ tail) =
          (registry.readBack forms name par).map (Option.map (Reading.param bytes.length)) := by
  rcases Registry.readsAs_of_encodeParamWith registry_mirrors hencode with
    hnothing | ⟨hbytes, outcome, hread, hdecode⟩
  · exact .inl hnothing
  · rw [Registry.readBack, hread]
    refine .inr ⟨hbytes, ?_, fun tail => ?_⟩
    · cases outcome with
      | error raised => simp [Except.map]
      | ok reading => simp [Except.map]
    · rw [hdecode]
      cases outcome with
      | error raised => rfl
      | ok reading => rfl

/-- An air-protocol command with its two nested parameters. -/
def inventoryCommand : Value := .dict
  [("TagInventoryStateAware", .bool false),
   ("C1G2RFControl", .dict [("ModeIndex", .int 1000), ("Tari", .int 0)]),
   ("C1G2SingulationControl",
     .dict [("Session", .int 2), ("TagPopulation", .int 4), ("TagTransitTime", .int 0)])]

/-- The same command as it is read: the session of a singulation control is put in last. -/
def inventoryCommandRead : Value := .dict
  [("TagInventoryStateAware", .bool false),
   ("C1G2RFControl", .dict [("ModeIndex", .int 1000), ("Tari", .int 0)]),
   ("C1G2SingulationControl",
     .dict [("TagPopulation", .int 4), ("TagTransitTime", .int 0), ("Session", .int 2)])]

def inventoryCommandBytes : List UInt8 :=
  [1, 74, 0, 24, 0, 1, 79, 0, 8, 3, 232, 0, 0, 1, 80, 0, 11, 128, 0, 4, 0, 0, 0, 0]

theorem decodeParam_of_encodeParam_inventoryCommand :
    registry.encodeParam "C1G2InventoryCommand" inventoryCommand = .ok inventoryCommandBytes ∧
      ∀ tail, registry.decodeParam registry.walk (inventoryCommandBytes ++ tail) =
        .ok (some ⟨some "C1G2InventoryCommand", inventoryCommandRead, 24⟩) := by
  have hencode : registry.encodeParam "C1G2InventoryCommand" inventoryCommand =
      .ok inventoryCommandBytes := rfl
  have hread : registry.readBack forms "C1G2InventoryCommand" inventoryCommand =
      .ok (some ⟨some "C1G2InventoryCommand", inventoryCommandRead⟩) := rfl
  refine ⟨hencode, fun tail => ?_⟩
  rcases decodeParam_of_encodeParam hencode with hnothing | ⟨-, -, hdecode⟩
  · exact absurd hnothing.1 (List.cons_ne_nil _ _)
  · rw [hdecode tail, hread]
    rfl

end Sllurp.Codec
