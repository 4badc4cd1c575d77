/-
# The walker

What decoding one parameter after the other does, whatever the registry is. A
header delimits its parameter inside the data; a walk only touches the keys that
the registry names; and a walk whose decoders never hand on more than they got
needs no more fuel than there are bytes, so that it satisfies its recursion
without any.
-/

import Sllurp.Codec.Parameter
import Sllurp.Foundations.Outcome

namespace Sllurp.Codec

open Sllurp.Foundations Sllurp.Foundations.Wire Sllurp.Foundations.Outcome Sllurp.Protocol

/-! ## Headers -/

/-- The body that a header delimits at the start of the data. -/
def ParamHeader.body (header : ParamHeader) (data : List UInt8) : List UInt8 :=
  (data.take header.fullLength).drop header.headerLength

/-- The data start with a whole parameter that has this header. -/
structure Framed (header : ParamHeader) (data : List UInt8) : Prop where
  decoded : paramHeaderDecode data = .ok (some header)
  typed : header.paramType ≠ 0
  headed : header.headerLength ≤ header.fullLength
  whole : header.fullLength ≤ data.length

theorem tveParamHeaderDecode_headerLength {data : List UInt8} {header : ParamHeader}
    (hdecode : tveParamHeaderDecode data = some header) : header.headerLength = 1 := by
  cases data with
  | nil => cases hdecode
  | cons first data =>
    rw [tveParamHeaderDecode] at hdecode
    split at hdecode
    · cases hdecode
    · obtain ⟨entry, -, rfl⟩ := Option.map_eq_some_iff.mp hdecode
      rfl

theorem mem_of_lookup {κ ν : Type} [BEq κ] [LawfulBEq κ] {entries : List (κ × ν)} {key : κ}
    {value : ν} (hlookup : entries.lookup key = some value) : (key, value) ∈ entries := by
  obtain ⟨before, after, rfl, -⟩ := List.lookup_eq_some_iff.mp hlookup
  exact List.mem_append_right _ List.mem_cons_self

theorem unpackStruct_eq_ok_iff {formats : List Format} {data : List UInt8}
    {record : Record formats} :
    unpackStruct formats data = .ok record ↔ unpack formats data = some record := by
  rw [unpackStruct]
  cases unpack formats data with
  | none => simp
  | some found => simp

/-- A buffer of the right size is unpacked. -/
theorem exists_unpackStruct {formats : List Format} {data : List UInt8}
    (hlength : data.length = recordSize formats) :
    ∃ record, unpackStruct formats data = .ok record := by
  obtain ⟨record, hunpack⟩ := exists_unpack hlength
  exact ⟨record, unpackStruct_eq_ok_iff.mpr hunpack⟩

theorem customParamHeaderDecode_yields (length : ℕ) (data : List UInt8) :
    Yields (fun found => ∀ header ∈ found, 0 < header.headerLength)
      (fun raised => ∃ text, raised = .valueError text) (customParamHeaderDecode length data) := by
  unfold customParamHeaderDecode
  split
  · simp
  · split
    · simp
    · have hvendor : ((data.take (recordSize parCustomHeader)).drop
          (recordSize tlvParHeader)).length = recordSize parVendorSubtype := by
        rw [List.length_drop, List.length_take, Nat.min_eq_left (by omega)]
        rfl
      obtain ⟨⟨vendorId, subtype, _⟩, hunpack⟩ := exists_unpackStruct hvendor
      rw [hunpack]
      simp only [ok_bind, yields_ok, Option.mem_some_iff]
      rintro _ rfl
      exact Nat.succ_pos 11

/-- Nothing but a wrong length is an error in a header. -/
theorem tlvParamHeaderDecode_yields (data : List UInt8) :
    Yields (fun found => ∀ header ∈ found, 0 < header.headerLength)
      (fun raised => ∃ text, raised = .valueError text) (tlvParamHeaderDecode data) := by
  unfold tlvParamHeaderDecode
  split
  · simp
  · have hhead : (data.take (recordSize tlvParHeader)).length = recordSize tlvParHeader := by
      rw [List.length_take]
      omega
    obtain ⟨⟨first, length, _⟩, hunpack⟩ := exists_unpackStruct hhead
    rw [hunpack]
    simp only [ok_bind]
    split
    · simp
    · split
      · exact customParamHeaderDecode_yields _ _
      · simp only [yields_ok, Option.mem_some_iff]
        rintro _ rfl
        exact Nat.succ_pos 3

theorem paramHeaderDecode_yields (data : List UInt8) :
    Yields (fun found => ∀ header ∈ found, 0 < header.headerLength)
      (fun raised => ∃ text, raised = .valueError text) (paramHeaderDecode data) := by
  unfold paramHeaderDecode
  split
  · simp
  · split
    · rename_i header htve
      rw [yields_ok]
      rintro _ ⟨rfl⟩
      rw [tveParamHeaderDecode_headerLength htve]
      exact Nat.one_pos
    · exact tlvParamHeaderDecode_yields data

namespace Framed

variable {header : ParamHeader} {data : List UInt8}

theorem headerLength_pos (hframed : Framed header data) : 0 < header.headerLength :=
  (paramHeaderDecode_yields data).of_ok hframed.decoded header rfl

theorem fullLength_pos (hframed : Framed header data) : 0 < header.fullLength :=
  hframed.headerLength_pos.trans_le hframed.headed

/-- A body is shorter than the data that it is in. -/
theorem length_body (hframed : Framed header data) : (header.body data).length < data.length := by
  have hpos := hframed.headerLength_pos
  have hheaded := hframed.headed
  have hwhole := hframed.whole
  rw [ParamHeader.body, List.length_drop, List.length_take]
  omega

end Framed

namespace Registry

variable {registry : Registry}

/-! ## One parameter -/

theorem decodeParam_of_framed {walk : String → Fields → List UInt8 → Except Exn Fields}
    {header : ParamHeader} {data : List UInt8} (hframed : Framed header data) :
    registry.decodeParam walk data =
      (registry.decodeFramed walk header (header.body data)).map some := by
  have hheaded := hframed.headed
  have hwhole := hframed.whole
  rw [decodeParam, hframed.decoded]
  simp only [if_neg hframed.typed]
  rw [if_neg (by omega), if_neg (by omega)]
  rfl

/-- Data that do not start with a whole parameter decode to nothing or are refused, the
same way for every walk. -/
theorem decodeParam_of_not_framed {data : List UInt8} (hnot : ∀ header, ¬ Framed header data) :
    (∀ walk, registry.decodeParam walk data = .ok none) ∨
      ∃ text, ∀ walk, registry.decodeParam walk data = .error (.llrpError text) := by
  unfold decodeParam
  cases hdecode : paramHeaderDecode data with
  | error raised =>
    obtain ⟨text, rfl⟩ := (paramHeaderDecode_yields data).of_error hdecode
    exact .inr ⟨_, fun _ => rfl⟩
  | ok found =>
    cases found with
    | none => exact .inl fun _ => rfl
    | some header =>
      by_cases htyped : header.paramType = 0
      · exact .inl fun _ => if_pos htyped
      · simp only [if_neg htyped]
        by_cases hheaded : header.fullLength < header.headerLength
        · exact .inr ⟨_, fun _ => if_pos hheaded⟩
        · simp only [if_neg hheaded]
          by_cases hwhole : data.length < header.fullLength
          · exact .inr ⟨_, fun _ => if_pos hwhole⟩
          · exact absurd ⟨hdecode, htyped, by omega, by omega⟩ (hnot header)

/-- A decoded parameter is the one that the header delimits. -/
theorem exists_framed_of_decodeParam
    {walk : String → Fields → List UInt8 → Except Exn Fields} {data : List UInt8}
    {param : DecodedParam} (hdecode : registry.decodeParam walk data = .ok (some param)) :
    ∃ header, Framed header data ∧
      registry.decodeFramed walk header (header.body data) = .ok param := by
  by_cases hexists : ∃ header, Framed header data
  · obtain ⟨header, hframed⟩ := hexists
    rw [decodeParam_of_framed hframed, map_eq_ok_iff] at hdecode
    obtain ⟨decoded, hok, hsome⟩ := hdecode
    exact ⟨header, hframed, by rw [hok, Option.some_inj.mp hsome]⟩
  · rcases @decodeParam_of_not_framed registry data
        (fun header hframed => hexists ⟨header, hframed⟩) with hnone | ⟨text, herror⟩
    · rw [hnone] at hdecode
      cases hdecode
    · rw [herror] at hdecode
      cases hdecode

/-- A parameter is decoded under its name, or recorded with what is known of it. -/
theorem decodeFramed_eq_ok {walk : String → Fields → List UInt8 → Except Exn Fields}
    {header : ParamHeader} {body : List UInt8} {param : DecodedParam}
    (hdecode : registry.decodeFramed walk header body = .ok param) :
    param.length = header.fullLength ∧
      ((∃ name, registry.nameOf header = some name ∧ param.name = some name ∧
          registry.decodeBody walk name body = .ok param.value) ∨
        ∃ name decoderError, param.name = none ∧
          param.value = (errorRecord header name decoderError body).value) := by
  unfold decodeFramed at hdecode
  cases hname : registry.nameOf header with
  | none =>
    rw [hname] at hdecode
    cases hdecode
    exact ⟨rfl, .inr ⟨_, _, rfl, rfl⟩⟩
  | some name =>
    rw [hname] at hdecode
    cases hbody : registry.decodeBody walk name body with
    | ok value =>
      simp only [hbody] at hdecode
      cases hdecode
      exact ⟨rfl, .inl ⟨name, rfl, rfl, hbody⟩⟩
    | error raised =>
      simp only [hbody] at hdecode
      split at hdecode
      · rename_i heq
        cases heq
      · cases hdecode
        exact ⟨rfl, .inr ⟨_, _, rfl, rfl⟩⟩
      · split at hdecode
        · cases hdecode
        · cases hdecode

/-! ## Keys -/

theorem get?_append {fields result : Fields} {name key : String} {value : Value}
    (happend : fields.append name value = .ok result) (hkey : key ≠ name) :
    result.get? key = fields.get? key := by
  unfold Fields.append at happend
  split at happend
  · cases happend
    rw [Dict.get?_set, if_neg hkey]
  · cases happend
    rw [Dict.get?_set, if_neg hkey]
  · cases happend

/-- Storing a parameter touches no key but its own. -/
theorem get?_store {nFields : List String} {fields result : Fields} {param : DecodedParam}
    {key : String} (hstore : store nFields fields param = .ok result)
    (hkey : key ≠ param.name.getD decodeErrorParname) : result.get? key = fields.get? key := by
  unfold store at hstore
  cases hname : param.name with
  | none =>
    simp only [hname] at hstore
    rw [hname] at hkey
    exact get?_append hstore hkey
  | some name =>
    simp only [hname] at hstore
    rw [hname] at hkey
    split at hstore
    · exact get?_append hstore hkey
    · cases hstore
      exact (Dict.get?_set _ _ _ _).trans (if_neg hkey)

/-- A walk touches no key but the names in the registry and the one for records. -/
theorem get?_walkAll {key : String} (hkey : key ≠ decodeErrorParname)
    (hname : ∀ type, registry.typeName type ≠ some key) {fuel : ℕ} {nFields : List String}
    {fields result : Fields} {data : List UInt8}
    (hwalk : registry.walkAll fuel nFields fields data = .ok result) :
    result.get? key = fields.get? key := by
  induction fuel generalizing fields data with
  | zero => cases hwalk
  | succ fuel ih =>
    rw [walkAll] at hwalk
    split at hwalk
    · cases hwalk
      rfl
    · obtain ⟨found, hdecode, hwalk⟩ := bind_eq_ok_iff.mp hwalk
      cases found with
      | none => cases hwalk
      | some param =>
        obtain ⟨stored, hstore, hwalk⟩ := bind_eq_ok_iff.mp hwalk
        have hparam : key ≠ param.name.getD decodeErrorParname := by
          obtain ⟨header, -, hframed⟩ := exists_framed_of_decodeParam hdecode
          rcases (decodeFramed_eq_ok hframed).2 with ⟨name, htype, hnamed, -⟩ | ⟨_, _, hnamed, -⟩
          · rw [hnamed]
            rintro rfl
            exact hname _ htype
          · rw [hnamed]
            exact hkey
        have hstored := get?_store hstore hparam
        split at hwalk
        · cases hwalk
          exact hstored
        · rw [ih hwalk, hstored]

end Registry

/-! ## What is expected of decoders -/

/-- The exceptions that a decoder may raise. -/
def Expected : Exn → Prop
  | .structError _ | .valueError _ | .typeError _ | .keyError _ | .llrpError _ => True
  | _ => False

/-- A decoder leaves the end of a body to the walker, and the fields that it has read
have these names. -/
inductive Leaves (name : String) (names : List String) (body : List UInt8) : Decoded → Prop
  | value (value : Value) : Leaves name names body (.value value)
  | walk (entries : List (String × Value)) (rest : List UInt8) (finish : Fields → Fields)
      (hnames : ∀ key ∈ entries.map Prod.fst, key ∈ names) (hrest : rest <:+ body) :
      Leaves name names body (.walk name (.ofList entries) rest finish)

/-- A decoder keeps to what is expected of it, with these fields in front of a walk. -/
def Keeps (decode : Decoder) (name : String) (names : List String) : Prop :=
  ∀ body, Yields (Leaves name names body) Expected (decode name body)

/-- The decoder of an entry keeps to what is expected of it, and starts no walk with a
field that the walk appends to. -/
def SoundEntry (entry : String × ParamInfo) : Prop :=
  ∀ decode, entry.2.decode = some decode →
    ∃ names, Keeps decode entry.1 names ∧
      ∀ key ∈ decodeErrorParname :: entry.2.nFields, key ∉ names

/-- A registry whose decoders are sound, and whose names all have an entry. -/
structure Registry.Sound (registry : Registry) : Prop where
  entries : ∀ name info, registry.param name = some info → SoundEntry (name, info)
  known : ∀ type name, registry.typeName type = some name →
    ∃ info, registry.param name = some info
  record : ∀ type, registry.typeName type ≠ some decodeErrorParname

/-- The keys that a walk appends to hold nothing but lists. -/
def Listed (nFields : List String) (fields : Fields) : Prop :=
  ∀ key ∈ decodeErrorParname :: nFields, ∀ value, fields.get? key = some value →
    ∃ items, value = .list items

namespace Registry

variable {registry : Registry}

/-! ## Fuel -/

theorem nFieldsOf_of_param {name : String} {info : ParamInfo}
    (hparam : registry.param name = some info) : registry.nFieldsOf name = .ok info.nFields := by
  unfold nFieldsOf key
  rw [hparam]
  rfl

/-- A body only depends on what the walk does with parts of it, under its own name. -/
theorem decodeBody_congr (hsound : registry.Sound)
    {walk other : String → Fields → List UInt8 → Except Exn Fields} {name : String}
    {body : List UInt8}
    (hwalk : ∀ fields rest, rest.length ≤ body.length →
      walk name fields rest = other name fields rest) :
    registry.decodeBody walk name body = registry.decodeBody other name body := by
  unfold decodeBody
  cases hparam : registry.param name with
  | none => rfl
  | some info =>
    cases hdecoder : info.decode with
    | none =>
      simp only [key, ok_bind, hdecoder]
      rfl
    | some decode =>
      obtain ⟨names, hkeeps, -⟩ := hsound.entries name info hparam decode hdecoder
      simp only [key, ok_bind, hdecoder]
      cases hdecode : decode name body with
      | error raised => rfl
      | ok decoded =>
        have hleaves := (hkeeps body).of_ok hdecode
        cases hleaves with
        | value value => rfl
        | walk entries rest finish _ hrest =>
          simp only [ok_bind, hwalk _ _ hrest.length_le]

theorem decodeFramed_congr (hsound : registry.Sound)
    {walk other : String → Fields → List UInt8 → Except Exn Fields} {header : ParamHeader}
    {body : List UInt8}
    (hwalk : ∀ name fields rest, rest.length ≤ body.length →
      walk name fields rest = other name fields rest) :
    registry.decodeFramed walk header body = registry.decodeFramed other header body := by
  unfold decodeFramed
  cases registry.nameOf header with
  | none => rfl
  | some name => simp only [decodeBody_congr hsound (hwalk name)]

/-- A parameter only depends on what the walk does with less than the data. -/
theorem decodeParam_congr (hsound : registry.Sound)
    {walk other : String → Fields → List UInt8 → Except Exn Fields} {data : List UInt8}
    (hwalk : ∀ name fields rest, rest.length < data.length →
      walk name fields rest = other name fields rest) :
    registry.decodeParam walk data = registry.decodeParam other data := by
  by_cases hexists : ∃ header, Framed header data
  · obtain ⟨header, hframed⟩ := hexists
    rw [decodeParam_of_framed hframed, decodeParam_of_framed hframed]
    congr 1
    apply decodeFramed_congr hsound
    intro name fields rest hrest
    exact hwalk name fields rest (hrest.trans_lt hframed.length_body)
  · rcases @decodeParam_of_not_framed registry data
        (fun header hframed => hexists ⟨header, hframed⟩) with hnone | ⟨text, herror⟩
    · rw [hnone, hnone]
    · rw [herror, herror]

/-- A decoded parameter takes some of the data. -/
theorem length_pos_of_decodeParam
    {walk : String → Fields → List UInt8 → Except Exn Fields} {data : List UInt8}
    {param : DecodedParam} (hdecode : registry.decodeParam walk data = .ok (some param)) :
    0 < param.length := by
  obtain ⟨header, hframed, hdecoded⟩ := exists_framed_of_decodeParam hdecode
  rw [(decodeFramed_eq_ok hdecoded).1]
  exact hframed.fullLength_pos

/-- More fuel than there are bytes makes no difference. -/
theorem walkAll_fuel (hsound : registry.Sound) {fuel more : ℕ} {nFields : List String}
    {fields : Fields} {data : List UInt8} (hfuel : data.length < fuel)
    (hmore : data.length < more) :
    registry.walkAll fuel nFields fields data = registry.walkAll more nFields fields data := by
  induction fuel generalizing more nFields fields data with
  | zero => exact absurd hfuel (Nat.not_lt_zero _)
  | succ fuel ih =>
    obtain ⟨more, rfl⟩ := Nat.exists_eq_succ_of_ne_zero (Nat.ne_zero_of_lt hmore)
    rw [walkAll, walkAll]
    split
    · rfl
    · rename_i hdata
      have hnonempty : 0 < data.length := List.length_pos_iff.mpr (by simpa using hdata)
      have hdecode := @decodeParam_congr registry hsound
        (fun name fields rest => do
          let nFields ← registry.nFieldsOf name
          registry.walkAll fuel nFields fields rest)
        (fun name fields rest => do
          let nFields ← registry.nFieldsOf name
          registry.walkAll more nFields fields rest) data
        (fun name fields rest hrest => by
          congr 1
          funext nFields
          exact ih (by omega) (by omega))
      simp only [hdecode]
      cases hfound : registry.decodeParam
          (fun name fields rest => do
            let nFields ← registry.nFieldsOf name
            registry.walkAll more nFields fields rest) data with
      | error raised => rfl
      | ok found =>
        cases found with
        | none => rfl
        | some param =>
          have hpos := length_pos_of_decodeParam hfound
          simp only [ok_bind]
          congr 1
          funext stored
          rw [if_neg hpos.ne', if_neg hpos.ne']
          exact ih (by rw [List.length_drop]; omega) (by rw [List.length_drop]; omega)

/-- The walk through a rest, without fuel. -/
def walk (registry : Registry) (name : String) (fields : Fields) (rest : List UInt8) :
    Except Exn Fields := do
  let nFields ← registry.nFieldsOf name
  registry.decodeAllParameters nFields fields rest

@[simp]
theorem decodeAllParameters_nil (nFields : List String) (fields : Fields) :
    registry.decodeAllParameters nFields fields [] = .ok fields := rfl

/-- Decoding takes the parameter at the start and goes on behind it. -/
theorem decodeAllParameters_eq (hsound : registry.Sound) {nFields : List String}
    {fields : Fields} {data : List UInt8} (hdata : data ≠ []) :
    registry.decodeAllParameters nFields fields data =
      (do
        match ← registry.decodeParam registry.walk data with
        | none => .error (.llrpError "Error decoding param. Invalid byte stream.")
        | some param => do
          let fields ← store nFields fields param
          registry.decodeAllParameters nFields fields (data.drop param.length)) := by
  have hdecode := @decodeParam_congr registry hsound
    (fun name fields rest => do
      let nFields ← registry.nFieldsOf name
      registry.walkAll data.length nFields fields rest)
    registry.walk data
    (fun name fields rest hrest => by
      rw [walk]
      congr 1
      funext nFields
      exact walkAll_fuel hsound hrest (Nat.lt_succ_self _))
  rw [decodeAllParameters, walkAll, if_neg (by simpa using hdata)]
  simp only [hdecode]
  cases hfound : registry.decodeParam registry.walk data with
  | error raised => rfl
  | ok found =>
    cases found with
    | none => rfl
    | some param =>
      have hpos := length_pos_of_decodeParam hfound
      have hnonempty := List.length_pos_iff.mpr hdata
      simp only [ok_bind]
      congr 1
      funext stored
      rw [if_neg hpos.ne']
      exact walkAll_fuel hsound (by rw [List.length_drop]; omega) (Nat.lt_succ_self _)

end Registry

end Sllurp.Codec
