/-
# Declared counts

The body of some parameters says how long its variable part is, in bytes, words, bits or
elements. A slice of a body that is too short is cut off and not refused, so a decoder
honours the count only if it checks it, or reads the elements one by one. One count is
never looked at: that of the bits in an EPC.
-/

import Sllurp.Codec.Tiling

namespace Sllurp.Codec

open Sllurp.Foundations Sllurp.Foundations.Wire Sllurp.Foundations.Outcome Sllurp.Protocol

/-! ## Counts and what they declare -/

/-- What the bytes of a variable part are shown as. -/
inductive Shape
  | bytes
  | hex
  | array (format : Format)
  deriving DecidableEq

/-- The value that the bytes of a variable part are shown as. -/
def Shape.value : Shape → List UInt8 → Except Exn Value
  | bytes, part => .ok (.bytes part)
  | hex, part => .ok (.bytes (hexlify part))
  | array format, part => do .ok (.list (← wholeArray format part))

/-- A parameter with a variable part: where its two-byte count is, where the part starts,
how many bits a unit of the count has, and under which key the part is found. -/
structure Counted where
  name : String
  key : Option String
  countAt : ℕ
  start : ℕ
  unit : ℕ
  shape : Shape
  deriving DecidableEq

namespace Counted

variable (field : Counted)

/-- The number that the body declares. -/
def count (body : List UInt8) : ℕ := ofBytes ((body.drop field.countAt).take 2)

/-- The whole bytes that are declared. -/
def size (body : List UInt8) : ℕ := field.count body * field.unit / 8

/-- What a value has under the key. -/
def find (value : Value) : Option Value :=
  match field.key with
  | none => some value
  | some key => value.fields?.bind (·.get? key)

/-- The value shows this part; an empty one may be left out. -/
def Shows (value : Value) (part : List UInt8) : Prop :=
  ∃ content, field.shape.value part = .ok content ∧
    (field.find value = some content ∨ part = [] ∧ field.find value = none)

/-- The body is decoded to exactly the declared part, or refused. -/
def Honours (header : ParamHeader) (body : List UInt8) : Prop :=
  (∃ text, registry.decodeFramed registry.walk header body = .error (.llrpError text)) ∨
    ∃ value part,
      registry.decodeFramed registry.walk header body =
        .ok ⟨some field.name, value, header.fullLength⟩ ∧
      field.start ≤ body.length ∧ part <+: body.drop field.start ∧
      8 * part.length = field.count body * field.unit ∧ field.Shows value part

/-- The declared part is in the body, unless the count itself is cut off. -/
def Whole (body : List UInt8) : Prop :=
  body.length < field.start ∨
    field.count body * field.unit ≤ 8 * (body.length - field.start)

instance (body : List UInt8) : Decidable (field.Whole body) :=
  inferInstanceAs (Decidable (_ ∨ _))

/-- The part that a slice finds. -/
def part (body : List UInt8) : List UInt8 := (body.drop field.start).take (field.size body)

/-- What a slice leaves. -/
def rest (body : List UInt8) : List UInt8 := body.drop (field.start + field.size body)

/-- The parameters behind the variable part, if they are whole, do not have its key for a
name. -/
def Undisturbed (body : List UInt8) : Prop :=
  ∀ params, Registry.Tiled registry (field.rest body) params →
    ∀ param ∈ params, ∀ key ∈ field.key, param.name ≠ some key

/-- The decoder has read the part and hands on what is behind it. -/
inductive Carries (body : List UInt8) : Decoded → Prop
  | value (value : Value) (hshows : field.Shows value (field.part body)) :
      Carries body (.value value)
  | walk (fields : Fields) {key : String} (hkey : field.key = some key)
      (hshows : field.Shows fields.value (field.part body)) :
      Carries body (.rest field.name fields (field.rest body))

end Counted

/-- The exceptions of a decoder that become an LLRP error. -/
def Refusal (raised : Exn) : Prop := isBodyError raised = true ∨ LLRPOnly raised

/-! ## Framed parameters -/

section Framed

variable {header : ParamHeader} {name : String} {info : ParamInfo} {decode : Decoder}
  {body : List UInt8}

theorem decodeBody_eq (hparam : registry.param name = some info)
    (hdecoder : info.decode = some decode) :
    registry.decodeBody registry.walk name body =
      (do
        match ← decode name body with
        | .value value => .ok value
        | .walk name fields rest finish => do
          let decoded ← registry.walk name fields rest
          .ok (finish decoded).value) := by
  unfold Registry.decodeBody
  generalize registry.param name = foundParam at hparam ⊢
  subst hparam
  change (key "decode" info.decode >>= _) = _
  generalize info.decode = foundDecoder at hdecoder ⊢
  subst hdecoder
  rfl

theorem decodeFramed_of_ok (hname : registry.nameOf header = some name) {value : Value}
    (hbody : registry.decodeBody registry.walk name body = .ok value) :
    registry.decodeFramed registry.walk header body =
      .ok ⟨some name, value, header.fullLength⟩ := by
  unfold Registry.decodeFramed
  simp only [hname, hbody]

theorem decodeFramed_of_refusal (hname : registry.nameOf header = some name) {raised : Exn}
    (hbody : registry.decodeBody registry.walk name body = .error raised)
    (hrefusal : Refusal raised) :
    ∃ text, registry.decodeFramed registry.walk header body = .error (.llrpError text) := by
  unfold Registry.decodeFramed
  simp only [hname, hbody]
  rcases hrefusal with hbodyError | ⟨text, rfl⟩
  · cases raised with
    | structError text => exact ⟨_, rfl⟩
    | valueError text => exact ⟨_, rfl⟩
    | typeError text => exact ⟨_, rfl⟩
    | _ => cases hbodyError
  · exact ⟨text, rfl⟩

end Framed

/-! ## Walks over a rest -/

namespace Registry

variable {registry : Registry}

/-- Parameters that tile their data are all stored. -/
theorem exists_of_tiled (hsound : registry.Sound) {nFields : List String} {data : List UInt8}
    {params : List DecodedParam} (htiled : Tiled registry data params) {fields : Fields}
    (hlisted : Listed nFields fields) :
    ∃ result, registry.decodeAllParameters nFields fields data = .ok result ∧
      params.foldlM (store nFields) fields = .ok result := by
  induction htiled generalizing fields with
  | nil => exact ⟨fields, rfl, rfl⟩
  | @cons header data param params hframed hdecode hlength _ ih =>
    have hnonempty : data ≠ [] := by
      have hpos := hframed.fullLength_pos
      have hwhole := hframed.whole
      apply List.length_pos_iff.mp
      omega
    have hname : param.name ≠ some decodeErrorParname := by
      rcases (decodeFramed_eq_ok hdecode).2 with ⟨name, htype, hnamed, -⟩ | ⟨_, _, hnamed, -⟩
      · rw [hnamed]
        intro heq
        exact hsound.record _ (htype.trans heq)
      · rw [hnamed]
        exact fun hnone => nomatch hnone
    have hstores := yields_store hlisted hname
    cases hstore : store nFields fields param with
    | error raised => exact (hstores.of_error hstore).elim
    | ok stored =>
      obtain ⟨result, hall, hfold⟩ := ih (hstores.of_ok hstore)
      refine ⟨result, ?_, ?_⟩
      · rw [decodeAllParameters_eq hsound hnonempty, decodeParam_of_framed hframed, hdecode]
        simp only [Except.map, ok_bind, hstore, hlength, hall]
      · rw [List.foldlM_cons, hstore]
        exact hfold

/-- A key has what the last parameter of that name stored, or what it had before. -/
theorem get?_foldlM_store {nFields : List String} {key : String} (hkey : key ∉ nFields)
    (herror : key ≠ decodeErrorParname) {params : List DecodedParam} {fields result : Fields}
    (hfold : params.foldlM (store nFields) fields = .ok result) :
    (∃ param ∈ params, param.name = some key ∧ result.get? key = some param.value) ∨
      (∀ param ∈ params, param.name ≠ some key) ∧ result.get? key = fields.get? key := by
  induction params generalizing fields with
  | nil =>
    cases hfold
    exact .inr ⟨(fun _ hmem => nomatch hmem), rfl⟩
  | cons param params ih =>
    rw [List.foldlM_cons] at hfold
    obtain ⟨stored, hstore, hfold⟩ := bind_eq_ok_iff.mp hfold
    rcases ih hfold with ⟨later, hmem, hnamed, hget⟩ | ⟨hothers, hget⟩
    · exact .inl ⟨later, List.mem_cons_of_mem _ hmem, hnamed, hget⟩
    · by_cases hnamed : param.name = some key
      · refine .inl ⟨param, List.mem_cons_self, hnamed, ?_⟩
        unfold store at hstore
        simp only [hnamed, if_neg hkey] at hstore
        cases hstore
        rw [hget, Dict.get?_set_self]
      · refine .inr ⟨?_, ?_⟩
        · intro other hother
          rcases List.mem_cons.mp hother with rfl | hother
          · exact hnamed
          · exact hothers other hother
        · rw [hget]
          apply get?_store hstore
          intro heq
          cases hname : param.name with
          | none =>
            rw [hname] at heq
            exact herror heq
          | some name =>
            rw [hname] at heq
            exact hnamed (by rw [hname, heq, Option.getD_some])

end Registry

/-! ## What decoders do with their counts -/

namespace Counted

section Decoders

variable {field : Counted} {header : ParamHeader} {info : ParamInfo} {decode : Decoder}
  {body : List UInt8}

theorem honours_of_refusal (hname : registry.nameOf header = some field.name)
    (hparam : registry.param field.name = some info) (hdecoder : info.decode = some decode)
    {raised : Exn} (hdecode : decode field.name body = .error raised)
    (hrefusal : Refusal raised) : field.Honours header body := by
  apply Or.inl
  apply decodeFramed_of_refusal hname _ hrefusal
  rw [decodeBody_eq hparam hdecoder, hdecode]
  rfl

theorem eight_mul_size (hunit : 8 ∣ field.unit) :
    8 * field.size body = field.count body * field.unit := by
  obtain ⟨bytes, hbytes⟩ := hunit
  rw [size, hbytes, Nat.mul_left_comm, Nat.mul_div_cancel_left _ (by decide)]

/-- A part that is whole is what is declared. -/
theorem length_part (hunit : 8 ∣ field.unit)
    (hwhole : field.count body * field.unit ≤ 8 * (body.length - field.start)) :
    8 * (field.part body).length = field.count body * field.unit := by
  have hsize := @eight_mul_size field body hunit
  rw [part, List.length_take, List.length_drop, Nat.min_eq_left (by omega), hsize]

/-- What is behind the part is walked through, unless there is nothing. -/
theorem honours_of_carries (hname : registry.nameOf header = some field.name)
    (hparam : registry.param field.name = some info) (hdecoder : info.decode = some decode)
    (hunit : 8 ∣ field.unit) (hkey : ∀ key ∈ field.key, key ∉ decodeErrorParname :: info.nFields)
    {decoded : Decoded} (hdecode : decode field.name body = .ok decoded)
    (hcarries : field.Carries body decoded) (hstart : field.start ≤ body.length)
    (hwhole : field.count body * field.unit ≤ 8 * (body.length - field.start))
    (hundisturbed : field.Undisturbed body) : field.Honours header body := by
  have hbody := @decodeBody_eq _ _ _ body hparam hdecoder
  have hlength := length_part hunit hwhole
  rw [hdecode] at hbody
  cases hcarries with
  | value value hshows =>
    exact .inr ⟨value, _, decodeFramed_of_ok hname hbody, hstart, List.take_prefix _ _, hlength,
      hshows⟩
  | @walk fields key hfield hshows =>
    have hlisted := (Registry.Called.parameter hparam hdecoder hdecode).listed registry_sound
    have hwalk : registry.walk field.name fields (field.rest body) =
        registry.decodeAllParameters info.nFields fields (field.rest body) := by
      rw [Registry.walk, Registry.nFieldsOf_of_param hparam, ok_bind]
    simp only [Decoded.rest, ok_bind, hwalk] at hbody
    cases hall : registry.decodeAllParameters info.nFields fields (field.rest body) with
    | error raised =>
      have honly := (Registry.yields_decodeAllParameters registry_sound hlisted _).of_error hall
      rw [hall] at hbody
      exact .inl (decodeFramed_of_refusal hname hbody (.inr honly))
    | ok result =>
      obtain ⟨params, htiled, hfold⟩ := Registry.exists_tiled registry_sound hall
      rw [hall] at hbody
      refine .inr ⟨_, _, decodeFramed_of_ok hname hbody, hstart, List.take_prefix _ _, hlength, ?_⟩
      have hfind : field.find result.value = field.find fields.value := by
        have hnot := hkey key hfield
        rw [List.mem_cons, not_or] at hnot
        simp only [find, hfield, Value.fields?_value, Option.bind_some]
        rcases Registry.get?_foldlM_store hnot.2 hnot.1 hfold with
          ⟨param, hmem, hnamed, -⟩ | ⟨-, hget⟩
        · exact absurd hnamed (hundisturbed params htiled param hmem key hfield)
        · exact hget
      obtain ⟨content, hcontent, hplace⟩ := hshows
      refine ⟨content, hcontent, ?_⟩
      change field.find result.value = _ ∨ _ ∧ field.find result.value = _
      rw [hfind]
      exact hplace

/-- A part that is cut off is neither refused nor what is declared: nothing is left that
could be refused. -/
theorem not_honours_of_cut (hname : registry.nameOf header = some field.name)
    (hparam : registry.param field.name = some info) (hdecoder : info.decode = some decode)
    (hunit : 8 ∣ field.unit) {decoded : Decoded} (hdecode : decode field.name body = .ok decoded)
    (hcarries : field.Carries body decoded)
    (hcut : 8 * (body.length - field.start) < field.count body * field.unit) :
    ¬ field.Honours header body := by
  have hbody := @decodeBody_eq _ _ _ body hparam hdecoder
  have hsize := @eight_mul_size field body hunit
  rw [hdecode] at hbody
  have hok : ∃ value, registry.decodeBody registry.walk field.name body = .ok value := by
    cases hcarries with
    | value value hshows => exact ⟨value, hbody⟩
    | walk fields hfield hshows =>
      have hrest : field.rest body = [] := by
        apply List.drop_eq_nil_of_le
        omega
      simp only [Decoded.rest, ok_bind, hrest, Registry.walk, Registry.nFieldsOf_of_param hparam,
        Registry.decodeAllParameters_nil] at hbody
      exact ⟨_, hbody⟩
  obtain ⟨value, hok⟩ := hok
  have hframed := decodeFramed_of_ok hname hok
  rintro (⟨text, herror⟩ | ⟨value, part, -, -, hprefix, hlength, -⟩)
  · rw [hframed] at herror
    cases herror
  · have hle := hprefix.length_le
    rw [List.length_drop] at hle
    omega

end Decoders

/-- What a decoder has read, by the number of bytes that it took. -/
theorem carries_value {field : Counted} {body : List UInt8} {value : Value} {count : ℕ}
    (hsize : field.size body = count)
    (hshows : field.Shows value ((body.drop field.start).take count)) :
    field.Carries body (.value value) := by
  subst hsize
  exact .value value hshows

theorem carries_walk {field : Counted} {body rest : List UInt8} {fields : Fields} {key : String}
    {count : ℕ} (hkey : field.key = some key) (hsize : field.size body = count)
    (hrest : (body.drop field.start).drop count = rest)
    (hshows : field.Shows fields.value ((body.drop field.start).take count)) :
    field.Carries body (.rest field.name fields rest) := by
  subst hsize hrest
  rw [List.drop_drop]
  exact .walk fields hkey hshows

/-- What comes last under the key is found. -/
theorem find_last {field : Counted} {key : String} (hkey : field.key = some key)
    (entries : List (String × Value)) (content : Value) :
    field.find (Fields.value (.ofList (entries ++ [(key, content)]))) = some content := by
  simp only [find, hkey, Value.fields?_value, Option.bind_some]
  unfold Dict.ofList Dict.update
  rw [List.foldl_append]
  exact Dict.get?_set_self _ _ _

/-- A decoder that refuses a body without a count and slices every other one. -/
structure Clips (field : Counted) (decode : Decoder) : Prop where
  short : ∀ body, body.length < field.start →
    ∃ raised, decode field.name body = .error raised ∧ Refusal raised
  slices : ∀ body, field.start ≤ body.length →
    ∃ decoded, decode field.name body = .ok decoded ∧ field.Carries body decoded

/-- A decoder that refuses a part that is cut off as well. -/
structure Checks (field : Counted) (decode : Decoder) : Prop where
  short : ∀ body, body.length < field.start →
    ∃ raised, decode field.name body = .error raised ∧ Refusal raised
  cut : ∀ body, field.start ≤ body.length →
    8 * (body.length - field.start) < field.count body * field.unit →
    ∃ raised, decode field.name body = .error raised ∧ Refusal raised
  slices : ∀ body, field.start ≤ body.length →
    field.count body * field.unit ≤ 8 * (body.length - field.start) →
    ∃ decoded, decode field.name body = .ok decoded ∧ field.Carries body decoded

end Counted

/-! ## Decoders that slice -/

theorem unpackHead_of_short {formats : List Format} {data : List UInt8}
    (hshort : data.length < recordSize formats) :
    ∃ text, unpackHead formats data = .error (.structError text) := by
  unfold unpackHead unpackStruct
  cases hunpack : unpack formats (data.take (recordSize formats)) with
  | none => exact ⟨_, rfl⟩
  | some record =>
    have hlength := length_of_unpack hunpack
    rw [List.length_take] at hlength
    omega

theorem refusal_of_short {formats : List Format} {data : List UInt8}
    {next : Record formats → Except Exn Decoded} (hshort : data.length < recordSize formats) :
    ∃ raised, (unpackHead formats data >>= next) = .error raised ∧ Refusal raised := by
  obtain ⟨text, htext⟩ := unpackHead_of_short hshort
  exact ⟨_, by rw [htext]; rfl, .inl rfl⟩

/-- As many bytes as are counted. -/
theorem size_bytes (count : ℕ) : count * 8 / 8 = count := Nat.mul_div_cancel _ (by decide)

/-- Two bytes for each word. -/
theorem size_words (count : ℕ) : count * 16 / 8 = count * 2 := by omega

abbrev firmwareVersion : Counted :=
  ⟨"GeneralDeviceCapabilities", some "ReaderFirmwareVersion", 12, 14, 8, .bytes⟩

abbrev antennaList : Counted := ⟨"AISpec", some "AntennaID", 0, 2, 16, .array .ushort⟩

abbrev readerId : Counted := ⟨"Identification", some "ReaderID", 1, 3, 8, .hex⟩

abbrev readData : Counted := ⟨"C1G2ReadOpSpecResult", some "ReadData", 3, 5, 16, .bytes⟩

abbrev permalockStatus : Counted :=
  ⟨"C1G2GetBlockPermalockStatusOpSpecResult", some "PermalockStatus", 3, 5, 16, .bytes⟩

abbrev exceptionMessage : Counted := ⟨"ReaderExceptionEvent", some "Message", 0, 2, 8, .bytes⟩

abbrev errorDescription : Counted := ⟨"LLRPStatus", some "ErrorDescription", 2, 4, 8, .bytes⟩

abbrev serializedTid : Counted := ⟨"ImpinjSerializedTID", some "TID", 0, 2, 16, .bytes⟩

/-- The count comes at the end of the record. -/
theorem unpack_firmwareVersion {body : List UInt8} (hstart : 14 ≤ body.length) :
    ∃ antennas flags manufacturer model,
      unpackHead [.ushort, .ushort, .uint, .uint, .ushort] body =
        .ok (antennas, flags, manufacturer, model, (firmwareVersion.count body : ℤ), ()) := by
  match body, hstart with
  | a :: b :: c :: d :: e :: f :: g :: h :: i :: j :: k :: l :: m :: n :: rest, _ =>
    exact ⟨_, _, _, _, rfl⟩

theorem firmwareVersion_clips : firmwareVersion.Clips decodeGeneralDeviceCapabilities where
  short _ hshort := refusal_of_short hshort
  slices body hstart := by
    obtain ⟨antennas, flags, manufacturer, model, hunpack⟩ := unpack_firmwareVersion hstart
    have hdecode : decodeGeneralDeviceCapabilities firmwareVersion.name body = .ok
        (.rest "GeneralDeviceCapabilities"
          (.ofList
            [("MaxNumberOfAntennaSupported", .int antennas),
              ("DeviceManufacturerName", .int manufacturer), ("ModelName", .int model),
              ("FirmwareVersionByteCount", .int (firmwareVersion.count body)),
              ("CanSetAntennaProperties", flag flags 15),
              ("HasUTCClockCapability", flag flags 14),
              ("ReaderFirmwareVersion",
                .bytes ((body.drop 14).take (firmwareVersion.count body)))])
          ((body.drop 14).drop (firmwareVersion.count body))) := by
      rw [decodeGeneralDeviceCapabilities, hunpack, List.drop_drop, List.take_drop]
      rfl
    exact ⟨_, hdecode, Counted.carries_walk rfl (size_bytes _) rfl
      ⟨_, rfl, .inl (Counted.find_last rfl (_ :: _ :: _ :: _ :: _ :: [_]) _)⟩⟩

theorem exceptionMessage_clips : exceptionMessage.Clips decodeReaderExceptionEvent where
  short _ hshort := refusal_of_short hshort
  slices body hstart := by
    match body, hstart with
    | a :: b :: rest, _ =>
      exact ⟨_, rfl, Counted.carries_walk rfl (size_bytes _) rfl ⟨_, rfl, .inl rfl⟩⟩

theorem errorDescription_clips : errorDescription.Clips decodeLLRPStatus where
  short _ hshort := refusal_of_short hshort
  slices body hstart := by
    match body, hstart with
    | a :: b :: c :: d :: rest, _ =>
      exact ⟨_, rfl, Counted.carries_walk rfl (size_bytes _) rfl
        ⟨_, rfl, .inl (Counted.find_last rfl _ _)⟩⟩

theorem readerId_clips : readerId.Clips decodeIdentification where
  short _ hshort := refusal_of_short hshort
  slices body hstart := by
    match body, hstart with
    | a :: b :: c :: rest, _ =>
      exact ⟨_, rfl, Counted.carries_value (size_bytes _) ⟨_, rfl, .inl rfl⟩⟩

/-- The words of a result come behind its basic fields. -/
theorem refusal_of_short_words {countName wordsName name : String} {body : List UInt8}
    (hshort : body.length < 5) :
    ∃ raised, decodeWordsResult countName wordsName name body = .error raised ∧
      Refusal raised := by
  match body, hshort with
  | [], _ | [_], _ | [_, _], _ | [_, _, _], _ | [_, _, _, _], _ => exact ⟨_, rfl, .inl rfl⟩

theorem readData_clips : readData.Clips decodeC1G2ReadOpSpecResult where
  short _ hshort := refusal_of_short_words hshort
  slices body hstart := by
    match body, hstart with
    | a :: b :: c :: d :: e :: rest, _ =>
      exact ⟨_, rfl, Counted.carries_value (size_words _) ⟨_, rfl, .inl rfl⟩⟩

theorem permalockStatus_clips :
    permalockStatus.Clips decodeC1G2GetBlockPermalockStatusOpSpecResult where
  short _ hshort := refusal_of_short_words hshort
  slices body hstart := by
    match body, hstart with
    | a :: b :: c :: d :: e :: rest, _ =>
      exact ⟨_, rfl, Counted.carries_value (size_words _) ⟨_, rfl, .inl rfl⟩⟩

/-- A count of zero leaves the key out. -/
theorem serializedTid_shows (count : ℕ) (rest : List UInt8) :
    serializedTid.Shows (Fields.value (.ofList (("TIDWordCount", .int count) ::
      if (count : ℤ) = 0 then [] else [("TID", Value.bytes (rest.take (count * 2)))])))
      (rest.take (count * 2)) := by
  by_cases hcount : (count : ℤ) = 0
  · rw [if_pos hcount]
    obtain rfl : count = 0 := Int.ofNat.inj hcount
    exact ⟨_, rfl, .inr ⟨rfl, rfl⟩⟩
  · rw [if_neg hcount]
    exact ⟨_, rfl, .inl rfl⟩

theorem serializedTid_clips : serializedTid.Clips decodeImpinjSerializedTID where
  short _ hshort := refusal_of_short hshort
  slices body hstart := by
    match body, hstart with
    | a :: b :: rest, _ =>
      exact ⟨_, rfl, Counted.carries_walk rfl (size_words _) List.drop_drop
        (serializedTid_shows _ _)⟩

/-! ## Arrays -/

/-- An array that the data hold is read from its own bytes. -/
theorem decodeArray_take {format : Format} {count : ℕ} {data : List UInt8}
    (hwhole : count * format.size ≤ data.length) :
    ∃ items, decodeArray format count data = .ok items ∧
      decodeArray format count (data.take (count * format.size)) = .ok items := by
  induction count generalizing data with
  | zero => exact ⟨[], rfl, rfl⟩
  | succ count ih =>
    rw [Nat.succ_mul] at hwhole
    obtain ⟨items, hitems, htake⟩ := @ih (data.drop format.size) (by rw [List.length_drop]; omega)
    have hfirst : (data.take format.size).length = recordSize [format] := by
      rw [List.length_take, Nat.min_eq_left (by omega), recordSize_cons, recordSize_nil,
        Nat.add_zero]
    obtain ⟨⟨number, _⟩, hunpack⟩ := exists_unpackStruct hfirst
    have hhead : (data.take ((count + 1) * format.size)).take format.size =
        data.take format.size := by
      rw [List.take_take, Nat.min_eq_left (by rw [Nat.succ_mul]; omega)]
    have htail : (data.take ((count + 1) * format.size)).drop format.size =
        (data.drop format.size).take (count * format.size) := by
      rw [List.drop_take, Nat.succ_mul, Nat.add_sub_cancel]
    refine ⟨.int number :: items, ?_, ?_⟩
    · rw [decodeArray, hunpack]
      simp only [ok_bind, hitems]
    · rw [decodeArray, hhead, htail, hunpack]
      simp only [ok_bind, htake]

/-- An array that the data do not hold is refused. -/
theorem decodeArray_of_cut {format : Format} {count : ℕ} {data : List UInt8}
    (hcut : data.length < count * format.size) :
    ∃ text, decodeArray format count data = .error (.structError text) := by
  induction count generalizing data with
  | zero => omega
  | succ count ih =>
    rw [Nat.succ_mul] at hcut
    rw [decodeArray]
    cases hunpack : unpackStruct [format] (data.take format.size) with
    | error raised =>
      unfold unpackStruct at hunpack
      split at hunpack
      · cases hunpack
      · cases hunpack
        exact ⟨_, rfl⟩
    | ok record =>
      have hlength := length_of_unpack (unpackStruct_eq_ok_iff.mp hunpack)
      rw [List.length_take, recordSize_cons, recordSize_nil] at hlength
      obtain ⟨text, htext⟩ := @ih (data.drop format.size) (by rw [List.length_drop]; omega)
      obtain ⟨number, _⟩ := record
      simp only [ok_bind, htext]
      exact ⟨text, rfl⟩

/-- Whole elements are always there. -/
theorem exists_wholeArray (format : Format) (data : List UInt8) :
    ∃ items, wholeArray format data = .ok items := by
  obtain ⟨items, hitems, -⟩ := @decodeArray_take format (data.length / format.size) data
    (Nat.div_mul_le_self _ _)
  exact ⟨items, hitems⟩

theorem wholeArray_take {format : Format} {count : ℕ} {data : List UInt8}
    (hwhole : count * format.size ≤ data.length) :
    wholeArray format (data.take (count * format.size)) = decodeArray format count data := by
  obtain ⟨items, hitems, htake⟩ := decodeArray_take hwhole
  rw [wholeArray, List.length_take, Nat.min_eq_left hwhole,
    Nat.mul_div_cancel _ format.size_pos, hitems, htake]

/-- The antennas come before the parameters of the operation. -/
theorem decodeAISPec_eq {body : List UInt8} (hstart : 2 ≤ body.length) :
    ∃ fields, decodeAISPec "AISpec" body = .ok (.rest "AISpec" fields (antennaList.rest body)) ∧
      antennaList.Shows fields.value (antennaList.part body) := by
  match body, hstart with
  | a :: b :: rest, _ =>
    obtain ⟨items, hitems⟩ := exists_wholeArray .ushort (rest.take (2 * ofBytes [a, b]))
    have hsize : antennaList.size (a :: b :: rest) = 2 * ofBytes [a, b] := by
      change ofBytes [a, b] * 16 / 8 = _
      omega
    refine ⟨.ofList [("AntennaCount", .int (ofBytes [a, b] : ℕ)), ("AntennaID", .list items)], ?_,
      .list items, ?_, .inl rfl⟩
    · rw [Counted.rest, hsize]
      change (wholeArray .ushort (rest.take (2 * ofBytes [a, b])) >>= _) = _
      rw [hitems]
      rfl
    · rw [Counted.part, hsize]
      change (wholeArray .ushort (rest.take (2 * ofBytes [a, b])) >>= _) = _
      rw [hitems]
      rfl

theorem antennaList_clips : antennaList.Clips decodeAISPec where
  short _ hshort := refusal_of_short hshort
  slices body hstart := by
    obtain ⟨fields, hdecode, hshows⟩ := decodeAISPec_eq hstart
    exact ⟨_, hdecode, .walk fields rfl hshows⟩

/-! ## Decoders that check -/

abbrev ggaSentence : Counted := ⟨"ImpinjGGASentence", some "GGASentence", 0, 2, 8, .bytes⟩

abbrev rmcSentence : Counted := ⟨"ImpinjRMCSentence", some "RMCSentence", 0, 2, 8, .bytes⟩

abbrev hopFrequencies : Counted := ⟨"FrequencyHopTable", some "Frequency", 2, 4, 32, .array .uint⟩

abbrev fixedFrequencies : Counted :=
  ⟨"FixedFrequencyTable", some "Frequency", 0, 2, 32, .array .uint⟩

abbrev protocolIds : Counted := ⟨"PerAntennaAirProtocol", some "ProtocolID", 2, 4, 8, .array .ubyte⟩

abbrev channelList : Counted :=
  ⟨"ImpinjFixedFrequencyList", some "ChannelList", 4, 6, 16, .array .ushort⟩

abbrev reducedPowerChannelList : Counted :=
  ⟨"ImpinjReducedPowerFrequencyList", some "ReducedPowerChannelList", 4, 6, 16, .array .ushort⟩

abbrev frequencyList : Counted :=
  ⟨"ImpinjFrequencyCapabilities", some "FrequencyList", 0, 2, 32, .array .uint⟩

/-- A sentence that is cut off is refused with its own text. -/
theorem decodeNmeaSentence_checks (name key : String) :
    Counted.Checks ⟨name, some key, 0, 2, 8, .bytes⟩ (decodeNmeaSentence key) where
  short _ hshort := ⟨_, if_pos hshort, .inr ⟨_, rfl⟩⟩
  cut body hstart hcut := by
    match body, hstart with
    | a :: b :: rest, hstart =>
      have hlong : rest.length < ofBytes [a, b] := by
        change 8 * (rest.length + 1 + 1 - 2) < ofBytes [a, b] * 8 at hcut
        omega
      exact ⟨_, (if_neg (Nat.not_lt.mpr hstart)).trans (if_pos hlong), .inr ⟨_, rfl⟩⟩
  slices body hstart hwhole := by
    match body, hstart with
    | a :: b :: rest, hstart =>
      have hfits : ¬ rest.length < ofBytes [a, b] := by
        change ofBytes [a, b] * 8 ≤ 8 * (rest.length + 1 + 1 - 2) at hwhole
        omega
      refine ⟨_, (if_neg (Nat.not_lt.mpr hstart)).trans (if_neg hfits), ?_⟩
      exact Counted.carries_walk rfl (size_bytes _) rfl
        ⟨_, rfl, .inl (Counted.find_last rfl [] _)⟩

section Arrays

variable {field : Counted} {format : Format} {key : String} {decode : Decoder}

/-- An array that is read element by element is refused when it is cut off. -/
theorem checks_of_decodeArray (hshape : field.shape = .array format)
    (hunit : field.unit = 8 * format.size) (hkey : field.key = some key)
    (hshort : ∀ body, body.length < field.start →
      ∃ raised, decode field.name body = .error raised ∧ Refusal raised)
    (before : List UInt8 → List (String × Value))
    (hread : ∀ body, field.start ≤ body.length → decode field.name body =
      decodeArray format (field.count body) (body.drop field.start) >>= fun items =>
        .ok (.value (Fields.value (.ofList (before body ++ [(key, .list items)]))))) :
    field.Checks decode where
  short := hshort
  cut body hstart hcut := by
    have hlong : (body.drop field.start).length < field.count body * format.size := by
      rw [hunit, Nat.mul_left_comm] at hcut
      rw [List.length_drop]
      omega
    obtain ⟨text, htext⟩ := decodeArray_of_cut hlong
    exact ⟨_, by rw [hread body hstart, htext]; rfl, .inl rfl⟩
  slices body hstart hwhole := by
    have hfits : field.count body * format.size ≤ (body.drop field.start).length := by
      rw [hunit, Nat.mul_left_comm] at hwhole
      rw [List.length_drop]
      omega
    obtain ⟨items, hitems, -⟩ := decodeArray_take hfits
    have hsize : field.size body = field.count body * format.size := by
      rw [Counted.size, hunit, Nat.mul_left_comm, Nat.mul_div_cancel_left _ (by decide)]
    refine ⟨_, by rw [hread body hstart, hitems]; rfl, Counted.carries_value hsize ?_⟩
    refine ⟨.list items, ?_, .inl (Counted.find_last hkey _ _)⟩
    rw [hshape, Shape.value, wholeArray_take hfits, hitems]
    rfl

/-- So is one that has no key without elements. -/
theorem checks_of_arrayFields (hshape : field.shape = .array format)
    (hunit : field.unit = 8 * format.size) (hkey : field.key = some key)
    (hshort : ∀ body, body.length < field.start →
      ∃ raised, decode field.name body = .error raised ∧ Refusal raised)
    (before : List UInt8 → List (String × Value))
    (hbefore : ∀ body, field.find (Fields.value (.ofList (before body))) = none)
    (hread : ∀ body, field.start ≤ body.length → decode field.name body =
      arrayFields key format (field.count body) (body.drop field.start) >>= fun entries =>
        .ok (.value (Fields.value (.ofList (before body ++ entries))))) :
    field.Checks decode where
  short := hshort
  cut body hstart hcut := by
    have hlong : (body.drop field.start).length < field.count body * format.size := by
      rw [hunit, Nat.mul_left_comm] at hcut
      rw [List.length_drop]
      omega
    have hcount : (field.count body : ℤ) ≠ 0 := by
      intro hzero
      rw [Int.ofNat.inj hzero, Nat.zero_mul] at hlong
      exact Nat.not_lt_zero _ hlong
    obtain ⟨text, htext⟩ := decodeArray_of_cut hlong
    refine ⟨.structError text, ?_, .inl rfl⟩
    rw [hread body hstart, arrayFields, if_neg hcount, Int.toNat_natCast, htext]
    rfl
  slices body hstart hwhole := by
    have hfits : field.count body * format.size ≤ (body.drop field.start).length := by
      rw [hunit, Nat.mul_left_comm] at hwhole
      rw [List.length_drop]
      omega
    have hsize : field.size body = field.count body * format.size := by
      rw [Counted.size, hunit, Nat.mul_left_comm, Nat.mul_div_cancel_left _ (by decide)]
    by_cases hcount : (field.count body : ℤ) = 0
    · have hzero : field.count body * format.size = 0 := by
        rw [Int.ofNat.inj hcount, Nat.zero_mul]
      rw [hzero] at hsize
      refine ⟨_, by rw [hread body hstart, arrayFields, if_pos hcount]; rfl,
        Counted.carries_value hsize ⟨.list [], ?_, .inr ⟨rfl, ?_⟩⟩⟩
      · rw [hshape, Shape.value, List.take_zero, wholeArray, List.length_nil, Nat.zero_div]
        rfl
      · rw [List.append_nil]
        exact hbefore body
    · obtain ⟨items, hitems, -⟩ := decodeArray_take hfits
      have harray : arrayFields key format (field.count body) (body.drop field.start) =
          .ok [(key, .list items)] := by
        rw [arrayFields, if_neg hcount, Int.toNat_natCast, hitems]
        rfl
      refine ⟨_, by rw [hread body hstart, harray]; rfl,
        Counted.carries_value hsize ⟨.list items, ?_, .inl (Counted.find_last hkey _ _)⟩⟩
      rw [hshape, Shape.value, wholeArray_take hfits, hitems]
      rfl

end Arrays

theorem hopFrequencies_checks : hopFrequencies.Checks decodeFrequencyHopTable := by
  apply checks_of_arrayFields rfl rfl rfl (fun _ hshort => refusal_of_short hshort)
    (fun body => [("HopTableId", .int (ofBytes (body.take 1) : ℕ)),
      ("NumHops", .int (hopFrequencies.count body))]) (fun _ => rfl)
  intro body hstart
  match body, hstart with
  | a :: b :: c :: d :: rest, _ => rfl

theorem fixedFrequencies_checks : fixedFrequencies.Checks decodeFixedFrequencyTable := by
  apply checks_of_arrayFields rfl rfl rfl (fun _ hshort => refusal_of_short hshort)
    (fun body => [("NumFrequencies", .int (fixedFrequencies.count body))]) (fun _ => rfl)
  intro body hstart
  match body, hstart with
  | a :: b :: rest, _ => rfl

theorem protocolIds_checks : protocolIds.Checks decodePerAntennaAirProtocol := by
  apply checks_of_arrayFields rfl rfl rfl (fun _ hshort => refusal_of_short hshort)
    (fun body => [("AntennaID", .int (ofBytes (body.take 2) : ℕ)),
      ("NumProtocols", .int (protocolIds.count body))]) (fun _ => rfl)
  intro body hstart
  match body, hstart with
  | a :: b :: c :: d :: rest, _ => rfl

theorem channelList_checks : channelList.Checks decodeImpinjFixedFrequencyList := by
  apply checks_of_decodeArray rfl rfl rfl (fun _ hshort => refusal_of_short hshort)
    (fun body => [("FixedFrequencyMode", .int (ofBytes (body.take 2) : ℕ))])
  intro body hstart
  match body, hstart with
  | a :: b :: c :: d :: e :: f :: rest, _ => rfl

theorem reducedPowerChannelList_checks :
    reducedPowerChannelList.Checks decodeImpinjReducedPowerFrequencyList := by
  apply checks_of_decodeArray rfl rfl rfl (fun _ hshort => refusal_of_short hshort)
    (fun body => [("ReducedPowerMode", .int (ofBytes (body.take 2) : ℕ))])
  intro body hstart
  match body, hstart with
  | a :: b :: c :: d :: e :: f :: rest, _ => rfl

theorem frequencyList_checks : frequencyList.Checks decodeImpinjFrequencyCapabilities := by
  apply checks_of_decodeArray rfl rfl rfl (fun _ hshort => refusal_of_short hshort)
    (fun body => [("NumFrequencies", .int (frequencyList.count body))])
  intro body hstart
  match body, hstart with
  | a :: b :: rest, _ => rfl

/-! ## Strings behind one another -/

/-- The length that the string at the start of the data declares, with its count. -/
def stringSize (data : List UInt8) : ℕ := 2 + ofBytes (data.take 2)

/-- The value has under these names the strings in the data, each as long as declared. -/
def HoldsStrings (value : Value) : List String → List UInt8 → Prop
  | [], _ => True
  | name :: names, data =>
    stringSize data ≤ data.length ∧
      value.fields?.bind (·.get? name) = some (.bytes ((data.take (stringSize data)).drop 2)) ∧
      HoldsStrings value names (data.drop (stringSize data))

/-- Of the strings only the last one is cut off, behind its count. -/
def LastCut : List String → List UInt8 → Prop
  | [], _ => False
  | [_], data => 2 ≤ data.length ∧ data.length < stringSize data
  | _ :: names, data => stringSize data ≤ data.length ∧ LastCut names (data.drop (stringSize data))

/-- The strings are decoded as they are declared, or the body is refused. -/
def HonoursStrings (name : String) (names : List String) (header : ParamHeader)
    (body : List UInt8) : Prop :=
  (∃ text, registry.decodeFramed registry.walk header body = .error (.llrpError text)) ∨
    ∃ value, registry.decodeFramed registry.walk header body =
        .ok ⟨some name, value, header.fullLength⟩ ∧ HoldsStrings value names body

theorem not_holdsStrings_of_lastCut {value : Value} {names : List String} {data : List UInt8}
    (hcut : LastCut names data) : ¬ HoldsStrings value names data := by
  induction names generalizing data with
  | nil => exact hcut.elim
  | cons name names ih =>
    cases names with
    | nil => exact fun hholds => absurd hholds.1 (Nat.not_le.mpr hcut.2)
    | cons next names => exact fun hholds => ih hcut.2 hholds.2.2

/-- Only what is found under the names matters. -/
theorem holdsStrings_congr {value other : Value} {names : List String} {data : List UInt8}
    (hget : ∀ name ∈ names,
      value.fields?.bind (·.get? name) = other.fields?.bind (·.get? name))
    (hholds : HoldsStrings value names data) : HoldsStrings other names data := by
  induction names generalizing data with
  | nil => trivial
  | cons name names ih =>
    refine ⟨hholds.1, ?_, ih (fun later hmem => hget later (List.mem_cons_of_mem _ hmem))
      hholds.2.2⟩
    rw [← hget name List.mem_cons_self]
    exact hholds.2.1

/-- One string: its count is refused when it is cut off, and the string is not. -/
theorem decodeStrings_cons (name : String) (names : List String) (fields : Fields)
    (data : List UInt8) :
    (data.length < 2 ∧
        ∃ text, decodeStrings (name :: names) fields data = .error (.structError text)) ∨
      2 ≤ data.length ∧ decodeStrings (name :: names) fields data =
        decodeStrings names
          (fields.set name (.bytes ((data.take (stringSize data)).drop 2)))
          (data.drop (stringSize data)) := by
  match data with
  | [] => exact .inl ⟨by decide, _, rfl⟩
  | [_] => exact .inl ⟨Nat.one_lt_two, _, rfl⟩
  | a :: b :: rest =>
    refine .inr ⟨Nat.le_add_left _ _, ?_⟩
    have hsize : stringSize (a :: b :: rest) = ofBytes [a, b] + 2 := Nat.add_comm _ _
    have hunpack : unpackStruct [.ushort] ((a :: b :: rest).take 2) =
        .ok ((ofBytes [a, b] : ℕ), ()) := rfl
    rw [hsize, decodeStrings, hunpack]
    simp only [ok_bind, Int.toNat_natCast, List.take_succ_cons, List.drop_succ_cons,
      List.drop_zero]

/-- After a string that is cut off there is nothing left to read. -/
theorem decodeStrings_of_lastCut {names : List String} {fields : Fields} {data : List UInt8}
    (hcut : LastCut names data) : ∃ result, decodeStrings names fields data = .ok (result, []) := by
  induction names generalizing fields data with
  | nil => exact hcut.elim
  | cons name names ih =>
    rcases decodeStrings_cons name names fields data with ⟨hshort, -⟩ | ⟨-, hdecode⟩
    · cases names with
      | nil => exact absurd hcut.1 (Nat.not_le.mpr hshort)
      | cons next names =>
        have hle : stringSize data ≤ data.length := hcut.1
        unfold stringSize at hle
        omega
    · rw [hdecode]
      cases names with
      | nil =>
        rw [List.drop_eq_nil_of_le hcut.2.le]
        exact ⟨_, rfl⟩
      | cons next names => exact ih hcut.2

/-- Otherwise the body is refused, or all strings are found. The induction is on the names;
a later string has another name and leaves the earlier ones alone. -/
theorem decodeStrings_of_not_lastCut {names : List String} (hnodup : names.Nodup)
    {fields : Fields} {data : List UInt8} (hcut : ¬ LastCut names data) :
    (∃ text, decodeStrings names fields data = .error (.structError text)) ∨
      ∃ result rest, decodeStrings names fields data = .ok (result, rest) ∧
        HoldsStrings result.value names data ∧
        ∀ key ∉ names, result.get? key = fields.get? key := by
  induction names generalizing fields data with
  | nil => exact .inr ⟨fields, data, rfl, trivial, fun _ _ => rfl⟩
  | cons name names ih =>
    rw [List.nodup_cons] at hnodup
    rcases decodeStrings_cons name names fields data with ⟨-, hrefused⟩ | ⟨hcount, hdecode⟩
    · exact .inl hrefused
    · rw [hdecode]
      by_cases hwhole : stringSize data ≤ data.length
      · have hlater : ¬ LastCut names (data.drop (stringSize data)) := by
          intro hlast
          cases names with
          | nil => exact hlast
          | cons next names => exact hcut ⟨hwhole, hlast⟩
        rcases @ih hnodup.2 (fields.set name (.bytes ((data.take (stringSize data)).drop 2)))
          (data.drop (stringSize data)) hlater with hrefused | ⟨result, rest, hok, hholds, hother⟩
        · exact .inl hrefused
        · refine .inr ⟨result, rest, hok, ⟨hwhole, ?_, hholds⟩, ?_⟩
          · rw [Value.fields?_value, Option.bind_some, hother name hnodup.1, Dict.get?_set_self]
          · intro key hkey
            rw [List.mem_cons, not_or] at hkey
            rw [hother key hkey.2, Dict.get?_set, if_neg hkey.1]
      · cases names with
        | nil => exact absurd ⟨hcount, Nat.lt_of_not_le hwhole⟩ hcut
        | cons next names =>
          rw [List.drop_eq_nil_of_le (Nat.le_of_not_le hwhole)]
          exact .inl ⟨_, rfl⟩

/-! ## The registered parameters -/

/-- The decoders that slice, without that of antenna lists. -/
def slicedFields : List Counted :=
  [firmwareVersion, readerId, readData, permalockStatus, exceptionMessage, errorDescription,
    serializedTid]

def checkedFields : List Counted :=
  [ggaSentence, rmcSentence, hopFrequencies, fixedFrequencies, protocolIds, channelList,
    reducedPowerChannelList, frequencyList]

/-- The parameters with strings behind one another. -/
def versionNames : List (String × List String) :=
  [("ImpinjDetailedVersion",
      ["ModelName", "SerialNumber", "SoftwareVersion", "FirmwareVersion", "FPGAVersion",
        "PCBAVersion"]),
    ("ImpinjArrayVersion", ["SerialNumber", "FirmwareVersion", "PCBAVersion"]),
    ("ImpinjBLEVersion", ["FirmwareVersion"])]

/-- The count of an EPC is in bits. -/
abbrev epcBits : Counted := ⟨"EPC", none, 0, 2, 1, .hex⟩

/-- What is registered for a counted parameter. -/
structure Counted.Registered (field : Counted) (decode : Decoder) : Prop where
  entry : ∃ info, registry.param field.name = some info ∧ info.decode = some decode ∧
    ∀ key ∈ field.key, key ∉ decodeErrorParname :: info.nFields
  unit : 8 ∣ field.unit

theorem slicedFields_registered : ∀ field ∈ slicedFields,
    ∃ decode, field.Registered decode ∧ field.Clips decode := by
  simp only [slicedFields, List.forall_mem_cons]
  exact ⟨⟨_, ⟨⟨_, rfl, rfl, by decide⟩, by decide⟩, firmwareVersion_clips⟩,
    ⟨_, ⟨⟨_, rfl, rfl, by decide⟩, by decide⟩, readerId_clips⟩,
    ⟨_, ⟨⟨_, rfl, rfl, by decide⟩, by decide⟩, readData_clips⟩,
    ⟨_, ⟨⟨_, rfl, rfl, by decide⟩, by decide⟩, permalockStatus_clips⟩,
    ⟨_, ⟨⟨_, rfl, rfl, by decide⟩, by decide⟩, exceptionMessage_clips⟩,
    ⟨_, ⟨⟨_, rfl, rfl, by decide⟩, by decide⟩, errorDescription_clips⟩,
    ⟨_, ⟨⟨_, rfl, rfl, by decide⟩, by decide⟩, serializedTid_clips⟩,
    fun _ hmem => nomatch hmem⟩

theorem checkedFields_registered : ∀ field ∈ checkedFields,
    ∃ decode, field.Registered decode ∧ field.Checks decode := by
  simp only [checkedFields, List.forall_mem_cons]
  exact ⟨⟨_, ⟨⟨_, rfl, rfl, by decide⟩, by decide⟩, decodeNmeaSentence_checks _ _⟩,
    ⟨_, ⟨⟨_, rfl, rfl, by decide⟩, by decide⟩, decodeNmeaSentence_checks _ _⟩,
    ⟨_, ⟨⟨_, rfl, rfl, by decide⟩, by decide⟩, hopFrequencies_checks⟩,
    ⟨_, ⟨⟨_, rfl, rfl, by decide⟩, by decide⟩, fixedFrequencies_checks⟩,
    ⟨_, ⟨⟨_, rfl, rfl, by decide⟩, by decide⟩, protocolIds_checks⟩,
    ⟨_, ⟨⟨_, rfl, rfl, by decide⟩, by decide⟩, channelList_checks⟩,
    ⟨_, ⟨⟨_, rfl, rfl, by decide⟩, by decide⟩, reducedPowerChannelList_checks⟩,
    ⟨_, ⟨⟨_, rfl, rfl, by decide⟩, by decide⟩, frequencyList_checks⟩,
    fun _ hmem => nomatch hmem⟩

/-- Apart from antenna lists, no variable part has the name of a parameter. -/
theorem keys_not_names : ∀ field ∈ slicedFields ++ checkedFields, ∀ key ∈ field.key,
    ∀ entry ∈ paramType2Name, entry.2 ≠ key := by
  decide +kernel

theorem versionNames_not_names : ∀ entry ∈ versionNames, ∀ key ∈ entry.2,
    key ≠ decodeErrorParname ∧ ∀ registered ∈ paramType2Name, registered.2 ≠ key := by
  decide +kernel

theorem mem_of_typeName {type : ℕ × ℕ × ℕ} {name : String}
    (htype : registry.typeName type = some name) : ∃ entry ∈ paramType2Name, entry.2 = name :=
  ⟨_, mem_of_lookup htype, rfl⟩

/-- A parameter that tiles the data has a name of the registry, and was decoded. -/
theorem decoded_of_tiled {data : List UInt8} {params : List DecodedParam}
    (htiled : Registry.Tiled registry data params) {param : DecodedParam} (hmem : param ∈ params)
    {name : String} (hnamed : param.name = some name) :
    (∃ type, registry.typeName type = some name) ∧
      ∃ body, registry.decodeBody registry.walk name body = .ok param.value := by
  induction htiled with
  | nil => cases hmem
  | cons hframed hdecode hlength hrest ih =>
    rcases List.mem_cons.mp hmem with rfl | hmem
    · rcases (Registry.decodeFramed_eq_ok hdecode).2 with
        ⟨found, htype, hfound, hbody⟩ | ⟨_, _, hnone, -⟩
      · rw [hnamed, Option.some_inj] at hfound
        subst hfound
        exact ⟨⟨_, htype⟩, _, hbody⟩
      · rw [hnamed] at hnone
        cases hnone
    · exact ih hmem

section Honours

variable {header : ParamHeader} {body : List UInt8}

theorem undisturbed_of_key {field : Counted} (hmem : field ∈ slicedFields ++ checkedFields) :
    field.Undisturbed body := by
  intro params htiled param hparam key hkey hnamed
  obtain ⟨⟨type, htype⟩, -⟩ := decoded_of_tiled htiled hparam hnamed
  obtain ⟨entry, hentry, hname⟩ := mem_of_typeName htype
  exact keys_not_names field hmem key hkey entry hentry hname

/-- A decoder that checks its count honours it. -/
theorem honours_checked {field : Counted} (hmem : field ∈ checkedFields)
    (hname : registry.nameOf header = some field.name) : field.Honours header body := by
  obtain ⟨decode, ⟨⟨info, hparam, hdecoder, hkey⟩, hunit⟩, hchecks⟩ :=
    checkedFields_registered field hmem
  by_cases hstart : field.start ≤ body.length
  · by_cases hwhole : field.count body * field.unit ≤ 8 * (body.length - field.start)
    · obtain ⟨decoded, hdecode, hcarries⟩ := hchecks.slices body hstart hwhole
      exact Counted.honours_of_carries hname hparam hdecoder hunit hkey hdecode hcarries hstart
        hwhole (undisturbed_of_key (List.mem_append_right _ hmem))
    · obtain ⟨raised, hdecode, hrefusal⟩ :=
        hchecks.cut body hstart (Nat.lt_of_not_le hwhole)
      exact Counted.honours_of_refusal hname hparam hdecoder hdecode hrefusal
  · obtain ⟨raised, hdecode, hrefusal⟩ := hchecks.short body (Nat.lt_of_not_le hstart)
    exact Counted.honours_of_refusal hname hparam hdecoder hdecode hrefusal

/-- A decoder that slices honours a count of what is there. -/
theorem whole_of_honours {field : Counted} {decode : Decoder}
    (hregistered : field.Registered decode) (hclips : field.Clips decode)
    (hname : registry.nameOf header = some field.name)
    (hhonours : field.Honours header body) : field.Whole body := by
  obtain ⟨⟨info, hparam, hdecoder, hkey⟩, hunit⟩ := hregistered
  by_cases hstart : field.start ≤ body.length
  · by_contra hcut
    obtain ⟨decoded, hdecode, hcarries⟩ := hclips.slices body hstart
    rw [Counted.Whole, not_or, not_le] at hcut
    exact Counted.not_honours_of_cut hname hparam hdecoder hunit hdecode hcarries hcut.2 hhonours
  · exact .inl (Nat.lt_of_not_le hstart)

theorem honours_of_whole {field : Counted} {decode : Decoder}
    (hregistered : field.Registered decode) (hclips : field.Clips decode)
    (hname : registry.nameOf header = some field.name)
    (hwhole : field.Whole body) (hundisturbed : field.Undisturbed body) :
    field.Honours header body := by
  obtain ⟨⟨info, hparam, hdecoder, hkey⟩, hunit⟩ := hregistered
  by_cases hstart : field.start ≤ body.length
  · obtain ⟨decoded, hdecode, hcarries⟩ := hclips.slices body hstart
    exact Counted.honours_of_carries hname hparam hdecoder hunit hkey hdecode hcarries hstart
      (hwhole.resolve_left (Nat.not_lt.mpr hstart)) hundisturbed
  · obtain ⟨raised, hdecode, hrefusal⟩ := hclips.short body (Nat.lt_of_not_le hstart)
    exact Counted.honours_of_refusal hname hparam hdecoder hdecode hrefusal

theorem honours_sliced_iff {field : Counted} (hmem : field ∈ slicedFields)
    (hname : registry.nameOf header = some field.name) :
    field.Honours header body ↔ field.Whole body := by
  obtain ⟨decode, hregistered, hclips⟩ := slicedFields_registered field hmem
  exact ⟨whole_of_honours hregistered hclips hname,
    fun hwhole => honours_of_whole hregistered hclips hname hwhole
      (undisturbed_of_key (List.mem_append_left _ hmem))⟩

theorem antennaList_registered : antennaList.Registered decodeAISPec :=
  ⟨⟨_, rfl, rfl, by decide⟩, by decide⟩

/-- An antenna on its own is a number. -/
theorem int_of_antenna {value : Value}
    (hdecode : registry.decodeBody registry.walk "AntennaID" body = .ok value) :
    ∃ number, value = .int number := by
  have hbody : registry.decodeBody registry.walk "AntennaID" body = _ :=
    decodeBody_eq rfl rfl
  rw [hbody] at hdecode
  unfold basicParamDecodeGenerator at hdecode
  cases hunpack : unpackStruct [.ushort] body with
  | error raised =>
    rw [hunpack] at hdecode
    cases hdecode
  | ok record =>
    rw [hunpack] at hdecode
    cases hdecode
    exact ⟨_, rfl⟩

/-- With an antenna behind the list, what is under the key is no list. -/
theorem not_honours_of_antenna (hname : registry.nameOf header = some antennaList.name)
    {params : List DecodedParam} (htiled : Registry.Tiled registry (antennaList.rest body) params)
    {param : DecodedParam} (hmem : param ∈ params) (hnamed : param.name = some "AntennaID") :
    ¬ antennaList.Honours header body := by
  obtain ⟨⟨info, hparam, hdecoder, hkey⟩, -⟩ := antennaList_registered
  have hstart : 2 ≤ body.length := by
    by_contra hshort
    have hrest : antennaList.rest body = [] := by
      apply List.drop_eq_nil_of_le
      change body.length ≤ 2 + _
      omega
    rw [hrest] at htiled
    cases htiled with
    | nil => cases hmem
    | cons hframed => exact Nat.not_lt_zero _ (hframed.fullLength_pos.trans_le hframed.whole)
  obtain ⟨fields, hdecode, -⟩ := decodeAISPec_eq hstart
  have hlisted := (Registry.Called.parameter hparam hdecoder hdecode).listed registry_sound
  obtain ⟨result, hall, hfold⟩ := Registry.exists_of_tiled registry_sound htiled hlisted
  have hbody := @decodeBody_eq _ _ _ body hparam hdecoder
  rw [hdecode] at hbody
  simp only [Decoded.rest, ok_bind, Registry.walk, Registry.nFieldsOf_of_param hparam,
    hall] at hbody
  have hframed := decodeFramed_of_ok hname hbody
  have hnot := hkey "AntennaID" rfl
  rw [List.mem_cons, not_or] at hnot
  rintro (⟨text, herror⟩ | ⟨value, part, hok, -, -, -, content, hcontent, hplace⟩)
  · rw [hframed] at herror
    cases herror
  · rw [hframed] at hok
    cases hok
    have hget : ∃ number, result.get? "AntennaID" = some (.int number) := by
      rcases Registry.get?_foldlM_store hnot.2 hnot.1 hfold with
        ⟨last, hlast, hlastNamed, hget⟩ | ⟨hnone, -⟩
      · obtain ⟨-, antenna, hantenna⟩ := decoded_of_tiled htiled hlast hlastNamed
        obtain ⟨number, hnumber⟩ := int_of_antenna hantenna
        exact ⟨number, by rw [hget, hnumber]⟩
      · exact absurd hnamed (hnone param hmem)
    obtain ⟨number, hget⟩ := hget
    have hfind : antennaList.find result.value = some (.int number) := by
      simp only [Counted.find, Value.fields?_value, Option.bind_some, hget]
    obtain ⟨items, -, hitems⟩ := bind_eq_ok_iff.mp hcontent
    cases hitems
    change antennaList.find result.value = _ ∨ _ ∧ antennaList.find result.value = _ at hplace
    rw [hfind] at hplace
    rcases hplace with hlist | ⟨-, hnone⟩
    · cases hlist
    · cases hnone

/-- The antennas of a list share their key with the antenna of a report, which takes the
place of the list when it is among the parameters behind it. -/
theorem honours_antennaList_iff (hname : registry.nameOf header = some antennaList.name) :
    antennaList.Honours header body ↔ antennaList.Whole body ∧ antennaList.Undisturbed body := by
  constructor
  · intro hhonours
    have hwhole := whole_of_honours antennaList_registered antennaList_clips hname hhonours
    exact ⟨hwhole, fun params htiled param hmem key hkey hnamed => by
      cases hkey
      exact not_honours_of_antenna hname htiled hmem hnamed hhonours⟩
  · rintro ⟨hwhole, hundisturbed⟩
    exact honours_of_whole antennaList_registered antennaList_clips hname hwhole hundisturbed

theorem length_hexlify (data : List UInt8) : (hexlify data).length = 2 * data.length := by
  induction data with
  | nil => rfl
  | cons byte data ih =>
    change (hexlify data).length + 1 + 1 = 2 * (data.length + 1)
    omega

/-- Everything behind the bit count is the EPC. -/
theorem decodeFramed_epc (hname : registry.nameOf header = some "EPC") :
    registry.decodeFramed registry.walk header body =
      .ok ⟨some "EPC", .bytes (hexlify (body.drop 2)), header.fullLength⟩ := by
  apply decodeFramed_of_ok hname
  have hbody : registry.decodeBody registry.walk "EPC" body = _ := decodeBody_eq rfl rfl
  exact hbody

theorem honours_epcBits_iff (hname : registry.nameOf header = some "EPC") :
    epcBits.Honours header body ↔
      2 ≤ body.length ∧ epcBits.count body = 8 * (body.length - 2) := by
  have hframed := @decodeFramed_epc header body hname
  constructor
  · rintro (⟨text, herror⟩ | ⟨value, part, hok, hstart, -, hlength, content, hcontent, hplace⟩)
    · rw [hframed] at herror
      cases herror
    · rw [hframed] at hok
      cases hok
      cases hcontent
      have hsame : hexlify (body.drop 2) = hexlify part := by
        rcases hplace with hfind | ⟨-, hnone⟩
        · exact Value.bytes.inj (Option.some_inj.mp hfind)
        · cases hnone
      have hlengths := congrArg List.length hsame
      rw [length_hexlify, length_hexlify, List.length_drop] at hlengths
      change 8 * part.length = epcBits.count body * 1 at hlength
      exact ⟨hstart, by omega⟩
  · rintro ⟨hstart, hcount⟩
    refine .inr ⟨_, body.drop 2, hframed, hstart, List.prefix_rfl, ?_, _, rfl, .inl rfl⟩
    rw [List.length_drop]
    change _ = epcBits.count body * 1
    omega

/-- An EPC of the whole bytes that its bits take up. -/
def PaddedEPC (header : ParamHeader) (body : List UInt8) : Prop :=
  ∃ part, registry.decodeFramed registry.walk header body =
      .ok ⟨some "EPC", .bytes (hexlify part), header.fullLength⟩ ∧
    2 ≤ body.length ∧ part <+: body.drop 2 ∧ part.length = (epcBits.count body + 7) / 8

theorem paddedEPC_iff (hname : registry.nameOf header = some "EPC") :
    PaddedEPC header body ↔
      2 ≤ body.length ∧ (epcBits.count body + 7) / 8 = body.length - 2 := by
  have hframed := @decodeFramed_epc header body hname
  constructor
  · rintro ⟨part, hok, hstart, -, hlength⟩
    rw [hframed, Except.ok.injEq, DecodedParam.mk.injEq] at hok
    have hlengths := congrArg List.length (Value.bytes.inj hok.2.1)
    rw [length_hexlify, length_hexlify, List.length_drop] at hlengths
    exact ⟨hstart, by omega⟩
  · rintro ⟨hstart, hcount⟩
    exact ⟨body.drop 2, hframed, hstart, List.prefix_rfl, by rw [List.length_drop, hcount]⟩

/-- The decoders of versions are registered under their own names. -/
theorem versionNames_registered : ∀ entry ∈ versionNames,
    (∃ info, registry.param entry.1 = some info ∧
      info.decode = some (decodeVersions entry.2 entry.1)) ∧ entry.2.Nodup := by
  simp only [versionNames, List.forall_mem_cons]
  exact ⟨⟨⟨_, rfl, rfl⟩, by decide⟩, ⟨⟨_, rfl, rfl⟩, by decide⟩, ⟨⟨_, rfl, rfl⟩, by decide⟩,
    fun _ hmem => nomatch hmem⟩

theorem honoursStrings_iff {entry : String × List String} (hmem : entry ∈ versionNames)
    (hname : registry.nameOf header = some entry.1) :
    HonoursStrings entry.1 entry.2 header body ↔ ¬ LastCut entry.2 body := by
  obtain ⟨⟨info, hparam, hdecoder⟩, hnodup⟩ := versionNames_registered entry hmem
  have hbody := @decodeBody_eq _ _ _ body hparam hdecoder
  constructor
  · rintro (⟨text, herror⟩ | ⟨value, -, hholds⟩) hcut
    · obtain ⟨fields, hstrings⟩ := @decodeStrings_of_lastCut _ .empty _ hcut
      rw [decodeVersions, hstrings] at hbody
      simp only [ok_bind, Decoded.rest, Registry.walk, Registry.nFieldsOf_of_param hparam,
        Registry.decodeAllParameters_nil] at hbody
      rw [decodeFramed_of_ok hname hbody] at herror
      cases herror
    · exact not_holdsStrings_of_lastCut hcut hholds
  · intro hcut
    rcases @decodeStrings_of_not_lastCut _ hnodup .empty _ hcut with
      ⟨text, hrefused⟩ | ⟨fields, rest, hstrings, hholds, -⟩
    · rw [decodeVersions, hrefused] at hbody
      exact .inl (decodeFramed_of_refusal hname hbody (.inl rfl))
    · have hdecode : decodeVersions entry.2 entry.1 entry.1 body =
          .ok (.rest entry.1 fields rest) := by
        rw [decodeVersions, hstrings]
        rfl
      have hlisted := (Registry.Called.parameter hparam hdecoder hdecode).listed registry_sound
      rw [hdecode] at hbody
      simp only [ok_bind, Decoded.rest, Registry.walk, Registry.nFieldsOf_of_param hparam] at hbody
      cases hall : registry.decodeAllParameters info.nFields fields rest with
      | error raised =>
        have honly :=
          (Registry.yields_decodeAllParameters registry_sound hlisted _).of_error hall
        rw [hall] at hbody
        exact .inl (decodeFramed_of_refusal hname hbody (.inr honly))
      | ok result =>
        rw [hall] at hbody
        refine .inr ⟨_, decodeFramed_of_ok hname hbody, holdsStrings_congr ?_ hholds⟩
        intro key hkey
        obtain ⟨herror, hnot⟩ := versionNames_not_names entry hmem key hkey
        have hget : result.get? key = fields.get? key := by
          apply Registry.get?_walkAll herror _ hall
          intro type htype
          obtain ⟨registered, hregistered, heq⟩ := mem_of_typeName htype
          exact hnot registered hregistered heq
        change fields.value.fields?.bind _ = result.value.fields?.bind _
        rw [Value.fields?_value, Value.fields?_value, Option.bind_some, Option.bind_some, hget]

end Honours

/-! ## Honoured counts -/

/-- Which counts are honoured: always those that are checked or read element by element;
those of slices if and only if the declared part is in the body; that of antennas if, in
addition, no antenna is among the parameters behind them; that of an EPC if and only if
there are exactly so many bits, or so many padded to whole bytes; those of versions if and
only if the last one is not the only one cut off. -/
theorem counts_honoured_iff (header : ParamHeader) (body : List UInt8) :
    (∀ field ∈ checkedFields, registry.nameOf header = some field.name →
      field.Honours header body) ∧
    (∀ field ∈ slicedFields, registry.nameOf header = some field.name →
      (field.Honours header body ↔ field.Whole body)) ∧
    (registry.nameOf header = some antennaList.name →
      (antennaList.Honours header body ↔
        antennaList.Whole body ∧ antennaList.Undisturbed body)) ∧
    (registry.nameOf header = some epcBits.name →
      (epcBits.Honours header body ↔
        2 ≤ body.length ∧ epcBits.count body = 8 * (body.length - 2)) ∧
      (PaddedEPC header body ↔
        2 ≤ body.length ∧ (epcBits.count body + 7) / 8 = body.length - 2)) ∧
    ∀ entry ∈ versionNames, registry.nameOf header = some entry.1 →
      (HonoursStrings entry.1 entry.2 header body ↔ ¬ LastCut entry.2 body) :=
  ⟨fun _ hmem hname => honours_checked hmem hname,
    fun _ hmem hname => honours_sliced_iff hmem hname,
    fun hname => honours_antennaList_iff hname,
    fun hname => ⟨honours_epcBits_iff hname, paddedEPC_iff hname⟩,
    fun _ hmem hname => honoursStrings_iff hmem hname⟩

/-- A status with a text of two bytes. -/
theorem counts_honoured_status :
    errorDescription.Honours { paramType := 287, headerLength := 4, fullLength := 10 }
      [0, 100, 0, 2, 110, 111] :=
  ((counts_honoured_iff _ _).2.1 errorDescription (by decide) (by decide +kernel)).mpr (by decide)

/-- The header of a status whose body has four bytes. -/
def shortStatus : ParamHeader := { paramType := 287, headerLength := 4, fullLength := 8 }

theorem nameOf_shortStatus : registry.nameOf shortStatus = some errorDescription.name := by
  decide +kernel

/-- A status that declares five bytes of text and has none. -/
theorem status_cut_off :
    registry.nameOf shortStatus = some errorDescription.name ∧
      ¬ errorDescription.Honours shortStatus [0, 0, 0, 5] := by
  refine ⟨nameOf_shortStatus, ?_⟩
  rw [honours_sliced_iff (by decide) nameOf_shortStatus]
  decide

end Sllurp.Codec
