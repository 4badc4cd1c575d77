/-
# What is read where a value was written

The decoder does not always give back the value that the encoder got. Names of codes
come back as numbers, fields that the type does not have are gone, and a type without
a decoder becomes a record. For any registry, a table says what the fixed part of each
type is read as; from there what a whole tree of parameters is read as follows from
the values alone, without the bytes in between.
-/

import Sllurp.Codec.HeaderRoundTrip
import Sllurp.Codec.Sound

namespace Sllurp.Codec

open Sllurp.Foundations Sllurp.Foundations.Wire Sllurp.Foundations.Outcome Sllurp.Protocol

/-! ## Readings -/

/-- What a parameter is read as: its name if it could be decoded, and its value. -/
structure Reading where
  name : Option String
  value : Value

/-- The reading of a parameter that takes so many bytes. -/
def Reading.param (length : ℕ) (reading : Reading) : DecodedParam :=
  ⟨reading.name, reading.value, length⟩

/-- The parameters of one name: those in a list, or a single one. -/
def childrenOf (par : Value) (name : String) (isMultiple : Bool) : List (String × Value) :=
  match par.fields?.bind (·.get? name) with
  | none => []
  | some value =>
    if isMultiple then
      match value with
      | .list items => items.map fun item => (name, item)
      | _ => []
    else [(name, value)]

/-- The parameters that an encoder goes through, in wire order. -/
def children (layout : Layout) (par : Value) : List (String × Value) :=
  layout.autoFields.flatMap fun field => childrenOf par field.1 field.2

/-- How the body of a type is read: not at all, up to the end of its fixed part, or
with the parameters that were written behind it. -/
inductive Form
  | unread
  | value (read : Value → Except Exn Value)
  | fields (read : Value → Except Exn Fields) (inner : Layout → Value → List (String × Value))

/-- A fixed part, and all the parameters of the type. -/
abbrev Form.nested (read : Value → Except Exn Fields) : Form := .fields read children

/-- Store the readings of parameters one after the other. -/
def readParameters (readParam : String → Value → Except Exn (Option Reading))
    (nFields : List String) (fields : Fields) (params : List (String × Value)) :
    Except Exn Fields :=
  params.foldlM
    (fun fields (name, value) => do
      match ← readParam name value with
      | none => .ok fields
      | some reading => Registry.store nFields fields (reading.param 0))
    fields

/-- What the body of a parameter is read as. -/
def Form.read (readParam : String → Value → Except Exn (Option Reading)) (layout : Layout)
    (par : Value) : Form → Except Exn Value
  | .unread => .error (.missingKey "decode")
  | .value read => read par
  | .fields read inner => do
    let fields ← read par
    .ok (← readParameters readParam layout.nFields fields (inner layout par)).value

/-- What becomes of the reading of a body: without a decoder, or without a name for one
of its codes, the parameter is a record of its bytes. -/
def settle (header : ParamHeader) (name : String) (body : List UInt8) :
    Except Exn Value → Except Exn Reading
  | .ok value => .ok ⟨some name, value⟩
  | .error (.keyError _) =>
    .ok ⟨none, (errorRecord header name "DecodeFunctionMissing" body).value⟩
  | .error raised =>
    if isBodyError raised then
      .error (.llrpError s!"Unable to decode parameter {name}: {raised.str}")
    else .error raised

/-- The type, the vendor and the subtype that are written for a parameter. -/
def writtenKey (name : String) (layout : Layout) (par : Value) : Except Exn ParamHeader := do
  let (vendorId, subtype) ← vendorOf (name = "CustomParameter") layout par
  .ok
    { paramType := layout.type
      vendorId := (← vendorId.index).toNat
      subtype := (← subtype.index).toNat
      headerLength := 0
      fullLength := 0 }

namespace Registry

variable (registry : Registry) (forms : String → Form)

/-- What is read where a value was written: nothing, if nothing was. The payload of a
custom parameter is that of the type which its vendor and subtype name. -/
def readBackWith : ℕ → String → Value → Except Exn (Option Reading)
  | 0, _, _ => .error (.recursionError "maximum recursion depth exceeded")
  | fuel + 1, name, par =>
    match registry.param name with
    | none => .ok none
    | some info =>
      match info.encode with
      | none => .ok none
      | some encode => do
        let body ← encode (registry.encodeParamWith fuel) info.toLayout par
        let header ← writtenKey name info.toLayout par
        if name = "CustomParameter" then
          let param ← registry.decodeFramed registry.walk header body
          .ok (some ⟨param.name, param.value⟩)
        else
          let reading ← settle header name body
            ((forms name).read (readBackWith fuel) info.toLayout par)
          .ok (some reading)

/-- What is read where a value was written as a parameter of this name. -/
def readBack (name : String) (par : Value) : Except Exn (Option Reading) :=
  registry.readBackWith forms (par.depth + 8) name par

/-! ## Tables that agree with a registry -/

/-- What was written for parameters one after the other. -/
def Written (fuel : ℕ) (params : List (String × Value)) (bytes : List UInt8) : Prop :=
  ∃ parts, params.mapM (fun param => registry.encodeParamWith fuel param.1 param.2) =
    .ok parts ∧ bytes = parts.flatten

/-- The decoder of a type reads what its encoder writes in the way that the form says. -/
inductive Agrees (name : String) (info : ParamInfo) (encode : Encoder) : Form → Prop
  | unread (hdecoder : info.decode = none) : Agrees name info encode .unread
  | value {read : Value → Except Exn Value} {decode : Decoder}
      (hdecoder : info.decode = some decode)
      (hdecode : ∀ fuel par body,
        encode (registry.encodeParamWith fuel) info.toLayout par = .ok body →
        decode name body = (read par).map .value) :
      Agrees name info encode (.value read)
  | fields {read : Value → Except Exn Fields} {inner : Layout → Value → List (String × Value)}
      {decode : Decoder} (hdecoder : info.decode = some decode)
      (hdecode : ∀ fuel par body,
        encode (registry.encodeParamWith fuel) info.toLayout par = .ok body →
        ∃ rest, registry.Written fuel (inner info.toLayout par) rest ∧
          decode name body = (read par).map fun fields => .rest name fields rest) :
      Agrees name info encode (.fields read inner)

/-- A table for every type that can be written, under headers that name it. -/
structure Mirrors : Prop where
  sound : registry.Sound
  headed : ∀ name info encode encodeParam par body, registry.param name = some info →
    info.encode = some encode → encode encodeParam info.toLayout par = .ok body →
    Headed info.toLayout body
  typed : ∀ name info, registry.param name = some info → info.encode.isSome = true →
    info.type ≠ 0
  named : ∀ name info, registry.param name = some info → info.encode.isSome = true →
    name ≠ "CustomParameter" → registry.typeName info.key = some name ∧
      (¬(info.tvEncoded = false ∧ info.type = typeCustom) → info.vendorId = 0 ∧ info.subtype = 0)
  own : ∀ info, registry.param "CustomParameter" = some info →
    info.tvEncoded = false ∧ info.type = typeCustom
  agrees : ∀ name info encode, registry.param name = some info → info.encode = some encode →
    name ≠ "CustomParameter" → registry.Agrees name info encode (forms name)

/-! ## Bodies -/

theorem errorRecord_congr {header other : ParamHeader} (htype : header.paramType = other.paramType)
    (hvendor : header.vendorId = other.vendorId) (hsubtype : header.subtype = other.subtype)
    (name decoderError : String) (body : List UInt8) :
    errorRecord header name decoderError body = errorRecord other name decoderError body := by
  unfold errorRecord
  rw [htype, hvendor, hsubtype]

variable {registry forms}

/-- Decoding a named body is settling what its decoder makes of it. -/
theorem decodeFramed_eq_settle {walk : String → Fields → List UInt8 → Except Exn Fields}
    {header other : ParamHeader} {name : String} (hname : registry.nameOf header = some name)
    (htype : header.paramType = other.paramType) (hvendor : header.vendorId = other.vendorId)
    (hsubtype : header.subtype = other.subtype) (body : List UInt8) :
    registry.decodeFramed walk header body =
      (settle other name body (registry.decodeBody walk name body)).map
        (Reading.param header.fullLength) := by
  unfold decodeFramed
  simp only [hname]
  cases hbody : registry.decodeBody walk name body with
  | ok value => rfl
  | error raised =>
    cases raised with
    | keyError missing =>
      have hrecord := errorRecord_congr htype hvendor hsubtype name "DecodeFunctionMissing" body
      simp only [settle, Except.map, Reading.param, hrecord]
    | structError | valueError | typeError => rfl
    | _ => rfl

/-- Without a decoder there is no body. -/
theorem decodeBody_of_unread {walk : String → Fields → List UInt8 → Except Exn Fields}
    {name : String} {info : ParamInfo} (hparam : registry.param name = some info)
    (hdecoder : info.decode = none) (body : List UInt8) :
    registry.decodeBody walk name body = .error (.missingKey "decode") := by
  unfold decodeBody
  rw [hparam]
  change (key "decode" info.decode >>= _) = _
  rw [hdecoder]
  rfl

theorem decodeBody_of_decoder {walk : String → Fields → List UInt8 → Except Exn Fields}
    {name : String} {info : ParamInfo} {decode : Decoder}
    (hparam : registry.param name = some info) (hdecoder : info.decode = some decode)
    (body : List UInt8) :
    registry.decodeBody walk name body = (do
      match ← decode name body with
      | .value value => .ok value
      | .walk name fields rest finish => do
        let decoded ← walk name fields rest
        .ok (finish decoded).value) := by
  unfold decodeBody
  rw [hparam]
  change (key "decode" info.decode >>= _) = _
  rw [hdecoder]
  rfl

/-! ## One parameter after the other -/

/-- The bytes are read as this, whatever comes behind them: nothing is read from no bytes. -/
def ReadsAs (registry : Registry) (bytes : List UInt8) (result : Except Exn (Option Reading)) :
    Prop :=
  bytes = [] ∧ result = .ok none ∨
    bytes ≠ [] ∧ ∃ outcome : Except Exn Reading, result = outcome.map some ∧
      ∀ tail, registry.decodeParam registry.walk (bytes ++ tail) =
        outcome.map fun reading => some (reading.param bytes.length)

theorem written_nil_iff {fuel : ℕ} {bytes : List UInt8} :
    registry.Written fuel [] bytes ↔ bytes = [] := by
  constructor
  · rintro ⟨parts, hparts, rfl⟩
    cases hparts
    rfl
  · rintro rfl
    exact ⟨[], rfl, rfl⟩

theorem written_cons_iff {fuel : ℕ} {name : String} {value : Value}
    {params : List (String × Value)} {bytes : List UInt8} :
    registry.Written fuel ((name, value) :: params) bytes ↔
      ∃ first rest, registry.encodeParamWith fuel name value = .ok first ∧
        registry.Written fuel params rest ∧ bytes = first ++ rest := by
  unfold Written
  rw [List.mapM_cons]
  constructor
  · rintro ⟨parts, hparts, rfl⟩
    obtain ⟨first, hfirst, hparts⟩ := bind_eq_ok_iff.mp hparts
    obtain ⟨others, hothers, hparts⟩ := bind_eq_ok_iff.mp hparts
    cases hparts
    exact ⟨first, others.flatten, hfirst, ⟨others, hothers, rfl⟩, rfl⟩
  · rintro ⟨first, rest, hfirst, ⟨others, hothers, rfl⟩, rfl⟩
    refine ⟨first :: others, ?_, rfl⟩
    rw [hfirst, ok_bind, hothers]
    rfl

@[simp]
theorem store_param (nFields : List String) (fields : Fields) (reading : Reading) (length : ℕ) :
    store nFields fields (reading.param length) = store nFields fields (reading.param 0) := rfl

theorem readParameters_cons (readParam : String → Value → Except Exn (Option Reading))
    (nFields : List String) (fields : Fields) (name : String) (value : Value)
    (params : List (String × Value)) :
    readParameters readParam nFields fields ((name, value) :: params) = (do
      let fields ← (do
        match ← readParam name value with
        | none => .ok fields
        | some reading => store nFields fields (reading.param 0))
      readParameters readParam nFields fields params) := rfl

/-- If each parameter is read back, so are all of them, one after the other. -/
theorem decodeAllParameters_of_written (hsound : registry.Sound) {fuel : ℕ}
    {readParam : String → Value → Except Exn (Option Reading)}
    (hreads : ∀ name value bytes, registry.encodeParamWith fuel name value = .ok bytes →
      registry.ReadsAs bytes (readParam name value))
    {params : List (String × Value)} {bytes : List UInt8}
    (hwritten : registry.Written fuel params bytes) (nFields : List String) (fields : Fields) :
    registry.decodeAllParameters nFields fields bytes =
      readParameters readParam nFields fields params := by
  induction params generalizing bytes fields with
  | nil =>
    rw [written_nil_iff.mp hwritten, decodeAllParameters_nil]
    rfl
  | cons param params ih =>
    obtain ⟨name, value⟩ := param
    obtain ⟨first, rest, hfirst, hrest, rfl⟩ := written_cons_iff.mp hwritten
    rw [readParameters_cons]
    rcases hreads name value first hfirst with ⟨rfl, hnone⟩ | ⟨hfirst, outcome, hsome, hdecode⟩
    · rw [hnone, List.nil_append, ih hrest]
      rfl
    · have hnonempty : first ++ rest ≠ [] := by simp [hfirst]
      rw [decodeAllParameters_eq hsound hnonempty, hdecode, hsome]
      cases outcome with
      | error raised => rfl
      | ok reading =>
        simp only [Except.map, ok_bind, store_param]
        congr 1
        funext stored
        rw [show (reading.param first.length).length = first.length from rfl,
          List.drop_left' rfl, ih hrest]

/-! ## Trees of parameters -/

/-- Only a custom parameter says itself which type it is. -/
theorem writtenKey_of_ne {name : String} {layout : Layout} {par : Value}
    (hname : name ≠ "CustomParameter") :
    writtenKey name layout par =
      .ok
        { paramType := layout.type
          vendorId := layout.vendorId
          subtype := layout.subtype
          headerLength := 0
          fullLength := 0 } := by
  unfold writtenKey
  rw [vendorOf, if_neg (by simpa using hname), ok_bind]
  rfl

/-- The key that is written is the key that the header says. -/
theorem writtenKey_of_describes {header : ParamHeader} {name : String} {layout : Layout}
    {par : Value} {head body : List UInt8} (hdescribes : Describes header name layout par head body)
    (hkey : if layout.tvEncoded = false ∧ layout.type = typeCustom then True
      else name ≠ "CustomParameter" ∧ layout.vendorId = 0 ∧ layout.subtype = 0) :
    writtenKey name layout par =
      .ok
        { paramType := header.paramType
          vendorId := header.vendorId
          subtype := header.subtype
          headerLength := 0
          fullLength := 0 } := by
  have hvendor := hdescribes.vendor
  have htype := hdescribes.paramType
  unfold writtenKey
  by_cases hcustom : layout.tvEncoded = false ∧ layout.type = typeCustom
  · rw [if_pos hcustom] at hvendor
    obtain ⟨vendorId, subtype, hpair, hvendorId, hsubtype⟩ := hvendor
    rw [hpair, ok_bind]
    simp only [hvendorId, hsubtype, ok_bind, Int.toNat_natCast, htype]
  · rw [if_neg hcustom] at hvendor hkey
    obtain ⟨hname, hzero, hsub⟩ := hkey
    rw [htype, hvendor.1, hvendor.2]
    change writtenKey name layout par = _
    rw [writtenKey_of_ne hname, hzero, hsub]

/-- The types that only have themselves to say which they are. -/
theorem standard_of_mirrors (hmirrors : registry.Mirrors forms) {name : String} {info : ParamInfo}
    (hparam : registry.param name = some info) (hencoder : info.encode.isSome = true) :
    if info.tvEncoded = false ∧ info.type = typeCustom then True
    else name ≠ "CustomParameter" ∧ info.vendorId = 0 ∧ info.subtype = 0 := by
  split
  · trivial
  · rename_i hstandard
    have hname : name ≠ "CustomParameter" := by
      rintro rfl
      exact hstandard (hmirrors.own info hparam)
    exact ⟨hname, (hmirrors.named name info hparam hencoder hname).2 hstandard⟩

/-- A parameter that was written lies at the start of what it was written to, under a
header that says its type and how long it is. -/
theorem framed_of_written (hmirrors : registry.Mirrors forms) {name : String} {info : ParamInfo}
    {encode : Encoder} (hparam : registry.param name = some info)
    (hencoder : info.encode = some encode) {fuel : ℕ} {par : Value} {head body : List UInt8}
    (hbody : encode (registry.encodeParamWith fuel) info.toLayout par = .ok body)
    (hhead : paramHeaderEncode name info.toLayout par body = .ok head) :
    ∃ written, writtenKey name info.toLayout par = .ok written ∧ ∀ tail, ∃ header,
      Framed header (head ++ body ++ tail) ∧ header.body (head ++ body ++ tail) = body ∧
      header.fullLength = (head ++ body).length ∧ header.paramType = written.paramType ∧
      header.vendorId = written.vendorId ∧ header.subtype = written.subtype := by
  have hheaded := hmirrors.headed name info encode _ par body hparam hencoder hbody
  have hsome : info.encode.isSome = true := by rw [hencoder]; rfl
  have hkey := standard_of_mirrors hmirrors hparam hsome
  obtain ⟨_, -, hfirst⟩ := paramHeaderDecode_of_encode hhead hheaded []
  refine ⟨_, writtenKey_of_describes hfirst hkey, fun tail => ?_⟩
  obtain ⟨header, hdecode, hdescribes⟩ := paramHeaderDecode_of_encode hhead hheaded tail
  have hsame := (writtenKey_of_describes hfirst hkey).symm.trans
    (writtenKey_of_describes hdescribes hkey)
  simp only [Except.ok.injEq, ParamHeader.mk.injEq] at hsame
  have hsize := hdescribes.headerLength
  have hfull := hdescribes.fullLength
  refine ⟨header, ⟨hdecode, ?_, ?_, ?_⟩, ?_, ?_, hsame.1.symm, hsame.2.1.symm, hsame.2.2.1.symm⟩
  · rw [hdescribes.paramType]
    exact hmirrors.typed name info hparam hsome
  · omega
  · simp only [List.length_append]
    omega
  · rw [ParamHeader.body, hfull, hsize, List.take_left' (List.length_append ..),
      List.drop_left' rfl]
  · rw [hfull, List.length_append]

/-- Decoding a body depends on the header only for the type and for the length. -/
theorem decodeFramed_congr_header {walk : String → Fields → List UInt8 → Except Exn Fields}
    {header other : ParamHeader} (htype : header.paramType = other.paramType)
    (hvendor : header.vendorId = other.vendorId) (hsubtype : header.subtype = other.subtype)
    (body : List UInt8) :
    registry.decodeFramed walk header body =
      (registry.decodeFramed walk other body).map fun param =>
        { param with length := header.fullLength } := by
  have hrecord := errorRecord_congr htype hvendor hsubtype
  unfold decodeFramed nameOf
  rw [htype, hvendor, hsubtype]
  cases registry.typeName (other.paramType, other.vendorId, other.subtype) with
  | none => simp only [hrecord, Except.map]
  | some name =>
    cases hbody : registry.decodeBody walk name body with
    | ok value => simp only [hbody, Except.map]
    | error raised =>
      cases raised with
      | keyError missing => simp only [hbody, hrecord, Except.map]
      | structError text | valueError text | typeError text =>
        simp only [hbody, isBodyError, if_true, Except.map]
      | _ => simp only [hbody, isBodyError, Bool.false_eq_true, if_false, Except.map]

/-- Decoding the body of a type is reading the value that was written. -/
theorem decodeBody_of_agrees (hsound : registry.Sound) {name : String} {info : ParamInfo}
    {encode : Encoder} {form : Form} (hparam : registry.param name = some info)
    (hagrees : registry.Agrees name info encode form) {fuel : ℕ}
    {readParam : String → Value → Except Exn (Option Reading)}
    (hreads : ∀ name value bytes, registry.encodeParamWith fuel name value = .ok bytes →
      registry.ReadsAs bytes (readParam name value))
    {par : Value} {body : List UInt8}
    (hbody : encode (registry.encodeParamWith fuel) info.toLayout par = .ok body) :
    registry.decodeBody registry.walk name body = form.read readParam info.toLayout par := by
  cases hagrees with
  | unread hdecoder => exact decodeBody_of_unread hparam hdecoder body
  | @value read decode hdecoder hdecode =>
    rw [decodeBody_of_decoder hparam hdecoder, hdecode fuel par body hbody, Form.read]
    cases read par with
    | error raised => rfl
    | ok value => rfl
  | @fields read inner decode hdecoder hdecode =>
    obtain ⟨rest, hwritten, hdecode⟩ := hdecode fuel par body hbody
    rw [decodeBody_of_decoder hparam hdecoder, hdecode, Form.read]
    cases read par with
    | error raised => rfl
    | ok fields =>
      change (registry.walk name fields rest >>= _) = _
      rw [walk, nFieldsOf_of_param hparam, ok_bind,
        decodeAllParameters_of_written hsound hreads hwritten]
      rfl

/-- What an encoder writes for a value is read as the table says, whatever the value and
whatever comes behind it. The induction is on the fuel, which nested parameters share. -/
theorem readsAs_of_encodeParamWith (hmirrors : registry.Mirrors forms) {fuel : ℕ} {name : String}
    {par : Value} {bytes : List UInt8}
    (hencode : registry.encodeParamWith fuel name par = .ok bytes) :
    registry.ReadsAs bytes (registry.readBackWith forms fuel name par) := by
  induction fuel generalizing name par bytes with
  | zero => cases hencode
  | succ fuel ih =>
    rw [encodeParamWith] at hencode
    rw [readBackWith]
    cases hparam : registry.param name with
    | none =>
      simp only [hparam] at hencode ⊢
      cases hencode
      exact .inl ⟨rfl, rfl⟩
    | some info =>
      cases hencoder : info.encode with
      | none =>
        simp only [hparam, hencoder] at hencode ⊢
        cases hencode
        exact .inl ⟨rfl, rfl⟩
      | some encode =>
        simp only [hparam, hencoder] at hencode ⊢
        obtain ⟨body, hbody, hencode⟩ := bind_eq_ok_iff.mp hencode
        obtain ⟨head, hhead, hencode⟩ := bind_eq_ok_iff.mp hencode
        cases hencode
        obtain ⟨written, hwritten, hframed⟩ :=
          framed_of_written hmirrors hparam hencoder hbody hhead
        have hnonempty : head ++ body ≠ [] := by
          obtain ⟨header, hfirst, -, hlength, -⟩ := hframed []
          have hpos := hfirst.fullLength_pos
          rw [hlength] at hpos
          exact List.length_pos_iff.mp hpos
        rw [hbody, ok_bind, hwritten, ok_bind]
        refine .inr ⟨hnonempty, ?_⟩
        by_cases hname : name = "CustomParameter"
        · rw [if_pos hname]
          refine ⟨(registry.decodeFramed registry.walk written body).map fun param =>
            ⟨param.name, param.value⟩, ?_, fun tail => ?_⟩
          · cases registry.decodeFramed registry.walk written body with
            | error raised => rfl
            | ok param => rfl
          · obtain ⟨header, hfirst, hsame, hlength, htype, hvendor, hsubtype⟩ := hframed tail
            rw [decodeParam_of_framed hfirst, hsame,
              decodeFramed_congr_header htype hvendor hsubtype, hlength]
            cases registry.decodeFramed registry.walk written body with
            | error raised => rfl
            | ok param => rfl
        · rw [if_neg hname]
          have hagrees := hmirrors.agrees name info encode hparam hencoder hname
          have hread := decodeBody_of_agrees hmirrors.sound hparam hagrees
            (fun _ _ _ => ih) hbody
          refine ⟨settle written name body
            ((forms name).read (registry.readBackWith forms fuel) info.toLayout par), ?_,
            fun tail => ?_⟩
          · cases settle written name body
                ((forms name).read (registry.readBackWith forms fuel) info.toLayout par) with
            | error raised => rfl
            | ok reading => rfl
          · obtain ⟨header, hfirst, hsame, hlength, htype, hvendor, hsubtype⟩ := hframed tail
            have hnamed : registry.nameOf header = some name := by
              rw [writtenKey_of_ne hname] at hwritten
              cases hwritten
              rw [nameOf, htype, hvendor, hsubtype]
              exact (hmirrors.named name info hparam (by rw [hencoder]; rfl) hname).1
            rw [decodeParam_of_framed hfirst, hsame,
              decodeFramed_eq_settle hnamed htype hvendor hsubtype, hread, hlength]
            cases settle written name body
                ((forms name).read (registry.readBackWith forms fuel) info.toLayout par) with
            | error raised => rfl
            | ok reading => rfl

end Registry

end Sllurp.Codec
