/-
# Parameters

A registry names the parameter types and gives each its header fields, the
parameters it may contain, and functions for its body. A decoder reads the fixed
part of a body and mostly leaves the rest to a walker, which decodes one
parameter after the other; an encoder does the reverse. Nested bodies are shorter
than what they are part of, so the walker gets along with the length of its data
as fuel.
-/

import Sllurp.Codec.Header
import Sllurp.Protocol.Capabilities

namespace Sllurp.Codec

open Sllurp.Foundations Sllurp.Foundations.Wire Sllurp.Protocol

/-! ## The registry -/

/-- The type of a message or parameter and what it contains: all fields in wire
order, and among them the optional and the repeated parameters. -/
structure Layout where
  type : ℕ
  vendorId : ℕ := 0
  subtype : ℕ := 0
  tvEncoded : Bool := false
  ownFields : List String := []
  oFields : List String := []
  ownNFields : List String := []

namespace Layout

variable (layout : Layout)

/-- The repeated parameters: vendors may add theirs to all the others. -/
def nFields : List String := layout.ownNFields ++ ["CustomParameter"]

/-- All fields, those that are declared as parameters only last. -/
def fields : List String :=
  let withOptional :=
    layout.ownFields ++ layout.oFields.filter fun name => name ∉ layout.ownFields
  withOptional ++ layout.nFields.filter fun name => name ∉ withOptional

/-- The parameters in wire order, each with whether it may be repeated. -/
def autoFields : List (String × Bool) :=
  layout.fields.filterMap fun name =>
    if name ∈ layout.oFields then some (name, false)
    else if name ∈ layout.nFields then some (name, true)
    else none

/-- What identifies the type on the wire. -/
def key : ℕ × ℕ × ℕ := (layout.type, layout.vendorId, layout.subtype)

end Layout

/-- What a decoder makes of a body: a value, or fields to which the walker adds
the parameters in the rest of the body. -/
inductive Decoded
  | value (value : Value)
  | walk (name : String) (fields : Fields) (rest : List UInt8) (finish : Fields → Fields)

/-- The fixed part of a parameter and its rest. -/
def Decoded.rest (name : String) (fields : Fields) (data : List UInt8) : Decoded :=
  .walk name fields data id

/-- A decoder gets the name and the body of a parameter. -/
abbrev Decoder : Type := String → List UInt8 → Except Exn Decoded

/-- An encoder gets the encoder of the parameters that it contains. -/
abbrev Encoder : Type :=
  (String → Value → Except Exn (List UInt8)) → Layout → Value → Except Exn (List UInt8)

/-- An entry of the registry. -/
structure ParamInfo extends Layout where
  decode : Option Decoder := none
  encode : Option Encoder := none

/-- The parameters by name, and their names by type. -/
structure Registry where
  param : String → Option ParamInfo
  typeName : ℕ × ℕ × ℕ → Option String

/-! ## Decoding -/

/-- A decoded parameter: its name if it was decoded, its value, and the length it
takes. -/
structure DecodedParam where
  name : Option String
  value : Value
  length : ℕ

/-- The record of a parameter that is unknown or could not be decoded. -/
def errorRecord (header : ParamHeader) (name decoderError : String) (body : List UInt8) :
    Fields :=
  let record : Fields :=
    .ofList [("Name", .text name), ("Type", .int header.paramType),
      ("DecodeError", .text decoderError), ("Data", .bytes body)]
  if header.vendorId ≠ 0 ∧ header.subtype ≠ 0 then
    (record.set "VendorID" (.int header.vendorId)).set "Subtype" (.int header.subtype)
  else record

/-- Whether a decoder may fail with the exception on a malformed body. -/
def isBodyError : Exn → Bool
  | .structError _ | .valueError _ | .typeError _ => true
  | _ => false

namespace Registry

variable (registry : Registry)

/-- The key of a parameter header. -/
def nameOf (header : ParamHeader) : Option String :=
  registry.typeName (header.paramType, header.vendorId, header.subtype)

/-- Run the decoder of a parameter, with the walker for what it leaves. -/
def decodeBody (walk : String → Fields → List UInt8 → Except Exn Fields) (name : String)
    (body : List UInt8) : Except Exn Value := do
  let info ← key name (registry.param name)
  let decode ← key "decode" info.decode
  match ← decode name body with
  | .value value => .ok value
  | .walk name fields rest finish => do
    let decoded ← walk name fields rest
    .ok (finish decoded).value

/-- Decode the body that a header delimits. A parameter that has no decoder, or whose
decoder misses a key, becomes a record. -/
def decodeFramed (walk : String → Fields → List UInt8 → Except Exn Fields)
    (header : ParamHeader) (body : List UInt8) : Except Exn DecodedParam :=
  let unknown := fun name decoderError =>
    DecodedParam.mk none (errorRecord header name decoderError body).value header.fullLength
  match registry.nameOf header with
  | none => .ok (unknown "" "UnknownParameter")
  | some name =>
    match registry.decodeBody walk name body with
    | .ok value => .ok ⟨some name, value, header.fullLength⟩
    | .error (.keyError _) => .ok (unknown name "DecodeFunctionMissing")
    | .error raised =>
      if isBodyError raised then
        .error (.llrpError s!"Unable to decode parameter {name}: {raised.str}")
      else .error raised

/-- Decode the parameter at the start of the data, if there is one. -/
def decodeParam (walk : String → Fields → List UInt8 → Except Exn Fields)
    (data : List UInt8) : Except Exn (Option DecodedParam) :=
  match paramHeaderDecode data with
  | .error (.valueError text) => .error (.llrpError s!"Invalid LLRP parameter header: {text}")
  | .error raised => .error raised
  | .ok none => .ok none
  | .ok (some header) =>
    if header.paramType = 0 then .ok none
    else if header.fullLength < header.headerLength then
      .error (.llrpError (s!"Invalid LLRP parameter length {header.fullLength}; " ++
        s!"header is {header.headerLength} bytes"))
    else if data.length < header.fullLength then
      .error (.llrpError (s!"Truncated LLRP parameter: declared {header.fullLength} bytes, " ++
        s!"got {data.length}"))
    else
      (registry.decodeFramed walk header
        ((data.take header.fullLength).drop header.headerLength)).map some

/-- Put a decoded parameter where it belongs. -/
def store (nFields : List String) (fields : Fields) (param : DecodedParam) : Except Exn Fields :=
  match param.name with
  | none => fields.append decodeErrorParname param.value
  | some name =>
    if name ∈ nFields then fields.append name param.value
    else .ok (fields.set name param.value)

/-- The repeated parameters of a parameter. -/
def nFieldsOf (name : String) : Except Exn (List String) := do
  let info ← key name (registry.param name)
  .ok info.nFields

/-- Decode one parameter after the other. The fuel bounds their number and their
nesting. -/
def walkAll : ℕ → List String → Fields → List UInt8 → Except Exn Fields
  | 0, _, _, _ => .error (.recursionError "maximum recursion depth exceeded")
  | fuel + 1, nFields, fields, data =>
    if data.isEmpty then .ok fields
    else do
      let walk := fun name fields rest => do
        let nFields ← registry.nFieldsOf name
        walkAll fuel nFields fields rest
      match ← registry.decodeParam walk data with
      | none => .error (.llrpError "Error decoding param. Invalid byte stream.")
      | some param => do
        let fields ← store nFields fields param
        if param.length = 0 then .ok fields
        else walkAll fuel nFields fields (data.drop param.length)

/-- Add the parameters in the data to the fields. -/
def decodeAllParameters (nFields : List String) (fields : Fields) (data : List UInt8) :
    Except Exn Fields :=
  registry.walkAll (data.length + 1) nFields fields data

end Registry

/-! ## Encoding -/

/-- Append what the parameters of a mapping encode to, in the registry's order. -/
def encodeAllParameters (encodeParam : String → Value → Except Exn (List UInt8))
    (layout : Layout) (par : Value) (packed : List UInt8) : Except Exn (List UInt8) :=
  layout.autoFields.foldlM
    (fun data (name, isMultiple) => do
      if ← par.contains name then
        let value ← par.item name
        if isMultiple then
          match value with
          | .list items =>
            items.foldlM (fun data item => do .ok (data ++ (← encodeParam name item))) data
          | _ => .ok data
        else .ok (data ++ (← encodeParam name value))
      else .ok data)
    packed

/-- The vendor and the subtype for a header: those of the type, or of what the application
passes for a type of its own. -/
def vendorOf (isOwn : Bool) (layout : Layout) (par : Value) : Except Exn (Value × Value) :=
  if isOwn then do .ok (← par.item "VendorID", ← par.item "Subtype")
  else .ok (.int layout.vendorId, .int layout.subtype)

namespace Registry

variable (registry : Registry)

/-- The header of a parameter with the given body. -/
def paramHeaderEncode (name : String) (layout : Layout) (par : Value) (body : List UInt8) :
    Except Exn (List UInt8) := do
  if layout.tvEncoded then
    if 0x7F < layout.type then
      .error (.llrpError s!"TV parameter type out of range: {layout.type}")
    else packStruct [.ubyte] [.int (128 + layout.type)]
  else if layout.type = typeCustom then
    let length : Value := .int (recordSize parCustomHeader + body.length)
    let (vendorId, subtype) ← vendorOf (name = "CustomParameter") layout par
    packStruct parCustomHeader [.int layout.type, length, vendorId, subtype]
  else
    packStruct tlvParHeader [.int layout.type, .int (recordSize tlvParHeader + body.length)]

/-- Encode a parameter; one that has no encoder, or no entry, is left out. The fuel
bounds the nesting. -/
def encodeParamWith : ℕ → String → Value → Except Exn (List UInt8)
  | 0, _, _ => .error (.recursionError "maximum recursion depth exceeded")
  | fuel + 1, name, par =>
    match registry.param name with
    | none => .ok []
    | some info =>
      match info.encode with
      | none => .ok []
      | some encode => do
        let body ← encode (encodeParamWith fuel) info.toLayout par
        let header ← paramHeaderEncode name info.toLayout par body
        .ok (header ++ body)

/-- Encode a parameter. Encoders pass on what is inside the values they get, and the
registry's own parameters are nested less than eight deep. -/
def encodeParam (name : String) (par : Value) : Except Exn (List UInt8) :=
  registry.encodeParamWith (par.depth + 8) name par

end Registry

end Sllurp.Codec
