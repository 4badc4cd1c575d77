/-
# Generated encoders and decoders

Most parameters are a record of numbers, alone or in front of other parameters.
Their encoders and decoders come out of four generators. Enumerations are tables
of names and codes, read in both directions.
-/

import Sllurp.Codec.Parameter

namespace Sllurp.Codec

open Sllurp.Foundations Sllurp.Foundations.Wire Sllurp.Protocol

/-- The numbers of a record in order. -/
def numbers : {formats : List Format} → Record formats → List ℤ
  | [], _ => []
  | _ :: _, (number, rest) => number :: numbers rest

/-- A mapping of names to numbers: the names are those of a record's fields. -/
def zipFields (names : List String) (values : List ℤ) : Fields :=
  .ofList (names.zip (values.map .int))

/-! ## Decoders -/

/-- A body that is a record: a mapping of its numbers, or its first one if no names
are given. -/
def basicParamDecodeGenerator (formats : List Format) (args : List String) : Decoder :=
  fun _ data => do
    let record ← unpackStruct formats data
    if args.isEmpty then .ok (.value (.int ((numbers record).headD 0)))
    else .ok (.value (zipFields args (numbers record)).value)

/-- A body that starts with a record and goes on with parameters. -/
def basicAutoParamDecodeGenerator (formats : List Format) (args : List String) : Decoder :=
  fun name data => do
    let record ← unpackStruct formats (data.take (recordSize formats))
    .ok (.rest name (zipFields args (numbers record)) (data.drop (recordSize formats)))

/-- A body of parameters only. -/
def decodeAll : Decoder := fun name data => .ok (.rest name .empty data)

/-- Whether a bit is set in the flags of a body. -/
def flag (flags : ℤ) (position : ℕ) : Value := .bool (flags.toNat.testBit position)

/-- Read numbers of one format from an array, as many as are declared. -/
def decodeArray (format : Format) : ℕ → List UInt8 → Except Exn (List Value)
  | 0, _ => .ok []
  | count + 1, data => do
    let (number, ()) ← unpackStruct [format] (data.take format.size)
    let rest ← decodeArray format count (data.drop format.size)
    .ok (.int number :: rest)

/-- Read byte strings, each with its length in front, and what comes after them. -/
def decodeStrings : List String → Fields → List UInt8 → Except Exn (Fields × List UInt8)
  | [], fields, data => .ok (fields, data)
  | name :: names, fields, data => do
    let (count, ()) ← unpackStruct [.ushort] (data.take 2)
    let body := data.drop 2
    decodeStrings names (fields.set name (.bytes (body.take count.toNat)))
      (body.drop count.toNat)

/-- The lower-case hexadecimal digits of bytes, as bytes. -/
def hexlify (data : List UInt8) : List UInt8 :=
  let digit := fun number : ℕ => UInt8.ofNat (if number < 10 then 48 + number else 87 + number)
  data.flatMap fun byte => [digit (byte.toNat / 16), digit (byte.toNat % 16)]

/-! ## Encoders -/

/-- A body without any fields. -/
def encodeNothing : Encoder := fun _ _ _ => .ok []

/-- A body that is a record. -/
def basicParamEncodeGenerator (formats : List Format) (args : List String) : Encoder :=
  fun _ _ par => do packStruct formats (← args.mapM par.item)

/-- A body that starts with a record and goes on with parameters. -/
def basicAutoParamEncodeGenerator (formats : List Format) (args : List String) : Encoder :=
  fun encodeParam layout par => do
    let packed ← packStruct formats (← args.mapM par.item)
    encodeAllParameters encodeParam layout par packed

/-- A body of parameters only. -/
def encodeAll : Encoder := fun encodeParam layout par =>
  encodeAllParameters encodeParam layout par []

/-- A flag at a position. -/
def flagBit (isSet : Bool) (position : ℕ) : Value := .int (if isSet then 2 ^ position else 0)

/-- The value of a hexadecimal digit. -/
def hexDigit? (digit : Char) : Option ℕ :=
  if '0' ≤ digit ∧ digit ≤ '9' then some (digit.toNat - '0'.toNat)
  else if 'a' ≤ digit ∧ digit ≤ 'f' then some (digit.toNat - 'a'.toNat + 10)
  else if 'A' ≤ digit ∧ digit ≤ 'F' then some (digit.toNat - 'A'.toNat + 10)
  else none

/-- `unhexlify` of an even number of digits. -/
def unhexlify : List Char → Except Exn (List UInt8)
  | high :: low :: digits =>
    match hexDigit? high, hexDigit? low with
    | some high, some low => do .ok (UInt8.ofNat (high * 16 + low) :: (← unhexlify digits))
    | _, _ => .error (.valueError "Non-hexadecimal digit found")
  | [] => .ok []
  | _ => .error (.valueError "Odd-length string")

/-- The bit count and the bits of a hexadecimal text, padded to whole bytes. -/
def hexToBitArray (text : String) : Except Exn (ℕ × List UInt8) := do
  let digits := text.toList
  if digits.isEmpty then .ok (0, [])
  else
    let padded := if digits.length % 2 = 0 then digits else digits ++ ['0']
    .ok (digits.length * 4, ← unhexlify padded)

/-! ## Enumerations -/

/-- The names of an enumeration with their codes. -/
abbrev Enumeration : Type := List (String × ℤ)

namespace Enumeration

/-- The name of a code. -/
def name? (names : Enumeration) (code : ℤ) : Option String :=
  (names.find? (·.2 = code)).map Prod.fst

/-- `Type2Name[code]`. -/
def name (names : Enumeration) (code : ℤ) : Except Exn Value :=
  match names.name? code with
  | some name => .ok (.text name)
  | none => .error (.keyError s!"{code}")

/-- `Name2Type.get(name)`. -/
def code? (names : Enumeration) : Value → Except Exn (Option ℤ)
  | .text name => .ok (names.lookup name)
  | .list _ => .error (.typeError "unhashable type: 'list'")
  | .dict _ => .error (.typeError "unhashable type: 'dict'")
  | _ => .ok none

/-- `Name2Type[name]`. -/
def code (names : Enumeration) (name : Value) : Except Exn Value := do
  match ← names.code? name with
  | some code => .ok (.int code)
  | none =>
    match name with
    | .text name => .error (.missingKey name)
    | _ => .error (.keyError "")

end Enumeration

end Sllurp.Codec
