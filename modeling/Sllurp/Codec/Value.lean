/-
# Decoded values

Messages and parameters are mappings from names to values, which may be mappings
and lists again. A mapping keeps its keys in the order in which they were put in.
Encoders read what the application passed and raise what the operation raises on
a value of the wrong type.
-/

import Sllurp.Foundations.Dict
import Sllurp.Foundations.Wire
import Sllurp.Protocol.Messages

namespace Sllurp.Codec

open Sllurp.Foundations Sllurp.Foundations.Wire Sllurp.Protocol

/-- A value of a message. A phase angle is a fraction; texts name the codes of an
enumeration. -/
inductive Value
  | bool (flag : Bool)
  | int (number : ℤ)
  | fraction (number : ℚ)
  | text (name : String)
  | bytes (data : List UInt8)
  | list (items : List Value)
  | dict (entries : List (String × Value))
  deriving Repr

/-- The mapping of a message or a parameter. -/
abbrev Fields : Type := Dict String Value

def decodeErrorParname : String := "SllurpDecodeError"

/-- A mapping as a value. -/
def Fields.value (fields : Fields) : Value := .dict fields.entries

namespace Value

/-- The name of a value's type. -/
def typeName : Value → String
  | bool _ => "bool"
  | int _ => "int"
  | fraction _ => "float"
  | text _ => "str"
  | bytes _ => "bytes"
  | list _ => "list"
  | dict _ => "dict"

mutual

/-- How deep lists and mappings are nested. -/
def depth : Value → ℕ
  | list items => depthOfItems items + 1
  | dict entries => depthOfEntries entries + 1
  | _ => 0

def depthOfItems : List Value → ℕ
  | [] => 0
  | item :: items => max item.depth (depthOfItems items)

def depthOfEntries : List (String × Value) → ℕ
  | [] => 0
  | (_, value) :: entries => max value.depth (depthOfEntries entries)

end

/-- The mapping that a value is, if it is one. -/
def fields? : Value → Option Fields
  | dict entries => some (.ofList entries)
  | _ => none

@[simp]
theorem fields?_value (fields : Fields) : fields.value.fields? = some fields :=
  congrArg some fields.ofList_entries

/-- `value[key]` for a string key. -/
def item (value : Value) (key : String) : Except Exn Value :=
  match value.fields? with
  | some fields =>
    match fields.get? key with
    | some found => .ok found
    | none => .error (.missingKey key)
  | none => .error (.typeError s!"'{value.typeName}' object is not subscriptable by '{key}'")

/-- `value.get(key, default)`. -/
def getD (value : Value) (key : String) (default : Value) : Except Exn Value :=
  match value.fields? with
  | some fields => .ok (fields.getD key default)
  | none => .error (.attributeError s!"'{value.typeName}' object has no attribute 'get'")

/-- `key in value`. -/
def contains (value : Value) (key : String) : Except Exn Bool :=
  match value with
  | dict entries => .ok (entries.any (·.1 = key))
  | list items =>
    .ok (items.any fun
      | text name => name = key
      | _ => false)
  | text name => .ok (1 < (name.splitOn key).length)
  | _ => .error (.typeError s!"argument of type '{value.typeName}' is not iterable")

/-- `bool(value)`. -/
def truthy : Value → Bool
  | bool flag => flag
  | int number => number ≠ 0
  | fraction number => number ≠ 0
  | text name => name ≠ ""
  | bytes data => !data.isEmpty
  | list items => !items.isEmpty
  | dict entries => !entries.isEmpty

/-- `int(value)`. -/
def toInt : Value → Except Exn ℤ
  | bool flag => .ok flag.toInt
  | int number => .ok number
  | fraction number => .ok (number.num.tdiv number.den)
  | text name =>
    match name.toInt? with
    | some number => .ok number
    | none => .error (.valueError s!"invalid literal for int() with base 10: '{name}'")
  | bytes _ => .error (.valueError "invalid literal for int() with base 10")
  | value => .error (.typeError s!"int() argument must be a number, not '{value.typeName}'")

/-- The integer that a value counts as when it is packed. -/
def index : Value → Except Exn ℤ
  | bool flag => .ok flag.toInt
  | int number => .ok number
  | _ => .error (.structError "required argument is not an integer")

@[simp]
theorem index_int (number : ℤ) : (int number).index = .ok number := rfl

@[simp]
theorem index_bool (flag : Bool) : (bool flag).index = .ok flag.toInt := rfl

end Value

/-! ## Repeated parameters -/

/-- `fields.setdefault(key, []).append(value)`. -/
def Fields.append (fields : Fields) (key : String) (value : Value) : Except Exn Fields :=
  match fields.get? key with
  | none => .ok (fields.set key (.list [value]))
  | some (.list items) => .ok (fields.set key (.list (items ++ [value])))
  | some found => .error (.attributeError s!"'{found.typeName}' object has no attribute 'append'")

/-! ## Records -/

/-- `Struct.pack`. -/
def packStruct : List Format → List Value → Except Exn (List UInt8)
  | [], [] => .ok []
  | format :: formats, value :: values => do
    let number ← value.index
    if format.holds number then
      let rest ← packStruct formats values
      .ok (toBytes format.size (format.code number) ++ rest)
    else .error (.structError s!"number out of range for {format.size} bytes")
  | _, _ => .error (.structError "pack expected another number of items")

/-- `Struct.unpack`. -/
def unpackStruct (formats : List Format) (data : List UInt8) : Except Exn (Record formats) :=
  match unpack formats data with
  | some record => .ok record
  | none => .error (.structError s!"unpack requires a buffer of {recordSize formats} bytes")

end Sllurp.Codec
