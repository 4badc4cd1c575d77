/-
# Selecting tags by their memory

An access operation and an inventory filter select tags by a mask, a text of
hexadecimal digits. Its bits are written with their number in front, so that the
digits can be told from the padding behind them. A tag specification holds any
number of targets, each with two such texts, and what it is written as determines
them all.
-/

import Sllurp.Foundations.Numeral
import Sllurp.Foundations.UniqueDecoding
import Sllurp.Codec.Records
import Sllurp.Codec.Registry

namespace Sllurp.Codec

open Sllurp.Foundations Sllurp.Foundations.Wire Sllurp.Foundations.Outcome Sllurp.Protocol
open Sllurp.Foundations.Numeral Sllurp.Foundations.UniqueDecoding

/-! ## Hexadecimal texts -/

/-- A text of hexadecimal digits whose number of bits fits sixteen bits. -/
structure HexText where
  text : String
  isHex : ∀ digit ∈ text.toList, (hexDigit? digit).isSome = true
  fits : 4 * text.toList.length < 65536

/-- The number of bits. -/
def HexText.bitCount (hex : HexText) : ℕ := 4 * hex.text.toList.length

/-- The bits of a digit, the most significant one first. -/
def digitBits (digit : Char) : List ℕ := numeral 2 4 ((hexDigit? digit).getD 0)

/-- The bits of a byte, the most significant one first. -/
def byteBits (byte : UInt8) : List ℕ := numeral 2 8 byte.toNat

/-- The bytes hold the bits of the digits and, up to a whole byte, zeros. -/
structure Holds (digits : List Char) (bytes : List UInt8) : Prop where
  length_eq : bytes.length = (4 * digits.length + 7) / 8
  bits_eq : bytes.flatMap byteBits =
    digits.flatMap digitBits ++ List.replicate (8 * bytes.length - 4 * digits.length) 0

theorem toNat_lt_of_hexDigit? {digit : Char} {number : ℕ}
    (hdigit : hexDigit? digit = some number) : digit.toNat < 128 := by
  simp only [hexDigit?, Char.le_def, UInt32.le_iff_toNat_le] at hdigit
  split at hdigit
  · rename_i hrange
    exact lt_of_le_of_lt hrange.2 (by decide)
  · split at hdigit
    · rename_i hrange
      exact lt_of_le_of_lt hrange.2 (by decide)
    · split at hdigit
      · rename_i hrange
        exact lt_of_le_of_lt hrange.2 (by decide)
      · cases hdigit

/-- A digit is known by its value, up to its case. -/
theorem toLower_of_hexDigit? {digit : Char} {number : ℕ} (hdigit : hexDigit? digit = some number) :
    number < 16 ∧ digit.toLower = Nat.digitChar number := by
  have hread : ∀ code < 128, ∀ number, hexDigit? (Char.ofNat code) = some number →
      number < 16 ∧ (Char.ofNat code).toLower = Nat.digitChar number := by
    decide +kernel
  have hvalue := hread digit.toNat (toNat_lt_of_hexDigit? hdigit) number
  rw [Char.ofNat_toNat] at hvalue
  exact hvalue hdigit

/-- The bits of two digits are those of the byte that they make. -/
theorem byteBits_eq {high low : Char} {first second : ℕ} (hhigh : hexDigit? high = some first)
    (hlow : hexDigit? low = some second) :
    byteBits (UInt8.ofNat (first * 16 + second)) = digitBits high ++ digitBits low := by
  have hfirst := (toLower_of_hexDigit? hhigh).1
  have hsecond := (toLower_of_hexDigit? hlow).1
  have hbyte : (UInt8.ofNat (first * 16 + second)).toNat = first * 16 + second := by
    change (first * 16 + second) % 256 = _
    exact Nat.mod_eq_of_lt (by omega)
  have hquotient : (first * 16 + second) / 2 ^ 4 = first := by omega
  have hremainder : (first * 16 + second) % 2 ^ 4 = second := by omega
  rw [byteBits, digitBits, digitBits, hhigh, hlow, hbyte, Option.getD_some, Option.getD_some,
    numeral_add 4 4, hquotient, ← numeral_mod (by decide) 4 (first * 16 + second), hremainder]

/-- An even number of digits is read two by two. -/
theorem exists_unhexlify {digits : List Char}
    (hdigits : ∀ digit ∈ digits, (hexDigit? digit).isSome = true)
    (heven : digits.length % 2 = 0) :
    ∃ bytes, unhexlify digits = .ok bytes ∧ 2 * bytes.length = digits.length ∧
      bytes.flatMap byteBits = digits.flatMap digitBits := by
  induction digits using unhexlify.induct with
  | case1 high low digits first second hlow hhigh ih =>
    obtain ⟨bytes, hread, hlength, hbits⟩ := ih
      (fun digit hmem => hdigits digit (by simp [hmem]))
      (by simp only [List.length_cons] at heven; omega)
    refine ⟨UInt8.ofNat (first * 16 + second) :: bytes, ?_, ?_, ?_⟩
    · simp only [unhexlify, hhigh, hlow, hread, ok_bind]
    · simp only [List.length_cons]
      omega
    · rw [List.flatMap_cons, byteBits_eq hhigh hlow, hbits, List.append_assoc]
      rfl
  | case2 high low digits hnone =>
    obtain ⟨first, hfirst⟩ := Option.isSome_iff_exists.mp (hdigits high (by simp))
    obtain ⟨second, hsecond⟩ := Option.isSome_iff_exists.mp (hdigits low (by simp))
    exact absurd hsecond (hnone first second hfirst)
  | case3 => exact ⟨[], rfl, rfl, rfl⟩
  | case4 digits hlong hempty =>
    match digits with
    | [] => exact absurd rfl hempty
    | [_] => exact absurd (show 1 % 2 = 0 from heven) (by decide)
    | high :: low :: rest => exact absurd rfl (hlong high low rest)

/-- The bit array of a text counts its bits and holds them. -/
theorem exists_hexToBitArray (hex : HexText) :
    ∃ bytes, hexToBitArray hex.text = .ok (hex.bitCount, bytes) ∧ Holds hex.text.toList bytes := by
  have hpadded : ∀ digit ∈ hex.text.toList ++ ['0'], (hexDigit? digit).isSome = true := by
    intro digit hmem
    rcases List.mem_append.mp hmem with hmem | hmem
    · exact hex.isHex digit hmem
    · rw [List.mem_singleton.mp hmem]
      decide
  unfold hexToBitArray HexText.bitCount
  generalize hdigits : hex.text.toList = digits at hpadded
  dsimp only
  split
  · rename_i hempty
    rw [List.isEmpty_iff.mp hempty]
    exact ⟨[], rfl, rfl, rfl⟩
  · split
    · rename_i heven
      obtain ⟨bytes, hread, hlength, hbits⟩ := exists_unhexlify
        (fun digit hmem => hpadded digit (List.mem_append_left _ hmem)) heven
      refine ⟨bytes, by rw [hread, ok_bind, Nat.mul_comm], by omega, ?_⟩
      have hzero : 8 * bytes.length - 4 * digits.length = 0 := by omega
      rw [hbits, hzero, List.replicate_zero, List.append_nil]
    · rename_i hodd
      obtain ⟨bytes, hread, hlength, hbits⟩ := exists_unhexlify hpadded
        (by rw [List.length_append, List.length_singleton]; omega)
      rw [List.length_append, List.length_singleton] at hlength
      refine ⟨bytes, by rw [hread, ok_bind, Nat.mul_comm], by omega, ?_⟩
      have hfour : 8 * bytes.length - 4 * digits.length = 4 := by omega
      rw [hbits, hfour, List.flatMap_append]
      rfl

/-- Digits are read back from as many bytes as they take. -/
theorem Holds.agree {first second : List Char} {bytes : List UInt8}
    (hisHex : ∀ digit ∈ first, (hexDigit? digit).isSome = true)
    (hisHex' : ∀ digit ∈ second, (hexDigit? digit).isSome = true)
    (hlength : first.length = second.length) (hfirst : Holds first bytes)
    (hsecond : Holds second bytes) : first.map Char.toLower = second.map Char.toLower := by
  have hbits := hfirst.bits_eq.symm.trans hsecond.bits_eq
  rw [hlength] at hbits
  replace hbits := List.append_cancel_right hbits
  clear hfirst hsecond
  induction first generalizing second with
  | nil => rw [List.length_eq_zero_iff.mp hlength.symm]
  | cons digit first ih =>
    obtain ⟨digit', second, rfl⟩ := List.exists_cons_of_length_eq_add_one hlength.symm
    obtain ⟨number, hnumber⟩ := Option.isSome_iff_exists.mp (hisHex digit (by simp))
    obtain ⟨number', hnumber'⟩ := Option.isSome_iff_exists.mp (hisHex' digit' (by simp))
    obtain ⟨hlt, hlower⟩ := toLower_of_hexDigit? hnumber
    obtain ⟨hlt', hlower'⟩ := toLower_of_hexDigit? hnumber'
    rw [List.flatMap_cons, List.flatMap_cons] at hbits
    obtain ⟨hhead, htail⟩ := List.append_inj hbits (by simp only [digitBits, length_numeral])
    have hvalue := congrArg (value 2) hhead
    rw [digitBits, digitBits, hnumber, hnumber', value_numeral, value_numeral, Option.getD_some,
      Option.getD_some, show 2 ^ 4 = 16 from rfl, Nat.mod_eq_of_lt hlt,
      Nat.mod_eq_of_lt hlt'] at hvalue
    rw [List.map_cons, List.map_cons, hlower, hlower', hvalue]
    congr 1
    exact ih (fun digit hmem => hisHex digit (List.mem_cons_of_mem _ hmem))
      (fun digit hmem => hisHex' digit (List.mem_cons_of_mem _ hmem)) (Nat.succ_inj.mp hlength)
      htail

/-! ## Counted parts -/

/-- A number in so many bytes. -/
def Word {α : Type*} (size : ℕ) (number : α → ℕ) : Code α UInt8 := fun value data =>
  data = toBytes size (number value)

theorem delimits_word {α : Type*} (size : ℕ) (number : α → ℕ) {first second : α}
    (hfirst : number first < 256 ^ size) (hsecond : number second < 256 ^ size) :
    Delimits (Word size number) (number first = number second) first second := by
  apply delimits_of_length size
  · rintro _ rfl
    exact length_toBytes _ _
  · rintro _ rfl
    exact length_toBytes _ _
  · rintro data hdata hdata'
    have hvalue := congrArg ofBytes (hdata.symm.trans hdata')
    rwa [ofBytes_toBytes hfirst, ofBytes_toBytes hsecond] at hvalue

/-- The bytes that hold the digits of a text. -/
def Digits {α : Type*} (hex : α → HexText) : Code α UInt8 := fun value data =>
  Holds (hex value).text.toList data

/-- Texts with as many bits are told apart by their bytes, up to the case of digits. -/
theorem delimits_digits {α : Type*} (hex : α → HexText) {first second : α}
    (hcount : (hex first).bitCount = (hex second).bitCount) :
    Delimits (Digits hex) ((hex first).text.toList.map Char.toLower =
      (hex second).text.toList.map Char.toLower) first second := by
  have hlength : (hex first).text.toList.length = (hex second).text.toList.length := by
    unfold HexText.bitCount at hcount
    omega
  apply delimits_of_length ((4 * (hex first).text.toList.length + 7) / 8)
  · exact fun data hdata => hdata.length_eq
  · intro data hdata
    rw [hlength]
    exact hdata.length_eq
  · exact fun data hdata hdata' => hdata.agree (hex first).isHex (hex second).isHex hlength hdata'

/-- Packing natural numbers writes them one after the other. -/
theorem packStruct_cons_natural (format : Format) (hsigned : format.signed = false)
    {formats : List Format} {value : Value} {number : ℕ} (hvalue : value.index = .ok (number : ℤ))
    (hnumber : number < 256 ^ format.size) {values : List Value} {rest : List UInt8}
    (hrest : packStruct formats values = .ok rest) :
    packStruct (format :: formats) (value :: values) =
      .ok (toBytes format.size number ++ rest) := by
  have hbound : number < format.bound := hnumber
  have hholds : format.holds number := by
    unfold Format.holds
    rw [hsigned, if_neg Bool.false_ne_true]
    exact ⟨Int.natCast_nonneg _, Int.ofNat_lt.mpr hbound⟩
  have hcode : format.code number = number := by
    rw [Format.code, ← Int.natCast_mod, Int.toNat_natCast, Nat.mod_eq_of_lt hbound]
  rw [packStruct_cons, hvalue, ok_bind, if_pos hholds, hrest, ok_bind, hcode]

/-! ## Targets -/

/-- What an application passes to select tags for an access operation. -/
structure TargetTag where
  bank : Fin 4
  isMatch : Bool
  pointer : Fin 65536
  mask : HexText
  data : HexText

namespace TargetTag

/-- The mapping passes the target. -/
structure Describes (par : Value) (target : TargetTag) : Prop where
  bank : (par.item "MB" >>= Value.toInt) = .ok (target.bank.val : ℤ)
  isMatch : (par.item "M").map Value.truthy = .ok target.isMatch
  pointer : (par.item "Pointer" >>= Value.toInt) = .ok (target.pointer.val : ℤ)
  mask : par.item "TagMask" = .ok (.text target.mask.text)
  data : par.item "TagData" = .ok (.text target.data.text)

/-- Two targets are the same up to the case of their digits. -/
structure Agrees (first second : TargetTag) : Prop where
  bank : first.bank = second.bank
  isMatch : first.isMatch = second.isMatch
  pointer : first.pointer = second.pointer
  mask : first.mask.text.toList.map Char.toLower = second.mask.text.toList.map Char.toLower
  data : first.data.text.toList.map Char.toLower = second.data.text.toList.map Char.toLower

/-- The bank in the two highest bits, and the match flag behind it. -/
def flags (target : TargetTag) : ℕ := target.bank.val * 64 + if target.isMatch then 32 else 0

theorem flags_lt (target : TargetTag) : target.flags < 256 := by
  have hbank := target.bank.isLt
  unfold flags
  split <;> omega

/-- The parts of a written target. -/
theorem Describes.exists_encode {target : TargetTag} {par : Value} (hpar : Describes par target)
    (encodeParam : String → Value → Except Exn (List UInt8)) (layout : Layout) :
    ∃ mask data,
      encodeC1G2TargetTag encodeParam layout par =
        .ok (toBytes 1 target.flags ++ toBytes 2 target.pointer ++ toBytes 2 target.mask.bitCount ++
          mask ++ toBytes 2 target.data.bitCount ++ data) ∧
      Holds target.mask.text.toList mask ∧ Holds target.data.text.toList data := by
  obtain ⟨bankValue, hbankItem, hbank⟩ := bind_eq_ok_iff.mp hpar.bank
  obtain ⟨pointerValue, hpointerItem, hpointer⟩ := bind_eq_ok_iff.mp hpar.pointer
  obtain ⟨isMatch, hmatchItem, hmatch⟩ :
      ∃ value, par.item "M" = .ok value ∧ value.truthy = target.isMatch := by
    have hmatch := hpar.isMatch
    cases hitem : par.item "M" with
    | error raised =>
      rw [hitem] at hmatch
      cases hmatch
    | ok value =>
      rw [hitem] at hmatch
      exact ⟨value, rfl, Except.ok.inj hmatch⟩
  obtain ⟨mask, hmask, hholdsMask⟩ := exists_hexToBitArray target.mask
  obtain ⟨data, hdata, hholdsData⟩ := exists_hexToBitArray target.data
  have hflags : (target.bank.val : ℤ) * 64 + (if target.isMatch then 32 else 0) =
      (target.flags : ℕ) := by
    unfold flags
    split <;> push_cast <;> rfl
  have hhead : packStruct [.ubyte, .ushort, .ushort]
      [.int (target.flags : ℕ), .int (target.pointer.val : ℕ), .int (target.mask.bitCount : ℕ)] =
      .ok (toBytes 1 target.flags ++ (toBytes 2 target.pointer ++
        (toBytes 2 target.mask.bitCount ++ []))) :=
    packStruct_cons_natural .ubyte rfl rfl target.flags_lt
      (packStruct_cons_natural .ushort rfl rfl target.pointer.isLt
        (packStruct_cons_natural .ushort rfl rfl target.mask.fits rfl))
  have hcount : packStruct [.ushort] [.int (target.data.bitCount : ℕ)] =
      .ok (toBytes 2 target.data.bitCount ++ []) :=
    packStruct_cons_natural .ushort rfl rfl target.data.fits rfl
  refine ⟨mask, data, ?_, hholdsMask, hholdsData⟩
  simp only [encodeC1G2TargetTag, hpar.mask, hpar.data, Value.hexToBitArray, hmask, hdata,
    hbankItem, hbank, hmatchItem, hmatch, hpointerItem, hpointer, ok_bind, hflags, hhead, hcount,
    List.append_nil, List.append_assoc]

/-! ## Written targets -/

/-- What a target is written as: a header, and the fields one after the other. -/
abbrev Written : Code TargetTag UInt8 :=
  Pair (fun _ header => header.length = 4) <|
    Pair (Word 1 flags) <|
    Pair (Word 2 fun target => target.pointer) <|
    Pair (Word 2 fun target => target.mask.bitCount) <|
    Pair (Digits mask) <|
    Pair (Word 2 fun target => target.data.bitCount) (Digits data)

theorem written_ne_nil (target : TargetTag) : ¬ Written target [] := by
  intro hwritten
  generalize hdata : [] = written at hwritten
  obtain ⟨hheader, -⟩ := hwritten
  rw [(List.append_eq_nil_iff.mp hdata.symm).1] at hheader
  cases hheader

/-- Bank and match flag are read back from the flags. -/
theorem flags_inj {first second : TargetTag} (hflags : first.flags = second.flags) :
    first.bank = second.bank ∧ first.isMatch = second.isMatch := by
  have hbank := first.bank.isLt
  have hbank' := second.bank.isLt
  unfold flags at hflags
  cases hmatch : first.isMatch <;> cases hmatch' : second.isMatch <;>
    simp only [hmatch, hmatch', if_true, if_false, Bool.false_eq_true] at hflags
  · exact ⟨Fin.ext (by omega), rfl⟩
  · omega
  · omega
  · exact ⟨Fin.ext (by omega), rfl⟩

/-- A target says where it ends: its counts delimit the digits. -/
theorem selfDelimiting_written : SelfDelimiting Written Agrees := by
  intro first second
  have hheader : Delimits (fun (_ : TargetTag) (header : List UInt8) => header.length = 4) True
      first second :=
    delimits_of_length 4 (fun _ hlength => hlength) (fun _ hlength => hlength) fun _ _ _ => trivial
  let pointer : TargetTag → ℕ := fun target => target.pointer
  let maskCount : TargetTag → ℕ := fun target => target.mask.bitCount
  let dataCount : TargetTag → ℕ := fun target => target.data.bitCount
  have hparts := hheader.pair fun _ =>
    (delimits_word 1 flags first.flags_lt second.flags_lt).pair fun _ =>
    (delimits_word 2 pointer first.pointer.isLt second.pointer.isLt).pair fun _ =>
    (delimits_word 2 maskCount first.mask.fits second.mask.fits).pair fun hmask =>
    (delimits_digits mask hmask).pair fun _ =>
    (delimits_word 2 dataCount first.data.fits second.data.fits).pair fun hdata =>
    delimits_digits data hdata
  apply hparts.mono
  rintro ⟨-, hflags, hpointer, -, hmask, -, hdata⟩
  obtain ⟨hbank, hisMatch⟩ := flags_inj hflags
  exact ⟨hbank, hisMatch, Fin.ext hpointer, hmask, hdata⟩

/-- The parameter of a target is its header and its fields. -/
theorem written_of_encodeParam {target : TargetTag} {par : Value} (hpar : Describes par target)
    {fuel : ℕ} {data : List UInt8}
    (hencode : registry.encodeParamWith (fuel + 1) "C1G2TargetTag" par = .ok data) :
    Written target data := by
  have hfound : registry.param "C1G2TargetTag" = some
      { type := 339
        ownFields := ["MB", "M", "Pointer", "MaskBitCount", "TagMask", "DataBitCount", "TagData"]
        encode := some encodeC1G2TargetTag } := rfl
  simp only [Registry.encodeParamWith, hfound] at hencode
  obtain ⟨body, hbody, hencode⟩ := bind_eq_ok_iff.mp hencode
  obtain ⟨header, hheader, hencode⟩ := bind_eq_ok_iff.mp hencode
  cases hencode
  obtain ⟨mask, data, hparts, hmask, hdata⟩ := hpar.exists_encode (registry.encodeParamWith fuel)
    { type := 339
      ownFields := ["MB", "M", "Pointer", "MaskBitCount", "TagMask", "DataBitCount", "TagData"] }
  cases hbody.symm.trans hparts
  simp only [List.append_assoc]
  exact .intro (length_of_packStruct hheader) (.intro rfl (.intro rfl (.intro rfl
    (.intro hmask (.intro rfl hdata)))))

end TargetTag

/-! ## Tag specifications -/

/-- The mapping of a tag specification. -/
def tagSpec (targets : List Value) : Value := .dict [("C1G2TargetTag", .list targets)]

/-- The targets of a specification are written one after the other. -/
theorem sequence_of_foldlM {fuel : ℕ} {pars : List Value} {targets : List TargetTag}
    (hpars : List.Forall₂ TargetTag.Describes pars targets) {before data : List UInt8}
    (hencode : pars.foldlM (fun data item => do
      .ok (data ++ (← registry.encodeParamWith (fuel + 1) "C1G2TargetTag" item))) before =
        .ok data) :
    ∃ written, data = before ++ written ∧ Sequence TargetTag.Written targets written := by
  induction hpars generalizing before with
  | nil =>
    cases hencode
    exact ⟨[], (List.append_nil _).symm, .nil⟩
  | cons hpar _ ih =>
    rw [List.foldlM_cons] at hencode
    obtain ⟨next, hnext, hencode⟩ := bind_eq_ok_iff.mp hencode
    obtain ⟨front, hfront, hnext⟩ := bind_eq_ok_iff.mp hnext
    cases hnext
    obtain ⟨rest, rfl, hrest⟩ := ih hencode
    exact ⟨front ++ rest, List.append_assoc _ _ _,
      .cons (TargetTag.written_of_encodeParam hpar hfront) hrest⟩

/-- A tag specification is a header, and its targets one after the other. -/
theorem sequence_of_tagSpec {pars : List Value} {targets : List TargetTag}
    (hpars : List.Forall₂ TargetTag.Describes pars targets) {data : List UInt8}
    (hencode : registry.encodeParam "C1G2TagSpec" (tagSpec pars) = .ok data) :
    ∃ header written, header.length = 4 ∧ data = header ++ written ∧
      Sequence TargetTag.Written targets written := by
  have hfound : registry.param "C1G2TagSpec" = some
      { type := 338, ownNFields := ["C1G2TargetTag"], encode := some encodeAll } := rfl
  rw [Registry.encodeParam, Registry.encodeParamWith] at hencode
  simp only [hfound] at hencode
  obtain ⟨body, hbody, hencode⟩ := bind_eq_ok_iff.mp hencode
  obtain ⟨header, hheader, hencode⟩ := bind_eq_ok_iff.mp hencode
  cases hencode
  have hfields : ({ type := 338, ownNFields := ["C1G2TargetTag"] } : Layout).autoFields =
      [("C1G2TargetTag", true), ("CustomParameter", true)] := rfl
  have hcontains : (tagSpec pars).contains "C1G2TargetTag" = .ok true := rfl
  have hcustom : (tagSpec pars).contains "CustomParameter" = .ok false := rfl
  have hitem : (tagSpec pars).item "C1G2TargetTag" = .ok (.list pars) := rfl
  simp only [encodeAll, encodeAllParameters, hfields, List.foldlM_cons, List.foldlM_nil, hcontains,
    hcustom, hitem, ok_bind, if_true, Bool.false_eq_true, if_false] at hbody
  obtain ⟨body, hbody, hpure⟩ := bind_eq_ok_iff.mp hbody
  cases hpure
  obtain ⟨written, hdata, hwritten⟩ := sequence_of_foldlM hpars hbody
  rw [hdata]
  exact ⟨header, written, length_of_packStruct hheader, rfl, hwritten⟩

/-! ## Filters -/

/-- What an application passes to filter tags in an inventory. -/
structure InventoryMask where
  bank : Fin 4
  pointer : Fin 65536
  mask : HexText

/-- The mapping passes the mask. -/
structure InventoryMask.Describes (par : Value) (filter : InventoryMask) : Prop where
  bank : (par.item "MB" >>= Value.index) = .ok (filter.bank.val : ℤ)
  pointer : (par.item "Pointer" >>= Value.index) = .ok (filter.pointer.val : ℤ)
  mask : par.item "TagMask" = .ok (.text filter.mask.text)

theorem shiftLeft_of_index {value : Value} {number : ℤ} (hvalue : value.index = .ok number)
    (bits : ℕ) : value.shiftLeft bits = .ok (.int (number * 2 ^ bits)) := by
  cases value <;> cases hvalue <;> rfl

/-- The parts of a written mask. -/
theorem InventoryMask.Describes.exists_encode {filter : InventoryMask} {par : Value}
    (hpar : Describes par filter) (encodeParam : String → Value → Except Exn (List UInt8))
    (layout : Layout) :
    ∃ mask,
      encodeC1G2TagInventoryMask encodeParam layout par =
        .ok (toBytes 1 (filter.bank * 64) ++ toBytes 2 filter.pointer ++
          toBytes 2 filter.mask.bitCount ++ mask) ∧
      Holds filter.mask.text.toList mask := by
  obtain ⟨bank, hbankItem, hbank⟩ := bind_eq_ok_iff.mp hpar.bank
  obtain ⟨pointer, hpointerItem, hpointer⟩ := bind_eq_ok_iff.mp hpar.pointer
  obtain ⟨mask, hmask, hholds⟩ := exists_hexToBitArray filter.mask
  have hflags : filter.bank.val * 64 < 256 := by
    have hlt := filter.bank.isLt
    omega
  have hindex : (Value.int (filter.bank.val * 2 ^ 6)).index =
      .ok ((filter.bank.val * 64 : ℕ) : ℤ) := by
    push_cast
    rfl
  have hhead : packStruct [.ubyte, .ushort, .ushort]
      [.int (filter.bank.val * 2 ^ 6), pointer, .int (filter.mask.bitCount : ℕ)] =
      .ok (toBytes 1 (filter.bank * 64) ++ (toBytes 2 filter.pointer ++
        (toBytes 2 filter.mask.bitCount ++ []))) :=
    packStruct_cons_natural .ubyte rfl hindex hflags
      (packStruct_cons_natural .ushort rfl hpointer filter.pointer.isLt
        (packStruct_cons_natural .ushort rfl rfl filter.mask.fits rfl))
  refine ⟨mask, ?_, hholds⟩
  simp only [encodeC1G2TagInventoryMask, hpar.mask, Value.hexToBitArray, hmask, hbankItem,
    shiftLeft_of_index hbank, hpointerItem, ok_bind, hhead, List.append_nil, List.append_assoc]

/-! ## Unique decoding -/

/-- Targets and filters count the bits of their digits and hold them, and lists of targets
that are written alike are the same up to the case of digits. -/
theorem targets_uniquely_decodable :
    (∀ (target : TargetTag) (par : Value), TargetTag.Describes par target →
      ∀ (encodeParam : String → Value → Except Exn (List UInt8)) (layout : Layout),
      ∃ mask data,
        encodeC1G2TargetTag encodeParam layout par =
          .ok (toBytes 1 target.flags ++ toBytes 2 target.pointer ++
            toBytes 2 target.mask.bitCount ++ mask ++ toBytes 2 target.data.bitCount ++ data) ∧
        Holds target.mask.text.toList mask ∧ Holds target.data.text.toList data) ∧
    (∀ (filter : InventoryMask) (par : Value), InventoryMask.Describes par filter →
      ∀ (encodeParam : String → Value → Except Exn (List UInt8)) (layout : Layout),
      ∃ mask,
        encodeC1G2TagInventoryMask encodeParam layout par =
          .ok (toBytes 1 (filter.bank * 64) ++ toBytes 2 filter.pointer ++
            toBytes 2 filter.mask.bitCount ++ mask) ∧
        Holds filter.mask.text.toList mask) ∧
    ∀ (targets others : List TargetTag) (pars pars' : List Value) (data : List UInt8),
      List.Forall₂ TargetTag.Describes pars targets →
      List.Forall₂ TargetTag.Describes pars' others →
      registry.encodeParam "C1G2TagSpec" (tagSpec pars) = .ok data →
      registry.encodeParam "C1G2TagSpec" (tagSpec pars') = .ok data →
      List.Forall₂ TargetTag.Agrees targets others := by
  refine ⟨fun _ _ hpar => hpar.exists_encode, fun _ _ hpar => hpar.exists_encode, ?_⟩
  intro targets others pars pars' data hpars hpars' hencode hencode'
  obtain ⟨header, written, hheader, rfl, hwritten⟩ := sequence_of_tagSpec hpars hencode
  obtain ⟨header', written', hheader', heq, hwritten'⟩ := sequence_of_tagSpec hpars' hencode'
  obtain ⟨-, rfl⟩ := List.append_inj heq (hheader.trans hheader'.symm)
  exact TargetTag.selfDelimiting_written.sequence TargetTag.written_ne_nil hwritten hwritten'

/-- Two specifications of two targets that differ in the case of digits only are written
alike. -/
theorem targets_uniquely_decodable_case :
    let hex : (text : String) → (∀ digit ∈ text.toList, (hexDigit? digit).isSome = true) →
        4 * text.toList.length < 65536 → HexText := HexText.mk
    let target : HexText → TargetTag := fun mask =>
      ⟨1, true, 32, mask, hex "" nofun (by decide)⟩
    List.Forall₂ TargetTag.Agrees
      [target (hex "aBc" (List.all_eq_true.mp (by decide)) (by decide)),
        target (hex "DE" (List.all_eq_true.mp (by decide)) (by decide))]
      [target (hex "AbC" (List.all_eq_true.mp (by decide)) (by decide)),
        target (hex "dE" (List.all_eq_true.mp (by decide)) (by decide))] := by
  let par : String → Value := fun mask =>
    .dict [("MB", .int 1), ("M", .bool true), ("Pointer", .int 32), ("TagMask", .text mask),
      ("TagData", .text "")]
  exact targets_uniquely_decodable.2.2 _ _ [par "aBc", par "DE"] [par "AbC", par "dE"]
    [1, 82, 0, 29, 1, 83, 0, 13, 96, 0, 32, 0, 12, 171, 192, 0, 0, 1, 83, 0, 12, 96, 0, 32, 0, 8,
      222, 0, 0]
    (.cons ⟨rfl, rfl, rfl, rfl, rfl⟩ (.cons ⟨rfl, rfl, rfl, rfl, rfl⟩ .nil))
    (.cons ⟨rfl, rfl, rfl, rfl, rfl⟩ (.cons ⟨rfl, rfl, rfl, rfl, rfl⟩ .nil)) (by rfl) (by rfl)

end Sllurp.Codec
