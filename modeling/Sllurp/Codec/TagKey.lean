/-
# The identity of a tag

A reader sends an EPC of 96 bits either as a parameter of its own or as one of any
length. The decoder puts both under one name and keeps the short one under its own
name too. The key by which repeated reports are told takes the first name it finds and
is made with it, so that the same EPC has two keys.
-/

import Mathlib.Data.List.Sort
import Sllurp.Codec.Counts

namespace Sllurp.Codec

open Sllurp.Foundations Sllurp.Foundations.Wire Sllurp.Foundations.Outcome Sllurp.Protocol

/-! ## Keys -/

section Keys

variable (repr : String → String)

mutual

/-- A value that can be hashed: a mapping becomes its pairs, sorted by how their names are
printed, and a list a tuple. -/
def freeze : Value → Value
  | .dict entries =>
    .list (((freezeEntries entries).insertionSort fun first second =>
      repr first.1 ≤ repr second.1).map fun (name, value) => .list [.text name, value])
  | .list items => .list (freezeItems items)
  | value => value

def freezeItems : List Value → List Value
  | [] => []
  | item :: items => freeze item :: freezeItems items

def freezeEntries : List (String × Value) → List (String × Value)
  | [] => []
  | (name, value) :: entries => (name, freeze value) :: freezeEntries entries

end

/-- The key of a tag: what it was found under, and the antenna if it is asked for. A
report need not say the antenna. -/
structure TagKey where
  name : String
  content : Value
  antenna : Option (Option Value)

/-- The identity of a report. -/
def defaultTagKey (includeAntenna : Bool) (tag : Fields) : TagKey :=
  let antenna := if includeAntenna then some ((tag.get? "AntennaID").map (freeze repr)) else none
  match tag.get? "EPC-96", tag.get? "EPC", tag.get? "EPCData" with
  | some epc, _, _ => ⟨"EPC-96", freeze repr epc, antenna⟩
  | none, some epc, _ => ⟨"EPC", freeze repr epc, antenna⟩
  | none, none, some epc => ⟨"EPCData", freeze repr epc, antenna⟩
  | none, none, none => ⟨"TagReportData", freeze repr tag.value, antenna⟩

end Keys

/-! ## Reports -/

/-- Data is tiled in one way only. -/
theorem Registry.Tiled.unique {registry : Registry} {data : List UInt8}
    {params others : List DecodedParam} (htiled : Tiled registry data params)
    (hother : Tiled registry data others) : params = others := by
  induction htiled generalizing others with
  | nil =>
    cases hother with
    | nil => rfl
    | cons hframed =>
      have hpos := hframed.fullLength_pos
      have hwhole := hframed.whole
      rw [List.length_nil] at hwhole
      omega
  | cons hframed hdecode _ _ ih =>
    cases hother with
    | nil =>
      have hpos := hframed.fullLength_pos
      have hwhole := hframed.whole
      rw [List.length_nil] at hwhole
      omega
    | cons hframed' hdecode' _ hrest' =>
      cases hframed.decoded.symm.trans hframed'.decoded
      cases hdecode.symm.trans hdecode'
      rw [ih hrest']

/-- The parameter has the EPC of a tag, in one of the two forms. -/
def DecodedParam.isEpc (param : DecodedParam) : Bool :=
  param.name = some "EPC-96" || param.name = some "EPC"

/-- A decoded report with one EPC among its parameters. -/
structure EpcReport where
  body : List UInt8
  tag : Fields
  decoded : registry.decodeBody registry.walk "TagReportData" body = .ok tag.value
  params : List DecodedParam
  tiled : Registry.Tiled registry body params
  epc : DecodedParam
  single : params.filter DecodedParam.isEpc = [epc]

namespace EpcReport

variable (report : EpcReport)

/-- The EPC came as the parameter for 96 bits. -/
def isShort : Bool := report.epc.name = some "EPC-96"

theorem epc_mem : report.epc ∈ report.params ∧ report.epc.isEpc = true := by
  have hmem : report.epc ∈ report.params.filter DecodedParam.isEpc := by
    rw [report.single]
    exact List.mem_singleton_self _
  exact List.mem_filter.mp hmem

theorem eq_epc {param : DecodedParam} (hmem : param ∈ report.params)
    (hisEpc : param.isEpc = true) : param = report.epc := by
  have hfiltered := List.mem_filter.mpr ⟨hmem, hisEpc⟩
  rw [report.single] at hfiltered
  exact List.mem_singleton.mp hfiltered

theorem epc_name :
    report.epc.name = some (if report.isShort then "EPC-96" else "EPC") := by
  have hisEpc := report.epc_mem.2
  unfold DecodedParam.isEpc at hisEpc
  unfold isShort
  rw [Bool.or_eq_true, decide_eq_true_eq, decide_eq_true_eq] at hisEpc
  rcases hisEpc with hname | hname <;> simp [hname]

/-- An EPC is decoded to bytes. -/
theorem epc_bytes : ∃ digits, report.epc.value = .bytes digits := by
  obtain ⟨-, body, hbody⟩ := decoded_of_tiled report.tiled report.epc_mem.1 report.epc_name
  cases hshort : report.isShort with
  | true =>
    rw [hshort, if_pos rfl] at hbody
    have hdecoded : registry.decodeBody registry.walk "EPC-96" body = _ := decodeBody_eq rfl rfl
    exact ⟨_, (Except.ok.inj (hdecoded.symm.trans hbody)).symm⟩
  | false =>
    rw [hshort, if_neg Bool.false_ne_true] at hbody
    have hdecoded : registry.decodeBody registry.walk "EPC" body = _ := decodeBody_eq rfl rfl
    exact ⟨_, (Except.ok.inj (hdecoded.symm.trans hbody)).symm⟩

/-- The repeated parameters of a report. -/
theorem nFields_tagReportData :
    registry.nFieldsOf "TagReportData" = .ok ["CustomParameter"] := by
  have hparam : ∃ info, registry.param "TagReportData" = some info ∧
      info.nFields = ["CustomParameter"] := ⟨_, rfl, rfl⟩
  obtain ⟨info, hparam, hfields⟩ := hparam
  rw [Registry.nFieldsOf_of_param hparam, hfields]

/-- The parameters of a report are stored, and a short EPC once more. -/
theorem exists_stored : ∃ fields : Fields,
    report.params.foldlM (Registry.store ["CustomParameter"]) .empty = .ok fields ∧
      report.tag = match fields.get? "EPC-96" with
        | some epc => fields.set "EPC" epc
        | none => fields := by
  have hbody : registry.decodeBody registry.walk "TagReportData" report.body = _ :=
    decodeBody_eq rfl rfl
  have hdecoded := hbody.symm.trans report.decoded
  simp only [decodeTagReportData, ok_bind] at hdecoded
  obtain ⟨fields, hwalk, hfinish⟩ := bind_eq_ok_iff.mp hdecoded
  rw [Registry.walk, nFields_tagReportData, ok_bind] at hwalk
  obtain ⟨params, htiled, hfold⟩ := Registry.exists_tiled registry_sound hwalk
  rw [htiled.unique report.tiled] at hfold
  refine ⟨fields, hfold, ?_⟩
  have hentries := Value.dict.inj (Except.ok.inj hfinish)
  exact (Dict.ext_entries hentries).symm

/-- What a report has under the names of an EPC and of an antenna. -/
theorem get?_tag :
    report.tag.get? "EPC" = some report.epc.value ∧
      report.tag.get? "EPC-96" = (if report.isShort then some report.epc.value else none) ∧
      (report.tag.get? "AntennaID" = none ∨
        ∃ number, report.tag.get? "AntennaID" = some (.int number)) := by
  obtain ⟨fields, hfold, htag⟩ := report.exists_stored
  obtain ⟨hmem, hisEpc⟩ := report.epc_mem
  have hname := report.epc_name
  have hstored := fun (key : String) (hkey : key ∉ ["CustomParameter"])
    (herror : key ≠ decodeErrorParname) => Registry.get?_foldlM_store hkey herror hfold
  have hshort : fields.get? "EPC-96" = if report.isShort then some report.epc.value else none := by
    rcases hstored "EPC-96" (by decide) (by decide) with
      ⟨param, hparam, hnamed, hget⟩ | ⟨hnone, hget⟩
    · have hsame := report.eq_epc hparam (by simp [DecodedParam.isEpc, hnamed])
      have hisShort : report.isShort = true := decide_eq_true (hsame ▸ hnamed)
      rw [hget, hsame, if_pos hisShort]
    · have hisLong : report.isShort = false := decide_eq_false (hnone _ hmem)
      rw [hget, if_neg (by simp [hisLong])]
      rfl
  have hlong : report.isShort = false → fields.get? "EPC" = some report.epc.value := by
    intro hisLong
    rw [hisLong] at hname
    rcases hstored "EPC" (by decide) (by decide) with
      ⟨param, hparam, hnamed, hget⟩ | ⟨hnone, -⟩
    · rw [hget, report.eq_epc hparam (by simp [DecodedParam.isEpc, hnamed])]
    · exact absurd hname (hnone _ hmem)
  have hantenna : fields.get? "AntennaID" = none ∨
      ∃ number, fields.get? "AntennaID" = some (.int number) := by
    rcases hstored "AntennaID" (by decide) (by decide) with
      ⟨param, hparam, hnamed, hget⟩ | ⟨-, hget⟩
    · obtain ⟨-, body, hbody⟩ := decoded_of_tiled report.tiled hparam hnamed
      obtain ⟨number, hnumber⟩ := int_of_antenna hbody
      exact .inr ⟨number, hget.trans (congrArg some hnumber)⟩
    · exact .inl hget
  cases hisShort : report.isShort with
  | true =>
    rw [hisShort, if_pos rfl] at hshort
    rw [htag, hshort]
    simp only [Dict.get?_set]
    exact ⟨rfl, hshort, hantenna⟩
  | false =>
    rw [hisShort, if_neg Bool.false_ne_true] at hshort
    rw [htag, hshort]
    exact ⟨hlong hisShort, hshort, hantenna⟩

end EpcReport

/-! ## Identity -/

/-- Two reports are of the same tag, and if the antenna counts, of the same antenna. -/
def SameTag (includeAntenna : Bool) (first second : Fields) : Prop :=
  first.get? "EPC" = second.get? "EPC" ∧
    (includeAntenna = true → first.get? "AntennaID" = second.get? "AntennaID")

section Identity

variable (repr : String → String) (includeAntenna : Bool)

/-- The key of a decoded report. -/
theorem defaultTagKey_eq (report : EpcReport) :
    defaultTagKey repr includeAntenna report.tag =
      ⟨if report.isShort then "EPC-96" else "EPC", report.epc.value,
        if includeAntenna then some (report.tag.get? "AntennaID") else none⟩ := by
  obtain ⟨hepc, hshort, hantenna⟩ := report.get?_tag
  obtain ⟨digits, hdigits⟩ := report.epc_bytes
  have hfrozen : freeze repr report.epc.value = report.epc.value := by
    rw [hdigits]
    rfl
  have hantennaFrozen : (report.tag.get? "AntennaID").map (freeze repr) =
      report.tag.get? "AntennaID" := by
    rcases hantenna with hnone | ⟨number, hnumber⟩
    · rw [hnone]
      rfl
    · rw [hnumber]
      rfl
  unfold defaultTagKey
  rw [hepc, hshort, hantennaFrozen]
  cases report.isShort with
  | true => simp only [if_true, hfrozen]
  | false => simp only [Bool.false_eq_true, if_false, hfrozen]

/-- Reports have one key when they are of the same tag and their EPCs came in the same
form. -/
theorem defaultTagKey_eq_iff (first second : EpcReport) :
    defaultTagKey repr includeAntenna first.tag = defaultTagKey repr includeAntenna second.tag ↔
      first.isShort = second.isShort ∧ SameTag includeAntenna first.tag second.tag := by
  have hnames : (if first.isShort then "EPC-96" else "EPC") =
      (if second.isShort then "EPC-96" else "EPC") ↔ first.isShort = second.isShort := by
    cases first.isShort <;> cases second.isShort <;> decide
  have hantennas : (if includeAntenna then some (first.tag.get? "AntennaID") else none) =
      (if includeAntenna then some (second.tag.get? "AntennaID") else none) ↔
        (includeAntenna = true → first.tag.get? "AntennaID" = second.tag.get? "AntennaID") := by
    cases includeAntenna <;> simp
  rw [defaultTagKey_eq, defaultTagKey_eq, TagKey.mk.injEq, hnames, hantennas, SameTag,
    first.get?_tag.1, second.get?_tag.1, Option.some_inj]

/-- The key is that of the tag unless the same tag is reported in both forms. -/
theorem defaultTagKey_identifies_iff (first second : EpcReport) :
    (defaultTagKey repr includeAntenna first.tag = defaultTagKey repr includeAntenna second.tag ↔
        SameTag includeAntenna first.tag second.tag) ↔
      (first.isShort = second.isShort ∨ first.epc.value ≠ second.epc.value ∨
        includeAntenna = true ∧ first.tag.get? "AntennaID" ≠ second.tag.get? "AntennaID") := by
  have hepc : first.tag.get? "EPC" = second.tag.get? "EPC" ↔
      first.epc.value = second.epc.value := by
    rw [first.get?_tag.1, second.get?_tag.1, Option.some_inj]
  rw [defaultTagKey_eq_iff, SameTag, hepc]
  constructor
  · intro hkey
    by_contra hcondition
    push Not at hcondition
    obtain ⟨hforms, hsame, hantenna⟩ := hcondition
    exact hforms (hkey.mpr ⟨hsame, hantenna⟩).1
  · rintro (hforms | hdiffer | ⟨hincluded, hdiffer⟩)
    · exact ⟨And.right, fun hsame => ⟨hforms, hsame⟩⟩
    · exact ⟨And.right, fun hsame => absurd hsame.1 hdiffer⟩
    · exact ⟨And.right, fun hsame => absurd (hsame.2 hincluded) hdiffer⟩

end Identity

/-! ## One EPC in both forms -/

/-- An EPC of 96 bits. -/
def sampleEpc : List UInt8 := [48, 8, 51, 178, 221, 217, 1, 64, 0, 0, 0, 1]

/-- The EPC as a parameter of its own. -/
def shortReport : EpcReport where
  body := 141 :: sampleEpc
  tag := .ofList [("EPC-96", .bytes (hexlify sampleEpc)), ("EPC", .bytes (hexlify sampleEpc))]
  decoded := rfl
  params := [⟨some "EPC-96", .bytes (hexlify sampleEpc), 13⟩]
  tiled := @Registry.Tiled.cons _ ⟨13, 0, 0, 1, 13⟩ _ _ _
    ⟨rfl, by decide, by decide, by decide⟩ rfl rfl .nil
  epc := ⟨some "EPC-96", .bytes (hexlify sampleEpc), 13⟩
  single := rfl

/-- The EPC as one of any length. -/
def longReport : EpcReport where
  body := [0, 241, 0, 18, 0, 96] ++ sampleEpc
  tag := .ofList [("EPC", .bytes (hexlify sampleEpc))]
  decoded := rfl
  params := [⟨some "EPC", .bytes (hexlify sampleEpc), 18⟩]
  tiled := @Registry.Tiled.cons _ ⟨241, 0, 0, 4, 18⟩ _ _ _
    ⟨rfl, by decide, by decide, by decide⟩ rfl rfl .nil
  epc := ⟨some "EPC", .bytes (hexlify sampleEpc), 18⟩
  single := rfl

/-- A tag is taken for two when it is reported in both forms. -/
theorem defaultTagKey_both_forms :
    ¬ ∀ (repr : String → String) (includeAntenna : Bool) (first second : EpcReport),
      defaultTagKey repr includeAntenna first.tag = defaultTagKey repr includeAntenna second.tag ↔
        SameTag includeAntenna first.tag second.tag := by
  intro hidentifies
  have hkeys := (hidentifies id false shortReport longReport).mpr
    ⟨by rfl, fun hincluded => nomatch hincluded⟩
  have hnames : "EPC-96" = "EPC" := congrArg TagKey.name hkeys
  exact absurd hnames (by decide)

end Sllurp.Codec
