/-
# Parameters tile their data

A walk takes the parameters in the data one after the other, each with the length
that its header declares, and leaves nothing over. What it hands to a decoder is the
body of one parameter, and what the decoder hands back to the walk is an end of that
body. The depth of the nesting is bounded by the data and not by a stack.
-/

import Sllurp.Codec.Failures

namespace Sllurp.Codec

open Sllurp.Foundations Sllurp.Foundations.Outcome Sllurp.Protocol

namespace Registry

variable {registry : Registry}

/-- The parameters lie in the data from the first byte to the last, each decoded from
the body that its header delimits. -/
inductive Tiled (registry : Registry) : List UInt8 → List DecodedParam → Prop
  | nil : Tiled registry [] []
  | cons {header : ParamHeader} {data : List UInt8} {param : DecodedParam}
      {params : List DecodedParam} (hframed : Framed header data)
      (hdecode : registry.decodeFramed registry.walk header (header.body data) = .ok param)
      (hlength : param.length = header.fullLength)
      (hrest : Tiled registry (data.drop header.fullLength) params) :
      Tiled registry data (param :: params)

/-- Together the parameters are as long as the data. -/
theorem Tiled.length {data : List UInt8} {params : List DecodedParam}
    (htiled : Tiled registry data params) :
    (params.map DecodedParam.length).sum = data.length := by
  induction htiled with
  | nil => rfl
  | cons hframed _ hlength _ ih =>
    have hwhole := hframed.whole
    rw [List.map_cons, List.sum_cons, ih, hlength, List.length_drop]
    omega

/-- The fields that a walk starts with: none or an empty list of tags for a message,
and what its decoder has read for a parameter. -/
inductive Called (registry : Registry) : List String → Fields → Prop
  | message (nFields : List String) : Called registry nFields .empty
  | report (nFields : List String) :
      Called registry nFields (.ofList [("TagReportData", .list [])])
  | parameter {name inner : String} {info : ParamInfo} {decode : Decoder}
      {body rest : List UInt8} {fields : Fields} {finish : Fields → Fields}
      (hparam : registry.param name = some info) (hdecoder : info.decode = some decode)
      (hdecode : decode name body = .ok (.walk inner fields rest finish)) :
      Called registry info.nFields fields

/-- A decoder leaves an end of the body, under the name of its own parameter. -/
theorem rest_of_decode (hsound : registry.Sound) {name inner : String} {info : ParamInfo}
    {decode : Decoder} {body rest : List UInt8} {fields : Fields} {finish : Fields → Fields}
    (hparam : registry.param name = some info) (hdecoder : info.decode = some decode)
    (hdecode : decode name body = .ok (.walk inner fields rest finish)) :
    inner = name ∧ rest <:+ body ∧ Listed info.nFields fields := by
  obtain ⟨names, hkeeps, havoids⟩ := hsound.entries name info hparam decode hdecoder
  have hleaves := (hkeeps body).of_ok hdecode
  cases hleaves with
  | walk entries rest finish hnames hrest =>
    exact ⟨rfl, hrest, listed_ofList hnames havoids⟩

/-- The walk appends only to lists, whoever calls it. -/
theorem Called.listed (hsound : registry.Sound) {nFields : List String} {fields : Fields}
    (hcalled : Called registry nFields fields) : Listed nFields fields := by
  cases hcalled with
  | message => exact listed_empty
  | report => exact listed_report
  | parameter hparam hdecoder hdecode =>
    exact (rest_of_decode hsound hparam hdecoder hdecode).2.2

/-- A walk that succeeds stores parameters that tile its data. The induction is on the
length of the data, of which every parameter takes some. -/
theorem exists_tiled (hsound : registry.Sound) {nFields : List String} {fields result : Fields}
    {data : List UInt8}
    (hdecode : registry.decodeAllParameters nFields fields data = .ok result) :
    ∃ params, Tiled registry data params ∧ params.foldlM (store nFields) fields = .ok result := by
  induction hlength : data.length using Nat.strong_induction_on generalizing data fields with
  | _ length ih =>
    subst hlength
    cases data with
    | nil =>
      cases hdecode
      exact ⟨[], .nil, rfl⟩
    | cons first data =>
      rw [decodeAllParameters_eq hsound (List.cons_ne_nil _ _)] at hdecode
      obtain ⟨found, hfound, hdecode⟩ := bind_eq_ok_iff.mp hdecode
      cases found with
      | none => cases hdecode
      | some param =>
        obtain ⟨stored, hstore, hdecode⟩ := bind_eq_ok_iff.mp hdecode
        obtain ⟨header, hframed, hparam⟩ := exists_framed_of_decodeParam hfound
        have hsame := (decodeFramed_eq_ok hparam).1
        have hpos := hframed.fullLength_pos
        have hwhole := hframed.whole
        rw [hsame] at hdecode
        have hshorter : ((first :: data).drop header.fullLength).length <
            (first :: data).length := by
          rw [List.length_drop]
          omega
        obtain ⟨params, htiled, hfold⟩ := ih _ hshorter hdecode rfl
        refine ⟨param :: params, .cons hframed hparam hsame htiled, ?_⟩
        rw [List.foldlM_cons, hstore]
        exact hfold

end Registry

open Registry in
/-- Every walk through parameters ends with an LLRP error, or the parameters that it
stored tile its data. No parameter has the length zero, and what a walk gets that a
decoder starts is an end of the decoder's own body, and no more. -/
theorem decodeAllParameters_tiles {nFields : List String} {fields : Fields}
    (hcalled : Called registry nFields fields) (data : List UInt8) :
    ((∃ text, registry.decodeAllParameters nFields fields data = .error (.llrpError text)) ∨
      ∃ params result, registry.decodeAllParameters nFields fields data = .ok result ∧
        Tiled registry data params ∧ (params.map DecodedParam.length).sum = data.length ∧
        params.foldlM (store nFields) fields = .ok result) ∧
    (∀ walk part param, registry.decodeParam walk part = .ok (some param) →
      param.length ≠ 0) ∧
    ∀ header part, Framed header part →
      0 < header.headerLength ∧ header.headerLength ≤ header.fullLength ∧
      header.fullLength ≤ part.length ∧
      ∀ name info decode inner own rest finish,
        registry.nameOf header = some name → registry.param name = some info →
        info.decode = some decode →
        decode name (header.body part) = .ok (.walk inner own rest finish) →
        inner = name ∧ rest <:+ header.body part ∧ Called registry info.nFields own := by
  refine ⟨?_, ?_, ?_⟩
  · cases hdecode : registry.decodeAllParameters nFields fields data with
    | error raised =>
      have hlisted := hcalled.listed registry_sound
      obtain ⟨text, rfl⟩ :=
        (yields_decodeAllParameters registry_sound hlisted data).of_error hdecode
      exact .inl ⟨text, rfl⟩
    | ok result =>
      obtain ⟨params, htiled, hfold⟩ := exists_tiled registry_sound hdecode
      exact .inr ⟨params, result, rfl, htiled, htiled.length, hfold⟩
  · intro walk part param hdecode
    exact (length_pos_of_decodeParam hdecode).ne'
  · intro header part hframed
    refine ⟨hframed.headerLength_pos, hframed.headed, hframed.whole, ?_⟩
    intro name info decode inner own rest finish _ hparam hdecoder hdecode
    obtain ⟨hname, hrest, -⟩ := rest_of_decode registry_sound hparam hdecoder hdecode
    exact ⟨hname, hrest, .parameter hparam hdecoder hdecode⟩

/-- A tag report with an antenna and a signal strength in it, and another antenna. -/
theorem decodeAllParameters_tiles_report :
    let data : List UInt8 := [0, 240, 0, 9, 129, 0, 3, 134, 200, 129, 0, 1]
    ∃ params result, registry.decodeAllParameters [] .empty data = .ok result ∧
      Registry.Tiled registry data params ∧ (params.map DecodedParam.length).sum = 12 := by
  intro data
  have htiles := decodeAllParameters_tiles (.message []) data
  rcases htiles.1 with ⟨text, herror⟩ | ⟨params, result, hdecode, htiled, hlength, -⟩
  · have hok : (registry.decodeAllParameters [] .empty data).isOk = true := by
      decide +kernel
    rw [herror] at hok
    cases hok
  · exact ⟨params, result, hdecode, htiled, hlength⟩

end Sllurp.Codec
