/-
# Failures of decoding

Decoding fails only with an LLRP error. A body raises what the decoder of
parameters expects, which makes it a record or an LLRP error; a walk appends only to
lists; and a message turns what its header and its body raise into an LLRP error.
-/

import Sllurp.Codec.Sound
import Sllurp.Codec.Message

namespace Sllurp.Codec

open Sllurp.Foundations Sllurp.Foundations.Wire Sllurp.Foundations.Outcome Sllurp.Protocol

/-- The exception is an LLRP error. -/
def LLRPOnly (raised : Exn) : Prop := ∃ text, raised = .llrpError text

theorem LLRPOnly.expected {raised : Exn} (honly : LLRPOnly raised) : Expected raised := by
  obtain ⟨text, rfl⟩ := honly
  exact trivial

namespace Registry

variable {registry : Registry}

/-! ## Storing -/

theorem listed_set {nFields : List String} {fields : Fields} {key : String} {value : Value}
    (hlisted : Listed nFields fields)
    (hvalue : key ∈ decodeErrorParname :: nFields → ∃ items, value = .list items) :
    Listed nFields (fields.set key value) := by
  intro other hother found hfound
  rw [Dict.get?_set] at hfound
  split at hfound
  · rename_i heq
    cases hfound
    exact hvalue (heq ▸ hother)
  · exact hlisted other hother found hfound

theorem yields_append {nFields : List String} {fields : Fields} {key : String} (value : Value)
    (hlisted : Listed nFields fields) (hkey : key ∈ decodeErrorParname :: nFields) :
    Yields (Listed nFields) (fun _ => False) (fields.append key value) := by
  unfold Fields.append
  cases hget : fields.get? key with
  | none => exact listed_set hlisted fun _ => ⟨_, rfl⟩
  | some found =>
    obtain ⟨items, rfl⟩ := hlisted key hkey found hget
    exact listed_set hlisted fun _ => ⟨_, rfl⟩

/-- Storing a parameter never fails, and keeps lists where the walk appends. -/
theorem yields_store {nFields : List String} {fields : Fields} {param : DecodedParam}
    (hlisted : Listed nFields fields) (hname : param.name ≠ some decodeErrorParname) :
    Yields (Listed nFields) (fun _ => False) (store nFields fields param) := by
  unfold store
  cases hparam : param.name with
  | none => exact yields_append _ hlisted List.mem_cons_self
  | some name =>
    simp only
    split
    · rename_i hmem
      exact yields_append _ hlisted (List.mem_cons_of_mem _ hmem)
    · rename_i hmem
      apply listed_set hlisted
      intro hkey
      rcases List.mem_cons.mp hkey with heq | hmem'
      · exact absurd (hparam.trans (congrArg some heq)) hname
      · exact absurd hmem' hmem

/-! ## Parameters -/

/-- Fields that a decoder hands to the walk hold none of the keys it appends to. -/
theorem listed_ofList {nFields names : List String} {entries : List (String × Value)}
    (hnames : ∀ key ∈ entries.map Prod.fst, key ∈ names)
    (havoids : ∀ key ∈ decodeErrorParname :: nFields, key ∉ names) :
    Listed nFields (.ofList entries) := by
  intro key hkey value hget
  have hmem : key ∈ (Dict.ofList entries).keys := (Dict.mem_keys_iff _ _).mpr ⟨value, hget⟩
  exact absurd (hnames key (Dict.mem_keys_ofList.mp hmem)) (havoids key hkey)

theorem yields_decodeBody (hsound : registry.Sound)
    {walk : String → Fields → List UInt8 → Except Exn Fields} {name : String}
    {info : ParamInfo} {body : List UInt8} (hparam : registry.param name = some info)
    (hwalk : ∀ fields rest, rest.length ≤ body.length → Listed info.nFields fields →
      Yields (fun _ => True) LLRPOnly (walk name fields rest)) :
    Yields (fun _ => True) Expected (registry.decodeBody walk name body) := by
  unfold decodeBody
  rw [hparam]
  cases hdecoder : info.decode with
  | none =>
    simp only [key, ok_bind, hdecoder]
    exact trivial
  | some decode =>
    obtain ⟨names, hkeeps, havoids⟩ := hsound.entries name info hparam decode hdecoder
    simp only [key, ok_bind, hdecoder]
    apply (hkeeps body).bind
    intro decoded hleaves
    cases hleaves with
    | value value => exact trivial
    | walk entries rest finish hnames hrest =>
      have hwalked := (hwalk _ _ hrest.length_le (listed_ofList hnames havoids)).mono (fun _ => id)
        fun _ => LLRPOnly.expected
      exact hwalked.bind fun _ _ => trivial

/-- A missing key makes a record, and every other exception of a body an LLRP error. -/
theorem yields_decodeFramed (hsound : registry.Sound)
    {walk : String → Fields → List UInt8 → Except Exn Fields} {header : ParamHeader}
    {body : List UInt8}
    (hwalk : ∀ name info fields rest, registry.param name = some info →
      rest.length ≤ body.length → Listed info.nFields fields →
      Yields (fun _ => True) LLRPOnly (walk name fields rest)) :
    Yields (fun param => param.name ≠ some decodeErrorParname) LLRPOnly
      (registry.decodeFramed walk header body) := by
  unfold decodeFramed
  cases hname : registry.nameOf header with
  | none => exact fun heq => nomatch heq
  | some name =>
    obtain ⟨info, hparam⟩ := hsound.known _ _ hname
    have hbody := yields_decodeBody hsound hparam (hwalk name info · · hparam)
    simp only
    cases hdecode : registry.decodeBody walk name body with
    | ok value => exact fun heq => hsound.record _ (hname.trans heq)
    | error raised =>
      have hexpected := hbody.of_error hdecode
      cases raised with
      | keyError key => exact fun heq => nomatch heq
      | structError text => exact ⟨_, rfl⟩
      | valueError text => exact ⟨_, rfl⟩
      | typeError text => exact ⟨_, rfl⟩
      | llrpError text => exact ⟨_, rfl⟩
      | _ => exact absurd hexpected not_false

theorem yields_decodeParam (hsound : registry.Sound)
    {walk : String → Fields → List UInt8 → Except Exn Fields} {data : List UInt8}
    (hwalk : ∀ name info fields rest, registry.param name = some info →
      rest.length < data.length → Listed info.nFields fields →
      Yields (fun _ => True) LLRPOnly (walk name fields rest)) :
    Yields (fun found => ∀ param ∈ found, param.name ≠ some decodeErrorParname) LLRPOnly
      (registry.decodeParam walk data) := by
  by_cases hexists : ∃ header, Framed header data
  · obtain ⟨header, hframed⟩ := hexists
    rw [decodeParam_of_framed hframed]
    have hdecoded := @yields_decodeFramed registry hsound walk header (header.body data)
      fun name info fields rest hparam hrest hlisted =>
        hwalk name info fields rest hparam (hrest.trans_lt hframed.length_body) hlisted
    cases hdecode : registry.decodeFramed walk header (header.body data) with
    | error raised => exact hdecoded.of_error hdecode
    | ok param =>
      rintro _ ⟨rfl⟩
      exact hdecoded.of_ok hdecode
  · rcases @decodeParam_of_not_framed registry data
        (fun header hframed => hexists ⟨header, hframed⟩) with hnone | ⟨text, herror⟩
    · rw [hnone]
      exact fun _ hparam => nomatch hparam
    · rw [herror]
      exact ⟨text, rfl⟩

/-! ## Walks -/

/-- With more fuel than bytes a walk fails only with an LLRP error. The induction is on
the fuel, which bounds both the parameters that follow and those inside. -/
theorem yields_walkAll (hsound : registry.Sound) {fuel : ℕ} {nFields : List String}
    {fields : Fields} {data : List UInt8} (hfuel : data.length < fuel)
    (hlisted : Listed nFields fields) :
    Yields (Listed nFields) LLRPOnly (registry.walkAll fuel nFields fields data) := by
  induction fuel generalizing nFields fields data with
  | zero => exact absurd hfuel (Nat.not_lt_zero _)
  | succ fuel ih =>
    rw [walkAll]
    split
    · exact hlisted
    · rename_i hdata
      have hnonempty : 0 < data.length := List.length_pos_iff.mpr (by simpa using hdata)
      have hparam := @yields_decodeParam registry hsound
        (fun name fields rest => do
          let nFields ← registry.nFieldsOf name
          registry.walkAll fuel nFields fields rest) data
        (fun name info fields rest hinfo hrest hfields => by
          rw [nFieldsOf_of_param hinfo, ok_bind]
          exact (ih (by omega) hfields).mono (fun _ _ => trivial) fun _ => id)
      simp only
      cases hdecode : registry.decodeParam
          (fun name fields rest => do
            let nFields ← registry.nFieldsOf name
            registry.walkAll fuel nFields fields rest) data with
      | error raised => exact hparam.of_error hdecode
      | ok found =>
        cases found with
        | none => exact ⟨_, rfl⟩
        | some param =>
          have hpos := length_pos_of_decodeParam hdecode
          have hstores := (yields_store hlisted (hparam.of_ok hdecode param rfl)).mono
            (fun _ => id) fun raised hfalse => (hfalse.elim : LLRPOnly raised)
          apply hstores.bind
          intro stored hstored
          rw [if_neg hpos.ne']
          exact ih (by rw [List.length_drop]; omega) hstored

theorem yields_decodeAllParameters (hsound : registry.Sound) {nFields : List String}
    {fields : Fields} (hlisted : Listed nFields fields) (data : List UInt8) :
    Yields (Listed nFields) LLRPOnly (registry.decodeAllParameters nFields fields data) :=
  yields_walkAll hsound (Nat.lt_succ_self _) hlisted

end Registry

/-! ## Messages -/

theorem msgVendorDecode_yields (msgType : ℕ) (data : List UInt8) :
    Yields (fun _ => True) (fun raised => ∃ text, raised = .valueError text)
      (msgVendorDecode msgType data) := by
  unfold msgVendorDecode
  simp only
  split
  · exact trivial
  · split
    · exact ⟨_, rfl⟩
    · have hvendor : ((data.take (recordSize msgHeader + recordSize msgVendorSubtype)).drop
          (recordSize msgHeader)).length = recordSize msgVendorSubtype := by
        rw [List.length_drop, List.length_take, Nat.min_eq_left (by omega), Nat.add_sub_cancel_left]
      obtain ⟨⟨vendorId, subtype, _⟩, hunpack⟩ := exists_unpackStruct hvendor
      rw [hunpack]
      exact trivial

theorem msgHeaderDecode_yields (data : List UInt8) :
    Yields (fun _ => True) (fun raised => ∃ text, raised = .valueError text)
      (msgHeaderDecode data) := by
  unfold msgHeaderDecode
  split
  · exact ⟨_, rfl⟩
  · have hhead : (data.take (recordSize msgHeader)).length = recordSize msgHeader := by
      rw [List.length_take]
      omega
    obtain ⟨⟨first, total, messageId, _⟩, hunpack⟩ := exists_unpackStruct hhead
    rw [hunpack]
    simp only [ok_bind]
    apply (msgVendorDecode_yields _ _).bind
    rintro ⟨vendorId, subtype, headerLength⟩ -
    simp only
    split
    · exact ⟨_, rfl⟩
    · exact trivial

theorem listed_empty {nFields : List String} : Listed nFields .empty := by
  intro key _ value hget
  cases hget

/-- The list of tags is there to append to. -/
theorem listed_report {nFields : List String} :
    Listed nFields (.ofList [("TagReportData", .list [])]) := by
  intro key _ value hget
  have hmem := Dict.mem_keys_ofList.mp ((Dict.mem_keys_iff _ _).mpr ⟨value, hget⟩)
  rw [List.mem_singleton.mp hmem] at hget
  cases hget
  exact ⟨[], rfl⟩

/-- The decoder of a message fails only with an LLRP error. -/
def FailsClean (decode : MessageDecoder) (nFields : List String) : Prop :=
  ∀ body, Yields (fun _ => True) LLRPOnly (decode nFields body)

theorem decodeGenericMessage_clean (nFields : List String) :
    FailsClean decodeGenericMessage nFields := fun body =>
  (Registry.yields_decodeAllParameters registry_sound listed_empty body).mono
    (fun _ _ => trivial) fun _ => id

theorem decodeGenericMessageWithStatusCheck_clean (nFields : List String) :
    FailsClean decodeGenericMessageWithStatusCheck nFields := by
  intro body
  apply (decodeGenericMessage_clean nFields body).bind
  intro fields _
  split
  · exact trivial
  · exact ⟨_, rfl⟩

theorem decodeROAccessReport_clean (nFields : List String) :
    FailsClean decodeROAccessReport nFields := by
  intro body
  exact (Registry.yields_decodeAllParameters registry_sound listed_report body).mono
    (fun _ _ => trivial) fun _ => id

theorem messageStruct_decoders :
    ∀ entry ∈ messageStruct, ∀ decode, entry.2.decode = some decode →
      decode = decodeGenericMessage ∨ decode = decodeGenericMessageWithStatusCheck ∨
        decode = decodeROAccessReport := by
  simp [messageStruct, statusResponse, specRequest, bareRequest]

theorem failsClean_of_lookup {name : String} {info : MessageInfo} {decode : MessageDecoder}
    (hinfo : messageStruct.lookup name = some info) (hdecoder : info.decode = some decode) :
    FailsClean decode info.nFields := by
  rcases messageStruct_decoders _ (mem_of_lookup hinfo) decode hdecoder with rfl | rfl | rfl
  · exact decodeGenericMessage_clean _
  · exact decodeGenericMessageWithStatusCheck_clean _
  · exact decodeROAccessReport_clean _

theorem deserializeFramed_yields (header : MsgHeader) (body : List UInt8) :
    Yields (fun _ => True) LLRPOnly (deserializeFramed header body) := by
  unfold deserializeFramed
  simp only
  split
  · exact ⟨_, rfl⟩
  · split
    · exact ⟨_, rfl⟩
    · split
      · exact ⟨_, rfl⟩
      · rename_i info hinfo _ decode hdecoder
        cases hbody : decode info.nFields body with
        | ok fields => exact trivial
        | error raised =>
          obtain ⟨text, rfl⟩ := (failsClean_of_lookup hinfo hdecoder body).of_error hbody
          exact ⟨text, rfl⟩

/-- Decoding a message, whatever its bytes are, succeeds or fails with an LLRP error. -/
theorem deserialize_yields (data : List UInt8) :
    Yields (fun _ => True) LLRPOnly (deserialize data) := by
  unfold deserialize
  split
  · exact ⟨_, rfl⟩
  · have hheader :
        Yields (fun _ => True) LLRPOnly ((msgHeaderDecode data).mapError headerFailure) := by
      cases hdecode : msgHeaderDecode data with
      | ok header => exact trivial
      | error raised =>
        obtain ⟨text, rfl⟩ := (msgHeaderDecode_yields data).of_error hdecode
        exact ⟨_, rfl⟩
    apply hheader.bind
    intro header _
    split
    · exact ⟨_, rfl⟩
    · split
      · exact ⟨_, rfl⟩
      · exact deserializeFramed_yields _ _

/-- Whatever the bytes are, there is a message or an LLRP error. -/
theorem deserialize_message_or_llrpError (data : List UInt8) :
    (∃ message, deserialize data = .ok message) ∨
      ∃ text, deserialize data = .error (.llrpError text) := by
  have hyields := deserialize_yields data
  cases hdecode : deserialize data with
  | ok message => exact .inl ⟨message, rfl⟩
  | error raised =>
    obtain ⟨text, rfl⟩ := hyields.of_error hdecode
    exact .inr ⟨text, rfl⟩

end Sllurp.Codec
