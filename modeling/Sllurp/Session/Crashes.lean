/-
# Messages that crash the state machine

Which exceptions leave `handleMessage`. Apart from an `LLRPError`, one escapes
where the branch reads a part that the message does not have, where the check of
the capabilities runs into a missing key, and where a completed request goes on
to build something that cannot be built. `crashes` collects these cases.
-/

import Sllurp.Session.Escapes
import Sllurp.Session.Waiting

namespace Sllurp.Session

open Sllurp.Foundations Sllurp.Protocol Sllurp.Config Sllurp.Runtime
open Sllurp.Foundations.Program

/-! ## Capabilities -/

/-- Whether putting selected powers into the configuration fails, for an antenna
without a power setting. -/
def lacksAntenna (config : LLRPReaderConfig) (band : UHFBandCapabilities)
    (txPower : List (ℤ × ℤ)) (zeroIsMax : Bool) : Bool :=
  match getTxPower (powerIndices band) (parsePowerTable band) txPower zeroIsMax with
  | .error _ => false
  | .ok selected => !admitsPowers config.txPower selected

/-- Whether taking the configured powers fails with something other than an
`LLRPError`: they are not given for each antenna. -/
def lacksPowers (config : LLRPReaderConfig) (band : UHFBandCapabilities) : Bool :=
  match config.txPowerDbm, config.txPower with
  | some (.perAntenna levels), _ =>
    match (validIndices (powerIndices band) (parsePowerTable band)).argmax
      (powerAt (parsePowerTable band)) with
    | none => false
    | some maxPowerIdx =>
      lacksAntenna config band
        (levels.mapValues fun dbm =>
          ((nearestIndex (powerIndices band) (parsePowerTable band) dbm).getD maxPowerIdx :
            ℤ)).entries false
  | some (.level _), _ => true
  | none, .perAntenna indexes => lacksAntenna config band indexes.entries true
  | none, .index _ => true

/-- Whether the check of capabilities fails with something other than an
`LLRPError`: a key is missing, or the configuration is not a validated one. -/
def capabilitiesTrip (config : LLRPReaderConfig) (capabilities : Capabilities) : Bool :=
  match capabilities.maxNumberOfAntennaSupported with
  | none => true
  | some maxAnt =>
    config.antennas.isEmpty ||
      (checkAntennas config maxAnt).isOk &&
        match capabilities.uhfBand with
        | .error _ => true
        | .ok band =>
          lacksPowers config band || grantsConfiguredPower config band && !band.modeList.isOk

/-- What keeps a list of results from being a result is one of them. -/
theorem exists_error_of_mapM {α β ε : Type} {select : α → Except ε β} {items : List α}
    {raised : ε} (hfail : items.mapM select = .error raised) :
    ∃ item ∈ items, select item = .error raised := by
  induction items with
  | nil => cases hfail
  | cons item items ih =>
    rw [List.mapM_cons] at hfail
    cases hitem : select item with
    | error other =>
      rw [hitem] at hfail
      cases hfail
      exact ⟨item, List.mem_cons_self .., hitem⟩
    | ok value =>
      rw [hitem] at hfail
      cases hrest : items.mapM select with
      | error other =>
        rw [hrest] at hfail
        cases hfail
        obtain ⟨found, hmem, hfound⟩ := ih hrest
        exact ⟨found, List.mem_cons_of_mem _ hmem, hfound⟩
      | ok values =>
        rw [hrest] at hfail
        cases hfail

theorem isLLRPError_of_getTxPower {indices : List ℕ} {table : List ℚ} {txPower : List (ℤ × ℤ)}
    {zeroIsMax : Bool} {raised : Exn}
    (hselect : getTxPower indices table txPower zeroIsMax = .error raised) :
    raised.isLLRPError = true := by
  unfold getTxPower at hselect
  split at hselect
  · cases hselect
  · dsimp only at hselect
    split at hselect
    · cases hselect
    · obtain ⟨⟨antenna, requested⟩, -, hrefused⟩ := exists_error_of_mapM hselect
      dsimp only at hrefused
      generalize (if requested = 0 && zeroIsMax then _ else requested) = index at hrefused
      split at hrefused
      · cases hrefused
      · cases hrefused
        rfl

/-- What keeps powers from being assigned is never an `LLRPError`. -/
theorem escapes_assignPowers (selected : List (ℤ × ℕ × ℚ)) (needsUpdate : Bool)
    (client : Client) :
    escapes (assignPowers selected needsUpdate) client =
      !admitsPowers client.settings.txPower selected := by
  rw [← raises_assignPowers selected needsUpdate]
  induction selected generalizing needsUpdate client with
  | nil => rfl
  | cons power selected ih =>
    obtain ⟨antenna, index, dbm⟩ := power
    unfold assignPowers
    rw [escapes_get_bind, Program.raises_get_bind]
    cases client.settings.txPower with
    | index index => rfl
    | perAntenna powers =>
      dsimp only
      cases powers.get? antenna with
      | none => rfl
      | some current =>
        dsimp only
        split
        · exact ih needsUpdate client
        · exact ih true _

theorem escapes_setTxPower {client : Client} (hstate : client.state ≠ .inventorying)
    {band : UHFBandCapabilities} (hindices : client.txPowerIndices = powerIndices band)
    (htable : client.txPowerTable = parsePowerTable band) (txPower : List (ℤ × ℤ))
    (zeroIsMax : Bool) :
    escapes (setTxPower txPower zeroIsMax) client =
      lacksAntenna client.settings band txPower zeroIsMax := by
  unfold setTxPower lacksAntenna
  rw [escapes_get_bind, hindices, htable]
  cases hselect : getTxPower (powerIndices band) (parsePowerTable band) txPower zeroIsMax with
  | error raised =>
    change (!raised.isLLRPError) = false
    rw [isLLRPError_of_getTxPower hselect]
    rfl
  | ok selected =>
    change escapes (assignPowers selected false >>= _) client = _
    dsimp only
    rw [← escapes_assignPowers selected false client]
    have hparsing := Parsing.assignPowers selected false client hstate
    rcases hrun : assignPowers selected false client with ⟨raised | needsUpdate, later⟩
    · rw [escapes_bind_error hrun, escapes_eq_of_run hrun]
    · rw [hrun] at hparsing
      obtain ⟨values, hparsed⟩ := hparsing
      have hlater : later = client.parsed values := hparsed
      have hquiet : ¬ (needsUpdate && decide (later.state = .inventorying)) = true := by
        rw [hlater]
        simp [hstate]
      rw [escapes_bind_ok hrun, escapes_get_bind, if_neg hquiet, escapes_pure]
      unfold escapes
      rw [hrun]
      rfl

theorem escapes_setConfiguredPower {client : Client} (hstate : client.state ≠ .inventorying)
    {band : UHFBandCapabilities} (hindices : client.txPowerIndices = powerIndices band)
    (htable : client.txPowerTable = parsePowerTable band) :
    escapes setConfiguredPower client = lacksPowers client.settings band := by
  unfold setConfiguredPower lacksPowers
  rw [escapes_get_bind]
  cases hdbm : client.settings.txPowerDbm with
  | none =>
    cases hpower : client.settings.txPower with
    | index index => rfl
    | perAntenna powers => exact escapes_setTxPower hstate hindices htable _ _
  | some levels =>
    cases levels with
    | level dbm => rfl
    | perAntenna levels =>
      dsimp only
      unfold setTxPowerDbm
      rw [escapes_get_bind, hindices, htable]
      dsimp only
      cases (validIndices (powerIndices band) (parsePowerTable band)).argmax
        (powerAt (parsePowerTable band)) with
      | none => rfl
      | some maxPowerIdx =>
        dsimp only
        have hsame : { client.settings with txPowerDbm := some (.perAntenna levels) } =
            client.settings := by rw [← hdbm]
        rw [escapes_modify_bind, hsame, setConfig_settings]
        exact escapes_setTxPower hstate hindices htable _ _

theorem escaped_checkAntennas (config : LLRPReaderConfig) (maxAnt : ℕ) :
    escaped (checkAntennas config maxAnt) = config.antennas.isEmpty := by
  unfold checkAntennas
  cases config.antennas with
  | nil => rfl
  | cons antenna antennas =>
    dsimp only
    split <;> rfl

theorem escaped_uhfBand (capabilities : Capabilities) :
    escaped capabilities.uhfBand = !capabilities.uhfBand.isOk := by
  unfold Capabilities.uhfBand
  cases capabilities.regulatoryCapabilities with
  | none => rfl
  | some band => cases band <;> rfl

theorem escaped_modeList (band : UHFBandCapabilities) :
    escaped band.modeList = !band.modeList.isOk := by
  unfold UHFBandCapabilities.modeList
  cases band.uhfC1G2RFModeTable with
  | none => rfl
  | some table => cases table <;> rfl

/-- The mode, the Tari and the deduplication backend are refused with an
`LLRPError` if they are. -/
theorem escapes_afterModes (client : Client) (capabilities : Capabilities)
    (modes : List ReaderMode) :
    escapes (do
      .modify (·.withReaderMode none)
      let client ← Program.get
      let mode ← Program.ofExcept (selectMode client.settings modes)
      .modify (·.withReaderMode mode)
      Program.ofExcept (checkTari client.settings mode)
      let backend ← Program.ofExcept (selectDedupBackend client.settings capabilities)
      .modify (·.withDedupBackend backend) : ClientM Unit) client = false := by
  have hmode : ∀ config, escaped (selectMode config modes) = false := by
    intro config
    unfold selectMode
    split
    · rfl
    · split <;> rfl
  have htari : ∀ config mode, escaped (checkTari config mode) = false := by
    intro config mode
    unfold checkTari
    split
    · split <;> rfl
    · rfl
  have hbackend : ∀ config, escaped (selectDedupBackend config capabilities) = false := by
    intro config
    unfold selectDedupBackend
    repeat' split
    all_goals rfl
  rw [escapes_modify_bind, escapes_get_bind]
  have hselected := hmode (client.withReaderMode none).settings
  cases hselect : selectMode (client.withReaderMode none).settings modes with
  | error raised =>
    rw [hselect] at hselected
    exact hselected
  | ok mode =>
    change escapes (Program.ofExcept (checkTari (client.withReaderMode none).settings mode) >>= _)
      ((client.withReaderMode none).withReaderMode mode) = false
    have hchecked := htari (client.withReaderMode none).settings mode
    cases hcheck : checkTari (client.withReaderMode none).settings mode with
    | error raised =>
      rw [hcheck] at hchecked
      exact hchecked
    | ok _ =>
      have hchosen := hbackend (client.withReaderMode none).settings
      change escapes (Program.ofExcept (selectDedupBackend (client.withReaderMode none).settings
        capabilities) >>= _) ((client.withReaderMode none).withReaderMode mode) = false
      cases hchoose : selectDedupBackend (client.withReaderMode none).settings capabilities with
      | error raised =>
        rw [hchoose] at hchosen
        exact hchosen
      | ok backend => rfl

/-- Outside INVENTORYING, the check of capabilities fails with something other
than an `LLRPError` where `capabilitiesTrip` says so. -/
theorem escapes_parseCapabilities {client : Client} (hstate : client.state ≠ .inventorying)
    (capabilities : Capabilities) :
    escapes (parseCapabilities capabilities) client =
      capabilitiesTrip client.settings capabilities := by
  unfold parseCapabilities capabilitiesTrip key
  cases capabilities.maxNumberOfAntennaSupported with
  | none => rfl
  | some maxAnt =>
    let counted := client.withMaxAnt maxAnt
    have hsettings : counted.settings = client.settings := rfl
    change escapes (Program.ofExcept (checkAntennas counted.settings maxAnt) >>= _) counted = _
    rw [hsettings]
    dsimp only
    have hantennas := escaped_checkAntennas client.settings maxAnt
    cases hcheck : checkAntennas client.settings maxAnt with
    | error raised =>
      rw [hcheck] at hantennas
      change escaped (.error raised : Except Exn Unit) = _
      rw [hantennas]
      exact (Bool.or_false _).symm
    | ok _ =>
      rw [hcheck] at hantennas
      rw [← hantennas]
      have huhf := escaped_uhfBand capabilities
      change escapes (Program.ofExcept capabilities.uhfBand >>= _) counted = _
      cases hband : capabilities.uhfBand with
      | error raised =>
        rw [hband] at huhf
        exact huhf
      | ok band =>
        let ready := counted.withPowerTable band
        have hready : ready.state ≠ .inventorying := hstate
        have hescapes : escapes setConfiguredPower ready = lacksPowers client.settings band :=
          escapes_setConfiguredPower hready rfl rfl
        have hraises : setConfiguredPower.raises ready =
            !grantsConfiguredPower client.settings band :=
          raises_setConfiguredPower hready rfl rfl
        change escapes (setConfiguredPower >>= _) ready =
          (lacksPowers client.settings band ||
            grantsConfiguredPower client.settings band && !band.modeList.isOk)
        rw [← hescapes]
        unfold Program.raises at hraises
        rcases hrun : setConfiguredPower ready with ⟨raised | _, later⟩
        · have hrefused : grantsConfiguredPower client.settings band = false := by
            rw [hrun] at hraises
            simpa using hraises.symm
          rw [escapes_bind_error hrun, escapes_eq_of_run hrun, hrefused]
          simp
        · have hgranted : grantsConfiguredPower client.settings band = true := by
            rw [hrun] at hraises
            simpa using hraises.symm
          have hreturned : escapes setConfiguredPower ready = false := by
            unfold escapes
            rw [hrun]
            rfl
          rw [escapes_bind_ok hrun, hreturned, hgranted]
          have hmodes := escaped_modeList band
          cases hlist : band.modeList with
          | error raised =>
            rw [hlist] at hmodes
            exact hmodes
          | ok modes => exact escapes_afterModes later capabilities modes

/-! ## Completing requests -/

namespace Client

/-- The callback that a response of the name completes. -/
def heard (client : Client) (name : MessageName) : Option Callback :=
  (client.deferreds name).head?.map Deferred.callback

end Client

/-- What a completion leaves alone before it runs a callback. -/
structure Undeferred (name : MessageName) (client later : Client) : Prop where
  profile : later.profile = client.profile
  state : later.state = client.state
  writes : later.writes = client.writes
  isWaiting : ∀ other ≠ name, later.isWaiting other = client.isWaiting other
  settled : later.isWaiting name = false

theorem undeferred_completed {client : Client} (hcore : Correlated false client.core)
    {name : MessageName} {id : ℕ} {pending : PendingRequest Callback}
    (hpending : client.core.pendingAt name id = some pending) (isSuccess : Bool) :
    Undeferred name client (client.completed name id pending isSuccess) := by
  have hcompleted := core_completed client name id pending isSuccess
  have hregistry : (client.completed name id pending isSuccess).pendingRequests =
      (client.pendingRequests.pop name id).2 := congrArg Core.pendingRequests hcompleted
  refine ⟨profile_completed client name id pending isSuccess, congrArg Core.state hcompleted, rfl,
    fun other hother => ?_, ?_⟩
  · have hdeferreds : (client.completed name id pending isSuccess).deferreds other =
        client.deferreds other := by
      refine (congrArg (fun core => Core.deferreds core other) hcompleted).trans ?_
      exact if_neg hother
    unfold Client.isWaiting
    rw [hregistry, hdeferreds, hasResponseType_pop hother]
  · have hdeferreds : (client.completed name id pending isSuccess).deferreds name = [] := by
      refine (congrArg (fun core => Core.deferreds core name) hcompleted).trans ?_
      change (if name = name then (client.core.deferreds name).filter _ else _) = []
      rw [if_pos rfl, hcore.deferred hpending]
      simp [deferredOf]
    refine Bool.or_eq_false_iff.mpr ⟨Bool.eq_false_iff.mpr fun htype => ?_, ?_⟩
    · obtain ⟨other, held, hheld⟩ := (PendingRequestRegistry.hasResponseType_iff _ _).mp htype
      have hpopped : (client.completed name id pending isSuccess).core.pendingRequests =
          (client.core.pendingRequests.pop name id).2 := hregistry
      have hlater : (client.completed name id pending isSuccess).core.pendingAt name other =
          some held := hheld
      obtain ⟨hkey, hbefore⟩ := (Correlated.pendingAt_pop hpopped).mp hlater
      exact hkey (congrArg (Prod.mk name) (hcore.id_unique hpending hbefore).symm)
    · rw [hdeferreds]
      rfl

/-- Callbacks wait for responses only. -/
theorem isResponse_of_deferred {core : Core} (hcore : Correlated false core) {name : MessageName}
    {deferred : Deferred} (hmem : deferred ∈ core.deferreds name) : name.isResponse = true := by
  rcases hcore.owned hmem with ⟨id, pending, hpending, -⟩ | ⟨expired, hexpired, hname, -⟩
  · exact (hcore.keyed hpending).2
  · exact hname ▸ hcore.expiring hexpired

/-- A response that is not ignored completes the one callback that is deferred
under its name, if there is one. -/
theorem run_complete_of_fitting {client : Client} (hcore : Correlated false client.core)
    (hfitting : Fitting client.core) {message : LLRPMessage}
    (hignored : ignored client message = false) (next : Unit → ClientM Unit) :
    ∃ later, Undeferred message.name (client.prepared message) later ∧
      later.requests = (client.prepared message).requests ∧
      (complete message message.isSuccess >>= next) (client.prepared message) =
        match client.heard message.name with
        | none => next () later
        | some callback => (runCallback callback message.isSuccess >>= next) later := by
  have hprepared := core_prepared client message
  have hdeferreds : (client.prepared message).core.deferreds = client.deferreds :=
    congrArg Core.deferreds hprepared
  have hregistry : (client.prepared message).core.pendingRequests = client.pendingRequests :=
    congrArg Core.pendingRequests hprepared
  cases hpending : client.core.pendingAt message.name message.id with
  | some pending =>
    have hlist : client.deferreds message.name = [deferredOf pending] := hcore.deferred hpending
    have hstill : (client.prepared message).core.pendingAt message.name message.id =
        some pending := by
      rw [Core.pendingAt, hregistry]
      exact hpending
    have hcorrelated : Correlated false (client.prepared message).core := by
      rw [hprepared]
      exact Correlated.setState hcore _
    refine ⟨_, undeferred_completed hcorrelated hstill message.isSuccess,
      requests_completed _ _ _ _ _, ?_⟩
    rw [run_complete_of_pending hpending, Client.heard, hlist]
    rfl
  | none =>
    have hnone : (client.prepared message).core.pendingAt message.name message.id = none := by
      rw [Core.pendingAt, hregistry]
      exact hpending
    have htype : (client.prepared message).pendingRequests.hasResponseType message.name =
        false := by
      refine Bool.eq_false_iff.mpr fun hpends => ?_
      rw [show (client.prepared message).pendingRequests = _ from hregistry] at hpends
      obtain ⟨id, held, hheld⟩ := (PendingRequestRegistry.hasResponseType_iff _ _).mp hpends
      exact Option.some_ne_none held
        (hheld.symm.trans (hcore.none_pending_of_not_ignored hignored hpending id))
    cases hlist : client.deferreds message.name with
    | nil =>
      have hempty : (client.prepared message).core.leftover message = [] := by
        unfold Core.leftover
        rw [hdeferreds, hlist, ite_self]
      have hsettled : (client.prepared message).isWaiting message.name = false := by
        unfold Client.isWaiting
        rw [htype, show (client.prepared message).deferreds = _ from hdeferreds, hlist]
        rfl
      refine ⟨client.prepared message, ⟨rfl, rfl, rfl, fun _ _ => rfl, hsettled⟩, rfl, ?_⟩
      rw [Program.run_bind_ok (run_complete_of_no_leftover hnone hempty _), Client.heard, hlist]
      rfl
    | cons deferred rest =>
      have hsingle := hfitting.single message.name
      change (client.deferreds message.name).length ≤ 1 at hsingle
      rw [hlist] at hsingle
      have hrest : rest = [] :=
        List.eq_nil_of_length_eq_zero (Nat.le_zero.mp (Nat.le_of_succ_le_succ hsingle))
      subst hrest
      have hresponse : message.name.isResponse = true := by
        have hmem : deferred ∈ client.core.deferreds message.name := by
          change deferred ∈ client.deferreds message.name
          rw [hlist]
          exact List.mem_singleton_self deferred
        exact isResponse_of_deferred hcore hmem
      have hstale : client.pendingRequests.isStale message.name message.id = false := by
        simp only [ignored, hresponse, Bool.true_and, Bool.or_eq_false_iff] at hignored
        exact hignored.1.1.1
      have hcontains : client.pendingRequests.contains message.name message.id = false := by
        rw [PendingRequestRegistry.contains, Dict.contains,
          show client.pendingRequests.pending.get? _ = none from hpending]
        rfl
      have hleftover : (client.prepared message).core.leftover message = [deferred] := by
        unfold Core.leftover
        rw [hregistry, hstale, hcontains, hdeferreds, hlist]
        rfl
      have hstalePrepared :
          (client.prepared message).pendingRequests.isStale message.name message.id = false := by
        rw [show (client.prepared message).pendingRequests = _ from hregistry, hstale]
      refine ⟨((client.prepared message).setDeferreds message.name []).record
        (.invoked deferred.serial message.isSuccess), ⟨rfl, rfl, rfl, ?_, ?_⟩,
        requests_record_invoked _ _ _, ?_⟩
      · intro other hother
        have hkept : ((client.prepared message).setDeferreds message.name []).deferreds other =
            (client.prepared message).deferreds other := if_neg hother
        change (_ || !(((client.prepared message).setDeferreds message.name []).deferreds
          other).isEmpty) = _
        rw [hkept]
        rfl
      · have hcleared : ((client.prepared message).setDeferreds message.name []).deferreds
            message.name = [] := if_pos rfl
        change ((client.prepared message).pendingRequests.hasResponseType message.name ||
          !(((client.prepared message).setDeferreds message.name []).deferreds
            message.name).isEmpty) = false
        rw [htype, hcleared]
        rfl
      · rw [Program.run_bind, run_complete_of_not_pending hnone, hleftover, hstalePrepared,
          if_neg Bool.false_ne_true, Client.heard, hlist]
        change _ = (runCallback deferred.callback message.isSuccess >>= next) _
        rw [Program.run_bind]
        unfold invokeAll invokeAll invoke
        rw [bind_pure_unit, Program.run_modify_bind]

/-! ## After the completion -/

namespace Client

/-- Whether what follows the setup builds a ROSpec that cannot be built. -/
def tripsSetup (client : Client) : Bool :=
  !client.disconnecting && !client.settings.resetOnConnect && client.settings.startInventory &&
    client.state ≠ .inventorying && client.rospec.isNone && client.tripsBuilding

end Client

theorem escapes_finishSetup {client : Client} (hwritable : client.Writable) :
    escapes finishSetup client = client.tripsSetup := by
  unfold finishSetup Client.tripsSetup
  rw [escapes_get_bind]
  cases client.disconnecting with
  | true => rfl
  | false =>
    cases client.settings.resetOnConnect with
    | true =>
      have hready : { client with disconnecting := client.disconnecting || false }.Writable :=
        hwritable
      exact escapes_sendRequest hready _ _ _ _
    | false =>
      cases client.settings.startInventory with
      | false => rfl
      | true =>
        change escapes (startInventory false .absent (pure ())) client = _
        by_cases hstate : client.state = .inventorying
        · unfold startInventory
          rw [escapes_get_bind, if_pos hstate, hstate]
          rfl
        · have hcached : client.rospec.filter (fun _ => !false) = client.rospec := by
            cases client.rospec <;> rfl
          rw [escapes_startInventory hwritable hstate, hcached]
          simp [hstate]

/-- What a branch does after the completion builds a ROSpec at the end of the
setup only. -/
theorem escapes_afterwards {client later : Client} (hwritable : later.Writable)
    (message : LLRPMessage) :
    escapes (afterwards client message) later =
      (client.state = .sentSetConfig && !client.suppressSetConfigPostActions &&
        message.isSuccess && later.tripsSetup) := by
  have hconnecting : escapes (do
      let client ← Program.get
      if usesImpinjExtensions client.settings then
        sendEnableImpinjExtensions .enableImpinjExtCb
      else sendGetReaderCapabilities .getReaderCapabilitiesCb : ClientM Unit) later = false := by
    rw [escapes_get_bind]
    split
    · exact escapes_sendRequest hwritable _ _ _ _
    · exact escapes_sendRequest hwritable _ _ _ _
  unfold afterwards
  cases hstate : client.state with
  | disconnected => exact hconnecting
  | connecting => exact hconnecting
  | connected => exact hconnecting
  | sentEnableImpinjExtensions => cases message.isSuccess <;> rfl
  | sentGetCapabilities =>
    cases message.isSuccess with
    | false => rfl
    | true =>
      change escapes (if later.disconnecting then pure ()
        else sendGetReaderConfig .getReaderConfigCb) later = false
      cases later.disconnecting with
      | true => rfl
      | false => exact escapes_sendRequest hwritable _ _ _ _
  | sentGetConfig =>
    cases message.isSuccess with
    | false => rfl
    | true =>
      change escapes (if later.disconnecting then pure () else do
        sendEnableEventsAndReports
        sendSetReaderConfig .setReaderConfigCb) later = false
      cases later.disconnecting with
      | true => rfl
      | false =>
        have henable := escapes_sendMessage hwritable ⟨.enableEventsAndReports, .bare⟩
        have hready := writable_completing.winding.sendMessage ⟨.enableEventsAndReports, .bare⟩
          nofun later hwritable
        rw [if_neg Bool.false_ne_true]
        unfold sendEnableEventsAndReports
        rcases hrun : sendMessage ⟨.enableEventsAndReports, .bare⟩ later with ⟨raised | _, sent⟩
        · rw [escapes_bind_error hrun, ← escapes_eq_of_run hrun]
          exact henable
        · rw [hrun] at hready
          rw [escapes_bind_ok hrun]
          exact escapes_sendRequest hready _ _ _ _
  | sentSetConfig =>
    cases client.suppressSetConfigPostActions with
    | true => rfl
    | false =>
      cases message.isSuccess with
      | false => rfl
      | true => exact escapes_finishSetup hwritable
  | sentAddRospec =>
    cases message.isSuccess with
    | true => rfl
    | false =>
      change escapes (if later.state = .sentAddRospec ∧ later.lastMsgId = client.lastMsgId then
        .raise (.readerConfigurationError "Error adding ROSpec") else pure ()) later = false
      split <;> rfl
  | _ => rfl

/-- Whether a callback of the setup that succeeds returns, once nothing escapes
from it. -/
def Callback.reachesSetup (client : Client) : Callback → Bool
  | sendDeleteAccessspecCb _ => !client.isWaiting .deleteRospecResponse
  | startNextAccessspecCb operation =>
    operation.opSpec ≠ .unsupported && !client.isWaiting .addAccessspecResponse
  | oldReaderConfigRestored frame _ =>
    !(frame.wasInventorying && client.inventoryRospecAdded &&
      client.isWaiting .deleteRospecResponse)
  | _ => true

theorem blueprint_of_profile {client later : Client} (hprofile : later.profile = client.profile) :
    later.blueprint = client.blueprint :=
  congrArg (fun profile : Profile =>
    ({ configs := profile.configs, config := profile.config, capabilities := profile.capabilities
       readerMode := profile.readerMode, dedupBackendActive := profile.dedupBackendActive
       rospec := profile.rospec
       inventoryRospecAdded := profile.inventoryRospecAdded } : Blueprint)) hprofile

theorem tripsSetup_of_blueprint {client later : Client}
    (hbuild : later.blueprint = client.blueprint)
    (hdisconnecting : later.disconnecting = client.disconnecting)
    (hstate : client.state ≠ .inventorying) (hlater : later.state ≠ .inventorying) :
    later.tripsSetup = client.tripsSetup := by
  have hrospec : later.rospec = client.rospec := congrArg Blueprint.rospec hbuild
  unfold Client.tripsSetup
  rw [settings_of_blueprint hbuild, hdisconnecting, hrospec, tripsBuilding_of_blueprint hbuild,
    decide_eq_true hstate, decide_eq_true hlater]

/-- A request that goes out leaves the end of the setup as it was. -/
theorem tripsSetup_sendRequest {client : Client} (hwritable : client.Writable)
    (hstate : client.state ≠ .inventorying) (request : Request) (name : MessageName)
    (onCompletion : Callback) {newState : Option ReaderState}
    (hnew : newState ≠ some .inventorying) :
    (∃ later, sendRequest request name onCompletion newState client = (.ok (), later) ∧
        later.tripsSetup = true) ↔
      (!client.isWaiting name && client.tripsSetup) = true := by
  rw [run_sendRequest_of_writable hwritable]
  cases client.isWaiting name with
  | true => simp
  | false =>
    have hprofile := profile_afterSend client request name onCompletion newState
    have hlater : (client.afterSend request name onCompletion newState).state ≠ .inventorying := by
      rw [show (client.afterSend request name onCompletion newState).state = _ from
        congrArg Core.state (core_afterSend client request name onCompletion newState)]
      cases newState with
      | none => exact hstate
      | some state => exact fun heq => hnew (congrArg some heq)
    have hsame := tripsSetup_of_blueprint (blueprint_of_profile hprofile)
      (congrArg Profile.disconnecting hprofile) hstate hlater
    simp [hsame]

/-- Adding the ROSpec does not change whether one can be built. -/
theorem tripsBuilding_startInventory {client : Client} (hstate : client.state ≠ .inventorying)
    (forceRegenRospec : Bool) (onCompletion : Completion) (completed : ClientM Unit) :
    (startInventory forceRegenRospec onCompletion completed client).2.tripsBuilding =
      client.tripsBuilding := by
  have hget : Within (Frame.fixing Client.tripsBuilding) (getROSpec forceRegenRospec) := by
    intro client
    rw [run_getROSpec]
    cases client.rospec.filter fun _ => !forceRegenRospec with
    | some rospec => rfl
    | none => cases makeROSpec client.readerMode 1 (rospecSettings client.settings) <;> rfl
  have hadd : Within (Frame.fixing Client.tripsBuilding)
      (getROSpec forceRegenRospec >>= fun rospec =>
        Program.modify (fun client => { client with inventoryRospecAdded := false }) >>= fun _ =>
          sendAddRospec rospec (.sendAddedRospecCb rospec onCompletion)) := by
    refine .bind hget fun rospec => .bind (.modify fun _ => rfl) fun _ client => ?_
    exact tripsBuilding_of_blueprint (blueprint_of_profile (profile_sendRequest _ _ _ _ client))
  unfold startInventory
  rw [Program.run_get_bind, if_neg hstate]
  exact hadd client

/-- A restart of the inventory that can build its ROSpec leaves nothing to trip
over. -/
theorem not_tripsSetup_restart {client : Client} (hbuilds : client.tripsBuilding = false)
    (onCompletion : Completion) (completed : ClientM Unit) :
    ¬ ∃ later, (setState .connected >>= fun _ => startInventory true onCompletion completed)
      client = (.ok (), later) ∧ later.tripsSetup = true := by
  rintro ⟨later, hrun, htrips⟩
  have hconnected : (client.setState .connected).state ≠ .inventorying := ReaderState.noConfusion
  have hkept := tripsBuilding_startInventory hconnected true onCompletion completed
  change startInventory true onCompletion completed (client.setState .connected) = _ at hrun
  rw [hrun] at hkept
  have hlater : later.tripsBuilding = false :=
    hkept.trans ((tripsBuilding_of_blueprint (blueprint_setState client .connected)).trans hbuilds)
  simp [Client.tripsSetup, hlater] at htrips

theorem tripsSetup_succeed (client : Client) (id : TransitionId) (hook : Hook) :
    (∃ later, succeed id hook client = (.ok (), later) ∧ later.tripsSetup = true) ↔
      client.tripsSetup = true := by
  have hsame : ((client.conclude id .success none).hookSucceeded hook).tripsSetup =
      client.tripsSetup := by
    cases hook with
    | application => rfl
    | completed newConfig oldConfig => rfl
  unfold succeed
  simp [Program.run_modify, hsame]

theorem tripsSetup_fail {client : Client} (hstate : client.state ≠ .disconnected)
    (id : TransitionId) (hook : Hook) (error : String) :
    (∃ later, fail id hook error client = (.ok (), later) ∧ later.tripsSetup = true) ↔
      client.tripsSetup = true := by
  have hsame : ((client.conclude id .failed (some error)).hookFailed hook).tripsSetup =
      client.tripsSetup := by
    cases hook with
    | application => rfl
    | completed newConfig oldConfig =>
      have hopen : ((client.conclude id .failed (some error)).setReaderConfig oldConfig).state ≠
          .disconnected := hstate
      unfold Client.hookFailed
      dsimp only
      rw [if_neg hopen]
      rfl
  unfold fail
  simp [Program.run_modify, hsame]

theorem tripsSetup_setState {client : Client} (hstate : client.state ≠ .inventorying)
    (newState : ReaderState) (hnew : newState ≠ .inventorying) :
    (client.setState newState).tripsSetup = client.tripsSetup :=
  tripsSetup_of_blueprint (blueprint_setState client newState) rfl hstate hnew

theorem tripsSetup_setState_bind {client : Client} (hstate : client.state ≠ .inventorying)
    {newState : ReaderState} (hnew : newState ≠ .inventorying) {next : ClientM Unit}
    (hnext : (∃ later, next (client.setState newState) = (.ok (), later) ∧
        later.tripsSetup = true) ↔ (client.setState newState).tripsSetup = true) :
    (∃ later, (setState newState >>= fun _ => next) client = (.ok (), later) ∧
        later.tripsSetup = true) ↔ client.tripsSetup = true := by
  rw [tripsSetup_setState hstate newState hnew] at hnext
  exact hnext

/-- Whether a restart trips is decided by the ROSpec alone. -/
theorem not_tripsSetup_of_builds {client : Client} (hbuilds : client.tripsBuilding = false) :
    ¬ client.tripsSetup = true := by
  simp [Client.tripsSetup, hbuilds]

theorem tripsSetup_finishNewState {client : Client} (hstate : client.state ≠ .inventorying)
    {frame : ApplyFrame} (hsafe : (frame.wasInventorying && client.tripsBuilding) = false) :
    (∃ later, frame.finishNewState client = (.ok (), later) ∧ later.tripsSetup = true) ↔
      client.tripsSetup = true := by
  unfold ApplyFrame.finishNewState
  by_cases hwas : frame.wasInventorying = true
  · rw [hwas, Bool.true_and] at hsafe
    rw [if_pos hwas]
    exact iff_of_false (not_tripsSetup_restart hsafe _ _) (not_tripsSetup_of_builds hsafe)
  · rw [if_neg hwas]
    by_cases hpaused : frame.wasPaused = true
    · rw [if_pos hpaused]
      exact tripsSetup_setState_bind hstate ReaderState.noConfusion (tripsSetup_succeed _ _ _)
    · rw [if_neg hpaused]
      exact tripsSetup_setState_bind hstate ReaderState.noConfusion (tripsSetup_succeed _ _ _)

theorem tripsSetup_finishRestore {client : Client} (hstate : client.state ≠ .inventorying)
    {frame : ApplyFrame} (hsafe : (frame.wasInventorying && client.tripsBuilding) = false)
    (error : String) :
    (∃ later, frame.finishRestore error client = (.ok (), later) ∧ later.tripsSetup = true) ↔
      client.tripsSetup = true := by
  unfold ApplyFrame.finishRestore
  by_cases hwas : frame.wasInventorying = true
  · rw [hwas, Bool.true_and] at hsafe
    rw [if_pos hwas]
    exact iff_of_false (not_tripsSetup_restart hsafe _ _) (not_tripsSetup_of_builds hsafe)
  · rw [if_neg hwas]
    by_cases hpaused : frame.wasPaused = true
    · have hopen : (client.setState .paused).state ≠ .disconnected := ReaderState.noConfusion
      have hfailed := tripsSetup_fail hopen frame.transition frame.hook error
      rw [if_pos hpaused]
      exact tripsSetup_setState_bind hstate ReaderState.noConfusion hfailed
    · have hopen : (client.setState .connected).state ≠ .disconnected := ReaderState.noConfusion
      have hfailed := tripsSetup_fail hopen frame.transition frame.hook error
      rw [if_neg hpaused]
      exact tripsSetup_setState_bind hstate ReaderState.noConfusion hfailed

/-- The responses that the branch of SET_READER_CONFIG heeds. -/
def settingResponses : List MessageName :=
  [.setReaderConfigResponse, .getReaderConfigResponse, .deleteAccessspecResponse]

/-- After a callback of the setup, what follows trips over what it would have
tripped over before, if the callback returns. -/
theorem tripsSetup_runCallback {client : Client} (hwritable : client.Writable)
    (hstate : client.state ≠ .inventorying) {callback : Callback} {name : MessageName}
    (hanswers : callback.answers name = true) (hname : name ∈ settingResponses)
    (hsafe : callback.trips client true = false) :
    (∃ later, runCallback callback true client = (.ok (), later) ∧ later.tripsSetup = true) ↔
      (callback.reachesSetup client && client.tripsSetup) = true := by
  have hreturns : ∀ later : Client, later.tripsSetup = client.tripsSetup →
      ((∃ final, ((Except.ok () : Except Exn Unit), later) = (.ok (), final) ∧
          final.tripsSetup = true) ↔ (true && client.tripsSetup) = true) := by
    intro later hsame
    simp [hsame]
  have hother : ∀ {other : MessageName}, name = other → other ∉ settingResponses → False := by
    rintro other rfl hmem
    exact hmem hname
  cases callback with
  | application => exact hreturns client rfl
  | setReaderConfigCb => exact hreturns _ (tripsSetup_setState hstate _ (by decide))
  | getReaderConfigCb => exact hreturns _ (tripsSetup_setState hstate _ (by decide))
  | sendDeleteAccessspecCb onCompletion =>
    exact tripsSetup_sendRequest hwritable hstate _ _ _ (by decide)
  | startNextAccessspecCb operation =>
    have hfew : ¬ 2 < (if operation.targetSpec.isEmpty then [{}]
        else operation.targetSpec : List C1G2TargetTag).length := by
      have hexceeds : ¬ 2 < operation.targetSpec.length := of_decide_eq_false hsafe
      cases htargets : operation.targetSpec with
      | nil => simp
      | cons target targets =>
        rw [htargets] at hexceeds
        exact hexceeds
    change (∃ later, startAccess operation client = _ ∧ _) ↔ _
    unfold startAccess accessSpec Callback.reachesSetup
    dsimp only
    rw [if_neg hfew]
    by_cases hunsupported : operation.opSpec = .unsupported
    · rw [if_pos hunsupported]
      simp [hunsupported, Program.run_bind]
    · have hsupported : decide (operation.opSpec ≠ .unsupported) = true :=
        decide_eq_true hunsupported
      rw [if_neg hunsupported, hsupported, Bool.true_and]
      exact tripsSetup_sendRequest hwritable hstate _ _ _ (by decide)
  | readerConfigApplied frame =>
    change (∃ later, ApplyFrame.finishNewState { frame with newReaderConfigApplied := true }
      client = _ ∧ _) ↔ (true && _) = true
    rw [Bool.true_and]
    have happlied : ApplyFrame.wasInventorying { frame with newReaderConfigApplied := true } =
        frame.wasInventorying := rfl
    exact tripsSetup_finishNewState hstate (happlied ▸ hsafe)
  | oldReaderConfigRestored frame error =>
    change (∃ later, frame.cleanupReplacementRospec error client = _ ∧ _) ↔
      (!(frame.wasInventorying && client.inventoryRospecAdded &&
        client.isWaiting .deleteRospecResponse) && client.tripsSetup) = true
    unfold ApplyFrame.cleanupReplacementRospec
    rw [Program.run_get_bind]
    change (true && frame.wasInventorying && !client.inventoryRospecAdded &&
      client.tripsBuilding) = false at hsafe
    cases hwas : frame.wasInventorying with
    | false =>
      exact tripsSetup_finishRestore hstate (by rw [hwas]; rfl) error
    | true =>
      rw [hwas] at hsafe
      cases hadded : client.inventoryRospecAdded with
      | false =>
        rw [hadded] at hsafe
        exact tripsSetup_finishRestore hstate (by rw [hwas]; exact hsafe) error
      | true =>
        have hready : (client.setState .connected).Writable := hwritable
        have hconnected : (client.setState .connected).state ≠ .inventorying :=
          ReaderState.noConfusion
        have hdeleting : some ReaderState.sentDeleteRospec ≠ some .inventorying := nofun
        have hsent := tripsSetup_sendRequest hready hconnected ⟨.deleteRospec, .rospecId 0⟩
          .deleteRospecResponse (.stopAllRospecsCb (.afterRospecCleanup frame error)) hdeleting
        rw [tripsSetup_setState hstate .connected (by decide)] at hsent
        exact hsent
  | _ => exact (hother (of_decide_eq_true hanswers) (by decide)).elim

/-! ## Reading the message -/

namespace Client

/-- Whether the branch of the runtime state reads a key that the message does not
have, or checks capabilities that its configuration trips over. -/
def misreads (client : Client) (message : LLRPMessage) : Bool :=
  match client.state with
  | .disconnected | .connecting | .connected =>
    message.name = .readerEventNotification && !message.isSuccess && message.event.isNone
  | .sentEnableImpinjExtensions =>
    message.name = .impinjEnableExtensionsResponse && !message.statusReadable
  | .sentGetCapabilities =>
    message.name = .getReaderCapabilitiesResponse &&
      if message.isSuccess then capabilitiesTrip client.settings message.capabilities
      else !message.statusReadable
  | .sentGetConfig =>
    message.name ∈ [.getReaderConfigResponse, .deleteAccessspecResponse, .deleteRospecResponse] &&
      !message.statusReadable
  | .sentSetConfig =>
    message.name ∈ [.setReaderConfigResponse, .getReaderConfigResponse,
      .deleteAccessspecResponse] && !message.statusReadable
  | .sentAddRospec => message.name = .addRospecResponse && !message.statusReadable
  | .sentEnableRospec => message.name = .enableRospecResponse && !message.statusReadable
  | .pausing | .sentDeleteRospec => !message.statusReadable
  | .sentStartRospec =>
    !(message.name = .roAccessReport ∨ message.name = .readerEventNotification) &&
      !message.statusReadable
  | .inventorying | .sentDeleteAccessspec | .paused => false

end Client

theorem escapes_readStatus {message : LLRPMessage} (hunreadable : message.statusReadable = false)
    (next : Unit → ClientM Unit) (client : Client) :
    escapes (readStatus message >>= next) client = true := by
  have hread : ∃ name, readStatus message client = (.error (.missingKey name), client) := by
    simp only [LLRPMessage.statusReadable, Bool.or_eq_false_iff] at hunreadable
    rw [run_readStatus]
    cases hstatus : message.status with
    | none => exact ⟨_, rfl⟩
    | some status =>
      cases hcode : status.statusCode with
      | none => exact ⟨"StatusCode", by simp only [hcode]⟩
      | some code => simp [hstatus, hcode] at hunreadable
  obtain ⟨name, hraised⟩ := hread
  rw [escapes_bind_error hraised]
  rfl

/-- A failure is the only message whose status is read. -/
theorem isSuccess_of_not_readable {message : LLRPMessage}
    (hunreadable : message.statusReadable = false) : message.isSuccess = false := by
  simp only [LLRPMessage.statusReadable, Bool.or_eq_false_iff] at hunreadable
  exact hunreadable.1

theorem escapes_handleAny {message : LLRPMessage} (hunreadable : message.statusReadable = false)
    (client : Client) : escapes (handleAny message) client = true := by
  unfold handleAny
  rw [isSuccess_of_not_readable hunreadable]
  exact escapes_readStatus hunreadable _ client

/-- A branch that takes some messages only, and completes nothing with this one. -/
theorem escapes_branch {message : LLRPMessage} {takes : Prop} [Decidable takes]
    (hreaches : (takes && message.statusReadable) = false) {refusal handled failed : ClientM Unit}
    {client : Client} (hrefusal : escapes refusal client = false) :
    escapes (if ¬ takes then refusal else if message.isSuccess then handled
      else readStatus message >>= fun _ => failed) client =
      (takes && !message.statusReadable) := by
  by_cases htakes : takes
  · have hunreadable : message.statusReadable = false := by
      simpa [htakes] using hreaches
    rw [if_neg (not_not_intro htakes), isSuccess_of_not_readable hunreadable,
      if_neg Bool.false_ne_true, escapes_readStatus hunreadable, hunreadable, decide_eq_true htakes]
    rfl
  · rw [if_pos htakes, hrefusal, decide_eq_false htakes]
    rfl

/-- A branch that completes nothing escapes where it misreads the message. -/
theorem escapes_dispatch_of_not_reaches {client : Client} {message : LLRPMessage}
    (hreaches : client.reaches message = false) :
    escapes (dispatch client.state message) client = client.misreads message := by
  have hconnecting : (message.name = .readerEventNotification && message.isSuccess) = false →
      escapes (handleConnecting message) client =
        (message.name = .readerEventNotification && !message.isSuccess &&
          message.event.isNone) := by
    intro hrefused
    unfold handleConnecting
    by_cases hname : message.name = .readerEventNotification
    · have hfailed : message.isSuccess = false := by
        simpa [hname] using hrefused
      rw [if_neg (not_not_intro hname), hfailed, decide_eq_true hname]
      change escaped (readEvent message client).1 = _
      rw [run_readEvent]
      cases message.event <;> rfl
    · rw [if_pos hname, decide_eq_false hname]
      rfl
  unfold Client.reaches at hreaches
  unfold Client.misreads dispatch
  cases hstate : client.state <;> simp only [hstate] at hreaches ⊢
  case disconnected => exact hconnecting hreaches
  case connecting => exact hconnecting hreaches
  case connected => exact hconnecting hreaches
  case sentEnableImpinjExtensions => exact escapes_branch hreaches rfl
  case sentGetCapabilities =>
    unfold handleSentGetCapabilities
    by_cases hname : message.name = .getReaderCapabilitiesResponse
    · rw [if_neg (not_not_intro hname), decide_eq_true hname, Bool.true_and]
      rw [decide_eq_true hname, Bool.true_and] at hreaches
      cases hsuccess : message.isSuccess with
      | true =>
        rw [hsuccess, if_pos rfl] at hreaches
        rw [if_pos rfl, if_pos rfl, escapes_modify_bind]
        have hquiet : (client.withCapabilities message.capabilities).state ≠ .inventorying := by
          change client.state ≠ _
          rw [hstate]
          exact ReaderState.noConfusion
        have hraises := raises_parseCapabilities hquiet message.capabilities
        have hescapes := escapes_parseCapabilities hquiet message.capabilities
        change _ = !passesCapabilities client.settings message.capabilities at hraises
        change _ = capabilitiesTrip client.settings message.capabilities at hescapes
        rw [hreaches, Program.raises] at hraises
        change escapes _ (client.withCapabilities message.capabilities) = _
        rcases hparse : parseCapabilities message.capabilities
          (client.withCapabilities message.capabilities) with ⟨raised | _, parsed⟩
        · rw [escapes_bind_error hparse, ← escapes_eq_of_run hparse, hescapes]
        · simp [hparse] at hraises
      | false =>
        rw [hsuccess, if_neg Bool.false_ne_true] at hreaches
        rw [if_neg Bool.false_ne_true, if_neg Bool.false_ne_true, hreaches]
        exact escapes_readStatus hreaches _ client
    · rw [if_pos hname, decide_eq_false hname]
      rfl
  case sentGetConfig => exact escapes_branch hreaches rfl
  case sentSetConfig => exact escapes_branch hreaches rfl
  case sentAddRospec => exact escapes_branch hreaches rfl
  case sentEnableRospec => exact escapes_branch hreaches rfl
  case pausing =>
    rw [hreaches]
    exact escapes_handleAny hreaches client
  case sentDeleteRospec =>
    rw [hreaches]
    exact escapes_handleAny hreaches client
  case sentStartRospec =>
    unfold handleSentStartRospec
    by_cases hname : message.name = .roAccessReport ∨ message.name = .readerEventNotification
    · rw [if_pos hname, decide_eq_true hname]
      rfl
    · rw [decide_eq_false hname, Bool.not_false, Bool.true_and] at hreaches
      rw [if_neg hname, decide_eq_false hname, hreaches]
      exact escapes_handleAny hreaches client
  case inventorying =>
    unfold handleInventorying
    rw [if_neg (of_decide_eq_false hreaches)]
    rfl
  case sentDeleteAccessspec => exact Bool.noConfusion hreaches
  case paused => rfl

/-- A branch that completes requests has read what it reads. -/
theorem not_misreads_of_reaches {client : Client} {message : LLRPMessage}
    (hreaches : client.reaches message = true) : client.misreads message = false := by
  unfold Client.reaches at hreaches
  unfold Client.misreads
  cases hstate : client.state <;>
    simp only [hstate, Bool.and_eq_true, decide_eq_true_eq] at hreaches ⊢
  case sentGetCapabilities =>
    obtain ⟨hname, hreads⟩ := hreaches
    cases hsuccess : message.isSuccess with
    | true =>
      rw [hsuccess, if_pos rfl] at hreads
      have hquiet : (client.withCapabilities message.capabilities).state ≠ .inventorying := by
        change client.state ≠ _
        rw [hstate]
        exact ReaderState.noConfusion
      have hraises := raises_parseCapabilities hquiet message.capabilities
      have hescapes := escapes_parseCapabilities hquiet message.capabilities
      change _ = !passesCapabilities client.settings message.capabilities at hraises
      change _ = capabilitiesTrip client.settings message.capabilities at hescapes
      rw [hreads, Program.raises] at hraises
      rw [if_pos rfl, ← hescapes, escapes]
      rcases hparse : parseCapabilities message.capabilities
        (client.withCapabilities message.capabilities) with ⟨raised | _, parsed⟩
      · simp [hparse] at hraises
      · simp [escaped]
    | false =>
      rw [hsuccess, if_neg Bool.false_ne_true] at hreads
      simp [hreads]
  all_goals simp [hreaches]

/-! ## Handling one message -/

namespace Client

/-- Whether the callback that the message completes fails with something other
than an `LLRPError`, or the end of the setup that follows it does. -/
def crashesCompleting (client : Client) (message : LLRPMessage) : Bool :=
  (client.heard message.name).any (Callback.trips client message.isSuccess) ||
    (client.state = .sentSetConfig && !client.suppressSetConfigPostActions &&
      message.isSuccess && client.tripsSetup &&
      (client.heard message.name).all (Callback.reachesSetup client))

/-- Whether handling the message fails with something other than an `LLRPError`. -/
def crashes (client : Client) (message : LLRPMessage) : Bool :=
  message.name ≠ .keepalive && !ignored client message &&
    (client.misreads message || client.reaches message && client.crashesCompleting message)

end Client

/-- Only a capabilities response changes what ROSpecs are built from before its
request completes. -/
theorem blueprint_prepared {client : Client} (hstate : client.state ≠ .sentGetCapabilities)
    (message : LLRPMessage) : (client.prepared message).blueprint = client.blueprint := by
  unfold Client.prepared
  split
  all_goals first | rfl | skip
  case h_4 => exact absurd ‹_› hstate
  case h_5 => split <;> rfl
  case h_6 =>
    split
    · split <;> rfl
    · rfl

/-- The callbacks of a capabilities response build nothing. -/
theorem not_trips_of_answers {callback : Callback}
    (hanswers : callback.answers .getReaderCapabilitiesResponse = true) (client : Client)
    (isSuccess : Bool) : callback.trips client isSuccess = false := by
  cases callback with
  | application => rfl
  | getReaderCapabilitiesCb => rfl
  | _ => exact absurd hanswers (by simp [Callback.answers])

/-- A callback and what follows it: the end of the setup is reached when the
callback returns. -/
theorem escapes_callback_afterwards {client later : Client} {message : LLRPMessage}
    (hwritable : later.Writable) {callback : Callback}
    (hanswers : callback.answers message.name = true)
    (haccess : later.state = .inventorying → message.name ∈ accessResponses)
    (hsetting : client.state = .sentSetConfig → client.suppressSetConfigPostActions = false →
      message.isSuccess = true → later.state ≠ .inventorying ∧ message.name ∈ settingResponses) :
    escapes (runCallback callback message.isSuccess >>= fun _ => afterwards client message) later =
      (callback.trips later message.isSuccess ||
        (client.state = .sentSetConfig && !client.suppressSetConfigPostActions &&
          message.isSuccess && later.tripsSetup && callback.reachesSetup later)) := by
  have htrips := escapes_runCallback hwritable hanswers haccess message.isSuccess
  have hready := writable_completing.handling.runCallback callback message.isSuccess later hwritable
  cases hends : (client.state = .sentSetConfig && !client.suppressSetConfigPostActions &&
    message.isSuccess : Bool) with
  | false =>
    rcases hrun : runCallback callback message.isSuccess later with ⟨raised | _, final⟩
    · rw [escapes_bind_error hrun, ← escapes_eq_of_run hrun, htrips]
      simp
    · rw [hrun] at hready
      rw [escapes_bind_ok hrun, escapes_afterwards hready, hends, ← htrips, escapes, hrun]
      rfl
  | true =>
    have hcond := hends
    simp only [Bool.and_eq_true, decide_eq_true_eq, Bool.not_eq_true'] at hcond
    obtain ⟨⟨hstate, hsuppress⟩, hsuccess⟩ := hcond
    obtain ⟨hleft, hname⟩ := hsetting hstate hsuppress hsuccess
    rw [hsuccess] at htrips hready ⊢
    cases hsafe : callback.trips later true with
    | true =>
      rw [hsafe] at htrips
      rcases hrun : runCallback callback true later with ⟨raised | _, final⟩
      · rw [escapes_bind_error hrun, ← escapes_eq_of_run hrun, htrips]
        rfl
      · rw [escapes, hrun] at htrips
        exact absurd htrips Bool.false_ne_true
    | false =>
      have hsetup := tripsSetup_runCallback hwritable hleft hanswers hname hsafe
      rcases hrun : runCallback callback true later with ⟨raised | _, final⟩
      · have hnever : (later.tripsSetup && callback.reachesSetup later) = false := by
          refine Bool.eq_false_iff.mpr fun hreached => ?_
          rw [Bool.and_comm] at hreached
          obtain ⟨returned, hreturned, -⟩ := hsetup.mpr hreached
          rw [hrun] at hreturned
          cases hreturned
        rw [escapes_bind_error hrun, ← escapes_eq_of_run hrun, htrips, hsafe,
          Bool.and_assoc _ later.tripsSetup, hnever, Bool.and_false]
        rfl
      · rw [hrun] at hready hsetup
        have hreached : final.tripsSetup = (callback.reachesSetup later && later.tripsSetup) := by
          refine Bool.eq_iff_iff.mpr (Iff.trans ?_ hsetup)
          refine ⟨fun htrips => ⟨final, rfl, htrips⟩, ?_⟩
          rintro ⟨returned, heq, htrips⟩
          cases heq
          exact htrips
        rw [escapes_bind_ok hrun, escapes_afterwards hready, hends, hreached]
        simp [Bool.and_comm]

theorem Undeferred.writable {client later : Client} {message : LLRPMessage}
    (hlater : Undeferred message.name (client.prepared message) later)
    (hwritable : client.Writable) : later.Writable := by
  have hwrites : (client.prepared message).Writable :=
    writable_completing.handling.prepared client message hwritable
  unfold Client.Writable
  rw [hlater.writes]
  exact hwrites

/-- What a completion leaves alone keeps what callbacks trip over. -/
theorem tripsSetup_of_undeferred {name : MessageName} {client later : Client}
    (hlater : Undeferred name client later) (hstate : client.state ≠ .inventorying) :
    later.tripsSetup = client.tripsSetup :=
  tripsSetup_of_blueprint (blueprint_of_profile hlater.profile)
    (congrArg Profile.disconnecting hlater.profile) hstate (hlater.state ▸ hstate)

theorem reachesSetup_of_undeferred {name : MessageName} {client later : Client}
    (hlater : Undeferred name client later) (hname : name ∈ settingResponses)
    (callback : Callback) : callback.reachesSetup later = callback.reachesSetup client := by
  have hadded : later.inventoryRospecAdded = client.inventoryRospecAdded :=
    congrArg Profile.inventoryRospecAdded hlater.profile
  have hdelete : MessageName.deleteRospecResponse ≠ name := by
    rintro rfl
    exact absurd hname (by decide)
  have hadd : MessageName.addAccessspecResponse ≠ name := by
    rintro rfl
    exact absurd hname (by decide)
  unfold Callback.reachesSetup
  rw [hlater.isWaiting _ hdelete, hlater.isWaiting _ hadd, hadded]

theorem mem_deferreds_of_heard {client : Client} {name : MessageName} {callback : Callback}
    (hheard : client.heard name = some callback) :
    ∃ deferred ∈ client.core.deferreds name, deferred.callback = callback := by
  obtain ⟨deferred, hhead, hcallback⟩ := Option.map_eq_some_iff.mp hheard
  exact ⟨deferred, List.mem_of_head? hhead, hcallback⟩

/-- While inventorying, only responses of access operations complete requests. -/
theorem mem_accessResponses_of_reaches {client : Client} (hcore : Correlated false client.core)
    {message : LLRPMessage} (hreaches : client.reaches message = true) {deferred : Deferred}
    (hmem : deferred ∈ client.core.deferreds message.name)
    (hstate : (client.prepared message).state = .inventorying) :
    message.name ∈ accessResponses := by
  rw [show (client.prepared message).state = _ from
    congrArg Core.state (core_prepared client message)] at hstate
  have hinventorying : client.state = .inventorying := by
    split at hstate
    · exact ReaderState.noConfusion hstate
    · exact hstate
  have hresponse := isResponse_of_deferred hcore hmem
  simp only [Client.reaches, hinventorying, decide_eq_true_eq] at hreaches
  revert hresponse hreaches
  cases message.name <;> decide

/-- A message that completes requests fails with something other than an
`LLRPError` where its callback or the end of the setup does. -/
theorem escapes_of_completes {client : Client} (hcore : Correlated false client.core)
    (hfitting : Fitting client.core) (hwritable : client.Writable) {message : LLRPMessage}
    (hcompletes : client.completes message = true) :
    escapes (handleMessage message) client = client.crashesCompleting message := by
  have hrun := run_handleMessage_of_completes hcompletes
  simp only [Client.completes, Bool.and_eq_true, Bool.not_eq_true', decide_eq_true_eq] at hcompletes
  obtain ⟨⟨-, hignored⟩, hreaches⟩ := hcompletes
  obtain ⟨later, hlater, -, hcompleted⟩ := run_complete_of_fitting hcore hfitting hignored
    fun _ => afterwards client message
  have hready := hlater.writable hwritable
  have hsetting : client.state = .sentSetConfig → message.name ∈ settingResponses := by
    intro hstate
    simp only [Client.reaches, hstate, Bool.and_eq_true, decide_eq_true_eq] at hreaches
    exact hreaches.1
  have hunchanged : client.state = .sentSetConfig → client.suppressSetConfigPostActions = false →
      message.isSuccess = true → client.prepared message = client := by
    intro hstate hsuppress hsuccess
    simp [Client.prepared, hstate, hsuppress, hsuccess]
  have hsame : (client.state = .sentSetConfig && !client.suppressSetConfigPostActions &&
      message.isSuccess : Bool) = true → Undeferred message.name client later := by
    intro hcond
    simp only [Bool.and_eq_true, decide_eq_true_eq, Bool.not_eq_true'] at hcond
    rwa [hunchanged hcond.1.1 hcond.1.2 hcond.2] at hlater
  have hleft : (client.state = .sentSetConfig && !client.suppressSetConfigPostActions &&
      message.isSuccess : Bool) = true → client.state ≠ .inventorying := by
    intro hcond hstate
    simp [hstate] at hcond
  rw [escapes, hrun, hcompleted]
  unfold Client.crashesCompleting
  cases hheard : client.heard message.name with
  | none =>
    change escapes (afterwards client message) later = _
    rw [escapes_afterwards hready]
    cases hcond : (client.state = .sentSetConfig && !client.suppressSetConfigPostActions &&
      message.isSuccess : Bool) with
    | false => rfl
    | true => simp [tripsSetup_of_undeferred (hsame hcond) (hleft hcond)]
  | some callback =>
    obtain ⟨deferred, hmem, hcallback⟩ := mem_deferreds_of_heard hheard
    have hanswers : callback.answers message.name = true := hcallback ▸ hfitting.answers hmem
    have haccess : later.state = .inventorying → message.name ∈ accessResponses :=
      fun hstate => mem_accessResponses_of_reaches hcore hreaches hmem (hlater.state ▸ hstate)
    have htrips : callback.trips later message.isSuccess =
        callback.trips client message.isSuccess := by
      by_cases hstate : client.state = .sentGetCapabilities
      · simp only [Client.reaches, hstate, Bool.and_eq_true, decide_eq_true_eq] at hreaches
        rw [hreaches.1] at hanswers
        rw [not_trips_of_answers hanswers, not_trips_of_answers hanswers]
      · exact callback.trips_of_blueprint ((blueprint_of_profile hlater.profile).trans
          (blueprint_prepared hstate message)) _
    change escapes (runCallback callback message.isSuccess >>= fun _ => afterwards client message)
      later = _
    rw [escapes_callback_afterwards hready hanswers haccess, htrips]
    · cases hcond : (client.state = .sentSetConfig && !client.suppressSetConfigPostActions &&
        message.isSuccess : Bool) with
      | false => rfl
      | true =>
        have hstate : client.state = .sentSetConfig := by
          simp only [Bool.and_eq_true, decide_eq_true_eq] at hcond
          exact hcond.1.1
        rw [tripsSetup_of_undeferred (hsame hcond) (hleft hcond),
          reachesSetup_of_undeferred (hsame hcond) (hsetting hstate)]
        rfl
    · intro hstate hsuppress hsuccess
      refine ⟨?_, hsetting hstate⟩
      rw [hlater.state, hunchanged hstate hsuppress hsuccess, hstate]
      exact ReaderState.noConfusion

/-- In every reachable client whose writes go out, a message fails with something
other than an `LLRPError` exactly where `crashes` says so. -/
theorem escapes_handleMessage {client : Client} (hcore : Correlated false client.core)
    (hfitting : Fitting client.core) (hwritable : client.Writable) (message : LLRPMessage) :
    escapes (handleMessage message) client = client.crashes message := by
  unfold Client.crashes
  by_cases hkeepalive : message.name = .keepalive
  · unfold handleMessage sendKeepaliveAck
    rw [escapes_get_bind, if_pos hkeepalive, decide_eq_false (not_not_intro hkeepalive),
      Bool.false_and, Bool.false_and]
    split
    · unfold escapes
      rw [run_write, nextWrite_of_writable hwritable]
      rfl
    · rfl
  · rw [decide_eq_true hkeepalive, Bool.true_and]
    cases hignored : ignored client message with
    | true =>
      unfold handleMessage
      rw [escapes_get_bind, if_neg hkeepalive, hignored, if_pos rfl]
      rfl
    | false =>
      rw [Bool.not_false, Bool.true_and]
      cases hreaches : client.reaches message with
      | false =>
        unfold handleMessage
        rw [escapes_get_bind, if_neg hkeepalive, hignored, if_neg Bool.false_ne_true,
          escapes_dispatch_of_not_reaches hreaches]
        simp
      | true =>
        have hcompletes : client.completes message = true := by
          simp [Client.completes, hkeepalive, hignored, hreaches]
        rw [escapes_of_completes hcore hfitting hwritable hcompletes,
          not_misreads_of_reaches hreaches]
        simp

/-- What becomes of the writes does not decide whether a message crashes. -/
theorem crashes_facing (client : Client) (writes : List (Option Exn)) (message : LLRPMessage) :
    (client.facing writes).crashes message = client.crashes message := by
  have hbuild : (client.facing writes).blueprint = client.blueprint := rfl
  have htrips : Callback.trips (client.facing writes) message.isSuccess =
      Callback.trips client message.isSuccess :=
    funext fun callback => callback.trips_of_blueprint hbuild _
  have hsetup : (client.facing writes).tripsSetup = client.tripsSetup := by
    unfold Client.tripsSetup
    rw [tripsBuilding_of_blueprint hbuild]
    rfl
  have hcompleting : (client.facing writes).crashesCompleting message =
      client.crashesCompleting message := by
    unfold Client.crashesCompleting
    rw [htrips, hsetup]
    rfl
  unfold Client.crashes
  rw [hcompleting]
  rfl

/-- Handling the message raises nothing but an `LLRPError`, if it raises. -/
def Client.raisesOnlyLLRPErrors (client : Client) (message : LLRPMessage) : Prop :=
  ∀ raised, (handleMessage message client).1 = .error raised → raised.isLLRPError = true

theorem raisesOnlyLLRPErrors_iff_escapes (client : Client) (message : LLRPMessage) :
    client.raisesOnlyLLRPErrors message ↔ escapes (handleMessage message) client = false := by
  unfold Client.raisesOnlyLLRPErrors escapes
  rcases (handleMessage message client).1 with raised | value
  · exact ⟨fun hraised => by simp [escaped, hraised raised rfl],
      fun hkept other heq => by cases heq; simpa [escaped] using hkept⟩
  · exact iff_of_true (fun _ heq => by cases heq) rfl

end Sllurp.Session
