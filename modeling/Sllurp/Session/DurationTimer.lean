/-
# The end of a bounded inventory

The reader client arms a timer when the inventory starts, and disconnects when it
expires. A timer that fired before it was cancelled still runs, and decides from
what the reader client has in common with later inventories and sessions.
-/

import Sllurp.Foundations.Timers
import Sllurp.Session.Run

namespace Sllurp.Session

open Sllurp.Foundations Sllurp.Protocol Sllurp.Config Sllurp.Runtime

/-! ## The reader client and its duration timers -/

/-- A call of `disconnect` by a duration timer: which one it is, the one that was
scheduled last and not cancelled since, the session the timer was armed in, if
one was open, and the session that was open when it ran. -/
structure DurationDisconnect where
  timer : ℕ
  latest : Option ℕ
  armedIn : Option ℕ
  session : ℕ
  deriving DecidableEq

/-- A client with the duration timers it armed, the one it holds, and what an
observer knows: the timer scheduled last and not cancelled since, the number of
sessions opened, and the disconnects. -/
structure TimedReader where
  client : Client
  timers : Timers (Option ℕ)
  handle : Option ℕ
  latest : Option ℕ
  session : ℕ
  disconnects : List DurationDisconnect

/-- Whether a configuration bounds the inventory. -/
def endsInventory (config : LLRPReaderConfig) : Bool :=
  config.disconnectWhenDone && config.duration.any (0 < ·)

/-- Whether the transport is open and nobody asked for its end. -/
def Client.isOpen (client : Client) : Bool :=
  client.reader.socket && !client.reader.disconnectRequested

/-- What moves the duration timers, or the transport that they decide from. -/
inductive TimedStep
  | setState (newState : ReaderState)
  | transitionSucceeded (newConfig oldConfig : ConfigRef)
  | transitionFailed (newConfig oldConfig : ConfigRef)
  | hardDisconnect
  | onDisconnected
  | lost (retried : Bool)
  | connect
  | disconnect
  | endThread
  | fire (timer : ℕ)
  | expire (timer : ℕ)

namespace TimedReader

/-- A new client without timers. -/
def initial (configs : ConfigRef → LLRPReaderConfig) (config : ConfigRef) : TimedReader where
  client := Client.initial configs config true
  timers := .empty
  handle := none
  latest := none
  session := 0
  disconnects := []

def cancelDurationTimer (reader : TimedReader) : TimedReader :=
  { reader with
    timers :=
      match reader.handle with
      | none => reader.timers
      | some timer => reader.timers.cancel timer
    handle := none
    latest := none }

def scheduleDurationDisconnect (reader : TimedReader) (config : LLRPReaderConfig) :
    TimedReader :=
  let cancelled := reader.cancelDurationTimer
  if endsInventory config then
    { cancelled with
      timers :=
        cancelled.timers.arm (if reader.client.reader.socket then some reader.session else none)
      handle := some cancelled.timers.next
      latest := some cancelled.timers.next }
  else cancelled

/-- The reader client hears of every state of the client it owns. -/
def setState (reader : TimedReader) (newState : ReaderState) : TimedReader :=
  let changed := { reader with client := reader.client.setState newState }
  if reader.client.reader.owned then
    match newState with
    | .inventorying =>
      changed.scheduleDurationDisconnect (reader.client.configs reader.client.reader.config)
    | .disconnected => changed.cancelDurationTimer
    | _ => changed
  else changed

def transitionSucceeded (reader : TimedReader) (newConfig oldConfig : ConfigRef) : TimedReader :=
  let changed :=
    { reader with client := reader.client.hookSucceeded (.completed newConfig oldConfig) }
  if reader.client.state = .inventorying then
    changed.scheduleDurationDisconnect (reader.client.configs newConfig)
  else changed

def transitionFailed (reader : TimedReader) (newConfig oldConfig : ConfigRef) : TimedReader :=
  let changed :=
    { reader with client := reader.client.hookFailed (.completed newConfig oldConfig) }
  if reader.client.state = .disconnected then changed.cancelDurationTimer else changed

def hardDisconnect (reader : TimedReader) : TimedReader :=
  { reader.cancelDurationTimer with client := reader.client.hardDisconnect }

def onDisconnected (reader : TimedReader) : TimedReader :=
  { reader.cancelDurationTimer with client := reader.client.onDisconnected }

def lost (reader : TimedReader) (retried : Bool) : TimedReader :=
  let client := reader.client.onLostConnection retried
  { reader.cancelDurationTimer with
    client
    session := if client.reader.socket then reader.session + 1 else reader.session }

def connect (reader : TimedReader) : TimedReader :=
  let client := Session.connect.final reader.client
  { reader with
    client
    session :=
      if client.reader.socket && !reader.client.reader.socket then reader.session + 1
      else reader.session }

/-- The request to disconnect. Without a receive thread the transport is closed at
once; otherwise what stops the inventory politely follows in steps of its own. -/
def disconnect (reader : TimedReader) : TimedReader :=
  let client :=
    { reader.client with reader := { reader.client.reader with disconnectRequested := true } }
  if client.reader.socketThread then { reader with client }
  else { reader.cancelDurationTimer with client := client.hardDisconnect.onDisconnected }

/-- What a duration timer does when it runs. -/
def durationExpired (reader : TimedReader) (timer : ℕ) : TimedReader :=
  match reader.timers.fired? timer with
  | none => reader
  | some fired =>
    let expired :=
      { reader with
        client := { reader.client with reader := reader.client.reader.cancelDurationTimer }
        timers := reader.timers.finish timer
        handle := none }
    let disconnect : DurationDisconnect :=
      ⟨timer, reader.latest, fired.task, reader.session⟩
    if reader.client.isOpen then
      { expired with disconnects := reader.disconnects ++ [disconnect] }.disconnect
    else expired

/-- One step. -/
def step (reader : TimedReader) : TimedStep → TimedReader
  | .setState newState => reader.setState newState
  | .transitionSucceeded newConfig oldConfig => reader.transitionSucceeded newConfig oldConfig
  | .transitionFailed newConfig oldConfig => reader.transitionFailed newConfig oldConfig
  | .hardDisconnect => reader.hardDisconnect
  | .onDisconnected => reader.onDisconnected
  | .lost retried => reader.lost retried
  | .connect => reader.connect
  | .disconnect => reader.disconnect
  | .endThread => { reader with client := reader.client.endThread }
  | .fire timer => { reader with timers := reader.timers.fire timer }
  | .expire timer => reader.durationExpired timer

/-! ## One timer at a time -/

/-- At most one timer waits. It is the one that is held and was scheduled last, or
it has fired while the transport is closed or about to be. -/
structure Single (reader : TimedReader) : Prop where
  alone : ∀ {first second}, first ∈ reader.timers.waiting → second ∈ reader.timers.waiting →
    first = second
  held : ∀ {timer}, timer ∈ reader.timers.waiting →
    reader.handle = some timer.id ∧ reader.latest = some timer.id ∨
      timer.fired = true ∧ reader.client.isOpen = false ∧ reader.latest = none
  here : ∀ {timer session}, timer ∈ reader.timers.waiting → timer.task = some session →
    reader.latest = some timer.id →
    reader.client.reader.socket = true ∧ session = reader.session
  recorded : ∀ disconnect ∈ reader.disconnects, disconnect.latest = some disconnect.timer ∧
    ∀ session ∈ disconnect.armedIn, session = disconnect.session

namespace Single

variable {reader : TimedReader}

theorem initial (configs : ConfigRef → LLRPReaderConfig) (config : ConfigRef) :
    Single (initial configs config) where
  alone hmem := nomatch hmem
  held hmem := nomatch hmem
  here hmem := nomatch hmem
  recorded _ hmem := nomatch hmem

/-- Changes to the client that keep the transport as it is. -/
theorem of_link (hsingle : Single reader) {client : Client}
    (hsocket : client.reader.socket = reader.client.reader.socket)
    (hopen : client.isOpen = true → reader.client.isOpen = true) :
    Single { reader with client } where
  alone := hsingle.alone
  held hmem := by
    rcases hsingle.held hmem with hheld | ⟨hfired, hclosed, hlatest⟩
    · exact .inl hheld
    · refine .inr ⟨hfired, Bool.eq_false_iff.mpr fun hnow => ?_, hlatest⟩
      rw [hopen hnow] at hclosed
      cases hclosed
  here hmem htask hlatest := by
    obtain ⟨hopened, hsession⟩ := hsingle.here hmem htask hlatest
    exact ⟨hsocket.trans hopened, hsession⟩
  recorded := hsingle.recorded

/-- What waits after a cancellation has fired. -/
theorem of_mem_cancel (hsingle : Single reader) {timer : Timer (Option ℕ)}
    (hmem : timer ∈ reader.cancelDurationTimer.timers.waiting) :
    timer ∈ reader.timers.waiting ∧ timer.fired = true := by
  unfold cancelDurationTimer at hmem
  cases hhandle : reader.handle with
  | none =>
    rw [hhandle] at hmem
    rcases hsingle.held hmem with ⟨hheld, -⟩ | ⟨hfired, -⟩
    · rw [hhandle] at hheld
      cases hheld
    · exact ⟨hmem, hfired⟩
  | some held =>
    rw [hhandle] at hmem
    obtain ⟨hwaiting, hcancelled⟩ := (Timers.mem_cancel _ _ _).mp hmem
    rcases hsingle.held hwaiting with ⟨hheld, -⟩ | ⟨hfired, -⟩
    · rw [hhandle, Option.some.injEq] at hheld
      exact ⟨hwaiting, hcancelled hheld.symm⟩
    · exact ⟨hwaiting, hfired⟩

/-- A cancellation is harmless if the transport is not open after it, or no timer
has fired. -/
theorem cancel (hsingle : Single reader) {client : Client} (session : ℕ)
    (hclosed : ∀ timer ∈ reader.timers.waiting, timer.fired = true → client.isOpen = false) :
    Single { reader.cancelDurationTimer with client, session } where
  alone hfirst hsecond :=
    hsingle.alone (hsingle.of_mem_cancel hfirst).1 (hsingle.of_mem_cancel hsecond).1
  held hmem := by
    obtain ⟨hwaiting, hfired⟩ := hsingle.of_mem_cancel hmem
    exact .inr ⟨hfired, hclosed _ hwaiting hfired, rfl⟩
  here _ _ hlatest := nomatch hlatest
  recorded := hsingle.recorded

/-- Scheduling anew is harmless if no timer has fired. -/
theorem schedule (hsingle : Single reader) (config : LLRPReaderConfig)
    (hquiet : ∀ timer ∈ reader.timers.waiting, timer.fired = true →
      endsInventory config = false ∧ reader.client.isOpen = false) :
    Single (reader.scheduleDurationDisconnect config) := by
  unfold scheduleDurationDisconnect
  cases hends : endsInventory config with
  | false =>
    exact @cancel _ hsingle reader.client reader.session
      fun timer hmem hfired => (hquiet timer hmem hfired).2
  | true =>
    have hnone : ∀ timer, timer ∉ reader.cancelDurationTimer.timers.waiting := by
      intro timer hmem
      obtain ⟨hwaiting, hfired⟩ := hsingle.of_mem_cancel hmem
      rw [(hquiet timer hwaiting hfired).1] at hends
      cases hends
    have honly : ∀ {timer} {task : Option ℕ},
        timer ∈ (reader.cancelDurationTimer.timers.arm task).waiting →
        timer = ⟨reader.cancelDurationTimer.timers.next, task, false⟩ := by
      intro timer task hmem
      rcases (Timers.mem_arm _ _ _).mp hmem with hold | hnew
      · exact absurd hold (hnone timer)
      · exact hnew
    refine ⟨?_, ?_, ?_, hsingle.recorded⟩
    · intro first second hfirst hsecond
      rw [honly hfirst, honly hsecond]
    · intro timer hmem
      rw [honly hmem]
      exact .inl ⟨rfl, rfl⟩
    · intro timer session hmem htask _
      rw [honly hmem] at htask
      dsimp only at htask
      split at htask
      · rename_i hsocket
        cases htask
        exact ⟨hsocket, rfl⟩
      · cases htask

end Single

/-! ## The link -/

theorem link_setState (client : Client) (newState : ReaderState) :
    (client.setState newState).reader.socket = client.reader.socket ∧
      (client.setState newState).isOpen = client.isOpen := by
  unfold Client.isOpen
  change (client.reader.onLlrpStateChanged _ newState).socket = _ ∧
    ((client.reader.onLlrpStateChanged _ newState).socket &&
      !(client.reader.onLlrpStateChanged _ newState).disconnectRequested) = _
  unfold Reader.onLlrpStateChanged
  split
  · cases newState <;> exact ⟨rfl, rfl⟩
  · exact ⟨rfl, rfl⟩

theorem link_hookSucceeded (client : Client) (newConfig oldConfig : ConfigRef) :
    (client.hookSucceeded (.completed newConfig oldConfig)).reader.socket =
        client.reader.socket ∧
      (client.hookSucceeded (.completed newConfig oldConfig)).isOpen = client.isOpen := by
  unfold Client.isOpen Client.hookSucceeded
  dsimp only
  split <;> exact ⟨rfl, rfl⟩

/-- A connection that is lost is closed, or opened again by a retry. -/
theorem isOpen_onLostConnection (client : Client) (retried : Bool) :
    (client.onLostConnection retried).isOpen =
      (!client.reader.disconnectRequested &&
        ((client.configs client.reader.config).reconnect && retried)) := by
  have hrequested : (client.setState .disconnected).reader.disconnectRequested =
      client.reader.disconnectRequested := by
    change (client.reader.onLlrpStateChanged (client.configs client.reader.config)
      .disconnected).disconnectRequested = _
    unfold Reader.onLlrpStateChanged
    split <;> rfl
  unfold Client.onLostConnection Client.isOpen
  dsimp only
  cases hwas : client.reader.disconnectRequested with
  | true => rfl
  | false =>
    cases (client.configs client.reader.config).reconnect && retried with
    | true =>
      change (true && !(client.setState .disconnected).reader.disconnectRequested) = true
      rw [hrequested, hwas]
      rfl
    | false => rfl

/-- Connecting is refused, or takes back a request to disconnect. -/
theorem final_connect (client : Client) :
    client.reader.socketThread = true ∧ Session.connect.final client = client ∨
      client.reader.socketThread = false ∧ (Session.connect.final client).isOpen = true := by
  unfold Session.connect Program.final
  rw [Program.run_get_bind]
  cases hthread : client.reader.socketThread with
  | true => exact .inl ⟨rfl, rfl⟩
  | false =>
    refine .inr ⟨rfl, ?_⟩
    rw [if_neg Bool.false_ne_true, Program.run_modify_bind]
    cases hsocket : client.reader.socket with
    | true =>
      change (client.reader.socket && !false) = true
      rw [hsocket]
      rfl
    | false => rfl

/-! ## Steps that spare the timers that fired -/

/-- As long as a timer that fired has yet to run, no other is armed, it is not
cancelled in a step that leaves the transport open, and no session is opened once
it was cancelled. -/
def spares (reader : TimedReader) (step : TimedStep) : Prop :=
  ∀ timer ∈ reader.timers.waiting, timer.fired = true →
    match step with
    | .setState .inventorying =>
      reader.client.reader.owned = true →
        endsInventory (reader.client.configs reader.client.reader.config) = false ∧
          reader.client.isOpen = false
    | .setState .disconnected =>
      reader.client.reader.owned = true → reader.client.isOpen = false
    | .transitionSucceeded newConfig _ =>
      reader.client.state = .inventorying →
        endsInventory (reader.client.configs newConfig) = false ∧ reader.client.isOpen = false
    | .onDisconnected => reader.client.isOpen = false
    | .lost retried =>
      reader.client.reader.disconnectRequested = true ∨
        ((reader.client.configs reader.client.reader.config).reconnect && retried) = false
    | .connect =>
      reader.client.reader.socketThread = false → reader.latest = some timer.id
    | _ => True

instance (reader : TimedReader) (step : TimedStep) : Decidable (spares reader step) := by
  unfold spares
  cases step with
  | setState newState => cases newState <;> infer_instance
  | _ => infer_instance

namespace Single

variable {reader : TimedReader}

theorem setState (hsingle : Single reader) {newState : ReaderState}
    (hspares : spares reader (.setState newState)) : Single (reader.setState newState) := by
  obtain ⟨hsocket, hopen⟩ := link_setState reader.client newState
  have hchanged := hsingle.of_link hsocket fun hnow => hopen ▸ hnow
  unfold TimedReader.setState
  cases howned : reader.client.reader.owned with
  | false => exact hchanged
  | true =>
    rw [if_pos rfl]
    cases newState with
    | inventorying =>
      refine hchanged.schedule _ fun timer hmem hfired => ?_
      obtain ⟨hends, hclosed⟩ := hspares timer hmem hfired howned
      exact ⟨hends, hopen.trans hclosed⟩
    | disconnected =>
      exact hsingle.cancel reader.session fun timer hmem hfired =>
        hopen.trans (hspares timer hmem hfired howned)
    | _ => exact hchanged

theorem transitionSucceeded (hsingle : Single reader) {newConfig oldConfig : ConfigRef}
    (hspares : spares reader (.transitionSucceeded newConfig oldConfig)) :
    Single (reader.transitionSucceeded newConfig oldConfig) := by
  obtain ⟨hsocket, hopen⟩ := link_hookSucceeded reader.client newConfig oldConfig
  have hchanged := hsingle.of_link hsocket fun hnow => hopen ▸ hnow
  unfold TimedReader.transitionSucceeded
  split
  · rename_i hstate
    refine hchanged.schedule _ fun timer hmem hfired => ?_
    obtain ⟨hends, hclosed⟩ := hspares timer hmem hfired hstate
    exact ⟨hends, hopen.trans hclosed⟩
  · exact hchanged

theorem transitionFailed (hsingle : Single reader) (newConfig oldConfig : ConfigRef) :
    Single (reader.transitionFailed newConfig oldConfig) := by
  unfold TimedReader.transitionFailed Client.hookFailed
  dsimp only
  split
  · rename_i hstate
    have hclosed : (reader.client.setReaderConfig oldConfig).hardDisconnect.isOpen = false := rfl
    have hstate' : (reader.client.setReaderConfig oldConfig).state = .disconnected := hstate
    rw [if_pos hstate']
    exact hsingle.cancel reader.session fun _ _ _ => hclosed
  · rename_i hstate
    have hstate' : (reader.client.setReaderConfig oldConfig).state ≠ .disconnected := hstate
    rw [if_neg hstate']
    exact hsingle.of_link rfl fun hnow => hnow

theorem lost (hsingle : Single reader) {retried : Bool}
    (hspares : spares reader (.lost retried)) : Single (reader.lost retried) := by
  refine hsingle.cancel _ fun timer hmem hfired => ?_
  rw [isOpen_onLostConnection]
  rcases hspares timer hmem hfired with hrequested | hretried
  · rw [hrequested]
    rfl
  · rw [hretried, Bool.and_false]

/-- A session is opened while no timer waits, or one that is held. -/
theorem connect (hsingle : Single reader) (hspares : spares reader .connect) :
    Single reader.connect := by
  unfold TimedReader.connect
  dsimp only
  rcases final_connect reader.client with ⟨-, hsame⟩ | ⟨hthread, hopened⟩
  · rw [hsame, Bool.and_not_self]
    exact hsingle
  · have hheld : ∀ {timer}, timer ∈ reader.timers.waiting →
        reader.handle = some timer.id ∧ reader.latest = some timer.id := by
      intro timer hmem
      rcases hsingle.held hmem with hheld | ⟨hfired, -, hlatest⟩
      · exact hheld
      · rw [hspares timer hmem hfired hthread] at hlatest
        cases hlatest
    refine ⟨hsingle.alone, fun hmem => .inl (hheld hmem), ?_, hsingle.recorded⟩
    intro timer session hmem htask hlatest
    obtain ⟨hsocket, hsession⟩ := hsingle.here hmem htask hlatest
    refine ⟨(Bool.and_eq_true_iff.mp hopened).1, ?_⟩
    rw [hsocket, Bool.not_true, Bool.and_false]
    exact hsession

theorem disconnect (hsingle : Single reader) : Single reader.disconnect := by
  unfold TimedReader.disconnect
  dsimp only
  split
  · refine hsingle.of_link rfl fun hnow => ?_
    unfold Client.isOpen at hnow
    rw [Bool.not_true, Bool.and_false] at hnow
    cases hnow
  · exact hsingle.cancel reader.session fun _ _ _ => rfl

theorem fire (hsingle : Single reader) (fired : ℕ) :
    Single { reader with timers := reader.timers.fire fired } where
  alone hfirst hsecond := by
    obtain ⟨early, hearly, rfl⟩ := (Timers.mem_fire _ _ _).mp hfirst
    obtain ⟨late, hlate, rfl⟩ := (Timers.mem_fire _ _ _).mp hsecond
    rw [hsingle.alone hearly hlate]
  held hmem := by
    obtain ⟨earlier, hearlier, rfl⟩ := (Timers.mem_fire _ _ _).mp hmem
    rcases hsingle.held hearlier with hheld | ⟨hfired, hrest⟩
    · exact .inl hheld
    · exact .inr ⟨Bool.or_eq_true_iff.mpr (.inl hfired), hrest⟩
  here hmem := by
    obtain ⟨earlier, hearlier, rfl⟩ := (Timers.mem_fire _ _ _).mp hmem
    exact @here _ hsingle earlier _ hearlier
  recorded := hsingle.recorded

/-- A timer that disconnects is the one scheduled last, in this session. -/
theorem durationExpired (hsingle : Single reader) (timer : ℕ) :
    Single (reader.durationExpired timer) := by
  unfold TimedReader.durationExpired
  cases hfind : reader.timers.fired? timer with
  | none => exact hsingle
  | some fired =>
    obtain ⟨hwaiting, rfl, -⟩ := Timers.fired?_eq_some_iff.mp hfind
    have hnone : ∀ {other : Timer (Option ℕ)},
        other ∉ (reader.timers.finish fired.id).waiting := by
      intro other hmem
      obtain ⟨hother, hne⟩ := (Timers.mem_finish _ _ _).mp hmem
      exact hne (congrArg Timer.id (hsingle.alone hother hwaiting))
    dsimp only
    split
    · rename_i hopen
      refine disconnect ⟨fun hmem => absurd hmem hnone, fun hmem => absurd hmem hnone,
        fun hmem => absurd hmem hnone, ?_⟩
      intro disconnect hmem
      rcases List.mem_append.mp hmem with hold | hnew
      · exact hsingle.recorded disconnect hold
      · rw [List.mem_singleton.mp hnew]
        rcases hsingle.held hwaiting with ⟨-, hlatest⟩ | ⟨-, hclosed, -⟩
        · exact ⟨hlatest, fun session hsession =>
            (hsingle.here hwaiting hsession hlatest).2⟩
        · rw [hopen] at hclosed
          cases hclosed
    · exact ⟨fun hmem => absurd hmem hnone, fun hmem => absurd hmem hnone,
        fun hmem => absurd hmem hnone, hsingle.recorded⟩

/-- What one step preserves. -/
theorem step (hsingle : Single reader) {step : TimedStep} (hspares : spares reader step) :
    Single (reader.step step) := by
  cases step with
  | setState newState => exact hsingle.setState hspares
  | transitionSucceeded newConfig oldConfig => exact hsingle.transitionSucceeded hspares
  | transitionFailed newConfig oldConfig => exact hsingle.transitionFailed _ _
  | hardDisconnect => exact hsingle.cancel reader.session fun _ _ _ => rfl
  | onDisconnected =>
    exact hsingle.cancel reader.session fun timer hmem hfired => hspares timer hmem hfired
  | lost retried => exact hsingle.lost hspares
  | connect => exact hsingle.connect hspares
  | disconnect => exact hsingle.disconnect
  | endThread => exact hsingle.of_link rfl fun hnow => hnow
  | fire timer => exact hsingle.fire timer
  | expire timer => exact hsingle.durationExpired timer

end Single

/-! ## Steps that do not -/

/-- A call of `disconnect` by a timer that is not the one scheduled last. -/
def disconnectsOther (reader : TimedReader) : Prop :=
  ∃ disconnect ∈ reader.disconnects, disconnect.latest ≠ some disconnect.timer

theorem disconnectsOther_of_open {reader : TimedReader} {timer : Timer (Option ℕ)}
    (hwaiting : timer ∈ reader.timers.waiting) (hfired : timer.fired = true)
    (hopen : reader.client.isOpen = true) (hlatest : reader.latest ≠ some timer.id) :
    disconnectsOther (reader.durationExpired timer.id) := by
  have hkept : ∀ reader : TimedReader, reader.disconnect.disconnects = reader.disconnects := by
    intro reader
    unfold disconnect
    dsimp only
    split <;> rfl
  have hfind := Timers.fired?_eq_some_iff.mpr ⟨hwaiting, rfl, hfired⟩
  unfold durationExpired
  rw [hfind]
  dsimp only
  rw [if_pos hopen]
  refine ⟨⟨timer.id, reader.latest, timer.task, reader.session⟩, ?_, hlatest⟩
  rw [hkept]
  exact List.mem_append_right _ (List.mem_singleton.mpr rfl)

/-- A timer that fired survives its cancellation. -/
theorem mem_cancel_of_fired {reader : TimedReader} {timer : Timer (Option ℕ)}
    (hwaiting : timer ∈ reader.timers.waiting) (hfired : timer.fired = true) :
    timer ∈ reader.cancelDurationTimer.timers.waiting := by
  unfold cancelDurationTimer
  cases reader.handle with
  | none => exact hwaiting
  | some held => exact (Timers.mem_cancel _ _ _).mpr ⟨hwaiting, fun _ => hfired⟩

theorem next_cancel (reader : TimedReader) :
    reader.cancelDurationTimer.timers.next = reader.timers.next := by
  unfold cancelDurationTimer
  cases reader.handle <;> rfl

/-- A timer that nobody holds is not cancelled with its session, and runs in the
next one. -/
theorem disconnectsOther_of_unheld {reader : TimedReader} {timer : Timer (Option ℕ)}
    (hwaiting : timer ∈ reader.timers.waiting) (hhandle : reader.handle = none) :
    disconnectsOther (run step reader
      [.hardDisconnect, .endThread, .connect, .fire timer.id, .expire timer.id]) := by
  let closed : TimedReader :=
    { reader.hardDisconnect with client := reader.hardDisconnect.client.endThread }
  have hclosed : timer ∈ closed.timers.waiting := by
    change timer ∈ reader.cancelDurationTimer.timers.waiting
    unfold cancelDurationTimer
    rw [hhandle]
    exact hwaiting
  have hopen : closed.connect.client.isOpen = true := by
    rcases final_connect closed.client with ⟨hthread, -⟩ | ⟨-, hopened⟩
    · cases hthread
    · exact hopened
  let fired : TimedReader :=
    { closed.connect with timers := closed.connect.timers.fire timer.id }
  let late : Timer (Option ℕ) := { timer with fired := timer.fired || timer.id = timer.id }
  have hlate : late ∈ fired.timers.waiting :=
    (Timers.mem_fire _ _ _).mpr ⟨timer, hclosed, rfl⟩
  have hnow : late.fired = true := by
    change (timer.fired || decide (timer.id = timer.id)) = true
    rw [decide_eq_true rfl, Bool.or_true]
  exact @disconnectsOther_of_open fired late hlate hnow hopen nofun

/-- A timer that is armed while another has fired outlives its session: the other
one takes the handle away. -/
theorem disconnectsOther_of_schedule {reader : TimedReader} {timer : Timer (Option ℕ)}
    (hwaiting : timer ∈ reader.timers.waiting) (hfired : timer.fired = true)
    {config : LLRPReaderConfig}
    (hnoisy : ¬ (endsInventory config = false ∧ reader.client.isOpen = false)) :
    ∃ more, disconnectsOther (run step (reader.scheduleDurationDisconnect config) more) := by
  have hkept := mem_cancel_of_fired hwaiting hfired
  have hne : timer.id ≠ reader.cancelDurationTimer.timers.next := by
    rw [next_cancel]
    exact Nat.ne_of_lt (reader.timers.fresh timer hwaiting)
  unfold scheduleDurationDisconnect
  cases hends : endsInventory config with
  | false =>
    have hopen : reader.client.isOpen = true :=
      Bool.not_eq_false _ ▸ fun hclosed => hnoisy ⟨hends, hclosed⟩
    exact ⟨[.expire timer.id], disconnectsOther_of_open hkept hfired hopen nofun⟩
  | true =>
    let task : Option ℕ := if reader.client.reader.socket then some reader.session else none
    let armed : TimedReader :=
      { reader.cancelDurationTimer with
        timers := reader.cancelDurationTimer.timers.arm task
        handle := some reader.cancelDurationTimer.timers.next
        latest := some reader.cancelDurationTimer.timers.next }
    have hwaits : timer ∈ armed.timers.waiting := (Timers.mem_arm _ _ _).mpr (.inl hkept)
    rw [if_pos rfl]
    change ∃ more, disconnectsOther (run step armed more)
    cases hopen : reader.client.isOpen with
    | true =>
      have hlatest : armed.latest ≠ some timer.id :=
        fun hlatest => hne (Option.some.inj hlatest).symm
      exact ⟨[.expire timer.id], disconnectsOther_of_open hwaits hfired hopen hlatest⟩
    | false =>
      let next : Timer (Option ℕ) := ⟨reader.cancelDurationTimer.timers.next, task, false⟩
      have hfind := Timers.fired?_eq_some_iff.mpr ⟨hwaits, rfl, hfired⟩
      let unheld : TimedReader :=
        { armed with
          client := { reader.client with reader := reader.client.reader.cancelDurationTimer }
          timers := armed.timers.finish timer.id
          handle := none }
      have hexpired : armed.durationExpired timer.id = unheld := by
        have hclosed : ¬ armed.client.isOpen = true := Bool.not_eq_true _ ▸ hopen
        unfold durationExpired
        rw [hfind]
        exact if_neg hclosed
      have hnext : next ∈ (armed.timers.finish timer.id).waiting :=
        (Timers.mem_finish _ _ _).mpr ⟨(Timers.mem_arm _ _ _).mpr (.inr rfl), hne.symm⟩
      refine ⟨.expire timer.id ::
        [.hardDisconnect, .endThread, .connect, .fire next.id, .expire next.id], ?_⟩
      rw [run, show armed.step (.expire timer.id) = unheld from hexpired]
      exact @disconnectsOther_of_unheld unheld next hnext rfl

theorem disconnectsOther_of_not_spares {reader : TimedReader} {step : TimedStep}
    (hnoisy : ¬ spares reader step) :
    ∃ more, disconnectsOther (run TimedReader.step reader (step :: more)) := by
  unfold spares at hnoisy
  push Not at hnoisy
  obtain ⟨timer, hwaiting, hfired, hstep⟩ := hnoisy
  have hkept := mem_cancel_of_fired hwaiting hfired
  cases step with
  | setState newState =>
    obtain ⟨-, hlink⟩ := link_setState reader.client newState
    cases newState with
    | inventorying =>
      obtain ⟨howned, hnoisy⟩ := Classical.not_imp.mp hstep
      let changed : TimedReader :=
        { reader with client := reader.client.setState .inventorying }
      change ∃ more, disconnectsOther (run TimedReader.step (reader.setState _) more)
      unfold TimedReader.setState
      rw [if_pos howned]
      exact @disconnectsOther_of_schedule changed _ hwaiting hfired _ fun hquiet =>
        hnoisy ⟨hquiet.1, hlink.symm.trans hquiet.2⟩
    | disconnected =>
      obtain ⟨howned, hopen⟩ := Classical.not_imp.mp hstep
      refine ⟨[.expire timer.id], ?_⟩
      change disconnectsOther ((reader.setState .disconnected).durationExpired timer.id)
      unfold TimedReader.setState
      rw [if_pos howned]
      let cancelled : TimedReader :=
        { reader.cancelDurationTimer with client := reader.client.setState .disconnected }
      exact @disconnectsOther_of_open cancelled _ hkept hfired
        (hlink.trans (Bool.not_eq_false _ ▸ hopen)) nofun
    | _ => exact absurd trivial hstep
  | transitionSucceeded newConfig oldConfig =>
    obtain ⟨-, hlink⟩ := link_hookSucceeded reader.client newConfig oldConfig
    obtain ⟨hstate, hnoisy⟩ := Classical.not_imp.mp hstep
    let changed : TimedReader :=
      { reader with client := reader.client.hookSucceeded (.completed newConfig oldConfig) }
    change ∃ more, disconnectsOther
      (run TimedReader.step (reader.transitionSucceeded newConfig oldConfig) more)
    unfold TimedReader.transitionSucceeded
    rw [if_pos hstate]
    exact @disconnectsOther_of_schedule changed _ hwaiting hfired _ fun hquiet =>
      hnoisy ⟨hquiet.1, hlink.symm.trans hquiet.2⟩
  | onDisconnected =>
    have hopen : reader.client.onDisconnected.isOpen = true := Bool.not_eq_false _ ▸ hstep
    exact ⟨[.expire timer.id],
      @disconnectsOther_of_open reader.onDisconnected _ hkept hfired hopen nofun⟩
  | lost retried =>
    obtain ⟨hrequested, hretried⟩ := not_or.mp hstep
    rw [Bool.not_eq_true] at hrequested
    rw [Bool.not_eq_false] at hretried
    have hopen : (reader.lost retried).client.isOpen = true := by
      refine (isOpen_onLostConnection reader.client retried).trans ?_
      rw [hrequested, hretried]
      rfl
    exact ⟨[.expire timer.id],
      @disconnectsOther_of_open (reader.lost retried) _ hkept hfired hopen nofun⟩
  | connect =>
    obtain ⟨hthread, hlatest⟩ := Classical.not_imp.mp hstep
    have hopen : reader.connect.client.isOpen = true := by
      rcases final_connect reader.client with ⟨hrunning, -⟩ | ⟨-, hopened⟩
      · rw [hthread] at hrunning
        cases hrunning
      · exact hopened
    exact ⟨[.expire timer.id],
      @disconnectsOther_of_open reader.connect _ hwaiting hfired hopen hlatest⟩
  | _ => exact absurd trivial hstep

/-! ## Whole runs -/

/-- In a run whose steps spare the timers that fired, a timer disconnects only if
it is the one scheduled last and not cancelled since, and never a later session
than the one it was armed in. Any other step can be followed by a wrong timer. -/
theorem duration_timer_ends_own_inventory {configs : ConfigRef → LLRPReaderConfig}
    {config : ConfigRef} {steps : List TimedStep}
    (hrun : Guarded step spares (initial configs config) steps) :
    (∀ disconnect ∈ (run step (initial configs config) steps).disconnects,
      disconnect.latest = some disconnect.timer ∧
        ∀ session ∈ disconnect.armedIn, session = disconnect.session) ∧
    ∀ other, ¬ spares (run step (initial configs config) steps) other →
      ∃ more, disconnectsOther
        (run step (initial configs config) (steps ++ other :: more)) := by
  constructor
  · exact (hrun.invariant Single (fun _ _ hsingle hspares => hsingle.step hspares)
      (.initial configs config)).recorded
  · intro other hnoisy
    obtain ⟨more, hwrong⟩ := disconnectsOther_of_not_spares hnoisy
    exact ⟨more, by rwa [run_append]⟩

/-- A configuration that bounds the inventory and reconnects. -/
def boundedConfig : LLRPReaderConfig :=
  { timedConfig with disconnectWhenDone := true, duration := some 10, reconnect := true }

/-- A bounded inventory that ends in time, and another one in the next session. -/
theorem duration_timer_ends_own_inventory_twice :
    let steps : List TimedStep :=
      [.connect, .setState .inventorying, .fire 0, .expire 0, .hardDisconnect, .endThread,
        .connect, .setState .inventorying, .fire 1, .expire 1]
    let reader := run step (initial (fun _ => boundedConfig) 0) steps
    reader.disconnects.length = 2 ∧
      ∀ disconnect ∈ reader.disconnects, disconnect.latest = some disconnect.timer ∧
        ∀ session ∈ disconnect.armedIn, session = disconnect.session := by
  have hrun := @duration_timer_ends_own_inventory (fun _ => boundedConfig) 0
    [.connect, .setState .inventorying, .fire 0, .expire 0, .hardDisconnect, .endThread,
      .connect, .setState .inventorying, .fire 1, .expire 1] (by decide +kernel)
  exact ⟨by decide +kernel, hrun.1⟩

/-- The timer of an inventory fires as the connection is lost. It runs when the
reader client has connected again, and disconnects the new session. -/
theorem duration_timer_ends_later_session :
    ¬ ∀ disconnect ∈ (run step (initial (fun _ => boundedConfig) 0)
        [.connect, .setState .inventorying, .fire 0, .lost true, .expire 0]).disconnects,
      disconnect.latest = some disconnect.timer ∧
        ∀ session ∈ disconnect.armedIn, session = disconnect.session := by
  decide +kernel

/-! ## The held timer -/

theorem isSome_scheduleDurationDisconnect (reader : Reader) (config : LLRPReaderConfig) :
    (reader.scheduleDurationDisconnect config).durationTimer.isSome = endsInventory config := by
  unfold Reader.scheduleDurationDisconnect endsInventory
  dsimp only
  cases config.disconnectWhenDone with
  | false => rfl
  | true =>
    cases config.duration with
    | none => rfl
    | some duration =>
      by_cases hpositive : 0 < duration <;> simp [Option.filter, hpositive]

theorem isSome_handle_schedule (reader : TimedReader) (config : LLRPReaderConfig) :
    (reader.scheduleDurationDisconnect config).handle.isSome = endsInventory config := by
  unfold scheduleDurationDisconnect
  cases endsInventory config <;> rfl

/-- The reader client holds a timer exactly when the client says so. -/
def Agrees (reader : TimedReader) : Prop :=
  reader.handle.isSome = reader.client.reader.durationTimer.isSome

namespace Agrees

variable {reader : TimedReader}

theorem of_none (hhandle : reader.handle = none)
    (htimer : reader.client.reader.durationTimer = none) : Agrees reader := by
  unfold Agrees
  rw [hhandle, htimer]
  rfl

/-- Both sides schedule by the same configuration. -/
theorem schedule {changed : TimedReader} {config : LLRPReaderConfig} {client : Reader}
    (hclient : changed.client.reader = client.scheduleDurationDisconnect config) :
    Agrees (changed.scheduleDurationDisconnect config) := by
  have hsame : (changed.scheduleDurationDisconnect config).client = changed.client := by
    unfold scheduleDurationDisconnect
    dsimp only
    split <;> rfl
  unfold Agrees
  rw [isSome_handle_schedule, hsame, hclient, isSome_scheduleDurationDisconnect]

theorem setState (hagrees : Agrees reader) (newState : ReaderState) :
    Agrees (reader.setState newState) := by
  have hreader : (reader.client.setState newState).reader =
      reader.client.reader.onLlrpStateChanged
        (reader.client.configs reader.client.reader.config) newState := rfl
  unfold Reader.onLlrpStateChanged at hreader
  unfold TimedReader.setState
  cases howned : reader.client.reader.owned with
  | false =>
    rw [howned] at hreader
    exact hagrees.trans (congrArg (·.durationTimer.isSome) hreader.symm)
  | true =>
    rw [howned, if_pos rfl] at hreader
    rw [if_pos rfl]
    cases newState with
    | inventorying => exact schedule hreader
    | disconnected => exact of_none rfl (congrArg (·.durationTimer) hreader)
    | _ => exact hagrees.trans (congrArg (·.durationTimer.isSome) hreader.symm)

theorem transitionSucceeded (hagrees : Agrees reader) (newConfig oldConfig : ConfigRef) :
    Agrees (reader.transitionSucceeded newConfig oldConfig) := by
  unfold TimedReader.transitionSucceeded
  split
  · rename_i hstate
    exact schedule (if_pos hstate)
  · rename_i hstate
    have hsame : (reader.client.hookSucceeded
        (.completed newConfig oldConfig)).reader.durationTimer =
        reader.client.reader.durationTimer := by
      unfold Client.hookSucceeded
      dsimp only
      rw [if_neg hstate]
    exact hagrees.trans (congrArg Option.isSome hsame.symm)

theorem transitionFailed (hagrees : Agrees reader) (newConfig oldConfig : ConfigRef) :
    Agrees (reader.transitionFailed newConfig oldConfig) := by
  have hstate : (reader.client.setReaderConfig oldConfig).state = reader.client.state := rfl
  unfold TimedReader.transitionFailed Client.hookFailed
  dsimp only
  rw [hstate]
  split
  · rfl
  · exact hagrees

theorem disconnect (hagrees : Agrees reader) : Agrees reader.disconnect := by
  unfold TimedReader.disconnect
  dsimp only
  split
  · exact hagrees
  · rfl

end Agrees

theorem durationTimer_onLostConnection (client : Client) (retried : Bool) :
    (client.onLostConnection retried).reader.durationTimer = none := by
  unfold Client.onLostConnection
  dsimp only
  split
  · rfl
  · split <;> rfl

theorem durationTimer_connect (client : Client) :
    (Session.connect.final client).reader.durationTimer = client.reader.durationTimer := by
  unfold Session.connect Program.final
  rw [Program.run_get_bind]
  split
  · rfl
  · rw [Program.run_modify_bind]
    split <;> rfl

/-- In every run the timer that is held is the one of the client. -/
theorem agrees_of_reachable {reader : TimedReader}
    (hreach : Reachable step (fun first => ∃ configs config, first = initial configs config)
      reader) : Agrees reader := by
  refine hreach.invariant Agrees ?_ ?_
  · rintro _ ⟨configs, config, rfl⟩
    rfl
  · intro reader label hagrees
    cases label with
    | setState newState => exact hagrees.setState newState
    | transitionSucceeded newConfig oldConfig => exact hagrees.transitionSucceeded _ _
    | transitionFailed newConfig oldConfig => exact hagrees.transitionFailed _ _
    | lost retried =>
      have htimer := durationTimer_onLostConnection reader.client retried
      exact @Agrees.of_none (reader.lost retried) rfl htimer
    | connect =>
      unfold Agrees
      rw [show (reader.step .connect).client = Session.connect.final reader.client from rfl,
        durationTimer_connect]
      exact hagrees
    | disconnect => exact hagrees.disconnect
    | expire timer =>
      change Agrees (reader.durationExpired timer)
      unfold durationExpired
      cases reader.timers.fired? timer with
      | none => exact hagrees
      | some fired =>
        dsimp only
        split
        · exact Agrees.disconnect rfl
        · rfl
    | hardDisconnect => rfl
    | onDisconnected => rfl
    | endThread => exact hagrees
    | fire timer => exact hagrees

end TimedReader

end Sllurp.Session
