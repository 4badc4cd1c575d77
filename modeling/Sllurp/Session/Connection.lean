/-
# Ends of a session

Tearing down the session when the transport is closed or lost, and asking the
reader to stop before closing it.
-/

import Sllurp.Session.Inventory

namespace Sllurp.Session

open Sllurp.Foundations Sllurp.Protocol Sllurp.Config Sllurp.Runtime

namespace Client

/-- Discard the request callbacks and the frame state of a transport session.
The state callback is not called. -/
def resetProtocolSession (client : Client) : Client :=
  { client.cancelPauseResumeTimer with
    pendingRequests := client.pendingRequests.cancelAll false
    deferreds := fun _ => []
    rospec := none
    inventoryRospecAdded := false
    suppressSetConfigPostActions := false
    generatedConfigSnapshot := none
    appliedConfigSnapshot := none
    disconnecting := false
    state := .disconnected
    reader := { client.reader with partialData := [], expectedBytes := 0 } }

/-- Stop the receive worker and close the socket. -/
def close (client : Client) : Client :=
  { client.cancelPauseResumeTimer with
    reader :=
      { client.reader with
        durationTimer := none
        partialData := []
        expectedBytes := 0
        stopMainLoop := true
        socket := false } }

/-- Close the transport and reset the session. -/
def hardDisconnect (client : Client) : Client := client.close.resetProtocolSession

/-- Notify the application of the end of the transport, once. -/
def onDisconnected (client : Client) : Client :=
  { client with
    reader := { client.reader with durationTimer := none, disconnectedNotified := true } }

/-- The transport was opened again. -/
def reopened (client : Client) : Client :=
  { client with
    reader :=
      { client.reader with socket := true, disconnectedNotified := false, stopMainLoop := false } }

/-- What the receive loop does when the transport is lost: forget the session,
and connect again if the policy asks for it and a retry succeeds. -/
def onLostConnection (client : Client) (retried : Bool) : Client :=
  let lost := (client.setState .disconnected).hardDisconnect
  if client.reader.disconnectRequested then lost.onDisconnected
  else
    let lost := lost.resetProtocolSession
    if (client.configs client.reader.config).reconnect && retried then lost.reopened
    else lost.onDisconnected

end Client

/-- Open the transport and start the receive thread. -/
def connect : ClientM Unit := do
  let client ← Program.get
  if client.reader.socketThread then
    .raise (.readerConfigurationError "Already connected")
  else
    .modify fun client =>
      { client with
        reader := { client.reader with disconnectRequested := false } }.resetProtocolSession
    if client.reader.socket then .raise (.readerConfigurationError "Already connected")
    else
      .modify fun client =>
        { client.reopened with reader := { client.reopened.reader with socketThread := true } }

/-- Clean the reader before disconnecting, or just close if nobody receives. -/
def disconnect : ClientM Unit := do
  .modify fun client =>
    { client with reader := { client.reader with disconnectRequested := true } }
  let client ← Program.get
  if client.reader.socketThread then stopPolitely .disconnectStopped true
  else .modify fun client => client.hardDisconnect.onDisconnected

end Sllurp.Session
