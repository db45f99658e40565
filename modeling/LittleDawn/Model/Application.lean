import LittleDawn.Model.VtClient

set_option autoImplicit false

namespace LittleDawn

structure KeyOutput where
  blinks : List (Nat × Nat)
  commands : List VtCommand
  deriving DecidableEq, Repr

def KeyOutput.none : KeyOutput :=
  { blinks := [], commands := [] }

def buttonEvent (displayValue : UInt32) (event : VTKeyEvent) : KeyOutput × UInt32 :=
  if event.keyEvent = .buttonUnlatchedOrReleased then
    if event.objectID = 6000 then
      ({ blinks := [(1, 50)], commands := [] }, displayValue + 10)
    else if event.objectID = 6001 then
      ({ blinks := [(2, 50)], commands := [] },
        if 10 ≤ displayValue then displayValue - 10 else displayValue)
    else if event.objectID = 27001 then
      ({ blinks := [], commands := [.changeActiveMask 0 1001] }, displayValue)
    else if event.objectID = 27012 then
      ({ blinks := [], commands := [.changeActiveMask 0 1000] }, displayValue)
    else (.none, displayValue)
  else (.none, displayValue)

def softKeyEvent (displayValue : UInt32) (event : VTKeyEvent) : KeyOutput × UInt32 :=
  if event.keyEvent = .buttonUnlatchedOrReleased then
    if event.objectID = 5000 then ({ blinks := [(3, 100)], commands := [] }, 0)
    else if event.objectID = 5001 then ({ blinks := [(1, 200)], commands := [] }, displayValue)
    else (.none, displayValue)
  else (.none, displayValue)

-- What the listeners send does not depend on the display value.
def keyListeners : KeyListeners where
  softKey event := (softKeyEvent 0 event).1.commands.map VtCommand.command
  button event := (buttonEvent 0 event).1.commands.map VtCommand.command

structure Program where
  client : VtClient
  app : MainLoop
  lastVTUpdateTime : UInt32

def Program.boot (objectPools : List ObjectPool) : Program :=
  { client := .boot objectPools, app := .boot, lastVTUpdateTime := 0 }

-- The CAN task and the main loop take turns call by call: a call into the client is atomic.
inductive ProgramStep where
  | receive (message : RxMessage)
  | update (partnerAddressValid : Bool)
  | transferEnds (successful : Bool)
  | refresh (tickCount : UInt32) (dawnData : Option NewDawnData)
  | status (tickCount : UInt32) (input : StatusInput)

def displayAfter (displayValue : UInt32) (message : RxMessage) : UInt32 :=
  if message.Addressed ∧ message.group = .virtualTerminalToECU then
    match message.keyEvent with
    | none => displayValue
    | some event =>
      if message.byte 0 = 0x00 then (softKeyEvent displayValue event).2
      else if message.byte 0 = 0x01 then (buttonEvent displayValue event).2
      else displayValue
  else displayValue

def Program.step (program : Program) (port : VtPort) : ProgramStep → Program × VtPort
  | .receive message =>
    let (client, port) := program.client.processRxMessage port keyListeners message
    let displayValue := displayAfter program.app.displayValue message
    ({ program with client, app := { program.app with displayValue } }, port)
  | .update partnerAddressValid =>
    let (client, port) := program.client.update port partnerAddressValid
    ({ program with client }, port)
  | .transferEnds successful =>
    ({ program with client := program.client.processCallback successful }, port)
  | .refresh tickCount dawnData =>
    let (commands, lastVTUpdateTime) := canUpdateTask program.lastVTUpdateTime tickCount
      { isConnected := program.client.getIsConnected, dawnData }
    let (client, port) :=
      program.client.queueCommands port ((commands.getD []).map VtCommand.command)
    ({ program with client, lastVTUpdateTime }, port)
  | .status tickCount input =>
    let (output, app) := appMain program.app tickCount
      { input with isConnected := program.client.getIsConnected }
    let commands := (output.map StatusOutput.commands).getD []
    let (client, port) := program.client.queueCommands port (commands.map VtCommand.command)
    ({ program with client, app }, port)

structure ProgramInput where
  step : ProgramStep
  time : Nat
  accepts : List Bool

def ProgramInput.port (input : ProgramInput) : VtPort :=
  .fresh (UInt32.ofNat input.time) input.accepts

def Program.next (program : Program) (input : ProgramInput) : Program :=
  (program.step input.port input.step).1

def Program.sent (program : Program) (input : ProgramInput) : List VtMessage :=
  (program.step input.port input.step).2.sent

end LittleDawn
