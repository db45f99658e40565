import LittleDawn.Model.Message

set_option autoImplicit false

namespace LittleDawn

inductive VtCommand where
  | changeActiveMask (workingSet mask : UInt16)
  | changeNumericValue (object : UInt16) (value : UInt32)
  deriving DecidableEq, Repr

structure MainLoop where
  displayValue : UInt32
  vtConnected : Bool
  lastStatusTime : UInt32
  lastUpdateTime : UInt32
  lastLogTime : UInt32
  deriving DecidableEq, Repr

def MainLoop.boot : MainLoop :=
  { displayValue := 0, vtConnected := false, lastStatusTime := 0, lastUpdateTime := 0,
    lastLogTime := 0 }

structure StatusInput where
  addressValid : Bool
  isConnected : Bool
  maskSent : Bool
  dawnData : Option NewDawnData
  deriving DecidableEq, Repr

structure StatusOutput where
  blinks : List (Nat × Nat)
  commands : List VtCommand
  deriving DecidableEq, Repr

def absValue (value : Int) : UInt32 :=
  UInt32.ofNat value.natAbs

def updateDisplay (app : MainLoop) (currentTime : UInt32) (dawnData : Option NewDawnData) :
    MainLoop :=
  if 100 ≤ currentTime - app.lastUpdateTime then
    match dawnData with
    | some data =>
      { app with
        lastUpdateTime := currentTime
        displayValue := absValue (data.status.steerAngle.toInt.tdiv 10)
        lastLogTime :=
          if 1000 ≤ currentTime - app.lastLogTime then currentTime else app.lastLogTime }
    | none => { app with lastUpdateTime := currentTime, displayValue := app.displayValue + 1 }
  else app

@[simp] theorem updateDisplay_vtConnected (app : MainLoop) (currentTime : UInt32)
    (dawnData : Option NewDawnData) :
    (updateDisplay app currentTime dawnData).vtConnected = app.vtConnected := by
  cases dawnData <;> simp only [updateDisplay] <;> split <;> rfl

@[simp] theorem updateDisplay_lastStatusTime (app : MainLoop) (currentTime : UInt32)
    (dawnData : Option NewDawnData) :
    (updateDisplay app currentTime dawnData).lastStatusTime = app.lastStatusTime := by
  cases dawnData <;> simp only [updateDisplay] <;> split <;> rfl

def statusTick (app : MainLoop) (currentTime : UInt32) (input : StatusInput) :
    StatusOutput × MainLoop :=
  let blinks := if input.addressValid then [(1, 200)] else [(2, 200)]
  if input.isConnected then
    if app.vtConnected then
      ({ blinks, commands := [] }, updateDisplay app currentTime input.dawnData)
    else
      -- The latch is set before the command is sent, and nothing clears it.
      ({ blinks := blinks ++ [(5, 100)], commands := [.changeActiveMask 0 1000] },
        updateDisplay { app with vtConnected := true } currentTime input.dawnData)
  else ({ blinks, commands := [] }, app)

abbrev statusIntervalMs : UInt32 := 5000

def appMain (app : MainLoop) (tickCount : UInt32) (input : StatusInput) :
    Option StatusOutput × MainLoop :=
  let currentTime := tickCount * portTickPeriodMs
  if statusIntervalMs ≤ currentTime - app.lastStatusTime then
    let (output, app) := statusTick { app with lastStatusTime := currentTime } currentTime input
    (some output, app)
  else (none, app)

structure RefreshInput where
  isConnected : Bool
  dawnData : Option NewDawnData
  deriving DecidableEq, Repr

abbrev vtUpdateIntervalMs : UInt32 := 50

-- The two commands of a display refresh, in the VT's offset representation.
def refreshCommands (data : NewDawnData) : List VtCommand :=
  let wasAngle := absValue data.status.steerAngle.toInt
  let speed := UInt32.ofInt (data.status.speed.toInt.tdiv 100)
  [.changeNumericValue 21000 (wasAngle + 214748364), .changeNumericValue 21001 (speed + 214748364)]

-- One pass of the `while (1)` of `can_update_task`: the commands, if the pass refreshes the
-- display, and `lastVTUpdateTime`.
def canUpdateTask (lastVTUpdateTime tickCount : UInt32) (input : RefreshInput) :
    Option (List VtCommand) × UInt32 :=
  let currentTime := tickCount * portTickPeriodMs
  if input.isConnected ∧ vtUpdateIntervalMs ≤ currentTime - lastVTUpdateTime then
    (some ((input.dawnData.map refreshCommands).getD []), currentTime)
  else (none, lastVTUpdateTime)

end LittleDawn
