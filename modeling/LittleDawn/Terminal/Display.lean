import LittleDawn.Model.Terminal
import LittleDawn.Serial.Store

set_option autoImplicit false

namespace LittleDawn

-- The output numbers of the object pool have an offset of -214748364.
def shown (value : UInt32) : Int :=
  value.toNat - 214748364

theorem shown_offset (value : UInt32) (number : Int) (low : -214748364 ≤ number)
    (high : number ≤ 32768) (same : value = UInt32.ofInt number) :
    shown (value + 214748364) = number := by
  subst same
  simp only [shown, UInt32.toNat_add, UInt32.ofInt, UInt32.toNat_ofNat', UInt32.toNat_ofNat]
  omega

theorem absValue_ofInt (value : Int) : absValue value = UInt32.ofInt value.natAbs := by
  apply UInt32.toNat_inj.mp
  simp only [absValue, UInt32.ofInt, UInt32.toNat_ofNat']
  omega

theorem refreshCommands_shown (data : NewDawnData) : ∃ wasAngle speed,
    refreshCommands data = [.changeNumericValue 21000 wasAngle, .changeNumericValue 21001 speed] ∧
      shown wasAngle = data.status.steerAngle.toInt.natAbs ∧
      shown speed = data.status.speed.toInt.tdiv 100 := by
  have angleLow := data.status.steerAngle.le_toInt
  have angleHigh := data.status.steerAngle.toInt_lt
  have speedLow := data.status.speed.le_toInt
  have speedHigh := data.status.speed.toInt_lt
  refine ⟨_, _, rfl, ?_, ?_⟩
  · exact shown_offset _ _ (by omega) (by omega) (absValue_ofInt _)
  · have quotient := Int.natAbs_tdiv_le_natAbs data.status.speed.toInt 100
    exact shown_offset _ _ (by omega) (by omega) rfl

def GetData.record (result : GetData) : Option NewDawnData :=
  if result.returned then result.data else none

theorem getData_record (newest : Newest) (data : NewDawnData) (taken : Bool) :
    (newDawnGetData (some data) true taken newest.world.currentData).record =
      if taken then newest.latest.map record else none := by
  cases taken <;> cases known : newest.latest <;>
    simp [newDawnGetData, GetData.record, Newest.world, known, record, initialData]

theorem run_newest {env : Env} {newest : Newest} {actions : List Action}
    (misses : HandshakesMiss env newest actions) :
    actions.foldl (Action.step env) newest.world =
      (actions.foldl (Newest.step env) newest).world := by
  induction actions generalizing newest with
  | nil => rfl
  | cons action actions ih =>
    obtain ⟨miss, misses⟩ := misses
    rw [List.foldl_cons, List.foldl_cons, step_world miss, ih misses]

theorem refresh_newest {env : Env} {actions : List Action}
    (misses : HandshakesMiss env .none actions) (last tickCount : UInt32) (data : NewDawnData)
    (isConnected taken : Bool) :
    (canUpdateTask last tickCount
      { isConnected
        dawnData := (newDawnGetData (some data) true taken
          (actions.foldl (Action.step env) ⟨initialData, 0, 0⟩).currentData).record }).1 =
      if isConnected ∧ vtUpdateIntervalMs ≤ tickCount * portTickPeriodMs - last then
        some (if taken then
          (((actions.foldl (Newest.step env) .none).latest.map record).map refreshCommands).getD []
          else [])
      else none := by
  have world : actions.foldl (Action.step env) ⟨initialData, 0, 0⟩ =
      (actions.foldl (Newest.step env) .none).world := run_newest misses
  rw [world, getData_record]
  by_cases fires : isConnected ∧ vtUpdateIntervalMs ≤ tickCount * portTickPeriodMs - last
  · cases taken <;> simp [canUpdateTask, fires]
  · simp [canUpdateTask, fires]

end LittleDawn
