import Mathlib.Data.UInt

set_option autoImplicit false

namespace LittleDawn

inductive IdentifierType where
  | standard
  | extended
  deriving DecidableEq, Repr

abbrev CANPriority := Fin 8

abbrev CANPriority.priorityDefault6 : CANPriority := 6

structure CANIdentifier where
  rawIdentifier : UInt32
  deriving DecidableEq, Repr

abbrev globalAddress : UInt8 := 0xFF
abbrev nullCanAddress : UInt8 := 0xFE
abbrev broadcastCanAddress : UInt8 := 0xFF
abbrev undefinedParameterGroupNumber : UInt32 := 0xFFFFFFFF
abbrev broadcastPgnMask : UInt32 := 0x0003FFFF
abbrev destinationSpecificPgnMask : UInt32 := 0x0003FF00
abbrev pdu2FormatMask : UInt32 := 0x00F00000

-- `CANIdentifier(Type, pgn, priority, destination, source)`.
def CANIdentifier.create (identifierType : IdentifierType) (pgn : UInt32)
    (priority : CANPriority) (destinationAddress sourceAddress : UInt8) : CANIdentifier :=
  let identifier :=
    if identifierType = .extended then
      let identifier := UInt32.ofNat priority <<< 26
      if (pgn <<< 8) &&& pdu2FormatMask < pdu2FormatMask then
        identifier ||| (pgn &&& destinationSpecificPgnMask) <<< 8 |||
          destinationAddress.toUInt32 <<< 8
      else identifier ||| (pgn &&& broadcastPgnMask) <<< 8
    else 0
  { rawIdentifier := identifier ||| sourceAddress.toUInt32 }

-- The bits decide; the flag of the frame is not looked at.
def CANIdentifier.getIdentifierType (identifier : CANIdentifier) : IdentifierType :=
  if identifier.rawIdentifier ≤ 0x7FF then .standard else .extended

def CANIdentifier.getPriority (identifier : CANIdentifier) : CANPriority :=
  if identifier.getIdentifierType = .extended then
    Fin.ofNat 8 ((identifier.rawIdentifier >>> 26) &&& 0x07).toNat
  else 0

def CANIdentifier.getParameterGroupNumber (identifier : CANIdentifier) : UInt32 :=
  if identifier.getIdentifierType = .extended then
    if pdu2FormatMask &&& identifier.rawIdentifier < pdu2FormatMask then
      (identifier.rawIdentifier >>> 8) &&& destinationSpecificPgnMask
    else (identifier.rawIdentifier >>> 8) &&& broadcastPgnMask
  else undefinedParameterGroupNumber

def CANIdentifier.getDestinationAddress (identifier : CANIdentifier) : UInt8 :=
  if identifier.getIdentifierType = .extended ∧
      pdu2FormatMask &&& identifier.rawIdentifier < pdu2FormatMask then
    ((identifier.rawIdentifier >>> 8) &&& 0xFF).toUInt8
  else globalAddress

def CANIdentifier.getSourceAddress (identifier : CANIdentifier) : UInt8 :=
  if identifier.getIdentifierType = .extended then (identifier.rawIdentifier &&& 0xFF).toUInt8
  else globalAddress

structure CANMessageFrame where
  identifier : UInt32
  data : List UInt8
  isExtendedFrame : Bool
  deriving DecidableEq, Repr

def CANMessageFrame.canIdentifier (frame : CANMessageFrame) : CANIdentifier :=
  { rawIdentifier := frame.identifier }

-- Without a frame nothing is sent: the identifier has its default value.
def constructFrame (sourceAddress destAddress : UInt8) (parameterGroupNumber : UInt32)
    (priority : UInt8) (data : List UInt8) : Option CANMessageFrame :=
  if destAddress ≠ nullCanAddress ∧ priority ≤ 7 ∧ data.length ≤ 8 then
    let identifier :=
      (priority.toUInt32 &&& 0x07) <<< 26 ||| (sourceAddress.toUInt32 &&& 0xFF)
    let specific := identifier ||| destAddress.toUInt32 <<< 8 |||
      (parameterGroupNumber &&& 0x3FF00) <<< 8
    let identifier :=
      if destAddress = broadcastCanAddress then
        if 0xF000 ≤ parameterGroupNumber &&& 0xF000 then
          some (identifier ||| (parameterGroupNumber &&& 0x3FFFF) <<< 8)
        else some specific
      else if parameterGroupNumber &&& 0xF000 < 0xF000 then some specific
      -- A broadcast group cannot be sent to one destination.
      else none
    identifier.map fun identifier =>
      { identifier := identifier &&& 0x1FFFFFFF, data, isExtendedFrame := true }
  else none

def getControlFunction {κ : Type} (controlFunctionTable : UInt8 → Option κ) (address : UInt8) :
    Option κ :=
  if address < nullCanAddress then controlFunctionTable address else none

end LittleDawn
