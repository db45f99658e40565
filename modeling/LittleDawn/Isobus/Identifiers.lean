import LittleDawn.Model.Identifier
import LittleDawn.Shared.BitField

set_option autoImplicit false

namespace LittleDawn

open BitField

def Specific (parameterGroupNumber : UInt32) : Prop :=
  parameterGroupNumber.toNat / 2 ^ 12 % 2 ^ 4 < 15

instance (parameterGroupNumber : UInt32) : Decidable (Specific parameterGroupNumber) :=
  inferInstanceAs (Decidable (_ < _))

def groupBits (parameterGroupNumber : UInt32) (destination : UInt8) : Nat :=
  if Specific parameterGroupNumber then
    parameterGroupNumber.toNat / 2 ^ 8 % 2 ^ 10 * 2 ^ 8 + destination.toNat
  else parameterGroupNumber.toNat % 2 ^ 18

theorem specific_format (parameterGroupNumber : UInt32) :
    parameterGroupNumber &&& 0xF000 < 0xF000 ↔ Specific parameterGroupNumber := by
  have field := toNat_and_field parameterGroupNumber 0xF000
    (show _ = (2 ^ 4 - 1) * 2 ^ 12 from rfl)
  have mask : (0xF000 : UInt32).toNat = 15 * 2 ^ 12 := rfl
  rw [UInt32.lt_iff_toNat_lt, field, mask, Specific]
  omega

theorem format_raw (raw : UInt32) :
    pdu2FormatMask &&& raw < pdu2FormatMask ↔ raw.toNat / 2 ^ 20 % 2 ^ 4 < 15 := by
  have field := toNat_and_field raw pdu2FormatMask (show _ = (2 ^ 4 - 1) * 2 ^ 20 from rfl)
  have mask : pdu2FormatMask.toNat = 15 * 2 ^ 20 := rfl
  rw [UInt32.lt_iff_toNat_lt, UInt32.and_comm, field, mask]
  omega

theorem groupBits_lt (parameterGroupNumber : UInt32) (destination : UInt8) :
    groupBits parameterGroupNumber destination < 2 ^ 18 := by
  have byte := destination.toNat_lt
  unfold groupBits
  split <;> omega

theorem priority_bits {priority : UInt32} (small : priority.toNat < 8) :
    (priority <<< 26).toNat = priority.toNat * 2 ^ 26 :=
  toNat_shiftLeft_fits priority 26 26 rfl (by decide) (by omega)

theorem broadcast_bits (parameterGroupNumber : UInt32) :
    ((parameterGroupNumber &&& broadcastPgnMask) <<< 8).toNat =
      parameterGroupNumber.toNat % 2 ^ 18 * 2 ^ 8 := by
  have field := toNat_and_field parameterGroupNumber broadcastPgnMask
    (show _ = (2 ^ 18 - 1) * 2 ^ 0 from rfl)
  rw [Nat.pow_zero, Nat.div_one, Nat.mul_one] at field
  rw [toNat_shiftLeft_fits _ 8 8 rfl (by decide) (by rw [field]; omega), field]

theorem specific_bits (parameterGroupNumber : UInt32) (destination : UInt8) :
    (destination.toUInt32 <<< 8 |||
        (parameterGroupNumber &&& destinationSpecificPgnMask) <<< 8).toNat =
      (parameterGroupNumber.toNat / 2 ^ 8 % 2 ^ 10 * 2 ^ 8 + destination.toNat) * 2 ^ 8 := by
  have field := toNat_and_field parameterGroupNumber destinationSpecificPgnMask
    (show _ = (2 ^ 10 - 1) * 2 ^ 8 from rfl)
  have byte := destination.toNat_lt
  have low : (destination.toUInt32 <<< 8).toNat = destination.toNat * 2 ^ 8 := by
    rw [toNat_shiftLeft_fits _ 8 8 rfl (by decide) (by rw [UInt8.toNat_toUInt32]; omega),
      UInt8.toNat_toUInt32]
  have high : ((parameterGroupNumber &&& destinationSpecificPgnMask) <<< 8).toNat =
      parameterGroupNumber.toNat / 2 ^ 8 % 2 ^ 10 * 2 ^ 16 := by
    rw [toNat_shiftLeft_fits _ 8 8 rfl (by decide) (by rw [field]; omega), field]
    omega
  have small : (destination.toUInt32 <<< 8).toNat < 2 ^ 16 := by
    rw [low]
    omega
  have multiple : 2 ^ 16 ∣ ((parameterGroupNumber &&& destinationSpecificPgnMask) <<< 8).toNat := by
    rw [high]
    exact ⟨_, Nat.mul_comm ..⟩
  rw [toNat_or_disjoint _ _ small multiple, low, high]
  omega

theorem toNat_fields {source group priority : UInt32} {level body : Nat}
    (top : priority.toNat = level * 2 ^ 26) (middle : group.toNat = body * 2 ^ 8)
    (fits : body < 2 ^ 18) (low : source.toNat < 2 ^ 8) :
    (source ||| group ||| priority).toNat = level * 2 ^ 26 + body * 2 ^ 8 + source.toNat := by
  have inner : (source ||| group).toNat = source.toNat + group.toNat :=
    toNat_or_disjoint source group low ⟨body, by rw [middle, Nat.mul_comm]⟩
  have outer : (source ||| group ||| priority).toNat = (source ||| group).toNat + priority.toNat :=
    toNat_or_disjoint _ priority (by rw [inner]; omega : _ < 2 ^ 26)
      ⟨level, by rw [top, Nat.mul_comm]⟩
  rw [outer, inner, top, middle]
  omega

theorem or_turn (top middle low : UInt32) : top ||| low ||| middle = low ||| middle ||| top := by
  ac_rfl

theorem or_back (top left right low : UInt32) :
    top ||| left ||| right ||| low = low ||| (right ||| left) ||| top := by
  ac_rfl

theorem constructFrame_identifier {sourceAddress destAddress priority : UInt8}
    {parameterGroupNumber : UInt32} {data : List UInt8} {frame : CANMessageFrame}
    (built : constructFrame sourceAddress destAddress parameterGroupNumber priority data =
      some frame) :
    frame.identifier.toNat = priority.toNat * 2 ^ 26 +
        groupBits parameterGroupNumber destAddress * 2 ^ 8 + sourceAddress.toNat ∧
      priority.toNat < 8 ∧ frame.data = data ∧
      (Specific parameterGroupNumber ∨ destAddress = broadcastCanAddress) := by
  unfold constructFrame at built
  split at built
  case isFalse => cases built
  rename_i allowed
  have small : priority.toNat < 2 ^ 3 := Nat.lt_succ_of_le (UInt8.le_iff_toNat_le.mp allowed.2.1)
  have byte := sourceAddress.toNat_lt
  have bits := groupBits_lt parameterGroupNumber destAddress
  have top : ((priority.toUInt32 &&& 0x07) <<< 26).toNat = priority.toNat * 2 ^ 26 := by
    have field := toNat_and_field priority.toUInt32 0x07 (show _ = (2 ^ 3 - 1) * 2 ^ 0 from rfl)
    rw [UInt8.toNat_toUInt32, Nat.pow_zero, Nat.div_one, Nat.mul_one, Nat.mod_eq_of_lt small]
      at field
    rw [priority_bits (by rw [field]; exact small), field]
  have low : (sourceAddress.toUInt32 &&& 0xFF).toNat = sourceAddress.toNat := by
    have field := toNat_and_field sourceAddress.toUInt32 0xFF
      (show _ = (2 ^ 8 - 1) * 2 ^ 0 from rfl)
    rwa [UInt8.toNat_toUInt32, Nat.pow_zero, Nat.div_one, Nat.mul_one, Nat.mod_eq_of_lt byte]
      at field
  -- The same fields, whichever group they have in the middle.
  have whole {group : UInt32}
      (middle : group.toNat = groupBits parameterGroupNumber destAddress * 2 ^ 8) :
      (((priority.toUInt32 &&& 0x07) <<< 26 ||| (sourceAddress.toUInt32 &&& 0xFF) ||| group) &&&
        0x1FFFFFFF).toNat = priority.toNat * 2 ^ 26 +
          groupBits parameterGroupNumber destAddress * 2 ^ 8 + sourceAddress.toNat := by
    have fields := toNat_fields top middle bits (by rw [low]; exact byte)
    have field := toNat_and_field ((sourceAddress.toUInt32 &&& 0xFF) ||| group |||
      (priority.toUInt32 &&& (0x07 : UInt32)) <<< (26 : UInt32)) 0x1FFFFFFF
        (show _ = (2 ^ 29 - 1) * 2 ^ 0 from rfl)
    rw [or_turn, field, fields, low]
    omega
  have specific (format : Specific parameterGroupNumber) :
      (destAddress.toUInt32 <<< 8 ||| (parameterGroupNumber &&& 0x3FF00) <<< 8).toNat =
        groupBits parameterGroupNumber destAddress * 2 ^ 8 := by
    rw [groupBits, if_pos format]
    exact specific_bits parameterGroupNumber destAddress
  have broadcast (format : ¬ Specific parameterGroupNumber) :
      ((parameterGroupNumber &&& 0x3FFFF) <<< 8).toNat =
        groupBits parameterGroupNumber destAddress * 2 ^ 8 := by
    rw [groupBits, if_neg format]
    exact broadcast_bits parameterGroupNumber
  have format := specific_format parameterGroupNumber
  dsimp only at built
  simp only [format, UInt32.or_assoc _ (destAddress.toUInt32 <<< 8)] at built
  split at built
  · rename_i everyone
    split at built
    · rename_i wide
      have not_specific : ¬ Specific parameterGroupNumber :=
        fun here => UInt32.not_lt.mpr wide (format.mpr here)
      cases built
      exact ⟨whole (broadcast not_specific), small, rfl, .inr everyone⟩
    · rename_i narrow
      have here : Specific parameterGroupNumber := format.mp (UInt32.not_le.mp narrow)
      cases built
      exact ⟨whole (specific here), small, rfl, .inl here⟩
  · split at built
    · rename_i here
      cases built
      exact ⟨whole (specific here), small, rfl, .inl here⟩
    · cases built

theorem create_identifier (parameterGroupNumber : UInt32) (priority : CANPriority)
    (destination source : UInt8) :
    (CANIdentifier.create .extended parameterGroupNumber priority destination
      source).rawIdentifier.toNat = priority.val * 2 ^ 26 +
      groupBits parameterGroupNumber destination * 2 ^ 8 + source.toNat := by
  have byte := source.toNat_lt
  have bits := groupBits_lt parameterGroupNumber destination
  have level : (UInt32.ofNat priority).toNat = priority :=
    UInt32.toNat_ofNat_of_lt' (Nat.lt_trans priority.isLt (by decide))
  have top : (UInt32.ofNat priority <<< 26).toNat = priority.val * 2 ^ 26 := by
    rw [priority_bits (by omega), level]
  have low : source.toUInt32.toNat = source.toNat := UInt8.toNat_toUInt32 source
  have format : (parameterGroupNumber <<< 8) &&& pdu2FormatMask < pdu2FormatMask ↔
      Specific parameterGroupNumber := by
    rw [UInt32.and_comm, format_raw, UInt32.toNat_shiftLeft, Specific]
    have amount : (8 : UInt32).toNat % 32 = 8 := rfl
    rw [amount, Nat.shiftLeft_eq]
    omega
  unfold CANIdentifier.create
  simp only [if_true]
  by_cases here : Specific parameterGroupNumber
  · have middle := specific_bits parameterGroupNumber destination
    rw [if_pos (format.mpr here), or_back]
    rw [groupBits, if_pos here] at bits ⊢
    rw [toNat_fields top middle bits (by rw [low]; exact byte), low]
  · have middle := broadcast_bits parameterGroupNumber
    rw [if_neg (mt format.mp here), UInt32.or_assoc, UInt32.or_comm,
      UInt32.or_comm _ source.toUInt32]
    rw [groupBits, if_neg here] at bits ⊢
    rw [toNat_fields top middle bits (by rw [low]; exact byte), low]

theorem getIdentifierType_standard (identifier : CANIdentifier) :
    identifier.getIdentifierType = .standard ↔ identifier.rawIdentifier.toNat ≤ 0x7FF := by
  unfold CANIdentifier.getIdentifierType
  split
  · rename_i small
    simpa using UInt32.le_iff_toNat_le.mp small
  · rename_i large
    simpa using UInt32.lt_iff_toNat_lt.mp (UInt32.not_le.mp large)

section Read

variable {identifier : CANIdentifier} {level body low : Nat}

theorem getPriority_fields (extended : identifier.getIdentifierType = .extended)
    (fields : identifier.rawIdentifier.toNat = level * 2 ^ 26 + body * 2 ^ 8 + low)
    (levels : level < 8) (bodies : body < 2 ^ 18) (bytes : low < 2 ^ 8) :
    identifier.getPriority.val = level := by
  have field := toNat_and_field (identifier.rawIdentifier >>> 26) 0x07
    (show _ = (2 ^ 3 - 1) * 2 ^ 0 from rfl)
  have amount : (26 : UInt32).toNat % 32 = 26 := rfl
  rw [CANIdentifier.getPriority, if_pos extended, Fin.val_ofNat, field, UInt32.toNat_shiftRight,
    amount, Nat.shiftRight_eq_div_pow, fields]
  omega

theorem getSourceAddress_fields (extended : identifier.getIdentifierType = .extended)
    (fields : identifier.rawIdentifier.toNat = level * 2 ^ 26 + body * 2 ^ 8 + low)
    (bytes : low < 2 ^ 8) : identifier.getSourceAddress.toNat = low := by
  have field := toNat_and_field identifier.rawIdentifier 0xFF
    (show _ = (2 ^ 8 - 1) * 2 ^ 0 from rfl)
  rw [CANIdentifier.getSourceAddress, if_pos extended, UInt32.toNat_toUInt8, field, fields]
  omega

theorem format_fields
    (fields : identifier.rawIdentifier.toNat = level * 2 ^ 26 + body * 2 ^ 8 + low)
    (bytes : low < 2 ^ 8) :
    pdu2FormatMask &&& identifier.rawIdentifier < pdu2FormatMask ↔
      body / 2 ^ 12 % 2 ^ 4 < 15 := by
  rw [format_raw, fields]
  omega

theorem body_bits (fields : identifier.rawIdentifier.toNat = level * 2 ^ 26 + body * 2 ^ 8 + low)
    (bytes : low < 2 ^ 8) : (identifier.rawIdentifier >>> 8).toNat = level * 2 ^ 18 + body := by
  have amount : (8 : UInt32).toNat % 32 = 8 := rfl
  rw [UInt32.toNat_shiftRight, amount, Nat.shiftRight_eq_div_pow, fields]
  omega

end Read

theorem specific_body (parameterGroupNumber : UInt32) (destination : UInt8) :
    groupBits parameterGroupNumber destination / 2 ^ 12 % 2 ^ 4 < 15 ↔
      Specific parameterGroupNumber := by
  have byte := destination.toNat_lt
  unfold groupBits
  split
  · rename_i here
    simp only [Specific] at here ⊢
    omega
  · rename_i other
    simp only [Specific] at other ⊢
    omega

theorem constructFrame_create {sourceAddress destAddress priority : UInt8}
    {parameterGroupNumber : UInt32} {data : List UInt8} {frame : CANMessageFrame}
    (built : constructFrame sourceAddress destAddress parameterGroupNumber priority data =
      some frame) :
    ∃ level : CANPriority, level.val = priority.toNat ∧ frame.identifier =
      (CANIdentifier.create .extended parameterGroupNumber level destAddress
        sourceAddress).rawIdentifier := by
  obtain ⟨fields, level, -, -⟩ := constructFrame_identifier built
  refine ⟨⟨priority.toNat, level⟩, rfl, ?_⟩
  apply UInt32.toNat.inj
  rw [fields, create_identifier]

theorem create_group (parameterGroupNumber : UInt32) (priority : CANPriority)
    (destination source : UInt8)
    (extended : (CANIdentifier.create .extended parameterGroupNumber priority destination
      source).getIdentifierType = .extended) :
    (CANIdentifier.create .extended parameterGroupNumber priority destination
        source).getParameterGroupNumber =
      if parameterGroupNumber &&& 0xF000 < 0xF000 then parameterGroupNumber &&& 0x3FF00
      else parameterGroupNumber &&& 0x3FFFF := by
  have raw := create_identifier parameterGroupNumber priority destination source
  have byte := destination.toNat_lt
  generalize CANIdentifier.create .extended parameterGroupNumber priority destination source =
    identifier at extended raw ⊢
  have bits := body_bits raw source.toNat_lt
  have format := (format_fields raw source.toNat_lt).trans
    (specific_body parameterGroupNumber destination)
  unfold CANIdentifier.getParameterGroupNumber
  rw [if_pos extended]
  apply UInt32.toNat.inj
  by_cases here : Specific parameterGroupNumber
  · have field := toNat_and_field (identifier.rawIdentifier >>> 8)
      destinationSpecificPgnMask (show _ = (2 ^ 10 - 1) * 2 ^ 8 from rfl)
    have mask := toNat_and_field parameterGroupNumber 0x3FF00
      (show _ = (2 ^ 10 - 1) * 2 ^ 8 from rfl)
    rw [if_pos (format.mpr here), if_pos ((specific_format _).mpr here), field, mask, bits,
      groupBits, if_pos here]
    omega
  · have field := toNat_and_field (identifier.rawIdentifier >>> 8)
      broadcastPgnMask (show _ = (2 ^ 18 - 1) * 2 ^ 0 from rfl)
    have mask := toNat_and_field parameterGroupNumber 0x3FFFF
      (show _ = (2 ^ 18 - 1) * 2 ^ 0 from rfl)
    rw [if_neg (mt format.mp here), if_neg (mt (specific_format _).mp here), field, mask, bits,
      groupBits, if_neg here]
    omega

section Built

variable {sourceAddress destAddress priority : UInt8} {parameterGroupNumber : UInt32}
  {data : List UInt8} {frame : CANMessageFrame}

theorem frame_standard
    (built : constructFrame sourceAddress destAddress parameterGroupNumber priority data =
      some frame) :
    frame.canIdentifier.getIdentifierType = .standard ↔
      priority = 0 ∧ parameterGroupNumber &&& 0x3FF00 = 0 ∧ destAddress < 8 := by
  obtain ⟨fields, -, -, -⟩ := constructFrame_identifier built
  have bytes := sourceAddress.toNat_lt
  have byte := destAddress.toNat_lt
  have raw : frame.canIdentifier.rawIdentifier.toNat = _ := fields
  have mask := toNat_and_field parameterGroupNumber 0x3FF00
    (show _ = (2 ^ 10 - 1) * 2 ^ 8 from rfl)
  rw [getIdentifierType_standard, raw, ← UInt8.toNat_inj, ← UInt32.toNat_inj, mask,
    UInt8.lt_iff_toNat_lt]
  have zero : (0 : UInt8).toNat = 0 := rfl
  have empty : (0 : UInt32).toNat = 0 := rfl
  have eight : (8 : UInt8).toNat = 8 := rfl
  rw [zero, empty, eight]
  unfold groupBits
  split
  · omega
  · rename_i other
    simp only [Specific] at other
    omega

theorem frame_source
    (built : constructFrame sourceAddress destAddress parameterGroupNumber priority data =
      some frame)
    (extended : frame.canIdentifier.getIdentifierType = .extended) :
    frame.canIdentifier.getSourceAddress = sourceAddress := by
  obtain ⟨fields, -, -, -⟩ := constructFrame_identifier built
  apply UInt8.toNat.inj
  exact getSourceAddress_fields extended fields sourceAddress.toNat_lt

theorem frame_destination
    (built : constructFrame sourceAddress destAddress parameterGroupNumber priority data =
      some frame)
    (extended : frame.canIdentifier.getIdentifierType = .extended) :
    frame.canIdentifier.getDestinationAddress = destAddress := by
  obtain ⟨fields, -, -, shape⟩ := constructFrame_identifier built
  have byte := destAddress.toNat_lt
  have raw : frame.canIdentifier.rawIdentifier.toNat = _ := fields
  have format := (format_fields raw sourceAddress.toNat_lt).trans
    (specific_body parameterGroupNumber destAddress)
  unfold CANIdentifier.getDestinationAddress
  by_cases here : Specific parameterGroupNumber
  · have field := toNat_and_field (frame.canIdentifier.rawIdentifier >>> 8) 0xFF
      (show _ = (2 ^ 8 - 1) * 2 ^ 0 from rfl)
    rw [if_pos ⟨extended, format.mpr here⟩]
    apply UInt8.toNat.inj
    rw [UInt32.toNat_toUInt8, field, body_bits raw sourceAddress.toNat_lt, groupBits,
      if_pos here]
    omega
  · rw [if_neg fun both => here (format.mp both.2)]
    exact (shape.resolve_left here).symm

theorem frame_group
    (built : constructFrame sourceAddress destAddress parameterGroupNumber priority data =
      some frame)
    (extended : frame.canIdentifier.getIdentifierType = .extended) :
    frame.canIdentifier.getParameterGroupNumber =
      if parameterGroupNumber &&& 0xF000 < 0xF000 then parameterGroupNumber &&& 0x3FF00
      else parameterGroupNumber &&& 0x3FFFF := by
  obtain ⟨level, -, same⟩ := constructFrame_create built
  have whole : frame.canIdentifier = CANIdentifier.create .extended parameterGroupNumber level
      destAddress sourceAddress := by
    rw [CANMessageFrame.canIdentifier, same]
  rw [whole] at extended ⊢
  exact create_group parameterGroupNumber level destAddress sourceAddress extended

/-- A frame is read as it was sent: with its priority, its source, its destination and all of its
group that is sent. Only a frame whose identifier is small is taken for one of the old format. -/
theorem frame_read
    (built : constructFrame sourceAddress destAddress parameterGroupNumber priority data =
      some frame) :
    (frame.canIdentifier.getIdentifierType = .standard ↔
        priority = 0 ∧ parameterGroupNumber &&& 0x3FF00 = 0 ∧ destAddress < 8) ∧
      (frame.canIdentifier.getIdentifierType = .extended →
        frame.canIdentifier.getPriority.val = priority.toNat ∧
          frame.canIdentifier.getSourceAddress = sourceAddress ∧
          frame.canIdentifier.getDestinationAddress = destAddress ∧
          frame.canIdentifier.getParameterGroupNumber =
            if parameterGroupNumber &&& 0xF000 < 0xF000 then parameterGroupNumber &&& 0x3FF00
            else parameterGroupNumber &&& 0x3FFFF) := by
  refine ⟨frame_standard built, fun extended => ?_⟩
  obtain ⟨fields, level, -, -⟩ := constructFrame_identifier built
  have bodies := groupBits_lt parameterGroupNumber destAddress
  have priorities : frame.canIdentifier.getPriority.val = priority.toNat :=
    getPriority_fields extended fields level bodies sourceAddress.toNat_lt
  exact ⟨priorities, frame_source built extended, frame_destination built extended,
    frame_group built extended⟩

end Built

def sampleFrame : CANMessageFrame :=
  { identifier := 0x1CE7261C, data := [0x12], isExtendedFrame := true }

theorem frame_read_sample :
    (sampleFrame.canIdentifier.getIdentifierType = .standard ↔
        (7 : UInt8) = 0 ∧ (0xE700 : UInt32) &&& 0x3FF00 = 0 ∧ (0x26 : UInt8) < 8) ∧
      (sampleFrame.canIdentifier.getIdentifierType = .extended →
        sampleFrame.canIdentifier.getPriority.val = (7 : UInt8).toNat ∧
          sampleFrame.canIdentifier.getSourceAddress = 0x1C ∧
          sampleFrame.canIdentifier.getDestinationAddress = 0x26 ∧
          sampleFrame.canIdentifier.getParameterGroupNumber =
            if (0xE700 : UInt32) &&& 0xF000 < 0xF000 then 0xE700 &&& 0x3FF00
            else 0xE700 &&& 0x3FFFF) :=
  frame_read (show constructFrame 0x1C 0x26 0xE700 7 [0x12] = some sampleFrame by decide)

end LittleDawn
