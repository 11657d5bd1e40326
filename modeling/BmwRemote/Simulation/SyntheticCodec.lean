import BmwRemote.Infrastructure.FrameAssembly
import BmwRemote.Lib.Bytes
import BmwRemote.Simulation.SyntheticCan
import Mathlib.Tactic.IntervalCases

/-! The synthetic frames and what is decoded from them: a state in range comes back as it was,
and a frame that is decoded is the one that its state makes. -/
namespace BmwRemote.Simulation

open BmwRemote.Domain BmwRemote.Infrastructure BmwRemote.Lib
open SyntheticCanProtocol

inductive SyntheticState where
  | powertrain (state : SyntheticPowertrainState)
  | body (state : SyntheticBodyState)
  | telemetry (state : SyntheticTelemetryState)

namespace SyntheticState

def frame (timestampMs : UInt32) : SyntheticState → CanFrame
  | .powertrain state => makeSyntheticPowertrainFrame timestampMs state
  | .body state => makeSyntheticBodyFrame timestampMs state
  | .telemetry state => makeSyntheticTelemetryFrame timestampMs state

def signals : SyntheticState → List DecodedSignal
  | .powertrain state =>
    [⟨some .engineRpm, wordValue state.engineRpm⟩,
      ⟨some .batteryMillivolts, wordValue state.batteryMillivolts⟩,
      ⟨some .transmission, byteValue state.transmission⟩, ⟨some .gear, byteValue state.gear⟩,
      ⟨some .criticalFaultPresent, flagValue state.criticalFaultPresent⟩]
  | .body state =>
    [⟨some .hoodClosed, flagValue state.hoodClosed⟩,
      ⟨some .doorsClosed, flagValue state.doorsClosed⟩,
      ⟨some .trunkClosed, flagValue state.trunkClosed⟩,
      ⟨some .brakePressed, flagValue state.brakePressed⟩,
      ⟨some .parkingBrakeApplied, flagValue state.parkingBrakeApplied⟩]
  | .telemetry state =>
    [⟨some .coolantTemperatureC, integerValue state.coolantTemperatureC⟩,
      ⟨some .engineOilTemperatureC, integerValue state.engineOilTemperatureC⟩,
      ⟨some .transmissionOilTemperatureC, integerValue state.transmissionOilTemperatureC⟩,
      ⟨some .dpfRegenerationActive, flagValue state.dpfRegenerationActive⟩]

def InRange (state : SyntheticState) : Prop :=
  ∀ entry ∈ state.signals, validateSignal entry = true

def Shown (vehicle : VehicleState) : SyntheticState → Prop
  | .powertrain state =>
    vehicle.engineRpm = .ofFresh state.engineRpm ∧
      vehicle.batteryMillivolts = .ofFresh state.batteryMillivolts ∧
      vehicle.transmission = .ofFresh (transmissionOf (byteValue state.transmission)) ∧
      vehicle.gear = .ofFresh (gearOf (byteValue state.gear)) ∧
      vehicle.criticalFaultPresent = .ofFresh state.criticalFaultPresent
  | .body state =>
    vehicle.hoodClosed = .ofFresh state.hoodClosed ∧
      vehicle.doorsClosed = .ofFresh state.doorsClosed ∧
      vehicle.trunkClosed = .ofFresh state.trunkClosed ∧
      vehicle.brakePressed = .ofFresh state.brakePressed ∧
      vehicle.parkingBrakeApplied = .ofFresh state.parkingBrakeApplied
  | .telemetry state =>
    vehicle.coolantTemperatureC = .ofFresh state.coolantTemperatureC ∧
      vehicle.engineOilTemperatureC = .ofFresh state.engineOilTemperatureC ∧
      vehicle.transmissionOilTemperatureC = .ofFresh state.transmissionOilTemperatureC ∧
      vehicle.dpfRegenerationActive = .ofFresh state.dpfRegenerationActive

end SyntheticState

structure SameBytes (first second : CanFrame) : Prop where
  identifier : first.identifier = second.identifier
  extended : first.extended = second.extended
  dataLength : first.dataLength = second.dataLength
  data : first.data = second.data

/-! Words. -/

theorem decode_encode_word (value : UInt16) :
    decodeLittleEndian16 (encodeLittleEndian16 value).1 (encodeLittleEndian16 value).2 = value :=
  readU16_write value []

theorem encode_decode_word (low high : UInt8) :
    encodeLittleEndian16 (decodeLittleEndian16 low high) = (low, high) := by
  have hbytes := writeU16_readU16 [low, high] 0
  change [(encodeLittleEndian16 (decodeLittleEndian16 low high)).1,
    (encodeLittleEndian16 (decodeLittleEndian16 low high)).2] = [low, high] at hbytes
  rw [List.cons.injEq, List.cons.injEq] at hbytes
  exact Prod.ext hbytes.1 hbytes.2.1

/-! Bytes, one by one. -/

theorem forall_byte {P : UInt8 → Prop} (h : ∀ value < 256, P (UInt8.ofNat value)) (byte : UInt8) :
    P byte := by
  have hbyte := h byte.toNat byte.toNat_lt
  rwa [UInt8.ofNat_toNat] at hbyte

theorem decoded_temperature : ∀ byte,
    validSyntheticTemperature (decodeSyntheticTemperature byte).toInt16 = true ∧
      encodeSyntheticTemperature (decodeSyntheticTemperature byte).toInt16 = byte ∧
      integerValue (decodeSyntheticTemperature byte).toInt16 = decodeSyntheticTemperature byte := by
  refine forall_byte ?_
  decide +kernel

theorem encoded_temperature {temperatureC : Int16}
    (h : validSyntheticTemperature temperatureC = true) :
    decodeSyntheticTemperature (encodeSyntheticTemperature temperatureC) =
      integerValue temperatureC := by
  rw [validSyntheticTemperature, Bool.and_eq_true, decide_eq_true_eq, decide_eq_true_eq,
    Int16.le_iff_toInt_le, Int16.le_iff_toInt_le] at h
  have hbottom : (-40 : Int16).toInt = -40 := by decide
  have htop : (215 : Int16).toInt = 215 := by decide
  have hall : ∀ value : Nat, value < 256 → decodeSyntheticTemperature
      (encodeSyntheticTemperature (Int16.ofInt ((value : Int) - 40))) =
        integerValue (Int16.ofInt ((value : Int) - 40)) := by
    decide +kernel
  have htemperature := hall (temperatureC.toInt + 40).toNat (by omega)
  have hvalue : ((temperatureC.toInt + 40).toNat : Int) - 40 = temperatureC.toInt := by omega
  rwa [hvalue, Int16.ofInt_toInt] at htemperature

theorem validSyntheticTemperature_iff (temperatureC : Int16) :
    validSyntheticTemperature temperatureC = true ↔
      -40 ≤ integerValue temperatureC ∧ integerValue temperatureC ≤ 215 := by
  have hbottom : (-40 : Int16).toInt = (-40 : Int32).toInt := by decide
  have htop : (215 : Int16).toInt = (215 : Int32).toInt := by decide
  rw [validSyntheticTemperature, Bool.and_eq_true, decide_eq_true_eq, decide_eq_true_eq,
    Int16.le_iff_toInt_le, Int16.le_iff_toInt_le, Int32.le_iff_toInt_le, Int32.le_iff_toInt_le,
    integerValue, Int16.toInt_toInt32, hbottom, htop]

theorem byteValue_flag : ∀ byte, 0 ≤ byteValue byte → byteValue byte ≤ 1 →
    flagValue (byte != 0) = byteValue byte ∧ (if byte != 0 then 1 else 0) = byte := by
  refine forall_byte ?_
  decide +kernel

def flagAt (flags place : UInt8) : Bool := (flags >>> place) &&& 0x01 != 0

theorem decoded_flags : ∀ flags : UInt8, flags &&& 0xE0 = 0 →
    (∀ place ∈ [0, 1, 2, 3, 4],
      byteValue ((flags >>> place) &&& 0x01) = flagValue (flagAt flags place)) ∧
    flagBit (flagAt flags 0) 0 ||| flagBit (flagAt flags 1) 1 ||| flagBit (flagAt flags 2) 2 |||
      flagBit (flagAt flags 3) 3 ||| flagBit (flagAt flags 4) 4 = flags := by
  refine forall_byte ?_
  decide +kernel

theorem encoded_flags : ∀ hood doors trunk brake parking : Bool,
    let flags := flagBit hood 0 ||| flagBit doors 1 ||| flagBit trunk 2 ||| flagBit brake 3 |||
      flagBit parking 4
    flags &&& 0xE0 = 0 ∧ byteValue ((flags >>> 0) &&& 0x01) = flagValue hood ∧
      byteValue ((flags >>> 1) &&& 0x01) = flagValue doors ∧
      byteValue ((flags >>> 2) &&& 0x01) = flagValue trunk ∧
      byteValue ((flags >>> 3) &&& 0x01) = flagValue brake ∧
      byteValue ((flags >>> 4) &&& 0x01) = flagValue parking := by
  decide +kernel

theorem encoded_switch : ∀ flag : Bool, (if flag then 1 else 0) &&& (0xFE : UInt8) = 0 ∧
    byteValue ((if flag then 1 else 0) &&& 0x01) = flagValue flag := by
  decide

theorem decoded_switch : ∀ byte : UInt8, byte &&& 0xFE = 0 →
    byteValue (byte &&& 0x01) = flagValue (byte != 0) ∧ (if byte != 0 then 1 else 0) = byte := by
  refine forall_byte ?_
  decide +kernel

/-! Frames. -/

section Frames

variable {frame : CanFrame} {timestampMs : UInt32} {state : SyntheticState}

theorem data_eq (data : Vector UInt8 8) : data = #v[data.get 0, data.get 1, data.get 2, data.get 3,
    data.get 4, data.get 5, data.get 6, data.get 7] := by
  apply Vector.ext
  intro index hindex
  interval_cases index <;> rfl

theorem reserved_eq_zero {places : List (Fin 8)} (h : reservedBytesUsed frame places = false)
    {place : Fin 8} (hmem : place ∈ places) : frame.data.get place = 0 := by
  have hnone := List.any_eq_false.mp h place hmem
  simpa using hnone

structure Batch (batch : DecodedSignalBatch) (signals : List DecodedSignal) : Prop where
  taken : batch.taken = signals
  count : batch.count = signals.length

structure Formatted (frame : CanFrame) (identifier : UInt32) : Prop where
  identifier : frame.identifier = identifier
  extended : frame.extended = true
  dataLength : frame.dataLength = CanFrame.maximumDataLength
  signature : frame.data.get 7 = signature

/-- The signals in a frame that keeps to the format of its identifier. -/
inductive Encodes (frame : CanFrame) : List DecodedSignal → Prop where
  | powertrain (format : Formatted frame powertrainFrameIdentifier) : Encodes frame
      [⟨some .engineRpm, wordValue (decodeLittleEndian16 (frame.data.get 0) (frame.data.get 1))⟩,
        ⟨some .batteryMillivolts,
          wordValue (decodeLittleEndian16 (frame.data.get 2) (frame.data.get 3))⟩,
        ⟨some .transmission, byteValue (frame.data.get 4)⟩,
        ⟨some .gear, byteValue (frame.data.get 5)⟩,
        ⟨some .criticalFaultPresent, byteValue (frame.data.get 6)⟩]
  | body (format : Formatted frame bodyFrameIdentifier)
      (reserved : reservedBytesUsed frame [1, 2, 3, 4, 5, 6] = false)
      (flags : frame.data.get 0 &&& 0xE0 = 0) : Encodes frame
      [⟨some .hoodClosed, byteValue ((frame.data.get 0 >>> 0) &&& 0x01)⟩,
        ⟨some .doorsClosed, byteValue ((frame.data.get 0 >>> 1) &&& 0x01)⟩,
        ⟨some .trunkClosed, byteValue ((frame.data.get 0 >>> 2) &&& 0x01)⟩,
        ⟨some .brakePressed, byteValue ((frame.data.get 0 >>> 3) &&& 0x01)⟩,
        ⟨some .parkingBrakeApplied, byteValue ((frame.data.get 0 >>> 4) &&& 0x01)⟩]
  | telemetry (format : Formatted frame telemetryFrameIdentifier)
      (reserved : reservedBytesUsed frame [4, 5, 6] = false)
      (switch : frame.data.get 3 &&& 0xFE = 0) : Encodes frame
      [⟨some .coolantTemperatureC, decodeSyntheticTemperature (frame.data.get 0)⟩,
        ⟨some .engineOilTemperatureC, decodeSyntheticTemperature (frame.data.get 1)⟩,
        ⟨some .transmissionOilTemperatureC, decodeSyntheticTemperature (frame.data.get 2)⟩,
        ⟨some .dpfRegenerationActive, byteValue (frame.data.get 3 &&& 0x01)⟩]

theorem exists_encodes (h : (syntheticCanDecoder.decode frame {}).1 = .decoded) :
    ∃ signals, Encodes frame signals := by
  unfold syntheticCanDecoder at h
  dsimp only at h
  split at h
  · cases h
  rename_i hidentifier
  split at h
  · cases h
  rename_i hformat
  simp only [not_or, Bool.not_eq_false, not_not] at hformat
  have hformatted {identifier : UInt32} (heq : frame.identifier = identifier) :
      Formatted frame identifier :=
    ⟨heq, hformat.1, hformat.2.1, hformat.2.2⟩
  split at h
  · rename_i hpowertrain
    exact ⟨_, .powertrain (hformatted hpowertrain)⟩
  rename_i hpowertrain
  split at h
  · rename_i htelemetry
    split at h
    · cases h
    rename_i hswitch
    split at h
    · cases h
    rename_i hreserved
    exact ⟨_, .telemetry (hformatted htelemetry) (Bool.eq_false_iff.mpr hreserved)
      (not_not.mp hswitch)⟩
  rename_i htelemetry
  split at h
  · cases h
  rename_i hreserved
  split at h
  · cases h
  rename_i hflags
  have hbody : frame.identifier = bodyFrameIdentifier := by
    by_contra hbody
    exact hidentifier ⟨hpowertrain, hbody, htelemetry⟩
  exact ⟨_, .body (hformatted hbody) (Bool.eq_false_iff.mpr hreserved) (not_not.mp hflags)⟩

theorem Encodes.decode {signals : List DecodedSignal} (h : Encodes frame signals) :
    (syntheticCanDecoder.decode frame {}).1 = .decoded ∧
      Batch (syntheticCanDecoder.decode frame {}).2 signals := by
  have hknown {identifier : UInt32} (hformat : Formatted frame identifier) :
      ¬(frame.extended = false ∨ frame.dataLength ≠ CanFrame.maximumDataLength ∨
        frame.data.get 7 ≠ signature) := by
    simp [hformat.extended, hformat.dataLength, hformat.signature]
  unfold syntheticCanDecoder
  dsimp only
  cases h with
  | powertrain format =>
    rw [if_neg (by simp [format.identifier]), if_neg (hknown format), if_pos format.identifier]
    exact ⟨rfl, rfl, rfl⟩
  | body format reserved flags =>
    rw [if_neg (by simp [format.identifier]), if_neg (hknown format),
      if_neg (by rw [format.identifier]; decide), if_neg (by rw [format.identifier]; decide),
      if_neg (by rw [reserved]; decide), if_neg (not_not.mpr flags)]
    exact ⟨rfl, rfl, rfl⟩
  | telemetry format reserved switch =>
    rw [if_neg (by simp [format.identifier]), if_neg (hknown format),
      if_neg (by rw [format.identifier]; decide), if_pos format.identifier,
      if_neg (not_not.mpr switch), if_neg (by rw [reserved]; decide)]
    exact ⟨rfl, rfl, rfl⟩

theorem byteValue_bit (flag : Bool) : byteValue (if flag then 1 else 0) = flagValue flag := by
  cases flag <;> decide

theorem temperature_of_inRange {signal : VehicleSignal} {temperatureC : Int16}
    (hsignal : signal = .coolantTemperatureC ∨ signal = .engineOilTemperatureC ∨
      signal = .transmissionOilTemperatureC) :
    validateSignal ⟨some signal, integerValue temperatureC⟩ =
      validSyntheticTemperature temperatureC := by
  rw [Bool.eq_iff_iff, validSyntheticTemperature_iff]
  rcases hsignal with rfl | rfl | rfl <;> simp [validateSignal]

theorem SyntheticState.frame_cases (state : SyntheticState) (timestampMs : UInt32) :
    Encodes (state.frame timestampMs) state.signals ∨
      (state.frame timestampMs = {} ∧ ¬state.InRange) := by
  cases state with
  | powertrain state =>
    have hframe := @Encodes.powertrain (makeSyntheticPowertrainFrame timestampMs state)
      ⟨rfl, rfl, rfl, rfl⟩
    change Encodes _ [⟨_, wordValue (decodeLittleEndian16
        (encodeLittleEndian16 state.engineRpm).1 (encodeLittleEndian16 state.engineRpm).2)⟩,
      ⟨_, wordValue (decodeLittleEndian16 (encodeLittleEndian16 state.batteryMillivolts).1
        (encodeLittleEndian16 state.batteryMillivolts).2)⟩,
      _, _, ⟨_, byteValue (if state.criticalFaultPresent then 1 else 0)⟩] at hframe
    rw [decode_encode_word, decode_encode_word, byteValue_bit] at hframe
    exact .inl hframe
  | body state =>
    obtain ⟨hood, doors, trunk, brake, parking⟩ := state
    obtain ⟨hflags, hhood, hdoors, htrunk, hbrake, hparking⟩ :=
      encoded_flags hood doors trunk brake parking
    rw [SyntheticState.signals, ← hhood, ← hdoors, ← htrunk, ← hbrake, ← hparking]
    exact .inl (@Encodes.body
      (makeSyntheticBodyFrame timestampMs ⟨hood, doors, trunk, brake, parking⟩)
      ⟨rfl, rfl, rfl, rfl⟩ rfl hflags)
  | telemetry state =>
    obtain ⟨coolant, oil, transmissionOil, regeneration⟩ := state
    rw [SyntheticState.frame, makeSyntheticTelemetryFrame]
    split
    · rename_i hunfit
      refine .inr ⟨rfl, fun hrange => ?_⟩
      rw [SyntheticState.InRange, SyntheticState.signals] at hrange
      simp only [List.forall_mem_cons] at hrange
      obtain ⟨hcoolant, hoil, htransmissionOil, -⟩ := hrange
      rw [temperature_of_inRange (.inl rfl)] at hcoolant
      rw [temperature_of_inRange (.inr (.inl rfl))] at hoil
      rw [temperature_of_inRange (.inr (.inr rfl))] at htransmissionOil
      simp [hcoolant, hoil, htransmissionOil] at hunfit
    · rename_i hfit
      simp only [Bool.or_eq_true, Bool.not_eq_true', not_or, Bool.not_eq_false] at hfit
      obtain ⟨⟨hcoolant, hoil⟩, htransmissionOil⟩ := hfit
      obtain ⟨hswitch, hregeneration⟩ := encoded_switch regeneration
      rw [SyntheticState.signals, ← encoded_temperature hcoolant, ← encoded_temperature hoil,
        ← encoded_temperature htransmissionOil, ← hregeneration]
      exact .inl (@Encodes.telemetry (syntheticFrame timestampMs telemetryFrameIdentifier _)
        ⟨rfl, rfl, rfl, rfl⟩ rfl hswitch)

theorem Encodes.exists_state {signals : List DecodedSignal} (h : Encodes frame signals)
    (hrange : ∀ entry ∈ signals, validateSignal entry = true) :
    ∃ state : SyntheticState, state.signals = signals ∧
      ∀ timestampMs, SameBytes frame (state.frame timestampMs) := by
  cases h with
  | powertrain format =>
    simp only [List.forall_mem_cons, validateSignal, Bool.and_eq_true, decide_eq_true_eq] at hrange
    obtain ⟨-, -, -, -, hfault, -⟩ := hrange
    obtain ⟨hvalue, hbyte⟩ := byteValue_flag (frame.data.get 6) hfault.1 hfault.2
    refine ⟨.powertrain ⟨decodeLittleEndian16 (frame.data.get 2) (frame.data.get 3),
      decodeLittleEndian16 (frame.data.get 0) (frame.data.get 1), frame.data.get 4,
      frame.data.get 5, frame.data.get 6 != 0⟩, by rw [SyntheticState.signals, hvalue],
      fun timestampMs => ⟨format.identifier, format.extended, format.dataLength,
        (data_eq frame.data).trans ?_⟩⟩
    rw [SyntheticState.frame, makeSyntheticPowertrainFrame, syntheticFrame]
    simp only [encode_decode_word, hbyte, format.signature]
  | body format reserved flags =>
    obtain ⟨hvalues, hflags⟩ := decoded_flags (frame.data.get 0) flags
    have hzero {place : Fin 8} (hmem : place ∈ [1, 2, 3, 4, 5, 6]) : frame.data.get place = 0 :=
      reserved_eq_zero reserved hmem
    refine ⟨.body ⟨flagAt (frame.data.get 0) 0, flagAt (frame.data.get 0) 1,
      flagAt (frame.data.get 0) 2, flagAt (frame.data.get 0) 3, flagAt (frame.data.get 0) 4⟩, ?_,
      fun timestampMs => ⟨format.identifier, format.extended, format.dataLength,
        (data_eq frame.data).trans ?_⟩⟩
    · rw [SyntheticState.signals, hvalues 0 (by decide), hvalues 1 (by decide),
        hvalues 2 (by decide), hvalues 3 (by decide), hvalues 4 (by decide)]
    · rw [SyntheticState.frame, makeSyntheticBodyFrame, syntheticFrame]
      simp only [hflags, hzero (show 1 ∈ _ by decide), hzero (show 2 ∈ _ by decide),
        hzero (show 3 ∈ _ by decide), hzero (show 4 ∈ _ by decide), hzero (show 5 ∈ _ by decide),
        hzero (show 6 ∈ _ by decide), format.signature]
  | telemetry format reserved switch =>
    obtain ⟨hvalue, hswitch⟩ := decoded_switch (frame.data.get 3) switch
    have hzero {place : Fin 8} (hmem : place ∈ [4, 5, 6]) : frame.data.get place = 0 :=
      reserved_eq_zero reserved hmem
    obtain ⟨hcoolant, hcoolantByte, hcoolantValue⟩ := decoded_temperature (frame.data.get 0)
    obtain ⟨hoil, hoilByte, hoilValue⟩ := decoded_temperature (frame.data.get 1)
    obtain ⟨htransmission, htransmissionByte, htransmissionValue⟩ :=
      decoded_temperature (frame.data.get 2)
    refine ⟨.telemetry ⟨(decodeSyntheticTemperature (frame.data.get 0)).toInt16,
      (decodeSyntheticTemperature (frame.data.get 1)).toInt16,
      (decodeSyntheticTemperature (frame.data.get 2)).toInt16, frame.data.get 3 != 0⟩, ?_,
      fun timestampMs => ?_⟩
    · rw [SyntheticState.signals, hcoolantValue, hoilValue, htransmissionValue, hvalue]
    · rw [SyntheticState.frame, makeSyntheticTelemetryFrame,
        if_neg (by simp [hcoolant, hoil, htransmission])]
      refine ⟨format.identifier, format.extended, format.dataLength, (data_eq frame.data).trans ?_⟩
      rw [syntheticFrame]
      simp only [hcoolantByte, hoilByte, htransmissionByte, hswitch,
        hzero (show 4 ∈ _ by decide), hzero (show 5 ∈ _ by decide), hzero (show 6 ∈ _ by decide),
        format.signature]

/-! The assembler. -/

theorem validateSignals_of_valid {previous signals : List DecodedSignal}
    (hvalid : ∀ entry ∈ signals, validateSignal entry = true)
    (hnodup : ((previous ++ signals).map DecodedSignal.signal).Nodup) :
    validateSignals previous signals = true := by
  induction signals generalizing previous with
  | nil => rfl
  | cons entry signals ih =>
    rw [List.forall_mem_cons] at hvalid
    have hrest : ((previous ++ [entry] ++ signals).map DecodedSignal.signal).Nodup := by
      rwa [List.append_assoc]
    have hnew : previous.any (fun earlier => earlier.signal == entry.signal) = false := by
      rw [List.any_eq_false]
      intro earlier hmem heq
      rw [List.map_append, List.nodup_append] at hnodup
      exact hnodup.2.2 _ (List.mem_map_of_mem hmem) _ (List.mem_cons_self ..) (beq_iff_eq.mp heq)
    rw [validateSignals, hvalid.1, hnew, ih hvalid.2 hrest]
    rfl

theorem SyntheticState.nodup_signals (state : SyntheticState) :
    (state.signals.map DecodedSignal.signal).Nodup := by
  cases state <;> simp [SyntheticState.signals]

theorem SyntheticState.length_signals (state : SyntheticState) :
    state.signals.length ≠ 0 ∧ state.signals.length ≤ DecodedSignalBatch.maximumSignals := by
  cases state <;> simp [SyntheticState.signals, DecodedSignalBatch.maximumSignals]

theorem Batch.validateBatch {batch : DecodedSignalBatch} (h : Batch batch state.signals) :
    validateBatch batch = true ↔ state.InRange := by
  rw [Infrastructure.validateBatch, h.count, h.taken, decide_eq_true state.length_signals.2,
    Bool.true_and]
  constructor
  · intro hvalid
    exact (validateSignals_sound hvalid).1
  · intro hrange
    exact validateSignals_of_valid hrange state.nodup_signals

theorem SyntheticState.frame_valid (state : SyntheticState) (timestampMs : UInt32) :
    (state.frame timestampMs).isValid = true := by
  cases state with
  | powertrain | body => rfl
  | telemetry state =>
    rw [SyntheticState.frame, makeSyntheticTelemetryFrame]
    split <;> rfl

theorem timestamp_eq (timestampMs identifier : UInt32) (data : Vector UInt8 8) :
    (syntheticFrame timestampMs identifier data).timestampMilliseconds = timestampMs := by
  have hlt : timestampMs.toNat < 2 ^ 32 := timestampMs.toNat_lt
  have hmicroseconds : (timestampMs.toUInt64 * 1000).toNat = timestampMs.toNat * 1000 := by
    rw [UInt64.toNat_mul, UInt32.toNat_toUInt64]
    exact Nat.mod_eq_of_lt (by change timestampMs.toNat * 1000 < 2 ^ 64; omega)
  apply UInt32.toNat_inj.mp
  rw [CanFrame.timestampMilliseconds, syntheticFrame, UInt64.toNat_toUInt32, UInt64.toNat_div,
    hmicroseconds, show (1000 : UInt64).toNat = 1000 from rfl, Nat.mul_div_cancel _ (by decide)]
  exact Nat.mod_eq_of_lt hlt

theorem SyntheticState.timestamp_frame (h : Encodes (state.frame timestampMs) state.signals) :
    (state.frame timestampMs).timestampMilliseconds = timestampMs := by
  cases state with
  | powertrain | body => exact timestamp_eq ..
  | telemetry state =>
    rw [SyntheticState.frame, makeSyntheticTelemetryFrame] at h ⊢
    split
    · rename_i hunfit
      rw [if_pos hunfit] at h
      generalize hsignals : (SyntheticState.telemetry state).signals = signals at h
      cases h with
      | powertrain format | body format | telemetry format => cases format.extended
    · exact timestamp_eq ..

/-! What a vehicle shows. -/

section Shown

variable {T : Type} [Inhabited T] {stored : StoredSignal T} {cast : T → Int32} {value : T}

theorem observe_now (hcast : Function.Injective cast)
    (h : stored.map cast = ⟨cast value, timestampMs, true⟩) (maximumAgeMs : UInt32) :
    stored.observe timestampMs maximumAgeMs = .ofFresh value := by
  have hstored : stored = ⟨value, timestampMs, true⟩ := StoredSignal.map_injective hcast h
  rw [hstored, StoredSignal.observe]
  simp [Observed.ofFresh]

end Shown

def Stored (stored : StoredSignals) (timestampMs : UInt32) (state : SyntheticState) : Prop :=
  ∀ entry ∈ state.signals, ∃ signal, entry.signal = some signal ∧
    stored.reading signal = ⟨entry.value, timestampMs, true⟩

theorem Stored.shown {stored : StoredSignals} (h : Stored stored timestampMs state)
    (hrange : state.InRange) (freshness : SignalFreshnessConfig) :
    state.Shown (stored.snapshot freshness timestampMs) := by
  unfold Stored at h
  unfold SyntheticState.InRange at hrange
  cases state with
  | powertrain state =>
    simp only [SyntheticState.signals, List.forall_mem_cons, Option.some.injEq,
      exists_eq_left'] at h
    simp only [SyntheticState.signals, List.forall_mem_cons, validateSignal, Bool.and_eq_true,
      decide_eq_true_eq] at hrange
    obtain ⟨hrpm, hbattery, htransmission, hgear, hfault, -⟩ := h
    obtain ⟨-, -, htransmissionRange, hgearRange, -⟩ := hrange
    rw [← transmissionValue_cast htransmissionRange.1 htransmissionRange.2] at htransmission
    rw [← gearValue_cast hgearRange.1 hgearRange.2] at hgear
    exact ⟨observe_now wordValue_injective hrpm _, observe_now wordValue_injective hbattery _,
      observe_now transmissionValue_injective htransmission _,
      observe_now gearValue_injective hgear _, observe_now flagValue_injective hfault _⟩
  | body state =>
    simp only [SyntheticState.signals, List.forall_mem_cons, Option.some.injEq,
      exists_eq_left'] at h
    obtain ⟨hhood, hdoors, htrunk, hbrake, hparking, -⟩ := h
    exact ⟨observe_now flagValue_injective hhood _, observe_now flagValue_injective hdoors _,
      observe_now flagValue_injective htrunk _, observe_now flagValue_injective hbrake _,
      observe_now flagValue_injective hparking _⟩
  | telemetry state =>
    simp only [SyntheticState.signals, List.forall_mem_cons, Option.some.injEq,
      exists_eq_left'] at h
    obtain ⟨hcoolant, hoil, htransmissionOil, hregeneration, -⟩ := h
    exact ⟨observe_now integerValue_injective hcoolant _, observe_now integerValue_injective hoil _,
      observe_now integerValue_injective htransmissionOil _,
      observe_now flagValue_injective hregeneration _⟩

theorem SyntheticState.signals_injective {first second : SyntheticState}
    (h : first.signals = second.signals) : first = second := by
  have hbyte {left right : UInt8} (heq : byteValue left = byteValue right) : left = right := by
    have hwords : left.toUInt32 = right.toUInt32 := by
      simpa [byteValue] using congrArg Int32.toUInt32 heq
    simpa using congrArg UInt32.toUInt8 hwords
  cases first with
  | powertrain first =>
    cases second with
    | powertrain second =>
      simp only [signals, List.cons.injEq, DecodedSignal.mk.injEq, true_and] at h
      obtain ⟨hrpm, hbattery, htransmission, hgear, hfault, -⟩ := h
      cases first
      cases second
      simp only [powertrain.injEq, SyntheticPowertrainState.mk.injEq]
      exact ⟨wordValue_injective hbattery, wordValue_injective hrpm, hbyte htransmission,
        hbyte hgear, flagValue_injective hfault⟩
    | body | telemetry => simp [signals] at h
  | body first =>
    cases second with
    | body second =>
      simp only [signals, List.cons.injEq, DecodedSignal.mk.injEq, true_and] at h
      obtain ⟨hhood, hdoors, htrunk, hbrake, hparking, -⟩ := h
      cases first
      cases second
      simp only [body.injEq, SyntheticBodyState.mk.injEq]
      exact ⟨flagValue_injective hhood, flagValue_injective hdoors, flagValue_injective htrunk,
        flagValue_injective hbrake, flagValue_injective hparking⟩
    | powertrain | telemetry => simp [signals] at h
  | telemetry first =>
    cases second with
    | telemetry second =>
      simp only [signals, List.cons.injEq, DecodedSignal.mk.injEq, true_and] at h
      obtain ⟨hcoolant, hoil, htransmissionOil, hregeneration, -⟩ := h
      cases first
      cases second
      simp only [telemetry.injEq, SyntheticTelemetryState.mk.injEq]
      exact ⟨integerValue_injective hcoolant, integerValue_injective hoil,
        integerValue_injective htransmissionOil, flagValue_injective hregeneration⟩
    | powertrain | body => simp [signals] at h

/-! The codec. -/

/-- The assembler takes the frame, and its signals come from the decoder. -/
def TakesDecoded (assembler : VehicleStateAssembler) (frame : CanFrame) : Prop :=
  (assembler.consume frame).1 = true ∧ (assembler.decoder.decode frame {}).1 = .decoded

def syntheticAssembler (freshness : SignalFreshnessConfig) (statistics : AssemblyStatistics)
    (stored : StoredSignals) : VehicleStateAssembler :=
  ⟨syntheticCanDecoder, freshness, statistics, stored⟩

variable {freshness : SignalFreshnessConfig} {statistics : AssemblyStatistics}
  {stored : StoredSignals}

theorem stored_of_batch {batch : DecodedSignalBatch} (hbatch : Batch batch state.signals)
    (hrange : state.InRange) (stored : StoredSignals) :
    Stored (stored.applyBatch batch timestampMs) timestampMs state ∧
      ∀ signal, (∀ entry ∈ state.signals, entry.signal ≠ some signal) →
        (stored.applyBatch batch timestampMs).reading signal = stored.reading signal := by
  have hexact := VehicleStateAssembler.applyBatch_exact stored timestampMs
    (hbatch.validateBatch.mpr hrange)
  rwa [hbatch.taken] at hexact

theorem consume_encodes (h : Encodes frame state.signals) (hframe : frame.isValid = true)
    (hrange : state.InRange) :
    let answer := (syntheticAssembler freshness statistics stored).consume frame
    answer.1 = true ∧ Stored answer.2.stored frame.timestampMilliseconds state ∧
      ∀ signal, (∀ entry ∈ state.signals, entry.signal ≠ some signal) →
        answer.2.stored.reading signal = stored.reading signal := by
  obtain ⟨hresult, hbatch⟩ := h.decode
  have hcount : (syntheticCanDecoder.decode frame {}).2.count ≠ 0 := by
    rw [hbatch.count]
    exact state.length_signals.1
  obtain ⟨haccepted, hstored⟩ := VehicleStateAssembler.consume_assembled
    (syntheticAssembler freshness statistics stored) hframe hresult hcount
    (hbatch.validateBatch.mpr hrange)
  refine ⟨haccepted, ?_⟩
  rw [hstored]
  exact stored_of_batch hbatch hrange stored

theorem consume_outOfRange (hrange : ¬state.InRange) (timestampMs : UInt32) :
    ((syntheticAssembler freshness statistics stored).consume
      (state.frame timestampMs)).2.stored = stored := by
  generalize hanswer : (syntheticAssembler freshness statistics stored).consume
    (state.frame timestampMs) = answer
  have hstep := hanswer ▸ VehicleStateAssembler.consume_consumed
    (syntheticAssembler freshness statistics stored) (state.frame timestampMs)
  cases hstep with
  | refused => rfl
  | ignored => rfl
  | assembled hdecoded hvalid =>
    rcases state.frame_cases timestampMs with hencodes | ⟨hempty, -⟩
    · exact absurd (hencodes.decode.2.validateBatch.mp hvalid) hrange
    · rw [hempty] at hdecoded
      exact absurd rfl hdecoded

/-- A frame that is taken has the signals of a state in range, and the bytes of its frame. -/
theorem TakesDecoded.exists_state
    (h : TakesDecoded (syntheticAssembler freshness statistics stored) frame) :
    ∃ state : SyntheticState, state.InRange ∧ Encodes frame state.signals ∧
      ∀ timestampMs, SameBytes frame (state.frame timestampMs) := by
  obtain ⟨haccepted, hdecoded⟩ := h
  obtain ⟨signals, hencodes⟩ := exists_encodes hdecoded
  have hvalid : Infrastructure.validateBatch (syntheticCanDecoder.decode frame {}).2 = true := by
    generalize hanswer : (syntheticAssembler freshness statistics stored).consume frame = answer
      at haccepted
    have hstep := hanswer ▸ VehicleStateAssembler.consume_consumed
      (syntheticAssembler freshness statistics stored) frame
    cases hstep with
    | refused => cases haccepted
    | ignored hignored => cases hdecoded.symm.trans hignored
    | assembled _ hvalid => exact hvalid
  have hrange : ∀ entry ∈ signals, validateSignal entry = true := by
    rw [Infrastructure.validateBatch, Bool.and_eq_true, hencodes.decode.2.taken] at hvalid
    exact (validateSignals_sound hvalid.2).1
  obtain ⟨state, rfl, hbytes⟩ := hencodes.exists_state hrange
  exact ⟨state, hrange, hencodes, hbytes⟩

theorem TakesDecoded.isValid
    (h : TakesDecoded (syntheticAssembler freshness statistics stored) frame) :
    frame.isValid = true := by
  have haccepted := h.1
  unfold VehicleStateAssembler.consume at haccepted
  by_contra hframe
  rw [if_pos (by simpa using hframe)] at haccepted
  cases haccepted

/-- States in range come back from their frames, states out of range are not stored, and what
is decoded are the frames of states in range. -/
theorem synthetic_codec (freshness : SignalFreshnessConfig) (statistics : AssemblyStatistics)
    (stored : StoredSignals) :
    let assembler := syntheticAssembler freshness statistics stored
    (∀ (state : SyntheticState) (timestampMs : UInt32),
      let (accepted, next) := assembler.consume (state.frame timestampMs)
      (state.InRange → accepted = true ∧ state.Shown (next.snapshot timestampMs) ∧
        ∀ signal, (∀ entry ∈ state.signals, entry.signal ≠ some signal) →
          next.stored.reading signal = stored.reading signal) ∧
      (¬state.InRange → next.stored = stored)) ∧
    (∀ frame, TakesDecoded assembler frame → ∃ state : SyntheticState, state.InRange ∧
      state.Shown ((assembler.consume frame).2.snapshot frame.timestampMilliseconds) ∧
      SameBytes frame (state.frame frame.timestampMilliseconds)) ∧
    ∀ first second, TakesDecoded assembler first → TakesDecoded assembler second →
      (syntheticCanDecoder.decode first {}).2.taken =
        (syntheticCanDecoder.decode second {}).2.taken → SameBytes first second := by
  refine ⟨fun state timestampMs => ⟨fun hrange => ?_, fun hrange => ?_⟩, fun frame htaken => ?_,
    fun first second hfirst hsecond htaken => ?_⟩
  · have hencodes : Encodes (state.frame timestampMs) state.signals :=
      (state.frame_cases timestampMs).resolve_right fun hempty => hempty.2 hrange
    have hconsumed := @consume_encodes _ state freshness statistics stored hencodes
      (state.frame_valid timestampMs) hrange
    rw [state.timestamp_frame hencodes] at hconsumed
    exact ⟨hconsumed.1, hconsumed.2.1.shown hrange _, hconsumed.2.2⟩
  · exact consume_outOfRange hrange timestampMs
  · obtain ⟨state, hrange, hencodes, hbytes⟩ := htaken.exists_state
    have hconsumed := @consume_encodes _ state freshness statistics stored hencodes
      htaken.isValid hrange
    exact ⟨state, hrange, hconsumed.2.1.shown hrange _, hbytes _⟩
  · obtain ⟨state, hrange, hencodes, hbytes⟩ := hfirst.exists_state
    obtain ⟨other, hotherRange, hotherEncodes, hotherBytes⟩ := hsecond.exists_state
    rw [hencodes.decode.2.taken, hotherEncodes.decode.2.taken] at htaken
    obtain rfl := SyntheticState.signals_injective htaken
    have hleft := hbytes 0
    have hright := hotherBytes 0
    exact ⟨hleft.identifier.trans hright.identifier.symm, hleft.extended.trans hright.extended.symm,
      hleft.dataLength.trans hright.dataLength.symm, hleft.data.trans hright.data.symm⟩

end Frames

end BmwRemote.Simulation
