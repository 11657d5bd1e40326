import BmwRemote.Lib.FloatValue

/-! What is read about the start of the vehicle over its diagnostics. -/
namespace BmwRemote.Domain

open BmwRemote.Lib

inductive DiagnosticAvailability where
  | known
  | unknown
  | communicationError
  | notCaptured
  deriving DecidableEq, Repr

inductive DiagnosticSource where
  | none
  | casStatusDiagnose
  | casStatusFzgZustand
  | casStatusKlemmenverhinderer
  | ddeStatusMotordrehzahl
  deriving DecidableEq, Repr

structure AcquisitionInterval where
  startedAtMs : UInt64 := 0
  endedAtMs : UInt64 := 0
  captured : Bool := false
  deriving DecidableEq, Repr

def AcquisitionInterval.valid (interval : AcquisitionInterval) : Bool :=
  interval.captured && decide (interval.startedAtMs ≤ interval.endedAtMs)

structure DiagnosticSignal (T : Type) where
  availability : DiagnosticAvailability := .notCaptured
  value : T
  interval : AcquisitionInterval := {}
  source : DiagnosticSource := .none

namespace DiagnosticSignal

variable {T : Type}

def known (signal : DiagnosticSignal T) : Bool :=
  signal.availability == .known && signal.interval.valid && signal.source != .none

def knownValue (value : T) (source : DiagnosticSource) (startedAtMs endedAtMs : UInt64) :
    DiagnosticSignal T :=
  ⟨.known, value, ⟨startedAtMs, endedAtMs, true⟩, source⟩

end DiagnosticSignal

/-! The terminal status. -/

inductive TerminalPairState where
  | off
  | on
  | undocumentedEncoding
  | invalid
  deriving DecidableEq, Repr

inductive KeyValidityState where
  | noKeyDetected
  | validKeyDetected
  | invalidOrMissingKeyDetected
  | undocumentedEncoding
  deriving DecidableEq, Repr

structure KlemmenstatusDecoded where
  raw : UInt8
  terminalR : TerminalPairState
  terminal15 : TerminalPairState
  terminal50 : TerminalPairState
  keyValidity : KeyValidityState
  rawValueObservedOnTestVehicle : Bool
  allFieldsDocumented : Bool
  deriving DecidableEq, Repr

def decodeTerminalPair (value : UInt8) : TerminalPairState :=
  if value = 0 then .off
  else if value = 1 then .on
  else if value = 3 then .invalid
  else .undocumentedEncoding

def decodeKeyValidity (value : UInt8) : KeyValidityState :=
  if value = 0 then .noKeyDetected
  else if value = 1 then .validKeyDetected
  else if value = 2 then .invalidOrMissingKeyDetected
  else .undocumentedEncoding

def decodeKlemmenstatus (raw : UInt8) : KlemmenstatusDecoded :=
  let terminalR := decodeTerminalPair (raw &&& 0x03)
  let terminal15 := decodeTerminalPair ((raw >>> 2) &&& 0x03)
  let terminal50 := decodeTerminalPair ((raw >>> 4) &&& 0x03)
  let keyValidity := decodeKeyValidity ((raw >>> 6) &&& 0x03)
  { raw, terminalR, terminal15, terminal50, keyValidity
    rawValueObservedOnTestVehicle := raw == 0x40 || raw == 0x41 || raw == 0x45 || raw == 0x55
    allFieldsDocumented := terminalR != .undocumentedEncoding &&
      terminal15 != .undocumentedEncoding && terminal50 != .undocumentedEncoding &&
      keyValidity != .undocumentedEncoding }

/-! A snapshot. -/

inductive StartSignalId where
  | sstA
  | sstB
  | keyRast
  | brake
  | parkNeutralOrClutch
  | mfs
  | startDme
  | startRelease
  | klemmenstatus
  | kl15EnableInhibitor
  | kl15DisableInhibitor
  | kl50EnableInhibitor
  | engineRpm
  deriving DecidableEq, Repr

structure StartSignalSnapshot where
  sstA : DiagnosticSignal Bool := { value := false }
  sstB : DiagnosticSignal Bool := { value := false }
  keyRast : DiagnosticSignal Bool := { value := false }
  brake : DiagnosticSignal Bool := { value := false }
  parkNeutralOrClutch : DiagnosticSignal Bool := { value := false }
  mfs : DiagnosticSignal Bool := { value := false }
  startDme : DiagnosticSignal Bool := { value := false }
  startRelease : DiagnosticSignal Bool := { value := false }
  klemmenstatus : DiagnosticSignal UInt8 := { value := 0 }
  kl15EnableInhibitor : DiagnosticSignal UInt8 := { value := 0 }
  kl15DisableInhibitor : DiagnosticSignal UInt8 := { value := 0 }
  kl50EnableInhibitor : DiagnosticSignal UInt8 := { value := 0 }
  engineRpm : DiagnosticSignal FloatValue := { value := .finite 0 }

end BmwRemote.Domain
