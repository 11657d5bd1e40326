import BmwRemote.Infrastructure.VehicleStateAssembler
import BmwRemote.Lib.Transcript
import Mathlib.Data.List.Nodup

/-! A frame is assembled as a whole or not at all: a refused frame leaves every
stored signal alone, an accepted one stores exactly the signals of its batch, and
no cast on the way loses a value. -/
namespace BmwRemote.Infrastructure

open BmwRemote.Domain
open BmwRemote.Lib

def StoredSignal.map {T U : Type} (f : T → U) (signal : StoredSignal T) : StoredSignal U :=
  ⟨f signal.value, signal.observedAtMs, signal.observed⟩

/-! The values of the stored types, as a decoder gives them. -/

def wordValue (word : UInt16) : Int32 := word.toUInt32.toInt32

def integerValue (integer : Int16) : Int32 := integer.toInt32

def flagValue (flag : Bool) : Int32 := if flag then 1 else 0

def transmissionValue : Transmission → Int32
  | .unknown => 0
  | .automatic => 1
  | .manual => 2

def gearValue : Gear → Int32
  | .unknown => 0
  | .park => 1
  | .neutral => 2
  | .reverse => 3
  | .drive => 4

/-- What is kept of a signal, its value widened back to the decoder's type. -/
def StoredSignals.reading (stored : StoredSignals) : VehicleSignal → StoredSignal Int32
  | .batteryMillivolts => stored.batteryMillivolts.map wordValue
  | .engineRpm => stored.engineRpm.map wordValue
  | .coolantTemperatureC => stored.coolantTemperatureC.map integerValue
  | .engineOilTemperatureC => stored.engineOilTemperatureC.map integerValue
  | .transmissionOilTemperatureC => stored.transmissionOilTemperatureC.map integerValue
  | .dpfRegenerationActive => stored.dpfRegenerationActive.map flagValue
  | .hoodClosed => stored.hoodClosed.map flagValue
  | .doorsClosed => stored.doorsClosed.map flagValue
  | .trunkClosed => stored.trunkClosed.map flagValue
  | .brakePressed => stored.brakePressed.map flagValue
  | .parkingBrakeApplied => stored.parkingBrakeApplied.map flagValue
  | .transmission => stored.transmission.map transmissionValue
  | .gear => stored.gear.map gearValue
  | .criticalFaultPresent => stored.criticalFaultPresent.map flagValue

section Values

theorem wordValue_injective : Function.Injective wordValue := by
  intro left right h
  have hwords : left.toUInt32 = right.toUInt32 := by
    simpa [wordValue] using congrArg Int32.toUInt32 h
  simpa using congrArg UInt32.toUInt16 hwords

theorem integerValue_injective : Function.Injective integerValue := by
  intro left right h
  have hvalues := congrArg Int32.toInt h
  rw [integerValue, integerValue, Int16.toInt_toInt32, Int16.toInt_toInt32] at hvalues
  exact Int16.toInt_inj.mp hvalues

theorem flagValue_injective : Function.Injective flagValue := by
  unfold Function.Injective
  decide

theorem transmissionValue_injective : Function.Injective transmissionValue := by
  intro left right h
  cases left <;> cases right <;> first | rfl | (revert h; decide)

theorem gearValue_injective : Function.Injective gearValue := by
  intro left right h
  cases left <;> cases right <;> first | rfl | (revert h; decide)

theorem StoredSignal.map_injective {T U : Type} {f : T → U} (hf : Function.Injective f) :
    Function.Injective (StoredSignal.map f) := by
  intro left right h
  cases left
  cases right
  simp only [StoredSignal.map, StoredSignal.mk.injEq] at h
  simp only [StoredSignal.mk.injEq]
  exact ⟨hf h.1, h.2⟩

theorem StoredSignals.ext_reading {left right : StoredSignals}
    (h : ∀ signal, left.reading signal = right.reading signal) : left = right := by
  have hword := StoredSignal.map_injective wordValue_injective
  have hinteger := StoredSignal.map_injective integerValue_injective
  have hflag := StoredSignal.map_injective flagValue_injective
  have hbattery := hword (h .batteryMillivolts)
  have hrpm := hword (h .engineRpm)
  have hcoolant := hinteger (h .coolantTemperatureC)
  have hoil := hinteger (h .engineOilTemperatureC)
  have htransmissionOil := hinteger (h .transmissionOilTemperatureC)
  have hdpf := hflag (h .dpfRegenerationActive)
  have hhood := hflag (h .hoodClosed)
  have hdoors := hflag (h .doorsClosed)
  have htrunk := hflag (h .trunkClosed)
  have hbrake := hflag (h .brakePressed)
  have hparking := hflag (h .parkingBrakeApplied)
  have htransmission := StoredSignal.map_injective transmissionValue_injective (h .transmission)
  have hgear := StoredSignal.map_injective gearValue_injective (h .gear)
  have hfault := hflag (h .criticalFaultPresent)
  cases left
  cases right
  simp_all only

/-! A value in its signal's range survives its cast. -/

theorem wordValue_cast {value : Int32} (hlow : 0 ≤ value) (hhigh : value ≤ 20000) :
    wordValue value.toUInt32.toUInt16 = value := by
  have hkept : value.toUInt32.toUInt16.toUInt32 = value.toUInt32 := by
    apply UInt32.toNat_inj.mp
    rw [UInt16.toNat_toUInt32, UInt32.toNat_toUInt16]
    have hnat : value.toUInt32.toNat = value.toInt.toNat := by
      rw [Int32.toNat_toUInt32_of_le hlow]
      rfl
    rw [Int32.le_iff_toInt_le] at hhigh
    have htop : (20000 : Int32).toInt = 20000 := by decide
    omega
  rw [wordValue, hkept]
  exact Int32.toInt32_toUInt32 value

theorem integerValue_cast {value : Int32} (hlow : -40 ≤ value) (hhigh : value ≤ 215) :
    integerValue value.toInt16 = value := by
  have hbottom : (-40 : Int32).toInt = -40 := by decide
  have htop : (215 : Int32).toInt = 215 := by decide
  rw [Int32.le_iff_toInt_le] at hlow hhigh
  apply Int32.toInt_inj.mp
  rw [integerValue, Int16.toInt_toInt32, Int32.toInt_toInt16]
  apply Int.bmod_eq_of_le <;> omega

theorem value_eq_of_range {value : Int32} {top : Nat} (htop : (Int32.ofNat top).toInt = top)
    (hlow : 0 ≤ value) (hhigh : value ≤ Int32.ofNat top) :
    ∃ n ≤ top, value = Int32.ofNat n := by
  rw [Int32.le_iff_toInt_le] at hlow hhigh
  have hzero : (0 : Int32).toInt = 0 := by decide
  have hbound := value.toInt_lt
  refine ⟨value.toInt.toNat, by omega, ?_⟩
  apply Int32.toInt_inj.mp
  rw [Int32.toInt_ofNat_of_lt (by omega)]
  omega

theorem flagValue_cast {value : Int32} (hlow : 0 ≤ value) (hhigh : value ≤ 1) :
    flagValue (value != 0) = value := by
  obtain ⟨n, hn, rfl⟩ := @value_eq_of_range value 1 (by decide) hlow hhigh
  revert n
  decide

theorem transmissionValue_cast {value : Int32} (hlow : 0 ≤ value) (hhigh : value ≤ 2) :
    transmissionValue (transmissionOf value) = value := by
  obtain ⟨n, hn, rfl⟩ := @value_eq_of_range value 2 (by decide) hlow hhigh
  revert n
  decide

theorem gearValue_cast {value : Int32} (hlow : 0 ≤ value) (hhigh : value ≤ 4) :
    gearValue (gearOf value) = value := by
  obtain ⟨n, hn, rfl⟩ := @value_eq_of_range value 4 (by decide) hlow hhigh
  revert n
  decide

end Values

section Signals

theorem reading_applySignal_self (stored : StoredSignals) (entry : DecodedSignal)
    (timestampMs : UInt32) {signal : VehicleSignal} (hsignal : entry.signal = some signal)
    (hvalid : validateSignal entry = true) :
    (stored.applySignal entry timestampMs).reading signal = ⟨entry.value, timestampMs, true⟩ := by
  obtain ⟨_, value⟩ := entry
  subst hsignal
  have hrpm : value ≤ 10000 → value ≤ 20000 := fun h => Int32.le_trans h (by decide)
  cases signal <;>
    simp only [validateSignal, Bool.and_eq_true, decide_eq_true_eq] at hvalid <;>
    simp only [StoredSignals.applySignal, StoredSignals.reading, StoredSignal.map,
      wordValue_cast, integerValue_cast, flagValue_cast, transmissionValue_cast, gearValue_cast,
      hvalid, hrpm]

theorem reading_applySignal_other (stored : StoredSignals) (entry : DecodedSignal)
    (timestampMs : UInt32) {signal : VehicleSignal} (hsignal : entry.signal ≠ some signal) :
    (stored.applySignal entry timestampMs).reading signal = stored.reading signal := by
  obtain ⟨named, value⟩ := entry
  cases named with
  | none => rfl
  | some other =>
    cases other <;> cases signal <;> first | rfl | exact absurd rfl hsignal

theorem validateSignals_sound {previous entries : List DecodedSignal}
    (h : validateSignals previous entries = true) :
    (∀ entry ∈ entries, validateSignal entry = true) ∧
      (∀ entry ∈ entries, ∀ earlier ∈ previous, earlier.signal ≠ entry.signal) ∧
      (entries.map DecodedSignal.signal).Nodup := by
  induction entries generalizing previous with
  | nil => simp
  | cons first rest ih =>
    simp only [validateSignals, Bool.and_eq_true, Bool.not_eq_true', List.any_eq_false,
      beq_iff_eq] at h
    obtain ⟨⟨hfirst, hfresh⟩, hrest⟩ := h
    obtain ⟨hvalid, hdistinct, hnodup⟩ := ih hrest
    refine ⟨List.forall_mem_cons.mpr ⟨hfirst, hvalid⟩, ?_, ?_⟩
    · intro entry hentry earlier hearlier
      rcases List.mem_cons.mp hentry with rfl | hmem
      · exact hfresh earlier hearlier
      · exact hdistinct entry hmem earlier (List.mem_append_left _ hearlier)
    · rw [List.map_cons, List.nodup_cons]
      refine ⟨fun hmem => ?_, hnodup⟩
      obtain ⟨entry, hentry, hsame⟩ := List.mem_map.mp hmem
      exact hdistinct entry hentry first (List.mem_append_right _ (List.mem_singleton_self _))
        hsame.symm

theorem signal_of_validateSignal {entry : DecodedSignal} (h : validateSignal entry = true) :
    ∃ signal, entry.signal = some signal := by
  obtain ⟨named, value⟩ := entry
  cases named with
  | none => exact absurd h Bool.false_ne_true
  | some signal => exact ⟨signal, rfl⟩

def StoredSignals.applySignals (stored : StoredSignals) (entries : List DecodedSignal)
    (timestampMs : UInt32) : StoredSignals :=
  entries.foldl (fun stored entry => stored.applySignal entry timestampMs) stored

theorem reading_applySignals_other (stored : StoredSignals) (entries : List DecodedSignal)
    (timestampMs : UInt32) {signal : VehicleSignal}
    (h : ∀ entry ∈ entries, entry.signal ≠ some signal) :
    (stored.applySignals entries timestampMs).reading signal = stored.reading signal := by
  induction entries generalizing stored with
  | nil => rfl
  | cons first rest ih =>
    rw [List.forall_mem_cons] at h
    calc ((stored.applySignal first timestampMs).applySignals rest timestampMs).reading signal
        = (stored.applySignal first timestampMs).reading signal := ih _ h.2
      _ = stored.reading signal := reading_applySignal_other stored first timestampMs h.1

theorem reading_applySignals_self (stored : StoredSignals) {entries : List DecodedSignal}
    (timestampMs : UInt32) (hvalid : ∀ entry ∈ entries, validateSignal entry = true)
    (hnodup : (entries.map DecodedSignal.signal).Nodup) {entry : DecodedSignal}
    (hentry : entry ∈ entries) {signal : VehicleSignal} (hsignal : entry.signal = some signal) :
    (stored.applySignals entries timestampMs).reading signal = ⟨entry.value, timestampMs, true⟩ := by
  induction entries generalizing stored with
  | nil => cases hentry
  | cons first rest ih =>
    rw [List.forall_mem_cons] at hvalid
    rw [List.map_cons, List.nodup_cons] at hnodup
    rcases List.mem_cons.mp hentry with rfl | hmem
    · have hlater : ∀ other ∈ rest, other.signal ≠ some signal := fun other hother hsame =>
        hnodup.1 (List.mem_map.mpr ⟨other, hother, hsame.trans hsignal.symm⟩)
      calc ((stored.applySignal entry timestampMs).applySignals rest timestampMs).reading signal
          = (stored.applySignal entry timestampMs).reading signal :=
            reading_applySignals_other _ rest timestampMs hlater
        _ = ⟨entry.value, timestampMs, true⟩ :=
            reading_applySignal_self stored entry timestampMs hsignal hvalid.1
    · exact ih (stored.applySignal first timestampMs) hvalid.2 hnodup.2 hmem

def StoredSignals.InRange (stored : StoredSignals) : Prop :=
  ∀ signal, validateSignal ⟨some signal, (stored.reading signal).value⟩ = true

theorem StoredSignals.empty_inRange : StoredSignals.InRange {} := by
  intro signal
  cases signal <;> decide

end Signals

/-- Every frame is counted once more, as decoded, ignored or rejected. -/
def AssemblyStatistics.Accounted (statistics : AssemblyStatistics) : Prop :=
  statistics.consumedFrames =
    statistics.decodedFrames + statistics.ignoredFrames + statistics.rejectedFrames

theorem AssemblyStatistics.empty_accounted : AssemblyStatistics.Accounted {} := by
  unfold AssemblyStatistics.Accounted
  decide

namespace VehicleStateAssembler

inductive Consumed (assembler : VehicleStateAssembler) (frame : CanFrame) :
    Bool × VehicleStateAssembler → Prop where
  | refused : Consumed assembler frame (false, { assembler with
      statistics := { assembler.statistics with
        consumedFrames := assembler.statistics.consumedFrames + 1
        rejectedFrames := assembler.statistics.rejectedFrames + 1 } })
  | ignored (h : (assembler.decoder.decode frame {}).1 = .ignored) :
      Consumed assembler frame (true, { assembler with
        statistics := { assembler.statistics with
          consumedFrames := assembler.statistics.consumedFrames + 1
          ignoredFrames := assembler.statistics.ignoredFrames + 1 } })
  | assembled (decoded : (assembler.decoder.decode frame {}).1 ≠ .ignored)
      (valid : validateBatch (assembler.decoder.decode frame {}).2 = true) :
      Consumed assembler frame (true, { assembler with
        stored := assembler.stored.applyBatch (assembler.decoder.decode frame {}).2
          frame.timestampMilliseconds
        statistics := { assembler.statistics with
          consumedFrames := assembler.statistics.consumedFrames + 1
          decodedFrames := assembler.statistics.decodedFrames + 1
          decodedSignals := assembler.statistics.decodedSignals +
            UInt32.ofNat (assembler.decoder.decode frame {}).2.count } })

theorem consume_consumed (assembler : VehicleStateAssembler) (frame : CanFrame) :
    Consumed assembler frame (assembler.consume frame) := by
  unfold consume
  by_cases hframe : frame.isValid = true
  · rw [if_neg (by simp [hframe])]
    by_cases hignored : (assembler.decoder.decode frame {}).1 = .ignored
    · simp only [hignored, if_true]
      exact .ignored hignored
    · by_cases hbad : (assembler.decoder.decode frame {}).1 = .invalid ∨
          (assembler.decoder.decode frame {}).2.count = 0 ∨
          validateBatch (assembler.decoder.decode frame {}).2 = false
      · simp only [hignored, hbad, if_true, if_false]
        exact .refused
      · simp only [hignored, hbad, if_false]
        refine .assembled hignored ?_
        simp only [not_or, Bool.not_eq_false] at hbad
        exact hbad.2.2
  · rw [if_pos (by simp [hframe])]
    exact .refused

/-- A batch that passes is stored. -/
theorem consume_assembled (assembler : VehicleStateAssembler) {frame : CanFrame}
    (hframe : frame.isValid = true)
    (hresult : (assembler.decoder.decode frame {}).1 = .decoded)
    (hcount : (assembler.decoder.decode frame {}).2.count ≠ 0)
    (hbatch : validateBatch (assembler.decoder.decode frame {}).2 = true) :
    (assembler.consume frame).1 = true ∧ (assembler.consume frame).2.stored =
      assembler.stored.applyBatch (assembler.decoder.decode frame {}).2
        frame.timestampMilliseconds := by
  unfold consume
  rw [if_neg (by simp [hframe])]
  simp [hresult, hcount, hbatch]

inductive AssemblyCall where
  | consume (decoder : CanFrameDecoder) (frame : CanFrame)
  | reset

def perform : Machine VehicleStateAssembler AssemblyCall Bool
  | assembler, .consume decoder frame => consume { assembler with decoder := decoder } frame
  | assembler, .reset => (true, assembler.reset)

def started (decoder : CanFrameDecoder) (freshness : SignalFreshnessConfig) :
    VehicleStateAssembler where
  decoder := decoder
  freshness := freshness

theorem applyBatch_exact (stored : StoredSignals) {batch : DecodedSignalBatch}
    (timestampMs : UInt32) (h : validateBatch batch = true) :
    (∀ entry ∈ batch.taken, ∃ signal, entry.signal = some signal ∧
      (stored.applyBatch batch timestampMs).reading signal = ⟨entry.value, timestampMs, true⟩) ∧
    ∀ signal, (∀ entry ∈ batch.taken, entry.signal ≠ some signal) →
      (stored.applyBatch batch timestampMs).reading signal = stored.reading signal := by
  rw [validateBatch, Bool.and_eq_true] at h
  obtain ⟨hvalid, _, hnodup⟩ := validateSignals_sound h.2
  constructor
  · intro entry hentry
    obtain ⟨signal, hsignal⟩ := signal_of_validateSignal (hvalid entry hentry)
    exact ⟨signal, hsignal,
      reading_applySignals_self stored timestampMs hvalid hnodup hentry hsignal⟩
  · intro signal hother
    exact reading_applySignals_other stored batch.taken timestampMs hother

theorem applyBatch_inRange {stored : StoredSignals} {batch : DecodedSignalBatch}
    (timestampMs : UInt32) (h : validateBatch batch = true)
    (hstored : stored.InRange) : (stored.applyBatch batch timestampMs).InRange := by
  intro signal
  obtain ⟨hown, hother⟩ := applyBatch_exact stored timestampMs h
  rw [validateBatch, Bool.and_eq_true] at h
  by_cases hnamed : ∃ entry ∈ batch.taken, entry.signal = some signal
  · obtain ⟨entry, hentry, hsignal⟩ := hnamed
    obtain ⟨other, hsame, hreading⟩ := hown entry hentry
    obtain rfl : signal = other := Option.some.inj (hsignal.symm.trans hsame)
    rw [hreading, ← hsignal]
    exact (validateSignals_sound h.2).1 entry hentry
  · have hnone : ∀ entry ∈ batch.taken, entry.signal ≠ some signal := fun entry hentry hsignal =>
      hnamed ⟨entry, hentry, hsignal⟩
    rw [hother signal hnone]
    exact hstored signal

theorem Consumed.inRange {assembler : VehicleStateAssembler} {frame : CanFrame}
    {answer : Bool × VehicleStateAssembler} (h : Consumed assembler frame answer)
    (hrange : assembler.stored.InRange) : answer.2.stored.InRange := by
  cases h with
  | refused => exact hrange
  | ignored => exact hrange
  | assembled _ valid => exact applyBatch_inRange _ valid hrange

theorem Consumed.accounted {assembler : VehicleStateAssembler} {frame : CanFrame}
    {answer : Bool × VehicleStateAssembler} (h : Consumed assembler frame answer)
    (haccounted : assembler.statistics.Accounted) : answer.2.statistics.Accounted := by
  unfold AssemblyStatistics.Accounted at haccounted ⊢
  cases h with
  | refused => exact (congrArg (· + 1) haccounted).trans (UInt32.add_assoc _ _ _)
  | ignored =>
    dsimp only
    rw [haccounted]
    ac_rfl
  | assembled =>
    dsimp only
    rw [haccounted]
    ac_rfl

theorem run_inRange_accounted (decoder : CanFrameDecoder) (freshness : SignalFreshnessConfig)
    (calls : List AssemblyCall) :
    (perform.final (started decoder freshness) calls).stored.InRange ∧
      (perform.final (started decoder freshness) calls).statistics.Accounted := by
  refine Machine.invariant_induction perform
    (fun assembler => assembler.stored.InRange ∧ assembler.statistics.Accounted) ?_ ?_ calls
  · constructor
    · exact StoredSignals.empty_inRange
    · exact AssemblyStatistics.empty_accounted
  · rintro assembler ⟨hrange, haccounted⟩ call
    cases call with
    | consume decoder frame =>
      have hstep := consume_consumed { assembler with decoder := decoder } frame
      exact ⟨hstep.inRange hrange, hstep.accounted haccounted⟩
    | reset => exact ⟨StoredSignals.empty_inRange, AssemblyStatistics.empty_accounted⟩

/-- A frame that is refused or ignored stores nothing; any other stores every signal of
its batch as decoded, under the frame's own time, and nothing else. Over any run, what is
stored is in range and every frame is accounted for. -/
theorem consume_atomic :
    (∀ (assembler : VehicleStateAssembler) (frame : CanFrame),
      let (result, batch) := assembler.decoder.decode frame {}
      let (accepted, next) := assembler.consume frame
      (accepted = false ∨ result = .ignored → next.stored = assembler.stored) ∧
      (¬(accepted = false ∨ result = .ignored) →
        (∀ entry ∈ batch.taken, ∃ signal, entry.signal = some signal ∧
          next.stored.reading signal = ⟨entry.value, frame.timestampMilliseconds, true⟩) ∧
        ∀ signal, (∀ entry ∈ batch.taken, entry.signal ≠ some signal) →
          next.stored.reading signal = assembler.stored.reading signal)) ∧
    ∀ (decoder : CanFrameDecoder) (freshness : SignalFreshnessConfig) (calls : List AssemblyCall),
      let reached := perform.final (started decoder freshness) calls
      reached.stored.InRange ∧ reached.statistics.Accounted := by
  refine ⟨fun assembler frame => ?_, run_inRange_accounted⟩
  generalize hanswer : assembler.consume frame = answer
  have hstep := hanswer ▸ consume_consumed assembler frame
  cases hstep with
  | refused => exact ⟨fun _ => rfl, fun h => absurd (Or.inl rfl) h⟩
  | ignored hresult => exact ⟨fun _ => rfl, fun h => absurd (Or.inr hresult) h⟩
  | assembled decoded valid =>
    refine ⟨fun h => ?_, fun _ => applyBatch_exact _ _ valid⟩
    rcases h with hfalse | hignored
    · exact absurd hfalse Bool.true_eq_false.mp
    · exact absurd hignored decoded

end VehicleStateAssembler

end BmwRemote.Infrastructure
