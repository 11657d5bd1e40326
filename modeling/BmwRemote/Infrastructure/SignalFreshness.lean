import BmwRemote.Infrastructure.ReplayRefinement
import Mathlib.Algebra.Group.Nat.Defs

/-! Fresh signals in true time. The assembler keeps 32 bits of the time of a frame and
compares ages modulo 2^32: it tells a fresh signal from a stale one exactly as long as
the age itself is not taken for a small one. -/
namespace BmwRemote.Infrastructure

open BmwRemote.Domain

def SignalFreshnessConfig.maximumAgeMs (freshness : SignalFreshnessConfig) :
    VehicleSignal → UInt32
  | .batteryMillivolts => freshness.batteryMaximumAgeMs
  | .engineRpm => freshness.engineRpmMaximumAgeMs
  | .coolantTemperatureC | .engineOilTemperatureC | .transmissionOilTemperatureC
  | .dpfRegenerationActive => freshness.telemetryMaximumAgeMs
  | .hoodClosed | .doorsClosed | .trunkClosed | .brakePressed | .parkingBrakeApplied =>
    freshness.bodyMaximumAgeMs
  | .transmission | .gear => freshness.transmissionMaximumAgeMs
  | .criticalFaultPresent => freshness.faultMaximumAgeMs

def CanFrame.trueMilliseconds (frame : CanFrame) : Nat := frame.timestampUs.toNat / 1000

namespace VehicleStateAssembler

open ReplayVehicleGateway

def consumeAll (assembler : VehicleStateAssembler) (frames : List CanFrame) :
    VehicleStateAssembler :=
  frames.foldl (fun assembler frame => (assembler.consume frame).2) assembler

def shown (decoder : CanFrameDecoder) (freshness : SignalFreshnessConfig)
    (frames : List CanFrame) (timeMs : Nat) (signal : VehicleSignal) : SignalQuality :=
  ((consumeAll { decoder, freshness } frames).snapshot (UInt32.ofNat timeMs)).quality signal

def Carries (decoder : CanFrameDecoder) (frame : CanFrame) (signal : VehicleSignal) : Prop :=
  ∃ signals ∈ decoded decoder frame, ∃ value, ⟨some signal, value⟩ ∈ signals

section Frames

variable {decoder : CanFrameDecoder} {freshness : SignalFreshnessConfig} {frames : List CanFrame}
  {signal : VehicleSignal} {time timeMs : Nat}

/-- The assembler stores what the frames last said. -/
theorem consumeAll_spec (assembler : VehicleStateAssembler) (frames : List CanFrame) :
    (assembler.consumeAll frames).decoder = assembler.decoder ∧
      (assembler.consumeAll frames).freshness = assembler.freshness ∧
      (assembler.consumeAll frames).stored =
        frames.foldl (storeFrame assembler.decoder) assembler.stored := by
  induction frames generalizing assembler with
  | nil => exact ⟨rfl, rfl, rfl⟩
  | cons frame rest ih =>
    obtain ⟨-, hdecoder, hfreshness, hstored⟩ := consume_spec assembler frame
    have hrest := ih (assembler.consume frame).2
    rw [hdecoder, hfreshness, hstored] at hrest
    exact hrest

def readingQuality (reading : Option (Int32 × Nat)) (nowMs maximumAgeMs : UInt32) :
    SignalQuality :=
  match reading with
  | none => .unavailable
  | some (_, time) => if nowMs - UInt32.ofNat time ≤ maximumAgeMs then .fresh else .stale

theorem quality_observe {T : Type} [Inhabited T] (cast : Int32 → T)
    (reading : Option (Int32 × Nat)) (nowMs maximumAgeMs : UInt32) :
    ((storedSignal cast reading).observe nowMs maximumAgeMs).quality =
      readingQuality reading nowMs maximumAgeMs := by
  cases reading with
  | none => rfl
  | some last => rfl

theorem shown_eq (decoder : CanFrameDecoder) (freshness : SignalFreshnessConfig)
    (frames : List CanFrame) (timeMs : Nat) (signal : VehicleSignal) :
    shown decoder freshness frames timeMs signal =
      readingQuality (readings decoder frames signal) (UInt32.ofNat timeMs)
        (freshness.maximumAgeMs signal) := by
  obtain ⟨-, hfreshness, hstored⟩ := consumeAll_spec { decoder, freshness } frames
  have hreadings : (consumeAll { decoder, freshness } frames).stored =
      storedOf (readings decoder frames) :=
    hstored.trans (foldl_storeFrame frames fun _ => none)
  unfold shown VehicleStateAssembler.snapshot
  rw [hfreshness, hreadings]
  cases signal <;> exact quality_observe _ _ _ _

/-! The last frame that carries a signal decides its reading. -/

theorem foldl_signal (signal : VehicleSignal) (time : Nat) (signals : List DecodedSignal)
    (last : Readings) :
    ((∃ value, ⟨some signal, value⟩ ∈ signals) ∧
      ∃ value, signals.foldl (Readings.signal time) last signal = some (value, time)) ∨
    ((∀ value, ⟨some signal, value⟩ ∉ signals) ∧
      signals.foldl (Readings.signal time) last signal = last signal) := by
  induction signals generalizing last with
  | nil => exact .inr ⟨nofun, rfl⟩
  | cons first rest ih =>
    rw [List.foldl_cons]
    rcases ih (Readings.signal time last first) with ⟨⟨value, hmem⟩, hread⟩ | ⟨hnone, hread⟩
    · exact .inl ⟨⟨value, List.mem_cons_of_mem first hmem⟩, hread⟩
    rw [hread]
    rcases first with ⟨name, value⟩
    by_cases hname : name = some signal
    · subst hname
      exact .inl ⟨⟨value, List.mem_cons_self⟩, value, Function.update_self ..⟩
    · refine .inr ⟨fun other hmem => ?_, ?_⟩
      · rw [List.mem_cons, DecodedSignal.mk.injEq] at hmem
        rcases hmem with ⟨hsame, -⟩ | hmem
        · exact hname hsame.symm
        · exact hnone other hmem
      · cases name with
        | none => rfl
        | some name => exact Function.update_of_ne (fun hsame => hname (congrArg some hsame.symm)) ..

theorem frame_cases (decoder : CanFrameDecoder) (frame : CanFrame) (signal : VehicleSignal)
    (last : Readings) :
    (Carries decoder frame signal ∧
      ∃ value, Readings.frame decoder last frame signal = some (value, frame.trueMilliseconds)) ∨
    (¬ Carries decoder frame signal ∧
      Readings.frame decoder last frame signal = last signal) := by
  unfold Carries Readings.frame
  cases hdecoded : decoded decoder frame with
  | none => exact .inr ⟨nofun, rfl⟩
  | some signals =>
    rcases foldl_signal signal (frame.timestampUs.toNat / 1000) signals last with
      ⟨hmem, hread⟩ | ⟨hnone, hread⟩
    · exact .inl ⟨⟨signals, rfl, hmem⟩, hread⟩
    · refine .inr ⟨?_, hread⟩
      rintro ⟨_, hsome, value, hmem⟩
      cases hsome
      exact hnone value hmem

/-- The time of the last accepted frame that carries a signal. -/
def LastCarried (decoder : CanFrameDecoder) (frames : List CanFrame) (signal : VehicleSignal)
    (time : Nat) : Prop :=
  ∃ earlier frame later, frames = earlier ++ frame :: later ∧ Carries decoder frame signal ∧
    (∀ next ∈ later, ¬ Carries decoder next signal) ∧ frame.trueMilliseconds = time

theorem foldl_frame_of_not_carries (h : ∀ frame ∈ frames, ¬ Carries decoder frame signal)
    (last : Readings) : frames.foldl (Readings.frame decoder) last signal = last signal := by
  induction frames generalizing last with
  | nil => rfl
  | cons frame rest ih =>
    rw [List.foldl_cons, ih fun next hnext => h next (List.mem_cons_of_mem _ hnext)]
    rcases frame_cases decoder frame signal last with ⟨hcarries, -⟩ | ⟨-, hread⟩
    · exact absurd hcarries (h frame List.mem_cons_self)
    · exact hread

theorem readings_of_lastCarried (h : LastCarried decoder frames signal time) :
    ∃ value, readings decoder frames signal = some (value, time) := by
  obtain ⟨earlier, frame, later, rfl, hcarries, hlater, rfl⟩ := h
  unfold readings
  rw [List.foldl_append, List.foldl_cons, foldl_frame_of_not_carries hlater]
  rcases frame_cases decoder frame signal (earlier.foldl (Readings.frame decoder) fun _ => none) with
    ⟨-, hread⟩ | ⟨hnot, -⟩
  · exact hread
  · exact absurd hcarries hnot

theorem lastCarried_or_never (decoder : CanFrameDecoder) (frames : List CanFrame)
    (signal : VehicleSignal) :
    (∃ time, LastCarried decoder frames signal time) ∨
      ∀ frame ∈ frames, ¬ Carries decoder frame signal := by
  induction frames with
  | nil => exact .inr nofun
  | cons frame rest ih =>
    rcases ih with ⟨time, earlier, last, later, hrest, hlast⟩ | hrest
    · exact .inl ⟨time, frame :: earlier, last, later, by rw [hrest, List.cons_append], hlast⟩
    by_cases hcarries : Carries decoder frame signal
    · exact .inl ⟨_, [], frame, rest, rfl, hcarries, hrest, rfl⟩
    · exact .inr (List.forall_mem_cons.2 ⟨hcarries, hrest⟩)

/-! What the snapshot makes of it. -/

theorem shown_never (h : ∀ frame ∈ frames, ¬ Carries decoder frame signal) (timeMs : Nat) :
    shown decoder freshness frames timeMs signal = .unavailable := by
  have hnone : readings decoder frames signal = none := foldl_frame_of_not_carries h _
  rw [shown_eq, hnone]
  rfl

theorem age_eq (h : time ≤ timeMs) :
    (UInt32.ofNat timeMs - UInt32.ofNat time).toNat = (timeMs - time) % 2 ^ 32 := by
  rw [UInt32.toNat_sub, UInt32.toNat_ofNat', UInt32.toNat_ofNat']
  omega

theorem shown_lastCarried (h : LastCarried decoder frames signal time)
    (htime : time ≤ timeMs) :
    shown decoder freshness frames timeMs signal =
      if (timeMs - time) % 2 ^ 32 ≤ (freshness.maximumAgeMs signal).toNat then .fresh
      else .stale := by
  obtain ⟨value, hread⟩ := readings_of_lastCarried h
  rw [shown_eq, hread, readingQuality]
  simp only [UInt32.le_iff_toNat_le, age_eq htime]

theorem LastCarried.le (h : ∀ frame ∈ frames, frame.trueMilliseconds ≤ timeMs)
    (hlast : LastCarried decoder frames signal time) : time ≤ timeMs := by
  obtain ⟨earlier, frame, later, rfl, -, -, rfl⟩ := hlast
  exact h frame (by simp)

theorem LastCarried.latest (hlast : LastCarried decoder frames signal time)
    (hordered : frames.Pairwise fun earlier later => earlier.timestampUs ≤ later.timestampUs)
    {frame : CanFrame} (hmem : frame ∈ frames) (hcarries : Carries decoder frame signal) :
    frame.trueMilliseconds ≤ time := by
  obtain ⟨earlier, last, later, rfl, -, hlater, rfl⟩ := hlast
  rw [List.mem_append, List.mem_cons] at hmem
  rcases hmem with hearlier | rfl | hmem
  · have hle := (List.pairwise_append.1 hordered).2.2 frame hearlier last List.mem_cons_self
    exact Nat.div_le_div_right (UInt64.le_iff_toNat_le.1 hle)
  · exact le_rfl
  · exact absurd hcarries (hlater frame hmem)

theorem LastCarried.append_of_not_carries (hlast : LastCarried decoder frames signal time)
    {later : List CanFrame} (h : ∀ frame ∈ later, ¬ Carries decoder frame signal) :
    LastCarried decoder (frames ++ later) signal time := by
  obtain ⟨earlier, frame, between, rfl, hcarries, hbetween, htime⟩ := hlast
  refine ⟨earlier, frame, between ++ later, by simp, hcarries, ?_, htime⟩
  intro next hnext
  rw [List.mem_append] at hnext
  exact hnext.elim (hbetween next) (h next)

/-- What a snapshot at a true time should say: a fresh signal is no older than its
maximum, and a signal that was stale is fresh only after a newer frame for it. -/
structure FreshInTrueTime (decoder : CanFrameDecoder) (freshness : SignalFreshnessConfig)
    (frames : List CanFrame) (timeMs : Nat) : Prop where
  sound : ∀ signal, shown decoder freshness frames timeMs signal = .fresh →
    ∃ frame ∈ frames, Carries decoder frame signal ∧
      timeMs ≤ frame.trueMilliseconds + (freshness.maximumAgeMs signal).toNat
  latched : ∀ signal earlier later earlierMs, frames = earlier ++ later →
    (∀ frame ∈ earlier, frame.trueMilliseconds ≤ earlierMs) → earlierMs ≤ timeMs →
    shown decoder freshness earlier earlierMs signal = .stale →
    shown decoder freshness frames timeMs signal = .fresh →
    ∃ frame ∈ later, Carries decoder frame signal

/-- The age of the signal has outgrown 32 bits, and its low 32 bits look young. -/
def Aliased (decoder : CanFrameDecoder) (freshness : SignalFreshnessConfig)
    (frames : List CanFrame) (timeMs : Nat) (signal : VehicleSignal) : Prop :=
  ∃ time, LastCarried decoder frames signal time ∧ time + 2 ^ 32 ≤ timeMs ∧
    (timeMs - time) % 2 ^ 32 ≤ (freshness.maximumAgeMs signal).toNat

theorem young_of_fresh (h : LastCarried decoder frames signal time) (htime : time ≤ timeMs)
    (haliased : ¬ Aliased decoder freshness frames timeMs signal)
    (hfresh : shown decoder freshness frames timeMs signal = .fresh) :
    timeMs ≤ time + (freshness.maximumAgeMs signal).toNat := by
  rw [shown_lastCarried h htime] at hfresh
  have hage : (timeMs - time) % 2 ^ 32 ≤ (freshness.maximumAgeMs signal).toNat := by
    by_contra hold
    rw [if_neg hold] at hfresh
    cases hfresh
  have hsmall : timeMs < time + 2 ^ 32 := by
    by_contra hlarge
    exact haliased ⟨time, h, by omega, hage⟩
  omega

theorem old_of_stale (h : LastCarried decoder frames signal time) (htime : time ≤ timeMs)
    (hstale : shown decoder freshness frames timeMs signal = .stale) :
    time + (freshness.maximumAgeMs signal).toNat < timeMs := by
  rw [shown_lastCarried h htime] at hstale
  have hage : ¬ (timeMs - time) % 2 ^ 32 ≤ (freshness.maximumAgeMs signal).toNat := by
    intro hyoung
    rw [if_pos hyoung] at hstale
    cases hstale
  have hmod := Nat.mod_le (timeMs - time) (2 ^ 32)
  omega

end Frames

/-- A snapshot is right in true time exactly if no signal is aliased. -/
theorem fresh_in_true_time_iff (decoder : CanFrameDecoder) (freshness : SignalFreshnessConfig)
    {frames : List CanFrame}
    (hordered : frames.Pairwise fun earlier later => earlier.timestampUs ≤ later.timestampUs)
    {timeMs : Nat} (htime : ∀ frame ∈ frames, frame.trueMilliseconds ≤ timeMs) :
    FreshInTrueTime decoder freshness frames timeMs ↔
      ∀ signal, ¬ Aliased decoder freshness frames timeMs signal := by
  constructor
  · rintro h signal ⟨time, hlast, hlarge, hyoung⟩
    have hfresh : shown decoder freshness frames timeMs signal = .fresh := by
      rw [shown_lastCarried hlast (hlast.le htime), if_pos hyoung]
    obtain ⟨frame, hmem, hcarries, hage⟩ := h.sound signal hfresh
    have hlatest := hlast.latest hordered hmem hcarries
    have hmaximum := (freshness.maximumAgeMs signal).toNat_lt
    omega
  · intro h
    refine ⟨?sound, ?latched⟩
    case sound =>
      intro signal hfresh
      rcases lastCarried_or_never decoder frames signal with ⟨time, hlast⟩ | hnever
      · have hyoung := young_of_fresh hlast (hlast.le htime) (h signal) hfresh
        obtain ⟨earlier, frame, later, rfl, hcarries, -, rfl⟩ := hlast
        exact ⟨frame, by simp, hcarries, hyoung⟩
      · rw [shown_never hnever] at hfresh
        cases hfresh
    case latched =>
      rintro signal earlier later earlierMs rfl hearlier hle hstale hfresh
      by_contra hnone
      have hlater : ∀ frame ∈ later, ¬ Carries decoder frame signal :=
        fun frame hmem hcarries => hnone ⟨frame, hmem, hcarries⟩
      rcases lastCarried_or_never decoder earlier signal with ⟨time, hlast⟩ | hnever
      · have hold := old_of_stale hlast (hlast.le hearlier) hstale
        have hlast' := hlast.append_of_not_carries hlater
        have hyoung := young_of_fresh hlast' (hlast'.le htime) (h signal) hfresh
        omega
      · rw [shown_never hnever] at hstale
        cases hstale

theorem fresh_in_true_time_iff_oneSecond :
    FreshInTrueTime rpmDecoder {} [{ timestampUs := 1000000 }] 1200 ↔
      ∀ signal, ¬ Aliased rpmDecoder {} [{ timestampUs := 1000000 }] 1200 signal :=
  fresh_in_true_time_iff rpmDecoder {} (by simp) (by decide)

/-- The engine speed of one frame, seen a second later and again after 2^32 ms. -/
theorem silent_engine_revived :
    shown rpmDecoder {} [{ }] 1000 .engineRpm = .stale ∧
      shown rpmDecoder {} [{ }] (2 ^ 32) .engineRpm = .fresh ∧
      ¬ FreshInTrueTime rpmDecoder {} [{ }] (2 ^ 32) := by
  have hstale : shown rpmDecoder {} [{ }] 1000 .engineRpm = .stale := by decide
  have hfresh : shown rpmDecoder {} [{ }] (2 ^ 32) .engineRpm = .fresh := by decide
  refine ⟨hstale, hfresh, fun h => ?_⟩
  obtain ⟨frame, hmem, -, hage⟩ := h.sound .engineRpm hfresh
  rw [List.mem_singleton] at hmem
  subst hmem
  revert hage
  decide

end VehicleStateAssembler

end BmwRemote.Infrastructure
