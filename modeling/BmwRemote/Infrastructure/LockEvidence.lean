import BmwRemote.Infrastructure.EspIdfTwaiReceiver
import BmwRemote.Infrastructure.LockGesture

/-! Which messages the evidence of the lock command adapter rests on. The adapter reads the
bytes of a frame and never its flags. -/
namespace BmwRemote.Infrastructure

open BmwRemote.Application BmwRemote.Lib

namespace CanLockCommandAdapter

structure Pressed (adapter : CanLockCommandAdapter) (frame : CanFrame) : Prop
    extends adapter.Continues frame where
  command : adapter.config.lockCommand.matchesFrame frame = true
  edge : adapter.lastCommandActive = false

def identifies (config : CanLockCommandAdapterConfig) (reception : Reception) : Bool :=
  reception.message.identifier == config.identifier &&
    reception.message.extended == config.extended

/-- The last message of a sequence that has the configured identifier. -/
def lastIdentified (config : CanLockCommandAdapterConfig) (receptions : List Reception) :
    Option Reception :=
  (receptions.filter (identifies config)).getLast?

def machine : Machine CanLockCommandAdapter Reception CanLockDecodeResult :=
  fun adapter reception => adapter.process reception.frame

abbrev Call := Step CanLockCommandAdapter Reception CanLockDecodeResult

def Ignored (call : Call) : Prop := call.output.status = .ignored

/-- The frame was taken as the adapter's last one. -/
def Recognised (call : Call) : Prop :=
  call.output.status = .primed ∨ call.output.status = .noCommand ∨
    call.output.status = .evidenceProduced

/-- `previous` is the last recognised call, against which the next edge is measured. -/
def Preceded (past : List Call) (previous : Call) : Prop :=
  Recognised previous ∧ ∃ since, Since (fun call => ¬ Ignored call) past previous since

variable {adapter : CanLockCommandAdapter} {config : CanLockCommandAdapterConfig}

theorem isValid_of_identifies {reception : Reception} (hvalid : config.isValid = true)
    (h : identifies config reception = true) : reception.frame.isValid = true := by
  simp only [identifies, Bool.and_eq_true, beq_iff_eq] at h
  have hlength := reception.dataLength_le
  simp only [CanLockCommandAdapterConfig.isValid, Bool.and_eq_true, decide_eq_true_eq] at hvalid
  simp only [CanFrame.isValid, Reception.frame_identifier, Reception.frame_extended,
    Reception.frame_direction, h.1, h.2, hlength, Bool.and_eq_true, decide_eq_true_eq,
    beq_self_eq_true, and_true, true_and]
  exact hvalid.1.1.1.1.1.1.1.1

theorem not_recognised_of_foreign {reception : Reception}
    (h : identifies adapter.config reception = false) :
    ¬ Recognised (machine.stepOf adapter reception) := by
  have hforeign : reception.frame.identifier ≠ adapter.config.identifier ∨
      reception.frame.extended ≠ adapter.config.extended := by
    simpa [identifies, or_iff_not_imp_left] using h
  simp only [Recognised, machine, Machine.stepOf_output]
  unfold process
  dsimp only
  split
  · simp
  split
  · simp [reject]
  split
  · simp [reject]
  · simp

theorem decode_not_ignored (adapter : CanLockCommandAdapter) (frame : CanFrame) :
    (adapter.decode frame).1.status ≠ .ignored := by
  unfold decode
  dsimp only
  split
  · exact nofun
  split
  · exact nofun
  split
  · exact nofun
  split
  · exact nofun
  · exact nofun

theorem not_ignored_of_identifies {reception : Reception}
    (h : identifies adapter.config reception = true) :
    ¬ Ignored (machine.stepOf adapter reception) := by
  have hidentity : ¬ (reception.frame.identifier ≠ adapter.config.identifier ∨
      reception.frame.extended ≠ adapter.config.extended) := by
    simpa [identifies] using h
  simp only [Ignored, machine, Machine.stepOf_output]
  unfold process
  dsimp only
  rw [if_neg hidentity]
  split
  · exact nofun
  split
  · exact nofun
  split
  · exact nofun
  split
  · exact nofun
  split
  · exact nofun
  · exact decode_not_ignored adapter reception.frame

theorem Pressed.decode_status {frame : CanFrame} (h : adapter.Pressed frame) :
    (adapter.decode frame).1.status = .evidenceProduced := by
  have hinitialized := h.initialized
  have horder := UInt16.not_le.2 h.counterOrder
  unfold decode
  dsimp only
  rw [if_neg (by simp [hinitialized]), if_neg h.counter, if_neg horder,
    if_neg (by simp [h.command, h.edge])]

theorem Continues.not_regressing {frame : CanFrame} (h : adapter.Continues frame) :
    (adapter.initialized && frame.timestampMilliseconds != adapter.lastTimestampMs &&
      !strictlyNewer frame.timestampMilliseconds adapter.lastTimestampMs) = false := by
  rcases h.time with hsame | hnewer
  · simp [hsame]
  · simp [hnewer]

theorem evidenceProduced_iff {reception : Reception} (henabled : adapter.config.enabled = true)
    (hvalid : adapter.config.isValid = true) :
    (machine adapter reception).1.status = .evidenceProduced ↔
      adapter.Pressed reception.frame := by
  constructor
  · intro hstatus
    have hdecoded := adapter.process_decoded reception.frame
    change (adapter.process reception.frame).1.status = _ at hstatus
    generalize adapter.process reception.frame = result at hdecoded hstatus
    obtain ⟨decoded, after⟩ := result
    cases hdecoded with
    | disabled | ignored | primed | noCommand => cases hstatus
    | rejected _ hreset =>
      simp only at hstatus
      rw [hstatus] at hreset
      cases hreset
    | evidence _ _ _ hcontinues hcommand hedge => exact ⟨hcontinues, hcommand, hedge⟩
  · intro hpressed
    have hidentity : ¬ (reception.frame.identifier ≠ adapter.config.identifier ∨
        reception.frame.extended ≠ adapter.config.extended) := by
      simp [← hpressed.identifier, ← hpressed.extended]
    have hframe : reception.frame.isValid = true := by
      apply isValid_of_identifies hvalid
      simp [identifies, ← hpressed.identifier, ← hpressed.extended]
    simp only [machine]
    unfold process
    simp only [henabled, hvalid, hframe, hpressed.not_regressing, if_neg hidentity,
      hpressed.dataLength, ne_eq, not_true_eq_false, Bool.not_true, Bool.false_eq_true, ↓reduceIte]
    exact hpressed.decode_status

theorem Preceded.here {past : List Call} {call : Call} (h : Recognised call) :
    Preceded (past ++ [call]) call := by
  refine ⟨h, [], Since.here ?_⟩
  intro hignored
  rw [Recognised, show call.output.status = .ignored from hignored] at h
  simp at h

theorem Preceded.concat {past : List Call} {call previous : Call} (h : Preceded past previous)
    (hcall : Ignored call) : Preceded (past ++ [call]) previous := by
  obtain ⟨hrecognised, since, hsince⟩ := h
  exact ⟨hrecognised, since ++ [call], hsince.concat (not_not_intro hcall)⟩

theorem Decoded.initialized {frame : CanFrame} {result : CanLockDecodeResult}
    {after : CanLockCommandAdapter} (h : Decoded adapter frame result after)
    (henabled : adapter.config.enabled = true) (hinitialized : after.initialized = true) :
    (result.status = .ignored ∧ adapter.initialized = true) ∨ result.status = .primed ∨
      result.status = .noCommand ∨ result.status = .evidenceProduced := by
  cases h with
  | disabled hdisabled => simp [henabled] at hdisabled
  | ignored => exact .inl ⟨rfl, hinitialized⟩
  | rejected => cases hinitialized
  | primed | noCommand | evidence => simp

/-- The calls of a run of an adapter with this configuration. -/
structure Remembers (config : CanLockCommandAdapterConfig) (adapter : CanLockCommandAdapter)
    (past : List Call) : Prop where
  enabled : config.enabled = true
  config_eq : adapter.config = config
  preceded : adapter.initialized = true → ∃ previous, Preceded past previous
  recognised : ∀ call ∈ past, Recognised call → identifies config call.input = true
  ignored : ∀ call ∈ past, Ignored call → identifies config call.input = false

theorem Remembers.step {past : List Call} (h : Remembers config adapter past)
    (reception : Reception) :
    Remembers config (machine adapter reception).2
      (past ++ [machine.stepOf adapter reception]) := by
  have hdecoded := adapter.process_decoded reception.frame
  have hconfig := h.config_eq
  refine ⟨h.enabled, hdecoded.config.trans hconfig, ?_, ?_, ?_⟩
  · intro hinitialized
    have henabled : adapter.config.enabled = true := hconfig ▸ h.enabled
    rcases hdecoded.initialized henabled hinitialized with ⟨hignored, hsame⟩ | hcall
    · obtain ⟨previous, hpreceded⟩ := h.preceded hsame
      exact ⟨previous, hpreceded.concat hignored⟩
    · exact ⟨machine.stepOf adapter reception, Preceded.here hcall⟩
  · intro call hmem hrecognised
    rcases List.mem_append.1 hmem with hold | hnew
    · exact h.recognised call hold hrecognised
    · rw [List.mem_singleton] at hnew
      subst hnew hconfig
      cases hforeign : identifies adapter.config reception with
      | true => exact hforeign
      | false => exact absurd hrecognised (not_recognised_of_foreign hforeign)
  · intro call hmem hignored
    rcases List.mem_append.1 hmem with hold | hnew
    · exact h.ignored call hold hignored
    · rw [List.mem_singleton] at hnew
      subst hnew hconfig
      apply Bool.eq_false_iff.2
      intro hidentified
      exact not_ignored_of_identifies hidentified hignored

theorem Remembers.evidenceProduced_iff {past : List Call} (h : Remembers config adapter past)
    (hvalid : config.isValid = true) (reception : Reception) :
    (machine adapter reception).1.status = .evidenceProduced ↔
      adapter.Pressed reception.frame := by
  obtain ⟨henabled, rfl⟩ := And.intro h.enabled h.config_eq
  exact CanLockCommandAdapter.evidenceProduced_iff henabled hvalid

theorem Remembers.run (henabled : config.enabled = true) (receptions : List Reception) :
    Remembers config (machine.final { config := config } receptions)
      (machine.transcript { config := config } receptions) := by
  apply machine.history_induction (Remembers config)
  · exact ⟨henabled, rfl, nofun, by simp, by simp⟩
  · intro adapter past h reception
    exact h.step reception

theorem Remembers.lastIdentified {past : List Call} (h : Remembers config adapter past)
    {previous : Call} (hpreceded : Preceded past previous) :
    lastIdentified config (past.map (fun call => call.input)) = some previous.input := by
  obtain ⟨hrecognised, since, ⟨earlier, hpast⟩, -, hsince⟩ := hpreceded
  have hprevious : identifies config previous.input = true :=
    h.recognised previous (by simp [hpast]) hrecognised
  have hforeign : (since.map (fun call => call.input)).filter
      (identifies config) = [] := by
    rw [List.filter_eq_nil_iff, List.forall_mem_map]
    intro call hmem
    have hignored : Ignored call := not_not.1 (hsince call hmem)
    simp [h.ignored call (by simp [hpast, hmem]) hignored]
  rw [CanLockCommandAdapter.lastIdentified, hpast, List.map_append, List.map_cons,
    List.filter_append, List.filter_cons_of_pos hprevious, hforeign, List.getLast?_concat]

/-- All evidence of a run, and the recognised frame before it, rests on frames without the
remote or DLC flag. -/
def EvidenceGenuine (config : CanLockCommandAdapterConfig) (receptions : List Reception) : Prop :=
  ∀ past call future,
    machine.transcript { config := config } receptions = past ++ call :: future →
    call.output.status = .evidenceProduced → call.input.frame.Genuine ∧
      ∀ previous, Preceded past previous → previous.input.frame.Genuine

/-- Every message that turns the command on is plain, and so is the last message before it
with the configured identifier. -/
def PressesPlain (config : CanLockCommandAdapterConfig) (receptions : List Reception) : Prop :=
  ∀ earlier reception later, receptions = earlier ++ reception :: later →
    (machine.final { config := config } earlier).Pressed reception.frame →
    reception.message.Plain ∧
      ∀ previous, lastIdentified config earlier = some previous → previous.message.Plain

/-- Over every sequence of received messages, evidence is genuine exactly when all presses
are plain messages. -/
theorem evidence_genuine_iff (config : CanLockCommandAdapterConfig)
    (henabled : config.enabled = true) (hvalid : config.isValid = true)
    (receptions : List Reception) :
    EvidenceGenuine config receptions ↔ PressesPlain config receptions := by
  constructor
  · intro hgenuine earlier reception later hsplit hpressed
    have hrun := Remembers.run henabled earlier
    obtain ⟨call, hpreceded⟩ := hrun.preceded hpressed.initialized
    obtain ⟨hframe, hprevious⟩ := hgenuine (machine.transcript { config := config } earlier)
      (machine.stepOf (machine.final { config := config } earlier) reception) _
      (by rw [hsplit, machine.transcript_append]; rfl)
      ((hrun.evidenceProduced_iff hvalid reception).2 hpressed)
    refine ⟨reception.genuine_iff.1 hframe, ?_⟩
    intro previous hlast
    have hcall := hrun.lastIdentified hpreceded
    rw [machine.map_input_transcript, hlast, Option.some.injEq] at hcall
    rw [hcall]
    exact call.input.genuine_iff.1 (hprevious call hpreceded)
  · intro hsound past call future hsplit hstatus
    obtain ⟨earlier, reception, later, hreceptions, hpast, hcall⟩ :=
      machine.transcript_split hsplit
    have hrun := Remembers.run henabled earlier
    rw [hcall] at hstatus ⊢
    have hpressed := (hrun.evidenceProduced_iff hvalid reception).1 hstatus
    obtain ⟨hplain, hprevious⟩ := hsound earlier reception later hreceptions hpressed
    refine ⟨reception.genuine_iff.2 hplain, ?_⟩
    intro previous hpreceded
    rw [hpast] at hpreceded
    apply previous.input.genuine_iff.2
    apply hprevious
    rw [← hrun.lastIdentified hpreceded, machine.map_input_transcript]

def activeAtZero : CanLockCommandAdapterConfig :=
  { enabled := true, trust := .verified, identifier := 0x321, dataLength := 3,
    lockCommand := ⟨0, 1, 0⟩, vehicleSecured := ⟨1, 1, 0⟩, rollingCounter := ⟨2, 15⟩ }

def receptionOf (remote : Bool) (nowUs : UInt64) (data : Vector UInt8 8) : Reception where
  receiver := {}
  nowUs := nowUs
  message := ⟨0x321, false, remote, false, 3, data⟩
  unmarked := EspIdfTwaiReceiver.Unmarked.initial 100000 0

def released : Reception := receptionOf false 1000 #v[1, 1, 15, 0, 0, 0, 0, 0]
def locked : Reception := receptionOf false 2000 #v[0, 0, 0, 0, 0, 0, 0, 0]
def remoteRequest : Reception := receptionOf true 2000 #v[1, 1, 1, 1, 1, 1, 1, 1]

/-- A remote frame, which carries no bytes, is evidence of a press of a secured vehicle. -/
theorem remote_frame_is_evidence :
    let first := machine.stepOf { config := activeAtZero } released
    let second := machine.stepOf first.after remoteRequest
    activeAtZero.isValid = true ∧
      machine.transcript { config := activeAtZero } [released, remoteRequest] = [first, second] ∧
      second.output.status = .evidenceProduced ∧ second.output.evidence.vehicleSecured = true ∧
      ¬ remoteRequest.frame.Genuine ∧
      ¬ EvidenceGenuine activeAtZero [released, remoteRequest] := by
  intro first second
  have hproduced : second.output.status = .evidenceProduced := by decide
  have hremote : ¬ remoteRequest.frame.Genuine := by decide
  refine ⟨by decide, rfl, hproduced, by decide, hremote, ?_⟩
  intro hgenuine
  exact hremote (hgenuine [first] second [] rfl hproduced).1

theorem evidence_genuine_iff_locked : EvidenceGenuine activeAtZero [released, locked] := by
  refine (evidence_genuine_iff activeAtZero rfl (by decide) [released, locked]).2 ?_
  intro earlier reception later hsplit hpressed
  cases earlier with
  | nil => cases hpressed.initialized
  | cons first rest =>
    cases rest with
    | nil =>
      cases hsplit
      refine ⟨by decide, ?_⟩
      intro previous hlast
      obtain rfl : released = previous := Option.some.inj hlast
      decide
    | cons => simp at hsplit

end CanLockCommandAdapter

end BmwRemote.Infrastructure
