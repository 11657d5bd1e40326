import BmwRemote.Host.FloatImport
import BmwRemote.Lib.FileStore
import BmwRemote.Lib.Transcript

/-! A capture from a bus that must only listen. The driver, the clock and the file system
may answer with anything and fail anywhere, and the user may interrupt the capture; what
was done on the bus is recorded call by call. -/
namespace BmwRemote.Host.CaptureCanTrace

open BmwRemote.Lib CanonicalTrace FloatImport FileOperation
open ImportCanTrace (CanMessage roundTrips)

inductive ErrorKind where
  | value
  | runtime
  | os
  | fileExists
  | interrupt
  | other
  deriving DecidableEq, Repr

structure PyError where
  kind : ErrorKind
  message : String
  deriving DecidableEq, Repr

def PyError.ofImport : ImportError → PyError
  | .valueError message => ⟨.value, message⟩
  | .overflowError message => ⟨.other, message⟩

def PyError.isException (error : PyError) : Bool := error.kind ≠ .interrupt

inductive BusState where
  | active
  | passive
  | error
  deriving DecidableEq, Repr

/-- The keyword with which a bus is asked only to listen. -/
inductive PassiveOption where
  | state (state : BusState)
  | listenOnly (enabled : Bool)
  deriving DecidableEq, Repr

inductive BusCall where
  | opening (interface channel : String) (bitrate : Int) (option : PassiveOption)
  | state
  | recv (timeout : FloatValue)
  | shutdown
  deriving DecidableEq

/-- A turn of the capture loop: the time it sees, and what the bus then receives. -/
structure Tick where
  now : FloatValue
  message : Except PyError (Option CanMessage)

/-- How driver and clock answer one capture. After the last turn the user interrupts. -/
structure BusAnswers where
  opened : Except PyError Unit
  state : Except PyError BusState
  startedAt : FloatValue
  ticks : List Tick
  shutdown : Except PyError Unit

abbrev OnBus (α : Type) := Except PyError α × List BusCall

def supportedInterfaces : List String := ["pcan", "slcan"]

def passiveBusOptions (interface : String) : Except PyError (PassiveOption × String) :=
  if interface = "pcan" then .ok (.state .passive, "pcan BusState.PASSIVE confirmed")
  else if interface = "slcan" then .ok (.listenOnly true, "slcan listen_only requested")
  else
    .error ⟨.value, "interface '" ++ interface ++ "' has no qualified listen-only configuration; " ++
      "supported interfaces: " ++ ", ".intercalate supportedInterfaces⟩

/-- A shutdown that fails raises its own error in place of the one that led to it. -/
def shutdownThen {α : Type} (answers : BusAnswers) (result : Except PyError α) : OnBus α :=
  (match answers.shutdown with
    | .error error => .error error
    | .ok () => result,
    [.shutdown])

def confirmPassive (answers : BusAnswers) (interface evidence : String) : OnBus String :=
  if interface = "pcan" then
    match answers.state with
    | .error error =>
        if error.isException then
          let (result, calls) := shutdownThen answers
            (.error ⟨.runtime, "PCAN driver did not expose its bus state"⟩)
          (result, .state :: calls)
        else (.error error, [.state])
    | .ok state =>
        if state ≠ .passive then
          let (result, calls) := shutdownThen answers
            (.error ⟨.runtime, "PCAN driver did not confirm passive bus state"⟩)
          (result, .state :: calls)
        else (.ok evidence, [.state])
  else (.ok evidence, [])

def openPassiveBus (answers : BusAnswers) (interface channel : String) (bitrate : Int) :
    OnBus String :=
  match passiveBusOptions interface with
  | .error error => (.error error, [])
  | .ok (option, evidence) =>
      match answers.opened with
      | .error error =>
          (.error (if error.isException then
              ⟨.runtime, "unable to open CAN interface in listen-only mode: " ++ error.message⟩
            else error),
            [.opening interface channel bitrate option])
      | .ok () =>
          let (result, calls) := confirmPassive answers interface evidence
          (result, .opening interface channel bitrate option :: calls)

def interrupted : PyError := ⟨.interrupt, ""⟩

def captureLoop (durationSeconds : FloatValue) (maximumFrames : Int) (startedAt : FloatValue) :
    FloatValue → List CanMessage → List Tick → OnBus (List CanMessage)
  | _, _, [] => (.error interrupted, [])
  | previousNow, messages, tick :: ticks =>
      if tick.now.below previousNow then
        (.error ⟨.runtime, "monotonic capture clock moved backwards"⟩, [])
      else
        let remaining := durationSeconds.minus (tick.now.minus startedAt)
        if remaining.atMost (.finite 0) then (.ok messages, [])
        else if maximumFrames ≤ messages.length then
          (.error ⟨.value, "maximum frame count reached before capture duration elapsed"⟩, [])
        else
          let timeout := if remaining.below (.finite (1 / 4)) then remaining else .finite (1 / 4)
          match tick.message with
          | .error error => (.error error, [.recv timeout])
          | .ok message =>
              let (result, calls) := captureLoop durationSeconds maximumFrames startedAt tick.now
                (messages ++ message.toList) ticks
              (result, .recv timeout :: calls)

def captureFrames (answers : BusAnswers) (durationSeconds : FloatValue) (maximumFrames : Int) :
    OnBus (List CanonicalFrame) :=
  if !durationSeconds.isFinite || durationSeconds.atMost (.finite 0) then
    (.error ⟨.value, "capture duration must be finite and greater than zero"⟩, [])
  else if maximumFrames ≤ 0 then
    (.error ⟨.value, "maximum frame count must be greater than zero"⟩, [])
  else
    let (result, calls) := captureLoop durationSeconds maximumFrames answers.startedAt
      answers.startedAt [] answers.ticks
    (result.bind fun messages =>
        (canonicalizeMessages messages maximumFrames).mapError PyError.ofImport,
      calls)

structure CaptureSummary where
  frameCount : Nat
  uniqueIdentifierCount : Nat
  timestampSpanMs : Nat
  passiveEvidence : String
  deriving DecidableEq

def summarizeCapture (frames : List CanonicalFrame) (passiveEvidence : String) :
    Except PyError CaptureSummary :=
  match frames.getLast? with
  | none => .error ⟨.value, "trace contains no CAN frames"⟩
  | some last =>
      .ok
        { frameCount := frames.length
          uniqueIdentifierCount :=
            (frames.map fun frame => (frame.identifier, frame.extended)).dedup.length
          timestampSpanMs := last.timestampMs
          passiveEvidence }

/-- How the file system answers one write of a trace. -/
structure FileAnswers where
  directory : Except PyError Unit
  created : Except PyError Unit
  /-- What the temporary file holds on the way, and whether all of it is then there. -/
  partly : List Text
  written : Except PyError Unit
  /-- A file that some other process puts at the output path in the meantime. -/
  appeared : Option Text
  replaced : Except PyError Unit
  unlinked : Except PyError Unit

def temporaryName (output random : Text) : Text :=
  Text.ascii "." ++ output ++ Text.ascii "." ++ random ++ Text.ascii ".tmp"

abbrev Files := FileStore Text Text

def unlinkTemporary (temporary : Text) (answers : FileAnswers) (error : PyError)
    (disk : Disk Text Text) : Except PyError Unit × Disk Text Text :=
  match answers.unlinked with
  | .error other => (.error other, disk)
  | .ok () => (.error error, disk.perform (remove temporary))

def traceText (frames : List CanonicalFrame) : Text := utf8 (writeCanonicalCsv frames)

def outputExists : PyError := ⟨.fileExists, "output already exists"⟩

def writeTraceAtomically (output random : Text) (frames : List CanonicalFrame) (overwrite : Bool)
    (answers : FileAnswers) (disk : Disk Text Text) : Except PyError Unit × Disk Text Text :=
  if (disk.files output).isSome && !overwrite then (.error outputExists, disk)
  else
    match answers.directory, answers.created with
    | .error error, _ => (.error error, disk)
    | .ok (), .error error => (.error error, disk)
    | .ok (), .ok () =>
        let temporary := temporaryName output random
        let disk := (disk.perform (put temporary [])).rewrite temporary answers.partly
        match answers.written with
        | .error error => unlinkTemporary temporary answers error disk
        | .ok () =>
            let disk := disk.perform (put temporary (traceText frames))
            let disk := disk.rewrite output answers.appeared.toList
            if (disk.files output).isSome && !overwrite then
              unlinkTemporary temporary answers outputExists disk
            else
              match answers.replaced with
              | .error error => unlinkTemporary temporary answers error disk
              | .ok () => (.ok (), disk.perform (rename temporary output))

structure CaptureRequest where
  interface : String
  channel : String
  bitrate : Int
  durationSeconds : FloatValue
  maximumFrames : Int
  output : Text
  overwrite : Bool := false

def captureFromBus (answers : BusAnswers) (request : CaptureRequest) :
    OnBus (List CanonicalFrame × String) :=
  match openPassiveBus answers request.interface request.channel request.bitrate with
  | (.error error, calls) => (.error error, calls)
  | (.ok evidence, calls) =>
      let (frames, receiving) := captureFrames answers request.durationSeconds request.maximumFrames
      let (frames, closing) := shutdownThen answers frames
      (frames.map fun frames => (frames, evidence), calls ++ receiving ++ closing)

def captureToFile (bus : BusAnswers) (file : FileAnswers) (random : Text)
    (request : CaptureRequest) (files : Files) :
    Except PyError CaptureSummary × List BusCall × Disk Text Text :=
  match captureFromBus bus request with
  | (.error error, calls) => (.error error, calls, { files })
  | (.ok (frames, evidence), calls) =>
      match writeTraceAtomically request.output random frames request.overwrite file { files } with
      | (.error error, disk) => (.error error, calls, disk)
      | (.ok (), disk) => (summarizeCapture frames evidence, calls, disk)

/-! What is done on the bus. -/

section Bus

variable {answers : BusAnswers} {request : CaptureRequest} {α : Type}

def Waits (call : BusCall) : Prop :=
  ∃ timeout, call = .recv timeout ∧ (FloatValue.finite 0).below timeout = true ∧
    timeout.atMost (.finite (1 / 4)) = true

theorem waits_timeout {remaining : FloatValue} (h : remaining.atMost (.finite 0) = false) :
    Waits (.recv (if remaining.below (.finite (1 / 4)) then remaining else .finite (1 / 4))) := by
  refine ⟨_, rfl, ?_⟩
  split
  · rename_i hshort
    cases remaining with
    | nan => cases hshort
    | infinite negative =>
      cases negative with
      | true => cases h
      | false => cases hshort
    | finite value =>
      simp only [FloatValue.atMost, FloatValue.below, FloatValue.equals, Bool.or_eq_false_iff,
        decide_eq_false_iff_not, decide_eq_true_eq] at h hshort
      have hpositive : 0 < value := lt_of_le_of_ne (not_lt.1 h.1) (Ne.symm h.2)
      exact ⟨decide_eq_true hpositive, Bool.or_eq_true_iff.2 (.inl (decide_eq_true hshort))⟩
  · exact ⟨by decide +kernel, by decide +kernel⟩

theorem captureLoop_waits (durationSeconds startedAt : FloatValue) (maximumFrames : Int)
    (previousNow : FloatValue) (messages : List CanMessage) (ticks : List Tick) :
    ∀ call ∈ (captureLoop durationSeconds maximumFrames startedAt previousNow messages ticks).2,
      Waits call := by
  induction ticks generalizing previousNow messages with
  | nil => simp [captureLoop]
  | cons tick ticks ih =>
    rw [captureLoop]
    split
    · simp
    dsimp only
    split
    · simp
    rename_i hremaining
    split
    · simp
    have hwaits := waits_timeout ((Bool.not_eq_true _).mp hremaining)
    split
    · rw [List.forall_mem_singleton]
      exact hwaits
    · rw [List.forall_mem_cons]
      exact ⟨hwaits, ih tick.now _⟩

theorem captureFrames_waits (answers : BusAnswers) (durationSeconds : FloatValue)
    (maximumFrames : Int) :
    ∀ call ∈ (captureFrames answers durationSeconds maximumFrames).2, Waits call := by
  unfold captureFrames
  split
  · simp
  split
  · simp
  · exact captureLoop_waits durationSeconds answers.startedAt maximumFrames _ _ _

/-- The bus was asked only to listen, and a PCAN driver has confirmed that it does. -/
inductive Listens (answers : BusAnswers) (request : CaptureRequest) : List BusCall → Prop
  | pcan (h : request.interface = "pcan") (hpassive : answers.state = .ok .passive) :
      Listens answers request
        [.opening request.interface request.channel request.bitrate (.state .passive), .state]
  | slcan (h : request.interface = "slcan") :
      Listens answers request
        [.opening request.interface request.channel request.bitrate (.listenOnly true)]

inductive Refuses (answers : BusAnswers) (request : CaptureRequest) : List BusCall → Prop
  | unsupported (h : request.interface ∉ supportedInterfaces) : Refuses answers request []
  | unopened (error : PyError) (h : answers.opened = .error error) (option : PassiveOption) :
      Refuses answers request [.opening request.interface request.channel request.bitrate option]
  | interrupted (error : PyError) (h : answers.state = .error error)
      (herror : error.isException = false) (option : PassiveOption) :
      Refuses answers request
        [.opening request.interface request.channel request.bitrate option, .state]
  | unconfirmed (option : PassiveOption) :
      Refuses answers request
        [.opening request.interface request.channel request.bitrate option, .state, .shutdown]

theorem openPassiveBus_calls (answers : BusAnswers) (request : CaptureRequest) :
    let result := openPassiveBus answers request.interface request.channel request.bitrate
    ((∃ evidence, result.1 = .ok evidence) ∧ Listens answers request result.2) ∨
      ((∃ error, result.1 = .error error) ∧ Refuses answers request result.2) := by
  dsimp only
  unfold openPassiveBus passiveBusOptions
  by_cases hpcan : request.interface = "pcan"
  · rw [if_pos hpcan]
    dsimp only
    cases hopened : answers.opened with
    | error error => exact .inr ⟨⟨_, rfl⟩, .unopened error hopened _⟩
    | ok opened =>
      dsimp only
      unfold confirmPassive
      rw [if_pos hpcan]
      cases hstate : answers.state with
      | error error =>
        right
        cases hexception : error.isException with
        | false =>
          simp only [hexception, Bool.false_eq_true, if_false]
          exact ⟨⟨_, rfl⟩, .interrupted error hstate hexception _⟩
        | true =>
          simp only [hexception, if_true, shutdownThen]
          refine ⟨?_, .unconfirmed _⟩
          split
          · exact ⟨_, rfl⟩
          · exact ⟨_, rfl⟩
      | ok state =>
        by_cases hpassive : state = .passive
        · rw [hpassive] at hstate ⊢
          left
          exact ⟨⟨_, rfl⟩, .pcan hpcan hstate⟩
        · right
          simp only [ne_eq, hpassive, not_false_eq_true, if_true, shutdownThen]
          refine ⟨?_, .unconfirmed _⟩
          split
          · exact ⟨_, rfl⟩
          · exact ⟨_, rfl⟩
  rw [if_neg hpcan]
  by_cases hslcan : request.interface = "slcan"
  · rw [if_pos hslcan]
    dsimp only
    cases hopened : answers.opened with
    | error error => exact .inr ⟨⟨_, rfl⟩, .unopened error hopened _⟩
    | ok opened =>
      left
      dsimp only
      unfold confirmPassive
      rw [if_neg hpcan]
      exact ⟨⟨_, rfl⟩, .slcan hslcan⟩
  · rw [if_neg hslcan]
    exact .inr ⟨⟨_, rfl⟩, .unsupported (by simp [supportedInterfaces, hpcan, hslcan])⟩

theorem captureFromBus_calls (answers : BusAnswers) (request : CaptureRequest) :
    let calls := (captureFromBus answers request).2
    Refuses answers request calls ∨
      ∃ opening receiving, calls = opening ++ receiving ++ [.shutdown] ∧
        Listens answers request opening ∧ ∀ call ∈ receiving, Waits call := by
  dsimp only
  have hopening := openPassiveBus_calls answers request
  unfold captureFromBus
  generalize openPassiveBus answers request.interface request.channel request.bitrate = opening
    at hopening
  obtain ⟨result, calls⟩ := opening
  rcases hopening with ⟨⟨evidence, rfl⟩, hlistens⟩ | ⟨⟨error, rfl⟩, hrefuses⟩
  · exact .inr ⟨calls, _, rfl, hlistens, captureFrames_waits _ _ _⟩
  · exact .inl hrefuses

theorem calls_captureToFile (bus : BusAnswers) (file : FileAnswers) (random : Text)
    (request : CaptureRequest) (files : Files) :
    (captureToFile bus file random request files).2.1 = (captureFromBus bus request).2 := by
  unfold captureToFile
  split
  · rename_i hbus
    rw [hbus]
  · rename_i hbus
    rw [hbus]
    split
    · rfl
    · rfl

theorem waits_ne_shutdown {calls : List BusCall} (h : ∀ call ∈ calls, Waits call) :
    .shutdown ∉ calls := by
  intro hmem
  obtain ⟨timeout, hcall, -⟩ := h _ hmem
  cases hcall

theorem Listens.no_shutdown {calls : List BusCall} (h : Listens answers request calls) :
    .shutdown ∉ calls := by
  cases h with
  | pcan h hpassive => simp
  | slcan h => simp

theorem Listens.no_recv {calls : List BusCall} (h : Listens answers request calls)
    (timeout : FloatValue) : .recv timeout ∉ calls := by
  cases h with
  | pcan h hpassive => simp
  | slcan h => simp

theorem Refuses.no_recv {calls : List BusCall} (h : Refuses answers request calls)
    (timeout : FloatValue) : .recv timeout ∉ calls := by
  cases h with
  | unsupported h => simp
  | unopened error h option => simp
  | interrupted error h herror option => simp
  | unconfirmed option => simp

theorem Refuses.shutdown_count {calls : List BusCall} (h : Refuses answers request calls) :
    calls.count .shutdown ≤ 1 := by
  cases h with
  | unsupported h => simp
  | unopened error h option => simp
  | interrupted error h herror option => simp
  | unconfirmed option => simp

theorem prefix_of_notMem {first second earlier later : List BusCall} {call : BusCall}
    (h : first ++ second = earlier ++ call :: later) (hcall : call ∉ first) : first <+: earlier := by
  rcases List.append_eq_append_iff.1 h with ⟨middle, hearlier, -⟩ | ⟨middle, hfirst, hrest⟩
  · exact ⟨middle, hearlier.symm⟩
  · cases middle with
    | nil =>
      rw [List.append_nil] at hfirst
      exact ⟨[], by rw [hfirst, List.append_nil]⟩
    | cons head middle =>
      rw [List.cons_append, List.cons.injEq] at hrest
      rw [hfirst, hrest.1] at hcall
      exact absurd (List.mem_append_right _ List.mem_cons_self) hcall

/-- A capture only listens, and closes what it opens. Whatever driver, clock, user and file
system do: a bus that was opened is shut down once, and last, unless the reading of its
state is interrupted. It is only received from in between, never for longer than a quarter
of a second, and only after it was asked to listen and a PCAN driver has confirmed it. -/
theorem capture_only_listens (bus : BusAnswers) (file : FileAnswers) (random : Text)
    (request : CaptureRequest) (files : Files) :
    let calls := (captureToFile bus file random request files).2.1
    calls.count .shutdown ≤ 1 ∧
      (bus.opened = .ok () → request.interface ∈ supportedInterfaces →
        (∀ error, bus.state = .error error → error.isException = true) →
        ∃ earlier, calls = earlier ++ [.shutdown]) ∧
      ∀ earlier timeout later, calls = earlier ++ .recv timeout :: later →
        (FloatValue.finite 0).below timeout = true ∧ timeout.atMost (.finite (1 / 4)) = true ∧
        .shutdown ∉ earlier ∧ .shutdown ∈ later ∧
        ∃ opening, Listens bus request opening ∧ opening <+: earlier := by
  intro calls
  have hcalls : calls = (captureFromBus bus request).2 :=
    calls_captureToFile bus file random request files
  rw [hcalls]
  rcases captureFromBus_calls bus request with hrefuses | ⟨opening, receiving, hsplit, hlistens,
    hwaits⟩
  · refine ⟨hrefuses.shutdown_count, fun hopened hsupported hstate => ?_, ?_⟩
    · generalize (captureFromBus bus request).2 = refused at hrefuses
      cases hrefuses with
      | unsupported h => exact absurd hsupported h
      | unopened error h option =>
        rw [hopened] at h
        cases h
      | interrupted error h herror option =>
        rw [hstate error h] at herror
        cases herror
      | unconfirmed option => exact ⟨[_, _], rfl⟩
    · intro earlier timeout later hrecv
      refine absurd ?_ (hrefuses.no_recv timeout)
      rw [hrecv]
      exact List.mem_append_right _ List.mem_cons_self
  · have hbefore : .shutdown ∉ opening ++ receiving := by
      rw [List.mem_append, not_or]
      exact ⟨hlistens.no_shutdown, waits_ne_shutdown hwaits⟩
    rw [hsplit]
    refine ⟨?_, fun _ _ _ => ⟨_, rfl⟩, ?_⟩
    · rw [List.count_append, List.count_eq_zero.2 hbefore]
      simp
    · intro earlier timeout later hrecv
      obtain ⟨hlast, -⟩ | ⟨between, hlater, hbetween⟩ := concat_eq_append_cons hrecv
      · cases hlast
      have hmem : BusCall.recv timeout ∈ receiving := by
        have hall : BusCall.recv timeout ∈ opening ++ receiving := by
          rw [hbetween]
          exact List.mem_append_right _ List.mem_cons_self
        exact (List.mem_append.1 hall).resolve_left (hlistens.no_recv timeout)
      obtain ⟨other, hother, hpositive, hshort⟩ := hwaits _ hmem
      cases hother
      refine ⟨hpositive, hshort, fun hearlier => ?_, ?_, opening, hlistens, ?_⟩
      · apply hbefore
        rw [hbetween]
        exact List.mem_append_left _ hearlier
      · rw [hlater]
        exact List.mem_append_right _ (List.mem_singleton_self _)
      · exact prefix_of_notMem hbetween (hlistens.no_recv timeout)

end Bus

/-! What is done to the files. -/

section Write

variable {output random : Text} {frames : List CanonicalFrame} {overwrite : Bool}
  {answers : FileAnswers} {disk : Disk Text Text} {files start : Files}

theorem temporaryName_ne (output random : Text) : temporaryName output random ≠ output := by
  intro hsame
  have hlength := congrArg List.length hsame
  have hdot : (Text.ascii ".").length = 1 := by decide
  unfold temporaryName at hlength
  simp only [List.length_append, hdot] at hlength
  omega

/-- Nothing is touched but the output and the temporary file, and the output is what it was
or what some other process has put there. -/
structure Before (output random : Text) (answers : FileAnswers) (start files : Files) : Prop where
  untouched : ∀ other, other ≠ output → other ≠ temporaryName output random →
    files other = start other
  output : files output = start output ∨
    answers.appeared ≠ none ∧ files output = answers.appeared

/-- The output is as before, or a whole trace. -/
structure Whole (output random : Text) (traces : Text → Prop) (answers : FileAnswers)
    (start files : Files) : Prop where
  untouched : ∀ other, other ≠ output → other ≠ temporaryName output random →
    files other = start other
  output : (files output = start output ∨
      answers.appeared ≠ none ∧ files output = answers.appeared) ∨
    ∃ text, traces text ∧ files output = some text

theorem Before.whole (h : Before output random answers start files) (traces : Text → Prop) :
    Whole output random traces answers start files := ⟨h.untouched, .inl h.output⟩

theorem Before.put (h : Before output random answers start files) (text : Text) :
    Before output random answers start
      ((FileOperation.put (temporaryName output random) text).apply files) where
  untouched other houtput htemporary := by
    rw [apply_put_other htemporary]
    exact h.untouched other houtput htemporary
  output := by
    rw [apply_put_other (temporaryName_ne output random).symm]
    exact h.output

theorem Before.remove (h : Before output random answers start files) :
    Before output random answers start
      ((FileOperation.remove (temporaryName output random)).apply files) where
  untouched other houtput htemporary := by
    rw [apply_remove_other htemporary]
    exact h.untouched other houtput htemporary
  output := by
    rw [apply_remove_other (temporaryName_ne output random).symm]
    exact h.output

theorem Before.appeared (h : Before output random answers start files) {text : Text}
    (happeared : answers.appeared = some text) :
    Before output random answers start ((FileOperation.put output text).apply files) where
  untouched other houtput htemporary := by
    rw [apply_put_other houtput]
    exact h.untouched other houtput htemporary
  output := by
    rw [apply_put_same, happeared]
    exact .inr ⟨nofun, rfl⟩

/-- What a write of a trace makes of the files: on the way, when it returns, and when it raises. -/
structure WritesWhole (output random : Text) (frames : List CanonicalFrame) (overwrite : Bool)
    (answers : FileAnswers) (start : Files) (written : Except PyError Unit × Disk Text Text) :
    Prop where
  always : written.2.Always (Whole output random (· = traceText frames) answers start)
  returns : written.1 = .ok () → written.2.files output = some (traceText frames) ∧
    written.2.files (temporaryName output random) = none ∧
    (overwrite = false → start output = none ∧ answers.appeared = none)
  raises : ∀ error, written.1 = .error error → Before output random answers start written.2.files

theorem unlinkTemporary_whole (h : disk.Always (Before output random answers start))
    (error : PyError) :
    WritesWhole output random frames overwrite answers start
      (unlinkTemporary (temporaryName output random) answers error disk) := by
  unfold unlinkTemporary
  cases answers.unlinked with
  | error other => exact ⟨h.mono fun _ hbefore => hbefore.whole _, nofun, fun _ _ => h.now⟩
  | ok unlinked =>
    exact ⟨(h.perform h.now.remove).mono fun _ hbefore => hbefore.whole _, nofun,
      fun _ _ => h.now.remove⟩

theorem appeared_before (h : disk.Always (Before output random answers start)) :
    (disk.rewrite output answers.appeared.toList).Always (Before output random answers start) ∧
      ((disk.rewrite output answers.appeared.toList).files output = none →
        start output = none ∧ answers.appeared = none) := by
  cases happeared : answers.appeared with
  | none =>
    refine ⟨h, fun hnone => ⟨?_, rfl⟩⟩
    rcases h.now.output with hsame | ⟨hsome, -⟩
    · exact hsame.symm.trans hnone
    · exact absurd happeared hsome
  | some text =>
    refine ⟨h.perform (h.now.appeared happeared), fun hnone => ?_⟩
    have hput : (put output text).apply disk.files output = some text := apply_put_same
    rw [show (disk.rewrite output (some text).toList).files output =
      (put output text).apply disk.files output from rfl, hput] at hnone
    cases hnone

theorem writeTraceAtomically_whole (output random : Text) (frames : List CanonicalFrame)
    (overwrite : Bool) (answers : FileAnswers) (start : Files) :
    WritesWhole output random frames overwrite answers start
      (writeTraceAtomically output random frames overwrite answers { files := start }) := by
  have hbefore : Before output random answers start start :=
    ⟨fun _ _ _ => rfl, .inl rfl⟩
  have hstart : ({ files := start } : Disk Text Text).Always
      (Before output random answers start) := Disk.always_start hbefore
  have hunchanged : ∀ error, WritesWhole output random frames overwrite answers start
      (.error error, { files := start }) := fun error =>
    ⟨hstart.mono fun _ h => h.whole _, nofun, fun _ _ => hbefore⟩
  unfold writeTraceAtomically
  split
  · exact hunchanged _
  rename_i hfree
  cases answers.directory with
  | error error => exact hunchanged _
  | ok directory =>
  cases answers.created with
  | error error => exact hunchanged _
  | ok created =>
  dsimp only
  have hpartly := (hstart.perform (hbefore.put [])).rewrite answers.partly
    fun files text h => h.put text
  generalize (Disk.perform (put (temporaryName output random) []) { files := start }).rewrite
    (temporaryName output random) answers.partly = disk at hpartly
  cases answers.written with
  | error error => exact unlinkTemporary_whole hpartly error
  | ok written =>
  dsimp only
  have hput := hpartly.perform (hpartly.now.put (traceText frames))
  have htemporary : (disk.perform (put (temporaryName output random) (traceText frames))).files
      (temporaryName output random) = some (traceText frames) := apply_put_same
  generalize disk.perform (put (temporaryName output random) (traceText frames)) = disk
    at hput htemporary ⊢
  obtain ⟨hseen, hshows⟩ := appeared_before hput
  rw [← Disk.rewrite_other answers.appeared.toList disk (temporaryName_ne output random)]
    at htemporary
  generalize disk.rewrite output answers.appeared.toList = disk at hseen hshows htemporary ⊢
  split
  · exact unlinkTemporary_whole hseen _
  rename_i hstill
  cases answers.replaced with
  | error error => exact unlinkTemporary_whole hseen error
  | ok replaced =>
    have hsome : disk.files (temporaryName output random) ≠ none := by simp [htemporary]
    have hnew : (rename (temporaryName output random) output).apply disk.files output =
        some (traceText frames) := by rw [apply_rename_target hsome, htemporary]
    refine ⟨(hseen.mono fun _ h => h.whole _).perform ⟨?_, .inr ⟨_, rfl, hnew⟩⟩,
      fun _ => ⟨hnew, apply_rename_source hsome (temporaryName_ne output random), ?_⟩, nofun⟩
    · intro other houtput hother
      rw [apply_rename_other hother houtput]
      exact hseen.now.untouched other houtput hother
    · intro hkeep
      rw [hkeep, Bool.not_false, Bool.and_true, Option.not_isSome_iff_eq_none] at hstill
      exact hshows hstill

end Write

/-! A whole capture. -/

/-- What the bus delivers, turn by turn. -/
def delivered (ticks : List Tick) : List CanMessage :=
  ticks.flatMap fun tick => match tick.message with
    | .ok message => message.toList
    | .error _ => []

theorem captureLoop_ok {durationSeconds startedAt previousNow : FloatValue} {maximumFrames : Int}
    {messages captured : List CanMessage} {ticks : List Tick}
    (h : (captureLoop durationSeconds maximumFrames startedAt previousNow messages ticks).1 =
      .ok captured) :
    ∃ received, captured = messages ++ received ∧ received <+: delivered ticks := by
  induction ticks generalizing previousNow messages with
  | nil => cases h
  | cons tick ticks ih =>
    rw [captureLoop] at h
    split at h
    · cases h
    dsimp only at h
    split at h
    · cases h
      exact ⟨[], (List.append_nil _).symm, List.nil_prefix⟩
    split at h
    · cases h
    split at h
    · cases h
    · rename_i message hmessage
      obtain ⟨received, rfl, hprefix⟩ := ih h
      refine ⟨message.toList ++ received, List.append_assoc .., ?_⟩
      rw [delivered, List.flatMap_cons, hmessage]
      exact List.prefix_append_right_inj _ |>.mpr hprefix

/-- The frames are the first of the messages that the bus delivered. -/
def Heard (answers : BusAnswers) (maximumFrames : Int) (frames : List CanonicalFrame) : Prop :=
  ∃ received, received <+: delivered answers.ticks ∧
    canonicalizeMessages received maximumFrames = .ok frames

theorem captureFrames_ok {answers : BusAnswers} {durationSeconds : FloatValue}
    {maximumFrames : Int} {frames : List CanonicalFrame}
    (h : (captureFrames answers durationSeconds maximumFrames).1 = .ok frames) :
    Heard answers maximumFrames frames := by
  unfold captureFrames at h
  split at h
  · cases h
  split at h
  · cases h
  dsimp only at h
  obtain ⟨messages, hmessages, hframes⟩ := bind_eq_ok_iff.1 h
  obtain ⟨received, hreceived, hprefix⟩ := captureLoop_ok hmessages
  rw [hreceived, List.nil_append] at hframes
  exact ⟨received, hprefix, mapError_eq_ok_iff.mp hframes⟩

theorem captureFromBus_ok {answers : BusAnswers} {request : CaptureRequest}
    {frames : List CanonicalFrame} {evidence : String}
    (h : (captureFromBus answers request).1 = .ok (frames, evidence)) :
    Heard answers request.maximumFrames frames := by
  unfold captureFromBus at h
  split at h
  · cases h
  dsimp only at h
  unfold shutdownThen at h
  cases hshutdown : answers.shutdown with
  | error error =>
    rw [hshutdown] at h
    cases h
  | ok shutdown =>
    rw [hshutdown] at h
    cases hframes : (captureFrames answers request.durationSeconds request.maximumFrames).1 with
    | error error =>
      rw [hframes] at h
      cases h
    | ok captured =>
      rw [hframes] at h
      cases h
      exact captureFrames_ok hframes

structure Captured (answers : BusAnswers) (maximumFrames : Int) (frames : List CanonicalFrame) :
    Prop where
  length : (frames.length : Int) ≤ maximumFrames
  messages : ∃ received, received <+: delivered answers.ticks ∧ ∃ first ∈ received.head?,
    ∃ start ∈ first.timestamp, List.Forall₂ (Keeps start) received frames
  tool : parseCanonicalTrace (writeCanonicalCsv frames) maximumFrames = .ok frames
  simulator : ∃ read, List.Forall₂ SameFrame frames read ∧ ∀ before,
    CanTraceCsv.parseCanonicalCanTrace (traceText frames) before maximumFrames.toNat =
      .ok ⟨true, read, ""⟩

theorem Heard.captured {answers : BusAnswers} {maximumFrames : Int} {frames : List CanonicalFrame}
    (h : Heard answers maximumFrames frames) :
    frames ≠ [] ∧ Captured answers maximumFrames frames := by
  obtain ⟨received, hprefix, hframes⟩ := h
  obtain ⟨hreceived, -, himported⟩ := canonicalizeMessages_eq_ok_iff.mp hframes
  obtain ⟨hsome, hlength, hvalid, hordered⟩ := canonicalizeMessages_spec hframes
  have hlimit : ((maximumFrames.toNat : Nat) : Int) = maximumFrames :=
    Int.toNat_of_nonneg (by omega)
  obtain ⟨htool, read, hread, hsame, -⟩ := roundTrips hsome hvalid hordered
    (by omega : frames.length ≤ maximumFrames.toNat)
  rw [hlimit] at htool
  exact ⟨hsome, hlength, ⟨received, hprefix, himported.keeps_all hreceived⟩, htool, read, hsame,
    hread⟩

end BmwRemote.Host.CaptureCanTrace
