import BmwRemote.Lib.PythonText
import BmwRemote.Lib.PythonValue
import Mathlib.Data.List.Dedup
import Mathlib.Data.List.Sort

/-! The import of an engine-speed log: the rows of a table become samples with a state of the
engine, by thresholds that its mapping proposes. -/
namespace BmwRemote.Host.EngineSpeedLog

open BmwRemote.Lib

/-- The exceptions that a call may raise. -/
inductive Raised where
  | validationError (message : String)
  | keyError (key : String)
  | typeError
  | attributeError
  | valueError
  | overflowError
  | readError (message : String)
  deriving DecidableEq

abbrev Attempt := Except Raised

def validationError {α : Type} (message : String) : Attempt α := .error (.validationError message)

def missingFields (fields : List String) (document : PyDict) : List String :=
  fields.filter fun field => !document.has field

def required (document : PyDict) (fields : List String) (location : String) : Attempt Unit :=
  let missing := missingFields fields document
  if missing = [] then .ok ()
  else validationError (location ++ ": missing required fields: " ++ ", ".intercalate missing)

/-- `value in allowed`, which asks for the hash of the value. -/
def requireOneOf (value : PyValue) (allowed : List String) (message : String) : Attempt String :=
  match value with
  | .str text => if text ∈ allowed then .ok text else validationError message
  | .list _ | .dict _ => .error .typeError
  | .none | .bool _ | .int _ | .float _ => validationError message

/-! The mapping. -/

structure EngineMapping where
  delimiter : String
  encoding : String
  timestampUnit : String
  timestampColumn : String
  rpmColumn : String
  timeline : PyDict
  thresholds : PyDict

def mappingFields : List String :=
  ["candidate_thresholds", "columns", "example_only", "input", "mapping_id", "schema_version",
    "timeline"]

def timelineFields : List String :=
  ["evidence_index", "evidence_ref", "profile_ref", "source", "timeline_id"]

def delimiters : List String := [",", ";", "\\t", "|"]

def encodings : List String := ["utf-8", "utf-8-sig"]

def timestampUnits : List String := ["s", "ms", "us"]

def requireInput (input : PyDict) : Attempt (String × String × String) := do
  let delimiter ← requireOneOf (input.get "delimiter") delimiters
    "engine mapping.input.delimiter: unsupported delimiter"
  let encoding ← requireOneOf (input.get "encoding") encodings
    "engine mapping.input.encoding: unsupported encoding"
  let unit ← requireOneOf (input.get "timestamp_unit") timestampUnits
    "engine mapping.input.timestamp_unit: unsupported unit"
  return (delimiter, encoding, unit)

def NamesBoth (names : List PyValue) : Prop :=
  (∀ name ∈ names, name matches .str "timestamp" | .str "rpm") ∧
    (∃ name ∈ names, name matches .str "timestamp") ∧ ∃ name ∈ names, name matches .str "rpm"

instance (names : List PyValue) : Decidable (NamesBoth names) :=
  inferInstanceAs (Decidable (_ ∧ _ ∧ _))

/-- A list is a set of columns as well, but it has no `values`. -/
def requireColumns (columns : PyValue) : Attempt (String × String) :=
  let message := "engine mapping.columns: timestamp and rpm columns are required"
  match columns with
  | .dict items =>
    if NamesBoth (items.map fun item => .str item.1) then
      match PyDict.get items "timestamp", PyDict.get items "rpm" with
      | .str timestamp, .str rpm =>
        if timestamp ≠ "" ∧ rpm ≠ "" then .ok (timestamp, rpm) else validationError message
      | _, _ => validationError message
    else validationError message
  | .list names =>
    if ∀ name ∈ names, name.Hashable then
      if NamesBoth names then .error .attributeError else validationError message
    else .error .typeError
  | .str _ => validationError message
  | .none | .bool _ | .int _ | .float _ => .error .typeError

def requireTimeline (timeline : PyValue) (evidenceIds : List String) : Attempt PyDict :=
  match timeline with
  | .dict items =>
    if missingFields timelineFields items = [] then do
      let _ ← requireOneOf (PyDict.get items "evidence_ref") evidenceIds
        "engine mapping.timeline.evidence_ref: unknown evidence"
      return items
    else validationError "engine mapping.timeline: incomplete timeline metadata"
  | _ => validationError "engine mapping.timeline: incomplete timeline metadata"

def requireThresholds (thresholds : PyValue) : Attempt PyDict :=
  let message := "engine mapping.candidate_thresholds: candidate_only must be true"
  match thresholds with
  | .dict items =>
    match PyDict.get items "candidate_only" with
    | .bool true => .ok items
    | _ => validationError message
  | _ => validationError message

def requireMapping (mapping : PyDict) (evidenceIds : List String) : Attempt EngineMapping := do
  required mapping mappingFields "engine mapping"
  if (mapping.get "schema_version").number? ≠ some (.finite 1) then
    validationError "engine mapping.schema_version: expected 1"
  else
    match mapping.get "input" with
    | .dict input => do
      let (delimiter, encoding, timestampUnit) ← requireInput input
      let (timestampColumn, rpmColumn) ← requireColumns (mapping.get "columns")
      let timeline ← requireTimeline (mapping.get "timeline") evidenceIds
      let thresholds ← requireThresholds (mapping.get "candidate_thresholds")
      return ⟨delimiter, encoding, timestampUnit, timestampColumn, rpmColumn, timeline, thresholds⟩
    | _ => .error .attributeError

/-! The rows. -/

/-- What `csv.reader` yields of a file: its rows, and then its end or an exception of its own,
or of the decoder below it. No file has a path with a null character. -/
inductive Opened where
  | failed (error : String)
  | invalidPath
  | stream (rows : List (List String)) (failure : Option String)

structure InputFile where
  path : String
  /-- By the delimiter and the encoding. -/
  contents : String → String → Opened

def cell (fieldnames row : List String) (column : String) : Option String :=
  let padded := row.map some ++ List.replicate (fieldnames.length - row.length) none
  ((fieldnames.zip padded).reverse.lookup column).join

def reading (text : String) : Option FloatValue :=
  PythonText.float ((PythonText.strip text.toList).map fun character =>
    if character = ',' then '.' else character)

def round : FloatValue → Attempt ℤ
  | .finite value => .ok (roundHalfEven value)
  | .infinite _ => .error .overflowError
  | .nan => .error .valueError

def multiplier (unit : String) : Nat :=
  if unit = "s" then 1000000 else if unit = "ms" then 1000 else 1

def timestampToUs (value : Option String) (unit location : String) : Attempt ℤ :=
  match value with
  | none => .error .attributeError
  | some text =>
    match reading text with
    | none => validationError (location ++ ": invalid timestamp")
    | some numeric =>
      if numeric.below (.finite 0) then
        validationError (location ++ ": timestamp cannot be negative")
      else round (numeric.scale (multiplier unit))

def rpmOf (value : Option String) (location : String) : Attempt FloatValue :=
  match value with
  | none => .error .attributeError
  | some text =>
    match reading text with
    | none => validationError (location ++ ": invalid rpm")
    | some numeric =>
      if numeric.below (.finite 0) then validationError (location ++ ": rpm cannot be negative")
      else .ok numeric

structure Parsed where
  timestamp : ℤ
  rpm : FloatValue
  rowNumber : Nat
  deriving DecidableEq

section Rows

variable (path : String) (mapping : EngineMapping) (fieldnames : List String)

def location (rowNumber : Nat) : String := path ++ ":" ++ toString rowNumber

def parseRow (rowNumber : Nat) (row : List String) : Attempt Parsed := do
  let timestamp ← timestampToUs (cell fieldnames row mapping.timestampColumn)
    mapping.timestampUnit (location path rowNumber)
  let rpm ← rpmOf (cell fieldnames row mapping.rpmColumn) (location path rowNumber)
  return { timestamp, rpm, rowNumber }

def parseRows (failure : Option String) : Nat → List (List String) → Attempt (List Parsed)
  | _, [] =>
    match failure with
    | none => .ok []
    | some error => .error (.readError error)
  | rowNumber, row :: rest => do
    let parsed ← parseRow path mapping fieldnames rowNumber row
    let others ← parseRows failure (rowNumber + 1) rest
    return parsed :: others

end Rows

def missingColumns (mapping : EngineMapping) (fieldnames : List String) : List String :=
  ([mapping.timestampColumn, mapping.rpmColumn].dedup.filter (· ∉ fieldnames)).insertionSort (· ≤ ·)

def opened (file : InputFile) (mapping : EngineMapping) : Opened :=
  let delimiter := if mapping.delimiter = "\\t" then "\t" else mapping.delimiter
  file.contents delimiter mapping.encoding

def readRows (file : InputFile) (mapping : EngineMapping) : Attempt (List Parsed) :=
  match opened file mapping with
  | .failed error => validationError (file.path ++ ": cannot open input: " ++ error)
  | .invalidPath => .error .valueError
  | .stream [] none => validationError (file.path ++ ": header row is required")
  | .stream [] (some error) => .error (.readError error)
  | .stream (fieldnames :: rows) failure =>
    let missing := missingColumns mapping fieldnames
    if missing = [] then
      parseRows file.path mapping fieldnames failure 2 (rows.filter (· ≠ []))
    else
      validationError (file.path ++ ": missing mapped columns: " ++ ", ".intercalate missing)

/-! The states. -/

inductive ObservedState where
  | unknown
  | stopped
  | cranking
  | running
  deriving DecidableEq, Repr

inductive Transition where
  | stoppedToCranking
  | crankingToRunning
  | runningToStopped
  | toUnknown
  deriving DecidableEq, Repr

def transitionBetween (previous : Option ObservedState) (state : ObservedState) :
    Option Transition :=
  match previous with
  | none => none
  | some previous =>
    if previous = state then none
    else
      match previous, state with
      | .stopped, .cranking => some .stoppedToCranking
      | .cranking, .running => some .crankingToRunning
      | .running, .stopped => some .runningToStopped
      | _, _ => some .toUnknown

def threshold (thresholds : PyDict) (name : String) : Attempt FloatValue :=
  match thresholds.lookup name with
  | none => .error (.keyError name)
  | some value =>
    match value.number? with
    | none => .error .typeError
    | some number => .ok number

/-- What the loop knows of the samples before: whether the engine runs, and how many samples in
a row were within the band. -/
structure Hysteresis where
  running : Bool := false
  inBandCount : Nat := 0
  deriving DecidableEq, Repr

def inBand (thresholds : PyDict) (rpm : FloatValue) : Attempt Bool := do
  let minimum ← threshold thresholds "running_band_min_rpm"
  if minimum.atMost rpm then
    let maximum ← threshold thresholds "running_band_max_rpm"
    return rpm.atMost maximum
  else return false

def counted (thresholds : PyDict) (inBandCount : Nat) : Attempt (ObservedState × Hysteresis) := do
  let consecutive ← threshold thresholds "consecutive_samples"
  if consecutive.atMost (.finite inBandCount) then return (.running, { running := true, inBandCount })
  else return (.cranking, { running := false, inBandCount })

def classify (thresholds : PyDict) (before : Hysteresis) (rpm : FloatValue) :
    Attempt (ObservedState × Hysteresis) := do
  let stoppedMax ← threshold thresholds "stopped_max_rpm"
  if rpm.atMost stoppedMax then return (.stopped, {})
  else if before.running then
    let exit ← threshold thresholds "running_exit_rpm"
    if rpm.below exit then return (.unknown, {}) else return (.running, before)
  else
    let within ← inBand thresholds rpm
    counted thresholds (if within then before.inBandCount + 1 else 0)

structure Sample where
  sequence : Nat
  timestampUs : ℤ
  rpm : FloatValue
  observedState : ObservedState
  transition : Option Transition
  sourceRow : Nat
  deriving DecidableEq

def samplesFrom (path : String) (thresholds : PyDict) (origin : ℤ) (sequence : Nat)
    (before : Hysteresis) (previousState : Option ObservedState) (previousTimestamp : ℤ) :
    List Parsed → Attempt (List Sample)
  | [] => .ok []
  | parsed :: rest =>
    let timestampUs := parsed.timestamp - origin
    if timestampUs < previousTimestamp then
      validationError (location path parsed.rowNumber ++ ": timestamps must be monotonic")
    else do
      let (observedState, after) ← classify thresholds before parsed.rpm
      let sample : Sample :=
        { sequence, timestampUs, rpm := parsed.rpm, observedState
          transition := transitionBetween previousState observedState
          sourceRow := parsed.rowNumber }
      let others ← samplesFrom path thresholds origin (sequence + 1) after (some observedState)
        timestampUs rest
      return sample :: others

/-! The timeline. -/

structure Timeline where
  timelineId : PyValue
  profileRef : PyValue
  evidenceIndex : PyValue
  evidenceRef : PyValue
  source : PyValue
  candidateThresholds : PyDict
  samples : List Sample

def requireNonemptyString (value : PyValue) (location : String) : Attempt String :=
  let message := location ++ ": must be a non-empty string"
  match value with
  | .str text => if PythonText.strip text.toList = [] then validationError message else .ok text
  | _ => validationError message

section Validation

-- `datetime.fromisoformat`: whether it reads a text, and whether as a time with a zone
variable (fromIsoFormat : String → Option Bool)

def requireTimestamp (value : PyValue) (location : String) : Attempt Unit := do
  let text ← requireNonemptyString value location
  let zoned := String.ofList (text.toList.flatMap fun character =>
    if character = 'Z' then "+00:00".toList else [character])
  match fromIsoFormat zoned with
  | none => validationError (location ++ ": invalid ISO-8601 timestamp")
  | some false => validationError (location ++ ": timezone is required")
  | some true => return ()

def sourceFields : List String := ["job", "notes", "observed_at", "session", "sgbd_prg", "tool"]

def validateSource (source : PyValue) : Attempt Unit :=
  match source with
  | .dict items => do
    required items sourceFields "engine_timeline.source"
    let _ ← requireNonemptyString (PyDict.get items "tool") "engine_timeline.source.tool"
    let _ ← requireNonemptyString (PyDict.get items "sgbd_prg") "engine_timeline.source.sgbd_prg"
    let _ ← requireNonemptyString (PyDict.get items "job") "engine_timeline.source.job"
    let _ ← requireNonemptyString (PyDict.get items "session") "engine_timeline.source.session"
    requireTimestamp fromIsoFormat (PyDict.get items "observed_at")
      "engine_timeline.source.observed_at"
  | _ => validationError "engine_timeline.source: must be an object"

def thresholdFields : List String :=
  ["candidate_only", "consecutive_samples", "running_band_max_rpm", "running_band_min_rpm",
    "running_exit_rpm", "stopped_max_rpm"]

def validateThresholds (thresholds : PyDict) : Attempt Unit := do
  required thresholds thresholdFields "engine_timeline.candidate_thresholds"
  match thresholds.get "candidate_only" with
  | .bool true =>
    let message := "engine_timeline.candidate_thresholds: values must be non-negative numbers"
    match (thresholds.get "stopped_max_rpm").number, (thresholds.get "running_exit_rpm").number,
      (thresholds.get "running_band_min_rpm").number,
      (thresholds.get "running_band_max_rpm").number with
    | some stoppedMax, some exit, some bandMin, some bandMax =>
      if [stoppedMax, exit, bandMin, bandMax].any (·.below (.finite 0)) then
        validationError message
      else if !(stoppedMax.below exit && exit.atMost bandMin && bandMin.below bandMax) then
        validationError "engine_timeline.candidate_thresholds: incoherent hysteresis ordering"
      else
        let message :=
          "engine_timeline.candidate_thresholds.consecutive_samples: expected integer >= 2"
        match thresholds.get "consecutive_samples" with
        | .int consecutive => if consecutive < 2 then validationError message else return ()
        | _ => validationError message
    | _, _, _, _ => validationError message
  | _ => validationError "engine_timeline.candidate_thresholds: must remain candidate_only"

def validateSamples (index : Nat) (previousTimestamp : ℤ) (previousState : Option ObservedState) :
    List Sample → Attempt Unit
  | [] => .ok ()
  | sample :: rest =>
    let location := "engine_timeline.samples[" ++ toString index ++ "]"
    if sample.sequence ≠ index then
      validationError (location ++ ".sequence: expected " ++ toString index)
    else if sample.timestampUs < previousTimestamp then
      validationError (location ++ ".timestamp_us: expected monotonic non-negative integer")
    else if sample.rpm.below (.finite 0) then
      validationError (location ++ ".rpm: expected non-negative number")
    else if sample.transition ≠ transitionBetween previousState sample.observedState then
      validationError (location ++ ".transition: inconsistent with state change")
    else validateSamples (index + 1) sample.timestampUs (some sample.observedState) rest

def validateDescription (timeline : Timeline) : Attempt Unit := do
  let _ ← requireNonemptyString timeline.timelineId "engine_timeline.timeline_id"
  let _ ← requireNonemptyString timeline.profileRef "engine_timeline.profile_ref"
  let _ ← requireNonemptyString timeline.evidenceIndex "engine_timeline.evidence_index"
  let _ ← requireNonemptyString timeline.evidenceRef "engine_timeline.evidence_ref"
  validateSource fromIsoFormat timeline.source

/-- The checks of a document that `build_timeline` puts together: its version, its basis and its
qualification are right as they are written there, and its evidence is known. -/
def validateEngineRunTimeline (timeline : Timeline) : Attempt Unit := do
  validateDescription fromIsoFormat timeline
  validateThresholds timeline.candidateThresholds
  validateSamples 0 (-1) none timeline.samples

def timelineOf (mapping : EngineMapping) (samples : List Sample) : Timeline where
  timelineId := mapping.timeline.get "timeline_id"
  profileRef := mapping.timeline.get "profile_ref"
  evidenceIndex := mapping.timeline.get "evidence_index"
  evidenceRef := mapping.timeline.get "evidence_ref"
  source := mapping.timeline.get "source"
  candidateThresholds := mapping.thresholds
  samples := samples

def timelineFrom (path : String) (mapping : EngineMapping) (parsed : List Parsed) :
    Attempt Timeline :=
  match parsed with
  | [] => validationError (path ++ ": no engine-speed samples")
  | first :: _ => do
    let samples ← samplesFrom path mapping.thresholds first.timestamp 0 {} none (-1) parsed
    validateEngineRunTimeline fromIsoFormat (timelineOf mapping samples)
    return timelineOf mapping samples

def buildTimeline (file : InputFile) (mapping : PyDict) (evidenceIds : List String) :
    Attempt Timeline := do
  let checked ← requireMapping mapping evidenceIds
  let parsed ← readRows file checked
  timelineFrom fromIsoFormat file.path checked parsed

end Validation

end BmwRemote.Host.EngineSpeedLog
