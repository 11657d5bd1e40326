import BmwRemote.Host.EngineSpeedLog
import BmwRemote.Lib.Raising

/-! The inputs for which the import of an engine-speed log ends with another exception than the
one for invalid data: faults of the mapping, of the rows and of the thresholds that nothing looks
for before they are met. -/
namespace BmwRemote.Host.EngineSpeedLog

open BmwRemote.Lib

/-- The exceptions that are no `ValidationError`. -/
def Raised.Unchecked : Raised → Prop
  | .validationError _ => False
  | .keyError _ | .typeError | .attributeError | .valueError | .overflowError | .readError _ => True

abbrev Escapes {α : Type} (result : Attempt α) : Prop := Raises Raised.Unchecked result

@[simp] theorem not_escapes_validationError {α : Type} (message : String) :
    ¬ Escapes (validationError message : Attempt α) :=
  fun h => raises_error.1 h

theorem escapes_bind {α β : Type} {first : Attempt α} {next : α → Attempt β} :
    Escapes (first >>= next) ↔ Escapes first ∨ ∃ value, first = .ok value ∧ Escapes (next value) :=
  raises_bind

/-! The mapping. -/

def IsOneOf (value : PyValue) (allowed : List String) : Prop := ∃ text ∈ allowed, value = .str text

theorem requireOneOf_eq_ok_iff {value : PyValue} {allowed : List String} {message text : String} :
    requireOneOf value allowed message = .ok text ↔ text ∈ allowed ∧ value = .str text := by
  unfold requireOneOf
  split
  · rename_i other
    split
    · rename_i hmem
      constructor
      · intro h
        cases h
        exact ⟨hmem, rfl⟩
      · rintro ⟨-, h⟩
        cases h
        rfl
    · rename_i hmem
      constructor
      · intro h
        cases h
      · rintro ⟨htext, h⟩
        cases h
        exact absurd htext hmem
  · simp
  · simp
  all_goals simp [validationError]

theorem escapes_requireOneOf {value : PyValue} {allowed : List String} {message : String} :
    Escapes (requireOneOf value allowed message) ↔ ¬ value.Hashable := by
  unfold requireOneOf
  split
  · split
    · simp [PyValue.Hashable]
    · simp [PyValue.Hashable]
  all_goals simp [PyValue.Hashable, Raised.Unchecked]

/-- The first of the three settings that is not allowed is a list or a dictionary. -/
def MisshapenInput (input : PyDict) : Prop :=
  ¬ (input.get "delimiter").Hashable ∨ IsOneOf (input.get "delimiter") delimiters ∧
    (¬ (input.get "encoding").Hashable ∨ IsOneOf (input.get "encoding") encodings ∧
      ¬ (input.get "timestamp_unit").Hashable)

def SupportedInput (input : PyDict) : Prop :=
  IsOneOf (input.get "delimiter") delimiters ∧ IsOneOf (input.get "encoding") encodings ∧
    IsOneOf (input.get "timestamp_unit") timestampUnits

theorem escapes_requireInput {input : PyDict} :
    Escapes (requireInput input) ↔ MisshapenInput input := by
  unfold requireInput MisshapenInput IsOneOf
  simp only [raises_bind, escapes_requireOneOf, requireOneOf_eq_ok_iff, not_raises_pure, and_false,
    exists_false, or_false, exists_and_right]

theorem exists_requireInput_iff {input : PyDict} :
    (∃ delimiter encoding unit, requireInput input = .ok (delimiter, encoding, unit)) ↔
      SupportedInput input := by
  unfold requireInput SupportedInput IsOneOf
  simp only [bind_eq_ok_iff, requireOneOf_eq_ok_iff]
  constructor
  · rintro ⟨-, -, -, delimiter, hdelimiter, encoding, hencoding, unit, hunit, -⟩
    exact ⟨⟨delimiter, hdelimiter⟩, ⟨encoding, hencoding⟩, ⟨unit, hunit⟩⟩
  · rintro ⟨⟨delimiter, hdelimiter⟩, ⟨encoding, hencoding⟩, ⟨unit, hunit⟩⟩
    exact ⟨_, _, _, delimiter, hdelimiter, encoding, hencoding, unit, hunit, rfl⟩

def MisshapenColumns : PyValue → Prop
  | .dict _ | .str _ => False
  | .list names => (∃ name ∈ names, ¬ name.Hashable) ∨ NamesBoth names
  | .none | .bool _ | .int _ | .float _ => True

def NamedColumns (columns : PyValue) : Prop :=
  ∃ items timestamp rpm, columns = .dict items ∧ NamesBoth (items.map fun item => .str item.1) ∧
    PyDict.get items "timestamp" = .str timestamp ∧ PyDict.get items "rpm" = .str rpm ∧
    timestamp ≠ "" ∧ rpm ≠ ""

theorem escapes_requireColumns {columns : PyValue} :
    Escapes (requireColumns columns) ↔ MisshapenColumns columns := by
  unfold requireColumns
  dsimp only
  split
  · split
    · split
      · split
        · simp [MisshapenColumns]
        · simp [MisshapenColumns]
      · simp [MisshapenColumns]
    · simp [MisshapenColumns]
  · rename_i names
    split
    · rename_i hhashable
      have hnone : ¬ ∃ name ∈ names, ¬ name.Hashable := by
        rintro ⟨name, hname, hunhashable⟩
        exact hunhashable (hhashable name hname)
      split
      · rename_i hboth
        simp [MisshapenColumns, Raised.Unchecked, hboth]
      · rename_i hother
        simp only [MisshapenColumns, not_escapes_validationError, false_iff, not_or]
        exact ⟨hnone, hother⟩
    · rename_i hunhashable
      rw [not_forall₂] at hunhashable
      obtain ⟨name, hname, hno⟩ := hunhashable
      simp only [raises_error, Raised.Unchecked, MisshapenColumns, true_iff]
      exact .inl ⟨name, hname, hno⟩
  · simp [MisshapenColumns]
  all_goals simp [MisshapenColumns, Raised.Unchecked]

theorem exists_requireColumns_iff {columns : PyValue} :
    (∃ timestamp rpm, requireColumns columns = .ok (timestamp, rpm)) ↔ NamedColumns columns := by
  constructor
  · rintro ⟨_, _, h⟩
    unfold requireColumns at h
    dsimp only at h
    split at h
    · rename_i items
      split at h
      · rename_i hboth
        split at h
        · rename_i timestamp rpm htimestamp hrpm
          split at h
          · rename_i hnames
            exact ⟨items, timestamp, rpm, rfl, hboth, htimestamp, hrpm, hnames⟩
          · cases h
        · cases h
      · cases h
    · split at h
      · split at h
        · cases h
        · cases h
      · cases h
    all_goals cases h
  · rintro ⟨items, timestamp, rpm, rfl, hboth, htimestamp, hrpm, hnames⟩
    refine ⟨timestamp, rpm, ?_⟩
    unfold requireColumns
    dsimp only
    rw [if_pos hboth, htimestamp, hrpm]
    exact if_pos hnames

def MisshapenTimeline (timeline : PyValue) : Prop :=
  ∃ items, timeline = .dict items ∧ missingFields timelineFields items = [] ∧
    ¬ (PyDict.get items "evidence_ref").Hashable

theorem escapes_requireTimeline {timeline : PyValue} {evidenceIds : List String} :
    Escapes (requireTimeline timeline evidenceIds) ↔ MisshapenTimeline timeline := by
  unfold requireTimeline MisshapenTimeline
  split
  · rename_i items
    split
    · rename_i hfields
      rw [escapes_bind, escapes_requireOneOf]
      simp [hfields]
    · rename_i hfields
      simp [hfields]
  · rename_i hother
    simp only [not_escapes_validationError, false_iff]
    rintro ⟨items, rfl, -⟩
    exact hother items rfl

theorem not_escapes_requireThresholds (thresholds : PyValue) :
    ¬ Escapes (requireThresholds thresholds) := by
  unfold requireThresholds
  dsimp only
  split
  · split
    · simp
    · simp
  · simp

theorem required_eq_ok_iff {document : PyDict} {fields : List String} {location : String}
    {result : Unit} :
    required document fields location = .ok result ↔ missingFields fields document = [] := by
  unfold required
  dsimp only
  split
  · rename_i hnone
    simp [hnone]
  · rename_i hmissing
    simp [hmissing, validationError]

theorem not_escapes_required (document : PyDict) (fields : List String) (location : String) :
    ¬ Escapes (required document fields location) := by
  unfold required
  dsimp only
  split
  · simp
  · simp

/-- In a mapping with this `input`, the first fault is a list or a dictionary where a text is
looked up, or columns that are no dictionary and no text. -/
def MisshapenSections (mapping input : PyDict) : Prop :=
  MisshapenInput input ∨ SupportedInput input ∧
    (MisshapenColumns (mapping.get "columns") ∨ NamedColumns (mapping.get "columns") ∧
      MisshapenTimeline (mapping.get "timeline"))

/-- The first fault of the mapping is a value of a type that is not looked at before it is used. -/
def Misshapen (mapping : PyDict) : Prop :=
  missingFields mappingFields mapping = [] ∧
    (mapping.get "schema_version").number? = some (.finite 1) ∧
    ∀ input, mapping.get "input" = .dict input → MisshapenSections mapping input

theorem escapes_requireMapping {mapping : PyDict} {evidenceIds : List String} :
    Escapes (requireMapping mapping evidenceIds) ↔ Misshapen mapping := by
  unfold requireMapping Misshapen
  rw [escapes_bind, or_iff_right (not_escapes_required _ _ _)]
  simp only [required_eq_ok_iff, exists_and_left, exists_const]
  apply and_congr_right'
  split
  · rename_i hversion
    simp [hversion]
  rename_i hversion
  rw [not_not] at hversion
  rw [hversion, and_iff_right rfl]
  split
  · rename_i input hinput
    have honly : (∀ other, PyValue.dict input = .dict other → MisshapenSections mapping other) ↔
        MisshapenSections mapping input := by
      simp
    rw [hinput, honly]
    simp only [escapes_bind, escapes_requireInput, Prod.exists, escapes_requireColumns,
      escapes_requireTimeline, not_escapes_requireThresholds, not_raises_pure, and_false,
      exists_false, or_false, exists_and_right]
    rw [exists_requireInput_iff, exists_requireColumns_iff]
    rfl
  · rename_i hother
    simp only [raises_error, Raised.Unchecked, true_iff]
    exact fun input hinput => absurd hinput (hother input)

/-! The rows. -/

def TimestampReads (value : Option String) (unit : String) (timestamp : ℤ) : Prop :=
  ∃ text numeric scaled, value = some text ∧ reading text = some numeric ∧
    numeric.below (.finite 0) = false ∧ numeric.scale (multiplier unit) = .finite scaled ∧
    roundHalfEven scaled = timestamp

def TimestampFails (value : Option String) (unit : String) : Prop :=
  value = none ∨ ∃ text numeric, value = some text ∧ reading text = some numeric ∧
    numeric.below (.finite 0) = false ∧ (numeric.scale (multiplier unit)).isFinite = false

def RpmReads (value : Option String) (rpm : FloatValue) : Prop :=
  ∃ text, value = some text ∧ reading text = some rpm ∧ rpm.below (.finite 0) = false

theorem timestampToUs_eq_ok_iff {value : Option String} {unit location : String} {timestamp : ℤ} :
    timestampToUs value unit location = .ok timestamp ↔ TimestampReads value unit timestamp := by
  unfold timestampToUs TimestampReads
  cases value with
  | none => simp
  | some text =>
    dsimp only
    cases hreading : reading text with
    | none => simp [validationError, hreading]
    | some numeric =>
      dsimp only
      split
      · rename_i hnegative
        simp [validationError, hreading, hnegative]
      · rename_i hnegative
        rw [Bool.not_eq_true] at hnegative
        cases hscaled : numeric.scale (multiplier unit) with
        | finite scaled => simp [round, hreading, hnegative, hscaled]
        | infinite negative => simp [round, hreading, hnegative, hscaled]
        | nan => simp [round, hreading, hnegative, hscaled]

theorem escapes_timestampToUs {value : Option String} {unit location : String} :
    Escapes (timestampToUs value unit location) ↔ TimestampFails value unit := by
  unfold timestampToUs TimestampFails
  cases value with
  | none => simp [Raised.Unchecked]
  | some text =>
    dsimp only
    cases hreading : reading text with
    | none => simp [hreading]
    | some numeric =>
      dsimp only
      split
      · rename_i hnegative
        simp [hreading, hnegative]
      · rename_i hnegative
        rw [Bool.not_eq_true] at hnegative
        cases hscaled : numeric.scale (multiplier unit) with
        | finite scaled => simp [round, hreading, hnegative, hscaled, FloatValue.isFinite]
        | infinite negative =>
          simp [round, hreading, hnegative, hscaled, FloatValue.isFinite, Raised.Unchecked]
        | nan => simp [round, hreading, hnegative, hscaled, FloatValue.isFinite, Raised.Unchecked]

theorem rpmOf_eq_ok_iff {value : Option String} {location : String} {rpm : FloatValue} :
    rpmOf value location = .ok rpm ↔ RpmReads value rpm := by
  unfold rpmOf RpmReads
  cases value with
  | none => simp
  | some text =>
    dsimp only
    cases hreading : reading text with
    | none => simp [validationError, hreading]
    | some numeric =>
      dsimp only
      split
      · rename_i hnegative
        simp only [validationError, reduceCtorEq, false_iff]
        rintro ⟨other, hother, hrpm, hpositive⟩
        cases hother
        rw [hreading, Option.some.injEq] at hrpm
        rw [hrpm, hpositive] at hnegative
        cases hnegative
      · rename_i hnegative
        rw [Bool.not_eq_true] at hnegative
        constructor
        · intro h
          cases h
          exact ⟨text, rfl, hreading, hnegative⟩
        · rintro ⟨other, hother, hrpm, -⟩
          cases hother
          rw [hreading, Option.some.injEq] at hrpm
          rw [hrpm]

theorem escapes_rpmOf {value : Option String} {location : String} :
    Escapes (rpmOf value location) ↔ value = none := by
  unfold rpmOf
  cases value with
  | none => simp [Raised.Unchecked]
  | some text =>
    dsimp only
    cases reading text with
    | none => simp
    | some numeric =>
      dsimp only
      split
      · simp
      · simp

abbrev Moment := ℤ × FloatValue

def Parsed.moment (parsed : Parsed) : Moment := (parsed.timestamp, parsed.rpm)

section Rows

variable (mapping : EngineMapping) (fieldnames : List String)

def RowReads (row : List String) (moment : Moment) : Prop :=
  TimestampReads (cell fieldnames row mapping.timestampColumn) mapping.timestampUnit moment.1 ∧
    RpmReads (cell fieldnames row mapping.rpmColumn) moment.2

/-- The time fails, or it is read and the engine speed is missing. -/
def RowFails (row : List String) : Prop :=
  TimestampFails (cell fieldnames row mapping.timestampColumn) mapping.timestampUnit ∨
    (∃ timestamp, TimestampReads (cell fieldnames row mapping.timestampColumn)
      mapping.timestampUnit timestamp) ∧ cell fieldnames row mapping.rpmColumn = none

def RowsFail (failure : Option String) (rows : List (List String)) : Prop :=
  Meets (fun row => ∃ moment, RowReads mapping fieldnames row moment)
    (RowFails mapping fieldnames) rows ∨
  failure ≠ none ∧ ∀ row ∈ rows, ∃ moment, RowReads mapping fieldnames row moment

variable {mapping fieldnames} {path : String} {rowNumber : Nat} {row : List String}

theorem parseRow_eq_ok_iff {parsed : Parsed} :
    parseRow path mapping fieldnames rowNumber row = .ok parsed ↔
      RowReads mapping fieldnames row parsed.moment ∧ parsed.rowNumber = rowNumber := by
  unfold parseRow RowReads Parsed.moment
  simp only [bind_eq_ok_iff, timestampToUs_eq_ok_iff, rpmOf_eq_ok_iff]
  constructor
  · rintro ⟨timestamp, htimestamp, rpm, hrpm, h⟩
    cases h
    exact ⟨⟨htimestamp, hrpm⟩, rfl⟩
  · rintro ⟨⟨htimestamp, hrpm⟩, rfl⟩
    exact ⟨parsed.timestamp, htimestamp, parsed.rpm, hrpm, rfl⟩

theorem escapes_parseRow :
    Escapes (parseRow path mapping fieldnames rowNumber row) ↔ RowFails mapping fieldnames row := by
  unfold parseRow RowFails
  simp only [escapes_bind, escapes_timestampToUs, timestampToUs_eq_ok_iff, escapes_rpmOf,
    not_raises_pure, and_false, exists_false, or_false, exists_and_right]

theorem rowsFail_cons {failure : Option String} {rest : List (List String)} :
    RowsFail mapping fieldnames failure (row :: rest) ↔ RowFails mapping fieldnames row ∨
      (∃ moment, RowReads mapping fieldnames row moment) ∧
        RowsFail mapping fieldnames failure rest := by
  unfold RowsFail
  rw [meets_cons, List.forall_mem_cons]
  tauto

theorem escapes_parseRows {failure : Option String} {rows : List (List String)} :
    Escapes (parseRows path mapping fieldnames failure rowNumber rows) ↔
      RowsFail mapping fieldnames failure rows := by
  induction rows generalizing rowNumber with
  | nil =>
    unfold parseRows RowsFail
    cases failure with
    | none => simp [not_meets_nil]
    | some error => simp [Raised.Unchecked]
  | cons row rest ih =>
    have hread : (∃ parsed, parseRow path mapping fieldnames rowNumber row = .ok parsed) ↔
        ∃ moment, RowReads mapping fieldnames row moment := by
      simp only [parseRow_eq_ok_iff]
      constructor
      · rintro ⟨parsed, hmoment, -⟩
        exact ⟨_, hmoment⟩
      · rintro ⟨moment, hmoment⟩
        exact ⟨⟨moment.1, moment.2, rowNumber⟩, hmoment, rfl⟩
    rw [rowsFail_cons, parseRows, ← hread]
    simp only [escapes_bind, escapes_parseRow, ih, not_raises_pure, and_false, exists_false, or_false,
      exists_and_right]

theorem exists_parseRows_iff {failure : Option String} {rows : List (List String)}
    {moments : List Moment} :
    (∃ parsed, parseRows path mapping fieldnames failure rowNumber rows = .ok parsed ∧
      parsed.map Parsed.moment = moments) ↔
      failure = none ∧ List.Forall₂ (RowReads mapping fieldnames) rows moments := by
  induction rows generalizing rowNumber moments with
  | nil =>
    unfold parseRows
    cases failure with
    | none =>
      rw [List.forall₂_nil_left_iff]
      simp [eq_comm]
    | some error => simp
  | cons row rest ih =>
    rw [List.forall₂_cons_left_iff, parseRows]
    simp only [bind_eq_ok_iff]
    constructor
    · rintro ⟨_, ⟨parsed, hparsed, others, hothers, h⟩, hmoments⟩
      cases h
      obtain ⟨hnone, hrest⟩ := ih.1 ⟨others, hothers, rfl⟩
      exact ⟨hnone, parsed.moment, others.map Parsed.moment, (parseRow_eq_ok_iff.1 hparsed).1, hrest,
        hmoments.symm⟩
    · rintro ⟨hnone, moment, later, hmoment, hlater, hmoments⟩
      obtain ⟨others, hothers, hmap⟩ := ih.2 ⟨hnone, hlater⟩
      have hparsed : parseRow path mapping fieldnames rowNumber row =
          .ok ⟨moment.1, moment.2, rowNumber⟩ := parseRow_eq_ok_iff.2 ⟨hmoment, rfl⟩
      refine ⟨_, ⟨_, hparsed, others, hothers, rfl⟩, ?_⟩
      rw [List.map_cons, hmap, hmoments]
      rfl

end Rows

/-- The path is none, the reader fails before the first row, or behind a header with both columns
the rows fail. -/
def Illegible (file : InputFile) (mapping : EngineMapping) : Prop :=
  opened file mapping = .invalidPath ∨ (∃ error, opened file mapping = .stream [] (some error)) ∨
    ∃ fieldnames rows failure, opened file mapping = .stream (fieldnames :: rows) failure ∧
      missingColumns mapping fieldnames = [] ∧
      RowsFail mapping fieldnames failure (rows.filter (· ≠ []))

/-- The file is a table with both columns, and its rows are read as these samples. -/
def LogReads (file : InputFile) (mapping : EngineMapping) (moments : List Moment) : Prop :=
  ∃ fieldnames rows, opened file mapping = .stream (fieldnames :: rows) none ∧
    missingColumns mapping fieldnames = [] ∧
    List.Forall₂ (RowReads mapping fieldnames) (rows.filter (· ≠ [])) moments

theorem escapes_readRows {file : InputFile} {mapping : EngineMapping} :
    Escapes (readRows file mapping) ↔ Illegible file mapping := by
  unfold readRows Illegible
  split
  · rename_i error hopened
    simp [hopened]
  · rename_i hopened
    simp [hopened, Raised.Unchecked]
  · rename_i hopened
    simp [hopened]
  · rename_i error hopened
    simp [hopened, Raised.Unchecked]
  · rename_i fieldnames rows failure hopened
    dsimp only
    split
    · rename_i hnone
      rw [escapes_parseRows]
      simp [hopened, hnone]
    · rename_i hmissing
      simp [hopened, hmissing]

theorem exists_readRows_iff {file : InputFile} {mapping : EngineMapping} {moments : List Moment} :
    (∃ parsed, readRows file mapping = .ok parsed ∧ parsed.map Parsed.moment = moments) ↔
      LogReads file mapping moments := by
  unfold readRows LogReads
  split
  · rename_i error hopened
    simp [hopened, validationError]
  · rename_i hopened
    simp [hopened]
  · rename_i hopened
    simp [hopened, validationError]
  · rename_i error hopened
    simp [hopened]
  · rename_i fieldnames rows failure hopened
    dsimp only
    split
    · rename_i hnone
      rw [exists_parseRows_iff]
      simp [hopened, hnone]
    · rename_i hmissing
      simp [hopened, hmissing, validationError]

end BmwRemote.Host.EngineSpeedLog
