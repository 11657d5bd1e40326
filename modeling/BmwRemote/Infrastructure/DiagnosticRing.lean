import BmwRemote.Infrastructure.DiagnosticLog
import BmwRemote.Lib.Ring
import BmwRemote.Lib.SerialNumber

/-! The journal is the end of a plain log: its ring holds the last records appended since
it was cleared, numbered in the order in which they came. -/
namespace BmwRemote.Infrastructure

open BmwRemote.Application BmwRemote.Lib

namespace DiagnosticJournal

inductive Call where
  | observe (event : Event) (decision : Decision) (timestampMs : UInt32)
  | recordInfrastructureFailure (trigger : EventType) (state : ControllerState)
      (fault : FaultCode) (timestampMs : UInt32)
  | recordSafingFailure (state : ControllerState) (fault : FaultCode) (timestampMs : UInt32)
  | clear

def perform (journal : DiagnosticJournal) : Call → DiagnosticJournal
  | .observe event decision timestampMs => journal.observe event decision timestampMs
  | .recordInfrastructureFailure trigger state fault timestampMs =>
      journal.recordInfrastructureFailure trigger state fault timestampMs
  | .recordSafingFailure state fault timestampMs =>
      journal.recordSafingFailure state fault timestampMs
  | .clear => journal.clear

/-- The plain log: all the records since it was cleared. -/
def logged (log : List DiagnosticRecord) : Call → List DiagnosticRecord
  | .observe event decision timestampMs => log ++ observed event decision timestampMs
  | .recordInfrastructureFailure trigger state fault timestampMs =>
      log ++ [failureRecord .infrastructureFailure trigger state fault timestampMs]
  | .recordSafingFailure state fault timestampMs =>
      log ++ [failureRecord .safingFailure .infrastructureFailure state fault timestampMs]
  | .clear => []

def numbered (log : List DiagnosticRecord) : List DiagnosticRecord :=
  log.mapIdx fun index record => { record with sequence := UInt32.ofNat (index + 1) }

instance : NeZero maximumRecords := ⟨maximumRecords_pos.ne'⟩

def contents (journal : DiagnosticJournal) : List DiagnosticRecord :=
  Ring.window journal.records.get journal.oldestIndex journal.size

/-- The journal keeps the end of the log. -/
structure Keeps (journal : DiagnosticJournal) (log : List DiagnosticRecord) : Prop where
  size : journal.size = min log.length maximumRecords
  contents : journal.contents = (numbered log).drop (log.length - maximumRecords)
  nextSequence : journal.nextSequence = UInt32.ofNat (log.length + 1)
  overwritten : journal.overwrittenCount.toNat = min (log.length - maximumRecords) (2 ^ 32 - 1)

theorem get_set (records : Vector DiagnosticRecord maximumRecords) (index : Fin maximumRecords)
    (record : DiagnosticRecord) :
    (records.set index record index.isLt).get = Function.update records.get index record := by
  funext other
  by_cases h : other = index
  · rw [h, Function.update_self]
    exact Vector.getElem_set_self index.isLt
  · rw [Function.update_of_ne h]
    exact Vector.getElem_set_ne index.isLt other.isLt fun hsame => h (Fin.ext hsame).symm

@[simp] theorem length_numbered (log : List DiagnosticRecord) :
    (numbered log).length = log.length := List.length_mapIdx

theorem numbered_concat (log : List DiagnosticRecord) (record : DiagnosticRecord) :
    numbered (log ++ [record]) =
      numbered log ++ [{ record with sequence := UInt32.ofNat (log.length + 1) }] := by
  unfold numbered
  rw [List.mapIdx_concat]

theorem keeps_new : Keeps {} [] := ⟨rfl, rfl, rfl, rfl⟩

theorem contents_append_of_lt {journal : DiagnosticJournal} (record : DiagnosticRecord)
    (h : journal.size < maximumRecords) :
    (journal.append record).contents =
      journal.contents ++ [{ record with sequence := journal.nextSequence }] := by
  unfold append contents
  rw [if_pos h]
  dsimp only
  rw [get_set]
  exact Ring.window_update_behind _ _ _ h

theorem contents_append_of_full {journal : DiagnosticJournal} (record : DiagnosticRecord)
    (h : journal.size = maximumRecords) :
    (journal.append record).contents =
      journal.contents.tail ++ [{ record with sequence := journal.nextSequence }] := by
  have hoverwrite := Ring.window_overwrite journal.records.get journal.oldestIndex
    { record with sequence := journal.nextSequence }
  have hslot : Ring.slot maximumRecords journal.oldestIndex = journal.oldestIndex :=
    Fin.ofNat_val_eq_self _
  have hnext : Ring.slot maximumRecords (slot (journal.oldestIndex + 1)).val =
      Ring.slot maximumRecords (journal.oldestIndex + 1) := Ring.slot_mod _
  rw [hslot] at hoverwrite
  unfold append contents
  rw [if_neg (by omega)]
  dsimp only
  rw [get_set, h, Ring.window_congr _ hnext, hoverwrite]

theorem toNat_saturated {count : UInt32} {total : Nat}
    (h : count.toNat = min total (2 ^ 32 - 1)) :
    (if count < 0xFFFFFFFF then count + 1 else count).toNat = min (total + 1) (2 ^ 32 - 1) := by
  have hlast : (0xFFFFFFFF : UInt32).toNat = 2 ^ 32 - 1 := rfl
  have hone : (1 : UInt32).toNat = 1 := rfl
  split
  · rename_i hroom
    rw [UInt32.lt_iff_toNat_lt] at hroom
    rw [toNat_add_of_fits (by omega)]
    omega
  · rename_i hroom
    rw [UInt32.lt_iff_toNat_lt] at hroom
    omega

theorem nextSequence_append (journal : DiagnosticJournal) (record : DiagnosticRecord) :
    (journal.append record).nextSequence = journal.nextSequence + 1 := by
  unfold append
  dsimp only
  split <;> rfl

theorem Keeps.append {journal : DiagnosticJournal} {log : List DiagnosticRecord}
    (h : journal.Keeps log) (record : DiagnosticRecord) :
    (journal.append record).Keeps (log ++ [record]) := by
  have hlog : (log ++ [record]).length = log.length + 1 := List.length_append
  have hsize := h.size
  have hoverwritten := h.overwritten
  have hnext : (journal.append record).nextSequence =
      UInt32.ofNat ((log ++ [record]).length + 1) := by
    rw [nextSequence_append, h.nextSequence, hlog, ← UInt32.ofNat_one, ← UInt32.ofNat_add]
  by_cases hroom : journal.size < maximumRecords
  · have hfits : log.length - maximumRecords = 0 := by omega
    have hstart : (log ++ [record]).length - maximumRecords = 0 := by omega
    refine ⟨?_, ?_, hnext, ?_⟩
    · unfold DiagnosticJournal.append
      rw [if_pos hroom]
      change journal.size + 1 = _
      omega
    · rw [contents_append_of_lt record hroom, numbered_concat, h.contents, hfits, hstart,
        h.nextSequence, List.drop_zero, List.drop_zero]
    · unfold DiagnosticJournal.append
      rw [if_pos hroom, hstart]
      rw [hfits] at hoverwritten
      exact hoverwritten
  · have hfull : journal.size = maximumRecords := by omega
    have hstart : (log ++ [record]).length - maximumRecords =
        log.length - maximumRecords + 1 := by omega
    have hwithin : log.length - maximumRecords + 1 ≤ (numbered log).length := by
      rw [length_numbered]
      have hpositive := maximumRecords_pos
      omega
    refine ⟨?_, ?_, hnext, ?_⟩
    · unfold DiagnosticJournal.append
      rw [if_neg hroom]
      change journal.size = _
      omega
    · rw [contents_append_of_full record hfull, numbered_concat, h.contents, hstart,
        h.nextSequence, List.drop_append_of_le_length hwithin, List.tail_drop]
    · unfold DiagnosticJournal.append
      rw [if_neg hroom]
      rw [hstart]
      exact toNat_saturated hoverwritten

theorem keeps_appendAll {journal : DiagnosticJournal} {log : List DiagnosticRecord}
    (h : journal.Keeps log) (records : List DiagnosticRecord) :
    (journal.appendAll records).Keeps (log ++ records) := by
  induction records generalizing journal log with
  | nil => simpa using h
  | cons record records ih =>
    have hnext := ih (h.append record)
    rw [List.append_assoc, List.singleton_append] at hnext
    exact hnext

/-- Every call does to the journal what it does to the log. -/
theorem Keeps.perform {journal : DiagnosticJournal} {log : List DiagnosticRecord}
    (h : journal.Keeps log) (call : Call) : (journal.perform call).Keeps (logged log call) := by
  cases call with
  | observe event decision timestampMs =>
    rw [DiagnosticJournal.perform, observe_eq]
    exact keeps_appendAll h _
  | recordInfrastructureFailure => exact h.append _
  | recordSafingFailure => exact h.append _
  | clear => exact keeps_new

theorem keeps_calls (calls : List Call) : (calls.foldl perform {}).Keeps (calls.foldl logged []) := by
  induction calls using List.reverseRecOn with
  | nil => exact keeps_new
  | append_singleton calls call ih =>
    rw [List.foldl_append, List.foldl_append]
    exact ih.perform call

theorem read_of_lt {journal : DiagnosticJournal} {index : Nat} (h : index < journal.size)
    (record : DiagnosticRecord) :
    ∃ found, journal.contents[index]? = some found ∧
      journal.read index record = (true, found) := by
  refine ⟨_, Ring.getElem?_window _ _ h, ?_⟩
  unfold read
  rw [if_neg (Nat.not_le.2 h)]
  rfl

/-- After any calls the journal is the end of the plain log of what they appended since
the last clear. -/
theorem journal_is_end_of_log (calls : List Call) :
    let journal := calls.foldl perform {}
    let log := calls.foldl logged []
    journal.size = min log.length 32 ∧
      (∀ index record, index < journal.size →
        ∃ appended, log[log.length - journal.size + index]? = some appended ∧
          journal.read index record = (true, { appended with
            sequence := UInt32.ofNat (log.length - journal.size + index + 1) })) ∧
      (∀ index record, journal.size ≤ index → journal.read index record = (false, record)) ∧
      journal.overwrittenCount.toNat = min (log.length - 32) (2 ^ 32 - 1) := by
  intro journal log
  have hkeeps : journal.Keeps log := keeps_calls calls
  refine ⟨hkeeps.size, ?_, ?_, hkeeps.overwritten⟩
  · intro index record h
    have hsize := hkeeps.size
    have hstart : log.length - maximumRecords = log.length - journal.size := by omega
    obtain ⟨found, hfound, hread⟩ := read_of_lt h record
    rw [hkeeps.contents, hstart, List.getElem?_drop, numbered, List.getElem?_mapIdx,
      Option.map_eq_some_iff] at hfound
    obtain ⟨appended, happended, rfl⟩ := hfound
    exact ⟨appended, happended, hread⟩
  · intro index record h
    exact if_pos h

end DiagnosticJournal

end BmwRemote.Infrastructure
