import BmwRemote.Host.CanonicalTrace
import BmwRemote.Lib.Binary64
import BmwRemote.Lib.FloatOrder
import BmwRemote.Lib.OrderedDict
import BmwRemote.Lib.Raising
import Mathlib.Data.Prod.Lex

/-! The comparison of two canonical traces: the bytes whose most frequent value differs, with
the strongest differences first. A summary of a trace counts what its frames hold, so the
comparison says about the frames what it says about the counters. -/
namespace BmwRemote.Host.AnalyzeTraceChange

open BmwRemote.Lib BmwRemote.Lib.OrderedDict CanonicalTrace

structure FrameKey where
  identifier : Nat
  extended : Bool
  dataLength : Nat
  deriving DecidableEq, Repr

def FrameKey.fields (key : FrameKey) : Nat ×ₗ Bool ×ₗ Nat :=
  toLex (key.identifier, toLex (key.extended, key.dataLength))

theorem FrameKey.fields_injective : Function.Injective FrameKey.fields := by
  rintro ⟨identifier, extended, dataLength⟩ ⟨identifier', extended', dataLength'⟩ h
  simpa [FrameKey.fields] using h

instance : LinearOrder FrameKey := LinearOrder.lift' FrameKey.fields FrameKey.fields_injective

/-! Counters. -/

abbrev Counter := OrderedDict UInt8 Nat

namespace Counter

def increment (counter : Counter) (value : UInt8) : Counter := upsert value 0 (· + 1) counter

def get (counter : Counter) (value : UInt8) : Nat := (counter.lookup value).getD 0

def total (counter : Counter) : Nat := (counter.map Prod.snd).sum

end Counter

structure KeySummary where
  frameCount : Nat
  byteHistograms : List Counter

def KeySummary.add (frame : CanonicalFrame) (summary : KeySummary) : KeySummary where
  frameCount := summary.frameCount + 1
  byteHistograms := summary.byteHistograms.zipWith Counter.increment frame.data

def frameKey (frame : CanonicalFrame) : FrameKey :=
  ⟨frame.identifier, frame.extended, frame.data.length⟩

def summarize (frames : List CanonicalFrame) : OrderedDict FrameKey KeySummary :=
  group frameKey (fun key => ⟨0, List.replicate key.dataLength []⟩) KeySummary.add frames

/-! Numbers. All of them lie between minus and plus two, or are sums of at most 256 such. -/

def float (value : ℚ) : ℚ :=
  match FloatValue.ofRat value with
  | .finite rounded => rounded
  | .infinite _ | .nan => value

/-- What the language leaves open: the order of a union of sets, and how `sum` rounds. -/
structure SetsAndSums where
  union : List UInt8 → List UInt8 → List UInt8
  nodup : ∀ left right, (union left right).Nodup
  mem_union : ∀ left right value, value ∈ union left right ↔ value ∈ left ∨ value ∈ right
  sum : List ℚ → ℚ

/-- The smallest of the most frequent values, and its share. Nothing for an empty counter. -/
def mode (histogram : Counter) : Option (UInt8 × ℚ) := do
  let maximumCount ← (histogram.map Prod.snd).max?
  let value ← ((histogram.filter fun entry => entry.2 = maximumCount).map Prod.fst).min?
  pure (value, float (maximumCount / histogram.total))

def distributionDistance (sums : SetsAndSums) (baseline event : Counter) : ℚ :=
  float (1 / 2 * sums.sum ((sums.union (keys baseline) (keys event)).map fun value =>
    |float (float (baseline.get value / baseline.total) -
      float (event.get value / event.total))|))

/-! The comparison. -/

structure ByteCandidate where
  key : FrameKey
  byteIndex : Nat
  baselineMode : UInt8
  eventMode : UInt8
  changedBitMask : UInt8
  distributionDistance : ℚ
  baselineStability : ℚ
  eventStability : ℚ
  score : ℚ

def ByteCandidate.rank (candidate : ByteCandidate) : ℚ ×ₗ ℚ ×ₗ FrameKey ×ₗ Nat :=
  toLex (-candidate.score, toLex (-candidate.distributionDistance,
    toLex (candidate.key, candidate.byteIndex)))

structure TraceComparison where
  baselineFrameCount : Nat
  eventFrameCount : Nat
  candidates : List ByteCandidate
  identifiersOnlyInBaseline : List FrameKey
  identifiersOnlyInEvent : List FrameKey

/-- A key or an index that is missing would be an error, as an empty histogram is. -/
def histogramAt (summaries : OrderedDict FrameKey KeySummary) (key : FrameKey) (byteIndex : Nat) :
    Counter :=
  ((summaries.lookup key).bind fun summary => summary.byteHistograms[byteIndex]?).getD []

def candidateAt (sums : SetsAndSums) (minimumDistance : FloatValue)
    (baseline event : OrderedDict FrameKey KeySummary) (place : FrameKey × Nat) :
    Except String (Option ByteCandidate) :=
  let baselineHistogram := histogramAt baseline place.1 place.2
  let eventHistogram := histogramAt event place.1 place.2
  match mode baselineHistogram, mode eventHistogram with
  | some (baselineMode, baselineStability), some (eventMode, eventStability) =>
      if baselineMode = eventMode then .ok none
      else
        let distance := distributionDistance sums baselineHistogram eventHistogram
        if (FloatValue.finite distance).below minimumDistance then .ok none
        else
          let stability := float (float (baselineStability + eventStability) / 2)
          .ok (some
            { key := place.1
              byteIndex := place.2
              baselineMode
              eventMode
              changedBitMask := baselineMode ^^^ eventMode
              distributionDistance := distance
              baselineStability
              eventStability
              score := float (distance * stability) })
  | _, _ => .error "max() iterable argument is empty"

def sorted (frameKeys : List FrameKey) : List FrameKey :=
  frameKeys.mergeSort fun left right => decide (left ≤ right)

def places (baseline event : OrderedDict FrameKey KeySummary) : List (FrameKey × Nat) :=
  (sorted ((keys baseline).filter fun key => key ∈ keys event)).flatMap fun key =>
    (List.range key.dataLength).map fun byteIndex => (key, byteIndex)

def comparisonOf (baselineFrames eventFrames : List CanonicalFrame)
    (found : List (Option ByteCandidate)) : TraceComparison :=
  let baseline := summarize baselineFrames
  let event := summarize eventFrames
  { baselineFrameCount := baselineFrames.length
    eventFrameCount := eventFrames.length
    candidates := (found.filterMap id).mergeSort fun left right => decide (left.rank ≤ right.rank)
    identifiersOnlyInBaseline := sorted ((keys baseline).filter fun key => key ∉ keys event)
    identifiersOnlyInEvent := sorted ((keys event).filter fun key => key ∉ keys baseline) }

def compareTraces (sums : SetsAndSums) (baselineFrames eventFrames : List CanonicalFrame)
    (minimumDistance : FloatValue) : Except String TraceComparison :=
  if ((FloatValue.finite 0).atMost minimumDistance &&
      minimumDistance.atMost (.finite 1)) = false then
    .error "minimum distance must be between zero and one"
  else do
    let baseline := summarize baselineFrames
    let event := summarize eventFrames
    let found ← (places baseline event).mapM (candidateAt sums minimumDistance baseline event)
    pure (comparisonOf baselineFrames eventFrames found)

/-! What a summary holds, in terms of the frames. -/

def bytesAt (frames : List CanonicalFrame) (key : FrameKey) (byteIndex : Nat) : List UInt8 :=
  (frames.filter fun frame => frameKey frame = key).filterMap fun frame => frame.data[byteIndex]?

def count (column : List UInt8) : Counter := column.foldl Counter.increment []

theorem byteHistograms_add (frames : List CanonicalFrame) (summary : KeySummary)
    (hlength : ∀ frame ∈ frames, frame.data.length = summary.byteHistograms.length)
    (byteIndex : Nat) :
    (frames.foldl (fun summary frame => KeySummary.add frame summary)
        summary).byteHistograms[byteIndex]? =
      (summary.byteHistograms[byteIndex]?).map
        ((frames.filterMap fun frame => frame.data[byteIndex]?).foldl Counter.increment ·) := by
  induction frames generalizing summary with
  | nil => simp
  | cons frame rest ih =>
    rw [List.forall_mem_cons] at hlength
    have hadded : (KeySummary.add frame summary).byteHistograms.length =
        summary.byteHistograms.length := by
      simp [KeySummary.add, hlength.1]
    rw [List.foldl_cons, ih _ (by rw [hadded]; exact hlength.2), List.filterMap_cons]
    by_cases hindex : byteIndex < summary.byteHistograms.length
    · have hdata : byteIndex < frame.data.length := hlength.1 ▸ hindex
      simp [KeySummary.add, hindex, hdata]
    · have hnone : summary.byteHistograms[byteIndex]? = none := by simpa using hindex
      have hnone' : (KeySummary.add frame summary).byteHistograms[byteIndex]? = none := by
        rw [List.getElem?_eq_none_iff, hadded]
        exact Nat.le_of_not_lt hindex
      rw [hnone, hnone']
      rfl

theorem mem_keys_summarize (frames : List CanonicalFrame) (key : FrameKey) :
    key ∈ keys (summarize frames) ↔ key ∈ frames.map frameKey :=
  mem_keys_group ..

theorem histogramAt_summarize (frames : List CanonicalFrame) (key : FrameKey) (byteIndex : Nat) :
    histogramAt (summarize frames) key byteIndex = count (bytesAt frames key byteIndex) := by
  unfold histogramAt summarize
  rw [lookup_group]
  split
  · rename_i hkey
    have hframes := byteHistograms_add (frames.filter fun frame => frameKey frame = key)
      ⟨0, List.replicate key.dataLength []⟩
      (by
        intro frame hmem
        rw [List.mem_filter, decide_eq_true_iff] at hmem
        rw [← hmem.2]
        simp [frameKey])
      byteIndex
    rw [Option.bind_some, hframes]
    by_cases hindex : byteIndex < key.dataLength
    · simp [hindex, count, bytesAt]
    · have hnone : bytesAt frames key byteIndex = [] := by
        unfold bytesAt
        rw [List.filterMap_eq_nil_iff]
        intro frame hmem
        rw [List.mem_filter, decide_eq_true_iff] at hmem
        have hdata : frame.data.length = key.dataLength := by rw [← hmem.2]; rfl
        simpa [hdata] using hindex
      simp [hindex, hnone, count]
  · rename_i hkey
    have hnone : bytesAt frames key byteIndex = [] := by
      unfold bytesAt
      rw [List.filterMap_eq_nil_iff]
      intro frame hmem
      rw [List.mem_filter, decide_eq_true_iff] at hmem
      exact absurd (List.mem_map.2 ⟨frame, hmem.1, hmem.2⟩) hkey
    rw [hnone]
    rfl

theorem bytesAt_ne_nil {frames : List CanonicalFrame} {key : FrameKey} {byteIndex : Nat}
    (hkey : key ∈ frames.map frameKey) (hindex : byteIndex < key.dataLength) :
    bytesAt frames key byteIndex ≠ [] := by
  rw [List.mem_map] at hkey
  obtain ⟨frame, hmem, rfl⟩ := hkey
  have hbyte : frame.data.get ⟨byteIndex, hindex⟩ ∈ bytesAt frames (frameKey frame) byteIndex := by
    unfold bytesAt
    rw [List.mem_filterMap]
    exact ⟨frame, by simp [hmem], List.getElem?_eq_getElem hindex⟩
  exact List.ne_nil_of_mem hbyte

/-! Counts. -/

theorem count_eq_group (column : List UInt8) :
    count column = group id (fun _ => 0) (fun _ total => total + 1) column := rfl

theorem foldl_succ (column : List UInt8) (start : Nat) :
    column.foldl (fun total _ => total + 1) start = start + column.length := by
  induction column generalizing start with
  | nil => rfl
  | cons value rest ih =>
    rw [List.foldl_cons, ih, List.length_cons]
    omega

theorem lookup_count (column : List UInt8) (value : UInt8) :
    (count column).lookup value = if value ∈ column then some (column.count value) else none := by
  rw [count_eq_group, lookup_group, List.map_id, foldl_succ, Nat.zero_add]
  simp [List.count_eq_length_filter, beq_eq_decide]

theorem get_count (column : List UInt8) (value : UInt8) :
    (count column).get value = column.count value := by
  unfold Counter.get
  rw [lookup_count]
  split
  · rfl
  · rename_i hnone
    rw [List.count_eq_zero_of_not_mem hnone]
    rfl

theorem mem_keys_count (column : List UInt8) (value : UInt8) :
    value ∈ keys (count column) ↔ value ∈ column := by
  rw [count_eq_group, mem_keys_group, List.map_id]

theorem mem_count {column : List UInt8} {entry : UInt8 × Nat} :
    entry ∈ count column ↔ entry.1 ∈ column ∧ entry.2 = column.count entry.1 := by
  have hnodup : (keys (count column)).Nodup := nodup_group ..
  constructor
  · intro hmem
    have hlookup := lookup_eq_some_of_mem hnodup hmem
    rw [lookup_count] at hlookup
    split at hlookup
    · rename_i hoccurs
      exact ⟨hoccurs, (Option.some.inj hlookup).symm⟩
    · cases hlookup
  · rintro ⟨hoccurs, hcount⟩
    apply mem_of_lookup
    rw [lookup_count, if_pos hoccurs, ← hcount]

theorem total_increment (counter : Counter) (value : UInt8) :
    (counter.increment value).total = counter.total + 1 := by
  unfold Counter.increment Counter.total
  induction counter with
  | nil => rfl
  | cons entry rest ih =>
    obtain ⟨found, counted⟩ := entry
    by_cases hfound : found = value
    · simp [upsert, hfound]
      omega
    · simp [upsert, hfound, ih]
      omega

theorem total_count (column : List UInt8) : (count column).total = column.length := by
  induction column using List.reverseRecOn with
  | nil => rfl
  | append_singleton column value ih =>
    rw [count, List.foldl_concat, total_increment, List.length_append, List.length_singleton]
    exact congrArg (· + 1) ih

/-! Modes. -/

/-- The most frequent value of a column, and the smallest of those. -/
structure IsMode (column : List UInt8) (value : UInt8) : Prop where
  occurs : value ∈ column
  most : ∀ other, column.count other ≤ column.count value
  least : ∀ other, column.count other = column.count value → value ≤ other

theorem IsMode.unique {column : List UInt8} {value other : UInt8} (h : IsMode column value)
    (hother : IsMode column other) : value = other := by
  have hsame := Nat.le_antisymm (hother.most value) (h.most other)
  exact UInt8.le_antisymm (h.least other hsame.symm) (hother.least value hsame)

def share (column : List UInt8) (value : UInt8) : ℚ :=
  float (column.count value / column.length)

theorem mode_eq_some {histogram : Counter} {maximumCount : Nat} {value : UInt8}
    (hmaximum : (histogram.map Prod.snd).max? = some maximumCount)
    (hvalue : ((histogram.filter fun entry => entry.2 = maximumCount).map Prod.fst).min? =
      some value) :
    mode histogram = some (value, float (maximumCount / histogram.total)) := by
  unfold mode
  rw [hmaximum, Option.bind_eq_bind, Option.bind_some, hvalue]
  rfl

theorem exists_max_of_mem {histogram : Counter} {entry : UInt8 × Nat} (h : entry ∈ histogram) :
    ∃ best ∈ histogram, (histogram.map Prod.snd).max? = some best.2 ∧
      ∀ other ∈ histogram, other.2 ≤ best.2 := by
  have hcounts : entry.2 ∈ histogram.map Prod.snd := List.mem_map.2 ⟨entry, h, rfl⟩
  obtain ⟨maximumCount, hmaximum⟩ := Option.isSome_iff_exists.1 (List.isSome_max?_of_mem hcounts)
  obtain ⟨hmem, hmost⟩ := List.max?_eq_some_iff.1 hmaximum
  obtain ⟨best, hbest, rfl⟩ := List.mem_map.1 hmem
  exact ⟨best, hbest, hmaximum, fun other hother => hmost _ (List.mem_map.2 ⟨other, hother, rfl⟩)⟩

theorem mode_count {column : List UInt8} (h : column ≠ []) :
    ∃ value, IsMode column value ∧ mode (count column) = some (value, share column value) := by
  obtain ⟨first, hfirst⟩ := List.exists_mem_of_ne_nil column h
  have hentry : (first, column.count first) ∈ count column := mem_count.2 ⟨hfirst, rfl⟩
  obtain ⟨best, hbest, hmaximum, hmost⟩ := exists_max_of_mem hentry
  have hcandidate : best.1 ∈
      ((count column).filter fun entry => entry.2 = best.2).map Prod.fst :=
    List.mem_map.2 ⟨best, List.mem_filter.2 ⟨hbest, decide_eq_true rfl⟩, rfl⟩
  obtain ⟨value, hvalue⟩ := Option.isSome_iff_exists.1 (List.isSome_min?_of_mem hcandidate)
  obtain ⟨hmem, hleast⟩ := List.min?_eq_some_iff.1 hvalue
  obtain ⟨entry, hentry, rfl⟩ := List.mem_map.1 hmem
  rw [List.mem_filter, decide_eq_true_iff, mem_count] at hentry
  obtain ⟨⟨hoccurs, hcount⟩, hmaximal⟩ := hentry
  have hcounted : column.count entry.1 = best.2 := by rw [← hcount, hmaximal]
  refine ⟨entry.1, ⟨hoccurs, ?_, ?_⟩, ?_⟩
  · intro other
    rw [hcounted]
    by_cases hother : other ∈ column
    · exact hmost (other, column.count other) (mem_count.2 ⟨hother, rfl⟩)
    · rw [List.count_eq_zero_of_not_mem hother]
      exact Nat.zero_le _
  · intro other hsame
    have hother : other ∈ column := by
      rw [← List.count_pos_iff, hsame, List.count_pos_iff]
      exact hoccurs
    apply hleast
    refine List.mem_map.2 ⟨(other, column.count other), List.mem_filter.2 ⟨?_, ?_⟩, rfl⟩
    · exact mem_count.2 ⟨hother, rfl⟩
    · simpa [hcounted] using hsame
  · rw [mode_eq_some hmaximum hvalue, total_count, ← hcounted]
    rfl

/-! Places. -/

theorem mem_sorted {frameKeys : List FrameKey} {key : FrameKey} :
    key ∈ sorted frameKeys ↔ key ∈ frameKeys :=
  List.mem_mergeSort

theorem pairwise_lt_mergeSort {A B : Type*} [LinearOrder B] (rank : A → B) {items : List A}
    (h : items.Pairwise fun left right => rank left ≠ rank right) :
    (items.mergeSort fun left right => decide (rank left ≤ rank right)).Pairwise
      fun left right => rank left < rank right := by
  have hsorted := @List.pairwise_mergeSort _ (fun left right => decide (rank left ≤ rank right))
    (by simpa using fun _ _ _ => le_trans) (by simpa using fun _ _ => le_total _ _) items
  have hdistinct := (List.mergeSort_perm items
    fun left right => decide (rank left ≤ rank right)).pairwise_iff (fun h => Ne.symm h) |>.2 h
  refine (hsorted.and hdistinct).imp ?_
  rintro left right ⟨hle, hne⟩
  exact lt_of_le_of_ne (of_decide_eq_true hle) hne

theorem sorted_lt {frameKeys : List FrameKey} (h : frameKeys.Nodup) :
    (sorted frameKeys).Pairwise (· < ·) :=
  pairwise_lt_mergeSort id h

theorem nodup_keys_summarize (frames : List CanonicalFrame) : (keys (summarize frames)).Nodup :=
  nodup_group ..

variable {baselineFrames eventFrames : List CanonicalFrame}

theorem mem_places {key : FrameKey} {byteIndex : Nat} :
    (key, byteIndex) ∈ places (summarize baselineFrames) (summarize eventFrames) ↔
      key ∈ baselineFrames.map frameKey ∧ key ∈ eventFrames.map frameKey ∧
        byteIndex < key.dataLength := by
  unfold places
  rw [List.mem_flatMap]
  constructor
  · rintro ⟨found, hfound, hplace⟩
    rw [List.mem_map] at hplace
    obtain ⟨index, hindex, hsame⟩ := hplace
    cases hsame
    rw [mem_sorted, List.mem_filter, decide_eq_true_iff, mem_keys_summarize,
      mem_keys_summarize] at hfound
    exact ⟨hfound.1, hfound.2, List.mem_range.1 hindex⟩
  · rintro ⟨hbaseline, hevent, hindex⟩
    refine ⟨key, ?_, List.mem_map.2 ⟨byteIndex, List.mem_range.2 hindex, rfl⟩⟩
    rw [mem_sorted, List.mem_filter, decide_eq_true_iff, mem_keys_summarize, mem_keys_summarize]
    exact ⟨hbaseline, hevent⟩

theorem nodup_places : (places (summarize baselineFrames) (summarize eventFrames)).Nodup := by
  unfold places
  rw [List.nodup_flatMap]
  constructor
  · intro key _
    exact List.nodup_range.map fun _ _ h => (Prod.mk.inj h).2
  · refine (sorted_lt ((nodup_keys_summarize baselineFrames).filter _)).imp ?_
    intro key other hlt
    apply List.disjoint_left.2
    intro place hplace hother
    rw [List.mem_map] at hplace hother
    obtain ⟨_, -, rfl⟩ := hplace
    obtain ⟨_, -, hsame⟩ := hother
    exact absurd (congrArg Prod.fst hsame) (ne_of_gt hlt)

/-! Candidates. -/

/-- Half the summed difference of the shares of all values that occur, in some order. -/
def IsDistance (sums : SetsAndSums) (baseline event : List UInt8) (distance : ℚ) : Prop :=
  ∃ values : List UInt8, values.Nodup ∧
    (∀ value, value ∈ values ↔ value ∈ baseline ∨ value ∈ event) ∧
    distance = float (1 / 2 * sums.sum (values.map fun value =>
      |float (share baseline value - share event value)|))

theorem isDistance_count (sums : SetsAndSums) (baseline event : List UInt8) :
    IsDistance sums baseline event
      (distributionDistance sums (count baseline) (count event)) := by
  refine ⟨sums.union (keys (count baseline)) (keys (count event)), sums.nodup _ _, ?_, ?_⟩
  · intro value
    rw [sums.mem_union, mem_keys_count, mem_keys_count]
  · unfold distributionDistance
    simp only [get_count, total_count, share]

/-- What a candidate says about the frames of two traces. -/
structure Reports (sums : SetsAndSums) (minimumDistance : FloatValue)
    (baselineFrames eventFrames : List CanonicalFrame) (candidate : ByteCandidate) : Prop where
  inBaseline : candidate.key ∈ baselineFrames.map frameKey
  inEvent : candidate.key ∈ eventFrames.map frameKey
  inRange : candidate.byteIndex < candidate.key.dataLength
  baselineMode : IsMode (bytesAt baselineFrames candidate.key candidate.byteIndex)
    candidate.baselineMode
  eventMode : IsMode (bytesAt eventFrames candidate.key candidate.byteIndex) candidate.eventMode
  changed : candidate.baselineMode ≠ candidate.eventMode
  changedBitMask : candidate.changedBitMask = candidate.baselineMode ^^^ candidate.eventMode
  distance : candidate.distributionDistance = distributionDistance sums
    (count (bytesAt baselineFrames candidate.key candidate.byteIndex))
    (count (bytesAt eventFrames candidate.key candidate.byteIndex))
  farEnough : (FloatValue.finite candidate.distributionDistance).below minimumDistance = false
  baselineStability : candidate.baselineStability =
    share (bytesAt baselineFrames candidate.key candidate.byteIndex) candidate.baselineMode
  eventStability : candidate.eventStability =
    share (bytesAt eventFrames candidate.key candidate.byteIndex) candidate.eventMode
  score : candidate.score = float (candidate.distributionDistance *
    float (float (candidate.baselineStability + candidate.eventStability) / 2))

variable {sums : SetsAndSums} {minimumDistance : FloatValue}

theorem candidateAt_ok {place : FrameKey × Nat}
    (hplace : place ∈ places (summarize baselineFrames) (summarize eventFrames)) :
    ∃ result, candidateAt sums minimumDistance (summarize baselineFrames) (summarize eventFrames)
        place = .ok result ∧
      ∀ candidate, result = some candidate ↔
        (candidate.key, candidate.byteIndex) = place ∧
          Reports sums minimumDistance baselineFrames eventFrames candidate := by
  obtain ⟨key, byteIndex⟩ := place
  obtain ⟨hbaseline, hevent, hindex⟩ := mem_places.1 hplace
  obtain ⟨baselineMode, hbaselineMode, hbaselineSome⟩ :=
    mode_count (bytesAt_ne_nil hbaseline hindex)
  obtain ⟨eventMode, heventMode, heventSome⟩ := mode_count (bytesAt_ne_nil hevent hindex)
  unfold candidateAt
  simp only [histogramAt_summarize, hbaselineSome, heventSome]
  by_cases hsame : baselineMode = eventMode
  · refine ⟨none, if_pos hsame, fun candidate => iff_of_false nofun ?_⟩
    rintro ⟨hat, hreports⟩
    cases hat
    apply hreports.changed
    rw [hreports.baselineMode.unique hbaselineMode, hreports.eventMode.unique heventMode, hsame]
  · rw [if_neg hsame]
    split
    · rename_i hnear
      refine ⟨none, rfl, fun candidate => iff_of_false nofun ?_⟩
      rintro ⟨hat, hreports⟩
      cases hat
      have hfar := hreports.farEnough
      rw [hreports.distance, hnear] at hfar
      cases hfar
    · rename_i hfar
      refine ⟨_, rfl, fun candidate => ⟨?_, ?_⟩⟩
      · intro hcandidate
        cases hcandidate
        exact ⟨rfl, hbaseline, hevent, hindex, hbaselineMode, heventMode, hsame, rfl, rfl,
          eq_false_of_ne_true hfar, rfl, rfl, rfl⟩
      · rintro ⟨hat, hreports⟩
        obtain ⟨candidateKey, candidateIndex, _, _, _, _, _, _, _⟩ := candidate
        cases hat
        obtain ⟨-, -, -, hmode, hmode', -, hmask, hdistance, -, hstability, hstability', hscore⟩ :=
          hreports
        have hbaselineSame := hmode.unique hbaselineMode
        have heventSame := hmode'.unique heventMode
        dsimp only at *
        subst hbaselineSame heventSame hmask hdistance hstability hstability' hscore
        rfl

/-! The whole comparison. -/

theorem candidates_at {visited : List (FrameKey × Nat)} {results : List (Option ByteCandidate)}
    (hvisited : ∀ place ∈ visited,
      place ∈ places (summarize baselineFrames) (summarize eventFrames))
    (hnodup : visited.Nodup)
    (hresults : List.Forall₂ (fun place result => candidateAt sums minimumDistance
      (summarize baselineFrames) (summarize eventFrames) place = .ok result) visited results) :
    (∀ candidate, candidate ∈ results.filterMap id ↔
      (candidate.key, candidate.byteIndex) ∈ visited ∧
        Reports sums minimumDistance baselineFrames eventFrames candidate) ∧
    (results.filterMap id).Pairwise fun left right =>
      (left.key, left.byteIndex) ≠ (right.key, right.byteIndex) := by
  induction hresults with
  | nil => simp
  | @cons place result visited results hresult _ ih =>
    rw [List.forall_mem_cons] at hvisited
    rw [List.nodup_cons] at hnodup
    obtain ⟨hmem, hpairwise⟩ := ih hvisited.2 hnodup.2
    obtain ⟨result', hok, hreports⟩ := @candidateAt_ok _ _ sums minimumDistance place hvisited.1
    rw [hresult] at hok
    cases hok
    constructor
    · intro candidate
      have hcons : candidate ∈ (result :: results).filterMap id ↔
          result = some candidate ∨ candidate ∈ results.filterMap id := by
        simp [eq_comm]
      rw [hcons, hreports, hmem, List.mem_cons]
      tauto
    · cases hfound : result with
      | none => exact hpairwise
      | some found =>
        change (found :: results.filterMap id).Pairwise _
        rw [List.pairwise_cons]
        refine ⟨?_, hpairwise⟩
        intro later hlater hsame
        have hplace := ((hreports found).1 hfound).1
        rw [hmem, ← hsame, hplace] at hlater
        exact hnodup.1 hlater.1

theorem pairwise_rank_ne {candidates : List ByteCandidate}
    (h : candidates.Pairwise fun left right =>
      (left.key, left.byteIndex) ≠ (right.key, right.byteIndex)) :
    candidates.Pairwise fun left right => left.rank ≠ right.rank := by
  refine h.imp ?_
  intro left right hne hsame
  apply hne
  unfold ByteCandidate.rank at hsame
  simp only [EmbeddingLike.apply_eq_iff_eq, Prod.mk.injEq] at hsame
  rw [hsame.2.2.1, hsame.2.2.2]

structure Compares (sums : SetsAndSums) (minimumDistance : FloatValue)
    (baselineFrames eventFrames : List CanonicalFrame) (comparison : TraceComparison) : Prop where
  baselineFrameCount : comparison.baselineFrameCount = baselineFrames.length
  eventFrameCount : comparison.eventFrameCount = eventFrames.length
  candidates : ∀ candidate, candidate ∈ comparison.candidates ↔
    Reports sums minimumDistance baselineFrames eventFrames candidate
  distances : ∀ candidate ∈ comparison.candidates, IsDistance sums
    (bytesAt baselineFrames candidate.key candidate.byteIndex)
    (bytesAt eventFrames candidate.key candidate.byteIndex) candidate.distributionDistance
  strongestFirst : comparison.candidates.Pairwise fun left right => left.rank < right.rank
  onlyInBaseline : ∀ key, key ∈ comparison.identifiersOnlyInBaseline ↔
    key ∈ baselineFrames.map frameKey ∧ key ∉ eventFrames.map frameKey
  onlyInEvent : ∀ key, key ∈ comparison.identifiersOnlyInEvent ↔
    key ∈ eventFrames.map frameKey ∧ key ∉ baselineFrames.map frameKey
  baselineSorted : comparison.identifiersOnlyInBaseline.Pairwise (· < ·)
  eventSorted : comparison.identifiersOnlyInEvent.Pairwise (· < ·)

theorem mem_exclusive {key : FrameKey} :
    key ∈ sorted ((keys (summarize baselineFrames)).filter
        fun key => key ∉ keys (summarize eventFrames)) ↔
      key ∈ baselineFrames.map frameKey ∧ key ∉ eventFrames.map frameKey := by
  rw [mem_sorted, List.mem_filter, decide_eq_true_iff, mem_keys_summarize, mem_keys_summarize]

theorem compareTraces_ok
    (hminimum : ((FloatValue.finite 0).atMost minimumDistance &&
      minimumDistance.atMost (.finite 1)) = true) :
    ∃ comparison, compareTraces sums baselineFrames eventFrames minimumDistance = .ok comparison ∧
      Compares sums minimumDistance baselineFrames eventFrames comparison := by
  obtain ⟨results, hresults, hall⟩ := @mapM_of_ok _ _ _
    (candidateAt sums minimumDistance (summarize baselineFrames) (summarize eventFrames))
    (places (summarize baselineFrames) (summarize eventFrames)) fun place hplace => by
      obtain ⟨result, hok, -⟩ := @candidateAt_ok _ _ sums minimumDistance place hplace
      exact ⟨result, hok⟩
  obtain ⟨hmem, hpairwise⟩ := candidates_at (fun _ h => h) nodup_places hall
  have hcandidates : ∀ candidate,
      candidate ∈ (comparisonOf baselineFrames eventFrames results).candidates ↔
        Reports sums minimumDistance baselineFrames eventFrames candidate := by
    intro candidate
    unfold comparisonOf
    rw [List.mem_mergeSort, hmem]
    exact and_iff_right_of_imp fun h => mem_places.2 ⟨h.inBaseline, h.inEvent, h.inRange⟩
  refine ⟨comparisonOf baselineFrames eventFrames results, ?_, ⟨rfl, rfl, hcandidates, ?_, ?_,
    fun _ => mem_exclusive, fun _ => mem_exclusive, ?_, ?_⟩⟩
  · unfold compareTraces
    rw [hminimum, if_neg Bool.noConfusion]
    dsimp only
    rw [hresults]
    rfl
  · intro candidate hcandidate
    rw [((hcandidates candidate).1 hcandidate).distance]
    exact isDistance_count sums _ _
  · exact pairwise_lt_mergeSort ByteCandidate.rank (pairwise_rank_ne hpairwise)
  · exact sorted_lt ((nodup_keys_summarize baselineFrames).filter _)
  · exact sorted_lt ((nodup_keys_summarize eventFrames).filter _)

theorem bytesAt_perm (h : baselineFrames.Perm eventFrames) (key : FrameKey) (byteIndex : Nat) :
    (bytesAt baselineFrames key byteIndex).Perm (bytesAt eventFrames key byteIndex) :=
  (h.filter _).filterMap _

theorem IsMode.perm {column other : List UInt8} {value : UInt8} (h : IsMode column value)
    (hperm : column.Perm other) : IsMode other value where
  occurs := hperm.mem_iff.1 h.occurs
  most another := by
    rw [← hperm.count_eq, ← hperm.count_eq]
    exact h.most another
  least another hsame := by
    rw [← hperm.count_eq, ← hperm.count_eq] at hsame
    exact h.least another hsame

theorem Compares.nothing {comparison : TraceComparison}
    (h : Compares sums minimumDistance baselineFrames eventFrames comparison)
    (hperm : baselineFrames.Perm eventFrames) :
    comparison.candidates = [] ∧ comparison.identifiersOnlyInBaseline = [] ∧
      comparison.identifiersOnlyInEvent = [] := by
  have hkeys : ∀ key, key ∈ baselineFrames.map frameKey ↔ key ∈ eventFrames.map frameKey :=
    fun key => (hperm.map frameKey).mem_iff
  refine ⟨?_, ?_, ?_⟩
  · rw [List.eq_nil_iff_forall_not_mem]
    intro candidate hcandidate
    have hreports := (h.candidates candidate).1 hcandidate
    apply hreports.changed
    exact (hreports.baselineMode.perm (bytesAt_perm hperm _ _)).unique hreports.eventMode
  · rw [List.eq_nil_iff_forall_not_mem]
    intro key hkey
    obtain ⟨hin, hout⟩ := (h.onlyInBaseline key).1 hkey
    exact hout ((hkeys key).1 hin)
  · rw [List.eq_nil_iff_forall_not_mem]
    intro key hkey
    obtain ⟨hin, hout⟩ := (h.onlyInEvent key).1 hkey
    exact hout ((hkeys key).2 hin)

end BmwRemote.Host.AnalyzeTraceChange
