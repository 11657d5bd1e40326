import BmwRemote.Host.TraceReaders
import BmwRemote.Host.TraceText

/-! The two readers of canonical traces against each other. They read the same format; what
they differ in is where a line ends, how long a number may be, and what becomes of a length
above eight. -/
namespace BmwRemote.Host.CanonicalTrace

open BmwRemote.Infrastructure BmwRemote.Lib
open CanTraceCsv (parseCanonicalCanTrace stripCarriageReturn Overflows)

/-- A carriage return that is not at the end of the text and has no newline behind it. -/
def StrayReturn (source : List Char) : Prop :=
  ∃ before next after, source = before ++ '\r' :: next :: after ∧ next ≠ '\n'

/-! Lines. -/

theorem StrayReturn.cons {character : Char} {source : List Char} (h : StrayReturn source) :
    StrayReturn (character :: source) := by
  obtain ⟨before, next, after, rfl, hnext⟩ := h
  exact ⟨character :: before, next, after, rfl, hnext⟩

theorem lines_newline (text : Text) : Text.lines (Text.newline :: text) = [] :: text.lines := by
  rw [Text.lines, if_pos rfl]

theorem lines_append {bytes : Text} (hne : bytes ≠ []) (hbytes : Text.newline ∉ bytes)
    (text : Text) : Text.lines (bytes ++ text) =
      (bytes ++ text.lines.head?.getD []) :: text.lines.tail := by
  induction bytes with
  | nil => exact absurd rfl hne
  | cons byte bytes ih =>
    rw [List.mem_cons, not_or] at hbytes
    rw [List.cons_append, Text.lines, if_neg fun h => hbytes.1 h.symm]
    cases bytes with
    | nil =>
      rw [List.nil_append]
      cases text.lines with
      | nil => rfl
      | cons line lines => rfl
    | cons other bytes =>
      rw [ih (by simp) hbytes.2]
      rfl

theorem stripCarriageReturn_append {bytes : Text} (hbytes : Text.carriageReturn ∉ bytes)
    (line : Text) : stripCarriageReturn (bytes ++ line) = bytes ++ stripCarriageReturn line := by
  unfold stripCarriageReturn
  cases line using List.reverseRecOn with
  | nil =>
    rw [List.append_nil, if_neg, if_neg]
    · rw [List.append_nil]
    · decide
    · intro h
      exact hbytes (List.mem_of_getLast? h)
  | append_singleton line last =>
    rw [← List.append_assoc, List.getLast?_concat, List.getLast?_concat]
    split
    · rw [List.dropLast_concat, List.dropLast_concat]
    · rw [List.append_assoc]

theorem rstrip_cons {character : Char} (h : isLineEnd character = false) (line : List Char) :
    rstrip (character :: line) = character :: rstrip line := by
  unfold rstrip List.rdropWhile
  rw [List.reverse_cons, List.dropWhile_append]
  split
  · rename_i hempty
    rw [List.isEmpty_iff] at hempty
    rw [hempty]
    simp [h]
  · simp

theorem rawLines_cons {character : Char} (h : isLineEnd character = false) (rest : List Char) :
    rawLines (character :: rest) =
      (character :: (rawLines rest).head?.getD []) :: (rawLines rest).tail := by
  have hreturn : character ≠ '\r' := by
    rintro rfl
    cases h
  have hnewline : character ≠ '\n' := by
    rintro rfl
    cases h
  rw [rawLines]
  · cases rawLines rest with
    | nil => rfl
    | cons line others => rfl
  · exact fun _ hcharacter _ => hreturn hcharacter
  · exact hreturn
  · exact hnewline

theorem notMem_utf8EncodeChar {character other : Char} (hother : isAscii other = true)
    (hne : character ≠ other) : other.toUInt8 ∉ String.utf8EncodeChar character := by
  intro hmem
  cases hascii : isAscii character with
  | true =>
    rw [utf8EncodeChar_ascii hascii, List.mem_singleton, toUInt8_eq_iff hother hascii] at hmem
    exact hne hmem.symm
  | false =>
    have hhigh := utf8EncodeChar_high hascii _ hmem
    rw [UInt8.le_iff_toNat_le, toUInt8_lt hother] at hhigh
    have hsmall : other.toNat < 128 := of_decide_eq_true hother
    exact absurd hhigh (Nat.not_le.mpr hsmall)

theorem textLines_cons {character : Char} (h : isLineEnd character = false) {rest : List Char}
    (hrest : textLines (utf8 rest) = sourceLines rest) :
    textLines (utf8 (character :: rest)) = sourceLines (character :: rest) := by
  unfold isLineEnd at h
  rw [Bool.or_eq_false_iff, beq_eq_false_iff_ne, beq_eq_false_iff_ne] at h
  have hreturn : Text.carriageReturn ∉ String.utf8EncodeChar character :=
    notMem_utf8EncodeChar (by decide) h.1
  have hnewline : Text.newline ∉ String.utf8EncodeChar character :=
    notMem_utf8EncodeChar (by decide) h.2
  have hend : isLineEnd character = false := by simp [isLineEnd, h]
  unfold textLines sourceLines at hrest ⊢
  rw [utf8_cons, lines_append String.utf8EncodeChar_ne_nil hnewline, rawLines_cons hend,
    List.map_cons, List.map_cons, stripCarriageReturn_append hreturn, rstrip_cons hend, utf8_cons]
  cases hlines : Text.lines (utf8 rest) with
  | nil =>
    rw [hlines, List.map_nil, eq_comm, List.map_eq_nil_iff] at hrest
    rw [hrest]
    rfl
  | cons line lines =>
    cases hraw : rawLines rest with
    | nil =>
      rw [hlines, hraw] at hrest
      cases hrest
    | cons raw raws =>
      rw [hlines, hraw, List.map_cons, List.map_cons, List.cons.injEq] at hrest
      rw [List.head?_cons, List.head?_cons, Option.getD_some, Option.getD_some, List.tail_cons,
        List.tail_cons, hrest.1, hrest.2]

/-- Without a stray carriage return both see the same lines. -/
theorem textLines_utf8 {source : List Char} (h : ¬ StrayReturn source) :
    textLines (utf8 source) = sourceLines source := by
  induction source using rawLines.induct with
  | case1 => rfl
  | case2 rest ih =>
    have hrest : ¬ StrayReturn rest := fun hstray => h hstray.cons.cons
    change (Text.lines ([Text.carriageReturn] ++ Text.newline :: utf8 rest)).map _ = _
    rw [lines_append (by decide) (by decide), lines_newline, sourceLines, rawLines]
    exact congrArg ([] :: ·) (ih hrest)
  | case3 rest hnewline ih =>
    cases rest with
    | nil => rfl
    | cons next after =>
      refine absurd ⟨[], next, after, rfl, ?_⟩ h
      rintro rfl
      exact hnewline after rfl
  | case4 rest ih =>
    have hrest : ¬ StrayReturn rest := fun hstray => h hstray.cons
    change (Text.lines (Text.newline :: utf8 rest)).map _ = _
    rw [lines_newline, sourceLines, rawLines]
    exact congrArg ([] :: ·) (ih hrest)
  | case5 character rest _ hreturn hnewline _ ih =>
    exact textLines_cons (by simpa [isLineEnd] using ⟨hreturn, hnewline⟩)
      (ih fun hstray => h hstray.cons)
  | case6 character rest _ hreturn hnewline _ _ _ ih =>
    exact textLines_cons (by simpa [isLineEnd] using ⟨hreturn, hnewline⟩)
      (ih fun hstray => h hstray.cons)

theorem exists_return_of_lines {byte : UInt8} (hbyte : byte ≠ Text.newline) (before after : Text) :
    ∃ line ∈ Text.lines (before ++ Text.carriageReturn :: byte :: after),
      Text.carriageReturn ∈ line.dropLast := by
  induction before with
  | nil =>
    change ∃ line ∈ Text.lines ([Text.carriageReturn, byte] ++ after), _
    rw [lines_append (by simp) (by simpa [Text.newline, Text.carriageReturn] using hbyte.symm)]
    refine ⟨_, List.mem_cons_self, ?_⟩
    rw [List.cons_append, List.dropLast_cons_of_ne_nil (by simp)]
    exact List.mem_cons_self
  | cons first before ih =>
    obtain ⟨line, hline, hreturn⟩ := ih
    by_cases hfirst : first = Text.newline
    · rw [hfirst, List.cons_append, lines_newline]
      exact ⟨line, List.mem_cons_of_mem _ hline, hreturn⟩
    · rw [List.cons_append, ← List.singleton_append, lines_append (by simp) (by simpa using Ne.symm hfirst)]
      cases hlines : Text.lines (before ++ Text.carriageReturn :: byte :: after) with
      | nil =>
        rw [hlines] at hline
        cases hline
      | cons next lines =>
        rw [hlines, List.mem_cons] at hline
        rcases hline with rfl | hline
        · refine ⟨_, List.mem_cons_self, ?_⟩
          have hne : line ≠ [] := by
            rintro rfl
            cases hreturn
          rw [List.head?_cons, Option.getD_some, List.singleton_append,
            List.dropLast_cons_of_ne_nil hne]
          exact List.mem_cons_of_mem _ hreturn
        · exact ⟨line, List.mem_cons_of_mem _ hline, hreturn⟩

theorem return_of_stray {source : List Char} (h : StrayReturn source) :
    ∃ line ∈ textLines (utf8 source), Text.carriageReturn ∈ line := by
  obtain ⟨before, next, after, rfl, hnext⟩ := h
  obtain ⟨byte, bytes, hbytes⟩ := List.exists_cons_of_ne_nil (@String.utf8EncodeChar_ne_nil next)
  have hbyte : byte ≠ Text.newline := by
    rintro rfl
    have hnewline : Text.newline ∉ String.utf8EncodeChar next :=
      notMem_utf8EncodeChar (by decide) hnext
    exact hnewline (hbytes ▸ List.mem_cons_self)
  obtain ⟨line, hline, hreturn⟩ :=
    exists_return_of_lines hbyte (utf8 before) (bytes ++ utf8 after)
  refine ⟨stripCarriageReturn line, List.mem_map_of_mem ?_, ?_⟩
  · rw [utf8_append, utf8_cons, utf8_cons, hbytes]
    exact hline
  · unfold stripCarriageReturn
    split
    · exact hreturn
    · exact List.dropLast_subset _ hreturn

theorem IsTrace.return_notMem {maximumFrames : Nat} {lines : List Text}
    {frames : List CanonicalFrame} (h : IsTrace maximumFrames lines frames) :
    ∀ line ∈ lines, Text.carriageReturn ∉ line := by
  obtain ⟨first, hfirst, hheader⟩ := h.header
  obtain ⟨rest, rfl⟩ := List.head?_eq_some_iff.mp hfirst
  rw [List.forall_mem_cons]
  constructor
  · rcases hheader with rfl | rfl <;> decide
  · intro line hmem hreturn
    have hne : line ≠ [] := List.ne_nil_of_mem hreturn
    obtain ⟨frame, hspells⟩ := spells_of_reads h.reads line
      (List.mem_filter.mpr ⟨hmem, decide_eq_true hne⟩)
    rcases hspells.bytes _ hreturn with hcomma | ⟨hcode, -⟩
    · cases hcomma
    · exact absurd hcode (by decide)

/-! Agreement. -/

/-- Both readers reject the text, or both accept it and yield the same frames. -/
def Agree (source : List Char) (maximumFrames : Nat) (before : List CanFrame) : Prop :=
  (∃ message error, parseCanonicalTrace source maximumFrames = .error message ∧
    parseCanonicalCanTrace (utf8 source) before maximumFrames = .ok ⟨false, before, error⟩) ∨
  ∃ frames read, parseCanonicalTrace source maximumFrames = .ok frames ∧
    parseCanonicalCanTrace (utf8 source) before maximumFrames = .ok ⟨true, read, ""⟩ ∧
    List.Forall₂ SameFrame frames read

theorem IsTrace.sameFrames {maximumFrames : Nat} {lines : List Text}
    {frames : List CanonicalFrame} (h : IsTrace maximumFrames lines frames) :
    List.Forall₂ SameFrame frames (frames.map CanonicalFrame.toCanFrame) := by
  rw [List.forall₂_map_right_iff, List.forall₂_same]
  exact fun frame hmem => (valid_of_reads h.reads frame hmem).sameFrame

section Readers

variable {source : List Char} {maximumFrames : Nat} {before : List CanFrame}

theorem tool_accepts_iff {frames : List CanonicalFrame} :
    parseCanonicalTrace source maximumFrames = .ok frames ↔
      IsTrace maximumFrames (sourceLines source) frames ∧
        ¬ ∃ line ∈ sourceLines source, HasLongNumber line := by
  rw [parseCanonicalTrace_eq_ok_iff]
  simp only [not_exists, not_and]

theorem tool_rejects (h : ∀ frames, parseCanonicalTrace source maximumFrames ≠ .ok frames) :
    ∃ message, parseCanonicalTrace source maximumFrames = .error message := by
  cases hresult : parseCanonicalTrace source maximumFrames with
  | error message => exact ⟨message, rfl⟩
  | ok frames => exact absurd hresult (h frames)

theorem simulator_accepts_iff {read : List CanFrame} :
    parseCanonicalCanTrace (utf8 source) before maximumFrames = .ok ⟨true, read, ""⟩ ↔
      ¬ StrayReturn source ∧ ∃ frames, IsTrace maximumFrames (sourceLines source) frames ∧
        read = frames.map CanonicalFrame.toCanFrame := by
  rw [parse_accepts_iff]
  constructor
  · rintro ⟨frames, htrace, rfl⟩
    have hstray : ¬ StrayReturn source := by
      intro hstray
      obtain ⟨line, hline, hreturn⟩ := return_of_stray hstray
      exact htrace.return_notMem line hline hreturn
    rw [textLines_utf8 hstray] at htrace
    exact ⟨hstray, frames, htrace, rfl⟩
  · rintro ⟨hstray, hframes⟩
    rwa [textLines_utf8 hstray]

theorem simulator_rejects
    (hbounds : ∀ lineNumber line,
      CanTraceCsv.Reaches (utf8 source) maximumFrames lineNumber line → ¬ Overflows (stripCarriageReturn line))
    (h : ∀ read, parseCanonicalCanTrace (utf8 source) before maximumFrames ≠
      .ok ⟨true, read, ""⟩) :
    ∃ error, parseCanonicalCanTrace (utf8 source) before maximumFrames =
      .ok ⟨false, before, error⟩ := by
  rcases parse_cases (utf8 source) before maximumFrames with ⟨outOfBounds, herror⟩ | hrejected |
    ⟨-, _, _, read, -, -, -, -, haccepted⟩
  · by_cases hmaximum : 0 < maximumFrames
    · obtain ⟨answer, hanswer⟩ := CanTraceCsv.parse_inBounds hmaximum hbounds before
      rw [herror] at hanswer
      cases hanswer
    · rw [parseCanonicalCanTrace, if_pos (by omega)] at herror
      cases herror
  · exact hrejected
  · exact absurd haccepted (h read)

theorem Agree.inBounds (h : Agree source maximumFrames before) :
    ∀ lineNumber line, CanTraceCsv.Reaches (utf8 source) maximumFrames lineNumber line →
      ¬ Overflows (stripCarriageReturn line) := by
  intro lineNumber line hreaches hover
  have hmaximum : 0 < maximumFrames := by
    obtain ⟨_, _, _, _, _, _, _, _, _, hroom⟩ := hreaches
    omega
  have herror : parseCanonicalCanTrace (utf8 source) before maximumFrames = .error ⟨8⟩ :=
    CanTraceCsv.parse_overflow hmaximum hreaches hover
  rcases h with ⟨_, _, -, hrejected⟩ | ⟨_, _, -, haccepted, -⟩
  · rw [herror] at hrejected
    cases hrejected
  · rw [herror] at haccepted
    cases haccepted

end Readers

/-- The readers agree exactly if no line that is reached announces more than eight bytes and
gives them, and a trace has a stray carriage return just if it has a long number as well. -/
theorem readers_agree_iff (source : List Char) (maximumFrames : Nat) (before : List CanFrame) :
    Agree source maximumFrames before ↔
      (∀ lineNumber line, CanTraceCsv.Reaches (utf8 source) maximumFrames lineNumber line →
        ¬ Overflows (stripCarriageReturn line)) ∧
      ((∃ frames, IsTrace maximumFrames (sourceLines source) frames) →
        (StrayReturn source ↔ ∃ line ∈ sourceLines source, HasLongNumber line)) := by
  constructor
  · intro hagree
    refine ⟨hagree.inBounds, ?_⟩
    rintro ⟨frames, htrace⟩
    rcases hagree with ⟨_, _, htool, hsimulator⟩ | ⟨_, _, htool, hsimulator, -⟩
    · have hlong : ∃ line ∈ sourceLines source, HasLongNumber line := by
        by_contra hshort
        rw [tool_accepts_iff.mpr ⟨htrace, hshort⟩] at htool
        cases htool
      have hstray : StrayReturn source := by
        by_contra hnone
        rw [simulator_accepts_iff.mpr ⟨hnone, frames, htrace, rfl⟩] at hsimulator
        cases hsimulator
      exact iff_of_true hstray hlong
    · exact iff_of_false (simulator_accepts_iff.mp hsimulator).1 (tool_accepts_iff.mp htool).2
  · rintro ⟨hbounds, hlines⟩
    by_cases haccepted : ¬ StrayReturn source ∧
        ∃ frames, IsTrace maximumFrames (sourceLines source) frames
    · obtain ⟨hstray, frames, htrace⟩ := haccepted
      have hshort := (hlines ⟨frames, htrace⟩).not.mp hstray
      exact .inr ⟨frames, frames.map CanonicalFrame.toCanFrame,
        tool_accepts_iff.mpr ⟨htrace, hshort⟩,
        simulator_accepts_iff.mpr ⟨hstray, frames, htrace, rfl⟩, htrace.sameFrames⟩
    · obtain ⟨error, hsimulator⟩ := simulator_rejects hbounds fun read h => by
        obtain ⟨hstray, frames, htrace, -⟩ := simulator_accepts_iff.mp h
        exact haccepted ⟨hstray, frames, htrace⟩
      obtain ⟨message, htool⟩ := tool_rejects fun frames h => by
        obtain ⟨htrace, hshort⟩ := tool_accepts_iff.mp h
        have hstray := (hlines ⟨frames, htrace⟩).not.mpr hshort
        exact haccepted ⟨hstray, frames, htrace⟩
      exact .inl ⟨message, error, htool, hsimulator⟩

def doubleReturn : List Char := header ++ "\n0,0x1,0,0,\r\r\n".toList

/-- The tools take the first carriage return for the end of a line, the simulator for data. -/
theorem doubleReturn_disagrees :
    parseCanonicalTrace doubleReturn 1 = .ok [⟨0, 1, false, []⟩] ∧
    parseCanonicalCanTrace (utf8 doubleReturn) [] 1 =
      .ok ⟨false, [], "line 2: invalid CAN frame"⟩ ∧
    ¬ Agree doubleReturn 1 [] := by
  have htool : parseCanonicalTrace doubleReturn 1 = .ok [⟨0, 1, false, []⟩] := by rfl
  have hsimulator : parseCanonicalCanTrace (utf8 doubleReturn) [] 1 =
      .ok ⟨false, [], "line 2: invalid CAN frame"⟩ := by rfl
  refine ⟨htool, hsimulator, ?_⟩
  rintro (⟨message, error, hrejected, -⟩ | ⟨frames, read, -, haccepted, -⟩)
  · rw [show ((1 : Nat) : Int) = 1 from rfl, htool] at hrejected
    cases hrejected
  · rw [hsimulator] at haccepted
    cases haccepted

end BmwRemote.Host.CanonicalTrace
