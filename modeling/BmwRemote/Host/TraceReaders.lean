import BmwRemote.Host.TraceFormat

/-! The reader in C++ takes exactly the canonical traces, in the lines it sees. -/
namespace BmwRemote.Host.CanonicalTrace

open BmwRemote.Infrastructure BmwRemote.Lib
open CanTraceCsv hiding parseLine parseLines parseData parseIdentifier header byteOrderMark

/-! The data of a frame. -/

def patched (data : Vector UInt8 8) (index : Nat) (bytes : List UInt8) : Vector UInt8 8 :=
  Vector.ofFn fun place =>
    if place.val < index then data.get place else bytes.getD (place.val - index) (data.get place)

theorem getElem_patched (data : Vector UInt8 8) (index : Nat) (bytes : List UInt8) {place : Nat}
    (h : place < 8) : (patched data index bytes)[place] =
      if place < index then data[place] else bytes.getD (place - index) data[place] := by
  rw [patched, Vector.getElem_ofFn]
  rfl

theorem patched_cons (data : Vector UInt8 8) {index : Nat} (h : index < 8) (byte : UInt8)
    (bytes : List UInt8) :
    patched (data.set index byte) (index + 1) bytes = patched data index (byte :: bytes) := by
  ext place hplace
  rw [getElem_patched, getElem_patched]
  rcases Nat.lt_trichotomy place index with hlt | rfl | hgt
  · rw [if_pos (by omega), if_pos hlt, Vector.getElem_set_ne _ _ (by omega)]
  · rw [if_pos (by omega), if_neg (by omega), Nat.sub_self]
    simp
  · rw [if_neg (by omega), if_neg (by omega), Vector.getElem_set_ne _ _ (by omega),
      show place - index = place - (index + 1) + 1 by omega, List.getD_cons_succ]

theorem storeBytes_eq (count : Nat) {index : Nat} (hindex : index + count ≤ 8)
    (frame : CanFrame) {text : Text} (hlength : text.length = 2 * count) :
    storeBytes index frame text =
      .ok ((hexBytes text).map fun bytes =>
        { frame with data := patched frame.data index bytes }) := by
  induction count generalizing index frame text with
  | zero =>
    have hnil : patched frame.data index [] = frame.data := by
      ext place hplace
      simp [getElem_patched]
    rw [List.length_eq_zero_iff.1 hlength, storeBytes, hexBytes]
    · simp [hnil]
    · simp
  | succ count ih =>
    obtain ⟨high, low, rest, rfl, hrest⟩ := exists_pair (by omega : 2 ≤ text.length)
    rw [storeBytes, hexBytes]
    cases hhigh : hexNibble high with
    | none => rfl
    | some first =>
      cases hlow : hexNibble low with
      | none => rfl
      | some second =>
        have hbound : index < 8 := by omega
        dsimp only
        rw [storeByte, dif_pos hbound]
        change storeBytes (index + 1) _ rest = _
        rw [ih (by omega) _ (by omega)]
        cases hexBytes rest with
        | none => rfl
        | some bytes => simp [patched_cons _ hbound]

theorem toCanFrame_data (frame : CanonicalFrame) :
    frame.toCanFrame.data = patched (Vector.replicate 8 0) 0 frame.data := by
  ext place hplace
  simp [CanonicalFrame.toCanFrame, getElem_patched]

/-! One line. -/

theorem parseUnsigned_iff {text : Text} {base : Nat} {maximum parsed : UInt64} :
    parseUnsigned text base maximum = some parsed ↔ ∃ value : Nat,
      Text.number base text = some value ∧ value ≤ maximum.toNat ∧ parsed = UInt64.ofNat value := by
  rw [parseUnsigned_eq_some_iff, UInt64.le_iff_toNat_le]
  constructor
  · rintro ⟨hnumber, hmaximum⟩
    exact ⟨parsed.toNat, hnumber, hmaximum, UInt64.ofNat_toNat.symm⟩
  · rintro ⟨value, hnumber, hmaximum, rfl⟩
    have hlimit : value < UInt64.size := lt_of_le_of_lt hmaximum maximum.toNat_lt
    rw [UInt64.toNat_ofNat_of_lt' hlimit]
    exact ⟨hnumber, hmaximum⟩

theorem parseIdentifier_iff {text : Text} {parsed : UInt32} :
    CanTraceCsv.parseIdentifier text = some parsed ↔ ∃ identifier : Nat,
      SpellsIdentifier text identifier ∧ identifier ≤ uint32Maximum ∧
        parsed = UInt32.ofNat identifier := by
  have hnone {rest : Text} {value : Nat} (h : Text.number 16 rest = some value) : rest ≠ [] :=
    ((Text.number_isSome_iff 16 rest).mp (Option.isSome_of_eq_some h)).1
  unfold CanTraceCsv.parseIdentifier SpellsIdentifier
  split
  · rename_i zero mark rest
    split
    · rename_i hbad
      simp only [reduceCtorEq, false_iff]
      rintro ⟨identifier, ⟨other, digits, htext, hmark, hdigits⟩, -⟩
      cases htext
      rcases hbad with hrest | hzero | ⟨hx, hX⟩
      · exact hnone hdigits hrest
      · exact hzero rfl
      · rcases hmark with hmark | hmark
        · exact hx hmark
        · exact hX hmark
    · rename_i hgood
      simp only [not_or, not_and_or, not_not] at hgood
      rw [Option.map_eq_some_iff]
      constructor
      · rintro ⟨word, hword, rfl⟩
        obtain ⟨value, hnumber, hmaximum, rfl⟩ := parseUnsigned_iff.mp hword
        exact ⟨value, ⟨mark, rest, by rw [hgood.2.1], hgood.2.2, hnumber⟩, hmaximum, by simp⟩
      · rintro ⟨identifier, ⟨other, digits, htext, hmark, hdigits⟩, hmaximum, rfl⟩
        cases htext
        exact ⟨UInt64.ofNat identifier,
          parseUnsigned_iff.mpr ⟨identifier, hdigits, hmaximum, rfl⟩, by simp⟩
  · rename_i hshort
    simp only [reduceCtorEq, false_iff]
    rintro ⟨identifier, ⟨mark, digits, htext, -⟩, -⟩
    exact hshort _ _ _ htext

theorem parseBoolean_iff {text : Text} {flag : Bool} :
    parseBoolean text = some flag ↔ SpellsFlag text flag := by
  unfold parseBoolean SpellsFlag
  cases flag with
  | true =>
    by_cases hyes : text = .ascii "1" ∨ text = .ascii "true"
    · simp [hyes]
    · rw [if_neg hyes]
      simp only [hyes, if_true, iff_false]
      split <;> simp
  | false =>
    by_cases hyes : text = .ascii "1" ∨ text = .ascii "true"
    · rw [if_pos hyes]
      rcases hyes with rfl | rfl <;> decide
    · rw [if_neg hyes]
      by_cases hno : text = .ascii "0" <;> simp [hno]

theorem parsePrefix_iff {fields : Vector Text 5} {parsed : CanFrame} :
    parsePrefix fields = some parsed ↔ ∃ timestampMs identifier extended dataLength,
      (Text.number 10 (timestampField fields) = some timestampMs ∧ timestampMs ≤ uint32Maximum) ∧
      (SpellsIdentifier (identifierField fields) identifier ∧ identifier ≤ uint32Maximum) ∧
      SpellsFlag (extendedField fields) extended ∧
      (Text.number 10 (lengthField fields) = some dataLength ∧ dataLength ≤ 255) ∧
      parsed =
        { timestampUs := UInt64.ofNat (timestampMs * 1000)
          identifier := UInt32.ofNat identifier
          dataLength := UInt8.ofNat dataLength
          extended } := by
  unfold parsePrefix
  simp only [Option.bind_eq_bind, Option.bind_eq_some_iff, parseUnsigned_iff, parseIdentifier_iff,
    parseBoolean_iff]
  constructor
  · rintro ⟨_, ⟨timestampMs, htime, hfits, rfl⟩, _, ⟨identifier, hidentifier, hrange, rfl⟩,
      extended, hflag, _, ⟨dataLength, hlength, hsmall, rfl⟩, h⟩
    refine ⟨timestampMs, identifier, extended, dataLength, ⟨htime, hfits⟩, ⟨hidentifier, hrange⟩,
      hflag, ⟨hlength, hsmall⟩, ?_⟩
    rw [← Option.some.inj h]
    simp [UInt64.ofNat_mul]
  · rintro ⟨timestampMs, identifier, extended, dataLength, ⟨htime, hfits⟩,
      ⟨hidentifier, hrange⟩, hflag, ⟨hlength, hsmall⟩, rfl⟩
    refine ⟨_, ⟨timestampMs, htime, hfits, rfl⟩, _, ⟨identifier, hidentifier, hrange, rfl⟩,
      extended, hflag, _, ⟨dataLength, hlength, hsmall, rfl⟩, ?_⟩
    simp [UInt64.ofNat_mul]

theorem isValid_iff {frame : CanFrame} (hdirection : frame.direction = .rx) :
    frame.isValid = true ↔ frame.dataLength.toNat ≤ 8 ∧ frame.identifier.toNat ≤
      if frame.extended then extendedIdentifierMaximum else standardIdentifierMaximum := by
  unfold CanFrame.isValid
  cases frame.extended <;>
    simp [hdirection, UInt8.le_iff_toNat_le, UInt32.le_iff_toNat_le, CanFrame.maximumDataLength,
      CanFrame.maximumExtendedIdentifier, CanFrame.maximumStandardIdentifier,
      extendedIdentifierMaximum, standardIdentifierMaximum]

theorem parseData_iff {text : Text} {dataLength : UInt8} {frame parsed : CanFrame} :
    CanTraceCsv.parseData text dataLength frame = .ok (some parsed) ↔
      dataLength.toNat ≤ 8 ∧ ∃ bytes, hexBytes text = some bytes ∧
        bytes.length = dataLength.toNat ∧
        parsed = { frame with data := patched frame.data 0 bytes } := by
  constructor
  · intro h
    have hshort : dataLength.toNat ≤ 8 := by
      rcases parseData_cases text dataLength frame with ⟨-, herror⟩ | ⟨-, result, hresult, hlong⟩
      · rw [herror] at h
        cases h
      · by_contra hlarge
        rw [hresult, hlong (by omega)] at h
        cases h
    unfold CanTraceCsv.parseData at h
    split at h
    · cases h
    rename_i hlength
    rw [not_not] at hlength
    rw [storeBytes_eq dataLength.toNat (by omega) frame (by omega)] at h
    obtain ⟨bytes, hbytes, rfl⟩ := Option.map_eq_some_iff.mp (Except.ok.inj h)
    have := length_of_hexBytes hbytes
    exact ⟨hshort, bytes, hbytes, by omega, rfl⟩
  · rintro ⟨hshort, bytes, hbytes, hlength, rfl⟩
    have := length_of_hexBytes hbytes
    unfold CanTraceCsv.parseData
    rw [if_neg (by omega), storeBytes_eq dataLength.toNat (by omega) frame (by omega), hbytes]
    rfl

theorem CanonicalFrame.maximumIdentifier_le (frame : CanonicalFrame) :
    frame.maximumIdentifier ≤ uint32Maximum := by
  unfold maximumIdentifier
  split <;> decide

theorem parseFrame_iff {fields : Vector Text 5} {parsed : CanFrame} :
    parseFrame fields = .ok (some parsed) ↔
      ∃ frame : CanonicalFrame, frame.Valid ∧ SpellsFields fields frame ∧
        parsed = frame.toCanFrame := by
  unfold parseFrame
  constructor
  · intro h
    split at h
    · cases h
    rename_i started hstarted
    obtain ⟨timestampMs, identifier, extended, dataLength, ⟨htime, hfits⟩,
      ⟨hidentifier, hrange⟩, hflag, ⟨hlength, hsmall⟩, rfl⟩ := parsePrefix_iff.mp hstarted
    cases hdata : CanTraceCsv.parseData fields[4] (UInt8.ofNat dataLength)
      { timestampUs := UInt64.ofNat (timestampMs * 1000), identifier := UInt32.ofNat identifier,
        dataLength := UInt8.ofNat dataLength, extended } with
    | error outOfBounds =>
      rw [hdata] at h
      cases h
    | ok result =>
      rw [hdata] at h
      obtain ⟨hresult, hvalid⟩ := Option.filter_eq_some_iff.mp (Except.ok.inj h)
      subst hresult
      obtain ⟨hshort, bytes, hbytes, hbytesLength, rfl⟩ := parseData_iff.mp hdata
      have hwhole : (UInt8.ofNat dataLength).toNat = dataLength :=
        UInt8.toNat_ofNat_of_lt' (by rw [UInt8.size]; omega)
      have hword : (UInt32.ofNat identifier).toNat = identifier :=
        UInt32.toNat_ofNat_of_lt' (lt_of_le_of_lt hrange (by decide))
      have hkept := ((isValid_iff rfl).mp hvalid).2
      rw [hwhole] at hshort hbytesLength
      dsimp only at hkept
      rw [hword] at hkept
      refine ⟨⟨timestampMs, identifier, extended, bytes⟩,
        ⟨hfits, hkept, le_of_eq_of_le hbytesLength hshort⟩,
        ⟨htime, hidentifier, hflag, hbytesLength ▸ hlength, hbytes⟩, ?_⟩
      have hbytesData := toCanFrame_data ⟨timestampMs, identifier, extended, bytes⟩
      simp only [CanonicalFrame.toCanFrame] at hbytesData ⊢
      rw [hbytesData, hbytesLength]
  · rintro ⟨frame, hvalid, hspells, rfl⟩
    have hlimit := frame.maximumIdentifier_le
    have hshort := hvalid.data
    rw [parsePrefix_iff.mpr ⟨frame.timestampMs, frame.identifier, frame.extended,
      frame.data.length, ⟨hspells.timestampMs, hvalid.timestampMs⟩,
      ⟨hspells.identifier, hvalid.identifier.trans hlimit⟩, hspells.extended,
      ⟨hspells.dataLength, by omega⟩, rfl⟩]
    dsimp only
    have hwhole : (UInt8.ofNat frame.data.length).toNat = frame.data.length :=
      UInt8.toNat_ofNat_of_lt' (by rw [UInt8.size]; omega)
    have hword : (UInt32.ofNat frame.identifier).toNat = frame.identifier :=
      UInt32.toNat_ofNat_of_lt' (lt_of_le_of_lt (hvalid.identifier.trans hlimit) (by decide))
    have hbytes : hexBytes fields[4] = some frame.data := hspells.data
    rw [parseData_iff.mpr ⟨hwhole.trans_le hshort, frame.data, hbytes, hwhole.symm, rfl⟩]
    have hparsed : frame.toCanFrame =
        { timestampUs := UInt64.ofNat (frame.timestampMs * 1000)
          identifier := UInt32.ofNat frame.identifier
          dataLength := UInt8.ofNat frame.data.length
          extended := frame.extended
          data := patched (Vector.replicate 8 0) 0 frame.data } := by
      rw [← toCanFrame_data]
      rfl
    rw [hparsed]
    refine congrArg Except.ok (Option.filter_eq_some_iff.mpr ⟨rfl, ?_⟩)
    refine (isValid_iff rfl).mpr ⟨hwhole.trans_le hshort, ?_⟩
    rw [hword]
    exact hvalid.identifier

theorem parseLine_iff {line : Text} {parsed : CanFrame} :
    CanTraceCsv.parseLine line = .ok (some parsed) ↔
      ∃ frame : CanonicalFrame, Spells line frame ∧ parsed = frame.toCanFrame := by
  unfold CanTraceCsv.parseLine
  constructor
  · intro h
    split at h
    · cases h
    rename_i fields hfields
    obtain ⟨frame, hvalid, hspells, hparsed⟩ := parseFrame_iff.mp h
    exact ⟨frame, ⟨hvalid, fields, (splitFields_eq_some_iff.mp hfields).1, hspells⟩, hparsed⟩
  · rintro ⟨frame, ⟨hvalid, fields, rfl, hspells⟩, hparsed⟩
    rw [hspells.splitFields]
    exact parseFrame_iff.mpr ⟨frame, hvalid, hspells, hparsed⟩

/-! The whole text. -/

def textLines (text : Text) : List Text := text.lines.map stripCarriageReturn

theorem forall₂_parseLine_iff {lines : List Text} {read : List CanFrame} :
    List.Forall₂ (fun line frame => CanTraceCsv.parseLine line = .ok (some frame)) lines read ↔
      ∃ frames : List CanonicalFrame,
        List.Forall₂ Spells lines frames ∧ read = frames.map CanonicalFrame.toCanFrame := by
  induction lines generalizing read with
  | nil =>
    rw [List.forall₂_nil_left_iff]
    simp
  | cons line lines ih =>
    simp only [List.forall₂_cons_left_iff]
    constructor
    · rintro ⟨_, others, hparsed, hothers, rfl⟩
      obtain ⟨frame, hspells, rfl⟩ := parseLine_iff.mp hparsed
      obtain ⟨frames, hframes, rfl⟩ := ih.mp hothers
      exact ⟨frame :: frames, ⟨frame, frames, hspells, hframes, rfl⟩, rfl⟩
    · rintro ⟨_, ⟨frame, frames, hspells, hframes, rfl⟩, rfl⟩
      exact ⟨_, _, parseLine_iff.mpr ⟨frame, hspells, rfl⟩, ih.mpr ⟨frames, hframes, rfl⟩, rfl⟩

theorem CanonicalFrame.Valid.sameFrame {frame : CanonicalFrame} (h : frame.Valid) :
    SameFrame frame frame.toCanFrame := by
  have htime := h.timestampMs
  have hidentifier := h.identifier.trans frame.maximumIdentifier_le
  have hdata := h.data
  rw [uint32Maximum] at htime
  refine ⟨UInt64.toNat_ofNat_of_lt' ?_, UInt32.toNat_ofNat_of_lt' ?_, rfl,
    UInt8.toNat_ofNat_of_lt' ?_, ?_⟩
  · have : UInt64.size = 18446744073709551616 := rfl
    omega
  · exact Nat.lt_of_le_of_lt hidentifier (by decide)
  · exact Nat.lt_of_le_of_lt hdata (by decide)
  · refine List.ext_getElem (by simp; omega) fun index hleft hright => ?_
    simp [CanonicalFrame.toCanFrame, hright]

theorem chronological_iff {maximumFrames : Nat} {frames : List CanonicalFrame}
    (hvalid : ∀ frame ∈ frames, frame.Valid) :
    Chronological maximumFrames (frames.map CanonicalFrame.toCanFrame) ↔
      InOrder frames ∧ frames.length ≤ maximumFrames := by
  have hordered : (frames.map CanonicalFrame.toCanFrame).Pairwise
        (fun earlier later => earlier.timestampUs ≤ later.timestampUs) ↔
      frames.Pairwise fun earlier later => earlier.timestampMs ≤ later.timestampMs := by
    rw [List.pairwise_map]
    refine List.Pairwise.iff_of_mem fun {earlier later} hearlier hlater => ?_
    rw [UInt64.le_iff_toNat_le, (hvalid earlier hearlier).sameFrame.timestampUs,
      (hvalid later hlater).sameFrame.timestampUs]
    omega
  have hstart : (∀ frame ∈ (frames.map CanonicalFrame.toCanFrame).head?, frame.timestampUs = 0) ↔
      ∀ frame ∈ frames.head?, frame.timestampMs = 0 := by
    cases frames with
    | nil => simp
    | cons frame frames =>
      have htime := (hvalid frame List.mem_cons_self).sameFrame.timestampUs
      simp only [List.map_cons, List.head?_cons, Option.mem_def, Option.some.injEq, forall_eq',
        ← UInt64.toNat_inj, htime, UInt64.toNat_zero]
      omega
  constructor
  · intro h
    exact ⟨⟨hstart.mp h.start, hordered.mp h.ordered⟩, by simpa using h.fits⟩
  · rintro ⟨horder, hfits⟩
    exact ⟨hstart.mpr horder.start, hordered.mpr horder.ordered, by simpa using hfits⟩

theorem readsAs_of_parseLines {maximumFrames lineNumber : Nat} {frames result : List CanFrame}
    {lines : List Text}
    (h : CanTraceCsv.parseLines maximumFrames lineNumber frames lines = .ok (.ok result))
    (htrace : Chronological maximumFrames frames) :
    ∃ read, result = frames ++ read ∧ ReadsAs lines read ∧
      Chronological maximumFrames (frames ++ read) := by
  induction lines generalizing lineNumber frames with
  | nil =>
    have hresult : frames = result := by simpa [CanTraceCsv.parseLines] using h
    refine ⟨[], ?_, List.forall₂_nil_left_iff.mpr rfl, ?_⟩
    · rw [List.append_nil, hresult]
    · rwa [List.append_nil]
  | cons line lines ih =>
    by_cases hline : stripCarriageReturn line = []
    · rw [parseLines_blank hline] at h
      obtain ⟨read, hresult, hreads, hread⟩ := ih h htrace
      refine ⟨read, hresult, ?_, hread⟩
      unfold ReadsAs frameLines
      rw [List.map_cons, List.filter_cons_of_neg (by simpa using hline)]
      exact hreads
    by_cases hfits : frames.length < maximumFrames
    · cases hparsed : CanTraceCsv.parseLine (stripCarriageReturn line) with
      | error outOfBounds =>
        rw [parseLines_line hline hfits, hparsed] at h
        cases h
      | ok parsed =>
        cases parsed with
        | none =>
          rw [parseLines_line hline hfits, hparsed] at h
          cases h
        | some frame =>
          rcases parseLines_frame hline hfits hparsed with ⟨hfollows, hstep⟩ | ⟨-, message, hstep⟩
          · rw [hstep] at h
            obtain ⟨read, hresult, hreads, hread⟩ := ih h (htrace.concat hfits hfollows)
            rw [← List.append_cons] at hresult hread
            refine ⟨frame :: read, hresult, ?_, hread⟩
            unfold ReadsAs frameLines
            rw [List.map_cons, List.filter_cons_of_pos (by simpa using hline)]
            exact .cons hparsed hreads
          · rw [hstep] at h
            cases h
    · rw [CanTraceCsv.parseLines, if_neg hline, if_pos (Nat.not_lt.mp hfits)] at h
      cases h

theorem isHeader_iff {line : Text} : isHeader line = true ↔
    stripCarriageReturn line = CanTraceCsv.header ∨
      stripCarriageReturn line = CanTraceCsv.byteOrderMark ++ CanTraceCsv.header := by
  simp [isHeader]

theorem parse_cases (text : Text) (before : List CanFrame) (maximumFrames : Nat) :
    (∃ outOfBounds, parseCanonicalCanTrace text before maximumFrames = .error outOfBounds) ∨
    (∃ error, parseCanonicalCanTrace text before maximumFrames = .ok ⟨false, before, error⟩) ∨
    (0 < maximumFrames ∧ ∃ first rest frames, text.lines = first :: rest ∧ isHeader first = true ∧
      CanTraceCsv.parseLines maximumFrames 2 [] rest = .ok (.ok frames) ∧ frames ≠ [] ∧
      parseCanonicalCanTrace text before maximumFrames = .ok ⟨true, frames, ""⟩) := by
  by_cases hmaximum : maximumFrames = 0
  · exact .inr (.inl ⟨_, if_pos hmaximum⟩)
  cases hlines : text.lines with
  | nil =>
    refine .inr (.inl ⟨"trace is empty", ?_⟩)
    rw [parseCanonicalCanTrace, if_neg hmaximum, hlines]
  | cons first rest =>
    cases hheader : isHeader first with
    | false =>
      refine .inr (.inl ⟨lineError 1 "invalid header", ?_⟩)
      rw [parseCanonicalCanTrace, if_neg hmaximum, hlines]
      dsimp only
      rw [hheader]
      rfl
    | true =>
      rw [parse_eq (by omega) hlines hheader]
      rcases hloop : CanTraceCsv.parseLines maximumFrames 2 [] rest with
        outOfBounds | message | _ | ⟨frame, frames⟩
      · exact .inl ⟨_, rfl⟩
      · exact .inr (.inl ⟨_, rfl⟩)
      · exact .inr (.inl ⟨_, rfl⟩)
      · exact .inr (.inr ⟨by omega, first, rest, frame :: frames, rfl, hheader, hloop, by simp, rfl⟩)

/-- It accepts the canonical traces, and yields their frames. -/
theorem parse_accepts_iff {text : Text} {before read : List CanFrame} {maximumFrames : Nat} :
    parseCanonicalCanTrace text before maximumFrames = .ok ⟨true, read, ""⟩ ↔
      ∃ frames : List CanonicalFrame, IsTrace maximumFrames (textLines text) frames ∧
        read = frames.map CanonicalFrame.toCanFrame := by
  constructor
  · intro h
    rcases parse_cases text before maximumFrames with ⟨_, herror⟩ | ⟨_, hrejected⟩ |
      ⟨hmaximum, first, rest, frames, hlines, hheader, hloop, hsome, haccepted⟩
    · rw [herror] at h
      cases h
    · rw [hrejected] at h
      cases h
    · rw [haccepted] at h
      cases h
      obtain ⟨_, rfl, hreads, htrace⟩ :=
        readsAs_of_parseLines hloop ⟨by simp, .nil, Nat.zero_le _⟩
      rw [List.nil_append] at htrace
      obtain ⟨frames, hspells, rfl⟩ := forall₂_parseLine_iff.mp hreads
      obtain ⟨hordered, hfits⟩ := (chronological_iff (valid_of_reads hspells)).mp htrace
      refine ⟨frames, ⟨⟨stripCarriageReturn first, ?_, isHeader_iff.mp hheader⟩, ?_,
        by simpa using hsome, hfits, hordered⟩, rfl⟩
      · simp [textLines, hlines]
      · rw [textLines, hlines]
        exact hspells
  · rintro ⟨frames, htrace, rfl⟩
    obtain ⟨line, hline, hheader⟩ := htrace.header
    have hreads := htrace.reads
    unfold textLines at hline hreads
    cases hlines : text.lines with
    | nil =>
      rw [hlines] at hline
      cases hline
    | cons first rest =>
      rw [hlines] at hline hreads
      cases hline
      have hchronological : Chronological maximumFrames ([] ++ frames.map CanonicalFrame.toCanFrame) :=
        (chronological_iff (valid_of_reads hreads)).mpr
          ⟨htrace.ordered, htrace.fits⟩
      have hmaximum : 0 < maximumFrames :=
        lt_of_lt_of_le (List.length_pos_iff.mpr htrace.some) htrace.fits
      have hloop : CanTraceCsv.parseLines maximumFrames 2 [] (rest ++ []) =
          CanTraceCsv.parseLines maximumFrames (2 + rest.length)
            ([] ++ frames.map CanonicalFrame.toCanFrame) [] :=
        parseLines_reads (forall₂_parseLine_iff.mpr ⟨frames, hreads, rfl⟩) hchronological
      rw [List.append_nil, List.nil_append] at hloop
      rw [parse_eq hmaximum hlines (isHeader_iff.mpr hheader), hloop, CanTraceCsv.parseLines]
      cases frames with
      | nil => exact absurd rfl htrace.some
      | cons frame frames => rfl

end BmwRemote.Host.CanonicalTrace
