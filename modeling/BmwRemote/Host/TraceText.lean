import BmwRemote.Host.TraceFormat

/-! The reader of the host tools takes the canonical traces too, in the lines it sees, as long
as no number in them has more digits than `int` takes. -/
namespace BmwRemote.Host.CanonicalTrace

open BmwRemote.Infrastructure BmwRemote.Lib
open CanTraceCsv (comma hexNibble splitFields timestampField lengthField)

/-! Digits. -/

theorem isDigit_ten_iff (byte : UInt8) :
    Text.isDigit 10 byte = true ↔ 48 ≤ byte.toNat ∧ byte.toNat ≤ 57 := by
  unfold Text.isDigit Text.digit
  dsimp only
  split_ifs <;> simp <;> omega

theorem isDigit_sixteen_iff (byte : UInt8) :
    Text.isDigit 16 byte = true ↔ (48 ≤ byte.toNat ∧ byte.toNat ≤ 57) ∨
      (97 ≤ byte.toNat ∧ byte.toNat ≤ 102) ∨ (65 ≤ byte.toNat ∧ byte.toNat ≤ 70) := by
  unfold Text.isDigit Text.digit
  dsimp only
  split_ifs <;> simp <;> omega

theorem isAscii_of_le {character : Char} (h : character.toNat ≤ 122) :
    isAscii character = true :=
  decide_eq_true (by omega)

theorem isDigit_iff (character : Char) : isDigit character = true ↔
    isAscii character = true ∧ Text.isDigit 10 character.toUInt8 = true := by
  have hrange : isDigit character = true ↔ 48 ≤ character.toNat ∧ character.toNat ≤ 57 := by
    simp only [isDigit, Char.isDigit, Bool.and_eq_true, decide_eq_true_eq, ge_iff_le,
      UInt32.le_iff_toNat_le]
    rfl
  rw [hrange, isDigit_ten_iff]
  constructor
  · intro hcode
    have hascii := isAscii_of_le (by omega : character.toNat ≤ 122)
    rw [toUInt8_lt hascii]
    exact ⟨hascii, hcode⟩
  · rintro ⟨hascii, hcode⟩
    rwa [toUInt8_lt hascii] at hcode

theorem isHexDigit_iff (character : Char) : isHexDigit character = true ↔
    isAscii character = true ∧ Text.isDigit 16 character.toUInt8 = true := by
  have hrange : isHexDigit character = true ↔
      (48 ≤ character.toNat ∧ character.toNat ≤ 57) ∨
      (97 ≤ character.toNat ∧ character.toNat ≤ 102) ∨
      (65 ≤ character.toNat ∧ character.toNat ≤ 70) := by
    simp only [isHexDigit, Char.isDigit, Bool.or_eq_true, Bool.and_eq_true, decide_eq_true_eq,
      ge_iff_le, Char.le_def, UInt32.le_iff_toNat_le, or_assoc]
    rfl
  rw [hrange, isDigit_sixteen_iff]
  constructor
  · intro hcode
    have hascii := isAscii_of_le (by omega : character.toNat ≤ 122)
    rw [toUInt8_lt hascii]
    exact ⟨hascii, hcode⟩
  · rintro ⟨hascii, hcode⟩
    rwa [toUInt8_lt hascii] at hcode

theorem Plain.ascii {text : List Char} (h : Plain (utf8 text)) :
    ∀ character ∈ text, isAscii character = true := by
  refine ascii_of_utf8 fun byte hmem => ?_
  have := (h byte hmem).2
  rw [UInt8.lt_iff_toNat_lt]
  exact Nat.lt_of_le_of_lt this (by decide)

theorem foldlM_digits {base : Nat} {text : List Char} (value : Nat)
    (h : ∀ character ∈ text, Text.isDigit base character.toUInt8 = true) :
    (text.map Char.toUInt8).foldlM
        (fun value byte => (Text.digit base byte).map (value * base + ·)) value =
      some (text.foldl (fun value character =>
        value * base + (Text.digit base character.toUInt8).getD 0) value) := by
  induction text generalizing value with
  | nil => rfl
  | cons character rest ih =>
    rw [List.forall_mem_cons] at h
    obtain ⟨digit, hdigit⟩ := Option.isSome_iff_exists.mp h.1
    rw [List.map_cons, List.foldlM_cons, List.foldl_cons, hdigit]
    exact ih _ h.2

theorem digits_utf8_iff {base : Nat} {text : List Char} :
    (∀ byte ∈ utf8 text, Text.isDigit base byte = true) ↔ ∀ character ∈ text,
      isAscii character = true ∧ Text.isDigit base character.toUInt8 = true := by
  refine forall_utf8_iff (fun byte hdigit => ?_) (fun _ => Iff.rfl) text
  rw [UInt8.lt_iff_toNat_lt]
  exact Nat.lt_of_le_of_lt (digit_range hdigit).2 (by decide)

theorem number_utf8_iff {base value : Nat} {text : List Char} :
    Text.number base (utf8 text) = some value ↔
      text ≠ [] ∧ (∀ character ∈ text, isAscii character = true ∧
        Text.isDigit base character.toUInt8 = true) ∧ int base text = value := by
  have hnil : utf8 text = [] ↔ text = [] := by
    rw [← utf8_nil, utf8_injective.eq_iff]
  have hread (hne : text ≠ [])
      (hall : ∀ character ∈ text, isAscii character = true ∧
        Text.isDigit base character.toUInt8 = true) :
      Text.number base (utf8 text) = some (int base text) := by
    unfold Text.number
    rw [if_neg (hnil.not.mpr hne), utf8_ascii fun character hmem => (hall character hmem).1]
    exact foldlM_digits 0 fun character hmem => (hall character hmem).2
  constructor
  · intro h
    obtain ⟨hne, hbytes⟩ := (Text.number_isSome_iff base _).mp (Option.isSome_of_eq_some h)
    have hall := digits_utf8_iff.mp hbytes
    have hvalue := hread (hnil.not.mp hne) hall
    rw [h, Option.some.injEq] at hvalue
    exact ⟨hnil.not.mp hne, hall, hvalue.symm⟩
  · rintro ⟨hne, hall, rfl⟩
    exact hread hne hall

/-! Fields. -/

theorem parseDecimal_eq_ok_iff {text : List Char} {value : Nat} : parseDecimal text = .ok value ↔
    Text.number 10 (utf8 text) = some value ∧ (utf8 text).length ≤ maximumStrDigits := by
  unfold parseDecimal
  rw [number_utf8_iff]
  simp only [← isDigit_iff]
  by_cases hdigits : text ≠ [] ∧ ∀ character ∈ text, isDigit character = true
  · obtain ⟨hne, hall⟩ := hdigits
    have hascii : ∀ character ∈ text, isAscii character = true :=
      fun character hmem => ((isDigit_iff character).mp (hall character hmem)).1
    rw [List.all_eq_true.mpr hascii, List.all_eq_true.mpr hall, if_neg (by simpa using hne),
      length_utf8 hascii]
    split_ifs with hlong
    · simp [hlong]
    · rw [Except.ok.injEq]
      exact ⟨fun hvalue => ⟨⟨hne, hall, hvalue⟩, Nat.not_lt.mp hlong⟩, fun h => h.1.2.2⟩
  · rw [if_pos]
    · simp only [reduceCtorEq, false_iff]
      rintro ⟨⟨hne, hall, -⟩, -⟩
      exact hdigits ⟨hne, hall⟩
    · rw [not_and_or, not_not] at hdigits
      rcases hdigits with hnil | hother
      · exact .inl hnil
      · refine .inr (.inr ?_)
        rw [← Bool.not_eq_true, List.all_eq_true]
        exact hother

theorem toUInt8_eq_iff {character other : Char} (h : isAscii character = true)
    (hother : isAscii other = true) : character.toUInt8 = other.toUInt8 ↔ character = other := by
  rw [← UInt8.toNat_inj, toUInt8_lt h, toUInt8_lt hother, Char.toNat_inj]

theorem toNat_toLower (character : Char) : character.toLower.toNat =
    if 65 ≤ character.toNat ∧ character.toNat ≤ 90 then character.toNat + 32
    else character.toNat := by
  unfold Char.toLower
  simp only [ge_iff_le, UInt32.le_iff_toNat_le]
  split_ifs with hupper hcode hcode
  · change (character.val + ('a'.val - 'A'.val)).toNat = _
    rw [UInt32.toNat_add, show ('a'.val - 'A'.val).toNat = 32 from rfl]
    change 65 ≤ character.toNat ∧ character.toNat ≤ 90 at hcode
    exact Nat.mod_eq_of_lt (by change character.toNat + 32 < 2 ^ 32; omega)
  · exact absurd hupper hcode
  · exact absurd hcode hupper
  · rfl

theorem toLower_eq_zero_iff {character : Char} : character.toLower = '0' ↔ character = '0' := by
  rw [← Char.toNat_inj, toNat_toLower, ← Char.toNat_inj, show '0'.toNat = 48 from rfl]
  split_ifs <;> omega

theorem toLower_eq_x_iff {character : Char} :
    character.toLower = 'x' ↔ character = 'x' ∨ character = 'X' := by
  rw [← Char.toNat_inj, toNat_toLower, ← Char.toNat_inj, ← Char.toNat_inj,
    show 'x'.toNat = 120 from rfl, show 'X'.toNat = 88 from rfl]
  split_ifs <;> omega

theorem lower_take_iff {text : List Char} : lower (text.take 2) = ['0', 'x'] ↔
    ∃ mark rest, text = '0' :: mark :: rest ∧ (mark = 'x' ∨ mark = 'X') := by
  match text with
  | [] | [_] => simp [lower]
  | zero :: mark :: rest =>
    simp [lower, toLower_eq_zero_iff, toLower_eq_x_iff]

theorem parseIdentifier_eq_ok_iff {text : List Char} {identifier : Nat} :
    parseIdentifier text = .ok identifier ↔ SpellsIdentifier (utf8 text) identifier := by
  have hspells (rest : List Char) : Text.number 16 (utf8 rest) = some identifier ↔
      rest ≠ [] ∧ (∀ character ∈ rest, isHexDigit character = true) ∧
        int 16 rest = identifier := by
    simp only [number_utf8_iff, ← isHexDigit_iff]
  unfold parseIdentifier
  constructor
  · intro h
    split_ifs at h with hshort hdigits
    rw [not_or, not_not, lower_take_iff] at hshort
    obtain ⟨hlength, mark, rest, rfl, hmark⟩ := hshort
    simp only [not_or, Bool.not_eq_false, List.all_eq_true, List.drop_succ_cons,
      List.drop_zero] at hdigits h
    refine ⟨mark.toUInt8, utf8 rest, ?_, ?_, (hspells rest).mpr ⟨?_, hdigits.2, Except.ok.inj h⟩⟩
    · rcases hmark with rfl | rfl <;> rfl
    · rcases hmark with rfl | rfl
      · exact .inl rfl
      · exact .inr rfl
    · rintro rfl
      simp at hlength
  · intro h
    have hascii := h.plain.ascii
    obtain ⟨mark, digits, htext, hmark, hdigits⟩ := h
    rw [utf8_ascii hascii, List.map_eq_cons_iff] at htext
    obtain ⟨zero, _, rfl, hzero, htail⟩ := htext
    obtain ⟨letter, rest, rfl, rfl, rfl⟩ := List.map_eq_cons_iff.mp htail
    simp only [List.forall_mem_cons] at hascii
    obtain ⟨hzeroAscii, hletterAscii, hrestAscii⟩ := hascii
    rw [← utf8_ascii hrestAscii, hspells] at hdigits
    obtain ⟨hne, hall, hvalue⟩ := hdigits
    have hzero : zero = '0' := (toUInt8_eq_iff hzeroAscii (by decide)).mp hzero
    have hletter : letter = 'x' ∨ letter = 'X' :=
      hmark.imp (toUInt8_eq_iff hletterAscii (by decide)).mp
        (toUInt8_eq_iff hletterAscii (by decide)).mp
    rw [if_neg, if_neg]
    · exact congrArg Except.ok hvalue
    · simp only [List.drop_succ_cons, List.drop_zero, not_or, Bool.not_eq_false, List.all_eq_true]
      exact ⟨hrestAscii, hall⟩
    · rw [not_or, not_not, lower_take_iff]
      refine ⟨?_, letter, rest, by rw [hzero], hletter⟩
      have := List.length_pos_iff.mpr hne
      simp only [List.length_cons]
      omega

theorem utf8_eq_ascii_iff {text : List Char} {literal : String}
    (h : literal.toList.all isAscii = true) :
    utf8 text = .ascii literal ↔ text = literal.toList := by
  rw [Text.ascii, ← utf8_ascii (List.all_eq_true.mp h), utf8_injective.eq_iff]

theorem parseExtended_eq_ok_iff {text : List Char} {flag : Bool} :
    parseExtended text = .ok flag ↔ SpellsFlag (utf8 text) flag := by
  have hone : utf8 text = .ascii "1" ↔ text = ['1'] := utf8_eq_ascii_iff (by decide)
  have htrue : utf8 text = .ascii "true" ↔ text = "true".toList := utf8_eq_ascii_iff (by decide)
  have hzero : utf8 text = .ascii "0" ↔ text = ['0'] := utf8_eq_ascii_iff (by decide)
  have hfalse : utf8 text = .ascii "false" ↔ text = "false".toList := utf8_eq_ascii_iff (by decide)
  unfold parseExtended SpellsFlag
  cases flag with
  | true =>
    simp only [if_true, hone, htrue]
    by_cases hyes : text = ['1'] ∨ text = "true".toList
    · rw [if_pos hyes]
      simp only [hyes]
    · rw [if_neg hyes]
      simp only [hyes, iff_false]
      split_ifs <;> simp
  | false =>
    simp only [if_false, Bool.false_eq_true, hzero, hfalse]
    by_cases hyes : text = ['1'] ∨ text = "true".toList
    · rw [if_pos hyes]
      rcases hyes with rfl | rfl <;> decide
    · rw [if_neg hyes]
      by_cases hno : text = ['0'] ∨ text = "false".toList
      · rw [if_pos hno]
        simp only [hno]
      · rw [if_neg hno]
        simp only [hno, reduceCtorEq]

theorem byte_of_nibbles : ∀ high < 16, ∀ low < 16,
    (UInt8.ofNat high <<< 4) ||| UInt8.ofNat low = UInt8.ofNat (high * 16 + low) := by
  decide

theorem digit_lt {base digit : Nat} {byte : UInt8} (h : Text.digit base byte = some digit) :
    digit < base := by
  unfold Text.digit at h
  dsimp only at h
  rw [Option.ite_none_right_eq_some] at h
  rw [← Option.some.inj h.2]
  exact h.1

theorem hexBytes_utf8 : {text : List Char} → (∀ character ∈ text, isHexDigit character = true) →
    (count : Nat) → text.length = count * 2 → hexBytes (utf8 text) = some (fromHex text)
  | [], _, _, _ => rfl
  | [_], _, count, hlength => by
    simp only [List.length_cons, List.length_nil] at hlength
    omega
  | high :: low :: rest, hhex, count, hlength => by
    simp only [List.forall_mem_cons, isHexDigit_iff] at hhex
    obtain ⟨⟨hhigh, hhighDigit⟩, ⟨hlow, hlowDigit⟩, hrest⟩ := hhex
    obtain ⟨first, hfirst⟩ := Option.isSome_iff_exists.mp hhighDigit
    obtain ⟨second, hsecond⟩ := Option.isSome_iff_exists.mp hlowDigit
    have hothers : hexBytes (utf8 rest) = some (fromHex rest) := by
      refine hexBytes_utf8 (fun character hmem => (isHexDigit_iff character).mpr (hrest _ hmem))
        (count - 1) ?_
      simp only [List.length_cons] at hlength
      omega
    rw [utf8_cons, utf8_cons, utf8EncodeChar_ascii hhigh, utf8EncodeChar_ascii hlow]
    refine hexBytes_pair.mpr ⟨UInt8.ofNat first, UInt8.ofNat second, fromHex rest, ?_, ?_,
      hothers, ?_⟩
    · rw [hexNibble_eq, hfirst, Option.map_some]
    · rw [hexNibble_eq, hsecond, Option.map_some]
    · rw [byte_of_nibbles first (digit_lt hfirst) second (digit_lt hsecond), fromHex]
      simp [int, hfirst, hsecond]

theorem isHexDigit_of_hexBytes {text : List Char} {bytes : List UInt8}
    (h : hexBytes (utf8 text) = some bytes) :
    ∀ character ∈ text, isHexDigit character = true := by
  simp only [isHexDigit_iff]
  exact digits_utf8_iff.mp (digits_of_hexBytes h)

theorem parseData_eq_ok_iff {text : List Char} {dataLength : Nat} {data : List UInt8} :
    parseData text dataLength = .ok data ↔
      dataLength = data.length ∧ dataLength ≤ 8 ∧ hexBytes (utf8 text) = some data := by
  unfold parseData
  constructor
  · intro h
    split_ifs at h with hlength hhex
    rw [not_or, not_lt, not_not] at hlength
    rw [Bool.not_eq_false, List.all_eq_true] at hhex
    have hbytes := hexBytes_utf8 hhex dataLength hlength.2
    have hcount := length_of_hexBytes hbytes
    rw [length_utf8 fun character hmem => ((isHexDigit_iff character).mp (hhex character hmem)).1,
      hlength.2] at hcount
    rw [← Except.ok.inj h]
    exact ⟨by omega, hlength.1, hbytes⟩
  · rintro ⟨rfl, hshort, hbytes⟩
    have hhex := isHexDigit_of_hexBytes hbytes
    have hcount := length_of_hexBytes hbytes
    rw [length_utf8 fun character hmem =>
      ((isHexDigit_iff character).mp (hhex character hmem)).1] at hcount
    rw [if_neg (by omega), List.all_eq_true.mpr hhex, if_neg (by decide)]
    rw [hexBytes_utf8 hhex data.length hcount] at hbytes
    exact congrArg Except.ok (Option.some.inj hbytes)

/-! One line. -/

theorem parseFields_eq_ok_iff {timestamp identifier extended dataLength data : List Char}
    {frame : CanonicalFrame} :
    parseFields [timestamp, identifier, extended, dataLength, data] = .ok frame ↔
      SpellsFields #v[utf8 timestamp, utf8 identifier, utf8 extended, utf8 dataLength, utf8 data]
        frame ∧ frame.data.length ≤ 8 ∧ (utf8 timestamp).length ≤ maximumStrDigits ∧
      (utf8 dataLength).length ≤ maximumStrDigits := by
  simp only [parseFields, bind_eq_ok_iff, parseDecimal_eq_ok_iff, parseIdentifier_eq_ok_iff,
    parseExtended_eq_ok_iff, parseData_eq_ok_iff]
  constructor
  · rintro ⟨timestampMs, ⟨htime, hdigits⟩, number, hidentifier, flag, hflag, _, ⟨hlength, hcount⟩,
      bytes, ⟨rfl, hshort, hbytes⟩, hframe⟩
    cases hframe
    exact ⟨⟨htime, hidentifier, hflag, hlength, hbytes⟩, hshort, hdigits, hcount⟩
  · rintro ⟨hspells, hshort, hdigits, hcount⟩
    exact ⟨frame.timestampMs, ⟨hspells.timestampMs, hdigits⟩, frame.identifier,
      hspells.identifier, frame.extended, hspells.extended, frame.data.length,
      ⟨hspells.dataLength, hcount⟩, frame.data, ⟨rfl, hshort, hspells.data⟩, rfl⟩

theorem parseFields_length {fields : List (List Char)} {frame : CanonicalFrame}
    (h : parseFields fields = .ok frame) : ∃ timestamp identifier extended dataLength data,
      fields = [timestamp, identifier, extended, dataLength, data] := by
  unfold parseFields at h
  split at h
  · exact ⟨_, _, _, _, _, rfl⟩
  · cases h

theorem mem_utf8_comma {text : List Char} (h : ',' ∈ text) : comma ∈ utf8 text := by
  exact List.mem_flatMap.mpr ⟨',', h, by decide⟩

theorem Plain.exists_field {text : Text} (h : Plain text) :
    ∃ field, utf8 field = text ∧ ',' ∉ field := by
  have hsmall : ∀ byte ∈ text, byte < 128 := fun byte hmem =>
    UInt8.lt_iff_toNat_lt.mpr (Nat.lt_of_le_of_lt (h byte hmem).2 (by decide))
  obtain ⟨field, rfl⟩ := exists_utf8 hsmall
  exact ⟨field, rfl, fun hmem => h.comma_notMem (mem_utf8_comma hmem)⟩

theorem utf8_intercalate (timestamp identifier extended dataLength data : List Char) :
    utf8 ([','].intercalate [timestamp, identifier, extended, dataLength, data]) =
      joinFields #v[utf8 timestamp, utf8 identifier, utf8 extended, utf8 dataLength,
        utf8 data] := by
  simp only [List.intercalate_cons_cons, List.intercalate_singleton, utf8_append]
  simp only [show utf8 [','] = [comma] from rfl, List.append_assoc, List.singleton_append]
  rfl

theorem hasLongNumber_joinFields {fields : Vector Text 5} {frame : CanonicalFrame}
    (h : SpellsFields fields frame) : HasLongNumber (joinFields fields) ↔
      maximumStrDigits < (timestampField fields).length ∨
        maximumStrDigits < (lengthField fields).length := by
  unfold HasLongNumber
  rw [h.splitFields]
  simp

theorem parseLine_eq_ok_iff {line : List Char} {frame : CanonicalFrame} :
    parseLine line = .ok frame ↔ Spells (utf8 line) frame ∧ ¬ HasLongNumber (utf8 line) := by
  have hlimits : parseLine line = .ok frame ↔ parseFields (line.splitOn ',') = .ok frame ∧
      frame.timestampMs ≤ uint32Maximum ∧ frame.identifier ≤ frame.maximumIdentifier := by
    unfold parseLine
    rw [bind_eq_ok_iff]
    constructor
    · rintro ⟨parsed, hfields, h⟩
      split_ifs at h with htime hidentifier
      cases h
      exact ⟨hfields, Nat.not_lt.mp htime, Nat.not_lt.mp hidentifier⟩
    · rintro ⟨hfields, htime, hidentifier⟩
      refine ⟨frame, hfields, ?_⟩
      rw [if_neg (Nat.not_lt.mpr htime), if_neg (Nat.not_lt.mpr hidentifier)]
      rfl
  rw [hlimits]
  constructor
  · rintro ⟨hparsed, htime, hidentifier⟩
    obtain ⟨timestamp, number, flag, dataLength, data, hfields⟩ := parseFields_length hparsed
    have hline : [','].intercalate (line.splitOn ',') = line := List.intercalate_splitOn ','
    rw [hfields] at hparsed hline
    obtain ⟨hspells, hshort, hdigits, hcount⟩ := parseFields_eq_ok_iff.mp hparsed
    rw [← hline, utf8_intercalate]
    refine ⟨⟨⟨htime, hidentifier, hshort⟩, _, rfl, hspells⟩, ?_⟩
    rw [hasLongNumber_joinFields hspells, not_or]
    exact ⟨Nat.not_lt.mpr hdigits, Nat.not_lt.mpr hcount⟩
  · rintro ⟨⟨hvalid, fields, hline, hspells⟩, hshort⟩
    rw [hline, hasLongNumber_joinFields hspells, not_or] at hshort
    obtain ⟨_, _, _, _, _, rfl⟩ := exists_five fields
    have hplain := hspells.plain
    simp only [Vector.toList_mk, List.forall_mem_cons] at hplain
    obtain ⟨htime, hnumber, hflag, hlength, hdata, -⟩ := hplain
    obtain ⟨timestamp, rfl, htimeComma⟩ := htime.exists_field
    obtain ⟨number, rfl, hnumberComma⟩ := hnumber.exists_field
    obtain ⟨flag, rfl, hflagComma⟩ := hflag.exists_field
    obtain ⟨dataLength, rfl, hlengthComma⟩ := hlength.exists_field
    obtain ⟨data, rfl, hdataComma⟩ := hdata.exists_field
    rw [← utf8_intercalate, utf8_injective.eq_iff] at hline
    have hfields : line.splitOn ',' = [timestamp, number, flag, dataLength, data] := by
      rw [hline]
      refine List.splitOn_intercalate ',' ?_ (by simp)
      simp [htimeComma, hnumberComma, hflagComma, hlengthComma, hdataComma]
    rw [hfields, parseFields_eq_ok_iff]
    exact ⟨⟨hspells, hvalid.data, Nat.not_lt.mp hshort.1, Nat.not_lt.mp hshort.2⟩,
      hvalid.timestampMs, hvalid.identifier⟩

/-! The whole text. -/

def sourceLines (source : List Char) : List Text :=
  (rawLines source).map fun line => utf8 (rstrip line)

section Lines

variable {maximumFrames lineNumber : Nat} {frames : List CanonicalFrame} {line : List Char}
  {rest : List (List Char)}

theorem parseLines_cons_blank (hline : rstrip line = []) :
    parseLines maximumFrames lineNumber frames (line :: rest) =
      parseLines maximumFrames (lineNumber + 1) frames rest := by
  rw [parseLines]
  exact if_pos hline

theorem parseLines_cons_eq_ok_iff (hline : rstrip line ≠ []) {result : List CanonicalFrame} :
    parseLines maximumFrames lineNumber frames (line :: rest) = .ok result ↔
      frames.length < maximumFrames ∧ ∃ frame, parseLine (rstrip line) = .ok frame ∧
        (frames = [] → frame.timestampMs = 0) ∧
        (∀ last ∈ frames.getLast?, last.timestampMs ≤ frame.timestampMs) ∧
        parseLines maximumFrames (lineNumber + 1) (frames ++ [frame]) rest = .ok result := by
  rw [parseLines, if_neg hline]
  by_cases hfits : frames.length < maximumFrames
  · rw [if_neg (by omega)]
    cases hparsed : parseLine (rstrip line) with
    | error message => simp
    | ok frame =>
      cases hlast : frames.getLast? with
      | none =>
        rw [List.getLast?_eq_none_iff] at hlast
        by_cases hzero : frame.timestampMs = 0
        · simp [hzero, hfits]
        · simp [hzero, hlast]
      | some last =>
        have hsome : frames ≠ [] := by
          rintro rfl
          cases hlast
        by_cases hless : frame.timestampMs < last.timestampMs
        · have hnext : ¬ last.timestampMs ≤ frame.timestampMs := Nat.not_le.mpr hless
          simp [hless, hnext]
        · simp [hless, hfits, hsome, Nat.not_lt.mp hless]
  · rw [if_pos (by omega)]
    simp [hfits]

theorem parseLines_eq_ok_iff (hfits : frames.length ≤ maximumFrames) (hframes : InOrder frames)
    {lines : List (List Char)} {result : List CanonicalFrame} :
    parseLines maximumFrames lineNumber frames lines = .ok result ↔
      ∃ read, result = frames ++ read ∧
        List.Forall₂ (fun line frame => parseLine line = .ok frame)
          ((lines.map rstrip).filter (· ≠ [])) read ∧
        (frames ++ read).length ≤ maximumFrames ∧ InOrder (frames ++ read) := by
  induction lines generalizing lineNumber frames with
  | nil =>
    simp only [parseLines, List.map_nil, List.filter_nil, List.forall₂_nil_left_iff]
    constructor
    · intro h
      cases h
      exact ⟨[], (List.append_nil _).symm, rfl, by simpa using hfits, by simpa using hframes⟩
    · rintro ⟨_, rfl, rfl, -⟩
      rw [List.append_nil]
  | cons line lines ih =>
    by_cases hline : rstrip line = []
    · rw [parseLines_cons_blank hline, List.map_cons,
        List.filter_cons_of_neg (by simpa using hline)]
      exact ih hfits hframes
    rw [parseLines_cons_eq_ok_iff hline, List.map_cons,
      List.filter_cons_of_pos (by simpa using hline)]
    constructor
    · rintro ⟨hroom, frame, hparsed, hstart, hnext, h⟩
      have hroom' : (frames ++ [frame]).length ≤ maximumFrames := by
        rw [List.length_append]
        exact hroom
      obtain ⟨read, rfl, hreads, hread⟩ := (ih hroom' (hframes.concat hstart hnext)).mp h
      rw [← List.append_cons] at hread ⊢
      exact ⟨frame :: read, rfl, .cons hparsed hreads, hread⟩
    · rintro ⟨read, rfl, hreads, hlength, horder⟩
      obtain ⟨frame, others, hparsed, hothers, rfl⟩ := List.forall₂_cons_left_iff.mp hreads
      have hsucceeds := Sequence.succeeds horder
      have hroom : frames.length < maximumFrames := by
        simp only [List.length_append, List.length_cons] at hlength
        omega
      have hroom' : (frames ++ [frame]).length ≤ maximumFrames := by
        rw [List.length_append]
        exact hroom
      refine ⟨hroom, frame, hparsed, hsucceeds.start, hsucceeds.ordered, ?_⟩
      rw [List.append_cons] at hlength horder
      exact (ih hroom' (hframes.concat hsucceeds.start hsucceeds.ordered)).mpr
        ⟨others, List.append_cons .., hothers, hlength, horder⟩

end Lines

theorem forall₂_parseLine_eq_ok_iff {lines : List (List Char)} {frames : List CanonicalFrame} :
    List.Forall₂ (fun line frame => parseLine line = .ok frame) lines frames ↔
      List.Forall₂ Spells (lines.map utf8) frames ∧
        ∀ line ∈ lines, ¬ HasLongNumber (utf8 line) := by
  rw [List.forall₂_map_left_iff, and_comm, ← List.forall₂_and_left]
  simp only [parseLine_eq_ok_iff, and_comm]

theorem utf8_header : utf8 header = CanTraceCsv.header := by rfl

theorem utf8_byteOrderMark :
    utf8 (byteOrderMark :: header) = CanTraceCsv.byteOrderMark ++ CanTraceCsv.header := by rfl

theorem removeByteOrderMark_iff {line : List Char} : removeByteOrderMark line = header ↔
    utf8 line = CanTraceCsv.header ∨
      utf8 line = CanTraceCsv.byteOrderMark ++ CanTraceCsv.header := by
  rw [← utf8_byteOrderMark, ← utf8_header, utf8_injective.eq_iff, utf8_injective.eq_iff]
  unfold removeByteOrderMark
  split
  · rename_i hmark
    obtain ⟨rest, rfl⟩ := List.head?_eq_some_iff.mp hmark
    constructor
    · intro h
      exact .inr (congrArg (byteOrderMark :: ·) h)
    · rintro (h | h)
      · cases h
      · exact List.tail_eq_of_cons_eq h
  · rename_i hmark
    constructor
    · exact Or.inl
    · rintro (h | rfl)
      · exact h
      · exact absurd rfl hmark

theorem HasLongNumber.length {line : Text} (h : HasLongNumber line) :
    maximumStrDigits < line.length := by
  obtain ⟨fields, hfields, hlong⟩ := h
  rw [(splitFields_eq_some_iff.mp hfields).1, joinFields]
  simp only [List.length_append, List.length_cons]
  omega

theorem utf8_eq_nil_iff {text : List Char} : utf8 text = [] ↔ text = [] := by
  rw [← utf8_nil, utf8_injective.eq_iff]

theorem map_utf8_filter (lines : List (List Char)) :
    (lines.filter (· ≠ [])).map utf8 = (lines.map utf8).filter (· ≠ []) := by
  rw [List.filter_map]
  congr 2
  ext line
  simp [utf8_eq_nil_iff]

theorem parseLines_two_eq_ok_iff {maximumFrames : Nat} {lines : List (List Char)}
    {frames : List CanonicalFrame} : parseLines maximumFrames 2 [] lines = .ok frames ↔
      (List.Forall₂ Spells ((lines.map fun line => utf8 (rstrip line)).filter (· ≠ [])) frames ∧
        frames.length ≤ maximumFrames ∧ InOrder frames) ∧
      ∀ line ∈ lines, ¬ HasLongNumber (utf8 (rstrip line)) := by
  have hbytes : (lines.map fun line => utf8 (rstrip line)) = (lines.map rstrip).map utf8 := by
    rw [List.map_map]
    rfl
  have hshort : (∀ line ∈ (lines.map rstrip).filter (· ≠ []), ¬ HasLongNumber (utf8 line)) ↔
      ∀ line ∈ lines, ¬ HasLongNumber (utf8 (rstrip line)) := by
    simp only [List.mem_filter, List.mem_map, decide_eq_true_eq]
    constructor
    · intro h line hmem hlong
      refine h _ ⟨⟨line, hmem, rfl⟩, fun hblank => ?_⟩ hlong
      rw [hblank] at hlong
      exact absurd hlong.length (by decide)
    · rintro h _ ⟨⟨line, hmem, rfl⟩, -⟩
      exact h line hmem
  rw [parseLines_eq_ok_iff (Nat.zero_le _) sequence_nil, hbytes, ← map_utf8_filter, ← hshort]
  simp only [List.nil_append, forall₂_parseLine_eq_ok_iff]
  constructor
  · rintro ⟨_, rfl, ⟨hspells, hnone⟩, hfits, hordered⟩
    exact ⟨⟨hspells, hfits, hordered⟩, hnone⟩
  · rintro ⟨⟨hspells, hfits, hordered⟩, hnone⟩
    exact ⟨frames, rfl, ⟨hspells, hnone⟩, hfits, hordered⟩

theorem parse_header_eq_ok_iff {source : List Char} {maximumFrames : Nat}
    (hmaximum : 0 < maximumFrames) {first : List Char} {rest : List (List Char)}
    (hlines : rawLines source = first :: rest) {frames : List CanonicalFrame} :
    parseCanonicalTrace source maximumFrames = .ok frames ↔
      removeByteOrderMark (rstrip first) = header ∧
        parseLines maximumFrames 2 [] rest = .ok frames ∧ frames ≠ [] := by
  unfold parseCanonicalTrace
  rw [if_neg (by omega), hlines]
  dsimp only
  split
  · rename_i hheader
    simp [hheader]
  · rename_i hheader
    rw [not_not] at hheader
    rcases parseLines maximumFrames 2 [] rest with message | _ | ⟨frame, others⟩
    · simp
    · simp [eq_comm]
    · simp only [hheader, true_and, Except.ok.injEq, ne_eq, iff_self_and]
      rintro rfl
      simp

/-- It accepts the canonical traces without a long number, and yields their frames. -/
theorem parseCanonicalTrace_eq_ok_iff {source : List Char} {maximumFrames : Nat}
    {frames : List CanonicalFrame} :
    parseCanonicalTrace source maximumFrames = .ok frames ↔
      IsTrace maximumFrames (sourceLines source) frames ∧
        ∀ line ∈ sourceLines source, ¬ HasLongNumber line := by
  by_cases hmaximum : 0 < maximumFrames
  · cases hlines : rawLines source with
    | nil =>
      constructor
      · intro h
        rw [parseCanonicalTrace, if_neg (by omega), hlines] at h
        cases h
      · rintro ⟨htrace, -⟩
        obtain ⟨_, hfirst, -⟩ := htrace.header
        rw [sourceLines, hlines] at hfirst
        cases hfirst
    | cons first rest =>
      have hheader : ∀ line, line = CanTraceCsv.header ∨
          line = CanTraceCsv.byteOrderMark ++ CanTraceCsv.header → ¬ HasLongNumber line := by
        rintro line (rfl | rfl) hlong <;> exact absurd hlong.length (by decide)
      rw [parse_header_eq_ok_iff hmaximum hlines, parseLines_two_eq_ok_iff,
        removeByteOrderMark_iff, sourceLines, hlines, List.map_cons, List.forall_mem_cons,
        List.forall_mem_map]
      constructor
      · rintro ⟨hfirst, ⟨⟨hspells, hfits, hordered⟩, hshort⟩, hsome⟩
        exact ⟨⟨⟨_, rfl, hfirst⟩, hspells, hsome, hfits, hordered⟩, hheader _ hfirst, hshort⟩
      · rintro ⟨htrace, -, hshort⟩
        obtain ⟨_, hline, hfirst⟩ := htrace.header
        cases hline
        exact ⟨hfirst, ⟨⟨htrace.reads, htrace.fits, htrace.ordered⟩, hshort⟩, htrace.some⟩
  · constructor
    · intro h
      rw [parseCanonicalTrace, if_pos (by omega)] at h
      cases h
    · rintro ⟨htrace, -⟩
      exact absurd (lt_of_lt_of_le (List.length_pos_iff.mpr htrace.some) htrace.fits) hmaximum

end BmwRemote.Host.CanonicalTrace
