import Mathlib.Algebra.Group.Nat.Defs
import Mathlib.Data.List.Basic

/-! Bytes: words in little-endian order, the CRC-32 of a byte string, and blocks
written into a longer string. -/
namespace BmwRemote.Lib

def leValue : List UInt8 → Nat
  | [] => 0
  | byte :: rest => byte.toNat + 256 * leValue rest

def leBytes : Nat → Nat → List UInt8
  | 0, _ => []
  | count + 1, value => UInt8.ofNat value :: leBytes count (value / 256)

theorem leValue_leBytes (count value : Nat) :
    leValue (leBytes count value) = value % 256 ^ count := by
  induction count generalizing value with
  | zero => rw [Nat.pow_zero, Nat.mod_one, leBytes, leValue]
  | succ count ih =>
    have hsplit : value % (256 * 256 ^ count) = value % 256 + 256 * (value / 256 % 256 ^ count) :=
      Nat.mod_mul
    have hpow : 256 ^ (count + 1) = 256 * 256 ^ count := Nat.pow_succ'
    rw [leBytes, leValue, ih, UInt8.toNat_ofNat', hpow, hsplit]

theorem or_shiftLeft {low width : Nat} (high : Nat) (h : low < 2 ^ width) :
    low ||| high <<< width = low + high * 2 ^ width := by
  rw [Nat.or_comm, ← Nat.shiftLeft_add_eq_or_of_lt h, Nat.shiftLeft_eq, Nat.add_comm]

def writeU16 (value : UInt16) : List UInt8 :=
  [(value &&& 0xFF).toUInt8, ((value >>> 8) &&& 0xFF).toUInt8]

def writeU32 (value : UInt32) : List UInt8 :=
  [(value &&& 0xFF).toUInt8, ((value >>> 8) &&& 0xFF).toUInt8,
    ((value >>> 16) &&& 0xFF).toUInt8, ((value >>> 24) &&& 0xFF).toUInt8]

def writeU64 (value : UInt64) : List UInt8 :=
  writeU32 (value &&& 0xFFFFFFFF).toUInt32 ++ writeU32 (value >>> 32).toUInt32

/-- The byte at `offset`. Every reader below stays within its string. -/
def byteAt (bytes : List UInt8) (offset : Nat) : UInt8 := bytes.getD offset 0

def readU16 (bytes : List UInt8) (offset : Nat) : UInt16 :=
  (byteAt bytes offset).toUInt16 ||| (byteAt bytes (offset + 1)).toUInt16 <<< 8

def readU32 (bytes : List UInt8) (offset : Nat) : UInt32 :=
  (byteAt bytes offset).toUInt32 ||| (byteAt bytes (offset + 1)).toUInt32 <<< 8 |||
    (byteAt bytes (offset + 2)).toUInt32 <<< 16 ||| (byteAt bytes (offset + 3)).toUInt32 <<< 24

def readU64 (bytes : List UInt8) (offset : Nat) : UInt64 :=
  (readU32 bytes offset).toUInt64 ||| (readU32 bytes (offset + 4)).toUInt64 <<< 32

theorem and_255 (value : Nat) : value &&& 255 = value % 256 :=
  Nat.and_two_pow_sub_one_eq_mod value 8

theorem writeU16_eq (value : UInt16) : writeU16 value = leBytes 2 value.toNat := by
  have hlt := value.toNat_lt
  simp only [writeU16, leBytes, List.cons.injEq, and_true]
  refine ⟨?_, ?_⟩
  all_goals
    apply UInt8.toNat_inj.1
    simp [Nat.shiftRight_eq_div_pow, and_255]

theorem writeU32_eq (value : UInt32) : writeU32 value = leBytes 4 value.toNat := by
  have hlt := value.toNat_lt
  simp only [writeU32, leBytes, List.cons.injEq, and_true]
  refine ⟨?_, ?_, ?_, ?_⟩
  all_goals
    apply UInt8.toNat_inj.1
    simp [Nat.shiftRight_eq_div_pow, and_255, Nat.div_div_eq_div_mul]

theorem toNat_join32 (a b c d : UInt8) :
    (a.toUInt32 ||| b.toUInt32 <<< 8 ||| c.toUInt32 <<< 16 ||| d.toUInt32 <<< 24).toNat =
      leValue [a, b, c, d] := by
  have ha := a.toNat_lt
  have hb := b.toNat_lt
  have hc := c.toNat_lt
  have hd := d.toNat_lt
  have hb' : (b.toUInt32 <<< 8).toNat = b.toNat <<< 8 := by
    simp [Nat.shiftLeft_eq]
    omega
  have hc' : (c.toUInt32 <<< 16).toNat = c.toNat <<< 16 := by
    simp [Nat.shiftLeft_eq]
    omega
  have hd' : (d.toUInt32 <<< 24).toNat = d.toNat <<< 24 := by
    simp [Nat.shiftLeft_eq]
    omega
  have hab : a.toNat + b.toNat * 2 ^ 8 < 2 ^ 16 := by omega
  have habc : a.toNat + b.toNat * 2 ^ 8 + c.toNat * 2 ^ 16 < 2 ^ 24 := by omega
  rw [UInt32.toNat_or, UInt32.toNat_or, UInt32.toNat_or, hb', hc', hd', UInt8.toNat_toUInt32,
    or_shiftLeft _ ha, or_shiftLeft _ hab, or_shiftLeft _ habc]
  simp only [leValue]
  omega

theorem toNat_join16 (a b : UInt8) :
    (a.toUInt16 ||| b.toUInt16 <<< 8).toNat = leValue [a, b] := by
  have ha := a.toNat_lt
  have hb := b.toNat_lt
  have hb' : (b.toUInt16 <<< 8).toNat = b.toNat <<< 8 := by
    simp [Nat.shiftLeft_eq]
    omega
  rw [UInt16.toNat_or, hb', UInt8.toNat_toUInt16, or_shiftLeft _ ha]
  simp only [leValue]
  omega

theorem toNat_join64 (low high : UInt32) :
    (low.toUInt64 ||| high.toUInt64 <<< 32).toNat = low.toNat + high.toNat * 2 ^ 32 := by
  have hlow := low.toNat_lt
  have hhigh := high.toNat_lt
  have hshift : (high.toUInt64 <<< 32).toNat = high.toNat <<< 32 := by
    simp [Nat.shiftLeft_eq]
    omega
  rw [UInt64.toNat_or, hshift, UInt32.toNat_toUInt64, or_shiftLeft _ hlow]

@[irreducible] def block (count : Nat) (bytes : List UInt8) (offset : Nat) : Vector UInt8 count :=
  Vector.ofFn fun index => byteAt bytes (offset + index)

@[simp] theorem length_writeU16 (value : UInt16) : (writeU16 value).length = 2 := by
  simp [writeU16]

@[simp] theorem length_writeU32 (value : UInt32) : (writeU32 value).length = 4 := by
  simp [writeU32]

@[simp] theorem length_writeU64 (value : UInt64) : (writeU64 value).length = 8 := by
  simp [writeU64]

/-! A reader that starts behind a first part reads the rest. -/

theorem byteAt_skip (left right : List UInt8) {offset : Nat} (h : left.length ≤ offset) :
    byteAt (left ++ right) offset = byteAt right (offset - left.length) := by
  unfold byteAt
  rw [List.getD_eq_getElem?_getD, List.getD_eq_getElem?_getD, List.getElem?_append_right h]

theorem readU16_skip (left right : List UInt8) {offset : Nat} (h : left.length ≤ offset) :
    readU16 (left ++ right) offset = readU16 right (offset - left.length) := by
  unfold readU16
  rw [byteAt_skip left right h, byteAt_skip left right (Nat.le_succ_of_le h), Nat.succ_sub h]

theorem readU32_skip (left right : List UInt8) {offset : Nat} (h : left.length ≤ offset) :
    readU32 (left ++ right) offset = readU32 right (offset - left.length) := by
  unfold readU32
  rw [byteAt_skip left right h, byteAt_skip left right (by omega), byteAt_skip left right (by omega),
    byteAt_skip left right (by omega), Nat.sub_add_comm h, Nat.sub_add_comm h, Nat.sub_add_comm h]

theorem readU64_skip (left right : List UInt8) {offset : Nat} (h : left.length ≤ offset) :
    readU64 (left ++ right) offset = readU64 right (offset - left.length) := by
  unfold readU64
  rw [readU32_skip left right h, readU32_skip left right (by omega), Nat.sub_add_comm h]

theorem block_skip (count : Nat) (left right : List UInt8) {offset : Nat}
    (h : left.length ≤ offset) :
    block count (left ++ right) offset = block count right (offset - left.length) := by
  unfold block
  congr 1
  funext index
  rw [byteAt_skip left right (by omega), Nat.sub_add_comm h]

/-! A reader that stays within a first part reads it alone. -/

theorem byteAt_append {left : List UInt8} (right : List UInt8) {offset : Nat}
    (h : offset < left.length) : byteAt (left ++ right) offset = byteAt left offset := by
  unfold byteAt
  rw [List.getD_eq_getElem?_getD, List.getD_eq_getElem?_getD, List.getElem?_append_left h]

theorem readU16_append {left : List UInt8} (right : List UInt8) {offset : Nat}
    (h : offset + 1 < left.length) : readU16 (left ++ right) offset = readU16 left offset := by
  unfold readU16
  rw [byteAt_append right (Nat.lt_of_succ_lt h), byteAt_append right h]

/-! A reader at the front reads what was written there. -/

theorem readU16_write (value : UInt16) (right : List UInt8) :
    readU16 (writeU16 value ++ right) 0 = value := by
  apply UInt16.toNat_inj.1
  unfold readU16
  rw [toNat_join16]
  change leValue (writeU16 value) = _
  rw [writeU16_eq, leValue_leBytes]
  exact Nat.mod_eq_of_lt value.toNat_lt

theorem readU32_write (value : UInt32) (right : List UInt8) :
    readU32 (writeU32 value ++ right) 0 = value := by
  apply UInt32.toNat_inj.1
  unfold readU32
  rw [toNat_join32]
  change leValue (writeU32 value) = _
  rw [writeU32_eq, leValue_leBytes]
  exact Nat.mod_eq_of_lt value.toNat_lt

theorem readU64_write (value : UInt64) (right : List UInt8) :
    readU64 (writeU64 value ++ right) 0 = value := by
  have hlow : (value &&& 0xFFFFFFFF).toUInt32.toNat = value.toNat % 2 ^ 32 := by
    simp [Nat.and_two_pow_sub_one_eq_mod _ 32]
  have hhigh : (value >>> 32).toUInt32.toNat = value.toNat / 2 ^ 32 % 2 ^ 32 := by
    simp [Nat.shiftRight_eq_div_pow]
  have hlt := value.toNat_lt
  unfold writeU64 readU64
  generalize (value &&& 0xFFFFFFFF).toUInt32 = low at hlow ⊢
  generalize (value >>> 32).toUInt32 = high at hhigh ⊢
  have hsecond : readU32 (writeU32 low ++ (writeU32 high ++ right)) (0 + 4) = high :=
    (readU32_skip _ _ (by simp)).trans (readU32_write high right)
  rw [List.append_assoc, readU32_write, hsecond]
  apply UInt64.toNat_inj.1
  rw [toNat_join64, hlow, hhigh]
  omega

/-! What was read is written back as the bytes it was read from. -/

theorem leBytes_leValue (bytes : List UInt8) : leBytes bytes.length (leValue bytes) = bytes := by
  induction bytes with
  | nil => rfl
  | cons byte rest ih =>
    have hlow := byte.toNat_lt
    have hbyte : UInt8.ofNat (byte.toNat + 256 * leValue rest) = byte := by
      apply UInt8.toNat_inj.1
      rw [UInt8.toNat_ofNat']
      omega
    have hrest : (byte.toNat + 256 * leValue rest) / 256 = leValue rest := by omega
    rw [List.length_cons, leBytes, leValue, hbyte, hrest, ih]

theorem writeU16_readU16 (bytes : List UInt8) (offset : Nat) :
    writeU16 (readU16 bytes offset) = [byteAt bytes offset, byteAt bytes (offset + 1)] := by
  rw [writeU16_eq]
  unfold readU16
  rw [toNat_join16]
  exact leBytes_leValue [byteAt bytes offset, byteAt bytes (offset + 1)]

theorem writeU32_readU32 (bytes : List UInt8) (offset : Nat) :
    writeU32 (readU32 bytes offset) = [byteAt bytes offset, byteAt bytes (offset + 1),
      byteAt bytes (offset + 2), byteAt bytes (offset + 3)] := by
  rw [writeU32_eq]
  unfold readU32
  rw [toNat_join32]
  exact leBytes_leValue [byteAt bytes offset, byteAt bytes (offset + 1), byteAt bytes (offset + 2),
    byteAt bytes (offset + 3)]

theorem writeU64_readU64 (bytes : List UInt8) (offset : Nat) :
    writeU64 (readU64 bytes offset) = writeU32 (readU32 bytes offset) ++
      writeU32 (readU32 bytes (offset + 4)) := by
  have hlow := (readU32 bytes offset).toNat_lt
  have hhigh := (readU32 bytes (offset + 4)).toNat_lt
  have hjoined := toNat_join64 (readU32 bytes offset) (readU32 bytes (offset + 4))
  unfold writeU64 readU64
  generalize (readU32 bytes offset).toUInt64 ||| (readU32 bytes (offset + 4)).toUInt64 <<< 32 =
    joined at hjoined ⊢
  congr 2
  · apply UInt32.toNat_inj.1
    rw [UInt64.toNat_toUInt32, UInt64.toNat_and]
    change (joined.toNat &&& 2 ^ 32 - 1) % 2 ^ 32 = _
    rw [Nat.and_two_pow_sub_one_eq_mod]
    omega
  · apply UInt32.toNat_inj.1
    rw [UInt64.toNat_toUInt32, UInt64.toNat_shiftRight]
    change (joined.toNat >>> 32) % 2 ^ 32 = _
    rw [Nat.shiftRight_eq_div_pow]
    omega

theorem take_drop_eq_map_byteAt {bytes : List UInt8} {offset count : Nat}
    (h : offset + count ≤ bytes.length) :
    (bytes.drop offset).take count =
      (List.range count).map fun index => byteAt bytes (offset + index) := by
  apply List.ext_getElem
  · simp
    omega
  · intro index hleft hright
    have hindex : index < count := by simpa using hright
    have hinside : offset + index < bytes.length := by omega
    simp [byteAt, hinside]

theorem block_toList {count : Nat} (bytes : Vector UInt8 count) (right : List UInt8) :
    block count (bytes.toList ++ right) 0 = bytes := by
  apply Vector.ext
  intro index hindex
  unfold block byteAt
  rw [Vector.getElem_ofFn, Nat.zero_add, List.getD_eq_getElem?_getD,
    List.getElem?_append_left (by simpa using hindex)]
  simp [hindex]

/-! An area of bytes that is read and overwritten in blocks. -/

section Area

variable {size count : Nat}

@[irreducible] def patch (area : Vector UInt8 size) (offset : Nat) (bytes : Vector UInt8 count) :
    Vector UInt8 size :=
  Vector.ofFn fun index =>
    if h : offset ≤ index ∧ index < offset + count then bytes[index - offset] else area[index]

theorem byteAt_toList (area : Vector UInt8 size) {index : Nat} (h : index < size) :
    byteAt area.toList index = area[index] := by
  unfold byteAt
  simp [h]

theorem getElem_patch (area : Vector UInt8 size) {offset : Nat} (bytes : Vector UInt8 count)
    {index : Nat} (hindex : index < size) (h : index < offset ∨ offset + count ≤ index) :
    (patch area offset bytes)[index] = area[index] := by
  unfold patch
  rw [Vector.getElem_ofFn, dif_neg]
  · rfl
  · dsimp only
    omega

theorem block_patch (area : Vector UInt8 size) {offset : Nat} (bytes : Vector UInt8 count)
    (h : offset + count ≤ size) : block count (patch area offset bytes).toList offset = bytes := by
  apply Vector.ext
  intro index hindex
  unfold block
  rw [Vector.getElem_ofFn, byteAt_toList _ (by omega)]
  unfold patch
  have hinside : offset ≤ offset + index ∧ offset + index < offset + count := by omega
  rw [Vector.getElem_ofFn, dif_pos hinside]
  simp

theorem block_patch_disjoint (area : Vector UInt8 size) {offset other width : Nat}
    (bytes : Vector UInt8 count) (h : other + width ≤ offset ∨ offset + count ≤ other) :
    block width (patch area offset bytes).toList other = block width area.toList other := by
  apply Vector.ext
  intro index hindex
  unfold block
  rw [Vector.getElem_ofFn, Vector.getElem_ofFn]
  by_cases hinside : other + index < size
  · rw [byteAt_toList _ hinside, byteAt_toList _ hinside, getElem_patch area bytes hinside (by omega)]
  · unfold byteAt
    simp [hinside]

theorem toList_patch (area : Vector UInt8 size) {offset : Nat} (bytes : Vector UInt8 count)
    (h : offset + count ≤ size) :
    (patch area offset bytes).toList =
      area.toList.take offset ++ (bytes.toList ++ area.toList.drop (offset + count)) := by
  apply List.ext_getElem
  · simp
    omega
  · intro index hleft hright
    have hindex : index < size := by simpa using hleft
    rw [Vector.getElem_toList]
    by_cases hinside : offset ≤ index ∧ index < offset + count
    · rw [List.getElem_append_right (by simp; omega), List.getElem_append_left (by simp; omega)]
      unfold patch
      simp [hinside, Nat.min_eq_left (show offset ≤ size by omega)]
    · rw [getElem_patch area bytes hindex (by omega)]
      by_cases hfront : index < offset
      · rw [List.getElem_append_left (by simp; omega)]
        simp
      · rw [List.getElem_append_right (by simp; omega), List.getElem_append_right (by simp; omega)]
        simp
        congr 1
        omega

abbrev Writes := List (Nat × List UInt8)

def Writes.Consecutive : Nat → Writes → Prop
  | _, [] => True
  | start, (offset, bytes) :: rest => offset = start ∧ Consecutive (start + bytes.length) rest

def store (area : Vector UInt8 size) (writes : Writes) : Vector UInt8 size :=
  writes.foldl (fun area write => patch area write.1 ⟨write.2.toArray, rfl⟩) area

theorem toList_store {writes : Writes} {written rest : List UInt8} (area : Vector UInt8 size)
    (hconsecutive : writes.Consecutive written.length) (harea : area.toList = written ++ rest)
    (hlength : (writes.flatMap Prod.snd).length = rest.length) :
    (store area writes).toList = written ++ writes.flatMap Prod.snd := by
  induction writes generalizing written rest area with
  | nil =>
    have hrest : rest = [] := List.length_eq_zero_iff.1 hlength.symm
    rw [store, List.foldl_nil, harea, hrest, List.flatMap_nil]
  | cons write writes ih =>
    rcases write with ⟨offset, bytes⟩
    rcases hconsecutive with ⟨hoffset, hconsecutive⟩
    rw [List.flatMap_cons, List.length_append] at hlength
    dsimp only at hlength
    have hsize : size = written.length + rest.length := by
      rw [← List.length_append, ← harea, Vector.length_toList]
    have hpatch : (patch area offset (⟨bytes.toArray, rfl⟩ : Vector UInt8 bytes.length)).toList =
        (written ++ bytes) ++ rest.drop bytes.length := by
      rw [toList_patch _ _ (by omega), harea, hoffset, List.take_left, List.drop_length_add_append,
        List.append_assoc]
      rfl
    have hstored := ih _ (by rwa [List.length_append]) hpatch (by rw [List.length_drop]; omega)
    rw [List.flatMap_cons, ← List.append_assoc]
    exact hstored

end Area

/-! The CRC-32 with the reflected polynomial. -/

def crc32Bit (crc : UInt32) : UInt32 :=
  let mask := 0 - (crc &&& 1)
  (crc >>> 1) ^^^ (0xEDB88320 &&& mask)

def crc32Byte (crc : UInt32) (byte : UInt8) : UInt32 :=
  Nat.repeat crc32Bit 8 (crc ^^^ byte.toUInt32)

@[irreducible] def crc32 (bytes : List UInt8) : UInt32 := bytes.foldl crc32Byte 0xFFFFFFFF ^^^ 0xFFFFFFFF

example : crc32 [0x31, 0x32, 0x33, 0x34, 0x35, 0x36, 0x37, 0x38, 0x39] = 0xCBF43926 := by decide +kernel

end BmwRemote.Lib
