import BmwRemote.Lib.Bytes
import Mathlib.Data.Nat.Bitwise
import Mathlib.Logic.Function.Iterate

/-! Burst errors under the CRC-32. The checksum reads a byte string bit by bit, the
least significant bit of each byte first; up to thirty-two bits in a row go into the
register as one word, and no later bit can undo the difference that they leave. -/
namespace BmwRemote.Lib

/-- The low `count` bits of a number, the least significant one first. -/
def bitsOf : Nat → Nat → List Bool
  | 0, _ => []
  | count + 1, value => value.testBit 0 :: bitsOf count (value / 2)

def bits (bytes : List UInt8) : List Bool := bytes.flatMap fun byte => bitsOf 8 byte.toNat

def bitsValue : List Bool → Nat
  | [] => 0
  | bit :: rest => bit.toNat + 2 * bitsValue rest

/-- The bytes received differ from those sent, and only inside a window of
thirty-two bits. -/
structure Burst (sent received : List UInt8) : Prop where
  length : received.length = sent.length
  corrupted : received ≠ sent
  window : ∃ start, ∀ index, index < start ∨ start + 32 ≤ index →
    (bits received)[index]? = (bits sent)[index]?

@[simp] theorem length_bitsOf (count value : Nat) : (bitsOf count value).length = count := by
  induction count generalizing value with
  | zero => rfl
  | succ count ih => rw [bitsOf, List.length_cons, ih]

theorem bitsValue_bitsOf (count value : Nat) : bitsValue (bitsOf count value) = value % 2 ^ count := by
  induction count generalizing value with
  | zero => rw [Nat.pow_zero, Nat.mod_one, bitsOf, bitsValue]
  | succ count ih =>
    have hbit : (value.testBit 0).toNat = value % 2 := by
      rw [Nat.testBit_zero]
      rcases Nat.mod_two_eq_zero_or_one value with h | h <;> simp [h]
    rw [bitsOf, bitsValue, ih, hbit, Nat.pow_succ', Nat.mod_mul]

@[simp] theorem length_bits (bytes : List UInt8) : (bits bytes).length = 8 * bytes.length := by
  induction bytes with
  | nil => rfl
  | cons byte rest ih =>
    have hcons : bits (byte :: rest) = bitsOf 8 byte.toNat ++ bits rest := rfl
    rw [hcons, List.length_append, length_bitsOf, ih, List.length_cons]
    omega

theorem bitsValue_append (left right : List Bool) :
    bitsValue (left ++ right) = bitsValue left + 2 ^ left.length * bitsValue right := by
  induction left with
  | nil => rw [List.nil_append, List.length_nil, Nat.pow_zero, Nat.one_mul, bitsValue, Nat.zero_add]
  | cons bit rest ih =>
    rw [List.cons_append, bitsValue, bitsValue, ih, List.length_cons, Nat.pow_succ', Nat.mul_add,
      Nat.mul_assoc, Nat.add_assoc]

theorem bitsValue_lt (word : List Bool) : bitsValue word < 2 ^ word.length := by
  induction word with
  | nil => exact Nat.one_pos
  | cons bit rest ih =>
    have hbit := Bool.toNat_lt bit
    rw [bitsValue, List.length_cons, Nat.pow_succ']
    omega

theorem bitsValue_bits (bytes : List UInt8) : bitsValue (bits bytes) = leValue bytes := by
  induction bytes with
  | nil => rfl
  | cons byte rest ih =>
    have hcons : bits (byte :: rest) = bitsOf 8 byte.toNat ++ bits rest := rfl
    rw [hcons, bitsValue_append, bitsValue_bitsOf, length_bitsOf, ih, leValue,
      Nat.mod_eq_of_lt byte.toNat_lt]
    rfl

theorem bitsValue_inj {left right : List Bool} (hlength : left.length = right.length)
    (h : bitsValue left = bitsValue right) : left = right := by
  induction left generalizing right with
  | nil => exact (List.length_eq_zero_iff.1 hlength.symm).symm
  | cons bit rest ih =>
    cases right with
    | nil => cases hlength
    | cons other tail =>
      rw [bitsValue, bitsValue] at h
      have hbit := Bool.toNat_lt bit
      have hother := Bool.toNat_lt other
      have hrest : bitsValue rest = bitsValue tail := by omega
      have hsame : bit = other := by
        cases bit <;> cases other <;> first | rfl | (simp at h; omega)
      rw [hsame, ih (Nat.succ.inj hlength) hrest]

theorem bits_inj {left right : List UInt8} (hlength : left.length = right.length)
    (h : bits left = bits right) : left = right := by
  have hvalue : leValue left = leValue right := by rw [← bitsValue_bits, ← bitsValue_bits, h]
  rw [← leBytes_leValue left, ← leBytes_leValue right, hvalue, hlength]

theorem bits_append (left right : List UInt8) : bits (left ++ right) = bits left ++ bits right :=
  List.flatMap_append

theorem Burst.of_bytes (front back : List UInt8) {window other : List UInt8}
    (hlength : other.length = window.length) (hshort : window.length ≤ 4) (hne : other ≠ window) :
    Burst (front ++ (window ++ back)) (front ++ (other ++ back)) := by
  have hother : (bits other).length = (bits window).length := by
    rw [length_bits, length_bits, hlength]
  refine ⟨?_, ?_, 8 * front.length, fun index hindex => ?_⟩
  · rw [List.length_append, List.length_append, List.length_append, List.length_append, hlength]
  · intro hsame
    exact hne (List.append_cancel_right (List.append_cancel_left hsame))
  · rw [bits_append, bits_append, bits_append, bits_append]
    cases hindex with
    | inl hfront =>
      rw [List.getElem?_append_left (by rwa [length_bits]),
        List.getElem?_append_left (by rwa [length_bits])]
    | inr hback =>
      have hfront := length_bits front
      have hwindow := length_bits window
      rw [List.getElem?_append_right (by omega), List.getElem?_append_right (by omega),
        List.getElem?_append_right (by omega), List.getElem?_append_right (by omega), hother]

/-! The register. -/

theorem crc32Bit_eq (crc : UInt32) :
    crc32Bit crc = (crc >>> 1) ^^^ if crc.toNat.testBit 0 then 0xEDB88320 else 0 := by
  have hlow : crc &&& 1 = if crc.toNat.testBit 0 then 1 else 0 := by
    apply UInt32.toNat_inj.1
    rw [UInt32.toNat_and, Nat.testBit_zero]
    have hone : crc.toNat &&& (1 : UInt32).toNat = crc.toNat % 2 :=
      Nat.and_two_pow_sub_one_eq_mod crc.toNat 1
    rw [hone]
    rcases Nat.mod_two_eq_zero_or_one crc.toNat with h | h <;> simp [h]
  unfold crc32Bit
  dsimp only
  rw [hlow]
  split
  · rfl
  · rfl

theorem crc32Bit_xor (crc word : UInt32) (h : word.toNat < 2 ^ 31) :
    crc32Bit (crc ^^^ (word <<< 1)) = crc32Bit crc ^^^ word := by
  have heven : (word <<< 1).toNat = 2 * word.toNat := by
    rw [UInt32.toNat_shiftLeft, Nat.shiftLeft_eq]
    simp
    omega
  have hlow : (crc ^^^ (word <<< 1)).toNat.testBit 0 = crc.toNat.testBit 0 := by
    rw [UInt32.toNat_xor, Nat.testBit_xor, heven, Nat.testBit_zero (2 * word.toNat)]
    simp
  have hshift : (crc ^^^ (word <<< 1)) >>> 1 = (crc >>> 1) ^^^ word := by
    apply UInt32.toNat_inj.1
    rw [UInt32.toNat_shiftRight, UInt32.toNat_xor, heven, UInt32.toNat_xor,
      UInt32.toNat_shiftRight, Nat.shiftRight_xor_distrib]
    congr 1
    change (2 * word.toNat) >>> 1 = word.toNat
    rw [Nat.shiftRight_one]
    omega
  rw [crc32Bit_eq, crc32Bit_eq, hlow, hshift, UInt32.xor_assoc, UInt32.xor_assoc,
    UInt32.xor_comm word]

theorem testBit_crc32Bit (crc : UInt32) :
    (crc32Bit crc).toNat.testBit 31 = crc.toNat.testBit 0 := by
  have hshifted : (crc >>> 1).toNat.testBit 31 = false := by
    rw [UInt32.toNat_shiftRight, Nat.testBit_shiftRight]
    exact Nat.testBit_lt_two_pow crc.toNat_lt
  rw [crc32Bit_eq, UInt32.toNat_xor, Nat.testBit_xor, hshifted, Bool.false_xor]
  split
  · rename_i hlow
    rw [hlow]
    decide
  · rename_i hlow
    rw [Bool.not_eq_true] at hlow
    rw [hlow]
    decide

theorem crc32Bit_injective : Function.Injective crc32Bit := by
  intro left right h
  have hlow : left.toNat.testBit 0 = right.toNat.testBit 0 := by
    rw [← testBit_crc32Bit, ← testBit_crc32Bit, h]
  rw [crc32Bit_eq, crc32Bit_eq, hlow, UInt32.xor_left_inj] at h
  have hhalf : left.toNat / 2 = right.toNat / 2 := congrArg UInt32.toNat h
  rw [Nat.testBit_zero, Nat.testBit_zero, decide_eq_decide] at hlow
  apply UInt32.toNat_inj.1
  omega

def crcStep (crc : UInt32) (bit : Bool) : UInt32 := crc32Bit (crc ^^^ if bit then 1 else 0)

theorem crcStep_injective (bit : Bool) : Function.Injective (crcStep · bit) := by
  intro left right h
  have hregister := crc32Bit_injective h
  exact (UInt32.xor_left_inj _).1 hregister

theorem foldl_crcStep_injective (message : List Bool) :
    Function.Injective (message.foldl crcStep ·) := by
  induction message with
  | nil => exact Function.injective_id
  | cons bit rest ih =>
    intro left right h
    exact crcStep_injective bit (ih h)

theorem repeat_succ {A : Type} (step : A → A) (count : Nat) (state : A) :
    Nat.repeat step (count + 1) state = Nat.repeat step count (step state) := by
  induction count with
  | zero => rfl
  | succ count ih => exact congrArg step ih

def wordOf (word : List Bool) : UInt32 := UInt32.ofNat (bitsValue word)

theorem toNat_wordOf {word : List Bool} (h : word.length ≤ 32) :
    (wordOf word).toNat = bitsValue word := by
  rw [wordOf, UInt32.toNat_ofNat']
  apply Nat.mod_eq_of_lt
  exact Nat.lt_of_lt_of_le (bitsValue_lt word) (Nat.pow_le_pow_right (by omega) h)

theorem wordOf_cons (bit : Bool) {rest : List Bool} (h : rest.length + 1 ≤ 32) :
    wordOf (bit :: rest) = (if bit then (1 : UInt32) else 0) ^^^ (wordOf rest <<< 1) := by
  have hsmall : bitsValue rest < 2 ^ 31 :=
    Nat.lt_of_lt_of_le (bitsValue_lt rest) (Nat.pow_le_pow_right (by omega) (by omega))
  have hdouble : (wordOf rest <<< 1).toNat = 2 * bitsValue rest := by
    rw [UInt32.toNat_shiftLeft, toNat_wordOf (by omega), Nat.shiftLeft_eq]
    simp
    omega
  apply UInt32.toNat_inj.1
  rw [toNat_wordOf (by rwa [List.length_cons]), bitsValue, UInt32.toNat_xor, hdouble, Nat.xor_comm]
  cases bit with
  | false => simp
  | true =>
    have heven := Nat.xor_one_of_even (even_two_mul (bitsValue rest))
    simp [heven, Nat.add_comm]

theorem foldl_crcStep (word : List Bool) (crc : UInt32) (h : word.length ≤ 32) :
    word.foldl crcStep crc = Nat.repeat crc32Bit word.length (crc ^^^ wordOf word) := by
  induction word generalizing crc with
  | nil => simp [wordOf, bitsValue, Nat.repeat]
  | cons bit rest ih =>
    rw [List.length_cons] at h
    have hsmall : (wordOf rest).toNat < 2 ^ 31 := by
      rw [toNat_wordOf (by omega)]
      exact Nat.lt_of_lt_of_le (bitsValue_lt rest) (Nat.pow_le_pow_right (by omega) (by omega))
    rw [List.foldl_cons, ih _ (by omega), List.length_cons, repeat_succ, wordOf_cons bit h,
      ← UInt32.xor_assoc, crc32Bit_xor _ _ hsmall]
    rfl

theorem foldl_crc32Byte (bytes : List UInt8) (crc : UInt32) :
    bytes.foldl crc32Byte crc = (bits bytes).foldl crcStep crc := by
  induction bytes generalizing crc with
  | nil => rfl
  | cons byte rest ih =>
    have hcons : bits (byte :: rest) = bitsOf 8 byte.toNat ++ bits rest := rfl
    have hword : wordOf (bitsOf 8 byte.toNat) = byte.toUInt32 := by
      apply UInt32.toNat_inj.1
      rw [toNat_wordOf (by simp), bitsValue_bitsOf, UInt8.toNat_toUInt32]
      exact Nat.mod_eq_of_lt byte.toNat_lt
    rw [List.foldl_cons, ih, hcons, List.foldl_append, foldl_crcStep _ crc (by simp),
      length_bitsOf, hword]
    rfl

theorem repeat_injective {A : Type} {step : A → A} (h : Function.Injective step) (count : Nat) :
    Function.Injective (Nat.repeat step count) := by
  induction count with
  | zero => exact Function.injective_id
  | succ count ih => exact h.comp ih

/-- A burst never leaves the register as it was. -/
theorem Burst.register_ne {sent received : List UInt8} (h : Burst sent received) (crc : UInt32) :
    received.foldl crc32Byte crc ≠ sent.foldl crc32Byte crc := by
  rcases h.window with ⟨start, houtside⟩
  have hlength : (bits received).length = (bits sent).length := by
    rw [length_bits, length_bits, h.length]
  have hfront : (bits received).take start = (bits sent).take start := by
    apply List.ext_getElem?
    intro index
    by_cases hindex : index < start
    · rw [List.getElem?_take_of_lt hindex, List.getElem?_take_of_lt hindex,
        houtside index (.inl hindex)]
    · rw [List.getElem?_take_eq_none (Nat.le_of_not_lt hindex),
        List.getElem?_take_eq_none (Nat.le_of_not_lt hindex)]
  have hback : ((bits received).drop start).drop 32 = ((bits sent).drop start).drop 32 := by
    apply List.ext_getElem?
    intro index
    rw [List.getElem?_drop, List.getElem?_drop, List.getElem?_drop, List.getElem?_drop]
    exact houtside _ (.inr (by omega))
  have hsplit : ∀ message : List Bool, message =
      message.take start ++ ((message.drop start).take 32 ++ (message.drop start).drop 32) := by
    intro message
    rw [List.take_append_drop, List.take_append_drop]
  intro hsame
  rw [foldl_crc32Byte, foldl_crc32Byte, hsplit (bits received), hsplit (bits sent), hfront, hback,
    List.foldl_append, List.foldl_append, List.foldl_append, List.foldl_append] at hsame
  have hregister := foldl_crcStep_injective _ hsame
  have hshort : ∀ message : List Bool, ((message.drop start).take 32).length ≤ 32 := by
    intro message
    rw [List.length_take]
    exact Nat.min_le_left _ _
  have hwidth : (((bits received).drop start).take 32).length =
      (((bits sent).drop start).take 32).length := by
    rw [List.length_take, List.length_take, List.length_drop, List.length_drop, hlength]
  rw [foldl_crcStep _ _ (hshort _), foldl_crcStep _ _ (hshort _), hwidth] at hregister
  have hword := (UInt32.xor_right_inj _).1 (repeat_injective crc32Bit_injective _ hregister)
  have hvalue : bitsValue (((bits received).drop start).take 32) =
      bitsValue (((bits sent).drop start).take 32) := by
    rw [← toNat_wordOf (hshort _), ← toNat_wordOf (hshort _), hword]
  have hwindow := bitsValue_inj hwidth hvalue
  have hbits : bits received = bits sent := by
    rw [hsplit (bits received), hsplit (bits sent), hfront, hwindow, hback]
  exact h.corrupted (bits_inj h.length hbits)

/-- Behind a message with its checksum, the register is the same for every message. -/
theorem register_checksum (message : List UInt8) :
    (message ++ writeU32 (crc32 message)).foldl crc32Byte 0xFFFFFFFF =
      Nat.repeat crc32Bit 32 0xFFFFFFFF := by
  have hword : wordOf (bits (writeU32 (crc32 message))) = crc32 message := by
    apply UInt32.toNat_inj.1
    rw [toNat_wordOf (by simp), bitsValue_bits, writeU32_eq, leValue_leBytes]
    exact Nat.mod_eq_of_lt (crc32 message).toNat_lt
  have hlength : (bits (writeU32 (crc32 message))).length = 32 := by
    rw [length_bits, length_writeU32]
  rw [List.foldl_append, foldl_crc32Byte (writeU32 _), foldl_crcStep _ _ (Nat.le_of_eq hlength),
    hlength, hword, crc32, ← UInt32.xor_assoc, UInt32.xor_self, UInt32.zero_xor]

/-- A burst on a message with its checksum leaves no message with its checksum. -/
theorem Burst.detected {sent received message other : List UInt8} (h : Burst sent received)
    (hsent : sent = message ++ writeU32 (crc32 message)) :
    received ≠ other ++ writeU32 (crc32 other) := by
  intro hreceived
  apply h.register_ne 0xFFFFFFFF
  rw [hsent, hreceived, register_checksum, register_checksum]

end BmwRemote.Lib
