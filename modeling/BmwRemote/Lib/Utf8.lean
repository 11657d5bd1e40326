import BmwRemote.Lib.Text
import Mathlib.Tactic.SplitIfs

/-! Texts of characters and the bytes that UTF-8 makes of them. A byte below 128 stands for
itself and is part of no other character, so that what is plain ASCII is found in the bytes
where it is in the text. -/
namespace BmwRemote.Lib

def utf8 (text : List Char) : Text := text.flatMap String.utf8EncodeChar

def isAscii (character : Char) : Bool := decide (character.toNat < 128)

@[simp] theorem utf8_nil : utf8 [] = [] := rfl

@[simp] theorem utf8_cons (character : Char) (rest : List Char) :
    utf8 (character :: rest) = String.utf8EncodeChar character ++ utf8 rest := rfl

@[simp] theorem utf8_append (left right : List Char) :
    utf8 (left ++ right) = utf8 left ++ utf8 right := List.flatMap_append

theorem utf8_injective : Function.Injective utf8 := by
  intro left right h
  have hencode : left.utf8Encode = right.utf8Encode := congrArg List.toByteArray h
  have hdecode := congrArg ByteArray.utf8Decode? hencode
  rw [List.utf8Decode?_utf8Encode, List.utf8Decode?_utf8Encode] at hdecode
  simpa using hdecode

theorem utf8EncodeChar_ascii {character : Char} (h : isAscii character = true) :
    String.utf8EncodeChar character = [character.toUInt8] := by
  have hsmall : character.toNat < 128 := of_decide_eq_true h
  have hvalue : character.val.toNat ≤ 0x7f := by
    rw [Char.toNat] at hsmall
    omega
  unfold String.utf8EncodeChar
  exact if_pos hvalue

theorem utf8EncodeChar_high {character : Char} (h : isAscii character = false) :
    ∀ byte ∈ String.utf8EncodeChar character, 128 ≤ byte := by
  intro byte hmem
  have hlarge : ¬ character.toNat < 128 := of_decide_eq_false h
  have hvalue : ¬ character.val.toNat ≤ 0x7f := by
    rw [Char.toNat] at hlarge
    omega
  unfold String.utf8EncodeChar at hmem
  dsimp only at hmem
  rw [if_neg hvalue] at hmem
  split_ifs at hmem <;> simp only [List.mem_cons, List.not_mem_nil, or_false] at hmem <;>
    rcases hmem with rfl | rfl | rfl | rfl <;> rw [UInt8.le_iff_toNat_le] <;> simp <;> omega

theorem utf8_ascii {text : List Char} (h : ∀ character ∈ text, isAscii character = true) :
    utf8 text = text.map Char.toUInt8 := by
  induction text with
  | nil => rfl
  | cons character rest ih =>
    rw [List.forall_mem_cons] at h
    rw [utf8_cons, utf8EncodeChar_ascii h.1, ih h.2]
    rfl

theorem toUInt8_lt {character : Char} (h : isAscii character = true) :
    character.toUInt8.toNat = character.toNat := by
  have hsmall : character.toNat < 128 := of_decide_eq_true h
  rw [Char.toNat] at hsmall ⊢
  rw [Char.toUInt8, UInt32.toNat_toUInt8]
  omega

/-- A property that only ASCII has is one of all bytes when it is one of all characters. -/
theorem forall_utf8_iff {ofByte : UInt8 → Prop} {ofChar : Char → Prop}
    (hbyte : ∀ byte, ofByte byte → byte < 128)
    (hchar : ∀ character, ofChar character ↔ isAscii character = true ∧ ofByte character.toUInt8)
    (text : List Char) : (∀ byte ∈ utf8 text, ofByte byte) ↔ ∀ character ∈ text, ofChar character := by
  induction text with
  | nil => simp
  | cons character rest ih =>
    rw [utf8_cons, List.forall_mem_append, ih, List.forall_mem_cons, hchar]
    cases hascii : isAscii character with
    | true =>
      rw [utf8EncodeChar_ascii hascii]
      simp
    | false =>
      have hnone : ¬ ∀ byte ∈ String.utf8EncodeChar character, ofByte byte := by
        intro hall
        obtain ⟨byte, hmem⟩ := List.exists_mem_of_ne_nil _ (@String.utf8EncodeChar_ne_nil character)
        have hsmall := hbyte byte (hall byte hmem)
        have hlarge := utf8EncodeChar_high hascii byte hmem
        exact absurd hsmall (UInt8.not_lt.mpr hlarge)
      simp [hnone]

theorem ascii_of_utf8 {text : List Char} (h : ∀ byte ∈ utf8 text, byte < 128) :
    ∀ character ∈ text, isAscii character = true := by
  refine (forall_utf8_iff (fun _ => id) (fun character => ?_) text).mp h
  refine ⟨fun hascii => ⟨hascii, ?_⟩, And.left⟩
  rw [UInt8.lt_iff_toNat_lt, toUInt8_lt hascii]
  exact of_decide_eq_true hascii

theorem length_utf8 {text : List Char} (h : ∀ character ∈ text, isAscii character = true) :
    (utf8 text).length = text.length := by
  rw [utf8_ascii h, List.length_map]

theorem toNat_ofNat : ∀ code < 128, (Char.ofNat code).toNat = code := by decide

theorem exists_utf8 {bytes : Text} (h : ∀ byte ∈ bytes, byte < 128) :
    ∃ text, utf8 text = bytes := by
  induction bytes with
  | nil => exact ⟨[], rfl⟩
  | cons byte bytes ih =>
    rw [List.forall_mem_cons] at h
    obtain ⟨rest, hrest⟩ := ih h.2
    have hnat := toNat_ofNat byte.toNat (UInt8.lt_iff_toNat_lt.mp h.1)
    have hascii : isAscii (Char.ofNat byte.toNat) = true :=
      decide_eq_true (by rw [hnat]; exact UInt8.lt_iff_toNat_lt.mp h.1)
    have hbyte : (Char.ofNat byte.toNat).toUInt8 = byte :=
      UInt8.toNat_inj.mp ((toUInt8_lt hascii).trans hnat)
    refine ⟨Char.ofNat byte.toNat :: rest, ?_⟩
    rw [utf8_cons, utf8EncodeChar_ascii hascii, hrest, hbyte]
    rfl

end BmwRemote.Lib
