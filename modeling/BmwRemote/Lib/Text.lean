import Mathlib.Algebra.Group.Nat.Defs
import Mathlib.Data.List.DropRight
import Mathlib.Data.List.TakeWhile

/-! Byte strings, with the functions of the C++ standard library that read numbers and
lines from them. -/
namespace BmwRemote.Lib

/-- The bytes of a `std::string`. -/
abbrev Text := List UInt8

namespace Text

def ascii (text : String) : Text := text.toList.map Char.toUInt8

def newline : UInt8 := 10
def carriageReturn : UInt8 := 13

/-- The lines that `std::getline` yields one after the other: a final newline ends the
last line and begins no other. -/
def lines : Text → List Text
  | [] => []
  | character :: rest =>
    if character = newline then [] :: lines rest
    else
      match lines rest with
      | [] => [[character]]
      | line :: others => (character :: line) :: others

/-- The text before the first separator and the text after it. -/
def cut (separator : UInt8) : Text → Option (Text × Text)
  | [] => none
  | character :: rest =>
    if character = separator then some ([], rest)
    else (cut separator rest).map fun (first, others) => (character :: first, others)

def isSpace (character : UInt8) : Bool :=
  character == 32 || (decide (9 ≤ character) && decide (character ≤ 13))

def words (text : Text) : List Text := (text.splitOnP isSpace).filter fun word => !word.isEmpty

def strip (text : Text) : Text := (text.dropWhile isSpace).rdropWhile isSpace

def digit (base : Nat) (character : UInt8) : Option Nat :=
  let code := character.toNat
  let value :=
    if 48 ≤ code ∧ code ≤ 57 then code - 48
    else if 97 ≤ code ∧ code ≤ 122 then code - 87
    else if 65 ≤ code ∧ code ≤ 90 then code - 55
    else base
  if value < base then some value else none

def isDigit (base : Nat) (character : UInt8) : Bool := (digit base character).isSome

def number (base : Nat) (text : Text) : Option Nat :=
  if text = [] then none
  else text.foldlM (fun value character => (digit base character).map (value * base + ·)) 0

/-- `std::from_chars` into an unsigned 64-bit integer: the value of the longest prefix
that is a number, none without a digit or beyond 64 bits, and the text behind it. -/
def fromChars (base : Nat) (text : Text) : Option UInt64 × Text :=
  let digits := text.takeWhile (isDigit base)
  let parsed := (number base digits).bind fun value =>
    if value < 2 ^ 64 then some (UInt64.ofNat value) else none
  (parsed, text.drop digits.length)

/-! A cut. -/

theorem cut_eq_some_iff {separator : UInt8} {text first rest : Text} :
    cut separator text = some (first, rest) ↔
      text = first ++ separator :: rest ∧ separator ∉ first := by
  induction text generalizing first with
  | nil => simp [cut]
  | cons character text ih =>
    rw [cut]
    split
    · rename_i heq
      subst heq
      constructor
      · intro h
        cases h
        simp
      · rintro ⟨hsplit, hnotin⟩
        cases first with
        | nil => simpa using hsplit
        | cons other first =>
          rw [List.cons_append, List.cons.injEq] at hsplit
          rw [hsplit.1] at hnotin
          simp at hnotin
    · rename_i hne
      simp only [Option.map_eq_some_iff, Prod.mk.injEq]
      constructor
      · rintro ⟨⟨front, back⟩, hcut, rfl, rfl⟩
        obtain ⟨rfl, hnotin⟩ := ih.mp hcut
        refine ⟨rfl, ?_⟩
        rw [List.mem_cons, not_or]
        exact ⟨fun h => hne h.symm, hnotin⟩
      · rintro ⟨hsplit, hnotin⟩
        cases first with
        | nil =>
          rw [List.nil_append, List.cons.injEq] at hsplit
          exact absurd hsplit.1 hne
        | cons other first =>
          rw [List.cons_append, List.cons.injEq] at hsplit
          obtain ⟨rfl, rfl⟩ := hsplit
          rw [List.mem_cons, not_or] at hnotin
          exact ⟨(first, rest), ih.mpr ⟨rfl, hnotin.2⟩, rfl, rfl⟩

/-! A number is read to the end of its text. -/

theorem foldlM_isSome (base value : Nat) (text : Text) :
    (text.foldlM (fun value character => (digit base character).map (value * base + ·))
      value).isSome = text.all (isDigit base) := by
  induction text generalizing value with
  | nil => rfl
  | cons character rest ih =>
    rw [List.foldlM_cons, List.all_cons, isDigit]
    cases hdigit : digit base character with
    | none => rfl
    | some digit => exact ih _

theorem number_isSome_iff (base : Nat) (text : Text) :
    (number base text).isSome = true ↔ text ≠ [] ∧ ∀ character ∈ text, isDigit base character := by
  unfold number
  split
  · simp_all
  · rw [foldlM_isSome, List.all_eq_true]
    simp_all

theorem fromChars_of_number {base value : Nat} {text : Text} (h : number base text = some value) :
    fromChars base text =
      (if value < 2 ^ 64 then some (UInt64.ofNat value) else none, []) := by
  have hdigits : ∀ character ∈ text, isDigit base character :=
    ((number_isSome_iff base text).1 (Option.isSome_of_eq_some h)).2
  have hall : text.takeWhile (isDigit base) = text := List.takeWhile_eq_self_iff.2 hdigits
  unfold fromChars
  dsimp only
  rw [hall, h, List.drop_length]
  rfl

theorem fromChars_rest {base : Nat} {text : Text} (hne : text ≠ [])
    (h : number base text = none) : (fromChars base text).2 ≠ [] := by
  intro hrest
  have hle := List.drop_eq_nil_iff.1 hrest
  have hprefix : text.takeWhile (isDigit base) <+: text := List.takeWhile_prefix _
  have hall : text.takeWhile (isDigit base) = text := hprefix.eq_of_length_le hle
  have hdigits := List.takeWhile_eq_self_iff.1 hall
  have hsome := (number_isSome_iff base text).2 ⟨hne, hdigits⟩
  rw [h] at hsome
  cases hsome

end Text

end BmwRemote.Lib
