import BmwRemote.Lib.Text

/-! What a program writes of numbers and lines, and how it is read back. -/
namespace BmwRemote.Lib.Text

def decimal (value : Nat) : Text := (Nat.toDigits 10 value).map Char.toUInt8

def unlines (lines : List Text) : Text := lines.flatMap (· ++ [newline])

/-- There is text, and none of it is white space. -/
def Solid (text : Text) : Prop := text ≠ [] ∧ ∀ character ∈ text, isSpace character = false

/-! Numbers. -/

theorem number_concat {base value last : Nat} {text : Text} {character : UInt8}
    (htext : number base text = some value) (hlast : digit base character = some last) :
    number base (text ++ [character]) = some (value * base + last) := by
  unfold number at htext ⊢
  split at htext
  · cases htext
  · rw [if_neg (by simp), List.foldlM_append, htext]
    simp [hlast]

theorem number_singleton {base last : Nat} {character : UInt8}
    (h : digit base character = some last) : number base [character] = some last := by
  simp [number, h]

theorem number_toDigits {base : Nat} {write : Char → UInt8} (hbase : 1 < base)
    (hwrites : ∀ value < base, digit base (write value.digitChar) = some value) (value : Nat) :
    number base ((Nat.toDigits base value).map write) = some value := by
  induction value using Nat.strongRecOn with
  | ind value ih =>
    rw [Nat.toDigits_eq_if hbase]
    split
    · rename_i hlt
      exact number_singleton (hwrites value hlt)
    · rename_i hge
      have hlt := Nat.mod_lt value (Nat.lt_trans Nat.zero_lt_one hbase)
      have hrest := ih (value / base) (Nat.div_lt_self (by omega) hbase)
      rw [List.map_append, List.map_singleton, number_concat hrest (hwrites _ hlt),
        Nat.div_add_mod']

theorem forall_toDigits {base : Nat} {P : Char → Prop} (hbase : 1 < base)
    (hdigit : ∀ value < base, P value.digitChar) (value : Nat) :
    ∀ character ∈ Nat.toDigits base value, P character := by
  induction value using Nat.strongRecOn with
  | ind value ih =>
    rw [Nat.toDigits_eq_if hbase]
    split
    · rename_i hlt
      exact List.forall_mem_singleton.mpr (hdigit value hlt)
    · rename_i hge
      have hrest := ih (value / base) (Nat.div_lt_self (by omega) hbase)
      have hlast := hdigit (value % base) (Nat.mod_lt value (Nat.lt_trans Nat.zero_lt_one hbase))
      exact List.forall_mem_append.mpr ⟨hrest, List.forall_mem_singleton.mpr hlast⟩

theorem number_decimal (value : Nat) : number 10 (decimal value) = some value :=
  number_toDigits (by decide) (by decide) value

/-! Lines. -/

theorem lines_terminated {line : Text} (h : newline ∉ line) (rest : Text) :
    lines (line ++ newline :: rest) = line :: lines rest := by
  induction line with
  | nil => rw [List.nil_append, lines, if_pos rfl]
  | cons character line ih =>
    rw [List.mem_cons, not_or] at h
    rw [List.cons_append, lines, if_neg fun heq => h.1 heq.symm, ih h.2]

theorem lines_unlines {written : List Text} (h : ∀ line ∈ written, newline ∉ line) :
    lines (unlines written) = written := by
  induction written with
  | nil => rfl
  | cons line written ih =>
    rw [List.forall_mem_cons] at h
    rw [unlines, List.flatMap_cons, List.append_assoc]
    exact (lines_terminated h.1 _).trans (congrArg _ (ih h.2))

/-! White space at the ends. -/

theorem strip_solid {text : Text} (h : Solid text) : strip text = text := by
  have hfirst : text.dropWhile isSpace = text := by
    rw [List.dropWhile_eq_self_iff]
    intro hpos hspace
    rw [h.2 _ (List.getElem_mem hpos)] at hspace
    cases hspace
  unfold strip
  rw [hfirst, List.rdropWhile_eq_self_iff]
  intro hne hspace
  rw [h.2 _ (List.getLast_mem hne)] at hspace
  cases hspace

end BmwRemote.Lib.Text
