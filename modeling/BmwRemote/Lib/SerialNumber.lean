import Mathlib.Algebra.Group.Nat.Defs
import Mathlib.Data.List.Chain
import Mathlib.Data.Nat.Basic

/-! Serial numbers on 32 bits: times and counters that wrap, ordered by which of
the two lies less than half the range ahead of the other. -/
namespace BmwRemote.Lib

def halfCounterRange : UInt32 := 0x80000000

def strictlyNewer (candidate previous : UInt32) : Bool :=
  let distance := candidate - previous
  distance != 0 && decide (distance < halfCounterRange)

theorem strictlyNewer_iff (candidate previous : UInt32) :
    strictlyNewer candidate previous = true ↔
      0 < (candidate - previous).toNat ∧ (candidate - previous).toNat < halfCounterRange.toNat := by
  unfold strictlyNewer
  rw [Bool.and_eq_true, bne_iff_ne, decide_eq_true_eq, UInt32.lt_iff_toNat_lt, ne_eq,
    ← UInt32.toNat_inj, Nat.pos_iff_ne_zero]
  rfl

theorem toNat_ofNat_sub {earlier later : Nat} (h : earlier ≤ later) :
    (UInt32.ofNat later - UInt32.ofNat earlier).toNat = (later - earlier) % UInt32.size := by
  rw [UInt32.toNat_sub, UInt32.toNat_ofNat', UInt32.toNat_ofNat']
  simp only [UInt32.size]
  omega

theorem ofNat_eq_iff {earlier later : Nat} (h : earlier ≤ later) :
    UInt32.ofNat later = UInt32.ofNat earlier ↔ (later - earlier) % UInt32.size = 0 := by
  rw [← UInt32.toNat_inj, UInt32.toNat_ofNat', UInt32.toNat_ofNat']
  simp only [UInt32.size]
  omega

theorem strictlyNewer_ofNat_iff {earlier later : Nat} (h : earlier ≤ later) :
    strictlyNewer (UInt32.ofNat later) (UInt32.ofNat earlier) = true ↔
      0 < (later - earlier) % UInt32.size ∧
        (later - earlier) % UInt32.size < halfCounterRange.toNat := by
  rw [strictlyNewer_iff, toNat_ofNat_sub h]

theorem strictlyNewer_add_iff (word : UInt32) (distance : Nat) :
    strictlyNewer (word + UInt32.ofNat distance) word = true ↔
      0 < distance % UInt32.size ∧ distance % UInt32.size < halfCounterRange.toNat := by
  rw [strictlyNewer_iff, UInt32.add_comm, UInt32.add_sub_cancel, UInt32.toNat_ofNat']

/-- A clock that never goes back passes the check for regressions exactly while it
is less than half the range ahead, whole ranges apart. -/
theorem regressed_ofNat_iff {earlier later : Nat} (h : earlier ≤ later) :
    (UInt32.ofNat later != UInt32.ofNat earlier &&
      !strictlyNewer (UInt32.ofNat later) (UInt32.ofNat earlier)) = false ↔
      (later - earlier) % UInt32.size < halfCounterRange.toNat := by
  have hnewer := strictlyNewer_ofNat_iff h
  have hequal := ofNat_eq_iff h
  have hhalf : halfCounterRange.toNat = 2147483648 := rfl
  rw [Bool.and_eq_false_iff, bne_eq_false_iff_eq, Bool.not_eq_false', hequal, hnewer]
  omega

theorem sub_add_eq (word first second : UInt32) :
    word - (first + second) = word - first - second := by
  rw [UInt32.sub_eq_iff_eq_add, UInt32.add_comm first, ← UInt32.add_assoc, UInt32.sub_add_cancel,
    UInt32.sub_add_cancel]

theorem toNat_add_of_fits {word distance : UInt32} (h : word.toNat + distance.toNat < 2 ^ 32) :
    (word + distance).toNat = word.toNat + distance.toNat := by
  rw [UInt32.toNat_add, Nat.mod_eq_of_lt h]

theorem eq_or_strictlyNewer {earlier later : UInt32} (h : earlier ≤ later)
    (hnear : later.toNat < earlier.toNat + halfCounterRange.toNat) :
    later = earlier ∨ strictlyNewer later earlier = true := by
  have hle := UInt32.le_iff_toNat_le.1 h
  rw [strictlyNewer_iff, UInt32.toNat_sub_of_le _ _ h, ← UInt32.toNat_inj]
  omega

/-- How far a list of words moves forward in all, whole ranges included. -/
def advance : List UInt32 → Nat
  | first :: second :: rest => (second - first).toNat + advance (second :: rest)
  | _ => 0

theorem ahead_of_mem {first word : UInt32} {rest : List UInt32}
    (hchain : (first :: rest).IsChain fun previous candidate => strictlyNewer candidate previous)
    (hmem : word ∈ rest) :
    ∃ distance, 0 < distance ∧ distance ≤ advance (first :: rest) ∧
      word = first + UInt32.ofNat distance := by
  induction rest generalizing first with
  | nil => cases hmem
  | cons second rest ih =>
    rw [List.isChain_cons_cons] at hchain
    have hstep := (strictlyNewer_iff second first).1 hchain.1
    have hsecond : second = first + UInt32.ofNat (second - first).toNat := by
      rw [UInt32.ofNat_toNat, UInt32.add_comm, UInt32.sub_add_cancel]
    rw [advance]
    rcases List.mem_cons.1 hmem with rfl | hlater
    · exact ⟨_, hstep.1, Nat.le_add_right _ _, hsecond⟩
    · obtain ⟨distance, hpositive, hle, hword⟩ := ih hchain.2 hlater
      refine ⟨(second - first).toNat + distance, by omega, by omega, ?_⟩
      rw [UInt32.ofNat_add, ← UInt32.add_assoc, ← hsecond, hword]

/-- A chain that moves on by less than one range does not come back to a word. -/
theorem nodup_of_advance_lt {words : List UInt32}
    (hchain : words.IsChain fun previous candidate => strictlyNewer candidate previous)
    (hadvance : advance words < UInt32.size) : words.Nodup := by
  induction words with
  | nil => exact List.nodup_nil
  | cons first rest ih =>
    rw [List.nodup_cons]
    constructor
    · intro hmem
      obtain ⟨distance, hpositive, hle, hword⟩ := ahead_of_mem hchain hmem
      have hzero : UInt32.ofNat distance = 0 := UInt32.add_eq_left.1 hword.symm
      rw [← UInt32.toNat_inj, UInt32.toNat_ofNat_of_lt' (by omega)] at hzero
      exact absurd hzero (by simpa using Nat.ne_of_gt hpositive)
    · apply ih hchain.tail
      cases rest with
      | nil => exact Nat.zero_lt_succ _
      | cons second rest =>
        rw [advance] at hadvance
        omega

end BmwRemote.Lib
