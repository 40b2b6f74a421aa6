import Mathlib
import PlaceholderExports.Text.Utf8

/-!
# The order of texts and the order of bytes

Texts are ordered by their characters. UTF-8 keeps this order: the bytes of two different characters
first differ in a byte that is smaller for the smaller character (`utf8EncodeChar_lt`). So comparing
texts is comparing their bytes (`encode_le_iff`).
-/

namespace PlaceholderExports.Text

/-- Bytes that agree up to a place, and are smaller there. -/
def DifferAt (xs ys : Bytes) : Prop :=
  ∃ front x y xs' ys', xs = front ++ x :: xs' ∧ ys = front ++ y :: ys' ∧ x < y

/-- Small numbers are ordered as bytes. -/
lemma uint8_ofNat_lt {m n : Nat} (less : m < n) (small : n < 256) :
    UInt8.ofNat m < UInt8.ofNat n := by
  rw [UInt8.lt_iff_toNat_lt, UInt8.toNat_ofNat', UInt8.toNat_ofNat']
  omega

/-- A smaller leading byte decides. -/
lemma differAt_of_lt {m n : Nat} (xs ys : Bytes) (less : m < n) (small : n < 256) :
    DifferAt (UInt8.ofNat m :: xs) (UInt8.ofNat n :: ys) :=
  ⟨[], _, _, xs, ys, rfl, rfl, uint8_ofNat_lt less small⟩

/-- A smaller leading byte decides, and if it is the same, the bytes after it do. -/
lemma differAt_of_le {m n : Nat} {xs ys : Bytes} (le : m ≤ n) (small : n < 256)
    (after : m = n → DifferAt xs ys) : DifferAt (UInt8.ofNat m :: xs) (UInt8.ofNat n :: ys) := by
  rcases Nat.lt_or_eq_of_le le with less | same
  · exact differAt_of_lt xs ys less small
  · obtain ⟨front, x, y, xs', ys', rfl, rfl, less⟩ := after same
    rw [same]
    exact ⟨_ :: front, x, y, xs', ys', rfl, rfl, less⟩

/-- The bytes of a smaller character are smaller where they first differ. -/
lemma utf8EncodeChar_lt {c d : Char} (h : c < d) :
    DifferAt (String.utf8EncodeChar c) (String.utf8EncodeChar d) := by
  have less : c.val.toNat < d.val.toNat := h
  have bound : d.val.toNat < 0x110000 := by
    have valid := d.valid
    simp only [UInt32.isValidChar, Nat.isValidChar] at valid
    omega
  unfold String.utf8EncodeChar
  generalize c.val.toNat = m at less
  generalize d.val.toNat = n at less bound
  dsimp only
  -- characters of different lengths differ in their leading bytes
  by_cases c₁ : m ≤ 0x7f
  · rw [if_pos c₁]
    split_ifs with d₁ d₂ d₃
    · exact differAt_of_lt _ _ less (by omega)
    · exact differAt_of_lt _ _ (by omega) (by omega)
    · exact differAt_of_lt _ _ (by omega) (by omega)
    · exact differAt_of_lt _ _ (by omega) (by omega)
  rw [if_neg c₁, if_neg (show ¬ n ≤ 0x7f by omega)]
  by_cases c₂ : m ≤ 0x7ff
  · rw [if_pos c₂]
    split_ifs with d₂ d₃
    · refine differAt_of_le (by omega) (by omega) fun same => ?_
      exact differAt_of_lt _ _ (by omega) (by omega)
    · exact differAt_of_lt _ _ (by omega) (by omega)
    · exact differAt_of_lt _ _ (by omega) (by omega)
  rw [if_neg c₂, if_neg (show ¬ n ≤ 0x7ff by omega)]
  by_cases c₃ : m ≤ 0xffff
  · rw [if_pos c₃]
    split_ifs with d₃
    · refine differAt_of_le (by omega) (by omega) fun same => ?_
      refine differAt_of_le (by omega) (by omega) fun same' => ?_
      exact differAt_of_lt _ _ (by omega) (by omega)
    · exact differAt_of_lt _ _ (by omega) (by omega)
  rw [if_neg c₃, if_neg (show ¬ n ≤ 0xffff by omega)]
  refine differAt_of_le (by omega) (by omega) fun same => ?_
  refine differAt_of_le (by omega) (by omega) fun same' => ?_
  refine differAt_of_le (by omega) (by omega) fun same'' => ?_
  exact differAt_of_lt _ _ (by omega) (by omega)

/-- Bytes that are smaller where they first differ are smaller, whatever follows. -/
lemma DifferAt.lt_append {xs ys : Bytes} (h : DifferAt xs ys) (xs' ys' : Bytes) :
    xs ++ xs' < ys ++ ys' := by
  obtain ⟨front, x, y, xs, ys, rfl, rfl, less⟩ := h
  rw [List.append_assoc, List.append_assoc]
  exact List.append_left_lt (.rel less)

/-- Characters that are smaller where they first differ have smaller bytes. -/
lemma flatMap_utf8EncodeChar_lt {cs ds : List Char} (h : cs < ds) :
    cs.flatMap String.utf8EncodeChar < ds.flatMap String.utf8EncodeChar := by
  induction h with
  | @nil d ds =>
    obtain ⟨b, bs, bytes⟩ := List.exists_cons_of_ne_nil (@String.utf8EncodeChar_ne_nil d)
    rw [List.flatMap_cons, bytes]
    exact .nil
  | rel less => exact (utf8EncodeChar_lt less).lt_append _ _
  | cons _ ih => exact List.append_left_lt ih

/-- Sorting by texts puts the texts in ascending order. -/
lemma pairwise_mergeSort {α : Type} (text : α → String) (as : List α) :
    (as.mergeSort fun a b => decide (text a ≤ text b)).Pairwise fun a b => text a ≤ text b := by
  have sorted : (as.mergeSort fun a b => decide (text a ≤ text b)).Pairwise fun a b =>
      decide (text a ≤ text b) = true := by
    apply List.pairwise_mergeSort
    · intro a b c first second
      exact decide_eq_true ((of_decide_eq_true first).trans (of_decide_eq_true second))
    · intro a b
      rw [Bool.or_eq_true]
      exact (le_total (text a) (text b)).imp decide_eq_true decide_eq_true
  exact sorted.imp of_decide_eq_true

/-- A smaller text has smaller bytes. -/
lemma encode_lt {s t : String} (h : s < t) : encode s < encode t := flatMap_utf8EncodeChar_lt h

/-- The order of texts is that of their bytes. -/
theorem encode_le_iff {s t : String} : encode s ≤ encode t ↔ s ≤ t := by
  constructor
  · intro le
    by_contra h
    exact le (encode_lt (not_le.1 h))
  · intro le
    rcases le.lt_or_eq with less | rfl
    · exact List.le_of_lt (encode_lt less)
    · exact List.le_refl _

end PlaceholderExports.Text
