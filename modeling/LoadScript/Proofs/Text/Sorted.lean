import LoadScript.Text.Sorted
import Mathlib.Data.List.Basic

set_option autoImplicit false

namespace LoadScript.Text

theorem mem_sort {s : String} {ss : List String} : s ∈ sort ss ↔ s ∈ ss := List.mem_mergeSort

theorem sort_increasing {ss : List String} (nodup : ss.Nodup) : (sort ss).Pairwise (· < ·) := by
  have trans (a b c : String) (ab : (!decide (b < a)) = true) (bc : (!decide (c < b)) = true) :
      (!decide (c < a)) = true := by
    simp only [Bool.not_eq_true', decide_eq_false_iff_not, String.not_lt] at ab bc ⊢
    exact String.le_trans ab bc
  have total (a b : String) : ((!decide (b < a)) || !decide (a < b)) = true := by
    by_cases less : b < a
    · simp [String.lt_asymm less]
    · simp [less]
  have ordered : (sort ss).Pairwise fun a b => (!decide (b < a)) = true :=
    List.pairwise_mergeSort trans total ss
  have distinct : (sort ss).Nodup := (List.mergeSort_perm ss _).nodup_iff.2 nodup
  refine (ordered.and distinct).imp fun {a b} ⟨not_after, other⟩ => ?_
  by_contra not_before
  simp only [Bool.not_eq_true', decide_eq_false_iff_not] at not_after
  exact other (String.le_antisymm (String.not_lt.1 not_after) (String.not_lt.1 not_before))

theorem sort_congr {ss ts : List String} (hs : ss.Nodup) (ht : ts.Nodup)
    (same : ∀ s, s ∈ ss ↔ s ∈ ts) : sort ss = sort ts := by
  have perm : (sort ss).Perm (sort ts) :=
    (List.mergeSort_perm ss _).trans
      (((List.perm_ext_iff_of_nodup hs ht).2 same).trans (List.mergeSort_perm ts _).symm)
  refine perm.eq_of_pairwise ?_ (sort_increasing hs) (sort_increasing ht)
  intro s t _ _ less more
  exact absurd more (String.lt_asymm less)

/-! ## Bytes -/

def bytes (s : String) : List UInt8 := s.toUTF8.data.toList

/-- The bytes of one text come before those of the other, as numbers and from the front. -/
def BytesBefore (s t : List UInt8) : Prop := List.Lex (fun a b => a.toNat < b.toNat) s t

theorem bytes_eq (s : String) : bytes s = s.toList.flatMap String.utf8EncodeChar := by
  have encoded : s.toUTF8 = (s.toList.flatMap String.utf8EncodeChar).toByteArray :=
    String.utf8Encode_toList.symm
  rw [bytes, encoded, List.toList_data_toByteArray]

theorem bytesBefore_cons {a b : Nat} (ha : a < 256) (hb : b < 256) (s t : List UInt8) :
    BytesBefore (UInt8.ofNat a :: s) (UInt8.ofNat b :: t) ↔ a < b ∨ a = b ∧ BytesBefore s t := by
  have numbers : (UInt8.ofNat a).toNat = a ∧ (UInt8.ofNat b).toNat = b := by
    simp [UInt8.toNat_ofNat', Nat.mod_eq_of_lt, ha, hb]
  constructor
  · intro h
    generalize hx : UInt8.ofNat a = x at h numbers
    generalize hy : UInt8.ofNat b = y at h numbers
    cases h with
    | rel less => exact .inl (by omega)
    | cons rest => exact .inr ⟨by omega, rest⟩
  · rintro (less | ⟨rfl, rest⟩)
    · exact .rel (by omega)
    · exact .cons rest

theorem bytesBefore_append {s t : List UInt8} (h : BytesBefore s t) (front : List UInt8) :
    BytesBefore (front ++ s) (front ++ t) := by
  induction front with
  | nil => exact h
  | cons b front ih => exact .cons ih

theorem toNat_lt (c : Char) : c.toNat < 0x110000 := by
  have valid := c.valid
  simp only [UInt32.isValidChar, Nat.isValidChar] at valid
  change c.val.toNat < _
  omega

/-- The encodings of two characters differ before either of them ends. -/
theorem bytesBefore_utf8EncodeChar {c d : Char} (h : c.toNat < d.toNat) (s t : List UInt8) :
    BytesBefore (String.utf8EncodeChar c ++ s) (String.utf8EncodeChar d ++ t) := by
  have bound : d.val.toNat < 0x110000 := toNat_lt d
  change c.val.toNat < d.val.toNat at h
  unfold String.utf8EncodeChar
  generalize c.val.toNat = v at h ⊢
  generalize d.val.toNat = w at h bound ⊢
  have digits (n : Nat) : n / 4096 = n / 64 / 64 ∧ n / 262144 = n / 64 / 64 / 64 := by omega
  simp only [digits]
  -- Encodings of different lengths differ in the first byte, others in the first digit that does.
  split_ifs <;> simp (disch := omega) only [List.cons_append, List.nil_append, bytesBefore_cons] <;>
    omega

theorem bytesBefore_of_lt {s t : String} (h : s < t) : BytesBefore (bytes s) (bytes t) := by
  rw [bytes_eq, bytes_eq]
  change List.Lex (· < ·) s.toList t.toList at h
  generalize s.toList = cs at h ⊢
  generalize t.toList = ds at h ⊢
  induction h with
  | @nil d ds =>
    obtain ⟨b, rest, encoded⟩ := List.exists_cons_of_ne_nil (String.utf8EncodeChar_ne_nil (c := d))
    rw [List.flatMap_cons, encoded]
    exact .nil
  | rel less =>
    rw [List.flatMap_cons, List.flatMap_cons]
    exact bytesBefore_utf8EncodeChar (UInt32.lt_iff_toNat_lt.1 less) _ _
  | cons _ ih =>
    rw [List.flatMap_cons, List.flatMap_cons]
    exact bytesBefore_append ih _

end LoadScript.Text
