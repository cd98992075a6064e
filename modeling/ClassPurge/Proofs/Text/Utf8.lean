import ClassPurge.Text.Utf8
import Mathlib.Tactic.Common

/-!
The bytes that spell a text are read back as that text.
-/

namespace ClassPurge.Bytes

open String (utf8EncodeChar)

lemma toList_loop_eq (b : ByteArray) (i : Nat) (r : List UInt8) :
    ByteArray.toList.loop b i r = r.reverse ++ b.data.toList.drop i := by
  fun_induction ByteArray.toList.loop b i r with
  | case1 i r h ih =>
    have hlt : i < b.data.toList.length := by simpa using h
    rw [ih, List.reverse_cons, List.append_assoc, List.drop_eq_getElem_cons hlt]
    congr 2
    simp [ByteArray.get!, h]
  | case2 i r h =>
    have hle : b.data.toList.length ≤ i := by simpa using h
    rw [List.drop_eq_nil_of_le hle, List.append_nil]

lemma ofText_eq (t : Text) : ofText t = t.flatMap utf8EncodeChar := by
  rw [ofText, ByteArray.toList, toList_loop_eq]
  exact List.toList_data_toByteArray

/-! ### One character -/

section

variable {b : UInt8} {v count part n pos : Nat} {r s : Bytes}

lemma decodeFrom_cons (hlead : lead? b = some (count, part))
    (hfollow : follow part (secondRange b).1 (secondRange b).2 1 count r = .ok (n, s)) :
    decodeFrom pos (b :: r) = (decodeFrom (pos + count + 1) s).map (Char.ofNat n :: ·) := by
  rw [decodeFrom, hlead]
  dsimp only
  split
  · rename_i h; rw [hfollow] at h; cases h
  · rename_i h; rw [hfollow] at h; cases h
  · rename_i h
    rw [hfollow] at h
    cases h
    rfl

lemma follow_cons {acc lo hi good d : Nat} (hd : d < 64) (h : lo ≤ d + 0x80 ∧ d + 0x80 ≤ hi) :
    follow acc lo hi good (count + 1) (UInt8.ofNat (d + 0x80) :: r) =
      follow (acc * 64 + d) 0x80 0xbf (good + 1) count r := by
  have hbyte : (UInt8.ofNat (d + 0x80)).toNat = d + 0x80 :=
    UInt8.toNat_ofNat_of_lt' (show d + 0x80 < 256 by omega)
  rw [follow, hbyte, if_pos h, Nat.add_sub_cancel]

lemma lead?_one (hb : b.toNat = v) (h : v < 0x80) : lead? b = some (0, v) := by
  rw [lead?, hb, if_pos h]

lemma lead?_two (hb : b.toNat = v / 64 + 0xc0) (h : 0x80 ≤ v) (h' : v < 0x800) :
    lead? b = some (1, v / 64) := by
  rw [lead?, hb, if_neg (by omega), if_neg (by omega), if_pos (by omega), Nat.add_sub_cancel]

lemma lead?_three (hb : b.toNat = v / 4096 + 0xe0) (h' : v < 0x10000) :
    lead? b = some (2, v / 4096) := by
  rw [lead?, hb, if_neg (by omega), if_neg (by omega), if_neg (by omega), if_pos (by omega),
    Nat.add_sub_cancel]

lemma lead?_four (hb : b.toNat = v / 262144 + 0xf0) (h' : v < 0x110000) :
    lead? b = some (3, v / 262144) := by
  rw [lead?, hb, if_neg (by omega), if_neg (by omega), if_neg (by omega), if_neg (by omega),
    if_pos (by omega), Nat.add_sub_cancel]

lemma secondRange_two (hb : b.toNat < 0xe0) : secondRange b = (0x80, 0xbf) := by
  rw [secondRange]
  split <;> first | rfl | omega

lemma secondRange_three (hb : b.toNat = v / 4096 + 0xe0) (h : 0x800 ≤ v) (h' : v < 0x10000)
    (hv : v < 0xd800 ∨ 0xdfff < v) :
    (secondRange b).1 ≤ v / 64 % 64 + 0x80 ∧ v / 64 % 64 + 0x80 ≤ (secondRange b).2 := by
  rw [secondRange]
  split <;> dsimp only <;> omega

lemma secondRange_four (hb : b.toNat = v / 262144 + 0xf0) (h : 0x10000 ≤ v) (h' : v < 0x110000) :
    (secondRange b).1 ≤ v / 4096 % 64 + 0x80 ∧ v / 4096 % 64 + 0x80 ≤ (secondRange b).2 := by
  rw [secondRange]
  split <;> dsimp only <;> omega

end

lemma decodeFrom_utf8EncodeChar (c : Char) (pos : Nat) (bs : Bytes) :
    decodeFrom pos (utf8EncodeChar c ++ bs) =
      (decodeFrom (pos + (utf8EncodeChar c).length) bs).map (c :: ·) := by
  obtain ⟨v, hv⟩ : ∃ v, v = c.toNat := ⟨_, rfl⟩
  have hc : Char.ofNat v = c := by rw [hv, Char.ofNat_toNat]
  have hvalid : v < 0xd800 ∨ 0xdfff < v ∧ v < 0x110000 := hv ▸ c.valid
  have hbyte {n : Nat} (h : n < 256) : (UInt8.ofNat n).toNat = n := UInt8.toNat_ofNat_of_lt' h
  have hmod : v % 64 < 64 ∧ v / 64 % 64 < 64 ∧ v / 4096 % 64 < 64 := by omega
  rw [utf8EncodeChar, show c.val.toNat = v from hv.symm]
  -- The cases are the numbers of bytes, from one to four.
  split
  · have hb := hbyte (n := v) (by omega)
    rw [List.cons_append, decodeFrom_cons (lead?_one hb (by omega)) rfl, hc]
    rfl
  split
  · have hb : (UInt8.ofNat (v / 64 % 32 + 192)).toNat = v / 64 + 0xc0 := by
      rw [hbyte (by omega)]; omega
    rw [List.cons_append, decodeFrom_cons (n := v) (s := bs) (lead?_two hb (by omega) (by omega)),
      hc]
    · rfl
    · rw [secondRange_two (by omega), List.cons_append, follow_cons hmod.1 (by omega),
        Nat.div_add_mod']
      rfl
  split
  · have hb : (UInt8.ofNat (v / 4096 % 16 + 224)).toNat = v / 4096 + 0xe0 := by
      rw [hbyte (by omega)]; omega
    rw [List.cons_append, decodeFrom_cons (n := v) (s := bs) (lead?_three hb (by omega)), hc]
    · rfl
    · rw [List.cons_append, follow_cons hmod.2.1 (secondRange_three hb (by omega) (by omega)
        (by omega)), List.cons_append, follow_cons hmod.1 (by omega)]
      rw [show (v / 4096 * 64 + v / 64 % 64) * 64 + v % 64 = v by omega]
      rfl
  · have hb : (UInt8.ofNat (v / 262144 % 8 + 240)).toNat = v / 262144 + 0xf0 := by
      rw [hbyte (by omega)]; omega
    rw [List.cons_append, decodeFrom_cons (n := v) (s := bs) (lead?_four hb (by omega)), hc]
    · rfl
    · rw [List.cons_append, follow_cons hmod.2.2 (secondRange_four hb (by omega) (by omega)),
        List.cons_append, follow_cons hmod.2.1 (by omega), List.cons_append,
        follow_cons hmod.1 (by omega)]
      rw [show ((v / 262144 * 64 + v / 4096 % 64) * 64 + v / 64 % 64) * 64 + v % 64 = v by omega]
      rfl

/-- **What spells a text is read back as the text.** -/
theorem decode_ofText (t : Text) : (ofText t).decode = .ok t := by
  have hfrom (pos : Nat) : decodeFrom pos (t.flatMap utf8EncodeChar) = .ok t := by
    induction t generalizing pos with
    | nil => rw [List.flatMap_nil, decodeFrom]
    | cons c t ih =>
      rw [List.flatMap_cons, decodeFrom_utf8EncodeChar, ih]
      rfl
  rw [ofText_eq, decode, hfrom]

end ClassPurge.Bytes
