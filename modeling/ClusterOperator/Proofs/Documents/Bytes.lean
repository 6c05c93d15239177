import ClusterOperator.Text.Base64

/-!
# Bytes read back what is written

The base 64 text of a list of bytes is read as the same bytes. Every letter stands for its six
bits, and the groups of the text are the groups of the bytes.

## Main results

* `Base64.bits?_letter`: a letter stands for its six bits.
* `Base64.decode_encode`: the text of a list of bytes is read back.
-/

namespace ClusterOperator

namespace Base64

/-! ### The codes of a text -/

private theorem toList_loop (bytes : ByteArray) (k : Nat) :
    ∀ (i : Nat) (read : List UInt8), bytes.size - i = k →
      ByteArray.toList.loop bytes i read = read.reverse ++ bytes.data.toList.drop i := by
  induction k with
  | zero =>
    intro i read hk
    have hge : bytes.data.toList.length ≤ i := by
      have : bytes.data.toList.length = bytes.size := rfl
      omega
    rw [ByteArray.toList.loop, if_neg (by omega), List.drop_of_length_le hge, List.append_nil]
  | succ k ih =>
    intro i read hk
    have hlt : i < bytes.size := by omega
    have hlt' : i < bytes.data.toList.length := hlt
    have hget : bytes.get! i = bytes.data.toList[i] := by
      show bytes.data[i]! = _
      rw [getElem!_pos bytes.data i hlt, Array.getElem_toList]
    rw [ByteArray.toList.loop, if_pos hlt, ih (i + 1) _ (by omega), List.drop_eq_getElem_cons hlt',
      hget]
    simp

private theorem toList_eq (bytes : ByteArray) : bytes.toList = bytes.data.toList :=
  (toList_loop bytes bytes.size 0 [] rfl).trans (by simp)

/-- The bytes of a text of ASCII are the codes of its characters. -/
theorem codes_ofList {cs : List Char} (ascii : ∀ c ∈ cs, c.toNat < 128) :
    (String.ofList cs).toUTF8.toList.map (·.toNat) = cs.map Char.toNat := by
  rw [String.toUTF8_eq_toByteArray, String.toByteArray_ofList, toList_eq, List.utf8Encode,
    List.toList_data_toByteArray]
  induction cs with
  | nil => rfl
  | cons c cs ih =>
    obtain ⟨hc, hcs⟩ := List.forall_mem_cons.mp ascii
    have hle : c.val.toNat ≤ 127 := Nat.le_of_lt_succ hc
    have hbytes : String.utf8EncodeChar c = [UInt8.ofNat c.toNat] := if_pos hle
    rw [List.flatMap_cons, hbytes, List.map_append, ih hcs, List.map_cons]
    simp only [List.map_cons, List.map_nil, List.cons_append, List.nil_append, UInt8.toNat_ofNat']
    rw [Nat.mod_eq_of_lt (by omega)]

/-! ### Letters -/

private theorem letter_facts : ∀ n : Fin 64, bits? (letter n.val).toNat = some n.val ∧
    (letter n.val).toNat ≠ padding ∧ (letter n.val).toNat < 128 := by
  decide

/-- A letter stands for its six bits. -/
theorem bits?_letter {n : Nat} (h : n < 64) : bits? (letter n).toNat = some n :=
  (letter_facts ⟨n, h⟩).1

theorem letter_ne_padding {n : Nat} (h : n < 64) : (letter n).toNat ≠ padding :=
  (letter_facts ⟨n, h⟩).2.1

theorem letter_lt {n : Nat} (h : n < 64) : (letter n).toNat < 128 :=
  (letter_facts ⟨n, h⟩).2.2

theorem inner_letter (offset : Nat) {n : Nat} (h : n < 64) :
    inner offset (letter n).toNat = .ok n := by
  rw [inner, bits?_letter h]

/-- A letter of the last group that no padding precedes is taken with its bits. -/
theorem lastGroup_letter {n : Nat} (h : n < 64) (offset i : Nat) (letters : List (Nat × Nat))
    (rest : List Nat) :
    lastGroup offset i letters 0 ((letter n).toNat :: rest) =
      lastGroup offset (i + 1) ((n, (letter n).toNat) :: letters) 0 rest := by
  rw [lastGroup, if_neg (letter_ne_padding h), if_neg (by decide), bits?_letter h]

theorem lastGroup_padding {i : Nat} (h : ¬ i < 2) (offset pads : Nat)
    (letters : List (Nat × Nat)) (rest : List Nat) :
    lastGroup offset i letters pads (padding :: rest) =
      lastGroup offset (i + 1) letters (pads + 1) rest := by
  rw [lastGroup, if_pos rfl, if_neg h]

/-! ### The last group -/

/-- A last group of one byte. -/
theorem decodeLast_two (offset : Nat) {x y : Nat} (hx : x < 64) (hy : y < 64) (h : y % 16 = 0) :
    decodeLast offset [(letter x).toNat, (letter y).toNat, padding, padding] =
      .ok [UInt8.ofNat (x * 4 + y / 16)] := by
  rw [decodeLast, lastGroup_letter hx, lastGroup_letter hy, lastGroup_padding (by omega),
    lastGroup_padding (by omega)]
  simp [lastGroup, bind, Except.bind, pure, Except.pure, h]

/-- A last group of two bytes. -/
theorem decodeLast_three (offset : Nat) {x y z : Nat} (hx : x < 64) (hy : y < 64) (hz : z < 64)
    (h : z % 4 = 0) :
    decodeLast offset [(letter x).toNat, (letter y).toNat, (letter z).toNat, padding] =
      .ok [UInt8.ofNat (x * 4 + y / 16), UInt8.ofNat (y % 16 * 16 + z / 4)] := by
  rw [decodeLast, lastGroup_letter hx, lastGroup_letter hy, lastGroup_letter hz,
    lastGroup_padding (by omega)]
  simp [lastGroup, bind, Except.bind, pure, Except.pure, h]

/-- A last group of three bytes. -/
theorem decodeLast_four (offset : Nat) {x y z w : Nat} (hx : x < 64) (hy : y < 64) (hz : z < 64)
    (hw : w < 64) :
    decodeLast offset
        [(letter x).toNat, (letter y).toNat, (letter z).toNat, (letter w).toNat] =
      .ok [UInt8.ofNat (x * 4 + y / 16), UInt8.ofNat (y % 16 * 16 + z / 4),
        UInt8.ofNat (z % 4 * 64 + w)] := by
  rw [decodeLast, lastGroup_letter hx, lastGroup_letter hy, lastGroup_letter hz,
    lastGroup_letter hw]
  simp [lastGroup, bind, Except.bind, pure, Except.pure]

/-! ### Groups -/

private theorem ofNat_eq {n : Nat} {b : UInt8} (h : n = b.toNat) : UInt8.ofNat n = b := by
  rw [h, UInt8.ofNat_toNat]

theorem encodeBytes_ascii : ∀ {bytes : List UInt8}, ∀ c ∈ encodeBytes bytes, c.toNat < 128
  | [], _, h => by cases h
  | [a], c, h => by
    have ha := a.toNat_lt
    simp only [encodeBytes, List.mem_cons, List.not_mem_nil, or_false] at h
    rcases h with rfl | rfl | rfl | rfl
    · exact letter_lt (by omega)
    · exact letter_lt (by omega)
    · decide
    · decide
  | [a, b], c, h => by
    have ha := a.toNat_lt
    have hb := b.toNat_lt
    simp only [encodeBytes, List.mem_cons, List.not_mem_nil, or_false] at h
    rcases h with rfl | rfl | rfl | rfl
    · exact letter_lt (by omega)
    · exact letter_lt (by omega)
    · exact letter_lt (by omega)
    · decide
  | a :: b :: d :: rest, c, h => by
    have ha := a.toNat_lt
    have hb := b.toNat_lt
    have hd := d.toNat_lt
    simp only [encodeBytes, List.mem_cons] at h
    rcases h with rfl | rfl | rfl | rfl | h
    · exact letter_lt (by omega)
    · exact letter_lt (by omega)
    · exact letter_lt (by omega)
    · exact letter_lt (by omega)
    · exact encodeBytes_ascii c h

/-- The text of bytes consists of whole groups. -/
theorem length_encodeBytes_mod : ∀ bytes : List UInt8, (encodeBytes bytes).length % 4 = 0
  | [] => rfl
  | [_] => by simp [encodeBytes]
  | [_, _] => by simp [encodeBytes]
  | _ :: _ :: _ :: rest => by
    have := length_encodeBytes_mod rest
    simp only [encodeBytes, List.length_cons]
    omega

theorem encodeBytes_ne_nil : ∀ {bytes : List UInt8}, bytes ≠ [] → encodeBytes bytes ≠ []
  | [], h => absurd rfl h
  | [_], _ => List.cons_ne_nil _ _
  | [_, _], _ => List.cons_ne_nil _ _
  | _ :: _ :: _ :: _, _ => List.cons_ne_nil _ _

/-- The symbols of bytes are read as the bytes, wherever they stand. -/
theorem decodeFrom_encodeBytes : ∀ (offset : Nat) (bytes : List UInt8),
    decodeFrom offset ((encodeBytes bytes).map Char.toNat) = .ok bytes
  | _, [] => rfl
  | offset, [a] => by
    have ha := a.toNat_lt
    have hread : UInt8.ofNat (a.toNat / 4 * 4 + a.toNat % 4 * 16 / 16) = a := ofNat_eq (by omega)
    have hpad : ('=' : Char).toNat = padding := rfl
    simp only [encodeBytes, List.map_cons, List.map_nil, hpad, decodeFrom]
    rw [decodeLast_two offset (by omega) (by omega) (by omega), hread]
  | offset, [a, b] => by
    have ha := a.toNat_lt
    have hb := b.toNat_lt
    have hfirst : UInt8.ofNat (a.toNat / 4 * 4 + (a.toNat % 4 * 16 + b.toNat / 16) / 16) = a :=
      ofNat_eq (by omega)
    have hsecond : UInt8.ofNat ((a.toNat % 4 * 16 + b.toNat / 16) % 16 * 16 +
        b.toNat % 16 * 4 / 4) = b := ofNat_eq (by omega)
    have hpad : ('=' : Char).toNat = padding := rfl
    simp only [encodeBytes, List.map_cons, List.map_nil, hpad, decodeFrom]
    rw [decodeLast_three offset (by omega) (by omega) (by omega) (by omega), hfirst, hsecond]
  | offset, a :: b :: c :: rest => by
    have ha := a.toNat_lt
    have hb := b.toNat_lt
    have hc := c.toNat_lt
    have hfirst : UInt8.ofNat (a.toNat / 4 * 4 + (a.toNat % 4 * 16 + b.toNat / 16) / 16) = a :=
      ofNat_eq (by omega)
    have hsecond : UInt8.ofNat ((a.toNat % 4 * 16 + b.toNat / 16) % 16 * 16 +
        (b.toNat % 16 * 4 + c.toNat / 64) / 4) = b := ofNat_eq (by omega)
    have hthird : UInt8.ofNat ((b.toNat % 16 * 4 + c.toNat / 64) % 4 * 64 + c.toNat % 64) = c :=
      ofNat_eq (by omega)
    cases hrest : encodeBytes rest with
    | nil =>
      have hnil : rest = [] := by
        cases rest with
        | nil => rfl
        | cons d rest => exact absurd hrest (encodeBytes_ne_nil (List.cons_ne_nil d rest))
      subst hnil
      simp only [encodeBytes, List.map_cons, List.map_nil, decodeFrom]
      rw [decodeLast_four offset (by omega) (by omega) (by omega) (by omega), hfirst, hsecond,
        hthird]
    | cons e es =>
      have ih := decodeFrom_encodeBytes (offset + 4) rest
      rw [hrest, List.map_cons] at ih
      simp only [encodeBytes, hrest, List.map_cons, decodeFrom]
      rw [inner_letter _ (by omega), inner_letter _ (by omega), inner_letter _ (by omega),
        inner_letter _ (by omega), ih]
      show Except.ok (UInt8.ofNat _ :: UInt8.ofNat _ :: UInt8.ofNat _ :: rest) = _
      rw [hfirst, hsecond, hthird]

/-- The text of a list of bytes is read back. -/
theorem decode_encode (bytes : List UInt8) : decode (encode bytes) = .ok bytes := by
  have hmod : ((encodeBytes bytes).map Char.toNat).length % 4 = 0 := by
    rw [List.length_map, length_encodeBytes_mod]
  unfold decode encode
  simp only [codes_ofList encodeBytes_ascii, hmod]
  exact decodeFrom_encodeBytes 0 bytes

end Base64

end ClusterOperator
