import MemorySentry.Text.Utf8

/-!
# Text and its bytes

Every text is read back from its bytes (`decode?_encode`). The first bytes of a text are those of
its first character, whatever comes after them (`firstPiece_append`), so the pieces of a text are
its characters.
-/

namespace MemorySentry.Text.Utf8

/-- The bytes are collected one after the other, behind those collected before. -/
theorem toList_loop (bytes : ByteArray) (i : Nat) (acc : List UInt8) :
    ByteArray.toList.loop bytes i acc = acc.reverse ++ bytes.data.toList.drop i := by
  fun_induction ByteArray.toList.loop bytes i acc with
  | case1 i acc hi ih =>
    have hi' : i < bytes.data.toList.length := hi
    have hget : bytes.get! i = bytes.data.toList[i] := by
      simp [ByteArray.get!, hi]
    rw [ih, List.reverse_cons, List.append_assoc, List.drop_eq_getElem_cons hi', hget]
    rfl
  | case2 i acc hi =>
    have hi' : bytes.data.toList.length ≤ i := Nat.not_lt.mp hi
    rw [List.drop_of_length_le hi', List.append_nil]

/-- The bytes of a text are those of its characters. -/
theorem encode_eq (s : String) : encode s = s.toList.flatMap String.utf8EncodeChar := by
  rw [encode, String.toUTF8_eq_toByteArray, ← String.utf8Encode_toList, ByteArray.toList,
    toList_loop]
  exact List.toList_data_toByteArray

/-- A further byte of a character adds its lower six bits. -/
theorem pieceFrom_cons {taken value missing bits : Nat} {b : UInt8} {rest : List UInt8}
    (hb : b.toNat = bits + 0x80) (hbits : bits < 64) :
    pieceFrom taken value (missing + 1) (b :: rest) =
      pieceFrom (taken + 1) (value * 64 + bits) missing rest := by
  have hrange : 0x80 ≤ b.toNat ∧ b.toNat ≤ 0xbf := by omega
  have hlower : b.toNat % 64 = bits := by omega
  rw [pieceFrom, if_pos hrange, hlower]

/-- A byte may come second if it is a further byte and makes no long form, no surrogate and no
number above the last character. -/
theorem maySecond_eq_true {first second : Nat} (hleast : 0x80 ≤ second) (hgreatest : second ≤ 0xbf)
    (hlong : first = 0xe0 → 0xa0 ≤ second) (hlonger : first = 0xf0 → 0x90 ≤ second)
    (hsurrogate : first = 0xed → second ≤ 0x9f) (hlast : first = 0xf4 → second ≤ 0x8f) :
    maySecond first second = true := by
  simp only [maySecond, Bool.and_eq_true, decide_eq_true_eq]
  constructor
  · split
    · next h => exact hlong h
    · split
      · next h => exact hlonger h
      · exact hleast
  · split
    · next h => exact hsurrogate h
    · split
      · next h => exact hlast h
      · exact hgreatest

/-- A character of several bytes starts with a first byte and a second one that go together. -/
theorem firstPiece_cons_cons {b second : UInt8} {tail : Nat} {rest : List UInt8}
    (htail : tailLength? b.toNat = some (tail + 1))
    (hsecond : maySecond b.toNat second.toNat = true) :
    firstPiece b (second :: rest) =
      pieceFrom 1 (firstBits b.toNat (tail + 1)) (tail + 1) (second :: rest) := by
  unfold firstPiece
  simp only [htail, hsecond, if_true]

section

variable {n : Nat} (rest : List UInt8)

/-- A number that fits a byte is kept by it. -/
theorem toNat_ofNat_of_lt (h : n < 256) : (UInt8.ofNat n).toNat = n :=
  Nat.mod_eq_of_lt h

/-- A byte that continues a character holds six bits of it. -/
theorem toNat_further (n : Nat) : (UInt8.ofNat (n % 64 + 0x80)).toNat = n % 64 + 0x80 :=
  toNat_ofNat_of_lt (by omega)

/-- The remainder by 64 has at most six bits. -/
theorem mod_64_lt (n : Nat) : n % 64 < 64 :=
  Nat.mod_lt n (by decide)

/-- A character of one byte. -/
theorem firstPiece_one (h : n ≤ 0x7f) :
    firstPiece (UInt8.ofNat n) rest = (.char (Char.ofNat n), rest) := by
  have htail : tailLength? n = some 0 := if_pos (by omega)
  simp only [firstPiece, toNat_ofNat_of_lt (show n < 256 by omega), htail]

/-- A character of two bytes. -/
theorem firstPiece_two (hlower : 0x7f < n) (hupper : n ≤ 0x7ff) :
    firstPiece (UInt8.ofNat (n / 64 % 32 + 0xc0)) (UInt8.ofNat (n % 64 + 0x80) :: rest) =
      (.char (Char.ofNat n), rest) := by
  have hfirst : (UInt8.ofNat (n / 64 % 32 + 0xc0)).toNat = n / 64 % 32 + 0xc0 :=
    toNat_ofNat_of_lt (by omega)
  have htail : tailLength? (n / 64 % 32 + 0xc0) = some 1 := by
    unfold tailLength?
    grind
  have hsecond : maySecond (n / 64 % 32 + 0xc0) (n % 64 + 0x80) = true := by
    apply maySecond_eq_true <;> omega
  have hvalue : (n / 64 % 32 + 0xc0) % 0x20 * 64 + n % 64 = n := by omega
  rw [firstPiece_cons_cons (hfirst ▸ htail) (by rw [hfirst, toNat_further]; exact hsecond), hfirst,
    firstBits, pieceFrom_cons (toNat_further n) (mod_64_lt n), pieceFrom, hvalue]

/-- A character of three bytes. No surrogate is one. -/
theorem firstPiece_three (hlower : 0x7ff < n) (hupper : n ≤ 0xffff)
    (hvalid : n < 0xd800 ∨ 0xdfff < n) :
    firstPiece (UInt8.ofNat (n / 4096 % 16 + 0xe0))
        (UInt8.ofNat (n / 64 % 64 + 0x80) :: UInt8.ofNat (n % 64 + 0x80) :: rest) =
      (.char (Char.ofNat n), rest) := by
  have hfirst : (UInt8.ofNat (n / 4096 % 16 + 0xe0)).toNat = n / 4096 % 16 + 0xe0 :=
    toNat_ofNat_of_lt (by omega)
  have htail : tailLength? (n / 4096 % 16 + 0xe0) = some 2 := by
    unfold tailLength?
    grind
  have hsecond : maySecond (n / 4096 % 16 + 0xe0) (n / 64 % 64 + 0x80) = true := by
    apply maySecond_eq_true <;> omega
  have hvalue : ((n / 4096 % 16 + 0xe0) % 0x10 * 64 + n / 64 % 64) * 64 + n % 64 = n := by omega
  rw [firstPiece_cons_cons (hfirst ▸ htail) (by rw [hfirst, toNat_further]; exact hsecond), hfirst,
    firstBits, pieceFrom_cons (toNat_further _) (mod_64_lt _),
    pieceFrom_cons (toNat_further n) (mod_64_lt n), pieceFrom, hvalue]

/-- A character of four bytes. -/
theorem firstPiece_four (hlower : 0xffff < n) (hupper : n < 0x110000) :
    firstPiece (UInt8.ofNat (n / 262144 % 8 + 0xf0))
        (UInt8.ofNat (n / 4096 % 64 + 0x80) :: UInt8.ofNat (n / 64 % 64 + 0x80) ::
          UInt8.ofNat (n % 64 + 0x80) :: rest) =
      (.char (Char.ofNat n), rest) := by
  have hfirst : (UInt8.ofNat (n / 262144 % 8 + 0xf0)).toNat = n / 262144 % 8 + 0xf0 :=
    toNat_ofNat_of_lt (by omega)
  have htail : tailLength? (n / 262144 % 8 + 0xf0) = some 3 := by
    unfold tailLength?
    grind
  have hsecond : maySecond (n / 262144 % 8 + 0xf0) (n / 4096 % 64 + 0x80) = true := by
    apply maySecond_eq_true <;> omega
  have hvalue : (((n / 262144 % 8 + 0xf0) % 0x08 * 64 + n / 4096 % 64) * 64 + n / 64 % 64) * 64 +
      n % 64 = n := by omega
  have hbits : firstBits (n / 262144 % 8 + 0xf0) (2 + 1) = (n / 262144 % 8 + 0xf0) % 0x08 := rfl
  rw [firstPiece_cons_cons (hfirst ▸ htail) (by rw [hfirst, toNat_further]; exact hsecond), hfirst,
    hbits, pieceFrom_cons (toNat_further _) (mod_64_lt _),
    pieceFrom_cons (toNat_further _) (mod_64_lt _), pieceFrom_cons (toNat_further n) (mod_64_lt n),
    pieceFrom, hvalue]

end

/-- A character is read from its bytes, whatever comes after them. -/
theorem firstPiece_append (c : Char) (rest : List UInt8) :
    ∃ b tail, String.utf8EncodeChar c = b :: tail ∧
      firstPiece b (tail ++ rest) = (.char c, rest) := by
  -- the cases are those of the encoding, and each has its own first byte
  have hvalid : c.toNat < 0xd800 ∨ 0xdfff < c.toNat ∧ c.toNat < 0x110000 := c.valid
  have hchar : (Piece.char (Char.ofNat c.toNat), rest) = (.char c, rest) := by
    rw [Char.ofNat_toNat]
  fun_cases String.utf8EncodeChar c with
  | case1 v h => exact ⟨_, _, rfl, (firstPiece_one rest h).trans hchar⟩
  | case2 v h h' => exact ⟨_, _, rfl, (firstPiece_two rest (Nat.not_le.mp h) h').trans hchar⟩
  | case3 v h h' h'' =>
    exact ⟨_, _, rfl,
      (firstPiece_three rest (Nat.not_le.mp h') h'' (hvalid.imp_right And.left)).trans hchar⟩
  | case4 v h h' h'' =>
    have hupper : v < 0x110000 := hvalid.elim (fun h => Nat.lt_trans h (by decide)) And.right
    exact ⟨_, _, rfl, (firstPiece_four rest (Nat.not_le.mp h'') hupper).trans hchar⟩

/-- The bytes of characters are taken apart into just these characters. -/
theorem piecesUpTo_flatMap (cs : List Char) {fuel : Nat}
    (hfuel : (cs.flatMap String.utf8EncodeChar).length ≤ fuel) :
    piecesUpTo fuel (cs.flatMap String.utf8EncodeChar) = cs.map .char := by
  induction cs generalizing fuel with
  | nil => cases fuel <;> rfl
  | cons c cs ih =>
    obtain ⟨b, tail, hbytes, hpiece⟩ := firstPiece_append c (cs.flatMap String.utf8EncodeChar)
    rw [List.flatMap_cons, hbytes, List.cons_append] at hfuel ⊢
    rw [List.length_cons, List.length_append] at hfuel
    obtain ⟨fuel, rfl⟩ : ∃ k, fuel = k + 1 := ⟨fuel - 1, by omega⟩
    have hrest : piecesUpTo fuel (cs.flatMap String.utf8EncodeChar) = cs.map .char := ih (by omega)
    simp only [piecesUpTo, hpiece, hrest, List.map_cons]

/-- A text is read back from its bytes. -/
theorem decode?_encode (s : String) : decode? (encode s) = some s := by
  have hpieces : pieces (encode s) = s.toList.map .char := by
    rw [pieces, encode_eq]
    exact piecesUpTo_flatMap s.toList (Nat.le_refl _)
  have hchars : ∀ cs : List Char, (cs.map Piece.char).mapM Piece.char? = some cs := fun cs => by
    induction cs with
    | nil => rfl
    | cons c cs ih => simp [Piece.char?, ih]
  rw [decode?, hpieces, hchars]
  exact congrArg some String.ofList_toList

end MemorySentry.Text.Utf8
