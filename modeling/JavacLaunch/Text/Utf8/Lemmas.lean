import JavacLaunch.Text.Utf8

/-!
# JavacLaunch.Text.Utf8.Lemmas

Reading the UTF-8 form of a text gives the text back.

* `piecesFrom_encodeChar`: the bytes of a character are one piece, whatever follows them.
* `decode?_encode`, `decodeLossy_encode`: both readers undo `encode`.
-/

namespace JavacLaunch
namespace Utf8

theorem toNat_ofNat_of_lt {n : Nat} (h : n < 256) : (UInt8.ofNat n).toNat = n := by
  simp [Nat.mod_eq_of_lt h]

/-- What the bounds of a second byte say of the six bits it carries. -/
theorem Tail.allows_iff (t : Tail) {n : Nat} (h : n < 64) :
    t.allows (UInt8.ofNat (n + 128)) = true ↔
      match t with
      | .any => True
      | .fromA0 => 32 ≤ n
      | .upTo9F => n < 32
      | .from90 => 16 ≤ n
      | .upTo8F => n < 16 := by
  cases t <;> simp [Tail.allows, UInt8.le_iff_toNat_le] <;> omega

/-- The first byte of three, and the second byte after it. -/
theorem begin_three {v : Nat} (h : 2047 < v) (h' : v ≤ 65535) (hs : v < 0xD800 ∨ 0xDFFF < v) :
    ∃ t, begin (UInt8.ofNat (v / 4096 % 16 + 224)) =
        .inr ⟨[UInt8.ofNat (v / 4096 % 16 + 224)], v / 4096, 1, t⟩ ∧
      t.allows (UInt8.ofNat (v / 64 % 64 + 128)) = true := by
  have h0 := toNat_ofNat_of_lt (show v / 4096 % 16 + 224 < 256 by omega)
  simp only [begin, h0]
  by_cases ha : v / 4096 = 0
  · refine ⟨.fromA0, ?_, (Tail.allows_iff _ (by omega)).2 (by simp only; omega)⟩
    grind
  by_cases hb : v / 4096 = 13
  · refine ⟨.upTo9F, ?_, (Tail.allows_iff _ (by omega)).2 (by simp only; omega)⟩
    grind
  · refine ⟨.any, ?_, (Tail.allows_iff _ (by omega)).2 trivial⟩
    grind

/-- The first byte of four, and the second byte after it. -/
theorem begin_four {v : Nat} (h : 65535 < v) (h' : v < 0x110000) :
    ∃ t, begin (UInt8.ofNat (v / 262144 % 8 + 240)) =
        .inr ⟨[UInt8.ofNat (v / 262144 % 8 + 240)], v / 262144, 2, t⟩ ∧
      t.allows (UInt8.ofNat (v / 4096 % 64 + 128)) = true := by
  have h0 := toNat_ofNat_of_lt (show v / 262144 % 8 + 240 < 256 by omega)
  simp only [begin, h0]
  by_cases ha : v / 262144 = 0
  · refine ⟨.from90, ?_, (Tail.allows_iff _ (by omega)).2 (by simp only; omega)⟩
    grind
  by_cases hb : v / 262144 = 4
  · refine ⟨.upTo8F, ?_, (Tail.allows_iff _ (by omega)).2 (by simp only; omega)⟩
    grind
  · refine ⟨.any, ?_, (Tail.allows_iff _ (by omega)).2 trivial⟩
    grind

/-- The bytes of a character are read as that character, whatever follows. -/
theorem piecesFrom_encodeChar (c : Char) (rest : Bytes) :
    piecesFrom none (String.utf8EncodeChar c ++ rest) = .char c :: piecesFrom none rest := by
  have hvalid : c.toNat < 0xD800 ∨ 0xDFFF < c.toNat ∧ c.toNat < 0x110000 := c.valid
  have hc : Char.ofNat c.toNat = c := Char.ofNat_toNat c
  have hv : c.val.toNat = c.toNat := rfl
  have tail (n : Nat) := toNat_ofNat_of_lt (show n % 64 + 128 < 256 by omega)
  have any (n : Nat) : Tail.any.allows (UInt8.ofNat (n % 64 + 128)) = true :=
    (Tail.allows_iff _ (by omega)).2 trivial
  unfold String.utf8EncodeChar
  simp only [hv]
  generalize c.toNat = v at *
  subst hc
  split
  · have h0 := toNat_ofNat_of_lt (show v < 256 by omega)
    simp [piecesFrom, begin, h0, show v < 128 by omega]
  split
  · have h0 := toNat_ofNat_of_lt (show v / 64 % 32 + 192 < 256 by omega)
    have hb : begin (UInt8.ofNat (v / 64 % 32 + 192)) =
        .inr ⟨[UInt8.ofNat (v / 64 % 32 + 192)], v / 64, 0, .any⟩ := by
      simp only [begin, h0]
      grind
    simp only [List.cons_append, List.nil_append, piecesFrom, hb, any, Begun.push, tail, if_true]
    rw [show v / 64 * 64 + (v % 64 + 128 - 128) = v by omega]
  split
  · obtain ⟨t, hb, ht⟩ := begin_three (v := v) (by omega) (by omega) (by omega)
    simp only [List.cons_append, List.nil_append, piecesFrom, hb, ht, any, Begun.push, tail, if_true]
    rw [show (v / 4096 * 64 + (v / 64 % 64 + 128 - 128)) * 64 + (v % 64 + 128 - 128) = v by omega]
  · obtain ⟨t, hb, ht⟩ := begin_four (v := v) (by omega) (by omega)
    simp only [List.cons_append, List.nil_append, piecesFrom, hb, ht, any, Begun.push, tail, if_true]
    rw [show ((v / 262144 * 64 + (v / 4096 % 64 + 128 - 128)) * 64 + (v / 64 % 64 + 128 - 128)) * 64
      + (v % 64 + 128 - 128) = v by omega]

theorem pieces_flatMap_encodeChar (cs : List Char) (rest : Bytes) :
    piecesFrom none (cs.flatMap String.utf8EncodeChar ++ rest) =
      cs.map .char ++ piecesFrom none rest := by
  induction cs with
  | nil => rfl
  | cons c cs ih =>
    rw [List.flatMap_cons, List.append_assoc, piecesFrom_encodeChar, ih]; rfl

theorem pieces_encode (s : String) : pieces (encode s) = s.toList.map .char := by
  simpa [pieces, encode, piecesFrom] using pieces_flatMap_encodeChar s.toList []

theorem mapM_char? (cs : List Char) : (cs.map Piece.char).mapM Piece.char? = some cs := by
  induction cs with
  | nil => rfl
  | cons c cs ih => simp [List.mapM_cons, Piece.char?, ih]

/-- What is written is read back. -/
theorem decode?_encode (s : String) : decode? (encode s) = some s := by
  rw [decode?, pieces_encode, mapM_char?]
  simp

theorem decodeLossy_encode (s : String) : decodeLossy (encode s) = s := by
  simp [decodeLossy, pieces_encode, Function.comp_def, Piece.lossy]

end Utf8
end JavacLaunch
