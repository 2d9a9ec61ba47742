import JavacLaunch.Text.Utf8.Lemmas

/-!
# JavacLaunch.Proofs.Utf8

Bytes are text exactly if they are the UTF-8 form of one.

* `char_of_piecesFrom`: a piece that is a character was cut from the bytes of that character.
* `decode?_eq_some_iff`: a text is read from its own UTF-8 form and from nothing else.
* `isText_encode_append`: text in front of other bytes does not change whether all is text.
* `decodeLossy_lineFeed`: what stands on the two sides of a line feed is decoded by itself.
-/

namespace JavacLaunch
namespace Utf8

theorem toNat_ofNat_of_isValid {v : Nat} (h : v < 0xD800 ∨ 0xDFFF < v ∧ v < 0x110000) :
    (Char.ofNat v).val.toNat = v := by
  rw [Char.ofNat, dif_pos h]
  rfl

theorem encodeChar_one {v : Nat} (h : v < 128) :
    String.utf8EncodeChar (Char.ofNat v) = [UInt8.ofNat v] := by
  have hv := toNat_ofNat_of_isValid (v := v) (by omega)
  simp [String.utf8EncodeChar, hv, show v ≤ 127 by omega]

theorem encodeChar_two {a b : Nat} (ha : 2 ≤ a) (ha' : a < 32) (hb : b < 64) :
    String.utf8EncodeChar (Char.ofNat (a * 64 + b)) =
      [UInt8.ofNat (a + 192), UInt8.ofNat (b + 128)] := by
  have hv := toNat_ofNat_of_isValid (v := a * 64 + b) (by omega)
  simp only [String.utf8EncodeChar, hv]
  rw [if_neg (by omega), if_pos (by omega)]
  rw [show (a * 64 + b) / 64 % 32 = a by omega, show (a * 64 + b) % 64 = b by omega]

theorem encodeChar_three {a b c : Nat} (ha : a < 16) (hb : b < 64) (hc : c < 64)
    (hlow : 32 ≤ a * 64 + b) (hs : a ≠ 13 ∨ b < 32) :
    String.utf8EncodeChar (Char.ofNat ((a * 64 + b) * 64 + c)) =
      [UInt8.ofNat (a + 224), UInt8.ofNat (b + 128), UInt8.ofNat (c + 128)] := by
  have hv := toNat_ofNat_of_isValid (v := (a * 64 + b) * 64 + c) (by omega)
  simp only [String.utf8EncodeChar, hv]
  rw [if_neg (by omega), if_neg (by omega), if_pos (by omega)]
  rw [show ((a * 64 + b) * 64 + c) / 4096 % 16 = a by omega,
    show ((a * 64 + b) * 64 + c) / 64 % 64 = b by omega,
    show ((a * 64 + b) * 64 + c) % 64 = c by omega]

theorem encodeChar_four {a b c d : Nat} (ha : a < 5) (hb : b < 64) (hc : c < 64) (hd : d < 64)
    (hlow : 16 ≤ a * 64 + b) (hhigh : a ≠ 4 ∨ b < 16) :
    String.utf8EncodeChar (Char.ofNat (((a * 64 + b) * 64 + c) * 64 + d)) =
      [UInt8.ofNat (a + 240), UInt8.ofNat (b + 128), UInt8.ofNat (c + 128),
        UInt8.ofNat (d + 128)] := by
  have hv := toNat_ofNat_of_isValid (v := ((a * 64 + b) * 64 + c) * 64 + d) (by omega)
  simp only [String.utf8EncodeChar, hv]
  rw [if_neg (by omega), if_neg (by omega), if_neg (by omega)]
  rw [show (((a * 64 + b) * 64 + c) * 64 + d) / 262144 % 8 = a by omega,
    show (((a * 64 + b) * 64 + c) * 64 + d) / 4096 % 64 = b by omega,
    show (((a * 64 + b) * 64 + c) * 64 + d) / 64 % 64 = c by omega,
    show (((a * 64 + b) * 64 + c) * 64 + d) % 64 = d by omega]

/-- The number of the six bits that a byte after the first one carries. -/
theorem exists_bits_of_allows {t : Tail} {b : UInt8} (h : t.allows b = true) :
    ∃ n < 64, b = UInt8.ofNat (n + 128) ∧ b.toNat - 128 = n := by
  have hb : b.toNat < 256 := b.toNat_lt
  have hr : 128 ≤ b.toNat ∧ b.toNat ≤ 191 := by
    cases t <;> simp [Tail.allows, UInt8.le_iff_toNat_le] at h <;> omega
  refine ⟨b.toNat - 128, by omega, ?_, rfl⟩
  rw [show b.toNat - 128 + 128 = b.toNat by omega, UInt8.ofNat_toNat]

theorem begin_inl_char {b : UInt8} {c : Char} (h : begin b = .inl (.char c)) :
    b.toNat < 128 ∧ c = Char.ofNat b.toNat := by
  simp only [begin] at h
  split at h
  · rename_i hb
    cases h
    exact ⟨hb, rfl⟩
  · grind

/-- What a first byte begins: its range, the bits it carries, and which bytes may come second. -/
theorem begin_inr {b : UInt8} {q : Begun} (h : begin b = .inr q) :
    (∃ a, 2 ≤ a ∧ a < 32 ∧ b.toNat = a + 192 ∧ q = ⟨[b], a, 0, .any⟩) ∨
    (∃ a t, a < 16 ∧ b.toNat = a + 224 ∧ q = ⟨[b], a, 1, t⟩ ∧
      ∀ n < 64, t.allows (UInt8.ofNat (n + 128)) = true →
        32 ≤ a * 64 + n ∧ (a ≠ 13 ∨ n < 32)) ∨
    (∃ a t, a < 5 ∧ b.toNat = a + 240 ∧ q = ⟨[b], a, 2, t⟩ ∧
      ∀ n < 64, t.allows (UInt8.ofNat (n + 128)) = true →
        16 ≤ a * 64 + n ∧ (a ≠ 4 ∨ n < 16)) := by
  simp only [begin] at h
  split at h
  · cases h
  split at h
  · cases h
  split at h
  · cases h
    exact .inl ⟨b.toNat - 192, by omega, by omega, by omega, rfl⟩
  split at h
  · cases h
    refine .inr (.inl ⟨0, .fromA0, by omega, by omega, rfl, fun n hn ht => ?_⟩)
    have := (Tail.allows_iff .fromA0 hn).1 ht
    simp only at this; omega
  split at h
  · cases h
    refine .inr (.inl ⟨13, .upTo9F, by omega, by omega, rfl, fun n hn ht => ?_⟩)
    have := (Tail.allows_iff .upTo9F hn).1 ht
    simp only at this; omega
  split at h
  · cases h
    exact .inr (.inl ⟨b.toNat - 224, .any, by omega, by omega, rfl, by omega⟩)
  split at h
  · cases h
    refine .inr (.inr ⟨0, .from90, by omega, by omega, rfl, fun n hn ht => ?_⟩)
    have := (Tail.allows_iff .from90 hn).1 ht
    simp only at this; omega
  split at h
  · cases h
    exact .inr (.inr ⟨b.toNat - 240, .any, by omega, by omega, rfl, by omega⟩)
  split at h
  · cases h
    refine .inr (.inr ⟨4, .upTo8F, by omega, by omega, rfl, fun n hn ht => ?_⟩)
    have := (Tail.allows_iff .upTo8F hn).1 ht
    simp only at this; omega
  · cases h

/-- If a begun character is completed, its next byte is there and is allowed. -/
theorem piecesFrom_some_char {p : Begun} {bytes : Bytes} {c : Char} {ps : List Piece}
    (h : piecesFrom (some p) bytes = .char c :: ps) :
    ∃ n rest, n < 64 ∧ bytes = UInt8.ofNat (n + 128) :: rest ∧
      p.next.allows (UInt8.ofNat (n + 128)) = true ∧
      match p.after with
      | 0 => c = Char.ofNat (p.bits * 64 + n) ∧ piecesFrom none rest = ps
      | k + 1 => ∃ taken,
          piecesFrom (some ⟨taken, p.bits * 64 + n, k, .any⟩) rest = .char c :: ps := by
  cases bytes with
  | nil => simp [piecesFrom] at h
  | cons b rest =>
    rw [piecesFrom] at h
    split at h
    · rename_i ha
      obtain ⟨n, hn, rfl, hbits⟩ := exists_bits_of_allows ha
      refine ⟨n, rest, hn, rfl, ha, ?_⟩
      simp only [Begun.push, hbits] at h
      split
      · rename_i h0
        simp only [h0] at h
        cases h; exact ⟨rfl, rfl⟩
      · rename_i k hk
        simp only [hk] at h
        exact ⟨_, h⟩
    · cases h

/-- A piece that is a character was cut from the bytes of that character. -/
theorem char_of_piecesFrom {bytes : Bytes} {c : Char} {ps : List Piece}
    (h : piecesFrom none bytes = .char c :: ps) :
    ∃ rest, bytes = String.utf8EncodeChar c ++ rest ∧ piecesFrom none rest = ps := by
  cases bytes with
  | nil => simp [piecesFrom] at h
  | cons b rest =>
    rw [piecesFrom] at h
    have hself : b = UInt8.ofNat b.toNat := UInt8.ofNat_toNat.symm
    cases hb : begin b with
    | inl piece =>
      simp only [hb] at h
      cases h
      obtain ⟨hn, rfl⟩ := begin_inl_char hb
      exact ⟨rest, by rw [encodeChar_one hn, ← hself]; rfl, rfl⟩
    | inr q =>
      simp only [hb] at h
      rcases begin_inr hb with ⟨a, ha, ha', hv, rfl⟩ | ⟨a, t, ha, hv, rfl, ht⟩ |
        ⟨a, t, ha, hv, rfl, ht⟩ <;> rw [hv] at hself
      · obtain ⟨n, rest, hn, rfl, _, rfl, hrest⟩ := piecesFrom_some_char h
        exact ⟨rest, by rw [encodeChar_two ha ha' hn, hself]; rfl, hrest⟩
      · obtain ⟨n, rest, hn, rfl, hallow, _, h⟩ := piecesFrom_some_char h
        obtain ⟨m, rest, hm, rfl, _, rfl, hrest⟩ := piecesFrom_some_char h
        obtain ⟨hlow, hs⟩ := ht n hn hallow
        exact ⟨rest, by rw [encodeChar_three ha hn hm hlow hs, hself]; rfl, hrest⟩
      · obtain ⟨n, rest, hn, rfl, hallow, _, h⟩ := piecesFrom_some_char h
        obtain ⟨m, rest, hm, rfl, _, _, h⟩ := piecesFrom_some_char h
        obtain ⟨k, rest, hk, rfl, _, rfl, hrest⟩ := piecesFrom_some_char h
        obtain ⟨hlow, hhigh⟩ := ht n hn hallow
        exact ⟨rest, by rw [encodeChar_four ha hn hm hk hlow hhigh, hself]; rfl, hrest⟩

theorem piecesFrom_some_ne_nil (p : Begun) (bytes : Bytes) : piecesFrom (some p) bytes ≠ [] := by
  induction bytes generalizing p with
  | nil => simp [piecesFrom]
  | cons b rest ih =>
    rw [piecesFrom]
    split
    · split
      · simp
      · exact ih _
    · simp

theorem pieces_eq_nil_iff {bytes : Bytes} : pieces bytes = [] ↔ bytes = [] := by
  constructor
  · intro h
    cases bytes with
    | nil => rfl
    | cons b rest =>
      rw [pieces, piecesFrom] at h
      split at h
      · cases h
      · exact absurd h (piecesFrom_some_ne_nil _ _)
  · rintro rfl
    rfl

theorem flatMap_of_pieces {cs : List Char} :
    ∀ {bytes : Bytes}, pieces bytes = cs.map .char → bytes = cs.flatMap String.utf8EncodeChar := by
  induction cs with
  | nil =>
    intro bytes h
    exact pieces_eq_nil_iff.1 h
  | cons c cs ih =>
    intro bytes h
    obtain ⟨rest, rfl, hrest⟩ := char_of_piecesFrom h
    rw [List.flatMap_cons, ← ih hrest]

theorem map_char_of_mapM_char? {ps : List Piece} {cs : List Char}
    (h : ps.mapM Piece.char? = some cs) : ps = cs.map .char := by
  induction ps generalizing cs with
  | nil => simp at h; subst h; rfl
  | cons p ps ih =>
    cases p with
    | illFormed bytes => simp [List.mapM_cons, Piece.char?] at h
    | char c =>
      rw [List.mapM_cons] at h
      obtain ⟨_, ⟨⟩, h⟩ := Option.bind_eq_some_iff.1 h
      obtain ⟨cs', h', ⟨⟩⟩ := Option.bind_eq_some_iff.1 h
      rw [List.map_cons, ← ih h']

/-- A text is read from its own UTF-8 form and from nothing else. -/
theorem decode?_eq_some_iff {bytes : Bytes} {s : String} :
    decode? bytes = some s ↔ bytes = encode s := by
  constructor
  · intro h
    obtain ⟨cs, hcs, rfl⟩ := Option.map_eq_some_iff.1 h
    have := flatMap_of_pieces (map_char_of_mapM_char? hcs)
    simpa [encode] using this
  · rintro rfl
    exact decode?_encode s

theorem isText_iff {bytes : Bytes} : isText bytes = true ↔ ∃ s, bytes = encode s := by
  simp [isText, Option.isSome_iff_exists, decode?_eq_some_iff]

@[simp] theorem isText_encode (s : String) : isText (encode s) = true :=
  isText_iff.2 ⟨s, rfl⟩

theorem encode_append (s t : String) : encode (s ++ t) = encode s ++ encode t := by
  simp [encode]

theorem encode_injective {s t : String} (h : encode s = encode t) : s = t := by
  have := congrArg decode? h
  simpa [decode?_encode] using this

/-- Text in front of other bytes does not change whether all is text. -/
theorem isText_encode_append (s : String) (bytes : Bytes) :
    isText (encode s ++ bytes) = isText bytes := by
  have h : pieces (encode s ++ bytes) = s.toList.map .char ++ pieces bytes :=
    pieces_flatMap_encodeChar s.toList bytes
  simp only [isText, decode?, h, List.mapM_append, mapM_char?, Option.isSome_map]
  cases (pieces bytes).mapM Piece.char? <;> rfl

section Ascii

variable {b : UInt8} (h : b < 0x80)
include h

theorem begin_ascii : begin b = .inl (.char (Char.ofNat b.toNat)) := by
  rw [UInt8.lt_iff_toNat_lt] at h
  exact if_pos h

theorem not_allows_ascii (t : Tail) : t.allows b = false := by
  rw [UInt8.lt_iff_toNat_lt] at h
  have h128 : b.toNat < 128 := h
  cases t <;> simp [Tail.allows, UInt8.le_iff_toNat_le] <;> omega

/-- An ASCII byte ends whatever has begun, and nothing of it is left to what follows. -/
theorem piecesFrom_append_ascii (begun : Option Begun) (bytes rest : Bytes) :
    piecesFrom begun (bytes ++ b :: rest) =
      piecesFrom begun bytes ++ .char (Char.ofNat b.toNat) :: piecesFrom none rest := by
  induction bytes generalizing begun with
  | nil =>
    cases begun with
    | none => simp [piecesFrom, begin_ascii h]
    | some p => simp [piecesFrom, begin_ascii h, not_allows_ascii h]
  | cons a bytes ih =>
    rw [List.cons_append]
    cases begun with
    | none =>
      simp only [piecesFrom]
      cases begin a with
      | inl piece => simp only [ih, List.cons_append]
      | inr q => simp only [ih]
    | some p =>
      simp only [piecesFrom]
      by_cases ha : p.next.allows a = true
      · simp only [ha, if_true]
        cases p.push a with
        | inl piece => simp only [ih, List.cons_append]
        | inr q => simp only [ih]
      · simp only [ha]
        cases begin a with
        | inl piece => simp [ih]
        | inr q => simp [ih]

end Ascii

/-- What stands on the two sides of a line feed is decoded by itself. -/
theorem decodeLossy_lineFeed (bytes rest : Bytes) :
    decodeLossy (bytes ++ 0x0A :: rest) = decodeLossy bytes ++ "\n" ++ decodeLossy rest := by
  have h : pieces (bytes ++ 0x0A :: rest) = pieces bytes ++ .char '\n' :: pieces rest :=
    piecesFrom_append_ascii (by decide) none bytes rest
  simp [decodeLossy, h, Piece.lossy, ← String.toList_inj]

end Utf8
end JavacLaunch
