import JavacLaunch.Number.Word

/-!
# JavacLaunch.Proofs.Word

What the arithmetic of words reads from a decimal number.

* `push?_eq_some_iff`: one more digit is exact or refused.
* `foldlM_push?_eq_some_iff`: so is a row of digits. A refused step is final, since more digits never
  make a number smaller.
* `ofText?_of_digits`: digits are read as the number they denote, up to the greatest word.
-/

namespace JavacLaunch
namespace Word

section Step

variable {a b d m n w : UInt32} {c : Char}

/-- A word that is right up to whole turns of the word size is right if no turn was made. -/
theorem checked_eq_some_iff {x : Nat} (hw : w.toNat = x % UInt32.size) :
    (if x < UInt32.size then some w else none) = some m ↔ x = m.toNat := by
  constructor
  · intro h
    split at h
    · rename_i hfits
      cases h
      rw [hw, Nat.mod_eq_of_lt hfits]
    · cases h
  · intro h
    have hfits : x < UInt32.size := h ▸ m.toNat_lt_size
    rw [if_pos hfits, Option.some_inj, ← UInt32.toNat_inj, hw, Nat.mod_eq_of_lt hfits, h]

theorem mul?_eq_some_iff : mul? a b = some m ↔ a.toNat * b.toNat = m.toNat :=
  checked_eq_some_iff (UInt32.toNat_mul a b)

theorem add?_eq_some_iff : add? a b = some m ↔ a.toNat + b.toNat = m.toNat :=
  checked_eq_some_iff (UInt32.toNat_add a b)

theorem digit?_eq_some_iff :
    digit? c = some d ↔ c.isDigit = true ∧ c.toNat - '0'.toNat = d.toNat := by
  unfold digit?
  split
  · rename_i hdigit
    have hle : '0'.val ≤ c.val := by
      simp only [Char.isDigit, Bool.and_eq_true, decide_eq_true_iff] at hdigit
      exact hdigit.1
    rw [Option.some_inj, ← UInt32.toNat_inj, UInt32.toNat_sub_of_le _ _ hle]
    simp [hdigit]
  · simp [*]

theorem push?_eq_some_iff :
    push? n c = some m ↔ c.isDigit = true ∧ 10 * n.toNat + (c.toNat - '0'.toNat) = m.toNat := by
  simp only [push?, Option.bind_eq_bind, Option.bind_eq_some_iff, mul?_eq_some_iff,
    digit?_eq_some_iff, add?_eq_some_iff]
  constructor
  · intro h
    obtain ⟨tens, htens, d, ⟨hdigit, hd⟩, hsum⟩ := h
    refine ⟨hdigit, ?_⟩
    rw [hd, ← hsum, ← htens, Nat.mul_comm]
    rfl
  · intro h
    obtain ⟨hdigit, hm⟩ := h
    -- neither step passes what the last one reaches
    have hsize := m.toNat_lt_size
    have htens : n.toNat * 10 = (UInt32.ofNat (n.toNat * 10)).toNat :=
      (UInt32.toNat_ofNat_of_lt' (by omega)).symm
    have hd : c.toNat - '0'.toNat = (UInt32.ofNat (c.toNat - '0'.toNat)).toNat :=
      (UInt32.toNat_ofNat_of_lt' (by omega)).symm
    refine ⟨_, htens, _, ⟨hdigit, hd⟩, ?_⟩
    rw [← htens, ← hd, ← hm, Nat.mul_comm]

end Step

section Row

variable {ds : List Char} {w m : UInt32}

theorem le_ofDigitChars (ds : List Char) (n : Nat) : n ≤ Nat.ofDigitChars 10 ds n := by
  induction ds generalizing n with
  | nil => exact Nat.le_refl n
  | cons c ds ih =>
    rw [Nat.ofDigitChars_cons]
    have hrest := ih (10 * n + (c.toNat - '0'.toNat))
    omega

theorem foldlM_push?_eq_some_iff :
    ds.foldlM push? w = some m ↔
      (∀ c ∈ ds, c.isDigit = true) ∧ Nat.ofDigitChars 10 ds w.toNat = m.toNat := by
  induction ds generalizing w with
  | nil => simp [UInt32.toNat_inj]
  | cons c ds ih =>
    simp only [List.foldlM_cons, Option.bind_eq_bind, Option.bind_eq_some_iff, push?_eq_some_iff,
      ih, List.forall_mem_cons, Nat.ofDigitChars_cons]
    constructor
    · intro h
      obtain ⟨k, ⟨hc, hk⟩, hds, hm⟩ := h
      exact ⟨⟨hc, hds⟩, by rw [hk, hm]⟩
    · intro h
      obtain ⟨⟨hc, hds⟩, hm⟩ := h
      -- the number so far is a word because the whole one is
      have hfits : 10 * w.toNat + (c.toNat - '0'.toNat) < UInt32.size :=
        Nat.lt_of_le_of_lt (hm ▸ le_ofDigitChars ds _) m.toNat_lt_size
      have hk := UInt32.toNat_ofNat_of_lt' hfits
      exact ⟨_, ⟨hc, hk.symm⟩, hds, by rw [hk, hm]⟩

theorem ofDigits?_eq_some_iff :
    ofDigits? ds = some m ↔
      ds ≠ [] ∧ (∀ c ∈ ds, c.isDigit = true) ∧ Nat.ofDigitChars 10 ds 0 = m.toNat := by
  cases ds with
  | nil => simp [ofDigits?]
  | cons c ds =>
    rw [ofDigits?, foldlM_push?_eq_some_iff]
    simp

/-- A sign is no digit, so digits alone are read as they stand. -/
theorem ofText?_eq_ofDigits? (hdigits : ∀ c ∈ ds, c.isDigit = true) :
    ofText? ds = ofDigits? ds := by
  unfold ofText?
  split
  · exact absurd (hdigits '+' List.mem_cons_self) (by decide)
  · rfl

theorem ofText?_of_digits (hne : ds ≠ []) (hdigits : ∀ c ∈ ds, c.isDigit = true) :
    ofText? ds =
      if Nat.ofDigitChars 10 ds 0 < UInt32.size then
        some (UInt32.ofNat (Nat.ofDigitChars 10 ds 0))
      else none := by
  rw [ofText?_eq_ofDigits? hdigits]
  split
  · rename_i hfits
    exact ofDigits?_eq_some_iff.2 ⟨hne, hdigits, (UInt32.toNat_ofNat_of_lt' hfits).symm⟩
  · rename_i hwide
    rw [Option.eq_none_iff_forall_ne_some]
    intro m hm
    exact hwide ((ofDigits?_eq_some_iff.1 hm).2.2 ▸ m.toNat_lt_size)

end Row

end Word
end JavacLaunch
