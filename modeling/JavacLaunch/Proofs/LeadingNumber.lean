import JavacLaunch.Release
import JavacLaunch.Proofs.Front
import JavacLaunch.Proofs.Word

/-!
# JavacLaunch.Proofs.LeadingNumber

The number that a token begins with.

* `LeadingNumber`: decimal digits in front of a text, and the number they denote.
* `numeral`: a number in decimal digits; zeros in front do not count.
* `majorOf?_append_of_head`: what follows the number in a token does not matter.
* `ofToken?_eq_some_iff`, `ofToken?_eq_none_iff`: a token tells a release if and only if a number
  leads it that fits into 32 bits.
* `leading_digits_decide`: the same by the longest row of digits in front of the token, for rows of
  any length.
-/

namespace JavacLaunch

/-- Decimal digits stand in front of a text, no more digits follow them, and they denote `n`. -/
def LeadingNumber (text : List Char) (n : Nat) : Prop :=
  ∃ digits rest, text = digits ++ rest ∧ digits ≠ [] ∧ (∀ c ∈ digits, c.isDigit = true) ∧
    (∀ c ∈ rest.head?, c.isDigit = false) ∧ n = Nat.ofDigitChars 10 digits 0

section Number

variable {text digits rest : List Char} {n : Nat}

theorem leadingNumber_takeWhile (h : text.takeWhile Char.isDigit ≠ []) :
    LeadingNumber text (Nat.ofDigitChars 10 (text.takeWhile Char.isDigit) 0) := by
  refine ⟨_, _, List.takeWhile_append_dropWhile.symm, h, ?_, head?_dropWhile _ text, rfl⟩
  exact (longestFront_takeWhile _ text).satisfies

theorem leadingNumber_iff :
    LeadingNumber text n ↔
      text.takeWhile Char.isDigit ≠ [] ∧
        n = Nat.ofDigitChars 10 (text.takeWhile Char.isDigit) 0 := by
  constructor
  · intro h
    obtain ⟨digits, rest, rfl, hne, hdigits, hrest, rfl⟩ := h
    rw [takeWhile_front_append hdigits hrest]
    exact ⟨hne, rfl⟩
  · intro h
    rw [h.2]
    exact leadingNumber_takeWhile h.1

/-- A text begins with a number unless its first character is no digit. -/
theorem head_or_leadingNumber (text : List Char) :
    (∀ c ∈ text.head?, c.isDigit = false) ∨ ∃ n, LeadingNumber text n := by
  by_cases h : text.takeWhile Char.isDigit = []
  · left
    intro c hc
    have hhead := List.head?_takeWhile (p := Char.isDigit) (l := text)
    rw [h, Option.mem_def.1 hc] at hhead
    simpa [Option.filter] using hhead
  · exact .inr ⟨_, leadingNumber_takeWhile h⟩

end Number

/-- A number in decimal digits, after so many zeros. -/
def numeral (zeros n : Nat) : List Char :=
  List.replicate zeros '0' ++ Nat.toDigits 10 n

section Number

variable {zeros n : Nat}

theorem isDigit_of_mem_numeral {c : Char} (h : c ∈ numeral zeros n) : c.isDigit = true := by
  rw [numeral, List.mem_append] at h
  obtain hzero | hdigit := h
  · rw [List.eq_of_mem_replicate hzero]
    rfl
  · exact Nat.isDigit_of_mem_toDigits (by decide) (by decide) hdigit

theorem numeral_ne_nil (zeros n : Nat) : numeral zeros n ≠ [] :=
  List.append_ne_nil_of_right_ne_nil _ Nat.toDigits_ne_nil

theorem ofDigitChars_numeral (zeros n : Nat) : Nat.ofDigitChars 10 (numeral zeros n) 0 = n := by
  rw [numeral, Nat.ofDigitChars_append, Nat.ofDigitChars_replicate_zero, Nat.mul_zero,
    Nat.ofDigitChars_toDigits (by decide) (by decide)]

theorem leadingNumber_numeral (zeros n : Nat) {rest : List Char}
    (hrest : ∀ c ∈ rest.head?, c.isDigit = false) :
    LeadingNumber (numeral zeros n ++ rest) n :=
  ⟨numeral zeros n, rest, rfl, numeral_ne_nil zeros n, fun _ => isDigit_of_mem_numeral, hrest,
    (ofDigitChars_numeral zeros n).symm⟩

end Number

namespace Release

variable {token digits rest : List Char} {n : Nat} {major : UInt32}

/-- What follows the number does not matter. -/
theorem majorOf?_append_of_head (token : List Char) (hrest : ∀ c ∈ rest.head?, c.isDigit = false) :
    majorOf? (token ++ rest) = majorOf? token := by
  simp only [majorOf?, takeWhile_append_of_head token hrest]

theorem majorOf?_of_head (h : ∀ c ∈ token.head?, c.isDigit = false) : majorOf? token = none := by
  rw [majorOf?, takeWhile_of_head h]
  rfl

theorem majorOf?_of_leadingNumber (h : LeadingNumber token n) :
    majorOf? token = if n < UInt32.size then some (UInt32.ofNat n) else none := by
  obtain ⟨digits, rest, rfl, hne, hdigits, hrest, rfl⟩ := h
  rw [majorOf?, takeWhile_front_append hdigits hrest, Word.ofText?_of_digits hne hdigits]

theorem majorOf?_eq_some_iff : majorOf? token = some major ↔ LeadingNumber token major.toNat := by
  constructor
  · intro h
    rcases head_or_leadingNumber token with hhead | ⟨n, hn⟩
    · rw [majorOf?_of_head hhead] at h
      cases h
    · rw [majorOf?_of_leadingNumber hn] at h
      split at h
      · rename_i hfits
        cases h
        rwa [UInt32.toNat_ofNat_of_lt' hfits]
      · cases h
  · intro h
    rw [majorOf?_of_leadingNumber h, if_pos major.toNat_lt_size, UInt32.ofNat_toNat]

theorem majorOf?_eq_none_iff :
    majorOf? token = none ↔ (∀ c ∈ token.head?, c.isDigit = false) ∨
      ∃ n, LeadingNumber token n ∧ UInt32.size ≤ n := by
  constructor
  · intro h
    rcases head_or_leadingNumber token with hhead | ⟨n, hn⟩
    · exact .inl hhead
    · rw [majorOf?_of_leadingNumber hn] at h
      split at h
      · cases h
      · rename_i hwide
        exact .inr ⟨n, hn, Nat.not_lt.1 hwide⟩
  · intro h
    rcases h with hhead | ⟨n, hn, hwide⟩
    · exact majorOf?_of_head hhead
    · rw [majorOf?_of_leadingNumber hn, if_neg (Nat.not_lt.2 hwide)]

theorem map_major_ofToken? (token : String) :
    (ofToken? token).map Release.major = majorOf? token.toList := by
  simp [ofToken?, Function.comp_def]

theorem ofToken?_eq_some_iff {token : String} {release : Release} :
    ofToken? token = some release ↔
      release.token = token ∧ LeadingNumber token.toList release.major.toNat := by
  rw [ofToken?, Option.map_eq_some_iff]
  simp only [majorOf?_eq_some_iff]
  constructor
  · intro h
    obtain ⟨major, hmajor, rfl⟩ := h
    exact ⟨rfl, hmajor⟩
  · intro h
    exact ⟨release.major, h.2, by rw [← h.1]⟩

theorem exists_ofToken?_of_leadingNumber {token : String} (h : LeadingNumber token.toList n)
    (hfits : n < UInt32.size) :
    ∃ release, ofToken? token = some release ∧ release.major.toNat = n := by
  have hmajor : (UInt32.ofNat n).toNat = n := UInt32.toNat_ofNat_of_lt' hfits
  refine ⟨⟨token, UInt32.ofNat n⟩, ofToken?_eq_some_iff.2 ⟨rfl, ?_⟩, hmajor⟩
  rwa [hmajor]

theorem ofToken?_eq_none_iff {token : String} :
    ofToken? token = none ↔ (∀ c ∈ token.toList.head?, c.isDigit = false) ∨
      ∃ n, LeadingNumber token.toList n ∧ UInt32.size ≤ n := by
  rw [ofToken?, Option.map_eq_none_iff, majorOf?_eq_none_iff]

/-- The longest row of digits in front of a token decides: it must not be empty, and the number it
denotes must be a word. Zeros in front of a number do not count and what is no digit ends it, but
more digits make it a larger one, until it is no word and tells no release. -/
theorem leading_digits_decide (token : String) :
    (∃ digits, LongestFront Char.isDigit token.toList digits ∧
      ((ofToken? token).isSome ↔
        digits ≠ [] ∧ Nat.ofDigitChars 10 digits 0 < UInt32.size) ∧
      ∀ release, ofToken? token = some release →
        release.token = token ∧ release.major.toNat = Nat.ofDigitChars 10 digits 0) ∧
    (∀ zeros n rest, token.toList = numeral zeros n ++ rest →
      (∀ c ∈ rest.head?, c.isDigit = false) → n < UInt32.size →
      ∃ release, ofToken? token = some release ∧ release.major.toNat = n) ∧
    ∀ zeros n more rest, token.toList = numeral zeros n ++ more ++ rest →
      (∀ c ∈ more, c.isDigit = true) → (∀ c ∈ rest.head?, c.isDigit = false) →
      UInt32.size ≤ Nat.ofDigitChars 10 (numeral zeros n ++ more) 0 → ofToken? token = none := by
  refine ⟨⟨_, longestFront_takeWhile _ _, ?_, ?_⟩, ?_, ?_⟩
  · rw [Option.isSome_iff_exists]
    constructor
    · intro h
      obtain ⟨release, hrelease⟩ := h
      obtain ⟨hne, hvalue⟩ := leadingNumber_iff.1 (ofToken?_eq_some_iff.1 hrelease).2
      exact ⟨hne, hvalue ▸ release.major.toNat_lt_size⟩
    · intro h
      obtain ⟨hne, hfits⟩ := h
      obtain ⟨release, hrelease, -⟩ :=
        exists_ofToken?_of_leadingNumber (leadingNumber_takeWhile hne) hfits
      exact ⟨release, hrelease⟩
  · intro release hrelease
    obtain ⟨htoken, hnumber⟩ := ofToken?_eq_some_iff.1 hrelease
    exact ⟨htoken, (leadingNumber_iff.1 hnumber).2⟩
  · intro zeros n rest htoken hrest hfits
    exact exists_ofToken?_of_leadingNumber (htoken ▸ leadingNumber_numeral zeros n hrest) hfits
  · intro zeros n more rest htoken hmore hrest hwide
    refine ofToken?_eq_none_iff.2 (.inr ⟨_, ?_, hwide⟩)
    refine ⟨numeral zeros n ++ more, rest, htoken, ?_, ?_, hrest, rfl⟩
    · exact List.append_ne_nil_of_left_ne_nil (numeral_ne_nil zeros n) more
    · exact List.forall_mem_append.2 ⟨fun _ => isDigit_of_mem_numeral, hmore⟩

theorem greatest_major_and_one_more :
    (∃ release, ofToken? "0004294967295.0.2" = some release ∧
      release.major.toNat = 4294967295) ∧
    ofToken? "0004294967296-ea" = none := by
  constructor
  · exact (leading_digits_decide "0004294967295.0.2").2.1 3 4294967295 ['.', '0', '.', '2']
      (by decide +kernel) (by simp) (by decide)
  · exact (leading_digits_decide "0004294967296-ea").2.2 3 429496729 ['6'] ['-', 'e', 'a']
      (by decide +kernel) (by simp) (by simp) (by decide +kernel)

/-- A sign and foreign digits do not begin a token, although a word may be written with a sign. -/
example : Word.ofText? ['+', '9'] = some 9 ∧ ofToken? "+9" = none ∧ ofToken? "٩" = none := by
  decide +kernel

end Release
end JavacLaunch
