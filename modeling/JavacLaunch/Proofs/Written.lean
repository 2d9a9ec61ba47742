import JavacLaunch.Proofs.Front
import JavacLaunch.Toml.Document

/-!
# JavacLaunch.Proofs.Written

A plain way of writing TOML values, and that each is read back.

Strings are basic strings on one line. Double quotes, backslashes and control characters other than
the tab are written by their code points in four digits, all other characters as they are.

* `basicBody_writeChar`: one character, before any rest.
* `string?_writeString`: a string, before a rest that does not lengthen its quotes.
* `items?_writeItems`: the strings of an array.
* `scalar?_writeNumber`: a number.
* `valueOf?_writeString`, `valueOf?_writeList`, `valueOf?_writeNumber`: each as a value at any
  depth.
-/

namespace JavacLaunch
namespace Toml

/-- The letters of hexadecimal digits. -/
inductive Hex where
  | lower
  | upper
deriving DecidableEq, Repr

def Hex.digit : Hex → Nat → Char
  | .lower, n => Nat.digitChar n
  | .upper, n => (Nat.digitChar n).toUpper

def Hex.four (hex : Hex) (n : Nat) : List Char :=
  [hex.digit (n / 4096 % 16), hex.digit (n / 256 % 16), hex.digit (n / 16 % 16), hex.digit (n % 16)]

/-- Characters that are not written as they are. -/
def isEscaped (c : Char) : Bool :=
  c = '"' || c = '\\' || c.toNat ≤ 0x08 || (0x0A ≤ c.toNat && c.toNat ≤ 0x1F) || c.toNat = 0x7F

def writeChar (hex : Hex) (c : Char) : List Char :=
  if isEscaped c then '\\' :: 'u' :: hex.four c.toNat else [c]

def writeString (hex : Hex) (s : String) : List Char :=
  '"' :: (s.toList.flatMap (writeChar hex) ++ ['"'])

/-- Strings with a comma and a space between them. -/
def writeItems (hex : Hex) (items : List String) : List Char :=
  [',', ' '].intercalate (items.map (writeString hex))

def writeList (hex : Hex) (items : List String) : List Char :=
  '[' :: (writeItems hex items ++ [']'])

def writeNumber (n : Nat) : List Char :=
  Nat.toDigits 10 n

section Strings

variable {hex : Hex} {c : Char} {rest : List Char}

theorem digitValue?_digit (hex : Hex) {n : Nat} (h : n < 16) :
    digitValue? (hex.digit n) = some n := by
  have hall : ∀ n < 16, digitValue? (hex.digit n) = some n := by
    cases hex <;> decide
  exact hall n h

theorem plain_of_not_isEscaped (h : isEscaped c = false) :
    c ≠ '"' ∧ c ≠ '\\' ∧ isPlain c = true := by
  simp only [isEscaped, Bool.or_eq_false_iff, Bool.and_eq_false_iff, decide_eq_false_iff_not] at h
  obtain ⟨⟨⟨⟨hquote, hbackslash⟩, hlow⟩, hmiddle⟩, hdel⟩ := h
  refine ⟨hquote, hbackslash, ?_⟩
  by_cases htab : c.toNat = 0x09
  · have hc : c = '\t' := Char.toNat_inj.1 htab
    simp [isPlain, hc]
  · have hrange : 0x20 ≤ c.toNat := by omega
    simp [isPlain, hrange, hdel]

theorem toNat_lt_of_isEscaped (h : isEscaped c = true) : c.toNat < 0x80 := by
  simp only [isEscaped, Bool.or_eq_true, Bool.and_eq_true, decide_eq_true_iff] at h
  rcases h with (((rfl | rfl) | hlow) | hmiddle) | hdel
  · decide
  · decide
  all_goals omega

theorem basicBody_plain (hquote : c ≠ '"') (hbackslash : c ≠ '\\') (hplain : isPlain c = true)
    (rest : List Char) : basicBody none (c :: rest) = consBody c (basicBody none rest) := by
  rw [basicBody, if_neg hquote, if_neg hbackslash, if_pos hplain]

theorem basicBody_backslash (rest : List Char) :
    basicBody none ('\\' :: rest) = basicBody (some .letter) rest := by
  rw [basicBody, if_neg (by decide), if_pos rfl]

theorem basicBody_quote (rest : List Char) : basicBody none ('"' :: rest) = some ([], rest) := by
  rw [basicBody, if_pos rfl]

theorem basicBody_four (hex : Hex) (rest : List Char) {n : Nat} (h : n < 0x10000)
    (hvalid : n.isValidChar) :
    basicBody (some .letter) ('u' :: (hex.four n ++ rest)) =
      consBody (Char.ofNat n) (basicBody none rest) := by
  have hdigit (m : Nat) := digitValue?_digit hex (show m % 16 < 16 by omega)
  have hvalue : 16 * (16 * (16 * (16 * 0 + n / 4096 % 16) + n / 256 % 16) + n / 16 % 16) + n % 16
      = n := by omega
  simp only [Hex.four, List.cons_append, List.nil_append, basicBody, Escape.push, if_true, hdigit,
    hvalue, hvalid]

/-- A written character is read, whatever follows. -/
theorem basicBody_writeChar (hex : Hex) (c : Char) (rest : List Char) :
    basicBody none (writeChar hex c ++ rest) = consBody c (basicBody none rest) := by
  unfold writeChar
  split
  · rename_i hescaped
    have hsmall : c.toNat < 0x10000 := by
      have := toNat_lt_of_isEscaped hescaped
      omega
    rw [List.cons_append, List.cons_append, basicBody_backslash,
      basicBody_four hex rest hsmall c.valid, Char.ofNat_toNat]
  · rename_i hplain
    obtain ⟨hquote, hbackslash, hplain⟩ := plain_of_not_isEscaped (Bool.eq_false_iff.2 hplain)
    exact basicBody_plain hquote hbackslash hplain rest

theorem basicBody_flatMap (hex : Hex) (cs rest : List Char) :
    basicBody none (cs.flatMap (writeChar hex) ++ '"' :: rest) = some (cs, rest) := by
  induction cs with
  | nil => exact basicBody_quote rest
  | cons c cs ih =>
    rw [List.flatMap_cons, List.append_assoc, basicBody_writeChar, ih]
    rfl

theorem head?_writeChar_ne (hex : Hex) (c : Char) (rest : List Char) :
    (writeChar hex c ++ rest).head? ≠ some '"' := by
  unfold writeChar
  split
  · simp
  · rename_i hplain
    have hquote := (plain_of_not_isEscaped (Bool.eq_false_iff.2 hplain)).1
    simpa using hquote

theorem writeString_append (hex : Hex) (s : String) (rest : List Char) :
    writeString hex s ++ rest = '"' :: (s.toList.flatMap (writeChar hex) ++ '"' :: rest) := by
  simp [writeString]

/-- Three quotes do not open a string on one line. -/
theorem string?_of_ne {s : List Char} (h : ∀ rest, s ≠ '"' :: '"' :: rest) :
    string? ('"' :: s) = lineString? ('"' :: s) := by
  unfold string?
  split
  · rename_i rest heq
    exact absurd (List.cons.inj heq).2 (h rest)
  · rename_i heq
    cases heq
  · rfl

theorem string?_writeString (hex : Hex) (s : String) (h : rest.head? ≠ some '"') :
    string? (writeString hex s ++ rest) = some (s, rest) := by
  -- the string may be empty, so its two quotes could become three with a rest that begins with one
  have hquotes : ∀ more, s.toList.flatMap (writeChar hex) ++ '"' :: rest ≠ '"' :: '"' :: more := by
    intro more heq
    cases hs : s.toList with
    | nil =>
      rw [hs] at heq
      simp only [List.flatMap_nil, List.nil_append, List.cons.injEq, true_and] at heq
      rw [heq] at h
      exact h rfl
    | cons c cs =>
      rw [hs, List.flatMap_cons, List.append_assoc] at heq
      exact head?_writeChar_ne hex c _ (by rw [heq]; rfl)
  rw [writeString_append, string?_of_ne hquotes, lineString?, basicBody_flatMap, Option.map_some]
  simp only [String.ofList_toList]

theorem valueOf?_writeString (hex : Hex) (s : String) (depth : Nat) (h : rest.head? ≠ some '"') :
    valueOf? depth (writeString hex s ++ rest) = some (.string s, rest) := by
  have hsimple : valueOf? depth (writeString hex s ++ rest) =
      (string? (writeString hex s ++ rest)).map fun read => (.string read.1, read.2) := by
    cases depth <;> rfl
  rw [hsimple, string?_writeString hex s h]
  rfl

end Strings

section Lists

variable {hex : Hex} {item : Reads Value} {rest : List Char}

/-- Characters in front of which nothing is skipped. -/
def beginsText (c : Char) : Bool :=
  !isSpace c && c ≠ '\n' && c ≠ '\r' && c ≠ '#'

theorem skipBlank_cons {c : Char} (h : beginsText c = true) (rest : List Char) :
    skipBlank (c :: rest) = c :: rest := by
  simp only [beginsText, Bool.and_eq_true, Bool.not_eq_true', decide_eq_true_iff] at h
  obtain ⟨⟨⟨hspace, hfeed⟩, hreturn⟩, hhash⟩ := h
  simp [skipBlank, skipBlankFrom, hfeed, hreturn, hspace, hhash]

theorem skipBlank_writeString (hex : Hex) (s : String) (rest : List Char) :
    skipBlank (writeString hex s ++ rest) = writeString hex s ++ rest :=
  skipBlank_cons (by decide) _

theorem items?_end (fuel : Nat) (rest : List Char) :
    items? item (fuel + 1) (']' :: rest) = some ([], rest) := by
  rw [items?, skipBlank_cons (by decide)]
  rfl

theorem items?_space (fuel : Nat) (s : List Char) :
    items? item fuel (' ' :: s) = items? item fuel s := by
  cases fuel with
  | zero => rfl
  | succ fuel => rfl

variable (hitem : ∀ s rest, rest.head? ≠ some '"' →
  item (writeString hex s ++ rest) = some (.string s, rest))
include hitem

theorem items?_comma (fuel : Nat) (s : String) (rest : List Char) :
    items? item (fuel + 1) (writeString hex s ++ ',' :: rest) =
      (items? item fuel rest).map fun (vs, rest) => (.string s :: vs, rest) := by
  rw [items?, skipBlank_writeString]
  split
  · rename_i heq
    cases heq
  · rw [hitem s _ (by simp)]
    simp only [skipBlank_cons (c := ',') (by decide)]

theorem items?_last (fuel : Nat) (s : String) (rest : List Char) :
    items? item (fuel + 1) (writeString hex s ++ ']' :: rest) = some ([.string s], rest) := by
  rw [items?, skipBlank_writeString]
  split
  · rename_i heq
    cases heq
  · rw [hitem s _ (by simp)]
    simp only [skipBlank_cons (c := ']') (by decide)]

theorem items?_writeItems (items : List String) (rest : List Char) {fuel : Nat}
    (h : items.length < fuel) :
    items? item fuel (writeItems hex items ++ ']' :: rest) = some (items.map .string, rest) := by
  induction items generalizing fuel with
  | nil =>
    obtain ⟨fuel, rfl⟩ := Nat.exists_eq_add_one_of_ne_zero (Nat.ne_of_gt h)
    exact items?_end fuel rest
  | cons s items ih =>
    obtain ⟨fuel, rfl⟩ := Nat.exists_eq_add_one_of_ne_zero (Nat.ne_zero_of_lt h)
    have hfuel : items.length < fuel := Nat.lt_of_succ_lt_succ h
    -- what stands behind an item depends on whether it is the last one
    cases items with
    | nil =>
      have hone : writeItems hex [s] = writeString hex s := List.intercalate_singleton
      rw [hone, items?_last hitem]
      rfl
    | cons t items =>
      have hsplit : writeItems hex (s :: t :: items) ++ ']' :: rest =
          writeString hex s ++ ',' :: ' ' :: (writeItems hex (t :: items) ++ ']' :: rest) := by
        simp [writeItems]
      rw [hsplit, items?_comma hitem, items?_space, ih hfuel]
      rfl

omit hitem

theorem length_le_length_writeItems (hex : Hex) (items : List String) :
    items.length ≤ (writeItems hex items).length := by
  induction items with
  | nil => exact Nat.le_refl 0
  | cons s items ih =>
    cases items with
    | nil => simp [writeItems, writeString]
    | cons t items =>
      simp only [writeItems, List.map_cons, List.intercalate_cons_cons, List.length_append,
        List.length_cons] at ih ⊢
      omega

theorem valueOf?_writeList (hex : Hex) (items : List String) (depth : Nat) (rest : List Char) :
    valueOf? (depth + 1) (writeList hex items ++ rest) =
      some (.array (items.map .string), rest) := by
  have harray : valueOf? (depth + 1) (writeList hex items ++ rest) =
      array? (valueOf? depth) (writeItems hex items ++ ']' :: rest) := by
    simp [writeList, valueOf?]
  have hfuel : items.length < (writeItems hex items ++ ']' :: rest).length + 1 := by
    have := length_le_length_writeItems hex items
    rw [List.length_append]
    omega
  have hitem (s : String) (rest : List Char) (h : rest.head? ≠ some '"') :=
    valueOf?_writeString hex s depth h
  rw [harray, array?, items?_writeItems hitem items rest hfuel]
  rfl

end Lists

section Numbers

variable {ds rest : List Char} {n : Nat}

theorem head?_toDigits (h : 0 < n) : (Nat.toDigits 10 n).head? ≠ some '0' := by
  induction n using Nat.strongRecOn with
  | ind n ih =>
    rw [Nat.toDigits_eq_if (by decide)]
    split
    · rename_i hsmall
      have hall : ∀ n < 10, 0 < n → [Nat.digitChar n].head? ≠ some '0' := by decide
      exact hall n hsmall h
    · have hhead := ih (n / 10) (by omega) (by omega)
      have hne : Nat.toDigits 10 (n / 10) ≠ [] := Nat.toDigits_ne_nil
      obtain ⟨d, ds, hds⟩ := List.exists_cons_of_ne_nil hne
      rw [hds] at hhead ⊢
      exact hhead

theorem digitValue?_of_isDigit {c : Char} (h : c.isDigit = true) :
    digitValue? c = some (c.toNat - '0'.toNat) :=
  if_pos h

theorem isDigitOf_ten {c : Char} (h : c.isDigit = true) : isDigitOf 10 c = true := by
  have hrange : '0'.toNat ≤ c.toNat ∧ c.toNat ≤ '9'.toNat := Char.isDigit_iff_toNat.1 h
  have hzero : '0'.toNat = 48 := rfl
  have hnine : '9'.toNat = 57 := rfl
  rw [isDigitOf, digitValue?_of_isDigit h, Option.any_some, decide_eq_true_iff]
  omega

theorem isDigit_of_mem_writeNumber : ∀ c ∈ writeNumber n, c.isDigit = true := by
  intro c hc
  exact Nat.isDigit_of_mem_toDigits (by decide) (by decide) hc

section Digits

variable (h : ∀ c ∈ ds, c.isDigit = true)
include h

theorem notMem_of_isDigit {c : Char} (hc : c.isDigit = false) : c ∉ ds := by
  intro hmem
  rw [h c hmem] at hc
  cases hc

theorem digits?_of_isDigit (hne : ds ≠ []) : digits? 10 ds = some ds := by
  induction ds with
  | nil => exact absurd rfl hne
  | cons c ds ih =>
    rw [List.forall_mem_cons] at h
    cases ds with
    | nil => rw [digits?, if_pos (isDigitOf_ten h.1)]
    | cons d ds =>
      have hd : d ≠ '_' := by
        rintro rfl
        exact notMem_of_isDigit h.2 (by decide) List.mem_cons_self
      rw [digits?, if_pos (isDigitOf_ten h.1), if_neg hd, ih h.2 (List.cons_ne_nil d ds)]
      rfl

theorem ofDigits_eq : ofDigits 10 ds = Nat.ofDigitChars 10 ds 0 := by
  have hfold (init : Nat) :
      ds.foldl (fun n c => 10 * n + (digitValue? c).getD 0) init = Nat.ofDigitChars 10 ds init := by
    induction ds generalizing init with
    | nil => rfl
    | cons c ds ih =>
      rw [List.forall_mem_cons] at h
      rw [List.foldl_cons, ih h.2, digitValue?_of_isDigit h.1, Nat.ofDigitChars_cons]
      rfl
  exact hfold 0

theorem isDate_of_isDigit : isDate ds = false := by
  unfold isDate
  split
  · exact absurd (by simp) (notMem_of_isDigit h (c := '-') (by decide))
  · rfl

theorem isTime_of_isDigit : isTime ds = false := by
  unfold isTime
  split
  · exact absurd (by simp) (notMem_of_isDigit h (c := ':') (by decide))
  · rfl

theorem isDateTime_of_isDigit : isDateTime ds = false := by
  have htake : isDate (ds.take 10) = false :=
    isDate_of_isDigit fun c hc => h c (List.mem_of_mem_take hc)
  simp [isDateTime, isDate_of_isDigit h, isTime_of_isDigit h, htake]

theorem splitSign_of_isDigit : splitSign ds = (false, ds) := by
  unfold splitSign
  split
  · exact absurd (by simp) (notMem_of_isDigit h (c := '-') (by decide))
  · exact absurd (by simp) (notMem_of_isDigit h (c := '+') (by decide))
  · rfl

theorem integer?_of_isDigit :
    integer? ds = (wholeDigits? ds).bind fun ds => inRange? (ofDigits 10 ds) := by
  unfold integer?
  split
  · exact absurd (by simp) (notMem_of_isDigit h (c := 'x') (by decide))
  · exact absurd (by simp) (notMem_of_isDigit h (c := 'o') (by decide))
  · exact absurd (by simp) (notMem_of_isDigit h (c := 'b') (by decide))
  · rw [splitSign_of_isDigit h]
    rfl

theorem isTokenChar_of_isDigit {c : Char} (hc : c ∈ ds) : isTokenChar c = true := by
  simp [isTokenChar, Char.isAlphanum, h c hc]

end Digits

theorem wholeDigits?_writeNumber (n : Nat) :
    wholeDigits? (writeNumber n) = some (writeNumber n) := by
  have hdigits := digits?_of_isDigit isDigit_of_mem_writeNumber (Nat.toDigits_ne_nil (n := n))
  unfold wholeDigits?
  split
  · -- only the number zero begins with a zero
    rename_i d ds hds
    rw [hdigits, Option.some.injEq] at hds
    cases n with
    | zero => cases hds
    | succ n =>
      have hhead := head?_toDigits (Nat.succ_pos n)
      rw [writeNumber] at hds
      rw [hds] at hhead
      exact absurd rfl hhead
  · exact hdigits

theorem inRange?_natCast (h : n < 0x8000000000000000) : inRange? (n : Int) = some (n : Int) := by
  have hleast : (-0x8000000000000000 : Int) ≤ n := by omega
  have hgreatest : (n : Int) < 0x8000000000000000 := by omega
  simp only [inRange?, hleast, hgreatest, decide_true, Bool.and_self, if_true]

theorem ofDigits_writeNumber (n : Nat) : ofDigits 10 (writeNumber n) = n := by
  rw [ofDigits_eq isDigit_of_mem_writeNumber, writeNumber,
    Nat.ofDigitChars_toDigits (by decide) (by decide)]

theorem integer?_writeNumber (h : n < 0x8000000000000000) :
    integer? (writeNumber n) = some (n : Int) := by
  rw [integer?_of_isDigit isDigit_of_mem_writeNumber, wholeDigits?_writeNumber, Option.bind_some,
    ofDigits_writeNumber, inRange?_natCast h]

theorem ofToken?_writeNumber (h : n < 0x8000000000000000) :
    Value.ofToken? (writeNumber n) = some (.integer n) := by
  have hdigits : ∀ c ∈ writeNumber n, c.isDigit = true := isDigit_of_mem_writeNumber
  unfold Value.ofToken?
  split
  · rename_i heq
    exact absurd (hdigits 't' (by simp [heq])) (by decide)
  · rename_i heq
    exact absurd (hdigits 'f' (by simp [heq])) (by decide)
  · rw [isDateTime_of_isDigit hdigits, integer?_writeNumber h]
    rfl

theorem takeWhile_isTokenChar (h : ∀ c ∈ ds, c.isDigit = true)
    (hrest : ∀ c ∈ rest.head?, isTokenChar c = false) :
    (ds ++ rest).takeWhile isTokenChar = ds ∧ (ds ++ rest).dropWhile isTokenChar = rest := by
  have htoken : ∀ c ∈ ds, isTokenChar c = true := fun c => isTokenChar_of_isDigit h
  exact ⟨takeWhile_front_append htoken hrest, dropWhile_front_append htoken hrest⟩

theorem scalar?_writeNumber (h : n < 0x8000000000000000)
    (hrest : ∀ c ∈ rest.head?, isTokenChar c = false) :
    scalar? (writeNumber n ++ rest) = some (.integer n, rest) := by
  have hdigits : ∀ c ∈ writeNumber n, c.isDigit = true := isDigit_of_mem_writeNumber
  obtain ⟨htake, hdrop⟩ := takeWhile_isTokenChar hdigits hrest
  simp only [scalar?, htake, hdrop, isDate_of_isDigit hdigits, ofToken?_writeNumber h]
  rfl

theorem valueOf?_of_isDigit {d : Char} (h : d.isDigit = true) (depth : Nat) (rest : List Char) :
    valueOf? depth (d :: rest) = scalar? (d :: rest) := by
  have hne {c : Char} (hc : c.isDigit = false) : d ≠ c := by
    rintro rfl
    rw [h] at hc
    cases hc
  have hsimple : simple? (d :: rest) = scalar? (d :: rest) := by
    unfold simple?
    split
    · rename_i heq
      exact absurd (List.cons.inj heq).1 (hne (by decide))
    · rename_i heq
      exact absurd (List.cons.inj heq).1 (hne (by decide))
    · rfl
  cases depth with
  | zero => exact hsimple
  | succ depth =>
    unfold valueOf?
    split
    · rename_i heq
      exact absurd (List.cons.inj heq).1 (hne (by decide))
    · rename_i heq
      exact absurd (List.cons.inj heq).1 (hne (by decide))
    · exact hsimple

theorem valueOf?_writeNumber (h : n < 0x8000000000000000) (depth : Nat)
    (hrest : ∀ c ∈ rest.head?, isTokenChar c = false) :
    valueOf? depth (writeNumber n ++ rest) = some (.integer n, rest) := by
  have hscalar : valueOf? depth (writeNumber n ++ rest) = scalar? (writeNumber n ++ rest) := by
    have hne : writeNumber n ≠ [] := Nat.toDigits_ne_nil
    obtain ⟨d, ds, hds⟩ := List.exists_cons_of_ne_nil hne
    have hd : d.isDigit = true := by
      refine isDigit_of_mem_writeNumber (n := n) d ?_
      rw [hds]
      exact List.mem_cons_self
    rw [hds, List.cons_append, valueOf?_of_isDigit hd]
  rw [hscalar, scalar?_writeNumber h hrest]

end Numbers

end Toml
end JavacLaunch
