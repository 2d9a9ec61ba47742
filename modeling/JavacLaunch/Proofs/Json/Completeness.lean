import JavacLaunch.Proofs.Json.Reader
import JavacLaunch.Proofs.Front

/-!
# JavacLaunch.Proofs.Json.Completeness

The reader finds every value that a text denotes, so a text denotes one value at most.

For each rule of the grammar there is one lemma: a text of the rule is read as what it denotes, in
front of any rest that cannot lengthen it.

* `quoted?_of_quoted`, `number?_of_number`: strings and numbers.
* `Reading`: what must be known of a reader of items, so that rows of such items are read.
* `Reading.enclosed`, `Reading.member`: rows, and the members of an object.
* `reading_value?`: values, by induction on how deep they nest.
* `read?_of_document`, `Document.unique`: whole texts.
-/

namespace JavacLaunch
namespace Json

open Toml (Reads)

section Strings

variable {text rest : List Char} {c : Char} {cs : List Char} {s : String}

theorem codeUnit?_of_codeUnit {n : Nat} (h : CodeUnit text n) (rest : List Char) :
    codeUnit? (text ++ rest) = some (n, rest) := by
  obtain ⟨hlength, hdigits, rfl⟩ := h
  match text, hlength with
  | [a, b, c, d], _ => exact if_pos (List.all_eq_true.2 hdigits)

theorem character?_of_spells (h : Spells text c) (rest : List Char) :
    character? (text ++ rest) = some (c, rest) := by
  cases h with
  | plain hplain =>
    have hbackslash : c ≠ '\\' := by
      rintro rfl
      cases hplain
    simp [character?, hbackslash, hplain]
  | @short letter _ hletter =>
    have hunit : letter ≠ 'u' := by
      rintro rfl
      cases hletter
    rw [List.cons_append, List.cons_append, List.nil_append, character?, hletter, Option.map_some]
    exact hunit
  | unit hunit hvalid => simp [character?, codeUnit?_of_codeUnit hunit, hvalid]
  | @pair first second high low hfirst hlow hhigh hsecond hlow' hhigh' =>
    -- By itself the first half of a pair is no character, so the second half is looked for.
    have hinvalid : ¬ high.isValidChar := by
      unfold Nat.isValidChar
      omega
    simp [character?, lowSurrogate?, codeUnit?_of_codeUnit hfirst, codeUnit?_of_codeUnit hsecond,
      hinvalid, hhigh, hlow', hhigh']

theorem Spells.head (h : Spells text c) : ∃ d ∈ text.head?, d ≠ '"' := by
  cases h with
  | plain hplain =>
    refine ⟨c, rfl, ?_⟩
    rintro rfl
    cases hplain
  | short => exact ⟨'\\', rfl, by decide⟩
  | unit => exact ⟨'\\', rfl, by decide⟩
  | pair => exact ⟨'\\', rfl, by decide⟩

theorem body?_of_body (h : Body text cs) (rest : List Char) {fuel : Nat}
    (hfuel : text.length < fuel) : body? fuel (text ++ '"' :: rest) = some (cs, rest) := by
  induction h generalizing fuel with
  | nil =>
    obtain ⟨fuel, rfl⟩ := Nat.exists_eq_add_one_of_ne_zero (Nat.ne_zero_of_lt hfuel)
    rfl
  | @cons text more c cs hspells _ ih =>
    obtain ⟨fuel, rfl⟩ := Nat.exists_eq_add_one_of_ne_zero (Nat.ne_zero_of_lt hfuel)
    have hread := character?_of_spells hspells (more ++ '"' :: rest)
    obtain ⟨d, hd, hquote⟩ := hspells.head
    obtain ⟨tail, rfl⟩ := List.head?_eq_some_iff.1 hd
    have hmore : more.length < fuel := by
      simp at hfuel
      omega
    have hnext : ∀ s, d :: tail ++ (more ++ '"' :: rest) ≠ '"' :: s := by
      intro s heq
      exact hquote (List.cons.inj heq).1
    rw [List.append_assoc, body?, hread]
    · simp only [ih hmore, Option.map_some]
    · exact hnext

theorem quoted?_of_quoted (h : Quoted text s) (rest : List Char) :
    quoted? (text ++ rest) = some (s, rest) := by
  obtain ⟨hbody⟩ := h
  rename_i body
  have hquoted : '"' :: (body ++ ['"']) ++ rest = '"' :: (body ++ '"' :: rest) := by
    simp
  rw [hquoted, quoted?, body?_of_body hbody rest (by simp)]
  simp only [Option.map_some, String.ofList_toList]

end Strings

/-- What follows a number must not be one of the characters it could go on with. -/
def EndsNumber (rest : List Char) : Prop :=
  ∀ c ∈ rest.head?, c.isDigit = false ∧ c ≠ '.' ∧ c ≠ 'e' ∧ c ≠ 'E'

section Numbers

variable {text digits rest : List Char} {negative : Bool}

theorem EndsNumber.isDigit (h : EndsNumber rest) : ∀ c ∈ rest.head?, c.isDigit = false :=
  fun c hc => (h c hc).1

theorem digits?_of_digits (h : Digits text) (hrest : ∀ c ∈ rest.head?, c.isDigit = false) :
    digits? (text ++ rest) = some (text, rest) := by
  unfold digits?
  rw [takeWhile_front_append h.2 hrest, dropWhile_front_append h.2 hrest]
  split
  · exact absurd rfl h.1
  · rfl

theorem Digits.exists_cons (h : Digits text) : ∃ d ds, text = d :: ds ∧ d.isDigit = true := by
  obtain ⟨d, ds, rfl⟩ := List.exists_cons_of_ne_nil h.1
  exact ⟨d, ds, rfl, h.2 d List.mem_cons_self⟩

theorem ne_of_isDigit {c d : Char} (hc : c.isDigit = true) (hd : d.isDigit = false) : c ≠ d := by
  rintro rfl
  rw [hc] at hd
  cases hd

theorem splitMinus_of_ne {c : Char} (h : c ≠ '-') (s : List Char) :
    splitMinus (c :: s) = (false, c :: s) := by
  unfold splitMinus
  split
  · rename_i heq
    exact absurd (List.cons.inj heq).1 h
  · rfl

theorem splitMinus_of_minus (h : Minus text negative) (hdigits : Digits digits) (rest : List Char) :
    splitMinus (text ++ (digits ++ rest)) = (negative, digits ++ rest) := by
  obtain ⟨d, ds, rfl, hd⟩ := hdigits.exists_cons
  cases h with
  | absent => exact splitMinus_of_ne (ne_of_isDigit hd (by decide)) _
  | present => rfl

theorem splitSign_of_sign (h : Sign text negative) (hdigits : Digits digits) (rest : List Char) :
    splitSign (text ++ (digits ++ rest)) = (negative, digits ++ rest) := by
  cases h with
  | absent =>
    obtain ⟨d, ds, rfl, hd⟩ := hdigits.exists_cons
    have hminus := splitMinus_of_ne (ne_of_isDigit hd (by decide)) (ds ++ rest)
    have hplus : d ≠ '+' := ne_of_isDigit hd (by decide)
    simp [splitSign, hplus, hminus]
  | plus => rfl
  | minus => rfl

theorem whole?_of_whole (h : Whole text) (hrest : ∀ c ∈ rest.head?, c.isDigit = false) :
    whole? (text ++ rest) = some (text, rest) := by
  have hzero : ¬ (text.head? = some '0' && text ≠ ['0']) = true := by
    simpa using h.2
  unfold whole?
  rw [digits?_of_digits h.1 hrest]
  exact if_neg hzero

theorem fraction?_of_fraction (h : Fraction text digits)
    (hrest : ∀ c ∈ rest.head?, c.isDigit = false ∧ c ≠ '.') :
    fraction? (text ++ rest) = some (digits, rest) := by
  cases h with
  | absent =>
    unfold fraction?
    split
    · rename_i s heq
      rw [List.nil_append] at heq
      exact absurd rfl (hrest '.' (by rw [heq]; rfl)).2
    · rfl
  | present hdigits => exact digits?_of_digits hdigits fun c hc => (hrest c hc).1

theorem power?_of_power {exponent : Int} (h : Power text exponent) (hrest : EndsNumber rest) :
    power? (text ++ rest) = some (exponent, rest) := by
  cases h with
  | absent =>
    cases rest with
    | nil => rfl
    | cons c rest =>
      obtain ⟨-, -, he, hE⟩ := hrest c rfl
      simp [power?, he, hE]
  | @present letter text digits negative hletter hsign hdigits =>
    have hpower : (letter = 'e' || letter = 'E') = true := by
      simpa using hletter
    rw [List.cons_append, List.append_assoc, power?, if_pos hpower,
      splitSign_of_sign hsign hdigits rest, digits?_of_digits hdigits hrest.isDigit,
      Option.map_some]

theorem EndsNumber.power {exponent : Int} (h : Power text exponent) (hrest : EndsNumber rest) :
    ∀ c ∈ (text ++ rest).head?, c.isDigit = false ∧ c ≠ '.' := by
  intro c hc
  cases h with
  | absent => exact ⟨(hrest c hc).1, (hrest c hc).2.1⟩
  | present hletter =>
    obtain rfl := Option.some.inj hc
    rcases hletter with rfl | rfl <;> decide

theorem number?_of_number {mantissa exponent : Int} (h : Number text mantissa exponent)
    (hrest : EndsNumber rest) :
    number? (text ++ rest) = some (.number mantissa exponent, rest) := by
  cases h with
  | @mk sign whole point power digits negative exponent hminus hwhole hfraction hpower =>
    have hbehind := EndsNumber.power hpower hrest
    have hpoint : ∀ c ∈ (point ++ (power ++ rest)).head?, c.isDigit = false := by
      intro c hc
      cases hfraction with
      | absent => exact (hbehind c hc).1
      | present =>
        obtain rfl := Option.some.inj hc
        decide
    have htext : sign ++ (whole ++ (point ++ power)) ++ rest =
        sign ++ (whole ++ (point ++ (power ++ rest))) := by
      simp
    rw [htext, number?, splitMinus_of_minus hminus hwhole.1]
    simp only [whole?_of_whole hwhole hpoint, fraction?_of_fraction hfraction hbehind,
      power?_of_power hpower hrest, Option.map_some]

end Numbers

section Space

variable {text rest : List Char}

theorem skipSpace_append (h : Space text) (rest : List Char) :
    skipSpace (text ++ rest) = skipSpace rest :=
  List.dropWhile_append_of_pos h

theorem skipSpace_of_head (h : ∀ c ∈ rest.head?, isSpace c = false) : skipSpace rest = rest :=
  dropWhile_of_head h

/-- What may follow an item, after whitespace: a comma, a closing bracket, or nothing. -/
def EndsItem (rest : List Char) : Prop :=
  ∀ c ∈ rest.head?, c = ',' ∨ c = ']' ∨ c = '\x7d'

theorem EndsItem.cons {c : Char} (h : c = ',' ∨ c = ']' ∨ c = '\x7d') (rest : List Char) :
    EndsItem (c :: rest) := by
  intro d hd
  obtain rfl := Option.some.inj hd
  exact h

theorem EndsItem.skipSpace_eq (h : EndsItem rest) : skipSpace rest = rest := by
  refine skipSpace_of_head fun c hc => ?_
  rcases h c hc with rfl | rfl | rfl <;> decide

theorem EndsItem.endsNumber (h : EndsItem rest) (hspace : Space text) :
    EndsNumber (text ++ rest) := by
  intro c hc
  cases text with
  | nil => rcases h c hc with rfl | rfl | rfl <;> decide
  | cons d text =>
    obtain rfl := Option.some.inj hc
    have hd := hspace d List.mem_cons_self
    simp only [isSpace, Bool.or_eq_true, decide_eq_true_iff, or_assoc] at hd
    rcases hd with rfl | rfl | rfl | rfl <;> decide

end Space

/-- Characters that an item can begin with. -/
def beginsItem (c : Char) : Bool :=
  !isSpace c && c ≠ ']' && c ≠ '\x7d'

/-- Items of at most so many characters are read as what they denote. -/
structure Reading {α : Type} (Item : List Char → α → Prop) (item? : Reads α) (size : Nat) :
    Prop where
  head : ∀ {text : List Char} {x : α}, Item text x → ∃ c ∈ text.head?, beginsItem c = true
  read : ∀ {text rest : List Char} {x : α}, Item text x → text.length ≤ size → EndsNumber rest →
    item? (text ++ rest) = some (x, rest)

section Rows

variable {α : Type} {Item : List Char → α → Prop} {item? : Reads α} {size : Nat}
  {text rest : List Char} {x : α} {xs : List α} {opening closing : Char}

theorem Reading.skipSpace_item (h : Reading Item item? size) (hitem : Item text x)
    (rest : List Char) : skipSpace (text ++ rest) = text ++ rest := by
  refine skipSpace_of_head fun c hc => ?_
  obtain ⟨d, hd, hbegins⟩ := h.head hitem
  obtain ⟨tail, rfl⟩ := List.head?_eq_some_iff.1 hd
  obtain rfl := Option.some.inj hc
  simp only [beginsItem, Bool.and_eq_true, Bool.not_eq_true'] at hbegins
  exact hbegins.1.1

theorem Reading.padded (h : Reading Item item? size) (hpadded : Padded Item text x)
    (hsize : text.length ≤ size) (hrest : EndsItem rest) :
    padded? item? (text ++ rest) = some (x, rest) := by
  cases hpadded with
  | @mk before text after x hbefore hitem hafter =>
    have htext : before ++ (text ++ after) ++ rest = before ++ (text ++ (after ++ rest)) := by
      simp
    have hlength : text.length ≤ size := by
      simp only [List.length_append] at hsize
      omega
    have hbehind : skipSpace (after ++ rest) = rest := by
      rw [skipSpace_append hafter, hrest.skipSpace_eq]
    rw [htext, padded?, skipSpace_append hbefore, h.skipSpace_item hitem,
      h.read hitem hlength (hrest.endsNumber hafter)]
    simp only [Option.map_some, hbehind]

theorem Reading.head_padded (h : Reading Item item? size) (hpadded : Padded Item text x)
    (rest : List Char) : ∃ c ∈ (skipSpace (text ++ rest)).head?, beginsItem c = true := by
  cases hpadded with
  | @mk before text after x hbefore hitem hafter =>
    obtain ⟨c, hc, hbegins⟩ := h.head hitem
    obtain ⟨tail, rfl⟩ := List.head?_eq_some_iff.1 hc
    rw [List.append_assoc, List.append_assoc, skipSpace_append hbefore, h.skipSpace_item hitem]
    exact ⟨c, rfl, hbegins⟩

theorem Reading.head_separated (h : Reading Item item? size) (hrow : Separated Item text xs)
    (rest : List Char) : ∃ c ∈ (skipSpace (text ++ rest)).head?, beginsItem c = true := by
  cases hrow with
  | last hitem => exact h.head_padded hitem rest
  | cons hitem =>
    rw [List.append_assoc]
    exact h.head_padded hitem _

theorem Separated.length_le (h : Separated Item text xs) : xs.length ≤ text.length + 1 := by
  induction h with
  | last => simp
  | cons _ _ ih =>
    simp only [List.length_cons, List.length_append]
    omega

theorem Reading.separated (h : Reading Item item? size)
    (hclosing : closing = ']' ∨ closing = '\x7d') (hrow : Separated Item text xs)
    (hsize : text.length ≤ size) {fuel : Nat} (hfuel : xs.length ≤ fuel) (rest : List Char) :
    separated? item? closing fuel (text ++ closing :: rest) = some (xs, rest) := by
  have hends : EndsItem (closing :: rest) := EndsItem.cons (.inr hclosing) rest
  have hcomma : closing ≠ ',' := by
    rcases hclosing with rfl | rfl <;> decide
  induction hrow generalizing fuel with
  | last hitem =>
    obtain ⟨fuel, rfl⟩ := Nat.exists_eq_add_one_of_ne_zero (Nat.ne_zero_of_lt hfuel)
    rw [separated?, h.padded hitem hsize hends]
    simp [hcomma]
  | @cons text more x xs hitem _ ih =>
    obtain ⟨fuel, rfl⟩ := Nat.exists_eq_add_one_of_ne_zero (Nat.ne_zero_of_lt hfuel)
    simp only [List.length_append, List.length_cons] at hsize hfuel
    have hmore : separated? item? closing fuel (more ++ closing :: rest) = some (xs, rest) :=
      ih (by omega) (by omega)
    rw [List.append_assoc, List.cons_append, separated?,
      h.padded hitem (by omega) (EndsItem.cons (.inl rfl) _)]
    simp [hmore]

/-- A reader of what stands between brackets begins behind the opening one. -/
theorem Reading.enclosed (h : Reading Item item? size)
    (hclosing : closing = ']' ∨ closing = '\x7d') (hrow : Enclosed opening closing Item text xs)
    (hsize : text.length ≤ size + 1) (rest : List Char) :
    ∃ inner, text = opening :: inner ∧
      enclosed? item? closing (inner ++ rest) = some (xs, rest) := by
  cases hrow with
  | @none text hspace =>
    refine ⟨_, rfl, ?_⟩
    have hskip : skipSpace (text ++ [closing] ++ rest) = closing :: rest := by
      rw [List.append_assoc, List.singleton_append, skipSpace_append hspace,
        (EndsItem.cons (.inr hclosing) rest).skipSpace_eq]
    rw [enclosed?, hskip]
    simp
  | @some text xs hrow =>
    refine ⟨_, rfl, ?_⟩
    obtain ⟨c, hc, hbegins⟩ := h.head_separated hrow (closing :: rest)
    have hne : (skipSpace (text ++ closing :: rest)).head? ≠ some closing := by
      rw [Option.mem_def.1 hc]
      intro heq
      obtain rfl := Option.some.inj heq
      rcases hclosing with rfl | rfl <;> cases hbegins
    have hfuel : xs.length ≤ (text ++ closing :: rest).length := by
      have := hrow.length_le
      simp only [List.length_append, List.length_cons]
      omega
    have hlength : text.length ≤ size := by
      simp only [List.length_append, List.length_cons] at hsize
      omega
    rw [List.append_assoc, List.singleton_append, enclosed?, if_neg hne]
    exact h.separated hclosing hrow hlength hfuel rest

end Rows

section Values

variable {item? : Reads Value} {size : Nat} {text rest : List Char} {v : Value}

theorem Quoted.exists_cons {s : String} (h : Quoted text s) : ∃ body, text = '"' :: body := by
  cases h with
  | mk => exact ⟨_, rfl⟩

theorem Reading.member {Item : List Char → Value → Prop} (h : Reading Item item? size) :
    Reading (Member Item) (member? item?) size where
  head := by
    intro text m hmember
    cases hmember with
    | mk hname =>
      obtain ⟨body, rfl⟩ := hname.exists_cons
      exact ⟨'"', rfl, by decide⟩
  read := by
    intro text rest m hmember hsize hrest
    cases hmember with
    | @mk name before after text s v hname hbefore hafter hitem =>
      have htext : name ++ (before ++ ':' :: (after ++ text)) ++ rest =
          name ++ (before ++ ':' :: (after ++ (text ++ rest))) := by
        simp
      have hcolon (s : List Char) : skipSpace (before ++ ':' :: s) = ':' :: s := by
        rw [skipSpace_append hbefore, skipSpace_of_head (by simp [isSpace])]
      have hlength : text.length ≤ size := by
        simp only [List.length_append, List.length_cons] at hsize
        omega
      rw [htext, member?, quoted?_of_quoted hname]
      simp only [hcolon, skipSpace_append hafter, h.skipSpace_item hitem,
        h.read hitem hlength hrest, Option.map_some]

/-- A number begins with its sign or with a digit. -/
theorem Number.exists_cons {mantissa exponent : Int} (h : Number text mantissa exponent) :
    ∃ c tail, text = c :: tail ∧ ∀ d, d ≠ '-' → d.isDigit = false → c ≠ d := by
  cases h with
  | mk hminus hwhole =>
    cases hminus with
    | absent =>
      obtain ⟨c, tail, rfl, hdigit⟩ := hwhole.1.exists_cons
      exact ⟨c, _, rfl, fun d _ hd => ne_of_isDigit hdigit hd⟩
    | present => exact ⟨'-', _, rfl, fun d hd _ => hd.symm⟩

theorem simple?_of_number {mantissa exponent : Int} (h : Number text mantissa exponent)
    (hrest : EndsNumber rest) :
    simple? (text ++ rest) = some (.number mantissa exponent, rest) := by
  have hread := number?_of_number h hrest
  obtain ⟨c, tail, rfl, hne⟩ := h.exists_cons
  have hother (d : Char) (hminus : d ≠ '-') (hdigit : d.isDigit = false) (s : List Char) :
      c :: tail ++ rest ≠ d :: s := by
    intro heq
    exact hne d hminus hdigit (List.cons.inj heq).1
  rw [simple?, hread]
  · exact fun _ => hother 'n' (by decide) (by decide) _
  · exact fun _ => hother 't' (by decide) (by decide) _
  · exact fun _ => hother 'f' (by decide) (by decide) _
  · exact fun _ => hother '"' (by decide) (by decide) _

theorem simple?_of_quoted {s : String} (h : Quoted text s) (rest : List Char) :
    simple? (text ++ rest) = some (.string s, rest) := by
  have hread := quoted?_of_quoted h rest
  obtain ⟨body, rfl⟩ := h.exists_cons
  rw [List.cons_append] at hread ⊢
  rw [simple?, hread, Option.map_some]

theorem value?_of_simple {c : Char} (hbracket : c ≠ '[') (hbrace : c ≠ '\x7b') (depth : Nat)
    (s : List Char) : value? (depth + 1) (c :: s) = simple? (c :: s) := by
  rw [value?, if_neg hbracket, if_neg hbrace]

theorem Denotes.head (h : Denotes text v) : ∃ c ∈ text.head?, beginsItem c = true := by
  cases h with
  | nullWord => exact ⟨'n', rfl, by decide⟩
  | trueWord => exact ⟨'t', rfl, by decide⟩
  | falseWord => exact ⟨'f', rfl, by decide⟩
  | number hnumber =>
    obtain ⟨c, tail, rfl, hne⟩ := hnumber.exists_cons
    refine ⟨c, rfl, ?_⟩
    simp [beginsItem, isSpace, hne]
  | string hquoted =>
    obtain ⟨body, rfl⟩ := hquoted.exists_cons
    exact ⟨'"', rfl, by decide⟩
  | array hrow => cases hrow <;> exact ⟨'[', rfl, by decide⟩
  | object hrow => cases hrow <;> exact ⟨'\x7b', rfl, by decide⟩

/-- Values that nest deeper are longer, so the length of a text bounds how deep it nests. -/
theorem reading_value? (size : Nat) : Reading Denotes (value? size) size := by
  induction size with
  | zero =>
    refine ⟨Denotes.head, ?_⟩
    intro text rest v h hsize
    -- No value is empty.
    obtain ⟨c, hc, -⟩ := h.head
    obtain ⟨tail, rfl⟩ := List.head?_eq_some_iff.1 hc
    simp at hsize
  | succ size ih =>
    refine ⟨Denotes.head, ?_⟩
    intro text rest v h hsize hrest
    cases h with
    | nullWord => rfl
    | trueWord => rfl
    | falseWord => rfl
    | number hnumber =>
      have hread := simple?_of_number hnumber hrest
      obtain ⟨c, tail, rfl, hne⟩ := hnumber.exists_cons
      have hbracket : c ≠ '[' := hne _ (by decide) (by decide)
      have hbrace : c ≠ '\x7b' := hne _ (by decide) (by decide)
      rwa [List.cons_append, value?_of_simple hbracket hbrace]
    | string hquoted =>
      have hread := simple?_of_quoted hquoted rest
      obtain ⟨body, rfl⟩ := hquoted.exists_cons
      rwa [List.cons_append, value?_of_simple (by decide) (by decide)]
    | array hrow =>
      obtain ⟨inner, rfl, hread⟩ := ih.enclosed (.inl rfl) hrow hsize rest
      rw [List.cons_append, value?, if_pos rfl, hread, Option.map_some]
    | object hrow =>
      obtain ⟨inner, rfl, hread⟩ := ih.member.enclosed (.inr rfl) hrow hsize rest
      rw [List.cons_append, value?, if_neg (by decide), if_pos rfl, hread, Option.map_some]

theorem read?_of_document {text : String} (h : Document text.toList v) : read? text = some v := by
  have hends : EndsItem [] := by
    simp [EndsItem]
  have hread := (reading_value? text.length).padded h (Nat.le_of_eq String.length_toList) hends
  rw [List.append_nil] at hread
  rw [read?, hread]

example : read? " [\"\\ud83d\\ude00\\/\" , 1.50E+1,-0] " =
    some (.array [.string "😀/", .number 150 (-1), .number 0 0]) := by rfl

example : read? "[1,]" = none := by rfl

/-- A text denotes one value at most. -/
theorem Document.unique {v' : Value} (h : Document text v) (h' : Document text v') : v = v' := by
  have hread {v : Value} (h : Document text v) : read? (String.ofList text) = some v :=
    read?_of_document (by rwa [String.toList_ofList])
  exact Option.some.inj ((hread h).symm.trans (hread h'))

end Values

end Json
end JavacLaunch
