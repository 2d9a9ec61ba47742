import JavacLaunch.Options.Reader
import JavacLaunch.Proofs.Utf8

/-!
# JavacLaunch.Proofs.Arguments

What a single argument can be: the end of the options, an option by its name, an option together
with a value, or a word.

* `shape_long_iff`: an argument with two dashes is its name and its value, put together again.
* `ofBytes?_eq_some_iff` for switches, parameters and formats: each is found by its own name only.
* `optionSpan_cons_*`: one lemma for each way in which the scan for options goes on or stops.
-/

namespace JavacLaunch

/-- An argument that does not begin with a dash, or is a single dash. -/
def IsWord (arg : Bytes) : Prop :=
  arg.head? = some dash → arg = [dash]

/-- An option, and the value that it has after an equals sign, if any. -/
def withValue (option : Bytes) : Option Bytes → Bytes
  | none => option
  | some value => option ++ equalsSign :: value

theorem shape_word_iff {arg : Bytes} : Shape.ofBytes arg = .word ↔ IsWord arg := by
  match arg with
  | [] => simp [Shape.ofBytes, IsWord]
  | [a] => simp [Shape.ofBytes, IsWord]
  | a :: b :: rest =>
    simp only [Shape.ofBytes, IsWord, List.head?_cons, Option.some.injEq]
    split
    · split <;> simp [*]
    · simp [*]

theorem ne_endOfOptions_of_isWord {arg : Bytes} (h : IsWord arg) : arg ≠ endOfOptions := by
  rintro rfl
  cases shape_word_iff.2 h

theorem ne_equalsSign_of_notMem {name : Bytes} (h : equalsSign ∉ name) :
    ∀ b ∈ name, decide (b ≠ equalsSign) = true := by
  intro b hb
  rw [decide_eq_true_eq]
  exact fun he => h (he ▸ hb)

theorem takeWhile_withValue {name : Bytes} (h : equalsSign ∉ name) (value : Option Bytes) :
    (withValue name value).takeWhile (· ≠ equalsSign) = name := by
  have hne := ne_equalsSign_of_notMem h
  cases value with
  | none =>
    have : (name ++ []).takeWhile _ = _ := List.takeWhile_append_of_pos hne
    simpa [withValue] using this
  | some v => rw [withValue, List.takeWhile_append_of_pos hne]; simp

theorem dropWhile_withValue {name : Bytes} (h : equalsSign ∉ name) (value : Option Bytes) :
    ((withValue name value).dropWhile (· ≠ equalsSign)).tail? = value := by
  have hne := ne_equalsSign_of_notMem h
  cases value with
  | none =>
    have : (name ++ []).dropWhile _ = _ := List.dropWhile_append_of_pos hne
    rw [List.append_nil] at this
    rw [withValue, this]; rfl
  | some v => rw [withValue, List.dropWhile_append_of_pos hne]; simp

theorem withValue_cons (b : UInt8) (option : Bytes) (value : Option Bytes) :
    withValue (b :: option) value = b :: withValue option value := by
  cases value <;> rfl

theorem withValue_takeWhile_dropWhile (bytes : Bytes) :
    withValue (bytes.takeWhile (· ≠ equalsSign)) (bytes.dropWhile (· ≠ equalsSign)).tail? =
      bytes := by
  induction bytes with
  | nil => rfl
  | cons b rest ih =>
    by_cases hb : b = equalsSign
    · simp [hb, withValue]
    · simpa [hb, withValue_cons] using ih

/-- An option with two dashes is read as its name and its value. -/
theorem shape_withValue {name : Bytes} (h : equalsSign ∉ name) (value : Option Bytes) :
    Shape.ofBytes (withValue (endOfOptions ++ name) value) = .long name value := by
  simp only [endOfOptions, List.cons_append, List.nil_append, withValue_cons, Shape.ofBytes,
    if_true, takeWhile_withValue h, dropWhile_withValue h]

/-- An argument with two dashes is its name and its value, put together again. -/
theorem eq_withValue_of_shape {arg name : Bytes} {value : Option Bytes}
    (h : Shape.ofBytes arg = .long name value) : arg = withValue (endOfOptions ++ name) value := by
  match arg with
  | [] => simp [Shape.ofBytes] at h
  | [a] => simp [Shape.ofBytes] at h
  | a :: b :: rest =>
    simp only [Shape.ofBytes] at h
    split at h
    · split at h
      · rename_i ha hb
        cases h
        subst ha hb
        simp only [endOfOptions, List.cons_append, List.nil_append, withValue_cons,
          withValue_takeWhile_dropWhile]
      · cases h
    · cases h

section Names

variable {α : Type} {name : α → String} {all : List α}

/-- Among things with different names, each is found by its own. -/
theorem find?_name_eq_some_iff (hall : ∀ a, a ∈ all) (hname : ∀ a b, name a = name b → a = b)
    {bytes : Bytes} {a : α} :
    (all.find? fun a => Utf8.encode (name a) = bytes) = some a ↔ bytes = Utf8.encode (name a) := by
  constructor
  · intro h
    have := List.find?_some h
    simpa using (of_decide_eq_true this).symm
  · rintro rfl
    cases h : all.find? fun b => Utf8.encode (name b) = Utf8.encode (name a) with
    | none => simpa using List.find?_eq_none.1 h a (hall a)
    | some b =>
      have hb := List.find?_some h
      rw [hname b a (Utf8.encode_injective (of_decide_eq_true hb))]

end Names

theorem Switch.ofBytes?_eq_some_iff {bytes : Bytes} {s : Switch} :
    Switch.ofBytes? bytes = some s ↔ bytes = Utf8.encode s.name :=
  find?_name_eq_some_iff (by intro s; cases s <;> decide)
    (by intro a b; cases a <;> cases b <;> decide)

theorem Parameter.ofBytes?_eq_some_iff {bytes : Bytes} {p : Parameter} :
    Parameter.ofBytes? bytes = some p ↔ bytes = Utf8.encode p.name :=
  find?_name_eq_some_iff (by intro p; cases p <;> decide)
    (by intro a b; cases a <;> cases b <;> decide)

theorem Format.ofBytes?_eq_some_iff {bytes : Bytes} {f : Format} :
    Format.ofBytes? bytes = some f ↔ bytes = Utf8.encode f.name :=
  find?_name_eq_some_iff (by intro f; cases f <;> decide)
    (by intro a b; cases a <;> cases b <;> decide)

theorem Switch.exists_name (s : Switch) :
    ∃ name, equalsSign ∉ name ∧ Utf8.encode s.name = endOfOptions ++ name :=
  ⟨(Utf8.encode s.name).drop 2, by cases s <;> decide, by cases s <;> decide⟩

theorem Parameter.exists_name (p : Parameter) :
    ∃ name, equalsSign ∉ name ∧ Utf8.encode p.name = endOfOptions ++ name :=
  ⟨(Utf8.encode p.name).drop 2, by cases p <;> decide, by cases p <;> decide⟩

/-- No option is at once one with a value and one without. -/
theorem Switch.ofBytes?_parameter (p : Parameter) : Switch.ofBytes? (Utf8.encode p.name) = none := by
  cases p <;> decide

theorem Parameter.ofBytes?_switch (s : Switch) : Parameter.ofBytes? (Utf8.encode s.name) = none := by
  cases s <;> decide

theorem shape_switch (s : Switch) :
    ∃ name, Shape.ofBytes (Utf8.encode s.name) = .long name none ∧
      endOfOptions ++ name = Utf8.encode s.name := by
  obtain ⟨name, h, hname⟩ := s.exists_name
  exact ⟨name, by rw [hname]; exact shape_withValue h none, hname.symm⟩

theorem shape_parameter (p : Parameter) (value : Option Bytes) :
    ∃ name, Shape.ofBytes (withValue (Utf8.encode p.name) value) = .long name value ∧
      endOfOptions ++ name = Utf8.encode p.name := by
  obtain ⟨name, h, hname⟩ := p.exists_name
  exact ⟨name, by rw [hname]; exact shape_withValue h value, hname.symm⟩

theorem Parameter.ofBytes?_withValue (p : Parameter) (value : Bytes) :
    Parameter.ofBytes? (withValue (Utf8.encode p.name) (some value)) = none := by
  cases h : Parameter.ofBytes? (withValue (Utf8.encode p.name) (some value)) with
  | none => rfl
  | some q =>
    rw [Parameter.ofBytes?_eq_some_iff] at h
    obtain ⟨_, hp, _⟩ := shape_parameter p (some value)
    obtain ⟨_, hq, _⟩ := shape_parameter q none
    rw [h] at hp
    simp [withValue, hp] at hq

theorem isText_withValue (p : Parameter) (value : Bytes) :
    Utf8.isText (withValue (Utf8.encode p.name) (some value)) = Utf8.isText value := by
  have : withValue (Utf8.encode p.name) (some value) = Utf8.encode (p.name ++ "=") ++ value := by
    rw [Utf8.encode_append, withValue, List.append_assoc]
    rfl
  rw [this, Utf8.isText_encode_append]

/-! ## The scan for options -/

theorem optionSpan_cons (arg : Bytes) (rest : List Bytes) :
    optionSpan (arg :: rest) =
      if Utf8.isText arg = false then 0
      else if arg = endOfOptions then 1
      else if Shape.ofBytes arg = .word then 0
      else if (Parameter.ofBytes? arg).isSome then 2 + optionSpan rest.tail
      else 1 + optionSpan rest := by
  rw [optionSpan.eq_def]
  cases rest <;> simp [optionSpan]

theorem optionSpan_end (rest : List Bytes) : optionSpan (endOfOptions :: rest) = 1 := by
  rw [optionSpan_cons, if_neg (by decide), if_pos rfl]

theorem optionSpan_word {arg : Bytes} (h : IsWord arg) (rest : List Bytes) :
    optionSpan (arg :: rest) = 0 := by
  rw [optionSpan_cons, if_neg (ne_endOfOptions_of_isWord h), if_pos (shape_word_iff.2 h), ite_self]

theorem optionSpan_option {arg name : Bytes} {value : Option Bytes}
    (htext : Utf8.isText arg = true) (hshape : Shape.ofBytes arg = .long name value)
    (hend : arg ≠ endOfOptions) (hp : Parameter.ofBytes? arg = none) (rest : List Bytes) :
    optionSpan (arg :: rest) = 1 + optionSpan rest := by
  rw [optionSpan_cons]
  simp [htext, hend, hshape, hp]

theorem optionSpan_switch (s : Switch) (rest : List Bytes) :
    optionSpan (Utf8.encode s.name :: rest) = 1 + optionSpan rest := by
  obtain ⟨_, hshape, _⟩ := shape_switch s
  exact optionSpan_option (Utf8.isText_encode _) hshape (by cases s <;> decide)
    (Parameter.ofBytes?_switch s) rest

theorem optionSpan_joined (p : Parameter) {value : Bytes} (h : Utf8.isText value = true)
    (rest : List Bytes) :
    optionSpan (withValue (Utf8.encode p.name) (some value) :: rest) = 1 + optionSpan rest := by
  obtain ⟨_, hshape, _⟩ := shape_parameter p (some value)
  refine optionSpan_option (by rw [isText_withValue, h]) hshape ?_
    (Parameter.ofBytes?_withValue p value) rest
  intro hend
  rw [hend] at hshape
  cases hshape

/-- Whatever follows an option that takes a value is skipped with it. -/
theorem optionSpan_apart (p : Parameter) (rest : List Bytes) :
    optionSpan (Utf8.encode p.name :: rest) = 2 + optionSpan rest.tail := by
  obtain ⟨_, hshape, _⟩ := shape_parameter p none
  have hp : Parameter.ofBytes? (Utf8.encode p.name) = some p := Parameter.ofBytes?_eq_some_iff.2 rfl
  have hend : Utf8.encode p.name ≠ endOfOptions := by cases p <;> decide
  have hword : Shape.ofBytes (Utf8.encode p.name) ≠ .word := by
    rw [show Shape.ofBytes (Utf8.encode p.name) = _ from hshape]
    exact Shape.noConfusion
  rw [optionSpan_cons, if_neg (by simp), if_neg hend, if_neg hword, hp]
  rfl

/-- What follows does not matter to a scan that stops before the end. -/
theorem optionSpan_append {own : List Bytes} (h : optionSpan own < own.length) (t : List Bytes) :
    optionSpan (own ++ t) = optionSpan own := by
  fun_induction optionSpan own with
  | case1 => simp at h
  | case2 arg rest htext => rw [List.cons_append, optionSpan_cons, if_pos (by simpa using htext)]
  | case3 rest htext => exact optionSpan_end _
  | case4 arg rest htext hend hword => exact optionSpan_word (shape_word_iff.1 hword) _
  | case5 arg htext hend hword hp => simp at h
  | case6 arg htext hend hword hp v rest ih =>
    rw [List.length_cons, List.length_cons] at h
    have htext : Utf8.isText arg = true := by simpa using htext
    rw [List.cons_append, optionSpan_cons]
    simp [htext, hend, hword, hp, ih (by omega)]
  | case7 arg rest htext hend hword hp ih =>
    rw [List.length_cons] at h
    have htext : Utf8.isText arg = true := by simpa using htext
    rw [List.cons_append, optionSpan_cons]
    simp [htext, hend, hword, hp, ih (by omega)]

end JavacLaunch
