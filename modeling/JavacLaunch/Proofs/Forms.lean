import JavacLaunch.Invocation
import JavacLaunch.Proofs.Banner
import JavacLaunch.Proofs.LeadingNumber

/-!
# JavacLaunch.Proofs.Forms

The major number that a version line tells, in each of its two forms.

A form cuts its token out of the version in its own way, but mostly that does not show in the
number. Java's own form reads the part before the first point, whose number is that of the whole
version, unless that part is `1`; then it reads the next part.

* `majorOf?_java`: the number in Java's own form.
* `majorOf?_token_append_quote`: a double quote in the version ends the number as well.
* `forms_differ_by_leading_one`: where the two forms tell different numbers.
* `quotes_behind_version_keep_major`: the version may run on to a later double quote of its line.
-/

namespace JavacLaunch

theorem Strategy.ofMajor_eq_iff {m k : UInt32} {settings : Settings} :
    ofMajor m settings = ofMajor k settings ↔
      (settings.pluginSince ≤ m ↔ settings.pluginSince ≤ k) := by
  by_cases hm : settings.pluginSince ≤ m <;> by_cases hk : settings.pluginSince ≤ k <;>
    simp [ofMajor, hm, hk]

namespace Banner

open Release

/-- A line that ends with its version. -/
def Form.line (form : Form) (version : String) : String :=
  String.ofList form.opening ++ version ++ "\""

section Number

variable {v w : List Char}

theorem takeWhile_eq_one_iff :
    v.takeWhile (· ≠ '.') = ['1'] ↔ v = ['1'] ∨ ∃ rest, v = '1' :: '.' :: rest := by
  match v with
  | [] => simp
  | [c] => by_cases hc : c = '.' <;> simp [hc]
  | c :: d :: rest =>
    by_cases hc : c = '.' <;> by_cases hd : d = '.' <;> simp [hc, hd]

theorem majorOf?_takeWhile (v : List Char) : majorOf? (v.takeWhile (· ≠ '.')) = majorOf? v := by
  have hrest : ∀ c ∈ (v.dropWhile (· ≠ '.')).head?, c.isDigit = false := by
    intro c hc
    have hpoint := head?_dropWhile (· ≠ '.') v c hc
    simp only [ne_eq, decide_not, Bool.not_eq_false', decide_eq_true_iff] at hpoint
    rw [hpoint]
    decide
  rw [← majorOf?_append_of_head _ hrest, List.takeWhile_append_dropWhile]

theorem majorOf?_java_of_ne (h : v.takeWhile (· ≠ '.') ≠ ['1']) :
    majorOf? (Form.java.token v) = majorOf? v := by
  rw [← skipLeadingOne_eq, skipLeadingOne_of_ne h, majorOf?_takeWhile]

theorem majorOf?_java_one (v : List Char) :
    majorOf? (Form.java.token ('1' :: '.' :: v)) = majorOf? v := by
  rw [← skipLeadingOne_eq, skipLeadingOne_one, majorOf?_takeWhile]

theorem majorOf?_of_first_one (h : v.takeWhile (· ≠ '.') = ['1']) : majorOf? v = some 1 := by
  rcases takeWhile_eq_one_iff.1 h with rfl | ⟨rest, rfl⟩
  · rfl
  · exact majorOf?_append_of_head ['1'] (by simp)

theorem token_java_of_one (h : v.takeWhile (· ≠ '.') = ['1']) :
    Form.java.token v = (v.splitOn '.')[1]?.getD [] := by
  have hfirst := getElem?_zero_splitOn v
  rw [h] at hfirst
  exact if_pos hfirst

/-- A double quote in the first part makes it differ from `1`. -/
theorem first_append_quote_ne_one (h : v.takeWhile (· ≠ '.') ≠ ['1']) :
    (v ++ '"' :: w).takeWhile (· ≠ '.') ≠ ['1'] := by
  intro hlonger
  rcases takeWhile_eq_one_iff.1 hlonger with hv | ⟨rest, hv⟩
  · simp [List.append_eq_cons_iff] at hv
  · match v with
    | [] => simp at hv
    | [c] => simp at hv
    | c :: d :: more =>
      simp only [List.cons_append, List.cons.injEq] at hv
      exact h (takeWhile_eq_one_iff.2 (.inr ⟨more, by rw [hv.1, hv.2.1]⟩))

theorem majorOf?_token_append_quote (form : Form) (hone : form = .java → v ≠ ['1']) :
    majorOf? (form.token (v ++ '"' :: w)) = majorOf? (form.token v) := by
  have hquote (s : List Char) : majorOf? (s ++ '"' :: w) = majorOf? s :=
    majorOf?_append_of_head s (by simp)
  cases form with
  | openjdk => exact hquote v
  | java =>
    by_cases hfirst : v.takeWhile (· ≠ '.') = ['1']
    · rcases takeWhile_eq_one_iff.1 hfirst with rfl | ⟨rest, rfl⟩
      · exact absurd rfl (hone rfl)
      · rw [List.cons_append, List.cons_append, majorOf?_java_one, majorOf?_java_one, hquote]
    · rw [majorOf?_java_of_ne (first_append_quote_ne_one hfirst), majorOf?_java_of_ne hfirst,
        hquote]

end Number

section Line

variable {version : String}

theorem newline_notMem_line (form : Form) (h : '\n' ∉ version.toList) :
    '\n' ∉ (form.line version).toList := by
  have hopening : '\n' ∉ form.opening := by
    cases form <;> decide
  simp [Form.line, hopening, h]

theorem Form.cuts_line (form : Form) (hne : version ≠ "") :
    form.Cuts (form.line version).toList version.toList [] where
  line_eq := by simp [Form.line]
  version_ne_nil := by simpa using hne
  quote_notMem := List.not_mem_nil

/-- A line whose version is empty is no version line, and an empty token tells no release. -/
theorem release?_line (form : Form) (h : '\n' ∉ version.toList) :
    release? (form.line version) = ofToken? (String.ofList (form.token version.toList)) := by
  by_cases hne : version = ""
  · subst hne
    cases form <;> rfl
  · rw [release?, token?_eq, scan_of_notMem (newline_notMem_line form h),
      lineToken?_of_cuts (form.cuts_line hne), Option.map_some, Option.bind_some]

theorem map_major_release?_line (form : Form) (h : '\n' ∉ version.toList) :
    (release? (form.line version)).map Release.major = majorOf? (form.token version.toList) := by
  rw [release?_line form h, map_major_ofToken?, String.toList_ofList]

theorem release?_append_of_notMem (banner : String) {more : String} (h : '"' ∉ more.toList) :
    release? (banner ++ more) = release? banner := by
  rw [release?, release?, token?_eq, token?_eq, String.toList_append, scan_append_of_notMem _ h]

end Line

/-- If the first part of a version is not `1`, both forms tell the same number or none. If it is
`1`, then that is the number in the one form, and in Java's own form the second part alone decides:
it is the token, and it tells the number that it begins with. -/
theorem forms_differ_by_leading_one (version : String) (hrow : '\n' ∉ version.toList) :
    let java := release? (Form.java.line version)
    let openjdk := release? (Form.openjdk.line version)
    let first := version.toList.takeWhile (· ≠ '.')
    let second := (version.toList.splitOn '.')[1]?
    (first ≠ ['1'] →
      java.map Release.major = openjdk.map Release.major ∧
      ∀ settings, java.map (fun r => Strategy.ofMajor r.major settings) =
        openjdk.map fun r => Strategy.ofMajor r.major settings) ∧
    (first = ['1'] →
      (∃ o, openjdk = some o ∧ o.major = 1 ∧
        ∀ j settings, java = some j →
          (Strategy.ofMajor j.major settings = Strategy.ofMajor o.major settings ↔
            (settings.pluginSince ≤ j.major ↔ settings.pluginSince ≤ 1))) ∧
      (java = none ↔ second = none ∨ ∃ part, second = some part ∧
        ((∀ c ∈ part.head?, c.isDigit = false) ∨
          ∃ n, LeadingNumber part n ∧ UInt32.size ≤ n)) ∧
      ∀ j, java = some j ↔ ∃ part, second = some part ∧
        j.token = String.ofList part ∧ LeadingNumber part j.major.toNat) := by
  intro java openjdk first second
  refine ⟨fun hfirst => ?_, fun hfirst => ⟨?_, ?_⟩⟩
  · have hmajor : java.map Release.major = openjdk.map Release.major := by
      rw [map_major_release?_line _ hrow, map_major_release?_line _ hrow,
        majorOf?_java_of_ne hfirst]
      rfl
    refine ⟨hmajor, fun settings => ?_⟩
    have hstrategy (found : Option Release) :
        found.map (fun r => Strategy.ofMajor r.major settings) =
          (found.map Release.major).map fun m => Strategy.ofMajor m settings := by
      rw [Option.map_map]
      rfl
    rw [hstrategy, hstrategy, hmajor]
  · have hmajor : openjdk.map Release.major = some 1 := by
      rw [map_major_release?_line _ hrow]
      exact majorOf?_of_first_one hfirst
    obtain ⟨o, ho, hone⟩ := Option.map_eq_some_iff.1 hmajor
    refine ⟨o, ho, hone, fun j settings _ => ?_⟩
    rw [Strategy.ofMajor_eq_iff, hone]
  · have hjava : java = ofToken? (String.ofList (second.getD [])) := by
      rw [← token_java_of_one hfirst]
      exact release?_line .java hrow
    cases hsecond : second with
    | none =>
      have hnone : java = none := by
        rw [hjava, hsecond]
        rfl
      simp [hnone]
    | some part =>
      rw [hsecond, Option.getD_some] at hjava
      rw [hjava, ofToken?_eq_none_iff]
      simp [ofToken?_eq_some_iff]

theorem forms_differ_for_legacy_release :
    ∃ j o, release? (Form.java.line "1.8.0_292") = some j ∧
      release? (Form.openjdk.line "1.8.0_292") = some o ∧ j.major = 8 ∧ o.major = 1 ∧
      Strategy.ofMajor j.major { Settings.standard with pluginSince := 8 } ≠
        Strategy.ofMajor o.major { Settings.standard with pluginSince := 8 } := by
  obtain ⟨⟨o, ho, hone, hagree⟩, -, hjava⟩ :=
    (forms_differ_by_leading_one "1.8.0_292" (by decide)).2 (by decide +kernel)
  have height : LeadingNumber ['8'] 8 :=
    ⟨['8'], [], rfl, by simp, by simp, by simp, rfl⟩
  have hj := (hjava ⟨"8", 8⟩).2 ⟨['8'], by decide +kernel, rfl, height⟩
  refine ⟨_, o, hj, ho, rfl, hone, fun h => ?_⟩
  have hsame := (hagree _ { Settings.standard with pluginSince := 8 } hj).1 h
  simp at hsame

section Trailer

variable {version trailer : String}

/-- The version of a line runs on to the last double quote of the line. -/
theorem line_append_eq (form : Form) {inner outer : List Char}
    (h : trailer.toList = inner ++ '"' :: outer) :
    form.line version ++ trailer =
      form.line (version ++ "\"" ++ String.ofList inner) ++ String.ofList outer := by
  apply String.toList_inj.1
  simp [Form.line, h]

theorem map_major_release?_line_append (form : Form) (hversion : '\n' ∉ version.toList)
    (htrailer : '\n' ∉ trailer.toList) (hone : form = .java → version ≠ "1") :
    (release? (form.line version ++ trailer)).map Release.major =
      (release? (form.line version)).map Release.major := by
  cases hlast : beforeLastQuote? trailer.toList with
  | none => rw [release?_append_of_notMem _ (beforeLastQuote?_eq_none_iff.1 hlast)]
  | some inner =>
    obtain ⟨outer, houter, hsplit⟩ := beforeLastQuote?_eq_some_iff.1 hlast
    have hlonger : (version ++ "\"" ++ String.ofList inner).toList =
        version.toList ++ '"' :: inner := by
      simp
    have hrow : '\n' ∉ (version ++ "\"" ++ String.ofList inner).toList := by
      have hinner : '\n' ∉ inner := fun hmem => htrailer (by simp [hsplit, hmem])
      simp [hlonger, hversion, hinner]
    have hone' : form = .java → version.toList ≠ ['1'] := by
      intro hjava h
      exact hone hjava (String.toList_inj.1 h)
    rw [line_append_eq form hsplit, release?_append_of_notMem _ (by simpa using houter),
      map_major_release?_line form hrow, hlonger, majorOf?_token_append_quote form hone',
      map_major_release?_line form hversion]

end Trailer

/-- Whatever follows the version on its line, further double quotes included, the number stays the
same, although the token may become a longer one. Java's own form needs more than `1` as a version:
the longer first part would no longer be skipped. -/
theorem quotes_behind_version_keep_major (form : Form) (version trailer : String)
    (hversion : '\n' ∉ version.toList) (htrailer : '\n' ∉ trailer.toList)
    (hone : form = .java → version ≠ "1") :
    let short := release? (form.line version)
    let long := release? (form.line version ++ trailer)
    (long = none ↔ short = none) ∧
      ∀ r r', short = some r → long = some r' → r.major = r'.major := by
  intro short long
  have hmajor : long.map Release.major = short.map Release.major :=
    map_major_release?_line_append form hversion htrailer hone
  refine ⟨?_, fun r r' hr hr' => ?_⟩
  · rw [← Option.map_eq_none_iff (f := Release.major), hmajor, Option.map_eq_none_iff]
  · rw [hr, hr', Option.map_some, Option.map_some, Option.some.injEq] at hmajor
    exact hmajor.symm

theorem quotes_behind_version_lengthen_token :
    ∃ r r', release? (Form.java.line "11") = some r ∧
      release? (Form.java.line "11" ++ " \"18.9\" LTS") = some r' ∧
      r.token = "11" ∧ r'.token = "11\" \"18" ∧ r.major = r'.major := by
  obtain ⟨-, hmajor⟩ := quotes_behind_version_keep_major .java "11" " \"18.9\" LTS"
    (by decide) (by decide) (fun _ => by decide)
  exact ⟨⟨"11", 11⟩, ⟨"11\" \"18", 11⟩, rfl, rfl, rfl, rfl, hmajor _ _ rfl rfl⟩

example : release? (Form.java.line "1") = none ∧
    (release? (Form.java.line "1" ++ " \"18.9\"")).map Release.major = some 1 := by
  decide +kernel

end Banner
end JavacLaunch
