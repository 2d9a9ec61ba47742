import JavacLaunch.Banner
import JavacLaunch.Proofs.Lines

/-!
# JavacLaunch.Proofs.Banner

The banner that a runtime prints, line by line.

`Form.Cuts` says what a version line is: an opening, a version, a double quote and no more double
quotes. A line can be cut so in one way at most.

* `lineToken?_eq_some_iff`: the token of a line is that of its cut.
* `scan_newline`, `token?_newline`: of two texts with a line feed between them the first one is
  asked first.
* `scan_append_of_notMem`: text without double quotes can be put behind a banner.
* `first_cut_line_decides`: the token of a banner.
-/

namespace JavacLaunch
namespace Banner

/-- The two forms of a version line. -/
inductive Form where
  | java
  | openjdk
deriving DecidableEq, Repr

def Form.opening : Form → List Char
  | .java => javaOpening
  | .openjdk => openjdkOpening

/-- The token that a form makes of a version. Java's own one is what stands before the first point,
or what stands between the first two points if that is 1. -/
def Form.token (form : Form) (version : List Char) : List Char :=
  match form with
  | .openjdk => version
  | .java =>
    let parts := version.splitOn '.'
    if parts[0]? = some ['1'] then parts[1]?.getD [] else parts[0]?.getD []

/-- A line of a form, cut into its opening, its version and what follows its last double quote. -/
structure Form.Cuts (form : Form) (line version trailer : List Char) : Prop where
  line_eq : line = form.opening ++ (version ++ '"' :: trailer)
  version_ne_nil : version ≠ []
  quote_notMem : '"' ∉ trailer

section Quoted

variable {opening line v w x : List Char}

theorem beforeLastQuote?_eq_none_iff : beforeLastQuote? w = none ↔ '"' ∉ w := by
  induction w with
  | nil => simp [beforeLastQuote?]
  | cons c rest ih =>
    rw [beforeLastQuote?, List.mem_cons, not_or, ← ih]
    cases beforeLastQuote? rest with
    | some text => simp
    | none => by_cases hc : c = '"' <;> simp [hc, eq_comm]

theorem beforeLastQuote?_append (v : List Char) (h : '"' ∉ w) :
    beforeLastQuote? (v ++ '"' :: w) = some v := by
  induction v with
  | nil => simp [beforeLastQuote?, beforeLastQuote?_eq_none_iff.2 h]
  | cons c rest ih => rw [List.cons_append, beforeLastQuote?, ih]

theorem beforeLastQuote?_eq_some_iff {s : List Char} :
    beforeLastQuote? s = some v ↔ ∃ w, '"' ∉ w ∧ s = v ++ '"' :: w := by
  constructor
  · intro h
    induction s generalizing v with
    | nil => simp [beforeLastQuote?] at h
    | cons c rest ih =>
      rw [beforeLastQuote?] at h
      split at h
      · rename_i text htext
        cases h
        obtain ⟨w, hw, rfl⟩ := ih htext
        exact ⟨w, hw, rfl⟩
      · rename_i hnone
        split at h
        · rename_i hc
          cases h
          exact ⟨rest, beforeLastQuote?_eq_none_iff.1 hnone, by rw [hc]; rfl⟩
        · cases h
  · rintro ⟨w, hw, rfl⟩
    exact beforeLastQuote?_append v hw

theorem quotedAfter?_append (hv : v ≠ []) (hw : '"' ∉ w) :
    quotedAfter? opening (opening ++ (v ++ '"' :: w)) = some v := by
  have hopening : opening.isPrefixOf (opening ++ (v ++ '"' :: w)) = true :=
    List.isPrefixOf_iff_prefix.2 (List.prefix_append _ _)
  rw [quotedAfter?, if_pos hopening, List.drop_left, beforeLastQuote?_append v hw]
  cases v with
  | nil => exact absurd rfl hv
  | cons c text => rfl

theorem exists_of_quotedAfter? (h : quotedAfter? opening line = some v) :
    v ≠ [] ∧ ∃ w, '"' ∉ w ∧ line = opening ++ (v ++ '"' :: w) := by
  unfold quotedAfter? at h
  split at h
  · rename_i hopening
    obtain ⟨rest, rfl⟩ := List.isPrefixOf_iff_prefix.1 hopening
    rw [List.drop_left] at h
    split at h
    · rename_i c text hquote
      cases h
      obtain ⟨w, hw, rfl⟩ := beforeLastQuote?_eq_some_iff.1 hquote
      exact ⟨List.cons_ne_nil c text, w, hw, rfl⟩
    · cases h
  · cases h

theorem lineToken?_java (hv : v ≠ []) (hw : '"' ∉ w) :
    lineToken? (javaOpening ++ (v ++ '"' :: w)) = some (skipLeadingOne v) := by
  rw [lineToken?, quotedAfter?_append hv hw]

theorem lineToken?_openjdk (hv : v ≠ []) (hw : '"' ∉ w) :
    lineToken? (openjdkOpening ++ (v ++ '"' :: w)) = some v := by
  have hjava : quotedAfter? javaOpening (openjdkOpening ++ (v ++ '"' :: w)) = none := rfl
  rw [lineToken?, hjava]
  exact quotedAfter?_append hv hw

theorem skipLeadingOne_one (v : List Char) :
    skipLeadingOne ('1' :: '.' :: v) = v.takeWhile (· ≠ '.') := rfl

theorem skipLeadingOne_of_ne (h : v.takeWhile (· ≠ '.') ≠ ['1']) :
    skipLeadingOne v = v.takeWhile (· ≠ '.') :=
  if_neg h

theorem getElem?_zero_splitOn (s : List Char) :
    (s.splitOn '.')[0]? = some (s.takeWhile (· ≠ '.')) := by
  induction s with
  | nil => rfl
  | cons c rest ih =>
    rw [List.splitOn_cons_eq_if_modifyHead]
    by_cases hc : c = '.'
    · simp [hc]
    · simp [hc, ih]

theorem skipLeadingOne_eq (v : List Char) : skipLeadingOne v = Form.java.token v := by
  have hhead := getElem?_zero_splitOn v
  by_cases hone : v.takeWhile (· ≠ '.') = ['1']
  · rw [hone] at hhead
    by_cases hdot : '.' ∈ v
    · obtain ⟨first, rest, rfl, hfirst⟩ := List.eq_append_cons_of_mem hdot
      have hparts := List.splitOn_append_cons_self_of_not_mem hfirst rest
      rw [hparts, List.getElem?_cons_zero, Option.some.injEq] at hhead
      subst hhead
      rw [List.singleton_append, skipLeadingOne_one, Form.token, ← List.singleton_append, hparts]
      simp [getElem?_zero_splitOn]
    · rw [List.splitOn_eq_singleton hdot, List.getElem?_cons_zero, Option.some.injEq] at hhead
      subst hhead
      rfl
  · rw [skipLeadingOne_of_ne hone]
    simp only [Form.token, hhead, Option.some.injEq, if_neg hone, Option.getD_some]

end Quoted

section Line

variable {form form' : Form} {line v v' w w' x t : List Char}

theorem lineToken?_of_cuts (h : form.Cuts line v w) : lineToken? line = some (form.token v) := by
  rw [h.line_eq]
  cases form with
  | java =>
    rw [← skipLeadingOne_eq]
    exact lineToken?_java h.version_ne_nil h.quote_notMem
  | openjdk => exact lineToken?_openjdk h.version_ne_nil h.quote_notMem

theorem exists_cuts (h : lineToken? line = some t) :
    ∃ form v w, Form.Cuts form line v w ∧ form.token v = t := by
  unfold lineToken? at h
  split at h
  · rename_i v hv
    obtain ⟨hne, w, hw, hline⟩ := exists_of_quotedAfter? hv
    cases h
    exact ⟨.java, v, w, ⟨hline, hne, hw⟩, (skipLeadingOne_eq v).symm⟩
  · obtain ⟨hne, w, hw, hline⟩ := exists_of_quotedAfter? h
    exact ⟨.openjdk, t, w, ⟨hline, hne, hw⟩, rfl⟩

theorem lineToken?_eq_some_iff :
    lineToken? line = some t ↔ ∃ form v w, Form.Cuts form line v w ∧ form.token v = t := by
  constructor
  · exact exists_cuts
  · rintro ⟨form, v, w, h, rfl⟩
    exact lineToken?_of_cuts h

theorem Form.head?_opening_append (form : Form) (rest : List Char) :
    (form.opening ++ rest).head? = some (match form with | .java => 'j' | .openjdk => 'o') := by
  cases form <;> rfl

theorem Form.Cuts.unique (h : form.Cuts line v w) (h' : form'.Cuts line v' w') :
    form = form' ∧ v = v' ∧ w = w' := by
  have heq := h.line_eq.symm.trans h'.line_eq
  have hform : form = form' := by
    have hhead := congrArg List.head? heq
    rw [Form.head?_opening_append, Form.head?_opening_append] at hhead
    cases form <;> cases form' <;> simp at hhead ⊢
  subst hform
  have hrest := List.append_cancel_left heq
  have hv : v = v' := by
    have := beforeLastQuote?_append v h.quote_notMem
    rw [hrest, beforeLastQuote?_append v' h'.quote_notMem] at this
    exact (Option.some.inj this).symm
  subst hv
  exact ⟨rfl, rfl, (List.cons.inj (List.append_cancel_left hrest)).2⟩

/-- Text without double quotes can be put behind a line. -/
theorem Form.cuts_append_iff (hx : '"' ∉ x) :
    form.Cuts (line ++ x) v w' ↔ ∃ w, form.Cuts line v w ∧ w' = w ++ x := by
  constructor
  · intro h
    have heq : line ++ x = (form.opening ++ v ++ ['"']) ++ w' := by
      simpa using h.line_eq
    rcases List.append_eq_append_iff.1 heq with ⟨more, hmore, hx'⟩ | ⟨more, rfl, rfl⟩
    · -- the last double quote cannot stand in what is put behind the line
      rcases List.eq_nil_or_concat more with rfl | ⟨init, c, rfl⟩
      · refine ⟨[], ⟨by simpa using hmore.symm, h.version_ne_nil, List.not_mem_nil⟩, ?_⟩
        simpa using hx'.symm
      · have hc : ['"'] = [c] := by
          rw [List.concat_eq_append, ← List.append_assoc] at hmore
          exact (List.append_inj' hmore rfl).2
        simp [hx', ← hc] at hx
    · have hw : '"' ∉ more := fun hmem => h.quote_notMem (List.mem_append_left _ hmem)
      exact ⟨more, ⟨by simp, h.version_ne_nil, hw⟩, rfl⟩
  · rintro ⟨w, h, rfl⟩
    refine ⟨by simp [h.line_eq], h.version_ne_nil, ?_⟩
    simp [h.quote_notMem, hx]

theorem lineToken?_append_of_notMem (hx : '"' ∉ x) :
    lineToken? (line ++ x) = lineToken? line := by
  refine Option.ext fun t => ?_
  simp only [lineToken?_eq_some_iff, Form.cuts_append_iff hx]
  constructor
  · rintro ⟨form, v, _, ⟨w, h, rfl⟩, ht⟩
    exact ⟨form, v, w, h, ht⟩
  · rintro ⟨form, v, w, h, ht⟩
    exact ⟨form, v, w ++ x, ⟨w, h, rfl⟩, ht⟩

theorem lineToken?_dropReturn (line : List Char) :
    lineToken? (dropReturn line) = lineToken? line := by
  unfold dropReturn
  split
  · rename_i hlast
    obtain ⟨init, rfl⟩ := List.getLast?_eq_some_iff.1 hlast
    rw [List.dropLast_concat, lineToken?_append_of_notMem (by decide)]
  · rfl

end Line

/-- The token of the first line of a text that has one. -/
def scan (text : List Char) : Option (List Char) :=
  (lines text).findSome? lineToken?

theorem token?_eq (banner : String) :
    token? banner = (scan banner.toList).map String.ofList := rfl

section Scan

variable {row s x : List Char}

theorem scan_of_notMem (h : '\n' ∉ row) : scan row = lineToken? row := by
  rw [scan, lines_of_notMem h, List.findSome?_cons, List.findSome?_nil]
  cases lineToken? row <;> rfl

theorem scan_row (h : '\n' ∉ row) (rest : List Char) :
    scan (row ++ '\n' :: rest) = (lineToken? row).or (scan rest) := by
  rw [scan, lines_row h, List.findSome?_cons, lineToken?_dropReturn]
  cases lineToken? row <;> rfl

theorem scan_newline (s rest : List Char) :
    scan (s ++ '\n' :: rest) = (scan s).or (scan rest) := by
  induction s using row_induction with
  | last row h => rw [scan_row h, scan_of_notMem h]
  | row row more h ih =>
    rw [List.append_assoc, List.cons_append, scan_row h, scan_row h, ih, Option.or_assoc]

theorem scan_append_of_plain (s : List Char) (hx : '"' ∉ x) (hn : '\n' ∉ x) :
    scan (s ++ x) = scan s := by
  induction s using row_induction with
  | last row hrow =>
    have hall : '\n' ∉ row ++ x := by simp [hrow, hn]
    rw [scan_of_notMem hall, scan_of_notMem hrow, lineToken?_append_of_notMem hx]
  | row row more hrow ih =>
    rw [List.append_assoc, List.cons_append, scan_row hrow, scan_row hrow, ih]

/-- Text without double quotes can be put behind a banner. -/
theorem scan_append_of_notMem (s : List Char) (hx : '"' ∉ x) : scan (s ++ x) = scan s := by
  induction x using row_induction generalizing s with
  | last tail htail => exact scan_append_of_plain s hx htail
  | row tail rest htail ih =>
    rw [List.mem_append, List.mem_cons, not_or, not_or] at hx
    have hrest : scan rest = none := ih [] hx.2.2
    rw [← List.append_assoc, scan_newline, hrest, Option.or_none,
      scan_append_of_plain s hx.1 htail]

end Scan

theorem token?_newline (banner rest : String) :
    token? (banner ++ "\n" ++ rest) = (token? banner).or (token? rest) := by
  have hrows : (banner ++ "\n" ++ rest).toList = banner.toList ++ '\n' :: rest.toList := by simp
  rw [token?_eq, hrows, scan_newline, token?_eq, token?_eq, Option.map_or]

/-- A line that one of the forms cuts. -/
def IsVersionLine (line : List Char) : Prop :=
  ∃ form version trailer, Form.Cuts form line version trailer

theorem lineToken?_eq_none_iff {line : List Char} :
    lineToken? line = none ↔ ¬ IsVersionLine line := by
  constructor
  · rintro h ⟨form, v, w, hcuts⟩
    rw [lineToken?_of_cuts hcuts] at h
    cases h
  · intro h
    refine Option.eq_none_iff_forall_ne_some.2 fun t ht => ?_
    obtain ⟨form, v, w, hcuts, _⟩ := exists_cuts ht
    exact h ⟨form, v, w, hcuts⟩

/-- The first line of a banner that one of the forms cuts decides. The lines are what stands between
line feeds, less a carriage return right before one. A line is cut in one way at most. -/
theorem first_cut_line_decides (banner : String) :
    let rows := banner.toList.splitOn '\n'
    let lines := rows.dropLast.map dropReturn ++ rows.getLast?.toList
    (∀ line form form' v v' w w', Form.Cuts form line v w → Form.Cuts form' line v' w' →
      form = form' ∧ v = v' ∧ w = w') ∧
    (token? banner = none ↔ ∀ line ∈ lines, ¬ IsVersionLine line) ∧
    ∀ t, token? banner = some t ↔
      ∃ before line after form v w, lines = before ++ line :: after ∧
        (∀ l ∈ before, ¬ IsVersionLine l) ∧ Form.Cuts form line v w ∧
        t = String.ofList (form.token v) := by
  intro rows lines
  have hlines : JavacLaunch.lines banner.toList = lines := lines_eq _
  refine ⟨fun line form form' v v' w w' => Form.Cuts.unique, ?_, fun t => ?_⟩
  · rw [token?, hlines, Option.map_eq_none_iff, List.findSome?_eq_none_iff]
    simp only [lineToken?_eq_none_iff]
  · rw [token?, hlines, Option.map_eq_some_iff]
    simp only [List.findSome?_eq_some_iff, lineToken?_eq_none_iff]
    constructor
    · rintro ⟨_, ⟨before, line, after, hsplit, htoken, hbefore⟩, rfl⟩
      obtain ⟨form, v, w, hcuts, rfl⟩ := exists_cuts htoken
      exact ⟨before, line, after, form, v, w, hsplit, hbefore, hcuts, rfl⟩
    · rintro ⟨before, line, after, form, v, w, hsplit, hbefore, hcuts, rfl⟩
      exact ⟨_, ⟨before, line, after, hsplit, lineToken?_of_cuts hcuts, hbefore⟩, rfl⟩

theorem first_cut_line_behind_empty_version :
    token? "java version \"\"\r\njava version \"1.8.0_212\" \"x\r\nopenjdk version \"11\"" =
      some "8" := by
  obtain ⟨-, -, htoken⟩ := first_cut_line_decides
    "java version \"\"\r\njava version \"1.8.0_212\" \"x\r\nopenjdk version \"11\""
  refine (htoken "8").2 ⟨["java version \"\"".toList], "java version \"1.8.0_212\" \"x".toList,
    ["openjdk version \"11\"".toList], .java, "1.8.0_212\" ".toList, "x".toList, by decide +kernel,
    ?_, ⟨by decide +kernel, by decide +kernel, by decide +kernel⟩, by decide +kernel⟩
  intro l hl
  rw [← lineToken?_eq_none_iff, List.mem_singleton.1 hl]
  decide +kernel

end Banner
end JavacLaunch
