import JavacLaunch.Detection
import JavacLaunch.Proofs.Banner
import JavacLaunch.Proofs.Front
import Mathlib.Data.List.TakeWhile

/-!
# JavacLaunch.Proofs.Streams

A release is read from the standard output of a runtime, and from its standard error if standard
output names none.

* `Trimmed`: a text without the blanks around it, said by what was cut off and by its ends.
* `token?_trimmedOutput`: trimming keeps the token of an output whose first line that is not blank
  begins with no blank.
* `release?_banner`: a banner of two outputs.
* `detect_reads_output_first`: what is found out of a runtime that answers.
-/

namespace JavacLaunch

section Trim

variable {s row : List Char}

/-- A text without the blanks around it: only blanks were cut off, and no end of it is one. -/
structure Trimmed (text core : List Char) : Prop where
  around : ∃ front behind, text = front ++ (core ++ behind) ∧
    (∀ c ∈ front, isBlank c = true) ∧ ∀ c ∈ behind, isBlank c = true
  head : ∀ c ∈ core.head?, isBlank c = false
  last : ∀ c ∈ core.getLast?, isBlank c = false

theorem exists_blanks_behind (s : List Char) :
    ∃ blanks, s.dropWhile isBlank = trimBlank s ++ blanks ∧ blanks.all isBlank = true := by
  refine ⟨((s.dropWhile isBlank).reverse.takeWhile isBlank).reverse, ?_, ?_⟩
  · rw [trimBlank, ← List.reverse_append, List.takeWhile_append_dropWhile, List.reverse_reverse]
  · rw [List.all_reverse, List.all_takeWhile]

theorem trimmed_trimBlank (s : List Char) : Trimmed s (trimBlank s) where
  around := by
    obtain ⟨blanks, hsplit, hblank⟩ := exists_blanks_behind s
    refine ⟨s.takeWhile isBlank, blanks, ?_, (longestFront_takeWhile isBlank s).satisfies,
      List.all_eq_true.1 hblank⟩
    rw [← hsplit, List.takeWhile_append_dropWhile]
  head := by
    intro c hc
    obtain ⟨blanks, hsplit, -⟩ := exists_blanks_behind s
    refine head?_dropWhile isBlank s c ?_
    rw [hsplit, List.head?_append, Option.mem_def.1 hc]
    rfl
  last := by
    intro c hc
    rw [trimBlank, List.getLast?_reverse] at hc
    exact head?_dropWhile isBlank _ c hc

/-- There is only one way to trim a text. -/
theorem Trimmed.eq_trimBlank {core : List Char} (h : Trimmed s core) : core = trimBlank s := by
  obtain ⟨front, behind, rfl, hfront, hbehind⟩ := h.around
  cases core with
  | nil =>
    have hblank : ∀ c ∈ front ++ ([] ++ behind), isBlank c = true :=
      List.forall_mem_append.2 ⟨hfront, hbehind⟩
    rw [trimBlank, List.dropWhile_eq_nil_iff.2 hblank]
    rfl
  | cons c core =>
    have hreverse : ∀ d ∈ behind.reverse, isBlank d = true :=
      fun d hd => hbehind d (List.mem_reverse.1 hd)
    have hlast : ∀ d ∈ (c :: core).reverse.head?, isBlank d = false := by
      rw [List.head?_reverse]
      exact h.last
    have hcut : (front ++ (c :: core ++ behind)).dropWhile isBlank = c :: core ++ behind :=
      dropWhile_front_append hfront h.head
    rw [trimBlank, hcut, List.reverse_append, dropWhile_front_append hreverse hlast,
      List.reverse_reverse]

theorem Trimmed.eq_trimmedOutput {bytes : Bytes} {text : String}
    (h : Trimmed (Utf8.decodeLossy bytes).toList text.toList) : text = trimmedOutput bytes := by
  rw [trimmedOutput, ← h.eq_trimBlank, String.ofList_toList]

theorem trimmed_trimmedOutput (bytes : Bytes) :
    Trimmed (Utf8.decodeLossy bytes).toList (trimmedOutput bytes).toList := by
  rw [trimmedOutput, String.toList_ofList]
  exact trimmed_trimBlank _

theorem quote_notMem_of_blank (h : s.all isBlank = true) : '"' ∉ s := by
  intro hmem
  exact absurd (List.all_eq_true.1 h _ hmem) (by decide)

theorem all_isBlank_dropReturn (row : List Char) :
    (dropReturn row).all isBlank = row.all isBlank := by
  unfold dropReturn
  split
  · rename_i hlast
    obtain ⟨init, rfl⟩ := List.getLast?_eq_some_iff.1 hlast
    have hreturn : isBlank '\r' = true := by decide
    simp [hreturn]
  · rfl

theorem head?_dropReturn (h : dropReturn row ≠ []) : (dropReturn row).head? = row.head? := by
  unfold dropReturn at *
  split
  · rename_i hlast
    rw [if_pos hlast] at h
    cases row with
    | nil => rfl
    | cons c row => cases row <;> simp_all
  · rfl

end Trim

/-- The first line that is not blank begins with no blank. -/
def StartsFlush (text : List Char) : Prop :=
  ∀ line, (lines text).find? (!·.all isBlank) = some line → ∀ c ∈ line.head?, isBlank c = false

theorem StartsFlush.of_blank_row {row rest : List Char} (h : StartsFlush (row ++ '\n' :: rest))
    (hrow : '\n' ∉ row) (hblank : row.all isBlank = true) : StartsFlush rest := by
  intro line hline
  refine h line ?_
  rw [lines_row hrow, List.find?_cons, all_isBlank_dropReturn, hblank]
  exact hline

theorem StartsFlush.head?_of_row {row rest : List Char} (h : StartsFlush (row ++ '\n' :: rest))
    (hrow : '\n' ∉ row) (hfull : ¬ row.all isBlank = true) :
    ∀ c ∈ (row ++ '\n' :: rest).head?, isBlank c = false := by
  have hfind : (lines (row ++ '\n' :: rest)).find? (!·.all isBlank) = some (dropReturn row) := by
    rw [lines_row hrow, List.find?_cons, all_isBlank_dropReturn, Bool.eq_false_iff.2 hfull]
    rfl
  have hne : dropReturn row ≠ [] := by
    intro hnil
    rw [← all_isBlank_dropReturn, hnil] at hfull
    exact hfull rfl
  have hhead := h _ hfind
  rw [head?_dropReturn hne] at hhead
  cases row with
  | nil => exact absurd rfl hfull
  | cons c row => exact hhead

theorem dropWhile_isBlank_row {row : List Char} (h : row.all isBlank = true) (rest : List Char) :
    (row ++ '\n' :: rest).dropWhile isBlank = rest.dropWhile isBlank := by
  have hfeed : isBlank '\n' = true := by decide
  rw [List.dropWhile_append_of_pos (List.all_eq_true.1 h), List.dropWhile_cons_of_pos hfeed]

namespace Banner

theorem scan_of_blank {s : List Char} (h : s.all isBlank = true) : scan s = none :=
  scan_append_of_notMem [] (quote_notMem_of_blank h)

theorem scan_trimBlank (s : List Char) : scan (trimBlank s) = scan (s.dropWhile isBlank) := by
  obtain ⟨blanks, hsplit, hblank⟩ := exists_blanks_behind s
  rw [hsplit, scan_append_of_notMem _ (quote_notMem_of_blank hblank)]

theorem scan_dropWhile_isBlank {s : List Char} (h : StartsFlush s) :
    scan (s.dropWhile isBlank) = scan s := by
  induction s using row_induction with
  | last row hrow =>
    by_cases hblank : row.all isBlank = true
    · rw [List.dropWhile_eq_nil_iff.2 (List.all_eq_true.1 hblank), scan_of_blank hblank]
      rfl
    · rw [dropWhile_of_head]
      exact h row (by simp [lines_of_notMem hrow, hblank])
  | row row rest hrow ih =>
    by_cases hblank : row.all isBlank = true
    · -- a blank row names no version
      have hnone : scan row = none := scan_of_blank hblank
      rw [dropWhile_isBlank_row hblank, ih (h.of_blank_row hrow hblank), scan_newline, hnone,
        Option.none_or]
    · rw [dropWhile_of_head (h.head?_of_row hrow hblank)]

theorem token?_trimmedOutput {bytes : Bytes} (h : StartsFlush (Utf8.decodeLossy bytes).toList) :
    token? (trimmedOutput bytes) = token? (Utf8.decodeLossy bytes) := by
  rw [token?_eq, token?_eq, trimmedOutput, String.toList_ofList, scan_trimBlank,
    scan_dropWhile_isBlank h]

theorem release?_banner (r : Response) :
    release? r.banner =
      ((token? (trimmedOutput r.out)).or (token? (trimmedOutput r.err))).bind Release.ofToken? := by
  rw [release?, Response.banner, token?_newline]

end Banner

namespace Release

variable {host : Host} {runtime : String} {r : Response} {release : Release} {e : LaunchError}

theorem detect_of_answer (h : host.launch runtime [runtime, "-version"] = .ok r) :
    detect host runtime = ofResponse runtime r := by
  rw [detect, Host.askVersion, h]

theorem ofResponse_eq_ok :
    ofResponse runtime r = .ok release ↔ Banner.release? r.banner = some release := by
  unfold ofResponse
  split
  · rename_i found hfound
    simp [hfound]
  · rename_i hnone
    simp [hnone]

theorem eq_of_ofResponse_error (h : ofResponse runtime r = .error e) :
    e = .versionUndetermined runtime := by
  unfold ofResponse at h
  split at h
  · cases h
  · cases h
    rfl

end Release

/-- A runtime that answers tells its release on standard output, or on standard error if standard
output has no version line. Its exit code does not matter, and a version line on standard output
whose token begins with no number hides all of standard error. Outputs are trimmed before they are
read, which makes no difference to one whose first line that is not blank begins with no blank. -/
theorem detect_reads_output_first (host : Host) (runtime : String) (r : Response)
    (hstart : host.launch runtime [runtime, "-version"] = .ok r) :
    (∃ out err : String, Trimmed (Utf8.decodeLossy r.out).toList out.toList ∧
      Trimmed (Utf8.decodeLossy r.err).toList err.toList ∧
      ∀ release, Release.detect host runtime = .ok release ↔
        (∃ t, Banner.token? out = some t ∧ Release.ofToken? t = some release) ∨
        Banner.token? out = none ∧
          ∃ t, Banner.token? err = some t ∧ Release.ofToken? t = some release) ∧
    (∀ e, Release.detect host runtime = .error e → e = .versionUndetermined runtime) ∧
    ∀ (bytes : Bytes) (text : String), Trimmed (Utf8.decodeLossy bytes).toList text.toList →
      StartsFlush (Utf8.decodeLossy bytes).toList →
      Banner.token? text = Banner.token? (Utf8.decodeLossy bytes) := by
  rw [Release.detect_of_answer hstart]
  refine ⟨⟨trimmedOutput r.out, trimmedOutput r.err, trimmed_trimmedOutput _,
    trimmed_trimmedOutput _, fun release => ?_⟩, fun e => Release.eq_of_ofResponse_error, ?_⟩
  · rw [Release.ofResponse_eq_ok, Banner.release?_banner]
    cases hout : Banner.token? (trimmedOutput r.out) with
    | some t => simp
    | none => simp [Option.bind_eq_some_iff]
  · intro bytes text htext hflush
    rw [htext.eq_trimmedOutput]
    exact Banner.token?_trimmedOutput hflush

/-- Blanks of all kinds stand around these outputs. The first one names a release, the second one
has a version line without a number, and the third one has nothing, so standard error counts. -/
theorem detect_reads_between_blanks :
    let host (out : String) : Host := ⟨fun _ => .error .noSuchFile, fun _ _ => .ok
      ⟨Utf8.encode out, Utf8.encode "\u00A0java version \"1.8.0\"\n\t", some 1⟩⟩
    Release.detect (host "\n\u3000 java version \"17\"\u2028\n") "java" = .ok ⟨"17", 17⟩ ∧
      Release.detect (host "\u0085openjdk version \"internal\" \n") "java" =
        .error (.versionUndetermined "java") ∧
      Release.detect (host " \u205F\r\n") "java" = .ok ⟨"8", 8⟩ := by
  intro host
  have hreads (out : String) := detect_reads_output_first (host out) "java" _ rfl
  refine ⟨?_, ?_, ?_⟩
  · obtain ⟨⟨out, err, hout, -, hok⟩, -⟩ := hreads "\n\u3000 java version \"17\"\u2028\n"
    have htoken : Banner.token? out = some "17" := by
      rw [hout.eq_trimmedOutput]
      decide +kernel
    exact (hok _).2 (.inl ⟨_, htoken, by decide +kernel⟩)
  · obtain ⟨⟨out, err, hout, -, hok⟩, herror, -⟩ :=
      hreads "\u0085openjdk version \"internal\" \n"
    have htoken : Banner.token? out = some "internal" := by
      rw [hout.eq_trimmedOutput]
      decide +kernel
    have hnumber : Release.ofToken? "internal" = none := by decide +kernel
    cases hdetect : Release.detect (host "\u0085openjdk version \"internal\" \n") "java" with
    | ok release => simp [htoken, hnumber, hok] at hdetect
    | error e => rw [herror e hdetect]
  · obtain ⟨⟨out, err, hout, herr, hok⟩, -⟩ := hreads " \u205F\r\n"
    have hnone : Banner.token? out = none := by
      rw [hout.eq_trimmedOutput]
      decide +kernel
    have htoken : Banner.token? err = some "8" := by
      rw [herr.eq_trimmedOutput]
      decide +kernel
    exact (hok _).2 (.inr ⟨hnone, _, htoken, by decide +kernel⟩)

end JavacLaunch
