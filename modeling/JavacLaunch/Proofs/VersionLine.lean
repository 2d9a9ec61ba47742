import JavacLaunch.Invocation
import JavacLaunch.Proofs.Banner
import JavacLaunch.Proofs.LeadingNumber

/-!
# JavacLaunch.Proofs.VersionLine

A line that names a release by its number decides the strategy.

* `VersionLine`: the three ways of naming a release, with anything behind the number.
* `release?_text`: the release that such a line alone tells.
* `strategy_of_version_line`: the plugin is used from the release on that the settings name.
-/

namespace JavacLaunch

namespace Banner

/-- The ways in which a release is named: by its second number after `1.`, or by its first. -/
inductive Naming where
  | javaOne
  | java
  | openjdk
deriving DecidableEq, Repr

def Naming.opening : Naming → List Char
  | .javaOne => javaOpening ++ ['1', '.']
  | .java => javaOpening
  | .openjdk => openjdkOpening

/-- A line that names a release by its number. Java's own first number is not 1 alone; a line that
begins so names the release by the second one. -/
structure VersionLine where
  naming : Naming
  zeros : Nat
  number : Nat
  /-- What follows the number between the quotes. -/
  suffix : List Char
  /-- What follows the quotes. -/
  trailer : List Char
  suffix_head : ∀ c ∈ suffix.head?, c.isDigit = false
  suffix_plain : ∀ c ∈ suffix, c ≠ '\n' ∧ c ≠ '"'
  trailer_plain : ∀ c ∈ trailer, c ≠ '\n' ∧ c ≠ '"'
  not_one : naming = .java → (numeral zeros number ++ suffix).takeWhile (· ≠ '.') ≠ ['1']

namespace VersionLine

def version (l : VersionLine) : List Char :=
  numeral l.zeros l.number ++ l.suffix

def text (l : VersionLine) : List Char :=
  l.naming.opening ++ (l.version ++ '"' :: l.trailer)

/-- What is left of the suffix in the token. -/
def tokenSuffix (l : VersionLine) : List Char :=
  match l.naming with
  | .javaOne | .java => l.suffix.takeWhile (· ≠ '.')
  | .openjdk => l.suffix

theorem version_ne_nil (l : VersionLine) : l.version ≠ [] :=
  List.append_ne_nil_of_left_ne_nil (numeral_ne_nil _ _) _

theorem quote_notMem_trailer (l : VersionLine) : '"' ∉ l.trailer :=
  fun h => (l.trailer_plain _ h).2 rfl

theorem takeWhile_version (l : VersionLine) :
    l.version.takeWhile (· ≠ '.') =
      numeral l.zeros l.number ++ l.suffix.takeWhile (· ≠ '.') := by
  refine List.takeWhile_append_of_pos fun c hc => ?_
  rw [decide_eq_true_iff]
  rintro rfl
  exact absurd (isDigit_of_mem_numeral hc) (by decide)

theorem tokenSuffix_head (l : VersionLine) : ∀ c ∈ l.tokenSuffix.head?, c.isDigit = false := by
  have hcut : ∀ c ∈ (l.suffix.takeWhile (· ≠ '.')).head?, c.isDigit = false := by
    intro c hc
    rw [List.head?_takeWhile] at hc
    exact l.suffix_head c (Option.mem_filter_iff.1 hc).1
  unfold tokenSuffix
  split
  · exact hcut
  · exact hcut
  · exact l.suffix_head

theorem newline_notMem_text (l : VersionLine) : '\n' ∉ l.text := by
  have hnumber : '\n' ∉ numeral l.zeros l.number :=
    fun h => absurd (isDigit_of_mem_numeral h) (by decide)
  have hsuffix : '\n' ∉ l.suffix := fun h => (l.suffix_plain _ h).1 rfl
  have htrailer : '\n' ∉ l.trailer := fun h => (l.trailer_plain _ h).1 rfl
  have hopening : '\n' ∉ l.naming.opening := by
    cases l.naming <;> decide
  simp [text, version, hopening, hnumber, hsuffix, htrailer]

theorem lineToken?_text (l : VersionLine) :
    lineToken? l.text = some (numeral l.zeros l.number ++ l.tokenSuffix) := by
  have hquote := l.quote_notMem_trailer
  unfold text tokenSuffix
  cases hnaming : l.naming with
  | javaOne =>
    have hversion : '1' :: '.' :: l.version ≠ [] := List.cons_ne_nil _ _
    have htoken := lineToken?_java hversion hquote
    rwa [skipLeadingOne_one, takeWhile_version] at htoken
  | java =>
    -- a first number that is not 1 alone is the one that counts
    have htoken := lineToken?_java l.version_ne_nil hquote
    have hne : l.version.takeWhile (· ≠ '.') ≠ ['1'] := l.not_one hnaming
    rwa [skipLeadingOne_of_ne hne, takeWhile_version] at htoken
  | openjdk => exact lineToken?_openjdk l.version_ne_nil hquote

/-- The release that a banner of one line tells. -/
theorem release?_text (l : VersionLine) :
    release? (String.ofList l.text) =
      if l.number < UInt32.size then
        some ⟨String.ofList (numeral l.zeros l.number ++ l.tokenSuffix), UInt32.ofNat l.number⟩
      else none := by
  have htoken : token? (String.ofList l.text) =
      some (String.ofList (numeral l.zeros l.number ++ l.tokenSuffix)) := by
    rw [token?, String.toList_ofList, lines_of_notMem l.newline_notMem_text, List.findSome?_cons,
      l.lineToken?_text]
    rfl
  have hmajor := Release.majorOf?_of_leadingNumber
    (leadingNumber_numeral l.zeros l.number l.tokenSuffix_head)
  rw [release?, htoken, Option.bind_some, Release.ofToken?, String.toList_ofList, hmajor]
  split <;> rfl

end VersionLine
end Banner

theorem Invocation.build_eq (release : Release) (request : Request) (settings : Settings) :
    build release request settings =
      if settings.pluginSince.toNat ≤ release.major.toNat then plugin request settings
      else bootClassPath request settings := by
  unfold build Strategy.ofMajor
  simp only [UInt32.le_iff_toNat_le]
  split <;> split <;> simp_all

/-- A banner of one line that names a release by a number tells that number, and the compiler takes
the tool as a plugin from the release on that the settings name. A number that does not fit into 32
bits tells no release. -/
theorem strategy_of_version_line (l : Banner.VersionLine) (request : Request)
    (settings : Settings) :
    let found := Banner.release? (String.ofList l.text)
    if l.number < UInt32.size then
      ∃ release, found = some release ∧ release.major.toNat = l.number ∧
        let invocation := (Prepared.build release request settings).invocation
        if settings.pluginSince.toNat ≤ l.number then
          invocation = .plugin request settings ∧ invocation.program = request.compiler
        else
          invocation = .bootClassPath request settings ∧ invocation.program = request.runtime
    else found = none := by
  intro found
  have hrelease := l.release?_text
  split
  · rename_i hfits
    rw [if_pos hfits] at hrelease
    have hmajor : (UInt32.ofNat l.number).toNat = l.number := UInt32.toNat_ofNat_of_lt' hfits
    refine ⟨_, hrelease, hmajor, ?_⟩
    intro invocation
    have hbuild : invocation = if settings.pluginSince.toNat ≤ (UInt32.ofNat l.number).toNat then
        .plugin request settings else .bootClassPath request settings :=
      Invocation.build_eq _ request settings
    rw [hmajor] at hbuild
    split
    · rename_i hplugin
      rw [if_pos hplugin] at hbuild
      exact ⟨hbuild, congrArg Invocation.program hbuild⟩
    · rename_i hboot
      rw [if_neg hboot] at hbuild
      exact ⟨hbuild, congrArg Invocation.program hbuild⟩
  · rename_i hwide
    rw [if_neg hwide] at hrelease
    exact hrelease

theorem strategy_of_leading_zero :
    let request : Request := ⟨"java", "javac", "ep.jar", ["A.java"]⟩
    ∃ release, Banner.release? "java version \"01.8\" (U)" = some release ∧
      release.major.toNat = 1 ∧
      (Prepared.build release request .standard).invocation = .bootClassPath request .standard := by
  intro request
  let line : Banner.VersionLine :=
    ⟨.java, 1, 1, ['.', '8'], [' ', '(', 'U', ')'], by simp, by simp, by simp, by decide⟩
  have htext : String.ofList line.text = "java version \"01.8\" (U)" := by decide +kernel
  have hstrategy := strategy_of_version_line line request .standard
  rw [if_pos (by decide), htext] at hstrategy
  obtain ⟨release, hrelease, hmajor, hinvocation⟩ := hstrategy
  rw [if_neg (by decide)] at hinvocation
  exact ⟨release, hrelease, hmajor, hinvocation.1⟩

end JavacLaunch
