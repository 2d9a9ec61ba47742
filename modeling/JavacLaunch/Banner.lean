import JavacLaunch.Release
import JavacLaunch.Text.Lines

/-!
# JavacLaunch.Banner

The banner that a Java runtime prints for `-version`. One of its lines names the release between
double quotes; the first such line decides.

* `java version "1.8.0_212"`: releases before 9 call themselves 1.x, so a leading part `1` is
  skipped, and the token is the part up to the next point.
* `openjdk version "11.0.2"`: the token is all that is quoted.
-/

namespace JavacLaunch
namespace Banner

/-- The text before the last double quote. -/
def beforeLastQuote? : List Char → Option (List Char)
  | [] => none
  | c :: rest =>
    match beforeLastQuote? rest with
    | some text => some (c :: text)
    | none => if c = '"' then some [] else none

/-- What a line has between an opening text and its last double quote, if that is not empty. -/
def quotedAfter? (opening line : List Char) : Option (List Char) :=
  if opening.isPrefixOf line then
    match beforeLastQuote? (line.drop opening.length) with
    | some (c :: text) => some (c :: text)
    | _ => none
  else none

/-- The part of a version up to its first point, or the second part if the first one is `1`. -/
def skipLeadingOne (version : List Char) : List Char :=
  let first := version.takeWhile (· ≠ '.')
  if first = ['1'] then (version.drop 2).takeWhile (· ≠ '.') else first

def javaOpening : List Char :=
  "java version \"".toList

def openjdkOpening : List Char :=
  "openjdk version \"".toList

/-- The version token of a line. -/
def lineToken? (line : List Char) : Option (List Char) :=
  match quotedAfter? javaOpening line with
  | some version => some (skipLeadingOne version)
  | none => quotedAfter? openjdkOpening line

/-- The version token of a banner. -/
def token? (banner : String) : Option String :=
  ((lines banner.toList).findSome? lineToken?).map String.ofList

/-- The release of a banner. A token that no number begins gives none, whatever lines follow. -/
def release? (banner : String) : Option Release :=
  (token? banner).bind Release.ofToken?

end Banner
end JavacLaunch
