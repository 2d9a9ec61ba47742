import JavacLaunch.Proofs.Banner
import JavacLaunch.Proofs.Utf8

/-!
# JavacLaunch.Proofs.Noise

A version line among lines that need not be text.

* `token?_decodeLossy_lineFeed`: of bytes on two sides of a line feed the first ones are asked
  first.
* `noise_keeps_token`: so lines in front that name no version, and any lines behind, change nothing.
-/

namespace JavacLaunch
namespace Banner

theorem token?_decodeLossy_lineFeed (bytes rest : Bytes) :
    token? (Utf8.decodeLossy (bytes ++ 0x0A :: rest)) =
      (token? (Utf8.decodeLossy bytes)).or (token? (Utf8.decodeLossy rest)) := by
  rw [Utf8.decodeLossy_lineFeed, token?_newline]

/-- Bytes in front that end their last line and bytes behind that begin a new one. -/
theorem noise_keeps_token (front behind : Bytes) (line token : String)
    (hfront : front = [] ∨ front.getLast? = some 0x0A)
    (hbehind : behind = [] ∨ behind.head? = some 0x0A)
    (htoken : token? line = some token) (hnone : token? (Utf8.decodeLossy front) = none) :
    token? (Utf8.decodeLossy (front ++ Utf8.encode line ++ behind)) = some token := by
  have hline : token? (Utf8.decodeLossy (Utf8.encode line ++ behind)) = some token := by
    rcases hbehind with rfl | hfeed
    · rw [List.append_nil, Utf8.decodeLossy_encode, htoken]
    · obtain ⟨rest, rfl⟩ := List.head?_eq_some_iff.1 hfeed
      rw [token?_decodeLossy_lineFeed, Utf8.decodeLossy_encode, htoken, Option.some_or]
  rw [List.append_assoc]
  rcases hfront with rfl | hfeed
  · exact hline
  · obtain ⟨rows, rfl⟩ := List.getLast?_eq_some_iff.1 hfeed
    have hrows : token? (Utf8.decodeLossy rows) = none := by
      rw [token?_decodeLossy_lineFeed] at hnone
      exact (Option.or_eq_none_iff.1 hnone).1
    rw [List.append_assoc, List.singleton_append, token?_decodeLossy_lineFeed, hrows,
      Option.none_or, hline]

theorem noise_keeps_token_of_cut_characters :
    token? (Utf8.decodeLossy
      ([0xFF, 0xE2, 0x82, 0x0A] ++ Utf8.encode "openjdk version \"17\" 2021-09-14" ++
        [0x0A, 0x82, 0xF0])) = some "17" :=
  noise_keeps_token _ _ _ _ (.inr (by decide)) (.inr (by decide)) (by decide +kernel)
    (by decide +kernel)

end Banner
end JavacLaunch
