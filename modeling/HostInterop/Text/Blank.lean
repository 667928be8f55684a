import HostInterop.Text.Ranges

/-!
# Blank characters

The Unicode property White_Space: 25 code points in 10 ranges, the same in every Unicode version
since 6.3. Trimming a text removes blank characters at both ends, and a blank anywhere in a word
means that the word has to be quoted.
-/

namespace HostInterop.Text

/-- Closed ranges of the code points with White_Space, ascending and apart. -/
def blankRanges : List (Nat × Nat) :=
  [(0x09, 0x0D), (0x20, 0x20), (0x85, 0x85), (0xA0, 0xA0), (0x1680, 0x1680), (0x2000, 0x200A),
   (0x2028, 0x2029), (0x202F, 0x202F), (0x205F, 0x205F), (0x3000, 0x3000)]

/-- Whether `c` is a blank character. -/
def isBlank (c : Char) : Bool := inRanges blankRanges c.toNat

/-- The characters of `cs` without the blank characters at either end. -/
def trimBlankList (cs : List Char) : List Char :=
  ((cs.dropWhile isBlank).reverse.dropWhile isBlank).reverse

/-- The text `s` without the blank characters at either end. -/
def trimBlank (s : String) : String := String.ofList (trimBlankList s.toList)

theorem blankRanges_wellFormed : wellFormed blankRanges = true := by decide

theorem blankRanges_count : count blankRanges = 25 := by decide

/-- Every character that core calls whitespace is blank. -/
theorem isBlank_of_isWhitespace (c : Char) (h : c.isWhitespace = true) : isBlank c = true := by
  simp [Char.isWhitespace] at h
  rcases h with ((h | h) | h) | h <;> subst h <;> decide

end HostInterop.Text
