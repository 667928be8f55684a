/-!
# Upper case

The full upper-case mapping of Unicode: the simple mapping of the character database, replaced
by the unconditional multi-character mappings of its special casing (ß becomes SS, ŉ becomes ʼN).
The data is Unicode 17.0.

A character with no entry upper-cases to itself. Upper-casing a text upper-cases each character
in turn, so the text may grow.
-/

namespace HostInterop.Text

/-- A run of characters that upper-case by one shift: the `count` code points
`start`, `start + step`, … each move by `shift`. -/
structure ShiftRun where
  /-- The first code point of the run. -/
  start : Nat
  /-- How many code points the run holds. -/
  count : Nat
  /-- The distance between two code points of the run. -/
  step : Nat
  /-- What upper-casing adds to each code point of the run. -/
  shift : Int

/-- Whether code point `n` belongs to the run. -/
def ShiftRun.holds (r : ShiftRun) (n : Nat) : Bool :=
  r.start ≤ n && n < r.start + r.count * r.step && (n - r.start) % r.step == 0

/-- The runs of the simple mapping, ascending by start. -/
def upperShiftRuns : List ShiftRun :=
  [⟨0x61, 26, 1, (-32)⟩, ⟨0xB5, 1, 1, 743⟩, ⟨0xE0, 23, 1, (-32)⟩, ⟨0xF8, 7, 1, (-32)⟩,
   ⟨0xFF, 1, 1, 121⟩, ⟨0x101, 24, 2, (-1)⟩, ⟨0x131, 1, 1, (-232)⟩, ⟨0x133, 3, 2, (-1)⟩,
   ⟨0x13A, 8, 2, (-1)⟩, ⟨0x14B, 23, 2, (-1)⟩, ⟨0x17A, 3, 2, (-1)⟩, ⟨0x17F, 1, 1, (-300)⟩,
   ⟨0x180, 1, 1, 195⟩, ⟨0x183, 2, 2, (-1)⟩, ⟨0x188, 1, 1, (-1)⟩, ⟨0x18C, 1, 1, (-1)⟩,
   ⟨0x192, 1, 1, (-1)⟩, ⟨0x195, 1, 1, 97⟩, ⟨0x199, 1, 1, (-1)⟩, ⟨0x19A, 1, 1, 163⟩,
   ⟨0x19B, 1, 1, 42561⟩, ⟨0x19E, 1, 1, 130⟩, ⟨0x1A1, 3, 2, (-1)⟩, ⟨0x1A8, 1, 1, (-1)⟩,
   ⟨0x1AD, 1, 1, (-1)⟩, ⟨0x1B0, 1, 1, (-1)⟩, ⟨0x1B4, 2, 2, (-1)⟩, ⟨0x1B9, 1, 1, (-1)⟩,
   ⟨0x1BD, 1, 1, (-1)⟩, ⟨0x1BF, 1, 1, 56⟩, ⟨0x1C5, 1, 1, (-1)⟩, ⟨0x1C6, 1, 1, (-2)⟩,
   ⟨0x1C8, 1, 1, (-1)⟩, ⟨0x1C9, 1, 1, (-2)⟩, ⟨0x1CB, 1, 1, (-1)⟩, ⟨0x1CC, 1, 1, (-2)⟩,
   ⟨0x1CE, 8, 2, (-1)⟩, ⟨0x1DD, 1, 1, (-79)⟩, ⟨0x1DF, 9, 2, (-1)⟩, ⟨0x1F2, 1, 1, (-1)⟩,
   ⟨0x1F3, 1, 1, (-2)⟩, ⟨0x1F5, 1, 1, (-1)⟩, ⟨0x1F9, 20, 2, (-1)⟩, ⟨0x223, 9, 2, (-1)⟩,
   ⟨0x23C, 1, 1, (-1)⟩, ⟨0x23F, 2, 1, 10815⟩, ⟨0x242, 1, 1, (-1)⟩, ⟨0x247, 5, 2, (-1)⟩,
   ⟨0x250, 1, 1, 10783⟩, ⟨0x251, 1, 1, 10780⟩, ⟨0x252, 1, 1, 10782⟩, ⟨0x253, 1, 1, (-210)⟩,
   ⟨0x254, 1, 1, (-206)⟩, ⟨0x256, 2, 1, (-205)⟩, ⟨0x259, 1, 1, (-202)⟩, ⟨0x25B, 1, 1, (-203)⟩,
   ⟨0x25C, 1, 1, 42319⟩, ⟨0x260, 1, 1, (-205)⟩, ⟨0x261, 1, 1, 42315⟩, ⟨0x263, 1, 1, (-207)⟩,
   ⟨0x264, 1, 1, 42343⟩, ⟨0x265, 1, 1, 42280⟩, ⟨0x266, 1, 1, 42308⟩, ⟨0x268, 1, 1, (-209)⟩,
   ⟨0x269, 1, 1, (-211)⟩, ⟨0x26A, 1, 1, 42308⟩, ⟨0x26B, 1, 1, 10743⟩, ⟨0x26C, 1, 1, 42305⟩,
   ⟨0x26F, 1, 1, (-211)⟩, ⟨0x271, 1, 1, 10749⟩, ⟨0x272, 1, 1, (-213)⟩, ⟨0x275, 1, 1, (-214)⟩,
   ⟨0x27D, 1, 1, 10727⟩, ⟨0x280, 1, 1, (-218)⟩, ⟨0x282, 1, 1, 42307⟩, ⟨0x283, 1, 1, (-218)⟩,
   ⟨0x287, 1, 1, 42282⟩, ⟨0x288, 1, 1, (-218)⟩, ⟨0x289, 1, 1, (-69)⟩, ⟨0x28A, 2, 1, (-217)⟩,
   ⟨0x28C, 1, 1, (-71)⟩, ⟨0x292, 1, 1, (-219)⟩, ⟨0x29D, 1, 1, 42261⟩, ⟨0x29E, 1, 1, 42258⟩,
   ⟨0x345, 1, 1, 84⟩, ⟨0x371, 2, 2, (-1)⟩, ⟨0x377, 1, 1, (-1)⟩, ⟨0x37B, 3, 1, 130⟩,
   ⟨0x3AC, 1, 1, (-38)⟩, ⟨0x3AD, 3, 1, (-37)⟩, ⟨0x3B1, 17, 1, (-32)⟩, ⟨0x3C2, 1, 1, (-31)⟩,
   ⟨0x3C3, 9, 1, (-32)⟩, ⟨0x3CC, 1, 1, (-64)⟩, ⟨0x3CD, 2, 1, (-63)⟩, ⟨0x3D0, 1, 1, (-62)⟩,
   ⟨0x3D1, 1, 1, (-57)⟩, ⟨0x3D5, 1, 1, (-47)⟩, ⟨0x3D6, 1, 1, (-54)⟩, ⟨0x3D7, 1, 1, (-8)⟩,
   ⟨0x3D9, 12, 2, (-1)⟩, ⟨0x3F0, 1, 1, (-86)⟩, ⟨0x3F1, 1, 1, (-80)⟩, ⟨0x3F2, 1, 1, 7⟩,
   ⟨0x3F3, 1, 1, (-116)⟩, ⟨0x3F5, 1, 1, (-96)⟩, ⟨0x3F8, 1, 1, (-1)⟩, ⟨0x3FB, 1, 1, (-1)⟩,
   ⟨0x430, 32, 1, (-32)⟩, ⟨0x450, 16, 1, (-80)⟩, ⟨0x461, 17, 2, (-1)⟩, ⟨0x48B, 27, 2, (-1)⟩,
   ⟨0x4C2, 7, 2, (-1)⟩, ⟨0x4CF, 1, 1, (-15)⟩, ⟨0x4D1, 48, 2, (-1)⟩, ⟨0x561, 38, 1, (-48)⟩,
   ⟨0x10D0, 43, 1, 3008⟩, ⟨0x10FD, 3, 1, 3008⟩, ⟨0x13F8, 6, 1, (-8)⟩, ⟨0x1C80, 1, 1, (-6254)⟩,
   ⟨0x1C81, 1, 1, (-6253)⟩, ⟨0x1C82, 1, 1, (-6244)⟩, ⟨0x1C83, 2, 1, (-6242)⟩, ⟨0x1C85, 1, 1, (-6243)⟩,
   ⟨0x1C86, 1, 1, (-6236)⟩, ⟨0x1C87, 1, 1, (-6181)⟩, ⟨0x1C88, 1, 1, 35266⟩, ⟨0x1C8A, 1, 1, (-1)⟩,
   ⟨0x1D79, 1, 1, 35332⟩, ⟨0x1D7D, 1, 1, 3814⟩, ⟨0x1D8E, 1, 1, 35384⟩, ⟨0x1E01, 75, 2, (-1)⟩,
   ⟨0x1E9B, 1, 1, (-59)⟩, ⟨0x1EA1, 48, 2, (-1)⟩, ⟨0x1F00, 8, 1, 8⟩, ⟨0x1F10, 6, 1, 8⟩,
   ⟨0x1F20, 8, 1, 8⟩, ⟨0x1F30, 8, 1, 8⟩, ⟨0x1F40, 6, 1, 8⟩, ⟨0x1F51, 4, 2, 8⟩,
   ⟨0x1F60, 8, 1, 8⟩, ⟨0x1F70, 2, 1, 74⟩, ⟨0x1F72, 4, 1, 86⟩, ⟨0x1F76, 2, 1, 100⟩,
   ⟨0x1F78, 2, 1, 128⟩, ⟨0x1F7A, 2, 1, 112⟩, ⟨0x1F7C, 2, 1, 126⟩, ⟨0x1FB0, 2, 1, 8⟩,
   ⟨0x1FBE, 1, 1, (-7205)⟩, ⟨0x1FD0, 2, 1, 8⟩, ⟨0x1FE0, 2, 1, 8⟩, ⟨0x1FE5, 1, 1, 7⟩,
   ⟨0x214E, 1, 1, (-28)⟩, ⟨0x2170, 16, 1, (-16)⟩, ⟨0x2184, 1, 1, (-1)⟩, ⟨0x24D0, 26, 1, (-26)⟩,
   ⟨0x2C30, 48, 1, (-48)⟩, ⟨0x2C61, 1, 1, (-1)⟩, ⟨0x2C65, 1, 1, (-10795)⟩, ⟨0x2C66, 1, 1, (-10792)⟩,
   ⟨0x2C68, 3, 2, (-1)⟩, ⟨0x2C73, 1, 1, (-1)⟩, ⟨0x2C76, 1, 1, (-1)⟩, ⟨0x2C81, 50, 2, (-1)⟩,
   ⟨0x2CEC, 2, 2, (-1)⟩, ⟨0x2CF3, 1, 1, (-1)⟩, ⟨0x2D00, 38, 1, (-7264)⟩, ⟨0x2D27, 1, 1, (-7264)⟩,
   ⟨0x2D2D, 1, 1, (-7264)⟩, ⟨0xA641, 23, 2, (-1)⟩, ⟨0xA681, 14, 2, (-1)⟩, ⟨0xA723, 7, 2, (-1)⟩,
   ⟨0xA733, 31, 2, (-1)⟩, ⟨0xA77A, 2, 2, (-1)⟩, ⟨0xA77F, 5, 2, (-1)⟩, ⟨0xA78C, 1, 1, (-1)⟩,
   ⟨0xA791, 2, 2, (-1)⟩, ⟨0xA794, 1, 1, 48⟩, ⟨0xA797, 10, 2, (-1)⟩, ⟨0xA7B5, 8, 2, (-1)⟩,
   ⟨0xA7C8, 2, 2, (-1)⟩, ⟨0xA7CD, 8, 2, (-1)⟩, ⟨0xA7F6, 1, 1, (-1)⟩, ⟨0xAB53, 1, 1, (-928)⟩,
   ⟨0xAB70, 80, 1, (-38864)⟩, ⟨0xFF41, 26, 1, (-32)⟩, ⟨0x10428, 40, 1, (-40)⟩, ⟨0x104D8, 36, 1, (-40)⟩,
   ⟨0x10597, 11, 1, (-39)⟩, ⟨0x105A3, 15, 1, (-39)⟩, ⟨0x105B3, 7, 1, (-39)⟩, ⟨0x105BB, 2, 1, (-39)⟩,
   ⟨0x10CC0, 51, 1, (-64)⟩, ⟨0x10D70, 22, 1, (-32)⟩, ⟨0x118C0, 32, 1, (-32)⟩, ⟨0x16E60, 32, 1, (-32)⟩,
   ⟨0x16EBB, 25, 1, (-27)⟩, ⟨0x1E922, 34, 1, (-34)⟩]

/-- The characters whose upper case is more than one character, with that upper case. -/
def upperExpansions : List (Nat × List Nat) :=
  [(0xDF, [0x53, 0x53]), (0x149, [0x2BC, 0x4E]), (0x1F0, [0x4A, 0x30C]),
   (0x390, [0x399, 0x308, 0x301]), (0x3B0, [0x3A5, 0x308, 0x301]), (0x587, [0x535, 0x552]),
   (0x1E96, [0x48, 0x331]), (0x1E97, [0x54, 0x308]), (0x1E98, [0x57, 0x30A]),
   (0x1E99, [0x59, 0x30A]), (0x1E9A, [0x41, 0x2BE]), (0x1F50, [0x3A5, 0x313]),
   (0x1F52, [0x3A5, 0x313, 0x300]), (0x1F54, [0x3A5, 0x313, 0x301]), (0x1F56, [0x3A5, 0x313, 0x342]),
   (0x1F80, [0x1F08, 0x399]), (0x1F81, [0x1F09, 0x399]), (0x1F82, [0x1F0A, 0x399]),
   (0x1F83, [0x1F0B, 0x399]), (0x1F84, [0x1F0C, 0x399]), (0x1F85, [0x1F0D, 0x399]),
   (0x1F86, [0x1F0E, 0x399]), (0x1F87, [0x1F0F, 0x399]), (0x1F88, [0x1F08, 0x399]),
   (0x1F89, [0x1F09, 0x399]), (0x1F8A, [0x1F0A, 0x399]), (0x1F8B, [0x1F0B, 0x399]),
   (0x1F8C, [0x1F0C, 0x399]), (0x1F8D, [0x1F0D, 0x399]), (0x1F8E, [0x1F0E, 0x399]),
   (0x1F8F, [0x1F0F, 0x399]), (0x1F90, [0x1F28, 0x399]), (0x1F91, [0x1F29, 0x399]),
   (0x1F92, [0x1F2A, 0x399]), (0x1F93, [0x1F2B, 0x399]), (0x1F94, [0x1F2C, 0x399]),
   (0x1F95, [0x1F2D, 0x399]), (0x1F96, [0x1F2E, 0x399]), (0x1F97, [0x1F2F, 0x399]),
   (0x1F98, [0x1F28, 0x399]), (0x1F99, [0x1F29, 0x399]), (0x1F9A, [0x1F2A, 0x399]),
   (0x1F9B, [0x1F2B, 0x399]), (0x1F9C, [0x1F2C, 0x399]), (0x1F9D, [0x1F2D, 0x399]),
   (0x1F9E, [0x1F2E, 0x399]), (0x1F9F, [0x1F2F, 0x399]), (0x1FA0, [0x1F68, 0x399]),
   (0x1FA1, [0x1F69, 0x399]), (0x1FA2, [0x1F6A, 0x399]), (0x1FA3, [0x1F6B, 0x399]),
   (0x1FA4, [0x1F6C, 0x399]), (0x1FA5, [0x1F6D, 0x399]), (0x1FA6, [0x1F6E, 0x399]),
   (0x1FA7, [0x1F6F, 0x399]), (0x1FA8, [0x1F68, 0x399]), (0x1FA9, [0x1F69, 0x399]),
   (0x1FAA, [0x1F6A, 0x399]), (0x1FAB, [0x1F6B, 0x399]), (0x1FAC, [0x1F6C, 0x399]),
   (0x1FAD, [0x1F6D, 0x399]), (0x1FAE, [0x1F6E, 0x399]), (0x1FAF, [0x1F6F, 0x399]),
   (0x1FB2, [0x1FBA, 0x399]), (0x1FB3, [0x391, 0x399]), (0x1FB4, [0x386, 0x399]),
   (0x1FB6, [0x391, 0x342]), (0x1FB7, [0x391, 0x342, 0x399]), (0x1FBC, [0x391, 0x399]),
   (0x1FC2, [0x1FCA, 0x399]), (0x1FC3, [0x397, 0x399]), (0x1FC4, [0x389, 0x399]),
   (0x1FC6, [0x397, 0x342]), (0x1FC7, [0x397, 0x342, 0x399]), (0x1FCC, [0x397, 0x399]),
   (0x1FD2, [0x399, 0x308, 0x300]), (0x1FD3, [0x399, 0x308, 0x301]), (0x1FD6, [0x399, 0x342]),
   (0x1FD7, [0x399, 0x308, 0x342]), (0x1FE2, [0x3A5, 0x308, 0x300]), (0x1FE3, [0x3A5, 0x308, 0x301]),
   (0x1FE4, [0x3A1, 0x313]), (0x1FE6, [0x3A5, 0x342]), (0x1FE7, [0x3A5, 0x308, 0x342]),
   (0x1FF2, [0x1FFA, 0x399]), (0x1FF3, [0x3A9, 0x399]), (0x1FF4, [0x38F, 0x399]),
   (0x1FF6, [0x3A9, 0x342]), (0x1FF7, [0x3A9, 0x342, 0x399]), (0x1FFC, [0x3A9, 0x399]),
   (0xFB00, [0x46, 0x46]), (0xFB01, [0x46, 0x49]), (0xFB02, [0x46, 0x4C]),
   (0xFB03, [0x46, 0x46, 0x49]), (0xFB04, [0x46, 0x46, 0x4C]), (0xFB05, [0x53, 0x54]),
   (0xFB06, [0x53, 0x54]), (0xFB13, [0x544, 0x546]), (0xFB14, [0x544, 0x535]),
   (0xFB15, [0x544, 0x53B]), (0xFB16, [0x54E, 0x546]), (0xFB17, [0x544, 0x53D])]

/-- The upper case of `c`: one character, or several for the special cases. -/
def upperChars (c : Char) : List Char :=
  match upperExpansions.find? (fun e => e.1 == c.toNat) with
  | some e => e.2.map Char.ofNat
  | none =>
    match upperShiftRuns.find? (fun r => r.holds c.toNat) with
    | some r => [Char.ofNat (Int.toNat (c.toNat + r.shift))]
    | none => [c]

/-- The upper case of a text, character by character. -/
def upper (s : String) : String := String.ofList (s.toList.flatMap upperChars)

end HostInterop.Text
