import LintLedger.Text.Ranges

/-!
# Display width

How many columns a text takes on a terminal.  Most characters take one, the wide ones of East
Asian scripts and pictures take two, and marks that join the character before them, fillers and
other invisible characters take none.  Some characters are drawn as one with their neighbours:
a picture with its selector, its skin tone or the pictures joined to it, the letters of a flag,
and the ligatures of several scripts.

A text is measured from its end, so that each character finds in `Tail` what those after it
offer to draw together with it.

## Main Definitions

* `isPicture` -- shown as a picture when nothing else is said
* `isSkinTone`, `isFlagLetter` -- the characters that colour a picture and the letters of flags
* `takesPictureSelector`, `takesTextSelector` -- the characters a selector may follow
* `takesSkinTone` -- the pictures that may be coloured
* `charColumns` -- the columns of a character on its own
* `Joint`, `Tail` -- what the measured end of a text offers to the character before it
* `columnsBefore` -- the columns of a character in front of such an end
* `width` -- the columns of a text
-/

namespace LintLedger.Text

/-! ## Pictures -/

/-- Unicode `Emoji_Presentation`, the letters of flags and the skin tones left out. -/
def pictureRanges : Ranges :=
  [(0x231a, 0x231b), (0x23e9, 0x23ec), (0x23f0, 0x23f0), (0x23f3, 0x23f3), (0x25fd, 0x25fe),
   (0x2614, 0x2615), (0x2648, 0x2653), (0x267f, 0x267f), (0x2693, 0x2693), (0x26a1, 0x26a1),
   (0x26aa, 0x26ab), (0x26bd, 0x26be), (0x26c4, 0x26c5), (0x26ce, 0x26ce), (0x26d4, 0x26d4),
   (0x26ea, 0x26ea), (0x26f2, 0x26f3), (0x26f5, 0x26f5), (0x26fa, 0x26fa), (0x26fd, 0x26fd),
   (0x2705, 0x2705), (0x270a, 0x270b), (0x2728, 0x2728), (0x274c, 0x274c), (0x274e, 0x274e),
   (0x2753, 0x2755), (0x2757, 0x2757), (0x2795, 0x2797), (0x27b0, 0x27b0), (0x27bf, 0x27bf),
   (0x2b1b, 0x2b1c), (0x2b50, 0x2b50), (0x2b55, 0x2b55), (0x1f004, 0x1f004), (0x1f0cf, 0x1f0cf),
   (0x1f18e, 0x1f18e), (0x1f191, 0x1f19a), (0x1f201, 0x1f201), (0x1f21a, 0x1f21a),
   (0x1f22f, 0x1f22f), (0x1f232, 0x1f236), (0x1f238, 0x1f23a), (0x1f250, 0x1f251),
   (0x1f300, 0x1f320), (0x1f32d, 0x1f335), (0x1f337, 0x1f37c), (0x1f37e, 0x1f393),
   (0x1f3a0, 0x1f3ca), (0x1f3cf, 0x1f3d3), (0x1f3e0, 0x1f3f0), (0x1f3f4, 0x1f3f4),
   (0x1f3f8, 0x1f3fa), (0x1f400, 0x1f43e), (0x1f440, 0x1f440), (0x1f442, 0x1f4fc),
   (0x1f4ff, 0x1f53d), (0x1f54b, 0x1f54e), (0x1f550, 0x1f567), (0x1f57a, 0x1f57a),
   (0x1f595, 0x1f596), (0x1f5a4, 0x1f5a4), (0x1f5fb, 0x1f64f), (0x1f680, 0x1f6c5),
   (0x1f6cc, 0x1f6cc), (0x1f6d0, 0x1f6d2), (0x1f6d5, 0x1f6d8), (0x1f6dc, 0x1f6df),
   (0x1f6eb, 0x1f6ec), (0x1f6f4, 0x1f6fc), (0x1f7e0, 0x1f7eb), (0x1f7f0, 0x1f7f0),
   (0x1f90c, 0x1f93a), (0x1f93c, 0x1f945), (0x1f947, 0x1f9ff), (0x1fa70, 0x1fa7c),
   (0x1fa80, 0x1fa8a), (0x1fa8e, 0x1fac6), (0x1fac8, 0x1fac8), (0x1facd, 0x1fadc),
   (0x1fadf, 0x1faea), (0x1faef, 0x1faf8)]

/-- The characters with a standard sequence of their own and a style selector. -/
def styledRanges : Ranges :=
  [(0x23, 0x23), (0x2a, 0x2a), (0x30, 0x39), (0xa9, 0xa9), (0xae, 0xae), (0x203c, 0x203c),
   (0x2049, 0x2049), (0x2122, 0x2122), (0x2139, 0x2139), (0x2194, 0x2199), (0x21a9, 0x21aa),
   (0x231a, 0x231b), (0x2328, 0x2328), (0x23cf, 0x23cf), (0x23e9, 0x23f3), (0x23f8, 0x23fa),
   (0x24c2, 0x24c2), (0x25aa, 0x25ab), (0x25b6, 0x25b6), (0x25c0, 0x25c0), (0x25fb, 0x25fe),
   (0x2600, 0x2604), (0x260e, 0x260e), (0x2611, 0x2611), (0x2614, 0x2615), (0x2618, 0x2618),
   (0x261d, 0x261d), (0x2620, 0x2620), (0x2622, 0x2623), (0x2626, 0x2626), (0x262a, 0x262a),
   (0x262e, 0x262f), (0x2638, 0x263a), (0x2640, 0x2640), (0x2642, 0x2642), (0x2648, 0x2653),
   (0x265f, 0x2660), (0x2663, 0x2663), (0x2665, 0x2666), (0x2668, 0x2668), (0x267b, 0x267b),
   (0x267e, 0x267f), (0x2692, 0x2697), (0x2699, 0x2699), (0x269b, 0x269c), (0x26a0, 0x26a1),
   (0x26a7, 0x26a7), (0x26aa, 0x26ab), (0x26b0, 0x26b1), (0x26bd, 0x26be), (0x26c4, 0x26c5),
   (0x26c8, 0x26c8), (0x26ce, 0x26cf), (0x26d1, 0x26d1), (0x26d3, 0x26d4), (0x26e9, 0x26ea),
   (0x26f0, 0x26f5), (0x26f7, 0x26fa), (0x26fd, 0x26fd), (0x2702, 0x2702), (0x2705, 0x2705),
   (0x2708, 0x270d), (0x270f, 0x270f), (0x2712, 0x2712), (0x2714, 0x2714), (0x2716, 0x2716),
   (0x271d, 0x271d), (0x2721, 0x2721), (0x2728, 0x2728), (0x2733, 0x2734), (0x2744, 0x2744),
   (0x2747, 0x2747), (0x274c, 0x274c), (0x274e, 0x274e), (0x2753, 0x2755), (0x2757, 0x2757),
   (0x2763, 0x2764), (0x2795, 0x2797), (0x27a1, 0x27a1), (0x27b0, 0x27b0), (0x27bf, 0x27bf),
   (0x2934, 0x2935), (0x2b05, 0x2b07), (0x2b1b, 0x2b1c), (0x2b50, 0x2b50), (0x2b55, 0x2b55),
   (0x3030, 0x3030), (0x303d, 0x303d), (0x3297, 0x3297), (0x3299, 0x3299), (0x1f004, 0x1f004),
   (0x1f170, 0x1f171), (0x1f17e, 0x1f17f), (0x1f202, 0x1f202), (0x1f21a, 0x1f21a),
   (0x1f22f, 0x1f22f), (0x1f237, 0x1f237), (0x1f30d, 0x1f30f), (0x1f315, 0x1f315),
   (0x1f31c, 0x1f31c), (0x1f321, 0x1f321), (0x1f324, 0x1f32c), (0x1f336, 0x1f336),
   (0x1f378, 0x1f378), (0x1f37d, 0x1f37d), (0x1f393, 0x1f393), (0x1f396, 0x1f397),
   (0x1f399, 0x1f39b), (0x1f39e, 0x1f39f), (0x1f3a7, 0x1f3a7), (0x1f3ac, 0x1f3ae),
   (0x1f3c2, 0x1f3c2), (0x1f3c4, 0x1f3c4), (0x1f3c6, 0x1f3c6), (0x1f3ca, 0x1f3ce),
   (0x1f3d4, 0x1f3e0), (0x1f3ed, 0x1f3ed), (0x1f3f3, 0x1f3f3), (0x1f3f5, 0x1f3f5),
   (0x1f3f7, 0x1f3f7), (0x1f408, 0x1f408), (0x1f415, 0x1f415), (0x1f41f, 0x1f41f),
   (0x1f426, 0x1f426), (0x1f43f, 0x1f43f), (0x1f441, 0x1f442), (0x1f446, 0x1f449),
   (0x1f44d, 0x1f44e), (0x1f453, 0x1f453), (0x1f46a, 0x1f46a), (0x1f47d, 0x1f47d),
   (0x1f4a3, 0x1f4a3), (0x1f4b0, 0x1f4b0), (0x1f4b3, 0x1f4b3), (0x1f4bb, 0x1f4bb),
   (0x1f4bf, 0x1f4bf), (0x1f4cb, 0x1f4cb), (0x1f4da, 0x1f4da), (0x1f4df, 0x1f4df),
   (0x1f4e4, 0x1f4e6), (0x1f4ea, 0x1f4ed), (0x1f4f7, 0x1f4f7), (0x1f4f9, 0x1f4fb),
   (0x1f4fd, 0x1f4fd), (0x1f508, 0x1f508), (0x1f50d, 0x1f50d), (0x1f512, 0x1f513),
   (0x1f549, 0x1f54a), (0x1f550, 0x1f567), (0x1f56f, 0x1f570), (0x1f573, 0x1f579),
   (0x1f587, 0x1f587), (0x1f58a, 0x1f58d), (0x1f590, 0x1f590), (0x1f5a5, 0x1f5a5),
   (0x1f5a8, 0x1f5a8), (0x1f5b1, 0x1f5b2), (0x1f5bc, 0x1f5bc), (0x1f5c2, 0x1f5c4),
   (0x1f5d1, 0x1f5d3), (0x1f5dc, 0x1f5de), (0x1f5e1, 0x1f5e1), (0x1f5e3, 0x1f5e3),
   (0x1f5e8, 0x1f5e8), (0x1f5ef, 0x1f5ef), (0x1f5f3, 0x1f5f3), (0x1f5fa, 0x1f5fa),
   (0x1f610, 0x1f610), (0x1f687, 0x1f687), (0x1f68d, 0x1f68d), (0x1f691, 0x1f691),
   (0x1f694, 0x1f694), (0x1f698, 0x1f698), (0x1f6ad, 0x1f6ad), (0x1f6b2, 0x1f6b2),
   (0x1f6b9, 0x1f6ba), (0x1f6bc, 0x1f6bc), (0x1f6cb, 0x1f6cb), (0x1f6cd, 0x1f6cf),
   (0x1f6e0, 0x1f6e5), (0x1f6e9, 0x1f6e9), (0x1f6f0, 0x1f6f0), (0x1f6f3, 0x1f6f3)]

/-- The characters of `styledRanges` that are pictures when nothing else is said. -/
def styledPictureRanges : Ranges :=
  [(0x231a, 0x231b), (0x23e9, 0x23ec), (0x23f0, 0x23f0), (0x23f3, 0x23f3), (0x25fd, 0x25fe),
   (0x2614, 0x2615), (0x2648, 0x2653), (0x267f, 0x267f), (0x2693, 0x2693), (0x26a1, 0x26a1),
   (0x26aa, 0x26ab), (0x26bd, 0x26be), (0x26c4, 0x26c5), (0x26ce, 0x26ce), (0x26d4, 0x26d4),
   (0x26ea, 0x26ea), (0x26f2, 0x26f3), (0x26f5, 0x26f5), (0x26fa, 0x26fa), (0x26fd, 0x26fd),
   (0x2705, 0x2705), (0x270a, 0x270b), (0x2728, 0x2728), (0x274c, 0x274c), (0x274e, 0x274e),
   (0x2753, 0x2755), (0x2757, 0x2757), (0x2795, 0x2797), (0x27b0, 0x27b0), (0x27bf, 0x27bf),
   (0x2b1b, 0x2b1c), (0x2b50, 0x2b50), (0x2b55, 0x2b55), (0x1f004, 0x1f004), (0x1f21a, 0x1f21a),
   (0x1f22f, 0x1f22f), (0x1f30d, 0x1f30f), (0x1f315, 0x1f315), (0x1f31c, 0x1f31c),
   (0x1f378, 0x1f378), (0x1f393, 0x1f393), (0x1f3a7, 0x1f3a7), (0x1f3ac, 0x1f3ae),
   (0x1f3c2, 0x1f3c2), (0x1f3c4, 0x1f3c4), (0x1f3c6, 0x1f3c6), (0x1f3ca, 0x1f3ca),
   (0x1f3e0, 0x1f3e0), (0x1f3ed, 0x1f3ed), (0x1f408, 0x1f408), (0x1f415, 0x1f415),
   (0x1f41f, 0x1f41f), (0x1f426, 0x1f426), (0x1f442, 0x1f442), (0x1f446, 0x1f449),
   (0x1f44d, 0x1f44e), (0x1f453, 0x1f453), (0x1f46a, 0x1f46a), (0x1f47d, 0x1f47d),
   (0x1f4a3, 0x1f4a3), (0x1f4b0, 0x1f4b0), (0x1f4b3, 0x1f4b3), (0x1f4bb, 0x1f4bb),
   (0x1f4bf, 0x1f4bf), (0x1f4cb, 0x1f4cb), (0x1f4da, 0x1f4da), (0x1f4df, 0x1f4df),
   (0x1f4e4, 0x1f4e6), (0x1f4ea, 0x1f4ed), (0x1f4f7, 0x1f4f7), (0x1f4f9, 0x1f4fb),
   (0x1f508, 0x1f508), (0x1f50d, 0x1f50d), (0x1f512, 0x1f513), (0x1f550, 0x1f567),
   (0x1f610, 0x1f610), (0x1f687, 0x1f687), (0x1f68d, 0x1f68d), (0x1f691, 0x1f691),
   (0x1f694, 0x1f694), (0x1f698, 0x1f698), (0x1f6ad, 0x1f6ad), (0x1f6b2, 0x1f6b2),
   (0x1f6b9, 0x1f6ba), (0x1f6bc, 0x1f6bc)]

/-- Unicode `Emoji_Modifier_Base`. -/
def colourableRanges : Ranges :=
  [(0x261d, 0x261d), (0x26f9, 0x26f9), (0x270a, 0x270d), (0x1f385, 0x1f385), (0x1f3c2, 0x1f3c4),
   (0x1f3c7, 0x1f3c7), (0x1f3ca, 0x1f3cc), (0x1f442, 0x1f443), (0x1f446, 0x1f450),
   (0x1f466, 0x1f478), (0x1f47c, 0x1f47c), (0x1f481, 0x1f483), (0x1f485, 0x1f487),
   (0x1f48f, 0x1f48f), (0x1f491, 0x1f491), (0x1f4aa, 0x1f4aa), (0x1f574, 0x1f575),
   (0x1f57a, 0x1f57a), (0x1f590, 0x1f590), (0x1f595, 0x1f596), (0x1f645, 0x1f647),
   (0x1f64b, 0x1f64f), (0x1f6a3, 0x1f6a3), (0x1f6b4, 0x1f6b6), (0x1f6c0, 0x1f6c0),
   (0x1f6cc, 0x1f6cc), (0x1f90c, 0x1f90c), (0x1f90f, 0x1f90f), (0x1f918, 0x1f91f),
   (0x1f926, 0x1f926), (0x1f930, 0x1f939), (0x1f93c, 0x1f93e), (0x1f977, 0x1f977),
   (0x1f9b5, 0x1f9b6), (0x1f9b8, 0x1f9b9), (0x1f9bb, 0x1f9bb), (0x1f9cd, 0x1f9cf),
   (0x1f9d1, 0x1f9dd), (0x1fac3, 0x1fac5), (0x1faf0, 0x1faf8)]

/-- Whether a character is shown as a picture when nothing else is said. -/
def isPicture (c : Char) : Bool := pictureRanges.has c

/-- The five skin tones. -/
def isSkinTone (c : Char) : Bool := 0x1f3fb ≤ c.toNat && c.toNat ≤ 0x1f3ff

/-- The letters that make a flag two by two. -/
def isFlagLetter (c : Char) : Bool := 0x1f1e6 ≤ c.toNat && c.toNat ≤ 0x1f1ff

/-- Whether a selector after the character makes it a picture. -/
def takesPictureSelector (c : Char) : Bool := styledRanges.has c

/-- Whether a selector after the character makes it plain text of one column; ideographs keep
their two. -/
def takesTextSelector (c : Char) : Bool :=
  styledPictureRanges.has c && !(0x1f200 ≤ c.toNat && c.toNat ≤ 0x1f2ff)

/-- Whether a skin tone after the character colours it. -/
def takesSkinTone (c : Char) : Bool := colourableRanges.has c

/-! ## Columns -/

/-! ## Characters on their own -/

/-- Unicode `East_Asian_Width` wide or full, invisible characters left out, and the code points
kept free for pictures to come. -/
def wideRanges : Ranges :=
  [(0x1100, 0x115f), (0x231a, 0x231b), (0x2329, 0x232a), (0x23e9, 0x23ec), (0x23f0, 0x23f0),
   (0x23f3, 0x23f3), (0x25fd, 0x25fe), (0x2614, 0x2615), (0x2630, 0x2637), (0x2648, 0x2653),
   (0x267f, 0x267f), (0x268a, 0x268f), (0x2693, 0x2693), (0x26a1, 0x26a1), (0x26aa, 0x26ab),
   (0x26bd, 0x26be), (0x26c4, 0x26c5), (0x26ce, 0x26ce), (0x26d4, 0x26d4), (0x26ea, 0x26ea),
   (0x26f2, 0x26f3), (0x26f5, 0x26f5), (0x26fa, 0x26fa), (0x26fd, 0x26fd), (0x2705, 0x2705),
   (0x270a, 0x270b), (0x2728, 0x2728), (0x274c, 0x274c), (0x274e, 0x274e), (0x2753, 0x2755),
   (0x2757, 0x2757), (0x2795, 0x2797), (0x27b0, 0x27b0), (0x27bf, 0x27bf), (0x2b1b, 0x2b1c),
   (0x2b50, 0x2b50), (0x2b55, 0x2b55), (0x2e80, 0x2e99), (0x2e9b, 0x2ef3), (0x2f00, 0x2fd5),
   (0x2ff0, 0x3029), (0x3030, 0x303e), (0x3041, 0x3096), (0x309b, 0x30ff), (0x3105, 0x312f),
   (0x3131, 0x3163), (0x3165, 0x318e), (0x3190, 0x31e5), (0x31ef, 0x321e), (0x3220, 0x3247),
   (0x3250, 0xa48c), (0xa490, 0xa4c6), (0xa960, 0xa97c), (0xac00, 0xd7a3), (0xf900, 0xfaff),
   (0xfe10, 0xfe19), (0xfe30, 0xfe52), (0xfe54, 0xfe66), (0xfe68, 0xfe6b), (0xff01, 0xff60),
   (0xffe0, 0xffe6), (0x16fe0, 0x16fe3), (0x16ff2, 0x16ff6), (0x17000, 0x18cd5),
   (0x18cff, 0x18d1e), (0x18d80, 0x18df2), (0x1aff0, 0x1aff3), (0x1aff5, 0x1affb),
   (0x1affd, 0x1affe), (0x1b000, 0x1b122), (0x1b132, 0x1b132), (0x1b150, 0x1b152),
   (0x1b155, 0x1b155), (0x1b164, 0x1b167), (0x1b170, 0x1b2fb), (0x1d300, 0x1d356),
   (0x1d360, 0x1d376), (0x1f004, 0x1f004), (0x1f02c, 0x1f02f), (0x1f094, 0x1f09f),
   (0x1f0af, 0x1f0b0), (0x1f0c0, 0x1f0c0), (0x1f0cf, 0x1f0d0), (0x1f0f6, 0x1f0ff),
   (0x1f18e, 0x1f18e), (0x1f191, 0x1f19a), (0x1f1ae, 0x1f1e5), (0x1f200, 0x1f320),
   (0x1f32d, 0x1f335), (0x1f337, 0x1f37c), (0x1f37e, 0x1f393), (0x1f3a0, 0x1f3ca),
   (0x1f3cf, 0x1f3d3), (0x1f3e0, 0x1f3f0), (0x1f3f4, 0x1f3f4), (0x1f3f8, 0x1f43e),
   (0x1f440, 0x1f440), (0x1f442, 0x1f4fc), (0x1f4ff, 0x1f53d), (0x1f54b, 0x1f54e),
   (0x1f550, 0x1f567), (0x1f57a, 0x1f57a), (0x1f595, 0x1f596), (0x1f5a4, 0x1f5a4),
   (0x1f5fb, 0x1f64f), (0x1f680, 0x1f6c5), (0x1f6cc, 0x1f6cc), (0x1f6d0, 0x1f6d2),
   (0x1f6d5, 0x1f6df), (0x1f6eb, 0x1f6ef), (0x1f6f4, 0x1f6ff), (0x1f7da, 0x1f7ff),
   (0x1f80c, 0x1f80f), (0x1f848, 0x1f84f), (0x1f85a, 0x1f85f), (0x1f888, 0x1f88f),
   (0x1f8ae, 0x1f8af), (0x1f8bc, 0x1f8bf), (0x1f8c2, 0x1f8cf), (0x1f8d9, 0x1f8ff),
   (0x1f90c, 0x1f93a), (0x1f93c, 0x1f945), (0x1f947, 0x1f9ff), (0x1fa58, 0x1fa5f),
   (0x1fa6e, 0x1faff), (0x1fc00, 0x1fffd), (0x20000, 0x2fffd), (0x30000, 0x3fffd)]

/-- Unicode `Default_Ignorable_Code_Point`. -/
def ignorableRanges : Ranges :=
  [(0xad, 0xad), (0x34f, 0x34f), (0x61c, 0x61c), (0x115f, 0x1160), (0x17b4, 0x17b5),
   (0x180b, 0x180f), (0x200b, 0x200f), (0x202a, 0x202e), (0x2060, 0x206f), (0x3164, 0x3164),
   (0xfe00, 0xfe0f), (0xfeff, 0xfeff), (0xffa0, 0xffa0), (0xfff0, 0xfff8), (0x1bca0, 0x1bca3),
   (0x1d173, 0x1d17a), (0xe0000, 0xe0fff)]

/-- Vowels and endings of Korean syllables, signs drawn over the digits after them, letters
drawn over the letter after them, and the Devanagari caret. -/
def overlaidRanges : Ranges :=
  [(0x605, 0x605), (0x70f, 0x70f), (0x890, 0x891), (0x8e2, 0x8e2), (0xd4e, 0xd4e),
   (0x1160, 0x11ff), (0xa8fa, 0xa8fa), (0xd7b0, 0xd7c6), (0xd7cb, 0xd7fb), (0x111c2, 0x111c3),
   (0x113d1, 0x113d1), (0x1193f, 0x1193f), (0x11941, 0x11941), (0x11a3a, 0x11a3a),
   (0x11a84, 0x11a89), (0x11d46, 0x11d46), (0x11f02, 0x11f02)]

/-- The columns of the characters that none of the properties describes. -/
def ownColumns? (n : Nat) : Option Nat :=
  if n = 0x2d7f || n = 0xff9e || n = 0xff9f then some 1
  else if n = 0x115f || n = 0x17a4 then some 2
  else if n = 0x17d8 then some 3
  else none

/-- Whether a character takes no column. -/
def isInvisible (c : Char) : Bool :=
  (ownColumns? c.toNat).isNone &&
    (ignorableRanges.has c || isExtending c || overlaidRanges.has c)

/-- The columns of a character on its own. -/
def charColumns (c : Char) : Nat :=
  if c.toNat ≤ 0xa0 then 1
  else
    match ownColumns? c.toNat with
    | some n => n
    | none => if isInvisible c then 0 else if wideRanges.has c || isPicture c then 2 else 1

/-! ## Characters drawn together -/

/-- Invisible characters at which an Arabic ligature breaks. -/
def breakingRanges : Ranges :=
  [(0x605, 0x605), (0x70f, 0x70f), (0x890, 0x891), (0x8e2, 0x8e2), (0x9be, 0x9be), (0x9d7, 0x9d7),
   (0xb3e, 0xb3e), (0xb57, 0xb57), (0xbbe, 0xbbe), (0xbd7, 0xbd7), (0xcc0, 0xcc0), (0xcc2, 0xcc2),
   (0xcc7, 0xcc8), (0xcca, 0xccb), (0xcd5, 0xcd6), (0xd3e, 0xd3e), (0xd4e, 0xd4e), (0xd57, 0xd57),
   (0xdcf, 0xdcf), (0xddf, 0xddf), (0x1160, 0x11ff), (0x1715, 0x1715), (0x1734, 0x1734),
   (0x180e, 0x180e), (0x1b35, 0x1b35), (0x1b3b, 0x1b3b), (0x1b3d, 0x1b3d), (0x1b43, 0x1b44),
   (0x1baa, 0x1baa), (0x1bf2, 0x1bf3), (0x200c, 0x200d), (0x2065, 0x2069), (0x302e, 0x302f),
   (0x3164, 0x3164), (0xa8fa, 0xa8fa), (0xa953, 0xa953), (0xa9c0, 0xa9c0), (0xd7b0, 0xd7c6),
   (0xd7cb, 0xd7fb), (0xffa0, 0xffa0), (0xfff0, 0xfff8), (0x111c0, 0x111c0), (0x111c2, 0x111c3),
   (0x11235, 0x11235), (0x1133e, 0x1133e), (0x1134d, 0x1134d), (0x11357, 0x11357),
   (0x113b8, 0x113b8), (0x113c2, 0x113c2), (0x113c5, 0x113c5), (0x113c7, 0x113c9),
   (0x113cf, 0x113cf), (0x113d1, 0x113d1), (0x114b0, 0x114b0), (0x114bd, 0x114bd),
   (0x115af, 0x115af), (0x116b6, 0x116b6), (0x11930, 0x11930), (0x1193d, 0x1193d),
   (0x1193f, 0x1193f), (0x11941, 0x11941), (0x11a3a, 0x11a3a), (0x11a84, 0x11a89),
   (0x11d46, 0x11d46), (0x11f02, 0x11f02), (0x11f41, 0x11f41), (0x16ff0, 0x16ff1),
   (0x1d165, 0x1d166), (0x1d16d, 0x1d172), (0xe0000, 0xe0000), (0xe0002, 0xe001f),
   (0xe0080, 0xe00ff), (0xe01f0, 0xe0fff)]

/-- Invisible marks that may stand anywhere in a ligature. -/
def isLigatureMark (c : Char) : Bool :=
  let n := c.toNat
  n = 0x34f || (0x17b4 ≤ n && n ≤ 0x17b5) || (0x180b ≤ n && n ≤ 0x180d) || n = 0x180f ||
  n = 0x200d || (0xfe00 ≤ n && n ≤ 0xfe0f) || (0xe0100 ≤ n && n ≤ 0xe01ef)

/-- The last letter of a ligature, measured from the end. -/
inductive Ligature
  | arabicAlef
  | hebrewLamed
  | bugineseYa
  | bugineseVowelYa
  | tifinaghConsonant
  | tifinaghJoined
  | lisuTone
  | turkicI
  | khmerLetter
deriving DecidableEq

/-- What stands at the front of the measured end of a text. -/
inductive Joint
  /-- Nothing that joins. -/
  | none
  | lineFeed
  | picture
  | skinTone
  | flagLetter
  | flagLetters
  /-- A joiner in front of a picture. -/
  | joined
  /-- A joiner in front of a picture, and before that a keycap. -/
  | joinedKeycap
  /-- One letter of a flag in front of a joiner and a picture. -/
  | joinedFlagLetter
  | joinedFlagEven
  | joinedFlagOdd
  /-- The tags of a flag in front of a joiner and a picture: so many letters or digits. -/
  | joinedTags (letters digits : Nat)
  | kiratE
  | kiratAi
  | ligature (l : Ligature) (joiner : Bool)
deriving DecidableEq

/-- What the measured end of a text offers to the character before it; the style is a selector
that has been read and not been used. -/
structure Tail where
  joint : Joint
  asPicture : Bool
  asText : Bool
deriving DecidableEq

/-- An end that joins nothing. -/
def Tail.plain : Tail := ⟨.none, false, false⟩

/-- An end with the given joint and no selector. -/
def Tail.of (j : Joint) : Tail := ⟨j, false, false⟩

/-- Whether the joint outlives a selector for a picture. -/
def Joint.keepsPictureSelector : Joint → Bool
  | .joined | .joinedKeycap | .ligature .. => true
  | _ => false

/-- Whether the joint outlives a selector for text. -/
def Joint.keepsTextSelector : Joint → Bool
  | .ligature .. => true
  | _ => false

/-- The joint of a character on its own. -/
def jointOf (c : Char) : Joint :=
  let n := c.toNat
  if n = 0xa then .lineFeed
  else if isSkinTone c then .skinTone
  else if isFlagLetter c then .flagLetter
  else if isPicture c then .picture
  else if n = 0x16d67 then .kiratE
  else if n = 0x16d68 then .kiratAi
  else if n = 0x622 || n = 0x623 || n = 0x625 || n = 0x627 || (0x671 ≤ n && n ≤ 0x673) ||
      n = 0x675 || n = 0x773 || n = 0x774 || (0x870 ≤ n && n ≤ 0x882) then
    .ligature .arabicAlef false
  else if n = 0x5dc then .ligature .hebrewLamed false
  else if n = 0x1a10 then .ligature .bugineseYa false
  else if (0x2d31 ≤ n && n ≤ 0x2d65) || n = 0x2d6f then .ligature .tifinaghConsonant false
  else if n = 0xa4fc || n = 0xa4fd then .ligature .lisuTone false
  else if n = 0x10c03 then .ligature .turkicI false
  else if (0x1780 ≤ n && n ≤ 0x17af) &&
      !([0x1783, 0x1788, 0x178d, 0x1794, 0x1799, 0x179a, 0x179e, 0x179f, 0x17a1, 0x17a3, 0x17a4,
         0x17a5, 0x17a6, 0x17a8, 0x17a9, 0x17aa, 0x17ad, 0x17ae].contains n) then
    .ligature .khmerLetter false
  else .none

/-- Columns and joint of a character that meets nothing it is drawn together with. -/
def alone (c : Char) : Int × Tail :=
  let n := c.toNat
  if n = 0xfe0e then (0, ⟨.none, false, true⟩)
  else if n = 0xfe0f then (0, ⟨.none, true, false⟩)
  else (charColumns c, .of (jointOf c))

/-- Columns and joint of a character drawn together with the joint after it, where it is. -/
def joins? (c : Char) (joint : Joint) : Option (Int × Tail) :=
  let n := c.toNat
  let tagLetter := 0xe0061 ≤ n && n ≤ 0xe007a
  let tagDigit := 0xe0030 ≤ n && n ≤ 0xe0039
  match joint with
  | .ligature l joiner =>
    if l != .arabicAlef && n = 0x200d then some (0, .of (.ligature l true))
    else if l != .arabicAlef && isLigatureMark c then some (0, .of joint)
    else
      match l, joiner with
      | .arabicAlef, _ =>
        if n = 0x644 || (0x6b5 ≤ n && n ≤ 0x6b8) || n = 0x76a || n = 0x8a6 || n = 0x8c7 then
          some (0, .plain)
        else if isInvisible c && !breakingRanges.has c then some (0, .of joint)
        else none
      | .hebrewLamed, true => if n = 0x5d0 then some (0, .plain) else none
      | .khmerLetter, _ => if n = 0x17d2 then some (-1, .plain) else none
      | .bugineseYa, true =>
        if n = 0x1a17 then some (0, .of (.ligature .bugineseVowelYa true)) else none
      | .bugineseVowelYa, _ => if n = 0x1a15 then some (0, .plain) else none
      | .tifinaghConsonant, joiner =>
        if n = 0x2d7f then some (1, .of (.ligature .tifinaghJoined true))
        else if joiner && ((0x2d31 ≤ n && n ≤ 0x2d65) || n = 0x2d6f) then some (0, .plain)
        else none
      | .tifinaghJoined, _ =>
        if (0x2d31 ≤ n && n ≤ 0x2d65) || n = 0x2d6f then some (-1, .plain) else none
      | .lisuTone, _ => if 0xa4f8 ≤ n && n ≤ 0xa4fb then some (0, .plain) else none
      | .turkicI, true => if n = 0x10c32 then some (0, .plain) else none
      | _, _ => none
  | .skinTone =>
    if takesSkinTone c then some (0, .of .picture)
    else if n = 0x200d then some (0, .of .joined)
    else none
  | .flagLetter => if isFlagLetter c then some (1, .of .flagLetters) else none
  | .flagLetters =>
    if isFlagLetter c then some (1, .of .flagLetters)
    else if n = 0x200d then some (0, .of .joined)
    else none
  | .picture => if n = 0x200d then some (0, .of .joined) else none
  | .joined =>
    if n = 0x20e3 then some (0, .of .joinedKeycap)
    else if isFlagLetter c then some (1, .of .joinedFlagLetter)
    else if isSkinTone c then some (0, .of .skinTone)
    else if n = 0xe007f then some (0, .of (.joinedTags 0 0))
    else if isPicture c then some (0, .of .picture)
    else none
  | .joinedFlagLetter => if isFlagLetter c then some (-1, .of .joinedFlagEven) else none
  | .joinedFlagEven =>
    if isFlagLetter c then some (3, .of .joinedFlagOdd)
    else if n = 0x200d then some (0, .of .joined)
    else none
  | .joinedFlagOdd =>
    if isFlagLetter c then some (-1, .of .joinedFlagEven)
    else if n = 0x200d then some (0, .of .joined)
    else none
  | .joinedTags letters digits =>
    if tagLetter && letters < 6 then some (0, .of (.joinedTags (letters + 1) digits))
    else if tagDigit && digits < 3 then some (0, .of (.joinedTags letters (digits + 1)))
    else if n = 0x1f3f4 && (3 ≤ letters || digits = 3) then some (0, .of .picture)
    else none
  | .kiratE =>
    if n = 0x16d63 || n = 0x16d69 then some (0, .plain)
    else if n = 0x16d67 then some (0, .of .kiratAi)
    else if n = 0x16d68 then some (1, .of .kiratE)
    else none
  | .kiratAi => if n = 0x16d63 then some (0, .plain) else none
  | .joinedKeycap | .lineFeed | .none => none

/-- The columns that a character adds in front of the measured end of a text, and the end that
results. -/
def columnsBefore (c : Char) (t : Tail) : Int × Tail :=
  if t.asPicture && takesPictureSelector c then
    (if t.joint == .joined || t.joint == .joinedKeycap then 0 else 2, .of .picture)
  else
    let joint :=
      if t.asPicture then
        match t.joint with
        | .ligature .. => t.joint
        | _ => .none
      else t.joint
    if c.toNat ≤ 0xa0 then
      if c = '\n' then (1, .of .lineFeed)
      else if c = '\r' && joint = .lineFeed then (0, .plain)
      else (1, .plain)
    else if c.toNat = 0xfe0f then
      (0, ⟨if joint.keepsPictureSelector then joint else .none, true, t.asText⟩)
    else if c.toNat = 0xfe0e then
      (0, ⟨if joint.keepsTextSelector then joint else .none, false, true⟩)
    else if t.asText && takesTextSelector c then (1, .plain)
    else (joins? c joint).getD (alone c)

/-- The columns of a text. -/
def width (s : String) : Nat :=
  (s.toList.foldr (fun c acc =>
    let (n, t) := columnsBefore c acc.2
    (acc.1 + n, t)) ((0 : Int), Tail.plain)).1.toNat

end LintLedger.Text
