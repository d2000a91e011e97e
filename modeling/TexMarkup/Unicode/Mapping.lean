import TexMarkup.Unicode.Ranges

/-!
# Characters that stand for others

Many characters are only another form of other characters: capital letters of small
ones, and compatibility characters of the text that they are written for. Forms that
follow one another in the order of what they stand for are given by runs, and all
others by the texts that they stand for.

## Main definitions

* `image`: what a character stands for.
-/

namespace TexMarkup.Unicode

/-- Runs of characters that stand for characters at a fixed distance: the first and
the last one, the step from one to the next, and what the first one stands for. -/
def shiftRuns : List (Nat × Nat × Nat × Nat) :=
  [(0xC0, 0xD6, 1, 0xE0), (0xD8, 0xDE, 1, 0xF8), (0x100, 0x12E, 2, 0x101),
    (0x139, 0x13D, 2, 0x13A), (0x141, 0x147, 2, 0x142), (0x14A, 0x176, 2, 0x14B),
    (0x179, 0x17D, 2, 0x17A), (0x1A0, 0x1A4, 2, 0x1A1), (0x1CD, 0x1DB, 2, 0x1CE),
    (0x1DE, 0x1EE, 2, 0x1DF), (0x1F8, 0x21E, 2, 0x1F9), (0x222, 0x232, 2, 0x223),
    (0x246, 0x24E, 2, 0x247), (0x388, 0x38A, 1, 0x3AD), (0x391, 0x3AB, 1, 0x3B1),
    (0x3D8, 0x3EE, 2, 0x3D9), (0x3FD, 0x3FF, 1, 0x37B), (0x400, 0x40F, 1, 0x450),
    (0x410, 0x42F, 1, 0x430), (0x460, 0x480, 2, 0x461), (0x48A, 0x4BE, 2, 0x48B),
    (0x4C1, 0x4CD, 2, 0x4C2), (0x4D0, 0x52E, 2, 0x4D1), (0x531, 0x556, 1, 0x561),
    (0x10A0, 0x10CD, 1, 0x2D00), (0x13F8, 0x13FD, 1, 0x13F0), (0x1C90, 0x1CBF, 1, 0x10D0),
    (0x1D31, 0x1D39, 2, 0x65), (0x1D34, 0x1D3A, 2, 0x68), (0x1D5D, 0x1D5F, 1, 0x3B2),
    (0x1DA4, 0x1DA6, 1, 0x268), (0x1DAE, 0x1DB1, 1, 0x272), (0x1DBC, 0x1DBE, 1, 0x290),
    (0x1E00, 0x1E94, 2, 0x1E01), (0x1EA0, 0x1EFE, 2, 0x1EA1), (0x1F08, 0x1F0F, 1, 0x1F00),
    (0x1F18, 0x1F1D, 1, 0x1F10), (0x1F28, 0x1F2F, 1, 0x1F20), (0x1F38, 0x1F3F, 1, 0x1F30),
    (0x1F48, 0x1F4D, 1, 0x1F40), (0x1F59, 0x1F5F, 1, 0x1F51), (0x1F68, 0x1F6F, 1, 0x1F60),
    (0x2074, 0x2079, 1, 0x34), (0x2080, 0x2089, 1, 0x30), (0x2096, 0x2099, 1, 0x6B),
    (0x2119, 0x211B, 1, 0x70), (0x2135, 0x2138, 1, 0x5D0), (0x2460, 0x2468, 1, 0x31),
    (0x24B6, 0x24CF, 1, 0x61), (0x24D0, 0x24E9, 1, 0x61), (0x2C00, 0x2C2F, 1, 0x2C30),
    (0x2C67, 0x2C6B, 2, 0x2C68), (0x2C80, 0x2CE2, 2, 0x2C81), (0x3137, 0x3139, 1, 0x1103),
    (0x313A, 0x313F, 1, 0x11B0), (0x3141, 0x3143, 1, 0x1106), (0x3145, 0x314E, 1, 0x1109),
    (0x314F, 0x3163, 1, 0x1161), (0x3178, 0x317C, 1, 0x112B), (0x3184, 0x3186, 1, 0x1157),
    (0x3263, 0x3265, 1, 0x1105), (0x3269, 0x326D, 1, 0x110E), (0x32E4, 0x32E9, 1, 0x30CA),
    (0x32EE, 0x32F2, 1, 0x30DE), (0x32F5, 0x32FA, 1, 0x30E8), (0x32FB, 0x32FE, 1, 0x30EF),
    (0xA640, 0xA66C, 2, 0xA641), (0xA680, 0xA69A, 2, 0xA681), (0xA722, 0xA72E, 2, 0xA723),
    (0xA732, 0xA76E, 2, 0xA733), (0xA77E, 0xA786, 2, 0xA77F), (0xA796, 0xA7A8, 2, 0xA797),
    (0xA7B4, 0xA7C2, 2, 0xA7B5), (0xA7CC, 0xA7DA, 2, 0xA7CD), (0xAB70, 0xABBF, 1, 0x13A0),
    (0xFB24, 0xFB26, 1, 0x5DB), (0xFE41, 0xFE44, 1, 0x300C), (0xFF01, 0xFF1E, 1, 0x21),
    (0xFF21, 0xFF3A, 1, 0x61), (0xFF3F, 0xFF5E, 1, 0x5F), (0xFF85, 0xFF8A, 1, 0x30CA),
    (0xFF8F, 0xFF93, 1, 0x30DE), (0xFF96, 0xFF9B, 1, 0x30E8), (0xFFA7, 0xFFA9, 1, 0x1103),
    (0xFFAA, 0xFFAF, 1, 0x11B0), (0xFFB1, 0xFFB3, 1, 0x1106), (0xFFB5, 0xFFBE, 1, 0x1109),
    (0xFFC2, 0xFFC7, 1, 0x1161), (0xFFCA, 0xFFCF, 1, 0x1167), (0xFFD2, 0xFFD7, 1, 0x116D),
    (0xFFDA, 0xFFDC, 1, 0x1173), (0xFFE9, 0xFFEC, 1, 0x2190), (0x10400, 0x10427, 1, 0x10428),
    (0x104B0, 0x104D3, 1, 0x104D8), (0x10570, 0x10595, 1, 0x10597), (0x107B6, 0x107B8, 1, 0x1C0),
    (0x10C80, 0x10CB2, 1, 0x10CC0), (0x10D50, 0x10D65, 1, 0x10D70),
    (0x118A0, 0x118BF, 1, 0x118C0), (0x16E40, 0x16E5F, 1, 0x16E60),
    (0x16EA0, 0x16EB8, 1, 0x16EBB), (0x1CCD6, 0x1CCEF, 1, 0x61), (0x1CCF0, 0x1CCF9, 1, 0x30),
    (0x1D400, 0x1D419, 1, 0x61), (0x1D41A, 0x1D433, 1, 0x61), (0x1D434, 0x1D44D, 1, 0x61),
    (0x1D44E, 0x1D467, 1, 0x61), (0x1D468, 0x1D481, 1, 0x61), (0x1D482, 0x1D49B, 1, 0x61),
    (0x1D49C, 0x1D4B5, 1, 0x61), (0x1D4B6, 0x1D4CF, 1, 0x61), (0x1D4D0, 0x1D4E9, 1, 0x61),
    (0x1D4EA, 0x1D503, 1, 0x61), (0x1D504, 0x1D51C, 1, 0x61), (0x1D51E, 0x1D537, 1, 0x61),
    (0x1D538, 0x1D550, 1, 0x61), (0x1D552, 0x1D56B, 1, 0x61), (0x1D56C, 0x1D585, 1, 0x61),
    (0x1D586, 0x1D59F, 1, 0x61), (0x1D5A0, 0x1D5B9, 1, 0x61), (0x1D5BA, 0x1D5D3, 1, 0x61),
    (0x1D5D4, 0x1D5ED, 1, 0x61), (0x1D5EE, 0x1D607, 1, 0x61), (0x1D608, 0x1D621, 1, 0x61),
    (0x1D622, 0x1D63B, 1, 0x61), (0x1D63C, 0x1D655, 1, 0x61), (0x1D656, 0x1D66F, 1, 0x61),
    (0x1D670, 0x1D689, 1, 0x61), (0x1D68A, 0x1D6A3, 1, 0x61), (0x1D6A8, 0x1D6B8, 1, 0x3B1),
    (0x1D6BA, 0x1D6C0, 1, 0x3C3), (0x1D6C2, 0x1D6D2, 1, 0x3B1), (0x1D6D4, 0x1D6DA, 1, 0x3C3),
    (0x1D6E2, 0x1D6F2, 1, 0x3B1), (0x1D6F4, 0x1D6FA, 1, 0x3C3), (0x1D6FC, 0x1D70C, 1, 0x3B1),
    (0x1D70E, 0x1D714, 1, 0x3C3), (0x1D71C, 0x1D72C, 1, 0x3B1), (0x1D72E, 0x1D734, 1, 0x3C3),
    (0x1D736, 0x1D746, 1, 0x3B1), (0x1D748, 0x1D74E, 1, 0x3C3), (0x1D756, 0x1D766, 1, 0x3B1),
    (0x1D768, 0x1D76E, 1, 0x3C3), (0x1D770, 0x1D780, 1, 0x3B1), (0x1D782, 0x1D788, 1, 0x3C3),
    (0x1D790, 0x1D7A0, 1, 0x3B1), (0x1D7A2, 0x1D7A8, 1, 0x3C3), (0x1D7AA, 0x1D7BA, 1, 0x3B1),
    (0x1D7BC, 0x1D7C2, 1, 0x3C3), (0x1D7CE, 0x1D7D7, 1, 0x30), (0x1D7D8, 0x1D7E1, 1, 0x30),
    (0x1D7E2, 0x1D7EB, 1, 0x30), (0x1D7EC, 0x1D7F5, 1, 0x30), (0x1D7F6, 0x1D7FF, 1, 0x30),
    (0x1E030, 0x1E038, 1, 0x430), (0x1E039, 0x1E03B, 1, 0x43A), (0x1E03C, 0x1E046, 1, 0x43E),
    (0x1E051, 0x1E059, 1, 0x430), (0x1E05F, 0x1E064, 1, 0x443), (0x1E900, 0x1E921, 1, 0x1E922),
    (0x1EE0A, 0x1EE0D, 1, 0x643), (0x1EE2A, 0x1EE2D, 1, 0x643), (0x1EE6A, 0x1EE6D, 1, 0x643),
    (0x1EE8B, 0x1EE8D, 1, 0x644), (0x1EEAB, 0x1EEAD, 1, 0x644), (0x1F130, 0x1F149, 1, 0x61),
    (0x1FBF0, 0x1FBF9, 1, 0x30)]

/-- Runs of characters that stand for texts: the first and the last one, and the
texts for all of them, with spaces between the texts. A question mark keeps the place
of a character that is refused. -/
def spellingRuns : List (Nat × Nat × String) :=
  [(0xAA, 0xAA, "a"),
    (0xB2, 0xB5, "2 3 ? μ"),
    (0xB9, 0xBE, "1 o » 1⁄4 1⁄2 3⁄4"),
    (0x130, 0x136, "i\u0307 ı ij ij ĵ ĵ ķ"),
    (0x13F, 0x140, "l· l·"),
    (0x149, 0x149, "ʼn"),
    (0x178, 0x178, "ÿ"),
    (0x17F, 0x198, "s ƀ ɓ ƃ ƃ ƅ ƅ ɔ ƈ ƈ ɖ ɗ ƌ ƌ ƍ ǝ ə ɛ ƒ ƒ ɠ ɣ ƕ ɩ ɨ ƙ"),
    (0x19C, 0x19F, "ɯ ɲ ƞ ɵ"),
    (0x1A6, 0x1B8, "ʀ ƨ ƨ ʃ ƪ ƫ ƭ ƭ ʈ ư ư ʊ ʋ ƴ ƴ ƶ ƶ ʒ ƹ"),
    (0x1BC, 0x1BC, "ƽ"),
    (0x1C4, 0x1CC, "dž dž dž lj lj lj nj nj nj"),
    (0x1F1, 0x1F7, "dz dz dz ǵ ǵ ƕ ƿ"),
    (0x220, 0x220, "ƞ"),
    (0x23A, 0x245, "ⱥ ȼ ȼ ƚ ⱦ ȿ ɀ ɂ ɂ ƀ ʉ ʌ"),
    (0x2B0, 0x2B8, "h ɦ j r ɹ ɻ ʁ w y"),
    (0x2E0, 0x2E4, "ɣ l s x ʕ"),
    (0x340, 0x345, "\u0300 \u0301 \u0342 \u0313 \u0308\u0301 ι"),
    (0x370, 0x376, "ͱ ͱ ͳ ͳ ʹ ͵ ͷ"),
    (0x37E, 0x37F, "; ϳ"),
    (0x386, 0x387, "ά ·"),
    (0x38C, 0x38F, "ό ? ύ ώ"),
    (0x3CF, 0x3D6, "ϗ β θ υ ύ ϋ φ π"),
    (0x3F0, 0x3FA, "κ ρ σ ϳ θ ε ϶ ϸ ϸ σ ϻ"),
    (0x4C0, 0x4C0, "ӏ"),
    (0x587, 0x587, "եւ"),
    (0x675, 0x678, "\u0627\u0674 \u0648\u0674 \u06c7\u0674 \u064a\u0674"),
    (0x958, 0x95F, "क\u093c ख\u093c ग\u093c ज\u093c ड\u093c ढ\u093c फ\u093c य\u093c"),
    (0x9DC, 0x9DF, "ড\u09bc ঢ\u09bc ? য\u09bc"),
    (0xA33, 0xA36, "ਲ\u0a3c ? ਵ ਸ\u0a3c"),
    (0xA59, 0xA5E, "ਖ\u0a3c ਗ\u0a3c ਜ\u0a3c ੜ ? ਫ\u0a3c"),
    (0xB5C, 0xB5D, "ଡ\u0b3c ଢ\u0b3c"),
    (0xE33, 0xE33, "\u0e4dา"),
    (0xEB3, 0xEB3, "\u0ecdາ"),
    (0xEDC, 0xEDD, "ຫນ ຫມ"),
    (0xF0C, 0xF0C, "་"),
    (0xF43, 0xF43, "ག\u0fb7"),
    (0xF4D, 0xF4D, "ཌ\u0fb7"),
    (0xF52, 0xF52, "ད\u0fb7"),
    (0xF57, 0xF57, "བ\u0fb7"),
    (0xF5C, 0xF5C, "ཛ\u0fb7"),
    (0xF69, 0xF69, "ཀ\u0fb5"),
    (0xF73, 0xF79, "\u0f71\u0f72 \u0f74 \u0f71\u0f74 \u0fb2\u0f80 \u0fb2\u0f71\u0f80 " ++
      "\u0fb3\u0f80 \u0fb3\u0f71\u0f80"),
    (0xF81, 0xF81, "\u0f71\u0f80"),
    (0xF93, 0xF93, "\u0f92\u0fb7"),
    (0xF9D, 0xF9D, "\u0f9c\u0fb7"),
    (0xFA2, 0xFA2, "\u0fa1\u0fb7"),
    (0xFA7, 0xFA7, "\u0fa6\u0fb7"),
    (0xFAC, 0xFAC, "\u0fab\u0fb7"),
    (0xFB9, 0xFB9, "\u0f90\u0fb5"),
    (0x10FC, 0x10FC, "ნ"),
    (0x1C80, 0x1C89, "в д о с т т ъ ѣ ꙋ ᲊ"),
    (0x1D2C, 0x1D32, "a æ b ᴯ d e ǝ"),
    (0x1D3C, 0x1D5C, "o ȣ p r t u w a ɐ ɑ ᴂ b d e ə ɛ ɜ g ᵎ k m ŋ o ɔ ᴖ ᴗ p t u ᴝ ɯ v ᴥ"),
    (0x1D60, 0x1D6A, "φ χ i r u v β γ ρ φ χ"),
    (0x1D78, 0x1D78, "н"),
    (0x1D9B, 0x1DA3, "ɒ c ɕ ð ɜ f ɟ ɡ ɥ"),
    (0x1DA7, 0x1DAD, "ᵻ ʝ ɭ ᶅ ʟ ɱ ɰ"),
    (0x1DB2, 0x1DBB, "ɸ ʂ ʃ ƫ ʉ ʊ ᴜ ʋ ʌ z"),
    (0x1DBF, 0x1DBF, "θ"),
    (0x1E9A, 0x1E9E, "aʾ ṡ ẜ ẝ ß"),
    (0x1F71, 0x1FBE, "ά ὲ έ ὴ ή ὶ ί ὸ ό ὺ ύ ὼ ώ ? ? ἀι ἁι ἂι ἃι ἄι ἅι ἆι ἇι ἀι ἁι ἂι ἃι ἄι " ++
      "ἅι ἆι ἇι ἠι ἡι ἢι ἣι ἤι ἥι ἦι ἧι ἠι ἡι ἢι ἣι ἤι ἥι ἦι ἧι ὠι ὡι ὢι ὣι ὤι ὥι ὦι ὧι ὠι " ++
      "ὡι ὢι ὣι ὤι ὥι ὦι ὧι ᾰ ᾱ ὰι αι άι ? ᾶ ᾶι ᾰ ᾱ ὰ ά αι ? ι"),
    (0x1FC2, 0x1FCC, "ὴι ηι ήι ? ῆ ῆι ὲ έ ὴ ή ηι"),
    (0x1FD3, 0x1FD3, "ΐ"),
    (0x1FD8, 0x1FDB, "ῐ ῑ ὶ ί"),
    (0x1FE3, 0x1FE3, "ΰ"),
    (0x1FE8, 0x1FFC, "ῠ ῡ ὺ ύ ῥ ? ? \x60 ? ? ὼι ωι ώι ? ῶ ῶι ὸ ό ὼ ώ ωι"),
    (0x2011, 0x2011, "‐"),
    (0x2033, 0x2037, "′′ ′′′ ‵ ‵‵ ‵‵‵"),
    (0x203C, 0x203C, "!!"),
    (0x2057, 0x2057, "′′′′"),
    (0x2070, 0x2071, "0 i"),
    (0x207A, 0x207F, "+ − = ( ) n"),
    (0x208A, 0x2095, "+ − = ( ) ? a e o x ə h"),
    (0x209A, 0x209C, "p s t"),
    (0x20A8, 0x20A8, "rs"),
    (0x2102, 0x2103, "c °c"),
    (0x2107, 0x2116, "ɛ ℈ °f g h h h h ħ i i l l ℔ n no"),
    (0x211C, 0x2134, "r r ℞ ℟ sm tel tm ℣ z ℥ ω ℧ z ℩ k å b c ℮ e e f ⅎ m o"),
    (0x2139, 0x2140, "i ℺ fax π γ γ π ∑"),
    (0x2145, 0x2149, "d d e i j"),
    (0x2150, 0x217F, "1⁄7 1⁄9 1⁄10 1⁄3 2⁄3 1⁄5 2⁄5 3⁄5 4⁄5 1⁄6 5⁄6 1⁄8 3⁄8 5⁄8 7⁄8 1⁄ i ii " ++
      "iii iv v vi vii viii ix x xi xii l c d m i ii iii iv v vi vii viii ix x xi xii l c " ++
      "d m"),
    (0x2183, 0x2183, "ↄ"),
    (0x2189, 0x2189, "0⁄3"),
    (0x222C, 0x2230, "∫∫ ∫∫∫ ∮ ∮∮ ∮∮∮"),
    (0x2329, 0x232A, "〈 〉"),
    (0x2469, 0x2487, "10 11 12 13 14 15 16 17 18 19 20 (1) (2) (3) (4) (5) (6) (7) (8) (9) " ++
      "(10) (11) (12) (13) (14) (15) (16) (17) (18) (19) (20)"),
    (0x249C, 0x24B5, "(a) (b) (c) (d) (e) (f) (g) (h) (i) (j) (k) (l) (m) (n) (o) (p) (q) " ++
      "(r) (s) (t) (u) (v) (w) (x) (y) (z)"),
    (0x24EA, 0x24EA, "0"),
    (0x2A0C, 0x2A0C, "∫∫∫∫"),
    (0x2A75, 0x2A76, "== ==="),
    (0x2ADC, 0x2ADC, "⫝\u0338"),
    (0x2C60, 0x2C64, "ⱡ ⱡ ɫ ᵽ ɽ"),
    (0x2C6D, 0x2C75, "ɑ ɱ ɐ ɒ ⱱ ⱳ ⱳ ⱴ ⱶ"),
    (0x2C7C, 0x2C7F, "j v ȿ ɀ"),
    (0x2CEB, 0x2CED, "ⳬ ⳬ ⳮ"),
    (0x2CF2, 0x2CF2, "ⳳ"),
    (0x2D6F, 0x2D6F, "ⵡ"),
    (0x2E9F, 0x2E9F, "母"),
    (0x2EF3, 0x2EF3, "龟"),
    (0x2F00, 0x2FD5, "一 丨 丶 丿 乙 亅 二 亠 人 儿 入 八 冂 冖 冫 几 凵 刀 力 勹 匕 匚 匸 " ++
      "十 卜 卩 厂 厶 又 口 囗 土 士 夂 夊 夕 大 女 子 宀 寸 小 尢 尸 屮 山 巛 工 己 巾 干 " ++
      "幺 广 廴 廾 弋 弓 彐 彡 彳 心 戈 戶 手 支 攴 文 斗 斤 方 无 日 曰 月 木 欠 止 歹 殳 " ++
      "毋 比 毛 氏 气 水 火 爪 父 爻 爿 片 牙 牛 犬 玄 玉 瓜 瓦 甘 生 用 田 疋 疒 癶 白 皮 " ++
      "皿 目 矛 矢 石 示 禸 禾 穴 立 竹 米 糸 缶 网 羊 羽 老 而 耒 耳 聿 肉 臣 自 至 臼 舌 " ++
      "舛 舟 艮 色 艸 虍 虫 血 行 衣 襾 見 角 言 谷 豆 豕 豸 貝 赤 走 足 身 車 辛 辰 辵 邑 " ++
      "酉 釆 里 金 長 門 阜 隶 隹 雨 靑 非 面 革 韋 韭 音 頁 風 飛 食 首 香 馬 骨 高 髟 鬥 " ++
      "鬯 鬲 鬼 魚 鳥 鹵 鹿 麥 麻 黃 黍 黑 黹 黽 鼎 鼓 鼠 鼻 齊 齒 龍 龜 龠"),
    (0x3002, 0x3002, "."),
    (0x3036, 0x303A, "〒 〷 十 卄 卅"),
    (0x309F, 0x309F, "より"),
    (0x30FF, 0x30FF, "コト"),
    (0x3131, 0x3136, "ᄀ ᄁ ᆪ ᄂ ᆬ ᆭ"),
    (0x3140, 0x3140, "ᄚ"),
    (0x3144, 0x3144, "ᄡ"),
    (0x3165, 0x3177, "ᄔ ᄕ ᇇ ᇈ ᇌ ᇎ ᇓ ᇗ ᇙ ᄜ ᇝ ᇟ ᄝ ᄞ ᄠ ᄢ ᄣ ᄧ ᄩ"),
    (0x317D, 0x3183, "ᄲ ᄶ ᅀ ᅇ ᅌ ᇱ ᇲ"),
    (0x3187, 0x318E, "ᆄ ᆅ ᆈ ᆑ ᆒ ᆔ ᆞ ᆡ"),
    (0x3192, 0x319F, "一 二 三 四 上 中 下 甲 乙 丙 丁 天 地 人"),
    (0x3200, 0x3247, "(ᄀ) (ᄂ) (ᄃ) (ᄅ) (ᄆ) (ᄇ) (ᄉ) (ᄋ) (ᄌ) (ᄎ) (ᄏ) (ᄐ) (ᄑ) (ᄒ) " ++
      "(가) (나) (다) (라) (마) (바) (사) (아) (자) (차) (카) (타) (파) (하) (주) (오전) " ++
      "(오후) ? (一) (二) (三) (四) (五) (六) (七) (八) (九) (十) (月) (火) (水) (木) (金) " ++
      "(土) (日) (株) (有) (社) (名) (特) (財) (祝) (労) (代) (呼) (学) (監) (企) (資) " ++
      "(協) (祭) (休) (自) (至) 問 幼 文 箏"),
    (0x3250, 0x3262, "pte 21 22 23 24 25 26 27 28 29 30 31 32 33 34 35 ᄀ ᄂ ᄃ"),
    (0x3266, 0x3268, "ᄉ ᄋ ᄌ"),
    (0x326E, 0x32E3, "가 나 다 라 마 바 사 아 자 차 카 타 파 하 참고 주의 우 ㉿ 一 二 三 四 " ++
      "五 六 七 八 九 十 月 火 水 木 金 土 日 株 有 社 名 特 財 祝 労 秘 男 女 適 優 印 注 " ++
      "項 休 写 正 上 中 下 左 右 医 宗 学 監 企 資 協 夜 36 37 38 39 40 41 42 43 44 45 46 " ++
      "47 48 49 50 1月 2月 3月 4月 5月 6月 7月 8月 9月 10月 11月 12月 hg erg ev ltd ア イ " ++
      "ウ エ オ カ キ ク ケ コ サ シ ス セ ソ タ チ ツ テ ト"),
    (0x32EA, 0x32ED, "ヒ フ ヘ ホ"),
    (0x32F3, 0x32F4, "ヤ ユ"),
    (0x32FF, 0x33FF, "令和 アパート アルファ アンペア アール イニング インチ ウォン " ++
      "エスクード エーカー オンス オーム カイリ カラット カロリー ガロン ガンマ ギガ " ++
      "ギニー キュリー ギルダー キロ キログラム キロメートル キロワット グラム グラムトン " ++
      "クルゼイロ クローネ ケース コルナ コーポ サイクル サンチーム シリング センチ セント " ++
      "ダース デシ ドル トン ナノ ノット ハイツ パーセント パーツ バーレル ピアストル " ++
      "ピクル ピコ ビル ファラッド フィート ブッシェル フラン ヘクタール ペソ ペニヒ " ++
      "ヘルツ ペンス ページ ベータ ポイント ボルト ホン ポンド ホール ホーン マイクロ " ++
      "マイル マッハ マルク マンション ミクロン ミリ ミリバール メガ メガトン メートル " ++
      "ヤード ヤール ユアン リットル リラ ルピー ルーブル レム レントゲン ワット 0点 1点 " ++
      "2点 3点 4点 5点 6点 7点 8点 9点 10点 11点 12点 13点 14点 15点 16点 17点 18点 19点 " ++
      "20点 21点 22点 23点 24点 hpa da au bar ov pc dm dm2 dm3 iu 平成 昭和 大正 明治 " ++
      "株式会社 pa na μa ma ka kb mb gb cal kcal pf nf μf μg mg kg hz khz mhz ghz thz μl " ++
      "ml dl kl fm nm μm mm cm km mm2 cm2 m2 km2 mm3 cm3 m3 km3 m∕s m∕s2 pa kpa mpa gpa " ++
      "rad rad∕s rad∕s2 ps ns μs ms pv nv μv mv kv mv pw nw μw mw kw mw kω mω ? bq cc cd " ++
      "c∕kg ? db gy ha hp in kk km kt lm ln log lx mb mil mol ph ? ppm pr sr sv wb v∕m a∕m " ++
      "1日 2日 3日 4日 5日 6日 7日 8日 9日 10日 11日 12日 13日 14日 15日 16日 17日 18日 " ++
      "19日 20日 21日 22日 23日 24日 25日 26日 27日 28日 29日 30日 31日 gal"),
    (0xA69C, 0xA69D, "ъ ь"),
    (0xA770, 0xA770, "ꝯ"),
    (0xA779, 0xA77D, "ꝺ ꝺ ꝼ ꝼ ᵹ"),
    (0xA78B, 0xA792, "ꞌ ꞌ ɥ ꞎ ꞏ ꞑ ꞑ ꞓ"),
    (0xA7AA, 0xA7B3, "ɦ ɜ ɡ ɬ ɪ ꞯ ʞ ʇ ʝ ꭓ"),
    (0xA7C4, 0xA7CB, "ꞔ ʂ ᶎ ꟈ ꟈ ꟊ ꟊ ɤ"),
    (0xA7DC, 0xA7DC, "ƛ"),
    (0xA7F1, 0xA7F9, "s c f q ꟶ ꟶ ꟷ ħ œ"),
    (0xAB5C, 0xAB5F, "ꜧ ꬷ ɫ ꭒ"),
    (0xAB69, 0xAB69, "ʍ"),
    (0xF900, 0xFA26, "豈 更 車 賈 滑 串 句 龜 龜 契 金 喇 奈 懶 癩 羅 蘿 螺 裸 邏 樂 洛 烙 " ++
      "珞 落 酪 駱 亂 卵 欄 爛 蘭 鸞 嵐 濫 藍 襤 拉 臘 蠟 廊 朗 浪 狼 郎 來 冷 勞 擄 櫓 爐 " ++
      "盧 老 蘆 虜 路 露 魯 鷺 碌 祿 綠 菉 錄 鹿 論 壟 弄 籠 聾 牢 磊 賂 雷 壘 屢 樓 淚 漏 " ++
      "累 縷 陋 勒 肋 凜 凌 稜 綾 菱 陵 讀 拏 樂 諾 丹 寧 怒 率 異 北 磻 便 復 不 泌 數 索 " ++
      "參 塞 省 葉 說 殺 辰 沈 拾 若 掠 略 亮 兩 凉 梁 糧 良 諒 量 勵 呂 女 廬 旅 濾 礪 閭 " ++
      "驪 麗 黎 力 曆 歷 轢 年 憐 戀 撚 漣 煉 璉 秊 練 聯 輦 蓮 連 鍊 列 劣 咽 烈 裂 說 廉 " ++
      "念 捻 殮 簾 獵 令 囹 寧 嶺 怜 玲 瑩 羚 聆 鈴 零 靈 領 例 禮 醴 隸 惡 了 僚 寮 尿 料 " ++
      "樂 燎 療 蓼 遼 龍 暈 阮 劉 杻 柳 流 溜 琉 留 硫 紐 類 六 戮 陸 倫 崙 淪 輪 律 慄 栗 " ++
      "率 隆 利 吏 履 易 李 梨 泥 理 痢 罹 裏 裡 里 離 匿 溺 吝 燐 璘 藺 隣 鱗 麟 林 淋 臨 " ++
      "立 笠 粒 狀 炙 識 什 茶 刺 切 度 拓 糖 宅 洞 暴 輻 行 降 見 廓 兀 嗀 﨎 﨏 塚 﨑 晴 " ++
      "﨓 﨔 凞 猪 益 礼 神 祥 福 靖 精 羽 﨟 蘒 﨡 諸 﨣 﨤 逸 都"),
    (0xFA2A, 0xFAD9, "飯 飼 館 鶴 郞 隷 侮 僧 免 勉 勤 卑 喝 嘆 器 塀 墨 層 屮 悔 慨 憎 懲 " ++
      "敏 既 暑 梅 海 渚 漢 煮 爫 琢 碑 社 祉 祈 祐 祖 祝 禍 禎 穀 突 節 練 縉 繁 署 者 臭 " ++
      "艹 艹 著 褐 視 謁 謹 賓 贈 辶 逸 難 響 頻 恵 𤋮 舘 ? ? 並 况 全 侀 充 冀 勇 勺 喝 " ++
      "啕 喙 嗢 塚 墳 奄 奔 婢 嬨 廒 廙 彩 徭 惘 慎 愈 憎 慠 懲 戴 揄 搜 摒 敖 晴 朗 望 杖 " ++
      "歹 殺 流 滛 滋 漢 瀞 煮 瞧 爵 犯 猪 瑱 甆 画 瘝 瘟 益 盛 直 睊 着 磌 窱 節 类 絛 練 " ++
      "缾 者 荒 華 蝹 襁 覆 視 調 諸 請 謁 諾 諭 謹 變 贈 輸 遲 醙 鉶 陼 難 靖 韛 響 頋 頻 " ++
      "鬒 龜 𢡊 𢡄 𣏕 㮝 䀘 䀹 𥉉 𥳐 𧻓 齃 龎"),
    (0xFB00, 0xFB06, "ff fi fl ffi ffl st st"),
    (0xFB13, 0xFB17, "մն մե մի վն մխ"),
    (0xFB1D, 0xFB23, "\u05d9\u05b4 \ufb1e \u05f2\u05b7 \u05e2 \u05d0 \u05d3 \u05d4"),
    (0xFB27, 0xFBB1, "\u05e8 \u05ea + \u05e9\u05c1 \u05e9\u05c2 \u05e9\u05bc\u05c1 " ++
      "\u05e9\u05bc\u05c2 \u05d0\u05b7 \u05d0\u05b8 \u05d0\u05bc \u05d1\u05bc \u05d2\u05bc " ++
      "\u05d3\u05bc \u05d4\u05bc \u05d5\u05bc \u05d6\u05bc ? \u05d8\u05bc \u05d9\u05bc " ++
      "\u05da\u05bc \u05db\u05bc \u05dc\u05bc ? \u05de\u05bc ? \u05e0\u05bc \u05e1\u05bc ? " ++
      "\u05e3\u05bc \u05e4\u05bc ? \u05e6\u05bc \u05e7\u05bc \u05e8\u05bc \u05e9\u05bc " ++
      "\u05ea\u05bc \u05d5\u05b9 \u05d1\u05bf \u05db\u05bf \u05e4\u05bf \u05d0\u05dc " ++
      "\u0671 \u0671 \u067b \u067b \u067b \u067b \u067e \u067e \u067e \u067e \u0680 \u0680 " ++
      "\u0680 \u0680 \u067a \u067a \u067a \u067a \u067f \u067f \u067f \u067f \u0679 \u0679 " ++
      "\u0679 \u0679 \u06a4 \u06a4 \u06a4 \u06a4 \u06a6 \u06a6 \u06a6 \u06a6 \u0684 \u0684 " ++
      "\u0684 \u0684 \u0683 \u0683 \u0683 \u0683 \u0686 \u0686 \u0686 \u0686 \u0687 \u0687 " ++
      "\u0687 \u0687 \u068d \u068d \u068c \u068c \u068e \u068e \u0688 \u0688 \u0698 \u0698 " ++
      "\u0691 \u0691 \u06a9 \u06a9 \u06a9 \u06a9 \u06af \u06af \u06af \u06af \u06b3 \u06b3 " ++
      "\u06b3 \u06b3 \u06b1 \u06b1 \u06b1 \u06b1 \u06ba \u06ba \u06bb \u06bb \u06bb \u06bb " ++
      "\u06c0 \u06c0 \u06c1 \u06c1 \u06c1 \u06c1 \u06be \u06be \u06be \u06be \u06d2 \u06d2 " ++
      "\u06d3 \u06d3"),
    (0xFBD3, 0xFC5D, "\u06ad \u06ad \u06ad \u06ad \u06c7 \u06c7 \u06c6 \u06c6 \u06c8 \u06c8 " ++
      "\u06c7\u0674 \u06cb \u06cb \u06c5 \u06c5 \u06c9 \u06c9 \u06d0 \u06d0 \u06d0 \u06d0 " ++
      "\u0649 \u0649 \u0626\u0627 \u0626\u0627 \u0626\u06d5 \u0626\u06d5 \u0626\u0648 " ++
      "\u0626\u0648 \u0626\u06c7 \u0626\u06c7 \u0626\u06c6 \u0626\u06c6 \u0626\u06c8 " ++
      "\u0626\u06c8 \u0626\u06d0 \u0626\u06d0 \u0626\u06d0 \u0626\u0649 \u0626\u0649 " ++
      "\u0626\u0649 \u06cc \u06cc \u06cc \u06cc \u0626\u062c \u0626\u062d \u0626\u0645 " ++
      "\u0626\u0649 \u0626\u064a \u0628\u062c \u0628\u062d \u0628\u062e \u0628\u0645 " ++
      "\u0628\u0649 \u0628\u064a \u062a\u062c \u062a\u062d \u062a\u062e \u062a\u0645 " ++
      "\u062a\u0649 \u062a\u064a \u062b\u062c \u062b\u0645 \u062b\u0649 \u062b\u064a " ++
      "\u062c\u062d \u062c\u0645 \u062d\u062c \u062d\u0645 \u062e\u062c \u062e\u062d " ++
      "\u062e\u0645 \u0633\u062c \u0633\u062d \u0633\u062e \u0633\u0645 \u0635\u062d " ++
      "\u0635\u0645 \u0636\u062c \u0636\u062d \u0636\u062e \u0636\u0645 \u0637\u062d " ++
      "\u0637\u0645 \u0638\u0645 \u0639\u062c \u0639\u0645 \u063a\u062c \u063a\u0645 " ++
      "\u0641\u062c \u0641\u062d \u0641\u062e \u0641\u0645 \u0641\u0649 \u0641\u064a " ++
      "\u0642\u062d \u0642\u0645 \u0642\u0649 \u0642\u064a \u0643\u0627 \u0643\u062c " ++
      "\u0643\u062d \u0643\u062e \u0643\u0644 \u0643\u0645 \u0643\u0649 \u0643\u064a " ++
      "\u0644\u062c \u0644\u062d \u0644\u062e \u0644\u0645 \u0644\u0649 \u0644\u064a " ++
      "\u0645\u062c \u0645\u062d \u0645\u062e \u0645\u0645 \u0645\u0649 \u0645\u064a " ++
      "\u0646\u062c \u0646\u062d \u0646\u062e \u0646\u0645 \u0646\u0649 \u0646\u064a " ++
      "\u0647\u062c \u0647\u0645 \u0647\u0649 \u0647\u064a \u064a\u062c \u064a\u062d " ++
      "\u064a\u062e \u064a\u0645 \u064a\u0649 \u064a\u064a \u0630\u0670 \u0631\u0670 " ++
      "\u0649\u0670"),
    (0xFC64, 0xFD3D, "\u0626\u0631 \u0626\u0632 \u0626\u0645 \u0626\u0646 \u0626\u0649 " ++
      "\u0626\u064a \u0628\u0631 \u0628\u0632 \u0628\u0645 \u0628\u0646 \u0628\u0649 " ++
      "\u0628\u064a \u062a\u0631 \u062a\u0632 \u062a\u0645 \u062a\u0646 \u062a\u0649 " ++
      "\u062a\u064a \u062b\u0631 \u062b\u0632 \u062b\u0645 \u062b\u0646 \u062b\u0649 " ++
      "\u062b\u064a \u0641\u0649 \u0641\u064a \u0642\u0649 \u0642\u064a \u0643\u0627 " ++
      "\u0643\u0644 \u0643\u0645 \u0643\u0649 \u0643\u064a \u0644\u0645 \u0644\u0649 " ++
      "\u0644\u064a \u0645\u0627 \u0645\u0645 \u0646\u0631 \u0646\u0632 \u0646\u0645 " ++
      "\u0646\u0646 \u0646\u0649 \u0646\u064a \u0649\u0670 \u064a\u0631 \u064a\u0632 " ++
      "\u064a\u0645 \u064a\u0646 \u064a\u0649 \u064a\u064a \u0626\u062c \u0626\u062d " ++
      "\u0626\u062e \u0626\u0645 \u0626\u0647 \u0628\u062c \u0628\u062d \u0628\u062e " ++
      "\u0628\u0645 \u0628\u0647 \u062a\u062c \u062a\u062d \u062a\u062e \u062a\u0645 " ++
      "\u062a\u0647 \u062b\u0645 \u062c\u062d \u062c\u0645 \u062d\u062c \u062d\u0645 " ++
      "\u062e\u062c \u062e\u0645 \u0633\u062c \u0633\u062d \u0633\u062e \u0633\u0645 " ++
      "\u0635\u062d \u0635\u062e \u0635\u0645 \u0636\u062c \u0636\u062d \u0636\u062e " ++
      "\u0636\u0645 \u0637\u062d \u0638\u0645 \u0639\u062c \u0639\u0645 \u063a\u062c " ++
      "\u063a\u0645 \u0641\u062c \u0641\u062d \u0641\u062e \u0641\u0645 \u0642\u062d " ++
      "\u0642\u0645 \u0643\u062c \u0643\u062d \u0643\u062e \u0643\u0644 \u0643\u0645 " ++
      "\u0644\u062c \u0644\u062d \u0644\u062e \u0644\u0645 \u0644\u0647 \u0645\u062c " ++
      "\u0645\u062d \u0645\u062e \u0645\u0645 \u0646\u062c \u0646\u062d \u0646\u062e " ++
      "\u0646\u0645 \u0646\u0647 \u0647\u062c \u0647\u0645 \u0647\u0670 \u064a\u062c " ++
      "\u064a\u062d \u064a\u062e \u064a\u0645 \u064a\u0647 \u0626\u0645 \u0626\u0647 " ++
      "\u0628\u0645 \u0628\u0647 \u062a\u0645 \u062a\u0647 \u062b\u0645 \u062b\u0647 " ++
      "\u0633\u0645 \u0633\u0647 \u0634\u0645 \u0634\u0647 \u0643\u0644 \u0643\u0645 " ++
      "\u0644\u0645 \u0646\u0645 \u0646\u0647 \u064a\u0645 \u064a\u0647 \u0640\u064e\u0651 " ++
      "\u0640\u064f\u0651 \u0640\u0650\u0651 \u0637\u0649 \u0637\u064a \u0639\u0649 " ++
      "\u0639\u064a \u063a\u0649 \u063a\u064a \u0633\u0649 \u0633\u064a \u0634\u0649 " ++
      "\u0634\u064a \u062d\u0649 \u062d\u064a \u062c\u0649 \u062c\u064a \u062e\u0649 " ++
      "\u062e\u064a \u0635\u0649 \u0635\u064a \u0636\u0649 \u0636\u064a \u0634\u062c " ++
      "\u0634\u062d \u0634\u062e \u0634\u0645 \u0634\u0631 \u0633\u0631 \u0635\u0631 " ++
      "\u0636\u0631 \u0637\u0649 \u0637\u064a \u0639\u0649 \u0639\u064a \u063a\u0649 " ++
      "\u063a\u064a \u0633\u0649 \u0633\u064a \u0634\u0649 \u0634\u064a \u062d\u0649 " ++
      "\u062d\u064a \u062c\u0649 \u062c\u064a \u062e\u0649 \u062e\u064a \u0635\u0649 " ++
      "\u0635\u064a \u0636\u0649 \u0636\u064a \u0634\u062c \u0634\u062d \u0634\u062e " ++
      "\u0634\u0645 \u0634\u0631 \u0633\u0631 \u0635\u0631 \u0636\u0631 \u0634\u062c " ++
      "\u0634\u062d \u0634\u062e \u0634\u0645 \u0633\u0647 \u0634\u0647 \u0637\u0645 " ++
      "\u0633\u062c \u0633\u062d \u0633\u062e \u0634\u062c \u0634\u062d \u0634\u062e " ++
      "\u0637\u0645 \u0638\u0645 \u0627\u064b \u0627\u064b"),
    (0xFD50, 0xFDC7, "\u062a\u062c\u0645 \u062a\u062d\u062c \u062a\u062d\u062c " ++
      "\u062a\u062d\u0645 \u062a\u062e\u0645 \u062a\u0645\u062c \u062a\u0645\u062d " ++
      "\u062a\u0645\u062e \u062c\u0645\u062d \u062c\u0645\u062d \u062d\u0645\u064a " ++
      "\u062d\u0645\u0649 \u0633\u062d\u062c \u0633\u062c\u062d \u0633\u062c\u0649 " ++
      "\u0633\u0645\u062d \u0633\u0645\u062d \u0633\u0645\u062c \u0633\u0645\u0645 " ++
      "\u0633\u0645\u0645 \u0635\u062d\u062d \u0635\u062d\u062d \u0635\u0645\u0645 " ++
      "\u0634\u062d\u0645 \u0634\u062d\u0645 \u0634\u062c\u064a \u0634\u0645\u062e " ++
      "\u0634\u0645\u062e \u0634\u0645\u0645 \u0634\u0645\u0645 \u0636\u062d\u0649 " ++
      "\u0636\u062e\u0645 \u0636\u062e\u0645 \u0637\u0645\u062d \u0637\u0645\u062d " ++
      "\u0637\u0645\u0645 \u0637\u0645\u064a \u0639\u062c\u0645 \u0639\u0645\u0645 " ++
      "\u0639\u0645\u0645 \u0639\u0645\u0649 \u063a\u0645\u0645 \u063a\u0645\u064a " ++
      "\u063a\u0645\u0649 \u0641\u062e\u0645 \u0641\u062e\u0645 \u0642\u0645\u062d " ++
      "\u0642\u0645\u0645 \u0644\u062d\u0645 \u0644\u062d\u064a \u0644\u062d\u0649 " ++
      "\u0644\u062c\u062c \u0644\u062c\u062c \u0644\u062e\u0645 \u0644\u062e\u0645 " ++
      "\u0644\u0645\u062d \u0644\u0645\u062d \u0645\u062d\u062c \u0645\u062d\u0645 " ++
      "\u0645\u062d\u064a \u0645\u062c\u062d \u0645\u062c\u0645 \u0645\u062e\u062c " ++
      "\u0645\u062e\u0645 ﶐ ﶑ \u0645\u062c\u062e \u0647\u0645\u062c \u0647\u0645\u0645 " ++
      "\u0646\u062d\u0645 \u0646\u062d\u0649 \u0646\u062c\u0645 \u0646\u062c\u0645 " ++
      "\u0646\u062c\u0649 \u0646\u0645\u064a \u0646\u0645\u0649 \u064a\u0645\u0645 " ++
      "\u064a\u0645\u0645 \u0628\u062e\u064a \u062a\u062c\u064a \u062a\u062c\u0649 " ++
      "\u062a\u062e\u064a \u062a\u062e\u0649 \u062a\u0645\u064a \u062a\u0645\u0649 " ++
      "\u062c\u0645\u064a \u062c\u062d\u0649 \u062c\u0645\u0649 \u0633\u062e\u0649 " ++
      "\u0635\u062d\u064a \u0634\u062d\u064a \u0636\u062d\u064a \u0644\u062c\u064a " ++
      "\u0644\u0645\u064a \u064a\u062d\u064a \u064a\u062c\u064a \u064a\u0645\u064a " ++
      "\u0645\u0645\u064a \u0642\u0645\u064a \u0646\u062d\u064a \u0642\u0645\u062d " ++
      "\u0644\u062d\u0645 \u0639\u0645\u064a \u0643\u0645\u064a \u0646\u062c\u062d " ++
      "\u0645\u062e\u064a \u0644\u062c\u0645 \u0643\u0645\u0645 \u0644\u062c\u0645 " ++
      "\u0646\u062c\u062d \u062c\u062d\u064a \u062d\u062c\u064a \u0645\u062c\u064a " ++
      "\u0641\u0645\u064a \u0628\u062d\u064a \u0643\u0645\u0645 \u0639\u062c\u0645 " ++
      "\u0635\u0645\u0645 \u0633\u062e\u064a \u0646\u062c\u064a"),
    (0xFDF0, 0xFDFC, "\u0635\u0644\u06d2 \u0642\u0644\u06d2 \u0627\u0644\u0644\u0647 " ++
      "\u0627\u0643\u0628\u0631 \u0645\u062d\u0645\u062f \u0635\u0644\u0639\u0645 " ++
      "\u0631\u0633\u0648\u0644 \u0639\u0644\u064a\u0647 \u0648\u0633\u0644\u0645 " ++
      "\u0635\u0644\u0649 ? ? \u0631\u06cc\u0627\u0644"),
    (0xFE10, 0xFE18, ", 、 ? ? ; ! ? 〖 〗"),
    (0xFE31, 0xFE40, "— – _ _ ( ) \x7b \x7d 〔 〕 【 】 《 》 〈 〉"),
    (0xFE4D, 0xFE69, "_ _ _ , 、 ? ? ; ? ? ! — ( ) \x7b \x7d 〔 〕 ? & * + - < > = ? ? $"),
    (0xFE71, 0xFE71, "\u0640\u064b"),
    (0xFE77, 0xFEFC, "\u0640\u064e ? \u0640\u064f ? \u0640\u0650 ? \u0640\u0651 ? " ++
      "\u0640\u0652 \u0621 \u0622 \u0622 \u0623 \u0623 \u0624 \u0624 \u0625 \u0625 \u0626 " ++
      "\u0626 \u0626 \u0626 \u0627 \u0627 \u0628 \u0628 \u0628 \u0628 \u0629 \u0629 \u062a " ++
      "\u062a \u062a \u062a \u062b \u062b \u062b \u062b \u062c \u062c \u062c \u062c \u062d " ++
      "\u062d \u062d \u062d \u062e \u062e \u062e \u062e \u062f \u062f \u0630 \u0630 \u0631 " ++
      "\u0631 \u0632 \u0632 \u0633 \u0633 \u0633 \u0633 \u0634 \u0634 \u0634 \u0634 \u0635 " ++
      "\u0635 \u0635 \u0635 \u0636 \u0636 \u0636 \u0636 \u0637 \u0637 \u0637 \u0637 \u0638 " ++
      "\u0638 \u0638 \u0638 \u0639 \u0639 \u0639 \u0639 \u063a \u063a \u063a \u063a \u0641 " ++
      "\u0641 \u0641 \u0641 \u0642 \u0642 \u0642 \u0642 \u0643 \u0643 \u0643 \u0643 \u0644 " ++
      "\u0644 \u0644 \u0644 \u0645 \u0645 \u0645 \u0645 \u0646 \u0646 \u0646 \u0646 \u0647 " ++
      "\u0647 \u0647 \u0647 \u0648 \u0648 \u0649 \u0649 \u064a \u064a \u064a \u064a " ++
      "\u0644\u0622 \u0644\u0622 \u0644\u0623 \u0644\u0623 \u0644\u0625 \u0644\u0625 " ++
      "\u0644\u0627 \u0644\u0627"),
    (0xFF5F, 0xFF84, "⦅ ⦆ . 「 」 、 ・ ヲ ァ ィ ゥ ェ ォ ャ ュ ョ ッ ー ア イ ウ エ オ カ " ++
      "キ ク ケ コ サ シ ス セ ソ タ チ ツ テ ト"),
    (0xFF8B, 0xFF8E, "ヒ フ ヘ ホ"),
    (0xFF94, 0xFF95, "ヤ ユ"),
    (0xFF9C, 0xFFA6, "ワ ン \u3099 \u309a ? ᄀ ᄁ ᆪ ᄂ ᆬ ᆭ"),
    (0xFFB0, 0xFFB0, "ᄚ"),
    (0xFFB4, 0xFFB4, "ᄡ"),
    (0xFFE0, 0xFFE8, "¢ £ ¬ ? ¦ ¥ ₩ ? │"),
    (0xFFED, 0xFFEE, "■ ○"),
    (0x10781, 0x107B5, "ː ˑ æ ʙ ɓ ? ʣ ꭦ ʥ ʤ ɖ ɗ ᶑ ɘ ɞ ʩ ɤ ɢ ɠ ʛ ħ ʜ ɧ ʄ ʪ ʫ ɬ 𝼄 ꞎ ɮ 𝼅 ʎ 𝼆 ø " ++
      "ɶ ɷ q ɺ 𝼈 ɽ ɾ ʀ ʨ ʦ ꭧ ʧ ʈ ⱱ ? ʏ ʡ ʢ ʘ"),
    (0x107B9, 0x107BA, "𝼊 𝼞"),
    (0x1D15E, 0x1D164, "𝅗𝅥 𝅘𝅥 𝅘𝅥𝅮 𝅘𝅥𝅯 𝅘𝅥𝅰 𝅘𝅥𝅱 𝅘𝅥𝅲"),
    (0x1D1BB, 0x1D1C0, "𝆹𝅥 𝆺𝅥 𝆹𝅥𝅮 𝆺𝅥𝅮 𝆹𝅥𝅯 𝆺𝅥𝅯"),
    (0x1D6A4, 0x1D6A5, "ı ȷ"),
    (0x1D6B9, 0x1D6B9, "θ"),
    (0x1D6C1, 0x1D6C1, "∇"),
    (0x1D6D3, 0x1D6D3, "σ"),
    (0x1D6DB, 0x1D6E1, "∂ ε θ κ φ ρ π"),
    (0x1D6F3, 0x1D6F3, "θ"),
    (0x1D6FB, 0x1D6FB, "∇"),
    (0x1D70D, 0x1D70D, "σ"),
    (0x1D715, 0x1D71B, "∂ ε θ κ φ ρ π"),
    (0x1D72D, 0x1D72D, "θ"),
    (0x1D735, 0x1D735, "∇"),
    (0x1D747, 0x1D747, "σ"),
    (0x1D74F, 0x1D755, "∂ ε θ κ φ ρ π"),
    (0x1D767, 0x1D767, "θ"),
    (0x1D76F, 0x1D76F, "∇"),
    (0x1D781, 0x1D781, "σ"),
    (0x1D789, 0x1D78F, "∂ ε θ κ φ ρ π"),
    (0x1D7A1, 0x1D7A1, "θ"),
    (0x1D7A9, 0x1D7A9, "∇"),
    (0x1D7BB, 0x1D7BB, "σ"),
    (0x1D7C3, 0x1D7CB, "∂ ε θ κ φ ρ π ϝ ϝ"),
    (0x1E047, 0x1E050, "ы э ю ꚉ ә і ј ө ү ӏ"),
    (0x1E05A, 0x1E05E, "к л о п с"),
    (0x1E065, 0x1E06D, "ъ ы ґ і ѕ џ ҫ ꙑ ұ"),
    (0x1EE00, 0x1EE09, "\u0627 \u0628 \u062c \u062f ? \u0648 \u0632 \u062d \u0637 \u064a"),
    (0x1EE0E, 0x1EE29, "\u0633 \u0639 \u0641 \u0635 \u0642 \u0631 \u0634 \u062a \u062b " ++
      "\u062e \u0630 \u0636 \u0638 \u063a \u066e \u06ba \u06a1 \u066f ? \u0628 \u062c ? " ++
      "\u0647 ? ? \u062d ? \u064a"),
    (0x1EE2E, 0x1EE3B, "\u0633 \u0639 \u0641 \u0635 \u0642 ? \u0634 \u062a \u062b \u062e ? " ++
      "\u0636 ? \u063a"),
    (0x1EE42, 0x1EE42, "\u062c"),
    (0x1EE47, 0x1EE69, "\u062d ? \u064a ? \u0644 ? \u0646 \u0633 \u0639 ? \u0635 \u0642 ? " ++
      "\u0634 ? ? \u062e ? \u0636 ? \u063a ? \u06ba ? \u066f ? \u0628 \u062c ? \u0647 ? ? " ++
      "\u062d \u0637 \u064a"),
    (0x1EE6E, 0x1EE89, "\u0633 \u0639 \u0641 \u0635 \u0642 ? \u0634 \u062a \u062b \u062e ? " ++
      "\u0636 \u0638 \u063a \u066e ? \u06a1 ? \u0627 \u0628 \u062c \u062f \u0647 \u0648 " ++
      "\u0632 \u062d \u0637 \u064a"),
    (0x1EE8E, 0x1EE9B, "\u0633 \u0639 \u0641 \u0635 \u0642 \u0631 \u0634 \u062a \u062b " ++
      "\u062e \u0630 \u0636 \u0638 \u063a"),
    (0x1EEA1, 0x1EEA9, "\u0628 \u062c \u062f ? \u0648 \u0632 \u062d \u0637 \u064a"),
    (0x1EEAE, 0x1EEBB, "\u0633 \u0639 \u0641 \u0635 \u0642 \u0631 \u0634 \u062a \u062b " ++
      "\u062e \u0630 \u0636 \u0638 \u063a"),
    (0x1F101, 0x1F10A, "0, 1, 2, 3, 4, 5, 6, 7, 8, 9,"),
    (0x1F110, 0x1F12E, "(a) (b) (c) (d) (e) (f) (g) (h) (i) (j) (k) (l) (m) (n) (o) (p) (q) " ++
      "(r) (s) (t) (u) (v) (w) (x) (y) (z) 〔s〕 c r cd wz"),
    (0x1F14A, 0x1F14F, "hv mv sd ss ppv wc"),
    (0x1F16A, 0x1F16C, "mc md mr"),
    (0x1F190, 0x1F190, "dj"),
    (0x1F200, 0x1F202, "ほか ココ サ"),
    (0x1F210, 0x1F23B, "手 字 双 デ 二 多 解 天 交 映 無 料 前 後 再 新 初 終 生 販 声 吹 演 " ++
      "投 捕 一 三 遊 左 中 右 指 走 打 禁 空 合 満 有 月 申 割 営 配"),
    (0x1F240, 0x1F248, "〔本〕 〔三〕 〔二〕 〔安〕 〔点〕 〔打〕 〔盗〕 〔勝〕 〔敗〕"),
    (0x1F250, 0x1F251, "得 可"),
    (0x2F800, 0x2FA1D, "丽 丸 乁 𠄢 你 侮 侻 倂 偺 備 僧 像 㒞 𠘺 免 兔 兤 具 𠔜 㒹 內 再 𠕋 " ++
      "冗 冤 仌 冬 况 𩇟 凵 刃 㓟 刻 剆 割 剷 㔕 勇 勉 勤 勺 包 匆 北 卉 卑 博 即 卽 卿 卿 " ++
      "卿 𠨬 灰 及 叟 𠭣 叫 叱 吆 咞 吸 呈 周 咢 哶 唐 啓 啣 善 善 喙 喫 喳 嗂 圖 嘆 圗 噑 " ++
      "噴 切 壮 城 埴 堍 型 堲 報 墬 𡓤 売 壷 夆 多 夢 奢 𡚨 𡛪 姬 娛 娧 姘 婦 㛮 㛼 嬈 嬾 " ++
      "嬾 𡧈 寃 寘 寧 寳 𡬘 寿 将 当 尢 㞁 屠 屮 峀 岍 𡷤 嵃 𡷦 嵮 嵫 嵼 巡 巢 㠯 巽 帨 帽 " ++
      "幩 㡢 𢆃 㡼 庰 庳 庶 廊 𪎒 廾 𢌱 𢌱 舁 弢 弢 㣇 𣊸 𦇚 形 彫 㣣 徚 忍 志 忹 悁 㤺 㤜 " ++
      "悔 𢛔 惇 慈 慌 慎 慌 慺 憎 憲 憤 憯 懞 懲 懶 成 戛 扝 抱 拔 捐 𢬌 挽 拼 捨 掃 揤 𢯱 " ++
      "搢 揅 掩 㨮 摩 摾 撝 摷 㩬 敏 敬 𣀊 旣 書 晉 㬙 暑 㬈 㫤 冒 冕 最 暜 肭 䏙 朗 望 朡 " ++
      "杞 杓 𣏃 㭉 柺 枅 桒 梅 𣑭 梎 栟 椔 㮝 楂 榣 槪 檨 𣚣 櫛 㰘 次 𣢧 歔 㱎 歲 殟 殺 殻 " ++
      "𣪍 𡴋 𣫺 汎 𣲼 沿 泍 汧 洖 派 海 流 浩 浸 涅 𣴞 洴 港 湮 㴳 滋 滇 𣻑 淹 潮 𣽞 𣾎 濆 " ++
      "瀹 瀞 瀛 㶖 灊 災 灷 炭 𠔥 煅 𤉣 熜 𤎫 爨 爵 牐 𤘈 犀 犕 𤜵 𤠔 獺 王 㺬 玥 㺸 㺸 瑇 " ++
      "瑜 瑱 璅 瓊 㼛 甤 𤰶 甾 𤲒 異 𢆟 瘐 𤾡 𤾸 𥁄 㿼 䀈 直 𥃳 𥃲 𥄙 𥄳 眞 真 真 睊 䀹 瞋 " ++
      "䁆 䂖 𥐝 硎 碌 磌 䃣 𥘦 祖 𥚚 𥛅 福 秫 䄯 穀 穊 穏 𥥼 𥪧 𥪧 竮 䈂 𥮫 篆 築 䈧 𥲀 糒 " ++
      "䊠 糨 糣 紀 𥾆 絣 䌁 緇 縂 繅 䌴 𦈨 𦉇 䍙 𦋙 罺 𦌾 羕 翺 者 𦓚 𦔣 聠 𦖨 聰 𣍟 䏕 育 " ++
      "脃 䐋 脾 媵 𦞧 𦞵 𣎓 𣎜 舁 舄 辞 䑫 芑 芋 芝 劳 花 芳 芽 苦 𦬼 若 茝 荣 莭 茣 莽 菧 " ++
      "著 荓 菊 菌 菜 𦰶 𦵫 𦳕 䔫 蓱 蓳 蔖 𧏊 蕤 𦼬 䕝 䕡 𦾱 𧃒 䕫 虐 虜 虧 虩 蚩 蚈 蜎 蛢 " ++
      "蝹 蜨 蝫 螆 䗗 蟡 蠁 䗹 衠 衣 𧙧 裗 裞 䘵 裺 㒻 𧢮 𧥦 䚾 䛇 誠 諭 變 豕 𧲨 貫 賁 贛 " ++
      "起 𧼯 𠠄 跋 趼 跰 𠣞 軔 輸 𨗒 𨗭 邔 郱 鄑 𨜮 鄛 鈸 鋗 鋘 鉼 鏹 鐕 𨯺 開 䦕 閷 𨵷 䧦 " ++
      "雃 嶲 霣 𩅅 𩈚 䩮 䩶 韠 𩐊 䪲 𩒖 頋 頋 頩 𩖶 飢 䬳 餩 馧 駂 駾 䯎 𩬰 鬒 鱀 鳽 䳎 䳭 " ++
      "鵧 𪃎 䳸 𪄅 𪈎 𪊑 麻 䵖 黹 黾 鼅 鼏 鼖 鼻 𪘀")]

/-- What a character in a run of fixed distance stands for. -/
def shifted? (c : Char) : Option Char :=
  shiftRuns.findSome? fun (first, last, step, target) =>
    if first ≤ c.toNat ∧ c.toNat ≤ last ∧ (c.toNat - first) % step = 0 then
      some (Char.ofNat (target + (c.toNat - first)))
    else none

/-- What a character in a run of texts stands for. -/
def spelling? (c : Char) : Option (List Char) :=
  spellingRuns.findSome? fun (first, last, texts) =>
    if first ≤ c.toNat ∧ c.toNat ≤ last then (words texts.toList)[c.toNat - first]? else none

/-- What a character stands for; most characters stand for themselves. -/
def image (c : Char) : List Char :=
  match shifted? c with
  | some d => [d]
  | none => (spelling? c).getD [c]

end TexMarkup.Unicode
