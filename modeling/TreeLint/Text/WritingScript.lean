import TreeLint.Text.Ranges

/-! # Scripts

The script of every code point of Unicode 17 that has one.  Scripts are stored as one
table of ranges, each with the place of its name in the list of names. -/

namespace TreeLint.WritingScript

def names : Array String := #[
  "Adlam", "Ahom", "Anatolian_Hieroglyphs", "Arabic", "Armenian", "Avestan", "Balinese", "Bamum",
  "Bassa_Vah", "Batak", "Bengali", "Beria_Erfe", "Bhaiksuki", "Bopomofo", "Brahmi", "Braille",
  "Buginese", "Buhid", "Canadian_Aboriginal", "Carian", "Caucasian_Albanian", "Chakma", "Cham",
  "Cherokee", "Chorasmian", "Common", "Coptic", "Cuneiform", "Cypriot", "Cypro_Minoan", "Cyrillic",
  "Deseret", "Devanagari", "Dives_Akuru", "Dogra", "Duployan", "Egyptian_Hieroglyphs", "Elbasan",
  "Elymaic", "Ethiopic", "Garay", "Georgian", "Glagolitic", "Gothic", "Grantha", "Greek",
  "Gujarati", "Gunjala_Gondi", "Gurmukhi", "Gurung_Khema", "Han", "Hangul", "Hanifi_Rohingya",
  "Hanunoo", "Hatran", "Hebrew", "Hiragana", "Imperial_Aramaic", "Inherited",
  "Inscriptional_Pahlavi", "Inscriptional_Parthian", "Javanese", "Kaithi", "Kannada", "Katakana",
  "Kawi", "Kayah_Li", "Kharoshthi", "Khitan_Small_Script", "Khmer", "Khojki", "Khudawadi",
  "Kirat_Rai", "Lao", "Latin", "Lepcha", "Limbu", "Linear_A", "Linear_B", "Lisu", "Lycian",
  "Lydian", "Mahajani", "Makasar", "Malayalam", "Mandaic", "Manichaean", "Marchen",
  "Masaram_Gondi", "Medefaidrin", "Meetei_Mayek", "Mende_Kikakui", "Meroitic_Cursive",
  "Meroitic_Hieroglyphs", "Miao", "Modi", "Mongolian", "Mro", "Multani", "Myanmar", "Nabataean",
  "Nag_Mundari", "Nandinagari", "New_Tai_Lue", "Newa", "Nko", "Nushu", "Nyiakeng_Puachue_Hmong",
  "Ogham", "Ol_Chiki", "Ol_Onal", "Old_Hungarian", "Old_Italic", "Old_North_Arabian", "Old_Permic",
  "Old_Persian", "Old_Sogdian", "Old_South_Arabian", "Old_Turkic", "Old_Uyghur", "Oriya", "Osage",
  "Osmanya", "Pahawh_Hmong", "Palmyrene", "Pau_Cin_Hau", "Phags_Pa", "Phoenician",
  "Psalter_Pahlavi", "Rejang", "Runic", "Samaritan", "Saurashtra", "Sharada", "Shavian", "Siddham",
  "Sidetic", "SignWriting", "Sinhala", "Sogdian", "Sora_Sompeng", "Soyombo", "Sundanese",
  "Sunuwar", "Syloti_Nagri", "Syriac", "Tagalog", "Tagbanwa", "Tai_Le", "Tai_Tham", "Tai_Viet",
  "Tai_Yo", "Takri", "Tamil", "Tangsa", "Tangut", "Telugu", "Thaana", "Thai", "Tibetan",
  "Tifinagh", "Tirhuta", "Todhri", "Tolong_Siki", "Toto", "Tulu_Tigalari", "Ugaritic", "Vai",
  "Vithkuqi", "Wancho", "Warang_Citi", "Yezidi", "Yi", "Zanabazar_Square"]

/-- First and last code point and the place of the script, for ranges below U+1000. -/
def lowerTable : Array (Nat × Nat × Nat) := #[
  (0x0, 0x40, 25), (0x41, 0x5a, 74), (0x5b, 0x60, 25), (0x61, 0x7a, 74), (0x7b, 0xa9, 25),
  (0xaa, 0xaa, 74), (0xab, 0xb9, 25), (0xba, 0xba, 74), (0xbb, 0xbf, 25), (0xc0, 0xd6, 74),
  (0xd7, 0xd7, 25), (0xd8, 0xf6, 74), (0xf7, 0xf7, 25), (0xf8, 0x2b8, 74), (0x2b9, 0x2df, 25),
  (0x2e0, 0x2e4, 74), (0x2e5, 0x2e9, 25), (0x2ea, 0x2eb, 13), (0x2ec, 0x2ff, 25),
  (0x300, 0x36f, 58), (0x370, 0x373, 45), (0x374, 0x374, 25), (0x375, 0x377, 45),
  (0x37a, 0x37d, 45), (0x37e, 0x37e, 25), (0x37f, 0x37f, 45), (0x384, 0x384, 45),
  (0x385, 0x385, 25), (0x386, 0x386, 45), (0x387, 0x387, 25), (0x388, 0x38a, 45),
  (0x38c, 0x38c, 45), (0x38e, 0x3a1, 45), (0x3a3, 0x3e1, 45), (0x3e2, 0x3ef, 26),
  (0x3f0, 0x3ff, 45), (0x400, 0x484, 30), (0x485, 0x486, 58), (0x487, 0x52f, 30),
  (0x531, 0x556, 4), (0x559, 0x58a, 4), (0x58d, 0x58f, 4), (0x591, 0x5c7, 55), (0x5d0, 0x5ea, 55),
  (0x5ef, 0x5f4, 55), (0x600, 0x604, 3), (0x605, 0x605, 25), (0x606, 0x60b, 3), (0x60c, 0x60c, 25),
  (0x60d, 0x61a, 3), (0x61b, 0x61b, 25), (0x61c, 0x61e, 3), (0x61f, 0x61f, 25), (0x620, 0x63f, 3),
  (0x640, 0x640, 25), (0x641, 0x64a, 3), (0x64b, 0x655, 58), (0x656, 0x66f, 3), (0x670, 0x670, 58),
  (0x671, 0x6dc, 3), (0x6dd, 0x6dd, 25), (0x6de, 0x6ff, 3), (0x700, 0x70d, 145),
  (0x70f, 0x74a, 145), (0x74d, 0x74f, 145), (0x750, 0x77f, 3), (0x780, 0x7b1, 157),
  (0x7c0, 0x7fa, 105), (0x7fd, 0x7ff, 105), (0x800, 0x82d, 131), (0x830, 0x83e, 131),
  (0x840, 0x85b, 85), (0x85e, 0x85e, 85), (0x860, 0x86a, 145), (0x870, 0x891, 3),
  (0x897, 0x8e1, 3), (0x8e2, 0x8e2, 25), (0x8e3, 0x8ff, 3), (0x900, 0x950, 32), (0x951, 0x954, 58),
  (0x955, 0x963, 32), (0x964, 0x965, 25), (0x966, 0x97f, 32), (0x980, 0x983, 10),
  (0x985, 0x98c, 10), (0x98f, 0x990, 10), (0x993, 0x9a8, 10), (0x9aa, 0x9b0, 10),
  (0x9b2, 0x9b2, 10), (0x9b6, 0x9b9, 10), (0x9bc, 0x9c4, 10), (0x9c7, 0x9c8, 10),
  (0x9cb, 0x9ce, 10), (0x9d7, 0x9d7, 10), (0x9dc, 0x9dd, 10), (0x9df, 0x9e3, 10),
  (0x9e6, 0x9fe, 10), (0xa01, 0xa03, 48), (0xa05, 0xa0a, 48), (0xa0f, 0xa10, 48),
  (0xa13, 0xa28, 48), (0xa2a, 0xa30, 48), (0xa32, 0xa33, 48), (0xa35, 0xa36, 48),
  (0xa38, 0xa39, 48), (0xa3c, 0xa3c, 48), (0xa3e, 0xa42, 48), (0xa47, 0xa48, 48),
  (0xa4b, 0xa4d, 48), (0xa51, 0xa51, 48), (0xa59, 0xa5c, 48), (0xa5e, 0xa5e, 48),
  (0xa66, 0xa76, 48), (0xa81, 0xa83, 46), (0xa85, 0xa8d, 46), (0xa8f, 0xa91, 46),
  (0xa93, 0xaa8, 46), (0xaaa, 0xab0, 46), (0xab2, 0xab3, 46), (0xab5, 0xab9, 46),
  (0xabc, 0xac5, 46), (0xac7, 0xac9, 46), (0xacb, 0xacd, 46), (0xad0, 0xad0, 46),
  (0xae0, 0xae3, 46), (0xae6, 0xaf1, 46), (0xaf9, 0xaff, 46), (0xb01, 0xb03, 120),
  (0xb05, 0xb0c, 120), (0xb0f, 0xb10, 120), (0xb13, 0xb28, 120), (0xb2a, 0xb30, 120),
  (0xb32, 0xb33, 120), (0xb35, 0xb39, 120), (0xb3c, 0xb44, 120), (0xb47, 0xb48, 120),
  (0xb4b, 0xb4d, 120), (0xb55, 0xb57, 120), (0xb5c, 0xb5d, 120), (0xb5f, 0xb63, 120),
  (0xb66, 0xb77, 120), (0xb82, 0xb83, 153), (0xb85, 0xb8a, 153), (0xb8e, 0xb90, 153),
  (0xb92, 0xb95, 153), (0xb99, 0xb9a, 153), (0xb9c, 0xb9c, 153), (0xb9e, 0xb9f, 153),
  (0xba3, 0xba4, 153), (0xba8, 0xbaa, 153), (0xbae, 0xbb9, 153), (0xbbe, 0xbc2, 153),
  (0xbc6, 0xbc8, 153), (0xbca, 0xbcd, 153), (0xbd0, 0xbd0, 153), (0xbd7, 0xbd7, 153),
  (0xbe6, 0xbfa, 153), (0xc00, 0xc0c, 156), (0xc0e, 0xc10, 156), (0xc12, 0xc28, 156),
  (0xc2a, 0xc39, 156), (0xc3c, 0xc44, 156), (0xc46, 0xc48, 156), (0xc4a, 0xc4d, 156),
  (0xc55, 0xc56, 156), (0xc58, 0xc5a, 156), (0xc5c, 0xc5d, 156), (0xc60, 0xc63, 156),
  (0xc66, 0xc6f, 156), (0xc77, 0xc7f, 156), (0xc80, 0xc8c, 63), (0xc8e, 0xc90, 63),
  (0xc92, 0xca8, 63), (0xcaa, 0xcb3, 63), (0xcb5, 0xcb9, 63), (0xcbc, 0xcc4, 63),
  (0xcc6, 0xcc8, 63), (0xcca, 0xccd, 63), (0xcd5, 0xcd6, 63), (0xcdc, 0xcde, 63),
  (0xce0, 0xce3, 63), (0xce6, 0xcef, 63), (0xcf1, 0xcf3, 63), (0xd00, 0xd0c, 84),
  (0xd0e, 0xd10, 84), (0xd12, 0xd44, 84), (0xd46, 0xd48, 84), (0xd4a, 0xd4f, 84),
  (0xd54, 0xd63, 84), (0xd66, 0xd7f, 84), (0xd81, 0xd83, 138), (0xd85, 0xd96, 138),
  (0xd9a, 0xdb1, 138), (0xdb3, 0xdbb, 138), (0xdbd, 0xdbd, 138), (0xdc0, 0xdc6, 138),
  (0xdca, 0xdca, 138), (0xdcf, 0xdd4, 138), (0xdd6, 0xdd6, 138), (0xdd8, 0xddf, 138),
  (0xde6, 0xdef, 138), (0xdf2, 0xdf4, 138), (0xe01, 0xe3a, 158), (0xe3f, 0xe3f, 25),
  (0xe40, 0xe5b, 158), (0xe81, 0xe82, 73), (0xe84, 0xe84, 73), (0xe86, 0xe8a, 73),
  (0xe8c, 0xea3, 73), (0xea5, 0xea5, 73), (0xea7, 0xebd, 73), (0xec0, 0xec4, 73),
  (0xec6, 0xec6, 73), (0xec8, 0xece, 73), (0xed0, 0xed9, 73), (0xedc, 0xedf, 73),
  (0xf00, 0xf47, 159), (0xf49, 0xf6c, 159), (0xf71, 0xf97, 159), (0xf99, 0xfbc, 159),
  (0xfbe, 0xfcc, 159), (0xfce, 0xfd4, 159), (0xfd5, 0xfd8, 25), (0xfd9, 0xfda, 159)]

/-- First and last code point and the place of the script, for ranges from U+1000 up to U+FFFF. -/
def middleTable : Array (Nat × Nat × Nat) := #[
  (0x1000, 0x109f, 99), (0x10a0, 0x10c5, 41), (0x10c7, 0x10c7, 41), (0x10cd, 0x10cd, 41),
  (0x10d0, 0x10fa, 41), (0x10fb, 0x10fb, 25), (0x10fc, 0x10ff, 41), (0x1100, 0x11ff, 51),
  (0x1200, 0x1248, 39), (0x124a, 0x124d, 39), (0x1250, 0x1256, 39), (0x1258, 0x1258, 39),
  (0x125a, 0x125d, 39), (0x1260, 0x1288, 39), (0x128a, 0x128d, 39), (0x1290, 0x12b0, 39),
  (0x12b2, 0x12b5, 39), (0x12b8, 0x12be, 39), (0x12c0, 0x12c0, 39), (0x12c2, 0x12c5, 39),
  (0x12c8, 0x12d6, 39), (0x12d8, 0x1310, 39), (0x1312, 0x1315, 39), (0x1318, 0x135a, 39),
  (0x135d, 0x137c, 39), (0x1380, 0x1399, 39), (0x13a0, 0x13f5, 23), (0x13f8, 0x13fd, 23),
  (0x1400, 0x167f, 18), (0x1680, 0x169c, 108), (0x16a0, 0x16ea, 130), (0x16eb, 0x16ed, 25),
  (0x16ee, 0x16f8, 130), (0x1700, 0x1715, 146), (0x171f, 0x171f, 146), (0x1720, 0x1734, 53),
  (0x1735, 0x1736, 25), (0x1740, 0x1753, 17), (0x1760, 0x176c, 147), (0x176e, 0x1770, 147),
  (0x1772, 0x1773, 147), (0x1780, 0x17dd, 69), (0x17e0, 0x17e9, 69), (0x17f0, 0x17f9, 69),
  (0x1800, 0x1801, 96), (0x1802, 0x1803, 25), (0x1804, 0x1804, 96), (0x1805, 0x1805, 25),
  (0x1806, 0x1819, 96), (0x1820, 0x1878, 96), (0x1880, 0x18aa, 96), (0x18b0, 0x18f5, 18),
  (0x1900, 0x191e, 76), (0x1920, 0x192b, 76), (0x1930, 0x193b, 76), (0x1940, 0x1940, 76),
  (0x1944, 0x194f, 76), (0x1950, 0x196d, 148), (0x1970, 0x1974, 148), (0x1980, 0x19ab, 103),
  (0x19b0, 0x19c9, 103), (0x19d0, 0x19da, 103), (0x19de, 0x19df, 103), (0x19e0, 0x19ff, 69),
  (0x1a00, 0x1a1b, 16), (0x1a1e, 0x1a1f, 16), (0x1a20, 0x1a5e, 149), (0x1a60, 0x1a7c, 149),
  (0x1a7f, 0x1a89, 149), (0x1a90, 0x1a99, 149), (0x1aa0, 0x1aad, 149), (0x1ab0, 0x1add, 58),
  (0x1ae0, 0x1aeb, 58), (0x1b00, 0x1b4c, 6), (0x1b4e, 0x1b7f, 6), (0x1b80, 0x1bbf, 142),
  (0x1bc0, 0x1bf3, 9), (0x1bfc, 0x1bff, 9), (0x1c00, 0x1c37, 75), (0x1c3b, 0x1c49, 75),
  (0x1c4d, 0x1c4f, 75), (0x1c50, 0x1c7f, 109), (0x1c80, 0x1c8a, 30), (0x1c90, 0x1cba, 41),
  (0x1cbd, 0x1cbf, 41), (0x1cc0, 0x1cc7, 142), (0x1cd0, 0x1cd2, 58), (0x1cd3, 0x1cd3, 25),
  (0x1cd4, 0x1ce0, 58), (0x1ce1, 0x1ce1, 25), (0x1ce2, 0x1ce8, 58), (0x1ce9, 0x1cec, 25),
  (0x1ced, 0x1ced, 58), (0x1cee, 0x1cf3, 25), (0x1cf4, 0x1cf4, 58), (0x1cf5, 0x1cf7, 25),
  (0x1cf8, 0x1cf9, 58), (0x1cfa, 0x1cfa, 25), (0x1d00, 0x1d25, 74), (0x1d26, 0x1d2a, 45),
  (0x1d2b, 0x1d2b, 30), (0x1d2c, 0x1d5c, 74), (0x1d5d, 0x1d61, 45), (0x1d62, 0x1d65, 74),
  (0x1d66, 0x1d6a, 45), (0x1d6b, 0x1d77, 74), (0x1d78, 0x1d78, 30), (0x1d79, 0x1dbe, 74),
  (0x1dbf, 0x1dbf, 45), (0x1dc0, 0x1dff, 58), (0x1e00, 0x1eff, 74), (0x1f00, 0x1f15, 45),
  (0x1f18, 0x1f1d, 45), (0x1f20, 0x1f45, 45), (0x1f48, 0x1f4d, 45), (0x1f50, 0x1f57, 45),
  (0x1f59, 0x1f59, 45), (0x1f5b, 0x1f5b, 45), (0x1f5d, 0x1f5d, 45), (0x1f5f, 0x1f7d, 45),
  (0x1f80, 0x1fb4, 45), (0x1fb6, 0x1fc4, 45), (0x1fc6, 0x1fd3, 45), (0x1fd6, 0x1fdb, 45),
  (0x1fdd, 0x1fef, 45), (0x1ff2, 0x1ff4, 45), (0x1ff6, 0x1ffe, 45), (0x2000, 0x200b, 25),
  (0x200c, 0x200d, 58), (0x200e, 0x2064, 25), (0x2066, 0x2070, 25), (0x2071, 0x2071, 74),
  (0x2074, 0x207e, 25), (0x207f, 0x207f, 74), (0x2080, 0x208e, 25), (0x2090, 0x209c, 74),
  (0x20a0, 0x20c1, 25), (0x20d0, 0x20f0, 58), (0x2100, 0x2125, 25), (0x2126, 0x2126, 45),
  (0x2127, 0x2129, 25), (0x212a, 0x212b, 74), (0x212c, 0x2131, 25), (0x2132, 0x2132, 74),
  (0x2133, 0x214d, 25), (0x214e, 0x214e, 74), (0x214f, 0x215f, 25), (0x2160, 0x2188, 74),
  (0x2189, 0x218b, 25), (0x2190, 0x2429, 25), (0x2440, 0x244a, 25), (0x2460, 0x27ff, 25),
  (0x2800, 0x28ff, 15), (0x2900, 0x2b73, 25), (0x2b76, 0x2bff, 25), (0x2c00, 0x2c5f, 42),
  (0x2c60, 0x2c7f, 74), (0x2c80, 0x2cf3, 26), (0x2cf9, 0x2cff, 26), (0x2d00, 0x2d25, 41),
  (0x2d27, 0x2d27, 41), (0x2d2d, 0x2d2d, 41), (0x2d30, 0x2d67, 160), (0x2d6f, 0x2d70, 160),
  (0x2d7f, 0x2d7f, 160), (0x2d80, 0x2d96, 39), (0x2da0, 0x2da6, 39), (0x2da8, 0x2dae, 39),
  (0x2db0, 0x2db6, 39), (0x2db8, 0x2dbe, 39), (0x2dc0, 0x2dc6, 39), (0x2dc8, 0x2dce, 39),
  (0x2dd0, 0x2dd6, 39), (0x2dd8, 0x2dde, 39), (0x2de0, 0x2dff, 30), (0x2e00, 0x2e5d, 25),
  (0x2e80, 0x2e99, 50), (0x2e9b, 0x2ef3, 50), (0x2f00, 0x2fd5, 50), (0x2ff0, 0x3004, 25),
  (0x3005, 0x3005, 50), (0x3006, 0x3006, 25), (0x3007, 0x3007, 50), (0x3008, 0x3020, 25),
  (0x3021, 0x3029, 50), (0x302a, 0x302d, 58), (0x302e, 0x302f, 51), (0x3030, 0x3037, 25),
  (0x3038, 0x303b, 50), (0x303c, 0x303f, 25), (0x3041, 0x3096, 56), (0x3099, 0x309a, 58),
  (0x309b, 0x309c, 25), (0x309d, 0x309f, 56), (0x30a0, 0x30a0, 25), (0x30a1, 0x30fa, 64),
  (0x30fb, 0x30fc, 25), (0x30fd, 0x30ff, 64), (0x3105, 0x312f, 13), (0x3131, 0x318e, 51),
  (0x3190, 0x319f, 25), (0x31a0, 0x31bf, 13), (0x31c0, 0x31e5, 25), (0x31ef, 0x31ef, 25),
  (0x31f0, 0x31ff, 64), (0x3200, 0x321e, 51), (0x3220, 0x325f, 25), (0x3260, 0x327e, 51),
  (0x327f, 0x32cf, 25), (0x32d0, 0x32fe, 64), (0x32ff, 0x32ff, 25), (0x3300, 0x3357, 64),
  (0x3358, 0x33ff, 25), (0x3400, 0x4dbf, 50), (0x4dc0, 0x4dff, 25), (0x4e00, 0x9fff, 50),
  (0xa000, 0xa48c, 172), (0xa490, 0xa4c6, 172), (0xa4d0, 0xa4ff, 79), (0xa500, 0xa62b, 167),
  (0xa640, 0xa69f, 30), (0xa6a0, 0xa6f7, 7), (0xa700, 0xa721, 25), (0xa722, 0xa787, 74),
  (0xa788, 0xa78a, 25), (0xa78b, 0xa7dc, 74), (0xa7f1, 0xa7ff, 74), (0xa800, 0xa82c, 144),
  (0xa830, 0xa839, 25), (0xa840, 0xa877, 126), (0xa880, 0xa8c5, 132), (0xa8ce, 0xa8d9, 132),
  (0xa8e0, 0xa8ff, 32), (0xa900, 0xa92d, 66), (0xa92e, 0xa92e, 25), (0xa92f, 0xa92f, 66),
  (0xa930, 0xa953, 129), (0xa95f, 0xa95f, 129), (0xa960, 0xa97c, 51), (0xa980, 0xa9cd, 61),
  (0xa9cf, 0xa9cf, 25), (0xa9d0, 0xa9d9, 61), (0xa9de, 0xa9df, 61), (0xa9e0, 0xa9fe, 99),
  (0xaa00, 0xaa36, 22), (0xaa40, 0xaa4d, 22), (0xaa50, 0xaa59, 22), (0xaa5c, 0xaa5f, 22),
  (0xaa60, 0xaa7f, 99), (0xaa80, 0xaac2, 150), (0xaadb, 0xaadf, 150), (0xaae0, 0xaaf6, 90),
  (0xab01, 0xab06, 39), (0xab09, 0xab0e, 39), (0xab11, 0xab16, 39), (0xab20, 0xab26, 39),
  (0xab28, 0xab2e, 39), (0xab30, 0xab5a, 74), (0xab5b, 0xab5b, 25), (0xab5c, 0xab64, 74),
  (0xab65, 0xab65, 45), (0xab66, 0xab69, 74), (0xab6a, 0xab6b, 25), (0xab70, 0xabbf, 23),
  (0xabc0, 0xabed, 90), (0xabf0, 0xabf9, 90), (0xac00, 0xd7a3, 51), (0xd7b0, 0xd7c6, 51),
  (0xd7cb, 0xd7fb, 51), (0xf900, 0xfa6d, 50), (0xfa70, 0xfad9, 50), (0xfb00, 0xfb06, 74),
  (0xfb13, 0xfb17, 4), (0xfb1d, 0xfb36, 55), (0xfb38, 0xfb3c, 55), (0xfb3e, 0xfb3e, 55),
  (0xfb40, 0xfb41, 55), (0xfb43, 0xfb44, 55), (0xfb46, 0xfb4f, 55), (0xfb50, 0xfd3d, 3),
  (0xfd3e, 0xfd3f, 25), (0xfd40, 0xfdcf, 3), (0xfdf0, 0xfdff, 3), (0xfe00, 0xfe0f, 58),
  (0xfe10, 0xfe19, 25), (0xfe20, 0xfe2d, 58), (0xfe2e, 0xfe2f, 30), (0xfe30, 0xfe52, 25),
  (0xfe54, 0xfe66, 25), (0xfe68, 0xfe6b, 25), (0xfe70, 0xfe74, 3), (0xfe76, 0xfefc, 3),
  (0xfeff, 0xfeff, 25), (0xff01, 0xff20, 25), (0xff21, 0xff3a, 74), (0xff3b, 0xff40, 25),
  (0xff41, 0xff5a, 74), (0xff5b, 0xff65, 25), (0xff66, 0xff6f, 64), (0xff70, 0xff70, 25),
  (0xff71, 0xff9d, 64), (0xff9e, 0xff9f, 25), (0xffa0, 0xffbe, 51), (0xffc2, 0xffc7, 51),
  (0xffca, 0xffcf, 51), (0xffd2, 0xffd7, 51), (0xffda, 0xffdc, 51), (0xffe0, 0xffe6, 25),
  (0xffe8, 0xffee, 25), (0xfff9, 0xfffd, 25)]

/-- First and last code point and the place of the script, for ranges from U+10000 on. -/
def upperTable : Array (Nat × Nat × Nat) := #[
  (0x10000, 0x1000b, 78), (0x1000d, 0x10026, 78), (0x10028, 0x1003a, 78), (0x1003c, 0x1003d, 78),
  (0x1003f, 0x1004d, 78), (0x10050, 0x1005d, 78), (0x10080, 0x100fa, 78), (0x10100, 0x10102, 25),
  (0x10107, 0x10133, 25), (0x10137, 0x1013f, 25), (0x10140, 0x1018e, 45), (0x10190, 0x1019c, 25),
  (0x101a0, 0x101a0, 45), (0x101d0, 0x101fc, 25), (0x101fd, 0x101fd, 58), (0x10280, 0x1029c, 80),
  (0x102a0, 0x102d0, 19), (0x102e0, 0x102e0, 58), (0x102e1, 0x102fb, 25), (0x10300, 0x10323, 112),
  (0x1032d, 0x1032f, 112), (0x10330, 0x1034a, 43), (0x10350, 0x1037a, 114),
  (0x10380, 0x1039d, 166), (0x1039f, 0x1039f, 166), (0x103a0, 0x103c3, 115),
  (0x103c8, 0x103d5, 115), (0x10400, 0x1044f, 31), (0x10450, 0x1047f, 134),
  (0x10480, 0x1049d, 122), (0x104a0, 0x104a9, 122), (0x104b0, 0x104d3, 121),
  (0x104d8, 0x104fb, 121), (0x10500, 0x10527, 37), (0x10530, 0x10563, 20), (0x1056f, 0x1056f, 20),
  (0x10570, 0x1057a, 168), (0x1057c, 0x1058a, 168), (0x1058c, 0x10592, 168),
  (0x10594, 0x10595, 168), (0x10597, 0x105a1, 168), (0x105a3, 0x105b1, 168),
  (0x105b3, 0x105b9, 168), (0x105bb, 0x105bc, 168), (0x105c0, 0x105f3, 162),
  (0x10600, 0x10736, 77), (0x10740, 0x10755, 77), (0x10760, 0x10767, 77), (0x10780, 0x10785, 74),
  (0x10787, 0x107b0, 74), (0x107b2, 0x107ba, 74), (0x10800, 0x10805, 28), (0x10808, 0x10808, 28),
  (0x1080a, 0x10835, 28), (0x10837, 0x10838, 28), (0x1083c, 0x1083c, 28), (0x1083f, 0x1083f, 28),
  (0x10840, 0x10855, 57), (0x10857, 0x1085f, 57), (0x10860, 0x1087f, 124), (0x10880, 0x1089e, 100),
  (0x108a7, 0x108af, 100), (0x108e0, 0x108f2, 54), (0x108f4, 0x108f5, 54), (0x108fb, 0x108ff, 54),
  (0x10900, 0x1091b, 127), (0x1091f, 0x1091f, 127), (0x10920, 0x10939, 81), (0x1093f, 0x1093f, 81),
  (0x10940, 0x10959, 136), (0x10980, 0x1099f, 93), (0x109a0, 0x109b7, 92), (0x109bc, 0x109cf, 92),
  (0x109d2, 0x109ff, 92), (0x10a00, 0x10a03, 67), (0x10a05, 0x10a06, 67), (0x10a0c, 0x10a13, 67),
  (0x10a15, 0x10a17, 67), (0x10a19, 0x10a35, 67), (0x10a38, 0x10a3a, 67), (0x10a3f, 0x10a48, 67),
  (0x10a50, 0x10a58, 67), (0x10a60, 0x10a7f, 117), (0x10a80, 0x10a9f, 113), (0x10ac0, 0x10ae6, 86),
  (0x10aeb, 0x10af6, 86), (0x10b00, 0x10b35, 5), (0x10b39, 0x10b3f, 5), (0x10b40, 0x10b55, 60),
  (0x10b58, 0x10b5f, 60), (0x10b60, 0x10b72, 59), (0x10b78, 0x10b7f, 59), (0x10b80, 0x10b91, 128),
  (0x10b99, 0x10b9c, 128), (0x10ba9, 0x10baf, 128), (0x10c00, 0x10c48, 118),
  (0x10c80, 0x10cb2, 111), (0x10cc0, 0x10cf2, 111), (0x10cfa, 0x10cff, 111),
  (0x10d00, 0x10d27, 52), (0x10d30, 0x10d39, 52), (0x10d40, 0x10d65, 40), (0x10d69, 0x10d85, 40),
  (0x10d8e, 0x10d8f, 40), (0x10e60, 0x10e7e, 3), (0x10e80, 0x10ea9, 171), (0x10eab, 0x10ead, 171),
  (0x10eb0, 0x10eb1, 171), (0x10ec2, 0x10ec7, 3), (0x10ed0, 0x10ed8, 3), (0x10efa, 0x10eff, 3),
  (0x10f00, 0x10f27, 116), (0x10f30, 0x10f59, 139), (0x10f70, 0x10f89, 119),
  (0x10fb0, 0x10fcb, 24), (0x10fe0, 0x10ff6, 38), (0x11000, 0x1104d, 14), (0x11052, 0x11075, 14),
  (0x1107f, 0x1107f, 14), (0x11080, 0x110c2, 62), (0x110cd, 0x110cd, 62), (0x110d0, 0x110e8, 140),
  (0x110f0, 0x110f9, 140), (0x11100, 0x11134, 21), (0x11136, 0x11147, 21), (0x11150, 0x11176, 82),
  (0x11180, 0x111df, 133), (0x111e1, 0x111f4, 138), (0x11200, 0x11211, 70), (0x11213, 0x11241, 70),
  (0x11280, 0x11286, 98), (0x11288, 0x11288, 98), (0x1128a, 0x1128d, 98), (0x1128f, 0x1129d, 98),
  (0x1129f, 0x112a9, 98), (0x112b0, 0x112ea, 71), (0x112f0, 0x112f9, 71), (0x11300, 0x11303, 44),
  (0x11305, 0x1130c, 44), (0x1130f, 0x11310, 44), (0x11313, 0x11328, 44), (0x1132a, 0x11330, 44),
  (0x11332, 0x11333, 44), (0x11335, 0x11339, 44), (0x1133b, 0x1133b, 58), (0x1133c, 0x11344, 44),
  (0x11347, 0x11348, 44), (0x1134b, 0x1134d, 44), (0x11350, 0x11350, 44), (0x11357, 0x11357, 44),
  (0x1135d, 0x11363, 44), (0x11366, 0x1136c, 44), (0x11370, 0x11374, 44), (0x11380, 0x11389, 165),
  (0x1138b, 0x1138b, 165), (0x1138e, 0x1138e, 165), (0x11390, 0x113b5, 165),
  (0x113b7, 0x113c0, 165), (0x113c2, 0x113c2, 165), (0x113c5, 0x113c5, 165),
  (0x113c7, 0x113ca, 165), (0x113cc, 0x113d5, 165), (0x113d7, 0x113d8, 165),
  (0x113e1, 0x113e2, 165), (0x11400, 0x1145b, 104), (0x1145d, 0x11461, 104),
  (0x11480, 0x114c7, 161), (0x114d0, 0x114d9, 161), (0x11580, 0x115b5, 135),
  (0x115b8, 0x115dd, 135), (0x11600, 0x11644, 95), (0x11650, 0x11659, 95), (0x11660, 0x1166c, 96),
  (0x11680, 0x116b9, 152), (0x116c0, 0x116c9, 152), (0x116d0, 0x116e3, 99), (0x11700, 0x1171a, 1),
  (0x1171d, 0x1172b, 1), (0x11730, 0x11746, 1), (0x11800, 0x1183b, 34), (0x118a0, 0x118f2, 170),
  (0x118ff, 0x118ff, 170), (0x11900, 0x11906, 33), (0x11909, 0x11909, 33), (0x1190c, 0x11913, 33),
  (0x11915, 0x11916, 33), (0x11918, 0x11935, 33), (0x11937, 0x11938, 33), (0x1193b, 0x11946, 33),
  (0x11950, 0x11959, 33), (0x119a0, 0x119a7, 102), (0x119aa, 0x119d7, 102),
  (0x119da, 0x119e4, 102), (0x11a00, 0x11a47, 173), (0x11a50, 0x11aa2, 141),
  (0x11ab0, 0x11abf, 18), (0x11ac0, 0x11af8, 125), (0x11b00, 0x11b09, 32), (0x11b60, 0x11b67, 133),
  (0x11bc0, 0x11be1, 143), (0x11bf0, 0x11bf9, 143), (0x11c00, 0x11c08, 12), (0x11c0a, 0x11c36, 12),
  (0x11c38, 0x11c45, 12), (0x11c50, 0x11c6c, 12), (0x11c70, 0x11c8f, 87), (0x11c92, 0x11ca7, 87),
  (0x11ca9, 0x11cb6, 87), (0x11d00, 0x11d06, 88), (0x11d08, 0x11d09, 88), (0x11d0b, 0x11d36, 88),
  (0x11d3a, 0x11d3a, 88), (0x11d3c, 0x11d3d, 88), (0x11d3f, 0x11d47, 88), (0x11d50, 0x11d59, 88),
  (0x11d60, 0x11d65, 47), (0x11d67, 0x11d68, 47), (0x11d6a, 0x11d8e, 47), (0x11d90, 0x11d91, 47),
  (0x11d93, 0x11d98, 47), (0x11da0, 0x11da9, 47), (0x11db0, 0x11ddb, 163), (0x11de0, 0x11de9, 163),
  (0x11ee0, 0x11ef8, 83), (0x11f00, 0x11f10, 65), (0x11f12, 0x11f3a, 65), (0x11f3e, 0x11f5a, 65),
  (0x11fb0, 0x11fb0, 79), (0x11fc0, 0x11ff1, 153), (0x11fff, 0x11fff, 153), (0x12000, 0x12399, 27),
  (0x12400, 0x1246e, 27), (0x12470, 0x12474, 27), (0x12480, 0x12543, 27), (0x12f90, 0x12ff2, 29),
  (0x13000, 0x13455, 36), (0x13460, 0x143fa, 36), (0x14400, 0x14646, 2), (0x16100, 0x16139, 49),
  (0x16800, 0x16a38, 7), (0x16a40, 0x16a5e, 97), (0x16a60, 0x16a69, 97), (0x16a6e, 0x16a6f, 97),
  (0x16a70, 0x16abe, 154), (0x16ac0, 0x16ac9, 154), (0x16ad0, 0x16aed, 8), (0x16af0, 0x16af5, 8),
  (0x16b00, 0x16b45, 123), (0x16b50, 0x16b59, 123), (0x16b5b, 0x16b61, 123),
  (0x16b63, 0x16b77, 123), (0x16b7d, 0x16b8f, 123), (0x16d40, 0x16d79, 72), (0x16e40, 0x16e9a, 89),
  (0x16ea0, 0x16eb8, 11), (0x16ebb, 0x16ed3, 11), (0x16f00, 0x16f4a, 94), (0x16f4f, 0x16f87, 94),
  (0x16f8f, 0x16f9f, 94), (0x16fe0, 0x16fe0, 155), (0x16fe1, 0x16fe1, 106), (0x16fe2, 0x16fe3, 50),
  (0x16fe4, 0x16fe4, 68), (0x16ff0, 0x16ff6, 50), (0x17000, 0x18aff, 155), (0x18b00, 0x18cd5, 68),
  (0x18cff, 0x18cff, 68), (0x18d00, 0x18d1e, 155), (0x18d80, 0x18df2, 155), (0x1aff0, 0x1aff3, 64),
  (0x1aff5, 0x1affb, 64), (0x1affd, 0x1affe, 64), (0x1b000, 0x1b000, 64), (0x1b001, 0x1b11f, 56),
  (0x1b120, 0x1b122, 64), (0x1b132, 0x1b132, 56), (0x1b150, 0x1b152, 56), (0x1b155, 0x1b155, 64),
  (0x1b164, 0x1b167, 64), (0x1b170, 0x1b2fb, 106), (0x1bc00, 0x1bc6a, 35), (0x1bc70, 0x1bc7c, 35),
  (0x1bc80, 0x1bc88, 35), (0x1bc90, 0x1bc99, 35), (0x1bc9c, 0x1bc9f, 35), (0x1bca0, 0x1bca3, 25),
  (0x1cc00, 0x1ccfc, 25), (0x1cd00, 0x1ceb3, 25), (0x1ceba, 0x1ced0, 25), (0x1cee0, 0x1cef0, 25),
  (0x1cf00, 0x1cf2d, 58), (0x1cf30, 0x1cf46, 58), (0x1cf50, 0x1cfc3, 25), (0x1d000, 0x1d0f5, 25),
  (0x1d100, 0x1d126, 25), (0x1d129, 0x1d166, 25), (0x1d167, 0x1d169, 58), (0x1d16a, 0x1d17a, 25),
  (0x1d17b, 0x1d182, 58), (0x1d183, 0x1d184, 25), (0x1d185, 0x1d18b, 58), (0x1d18c, 0x1d1a9, 25),
  (0x1d1aa, 0x1d1ad, 58), (0x1d1ae, 0x1d1ea, 25), (0x1d200, 0x1d245, 45), (0x1d2c0, 0x1d2d3, 25),
  (0x1d2e0, 0x1d2f3, 25), (0x1d300, 0x1d356, 25), (0x1d360, 0x1d378, 25), (0x1d400, 0x1d454, 25),
  (0x1d456, 0x1d49c, 25), (0x1d49e, 0x1d49f, 25), (0x1d4a2, 0x1d4a2, 25), (0x1d4a5, 0x1d4a6, 25),
  (0x1d4a9, 0x1d4ac, 25), (0x1d4ae, 0x1d4b9, 25), (0x1d4bb, 0x1d4bb, 25), (0x1d4bd, 0x1d4c3, 25),
  (0x1d4c5, 0x1d505, 25), (0x1d507, 0x1d50a, 25), (0x1d50d, 0x1d514, 25), (0x1d516, 0x1d51c, 25),
  (0x1d51e, 0x1d539, 25), (0x1d53b, 0x1d53e, 25), (0x1d540, 0x1d544, 25), (0x1d546, 0x1d546, 25),
  (0x1d54a, 0x1d550, 25), (0x1d552, 0x1d6a5, 25), (0x1d6a8, 0x1d7cb, 25), (0x1d7ce, 0x1d7ff, 25),
  (0x1d800, 0x1da8b, 137), (0x1da9b, 0x1da9f, 137), (0x1daa1, 0x1daaf, 137),
  (0x1df00, 0x1df1e, 74), (0x1df25, 0x1df2a, 74), (0x1e000, 0x1e006, 42), (0x1e008, 0x1e018, 42),
  (0x1e01b, 0x1e021, 42), (0x1e023, 0x1e024, 42), (0x1e026, 0x1e02a, 42), (0x1e030, 0x1e06d, 30),
  (0x1e08f, 0x1e08f, 30), (0x1e100, 0x1e12c, 107), (0x1e130, 0x1e13d, 107),
  (0x1e140, 0x1e149, 107), (0x1e14e, 0x1e14f, 107), (0x1e290, 0x1e2ae, 164),
  (0x1e2c0, 0x1e2f9, 169), (0x1e2ff, 0x1e2ff, 169), (0x1e4d0, 0x1e4f9, 101),
  (0x1e5d0, 0x1e5fa, 110), (0x1e5ff, 0x1e5ff, 110), (0x1e6c0, 0x1e6de, 151),
  (0x1e6e0, 0x1e6f5, 151), (0x1e6fe, 0x1e6ff, 151), (0x1e7e0, 0x1e7e6, 39), (0x1e7e8, 0x1e7eb, 39),
  (0x1e7ed, 0x1e7ee, 39), (0x1e7f0, 0x1e7fe, 39), (0x1e800, 0x1e8c4, 91), (0x1e8c7, 0x1e8d6, 91),
  (0x1e900, 0x1e94b, 0), (0x1e950, 0x1e959, 0), (0x1e95e, 0x1e95f, 0), (0x1ec71, 0x1ecb4, 25),
  (0x1ed01, 0x1ed3d, 25), (0x1ee00, 0x1ee03, 3), (0x1ee05, 0x1ee1f, 3), (0x1ee21, 0x1ee22, 3),
  (0x1ee24, 0x1ee24, 3), (0x1ee27, 0x1ee27, 3), (0x1ee29, 0x1ee32, 3), (0x1ee34, 0x1ee37, 3),
  (0x1ee39, 0x1ee39, 3), (0x1ee3b, 0x1ee3b, 3), (0x1ee42, 0x1ee42, 3), (0x1ee47, 0x1ee47, 3),
  (0x1ee49, 0x1ee49, 3), (0x1ee4b, 0x1ee4b, 3), (0x1ee4d, 0x1ee4f, 3), (0x1ee51, 0x1ee52, 3),
  (0x1ee54, 0x1ee54, 3), (0x1ee57, 0x1ee57, 3), (0x1ee59, 0x1ee59, 3), (0x1ee5b, 0x1ee5b, 3),
  (0x1ee5d, 0x1ee5d, 3), (0x1ee5f, 0x1ee5f, 3), (0x1ee61, 0x1ee62, 3), (0x1ee64, 0x1ee64, 3),
  (0x1ee67, 0x1ee6a, 3), (0x1ee6c, 0x1ee72, 3), (0x1ee74, 0x1ee77, 3), (0x1ee79, 0x1ee7c, 3),
  (0x1ee7e, 0x1ee7e, 3), (0x1ee80, 0x1ee89, 3), (0x1ee8b, 0x1ee9b, 3), (0x1eea1, 0x1eea3, 3),
  (0x1eea5, 0x1eea9, 3), (0x1eeab, 0x1eebb, 3), (0x1eef0, 0x1eef1, 3), (0x1f000, 0x1f02b, 25),
  (0x1f030, 0x1f093, 25), (0x1f0a0, 0x1f0ae, 25), (0x1f0b1, 0x1f0bf, 25), (0x1f0c1, 0x1f0cf, 25),
  (0x1f0d1, 0x1f0f5, 25), (0x1f100, 0x1f1ad, 25), (0x1f1e6, 0x1f1ff, 25), (0x1f200, 0x1f200, 56),
  (0x1f201, 0x1f202, 25), (0x1f210, 0x1f23b, 25), (0x1f240, 0x1f248, 25), (0x1f250, 0x1f251, 25),
  (0x1f260, 0x1f265, 25), (0x1f300, 0x1f6d8, 25), (0x1f6dc, 0x1f6ec, 25), (0x1f6f0, 0x1f6fc, 25),
  (0x1f700, 0x1f7d9, 25), (0x1f7e0, 0x1f7eb, 25), (0x1f7f0, 0x1f7f0, 25), (0x1f800, 0x1f80b, 25),
  (0x1f810, 0x1f847, 25), (0x1f850, 0x1f859, 25), (0x1f860, 0x1f887, 25), (0x1f890, 0x1f8ad, 25),
  (0x1f8b0, 0x1f8bb, 25), (0x1f8c0, 0x1f8c1, 25), (0x1f8d0, 0x1f8d8, 25), (0x1f900, 0x1fa57, 25),
  (0x1fa60, 0x1fa6d, 25), (0x1fa70, 0x1fa7c, 25), (0x1fa80, 0x1fa8a, 25), (0x1fa8e, 0x1fac6, 25),
  (0x1fac8, 0x1fac8, 25), (0x1facd, 0x1fadc, 25), (0x1fadf, 0x1faea, 25), (0x1faef, 0x1faf8, 25),
  (0x1fb00, 0x1fb92, 25), (0x1fb94, 0x1fbfa, 25), (0x20000, 0x2a6df, 50), (0x2a700, 0x2b81d, 50),
  (0x2b820, 0x2cead, 50), (0x2ceb0, 0x2ebe0, 50), (0x2ebf0, 0x2ee5d, 50), (0x2f800, 0x2fa1d, 50),
  (0x30000, 0x3134a, 50), (0x31350, 0x33479, 50), (0xe0001, 0xe0001, 25), (0xe0020, 0xe007f, 25),
  (0xe0100, 0xe01ef, 58)]

/-- The ranges of the script at a place in the list of names. -/
def ranges (place : Nat) : Ranges :=
  (lowerTable ++ middleTable ++ upperTable).filterMap fun (first, last, p) =>
    if p == place then some (first, last) else none

end TreeLint.WritingScript
