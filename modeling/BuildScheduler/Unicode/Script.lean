import BuildScheduler.Unicode.CodePoints

/-!
# Scripts

A row of the table names a script, by its four-letter and its long name, and writes its code
points. A second table lists the code points that are used with several scripts.
-/

namespace BuildScheduler.Unicode

structure ScriptRow where
  code : String
  title : String
  row : String

def ScriptRow.points (script : ScriptRow) : CodePoints := CodePoints.ofRow script.row

def scripts : List ScriptRow := [
  ⟨"Adlm", "Adlam",
   "1e900 4c 4 a 4 2"⟩,
  ⟨"Aghb", "Caucasian_Albanian",
   "10530 34 b 1"⟩,
  ⟨"Ahom", "Ahom",
   "11700 1b 2 f 4 17"⟩,
  ⟨"Arab", "Arabic",
   "600 5 1 6 1 e 1 3 1 20 1 a b 1a 1 6c 1 22 50 30 f0 1f 1 2 6 4a 1 1d f250 73 10 16b 2 50 2 36 7
    1 20 10 70 5 1 87 f63 1f 7e 3 df00 4 1 1b 1 2 1 1 2 1 1 a 1 4 1 1 1 1 6 1 4 1 1 1 1 1 1 3 1 2
    1 1 2 1 1 1 1 1 1 1 1 1 1 2 1 1 2 4 1 7 1 4 1 4 1 1 1 a 1 11 5 3 1 5 1 11 34 2"⟩,
  ⟨"Armi", "Imperial_Aramaic",
   "10840 16 1 9"⟩,
  ⟨"Armn", "Armenian",
   "531 26 2 32 2 3 f583 5"⟩,
  ⟨"Avst", "Avestan",
   "10b00 36 3 7"⟩,
  ⟨"Bali", "Balinese",
   "1b00 4d 3 2f"⟩,
  ⟨"Bamu", "Bamum",
   "a6a0 58 c108 239"⟩,
  ⟨"Bass", "Bassa_Vah",
   "16ad0 1e 2 6"⟩,
  ⟨"Batk", "Batak",
   "1bc0 34 8 4"⟩,
  ⟨"Beng", "Bengali",
   "980 4 1 8 2 2 2 16 1 7 1 1 3 4 2 9 2 2 2 4 8 1 4 2 1 5 2 19"⟩,
  ⟨"Bhks", "Bhaiksuki",
   "11c00 9 1 2d 1 e a 1d"⟩,
  ⟨"Bopo", "Bopomofo",
   "2ea 2 2e19 2b 70 20"⟩,
  ⟨"Brah", "Brahmi",
   "11000 4e 4 24 9 1"⟩,
  ⟨"Brai", "Braille",
   "2800 100"⟩,
  ⟨"Bugi", "Buginese",
   "1a00 1c 2 2"⟩,
  ⟨"Buhd", "Buhid",
   "1740 14"⟩,
  ⟨"Cakm", "Chakma",
   "11100 35 1 12"⟩,
  ⟨"Cans", "Canadian_Aboriginal",
   "1400 280 230 46 101ba 10"⟩,
  ⟨"Cari", "Carian",
   "102a0 31"⟩,
  ⟨"Cham", "Cham",
   "aa00 37 9 e 2 a 2 4"⟩,
  ⟨"Cher", "Cherokee",
   "13a0 56 2 6 9772 50"⟩,
  ⟨"Chrs", "Chorasmian",
   "10fb0 1c"⟩,
  ⟨"Copt", "Coptic",
   "3e2 e 2890 74 5 7"⟩,
  ⟨"Cpmn", "Cypro_Minoan",
   "12f90 63"⟩,
  ⟨"Cprt", "Cypriot",
   "10800 6 2 1 1 2c 1 2 3 1 2 1"⟩,
  ⟨"Cyrl", "Cyrillic",
   "400 85 2 a9 1750 9 a2 1 4c 1 1067 20 7840 60 578e 2 e200 3e 21 1"⟩,
  ⟨"Deva", "Devanagari",
   "900 51 4 f 2 1a 9f60 20 7200 a"⟩,
  ⟨"Diak", "Dives_Akuru",
   "11900 7 2 1 2 8 1 2 1 1e 1 2 2 c 9 a"⟩,
  ⟨"Dogr", "Dogra",
   "11800 3c"⟩,
  ⟨"Dsrt", "Deseret",
   "10400 50"⟩,
  ⟨"Dupl", "Duployan",
   "1bc00 6b 5 d 3 9 7 a 2 4"⟩,
  ⟨"Egyp", "Egyptian_Hieroglyphs",
   "13000 456"⟩,
  ⟨"Elba", "Elbasan",
   "10500 28"⟩,
  ⟨"Elym", "Elymaic",
   "10fe0 17"⟩,
  ⟨"Ethi", "Ethiopic",
   "1200 49 1 4 2 7 1 1 1 4 2 29 1 4 2 21 1 4 2 7 1 1 1 4 2 f 1 39 1 4 2 43 2 20 3 1a 19e6 17 9 7
    1 7 1 7 1 7 1 7 1 7 1 7 1 7 7d22 6 2 6 2 6 9 7 1 7 13cb1 7 1 4 1 2 1 f"⟩,
  ⟨"Geor", "Georgian",
   "10a0 26 1 1 5 1 2 2b 1 4 b90 2b 2 3 1040 26 1 1 5 1"⟩,
  ⟨"Glag", "Glagolitic",
   "2c00 60 1b3a0 7 1 11 2 7 1 2 1 5"⟩,
  ⟨"Gong", "Gunjala_Gondi",
   "11d60 6 1 2 1 25 1 2 1 6 7 a"⟩,
  ⟨"Gonm", "Masaram_Gondi",
   "11d00 7 1 2 1 2c 3 1 1 2 1 9 8 a"⟩,
  ⟨"Goth", "Gothic",
   "10330 1b"⟩,
  ⟨"Gran", "Grantha",
   "11300 4 1 8 2 2 2 16 1 7 1 2 1 5 2 9 2 2 2 3 2 1 6 1 5 7 2 7 3 5"⟩,
  ⟨"Grek", "Greek",
   "370 4 1 3 2 4 1 1 4 1 1 1 1 3 1 1 1 14 1 3f e 10 1926 5 32 5 4 5 54 1 140 16 2 6 2 26 2 6 2 8
    1 1 1 1 1 1 1 1f 2 35 1 f 1 e 2 6 1 13 2 3 1 9 127 1 8a3e 1 55da 4f 11 1 d05f 46"⟩,
  ⟨"Gujr", "Gujarati",
   "a81 3 1 9 1 3 1 16 1 7 1 2 1 5 2 a 1 3 1 3 2 1 f 4 2 c 7 7"⟩,
  ⟨"Guru", "Gurmukhi",
   "a01 3 1 6 4 2 2 16 1 7 1 2 1 2 1 2 2 1 1 5 4 2 2 3 3 1 7 4 1 1 7 11"⟩,
  ⟨"Hang", "Hangul",
   "1100 100 1e2e 2 101 5e 71 1f 41 1f 76e1 1d 283 2ba4 c 17 4 31 27a4 1f 3 6 2 6 2 6 2 3"⟩,
  ⟨"Hani", "Han",
   "2e80 1a 1 59 c d6 2f 1 1 1 19 9 e 4 3c4 19c0 40 5200 5900 16e 2 6a 7508 2 c 2 900e a6e0 20
    103a 6 de 2 1682 e 1d31 c1f 21e 5e2 134b 5 1060"⟩,
  ⟨"Hano", "Hanunoo",
   "1720 15"⟩,
  ⟨"Hatr", "Hatran",
   "108e0 13 1 2 5 5"⟩,
  ⟨"Hebr", "Hebrew",
   "591 37 8 1b 4 6 f528 1a 1 5 1 1 1 2 1 2 1 a"⟩,
  ⟨"Hira", "Hiragana",
   "3041 56 6 3 17f61 11f 12 1 1d 3 40ad 1"⟩,
  ⟨"Hluw", "Anatolian_Hieroglyphs",
   "14400 247"⟩,
  ⟨"Hmng", "Pahawh_Hmong",
   "16b00 46 a a 1 7 1 15 5 13"⟩,
  ⟨"Hmnp", "Nyiakeng_Puachue_Hmong",
   "1e100 2d 3 e 2 a 4 2"⟩,
  ⟨"Hung", "Old_Hungarian",
   "10c80 33 d 33 7 6"⟩,
  ⟨"Ital", "Old_Italic",
   "10300 24 9 3"⟩,
  ⟨"Java", "Javanese",
   "a980 4e 2 a 4 2"⟩,
  ⟨"Kali", "Kayah_Li",
   "a900 2e 1 1"⟩,
  ⟨"Kana", "Katakana",
   "30a1 5a 2 3 f0 10 d0 2f 1 58 cc0e a 1 2d b052 4 1 7 1 2 1 1 11f 3 32 1 e 4"⟩,
  ⟨"Kawi", "Kawi",
   "11f00 11 1 29 3 1c"⟩,
  ⟨"Khar", "Kharoshthi",
   "10a00 4 1 2 5 8 1 3 1 1d 2 3 4 a 7 9"⟩,
  ⟨"Khmr", "Khmer",
   "1780 5e 2 a 6 a 1e6 20"⟩,
  ⟨"Khoj", "Khojki",
   "11200 12 1 2f"⟩,
  ⟨"Kits", "Khitan_Small_Script",
   "16fe4 1 1b1b 1d6"⟩,
  ⟨"Knda", "Kannada",
   "c80 d 1 3 1 17 1 a 1 5 2 9 1 3 1 4 7 2 6 2 1 4 2 a 1 3"⟩,
  ⟨"Kthi", "Kaithi",
   "11080 43 a 1"⟩,
  ⟨"Lana", "Tai_Tham",
   "1a20 3f 1 1d 2 b 6 a 6 e"⟩,
  ⟨"Laoo", "Lao",
   "e81 2 1 1 1 5 1 18 1 1 1 17 2 5 1 1 1 7 1 a 2 4"⟩,
  ⟨"Latn", "Latin",
   "41 1a 6 1a 2f 1 f 1 5 17 1 1f 1 1c1 27 5 1a1b 26 6 31 5 4 5 d 1 46 41 100 171 1 d 1 10 d 8d 2
    6 1 1b 1 11 29 ad7 20 7aa2 66 3 40 5 2 1 1 1 5 18 e 330 2b 1 9 1 4 4f96 7 41a 1a 6 1a 825 6 1
    2a 1 9 d745 1f 6 6"⟩,
  ⟨"Lepc", "Lepcha",
   "1c00 38 3 f 3 3"⟩,
  ⟨"Limb", "Limbu",
   "1900 1f 1 c 4 c 4 1 3 c"⟩,
  ⟨"Lina", "Linear_A",
   "10600 137 9 16 a 8"⟩,
  ⟨"Linb", "Linear_B",
   "10000 c 1 1a 1 13 1 2 1 f 2 e 22 7b"⟩,
  ⟨"Lisu", "Lisu",
   "a4d0 30 7ab0 1"⟩,
  ⟨"Lyci", "Lycian",
   "10280 1d"⟩,
  ⟨"Lydi", "Lydian",
   "10920 1a 5 1"⟩,
  ⟨"Mahj", "Mahajani",
   "11150 27"⟩,
  ⟨"Maka", "Makasar",
   "11ee0 19"⟩,
  ⟨"Mand", "Mandaic",
   "840 1c 2 1"⟩,
  ⟨"Mani", "Manichaean",
   "10ac0 27 4 c"⟩,
  ⟨"Marc", "Marchen",
   "11c70 20 2 16 1 e"⟩,
  ⟨"Medf", "Medefaidrin",
   "16e40 5b"⟩,
  ⟨"Mend", "Mende_Kikakui",
   "1e800 c5 2 10"⟩,
  ⟨"Merc", "Meroitic_Cursive",
   "109a0 18 4 14 2 2e"⟩,
  ⟨"Mero", "Meroitic_Hieroglyphs",
   "10980 20"⟩,
  ⟨"Mlym", "Malayalam",
   "d00 d 1 3 1 33 1 3 1 6 4 10 2 1a"⟩,
  ⟨"Modi", "Modi",
   "11600 45 b a"⟩,
  ⟨"Mong", "Mongolian",
   "1800 2 2 1 1 14 6 59 7 2b fdb5 d"⟩,
  ⟨"Mroo", "Mro",
   "16a40 1f 1 a 4 2"⟩,
  ⟨"Mtei", "Meetei_Mayek",
   "aae0 17 c9 2e 2 a"⟩,
  ⟨"Mult", "Multani",
   "11280 7 1 1 1 4 1 f 1 b"⟩,
  ⟨"Mymr", "Myanmar",
   "1000 a0 9940 1f 61 20"⟩,
  ⟨"Nagm", "Nag_Mundari",
   "1e4d0 2a"⟩,
  ⟨"Nand", "Nandinagari",
   "119a0 8 2 2e 2 b"⟩,
  ⟨"Narb", "Old_North_Arabian",
   "10a80 20"⟩,
  ⟨"Nbat", "Nabataean",
   "10880 1f 8 9"⟩,
  ⟨"Newa", "Newa",
   "11400 5c 1 5"⟩,
  ⟨"Nkoo", "Nko",
   "7c0 3b 2 3"⟩,
  ⟨"Nshu", "Nushu",
   "16fe1 1 418e 18c"⟩,
  ⟨"Ogam", "Ogham",
   "1680 1d"⟩,
  ⟨"Olck", "Ol_Chiki",
   "1c50 30"⟩,
  ⟨"Orkh", "Old_Turkic",
   "10c00 49"⟩,
  ⟨"Orya", "Oriya",
   "b01 3 1 8 2 2 2 16 1 7 1 2 1 5 2 9 2 2 2 3 7 3 4 2 1 5 2 12"⟩,
  ⟨"Osge", "Osage",
   "104b0 24 4 24"⟩,
  ⟨"Osma", "Osmanya",
   "10480 1e 2 a"⟩,
  ⟨"Ougr", "Old_Uyghur",
   "10f70 1a"⟩,
  ⟨"Palm", "Palmyrene",
   "10860 20"⟩,
  ⟨"Pauc", "Pau_Cin_Hau",
   "11ac0 39"⟩,
  ⟨"Perm", "Old_Permic",
   "10350 2b"⟩,
  ⟨"Phag", "Phags_Pa",
   "a840 38"⟩,
  ⟨"Phli", "Inscriptional_Pahlavi",
   "10b60 13 5 8"⟩,
  ⟨"Phlp", "Psalter_Pahlavi",
   "10b80 12 7 4 c 7"⟩,
  ⟨"Phnx", "Phoenician",
   "10900 1c 3 1"⟩,
  ⟨"Plrd", "Miao",
   "16f00 4b 4 39 7 11"⟩,
  ⟨"Prti", "Inscriptional_Parthian",
   "10b40 16 2 8"⟩,
  ⟨"Rjng", "Rejang",
   "a930 24 b 1"⟩,
  ⟨"Rohg", "Hanifi_Rohingya",
   "10d00 28 8 a"⟩,
  ⟨"Runr", "Runic",
   "16a0 4b 3 b"⟩,
  ⟨"Samr", "Samaritan",
   "800 2e 2 f"⟩,
  ⟨"Sarb", "Old_South_Arabian",
   "10a60 20"⟩,
  ⟨"Saur", "Saurashtra",
   "a880 46 8 c"⟩,
  ⟨"Sgnw", "SignWriting",
   "1d800 28c f 5 1 f"⟩,
  ⟨"Shaw", "Shavian",
   "10450 30"⟩,
  ⟨"Shrd", "Sharada",
   "11180 60"⟩,
  ⟨"Sidd", "Siddham",
   "11580 36 2 26"⟩,
  ⟨"Sind", "Khudawadi",
   "112b0 3b 5 a"⟩,
  ⟨"Sinh", "Sinhala",
   "d81 3 1 12 3 18 1 9 1 1 2 7 3 1 4 6 1 1 1 8 6 a 2 3 103ec 14"⟩,
  ⟨"Sogd", "Sogdian",
   "10f30 2a"⟩,
  ⟨"Sogo", "Old_Sogdian",
   "10f00 28"⟩,
  ⟨"Sora", "Sora_Sompeng",
   "110d0 19 7 a"⟩,
  ⟨"Soyo", "Soyombo",
   "11a50 53"⟩,
  ⟨"Sund", "Sundanese",
   "1b80 40 100 8"⟩,
  ⟨"Sylo", "Syloti_Nagri",
   "a800 2d"⟩,
  ⟨"Syrc", "Syriac",
   "700 e 1 3c 2 3 110 b"⟩,
  ⟨"Tagb", "Tagbanwa",
   "1760 d 1 3 1 2"⟩,
  ⟨"Takr", "Takri",
   "11680 3a 6 a"⟩,
  ⟨"Tale", "Tai_Le",
   "1950 1e 2 5"⟩,
  ⟨"Talu", "New_Tai_Lue",
   "1980 2c 4 1a 6 b 3 2"⟩,
  ⟨"Taml", "Tamil",
   "b82 2 1 6 3 3 1 4 3 2 1 1 1 2 3 2 3 3 3 c 4 5 3 3 1 4 2 1 6 1 e 15 113c5 32 d 1"⟩,
  ⟨"Tang", "Tangut",
   "16fe0 1 1f 17f8 8 300 200 9"⟩,
  ⟨"Tavt", "Tai_Viet",
   "aa80 43 18 5"⟩,
  ⟨"Telu", "Telugu",
   "c00 d 1 3 1 17 1 10 2 9 1 3 1 4 7 2 1 3 2 1 2 4 2 a 7 9"⟩,
  ⟨"Tfng", "Tifinagh",
   "2d30 38 7 2 e 1"⟩,
  ⟨"Tglg", "Tagalog",
   "1700 16 9 1"⟩,
  ⟨"Thaa", "Thaana",
   "780 32"⟩,
  ⟨"Thai", "Thai",
   "e01 3a 5 1c"⟩,
  ⟨"Tibt", "Tibetan",
   "f00 48 1 24 4 27 1 24 1 f 1 7 4 2"⟩,
  ⟨"Tirh", "Tirhuta",
   "11480 48 8 a"⟩,
  ⟨"Tnsa", "Tangsa",
   "16a70 4f 1 a"⟩,
  ⟨"Toto", "Toto",
   "1e290 1f"⟩,
  ⟨"Ugar", "Ugaritic",
   "10380 1e 1 1"⟩,
  ⟨"Vaii", "Vai",
   "a500 12c"⟩,
  ⟨"Vith", "Vithkuqi",
   "10570 b 1 f 1 7 1 2 1 b 1 f 1 7 1 2"⟩,
  ⟨"Wara", "Warang_Citi",
   "118a0 53 c 1"⟩,
  ⟨"Wcho", "Wancho",
   "1e2c0 3a 5 1"⟩,
  ⟨"Xpeo", "Old_Persian",
   "103a0 24 4 e"⟩,
  ⟨"Xsux", "Cuneiform",
   "12000 39a 66 6f 1 5 b c4"⟩,
  ⟨"Yezi", "Yezidi",
   "10e80 2a 1 3 2 2"⟩,
  ⟨"Yiii", "Yi",
   "a000 48d 3 37"⟩,
  ⟨"Zanb", "Zanabazar_Square",
   "11a00 48"⟩,
  ⟨"Zinh", "Inherited",
   "300 70 115 2 1c4 b 1a 1 2e0 4 115b 1f 201 3 1 d 1 7 4 1 6 1 3 2 c6 40 20c 2 c2 21 f39 4 6b 2
    cd65 10 10 e 3cf 1 e2 1 105a 1 bbc4 2e 2 17 220 3 11 8 2 7 1e 4 c2f52 f0"⟩,
  ⟨"Zyyy", "Common",
   "0 41 1a 6 1a 2f 1 f 1 5 17 1 1f 1 1c1 27 5 5 2 14 74 1 9 1 6 1 1 1 27d 1 6 1 e 1 3 1 20 1 9c 1
    204 1 81 2 4d9 1 195 4 122 1 5ef 3 47 2 cb 2 1 1 4cd 1 d 1 7 4 1 6 1 3 2 1 305 c 2 57 1 b 3 b
    1 f 11 21 3f 26 1 3 2 6 1 1b 1 11 29 3 4 297 19 b 15 3a0 100 274 2 20 1 69 200 5e 192 c 4 5 1
    1 1 19 f 8 4 4 5b 2 3 1 5a 2 93 10 20 24 3c 40 1f 51 2f 1 58 a8 19c0 40 5900 22 66 3 a5 a f4 1
    a0 1 18b 1 e 2 51d2 2 d0 a 16 23 1 13 1 4 93 1 1 20 1a 6 1a b a 1 2d 2 40 7 1 7 a 5 102 3 4 2d
    3 9 50 d 33 2d e4 1b b9a4 4 12ac 74 3c f6 a 27 2 3e 3 11 8 2 7 1e 4 3d d5 14 c 14 c 57 9 19 87
    55 1 47 1 2 2 1 2 2 2 4 1 c 1 1 1 7 1 41 1 4 2 8 1 7 1 1c 1 4 1 5 1 1 3 7 1 154 2 124 2 32
    1471 44 4c 3d 2c2 2c 4 64 c f 2 f 1 f 1 25 a ae 38 1a 1 2 d 2c 4 9 7 2 e 6 9a 3d8 4 11 3 d 3
    77 4 5f 6 c 4 1 f c 4 38 8 a 6 28 8 1e 2 2 4e 154 c e 2 d 3 9 7 2e 1 7 8 e 4 9 7 9 7 93 1 37
    25 a c0407 1 1e 60"⟩]

/-- Code points used with the listed scripts, by four-letter name, in place of their own. -/
def shared : List (List String × String) := [
  (["Grek"],
   "342 1 2 1 1a7a 2"),
  (["Latn"],
   "363 d"),
  (["Cyrl", "Perm"],
   "483 1"),
  (["Cyrl", "Glag"],
   "484 1 2 1 29bb 1 782b 1"),
  (["Cyrl", "Latn"],
   "485 2"),
  (["Arab", "Nkoo", "Rohg", "Syrc", "Thaa", "Yezi"],
   "60c 1 e 1"),
  (["Arab", "Syrc", "Thaa"],
   "61c 1"),
  (["Adlm", "Arab", "Nkoo", "Rohg", "Syrc", "Thaa", "Yezi"],
   "61f 1"),
  (["Adlm", "Arab", "Mand", "Mani", "Ougr", "Phlp", "Rohg", "Sogd", "Syrc"],
   "640 1"),
  (["Arab", "Syrc"],
   "64b b 1a 1"),
  (["Arab", "Thaa", "Yezi"],
   "660 a"),
  (["Arab", "Rohg"],
   "6d4 1"),
  (["Beng", "Deva", "Gran", "Gujr", "Guru", "Knda", "Latn", "Mlym", "Orya", "Shrd", "Taml",
    "Telu", "Tirh"],
   "951 1"),
  (["Beng", "Deva", "Gran", "Gujr", "Guru", "Knda", "Latn", "Mlym", "Orya", "Taml", "Telu",
    "Tirh"],
   "952 1"),
  (["Beng", "Deva", "Dogr", "Gong", "Gonm", "Gran", "Gujr", "Guru", "Knda", "Mahj", "Mlym",
    "Nand", "Orya", "Sind", "Sinh", "Sylo", "Takr", "Taml", "Telu", "Tirh"],
   "964 1"),
  (["Beng", "Deva", "Dogr", "Gong", "Gonm", "Gran", "Gujr", "Guru", "Knda", "Limb", "Mahj",
    "Mlym", "Nand", "Orya", "Sind", "Sinh", "Sylo", "Takr", "Taml", "Telu", "Tirh"],
   "965 1"),
  (["Deva", "Dogr", "Kthi", "Mahj"],
   "966 a"),
  (["Beng", "Cakm", "Sylo"],
   "9e6 a"),
  (["Guru", "Mult"],
   "a66 a"),
  (["Gujr", "Khoj"],
   "ae6 a"),
  (["Gran", "Taml"],
   "be6 e 1070d 1 1 1 37 2 c93 2 1 1"),
  (["Knda", "Nand"],
   "ce6 a"),
  (["Cakm", "Mymr", "Tale"],
   "1040 a"),
  (["Geor", "Latn"],
   "10fb 1"),
  (["Buhd", "Hano", "Tagb", "Tglg"],
   "1735 2"),
  (["Mong", "Phag"],
   "1802 2 1 1"),
  (["Beng", "Deva", "Gran", "Knda"],
   "1cd0 1 1 1"),
  (["Deva"],
   "1cd1 1 2 1 6 1 2 2 2 7 2 2 1 4"),
  (["Deva", "Gran"],
   "1cd3 1 1f 1 4 2"),
  (["Beng", "Deva"],
   "1cd5 2 1 1 8 1 8 1 2 1 7 2 8bfa 1"),
  (["Deva", "Shrd"],
   "1cd7 1 1 1 2 2 2 1"),
  (["Deva", "Knda", "Mlym", "Orya", "Taml", "Telu"],
   "1cda 1"),
  (["Deva", "Nand"],
   "1ce9 1"),
  (["Beng", "Deva", "Gran", "Knda", "Nand", "Orya", "Telu", "Tirh"],
   "1cf2 1"),
  (["Deva", "Gran", "Knda"],
   "1cf4 1"),
  (["Beng"],
   "1cf7 1"),
  (["Nand"],
   "1cfa 1"),
  (["Cyrl", "Syrc"],
   "1df8 1"),
  (["Syrc"],
   "1dfa 1"),
  (["Latn", "Mong"],
   "202f 1"),
  (["Deva", "Gran", "Latn"],
   "20f0 1"),
  (["Bopo", "Hang", "Hani", "Hira", "Kana", "Yiii"],
   "3001 2 5 a 2 8 df 1 ce65 5"),
  (["Bopo", "Hang", "Hani", "Hira", "Kana"],
   "3003 1 f 1 8 4 10 1 6 1 ce0d 2"),
  (["Hani"],
   "3006 1 37 2 150 10 20 24 3c 28 38 31 f c 33 1 58 19 a 5 60 1f 19f61 12 1ede 2"),
  (["Bopo", "Hani"],
   "302a 4"),
  (["Hira", "Kana"],
   "3031 5 63 4 3 1 5b 1 ce73 1 2d 2"),
  (["Hani", "Hira", "Kana"],
   "303c 2"),
  (["Hani", "Latn"],
   "a700 8"),
  (["Deva", "Dogr", "Gujr", "Guru", "Khoj", "Knda", "Kthi", "Mahj", "Mlym", "Modi", "Nand",
    "Sind", "Takr", "Tirh"],
   "a830 3"),
  (["Deva", "Dogr", "Gujr", "Guru", "Khoj", "Knda", "Kthi", "Mahj", "Modi", "Nand", "Sind",
    "Takr", "Tirh"],
   "a833 3"),
  (["Deva", "Dogr", "Gujr", "Guru", "Khoj", "Kthi", "Mahj", "Modi", "Sind", "Takr", "Tirh"],
   "a836 4"),
  (["Deva", "Taml"],
   "a8f3 1"),
  (["Kali", "Latn", "Mymr"],
   "a92e 1"),
  (["Bugi", "Java"],
   "a9cf 1"),
  (["Arab", "Nkoo"],
   "fd3e 2"),
  (["Arab", "Thaa"],
   "fdf2 1 a 1"),
  (["Cpmn", "Cprt", "Linb"],
   "10100 2"),
  (["Cprt", "Linb"],
   "10102 1 34 9"),
  (["Cprt", "Lina", "Linb"],
   "10107 2d"),
  (["Arab", "Copt"],
   "102e0 1c"),
  (["Mani", "Ougr"],
   "10af2 1"),
  (["Dupl"],
   "1bca0 4")]

/-- The code points of a script and of the shared ones that are used with it. -/
def ScriptRow.extended (script : ScriptRow) : CodePoints :=
  let listed := CodePoints.unions (shared.map fun entry => CodePoints.ofRow entry.2)
  let used := (shared.filter fun entry => entry.1.contains script.code).map
    fun entry => CodePoints.ofRow entry.2
  (script.points.diff listed).union (CodePoints.unions used)

end BuildScheduler.Unicode
