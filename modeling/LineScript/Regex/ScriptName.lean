/-!
**Scripts of characters.**

Every code point belongs to one script, such as `Greek`, and a few are used in several.  The tables
give for each script its names, in lower case and without separators, and its members as run
lengths from code point 0: outside, inside, outside, and so on.

Main definitions:

* `LineScript.Regex.Property.scripts` — the code points that belong to each script;
* `LineScript.Regex.Property.scriptExtensions` — the code points used in it, where those are
  others.
-/

set_option autoImplicit false

namespace LineScript.Regex.Property

/-- The names of each script and the code points that belong to it. -/
def scripts : List (List String × String) :=
  [(["adlam", "adlm"],
    "125184 76 4 10 4 2"),
   (["caucasianalbanian", "aghb"],
    "66864 52 11 1"),
   (["ahom"],
    "71424 27 2 15 4 23"),
   (["arabic", "arab"],
    "1536 5 1 6 1 14 1 3 1 32 1 10 11 26 1 108 1 34 80 48 240 31 1 2 5 75 1 29 62032 115 16 363 2
    80 2 54 7 1 32 16 112 5 1 135 3939 31 67 3 55 4 57088 4 1 27 1 2 1 1 2 1 1 10 1 4 1 1 1 1 6
    1 4 1 1 1 1 1 1 3 1 2 1 1 2 1 1 1 1 1 1 1 1 1 1 2 1 1 2 4 1 7 1 4 1 4 1 1 1 10 1 17 5 3 1 5
    1 17 52 2"),
   (["imperialaramaic", "armi"],
    "67648 22 1 9"),
   (["armenian", "armn"],
    "1329 38 2 50 2 3 62851 5"),
   (["avestan", "avst"],
    "68352 54 3 7"),
   (["balinese", "bali"],
    "6912 77 1 50"),
   (["bamum", "bamu"],
    "42656 88 49416 569"),
   (["bassavah", "bass"],
    "92880 30 2 6"),
   (["batak", "batk"],
    "7104 52 8 4"),
   (["bengali", "beng"],
    "2432 4 1 8 2 2 2 22 1 7 1 1 3 4 2 9 2 2 2 4 8 1 4 2 1 5 2 25"),
   (["bhaiksuki", "bhks"],
    "72704 9 1 45 1 14 10 29"),
   (["bopomofo", "bopo"],
    "746 2 11801 43 112 32"),
   (["brahmi", "brah"],
    "69632 78 4 36 9 1"),
   (["braille", "brai"],
    "10240 256"),
   (["buginese", "bugi"],
    "6656 28 2 2"),
   (["buhid", "buhd"],
    "5952 20"),
   (["chakma", "cakm"],
    "69888 53 1 18"),
   (["canadianaboriginal", "cans"],
    "5120 640 560 70 65978 16"),
   (["carian", "cari"],
    "66208 49"),
   (["cham"],
    "43520 55 9 14 2 10 2 4"),
   (["cherokee", "cher"],
    "5024 86 2 6 38770 80"),
   (["chorasmian", "chrs"],
    "69552 28"),
   (["coptic", "copt", "qaac"],
    "994 14 10384 116 5 7"),
   (["cyprominoan", "cpmn"],
    "77712 99"),
   (["cypriot", "cprt"],
    "67584 6 2 1 1 44 1 2 3 1 2 1"),
   (["cyrillic", "cyrl"],
    "1024 133 2 169 5968 11 160 1 76 1 4199 32 30784 96 22414 2 57856 62 33 1"),
   (["devanagari", "deva"],
    "2304 81 4 15 2 26 40800 32 29184 10"),
   (["divesakuru", "diak"],
    "71936 7 2 1 2 8 1 2 1 30 1 2 2 12 9 10"),
   (["dogra", "dogr"],
    "71680 60"),
   (["deseret", "dsrt"],
    "66560 80"),
   (["duployan", "dupl"],
    "113664 107 5 13 3 9 7 10 2 4"),
   (["egyptianhieroglyphs", "egyp"],
    "77824 1110 10 3995"),
   (["elbasan", "elba"],
    "66816 40"),
   (["elymaic", "elym"],
    "69600 23"),
   (["ethiopic", "ethi"],
    "4608 73 1 4 2 7 1 1 1 4 2 41 1 4 2 33 1 4 2 7 1 1 1 4 2 15 1 57 1 4 2 67 2 32 3 26 6630 23 9
    7 1 7 1 7 1 7 1 7 1 7 1 7 1 7 32034 6 2 6 2 6 9 7 1 7 81073 7 1 4 1 2 1 15"),
   (["georgian", "geor"],
    "4256 38 1 1 5 1 2 43 1 4 2960 43 2 3 4160 38 1 1 5 1"),
   (["glagolitic", "glag"],
    "11264 96 111520 7 1 17 2 7 1 2 1 5"),
   (["gunjalagondi", "gong"],
    "73056 6 1 2 1 37 1 2 1 6 7 10"),
   (["masaramgondi", "gonm"],
    "72960 7 1 2 1 44 3 1 1 2 1 9 8 10"),
   (["gothic", "goth"],
    "66352 27"),
   (["grantha", "gran"],
    "70400 4 1 8 2 2 2 22 1 7 1 2 1 5 2 9 2 2 2 3 2 1 6 1 5 7 2 7 3 5"),
   (["greek", "grek"],
    "880 4 1 3 2 4 1 1 4 1 1 1 1 3 1 1 1 20 1 63 14 16 6438 5 50 5 4 5 84 1 320 22 2 6 2 38 2 6 2
    8 1 1 1 1 1 1 1 31 2 53 1 15 1 14 2 6 1 19 2 3 1 9 295 1 35390 1 21978 79 17 1 53343 70"),
   (["gujarati", "gujr"],
    "2689 3 1 9 1 3 1 22 1 7 1 2 1 5 2 10 1 3 1 3 2 1 15 4 2 12 7 7"),
   (["gurmukhi", "guru"],
    "2561 3 1 6 4 2 2 22 1 7 1 2 1 2 1 2 2 1 1 5 4 2 2 3 3 1 7 4 1 1 7 17"),
   (["hangul", "hang"],
    "4352 256 7726 2 257 94 113 31 65 31 30433 29 643 11172 12 23 4 49 10148 31 3 6 2 6 2 6 2 3"),
   (["han", "hani"],
    "11904 26 1 89 12 214 47 1 1 1 25 9 14 4 964 6592 64 20992 22784 366 2 106 29960 2 12 2 36878
    42720 32 4154 6 222 2 5762 14 7473 15 622 2466 542 1506 4939 5 4192"),
   (["hanunoo", "hano"],
    "5920 21"),
   (["hatran", "hatr"],
    "67808 19 1 2 5 5"),
   (["hebrew", "hebr"],
    "1425 55 8 27 4 6 62760 26 1 5 1 1 1 2 1 2 1 10"),
   (["hiragana", "hira"],
    "12353 86 6 3 98145 287 18 1 29 3 16557 1"),
   (["anatolianhieroglyphs", "hluw"],
    "82944 583"),
   (["pahawhhmong", "hmng"],
    "92928 70 10 10 1 7 1 21 5 19"),
   (["nyiakengpuachuehmong", "hmnp"],
    "123136 45 3 14 2 10 4 2"),
   (["oldhungarian", "hung"],
    "68736 51 13 51 7 6"),
   (["olditalic", "ital"],
    "66304 36 9 3"),
   (["javanese", "java"],
    "43392 78 2 10 4 2"),
   (["kayahli", "kali"],
    "43264 46 1 1"),
   (["katakana", "kana"],
    "12449 90 2 3 240 16 208 47 1 88 52238 10 1 45 45138 4 1 7 1 2 1 1 287 3 50 1 14 4"),
   (["kawi"],
    "73472 17 1 41 3 29"),
   (["kharoshthi", "khar"],
    "68096 4 1 2 5 8 1 3 1 29 2 3 4 10 7 9"),
   (["khmer", "khmr"],
    "6016 94 2 10 6 10 486 32"),
   (["khojki", "khoj"],
    "70144 18 1 47"),
   (["khitansmallscript", "kits"],
    "94180 1 6939 470 41 1"),
   (["kannada", "knda"],
    "3200 13 1 3 1 23 1 10 1 5 2 9 1 3 1 4 7 2 6 2 1 4 2 10 1 3"),
   (["kaithi", "kthi"],
    "69760 67 10 1"),
   (["taitham", "lana"],
    "6688 63 1 29 2 11 6 10 6 14"),
   (["lao", "laoo"],
    "3713 2 1 1 1 5 1 24 1 1 1 23 2 5 1 1 1 7 1 10 2 4"),
   (["latin", "latn"],
    "65 26 6 26 47 1 15 1 5 23 1 31 1 449 39 5 6683 38 6 49 5 4 5 13 1 70 65 256 369 1 13 1 16 13
    141 2 6 1 27 1 17 41 2775 32 31394 102 3 67 2 2 1 1 1 8 21 14 816 43 1 9 1 4 20374 7 1050 26
    6 26 2085 6 1 42 1 9 55109 31 6 6"),
   (["lepcha", "lepc"],
    "7168 56 3 15 3 3"),
   (["limbu", "limb"],
    "6400 31 1 12 4 12 4 1 3 12"),
   (["lineara", "lina"],
    "67072 311 9 22 10 8"),
   (["linearb", "linb"],
    "65536 12 1 26 1 19 1 2 1 15 2 14 34 123"),
   (["lisu"],
    "42192 48 31408 1"),
   (["lycian", "lyci"],
    "66176 29"),
   (["lydian", "lydi"],
    "67872 26 5 1"),
   (["mahajani", "mahj"],
    "69968 39"),
   (["makasar", "maka"],
    "73440 25"),
   (["mandaic", "mand"],
    "2112 28 2 1"),
   (["manichaean", "mani"],
    "68288 39 4 12"),
   (["marchen", "marc"],
    "72816 32 2 22 1 14"),
   (["medefaidrin", "medf"],
    "93760 91"),
   (["mendekikakui", "mend"],
    "124928 197 2 16"),
   (["meroiticcursive", "merc"],
    "68000 24 4 20 2 46"),
   (["meroitichieroglyphs", "mero"],
    "67968 32"),
   (["malayalam", "mlym"],
    "3328 13 1 3 1 51 1 3 1 6 4 16 2 26"),
   (["modi"],
    "71168 69 11 10"),
   (["mongolian", "mong"],
    "6144 2 2 1 1 20 6 89 7 43 64949 13"),
   (["mro", "mroo"],
    "92736 31 1 10 4 2"),
   (["meeteimayek", "mtei"],
    "43744 23 201 46 2 10"),
   (["multani", "mult"],
    "70272 7 1 1 1 4 1 15 1 11"),
   (["myanmar", "mymr"],
    "4096 160 39232 31 97 32 27728 20"),
   (["nagmundari", "nagm"],
    "124112 42"),
   (["nandinagari", "nand"],
    "72096 8 2 46 2 11"),
   (["oldnortharabian", "narb"],
    "68224 32"),
   (["nabataean", "nbat"],
    "67712 31 8 9"),
   (["newa"],
    "70656 92 1 5"),
   (["nko", "nkoo"],
    "1984 59 2 3"),
   (["nushu", "nshu"],
    "94177 1 16782 396"),
   (["ogham", "ogam"],
    "5760 29"),
   (["olchiki", "olck"],
    "7248 48"),
   (["oldturkic", "orkh"],
    "68608 73"),
   (["oriya", "orya"],
    "2817 3 1 8 2 2 2 22 1 7 1 2 1 5 2 9 2 2 2 3 7 3 4 2 1 5 2 18"),
   (["osage", "osge"],
    "66736 36 4 36"),
   (["osmanya", "osma"],
    "66688 30 2 10"),
   (["olduyghur", "ougr"],
    "69488 26"),
   (["palmyrene", "palm"],
    "67680 32"),
   (["paucinhau", "pauc"],
    "72384 57"),
   (["oldpermic", "perm"],
    "66384 43"),
   (["phagspa", "phag"],
    "43072 56"),
   (["inscriptionalpahlavi", "phli"],
    "68448 19 5 8"),
   (["psalterpahlavi", "phlp"],
    "68480 18 7 4 12 7"),
   (["phoenician", "phnx"],
    "67840 28 3 1"),
   (["miao", "plrd"],
    "93952 75 4 57 7 17"),
   (["inscriptionalparthian", "prti"],
    "68416 22 2 8"),
   (["rejang", "rjng"],
    "43312 36 11 1"),
   (["hanifirohingya", "rohg"],
    "68864 40 8 10"),
   (["runic", "runr"],
    "5792 75 3 11"),
   (["samaritan", "samr"],
    "2048 46 2 15"),
   (["oldsoutharabian", "sarb"],
    "68192 32"),
   (["saurashtra", "saur"],
    "43136 70 8 12"),
   (["signwriting", "sgnw"],
    "120832 652 15 5 1 15"),
   (["shavian", "shaw"],
    "66640 48"),
   (["sharada", "shrd"],
    "70016 96"),
   (["siddham", "sidd"],
    "71040 54 2 38"),
   (["khudawadi", "sind"],
    "70320 59 5 10"),
   (["sinhala", "sinh"],
    "3457 3 1 18 3 24 1 9 1 1 2 7 3 1 4 6 1 1 1 8 6 10 2 3 66540 20"),
   (["sogdian", "sogd"],
    "69424 42"),
   (["oldsogdian", "sogo"],
    "69376 40"),
   (["sorasompeng", "sora"],
    "69840 25 7 10"),
   (["soyombo", "soyo"],
    "72272 83"),
   (["sundanese", "sund"],
    "7040 64 256 8"),
   (["sylotinagri", "sylo"],
    "43008 45"),
   (["syriac", "syrc"],
    "1792 14 1 60 2 3 272 11"),
   (["tagbanwa", "tagb"],
    "5984 13 1 3 1 2"),
   (["takri", "takr"],
    "71296 58 6 10"),
   (["taile", "tale"],
    "6480 30 2 5"),
   (["newtailue", "talu"],
    "6528 44 4 26 6 11 3 2"),
   (["tamil", "taml"],
    "2946 2 1 6 3 3 1 4 3 2 1 1 1 2 3 2 3 3 3 12 4 5 3 3 1 4 2 1 6 1 14 21 70597 50 13 1"),
   (["tangut", "tang"],
    "94176 1 31 6136 8 768 512 9"),
   (["taiviet", "tavt"],
    "43648 67 24 5"),
   (["telugu", "telu"],
    "3072 13 1 3 1 23 1 16 2 9 1 3 1 4 7 2 1 3 2 1 2 4 2 10 7 9"),
   (["tifinagh", "tfng"],
    "11568 56 7 2 14 1"),
   (["tagalog", "tglg"],
    "5888 22 9 1"),
   (["thaana", "thaa"],
    "1920 50"),
   (["thai"],
    "3585 58 5 28"),
   (["tibetan", "tibt"],
    "3840 72 1 36 4 39 1 36 1 15 1 7 4 2"),
   (["tirhuta", "tirh"],
    "70784 72 8 10"),
   (["tangsa", "tnsa"],
    "92784 79 1 10"),
   (["toto"],
    "123536 31"),
   (["ugaritic", "ugar"],
    "66432 30 1 1"),
   (["vai", "vaii"],
    "42240 300"),
   (["vithkuqi", "vith"],
    "66928 11 1 15 1 7 1 2 1 11 1 15 1 7 1 2"),
   (["warangciti", "wara"],
    "71840 83 12 1"),
   (["wancho", "wcho"],
    "123584 58 5 1"),
   (["oldpersian", "xpeo"],
    "66464 36 4 14"),
   (["cuneiform", "xsux"],
    "73728 922 102 111 1 5 11 196"),
   (["yezidi", "yezi"],
    "69248 42 1 3 2 2"),
   (["yi", "yiii"],
    "40960 1165 3 55"),
   (["zanabazarsquare", "zanb"],
    "72192 72"),
   (["inherited", "zinh", "qaai"],
    "768 112 277 2 452 11 26 1 736 4 4443 31 513 3 1 13 1 7 4 1 6 1 3 2 198 64 524 2 194 33 3897
    4 107 2 52581 16 16 14 975 1 226 1 4186 1 48068 46 2 23 544 3 17 8 2 7 30 4 798546 240"),
   (["common", "zyyy"],
    "0 65 26 6 26 47 1 15 1 5 23 1 31 1 449 39 5 5 2 20 116 1 9 1 6 1 1 1 637 1 6 1 14 1 3 1 32 1
    156 1 516 1 129 2 1241 1 405 4 290 1 1519 3 71 2 203 2 1 1 1229 1 13 1 7 4 1 6 1 3 2 1 773
    12 2 87 1 11 3 11 1 15 17 33 63 38 1 3 2 6 1 27 1 17 41 3 4 666 22 11 21 928 256 628 2 32 1
    105 512 94 402 21 1 1 1 25 15 8 4 4 91 2 3 1 90 2 147 16 32 38 9 1 48 64 31 81 47 1 88 168
    6592 64 22784 34 102 3 165 10 244 1 160 1 395 1 14 2 20946 2 208 10 22 35 1 19 1 4 147 1 1
    32 26 6 26 11 10 1 45 2 64 7 1 7 10 5 258 3 4 45 3 9 80 13 51 45 228 27 47524 4 3932 250 6
    436 156 116 60 246 10 39 2 62 3 17 8 2 7 30 4 61 213 20 12 20 12 87 9 25 135 85 1 71 1 2 2 1
    2 2 2 4 1 12 1 1 1 7 1 65 1 4 2 8 1 7 1 28 1 4 1 5 1 1 3 7 1 340 2 292 2 50 5233 68 76 61
    706 44 4 100 12 15 2 15 1 15 1 37 10 174 56 26 1 2 13 44 4 9 7 2 14 6 154 984 4 17 3 13 3
    119 4 95 6 12 4 1 15 12 4 56 8 10 6 40 8 30 2 12 4 2 62 340 12 14 2 13 3 10 5 56 7 15 2 11 6
    9 7 147 1 102 787463 1 30 96"),
   (["garay", "gara"],
    "68928 38 3 29 8 2"),
   (["gurungkhema", "gukh"],
    "90368 58"),
   (["kiratrai", "krai"],
    "93504 58"),
   (["olonal", "onao"],
    "124368 43 4 1"),
   (["sunuwar", "sunu"],
    "72640 34 14 10"),
   (["todhri", "todr"],
    "67008 52"),
   (["tulutigalari", "tutg"],
    "70528 10 1 1 2 1 1 38 1 10 1 1 2 1 1 4 1 10 1 2 8 2")]

/-- The names of a script and the code points used in it, where these differ from those that belong
to it. -/
def scriptExtensions : List (List String × String) :=
  [(["adlam", "adlm"],
    "1567 1 32 1 6670 1 3569 1 113342 76 4 10 4 2"),
   (["caucasianalbanian", "aghb"],
    "772 1 44 1 44 1 66001 52 11 1"),
   (["arabic", "arab"],
    "1536 5 1 215 1 34 80 48 240 31 1 2 5 75 1 29 5967 1 3569 1 52494 115 16 445 2 54 7 1 32 16
    112 5 1 135 995 28 2916 31 67 3 55 4 57088 4 1 27 1 2 1 1 2 1 1 10 1 4 1 1 1 1 6 1 4 1 1 1 1
    1 1 3 1 2 1 1 2 1 1 1 1 1 1 1 1 1 1 2 1 1 2 4 1 7 1 4 1 4 1 1 1 10 1 17 5 3 1 5 1 17 52 2"),
   (["armenian", "armn"],
    "776 1 552 38 2 50 2 3 62851 5"),
   (["avestan", "avst"],
    "183 1 11640 2 56526 54 3 7"),
   (["bengali", "beng"],
    "700 1 1684 2 17 2 26 4 1 8 2 2 2 22 1 7 1 1 3 4 2 9 2 2 2 4 8 1 4 2 1 5 2 25 4817 1 1 1 2 2
    1 1 8 1 8 1 2 1 4 1 2 3 35833 1"),
   (["bopomofo", "bopo"],
    "711 1 1 3 13 1 16 2 11541 3 4 10 1 13 10 4 2 1 6 1 195 1 9 43 112 32 52357 2 282 5"),
   (["buginese", "bugi"],
    "6656 28 2 2 36783 1"),
   (["buhid", "buhd"],
    "5941 2 9 20"),
   (["chakma", "cakm"],
    "2534 10 1616 10 65718 53 1 18"),
   (["carian", "cari"],
    "183 1 8098 1 2 1 3539 1 54382 49"),
   (["cherokee", "cher"],
    "768 3 1 1 6 2 22 2 11 2 4206 86 2 6 38770 80"),
   (["coptic", "copt", "qaac"],
    "183 1 584 1 3 2 1 1 108 2 108 14 10384 116 5 7 279 1 54472 28"),
   (["cyprominoan", "cpmn"],
    "65792 2 11918 99"),
   (["cypriot", "cprt"],
    "65792 3 4 45 3 9 1728 6 2 1 1 44 1 2 3 1 2 1"),
   (["cyrillic", "cyrl"],
    "700 1 67 3 1 1 1 1 1 1 2 1 5 1 238 304 5968 11 160 1 76 1 127 1 4071 32 67 1 30716 96 22414
    2 57856 62 33 1"),
   (["devanagari", "deva"],
    "700 1 1603 83 2 43 4944 39 1 2 1014 1 34623 10 166 32 29184 10"),
   (["dogra", "dogr"],
    "2404 12 40640 10 28614 60"),
   (["duployan", "dupl"],
    "183 1 591 2 1 1 24 2 11031 1 101827 107 5 13 3 9 7 10 2 8"),
   (["elbasan", "elba"],
    "183 1 589 1 66042 40"),
   (["ethiopic", "ethi"],
    "782 1 3825 73 1 4 2 7 1 1 1 4 2 41 1 4 2 33 1 4 2 7 1 1 1 4 2 15 1 57 1 4 2 67 2 32 3 26
    6630 23 9 7 1 7 1 7 1 7 1 7 1 7 1 7 1 7 32034 6 2 6 2 6 9 7 1 7 81073 7 1 4 1 2 1 15"),
   (["georgian", "geor"],
    "183 1 1233 1 2838 38 1 1 5 1 2 48 2960 43 2 3 922 1 3237 38 1 1 5 1 259 1"),
   (["glagolitic", "glag"],
    "183 1 587 1 1 1 382 1 2 1 257 1 2929 1 3934 1 2981 96 483 1 30763 1 80272 7 1 17 2 7 1 2 1 5"),
   (["gunjalagondi", "gong"],
    "183 1 2220 2 70650 6 1 2 1 37 1 2 1 6 7 10"),
   (["masaramgondi", "gonm"],
    "2404 2 70554 7 1 2 1 44 3 1 1 2 1 9 8 10"),
   (["gothic", "goth"],
    "183 1 588 2 2 1 40 1 65534 27"),
   (["grantha", "gran"],
    "2385 2 17 2 640 14 4316 1 1 2 30 3 3 2 1014 1 61967 4 1 8 2 2 2 22 1 7 1 2 1 5 1 10 2 2 2 3
    2 1 6 1 5 7 2 7 3 5 3163 2 1 1"),
   (["greek", "grek"],
    "183 1 584 2 2 1 1 1 1 1 10 1 46 1 2 1 42 8 2 4 1 1 4 1 1 1 1 3 1 1 1 20 1 63 14 16 6438 5 50
    5 4 5 84 3 318 22 2 6 2 38 2 6 2 8 1 1 1 1 1 1 1 31 2 53 1 15 1 14 2 6 1 19 2 3 1 9 94 1 200
    1 35390 1 21978 79 17 1 53343 70"),
   (["gujarati", "gujr"],
    "2385 2 17 2 283 3 1 9 1 3 1 22 1 7 1 2 1 5 2 10 1 3 1 3 2 1 15 4 2 12 7 7 40240 10"),
   (["gurmukhi", "guru"],
    "2385 2 17 2 155 3 1 6 4 2 2 22 1 7 1 2 1 2 1 2 2 1 1 5 4 2 2 3 3 1 7 4 1 1 7 17 40377 10"),
   (["hangul", "hang"],
    "4352 256 7681 3 4 10 1 13 14 3 6 1 195 1 53 94 113 31 65 31 30433 29 643 11172 12 23 4 49
    9801 2 282 5 58 31 3 6 2 6 2 6 2 3"),
   (["han", "hani"],
    "183 1 11720 26 1 89 12 214 26 16 1 3 1 13 1 13 1 13 2 1 6 9 187 1 148 16 32 38 9 1 48 40 56
    49 15 12 51 1 88 25 10 5 96 31 1 6592 64 20992 1792 8 20984 366 2 106 875 2 282 5 28796 2 12
    2 25454 18 7902 2 3502 42720 32 4154 6 222 2 5762 14 7473 15 622 2466 542 1506 4939 5 4192"),
   (["hanunoo", "hano"],
    "5920 23"),
   (["hebrew", "hebr"],
    "775 2 648 55 8 27 4 6 62760 26 1 5 1 1 1 2 1 2 1 10"),
   (["hiragana", "hira"],
    "12289 3 4 10 1 13 16 6 1 1 4 2 3 86 2 8 90 2 52552 2 282 5 10 1 45 2 45153 287 18 1 29 3
    16557 1"),
   (["oldhungarian", "hung"],
    "8282 1 2 1 3539 1 15 1 56894 51 13 51 7 6"),
   (["javanese", "java"],
    "43392 78 1 11 4 2"),
   (["kayahli", "kali"],
    "43264 48"),
   (["katakana", "kana"],
    "773 1 29 1 11485 3 4 10 1 13 16 6 1 1 4 2 91 4 3 96 240 16 208 47 1 88 51949 2 282 63 45136
    4 1 7 1 2 1 1 287 3 50 1 14 4"),
   (["khojki", "khoj"],
    "2790 10 40256 10 27078 18 1 47"),
   (["kannada", "knda"],
    "2385 2 17 2 794 13 1 3 1 23 1 10 1 5 2 9 1 3 1 4 7 2 6 2 1 4 2 10 1 3 4060 1 1 2 6 1 23 1 1
    1 35643 6"),
   (["kaithi", "kthi"],
    "2406 10 9409 1 31230 10 26694 67 10 1"),
   (["latin", "latn"],
    "65 26 6 26 47 1 12 1 2 1 5 23 1 31 1 449 3 1 10 1 1 3 1 1 9 1 1 1 6 5 27 15 1 2 1 1 12 1 2 3
    7 2 1 2 38 1 5 1 4 13 277 2 1226 2 1960 1 3076 38 6 49 5 4 5 13 1 70 57 1 7 256 303 1 65 1
    13 1 16 13 83 1 57 2 6 1 27 1 17 41 2775 32 407 1 30952 8 26 102 3 67 2 2 1 1 1 8 21 14 302
    1 513 43 1 9 1 4 20374 7 1050 26 6 26 2085 6 1 42 1 9 55109 31 6 6"),
   (["limbu", "limb"],
    "2405 1 3994 31 1 12 4 12 4 1 3 12"),
   (["lineara", "lina"],
    "65799 45 1228 311 9 22 10 8"),
   (["linearb", "linb"],
    "65536 12 1 26 1 19 1 2 1 15 2 14 34 123 5 3 4 45 3 9"),
   (["lisu"],
    "700 1 16 1 11580 2 29892 48 31408 1"),
   (["lycian", "lyci"],
    "8282 1 57893 29"),
   (["lydian", "lydi"],
    "183 1 11641 1 56046 26 5 1"),
   (["mahajani", "mahj"],
    "183 1 2220 12 40640 10 26902 39"),
   (["mandaic", "mand"],
    "1600 1 511 28 2 1"),
   (["manichaean", "mani"],
    "1600 1 66687 39 4 12"),
   (["meroitichieroglyphs", "mero"],
    "8285 1 59682 32"),
   (["malayalam", "mlym"],
    "2385 2 17 2 922 13 1 3 1 51 1 3 1 6 4 16 2 26 3930 1 23 1 35645 3"),
   (["modi"],
    "43056 10 28102 69 11 10"),
   (["mongolian", "mong"],
    "6144 26 6 89 7 43 1924 1 4049 2 5 4 58964 13"),
   (["multani", "mult"],
    "2662 10 67600 7 1 1 1 4 1 15 1 11"),
   (["myanmar", "mymr"],
    "4096 160 39054 1 177 31 97 32 27728 20"),
   (["nandinagari", "nand"],
    "2404 2 896 10 4089 1 8 1 7 1 35637 6 29034 8 2 46 2 11"),
   (["nko", "nkoo"],
    "1548 1 14 1 3 1 416 59 2 3 62782 2"),
   (["oldturkic", "orkh"],
    "8282 1 3541 1 56783 73"),
   (["oriya", "orya"],
    "2385 2 17 2 411 3 1 8 2 2 2 22 1 7 1 2 1 5 2 9 2 2 2 3 7 3 4 2 1 5 2 18 4450 1 23 1"),
   (["osage", "osge"],
    "769 1 2 1 6 1 76 1 65879 36 4 36"),
   (["olduyghur", "ougr"],
    "1600 1 66737 1 1149 26"),
   (["oldpermic", "perm"],
    "183 1 584 1 5 3 10 1 367 1 65228 43"),
   (["phagspa", "phag"],
    "6146 2 1 1 2089 1 4050 1 30781 56"),
   (["psalterpahlavi", "phlp"],
    "1600 1 66879 18 7 4 12 7"),
   (["hanifirohingya", "rohg"],
    "1548 1 14 1 3 1 32 1 147 1 67115 40 8 10"),
   (["runic", "runr"],
    "5792 89"),
   (["samaritan", "samr"],
    "2048 46 2 15 9714 1"),
   (["shavian", "shaw"],
    "183 1 66456 48"),
   (["sharada", "shrd"],
    "2385 1 4997 1 1 1 2 2 2 1 62623 96"),
   (["khudawadi", "sind"],
    "2404 2 40650 10 27254 59 5 10"),
   (["sinhala", "sinh"],
    "2404 2 1051 3 1 18 3 24 1 9 1 1 2 7 3 1 4 6 1 1 1 8 6 10 2 3 3837 1 62702 20"),
   (["sogdian", "sogd"],
    "1600 1 67823 42"),
   (["sylotinagri", "sylo"],
    "2404 2 128 10 40464 45"),
   (["syriac", "syrc"],
    "771 2 2 2 1 1 21 1 2 3 7 2 1 2 730 1 14 2 2 1 32 1 10 11 26 1 143 14 1 60 2 3 272 11 5517 1
    1 1"),
   (["tagbanwa", "tagb"],
    "5941 2 41 13 1 3 1 2"),
   (["takri", "takr"],
    "2404 2 40650 10 28230 58 6 10"),
   (["taile", "tale"],
    "768 2 5 2 3 1 3379 10 2310 30 2 5"),
   (["tamil", "taml"],
    "2385 2 17 2 540 2 1 6 3 3 1 4 3 2 1 1 1 2 3 2 3 3 3 12 4 5 3 3 1 4 2 1 6 1 14 21 4319 1
    35864 1 27149 1 1 1 55 2 3203 50 13 1"),
   (["tangut", "tang"],
    "12272 16 495 1 81392 1 31 6136 8 768 512 9"),
   (["telugu", "telu"],
    "2385 2 17 2 666 13 1 3 1 23 1 16 2 9 1 3 1 4 7 2 1 3 2 1 2 4 2 10 7 9 4186 1 23 1"),
   (["tifinagh", "tfng"],
    "770 1 1 1 1 4 25 1 10764 56 7 2 14 1"),
   (["tagalog", "tglg"],
    "5888 22 9 1 21 2"),
   (["thaana", "thaa"],
    "1548 1 14 2 2 1 64 10 278 50 63040 1 10 1"),
   (["thai"],
    "700 1 26 1 43 1 45 1 2767 58 5 28"),
   (["tibetan", "tibt"],
    "3840 72 1 36 4 39 1 36 1 15 1 7 4 2 8237 4"),
   (["tirhuta", "tirh"],
    "2385 2 17 2 5004 1 35645 10 27718 72 8 10"),
   (["toto"],
    "700 1 122835 31"),
   (["yezidi", "yezi"],
    "1548 1 14 1 3 1 64 10 67606 42 1 3 2 2"),
   (["yi", "yiii"],
    "12289 2 5 10 2 8 223 1 28420 1165 3 55 23194 5"),
   (["inherited", "zinh", "qaai"],
    "783 1 2 1 1 12 1 2 3 7 2 1 2 16 1 2 1 18 1 5 1 4 1520 2 4443 31 755 54 1 1 1 5 524 2 194 32
    56592 16 16 14 975 1 52482 46 2 23 544 3 17 8 2 7 30 4 798546 240"),
   (["common", "zyyy"],
    "0 65 26 6 26 47 1 12 1 2 1 5 23 1 31 1 449 3 1 10 1 1 3 1 1 9 1 1 1 6 5 5 2 20 126 1 6 1 1 1
    637 1 215 1 516 1 1372 1 405 4 4135 12 2 33 1 31 1 10 1 2 1 7 1 11 3 11 1 15 17 33 63 38 1 3
    2 6 1 27 1 17 41 3 4 666 22 11 21 928 256 628 2 32 1 105 512 23 1 24 2 10 1 4 1 1 1 26 418 1
    3 1 13 1 13 1 21 1 529 24 31 1 49 15 12 4 161 10 5 96 31 1 6592 64 22792 26 102 3 976 1 14 2
    21156 10 22 21 2 12 1 19 1 4 147 1 1 32 26 6 26 6 127 7 1 7 10 5 402 13 51 45 51715 250 6
    436 156 116 60 246 10 39 2 62 3 17 8 2 7 30 4 61 213 20 12 20 12 87 27 7 135 85 1 71 1 2 2 1
    2 2 2 4 1 12 1 1 1 7 1 65 1 4 2 8 1 7 1 28 1 4 1 5 1 1 3 7 1 340 2 292 2 50 5233 68 76 61
    706 44 4 100 12 15 2 15 1 15 1 37 10 174 56 26 1 2 13 44 4 9 23 6 154 984 4 17 3 13 3 119 4
    95 6 12 4 1 15 12 4 56 8 10 6 40 8 30 2 12 4 2 62 340 12 14 2 13 3 10 5 56 7 15 2 11 6 9 7
    147 1 102 787463 1 30 96"),
   (["garay", "gara"],
    "1548 1 14 1 3 1 67360 38 3 29 8 2"),
   (["gurungkhema", "gukh"],
    "2405 1 87962 58"),
   (["olonal", "onao"],
    "2404 2 121962 43 4 1"),
   (["sunuwar", "sunu"],
    "768 2 1 1 9 1 2 1 28 1 3 1 71822 34 14 10"),
   (["todhri", "todr"],
    "769 1 2 1 2 1 9 1 1 1 74 1 66145 52"),
   (["tulutigalari", "tutg"],
    "3302 10 4098 1 1 1 35643 6 187 1 27278 10 1 1 2 1 1 38 1 10 1 1 2 1 1 4 1 10 1 2 8 2")]

end LineScript.Regex.Property
