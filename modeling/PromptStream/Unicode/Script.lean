import PromptStream.Unicode.Runs

/-!
# Scripts

The scripts of the Unicode standard, under their four-letter codes.
-/

namespace PromptStream

namespace Unicode

/-- A script. -/
inductive Script where
  /-- Adlam. -/
  | adlm
  /-- Caucasian Albanian. -/
  | aghb
  /-- Ahom. -/
  | ahom
  /-- Arabic. -/
  | arab
  /-- Imperial Aramaic. -/
  | armi
  /-- Armenian. -/
  | armn
  /-- Avestan. -/
  | avst
  /-- Balinese. -/
  | bali
  /-- Bamum. -/
  | bamu
  /-- Bassa Vah. -/
  | bass
  /-- Batak. -/
  | batk
  /-- Bengali. -/
  | beng
  /-- Bhaiksuki. -/
  | bhks
  /-- Bopomofo. -/
  | bopo
  /-- Brahmi. -/
  | brah
  /-- Braille. -/
  | brai
  /-- Buginese. -/
  | bugi
  /-- Buhid. -/
  | buhd
  /-- Chakma. -/
  | cakm
  /-- Canadian Aboriginal. -/
  | cans
  /-- Carian. -/
  | cari
  /-- Cham. -/
  | cham
  /-- Cherokee. -/
  | cher
  /-- Chorasmian. -/
  | chrs
  /-- Coptic. -/
  | copt
  /-- Cypro Minoan. -/
  | cpmn
  /-- Cypriot. -/
  | cprt
  /-- Cyrillic. -/
  | cyrl
  /-- Devanagari. -/
  | deva
  /-- Dives Akuru. -/
  | diak
  /-- Dogra. -/
  | dogr
  /-- Deseret. -/
  | dsrt
  /-- Duployan. -/
  | dupl
  /-- Egyptian Hieroglyphs. -/
  | egyp
  /-- Elbasan. -/
  | elba
  /-- Elymaic. -/
  | elym
  /-- Ethiopic. -/
  | ethi
  /-- Georgian. -/
  | geor
  /-- Glagolitic. -/
  | glag
  /-- Gunjala Gondi. -/
  | gong
  /-- Masaram Gondi. -/
  | gonm
  /-- Gothic. -/
  | goth
  /-- Grantha. -/
  | gran
  /-- Greek. -/
  | grek
  /-- Gujarati. -/
  | gujr
  /-- Gurmukhi. -/
  | guru
  /-- Hangul. -/
  | hang
  /-- Han. -/
  | hani
  /-- Hanunoo. -/
  | hano
  /-- Hatran. -/
  | hatr
  /-- Hebrew. -/
  | hebr
  /-- Hiragana. -/
  | hira
  /-- Anatolian Hieroglyphs. -/
  | hluw
  /-- Pahawh Hmong. -/
  | hmng
  /-- Nyiakeng Puachue Hmong. -/
  | hmnp
  /-- Old Hungarian. -/
  | hung
  /-- Old Italic. -/
  | ital
  /-- Javanese. -/
  | java
  /-- Kayah Li. -/
  | kali
  /-- Katakana. -/
  | kana
  /-- Kawi. -/
  | kawi
  /-- Kharoshthi. -/
  | khar
  /-- Khmer. -/
  | khmr
  /-- Khojki. -/
  | khoj
  /-- Khitan Small Script. -/
  | kits
  /-- Kannada. -/
  | knda
  /-- Kaithi. -/
  | kthi
  /-- Tai Tham. -/
  | lana
  /-- Lao. -/
  | laoo
  /-- Latin. -/
  | latn
  /-- Lepcha. -/
  | lepc
  /-- Limbu. -/
  | limb
  /-- Linear A. -/
  | lina
  /-- Linear B. -/
  | linb
  /-- Lisu. -/
  | lisu
  /-- Lycian. -/
  | lyci
  /-- Lydian. -/
  | lydi
  /-- Mahajani. -/
  | mahj
  /-- Makasar. -/
  | maka
  /-- Mandaic. -/
  | mand
  /-- Manichaean. -/
  | mani
  /-- Marchen. -/
  | marc
  /-- Medefaidrin. -/
  | medf
  /-- Mende Kikakui. -/
  | mend
  /-- Meroitic Cursive. -/
  | merc
  /-- Meroitic Hieroglyphs. -/
  | mero
  /-- Malayalam. -/
  | mlym
  /-- Modi. -/
  | modi
  /-- Mongolian. -/
  | mong
  /-- Mro. -/
  | mroo
  /-- Meetei Mayek. -/
  | mtei
  /-- Multani. -/
  | mult
  /-- Myanmar. -/
  | mymr
  /-- Nag Mundari. -/
  | nagm
  /-- Nandinagari. -/
  | nand
  /-- Old North Arabian. -/
  | narb
  /-- Nabataean. -/
  | nbat
  /-- Newa. -/
  | newa
  /-- Nko. -/
  | nkoo
  /-- Nushu. -/
  | nshu
  /-- Ogham. -/
  | ogam
  /-- Ol Chiki. -/
  | olck
  /-- Old Turkic. -/
  | orkh
  /-- Oriya. -/
  | orya
  /-- Osage. -/
  | osge
  /-- Osmanya. -/
  | osma
  /-- Old Uyghur. -/
  | ougr
  /-- Palmyrene. -/
  | palm
  /-- Pau Cin Hau. -/
  | pauc
  /-- Old Permic. -/
  | perm
  /-- Phags Pa. -/
  | phag
  /-- Inscriptional Pahlavi. -/
  | phli
  /-- Psalter Pahlavi. -/
  | phlp
  /-- Phoenician. -/
  | phnx
  /-- Miao. -/
  | plrd
  /-- Inscriptional Parthian. -/
  | prti
  /-- Rejang. -/
  | rjng
  /-- Hanifi Rohingya. -/
  | rohg
  /-- Runic. -/
  | runr
  /-- Samaritan. -/
  | samr
  /-- Old South Arabian. -/
  | sarb
  /-- Saurashtra. -/
  | saur
  /-- SignWriting. -/
  | sgnw
  /-- Shavian. -/
  | shaw
  /-- Sharada. -/
  | shrd
  /-- Siddham. -/
  | sidd
  /-- Khudawadi. -/
  | sind
  /-- Sinhala. -/
  | sinh
  /-- Sogdian. -/
  | sogd
  /-- Old Sogdian. -/
  | sogo
  /-- Sora Sompeng. -/
  | sora
  /-- Soyombo. -/
  | soyo
  /-- Sundanese. -/
  | sund
  /-- Syloti Nagri. -/
  | sylo
  /-- Syriac. -/
  | syrc
  /-- Tagbanwa. -/
  | tagb
  /-- Takri. -/
  | takr
  /-- Tai Le. -/
  | tale
  /-- New Tai Lue. -/
  | talu
  /-- Tamil. -/
  | taml
  /-- Tangut. -/
  | tang
  /-- Tai Viet. -/
  | tavt
  /-- Telugu. -/
  | telu
  /-- Tifinagh. -/
  | tfng
  /-- Tagalog. -/
  | tglg
  /-- Thaana. -/
  | thaa
  /-- Thai. -/
  | thai
  /-- Tibetan. -/
  | tibt
  /-- Tirhuta. -/
  | tirh
  /-- Tangsa. -/
  | tnsa
  /-- Toto. -/
  | toto
  /-- Ugaritic. -/
  | ugar
  /-- Vai. -/
  | vaii
  /-- Vithkuqi. -/
  | vith
  /-- Warang Citi. -/
  | wara
  /-- Wancho. -/
  | wcho
  /-- Old Persian. -/
  | xpeo
  /-- Cuneiform. -/
  | xsux
  /-- Yezidi. -/
  | yezi
  /-- Yi. -/
  | yiii
  /-- Zanabazar Square. -/
  | zanb
  /-- Inherited. -/
  | zinh
  /-- Common. -/
  | zyyy
  /-- No script at all. -/
  | zzzz
  deriving DecidableEq, Repr, Inhabited

namespace Script

/-- The names of the scripts, in lower case and without separators. -/
def names : List (Script × List String) :=
  [
    (.adlm, ["adlm", "adlam"]),
    (.aghb, ["aghb", "caucasianalbanian"]),
    (.ahom, ["ahom"]),
    (.arab, ["arab", "arabic"]),
    (.armi, ["armi", "imperialaramaic"]),
    (.armn, ["armn", "armenian"]),
    (.avst, ["avst", "avestan"]),
    (.bali, ["bali", "balinese"]),
    (.bamu, ["bamu", "bamum"]),
    (.bass, ["bass", "bassavah"]),
    (.batk, ["batk", "batak"]),
    (.beng, ["beng", "bengali"]),
    (.bhks, ["bhks", "bhaiksuki"]),
    (.bopo, ["bopo", "bopomofo"]),
    (.brah, ["brah", "brahmi"]),
    (.brai, ["brai", "braille"]),
    (.bugi, ["bugi", "buginese"]),
    (.buhd, ["buhd", "buhid"]),
    (.cakm, ["cakm", "chakma"]),
    (.cans, ["cans", "canadianaboriginal"]),
    (.cari, ["cari", "carian"]),
    (.cham, ["cham"]),
    (.cher, ["cher", "cherokee"]),
    (.chrs, ["chrs", "chorasmian"]),
    (.copt, ["copt", "coptic", "qaac"]),
    (.cpmn, ["cpmn", "cyprominoan"]),
    (.cprt, ["cprt", "cypriot"]),
    (.cyrl, ["cyrl", "cyrillic"]),
    (.deva, ["deva", "devanagari"]),
    (.diak, ["diak", "divesakuru"]),
    (.dogr, ["dogr", "dogra"]),
    (.dsrt, ["dsrt", "deseret"]),
    (.dupl, ["dupl", "duployan"]),
    (.egyp, ["egyp", "egyptianhieroglyphs"]),
    (.elba, ["elba", "elbasan"]),
    (.elym, ["elym", "elymaic"]),
    (.ethi, ["ethi", "ethiopic"]),
    (.geor, ["geor", "georgian"]),
    (.glag, ["glag", "glagolitic"]),
    (.gong, ["gong", "gunjalagondi"]),
    (.gonm, ["gonm", "masaramgondi"]),
    (.goth, ["goth", "gothic"]),
    (.gran, ["gran", "grantha"]),
    (.grek, ["grek", "greek"]),
    (.gujr, ["gujr", "gujarati"]),
    (.guru, ["guru", "gurmukhi"]),
    (.hang, ["hang", "hangul"]),
    (.hani, ["hani", "han"]),
    (.hano, ["hano", "hanunoo"]),
    (.hatr, ["hatr", "hatran"]),
    (.hebr, ["hebr", "hebrew"]),
    (.hira, ["hira", "hiragana"]),
    (.hluw, ["hluw", "anatolianhieroglyphs"]),
    (.hmng, ["hmng", "pahawhhmong"]),
    (.hmnp, ["hmnp", "nyiakengpuachuehmong"]),
    (.hung, ["hung", "oldhungarian"]),
    (.ital, ["ital", "olditalic"]),
    (.java, ["java", "javanese"]),
    (.kali, ["kali", "kayahli"]),
    (.kana, ["kana", "katakana"]),
    (.kawi, ["kawi"]),
    (.khar, ["khar", "kharoshthi"]),
    (.khmr, ["khmr", "khmer"]),
    (.khoj, ["khoj", "khojki"]),
    (.kits, ["kits", "khitansmallscript"]),
    (.knda, ["knda", "kannada"]),
    (.kthi, ["kthi", "kaithi"]),
    (.lana, ["lana", "taitham"]),
    (.laoo, ["laoo", "lao"]),
    (.latn, ["latn", "latin"]),
    (.lepc, ["lepc", "lepcha"]),
    (.limb, ["limb", "limbu"]),
    (.lina, ["lina", "lineara"]),
    (.linb, ["linb", "linearb"]),
    (.lisu, ["lisu"]),
    (.lyci, ["lyci", "lycian"]),
    (.lydi, ["lydi", "lydian"]),
    (.mahj, ["mahj", "mahajani"]),
    (.maka, ["maka", "makasar"]),
    (.mand, ["mand", "mandaic"]),
    (.mani, ["mani", "manichaean"]),
    (.marc, ["marc", "marchen"]),
    (.medf, ["medf", "medefaidrin"]),
    (.mend, ["mend", "mendekikakui"]),
    (.merc, ["merc", "meroiticcursive"]),
    (.mero, ["mero", "meroitichieroglyphs"]),
    (.mlym, ["mlym", "malayalam"]),
    (.modi, ["modi"]),
    (.mong, ["mong", "mongolian"]),
    (.mroo, ["mroo", "mro"]),
    (.mtei, ["mtei", "meeteimayek"]),
    (.mult, ["mult", "multani"]),
    (.mymr, ["mymr", "myanmar"]),
    (.nagm, ["nagm", "nagmundari"]),
    (.nand, ["nand", "nandinagari"]),
    (.narb, ["narb", "oldnortharabian"]),
    (.nbat, ["nbat", "nabataean"]),
    (.newa, ["newa"]),
    (.nkoo, ["nkoo", "nko"]),
    (.nshu, ["nshu", "nushu"]),
    (.ogam, ["ogam", "ogham"]),
    (.olck, ["olck", "olchiki"]),
    (.orkh, ["orkh", "oldturkic"]),
    (.orya, ["orya", "oriya"]),
    (.osge, ["osge", "osage"]),
    (.osma, ["osma", "osmanya"]),
    (.ougr, ["ougr", "olduyghur"]),
    (.palm, ["palm", "palmyrene"]),
    (.pauc, ["pauc", "paucinhau"]),
    (.perm, ["perm", "oldpermic"]),
    (.phag, ["phag", "phagspa"]),
    (.phli, ["phli", "inscriptionalpahlavi"]),
    (.phlp, ["phlp", "psalterpahlavi"]),
    (.phnx, ["phnx", "phoenician"]),
    (.plrd, ["plrd", "miao"]),
    (.prti, ["prti", "inscriptionalparthian"]),
    (.rjng, ["rjng", "rejang"]),
    (.rohg, ["rohg", "hanifirohingya"]),
    (.runr, ["runr", "runic"]),
    (.samr, ["samr", "samaritan"]),
    (.sarb, ["sarb", "oldsoutharabian"]),
    (.saur, ["saur", "saurashtra"]),
    (.sgnw, ["sgnw", "signwriting"]),
    (.shaw, ["shaw", "shavian"]),
    (.shrd, ["shrd", "sharada"]),
    (.sidd, ["sidd", "siddham"]),
    (.sind, ["sind", "khudawadi"]),
    (.sinh, ["sinh", "sinhala"]),
    (.sogd, ["sogd", "sogdian"]),
    (.sogo, ["sogo", "oldsogdian"]),
    (.sora, ["sora", "sorasompeng"]),
    (.soyo, ["soyo", "soyombo"]),
    (.sund, ["sund", "sundanese"]),
    (.sylo, ["sylo", "sylotinagri"]),
    (.syrc, ["syrc", "syriac"]),
    (.tagb, ["tagb", "tagbanwa"]),
    (.takr, ["takr", "takri"]),
    (.tale, ["tale", "taile"]),
    (.talu, ["talu", "newtailue"]),
    (.taml, ["taml", "tamil"]),
    (.tang, ["tang", "tangut"]),
    (.tavt, ["tavt", "taiviet"]),
    (.telu, ["telu", "telugu"]),
    (.tfng, ["tfng", "tifinagh"]),
    (.tglg, ["tglg", "tagalog"]),
    (.thaa, ["thaa", "thaana"]),
    (.thai, ["thai"]),
    (.tibt, ["tibt", "tibetan"]),
    (.tirh, ["tirh", "tirhuta"]),
    (.tnsa, ["tnsa", "tangsa"]),
    (.toto, ["toto"]),
    (.ugar, ["ugar", "ugaritic"]),
    (.vaii, ["vaii", "vai"]),
    (.vith, ["vith", "vithkuqi"]),
    (.wara, ["wara", "warangciti"]),
    (.wcho, ["wcho", "wancho"]),
    (.xpeo, ["xpeo", "oldpersian"]),
    (.xsux, ["xsux", "cuneiform"]),
    (.yezi, ["yezi", "yezidi"]),
    (.yiii, ["yiii", "yi"]),
    (.zanb, ["zanb", "zanabazarsquare"]),
    (.zinh, ["zinh", "inherited", "qaai"]),
    (.zyyy, ["zyyy", "common"])
  ]

/-- The script of a name. -/
def ofName? (s : String) : Option Script :=
  (names.find? fun e => e.2.contains s).map (·.1)

end Script

end Unicode

end PromptStream
