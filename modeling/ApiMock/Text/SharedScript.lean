import ApiMock.Text.CharTable

/-!
# Characters that scripts share

The characters of Unicode 16 that are used with a script and belong to another one, by the names of
the script. Most belong to no script of their own: they are common to all scripts or inherit the
script of the character in front.
-/

set_option autoImplicit false

namespace ApiMock.SharedScript

def adlam : CharTable := .ofRuns
  ["61f 20 1a0e df1"]

def caucasianAlbanian : CharTable := .ofRuns
  ["304 2c 2c"]

def arabic : CharTable := .ofRuns
  ["60c e 3 20 a-a 1a 19de df1 cefc-1 5a0-1b"]

def armenian : CharTable := .ofRuns
  ["308"]

def avestan : CharTable := .ofRuns
  ["b7 2d78-1"]

def bengali : CharTable := .ofRuns
  ["2bc 694-1 11-1 136a 1 2-1 1 8 8 2 4 2-2 8bf9"]

def bopomofo : CharTable := .ofRuns
  ["2c7 1-2 d 2d27-2 4-9 1-c a-3 2 6 c3 cd49-1 11a-4"]

def buginese : CharTable := .ofRuns
  ["a9cf"]

def buhid : CharTable := .ofRuns
  ["1735-1"]

def chakma : CharTable := .ofRuns
  ["9e6-9 650-9"]

def carian : CharTable := .ofRuns
  ["b7 1fa2 2 dd3"]

def cherokee : CharTable := .ofRuns
  ["300-2 1 6-1 16-1 b-1"]

def coptic : CharTable := .ofRuns
  ["b7 248 3-1 1 6c-1 2aa1 d4c8-1b"]

def cyproMinoan : CharTable := .ofRuns
  ["10100-1"]

def cypriot : CharTable := .ofRuns
  ["10100-2 4-2c 3-8"]

def cyrillic : CharTable := .ofRuns
  ["2bc 43-2 1 1 1 2 5 173-1 1971 104a"]

def devanagari : CharTable := .ofRuns
  ["2bc 694-1 11-1 136a-26 1-1 3f6 873f-9"]

def dogra : CharTable := .ofRuns
  ["964-b 9ec0-9"]

def duployan : CharTable := .ofRuns
  ["b7 24f-1 1 18-1 2b17 18e63-3"]

def elbasan : CharTable := .ofRuns
  ["b7 24d"]

def ethiopic : CharTable := .ofRuns
  ["30e"]

def garay : CharTable := .ofRuns
  ["60c e 3"]

def georgian : CharTable := .ofRuns
  ["b7 4d1 b71 f5e dd6"]

def glagolitic : CharTable := .ofRuns
  ["b7 24b 1 17e 2 101 b71 f5e de8 782b"]

def gunjalaGondi : CharTable := .ofRuns
  ["b7 8ac-1"]

def masaramGondi : CharTable := .ofRuns
  ["964-1"]

def gothic : CharTable := .ofRuns
  ["b7 24c-1 2 28"]

def grantha : CharTable := .ofRuns
  ["951-1 11-1 280-d 10dc 1-1 1e-2 3-1 3f6 f24a c94-1 1"]

def greek : CharTable := .ofRuns
  ["b7 248-1 2 1 1 a 2e 2 2e 1a4b-1 29b"]

def gujarati : CharTable := .ofRuns
  ["951-1 11-1 9eca-9"]

def gurungKhema : CharTable := .ofRuns
  ["965"]

def gurmukhi : CharTable := .ofRuns
  ["951-1 11-1 9eca-9"]

def han : CharTable := .ofRuns
  ["b7 2f38-f 1-2 2 1-9 1-c a-3 2 6 4-3 bb 94-f 20-25 9 30-27 38-30 f-b 33 58-18 a-4 60-1e",
   "7301-7 573d-1 11a-4 d3fa-11 1ede-1"]

def hangul : CharTable := .ofRuns
  ["3001-2 4-9 1-c 10 6 c3 cd49-1 11a-4"]

def hanunoo : CharTable := .ofRuns
  ["1735-1"]

def hebrew : CharTable := .ofRuns
  ["307-1"]

def hiragana : CharTable := .ofRuns
  ["3001-2 4-9 1-c 10-5 1 4-1 5b-3 3 5a-1 cd48-1 11a-4 a 2d-1"]

def oldHungarian : CharTable := .ofRuns
  ["205a 2 dd3 f"]

def javanese : CharTable := .ofRuns
  ["a9cf"]

def kayahLi : CharTable := .ofRuns
  ["a92e"]

def katakana : CharTable := .ofRuns
  ["305 1d 2cdd-2 4-9 1-c 10-5 1 4-1 5b-3 3 5a-1 cd48-1 11a-4 a 2d-1"]

def khojki : CharTable := .ofRuns
  ["ae6-9 9d40-9"]

def kannada : CharTable := .ofRuns
  ["951-1 11-1 136a 1-1 6 17 1 8b3b-5"]

def kaithi : CharTable := .ofRuns
  ["966-9 24c1 79fe-9"]

def latin : CharTable := .ofRuns
  ["b7 204 a 1-2 1 9 1 26-e 1-1 1 f-2 7-1 1-1 26 5 4-c 115-1 4ca-1 7a8 cfc 236 c0 d26 78e8-7 226"]

def limbu : CharTable := .ofRuns
  ["965"]

def linearA : CharTable := .ofRuns
  ["10107-2c"]

def linearB : CharTable := .ofRuns
  ["10100-2 4-2c 3-8"]

def lisu : CharTable := .ofRuns
  ["2bc 10 2d3c-1"]

def lycian : CharTable := .ofRuns
  ["205a"]

def lydian : CharTable := .ofRuns
  ["b7 2d79"]

def mahajani : CharTable := .ofRuns
  ["b7 8ac-b 9ec0-9"]

def mandaic : CharTable := .ofRuns
  ["640"]

def manichaean : CharTable := .ofRuns
  ["640"]

def meroiticHieroglyphs : CharTable := .ofRuns
  ["205d"]

def malayalam : CharTable := .ofRuns
  ["951-1 11-1 1374 17 8b3d-2"]

def modi : CharTable := .ofRuns
  ["a830-9"]

def mongolian : CharTable := .ofRuns
  ["1802-1 1 829 fd1-1 5-3"]

def multani : CharTable := .ofRuns
  ["a66-9"]

def myanmar : CharTable := .ofRuns
  ["a92e"]

def nandinagari : CharTable := .ofRuns
  ["951 12-1 380-9 ff9 8 7 8b35-5"]

def newa : CharTable := .ofRuns
  ["951-1 1382 1-1 9 6 1 1"]

def nko : CharTable := .ofRuns
  ["60c e 3 f71e-1"]

def olOnal : CharTable := .ofRuns
  ["964-1"]

def oldTurkic : CharTable := .ofRuns
  ["205a dd5"]

def oriya : CharTable := .ofRuns
  ["951-1 11-1 1374 17"]

def osage : CharTable := .ofRuns
  ["301 2 6 4c"]

def oldUyghur : CharTable := .ofRuns
  ["640 104b1"]

def oldPermic : CharTable := .ofRuns
  ["b7 248 5-2 a 16f"]

def phagsPa : CharTable := .ofRuns
  ["1802-1 1 829 fd2"]

def psalterPahlavi : CharTable := .ofRuns
  ["640"]

def hanifiRohingya : CharTable := .ofRuns
  ["60c e 3 20 93"]

def runic : CharTable := .ofRuns
  ["16eb-2"]

def samaritan : CharTable := .ofRuns
  ["2e31"]

def shavian : CharTable := .ofRuns
  ["b7"]

def sharada : CharTable := .ofRuns
  ["951 1385 1 2-1 2 9 2 8b42-5 2"]

def khudawadi : CharTable := .ofRuns
  ["964-1 9eca-9"]

def sinhala : CharTable := .ofRuns
  ["964-1 138c"]

def sogdian : CharTable := .ofRuns
  ["640"]

def sunuwar : CharTable := .ofRuns
  ["300-1 1 9 2 1c 3"]

def sylotiNagri : CharTable := .ofRuns
  ["964-1 80-9"]

def syriac : CharTable := .ofRuns
  ["303-1 2-1 1 18-2 7-1 1-1 2da e-1 2 20 a-a 1a 1787 1"]

def tagbanwa : CharTable := .ofRuns
  ["1735-1"]

def takri : CharTable := .ofRuns
  ["964-1 9eca-9"]

def taiLe : CharTable := .ofRuns
  ["300-1 5-1 3 d33-9"]

def tamil : CharTable := .ofRuns
  ["951-1 11-1 1374 8c18 6a0d 1 37-1"]

def tangut : CharTable := .ofRuns
  ["2ff0-f 1ef"]

def telugu : CharTable := .ofRuns
  ["951-1 11-1 136f-1 1 1 17"]

def tifinagh : CharTable := .ofRuns
  ["302 1 1-3 19"]

def tagalog : CharTable := .ofRuns
  ["1735-1"]

def thaana : CharTable := .ofRuns
  ["60c e-1 2 40-9 f788 a"]

def thai : CharTable := .ofRuns
  ["2bc 1a 2b 2d"]

def tibetan : CharTable := .ofRuns
  ["3008-3"]

def tirhuta : CharTable := .ofRuns
  ["951-1 11-1 136f c f 8b3d-9"]

def todhri : CharTable := .ofRuns
  ["301 2 2 9 1 4a"]

def toto : CharTable := .ofRuns
  ["2bc"]

def tuluTigalari : CharTable := .ofRuns
  ["ce6-9 1002 1 8b3b-5 bb"]

def yezidi : CharTable := .ofRuns
  ["60c e 3 40-9"]

def yi : CharTable := .ofRuns
  ["3001-1 5-9 2-7 df ce65-4"]

def limited : CharTable := .ofRuns
  ["b7 204 a 1-2 1 9 1 26-e 1-1 1 f-2 7-1 1-1 10 2 12 5 4-c 4 110-1 185 e 3 20 a-a 1a 2e0-1 11-1",
   "795 5ef-2 47-1 cb-1 1 4ca-2a c5-1 36 1 234 1f a 2 92 d26 18-1 a 4 1 1ac-f 1-2 2 1-9 1-c a-3",
   "2-5 1 4-3 59-3 3 5a-1 93-f 20-25 9 30-27 38-30 f-b 33 58-18 a-4 60-1e 7301-7 128-9 f4 a0",
   "536e-1 105-1 11a-4 a 2d-1 160-2 4-2c 3-8 1a0-1b 103f a964-3 16bc-11 1ede-1"]

def byName : List (String × CharTable) :=
  [("adlam", adlam), ("adlm", adlam), ("aghb", caucasianAlbanian),
   ("caucasianalbanian", caucasianAlbanian), ("arab", arabic), ("arabic", arabic),
   ("armenian", armenian), ("armn", armenian), ("avestan", avestan), ("avst", avestan),
   ("beng", bengali), ("bengali", bengali), ("bopo", bopomofo), ("bopomofo", bopomofo),
   ("bugi", buginese), ("buginese", buginese), ("buhd", buhid), ("buhid", buhid), ("cakm", chakma),
   ("chakma", chakma), ("cari", carian), ("carian", carian), ("cher", cherokee),
   ("cherokee", cherokee), ("copt", coptic), ("coptic", coptic), ("qaac", coptic),
   ("cpmn", cyproMinoan), ("cyprominoan", cyproMinoan), ("cprt", cypriot), ("cypriot", cypriot),
   ("cyrillic", cyrillic), ("cyrl", cyrillic), ("deva", devanagari), ("devanagari", devanagari),
   ("dogr", dogra), ("dogra", dogra), ("dupl", duployan), ("duployan", duployan), ("elba", elbasan),
   ("elbasan", elbasan), ("ethi", ethiopic), ("ethiopic", ethiopic), ("gara", garay),
   ("garay", garay), ("geor", georgian), ("georgian", georgian), ("glag", glagolitic),
   ("glagolitic", glagolitic), ("gong", gunjalaGondi), ("gunjalagondi", gunjalaGondi),
   ("gonm", masaramGondi), ("masaramgondi", masaramGondi), ("goth", gothic), ("gothic", gothic),
   ("gran", grantha), ("grantha", grantha), ("greek", greek), ("grek", greek),
   ("gujarati", gujarati), ("gujr", gujarati), ("gukh", gurungKhema), ("gurungkhema", gurungKhema),
   ("gurmukhi", gurmukhi), ("guru", gurmukhi), ("han", han), ("hani", han), ("hang", hangul),
   ("hangul", hangul), ("hano", hanunoo), ("hanunoo", hanunoo), ("hebr", hebrew),
   ("hebrew", hebrew), ("hira", hiragana), ("hiragana", hiragana), ("hung", oldHungarian),
   ("oldhungarian", oldHungarian), ("java", javanese), ("javanese", javanese), ("kali", kayahLi),
   ("kayahli", kayahLi), ("kana", katakana), ("katakana", katakana), ("khoj", khojki),
   ("khojki", khojki), ("kannada", kannada), ("knda", kannada), ("kaithi", kaithi),
   ("kthi", kaithi), ("latin", latin), ("latn", latin), ("limb", limbu), ("limbu", limbu),
   ("lina", linearA), ("lineara", linearA), ("linb", linearB), ("linearb", linearB), ("lisu", lisu),
   ("lyci", lycian), ("lycian", lycian), ("lydi", lydian), ("lydian", lydian),
   ("mahajani", mahajani), ("mahj", mahajani), ("mand", mandaic), ("mandaic", mandaic),
   ("mani", manichaean), ("manichaean", manichaean), ("mero", meroiticHieroglyphs),
   ("meroitichieroglyphs", meroiticHieroglyphs), ("malayalam", malayalam), ("mlym", malayalam),
   ("modi", modi), ("mong", mongolian), ("mongolian", mongolian), ("mult", multani),
   ("multani", multani), ("myanmar", myanmar), ("mymr", myanmar), ("nand", nandinagari),
   ("nandinagari", nandinagari), ("newa", newa), ("nko", nko), ("nkoo", nko), ("olonal", olOnal),
   ("onao", olOnal), ("oldturkic", oldTurkic), ("orkh", oldTurkic), ("oriya", oriya),
   ("orya", oriya), ("osage", osage), ("osge", osage), ("olduyghur", oldUyghur),
   ("ougr", oldUyghur), ("oldpermic", oldPermic), ("perm", oldPermic), ("phag", phagsPa),
   ("phagspa", phagsPa), ("phlp", psalterPahlavi), ("psalterpahlavi", psalterPahlavi),
   ("hanifirohingya", hanifiRohingya), ("rohg", hanifiRohingya), ("runic", runic), ("runr", runic),
   ("samaritan", samaritan), ("samr", samaritan), ("shavian", shavian), ("shaw", shavian),
   ("sharada", sharada), ("shrd", sharada), ("khudawadi", khudawadi), ("sind", khudawadi),
   ("sinh", sinhala), ("sinhala", sinhala), ("sogd", sogdian), ("sogdian", sogdian),
   ("sunu", sunuwar), ("sunuwar", sunuwar), ("sylo", sylotiNagri), ("sylotinagri", sylotiNagri),
   ("syrc", syriac), ("syriac", syriac), ("tagb", tagbanwa), ("tagbanwa", tagbanwa),
   ("takr", takri), ("takri", takri), ("taile", taiLe), ("tale", taiLe), ("tamil", tamil),
   ("taml", tamil), ("tang", tangut), ("tangut", tangut), ("telu", telugu), ("telugu", telugu),
   ("tfng", tifinagh), ("tifinagh", tifinagh), ("tagalog", tagalog), ("tglg", tagalog),
   ("thaa", thaana), ("thaana", thaana), ("thai", thai), ("tibetan", tibetan), ("tibt", tibetan),
   ("tirh", tirhuta), ("tirhuta", tirhuta), ("todhri", todhri), ("todr", todhri), ("toto", toto),
   ("tulutigalari", tuluTigalari), ("tutg", tuluTigalari), ("yezi", yezidi), ("yezidi", yezidi),
   ("yi", yi), ("yiii", yi)]

end ApiMock.SharedScript
