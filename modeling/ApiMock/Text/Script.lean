import ApiMock.Text.CharTable

/-!
# Scripts

The characters of each script of Unicode 16, by the long and the short name of the script in lower
case and without separators.
-/

set_option autoImplicit false

namespace ApiMock.Script

def adlam : CharTable := .ofRuns
  ["1e900-4b 4-9 4-1"]

def caucasianAlbanian : CharTable := .ofRuns
  ["10530-33 b"]

def ahom : CharTable := .ofRuns
  ["11700-1a 2-e 4-16"]

def arabic : CharTable := .ofRuns
  ["600-4 1-5 1-d 1-2 1-1f 1-9 b-19 1-6b 1-21 50-2f f0-1e 1-1 5-4a 1-1c f250-72 10-16a 2-4f 2-35",
   "7 20-f 70-4 1-86 f63-1e 43-2 37-3 df00-3 1-1a 1-1 1 2 1-9 1-3 1 1 6 4 1 1 1-2 1-1 1 2 1 1 1",
   "1 1-1 1 2-3 1-6 1-3 1-3 1 1-9 1-10 5-2 1-4 1-10 34-1"]

def imperialAramaic : CharTable := .ofRuns
  ["10840-15 1-8"]

def armenian : CharTable := .ofRuns
  ["531-25 2-31 2-2 f583-4"]

def avestan : CharTable := .ofRuns
  ["10b00-35 3-6"]

def balinese : CharTable := .ofRuns
  ["1b00-4c 1-31"]

def bamum : CharTable := .ofRuns
  ["a6a0-57 c108-238"]

def bassaVah : CharTable := .ofRuns
  ["16ad0-1d 2-5"]

def batak : CharTable := .ofRuns
  ["1bc0-33 8-3"]

def bengali : CharTable := .ofRuns
  ["980-3 1-7 2-1 2-15 1-6 1 3-3 2-8 2-1 2-3 8 4-1 1-4 2-18"]

def bhaiksuki : CharTable := .ofRuns
  ["11c00-8 1-2c 1-d a-1c"]

def bopomofo : CharTable := .ofRuns
  ["2ea-1 2e19-2a 70-1f"]

def brahmi : CharTable := .ofRuns
  ["11000-4d 4-23 9"]

def braille : CharTable := .ofRuns
  ["2800-ff"]

def buginese : CharTable := .ofRuns
  ["1a00-1b 2-1"]

def buhid : CharTable := .ofRuns
  ["1740-13"]

def chakma : CharTable := .ofRuns
  ["11100-34 1-11"]

def canadianAboriginal : CharTable := .ofRuns
  ["1400-27f 230-45 101ba-f"]

def carian : CharTable := .ofRuns
  ["102a0-30"]

def cham : CharTable := .ofRuns
  ["aa00-36 9-d 2-9 2-3"]

def cherokee : CharTable := .ofRuns
  ["13a0-55 2-5 9772-4f"]

def chorasmian : CharTable := .ofRuns
  ["10fb0-1b"]

def coptic : CharTable := .ofRuns
  ["3e2-d 2890-73 5-6"]

def cyproMinoan : CharTable := .ofRuns
  ["12f90-62"]

def cypriot : CharTable := .ofRuns
  ["10800-5 2 1-2b 1-1 3 2"]

def cyrillic : CharTable := .ofRuns
  ["400-84 2-a8 1750-a a0 4c 1067-1f 7840-5f 578e-1 e200-3d 21"]

def devanagari : CharTable := .ofRuns
  ["900-50 4-e 2-19 9f60-1f 7200-9"]

def divesAkuru : CharTable := .ofRuns
  ["11900-6 2 2-7 1-1 1-1d 1-1 2-b 9-9"]

def dogra : CharTable := .ofRuns
  ["11800-3b"]

def deseret : CharTable := .ofRuns
  ["10400-4f"]

def duployan : CharTable := .ofRuns
  ["1bc00-6a 5-c 3-8 7-9 2-3"]

def egyptianHieroglyphs : CharTable := .ofRuns
  ["13000-455 a-f9a"]

def elbasan : CharTable := .ofRuns
  ["10500-27"]

def elymaic : CharTable := .ofRuns
  ["10fe0-16"]

def ethiopic : CharTable := .ofRuns
  ["1200-48 1-3 2-6 1 1-3 2-28 1-3 2-20 1-3 2-6 1 1-3 2-e 1-38 1-3 2-42 2-1f 3-19 19e6-16 9-6",
   "1-6 1-6 1-6 1-6 1-6 1-6 1-6 7d22-5 2-5 2-5 9-6 1-6 13cb1-6 1-3 1-1 1-e"]

def garay : CharTable := .ofRuns
  ["10d40-25 3-1c 8-1"]

def georgian : CharTable := .ofRuns
  ["10a0-25 1 5 2-2a 1-3 b90-2a 2-2 1040-25 1 5"]

def glagolitic : CharTable := .ofRuns
  ["2c00-5f 1b3a0-6 1-10 2-6 1-1 1-4"]

def gunjalaGondi : CharTable := .ofRuns
  ["11d60-5 1-1 1-24 1-1 1-5 7-9"]

def masaramGondi : CharTable := .ofRuns
  ["11d00-6 1-1 1-2b 3 1-1 1-8 8-9"]

def gothic : CharTable := .ofRuns
  ["10330-1a"]

def grantha : CharTable := .ofRuns
  ["11300-3 1-7 2-1 2-15 1-6 1-1 1-4 2-8 2-1 2-2 2 6 5-6 2-6 3-4"]

def greek : CharTable := .ofRuns
  ["370-3 1-2 2-3 1 4 1 1-2 1 1-13 1-3e e-f 1926-4 32-4 4-4 54 140-15 2-5 2-25 2-5 2-7 1 1 1",
   "1-1e 2-34 1-e 1-d 2-5 1-12 2-2 1-8 127 8a3e 55da-4e 11 d05f-45"]

def gujarati : CharTable := .ofRuns
  ["a81-2 1-8 1-2 1-15 1-6 1-1 1-4 2-9 1-2 1-2 2 f-3 2-b 7-6"]

def gurungKhema : CharTable := .ofRuns
  ["16100-39"]

def gurmukhi : CharTable := .ofRuns
  ["a01-2 1-5 4-1 2-15 1-6 1-1 1-1 1-1 2 1-4 4-1 2-2 3 7-3 1 7-10"]

def han : CharTable := .ofRuns
  ["2e80-19 1-58 c-d5 2f 1 19-8 e-3 3c4-19bf 40-51ff 5900-16d 2-69 7508-1 c-1 900e-a6df 20-1039",
   "6-dd 2-1681 e-1d30 f-26d 9a2-21d 5e2-134a 5-105f"]

def hangul : CharTable := .ofRuns
  ["1100-ff 1e2e-1 101-5d 71-1e 41-1e 76e1-1c 283-2ba3 c-16 4-30 27a4-1e 3-5 2-5 2-5 2-2"]

def hanunoo : CharTable := .ofRuns
  ["1720-14"]

def hatran : CharTable := .ofRuns
  ["108e0-12 1-1 5-4"]

def hebrew : CharTable := .ofRuns
  ["591-36 8-1a 4-5 f528-19 1-4 1 1-1 1-1 1-9"]

def hiragana : CharTable := .ofRuns
  ["3041-55 6-2 17f61-11e 12 1d-2 40ad"]

def anatolianHieroglyphs : CharTable := .ofRuns
  ["14400-246"]

def pahawhHmong : CharTable := .ofRuns
  ["16b00-45 a-9 1-6 1-14 5-12"]

def nyiakengPuachueHmong : CharTable := .ofRuns
  ["1e100-2c 3-d 2-9 4-1"]

def oldHungarian : CharTable := .ofRuns
  ["10c80-32 d-32 7-5"]

def oldItalic : CharTable := .ofRuns
  ["10300-23 9-2"]

def javanese : CharTable := .ofRuns
  ["a980-4d 2-9 4-1"]

def kayahLi : CharTable := .ofRuns
  ["a900-2d 1"]

def katakana : CharTable := .ofRuns
  ["30a1-59 2-2 f0-f d0-2e 1-57 cc0e-9 1-2c b052-3 1-6 1-1 1 11f-2 32 e-3"]

def kawi : CharTable := .ofRuns
  ["11f00-10 1-28 3-1c"]

def kharoshthi : CharTable := .ofRuns
  ["10a00-3 1-1 5-7 1-2 1-1c 2-2 4-9 7-8"]

def khmer : CharTable := .ofRuns
  ["1780-5d 2-9 6-9 1e6-1f"]

def khojki : CharTable := .ofRuns
  ["11200-11 1-2e"]

def khitanSmallScript : CharTable := .ofRuns
  ["16fe4 1b1b-1d5 29"]

def kannada : CharTable := .ofRuns
  ["c80-c 1-2 1-16 1-9 1-4 2-8 1-2 1-3 7-1 6-1 1-3 2-9 1-2"]

def kiratRai : CharTable := .ofRuns
  ["16d40-39"]

def kaithi : CharTable := .ofRuns
  ["11080-42 a"]

def taiTham : CharTable := .ofRuns
  ["1a20-3e 1-1c 2-a 6-9 6-d"]

def lao : CharTable := .ofRuns
  ["e81-1 1 1-4 1-17 1 1-16 2-4 1 1-6 1-9 2-3"]

def latin : CharTable := .ofRuns
  ["41-19 6-19 2f f 5-16 1-1e 1-1c0 27-4 1a1b-25 6-30 5-3 5-c 1-45 41-ff 171 d 10-c 8d-1 6 1b",
   "11-28 ad7-1f 7aa2-65 3-42 2-1 1 1-7 15-d 330-2a 1-8 1-3 4f96-6 41a-19 6-19 825-5 1-29 1-8",
   "d745-1e 6-5"]

def lepcha : CharTable := .ofRuns
  ["1c00-37 3-e 3-2"]

def limbu : CharTable := .ofRuns
  ["1900-1e 1-b 4-b 4 3-b"]

def linearA : CharTable := .ofRuns
  ["10600-136 9-15 a-7"]

def linearB : CharTable := .ofRuns
  ["10000-b 1-19 1-12 1-1 1-e 2-d 22-7a"]

def lisu : CharTable := .ofRuns
  ["a4d0-2f 7ab0"]

def lycian : CharTable := .ofRuns
  ["10280-1c"]

def lydian : CharTable := .ofRuns
  ["10920-19 5"]

def mahajani : CharTable := .ofRuns
  ["11150-26"]

def makasar : CharTable := .ofRuns
  ["11ee0-18"]

def mandaic : CharTable := .ofRuns
  ["840-1b 2"]

def manichaean : CharTable := .ofRuns
  ["10ac0-26 4-b"]

def marchen : CharTable := .ofRuns
  ["11c70-1f 2-15 1-d"]

def medefaidrin : CharTable := .ofRuns
  ["16e40-5a"]

def mendeKikakui : CharTable := .ofRuns
  ["1e800-c4 2-f"]

def meroiticCursive : CharTable := .ofRuns
  ["109a0-17 4-13 2-2d"]

def meroiticHieroglyphs : CharTable := .ofRuns
  ["10980-1f"]

def malayalam : CharTable := .ofRuns
  ["d00-c 1-2 1-32 1-2 1-5 4-f 2-19"]

def modi : CharTable := .ofRuns
  ["11600-44 b-9"]

def mongolian : CharTable := .ofRuns
  ["1800-1 2 1-13 6-58 7-2a fdb5-c"]

def mro : CharTable := .ofRuns
  ["16a40-1e 1-9 4-1"]

def meeteiMayek : CharTable := .ofRuns
  ["aae0-16 c9-2d 2-9"]

def multani : CharTable := .ofRuns
  ["11280-6 1 1-3 1-e 1-a"]

def myanmar : CharTable := .ofRuns
  ["1000-9f 9940-1e 61-1f 6c50-13"]

def nagMundari : CharTable := .ofRuns
  ["1e4d0-29"]

def nandinagari : CharTable := .ofRuns
  ["119a0-7 2-2d 2-a"]

def oldNorthArabian : CharTable := .ofRuns
  ["10a80-1f"]

def nabataean : CharTable := .ofRuns
  ["10880-1e 8-8"]

def newa : CharTable := .ofRuns
  ["11400-5b 1-4"]

def nko : CharTable := .ofRuns
  ["7c0-3a 2-2"]

def nushu : CharTable := .ofRuns
  ["16fe1 418e-18b"]

def ogham : CharTable := .ofRuns
  ["1680-1c"]

def olChiki : CharTable := .ofRuns
  ["1c50-2f"]

def olOnal : CharTable := .ofRuns
  ["1e5d0-2a 4"]

def oldTurkic : CharTable := .ofRuns
  ["10c00-48"]

def oriya : CharTable := .ofRuns
  ["b01-2 1-7 2-1 2-15 1-6 1-1 1-4 2-8 2-1 2-2 7-2 4-1 1-4 2-11"]

def osage : CharTable := .ofRuns
  ["104b0-23 4-23"]

def osmanya : CharTable := .ofRuns
  ["10480-1d 2-9"]

def oldUyghur : CharTable := .ofRuns
  ["10f70-19"]

def palmyrene : CharTable := .ofRuns
  ["10860-1f"]

def pauCinHau : CharTable := .ofRuns
  ["11ac0-38"]

def oldPermic : CharTable := .ofRuns
  ["10350-2a"]

def phagsPa : CharTable := .ofRuns
  ["a840-37"]

def inscriptionalPahlavi : CharTable := .ofRuns
  ["10b60-12 5-7"]

def psalterPahlavi : CharTable := .ofRuns
  ["10b80-11 7-3 c-6"]

def phoenician : CharTable := .ofRuns
  ["10900-1b 3"]

def miao : CharTable := .ofRuns
  ["16f00-4a 4-38 7-10"]

def inscriptionalParthian : CharTable := .ofRuns
  ["10b40-15 2-7"]

def rejang : CharTable := .ofRuns
  ["a930-23 b"]

def hanifiRohingya : CharTable := .ofRuns
  ["10d00-27 8-9"]

def runic : CharTable := .ofRuns
  ["16a0-4a 3-a"]

def samaritan : CharTable := .ofRuns
  ["800-2d 2-e"]

def oldSouthArabian : CharTable := .ofRuns
  ["10a60-1f"]

def saurashtra : CharTable := .ofRuns
  ["a880-45 8-b"]

def signwriting : CharTable := .ofRuns
  ["1d800-28b f-4 1-e"]

def shavian : CharTable := .ofRuns
  ["10450-2f"]

def sharada : CharTable := .ofRuns
  ["11180-5f"]

def siddham : CharTable := .ofRuns
  ["11580-35 2-25"]

def khudawadi : CharTable := .ofRuns
  ["112b0-3a 5-9"]

def sinhala : CharTable := .ofRuns
  ["d81-2 1-11 3-17 1-8 1 2-6 3 4-5 1 1-7 6-9 2-2 103ec-13"]

def sogdian : CharTable := .ofRuns
  ["10f30-29"]

def oldSogdian : CharTable := .ofRuns
  ["10f00-27"]

def soraSompeng : CharTable := .ofRuns
  ["110d0-18 7-9"]

def soyombo : CharTable := .ofRuns
  ["11a50-52"]

def sundanese : CharTable := .ofRuns
  ["1b80-3f 100-7"]

def sunuwar : CharTable := .ofRuns
  ["11bc0-21 e-9"]

def sylotiNagri : CharTable := .ofRuns
  ["a800-2c"]

def syriac : CharTable := .ofRuns
  ["700-d 1-3b 2-2 110-a"]

def tagbanwa : CharTable := .ofRuns
  ["1760-c 1-2 1-1"]

def takri : CharTable := .ofRuns
  ["11680-39 6-9"]

def taiLe : CharTable := .ofRuns
  ["1950-1d 2-4"]

def newTaiLue : CharTable := .ofRuns
  ["1980-2b 4-19 6-a 3-1"]

def tamil : CharTable := .ofRuns
  ["b82-1 1-5 3-2 1-3 3-1 1 1-1 3-1 3-2 3-b 4-4 3-2 1-3 2 6 e-14 113c5-31 d"]

def tangut : CharTable := .ofRuns
  ["16fe0 1f-17f7 8-2ff 200-8"]

def taiViet : CharTable := .ofRuns
  ["aa80-42 18-4"]

def telugu : CharTable := .ofRuns
  ["c00-c 1-2 1-16 1-f 2-8 1-2 1-3 7-1 1-2 2 2-3 2-9 7-8"]

def tifinagh : CharTable := .ofRuns
  ["2d30-37 7-1 e"]

def tagalog : CharTable := .ofRuns
  ["1700-15 9"]

def thaana : CharTable := .ofRuns
  ["780-31"]

def thai : CharTable := .ofRuns
  ["e01-39 5-1b"]

def tibetan : CharTable := .ofRuns
  ["f00-47 1-23 4-26 1-23 1-e 1-6 4-1"]

def tirhuta : CharTable := .ofRuns
  ["11480-47 8-9"]

def tangsa : CharTable := .ofRuns
  ["16a70-4e 1-9"]

def todhri : CharTable := .ofRuns
  ["105c0-33"]

def toto : CharTable := .ofRuns
  ["1e290-1e"]

def tuluTigalari : CharTable := .ofRuns
  ["11380-9 1 2 1-25 1-9 1 2 1-3 1-9 1-1 8-1"]

def ugaritic : CharTable := .ofRuns
  ["10380-1d 1"]

def vai : CharTable := .ofRuns
  ["a500-12b"]

def vithkuqi : CharTable := .ofRuns
  ["10570-a 1-e 1-6 1-1 1-a 1-e 1-6 1-1"]

def warangCiti : CharTable := .ofRuns
  ["118a0-52 c"]

def wancho : CharTable := .ofRuns
  ["1e2c0-39 5"]

def oldPersian : CharTable := .ofRuns
  ["103a0-23 4-d"]

def cuneiform : CharTable := .ofRuns
  ["12000-399 66-6e 1-4 b-c3"]

def yezidi : CharTable := .ofRuns
  ["10e80-29 1-2 2-1"]

def yi : CharTable := .ofRuns
  ["a000-48c 3-36"]

def zanabazarSquare : CharTable := .ofRuns
  ["11a00-47"]

def inherited : CharTable := .ofRuns
  ["300-6f 115-1 1c4-a 1a 2e0-3 115b-1e 201-2 1-c 1-6 4 6 3-1 c6-3f 20c-1 c2-20 f39-3 6b-1",
   "cd65-f 10-d 3cf e2 105a bbc4-2d 2-16 220-2 11-7 2-6 1e-3 c2f52-ef"]

def common : CharTable := .ofRuns
  ["0-40 1a-5 1a-2e 1-e 1-4 17 1f 1c1-26 5-4 2-13 74 9 6 1 27d 6 e 3 20 9c 204 81-1 4d9 195-3",
   "122 5ef-2 47-1 cb-1 1 4cd d 7-3 1-5 1-2 2 305-b 2-56 1-a 3-a 1-e 11-20 3f-25 1-2 2-5 1-1a",
   "1-10 29-2 4-299 16-a 15-39f 100-273 2-1f 1-68 200-5d 192-14 1 1-18 f-7 4-3 5b-1 3 5a-1 93-f",
   "20-25 9 30-3f 1f-50 2f 58-a7 19c0-3f 5900-21 66-2 a5-9 f4 a0 18b e-1 51d2-1 d0-9 16-22 1-12",
   "1-3 93 1-1f 1a-5 1a-a a 2d-1 40-6 1-6 a-4 102-2 4-2c 3-8 50-c 33-2c e4-1a b9a4-3 f5c-f9",
   "6-1b3 9c-73 3c-f5 a-26 2-3d 3-10 8-1 7-1d 4-3c d5-13 c-13 c-56 9-18 87-54 1-46 1-1 2 2-1 2-3",
   "1-b 1 1-6 1-40 1-3 2-7 1-6 1-1b 1-3 1-4 1 3-6 1-153 2-123 2-31 1471-43 4c-3c 2c2-2b 4-63 c-e",
   "2-e 1-e 1-24 a-ad 38-19 1-1 d-2b 4-8 7-1 e-5 9a-3d7 4-10 3-c 3-76 4-5e 6-b 4 f-b 4-37 8-9",
   "6-27 8-1d 2-b 4-1 3e-153 c-d 2-c 3-9 5-37 7-e 2-a 6-8 7-92 1-65 c0407 1e-5f"]

def byName : List (String × CharTable) :=
  [("adlam", adlam), ("adlm", adlam), ("aghb", caucasianAlbanian),
   ("caucasianalbanian", caucasianAlbanian), ("ahom", ahom), ("arab", arabic), ("arabic", arabic),
   ("armi", imperialAramaic), ("imperialaramaic", imperialAramaic), ("armenian", armenian),
   ("armn", armenian), ("avestan", avestan), ("avst", avestan), ("bali", balinese),
   ("balinese", balinese), ("bamu", bamum), ("bamum", bamum), ("bass", bassaVah),
   ("bassavah", bassaVah), ("batak", batak), ("batk", batak), ("beng", bengali),
   ("bengali", bengali), ("bhaiksuki", bhaiksuki), ("bhks", bhaiksuki), ("bopo", bopomofo),
   ("bopomofo", bopomofo), ("brah", brahmi), ("brahmi", brahmi), ("brai", braille),
   ("braille", braille), ("bugi", buginese), ("buginese", buginese), ("buhd", buhid),
   ("buhid", buhid), ("cakm", chakma), ("chakma", chakma),
   ("canadianaboriginal", canadianAboriginal), ("cans", canadianAboriginal), ("cari", carian),
   ("carian", carian), ("cham", cham), ("cher", cherokee), ("cherokee", cherokee),
   ("chorasmian", chorasmian), ("chrs", chorasmian), ("copt", coptic), ("coptic", coptic),
   ("qaac", coptic), ("cpmn", cyproMinoan), ("cyprominoan", cyproMinoan), ("cprt", cypriot),
   ("cypriot", cypriot), ("cyrillic", cyrillic), ("cyrl", cyrillic), ("deva", devanagari),
   ("devanagari", devanagari), ("diak", divesAkuru), ("divesakuru", divesAkuru), ("dogr", dogra),
   ("dogra", dogra), ("deseret", deseret), ("dsrt", deseret), ("dupl", duployan),
   ("duployan", duployan), ("egyp", egyptianHieroglyphs),
   ("egyptianhieroglyphs", egyptianHieroglyphs), ("elba", elbasan), ("elbasan", elbasan),
   ("elym", elymaic), ("elymaic", elymaic), ("ethi", ethiopic), ("ethiopic", ethiopic),
   ("gara", garay), ("garay", garay), ("geor", georgian), ("georgian", georgian),
   ("glag", glagolitic), ("glagolitic", glagolitic), ("gong", gunjalaGondi),
   ("gunjalagondi", gunjalaGondi), ("gonm", masaramGondi), ("masaramgondi", masaramGondi),
   ("goth", gothic), ("gothic", gothic), ("gran", grantha), ("grantha", grantha), ("greek", greek),
   ("grek", greek), ("gujarati", gujarati), ("gujr", gujarati), ("gukh", gurungKhema),
   ("gurungkhema", gurungKhema), ("gurmukhi", gurmukhi), ("guru", gurmukhi), ("han", han),
   ("hani", han), ("hang", hangul), ("hangul", hangul), ("hano", hanunoo), ("hanunoo", hanunoo),
   ("hatr", hatran), ("hatran", hatran), ("hebr", hebrew), ("hebrew", hebrew), ("hira", hiragana),
   ("hiragana", hiragana), ("anatolianhieroglyphs", anatolianHieroglyphs),
   ("hluw", anatolianHieroglyphs), ("hmng", pahawhHmong), ("pahawhhmong", pahawhHmong),
   ("hmnp", nyiakengPuachueHmong), ("nyiakengpuachuehmong", nyiakengPuachueHmong),
   ("hung", oldHungarian), ("oldhungarian", oldHungarian), ("ital", oldItalic),
   ("olditalic", oldItalic), ("java", javanese), ("javanese", javanese), ("kali", kayahLi),
   ("kayahli", kayahLi), ("kana", katakana), ("katakana", katakana), ("kawi", kawi),
   ("khar", kharoshthi), ("kharoshthi", kharoshthi), ("khmer", khmer), ("khmr", khmer),
   ("khoj", khojki), ("khojki", khojki), ("khitansmallscript", khitanSmallScript),
   ("kits", khitanSmallScript), ("kannada", kannada), ("knda", kannada), ("kiratrai", kiratRai),
   ("krai", kiratRai), ("kaithi", kaithi), ("kthi", kaithi), ("lana", taiTham),
   ("taitham", taiTham), ("lao", lao), ("laoo", lao), ("latin", latin), ("latn", latin),
   ("lepc", lepcha), ("lepcha", lepcha), ("limb", limbu), ("limbu", limbu), ("lina", linearA),
   ("lineara", linearA), ("linb", linearB), ("linearb", linearB), ("lisu", lisu), ("lyci", lycian),
   ("lycian", lycian), ("lydi", lydian), ("lydian", lydian), ("mahajani", mahajani),
   ("mahj", mahajani), ("maka", makasar), ("makasar", makasar), ("mand", mandaic),
   ("mandaic", mandaic), ("mani", manichaean), ("manichaean", manichaean), ("marc", marchen),
   ("marchen", marchen), ("medefaidrin", medefaidrin), ("medf", medefaidrin),
   ("mend", mendeKikakui), ("mendekikakui", mendeKikakui), ("merc", meroiticCursive),
   ("meroiticcursive", meroiticCursive), ("mero", meroiticHieroglyphs),
   ("meroitichieroglyphs", meroiticHieroglyphs), ("malayalam", malayalam), ("mlym", malayalam),
   ("modi", modi), ("mong", mongolian), ("mongolian", mongolian), ("mro", mro), ("mroo", mro),
   ("meeteimayek", meeteiMayek), ("mtei", meeteiMayek), ("mult", multani), ("multani", multani),
   ("myanmar", myanmar), ("mymr", myanmar), ("nagm", nagMundari), ("nagmundari", nagMundari),
   ("nand", nandinagari), ("nandinagari", nandinagari), ("narb", oldNorthArabian),
   ("oldnortharabian", oldNorthArabian), ("nabataean", nabataean), ("nbat", nabataean),
   ("newa", newa), ("nko", nko), ("nkoo", nko), ("nshu", nushu), ("nushu", nushu), ("ogam", ogham),
   ("ogham", ogham), ("olchiki", olChiki), ("olck", olChiki), ("olonal", olOnal), ("onao", olOnal),
   ("oldturkic", oldTurkic), ("orkh", oldTurkic), ("oriya", oriya), ("orya", oriya),
   ("osage", osage), ("osge", osage), ("osma", osmanya), ("osmanya", osmanya),
   ("olduyghur", oldUyghur), ("ougr", oldUyghur), ("palm", palmyrene), ("palmyrene", palmyrene),
   ("pauc", pauCinHau), ("paucinhau", pauCinHau), ("oldpermic", oldPermic), ("perm", oldPermic),
   ("phag", phagsPa), ("phagspa", phagsPa), ("inscriptionalpahlavi", inscriptionalPahlavi),
   ("phli", inscriptionalPahlavi), ("phlp", psalterPahlavi), ("psalterpahlavi", psalterPahlavi),
   ("phnx", phoenician), ("phoenician", phoenician), ("miao", miao), ("plrd", miao),
   ("inscriptionalparthian", inscriptionalParthian), ("prti", inscriptionalParthian),
   ("rejang", rejang), ("rjng", rejang), ("hanifirohingya", hanifiRohingya),
   ("rohg", hanifiRohingya), ("runic", runic), ("runr", runic), ("samaritan", samaritan),
   ("samr", samaritan), ("oldsoutharabian", oldSouthArabian), ("sarb", oldSouthArabian),
   ("saur", saurashtra), ("saurashtra", saurashtra), ("sgnw", signwriting),
   ("signwriting", signwriting), ("shavian", shavian), ("shaw", shavian), ("sharada", sharada),
   ("shrd", sharada), ("sidd", siddham), ("siddham", siddham), ("khudawadi", khudawadi),
   ("sind", khudawadi), ("sinh", sinhala), ("sinhala", sinhala), ("sogd", sogdian),
   ("sogdian", sogdian), ("oldsogdian", oldSogdian), ("sogo", oldSogdian), ("sora", soraSompeng),
   ("sorasompeng", soraSompeng), ("soyo", soyombo), ("soyombo", soyombo), ("sund", sundanese),
   ("sundanese", sundanese), ("sunu", sunuwar), ("sunuwar", sunuwar), ("sylo", sylotiNagri),
   ("sylotinagri", sylotiNagri), ("syrc", syriac), ("syriac", syriac), ("tagb", tagbanwa),
   ("tagbanwa", tagbanwa), ("takr", takri), ("takri", takri), ("taile", taiLe), ("tale", taiLe),
   ("newtailue", newTaiLue), ("talu", newTaiLue), ("tamil", tamil), ("taml", tamil),
   ("tang", tangut), ("tangut", tangut), ("taiviet", taiViet), ("tavt", taiViet), ("telu", telugu),
   ("telugu", telugu), ("tfng", tifinagh), ("tifinagh", tifinagh), ("tagalog", tagalog),
   ("tglg", tagalog), ("thaa", thaana), ("thaana", thaana), ("thai", thai), ("tibetan", tibetan),
   ("tibt", tibetan), ("tirh", tirhuta), ("tirhuta", tirhuta), ("tangsa", tangsa), ("tnsa", tangsa),
   ("todhri", todhri), ("todr", todhri), ("toto", toto), ("tulutigalari", tuluTigalari),
   ("tutg", tuluTigalari), ("ugar", ugaritic), ("ugaritic", ugaritic), ("vai", vai), ("vaii", vai),
   ("vith", vithkuqi), ("vithkuqi", vithkuqi), ("wara", warangCiti), ("warangciti", warangCiti),
   ("wancho", wancho), ("wcho", wancho), ("oldpersian", oldPersian), ("xpeo", oldPersian),
   ("cuneiform", cuneiform), ("xsux", cuneiform), ("yezi", yezidi), ("yezidi", yezidi), ("yi", yi),
   ("yiii", yi), ("zanabazarsquare", zanabazarSquare), ("zanb", zanabazarSquare),
   ("inherited", inherited), ("qaai", inherited), ("zinh", inherited), ("common", common),
   ("zyyy", common)]

end ApiMock.Script
