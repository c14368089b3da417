/-!
# Scripts

The script that a character is written in, by the four letters of its ISO
code, and what fonts call it.  Characters that are used in many scripts, such
as digits, signs and marks, have none of their own.
-/

namespace Inkwell.Text

/-- The characters of each script, as inclusive ranges in increasing order.
Code points that are not assigned may lie in a range. -/
def scriptRanges : Array (Nat × Nat × String) :=
  #[(0x41, 0x5A, "Latn"), (0x61, 0x7A, "Latn"), (0xAA, 0xAA, "Latn"), (0xBA, 0xBA, "Latn"),
    (0xC0, 0xD6, "Latn"), (0xD8, 0xF6, "Latn"), (0xF8, 0x2B8, "Latn"), (0x2E0, 0x2E4, "Latn"),
    (0x2EA, 0x2EB, "Bopo"), (0x370, 0x373, "Grek"), (0x375, 0x37D, "Grek"),
    (0x37F, 0x384, "Grek"), (0x386, 0x386, "Grek"), (0x388, 0x3E1, "Grek"),
    (0x3E2, 0x3EF, "Copt"), (0x3F0, 0x3FF, "Grek"), (0x400, 0x484, "Cyrl"),
    (0x487, 0x52F, "Cyrl"), (0x531, 0x58F, "Armn"), (0x591, 0x5F4, "Hebr"),
    (0x600, 0x604, "Arab"), (0x606, 0x60B, "Arab"), (0x60D, 0x61A, "Arab"),
    (0x61C, 0x61E, "Arab"), (0x620, 0x63F, "Arab"), (0x641, 0x64A, "Arab"),
    (0x656, 0x66F, "Arab"), (0x671, 0x6DC, "Arab"), (0x6DE, 0x6FF, "Arab"),
    (0x700, 0x74F, "Syrc"), (0x750, 0x77F, "Arab"), (0x780, 0x7B1, "Thaa"),
    (0x7C0, 0x7FF, "Nkoo"), (0x800, 0x83E, "Samr"), (0x840, 0x85E, "Mand"),
    (0x860, 0x86A, "Syrc"), (0x870, 0x8E1, "Arab"), (0x8E3, 0x8FF, "Arab"),
    (0x900, 0x950, "Deva"), (0x955, 0x963, "Deva"), (0x966, 0x97F, "Deva"),
    (0x980, 0x9FE, "Beng"), (0xA01, 0xA76, "Guru"), (0xA81, 0xAFF, "Gujr"),
    (0xB01, 0xB77, "Orya"), (0xB82, 0xBFA, "Taml"), (0xC00, 0xC7F, "Telu"),
    (0xC80, 0xCF3, "Knda"), (0xD00, 0xD7F, "Mlym"), (0xD81, 0xDF4, "Sinh"),
    (0xE01, 0xE3A, "Thai"), (0xE40, 0xE5B, "Thai"), (0xE81, 0xEDF, "Laoo"),
    (0xF00, 0xFD4, "Tibt"), (0xFD9, 0xFDA, "Tibt"), (0x1000, 0x109F, "Mymr"),
    (0x10A0, 0x10FA, "Geor"), (0x10FC, 0x10FF, "Geor"), (0x1100, 0x11FF, "Hang"),
    (0x1200, 0x1399, "Ethi"), (0x13A0, 0x13FD, "Cher"), (0x1400, 0x167F, "Cans"),
    (0x1680, 0x169C, "Ogam"), (0x16A0, 0x16EA, "Runr"), (0x16EE, 0x16F8, "Runr"),
    (0x1700, 0x171F, "Tglg"), (0x1720, 0x1734, "Hano"), (0x1740, 0x1753, "Buhd"),
    (0x1760, 0x1773, "Tagb"), (0x1780, 0x17F9, "Khmr"), (0x1800, 0x1801, "Mong"),
    (0x1804, 0x1804, "Mong"), (0x1806, 0x18AA, "Mong"), (0x18B0, 0x18F5, "Cans"),
    (0x1900, 0x194F, "Limb"), (0x1950, 0x1974, "Tale"), (0x1980, 0x19DF, "Talu"),
    (0x19E0, 0x19FF, "Khmr"), (0x1A00, 0x1A1F, "Bugi"), (0x1A20, 0x1AAD, "Lana"),
    (0x1B00, 0x1B7E, "Bali"), (0x1B80, 0x1BBF, "Sund"), (0x1BC0, 0x1BFF, "Batk"),
    (0x1C00, 0x1C4F, "Lepc"), (0x1C50, 0x1C7F, "Olck"), (0x1C80, 0x1C88, "Cyrl"),
    (0x1C90, 0x1CBF, "Geor"), (0x1CC0, 0x1CC7, "Sund"), (0x1D00, 0x1D25, "Latn"),
    (0x1D26, 0x1D2A, "Grek"), (0x1D2B, 0x1D2B, "Cyrl"), (0x1D2C, 0x1D5C, "Latn"),
    (0x1D5D, 0x1D61, "Grek"), (0x1D62, 0x1D65, "Latn"), (0x1D66, 0x1D6A, "Grek"),
    (0x1D6B, 0x1D77, "Latn"), (0x1D78, 0x1D78, "Cyrl"), (0x1D79, 0x1DBE, "Latn"),
    (0x1DBF, 0x1DBF, "Grek"), (0x1E00, 0x1EFF, "Latn"), (0x1F00, 0x1FFE, "Grek"),
    (0x2071, 0x2071, "Latn"), (0x207F, 0x207F, "Latn"), (0x2090, 0x209C, "Latn"),
    (0x2126, 0x2126, "Grek"), (0x212A, 0x212B, "Latn"), (0x2132, 0x2132, "Latn"),
    (0x214E, 0x214E, "Latn"), (0x2160, 0x2188, "Latn"), (0x2800, 0x28FF, "Brai"),
    (0x2C00, 0x2C5F, "Glag"), (0x2C60, 0x2C7F, "Latn"), (0x2C80, 0x2CFF, "Copt"),
    (0x2D00, 0x2D2D, "Geor"), (0x2D30, 0x2D7F, "Tfng"), (0x2D80, 0x2DDE, "Ethi"),
    (0x2DE0, 0x2DFF, "Cyrl"), (0x2E80, 0x2FD5, "Hani"), (0x3005, 0x3005, "Hani"),
    (0x3007, 0x3007, "Hani"), (0x3021, 0x3029, "Hani"), (0x302E, 0x302F, "Hang"),
    (0x3038, 0x303B, "Hani"), (0x3041, 0x3096, "Hira"), (0x309D, 0x309F, "Hira"),
    (0x30A1, 0x30FA, "Kana"), (0x30FD, 0x30FF, "Kana"), (0x3105, 0x312F, "Bopo"),
    (0x3131, 0x318E, "Hang"), (0x31A0, 0x31BF, "Bopo"), (0x31F0, 0x31FF, "Kana"),
    (0x3200, 0x321E, "Hang"), (0x3260, 0x327E, "Hang"), (0x32D0, 0x32FE, "Kana"),
    (0x3300, 0x3357, "Kana"), (0x3400, 0x4DBF, "Hani"), (0x4E00, 0x9FFF, "Hani"),
    (0xA000, 0xA4C6, "Yiii"), (0xA4D0, 0xA4FF, "Lisu"), (0xA500, 0xA62B, "Vaii"),
    (0xA640, 0xA69F, "Cyrl"), (0xA6A0, 0xA6F7, "Bamu"), (0xA722, 0xA787, "Latn"),
    (0xA78B, 0xA7FF, "Latn"), (0xA800, 0xA82C, "Sylo"), (0xA840, 0xA877, "Phag"),
    (0xA880, 0xA8D9, "Saur"), (0xA8E0, 0xA8FF, "Deva"), (0xA900, 0xA92D, "Kali"),
    (0xA92F, 0xA92F, "Kali"), (0xA930, 0xA95F, "Rjng"), (0xA960, 0xA97C, "Hang"),
    (0xA980, 0xA9CD, "Java"), (0xA9D0, 0xA9DF, "Java"), (0xA9E0, 0xA9FE, "Mymr"),
    (0xAA00, 0xAA5F, "Cham"), (0xAA60, 0xAA7F, "Mymr"), (0xAA80, 0xAADF, "Tavt"),
    (0xAAE0, 0xAAF6, "Mtei"), (0xAB01, 0xAB2E, "Ethi"), (0xAB30, 0xAB5A, "Latn"),
    (0xAB5C, 0xAB64, "Latn"), (0xAB65, 0xAB65, "Grek"), (0xAB66, 0xAB69, "Latn"),
    (0xAB70, 0xABBF, "Cher"), (0xABC0, 0xABF9, "Mtei"), (0xAC00, 0xD7FB, "Hang"),
    (0xF900, 0xFAD9, "Hani"), (0xFB00, 0xFB06, "Latn"), (0xFB13, 0xFB17, "Armn"),
    (0xFB1D, 0xFB4F, "Hebr"), (0xFB50, 0xFD3D, "Arab"), (0xFD40, 0xFDFF, "Arab"),
    (0xFE2E, 0xFE2F, "Cyrl"), (0xFE70, 0xFEFC, "Arab"), (0xFF21, 0xFF3A, "Latn"),
    (0xFF41, 0xFF5A, "Latn"), (0xFF66, 0xFF6F, "Kana"), (0xFF71, 0xFF9D, "Kana"),
    (0xFFA0, 0xFFDC, "Hang"), (0x10000, 0x100FA, "Linb"), (0x10140, 0x1018E, "Grek"),
    (0x101A0, 0x101A0, "Grek"), (0x10280, 0x1029C, "Lyci"), (0x102A0, 0x102D0, "Cari"),
    (0x10300, 0x1032F, "Ital"), (0x10330, 0x1034A, "Goth"), (0x10350, 0x1037A, "Perm"),
    (0x10380, 0x1039F, "Ugar"), (0x103A0, 0x103D5, "Xpeo"), (0x10400, 0x1044F, "Dsrt"),
    (0x10450, 0x1047F, "Shaw"), (0x10480, 0x104A9, "Osma"), (0x104B0, 0x104FB, "Osge"),
    (0x10500, 0x10527, "Elba"), (0x10530, 0x1056F, "Aghb"), (0x10570, 0x105BC, "Vith"),
    (0x10600, 0x10767, "Lina"), (0x10780, 0x107BA, "Latn"), (0x10800, 0x1083F, "Cprt"),
    (0x10840, 0x1085F, "Armi"), (0x10860, 0x1087F, "Palm"), (0x10880, 0x108AF, "Nbat"),
    (0x108E0, 0x108FF, "Hatr"), (0x10900, 0x1091F, "Phnx"), (0x10920, 0x1093F, "Lydi"),
    (0x10980, 0x1099F, "Mero"), (0x109A0, 0x109FF, "Merc"), (0x10A00, 0x10A58, "Khar"),
    (0x10A60, 0x10A7F, "Sarb"), (0x10A80, 0x10A9F, "Narb"), (0x10AC0, 0x10AF6, "Mani"),
    (0x10B00, 0x10B3F, "Avst"), (0x10B40, 0x10B5F, "Prti"), (0x10B60, 0x10B7F, "Phli"),
    (0x10B80, 0x10BAF, "Phlp"), (0x10C00, 0x10C48, "Orkh"), (0x10C80, 0x10CFF, "Hung"),
    (0x10D00, 0x10D39, "Rohg"), (0x10E60, 0x10E7E, "Arab"), (0x10E80, 0x10EB1, "Yezi"),
    (0x10EFD, 0x10EFF, "Arab"), (0x10F00, 0x10F27, "Sogo"), (0x10F30, 0x10F59, "Sogd"),
    (0x10F70, 0x10F89, "Ougr"), (0x10FB0, 0x10FCB, "Chrs"), (0x10FE0, 0x10FF6, "Elym"),
    (0x11000, 0x1107F, "Brah"), (0x11080, 0x110CD, "Kthi"), (0x110D0, 0x110F9, "Sora"),
    (0x11100, 0x11147, "Cakm"), (0x11150, 0x11176, "Mahj"), (0x11180, 0x111DF, "Shrd"),
    (0x111E1, 0x111F4, "Sinh"), (0x11200, 0x11241, "Khoj"), (0x11280, 0x112A9, "Mult"),
    (0x112B0, 0x112F9, "Sind"), (0x11300, 0x11339, "Gran"), (0x1133C, 0x11374, "Gran"),
    (0x11400, 0x11461, "Newa"), (0x11480, 0x114D9, "Tirh"), (0x11580, 0x115DD, "Sidd"),
    (0x11600, 0x11659, "Modi"), (0x11660, 0x1166C, "Mong"), (0x11680, 0x116C9, "Takr"),
    (0x11700, 0x11746, "Ahom"), (0x11800, 0x1183B, "Dogr"), (0x118A0, 0x118FF, "Wara"),
    (0x11900, 0x11959, "Diak"), (0x119A0, 0x119E4, "Nand"), (0x11A00, 0x11A47, "Zanb"),
    (0x11A50, 0x11AA2, "Soyo"), (0x11AB0, 0x11ABF, "Cans"), (0x11AC0, 0x11AF8, "Pauc"),
    (0x11B00, 0x11B09, "Deva"), (0x11C00, 0x11C6C, "Bhks"), (0x11C70, 0x11CB6, "Marc"),
    (0x11D00, 0x11D59, "Gonm"), (0x11D60, 0x11DA9, "Gong"), (0x11EE0, 0x11EF8, "Maka"),
    (0x11F00, 0x11F59, "Kawi"), (0x11FB0, 0x11FB0, "Lisu"), (0x11FC0, 0x11FFF, "Taml"),
    (0x12000, 0x12543, "Xsux"), (0x12F90, 0x12FF2, "Cpmn"), (0x13000, 0x13455, "Egyp"),
    (0x14400, 0x14646, "Hluw"), (0x16800, 0x16A38, "Bamu"), (0x16A40, 0x16A6F, "Mroo"),
    (0x16A70, 0x16AC9, "Tnsa"), (0x16AD0, 0x16AF5, "Bass"), (0x16B00, 0x16B8F, "Hmng"),
    (0x16E40, 0x16E9A, "Medf"), (0x16F00, 0x16F9F, "Plrd"), (0x16FE0, 0x16FE0, "Tang"),
    (0x16FE1, 0x16FE1, "Nshu"), (0x16FE2, 0x16FE3, "Hani"), (0x16FE4, 0x16FE4, "Kits"),
    (0x16FF0, 0x16FF1, "Hani"), (0x17000, 0x18AFF, "Tang"), (0x18B00, 0x18CD5, "Kits"),
    (0x18D00, 0x18D08, "Tang"), (0x1AFF0, 0x1B000, "Kana"), (0x1B001, 0x1B11F, "Hira"),
    (0x1B120, 0x1B122, "Kana"), (0x1B132, 0x1B152, "Hira"), (0x1B155, 0x1B167, "Kana"),
    (0x1B170, 0x1B2FB, "Nshu"), (0x1BC00, 0x1BC9F, "Dupl"), (0x1D200, 0x1D245, "Grek"),
    (0x1D800, 0x1DAAF, "Sgnw"), (0x1DF00, 0x1DF2A, "Latn"), (0x1E000, 0x1E02A, "Glag"),
    (0x1E030, 0x1E08F, "Cyrl"), (0x1E100, 0x1E14F, "Hmnp"), (0x1E290, 0x1E2AE, "Toto"),
    (0x1E2C0, 0x1E2FF, "Wcho"), (0x1E4D0, 0x1E4F9, "Nagm"), (0x1E7E0, 0x1E7FE, "Ethi"),
    (0x1E800, 0x1E8D6, "Mend"), (0x1E900, 0x1E95F, "Adlm"), (0x1EE00, 0x1EEF1, "Arab"),
    (0x1F200, 0x1F200, "Hira"), (0x20000, 0x323AF, "Hani")]

/-- The script of a character. -/
def scriptOf? (c : Char) : Option String :=
  (scriptRanges.find? fun range =>
    range.1 ≤ c.toNat && c.toNat ≤ range.2.1).map (·.2.2)

/-- The script of a text: that of the first character that has one. -/
def scriptOfText? (text : List Char) : Option String := text.findSome? scriptOf?

/-- The scripts that are written from right to left. -/
def rightToLeft : List String :=
  ["Arab", "Hebr", "Syrc", "Thaa", "Cprt", "Khar", "Phnx", "Nkoo", "Lydi",
    "Avst", "Armi", "Phli", "Prti", "Sarb", "Orkh", "Samr", "Mand", "Merc",
    "Mero", "Mani", "Mend", "Nbat", "Narb", "Palm", "Phlp", "Hatr", "Adlm",
    "Rohg", "Sogo", "Sogd", "Elym", "Chrs", "Yezi", "Ougr"]

/-- The newer of two names that fonts have for some scripts. -/
def newerTag? : String → Option String
  | "Beng" => some "bng2"
  | "Deva" => some "dev2"
  | "Gujr" => some "gjr2"
  | "Guru" => some "gur2"
  | "Knda" => some "knd2"
  | "Mlym" => some "mlm2"
  | "Mymr" => some "mym2"
  | "Orya" => some "ory2"
  | "Taml" => some "tml2"
  | "Telu" => some "tel2"
  | _ => none

/-- The name that fonts have for a script: its code in lower case, with some
exceptions. -/
def plainTag (script : String) : String :=
  match script with
  | "Hira" => "kana"
  | "Laoo" => "lao "
  | "Nkoo" => "nko "
  | "Vaii" => "vai "
  | "Yiii" => "yi  "
  | code => String.ofList (code.toList.map Char.toLower)

/-- The names that fonts may have for a script, the best one first. -/
def scriptTags (script : String) : List String :=
  match newerTag? script with
  | none => [plainTag script]
  | some "mym2" => ["mym2", plainTag script]
  | some tag =>
      [String.ofList (tag.toList.take 3 ++ ['3']), tag, plainTag script]

end Inkwell.Text
