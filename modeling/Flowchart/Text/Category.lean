set_option autoImplicit false

/-! # General categories

The general categories of characters that matter for names, in version 17 of the character
database, as an ascending list of closed ranges of code points. The five categories of letters count
as one. -/

namespace Flowchart.Text

/-- A general category, by its short name in the character database. -/
inductive Category where
  /-- Letters of any kind: `Lu`, `Ll`, `Lt`, `Lm` and `Lo`. -/
  | L
  /-- Letters that stand for numbers. -/
  | Nl
  /-- Decimal digits. -/
  | Nd
  /-- Other numbers, such as fractions and superscripts. -/
  | No
  /-- Marks that take no space of their own. -/
  | Mn
  /-- Marks that take space. -/
  | Mc
  /-- Connector punctuation. -/
  | Pc
  /-- Currency symbols. -/
  | Sc
  /-- Format characters. -/
  | Cf
  /-- Other symbols, such as circled letters. -/
  | So
  /-- Everything else. -/
  | other
deriving DecidableEq, Repr

/-- The category of a code point in a list of ranges; the ranges ascend, so the search stops at the
    first one that does not end before it. -/
def categoryIn (n : Nat) : List (Nat × Nat × Category) → Category
  | [] => .other
  | (first, last, category) :: rest =>
    if last < n then categoryIn n rest else if first ≤ n then category else .other

/-- The characters below U+10000 with a category of their own. -/
def basicRanges : List (Nat × Nat × Category) := [
  (0x24, 0x24, .Sc), (0x30, 0x39, .Nd), (0x41, 0x5A, .L), (0x5F, 0x5F, .Pc), (0x61, 0x7A, .L),
  (0xA2, 0xA5, .Sc), (0xA6, 0xA6, .So), (0xA9, 0xA9, .So), (0xAA, 0xAA, .L), (0xAD, 0xAD, .Cf),
  (0xAE, 0xAE, .So), (0xB0, 0xB0, .So), (0xB2, 0xB3, .No), (0xB5, 0xB5, .L), (0xB9, 0xB9, .No),
  (0xBA, 0xBA, .L), (0xBC, 0xBE, .No), (0xC0, 0xD6, .L), (0xD8, 0xF6, .L), (0xF8, 0x2C1, .L),
  (0x2C6, 0x2D1, .L), (0x2E0, 0x2E4, .L), (0x2EC, 0x2EC, .L), (0x2EE, 0x2EE, .L),
  (0x300, 0x36F, .Mn), (0x370, 0x374, .L), (0x376, 0x377, .L), (0x37A, 0x37D, .L),
  (0x37F, 0x37F, .L), (0x386, 0x386, .L), (0x388, 0x38A, .L), (0x38C, 0x38C, .L),
  (0x38E, 0x3A1, .L), (0x3A3, 0x3F5, .L), (0x3F7, 0x481, .L), (0x482, 0x482, .So),
  (0x483, 0x487, .Mn), (0x48A, 0x52F, .L), (0x531, 0x556, .L), (0x559, 0x559, .L),
  (0x560, 0x588, .L), (0x58D, 0x58E, .So), (0x58F, 0x58F, .Sc), (0x591, 0x5BD, .Mn),
  (0x5BF, 0x5BF, .Mn), (0x5C1, 0x5C2, .Mn), (0x5C4, 0x5C5, .Mn), (0x5C7, 0x5C7, .Mn),
  (0x5D0, 0x5EA, .L), (0x5EF, 0x5F2, .L), (0x600, 0x605, .Cf), (0x60B, 0x60B, .Sc),
  (0x60E, 0x60F, .So), (0x610, 0x61A, .Mn), (0x61C, 0x61C, .Cf), (0x620, 0x64A, .L),
  (0x64B, 0x65F, .Mn), (0x660, 0x669, .Nd), (0x66E, 0x66F, .L), (0x670, 0x670, .Mn),
  (0x671, 0x6D3, .L), (0x6D5, 0x6D5, .L), (0x6D6, 0x6DC, .Mn), (0x6DD, 0x6DD, .Cf),
  (0x6DE, 0x6DE, .So), (0x6DF, 0x6E4, .Mn), (0x6E5, 0x6E6, .L), (0x6E7, 0x6E8, .Mn),
  (0x6E9, 0x6E9, .So), (0x6EA, 0x6ED, .Mn), (0x6EE, 0x6EF, .L), (0x6F0, 0x6F9, .Nd),
  (0x6FA, 0x6FC, .L), (0x6FD, 0x6FE, .So), (0x6FF, 0x6FF, .L), (0x70F, 0x70F, .Cf),
  (0x710, 0x710, .L), (0x711, 0x711, .Mn), (0x712, 0x72F, .L), (0x730, 0x74A, .Mn),
  (0x74D, 0x7A5, .L), (0x7A6, 0x7B0, .Mn), (0x7B1, 0x7B1, .L), (0x7C0, 0x7C9, .Nd),
  (0x7CA, 0x7EA, .L), (0x7EB, 0x7F3, .Mn), (0x7F4, 0x7F5, .L), (0x7F6, 0x7F6, .So),
  (0x7FA, 0x7FA, .L), (0x7FD, 0x7FD, .Mn), (0x7FE, 0x7FF, .Sc), (0x800, 0x815, .L),
  (0x816, 0x819, .Mn), (0x81A, 0x81A, .L), (0x81B, 0x823, .Mn), (0x824, 0x824, .L),
  (0x825, 0x827, .Mn), (0x828, 0x828, .L), (0x829, 0x82D, .Mn), (0x840, 0x858, .L),
  (0x859, 0x85B, .Mn), (0x860, 0x86A, .L), (0x870, 0x887, .L), (0x889, 0x88F, .L),
  (0x890, 0x891, .Cf), (0x897, 0x89F, .Mn), (0x8A0, 0x8C9, .L), (0x8CA, 0x8E1, .Mn),
  (0x8E2, 0x8E2, .Cf), (0x8E3, 0x902, .Mn), (0x903, 0x903, .Mc), (0x904, 0x939, .L),
  (0x93A, 0x93A, .Mn), (0x93B, 0x93B, .Mc), (0x93C, 0x93C, .Mn), (0x93D, 0x93D, .L),
  (0x93E, 0x940, .Mc), (0x941, 0x948, .Mn), (0x949, 0x94C, .Mc), (0x94D, 0x94D, .Mn),
  (0x94E, 0x94F, .Mc), (0x950, 0x950, .L), (0x951, 0x957, .Mn), (0x958, 0x961, .L),
  (0x962, 0x963, .Mn), (0x966, 0x96F, .Nd), (0x971, 0x980, .L), (0x981, 0x981, .Mn),
  (0x982, 0x983, .Mc), (0x985, 0x98C, .L), (0x98F, 0x990, .L), (0x993, 0x9A8, .L),
  (0x9AA, 0x9B0, .L), (0x9B2, 0x9B2, .L), (0x9B6, 0x9B9, .L), (0x9BC, 0x9BC, .Mn),
  (0x9BD, 0x9BD, .L), (0x9BE, 0x9C0, .Mc), (0x9C1, 0x9C4, .Mn), (0x9C7, 0x9C8, .Mc),
  (0x9CB, 0x9CC, .Mc), (0x9CD, 0x9CD, .Mn), (0x9CE, 0x9CE, .L), (0x9D7, 0x9D7, .Mc),
  (0x9DC, 0x9DD, .L), (0x9DF, 0x9E1, .L), (0x9E2, 0x9E3, .Mn), (0x9E6, 0x9EF, .Nd),
  (0x9F0, 0x9F1, .L), (0x9F2, 0x9F3, .Sc), (0x9F4, 0x9F9, .No), (0x9FA, 0x9FA, .So),
  (0x9FB, 0x9FB, .Sc), (0x9FC, 0x9FC, .L), (0x9FE, 0x9FE, .Mn), (0xA01, 0xA02, .Mn),
  (0xA03, 0xA03, .Mc), (0xA05, 0xA0A, .L), (0xA0F, 0xA10, .L), (0xA13, 0xA28, .L),
  (0xA2A, 0xA30, .L), (0xA32, 0xA33, .L), (0xA35, 0xA36, .L), (0xA38, 0xA39, .L),
  (0xA3C, 0xA3C, .Mn), (0xA3E, 0xA40, .Mc), (0xA41, 0xA42, .Mn), (0xA47, 0xA48, .Mn),
  (0xA4B, 0xA4D, .Mn), (0xA51, 0xA51, .Mn), (0xA59, 0xA5C, .L), (0xA5E, 0xA5E, .L),
  (0xA66, 0xA6F, .Nd), (0xA70, 0xA71, .Mn), (0xA72, 0xA74, .L), (0xA75, 0xA75, .Mn),
  (0xA81, 0xA82, .Mn), (0xA83, 0xA83, .Mc), (0xA85, 0xA8D, .L), (0xA8F, 0xA91, .L),
  (0xA93, 0xAA8, .L), (0xAAA, 0xAB0, .L), (0xAB2, 0xAB3, .L), (0xAB5, 0xAB9, .L),
  (0xABC, 0xABC, .Mn), (0xABD, 0xABD, .L), (0xABE, 0xAC0, .Mc), (0xAC1, 0xAC5, .Mn),
  (0xAC7, 0xAC8, .Mn), (0xAC9, 0xAC9, .Mc), (0xACB, 0xACC, .Mc), (0xACD, 0xACD, .Mn),
  (0xAD0, 0xAD0, .L), (0xAE0, 0xAE1, .L), (0xAE2, 0xAE3, .Mn), (0xAE6, 0xAEF, .Nd),
  (0xAF1, 0xAF1, .Sc), (0xAF9, 0xAF9, .L), (0xAFA, 0xAFF, .Mn), (0xB01, 0xB01, .Mn),
  (0xB02, 0xB03, .Mc), (0xB05, 0xB0C, .L), (0xB0F, 0xB10, .L), (0xB13, 0xB28, .L),
  (0xB2A, 0xB30, .L), (0xB32, 0xB33, .L), (0xB35, 0xB39, .L), (0xB3C, 0xB3C, .Mn),
  (0xB3D, 0xB3D, .L), (0xB3E, 0xB3E, .Mc), (0xB3F, 0xB3F, .Mn), (0xB40, 0xB40, .Mc),
  (0xB41, 0xB44, .Mn), (0xB47, 0xB48, .Mc), (0xB4B, 0xB4C, .Mc), (0xB4D, 0xB4D, .Mn),
  (0xB55, 0xB56, .Mn), (0xB57, 0xB57, .Mc), (0xB5C, 0xB5D, .L), (0xB5F, 0xB61, .L),
  (0xB62, 0xB63, .Mn), (0xB66, 0xB6F, .Nd), (0xB70, 0xB70, .So), (0xB71, 0xB71, .L),
  (0xB72, 0xB77, .No), (0xB82, 0xB82, .Mn), (0xB83, 0xB83, .L), (0xB85, 0xB8A, .L),
  (0xB8E, 0xB90, .L), (0xB92, 0xB95, .L), (0xB99, 0xB9A, .L), (0xB9C, 0xB9C, .L),
  (0xB9E, 0xB9F, .L), (0xBA3, 0xBA4, .L), (0xBA8, 0xBAA, .L), (0xBAE, 0xBB9, .L),
  (0xBBE, 0xBBF, .Mc), (0xBC0, 0xBC0, .Mn), (0xBC1, 0xBC2, .Mc), (0xBC6, 0xBC8, .Mc),
  (0xBCA, 0xBCC, .Mc), (0xBCD, 0xBCD, .Mn), (0xBD0, 0xBD0, .L), (0xBD7, 0xBD7, .Mc),
  (0xBE6, 0xBEF, .Nd), (0xBF0, 0xBF2, .No), (0xBF3, 0xBF8, .So), (0xBF9, 0xBF9, .Sc),
  (0xBFA, 0xBFA, .So), (0xC00, 0xC00, .Mn), (0xC01, 0xC03, .Mc), (0xC04, 0xC04, .Mn),
  (0xC05, 0xC0C, .L), (0xC0E, 0xC10, .L), (0xC12, 0xC28, .L), (0xC2A, 0xC39, .L),
  (0xC3C, 0xC3C, .Mn), (0xC3D, 0xC3D, .L), (0xC3E, 0xC40, .Mn), (0xC41, 0xC44, .Mc),
  (0xC46, 0xC48, .Mn), (0xC4A, 0xC4D, .Mn), (0xC55, 0xC56, .Mn), (0xC58, 0xC5A, .L),
  (0xC5C, 0xC5D, .L), (0xC60, 0xC61, .L), (0xC62, 0xC63, .Mn), (0xC66, 0xC6F, .Nd),
  (0xC78, 0xC7E, .No), (0xC7F, 0xC7F, .So), (0xC80, 0xC80, .L), (0xC81, 0xC81, .Mn),
  (0xC82, 0xC83, .Mc), (0xC85, 0xC8C, .L), (0xC8E, 0xC90, .L), (0xC92, 0xCA8, .L),
  (0xCAA, 0xCB3, .L), (0xCB5, 0xCB9, .L), (0xCBC, 0xCBC, .Mn), (0xCBD, 0xCBD, .L),
  (0xCBE, 0xCBE, .Mc), (0xCBF, 0xCBF, .Mn), (0xCC0, 0xCC4, .Mc), (0xCC6, 0xCC6, .Mn),
  (0xCC7, 0xCC8, .Mc), (0xCCA, 0xCCB, .Mc), (0xCCC, 0xCCD, .Mn), (0xCD5, 0xCD6, .Mc),
  (0xCDC, 0xCDE, .L), (0xCE0, 0xCE1, .L), (0xCE2, 0xCE3, .Mn), (0xCE6, 0xCEF, .Nd),
  (0xCF1, 0xCF2, .L), (0xCF3, 0xCF3, .Mc), (0xD00, 0xD01, .Mn), (0xD02, 0xD03, .Mc),
  (0xD04, 0xD0C, .L), (0xD0E, 0xD10, .L), (0xD12, 0xD3A, .L), (0xD3B, 0xD3C, .Mn),
  (0xD3D, 0xD3D, .L), (0xD3E, 0xD40, .Mc), (0xD41, 0xD44, .Mn), (0xD46, 0xD48, .Mc),
  (0xD4A, 0xD4C, .Mc), (0xD4D, 0xD4D, .Mn), (0xD4E, 0xD4E, .L), (0xD4F, 0xD4F, .So),
  (0xD54, 0xD56, .L), (0xD57, 0xD57, .Mc), (0xD58, 0xD5E, .No), (0xD5F, 0xD61, .L),
  (0xD62, 0xD63, .Mn), (0xD66, 0xD6F, .Nd), (0xD70, 0xD78, .No), (0xD79, 0xD79, .So),
  (0xD7A, 0xD7F, .L), (0xD81, 0xD81, .Mn), (0xD82, 0xD83, .Mc), (0xD85, 0xD96, .L),
  (0xD9A, 0xDB1, .L), (0xDB3, 0xDBB, .L), (0xDBD, 0xDBD, .L), (0xDC0, 0xDC6, .L),
  (0xDCA, 0xDCA, .Mn), (0xDCF, 0xDD1, .Mc), (0xDD2, 0xDD4, .Mn), (0xDD6, 0xDD6, .Mn),
  (0xDD8, 0xDDF, .Mc), (0xDE6, 0xDEF, .Nd), (0xDF2, 0xDF3, .Mc), (0xE01, 0xE30, .L),
  (0xE31, 0xE31, .Mn), (0xE32, 0xE33, .L), (0xE34, 0xE3A, .Mn), (0xE3F, 0xE3F, .Sc),
  (0xE40, 0xE46, .L), (0xE47, 0xE4E, .Mn), (0xE50, 0xE59, .Nd), (0xE81, 0xE82, .L),
  (0xE84, 0xE84, .L), (0xE86, 0xE8A, .L), (0xE8C, 0xEA3, .L), (0xEA5, 0xEA5, .L),
  (0xEA7, 0xEB0, .L), (0xEB1, 0xEB1, .Mn), (0xEB2, 0xEB3, .L), (0xEB4, 0xEBC, .Mn),
  (0xEBD, 0xEBD, .L), (0xEC0, 0xEC4, .L), (0xEC6, 0xEC6, .L), (0xEC8, 0xECE, .Mn),
  (0xED0, 0xED9, .Nd), (0xEDC, 0xEDF, .L), (0xF00, 0xF00, .L), (0xF01, 0xF03, .So),
  (0xF13, 0xF13, .So), (0xF15, 0xF17, .So), (0xF18, 0xF19, .Mn), (0xF1A, 0xF1F, .So),
  (0xF20, 0xF29, .Nd), (0xF2A, 0xF33, .No), (0xF34, 0xF34, .So), (0xF35, 0xF35, .Mn),
  (0xF36, 0xF36, .So), (0xF37, 0xF37, .Mn), (0xF38, 0xF38, .So), (0xF39, 0xF39, .Mn),
  (0xF3E, 0xF3F, .Mc), (0xF40, 0xF47, .L), (0xF49, 0xF6C, .L), (0xF71, 0xF7E, .Mn),
  (0xF7F, 0xF7F, .Mc), (0xF80, 0xF84, .Mn), (0xF86, 0xF87, .Mn), (0xF88, 0xF8C, .L),
  (0xF8D, 0xF97, .Mn), (0xF99, 0xFBC, .Mn), (0xFBE, 0xFC5, .So), (0xFC6, 0xFC6, .Mn),
  (0xFC7, 0xFCC, .So), (0xFCE, 0xFCF, .So), (0xFD5, 0xFD8, .So), (0x1000, 0x102A, .L),
  (0x102B, 0x102C, .Mc), (0x102D, 0x1030, .Mn), (0x1031, 0x1031, .Mc), (0x1032, 0x1037, .Mn),
  (0x1038, 0x1038, .Mc), (0x1039, 0x103A, .Mn), (0x103B, 0x103C, .Mc), (0x103D, 0x103E, .Mn),
  (0x103F, 0x103F, .L), (0x1040, 0x1049, .Nd), (0x1050, 0x1055, .L), (0x1056, 0x1057, .Mc),
  (0x1058, 0x1059, .Mn), (0x105A, 0x105D, .L), (0x105E, 0x1060, .Mn), (0x1061, 0x1061, .L),
  (0x1062, 0x1064, .Mc), (0x1065, 0x1066, .L), (0x1067, 0x106D, .Mc), (0x106E, 0x1070, .L),
  (0x1071, 0x1074, .Mn), (0x1075, 0x1081, .L), (0x1082, 0x1082, .Mn), (0x1083, 0x1084, .Mc),
  (0x1085, 0x1086, .Mn), (0x1087, 0x108C, .Mc), (0x108D, 0x108D, .Mn), (0x108E, 0x108E, .L),
  (0x108F, 0x108F, .Mc), (0x1090, 0x1099, .Nd), (0x109A, 0x109C, .Mc), (0x109D, 0x109D, .Mn),
  (0x109E, 0x109F, .So), (0x10A0, 0x10C5, .L), (0x10C7, 0x10C7, .L), (0x10CD, 0x10CD, .L),
  (0x10D0, 0x10FA, .L), (0x10FC, 0x1248, .L), (0x124A, 0x124D, .L), (0x1250, 0x1256, .L),
  (0x1258, 0x1258, .L), (0x125A, 0x125D, .L), (0x1260, 0x1288, .L), (0x128A, 0x128D, .L),
  (0x1290, 0x12B0, .L), (0x12B2, 0x12B5, .L), (0x12B8, 0x12BE, .L), (0x12C0, 0x12C0, .L),
  (0x12C2, 0x12C5, .L), (0x12C8, 0x12D6, .L), (0x12D8, 0x1310, .L), (0x1312, 0x1315, .L),
  (0x1318, 0x135A, .L), (0x135D, 0x135F, .Mn), (0x1369, 0x137C, .No), (0x1380, 0x138F, .L),
  (0x1390, 0x1399, .So), (0x13A0, 0x13F5, .L), (0x13F8, 0x13FD, .L), (0x1401, 0x166C, .L),
  (0x166D, 0x166D, .So), (0x166F, 0x167F, .L), (0x1681, 0x169A, .L), (0x16A0, 0x16EA, .L),
  (0x16EE, 0x16F0, .Nl), (0x16F1, 0x16F8, .L), (0x1700, 0x1711, .L), (0x1712, 0x1714, .Mn),
  (0x1715, 0x1715, .Mc), (0x171F, 0x1731, .L), (0x1732, 0x1733, .Mn), (0x1734, 0x1734, .Mc),
  (0x1740, 0x1751, .L), (0x1752, 0x1753, .Mn), (0x1760, 0x176C, .L), (0x176E, 0x1770, .L),
  (0x1772, 0x1773, .Mn), (0x1780, 0x17B3, .L), (0x17B4, 0x17B5, .Mn), (0x17B6, 0x17B6, .Mc),
  (0x17B7, 0x17BD, .Mn), (0x17BE, 0x17C5, .Mc), (0x17C6, 0x17C6, .Mn), (0x17C7, 0x17C8, .Mc),
  (0x17C9, 0x17D3, .Mn), (0x17D7, 0x17D7, .L), (0x17DB, 0x17DB, .Sc), (0x17DC, 0x17DC, .L),
  (0x17DD, 0x17DD, .Mn), (0x17E0, 0x17E9, .Nd), (0x17F0, 0x17F9, .No), (0x180B, 0x180D, .Mn),
  (0x180E, 0x180E, .Cf), (0x180F, 0x180F, .Mn), (0x1810, 0x1819, .Nd), (0x1820, 0x1878, .L),
  (0x1880, 0x1884, .L), (0x1885, 0x1886, .Mn), (0x1887, 0x18A8, .L), (0x18A9, 0x18A9, .Mn),
  (0x18AA, 0x18AA, .L), (0x18B0, 0x18F5, .L), (0x1900, 0x191E, .L), (0x1920, 0x1922, .Mn),
  (0x1923, 0x1926, .Mc), (0x1927, 0x1928, .Mn), (0x1929, 0x192B, .Mc), (0x1930, 0x1931, .Mc),
  (0x1932, 0x1932, .Mn), (0x1933, 0x1938, .Mc), (0x1939, 0x193B, .Mn), (0x1940, 0x1940, .So),
  (0x1946, 0x194F, .Nd), (0x1950, 0x196D, .L), (0x1970, 0x1974, .L), (0x1980, 0x19AB, .L),
  (0x19B0, 0x19C9, .L), (0x19D0, 0x19D9, .Nd), (0x19DA, 0x19DA, .No), (0x19DE, 0x19FF, .So),
  (0x1A00, 0x1A16, .L), (0x1A17, 0x1A18, .Mn), (0x1A19, 0x1A1A, .Mc), (0x1A1B, 0x1A1B, .Mn),
  (0x1A20, 0x1A54, .L), (0x1A55, 0x1A55, .Mc), (0x1A56, 0x1A56, .Mn), (0x1A57, 0x1A57, .Mc),
  (0x1A58, 0x1A5E, .Mn), (0x1A60, 0x1A60, .Mn), (0x1A61, 0x1A61, .Mc), (0x1A62, 0x1A62, .Mn),
  (0x1A63, 0x1A64, .Mc), (0x1A65, 0x1A6C, .Mn), (0x1A6D, 0x1A72, .Mc), (0x1A73, 0x1A7C, .Mn),
  (0x1A7F, 0x1A7F, .Mn), (0x1A80, 0x1A89, .Nd), (0x1A90, 0x1A99, .Nd), (0x1AA7, 0x1AA7, .L),
  (0x1AB0, 0x1ABD, .Mn), (0x1ABF, 0x1ADD, .Mn), (0x1AE0, 0x1AEB, .Mn), (0x1B00, 0x1B03, .Mn),
  (0x1B04, 0x1B04, .Mc), (0x1B05, 0x1B33, .L), (0x1B34, 0x1B34, .Mn), (0x1B35, 0x1B35, .Mc),
  (0x1B36, 0x1B3A, .Mn), (0x1B3B, 0x1B3B, .Mc), (0x1B3C, 0x1B3C, .Mn), (0x1B3D, 0x1B41, .Mc),
  (0x1B42, 0x1B42, .Mn), (0x1B43, 0x1B44, .Mc), (0x1B45, 0x1B4C, .L), (0x1B50, 0x1B59, .Nd),
  (0x1B61, 0x1B6A, .So), (0x1B6B, 0x1B73, .Mn), (0x1B74, 0x1B7C, .So), (0x1B80, 0x1B81, .Mn),
  (0x1B82, 0x1B82, .Mc), (0x1B83, 0x1BA0, .L), (0x1BA1, 0x1BA1, .Mc), (0x1BA2, 0x1BA5, .Mn),
  (0x1BA6, 0x1BA7, .Mc), (0x1BA8, 0x1BA9, .Mn), (0x1BAA, 0x1BAA, .Mc), (0x1BAB, 0x1BAD, .Mn),
  (0x1BAE, 0x1BAF, .L), (0x1BB0, 0x1BB9, .Nd), (0x1BBA, 0x1BE5, .L), (0x1BE6, 0x1BE6, .Mn),
  (0x1BE7, 0x1BE7, .Mc), (0x1BE8, 0x1BE9, .Mn), (0x1BEA, 0x1BEC, .Mc), (0x1BED, 0x1BED, .Mn),
  (0x1BEE, 0x1BEE, .Mc), (0x1BEF, 0x1BF1, .Mn), (0x1BF2, 0x1BF3, .Mc), (0x1C00, 0x1C23, .L),
  (0x1C24, 0x1C2B, .Mc), (0x1C2C, 0x1C33, .Mn), (0x1C34, 0x1C35, .Mc), (0x1C36, 0x1C37, .Mn),
  (0x1C40, 0x1C49, .Nd), (0x1C4D, 0x1C4F, .L), (0x1C50, 0x1C59, .Nd), (0x1C5A, 0x1C7D, .L),
  (0x1C80, 0x1C8A, .L), (0x1C90, 0x1CBA, .L), (0x1CBD, 0x1CBF, .L), (0x1CD0, 0x1CD2, .Mn),
  (0x1CD4, 0x1CE0, .Mn), (0x1CE1, 0x1CE1, .Mc), (0x1CE2, 0x1CE8, .Mn), (0x1CE9, 0x1CEC, .L),
  (0x1CED, 0x1CED, .Mn), (0x1CEE, 0x1CF3, .L), (0x1CF4, 0x1CF4, .Mn), (0x1CF5, 0x1CF6, .L),
  (0x1CF7, 0x1CF7, .Mc), (0x1CF8, 0x1CF9, .Mn), (0x1CFA, 0x1CFA, .L), (0x1D00, 0x1DBF, .L),
  (0x1DC0, 0x1DFF, .Mn), (0x1E00, 0x1F15, .L), (0x1F18, 0x1F1D, .L), (0x1F20, 0x1F45, .L),
  (0x1F48, 0x1F4D, .L), (0x1F50, 0x1F57, .L), (0x1F59, 0x1F59, .L), (0x1F5B, 0x1F5B, .L),
  (0x1F5D, 0x1F5D, .L), (0x1F5F, 0x1F7D, .L), (0x1F80, 0x1FB4, .L), (0x1FB6, 0x1FBC, .L),
  (0x1FBE, 0x1FBE, .L), (0x1FC2, 0x1FC4, .L), (0x1FC6, 0x1FCC, .L), (0x1FD0, 0x1FD3, .L),
  (0x1FD6, 0x1FDB, .L), (0x1FE0, 0x1FEC, .L), (0x1FF2, 0x1FF4, .L), (0x1FF6, 0x1FFC, .L),
  (0x200B, 0x200F, .Cf), (0x202A, 0x202E, .Cf), (0x203F, 0x2040, .Pc), (0x2054, 0x2054, .Pc),
  (0x2060, 0x2064, .Cf), (0x2066, 0x206F, .Cf), (0x2070, 0x2070, .No), (0x2071, 0x2071, .L),
  (0x2074, 0x2079, .No), (0x207F, 0x207F, .L), (0x2080, 0x2089, .No), (0x2090, 0x209C, .L),
  (0x20A0, 0x20C1, .Sc), (0x20D0, 0x20DC, .Mn), (0x20E1, 0x20E1, .Mn), (0x20E5, 0x20F0, .Mn),
  (0x2100, 0x2101, .So), (0x2102, 0x2102, .L), (0x2103, 0x2106, .So), (0x2107, 0x2107, .L),
  (0x2108, 0x2109, .So), (0x210A, 0x2113, .L), (0x2114, 0x2114, .So), (0x2115, 0x2115, .L),
  (0x2116, 0x2117, .So), (0x2119, 0x211D, .L), (0x211E, 0x2123, .So), (0x2124, 0x2124, .L),
  (0x2125, 0x2125, .So), (0x2126, 0x2126, .L), (0x2127, 0x2127, .So), (0x2128, 0x2128, .L),
  (0x2129, 0x2129, .So), (0x212A, 0x212D, .L), (0x212E, 0x212E, .So), (0x212F, 0x2139, .L),
  (0x213A, 0x213B, .So), (0x213C, 0x213F, .L), (0x2145, 0x2149, .L), (0x214A, 0x214A, .So),
  (0x214C, 0x214D, .So), (0x214E, 0x214E, .L), (0x214F, 0x214F, .So), (0x2150, 0x215F, .No),
  (0x2160, 0x2182, .Nl), (0x2183, 0x2184, .L), (0x2185, 0x2188, .Nl), (0x2189, 0x2189, .No),
  (0x218A, 0x218B, .So), (0x2195, 0x2199, .So), (0x219C, 0x219F, .So), (0x21A1, 0x21A2, .So),
  (0x21A4, 0x21A5, .So), (0x21A7, 0x21AD, .So), (0x21AF, 0x21CD, .So), (0x21D0, 0x21D1, .So),
  (0x21D3, 0x21D3, .So), (0x21D5, 0x21F3, .So), (0x2300, 0x2307, .So), (0x230C, 0x231F, .So),
  (0x2322, 0x2328, .So), (0x232B, 0x237B, .So), (0x237D, 0x239A, .So), (0x23B4, 0x23DB, .So),
  (0x23E2, 0x2429, .So), (0x2440, 0x244A, .So), (0x2460, 0x249B, .No), (0x249C, 0x24E9, .So),
  (0x24EA, 0x24FF, .No), (0x2500, 0x25B6, .So), (0x25B8, 0x25C0, .So), (0x25C2, 0x25F7, .So),
  (0x2600, 0x266E, .So), (0x2670, 0x2767, .So), (0x2776, 0x2793, .No), (0x2794, 0x27BF, .So),
  (0x2800, 0x28FF, .So), (0x2B00, 0x2B2F, .So), (0x2B45, 0x2B46, .So), (0x2B4D, 0x2B73, .So),
  (0x2B76, 0x2BFF, .So), (0x2C00, 0x2CE4, .L), (0x2CE5, 0x2CEA, .So), (0x2CEB, 0x2CEE, .L),
  (0x2CEF, 0x2CF1, .Mn), (0x2CF2, 0x2CF3, .L), (0x2CFD, 0x2CFD, .No), (0x2D00, 0x2D25, .L),
  (0x2D27, 0x2D27, .L), (0x2D2D, 0x2D2D, .L), (0x2D30, 0x2D67, .L), (0x2D6F, 0x2D6F, .L),
  (0x2D7F, 0x2D7F, .Mn), (0x2D80, 0x2D96, .L), (0x2DA0, 0x2DA6, .L), (0x2DA8, 0x2DAE, .L),
  (0x2DB0, 0x2DB6, .L), (0x2DB8, 0x2DBE, .L), (0x2DC0, 0x2DC6, .L), (0x2DC8, 0x2DCE, .L),
  (0x2DD0, 0x2DD6, .L), (0x2DD8, 0x2DDE, .L), (0x2DE0, 0x2DFF, .Mn), (0x2E2F, 0x2E2F, .L),
  (0x2E50, 0x2E51, .So), (0x2E80, 0x2E99, .So), (0x2E9B, 0x2EF3, .So), (0x2F00, 0x2FD5, .So),
  (0x2FF0, 0x2FFF, .So), (0x3004, 0x3004, .So), (0x3005, 0x3006, .L), (0x3007, 0x3007, .Nl),
  (0x3012, 0x3013, .So), (0x3020, 0x3020, .So), (0x3021, 0x3029, .Nl), (0x302A, 0x302D, .Mn),
  (0x302E, 0x302F, .Mc), (0x3031, 0x3035, .L), (0x3036, 0x3037, .So), (0x3038, 0x303A, .Nl),
  (0x303B, 0x303C, .L), (0x303E, 0x303F, .So), (0x3041, 0x3096, .L), (0x3099, 0x309A, .Mn),
  (0x309D, 0x309F, .L), (0x30A1, 0x30FA, .L), (0x30FC, 0x30FF, .L), (0x3105, 0x312F, .L),
  (0x3131, 0x318E, .L), (0x3190, 0x3191, .So), (0x3192, 0x3195, .No), (0x3196, 0x319F, .So),
  (0x31A0, 0x31BF, .L), (0x31C0, 0x31E5, .So), (0x31EF, 0x31EF, .So), (0x31F0, 0x31FF, .L),
  (0x3200, 0x321E, .So), (0x3220, 0x3229, .No), (0x322A, 0x3247, .So), (0x3248, 0x324F, .No),
  (0x3250, 0x3250, .So), (0x3251, 0x325F, .No), (0x3260, 0x327F, .So), (0x3280, 0x3289, .No),
  (0x328A, 0x32B0, .So), (0x32B1, 0x32BF, .No), (0x32C0, 0x33FF, .So), (0x3400, 0x4DBF, .L),
  (0x4DC0, 0x4DFF, .So), (0x4E00, 0xA48C, .L), (0xA490, 0xA4C6, .So), (0xA4D0, 0xA4FD, .L),
  (0xA500, 0xA60C, .L), (0xA610, 0xA61F, .L), (0xA620, 0xA629, .Nd), (0xA62A, 0xA62B, .L),
  (0xA640, 0xA66E, .L), (0xA66F, 0xA66F, .Mn), (0xA674, 0xA67D, .Mn), (0xA67F, 0xA69D, .L),
  (0xA69E, 0xA69F, .Mn), (0xA6A0, 0xA6E5, .L), (0xA6E6, 0xA6EF, .Nl), (0xA6F0, 0xA6F1, .Mn),
  (0xA717, 0xA71F, .L), (0xA722, 0xA788, .L), (0xA78B, 0xA7DC, .L), (0xA7F1, 0xA801, .L),
  (0xA802, 0xA802, .Mn), (0xA803, 0xA805, .L), (0xA806, 0xA806, .Mn), (0xA807, 0xA80A, .L),
  (0xA80B, 0xA80B, .Mn), (0xA80C, 0xA822, .L), (0xA823, 0xA824, .Mc), (0xA825, 0xA826, .Mn),
  (0xA827, 0xA827, .Mc), (0xA828, 0xA82B, .So), (0xA82C, 0xA82C, .Mn), (0xA830, 0xA835, .No),
  (0xA836, 0xA837, .So), (0xA838, 0xA838, .Sc), (0xA839, 0xA839, .So), (0xA840, 0xA873, .L),
  (0xA880, 0xA881, .Mc), (0xA882, 0xA8B3, .L), (0xA8B4, 0xA8C3, .Mc), (0xA8C4, 0xA8C5, .Mn),
  (0xA8D0, 0xA8D9, .Nd), (0xA8E0, 0xA8F1, .Mn), (0xA8F2, 0xA8F7, .L), (0xA8FB, 0xA8FB, .L),
  (0xA8FD, 0xA8FE, .L), (0xA8FF, 0xA8FF, .Mn), (0xA900, 0xA909, .Nd), (0xA90A, 0xA925, .L),
  (0xA926, 0xA92D, .Mn), (0xA930, 0xA946, .L), (0xA947, 0xA951, .Mn), (0xA952, 0xA953, .Mc),
  (0xA960, 0xA97C, .L), (0xA980, 0xA982, .Mn), (0xA983, 0xA983, .Mc), (0xA984, 0xA9B2, .L),
  (0xA9B3, 0xA9B3, .Mn), (0xA9B4, 0xA9B5, .Mc), (0xA9B6, 0xA9B9, .Mn), (0xA9BA, 0xA9BB, .Mc),
  (0xA9BC, 0xA9BD, .Mn), (0xA9BE, 0xA9C0, .Mc), (0xA9CF, 0xA9CF, .L), (0xA9D0, 0xA9D9, .Nd),
  (0xA9E0, 0xA9E4, .L), (0xA9E5, 0xA9E5, .Mn), (0xA9E6, 0xA9EF, .L), (0xA9F0, 0xA9F9, .Nd),
  (0xA9FA, 0xA9FE, .L), (0xAA00, 0xAA28, .L), (0xAA29, 0xAA2E, .Mn), (0xAA2F, 0xAA30, .Mc),
  (0xAA31, 0xAA32, .Mn), (0xAA33, 0xAA34, .Mc), (0xAA35, 0xAA36, .Mn), (0xAA40, 0xAA42, .L),
  (0xAA43, 0xAA43, .Mn), (0xAA44, 0xAA4B, .L), (0xAA4C, 0xAA4C, .Mn), (0xAA4D, 0xAA4D, .Mc),
  (0xAA50, 0xAA59, .Nd), (0xAA60, 0xAA76, .L), (0xAA77, 0xAA79, .So), (0xAA7A, 0xAA7A, .L),
  (0xAA7B, 0xAA7B, .Mc), (0xAA7C, 0xAA7C, .Mn), (0xAA7D, 0xAA7D, .Mc), (0xAA7E, 0xAAAF, .L),
  (0xAAB0, 0xAAB0, .Mn), (0xAAB1, 0xAAB1, .L), (0xAAB2, 0xAAB4, .Mn), (0xAAB5, 0xAAB6, .L),
  (0xAAB7, 0xAAB8, .Mn), (0xAAB9, 0xAABD, .L), (0xAABE, 0xAABF, .Mn), (0xAAC0, 0xAAC0, .L),
  (0xAAC1, 0xAAC1, .Mn), (0xAAC2, 0xAAC2, .L), (0xAADB, 0xAADD, .L), (0xAAE0, 0xAAEA, .L),
  (0xAAEB, 0xAAEB, .Mc), (0xAAEC, 0xAAED, .Mn), (0xAAEE, 0xAAEF, .Mc), (0xAAF2, 0xAAF4, .L),
  (0xAAF5, 0xAAF5, .Mc), (0xAAF6, 0xAAF6, .Mn), (0xAB01, 0xAB06, .L), (0xAB09, 0xAB0E, .L),
  (0xAB11, 0xAB16, .L), (0xAB20, 0xAB26, .L), (0xAB28, 0xAB2E, .L), (0xAB30, 0xAB5A, .L),
  (0xAB5C, 0xAB69, .L), (0xAB70, 0xABE2, .L), (0xABE3, 0xABE4, .Mc), (0xABE5, 0xABE5, .Mn),
  (0xABE6, 0xABE7, .Mc), (0xABE8, 0xABE8, .Mn), (0xABE9, 0xABEA, .Mc), (0xABEC, 0xABEC, .Mc),
  (0xABED, 0xABED, .Mn), (0xABF0, 0xABF9, .Nd), (0xAC00, 0xD7A3, .L), (0xD7B0, 0xD7C6, .L),
  (0xD7CB, 0xD7FB, .L), (0xF900, 0xFA6D, .L), (0xFA70, 0xFAD9, .L), (0xFB00, 0xFB06, .L),
  (0xFB13, 0xFB17, .L), (0xFB1D, 0xFB1D, .L), (0xFB1E, 0xFB1E, .Mn), (0xFB1F, 0xFB28, .L),
  (0xFB2A, 0xFB36, .L), (0xFB38, 0xFB3C, .L), (0xFB3E, 0xFB3E, .L), (0xFB40, 0xFB41, .L),
  (0xFB43, 0xFB44, .L), (0xFB46, 0xFBB1, .L), (0xFBC3, 0xFBD2, .So), (0xFBD3, 0xFD3D, .L),
  (0xFD40, 0xFD4F, .So), (0xFD50, 0xFD8F, .L), (0xFD90, 0xFD91, .So), (0xFD92, 0xFDC7, .L),
  (0xFDC8, 0xFDCF, .So), (0xFDF0, 0xFDFB, .L), (0xFDFC, 0xFDFC, .Sc), (0xFDFD, 0xFDFF, .So),
  (0xFE00, 0xFE0F, .Mn), (0xFE20, 0xFE2F, .Mn), (0xFE33, 0xFE34, .Pc), (0xFE4D, 0xFE4F, .Pc),
  (0xFE69, 0xFE69, .Sc), (0xFE70, 0xFE74, .L), (0xFE76, 0xFEFC, .L), (0xFEFF, 0xFEFF, .Cf),
  (0xFF04, 0xFF04, .Sc), (0xFF10, 0xFF19, .Nd), (0xFF21, 0xFF3A, .L), (0xFF3F, 0xFF3F, .Pc),
  (0xFF41, 0xFF5A, .L), (0xFF66, 0xFFBE, .L), (0xFFC2, 0xFFC7, .L), (0xFFCA, 0xFFCF, .L),
  (0xFFD2, 0xFFD7, .L), (0xFFDA, 0xFFDC, .L), (0xFFE0, 0xFFE1, .Sc), (0xFFE4, 0xFFE4, .So),
  (0xFFE5, 0xFFE6, .Sc), (0xFFE8, 0xFFE8, .So), (0xFFED, 0xFFEE, .So), (0xFFF9, 0xFFFB, .Cf),
  (0xFFFC, 0xFFFD, .So)]

/-- The characters from U+10000 on with a category of their own. -/
def supplementaryRanges : List (Nat × Nat × Category) := [
  (0x10000, 0x1000B, .L), (0x1000D, 0x10026, .L), (0x10028, 0x1003A, .L), (0x1003C, 0x1003D, .L),
  (0x1003F, 0x1004D, .L), (0x10050, 0x1005D, .L), (0x10080, 0x100FA, .L), (0x10107, 0x10133, .No),
  (0x10137, 0x1013F, .So), (0x10140, 0x10174, .Nl), (0x10175, 0x10178, .No),
  (0x10179, 0x10189, .So), (0x1018A, 0x1018B, .No), (0x1018C, 0x1018E, .So),
  (0x10190, 0x1019C, .So), (0x101A0, 0x101A0, .So), (0x101D0, 0x101FC, .So),
  (0x101FD, 0x101FD, .Mn), (0x10280, 0x1029C, .L), (0x102A0, 0x102D0, .L), (0x102E0, 0x102E0, .Mn),
  (0x102E1, 0x102FB, .No), (0x10300, 0x1031F, .L), (0x10320, 0x10323, .No), (0x1032D, 0x10340, .L),
  (0x10341, 0x10341, .Nl), (0x10342, 0x10349, .L), (0x1034A, 0x1034A, .Nl), (0x10350, 0x10375, .L),
  (0x10376, 0x1037A, .Mn), (0x10380, 0x1039D, .L), (0x103A0, 0x103C3, .L), (0x103C8, 0x103CF, .L),
  (0x103D1, 0x103D5, .Nl), (0x10400, 0x1049D, .L), (0x104A0, 0x104A9, .Nd), (0x104B0, 0x104D3, .L),
  (0x104D8, 0x104FB, .L), (0x10500, 0x10527, .L), (0x10530, 0x10563, .L), (0x10570, 0x1057A, .L),
  (0x1057C, 0x1058A, .L), (0x1058C, 0x10592, .L), (0x10594, 0x10595, .L), (0x10597, 0x105A1, .L),
  (0x105A3, 0x105B1, .L), (0x105B3, 0x105B9, .L), (0x105BB, 0x105BC, .L), (0x105C0, 0x105F3, .L),
  (0x10600, 0x10736, .L), (0x10740, 0x10755, .L), (0x10760, 0x10767, .L), (0x10780, 0x10785, .L),
  (0x10787, 0x107B0, .L), (0x107B2, 0x107BA, .L), (0x10800, 0x10805, .L), (0x10808, 0x10808, .L),
  (0x1080A, 0x10835, .L), (0x10837, 0x10838, .L), (0x1083C, 0x1083C, .L), (0x1083F, 0x10855, .L),
  (0x10858, 0x1085F, .No), (0x10860, 0x10876, .L), (0x10877, 0x10878, .So), (0x10879, 0x1087F, .No),
  (0x10880, 0x1089E, .L), (0x108A7, 0x108AF, .No), (0x108E0, 0x108F2, .L), (0x108F4, 0x108F5, .L),
  (0x108FB, 0x108FF, .No), (0x10900, 0x10915, .L), (0x10916, 0x1091B, .No), (0x10920, 0x10939, .L),
  (0x10940, 0x10959, .L), (0x10980, 0x109B7, .L), (0x109BC, 0x109BD, .No), (0x109BE, 0x109BF, .L),
  (0x109C0, 0x109CF, .No), (0x109D2, 0x109FF, .No), (0x10A00, 0x10A00, .L), (0x10A01, 0x10A03, .Mn),
  (0x10A05, 0x10A06, .Mn), (0x10A0C, 0x10A0F, .Mn), (0x10A10, 0x10A13, .L), (0x10A15, 0x10A17, .L),
  (0x10A19, 0x10A35, .L), (0x10A38, 0x10A3A, .Mn), (0x10A3F, 0x10A3F, .Mn), (0x10A40, 0x10A48, .No),
  (0x10A60, 0x10A7C, .L), (0x10A7D, 0x10A7E, .No), (0x10A80, 0x10A9C, .L), (0x10A9D, 0x10A9F, .No),
  (0x10AC0, 0x10AC7, .L), (0x10AC8, 0x10AC8, .So), (0x10AC9, 0x10AE4, .L), (0x10AE5, 0x10AE6, .Mn),
  (0x10AEB, 0x10AEF, .No), (0x10B00, 0x10B35, .L), (0x10B40, 0x10B55, .L), (0x10B58, 0x10B5F, .No),
  (0x10B60, 0x10B72, .L), (0x10B78, 0x10B7F, .No), (0x10B80, 0x10B91, .L), (0x10BA9, 0x10BAF, .No),
  (0x10C00, 0x10C48, .L), (0x10C80, 0x10CB2, .L), (0x10CC0, 0x10CF2, .L), (0x10CFA, 0x10CFF, .No),
  (0x10D00, 0x10D23, .L), (0x10D24, 0x10D27, .Mn), (0x10D30, 0x10D39, .Nd), (0x10D40, 0x10D49, .Nd),
  (0x10D4A, 0x10D65, .L), (0x10D69, 0x10D6D, .Mn), (0x10D6F, 0x10D85, .L), (0x10E60, 0x10E7E, .No),
  (0x10E80, 0x10EA9, .L), (0x10EAB, 0x10EAC, .Mn), (0x10EB0, 0x10EB1, .L), (0x10EC2, 0x10EC7, .L),
  (0x10ED1, 0x10ED8, .So), (0x10EFA, 0x10EFF, .Mn), (0x10F00, 0x10F1C, .L), (0x10F1D, 0x10F26, .No),
  (0x10F27, 0x10F27, .L), (0x10F30, 0x10F45, .L), (0x10F46, 0x10F50, .Mn), (0x10F51, 0x10F54, .No),
  (0x10F70, 0x10F81, .L), (0x10F82, 0x10F85, .Mn), (0x10FB0, 0x10FC4, .L), (0x10FC5, 0x10FCB, .No),
  (0x10FE0, 0x10FF6, .L), (0x11000, 0x11000, .Mc), (0x11001, 0x11001, .Mn), (0x11002, 0x11002, .Mc),
  (0x11003, 0x11037, .L), (0x11038, 0x11046, .Mn), (0x11052, 0x11065, .No), (0x11066, 0x1106F, .Nd),
  (0x11070, 0x11070, .Mn), (0x11071, 0x11072, .L), (0x11073, 0x11074, .Mn), (0x11075, 0x11075, .L),
  (0x1107F, 0x11081, .Mn), (0x11082, 0x11082, .Mc), (0x11083, 0x110AF, .L), (0x110B0, 0x110B2, .Mc),
  (0x110B3, 0x110B6, .Mn), (0x110B7, 0x110B8, .Mc), (0x110B9, 0x110BA, .Mn),
  (0x110BD, 0x110BD, .Cf), (0x110C2, 0x110C2, .Mn), (0x110CD, 0x110CD, .Cf), (0x110D0, 0x110E8, .L),
  (0x110F0, 0x110F9, .Nd), (0x11100, 0x11102, .Mn), (0x11103, 0x11126, .L), (0x11127, 0x1112B, .Mn),
  (0x1112C, 0x1112C, .Mc), (0x1112D, 0x11134, .Mn), (0x11136, 0x1113F, .Nd), (0x11144, 0x11144, .L),
  (0x11145, 0x11146, .Mc), (0x11147, 0x11147, .L), (0x11150, 0x11172, .L), (0x11173, 0x11173, .Mn),
  (0x11176, 0x11176, .L), (0x11180, 0x11181, .Mn), (0x11182, 0x11182, .Mc), (0x11183, 0x111B2, .L),
  (0x111B3, 0x111B5, .Mc), (0x111B6, 0x111BE, .Mn), (0x111BF, 0x111C0, .Mc), (0x111C1, 0x111C4, .L),
  (0x111C9, 0x111CC, .Mn), (0x111CE, 0x111CE, .Mc), (0x111CF, 0x111CF, .Mn),
  (0x111D0, 0x111D9, .Nd), (0x111DA, 0x111DA, .L), (0x111DC, 0x111DC, .L), (0x111E1, 0x111F4, .No),
  (0x11200, 0x11211, .L), (0x11213, 0x1122B, .L), (0x1122C, 0x1122E, .Mc), (0x1122F, 0x11231, .Mn),
  (0x11232, 0x11233, .Mc), (0x11234, 0x11234, .Mn), (0x11235, 0x11235, .Mc),
  (0x11236, 0x11237, .Mn), (0x1123E, 0x1123E, .Mn), (0x1123F, 0x11240, .L), (0x11241, 0x11241, .Mn),
  (0x11280, 0x11286, .L), (0x11288, 0x11288, .L), (0x1128A, 0x1128D, .L), (0x1128F, 0x1129D, .L),
  (0x1129F, 0x112A8, .L), (0x112B0, 0x112DE, .L), (0x112DF, 0x112DF, .Mn), (0x112E0, 0x112E2, .Mc),
  (0x112E3, 0x112EA, .Mn), (0x112F0, 0x112F9, .Nd), (0x11300, 0x11301, .Mn),
  (0x11302, 0x11303, .Mc), (0x11305, 0x1130C, .L), (0x1130F, 0x11310, .L), (0x11313, 0x11328, .L),
  (0x1132A, 0x11330, .L), (0x11332, 0x11333, .L), (0x11335, 0x11339, .L), (0x1133B, 0x1133C, .Mn),
  (0x1133D, 0x1133D, .L), (0x1133E, 0x1133F, .Mc), (0x11340, 0x11340, .Mn), (0x11341, 0x11344, .Mc),
  (0x11347, 0x11348, .Mc), (0x1134B, 0x1134D, .Mc), (0x11350, 0x11350, .L), (0x11357, 0x11357, .Mc),
  (0x1135D, 0x11361, .L), (0x11362, 0x11363, .Mc), (0x11366, 0x1136C, .Mn), (0x11370, 0x11374, .Mn),
  (0x11380, 0x11389, .L), (0x1138B, 0x1138B, .L), (0x1138E, 0x1138E, .L), (0x11390, 0x113B5, .L),
  (0x113B7, 0x113B7, .L), (0x113B8, 0x113BA, .Mc), (0x113BB, 0x113C0, .Mn), (0x113C2, 0x113C2, .Mc),
  (0x113C5, 0x113C5, .Mc), (0x113C7, 0x113CA, .Mc), (0x113CC, 0x113CD, .Mc),
  (0x113CE, 0x113CE, .Mn), (0x113CF, 0x113CF, .Mc), (0x113D0, 0x113D0, .Mn), (0x113D1, 0x113D1, .L),
  (0x113D2, 0x113D2, .Mn), (0x113D3, 0x113D3, .L), (0x113E1, 0x113E2, .Mn), (0x11400, 0x11434, .L),
  (0x11435, 0x11437, .Mc), (0x11438, 0x1143F, .Mn), (0x11440, 0x11441, .Mc),
  (0x11442, 0x11444, .Mn), (0x11445, 0x11445, .Mc), (0x11446, 0x11446, .Mn), (0x11447, 0x1144A, .L),
  (0x11450, 0x11459, .Nd), (0x1145E, 0x1145E, .Mn), (0x1145F, 0x11461, .L), (0x11480, 0x114AF, .L),
  (0x114B0, 0x114B2, .Mc), (0x114B3, 0x114B8, .Mn), (0x114B9, 0x114B9, .Mc),
  (0x114BA, 0x114BA, .Mn), (0x114BB, 0x114BE, .Mc), (0x114BF, 0x114C0, .Mn),
  (0x114C1, 0x114C1, .Mc), (0x114C2, 0x114C3, .Mn), (0x114C4, 0x114C5, .L), (0x114C7, 0x114C7, .L),
  (0x114D0, 0x114D9, .Nd), (0x11580, 0x115AE, .L), (0x115AF, 0x115B1, .Mc), (0x115B2, 0x115B5, .Mn),
  (0x115B8, 0x115BB, .Mc), (0x115BC, 0x115BD, .Mn), (0x115BE, 0x115BE, .Mc),
  (0x115BF, 0x115C0, .Mn), (0x115D8, 0x115DB, .L), (0x115DC, 0x115DD, .Mn), (0x11600, 0x1162F, .L),
  (0x11630, 0x11632, .Mc), (0x11633, 0x1163A, .Mn), (0x1163B, 0x1163C, .Mc),
  (0x1163D, 0x1163D, .Mn), (0x1163E, 0x1163E, .Mc), (0x1163F, 0x11640, .Mn), (0x11644, 0x11644, .L),
  (0x11650, 0x11659, .Nd), (0x11680, 0x116AA, .L), (0x116AB, 0x116AB, .Mn), (0x116AC, 0x116AC, .Mc),
  (0x116AD, 0x116AD, .Mn), (0x116AE, 0x116AF, .Mc), (0x116B0, 0x116B5, .Mn),
  (0x116B6, 0x116B6, .Mc), (0x116B7, 0x116B7, .Mn), (0x116B8, 0x116B8, .L), (0x116C0, 0x116C9, .Nd),
  (0x116D0, 0x116E3, .Nd), (0x11700, 0x1171A, .L), (0x1171D, 0x1171D, .Mn), (0x1171E, 0x1171E, .Mc),
  (0x1171F, 0x1171F, .Mn), (0x11720, 0x11721, .Mc), (0x11722, 0x11725, .Mn),
  (0x11726, 0x11726, .Mc), (0x11727, 0x1172B, .Mn), (0x11730, 0x11739, .Nd),
  (0x1173A, 0x1173B, .No), (0x1173F, 0x1173F, .So), (0x11740, 0x11746, .L), (0x11800, 0x1182B, .L),
  (0x1182C, 0x1182E, .Mc), (0x1182F, 0x11837, .Mn), (0x11838, 0x11838, .Mc),
  (0x11839, 0x1183A, .Mn), (0x118A0, 0x118DF, .L), (0x118E0, 0x118E9, .Nd), (0x118EA, 0x118F2, .No),
  (0x118FF, 0x11906, .L), (0x11909, 0x11909, .L), (0x1190C, 0x11913, .L), (0x11915, 0x11916, .L),
  (0x11918, 0x1192F, .L), (0x11930, 0x11935, .Mc), (0x11937, 0x11938, .Mc), (0x1193B, 0x1193C, .Mn),
  (0x1193D, 0x1193D, .Mc), (0x1193E, 0x1193E, .Mn), (0x1193F, 0x1193F, .L), (0x11940, 0x11940, .Mc),
  (0x11941, 0x11941, .L), (0x11942, 0x11942, .Mc), (0x11943, 0x11943, .Mn), (0x11950, 0x11959, .Nd),
  (0x119A0, 0x119A7, .L), (0x119AA, 0x119D0, .L), (0x119D1, 0x119D3, .Mc), (0x119D4, 0x119D7, .Mn),
  (0x119DA, 0x119DB, .Mn), (0x119DC, 0x119DF, .Mc), (0x119E0, 0x119E0, .Mn), (0x119E1, 0x119E1, .L),
  (0x119E3, 0x119E3, .L), (0x119E4, 0x119E4, .Mc), (0x11A00, 0x11A00, .L), (0x11A01, 0x11A0A, .Mn),
  (0x11A0B, 0x11A32, .L), (0x11A33, 0x11A38, .Mn), (0x11A39, 0x11A39, .Mc), (0x11A3A, 0x11A3A, .L),
  (0x11A3B, 0x11A3E, .Mn), (0x11A47, 0x11A47, .Mn), (0x11A50, 0x11A50, .L), (0x11A51, 0x11A56, .Mn),
  (0x11A57, 0x11A58, .Mc), (0x11A59, 0x11A5B, .Mn), (0x11A5C, 0x11A89, .L), (0x11A8A, 0x11A96, .Mn),
  (0x11A97, 0x11A97, .Mc), (0x11A98, 0x11A99, .Mn), (0x11A9D, 0x11A9D, .L), (0x11AB0, 0x11AF8, .L),
  (0x11B60, 0x11B60, .Mn), (0x11B61, 0x11B61, .Mc), (0x11B62, 0x11B64, .Mn),
  (0x11B65, 0x11B65, .Mc), (0x11B66, 0x11B66, .Mn), (0x11B67, 0x11B67, .Mc), (0x11BC0, 0x11BE0, .L),
  (0x11BF0, 0x11BF9, .Nd), (0x11C00, 0x11C08, .L), (0x11C0A, 0x11C2E, .L), (0x11C2F, 0x11C2F, .Mc),
  (0x11C30, 0x11C36, .Mn), (0x11C38, 0x11C3D, .Mn), (0x11C3E, 0x11C3E, .Mc),
  (0x11C3F, 0x11C3F, .Mn), (0x11C40, 0x11C40, .L), (0x11C50, 0x11C59, .Nd), (0x11C5A, 0x11C6C, .No),
  (0x11C72, 0x11C8F, .L), (0x11C92, 0x11CA7, .Mn), (0x11CA9, 0x11CA9, .Mc), (0x11CAA, 0x11CB0, .Mn),
  (0x11CB1, 0x11CB1, .Mc), (0x11CB2, 0x11CB3, .Mn), (0x11CB4, 0x11CB4, .Mc),
  (0x11CB5, 0x11CB6, .Mn), (0x11D00, 0x11D06, .L), (0x11D08, 0x11D09, .L), (0x11D0B, 0x11D30, .L),
  (0x11D31, 0x11D36, .Mn), (0x11D3A, 0x11D3A, .Mn), (0x11D3C, 0x11D3D, .Mn),
  (0x11D3F, 0x11D45, .Mn), (0x11D46, 0x11D46, .L), (0x11D47, 0x11D47, .Mn), (0x11D50, 0x11D59, .Nd),
  (0x11D60, 0x11D65, .L), (0x11D67, 0x11D68, .L), (0x11D6A, 0x11D89, .L), (0x11D8A, 0x11D8E, .Mc),
  (0x11D90, 0x11D91, .Mn), (0x11D93, 0x11D94, .Mc), (0x11D95, 0x11D95, .Mn),
  (0x11D96, 0x11D96, .Mc), (0x11D97, 0x11D97, .Mn), (0x11D98, 0x11D98, .L), (0x11DA0, 0x11DA9, .Nd),
  (0x11DB0, 0x11DDB, .L), (0x11DE0, 0x11DE9, .Nd), (0x11EE0, 0x11EF2, .L), (0x11EF3, 0x11EF4, .Mn),
  (0x11EF5, 0x11EF6, .Mc), (0x11F00, 0x11F01, .Mn), (0x11F02, 0x11F02, .L), (0x11F03, 0x11F03, .Mc),
  (0x11F04, 0x11F10, .L), (0x11F12, 0x11F33, .L), (0x11F34, 0x11F35, .Mc), (0x11F36, 0x11F3A, .Mn),
  (0x11F3E, 0x11F3F, .Mc), (0x11F40, 0x11F40, .Mn), (0x11F41, 0x11F41, .Mc),
  (0x11F42, 0x11F42, .Mn), (0x11F50, 0x11F59, .Nd), (0x11F5A, 0x11F5A, .Mn), (0x11FB0, 0x11FB0, .L),
  (0x11FC0, 0x11FD4, .No), (0x11FD5, 0x11FDC, .So), (0x11FDD, 0x11FE0, .Sc),
  (0x11FE1, 0x11FF1, .So), (0x12000, 0x12399, .L), (0x12400, 0x1246E, .Nl), (0x12480, 0x12543, .L),
  (0x12F90, 0x12FF0, .L), (0x13000, 0x1342F, .L), (0x13430, 0x1343F, .Cf), (0x13440, 0x13440, .Mn),
  (0x13441, 0x13446, .L), (0x13447, 0x13455, .Mn), (0x13460, 0x143FA, .L), (0x14400, 0x14646, .L),
  (0x16100, 0x1611D, .L), (0x1611E, 0x16129, .Mn), (0x1612A, 0x1612C, .Mc), (0x1612D, 0x1612F, .Mn),
  (0x16130, 0x16139, .Nd), (0x16800, 0x16A38, .L), (0x16A40, 0x16A5E, .L), (0x16A60, 0x16A69, .Nd),
  (0x16A70, 0x16ABE, .L), (0x16AC0, 0x16AC9, .Nd), (0x16AD0, 0x16AED, .L), (0x16AF0, 0x16AF4, .Mn),
  (0x16B00, 0x16B2F, .L), (0x16B30, 0x16B36, .Mn), (0x16B3C, 0x16B3F, .So), (0x16B40, 0x16B43, .L),
  (0x16B45, 0x16B45, .So), (0x16B50, 0x16B59, .Nd), (0x16B5B, 0x16B61, .No), (0x16B63, 0x16B77, .L),
  (0x16B7D, 0x16B8F, .L), (0x16D40, 0x16D6C, .L), (0x16D70, 0x16D79, .Nd), (0x16E40, 0x16E7F, .L),
  (0x16E80, 0x16E96, .No), (0x16EA0, 0x16EB8, .L), (0x16EBB, 0x16ED3, .L), (0x16F00, 0x16F4A, .L),
  (0x16F4F, 0x16F4F, .Mn), (0x16F50, 0x16F50, .L), (0x16F51, 0x16F87, .Mc), (0x16F8F, 0x16F92, .Mn),
  (0x16F93, 0x16F9F, .L), (0x16FE0, 0x16FE1, .L), (0x16FE3, 0x16FE3, .L), (0x16FE4, 0x16FE4, .Mn),
  (0x16FF0, 0x16FF1, .Mc), (0x16FF2, 0x16FF3, .L), (0x16FF4, 0x16FF6, .Nl), (0x17000, 0x18CD5, .L),
  (0x18CFF, 0x18D1E, .L), (0x18D80, 0x18DF2, .L), (0x1AFF0, 0x1AFF3, .L), (0x1AFF5, 0x1AFFB, .L),
  (0x1AFFD, 0x1AFFE, .L), (0x1B000, 0x1B122, .L), (0x1B132, 0x1B132, .L), (0x1B150, 0x1B152, .L),
  (0x1B155, 0x1B155, .L), (0x1B164, 0x1B167, .L), (0x1B170, 0x1B2FB, .L), (0x1BC00, 0x1BC6A, .L),
  (0x1BC70, 0x1BC7C, .L), (0x1BC80, 0x1BC88, .L), (0x1BC90, 0x1BC99, .L), (0x1BC9C, 0x1BC9C, .So),
  (0x1BC9D, 0x1BC9E, .Mn), (0x1BCA0, 0x1BCA3, .Cf), (0x1CC00, 0x1CCEF, .So),
  (0x1CCF0, 0x1CCF9, .Nd), (0x1CCFA, 0x1CCFC, .So), (0x1CD00, 0x1CEB3, .So),
  (0x1CEBA, 0x1CED0, .So), (0x1CEE0, 0x1CEEF, .So), (0x1CF00, 0x1CF2D, .Mn),
  (0x1CF30, 0x1CF46, .Mn), (0x1CF50, 0x1CFC3, .So), (0x1D000, 0x1D0F5, .So),
  (0x1D100, 0x1D126, .So), (0x1D129, 0x1D164, .So), (0x1D165, 0x1D166, .Mc),
  (0x1D167, 0x1D169, .Mn), (0x1D16A, 0x1D16C, .So), (0x1D16D, 0x1D172, .Mc),
  (0x1D173, 0x1D17A, .Cf), (0x1D17B, 0x1D182, .Mn), (0x1D183, 0x1D184, .So),
  (0x1D185, 0x1D18B, .Mn), (0x1D18C, 0x1D1A9, .So), (0x1D1AA, 0x1D1AD, .Mn),
  (0x1D1AE, 0x1D1EA, .So), (0x1D200, 0x1D241, .So), (0x1D242, 0x1D244, .Mn),
  (0x1D245, 0x1D245, .So), (0x1D2C0, 0x1D2D3, .No), (0x1D2E0, 0x1D2F3, .No),
  (0x1D300, 0x1D356, .So), (0x1D360, 0x1D378, .No), (0x1D400, 0x1D454, .L), (0x1D456, 0x1D49C, .L),
  (0x1D49E, 0x1D49F, .L), (0x1D4A2, 0x1D4A2, .L), (0x1D4A5, 0x1D4A6, .L), (0x1D4A9, 0x1D4AC, .L),
  (0x1D4AE, 0x1D4B9, .L), (0x1D4BB, 0x1D4BB, .L), (0x1D4BD, 0x1D4C3, .L), (0x1D4C5, 0x1D505, .L),
  (0x1D507, 0x1D50A, .L), (0x1D50D, 0x1D514, .L), (0x1D516, 0x1D51C, .L), (0x1D51E, 0x1D539, .L),
  (0x1D53B, 0x1D53E, .L), (0x1D540, 0x1D544, .L), (0x1D546, 0x1D546, .L), (0x1D54A, 0x1D550, .L),
  (0x1D552, 0x1D6A5, .L), (0x1D6A8, 0x1D6C0, .L), (0x1D6C2, 0x1D6DA, .L), (0x1D6DC, 0x1D6FA, .L),
  (0x1D6FC, 0x1D714, .L), (0x1D716, 0x1D734, .L), (0x1D736, 0x1D74E, .L), (0x1D750, 0x1D76E, .L),
  (0x1D770, 0x1D788, .L), (0x1D78A, 0x1D7A8, .L), (0x1D7AA, 0x1D7C2, .L), (0x1D7C4, 0x1D7CB, .L),
  (0x1D7CE, 0x1D7FF, .Nd), (0x1D800, 0x1D9FF, .So), (0x1DA00, 0x1DA36, .Mn),
  (0x1DA37, 0x1DA3A, .So), (0x1DA3B, 0x1DA6C, .Mn), (0x1DA6D, 0x1DA74, .So),
  (0x1DA75, 0x1DA75, .Mn), (0x1DA76, 0x1DA83, .So), (0x1DA84, 0x1DA84, .Mn),
  (0x1DA85, 0x1DA86, .So), (0x1DA9B, 0x1DA9F, .Mn), (0x1DAA1, 0x1DAAF, .Mn), (0x1DF00, 0x1DF1E, .L),
  (0x1DF25, 0x1DF2A, .L), (0x1E000, 0x1E006, .Mn), (0x1E008, 0x1E018, .Mn), (0x1E01B, 0x1E021, .Mn),
  (0x1E023, 0x1E024, .Mn), (0x1E026, 0x1E02A, .Mn), (0x1E030, 0x1E06D, .L), (0x1E08F, 0x1E08F, .Mn),
  (0x1E100, 0x1E12C, .L), (0x1E130, 0x1E136, .Mn), (0x1E137, 0x1E13D, .L), (0x1E140, 0x1E149, .Nd),
  (0x1E14E, 0x1E14E, .L), (0x1E14F, 0x1E14F, .So), (0x1E290, 0x1E2AD, .L), (0x1E2AE, 0x1E2AE, .Mn),
  (0x1E2C0, 0x1E2EB, .L), (0x1E2EC, 0x1E2EF, .Mn), (0x1E2F0, 0x1E2F9, .Nd), (0x1E2FF, 0x1E2FF, .Sc),
  (0x1E4D0, 0x1E4EB, .L), (0x1E4EC, 0x1E4EF, .Mn), (0x1E4F0, 0x1E4F9, .Nd), (0x1E5D0, 0x1E5ED, .L),
  (0x1E5EE, 0x1E5EF, .Mn), (0x1E5F0, 0x1E5F0, .L), (0x1E5F1, 0x1E5FA, .Nd), (0x1E6C0, 0x1E6DE, .L),
  (0x1E6E0, 0x1E6E2, .L), (0x1E6E3, 0x1E6E3, .Mn), (0x1E6E4, 0x1E6E5, .L), (0x1E6E6, 0x1E6E6, .Mn),
  (0x1E6E7, 0x1E6ED, .L), (0x1E6EE, 0x1E6EF, .Mn), (0x1E6F0, 0x1E6F4, .L), (0x1E6F5, 0x1E6F5, .Mn),
  (0x1E6FE, 0x1E6FF, .L), (0x1E7E0, 0x1E7E6, .L), (0x1E7E8, 0x1E7EB, .L), (0x1E7ED, 0x1E7EE, .L),
  (0x1E7F0, 0x1E7FE, .L), (0x1E800, 0x1E8C4, .L), (0x1E8C7, 0x1E8CF, .No), (0x1E8D0, 0x1E8D6, .Mn),
  (0x1E900, 0x1E943, .L), (0x1E944, 0x1E94A, .Mn), (0x1E94B, 0x1E94B, .L), (0x1E950, 0x1E959, .Nd),
  (0x1EC71, 0x1ECAB, .No), (0x1ECAC, 0x1ECAC, .So), (0x1ECAD, 0x1ECAF, .No),
  (0x1ECB0, 0x1ECB0, .Sc), (0x1ECB1, 0x1ECB4, .No), (0x1ED01, 0x1ED2D, .No),
  (0x1ED2E, 0x1ED2E, .So), (0x1ED2F, 0x1ED3D, .No), (0x1EE00, 0x1EE03, .L), (0x1EE05, 0x1EE1F, .L),
  (0x1EE21, 0x1EE22, .L), (0x1EE24, 0x1EE24, .L), (0x1EE27, 0x1EE27, .L), (0x1EE29, 0x1EE32, .L),
  (0x1EE34, 0x1EE37, .L), (0x1EE39, 0x1EE39, .L), (0x1EE3B, 0x1EE3B, .L), (0x1EE42, 0x1EE42, .L),
  (0x1EE47, 0x1EE47, .L), (0x1EE49, 0x1EE49, .L), (0x1EE4B, 0x1EE4B, .L), (0x1EE4D, 0x1EE4F, .L),
  (0x1EE51, 0x1EE52, .L), (0x1EE54, 0x1EE54, .L), (0x1EE57, 0x1EE57, .L), (0x1EE59, 0x1EE59, .L),
  (0x1EE5B, 0x1EE5B, .L), (0x1EE5D, 0x1EE5D, .L), (0x1EE5F, 0x1EE5F, .L), (0x1EE61, 0x1EE62, .L),
  (0x1EE64, 0x1EE64, .L), (0x1EE67, 0x1EE6A, .L), (0x1EE6C, 0x1EE72, .L), (0x1EE74, 0x1EE77, .L),
  (0x1EE79, 0x1EE7C, .L), (0x1EE7E, 0x1EE7E, .L), (0x1EE80, 0x1EE89, .L), (0x1EE8B, 0x1EE9B, .L),
  (0x1EEA1, 0x1EEA3, .L), (0x1EEA5, 0x1EEA9, .L), (0x1EEAB, 0x1EEBB, .L), (0x1F000, 0x1F02B, .So),
  (0x1F030, 0x1F093, .So), (0x1F0A0, 0x1F0AE, .So), (0x1F0B1, 0x1F0BF, .So),
  (0x1F0C1, 0x1F0CF, .So), (0x1F0D1, 0x1F0F5, .So), (0x1F100, 0x1F10C, .No),
  (0x1F10D, 0x1F1AD, .So), (0x1F1E6, 0x1F202, .So), (0x1F210, 0x1F23B, .So),
  (0x1F240, 0x1F248, .So), (0x1F250, 0x1F251, .So), (0x1F260, 0x1F265, .So),
  (0x1F300, 0x1F3FA, .So), (0x1F400, 0x1F6D8, .So), (0x1F6DC, 0x1F6EC, .So),
  (0x1F6F0, 0x1F6FC, .So), (0x1F700, 0x1F7D9, .So), (0x1F7E0, 0x1F7EB, .So),
  (0x1F7F0, 0x1F7F0, .So), (0x1F800, 0x1F80B, .So), (0x1F810, 0x1F847, .So),
  (0x1F850, 0x1F859, .So), (0x1F860, 0x1F887, .So), (0x1F890, 0x1F8AD, .So),
  (0x1F8B0, 0x1F8BB, .So), (0x1F8C0, 0x1F8C1, .So), (0x1F900, 0x1FA57, .So),
  (0x1FA60, 0x1FA6D, .So), (0x1FA70, 0x1FA7C, .So), (0x1FA80, 0x1FA8A, .So),
  (0x1FA8E, 0x1FAC6, .So), (0x1FAC8, 0x1FAC8, .So), (0x1FACD, 0x1FADC, .So),
  (0x1FADF, 0x1FAEA, .So), (0x1FAEF, 0x1FAF8, .So), (0x1FB00, 0x1FB92, .So),
  (0x1FB94, 0x1FBEF, .So), (0x1FBF0, 0x1FBF9, .Nd), (0x1FBFA, 0x1FBFA, .So), (0x20000, 0x2A6DF, .L),
  (0x2A700, 0x2B81D, .L), (0x2B820, 0x2CEAD, .L), (0x2CEB0, 0x2EBE0, .L), (0x2EBF0, 0x2EE5D, .L),
  (0x2F800, 0x2FA1D, .L), (0x30000, 0x3134A, .L), (0x31350, 0x33479, .L), (0xE0001, 0xE0001, .Cf),
  (0xE0020, 0xE007F, .Cf), (0xE0100, 0xE01EF, .Mn)]

/-- The characters with a category of their own. -/
def categoryRanges : List (Nat × Nat × Category) := basicRanges ++ supplementaryRanges

/-- The general category of a character. -/
def category (c : Char) : Category := categoryIn c.toNat categoryRanges

end Flowchart.Text
