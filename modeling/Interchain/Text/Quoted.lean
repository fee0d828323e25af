import Interchain.Text.Blank

/-
  Identifiers between quotation marks.

  Letters and digits are written as they are.  A combining
  mark would attach to the character before it, and a filler
  would not be seen, so each of these is written as an escape
  that names its code point: `\u{345}`.

  Main declarations:
    * `Text.quoted`
-/

------------------------------------------------------------
-- Combining Marks and Fillers
------------------------------------------------------------

namespace Interchain

namespace Text

/-
  The alphanumeric marks with the property Grapheme_Extend, in
  version 17.0 of the standard.  The two halfwidth sound marks
  of Katakana have the property too, but they are letters that
  take a place of their own, so they are not listed.
-/
def combiningRanges : List (Nat × Nat) :=
  [
    (0x345, 0x345), (0x363, 0x36F), (0x5B0, 0x5BD), (0x5BF, 0x5BF),
    (0x5C1, 0x5C2), (0x5C4, 0x5C5), (0x5C7, 0x5C7), (0x610, 0x61A),
    (0x64B, 0x657), (0x659, 0x65F), (0x670, 0x670), (0x6D6, 0x6DC),
    (0x6E1, 0x6E4), (0x6E7, 0x6E8), (0x6ED, 0x6ED), (0x711, 0x711),
    (0x730, 0x73F), (0x7A6, 0x7B0), (0x816, 0x817), (0x81B, 0x823),
    (0x825, 0x827), (0x829, 0x82C), (0x897, 0x897), (0x8D4, 0x8DF),
    (0x8E3, 0x8E9), (0x8F0, 0x902), (0x93A, 0x93A), (0x941, 0x948),
    (0x955, 0x957), (0x962, 0x963), (0x981, 0x981), (0x9BE, 0x9BE),
    (0x9C1, 0x9C4), (0x9D7, 0x9D7), (0x9E2, 0x9E3), (0xA01, 0xA02),
    (0xA41, 0xA42), (0xA47, 0xA48), (0xA4B, 0xA4C), (0xA51, 0xA51),
    (0xA70, 0xA71), (0xA75, 0xA75), (0xA81, 0xA82), (0xAC1, 0xAC5),
    (0xAC7, 0xAC8), (0xAE2, 0xAE3), (0xAFA, 0xAFC), (0xB01, 0xB01),
    (0xB3E, 0xB3F), (0xB41, 0xB44), (0xB56, 0xB57), (0xB62, 0xB63),
    (0xB82, 0xB82), (0xBBE, 0xBBE), (0xBC0, 0xBC0), (0xBD7, 0xBD7),
    (0xC00, 0xC00), (0xC04, 0xC04), (0xC3E, 0xC40), (0xC46, 0xC48),
    (0xC4A, 0xC4C), (0xC55, 0xC56), (0xC62, 0xC63), (0xC81, 0xC81),
    (0xCBF, 0xCC0), (0xCC2, 0xCC2), (0xCC6, 0xCC8), (0xCCA, 0xCCC),
    (0xCD5, 0xCD6), (0xCE2, 0xCE3), (0xD00, 0xD01), (0xD3E, 0xD3E),
    (0xD41, 0xD44), (0xD57, 0xD57), (0xD62, 0xD63), (0xD81, 0xD81),
    (0xDCF, 0xDCF), (0xDD2, 0xDD4), (0xDD6, 0xDD6), (0xDDF, 0xDDF),
    (0xE31, 0xE31), (0xE34, 0xE3A), (0xE4D, 0xE4D), (0xEB1, 0xEB1),
    (0xEB4, 0xEB9), (0xEBB, 0xEBC), (0xECD, 0xECD), (0xF71, 0xF7E),
    (0xF80, 0xF83), (0xF8D, 0xF97), (0xF99, 0xFBC), (0x102D, 0x1030),
    (0x1032, 0x1036), (0x103D, 0x103E), (0x1058, 0x1059),
    (0x105E, 0x1060), (0x1071, 0x1074), (0x1082, 0x1082),
    (0x1085, 0x1086), (0x108D, 0x108D), (0x109D, 0x109D),
    (0x1712, 0x1713), (0x1732, 0x1733), (0x1752, 0x1753),
    (0x1772, 0x1773), (0x17B7, 0x17BD), (0x17C6, 0x17C6),
    (0x1885, 0x1886), (0x18A9, 0x18A9), (0x1920, 0x1922),
    (0x1927, 0x1928), (0x1932, 0x1932), (0x1A17, 0x1A18),
    (0x1A1B, 0x1A1B), (0x1A56, 0x1A56), (0x1A58, 0x1A5E),
    (0x1A62, 0x1A62), (0x1A65, 0x1A6C), (0x1A73, 0x1A74),
    (0x1ABF, 0x1AC0), (0x1ACC, 0x1ACE), (0x1B00, 0x1B03),
    (0x1B35, 0x1B3D), (0x1B42, 0x1B43), (0x1B80, 0x1B81),
    (0x1BA2, 0x1BA5), (0x1BA8, 0x1BA9), (0x1BAC, 0x1BAD),
    (0x1BE8, 0x1BE9), (0x1BED, 0x1BED), (0x1BEF, 0x1BF1),
    (0x1C2C, 0x1C33), (0x1C36, 0x1C36), (0x1DD3, 0x1DF4),
    (0x2DE0, 0x2DFF), (0xA674, 0xA67B), (0xA69E, 0xA69F),
    (0xA802, 0xA802), (0xA80B, 0xA80B), (0xA825, 0xA826),
    (0xA8C5, 0xA8C5), (0xA8FF, 0xA8FF), (0xA926, 0xA92A),
    (0xA947, 0xA951), (0xA980, 0xA982), (0xA9B6, 0xA9B9),
    (0xA9BC, 0xA9BD), (0xA9E5, 0xA9E5), (0xAA29, 0xAA2E),
    (0xAA31, 0xAA32), (0xAA35, 0xAA36), (0xAA43, 0xAA43),
    (0xAA4C, 0xAA4C), (0xAA7C, 0xAA7C), (0xAAB0, 0xAAB0),
    (0xAAB2, 0xAAB4), (0xAAB7, 0xAAB8), (0xAABE, 0xAABE),
    (0xAAEC, 0xAAED), (0xABE5, 0xABE5), (0xABE8, 0xABE8),
    (0xFB1E, 0xFB1E), (0x10376, 0x1037A), (0x10A01, 0x10A03),
    (0x10A05, 0x10A06), (0x10A0C, 0x10A0F), (0x10D24, 0x10D27),
    (0x10D69, 0x10D69), (0x10EAB, 0x10EAC), (0x10EFA, 0x10EFC),
    (0x11001, 0x11001), (0x11038, 0x11045), (0x11073, 0x11074),
    (0x11080, 0x11081), (0x110B3, 0x110B6), (0x110C2, 0x110C2),
    (0x11100, 0x11102), (0x11127, 0x1112B), (0x1112D, 0x11132),
    (0x11180, 0x11181), (0x111B6, 0x111BE), (0x111CF, 0x111CF),
    (0x1122F, 0x11231), (0x11234, 0x11234), (0x11237, 0x11237),
    (0x1123E, 0x1123E), (0x11241, 0x11241), (0x112DF, 0x112DF),
    (0x112E3, 0x112E8), (0x11300, 0x11301), (0x1133E, 0x1133E),
    (0x11340, 0x11340), (0x11357, 0x11357), (0x113B8, 0x113B8),
    (0x113BB, 0x113C0), (0x113C2, 0x113C2), (0x113C5, 0x113C5),
    (0x113C7, 0x113C9), (0x11438, 0x1143F), (0x11443, 0x11444),
    (0x114B0, 0x114B0), (0x114B3, 0x114B8), (0x114BA, 0x114BA),
    (0x114BD, 0x114BD), (0x114BF, 0x114C0), (0x115AF, 0x115AF),
    (0x115B2, 0x115B5), (0x115BC, 0x115BD), (0x115DC, 0x115DD),
    (0x11633, 0x1163A), (0x1163D, 0x1163D), (0x11640, 0x11640),
    (0x116AB, 0x116AB), (0x116AD, 0x116AD), (0x116B0, 0x116B5),
    (0x1171D, 0x1171D), (0x1171F, 0x1171F), (0x11722, 0x11725),
    (0x11727, 0x1172A), (0x1182F, 0x11837), (0x11930, 0x11930),
    (0x1193B, 0x1193C), (0x119D4, 0x119D7), (0x119DA, 0x119DB),
    (0x11A01, 0x11A0A), (0x11A35, 0x11A38), (0x11A3B, 0x11A3E),
    (0x11A51, 0x11A56), (0x11A59, 0x11A5B), (0x11A8A, 0x11A96),
    (0x11B60, 0x11B60), (0x11B62, 0x11B64), (0x11B66, 0x11B66),
    (0x11C30, 0x11C36), (0x11C38, 0x11C3D), (0x11C92, 0x11CA7),
    (0x11CAA, 0x11CB0), (0x11CB2, 0x11CB3), (0x11CB5, 0x11CB6),
    (0x11D31, 0x11D36), (0x11D3A, 0x11D3A), (0x11D3C, 0x11D3D),
    (0x11D3F, 0x11D41), (0x11D43, 0x11D43), (0x11D47, 0x11D47),
    (0x11D90, 0x11D91), (0x11D95, 0x11D95), (0x11EF3, 0x11EF4),
    (0x11F00, 0x11F01), (0x11F36, 0x11F3A), (0x11F40, 0x11F40),
    (0x1611E, 0x16129), (0x1612D, 0x1612E), (0x16F4F, 0x16F4F),
    (0x16F8F, 0x16F92), (0x16FF0, 0x16FF1), (0x1BC9E, 0x1BC9E),
    (0x1E000, 0x1E006), (0x1E008, 0x1E018), (0x1E01B, 0x1E021),
    (0x1E023, 0x1E024), (0x1E026, 0x1E02A), (0x1E08F, 0x1E08F),
    (0x1E6E3, 0x1E6E3), (0x1E6E6, 0x1E6E6), (0x1E6EE, 0x1E6EF),
    (0x1E6F5, 0x1E6F5), (0x1E947, 0x1E947)
  ]

/-
  The alphanumeric code points with the property
  Default_Ignorable_Code_Point: the fillers of Hangul.
-/
def fillerRanges : List (Nat × Nat) :=
  [ (0x115F, 0x1160), (0x3164, 0x3164), (0xFFA0, 0xFFA0) ]

/- An alphanumeric mark that extends the character before. -/
def isCombining (c : Char) : Bool :=
  0x7F < c.toNat && inRanges combiningRanges c

/- An alphanumeric character that shows nothing. -/
def isFiller (c : Char) : Bool :=
  inRanges fillerRanges c

end Text

end Interchain

------------------------------------------------------------
-- Quotation
------------------------------------------------------------

namespace Interchain

namespace Text

/- One character of a quoted text. -/
def quotedChar (c : Char) : List Char :=
  if isCombining c || isFiller c then
    "\\u\x7b".toList ++ Nat.toDigits 16 c.toNat ++ ['}']
  else if c = '"' ∨ c = '\\' then
    ['\\', c]
  else
    [c]

/- A text between quotation marks. -/
def quoted (s : String) : String :=
  String.ofList
    ('"' :: s.toList.flatMap quotedChar ++ ['"'])

end Text

end Interchain
