/-!
# Writing directions

Which way the characters of a label run, by the Unicode property Bidi_Class. The table is for the
characters that stand for themselves in domain names; those outside it run from left to right.
-/

namespace BucketDriver.Url

/-- How a character takes part in the direction of a label. -/
inductive Direction where
  /-- A letter that runs from left to right. -/
  | rightward
  /-- A letter that runs from right to left. -/
  | leftward
  /-- A digit that goes with either direction. -/
  | digit
  /-- A digit of the right-to-left scripts. -/
  | arabicDigit
  /-- A sign without a direction of its own. -/
  | neutral
  /-- A mark that takes the direction of the character before it. -/
  | attached
  deriving DecidableEq, Repr

/-- The intervals of code points that do not run from left to right, in ascending order. -/
def directions : List (Nat × Nat × Direction) :=
  [ (0x21, 0x2E, .neutral), (0x30, 0x39, .digit), (0x3B, 0x60, .neutral), (0x7B, 0xD7, .neutral),
    (0xF7, 0xF7, .neutral), (0x2B9, 0x2BA, .neutral), (0x2C2, 0x2CF, .neutral),
    (0x2D2, 0x2ED, .neutral), (0x2EF, 0x2FF, .neutral), (0x300, 0x36F, .attached),
    (0x375, 0x375, .neutral), (0x3F6, 0x3F6, .neutral), (0x483, 0x489, .attached),
    (0x58A, 0x58F, .neutral), (0x591, 0x5BD, .attached), (0x5BE, 0x5BE, .leftward),
    (0x5BF, 0x5BF, .attached), (0x5C0, 0x5C0, .leftward), (0x5C1, 0x5C2, .attached),
    (0x5C3, 0x5C3, .leftward), (0x5C4, 0x5C5, .attached), (0x5C6, 0x5C6, .leftward),
    (0x5C7, 0x5C7, .attached), (0x5D0, 0x5F4, .leftward), (0x606, 0x607, .neutral),
    (0x608, 0x608, .leftward), (0x609, 0x60A, .neutral), (0x60B, 0x60B, .leftward),
    (0x60C, 0x60C, .neutral), (0x60D, 0x60D, .leftward), (0x60E, 0x60F, .neutral),
    (0x610, 0x61A, .attached), (0x61B, 0x64A, .leftward), (0x64B, 0x65F, .attached),
    (0x660, 0x669, .arabicDigit), (0x66A, 0x66A, .neutral), (0x66B, 0x66C, .arabicDigit),
    (0x66D, 0x66F, .leftward), (0x670, 0x670, .attached), (0x671, 0x6D5, .leftward),
    (0x6D6, 0x6DC, .attached), (0x6DE, 0x6DE, .neutral), (0x6DF, 0x6E4, .attached),
    (0x6E5, 0x6E6, .leftward), (0x6E7, 0x6E8, .attached), (0x6E9, 0x6E9, .neutral),
    (0x6EA, 0x6ED, .attached), (0x6EE, 0x6EF, .leftward), (0x6F0, 0x6F9, .digit),
    (0x6FA, 0x710, .leftward), (0x711, 0x711, .attached), (0x712, 0x72F, .leftward),
    (0x730, 0x74A, .attached), (0x74D, 0x7A5, .leftward), (0x7A6, 0x7B0, .attached),
    (0x7B1, 0x7EA, .leftward), (0x7EB, 0x7F3, .attached), (0x7F4, 0x7F5, .leftward),
    (0x7F6, 0x7F9, .neutral), (0x7FA, 0x7FA, .leftward), (0x7FD, 0x7FD, .attached),
    (0x7FE, 0x815, .leftward), (0x816, 0x819, .attached), (0x81A, 0x81A, .leftward),
    (0x81B, 0x823, .attached), (0x824, 0x824, .leftward), (0x825, 0x827, .attached),
    (0x828, 0x828, .leftward), (0x829, 0x82D, .attached), (0x830, 0x858, .leftward),
    (0x859, 0x85B, .attached), (0x85E, 0x88F, .leftward), (0x897, 0x89F, .attached),
    (0x8A0, 0x8C9, .leftward), (0x8CA, 0x902, .attached), (0x93A, 0x93A, .attached),
    (0x93C, 0x93C, .attached), (0x941, 0x948, .attached), (0x94D, 0x94D, .attached),
    (0x951, 0x957, .attached), (0x962, 0x963, .attached), (0x981, 0x981, .attached),
    (0x9BC, 0x9BC, .attached), (0x9C1, 0x9C4, .attached), (0x9CD, 0x9CD, .attached),
    (0x9E2, 0x9E3, .attached), (0x9F2, 0x9F3, .neutral), (0x9FB, 0x9FB, .neutral),
    (0x9FE, 0xA02, .attached), (0xA3C, 0xA3C, .attached), (0xA41, 0xA51, .attached),
    (0xA70, 0xA71, .attached), (0xA75, 0xA75, .attached), (0xA81, 0xA82, .attached),
    (0xABC, 0xABC, .attached), (0xAC1, 0xAC8, .attached), (0xACD, 0xACD, .attached),
    (0xAE2, 0xAE3, .attached), (0xAF1, 0xAF1, .neutral), (0xAFA, 0xB01, .attached),
    (0xB3C, 0xB3C, .attached), (0xB3F, 0xB3F, .attached), (0xB41, 0xB44, .attached),
    (0xB4D, 0xB56, .attached), (0xB62, 0xB63, .attached), (0xB82, 0xB82, .attached),
    (0xBC0, 0xBC0, .attached), (0xBCD, 0xBCD, .attached), (0xBF3, 0xBFA, .neutral),
    (0xC00, 0xC00, .attached), (0xC04, 0xC04, .attached), (0xC3C, 0xC3C, .attached),
    (0xC3E, 0xC40, .attached), (0xC46, 0xC56, .attached), (0xC62, 0xC63, .attached),
    (0xC78, 0xC7E, .neutral), (0xC81, 0xC81, .attached), (0xCBC, 0xCBC, .attached),
    (0xCCC, 0xCCD, .attached), (0xCE2, 0xCE3, .attached), (0xD00, 0xD01, .attached),
    (0xD3B, 0xD3C, .attached), (0xD41, 0xD44, .attached), (0xD4D, 0xD4D, .attached),
    (0xD62, 0xD63, .attached), (0xD81, 0xD81, .attached), (0xDCA, 0xDCA, .attached),
    (0xDD2, 0xDD6, .attached), (0xE31, 0xE31, .attached), (0xE34, 0xE3A, .attached),
    (0xE3F, 0xE3F, .neutral), (0xE47, 0xE4E, .attached), (0xEB1, 0xEB1, .attached),
    (0xEB4, 0xEBC, .attached), (0xEC8, 0xECE, .attached), (0xF18, 0xF19, .attached),
    (0xF35, 0xF35, .attached), (0xF37, 0xF37, .attached), (0xF39, 0xF39, .attached),
    (0xF3A, 0xF3D, .neutral), (0xF71, 0xF7E, .attached), (0xF80, 0xF84, .attached),
    (0xF86, 0xF87, .attached), (0xF8D, 0xFBC, .attached), (0xFC6, 0xFC6, .attached),
    (0x102D, 0x1030, .attached), (0x1032, 0x1037, .attached), (0x1039, 0x103A, .attached),
    (0x103D, 0x103E, .attached), (0x1058, 0x1059, .attached), (0x105E, 0x1060, .attached),
    (0x1071, 0x1074, .attached), (0x1082, 0x1082, .attached), (0x1085, 0x1086, .attached),
    (0x108D, 0x108D, .attached), (0x109D, 0x109D, .attached), (0x135D, 0x135F, .attached),
    (0x1390, 0x1399, .neutral), (0x1400, 0x1400, .neutral), (0x169B, 0x169C, .neutral),
    (0x1712, 0x1714, .attached), (0x1732, 0x1733, .attached), (0x1752, 0x1753, .attached),
    (0x1772, 0x1773, .attached), (0x17B7, 0x17BD, .attached), (0x17C6, 0x17C6, .attached),
    (0x17C9, 0x17D3, .attached), (0x17DB, 0x17DB, .neutral), (0x17DD, 0x17DD, .attached),
    (0x17F0, 0x180A, .neutral), (0x1885, 0x1886, .attached), (0x18A9, 0x18A9, .attached),
    (0x1920, 0x1922, .attached), (0x1927, 0x1928, .attached), (0x1932, 0x1932, .attached),
    (0x1939, 0x193B, .attached), (0x1940, 0x1945, .neutral), (0x19DE, 0x19FF, .neutral),
    (0x1A17, 0x1A18, .attached), (0x1A1B, 0x1A1B, .attached), (0x1A56, 0x1A56, .attached),
    (0x1A58, 0x1A60, .attached), (0x1A62, 0x1A62, .attached), (0x1A65, 0x1A6C, .attached),
    (0x1A73, 0x1A7F, .attached), (0x1AB0, 0x1B03, .attached), (0x1B34, 0x1B34, .attached),
    (0x1B36, 0x1B3A, .attached), (0x1B3C, 0x1B3C, .attached), (0x1B42, 0x1B42, .attached),
    (0x1B6B, 0x1B73, .attached), (0x1B80, 0x1B81, .attached), (0x1BA2, 0x1BA5, .attached),
    (0x1BA8, 0x1BA9, .attached), (0x1BAB, 0x1BAD, .attached), (0x1BE6, 0x1BE6, .attached),
    (0x1BE8, 0x1BE9, .attached), (0x1BED, 0x1BED, .attached), (0x1BEF, 0x1BF1, .attached),
    (0x1C2C, 0x1C33, .attached), (0x1C36, 0x1C37, .attached), (0x1CD0, 0x1CD2, .attached),
    (0x1CD4, 0x1CE0, .attached), (0x1CE2, 0x1CE8, .attached), (0x1CED, 0x1CED, .attached),
    (0x1CF4, 0x1CF4, .attached), (0x1CF8, 0x1CF9, .attached), (0x1DC0, 0x1DFF, .attached),
    (0x200C, 0x20C1, .neutral), (0x20D0, 0x20F0, .attached), (0x2104, 0x214D, .neutral),
    (0x218A, 0x2335, .neutral), (0x237B, 0x2394, .neutral), (0x2396, 0x26AB, .neutral),
    (0x26AD, 0x27FF, .neutral), (0x2900, 0x2BFF, .neutral), (0x2CE5, 0x2CEA, .neutral),
    (0x2CEF, 0x2CF1, .attached), (0x2CF9, 0x2CFF, .neutral), (0x2D7F, 0x2D7F, .attached),
    (0x2DE0, 0x2DFF, .attached), (0x2E00, 0x3004, .neutral), (0x3008, 0x3020, .neutral),
    (0x302A, 0x302D, .attached), (0x3030, 0x3030, .neutral), (0x3037, 0x3037, .neutral),
    (0x303D, 0x303F, .neutral), (0x3099, 0x309A, .attached), (0x30A0, 0x30A0, .neutral),
    (0x30FB, 0x30FB, .neutral), (0x31C0, 0x31E5, .neutral), (0x4DC0, 0x4DFF, .neutral),
    (0xA490, 0xA4C6, .neutral), (0xA60D, 0xA60F, .neutral), (0xA66F, 0xA672, .attached),
    (0xA673, 0xA673, .neutral), (0xA674, 0xA67D, .attached), (0xA67E, 0xA67F, .neutral),
    (0xA69E, 0xA69F, .attached), (0xA6F0, 0xA6F1, .attached), (0xA700, 0xA721, .neutral),
    (0xA788, 0xA788, .neutral), (0xA802, 0xA802, .attached), (0xA806, 0xA806, .attached),
    (0xA80B, 0xA80B, .attached), (0xA825, 0xA826, .attached), (0xA828, 0xA82B, .neutral),
    (0xA82C, 0xA82C, .attached), (0xA838, 0xA839, .neutral), (0xA874, 0xA877, .neutral),
    (0xA8C4, 0xA8C5, .attached), (0xA8E0, 0xA8F1, .attached), (0xA8FF, 0xA8FF, .attached),
    (0xA926, 0xA92D, .attached), (0xA947, 0xA951, .attached), (0xA980, 0xA982, .attached),
    (0xA9B3, 0xA9B3, .attached), (0xA9B6, 0xA9B9, .attached), (0xA9BC, 0xA9BD, .attached),
    (0xA9E5, 0xA9E5, .attached), (0xAA29, 0xAA2E, .attached), (0xAA31, 0xAA32, .attached),
    (0xAA35, 0xAA36, .attached), (0xAA43, 0xAA43, .attached), (0xAA4C, 0xAA4C, .attached),
    (0xAA7C, 0xAA7C, .attached), (0xAAB0, 0xAAB0, .attached), (0xAAB2, 0xAAB4, .attached),
    (0xAAB7, 0xAAB8, .attached), (0xAABE, 0xAABF, .attached), (0xAAC1, 0xAAC1, .attached),
    (0xAAEC, 0xAAED, .attached), (0xAAF6, 0xAAF6, .attached), (0xAB6A, 0xAB6B, .neutral),
    (0xABE5, 0xABE5, .attached), (0xABE8, 0xABE8, .attached), (0xABED, 0xABED, .attached),
    (0xFB1E, 0xFB1E, .attached), (0xFBB2, 0xFBC2, .leftward), (0xFBC3, 0xFDFF, .neutral),
    (0xFE20, 0xFE2F, .attached), (0xFE45, 0xFE46, .neutral), (0xFE73, 0xFE73, .leftward),
    (0x10101, 0x10101, .neutral), (0x10140, 0x1018C, .neutral), (0x10190, 0x101A0, .neutral),
    (0x101FD, 0x101FD, .attached), (0x102E0, 0x102E0, .attached), (0x102E1, 0x102FB, .digit),
    (0x10376, 0x1037A, .attached), (0x10800, 0x1091B, .leftward), (0x1091F, 0x1091F, .neutral),
    (0x10920, 0x10A00, .leftward), (0x10A01, 0x10A0F, .attached), (0x10A10, 0x10A35, .leftward),
    (0x10A38, 0x10A3F, .attached), (0x10A40, 0x10AE4, .leftward), (0x10AE5, 0x10AE6, .attached),
    (0x10AEB, 0x10B35, .leftward), (0x10B39, 0x10B3F, .neutral), (0x10B40, 0x10D23, .leftward),
    (0x10D24, 0x10D27, .attached), (0x10D30, 0x10D49, .arabicDigit), (0x10D4A, 0x10D4F, .leftward),
    (0x10D69, 0x10D6D, .attached), (0x10D6E, 0x10D6E, .neutral), (0x10D6F, 0x10D8F, .leftward),
    (0x10E60, 0x10E7E, .arabicDigit), (0x10E80, 0x10EA9, .leftward), (0x10EAB, 0x10EAC, .attached),
    (0x10EAD, 0x10EC7, .leftward), (0x10ED0, 0x10ED8, .neutral), (0x10EFA, 0x10EFF, .attached),
    (0x10F00, 0x10F45, .leftward), (0x10F46, 0x10F50, .attached), (0x10F51, 0x10F81, .leftward),
    (0x10F82, 0x10F85, .attached), (0x10F86, 0x10FF6, .leftward), (0x11001, 0x11001, .attached),
    (0x11038, 0x11046, .attached), (0x11052, 0x11065, .neutral), (0x11070, 0x11070, .attached),
    (0x11073, 0x11074, .attached), (0x1107F, 0x11081, .attached), (0x110B3, 0x110B6, .attached),
    (0x110B9, 0x110BA, .attached), (0x110C2, 0x110C2, .attached), (0x11100, 0x11102, .attached),
    (0x11127, 0x1112B, .attached), (0x1112D, 0x11134, .attached), (0x11173, 0x11173, .attached),
    (0x11180, 0x11181, .attached), (0x111B6, 0x111BE, .attached), (0x111C9, 0x111CC, .attached),
    (0x111CF, 0x111CF, .attached), (0x1122F, 0x11231, .attached), (0x11234, 0x11234, .attached),
    (0x11236, 0x11237, .attached), (0x1123E, 0x1123E, .attached), (0x11241, 0x11241, .attached),
    (0x112DF, 0x112DF, .attached), (0x112E3, 0x112EA, .attached), (0x11300, 0x11301, .attached),
    (0x1133B, 0x1133C, .attached), (0x11340, 0x11340, .attached), (0x11366, 0x11374, .attached),
    (0x113BB, 0x113C0, .attached), (0x113CE, 0x113CE, .attached), (0x113D0, 0x113D0, .attached),
    (0x113D2, 0x113D2, .attached), (0x113E1, 0x113E2, .attached), (0x11438, 0x1143F, .attached),
    (0x11442, 0x11444, .attached), (0x11446, 0x11446, .attached), (0x1145E, 0x1145E, .attached),
    (0x114B3, 0x114B8, .attached), (0x114BA, 0x114BA, .attached), (0x114BF, 0x114C0, .attached),
    (0x114C2, 0x114C3, .attached), (0x115B2, 0x115B5, .attached), (0x115BC, 0x115BD, .attached),
    (0x115BF, 0x115C0, .attached), (0x115DC, 0x115DD, .attached), (0x11633, 0x1163A, .attached),
    (0x1163D, 0x1163D, .attached), (0x1163F, 0x11640, .attached), (0x11660, 0x1166C, .neutral),
    (0x116AB, 0x116AB, .attached), (0x116AD, 0x116AD, .attached), (0x116B0, 0x116B5, .attached),
    (0x116B7, 0x116B7, .attached), (0x1171D, 0x1171D, .attached), (0x1171F, 0x1171F, .attached),
    (0x11722, 0x11725, .attached), (0x11727, 0x1172B, .attached), (0x1182F, 0x11837, .attached),
    (0x11839, 0x1183A, .attached), (0x1193B, 0x1193C, .attached), (0x1193E, 0x1193E, .attached),
    (0x11943, 0x11943, .attached), (0x119D4, 0x119DB, .attached), (0x119E0, 0x119E0, .attached),
    (0x11A01, 0x11A06, .attached), (0x11A09, 0x11A0A, .attached), (0x11A33, 0x11A38, .attached),
    (0x11A3B, 0x11A3E, .attached), (0x11A47, 0x11A47, .attached), (0x11A51, 0x11A56, .attached),
    (0x11A59, 0x11A5B, .attached), (0x11A8A, 0x11A96, .attached), (0x11A98, 0x11A99, .attached),
    (0x11B60, 0x11B60, .attached), (0x11B62, 0x11B64, .attached), (0x11B66, 0x11B66, .attached),
    (0x11C30, 0x11C3D, .attached), (0x11C92, 0x11CA7, .attached), (0x11CAA, 0x11CB0, .attached),
    (0x11CB2, 0x11CB3, .attached), (0x11CB5, 0x11CB6, .attached), (0x11D31, 0x11D45, .attached),
    (0x11D47, 0x11D47, .attached), (0x11D90, 0x11D91, .attached), (0x11D95, 0x11D95, .attached),
    (0x11D97, 0x11D97, .attached), (0x11EF3, 0x11EF4, .attached), (0x11F00, 0x11F01, .attached),
    (0x11F36, 0x11F3A, .attached), (0x11F40, 0x11F40, .attached), (0x11F42, 0x11F42, .attached),
    (0x11F5A, 0x11F5A, .attached), (0x11FD5, 0x11FF1, .neutral), (0x13440, 0x13440, .attached),
    (0x13447, 0x13455, .attached), (0x1611E, 0x16129, .attached), (0x1612D, 0x1612F, .attached),
    (0x16AF0, 0x16AF4, .attached), (0x16B30, 0x16B36, .attached), (0x16F4F, 0x16F4F, .attached),
    (0x16F8F, 0x16F92, .attached), (0x16FE2, 0x16FE2, .neutral), (0x16FE4, 0x16FE4, .attached),
    (0x1BC9D, 0x1BC9E, .attached), (0x1CC00, 0x1CEF0, .neutral), (0x1CF00, 0x1CF46, .attached),
    (0x1D167, 0x1D169, .attached), (0x1D17B, 0x1D182, .attached), (0x1D185, 0x1D18B, .attached),
    (0x1D1AA, 0x1D1AD, .attached), (0x1D1E9, 0x1D241, .neutral), (0x1D242, 0x1D244, .attached),
    (0x1D245, 0x1D245, .neutral), (0x1D300, 0x1D356, .neutral), (0x1DA00, 0x1DA36, .attached),
    (0x1DA3B, 0x1DA6C, .attached), (0x1DA75, 0x1DA75, .attached), (0x1DA84, 0x1DA84, .attached),
    (0x1DA9B, 0x1DAAF, .attached), (0x1E000, 0x1E08F, .attached), (0x1E130, 0x1E136, .attached),
    (0x1E2AE, 0x1E2AE, .attached), (0x1E2EC, 0x1E2EF, .attached), (0x1E2FF, 0x1E2FF, .neutral),
    (0x1E4EC, 0x1E4EF, .attached), (0x1E5EE, 0x1E5EF, .attached), (0x1E6E3, 0x1E6E3, .attached),
    (0x1E6E6, 0x1E6E6, .attached), (0x1E6EE, 0x1E6EF, .attached), (0x1E6F5, 0x1E6F5, .attached),
    (0x1E800, 0x1E8CF, .leftward), (0x1E8D0, 0x1E8D6, .attached), (0x1E922, 0x1E943, .leftward),
    (0x1E944, 0x1E94A, .attached), (0x1E94B, 0x1ED3D, .leftward), (0x1EEF0, 0x1F12F, .neutral),
    (0x1F16D, 0x1F16F, .neutral), (0x1F1AD, 0x1F1AD, .neutral), (0x1F260, 0x1FBFA, .neutral)]

/-- The direction of a character. -/
def directionOf (c : Char) : Direction :=
  match directions.find? fun (lo, hi, _) => lo ≤ c.toNat && c.toNat ≤ hi with
  | some (_, _, d) => d
  | none => .rightward

end BucketDriver.Url
