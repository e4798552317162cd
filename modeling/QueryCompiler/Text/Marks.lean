import QueryCompiler.Text.CodeSet

/-!
# Combining marks

The characters of general category Mark (Mn, Mc, Me) in Unicode 17.0. A domain label may not
begin with one.
-/

namespace QueryCompiler

namespace Text

/-- Characters of general category Mark. -/
def markSet : CodeSet := CodeSet.ofRuns [
  ⟨0x300, 112, 1⟩, ⟨0x483, 7, 1⟩, ⟨0x591, 45, 1⟩, ⟨0x5BF, 2, 2⟩, ⟨0x5C2, 2, 2⟩, ⟨0x5C5, 2, 2⟩,
  ⟨0x610, 11, 1⟩, ⟨0x64B, 21, 1⟩, ⟨0x670, 1, 1⟩, ⟨0x6D6, 7, 1⟩, ⟨0x6DF, 6, 1⟩, ⟨0x6E7, 2, 1⟩,
  ⟨0x6EA, 4, 1⟩, ⟨0x711, 1, 1⟩, ⟨0x730, 27, 1⟩, ⟨0x7A6, 11, 1⟩, ⟨0x7EB, 9, 1⟩, ⟨0x7FD, 1, 1⟩,
  ⟨0x816, 4, 1⟩, ⟨0x81B, 9, 1⟩, ⟨0x825, 3, 1⟩, ⟨0x829, 5, 1⟩, ⟨0x859, 3, 1⟩, ⟨0x897, 9, 1⟩,
  ⟨0x8CA, 24, 1⟩, ⟨0x8E3, 33, 1⟩, ⟨0x93A, 3, 1⟩, ⟨0x93E, 18, 1⟩, ⟨0x951, 7, 1⟩, ⟨0x962, 2, 1⟩,
  ⟨0x981, 3, 1⟩, ⟨0x9BC, 2, 2⟩, ⟨0x9BF, 6, 1⟩, ⟨0x9C7, 2, 1⟩, ⟨0x9CB, 3, 1⟩, ⟨0x9D7, 1, 1⟩,
  ⟨0x9E2, 2, 1⟩, ⟨0x9FE, 1, 1⟩, ⟨0xA01, 3, 1⟩, ⟨0xA3C, 2, 2⟩, ⟨0xA3F, 4, 1⟩, ⟨0xA47, 2, 1⟩,
  ⟨0xA4B, 3, 1⟩, ⟨0xA51, 1, 1⟩, ⟨0xA70, 2, 1⟩, ⟨0xA75, 1, 1⟩, ⟨0xA81, 3, 1⟩, ⟨0xABC, 2, 2⟩,
  ⟨0xABF, 7, 1⟩, ⟨0xAC7, 3, 1⟩, ⟨0xACB, 3, 1⟩, ⟨0xAE2, 2, 1⟩, ⟨0xAFA, 6, 1⟩, ⟨0xB01, 3, 1⟩,
  ⟨0xB3C, 2, 2⟩, ⟨0xB3F, 6, 1⟩, ⟨0xB47, 2, 1⟩, ⟨0xB4B, 3, 1⟩, ⟨0xB55, 3, 1⟩, ⟨0xB62, 2, 1⟩,
  ⟨0xB82, 1, 1⟩, ⟨0xBBE, 5, 1⟩, ⟨0xBC6, 3, 1⟩, ⟨0xBCA, 4, 1⟩, ⟨0xBD7, 1, 1⟩, ⟨0xC00, 5, 1⟩,
  ⟨0xC3C, 2, 2⟩, ⟨0xC3F, 6, 1⟩, ⟨0xC46, 3, 1⟩, ⟨0xC4A, 4, 1⟩, ⟨0xC55, 2, 1⟩, ⟨0xC62, 2, 1⟩,
  ⟨0xC81, 3, 1⟩, ⟨0xCBC, 2, 2⟩, ⟨0xCBF, 6, 1⟩, ⟨0xCC6, 3, 1⟩, ⟨0xCCA, 4, 1⟩, ⟨0xCD5, 2, 1⟩,
  ⟨0xCE2, 2, 1⟩, ⟨0xCF3, 1, 1⟩, ⟨0xD00, 4, 1⟩, ⟨0xD3B, 2, 1⟩, ⟨0xD3E, 7, 1⟩, ⟨0xD46, 3, 1⟩,
  ⟨0xD4A, 4, 1⟩, ⟨0xD57, 1, 1⟩, ⟨0xD62, 2, 1⟩, ⟨0xD81, 3, 1⟩, ⟨0xDCA, 1, 1⟩, ⟨0xDCF, 6, 1⟩,
  ⟨0xDD6, 2, 2⟩, ⟨0xDD9, 7, 1⟩, ⟨0xDF2, 2, 1⟩, ⟨0xE31, 1, 1⟩, ⟨0xE34, 7, 1⟩, ⟨0xE47, 8, 1⟩,
  ⟨0xEB1, 1, 1⟩, ⟨0xEB4, 9, 1⟩, ⟨0xEC8, 7, 1⟩, ⟨0xF18, 2, 1⟩, ⟨0xF35, 3, 2⟩, ⟨0xF3E, 2, 1⟩,
  ⟨0xF71, 20, 1⟩, ⟨0xF86, 2, 1⟩, ⟨0xF8D, 11, 1⟩, ⟨0xF99, 36, 1⟩, ⟨0xFC6, 1, 1⟩,
  ⟨0x102B, 20, 1⟩, ⟨0x1056, 4, 1⟩, ⟨0x105E, 3, 1⟩, ⟨0x1062, 3, 1⟩, ⟨0x1067, 7, 1⟩,
  ⟨0x1071, 4, 1⟩, ⟨0x1082, 12, 1⟩, ⟨0x108F, 1, 1⟩, ⟨0x109A, 4, 1⟩, ⟨0x135D, 3, 1⟩,
  ⟨0x1712, 4, 1⟩, ⟨0x1732, 3, 1⟩, ⟨0x1752, 2, 1⟩, ⟨0x1772, 2, 1⟩, ⟨0x17B4, 32, 1⟩,
  ⟨0x17DD, 1, 1⟩, ⟨0x180B, 3, 1⟩, ⟨0x180F, 1, 1⟩, ⟨0x1885, 2, 1⟩, ⟨0x18A9, 1, 1⟩,
  ⟨0x1920, 12, 1⟩, ⟨0x1930, 12, 1⟩, ⟨0x1A17, 5, 1⟩, ⟨0x1A55, 10, 1⟩, ⟨0x1A60, 29, 1⟩,
  ⟨0x1A7F, 1, 1⟩, ⟨0x1AB0, 46, 1⟩, ⟨0x1AE0, 12, 1⟩, ⟨0x1B00, 5, 1⟩, ⟨0x1B34, 17, 1⟩,
  ⟨0x1B6B, 9, 1⟩, ⟨0x1B80, 3, 1⟩, ⟨0x1BA1, 13, 1⟩, ⟨0x1BE6, 14, 1⟩, ⟨0x1C24, 20, 1⟩,
  ⟨0x1CD0, 3, 1⟩, ⟨0x1CD4, 21, 1⟩, ⟨0x1CED, 1, 1⟩, ⟨0x1CF4, 1, 1⟩, ⟨0x1CF7, 3, 1⟩,
  ⟨0x1DC0, 64, 1⟩, ⟨0x20D0, 33, 1⟩, ⟨0x2CEF, 3, 1⟩, ⟨0x2D7F, 1, 1⟩, ⟨0x2DE0, 32, 1⟩,
  ⟨0x302A, 6, 1⟩, ⟨0x3099, 2, 1⟩, ⟨0xA66F, 4, 1⟩, ⟨0xA674, 10, 1⟩, ⟨0xA69E, 2, 1⟩,
  ⟨0xA6F0, 2, 1⟩, ⟨0xA802, 1, 1⟩, ⟨0xA806, 1, 1⟩, ⟨0xA80B, 1, 1⟩, ⟨0xA823, 5, 1⟩,
  ⟨0xA82C, 1, 1⟩, ⟨0xA880, 2, 1⟩, ⟨0xA8B4, 18, 1⟩, ⟨0xA8E0, 18, 1⟩, ⟨0xA8FF, 1, 1⟩,
  ⟨0xA926, 8, 1⟩, ⟨0xA947, 13, 1⟩, ⟨0xA980, 4, 1⟩, ⟨0xA9B3, 14, 1⟩, ⟨0xA9E5, 1, 1⟩,
  ⟨0xAA29, 14, 1⟩, ⟨0xAA43, 1, 1⟩, ⟨0xAA4C, 2, 1⟩, ⟨0xAA7B, 3, 1⟩, ⟨0xAAB0, 2, 2⟩,
  ⟨0xAAB3, 2, 1⟩, ⟨0xAAB7, 2, 1⟩, ⟨0xAABE, 2, 1⟩, ⟨0xAAC1, 1, 1⟩, ⟨0xAAEB, 5, 1⟩,
  ⟨0xAAF5, 2, 1⟩, ⟨0xABE3, 8, 1⟩, ⟨0xABEC, 2, 1⟩, ⟨0xFB1E, 1, 1⟩, ⟨0xFE00, 16, 1⟩,
  ⟨0xFE20, 16, 1⟩, ⟨0x101FD, 1, 1⟩, ⟨0x102E0, 1, 1⟩, ⟨0x10376, 5, 1⟩, ⟨0x10A01, 3, 1⟩,
  ⟨0x10A05, 2, 1⟩, ⟨0x10A0C, 4, 1⟩, ⟨0x10A38, 3, 1⟩, ⟨0x10A3F, 1, 1⟩, ⟨0x10AE5, 2, 1⟩,
  ⟨0x10D24, 4, 1⟩, ⟨0x10D69, 5, 1⟩, ⟨0x10EAB, 2, 1⟩, ⟨0x10EFA, 6, 1⟩, ⟨0x10F46, 11, 1⟩,
  ⟨0x10F82, 4, 1⟩, ⟨0x11000, 3, 1⟩, ⟨0x11038, 15, 1⟩, ⟨0x11070, 1, 1⟩, ⟨0x11073, 2, 1⟩,
  ⟨0x1107F, 4, 1⟩, ⟨0x110B0, 11, 1⟩, ⟨0x110C2, 1, 1⟩, ⟨0x11100, 3, 1⟩, ⟨0x11127, 14, 1⟩,
  ⟨0x11145, 2, 1⟩, ⟨0x11173, 1, 1⟩, ⟨0x11180, 3, 1⟩, ⟨0x111B3, 14, 1⟩, ⟨0x111C9, 4, 1⟩,
  ⟨0x111CE, 2, 1⟩, ⟨0x1122C, 12, 1⟩, ⟨0x1123E, 1, 1⟩, ⟨0x11241, 1, 1⟩, ⟨0x112DF, 12, 1⟩,
  ⟨0x11300, 4, 1⟩, ⟨0x1133B, 2, 1⟩, ⟨0x1133E, 7, 1⟩, ⟨0x11347, 2, 1⟩, ⟨0x1134B, 3, 1⟩,
  ⟨0x11357, 1, 1⟩, ⟨0x11362, 2, 1⟩, ⟨0x11366, 7, 1⟩, ⟨0x11370, 5, 1⟩, ⟨0x113B8, 9, 1⟩,
  ⟨0x113C2, 1, 1⟩, ⟨0x113C5, 2, 2⟩, ⟨0x113C8, 3, 1⟩, ⟨0x113CC, 5, 1⟩, ⟨0x113D2, 1, 1⟩,
  ⟨0x113E1, 2, 1⟩, ⟨0x11435, 18, 1⟩, ⟨0x1145E, 1, 1⟩, ⟨0x114B0, 20, 1⟩, ⟨0x115AF, 7, 1⟩,
  ⟨0x115B8, 9, 1⟩, ⟨0x115DC, 2, 1⟩, ⟨0x11630, 17, 1⟩, ⟨0x116AB, 13, 1⟩, ⟨0x1171D, 15, 1⟩,
  ⟨0x1182C, 15, 1⟩, ⟨0x11930, 6, 1⟩, ⟨0x11937, 2, 1⟩, ⟨0x1193B, 4, 1⟩, ⟨0x11940, 2, 2⟩,
  ⟨0x11943, 1, 1⟩, ⟨0x119D1, 7, 1⟩, ⟨0x119DA, 7, 1⟩, ⟨0x119E4, 1, 1⟩, ⟨0x11A01, 10, 1⟩,
  ⟨0x11A33, 7, 1⟩, ⟨0x11A3B, 4, 1⟩, ⟨0x11A47, 1, 1⟩, ⟨0x11A51, 11, 1⟩, ⟨0x11A8A, 16, 1⟩,
  ⟨0x11B60, 8, 1⟩, ⟨0x11C2F, 8, 1⟩, ⟨0x11C38, 8, 1⟩, ⟨0x11C92, 22, 1⟩, ⟨0x11CA9, 14, 1⟩,
  ⟨0x11D31, 6, 1⟩, ⟨0x11D3A, 2, 2⟩, ⟨0x11D3D, 2, 2⟩, ⟨0x11D40, 6, 1⟩, ⟨0x11D47, 1, 1⟩,
  ⟨0x11D8A, 5, 1⟩, ⟨0x11D90, 2, 1⟩, ⟨0x11D93, 5, 1⟩, ⟨0x11EF3, 4, 1⟩, ⟨0x11F00, 2, 1⟩,
  ⟨0x11F03, 1, 1⟩, ⟨0x11F34, 7, 1⟩, ⟨0x11F3E, 5, 1⟩, ⟨0x11F5A, 1, 1⟩, ⟨0x13440, 1, 1⟩,
  ⟨0x13447, 15, 1⟩, ⟨0x1611E, 18, 1⟩, ⟨0x16AF0, 5, 1⟩, ⟨0x16B30, 7, 1⟩, ⟨0x16F4F, 2, 2⟩,
  ⟨0x16F52, 54, 1⟩, ⟨0x16F8F, 4, 1⟩, ⟨0x16FE4, 1, 1⟩, ⟨0x16FF0, 2, 1⟩, ⟨0x1BC9D, 2, 1⟩,
  ⟨0x1CF00, 46, 1⟩, ⟨0x1CF30, 23, 1⟩, ⟨0x1D165, 5, 1⟩, ⟨0x1D16D, 6, 1⟩, ⟨0x1D17B, 8, 1⟩,
  ⟨0x1D185, 7, 1⟩, ⟨0x1D1AA, 4, 1⟩, ⟨0x1D242, 3, 1⟩, ⟨0x1DA00, 55, 1⟩, ⟨0x1DA3B, 50, 1⟩,
  ⟨0x1DA75, 1, 1⟩, ⟨0x1DA84, 1, 1⟩, ⟨0x1DA9B, 5, 1⟩, ⟨0x1DAA1, 15, 1⟩, ⟨0x1E000, 7, 1⟩,
  ⟨0x1E008, 17, 1⟩, ⟨0x1E01B, 7, 1⟩, ⟨0x1E023, 2, 1⟩, ⟨0x1E026, 5, 1⟩, ⟨0x1E08F, 1, 1⟩,
  ⟨0x1E130, 7, 1⟩, ⟨0x1E2AE, 1, 1⟩, ⟨0x1E2EC, 4, 1⟩, ⟨0x1E4EC, 4, 1⟩, ⟨0x1E5EE, 2, 1⟩,
  ⟨0x1E6E3, 1, 1⟩, ⟨0x1E6E6, 1, 1⟩, ⟨0x1E6EE, 2, 1⟩, ⟨0x1E6F5, 1, 1⟩, ⟨0x1E8D0, 7, 1⟩,
  ⟨0x1E944, 7, 1⟩, ⟨0xE0100, 240, 1⟩]

/-- Whether a character is a combining mark. -/
def isMark (c : Char) : Bool := markSet.contains c

end Text

end QueryCompiler
