import QueryCompiler.Text.CodeSet

/-!
# Case tables

The Unicode 17.0 data behind case conversion: the Lowercase, Uppercase, Cased and
Case_Ignorable properties, and the full upper- and lowercase mappings of single characters
(UnicodeData together with the unconditional rules of SpecialCasing).

A mapping that shifts a character by a fixed amount is stored as a run of characters sharing
that shift; a character that maps to several is listed with its expansion. A character found in
neither maps to itself.
-/

namespace QueryCompiler

namespace Text

/-- Characters with the Lowercase property. -/
def lowercaseSet : CodeSet := CodeSet.ofRuns [
  ⟨0x61, 26, 1⟩, ⟨0xAA, 1, 1⟩, ⟨0xB5, 1, 1⟩, ⟨0xBA, 1, 1⟩, ⟨0xDF, 24, 1⟩, ⟨0xF8, 8, 1⟩,
  ⟨0x101, 28, 2⟩, ⟨0x138, 9, 2⟩, ⟨0x149, 24, 2⟩, ⟨0x17A, 3, 2⟩, ⟨0x17F, 2, 1⟩, ⟨0x183, 2, 2⟩,
  ⟨0x188, 1, 1⟩, ⟨0x18C, 2, 1⟩, ⟨0x192, 1, 1⟩, ⟨0x195, 1, 1⟩, ⟨0x199, 3, 1⟩, ⟨0x19E, 1, 1⟩,
  ⟨0x1A1, 3, 2⟩, ⟨0x1A8, 2, 2⟩, ⟨0x1AB, 2, 2⟩, ⟨0x1B0, 1, 1⟩, ⟨0x1B4, 2, 2⟩, ⟨0x1B9, 2, 1⟩,
  ⟨0x1BD, 3, 1⟩, ⟨0x1C6, 1, 1⟩, ⟨0x1C9, 1, 1⟩, ⟨0x1CC, 9, 2⟩, ⟨0x1DD, 10, 2⟩, ⟨0x1F0, 1, 1⟩,
  ⟨0x1F3, 2, 2⟩, ⟨0x1F9, 30, 2⟩, ⟨0x234, 6, 1⟩, ⟨0x23C, 1, 1⟩, ⟨0x23F, 2, 1⟩, ⟨0x242, 1, 1⟩,
  ⟨0x247, 5, 2⟩, ⟨0x250, 68, 1⟩, ⟨0x296, 35, 1⟩, ⟨0x2C0, 2, 1⟩, ⟨0x2E0, 5, 1⟩, ⟨0x345, 1, 1⟩,
  ⟨0x371, 2, 2⟩, ⟨0x377, 1, 1⟩, ⟨0x37A, 4, 1⟩, ⟨0x390, 1, 1⟩, ⟨0x3AC, 35, 1⟩, ⟨0x3D0, 2, 1⟩,
  ⟨0x3D5, 3, 1⟩, ⟨0x3D9, 12, 2⟩, ⟨0x3F0, 4, 1⟩, ⟨0x3F5, 1, 1⟩, ⟨0x3F8, 1, 1⟩, ⟨0x3FB, 2, 1⟩,
  ⟨0x430, 48, 1⟩, ⟨0x461, 17, 2⟩, ⟨0x48B, 27, 2⟩, ⟨0x4C2, 7, 2⟩, ⟨0x4CF, 49, 2⟩,
  ⟨0x560, 41, 1⟩, ⟨0x10D0, 43, 1⟩, ⟨0x10FC, 4, 1⟩, ⟨0x13F8, 6, 1⟩, ⟨0x1C80, 9, 1⟩,
  ⟨0x1C8A, 1, 1⟩, ⟨0x1D00, 192, 1⟩, ⟨0x1E01, 75, 2⟩, ⟨0x1E96, 8, 1⟩, ⟨0x1E9F, 49, 2⟩,
  ⟨0x1F00, 8, 1⟩, ⟨0x1F10, 6, 1⟩, ⟨0x1F20, 8, 1⟩, ⟨0x1F30, 8, 1⟩, ⟨0x1F40, 6, 1⟩,
  ⟨0x1F50, 8, 1⟩, ⟨0x1F60, 8, 1⟩, ⟨0x1F70, 14, 1⟩, ⟨0x1F80, 8, 1⟩, ⟨0x1F90, 8, 1⟩,
  ⟨0x1FA0, 8, 1⟩, ⟨0x1FB0, 5, 1⟩, ⟨0x1FB6, 2, 1⟩, ⟨0x1FBE, 1, 1⟩, ⟨0x1FC2, 3, 1⟩,
  ⟨0x1FC6, 2, 1⟩, ⟨0x1FD0, 4, 1⟩, ⟨0x1FD6, 2, 1⟩, ⟨0x1FE0, 8, 1⟩, ⟨0x1FF2, 3, 1⟩,
  ⟨0x1FF6, 2, 1⟩, ⟨0x2071, 1, 1⟩, ⟨0x207F, 1, 1⟩, ⟨0x2090, 13, 1⟩, ⟨0x210A, 1, 1⟩,
  ⟨0x210E, 2, 1⟩, ⟨0x2113, 1, 1⟩, ⟨0x212F, 1, 1⟩, ⟨0x2134, 1, 1⟩, ⟨0x2139, 1, 1⟩,
  ⟨0x213C, 2, 1⟩, ⟨0x2146, 4, 1⟩, ⟨0x214E, 1, 1⟩, ⟨0x2170, 16, 1⟩, ⟨0x2184, 1, 1⟩,
  ⟨0x24D0, 26, 1⟩, ⟨0x2C30, 48, 1⟩, ⟨0x2C61, 1, 1⟩, ⟨0x2C65, 2, 1⟩, ⟨0x2C68, 3, 2⟩,
  ⟨0x2C71, 2, 2⟩, ⟨0x2C74, 2, 2⟩, ⟨0x2C77, 7, 1⟩, ⟨0x2C81, 50, 2⟩, ⟨0x2CE4, 1, 1⟩,
  ⟨0x2CEC, 2, 2⟩, ⟨0x2CF3, 1, 1⟩, ⟨0x2D00, 38, 1⟩, ⟨0x2D27, 1, 1⟩, ⟨0x2D2D, 1, 1⟩,
  ⟨0xA641, 23, 2⟩, ⟨0xA681, 14, 2⟩, ⟨0xA69C, 2, 1⟩, ⟨0xA723, 7, 2⟩, ⟨0xA730, 2, 1⟩,
  ⟨0xA733, 31, 2⟩, ⟨0xA770, 9, 1⟩, ⟨0xA77A, 2, 2⟩, ⟨0xA77F, 5, 2⟩, ⟨0xA78C, 2, 2⟩,
  ⟨0xA791, 2, 2⟩, ⟨0xA794, 2, 1⟩, ⟨0xA797, 10, 2⟩, ⟨0xA7AF, 1, 1⟩, ⟨0xA7B5, 8, 2⟩,
  ⟨0xA7C8, 2, 2⟩, ⟨0xA7CD, 8, 2⟩, ⟨0xA7F1, 4, 1⟩, ⟨0xA7F6, 2, 2⟩, ⟨0xA7F9, 2, 1⟩,
  ⟨0xAB30, 43, 1⟩, ⟨0xAB5C, 14, 1⟩, ⟨0xAB70, 80, 1⟩, ⟨0xFB00, 7, 1⟩, ⟨0xFB13, 5, 1⟩,
  ⟨0xFF41, 26, 1⟩, ⟨0x10428, 40, 1⟩, ⟨0x104D8, 36, 1⟩, ⟨0x10597, 11, 1⟩, ⟨0x105A3, 15, 1⟩,
  ⟨0x105B3, 7, 1⟩, ⟨0x105BB, 2, 1⟩, ⟨0x10780, 1, 1⟩, ⟨0x10783, 3, 1⟩, ⟨0x10787, 42, 1⟩,
  ⟨0x107B2, 9, 1⟩, ⟨0x10CC0, 51, 1⟩, ⟨0x10D70, 22, 1⟩, ⟨0x118C0, 32, 1⟩, ⟨0x16E60, 32, 1⟩,
  ⟨0x16EBB, 25, 1⟩, ⟨0x1D41A, 26, 1⟩, ⟨0x1D44E, 7, 1⟩, ⟨0x1D456, 18, 1⟩, ⟨0x1D482, 26, 1⟩,
  ⟨0x1D4B6, 4, 1⟩, ⟨0x1D4BB, 2, 2⟩, ⟨0x1D4BE, 6, 1⟩, ⟨0x1D4C5, 11, 1⟩, ⟨0x1D4EA, 26, 1⟩,
  ⟨0x1D51E, 26, 1⟩, ⟨0x1D552, 26, 1⟩, ⟨0x1D586, 26, 1⟩, ⟨0x1D5BA, 26, 1⟩, ⟨0x1D5EE, 26, 1⟩,
  ⟨0x1D622, 26, 1⟩, ⟨0x1D656, 26, 1⟩, ⟨0x1D68A, 28, 1⟩, ⟨0x1D6C2, 25, 1⟩, ⟨0x1D6DC, 6, 1⟩,
  ⟨0x1D6FC, 25, 1⟩, ⟨0x1D716, 6, 1⟩, ⟨0x1D736, 25, 1⟩, ⟨0x1D750, 6, 1⟩, ⟨0x1D770, 25, 1⟩,
  ⟨0x1D78A, 6, 1⟩, ⟨0x1D7AA, 25, 1⟩, ⟨0x1D7C4, 6, 1⟩, ⟨0x1D7CB, 1, 1⟩, ⟨0x1DF00, 10, 1⟩,
  ⟨0x1DF0B, 20, 1⟩, ⟨0x1DF25, 6, 1⟩, ⟨0x1E030, 62, 1⟩, ⟨0x1E922, 34, 1⟩]

/-- Characters with the Uppercase property. -/
def uppercaseSet : CodeSet := CodeSet.ofRuns [
  ⟨0x41, 26, 1⟩, ⟨0xC0, 23, 1⟩, ⟨0xD8, 7, 1⟩, ⟨0x100, 28, 2⟩, ⟨0x139, 8, 2⟩, ⟨0x14A, 24, 2⟩,
  ⟨0x179, 3, 2⟩, ⟨0x181, 2, 1⟩, ⟨0x184, 2, 2⟩, ⟨0x187, 2, 2⟩, ⟨0x18A, 2, 1⟩, ⟨0x18E, 4, 1⟩,
  ⟨0x193, 2, 1⟩, ⟨0x196, 3, 1⟩, ⟨0x19C, 2, 1⟩, ⟨0x19F, 2, 1⟩, ⟨0x1A2, 3, 2⟩, ⟨0x1A7, 2, 2⟩,
  ⟨0x1AC, 2, 2⟩, ⟨0x1AF, 2, 2⟩, ⟨0x1B2, 2, 1⟩, ⟨0x1B5, 2, 2⟩, ⟨0x1B8, 1, 1⟩, ⟨0x1BC, 1, 1⟩,
  ⟨0x1C4, 1, 1⟩, ⟨0x1C7, 1, 1⟩, ⟨0x1CA, 1, 1⟩, ⟨0x1CD, 8, 2⟩, ⟨0x1DE, 9, 2⟩, ⟨0x1F1, 1, 1⟩,
  ⟨0x1F4, 2, 2⟩, ⟨0x1F7, 2, 1⟩, ⟨0x1FA, 29, 2⟩, ⟨0x23A, 2, 1⟩, ⟨0x23D, 2, 1⟩, ⟨0x241, 2, 2⟩,
  ⟨0x244, 3, 1⟩, ⟨0x248, 4, 2⟩, ⟨0x370, 2, 2⟩, ⟨0x376, 1, 1⟩, ⟨0x37F, 1, 1⟩, ⟨0x386, 2, 2⟩,
  ⟨0x389, 2, 1⟩, ⟨0x38C, 2, 2⟩, ⟨0x38F, 2, 2⟩, ⟨0x392, 16, 1⟩, ⟨0x3A3, 9, 1⟩, ⟨0x3CF, 1, 1⟩,
  ⟨0x3D2, 3, 1⟩, ⟨0x3D8, 12, 2⟩, ⟨0x3F4, 1, 1⟩, ⟨0x3F7, 2, 2⟩, ⟨0x3FA, 1, 1⟩, ⟨0x3FD, 51, 1⟩,
  ⟨0x460, 17, 2⟩, ⟨0x48A, 28, 2⟩, ⟨0x4C1, 7, 2⟩, ⟨0x4D0, 48, 2⟩, ⟨0x531, 38, 1⟩,
  ⟨0x10A0, 38, 1⟩, ⟨0x10C7, 1, 1⟩, ⟨0x10CD, 1, 1⟩, ⟨0x13A0, 86, 1⟩, ⟨0x1C89, 1, 1⟩,
  ⟨0x1C90, 43, 1⟩, ⟨0x1CBD, 3, 1⟩, ⟨0x1E00, 75, 2⟩, ⟨0x1E9E, 49, 2⟩, ⟨0x1F08, 8, 1⟩,
  ⟨0x1F18, 6, 1⟩, ⟨0x1F28, 8, 1⟩, ⟨0x1F38, 8, 1⟩, ⟨0x1F48, 6, 1⟩, ⟨0x1F59, 4, 2⟩,
  ⟨0x1F68, 8, 1⟩, ⟨0x1FB8, 4, 1⟩, ⟨0x1FC8, 4, 1⟩, ⟨0x1FD8, 4, 1⟩, ⟨0x1FE8, 5, 1⟩,
  ⟨0x1FF8, 4, 1⟩, ⟨0x2102, 1, 1⟩, ⟨0x2107, 1, 1⟩, ⟨0x210B, 3, 1⟩, ⟨0x2110, 3, 1⟩,
  ⟨0x2115, 1, 1⟩, ⟨0x2119, 5, 1⟩, ⟨0x2124, 4, 2⟩, ⟨0x212B, 3, 1⟩, ⟨0x2130, 4, 1⟩,
  ⟨0x213E, 2, 1⟩, ⟨0x2145, 1, 1⟩, ⟨0x2160, 16, 1⟩, ⟨0x2183, 1, 1⟩, ⟨0x24B6, 26, 1⟩,
  ⟨0x2C00, 48, 1⟩, ⟨0x2C60, 2, 2⟩, ⟨0x2C63, 2, 1⟩, ⟨0x2C67, 4, 2⟩, ⟨0x2C6E, 3, 1⟩,
  ⟨0x2C72, 1, 1⟩, ⟨0x2C75, 1, 1⟩, ⟨0x2C7E, 3, 1⟩, ⟨0x2C82, 49, 2⟩, ⟨0x2CEB, 2, 2⟩,
  ⟨0x2CF2, 1, 1⟩, ⟨0xA640, 23, 2⟩, ⟨0xA680, 14, 2⟩, ⟨0xA722, 7, 2⟩, ⟨0xA732, 31, 2⟩,
  ⟨0xA779, 3, 2⟩, ⟨0xA77E, 5, 2⟩, ⟨0xA78B, 2, 2⟩, ⟨0xA790, 2, 2⟩, ⟨0xA796, 11, 2⟩,
  ⟨0xA7AB, 4, 1⟩, ⟨0xA7B0, 5, 1⟩, ⟨0xA7B6, 8, 2⟩, ⟨0xA7C5, 3, 1⟩, ⟨0xA7C9, 2, 2⟩,
  ⟨0xA7CC, 9, 2⟩, ⟨0xA7F5, 1, 1⟩, ⟨0xFF21, 26, 1⟩, ⟨0x10400, 40, 1⟩, ⟨0x104B0, 36, 1⟩,
  ⟨0x10570, 11, 1⟩, ⟨0x1057C, 15, 1⟩, ⟨0x1058C, 7, 1⟩, ⟨0x10594, 2, 1⟩, ⟨0x10C80, 51, 1⟩,
  ⟨0x10D50, 22, 1⟩, ⟨0x118A0, 32, 1⟩, ⟨0x16E40, 32, 1⟩, ⟨0x16EA0, 25, 1⟩, ⟨0x1D400, 26, 1⟩,
  ⟨0x1D434, 26, 1⟩, ⟨0x1D468, 26, 1⟩, ⟨0x1D49C, 2, 2⟩, ⟨0x1D49F, 1, 1⟩, ⟨0x1D4A2, 1, 1⟩,
  ⟨0x1D4A5, 2, 1⟩, ⟨0x1D4A9, 4, 1⟩, ⟨0x1D4AE, 8, 1⟩, ⟨0x1D4D0, 26, 1⟩, ⟨0x1D504, 2, 1⟩,
  ⟨0x1D507, 4, 1⟩, ⟨0x1D50D, 8, 1⟩, ⟨0x1D516, 7, 1⟩, ⟨0x1D538, 2, 1⟩, ⟨0x1D53B, 4, 1⟩,
  ⟨0x1D540, 5, 1⟩, ⟨0x1D546, 1, 1⟩, ⟨0x1D54A, 7, 1⟩, ⟨0x1D56C, 26, 1⟩, ⟨0x1D5A0, 26, 1⟩,
  ⟨0x1D5D4, 26, 1⟩, ⟨0x1D608, 26, 1⟩, ⟨0x1D63C, 26, 1⟩, ⟨0x1D670, 26, 1⟩, ⟨0x1D6A8, 25, 1⟩,
  ⟨0x1D6E2, 25, 1⟩, ⟨0x1D71C, 25, 1⟩, ⟨0x1D756, 25, 1⟩, ⟨0x1D790, 25, 1⟩, ⟨0x1D7CA, 1, 1⟩,
  ⟨0x1E900, 34, 1⟩, ⟨0x1F130, 26, 1⟩, ⟨0x1F150, 26, 1⟩, ⟨0x1F170, 26, 1⟩]

/-- Characters with the Cased property. -/
def casedSet : CodeSet := CodeSet.ofRuns [
  ⟨0x41, 26, 1⟩, ⟨0x61, 26, 1⟩, ⟨0xAA, 1, 1⟩, ⟨0xB5, 1, 1⟩, ⟨0xBA, 1, 1⟩, ⟨0xC0, 23, 1⟩,
  ⟨0xD8, 31, 1⟩, ⟨0xF8, 195, 1⟩, ⟨0x1BC, 4, 1⟩, ⟨0x1C4, 208, 1⟩, ⟨0x296, 35, 1⟩, ⟨0x2C0, 2, 1⟩,
  ⟨0x2E0, 5, 1⟩, ⟨0x345, 1, 1⟩, ⟨0x370, 4, 1⟩, ⟨0x376, 2, 1⟩, ⟨0x37A, 4, 1⟩, ⟨0x37F, 1, 1⟩,
  ⟨0x386, 2, 2⟩, ⟨0x389, 2, 1⟩, ⟨0x38C, 2, 2⟩, ⟨0x38F, 19, 1⟩, ⟨0x3A3, 83, 1⟩, ⟨0x3F7, 139, 1⟩,
  ⟨0x48A, 166, 1⟩, ⟨0x531, 38, 1⟩, ⟨0x560, 41, 1⟩, ⟨0x10A0, 38, 1⟩, ⟨0x10C7, 1, 1⟩,
  ⟨0x10CD, 1, 1⟩, ⟨0x10D0, 43, 1⟩, ⟨0x10FC, 4, 1⟩, ⟨0x13A0, 86, 1⟩, ⟨0x13F8, 6, 1⟩,
  ⟨0x1C80, 11, 1⟩, ⟨0x1C90, 43, 1⟩, ⟨0x1CBD, 3, 1⟩, ⟨0x1D00, 192, 1⟩, ⟨0x1E00, 278, 1⟩,
  ⟨0x1F18, 6, 1⟩, ⟨0x1F20, 38, 1⟩, ⟨0x1F48, 6, 1⟩, ⟨0x1F50, 8, 1⟩, ⟨0x1F59, 4, 2⟩,
  ⟨0x1F60, 30, 1⟩, ⟨0x1F80, 53, 1⟩, ⟨0x1FB6, 7, 1⟩, ⟨0x1FBE, 1, 1⟩, ⟨0x1FC2, 3, 1⟩,
  ⟨0x1FC6, 7, 1⟩, ⟨0x1FD0, 4, 1⟩, ⟨0x1FD6, 6, 1⟩, ⟨0x1FE0, 13, 1⟩, ⟨0x1FF2, 3, 1⟩,
  ⟨0x1FF6, 7, 1⟩, ⟨0x2071, 1, 1⟩, ⟨0x207F, 1, 1⟩, ⟨0x2090, 13, 1⟩, ⟨0x2102, 1, 1⟩,
  ⟨0x2107, 1, 1⟩, ⟨0x210A, 10, 1⟩, ⟨0x2115, 1, 1⟩, ⟨0x2119, 5, 1⟩, ⟨0x2124, 4, 2⟩,
  ⟨0x212B, 3, 1⟩, ⟨0x212F, 6, 1⟩, ⟨0x2139, 1, 1⟩, ⟨0x213C, 4, 1⟩, ⟨0x2145, 5, 1⟩,
  ⟨0x214E, 1, 1⟩, ⟨0x2160, 32, 1⟩, ⟨0x2183, 2, 1⟩, ⟨0x24B6, 52, 1⟩, ⟨0x2C00, 229, 1⟩,
  ⟨0x2CEB, 4, 1⟩, ⟨0x2CF2, 2, 1⟩, ⟨0x2D00, 38, 1⟩, ⟨0x2D27, 1, 1⟩, ⟨0x2D2D, 1, 1⟩,
  ⟨0xA640, 46, 1⟩, ⟨0xA680, 30, 1⟩, ⟨0xA722, 102, 1⟩, ⟨0xA78B, 4, 1⟩, ⟨0xA790, 77, 1⟩,
  ⟨0xA7F1, 6, 1⟩, ⟨0xA7F8, 3, 1⟩, ⟨0xAB30, 43, 1⟩, ⟨0xAB5C, 14, 1⟩, ⟨0xAB70, 80, 1⟩,
  ⟨0xFB00, 7, 1⟩, ⟨0xFB13, 5, 1⟩, ⟨0xFF21, 26, 1⟩, ⟨0xFF41, 26, 1⟩, ⟨0x10400, 80, 1⟩,
  ⟨0x104B0, 36, 1⟩, ⟨0x104D8, 36, 1⟩, ⟨0x10570, 11, 1⟩, ⟨0x1057C, 15, 1⟩, ⟨0x1058C, 7, 1⟩,
  ⟨0x10594, 2, 1⟩, ⟨0x10597, 11, 1⟩, ⟨0x105A3, 15, 1⟩, ⟨0x105B3, 7, 1⟩, ⟨0x105BB, 2, 1⟩,
  ⟨0x10780, 1, 1⟩, ⟨0x10783, 3, 1⟩, ⟨0x10787, 42, 1⟩, ⟨0x107B2, 9, 1⟩, ⟨0x10C80, 51, 1⟩,
  ⟨0x10CC0, 51, 1⟩, ⟨0x10D50, 22, 1⟩, ⟨0x10D70, 22, 1⟩, ⟨0x118A0, 64, 1⟩, ⟨0x16E40, 64, 1⟩,
  ⟨0x16EA0, 25, 1⟩, ⟨0x16EBB, 25, 1⟩, ⟨0x1D400, 85, 1⟩, ⟨0x1D456, 71, 1⟩, ⟨0x1D49E, 2, 1⟩,
  ⟨0x1D4A2, 1, 1⟩, ⟨0x1D4A5, 2, 1⟩, ⟨0x1D4A9, 4, 1⟩, ⟨0x1D4AE, 12, 1⟩, ⟨0x1D4BB, 2, 2⟩,
  ⟨0x1D4BE, 6, 1⟩, ⟨0x1D4C5, 65, 1⟩, ⟨0x1D507, 4, 1⟩, ⟨0x1D50D, 8, 1⟩, ⟨0x1D516, 7, 1⟩,
  ⟨0x1D51E, 28, 1⟩, ⟨0x1D53B, 4, 1⟩, ⟨0x1D540, 5, 1⟩, ⟨0x1D546, 1, 1⟩, ⟨0x1D54A, 7, 1⟩,
  ⟨0x1D552, 340, 1⟩, ⟨0x1D6A8, 25, 1⟩, ⟨0x1D6C2, 25, 1⟩, ⟨0x1D6DC, 31, 1⟩, ⟨0x1D6FC, 25, 1⟩,
  ⟨0x1D716, 31, 1⟩, ⟨0x1D736, 25, 1⟩, ⟨0x1D750, 31, 1⟩, ⟨0x1D770, 25, 1⟩, ⟨0x1D78A, 31, 1⟩,
  ⟨0x1D7AA, 25, 1⟩, ⟨0x1D7C4, 8, 1⟩, ⟨0x1DF00, 10, 1⟩, ⟨0x1DF0B, 20, 1⟩, ⟨0x1DF25, 6, 1⟩,
  ⟨0x1E030, 62, 1⟩, ⟨0x1E900, 68, 1⟩, ⟨0x1F130, 26, 1⟩, ⟨0x1F150, 26, 1⟩, ⟨0x1F170, 26, 1⟩]

/-- Characters with the Case_Ignorable property. -/
def caseIgnorableSet : CodeSet := CodeSet.ofRuns [
  ⟨0x27, 1, 1⟩, ⟨0x2E, 1, 1⟩, ⟨0x3A, 1, 1⟩, ⟨0x5E, 2, 2⟩, ⟨0xA8, 1, 1⟩, ⟨0xAD, 2, 2⟩,
  ⟨0xB4, 1, 1⟩, ⟨0xB7, 2, 1⟩, ⟨0x2B0, 192, 1⟩, ⟨0x374, 2, 1⟩, ⟨0x37A, 1, 1⟩, ⟨0x384, 2, 1⟩,
  ⟨0x387, 1, 1⟩, ⟨0x483, 7, 1⟩, ⟨0x559, 1, 1⟩, ⟨0x55F, 1, 1⟩, ⟨0x591, 45, 1⟩, ⟨0x5BF, 2, 2⟩,
  ⟨0x5C2, 2, 2⟩, ⟨0x5C5, 2, 2⟩, ⟨0x5F4, 1, 1⟩, ⟨0x600, 6, 1⟩, ⟨0x610, 11, 1⟩, ⟨0x61C, 1, 1⟩,
  ⟨0x640, 1, 1⟩, ⟨0x64B, 21, 1⟩, ⟨0x670, 1, 1⟩, ⟨0x6D6, 8, 1⟩, ⟨0x6DF, 10, 1⟩, ⟨0x6EA, 4, 1⟩,
  ⟨0x70F, 2, 2⟩, ⟨0x730, 27, 1⟩, ⟨0x7A6, 11, 1⟩, ⟨0x7EB, 11, 1⟩, ⟨0x7FA, 1, 1⟩, ⟨0x7FD, 1, 1⟩,
  ⟨0x816, 24, 1⟩, ⟨0x859, 3, 1⟩, ⟨0x888, 1, 1⟩, ⟨0x890, 2, 1⟩, ⟨0x897, 9, 1⟩, ⟨0x8C9, 58, 1⟩,
  ⟨0x93A, 2, 2⟩, ⟨0x941, 8, 1⟩, ⟨0x94D, 1, 1⟩, ⟨0x951, 7, 1⟩, ⟨0x962, 2, 1⟩, ⟨0x971, 1, 1⟩,
  ⟨0x981, 1, 1⟩, ⟨0x9BC, 1, 1⟩, ⟨0x9C1, 4, 1⟩, ⟨0x9CD, 1, 1⟩, ⟨0x9E2, 2, 1⟩, ⟨0x9FE, 1, 1⟩,
  ⟨0xA01, 2, 1⟩, ⟨0xA3C, 1, 1⟩, ⟨0xA41, 2, 1⟩, ⟨0xA47, 2, 1⟩, ⟨0xA4B, 3, 1⟩, ⟨0xA51, 1, 1⟩,
  ⟨0xA70, 2, 1⟩, ⟨0xA75, 1, 1⟩, ⟨0xA81, 2, 1⟩, ⟨0xABC, 1, 1⟩, ⟨0xAC1, 5, 1⟩, ⟨0xAC7, 2, 1⟩,
  ⟨0xACD, 1, 1⟩, ⟨0xAE2, 2, 1⟩, ⟨0xAFA, 6, 1⟩, ⟨0xB01, 1, 1⟩, ⟨0xB3C, 1, 1⟩, ⟨0xB3F, 2, 2⟩,
  ⟨0xB42, 3, 1⟩, ⟨0xB4D, 1, 1⟩, ⟨0xB55, 2, 1⟩, ⟨0xB62, 2, 1⟩, ⟨0xB82, 1, 1⟩, ⟨0xBC0, 1, 1⟩,
  ⟨0xBCD, 1, 1⟩, ⟨0xC00, 1, 1⟩, ⟨0xC04, 1, 1⟩, ⟨0xC3C, 2, 2⟩, ⟨0xC3F, 2, 1⟩, ⟨0xC46, 3, 1⟩,
  ⟨0xC4A, 4, 1⟩, ⟨0xC55, 2, 1⟩, ⟨0xC62, 2, 1⟩, ⟨0xC81, 1, 1⟩, ⟨0xCBC, 1, 1⟩, ⟨0xCBF, 1, 1⟩,
  ⟨0xCC6, 1, 1⟩, ⟨0xCCC, 2, 1⟩, ⟨0xCE2, 2, 1⟩, ⟨0xD00, 2, 1⟩, ⟨0xD3B, 2, 1⟩, ⟨0xD41, 4, 1⟩,
  ⟨0xD4D, 1, 1⟩, ⟨0xD62, 2, 1⟩, ⟨0xD81, 1, 1⟩, ⟨0xDCA, 1, 1⟩, ⟨0xDD2, 3, 1⟩, ⟨0xDD6, 1, 1⟩,
  ⟨0xE31, 1, 1⟩, ⟨0xE34, 7, 1⟩, ⟨0xE46, 9, 1⟩, ⟨0xEB1, 1, 1⟩, ⟨0xEB4, 9, 1⟩, ⟨0xEC6, 2, 2⟩,
  ⟨0xEC9, 6, 1⟩, ⟨0xF18, 2, 1⟩, ⟨0xF35, 3, 2⟩, ⟨0xF71, 14, 1⟩, ⟨0xF80, 5, 1⟩, ⟨0xF86, 2, 1⟩,
  ⟨0xF8D, 11, 1⟩, ⟨0xF99, 36, 1⟩, ⟨0xFC6, 1, 1⟩, ⟨0x102D, 4, 1⟩, ⟨0x1032, 6, 1⟩,
  ⟨0x1039, 2, 1⟩, ⟨0x103D, 2, 1⟩, ⟨0x1058, 2, 1⟩, ⟨0x105E, 3, 1⟩, ⟨0x1071, 4, 1⟩,
  ⟨0x1082, 1, 1⟩, ⟨0x1085, 2, 1⟩, ⟨0x108D, 1, 1⟩, ⟨0x109D, 1, 1⟩, ⟨0x10FC, 1, 1⟩,
  ⟨0x135D, 3, 1⟩, ⟨0x1712, 3, 1⟩, ⟨0x1732, 2, 1⟩, ⟨0x1752, 2, 1⟩, ⟨0x1772, 2, 1⟩,
  ⟨0x17B4, 2, 1⟩, ⟨0x17B7, 7, 1⟩, ⟨0x17C6, 1, 1⟩, ⟨0x17C9, 11, 1⟩, ⟨0x17D7, 1, 1⟩,
  ⟨0x17DD, 1, 1⟩, ⟨0x180B, 5, 1⟩, ⟨0x1843, 1, 1⟩, ⟨0x1885, 2, 1⟩, ⟨0x18A9, 1, 1⟩,
  ⟨0x1920, 3, 1⟩, ⟨0x1927, 2, 1⟩, ⟨0x1932, 1, 1⟩, ⟨0x1939, 3, 1⟩, ⟨0x1A17, 2, 1⟩,
  ⟨0x1A1B, 1, 1⟩, ⟨0x1A56, 2, 2⟩, ⟨0x1A59, 6, 1⟩, ⟨0x1A60, 2, 2⟩, ⟨0x1A65, 8, 1⟩,
  ⟨0x1A73, 10, 1⟩, ⟨0x1A7F, 1, 1⟩, ⟨0x1AA7, 1, 1⟩, ⟨0x1AB0, 46, 1⟩, ⟨0x1AE0, 12, 1⟩,
  ⟨0x1B00, 4, 1⟩, ⟨0x1B34, 2, 2⟩, ⟨0x1B37, 4, 1⟩, ⟨0x1B3C, 1, 1⟩, ⟨0x1B42, 1, 1⟩,
  ⟨0x1B6B, 9, 1⟩, ⟨0x1B80, 2, 1⟩, ⟨0x1BA2, 4, 1⟩, ⟨0x1BA8, 2, 1⟩, ⟨0x1BAB, 3, 1⟩,
  ⟨0x1BE6, 2, 2⟩, ⟨0x1BE9, 1, 1⟩, ⟨0x1BED, 2, 2⟩, ⟨0x1BF0, 2, 1⟩, ⟨0x1C2C, 8, 1⟩,
  ⟨0x1C36, 2, 1⟩, ⟨0x1C78, 6, 1⟩, ⟨0x1CD0, 3, 1⟩, ⟨0x1CD4, 13, 1⟩, ⟨0x1CE2, 7, 1⟩,
  ⟨0x1CED, 1, 1⟩, ⟨0x1CF4, 1, 1⟩, ⟨0x1CF8, 2, 1⟩, ⟨0x1D2C, 63, 1⟩, ⟨0x1D78, 1, 1⟩,
  ⟨0x1D9B, 101, 1⟩, ⟨0x1FBD, 2, 2⟩, ⟨0x1FC0, 2, 1⟩, ⟨0x1FCD, 3, 1⟩, ⟨0x1FDD, 3, 1⟩,
  ⟨0x1FED, 3, 1⟩, ⟨0x1FFD, 2, 1⟩, ⟨0x200B, 5, 1⟩, ⟨0x2018, 2, 1⟩, ⟨0x2024, 1, 1⟩,
  ⟨0x2027, 1, 1⟩, ⟨0x202A, 5, 1⟩, ⟨0x2060, 5, 1⟩, ⟨0x2066, 10, 1⟩, ⟨0x2071, 1, 1⟩,
  ⟨0x207F, 1, 1⟩, ⟨0x2090, 13, 1⟩, ⟨0x20D0, 33, 1⟩, ⟨0x2C7C, 2, 1⟩, ⟨0x2CEF, 3, 1⟩,
  ⟨0x2D6F, 1, 1⟩, ⟨0x2D7F, 1, 1⟩, ⟨0x2DE0, 32, 1⟩, ⟨0x2E2F, 1, 1⟩, ⟨0x3005, 1, 1⟩,
  ⟨0x302A, 4, 1⟩, ⟨0x3031, 5, 1⟩, ⟨0x303B, 1, 1⟩, ⟨0x3099, 6, 1⟩, ⟨0x30FC, 3, 1⟩,
  ⟨0xA015, 1, 1⟩, ⟨0xA4F8, 6, 1⟩, ⟨0xA60C, 1, 1⟩, ⟨0xA66F, 4, 1⟩, ⟨0xA674, 10, 1⟩,
  ⟨0xA67F, 1, 1⟩, ⟨0xA69C, 4, 1⟩, ⟨0xA6F0, 2, 1⟩, ⟨0xA700, 34, 1⟩, ⟨0xA770, 1, 1⟩,
  ⟨0xA788, 3, 1⟩, ⟨0xA7F1, 4, 1⟩, ⟨0xA7F8, 2, 1⟩, ⟨0xA802, 1, 1⟩, ⟨0xA806, 1, 1⟩,
  ⟨0xA80B, 1, 1⟩, ⟨0xA825, 2, 1⟩, ⟨0xA82C, 1, 1⟩, ⟨0xA8C4, 2, 1⟩, ⟨0xA8E0, 18, 1⟩,
  ⟨0xA8FF, 1, 1⟩, ⟨0xA926, 8, 1⟩, ⟨0xA947, 11, 1⟩, ⟨0xA980, 3, 1⟩, ⟨0xA9B3, 1, 1⟩,
  ⟨0xA9B6, 4, 1⟩, ⟨0xA9BC, 2, 1⟩, ⟨0xA9CF, 1, 1⟩, ⟨0xA9E5, 2, 1⟩, ⟨0xAA29, 6, 1⟩,
  ⟨0xAA31, 2, 1⟩, ⟨0xAA35, 2, 1⟩, ⟨0xAA43, 1, 1⟩, ⟨0xAA4C, 1, 1⟩, ⟨0xAA70, 1, 1⟩,
  ⟨0xAA7C, 1, 1⟩, ⟨0xAAB0, 2, 2⟩, ⟨0xAAB3, 2, 1⟩, ⟨0xAAB7, 2, 1⟩, ⟨0xAABE, 2, 1⟩,
  ⟨0xAAC1, 1, 1⟩, ⟨0xAADD, 1, 1⟩, ⟨0xAAEC, 2, 1⟩, ⟨0xAAF3, 2, 1⟩, ⟨0xAAF6, 1, 1⟩,
  ⟨0xAB5B, 5, 1⟩, ⟨0xAB69, 3, 1⟩, ⟨0xABE5, 1, 1⟩, ⟨0xABE8, 1, 1⟩, ⟨0xABED, 1, 1⟩,
  ⟨0xFB1E, 1, 1⟩, ⟨0xFBB2, 17, 1⟩, ⟨0xFE00, 16, 1⟩, ⟨0xFE13, 1, 1⟩, ⟨0xFE20, 16, 1⟩,
  ⟨0xFE52, 1, 1⟩, ⟨0xFE55, 1, 1⟩, ⟨0xFEFF, 1, 1⟩, ⟨0xFF07, 1, 1⟩, ⟨0xFF0E, 1, 1⟩,
  ⟨0xFF1A, 1, 1⟩, ⟨0xFF3E, 2, 2⟩, ⟨0xFF70, 1, 1⟩, ⟨0xFF9E, 2, 1⟩, ⟨0xFFE3, 1, 1⟩,
  ⟨0xFFF9, 3, 1⟩, ⟨0x101FD, 1, 1⟩, ⟨0x102E0, 1, 1⟩, ⟨0x10376, 5, 1⟩, ⟨0x10780, 6, 1⟩,
  ⟨0x10787, 42, 1⟩, ⟨0x107B2, 9, 1⟩, ⟨0x10A01, 3, 1⟩, ⟨0x10A05, 2, 1⟩, ⟨0x10A0C, 4, 1⟩,
  ⟨0x10A38, 3, 1⟩, ⟨0x10A3F, 1, 1⟩, ⟨0x10AE5, 2, 1⟩, ⟨0x10D24, 4, 1⟩, ⟨0x10D4E, 1, 1⟩,
  ⟨0x10D69, 5, 1⟩, ⟨0x10D6F, 1, 1⟩, ⟨0x10EAB, 2, 1⟩, ⟨0x10EC5, 1, 1⟩, ⟨0x10EFA, 6, 1⟩,
  ⟨0x10F46, 11, 1⟩, ⟨0x10F82, 4, 1⟩, ⟨0x11001, 1, 1⟩, ⟨0x11038, 15, 1⟩, ⟨0x11070, 1, 1⟩,
  ⟨0x11073, 2, 1⟩, ⟨0x1107F, 3, 1⟩, ⟨0x110B3, 4, 1⟩, ⟨0x110B9, 2, 1⟩, ⟨0x110BD, 1, 1⟩,
  ⟨0x110C2, 1, 1⟩, ⟨0x110CD, 1, 1⟩, ⟨0x11100, 3, 1⟩, ⟨0x11127, 5, 1⟩, ⟨0x1112D, 8, 1⟩,
  ⟨0x11173, 1, 1⟩, ⟨0x11180, 2, 1⟩, ⟨0x111B6, 9, 1⟩, ⟨0x111C9, 4, 1⟩, ⟨0x111CF, 1, 1⟩,
  ⟨0x1122F, 3, 1⟩, ⟨0x11234, 2, 2⟩, ⟨0x11237, 1, 1⟩, ⟨0x1123E, 1, 1⟩, ⟨0x11241, 1, 1⟩,
  ⟨0x112DF, 1, 1⟩, ⟨0x112E3, 8, 1⟩, ⟨0x11300, 2, 1⟩, ⟨0x1133B, 2, 1⟩, ⟨0x11340, 1, 1⟩,
  ⟨0x11366, 7, 1⟩, ⟨0x11370, 5, 1⟩, ⟨0x113BB, 6, 1⟩, ⟨0x113CE, 3, 2⟩, ⟨0x113E1, 2, 1⟩,
  ⟨0x11438, 8, 1⟩, ⟨0x11442, 3, 1⟩, ⟨0x11446, 1, 1⟩, ⟨0x1145E, 1, 1⟩, ⟨0x114B3, 6, 1⟩,
  ⟨0x114BA, 1, 1⟩, ⟨0x114BF, 2, 1⟩, ⟨0x114C2, 2, 1⟩, ⟨0x115B2, 4, 1⟩, ⟨0x115BC, 2, 1⟩,
  ⟨0x115BF, 2, 1⟩, ⟨0x115DC, 2, 1⟩, ⟨0x11633, 8, 1⟩, ⟨0x1163D, 2, 2⟩, ⟨0x11640, 1, 1⟩,
  ⟨0x116AB, 2, 2⟩, ⟨0x116B0, 6, 1⟩, ⟨0x116B7, 1, 1⟩, ⟨0x1171D, 2, 2⟩, ⟨0x11722, 4, 1⟩,
  ⟨0x11727, 5, 1⟩, ⟨0x1182F, 9, 1⟩, ⟨0x11839, 2, 1⟩, ⟨0x1193B, 2, 1⟩, ⟨0x1193E, 1, 1⟩,
  ⟨0x11943, 1, 1⟩, ⟨0x119D4, 4, 1⟩, ⟨0x119DA, 2, 1⟩, ⟨0x119E0, 1, 1⟩, ⟨0x11A01, 10, 1⟩,
  ⟨0x11A33, 6, 1⟩, ⟨0x11A3B, 4, 1⟩, ⟨0x11A47, 1, 1⟩, ⟨0x11A51, 6, 1⟩, ⟨0x11A59, 3, 1⟩,
  ⟨0x11A8A, 13, 1⟩, ⟨0x11A98, 2, 1⟩, ⟨0x11B60, 2, 2⟩, ⟨0x11B63, 2, 1⟩, ⟨0x11B66, 1, 1⟩,
  ⟨0x11C30, 7, 1⟩, ⟨0x11C38, 6, 1⟩, ⟨0x11C3F, 1, 1⟩, ⟨0x11C92, 22, 1⟩, ⟨0x11CAA, 7, 1⟩,
  ⟨0x11CB2, 2, 1⟩, ⟨0x11CB5, 2, 1⟩, ⟨0x11D31, 6, 1⟩, ⟨0x11D3A, 2, 2⟩, ⟨0x11D3D, 2, 2⟩,
  ⟨0x11D40, 6, 1⟩, ⟨0x11D47, 1, 1⟩, ⟨0x11D90, 2, 1⟩, ⟨0x11D95, 2, 2⟩, ⟨0x11DD9, 1, 1⟩,
  ⟨0x11EF3, 2, 1⟩, ⟨0x11F00, 2, 1⟩, ⟨0x11F36, 5, 1⟩, ⟨0x11F40, 2, 2⟩, ⟨0x11F5A, 1, 1⟩,
  ⟨0x13430, 17, 1⟩, ⟨0x13447, 15, 1⟩, ⟨0x1611E, 12, 1⟩, ⟨0x1612D, 3, 1⟩, ⟨0x16AF0, 5, 1⟩,
  ⟨0x16B30, 7, 1⟩, ⟨0x16B40, 4, 1⟩, ⟨0x16D40, 3, 1⟩, ⟨0x16D6B, 2, 1⟩, ⟨0x16F4F, 1, 1⟩,
  ⟨0x16F8F, 17, 1⟩, ⟨0x16FE0, 2, 1⟩, ⟨0x16FE3, 2, 1⟩, ⟨0x16FF2, 2, 1⟩, ⟨0x1AFF0, 4, 1⟩,
  ⟨0x1AFF5, 7, 1⟩, ⟨0x1AFFD, 2, 1⟩, ⟨0x1BC9D, 2, 1⟩, ⟨0x1BCA0, 4, 1⟩, ⟨0x1CF00, 46, 1⟩,
  ⟨0x1CF30, 23, 1⟩, ⟨0x1D167, 3, 1⟩, ⟨0x1D173, 16, 1⟩, ⟨0x1D185, 7, 1⟩, ⟨0x1D1AA, 4, 1⟩,
  ⟨0x1D242, 3, 1⟩, ⟨0x1DA00, 55, 1⟩, ⟨0x1DA3B, 50, 1⟩, ⟨0x1DA75, 1, 1⟩, ⟨0x1DA84, 1, 1⟩,
  ⟨0x1DA9B, 5, 1⟩, ⟨0x1DAA1, 15, 1⟩, ⟨0x1E000, 7, 1⟩, ⟨0x1E008, 17, 1⟩, ⟨0x1E01B, 7, 1⟩,
  ⟨0x1E023, 2, 1⟩, ⟨0x1E026, 5, 1⟩, ⟨0x1E030, 62, 1⟩, ⟨0x1E08F, 1, 1⟩, ⟨0x1E130, 14, 1⟩,
  ⟨0x1E2AE, 1, 1⟩, ⟨0x1E2EC, 4, 1⟩, ⟨0x1E4EB, 5, 1⟩, ⟨0x1E5EE, 2, 1⟩, ⟨0x1E6E3, 1, 1⟩,
  ⟨0x1E6E6, 1, 1⟩, ⟨0x1E6EE, 2, 1⟩, ⟨0x1E6F5, 1, 1⟩, ⟨0x1E6FF, 1, 1⟩, ⟨0x1E8D0, 7, 1⟩,
  ⟨0x1E944, 8, 1⟩, ⟨0x1F3FB, 5, 1⟩, ⟨0xE0001, 1, 1⟩, ⟨0xE0020, 96, 1⟩, ⟨0xE0100, 240, 1⟩]

/-- Characters whose uppercase is one character, as runs sharing a shift. -/
def upperShifts : List Shift := [
  ⟨0x61, 26, 1, -32⟩, ⟨0xB5, 1, 1, 743⟩, ⟨0xE0, 23, 1, -32⟩, ⟨0xF8, 7, 1, -32⟩,
  ⟨0xFF, 1, 1, 121⟩, ⟨0x101, 24, 2, -1⟩, ⟨0x131, 1, 1, -232⟩, ⟨0x133, 3, 2, -1⟩,
  ⟨0x13A, 8, 2, -1⟩, ⟨0x14B, 23, 2, -1⟩, ⟨0x17A, 3, 2, -1⟩, ⟨0x17F, 1, 1, -300⟩,
  ⟨0x180, 1, 1, 195⟩, ⟨0x183, 2, 2, -1⟩, ⟨0x188, 1, 1, -1⟩, ⟨0x18C, 1, 1, -1⟩,
  ⟨0x192, 1, 1, -1⟩, ⟨0x195, 1, 1, 97⟩, ⟨0x199, 1, 1, -1⟩, ⟨0x19A, 1, 1, 163⟩,
  ⟨0x19B, 1, 1, 42561⟩, ⟨0x19E, 1, 1, 130⟩, ⟨0x1A1, 3, 2, -1⟩, ⟨0x1A8, 1, 1, -1⟩,
  ⟨0x1AD, 1, 1, -1⟩, ⟨0x1B0, 1, 1, -1⟩, ⟨0x1B4, 2, 2, -1⟩, ⟨0x1B9, 1, 1, -1⟩,
  ⟨0x1BD, 1, 1, -1⟩, ⟨0x1BF, 1, 1, 56⟩, ⟨0x1C5, 1, 1, -1⟩, ⟨0x1C6, 1, 1, -2⟩,
  ⟨0x1C8, 1, 1, -1⟩, ⟨0x1C9, 1, 1, -2⟩, ⟨0x1CB, 1, 1, -1⟩, ⟨0x1CC, 1, 1, -2⟩,
  ⟨0x1CE, 8, 2, -1⟩, ⟨0x1DD, 1, 1, -79⟩, ⟨0x1DF, 9, 2, -1⟩, ⟨0x1F2, 1, 1, -1⟩,
  ⟨0x1F3, 1, 1, -2⟩, ⟨0x1F5, 1, 1, -1⟩, ⟨0x1F9, 20, 2, -1⟩, ⟨0x223, 9, 2, -1⟩,
  ⟨0x23C, 1, 1, -1⟩, ⟨0x23F, 2, 1, 10815⟩, ⟨0x242, 1, 1, -1⟩, ⟨0x247, 5, 2, -1⟩,
  ⟨0x250, 1, 1, 10783⟩, ⟨0x251, 1, 1, 10780⟩, ⟨0x252, 1, 1, 10782⟩, ⟨0x253, 1, 1, -210⟩,
  ⟨0x254, 1, 1, -206⟩, ⟨0x256, 2, 1, -205⟩, ⟨0x259, 1, 1, -202⟩, ⟨0x25B, 1, 1, -203⟩,
  ⟨0x25C, 1, 1, 42319⟩, ⟨0x260, 1, 1, -205⟩, ⟨0x261, 1, 1, 42315⟩, ⟨0x263, 1, 1, -207⟩,
  ⟨0x264, 1, 1, 42343⟩, ⟨0x265, 1, 1, 42280⟩, ⟨0x266, 1, 1, 42308⟩, ⟨0x268, 1, 1, -209⟩,
  ⟨0x269, 1, 1, -211⟩, ⟨0x26A, 1, 1, 42308⟩, ⟨0x26B, 1, 1, 10743⟩, ⟨0x26C, 1, 1, 42305⟩,
  ⟨0x26F, 1, 1, -211⟩, ⟨0x271, 1, 1, 10749⟩, ⟨0x272, 1, 1, -213⟩, ⟨0x275, 1, 1, -214⟩,
  ⟨0x27D, 1, 1, 10727⟩, ⟨0x280, 1, 1, -218⟩, ⟨0x282, 1, 1, 42307⟩, ⟨0x283, 1, 1, -218⟩,
  ⟨0x287, 1, 1, 42282⟩, ⟨0x288, 1, 1, -218⟩, ⟨0x289, 1, 1, -69⟩, ⟨0x28A, 2, 1, -217⟩,
  ⟨0x28C, 1, 1, -71⟩, ⟨0x292, 1, 1, -219⟩, ⟨0x29D, 1, 1, 42261⟩, ⟨0x29E, 1, 1, 42258⟩,
  ⟨0x345, 1, 1, 84⟩, ⟨0x371, 2, 2, -1⟩, ⟨0x377, 1, 1, -1⟩, ⟨0x37B, 3, 1, 130⟩,
  ⟨0x3AC, 1, 1, -38⟩, ⟨0x3AD, 3, 1, -37⟩, ⟨0x3B1, 17, 1, -32⟩, ⟨0x3C2, 1, 1, -31⟩,
  ⟨0x3C3, 9, 1, -32⟩, ⟨0x3CC, 1, 1, -64⟩, ⟨0x3CD, 2, 1, -63⟩, ⟨0x3D0, 1, 1, -62⟩,
  ⟨0x3D1, 1, 1, -57⟩, ⟨0x3D5, 1, 1, -47⟩, ⟨0x3D6, 1, 1, -54⟩, ⟨0x3D7, 1, 1, -8⟩,
  ⟨0x3D9, 12, 2, -1⟩, ⟨0x3F0, 1, 1, -86⟩, ⟨0x3F1, 1, 1, -80⟩, ⟨0x3F2, 1, 1, 7⟩,
  ⟨0x3F3, 1, 1, -116⟩, ⟨0x3F5, 1, 1, -96⟩, ⟨0x3F8, 1, 1, -1⟩, ⟨0x3FB, 1, 1, -1⟩,
  ⟨0x430, 32, 1, -32⟩, ⟨0x450, 16, 1, -80⟩, ⟨0x461, 17, 2, -1⟩, ⟨0x48B, 27, 2, -1⟩,
  ⟨0x4C2, 7, 2, -1⟩, ⟨0x4CF, 1, 1, -15⟩, ⟨0x4D1, 48, 2, -1⟩, ⟨0x561, 38, 1, -48⟩,
  ⟨0x10D0, 43, 1, 3008⟩, ⟨0x10FD, 3, 1, 3008⟩, ⟨0x13F8, 6, 1, -8⟩, ⟨0x1C80, 1, 1, -6254⟩,
  ⟨0x1C81, 1, 1, -6253⟩, ⟨0x1C82, 1, 1, -6244⟩, ⟨0x1C83, 2, 1, -6242⟩, ⟨0x1C85, 1, 1, -6243⟩,
  ⟨0x1C86, 1, 1, -6236⟩, ⟨0x1C87, 1, 1, -6181⟩, ⟨0x1C88, 1, 1, 35266⟩, ⟨0x1C8A, 1, 1, -1⟩,
  ⟨0x1D79, 1, 1, 35332⟩, ⟨0x1D7D, 1, 1, 3814⟩, ⟨0x1D8E, 1, 1, 35384⟩, ⟨0x1E01, 75, 2, -1⟩,
  ⟨0x1E9B, 1, 1, -59⟩, ⟨0x1EA1, 48, 2, -1⟩, ⟨0x1F00, 8, 1, 8⟩, ⟨0x1F10, 6, 1, 8⟩,
  ⟨0x1F20, 8, 1, 8⟩, ⟨0x1F30, 8, 1, 8⟩, ⟨0x1F40, 6, 1, 8⟩, ⟨0x1F51, 4, 2, 8⟩,
  ⟨0x1F60, 8, 1, 8⟩, ⟨0x1F70, 2, 1, 74⟩, ⟨0x1F72, 4, 1, 86⟩, ⟨0x1F76, 2, 1, 100⟩,
  ⟨0x1F78, 2, 1, 128⟩, ⟨0x1F7A, 2, 1, 112⟩, ⟨0x1F7C, 2, 1, 126⟩, ⟨0x1FB0, 2, 1, 8⟩,
  ⟨0x1FBE, 1, 1, -7205⟩, ⟨0x1FD0, 2, 1, 8⟩, ⟨0x1FE0, 2, 1, 8⟩, ⟨0x1FE5, 1, 1, 7⟩,
  ⟨0x214E, 1, 1, -28⟩, ⟨0x2170, 16, 1, -16⟩, ⟨0x2184, 1, 1, -1⟩, ⟨0x24D0, 26, 1, -26⟩,
  ⟨0x2C30, 48, 1, -48⟩, ⟨0x2C61, 1, 1, -1⟩, ⟨0x2C65, 1, 1, -10795⟩, ⟨0x2C66, 1, 1, -10792⟩,
  ⟨0x2C68, 3, 2, -1⟩, ⟨0x2C73, 1, 1, -1⟩, ⟨0x2C76, 1, 1, -1⟩, ⟨0x2C81, 50, 2, -1⟩,
  ⟨0x2CEC, 2, 2, -1⟩, ⟨0x2CF3, 1, 1, -1⟩, ⟨0x2D00, 38, 1, -7264⟩, ⟨0x2D27, 1, 1, -7264⟩,
  ⟨0x2D2D, 1, 1, -7264⟩, ⟨0xA641, 23, 2, -1⟩, ⟨0xA681, 14, 2, -1⟩, ⟨0xA723, 7, 2, -1⟩,
  ⟨0xA733, 31, 2, -1⟩, ⟨0xA77A, 2, 2, -1⟩, ⟨0xA77F, 5, 2, -1⟩, ⟨0xA78C, 1, 1, -1⟩,
  ⟨0xA791, 2, 2, -1⟩, ⟨0xA794, 1, 1, 48⟩, ⟨0xA797, 10, 2, -1⟩, ⟨0xA7B5, 8, 2, -1⟩,
  ⟨0xA7C8, 2, 2, -1⟩, ⟨0xA7CD, 8, 2, -1⟩, ⟨0xA7F6, 1, 1, -1⟩, ⟨0xAB53, 1, 1, -928⟩,
  ⟨0xAB70, 80, 1, -38864⟩, ⟨0xFF41, 26, 1, -32⟩, ⟨0x10428, 40, 1, -40⟩, ⟨0x104D8, 36, 1, -40⟩,
  ⟨0x10597, 11, 1, -39⟩, ⟨0x105A3, 15, 1, -39⟩, ⟨0x105B3, 7, 1, -39⟩, ⟨0x105BB, 2, 1, -39⟩,
  ⟨0x10CC0, 51, 1, -64⟩, ⟨0x10D70, 22, 1, -32⟩, ⟨0x118C0, 32, 1, -32⟩, ⟨0x16E60, 32, 1, -32⟩,
  ⟨0x16EBB, 25, 1, -27⟩, ⟨0x1E922, 34, 1, -34⟩]

/-- Characters whose uppercase is several characters. -/
def upperExpansions : List (Nat × List Nat) := [
  (0xDF, [0x53, 0x53]), (0x149, [0x2BC, 0x4E]), (0x1F0, [0x4A, 0x30C]),
  (0x390, [0x399, 0x308, 0x301]), (0x3B0, [0x3A5, 0x308, 0x301]), (0x587, [0x535, 0x552]),
  (0x1E96, [0x48, 0x331]), (0x1E97, [0x54, 0x308]), (0x1E98, [0x57, 0x30A]),
  (0x1E99, [0x59, 0x30A]), (0x1E9A, [0x41, 0x2BE]), (0x1F50, [0x3A5, 0x313]),
  (0x1F52, [0x3A5, 0x313, 0x300]), (0x1F54, [0x3A5, 0x313, 0x301]),
  (0x1F56, [0x3A5, 0x313, 0x342]), (0x1F80, [0x1F08, 0x399]), (0x1F81, [0x1F09, 0x399]),
  (0x1F82, [0x1F0A, 0x399]), (0x1F83, [0x1F0B, 0x399]), (0x1F84, [0x1F0C, 0x399]),
  (0x1F85, [0x1F0D, 0x399]), (0x1F86, [0x1F0E, 0x399]), (0x1F87, [0x1F0F, 0x399]),
  (0x1F88, [0x1F08, 0x399]), (0x1F89, [0x1F09, 0x399]), (0x1F8A, [0x1F0A, 0x399]),
  (0x1F8B, [0x1F0B, 0x399]), (0x1F8C, [0x1F0C, 0x399]), (0x1F8D, [0x1F0D, 0x399]),
  (0x1F8E, [0x1F0E, 0x399]), (0x1F8F, [0x1F0F, 0x399]), (0x1F90, [0x1F28, 0x399]),
  (0x1F91, [0x1F29, 0x399]), (0x1F92, [0x1F2A, 0x399]), (0x1F93, [0x1F2B, 0x399]),
  (0x1F94, [0x1F2C, 0x399]), (0x1F95, [0x1F2D, 0x399]), (0x1F96, [0x1F2E, 0x399]),
  (0x1F97, [0x1F2F, 0x399]), (0x1F98, [0x1F28, 0x399]), (0x1F99, [0x1F29, 0x399]),
  (0x1F9A, [0x1F2A, 0x399]), (0x1F9B, [0x1F2B, 0x399]), (0x1F9C, [0x1F2C, 0x399]),
  (0x1F9D, [0x1F2D, 0x399]), (0x1F9E, [0x1F2E, 0x399]), (0x1F9F, [0x1F2F, 0x399]),
  (0x1FA0, [0x1F68, 0x399]), (0x1FA1, [0x1F69, 0x399]), (0x1FA2, [0x1F6A, 0x399]),
  (0x1FA3, [0x1F6B, 0x399]), (0x1FA4, [0x1F6C, 0x399]), (0x1FA5, [0x1F6D, 0x399]),
  (0x1FA6, [0x1F6E, 0x399]), (0x1FA7, [0x1F6F, 0x399]), (0x1FA8, [0x1F68, 0x399]),
  (0x1FA9, [0x1F69, 0x399]), (0x1FAA, [0x1F6A, 0x399]), (0x1FAB, [0x1F6B, 0x399]),
  (0x1FAC, [0x1F6C, 0x399]), (0x1FAD, [0x1F6D, 0x399]), (0x1FAE, [0x1F6E, 0x399]),
  (0x1FAF, [0x1F6F, 0x399]), (0x1FB2, [0x1FBA, 0x399]), (0x1FB3, [0x391, 0x399]),
  (0x1FB4, [0x386, 0x399]), (0x1FB6, [0x391, 0x342]), (0x1FB7, [0x391, 0x342, 0x399]),
  (0x1FBC, [0x391, 0x399]), (0x1FC2, [0x1FCA, 0x399]), (0x1FC3, [0x397, 0x399]),
  (0x1FC4, [0x389, 0x399]), (0x1FC6, [0x397, 0x342]), (0x1FC7, [0x397, 0x342, 0x399]),
  (0x1FCC, [0x397, 0x399]), (0x1FD2, [0x399, 0x308, 0x300]), (0x1FD3, [0x399, 0x308, 0x301]),
  (0x1FD6, [0x399, 0x342]), (0x1FD7, [0x399, 0x308, 0x342]), (0x1FE2, [0x3A5, 0x308, 0x300]),
  (0x1FE3, [0x3A5, 0x308, 0x301]), (0x1FE4, [0x3A1, 0x313]), (0x1FE6, [0x3A5, 0x342]),
  (0x1FE7, [0x3A5, 0x308, 0x342]), (0x1FF2, [0x1FFA, 0x399]), (0x1FF3, [0x3A9, 0x399]),
  (0x1FF4, [0x38F, 0x399]), (0x1FF6, [0x3A9, 0x342]), (0x1FF7, [0x3A9, 0x342, 0x399]),
  (0x1FFC, [0x3A9, 0x399]), (0xFB00, [0x46, 0x46]), (0xFB01, [0x46, 0x49]),
  (0xFB02, [0x46, 0x4C]), (0xFB03, [0x46, 0x46, 0x49]), (0xFB04, [0x46, 0x46, 0x4C]),
  (0xFB05, [0x53, 0x54]), (0xFB06, [0x53, 0x54]), (0xFB13, [0x544, 0x546]),
  (0xFB14, [0x544, 0x535]), (0xFB15, [0x544, 0x53B]), (0xFB16, [0x54E, 0x546]),
  (0xFB17, [0x544, 0x53D])]

/-- Characters whose lowercase is one character, as runs sharing a shift. -/
def lowerShifts : List Shift := [
  ⟨0x41, 26, 1, 32⟩, ⟨0xC0, 23, 1, 32⟩, ⟨0xD8, 7, 1, 32⟩, ⟨0x100, 24, 2, 1⟩, ⟨0x132, 3, 2, 1⟩,
  ⟨0x139, 8, 2, 1⟩, ⟨0x14A, 23, 2, 1⟩, ⟨0x178, 1, 1, -121⟩, ⟨0x179, 3, 2, 1⟩,
  ⟨0x181, 1, 1, 210⟩, ⟨0x182, 2, 2, 1⟩, ⟨0x186, 1, 1, 206⟩, ⟨0x187, 1, 1, 1⟩,
  ⟨0x189, 2, 1, 205⟩, ⟨0x18B, 1, 1, 1⟩, ⟨0x18E, 1, 1, 79⟩, ⟨0x18F, 1, 1, 202⟩,
  ⟨0x190, 1, 1, 203⟩, ⟨0x191, 1, 1, 1⟩, ⟨0x193, 1, 1, 205⟩, ⟨0x194, 1, 1, 207⟩,
  ⟨0x196, 1, 1, 211⟩, ⟨0x197, 1, 1, 209⟩, ⟨0x198, 1, 1, 1⟩, ⟨0x19C, 1, 1, 211⟩,
  ⟨0x19D, 1, 1, 213⟩, ⟨0x19F, 1, 1, 214⟩, ⟨0x1A0, 3, 2, 1⟩, ⟨0x1A6, 1, 1, 218⟩,
  ⟨0x1A7, 1, 1, 1⟩, ⟨0x1A9, 1, 1, 218⟩, ⟨0x1AC, 1, 1, 1⟩, ⟨0x1AE, 1, 1, 218⟩, ⟨0x1AF, 1, 1, 1⟩,
  ⟨0x1B1, 2, 1, 217⟩, ⟨0x1B3, 2, 2, 1⟩, ⟨0x1B7, 1, 1, 219⟩, ⟨0x1B8, 1, 1, 1⟩, ⟨0x1BC, 1, 1, 1⟩,
  ⟨0x1C4, 1, 1, 2⟩, ⟨0x1C5, 1, 1, 1⟩, ⟨0x1C7, 1, 1, 2⟩, ⟨0x1C8, 1, 1, 1⟩, ⟨0x1CA, 1, 1, 2⟩,
  ⟨0x1CB, 9, 2, 1⟩, ⟨0x1DE, 9, 2, 1⟩, ⟨0x1F1, 1, 1, 2⟩, ⟨0x1F2, 2, 2, 1⟩, ⟨0x1F6, 1, 1, -97⟩,
  ⟨0x1F7, 1, 1, -56⟩, ⟨0x1F8, 20, 2, 1⟩, ⟨0x220, 1, 1, -130⟩, ⟨0x222, 9, 2, 1⟩,
  ⟨0x23A, 1, 1, 10795⟩, ⟨0x23B, 1, 1, 1⟩, ⟨0x23D, 1, 1, -163⟩, ⟨0x23E, 1, 1, 10792⟩,
  ⟨0x241, 1, 1, 1⟩, ⟨0x243, 1, 1, -195⟩, ⟨0x244, 1, 1, 69⟩, ⟨0x245, 1, 1, 71⟩,
  ⟨0x246, 5, 2, 1⟩, ⟨0x370, 2, 2, 1⟩, ⟨0x376, 1, 1, 1⟩, ⟨0x37F, 1, 1, 116⟩, ⟨0x386, 1, 1, 38⟩,
  ⟨0x388, 3, 1, 37⟩, ⟨0x38C, 1, 1, 64⟩, ⟨0x38E, 2, 1, 63⟩, ⟨0x391, 17, 1, 32⟩,
  ⟨0x3A3, 9, 1, 32⟩, ⟨0x3CF, 1, 1, 8⟩, ⟨0x3D8, 12, 2, 1⟩, ⟨0x3F4, 1, 1, -60⟩, ⟨0x3F7, 1, 1, 1⟩,
  ⟨0x3F9, 1, 1, -7⟩, ⟨0x3FA, 1, 1, 1⟩, ⟨0x3FD, 3, 1, -130⟩, ⟨0x400, 16, 1, 80⟩,
  ⟨0x410, 32, 1, 32⟩, ⟨0x460, 17, 2, 1⟩, ⟨0x48A, 27, 2, 1⟩, ⟨0x4C0, 1, 1, 15⟩,
  ⟨0x4C1, 7, 2, 1⟩, ⟨0x4D0, 48, 2, 1⟩, ⟨0x531, 38, 1, 48⟩, ⟨0x10A0, 38, 1, 7264⟩,
  ⟨0x10C7, 1, 1, 7264⟩, ⟨0x10CD, 1, 1, 7264⟩, ⟨0x13A0, 80, 1, 38864⟩, ⟨0x13F0, 6, 1, 8⟩,
  ⟨0x1C89, 1, 1, 1⟩, ⟨0x1C90, 43, 1, -3008⟩, ⟨0x1CBD, 3, 1, -3008⟩, ⟨0x1E00, 75, 2, 1⟩,
  ⟨0x1E9E, 1, 1, -7615⟩, ⟨0x1EA0, 48, 2, 1⟩, ⟨0x1F08, 8, 1, -8⟩, ⟨0x1F18, 6, 1, -8⟩,
  ⟨0x1F28, 8, 1, -8⟩, ⟨0x1F38, 8, 1, -8⟩, ⟨0x1F48, 6, 1, -8⟩, ⟨0x1F59, 4, 2, -8⟩,
  ⟨0x1F68, 8, 1, -8⟩, ⟨0x1F88, 8, 1, -8⟩, ⟨0x1F98, 8, 1, -8⟩, ⟨0x1FA8, 8, 1, -8⟩,
  ⟨0x1FB8, 2, 1, -8⟩, ⟨0x1FBA, 2, 1, -74⟩, ⟨0x1FBC, 1, 1, -9⟩, ⟨0x1FC8, 4, 1, -86⟩,
  ⟨0x1FCC, 1, 1, -9⟩, ⟨0x1FD8, 2, 1, -8⟩, ⟨0x1FDA, 2, 1, -100⟩, ⟨0x1FE8, 2, 1, -8⟩,
  ⟨0x1FEA, 2, 1, -112⟩, ⟨0x1FEC, 1, 1, -7⟩, ⟨0x1FF8, 2, 1, -128⟩, ⟨0x1FFA, 2, 1, -126⟩,
  ⟨0x1FFC, 1, 1, -9⟩, ⟨0x2126, 1, 1, -7517⟩, ⟨0x212A, 1, 1, -8383⟩, ⟨0x212B, 1, 1, -8262⟩,
  ⟨0x2132, 1, 1, 28⟩, ⟨0x2160, 16, 1, 16⟩, ⟨0x2183, 1, 1, 1⟩, ⟨0x24B6, 26, 1, 26⟩,
  ⟨0x2C00, 48, 1, 48⟩, ⟨0x2C60, 1, 1, 1⟩, ⟨0x2C62, 1, 1, -10743⟩, ⟨0x2C63, 1, 1, -3814⟩,
  ⟨0x2C64, 1, 1, -10727⟩, ⟨0x2C67, 3, 2, 1⟩, ⟨0x2C6D, 1, 1, -10780⟩, ⟨0x2C6E, 1, 1, -10749⟩,
  ⟨0x2C6F, 1, 1, -10783⟩, ⟨0x2C70, 1, 1, -10782⟩, ⟨0x2C72, 1, 1, 1⟩, ⟨0x2C75, 1, 1, 1⟩,
  ⟨0x2C7E, 2, 1, -10815⟩, ⟨0x2C80, 50, 2, 1⟩, ⟨0x2CEB, 2, 2, 1⟩, ⟨0x2CF2, 1, 1, 1⟩,
  ⟨0xA640, 23, 2, 1⟩, ⟨0xA680, 14, 2, 1⟩, ⟨0xA722, 7, 2, 1⟩, ⟨0xA732, 31, 2, 1⟩,
  ⟨0xA779, 2, 2, 1⟩, ⟨0xA77D, 1, 1, -35332⟩, ⟨0xA77E, 5, 2, 1⟩, ⟨0xA78B, 1, 1, 1⟩,
  ⟨0xA78D, 1, 1, -42280⟩, ⟨0xA790, 2, 2, 1⟩, ⟨0xA796, 10, 2, 1⟩, ⟨0xA7AA, 1, 1, -42308⟩,
  ⟨0xA7AB, 1, 1, -42319⟩, ⟨0xA7AC, 1, 1, -42315⟩, ⟨0xA7AD, 1, 1, -42305⟩,
  ⟨0xA7AE, 1, 1, -42308⟩, ⟨0xA7B0, 1, 1, -42258⟩, ⟨0xA7B1, 1, 1, -42282⟩,
  ⟨0xA7B2, 1, 1, -42261⟩, ⟨0xA7B3, 1, 1, 928⟩, ⟨0xA7B4, 8, 2, 1⟩, ⟨0xA7C4, 1, 1, -48⟩,
  ⟨0xA7C5, 1, 1, -42307⟩, ⟨0xA7C6, 1, 1, -35384⟩, ⟨0xA7C7, 2, 2, 1⟩, ⟨0xA7CB, 1, 1, -42343⟩,
  ⟨0xA7CC, 8, 2, 1⟩, ⟨0xA7DC, 1, 1, -42561⟩, ⟨0xA7F5, 1, 1, 1⟩, ⟨0xFF21, 26, 1, 32⟩,
  ⟨0x10400, 40, 1, 40⟩, ⟨0x104B0, 36, 1, 40⟩, ⟨0x10570, 11, 1, 39⟩, ⟨0x1057C, 15, 1, 39⟩,
  ⟨0x1058C, 7, 1, 39⟩, ⟨0x10594, 2, 1, 39⟩, ⟨0x10C80, 51, 1, 64⟩, ⟨0x10D50, 22, 1, 32⟩,
  ⟨0x118A0, 32, 1, 32⟩, ⟨0x16E40, 32, 1, 32⟩, ⟨0x16EA0, 25, 1, 27⟩, ⟨0x1E900, 34, 1, 34⟩]

/-- Characters whose lowercase is several characters. -/
def lowerExpansions : List (Nat × List Nat) := [
  (0x130, [0x69, 0x307])]

end Text

end QueryCompiler
