/-!
# Domain-name mapping table

The UTS #46 (Unicode 17.0) treatment of every code point from U+0080 on, for non-transitional
processing: kept as it is (valid, or a deviation such as `ß`), mapped to other text, ignored,
or disallowed. Each row applies from its first code point up to the next row.

Only what later checks need of a mapping is kept exactly: a mapping whose result contains ASCII
is stored in full (or, for single characters, as a shift), since its ASCII may be a dot, a
forbidden character or part of a number; any other mapping is marked as such.
-/

namespace QueryCompiler

namespace Url

/-- How the domain-name mapping treats a code point. -/
inductive Treatment where
  /-- Kept as it is. -/
  | keep
  /-- Mapped to text without ASCII characters. -/
  | mapped
  /-- Removed. -/
  | ignored
  /-- Refused. -/
  | disallowed
  /-- Mapped to the single character this far away. -/
  | shift (delta : Int)
  /-- Mapped to this text, which holds ASCII characters. -/
  | text (target : String)
  deriving Repr, Inhabited

/-- Rows of the mapping table, part 0. -/
def idnaRows0 : List (Nat × Treatment) := [
  (0x80, .disallowed), (0xA0, .shift (-128)), (0xA1, .keep), (0xA8, .text " \u0308"),
  (0xA9, .keep), (0xAA, .shift (-73)), (0xAB, .keep), (0xAD, .ignored), (0xAE, .keep),
  (0xAF, .text " \u0304"), (0xB0, .keep), (0xB2, .shift (-128)), (0xB4, .text " \u0301"),
  (0xB5, .mapped), (0xB6, .keep), (0xB8, .text " \u0327"), (0xB9, .shift (-136)),
  (0xBA, .shift (-75)), (0xBB, .keep), (0xBC, .text "1\u20444"), (0xBD, .text "1\u20442"),
  (0xBE, .text "3\u20444"), (0xBF, .keep), (0xC0, .mapped), (0xD7, .keep), (0xD8, .mapped),
  (0xDF, .keep), (0x100, .mapped), (0x101, .keep), (0x102, .mapped), (0x103, .keep),
  (0x104, .mapped), (0x105, .keep), (0x106, .mapped), (0x107, .keep), (0x108, .mapped),
  (0x109, .keep), (0x10A, .mapped), (0x10B, .keep), (0x10C, .mapped), (0x10D, .keep),
  (0x10E, .mapped), (0x10F, .keep), (0x110, .mapped), (0x111, .keep), (0x112, .mapped),
  (0x113, .keep), (0x114, .mapped), (0x115, .keep), (0x116, .mapped), (0x117, .keep),
  (0x118, .mapped), (0x119, .keep), (0x11A, .mapped), (0x11B, .keep), (0x11C, .mapped),
  (0x11D, .keep), (0x11E, .mapped), (0x11F, .keep), (0x120, .mapped), (0x121, .keep),
  (0x122, .mapped), (0x123, .keep), (0x124, .mapped), (0x125, .keep), (0x126, .mapped),
  (0x127, .keep), (0x128, .mapped), (0x129, .keep), (0x12A, .mapped), (0x12B, .keep),
  (0x12C, .mapped), (0x12D, .keep), (0x12E, .mapped), (0x12F, .keep), (0x130, .text "i\u0307"),
  (0x131, .keep), (0x132, .text "ij"), (0x134, .mapped), (0x135, .keep), (0x136, .mapped),
  (0x137, .keep), (0x139, .mapped), (0x13A, .keep), (0x13B, .mapped), (0x13C, .keep),
  (0x13D, .mapped), (0x13E, .keep), (0x13F, .text "l\u00b7"), (0x141, .mapped), (0x142, .keep),
  (0x143, .mapped), (0x144, .keep), (0x145, .mapped), (0x146, .keep), (0x147, .mapped),
  (0x148, .keep), (0x149, .text "\u02bcn"), (0x14A, .mapped), (0x14B, .keep), (0x14C, .mapped),
  (0x14D, .keep), (0x14E, .mapped), (0x14F, .keep), (0x150, .mapped), (0x151, .keep),
  (0x152, .mapped), (0x153, .keep), (0x154, .mapped), (0x155, .keep), (0x156, .mapped),
  (0x157, .keep), (0x158, .mapped), (0x159, .keep), (0x15A, .mapped), (0x15B, .keep),
  (0x15C, .mapped), (0x15D, .keep), (0x15E, .mapped), (0x15F, .keep), (0x160, .mapped),
  (0x161, .keep), (0x162, .mapped), (0x163, .keep), (0x164, .mapped), (0x165, .keep),
  (0x166, .mapped), (0x167, .keep), (0x168, .mapped), (0x169, .keep), (0x16A, .mapped),
  (0x16B, .keep), (0x16C, .mapped), (0x16D, .keep), (0x16E, .mapped), (0x16F, .keep),
  (0x170, .mapped), (0x171, .keep), (0x172, .mapped), (0x173, .keep), (0x174, .mapped),
  (0x175, .keep), (0x176, .mapped), (0x177, .keep), (0x178, .mapped), (0x17A, .keep),
  (0x17B, .mapped), (0x17C, .keep), (0x17D, .mapped), (0x17E, .keep), (0x17F, .shift (-268)),
  (0x180, .keep), (0x181, .mapped), (0x183, .keep), (0x184, .mapped), (0x185, .keep),
  (0x186, .mapped), (0x188, .keep), (0x189, .mapped), (0x18C, .keep), (0x18E, .mapped),
  (0x192, .keep), (0x193, .mapped), (0x195, .keep), (0x196, .mapped), (0x199, .keep),
  (0x19C, .mapped), (0x19E, .keep), (0x19F, .mapped), (0x1A1, .keep), (0x1A2, .mapped),
  (0x1A3, .keep), (0x1A4, .mapped), (0x1A5, .keep), (0x1A6, .mapped), (0x1A8, .keep),
  (0x1A9, .mapped), (0x1AA, .keep), (0x1AC, .mapped), (0x1AD, .keep), (0x1AE, .mapped),
  (0x1B0, .keep), (0x1B1, .mapped), (0x1B4, .keep), (0x1B5, .mapped), (0x1B6, .keep),
  (0x1B7, .mapped), (0x1B9, .keep), (0x1BC, .mapped), (0x1BD, .keep), (0x1C4, .text "d\u017e"),
  (0x1C7, .text "lj"), (0x1CA, .text "nj"), (0x1CD, .mapped), (0x1CE, .keep), (0x1CF, .mapped),
  (0x1D0, .keep), (0x1D1, .mapped), (0x1D2, .keep), (0x1D3, .mapped), (0x1D4, .keep),
  (0x1D5, .mapped), (0x1D6, .keep), (0x1D7, .mapped), (0x1D8, .keep), (0x1D9, .mapped),
  (0x1DA, .keep), (0x1DB, .mapped), (0x1DC, .keep), (0x1DE, .mapped), (0x1DF, .keep),
  (0x1E0, .mapped), (0x1E1, .keep), (0x1E2, .mapped), (0x1E3, .keep), (0x1E4, .mapped),
  (0x1E5, .keep), (0x1E6, .mapped), (0x1E7, .keep), (0x1E8, .mapped), (0x1E9, .keep),
  (0x1EA, .mapped), (0x1EB, .keep), (0x1EC, .mapped), (0x1ED, .keep), (0x1EE, .mapped),
  (0x1EF, .keep), (0x1F1, .text "dz"), (0x1F4, .mapped), (0x1F5, .keep), (0x1F6, .mapped),
  (0x1F9, .keep), (0x1FA, .mapped), (0x1FB, .keep), (0x1FC, .mapped), (0x1FD, .keep),
  (0x1FE, .mapped), (0x1FF, .keep), (0x200, .mapped), (0x201, .keep), (0x202, .mapped),
  (0x203, .keep), (0x204, .mapped), (0x205, .keep), (0x206, .mapped), (0x207, .keep),
  (0x208, .mapped), (0x209, .keep), (0x20A, .mapped), (0x20B, .keep), (0x20C, .mapped),
  (0x20D, .keep), (0x20E, .mapped), (0x20F, .keep), (0x210, .mapped), (0x211, .keep),
  (0x212, .mapped), (0x213, .keep), (0x214, .mapped), (0x215, .keep), (0x216, .mapped),
  (0x217, .keep), (0x218, .mapped), (0x219, .keep), (0x21A, .mapped), (0x21B, .keep),
  (0x21C, .mapped), (0x21D, .keep), (0x21E, .mapped), (0x21F, .keep), (0x220, .mapped),
  (0x221, .keep), (0x222, .mapped), (0x223, .keep), (0x224, .mapped), (0x225, .keep),
  (0x226, .mapped), (0x227, .keep), (0x228, .mapped), (0x229, .keep), (0x22A, .mapped),
  (0x22B, .keep), (0x22C, .mapped), (0x22D, .keep), (0x22E, .mapped), (0x22F, .keep),
  (0x230, .mapped), (0x231, .keep), (0x232, .mapped), (0x233, .keep), (0x23A, .mapped),
  (0x23C, .keep), (0x23D, .mapped), (0x23F, .keep), (0x241, .mapped), (0x242, .keep),
  (0x243, .mapped), (0x247, .keep), (0x248, .mapped), (0x249, .keep), (0x24A, .mapped),
  (0x24B, .keep), (0x24C, .mapped), (0x24D, .keep), (0x24E, .mapped), (0x24F, .keep),
  (0x2B0, .shift (-584)), (0x2B1, .mapped), (0x2B2, .shift (-584)), (0x2B3, .shift (-577)),
  (0x2B4, .mapped), (0x2B7, .shift (-576)), (0x2B8, .shift (-575)), (0x2B9, .keep),
  (0x2D8, .text " \u0306"), (0x2D9, .text " \u0307"), (0x2DA, .text " \u030a"),
  (0x2DB, .text " \u0328"), (0x2DC, .text " \u0303"), (0x2DD, .text " \u030b"), (0x2DE, .keep),
  (0x2E0, .mapped), (0x2E1, .shift (-629)), (0x2E2, .shift (-623)), (0x2E3, .shift (-619)),
  (0x2E4, .mapped), (0x2E5, .keep), (0x340, .mapped), (0x342, .keep), (0x343, .mapped),
  (0x346, .keep), (0x34F, .ignored), (0x350, .keep), (0x370, .mapped), (0x371, .keep),
  (0x372, .mapped), (0x373, .keep), (0x374, .mapped), (0x375, .keep), (0x376, .mapped),
  (0x377, .keep), (0x378, .disallowed), (0x37A, .text " \u03b9"), (0x37B, .keep),
  (0x37E, .shift (-835)), (0x37F, .mapped), (0x380, .disallowed), (0x384, .text " \u0301"),
  (0x385, .text " \u0308\u0301"), (0x386, .mapped), (0x38B, .disallowed), (0x38C, .mapped),
  (0x38D, .disallowed), (0x38E, .mapped), (0x390, .keep), (0x391, .mapped),
  (0x3A2, .disallowed), (0x3A3, .mapped), (0x3AC, .keep), (0x3CF, .mapped), (0x3D7, .keep),
  (0x3D8, .mapped), (0x3D9, .keep), (0x3DA, .mapped), (0x3DB, .keep), (0x3DC, .mapped),
  (0x3DD, .keep), (0x3DE, .mapped), (0x3DF, .keep), (0x3E0, .mapped), (0x3E1, .keep),
  (0x3E2, .mapped), (0x3E3, .keep), (0x3E4, .mapped), (0x3E5, .keep), (0x3E6, .mapped),
  (0x3E7, .keep), (0x3E8, .mapped), (0x3E9, .keep), (0x3EA, .mapped), (0x3EB, .keep),
  (0x3EC, .mapped), (0x3ED, .keep), (0x3EE, .mapped), (0x3EF, .keep), (0x3F0, .mapped),
  (0x3F3, .keep), (0x3F4, .mapped), (0x3F6, .keep), (0x3F7, .mapped), (0x3F8, .keep),
  (0x3F9, .mapped), (0x3FB, .keep), (0x3FD, .mapped), (0x430, .keep), (0x460, .mapped),
  (0x461, .keep), (0x462, .mapped), (0x463, .keep), (0x464, .mapped), (0x465, .keep),
  (0x466, .mapped), (0x467, .keep), (0x468, .mapped), (0x469, .keep), (0x46A, .mapped),
  (0x46B, .keep), (0x46C, .mapped), (0x46D, .keep), (0x46E, .mapped), (0x46F, .keep),
  (0x470, .mapped), (0x471, .keep), (0x472, .mapped), (0x473, .keep), (0x474, .mapped),
  (0x475, .keep), (0x476, .mapped), (0x477, .keep), (0x478, .mapped), (0x479, .keep),
  (0x47A, .mapped), (0x47B, .keep), (0x47C, .mapped), (0x47D, .keep), (0x47E, .mapped),
  (0x47F, .keep), (0x480, .mapped), (0x481, .keep), (0x48A, .mapped), (0x48B, .keep),
  (0x48C, .mapped), (0x48D, .keep), (0x48E, .mapped), (0x48F, .keep), (0x490, .mapped),
  (0x491, .keep), (0x492, .mapped), (0x493, .keep), (0x494, .mapped), (0x495, .keep),
  (0x496, .mapped), (0x497, .keep), (0x498, .mapped), (0x499, .keep), (0x49A, .mapped),
  (0x49B, .keep), (0x49C, .mapped), (0x49D, .keep), (0x49E, .mapped), (0x49F, .keep),
  (0x4A0, .mapped), (0x4A1, .keep), (0x4A2, .mapped), (0x4A3, .keep), (0x4A4, .mapped),
  (0x4A5, .keep), (0x4A6, .mapped), (0x4A7, .keep), (0x4A8, .mapped), (0x4A9, .keep),
  (0x4AA, .mapped), (0x4AB, .keep), (0x4AC, .mapped), (0x4AD, .keep), (0x4AE, .mapped),
  (0x4AF, .keep), (0x4B0, .mapped), (0x4B1, .keep), (0x4B2, .mapped), (0x4B3, .keep),
  (0x4B4, .mapped), (0x4B5, .keep), (0x4B6, .mapped), (0x4B7, .keep), (0x4B8, .mapped),
  (0x4B9, .keep), (0x4BA, .mapped), (0x4BB, .keep), (0x4BC, .mapped), (0x4BD, .keep),
  (0x4BE, .mapped), (0x4BF, .keep), (0x4C0, .mapped), (0x4C2, .keep), (0x4C3, .mapped),
  (0x4C4, .keep), (0x4C5, .mapped), (0x4C6, .keep), (0x4C7, .mapped), (0x4C8, .keep),
  (0x4C9, .mapped), (0x4CA, .keep), (0x4CB, .mapped), (0x4CC, .keep), (0x4CD, .mapped),
  (0x4CE, .keep), (0x4D0, .mapped), (0x4D1, .keep), (0x4D2, .mapped), (0x4D3, .keep),
  (0x4D4, .mapped), (0x4D5, .keep), (0x4D6, .mapped), (0x4D7, .keep), (0x4D8, .mapped),
  (0x4D9, .keep), (0x4DA, .mapped), (0x4DB, .keep), (0x4DC, .mapped), (0x4DD, .keep),
  (0x4DE, .mapped), (0x4DF, .keep), (0x4E0, .mapped), (0x4E1, .keep), (0x4E2, .mapped),
  (0x4E3, .keep), (0x4E4, .mapped), (0x4E5, .keep), (0x4E6, .mapped), (0x4E7, .keep),
  (0x4E8, .mapped), (0x4E9, .keep), (0x4EA, .mapped), (0x4EB, .keep), (0x4EC, .mapped),
  (0x4ED, .keep), (0x4EE, .mapped), (0x4EF, .keep), (0x4F0, .mapped), (0x4F1, .keep),
  (0x4F2, .mapped), (0x4F3, .keep), (0x4F4, .mapped), (0x4F5, .keep), (0x4F6, .mapped),
  (0x4F7, .keep), (0x4F8, .mapped), (0x4F9, .keep), (0x4FA, .mapped), (0x4FB, .keep),
  (0x4FC, .mapped), (0x4FD, .keep), (0x4FE, .mapped), (0x4FF, .keep), (0x500, .mapped),
  (0x501, .keep), (0x502, .mapped), (0x503, .keep), (0x504, .mapped), (0x505, .keep),
  (0x506, .mapped), (0x507, .keep), (0x508, .mapped), (0x509, .keep), (0x50A, .mapped),
  (0x50B, .keep), (0x50C, .mapped), (0x50D, .keep), (0x50E, .mapped), (0x50F, .keep),
  (0x510, .mapped), (0x511, .keep), (0x512, .mapped), (0x513, .keep), (0x514, .mapped),
  (0x515, .keep), (0x516, .mapped), (0x517, .keep), (0x518, .mapped), (0x519, .keep),
  (0x51A, .mapped), (0x51B, .keep), (0x51C, .mapped), (0x51D, .keep), (0x51E, .mapped),
  (0x51F, .keep), (0x520, .mapped), (0x521, .keep), (0x522, .mapped), (0x523, .keep),
  (0x524, .mapped), (0x525, .keep), (0x526, .mapped), (0x527, .keep), (0x528, .mapped),
  (0x529, .keep), (0x52A, .mapped), (0x52B, .keep), (0x52C, .mapped), (0x52D, .keep),
  (0x52E, .mapped), (0x52F, .keep), (0x530, .disallowed), (0x531, .mapped),
  (0x557, .disallowed), (0x559, .keep), (0x587, .mapped), (0x588, .keep), (0x58B, .disallowed)]

/-- Rows of the mapping table, part 1. -/
def idnaRows1 : List (Nat × Treatment) := [
  (0x58D, .keep), (0x590, .disallowed), (0x591, .keep), (0x5C8, .disallowed), (0x5D0, .keep),
  (0x5EB, .disallowed), (0x5EF, .keep), (0x5F5, .disallowed), (0x606, .keep),
  (0x61C, .disallowed), (0x61D, .keep), (0x675, .mapped), (0x679, .keep), (0x6DD, .disallowed),
  (0x6DE, .keep), (0x70E, .disallowed), (0x710, .keep), (0x74B, .disallowed), (0x74D, .keep),
  (0x7B2, .disallowed), (0x7C0, .keep), (0x7FB, .disallowed), (0x7FD, .keep),
  (0x82E, .disallowed), (0x830, .keep), (0x83F, .disallowed), (0x840, .keep),
  (0x85C, .disallowed), (0x85E, .keep), (0x85F, .disallowed), (0x860, .keep),
  (0x86B, .disallowed), (0x870, .keep), (0x890, .disallowed), (0x897, .keep),
  (0x8E2, .disallowed), (0x8E3, .keep), (0x958, .mapped), (0x960, .keep), (0x984, .disallowed),
  (0x985, .keep), (0x98D, .disallowed), (0x98F, .keep), (0x991, .disallowed), (0x993, .keep),
  (0x9A9, .disallowed), (0x9AA, .keep), (0x9B1, .disallowed), (0x9B2, .keep),
  (0x9B3, .disallowed), (0x9B6, .keep), (0x9BA, .disallowed), (0x9BC, .keep),
  (0x9C5, .disallowed), (0x9C7, .keep), (0x9C9, .disallowed), (0x9CB, .keep),
  (0x9CF, .disallowed), (0x9D7, .keep), (0x9D8, .disallowed), (0x9DC, .mapped),
  (0x9DE, .disallowed), (0x9DF, .mapped), (0x9E0, .keep), (0x9E4, .disallowed), (0x9E6, .keep),
  (0x9FF, .disallowed), (0xA01, .keep), (0xA04, .disallowed), (0xA05, .keep),
  (0xA0B, .disallowed), (0xA0F, .keep), (0xA11, .disallowed), (0xA13, .keep),
  (0xA29, .disallowed), (0xA2A, .keep), (0xA31, .disallowed), (0xA32, .keep), (0xA33, .mapped),
  (0xA34, .disallowed), (0xA35, .keep), (0xA36, .mapped), (0xA37, .disallowed), (0xA38, .keep),
  (0xA3A, .disallowed), (0xA3C, .keep), (0xA3D, .disallowed), (0xA3E, .keep),
  (0xA43, .disallowed), (0xA47, .keep), (0xA49, .disallowed), (0xA4B, .keep),
  (0xA4E, .disallowed), (0xA51, .keep), (0xA52, .disallowed), (0xA59, .mapped), (0xA5C, .keep),
  (0xA5D, .disallowed), (0xA5E, .mapped), (0xA5F, .disallowed), (0xA66, .keep),
  (0xA77, .disallowed), (0xA81, .keep), (0xA84, .disallowed), (0xA85, .keep),
  (0xA8E, .disallowed), (0xA8F, .keep), (0xA92, .disallowed), (0xA93, .keep),
  (0xAA9, .disallowed), (0xAAA, .keep), (0xAB1, .disallowed), (0xAB2, .keep),
  (0xAB4, .disallowed), (0xAB5, .keep), (0xABA, .disallowed), (0xABC, .keep),
  (0xAC6, .disallowed), (0xAC7, .keep), (0xACA, .disallowed), (0xACB, .keep),
  (0xACE, .disallowed), (0xAD0, .keep), (0xAD1, .disallowed), (0xAE0, .keep),
  (0xAE4, .disallowed), (0xAE6, .keep), (0xAF2, .disallowed), (0xAF9, .keep),
  (0xB00, .disallowed), (0xB01, .keep), (0xB04, .disallowed), (0xB05, .keep),
  (0xB0D, .disallowed), (0xB0F, .keep), (0xB11, .disallowed), (0xB13, .keep),
  (0xB29, .disallowed), (0xB2A, .keep), (0xB31, .disallowed), (0xB32, .keep),
  (0xB34, .disallowed), (0xB35, .keep), (0xB3A, .disallowed), (0xB3C, .keep),
  (0xB45, .disallowed), (0xB47, .keep), (0xB49, .disallowed), (0xB4B, .keep),
  (0xB4E, .disallowed), (0xB55, .keep), (0xB58, .disallowed), (0xB5C, .mapped),
  (0xB5E, .disallowed), (0xB5F, .keep), (0xB64, .disallowed), (0xB66, .keep),
  (0xB78, .disallowed), (0xB82, .keep), (0xB84, .disallowed), (0xB85, .keep),
  (0xB8B, .disallowed), (0xB8E, .keep), (0xB91, .disallowed), (0xB92, .keep),
  (0xB96, .disallowed), (0xB99, .keep), (0xB9B, .disallowed), (0xB9C, .keep),
  (0xB9D, .disallowed), (0xB9E, .keep), (0xBA0, .disallowed), (0xBA3, .keep),
  (0xBA5, .disallowed), (0xBA8, .keep), (0xBAB, .disallowed), (0xBAE, .keep),
  (0xBBA, .disallowed), (0xBBE, .keep), (0xBC3, .disallowed), (0xBC6, .keep),
  (0xBC9, .disallowed), (0xBCA, .keep), (0xBCE, .disallowed), (0xBD0, .keep),
  (0xBD1, .disallowed), (0xBD7, .keep), (0xBD8, .disallowed), (0xBE6, .keep),
  (0xBFB, .disallowed), (0xC00, .keep), (0xC0D, .disallowed), (0xC0E, .keep),
  (0xC11, .disallowed), (0xC12, .keep), (0xC29, .disallowed), (0xC2A, .keep),
  (0xC3A, .disallowed), (0xC3C, .keep), (0xC45, .disallowed), (0xC46, .keep),
  (0xC49, .disallowed), (0xC4A, .keep), (0xC4E, .disallowed), (0xC55, .keep),
  (0xC57, .disallowed), (0xC58, .keep), (0xC5B, .disallowed), (0xC5C, .keep),
  (0xC5E, .disallowed), (0xC60, .keep), (0xC64, .disallowed), (0xC66, .keep),
  (0xC70, .disallowed), (0xC77, .keep), (0xC8D, .disallowed), (0xC8E, .keep),
  (0xC91, .disallowed), (0xC92, .keep), (0xCA9, .disallowed), (0xCAA, .keep),
  (0xCB4, .disallowed), (0xCB5, .keep), (0xCBA, .disallowed), (0xCBC, .keep),
  (0xCC5, .disallowed), (0xCC6, .keep), (0xCC9, .disallowed), (0xCCA, .keep),
  (0xCCE, .disallowed), (0xCD5, .keep), (0xCD7, .disallowed), (0xCDC, .keep),
  (0xCDF, .disallowed), (0xCE0, .keep), (0xCE4, .disallowed), (0xCE6, .keep),
  (0xCF0, .disallowed), (0xCF1, .keep), (0xCF4, .disallowed), (0xD00, .keep),
  (0xD0D, .disallowed), (0xD0E, .keep), (0xD11, .disallowed), (0xD12, .keep),
  (0xD45, .disallowed), (0xD46, .keep), (0xD49, .disallowed), (0xD4A, .keep),
  (0xD50, .disallowed), (0xD54, .keep), (0xD64, .disallowed), (0xD66, .keep),
  (0xD80, .disallowed), (0xD81, .keep), (0xD84, .disallowed), (0xD85, .keep),
  (0xD97, .disallowed), (0xD9A, .keep), (0xDB2, .disallowed), (0xDB3, .keep),
  (0xDBC, .disallowed), (0xDBD, .keep), (0xDBE, .disallowed), (0xDC0, .keep),
  (0xDC7, .disallowed), (0xDCA, .keep), (0xDCB, .disallowed), (0xDCF, .keep),
  (0xDD5, .disallowed), (0xDD6, .keep), (0xDD7, .disallowed), (0xDD8, .keep),
  (0xDE0, .disallowed), (0xDE6, .keep), (0xDF0, .disallowed), (0xDF2, .keep),
  (0xDF5, .disallowed), (0xE01, .keep), (0xE33, .mapped), (0xE34, .keep), (0xE3B, .disallowed),
  (0xE3F, .keep), (0xE5C, .disallowed), (0xE81, .keep), (0xE83, .disallowed), (0xE84, .keep),
  (0xE85, .disallowed), (0xE86, .keep), (0xE8B, .disallowed), (0xE8C, .keep),
  (0xEA4, .disallowed), (0xEA5, .keep), (0xEA6, .disallowed), (0xEA7, .keep), (0xEB3, .mapped),
  (0xEB4, .keep), (0xEBE, .disallowed), (0xEC0, .keep), (0xEC5, .disallowed), (0xEC6, .keep),
  (0xEC7, .disallowed), (0xEC8, .keep), (0xECF, .disallowed), (0xED0, .keep),
  (0xEDA, .disallowed), (0xEDC, .mapped), (0xEDE, .keep), (0xEE0, .disallowed), (0xF00, .keep),
  (0xF0C, .mapped), (0xF0D, .keep), (0xF43, .mapped), (0xF44, .keep), (0xF48, .disallowed),
  (0xF49, .keep), (0xF4D, .mapped), (0xF4E, .keep), (0xF52, .mapped), (0xF53, .keep),
  (0xF57, .mapped), (0xF58, .keep), (0xF5C, .mapped), (0xF5D, .keep), (0xF69, .mapped),
  (0xF6A, .keep), (0xF6D, .disallowed), (0xF71, .keep), (0xF73, .mapped), (0xF74, .keep),
  (0xF75, .mapped), (0xF7A, .keep), (0xF81, .mapped), (0xF82, .keep), (0xF93, .mapped),
  (0xF94, .keep), (0xF98, .disallowed), (0xF99, .keep), (0xF9D, .mapped), (0xF9E, .keep),
  (0xFA2, .mapped), (0xFA3, .keep), (0xFA7, .mapped), (0xFA8, .keep), (0xFAC, .mapped),
  (0xFAD, .keep), (0xFB9, .mapped), (0xFBA, .keep), (0xFBD, .disallowed), (0xFBE, .keep),
  (0xFCD, .disallowed), (0xFCE, .keep), (0xFDB, .disallowed), (0x1000, .keep),
  (0x10A0, .mapped), (0x10C6, .disallowed), (0x10C7, .mapped), (0x10C8, .disallowed),
  (0x10CD, .mapped), (0x10CE, .disallowed), (0x10D0, .keep), (0x10FC, .mapped),
  (0x10FD, .keep), (0x115F, .ignored), (0x1161, .keep), (0x1249, .disallowed), (0x124A, .keep),
  (0x124E, .disallowed), (0x1250, .keep), (0x1257, .disallowed), (0x1258, .keep),
  (0x1259, .disallowed), (0x125A, .keep), (0x125E, .disallowed), (0x1260, .keep),
  (0x1289, .disallowed), (0x128A, .keep), (0x128E, .disallowed), (0x1290, .keep),
  (0x12B1, .disallowed), (0x12B2, .keep), (0x12B6, .disallowed), (0x12B8, .keep),
  (0x12BF, .disallowed), (0x12C0, .keep), (0x12C1, .disallowed), (0x12C2, .keep),
  (0x12C6, .disallowed), (0x12C8, .keep), (0x12D7, .disallowed), (0x12D8, .keep),
  (0x1311, .disallowed), (0x1312, .keep), (0x1316, .disallowed), (0x1318, .keep),
  (0x135B, .disallowed), (0x135D, .keep), (0x137D, .disallowed), (0x1380, .keep),
  (0x139A, .disallowed), (0x13A0, .keep), (0x13F6, .disallowed), (0x13F8, .mapped),
  (0x13FE, .disallowed), (0x1400, .keep), (0x1680, .disallowed), (0x1681, .keep),
  (0x169D, .disallowed), (0x16A0, .keep), (0x16F9, .disallowed), (0x1700, .keep),
  (0x1716, .disallowed), (0x171F, .keep), (0x1737, .disallowed), (0x1740, .keep),
  (0x1754, .disallowed), (0x1760, .keep), (0x176D, .disallowed), (0x176E, .keep),
  (0x1771, .disallowed), (0x1772, .keep), (0x1774, .disallowed), (0x1780, .keep),
  (0x17B4, .ignored), (0x17B6, .keep), (0x17DE, .disallowed), (0x17E0, .keep),
  (0x17EA, .disallowed), (0x17F0, .keep), (0x17FA, .disallowed), (0x1800, .keep),
  (0x180B, .ignored), (0x1810, .keep), (0x181A, .disallowed), (0x1820, .keep),
  (0x1879, .disallowed), (0x1880, .keep), (0x18AB, .disallowed), (0x18B0, .keep),
  (0x18F6, .disallowed), (0x1900, .keep), (0x191F, .disallowed), (0x1920, .keep),
  (0x192C, .disallowed), (0x1930, .keep), (0x193C, .disallowed), (0x1940, .keep),
  (0x1941, .disallowed), (0x1944, .keep), (0x196E, .disallowed), (0x1970, .keep),
  (0x1975, .disallowed), (0x1980, .keep), (0x19AC, .disallowed), (0x19B0, .keep),
  (0x19CA, .disallowed), (0x19D0, .keep), (0x19DB, .disallowed), (0x19DE, .keep),
  (0x1A1C, .disallowed), (0x1A1E, .keep), (0x1A5F, .disallowed), (0x1A60, .keep),
  (0x1A7D, .disallowed), (0x1A7F, .keep), (0x1A8A, .disallowed), (0x1A90, .keep),
  (0x1A9A, .disallowed), (0x1AA0, .keep), (0x1AAE, .disallowed), (0x1AB0, .keep),
  (0x1ADE, .disallowed), (0x1AE0, .keep), (0x1AEC, .disallowed), (0x1B00, .keep),
  (0x1B4D, .disallowed), (0x1B4E, .keep), (0x1BF4, .disallowed), (0x1BFC, .keep),
  (0x1C38, .disallowed), (0x1C3B, .keep), (0x1C4A, .disallowed), (0x1C4D, .keep),
  (0x1C80, .mapped), (0x1C8A, .keep), (0x1C8B, .disallowed), (0x1C90, .mapped),
  (0x1CBB, .disallowed), (0x1CBD, .mapped), (0x1CC0, .keep), (0x1CC8, .disallowed),
  (0x1CD0, .keep), (0x1CFB, .disallowed), (0x1D00, .keep), (0x1D2C, .shift (-7371)),
  (0x1D2D, .mapped), (0x1D2E, .shift (-7372)), (0x1D2F, .keep), (0x1D30, .shift (-7372)),
  (0x1D32, .mapped), (0x1D33, .shift (-7372)), (0x1D3B, .keep), (0x1D3C, .shift (-7373)),
  (0x1D3D, .mapped), (0x1D3E, .shift (-7374)), (0x1D3F, .shift (-7373)),
  (0x1D40, .shift (-7372)), (0x1D42, .shift (-7371)), (0x1D43, .shift (-7394)),
  (0x1D44, .mapped), (0x1D47, .shift (-7397)), (0x1D48, .shift (-7396)), (0x1D4A, .mapped),
  (0x1D4D, .shift (-7398)), (0x1D4E, .keep), (0x1D4F, .shift (-7396)),
  (0x1D50, .shift (-7395)), (0x1D51, .mapped), (0x1D52, .shift (-7395)), (0x1D53, .mapped),
  (0x1D56, .shift (-7398)), (0x1D57, .shift (-7395)), (0x1D59, .mapped),
  (0x1D5B, .shift (-7397)), (0x1D5C, .mapped), (0x1D62, .shift (-7417)),
  (0x1D63, .shift (-7409)), (0x1D64, .shift (-7407)), (0x1D66, .mapped), (0x1D6B, .keep),
  (0x1D78, .mapped), (0x1D79, .keep), (0x1D9B, .mapped), (0x1D9C, .shift (-7481)),
  (0x1D9D, .mapped), (0x1DA0, .shift (-7482)), (0x1DA1, .mapped), (0x1DBB, .shift (-7489)),
  (0x1DBC, .mapped), (0x1DC0, .keep), (0x1E00, .mapped), (0x1E01, .keep), (0x1E02, .mapped),
  (0x1E03, .keep), (0x1E04, .mapped), (0x1E05, .keep), (0x1E06, .mapped), (0x1E07, .keep),
  (0x1E08, .mapped), (0x1E09, .keep), (0x1E0A, .mapped), (0x1E0B, .keep), (0x1E0C, .mapped),
  (0x1E0D, .keep), (0x1E0E, .mapped), (0x1E0F, .keep), (0x1E10, .mapped), (0x1E11, .keep),
  (0x1E12, .mapped), (0x1E13, .keep), (0x1E14, .mapped), (0x1E15, .keep), (0x1E16, .mapped),
  (0x1E17, .keep), (0x1E18, .mapped), (0x1E19, .keep), (0x1E1A, .mapped), (0x1E1B, .keep),
  (0x1E1C, .mapped), (0x1E1D, .keep), (0x1E1E, .mapped), (0x1E1F, .keep), (0x1E20, .mapped),
  (0x1E21, .keep), (0x1E22, .mapped), (0x1E23, .keep), (0x1E24, .mapped), (0x1E25, .keep),
  (0x1E26, .mapped), (0x1E27, .keep), (0x1E28, .mapped), (0x1E29, .keep), (0x1E2A, .mapped),
  (0x1E2B, .keep), (0x1E2C, .mapped), (0x1E2D, .keep), (0x1E2E, .mapped), (0x1E2F, .keep),
  (0x1E30, .mapped), (0x1E31, .keep), (0x1E32, .mapped), (0x1E33, .keep), (0x1E34, .mapped),
  (0x1E35, .keep), (0x1E36, .mapped), (0x1E37, .keep), (0x1E38, .mapped), (0x1E39, .keep),
  (0x1E3A, .mapped), (0x1E3B, .keep)]

/-- Rows of the mapping table, part 2. -/
def idnaRows2 : List (Nat × Treatment) := [
  (0x1E3C, .mapped), (0x1E3D, .keep), (0x1E3E, .mapped), (0x1E3F, .keep), (0x1E40, .mapped),
  (0x1E41, .keep), (0x1E42, .mapped), (0x1E43, .keep), (0x1E44, .mapped), (0x1E45, .keep),
  (0x1E46, .mapped), (0x1E47, .keep), (0x1E48, .mapped), (0x1E49, .keep), (0x1E4A, .mapped),
  (0x1E4B, .keep), (0x1E4C, .mapped), (0x1E4D, .keep), (0x1E4E, .mapped), (0x1E4F, .keep),
  (0x1E50, .mapped), (0x1E51, .keep), (0x1E52, .mapped), (0x1E53, .keep), (0x1E54, .mapped),
  (0x1E55, .keep), (0x1E56, .mapped), (0x1E57, .keep), (0x1E58, .mapped), (0x1E59, .keep),
  (0x1E5A, .mapped), (0x1E5B, .keep), (0x1E5C, .mapped), (0x1E5D, .keep), (0x1E5E, .mapped),
  (0x1E5F, .keep), (0x1E60, .mapped), (0x1E61, .keep), (0x1E62, .mapped), (0x1E63, .keep),
  (0x1E64, .mapped), (0x1E65, .keep), (0x1E66, .mapped), (0x1E67, .keep), (0x1E68, .mapped),
  (0x1E69, .keep), (0x1E6A, .mapped), (0x1E6B, .keep), (0x1E6C, .mapped), (0x1E6D, .keep),
  (0x1E6E, .mapped), (0x1E6F, .keep), (0x1E70, .mapped), (0x1E71, .keep), (0x1E72, .mapped),
  (0x1E73, .keep), (0x1E74, .mapped), (0x1E75, .keep), (0x1E76, .mapped), (0x1E77, .keep),
  (0x1E78, .mapped), (0x1E79, .keep), (0x1E7A, .mapped), (0x1E7B, .keep), (0x1E7C, .mapped),
  (0x1E7D, .keep), (0x1E7E, .mapped), (0x1E7F, .keep), (0x1E80, .mapped), (0x1E81, .keep),
  (0x1E82, .mapped), (0x1E83, .keep), (0x1E84, .mapped), (0x1E85, .keep), (0x1E86, .mapped),
  (0x1E87, .keep), (0x1E88, .mapped), (0x1E89, .keep), (0x1E8A, .mapped), (0x1E8B, .keep),
  (0x1E8C, .mapped), (0x1E8D, .keep), (0x1E8E, .mapped), (0x1E8F, .keep), (0x1E90, .mapped),
  (0x1E91, .keep), (0x1E92, .mapped), (0x1E93, .keep), (0x1E94, .mapped), (0x1E95, .keep),
  (0x1E9A, .text "a\u02be"), (0x1E9B, .mapped), (0x1E9C, .keep), (0x1E9E, .mapped),
  (0x1E9F, .keep), (0x1EA0, .mapped), (0x1EA1, .keep), (0x1EA2, .mapped), (0x1EA3, .keep),
  (0x1EA4, .mapped), (0x1EA5, .keep), (0x1EA6, .mapped), (0x1EA7, .keep), (0x1EA8, .mapped),
  (0x1EA9, .keep), (0x1EAA, .mapped), (0x1EAB, .keep), (0x1EAC, .mapped), (0x1EAD, .keep),
  (0x1EAE, .mapped), (0x1EAF, .keep), (0x1EB0, .mapped), (0x1EB1, .keep), (0x1EB2, .mapped),
  (0x1EB3, .keep), (0x1EB4, .mapped), (0x1EB5, .keep), (0x1EB6, .mapped), (0x1EB7, .keep),
  (0x1EB8, .mapped), (0x1EB9, .keep), (0x1EBA, .mapped), (0x1EBB, .keep), (0x1EBC, .mapped),
  (0x1EBD, .keep), (0x1EBE, .mapped), (0x1EBF, .keep), (0x1EC0, .mapped), (0x1EC1, .keep),
  (0x1EC2, .mapped), (0x1EC3, .keep), (0x1EC4, .mapped), (0x1EC5, .keep), (0x1EC6, .mapped),
  (0x1EC7, .keep), (0x1EC8, .mapped), (0x1EC9, .keep), (0x1ECA, .mapped), (0x1ECB, .keep),
  (0x1ECC, .mapped), (0x1ECD, .keep), (0x1ECE, .mapped), (0x1ECF, .keep), (0x1ED0, .mapped),
  (0x1ED1, .keep), (0x1ED2, .mapped), (0x1ED3, .keep), (0x1ED4, .mapped), (0x1ED5, .keep),
  (0x1ED6, .mapped), (0x1ED7, .keep), (0x1ED8, .mapped), (0x1ED9, .keep), (0x1EDA, .mapped),
  (0x1EDB, .keep), (0x1EDC, .mapped), (0x1EDD, .keep), (0x1EDE, .mapped), (0x1EDF, .keep),
  (0x1EE0, .mapped), (0x1EE1, .keep), (0x1EE2, .mapped), (0x1EE3, .keep), (0x1EE4, .mapped),
  (0x1EE5, .keep), (0x1EE6, .mapped), (0x1EE7, .keep), (0x1EE8, .mapped), (0x1EE9, .keep),
  (0x1EEA, .mapped), (0x1EEB, .keep), (0x1EEC, .mapped), (0x1EED, .keep), (0x1EEE, .mapped),
  (0x1EEF, .keep), (0x1EF0, .mapped), (0x1EF1, .keep), (0x1EF2, .mapped), (0x1EF3, .keep),
  (0x1EF4, .mapped), (0x1EF5, .keep), (0x1EF6, .mapped), (0x1EF7, .keep), (0x1EF8, .mapped),
  (0x1EF9, .keep), (0x1EFA, .mapped), (0x1EFB, .keep), (0x1EFC, .mapped), (0x1EFD, .keep),
  (0x1EFE, .mapped), (0x1EFF, .keep), (0x1F08, .mapped), (0x1F10, .keep),
  (0x1F16, .disallowed), (0x1F18, .mapped), (0x1F1E, .disallowed), (0x1F20, .keep),
  (0x1F28, .mapped), (0x1F30, .keep), (0x1F38, .mapped), (0x1F40, .keep),
  (0x1F46, .disallowed), (0x1F48, .mapped), (0x1F4E, .disallowed), (0x1F50, .keep),
  (0x1F58, .disallowed), (0x1F59, .mapped), (0x1F5A, .disallowed), (0x1F5B, .mapped),
  (0x1F5C, .disallowed), (0x1F5D, .mapped), (0x1F5E, .disallowed), (0x1F5F, .mapped),
  (0x1F60, .keep), (0x1F68, .mapped), (0x1F70, .keep), (0x1F71, .mapped), (0x1F72, .keep),
  (0x1F73, .mapped), (0x1F74, .keep), (0x1F75, .mapped), (0x1F76, .keep), (0x1F77, .mapped),
  (0x1F78, .keep), (0x1F79, .mapped), (0x1F7A, .keep), (0x1F7B, .mapped), (0x1F7C, .keep),
  (0x1F7D, .mapped), (0x1F7E, .disallowed), (0x1F80, .mapped), (0x1FB0, .keep),
  (0x1FB2, .mapped), (0x1FB5, .disallowed), (0x1FB6, .keep), (0x1FB7, .mapped),
  (0x1FBD, .text " \u0313"), (0x1FBE, .mapped), (0x1FBF, .text " \u0313"),
  (0x1FC0, .text " \u0342"), (0x1FC1, .text " \u0308\u0342"), (0x1FC2, .mapped),
  (0x1FC5, .disallowed), (0x1FC6, .keep), (0x1FC7, .mapped), (0x1FCD, .text " \u0313\u0300"),
  (0x1FCE, .text " \u0313\u0301"), (0x1FCF, .text " \u0313\u0342"), (0x1FD0, .keep),
  (0x1FD3, .mapped), (0x1FD4, .disallowed), (0x1FD6, .keep), (0x1FD8, .mapped),
  (0x1FDC, .disallowed), (0x1FDD, .text " \u0314\u0300"), (0x1FDE, .text " \u0314\u0301"),
  (0x1FDF, .text " \u0314\u0342"), (0x1FE0, .keep), (0x1FE3, .mapped), (0x1FE4, .keep),
  (0x1FE8, .mapped), (0x1FED, .text " \u0308\u0300"), (0x1FEE, .text " \u0308\u0301"),
  (0x1FEF, .shift (-8079)), (0x1FF0, .disallowed), (0x1FF2, .mapped), (0x1FF5, .disallowed),
  (0x1FF6, .keep), (0x1FF7, .mapped), (0x1FFD, .text " \u0301"), (0x1FFE, .text " \u0314"),
  (0x1FFF, .disallowed), (0x2000, .text " "), (0x200B, .ignored), (0x200C, .keep),
  (0x200E, .disallowed), (0x2010, .keep), (0x2011, .mapped), (0x2012, .keep),
  (0x2017, .text " \u0333"), (0x2018, .keep), (0x2024, .disallowed), (0x2027, .keep),
  (0x2028, .disallowed), (0x202F, .shift (-8207)), (0x2030, .keep), (0x2033, .mapped),
  (0x2035, .keep), (0x2036, .mapped), (0x2038, .keep), (0x203C, .text "!!"), (0x203D, .keep),
  (0x203E, .text " \u0305"), (0x203F, .keep), (0x2047, .text "??"), (0x2048, .text "?!"),
  (0x2049, .text "!?"), (0x204A, .keep), (0x2057, .mapped), (0x2058, .keep),
  (0x205F, .shift (-8255)), (0x2060, .ignored), (0x2065, .disallowed), (0x206A, .ignored),
  (0x2070, .shift (-8256)), (0x2071, .shift (-8200)), (0x2072, .disallowed),
  (0x2074, .shift (-8256)), (0x207A, .shift (-8271)), (0x207B, .mapped),
  (0x207C, .shift (-8255)), (0x207D, .shift (-8277)), (0x207F, .shift (-8209)),
  (0x2080, .shift (-8272)), (0x208A, .shift (-8287)), (0x208B, .mapped),
  (0x208C, .shift (-8271)), (0x208D, .shift (-8293)), (0x208F, .disallowed),
  (0x2090, .shift (-8239)), (0x2091, .shift (-8236)), (0x2092, .shift (-8227)),
  (0x2093, .shift (-8219)), (0x2094, .mapped), (0x2095, .shift (-8237)),
  (0x2096, .shift (-8235)), (0x209A, .shift (-8234)), (0x209B, .shift (-8232)),
  (0x209D, .disallowed), (0x20A0, .keep), (0x20A8, .text "rs"), (0x20A9, .keep),
  (0x20C2, .disallowed), (0x20D0, .keep), (0x20F1, .disallowed), (0x2100, .text "a/c"),
  (0x2101, .text "a/s"), (0x2102, .shift (-8351)), (0x2103, .text "\u00b0c"), (0x2104, .keep),
  (0x2105, .text "c/o"), (0x2106, .text "c/u"), (0x2107, .mapped), (0x2108, .keep),
  (0x2109, .text "\u00b0f"), (0x210A, .shift (-8355)), (0x210B, .text "h"), (0x210F, .mapped),
  (0x2110, .text "i"), (0x2112, .text "l"), (0x2114, .keep), (0x2115, .shift (-8359)),
  (0x2116, .text "no"), (0x2117, .keep), (0x2119, .shift (-8361)), (0x211B, .text "r"),
  (0x211E, .keep), (0x2120, .text "sm"), (0x2121, .text "tel"), (0x2122, .text "tm"),
  (0x2123, .keep), (0x2124, .shift (-8362)), (0x2125, .keep), (0x2126, .mapped),
  (0x2127, .keep), (0x2128, .shift (-8366)), (0x2129, .keep), (0x212A, .shift (-8383)),
  (0x212B, .mapped), (0x212C, .shift (-8394)), (0x212E, .keep), (0x212F, .text "e"),
  (0x2131, .shift (-8395)), (0x2132, .mapped), (0x2133, .shift (-8390)),
  (0x2134, .shift (-8389)), (0x2135, .mapped), (0x2139, .shift (-8400)), (0x213A, .keep),
  (0x213B, .text "fax"), (0x213C, .mapped), (0x2141, .keep), (0x2145, .text "d"),
  (0x2147, .shift (-8418)), (0x2148, .shift (-8415)), (0x214A, .keep),
  (0x2150, .text "1\u20447"), (0x2151, .text "1\u20449"), (0x2152, .text "1\u204410"),
  (0x2153, .text "1\u20443"), (0x2154, .text "2\u20443"), (0x2155, .text "1\u20445"),
  (0x2156, .text "2\u20445"), (0x2157, .text "3\u20445"), (0x2158, .text "4\u20445"),
  (0x2159, .text "1\u20446"), (0x215A, .text "5\u20446"), (0x215B, .text "1\u20448"),
  (0x215C, .text "3\u20448"), (0x215D, .text "5\u20448"), (0x215E, .text "7\u20448"),
  (0x215F, .text "1\u2044"), (0x2160, .shift (-8439)), (0x2161, .text "ii"),
  (0x2162, .text "iii"), (0x2163, .text "iv"), (0x2164, .shift (-8430)), (0x2165, .text "vi"),
  (0x2166, .text "vii"), (0x2167, .text "viii"), (0x2168, .text "ix"),
  (0x2169, .shift (-8433)), (0x216A, .text "xi"), (0x216B, .text "xii"),
  (0x216C, .shift (-8448)), (0x216D, .shift (-8458)), (0x216F, .shift (-8450)),
  (0x2170, .shift (-8455)), (0x2171, .text "ii"), (0x2172, .text "iii"), (0x2173, .text "iv"),
  (0x2174, .shift (-8446)), (0x2175, .text "vi"), (0x2176, .text "vii"),
  (0x2177, .text "viii"), (0x2178, .text "ix"), (0x2179, .shift (-8449)), (0x217A, .text "xi"),
  (0x217B, .text "xii"), (0x217C, .shift (-8464)), (0x217D, .shift (-8474)),
  (0x217F, .shift (-8466)), (0x2180, .keep), (0x2183, .mapped), (0x2184, .keep),
  (0x2189, .text "0\u20443"), (0x218A, .keep), (0x218C, .disallowed), (0x2190, .keep),
  (0x222C, .mapped), (0x222E, .keep), (0x222F, .mapped), (0x2231, .keep), (0x2329, .mapped),
  (0x232B, .keep), (0x242A, .disallowed), (0x2440, .keep), (0x244B, .disallowed),
  (0x2460, .shift (-9263)), (0x2469, .text "10"), (0x246A, .text "11"), (0x246B, .text "12"),
  (0x246C, .text "13"), (0x246D, .text "14"), (0x246E, .text "15"), (0x246F, .text "16"),
  (0x2470, .text "17"), (0x2471, .text "18"), (0x2472, .text "19"), (0x2473, .text "20"),
  (0x2474, .text "(1)"), (0x2475, .text "(2)"), (0x2476, .text "(3)"), (0x2477, .text "(4)"),
  (0x2478, .text "(5)"), (0x2479, .text "(6)"), (0x247A, .text "(7)"), (0x247B, .text "(8)"),
  (0x247C, .text "(9)"), (0x247D, .text "(10)"), (0x247E, .text "(11)"),
  (0x247F, .text "(12)"), (0x2480, .text "(13)"), (0x2481, .text "(14)"),
  (0x2482, .text "(15)"), (0x2483, .text "(16)"), (0x2484, .text "(17)"),
  (0x2485, .text "(18)"), (0x2486, .text "(19)"), (0x2487, .text "(20)"),
  (0x2488, .disallowed), (0x249C, .text "(a)"), (0x249D, .text "(b)"), (0x249E, .text "(c)"),
  (0x249F, .text "(d)"), (0x24A0, .text "(e)"), (0x24A1, .text "(f)"), (0x24A2, .text "(g)"),
  (0x24A3, .text "(h)"), (0x24A4, .text "(i)"), (0x24A5, .text "(j)"), (0x24A6, .text "(k)"),
  (0x24A7, .text "(l)"), (0x24A8, .text "(m)"), (0x24A9, .text "(n)"), (0x24AA, .text "(o)"),
  (0x24AB, .text "(p)"), (0x24AC, .text "(q)"), (0x24AD, .text "(r)"), (0x24AE, .text "(s)"),
  (0x24AF, .text "(t)"), (0x24B0, .text "(u)"), (0x24B1, .text "(v)"), (0x24B2, .text "(w)"),
  (0x24B3, .text "(x)"), (0x24B4, .text "(y)"), (0x24B5, .text "(z)"),
  (0x24B6, .shift (-9301)), (0x24D0, .shift (-9327)), (0x24EA, .shift (-9402)),
  (0x24EB, .keep), (0x2A0C, .mapped), (0x2A0D, .keep), (0x2A74, .text "::="),
  (0x2A75, .text "=="), (0x2A76, .text "==="), (0x2A77, .keep), (0x2ADC, .mapped),
  (0x2ADD, .keep), (0x2B74, .disallowed), (0x2B76, .keep), (0x2C00, .mapped), (0x2C30, .keep),
  (0x2C60, .mapped), (0x2C61, .keep), (0x2C62, .mapped), (0x2C65, .keep), (0x2C67, .mapped),
  (0x2C68, .keep), (0x2C69, .mapped), (0x2C6A, .keep), (0x2C6B, .mapped), (0x2C6C, .keep),
  (0x2C6D, .mapped), (0x2C71, .keep), (0x2C72, .mapped), (0x2C73, .keep), (0x2C75, .mapped),
  (0x2C76, .keep), (0x2C7C, .shift (-11282)), (0x2C7D, .shift (-11271)), (0x2C7E, .mapped),
  (0x2C81, .keep), (0x2C82, .mapped), (0x2C83, .keep), (0x2C84, .mapped), (0x2C85, .keep),
  (0x2C86, .mapped), (0x2C87, .keep), (0x2C88, .mapped), (0x2C89, .keep), (0x2C8A, .mapped),
  (0x2C8B, .keep), (0x2C8C, .mapped), (0x2C8D, .keep), (0x2C8E, .mapped), (0x2C8F, .keep),
  (0x2C90, .mapped), (0x2C91, .keep), (0x2C92, .mapped), (0x2C93, .keep), (0x2C94, .mapped),
  (0x2C95, .keep), (0x2C96, .mapped), (0x2C97, .keep), (0x2C98, .mapped), (0x2C99, .keep),
  (0x2C9A, .mapped), (0x2C9B, .keep), (0x2C9C, .mapped), (0x2C9D, .keep), (0x2C9E, .mapped),
  (0x2C9F, .keep), (0x2CA0, .mapped), (0x2CA1, .keep), (0x2CA2, .mapped), (0x2CA3, .keep),
  (0x2CA4, .mapped), (0x2CA5, .keep), (0x2CA6, .mapped), (0x2CA7, .keep), (0x2CA8, .mapped),
  (0x2CA9, .keep), (0x2CAA, .mapped), (0x2CAB, .keep), (0x2CAC, .mapped), (0x2CAD, .keep),
  (0x2CAE, .mapped), (0x2CAF, .keep), (0x2CB0, .mapped), (0x2CB1, .keep), (0x2CB2, .mapped),
  (0x2CB3, .keep), (0x2CB4, .mapped), (0x2CB5, .keep), (0x2CB6, .mapped), (0x2CB7, .keep),
  (0x2CB8, .mapped), (0x2CB9, .keep), (0x2CBA, .mapped)]

/-- Rows of the mapping table, part 3. -/
def idnaRows3 : List (Nat × Treatment) := [
  (0x2CBB, .keep), (0x2CBC, .mapped), (0x2CBD, .keep), (0x2CBE, .mapped), (0x2CBF, .keep),
  (0x2CC0, .mapped), (0x2CC1, .keep), (0x2CC2, .mapped), (0x2CC3, .keep), (0x2CC4, .mapped),
  (0x2CC5, .keep), (0x2CC6, .mapped), (0x2CC7, .keep), (0x2CC8, .mapped), (0x2CC9, .keep),
  (0x2CCA, .mapped), (0x2CCB, .keep), (0x2CCC, .mapped), (0x2CCD, .keep), (0x2CCE, .mapped),
  (0x2CCF, .keep), (0x2CD0, .mapped), (0x2CD1, .keep), (0x2CD2, .mapped), (0x2CD3, .keep),
  (0x2CD4, .mapped), (0x2CD5, .keep), (0x2CD6, .mapped), (0x2CD7, .keep), (0x2CD8, .mapped),
  (0x2CD9, .keep), (0x2CDA, .mapped), (0x2CDB, .keep), (0x2CDC, .mapped), (0x2CDD, .keep),
  (0x2CDE, .mapped), (0x2CDF, .keep), (0x2CE0, .mapped), (0x2CE1, .keep), (0x2CE2, .mapped),
  (0x2CE3, .keep), (0x2CEB, .mapped), (0x2CEC, .keep), (0x2CED, .mapped), (0x2CEE, .keep),
  (0x2CF2, .mapped), (0x2CF3, .keep), (0x2CF4, .disallowed), (0x2CF9, .keep),
  (0x2D26, .disallowed), (0x2D27, .keep), (0x2D28, .disallowed), (0x2D2D, .keep),
  (0x2D2E, .disallowed), (0x2D30, .keep), (0x2D68, .disallowed), (0x2D6F, .mapped),
  (0x2D70, .keep), (0x2D71, .disallowed), (0x2D7F, .keep), (0x2D97, .disallowed),
  (0x2DA0, .keep), (0x2DA7, .disallowed), (0x2DA8, .keep), (0x2DAF, .disallowed),
  (0x2DB0, .keep), (0x2DB7, .disallowed), (0x2DB8, .keep), (0x2DBF, .disallowed),
  (0x2DC0, .keep), (0x2DC7, .disallowed), (0x2DC8, .keep), (0x2DCF, .disallowed),
  (0x2DD0, .keep), (0x2DD7, .disallowed), (0x2DD8, .keep), (0x2DDF, .disallowed),
  (0x2DE0, .keep), (0x2E5E, .disallowed), (0x2E80, .keep), (0x2E9A, .disallowed),
  (0x2E9B, .keep), (0x2E9F, .mapped), (0x2EA0, .keep), (0x2EF3, .mapped),
  (0x2EF4, .disallowed), (0x2F00, .mapped), (0x2FD6, .disallowed), (0x3000, .shift (-12256)),
  (0x3001, .keep), (0x3002, .shift (-12244)), (0x3003, .keep), (0x3036, .mapped),
  (0x3037, .keep), (0x3038, .mapped), (0x303B, .keep), (0x3040, .disallowed), (0x3041, .keep),
  (0x3097, .disallowed), (0x3099, .keep), (0x309B, .text " \u3099"), (0x309C, .text " \u309a"),
  (0x309D, .keep), (0x309F, .mapped), (0x30A0, .keep), (0x30FF, .mapped),
  (0x3100, .disallowed), (0x3105, .keep), (0x3130, .disallowed), (0x3131, .mapped),
  (0x3164, .ignored), (0x3165, .mapped), (0x318F, .disallowed), (0x3190, .keep),
  (0x3192, .mapped), (0x31A0, .keep), (0x31E6, .disallowed), (0x31F0, .keep),
  (0x3200, .text "(\u1100)"), (0x3201, .text "(\u1102)"), (0x3202, .text "(\u1103)"),
  (0x3203, .text "(\u1105)"), (0x3204, .text "(\u1106)"), (0x3205, .text "(\u1107)"),
  (0x3206, .text "(\u1109)"), (0x3207, .text "(\u110b)"), (0x3208, .text "(\u110c)"),
  (0x3209, .text "(\u110e)"), (0x320A, .text "(\u110f)"), (0x320B, .text "(\u1110)"),
  (0x320C, .text "(\u1111)"), (0x320D, .text "(\u1112)"), (0x320E, .text "(\uac00)"),
  (0x320F, .text "(\ub098)"), (0x3210, .text "(\ub2e4)"), (0x3211, .text "(\ub77c)"),
  (0x3212, .text "(\ub9c8)"), (0x3213, .text "(\ubc14)"), (0x3214, .text "(\uc0ac)"),
  (0x3215, .text "(\uc544)"), (0x3216, .text "(\uc790)"), (0x3217, .text "(\ucc28)"),
  (0x3218, .text "(\uce74)"), (0x3219, .text "(\ud0c0)"), (0x321A, .text "(\ud30c)"),
  (0x321B, .text "(\ud558)"), (0x321C, .text "(\uc8fc)"), (0x321D, .text "(\uc624\uc804)"),
  (0x321E, .text "(\uc624\ud6c4)"), (0x321F, .disallowed), (0x3220, .text "(\u4e00)"),
  (0x3221, .text "(\u4e8c)"), (0x3222, .text "(\u4e09)"), (0x3223, .text "(\u56db)"),
  (0x3224, .text "(\u4e94)"), (0x3225, .text "(\u516d)"), (0x3226, .text "(\u4e03)"),
  (0x3227, .text "(\u516b)"), (0x3228, .text "(\u4e5d)"), (0x3229, .text "(\u5341)"),
  (0x322A, .text "(\u6708)"), (0x322B, .text "(\u706b)"), (0x322C, .text "(\u6c34)"),
  (0x322D, .text "(\u6728)"), (0x322E, .text "(\u91d1)"), (0x322F, .text "(\u571f)"),
  (0x3230, .text "(\u65e5)"), (0x3231, .text "(\u682a)"), (0x3232, .text "(\u6709)"),
  (0x3233, .text "(\u793e)"), (0x3234, .text "(\u540d)"), (0x3235, .text "(\u7279)"),
  (0x3236, .text "(\u8ca1)"), (0x3237, .text "(\u795d)"), (0x3238, .text "(\u52b4)"),
  (0x3239, .text "(\u4ee3)"), (0x323A, .text "(\u547c)"), (0x323B, .text "(\u5b66)"),
  (0x323C, .text "(\u76e3)"), (0x323D, .text "(\u4f01)"), (0x323E, .text "(\u8cc7)"),
  (0x323F, .text "(\u5354)"), (0x3240, .text "(\u796d)"), (0x3241, .text "(\u4f11)"),
  (0x3242, .text "(\u81ea)"), (0x3243, .text "(\u81f3)"), (0x3244, .mapped), (0x3248, .keep),
  (0x3250, .text "pte"), (0x3251, .text "21"), (0x3252, .text "22"), (0x3253, .text "23"),
  (0x3254, .text "24"), (0x3255, .text "25"), (0x3256, .text "26"), (0x3257, .text "27"),
  (0x3258, .text "28"), (0x3259, .text "29"), (0x325A, .text "30"), (0x325B, .text "31"),
  (0x325C, .text "32"), (0x325D, .text "33"), (0x325E, .text "34"), (0x325F, .text "35"),
  (0x3260, .mapped), (0x327F, .keep), (0x3280, .mapped), (0x32B1, .text "36"),
  (0x32B2, .text "37"), (0x32B3, .text "38"), (0x32B4, .text "39"), (0x32B5, .text "40"),
  (0x32B6, .text "41"), (0x32B7, .text "42"), (0x32B8, .text "43"), (0x32B9, .text "44"),
  (0x32BA, .text "45"), (0x32BB, .text "46"), (0x32BC, .text "47"), (0x32BD, .text "48"),
  (0x32BE, .text "49"), (0x32BF, .text "50"), (0x32C0, .text "1\u6708"),
  (0x32C1, .text "2\u6708"), (0x32C2, .text "3\u6708"), (0x32C3, .text "4\u6708"),
  (0x32C4, .text "5\u6708"), (0x32C5, .text "6\u6708"), (0x32C6, .text "7\u6708"),
  (0x32C7, .text "8\u6708"), (0x32C8, .text "9\u6708"), (0x32C9, .text "10\u6708"),
  (0x32CA, .text "11\u6708"), (0x32CB, .text "12\u6708"), (0x32CC, .text "hg"),
  (0x32CD, .text "erg"), (0x32CE, .text "ev"), (0x32CF, .text "ltd"), (0x32D0, .mapped),
  (0x3358, .text "0\u70b9"), (0x3359, .text "1\u70b9"), (0x335A, .text "2\u70b9"),
  (0x335B, .text "3\u70b9"), (0x335C, .text "4\u70b9"), (0x335D, .text "5\u70b9"),
  (0x335E, .text "6\u70b9"), (0x335F, .text "7\u70b9"), (0x3360, .text "8\u70b9"),
  (0x3361, .text "9\u70b9"), (0x3362, .text "10\u70b9"), (0x3363, .text "11\u70b9"),
  (0x3364, .text "12\u70b9"), (0x3365, .text "13\u70b9"), (0x3366, .text "14\u70b9"),
  (0x3367, .text "15\u70b9"), (0x3368, .text "16\u70b9"), (0x3369, .text "17\u70b9"),
  (0x336A, .text "18\u70b9"), (0x336B, .text "19\u70b9"), (0x336C, .text "20\u70b9"),
  (0x336D, .text "21\u70b9"), (0x336E, .text "22\u70b9"), (0x336F, .text "23\u70b9"),
  (0x3370, .text "24\u70b9"), (0x3371, .text "hpa"), (0x3372, .text "da"),
  (0x3373, .text "au"), (0x3374, .text "bar"), (0x3375, .text "ov"), (0x3376, .text "pc"),
  (0x3377, .text "dm"), (0x3378, .text "dm2"), (0x3379, .text "dm3"), (0x337A, .text "iu"),
  (0x337B, .mapped), (0x3380, .text "pa"), (0x3381, .text "na"), (0x3382, .text "\u03bca"),
  (0x3383, .text "ma"), (0x3384, .text "ka"), (0x3385, .text "kb"), (0x3386, .text "mb"),
  (0x3387, .text "gb"), (0x3388, .text "cal"), (0x3389, .text "kcal"), (0x338A, .text "pf"),
  (0x338B, .text "nf"), (0x338C, .text "\u03bcf"), (0x338D, .text "\u03bcg"),
  (0x338E, .text "mg"), (0x338F, .text "kg"), (0x3390, .text "hz"), (0x3391, .text "khz"),
  (0x3392, .text "mhz"), (0x3393, .text "ghz"), (0x3394, .text "thz"),
  (0x3395, .text "\u03bcl"), (0x3396, .text "ml"), (0x3397, .text "dl"), (0x3398, .text "kl"),
  (0x3399, .text "fm"), (0x339A, .text "nm"), (0x339B, .text "\u03bcm"), (0x339C, .text "mm"),
  (0x339D, .text "cm"), (0x339E, .text "km"), (0x339F, .text "mm2"), (0x33A0, .text "cm2"),
  (0x33A1, .text "m2"), (0x33A2, .text "km2"), (0x33A3, .text "mm3"), (0x33A4, .text "cm3"),
  (0x33A5, .text "m3"), (0x33A6, .text "km3"), (0x33A7, .text "m\u2215s"),
  (0x33A8, .text "m\u2215s2"), (0x33A9, .text "pa"), (0x33AA, .text "kpa"),
  (0x33AB, .text "mpa"), (0x33AC, .text "gpa"), (0x33AD, .text "rad"),
  (0x33AE, .text "rad\u2215s"), (0x33AF, .text "rad\u2215s2"), (0x33B0, .text "ps"),
  (0x33B1, .text "ns"), (0x33B2, .text "\u03bcs"), (0x33B3, .text "ms"), (0x33B4, .text "pv"),
  (0x33B5, .text "nv"), (0x33B6, .text "\u03bcv"), (0x33B7, .text "mv"), (0x33B8, .text "kv"),
  (0x33B9, .text "mv"), (0x33BA, .text "pw"), (0x33BB, .text "nw"), (0x33BC, .text "\u03bcw"),
  (0x33BD, .text "mw"), (0x33BE, .text "kw"), (0x33BF, .text "mw"), (0x33C0, .text "k\u03c9"),
  (0x33C1, .text "m\u03c9"), (0x33C2, .disallowed), (0x33C3, .text "bq"), (0x33C4, .text "cc"),
  (0x33C5, .text "cd"), (0x33C6, .text "c\u2215kg"), (0x33C7, .disallowed),
  (0x33C8, .text "db"), (0x33C9, .text "gy"), (0x33CA, .text "ha"), (0x33CB, .text "hp"),
  (0x33CC, .text "in"), (0x33CD, .text "kk"), (0x33CE, .text "km"), (0x33CF, .text "kt"),
  (0x33D0, .text "lm"), (0x33D1, .text "ln"), (0x33D2, .text "log"), (0x33D3, .text "lx"),
  (0x33D4, .text "mb"), (0x33D5, .text "mil"), (0x33D6, .text "mol"), (0x33D7, .text "ph"),
  (0x33D8, .disallowed), (0x33D9, .text "ppm"), (0x33DA, .text "pr"), (0x33DB, .text "sr"),
  (0x33DC, .text "sv"), (0x33DD, .text "wb"), (0x33DE, .text "v\u2215m"),
  (0x33DF, .text "a\u2215m"), (0x33E0, .text "1\u65e5"), (0x33E1, .text "2\u65e5"),
  (0x33E2, .text "3\u65e5"), (0x33E3, .text "4\u65e5"), (0x33E4, .text "5\u65e5"),
  (0x33E5, .text "6\u65e5"), (0x33E6, .text "7\u65e5"), (0x33E7, .text "8\u65e5"),
  (0x33E8, .text "9\u65e5"), (0x33E9, .text "10\u65e5"), (0x33EA, .text "11\u65e5"),
  (0x33EB, .text "12\u65e5"), (0x33EC, .text "13\u65e5"), (0x33ED, .text "14\u65e5"),
  (0x33EE, .text "15\u65e5"), (0x33EF, .text "16\u65e5"), (0x33F0, .text "17\u65e5"),
  (0x33F1, .text "18\u65e5"), (0x33F2, .text "19\u65e5"), (0x33F3, .text "20\u65e5"),
  (0x33F4, .text "21\u65e5"), (0x33F5, .text "22\u65e5"), (0x33F6, .text "23\u65e5"),
  (0x33F7, .text "24\u65e5"), (0x33F8, .text "25\u65e5"), (0x33F9, .text "26\u65e5"),
  (0x33FA, .text "27\u65e5"), (0x33FB, .text "28\u65e5"), (0x33FC, .text "29\u65e5"),
  (0x33FD, .text "30\u65e5"), (0x33FE, .text "31\u65e5"), (0x33FF, .text "gal"),
  (0x3400, .keep), (0xA48D, .disallowed), (0xA490, .keep), (0xA4C7, .disallowed),
  (0xA4D0, .keep), (0xA62C, .disallowed), (0xA640, .mapped), (0xA641, .keep),
  (0xA642, .mapped), (0xA643, .keep), (0xA644, .mapped), (0xA645, .keep), (0xA646, .mapped),
  (0xA647, .keep), (0xA648, .mapped), (0xA649, .keep), (0xA64A, .mapped), (0xA64B, .keep),
  (0xA64C, .mapped), (0xA64D, .keep), (0xA64E, .mapped), (0xA64F, .keep), (0xA650, .mapped),
  (0xA651, .keep), (0xA652, .mapped), (0xA653, .keep), (0xA654, .mapped), (0xA655, .keep),
  (0xA656, .mapped), (0xA657, .keep), (0xA658, .mapped), (0xA659, .keep), (0xA65A, .mapped),
  (0xA65B, .keep), (0xA65C, .mapped), (0xA65D, .keep), (0xA65E, .mapped), (0xA65F, .keep),
  (0xA660, .mapped), (0xA661, .keep), (0xA662, .mapped), (0xA663, .keep), (0xA664, .mapped),
  (0xA665, .keep), (0xA666, .mapped), (0xA667, .keep), (0xA668, .mapped), (0xA669, .keep),
  (0xA66A, .mapped), (0xA66B, .keep), (0xA66C, .mapped), (0xA66D, .keep), (0xA680, .mapped),
  (0xA681, .keep), (0xA682, .mapped), (0xA683, .keep), (0xA684, .mapped), (0xA685, .keep),
  (0xA686, .mapped), (0xA687, .keep), (0xA688, .mapped), (0xA689, .keep), (0xA68A, .mapped),
  (0xA68B, .keep), (0xA68C, .mapped), (0xA68D, .keep), (0xA68E, .mapped), (0xA68F, .keep),
  (0xA690, .mapped), (0xA691, .keep), (0xA692, .mapped), (0xA693, .keep), (0xA694, .mapped),
  (0xA695, .keep), (0xA696, .mapped), (0xA697, .keep), (0xA698, .mapped), (0xA699, .keep),
  (0xA69A, .mapped), (0xA69B, .keep), (0xA69C, .mapped), (0xA69E, .keep),
  (0xA6F8, .disallowed), (0xA700, .keep), (0xA722, .mapped), (0xA723, .keep),
  (0xA724, .mapped), (0xA725, .keep), (0xA726, .mapped), (0xA727, .keep), (0xA728, .mapped),
  (0xA729, .keep), (0xA72A, .mapped), (0xA72B, .keep), (0xA72C, .mapped), (0xA72D, .keep),
  (0xA72E, .mapped), (0xA72F, .keep), (0xA732, .mapped), (0xA733, .keep), (0xA734, .mapped),
  (0xA735, .keep), (0xA736, .mapped), (0xA737, .keep), (0xA738, .mapped), (0xA739, .keep),
  (0xA73A, .mapped), (0xA73B, .keep), (0xA73C, .mapped), (0xA73D, .keep), (0xA73E, .mapped),
  (0xA73F, .keep), (0xA740, .mapped), (0xA741, .keep), (0xA742, .mapped), (0xA743, .keep),
  (0xA744, .mapped), (0xA745, .keep), (0xA746, .mapped), (0xA747, .keep), (0xA748, .mapped),
  (0xA749, .keep), (0xA74A, .mapped), (0xA74B, .keep), (0xA74C, .mapped), (0xA74D, .keep),
  (0xA74E, .mapped), (0xA74F, .keep), (0xA750, .mapped), (0xA751, .keep), (0xA752, .mapped),
  (0xA753, .keep), (0xA754, .mapped), (0xA755, .keep), (0xA756, .mapped), (0xA757, .keep),
  (0xA758, .mapped), (0xA759, .keep), (0xA75A, .mapped), (0xA75B, .keep), (0xA75C, .mapped),
  (0xA75D, .keep), (0xA75E, .mapped), (0xA75F, .keep), (0xA760, .mapped), (0xA761, .keep),
  (0xA762, .mapped), (0xA763, .keep), (0xA764, .mapped), (0xA765, .keep), (0xA766, .mapped),
  (0xA767, .keep), (0xA768, .mapped), (0xA769, .keep), (0xA76A, .mapped), (0xA76B, .keep),
  (0xA76C, .mapped), (0xA76D, .keep), (0xA76E, .mapped), (0xA76F, .keep), (0xA770, .mapped),
  (0xA771, .keep), (0xA779, .mapped), (0xA77A, .keep), (0xA77B, .mapped), (0xA77C, .keep),
  (0xA77D, .mapped), (0xA77F, .keep), (0xA780, .mapped), (0xA781, .keep), (0xA782, .mapped),
  (0xA783, .keep), (0xA784, .mapped), (0xA785, .keep), (0xA786, .mapped), (0xA787, .keep),
  (0xA78B, .mapped), (0xA78C, .keep), (0xA78D, .mapped), (0xA78E, .keep), (0xA790, .mapped),
  (0xA791, .keep), (0xA792, .mapped), (0xA793, .keep), (0xA796, .mapped), (0xA797, .keep),
  (0xA798, .mapped), (0xA799, .keep), (0xA79A, .mapped), (0xA79B, .keep), (0xA79C, .mapped),
  (0xA79D, .keep), (0xA79E, .mapped), (0xA79F, .keep), (0xA7A0, .mapped), (0xA7A1, .keep),
  (0xA7A2, .mapped)]

/-- Rows of the mapping table, part 4. -/
def idnaRows4 : List (Nat × Treatment) := [
  (0xA7A3, .keep), (0xA7A4, .mapped), (0xA7A5, .keep), (0xA7A6, .mapped), (0xA7A7, .keep),
  (0xA7A8, .mapped), (0xA7A9, .keep), (0xA7AA, .mapped), (0xA7AF, .keep), (0xA7B0, .mapped),
  (0xA7B5, .keep), (0xA7B6, .mapped), (0xA7B7, .keep), (0xA7B8, .mapped), (0xA7B9, .keep),
  (0xA7BA, .mapped), (0xA7BB, .keep), (0xA7BC, .mapped), (0xA7BD, .keep), (0xA7BE, .mapped),
  (0xA7BF, .keep), (0xA7C0, .mapped), (0xA7C1, .keep), (0xA7C2, .mapped), (0xA7C3, .keep),
  (0xA7C4, .mapped), (0xA7C8, .keep), (0xA7C9, .mapped), (0xA7CA, .keep), (0xA7CB, .mapped),
  (0xA7CD, .keep), (0xA7CE, .mapped), (0xA7CF, .keep), (0xA7D0, .mapped), (0xA7D1, .keep),
  (0xA7D2, .mapped), (0xA7D3, .keep), (0xA7D4, .mapped), (0xA7D5, .keep), (0xA7D6, .mapped),
  (0xA7D7, .keep), (0xA7D8, .mapped), (0xA7D9, .keep), (0xA7DA, .mapped), (0xA7DB, .keep),
  (0xA7DC, .mapped), (0xA7DD, .disallowed), (0xA7F1, .shift (-42878)),
  (0xA7F2, .shift (-42895)), (0xA7F3, .shift (-42893)), (0xA7F4, .shift (-42883)),
  (0xA7F5, .mapped), (0xA7F6, .keep), (0xA7F8, .mapped), (0xA7FA, .keep),
  (0xA82D, .disallowed), (0xA830, .keep), (0xA83A, .disallowed), (0xA840, .keep),
  (0xA878, .disallowed), (0xA880, .keep), (0xA8C6, .disallowed), (0xA8CE, .keep),
  (0xA8DA, .disallowed), (0xA8E0, .keep), (0xA954, .disallowed), (0xA95F, .keep),
  (0xA97D, .disallowed), (0xA980, .keep), (0xA9CE, .disallowed), (0xA9CF, .keep),
  (0xA9DA, .disallowed), (0xA9DE, .keep), (0xA9FF, .disallowed), (0xAA00, .keep),
  (0xAA37, .disallowed), (0xAA40, .keep), (0xAA4E, .disallowed), (0xAA50, .keep),
  (0xAA5A, .disallowed), (0xAA5C, .keep), (0xAAC3, .disallowed), (0xAADB, .keep),
  (0xAAF7, .disallowed), (0xAB01, .keep), (0xAB07, .disallowed), (0xAB09, .keep),
  (0xAB0F, .disallowed), (0xAB11, .keep), (0xAB17, .disallowed), (0xAB20, .keep),
  (0xAB27, .disallowed), (0xAB28, .keep), (0xAB2F, .disallowed), (0xAB30, .keep),
  (0xAB5C, .mapped), (0xAB60, .keep), (0xAB69, .mapped), (0xAB6A, .keep),
  (0xAB6C, .disallowed), (0xAB70, .mapped), (0xABC0, .keep), (0xABEE, .disallowed),
  (0xABF0, .keep), (0xABFA, .disallowed), (0xAC00, .keep), (0xD7A4, .disallowed),
  (0xD7B0, .keep), (0xD7C7, .disallowed), (0xD7CB, .keep), (0xD7FC, .disallowed),
  (0xF900, .mapped), (0xFA0E, .keep), (0xFA10, .mapped), (0xFA11, .keep), (0xFA12, .mapped),
  (0xFA13, .keep), (0xFA15, .mapped), (0xFA1F, .keep), (0xFA20, .mapped), (0xFA21, .keep),
  (0xFA22, .mapped), (0xFA23, .keep), (0xFA25, .mapped), (0xFA27, .keep), (0xFA2A, .mapped),
  (0xFA6E, .disallowed), (0xFA70, .mapped), (0xFADA, .disallowed), (0xFB00, .text "ff"),
  (0xFB01, .text "fi"), (0xFB02, .text "fl"), (0xFB03, .text "ffi"), (0xFB04, .text "ffl"),
  (0xFB05, .text "st"), (0xFB07, .disallowed), (0xFB13, .mapped), (0xFB18, .disallowed),
  (0xFB1D, .mapped), (0xFB1E, .keep), (0xFB1F, .mapped), (0xFB29, .shift (-64254)),
  (0xFB2A, .mapped), (0xFB37, .disallowed), (0xFB38, .mapped), (0xFB3D, .disallowed),
  (0xFB3E, .mapped), (0xFB3F, .disallowed), (0xFB40, .mapped), (0xFB42, .disallowed),
  (0xFB43, .mapped), (0xFB45, .disallowed), (0xFB46, .mapped), (0xFBB2, .keep),
  (0xFBD3, .mapped), (0xFC5E, .text " \u064c\u0651"), (0xFC5F, .text " \u064d\u0651"),
  (0xFC60, .text " \u064e\u0651"), (0xFC61, .text " \u064f\u0651"),
  (0xFC62, .text " \u0650\u0651"), (0xFC63, .text " \u0651\u0670"), (0xFC64, .mapped),
  (0xFD3E, .keep), (0xFD50, .mapped), (0xFD90, .keep), (0xFD92, .mapped), (0xFDC8, .keep),
  (0xFDD0, .disallowed), (0xFDF0, .mapped),
  (0xFDFA, .text "\u0635\u0644\u0649 \u0627\u0644\u0644\u0647 \u0639\u0644\u064a\u0647 \u0648\u0633\u0644\u0645"),
  (0xFDFB, .text "\u062c\u0644 \u062c\u0644\u0627\u0644\u0647"), (0xFDFC, .mapped),
  (0xFDFD, .keep), (0xFE00, .ignored), (0xFE10, .shift (-64996)), (0xFE11, .mapped),
  (0xFE12, .disallowed), (0xFE13, .shift (-64985)), (0xFE15, .shift (-65012)),
  (0xFE16, .shift (-64983)), (0xFE17, .mapped), (0xFE19, .disallowed), (0xFE20, .keep),
  (0xFE30, .disallowed), (0xFE31, .mapped), (0xFE33, .text "_"), (0xFE35, .shift (-65037)),
  (0xFE37, .shift (-64956)), (0xFE38, .shift (-64955)), (0xFE39, .mapped), (0xFE45, .keep),
  (0xFE47, .shift (-65004)), (0xFE48, .shift (-65003)), (0xFE49, .text " \u0305"),
  (0xFE4D, .text "_"), (0xFE50, .shift (-65060)), (0xFE51, .mapped), (0xFE52, .disallowed),
  (0xFE54, .shift (-65049)), (0xFE55, .shift (-65051)), (0xFE56, .shift (-65047)),
  (0xFE57, .shift (-65078)), (0xFE58, .mapped), (0xFE59, .shift (-65073)),
  (0xFE5B, .shift (-64992)), (0xFE5C, .shift (-64991)), (0xFE5D, .mapped),
  (0xFE5F, .shift (-65084)), (0xFE60, .shift (-65082)), (0xFE61, .shift (-65079)),
  (0xFE63, .shift (-65078)), (0xFE64, .shift (-65064)), (0xFE65, .shift (-65063)),
  (0xFE66, .shift (-65065)), (0xFE67, .disallowed), (0xFE68, .shift (-65036)),
  (0xFE69, .shift (-65093)), (0xFE6B, .shift (-65067)), (0xFE6C, .disallowed),
  (0xFE70, .text " \u064b"), (0xFE71, .mapped), (0xFE72, .text " \u064c"), (0xFE73, .keep),
  (0xFE74, .text " \u064d"), (0xFE75, .disallowed), (0xFE76, .text " \u064e"),
  (0xFE77, .mapped), (0xFE78, .text " \u064f"), (0xFE79, .mapped), (0xFE7A, .text " \u0650"),
  (0xFE7B, .mapped), (0xFE7C, .text " \u0651"), (0xFE7D, .mapped), (0xFE7E, .text " \u0652"),
  (0xFE7F, .mapped), (0xFEFD, .disallowed), (0xFEFF, .ignored), (0xFF00, .disallowed),
  (0xFF01, .shift (-65248)), (0xFF21, .shift (-65216)), (0xFF3B, .shift (-65248)),
  (0xFF5F, .mapped), (0xFF61, .shift (-65331)), (0xFF62, .mapped), (0xFFA0, .ignored),
  (0xFFA1, .mapped), (0xFFBF, .disallowed), (0xFFC2, .mapped), (0xFFC8, .disallowed),
  (0xFFCA, .mapped), (0xFFD0, .disallowed), (0xFFD2, .mapped), (0xFFD8, .disallowed),
  (0xFFDA, .mapped), (0xFFDD, .disallowed), (0xFFE0, .mapped), (0xFFE3, .text " \u0304"),
  (0xFFE4, .mapped), (0xFFE7, .disallowed), (0xFFE8, .mapped), (0xFFEF, .disallowed),
  (0x10000, .keep), (0x1000C, .disallowed), (0x1000D, .keep), (0x10027, .disallowed),
  (0x10028, .keep), (0x1003B, .disallowed), (0x1003C, .keep), (0x1003E, .disallowed),
  (0x1003F, .keep), (0x1004E, .disallowed), (0x10050, .keep), (0x1005E, .disallowed),
  (0x10080, .keep), (0x100FB, .disallowed), (0x10100, .keep), (0x10103, .disallowed),
  (0x10107, .keep), (0x10134, .disallowed), (0x10137, .keep), (0x1018F, .disallowed),
  (0x10190, .keep), (0x1019D, .disallowed), (0x101A0, .keep), (0x101A1, .disallowed),
  (0x101D0, .keep), (0x101FE, .disallowed), (0x10280, .keep), (0x1029D, .disallowed),
  (0x102A0, .keep), (0x102D1, .disallowed), (0x102E0, .keep), (0x102FC, .disallowed),
  (0x10300, .keep), (0x10324, .disallowed), (0x1032D, .keep), (0x1034B, .disallowed),
  (0x10350, .keep), (0x1037B, .disallowed), (0x10380, .keep), (0x1039E, .disallowed),
  (0x1039F, .keep), (0x103C4, .disallowed), (0x103C8, .keep), (0x103D6, .disallowed),
  (0x10400, .mapped), (0x10428, .keep), (0x1049E, .disallowed), (0x104A0, .keep),
  (0x104AA, .disallowed), (0x104B0, .mapped), (0x104D4, .disallowed), (0x104D8, .keep),
  (0x104FC, .disallowed), (0x10500, .keep), (0x10528, .disallowed), (0x10530, .keep),
  (0x10564, .disallowed), (0x1056F, .keep), (0x10570, .mapped), (0x1057B, .disallowed),
  (0x1057C, .mapped), (0x1058B, .disallowed), (0x1058C, .mapped), (0x10593, .disallowed),
  (0x10594, .mapped), (0x10596, .disallowed), (0x10597, .keep), (0x105A2, .disallowed),
  (0x105A3, .keep), (0x105B2, .disallowed), (0x105B3, .keep), (0x105BA, .disallowed),
  (0x105BB, .keep), (0x105BD, .disallowed), (0x105C0, .keep), (0x105F4, .disallowed),
  (0x10600, .keep), (0x10737, .disallowed), (0x10740, .keep), (0x10756, .disallowed),
  (0x10760, .keep), (0x10768, .disallowed), (0x10780, .keep), (0x10781, .mapped),
  (0x10786, .disallowed), (0x10787, .mapped), (0x107A5, .shift (-67380)), (0x107A6, .mapped),
  (0x107B1, .disallowed), (0x107B2, .mapped), (0x107BB, .disallowed), (0x10800, .keep),
  (0x10806, .disallowed), (0x10808, .keep), (0x10809, .disallowed), (0x1080A, .keep),
  (0x10836, .disallowed), (0x10837, .keep), (0x10839, .disallowed), (0x1083C, .keep),
  (0x1083D, .disallowed), (0x1083F, .keep), (0x10856, .disallowed), (0x10857, .keep),
  (0x1089F, .disallowed), (0x108A7, .keep), (0x108B0, .disallowed), (0x108E0, .keep),
  (0x108F3, .disallowed), (0x108F4, .keep), (0x108F6, .disallowed), (0x108FB, .keep),
  (0x1091C, .disallowed), (0x1091F, .keep), (0x1093A, .disallowed), (0x1093F, .keep),
  (0x1095A, .disallowed), (0x10980, .keep), (0x109B8, .disallowed), (0x109BC, .keep),
  (0x109D0, .disallowed), (0x109D2, .keep), (0x10A04, .disallowed), (0x10A05, .keep),
  (0x10A07, .disallowed), (0x10A0C, .keep), (0x10A14, .disallowed), (0x10A15, .keep),
  (0x10A18, .disallowed), (0x10A19, .keep), (0x10A36, .disallowed), (0x10A38, .keep),
  (0x10A3B, .disallowed), (0x10A3F, .keep), (0x10A49, .disallowed), (0x10A50, .keep),
  (0x10A59, .disallowed), (0x10A60, .keep), (0x10AA0, .disallowed), (0x10AC0, .keep),
  (0x10AE7, .disallowed), (0x10AEB, .keep), (0x10AF7, .disallowed), (0x10B00, .keep),
  (0x10B36, .disallowed), (0x10B39, .keep), (0x10B56, .disallowed), (0x10B58, .keep),
  (0x10B73, .disallowed), (0x10B78, .keep), (0x10B92, .disallowed), (0x10B99, .keep),
  (0x10B9D, .disallowed), (0x10BA9, .keep), (0x10BB0, .disallowed), (0x10C00, .keep),
  (0x10C49, .disallowed), (0x10C80, .mapped), (0x10CB3, .disallowed), (0x10CC0, .keep),
  (0x10CF3, .disallowed), (0x10CFA, .keep), (0x10D28, .disallowed), (0x10D30, .keep),
  (0x10D3A, .disallowed), (0x10D40, .keep), (0x10D50, .mapped), (0x10D66, .disallowed),
  (0x10D69, .keep), (0x10D86, .disallowed), (0x10D8E, .keep), (0x10D90, .disallowed),
  (0x10E60, .keep), (0x10E7F, .disallowed), (0x10E80, .keep), (0x10EAA, .disallowed),
  (0x10EAB, .keep), (0x10EAE, .disallowed), (0x10EB0, .keep), (0x10EB2, .disallowed),
  (0x10EC2, .keep), (0x10EC8, .disallowed), (0x10ED0, .keep), (0x10ED9, .disallowed),
  (0x10EFA, .keep), (0x10F28, .disallowed), (0x10F30, .keep), (0x10F5A, .disallowed),
  (0x10F70, .keep), (0x10F8A, .disallowed), (0x10FB0, .keep), (0x10FCC, .disallowed),
  (0x10FE0, .keep), (0x10FF7, .disallowed), (0x11000, .keep), (0x1104E, .disallowed),
  (0x11052, .keep), (0x11076, .disallowed), (0x1107F, .keep), (0x110BD, .disallowed),
  (0x110BE, .keep), (0x110C3, .disallowed), (0x110D0, .keep), (0x110E9, .disallowed),
  (0x110F0, .keep), (0x110FA, .disallowed), (0x11100, .keep), (0x11135, .disallowed),
  (0x11136, .keep), (0x11148, .disallowed), (0x11150, .keep), (0x11177, .disallowed),
  (0x11180, .keep), (0x111E0, .disallowed), (0x111E1, .keep), (0x111F5, .disallowed),
  (0x11200, .keep), (0x11212, .disallowed), (0x11213, .keep), (0x11242, .disallowed),
  (0x11280, .keep), (0x11287, .disallowed), (0x11288, .keep), (0x11289, .disallowed),
  (0x1128A, .keep), (0x1128E, .disallowed), (0x1128F, .keep), (0x1129E, .disallowed),
  (0x1129F, .keep), (0x112AA, .disallowed), (0x112B0, .keep), (0x112EB, .disallowed),
  (0x112F0, .keep), (0x112FA, .disallowed), (0x11300, .keep), (0x11304, .disallowed),
  (0x11305, .keep), (0x1130D, .disallowed), (0x1130F, .keep), (0x11311, .disallowed),
  (0x11313, .keep), (0x11329, .disallowed), (0x1132A, .keep), (0x11331, .disallowed),
  (0x11332, .keep), (0x11334, .disallowed), (0x11335, .keep), (0x1133A, .disallowed),
  (0x1133B, .keep), (0x11345, .disallowed), (0x11347, .keep), (0x11349, .disallowed),
  (0x1134B, .keep), (0x1134E, .disallowed), (0x11350, .keep), (0x11351, .disallowed),
  (0x11357, .keep), (0x11358, .disallowed), (0x1135D, .keep), (0x11364, .disallowed),
  (0x11366, .keep), (0x1136D, .disallowed), (0x11370, .keep), (0x11375, .disallowed),
  (0x11380, .keep), (0x1138A, .disallowed), (0x1138B, .keep), (0x1138C, .disallowed),
  (0x1138E, .keep), (0x1138F, .disallowed), (0x11390, .keep), (0x113B6, .disallowed),
  (0x113B7, .keep), (0x113C1, .disallowed), (0x113C2, .keep), (0x113C3, .disallowed),
  (0x113C5, .keep), (0x113C6, .disallowed), (0x113C7, .keep), (0x113CB, .disallowed),
  (0x113CC, .keep), (0x113D6, .disallowed), (0x113D7, .keep), (0x113D9, .disallowed),
  (0x113E1, .keep), (0x113E3, .disallowed), (0x11400, .keep), (0x1145C, .disallowed),
  (0x1145D, .keep), (0x11462, .disallowed), (0x11480, .keep), (0x114C8, .disallowed),
  (0x114D0, .keep), (0x114DA, .disallowed), (0x11580, .keep), (0x115B6, .disallowed),
  (0x115B8, .keep), (0x115DE, .disallowed), (0x11600, .keep), (0x11645, .disallowed),
  (0x11650, .keep), (0x1165A, .disallowed), (0x11660, .keep), (0x1166D, .disallowed),
  (0x11680, .keep), (0x116BA, .disallowed), (0x116C0, .keep), (0x116CA, .disallowed),
  (0x116D0, .keep), (0x116E4, .disallowed), (0x11700, .keep), (0x1171B, .disallowed),
  (0x1171D, .keep), (0x1172C, .disallowed), (0x11730, .keep), (0x11747, .disallowed),
  (0x11800, .keep), (0x1183C, .disallowed), (0x118A0, .mapped), (0x118C0, .keep),
  (0x118F3, .disallowed), (0x118FF, .keep), (0x11907, .disallowed), (0x11909, .keep),
  (0x1190A, .disallowed), (0x1190C, .keep), (0x11914, .disallowed), (0x11915, .keep),
  (0x11917, .disallowed), (0x11918, .keep), (0x11936, .disallowed), (0x11937, .keep),
  (0x11939, .disallowed), (0x1193B, .keep), (0x11947, .disallowed), (0x11950, .keep),
  (0x1195A, .disallowed), (0x119A0, .keep), (0x119A8, .disallowed)]

/-- Rows of the mapping table, part 5. -/
def idnaRows5 : List (Nat × Treatment) := [
  (0x119AA, .keep), (0x119D8, .disallowed), (0x119DA, .keep), (0x119E5, .disallowed),
  (0x11A00, .keep), (0x11A48, .disallowed), (0x11A50, .keep), (0x11AA3, .disallowed),
  (0x11AB0, .keep), (0x11AF9, .disallowed), (0x11B00, .keep), (0x11B0A, .disallowed),
  (0x11B60, .keep), (0x11B68, .disallowed), (0x11BC0, .keep), (0x11BE2, .disallowed),
  (0x11BF0, .keep), (0x11BFA, .disallowed), (0x11C00, .keep), (0x11C09, .disallowed),
  (0x11C0A, .keep), (0x11C37, .disallowed), (0x11C38, .keep), (0x11C46, .disallowed),
  (0x11C50, .keep), (0x11C6D, .disallowed), (0x11C70, .keep), (0x11C90, .disallowed),
  (0x11C92, .keep), (0x11CA8, .disallowed), (0x11CA9, .keep), (0x11CB7, .disallowed),
  (0x11D00, .keep), (0x11D07, .disallowed), (0x11D08, .keep), (0x11D0A, .disallowed),
  (0x11D0B, .keep), (0x11D37, .disallowed), (0x11D3A, .keep), (0x11D3B, .disallowed),
  (0x11D3C, .keep), (0x11D3E, .disallowed), (0x11D3F, .keep), (0x11D48, .disallowed),
  (0x11D50, .keep), (0x11D5A, .disallowed), (0x11D60, .keep), (0x11D66, .disallowed),
  (0x11D67, .keep), (0x11D69, .disallowed), (0x11D6A, .keep), (0x11D8F, .disallowed),
  (0x11D90, .keep), (0x11D92, .disallowed), (0x11D93, .keep), (0x11D99, .disallowed),
  (0x11DA0, .keep), (0x11DAA, .disallowed), (0x11DB0, .keep), (0x11DDC, .disallowed),
  (0x11DE0, .keep), (0x11DEA, .disallowed), (0x11EE0, .keep), (0x11EF9, .disallowed),
  (0x11F00, .keep), (0x11F11, .disallowed), (0x11F12, .keep), (0x11F3B, .disallowed),
  (0x11F3E, .keep), (0x11F5B, .disallowed), (0x11FB0, .keep), (0x11FB1, .disallowed),
  (0x11FC0, .keep), (0x11FF2, .disallowed), (0x11FFF, .keep), (0x1239A, .disallowed),
  (0x12400, .keep), (0x1246F, .disallowed), (0x12470, .keep), (0x12475, .disallowed),
  (0x12480, .keep), (0x12544, .disallowed), (0x12F90, .keep), (0x12FF3, .disallowed),
  (0x13000, .keep), (0x13430, .disallowed), (0x13440, .keep), (0x13456, .disallowed),
  (0x13460, .keep), (0x143FB, .disallowed), (0x14400, .keep), (0x14647, .disallowed),
  (0x16100, .keep), (0x1613A, .disallowed), (0x16800, .keep), (0x16A39, .disallowed),
  (0x16A40, .keep), (0x16A5F, .disallowed), (0x16A60, .keep), (0x16A6A, .disallowed),
  (0x16A6E, .keep), (0x16ABF, .disallowed), (0x16AC0, .keep), (0x16ACA, .disallowed),
  (0x16AD0, .keep), (0x16AEE, .disallowed), (0x16AF0, .keep), (0x16AF6, .disallowed),
  (0x16B00, .keep), (0x16B46, .disallowed), (0x16B50, .keep), (0x16B5A, .disallowed),
  (0x16B5B, .keep), (0x16B62, .disallowed), (0x16B63, .keep), (0x16B78, .disallowed),
  (0x16B7D, .keep), (0x16B90, .disallowed), (0x16D40, .keep), (0x16D7A, .disallowed),
  (0x16E40, .mapped), (0x16E60, .keep), (0x16E9B, .disallowed), (0x16EA0, .mapped),
  (0x16EB9, .disallowed), (0x16EBB, .keep), (0x16ED4, .disallowed), (0x16F00, .keep),
  (0x16F4B, .disallowed), (0x16F4F, .keep), (0x16F88, .disallowed), (0x16F8F, .keep),
  (0x16FA0, .disallowed), (0x16FE0, .keep), (0x16FE5, .disallowed), (0x16FF0, .keep),
  (0x16FF7, .disallowed), (0x17000, .keep), (0x18CD6, .disallowed), (0x18CFF, .keep),
  (0x18D1F, .disallowed), (0x18D80, .keep), (0x18DF3, .disallowed), (0x1AFF0, .keep),
  (0x1AFF4, .disallowed), (0x1AFF5, .keep), (0x1AFFC, .disallowed), (0x1AFFD, .keep),
  (0x1AFFF, .disallowed), (0x1B000, .keep), (0x1B123, .disallowed), (0x1B132, .keep),
  (0x1B133, .disallowed), (0x1B150, .keep), (0x1B153, .disallowed), (0x1B155, .keep),
  (0x1B156, .disallowed), (0x1B164, .keep), (0x1B168, .disallowed), (0x1B170, .keep),
  (0x1B2FC, .disallowed), (0x1BC00, .keep), (0x1BC6B, .disallowed), (0x1BC70, .keep),
  (0x1BC7D, .disallowed), (0x1BC80, .keep), (0x1BC89, .disallowed), (0x1BC90, .keep),
  (0x1BC9A, .disallowed), (0x1BC9C, .keep), (0x1BCA0, .ignored), (0x1BCA4, .disallowed),
  (0x1CC00, .keep), (0x1CCD6, .shift (-117877)), (0x1CCF0, .shift (-117952)), (0x1CCFA, .keep),
  (0x1CCFD, .disallowed), (0x1CD00, .keep), (0x1CEB4, .disallowed), (0x1CEBA, .keep),
  (0x1CED1, .disallowed), (0x1CEE0, .keep), (0x1CEF1, .disallowed), (0x1CF00, .keep),
  (0x1CF2E, .disallowed), (0x1CF30, .keep), (0x1CF47, .disallowed), (0x1CF50, .keep),
  (0x1CFC4, .disallowed), (0x1D000, .keep), (0x1D0F6, .disallowed), (0x1D100, .keep),
  (0x1D127, .disallowed), (0x1D129, .keep), (0x1D15E, .mapped), (0x1D165, .keep),
  (0x1D173, .ignored), (0x1D17B, .keep), (0x1D1BB, .mapped), (0x1D1C1, .keep),
  (0x1D1EB, .disallowed), (0x1D200, .keep), (0x1D246, .disallowed), (0x1D2C0, .keep),
  (0x1D2D4, .disallowed), (0x1D2E0, .keep), (0x1D2F4, .disallowed), (0x1D300, .keep),
  (0x1D357, .disallowed), (0x1D360, .keep), (0x1D379, .disallowed),
  (0x1D400, .shift (-119711)), (0x1D41A, .shift (-119737)), (0x1D434, .shift (-119763)),
  (0x1D44E, .shift (-119789)), (0x1D455, .disallowed), (0x1D456, .shift (-119789)),
  (0x1D468, .shift (-119815)), (0x1D482, .shift (-119841)), (0x1D49C, .shift (-119867)),
  (0x1D49D, .disallowed), (0x1D49E, .shift (-119867)), (0x1D4A0, .disallowed),
  (0x1D4A2, .shift (-119867)), (0x1D4A3, .disallowed), (0x1D4A5, .shift (-119867)),
  (0x1D4A7, .disallowed), (0x1D4A9, .shift (-119867)), (0x1D4AD, .disallowed),
  (0x1D4AE, .shift (-119867)), (0x1D4B6, .shift (-119893)), (0x1D4BA, .disallowed),
  (0x1D4BB, .shift (-119893)), (0x1D4BC, .disallowed), (0x1D4BD, .shift (-119893)),
  (0x1D4C4, .disallowed), (0x1D4C5, .shift (-119893)), (0x1D4D0, .shift (-119919)),
  (0x1D4EA, .shift (-119945)), (0x1D504, .shift (-119971)), (0x1D506, .disallowed),
  (0x1D507, .shift (-119971)), (0x1D50B, .disallowed), (0x1D50D, .shift (-119971)),
  (0x1D515, .disallowed), (0x1D516, .shift (-119971)), (0x1D51D, .disallowed),
  (0x1D51E, .shift (-119997)), (0x1D538, .shift (-120023)), (0x1D53A, .disallowed),
  (0x1D53B, .shift (-120023)), (0x1D53F, .disallowed), (0x1D540, .shift (-120023)),
  (0x1D545, .disallowed), (0x1D546, .shift (-120023)), (0x1D547, .disallowed),
  (0x1D54A, .shift (-120023)), (0x1D551, .disallowed), (0x1D552, .shift (-120049)),
  (0x1D56C, .shift (-120075)), (0x1D586, .shift (-120101)), (0x1D5A0, .shift (-120127)),
  (0x1D5BA, .shift (-120153)), (0x1D5D4, .shift (-120179)), (0x1D5EE, .shift (-120205)),
  (0x1D608, .shift (-120231)), (0x1D622, .shift (-120257)), (0x1D63C, .shift (-120283)),
  (0x1D656, .shift (-120309)), (0x1D670, .shift (-120335)), (0x1D68A, .shift (-120361)),
  (0x1D6A4, .mapped), (0x1D6A6, .disallowed), (0x1D6A8, .mapped), (0x1D7CC, .disallowed),
  (0x1D7CE, .shift (-120734)), (0x1D7D8, .shift (-120744)), (0x1D7E2, .shift (-120754)),
  (0x1D7EC, .shift (-120764)), (0x1D7F6, .shift (-120774)), (0x1D800, .keep),
  (0x1DA8C, .disallowed), (0x1DA9B, .keep), (0x1DAA0, .disallowed), (0x1DAA1, .keep),
  (0x1DAB0, .disallowed), (0x1DF00, .keep), (0x1DF1F, .disallowed), (0x1DF25, .keep),
  (0x1DF2B, .disallowed), (0x1E000, .keep), (0x1E007, .disallowed), (0x1E008, .keep),
  (0x1E019, .disallowed), (0x1E01B, .keep), (0x1E022, .disallowed), (0x1E023, .keep),
  (0x1E025, .disallowed), (0x1E026, .keep), (0x1E02B, .disallowed), (0x1E030, .mapped),
  (0x1E06E, .disallowed), (0x1E08F, .keep), (0x1E090, .disallowed), (0x1E100, .keep),
  (0x1E12D, .disallowed), (0x1E130, .keep), (0x1E13E, .disallowed), (0x1E140, .keep),
  (0x1E14A, .disallowed), (0x1E14E, .keep), (0x1E150, .disallowed), (0x1E290, .keep),
  (0x1E2AF, .disallowed), (0x1E2C0, .keep), (0x1E2FA, .disallowed), (0x1E2FF, .keep),
  (0x1E300, .disallowed), (0x1E4D0, .keep), (0x1E4FA, .disallowed), (0x1E5D0, .keep),
  (0x1E5FB, .disallowed), (0x1E5FF, .keep), (0x1E600, .disallowed), (0x1E6C0, .keep),
  (0x1E6DF, .disallowed), (0x1E6E0, .keep), (0x1E6F6, .disallowed), (0x1E6FE, .keep),
  (0x1E700, .disallowed), (0x1E7E0, .keep), (0x1E7E7, .disallowed), (0x1E7E8, .keep),
  (0x1E7EC, .disallowed), (0x1E7ED, .keep), (0x1E7EF, .disallowed), (0x1E7F0, .keep),
  (0x1E7FF, .disallowed), (0x1E800, .keep), (0x1E8C5, .disallowed), (0x1E8C7, .keep),
  (0x1E8D7, .disallowed), (0x1E900, .mapped), (0x1E922, .keep), (0x1E94C, .disallowed),
  (0x1E950, .keep), (0x1E95A, .disallowed), (0x1E95E, .keep), (0x1E960, .disallowed),
  (0x1EC71, .keep), (0x1ECB5, .disallowed), (0x1ED01, .keep), (0x1ED3E, .disallowed),
  (0x1EE00, .mapped), (0x1EE04, .disallowed), (0x1EE05, .mapped), (0x1EE20, .disallowed),
  (0x1EE21, .mapped), (0x1EE23, .disallowed), (0x1EE24, .mapped), (0x1EE25, .disallowed),
  (0x1EE27, .mapped), (0x1EE28, .disallowed), (0x1EE29, .mapped), (0x1EE33, .disallowed),
  (0x1EE34, .mapped), (0x1EE38, .disallowed), (0x1EE39, .mapped), (0x1EE3A, .disallowed),
  (0x1EE3B, .mapped), (0x1EE3C, .disallowed), (0x1EE42, .mapped), (0x1EE43, .disallowed),
  (0x1EE47, .mapped), (0x1EE48, .disallowed), (0x1EE49, .mapped), (0x1EE4A, .disallowed),
  (0x1EE4B, .mapped), (0x1EE4C, .disallowed), (0x1EE4D, .mapped), (0x1EE50, .disallowed),
  (0x1EE51, .mapped), (0x1EE53, .disallowed), (0x1EE54, .mapped), (0x1EE55, .disallowed),
  (0x1EE57, .mapped), (0x1EE58, .disallowed), (0x1EE59, .mapped), (0x1EE5A, .disallowed),
  (0x1EE5B, .mapped), (0x1EE5C, .disallowed), (0x1EE5D, .mapped), (0x1EE5E, .disallowed),
  (0x1EE5F, .mapped), (0x1EE60, .disallowed), (0x1EE61, .mapped), (0x1EE63, .disallowed),
  (0x1EE64, .mapped), (0x1EE65, .disallowed), (0x1EE67, .mapped), (0x1EE6B, .disallowed),
  (0x1EE6C, .mapped), (0x1EE73, .disallowed), (0x1EE74, .mapped), (0x1EE78, .disallowed),
  (0x1EE79, .mapped), (0x1EE7D, .disallowed), (0x1EE7E, .mapped), (0x1EE7F, .disallowed),
  (0x1EE80, .mapped), (0x1EE8A, .disallowed), (0x1EE8B, .mapped), (0x1EE9C, .disallowed),
  (0x1EEA1, .mapped), (0x1EEA4, .disallowed), (0x1EEA5, .mapped), (0x1EEAA, .disallowed),
  (0x1EEAB, .mapped), (0x1EEBC, .disallowed), (0x1EEF0, .keep), (0x1EEF2, .disallowed),
  (0x1F000, .keep), (0x1F02C, .disallowed), (0x1F030, .keep), (0x1F094, .disallowed),
  (0x1F0A0, .keep), (0x1F0AF, .disallowed), (0x1F0B1, .keep), (0x1F0C0, .disallowed),
  (0x1F0C1, .keep), (0x1F0D0, .disallowed), (0x1F0D1, .keep), (0x1F0F6, .disallowed),
  (0x1F101, .text "0,"), (0x1F102, .text "1,"), (0x1F103, .text "2,"), (0x1F104, .text "3,"),
  (0x1F105, .text "4,"), (0x1F106, .text "5,"), (0x1F107, .text "6,"), (0x1F108, .text "7,"),
  (0x1F109, .text "8,"), (0x1F10A, .text "9,"), (0x1F10B, .keep), (0x1F110, .text "(a)"),
  (0x1F111, .text "(b)"), (0x1F112, .text "(c)"), (0x1F113, .text "(d)"),
  (0x1F114, .text "(e)"), (0x1F115, .text "(f)"), (0x1F116, .text "(g)"),
  (0x1F117, .text "(h)"), (0x1F118, .text "(i)"), (0x1F119, .text "(j)"),
  (0x1F11A, .text "(k)"), (0x1F11B, .text "(l)"), (0x1F11C, .text "(m)"),
  (0x1F11D, .text "(n)"), (0x1F11E, .text "(o)"), (0x1F11F, .text "(p)"),
  (0x1F120, .text "(q)"), (0x1F121, .text "(r)"), (0x1F122, .text "(s)"),
  (0x1F123, .text "(t)"), (0x1F124, .text "(u)"), (0x1F125, .text "(v)"),
  (0x1F126, .text "(w)"), (0x1F127, .text "(x)"), (0x1F128, .text "(y)"),
  (0x1F129, .text "(z)"), (0x1F12A, .text "\u3014s\u3015"), (0x1F12B, .shift (-127176)),
  (0x1F12C, .shift (-127162)), (0x1F12D, .text "cd"), (0x1F12E, .text "wz"), (0x1F12F, .keep),
  (0x1F130, .shift (-127183)), (0x1F14A, .text "hv"), (0x1F14B, .text "mv"),
  (0x1F14C, .text "sd"), (0x1F14D, .text "ss"), (0x1F14E, .text "ppv"), (0x1F14F, .text "wc"),
  (0x1F150, .keep), (0x1F16A, .text "mc"), (0x1F16B, .text "md"), (0x1F16C, .text "mr"),
  (0x1F16D, .keep), (0x1F190, .text "dj"), (0x1F191, .keep), (0x1F1AE, .disallowed),
  (0x1F1E6, .keep), (0x1F200, .mapped), (0x1F203, .disallowed), (0x1F210, .mapped),
  (0x1F23C, .disallowed), (0x1F240, .mapped), (0x1F249, .disallowed), (0x1F250, .mapped),
  (0x1F252, .disallowed), (0x1F260, .keep), (0x1F266, .disallowed), (0x1F300, .keep),
  (0x1F6D9, .disallowed), (0x1F6DC, .keep), (0x1F6ED, .disallowed), (0x1F6F0, .keep),
  (0x1F6FD, .disallowed), (0x1F700, .keep), (0x1F7DA, .disallowed), (0x1F7E0, .keep),
  (0x1F7EC, .disallowed), (0x1F7F0, .keep), (0x1F7F1, .disallowed), (0x1F800, .keep),
  (0x1F80C, .disallowed), (0x1F810, .keep), (0x1F848, .disallowed), (0x1F850, .keep),
  (0x1F85A, .disallowed), (0x1F860, .keep), (0x1F888, .disallowed), (0x1F890, .keep),
  (0x1F8AE, .disallowed), (0x1F8B0, .keep), (0x1F8BC, .disallowed), (0x1F8C0, .keep),
  (0x1F8C2, .disallowed), (0x1F8D0, .keep), (0x1F8D9, .disallowed), (0x1F900, .keep),
  (0x1FA58, .disallowed), (0x1FA60, .keep), (0x1FA6E, .disallowed), (0x1FA70, .keep),
  (0x1FA7D, .disallowed), (0x1FA80, .keep), (0x1FA8B, .disallowed), (0x1FA8E, .keep),
  (0x1FAC7, .disallowed), (0x1FAC8, .keep), (0x1FAC9, .disallowed), (0x1FACD, .keep),
  (0x1FADD, .disallowed), (0x1FADF, .keep), (0x1FAEB, .disallowed), (0x1FAEF, .keep),
  (0x1FAF9, .disallowed), (0x1FB00, .keep), (0x1FB93, .disallowed), (0x1FB94, .keep),
  (0x1FBF0, .shift (-129984)), (0x1FBFA, .keep), (0x1FBFB, .disallowed), (0x20000, .keep),
  (0x2A6E0, .disallowed), (0x2A700, .keep), (0x2B81E, .disallowed), (0x2B820, .keep),
  (0x2CEAE, .disallowed), (0x2CEB0, .keep), (0x2EBE1, .disallowed), (0x2EBF0, .keep),
  (0x2EE5E, .disallowed), (0x2F800, .mapped), (0x2FA1E, .disallowed), (0x30000, .keep),
  (0x3134B, .disallowed), (0x31350, .keep), (0x3347A, .disallowed), (0xE0100, .ignored),
  (0xE01F0, .disallowed)]

/-- The whole mapping table from U+0080 on, in increasing order of first code point. -/
def idnaRows : Array (Nat × Treatment) := (idnaRows0 ++ idnaRows1 ++ idnaRows2 ++ idnaRows3 ++ idnaRows4 ++ idnaRows5).toArray

end Url

end QueryCompiler
