/-
# Characters that stand for several others

Accented letters, ligatures, fractions, squared words: a row of the table is a character and the
two or more characters of its full compatibility decomposition, marks in canonical order.  The
syllables of Hangul are not listed; they decompose by arithmetic.
-/

namespace TypeFiles
namespace Text

/-- A character and the sequence it decomposes to. -/
structure Expansion where
  char : Nat
  image : List Nat

private def expansionsA : List Expansion := [
  ⟨0xA8, [0x20, 0x308]⟩, ⟨0xAF, [0x20, 0x304]⟩, ⟨0xB4, [0x20, 0x301]⟩, ⟨0xB8, [0x20, 0x327]⟩,
  ⟨0xBC, [0x31, 0x2044, 0x34]⟩, ⟨0xBD, [0x31, 0x2044, 0x32]⟩, ⟨0xBE, [0x33, 0x2044, 0x34]⟩,
  ⟨0xC0, [0x41, 0x300]⟩, ⟨0xC1, [0x41, 0x301]⟩, ⟨0xC2, [0x41, 0x302]⟩, ⟨0xC3, [0x41, 0x303]⟩,
  ⟨0xC4, [0x41, 0x308]⟩, ⟨0xC5, [0x41, 0x30A]⟩, ⟨0xC7, [0x43, 0x327]⟩, ⟨0xC8, [0x45, 0x300]⟩,
  ⟨0xC9, [0x45, 0x301]⟩, ⟨0xCA, [0x45, 0x302]⟩, ⟨0xCB, [0x45, 0x308]⟩, ⟨0xCC, [0x49, 0x300]⟩,
  ⟨0xCD, [0x49, 0x301]⟩, ⟨0xCE, [0x49, 0x302]⟩, ⟨0xCF, [0x49, 0x308]⟩, ⟨0xD1, [0x4E, 0x303]⟩,
  ⟨0xD2, [0x4F, 0x300]⟩, ⟨0xD3, [0x4F, 0x301]⟩, ⟨0xD4, [0x4F, 0x302]⟩, ⟨0xD5, [0x4F, 0x303]⟩,
  ⟨0xD6, [0x4F, 0x308]⟩, ⟨0xD9, [0x55, 0x300]⟩, ⟨0xDA, [0x55, 0x301]⟩, ⟨0xDB, [0x55, 0x302]⟩,
  ⟨0xDC, [0x55, 0x308]⟩, ⟨0xDD, [0x59, 0x301]⟩, ⟨0xE0, [0x61, 0x300]⟩, ⟨0xE1, [0x61, 0x301]⟩,
  ⟨0xE2, [0x61, 0x302]⟩, ⟨0xE3, [0x61, 0x303]⟩, ⟨0xE4, [0x61, 0x308]⟩, ⟨0xE5, [0x61, 0x30A]⟩,
  ⟨0xE7, [0x63, 0x327]⟩, ⟨0xE8, [0x65, 0x300]⟩, ⟨0xE9, [0x65, 0x301]⟩, ⟨0xEA, [0x65, 0x302]⟩,
  ⟨0xEB, [0x65, 0x308]⟩, ⟨0xEC, [0x69, 0x300]⟩, ⟨0xED, [0x69, 0x301]⟩, ⟨0xEE, [0x69, 0x302]⟩,
  ⟨0xEF, [0x69, 0x308]⟩, ⟨0xF1, [0x6E, 0x303]⟩, ⟨0xF2, [0x6F, 0x300]⟩, ⟨0xF3, [0x6F, 0x301]⟩,
  ⟨0xF4, [0x6F, 0x302]⟩, ⟨0xF5, [0x6F, 0x303]⟩, ⟨0xF6, [0x6F, 0x308]⟩, ⟨0xF9, [0x75, 0x300]⟩,
  ⟨0xFA, [0x75, 0x301]⟩, ⟨0xFB, [0x75, 0x302]⟩, ⟨0xFC, [0x75, 0x308]⟩, ⟨0xFD, [0x79, 0x301]⟩,
  ⟨0xFF, [0x79, 0x308]⟩, ⟨0x100, [0x41, 0x304]⟩, ⟨0x101, [0x61, 0x304]⟩,
  ⟨0x102, [0x41, 0x306]⟩, ⟨0x103, [0x61, 0x306]⟩, ⟨0x104, [0x41, 0x328]⟩,
  ⟨0x105, [0x61, 0x328]⟩, ⟨0x106, [0x43, 0x301]⟩, ⟨0x107, [0x63, 0x301]⟩,
  ⟨0x108, [0x43, 0x302]⟩, ⟨0x109, [0x63, 0x302]⟩, ⟨0x10A, [0x43, 0x307]⟩,
  ⟨0x10B, [0x63, 0x307]⟩, ⟨0x10C, [0x43, 0x30C]⟩, ⟨0x10D, [0x63, 0x30C]⟩,
  ⟨0x10E, [0x44, 0x30C]⟩, ⟨0x10F, [0x64, 0x30C]⟩, ⟨0x112, [0x45, 0x304]⟩,
  ⟨0x113, [0x65, 0x304]⟩, ⟨0x114, [0x45, 0x306]⟩, ⟨0x115, [0x65, 0x306]⟩,
  ⟨0x116, [0x45, 0x307]⟩, ⟨0x117, [0x65, 0x307]⟩, ⟨0x118, [0x45, 0x328]⟩,
  ⟨0x119, [0x65, 0x328]⟩, ⟨0x11A, [0x45, 0x30C]⟩, ⟨0x11B, [0x65, 0x30C]⟩,
  ⟨0x11C, [0x47, 0x302]⟩, ⟨0x11D, [0x67, 0x302]⟩, ⟨0x11E, [0x47, 0x306]⟩,
  ⟨0x11F, [0x67, 0x306]⟩, ⟨0x120, [0x47, 0x307]⟩, ⟨0x121, [0x67, 0x307]⟩,
  ⟨0x122, [0x47, 0x327]⟩, ⟨0x123, [0x67, 0x327]⟩, ⟨0x124, [0x48, 0x302]⟩,
  ⟨0x125, [0x68, 0x302]⟩, ⟨0x128, [0x49, 0x303]⟩, ⟨0x129, [0x69, 0x303]⟩,
  ⟨0x12A, [0x49, 0x304]⟩, ⟨0x12B, [0x69, 0x304]⟩, ⟨0x12C, [0x49, 0x306]⟩,
  ⟨0x12D, [0x69, 0x306]⟩, ⟨0x12E, [0x49, 0x328]⟩, ⟨0x12F, [0x69, 0x328]⟩,
  ⟨0x130, [0x49, 0x307]⟩, ⟨0x132, [0x49, 0x4A]⟩, ⟨0x133, [0x69, 0x6A]⟩, ⟨0x134, [0x4A, 0x302]⟩,
  ⟨0x135, [0x6A, 0x302]⟩, ⟨0x136, [0x4B, 0x327]⟩, ⟨0x137, [0x6B, 0x327]⟩,
  ⟨0x139, [0x4C, 0x301]⟩, ⟨0x13A, [0x6C, 0x301]⟩, ⟨0x13B, [0x4C, 0x327]⟩,
  ⟨0x13C, [0x6C, 0x327]⟩, ⟨0x13D, [0x4C, 0x30C]⟩, ⟨0x13E, [0x6C, 0x30C]⟩,
  ⟨0x13F, [0x4C, 0xB7]⟩, ⟨0x140, [0x6C, 0xB7]⟩, ⟨0x143, [0x4E, 0x301]⟩, ⟨0x144, [0x6E, 0x301]⟩,
  ⟨0x145, [0x4E, 0x327]⟩, ⟨0x146, [0x6E, 0x327]⟩, ⟨0x147, [0x4E, 0x30C]⟩,
  ⟨0x148, [0x6E, 0x30C]⟩, ⟨0x149, [0x2BC, 0x6E]⟩, ⟨0x14C, [0x4F, 0x304]⟩,
  ⟨0x14D, [0x6F, 0x304]⟩, ⟨0x14E, [0x4F, 0x306]⟩, ⟨0x14F, [0x6F, 0x306]⟩,
  ⟨0x150, [0x4F, 0x30B]⟩, ⟨0x151, [0x6F, 0x30B]⟩, ⟨0x154, [0x52, 0x301]⟩,
  ⟨0x155, [0x72, 0x301]⟩, ⟨0x156, [0x52, 0x327]⟩, ⟨0x157, [0x72, 0x327]⟩,
  ⟨0x158, [0x52, 0x30C]⟩, ⟨0x159, [0x72, 0x30C]⟩, ⟨0x15A, [0x53, 0x301]⟩,
  ⟨0x15B, [0x73, 0x301]⟩, ⟨0x15C, [0x53, 0x302]⟩, ⟨0x15D, [0x73, 0x302]⟩,
  ⟨0x15E, [0x53, 0x327]⟩, ⟨0x15F, [0x73, 0x327]⟩, ⟨0x160, [0x53, 0x30C]⟩,
  ⟨0x161, [0x73, 0x30C]⟩, ⟨0x162, [0x54, 0x327]⟩, ⟨0x163, [0x74, 0x327]⟩,
  ⟨0x164, [0x54, 0x30C]⟩, ⟨0x165, [0x74, 0x30C]⟩, ⟨0x168, [0x55, 0x303]⟩,
  ⟨0x169, [0x75, 0x303]⟩, ⟨0x16A, [0x55, 0x304]⟩, ⟨0x16B, [0x75, 0x304]⟩,
  ⟨0x16C, [0x55, 0x306]⟩, ⟨0x16D, [0x75, 0x306]⟩, ⟨0x16E, [0x55, 0x30A]⟩,
  ⟨0x16F, [0x75, 0x30A]⟩, ⟨0x170, [0x55, 0x30B]⟩, ⟨0x171, [0x75, 0x30B]⟩,
  ⟨0x172, [0x55, 0x328]⟩, ⟨0x173, [0x75, 0x328]⟩, ⟨0x174, [0x57, 0x302]⟩,
  ⟨0x175, [0x77, 0x302]⟩, ⟨0x176, [0x59, 0x302]⟩, ⟨0x177, [0x79, 0x302]⟩,
  ⟨0x178, [0x59, 0x308]⟩, ⟨0x179, [0x5A, 0x301]⟩, ⟨0x17A, [0x7A, 0x301]⟩,
  ⟨0x17B, [0x5A, 0x307]⟩, ⟨0x17C, [0x7A, 0x307]⟩, ⟨0x17D, [0x5A, 0x30C]⟩,
  ⟨0x17E, [0x7A, 0x30C]⟩, ⟨0x1A0, [0x4F, 0x31B]⟩, ⟨0x1A1, [0x6F, 0x31B]⟩,
  ⟨0x1AF, [0x55, 0x31B]⟩, ⟨0x1B0, [0x75, 0x31B]⟩, ⟨0x1C4, [0x44, 0x5A, 0x30C]⟩,
  ⟨0x1C5, [0x44, 0x7A, 0x30C]⟩, ⟨0x1C6, [0x64, 0x7A, 0x30C]⟩, ⟨0x1C7, [0x4C, 0x4A]⟩,
  ⟨0x1C8, [0x4C, 0x6A]⟩, ⟨0x1C9, [0x6C, 0x6A]⟩, ⟨0x1CA, [0x4E, 0x4A]⟩, ⟨0x1CB, [0x4E, 0x6A]⟩,
  ⟨0x1CC, [0x6E, 0x6A]⟩, ⟨0x1CD, [0x41, 0x30C]⟩, ⟨0x1CE, [0x61, 0x30C]⟩,
  ⟨0x1CF, [0x49, 0x30C]⟩, ⟨0x1D0, [0x69, 0x30C]⟩, ⟨0x1D1, [0x4F, 0x30C]⟩,
  ⟨0x1D2, [0x6F, 0x30C]⟩, ⟨0x1D3, [0x55, 0x30C]⟩, ⟨0x1D4, [0x75, 0x30C]⟩,
  ⟨0x1D5, [0x55, 0x308, 0x304]⟩, ⟨0x1D6, [0x75, 0x308, 0x304]⟩, ⟨0x1D7, [0x55, 0x308, 0x301]⟩,
  ⟨0x1D8, [0x75, 0x308, 0x301]⟩, ⟨0x1D9, [0x55, 0x308, 0x30C]⟩, ⟨0x1DA, [0x75, 0x308, 0x30C]⟩,
  ⟨0x1DB, [0x55, 0x308, 0x300]⟩, ⟨0x1DC, [0x75, 0x308, 0x300]⟩, ⟨0x1DE, [0x41, 0x308, 0x304]⟩,
  ⟨0x1DF, [0x61, 0x308, 0x304]⟩, ⟨0x1E0, [0x41, 0x307, 0x304]⟩, ⟨0x1E1, [0x61, 0x307, 0x304]⟩,
  ⟨0x1E2, [0xC6, 0x304]⟩, ⟨0x1E3, [0xE6, 0x304]⟩, ⟨0x1E6, [0x47, 0x30C]⟩,
  ⟨0x1E7, [0x67, 0x30C]⟩, ⟨0x1E8, [0x4B, 0x30C]⟩, ⟨0x1E9, [0x6B, 0x30C]⟩,
  ⟨0x1EA, [0x4F, 0x328]⟩, ⟨0x1EB, [0x6F, 0x328]⟩, ⟨0x1EC, [0x4F, 0x328, 0x304]⟩,
  ⟨0x1ED, [0x6F, 0x328, 0x304]⟩, ⟨0x1EE, [0x1B7, 0x30C]⟩, ⟨0x1EF, [0x292, 0x30C]⟩,
  ⟨0x1F0, [0x6A, 0x30C]⟩, ⟨0x1F1, [0x44, 0x5A]⟩, ⟨0x1F2, [0x44, 0x7A]⟩, ⟨0x1F3, [0x64, 0x7A]⟩,
  ⟨0x1F4, [0x47, 0x301]⟩, ⟨0x1F5, [0x67, 0x301]⟩, ⟨0x1F8, [0x4E, 0x300]⟩,
  ⟨0x1F9, [0x6E, 0x300]⟩, ⟨0x1FA, [0x41, 0x30A, 0x301]⟩, ⟨0x1FB, [0x61, 0x30A, 0x301]⟩,
  ⟨0x1FC, [0xC6, 0x301]⟩, ⟨0x1FD, [0xE6, 0x301]⟩, ⟨0x1FE, [0xD8, 0x301]⟩,
  ⟨0x1FF, [0xF8, 0x301]⟩, ⟨0x200, [0x41, 0x30F]⟩, ⟨0x201, [0x61, 0x30F]⟩,
  ⟨0x202, [0x41, 0x311]⟩, ⟨0x203, [0x61, 0x311]⟩, ⟨0x204, [0x45, 0x30F]⟩,
  ⟨0x205, [0x65, 0x30F]⟩, ⟨0x206, [0x45, 0x311]⟩, ⟨0x207, [0x65, 0x311]⟩,
  ⟨0x208, [0x49, 0x30F]⟩, ⟨0x209, [0x69, 0x30F]⟩, ⟨0x20A, [0x49, 0x311]⟩,
  ⟨0x20B, [0x69, 0x311]⟩, ⟨0x20C, [0x4F, 0x30F]⟩, ⟨0x20D, [0x6F, 0x30F]⟩,
  ⟨0x20E, [0x4F, 0x311]⟩, ⟨0x20F, [0x6F, 0x311]⟩, ⟨0x210, [0x52, 0x30F]⟩,
  ⟨0x211, [0x72, 0x30F]⟩, ⟨0x212, [0x52, 0x311]⟩, ⟨0x213, [0x72, 0x311]⟩,
  ⟨0x214, [0x55, 0x30F]⟩, ⟨0x215, [0x75, 0x30F]⟩, ⟨0x216, [0x55, 0x311]⟩,
  ⟨0x217, [0x75, 0x311]⟩, ⟨0x218, [0x53, 0x326]⟩, ⟨0x219, [0x73, 0x326]⟩,
  ⟨0x21A, [0x54, 0x326]⟩, ⟨0x21B, [0x74, 0x326]⟩, ⟨0x21E, [0x48, 0x30C]⟩,
  ⟨0x21F, [0x68, 0x30C]⟩, ⟨0x226, [0x41, 0x307]⟩, ⟨0x227, [0x61, 0x307]⟩,
  ⟨0x228, [0x45, 0x327]⟩, ⟨0x229, [0x65, 0x327]⟩, ⟨0x22A, [0x4F, 0x308, 0x304]⟩,
  ⟨0x22B, [0x6F, 0x308, 0x304]⟩, ⟨0x22C, [0x4F, 0x303, 0x304]⟩, ⟨0x22D, [0x6F, 0x303, 0x304]⟩,
  ⟨0x22E, [0x4F, 0x307]⟩, ⟨0x22F, [0x6F, 0x307]⟩, ⟨0x230, [0x4F, 0x307, 0x304]⟩,
  ⟨0x231, [0x6F, 0x307, 0x304]⟩, ⟨0x232, [0x59, 0x304]⟩, ⟨0x233, [0x79, 0x304]⟩,
  ⟨0x2D8, [0x20, 0x306]⟩, ⟨0x2D9, [0x20, 0x307]⟩, ⟨0x2DA, [0x20, 0x30A]⟩,
  ⟨0x2DB, [0x20, 0x328]⟩, ⟨0x2DC, [0x20, 0x303]⟩, ⟨0x2DD, [0x20, 0x30B]⟩,
  ⟨0x344, [0x308, 0x301]⟩, ⟨0x37A, [0x20, 0x345]⟩, ⟨0x384, [0x20, 0x301]⟩,
  ⟨0x385, [0x20, 0x308, 0x301]⟩, ⟨0x386, [0x391, 0x301]⟩, ⟨0x388, [0x395, 0x301]⟩,
  ⟨0x389, [0x397, 0x301]⟩, ⟨0x38A, [0x399, 0x301]⟩, ⟨0x38C, [0x39F, 0x301]⟩,
  ⟨0x38E, [0x3A5, 0x301]⟩, ⟨0x38F, [0x3A9, 0x301]⟩, ⟨0x390, [0x3B9, 0x308, 0x301]⟩,
  ⟨0x3AA, [0x399, 0x308]⟩, ⟨0x3AB, [0x3A5, 0x308]⟩, ⟨0x3AC, [0x3B1, 0x301]⟩,
  ⟨0x3AD, [0x3B5, 0x301]⟩, ⟨0x3AE, [0x3B7, 0x301]⟩, ⟨0x3AF, [0x3B9, 0x301]⟩,
  ⟨0x3B0, [0x3C5, 0x308, 0x301]⟩, ⟨0x3CA, [0x3B9, 0x308]⟩, ⟨0x3CB, [0x3C5, 0x308]⟩,
  ⟨0x3CC, [0x3BF, 0x301]⟩, ⟨0x3CD, [0x3C5, 0x301]⟩, ⟨0x3CE, [0x3C9, 0x301]⟩,
  ⟨0x3D3, [0x3A5, 0x301]⟩, ⟨0x3D4, [0x3A5, 0x308]⟩, ⟨0x400, [0x415, 0x300]⟩,
  ⟨0x401, [0x415, 0x308]⟩, ⟨0x403, [0x413, 0x301]⟩, ⟨0x407, [0x406, 0x308]⟩,
  ⟨0x40C, [0x41A, 0x301]⟩, ⟨0x40D, [0x418, 0x300]⟩, ⟨0x40E, [0x423, 0x306]⟩,
  ⟨0x419, [0x418, 0x306]⟩, ⟨0x439, [0x438, 0x306]⟩, ⟨0x450, [0x435, 0x300]⟩,
  ⟨0x451, [0x435, 0x308]⟩, ⟨0x453, [0x433, 0x301]⟩, ⟨0x457, [0x456, 0x308]⟩,
  ⟨0x45C, [0x43A, 0x301]⟩, ⟨0x45D, [0x438, 0x300]⟩, ⟨0x45E, [0x443, 0x306]⟩,
  ⟨0x476, [0x474, 0x30F]⟩, ⟨0x477, [0x475, 0x30F]⟩, ⟨0x4C1, [0x416, 0x306]⟩,
  ⟨0x4C2, [0x436, 0x306]⟩, ⟨0x4D0, [0x410, 0x306]⟩, ⟨0x4D1, [0x430, 0x306]⟩,
  ⟨0x4D2, [0x410, 0x308]⟩, ⟨0x4D3, [0x430, 0x308]⟩, ⟨0x4D6, [0x415, 0x306]⟩,
  ⟨0x4D7, [0x435, 0x306]⟩, ⟨0x4DA, [0x4D8, 0x308]⟩, ⟨0x4DB, [0x4D9, 0x308]⟩,
  ⟨0x4DC, [0x416, 0x308]⟩, ⟨0x4DD, [0x436, 0x308]⟩, ⟨0x4DE, [0x417, 0x308]⟩,
  ⟨0x4DF, [0x437, 0x308]⟩, ⟨0x4E2, [0x418, 0x304]⟩, ⟨0x4E3, [0x438, 0x304]⟩,
  ⟨0x4E4, [0x418, 0x308]⟩, ⟨0x4E5, [0x438, 0x308]⟩, ⟨0x4E6, [0x41E, 0x308]⟩,
  ⟨0x4E7, [0x43E, 0x308]⟩, ⟨0x4EA, [0x4E8, 0x308]⟩, ⟨0x4EB, [0x4E9, 0x308]⟩,
  ⟨0x4EC, [0x42D, 0x308]⟩, ⟨0x4ED, [0x44D, 0x308]⟩, ⟨0x4EE, [0x423, 0x304]⟩,
  ⟨0x4EF, [0x443, 0x304]⟩, ⟨0x4F0, [0x423, 0x308]⟩, ⟨0x4F1, [0x443, 0x308]⟩,
  ⟨0x4F2, [0x423, 0x30B]⟩, ⟨0x4F3, [0x443, 0x30B]⟩, ⟨0x4F4, [0x427, 0x308]⟩,
  ⟨0x4F5, [0x447, 0x308]⟩, ⟨0x4F8, [0x42B, 0x308]⟩, ⟨0x4F9, [0x44B, 0x308]⟩,
  ⟨0x587, [0x565, 0x582]⟩, ⟨0x622, [0x627, 0x653]⟩, ⟨0x623, [0x627, 0x654]⟩,
  ⟨0x624, [0x648, 0x654]⟩, ⟨0x625, [0x627, 0x655]⟩, ⟨0x626, [0x64A, 0x654]⟩,
  ⟨0x675, [0x627, 0x674]⟩, ⟨0x676, [0x648, 0x674]⟩, ⟨0x677, [0x6C7, 0x674]⟩,
  ⟨0x678, [0x64A, 0x674]⟩, ⟨0x6C0, [0x6D5, 0x654]⟩, ⟨0x6C2, [0x6C1, 0x654]⟩,
  ⟨0x6D3, [0x6D2, 0x654]⟩, ⟨0x929, [0x928, 0x93C]⟩, ⟨0x931, [0x930, 0x93C]⟩,
  ⟨0x934, [0x933, 0x93C]⟩, ⟨0x958, [0x915, 0x93C]⟩, ⟨0x959, [0x916, 0x93C]⟩,
  ⟨0x95A, [0x917, 0x93C]⟩, ⟨0x95B, [0x91C, 0x93C]⟩, ⟨0x95C, [0x921, 0x93C]⟩,
  ⟨0x95D, [0x922, 0x93C]⟩, ⟨0x95E, [0x92B, 0x93C]⟩, ⟨0x95F, [0x92F, 0x93C]⟩,
  ⟨0x9CB, [0x9C7, 0x9BE]⟩, ⟨0x9CC, [0x9C7, 0x9D7]⟩, ⟨0x9DC, [0x9A1, 0x9BC]⟩,
  ⟨0x9DD, [0x9A2, 0x9BC]⟩, ⟨0x9DF, [0x9AF, 0x9BC]⟩, ⟨0xA33, [0xA32, 0xA3C]⟩,
  ⟨0xA36, [0xA38, 0xA3C]⟩, ⟨0xA59, [0xA16, 0xA3C]⟩, ⟨0xA5A, [0xA17, 0xA3C]⟩,
  ⟨0xA5B, [0xA1C, 0xA3C]⟩, ⟨0xA5E, [0xA2B, 0xA3C]⟩, ⟨0xB48, [0xB47, 0xB56]⟩,
  ⟨0xB4B, [0xB47, 0xB3E]⟩, ⟨0xB4C, [0xB47, 0xB57]⟩, ⟨0xB5C, [0xB21, 0xB3C]⟩,
  ⟨0xB5D, [0xB22, 0xB3C]⟩, ⟨0xB94, [0xB92, 0xBD7]⟩, ⟨0xBCA, [0xBC6, 0xBBE]⟩,
  ⟨0xBCB, [0xBC7, 0xBBE]⟩, ⟨0xBCC, [0xBC6, 0xBD7]⟩, ⟨0xC48, [0xC46, 0xC56]⟩,
  ⟨0xCC0, [0xCBF, 0xCD5]⟩, ⟨0xCC7, [0xCC6, 0xCD5]⟩, ⟨0xCC8, [0xCC6, 0xCD6]⟩,
  ⟨0xCCA, [0xCC6, 0xCC2]⟩, ⟨0xCCB, [0xCC6, 0xCC2, 0xCD5]⟩, ⟨0xD4A, [0xD46, 0xD3E]⟩,
  ⟨0xD4B, [0xD47, 0xD3E]⟩, ⟨0xD4C, [0xD46, 0xD57]⟩, ⟨0xDDA, [0xDD9, 0xDCA]⟩,
  ⟨0xDDC, [0xDD9, 0xDCF]⟩, ⟨0xDDD, [0xDD9, 0xDCF, 0xDCA]⟩, ⟨0xDDE, [0xDD9, 0xDDF]⟩,
  ⟨0xE33, [0xE4D, 0xE32]⟩, ⟨0xEB3, [0xECD, 0xEB2]⟩, ⟨0xEDC, [0xEAB, 0xE99]⟩,
  ⟨0xEDD, [0xEAB, 0xEA1]⟩, ⟨0xF43, [0xF42, 0xFB7]⟩, ⟨0xF4D, [0xF4C, 0xFB7]⟩,
  ⟨0xF52, [0xF51, 0xFB7]⟩, ⟨0xF57, [0xF56, 0xFB7]⟩, ⟨0xF5C, [0xF5B, 0xFB7]⟩,
  ⟨0xF69, [0xF40, 0xFB5]⟩, ⟨0xF73, [0xF71, 0xF72]⟩, ⟨0xF75, [0xF71, 0xF74]⟩,
  ⟨0xF76, [0xFB2, 0xF80]⟩, ⟨0xF77, [0xFB2, 0xF71, 0xF80]⟩, ⟨0xF78, [0xFB3, 0xF80]⟩,
  ⟨0xF79, [0xFB3, 0xF71, 0xF80]⟩, ⟨0xF81, [0xF71, 0xF80]⟩, ⟨0xF93, [0xF92, 0xFB7]⟩,
  ⟨0xF9D, [0xF9C, 0xFB7]⟩, ⟨0xFA2, [0xFA1, 0xFB7]⟩, ⟨0xFA7, [0xFA6, 0xFB7]⟩,
  ⟨0xFAC, [0xFAB, 0xFB7]⟩, ⟨0xFB9, [0xF90, 0xFB5]⟩, ⟨0x1026, [0x1025, 0x102E]⟩,
  ⟨0x1B06, [0x1B05, 0x1B35]⟩, ⟨0x1B08, [0x1B07, 0x1B35]⟩, ⟨0x1B0A, [0x1B09, 0x1B35]⟩,
  ⟨0x1B0C, [0x1B0B, 0x1B35]⟩, ⟨0x1B0E, [0x1B0D, 0x1B35]⟩, ⟨0x1B12, [0x1B11, 0x1B35]⟩,
  ⟨0x1B3B, [0x1B3A, 0x1B35]⟩, ⟨0x1B3D, [0x1B3C, 0x1B35]⟩, ⟨0x1B40, [0x1B3E, 0x1B35]⟩,
  ⟨0x1B41, [0x1B3F, 0x1B35]⟩, ⟨0x1B43, [0x1B42, 0x1B35]⟩, ⟨0x1E00, [0x41, 0x325]⟩,
  ⟨0x1E01, [0x61, 0x325]⟩, ⟨0x1E02, [0x42, 0x307]⟩, ⟨0x1E03, [0x62, 0x307]⟩,
  ⟨0x1E04, [0x42, 0x323]⟩, ⟨0x1E05, [0x62, 0x323]⟩, ⟨0x1E06, [0x42, 0x331]⟩,
  ⟨0x1E07, [0x62, 0x331]⟩, ⟨0x1E08, [0x43, 0x327, 0x301]⟩, ⟨0x1E09, [0x63, 0x327, 0x301]⟩,
  ⟨0x1E0A, [0x44, 0x307]⟩, ⟨0x1E0B, [0x64, 0x307]⟩, ⟨0x1E0C, [0x44, 0x323]⟩,
  ⟨0x1E0D, [0x64, 0x323]⟩, ⟨0x1E0E, [0x44, 0x331]⟩, ⟨0x1E0F, [0x64, 0x331]⟩,
  ⟨0x1E10, [0x44, 0x327]⟩, ⟨0x1E11, [0x64, 0x327]⟩, ⟨0x1E12, [0x44, 0x32D]⟩,
  ⟨0x1E13, [0x64, 0x32D]⟩, ⟨0x1E14, [0x45, 0x304, 0x300]⟩, ⟨0x1E15, [0x65, 0x304, 0x300]⟩,
  ⟨0x1E16, [0x45, 0x304, 0x301]⟩, ⟨0x1E17, [0x65, 0x304, 0x301]⟩, ⟨0x1E18, [0x45, 0x32D]⟩,
  ⟨0x1E19, [0x65, 0x32D]⟩, ⟨0x1E1A, [0x45, 0x330]⟩, ⟨0x1E1B, [0x65, 0x330]⟩,
  ⟨0x1E1C, [0x45, 0x327, 0x306]⟩, ⟨0x1E1D, [0x65, 0x327, 0x306]⟩, ⟨0x1E1E, [0x46, 0x307]⟩,
  ⟨0x1E1F, [0x66, 0x307]⟩, ⟨0x1E20, [0x47, 0x304]⟩, ⟨0x1E21, [0x67, 0x304]⟩,
  ⟨0x1E22, [0x48, 0x307]⟩, ⟨0x1E23, [0x68, 0x307]⟩, ⟨0x1E24, [0x48, 0x323]⟩,
  ⟨0x1E25, [0x68, 0x323]⟩, ⟨0x1E26, [0x48, 0x308]⟩, ⟨0x1E27, [0x68, 0x308]⟩,
  ⟨0x1E28, [0x48, 0x327]⟩, ⟨0x1E29, [0x68, 0x327]⟩, ⟨0x1E2A, [0x48, 0x32E]⟩,
  ⟨0x1E2B, [0x68, 0x32E]⟩, ⟨0x1E2C, [0x49, 0x330]⟩, ⟨0x1E2D, [0x69, 0x330]⟩,
  ⟨0x1E2E, [0x49, 0x308, 0x301]⟩, ⟨0x1E2F, [0x69, 0x308, 0x301]⟩, ⟨0x1E30, [0x4B, 0x301]⟩,
  ⟨0x1E31, [0x6B, 0x301]⟩, ⟨0x1E32, [0x4B, 0x323]⟩, ⟨0x1E33, [0x6B, 0x323]⟩,
  ⟨0x1E34, [0x4B, 0x331]⟩, ⟨0x1E35, [0x6B, 0x331]⟩, ⟨0x1E36, [0x4C, 0x323]⟩,
  ⟨0x1E37, [0x6C, 0x323]⟩, ⟨0x1E38, [0x4C, 0x323, 0x304]⟩, ⟨0x1E39, [0x6C, 0x323, 0x304]⟩,
  ⟨0x1E3A, [0x4C, 0x331]⟩, ⟨0x1E3B, [0x6C, 0x331]⟩, ⟨0x1E3C, [0x4C, 0x32D]⟩,
  ⟨0x1E3D, [0x6C, 0x32D]⟩, ⟨0x1E3E, [0x4D, 0x301]⟩, ⟨0x1E3F, [0x6D, 0x301]⟩,
  ⟨0x1E40, [0x4D, 0x307]⟩, ⟨0x1E41, [0x6D, 0x307]⟩, ⟨0x1E42, [0x4D, 0x323]⟩,
  ⟨0x1E43, [0x6D, 0x323]⟩, ⟨0x1E44, [0x4E, 0x307]⟩, ⟨0x1E45, [0x6E, 0x307]⟩,
  ⟨0x1E46, [0x4E, 0x323]⟩, ⟨0x1E47, [0x6E, 0x323]⟩, ⟨0x1E48, [0x4E, 0x331]⟩,
  ⟨0x1E49, [0x6E, 0x331]⟩, ⟨0x1E4A, [0x4E, 0x32D]⟩, ⟨0x1E4B, [0x6E, 0x32D]⟩,
  ⟨0x1E4C, [0x4F, 0x303, 0x301]⟩, ⟨0x1E4D, [0x6F, 0x303, 0x301]⟩,
  ⟨0x1E4E, [0x4F, 0x303, 0x308]⟩, ⟨0x1E4F, [0x6F, 0x303, 0x308]⟩,
  ⟨0x1E50, [0x4F, 0x304, 0x300]⟩, ⟨0x1E51, [0x6F, 0x304, 0x300]⟩,
  ⟨0x1E52, [0x4F, 0x304, 0x301]⟩, ⟨0x1E53, [0x6F, 0x304, 0x301]⟩, ⟨0x1E54, [0x50, 0x301]⟩,
  ⟨0x1E55, [0x70, 0x301]⟩, ⟨0x1E56, [0x50, 0x307]⟩, ⟨0x1E57, [0x70, 0x307]⟩,
  ⟨0x1E58, [0x52, 0x307]⟩, ⟨0x1E59, [0x72, 0x307]⟩, ⟨0x1E5A, [0x52, 0x323]⟩,
  ⟨0x1E5B, [0x72, 0x323]⟩, ⟨0x1E5C, [0x52, 0x323, 0x304]⟩, ⟨0x1E5D, [0x72, 0x323, 0x304]⟩,
  ⟨0x1E5E, [0x52, 0x331]⟩, ⟨0x1E5F, [0x72, 0x331]⟩, ⟨0x1E60, [0x53, 0x307]⟩,
  ⟨0x1E61, [0x73, 0x307]⟩, ⟨0x1E62, [0x53, 0x323]⟩, ⟨0x1E63, [0x73, 0x323]⟩,
  ⟨0x1E64, [0x53, 0x301, 0x307]⟩, ⟨0x1E65, [0x73, 0x301, 0x307]⟩,
  ⟨0x1E66, [0x53, 0x30C, 0x307]⟩, ⟨0x1E67, [0x73, 0x30C, 0x307]⟩,
  ⟨0x1E68, [0x53, 0x323, 0x307]⟩, ⟨0x1E69, [0x73, 0x323, 0x307]⟩, ⟨0x1E6A, [0x54, 0x307]⟩,
  ⟨0x1E6B, [0x74, 0x307]⟩, ⟨0x1E6C, [0x54, 0x323]⟩, ⟨0x1E6D, [0x74, 0x323]⟩,
  ⟨0x1E6E, [0x54, 0x331]⟩, ⟨0x1E6F, [0x74, 0x331]⟩, ⟨0x1E70, [0x54, 0x32D]⟩,
  ⟨0x1E71, [0x74, 0x32D]⟩, ⟨0x1E72, [0x55, 0x324]⟩, ⟨0x1E73, [0x75, 0x324]⟩,
  ⟨0x1E74, [0x55, 0x330]⟩, ⟨0x1E75, [0x75, 0x330]⟩, ⟨0x1E76, [0x55, 0x32D]⟩,
  ⟨0x1E77, [0x75, 0x32D]⟩, ⟨0x1E78, [0x55, 0x303, 0x301]⟩, ⟨0x1E79, [0x75, 0x303, 0x301]⟩,
  ⟨0x1E7A, [0x55, 0x304, 0x308]⟩, ⟨0x1E7B, [0x75, 0x304, 0x308]⟩, ⟨0x1E7C, [0x56, 0x303]⟩,
  ⟨0x1E7D, [0x76, 0x303]⟩, ⟨0x1E7E, [0x56, 0x323]⟩, ⟨0x1E7F, [0x76, 0x323]⟩,
  ⟨0x1E80, [0x57, 0x300]⟩, ⟨0x1E81, [0x77, 0x300]⟩, ⟨0x1E82, [0x57, 0x301]⟩,
  ⟨0x1E83, [0x77, 0x301]⟩, ⟨0x1E84, [0x57, 0x308]⟩, ⟨0x1E85, [0x77, 0x308]⟩,
  ⟨0x1E86, [0x57, 0x307]⟩, ⟨0x1E87, [0x77, 0x307]⟩, ⟨0x1E88, [0x57, 0x323]⟩,
  ⟨0x1E89, [0x77, 0x323]⟩, ⟨0x1E8A, [0x58, 0x307]⟩, ⟨0x1E8B, [0x78, 0x307]⟩,
  ⟨0x1E8C, [0x58, 0x308]⟩, ⟨0x1E8D, [0x78, 0x308]⟩, ⟨0x1E8E, [0x59, 0x307]⟩,
  ⟨0x1E8F, [0x79, 0x307]⟩, ⟨0x1E90, [0x5A, 0x302]⟩, ⟨0x1E91, [0x7A, 0x302]⟩,
  ⟨0x1E92, [0x5A, 0x323]⟩, ⟨0x1E93, [0x7A, 0x323]⟩, ⟨0x1E94, [0x5A, 0x331]⟩,
  ⟨0x1E95, [0x7A, 0x331]⟩, ⟨0x1E96, [0x68, 0x331]⟩, ⟨0x1E97, [0x74, 0x308]⟩,
  ⟨0x1E98, [0x77, 0x30A]⟩, ⟨0x1E99, [0x79, 0x30A]⟩, ⟨0x1E9A, [0x61, 0x2BE]⟩,
  ⟨0x1E9B, [0x73, 0x307]⟩, ⟨0x1EA0, [0x41, 0x323]⟩, ⟨0x1EA1, [0x61, 0x323]⟩,
  ⟨0x1EA2, [0x41, 0x309]⟩, ⟨0x1EA3, [0x61, 0x309]⟩, ⟨0x1EA4, [0x41, 0x302, 0x301]⟩,
  ⟨0x1EA5, [0x61, 0x302, 0x301]⟩, ⟨0x1EA6, [0x41, 0x302, 0x300]⟩,
  ⟨0x1EA7, [0x61, 0x302, 0x300]⟩, ⟨0x1EA8, [0x41, 0x302, 0x309]⟩,
  ⟨0x1EA9, [0x61, 0x302, 0x309]⟩, ⟨0x1EAA, [0x41, 0x302, 0x303]⟩,
  ⟨0x1EAB, [0x61, 0x302, 0x303]⟩, ⟨0x1EAC, [0x41, 0x323, 0x302]⟩,
  ⟨0x1EAD, [0x61, 0x323, 0x302]⟩, ⟨0x1EAE, [0x41, 0x306, 0x301]⟩,
  ⟨0x1EAF, [0x61, 0x306, 0x301]⟩, ⟨0x1EB0, [0x41, 0x306, 0x300]⟩,
  ⟨0x1EB1, [0x61, 0x306, 0x300]⟩, ⟨0x1EB2, [0x41, 0x306, 0x309]⟩,
  ⟨0x1EB3, [0x61, 0x306, 0x309]⟩, ⟨0x1EB4, [0x41, 0x306, 0x303]⟩,
  ⟨0x1EB5, [0x61, 0x306, 0x303]⟩, ⟨0x1EB6, [0x41, 0x323, 0x306]⟩,
  ⟨0x1EB7, [0x61, 0x323, 0x306]⟩, ⟨0x1EB8, [0x45, 0x323]⟩, ⟨0x1EB9, [0x65, 0x323]⟩,
  ⟨0x1EBA, [0x45, 0x309]⟩, ⟨0x1EBB, [0x65, 0x309]⟩, ⟨0x1EBC, [0x45, 0x303]⟩,
  ⟨0x1EBD, [0x65, 0x303]⟩, ⟨0x1EBE, [0x45, 0x302, 0x301]⟩, ⟨0x1EBF, [0x65, 0x302, 0x301]⟩,
  ⟨0x1EC0, [0x45, 0x302, 0x300]⟩, ⟨0x1EC1, [0x65, 0x302, 0x300]⟩,
  ⟨0x1EC2, [0x45, 0x302, 0x309]⟩, ⟨0x1EC3, [0x65, 0x302, 0x309]⟩,
  ⟨0x1EC4, [0x45, 0x302, 0x303]⟩, ⟨0x1EC5, [0x65, 0x302, 0x303]⟩,
  ⟨0x1EC6, [0x45, 0x323, 0x302]⟩, ⟨0x1EC7, [0x65, 0x323, 0x302]⟩, ⟨0x1EC8, [0x49, 0x309]⟩,
  ⟨0x1EC9, [0x69, 0x309]⟩, ⟨0x1ECA, [0x49, 0x323]⟩, ⟨0x1ECB, [0x69, 0x323]⟩,
  ⟨0x1ECC, [0x4F, 0x323]⟩, ⟨0x1ECD, [0x6F, 0x323]⟩, ⟨0x1ECE, [0x4F, 0x309]⟩,
  ⟨0x1ECF, [0x6F, 0x309]⟩, ⟨0x1ED0, [0x4F, 0x302, 0x301]⟩, ⟨0x1ED1, [0x6F, 0x302, 0x301]⟩,
  ⟨0x1ED2, [0x4F, 0x302, 0x300]⟩, ⟨0x1ED3, [0x6F, 0x302, 0x300]⟩,
  ⟨0x1ED4, [0x4F, 0x302, 0x309]⟩, ⟨0x1ED5, [0x6F, 0x302, 0x309]⟩,
  ⟨0x1ED6, [0x4F, 0x302, 0x303]⟩, ⟨0x1ED7, [0x6F, 0x302, 0x303]⟩,
  ⟨0x1ED8, [0x4F, 0x323, 0x302]⟩, ⟨0x1ED9, [0x6F, 0x323, 0x302]⟩,
  ⟨0x1EDA, [0x4F, 0x31B, 0x301]⟩, ⟨0x1EDB, [0x6F, 0x31B, 0x301]⟩,
  ⟨0x1EDC, [0x4F, 0x31B, 0x300]⟩, ⟨0x1EDD, [0x6F, 0x31B, 0x300]⟩,
  ⟨0x1EDE, [0x4F, 0x31B, 0x309]⟩, ⟨0x1EDF, [0x6F, 0x31B, 0x309]⟩,
  ⟨0x1EE0, [0x4F, 0x31B, 0x303]⟩, ⟨0x1EE1, [0x6F, 0x31B, 0x303]⟩,
  ⟨0x1EE2, [0x4F, 0x31B, 0x323]⟩, ⟨0x1EE3, [0x6F, 0x31B, 0x323]⟩, ⟨0x1EE4, [0x55, 0x323]⟩,
  ⟨0x1EE5, [0x75, 0x323]⟩, ⟨0x1EE6, [0x55, 0x309]⟩, ⟨0x1EE7, [0x75, 0x309]⟩,
  ⟨0x1EE8, [0x55, 0x31B, 0x301]⟩, ⟨0x1EE9, [0x75, 0x31B, 0x301]⟩,
  ⟨0x1EEA, [0x55, 0x31B, 0x300]⟩, ⟨0x1EEB, [0x75, 0x31B, 0x300]⟩,
  ⟨0x1EEC, [0x55, 0x31B, 0x309]⟩, ⟨0x1EED, [0x75, 0x31B, 0x309]⟩,
  ⟨0x1EEE, [0x55, 0x31B, 0x303]⟩, ⟨0x1EEF, [0x75, 0x31B, 0x303]⟩,
  ⟨0x1EF0, [0x55, 0x31B, 0x323]⟩, ⟨0x1EF1, [0x75, 0x31B, 0x323]⟩, ⟨0x1EF2, [0x59, 0x300]⟩,
  ⟨0x1EF3, [0x79, 0x300]⟩, ⟨0x1EF4, [0x59, 0x323]⟩, ⟨0x1EF5, [0x79, 0x323]⟩,
  ⟨0x1EF6, [0x59, 0x309]⟩, ⟨0x1EF7, [0x79, 0x309]⟩, ⟨0x1EF8, [0x59, 0x303]⟩,
  ⟨0x1EF9, [0x79, 0x303]⟩, ⟨0x1F00, [0x3B1, 0x313]⟩, ⟨0x1F01, [0x3B1, 0x314]⟩,
  ⟨0x1F02, [0x3B1, 0x313, 0x300]⟩, ⟨0x1F03, [0x3B1, 0x314, 0x300]⟩,
  ⟨0x1F04, [0x3B1, 0x313, 0x301]⟩, ⟨0x1F05, [0x3B1, 0x314, 0x301]⟩,
  ⟨0x1F06, [0x3B1, 0x313, 0x342]⟩, ⟨0x1F07, [0x3B1, 0x314, 0x342]⟩, ⟨0x1F08, [0x391, 0x313]⟩,
  ⟨0x1F09, [0x391, 0x314]⟩, ⟨0x1F0A, [0x391, 0x313, 0x300]⟩, ⟨0x1F0B, [0x391, 0x314, 0x300]⟩,
  ⟨0x1F0C, [0x391, 0x313, 0x301]⟩, ⟨0x1F0D, [0x391, 0x314, 0x301]⟩,
  ⟨0x1F0E, [0x391, 0x313, 0x342]⟩, ⟨0x1F0F, [0x391, 0x314, 0x342]⟩, ⟨0x1F10, [0x3B5, 0x313]⟩,
  ⟨0x1F11, [0x3B5, 0x314]⟩, ⟨0x1F12, [0x3B5, 0x313, 0x300]⟩, ⟨0x1F13, [0x3B5, 0x314, 0x300]⟩,
  ⟨0x1F14, [0x3B5, 0x313, 0x301]⟩, ⟨0x1F15, [0x3B5, 0x314, 0x301]⟩, ⟨0x1F18, [0x395, 0x313]⟩,
  ⟨0x1F19, [0x395, 0x314]⟩, ⟨0x1F1A, [0x395, 0x313, 0x300]⟩, ⟨0x1F1B, [0x395, 0x314, 0x300]⟩,
  ⟨0x1F1C, [0x395, 0x313, 0x301]⟩, ⟨0x1F1D, [0x395, 0x314, 0x301]⟩, ⟨0x1F20, [0x3B7, 0x313]⟩,
  ⟨0x1F21, [0x3B7, 0x314]⟩, ⟨0x1F22, [0x3B7, 0x313, 0x300]⟩, ⟨0x1F23, [0x3B7, 0x314, 0x300]⟩,
  ⟨0x1F24, [0x3B7, 0x313, 0x301]⟩, ⟨0x1F25, [0x3B7, 0x314, 0x301]⟩,
  ⟨0x1F26, [0x3B7, 0x313, 0x342]⟩, ⟨0x1F27, [0x3B7, 0x314, 0x342]⟩, ⟨0x1F28, [0x397, 0x313]⟩,
  ⟨0x1F29, [0x397, 0x314]⟩, ⟨0x1F2A, [0x397, 0x313, 0x300]⟩, ⟨0x1F2B, [0x397, 0x314, 0x300]⟩,
  ⟨0x1F2C, [0x397, 0x313, 0x301]⟩, ⟨0x1F2D, [0x397, 0x314, 0x301]⟩,
  ⟨0x1F2E, [0x397, 0x313, 0x342]⟩, ⟨0x1F2F, [0x397, 0x314, 0x342]⟩, ⟨0x1F30, [0x3B9, 0x313]⟩,
  ⟨0x1F31, [0x3B9, 0x314]⟩, ⟨0x1F32, [0x3B9, 0x313, 0x300]⟩, ⟨0x1F33, [0x3B9, 0x314, 0x300]⟩,
  ⟨0x1F34, [0x3B9, 0x313, 0x301]⟩, ⟨0x1F35, [0x3B9, 0x314, 0x301]⟩,
  ⟨0x1F36, [0x3B9, 0x313, 0x342]⟩, ⟨0x1F37, [0x3B9, 0x314, 0x342]⟩, ⟨0x1F38, [0x399, 0x313]⟩,
  ⟨0x1F39, [0x399, 0x314]⟩, ⟨0x1F3A, [0x399, 0x313, 0x300]⟩, ⟨0x1F3B, [0x399, 0x314, 0x300]⟩,
  ⟨0x1F3C, [0x399, 0x313, 0x301]⟩, ⟨0x1F3D, [0x399, 0x314, 0x301]⟩,
  ⟨0x1F3E, [0x399, 0x313, 0x342]⟩, ⟨0x1F3F, [0x399, 0x314, 0x342]⟩, ⟨0x1F40, [0x3BF, 0x313]⟩,
  ⟨0x1F41, [0x3BF, 0x314]⟩, ⟨0x1F42, [0x3BF, 0x313, 0x300]⟩, ⟨0x1F43, [0x3BF, 0x314, 0x300]⟩,
  ⟨0x1F44, [0x3BF, 0x313, 0x301]⟩, ⟨0x1F45, [0x3BF, 0x314, 0x301]⟩, ⟨0x1F48, [0x39F, 0x313]⟩,
  ⟨0x1F49, [0x39F, 0x314]⟩, ⟨0x1F4A, [0x39F, 0x313, 0x300]⟩, ⟨0x1F4B, [0x39F, 0x314, 0x300]⟩,
  ⟨0x1F4C, [0x39F, 0x313, 0x301]⟩, ⟨0x1F4D, [0x39F, 0x314, 0x301]⟩, ⟨0x1F50, [0x3C5, 0x313]⟩,
  ⟨0x1F51, [0x3C5, 0x314]⟩, ⟨0x1F52, [0x3C5, 0x313, 0x300]⟩, ⟨0x1F53, [0x3C5, 0x314, 0x300]⟩,
  ⟨0x1F54, [0x3C5, 0x313, 0x301]⟩, ⟨0x1F55, [0x3C5, 0x314, 0x301]⟩,
  ⟨0x1F56, [0x3C5, 0x313, 0x342]⟩, ⟨0x1F57, [0x3C5, 0x314, 0x342]⟩, ⟨0x1F59, [0x3A5, 0x314]⟩,
  ⟨0x1F5B, [0x3A5, 0x314, 0x300]⟩, ⟨0x1F5D, [0x3A5, 0x314, 0x301]⟩,
  ⟨0x1F5F, [0x3A5, 0x314, 0x342]⟩, ⟨0x1F60, [0x3C9, 0x313]⟩, ⟨0x1F61, [0x3C9, 0x314]⟩,
  ⟨0x1F62, [0x3C9, 0x313, 0x300]⟩, ⟨0x1F63, [0x3C9, 0x314, 0x300]⟩,
  ⟨0x1F64, [0x3C9, 0x313, 0x301]⟩, ⟨0x1F65, [0x3C9, 0x314, 0x301]⟩,
  ⟨0x1F66, [0x3C9, 0x313, 0x342]⟩, ⟨0x1F67, [0x3C9, 0x314, 0x342]⟩, ⟨0x1F68, [0x3A9, 0x313]⟩,
  ⟨0x1F69, [0x3A9, 0x314]⟩, ⟨0x1F6A, [0x3A9, 0x313, 0x300]⟩, ⟨0x1F6B, [0x3A9, 0x314, 0x300]⟩,
  ⟨0x1F6C, [0x3A9, 0x313, 0x301]⟩, ⟨0x1F6D, [0x3A9, 0x314, 0x301]⟩,
  ⟨0x1F6E, [0x3A9, 0x313, 0x342]⟩, ⟨0x1F6F, [0x3A9, 0x314, 0x342]⟩, ⟨0x1F70, [0x3B1, 0x300]⟩,
  ⟨0x1F71, [0x3B1, 0x301]⟩]

private def expansionsB : List Expansion := [
  ⟨0x1F72, [0x3B5, 0x300]⟩, ⟨0x1F73, [0x3B5, 0x301]⟩, ⟨0x1F74, [0x3B7, 0x300]⟩,
  ⟨0x1F75, [0x3B7, 0x301]⟩, ⟨0x1F76, [0x3B9, 0x300]⟩, ⟨0x1F77, [0x3B9, 0x301]⟩,
  ⟨0x1F78, [0x3BF, 0x300]⟩, ⟨0x1F79, [0x3BF, 0x301]⟩, ⟨0x1F7A, [0x3C5, 0x300]⟩,
  ⟨0x1F7B, [0x3C5, 0x301]⟩, ⟨0x1F7C, [0x3C9, 0x300]⟩, ⟨0x1F7D, [0x3C9, 0x301]⟩,
  ⟨0x1F80, [0x3B1, 0x313, 0x345]⟩, ⟨0x1F81, [0x3B1, 0x314, 0x345]⟩,
  ⟨0x1F82, [0x3B1, 0x313, 0x300, 0x345]⟩, ⟨0x1F83, [0x3B1, 0x314, 0x300, 0x345]⟩,
  ⟨0x1F84, [0x3B1, 0x313, 0x301, 0x345]⟩, ⟨0x1F85, [0x3B1, 0x314, 0x301, 0x345]⟩,
  ⟨0x1F86, [0x3B1, 0x313, 0x342, 0x345]⟩, ⟨0x1F87, [0x3B1, 0x314, 0x342, 0x345]⟩,
  ⟨0x1F88, [0x391, 0x313, 0x345]⟩, ⟨0x1F89, [0x391, 0x314, 0x345]⟩,
  ⟨0x1F8A, [0x391, 0x313, 0x300, 0x345]⟩, ⟨0x1F8B, [0x391, 0x314, 0x300, 0x345]⟩,
  ⟨0x1F8C, [0x391, 0x313, 0x301, 0x345]⟩, ⟨0x1F8D, [0x391, 0x314, 0x301, 0x345]⟩,
  ⟨0x1F8E, [0x391, 0x313, 0x342, 0x345]⟩, ⟨0x1F8F, [0x391, 0x314, 0x342, 0x345]⟩,
  ⟨0x1F90, [0x3B7, 0x313, 0x345]⟩, ⟨0x1F91, [0x3B7, 0x314, 0x345]⟩,
  ⟨0x1F92, [0x3B7, 0x313, 0x300, 0x345]⟩, ⟨0x1F93, [0x3B7, 0x314, 0x300, 0x345]⟩,
  ⟨0x1F94, [0x3B7, 0x313, 0x301, 0x345]⟩, ⟨0x1F95, [0x3B7, 0x314, 0x301, 0x345]⟩,
  ⟨0x1F96, [0x3B7, 0x313, 0x342, 0x345]⟩, ⟨0x1F97, [0x3B7, 0x314, 0x342, 0x345]⟩,
  ⟨0x1F98, [0x397, 0x313, 0x345]⟩, ⟨0x1F99, [0x397, 0x314, 0x345]⟩,
  ⟨0x1F9A, [0x397, 0x313, 0x300, 0x345]⟩, ⟨0x1F9B, [0x397, 0x314, 0x300, 0x345]⟩,
  ⟨0x1F9C, [0x397, 0x313, 0x301, 0x345]⟩, ⟨0x1F9D, [0x397, 0x314, 0x301, 0x345]⟩,
  ⟨0x1F9E, [0x397, 0x313, 0x342, 0x345]⟩, ⟨0x1F9F, [0x397, 0x314, 0x342, 0x345]⟩,
  ⟨0x1FA0, [0x3C9, 0x313, 0x345]⟩, ⟨0x1FA1, [0x3C9, 0x314, 0x345]⟩,
  ⟨0x1FA2, [0x3C9, 0x313, 0x300, 0x345]⟩, ⟨0x1FA3, [0x3C9, 0x314, 0x300, 0x345]⟩,
  ⟨0x1FA4, [0x3C9, 0x313, 0x301, 0x345]⟩, ⟨0x1FA5, [0x3C9, 0x314, 0x301, 0x345]⟩,
  ⟨0x1FA6, [0x3C9, 0x313, 0x342, 0x345]⟩, ⟨0x1FA7, [0x3C9, 0x314, 0x342, 0x345]⟩,
  ⟨0x1FA8, [0x3A9, 0x313, 0x345]⟩, ⟨0x1FA9, [0x3A9, 0x314, 0x345]⟩,
  ⟨0x1FAA, [0x3A9, 0x313, 0x300, 0x345]⟩, ⟨0x1FAB, [0x3A9, 0x314, 0x300, 0x345]⟩,
  ⟨0x1FAC, [0x3A9, 0x313, 0x301, 0x345]⟩, ⟨0x1FAD, [0x3A9, 0x314, 0x301, 0x345]⟩,
  ⟨0x1FAE, [0x3A9, 0x313, 0x342, 0x345]⟩, ⟨0x1FAF, [0x3A9, 0x314, 0x342, 0x345]⟩,
  ⟨0x1FB0, [0x3B1, 0x306]⟩, ⟨0x1FB1, [0x3B1, 0x304]⟩, ⟨0x1FB2, [0x3B1, 0x300, 0x345]⟩,
  ⟨0x1FB3, [0x3B1, 0x345]⟩, ⟨0x1FB4, [0x3B1, 0x301, 0x345]⟩, ⟨0x1FB6, [0x3B1, 0x342]⟩,
  ⟨0x1FB7, [0x3B1, 0x342, 0x345]⟩, ⟨0x1FB8, [0x391, 0x306]⟩, ⟨0x1FB9, [0x391, 0x304]⟩,
  ⟨0x1FBA, [0x391, 0x300]⟩, ⟨0x1FBB, [0x391, 0x301]⟩, ⟨0x1FBC, [0x391, 0x345]⟩,
  ⟨0x1FBD, [0x20, 0x313]⟩, ⟨0x1FBF, [0x20, 0x313]⟩, ⟨0x1FC0, [0x20, 0x342]⟩,
  ⟨0x1FC1, [0x20, 0x308, 0x342]⟩, ⟨0x1FC2, [0x3B7, 0x300, 0x345]⟩, ⟨0x1FC3, [0x3B7, 0x345]⟩,
  ⟨0x1FC4, [0x3B7, 0x301, 0x345]⟩, ⟨0x1FC6, [0x3B7, 0x342]⟩, ⟨0x1FC7, [0x3B7, 0x342, 0x345]⟩,
  ⟨0x1FC8, [0x395, 0x300]⟩, ⟨0x1FC9, [0x395, 0x301]⟩, ⟨0x1FCA, [0x397, 0x300]⟩,
  ⟨0x1FCB, [0x397, 0x301]⟩, ⟨0x1FCC, [0x397, 0x345]⟩, ⟨0x1FCD, [0x20, 0x313, 0x300]⟩,
  ⟨0x1FCE, [0x20, 0x313, 0x301]⟩, ⟨0x1FCF, [0x20, 0x313, 0x342]⟩, ⟨0x1FD0, [0x3B9, 0x306]⟩,
  ⟨0x1FD1, [0x3B9, 0x304]⟩, ⟨0x1FD2, [0x3B9, 0x308, 0x300]⟩, ⟨0x1FD3, [0x3B9, 0x308, 0x301]⟩,
  ⟨0x1FD6, [0x3B9, 0x342]⟩, ⟨0x1FD7, [0x3B9, 0x308, 0x342]⟩, ⟨0x1FD8, [0x399, 0x306]⟩,
  ⟨0x1FD9, [0x399, 0x304]⟩, ⟨0x1FDA, [0x399, 0x300]⟩, ⟨0x1FDB, [0x399, 0x301]⟩,
  ⟨0x1FDD, [0x20, 0x314, 0x300]⟩, ⟨0x1FDE, [0x20, 0x314, 0x301]⟩,
  ⟨0x1FDF, [0x20, 0x314, 0x342]⟩, ⟨0x1FE0, [0x3C5, 0x306]⟩, ⟨0x1FE1, [0x3C5, 0x304]⟩,
  ⟨0x1FE2, [0x3C5, 0x308, 0x300]⟩, ⟨0x1FE3, [0x3C5, 0x308, 0x301]⟩, ⟨0x1FE4, [0x3C1, 0x313]⟩,
  ⟨0x1FE5, [0x3C1, 0x314]⟩, ⟨0x1FE6, [0x3C5, 0x342]⟩, ⟨0x1FE7, [0x3C5, 0x308, 0x342]⟩,
  ⟨0x1FE8, [0x3A5, 0x306]⟩, ⟨0x1FE9, [0x3A5, 0x304]⟩, ⟨0x1FEA, [0x3A5, 0x300]⟩,
  ⟨0x1FEB, [0x3A5, 0x301]⟩, ⟨0x1FEC, [0x3A1, 0x314]⟩, ⟨0x1FED, [0x20, 0x308, 0x300]⟩,
  ⟨0x1FEE, [0x20, 0x308, 0x301]⟩, ⟨0x1FF2, [0x3C9, 0x300, 0x345]⟩, ⟨0x1FF3, [0x3C9, 0x345]⟩,
  ⟨0x1FF4, [0x3C9, 0x301, 0x345]⟩, ⟨0x1FF6, [0x3C9, 0x342]⟩, ⟨0x1FF7, [0x3C9, 0x342, 0x345]⟩,
  ⟨0x1FF8, [0x39F, 0x300]⟩, ⟨0x1FF9, [0x39F, 0x301]⟩, ⟨0x1FFA, [0x3A9, 0x300]⟩,
  ⟨0x1FFB, [0x3A9, 0x301]⟩, ⟨0x1FFC, [0x3A9, 0x345]⟩, ⟨0x1FFD, [0x20, 0x301]⟩,
  ⟨0x1FFE, [0x20, 0x314]⟩, ⟨0x2017, [0x20, 0x333]⟩, ⟨0x2025, [0x2E, 0x2E]⟩,
  ⟨0x2026, [0x2E, 0x2E, 0x2E]⟩, ⟨0x2033, [0x2032, 0x2032]⟩, ⟨0x2034, [0x2032, 0x2032, 0x2032]⟩,
  ⟨0x2036, [0x2035, 0x2035]⟩, ⟨0x2037, [0x2035, 0x2035, 0x2035]⟩, ⟨0x203C, [0x21, 0x21]⟩,
  ⟨0x203E, [0x20, 0x305]⟩, ⟨0x2047, [0x3F, 0x3F]⟩, ⟨0x2048, [0x3F, 0x21]⟩,
  ⟨0x2049, [0x21, 0x3F]⟩, ⟨0x2057, [0x2032, 0x2032, 0x2032, 0x2032]⟩, ⟨0x20A8, [0x52, 0x73]⟩,
  ⟨0x2100, [0x61, 0x2F, 0x63]⟩, ⟨0x2101, [0x61, 0x2F, 0x73]⟩, ⟨0x2103, [0xB0, 0x43]⟩,
  ⟨0x2105, [0x63, 0x2F, 0x6F]⟩, ⟨0x2106, [0x63, 0x2F, 0x75]⟩, ⟨0x2109, [0xB0, 0x46]⟩,
  ⟨0x2116, [0x4E, 0x6F]⟩, ⟨0x2120, [0x53, 0x4D]⟩, ⟨0x2121, [0x54, 0x45, 0x4C]⟩,
  ⟨0x2122, [0x54, 0x4D]⟩, ⟨0x212B, [0x41, 0x30A]⟩, ⟨0x213B, [0x46, 0x41, 0x58]⟩,
  ⟨0x2150, [0x31, 0x2044, 0x37]⟩, ⟨0x2151, [0x31, 0x2044, 0x39]⟩,
  ⟨0x2152, [0x31, 0x2044, 0x31, 0x30]⟩, ⟨0x2153, [0x31, 0x2044, 0x33]⟩,
  ⟨0x2154, [0x32, 0x2044, 0x33]⟩, ⟨0x2155, [0x31, 0x2044, 0x35]⟩,
  ⟨0x2156, [0x32, 0x2044, 0x35]⟩, ⟨0x2157, [0x33, 0x2044, 0x35]⟩,
  ⟨0x2158, [0x34, 0x2044, 0x35]⟩, ⟨0x2159, [0x31, 0x2044, 0x36]⟩,
  ⟨0x215A, [0x35, 0x2044, 0x36]⟩, ⟨0x215B, [0x31, 0x2044, 0x38]⟩,
  ⟨0x215C, [0x33, 0x2044, 0x38]⟩, ⟨0x215D, [0x35, 0x2044, 0x38]⟩,
  ⟨0x215E, [0x37, 0x2044, 0x38]⟩, ⟨0x215F, [0x31, 0x2044]⟩, ⟨0x2161, [0x49, 0x49]⟩,
  ⟨0x2162, [0x49, 0x49, 0x49]⟩, ⟨0x2163, [0x49, 0x56]⟩, ⟨0x2165, [0x56, 0x49]⟩,
  ⟨0x2166, [0x56, 0x49, 0x49]⟩, ⟨0x2167, [0x56, 0x49, 0x49, 0x49]⟩, ⟨0x2168, [0x49, 0x58]⟩,
  ⟨0x216A, [0x58, 0x49]⟩, ⟨0x216B, [0x58, 0x49, 0x49]⟩, ⟨0x2171, [0x69, 0x69]⟩,
  ⟨0x2172, [0x69, 0x69, 0x69]⟩, ⟨0x2173, [0x69, 0x76]⟩, ⟨0x2175, [0x76, 0x69]⟩,
  ⟨0x2176, [0x76, 0x69, 0x69]⟩, ⟨0x2177, [0x76, 0x69, 0x69, 0x69]⟩, ⟨0x2178, [0x69, 0x78]⟩,
  ⟨0x217A, [0x78, 0x69]⟩, ⟨0x217B, [0x78, 0x69, 0x69]⟩, ⟨0x2189, [0x30, 0x2044, 0x33]⟩,
  ⟨0x219A, [0x2190, 0x338]⟩, ⟨0x219B, [0x2192, 0x338]⟩, ⟨0x21AE, [0x2194, 0x338]⟩,
  ⟨0x21CD, [0x21D0, 0x338]⟩, ⟨0x21CE, [0x21D4, 0x338]⟩, ⟨0x21CF, [0x21D2, 0x338]⟩,
  ⟨0x2204, [0x2203, 0x338]⟩, ⟨0x2209, [0x2208, 0x338]⟩, ⟨0x220C, [0x220B, 0x338]⟩,
  ⟨0x2224, [0x2223, 0x338]⟩, ⟨0x2226, [0x2225, 0x338]⟩, ⟨0x222C, [0x222B, 0x222B]⟩,
  ⟨0x222D, [0x222B, 0x222B, 0x222B]⟩, ⟨0x222F, [0x222E, 0x222E]⟩,
  ⟨0x2230, [0x222E, 0x222E, 0x222E]⟩, ⟨0x2241, [0x223C, 0x338]⟩, ⟨0x2244, [0x2243, 0x338]⟩,
  ⟨0x2247, [0x2245, 0x338]⟩, ⟨0x2249, [0x2248, 0x338]⟩, ⟨0x2260, [0x3D, 0x338]⟩,
  ⟨0x2262, [0x2261, 0x338]⟩, ⟨0x226D, [0x224D, 0x338]⟩, ⟨0x226E, [0x3C, 0x338]⟩,
  ⟨0x226F, [0x3E, 0x338]⟩, ⟨0x2270, [0x2264, 0x338]⟩, ⟨0x2271, [0x2265, 0x338]⟩,
  ⟨0x2274, [0x2272, 0x338]⟩, ⟨0x2275, [0x2273, 0x338]⟩, ⟨0x2278, [0x2276, 0x338]⟩,
  ⟨0x2279, [0x2277, 0x338]⟩, ⟨0x2280, [0x227A, 0x338]⟩, ⟨0x2281, [0x227B, 0x338]⟩,
  ⟨0x2284, [0x2282, 0x338]⟩, ⟨0x2285, [0x2283, 0x338]⟩, ⟨0x2288, [0x2286, 0x338]⟩,
  ⟨0x2289, [0x2287, 0x338]⟩, ⟨0x22AC, [0x22A2, 0x338]⟩, ⟨0x22AD, [0x22A8, 0x338]⟩,
  ⟨0x22AE, [0x22A9, 0x338]⟩, ⟨0x22AF, [0x22AB, 0x338]⟩, ⟨0x22E0, [0x227C, 0x338]⟩,
  ⟨0x22E1, [0x227D, 0x338]⟩, ⟨0x22E2, [0x2291, 0x338]⟩, ⟨0x22E3, [0x2292, 0x338]⟩,
  ⟨0x22EA, [0x22B2, 0x338]⟩, ⟨0x22EB, [0x22B3, 0x338]⟩, ⟨0x22EC, [0x22B4, 0x338]⟩,
  ⟨0x22ED, [0x22B5, 0x338]⟩, ⟨0x2469, [0x31, 0x30]⟩, ⟨0x246A, [0x31, 0x31]⟩,
  ⟨0x246B, [0x31, 0x32]⟩, ⟨0x246C, [0x31, 0x33]⟩, ⟨0x246D, [0x31, 0x34]⟩,
  ⟨0x246E, [0x31, 0x35]⟩, ⟨0x246F, [0x31, 0x36]⟩, ⟨0x2470, [0x31, 0x37]⟩,
  ⟨0x2471, [0x31, 0x38]⟩, ⟨0x2472, [0x31, 0x39]⟩, ⟨0x2473, [0x32, 0x30]⟩,
  ⟨0x2474, [0x28, 0x31, 0x29]⟩, ⟨0x2475, [0x28, 0x32, 0x29]⟩, ⟨0x2476, [0x28, 0x33, 0x29]⟩,
  ⟨0x2477, [0x28, 0x34, 0x29]⟩, ⟨0x2478, [0x28, 0x35, 0x29]⟩, ⟨0x2479, [0x28, 0x36, 0x29]⟩,
  ⟨0x247A, [0x28, 0x37, 0x29]⟩, ⟨0x247B, [0x28, 0x38, 0x29]⟩, ⟨0x247C, [0x28, 0x39, 0x29]⟩,
  ⟨0x247D, [0x28, 0x31, 0x30, 0x29]⟩, ⟨0x247E, [0x28, 0x31, 0x31, 0x29]⟩,
  ⟨0x247F, [0x28, 0x31, 0x32, 0x29]⟩, ⟨0x2480, [0x28, 0x31, 0x33, 0x29]⟩,
  ⟨0x2481, [0x28, 0x31, 0x34, 0x29]⟩, ⟨0x2482, [0x28, 0x31, 0x35, 0x29]⟩,
  ⟨0x2483, [0x28, 0x31, 0x36, 0x29]⟩, ⟨0x2484, [0x28, 0x31, 0x37, 0x29]⟩,
  ⟨0x2485, [0x28, 0x31, 0x38, 0x29]⟩, ⟨0x2486, [0x28, 0x31, 0x39, 0x29]⟩,
  ⟨0x2487, [0x28, 0x32, 0x30, 0x29]⟩, ⟨0x2488, [0x31, 0x2E]⟩, ⟨0x2489, [0x32, 0x2E]⟩,
  ⟨0x248A, [0x33, 0x2E]⟩, ⟨0x248B, [0x34, 0x2E]⟩, ⟨0x248C, [0x35, 0x2E]⟩,
  ⟨0x248D, [0x36, 0x2E]⟩, ⟨0x248E, [0x37, 0x2E]⟩, ⟨0x248F, [0x38, 0x2E]⟩,
  ⟨0x2490, [0x39, 0x2E]⟩, ⟨0x2491, [0x31, 0x30, 0x2E]⟩, ⟨0x2492, [0x31, 0x31, 0x2E]⟩,
  ⟨0x2493, [0x31, 0x32, 0x2E]⟩, ⟨0x2494, [0x31, 0x33, 0x2E]⟩, ⟨0x2495, [0x31, 0x34, 0x2E]⟩,
  ⟨0x2496, [0x31, 0x35, 0x2E]⟩, ⟨0x2497, [0x31, 0x36, 0x2E]⟩, ⟨0x2498, [0x31, 0x37, 0x2E]⟩,
  ⟨0x2499, [0x31, 0x38, 0x2E]⟩, ⟨0x249A, [0x31, 0x39, 0x2E]⟩, ⟨0x249B, [0x32, 0x30, 0x2E]⟩,
  ⟨0x249C, [0x28, 0x61, 0x29]⟩, ⟨0x249D, [0x28, 0x62, 0x29]⟩, ⟨0x249E, [0x28, 0x63, 0x29]⟩,
  ⟨0x249F, [0x28, 0x64, 0x29]⟩, ⟨0x24A0, [0x28, 0x65, 0x29]⟩, ⟨0x24A1, [0x28, 0x66, 0x29]⟩,
  ⟨0x24A2, [0x28, 0x67, 0x29]⟩, ⟨0x24A3, [0x28, 0x68, 0x29]⟩, ⟨0x24A4, [0x28, 0x69, 0x29]⟩,
  ⟨0x24A5, [0x28, 0x6A, 0x29]⟩, ⟨0x24A6, [0x28, 0x6B, 0x29]⟩, ⟨0x24A7, [0x28, 0x6C, 0x29]⟩,
  ⟨0x24A8, [0x28, 0x6D, 0x29]⟩, ⟨0x24A9, [0x28, 0x6E, 0x29]⟩, ⟨0x24AA, [0x28, 0x6F, 0x29]⟩,
  ⟨0x24AB, [0x28, 0x70, 0x29]⟩, ⟨0x24AC, [0x28, 0x71, 0x29]⟩, ⟨0x24AD, [0x28, 0x72, 0x29]⟩,
  ⟨0x24AE, [0x28, 0x73, 0x29]⟩, ⟨0x24AF, [0x28, 0x74, 0x29]⟩, ⟨0x24B0, [0x28, 0x75, 0x29]⟩,
  ⟨0x24B1, [0x28, 0x76, 0x29]⟩, ⟨0x24B2, [0x28, 0x77, 0x29]⟩, ⟨0x24B3, [0x28, 0x78, 0x29]⟩,
  ⟨0x24B4, [0x28, 0x79, 0x29]⟩, ⟨0x24B5, [0x28, 0x7A, 0x29]⟩,
  ⟨0x2A0C, [0x222B, 0x222B, 0x222B, 0x222B]⟩, ⟨0x2A74, [0x3A, 0x3A, 0x3D]⟩,
  ⟨0x2A75, [0x3D, 0x3D]⟩, ⟨0x2A76, [0x3D, 0x3D, 0x3D]⟩, ⟨0x2ADC, [0x2ADD, 0x338]⟩,
  ⟨0x304C, [0x304B, 0x3099]⟩, ⟨0x304E, [0x304D, 0x3099]⟩, ⟨0x3050, [0x304F, 0x3099]⟩,
  ⟨0x3052, [0x3051, 0x3099]⟩, ⟨0x3054, [0x3053, 0x3099]⟩, ⟨0x3056, [0x3055, 0x3099]⟩,
  ⟨0x3058, [0x3057, 0x3099]⟩, ⟨0x305A, [0x3059, 0x3099]⟩, ⟨0x305C, [0x305B, 0x3099]⟩,
  ⟨0x305E, [0x305D, 0x3099]⟩, ⟨0x3060, [0x305F, 0x3099]⟩, ⟨0x3062, [0x3061, 0x3099]⟩,
  ⟨0x3065, [0x3064, 0x3099]⟩, ⟨0x3067, [0x3066, 0x3099]⟩, ⟨0x3069, [0x3068, 0x3099]⟩,
  ⟨0x3070, [0x306F, 0x3099]⟩, ⟨0x3071, [0x306F, 0x309A]⟩, ⟨0x3073, [0x3072, 0x3099]⟩,
  ⟨0x3074, [0x3072, 0x309A]⟩, ⟨0x3076, [0x3075, 0x3099]⟩, ⟨0x3077, [0x3075, 0x309A]⟩,
  ⟨0x3079, [0x3078, 0x3099]⟩, ⟨0x307A, [0x3078, 0x309A]⟩, ⟨0x307C, [0x307B, 0x3099]⟩,
  ⟨0x307D, [0x307B, 0x309A]⟩, ⟨0x3094, [0x3046, 0x3099]⟩, ⟨0x309B, [0x20, 0x3099]⟩,
  ⟨0x309C, [0x20, 0x309A]⟩, ⟨0x309E, [0x309D, 0x3099]⟩, ⟨0x309F, [0x3088, 0x308A]⟩,
  ⟨0x30AC, [0x30AB, 0x3099]⟩, ⟨0x30AE, [0x30AD, 0x3099]⟩, ⟨0x30B0, [0x30AF, 0x3099]⟩,
  ⟨0x30B2, [0x30B1, 0x3099]⟩, ⟨0x30B4, [0x30B3, 0x3099]⟩, ⟨0x30B6, [0x30B5, 0x3099]⟩,
  ⟨0x30B8, [0x30B7, 0x3099]⟩, ⟨0x30BA, [0x30B9, 0x3099]⟩, ⟨0x30BC, [0x30BB, 0x3099]⟩,
  ⟨0x30BE, [0x30BD, 0x3099]⟩, ⟨0x30C0, [0x30BF, 0x3099]⟩, ⟨0x30C2, [0x30C1, 0x3099]⟩,
  ⟨0x30C5, [0x30C4, 0x3099]⟩, ⟨0x30C7, [0x30C6, 0x3099]⟩, ⟨0x30C9, [0x30C8, 0x3099]⟩,
  ⟨0x30D0, [0x30CF, 0x3099]⟩, ⟨0x30D1, [0x30CF, 0x309A]⟩, ⟨0x30D3, [0x30D2, 0x3099]⟩,
  ⟨0x30D4, [0x30D2, 0x309A]⟩, ⟨0x30D6, [0x30D5, 0x3099]⟩, ⟨0x30D7, [0x30D5, 0x309A]⟩,
  ⟨0x30D9, [0x30D8, 0x3099]⟩, ⟨0x30DA, [0x30D8, 0x309A]⟩, ⟨0x30DC, [0x30DB, 0x3099]⟩,
  ⟨0x30DD, [0x30DB, 0x309A]⟩, ⟨0x30F4, [0x30A6, 0x3099]⟩, ⟨0x30F7, [0x30EF, 0x3099]⟩,
  ⟨0x30F8, [0x30F0, 0x3099]⟩, ⟨0x30F9, [0x30F1, 0x3099]⟩, ⟨0x30FA, [0x30F2, 0x3099]⟩,
  ⟨0x30FE, [0x30FD, 0x3099]⟩, ⟨0x30FF, [0x30B3, 0x30C8]⟩, ⟨0x3200, [0x28, 0x1100, 0x29]⟩,
  ⟨0x3201, [0x28, 0x1102, 0x29]⟩, ⟨0x3202, [0x28, 0x1103, 0x29]⟩,
  ⟨0x3203, [0x28, 0x1105, 0x29]⟩, ⟨0x3204, [0x28, 0x1106, 0x29]⟩,
  ⟨0x3205, [0x28, 0x1107, 0x29]⟩, ⟨0x3206, [0x28, 0x1109, 0x29]⟩,
  ⟨0x3207, [0x28, 0x110B, 0x29]⟩, ⟨0x3208, [0x28, 0x110C, 0x29]⟩,
  ⟨0x3209, [0x28, 0x110E, 0x29]⟩, ⟨0x320A, [0x28, 0x110F, 0x29]⟩,
  ⟨0x320B, [0x28, 0x1110, 0x29]⟩, ⟨0x320C, [0x28, 0x1111, 0x29]⟩,
  ⟨0x320D, [0x28, 0x1112, 0x29]⟩, ⟨0x320E, [0x28, 0x1100, 0x1161, 0x29]⟩,
  ⟨0x320F, [0x28, 0x1102, 0x1161, 0x29]⟩, ⟨0x3210, [0x28, 0x1103, 0x1161, 0x29]⟩,
  ⟨0x3211, [0x28, 0x1105, 0x1161, 0x29]⟩, ⟨0x3212, [0x28, 0x1106, 0x1161, 0x29]⟩,
  ⟨0x3213, [0x28, 0x1107, 0x1161, 0x29]⟩, ⟨0x3214, [0x28, 0x1109, 0x1161, 0x29]⟩,
  ⟨0x3215, [0x28, 0x110B, 0x1161, 0x29]⟩, ⟨0x3216, [0x28, 0x110C, 0x1161, 0x29]⟩,
  ⟨0x3217, [0x28, 0x110E, 0x1161, 0x29]⟩, ⟨0x3218, [0x28, 0x110F, 0x1161, 0x29]⟩,
  ⟨0x3219, [0x28, 0x1110, 0x1161, 0x29]⟩, ⟨0x321A, [0x28, 0x1111, 0x1161, 0x29]⟩,
  ⟨0x321B, [0x28, 0x1112, 0x1161, 0x29]⟩, ⟨0x321C, [0x28, 0x110C, 0x116E, 0x29]⟩,
  ⟨0x321D, [0x28, 0x110B, 0x1169, 0x110C, 0x1165, 0x11AB, 0x29]⟩,
  ⟨0x321E, [0x28, 0x110B, 0x1169, 0x1112, 0x116E, 0x29]⟩, ⟨0x3220, [0x28, 0x4E00, 0x29]⟩,
  ⟨0x3221, [0x28, 0x4E8C, 0x29]⟩, ⟨0x3222, [0x28, 0x4E09, 0x29]⟩,
  ⟨0x3223, [0x28, 0x56DB, 0x29]⟩, ⟨0x3224, [0x28, 0x4E94, 0x29]⟩,
  ⟨0x3225, [0x28, 0x516D, 0x29]⟩, ⟨0x3226, [0x28, 0x4E03, 0x29]⟩,
  ⟨0x3227, [0x28, 0x516B, 0x29]⟩, ⟨0x3228, [0x28, 0x4E5D, 0x29]⟩,
  ⟨0x3229, [0x28, 0x5341, 0x29]⟩, ⟨0x322A, [0x28, 0x6708, 0x29]⟩,
  ⟨0x322B, [0x28, 0x706B, 0x29]⟩, ⟨0x322C, [0x28, 0x6C34, 0x29]⟩,
  ⟨0x322D, [0x28, 0x6728, 0x29]⟩, ⟨0x322E, [0x28, 0x91D1, 0x29]⟩,
  ⟨0x322F, [0x28, 0x571F, 0x29]⟩, ⟨0x3230, [0x28, 0x65E5, 0x29]⟩,
  ⟨0x3231, [0x28, 0x682A, 0x29]⟩, ⟨0x3232, [0x28, 0x6709, 0x29]⟩,
  ⟨0x3233, [0x28, 0x793E, 0x29]⟩, ⟨0x3234, [0x28, 0x540D, 0x29]⟩,
  ⟨0x3235, [0x28, 0x7279, 0x29]⟩, ⟨0x3236, [0x28, 0x8CA1, 0x29]⟩,
  ⟨0x3237, [0x28, 0x795D, 0x29]⟩, ⟨0x3238, [0x28, 0x52B4, 0x29]⟩,
  ⟨0x3239, [0x28, 0x4EE3, 0x29]⟩, ⟨0x323A, [0x28, 0x547C, 0x29]⟩,
  ⟨0x323B, [0x28, 0x5B66, 0x29]⟩, ⟨0x323C, [0x28, 0x76E3, 0x29]⟩,
  ⟨0x323D, [0x28, 0x4F01, 0x29]⟩, ⟨0x323E, [0x28, 0x8CC7, 0x29]⟩,
  ⟨0x323F, [0x28, 0x5354, 0x29]⟩, ⟨0x3240, [0x28, 0x796D, 0x29]⟩,
  ⟨0x3241, [0x28, 0x4F11, 0x29]⟩, ⟨0x3242, [0x28, 0x81EA, 0x29]⟩,
  ⟨0x3243, [0x28, 0x81F3, 0x29]⟩, ⟨0x3250, [0x50, 0x54, 0x45]⟩, ⟨0x3251, [0x32, 0x31]⟩,
  ⟨0x3252, [0x32, 0x32]⟩, ⟨0x3253, [0x32, 0x33]⟩, ⟨0x3254, [0x32, 0x34]⟩,
  ⟨0x3255, [0x32, 0x35]⟩, ⟨0x3256, [0x32, 0x36]⟩, ⟨0x3257, [0x32, 0x37]⟩,
  ⟨0x3258, [0x32, 0x38]⟩, ⟨0x3259, [0x32, 0x39]⟩, ⟨0x325A, [0x33, 0x30]⟩,
  ⟨0x325B, [0x33, 0x31]⟩, ⟨0x325C, [0x33, 0x32]⟩, ⟨0x325D, [0x33, 0x33]⟩,
  ⟨0x325E, [0x33, 0x34]⟩, ⟨0x325F, [0x33, 0x35]⟩, ⟨0x326E, [0x1100, 0x1161]⟩,
  ⟨0x326F, [0x1102, 0x1161]⟩, ⟨0x3270, [0x1103, 0x1161]⟩, ⟨0x3271, [0x1105, 0x1161]⟩,
  ⟨0x3272, [0x1106, 0x1161]⟩, ⟨0x3273, [0x1107, 0x1161]⟩, ⟨0x3274, [0x1109, 0x1161]⟩,
  ⟨0x3275, [0x110B, 0x1161]⟩, ⟨0x3276, [0x110C, 0x1161]⟩, ⟨0x3277, [0x110E, 0x1161]⟩,
  ⟨0x3278, [0x110F, 0x1161]⟩, ⟨0x3279, [0x1110, 0x1161]⟩, ⟨0x327A, [0x1111, 0x1161]⟩,
  ⟨0x327B, [0x1112, 0x1161]⟩, ⟨0x327C, [0x110E, 0x1161, 0x11B7, 0x1100, 0x1169]⟩,
  ⟨0x327D, [0x110C, 0x116E, 0x110B, 0x1174]⟩, ⟨0x327E, [0x110B, 0x116E]⟩,
  ⟨0x32B1, [0x33, 0x36]⟩, ⟨0x32B2, [0x33, 0x37]⟩, ⟨0x32B3, [0x33, 0x38]⟩,
  ⟨0x32B4, [0x33, 0x39]⟩, ⟨0x32B5, [0x34, 0x30]⟩, ⟨0x32B6, [0x34, 0x31]⟩,
  ⟨0x32B7, [0x34, 0x32]⟩, ⟨0x32B8, [0x34, 0x33]⟩, ⟨0x32B9, [0x34, 0x34]⟩,
  ⟨0x32BA, [0x34, 0x35]⟩, ⟨0x32BB, [0x34, 0x36]⟩, ⟨0x32BC, [0x34, 0x37]⟩,
  ⟨0x32BD, [0x34, 0x38]⟩, ⟨0x32BE, [0x34, 0x39]⟩, ⟨0x32BF, [0x35, 0x30]⟩,
  ⟨0x32C0, [0x31, 0x6708]⟩, ⟨0x32C1, [0x32, 0x6708]⟩, ⟨0x32C2, [0x33, 0x6708]⟩,
  ⟨0x32C3, [0x34, 0x6708]⟩, ⟨0x32C4, [0x35, 0x6708]⟩, ⟨0x32C5, [0x36, 0x6708]⟩,
  ⟨0x32C6, [0x37, 0x6708]⟩, ⟨0x32C7, [0x38, 0x6708]⟩, ⟨0x32C8, [0x39, 0x6708]⟩,
  ⟨0x32C9, [0x31, 0x30, 0x6708]⟩, ⟨0x32CA, [0x31, 0x31, 0x6708]⟩,
  ⟨0x32CB, [0x31, 0x32, 0x6708]⟩, ⟨0x32CC, [0x48, 0x67]⟩, ⟨0x32CD, [0x65, 0x72, 0x67]⟩,
  ⟨0x32CE, [0x65, 0x56]⟩, ⟨0x32CF, [0x4C, 0x54, 0x44]⟩, ⟨0x32FF, [0x4EE4, 0x548C]⟩,
  ⟨0x3300, [0x30A2, 0x30CF, 0x309A, 0x30FC, 0x30C8]⟩,
  ⟨0x3301, [0x30A2, 0x30EB, 0x30D5, 0x30A1]⟩,
  ⟨0x3302, [0x30A2, 0x30F3, 0x30D8, 0x309A, 0x30A2]⟩, ⟨0x3303, [0x30A2, 0x30FC, 0x30EB]⟩,
  ⟨0x3304, [0x30A4, 0x30CB, 0x30F3, 0x30AF, 0x3099]⟩, ⟨0x3305, [0x30A4, 0x30F3, 0x30C1]⟩,
  ⟨0x3306, [0x30A6, 0x30A9, 0x30F3]⟩,
  ⟨0x3307, [0x30A8, 0x30B9, 0x30AF, 0x30FC, 0x30C8, 0x3099]⟩,
  ⟨0x3308, [0x30A8, 0x30FC, 0x30AB, 0x30FC]⟩, ⟨0x3309, [0x30AA, 0x30F3, 0x30B9]⟩,
  ⟨0x330A, [0x30AA, 0x30FC, 0x30E0]⟩, ⟨0x330B, [0x30AB, 0x30A4, 0x30EA]⟩,
  ⟨0x330C, [0x30AB, 0x30E9, 0x30C3, 0x30C8]⟩, ⟨0x330D, [0x30AB, 0x30ED, 0x30EA, 0x30FC]⟩,
  ⟨0x330E, [0x30AB, 0x3099, 0x30ED, 0x30F3]⟩, ⟨0x330F, [0x30AB, 0x3099, 0x30F3, 0x30DE]⟩,
  ⟨0x3310, [0x30AD, 0x3099, 0x30AB, 0x3099]⟩, ⟨0x3311, [0x30AD, 0x3099, 0x30CB, 0x30FC]⟩,
  ⟨0x3312, [0x30AD, 0x30E5, 0x30EA, 0x30FC]⟩,
  ⟨0x3313, [0x30AD, 0x3099, 0x30EB, 0x30BF, 0x3099, 0x30FC]⟩, ⟨0x3314, [0x30AD, 0x30ED]⟩,
  ⟨0x3315, [0x30AD, 0x30ED, 0x30AF, 0x3099, 0x30E9, 0x30E0]⟩,
  ⟨0x3316, [0x30AD, 0x30ED, 0x30E1, 0x30FC, 0x30C8, 0x30EB]⟩,
  ⟨0x3317, [0x30AD, 0x30ED, 0x30EF, 0x30C3, 0x30C8]⟩,
  ⟨0x3318, [0x30AF, 0x3099, 0x30E9, 0x30E0]⟩,
  ⟨0x3319, [0x30AF, 0x3099, 0x30E9, 0x30E0, 0x30C8, 0x30F3]⟩,
  ⟨0x331A, [0x30AF, 0x30EB, 0x30BB, 0x3099, 0x30A4, 0x30ED]⟩,
  ⟨0x331B, [0x30AF, 0x30ED, 0x30FC, 0x30CD]⟩, ⟨0x331C, [0x30B1, 0x30FC, 0x30B9]⟩,
  ⟨0x331D, [0x30B3, 0x30EB, 0x30CA]⟩, ⟨0x331E, [0x30B3, 0x30FC, 0x30DB, 0x309A]⟩,
  ⟨0x331F, [0x30B5, 0x30A4, 0x30AF, 0x30EB]⟩,
  ⟨0x3320, [0x30B5, 0x30F3, 0x30C1, 0x30FC, 0x30E0]⟩,
  ⟨0x3321, [0x30B7, 0x30EA, 0x30F3, 0x30AF, 0x3099]⟩, ⟨0x3322, [0x30BB, 0x30F3, 0x30C1]⟩,
  ⟨0x3323, [0x30BB, 0x30F3, 0x30C8]⟩, ⟨0x3324, [0x30BF, 0x3099, 0x30FC, 0x30B9]⟩,
  ⟨0x3325, [0x30C6, 0x3099, 0x30B7]⟩, ⟨0x3326, [0x30C8, 0x3099, 0x30EB]⟩,
  ⟨0x3327, [0x30C8, 0x30F3]⟩, ⟨0x3328, [0x30CA, 0x30CE]⟩, ⟨0x3329, [0x30CE, 0x30C3, 0x30C8]⟩,
  ⟨0x332A, [0x30CF, 0x30A4, 0x30C4]⟩,
  ⟨0x332B, [0x30CF, 0x309A, 0x30FC, 0x30BB, 0x30F3, 0x30C8]⟩,
  ⟨0x332C, [0x30CF, 0x309A, 0x30FC, 0x30C4]⟩,
  ⟨0x332D, [0x30CF, 0x3099, 0x30FC, 0x30EC, 0x30EB]⟩,
  ⟨0x332E, [0x30D2, 0x309A, 0x30A2, 0x30B9, 0x30C8, 0x30EB]⟩,
  ⟨0x332F, [0x30D2, 0x309A, 0x30AF, 0x30EB]⟩, ⟨0x3330, [0x30D2, 0x309A, 0x30B3]⟩,
  ⟨0x3331, [0x30D2, 0x3099, 0x30EB]⟩,
  ⟨0x3332, [0x30D5, 0x30A1, 0x30E9, 0x30C3, 0x30C8, 0x3099]⟩,
  ⟨0x3333, [0x30D5, 0x30A3, 0x30FC, 0x30C8]⟩,
  ⟨0x3334, [0x30D5, 0x3099, 0x30C3, 0x30B7, 0x30A7, 0x30EB]⟩,
  ⟨0x3335, [0x30D5, 0x30E9, 0x30F3]⟩, ⟨0x3336, [0x30D8, 0x30AF, 0x30BF, 0x30FC, 0x30EB]⟩,
  ⟨0x3337, [0x30D8, 0x309A, 0x30BD]⟩, ⟨0x3338, [0x30D8, 0x309A, 0x30CB, 0x30D2]⟩,
  ⟨0x3339, [0x30D8, 0x30EB, 0x30C4]⟩, ⟨0x333A, [0x30D8, 0x309A, 0x30F3, 0x30B9]⟩,
  ⟨0x333B, [0x30D8, 0x309A, 0x30FC, 0x30B7, 0x3099]⟩,
  ⟨0x333C, [0x30D8, 0x3099, 0x30FC, 0x30BF]⟩,
  ⟨0x333D, [0x30DB, 0x309A, 0x30A4, 0x30F3, 0x30C8]⟩,
  ⟨0x333E, [0x30DB, 0x3099, 0x30EB, 0x30C8]⟩, ⟨0x333F, [0x30DB, 0x30F3]⟩,
  ⟨0x3340, [0x30DB, 0x309A, 0x30F3, 0x30C8, 0x3099]⟩, ⟨0x3341, [0x30DB, 0x30FC, 0x30EB]⟩,
  ⟨0x3342, [0x30DB, 0x30FC, 0x30F3]⟩, ⟨0x3343, [0x30DE, 0x30A4, 0x30AF, 0x30ED]⟩,
  ⟨0x3344, [0x30DE, 0x30A4, 0x30EB]⟩, ⟨0x3345, [0x30DE, 0x30C3, 0x30CF]⟩,
  ⟨0x3346, [0x30DE, 0x30EB, 0x30AF]⟩, ⟨0x3347, [0x30DE, 0x30F3, 0x30B7, 0x30E7, 0x30F3]⟩,
  ⟨0x3348, [0x30DF, 0x30AF, 0x30ED, 0x30F3]⟩, ⟨0x3349, [0x30DF, 0x30EA]⟩,
  ⟨0x334A, [0x30DF, 0x30EA, 0x30CF, 0x3099, 0x30FC, 0x30EB]⟩,
  ⟨0x334B, [0x30E1, 0x30AB, 0x3099]⟩, ⟨0x334C, [0x30E1, 0x30AB, 0x3099, 0x30C8, 0x30F3]⟩,
  ⟨0x334D, [0x30E1, 0x30FC, 0x30C8, 0x30EB]⟩, ⟨0x334E, [0x30E4, 0x30FC, 0x30C8, 0x3099]⟩,
  ⟨0x334F, [0x30E4, 0x30FC, 0x30EB]⟩, ⟨0x3350, [0x30E6, 0x30A2, 0x30F3]⟩,
  ⟨0x3351, [0x30EA, 0x30C3, 0x30C8, 0x30EB]⟩, ⟨0x3352, [0x30EA, 0x30E9]⟩,
  ⟨0x3353, [0x30EB, 0x30D2, 0x309A, 0x30FC]⟩,
  ⟨0x3354, [0x30EB, 0x30FC, 0x30D5, 0x3099, 0x30EB]⟩, ⟨0x3355, [0x30EC, 0x30E0]⟩,
  ⟨0x3356, [0x30EC, 0x30F3, 0x30C8, 0x30B1, 0x3099, 0x30F3]⟩,
  ⟨0x3357, [0x30EF, 0x30C3, 0x30C8]⟩, ⟨0x3358, [0x30, 0x70B9]⟩, ⟨0x3359, [0x31, 0x70B9]⟩,
  ⟨0x335A, [0x32, 0x70B9]⟩, ⟨0x335B, [0x33, 0x70B9]⟩, ⟨0x335C, [0x34, 0x70B9]⟩,
  ⟨0x335D, [0x35, 0x70B9]⟩, ⟨0x335E, [0x36, 0x70B9]⟩, ⟨0x335F, [0x37, 0x70B9]⟩,
  ⟨0x3360, [0x38, 0x70B9]⟩, ⟨0x3361, [0x39, 0x70B9]⟩, ⟨0x3362, [0x31, 0x30, 0x70B9]⟩,
  ⟨0x3363, [0x31, 0x31, 0x70B9]⟩, ⟨0x3364, [0x31, 0x32, 0x70B9]⟩,
  ⟨0x3365, [0x31, 0x33, 0x70B9]⟩, ⟨0x3366, [0x31, 0x34, 0x70B9]⟩,
  ⟨0x3367, [0x31, 0x35, 0x70B9]⟩, ⟨0x3368, [0x31, 0x36, 0x70B9]⟩,
  ⟨0x3369, [0x31, 0x37, 0x70B9]⟩, ⟨0x336A, [0x31, 0x38, 0x70B9]⟩,
  ⟨0x336B, [0x31, 0x39, 0x70B9]⟩, ⟨0x336C, [0x32, 0x30, 0x70B9]⟩,
  ⟨0x336D, [0x32, 0x31, 0x70B9]⟩, ⟨0x336E, [0x32, 0x32, 0x70B9]⟩,
  ⟨0x336F, [0x32, 0x33, 0x70B9]⟩, ⟨0x3370, [0x32, 0x34, 0x70B9]⟩, ⟨0x3371, [0x68, 0x50, 0x61]⟩,
  ⟨0x3372, [0x64, 0x61]⟩, ⟨0x3373, [0x41, 0x55]⟩, ⟨0x3374, [0x62, 0x61, 0x72]⟩,
  ⟨0x3375, [0x6F, 0x56]⟩, ⟨0x3376, [0x70, 0x63]⟩, ⟨0x3377, [0x64, 0x6D]⟩,
  ⟨0x3378, [0x64, 0x6D, 0x32]⟩, ⟨0x3379, [0x64, 0x6D, 0x33]⟩, ⟨0x337A, [0x49, 0x55]⟩,
  ⟨0x337B, [0x5E73, 0x6210]⟩, ⟨0x337C, [0x662D, 0x548C]⟩, ⟨0x337D, [0x5927, 0x6B63]⟩,
  ⟨0x337E, [0x660E, 0x6CBB]⟩, ⟨0x337F, [0x682A, 0x5F0F, 0x4F1A, 0x793E]⟩,
  ⟨0x3380, [0x70, 0x41]⟩, ⟨0x3381, [0x6E, 0x41]⟩, ⟨0x3382, [0x3BC, 0x41]⟩,
  ⟨0x3383, [0x6D, 0x41]⟩, ⟨0x3384, [0x6B, 0x41]⟩, ⟨0x3385, [0x4B, 0x42]⟩,
  ⟨0x3386, [0x4D, 0x42]⟩, ⟨0x3387, [0x47, 0x42]⟩, ⟨0x3388, [0x63, 0x61, 0x6C]⟩,
  ⟨0x3389, [0x6B, 0x63, 0x61, 0x6C]⟩, ⟨0x338A, [0x70, 0x46]⟩, ⟨0x338B, [0x6E, 0x46]⟩,
  ⟨0x338C, [0x3BC, 0x46]⟩, ⟨0x338D, [0x3BC, 0x67]⟩, ⟨0x338E, [0x6D, 0x67]⟩,
  ⟨0x338F, [0x6B, 0x67]⟩, ⟨0x3390, [0x48, 0x7A]⟩, ⟨0x3391, [0x6B, 0x48, 0x7A]⟩,
  ⟨0x3392, [0x4D, 0x48, 0x7A]⟩, ⟨0x3393, [0x47, 0x48, 0x7A]⟩, ⟨0x3394, [0x54, 0x48, 0x7A]⟩,
  ⟨0x3395, [0x3BC, 0x6C]⟩, ⟨0x3396, [0x6D, 0x6C]⟩, ⟨0x3397, [0x64, 0x6C]⟩,
  ⟨0x3398, [0x6B, 0x6C]⟩, ⟨0x3399, [0x66, 0x6D]⟩, ⟨0x339A, [0x6E, 0x6D]⟩,
  ⟨0x339B, [0x3BC, 0x6D]⟩, ⟨0x339C, [0x6D, 0x6D]⟩, ⟨0x339D, [0x63, 0x6D]⟩,
  ⟨0x339E, [0x6B, 0x6D]⟩, ⟨0x339F, [0x6D, 0x6D, 0x32]⟩, ⟨0x33A0, [0x63, 0x6D, 0x32]⟩,
  ⟨0x33A1, [0x6D, 0x32]⟩, ⟨0x33A2, [0x6B, 0x6D, 0x32]⟩, ⟨0x33A3, [0x6D, 0x6D, 0x33]⟩,
  ⟨0x33A4, [0x63, 0x6D, 0x33]⟩, ⟨0x33A5, [0x6D, 0x33]⟩, ⟨0x33A6, [0x6B, 0x6D, 0x33]⟩,
  ⟨0x33A7, [0x6D, 0x2215, 0x73]⟩, ⟨0x33A8, [0x6D, 0x2215, 0x73, 0x32]⟩, ⟨0x33A9, [0x50, 0x61]⟩,
  ⟨0x33AA, [0x6B, 0x50, 0x61]⟩, ⟨0x33AB, [0x4D, 0x50, 0x61]⟩, ⟨0x33AC, [0x47, 0x50, 0x61]⟩,
  ⟨0x33AD, [0x72, 0x61, 0x64]⟩, ⟨0x33AE, [0x72, 0x61, 0x64, 0x2215, 0x73]⟩,
  ⟨0x33AF, [0x72, 0x61, 0x64, 0x2215, 0x73, 0x32]⟩, ⟨0x33B0, [0x70, 0x73]⟩,
  ⟨0x33B1, [0x6E, 0x73]⟩, ⟨0x33B2, [0x3BC, 0x73]⟩, ⟨0x33B3, [0x6D, 0x73]⟩,
  ⟨0x33B4, [0x70, 0x56]⟩, ⟨0x33B5, [0x6E, 0x56]⟩, ⟨0x33B6, [0x3BC, 0x56]⟩,
  ⟨0x33B7, [0x6D, 0x56]⟩, ⟨0x33B8, [0x6B, 0x56]⟩, ⟨0x33B9, [0x4D, 0x56]⟩,
  ⟨0x33BA, [0x70, 0x57]⟩, ⟨0x33BB, [0x6E, 0x57]⟩, ⟨0x33BC, [0x3BC, 0x57]⟩,
  ⟨0x33BD, [0x6D, 0x57]⟩, ⟨0x33BE, [0x6B, 0x57]⟩, ⟨0x33BF, [0x4D, 0x57]⟩,
  ⟨0x33C0, [0x6B, 0x3A9]⟩, ⟨0x33C1, [0x4D, 0x3A9]⟩, ⟨0x33C2, [0x61, 0x2E, 0x6D, 0x2E]⟩,
  ⟨0x33C3, [0x42, 0x71]⟩, ⟨0x33C4, [0x63, 0x63]⟩, ⟨0x33C5, [0x63, 0x64]⟩,
  ⟨0x33C6, [0x43, 0x2215, 0x6B, 0x67]⟩, ⟨0x33C7, [0x43, 0x6F, 0x2E]⟩, ⟨0x33C8, [0x64, 0x42]⟩,
  ⟨0x33C9, [0x47, 0x79]⟩, ⟨0x33CA, [0x68, 0x61]⟩, ⟨0x33CB, [0x48, 0x50]⟩,
  ⟨0x33CC, [0x69, 0x6E]⟩, ⟨0x33CD, [0x4B, 0x4B]⟩, ⟨0x33CE, [0x4B, 0x4D]⟩,
  ⟨0x33CF, [0x6B, 0x74]⟩, ⟨0x33D0, [0x6C, 0x6D]⟩, ⟨0x33D1, [0x6C, 0x6E]⟩,
  ⟨0x33D2, [0x6C, 0x6F, 0x67]⟩, ⟨0x33D3, [0x6C, 0x78]⟩, ⟨0x33D4, [0x6D, 0x62]⟩,
  ⟨0x33D5, [0x6D, 0x69, 0x6C]⟩, ⟨0x33D6, [0x6D, 0x6F, 0x6C]⟩, ⟨0x33D7, [0x50, 0x48]⟩,
  ⟨0x33D8, [0x70, 0x2E, 0x6D, 0x2E]⟩, ⟨0x33D9, [0x50, 0x50, 0x4D]⟩, ⟨0x33DA, [0x50, 0x52]⟩,
  ⟨0x33DB, [0x73, 0x72]⟩, ⟨0x33DC, [0x53, 0x76]⟩, ⟨0x33DD, [0x57, 0x62]⟩,
  ⟨0x33DE, [0x56, 0x2215, 0x6D]⟩, ⟨0x33DF, [0x41, 0x2215, 0x6D]⟩, ⟨0x33E0, [0x31, 0x65E5]⟩,
  ⟨0x33E1, [0x32, 0x65E5]⟩, ⟨0x33E2, [0x33, 0x65E5]⟩, ⟨0x33E3, [0x34, 0x65E5]⟩,
  ⟨0x33E4, [0x35, 0x65E5]⟩, ⟨0x33E5, [0x36, 0x65E5]⟩, ⟨0x33E6, [0x37, 0x65E5]⟩,
  ⟨0x33E7, [0x38, 0x65E5]⟩, ⟨0x33E8, [0x39, 0x65E5]⟩, ⟨0x33E9, [0x31, 0x30, 0x65E5]⟩,
  ⟨0x33EA, [0x31, 0x31, 0x65E5]⟩, ⟨0x33EB, [0x31, 0x32, 0x65E5]⟩,
  ⟨0x33EC, [0x31, 0x33, 0x65E5]⟩, ⟨0x33ED, [0x31, 0x34, 0x65E5]⟩,
  ⟨0x33EE, [0x31, 0x35, 0x65E5]⟩, ⟨0x33EF, [0x31, 0x36, 0x65E5]⟩,
  ⟨0x33F0, [0x31, 0x37, 0x65E5]⟩, ⟨0x33F1, [0x31, 0x38, 0x65E5]⟩,
  ⟨0x33F2, [0x31, 0x39, 0x65E5]⟩, ⟨0x33F3, [0x32, 0x30, 0x65E5]⟩,
  ⟨0x33F4, [0x32, 0x31, 0x65E5]⟩, ⟨0x33F5, [0x32, 0x32, 0x65E5]⟩,
  ⟨0x33F6, [0x32, 0x33, 0x65E5]⟩, ⟨0x33F7, [0x32, 0x34, 0x65E5]⟩,
  ⟨0x33F8, [0x32, 0x35, 0x65E5]⟩, ⟨0x33F9, [0x32, 0x36, 0x65E5]⟩,
  ⟨0x33FA, [0x32, 0x37, 0x65E5]⟩, ⟨0x33FB, [0x32, 0x38, 0x65E5]⟩,
  ⟨0x33FC, [0x32, 0x39, 0x65E5]⟩, ⟨0x33FD, [0x33, 0x30, 0x65E5]⟩,
  ⟨0x33FE, [0x33, 0x31, 0x65E5]⟩, ⟨0x33FF, [0x67, 0x61, 0x6C]⟩, ⟨0xFB00, [0x66, 0x66]⟩,
  ⟨0xFB01, [0x66, 0x69]⟩, ⟨0xFB02, [0x66, 0x6C]⟩, ⟨0xFB03, [0x66, 0x66, 0x69]⟩,
  ⟨0xFB04, [0x66, 0x66, 0x6C]⟩, ⟨0xFB05, [0x73, 0x74]⟩, ⟨0xFB06, [0x73, 0x74]⟩,
  ⟨0xFB13, [0x574, 0x576]⟩, ⟨0xFB14, [0x574, 0x565]⟩, ⟨0xFB15, [0x574, 0x56B]⟩,
  ⟨0xFB16, [0x57E, 0x576]⟩, ⟨0xFB17, [0x574, 0x56D]⟩, ⟨0xFB1D, [0x5D9, 0x5B4]⟩,
  ⟨0xFB1F, [0x5F2, 0x5B7]⟩, ⟨0xFB2A, [0x5E9, 0x5C1]⟩, ⟨0xFB2B, [0x5E9, 0x5C2]⟩,
  ⟨0xFB2C, [0x5E9, 0x5BC, 0x5C1]⟩, ⟨0xFB2D, [0x5E9, 0x5BC, 0x5C2]⟩, ⟨0xFB2E, [0x5D0, 0x5B7]⟩,
  ⟨0xFB2F, [0x5D0, 0x5B8]⟩, ⟨0xFB30, [0x5D0, 0x5BC]⟩, ⟨0xFB31, [0x5D1, 0x5BC]⟩,
  ⟨0xFB32, [0x5D2, 0x5BC]⟩, ⟨0xFB33, [0x5D3, 0x5BC]⟩, ⟨0xFB34, [0x5D4, 0x5BC]⟩,
  ⟨0xFB35, [0x5D5, 0x5BC]⟩, ⟨0xFB36, [0x5D6, 0x5BC]⟩, ⟨0xFB38, [0x5D8, 0x5BC]⟩,
  ⟨0xFB39, [0x5D9, 0x5BC]⟩, ⟨0xFB3A, [0x5DA, 0x5BC]⟩]

private def expansionsC : List Expansion := [
  ⟨0xFB3B, [0x5DB, 0x5BC]⟩, ⟨0xFB3C, [0x5DC, 0x5BC]⟩, ⟨0xFB3E, [0x5DE, 0x5BC]⟩,
  ⟨0xFB40, [0x5E0, 0x5BC]⟩, ⟨0xFB41, [0x5E1, 0x5BC]⟩, ⟨0xFB43, [0x5E3, 0x5BC]⟩,
  ⟨0xFB44, [0x5E4, 0x5BC]⟩, ⟨0xFB46, [0x5E6, 0x5BC]⟩, ⟨0xFB47, [0x5E7, 0x5BC]⟩,
  ⟨0xFB48, [0x5E8, 0x5BC]⟩, ⟨0xFB49, [0x5E9, 0x5BC]⟩, ⟨0xFB4A, [0x5EA, 0x5BC]⟩,
  ⟨0xFB4B, [0x5D5, 0x5B9]⟩, ⟨0xFB4C, [0x5D1, 0x5BF]⟩, ⟨0xFB4D, [0x5DB, 0x5BF]⟩,
  ⟨0xFB4E, [0x5E4, 0x5BF]⟩, ⟨0xFB4F, [0x5D0, 0x5DC]⟩, ⟨0xFBA4, [0x6D5, 0x654]⟩,
  ⟨0xFBA5, [0x6D5, 0x654]⟩, ⟨0xFBB0, [0x6D2, 0x654]⟩, ⟨0xFBB1, [0x6D2, 0x654]⟩,
  ⟨0xFBDD, [0x6C7, 0x674]⟩, ⟨0xFBEA, [0x64A, 0x654, 0x627]⟩, ⟨0xFBEB, [0x64A, 0x654, 0x627]⟩,
  ⟨0xFBEC, [0x64A, 0x654, 0x6D5]⟩, ⟨0xFBED, [0x64A, 0x654, 0x6D5]⟩,
  ⟨0xFBEE, [0x64A, 0x654, 0x648]⟩, ⟨0xFBEF, [0x64A, 0x654, 0x648]⟩,
  ⟨0xFBF0, [0x64A, 0x654, 0x6C7]⟩, ⟨0xFBF1, [0x64A, 0x654, 0x6C7]⟩,
  ⟨0xFBF2, [0x64A, 0x654, 0x6C6]⟩, ⟨0xFBF3, [0x64A, 0x654, 0x6C6]⟩,
  ⟨0xFBF4, [0x64A, 0x654, 0x6C8]⟩, ⟨0xFBF5, [0x64A, 0x654, 0x6C8]⟩,
  ⟨0xFBF6, [0x64A, 0x654, 0x6D0]⟩, ⟨0xFBF7, [0x64A, 0x654, 0x6D0]⟩,
  ⟨0xFBF8, [0x64A, 0x654, 0x6D0]⟩, ⟨0xFBF9, [0x64A, 0x654, 0x649]⟩,
  ⟨0xFBFA, [0x64A, 0x654, 0x649]⟩, ⟨0xFBFB, [0x64A, 0x654, 0x649]⟩,
  ⟨0xFC00, [0x64A, 0x654, 0x62C]⟩, ⟨0xFC01, [0x64A, 0x654, 0x62D]⟩,
  ⟨0xFC02, [0x64A, 0x654, 0x645]⟩, ⟨0xFC03, [0x64A, 0x654, 0x649]⟩,
  ⟨0xFC04, [0x64A, 0x654, 0x64A]⟩, ⟨0xFC05, [0x628, 0x62C]⟩, ⟨0xFC06, [0x628, 0x62D]⟩,
  ⟨0xFC07, [0x628, 0x62E]⟩, ⟨0xFC08, [0x628, 0x645]⟩, ⟨0xFC09, [0x628, 0x649]⟩,
  ⟨0xFC0A, [0x628, 0x64A]⟩, ⟨0xFC0B, [0x62A, 0x62C]⟩, ⟨0xFC0C, [0x62A, 0x62D]⟩,
  ⟨0xFC0D, [0x62A, 0x62E]⟩, ⟨0xFC0E, [0x62A, 0x645]⟩, ⟨0xFC0F, [0x62A, 0x649]⟩,
  ⟨0xFC10, [0x62A, 0x64A]⟩, ⟨0xFC11, [0x62B, 0x62C]⟩, ⟨0xFC12, [0x62B, 0x645]⟩,
  ⟨0xFC13, [0x62B, 0x649]⟩, ⟨0xFC14, [0x62B, 0x64A]⟩, ⟨0xFC15, [0x62C, 0x62D]⟩,
  ⟨0xFC16, [0x62C, 0x645]⟩, ⟨0xFC17, [0x62D, 0x62C]⟩, ⟨0xFC18, [0x62D, 0x645]⟩,
  ⟨0xFC19, [0x62E, 0x62C]⟩, ⟨0xFC1A, [0x62E, 0x62D]⟩, ⟨0xFC1B, [0x62E, 0x645]⟩,
  ⟨0xFC1C, [0x633, 0x62C]⟩, ⟨0xFC1D, [0x633, 0x62D]⟩, ⟨0xFC1E, [0x633, 0x62E]⟩,
  ⟨0xFC1F, [0x633, 0x645]⟩, ⟨0xFC20, [0x635, 0x62D]⟩, ⟨0xFC21, [0x635, 0x645]⟩,
  ⟨0xFC22, [0x636, 0x62C]⟩, ⟨0xFC23, [0x636, 0x62D]⟩, ⟨0xFC24, [0x636, 0x62E]⟩,
  ⟨0xFC25, [0x636, 0x645]⟩, ⟨0xFC26, [0x637, 0x62D]⟩, ⟨0xFC27, [0x637, 0x645]⟩,
  ⟨0xFC28, [0x638, 0x645]⟩, ⟨0xFC29, [0x639, 0x62C]⟩, ⟨0xFC2A, [0x639, 0x645]⟩,
  ⟨0xFC2B, [0x63A, 0x62C]⟩, ⟨0xFC2C, [0x63A, 0x645]⟩, ⟨0xFC2D, [0x641, 0x62C]⟩,
  ⟨0xFC2E, [0x641, 0x62D]⟩, ⟨0xFC2F, [0x641, 0x62E]⟩, ⟨0xFC30, [0x641, 0x645]⟩,
  ⟨0xFC31, [0x641, 0x649]⟩, ⟨0xFC32, [0x641, 0x64A]⟩, ⟨0xFC33, [0x642, 0x62D]⟩,
  ⟨0xFC34, [0x642, 0x645]⟩, ⟨0xFC35, [0x642, 0x649]⟩, ⟨0xFC36, [0x642, 0x64A]⟩,
  ⟨0xFC37, [0x643, 0x627]⟩, ⟨0xFC38, [0x643, 0x62C]⟩, ⟨0xFC39, [0x643, 0x62D]⟩,
  ⟨0xFC3A, [0x643, 0x62E]⟩, ⟨0xFC3B, [0x643, 0x644]⟩, ⟨0xFC3C, [0x643, 0x645]⟩,
  ⟨0xFC3D, [0x643, 0x649]⟩, ⟨0xFC3E, [0x643, 0x64A]⟩, ⟨0xFC3F, [0x644, 0x62C]⟩,
  ⟨0xFC40, [0x644, 0x62D]⟩, ⟨0xFC41, [0x644, 0x62E]⟩, ⟨0xFC42, [0x644, 0x645]⟩,
  ⟨0xFC43, [0x644, 0x649]⟩, ⟨0xFC44, [0x644, 0x64A]⟩, ⟨0xFC45, [0x645, 0x62C]⟩,
  ⟨0xFC46, [0x645, 0x62D]⟩, ⟨0xFC47, [0x645, 0x62E]⟩, ⟨0xFC48, [0x645, 0x645]⟩,
  ⟨0xFC49, [0x645, 0x649]⟩, ⟨0xFC4A, [0x645, 0x64A]⟩, ⟨0xFC4B, [0x646, 0x62C]⟩,
  ⟨0xFC4C, [0x646, 0x62D]⟩, ⟨0xFC4D, [0x646, 0x62E]⟩, ⟨0xFC4E, [0x646, 0x645]⟩,
  ⟨0xFC4F, [0x646, 0x649]⟩, ⟨0xFC50, [0x646, 0x64A]⟩, ⟨0xFC51, [0x647, 0x62C]⟩,
  ⟨0xFC52, [0x647, 0x645]⟩, ⟨0xFC53, [0x647, 0x649]⟩, ⟨0xFC54, [0x647, 0x64A]⟩,
  ⟨0xFC55, [0x64A, 0x62C]⟩, ⟨0xFC56, [0x64A, 0x62D]⟩, ⟨0xFC57, [0x64A, 0x62E]⟩,
  ⟨0xFC58, [0x64A, 0x645]⟩, ⟨0xFC59, [0x64A, 0x649]⟩, ⟨0xFC5A, [0x64A, 0x64A]⟩,
  ⟨0xFC5B, [0x630, 0x670]⟩, ⟨0xFC5C, [0x631, 0x670]⟩, ⟨0xFC5D, [0x649, 0x670]⟩,
  ⟨0xFC5E, [0x20, 0x64C, 0x651]⟩, ⟨0xFC5F, [0x20, 0x64D, 0x651]⟩,
  ⟨0xFC60, [0x20, 0x64E, 0x651]⟩, ⟨0xFC61, [0x20, 0x64F, 0x651]⟩,
  ⟨0xFC62, [0x20, 0x650, 0x651]⟩, ⟨0xFC63, [0x20, 0x651, 0x670]⟩,
  ⟨0xFC64, [0x64A, 0x654, 0x631]⟩, ⟨0xFC65, [0x64A, 0x654, 0x632]⟩,
  ⟨0xFC66, [0x64A, 0x654, 0x645]⟩, ⟨0xFC67, [0x64A, 0x654, 0x646]⟩,
  ⟨0xFC68, [0x64A, 0x654, 0x649]⟩, ⟨0xFC69, [0x64A, 0x654, 0x64A]⟩, ⟨0xFC6A, [0x628, 0x631]⟩,
  ⟨0xFC6B, [0x628, 0x632]⟩, ⟨0xFC6C, [0x628, 0x645]⟩, ⟨0xFC6D, [0x628, 0x646]⟩,
  ⟨0xFC6E, [0x628, 0x649]⟩, ⟨0xFC6F, [0x628, 0x64A]⟩, ⟨0xFC70, [0x62A, 0x631]⟩,
  ⟨0xFC71, [0x62A, 0x632]⟩, ⟨0xFC72, [0x62A, 0x645]⟩, ⟨0xFC73, [0x62A, 0x646]⟩,
  ⟨0xFC74, [0x62A, 0x649]⟩, ⟨0xFC75, [0x62A, 0x64A]⟩, ⟨0xFC76, [0x62B, 0x631]⟩,
  ⟨0xFC77, [0x62B, 0x632]⟩, ⟨0xFC78, [0x62B, 0x645]⟩, ⟨0xFC79, [0x62B, 0x646]⟩,
  ⟨0xFC7A, [0x62B, 0x649]⟩, ⟨0xFC7B, [0x62B, 0x64A]⟩, ⟨0xFC7C, [0x641, 0x649]⟩,
  ⟨0xFC7D, [0x641, 0x64A]⟩, ⟨0xFC7E, [0x642, 0x649]⟩, ⟨0xFC7F, [0x642, 0x64A]⟩,
  ⟨0xFC80, [0x643, 0x627]⟩, ⟨0xFC81, [0x643, 0x644]⟩, ⟨0xFC82, [0x643, 0x645]⟩,
  ⟨0xFC83, [0x643, 0x649]⟩, ⟨0xFC84, [0x643, 0x64A]⟩, ⟨0xFC85, [0x644, 0x645]⟩,
  ⟨0xFC86, [0x644, 0x649]⟩, ⟨0xFC87, [0x644, 0x64A]⟩, ⟨0xFC88, [0x645, 0x627]⟩,
  ⟨0xFC89, [0x645, 0x645]⟩, ⟨0xFC8A, [0x646, 0x631]⟩, ⟨0xFC8B, [0x646, 0x632]⟩,
  ⟨0xFC8C, [0x646, 0x645]⟩, ⟨0xFC8D, [0x646, 0x646]⟩, ⟨0xFC8E, [0x646, 0x649]⟩,
  ⟨0xFC8F, [0x646, 0x64A]⟩, ⟨0xFC90, [0x649, 0x670]⟩, ⟨0xFC91, [0x64A, 0x631]⟩,
  ⟨0xFC92, [0x64A, 0x632]⟩, ⟨0xFC93, [0x64A, 0x645]⟩, ⟨0xFC94, [0x64A, 0x646]⟩,
  ⟨0xFC95, [0x64A, 0x649]⟩, ⟨0xFC96, [0x64A, 0x64A]⟩, ⟨0xFC97, [0x64A, 0x654, 0x62C]⟩,
  ⟨0xFC98, [0x64A, 0x654, 0x62D]⟩, ⟨0xFC99, [0x64A, 0x654, 0x62E]⟩,
  ⟨0xFC9A, [0x64A, 0x654, 0x645]⟩, ⟨0xFC9B, [0x64A, 0x654, 0x647]⟩, ⟨0xFC9C, [0x628, 0x62C]⟩,
  ⟨0xFC9D, [0x628, 0x62D]⟩, ⟨0xFC9E, [0x628, 0x62E]⟩, ⟨0xFC9F, [0x628, 0x645]⟩,
  ⟨0xFCA0, [0x628, 0x647]⟩, ⟨0xFCA1, [0x62A, 0x62C]⟩, ⟨0xFCA2, [0x62A, 0x62D]⟩,
  ⟨0xFCA3, [0x62A, 0x62E]⟩, ⟨0xFCA4, [0x62A, 0x645]⟩, ⟨0xFCA5, [0x62A, 0x647]⟩,
  ⟨0xFCA6, [0x62B, 0x645]⟩, ⟨0xFCA7, [0x62C, 0x62D]⟩, ⟨0xFCA8, [0x62C, 0x645]⟩,
  ⟨0xFCA9, [0x62D, 0x62C]⟩, ⟨0xFCAA, [0x62D, 0x645]⟩, ⟨0xFCAB, [0x62E, 0x62C]⟩,
  ⟨0xFCAC, [0x62E, 0x645]⟩, ⟨0xFCAD, [0x633, 0x62C]⟩, ⟨0xFCAE, [0x633, 0x62D]⟩,
  ⟨0xFCAF, [0x633, 0x62E]⟩, ⟨0xFCB0, [0x633, 0x645]⟩, ⟨0xFCB1, [0x635, 0x62D]⟩,
  ⟨0xFCB2, [0x635, 0x62E]⟩, ⟨0xFCB3, [0x635, 0x645]⟩, ⟨0xFCB4, [0x636, 0x62C]⟩,
  ⟨0xFCB5, [0x636, 0x62D]⟩, ⟨0xFCB6, [0x636, 0x62E]⟩, ⟨0xFCB7, [0x636, 0x645]⟩,
  ⟨0xFCB8, [0x637, 0x62D]⟩, ⟨0xFCB9, [0x638, 0x645]⟩, ⟨0xFCBA, [0x639, 0x62C]⟩,
  ⟨0xFCBB, [0x639, 0x645]⟩, ⟨0xFCBC, [0x63A, 0x62C]⟩, ⟨0xFCBD, [0x63A, 0x645]⟩,
  ⟨0xFCBE, [0x641, 0x62C]⟩, ⟨0xFCBF, [0x641, 0x62D]⟩, ⟨0xFCC0, [0x641, 0x62E]⟩,
  ⟨0xFCC1, [0x641, 0x645]⟩, ⟨0xFCC2, [0x642, 0x62D]⟩, ⟨0xFCC3, [0x642, 0x645]⟩,
  ⟨0xFCC4, [0x643, 0x62C]⟩, ⟨0xFCC5, [0x643, 0x62D]⟩, ⟨0xFCC6, [0x643, 0x62E]⟩,
  ⟨0xFCC7, [0x643, 0x644]⟩, ⟨0xFCC8, [0x643, 0x645]⟩, ⟨0xFCC9, [0x644, 0x62C]⟩,
  ⟨0xFCCA, [0x644, 0x62D]⟩, ⟨0xFCCB, [0x644, 0x62E]⟩, ⟨0xFCCC, [0x644, 0x645]⟩,
  ⟨0xFCCD, [0x644, 0x647]⟩, ⟨0xFCCE, [0x645, 0x62C]⟩, ⟨0xFCCF, [0x645, 0x62D]⟩,
  ⟨0xFCD0, [0x645, 0x62E]⟩, ⟨0xFCD1, [0x645, 0x645]⟩, ⟨0xFCD2, [0x646, 0x62C]⟩,
  ⟨0xFCD3, [0x646, 0x62D]⟩, ⟨0xFCD4, [0x646, 0x62E]⟩, ⟨0xFCD5, [0x646, 0x645]⟩,
  ⟨0xFCD6, [0x646, 0x647]⟩, ⟨0xFCD7, [0x647, 0x62C]⟩, ⟨0xFCD8, [0x647, 0x645]⟩,
  ⟨0xFCD9, [0x647, 0x670]⟩, ⟨0xFCDA, [0x64A, 0x62C]⟩, ⟨0xFCDB, [0x64A, 0x62D]⟩,
  ⟨0xFCDC, [0x64A, 0x62E]⟩, ⟨0xFCDD, [0x64A, 0x645]⟩, ⟨0xFCDE, [0x64A, 0x647]⟩,
  ⟨0xFCDF, [0x64A, 0x654, 0x645]⟩, ⟨0xFCE0, [0x64A, 0x654, 0x647]⟩, ⟨0xFCE1, [0x628, 0x645]⟩,
  ⟨0xFCE2, [0x628, 0x647]⟩, ⟨0xFCE3, [0x62A, 0x645]⟩, ⟨0xFCE4, [0x62A, 0x647]⟩,
  ⟨0xFCE5, [0x62B, 0x645]⟩, ⟨0xFCE6, [0x62B, 0x647]⟩, ⟨0xFCE7, [0x633, 0x645]⟩,
  ⟨0xFCE8, [0x633, 0x647]⟩, ⟨0xFCE9, [0x634, 0x645]⟩, ⟨0xFCEA, [0x634, 0x647]⟩,
  ⟨0xFCEB, [0x643, 0x644]⟩, ⟨0xFCEC, [0x643, 0x645]⟩, ⟨0xFCED, [0x644, 0x645]⟩,
  ⟨0xFCEE, [0x646, 0x645]⟩, ⟨0xFCEF, [0x646, 0x647]⟩, ⟨0xFCF0, [0x64A, 0x645]⟩,
  ⟨0xFCF1, [0x64A, 0x647]⟩, ⟨0xFCF2, [0x640, 0x64E, 0x651]⟩, ⟨0xFCF3, [0x640, 0x64F, 0x651]⟩,
  ⟨0xFCF4, [0x640, 0x650, 0x651]⟩, ⟨0xFCF5, [0x637, 0x649]⟩, ⟨0xFCF6, [0x637, 0x64A]⟩,
  ⟨0xFCF7, [0x639, 0x649]⟩, ⟨0xFCF8, [0x639, 0x64A]⟩, ⟨0xFCF9, [0x63A, 0x649]⟩,
  ⟨0xFCFA, [0x63A, 0x64A]⟩, ⟨0xFCFB, [0x633, 0x649]⟩, ⟨0xFCFC, [0x633, 0x64A]⟩,
  ⟨0xFCFD, [0x634, 0x649]⟩, ⟨0xFCFE, [0x634, 0x64A]⟩, ⟨0xFCFF, [0x62D, 0x649]⟩,
  ⟨0xFD00, [0x62D, 0x64A]⟩, ⟨0xFD01, [0x62C, 0x649]⟩, ⟨0xFD02, [0x62C, 0x64A]⟩,
  ⟨0xFD03, [0x62E, 0x649]⟩, ⟨0xFD04, [0x62E, 0x64A]⟩, ⟨0xFD05, [0x635, 0x649]⟩,
  ⟨0xFD06, [0x635, 0x64A]⟩, ⟨0xFD07, [0x636, 0x649]⟩, ⟨0xFD08, [0x636, 0x64A]⟩,
  ⟨0xFD09, [0x634, 0x62C]⟩, ⟨0xFD0A, [0x634, 0x62D]⟩, ⟨0xFD0B, [0x634, 0x62E]⟩,
  ⟨0xFD0C, [0x634, 0x645]⟩, ⟨0xFD0D, [0x634, 0x631]⟩, ⟨0xFD0E, [0x633, 0x631]⟩,
  ⟨0xFD0F, [0x635, 0x631]⟩, ⟨0xFD10, [0x636, 0x631]⟩, ⟨0xFD11, [0x637, 0x649]⟩,
  ⟨0xFD12, [0x637, 0x64A]⟩, ⟨0xFD13, [0x639, 0x649]⟩, ⟨0xFD14, [0x639, 0x64A]⟩,
  ⟨0xFD15, [0x63A, 0x649]⟩, ⟨0xFD16, [0x63A, 0x64A]⟩, ⟨0xFD17, [0x633, 0x649]⟩,
  ⟨0xFD18, [0x633, 0x64A]⟩, ⟨0xFD19, [0x634, 0x649]⟩, ⟨0xFD1A, [0x634, 0x64A]⟩,
  ⟨0xFD1B, [0x62D, 0x649]⟩, ⟨0xFD1C, [0x62D, 0x64A]⟩, ⟨0xFD1D, [0x62C, 0x649]⟩,
  ⟨0xFD1E, [0x62C, 0x64A]⟩, ⟨0xFD1F, [0x62E, 0x649]⟩, ⟨0xFD20, [0x62E, 0x64A]⟩,
  ⟨0xFD21, [0x635, 0x649]⟩, ⟨0xFD22, [0x635, 0x64A]⟩, ⟨0xFD23, [0x636, 0x649]⟩,
  ⟨0xFD24, [0x636, 0x64A]⟩, ⟨0xFD25, [0x634, 0x62C]⟩, ⟨0xFD26, [0x634, 0x62D]⟩,
  ⟨0xFD27, [0x634, 0x62E]⟩, ⟨0xFD28, [0x634, 0x645]⟩, ⟨0xFD29, [0x634, 0x631]⟩,
  ⟨0xFD2A, [0x633, 0x631]⟩, ⟨0xFD2B, [0x635, 0x631]⟩, ⟨0xFD2C, [0x636, 0x631]⟩,
  ⟨0xFD2D, [0x634, 0x62C]⟩, ⟨0xFD2E, [0x634, 0x62D]⟩, ⟨0xFD2F, [0x634, 0x62E]⟩,
  ⟨0xFD30, [0x634, 0x645]⟩, ⟨0xFD31, [0x633, 0x647]⟩, ⟨0xFD32, [0x634, 0x647]⟩,
  ⟨0xFD33, [0x637, 0x645]⟩, ⟨0xFD34, [0x633, 0x62C]⟩, ⟨0xFD35, [0x633, 0x62D]⟩,
  ⟨0xFD36, [0x633, 0x62E]⟩, ⟨0xFD37, [0x634, 0x62C]⟩, ⟨0xFD38, [0x634, 0x62D]⟩,
  ⟨0xFD39, [0x634, 0x62E]⟩, ⟨0xFD3A, [0x637, 0x645]⟩, ⟨0xFD3B, [0x638, 0x645]⟩,
  ⟨0xFD3C, [0x627, 0x64B]⟩, ⟨0xFD3D, [0x627, 0x64B]⟩, ⟨0xFD50, [0x62A, 0x62C, 0x645]⟩,
  ⟨0xFD51, [0x62A, 0x62D, 0x62C]⟩, ⟨0xFD52, [0x62A, 0x62D, 0x62C]⟩,
  ⟨0xFD53, [0x62A, 0x62D, 0x645]⟩, ⟨0xFD54, [0x62A, 0x62E, 0x645]⟩,
  ⟨0xFD55, [0x62A, 0x645, 0x62C]⟩, ⟨0xFD56, [0x62A, 0x645, 0x62D]⟩,
  ⟨0xFD57, [0x62A, 0x645, 0x62E]⟩, ⟨0xFD58, [0x62C, 0x645, 0x62D]⟩,
  ⟨0xFD59, [0x62C, 0x645, 0x62D]⟩, ⟨0xFD5A, [0x62D, 0x645, 0x64A]⟩,
  ⟨0xFD5B, [0x62D, 0x645, 0x649]⟩, ⟨0xFD5C, [0x633, 0x62D, 0x62C]⟩,
  ⟨0xFD5D, [0x633, 0x62C, 0x62D]⟩, ⟨0xFD5E, [0x633, 0x62C, 0x649]⟩,
  ⟨0xFD5F, [0x633, 0x645, 0x62D]⟩, ⟨0xFD60, [0x633, 0x645, 0x62D]⟩,
  ⟨0xFD61, [0x633, 0x645, 0x62C]⟩, ⟨0xFD62, [0x633, 0x645, 0x645]⟩,
  ⟨0xFD63, [0x633, 0x645, 0x645]⟩, ⟨0xFD64, [0x635, 0x62D, 0x62D]⟩,
  ⟨0xFD65, [0x635, 0x62D, 0x62D]⟩, ⟨0xFD66, [0x635, 0x645, 0x645]⟩,
  ⟨0xFD67, [0x634, 0x62D, 0x645]⟩, ⟨0xFD68, [0x634, 0x62D, 0x645]⟩,
  ⟨0xFD69, [0x634, 0x62C, 0x64A]⟩, ⟨0xFD6A, [0x634, 0x645, 0x62E]⟩,
  ⟨0xFD6B, [0x634, 0x645, 0x62E]⟩, ⟨0xFD6C, [0x634, 0x645, 0x645]⟩,
  ⟨0xFD6D, [0x634, 0x645, 0x645]⟩, ⟨0xFD6E, [0x636, 0x62D, 0x649]⟩,
  ⟨0xFD6F, [0x636, 0x62E, 0x645]⟩, ⟨0xFD70, [0x636, 0x62E, 0x645]⟩,
  ⟨0xFD71, [0x637, 0x645, 0x62D]⟩, ⟨0xFD72, [0x637, 0x645, 0x62D]⟩,
  ⟨0xFD73, [0x637, 0x645, 0x645]⟩, ⟨0xFD74, [0x637, 0x645, 0x64A]⟩,
  ⟨0xFD75, [0x639, 0x62C, 0x645]⟩, ⟨0xFD76, [0x639, 0x645, 0x645]⟩,
  ⟨0xFD77, [0x639, 0x645, 0x645]⟩, ⟨0xFD78, [0x639, 0x645, 0x649]⟩,
  ⟨0xFD79, [0x63A, 0x645, 0x645]⟩, ⟨0xFD7A, [0x63A, 0x645, 0x64A]⟩,
  ⟨0xFD7B, [0x63A, 0x645, 0x649]⟩, ⟨0xFD7C, [0x641, 0x62E, 0x645]⟩,
  ⟨0xFD7D, [0x641, 0x62E, 0x645]⟩, ⟨0xFD7E, [0x642, 0x645, 0x62D]⟩,
  ⟨0xFD7F, [0x642, 0x645, 0x645]⟩, ⟨0xFD80, [0x644, 0x62D, 0x645]⟩,
  ⟨0xFD81, [0x644, 0x62D, 0x64A]⟩, ⟨0xFD82, [0x644, 0x62D, 0x649]⟩,
  ⟨0xFD83, [0x644, 0x62C, 0x62C]⟩, ⟨0xFD84, [0x644, 0x62C, 0x62C]⟩,
  ⟨0xFD85, [0x644, 0x62E, 0x645]⟩, ⟨0xFD86, [0x644, 0x62E, 0x645]⟩,
  ⟨0xFD87, [0x644, 0x645, 0x62D]⟩, ⟨0xFD88, [0x644, 0x645, 0x62D]⟩,
  ⟨0xFD89, [0x645, 0x62D, 0x62C]⟩, ⟨0xFD8A, [0x645, 0x62D, 0x645]⟩,
  ⟨0xFD8B, [0x645, 0x62D, 0x64A]⟩, ⟨0xFD8C, [0x645, 0x62C, 0x62D]⟩,
  ⟨0xFD8D, [0x645, 0x62C, 0x645]⟩, ⟨0xFD8E, [0x645, 0x62E, 0x62C]⟩,
  ⟨0xFD8F, [0x645, 0x62E, 0x645]⟩, ⟨0xFD92, [0x645, 0x62C, 0x62E]⟩,
  ⟨0xFD93, [0x647, 0x645, 0x62C]⟩, ⟨0xFD94, [0x647, 0x645, 0x645]⟩,
  ⟨0xFD95, [0x646, 0x62D, 0x645]⟩, ⟨0xFD96, [0x646, 0x62D, 0x649]⟩,
  ⟨0xFD97, [0x646, 0x62C, 0x645]⟩, ⟨0xFD98, [0x646, 0x62C, 0x645]⟩,
  ⟨0xFD99, [0x646, 0x62C, 0x649]⟩, ⟨0xFD9A, [0x646, 0x645, 0x64A]⟩,
  ⟨0xFD9B, [0x646, 0x645, 0x649]⟩, ⟨0xFD9C, [0x64A, 0x645, 0x645]⟩,
  ⟨0xFD9D, [0x64A, 0x645, 0x645]⟩, ⟨0xFD9E, [0x628, 0x62E, 0x64A]⟩,
  ⟨0xFD9F, [0x62A, 0x62C, 0x64A]⟩, ⟨0xFDA0, [0x62A, 0x62C, 0x649]⟩,
  ⟨0xFDA1, [0x62A, 0x62E, 0x64A]⟩, ⟨0xFDA2, [0x62A, 0x62E, 0x649]⟩,
  ⟨0xFDA3, [0x62A, 0x645, 0x64A]⟩, ⟨0xFDA4, [0x62A, 0x645, 0x649]⟩,
  ⟨0xFDA5, [0x62C, 0x645, 0x64A]⟩, ⟨0xFDA6, [0x62C, 0x62D, 0x649]⟩,
  ⟨0xFDA7, [0x62C, 0x645, 0x649]⟩, ⟨0xFDA8, [0x633, 0x62E, 0x649]⟩,
  ⟨0xFDA9, [0x635, 0x62D, 0x64A]⟩, ⟨0xFDAA, [0x634, 0x62D, 0x64A]⟩,
  ⟨0xFDAB, [0x636, 0x62D, 0x64A]⟩, ⟨0xFDAC, [0x644, 0x62C, 0x64A]⟩,
  ⟨0xFDAD, [0x644, 0x645, 0x64A]⟩, ⟨0xFDAE, [0x64A, 0x62D, 0x64A]⟩,
  ⟨0xFDAF, [0x64A, 0x62C, 0x64A]⟩, ⟨0xFDB0, [0x64A, 0x645, 0x64A]⟩,
  ⟨0xFDB1, [0x645, 0x645, 0x64A]⟩, ⟨0xFDB2, [0x642, 0x645, 0x64A]⟩,
  ⟨0xFDB3, [0x646, 0x62D, 0x64A]⟩, ⟨0xFDB4, [0x642, 0x645, 0x62D]⟩,
  ⟨0xFDB5, [0x644, 0x62D, 0x645]⟩, ⟨0xFDB6, [0x639, 0x645, 0x64A]⟩,
  ⟨0xFDB7, [0x643, 0x645, 0x64A]⟩, ⟨0xFDB8, [0x646, 0x62C, 0x62D]⟩,
  ⟨0xFDB9, [0x645, 0x62E, 0x64A]⟩, ⟨0xFDBA, [0x644, 0x62C, 0x645]⟩,
  ⟨0xFDBB, [0x643, 0x645, 0x645]⟩, ⟨0xFDBC, [0x644, 0x62C, 0x645]⟩,
  ⟨0xFDBD, [0x646, 0x62C, 0x62D]⟩, ⟨0xFDBE, [0x62C, 0x62D, 0x64A]⟩,
  ⟨0xFDBF, [0x62D, 0x62C, 0x64A]⟩, ⟨0xFDC0, [0x645, 0x62C, 0x64A]⟩,
  ⟨0xFDC1, [0x641, 0x645, 0x64A]⟩, ⟨0xFDC2, [0x628, 0x62D, 0x64A]⟩,
  ⟨0xFDC3, [0x643, 0x645, 0x645]⟩, ⟨0xFDC4, [0x639, 0x62C, 0x645]⟩,
  ⟨0xFDC5, [0x635, 0x645, 0x645]⟩, ⟨0xFDC6, [0x633, 0x62E, 0x64A]⟩,
  ⟨0xFDC7, [0x646, 0x62C, 0x64A]⟩, ⟨0xFDF0, [0x635, 0x644, 0x6D2]⟩,
  ⟨0xFDF1, [0x642, 0x644, 0x6D2]⟩, ⟨0xFDF2, [0x627, 0x644, 0x644, 0x647]⟩,
  ⟨0xFDF3, [0x627, 0x643, 0x628, 0x631]⟩, ⟨0xFDF4, [0x645, 0x62D, 0x645, 0x62F]⟩,
  ⟨0xFDF5, [0x635, 0x644, 0x639, 0x645]⟩, ⟨0xFDF6, [0x631, 0x633, 0x648, 0x644]⟩,
  ⟨0xFDF7, [0x639, 0x644, 0x64A, 0x647]⟩, ⟨0xFDF8, [0x648, 0x633, 0x644, 0x645]⟩,
  ⟨0xFDF9, [0x635, 0x644, 0x649]⟩,
  ⟨0xFDFA, [0x635, 0x644, 0x649, 0x20, 0x627, 0x644, 0x644, 0x647, 0x20, 0x639, 0x644, 0x64A, 0x647,
    0x20, 0x648, 0x633, 0x644, 0x645]⟩,
  ⟨0xFDFB, [0x62C, 0x644, 0x20, 0x62C, 0x644, 0x627, 0x644, 0x647]⟩,
  ⟨0xFDFC, [0x631, 0x6CC, 0x627, 0x644]⟩, ⟨0xFE19, [0x2E, 0x2E, 0x2E]⟩, ⟨0xFE30, [0x2E, 0x2E]⟩,
  ⟨0xFE49, [0x20, 0x305]⟩, ⟨0xFE4A, [0x20, 0x305]⟩, ⟨0xFE4B, [0x20, 0x305]⟩,
  ⟨0xFE4C, [0x20, 0x305]⟩, ⟨0xFE70, [0x20, 0x64B]⟩, ⟨0xFE71, [0x640, 0x64B]⟩,
  ⟨0xFE72, [0x20, 0x64C]⟩, ⟨0xFE74, [0x20, 0x64D]⟩, ⟨0xFE76, [0x20, 0x64E]⟩,
  ⟨0xFE77, [0x640, 0x64E]⟩, ⟨0xFE78, [0x20, 0x64F]⟩, ⟨0xFE79, [0x640, 0x64F]⟩,
  ⟨0xFE7A, [0x20, 0x650]⟩, ⟨0xFE7B, [0x640, 0x650]⟩, ⟨0xFE7C, [0x20, 0x651]⟩,
  ⟨0xFE7D, [0x640, 0x651]⟩, ⟨0xFE7E, [0x20, 0x652]⟩, ⟨0xFE7F, [0x640, 0x652]⟩,
  ⟨0xFE81, [0x627, 0x653]⟩, ⟨0xFE82, [0x627, 0x653]⟩, ⟨0xFE83, [0x627, 0x654]⟩,
  ⟨0xFE84, [0x627, 0x654]⟩, ⟨0xFE85, [0x648, 0x654]⟩, ⟨0xFE86, [0x648, 0x654]⟩,
  ⟨0xFE87, [0x627, 0x655]⟩, ⟨0xFE88, [0x627, 0x655]⟩, ⟨0xFE89, [0x64A, 0x654]⟩,
  ⟨0xFE8A, [0x64A, 0x654]⟩, ⟨0xFE8B, [0x64A, 0x654]⟩, ⟨0xFE8C, [0x64A, 0x654]⟩,
  ⟨0xFEF5, [0x644, 0x627, 0x653]⟩, ⟨0xFEF6, [0x644, 0x627, 0x653]⟩,
  ⟨0xFEF7, [0x644, 0x627, 0x654]⟩, ⟨0xFEF8, [0x644, 0x627, 0x654]⟩,
  ⟨0xFEF9, [0x644, 0x627, 0x655]⟩, ⟨0xFEFA, [0x644, 0x627, 0x655]⟩, ⟨0xFEFB, [0x644, 0x627]⟩,
  ⟨0xFEFC, [0x644, 0x627]⟩, ⟨0xFFE3, [0x20, 0x304]⟩, ⟨0x1109A, [0x11099, 0x110BA]⟩,
  ⟨0x1109C, [0x1109B, 0x110BA]⟩, ⟨0x110AB, [0x110A5, 0x110BA]⟩, ⟨0x1112E, [0x11131, 0x11127]⟩,
  ⟨0x1112F, [0x11132, 0x11127]⟩, ⟨0x1134B, [0x11347, 0x1133E]⟩, ⟨0x1134C, [0x11347, 0x11357]⟩,
  ⟨0x114BB, [0x114B9, 0x114BA]⟩, ⟨0x114BC, [0x114B9, 0x114B0]⟩, ⟨0x114BE, [0x114B9, 0x114BD]⟩,
  ⟨0x115BA, [0x115B8, 0x115AF]⟩, ⟨0x115BB, [0x115B9, 0x115AF]⟩, ⟨0x11938, [0x11935, 0x11930]⟩,
  ⟨0x1D15E, [0x1D157, 0x1D165]⟩, ⟨0x1D15F, [0x1D158, 0x1D165]⟩,
  ⟨0x1D160, [0x1D158, 0x1D165, 0x1D16E]⟩, ⟨0x1D161, [0x1D158, 0x1D165, 0x1D16F]⟩,
  ⟨0x1D162, [0x1D158, 0x1D165, 0x1D170]⟩, ⟨0x1D163, [0x1D158, 0x1D165, 0x1D171]⟩,
  ⟨0x1D164, [0x1D158, 0x1D165, 0x1D172]⟩, ⟨0x1D1BB, [0x1D1B9, 0x1D165]⟩,
  ⟨0x1D1BC, [0x1D1BA, 0x1D165]⟩, ⟨0x1D1BD, [0x1D1B9, 0x1D165, 0x1D16E]⟩,
  ⟨0x1D1BE, [0x1D1BA, 0x1D165, 0x1D16E]⟩, ⟨0x1D1BF, [0x1D1B9, 0x1D165, 0x1D16F]⟩,
  ⟨0x1D1C0, [0x1D1BA, 0x1D165, 0x1D16F]⟩, ⟨0x1F100, [0x30, 0x2E]⟩, ⟨0x1F101, [0x30, 0x2C]⟩,
  ⟨0x1F102, [0x31, 0x2C]⟩, ⟨0x1F103, [0x32, 0x2C]⟩, ⟨0x1F104, [0x33, 0x2C]⟩,
  ⟨0x1F105, [0x34, 0x2C]⟩, ⟨0x1F106, [0x35, 0x2C]⟩, ⟨0x1F107, [0x36, 0x2C]⟩,
  ⟨0x1F108, [0x37, 0x2C]⟩, ⟨0x1F109, [0x38, 0x2C]⟩, ⟨0x1F10A, [0x39, 0x2C]⟩,
  ⟨0x1F110, [0x28, 0x41, 0x29]⟩, ⟨0x1F111, [0x28, 0x42, 0x29]⟩, ⟨0x1F112, [0x28, 0x43, 0x29]⟩,
  ⟨0x1F113, [0x28, 0x44, 0x29]⟩, ⟨0x1F114, [0x28, 0x45, 0x29]⟩, ⟨0x1F115, [0x28, 0x46, 0x29]⟩,
  ⟨0x1F116, [0x28, 0x47, 0x29]⟩, ⟨0x1F117, [0x28, 0x48, 0x29]⟩, ⟨0x1F118, [0x28, 0x49, 0x29]⟩,
  ⟨0x1F119, [0x28, 0x4A, 0x29]⟩, ⟨0x1F11A, [0x28, 0x4B, 0x29]⟩, ⟨0x1F11B, [0x28, 0x4C, 0x29]⟩,
  ⟨0x1F11C, [0x28, 0x4D, 0x29]⟩, ⟨0x1F11D, [0x28, 0x4E, 0x29]⟩, ⟨0x1F11E, [0x28, 0x4F, 0x29]⟩,
  ⟨0x1F11F, [0x28, 0x50, 0x29]⟩, ⟨0x1F120, [0x28, 0x51, 0x29]⟩, ⟨0x1F121, [0x28, 0x52, 0x29]⟩,
  ⟨0x1F122, [0x28, 0x53, 0x29]⟩, ⟨0x1F123, [0x28, 0x54, 0x29]⟩, ⟨0x1F124, [0x28, 0x55, 0x29]⟩,
  ⟨0x1F125, [0x28, 0x56, 0x29]⟩, ⟨0x1F126, [0x28, 0x57, 0x29]⟩, ⟨0x1F127, [0x28, 0x58, 0x29]⟩,
  ⟨0x1F128, [0x28, 0x59, 0x29]⟩, ⟨0x1F129, [0x28, 0x5A, 0x29]⟩,
  ⟨0x1F12A, [0x3014, 0x53, 0x3015]⟩, ⟨0x1F12D, [0x43, 0x44]⟩, ⟨0x1F12E, [0x57, 0x5A]⟩,
  ⟨0x1F14A, [0x48, 0x56]⟩, ⟨0x1F14B, [0x4D, 0x56]⟩, ⟨0x1F14C, [0x53, 0x44]⟩,
  ⟨0x1F14D, [0x53, 0x53]⟩, ⟨0x1F14E, [0x50, 0x50, 0x56]⟩, ⟨0x1F14F, [0x57, 0x43]⟩,
  ⟨0x1F16A, [0x4D, 0x43]⟩, ⟨0x1F16B, [0x4D, 0x44]⟩, ⟨0x1F16C, [0x4D, 0x52]⟩,
  ⟨0x1F190, [0x44, 0x4A]⟩, ⟨0x1F200, [0x307B, 0x304B]⟩, ⟨0x1F201, [0x30B3, 0x30B3]⟩,
  ⟨0x1F213, [0x30C6, 0x3099]⟩, ⟨0x1F240, [0x3014, 0x672C, 0x3015]⟩,
  ⟨0x1F241, [0x3014, 0x4E09, 0x3015]⟩, ⟨0x1F242, [0x3014, 0x4E8C, 0x3015]⟩,
  ⟨0x1F243, [0x3014, 0x5B89, 0x3015]⟩, ⟨0x1F244, [0x3014, 0x70B9, 0x3015]⟩,
  ⟨0x1F245, [0x3014, 0x6253, 0x3015]⟩, ⟨0x1F246, [0x3014, 0x76D7, 0x3015]⟩,
  ⟨0x1F247, [0x3014, 0x52DD, 0x3015]⟩, ⟨0x1F248, [0x3014, 0x6557, 0x3015]⟩]

/-- The characters whose full compatibility decomposition has at least two characters. -/
def expansions : List Expansion :=
  expansionsA ++ expansionsB ++ expansionsC

end Text
end TypeFiles
