/-
# Characters of four bytes

One charset reaches all characters: those that have no pair of bytes have four, the second and the
fourth of which are digits.  The four count up like the wheels of a counter, and the characters go
by the number it shows; in the basic plane those that have a pair are left out.
-/

import TypeFiles.Decimal.Digits

namespace TypeFiles
namespace Charset

/-- Runs of characters of the basic plane: the number of the first one, the first one and how many
they are. -/
def quadrupleRuns : List (Nat × Nat × Nat) := [
  (0, 0x0080, 36), (36, 0x00A5, 2), (38, 0x00A9, 7), (45, 0x00B2, 5), (50, 0x00B8, 31),
  (81, 0x00D8, 8), (89, 0x00E2, 6), (95, 0x00EB, 1), (96, 0x00EE, 4), (100, 0x00F4, 3),
  (103, 0x00F8, 1), (104, 0x00FB, 1), (105, 0x00FD, 4), (109, 0x0102, 17), (126, 0x0114, 7),
  (133, 0x011C, 15), (148, 0x012C, 24), (172, 0x0145, 3), (175, 0x0149, 4), (179, 0x014E, 29),
  (208, 0x016C, 98), (306, 0x01CF, 1), (307, 0x01D1, 1), (308, 0x01D3, 1), (309, 0x01D5, 1),
  (310, 0x01D7, 1), (311, 0x01D9, 1), (312, 0x01DB, 1), (313, 0x01DD, 28), (341, 0x01FA, 87),
  (428, 0x0252, 15), (443, 0x0262, 101), (544, 0x02C8, 1), (545, 0x02CC, 13), (558, 0x02DA, 183),
  (741, 0x03A2, 1), (742, 0x03AA, 7), (749, 0x03C2, 1), (750, 0x03CA, 55), (805, 0x0402, 14),
  (819, 0x0450, 1), (820, 0x0452, 7102), (7922, 0x2011, 2), (7924, 0x2017, 1), (7925, 0x201A, 2),
  (7927, 0x201E, 7), (7934, 0x2027, 9), (7943, 0x2031, 1), (7944, 0x2034, 1), (7945, 0x2036, 5),
  (7950, 0x203C, 112), (8062, 0x20AD, 86), (8148, 0x2104, 1), (8149, 0x2106, 3),
  (8152, 0x210A, 12), (8164, 0x2117, 10), (8174, 0x2122, 62), (8236, 0x216C, 4),
  (8240, 0x217A, 22), (8262, 0x2194, 2), (8264, 0x219A, 110), (8374, 0x2209, 6), (8380, 0x2210, 1),
  (8381, 0x2212, 3), (8384, 0x2216, 4), (8388, 0x221B, 2), (8390, 0x2221, 2), (8392, 0x2224, 1),
  (8393, 0x2226, 1), (8394, 0x222C, 2), (8396, 0x222F, 5), (8401, 0x2238, 5), (8406, 0x223E, 10),
  (8416, 0x2249, 3), (8419, 0x224D, 5), (8424, 0x2253, 13), (8437, 0x2262, 2), (8439, 0x2268, 6),
  (8445, 0x2270, 37), (8482, 0x2296, 3), (8485, 0x229A, 11), (8496, 0x22A6, 25),
  (8521, 0x22C0, 82), (8603, 0x2313, 333), (8936, 0x246A, 10), (8946, 0x249C, 100),
  (9046, 0x254C, 4), (9050, 0x2574, 13), (9063, 0x2590, 3), (9066, 0x2596, 10), (9076, 0x25A2, 16),
  (9092, 0x25B4, 8), (9100, 0x25BE, 8), (9108, 0x25C8, 3), (9111, 0x25CC, 2), (9113, 0x25D0, 18),
  (9131, 0x25E6, 31), (9162, 0x2607, 2), (9164, 0x260A, 54), (9218, 0x2641, 1),
  (9219, 0x2643, 2110), (11329, 0x2E82, 2), (11331, 0x2E85, 3), (11334, 0x2E89, 2),
  (11336, 0x2E8D, 10), (11346, 0x2E98, 15), (11361, 0x2EA8, 2), (11363, 0x2EAB, 3),
  (11366, 0x2EAF, 4), (11370, 0x2EB4, 2), (11372, 0x2EB8, 3), (11375, 0x2EBC, 14),
  (11389, 0x2ECB, 293), (11682, 0x2FFC, 4), (11686, 0x3004, 1), (11687, 0x3018, 5),
  (11692, 0x301F, 2), (11694, 0x302A, 20), (11714, 0x303F, 2), (11716, 0x3094, 7),
  (11723, 0x309F, 2), (11725, 0x30F7, 5), (11730, 0x30FF, 6), (11736, 0x312A, 246),
  (11982, 0x322A, 7), (11989, 0x3232, 113), (12102, 0x32A4, 234), (12336, 0x3390, 12),
  (12348, 0x339F, 2), (12350, 0x33A2, 34), (12384, 0x33C5, 9), (12393, 0x33CF, 2),
  (12395, 0x33D3, 2), (12397, 0x33D6, 113), (12510, 0x3448, 43), (12553, 0x3474, 298),
  (12851, 0x359F, 111), (12962, 0x360F, 11), (12973, 0x361B, 765), (13738, 0x3919, 85),
  (13823, 0x396F, 96), (13919, 0x39D1, 14), (13933, 0x39E0, 147), (14080, 0x3A74, 218),
  (14298, 0x3B4F, 287), (14585, 0x3C6F, 113), (14698, 0x3CE1, 885), (15583, 0x4057, 264),
  (15847, 0x4160, 471), (16318, 0x4338, 116), (16434, 0x43AD, 4), (16438, 0x43B2, 43),
  (16481, 0x43DE, 248), (16729, 0x44D7, 373), (17102, 0x464D, 20), (17122, 0x4662, 193),
  (17315, 0x4724, 5), (17320, 0x472A, 82), (17402, 0x477D, 16), (17418, 0x478E, 441),
  (17859, 0x4948, 50), (17909, 0x497B, 2), (17911, 0x497E, 4), (17915, 0x4984, 1),
  (17916, 0x4987, 20), (17936, 0x499C, 3), (17939, 0x49A0, 22), (17961, 0x49B8, 703),
  (18664, 0x4C78, 39), (18703, 0x4CA4, 111), (18814, 0x4D1A, 148), (18962, 0x4DAF, 81),
  (19043, 0x9FA6, 14426), (33469, 0xE76C, 1), (33470, 0xE7C8, 1), (33471, 0xE7E7, 13),
  (33484, 0xE815, 1), (33485, 0xE819, 5), (33490, 0xE81F, 7), (33497, 0xE827, 4),
  (33501, 0xE82D, 4), (33505, 0xE833, 8), (33513, 0xE83C, 7), (33520, 0xE844, 16),
  (33536, 0xE856, 14), (33550, 0xE865, 4295), (37845, 0xF92D, 76), (37921, 0xF97A, 27),
  (37948, 0xF996, 81), (38029, 0xF9E8, 9), (38038, 0xF9F2, 26), (38064, 0xFA10, 1),
  (38065, 0xFA12, 1), (38066, 0xFA15, 3), (38069, 0xFA19, 6), (38075, 0xFA22, 1),
  (38076, 0xFA25, 2), (38078, 0xFA2A, 1030), (39108, 0xFE32, 1), (39109, 0xFE45, 4),
  (39113, 0xFE53, 1), (39114, 0xFE58, 1), (39115, 0xFE67, 1), (39116, 0xFE6C, 149),
  (39265, 0xFF5F, 129), (39394, 0xFFE6, 26)]

/-- Whether a byte is a digit, as the second of four bytes is. -/
def isSecond (b : UInt8) : Bool := 0x30 ≤ b && b ≤ 0x39

/-- The number that four bytes show. -/
def quadrupleNumber (a b c d : UInt8) : Nat :=
  (((a.toNat - 0x81) * 10 + (b.toNat - 0x30)) * 126 + (c.toNat - 0x81)) * 10 + (d.toNat - 0x30)

/-- The number of the first character beyond the basic plane. -/
def firstBeyond : Nat := 189000

/-- The character that four bytes stand for. -/
def quadruple? (a b c d : UInt8) : Option Char :=
  if a < 0x81 || !isSecond b || c < 0x81 || !isSecond d then none
  else
    let n := quadrupleNumber a b c d
    if firstBeyond ≤ n then
      let c := 0x10000 + (n - firstBeyond)
      if c ≤ 0x10FFFF then some (Char.ofNat c) else none
    else
      (quadrupleRuns.find? fun (first, _, count) => first ≤ n && n < first + count).map
        fun (first, c, _) => Char.ofNat (c + (n - first))

end Charset
end TypeFiles
