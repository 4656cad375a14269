/-
Characters that have a case: the table.

The bounds are listed in increasing order and alternate: a range begins at an even
position and ends just before the next odd one. The data is that of edition 17 of the
Unicode character database; nothing else in the library depends on how the table is laid
out.
-/
import Draftsman.Text.CodeRanges

set_option autoImplicit false

namespace Draftsman.Text

/-- The code points that are uppercase, lowercase or titlecase. -/
def casedRanges : CodeRanges := ⟨#[
  0x41, 0x5B, 0x61, 0x7B, 0xAA, 0xAB, 0xB5, 0xB6, 0xBA, 0xBB, 0xC0, 0xD7,
  0xD8, 0xF7, 0xF8, 0x1BB, 0x1BC, 0x1C0, 0x1C4, 0x294, 0x296, 0x2B9, 0x2C0, 0x2C2,
  0x2E0, 0x2E5, 0x345, 0x346, 0x370, 0x374, 0x376, 0x378, 0x37A, 0x37E, 0x37F, 0x380,
  0x386, 0x387, 0x388, 0x38B, 0x38C, 0x38D, 0x38E, 0x3A2, 0x3A3, 0x3F6, 0x3F7, 0x482,
  0x48A, 0x530, 0x531, 0x557, 0x560, 0x589, 0x10A0, 0x10C6, 0x10C7, 0x10C8, 0x10CD, 0x10CE,
  0x10D0, 0x10FB, 0x10FC, 0x1100, 0x13A0, 0x13F6, 0x13F8, 0x13FE, 0x1C80, 0x1C8B, 0x1C90, 0x1CBB,
  0x1CBD, 0x1CC0, 0x1D00, 0x1DC0, 0x1E00, 0x1F16, 0x1F18, 0x1F1E, 0x1F20, 0x1F46, 0x1F48, 0x1F4E,
  0x1F50, 0x1F58, 0x1F59, 0x1F5A, 0x1F5B, 0x1F5C, 0x1F5D, 0x1F5E, 0x1F5F, 0x1F7E, 0x1F80, 0x1FB5,
  0x1FB6, 0x1FBD, 0x1FBE, 0x1FBF, 0x1FC2, 0x1FC5, 0x1FC6, 0x1FCD, 0x1FD0, 0x1FD4, 0x1FD6, 0x1FDC,
  0x1FE0, 0x1FED, 0x1FF2, 0x1FF5, 0x1FF6, 0x1FFD, 0x2071, 0x2072, 0x207F, 0x2080, 0x2090, 0x209D,
  0x2102, 0x2103, 0x2107, 0x2108, 0x210A, 0x2114, 0x2115, 0x2116, 0x2119, 0x211E, 0x2124, 0x2125,
  0x2126, 0x2127, 0x2128, 0x2129, 0x212A, 0x212E, 0x212F, 0x2135, 0x2139, 0x213A, 0x213C, 0x2140,
  0x2145, 0x214A, 0x214E, 0x214F, 0x2160, 0x2180, 0x2183, 0x2185, 0x24B6, 0x24EA, 0x2C00, 0x2CE5,
  0x2CEB, 0x2CEF, 0x2CF2, 0x2CF4, 0x2D00, 0x2D26, 0x2D27, 0x2D28, 0x2D2D, 0x2D2E, 0xA640, 0xA66E,
  0xA680, 0xA69E, 0xA722, 0xA788, 0xA78B, 0xA78F, 0xA790, 0xA7DD, 0xA7F1, 0xA7F7, 0xA7F8, 0xA7FB,
  0xAB30, 0xAB5B, 0xAB5C, 0xAB6A, 0xAB70, 0xABC0, 0xFB00, 0xFB07, 0xFB13, 0xFB18, 0xFF21, 0xFF3B,
  0xFF41, 0xFF5B, 0x10400, 0x10450, 0x104B0, 0x104D4, 0x104D8, 0x104FC, 0x10570, 0x1057B, 0x1057C, 0x1058B,
  0x1058C, 0x10593, 0x10594, 0x10596, 0x10597, 0x105A2, 0x105A3, 0x105B2, 0x105B3, 0x105BA, 0x105BB, 0x105BD,
  0x10780, 0x10781, 0x10783, 0x10786, 0x10787, 0x107B1, 0x107B2, 0x107BB, 0x10C80, 0x10CB3, 0x10CC0, 0x10CF3,
  0x10D50, 0x10D66, 0x10D70, 0x10D86, 0x118A0, 0x118E0, 0x16E40, 0x16E80, 0x16EA0, 0x16EB9, 0x16EBB, 0x16ED4,
  0x1D400, 0x1D455, 0x1D456, 0x1D49D, 0x1D49E, 0x1D4A0, 0x1D4A2, 0x1D4A3, 0x1D4A5, 0x1D4A7, 0x1D4A9, 0x1D4AD,
  0x1D4AE, 0x1D4BA, 0x1D4BB, 0x1D4BC, 0x1D4BD, 0x1D4C4, 0x1D4C5, 0x1D506, 0x1D507, 0x1D50B, 0x1D50D, 0x1D515,
  0x1D516, 0x1D51D, 0x1D51E, 0x1D53A, 0x1D53B, 0x1D53F, 0x1D540, 0x1D545, 0x1D546, 0x1D547, 0x1D54A, 0x1D551,
  0x1D552, 0x1D6A6, 0x1D6A8, 0x1D6C1, 0x1D6C2, 0x1D6DB, 0x1D6DC, 0x1D6FB, 0x1D6FC, 0x1D715, 0x1D716, 0x1D735,
  0x1D736, 0x1D74F, 0x1D750, 0x1D76F, 0x1D770, 0x1D789, 0x1D78A, 0x1D7A9, 0x1D7AA, 0x1D7C3, 0x1D7C4, 0x1D7CC,
  0x1DF00, 0x1DF0A, 0x1DF0B, 0x1DF1F, 0x1DF25, 0x1DF2B, 0x1E030, 0x1E06E, 0x1E900, 0x1E944, 0x1F130, 0x1F14A,
  0x1F150, 0x1F16A, 0x1F170, 0x1F18A]⟩

end Draftsman.Text
