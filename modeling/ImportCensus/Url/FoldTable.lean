/-
ImportCensus/Url/FoldTable.lean

The characters beyond ASCII that are replaced in a domain name: capitals by small letters, styled, wide
and raised forms by the plain one, and ligatures, fractions and words in a square by their letters
(Unicode 17.0).
-/

namespace ImportCensus.Url

/-- Code points from `first` to `last`, `stride` apart, that are replaced by those from `image` on. -/
structure FoldRun where
  first : Nat
  last : Nat
  stride : Nat
  image : Nat

/-- The runs of replaced characters in ascending order of their first ones. -/
def foldRuns : List FoldRun :=
  [⟨0xB2, 0xB3, 1, 0x32⟩, ⟨0xC0, 0xD6, 1, 0xE0⟩, ⟨0xD8, 0xDE, 1, 0xF8⟩, ⟨0x100, 0x12E, 2, 0x101⟩,
   ⟨0x134, 0x136, 2, 0x135⟩, ⟨0x139, 0x13D, 2, 0x13A⟩, ⟨0x141, 0x147, 2, 0x142⟩,
   ⟨0x14A, 0x176, 2, 0x14B⟩, ⟨0x179, 0x17D, 2, 0x17A⟩, ⟨0x182, 0x184, 2, 0x183⟩,
   ⟨0x189, 0x18A, 1, 0x256⟩, ⟨0x1A0, 0x1A4, 2, 0x1A1⟩, ⟨0x1B1, 0x1B2, 1, 0x28A⟩,
   ⟨0x1B3, 0x1B5, 2, 0x1B4⟩, ⟨0x1CD, 0x1DB, 2, 0x1CE⟩, ⟨0x1DE, 0x1EE, 2, 0x1DF⟩,
   ⟨0x1F8, 0x21E, 2, 0x1F9⟩, ⟨0x222, 0x232, 2, 0x223⟩, ⟨0x246, 0x24E, 2, 0x247⟩,
   ⟨0x2B0, 0x2B2, 2, 0x68⟩, ⟨0x340, 0x341, 1, 0x300⟩, ⟨0x370, 0x372, 2, 0x371⟩,
   ⟨0x388, 0x38A, 1, 0x3AD⟩, ⟨0x38E, 0x38F, 1, 0x3CD⟩, ⟨0x391, 0x3A1, 1, 0x3B1⟩,
   ⟨0x3A3, 0x3AB, 1, 0x3C3⟩, ⟨0x3D8, 0x3EE, 2, 0x3D9⟩, ⟨0x3FD, 0x3FF, 1, 0x37B⟩,
   ⟨0x400, 0x40F, 1, 0x450⟩, ⟨0x410, 0x42F, 1, 0x430⟩, ⟨0x460, 0x480, 2, 0x461⟩,
   ⟨0x48A, 0x4BE, 2, 0x48B⟩, ⟨0x4C1, 0x4CD, 2, 0x4C2⟩, ⟨0x4D0, 0x52E, 2, 0x4D1⟩,
   ⟨0x531, 0x556, 1, 0x561⟩, ⟨0x10A0, 0x10C5, 1, 0x2D00⟩, ⟨0x13F8, 0x13FD, 1, 0x13F0⟩,
   ⟨0x1C83, 0x1C84, 1, 0x441⟩, ⟨0x1C90, 0x1CBA, 1, 0x10D0⟩, ⟨0x1CBD, 0x1CBF, 1, 0x10FD⟩,
   ⟨0x1D2E, 0x1D30, 2, 0x62⟩, ⟨0x1D31, 0x1D39, 2, 0x65⟩, ⟨0x1D34, 0x1D3A, 2, 0x68⟩,
   ⟨0x1D40, 0x1D41, 1, 0x74⟩, ⟨0x1D44, 0x1D45, 1, 0x250⟩, ⟨0x1D48, 0x1D49, 1, 0x64⟩,
   ⟨0x1D4B, 0x1D4C, 1, 0x25B⟩, ⟨0x1D50, 0x1D52, 2, 0x6D⟩, ⟨0x1D54, 0x1D55, 1, 0x1D16⟩,
   ⟨0x1D57, 0x1D58, 1, 0x74⟩, ⟨0x1D5D, 0x1D5F, 1, 0x3B2⟩, ⟨0x1D60, 0x1D61, 1, 0x3C6⟩,
   ⟨0x1D64, 0x1D65, 1, 0x75⟩, ⟨0x1D66, 0x1D67, 1, 0x3B2⟩, ⟨0x1D69, 0x1D6A, 1, 0x3C6⟩,
   ⟨0x1DA4, 0x1DA6, 1, 0x268⟩, ⟨0x1DAE, 0x1DB1, 1, 0x272⟩, ⟨0x1DB3, 0x1DB4, 1, 0x282⟩,
   ⟨0x1DB6, 0x1DB7, 1, 0x289⟩, ⟨0x1DB9, 0x1DBA, 1, 0x28B⟩, ⟨0x1DBC, 0x1DBE, 1, 0x290⟩,
   ⟨0x1E00, 0x1E94, 2, 0x1E01⟩, ⟨0x1EA0, 0x1EFE, 2, 0x1EA1⟩, ⟨0x1F08, 0x1F0F, 1, 0x1F00⟩,
   ⟨0x1F18, 0x1F1D, 1, 0x1F10⟩, ⟨0x1F28, 0x1F2F, 1, 0x1F20⟩, ⟨0x1F38, 0x1F3F, 1, 0x1F30⟩,
   ⟨0x1F48, 0x1F4D, 1, 0x1F40⟩, ⟨0x1F59, 0x1F5F, 2, 0x1F51⟩, ⟨0x1F68, 0x1F6F, 1, 0x1F60⟩,
   ⟨0x1FB8, 0x1FB9, 1, 0x1FB0⟩, ⟨0x1FC8, 0x1FCA, 2, 0x1F72⟩, ⟨0x1FD8, 0x1FD9, 1, 0x1FD0⟩,
   ⟨0x1FE8, 0x1FE9, 1, 0x1FE0⟩, ⟨0x1FF9, 0x1FFB, 2, 0x3CC⟩, ⟨0x2074, 0x2079, 1, 0x34⟩,
   ⟨0x207D, 0x207E, 1, 0x28⟩, ⟨0x2080, 0x2089, 1, 0x30⟩, ⟨0x208D, 0x208E, 1, 0x28⟩,
   ⟨0x2096, 0x2099, 1, 0x6B⟩, ⟨0x209B, 0x209C, 1, 0x73⟩, ⟨0x210A, 0x210B, 1, 0x67⟩,
   ⟨0x2113, 0x2115, 2, 0x6C⟩, ⟨0x2119, 0x211B, 1, 0x70⟩, ⟨0x212C, 0x212D, 1, 0x62⟩,
   ⟨0x2130, 0x2131, 1, 0x65⟩, ⟨0x2135, 0x2138, 1, 0x5D0⟩, ⟨0x2146, 0x2147, 1, 0x64⟩,
   ⟨0x2148, 0x2149, 1, 0x69⟩, ⟨0x216D, 0x216E, 1, 0x63⟩, ⟨0x217D, 0x217E, 1, 0x63⟩,
   ⟨0x2329, 0x232A, 1, 0x3008⟩, ⟨0x2460, 0x2468, 1, 0x31⟩, ⟨0x24B6, 0x24CF, 1, 0x61⟩,
   ⟨0x24D0, 0x24E9, 1, 0x61⟩, ⟨0x2C00, 0x2C2F, 1, 0x2C30⟩, ⟨0x2C67, 0x2C6B, 2, 0x2C68⟩,
   ⟨0x2C7E, 0x2C7F, 1, 0x23F⟩, ⟨0x2C80, 0x2CE2, 2, 0x2C81⟩, ⟨0x2CEB, 0x2CED, 2, 0x2CEC⟩,
   ⟨0x3039, 0x303A, 1, 0x5344⟩, ⟨0x3131, 0x3132, 1, 0x1100⟩, ⟨0x3133, 0x3135, 2, 0x11AA⟩,
   ⟨0x3137, 0x3139, 1, 0x1103⟩, ⟨0x313A, 0x313F, 1, 0x11B0⟩, ⟨0x3141, 0x3143, 1, 0x1106⟩,
   ⟨0x3145, 0x314E, 1, 0x1109⟩, ⟨0x314F, 0x3163, 1, 0x1161⟩, ⟨0x3165, 0x3166, 1, 0x1114⟩,
   ⟨0x3167, 0x3168, 1, 0x11C7⟩, ⟨0x3171, 0x3172, 1, 0x111D⟩, ⟨0x3174, 0x3175, 1, 0x1122⟩,
   ⟨0x3178, 0x317C, 1, 0x112B⟩, ⟨0x3182, 0x3183, 1, 0x11F1⟩, ⟨0x3184, 0x3186, 1, 0x1157⟩,
   ⟨0x3187, 0x3188, 1, 0x1184⟩, ⟨0x318A, 0x318B, 1, 0x1191⟩, ⟨0x3261, 0x3262, 1, 0x1102⟩,
   ⟨0x3263, 0x3265, 1, 0x1105⟩, ⟨0x3267, 0x3268, 1, 0x110B⟩, ⟨0x3269, 0x326D, 1, 0x110E⟩,
   ⟨0x32D4, 0x32D5, 1, 0x30AA⟩, ⟨0x32E4, 0x32E9, 1, 0x30CA⟩, ⟨0x32EE, 0x32F2, 1, 0x30DE⟩,
   ⟨0x32F5, 0x32FA, 1, 0x30E8⟩, ⟨0x32FB, 0x32FE, 1, 0x30EF⟩, ⟨0xA640, 0xA66C, 2, 0xA641⟩,
   ⟨0xA680, 0xA69A, 2, 0xA681⟩, ⟨0xA722, 0xA72E, 2, 0xA723⟩, ⟨0xA732, 0xA76E, 2, 0xA733⟩,
   ⟨0xA779, 0xA77B, 2, 0xA77A⟩, ⟨0xA77E, 0xA786, 2, 0xA77F⟩, ⟨0xA790, 0xA792, 2, 0xA791⟩,
   ⟨0xA796, 0xA7A8, 2, 0xA797⟩, ⟨0xA7B4, 0xA7C2, 2, 0xA7B5⟩, ⟨0xA7C7, 0xA7C9, 2, 0xA7C8⟩,
   ⟨0xA7CC, 0xA7DA, 2, 0xA7CD⟩, ⟨0xAB70, 0xABBF, 1, 0x13A0⟩, ⟨0xFA52, 0xFA53, 1, 0x798D⟩,
   ⟨0xFB22, 0xFB23, 1, 0x5D3⟩, ⟨0xFB24, 0xFB26, 1, 0x5DB⟩, ⟨0xFB58, 0xFB5A, 2, 0x67E⟩,
   ⟨0xFB59, 0xFB5B, 2, 0x67E⟩, ⟨0xFB6C, 0xFB6E, 2, 0x6A4⟩, ⟨0xFB6D, 0xFB6F, 2, 0x6A4⟩,
   ⟨0xFB7D, 0xFB7E, 1, 0x686⟩, ⟨0xFB84, 0xFB86, 2, 0x68C⟩, ⟨0xFB85, 0xFB87, 2, 0x68C⟩,
   ⟨0xFB9F, 0xFBA0, 1, 0x6BA⟩, ⟨0xFBA5, 0xFBA6, 1, 0x6C0⟩, ⟨0xFBAF, 0xFBB0, 1, 0x6D2⟩,
   ⟨0xFBD9, 0xFBDB, 2, 0x6C6⟩, ⟨0xFBDA, 0xFBDC, 2, 0x6C6⟩, ⟨0xFE17, 0xFE18, 1, 0x3016⟩,
   ⟨0xFE35, 0xFE36, 1, 0x28⟩, ⟨0xFE39, 0xFE3A, 1, 0x3014⟩, ⟨0xFE3B, 0xFE3C, 1, 0x3010⟩,
   ⟨0xFE3D, 0xFE3E, 1, 0x300A⟩, ⟨0xFE3F, 0xFE40, 1, 0x3008⟩, ⟨0xFE41, 0xFE44, 1, 0x300C⟩,
   ⟨0xFE59, 0xFE5A, 1, 0x28⟩, ⟨0xFE5D, 0xFE5E, 1, 0x3014⟩, ⟨0xFE61, 0xFE62, 1, 0x2A⟩,
   ⟨0xFE80, 0xFE81, 1, 0x621⟩, ⟨0xFE82, 0xFE83, 1, 0x622⟩, ⟨0xFE84, 0xFE85, 1, 0x623⟩,
   ⟨0xFE86, 0xFE87, 1, 0x624⟩, ⟨0xFE88, 0xFE89, 1, 0x625⟩, ⟨0xFE8C, 0xFE8D, 1, 0x626⟩,
   ⟨0xFE8E, 0xFE8F, 1, 0x627⟩, ⟨0xFE92, 0xFE93, 1, 0x628⟩, ⟨0xFE94, 0xFE95, 1, 0x629⟩,
   ⟨0xFE98, 0xFE99, 1, 0x62A⟩, ⟨0xFE9C, 0xFE9D, 1, 0x62B⟩, ⟨0xFEA0, 0xFEA1, 1, 0x62C⟩,
   ⟨0xFEA4, 0xFEA5, 1, 0x62D⟩, ⟨0xFEA8, 0xFEA9, 1, 0x62E⟩, ⟨0xFEAA, 0xFEAB, 1, 0x62F⟩,
   ⟨0xFEAC, 0xFEAD, 1, 0x630⟩, ⟨0xFEAE, 0xFEAF, 1, 0x631⟩, ⟨0xFEB0, 0xFEB1, 1, 0x632⟩,
   ⟨0xFEB4, 0xFEB5, 1, 0x633⟩, ⟨0xFEB8, 0xFEB9, 1, 0x634⟩, ⟨0xFEBC, 0xFEBD, 1, 0x635⟩,
   ⟨0xFEC0, 0xFEC1, 1, 0x636⟩, ⟨0xFEC4, 0xFEC5, 1, 0x637⟩, ⟨0xFEC8, 0xFEC9, 1, 0x638⟩,
   ⟨0xFECC, 0xFECD, 1, 0x639⟩, ⟨0xFED4, 0xFED5, 1, 0x641⟩, ⟨0xFED8, 0xFED9, 1, 0x642⟩,
   ⟨0xFEDC, 0xFEDD, 1, 0x643⟩, ⟨0xFEE0, 0xFEE1, 1, 0x644⟩, ⟨0xFEE4, 0xFEE5, 1, 0x645⟩,
   ⟨0xFEE8, 0xFEE9, 1, 0x646⟩, ⟨0xFEEC, 0xFEED, 1, 0x647⟩, ⟨0xFEEE, 0xFEEF, 1, 0x648⟩,
   ⟨0xFEF0, 0xFEF1, 1, 0x649⟩, ⟨0xFF01, 0xFF02, 1, 0x21⟩, ⟨0xFF04, 0xFF18, 2, 0x24⟩,
   ⟨0xFF07, 0xFF0D, 2, 0x27⟩, ⟨0xFF11, 0xFF1D, 2, 0x31⟩, ⟨0xFF21, 0xFF3A, 1, 0x61⟩,
   ⟨0xFF3F, 0xFF5B, 1, 0x5F⟩, ⟨0xFF5D, 0xFF5E, 1, 0x7D⟩, ⟨0xFF5F, 0xFF60, 1, 0x2985⟩,
   ⟨0xFF62, 0xFF63, 1, 0x300C⟩, ⟨0xFF75, 0xFF76, 1, 0x30AA⟩, ⟨0xFF85, 0xFF8A, 1, 0x30CA⟩,
   ⟨0xFF8F, 0xFF93, 1, 0x30DE⟩, ⟨0xFF96, 0xFF9B, 1, 0x30E8⟩, ⟨0xFF9E, 0xFF9F, 1, 0x3099⟩,
   ⟨0xFFA1, 0xFFA2, 1, 0x1100⟩, ⟨0xFFA3, 0xFFA5, 2, 0x11AA⟩, ⟨0xFFA7, 0xFFA9, 1, 0x1103⟩,
   ⟨0xFFAA, 0xFFAF, 1, 0x11B0⟩, ⟨0xFFB1, 0xFFB3, 1, 0x1106⟩, ⟨0xFFB5, 0xFFBE, 1, 0x1109⟩,
   ⟨0xFFC2, 0xFFC7, 1, 0x1161⟩, ⟨0xFFCA, 0xFFCF, 1, 0x1167⟩, ⟨0xFFD2, 0xFFD7, 1, 0x116D⟩,
   ⟨0xFFDA, 0xFFDC, 1, 0x1173⟩, ⟨0xFFE0, 0xFFE1, 1, 0xA2⟩, ⟨0xFFE9, 0xFFEC, 1, 0x2190⟩,
   ⟨0x10400, 0x10427, 1, 0x10428⟩, ⟨0x104B0, 0x104D3, 1, 0x104D8⟩,
   ⟨0x10570, 0x10594, 2, 0x10597⟩, ⟨0x10571, 0x10579, 2, 0x10598⟩,
   ⟨0x1057D, 0x10589, 2, 0x105A4⟩, ⟨0x1058D, 0x10591, 2, 0x105B4⟩, ⟨0x10781, 0x10782, 1, 0x2D0⟩,
   ⟨0x10787, 0x10789, 2, 0x2A3⟩, ⟨0x1078B, 0x1078C, 1, 0x256⟩, ⟨0x10799, 0x1079A, 1, 0x2AA⟩,
   ⟨0x107A3, 0x107A4, 1, 0x276⟩, ⟨0x107A8, 0x107A9, 1, 0x27D⟩, ⟨0x107B3, 0x107B4, 1, 0x2A1⟩,
   ⟨0x107B6, 0x107B8, 1, 0x1C0⟩, ⟨0x10C80, 0x10CB2, 1, 0x10CC0⟩, ⟨0x10D50, 0x10D65, 1, 0x10D70⟩,
   ⟨0x118A0, 0x118BF, 1, 0x118C0⟩, ⟨0x16E40, 0x16E5F, 1, 0x16E60⟩,
   ⟨0x16EA0, 0x16EB8, 1, 0x16EBB⟩, ⟨0x1CCD6, 0x1CCEF, 1, 0x61⟩, ⟨0x1CCF0, 0x1CCF9, 1, 0x30⟩,
   ⟨0x1D400, 0x1D419, 1, 0x61⟩, ⟨0x1D41A, 0x1D433, 1, 0x61⟩, ⟨0x1D434, 0x1D44D, 1, 0x61⟩,
   ⟨0x1D44E, 0x1D466, 2, 0x61⟩, ⟨0x1D44F, 0x1D453, 2, 0x62⟩, ⟨0x1D457, 0x1D467, 2, 0x6A⟩,
   ⟨0x1D468, 0x1D481, 1, 0x61⟩, ⟨0x1D482, 0x1D49B, 1, 0x61⟩, ⟨0x1D49C, 0x1D49E, 2, 0x61⟩,
   ⟨0x1D4A5, 0x1D4A6, 1, 0x6A⟩, ⟨0x1D4A9, 0x1D4AC, 1, 0x6E⟩, ⟨0x1D4AE, 0x1D4B5, 1, 0x73⟩,
   ⟨0x1D4B6, 0x1D4B9, 1, 0x61⟩, ⟨0x1D4BB, 0x1D4CF, 2, 0x66⟩, ⟨0x1D4BE, 0x1D4C2, 2, 0x69⟩,
   ⟨0x1D4C6, 0x1D4CE, 2, 0x71⟩, ⟨0x1D4D0, 0x1D4E9, 1, 0x61⟩, ⟨0x1D4EA, 0x1D503, 1, 0x61⟩,
   ⟨0x1D504, 0x1D505, 1, 0x61⟩, ⟨0x1D507, 0x1D50A, 1, 0x64⟩, ⟨0x1D50D, 0x1D514, 1, 0x6A⟩,
   ⟨0x1D516, 0x1D51C, 1, 0x73⟩, ⟨0x1D51E, 0x1D537, 1, 0x61⟩, ⟨0x1D538, 0x1D539, 1, 0x61⟩,
   ⟨0x1D53B, 0x1D53E, 1, 0x64⟩, ⟨0x1D540, 0x1D544, 1, 0x69⟩, ⟨0x1D54A, 0x1D550, 1, 0x73⟩,
   ⟨0x1D552, 0x1D56B, 1, 0x61⟩, ⟨0x1D56C, 0x1D585, 1, 0x61⟩, ⟨0x1D586, 0x1D59F, 1, 0x61⟩,
   ⟨0x1D5A0, 0x1D5B9, 1, 0x61⟩, ⟨0x1D5BA, 0x1D5D3, 1, 0x61⟩, ⟨0x1D5D4, 0x1D5ED, 1, 0x61⟩,
   ⟨0x1D5EE, 0x1D607, 1, 0x61⟩, ⟨0x1D608, 0x1D621, 1, 0x61⟩, ⟨0x1D622, 0x1D63B, 1, 0x61⟩,
   ⟨0x1D63C, 0x1D655, 1, 0x61⟩, ⟨0x1D656, 0x1D66F, 1, 0x61⟩, ⟨0x1D670, 0x1D689, 1, 0x61⟩,
   ⟨0x1D68A, 0x1D6A3, 1, 0x61⟩, ⟨0x1D6A8, 0x1D6B8, 1, 0x3B1⟩, ⟨0x1D6BA, 0x1D6C0, 1, 0x3C3⟩,
   ⟨0x1D6C2, 0x1D6D2, 1, 0x3B1⟩, ⟨0x1D6D4, 0x1D6DA, 1, 0x3C3⟩, ⟨0x1D6E2, 0x1D6F2, 1, 0x3B1⟩,
   ⟨0x1D6F4, 0x1D6FA, 1, 0x3C3⟩, ⟨0x1D6FC, 0x1D70C, 1, 0x3B1⟩, ⟨0x1D70E, 0x1D714, 1, 0x3C3⟩,
   ⟨0x1D71C, 0x1D72C, 1, 0x3B1⟩, ⟨0x1D72E, 0x1D734, 1, 0x3C3⟩, ⟨0x1D736, 0x1D746, 1, 0x3B1⟩,
   ⟨0x1D748, 0x1D74E, 1, 0x3C3⟩, ⟨0x1D756, 0x1D766, 1, 0x3B1⟩, ⟨0x1D768, 0x1D76E, 1, 0x3C3⟩,
   ⟨0x1D770, 0x1D780, 1, 0x3B1⟩, ⟨0x1D782, 0x1D788, 1, 0x3C3⟩, ⟨0x1D790, 0x1D7A0, 1, 0x3B1⟩,
   ⟨0x1D7A2, 0x1D7A8, 1, 0x3C3⟩, ⟨0x1D7AA, 0x1D7BA, 1, 0x3B1⟩, ⟨0x1D7BC, 0x1D7C2, 1, 0x3C3⟩,
   ⟨0x1D7CE, 0x1D7D7, 1, 0x30⟩, ⟨0x1D7D8, 0x1D7E1, 1, 0x30⟩, ⟨0x1D7E2, 0x1D7EB, 1, 0x30⟩,
   ⟨0x1D7EC, 0x1D7F5, 1, 0x30⟩, ⟨0x1D7F6, 0x1D7FF, 1, 0x30⟩, ⟨0x1E030, 0x1E038, 1, 0x430⟩,
   ⟨0x1E039, 0x1E03B, 1, 0x43A⟩, ⟨0x1E03C, 0x1E046, 1, 0x43E⟩, ⟨0x1E048, 0x1E049, 1, 0x44D⟩,
   ⟨0x1E051, 0x1E059, 1, 0x430⟩, ⟨0x1E05A, 0x1E05B, 1, 0x43A⟩, ⟨0x1E05C, 0x1E05D, 1, 0x43E⟩,
   ⟨0x1E05F, 0x1E064, 1, 0x443⟩, ⟨0x1E065, 0x1E066, 1, 0x44A⟩, ⟨0x1E900, 0x1E921, 1, 0x1E922⟩,
   ⟨0x1EE00, 0x1EE01, 1, 0x627⟩, ⟨0x1EE0A, 0x1EE0D, 1, 0x643⟩, ⟨0x1EE15, 0x1EE16, 1, 0x62A⟩,
   ⟨0x1EE2A, 0x1EE2D, 1, 0x643⟩, ⟨0x1EE35, 0x1EE36, 1, 0x62A⟩, ⟨0x1EE4B, 0x1EE4D, 2, 0x644⟩,
   ⟨0x1EE6A, 0x1EE6C, 2, 0x643⟩, ⟨0x1EE75, 0x1EE76, 1, 0x62A⟩, ⟨0x1EE80, 0x1EE81, 1, 0x627⟩,
   ⟨0x1EE84, 0x1EE85, 1, 0x647⟩, ⟨0x1EE8B, 0x1EE8D, 1, 0x644⟩, ⟨0x1EE95, 0x1EE96, 1, 0x62A⟩,
   ⟨0x1EEAB, 0x1EEAD, 1, 0x644⟩, ⟨0x1EEB5, 0x1EEB6, 1, 0x62A⟩, ⟨0x1F130, 0x1F149, 1, 0x61⟩,
   ⟨0x1FBF0, 0x1FBF9, 1, 0x30⟩, ⟨0x2F829, 0x2F82A, 1, 0x5305⟩, ⟨0x2F830, 0x2F832, 2, 0x537D⟩,
   ⟨0x2F87B, 0x2F87D, 2, 0x21DE4⟩, ⟨0x2F881, 0x2F882, 1, 0x5DE1⟩, ⟨0x2F8F5, 0x2F8F6, 1, 0x6BBA⟩,
   ⟨0x2F945, 0x2F946, 1, 0x771E⟩, ⟨0x2F9E8, 0x2F9E9, 1, 0x92D7⟩]

/-- The other replaced characters, each with what takes its place behind it, with a blank between each
two. -/
def foldLines : List String :=
  ["\u00AAa \u00B5\u03BC \u00B91 \u00BAo \u00BC1\u20444 \u00BD1\u20442 \u00BE3\u20444",
   "\u0130i\u0307 \u0132ij \u0133ij \u013Fl\u00B7 \u0140l\u00B7 \u0149\u02BCn \u0178\u00FF \u017Fs",
   "\u0181\u0253 \u0186\u0254 \u0187\u0188 \u018B\u018C \u018E\u01DD \u018F\u0259 \u0190\u025B",
   "\u0191\u0192 \u0193\u0260 \u0194\u0263 \u0196\u0269 \u0197\u0268 \u0198\u0199 \u019C\u026F",
   "\u019D\u0272 \u019F\u0275 \u01A6\u0280 \u01A7\u01A8 \u01A9\u0283 \u01AC\u01AD \u01AE\u0288",
   "\u01AF\u01B0 \u01B7\u0292 \u01B8\u01B9 \u01BC\u01BD \u01C4d\u017E \u01C5d\u017E \u01C6d\u017E",
   "\u01C7lj \u01C8lj \u01C9lj \u01CAnj \u01CBnj \u01CCnj \u01F1dz \u01F2dz \u01F3dz \u01F4\u01F5",
   "\u01F6\u0195 \u01F7\u01BF \u0220\u019E \u023A\u2C65 \u023B\u023C \u023D\u019A \u023E\u2C66",
   "\u0241\u0242 \u0243\u0180 \u0244\u0289 \u0245\u028C \u02B1\u0266 \u02B3r \u02B4\u0279",
   "\u02B5\u027B \u02B6\u0281 \u02B7w \u02B8y \u02E0\u0263 \u02E1l \u02E2s \u02E3x \u02E4\u0295",
   "\u0343\u0313 \u0344\u0308\u0301 \u0345\u03B9 \u0374\u02B9 \u0376\u0377 \u037E; \u037F\u03F3",
   "\u0386\u03AC \u0387\u00B7 \u038C\u03CC \u03CF\u03D7 \u03D0\u03B2 \u03D1\u03B8 \u03D2\u03C5",
   "\u03D3\u03CD \u03D4\u03CB \u03D5\u03C6 \u03D6\u03C0 \u03F0\u03BA \u03F1\u03C1 \u03F2\u03C3",
   "\u03F4\u03B8 \u03F5\u03B5 \u03F7\u03F8 \u03F9\u03C3 \u03FA\u03FB \u04C0\u04CF",
   "\u0587\u0565\u0582 \u0675\u0627\u0674 \u0676\u0648\u0674 \u0677\u06C7\u0674 \u0678\u064A\u0674",
   "\u0958\u0915\u093C \u0959\u0916\u093C \u095A\u0917\u093C \u095B\u091C\u093C \u095C\u0921\u093C",
   "\u095D\u0922\u093C \u095E\u092B\u093C \u095F\u092F\u093C \u09DC\u09A1\u09BC \u09DD\u09A2\u09BC",
   "\u09DF\u09AF\u09BC \u0A33\u0A32\u0A3C \u0A36\u0A38\u0A3C \u0A59\u0A16\u0A3C \u0A5A\u0A17\u0A3C",
   "\u0A5B\u0A1C\u0A3C \u0A5E\u0A2B\u0A3C \u0B5C\u0B21\u0B3C \u0B5D\u0B22\u0B3C \u0E33\u0E4D\u0E32",
   "\u0EB3\u0ECD\u0EB2 \u0EDC\u0EAB\u0E99 \u0EDD\u0EAB\u0EA1 \u0F0C\u0F0B \u0F43\u0F42\u0FB7",
   "\u0F4D\u0F4C\u0FB7 \u0F52\u0F51\u0FB7 \u0F57\u0F56\u0FB7 \u0F5C\u0F5B\u0FB7 \u0F69\u0F40\u0FB5",
   "\u0F73\u0F71\u0F72 \u0F75\u0F71\u0F74 \u0F76\u0FB2\u0F80 \u0F77\u0FB2\u0F71\u0F80",
   "\u0F78\u0FB3\u0F80 \u0F79\u0FB3\u0F71\u0F80 \u0F81\u0F71\u0F80 \u0F93\u0F92\u0FB7",
   "\u0F9D\u0F9C\u0FB7 \u0FA2\u0FA1\u0FB7 \u0FA7\u0FA6\u0FB7 \u0FAC\u0FAB\u0FB7 \u0FB9\u0F90\u0FB5",
   "\u10C7\u2D27 \u10CD\u2D2D \u10FC\u10DC \u1C80\u0432 \u1C81\u0434 \u1C82\u043E \u1C85\u0442",
   "\u1C86\u044A \u1C87\u0463 \u1C88\uA64B \u1C89\u1C8A \u1D2Ca \u1D2D\u00E6 \u1D32\u01DD \u1D3Co",
   "\u1D3D\u0223 \u1D3Ep \u1D3Fr \u1D42w \u1D43a \u1D46\u1D02 \u1D47b \u1D4A\u0259 \u1D4Dg \u1D4Fk",
   "\u1D51\u014B \u1D53\u0254 \u1D56p \u1D59\u1D1D \u1D5A\u026F \u1D5Bv \u1D5C\u1D25 \u1D62i",
   "\u1D63r \u1D68\u03C1 \u1D78\u043D \u1D9B\u0252 \u1D9Cc \u1D9D\u0255 \u1D9E\u00F0 \u1D9F\u025C",
   "\u1DA0f \u1DA1\u025F \u1DA2\u0261 \u1DA3\u0265 \u1DA7\u1D7B \u1DA8\u029D \u1DA9\u026D",
   "\u1DAA\u1D85 \u1DAB\u029F \u1DAC\u0271 \u1DAD\u0270 \u1DB2\u0278 \u1DB5\u01AB \u1DB8\u1D1C",
   "\u1DBBz \u1DBF\u03B8 \u1E9Aa\u02BE \u1E9B\u1E61 \u1E9E\u00DF \u1F71\u03AC \u1F73\u03AD",
   "\u1F75\u03AE \u1F77\u03AF \u1F79\u03CC \u1F7B\u03CD \u1F7D\u03CE \u1F80\u1F00\u03B9",
   "\u1F81\u1F01\u03B9 \u1F82\u1F02\u03B9 \u1F83\u1F03\u03B9 \u1F84\u1F04\u03B9 \u1F85\u1F05\u03B9",
   "\u1F86\u1F06\u03B9 \u1F87\u1F07\u03B9 \u1F88\u1F00\u03B9 \u1F89\u1F01\u03B9 \u1F8A\u1F02\u03B9",
   "\u1F8B\u1F03\u03B9 \u1F8C\u1F04\u03B9 \u1F8D\u1F05\u03B9 \u1F8E\u1F06\u03B9 \u1F8F\u1F07\u03B9",
   "\u1F90\u1F20\u03B9 \u1F91\u1F21\u03B9 \u1F92\u1F22\u03B9 \u1F93\u1F23\u03B9 \u1F94\u1F24\u03B9",
   "\u1F95\u1F25\u03B9 \u1F96\u1F26\u03B9 \u1F97\u1F27\u03B9 \u1F98\u1F20\u03B9 \u1F99\u1F21\u03B9",
   "\u1F9A\u1F22\u03B9 \u1F9B\u1F23\u03B9 \u1F9C\u1F24\u03B9 \u1F9D\u1F25\u03B9 \u1F9E\u1F26\u03B9",
   "\u1F9F\u1F27\u03B9 \u1FA0\u1F60\u03B9 \u1FA1\u1F61\u03B9 \u1FA2\u1F62\u03B9 \u1FA3\u1F63\u03B9",
   "\u1FA4\u1F64\u03B9 \u1FA5\u1F65\u03B9 \u1FA6\u1F66\u03B9 \u1FA7\u1F67\u03B9 \u1FA8\u1F60\u03B9",
   "\u1FA9\u1F61\u03B9 \u1FAA\u1F62\u03B9 \u1FAB\u1F63\u03B9 \u1FAC\u1F64\u03B9 \u1FAD\u1F65\u03B9",
   "\u1FAE\u1F66\u03B9 \u1FAF\u1F67\u03B9 \u1FB2\u1F70\u03B9 \u1FB3\u03B1\u03B9 \u1FB4\u03AC\u03B9",
   "\u1FB7\u1FB6\u03B9 \u1FBA\u1F70 \u1FBB\u03AC \u1FBC\u03B1\u03B9 \u1FBE\u03B9",
   "\u1FC2\u1F74\u03B9 \u1FC3\u03B7\u03B9 \u1FC4\u03AE\u03B9 \u1FC7\u1FC6\u03B9 \u1FC9\u03AD",
   "\u1FCB\u03AE \u1FCC\u03B7\u03B9 \u1FD3\u0390 \u1FDA\u1F76 \u1FDB\u03AF \u1FE3\u03B0",
   "\u1FEA\u1F7A \u1FEB\u03CD \u1FEC\u1FE5 \u1FEF` \u1FF2\u1F7C\u03B9 \u1FF3\u03C9\u03B9",
   "\u1FF4\u03CE\u03B9 \u1FF7\u1FF6\u03B9 \u1FF8\u1F78 \u1FFA\u1F7C \u1FFC\u03C9\u03B9",
   "\u2011\u2010 \u2033\u2032\u2032 \u2034\u2032\u2032\u2032 \u2036\u2035\u2035",
   "\u2037\u2035\u2035\u2035 \u203C!! \u2057\u2032\u2032\u2032\u2032 \u20700 \u2071i \u207A+",
   "\u207B\u2212 \u207C= \u207Fn \u208A+ \u208B\u2212 \u208C= \u2090a \u2091e \u2092o \u2093x",
   "\u2094\u0259 \u2095h \u209Ap \u20A8rs \u2102c \u2103\u00B0c \u2107\u025B \u2109\u00B0f \u210Ch",
   "\u210Dh \u210Eh \u210F\u0127 \u2110i \u2111i \u2112l \u2116no \u211Cr \u211Dr \u2120sm",
   "\u2121tel \u2122tm \u2124z \u2126\u03C9 \u2128z \u212Ak \u212B\u00E5 \u212Fe \u2132\u214E",
   "\u2133m \u2134o \u2139i \u213Bfax \u213C\u03C0 \u213D\u03B3 \u213E\u03B3 \u213F\u03C0",
   "\u2140\u2211 \u2145d \u21501\u20447 \u21511\u20449 \u21521\u204410 \u21531\u20443",
   "\u21542\u20443 \u21551\u20445 \u21562\u20445 \u21573\u20445 \u21584\u20445 \u21591\u20446",
   "\u215A5\u20446 \u215B1\u20448 \u215C3\u20448 \u215D5\u20448 \u215E7\u20448 \u215F1\u2044",
   "\u2160i \u2161ii \u2162iii \u2163iv \u2164v \u2165vi \u2166vii \u2167viii \u2168ix \u2169x",
   "\u216Axi \u216Bxii \u216Cl \u216Fm \u2170i \u2171ii \u2172iii \u2173iv \u2174v \u2175vi",
   "\u2176vii \u2177viii \u2178ix \u2179x \u217Axi \u217Bxii \u217Cl \u217Fm \u2183\u2184",
   "\u21890\u20443 \u222C\u222B\u222B \u222D\u222B\u222B\u222B \u222F\u222E\u222E",
   "\u2230\u222E\u222E\u222E \u246910 \u246A11 \u246B12 \u246C13 \u246D14 \u246E15 \u246F16",
   "\u247017 \u247118 \u247219 \u247320 \u2474(1) \u2475(2) \u2476(3) \u2477(4) \u2478(5)",
   "\u2479(6) \u247A(7) \u247B(8) \u247C(9) \u247D(10) \u247E(11) \u247F(12) \u2480(13) \u2481(14)",
   "\u2482(15) \u2483(16) \u2484(17) \u2485(18) \u2486(19) \u2487(20) \u249C(a) \u249D(b)",
   "\u249E(c) \u249F(d) \u24A0(e) \u24A1(f) \u24A2(g) \u24A3(h) \u24A4(i) \u24A5(j) \u24A6(k)",
   "\u24A7(l) \u24A8(m) \u24A9(n) \u24AA(o) \u24AB(p) \u24AC(q) \u24AD(r) \u24AE(s) \u24AF(t)",
   "\u24B0(u) \u24B1(v) \u24B2(w) \u24B3(x) \u24B4(y) \u24B5(z) \u24EA0",
   "\u2A0C\u222B\u222B\u222B\u222B \u2A75== \u2A76=== \u2ADC\u2ADD\u0338 \u2C60\u2C61 \u2C62\u026B",
   "\u2C63\u1D7D \u2C64\u027D \u2C6D\u0251 \u2C6E\u0271 \u2C6F\u0250 \u2C70\u0252 \u2C72\u2C73",
   "\u2C75\u2C76 \u2C7Cj \u2C7Dv \u2CF2\u2CF3 \u2D6F\u2D61 \u2E9F\u6BCD \u2EF3\u9F9F \u2F00\u4E00",
   "\u2F01\u4E28 \u2F02\u4E36 \u2F03\u4E3F \u2F04\u4E59 \u2F05\u4E85 \u2F06\u4E8C \u2F07\u4EA0",
   "\u2F08\u4EBA \u2F09\u513F \u2F0A\u5165 \u2F0B\u516B \u2F0C\u5182 \u2F0D\u5196 \u2F0E\u51AB",
   "\u2F0F\u51E0 \u2F10\u51F5 \u2F11\u5200 \u2F12\u529B \u2F13\u52F9 \u2F14\u5315 \u2F15\u531A",
   "\u2F16\u5338 \u2F17\u5341 \u2F18\u535C \u2F19\u5369 \u2F1A\u5382 \u2F1B\u53B6 \u2F1C\u53C8",
   "\u2F1D\u53E3 \u2F1E\u56D7 \u2F1F\u571F \u2F20\u58EB \u2F21\u5902 \u2F22\u590A \u2F23\u5915",
   "\u2F24\u5927 \u2F25\u5973 \u2F26\u5B50 \u2F27\u5B80 \u2F28\u5BF8 \u2F29\u5C0F \u2F2A\u5C22",
   "\u2F2B\u5C38 \u2F2C\u5C6E \u2F2D\u5C71 \u2F2E\u5DDB \u2F2F\u5DE5 \u2F30\u5DF1 \u2F31\u5DFE",
   "\u2F32\u5E72 \u2F33\u5E7A \u2F34\u5E7F \u2F35\u5EF4 \u2F36\u5EFE \u2F37\u5F0B \u2F38\u5F13",
   "\u2F39\u5F50 \u2F3A\u5F61 \u2F3B\u5F73 \u2F3C\u5FC3 \u2F3D\u6208 \u2F3E\u6236 \u2F3F\u624B",
   "\u2F40\u652F \u2F41\u6534 \u2F42\u6587 \u2F43\u6597 \u2F44\u65A4 \u2F45\u65B9 \u2F46\u65E0",
   "\u2F47\u65E5 \u2F48\u66F0 \u2F49\u6708 \u2F4A\u6728 \u2F4B\u6B20 \u2F4C\u6B62 \u2F4D\u6B79",
   "\u2F4E\u6BB3 \u2F4F\u6BCB \u2F50\u6BD4 \u2F51\u6BDB \u2F52\u6C0F \u2F53\u6C14 \u2F54\u6C34",
   "\u2F55\u706B \u2F56\u722A \u2F57\u7236 \u2F58\u723B \u2F59\u723F \u2F5A\u7247 \u2F5B\u7259",
   "\u2F5C\u725B \u2F5D\u72AC \u2F5E\u7384 \u2F5F\u7389 \u2F60\u74DC \u2F61\u74E6 \u2F62\u7518",
   "\u2F63\u751F \u2F64\u7528 \u2F65\u7530 \u2F66\u758B \u2F67\u7592 \u2F68\u7676 \u2F69\u767D",
   "\u2F6A\u76AE \u2F6B\u76BF \u2F6C\u76EE \u2F6D\u77DB \u2F6E\u77E2 \u2F6F\u77F3 \u2F70\u793A",
   "\u2F71\u79B8 \u2F72\u79BE \u2F73\u7A74 \u2F74\u7ACB \u2F75\u7AF9 \u2F76\u7C73 \u2F77\u7CF8",
   "\u2F78\u7F36 \u2F79\u7F51 \u2F7A\u7F8A \u2F7B\u7FBD \u2F7C\u8001 \u2F7D\u800C \u2F7E\u8012",
   "\u2F7F\u8033 \u2F80\u807F \u2F81\u8089 \u2F82\u81E3 \u2F83\u81EA \u2F84\u81F3 \u2F85\u81FC",
   "\u2F86\u820C \u2F87\u821B \u2F88\u821F \u2F89\u826E \u2F8A\u8272 \u2F8B\u8278 \u2F8C\u864D",
   "\u2F8D\u866B \u2F8E\u8840 \u2F8F\u884C \u2F90\u8863 \u2F91\u897E \u2F92\u898B \u2F93\u89D2",
   "\u2F94\u8A00 \u2F95\u8C37 \u2F96\u8C46 \u2F97\u8C55 \u2F98\u8C78 \u2F99\u8C9D \u2F9A\u8D64",
   "\u2F9B\u8D70 \u2F9C\u8DB3 \u2F9D\u8EAB \u2F9E\u8ECA \u2F9F\u8F9B \u2FA0\u8FB0 \u2FA1\u8FB5",
   "\u2FA2\u9091 \u2FA3\u9149 \u2FA4\u91C6 \u2FA5\u91CC \u2FA6\u91D1 \u2FA7\u9577 \u2FA8\u9580",
   "\u2FA9\u961C \u2FAA\u96B6 \u2FAB\u96B9 \u2FAC\u96E8 \u2FAD\u9751 \u2FAE\u975E \u2FAF\u9762",
   "\u2FB0\u9769 \u2FB1\u97CB \u2FB2\u97ED \u2FB3\u97F3 \u2FB4\u9801 \u2FB5\u98A8 \u2FB6\u98DB",
   "\u2FB7\u98DF \u2FB8\u9996 \u2FB9\u9999 \u2FBA\u99AC \u2FBB\u9AA8 \u2FBC\u9AD8 \u2FBD\u9ADF",
   "\u2FBE\u9B25 \u2FBF\u9B2F \u2FC0\u9B32 \u2FC1\u9B3C \u2FC2\u9B5A \u2FC3\u9CE5 \u2FC4\u9E75",
   "\u2FC5\u9E7F \u2FC6\u9EA5 \u2FC7\u9EBB \u2FC8\u9EC3 \u2FC9\u9ECD \u2FCA\u9ED1 \u2FCB\u9EF9",
   "\u2FCC\u9EFD \u2FCD\u9F0E \u2FCE\u9F13 \u2FCF\u9F20 \u2FD0\u9F3B \u2FD1\u9F4A \u2FD2\u9F52",
   "\u2FD3\u9F8D \u2FD4\u9F9C \u2FD5\u9FA0 \u3002. \u3036\u3012 \u3038\u5341 \u309F\u3088\u308A",
   "\u30FF\u30B3\u30C8 \u3134\u1102 \u3136\u11AD \u3140\u111A \u3144\u1121 \u3169\u11CC",
   "\u316A\u11CE \u316B\u11D3 \u316C\u11D7 \u316D\u11D9 \u316E\u111C \u316F\u11DD \u3170\u11DF",
   "\u3173\u1120 \u3176\u1127 \u3177\u1129 \u317D\u1132 \u317E\u1136 \u317F\u1140 \u3180\u1147",
   "\u3181\u114C \u3189\u1188 \u318C\u1194 \u318D\u119E \u318E\u11A1 \u3192\u4E00 \u3193\u4E8C",
   "\u3194\u4E09 \u3195\u56DB \u3196\u4E0A \u3197\u4E2D \u3198\u4E0B \u3199\u7532 \u319A\u4E59",
   "\u319B\u4E19 \u319C\u4E01 \u319D\u5929 \u319E\u5730 \u319F\u4EBA \u3200(\u1100) \u3201(\u1102)",
   "\u3202(\u1103) \u3203(\u1105) \u3204(\u1106) \u3205(\u1107) \u3206(\u1109) \u3207(\u110B)",
   "\u3208(\u110C) \u3209(\u110E) \u320A(\u110F) \u320B(\u1110) \u320C(\u1111) \u320D(\u1112)",
   "\u320E(\uAC00) \u320F(\uB098) \u3210(\uB2E4) \u3211(\uB77C) \u3212(\uB9C8) \u3213(\uBC14)",
   "\u3214(\uC0AC) \u3215(\uC544) \u3216(\uC790) \u3217(\uCC28) \u3218(\uCE74) \u3219(\uD0C0)",
   "\u321A(\uD30C) \u321B(\uD558) \u321C(\uC8FC) \u321D(\uC624\uC804) \u321E(\uC624\uD6C4)",
   "\u3220(\u4E00) \u3221(\u4E8C) \u3222(\u4E09) \u3223(\u56DB) \u3224(\u4E94) \u3225(\u516D)",
   "\u3226(\u4E03) \u3227(\u516B) \u3228(\u4E5D) \u3229(\u5341) \u322A(\u6708) \u322B(\u706B)",
   "\u322C(\u6C34) \u322D(\u6728) \u322E(\u91D1) \u322F(\u571F) \u3230(\u65E5) \u3231(\u682A)",
   "\u3232(\u6709) \u3233(\u793E) \u3234(\u540D) \u3235(\u7279) \u3236(\u8CA1) \u3237(\u795D)",
   "\u3238(\u52B4) \u3239(\u4EE3) \u323A(\u547C) \u323B(\u5B66) \u323C(\u76E3) \u323D(\u4F01)",
   "\u323E(\u8CC7) \u323F(\u5354) \u3240(\u796D) \u3241(\u4F11) \u3242(\u81EA) \u3243(\u81F3)",
   "\u3244\u554F \u3245\u5E7C \u3246\u6587 \u3247\u7B8F \u3250pte \u325121 \u325222 \u325323",
   "\u325424 \u325525 \u325626 \u325727 \u325828 \u325929 \u325A30 \u325B31 \u325C32 \u325D33",
   "\u325E34 \u325F35 \u3260\u1100 \u3266\u1109 \u326E\uAC00 \u326F\uB098 \u3270\uB2E4",
   "\u3271\uB77C \u3272\uB9C8 \u3273\uBC14 \u3274\uC0AC \u3275\uC544 \u3276\uC790 \u3277\uCC28",
   "\u3278\uCE74 \u3279\uD0C0 \u327A\uD30C \u327B\uD558 \u327C\uCC38\uACE0 \u327D\uC8FC\uC758",
   "\u327E\uC6B0 \u3280\u4E00 \u3281\u4E8C \u3282\u4E09 \u3283\u56DB \u3284\u4E94 \u3285\u516D",
   "\u3286\u4E03 \u3287\u516B \u3288\u4E5D \u3289\u5341 \u328A\u6708 \u328B\u706B \u328C\u6C34",
   "\u328D\u6728 \u328E\u91D1 \u328F\u571F \u3290\u65E5 \u3291\u682A \u3292\u6709 \u3293\u793E",
   "\u3294\u540D \u3295\u7279 \u3296\u8CA1 \u3297\u795D \u3298\u52B4 \u3299\u79D8 \u329A\u7537",
   "\u329B\u5973 \u329C\u9069 \u329D\u512A \u329E\u5370 \u329F\u6CE8 \u32A0\u9805 \u32A1\u4F11",
   "\u32A2\u5199 \u32A3\u6B63 \u32A4\u4E0A \u32A5\u4E2D \u32A6\u4E0B \u32A7\u5DE6 \u32A8\u53F3",
   "\u32A9\u533B \u32AA\u5B97 \u32AB\u5B66 \u32AC\u76E3 \u32AD\u4F01 \u32AE\u8CC7 \u32AF\u5354",
   "\u32B0\u591C \u32B136 \u32B237 \u32B338 \u32B439 \u32B540 \u32B641 \u32B742 \u32B843 \u32B944",
   "\u32BA45 \u32BB46 \u32BC47 \u32BD48 \u32BE49 \u32BF50 \u32C01\u6708 \u32C12\u6708",
   "\u32C23\u6708 \u32C34\u6708 \u32C45\u6708 \u32C56\u6708 \u32C67\u6708 \u32C78\u6708",
   "\u32C89\u6708 \u32C910\u6708 \u32CA11\u6708 \u32CB12\u6708 \u32CChg \u32CDerg \u32CEev",
   "\u32CFltd \u32D0\u30A2 \u32D1\u30A4 \u32D2\u30A6 \u32D3\u30A8 \u32D6\u30AD \u32D7\u30AF",
   "\u32D8\u30B1 \u32D9\u30B3 \u32DA\u30B5 \u32DB\u30B7 \u32DC\u30B9 \u32DD\u30BB \u32DE\u30BD",
   "\u32DF\u30BF \u32E0\u30C1 \u32E1\u30C4 \u32E2\u30C6 \u32E3\u30C8 \u32EA\u30D2 \u32EB\u30D5",
   "\u32EC\u30D8 \u32ED\u30DB \u32F3\u30E4 \u32F4\u30E6 \u32FF\u4EE4\u548C",
   "\u3300\u30A2\u30D1\u30FC\u30C8 \u3301\u30A2\u30EB\u30D5\u30A1 \u3302\u30A2\u30F3\u30DA\u30A2",
   "\u3303\u30A2\u30FC\u30EB \u3304\u30A4\u30CB\u30F3\u30B0 \u3305\u30A4\u30F3\u30C1",
   "\u3306\u30A6\u30A9\u30F3 \u3307\u30A8\u30B9\u30AF\u30FC\u30C9 \u3308\u30A8\u30FC\u30AB\u30FC",
   "\u3309\u30AA\u30F3\u30B9 \u330A\u30AA\u30FC\u30E0 \u330B\u30AB\u30A4\u30EA",
   "\u330C\u30AB\u30E9\u30C3\u30C8 \u330D\u30AB\u30ED\u30EA\u30FC \u330E\u30AC\u30ED\u30F3",
   "\u330F\u30AC\u30F3\u30DE \u3310\u30AE\u30AC \u3311\u30AE\u30CB\u30FC",
   "\u3312\u30AD\u30E5\u30EA\u30FC \u3313\u30AE\u30EB\u30C0\u30FC \u3314\u30AD\u30ED",
   "\u3315\u30AD\u30ED\u30B0\u30E9\u30E0 \u3316\u30AD\u30ED\u30E1\u30FC\u30C8\u30EB",
   "\u3317\u30AD\u30ED\u30EF\u30C3\u30C8 \u3318\u30B0\u30E9\u30E0",
   "\u3319\u30B0\u30E9\u30E0\u30C8\u30F3 \u331A\u30AF\u30EB\u30BC\u30A4\u30ED",
   "\u331B\u30AF\u30ED\u30FC\u30CD \u331C\u30B1\u30FC\u30B9 \u331D\u30B3\u30EB\u30CA",
   "\u331E\u30B3\u30FC\u30DD \u331F\u30B5\u30A4\u30AF\u30EB \u3320\u30B5\u30F3\u30C1\u30FC\u30E0",
   "\u3321\u30B7\u30EA\u30F3\u30B0 \u3322\u30BB\u30F3\u30C1 \u3323\u30BB\u30F3\u30C8",
   "\u3324\u30C0\u30FC\u30B9 \u3325\u30C7\u30B7 \u3326\u30C9\u30EB \u3327\u30C8\u30F3",
   "\u3328\u30CA\u30CE \u3329\u30CE\u30C3\u30C8 \u332A\u30CF\u30A4\u30C4",
   "\u332B\u30D1\u30FC\u30BB\u30F3\u30C8 \u332C\u30D1\u30FC\u30C4 \u332D\u30D0\u30FC\u30EC\u30EB",
   "\u332E\u30D4\u30A2\u30B9\u30C8\u30EB \u332F\u30D4\u30AF\u30EB \u3330\u30D4\u30B3",
   "\u3331\u30D3\u30EB \u3332\u30D5\u30A1\u30E9\u30C3\u30C9 \u3333\u30D5\u30A3\u30FC\u30C8",
   "\u3334\u30D6\u30C3\u30B7\u30A7\u30EB \u3335\u30D5\u30E9\u30F3",
   "\u3336\u30D8\u30AF\u30BF\u30FC\u30EB \u3337\u30DA\u30BD \u3338\u30DA\u30CB\u30D2",
   "\u3339\u30D8\u30EB\u30C4 \u333A\u30DA\u30F3\u30B9 \u333B\u30DA\u30FC\u30B8",
   "\u333C\u30D9\u30FC\u30BF \u333D\u30DD\u30A4\u30F3\u30C8 \u333E\u30DC\u30EB\u30C8",
   "\u333F\u30DB\u30F3 \u3340\u30DD\u30F3\u30C9 \u3341\u30DB\u30FC\u30EB \u3342\u30DB\u30FC\u30F3",
   "\u3343\u30DE\u30A4\u30AF\u30ED \u3344\u30DE\u30A4\u30EB \u3345\u30DE\u30C3\u30CF",
   "\u3346\u30DE\u30EB\u30AF \u3347\u30DE\u30F3\u30B7\u30E7\u30F3 \u3348\u30DF\u30AF\u30ED\u30F3",
   "\u3349\u30DF\u30EA \u334A\u30DF\u30EA\u30D0\u30FC\u30EB \u334B\u30E1\u30AC",
   "\u334C\u30E1\u30AC\u30C8\u30F3 \u334D\u30E1\u30FC\u30C8\u30EB \u334E\u30E4\u30FC\u30C9",
   "\u334F\u30E4\u30FC\u30EB \u3350\u30E6\u30A2\u30F3 \u3351\u30EA\u30C3\u30C8\u30EB",
   "\u3352\u30EA\u30E9 \u3353\u30EB\u30D4\u30FC \u3354\u30EB\u30FC\u30D6\u30EB \u3355\u30EC\u30E0",
   "\u3356\u30EC\u30F3\u30C8\u30B2\u30F3 \u3357\u30EF\u30C3\u30C8 \u33580\u70B9 \u33591\u70B9",
   "\u335A2\u70B9 \u335B3\u70B9 \u335C4\u70B9 \u335D5\u70B9 \u335E6\u70B9 \u335F7\u70B9",
   "\u33608\u70B9 \u33619\u70B9 \u336210\u70B9 \u336311\u70B9 \u336412\u70B9 \u336513\u70B9",
   "\u336614\u70B9 \u336715\u70B9 \u336816\u70B9 \u336917\u70B9 \u336A18\u70B9 \u336B19\u70B9",
   "\u336C20\u70B9 \u336D21\u70B9 \u336E22\u70B9 \u336F23\u70B9 \u337024\u70B9 \u3371hpa \u3372da",
   "\u3373au \u3374bar \u3375ov \u3376pc \u3377dm \u3378dm2 \u3379dm3 \u337Aiu \u337B\u5E73\u6210",
   "\u337C\u662D\u548C \u337D\u5927\u6B63 \u337E\u660E\u6CBB \u337F\u682A\u5F0F\u4F1A\u793E",
   "\u3380pa \u3381na \u3382\u03BCa \u3383ma \u3384ka \u3385kb \u3386mb \u3387gb \u3388cal",
   "\u3389kcal \u338Apf \u338Bnf \u338C\u03BCf \u338D\u03BCg \u338Emg \u338Fkg \u3390hz \u3391khz",
   "\u3392mhz \u3393ghz \u3394thz \u3395\u03BCl \u3396ml \u3397dl \u3398kl \u3399fm \u339Anm",
   "\u339B\u03BCm \u339Cmm \u339Dcm \u339Ekm \u339Fmm2 \u33A0cm2 \u33A1m2 \u33A2km2 \u33A3mm3",
   "\u33A4cm3 \u33A5m3 \u33A6km3 \u33A7m\u2215s \u33A8m\u2215s2 \u33A9pa \u33AAkpa \u33ABmpa",
   "\u33ACgpa \u33ADrad \u33AErad\u2215s \u33AFrad\u2215s2 \u33B0ps \u33B1ns \u33B2\u03BCs",
   "\u33B3ms \u33B4pv \u33B5nv \u33B6\u03BCv \u33B7mv \u33B8kv \u33B9mv \u33BApw \u33BBnw",
   "\u33BC\u03BCw \u33BDmw \u33BEkw \u33BFmw \u33C0k\u03C9 \u33C1m\u03C9 \u33C3bq \u33C4cc",
   "\u33C5cd \u33C6c\u2215kg \u33C8db \u33C9gy \u33CAha \u33CBhp \u33CCin \u33CDkk \u33CEkm",
   "\u33CFkt \u33D0lm \u33D1ln \u33D2log \u33D3lx \u33D4mb \u33D5mil \u33D6mol \u33D7ph \u33D9ppm",
   "\u33DApr \u33DBsr \u33DCsv \u33DDwb \u33DEv\u2215m \u33DFa\u2215m \u33E01\u65E5 \u33E12\u65E5",
   "\u33E23\u65E5 \u33E34\u65E5 \u33E45\u65E5 \u33E56\u65E5 \u33E67\u65E5 \u33E78\u65E5",
   "\u33E89\u65E5 \u33E910\u65E5 \u33EA11\u65E5 \u33EB12\u65E5 \u33EC13\u65E5 \u33ED14\u65E5",
   "\u33EE15\u65E5 \u33EF16\u65E5 \u33F017\u65E5 \u33F118\u65E5 \u33F219\u65E5 \u33F320\u65E5",
   "\u33F421\u65E5 \u33F522\u65E5 \u33F623\u65E5 \u33F724\u65E5 \u33F825\u65E5 \u33F926\u65E5",
   "\u33FA27\u65E5 \u33FB28\u65E5 \u33FC29\u65E5 \u33FD30\u65E5 \u33FE31\u65E5 \u33FFgal",
   "\uA69C\u044A \uA69D\u044C \uA770\uA76F \uA77D\u1D79 \uA78B\uA78C \uA78D\u0265 \uA7AA\u0266",
   "\uA7AB\u025C \uA7AC\u0261 \uA7AD\u026C \uA7AE\u026A \uA7B0\u029E \uA7B1\u0287 \uA7B2\u029D",
   "\uA7B3\uAB53 \uA7C4\uA794 \uA7C5\u0282 \uA7C6\u1D8E \uA7CB\u0264 \uA7DC\u019B \uA7F1s \uA7F2c",
   "\uA7F3f \uA7F4q \uA7F5\uA7F6 \uA7F8\u0127 \uA7F9\u0153 \uAB5C\uA727 \uAB5D\uAB37 \uAB5E\u026B",
   "\uAB5F\uAB52 \uAB69\u028D \uF900\u8C48 \uF901\u66F4 \uF902\u8ECA \uF903\u8CC8 \uF904\u6ED1",
   "\uF905\u4E32 \uF906\u53E5 \uF907\u9F9C \uF908\u9F9C \uF909\u5951 \uF90A\u91D1 \uF90B\u5587",
   "\uF90C\u5948 \uF90D\u61F6 \uF90E\u7669 \uF90F\u7F85 \uF910\u863F \uF911\u87BA \uF912\u88F8",
   "\uF913\u908F \uF914\u6A02 \uF915\u6D1B \uF916\u70D9 \uF917\u73DE \uF918\u843D \uF919\u916A",
   "\uF91A\u99F1 \uF91B\u4E82 \uF91C\u5375 \uF91D\u6B04 \uF91E\u721B \uF91F\u862D \uF920\u9E1E",
   "\uF921\u5D50 \uF922\u6FEB \uF923\u85CD \uF924\u8964 \uF925\u62C9 \uF926\u81D8 \uF927\u881F",
   "\uF928\u5ECA \uF929\u6717 \uF92A\u6D6A \uF92B\u72FC \uF92C\u90CE \uF92D\u4F86 \uF92E\u51B7",
   "\uF92F\u52DE \uF930\u64C4 \uF931\u6AD3 \uF932\u7210 \uF933\u76E7 \uF934\u8001 \uF935\u8606",
   "\uF936\u865C \uF937\u8DEF \uF938\u9732 \uF939\u9B6F \uF93A\u9DFA \uF93B\u788C \uF93C\u797F",
   "\uF93D\u7DA0 \uF93E\u83C9 \uF93F\u9304 \uF940\u9E7F \uF941\u8AD6 \uF942\u58DF \uF943\u5F04",
   "\uF944\u7C60 \uF945\u807E \uF946\u7262 \uF947\u78CA \uF948\u8CC2 \uF949\u96F7 \uF94A\u58D8",
   "\uF94B\u5C62 \uF94C\u6A13 \uF94D\u6DDA \uF94E\u6F0F \uF94F\u7D2F \uF950\u7E37 \uF951\u964B",
   "\uF952\u52D2 \uF953\u808B \uF954\u51DC \uF955\u51CC \uF956\u7A1C \uF957\u7DBE \uF958\u83F1",
   "\uF959\u9675 \uF95A\u8B80 \uF95B\u62CF \uF95C\u6A02 \uF95D\u8AFE \uF95E\u4E39 \uF95F\u5BE7",
   "\uF960\u6012 \uF961\u7387 \uF962\u7570 \uF963\u5317 \uF964\u78FB \uF965\u4FBF \uF966\u5FA9",
   "\uF967\u4E0D \uF968\u6CCC \uF969\u6578 \uF96A\u7D22 \uF96B\u53C3 \uF96C\u585E \uF96D\u7701",
   "\uF96E\u8449 \uF96F\u8AAA \uF970\u6BBA \uF971\u8FB0 \uF972\u6C88 \uF973\u62FE \uF974\u82E5",
   "\uF975\u63A0 \uF976\u7565 \uF977\u4EAE \uF978\u5169 \uF979\u51C9 \uF97A\u6881 \uF97B\u7CE7",
   "\uF97C\u826F \uF97D\u8AD2 \uF97E\u91CF \uF97F\u52F5 \uF980\u5442 \uF981\u5973 \uF982\u5EEC",
   "\uF983\u65C5 \uF984\u6FFE \uF985\u792A \uF986\u95AD \uF987\u9A6A \uF988\u9E97 \uF989\u9ECE",
   "\uF98A\u529B \uF98B\u66C6 \uF98C\u6B77 \uF98D\u8F62 \uF98E\u5E74 \uF98F\u6190 \uF990\u6200",
   "\uF991\u649A \uF992\u6F23 \uF993\u7149 \uF994\u7489 \uF995\u79CA \uF996\u7DF4 \uF997\u806F",
   "\uF998\u8F26 \uF999\u84EE \uF99A\u9023 \uF99B\u934A \uF99C\u5217 \uF99D\u52A3 \uF99E\u54BD",
   "\uF99F\u70C8 \uF9A0\u88C2 \uF9A1\u8AAA \uF9A2\u5EC9 \uF9A3\u5FF5 \uF9A4\u637B \uF9A5\u6BAE",
   "\uF9A6\u7C3E \uF9A7\u7375 \uF9A8\u4EE4 \uF9A9\u56F9 \uF9AA\u5BE7 \uF9AB\u5DBA \uF9AC\u601C",
   "\uF9AD\u73B2 \uF9AE\u7469 \uF9AF\u7F9A \uF9B0\u8046 \uF9B1\u9234 \uF9B2\u96F6 \uF9B3\u9748",
   "\uF9B4\u9818 \uF9B5\u4F8B \uF9B6\u79AE \uF9B7\u91B4 \uF9B8\u96B8 \uF9B9\u60E1 \uF9BA\u4E86",
   "\uF9BB\u50DA \uF9BC\u5BEE \uF9BD\u5C3F \uF9BE\u6599 \uF9BF\u6A02 \uF9C0\u71CE \uF9C1\u7642",
   "\uF9C2\u84FC \uF9C3\u907C \uF9C4\u9F8D \uF9C5\u6688 \uF9C6\u962E \uF9C7\u5289 \uF9C8\u677B",
   "\uF9C9\u67F3 \uF9CA\u6D41 \uF9CB\u6E9C \uF9CC\u7409 \uF9CD\u7559 \uF9CE\u786B \uF9CF\u7D10",
   "\uF9D0\u985E \uF9D1\u516D \uF9D2\u622E \uF9D3\u9678 \uF9D4\u502B \uF9D5\u5D19 \uF9D6\u6DEA",
   "\uF9D7\u8F2A \uF9D8\u5F8B \uF9D9\u6144 \uF9DA\u6817 \uF9DB\u7387 \uF9DC\u9686 \uF9DD\u5229",
   "\uF9DE\u540F \uF9DF\u5C65 \uF9E0\u6613 \uF9E1\u674E \uF9E2\u68A8 \uF9E3\u6CE5 \uF9E4\u7406",
   "\uF9E5\u75E2 \uF9E6\u7F79 \uF9E7\u88CF \uF9E8\u88E1 \uF9E9\u91CC \uF9EA\u96E2 \uF9EB\u533F",
   "\uF9EC\u6EBA \uF9ED\u541D \uF9EE\u71D0 \uF9EF\u7498 \uF9F0\u85FA \uF9F1\u96A3 \uF9F2\u9C57",
   "\uF9F3\u9E9F \uF9F4\u6797 \uF9F5\u6DCB \uF9F6\u81E8 \uF9F7\u7ACB \uF9F8\u7B20 \uF9F9\u7C92",
   "\uF9FA\u72C0 \uF9FB\u7099 \uF9FC\u8B58 \uF9FD\u4EC0 \uF9FE\u8336 \uF9FF\u523A \uFA00\u5207",
   "\uFA01\u5EA6 \uFA02\u62D3 \uFA03\u7CD6 \uFA04\u5B85 \uFA05\u6D1E \uFA06\u66B4 \uFA07\u8F3B",
   "\uFA08\u884C \uFA09\u964D \uFA0A\u898B \uFA0B\u5ED3 \uFA0C\u5140 \uFA0D\u55C0 \uFA10\u585A",
   "\uFA12\u6674 \uFA15\u51DE \uFA16\u732A \uFA17\u76CA \uFA18\u793C \uFA19\u795E \uFA1A\u7965",
   "\uFA1B\u798F \uFA1C\u9756 \uFA1D\u7CBE \uFA1E\u7FBD \uFA20\u8612 \uFA22\u8AF8 \uFA25\u9038",
   "\uFA26\u90FD \uFA2A\u98EF \uFA2B\u98FC \uFA2C\u9928 \uFA2D\u9DB4 \uFA2E\u90DE \uFA2F\u96B7",
   "\uFA30\u4FAE \uFA31\u50E7 \uFA32\u514D \uFA33\u52C9 \uFA34\u52E4 \uFA35\u5351 \uFA36\u559D",
   "\uFA37\u5606 \uFA38\u5668 \uFA39\u5840 \uFA3A\u58A8 \uFA3B\u5C64 \uFA3C\u5C6E \uFA3D\u6094",
   "\uFA3E\u6168 \uFA3F\u618E \uFA40\u61F2 \uFA41\u654F \uFA42\u65E2 \uFA43\u6691 \uFA44\u6885",
   "\uFA45\u6D77 \uFA46\u6E1A \uFA47\u6F22 \uFA48\u716E \uFA49\u722B \uFA4A\u7422 \uFA4B\u7891",
   "\uFA4C\u793E \uFA4D\u7949 \uFA4E\u7948 \uFA4F\u7950 \uFA50\u7956 \uFA51\u795D \uFA54\u7A40",
   "\uFA55\u7A81 \uFA56\u7BC0 \uFA57\u7DF4 \uFA58\u7E09 \uFA59\u7E41 \uFA5A\u7F72 \uFA5B\u8005",
   "\uFA5C\u81ED \uFA5D\u8279 \uFA5E\u8279 \uFA5F\u8457 \uFA60\u8910 \uFA61\u8996 \uFA62\u8B01",
   "\uFA63\u8B39 \uFA64\u8CD3 \uFA65\u8D08 \uFA66\u8FB6 \uFA67\u9038 \uFA68\u96E3 \uFA69\u97FF",
   "\uFA6A\u983B \uFA6B\u6075 \uFA6C𤋮 \uFA6D\u8218 \uFA70\u4E26 \uFA71\u51B5 \uFA72\u5168",
   "\uFA73\u4F80 \uFA74\u5145 \uFA75\u5180 \uFA76\u52C7 \uFA77\u52FA \uFA78\u559D \uFA79\u5555",
   "\uFA7A\u5599 \uFA7B\u55E2 \uFA7C\u585A \uFA7D\u58B3 \uFA7E\u5944 \uFA7F\u5954 \uFA80\u5A62",
   "\uFA81\u5B28 \uFA82\u5ED2 \uFA83\u5ED9 \uFA84\u5F69 \uFA85\u5FAD \uFA86\u60D8 \uFA87\u614E",
   "\uFA88\u6108 \uFA89\u618E \uFA8A\u6160 \uFA8B\u61F2 \uFA8C\u6234 \uFA8D\u63C4 \uFA8E\u641C",
   "\uFA8F\u6452 \uFA90\u6556 \uFA91\u6674 \uFA92\u6717 \uFA93\u671B \uFA94\u6756 \uFA95\u6B79",
   "\uFA96\u6BBA \uFA97\u6D41 \uFA98\u6EDB \uFA99\u6ECB \uFA9A\u6F22 \uFA9B\u701E \uFA9C\u716E",
   "\uFA9D\u77A7 \uFA9E\u7235 \uFA9F\u72AF \uFAA0\u732A \uFAA1\u7471 \uFAA2\u7506 \uFAA3\u753B",
   "\uFAA4\u761D \uFAA5\u761F \uFAA6\u76CA \uFAA7\u76DB \uFAA8\u76F4 \uFAA9\u774A \uFAAA\u7740",
   "\uFAAB\u78CC \uFAAC\u7AB1 \uFAAD\u7BC0 \uFAAE\u7C7B \uFAAF\u7D5B \uFAB0\u7DF4 \uFAB1\u7F3E",
   "\uFAB2\u8005 \uFAB3\u8352 \uFAB4\u83EF \uFAB5\u8779 \uFAB6\u8941 \uFAB7\u8986 \uFAB8\u8996",
   "\uFAB9\u8ABF \uFABA\u8AF8 \uFABB\u8ACB \uFABC\u8B01 \uFABD\u8AFE \uFABE\u8AED \uFABF\u8B39",
   "\uFAC0\u8B8A \uFAC1\u8D08 \uFAC2\u8F38 \uFAC3\u9072 \uFAC4\u9199 \uFAC5\u9276 \uFAC6\u967C",
   "\uFAC7\u96E3 \uFAC8\u9756 \uFAC9\u97DB \uFACA\u97FF \uFACB\u980B \uFACC\u983B \uFACD\u9B12",
   "\uFACE\u9F9C \uFACF𢡊 \uFAD0𢡄 \uFAD1𣏕 \uFAD2\u3B9D \uFAD3\u4018 \uFAD4\u4039 \uFAD5𥉉 \uFAD6𥳐",
   "\uFAD7𧻓 \uFAD8\u9F43 \uFAD9\u9F8E \uFB00ff \uFB01fi \uFB02fl \uFB03ffi \uFB04ffl \uFB05st",
   "\uFB06st \uFB13\u0574\u0576 \uFB14\u0574\u0565 \uFB15\u0574\u056B \uFB16\u057E\u0576",
   "\uFB17\u0574\u056D \uFB1D\u05D9\u05B4 \uFB1F\u05F2\u05B7 \uFB20\u05E2 \uFB21\u05D0",
   "\uFB27\u05E8 \uFB28\u05EA \uFB29+ \uFB2A\u05E9\u05C1 \uFB2B\u05E9\u05C2",
   "\uFB2C\u05E9\u05BC\u05C1 \uFB2D\u05E9\u05BC\u05C2 \uFB2E\u05D0\u05B7 \uFB2F\u05D0\u05B8",
   "\uFB30\u05D0\u05BC \uFB31\u05D1\u05BC \uFB32\u05D2\u05BC \uFB33\u05D3\u05BC \uFB34\u05D4\u05BC",
   "\uFB35\u05D5\u05BC \uFB36\u05D6\u05BC \uFB38\u05D8\u05BC \uFB39\u05D9\u05BC \uFB3A\u05DA\u05BC",
   "\uFB3B\u05DB\u05BC \uFB3C\u05DC\u05BC \uFB3E\u05DE\u05BC \uFB40\u05E0\u05BC \uFB41\u05E1\u05BC",
   "\uFB43\u05E3\u05BC \uFB44\u05E4\u05BC \uFB46\u05E6\u05BC \uFB47\u05E7\u05BC \uFB48\u05E8\u05BC",
   "\uFB49\u05E9\u05BC \uFB4A\u05EA\u05BC \uFB4B\u05D5\u05B9 \uFB4C\u05D1\u05BF \uFB4D\u05DB\u05BF",
   "\uFB4E\u05E4\u05BF \uFB4F\u05D0\u05DC \uFB50\u0671 \uFB51\u0671 \uFB52\u067B \uFB53\u067B",
   "\uFB54\u067B \uFB55\u067B \uFB56\u067E \uFB57\u067E \uFB5C\u0680 \uFB5D\u0680 \uFB5E\u067A",
   "\uFB5F\u067A \uFB60\u067A \uFB61\u067A \uFB62\u067F \uFB63\u067F \uFB64\u067F \uFB65\u067F",
   "\uFB66\u0679 \uFB67\u0679 \uFB68\u0679 \uFB69\u0679 \uFB6A\u06A4 \uFB6B\u06A4 \uFB70\u06A6",
   "\uFB71\u06A6 \uFB72\u0684 \uFB73\u0684 \uFB74\u0684 \uFB75\u0684 \uFB76\u0683 \uFB77\u0683",
   "\uFB78\u0683 \uFB79\u0683 \uFB7A\u0686 \uFB7B\u0686 \uFB7C\u0686 \uFB7F\u0687 \uFB80\u0687",
   "\uFB81\u0687 \uFB82\u068D \uFB83\u068D \uFB88\u0688 \uFB89\u0688 \uFB8A\u0698 \uFB8B\u0698",
   "\uFB8C\u0691 \uFB8D\u0691 \uFB8E\u06A9 \uFB8F\u06A9 \uFB90\u06A9 \uFB91\u06A9 \uFB92\u06AF",
   "\uFB93\u06AF \uFB94\u06AF \uFB95\u06AF \uFB96\u06B3 \uFB97\u06B3 \uFB98\u06B3 \uFB99\u06B3",
   "\uFB9A\u06B1 \uFB9B\u06B1 \uFB9C\u06B1 \uFB9D\u06B1 \uFB9E\u06BA \uFBA1\u06BB \uFBA2\u06BB",
   "\uFBA3\u06BB \uFBA4\u06C0 \uFBA7\u06C1 \uFBA8\u06C1 \uFBA9\u06C1 \uFBAA\u06BE \uFBAB\u06BE",
   "\uFBAC\u06BE \uFBAD\u06BE \uFBAE\u06D2 \uFBB1\u06D3 \uFBD3\u06AD \uFBD4\u06AD \uFBD5\u06AD",
   "\uFBD6\u06AD \uFBD7\u06C7 \uFBD8\u06C7 \uFBDD\u06C7\u0674 \uFBDE\u06CB \uFBDF\u06CB",
   "\uFBE0\u06C5 \uFBE1\u06C5 \uFBE2\u06C9 \uFBE3\u06C9 \uFBE4\u06D0 \uFBE5\u06D0 \uFBE6\u06D0",
   "\uFBE7\u06D0 \uFBE8\u0649 \uFBE9\u0649 \uFBEA\u0626\u0627 \uFBEB\u0626\u0627",
   "\uFBEC\u0626\u06D5 \uFBED\u0626\u06D5 \uFBEE\u0626\u0648 \uFBEF\u0626\u0648 \uFBF0\u0626\u06C7",
   "\uFBF1\u0626\u06C7 \uFBF2\u0626\u06C6 \uFBF3\u0626\u06C6 \uFBF4\u0626\u06C8 \uFBF5\u0626\u06C8",
   "\uFBF6\u0626\u06D0 \uFBF7\u0626\u06D0 \uFBF8\u0626\u06D0 \uFBF9\u0626\u0649 \uFBFA\u0626\u0649",
   "\uFBFB\u0626\u0649 \uFBFC\u06CC \uFBFD\u06CC \uFBFE\u06CC \uFBFF\u06CC \uFC00\u0626\u062C",
   "\uFC01\u0626\u062D \uFC02\u0626\u0645 \uFC03\u0626\u0649 \uFC04\u0626\u064A \uFC05\u0628\u062C",
   "\uFC06\u0628\u062D \uFC07\u0628\u062E \uFC08\u0628\u0645 \uFC09\u0628\u0649 \uFC0A\u0628\u064A",
   "\uFC0B\u062A\u062C \uFC0C\u062A\u062D \uFC0D\u062A\u062E \uFC0E\u062A\u0645 \uFC0F\u062A\u0649",
   "\uFC10\u062A\u064A \uFC11\u062B\u062C \uFC12\u062B\u0645 \uFC13\u062B\u0649 \uFC14\u062B\u064A",
   "\uFC15\u062C\u062D \uFC16\u062C\u0645 \uFC17\u062D\u062C \uFC18\u062D\u0645 \uFC19\u062E\u062C",
   "\uFC1A\u062E\u062D \uFC1B\u062E\u0645 \uFC1C\u0633\u062C \uFC1D\u0633\u062D \uFC1E\u0633\u062E",
   "\uFC1F\u0633\u0645 \uFC20\u0635\u062D \uFC21\u0635\u0645 \uFC22\u0636\u062C \uFC23\u0636\u062D",
   "\uFC24\u0636\u062E \uFC25\u0636\u0645 \uFC26\u0637\u062D \uFC27\u0637\u0645 \uFC28\u0638\u0645",
   "\uFC29\u0639\u062C \uFC2A\u0639\u0645 \uFC2B\u063A\u062C \uFC2C\u063A\u0645 \uFC2D\u0641\u062C",
   "\uFC2E\u0641\u062D \uFC2F\u0641\u062E \uFC30\u0641\u0645 \uFC31\u0641\u0649 \uFC32\u0641\u064A",
   "\uFC33\u0642\u062D \uFC34\u0642\u0645 \uFC35\u0642\u0649 \uFC36\u0642\u064A \uFC37\u0643\u0627",
   "\uFC38\u0643\u062C \uFC39\u0643\u062D \uFC3A\u0643\u062E \uFC3B\u0643\u0644 \uFC3C\u0643\u0645",
   "\uFC3D\u0643\u0649 \uFC3E\u0643\u064A \uFC3F\u0644\u062C \uFC40\u0644\u062D \uFC41\u0644\u062E",
   "\uFC42\u0644\u0645 \uFC43\u0644\u0649 \uFC44\u0644\u064A \uFC45\u0645\u062C \uFC46\u0645\u062D",
   "\uFC47\u0645\u062E \uFC48\u0645\u0645 \uFC49\u0645\u0649 \uFC4A\u0645\u064A \uFC4B\u0646\u062C",
   "\uFC4C\u0646\u062D \uFC4D\u0646\u062E \uFC4E\u0646\u0645 \uFC4F\u0646\u0649 \uFC50\u0646\u064A",
   "\uFC51\u0647\u062C \uFC52\u0647\u0645 \uFC53\u0647\u0649 \uFC54\u0647\u064A \uFC55\u064A\u062C",
   "\uFC56\u064A\u062D \uFC57\u064A\u062E \uFC58\u064A\u0645 \uFC59\u064A\u0649 \uFC5A\u064A\u064A",
   "\uFC5B\u0630\u0670 \uFC5C\u0631\u0670 \uFC5D\u0649\u0670 \uFC64\u0626\u0631 \uFC65\u0626\u0632",
   "\uFC66\u0626\u0645 \uFC67\u0626\u0646 \uFC68\u0626\u0649 \uFC69\u0626\u064A \uFC6A\u0628\u0631",
   "\uFC6B\u0628\u0632 \uFC6C\u0628\u0645 \uFC6D\u0628\u0646 \uFC6E\u0628\u0649 \uFC6F\u0628\u064A",
   "\uFC70\u062A\u0631 \uFC71\u062A\u0632 \uFC72\u062A\u0645 \uFC73\u062A\u0646 \uFC74\u062A\u0649",
   "\uFC75\u062A\u064A \uFC76\u062B\u0631 \uFC77\u062B\u0632 \uFC78\u062B\u0645 \uFC79\u062B\u0646",
   "\uFC7A\u062B\u0649 \uFC7B\u062B\u064A \uFC7C\u0641\u0649 \uFC7D\u0641\u064A \uFC7E\u0642\u0649",
   "\uFC7F\u0642\u064A \uFC80\u0643\u0627 \uFC81\u0643\u0644 \uFC82\u0643\u0645 \uFC83\u0643\u0649",
   "\uFC84\u0643\u064A \uFC85\u0644\u0645 \uFC86\u0644\u0649 \uFC87\u0644\u064A \uFC88\u0645\u0627",
   "\uFC89\u0645\u0645 \uFC8A\u0646\u0631 \uFC8B\u0646\u0632 \uFC8C\u0646\u0645 \uFC8D\u0646\u0646",
   "\uFC8E\u0646\u0649 \uFC8F\u0646\u064A \uFC90\u0649\u0670 \uFC91\u064A\u0631 \uFC92\u064A\u0632",
   "\uFC93\u064A\u0645 \uFC94\u064A\u0646 \uFC95\u064A\u0649 \uFC96\u064A\u064A \uFC97\u0626\u062C",
   "\uFC98\u0626\u062D \uFC99\u0626\u062E \uFC9A\u0626\u0645 \uFC9B\u0626\u0647 \uFC9C\u0628\u062C",
   "\uFC9D\u0628\u062D \uFC9E\u0628\u062E \uFC9F\u0628\u0645 \uFCA0\u0628\u0647 \uFCA1\u062A\u062C",
   "\uFCA2\u062A\u062D \uFCA3\u062A\u062E \uFCA4\u062A\u0645 \uFCA5\u062A\u0647 \uFCA6\u062B\u0645",
   "\uFCA7\u062C\u062D \uFCA8\u062C\u0645 \uFCA9\u062D\u062C \uFCAA\u062D\u0645 \uFCAB\u062E\u062C",
   "\uFCAC\u062E\u0645 \uFCAD\u0633\u062C \uFCAE\u0633\u062D \uFCAF\u0633\u062E \uFCB0\u0633\u0645",
   "\uFCB1\u0635\u062D \uFCB2\u0635\u062E \uFCB3\u0635\u0645 \uFCB4\u0636\u062C \uFCB5\u0636\u062D",
   "\uFCB6\u0636\u062E \uFCB7\u0636\u0645 \uFCB8\u0637\u062D \uFCB9\u0638\u0645 \uFCBA\u0639\u062C",
   "\uFCBB\u0639\u0645 \uFCBC\u063A\u062C \uFCBD\u063A\u0645 \uFCBE\u0641\u062C \uFCBF\u0641\u062D",
   "\uFCC0\u0641\u062E \uFCC1\u0641\u0645 \uFCC2\u0642\u062D \uFCC3\u0642\u0645 \uFCC4\u0643\u062C",
   "\uFCC5\u0643\u062D \uFCC6\u0643\u062E \uFCC7\u0643\u0644 \uFCC8\u0643\u0645 \uFCC9\u0644\u062C",
   "\uFCCA\u0644\u062D \uFCCB\u0644\u062E \uFCCC\u0644\u0645 \uFCCD\u0644\u0647 \uFCCE\u0645\u062C",
   "\uFCCF\u0645\u062D \uFCD0\u0645\u062E \uFCD1\u0645\u0645 \uFCD2\u0646\u062C \uFCD3\u0646\u062D",
   "\uFCD4\u0646\u062E \uFCD5\u0646\u0645 \uFCD6\u0646\u0647 \uFCD7\u0647\u062C \uFCD8\u0647\u0645",
   "\uFCD9\u0647\u0670 \uFCDA\u064A\u062C \uFCDB\u064A\u062D \uFCDC\u064A\u062E \uFCDD\u064A\u0645",
   "\uFCDE\u064A\u0647 \uFCDF\u0626\u0645 \uFCE0\u0626\u0647 \uFCE1\u0628\u0645 \uFCE2\u0628\u0647",
   "\uFCE3\u062A\u0645 \uFCE4\u062A\u0647 \uFCE5\u062B\u0645 \uFCE6\u062B\u0647 \uFCE7\u0633\u0645",
   "\uFCE8\u0633\u0647 \uFCE9\u0634\u0645 \uFCEA\u0634\u0647 \uFCEB\u0643\u0644 \uFCEC\u0643\u0645",
   "\uFCED\u0644\u0645 \uFCEE\u0646\u0645 \uFCEF\u0646\u0647 \uFCF0\u064A\u0645 \uFCF1\u064A\u0647",
   "\uFCF2\u0640\u064E\u0651 \uFCF3\u0640\u064F\u0651 \uFCF4\u0640\u0650\u0651 \uFCF5\u0637\u0649",
   "\uFCF6\u0637\u064A \uFCF7\u0639\u0649 \uFCF8\u0639\u064A \uFCF9\u063A\u0649 \uFCFA\u063A\u064A",
   "\uFCFB\u0633\u0649 \uFCFC\u0633\u064A \uFCFD\u0634\u0649 \uFCFE\u0634\u064A \uFCFF\u062D\u0649",
   "\uFD00\u062D\u064A \uFD01\u062C\u0649 \uFD02\u062C\u064A \uFD03\u062E\u0649 \uFD04\u062E\u064A",
   "\uFD05\u0635\u0649 \uFD06\u0635\u064A \uFD07\u0636\u0649 \uFD08\u0636\u064A \uFD09\u0634\u062C",
   "\uFD0A\u0634\u062D \uFD0B\u0634\u062E \uFD0C\u0634\u0645 \uFD0D\u0634\u0631 \uFD0E\u0633\u0631",
   "\uFD0F\u0635\u0631 \uFD10\u0636\u0631 \uFD11\u0637\u0649 \uFD12\u0637\u064A \uFD13\u0639\u0649",
   "\uFD14\u0639\u064A \uFD15\u063A\u0649 \uFD16\u063A\u064A \uFD17\u0633\u0649 \uFD18\u0633\u064A",
   "\uFD19\u0634\u0649 \uFD1A\u0634\u064A \uFD1B\u062D\u0649 \uFD1C\u062D\u064A \uFD1D\u062C\u0649",
   "\uFD1E\u062C\u064A \uFD1F\u062E\u0649 \uFD20\u062E\u064A \uFD21\u0635\u0649 \uFD22\u0635\u064A",
   "\uFD23\u0636\u0649 \uFD24\u0636\u064A \uFD25\u0634\u062C \uFD26\u0634\u062D \uFD27\u0634\u062E",
   "\uFD28\u0634\u0645 \uFD29\u0634\u0631 \uFD2A\u0633\u0631 \uFD2B\u0635\u0631 \uFD2C\u0636\u0631",
   "\uFD2D\u0634\u062C \uFD2E\u0634\u062D \uFD2F\u0634\u062E \uFD30\u0634\u0645 \uFD31\u0633\u0647",
   "\uFD32\u0634\u0647 \uFD33\u0637\u0645 \uFD34\u0633\u062C \uFD35\u0633\u062D \uFD36\u0633\u062E",
   "\uFD37\u0634\u062C \uFD38\u0634\u062D \uFD39\u0634\u062E \uFD3A\u0637\u0645 \uFD3B\u0638\u0645",
   "\uFD3C\u0627\u064B \uFD3D\u0627\u064B \uFD50\u062A\u062C\u0645 \uFD51\u062A\u062D\u062C",
   "\uFD52\u062A\u062D\u062C \uFD53\u062A\u062D\u0645 \uFD54\u062A\u062E\u0645",
   "\uFD55\u062A\u0645\u062C \uFD56\u062A\u0645\u062D \uFD57\u062A\u0645\u062E",
   "\uFD58\u062C\u0645\u062D \uFD59\u062C\u0645\u062D \uFD5A\u062D\u0645\u064A",
   "\uFD5B\u062D\u0645\u0649 \uFD5C\u0633\u062D\u062C \uFD5D\u0633\u062C\u062D",
   "\uFD5E\u0633\u062C\u0649 \uFD5F\u0633\u0645\u062D \uFD60\u0633\u0645\u062D",
   "\uFD61\u0633\u0645\u062C \uFD62\u0633\u0645\u0645 \uFD63\u0633\u0645\u0645",
   "\uFD64\u0635\u062D\u062D \uFD65\u0635\u062D\u062D \uFD66\u0635\u0645\u0645",
   "\uFD67\u0634\u062D\u0645 \uFD68\u0634\u062D\u0645 \uFD69\u0634\u062C\u064A",
   "\uFD6A\u0634\u0645\u062E \uFD6B\u0634\u0645\u062E \uFD6C\u0634\u0645\u0645",
   "\uFD6D\u0634\u0645\u0645 \uFD6E\u0636\u062D\u0649 \uFD6F\u0636\u062E\u0645",
   "\uFD70\u0636\u062E\u0645 \uFD71\u0637\u0645\u062D \uFD72\u0637\u0645\u062D",
   "\uFD73\u0637\u0645\u0645 \uFD74\u0637\u0645\u064A \uFD75\u0639\u062C\u0645",
   "\uFD76\u0639\u0645\u0645 \uFD77\u0639\u0645\u0645 \uFD78\u0639\u0645\u0649",
   "\uFD79\u063A\u0645\u0645 \uFD7A\u063A\u0645\u064A \uFD7B\u063A\u0645\u0649",
   "\uFD7C\u0641\u062E\u0645 \uFD7D\u0641\u062E\u0645 \uFD7E\u0642\u0645\u062D",
   "\uFD7F\u0642\u0645\u0645 \uFD80\u0644\u062D\u0645 \uFD81\u0644\u062D\u064A",
   "\uFD82\u0644\u062D\u0649 \uFD83\u0644\u062C\u062C \uFD84\u0644\u062C\u062C",
   "\uFD85\u0644\u062E\u0645 \uFD86\u0644\u062E\u0645 \uFD87\u0644\u0645\u062D",
   "\uFD88\u0644\u0645\u062D \uFD89\u0645\u062D\u062C \uFD8A\u0645\u062D\u0645",
   "\uFD8B\u0645\u062D\u064A \uFD8C\u0645\u062C\u062D \uFD8D\u0645\u062C\u0645",
   "\uFD8E\u0645\u062E\u062C \uFD8F\u0645\u062E\u0645 \uFD92\u0645\u062C\u062E",
   "\uFD93\u0647\u0645\u062C \uFD94\u0647\u0645\u0645 \uFD95\u0646\u062D\u0645",
   "\uFD96\u0646\u062D\u0649 \uFD97\u0646\u062C\u0645 \uFD98\u0646\u062C\u0645",
   "\uFD99\u0646\u062C\u0649 \uFD9A\u0646\u0645\u064A \uFD9B\u0646\u0645\u0649",
   "\uFD9C\u064A\u0645\u0645 \uFD9D\u064A\u0645\u0645 \uFD9E\u0628\u062E\u064A",
   "\uFD9F\u062A\u062C\u064A \uFDA0\u062A\u062C\u0649 \uFDA1\u062A\u062E\u064A",
   "\uFDA2\u062A\u062E\u0649 \uFDA3\u062A\u0645\u064A \uFDA4\u062A\u0645\u0649",
   "\uFDA5\u062C\u0645\u064A \uFDA6\u062C\u062D\u0649 \uFDA7\u062C\u0645\u0649",
   "\uFDA8\u0633\u062E\u0649 \uFDA9\u0635\u062D\u064A \uFDAA\u0634\u062D\u064A",
   "\uFDAB\u0636\u062D\u064A \uFDAC\u0644\u062C\u064A \uFDAD\u0644\u0645\u064A",
   "\uFDAE\u064A\u062D\u064A \uFDAF\u064A\u062C\u064A \uFDB0\u064A\u0645\u064A",
   "\uFDB1\u0645\u0645\u064A \uFDB2\u0642\u0645\u064A \uFDB3\u0646\u062D\u064A",
   "\uFDB4\u0642\u0645\u062D \uFDB5\u0644\u062D\u0645 \uFDB6\u0639\u0645\u064A",
   "\uFDB7\u0643\u0645\u064A \uFDB8\u0646\u062C\u062D \uFDB9\u0645\u062E\u064A",
   "\uFDBA\u0644\u062C\u0645 \uFDBB\u0643\u0645\u0645 \uFDBC\u0644\u062C\u0645",
   "\uFDBD\u0646\u062C\u062D \uFDBE\u062C\u062D\u064A \uFDBF\u062D\u062C\u064A",
   "\uFDC0\u0645\u062C\u064A \uFDC1\u0641\u0645\u064A \uFDC2\u0628\u062D\u064A",
   "\uFDC3\u0643\u0645\u0645 \uFDC4\u0639\u062C\u0645 \uFDC5\u0635\u0645\u0645",
   "\uFDC6\u0633\u062E\u064A \uFDC7\u0646\u062C\u064A \uFDF0\u0635\u0644\u06D2",
   "\uFDF1\u0642\u0644\u06D2 \uFDF2\u0627\u0644\u0644\u0647 \uFDF3\u0627\u0643\u0628\u0631",
   "\uFDF4\u0645\u062D\u0645\u062F \uFDF5\u0635\u0644\u0639\u0645 \uFDF6\u0631\u0633\u0648\u0644",
   "\uFDF7\u0639\u0644\u064A\u0647 \uFDF8\u0648\u0633\u0644\u0645 \uFDF9\u0635\u0644\u0649",
   "\uFDFC\u0631\u06CC\u0627\u0644 \uFE10, \uFE11\u3001 \uFE14; \uFE15! \uFE31\u2014 \uFE32\u2013",
   "\uFE33_ \uFE34_ \uFE37\x7b \uFE38\x7d \uFE4D_ \uFE4E_ \uFE4F_ \uFE50, \uFE51\u3001 \uFE54;",
   "\uFE57! \uFE58\u2014 \uFE5B\x7b \uFE5C\x7d \uFE60& \uFE63- \uFE66= \uFE69$ \uFE71\u0640\u064B",
   "\uFE77\u0640\u064E \uFE79\u0640\u064F \uFE7B\u0640\u0650 \uFE7D\u0640\u0651 \uFE7F\u0640\u0652",
   "\uFE8A\u0626 \uFE8B\u0626 \uFE90\u0628 \uFE91\u0628 \uFE96\u062A \uFE97\u062A \uFE9A\u062B",
   "\uFE9B\u062B \uFE9E\u062C \uFE9F\u062C \uFEA2\u062D \uFEA3\u062D \uFEA6\u062E \uFEA7\u062E",
   "\uFEB2\u0633 \uFEB3\u0633 \uFEB6\u0634 \uFEB7\u0634 \uFEBA\u0635 \uFEBB\u0635 \uFEBE\u0636",
   "\uFEBF\u0636 \uFEC2\u0637 \uFEC3\u0637 \uFEC6\u0638 \uFEC7\u0638 \uFECA\u0639 \uFECB\u0639",
   "\uFECE\u063A \uFECF\u063A \uFED0\u063A \uFED1\u0641 \uFED2\u0641 \uFED3\u0641 \uFED6\u0642",
   "\uFED7\u0642 \uFEDA\u0643 \uFEDB\u0643 \uFEDE\u0644 \uFEDF\u0644 \uFEE2\u0645 \uFEE3\u0645",
   "\uFEE6\u0646 \uFEE7\u0646 \uFEEA\u0647 \uFEEB\u0647 \uFEF2\u064A \uFEF3\u064A \uFEF4\u064A",
   "\uFEF5\u0644\u0622 \uFEF6\u0644\u0622 \uFEF7\u0644\u0623 \uFEF8\u0644\u0623 \uFEF9\u0644\u0625",
   "\uFEFA\u0644\u0625 \uFEFB\u0644\u0627 \uFEFC\u0644\u0627 \uFF61. \uFF64\u3001 \uFF65\u30FB",
   "\uFF66\u30F2 \uFF67\u30A1 \uFF68\u30A3 \uFF69\u30A5 \uFF6A\u30A7 \uFF6B\u30A9 \uFF6C\u30E3",
   "\uFF6D\u30E5 \uFF6E\u30E7 \uFF6F\u30C3 \uFF70\u30FC \uFF71\u30A2 \uFF72\u30A4 \uFF73\u30A6",
   "\uFF74\u30A8 \uFF77\u30AD \uFF78\u30AF \uFF79\u30B1 \uFF7A\u30B3 \uFF7B\u30B5 \uFF7C\u30B7",
   "\uFF7D\u30B9 \uFF7E\u30BB \uFF7F\u30BD \uFF80\u30BF \uFF81\u30C1 \uFF82\u30C4 \uFF83\u30C6",
   "\uFF84\u30C8 \uFF8B\u30D2 \uFF8C\u30D5 \uFF8D\u30D8 \uFF8E\u30DB \uFF94\u30E4 \uFF95\u30E6",
   "\uFF9C\u30EF \uFF9D\u30F3 \uFFA4\u1102 \uFFA6\u11AD \uFFB0\u111A \uFFB4\u1121 \uFFE2\u00AC",
   "\uFFE4\u00A6 \uFFE5\u00A5 \uFFE6\u20A9 \uFFE8\u2502 \uFFED\u25A0 \uFFEE\u25CB 𐖕𐖼 𐞃\u00E6",
   "𐞄\u0299 𐞅\u0253 𐞈\uAB66 𐞊\u02A4 𐞍\u1D91 𐞎\u0258 𐞏\u025E 𐞐\u02A9 𐞑\u0264 𐞒\u0262 𐞓\u0260",
   "𐞔\u029B 𐞕\u0127 𐞖\u029C 𐞗\u0267 𐞘\u0284 𐞛\u026C 𐞜𝼄 𐞝\uA78E 𐞞\u026E 𐞟𝼅 𐞠\u028E 𐞡𝼆 𐞢\u00F8 𐞥q",
   "𐞦\u027A 𐞧𝼈 𐞪\u0280 𐞫\u02A8 𐞬\u02A6 𐞭\uAB67 𐞮\u02A7 𐞯\u0288 𐞰\u2C71 𐞲\u028F 𐞵\u0298 𐞹𝼊 𐞺𝼞 𝅗𝅥𝅗𝅥",
   "𝅘𝅥𝅘𝅥 𝅘𝅥𝅮𝅘𝅥𝅮 𝅘𝅥𝅯𝅘𝅥𝅯 𝅘𝅥𝅰𝅘𝅥𝅰 𝅘𝅥𝅱𝅘𝅥𝅱 𝅘𝅥𝅲𝅘𝅥𝅲 𝆹𝅥𝆹𝅥 𝆺𝅥𝆺𝅥 𝆹𝅥𝅮𝆹𝅥𝅮 𝆺𝅥𝅮𝆺𝅥𝅮 𝆹𝅥𝅯𝆹𝅥𝅯 𝆺𝅥𝅯𝆺𝅥𝅯 𝒟d 𝒢g 𝕆o 𝚤\u0131 𝚥\u0237 𝚹\u03B8",
   "𝛁\u2207 𝛓\u03C3 𝛛\u2202 𝛜\u03B5 𝛝\u03B8 𝛞\u03BA 𝛟\u03C6 𝛠\u03C1 𝛡\u03C0 𝛳\u03B8 𝛻\u2207",
   "𝜍\u03C3 𝜕\u2202 𝜖\u03B5 𝜗\u03B8 𝜘\u03BA 𝜙\u03C6 𝜚\u03C1 𝜛\u03C0 𝜭\u03B8 𝜵\u2207 𝝇\u03C3",
   "𝝏\u2202 𝝐\u03B5 𝝑\u03B8 𝝒\u03BA 𝝓\u03C6 𝝔\u03C1 𝝕\u03C0 𝝧\u03B8 𝝯\u2207 𝞁\u03C3 𝞉\u2202",
   "𝞊\u03B5 𝞋\u03B8 𝞌\u03BA 𝞍\u03C6 𝞎\u03C1 𝞏\u03C0 𝞡\u03B8 𝞩\u2207 𝞻\u03C3 𝟃\u2202 𝟄\u03B5",
   "𝟅\u03B8 𝟆\u03BA 𝟇\u03C6 𝟈\u03C1 𝟉\u03C0 𝟊\u03DD 𝟋\u03DD 𞁇\u044B 𞁊\uA689 𞁋\u04D9 𞁌\u0456",
   "𞁍\u0458 𞁎\u04E9 𞁏\u04AF 𞁐\u04CF 𞁞\u0441 𞁧\u0491 𞁨\u0456 𞁩\u0455 𞁪\u045F 𞁫\u04AB 𞁬\uA651",
   "𞁭\u04B1 𞸂\u062C 𞸃\u062F 𞸅\u0648 𞸆\u0632 𞸇\u062D 𞸈\u0637 𞸉\u064A 𞸎\u0633 𞸏\u0639 𞸐\u0641",
   "𞸑\u0635 𞸒\u0642 𞸓\u0631 𞸔\u0634 𞸗\u062E 𞸘\u0630 𞸙\u0636 𞸚\u0638 𞸛\u063A 𞸜\u066E 𞸝\u06BA",
   "𞸞\u06A1 𞸟\u066F 𞸡\u0628 𞸢\u062C 𞸤\u0647 𞸧\u062D 𞸩\u064A 𞸮\u0633 𞸯\u0639 𞸰\u0641 𞸱\u0635",
   "𞸲\u0642 𞸴\u0634 𞸷\u062E 𞸹\u0636 𞸻\u063A 𞹂\u062C 𞹇\u062D 𞹉\u064A 𞹎\u0633 𞹏\u0639 𞹑\u0635",
   "𞹒\u0642 𞹔\u0634 𞹗\u062E 𞹙\u0636 𞹛\u063A 𞹝\u06BA 𞹟\u066F 𞹡\u0628 𞹢\u062C 𞹤\u0647 𞹧\u062D",
   "𞹨\u0637 𞹩\u064A 𞹭\u0646 𞹮\u0633 𞹯\u0639 𞹰\u0641 𞹱\u0635 𞹲\u0642 𞹴\u0634 𞹷\u062E 𞹹\u0636",
   "𞹺\u0638 𞹻\u063A 𞹼\u066E 𞹾\u06A1 𞺂\u062C 𞺃\u062F 𞺆\u0632 𞺇\u062D 𞺈\u0637 𞺉\u064A 𞺎\u0633",
   "𞺏\u0639 𞺐\u0641 𞺑\u0635 𞺒\u0642 𞺓\u0631 𞺔\u0634 𞺗\u062E 𞺘\u0630 𞺙\u0636 𞺚\u0638 𞺛\u063A",
   "𞺡\u0628 𞺢\u062C 𞺣\u062F 𞺥\u0648 𞺦\u0632 𞺧\u062D 𞺨\u0637 𞺩\u064A 𞺮\u0633 𞺯\u0639 𞺰\u0641",
   "𞺱\u0635 𞺲\u0642 𞺳\u0631 𞺴\u0634 𞺷\u062E 𞺸\u0630 𞺹\u0636 𞺺\u0638 𞺻\u063A 🄁0, 🄂1, 🄃2, 🄄3, 🄅4,",
   "🄆5, 🄇6, 🄈7, 🄉8, 🄊9, 🄐(a) 🄑(b) 🄒(c) 🄓(d) 🄔(e) 🄕(f) 🄖(g) 🄗(h) 🄘(i) 🄙(j) 🄚(k) 🄛(l) 🄜(m) 🄝(n) 🄞(o)",
   "🄟(p) 🄠(q) 🄡(r) 🄢(s) 🄣(t) 🄤(u) 🄥(v) 🄦(w) 🄧(x) 🄨(y) 🄩(z) 🄪\u3014s\u3015 🄫c 🄬r 🄭cd 🄮wz 🅊hv 🅋mv",
   "🅌sd 🅍ss 🅎ppv 🅏wc 🅪mc 🅫md 🅬mr 🆐dj 🈀\u307B\u304B 🈁\u30B3\u30B3 🈂\u30B5 🈐\u624B 🈑\u5B57 🈒\u53CC",
   "🈓\u30C7 🈔\u4E8C 🈕\u591A 🈖\u89E3 🈗\u5929 🈘\u4EA4 🈙\u6620 🈚\u7121 🈛\u6599 🈜\u524D 🈝\u5F8C",
   "🈞\u518D 🈟\u65B0 🈠\u521D 🈡\u7D42 🈢\u751F 🈣\u8CA9 🈤\u58F0 🈥\u5439 🈦\u6F14 🈧\u6295 🈨\u6355",
   "🈩\u4E00 🈪\u4E09 🈫\u904A 🈬\u5DE6 🈭\u4E2D 🈮\u53F3 🈯\u6307 🈰\u8D70 🈱\u6253 🈲\u7981 🈳\u7A7A",
   "🈴\u5408 🈵\u6E80 🈶\u6709 🈷\u6708 🈸\u7533 🈹\u5272 🈺\u55B6 🈻\u914D 🉀\u3014\u672C\u3015",
   "🉁\u3014\u4E09\u3015 🉂\u3014\u4E8C\u3015 🉃\u3014\u5B89\u3015 🉄\u3014\u70B9\u3015",
   "🉅\u3014\u6253\u3015 🉆\u3014\u76D7\u3015 🉇\u3014\u52DD\u3015 🉈\u3014\u6557\u3015 🉐\u5F97",
   "🉑\u53EF 丽\u4E3D 丸\u4E38 乁\u4E41 𠄢𠄢 你\u4F60 侮\u4FAE 侻\u4FBB 倂\u5002 偺\u507A 備\u5099 僧\u50E7",
   "像\u50CF 㒞\u349E 𠘺𠘺 免\u514D 兔\u5154 兤\u5164 具\u5177 𠔜𠔜 㒹\u34B9 內\u5167 再\u518D 𠕋𠕋 冗\u5197",
   "冤\u51A4 仌\u4ECC 冬\u51AC 况\u51B5 𩇟𩇟 凵\u51F5 刃\u5203 㓟\u34DF 刻\u523B 剆\u5246 割\u5272 剷\u5277",
   "㔕\u3515 勇\u52C7 勉\u52C9 勤\u52E4 勺\u52FA 北\u5317 卉\u5349 卑\u5351 博\u535A 即\u5373 卿\u537F",
   "卿\u537F 𠨬𠨬 灰\u7070 及\u53CA 叟\u53DF 𠭣𠭣 叫\u53EB 叱\u53F1 吆\u5406 咞\u549E 吸\u5438 呈\u5448 周\u5468",
   "咢\u54A2 哶\u54F6 唐\u5510 啓\u5553 啣\u5563 善\u5584 善\u5584 喙\u5599 喫\u55AB 喳\u55B3 嗂\u55C2",
   "圖\u5716 嘆\u5606 圗\u5717 噑\u5651 噴\u5674 切\u5207 壮\u58EE 城\u57CE 埴\u57F4 堍\u580D 型\u578B",
   "堲\u5832 報\u5831 墬\u58AC 𡓤𡓤 売\u58F2 壷\u58F7 夆\u5906 多\u591A 夢\u5922 奢\u5962 𡚨𡚨 𡛪𡛪 姬\u59EC",
   "娛\u5A1B 娧\u5A27 姘\u59D8 婦\u5A66 㛮\u36EE 㛼\u36FC 嬈\u5B08 嬾\u5B3E 嬾\u5B3E 𡧈𡧈 寃\u5BC3 寘\u5BD8",
   "寧\u5BE7 寳\u5BF3 𡬘𡬘 寿\u5BFF 将\u5C06 当\u5F53 尢\u5C22 㞁\u3781 屠\u5C60 屮\u5C6E 峀\u5CC0 岍\u5C8D",
   "嵃\u5D43 嵮\u5D6E 嵫\u5D6B 嵼\u5D7C 㠯\u382F 巽\u5DFD 帨\u5E28 帽\u5E3D 幩\u5E69 㡢\u3862 𢆃𢆃 㡼\u387C",
   "庰\u5EB0 庳\u5EB3 庶\u5EB6 廊\u5ECA 𪎒𪎒 廾\u5EFE 𢌱𢌱 𢌱𢌱 舁\u8201 弢\u5F22 弢\u5F22 㣇\u38C7 𣊸𣊸 𦇚𦇚 形\u5F62",
   "彫\u5F6B 㣣\u38E3 徚\u5F9A 忍\u5FCD 志\u5FD7 忹\u5FF9 悁\u6081 㤺\u393A 㤜\u391C 悔\u6094 𢛔𢛔 惇\u60C7",
   "慈\u6148 慌\u614C 慎\u614E 慌\u614C 慺\u617A 憎\u618E 憲\u61B2 憤\u61A4 憯\u61AF 懞\u61DE 懲\u61F2",
   "懶\u61F6 成\u6210 戛\u621B 扝\u625D 抱\u62B1 拔\u62D4 捐\u6350 𢬌𢬌 挽\u633D 拼\u62FC 捨\u6368 掃\u6383",
   "揤\u63E4 𢯱𢯱 搢\u6422 揅\u63C5 掩\u63A9 㨮\u3A2E 摩\u6469 摾\u647E 撝\u649D 摷\u6477 㩬\u3A6C 敏\u654F",
   "敬\u656C 𣀊𣀊 旣\u65E3 書\u66F8 晉\u6649 㬙\u3B19 暑\u6691 㬈\u3B08 㫤\u3AE4 冒\u5192 冕\u5195 最\u6700",
   "暜\u669C 肭\u80AD 䏙\u43D9 朗\u6717 望\u671B 朡\u6721 杞\u675E 杓\u6753 𣏃𣏃 㭉\u3B49 柺\u67FA 枅\u6785",
   "桒\u6852 梅\u6885 𣑭𣑭 梎\u688E 栟\u681F 椔\u6914 㮝\u3B9D 楂\u6942 榣\u69A3 槪\u69EA 檨\u6AA8 𣚣𣚣 櫛\u6ADB",
   "㰘\u3C18 次\u6B21 𣢧𣢧 歔\u6B54 㱎\u3C4E 歲\u6B72 殟\u6B9F 𣪍𣪍 𡴋𡴋 𣫺𣫺 汎\u6C4E 𣲼𣲼 沿\u6CBF 泍\u6CCD 汧\u6C67",
   "洖\u6D16 派\u6D3E 海\u6D77 流\u6D41 浩\u6D69 浸\u6D78 涅\u6D85 𣴞𣴞 洴\u6D34 港\u6E2F 湮\u6E6E 㴳\u3D33",
   "滋\u6ECB 滇\u6EC7 𣻑𣻑 淹\u6DF9 潮\u6F6E 𣽞𣽞 𣾎𣾎 濆\u6FC6 瀹\u7039 瀞\u701E 瀛\u701B 㶖\u3D96 灊\u704A",
   "災\u707D 灷\u7077 炭\u70AD 𠔥𠔥 煅\u7145 𤉣𤉣 熜\u719C 𤎫𤎫 爨\u7228 爵\u7235 牐\u7250 𤘈𤘈 犀\u7280 犕\u7295 𤜵𤜵",
   "𤠔𤠔 獺\u737A 王\u738B 㺬\u3EAC 玥\u73A5 㺸\u3EB8 㺸\u3EB8 瑇\u7447 瑜\u745C 瑱\u7471 璅\u7485 瓊\u74CA",
   "㼛\u3F1B 甤\u7524 𤰶𤰶 甾\u753E 𤲒𤲒 異\u7570 𢆟𢆟 瘐\u7610 𤾡𤾡 𤾸𤾸 𥁄𥁄 㿼\u3FFC 䀈\u4008 直\u76F4 𥃳𥃳 𥃲𥃲 𥄙𥄙 𥄳𥄳",
   "真\u771F 睊\u774A 䀹\u4039 瞋\u778B 䁆\u4046 䂖\u4096 𥐝𥐝 硎\u784E 碌\u788C 磌\u78CC 䃣\u40E3 𥘦𥘦 祖\u7956",
   "𥚚𥚚 𥛅𥛅 福\u798F 秫\u79EB 䄯\u412F 穀\u7A40 穊\u7A4A 穏\u7A4F 𥥼𥥼 𥪧𥪧 𥪧𥪧 竮\u7AEE 䈂\u4202 𥮫𥮫 篆\u7BC6",
   "築\u7BC9 䈧\u4227 𥲀𥲀 糒\u7CD2 䊠\u42A0 糨\u7CE8 糣\u7CE3 紀\u7D00 𥾆𥾆 絣\u7D63 䌁\u4301 緇\u7DC7 縂\u7E02",
   "繅\u7E45 䌴\u4334 𦈨𦈨 𦉇𦉇 䍙\u4359 𦋙𦋙 罺\u7F7A 𦌾𦌾 羕\u7F95 翺\u7FFA 者\u8005 𦓚𦓚 𦔣𦔣 聠\u8060 𦖨𦖨 聰\u8070",
   "𣍟𣍟 䏕\u43D5 育\u80B2 脃\u8103 䐋\u440B 脾\u813E 媵\u5AB5 𦞧𦞧 𦞵𦞵 𣎓𣎓 𣎜𣎜 舁\u8201 舄\u8204 辞\u8F9E 䑫\u446B",
   "芑\u8291 芋\u828B 芝\u829D 劳\u52B3 花\u82B1 芳\u82B3 芽\u82BD 苦\u82E6 𦬼𦬼 若\u82E5 茝\u831D 荣\u8363",
   "莭\u83AD 茣\u8323 莽\u83BD 菧\u83E7 著\u8457 荓\u8353 菊\u83CA 菌\u83CC 菜\u83DC 𦰶𦰶 𦵫𦵫 𦳕𦳕 䔫\u452B",
   "蓱\u84F1 蓳\u84F3 蔖\u8516 𧏊𧏊 蕤\u8564 𦼬𦼬 䕝\u455D 䕡\u4561 𦾱𦾱 𧃒𧃒 䕫\u456B 虐\u8650 虜\u865C 虧\u8667",
   "虩\u8669 蚩\u86A9 蚈\u8688 蜎\u870E 蛢\u86E2 蝹\u8779 蜨\u8728 蝫\u876B 螆\u8786 䗗\u45D7 蟡\u87E1",
   "蠁\u8801 䗹\u45F9 衠\u8860 衣\u8863 𧙧𧙧 裗\u88D7 裞\u88DE 䘵\u4635 裺\u88FA 㒻\u34BB 𧢮𧢮 𧥦𧥦 䚾\u46BE",
   "䛇\u46C7 誠\u8AA0 諭\u8AED 變\u8B8A 豕\u8C55 𧲨𧲨 貫\u8CAB 賁\u8CC1 贛\u8D1B 起\u8D77 𧼯𧼯 𠠄𠠄 跋\u8DCB",
   "趼\u8DBC 跰\u8DF0 𠣞𠣞 軔\u8ED4 輸\u8F38 𨗒𨗒 𨗭𨗭 邔\u9094 郱\u90F1 鄑\u9111 𨜮𨜮 鄛\u911B 鈸\u9238 鉼\u927C",
   "鏹\u93F9 鐕\u9415 𨯺𨯺 開\u958B 䦕\u4995 閷\u95B7 𨵷𨵷 䧦\u49E6 雃\u96C3 嶲\u5DB2 霣\u9723 𩅅𩅅 𩈚𩈚 䩮\u4A6E",
   "䩶\u4A76 韠\u97E0 𩐊𩐊 䪲\u4AB2 𩒖𩒖 頋\u980B 頋\u980B 頩\u9829 𩖶𩖶 飢\u98E2 䬳\u4B33 餩\u9929 馧\u99A7",
   "駂\u99C2 駾\u99FE 䯎\u4BCE 𩬰𩬰 鬒\u9B12 鱀\u9C40 鳽\u9CFD 䳎\u4CCE 䳭\u4CED 鵧\u9D67 𪃎𪃎 䳸\u4CF8 𪄅𪄅 𪈎𪈎 𪊑𪊑",
   "麻\u9EBB 䵖\u4D56 黹\u9EF9 黾\u9EFE 鼅\u9F05 鼏\u9F0F 鼖\u9F16 鼻\u9F3B 𪘀𪘀"]

end ImportCensus.Url
