import SchemaQueries.Text.Run

/-!
# The mapping of domain names

The mapping table of Unicode's rules for domain names in all scripts, from `0x80` on: which
characters are dropped, which stand for others, and which may stand in a name. Below `0x80` the
capital letters stand for the small ones, and every other character for itself.

## Main definitions

* `Network.Domain.ignoredRuns` — the code points that are dropped.
* `Network.Domain.mappedRuns`, `Network.Domain.mappedBlocks`, `Network.Domain.mappedSequences` —
  the code points that stand for others: by a distance, one by one, and for more than one.
* `Network.Domain.validRuns` — the code points that stand for themselves.
-/

set_option autoImplicit false
set_option relaxedAutoImplicit false

namespace SchemaQueries.Network.Domain

open SchemaQueries.Text (Run)

/-- The code points from `0x80` on that are dropped from a name. -/
def ignoredRuns : List Run := [
  ⟨0xAD, 0xAD, 1⟩, ⟨0x34F, 0x34F, 1⟩, ⟨0x115F, 0x1160, 1⟩, ⟨0x17B4, 0x17B5, 1⟩, ⟨0x180B, 0x180F, 1⟩,
  ⟨0x200B, 0x200B, 1⟩, ⟨0x2060, 0x2064, 1⟩, ⟨0x206A, 0x206F, 1⟩, ⟨0x3164, 0x3164, 1⟩,
  ⟨0xFE00, 0xFE0F, 1⟩, ⟨0xFEFF, 0xFEFF, 1⟩, ⟨0xFFA0, 0xFFA0, 1⟩, ⟨0x1BCA0, 0x1BCA3, 1⟩,
  ⟨0x1D173, 0x1D17A, 1⟩, ⟨0xE0100, 0xE01EF, 1⟩]

/-- The runs of code points that stand for others at the same distance, with that distance. -/
def mappedRuns : List (Run × Int) := [
  (⟨0xB2, 0xB3, 1⟩, -128), (⟨0xC0, 0xD6, 1⟩, 32), (⟨0xD8, 0xDE, 1⟩, 32), (⟨0x100, 0x12E, 2⟩, 1),
  (⟨0x134, 0x136, 2⟩, 1), (⟨0x139, 0x13D, 2⟩, 1), (⟨0x141, 0x147, 2⟩, 1), (⟨0x14A, 0x176, 2⟩, 1),
  (⟨0x179, 0x17D, 2⟩, 1), (⟨0x182, 0x184, 2⟩, 1), (⟨0x189, 0x18A, 1⟩, 205), (⟨0x1A0, 0x1A4, 2⟩, 1),
  (⟨0x1B1, 0x1B2, 1⟩, 217), (⟨0x1B3, 0x1B5, 2⟩, 1), (⟨0x1CD, 0x1DB, 2⟩, 1), (⟨0x1DE, 0x1EE, 2⟩, 1),
  (⟨0x1F8, 0x21E, 2⟩, 1), (⟨0x222, 0x232, 2⟩, 1), (⟨0x246, 0x24E, 2⟩, 1), (⟨0x340, 0x341, 1⟩, -64),
  (⟨0x370, 0x372, 2⟩, 1), (⟨0x388, 0x38A, 1⟩, 37), (⟨0x38E, 0x38F, 1⟩, 63), (⟨0x391, 0x3A1, 1⟩, 32),
  (⟨0x3A3, 0x3AB, 1⟩, 32), (⟨0x3D8, 0x3EE, 2⟩, 1), (⟨0x3FD, 0x3FF, 1⟩, -130),
  (⟨0x400, 0x40F, 1⟩, 80), (⟨0x410, 0x42F, 1⟩, 32), (⟨0x460, 0x480, 2⟩, 1), (⟨0x48A, 0x4BE, 2⟩, 1),
  (⟨0x4C1, 0x4CD, 2⟩, 1), (⟨0x4D0, 0x52E, 2⟩, 1), (⟨0x531, 0x556, 1⟩, 48),
  (⟨0x10A0, 0x10C5, 1⟩, 7264), (⟨0x13F8, 0x13FD, 1⟩, -8), (⟨0x1C83, 0x1C84, 1⟩, -6210),
  (⟨0x1C90, 0x1CBA, 1⟩, -3008), (⟨0x1CBD, 0x1CBF, 1⟩, -3008), (⟨0x1D2E, 0x1D30, 2⟩, -7372),
  (⟨0x1D33, 0x1D3A, 1⟩, -7372), (⟨0x1D40, 0x1D41, 1⟩, -7372), (⟨0x1D44, 0x1D45, 1⟩, -6900),
  (⟨0x1D48, 0x1D49, 1⟩, -7396), (⟨0x1D4B, 0x1D4C, 1⟩, -6896), (⟨0x1D54, 0x1D55, 1⟩, -62),
  (⟨0x1D57, 0x1D58, 1⟩, -7395), (⟨0x1D5D, 0x1D5F, 1⟩, -6571), (⟨0x1D60, 0x1D61, 1⟩, -6554),
  (⟨0x1D64, 0x1D65, 1⟩, -7407), (⟨0x1D66, 0x1D67, 1⟩, -6580), (⟨0x1D69, 0x1D6A, 1⟩, -6563),
  (⟨0x1DA4, 0x1DA6, 1⟩, -6972), (⟨0x1DAE, 0x1DB1, 1⟩, -6972), (⟨0x1DB3, 0x1DB4, 1⟩, -6961),
  (⟨0x1DB6, 0x1DB7, 1⟩, -6957), (⟨0x1DB9, 0x1DBA, 1⟩, -6958), (⟨0x1DBC, 0x1DBE, 1⟩, -6956),
  (⟨0x1E00, 0x1E94, 2⟩, 1), (⟨0x1EA0, 0x1EFE, 2⟩, 1), (⟨0x1F08, 0x1F0F, 1⟩, -8),
  (⟨0x1F18, 0x1F1D, 1⟩, -8), (⟨0x1F28, 0x1F2F, 1⟩, -8), (⟨0x1F38, 0x1F3F, 1⟩, -8),
  (⟨0x1F48, 0x1F4D, 1⟩, -8), (⟨0x1F59, 0x1F5F, 2⟩, -8), (⟨0x1F68, 0x1F6F, 1⟩, -8),
  (⟨0x1FB8, 0x1FB9, 1⟩, -8), (⟨0x1FD8, 0x1FD9, 1⟩, -8), (⟨0x1FE8, 0x1FE9, 1⟩, -8),
  (⟨0x2074, 0x2079, 1⟩, -8256), (⟨0x207D, 0x207E, 1⟩, -8277), (⟨0x2080, 0x2089, 1⟩, -8272),
  (⟨0x208D, 0x208E, 1⟩, -8293), (⟨0x2096, 0x2099, 1⟩, -8235), (⟨0x209B, 0x209C, 1⟩, -8232),
  (⟨0x210A, 0x210B, 1⟩, -8355), (⟨0x2113, 0x2115, 2⟩, -8359), (⟨0x2119, 0x211B, 1⟩, -8361),
  (⟨0x212C, 0x212D, 1⟩, -8394), (⟨0x2130, 0x2131, 1⟩, -8395), (⟨0x2135, 0x2138, 1⟩, -7013),
  (⟨0x2146, 0x2147, 1⟩, -8418), (⟨0x2148, 0x2149, 1⟩, -8415), (⟨0x216D, 0x216E, 1⟩, -8458),
  (⟨0x217D, 0x217E, 1⟩, -8474), (⟨0x2329, 0x232A, 1⟩, 3295), (⟨0x2460, 0x2468, 1⟩, -9263),
  (⟨0x24B6, 0x24CF, 1⟩, -9301), (⟨0x24D0, 0x24E9, 1⟩, -9327), (⟨0x2C00, 0x2C2F, 1⟩, 48),
  (⟨0x2C67, 0x2C6B, 2⟩, 1), (⟨0x2C7E, 0x2C7F, 1⟩, -10815), (⟨0x2C80, 0x2CE2, 2⟩, 1),
  (⟨0x2CEB, 0x2CED, 2⟩, 1), (⟨0x3039, 0x303A, 1⟩, 8971), (⟨0x3131, 0x3132, 1⟩, -8241),
  (⟨0x3135, 0x3136, 1⟩, -8073), (⟨0x3137, 0x3139, 1⟩, -8244), (⟨0x313A, 0x313F, 1⟩, -8074),
  (⟨0x3141, 0x3143, 1⟩, -8251), (⟨0x3145, 0x314E, 1⟩, -8252), (⟨0x314F, 0x3163, 1⟩, -8174),
  (⟨0x3165, 0x3166, 1⟩, -8273), (⟨0x3167, 0x3168, 1⟩, -8096), (⟨0x3171, 0x3172, 1⟩, -8276),
  (⟨0x3174, 0x3175, 1⟩, -8274), (⟨0x3178, 0x317C, 1⟩, -8269), (⟨0x3182, 0x3183, 1⟩, -8081),
  (⟨0x3184, 0x3186, 1⟩, -8237), (⟨0x3187, 0x3188, 1⟩, -8195), (⟨0x318A, 0x318B, 1⟩, -8185),
  (⟨0x3261, 0x3262, 1⟩, -8543), (⟨0x3263, 0x3265, 1⟩, -8542), (⟨0x3267, 0x3268, 1⟩, -8540),
  (⟨0x3269, 0x326D, 1⟩, -8539), (⟨0x32D4, 0x32D5, 1⟩, -554), (⟨0x32E4, 0x32E9, 1⟩, -538),
  (⟨0x32EE, 0x32F2, 1⟩, -528), (⟨0x32F5, 0x32FA, 1⟩, -525), (⟨0x32FB, 0x32FE, 1⟩, -524),
  (⟨0xA640, 0xA66C, 2⟩, 1), (⟨0xA680, 0xA69A, 2⟩, 1), (⟨0xA722, 0xA72E, 2⟩, 1),
  (⟨0xA732, 0xA76E, 2⟩, 1), (⟨0xA779, 0xA77B, 2⟩, 1), (⟨0xA77E, 0xA786, 2⟩, 1),
  (⟨0xA790, 0xA792, 2⟩, 1), (⟨0xA796, 0xA7A8, 2⟩, 1), (⟨0xA7B4, 0xA7C2, 2⟩, 1),
  (⟨0xA7C7, 0xA7C9, 2⟩, 1), (⟨0xA7CC, 0xA7DA, 2⟩, 1), (⟨0xAB70, 0xABBF, 1⟩, -38864),
  (⟨0xFA52, 0xFA53, 1⟩, -32965), (⟨0xFB22, 0xFB23, 1⟩, -62799), (⟨0xFB24, 0xFB26, 1⟩, -62793),
  (⟨0xFB7D, 0xFB7E, 1⟩, -62711), (⟨0xFB9F, 0xFBA0, 1⟩, -62693), (⟨0xFBA5, 0xFBA6, 1⟩, -62693),
  (⟨0xFBAF, 0xFBB0, 1⟩, -62685), (⟨0xFE13, 0xFE14, 1⟩, -64985), (⟨0xFE17, 0xFE18, 1⟩, -52737),
  (⟨0xFE35, 0xFE36, 1⟩, -65037), (⟨0xFE39, 0xFE3A, 1⟩, -52773), (⟨0xFE3B, 0xFE3C, 1⟩, -52779),
  (⟨0xFE3D, 0xFE3E, 1⟩, -52787), (⟨0xFE3F, 0xFE40, 1⟩, -52791), (⟨0xFE41, 0xFE44, 1⟩, -52789),
  (⟨0xFE59, 0xFE5A, 1⟩, -65073), (⟨0xFE5D, 0xFE5E, 1⟩, -52809), (⟨0xFE61, 0xFE62, 1⟩, -65079),
  (⟨0xFE69, 0xFE6A, 1⟩, -65093), (⟨0xFE80, 0xFE81, 1⟩, -63583), (⟨0xFE82, 0xFE83, 1⟩, -63584),
  (⟨0xFE84, 0xFE85, 1⟩, -63585), (⟨0xFE86, 0xFE87, 1⟩, -63586), (⟨0xFE88, 0xFE89, 1⟩, -63587),
  (⟨0xFE8C, 0xFE8D, 1⟩, -63590), (⟨0xFE8E, 0xFE8F, 1⟩, -63591), (⟨0xFE92, 0xFE93, 1⟩, -63594),
  (⟨0xFE94, 0xFE95, 1⟩, -63595), (⟨0xFE98, 0xFE99, 1⟩, -63598), (⟨0xFE9C, 0xFE9D, 1⟩, -63601),
  (⟨0xFEA0, 0xFEA1, 1⟩, -63604), (⟨0xFEA4, 0xFEA5, 1⟩, -63607), (⟨0xFEA8, 0xFEA9, 1⟩, -63610),
  (⟨0xFEAA, 0xFEAB, 1⟩, -63611), (⟨0xFEAC, 0xFEAD, 1⟩, -63612), (⟨0xFEAE, 0xFEAF, 1⟩, -63613),
  (⟨0xFEB0, 0xFEB1, 1⟩, -63614), (⟨0xFEB4, 0xFEB5, 1⟩, -63617), (⟨0xFEB8, 0xFEB9, 1⟩, -63620),
  (⟨0xFEBC, 0xFEBD, 1⟩, -63623), (⟨0xFEC0, 0xFEC1, 1⟩, -63626), (⟨0xFEC4, 0xFEC5, 1⟩, -63629),
  (⟨0xFEC8, 0xFEC9, 1⟩, -63632), (⟨0xFECC, 0xFECD, 1⟩, -63635), (⟨0xFED4, 0xFED5, 1⟩, -63635),
  (⟨0xFED8, 0xFED9, 1⟩, -63638), (⟨0xFEDC, 0xFEDD, 1⟩, -63641), (⟨0xFEE0, 0xFEE1, 1⟩, -63644),
  (⟨0xFEE4, 0xFEE5, 1⟩, -63647), (⟨0xFEE8, 0xFEE9, 1⟩, -63650), (⟨0xFEEC, 0xFEED, 1⟩, -63653),
  (⟨0xFEEE, 0xFEEF, 1⟩, -63654), (⟨0xFEF0, 0xFEF1, 1⟩, -63655), (⟨0xFF01, 0xFF20, 1⟩, -65248),
  (⟨0xFF21, 0xFF3A, 1⟩, -65216), (⟨0xFF3B, 0xFF5E, 1⟩, -65248), (⟨0xFF5F, 0xFF60, 1⟩, -54746),
  (⟨0xFF62, 0xFF63, 1⟩, -53078), (⟨0xFF75, 0xFF76, 1⟩, -52939), (⟨0xFF85, 0xFF8A, 1⟩, -52923),
  (⟨0xFF8F, 0xFF93, 1⟩, -52913), (⟨0xFF96, 0xFF9B, 1⟩, -52910), (⟨0xFF9E, 0xFF9F, 1⟩, -52997),
  (⟨0xFFA1, 0xFFA2, 1⟩, -61089), (⟨0xFFA5, 0xFFA6, 1⟩, -60921), (⟨0xFFA7, 0xFFA9, 1⟩, -61092),
  (⟨0xFFAA, 0xFFAF, 1⟩, -60922), (⟨0xFFB1, 0xFFB3, 1⟩, -61099), (⟨0xFFB5, 0xFFBE, 1⟩, -61100),
  (⟨0xFFC2, 0xFFC7, 1⟩, -61025), (⟨0xFFCA, 0xFFCF, 1⟩, -61027), (⟨0xFFD2, 0xFFD7, 1⟩, -61029),
  (⟨0xFFDA, 0xFFDC, 1⟩, -61031), (⟨0xFFE0, 0xFFE1, 1⟩, -65342), (⟨0xFFE9, 0xFFEC, 1⟩, -56921),
  (⟨0x10400, 0x10427, 1⟩, 40), (⟨0x104B0, 0x104D3, 1⟩, 40), (⟨0x10570, 0x1057A, 1⟩, 39),
  (⟨0x1057C, 0x1058A, 1⟩, 39), (⟨0x1058C, 0x10592, 1⟩, 39), (⟨0x10594, 0x10595, 1⟩, 39),
  (⟨0x10781, 0x10782, 1⟩, -66737), (⟨0x1078B, 0x1078C, 1⟩, -66869), (⟨0x10799, 0x1079A, 1⟩, -66799),
  (⟨0x107A3, 0x107A4, 1⟩, -66861), (⟨0x107A8, 0x107A9, 1⟩, -66859), (⟨0x107B3, 0x107B4, 1⟩, -66834),
  (⟨0x107B6, 0x107B8, 1⟩, -67062), (⟨0x10C80, 0x10CB2, 1⟩, 64), (⟨0x10D50, 0x10D65, 1⟩, 32),
  (⟨0x118A0, 0x118BF, 1⟩, 32), (⟨0x16E40, 0x16E5F, 1⟩, 32), (⟨0x16EA0, 0x16EB8, 1⟩, 27),
  (⟨0x1CCD6, 0x1CCEF, 1⟩, -117877), (⟨0x1CCF0, 0x1CCF9, 1⟩, -117952),
  (⟨0x1D400, 0x1D419, 1⟩, -119711), (⟨0x1D41A, 0x1D433, 1⟩, -119737),
  (⟨0x1D434, 0x1D44D, 1⟩, -119763), (⟨0x1D44E, 0x1D454, 1⟩, -119789),
  (⟨0x1D456, 0x1D467, 1⟩, -119789), (⟨0x1D468, 0x1D481, 1⟩, -119815),
  (⟨0x1D482, 0x1D49B, 1⟩, -119841), (⟨0x1D49C, 0x1D49E, 2⟩, -119867),
  (⟨0x1D4A5, 0x1D4A6, 1⟩, -119867), (⟨0x1D4A9, 0x1D4AC, 1⟩, -119867),
  (⟨0x1D4AE, 0x1D4B5, 1⟩, -119867), (⟨0x1D4B6, 0x1D4B9, 1⟩, -119893),
  (⟨0x1D4BB, 0x1D4BD, 2⟩, -119893), (⟨0x1D4BE, 0x1D4C3, 1⟩, -119893),
  (⟨0x1D4C5, 0x1D4CF, 1⟩, -119893), (⟨0x1D4D0, 0x1D4E9, 1⟩, -119919),
  (⟨0x1D4EA, 0x1D503, 1⟩, -119945), (⟨0x1D504, 0x1D505, 1⟩, -119971),
  (⟨0x1D507, 0x1D50A, 1⟩, -119971), (⟨0x1D50D, 0x1D514, 1⟩, -119971),
  (⟨0x1D516, 0x1D51C, 1⟩, -119971), (⟨0x1D51E, 0x1D537, 1⟩, -119997),
  (⟨0x1D538, 0x1D539, 1⟩, -120023), (⟨0x1D53B, 0x1D53E, 1⟩, -120023),
  (⟨0x1D540, 0x1D544, 1⟩, -120023), (⟨0x1D54A, 0x1D550, 1⟩, -120023),
  (⟨0x1D552, 0x1D56B, 1⟩, -120049), (⟨0x1D56C, 0x1D585, 1⟩, -120075),
  (⟨0x1D586, 0x1D59F, 1⟩, -120101), (⟨0x1D5A0, 0x1D5B9, 1⟩, -120127),
  (⟨0x1D5BA, 0x1D5D3, 1⟩, -120153), (⟨0x1D5D4, 0x1D5ED, 1⟩, -120179),
  (⟨0x1D5EE, 0x1D607, 1⟩, -120205), (⟨0x1D608, 0x1D621, 1⟩, -120231),
  (⟨0x1D622, 0x1D63B, 1⟩, -120257), (⟨0x1D63C, 0x1D655, 1⟩, -120283),
  (⟨0x1D656, 0x1D66F, 1⟩, -120309), (⟨0x1D670, 0x1D689, 1⟩, -120335),
  (⟨0x1D68A, 0x1D6A3, 1⟩, -120361), (⟨0x1D6A8, 0x1D6B8, 1⟩, -119543),
  (⟨0x1D6BA, 0x1D6C0, 1⟩, -119543), (⟨0x1D6C2, 0x1D6D2, 1⟩, -119569),
  (⟨0x1D6D4, 0x1D6DA, 1⟩, -119569), (⟨0x1D6E2, 0x1D6F2, 1⟩, -119601),
  (⟨0x1D6F4, 0x1D6FA, 1⟩, -119601), (⟨0x1D6FC, 0x1D70C, 1⟩, -119627),
  (⟨0x1D70E, 0x1D714, 1⟩, -119627), (⟨0x1D71C, 0x1D72C, 1⟩, -119659),
  (⟨0x1D72E, 0x1D734, 1⟩, -119659), (⟨0x1D736, 0x1D746, 1⟩, -119685),
  (⟨0x1D748, 0x1D74E, 1⟩, -119685), (⟨0x1D756, 0x1D766, 1⟩, -119717),
  (⟨0x1D768, 0x1D76E, 1⟩, -119717), (⟨0x1D770, 0x1D780, 1⟩, -119743),
  (⟨0x1D782, 0x1D788, 1⟩, -119743), (⟨0x1D790, 0x1D7A0, 1⟩, -119775),
  (⟨0x1D7A2, 0x1D7A8, 1⟩, -119775), (⟨0x1D7AA, 0x1D7BA, 1⟩, -119801),
  (⟨0x1D7BC, 0x1D7C2, 1⟩, -119801), (⟨0x1D7CE, 0x1D7D7, 1⟩, -120734),
  (⟨0x1D7D8, 0x1D7E1, 1⟩, -120744), (⟨0x1D7E2, 0x1D7EB, 1⟩, -120754),
  (⟨0x1D7EC, 0x1D7F5, 1⟩, -120764), (⟨0x1D7F6, 0x1D7FF, 1⟩, -120774),
  (⟨0x1E030, 0x1E038, 1⟩, -121856), (⟨0x1E039, 0x1E03B, 1⟩, -121855),
  (⟨0x1E03C, 0x1E046, 1⟩, -121854), (⟨0x1E048, 0x1E049, 1⟩, -121851),
  (⟨0x1E051, 0x1E059, 1⟩, -121889), (⟨0x1E05A, 0x1E05B, 1⟩, -121888),
  (⟨0x1E05C, 0x1E05D, 1⟩, -121886), (⟨0x1E05F, 0x1E064, 1⟩, -121884),
  (⟨0x1E065, 0x1E066, 1⟩, -121883), (⟨0x1E900, 0x1E921, 1⟩, 34), (⟨0x1EE00, 0x1EE01, 1⟩, -124889),
  (⟨0x1EE0A, 0x1EE0D, 1⟩, -124871), (⟨0x1EE15, 0x1EE16, 1⟩, -124907),
  (⟨0x1EE2A, 0x1EE2D, 1⟩, -124903), (⟨0x1EE35, 0x1EE36, 1⟩, -124939),
  (⟨0x1EE4B, 0x1EE4D, 2⟩, -124935), (⟨0x1EE6A, 0x1EE6C, 2⟩, -124967),
  (⟨0x1EE75, 0x1EE76, 1⟩, -125003), (⟨0x1EE80, 0x1EE81, 1⟩, -125017),
  (⟨0x1EE84, 0x1EE85, 1⟩, -124989), (⟨0x1EE8B, 0x1EE8D, 1⟩, -124999),
  (⟨0x1EE95, 0x1EE96, 1⟩, -125035), (⟨0x1EEAB, 0x1EEAD, 1⟩, -125031),
  (⟨0x1EEB5, 0x1EEB6, 1⟩, -125067), (⟨0x1F130, 0x1F149, 1⟩, -127183),
  (⟨0x1FBF0, 0x1FBF9, 1⟩, -129984), (⟨0x2F829, 0x2F82A, 1⟩, -173348),
  (⟨0x2F881, 0x2F882, 1⟩, -170656), (⟨0x2F8F5, 0x2F8F6, 1⟩, -167227),
  (⟨0x2F945, 0x2F946, 1⟩, -164391), (⟨0x2F9E8, 0x2F9E9, 1⟩, -157457)]

set_option maxRecDepth 10000 in
/-- Blocks of code points that each stand for one other: the first code point of a block, and what
it and the code points behind it stand for. -/
def mappedBlocks : List (Nat × List Nat) := [
  (0xA0, [0x20]), (0xAA, [0x61]), (0xB5, [0x3BC]), (0xB9, [0x31, 0x6F]), (0x178, [0xFF]),
  (0x17F, [0x73]), (0x181, [0x253]), (0x186, [0x254, 0x188]), (0x18B, [0x18C]), (0x18E, [0x1DD,
    0x259, 0x25B, 0x192]), (0x193, [0x260, 0x263]), (0x196, [0x269, 0x268, 0x199]), (0x19C, [0x26F,
    0x272]), (0x19F, [0x275]), (0x1A6, [0x280, 0x1A8]), (0x1A9, [0x283]), (0x1AC, [0x1AD]),
  (0x1AE, [0x288, 0x1B0]), (0x1B7, [0x292, 0x1B9]), (0x1BC, [0x1BD]), (0x1F4, [0x1F5]),
  (0x1F6, [0x195, 0x1BF]), (0x220, [0x19E]), (0x23A, [0x2C65, 0x23C]), (0x23D, [0x19A, 0x2C66]),
  (0x241, [0x242]), (0x243, [0x180, 0x289, 0x28C]), (0x2B0, [0x68, 0x266, 0x6A, 0x72, 0x279, 0x27B,
    0x281, 0x77, 0x79]), (0x2E0, [0x263, 0x6C, 0x73, 0x78, 0x295]), (0x343, [0x313]),
  (0x345, [0x3B9]), (0x374, [0x2B9]), (0x376, [0x377]), (0x37E, [0x3B, 0x3F3]), (0x386, [0x3AC,
    0xB7]), (0x38C, [0x3CC]), (0x3CF, [0x3D7, 0x3B2, 0x3B8, 0x3C5, 0x3CD, 0x3CB, 0x3C6, 0x3C0]),
  (0x3F0, [0x3BA, 0x3C1, 0x3C3]), (0x3F4, [0x3B8, 0x3B5]), (0x3F7, [0x3F8]), (0x3F9, [0x3C3,
    0x3FB]), (0x4C0, [0x4CF]), (0xF0C, [0xF0B]), (0x10C7, [0x2D27]), (0x10CD, [0x2D2D]),
  (0x10FC, [0x10DC]), (0x1C80, [0x432, 0x434, 0x43E]), (0x1C85, [0x442, 0x44A, 0x463, 0xA64B,
    0x1C8A]), (0x1D2C, [0x61, 0xE6]), (0x1D31, [0x65, 0x1DD]), (0x1D3C, [0x6F, 0x223, 0x70, 0x72]),
  (0x1D42, [0x77, 0x61]), (0x1D46, [0x1D02, 0x62]), (0x1D4A, [0x259]), (0x1D4D, [0x67]),
  (0x1D4F, [0x6B, 0x6D, 0x14B, 0x6F, 0x254]), (0x1D56, [0x70]), (0x1D59, [0x1D1D, 0x26F, 0x76,
    0x1D25]), (0x1D62, [0x69, 0x72]), (0x1D68, [0x3C1]), (0x1D78, [0x43D]), (0x1D9B, [0x252, 0x63,
    0x255, 0xF0, 0x25C, 0x66, 0x25F, 0x261, 0x265]), (0x1DA7, [0x1D7B, 0x29D, 0x26D, 0x1D85, 0x29F,
    0x271, 0x270]), (0x1DB2, [0x278]), (0x1DB5, [0x1AB]), (0x1DB8, [0x1D1C]), (0x1DBB, [0x7A]),
  (0x1DBF, [0x3B8]), (0x1E9B, [0x1E61]), (0x1E9E, [0xDF]), (0x1F71, [0x3AC]), (0x1F73, [0x3AD]),
  (0x1F75, [0x3AE]), (0x1F77, [0x3AF]), (0x1F79, [0x3CC]), (0x1F7B, [0x3CD]), (0x1F7D, [0x3CE]),
  (0x1FBA, [0x1F70, 0x3AC]), (0x1FBE, [0x3B9]), (0x1FC8, [0x1F72, 0x3AD, 0x1F74, 0x3AE]),
  (0x1FD3, [0x390]), (0x1FDA, [0x1F76, 0x3AF]), (0x1FE3, [0x3B0]), (0x1FEA, [0x1F7A, 0x3CD,
    0x1FE5]), (0x1FEF, [0x60]), (0x1FF8, [0x1F78, 0x3CC, 0x1F7C, 0x3CE]), (0x2000, [0x20, 0x20,
    0x20, 0x20, 0x20, 0x20, 0x20, 0x20, 0x20, 0x20, 0x20]), (0x2011, [0x2010]), (0x202F, [0x20]),
  (0x205F, [0x20]), (0x2070, [0x30, 0x69]), (0x207A, [0x2B, 0x2212, 0x3D]), (0x207F, [0x6E]),
  (0x208A, [0x2B, 0x2212, 0x3D]), (0x2090, [0x61, 0x65, 0x6F, 0x78, 0x259, 0x68]), (0x209A, [0x70]),
  (0x2102, [0x63]), (0x2107, [0x25B]), (0x210C, [0x68, 0x68, 0x68, 0x127, 0x69, 0x69, 0x6C]),
  (0x211C, [0x72, 0x72]), (0x2124, [0x7A]), (0x2126, [0x3C9]), (0x2128, [0x7A]), (0x212A, [0x6B,
    0xE5]), (0x212F, [0x65]), (0x2132, [0x214E, 0x6D, 0x6F]), (0x2139, [0x69]), (0x213C, [0x3C0,
    0x3B3, 0x3B3, 0x3C0, 0x2211]), (0x2145, [0x64]), (0x2160, [0x69]), (0x2164, [0x76]),
  (0x2169, [0x78]), (0x216C, [0x6C]), (0x216F, [0x6D, 0x69]), (0x2174, [0x76]), (0x2179, [0x78]),
  (0x217C, [0x6C]), (0x217F, [0x6D]), (0x2183, [0x2184]), (0x24EA, [0x30]), (0x2C60, [0x2C61]),
  (0x2C62, [0x26B, 0x1D7D, 0x27D]), (0x2C6D, [0x251, 0x271, 0x250, 0x252]), (0x2C72, [0x2C73]),
  (0x2C75, [0x2C76]), (0x2C7C, [0x6A, 0x76]), (0x2CF2, [0x2CF3]), (0x2D6F, [0x2D61]),
  (0x2E9F, [0x6BCD]), (0x2EF3, [0x9F9F]), (0x2F00, [0x4E00, 0x4E28, 0x4E36, 0x4E3F, 0x4E59, 0x4E85,
    0x4E8C, 0x4EA0, 0x4EBA, 0x513F, 0x5165, 0x516B, 0x5182, 0x5196, 0x51AB, 0x51E0, 0x51F5, 0x5200,
    0x529B, 0x52F9, 0x5315, 0x531A, 0x5338, 0x5341, 0x535C, 0x5369, 0x5382, 0x53B6, 0x53C8, 0x53E3,
    0x56D7, 0x571F, 0x58EB, 0x5902, 0x590A, 0x5915, 0x5927, 0x5973, 0x5B50, 0x5B80, 0x5BF8, 0x5C0F,
    0x5C22, 0x5C38, 0x5C6E, 0x5C71, 0x5DDB, 0x5DE5, 0x5DF1, 0x5DFE, 0x5E72, 0x5E7A, 0x5E7F, 0x5EF4,
    0x5EFE, 0x5F0B, 0x5F13, 0x5F50, 0x5F61, 0x5F73, 0x5FC3, 0x6208, 0x6236, 0x624B, 0x652F, 0x6534,
    0x6587, 0x6597, 0x65A4, 0x65B9, 0x65E0, 0x65E5, 0x66F0, 0x6708, 0x6728, 0x6B20, 0x6B62, 0x6B79,
    0x6BB3, 0x6BCB, 0x6BD4, 0x6BDB, 0x6C0F, 0x6C14, 0x6C34, 0x706B, 0x722A, 0x7236, 0x723B, 0x723F,
    0x7247, 0x7259, 0x725B, 0x72AC, 0x7384, 0x7389, 0x74DC, 0x74E6, 0x7518, 0x751F, 0x7528, 0x7530,
    0x758B, 0x7592, 0x7676, 0x767D, 0x76AE, 0x76BF, 0x76EE, 0x77DB, 0x77E2, 0x77F3, 0x793A, 0x79B8,
    0x79BE, 0x7A74, 0x7ACB, 0x7AF9, 0x7C73, 0x7CF8, 0x7F36, 0x7F51, 0x7F8A, 0x7FBD, 0x8001, 0x800C,
    0x8012, 0x8033, 0x807F, 0x8089, 0x81E3, 0x81EA, 0x81F3, 0x81FC, 0x820C, 0x821B, 0x821F, 0x826E,
    0x8272, 0x8278, 0x864D, 0x866B, 0x8840, 0x884C, 0x8863, 0x897E, 0x898B, 0x89D2, 0x8A00, 0x8C37,
    0x8C46, 0x8C55, 0x8C78, 0x8C9D, 0x8D64, 0x8D70, 0x8DB3, 0x8EAB, 0x8ECA, 0x8F9B, 0x8FB0, 0x8FB5,
    0x9091, 0x9149, 0x91C6, 0x91CC, 0x91D1, 0x9577, 0x9580, 0x961C, 0x96B6, 0x96B9, 0x96E8, 0x9751,
    0x975E, 0x9762, 0x9769, 0x97CB, 0x97ED, 0x97F3, 0x9801, 0x98A8, 0x98DB, 0x98DF, 0x9996, 0x9999,
    0x99AC, 0x9AA8, 0x9AD8, 0x9ADF, 0x9B25, 0x9B2F, 0x9B32, 0x9B3C, 0x9B5A, 0x9CE5, 0x9E75, 0x9E7F,
    0x9EA5, 0x9EBB, 0x9EC3, 0x9ECD, 0x9ED1, 0x9EF9, 0x9EFD, 0x9F0E, 0x9F13, 0x9F20, 0x9F3B, 0x9F4A,
    0x9F52, 0x9F8D, 0x9F9C, 0x9FA0]), (0x3000, [0x20]), (0x3002, [0x2E]), (0x3036, [0x3012]),
  (0x3038, [0x5341]), (0x3133, [0x11AA, 0x1102]), (0x3140, [0x111A]), (0x3144, [0x1121]),
  (0x3169, [0x11CC, 0x11CE, 0x11D3, 0x11D7, 0x11D9, 0x111C, 0x11DD, 0x11DF]), (0x3173, [0x1120]),
  (0x3176, [0x1127, 0x1129]), (0x317D, [0x1132, 0x1136, 0x1140, 0x1147, 0x114C]),
  (0x3189, [0x1188]), (0x318C, [0x1194, 0x119E, 0x11A1]), (0x3192, [0x4E00, 0x4E8C, 0x4E09, 0x56DB,
    0x4E0A, 0x4E2D, 0x4E0B, 0x7532, 0x4E59, 0x4E19, 0x4E01, 0x5929, 0x5730, 0x4EBA]),
  (0x3244, [0x554F, 0x5E7C, 0x6587, 0x7B8F]), (0x3260, [0x1100]), (0x3266, [0x1109]),
  (0x326E, [0xAC00, 0xB098, 0xB2E4, 0xB77C, 0xB9C8, 0xBC14, 0xC0AC, 0xC544, 0xC790, 0xCC28, 0xCE74,
    0xD0C0, 0xD30C, 0xD558]), (0x327E, [0xC6B0]), (0x3280, [0x4E00, 0x4E8C, 0x4E09, 0x56DB, 0x4E94,
    0x516D, 0x4E03, 0x516B, 0x4E5D, 0x5341, 0x6708, 0x706B, 0x6C34, 0x6728, 0x91D1, 0x571F, 0x65E5,
    0x682A, 0x6709, 0x793E, 0x540D, 0x7279, 0x8CA1, 0x795D, 0x52B4, 0x79D8, 0x7537, 0x5973, 0x9069,
    0x512A, 0x5370, 0x6CE8, 0x9805, 0x4F11, 0x5199, 0x6B63, 0x4E0A, 0x4E2D, 0x4E0B, 0x5DE6, 0x53F3,
    0x533B, 0x5B97, 0x5B66, 0x76E3, 0x4F01, 0x8CC7, 0x5354, 0x591C]), (0x32D0, [0x30A2, 0x30A4,
    0x30A6, 0x30A8]), (0x32D6, [0x30AD, 0x30AF, 0x30B1, 0x30B3, 0x30B5, 0x30B7, 0x30B9, 0x30BB,
    0x30BD, 0x30BF, 0x30C1, 0x30C4, 0x30C6, 0x30C8]), (0x32EA, [0x30D2, 0x30D5, 0x30D8, 0x30DB]),
  (0x32F3, [0x30E4, 0x30E6]), (0xA69C, [0x44A, 0x44C]), (0xA770, [0xA76F]), (0xA77D, [0x1D79]),
  (0xA78B, [0xA78C]), (0xA78D, [0x265]), (0xA7AA, [0x266, 0x25C, 0x261, 0x26C, 0x26A]),
  (0xA7B0, [0x29E, 0x287, 0x29D, 0xAB53]), (0xA7C4, [0xA794, 0x282, 0x1D8E]), (0xA7CB, [0x264]),
  (0xA7DC, [0x19B]), (0xA7F1, [0x73, 0x63, 0x66, 0x71, 0xA7F6]), (0xA7F8, [0x127, 0x153]),
  (0xAB5C, [0xA727, 0xAB37, 0x26B, 0xAB52]), (0xAB69, [0x28D]), (0xF900, [0x8C48, 0x66F4, 0x8ECA,
    0x8CC8, 0x6ED1, 0x4E32, 0x53E5, 0x9F9C, 0x9F9C, 0x5951, 0x91D1, 0x5587, 0x5948, 0x61F6, 0x7669,
    0x7F85, 0x863F, 0x87BA, 0x88F8, 0x908F, 0x6A02, 0x6D1B, 0x70D9, 0x73DE, 0x843D, 0x916A, 0x99F1,
    0x4E82, 0x5375, 0x6B04, 0x721B, 0x862D, 0x9E1E, 0x5D50, 0x6FEB, 0x85CD, 0x8964, 0x62C9, 0x81D8,
    0x881F, 0x5ECA, 0x6717, 0x6D6A, 0x72FC, 0x90CE, 0x4F86, 0x51B7, 0x52DE, 0x64C4, 0x6AD3, 0x7210,
    0x76E7, 0x8001, 0x8606, 0x865C, 0x8DEF, 0x9732, 0x9B6F, 0x9DFA, 0x788C, 0x797F, 0x7DA0, 0x83C9,
    0x9304, 0x9E7F, 0x8AD6, 0x58DF, 0x5F04, 0x7C60, 0x807E, 0x7262, 0x78CA, 0x8CC2, 0x96F7, 0x58D8,
    0x5C62, 0x6A13, 0x6DDA, 0x6F0F, 0x7D2F, 0x7E37, 0x964B, 0x52D2, 0x808B, 0x51DC, 0x51CC, 0x7A1C,
    0x7DBE, 0x83F1, 0x9675, 0x8B80, 0x62CF, 0x6A02, 0x8AFE, 0x4E39, 0x5BE7, 0x6012, 0x7387, 0x7570,
    0x5317, 0x78FB, 0x4FBF, 0x5FA9, 0x4E0D, 0x6CCC, 0x6578, 0x7D22, 0x53C3, 0x585E, 0x7701, 0x8449,
    0x8AAA, 0x6BBA, 0x8FB0, 0x6C88, 0x62FE, 0x82E5, 0x63A0, 0x7565, 0x4EAE, 0x5169, 0x51C9, 0x6881,
    0x7CE7, 0x826F, 0x8AD2, 0x91CF, 0x52F5, 0x5442, 0x5973, 0x5EEC, 0x65C5, 0x6FFE, 0x792A, 0x95AD,
    0x9A6A, 0x9E97, 0x9ECE, 0x529B, 0x66C6, 0x6B77, 0x8F62, 0x5E74, 0x6190, 0x6200, 0x649A, 0x6F23,
    0x7149, 0x7489, 0x79CA, 0x7DF4, 0x806F, 0x8F26, 0x84EE, 0x9023, 0x934A, 0x5217, 0x52A3, 0x54BD,
    0x70C8, 0x88C2, 0x8AAA, 0x5EC9, 0x5FF5, 0x637B, 0x6BAE, 0x7C3E, 0x7375, 0x4EE4, 0x56F9, 0x5BE7,
    0x5DBA, 0x601C, 0x73B2, 0x7469, 0x7F9A, 0x8046, 0x9234, 0x96F6, 0x9748, 0x9818, 0x4F8B, 0x79AE,
    0x91B4, 0x96B8, 0x60E1, 0x4E86, 0x50DA, 0x5BEE, 0x5C3F, 0x6599, 0x6A02, 0x71CE, 0x7642, 0x84FC,
    0x907C, 0x9F8D, 0x6688, 0x962E, 0x5289, 0x677B, 0x67F3, 0x6D41, 0x6E9C, 0x7409, 0x7559, 0x786B,
    0x7D10, 0x985E, 0x516D, 0x622E, 0x9678, 0x502B, 0x5D19, 0x6DEA, 0x8F2A, 0x5F8B, 0x6144, 0x6817,
    0x7387, 0x9686, 0x5229, 0x540F, 0x5C65, 0x6613, 0x674E, 0x68A8, 0x6CE5, 0x7406, 0x75E2, 0x7F79,
    0x88CF, 0x88E1, 0x91CC, 0x96E2, 0x533F, 0x6EBA, 0x541D, 0x71D0, 0x7498, 0x85FA, 0x96A3, 0x9C57,
    0x9E9F, 0x6797, 0x6DCB, 0x81E8, 0x7ACB, 0x7B20, 0x7C92, 0x72C0, 0x7099, 0x8B58, 0x4EC0, 0x8336,
    0x523A, 0x5207, 0x5EA6, 0x62D3, 0x7CD6, 0x5B85, 0x6D1E, 0x66B4, 0x8F3B, 0x884C, 0x964D, 0x898B,
    0x5ED3, 0x5140, 0x55C0]), (0xFA10, [0x585A]), (0xFA12, [0x6674]), (0xFA15, [0x51DE, 0x732A,
    0x76CA, 0x793C, 0x795E, 0x7965, 0x798F, 0x9756, 0x7CBE, 0x7FBD]), (0xFA20, [0x8612]),
  (0xFA22, [0x8AF8]), (0xFA25, [0x9038, 0x90FD]), (0xFA2A, [0x98EF, 0x98FC, 0x9928, 0x9DB4, 0x90DE,
    0x96B7, 0x4FAE, 0x50E7, 0x514D, 0x52C9, 0x52E4, 0x5351, 0x559D, 0x5606, 0x5668, 0x5840, 0x58A8,
    0x5C64, 0x5C6E, 0x6094, 0x6168, 0x618E, 0x61F2, 0x654F, 0x65E2, 0x6691, 0x6885, 0x6D77, 0x6E1A,
    0x6F22, 0x716E, 0x722B, 0x7422, 0x7891, 0x793E, 0x7949, 0x7948, 0x7950, 0x7956, 0x795D]),
  (0xFA54, [0x7A40, 0x7A81, 0x7BC0, 0x7DF4, 0x7E09, 0x7E41, 0x7F72, 0x8005, 0x81ED, 0x8279, 0x8279,
    0x8457, 0x8910, 0x8996, 0x8B01, 0x8B39, 0x8CD3, 0x8D08, 0x8FB6, 0x9038, 0x96E3, 0x97FF, 0x983B,
    0x6075, 0x242EE, 0x8218]), (0xFA70, [0x4E26, 0x51B5, 0x5168, 0x4F80, 0x5145, 0x5180, 0x52C7,
    0x52FA, 0x559D, 0x5555, 0x5599, 0x55E2, 0x585A, 0x58B3, 0x5944, 0x5954, 0x5A62, 0x5B28, 0x5ED2,
    0x5ED9, 0x5F69, 0x5FAD, 0x60D8, 0x614E, 0x6108, 0x618E, 0x6160, 0x61F2, 0x6234, 0x63C4, 0x641C,
    0x6452, 0x6556, 0x6674, 0x6717, 0x671B, 0x6756, 0x6B79, 0x6BBA, 0x6D41, 0x6EDB, 0x6ECB, 0x6F22,
    0x701E, 0x716E, 0x77A7, 0x7235, 0x72AF, 0x732A, 0x7471, 0x7506, 0x753B, 0x761D, 0x761F, 0x76CA,
    0x76DB, 0x76F4, 0x774A, 0x7740, 0x78CC, 0x7AB1, 0x7BC0, 0x7C7B, 0x7D5B, 0x7DF4, 0x7F3E, 0x8005,
    0x8352, 0x83EF, 0x8779, 0x8941, 0x8986, 0x8996, 0x8ABF, 0x8AF8, 0x8ACB, 0x8B01, 0x8AFE, 0x8AED,
    0x8B39, 0x8B8A, 0x8D08, 0x8F38, 0x9072, 0x9199, 0x9276, 0x967C, 0x96E3, 0x9756, 0x97DB, 0x97FF,
    0x980B, 0x983B, 0x9B12, 0x9F9C, 0x2284A, 0x22844, 0x233D5, 0x3B9D, 0x4018, 0x4039, 0x25249,
    0x25CD0, 0x27ED3, 0x9F43, 0x9F8E]), (0xFB20, [0x5E2, 0x5D0]), (0xFB27, [0x5E8, 0x5EA, 0x2B]),
  (0xFB50, [0x671, 0x671, 0x67B, 0x67B, 0x67B, 0x67B, 0x67E, 0x67E, 0x67E, 0x67E, 0x680, 0x680,
    0x680, 0x680, 0x67A, 0x67A, 0x67A, 0x67A, 0x67F, 0x67F, 0x67F, 0x67F, 0x679, 0x679, 0x679,
    0x679, 0x6A4, 0x6A4, 0x6A4, 0x6A4, 0x6A6, 0x6A6, 0x6A6, 0x6A6, 0x684, 0x684, 0x684, 0x684,
    0x683, 0x683, 0x683, 0x683, 0x686, 0x686, 0x686]), (0xFB7F, [0x687, 0x687, 0x687, 0x68D, 0x68D,
    0x68C, 0x68C, 0x68E, 0x68E, 0x688, 0x688, 0x698, 0x698, 0x691, 0x691, 0x6A9, 0x6A9, 0x6A9,
    0x6A9, 0x6AF, 0x6AF, 0x6AF, 0x6AF, 0x6B3, 0x6B3, 0x6B3, 0x6B3, 0x6B1, 0x6B1, 0x6B1, 0x6B1,
    0x6BA]), (0xFBA1, [0x6BB, 0x6BB, 0x6BB, 0x6C0]), (0xFBA7, [0x6C1, 0x6C1, 0x6C1, 0x6BE, 0x6BE,
    0x6BE, 0x6BE, 0x6D2]), (0xFBB1, [0x6D3]), (0xFBD3, [0x6AD, 0x6AD, 0x6AD, 0x6AD, 0x6C7, 0x6C7,
    0x6C6, 0x6C6, 0x6C8, 0x6C8]), (0xFBDE, [0x6CB, 0x6CB, 0x6C5, 0x6C5, 0x6C9, 0x6C9, 0x6D0, 0x6D0,
    0x6D0, 0x6D0, 0x649, 0x649]), (0xFBFC, [0x6CC, 0x6CC, 0x6CC, 0x6CC]), (0xFE10, [0x2C, 0x3001]),
  (0xFE15, [0x21, 0x3F]), (0xFE31, [0x2014, 0x2013, 0x5F, 0x5F]), (0xFE37, [0x7B, 0x7D]),
  (0xFE47, [0x5B, 0x5D]), (0xFE4D, [0x5F, 0x5F, 0x5F, 0x2C, 0x3001]), (0xFE54, [0x3B, 0x3A, 0x3F,
    0x21, 0x2014]), (0xFE5B, [0x7B, 0x7D]), (0xFE5F, [0x23, 0x26]), (0xFE63, [0x2D, 0x3C, 0x3E,
    0x3D]), (0xFE68, [0x5C]), (0xFE6B, [0x40]), (0xFE8A, [0x626, 0x626]), (0xFE90, [0x628, 0x628]),
  (0xFE96, [0x62A, 0x62A]), (0xFE9A, [0x62B, 0x62B]), (0xFE9E, [0x62C, 0x62C]), (0xFEA2, [0x62D,
    0x62D]), (0xFEA6, [0x62E, 0x62E]), (0xFEB2, [0x633, 0x633]), (0xFEB6, [0x634, 0x634]),
  (0xFEBA, [0x635, 0x635]), (0xFEBE, [0x636, 0x636]), (0xFEC2, [0x637, 0x637]), (0xFEC6, [0x638,
    0x638]), (0xFECA, [0x639, 0x639]), (0xFECE, [0x63A, 0x63A, 0x63A, 0x641, 0x641, 0x641]),
  (0xFED6, [0x642, 0x642]), (0xFEDA, [0x643, 0x643]), (0xFEDE, [0x644, 0x644]), (0xFEE2, [0x645,
    0x645]), (0xFEE6, [0x646, 0x646]), (0xFEEA, [0x647, 0x647]), (0xFEF2, [0x64A, 0x64A, 0x64A]),
  (0xFF61, [0x2E]), (0xFF64, [0x3001, 0x30FB, 0x30F2, 0x30A1, 0x30A3, 0x30A5, 0x30A7, 0x30A9,
    0x30E3, 0x30E5, 0x30E7, 0x30C3, 0x30FC, 0x30A2, 0x30A4, 0x30A6, 0x30A8]), (0xFF77, [0x30AD,
    0x30AF, 0x30B1, 0x30B3, 0x30B5, 0x30B7, 0x30B9, 0x30BB, 0x30BD, 0x30BF, 0x30C1, 0x30C4, 0x30C6,
    0x30C8]), (0xFF8B, [0x30D2, 0x30D5, 0x30D8, 0x30DB]), (0xFF94, [0x30E4, 0x30E6]),
  (0xFF9C, [0x30EF, 0x30F3]), (0xFFA3, [0x11AA, 0x1102]), (0xFFB0, [0x111A]), (0xFFB4, [0x1121]),
  (0xFFE2, [0xAC]), (0xFFE4, [0xA6, 0xA5, 0x20A9]), (0xFFE8, [0x2502]), (0xFFED, [0x25A0, 0x25CB]),
  (0x10783, [0xE6, 0x299, 0x253]), (0x10787, [0x2A3, 0xAB66, 0x2A5, 0x2A4]), (0x1078D, [0x1D91,
    0x258, 0x25E, 0x2A9, 0x264, 0x262, 0x260, 0x29B, 0x127, 0x29C, 0x267, 0x284]), (0x1079B, [0x26C,
    0x1DF04, 0xA78E, 0x26E, 0x1DF05, 0x28E, 0x1DF06, 0xF8]), (0x107A5, [0x71, 0x27A, 0x1DF08]),
  (0x107AA, [0x280, 0x2A8, 0x2A6, 0xAB67, 0x2A7, 0x288, 0x2C71]), (0x107B2, [0x28F]),
  (0x107B5, [0x298]), (0x107B9, [0x1DF0A, 0x1DF1E]), (0x1D49F, [0x64]), (0x1D4A2, [0x67]),
  (0x1D546, [0x6F]), (0x1D6A4, [0x131, 0x237]), (0x1D6B9, [0x3B8]), (0x1D6C1, [0x2207]),
  (0x1D6D3, [0x3C3]), (0x1D6DB, [0x2202, 0x3B5, 0x3B8, 0x3BA, 0x3C6, 0x3C1, 0x3C0]),
  (0x1D6F3, [0x3B8]), (0x1D6FB, [0x2207]), (0x1D70D, [0x3C3]), (0x1D715, [0x2202, 0x3B5, 0x3B8,
    0x3BA, 0x3C6, 0x3C1, 0x3C0]), (0x1D72D, [0x3B8]), (0x1D735, [0x2207]), (0x1D747, [0x3C3]),
  (0x1D74F, [0x2202, 0x3B5, 0x3B8, 0x3BA, 0x3C6, 0x3C1, 0x3C0]), (0x1D767, [0x3B8]),
  (0x1D76F, [0x2207]), (0x1D781, [0x3C3]), (0x1D789, [0x2202, 0x3B5, 0x3B8, 0x3BA, 0x3C6, 0x3C1,
    0x3C0]), (0x1D7A1, [0x3B8]), (0x1D7A9, [0x2207]), (0x1D7BB, [0x3C3]), (0x1D7C3, [0x2202, 0x3B5,
    0x3B8, 0x3BA, 0x3C6, 0x3C1, 0x3C0, 0x3DD, 0x3DD]), (0x1E047, [0x44B]), (0x1E04A, [0xA689, 0x4D9,
    0x456, 0x458, 0x4E9, 0x4AF, 0x4CF]), (0x1E05E, [0x441]), (0x1E067, [0x491, 0x456, 0x455, 0x45F,
    0x4AB, 0xA651, 0x4B1]), (0x1EE02, [0x62C, 0x62F]), (0x1EE05, [0x648, 0x632, 0x62D, 0x637,
    0x64A]), (0x1EE0E, [0x633, 0x639, 0x641, 0x635, 0x642, 0x631, 0x634]), (0x1EE17, [0x62E, 0x630,
    0x636, 0x638, 0x63A, 0x66E, 0x6BA, 0x6A1, 0x66F]), (0x1EE21, [0x628, 0x62C]),
  (0x1EE24, [0x647]), (0x1EE27, [0x62D]), (0x1EE29, [0x64A]), (0x1EE2E, [0x633, 0x639, 0x641, 0x635,
    0x642]), (0x1EE34, [0x634]), (0x1EE37, [0x62E]), (0x1EE39, [0x636]), (0x1EE3B, [0x63A]),
  (0x1EE42, [0x62C]), (0x1EE47, [0x62D]), (0x1EE49, [0x64A]), (0x1EE4E, [0x633, 0x639]),
  (0x1EE51, [0x635, 0x642]), (0x1EE54, [0x634]), (0x1EE57, [0x62E]), (0x1EE59, [0x636]),
  (0x1EE5B, [0x63A]), (0x1EE5D, [0x6BA]), (0x1EE5F, [0x66F]), (0x1EE61, [0x628, 0x62C]),
  (0x1EE64, [0x647]), (0x1EE67, [0x62D, 0x637, 0x64A]), (0x1EE6D, [0x646, 0x633, 0x639, 0x641,
    0x635, 0x642]), (0x1EE74, [0x634]), (0x1EE77, [0x62E]), (0x1EE79, [0x636, 0x638, 0x63A, 0x66E]),
  (0x1EE7E, [0x6A1]), (0x1EE82, [0x62C, 0x62F]), (0x1EE86, [0x632, 0x62D, 0x637, 0x64A]),
  (0x1EE8E, [0x633, 0x639, 0x641, 0x635, 0x642, 0x631, 0x634]), (0x1EE97, [0x62E, 0x630, 0x636,
    0x638, 0x63A]), (0x1EEA1, [0x628, 0x62C, 0x62F]), (0x1EEA5, [0x648, 0x632, 0x62D, 0x637,
    0x64A]), (0x1EEAE, [0x633, 0x639, 0x641, 0x635, 0x642, 0x631, 0x634]), (0x1EEB7, [0x62E, 0x630,
    0x636, 0x638, 0x63A]), (0x1F12B, [0x63, 0x72]), (0x1F202, [0x30B5]), (0x1F210, [0x624B, 0x5B57,
    0x53CC, 0x30C7, 0x4E8C, 0x591A, 0x89E3, 0x5929, 0x4EA4, 0x6620, 0x7121, 0x6599, 0x524D, 0x5F8C,
    0x518D, 0x65B0, 0x521D, 0x7D42, 0x751F, 0x8CA9, 0x58F0, 0x5439, 0x6F14, 0x6295, 0x6355, 0x4E00,
    0x4E09, 0x904A, 0x5DE6, 0x4E2D, 0x53F3, 0x6307, 0x8D70, 0x6253, 0x7981, 0x7A7A, 0x5408, 0x6E80,
    0x6709, 0x6708, 0x7533, 0x5272, 0x55B6, 0x914D]), (0x1F250, [0x5F97, 0x53EF]),
  (0x2F800, [0x4E3D, 0x4E38, 0x4E41, 0x20122, 0x4F60, 0x4FAE, 0x4FBB, 0x5002, 0x507A, 0x5099,
    0x50E7, 0x50CF, 0x349E, 0x2063A, 0x514D, 0x5154, 0x5164, 0x5177, 0x2051C, 0x34B9, 0x5167,
    0x518D, 0x2054B, 0x5197, 0x51A4, 0x4ECC, 0x51AC, 0x51B5, 0x291DF, 0x51F5, 0x5203, 0x34DF,
    0x523B, 0x5246, 0x5272, 0x5277, 0x3515, 0x52C7, 0x52C9, 0x52E4, 0x52FA]), (0x2F82B, [0x5317,
    0x5349, 0x5351, 0x535A, 0x5373, 0x537D, 0x537F, 0x537F, 0x537F, 0x20A2C, 0x7070, 0x53CA, 0x53DF,
    0x20B63, 0x53EB, 0x53F1, 0x5406, 0x549E, 0x5438, 0x5448, 0x5468, 0x54A2, 0x54F6, 0x5510, 0x5553,
    0x5563, 0x5584, 0x5584, 0x5599, 0x55AB, 0x55B3, 0x55C2, 0x5716, 0x5606, 0x5717, 0x5651, 0x5674,
    0x5207, 0x58EE, 0x57CE, 0x57F4, 0x580D, 0x578B, 0x5832, 0x5831, 0x58AC, 0x214E4, 0x58F2, 0x58F7,
    0x5906, 0x591A, 0x5922, 0x5962, 0x216A8, 0x216EA, 0x59EC, 0x5A1B, 0x5A27, 0x59D8, 0x5A66,
    0x36EE, 0x36FC, 0x5B08, 0x5B3E, 0x5B3E, 0x219C8, 0x5BC3, 0x5BD8, 0x5BE7, 0x5BF3, 0x21B18,
    0x5BFF, 0x5C06, 0x5F53, 0x5C22, 0x3781, 0x5C60, 0x5C6E, 0x5CC0, 0x5C8D, 0x21DE4, 0x5D43,
    0x21DE6, 0x5D6E, 0x5D6B, 0x5D7C]), (0x2F883, [0x382F, 0x5DFD, 0x5E28, 0x5E3D, 0x5E69, 0x3862,
    0x22183, 0x387C, 0x5EB0, 0x5EB3, 0x5EB6, 0x5ECA, 0x2A392, 0x5EFE, 0x22331, 0x22331, 0x8201,
    0x5F22, 0x5F22, 0x38C7, 0x232B8, 0x261DA, 0x5F62, 0x5F6B, 0x38E3, 0x5F9A, 0x5FCD, 0x5FD7,
    0x5FF9, 0x6081, 0x393A, 0x391C, 0x6094, 0x226D4, 0x60C7, 0x6148, 0x614C, 0x614E, 0x614C, 0x617A,
    0x618E, 0x61B2, 0x61A4, 0x61AF, 0x61DE, 0x61F2, 0x61F6, 0x6210, 0x621B, 0x625D, 0x62B1, 0x62D4,
    0x6350, 0x22B0C, 0x633D, 0x62FC, 0x6368, 0x6383, 0x63E4, 0x22BF1, 0x6422, 0x63C5, 0x63A9,
    0x3A2E, 0x6469, 0x647E, 0x649D, 0x6477, 0x3A6C, 0x654F, 0x656C, 0x2300A, 0x65E3, 0x66F8, 0x6649,
    0x3B19, 0x6691, 0x3B08, 0x3AE4, 0x5192, 0x5195, 0x6700, 0x669C, 0x80AD, 0x43D9, 0x6717, 0x671B,
    0x6721, 0x675E, 0x6753, 0x233C3, 0x3B49, 0x67FA, 0x6785, 0x6852, 0x6885, 0x2346D, 0x688E,
    0x681F, 0x6914, 0x3B9D, 0x6942, 0x69A3, 0x69EA, 0x6AA8, 0x236A3, 0x6ADB, 0x3C18, 0x6B21,
    0x238A7, 0x6B54, 0x3C4E, 0x6B72, 0x6B9F]), (0x2F8F7, [0x23A8D, 0x21D0B, 0x23AFA, 0x6C4E,
    0x23CBC, 0x6CBF, 0x6CCD, 0x6C67, 0x6D16, 0x6D3E, 0x6D77, 0x6D41, 0x6D69, 0x6D78, 0x6D85,
    0x23D1E, 0x6D34, 0x6E2F, 0x6E6E, 0x3D33, 0x6ECB, 0x6EC7, 0x23ED1, 0x6DF9, 0x6F6E, 0x23F5E,
    0x23F8E, 0x6FC6, 0x7039, 0x701E, 0x701B, 0x3D96, 0x704A, 0x707D, 0x7077, 0x70AD, 0x20525,
    0x7145, 0x24263, 0x719C, 0x243AB, 0x7228, 0x7235, 0x7250, 0x24608, 0x7280, 0x7295, 0x24735,
    0x24814, 0x737A, 0x738B, 0x3EAC, 0x73A5, 0x3EB8, 0x3EB8, 0x7447, 0x745C, 0x7471, 0x7485, 0x74CA,
    0x3F1B, 0x7524, 0x24C36, 0x753E, 0x24C92, 0x7570, 0x2219F, 0x7610, 0x24FA1, 0x24FB8, 0x25044,
    0x3FFC, 0x4008, 0x76F4, 0x250F3, 0x250F2, 0x25119, 0x25133]), (0x2F947, [0x771F, 0x774A, 0x4039,
    0x778B, 0x4046, 0x4096, 0x2541D, 0x784E, 0x788C, 0x78CC, 0x40E3, 0x25626, 0x7956, 0x2569A,
    0x256C5, 0x798F, 0x79EB, 0x412F, 0x7A40, 0x7A4A, 0x7A4F, 0x2597C, 0x25AA7, 0x25AA7, 0x7AEE,
    0x4202, 0x25BAB, 0x7BC6, 0x7BC9, 0x4227, 0x25C80, 0x7CD2, 0x42A0, 0x7CE8, 0x7CE3, 0x7D00,
    0x25F86, 0x7D63, 0x4301, 0x7DC7, 0x7E02, 0x7E45, 0x4334, 0x26228, 0x26247, 0x4359, 0x262D9,
    0x7F7A, 0x2633E, 0x7F95, 0x7FFA, 0x8005, 0x264DA, 0x26523, 0x8060, 0x265A8, 0x8070, 0x2335F,
    0x43D5, 0x80B2, 0x8103, 0x440B, 0x813E, 0x5AB5, 0x267A7, 0x267B5, 0x23393, 0x2339C, 0x8201,
    0x8204, 0x8F9E, 0x446B, 0x8291, 0x828B, 0x829D, 0x52B3, 0x82B1, 0x82B3, 0x82BD, 0x82E6, 0x26B3C,
    0x82E5, 0x831D, 0x8363, 0x83AD, 0x8323, 0x83BD, 0x83E7, 0x8457, 0x8353, 0x83CA, 0x83CC, 0x83DC,
    0x26C36, 0x26D6B, 0x26CD5, 0x452B, 0x84F1, 0x84F3, 0x8516, 0x273CA, 0x8564, 0x26F2C, 0x455D,
    0x4561, 0x26FB1, 0x270D2, 0x456B, 0x8650, 0x865C, 0x8667, 0x8669, 0x86A9, 0x8688, 0x870E,
    0x86E2, 0x8779, 0x8728, 0x876B, 0x8786, 0x45D7, 0x87E1, 0x8801, 0x45F9, 0x8860, 0x8863, 0x27667,
    0x88D7, 0x88DE, 0x4635, 0x88FA, 0x34BB, 0x278AE, 0x27966, 0x46BE, 0x46C7, 0x8AA0, 0x8AED,
    0x8B8A, 0x8C55, 0x27CA8, 0x8CAB, 0x8CC1, 0x8D1B, 0x8D77, 0x27F2F, 0x20804, 0x8DCB, 0x8DBC,
    0x8DF0, 0x208DE, 0x8ED4, 0x8F38, 0x285D2, 0x285ED, 0x9094, 0x90F1, 0x9111, 0x2872E, 0x911B,
    0x9238]), (0x2F9EA, [0x927C, 0x93F9, 0x9415, 0x28BFA, 0x958B, 0x4995, 0x95B7, 0x28D77, 0x49E6,
    0x96C3, 0x5DB2, 0x9723, 0x29145, 0x2921A, 0x4A6E, 0x4A76, 0x97E0, 0x2940A, 0x4AB2, 0x29496,
    0x980B, 0x980B, 0x9829, 0x295B6, 0x98E2, 0x4B33, 0x9929, 0x99A7, 0x99C2, 0x99FE, 0x4BCE,
    0x29B30, 0x9B12, 0x9C40, 0x9CFD, 0x4CCE, 0x4CED, 0x9D67, 0x2A0CE, 0x4CF8, 0x2A105, 0x2A20E,
    0x2A291, 0x9EBB, 0x4D56, 0x9EF9, 0x9EFE, 0x9F05, 0x9F0F, 0x9F16, 0x9F3B, 0x2A600])]

set_option maxRecDepth 10000 in
/-- The code points that stand for more than one other. -/
def mappedSequences : List (Nat × List Nat) := [
  (0xA8, [0x20, 0x308]), (0xAF, [0x20, 0x304]), (0xB4, [0x20, 0x301]), (0xB8, [0x20, 0x327]),
  (0xBC, [0x31, 0x2044, 0x34]), (0xBD, [0x31, 0x2044, 0x32]), (0xBE, [0x33, 0x2044, 0x34]),
  (0x130, [0x69, 0x307]), (0x132, [0x69, 0x6A]), (0x133, [0x69, 0x6A]), (0x13F, [0x6C, 0xB7]),
  (0x140, [0x6C, 0xB7]), (0x149, [0x2BC, 0x6E]), (0x1C4, [0x64, 0x17E]), (0x1C5, [0x64, 0x17E]),
  (0x1C6, [0x64, 0x17E]), (0x1C7, [0x6C, 0x6A]), (0x1C8, [0x6C, 0x6A]), (0x1C9, [0x6C, 0x6A]),
  (0x1CA, [0x6E, 0x6A]), (0x1CB, [0x6E, 0x6A]), (0x1CC, [0x6E, 0x6A]), (0x1F1, [0x64, 0x7A]),
  (0x1F2, [0x64, 0x7A]), (0x1F3, [0x64, 0x7A]), (0x2D8, [0x20, 0x306]), (0x2D9, [0x20, 0x307]),
  (0x2DA, [0x20, 0x30A]), (0x2DB, [0x20, 0x328]), (0x2DC, [0x20, 0x303]), (0x2DD, [0x20, 0x30B]),
  (0x344, [0x308, 0x301]), (0x37A, [0x20, 0x3B9]), (0x384, [0x20, 0x301]), (0x385, [0x20, 0x308,
    0x301]), (0x587, [0x565, 0x582]), (0x675, [0x627, 0x674]), (0x676, [0x648, 0x674]),
  (0x677, [0x6C7, 0x674]), (0x678, [0x64A, 0x674]), (0x958, [0x915, 0x93C]), (0x959, [0x916,
    0x93C]), (0x95A, [0x917, 0x93C]), (0x95B, [0x91C, 0x93C]), (0x95C, [0x921, 0x93C]),
  (0x95D, [0x922, 0x93C]), (0x95E, [0x92B, 0x93C]), (0x95F, [0x92F, 0x93C]), (0x9DC, [0x9A1,
    0x9BC]), (0x9DD, [0x9A2, 0x9BC]), (0x9DF, [0x9AF, 0x9BC]), (0xA33, [0xA32, 0xA3C]),
  (0xA36, [0xA38, 0xA3C]), (0xA59, [0xA16, 0xA3C]), (0xA5A, [0xA17, 0xA3C]), (0xA5B, [0xA1C,
    0xA3C]), (0xA5E, [0xA2B, 0xA3C]), (0xB5C, [0xB21, 0xB3C]), (0xB5D, [0xB22, 0xB3C]),
  (0xE33, [0xE4D, 0xE32]), (0xEB3, [0xECD, 0xEB2]), (0xEDC, [0xEAB, 0xE99]), (0xEDD, [0xEAB,
    0xEA1]), (0xF43, [0xF42, 0xFB7]), (0xF4D, [0xF4C, 0xFB7]), (0xF52, [0xF51, 0xFB7]),
  (0xF57, [0xF56, 0xFB7]), (0xF5C, [0xF5B, 0xFB7]), (0xF69, [0xF40, 0xFB5]), (0xF73, [0xF71,
    0xF72]), (0xF75, [0xF71, 0xF74]), (0xF76, [0xFB2, 0xF80]), (0xF77, [0xFB2, 0xF71, 0xF80]),
  (0xF78, [0xFB3, 0xF80]), (0xF79, [0xFB3, 0xF71, 0xF80]), (0xF81, [0xF71, 0xF80]), (0xF93, [0xF92,
    0xFB7]), (0xF9D, [0xF9C, 0xFB7]), (0xFA2, [0xFA1, 0xFB7]), (0xFA7, [0xFA6, 0xFB7]),
  (0xFAC, [0xFAB, 0xFB7]), (0xFB9, [0xF90, 0xFB5]), (0x1E9A, [0x61, 0x2BE]), (0x1F80, [0x1F00,
    0x3B9]), (0x1F81, [0x1F01, 0x3B9]), (0x1F82, [0x1F02, 0x3B9]), (0x1F83, [0x1F03, 0x3B9]),
  (0x1F84, [0x1F04, 0x3B9]), (0x1F85, [0x1F05, 0x3B9]), (0x1F86, [0x1F06, 0x3B9]), (0x1F87, [0x1F07,
    0x3B9]), (0x1F88, [0x1F00, 0x3B9]), (0x1F89, [0x1F01, 0x3B9]), (0x1F8A, [0x1F02, 0x3B9]),
  (0x1F8B, [0x1F03, 0x3B9]), (0x1F8C, [0x1F04, 0x3B9]), (0x1F8D, [0x1F05, 0x3B9]), (0x1F8E, [0x1F06,
    0x3B9]), (0x1F8F, [0x1F07, 0x3B9]), (0x1F90, [0x1F20, 0x3B9]), (0x1F91, [0x1F21, 0x3B9]),
  (0x1F92, [0x1F22, 0x3B9]), (0x1F93, [0x1F23, 0x3B9]), (0x1F94, [0x1F24, 0x3B9]), (0x1F95, [0x1F25,
    0x3B9]), (0x1F96, [0x1F26, 0x3B9]), (0x1F97, [0x1F27, 0x3B9]), (0x1F98, [0x1F20, 0x3B9]),
  (0x1F99, [0x1F21, 0x3B9]), (0x1F9A, [0x1F22, 0x3B9]), (0x1F9B, [0x1F23, 0x3B9]), (0x1F9C, [0x1F24,
    0x3B9]), (0x1F9D, [0x1F25, 0x3B9]), (0x1F9E, [0x1F26, 0x3B9]), (0x1F9F, [0x1F27, 0x3B9]),
  (0x1FA0, [0x1F60, 0x3B9]), (0x1FA1, [0x1F61, 0x3B9]), (0x1FA2, [0x1F62, 0x3B9]), (0x1FA3, [0x1F63,
    0x3B9]), (0x1FA4, [0x1F64, 0x3B9]), (0x1FA5, [0x1F65, 0x3B9]), (0x1FA6, [0x1F66, 0x3B9]),
  (0x1FA7, [0x1F67, 0x3B9]), (0x1FA8, [0x1F60, 0x3B9]), (0x1FA9, [0x1F61, 0x3B9]), (0x1FAA, [0x1F62,
    0x3B9]), (0x1FAB, [0x1F63, 0x3B9]), (0x1FAC, [0x1F64, 0x3B9]), (0x1FAD, [0x1F65, 0x3B9]),
  (0x1FAE, [0x1F66, 0x3B9]), (0x1FAF, [0x1F67, 0x3B9]), (0x1FB2, [0x1F70, 0x3B9]), (0x1FB3, [0x3B1,
    0x3B9]), (0x1FB4, [0x3AC, 0x3B9]), (0x1FB7, [0x1FB6, 0x3B9]), (0x1FBC, [0x3B1, 0x3B9]),
  (0x1FBD, [0x20, 0x313]), (0x1FBF, [0x20, 0x313]), (0x1FC0, [0x20, 0x342]), (0x1FC1, [0x20, 0x308,
    0x342]), (0x1FC2, [0x1F74, 0x3B9]), (0x1FC3, [0x3B7, 0x3B9]), (0x1FC4, [0x3AE, 0x3B9]),
  (0x1FC7, [0x1FC6, 0x3B9]), (0x1FCC, [0x3B7, 0x3B9]), (0x1FCD, [0x20, 0x313, 0x300]),
  (0x1FCE, [0x20, 0x313, 0x301]), (0x1FCF, [0x20, 0x313, 0x342]), (0x1FDD, [0x20, 0x314, 0x300]),
  (0x1FDE, [0x20, 0x314, 0x301]), (0x1FDF, [0x20, 0x314, 0x342]), (0x1FED, [0x20, 0x308, 0x300]),
  (0x1FEE, [0x20, 0x308, 0x301]), (0x1FF2, [0x1F7C, 0x3B9]), (0x1FF3, [0x3C9, 0x3B9]),
  (0x1FF4, [0x3CE, 0x3B9]), (0x1FF7, [0x1FF6, 0x3B9]), (0x1FFC, [0x3C9, 0x3B9]), (0x1FFD, [0x20,
    0x301]), (0x1FFE, [0x20, 0x314]), (0x2017, [0x20, 0x333]), (0x2033, [0x2032, 0x2032]),
  (0x2034, [0x2032, 0x2032, 0x2032]), (0x2036, [0x2035, 0x2035]), (0x2037, [0x2035, 0x2035,
    0x2035]), (0x203C, [0x21, 0x21]), (0x203E, [0x20, 0x305]), (0x2047, [0x3F, 0x3F]),
  (0x2048, [0x3F, 0x21]), (0x2049, [0x21, 0x3F]), (0x2057, [0x2032, 0x2032, 0x2032, 0x2032]),
  (0x20A8, [0x72, 0x73]), (0x2100, [0x61, 0x2F, 0x63]), (0x2101, [0x61, 0x2F, 0x73]),
  (0x2103, [0xB0, 0x63]), (0x2105, [0x63, 0x2F, 0x6F]), (0x2106, [0x63, 0x2F, 0x75]),
  (0x2109, [0xB0, 0x66]), (0x2116, [0x6E, 0x6F]), (0x2120, [0x73, 0x6D]), (0x2121, [0x74, 0x65,
    0x6C]), (0x2122, [0x74, 0x6D]), (0x213B, [0x66, 0x61, 0x78]), (0x2150, [0x31, 0x2044, 0x37]),
  (0x2151, [0x31, 0x2044, 0x39]), (0x2152, [0x31, 0x2044, 0x31, 0x30]), (0x2153, [0x31, 0x2044,
    0x33]), (0x2154, [0x32, 0x2044, 0x33]), (0x2155, [0x31, 0x2044, 0x35]), (0x2156, [0x32, 0x2044,
    0x35]), (0x2157, [0x33, 0x2044, 0x35]), (0x2158, [0x34, 0x2044, 0x35]), (0x2159, [0x31, 0x2044,
    0x36]), (0x215A, [0x35, 0x2044, 0x36]), (0x215B, [0x31, 0x2044, 0x38]), (0x215C, [0x33, 0x2044,
    0x38]), (0x215D, [0x35, 0x2044, 0x38]), (0x215E, [0x37, 0x2044, 0x38]), (0x215F, [0x31,
    0x2044]), (0x2161, [0x69, 0x69]), (0x2162, [0x69, 0x69, 0x69]), (0x2163, [0x69, 0x76]),
  (0x2165, [0x76, 0x69]), (0x2166, [0x76, 0x69, 0x69]), (0x2167, [0x76, 0x69, 0x69, 0x69]),
  (0x2168, [0x69, 0x78]), (0x216A, [0x78, 0x69]), (0x216B, [0x78, 0x69, 0x69]), (0x2171, [0x69,
    0x69]), (0x2172, [0x69, 0x69, 0x69]), (0x2173, [0x69, 0x76]), (0x2175, [0x76, 0x69]),
  (0x2176, [0x76, 0x69, 0x69]), (0x2177, [0x76, 0x69, 0x69, 0x69]), (0x2178, [0x69, 0x78]),
  (0x217A, [0x78, 0x69]), (0x217B, [0x78, 0x69, 0x69]), (0x2189, [0x30, 0x2044, 0x33]),
  (0x222C, [0x222B, 0x222B]), (0x222D, [0x222B, 0x222B, 0x222B]), (0x222F, [0x222E, 0x222E]),
  (0x2230, [0x222E, 0x222E, 0x222E]), (0x2469, [0x31, 0x30]), (0x246A, [0x31, 0x31]),
  (0x246B, [0x31, 0x32]), (0x246C, [0x31, 0x33]), (0x246D, [0x31, 0x34]), (0x246E, [0x31, 0x35]),
  (0x246F, [0x31, 0x36]), (0x2470, [0x31, 0x37]), (0x2471, [0x31, 0x38]), (0x2472, [0x31, 0x39]),
  (0x2473, [0x32, 0x30]), (0x2474, [0x28, 0x31, 0x29]), (0x2475, [0x28, 0x32, 0x29]),
  (0x2476, [0x28, 0x33, 0x29]), (0x2477, [0x28, 0x34, 0x29]), (0x2478, [0x28, 0x35, 0x29]),
  (0x2479, [0x28, 0x36, 0x29]), (0x247A, [0x28, 0x37, 0x29]), (0x247B, [0x28, 0x38, 0x29]),
  (0x247C, [0x28, 0x39, 0x29]), (0x247D, [0x28, 0x31, 0x30, 0x29]), (0x247E, [0x28, 0x31, 0x31,
    0x29]), (0x247F, [0x28, 0x31, 0x32, 0x29]), (0x2480, [0x28, 0x31, 0x33, 0x29]), (0x2481, [0x28,
    0x31, 0x34, 0x29]), (0x2482, [0x28, 0x31, 0x35, 0x29]), (0x2483, [0x28, 0x31, 0x36, 0x29]),
  (0x2484, [0x28, 0x31, 0x37, 0x29]), (0x2485, [0x28, 0x31, 0x38, 0x29]), (0x2486, [0x28, 0x31,
    0x39, 0x29]), (0x2487, [0x28, 0x32, 0x30, 0x29]), (0x249C, [0x28, 0x61, 0x29]), (0x249D, [0x28,
    0x62, 0x29]), (0x249E, [0x28, 0x63, 0x29]), (0x249F, [0x28, 0x64, 0x29]), (0x24A0, [0x28, 0x65,
    0x29]), (0x24A1, [0x28, 0x66, 0x29]), (0x24A2, [0x28, 0x67, 0x29]), (0x24A3, [0x28, 0x68,
    0x29]), (0x24A4, [0x28, 0x69, 0x29]), (0x24A5, [0x28, 0x6A, 0x29]), (0x24A6, [0x28, 0x6B,
    0x29]), (0x24A7, [0x28, 0x6C, 0x29]), (0x24A8, [0x28, 0x6D, 0x29]), (0x24A9, [0x28, 0x6E,
    0x29]), (0x24AA, [0x28, 0x6F, 0x29]), (0x24AB, [0x28, 0x70, 0x29]), (0x24AC, [0x28, 0x71,
    0x29]), (0x24AD, [0x28, 0x72, 0x29]), (0x24AE, [0x28, 0x73, 0x29]), (0x24AF, [0x28, 0x74,
    0x29]), (0x24B0, [0x28, 0x75, 0x29]), (0x24B1, [0x28, 0x76, 0x29]), (0x24B2, [0x28, 0x77,
    0x29]), (0x24B3, [0x28, 0x78, 0x29]), (0x24B4, [0x28, 0x79, 0x29]), (0x24B5, [0x28, 0x7A,
    0x29]), (0x2A0C, [0x222B, 0x222B, 0x222B, 0x222B]), (0x2A74, [0x3A, 0x3A, 0x3D]),
  (0x2A75, [0x3D, 0x3D]), (0x2A76, [0x3D, 0x3D, 0x3D]), (0x2ADC, [0x2ADD, 0x338]), (0x309B, [0x20,
    0x3099]), (0x309C, [0x20, 0x309A]), (0x309F, [0x3088, 0x308A]), (0x30FF, [0x30B3, 0x30C8]),
  (0x3200, [0x28, 0x1100, 0x29]), (0x3201, [0x28, 0x1102, 0x29]), (0x3202, [0x28, 0x1103, 0x29]),
  (0x3203, [0x28, 0x1105, 0x29]), (0x3204, [0x28, 0x1106, 0x29]), (0x3205, [0x28, 0x1107, 0x29]),
  (0x3206, [0x28, 0x1109, 0x29]), (0x3207, [0x28, 0x110B, 0x29]), (0x3208, [0x28, 0x110C, 0x29]),
  (0x3209, [0x28, 0x110E, 0x29]), (0x320A, [0x28, 0x110F, 0x29]), (0x320B, [0x28, 0x1110, 0x29]),
  (0x320C, [0x28, 0x1111, 0x29]), (0x320D, [0x28, 0x1112, 0x29]), (0x320E, [0x28, 0xAC00, 0x29]),
  (0x320F, [0x28, 0xB098, 0x29]), (0x3210, [0x28, 0xB2E4, 0x29]), (0x3211, [0x28, 0xB77C, 0x29]),
  (0x3212, [0x28, 0xB9C8, 0x29]), (0x3213, [0x28, 0xBC14, 0x29]), (0x3214, [0x28, 0xC0AC, 0x29]),
  (0x3215, [0x28, 0xC544, 0x29]), (0x3216, [0x28, 0xC790, 0x29]), (0x3217, [0x28, 0xCC28, 0x29]),
  (0x3218, [0x28, 0xCE74, 0x29]), (0x3219, [0x28, 0xD0C0, 0x29]), (0x321A, [0x28, 0xD30C, 0x29]),
  (0x321B, [0x28, 0xD558, 0x29]), (0x321C, [0x28, 0xC8FC, 0x29]), (0x321D, [0x28, 0xC624, 0xC804,
    0x29]), (0x321E, [0x28, 0xC624, 0xD6C4, 0x29]), (0x3220, [0x28, 0x4E00, 0x29]), (0x3221, [0x28,
    0x4E8C, 0x29]), (0x3222, [0x28, 0x4E09, 0x29]), (0x3223, [0x28, 0x56DB, 0x29]), (0x3224, [0x28,
    0x4E94, 0x29]), (0x3225, [0x28, 0x516D, 0x29]), (0x3226, [0x28, 0x4E03, 0x29]), (0x3227, [0x28,
    0x516B, 0x29]), (0x3228, [0x28, 0x4E5D, 0x29]), (0x3229, [0x28, 0x5341, 0x29]), (0x322A, [0x28,
    0x6708, 0x29]), (0x322B, [0x28, 0x706B, 0x29]), (0x322C, [0x28, 0x6C34, 0x29]), (0x322D, [0x28,
    0x6728, 0x29]), (0x322E, [0x28, 0x91D1, 0x29]), (0x322F, [0x28, 0x571F, 0x29]), (0x3230, [0x28,
    0x65E5, 0x29]), (0x3231, [0x28, 0x682A, 0x29]), (0x3232, [0x28, 0x6709, 0x29]), (0x3233, [0x28,
    0x793E, 0x29]), (0x3234, [0x28, 0x540D, 0x29]), (0x3235, [0x28, 0x7279, 0x29]), (0x3236, [0x28,
    0x8CA1, 0x29]), (0x3237, [0x28, 0x795D, 0x29]), (0x3238, [0x28, 0x52B4, 0x29]), (0x3239, [0x28,
    0x4EE3, 0x29]), (0x323A, [0x28, 0x547C, 0x29]), (0x323B, [0x28, 0x5B66, 0x29]), (0x323C, [0x28,
    0x76E3, 0x29]), (0x323D, [0x28, 0x4F01, 0x29]), (0x323E, [0x28, 0x8CC7, 0x29]), (0x323F, [0x28,
    0x5354, 0x29]), (0x3240, [0x28, 0x796D, 0x29]), (0x3241, [0x28, 0x4F11, 0x29]), (0x3242, [0x28,
    0x81EA, 0x29]), (0x3243, [0x28, 0x81F3, 0x29]), (0x3250, [0x70, 0x74, 0x65]), (0x3251, [0x32,
    0x31]), (0x3252, [0x32, 0x32]), (0x3253, [0x32, 0x33]), (0x3254, [0x32, 0x34]), (0x3255, [0x32,
    0x35]), (0x3256, [0x32, 0x36]), (0x3257, [0x32, 0x37]), (0x3258, [0x32, 0x38]), (0x3259, [0x32,
    0x39]), (0x325A, [0x33, 0x30]), (0x325B, [0x33, 0x31]), (0x325C, [0x33, 0x32]), (0x325D, [0x33,
    0x33]), (0x325E, [0x33, 0x34]), (0x325F, [0x33, 0x35]), (0x327C, [0xCC38, 0xACE0]),
  (0x327D, [0xC8FC, 0xC758]), (0x32B1, [0x33, 0x36]), (0x32B2, [0x33, 0x37]), (0x32B3, [0x33,
    0x38]), (0x32B4, [0x33, 0x39]), (0x32B5, [0x34, 0x30]), (0x32B6, [0x34, 0x31]), (0x32B7, [0x34,
    0x32]), (0x32B8, [0x34, 0x33]), (0x32B9, [0x34, 0x34]), (0x32BA, [0x34, 0x35]), (0x32BB, [0x34,
    0x36]), (0x32BC, [0x34, 0x37]), (0x32BD, [0x34, 0x38]), (0x32BE, [0x34, 0x39]), (0x32BF, [0x35,
    0x30]), (0x32C0, [0x31, 0x6708]), (0x32C1, [0x32, 0x6708]), (0x32C2, [0x33, 0x6708]),
  (0x32C3, [0x34, 0x6708]), (0x32C4, [0x35, 0x6708]), (0x32C5, [0x36, 0x6708]), (0x32C6, [0x37,
    0x6708]), (0x32C7, [0x38, 0x6708]), (0x32C8, [0x39, 0x6708]), (0x32C9, [0x31, 0x30, 0x6708]),
  (0x32CA, [0x31, 0x31, 0x6708]), (0x32CB, [0x31, 0x32, 0x6708]), (0x32CC, [0x68, 0x67]),
  (0x32CD, [0x65, 0x72, 0x67]), (0x32CE, [0x65, 0x76]), (0x32CF, [0x6C, 0x74, 0x64]),
  (0x32FF, [0x4EE4, 0x548C]), (0x3300, [0x30A2, 0x30D1, 0x30FC, 0x30C8]), (0x3301, [0x30A2, 0x30EB,
    0x30D5, 0x30A1]), (0x3302, [0x30A2, 0x30F3, 0x30DA, 0x30A2]), (0x3303, [0x30A2, 0x30FC,
    0x30EB]), (0x3304, [0x30A4, 0x30CB, 0x30F3, 0x30B0]), (0x3305, [0x30A4, 0x30F3, 0x30C1]),
  (0x3306, [0x30A6, 0x30A9, 0x30F3]), (0x3307, [0x30A8, 0x30B9, 0x30AF, 0x30FC, 0x30C9]),
  (0x3308, [0x30A8, 0x30FC, 0x30AB, 0x30FC]), (0x3309, [0x30AA, 0x30F3, 0x30B9]), (0x330A, [0x30AA,
    0x30FC, 0x30E0]), (0x330B, [0x30AB, 0x30A4, 0x30EA]), (0x330C, [0x30AB, 0x30E9, 0x30C3,
    0x30C8]), (0x330D, [0x30AB, 0x30ED, 0x30EA, 0x30FC]), (0x330E, [0x30AC, 0x30ED, 0x30F3]),
  (0x330F, [0x30AC, 0x30F3, 0x30DE]), (0x3310, [0x30AE, 0x30AC]), (0x3311, [0x30AE, 0x30CB,
    0x30FC]), (0x3312, [0x30AD, 0x30E5, 0x30EA, 0x30FC]), (0x3313, [0x30AE, 0x30EB, 0x30C0,
    0x30FC]), (0x3314, [0x30AD, 0x30ED]), (0x3315, [0x30AD, 0x30ED, 0x30B0, 0x30E9, 0x30E0]),
  (0x3316, [0x30AD, 0x30ED, 0x30E1, 0x30FC, 0x30C8, 0x30EB]), (0x3317, [0x30AD, 0x30ED, 0x30EF,
    0x30C3, 0x30C8]), (0x3318, [0x30B0, 0x30E9, 0x30E0]), (0x3319, [0x30B0, 0x30E9, 0x30E0, 0x30C8,
    0x30F3]), (0x331A, [0x30AF, 0x30EB, 0x30BC, 0x30A4, 0x30ED]), (0x331B, [0x30AF, 0x30ED, 0x30FC,
    0x30CD]), (0x331C, [0x30B1, 0x30FC, 0x30B9]), (0x331D, [0x30B3, 0x30EB, 0x30CA]),
  (0x331E, [0x30B3, 0x30FC, 0x30DD]), (0x331F, [0x30B5, 0x30A4, 0x30AF, 0x30EB]), (0x3320, [0x30B5,
    0x30F3, 0x30C1, 0x30FC, 0x30E0]), (0x3321, [0x30B7, 0x30EA, 0x30F3, 0x30B0]), (0x3322, [0x30BB,
    0x30F3, 0x30C1]), (0x3323, [0x30BB, 0x30F3, 0x30C8]), (0x3324, [0x30C0, 0x30FC, 0x30B9]),
  (0x3325, [0x30C7, 0x30B7]), (0x3326, [0x30C9, 0x30EB]), (0x3327, [0x30C8, 0x30F3]),
  (0x3328, [0x30CA, 0x30CE]), (0x3329, [0x30CE, 0x30C3, 0x30C8]), (0x332A, [0x30CF, 0x30A4,
    0x30C4]), (0x332B, [0x30D1, 0x30FC, 0x30BB, 0x30F3, 0x30C8]), (0x332C, [0x30D1, 0x30FC,
    0x30C4]), (0x332D, [0x30D0, 0x30FC, 0x30EC, 0x30EB]), (0x332E, [0x30D4, 0x30A2, 0x30B9, 0x30C8,
    0x30EB]), (0x332F, [0x30D4, 0x30AF, 0x30EB]), (0x3330, [0x30D4, 0x30B3]), (0x3331, [0x30D3,
    0x30EB]), (0x3332, [0x30D5, 0x30A1, 0x30E9, 0x30C3, 0x30C9]), (0x3333, [0x30D5, 0x30A3, 0x30FC,
    0x30C8]), (0x3334, [0x30D6, 0x30C3, 0x30B7, 0x30A7, 0x30EB]), (0x3335, [0x30D5, 0x30E9,
    0x30F3]), (0x3336, [0x30D8, 0x30AF, 0x30BF, 0x30FC, 0x30EB]), (0x3337, [0x30DA, 0x30BD]),
  (0x3338, [0x30DA, 0x30CB, 0x30D2]), (0x3339, [0x30D8, 0x30EB, 0x30C4]), (0x333A, [0x30DA, 0x30F3,
    0x30B9]), (0x333B, [0x30DA, 0x30FC, 0x30B8]), (0x333C, [0x30D9, 0x30FC, 0x30BF]),
  (0x333D, [0x30DD, 0x30A4, 0x30F3, 0x30C8]), (0x333E, [0x30DC, 0x30EB, 0x30C8]), (0x333F, [0x30DB,
    0x30F3]), (0x3340, [0x30DD, 0x30F3, 0x30C9]), (0x3341, [0x30DB, 0x30FC, 0x30EB]),
  (0x3342, [0x30DB, 0x30FC, 0x30F3]), (0x3343, [0x30DE, 0x30A4, 0x30AF, 0x30ED]), (0x3344, [0x30DE,
    0x30A4, 0x30EB]), (0x3345, [0x30DE, 0x30C3, 0x30CF]), (0x3346, [0x30DE, 0x30EB, 0x30AF]),
  (0x3347, [0x30DE, 0x30F3, 0x30B7, 0x30E7, 0x30F3]), (0x3348, [0x30DF, 0x30AF, 0x30ED, 0x30F3]),
  (0x3349, [0x30DF, 0x30EA]), (0x334A, [0x30DF, 0x30EA, 0x30D0, 0x30FC, 0x30EB]), (0x334B, [0x30E1,
    0x30AC]), (0x334C, [0x30E1, 0x30AC, 0x30C8, 0x30F3]), (0x334D, [0x30E1, 0x30FC, 0x30C8,
    0x30EB]), (0x334E, [0x30E4, 0x30FC, 0x30C9]), (0x334F, [0x30E4, 0x30FC, 0x30EB]),
  (0x3350, [0x30E6, 0x30A2, 0x30F3]), (0x3351, [0x30EA, 0x30C3, 0x30C8, 0x30EB]), (0x3352, [0x30EA,
    0x30E9]), (0x3353, [0x30EB, 0x30D4, 0x30FC]), (0x3354, [0x30EB, 0x30FC, 0x30D6, 0x30EB]),
  (0x3355, [0x30EC, 0x30E0]), (0x3356, [0x30EC, 0x30F3, 0x30C8, 0x30B2, 0x30F3]), (0x3357, [0x30EF,
    0x30C3, 0x30C8]), (0x3358, [0x30, 0x70B9]), (0x3359, [0x31, 0x70B9]), (0x335A, [0x32, 0x70B9]),
  (0x335B, [0x33, 0x70B9]), (0x335C, [0x34, 0x70B9]), (0x335D, [0x35, 0x70B9]), (0x335E, [0x36,
    0x70B9]), (0x335F, [0x37, 0x70B9]), (0x3360, [0x38, 0x70B9]), (0x3361, [0x39, 0x70B9]),
  (0x3362, [0x31, 0x30, 0x70B9]), (0x3363, [0x31, 0x31, 0x70B9]), (0x3364, [0x31, 0x32, 0x70B9]),
  (0x3365, [0x31, 0x33, 0x70B9]), (0x3366, [0x31, 0x34, 0x70B9]), (0x3367, [0x31, 0x35, 0x70B9]),
  (0x3368, [0x31, 0x36, 0x70B9]), (0x3369, [0x31, 0x37, 0x70B9]), (0x336A, [0x31, 0x38, 0x70B9]),
  (0x336B, [0x31, 0x39, 0x70B9]), (0x336C, [0x32, 0x30, 0x70B9]), (0x336D, [0x32, 0x31, 0x70B9]),
  (0x336E, [0x32, 0x32, 0x70B9]), (0x336F, [0x32, 0x33, 0x70B9]), (0x3370, [0x32, 0x34, 0x70B9]),
  (0x3371, [0x68, 0x70, 0x61]), (0x3372, [0x64, 0x61]), (0x3373, [0x61, 0x75]), (0x3374, [0x62,
    0x61, 0x72]), (0x3375, [0x6F, 0x76]), (0x3376, [0x70, 0x63]), (0x3377, [0x64, 0x6D]),
  (0x3378, [0x64, 0x6D, 0x32]), (0x3379, [0x64, 0x6D, 0x33]), (0x337A, [0x69, 0x75]),
  (0x337B, [0x5E73, 0x6210]), (0x337C, [0x662D, 0x548C]), (0x337D, [0x5927, 0x6B63]),
  (0x337E, [0x660E, 0x6CBB]), (0x337F, [0x682A, 0x5F0F, 0x4F1A, 0x793E]), (0x3380, [0x70, 0x61]),
  (0x3381, [0x6E, 0x61]), (0x3382, [0x3BC, 0x61]), (0x3383, [0x6D, 0x61]), (0x3384, [0x6B, 0x61]),
  (0x3385, [0x6B, 0x62]), (0x3386, [0x6D, 0x62]), (0x3387, [0x67, 0x62]), (0x3388, [0x63, 0x61,
    0x6C]), (0x3389, [0x6B, 0x63, 0x61, 0x6C]), (0x338A, [0x70, 0x66]), (0x338B, [0x6E, 0x66]),
  (0x338C, [0x3BC, 0x66]), (0x338D, [0x3BC, 0x67]), (0x338E, [0x6D, 0x67]), (0x338F, [0x6B, 0x67]),
  (0x3390, [0x68, 0x7A]), (0x3391, [0x6B, 0x68, 0x7A]), (0x3392, [0x6D, 0x68, 0x7A]),
  (0x3393, [0x67, 0x68, 0x7A]), (0x3394, [0x74, 0x68, 0x7A]), (0x3395, [0x3BC, 0x6C]),
  (0x3396, [0x6D, 0x6C]), (0x3397, [0x64, 0x6C]), (0x3398, [0x6B, 0x6C]), (0x3399, [0x66, 0x6D]),
  (0x339A, [0x6E, 0x6D]), (0x339B, [0x3BC, 0x6D]), (0x339C, [0x6D, 0x6D]), (0x339D, [0x63, 0x6D]),
  (0x339E, [0x6B, 0x6D]), (0x339F, [0x6D, 0x6D, 0x32]), (0x33A0, [0x63, 0x6D, 0x32]),
  (0x33A1, [0x6D, 0x32]), (0x33A2, [0x6B, 0x6D, 0x32]), (0x33A3, [0x6D, 0x6D, 0x33]),
  (0x33A4, [0x63, 0x6D, 0x33]), (0x33A5, [0x6D, 0x33]), (0x33A6, [0x6B, 0x6D, 0x33]),
  (0x33A7, [0x6D, 0x2215, 0x73]), (0x33A8, [0x6D, 0x2215, 0x73, 0x32]), (0x33A9, [0x70, 0x61]),
  (0x33AA, [0x6B, 0x70, 0x61]), (0x33AB, [0x6D, 0x70, 0x61]), (0x33AC, [0x67, 0x70, 0x61]),
  (0x33AD, [0x72, 0x61, 0x64]), (0x33AE, [0x72, 0x61, 0x64, 0x2215, 0x73]), (0x33AF, [0x72, 0x61,
    0x64, 0x2215, 0x73, 0x32]), (0x33B0, [0x70, 0x73]), (0x33B1, [0x6E, 0x73]), (0x33B2, [0x3BC,
    0x73]), (0x33B3, [0x6D, 0x73]), (0x33B4, [0x70, 0x76]), (0x33B5, [0x6E, 0x76]), (0x33B6, [0x3BC,
    0x76]), (0x33B7, [0x6D, 0x76]), (0x33B8, [0x6B, 0x76]), (0x33B9, [0x6D, 0x76]), (0x33BA, [0x70,
    0x77]), (0x33BB, [0x6E, 0x77]), (0x33BC, [0x3BC, 0x77]), (0x33BD, [0x6D, 0x77]), (0x33BE, [0x6B,
    0x77]), (0x33BF, [0x6D, 0x77]), (0x33C0, [0x6B, 0x3C9]), (0x33C1, [0x6D, 0x3C9]),
  (0x33C3, [0x62, 0x71]), (0x33C4, [0x63, 0x63]), (0x33C5, [0x63, 0x64]), (0x33C6, [0x63, 0x2215,
    0x6B, 0x67]), (0x33C8, [0x64, 0x62]), (0x33C9, [0x67, 0x79]), (0x33CA, [0x68, 0x61]),
  (0x33CB, [0x68, 0x70]), (0x33CC, [0x69, 0x6E]), (0x33CD, [0x6B, 0x6B]), (0x33CE, [0x6B, 0x6D]),
  (0x33CF, [0x6B, 0x74]), (0x33D0, [0x6C, 0x6D]), (0x33D1, [0x6C, 0x6E]), (0x33D2, [0x6C, 0x6F,
    0x67]), (0x33D3, [0x6C, 0x78]), (0x33D4, [0x6D, 0x62]), (0x33D5, [0x6D, 0x69, 0x6C]),
  (0x33D6, [0x6D, 0x6F, 0x6C]), (0x33D7, [0x70, 0x68]), (0x33D9, [0x70, 0x70, 0x6D]),
  (0x33DA, [0x70, 0x72]), (0x33DB, [0x73, 0x72]), (0x33DC, [0x73, 0x76]), (0x33DD, [0x77, 0x62]),
  (0x33DE, [0x76, 0x2215, 0x6D]), (0x33DF, [0x61, 0x2215, 0x6D]), (0x33E0, [0x31, 0x65E5]),
  (0x33E1, [0x32, 0x65E5]), (0x33E2, [0x33, 0x65E5]), (0x33E3, [0x34, 0x65E5]), (0x33E4, [0x35,
    0x65E5]), (0x33E5, [0x36, 0x65E5]), (0x33E6, [0x37, 0x65E5]), (0x33E7, [0x38, 0x65E5]),
  (0x33E8, [0x39, 0x65E5]), (0x33E9, [0x31, 0x30, 0x65E5]), (0x33EA, [0x31, 0x31, 0x65E5]),
  (0x33EB, [0x31, 0x32, 0x65E5]), (0x33EC, [0x31, 0x33, 0x65E5]), (0x33ED, [0x31, 0x34, 0x65E5]),
  (0x33EE, [0x31, 0x35, 0x65E5]), (0x33EF, [0x31, 0x36, 0x65E5]), (0x33F0, [0x31, 0x37, 0x65E5]),
  (0x33F1, [0x31, 0x38, 0x65E5]), (0x33F2, [0x31, 0x39, 0x65E5]), (0x33F3, [0x32, 0x30, 0x65E5]),
  (0x33F4, [0x32, 0x31, 0x65E5]), (0x33F5, [0x32, 0x32, 0x65E5]), (0x33F6, [0x32, 0x33, 0x65E5]),
  (0x33F7, [0x32, 0x34, 0x65E5]), (0x33F8, [0x32, 0x35, 0x65E5]), (0x33F9, [0x32, 0x36, 0x65E5]),
  (0x33FA, [0x32, 0x37, 0x65E5]), (0x33FB, [0x32, 0x38, 0x65E5]), (0x33FC, [0x32, 0x39, 0x65E5]),
  (0x33FD, [0x33, 0x30, 0x65E5]), (0x33FE, [0x33, 0x31, 0x65E5]), (0x33FF, [0x67, 0x61, 0x6C]),
  (0xFB00, [0x66, 0x66]), (0xFB01, [0x66, 0x69]), (0xFB02, [0x66, 0x6C]), (0xFB03, [0x66, 0x66,
    0x69]), (0xFB04, [0x66, 0x66, 0x6C]), (0xFB05, [0x73, 0x74]), (0xFB06, [0x73, 0x74]),
  (0xFB13, [0x574, 0x576]), (0xFB14, [0x574, 0x565]), (0xFB15, [0x574, 0x56B]), (0xFB16, [0x57E,
    0x576]), (0xFB17, [0x574, 0x56D]), (0xFB1D, [0x5D9, 0x5B4]), (0xFB1F, [0x5F2, 0x5B7]),
  (0xFB2A, [0x5E9, 0x5C1]), (0xFB2B, [0x5E9, 0x5C2]), (0xFB2C, [0x5E9, 0x5BC, 0x5C1]),
  (0xFB2D, [0x5E9, 0x5BC, 0x5C2]), (0xFB2E, [0x5D0, 0x5B7]), (0xFB2F, [0x5D0, 0x5B8]),
  (0xFB30, [0x5D0, 0x5BC]), (0xFB31, [0x5D1, 0x5BC]), (0xFB32, [0x5D2, 0x5BC]), (0xFB33, [0x5D3,
    0x5BC]), (0xFB34, [0x5D4, 0x5BC]), (0xFB35, [0x5D5, 0x5BC]), (0xFB36, [0x5D6, 0x5BC]),
  (0xFB38, [0x5D8, 0x5BC]), (0xFB39, [0x5D9, 0x5BC]), (0xFB3A, [0x5DA, 0x5BC]), (0xFB3B, [0x5DB,
    0x5BC]), (0xFB3C, [0x5DC, 0x5BC]), (0xFB3E, [0x5DE, 0x5BC]), (0xFB40, [0x5E0, 0x5BC]),
  (0xFB41, [0x5E1, 0x5BC]), (0xFB43, [0x5E3, 0x5BC]), (0xFB44, [0x5E4, 0x5BC]), (0xFB46, [0x5E6,
    0x5BC]), (0xFB47, [0x5E7, 0x5BC]), (0xFB48, [0x5E8, 0x5BC]), (0xFB49, [0x5E9, 0x5BC]),
  (0xFB4A, [0x5EA, 0x5BC]), (0xFB4B, [0x5D5, 0x5B9]), (0xFB4C, [0x5D1, 0x5BF]), (0xFB4D, [0x5DB,
    0x5BF]), (0xFB4E, [0x5E4, 0x5BF]), (0xFB4F, [0x5D0, 0x5DC]), (0xFBDD, [0x6C7, 0x674]),
  (0xFBEA, [0x626, 0x627]), (0xFBEB, [0x626, 0x627]), (0xFBEC, [0x626, 0x6D5]), (0xFBED, [0x626,
    0x6D5]), (0xFBEE, [0x626, 0x648]), (0xFBEF, [0x626, 0x648]), (0xFBF0, [0x626, 0x6C7]),
  (0xFBF1, [0x626, 0x6C7]), (0xFBF2, [0x626, 0x6C6]), (0xFBF3, [0x626, 0x6C6]), (0xFBF4, [0x626,
    0x6C8]), (0xFBF5, [0x626, 0x6C8]), (0xFBF6, [0x626, 0x6D0]), (0xFBF7, [0x626, 0x6D0]),
  (0xFBF8, [0x626, 0x6D0]), (0xFBF9, [0x626, 0x649]), (0xFBFA, [0x626, 0x649]), (0xFBFB, [0x626,
    0x649]), (0xFC00, [0x626, 0x62C]), (0xFC01, [0x626, 0x62D]), (0xFC02, [0x626, 0x645]),
  (0xFC03, [0x626, 0x649]), (0xFC04, [0x626, 0x64A]), (0xFC05, [0x628, 0x62C]), (0xFC06, [0x628,
    0x62D]), (0xFC07, [0x628, 0x62E]), (0xFC08, [0x628, 0x645]), (0xFC09, [0x628, 0x649]),
  (0xFC0A, [0x628, 0x64A]), (0xFC0B, [0x62A, 0x62C]), (0xFC0C, [0x62A, 0x62D]), (0xFC0D, [0x62A,
    0x62E]), (0xFC0E, [0x62A, 0x645]), (0xFC0F, [0x62A, 0x649]), (0xFC10, [0x62A, 0x64A]),
  (0xFC11, [0x62B, 0x62C]), (0xFC12, [0x62B, 0x645]), (0xFC13, [0x62B, 0x649]), (0xFC14, [0x62B,
    0x64A]), (0xFC15, [0x62C, 0x62D]), (0xFC16, [0x62C, 0x645]), (0xFC17, [0x62D, 0x62C]),
  (0xFC18, [0x62D, 0x645]), (0xFC19, [0x62E, 0x62C]), (0xFC1A, [0x62E, 0x62D]), (0xFC1B, [0x62E,
    0x645]), (0xFC1C, [0x633, 0x62C]), (0xFC1D, [0x633, 0x62D]), (0xFC1E, [0x633, 0x62E]),
  (0xFC1F, [0x633, 0x645]), (0xFC20, [0x635, 0x62D]), (0xFC21, [0x635, 0x645]), (0xFC22, [0x636,
    0x62C]), (0xFC23, [0x636, 0x62D]), (0xFC24, [0x636, 0x62E]), (0xFC25, [0x636, 0x645]),
  (0xFC26, [0x637, 0x62D]), (0xFC27, [0x637, 0x645]), (0xFC28, [0x638, 0x645]), (0xFC29, [0x639,
    0x62C]), (0xFC2A, [0x639, 0x645]), (0xFC2B, [0x63A, 0x62C]), (0xFC2C, [0x63A, 0x645]),
  (0xFC2D, [0x641, 0x62C]), (0xFC2E, [0x641, 0x62D]), (0xFC2F, [0x641, 0x62E]), (0xFC30, [0x641,
    0x645]), (0xFC31, [0x641, 0x649]), (0xFC32, [0x641, 0x64A]), (0xFC33, [0x642, 0x62D]),
  (0xFC34, [0x642, 0x645]), (0xFC35, [0x642, 0x649]), (0xFC36, [0x642, 0x64A]), (0xFC37, [0x643,
    0x627]), (0xFC38, [0x643, 0x62C]), (0xFC39, [0x643, 0x62D]), (0xFC3A, [0x643, 0x62E]),
  (0xFC3B, [0x643, 0x644]), (0xFC3C, [0x643, 0x645]), (0xFC3D, [0x643, 0x649]), (0xFC3E, [0x643,
    0x64A]), (0xFC3F, [0x644, 0x62C]), (0xFC40, [0x644, 0x62D]), (0xFC41, [0x644, 0x62E]),
  (0xFC42, [0x644, 0x645]), (0xFC43, [0x644, 0x649]), (0xFC44, [0x644, 0x64A]), (0xFC45, [0x645,
    0x62C]), (0xFC46, [0x645, 0x62D]), (0xFC47, [0x645, 0x62E]), (0xFC48, [0x645, 0x645]),
  (0xFC49, [0x645, 0x649]), (0xFC4A, [0x645, 0x64A]), (0xFC4B, [0x646, 0x62C]), (0xFC4C, [0x646,
    0x62D]), (0xFC4D, [0x646, 0x62E]), (0xFC4E, [0x646, 0x645]), (0xFC4F, [0x646, 0x649]),
  (0xFC50, [0x646, 0x64A]), (0xFC51, [0x647, 0x62C]), (0xFC52, [0x647, 0x645]), (0xFC53, [0x647,
    0x649]), (0xFC54, [0x647, 0x64A]), (0xFC55, [0x64A, 0x62C]), (0xFC56, [0x64A, 0x62D]),
  (0xFC57, [0x64A, 0x62E]), (0xFC58, [0x64A, 0x645]), (0xFC59, [0x64A, 0x649]), (0xFC5A, [0x64A,
    0x64A]), (0xFC5B, [0x630, 0x670]), (0xFC5C, [0x631, 0x670]), (0xFC5D, [0x649, 0x670]),
  (0xFC5E, [0x20, 0x64C, 0x651]), (0xFC5F, [0x20, 0x64D, 0x651]), (0xFC60, [0x20, 0x64E, 0x651]),
  (0xFC61, [0x20, 0x64F, 0x651]), (0xFC62, [0x20, 0x650, 0x651]), (0xFC63, [0x20, 0x651, 0x670]),
  (0xFC64, [0x626, 0x631]), (0xFC65, [0x626, 0x632]), (0xFC66, [0x626, 0x645]), (0xFC67, [0x626,
    0x646]), (0xFC68, [0x626, 0x649]), (0xFC69, [0x626, 0x64A]), (0xFC6A, [0x628, 0x631]),
  (0xFC6B, [0x628, 0x632]), (0xFC6C, [0x628, 0x645]), (0xFC6D, [0x628, 0x646]), (0xFC6E, [0x628,
    0x649]), (0xFC6F, [0x628, 0x64A]), (0xFC70, [0x62A, 0x631]), (0xFC71, [0x62A, 0x632]),
  (0xFC72, [0x62A, 0x645]), (0xFC73, [0x62A, 0x646]), (0xFC74, [0x62A, 0x649]), (0xFC75, [0x62A,
    0x64A]), (0xFC76, [0x62B, 0x631]), (0xFC77, [0x62B, 0x632]), (0xFC78, [0x62B, 0x645]),
  (0xFC79, [0x62B, 0x646]), (0xFC7A, [0x62B, 0x649]), (0xFC7B, [0x62B, 0x64A]), (0xFC7C, [0x641,
    0x649]), (0xFC7D, [0x641, 0x64A]), (0xFC7E, [0x642, 0x649]), (0xFC7F, [0x642, 0x64A]),
  (0xFC80, [0x643, 0x627]), (0xFC81, [0x643, 0x644]), (0xFC82, [0x643, 0x645]), (0xFC83, [0x643,
    0x649]), (0xFC84, [0x643, 0x64A]), (0xFC85, [0x644, 0x645]), (0xFC86, [0x644, 0x649]),
  (0xFC87, [0x644, 0x64A]), (0xFC88, [0x645, 0x627]), (0xFC89, [0x645, 0x645]), (0xFC8A, [0x646,
    0x631]), (0xFC8B, [0x646, 0x632]), (0xFC8C, [0x646, 0x645]), (0xFC8D, [0x646, 0x646]),
  (0xFC8E, [0x646, 0x649]), (0xFC8F, [0x646, 0x64A]), (0xFC90, [0x649, 0x670]), (0xFC91, [0x64A,
    0x631]), (0xFC92, [0x64A, 0x632]), (0xFC93, [0x64A, 0x645]), (0xFC94, [0x64A, 0x646]),
  (0xFC95, [0x64A, 0x649]), (0xFC96, [0x64A, 0x64A]), (0xFC97, [0x626, 0x62C]), (0xFC98, [0x626,
    0x62D]), (0xFC99, [0x626, 0x62E]), (0xFC9A, [0x626, 0x645]), (0xFC9B, [0x626, 0x647]),
  (0xFC9C, [0x628, 0x62C]), (0xFC9D, [0x628, 0x62D]), (0xFC9E, [0x628, 0x62E]), (0xFC9F, [0x628,
    0x645]), (0xFCA0, [0x628, 0x647]), (0xFCA1, [0x62A, 0x62C]), (0xFCA2, [0x62A, 0x62D]),
  (0xFCA3, [0x62A, 0x62E]), (0xFCA4, [0x62A, 0x645]), (0xFCA5, [0x62A, 0x647]), (0xFCA6, [0x62B,
    0x645]), (0xFCA7, [0x62C, 0x62D]), (0xFCA8, [0x62C, 0x645]), (0xFCA9, [0x62D, 0x62C]),
  (0xFCAA, [0x62D, 0x645]), (0xFCAB, [0x62E, 0x62C]), (0xFCAC, [0x62E, 0x645]), (0xFCAD, [0x633,
    0x62C]), (0xFCAE, [0x633, 0x62D]), (0xFCAF, [0x633, 0x62E]), (0xFCB0, [0x633, 0x645]),
  (0xFCB1, [0x635, 0x62D]), (0xFCB2, [0x635, 0x62E]), (0xFCB3, [0x635, 0x645]), (0xFCB4, [0x636,
    0x62C]), (0xFCB5, [0x636, 0x62D]), (0xFCB6, [0x636, 0x62E]), (0xFCB7, [0x636, 0x645]),
  (0xFCB8, [0x637, 0x62D]), (0xFCB9, [0x638, 0x645]), (0xFCBA, [0x639, 0x62C]), (0xFCBB, [0x639,
    0x645]), (0xFCBC, [0x63A, 0x62C]), (0xFCBD, [0x63A, 0x645]), (0xFCBE, [0x641, 0x62C]),
  (0xFCBF, [0x641, 0x62D]), (0xFCC0, [0x641, 0x62E]), (0xFCC1, [0x641, 0x645]), (0xFCC2, [0x642,
    0x62D]), (0xFCC3, [0x642, 0x645]), (0xFCC4, [0x643, 0x62C]), (0xFCC5, [0x643, 0x62D]),
  (0xFCC6, [0x643, 0x62E]), (0xFCC7, [0x643, 0x644]), (0xFCC8, [0x643, 0x645]), (0xFCC9, [0x644,
    0x62C]), (0xFCCA, [0x644, 0x62D]), (0xFCCB, [0x644, 0x62E]), (0xFCCC, [0x644, 0x645]),
  (0xFCCD, [0x644, 0x647]), (0xFCCE, [0x645, 0x62C]), (0xFCCF, [0x645, 0x62D]), (0xFCD0, [0x645,
    0x62E]), (0xFCD1, [0x645, 0x645]), (0xFCD2, [0x646, 0x62C]), (0xFCD3, [0x646, 0x62D]),
  (0xFCD4, [0x646, 0x62E]), (0xFCD5, [0x646, 0x645]), (0xFCD6, [0x646, 0x647]), (0xFCD7, [0x647,
    0x62C]), (0xFCD8, [0x647, 0x645]), (0xFCD9, [0x647, 0x670]), (0xFCDA, [0x64A, 0x62C]),
  (0xFCDB, [0x64A, 0x62D]), (0xFCDC, [0x64A, 0x62E]), (0xFCDD, [0x64A, 0x645]), (0xFCDE, [0x64A,
    0x647]), (0xFCDF, [0x626, 0x645]), (0xFCE0, [0x626, 0x647]), (0xFCE1, [0x628, 0x645]),
  (0xFCE2, [0x628, 0x647]), (0xFCE3, [0x62A, 0x645]), (0xFCE4, [0x62A, 0x647]), (0xFCE5, [0x62B,
    0x645]), (0xFCE6, [0x62B, 0x647]), (0xFCE7, [0x633, 0x645]), (0xFCE8, [0x633, 0x647]),
  (0xFCE9, [0x634, 0x645]), (0xFCEA, [0x634, 0x647]), (0xFCEB, [0x643, 0x644]), (0xFCEC, [0x643,
    0x645]), (0xFCED, [0x644, 0x645]), (0xFCEE, [0x646, 0x645]), (0xFCEF, [0x646, 0x647]),
  (0xFCF0, [0x64A, 0x645]), (0xFCF1, [0x64A, 0x647]), (0xFCF2, [0x640, 0x64E, 0x651]),
  (0xFCF3, [0x640, 0x64F, 0x651]), (0xFCF4, [0x640, 0x650, 0x651]), (0xFCF5, [0x637, 0x649]),
  (0xFCF6, [0x637, 0x64A]), (0xFCF7, [0x639, 0x649]), (0xFCF8, [0x639, 0x64A]), (0xFCF9, [0x63A,
    0x649]), (0xFCFA, [0x63A, 0x64A]), (0xFCFB, [0x633, 0x649]), (0xFCFC, [0x633, 0x64A]),
  (0xFCFD, [0x634, 0x649]), (0xFCFE, [0x634, 0x64A]), (0xFCFF, [0x62D, 0x649]), (0xFD00, [0x62D,
    0x64A]), (0xFD01, [0x62C, 0x649]), (0xFD02, [0x62C, 0x64A]), (0xFD03, [0x62E, 0x649]),
  (0xFD04, [0x62E, 0x64A]), (0xFD05, [0x635, 0x649]), (0xFD06, [0x635, 0x64A]), (0xFD07, [0x636,
    0x649]), (0xFD08, [0x636, 0x64A]), (0xFD09, [0x634, 0x62C]), (0xFD0A, [0x634, 0x62D]),
  (0xFD0B, [0x634, 0x62E]), (0xFD0C, [0x634, 0x645]), (0xFD0D, [0x634, 0x631]), (0xFD0E, [0x633,
    0x631]), (0xFD0F, [0x635, 0x631]), (0xFD10, [0x636, 0x631]), (0xFD11, [0x637, 0x649]),
  (0xFD12, [0x637, 0x64A]), (0xFD13, [0x639, 0x649]), (0xFD14, [0x639, 0x64A]), (0xFD15, [0x63A,
    0x649]), (0xFD16, [0x63A, 0x64A]), (0xFD17, [0x633, 0x649]), (0xFD18, [0x633, 0x64A]),
  (0xFD19, [0x634, 0x649]), (0xFD1A, [0x634, 0x64A]), (0xFD1B, [0x62D, 0x649]), (0xFD1C, [0x62D,
    0x64A]), (0xFD1D, [0x62C, 0x649]), (0xFD1E, [0x62C, 0x64A]), (0xFD1F, [0x62E, 0x649]),
  (0xFD20, [0x62E, 0x64A]), (0xFD21, [0x635, 0x649]), (0xFD22, [0x635, 0x64A]), (0xFD23, [0x636,
    0x649]), (0xFD24, [0x636, 0x64A]), (0xFD25, [0x634, 0x62C]), (0xFD26, [0x634, 0x62D]),
  (0xFD27, [0x634, 0x62E]), (0xFD28, [0x634, 0x645]), (0xFD29, [0x634, 0x631]), (0xFD2A, [0x633,
    0x631]), (0xFD2B, [0x635, 0x631]), (0xFD2C, [0x636, 0x631]), (0xFD2D, [0x634, 0x62C]),
  (0xFD2E, [0x634, 0x62D]), (0xFD2F, [0x634, 0x62E]), (0xFD30, [0x634, 0x645]), (0xFD31, [0x633,
    0x647]), (0xFD32, [0x634, 0x647]), (0xFD33, [0x637, 0x645]), (0xFD34, [0x633, 0x62C]),
  (0xFD35, [0x633, 0x62D]), (0xFD36, [0x633, 0x62E]), (0xFD37, [0x634, 0x62C]), (0xFD38, [0x634,
    0x62D]), (0xFD39, [0x634, 0x62E]), (0xFD3A, [0x637, 0x645]), (0xFD3B, [0x638, 0x645]),
  (0xFD3C, [0x627, 0x64B]), (0xFD3D, [0x627, 0x64B]), (0xFD50, [0x62A, 0x62C, 0x645]),
  (0xFD51, [0x62A, 0x62D, 0x62C]), (0xFD52, [0x62A, 0x62D, 0x62C]), (0xFD53, [0x62A, 0x62D, 0x645]),
  (0xFD54, [0x62A, 0x62E, 0x645]), (0xFD55, [0x62A, 0x645, 0x62C]), (0xFD56, [0x62A, 0x645, 0x62D]),
  (0xFD57, [0x62A, 0x645, 0x62E]), (0xFD58, [0x62C, 0x645, 0x62D]), (0xFD59, [0x62C, 0x645, 0x62D]),
  (0xFD5A, [0x62D, 0x645, 0x64A]), (0xFD5B, [0x62D, 0x645, 0x649]), (0xFD5C, [0x633, 0x62D, 0x62C]),
  (0xFD5D, [0x633, 0x62C, 0x62D]), (0xFD5E, [0x633, 0x62C, 0x649]), (0xFD5F, [0x633, 0x645, 0x62D]),
  (0xFD60, [0x633, 0x645, 0x62D]), (0xFD61, [0x633, 0x645, 0x62C]), (0xFD62, [0x633, 0x645, 0x645]),
  (0xFD63, [0x633, 0x645, 0x645]), (0xFD64, [0x635, 0x62D, 0x62D]), (0xFD65, [0x635, 0x62D, 0x62D]),
  (0xFD66, [0x635, 0x645, 0x645]), (0xFD67, [0x634, 0x62D, 0x645]), (0xFD68, [0x634, 0x62D, 0x645]),
  (0xFD69, [0x634, 0x62C, 0x64A]), (0xFD6A, [0x634, 0x645, 0x62E]), (0xFD6B, [0x634, 0x645, 0x62E]),
  (0xFD6C, [0x634, 0x645, 0x645]), (0xFD6D, [0x634, 0x645, 0x645]), (0xFD6E, [0x636, 0x62D, 0x649]),
  (0xFD6F, [0x636, 0x62E, 0x645]), (0xFD70, [0x636, 0x62E, 0x645]), (0xFD71, [0x637, 0x645, 0x62D]),
  (0xFD72, [0x637, 0x645, 0x62D]), (0xFD73, [0x637, 0x645, 0x645]), (0xFD74, [0x637, 0x645, 0x64A]),
  (0xFD75, [0x639, 0x62C, 0x645]), (0xFD76, [0x639, 0x645, 0x645]), (0xFD77, [0x639, 0x645, 0x645]),
  (0xFD78, [0x639, 0x645, 0x649]), (0xFD79, [0x63A, 0x645, 0x645]), (0xFD7A, [0x63A, 0x645, 0x64A]),
  (0xFD7B, [0x63A, 0x645, 0x649]), (0xFD7C, [0x641, 0x62E, 0x645]), (0xFD7D, [0x641, 0x62E, 0x645]),
  (0xFD7E, [0x642, 0x645, 0x62D]), (0xFD7F, [0x642, 0x645, 0x645]), (0xFD80, [0x644, 0x62D, 0x645]),
  (0xFD81, [0x644, 0x62D, 0x64A]), (0xFD82, [0x644, 0x62D, 0x649]), (0xFD83, [0x644, 0x62C, 0x62C]),
  (0xFD84, [0x644, 0x62C, 0x62C]), (0xFD85, [0x644, 0x62E, 0x645]), (0xFD86, [0x644, 0x62E, 0x645]),
  (0xFD87, [0x644, 0x645, 0x62D]), (0xFD88, [0x644, 0x645, 0x62D]), (0xFD89, [0x645, 0x62D, 0x62C]),
  (0xFD8A, [0x645, 0x62D, 0x645]), (0xFD8B, [0x645, 0x62D, 0x64A]), (0xFD8C, [0x645, 0x62C, 0x62D]),
  (0xFD8D, [0x645, 0x62C, 0x645]), (0xFD8E, [0x645, 0x62E, 0x62C]), (0xFD8F, [0x645, 0x62E, 0x645]),
  (0xFD92, [0x645, 0x62C, 0x62E]), (0xFD93, [0x647, 0x645, 0x62C]), (0xFD94, [0x647, 0x645, 0x645]),
  (0xFD95, [0x646, 0x62D, 0x645]), (0xFD96, [0x646, 0x62D, 0x649]), (0xFD97, [0x646, 0x62C, 0x645]),
  (0xFD98, [0x646, 0x62C, 0x645]), (0xFD99, [0x646, 0x62C, 0x649]), (0xFD9A, [0x646, 0x645, 0x64A]),
  (0xFD9B, [0x646, 0x645, 0x649]), (0xFD9C, [0x64A, 0x645, 0x645]), (0xFD9D, [0x64A, 0x645, 0x645]),
  (0xFD9E, [0x628, 0x62E, 0x64A]), (0xFD9F, [0x62A, 0x62C, 0x64A]), (0xFDA0, [0x62A, 0x62C, 0x649]),
  (0xFDA1, [0x62A, 0x62E, 0x64A]), (0xFDA2, [0x62A, 0x62E, 0x649]), (0xFDA3, [0x62A, 0x645, 0x64A]),
  (0xFDA4, [0x62A, 0x645, 0x649]), (0xFDA5, [0x62C, 0x645, 0x64A]), (0xFDA6, [0x62C, 0x62D, 0x649]),
  (0xFDA7, [0x62C, 0x645, 0x649]), (0xFDA8, [0x633, 0x62E, 0x649]), (0xFDA9, [0x635, 0x62D, 0x64A]),
  (0xFDAA, [0x634, 0x62D, 0x64A]), (0xFDAB, [0x636, 0x62D, 0x64A]), (0xFDAC, [0x644, 0x62C, 0x64A]),
  (0xFDAD, [0x644, 0x645, 0x64A]), (0xFDAE, [0x64A, 0x62D, 0x64A]), (0xFDAF, [0x64A, 0x62C, 0x64A]),
  (0xFDB0, [0x64A, 0x645, 0x64A]), (0xFDB1, [0x645, 0x645, 0x64A]), (0xFDB2, [0x642, 0x645, 0x64A]),
  (0xFDB3, [0x646, 0x62D, 0x64A]), (0xFDB4, [0x642, 0x645, 0x62D]), (0xFDB5, [0x644, 0x62D, 0x645]),
  (0xFDB6, [0x639, 0x645, 0x64A]), (0xFDB7, [0x643, 0x645, 0x64A]), (0xFDB8, [0x646, 0x62C, 0x62D]),
  (0xFDB9, [0x645, 0x62E, 0x64A]), (0xFDBA, [0x644, 0x62C, 0x645]), (0xFDBB, [0x643, 0x645, 0x645]),
  (0xFDBC, [0x644, 0x62C, 0x645]), (0xFDBD, [0x646, 0x62C, 0x62D]), (0xFDBE, [0x62C, 0x62D, 0x64A]),
  (0xFDBF, [0x62D, 0x62C, 0x64A]), (0xFDC0, [0x645, 0x62C, 0x64A]), (0xFDC1, [0x641, 0x645, 0x64A]),
  (0xFDC2, [0x628, 0x62D, 0x64A]), (0xFDC3, [0x643, 0x645, 0x645]), (0xFDC4, [0x639, 0x62C, 0x645]),
  (0xFDC5, [0x635, 0x645, 0x645]), (0xFDC6, [0x633, 0x62E, 0x64A]), (0xFDC7, [0x646, 0x62C, 0x64A]),
  (0xFDF0, [0x635, 0x644, 0x6D2]), (0xFDF1, [0x642, 0x644, 0x6D2]), (0xFDF2, [0x627, 0x644, 0x644,
    0x647]), (0xFDF3, [0x627, 0x643, 0x628, 0x631]), (0xFDF4, [0x645, 0x62D, 0x645, 0x62F]),
  (0xFDF5, [0x635, 0x644, 0x639, 0x645]), (0xFDF6, [0x631, 0x633, 0x648, 0x644]), (0xFDF7, [0x639,
    0x644, 0x64A, 0x647]), (0xFDF8, [0x648, 0x633, 0x644, 0x645]), (0xFDF9, [0x635, 0x644, 0x649]),
  (0xFDFA, [0x635, 0x644, 0x649, 0x20, 0x627, 0x644, 0x644, 0x647, 0x20, 0x639, 0x644, 0x64A, 0x647,
    0x20, 0x648, 0x633, 0x644, 0x645]), (0xFDFB, [0x62C, 0x644, 0x20, 0x62C, 0x644, 0x627, 0x644,
    0x647]), (0xFDFC, [0x631, 0x6CC, 0x627, 0x644]), (0xFE49, [0x20, 0x305]), (0xFE4A, [0x20,
    0x305]), (0xFE4B, [0x20, 0x305]), (0xFE4C, [0x20, 0x305]), (0xFE70, [0x20, 0x64B]),
  (0xFE71, [0x640, 0x64B]), (0xFE72, [0x20, 0x64C]), (0xFE74, [0x20, 0x64D]), (0xFE76, [0x20,
    0x64E]), (0xFE77, [0x640, 0x64E]), (0xFE78, [0x20, 0x64F]), (0xFE79, [0x640, 0x64F]),
  (0xFE7A, [0x20, 0x650]), (0xFE7B, [0x640, 0x650]), (0xFE7C, [0x20, 0x651]), (0xFE7D, [0x640,
    0x651]), (0xFE7E, [0x20, 0x652]), (0xFE7F, [0x640, 0x652]), (0xFEF5, [0x644, 0x622]),
  (0xFEF6, [0x644, 0x622]), (0xFEF7, [0x644, 0x623]), (0xFEF8, [0x644, 0x623]), (0xFEF9, [0x644,
    0x625]), (0xFEFA, [0x644, 0x625]), (0xFEFB, [0x644, 0x627]), (0xFEFC, [0x644, 0x627]),
  (0xFFE3, [0x20, 0x304]), (0x1D15E, [0x1D157, 0x1D165]), (0x1D15F, [0x1D158, 0x1D165]),
  (0x1D160, [0x1D158, 0x1D165, 0x1D16E]), (0x1D161, [0x1D158, 0x1D165, 0x1D16F]),
  (0x1D162, [0x1D158, 0x1D165, 0x1D170]), (0x1D163, [0x1D158, 0x1D165, 0x1D171]),
  (0x1D164, [0x1D158, 0x1D165, 0x1D172]), (0x1D1BB, [0x1D1B9, 0x1D165]), (0x1D1BC, [0x1D1BA,
    0x1D165]), (0x1D1BD, [0x1D1B9, 0x1D165, 0x1D16E]), (0x1D1BE, [0x1D1BA, 0x1D165, 0x1D16E]),
  (0x1D1BF, [0x1D1B9, 0x1D165, 0x1D16F]), (0x1D1C0, [0x1D1BA, 0x1D165, 0x1D16F]), (0x1F101, [0x30,
    0x2C]), (0x1F102, [0x31, 0x2C]), (0x1F103, [0x32, 0x2C]), (0x1F104, [0x33, 0x2C]),
  (0x1F105, [0x34, 0x2C]), (0x1F106, [0x35, 0x2C]), (0x1F107, [0x36, 0x2C]), (0x1F108, [0x37,
    0x2C]), (0x1F109, [0x38, 0x2C]), (0x1F10A, [0x39, 0x2C]), (0x1F110, [0x28, 0x61, 0x29]),
  (0x1F111, [0x28, 0x62, 0x29]), (0x1F112, [0x28, 0x63, 0x29]), (0x1F113, [0x28, 0x64, 0x29]),
  (0x1F114, [0x28, 0x65, 0x29]), (0x1F115, [0x28, 0x66, 0x29]), (0x1F116, [0x28, 0x67, 0x29]),
  (0x1F117, [0x28, 0x68, 0x29]), (0x1F118, [0x28, 0x69, 0x29]), (0x1F119, [0x28, 0x6A, 0x29]),
  (0x1F11A, [0x28, 0x6B, 0x29]), (0x1F11B, [0x28, 0x6C, 0x29]), (0x1F11C, [0x28, 0x6D, 0x29]),
  (0x1F11D, [0x28, 0x6E, 0x29]), (0x1F11E, [0x28, 0x6F, 0x29]), (0x1F11F, [0x28, 0x70, 0x29]),
  (0x1F120, [0x28, 0x71, 0x29]), (0x1F121, [0x28, 0x72, 0x29]), (0x1F122, [0x28, 0x73, 0x29]),
  (0x1F123, [0x28, 0x74, 0x29]), (0x1F124, [0x28, 0x75, 0x29]), (0x1F125, [0x28, 0x76, 0x29]),
  (0x1F126, [0x28, 0x77, 0x29]), (0x1F127, [0x28, 0x78, 0x29]), (0x1F128, [0x28, 0x79, 0x29]),
  (0x1F129, [0x28, 0x7A, 0x29]), (0x1F12A, [0x3014, 0x73, 0x3015]), (0x1F12D, [0x63, 0x64]),
  (0x1F12E, [0x77, 0x7A]), (0x1F14A, [0x68, 0x76]), (0x1F14B, [0x6D, 0x76]), (0x1F14C, [0x73,
    0x64]), (0x1F14D, [0x73, 0x73]), (0x1F14E, [0x70, 0x70, 0x76]), (0x1F14F, [0x77, 0x63]),
  (0x1F16A, [0x6D, 0x63]), (0x1F16B, [0x6D, 0x64]), (0x1F16C, [0x6D, 0x72]), (0x1F190, [0x64,
    0x6A]), (0x1F200, [0x307B, 0x304B]), (0x1F201, [0x30B3, 0x30B3]), (0x1F240, [0x3014, 0x672C,
    0x3015]), (0x1F241, [0x3014, 0x4E09, 0x3015]), (0x1F242, [0x3014, 0x4E8C, 0x3015]),
  (0x1F243, [0x3014, 0x5B89, 0x3015]), (0x1F244, [0x3014, 0x70B9, 0x3015]), (0x1F245, [0x3014,
    0x6253, 0x3015]), (0x1F246, [0x3014, 0x76D7, 0x3015]), (0x1F247, [0x3014, 0x52DD, 0x3015]),
  (0x1F248, [0x3014, 0x6557, 0x3015])]

set_option maxRecDepth 10000 in
/-- The code points from `0x80` on that stand for themselves. -/
def validRuns : List Run := [
  ⟨0xA1, 0xA7, 1⟩, ⟨0xA9, 0xA9, 1⟩, ⟨0xAB, 0xAC, 1⟩, ⟨0xAE, 0xAE, 1⟩, ⟨0xB0, 0xB1, 1⟩,
  ⟨0xB6, 0xB7, 1⟩, ⟨0xBB, 0xBB, 1⟩, ⟨0xBF, 0xBF, 1⟩, ⟨0xD7, 0xD7, 1⟩, ⟨0xDF, 0xFF, 1⟩,
  ⟨0x101, 0x101, 1⟩, ⟨0x103, 0x103, 1⟩, ⟨0x105, 0x105, 1⟩, ⟨0x107, 0x107, 1⟩, ⟨0x109, 0x109, 1⟩,
  ⟨0x10B, 0x10B, 1⟩, ⟨0x10D, 0x10D, 1⟩, ⟨0x10F, 0x10F, 1⟩, ⟨0x111, 0x111, 1⟩, ⟨0x113, 0x113, 1⟩,
  ⟨0x115, 0x115, 1⟩, ⟨0x117, 0x117, 1⟩, ⟨0x119, 0x119, 1⟩, ⟨0x11B, 0x11B, 1⟩, ⟨0x11D, 0x11D, 1⟩,
  ⟨0x11F, 0x11F, 1⟩, ⟨0x121, 0x121, 1⟩, ⟨0x123, 0x123, 1⟩, ⟨0x125, 0x125, 1⟩, ⟨0x127, 0x127, 1⟩,
  ⟨0x129, 0x129, 1⟩, ⟨0x12B, 0x12B, 1⟩, ⟨0x12D, 0x12D, 1⟩, ⟨0x12F, 0x12F, 1⟩, ⟨0x131, 0x131, 1⟩,
  ⟨0x135, 0x135, 1⟩, ⟨0x137, 0x138, 1⟩, ⟨0x13A, 0x13A, 1⟩, ⟨0x13C, 0x13C, 1⟩, ⟨0x13E, 0x13E, 1⟩,
  ⟨0x142, 0x142, 1⟩, ⟨0x144, 0x144, 1⟩, ⟨0x146, 0x146, 1⟩, ⟨0x148, 0x148, 1⟩, ⟨0x14B, 0x14B, 1⟩,
  ⟨0x14D, 0x14D, 1⟩, ⟨0x14F, 0x14F, 1⟩, ⟨0x151, 0x151, 1⟩, ⟨0x153, 0x153, 1⟩, ⟨0x155, 0x155, 1⟩,
  ⟨0x157, 0x157, 1⟩, ⟨0x159, 0x159, 1⟩, ⟨0x15B, 0x15B, 1⟩, ⟨0x15D, 0x15D, 1⟩, ⟨0x15F, 0x15F, 1⟩,
  ⟨0x161, 0x161, 1⟩, ⟨0x163, 0x163, 1⟩, ⟨0x165, 0x165, 1⟩, ⟨0x167, 0x167, 1⟩, ⟨0x169, 0x169, 1⟩,
  ⟨0x16B, 0x16B, 1⟩, ⟨0x16D, 0x16D, 1⟩, ⟨0x16F, 0x16F, 1⟩, ⟨0x171, 0x171, 1⟩, ⟨0x173, 0x173, 1⟩,
  ⟨0x175, 0x175, 1⟩, ⟨0x177, 0x177, 1⟩, ⟨0x17A, 0x17A, 1⟩, ⟨0x17C, 0x17C, 1⟩, ⟨0x17E, 0x17E, 1⟩,
  ⟨0x180, 0x180, 1⟩, ⟨0x183, 0x183, 1⟩, ⟨0x185, 0x185, 1⟩, ⟨0x188, 0x188, 1⟩, ⟨0x18C, 0x18D, 1⟩,
  ⟨0x192, 0x192, 1⟩, ⟨0x195, 0x195, 1⟩, ⟨0x199, 0x19B, 1⟩, ⟨0x19E, 0x19E, 1⟩, ⟨0x1A1, 0x1A1, 1⟩,
  ⟨0x1A3, 0x1A3, 1⟩, ⟨0x1A5, 0x1A5, 1⟩, ⟨0x1A8, 0x1A8, 1⟩, ⟨0x1AA, 0x1AB, 1⟩, ⟨0x1AD, 0x1AD, 1⟩,
  ⟨0x1B0, 0x1B0, 1⟩, ⟨0x1B4, 0x1B4, 1⟩, ⟨0x1B6, 0x1B6, 1⟩, ⟨0x1B9, 0x1BB, 1⟩, ⟨0x1BD, 0x1C3, 1⟩,
  ⟨0x1CE, 0x1CE, 1⟩, ⟨0x1D0, 0x1D0, 1⟩, ⟨0x1D2, 0x1D2, 1⟩, ⟨0x1D4, 0x1D4, 1⟩, ⟨0x1D6, 0x1D6, 1⟩,
  ⟨0x1D8, 0x1D8, 1⟩, ⟨0x1DA, 0x1DA, 1⟩, ⟨0x1DC, 0x1DD, 1⟩, ⟨0x1DF, 0x1DF, 1⟩, ⟨0x1E1, 0x1E1, 1⟩,
  ⟨0x1E3, 0x1E3, 1⟩, ⟨0x1E5, 0x1E5, 1⟩, ⟨0x1E7, 0x1E7, 1⟩, ⟨0x1E9, 0x1E9, 1⟩, ⟨0x1EB, 0x1EB, 1⟩,
  ⟨0x1ED, 0x1ED, 1⟩, ⟨0x1EF, 0x1F0, 1⟩, ⟨0x1F5, 0x1F5, 1⟩, ⟨0x1F9, 0x1F9, 1⟩, ⟨0x1FB, 0x1FB, 1⟩,
  ⟨0x1FD, 0x1FD, 1⟩, ⟨0x1FF, 0x1FF, 1⟩, ⟨0x201, 0x201, 1⟩, ⟨0x203, 0x203, 1⟩, ⟨0x205, 0x205, 1⟩,
  ⟨0x207, 0x207, 1⟩, ⟨0x209, 0x209, 1⟩, ⟨0x20B, 0x20B, 1⟩, ⟨0x20D, 0x20D, 1⟩, ⟨0x20F, 0x20F, 1⟩,
  ⟨0x211, 0x211, 1⟩, ⟨0x213, 0x213, 1⟩, ⟨0x215, 0x215, 1⟩, ⟨0x217, 0x217, 1⟩, ⟨0x219, 0x219, 1⟩,
  ⟨0x21B, 0x21B, 1⟩, ⟨0x21D, 0x21D, 1⟩, ⟨0x21F, 0x21F, 1⟩, ⟨0x221, 0x221, 1⟩, ⟨0x223, 0x223, 1⟩,
  ⟨0x225, 0x225, 1⟩, ⟨0x227, 0x227, 1⟩, ⟨0x229, 0x229, 1⟩, ⟨0x22B, 0x22B, 1⟩, ⟨0x22D, 0x22D, 1⟩,
  ⟨0x22F, 0x22F, 1⟩, ⟨0x231, 0x231, 1⟩, ⟨0x233, 0x239, 1⟩, ⟨0x23C, 0x23C, 1⟩, ⟨0x23F, 0x240, 1⟩,
  ⟨0x242, 0x242, 1⟩, ⟨0x247, 0x247, 1⟩, ⟨0x249, 0x249, 1⟩, ⟨0x24B, 0x24B, 1⟩, ⟨0x24D, 0x24D, 1⟩,
  ⟨0x24F, 0x2AF, 1⟩, ⟨0x2B9, 0x2D7, 1⟩, ⟨0x2DE, 0x2DF, 1⟩, ⟨0x2E5, 0x33F, 1⟩, ⟨0x342, 0x342, 1⟩,
  ⟨0x346, 0x34E, 1⟩, ⟨0x350, 0x36F, 1⟩, ⟨0x371, 0x371, 1⟩, ⟨0x373, 0x373, 1⟩, ⟨0x375, 0x375, 1⟩,
  ⟨0x377, 0x377, 1⟩, ⟨0x37B, 0x37D, 1⟩, ⟨0x390, 0x390, 1⟩, ⟨0x3AC, 0x3CE, 1⟩, ⟨0x3D7, 0x3D7, 1⟩,
  ⟨0x3D9, 0x3D9, 1⟩, ⟨0x3DB, 0x3DB, 1⟩, ⟨0x3DD, 0x3DD, 1⟩, ⟨0x3DF, 0x3DF, 1⟩, ⟨0x3E1, 0x3E1, 1⟩,
  ⟨0x3E3, 0x3E3, 1⟩, ⟨0x3E5, 0x3E5, 1⟩, ⟨0x3E7, 0x3E7, 1⟩, ⟨0x3E9, 0x3E9, 1⟩, ⟨0x3EB, 0x3EB, 1⟩,
  ⟨0x3ED, 0x3ED, 1⟩, ⟨0x3EF, 0x3EF, 1⟩, ⟨0x3F3, 0x3F3, 1⟩, ⟨0x3F6, 0x3F6, 1⟩, ⟨0x3F8, 0x3F8, 1⟩,
  ⟨0x3FB, 0x3FC, 1⟩, ⟨0x430, 0x45F, 1⟩, ⟨0x461, 0x461, 1⟩, ⟨0x463, 0x463, 1⟩, ⟨0x465, 0x465, 1⟩,
  ⟨0x467, 0x467, 1⟩, ⟨0x469, 0x469, 1⟩, ⟨0x46B, 0x46B, 1⟩, ⟨0x46D, 0x46D, 1⟩, ⟨0x46F, 0x46F, 1⟩,
  ⟨0x471, 0x471, 1⟩, ⟨0x473, 0x473, 1⟩, ⟨0x475, 0x475, 1⟩, ⟨0x477, 0x477, 1⟩, ⟨0x479, 0x479, 1⟩,
  ⟨0x47B, 0x47B, 1⟩, ⟨0x47D, 0x47D, 1⟩, ⟨0x47F, 0x47F, 1⟩, ⟨0x481, 0x489, 1⟩, ⟨0x48B, 0x48B, 1⟩,
  ⟨0x48D, 0x48D, 1⟩, ⟨0x48F, 0x48F, 1⟩, ⟨0x491, 0x491, 1⟩, ⟨0x493, 0x493, 1⟩, ⟨0x495, 0x495, 1⟩,
  ⟨0x497, 0x497, 1⟩, ⟨0x499, 0x499, 1⟩, ⟨0x49B, 0x49B, 1⟩, ⟨0x49D, 0x49D, 1⟩, ⟨0x49F, 0x49F, 1⟩,
  ⟨0x4A1, 0x4A1, 1⟩, ⟨0x4A3, 0x4A3, 1⟩, ⟨0x4A5, 0x4A5, 1⟩, ⟨0x4A7, 0x4A7, 1⟩, ⟨0x4A9, 0x4A9, 1⟩,
  ⟨0x4AB, 0x4AB, 1⟩, ⟨0x4AD, 0x4AD, 1⟩, ⟨0x4AF, 0x4AF, 1⟩, ⟨0x4B1, 0x4B1, 1⟩, ⟨0x4B3, 0x4B3, 1⟩,
  ⟨0x4B5, 0x4B5, 1⟩, ⟨0x4B7, 0x4B7, 1⟩, ⟨0x4B9, 0x4B9, 1⟩, ⟨0x4BB, 0x4BB, 1⟩, ⟨0x4BD, 0x4BD, 1⟩,
  ⟨0x4BF, 0x4BF, 1⟩, ⟨0x4C2, 0x4C2, 1⟩, ⟨0x4C4, 0x4C4, 1⟩, ⟨0x4C6, 0x4C6, 1⟩, ⟨0x4C8, 0x4C8, 1⟩,
  ⟨0x4CA, 0x4CA, 1⟩, ⟨0x4CC, 0x4CC, 1⟩, ⟨0x4CE, 0x4CF, 1⟩, ⟨0x4D1, 0x4D1, 1⟩, ⟨0x4D3, 0x4D3, 1⟩,
  ⟨0x4D5, 0x4D5, 1⟩, ⟨0x4D7, 0x4D7, 1⟩, ⟨0x4D9, 0x4D9, 1⟩, ⟨0x4DB, 0x4DB, 1⟩, ⟨0x4DD, 0x4DD, 1⟩,
  ⟨0x4DF, 0x4DF, 1⟩, ⟨0x4E1, 0x4E1, 1⟩, ⟨0x4E3, 0x4E3, 1⟩, ⟨0x4E5, 0x4E5, 1⟩, ⟨0x4E7, 0x4E7, 1⟩,
  ⟨0x4E9, 0x4E9, 1⟩, ⟨0x4EB, 0x4EB, 1⟩, ⟨0x4ED, 0x4ED, 1⟩, ⟨0x4EF, 0x4EF, 1⟩, ⟨0x4F1, 0x4F1, 1⟩,
  ⟨0x4F3, 0x4F3, 1⟩, ⟨0x4F5, 0x4F5, 1⟩, ⟨0x4F7, 0x4F7, 1⟩, ⟨0x4F9, 0x4F9, 1⟩, ⟨0x4FB, 0x4FB, 1⟩,
  ⟨0x4FD, 0x4FD, 1⟩, ⟨0x4FF, 0x4FF, 1⟩, ⟨0x501, 0x501, 1⟩, ⟨0x503, 0x503, 1⟩, ⟨0x505, 0x505, 1⟩,
  ⟨0x507, 0x507, 1⟩, ⟨0x509, 0x509, 1⟩, ⟨0x50B, 0x50B, 1⟩, ⟨0x50D, 0x50D, 1⟩, ⟨0x50F, 0x50F, 1⟩,
  ⟨0x511, 0x511, 1⟩, ⟨0x513, 0x513, 1⟩, ⟨0x515, 0x515, 1⟩, ⟨0x517, 0x517, 1⟩, ⟨0x519, 0x519, 1⟩,
  ⟨0x51B, 0x51B, 1⟩, ⟨0x51D, 0x51D, 1⟩, ⟨0x51F, 0x51F, 1⟩, ⟨0x521, 0x521, 1⟩, ⟨0x523, 0x523, 1⟩,
  ⟨0x525, 0x525, 1⟩, ⟨0x527, 0x527, 1⟩, ⟨0x529, 0x529, 1⟩, ⟨0x52B, 0x52B, 1⟩, ⟨0x52D, 0x52D, 1⟩,
  ⟨0x52F, 0x52F, 1⟩, ⟨0x559, 0x586, 1⟩, ⟨0x588, 0x58A, 1⟩, ⟨0x58D, 0x58F, 1⟩, ⟨0x591, 0x5C7, 1⟩,
  ⟨0x5D0, 0x5EA, 1⟩, ⟨0x5EF, 0x5F4, 1⟩, ⟨0x606, 0x61B, 1⟩, ⟨0x61D, 0x674, 1⟩, ⟨0x679, 0x6DC, 1⟩,
  ⟨0x6DE, 0x70D, 1⟩, ⟨0x710, 0x74A, 1⟩, ⟨0x74D, 0x7B1, 1⟩, ⟨0x7C0, 0x7FA, 1⟩, ⟨0x7FD, 0x82D, 1⟩,
  ⟨0x830, 0x83E, 1⟩, ⟨0x840, 0x85B, 1⟩, ⟨0x85E, 0x85E, 1⟩, ⟨0x860, 0x86A, 1⟩, ⟨0x870, 0x88F, 1⟩,
  ⟨0x897, 0x8E1, 1⟩, ⟨0x8E3, 0x957, 1⟩, ⟨0x960, 0x983, 1⟩, ⟨0x985, 0x98C, 1⟩, ⟨0x98F, 0x990, 1⟩,
  ⟨0x993, 0x9A8, 1⟩, ⟨0x9AA, 0x9B0, 1⟩, ⟨0x9B2, 0x9B2, 1⟩, ⟨0x9B6, 0x9B9, 1⟩, ⟨0x9BC, 0x9C4, 1⟩,
  ⟨0x9C7, 0x9C8, 1⟩, ⟨0x9CB, 0x9CE, 1⟩, ⟨0x9D7, 0x9D7, 1⟩, ⟨0x9E0, 0x9E3, 1⟩, ⟨0x9E6, 0x9FE, 1⟩,
  ⟨0xA01, 0xA03, 1⟩, ⟨0xA05, 0xA0A, 1⟩, ⟨0xA0F, 0xA10, 1⟩, ⟨0xA13, 0xA28, 1⟩, ⟨0xA2A, 0xA30, 1⟩,
  ⟨0xA32, 0xA32, 1⟩, ⟨0xA35, 0xA35, 1⟩, ⟨0xA38, 0xA39, 1⟩, ⟨0xA3C, 0xA3C, 1⟩, ⟨0xA3E, 0xA42, 1⟩,
  ⟨0xA47, 0xA48, 1⟩, ⟨0xA4B, 0xA4D, 1⟩, ⟨0xA51, 0xA51, 1⟩, ⟨0xA5C, 0xA5C, 1⟩, ⟨0xA66, 0xA76, 1⟩,
  ⟨0xA81, 0xA83, 1⟩, ⟨0xA85, 0xA8D, 1⟩, ⟨0xA8F, 0xA91, 1⟩, ⟨0xA93, 0xAA8, 1⟩, ⟨0xAAA, 0xAB0, 1⟩,
  ⟨0xAB2, 0xAB3, 1⟩, ⟨0xAB5, 0xAB9, 1⟩, ⟨0xABC, 0xAC5, 1⟩, ⟨0xAC7, 0xAC9, 1⟩, ⟨0xACB, 0xACD, 1⟩,
  ⟨0xAD0, 0xAD0, 1⟩, ⟨0xAE0, 0xAE3, 1⟩, ⟨0xAE6, 0xAF1, 1⟩, ⟨0xAF9, 0xAFF, 1⟩, ⟨0xB01, 0xB03, 1⟩,
  ⟨0xB05, 0xB0C, 1⟩, ⟨0xB0F, 0xB10, 1⟩, ⟨0xB13, 0xB28, 1⟩, ⟨0xB2A, 0xB30, 1⟩, ⟨0xB32, 0xB33, 1⟩,
  ⟨0xB35, 0xB39, 1⟩, ⟨0xB3C, 0xB44, 1⟩, ⟨0xB47, 0xB48, 1⟩, ⟨0xB4B, 0xB4D, 1⟩, ⟨0xB55, 0xB57, 1⟩,
  ⟨0xB5F, 0xB63, 1⟩, ⟨0xB66, 0xB77, 1⟩, ⟨0xB82, 0xB83, 1⟩, ⟨0xB85, 0xB8A, 1⟩, ⟨0xB8E, 0xB90, 1⟩,
  ⟨0xB92, 0xB95, 1⟩, ⟨0xB99, 0xB9A, 1⟩, ⟨0xB9C, 0xB9C, 1⟩, ⟨0xB9E, 0xB9F, 1⟩, ⟨0xBA3, 0xBA4, 1⟩,
  ⟨0xBA8, 0xBAA, 1⟩, ⟨0xBAE, 0xBB9, 1⟩, ⟨0xBBE, 0xBC2, 1⟩, ⟨0xBC6, 0xBC8, 1⟩, ⟨0xBCA, 0xBCD, 1⟩,
  ⟨0xBD0, 0xBD0, 1⟩, ⟨0xBD7, 0xBD7, 1⟩, ⟨0xBE6, 0xBFA, 1⟩, ⟨0xC00, 0xC0C, 1⟩, ⟨0xC0E, 0xC10, 1⟩,
  ⟨0xC12, 0xC28, 1⟩, ⟨0xC2A, 0xC39, 1⟩, ⟨0xC3C, 0xC44, 1⟩, ⟨0xC46, 0xC48, 1⟩, ⟨0xC4A, 0xC4D, 1⟩,
  ⟨0xC55, 0xC56, 1⟩, ⟨0xC58, 0xC5A, 1⟩, ⟨0xC5C, 0xC5D, 1⟩, ⟨0xC60, 0xC63, 1⟩, ⟨0xC66, 0xC6F, 1⟩,
  ⟨0xC77, 0xC8C, 1⟩, ⟨0xC8E, 0xC90, 1⟩, ⟨0xC92, 0xCA8, 1⟩, ⟨0xCAA, 0xCB3, 1⟩, ⟨0xCB5, 0xCB9, 1⟩,
  ⟨0xCBC, 0xCC4, 1⟩, ⟨0xCC6, 0xCC8, 1⟩, ⟨0xCCA, 0xCCD, 1⟩, ⟨0xCD5, 0xCD6, 1⟩, ⟨0xCDC, 0xCDE, 1⟩,
  ⟨0xCE0, 0xCE3, 1⟩, ⟨0xCE6, 0xCEF, 1⟩, ⟨0xCF1, 0xCF3, 1⟩, ⟨0xD00, 0xD0C, 1⟩, ⟨0xD0E, 0xD10, 1⟩,
  ⟨0xD12, 0xD44, 1⟩, ⟨0xD46, 0xD48, 1⟩, ⟨0xD4A, 0xD4F, 1⟩, ⟨0xD54, 0xD63, 1⟩, ⟨0xD66, 0xD7F, 1⟩,
  ⟨0xD81, 0xD83, 1⟩, ⟨0xD85, 0xD96, 1⟩, ⟨0xD9A, 0xDB1, 1⟩, ⟨0xDB3, 0xDBB, 1⟩, ⟨0xDBD, 0xDBD, 1⟩,
  ⟨0xDC0, 0xDC6, 1⟩, ⟨0xDCA, 0xDCA, 1⟩, ⟨0xDCF, 0xDD4, 1⟩, ⟨0xDD6, 0xDD6, 1⟩, ⟨0xDD8, 0xDDF, 1⟩,
  ⟨0xDE6, 0xDEF, 1⟩, ⟨0xDF2, 0xDF4, 1⟩, ⟨0xE01, 0xE32, 1⟩, ⟨0xE34, 0xE3A, 1⟩, ⟨0xE3F, 0xE5B, 1⟩,
  ⟨0xE81, 0xE82, 1⟩, ⟨0xE84, 0xE84, 1⟩, ⟨0xE86, 0xE8A, 1⟩, ⟨0xE8C, 0xEA3, 1⟩, ⟨0xEA5, 0xEA5, 1⟩,
  ⟨0xEA7, 0xEB2, 1⟩, ⟨0xEB4, 0xEBD, 1⟩, ⟨0xEC0, 0xEC4, 1⟩, ⟨0xEC6, 0xEC6, 1⟩, ⟨0xEC8, 0xECE, 1⟩,
  ⟨0xED0, 0xED9, 1⟩, ⟨0xEDE, 0xEDF, 1⟩, ⟨0xF00, 0xF0B, 1⟩, ⟨0xF0D, 0xF42, 1⟩, ⟨0xF44, 0xF47, 1⟩,
  ⟨0xF49, 0xF4C, 1⟩, ⟨0xF4E, 0xF51, 1⟩, ⟨0xF53, 0xF56, 1⟩, ⟨0xF58, 0xF5B, 1⟩, ⟨0xF5D, 0xF68, 1⟩,
  ⟨0xF6A, 0xF6C, 1⟩, ⟨0xF71, 0xF72, 1⟩, ⟨0xF74, 0xF74, 1⟩, ⟨0xF7A, 0xF80, 1⟩, ⟨0xF82, 0xF92, 1⟩,
  ⟨0xF94, 0xF97, 1⟩, ⟨0xF99, 0xF9C, 1⟩, ⟨0xF9E, 0xFA1, 1⟩, ⟨0xFA3, 0xFA6, 1⟩, ⟨0xFA8, 0xFAB, 1⟩,
  ⟨0xFAD, 0xFB8, 1⟩, ⟨0xFBA, 0xFBC, 1⟩, ⟨0xFBE, 0xFCC, 1⟩, ⟨0xFCE, 0xFDA, 1⟩, ⟨0x1000, 0x109F, 1⟩,
  ⟨0x10D0, 0x10FB, 1⟩, ⟨0x10FD, 0x115E, 1⟩, ⟨0x1161, 0x1248, 1⟩, ⟨0x124A, 0x124D, 1⟩,
  ⟨0x1250, 0x1256, 1⟩, ⟨0x1258, 0x1258, 1⟩, ⟨0x125A, 0x125D, 1⟩, ⟨0x1260, 0x1288, 1⟩,
  ⟨0x128A, 0x128D, 1⟩, ⟨0x1290, 0x12B0, 1⟩, ⟨0x12B2, 0x12B5, 1⟩, ⟨0x12B8, 0x12BE, 1⟩,
  ⟨0x12C0, 0x12C0, 1⟩, ⟨0x12C2, 0x12C5, 1⟩, ⟨0x12C8, 0x12D6, 1⟩, ⟨0x12D8, 0x1310, 1⟩,
  ⟨0x1312, 0x1315, 1⟩, ⟨0x1318, 0x135A, 1⟩, ⟨0x135D, 0x137C, 1⟩, ⟨0x1380, 0x1399, 1⟩,
  ⟨0x13A0, 0x13F5, 1⟩, ⟨0x1400, 0x167F, 1⟩, ⟨0x1681, 0x169C, 1⟩, ⟨0x16A0, 0x16F8, 1⟩,
  ⟨0x1700, 0x1715, 1⟩, ⟨0x171F, 0x1736, 1⟩, ⟨0x1740, 0x1753, 1⟩, ⟨0x1760, 0x176C, 1⟩,
  ⟨0x176E, 0x1770, 1⟩, ⟨0x1772, 0x1773, 1⟩, ⟨0x1780, 0x17B3, 1⟩, ⟨0x17B6, 0x17DD, 1⟩,
  ⟨0x17E0, 0x17E9, 1⟩, ⟨0x17F0, 0x17F9, 1⟩, ⟨0x1800, 0x180A, 1⟩, ⟨0x1810, 0x1819, 1⟩,
  ⟨0x1820, 0x1878, 1⟩, ⟨0x1880, 0x18AA, 1⟩, ⟨0x18B0, 0x18F5, 1⟩, ⟨0x1900, 0x191E, 1⟩,
  ⟨0x1920, 0x192B, 1⟩, ⟨0x1930, 0x193B, 1⟩, ⟨0x1940, 0x1940, 1⟩, ⟨0x1944, 0x196D, 1⟩,
  ⟨0x1970, 0x1974, 1⟩, ⟨0x1980, 0x19AB, 1⟩, ⟨0x19B0, 0x19C9, 1⟩, ⟨0x19D0, 0x19DA, 1⟩,
  ⟨0x19DE, 0x1A1B, 1⟩, ⟨0x1A1E, 0x1A5E, 1⟩, ⟨0x1A60, 0x1A7C, 1⟩, ⟨0x1A7F, 0x1A89, 1⟩,
  ⟨0x1A90, 0x1A99, 1⟩, ⟨0x1AA0, 0x1AAD, 1⟩, ⟨0x1AB0, 0x1ADD, 1⟩, ⟨0x1AE0, 0x1AEB, 1⟩,
  ⟨0x1B00, 0x1B4C, 1⟩, ⟨0x1B4E, 0x1BF3, 1⟩, ⟨0x1BFC, 0x1C37, 1⟩, ⟨0x1C3B, 0x1C49, 1⟩,
  ⟨0x1C4D, 0x1C7F, 1⟩, ⟨0x1C8A, 0x1C8A, 1⟩, ⟨0x1CC0, 0x1CC7, 1⟩, ⟨0x1CD0, 0x1CFA, 1⟩,
  ⟨0x1D00, 0x1D2B, 1⟩, ⟨0x1D2F, 0x1D2F, 1⟩, ⟨0x1D3B, 0x1D3B, 1⟩, ⟨0x1D4E, 0x1D4E, 1⟩,
  ⟨0x1D6B, 0x1D77, 1⟩, ⟨0x1D79, 0x1D9A, 1⟩, ⟨0x1DC0, 0x1DFF, 1⟩, ⟨0x1E01, 0x1E01, 1⟩,
  ⟨0x1E03, 0x1E03, 1⟩, ⟨0x1E05, 0x1E05, 1⟩, ⟨0x1E07, 0x1E07, 1⟩, ⟨0x1E09, 0x1E09, 1⟩,
  ⟨0x1E0B, 0x1E0B, 1⟩, ⟨0x1E0D, 0x1E0D, 1⟩, ⟨0x1E0F, 0x1E0F, 1⟩, ⟨0x1E11, 0x1E11, 1⟩,
  ⟨0x1E13, 0x1E13, 1⟩, ⟨0x1E15, 0x1E15, 1⟩, ⟨0x1E17, 0x1E17, 1⟩, ⟨0x1E19, 0x1E19, 1⟩,
  ⟨0x1E1B, 0x1E1B, 1⟩, ⟨0x1E1D, 0x1E1D, 1⟩, ⟨0x1E1F, 0x1E1F, 1⟩, ⟨0x1E21, 0x1E21, 1⟩,
  ⟨0x1E23, 0x1E23, 1⟩, ⟨0x1E25, 0x1E25, 1⟩, ⟨0x1E27, 0x1E27, 1⟩, ⟨0x1E29, 0x1E29, 1⟩,
  ⟨0x1E2B, 0x1E2B, 1⟩, ⟨0x1E2D, 0x1E2D, 1⟩, ⟨0x1E2F, 0x1E2F, 1⟩, ⟨0x1E31, 0x1E31, 1⟩,
  ⟨0x1E33, 0x1E33, 1⟩, ⟨0x1E35, 0x1E35, 1⟩, ⟨0x1E37, 0x1E37, 1⟩, ⟨0x1E39, 0x1E39, 1⟩,
  ⟨0x1E3B, 0x1E3B, 1⟩, ⟨0x1E3D, 0x1E3D, 1⟩, ⟨0x1E3F, 0x1E3F, 1⟩, ⟨0x1E41, 0x1E41, 1⟩,
  ⟨0x1E43, 0x1E43, 1⟩, ⟨0x1E45, 0x1E45, 1⟩, ⟨0x1E47, 0x1E47, 1⟩, ⟨0x1E49, 0x1E49, 1⟩,
  ⟨0x1E4B, 0x1E4B, 1⟩, ⟨0x1E4D, 0x1E4D, 1⟩, ⟨0x1E4F, 0x1E4F, 1⟩, ⟨0x1E51, 0x1E51, 1⟩,
  ⟨0x1E53, 0x1E53, 1⟩, ⟨0x1E55, 0x1E55, 1⟩, ⟨0x1E57, 0x1E57, 1⟩, ⟨0x1E59, 0x1E59, 1⟩,
  ⟨0x1E5B, 0x1E5B, 1⟩, ⟨0x1E5D, 0x1E5D, 1⟩, ⟨0x1E5F, 0x1E5F, 1⟩, ⟨0x1E61, 0x1E61, 1⟩,
  ⟨0x1E63, 0x1E63, 1⟩, ⟨0x1E65, 0x1E65, 1⟩, ⟨0x1E67, 0x1E67, 1⟩, ⟨0x1E69, 0x1E69, 1⟩,
  ⟨0x1E6B, 0x1E6B, 1⟩, ⟨0x1E6D, 0x1E6D, 1⟩, ⟨0x1E6F, 0x1E6F, 1⟩, ⟨0x1E71, 0x1E71, 1⟩,
  ⟨0x1E73, 0x1E73, 1⟩, ⟨0x1E75, 0x1E75, 1⟩, ⟨0x1E77, 0x1E77, 1⟩, ⟨0x1E79, 0x1E79, 1⟩,
  ⟨0x1E7B, 0x1E7B, 1⟩, ⟨0x1E7D, 0x1E7D, 1⟩, ⟨0x1E7F, 0x1E7F, 1⟩, ⟨0x1E81, 0x1E81, 1⟩,
  ⟨0x1E83, 0x1E83, 1⟩, ⟨0x1E85, 0x1E85, 1⟩, ⟨0x1E87, 0x1E87, 1⟩, ⟨0x1E89, 0x1E89, 1⟩,
  ⟨0x1E8B, 0x1E8B, 1⟩, ⟨0x1E8D, 0x1E8D, 1⟩, ⟨0x1E8F, 0x1E8F, 1⟩, ⟨0x1E91, 0x1E91, 1⟩,
  ⟨0x1E93, 0x1E93, 1⟩, ⟨0x1E95, 0x1E99, 1⟩, ⟨0x1E9C, 0x1E9D, 1⟩, ⟨0x1E9F, 0x1E9F, 1⟩,
  ⟨0x1EA1, 0x1EA1, 1⟩, ⟨0x1EA3, 0x1EA3, 1⟩, ⟨0x1EA5, 0x1EA5, 1⟩, ⟨0x1EA7, 0x1EA7, 1⟩,
  ⟨0x1EA9, 0x1EA9, 1⟩, ⟨0x1EAB, 0x1EAB, 1⟩, ⟨0x1EAD, 0x1EAD, 1⟩, ⟨0x1EAF, 0x1EAF, 1⟩,
  ⟨0x1EB1, 0x1EB1, 1⟩, ⟨0x1EB3, 0x1EB3, 1⟩, ⟨0x1EB5, 0x1EB5, 1⟩, ⟨0x1EB7, 0x1EB7, 1⟩,
  ⟨0x1EB9, 0x1EB9, 1⟩, ⟨0x1EBB, 0x1EBB, 1⟩, ⟨0x1EBD, 0x1EBD, 1⟩, ⟨0x1EBF, 0x1EBF, 1⟩,
  ⟨0x1EC1, 0x1EC1, 1⟩, ⟨0x1EC3, 0x1EC3, 1⟩, ⟨0x1EC5, 0x1EC5, 1⟩, ⟨0x1EC7, 0x1EC7, 1⟩,
  ⟨0x1EC9, 0x1EC9, 1⟩, ⟨0x1ECB, 0x1ECB, 1⟩, ⟨0x1ECD, 0x1ECD, 1⟩, ⟨0x1ECF, 0x1ECF, 1⟩,
  ⟨0x1ED1, 0x1ED1, 1⟩, ⟨0x1ED3, 0x1ED3, 1⟩, ⟨0x1ED5, 0x1ED5, 1⟩, ⟨0x1ED7, 0x1ED7, 1⟩,
  ⟨0x1ED9, 0x1ED9, 1⟩, ⟨0x1EDB, 0x1EDB, 1⟩, ⟨0x1EDD, 0x1EDD, 1⟩, ⟨0x1EDF, 0x1EDF, 1⟩,
  ⟨0x1EE1, 0x1EE1, 1⟩, ⟨0x1EE3, 0x1EE3, 1⟩, ⟨0x1EE5, 0x1EE5, 1⟩, ⟨0x1EE7, 0x1EE7, 1⟩,
  ⟨0x1EE9, 0x1EE9, 1⟩, ⟨0x1EEB, 0x1EEB, 1⟩, ⟨0x1EED, 0x1EED, 1⟩, ⟨0x1EEF, 0x1EEF, 1⟩,
  ⟨0x1EF1, 0x1EF1, 1⟩, ⟨0x1EF3, 0x1EF3, 1⟩, ⟨0x1EF5, 0x1EF5, 1⟩, ⟨0x1EF7, 0x1EF7, 1⟩,
  ⟨0x1EF9, 0x1EF9, 1⟩, ⟨0x1EFB, 0x1EFB, 1⟩, ⟨0x1EFD, 0x1EFD, 1⟩, ⟨0x1EFF, 0x1F07, 1⟩,
  ⟨0x1F10, 0x1F15, 1⟩, ⟨0x1F20, 0x1F27, 1⟩, ⟨0x1F30, 0x1F37, 1⟩, ⟨0x1F40, 0x1F45, 1⟩,
  ⟨0x1F50, 0x1F57, 1⟩, ⟨0x1F60, 0x1F67, 1⟩, ⟨0x1F70, 0x1F70, 1⟩, ⟨0x1F72, 0x1F72, 1⟩,
  ⟨0x1F74, 0x1F74, 1⟩, ⟨0x1F76, 0x1F76, 1⟩, ⟨0x1F78, 0x1F78, 1⟩, ⟨0x1F7A, 0x1F7A, 1⟩,
  ⟨0x1F7C, 0x1F7C, 1⟩, ⟨0x1FB0, 0x1FB1, 1⟩, ⟨0x1FB6, 0x1FB6, 1⟩, ⟨0x1FC6, 0x1FC6, 1⟩,
  ⟨0x1FD0, 0x1FD2, 1⟩, ⟨0x1FD6, 0x1FD7, 1⟩, ⟨0x1FE0, 0x1FE2, 1⟩, ⟨0x1FE4, 0x1FE7, 1⟩,
  ⟨0x1FF6, 0x1FF6, 1⟩, ⟨0x200C, 0x200D, 1⟩, ⟨0x2010, 0x2010, 1⟩, ⟨0x2012, 0x2016, 1⟩,
  ⟨0x2018, 0x2023, 1⟩, ⟨0x2027, 0x2027, 1⟩, ⟨0x2030, 0x2032, 1⟩, ⟨0x2035, 0x2035, 1⟩,
  ⟨0x2038, 0x203B, 1⟩, ⟨0x203D, 0x203D, 1⟩, ⟨0x203F, 0x2046, 1⟩, ⟨0x204A, 0x2056, 1⟩,
  ⟨0x2058, 0x205E, 1⟩, ⟨0x20A0, 0x20A7, 1⟩, ⟨0x20A9, 0x20C1, 1⟩, ⟨0x20D0, 0x20F0, 1⟩,
  ⟨0x2104, 0x2104, 1⟩, ⟨0x2108, 0x2108, 1⟩, ⟨0x2114, 0x2114, 1⟩, ⟨0x2117, 0x2118, 1⟩,
  ⟨0x211E, 0x211F, 1⟩, ⟨0x2123, 0x2123, 1⟩, ⟨0x2125, 0x2125, 1⟩, ⟨0x2127, 0x2127, 1⟩,
  ⟨0x2129, 0x2129, 1⟩, ⟨0x212E, 0x212E, 1⟩, ⟨0x213A, 0x213A, 1⟩, ⟨0x2141, 0x2144, 1⟩,
  ⟨0x214A, 0x214F, 1⟩, ⟨0x2180, 0x2182, 1⟩, ⟨0x2184, 0x2188, 1⟩, ⟨0x218A, 0x218B, 1⟩,
  ⟨0x2190, 0x222B, 1⟩, ⟨0x222E, 0x222E, 1⟩, ⟨0x2231, 0x2328, 1⟩, ⟨0x232B, 0x2429, 1⟩,
  ⟨0x2440, 0x244A, 1⟩, ⟨0x24EB, 0x2A0B, 1⟩, ⟨0x2A0D, 0x2A73, 1⟩, ⟨0x2A77, 0x2ADB, 1⟩,
  ⟨0x2ADD, 0x2B73, 1⟩, ⟨0x2B76, 0x2BFF, 1⟩, ⟨0x2C30, 0x2C5F, 1⟩, ⟨0x2C61, 0x2C61, 1⟩,
  ⟨0x2C65, 0x2C66, 1⟩, ⟨0x2C68, 0x2C68, 1⟩, ⟨0x2C6A, 0x2C6A, 1⟩, ⟨0x2C6C, 0x2C6C, 1⟩,
  ⟨0x2C71, 0x2C71, 1⟩, ⟨0x2C73, 0x2C74, 1⟩, ⟨0x2C76, 0x2C7B, 1⟩, ⟨0x2C81, 0x2C81, 1⟩,
  ⟨0x2C83, 0x2C83, 1⟩, ⟨0x2C85, 0x2C85, 1⟩, ⟨0x2C87, 0x2C87, 1⟩, ⟨0x2C89, 0x2C89, 1⟩,
  ⟨0x2C8B, 0x2C8B, 1⟩, ⟨0x2C8D, 0x2C8D, 1⟩, ⟨0x2C8F, 0x2C8F, 1⟩, ⟨0x2C91, 0x2C91, 1⟩,
  ⟨0x2C93, 0x2C93, 1⟩, ⟨0x2C95, 0x2C95, 1⟩, ⟨0x2C97, 0x2C97, 1⟩, ⟨0x2C99, 0x2C99, 1⟩,
  ⟨0x2C9B, 0x2C9B, 1⟩, ⟨0x2C9D, 0x2C9D, 1⟩, ⟨0x2C9F, 0x2C9F, 1⟩, ⟨0x2CA1, 0x2CA1, 1⟩,
  ⟨0x2CA3, 0x2CA3, 1⟩, ⟨0x2CA5, 0x2CA5, 1⟩, ⟨0x2CA7, 0x2CA7, 1⟩, ⟨0x2CA9, 0x2CA9, 1⟩,
  ⟨0x2CAB, 0x2CAB, 1⟩, ⟨0x2CAD, 0x2CAD, 1⟩, ⟨0x2CAF, 0x2CAF, 1⟩, ⟨0x2CB1, 0x2CB1, 1⟩,
  ⟨0x2CB3, 0x2CB3, 1⟩, ⟨0x2CB5, 0x2CB5, 1⟩, ⟨0x2CB7, 0x2CB7, 1⟩, ⟨0x2CB9, 0x2CB9, 1⟩,
  ⟨0x2CBB, 0x2CBB, 1⟩, ⟨0x2CBD, 0x2CBD, 1⟩, ⟨0x2CBF, 0x2CBF, 1⟩, ⟨0x2CC1, 0x2CC1, 1⟩,
  ⟨0x2CC3, 0x2CC3, 1⟩, ⟨0x2CC5, 0x2CC5, 1⟩, ⟨0x2CC7, 0x2CC7, 1⟩, ⟨0x2CC9, 0x2CC9, 1⟩,
  ⟨0x2CCB, 0x2CCB, 1⟩, ⟨0x2CCD, 0x2CCD, 1⟩, ⟨0x2CCF, 0x2CCF, 1⟩, ⟨0x2CD1, 0x2CD1, 1⟩,
  ⟨0x2CD3, 0x2CD3, 1⟩, ⟨0x2CD5, 0x2CD5, 1⟩, ⟨0x2CD7, 0x2CD7, 1⟩, ⟨0x2CD9, 0x2CD9, 1⟩,
  ⟨0x2CDB, 0x2CDB, 1⟩, ⟨0x2CDD, 0x2CDD, 1⟩, ⟨0x2CDF, 0x2CDF, 1⟩, ⟨0x2CE1, 0x2CE1, 1⟩,
  ⟨0x2CE3, 0x2CEA, 1⟩, ⟨0x2CEC, 0x2CEC, 1⟩, ⟨0x2CEE, 0x2CF1, 1⟩, ⟨0x2CF3, 0x2CF3, 1⟩,
  ⟨0x2CF9, 0x2D25, 1⟩, ⟨0x2D27, 0x2D27, 1⟩, ⟨0x2D2D, 0x2D2D, 1⟩, ⟨0x2D30, 0x2D67, 1⟩,
  ⟨0x2D70, 0x2D70, 1⟩, ⟨0x2D7F, 0x2D96, 1⟩, ⟨0x2DA0, 0x2DA6, 1⟩, ⟨0x2DA8, 0x2DAE, 1⟩,
  ⟨0x2DB0, 0x2DB6, 1⟩, ⟨0x2DB8, 0x2DBE, 1⟩, ⟨0x2DC0, 0x2DC6, 1⟩, ⟨0x2DC8, 0x2DCE, 1⟩,
  ⟨0x2DD0, 0x2DD6, 1⟩, ⟨0x2DD8, 0x2DDE, 1⟩, ⟨0x2DE0, 0x2E5D, 1⟩, ⟨0x2E80, 0x2E99, 1⟩,
  ⟨0x2E9B, 0x2E9E, 1⟩, ⟨0x2EA0, 0x2EF2, 1⟩, ⟨0x3001, 0x3001, 1⟩, ⟨0x3003, 0x3035, 1⟩,
  ⟨0x3037, 0x3037, 1⟩, ⟨0x303B, 0x303F, 1⟩, ⟨0x3041, 0x3096, 1⟩, ⟨0x3099, 0x309A, 1⟩,
  ⟨0x309D, 0x309E, 1⟩, ⟨0x30A0, 0x30FE, 1⟩, ⟨0x3105, 0x312F, 1⟩, ⟨0x3190, 0x3191, 1⟩,
  ⟨0x31A0, 0x31E5, 1⟩, ⟨0x31F0, 0x31FF, 1⟩, ⟨0x3248, 0x324F, 1⟩, ⟨0x327F, 0x327F, 1⟩,
  ⟨0x3400, 0xA48C, 1⟩, ⟨0xA490, 0xA4C6, 1⟩, ⟨0xA4D0, 0xA62B, 1⟩, ⟨0xA641, 0xA641, 1⟩,
  ⟨0xA643, 0xA643, 1⟩, ⟨0xA645, 0xA645, 1⟩, ⟨0xA647, 0xA647, 1⟩, ⟨0xA649, 0xA649, 1⟩,
  ⟨0xA64B, 0xA64B, 1⟩, ⟨0xA64D, 0xA64D, 1⟩, ⟨0xA64F, 0xA64F, 1⟩, ⟨0xA651, 0xA651, 1⟩,
  ⟨0xA653, 0xA653, 1⟩, ⟨0xA655, 0xA655, 1⟩, ⟨0xA657, 0xA657, 1⟩, ⟨0xA659, 0xA659, 1⟩,
  ⟨0xA65B, 0xA65B, 1⟩, ⟨0xA65D, 0xA65D, 1⟩, ⟨0xA65F, 0xA65F, 1⟩, ⟨0xA661, 0xA661, 1⟩,
  ⟨0xA663, 0xA663, 1⟩, ⟨0xA665, 0xA665, 1⟩, ⟨0xA667, 0xA667, 1⟩, ⟨0xA669, 0xA669, 1⟩,
  ⟨0xA66B, 0xA66B, 1⟩, ⟨0xA66D, 0xA67F, 1⟩, ⟨0xA681, 0xA681, 1⟩, ⟨0xA683, 0xA683, 1⟩,
  ⟨0xA685, 0xA685, 1⟩, ⟨0xA687, 0xA687, 1⟩, ⟨0xA689, 0xA689, 1⟩, ⟨0xA68B, 0xA68B, 1⟩,
  ⟨0xA68D, 0xA68D, 1⟩, ⟨0xA68F, 0xA68F, 1⟩, ⟨0xA691, 0xA691, 1⟩, ⟨0xA693, 0xA693, 1⟩,
  ⟨0xA695, 0xA695, 1⟩, ⟨0xA697, 0xA697, 1⟩, ⟨0xA699, 0xA699, 1⟩, ⟨0xA69B, 0xA69B, 1⟩,
  ⟨0xA69E, 0xA6F7, 1⟩, ⟨0xA700, 0xA721, 1⟩, ⟨0xA723, 0xA723, 1⟩, ⟨0xA725, 0xA725, 1⟩,
  ⟨0xA727, 0xA727, 1⟩, ⟨0xA729, 0xA729, 1⟩, ⟨0xA72B, 0xA72B, 1⟩, ⟨0xA72D, 0xA72D, 1⟩,
  ⟨0xA72F, 0xA731, 1⟩, ⟨0xA733, 0xA733, 1⟩, ⟨0xA735, 0xA735, 1⟩, ⟨0xA737, 0xA737, 1⟩,
  ⟨0xA739, 0xA739, 1⟩, ⟨0xA73B, 0xA73B, 1⟩, ⟨0xA73D, 0xA73D, 1⟩, ⟨0xA73F, 0xA73F, 1⟩,
  ⟨0xA741, 0xA741, 1⟩, ⟨0xA743, 0xA743, 1⟩, ⟨0xA745, 0xA745, 1⟩, ⟨0xA747, 0xA747, 1⟩,
  ⟨0xA749, 0xA749, 1⟩, ⟨0xA74B, 0xA74B, 1⟩, ⟨0xA74D, 0xA74D, 1⟩, ⟨0xA74F, 0xA74F, 1⟩,
  ⟨0xA751, 0xA751, 1⟩, ⟨0xA753, 0xA753, 1⟩, ⟨0xA755, 0xA755, 1⟩, ⟨0xA757, 0xA757, 1⟩,
  ⟨0xA759, 0xA759, 1⟩, ⟨0xA75B, 0xA75B, 1⟩, ⟨0xA75D, 0xA75D, 1⟩, ⟨0xA75F, 0xA75F, 1⟩,
  ⟨0xA761, 0xA761, 1⟩, ⟨0xA763, 0xA763, 1⟩, ⟨0xA765, 0xA765, 1⟩, ⟨0xA767, 0xA767, 1⟩,
  ⟨0xA769, 0xA769, 1⟩, ⟨0xA76B, 0xA76B, 1⟩, ⟨0xA76D, 0xA76D, 1⟩, ⟨0xA76F, 0xA76F, 1⟩,
  ⟨0xA771, 0xA778, 1⟩, ⟨0xA77A, 0xA77A, 1⟩, ⟨0xA77C, 0xA77C, 1⟩, ⟨0xA77F, 0xA77F, 1⟩,
  ⟨0xA781, 0xA781, 1⟩, ⟨0xA783, 0xA783, 1⟩, ⟨0xA785, 0xA785, 1⟩, ⟨0xA787, 0xA78A, 1⟩,
  ⟨0xA78C, 0xA78C, 1⟩, ⟨0xA78E, 0xA78F, 1⟩, ⟨0xA791, 0xA791, 1⟩, ⟨0xA793, 0xA795, 1⟩,
  ⟨0xA797, 0xA797, 1⟩, ⟨0xA799, 0xA799, 1⟩, ⟨0xA79B, 0xA79B, 1⟩, ⟨0xA79D, 0xA79D, 1⟩,
  ⟨0xA79F, 0xA79F, 1⟩, ⟨0xA7A1, 0xA7A1, 1⟩, ⟨0xA7A3, 0xA7A3, 1⟩, ⟨0xA7A5, 0xA7A5, 1⟩,
  ⟨0xA7A7, 0xA7A7, 1⟩, ⟨0xA7A9, 0xA7A9, 1⟩, ⟨0xA7AF, 0xA7AF, 1⟩, ⟨0xA7B5, 0xA7B5, 1⟩,
  ⟨0xA7B7, 0xA7B7, 1⟩, ⟨0xA7B9, 0xA7B9, 1⟩, ⟨0xA7BB, 0xA7BB, 1⟩, ⟨0xA7BD, 0xA7BD, 1⟩,
  ⟨0xA7BF, 0xA7BF, 1⟩, ⟨0xA7C1, 0xA7C1, 1⟩, ⟨0xA7C3, 0xA7C3, 1⟩, ⟨0xA7C8, 0xA7C8, 1⟩,
  ⟨0xA7CA, 0xA7CA, 1⟩, ⟨0xA7CD, 0xA7CD, 1⟩, ⟨0xA7CF, 0xA7CF, 1⟩, ⟨0xA7D1, 0xA7D1, 1⟩,
  ⟨0xA7D3, 0xA7D3, 1⟩, ⟨0xA7D5, 0xA7D5, 1⟩, ⟨0xA7D7, 0xA7D7, 1⟩, ⟨0xA7D9, 0xA7D9, 1⟩,
  ⟨0xA7DB, 0xA7DB, 1⟩, ⟨0xA7F6, 0xA7F7, 1⟩, ⟨0xA7FA, 0xA82C, 1⟩, ⟨0xA830, 0xA839, 1⟩,
  ⟨0xA840, 0xA877, 1⟩, ⟨0xA880, 0xA8C5, 1⟩, ⟨0xA8CE, 0xA8D9, 1⟩, ⟨0xA8E0, 0xA953, 1⟩,
  ⟨0xA95F, 0xA97C, 1⟩, ⟨0xA980, 0xA9CD, 1⟩, ⟨0xA9CF, 0xA9D9, 1⟩, ⟨0xA9DE, 0xA9FE, 1⟩,
  ⟨0xAA00, 0xAA36, 1⟩, ⟨0xAA40, 0xAA4D, 1⟩, ⟨0xAA50, 0xAA59, 1⟩, ⟨0xAA5C, 0xAAC2, 1⟩,
  ⟨0xAADB, 0xAAF6, 1⟩, ⟨0xAB01, 0xAB06, 1⟩, ⟨0xAB09, 0xAB0E, 1⟩, ⟨0xAB11, 0xAB16, 1⟩,
  ⟨0xAB20, 0xAB26, 1⟩, ⟨0xAB28, 0xAB2E, 1⟩, ⟨0xAB30, 0xAB5B, 1⟩, ⟨0xAB60, 0xAB68, 1⟩,
  ⟨0xAB6A, 0xAB6B, 1⟩, ⟨0xABC0, 0xABED, 1⟩, ⟨0xABF0, 0xABF9, 1⟩, ⟨0xAC00, 0xD7A3, 1⟩,
  ⟨0xD7B0, 0xD7C6, 1⟩, ⟨0xD7CB, 0xD7FB, 1⟩, ⟨0xFA0E, 0xFA0F, 1⟩, ⟨0xFA11, 0xFA11, 1⟩,
  ⟨0xFA13, 0xFA14, 1⟩, ⟨0xFA1F, 0xFA1F, 1⟩, ⟨0xFA21, 0xFA21, 1⟩, ⟨0xFA23, 0xFA24, 1⟩,
  ⟨0xFA27, 0xFA29, 1⟩, ⟨0xFB1E, 0xFB1E, 1⟩, ⟨0xFBB2, 0xFBD2, 1⟩, ⟨0xFD3E, 0xFD4F, 1⟩,
  ⟨0xFD90, 0xFD91, 1⟩, ⟨0xFDC8, 0xFDCF, 1⟩, ⟨0xFDFD, 0xFDFF, 1⟩, ⟨0xFE20, 0xFE2F, 1⟩,
  ⟨0xFE45, 0xFE46, 1⟩, ⟨0xFE73, 0xFE73, 1⟩, ⟨0x10000, 0x1000B, 1⟩, ⟨0x1000D, 0x10026, 1⟩,
  ⟨0x10028, 0x1003A, 1⟩, ⟨0x1003C, 0x1003D, 1⟩, ⟨0x1003F, 0x1004D, 1⟩, ⟨0x10050, 0x1005D, 1⟩,
  ⟨0x10080, 0x100FA, 1⟩, ⟨0x10100, 0x10102, 1⟩, ⟨0x10107, 0x10133, 1⟩, ⟨0x10137, 0x1018E, 1⟩,
  ⟨0x10190, 0x1019C, 1⟩, ⟨0x101A0, 0x101A0, 1⟩, ⟨0x101D0, 0x101FD, 1⟩, ⟨0x10280, 0x1029C, 1⟩,
  ⟨0x102A0, 0x102D0, 1⟩, ⟨0x102E0, 0x102FB, 1⟩, ⟨0x10300, 0x10323, 1⟩, ⟨0x1032D, 0x1034A, 1⟩,
  ⟨0x10350, 0x1037A, 1⟩, ⟨0x10380, 0x1039D, 1⟩, ⟨0x1039F, 0x103C3, 1⟩, ⟨0x103C8, 0x103D5, 1⟩,
  ⟨0x10428, 0x1049D, 1⟩, ⟨0x104A0, 0x104A9, 1⟩, ⟨0x104D8, 0x104FB, 1⟩, ⟨0x10500, 0x10527, 1⟩,
  ⟨0x10530, 0x10563, 1⟩, ⟨0x1056F, 0x1056F, 1⟩, ⟨0x10597, 0x105A1, 1⟩, ⟨0x105A3, 0x105B1, 1⟩,
  ⟨0x105B3, 0x105B9, 1⟩, ⟨0x105BB, 0x105BC, 1⟩, ⟨0x105C0, 0x105F3, 1⟩, ⟨0x10600, 0x10736, 1⟩,
  ⟨0x10740, 0x10755, 1⟩, ⟨0x10760, 0x10767, 1⟩, ⟨0x10780, 0x10780, 1⟩, ⟨0x10800, 0x10805, 1⟩,
  ⟨0x10808, 0x10808, 1⟩, ⟨0x1080A, 0x10835, 1⟩, ⟨0x10837, 0x10838, 1⟩, ⟨0x1083C, 0x1083C, 1⟩,
  ⟨0x1083F, 0x10855, 1⟩, ⟨0x10857, 0x1089E, 1⟩, ⟨0x108A7, 0x108AF, 1⟩, ⟨0x108E0, 0x108F2, 1⟩,
  ⟨0x108F4, 0x108F5, 1⟩, ⟨0x108FB, 0x1091B, 1⟩, ⟨0x1091F, 0x10939, 1⟩, ⟨0x1093F, 0x10959, 1⟩,
  ⟨0x10980, 0x109B7, 1⟩, ⟨0x109BC, 0x109CF, 1⟩, ⟨0x109D2, 0x10A03, 1⟩, ⟨0x10A05, 0x10A06, 1⟩,
  ⟨0x10A0C, 0x10A13, 1⟩, ⟨0x10A15, 0x10A17, 1⟩, ⟨0x10A19, 0x10A35, 1⟩, ⟨0x10A38, 0x10A3A, 1⟩,
  ⟨0x10A3F, 0x10A48, 1⟩, ⟨0x10A50, 0x10A58, 1⟩, ⟨0x10A60, 0x10A9F, 1⟩, ⟨0x10AC0, 0x10AE6, 1⟩,
  ⟨0x10AEB, 0x10AF6, 1⟩, ⟨0x10B00, 0x10B35, 1⟩, ⟨0x10B39, 0x10B55, 1⟩, ⟨0x10B58, 0x10B72, 1⟩,
  ⟨0x10B78, 0x10B91, 1⟩, ⟨0x10B99, 0x10B9C, 1⟩, ⟨0x10BA9, 0x10BAF, 1⟩, ⟨0x10C00, 0x10C48, 1⟩,
  ⟨0x10CC0, 0x10CF2, 1⟩, ⟨0x10CFA, 0x10D27, 1⟩, ⟨0x10D30, 0x10D39, 1⟩, ⟨0x10D40, 0x10D4F, 1⟩,
  ⟨0x10D69, 0x10D85, 1⟩, ⟨0x10D8E, 0x10D8F, 1⟩, ⟨0x10E60, 0x10E7E, 1⟩, ⟨0x10E80, 0x10EA9, 1⟩,
  ⟨0x10EAB, 0x10EAD, 1⟩, ⟨0x10EB0, 0x10EB1, 1⟩, ⟨0x10EC2, 0x10EC7, 1⟩, ⟨0x10ED0, 0x10ED8, 1⟩,
  ⟨0x10EFA, 0x10F27, 1⟩, ⟨0x10F30, 0x10F59, 1⟩, ⟨0x10F70, 0x10F89, 1⟩, ⟨0x10FB0, 0x10FCB, 1⟩,
  ⟨0x10FE0, 0x10FF6, 1⟩, ⟨0x11000, 0x1104D, 1⟩, ⟨0x11052, 0x11075, 1⟩, ⟨0x1107F, 0x110BC, 1⟩,
  ⟨0x110BE, 0x110C2, 1⟩, ⟨0x110D0, 0x110E8, 1⟩, ⟨0x110F0, 0x110F9, 1⟩, ⟨0x11100, 0x11134, 1⟩,
  ⟨0x11136, 0x11147, 1⟩, ⟨0x11150, 0x11176, 1⟩, ⟨0x11180, 0x111DF, 1⟩, ⟨0x111E1, 0x111F4, 1⟩,
  ⟨0x11200, 0x11211, 1⟩, ⟨0x11213, 0x11241, 1⟩, ⟨0x11280, 0x11286, 1⟩, ⟨0x11288, 0x11288, 1⟩,
  ⟨0x1128A, 0x1128D, 1⟩, ⟨0x1128F, 0x1129D, 1⟩, ⟨0x1129F, 0x112A9, 1⟩, ⟨0x112B0, 0x112EA, 1⟩,
  ⟨0x112F0, 0x112F9, 1⟩, ⟨0x11300, 0x11303, 1⟩, ⟨0x11305, 0x1130C, 1⟩, ⟨0x1130F, 0x11310, 1⟩,
  ⟨0x11313, 0x11328, 1⟩, ⟨0x1132A, 0x11330, 1⟩, ⟨0x11332, 0x11333, 1⟩, ⟨0x11335, 0x11339, 1⟩,
  ⟨0x1133B, 0x11344, 1⟩, ⟨0x11347, 0x11348, 1⟩, ⟨0x1134B, 0x1134D, 1⟩, ⟨0x11350, 0x11350, 1⟩,
  ⟨0x11357, 0x11357, 1⟩, ⟨0x1135D, 0x11363, 1⟩, ⟨0x11366, 0x1136C, 1⟩, ⟨0x11370, 0x11374, 1⟩,
  ⟨0x11380, 0x11389, 1⟩, ⟨0x1138B, 0x1138B, 1⟩, ⟨0x1138E, 0x1138E, 1⟩, ⟨0x11390, 0x113B5, 1⟩,
  ⟨0x113B7, 0x113C0, 1⟩, ⟨0x113C2, 0x113C2, 1⟩, ⟨0x113C5, 0x113C5, 1⟩, ⟨0x113C7, 0x113CA, 1⟩,
  ⟨0x113CC, 0x113D5, 1⟩, ⟨0x113D7, 0x113D8, 1⟩, ⟨0x113E1, 0x113E2, 1⟩, ⟨0x11400, 0x1145B, 1⟩,
  ⟨0x1145D, 0x11461, 1⟩, ⟨0x11480, 0x114C7, 1⟩, ⟨0x114D0, 0x114D9, 1⟩, ⟨0x11580, 0x115B5, 1⟩,
  ⟨0x115B8, 0x115DD, 1⟩, ⟨0x11600, 0x11644, 1⟩, ⟨0x11650, 0x11659, 1⟩, ⟨0x11660, 0x1166C, 1⟩,
  ⟨0x11680, 0x116B9, 1⟩, ⟨0x116C0, 0x116C9, 1⟩, ⟨0x116D0, 0x116E3, 1⟩, ⟨0x11700, 0x1171A, 1⟩,
  ⟨0x1171D, 0x1172B, 1⟩, ⟨0x11730, 0x11746, 1⟩, ⟨0x11800, 0x1183B, 1⟩, ⟨0x118C0, 0x118F2, 1⟩,
  ⟨0x118FF, 0x11906, 1⟩, ⟨0x11909, 0x11909, 1⟩, ⟨0x1190C, 0x11913, 1⟩, ⟨0x11915, 0x11916, 1⟩,
  ⟨0x11918, 0x11935, 1⟩, ⟨0x11937, 0x11938, 1⟩, ⟨0x1193B, 0x11946, 1⟩, ⟨0x11950, 0x11959, 1⟩,
  ⟨0x119A0, 0x119A7, 1⟩, ⟨0x119AA, 0x119D7, 1⟩, ⟨0x119DA, 0x119E4, 1⟩, ⟨0x11A00, 0x11A47, 1⟩,
  ⟨0x11A50, 0x11AA2, 1⟩, ⟨0x11AB0, 0x11AF8, 1⟩, ⟨0x11B00, 0x11B09, 1⟩, ⟨0x11B60, 0x11B67, 1⟩,
  ⟨0x11BC0, 0x11BE1, 1⟩, ⟨0x11BF0, 0x11BF9, 1⟩, ⟨0x11C00, 0x11C08, 1⟩, ⟨0x11C0A, 0x11C36, 1⟩,
  ⟨0x11C38, 0x11C45, 1⟩, ⟨0x11C50, 0x11C6C, 1⟩, ⟨0x11C70, 0x11C8F, 1⟩, ⟨0x11C92, 0x11CA7, 1⟩,
  ⟨0x11CA9, 0x11CB6, 1⟩, ⟨0x11D00, 0x11D06, 1⟩, ⟨0x11D08, 0x11D09, 1⟩, ⟨0x11D0B, 0x11D36, 1⟩,
  ⟨0x11D3A, 0x11D3A, 1⟩, ⟨0x11D3C, 0x11D3D, 1⟩, ⟨0x11D3F, 0x11D47, 1⟩, ⟨0x11D50, 0x11D59, 1⟩,
  ⟨0x11D60, 0x11D65, 1⟩, ⟨0x11D67, 0x11D68, 1⟩, ⟨0x11D6A, 0x11D8E, 1⟩, ⟨0x11D90, 0x11D91, 1⟩,
  ⟨0x11D93, 0x11D98, 1⟩, ⟨0x11DA0, 0x11DA9, 1⟩, ⟨0x11DB0, 0x11DDB, 1⟩, ⟨0x11DE0, 0x11DE9, 1⟩,
  ⟨0x11EE0, 0x11EF8, 1⟩, ⟨0x11F00, 0x11F10, 1⟩, ⟨0x11F12, 0x11F3A, 1⟩, ⟨0x11F3E, 0x11F5A, 1⟩,
  ⟨0x11FB0, 0x11FB0, 1⟩, ⟨0x11FC0, 0x11FF1, 1⟩, ⟨0x11FFF, 0x12399, 1⟩, ⟨0x12400, 0x1246E, 1⟩,
  ⟨0x12470, 0x12474, 1⟩, ⟨0x12480, 0x12543, 1⟩, ⟨0x12F90, 0x12FF2, 1⟩, ⟨0x13000, 0x1342F, 1⟩,
  ⟨0x13440, 0x13455, 1⟩, ⟨0x13460, 0x143FA, 1⟩, ⟨0x14400, 0x14646, 1⟩, ⟨0x16100, 0x16139, 1⟩,
  ⟨0x16800, 0x16A38, 1⟩, ⟨0x16A40, 0x16A5E, 1⟩, ⟨0x16A60, 0x16A69, 1⟩, ⟨0x16A6E, 0x16ABE, 1⟩,
  ⟨0x16AC0, 0x16AC9, 1⟩, ⟨0x16AD0, 0x16AED, 1⟩, ⟨0x16AF0, 0x16AF5, 1⟩, ⟨0x16B00, 0x16B45, 1⟩,
  ⟨0x16B50, 0x16B59, 1⟩, ⟨0x16B5B, 0x16B61, 1⟩, ⟨0x16B63, 0x16B77, 1⟩, ⟨0x16B7D, 0x16B8F, 1⟩,
  ⟨0x16D40, 0x16D79, 1⟩, ⟨0x16E60, 0x16E9A, 1⟩, ⟨0x16EBB, 0x16ED3, 1⟩, ⟨0x16F00, 0x16F4A, 1⟩,
  ⟨0x16F4F, 0x16F87, 1⟩, ⟨0x16F8F, 0x16F9F, 1⟩, ⟨0x16FE0, 0x16FE4, 1⟩, ⟨0x16FF0, 0x16FF6, 1⟩,
  ⟨0x17000, 0x18CD5, 1⟩, ⟨0x18CFF, 0x18D1E, 1⟩, ⟨0x18D80, 0x18DF2, 1⟩, ⟨0x1AFF0, 0x1AFF3, 1⟩,
  ⟨0x1AFF5, 0x1AFFB, 1⟩, ⟨0x1AFFD, 0x1AFFE, 1⟩, ⟨0x1B000, 0x1B122, 1⟩, ⟨0x1B132, 0x1B132, 1⟩,
  ⟨0x1B150, 0x1B152, 1⟩, ⟨0x1B155, 0x1B155, 1⟩, ⟨0x1B164, 0x1B167, 1⟩, ⟨0x1B170, 0x1B2FB, 1⟩,
  ⟨0x1BC00, 0x1BC6A, 1⟩, ⟨0x1BC70, 0x1BC7C, 1⟩, ⟨0x1BC80, 0x1BC88, 1⟩, ⟨0x1BC90, 0x1BC99, 1⟩,
  ⟨0x1BC9C, 0x1BC9F, 1⟩, ⟨0x1CC00, 0x1CCD5, 1⟩, ⟨0x1CCFA, 0x1CCFC, 1⟩, ⟨0x1CD00, 0x1CEB3, 1⟩,
  ⟨0x1CEBA, 0x1CED0, 1⟩, ⟨0x1CEE0, 0x1CEF0, 1⟩, ⟨0x1CF00, 0x1CF2D, 1⟩, ⟨0x1CF30, 0x1CF46, 1⟩,
  ⟨0x1CF50, 0x1CFC3, 1⟩, ⟨0x1D000, 0x1D0F5, 1⟩, ⟨0x1D100, 0x1D126, 1⟩, ⟨0x1D129, 0x1D15D, 1⟩,
  ⟨0x1D165, 0x1D172, 1⟩, ⟨0x1D17B, 0x1D1BA, 1⟩, ⟨0x1D1C1, 0x1D1EA, 1⟩, ⟨0x1D200, 0x1D245, 1⟩,
  ⟨0x1D2C0, 0x1D2D3, 1⟩, ⟨0x1D2E0, 0x1D2F3, 1⟩, ⟨0x1D300, 0x1D356, 1⟩, ⟨0x1D360, 0x1D378, 1⟩,
  ⟨0x1D800, 0x1DA8B, 1⟩, ⟨0x1DA9B, 0x1DA9F, 1⟩, ⟨0x1DAA1, 0x1DAAF, 1⟩, ⟨0x1DF00, 0x1DF1E, 1⟩,
  ⟨0x1DF25, 0x1DF2A, 1⟩, ⟨0x1E000, 0x1E006, 1⟩, ⟨0x1E008, 0x1E018, 1⟩, ⟨0x1E01B, 0x1E021, 1⟩,
  ⟨0x1E023, 0x1E024, 1⟩, ⟨0x1E026, 0x1E02A, 1⟩, ⟨0x1E08F, 0x1E08F, 1⟩, ⟨0x1E100, 0x1E12C, 1⟩,
  ⟨0x1E130, 0x1E13D, 1⟩, ⟨0x1E140, 0x1E149, 1⟩, ⟨0x1E14E, 0x1E14F, 1⟩, ⟨0x1E290, 0x1E2AE, 1⟩,
  ⟨0x1E2C0, 0x1E2F9, 1⟩, ⟨0x1E2FF, 0x1E2FF, 1⟩, ⟨0x1E4D0, 0x1E4F9, 1⟩, ⟨0x1E5D0, 0x1E5FA, 1⟩,
  ⟨0x1E5FF, 0x1E5FF, 1⟩, ⟨0x1E6C0, 0x1E6DE, 1⟩, ⟨0x1E6E0, 0x1E6F5, 1⟩, ⟨0x1E6FE, 0x1E6FF, 1⟩,
  ⟨0x1E7E0, 0x1E7E6, 1⟩, ⟨0x1E7E8, 0x1E7EB, 1⟩, ⟨0x1E7ED, 0x1E7EE, 1⟩, ⟨0x1E7F0, 0x1E7FE, 1⟩,
  ⟨0x1E800, 0x1E8C4, 1⟩, ⟨0x1E8C7, 0x1E8D6, 1⟩, ⟨0x1E922, 0x1E94B, 1⟩, ⟨0x1E950, 0x1E959, 1⟩,
  ⟨0x1E95E, 0x1E95F, 1⟩, ⟨0x1EC71, 0x1ECB4, 1⟩, ⟨0x1ED01, 0x1ED3D, 1⟩, ⟨0x1EEF0, 0x1EEF1, 1⟩,
  ⟨0x1F000, 0x1F02B, 1⟩, ⟨0x1F030, 0x1F093, 1⟩, ⟨0x1F0A0, 0x1F0AE, 1⟩, ⟨0x1F0B1, 0x1F0BF, 1⟩,
  ⟨0x1F0C1, 0x1F0CF, 1⟩, ⟨0x1F0D1, 0x1F0F5, 1⟩, ⟨0x1F10B, 0x1F10F, 1⟩, ⟨0x1F12F, 0x1F12F, 1⟩,
  ⟨0x1F150, 0x1F169, 1⟩, ⟨0x1F16D, 0x1F18F, 1⟩, ⟨0x1F191, 0x1F1AD, 1⟩, ⟨0x1F1E6, 0x1F1FF, 1⟩,
  ⟨0x1F260, 0x1F265, 1⟩, ⟨0x1F300, 0x1F6D8, 1⟩, ⟨0x1F6DC, 0x1F6EC, 1⟩, ⟨0x1F6F0, 0x1F6FC, 1⟩,
  ⟨0x1F700, 0x1F7D9, 1⟩, ⟨0x1F7E0, 0x1F7EB, 1⟩, ⟨0x1F7F0, 0x1F7F0, 1⟩, ⟨0x1F800, 0x1F80B, 1⟩,
  ⟨0x1F810, 0x1F847, 1⟩, ⟨0x1F850, 0x1F859, 1⟩, ⟨0x1F860, 0x1F887, 1⟩, ⟨0x1F890, 0x1F8AD, 1⟩,
  ⟨0x1F8B0, 0x1F8BB, 1⟩, ⟨0x1F8C0, 0x1F8C1, 1⟩, ⟨0x1F8D0, 0x1F8D8, 1⟩, ⟨0x1F900, 0x1FA57, 1⟩,
  ⟨0x1FA60, 0x1FA6D, 1⟩, ⟨0x1FA70, 0x1FA7C, 1⟩, ⟨0x1FA80, 0x1FA8A, 1⟩, ⟨0x1FA8E, 0x1FAC6, 1⟩,
  ⟨0x1FAC8, 0x1FAC8, 1⟩, ⟨0x1FACD, 0x1FADC, 1⟩, ⟨0x1FADF, 0x1FAEA, 1⟩, ⟨0x1FAEF, 0x1FAF8, 1⟩,
  ⟨0x1FB00, 0x1FB92, 1⟩, ⟨0x1FB94, 0x1FBEF, 1⟩, ⟨0x1FBFA, 0x1FBFA, 1⟩, ⟨0x20000, 0x2A6DF, 1⟩,
  ⟨0x2A700, 0x2B81D, 1⟩, ⟨0x2B820, 0x2CEAD, 1⟩, ⟨0x2CEB0, 0x2EBE0, 1⟩, ⟨0x2EBF0, 0x2EE5D, 1⟩,
  ⟨0x30000, 0x3134A, 1⟩, ⟨0x31350, 0x33479, 1⟩]

end SchemaQueries.Network.Domain
