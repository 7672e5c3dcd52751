import IdentityClient.Text.CodeTable

/-!
# Which characters are shown as themselves

A character outside ASCII is visible when it is a letter, mark, number, punctuation or symbol that
has been assigned, other than the Hangul fillers, which are blank. It extends a grapheme when it attaches
to the character before it; the half-width sound marks stand alone here. Main statement: every printing
ASCII character is visible and none of them extends a grapheme (`isVisible_of_ascii`,
`extendsGrapheme_of_ascii`).
-/

namespace IdentityClient

set_option maxRecDepth 100000 in
/-- Visible characters outside ASCII. -/
def visibleTable : CodeTable := .ofRows [
  0xa1_0000ac, 0xae_000377, 0x37a_00037f, 0x384_00038a, 0x38c_00038c, 0x38e_0003a1, 0x3a3_00052f, 0x531_000556,
  0x559_00058a, 0x58d_00058f, 0x591_0005c7, 0x5d0_0005ea, 0x5ef_0005f4, 0x606_00061b, 0x61d_0006dc, 0x6de_00070d,
  0x710_00074a, 0x74d_0007b1, 0x7c0_0007fa, 0x7fd_00082d, 0x830_00083e, 0x840_00085b, 0x85e_00085e, 0x860_00086a,
  0x870_00088f, 0x897_0008e1, 0x8e3_000983, 0x985_00098c, 0x98f_000990, 0x993_0009a8, 0x9aa_0009b0, 0x9b2_0009b2,
  0x9b6_0009b9, 0x9bc_0009c4, 0x9c7_0009c8, 0x9cb_0009ce, 0x9d7_0009d7, 0x9dc_0009dd, 0x9df_0009e3, 0x9e6_0009fe,
  0xa01_000a03, 0xa05_000a0a, 0xa0f_000a10, 0xa13_000a28, 0xa2a_000a30, 0xa32_000a33, 0xa35_000a36, 0xa38_000a39,
  0xa3c_000a3c, 0xa3e_000a42, 0xa47_000a48, 0xa4b_000a4d, 0xa51_000a51, 0xa59_000a5c, 0xa5e_000a5e, 0xa66_000a76,
  0xa81_000a83, 0xa85_000a8d, 0xa8f_000a91, 0xa93_000aa8, 0xaaa_000ab0, 0xab2_000ab3, 0xab5_000ab9, 0xabc_000ac5,
  0xac7_000ac9, 0xacb_000acd, 0xad0_000ad0, 0xae0_000ae3, 0xae6_000af1, 0xaf9_000aff, 0xb01_000b03, 0xb05_000b0c,
  0xb0f_000b10, 0xb13_000b28, 0xb2a_000b30, 0xb32_000b33, 0xb35_000b39, 0xb3c_000b44, 0xb47_000b48, 0xb4b_000b4d,
  0xb55_000b57, 0xb5c_000b5d, 0xb5f_000b63, 0xb66_000b77, 0xb82_000b83, 0xb85_000b8a, 0xb8e_000b90, 0xb92_000b95,
  0xb99_000b9a, 0xb9c_000b9c, 0xb9e_000b9f, 0xba3_000ba4, 0xba8_000baa, 0xbae_000bb9, 0xbbe_000bc2, 0xbc6_000bc8,
  0xbca_000bcd, 0xbd0_000bd0, 0xbd7_000bd7, 0xbe6_000bfa, 0xc00_000c0c, 0xc0e_000c10, 0xc12_000c28, 0xc2a_000c39,
  0xc3c_000c44, 0xc46_000c48, 0xc4a_000c4d, 0xc55_000c56, 0xc58_000c5a, 0xc5c_000c5d, 0xc60_000c63, 0xc66_000c6f,
  0xc77_000c8c, 0xc8e_000c90, 0xc92_000ca8, 0xcaa_000cb3, 0xcb5_000cb9, 0xcbc_000cc4, 0xcc6_000cc8, 0xcca_000ccd,
  0xcd5_000cd6, 0xcdc_000cde, 0xce0_000ce3, 0xce6_000cef, 0xcf1_000cf3, 0xd00_000d0c, 0xd0e_000d10, 0xd12_000d44,
  0xd46_000d48, 0xd4a_000d4f, 0xd54_000d63, 0xd66_000d7f, 0xd81_000d83, 0xd85_000d96, 0xd9a_000db1, 0xdb3_000dbb,
  0xdbd_000dbd, 0xdc0_000dc6, 0xdca_000dca, 0xdcf_000dd4, 0xdd6_000dd6, 0xdd8_000ddf, 0xde6_000def, 0xdf2_000df4,
  0xe01_000e3a, 0xe3f_000e5b, 0xe81_000e82, 0xe84_000e84, 0xe86_000e8a, 0xe8c_000ea3, 0xea5_000ea5, 0xea7_000ebd,
  0xec0_000ec4, 0xec6_000ec6, 0xec8_000ece, 0xed0_000ed9, 0xedc_000edf, 0xf00_000f47, 0xf49_000f6c, 0xf71_000f97,
  0xf99_000fbc, 0xfbe_000fcc, 0xfce_000fda, 0x1000_0010c5, 0x10c7_0010c7, 0x10cd_0010cd, 0x10d0_00115e,
  0x1161_001248, 0x124a_00124d, 0x1250_001256, 0x1258_001258, 0x125a_00125d, 0x1260_001288, 0x128a_00128d,
  0x1290_0012b0, 0x12b2_0012b5, 0x12b8_0012be, 0x12c0_0012c0, 0x12c2_0012c5, 0x12c8_0012d6, 0x12d8_001310,
  0x1312_001315, 0x1318_00135a, 0x135d_00137c, 0x1380_001399, 0x13a0_0013f5, 0x13f8_0013fd, 0x1400_00167f,
  0x1681_00169c, 0x16a0_0016f8, 0x1700_001715, 0x171f_001736, 0x1740_001753, 0x1760_00176c, 0x176e_001770,
  0x1772_001773, 0x1780_0017dd, 0x17e0_0017e9, 0x17f0_0017f9, 0x1800_00180d, 0x180f_001819, 0x1820_001878,
  0x1880_0018aa, 0x18b0_0018f5, 0x1900_00191e, 0x1920_00192b, 0x1930_00193b, 0x1940_001940, 0x1944_00196d,
  0x1970_001974, 0x1980_0019ab, 0x19b0_0019c9, 0x19d0_0019da, 0x19de_001a1b, 0x1a1e_001a5e, 0x1a60_001a7c,
  0x1a7f_001a89, 0x1a90_001a99, 0x1aa0_001aad, 0x1ab0_001add, 0x1ae0_001aeb, 0x1b00_001b4c, 0x1b4e_001bf3,
  0x1bfc_001c37, 0x1c3b_001c49, 0x1c4d_001c8a, 0x1c90_001cba, 0x1cbd_001cc7, 0x1cd0_001cfa, 0x1d00_001f15,
  0x1f18_001f1d, 0x1f20_001f45, 0x1f48_001f4d, 0x1f50_001f57, 0x1f59_001f59, 0x1f5b_001f5b, 0x1f5d_001f5d,
  0x1f5f_001f7d, 0x1f80_001fb4, 0x1fb6_001fc4, 0x1fc6_001fd3, 0x1fd6_001fdb, 0x1fdd_001fef, 0x1ff2_001ff4,
  0x1ff6_001ffe, 0x2010_002027, 0x2030_00205e, 0x2070_002071, 0x2074_00208e, 0x2090_00209c, 0x20a0_0020c1,
  0x20d0_0020f0, 0x2100_00218b, 0x2190_002429, 0x2440_00244a, 0x2460_002b73, 0x2b76_002cf3, 0x2cf9_002d25,
  0x2d27_002d27, 0x2d2d_002d2d, 0x2d30_002d67, 0x2d6f_002d70, 0x2d7f_002d96, 0x2da0_002da6, 0x2da8_002dae,
  0x2db0_002db6, 0x2db8_002dbe, 0x2dc0_002dc6, 0x2dc8_002dce, 0x2dd0_002dd6, 0x2dd8_002dde, 0x2de0_002e5d,
  0x2e80_002e99, 0x2e9b_002ef3, 0x2f00_002fd5, 0x2ff0_002fff, 0x3001_00303f, 0x3041_003096, 0x3099_0030ff,
  0x3105_00312f, 0x3131_003163, 0x3165_00318e, 0x3190_0031e5, 0x31ef_00321e, 0x3220_00a48c, 0xa490_00a4c6,
  0xa4d0_00a62b, 0xa640_00a6f7, 0xa700_00a7dc, 0xa7f1_00a82c, 0xa830_00a839, 0xa840_00a877, 0xa880_00a8c5,
  0xa8ce_00a8d9, 0xa8e0_00a953, 0xa95f_00a97c, 0xa980_00a9cd, 0xa9cf_00a9d9, 0xa9de_00a9fe, 0xaa00_00aa36,
  0xaa40_00aa4d, 0xaa50_00aa59, 0xaa5c_00aac2, 0xaadb_00aaf6, 0xab01_00ab06, 0xab09_00ab0e, 0xab11_00ab16,
  0xab20_00ab26, 0xab28_00ab2e, 0xab30_00ab6b, 0xab70_00abed, 0xabf0_00abf9, 0xac00_00d7a3, 0xd7b0_00d7c6,
  0xd7cb_00d7fb, 0xf900_00fa6d, 0xfa70_00fad9, 0xfb00_00fb06, 0xfb13_00fb17, 0xfb1d_00fb36, 0xfb38_00fb3c,
  0xfb3e_00fb3e, 0xfb40_00fb41, 0xfb43_00fb44, 0xfb46_00fdcf, 0xfdf0_00fe19, 0xfe20_00fe52, 0xfe54_00fe66,
  0xfe68_00fe6b, 0xfe70_00fe74, 0xfe76_00fefc, 0xff01_00ff9f, 0xffa1_00ffbe, 0xffc2_00ffc7, 0xffca_00ffcf,
  0xffd2_00ffd7, 0xffda_00ffdc, 0xffe0_00ffe6, 0xffe8_00ffee, 0xfffc_00fffd, 0x10000_01000b, 0x1000d_010026,
  0x10028_01003a, 0x1003c_01003d, 0x1003f_01004d, 0x10050_01005d, 0x10080_0100fa, 0x10100_010102, 0x10107_010133,
  0x10137_01018e, 0x10190_01019c, 0x101a0_0101a0, 0x101d0_0101fd, 0x10280_01029c, 0x102a0_0102d0, 0x102e0_0102fb,
  0x10300_010323, 0x1032d_01034a, 0x10350_01037a, 0x10380_01039d, 0x1039f_0103c3, 0x103c8_0103d5, 0x10400_01049d,
  0x104a0_0104a9, 0x104b0_0104d3, 0x104d8_0104fb, 0x10500_010527, 0x10530_010563, 0x1056f_01057a, 0x1057c_01058a,
  0x1058c_010592, 0x10594_010595, 0x10597_0105a1, 0x105a3_0105b1, 0x105b3_0105b9, 0x105bb_0105bc, 0x105c0_0105f3,
  0x10600_010736, 0x10740_010755, 0x10760_010767, 0x10780_010785, 0x10787_0107b0, 0x107b2_0107ba, 0x10800_010805,
  0x10808_010808, 0x1080a_010835, 0x10837_010838, 0x1083c_01083c, 0x1083f_010855, 0x10857_01089e, 0x108a7_0108af,
  0x108e0_0108f2, 0x108f4_0108f5, 0x108fb_01091b, 0x1091f_010939, 0x1093f_010959, 0x10980_0109b7, 0x109bc_0109cf,
  0x109d2_010a03, 0x10a05_010a06, 0x10a0c_010a13, 0x10a15_010a17, 0x10a19_010a35, 0x10a38_010a3a, 0x10a3f_010a48,
  0x10a50_010a58, 0x10a60_010a9f, 0x10ac0_010ae6, 0x10aeb_010af6, 0x10b00_010b35, 0x10b39_010b55, 0x10b58_010b72,
  0x10b78_010b91, 0x10b99_010b9c, 0x10ba9_010baf, 0x10c00_010c48, 0x10c80_010cb2, 0x10cc0_010cf2, 0x10cfa_010d27,
  0x10d30_010d39, 0x10d40_010d65, 0x10d69_010d85, 0x10d8e_010d8f, 0x10e60_010e7e, 0x10e80_010ea9, 0x10eab_010ead,
  0x10eb0_010eb1, 0x10ec2_010ec7, 0x10ed0_010ed8, 0x10efa_010f27, 0x10f30_010f59, 0x10f70_010f89, 0x10fb0_010fcb,
  0x10fe0_010ff6, 0x11000_01104d, 0x11052_011075, 0x1107f_0110bc, 0x110be_0110c2, 0x110d0_0110e8, 0x110f0_0110f9,
  0x11100_011134, 0x11136_011147, 0x11150_011176, 0x11180_0111df, 0x111e1_0111f4, 0x11200_011211, 0x11213_011241,
  0x11280_011286, 0x11288_011288, 0x1128a_01128d, 0x1128f_01129d, 0x1129f_0112a9, 0x112b0_0112ea, 0x112f0_0112f9,
  0x11300_011303, 0x11305_01130c, 0x1130f_011310, 0x11313_011328, 0x1132a_011330, 0x11332_011333, 0x11335_011339,
  0x1133b_011344, 0x11347_011348, 0x1134b_01134d, 0x11350_011350, 0x11357_011357, 0x1135d_011363, 0x11366_01136c,
  0x11370_011374, 0x11380_011389, 0x1138b_01138b, 0x1138e_01138e, 0x11390_0113b5, 0x113b7_0113c0, 0x113c2_0113c2,
  0x113c5_0113c5, 0x113c7_0113ca, 0x113cc_0113d5, 0x113d7_0113d8, 0x113e1_0113e2, 0x11400_01145b, 0x1145d_011461,
  0x11480_0114c7, 0x114d0_0114d9, 0x11580_0115b5, 0x115b8_0115dd, 0x11600_011644, 0x11650_011659, 0x11660_01166c,
  0x11680_0116b9, 0x116c0_0116c9, 0x116d0_0116e3, 0x11700_01171a, 0x1171d_01172b, 0x11730_011746, 0x11800_01183b,
  0x118a0_0118f2, 0x118ff_011906, 0x11909_011909, 0x1190c_011913, 0x11915_011916, 0x11918_011935, 0x11937_011938,
  0x1193b_011946, 0x11950_011959, 0x119a0_0119a7, 0x119aa_0119d7, 0x119da_0119e4, 0x11a00_011a47, 0x11a50_011aa2,
  0x11ab0_011af8, 0x11b00_011b09, 0x11b60_011b67, 0x11bc0_011be1, 0x11bf0_011bf9, 0x11c00_011c08, 0x11c0a_011c36,
  0x11c38_011c45, 0x11c50_011c6c, 0x11c70_011c8f, 0x11c92_011ca7, 0x11ca9_011cb6, 0x11d00_011d06, 0x11d08_011d09,
  0x11d0b_011d36, 0x11d3a_011d3a, 0x11d3c_011d3d, 0x11d3f_011d47, 0x11d50_011d59, 0x11d60_011d65, 0x11d67_011d68,
  0x11d6a_011d8e, 0x11d90_011d91, 0x11d93_011d98, 0x11da0_011da9, 0x11db0_011ddb, 0x11de0_011de9, 0x11ee0_011ef8,
  0x11f00_011f10, 0x11f12_011f3a, 0x11f3e_011f5a, 0x11fb0_011fb0, 0x11fc0_011ff1, 0x11fff_012399, 0x12400_01246e,
  0x12470_012474, 0x12480_012543, 0x12f90_012ff2, 0x13000_01342f, 0x13440_013455, 0x13460_0143fa, 0x14400_014646,
  0x16100_016139, 0x16800_016a38, 0x16a40_016a5e, 0x16a60_016a69, 0x16a6e_016abe, 0x16ac0_016ac9, 0x16ad0_016aed,
  0x16af0_016af5, 0x16b00_016b45, 0x16b50_016b59, 0x16b5b_016b61, 0x16b63_016b77, 0x16b7d_016b8f, 0x16d40_016d79,
  0x16e40_016e9a, 0x16ea0_016eb8, 0x16ebb_016ed3, 0x16f00_016f4a, 0x16f4f_016f87, 0x16f8f_016f9f, 0x16fe0_016fe4,
  0x16ff0_016ff6, 0x17000_018cd5, 0x18cff_018d1e, 0x18d80_018df2, 0x1aff0_01aff3, 0x1aff5_01affb, 0x1affd_01affe,
  0x1b000_01b122, 0x1b132_01b132, 0x1b150_01b152, 0x1b155_01b155, 0x1b164_01b167, 0x1b170_01b2fb, 0x1bc00_01bc6a,
  0x1bc70_01bc7c, 0x1bc80_01bc88, 0x1bc90_01bc99, 0x1bc9c_01bc9f, 0x1cc00_01ccfc, 0x1cd00_01ceb3, 0x1ceba_01ced0,
  0x1cee0_01cef0, 0x1cf00_01cf2d, 0x1cf30_01cf46, 0x1cf50_01cfc3, 0x1d000_01d0f5, 0x1d100_01d126, 0x1d129_01d172,
  0x1d17b_01d1ea, 0x1d200_01d245, 0x1d2c0_01d2d3, 0x1d2e0_01d2f3, 0x1d300_01d356, 0x1d360_01d378, 0x1d400_01d454,
  0x1d456_01d49c, 0x1d49e_01d49f, 0x1d4a2_01d4a2, 0x1d4a5_01d4a6, 0x1d4a9_01d4ac, 0x1d4ae_01d4b9, 0x1d4bb_01d4bb,
  0x1d4bd_01d4c3, 0x1d4c5_01d505, 0x1d507_01d50a, 0x1d50d_01d514, 0x1d516_01d51c, 0x1d51e_01d539, 0x1d53b_01d53e,
  0x1d540_01d544, 0x1d546_01d546, 0x1d54a_01d550, 0x1d552_01d6a5, 0x1d6a8_01d7cb, 0x1d7ce_01da8b, 0x1da9b_01da9f,
  0x1daa1_01daaf, 0x1df00_01df1e, 0x1df25_01df2a, 0x1e000_01e006, 0x1e008_01e018, 0x1e01b_01e021, 0x1e023_01e024,
  0x1e026_01e02a, 0x1e030_01e06d, 0x1e08f_01e08f, 0x1e100_01e12c, 0x1e130_01e13d, 0x1e140_01e149, 0x1e14e_01e14f,
  0x1e290_01e2ae, 0x1e2c0_01e2f9, 0x1e2ff_01e2ff, 0x1e4d0_01e4f9, 0x1e5d0_01e5fa, 0x1e5ff_01e5ff, 0x1e6c0_01e6de,
  0x1e6e0_01e6f5, 0x1e6fe_01e6ff, 0x1e7e0_01e7e6, 0x1e7e8_01e7eb, 0x1e7ed_01e7ee, 0x1e7f0_01e7fe, 0x1e800_01e8c4,
  0x1e8c7_01e8d6, 0x1e900_01e94b, 0x1e950_01e959, 0x1e95e_01e95f, 0x1ec71_01ecb4, 0x1ed01_01ed3d, 0x1ee00_01ee03,
  0x1ee05_01ee1f, 0x1ee21_01ee22, 0x1ee24_01ee24, 0x1ee27_01ee27, 0x1ee29_01ee32, 0x1ee34_01ee37, 0x1ee39_01ee39,
  0x1ee3b_01ee3b, 0x1ee42_01ee42, 0x1ee47_01ee47, 0x1ee49_01ee49, 0x1ee4b_01ee4b, 0x1ee4d_01ee4f, 0x1ee51_01ee52,
  0x1ee54_01ee54, 0x1ee57_01ee57, 0x1ee59_01ee59, 0x1ee5b_01ee5b, 0x1ee5d_01ee5d, 0x1ee5f_01ee5f, 0x1ee61_01ee62,
  0x1ee64_01ee64, 0x1ee67_01ee6a, 0x1ee6c_01ee72, 0x1ee74_01ee77, 0x1ee79_01ee7c, 0x1ee7e_01ee7e, 0x1ee80_01ee89,
  0x1ee8b_01ee9b, 0x1eea1_01eea3, 0x1eea5_01eea9, 0x1eeab_01eebb, 0x1eef0_01eef1, 0x1f000_01f02b, 0x1f030_01f093,
  0x1f0a0_01f0ae, 0x1f0b1_01f0bf, 0x1f0c1_01f0cf, 0x1f0d1_01f0f5, 0x1f100_01f1ad, 0x1f1e6_01f202, 0x1f210_01f23b,
  0x1f240_01f248, 0x1f250_01f251, 0x1f260_01f265, 0x1f300_01f6d8, 0x1f6dc_01f6ec, 0x1f6f0_01f6fc, 0x1f700_01f7d9,
  0x1f7e0_01f7eb, 0x1f7f0_01f7f0, 0x1f800_01f80b, 0x1f810_01f847, 0x1f850_01f859, 0x1f860_01f887, 0x1f890_01f8ad,
  0x1f8b0_01f8bb, 0x1f8c0_01f8c1, 0x1f8d0_01f8d8, 0x1f900_01fa57, 0x1fa60_01fa6d, 0x1fa70_01fa7c, 0x1fa80_01fa8a,
  0x1fa8e_01fac6, 0x1fac8_01fac8, 0x1facd_01fadc, 0x1fadf_01faea, 0x1faef_01faf8, 0x1fb00_01fb92, 0x1fb94_01fbfa,
  0x20000_02a6df, 0x2a700_02b81d, 0x2b820_02cead, 0x2ceb0_02ebe0, 0x2ebf0_02ee5d, 0x2f800_02fa1d, 0x30000_03134a,
  0x31350_033479, 0xe0100_0e01ef]

set_option maxRecDepth 100000 in
/-- Characters that attach to the one before them. -/
def graphemeExtendTable : CodeTable := .ofRows [
  0x300_00036f, 0x483_000489, 0x591_0005bd, 0x5bf_0005bf, 0x5c1_0005c2, 0x5c4_0005c5, 0x5c7_0005c7, 0x610_00061a,
  0x64b_00065f, 0x670_000670, 0x6d6_0006dc, 0x6df_0006e4, 0x6e7_0006e8, 0x6ea_0006ed, 0x711_000711, 0x730_00074a,
  0x7a6_0007b0, 0x7eb_0007f3, 0x7fd_0007fd, 0x816_000819, 0x81b_000823, 0x825_000827, 0x829_00082d, 0x859_00085b,
  0x897_00089f, 0x8ca_0008e1, 0x8e3_000902, 0x93a_00093a, 0x93c_00093c, 0x941_000948, 0x94d_00094d, 0x951_000957,
  0x962_000963, 0x981_000981, 0x9bc_0009bc, 0x9be_0009be, 0x9c1_0009c4, 0x9cd_0009cd, 0x9d7_0009d7, 0x9e2_0009e3,
  0x9fe_0009fe, 0xa01_000a02, 0xa3c_000a3c, 0xa41_000a42, 0xa47_000a48, 0xa4b_000a4d, 0xa51_000a51, 0xa70_000a71,
  0xa75_000a75, 0xa81_000a82, 0xabc_000abc, 0xac1_000ac5, 0xac7_000ac8, 0xacd_000acd, 0xae2_000ae3, 0xafa_000aff,
  0xb01_000b01, 0xb3c_000b3c, 0xb3e_000b3f, 0xb41_000b44, 0xb4d_000b4d, 0xb55_000b57, 0xb62_000b63, 0xb82_000b82,
  0xbbe_000bbe, 0xbc0_000bc0, 0xbcd_000bcd, 0xbd7_000bd7, 0xc00_000c00, 0xc04_000c04, 0xc3c_000c3c, 0xc3e_000c40,
  0xc46_000c48, 0xc4a_000c4d, 0xc55_000c56, 0xc62_000c63, 0xc81_000c81, 0xcbc_000cbc, 0xcbf_000cc0, 0xcc2_000cc2,
  0xcc6_000cc8, 0xcca_000ccd, 0xcd5_000cd6, 0xce2_000ce3, 0xd00_000d01, 0xd3b_000d3c, 0xd3e_000d3e, 0xd41_000d44,
  0xd4d_000d4d, 0xd57_000d57, 0xd62_000d63, 0xd81_000d81, 0xdca_000dca, 0xdcf_000dcf, 0xdd2_000dd4, 0xdd6_000dd6,
  0xddf_000ddf, 0xe31_000e31, 0xe34_000e3a, 0xe47_000e4e, 0xeb1_000eb1, 0xeb4_000ebc, 0xec8_000ece, 0xf18_000f19,
  0xf35_000f35, 0xf37_000f37, 0xf39_000f39, 0xf71_000f7e, 0xf80_000f84, 0xf86_000f87, 0xf8d_000f97, 0xf99_000fbc,
  0xfc6_000fc6, 0x102d_001030, 0x1032_001037, 0x1039_00103a, 0x103d_00103e, 0x1058_001059, 0x105e_001060,
  0x1071_001074, 0x1082_001082, 0x1085_001086, 0x108d_00108d, 0x109d_00109d, 0x135d_00135f, 0x1712_001715,
  0x1732_001734, 0x1752_001753, 0x1772_001773, 0x17b4_0017b5, 0x17b7_0017bd, 0x17c6_0017c6, 0x17c9_0017d3,
  0x17dd_0017dd, 0x180b_00180d, 0x180f_00180f, 0x1885_001886, 0x18a9_0018a9, 0x1920_001922, 0x1927_001928,
  0x1932_001932, 0x1939_00193b, 0x1a17_001a18, 0x1a1b_001a1b, 0x1a56_001a56, 0x1a58_001a5e, 0x1a60_001a60,
  0x1a62_001a62, 0x1a65_001a6c, 0x1a73_001a7c, 0x1a7f_001a7f, 0x1ab0_001add, 0x1ae0_001aeb, 0x1b00_001b03,
  0x1b34_001b3d, 0x1b42_001b44, 0x1b6b_001b73, 0x1b80_001b81, 0x1ba2_001ba5, 0x1ba8_001bad, 0x1be6_001be6,
  0x1be8_001be9, 0x1bed_001bed, 0x1bef_001bf3, 0x1c2c_001c33, 0x1c36_001c37, 0x1cd0_001cd2, 0x1cd4_001ce0,
  0x1ce2_001ce8, 0x1ced_001ced, 0x1cf4_001cf4, 0x1cf8_001cf9, 0x1dc0_001dff, 0x200c_00200c, 0x20d0_0020f0,
  0x2cef_002cf1, 0x2d7f_002d7f, 0x2de0_002dff, 0x302a_00302f, 0x3099_00309a, 0xa66f_00a672, 0xa674_00a67d,
  0xa69e_00a69f, 0xa6f0_00a6f1, 0xa802_00a802, 0xa806_00a806, 0xa80b_00a80b, 0xa825_00a826, 0xa82c_00a82c,
  0xa8c4_00a8c5, 0xa8e0_00a8f1, 0xa8ff_00a8ff, 0xa926_00a92d, 0xa947_00a951, 0xa953_00a953, 0xa980_00a982,
  0xa9b3_00a9b3, 0xa9b6_00a9b9, 0xa9bc_00a9bd, 0xa9c0_00a9c0, 0xa9e5_00a9e5, 0xaa29_00aa2e, 0xaa31_00aa32,
  0xaa35_00aa36, 0xaa43_00aa43, 0xaa4c_00aa4c, 0xaa7c_00aa7c, 0xaab0_00aab0, 0xaab2_00aab4, 0xaab7_00aab8,
  0xaabe_00aabf, 0xaac1_00aac1, 0xaaec_00aaed, 0xaaf6_00aaf6, 0xabe5_00abe5, 0xabe8_00abe8, 0xabed_00abed,
  0xfb1e_00fb1e, 0xfe00_00fe0f, 0xfe20_00fe2f, 0x101fd_0101fd, 0x102e0_0102e0, 0x10376_01037a, 0x10a01_010a03,
  0x10a05_010a06, 0x10a0c_010a0f, 0x10a38_010a3a, 0x10a3f_010a3f, 0x10ae5_010ae6, 0x10d24_010d27, 0x10d69_010d6d,
  0x10eab_010eac, 0x10efa_010eff, 0x10f46_010f50, 0x10f82_010f85, 0x11001_011001, 0x11038_011046, 0x11070_011070,
  0x11073_011074, 0x1107f_011081, 0x110b3_0110b6, 0x110b9_0110ba, 0x110c2_0110c2, 0x11100_011102, 0x11127_01112b,
  0x1112d_011134, 0x11173_011173, 0x11180_011181, 0x111b6_0111be, 0x111c0_0111c0, 0x111c9_0111cc, 0x111cf_0111cf,
  0x1122f_011231, 0x11234_011237, 0x1123e_01123e, 0x11241_011241, 0x112df_0112df, 0x112e3_0112ea, 0x11300_011301,
  0x1133b_01133c, 0x1133e_01133e, 0x11340_011340, 0x1134d_01134d, 0x11357_011357, 0x11366_01136c, 0x11370_011374,
  0x113b8_0113b8, 0x113bb_0113c0, 0x113c2_0113c2, 0x113c5_0113c5, 0x113c7_0113c9, 0x113ce_0113d0, 0x113d2_0113d2,
  0x113e1_0113e2, 0x11438_01143f, 0x11442_011444, 0x11446_011446, 0x1145e_01145e, 0x114b0_0114b0, 0x114b3_0114b8,
  0x114ba_0114ba, 0x114bd_0114bd, 0x114bf_0114c0, 0x114c2_0114c3, 0x115af_0115af, 0x115b2_0115b5, 0x115bc_0115bd,
  0x115bf_0115c0, 0x115dc_0115dd, 0x11633_01163a, 0x1163d_01163d, 0x1163f_011640, 0x116ab_0116ab, 0x116ad_0116ad,
  0x116b0_0116b7, 0x1171d_01171d, 0x1171f_01171f, 0x11722_011725, 0x11727_01172b, 0x1182f_011837, 0x11839_01183a,
  0x11930_011930, 0x1193b_01193e, 0x11943_011943, 0x119d4_0119d7, 0x119da_0119db, 0x119e0_0119e0, 0x11a01_011a0a,
  0x11a33_011a38, 0x11a3b_011a3e, 0x11a47_011a47, 0x11a51_011a56, 0x11a59_011a5b, 0x11a8a_011a96, 0x11a98_011a99,
  0x11b60_011b60, 0x11b62_011b64, 0x11b66_011b66, 0x11c30_011c36, 0x11c38_011c3d, 0x11c3f_011c3f, 0x11c92_011ca7,
  0x11caa_011cb0, 0x11cb2_011cb3, 0x11cb5_011cb6, 0x11d31_011d36, 0x11d3a_011d3a, 0x11d3c_011d3d, 0x11d3f_011d45,
  0x11d47_011d47, 0x11d90_011d91, 0x11d95_011d95, 0x11d97_011d97, 0x11ef3_011ef4, 0x11f00_011f01, 0x11f36_011f3a,
  0x11f40_011f42, 0x11f5a_011f5a, 0x13440_013440, 0x13447_013455, 0x1611e_016129, 0x1612d_01612f, 0x16af0_016af4,
  0x16b30_016b36, 0x16f4f_016f4f, 0x16f8f_016f92, 0x16fe4_016fe4, 0x16ff0_016ff1, 0x1bc9d_01bc9e, 0x1cf00_01cf2d,
  0x1cf30_01cf46, 0x1d165_01d169, 0x1d16d_01d172, 0x1d17b_01d182, 0x1d185_01d18b, 0x1d1aa_01d1ad, 0x1d242_01d244,
  0x1da00_01da36, 0x1da3b_01da6c, 0x1da75_01da75, 0x1da84_01da84, 0x1da9b_01da9f, 0x1daa1_01daaf, 0x1e000_01e006,
  0x1e008_01e018, 0x1e01b_01e021, 0x1e023_01e024, 0x1e026_01e02a, 0x1e08f_01e08f, 0x1e130_01e136, 0x1e2ae_01e2ae,
  0x1e2ec_01e2ef, 0x1e4ec_01e4ef, 0x1e5ee_01e5ef, 0x1e6e3_01e6e3, 0x1e6e6_01e6e6, 0x1e6ee_01e6ef, 0x1e6f5_01e6f5,
  0x1e8d0_01e8d6, 0x1e944_01e94a, 0xe0020_0e007f, 0xe0100_0e01ef]

/-- A character that is shown as itself. -/
def isVisible (c : Char) : Bool :=
  if c.toNat < 0x80 then 0x20 ≤ c.toNat && c.toNat < 0x7f else visibleTable.contains c

/-- A character that attaches to the one before it. -/
def extendsGrapheme (c : Char) : Bool :=
  if c.toNat < 0x300 then false else graphemeExtendTable.contains c

theorem isVisible_of_ascii {c : Char} (low : 0x20 ≤ c.toNat) (high : c.toNat < 0x7f) :
    isVisible c = true := by
  simp [isVisible, low, high, show c.toNat < 0x80 by omega]

theorem extendsGrapheme_of_ascii {c : Char} (h : c.toNat < 0x80) : extendsGrapheme c = false := by
  simp [extendsGrapheme, show c.toNat < 0x300 by omega]

end IdentityClient
