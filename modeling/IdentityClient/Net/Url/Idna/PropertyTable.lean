import IdentityClient.Text.CodeTable

/-!
# Properties that restrict where a character may stand in a name

Marks, the directions of characters (left-to-right is not listed), and how letters of cursive scripts
join.
-/

namespace IdentityClient.Idna

set_option maxRecDepth 100000 in
/-- Characters that combine with the one before them. -/
def markTable : CodeTable := .ofRows [
  0x300_00036f, 0x483_000489, 0x591_0005bd, 0x5bf_0005bf, 0x5c1_0005c2, 0x5c4_0005c5, 0x5c7_0005c9, 0x610_00061a,
  0x64b_00065f, 0x670_000670, 0x6d6_0006dc, 0x6df_0006e4, 0x6e7_0006e8, 0x6ea_0006ed, 0x711_000711, 0x730_00074a,
  0x7a6_0007b0, 0x7eb_0007f3, 0x7fd_0007fd, 0x816_000819, 0x81b_000823, 0x825_000827, 0x829_00082d, 0x859_00085b,
  0x897_00089f, 0x8ca_0008e1, 0x8e3_000903, 0x93a_00093c, 0x93e_00094f, 0x951_000957, 0x962_000963, 0x981_000983,
  0x9bc_0009bc, 0x9be_0009c4, 0x9c7_0009c8, 0x9cb_0009cd, 0x9d7_0009d7, 0x9e2_0009e3, 0x9fe_0009fe, 0xa01_000a03,
  0xa3c_000a3c, 0xa3e_000a42, 0xa47_000a48, 0xa4b_000a4d, 0xa51_000a51, 0xa70_000a71, 0xa75_000a75, 0xa81_000a83,
  0xabc_000abc, 0xabe_000ac5, 0xac7_000ac9, 0xacb_000acd, 0xae2_000ae3, 0xafa_000aff, 0xb01_000b03, 0xb3c_000b3c,
  0xb3e_000b44, 0xb47_000b48, 0xb4b_000b4d, 0xb53_000b57, 0xb62_000b63, 0xb82_000b82, 0xbbe_000bc2, 0xbc6_000bc8,
  0xbca_000bcd, 0xbd7_000bd7, 0xc00_000c04, 0xc3c_000c3c, 0xc3e_000c44, 0xc46_000c48, 0xc4a_000c4d, 0xc55_000c56,
  0xc62_000c63, 0xc81_000c83, 0xcbc_000cbc, 0xcbe_000cc4, 0xcc6_000cc8, 0xcca_000ccd, 0xcd5_000cd6, 0xce2_000ce3,
  0xcf3_000cf3, 0xd00_000d03, 0xd3b_000d3c, 0xd3e_000d44, 0xd46_000d48, 0xd4a_000d4d, 0xd57_000d57, 0xd62_000d63,
  0xd81_000d83, 0xdca_000dca, 0xdcf_000dd4, 0xdd6_000dd6, 0xdd8_000ddf, 0xdf2_000df3, 0xe31_000e31, 0xe34_000e3a,
  0xe47_000e4e, 0xeb1_000eb1, 0xeb4_000ebc, 0xec8_000ece, 0xf18_000f19, 0xf35_000f35, 0xf37_000f37, 0xf39_000f39,
  0xf3e_000f3f, 0xf71_000f84, 0xf86_000f87, 0xf8d_000f97, 0xf99_000fbc, 0xfc6_000fc6, 0x102b_00103e, 0x1056_001059,
  0x105e_001060, 0x1062_001064, 0x1067_00106d, 0x1071_001074, 0x1082_00108d, 0x108f_00108f, 0x109a_00109d,
  0x135d_00135f, 0x1712_001715, 0x1732_001734, 0x1752_001753, 0x1772_001773, 0x17b4_0017d3, 0x17dd_0017dd,
  0x180b_00180d, 0x180f_00180f, 0x1885_001886, 0x18a9_0018a9, 0x1920_00192b, 0x1930_00193b, 0x1a17_001a1b,
  0x1a55_001a5e, 0x1a60_001a7c, 0x1a7f_001a7f, 0x1ab0_001aec, 0x1b00_001b04, 0x1b34_001b44, 0x1b6b_001b73,
  0x1b80_001b82, 0x1ba1_001bad, 0x1be6_001bf3, 0x1c24_001c37, 0x1cd0_001cd2, 0x1cd4_001ce8, 0x1ced_001ced,
  0x1cf4_001cf4, 0x1cf7_001cf9, 0x1dc0_001dff, 0x20d0_0020f0, 0x2cef_002cf1, 0x2d7f_002d7f, 0x2de0_002dff,
  0x302a_00302f, 0x3099_00309a, 0xa66f_00a672, 0xa674_00a67d, 0xa69e_00a69f, 0xa6f0_00a6f1, 0xa802_00a802,
  0xa806_00a806, 0xa80b_00a80b, 0xa823_00a827, 0xa82c_00a82c, 0xa880_00a881, 0xa8b4_00a8c5, 0xa8e0_00a8f1,
  0xa8ff_00a8ff, 0xa926_00a92d, 0xa947_00a953, 0xa980_00a983, 0xa9b3_00a9c0, 0xa9e5_00a9e5, 0xaa29_00aa36,
  0xaa43_00aa43, 0xaa4c_00aa4d, 0xaa7b_00aa7d, 0xaab0_00aab0, 0xaab2_00aab4, 0xaab7_00aab8, 0xaabe_00aabf,
  0xaac1_00aac1, 0xaaeb_00aaef, 0xaaf5_00aaf6, 0xabe3_00abea, 0xabec_00abed, 0xfb1e_00fb1e, 0xfe00_00fe0f,
  0xfe20_00fe2f, 0x101fd_0101fd, 0x102e0_0102e0, 0x10376_01037a, 0x10a01_010a03, 0x10a05_010a06, 0x10a0c_010a0f,
  0x10a38_010a3a, 0x10a3f_010a3f, 0x10ae5_010ae6, 0x10d24_010d27, 0x10d69_010d6d, 0x10eab_010eac, 0x10efa_010eff,
  0x10f46_010f50, 0x10f82_010f85, 0x11000_011002, 0x11038_011046, 0x11070_011070, 0x11073_011074, 0x1107f_011082,
  0x110b0_0110ba, 0x110c2_0110c2, 0x11100_011102, 0x11127_011134, 0x11145_011146, 0x11173_011173, 0x11180_011182,
  0x111b3_0111c0, 0x111c9_0111cc, 0x111ce_0111cf, 0x1122c_011237, 0x1123e_01123e, 0x11241_011241, 0x112df_0112ea,
  0x11300_011303, 0x1133b_01133c, 0x1133e_011344, 0x11347_011348, 0x1134b_01134d, 0x11357_011357, 0x11362_011363,
  0x11366_01136c, 0x11370_011374, 0x113b8_0113c0, 0x113c2_0113c2, 0x113c5_0113c5, 0x113c7_0113ca, 0x113cc_0113d0,
  0x113d2_0113d2, 0x113e1_0113e2, 0x11435_011446, 0x1145e_01145e, 0x114b0_0114c3, 0x115af_0115b5, 0x115b8_0115c0,
  0x115dc_0115dd, 0x11630_011640, 0x116ab_0116b7, 0x1171d_01172b, 0x1182c_01183a, 0x11930_011935, 0x11937_011938,
  0x1193b_01193e, 0x11940_011940, 0x11942_011943, 0x119d1_0119d7, 0x119da_0119e0, 0x119e4_0119e4, 0x11a01_011a0a,
  0x11a33_011a39, 0x11a3b_011a3e, 0x11a47_011a47, 0x11a51_011a5b, 0x11a8a_011a99, 0x11b60_011b67, 0x11c2f_011c36,
  0x11c38_011c3f, 0x11c92_011ca7, 0x11ca9_011cb6, 0x11d31_011d36, 0x11d3a_011d3a, 0x11d3c_011d3d, 0x11d3f_011d45,
  0x11d47_011d47, 0x11d8a_011d8e, 0x11d90_011d91, 0x11d93_011d97, 0x11ef3_011ef6, 0x11f00_011f01, 0x11f03_011f03,
  0x11f34_011f3a, 0x11f3e_011f42, 0x11f5a_011f5a, 0x13440_013440, 0x13447_013455, 0x1611e_01612f, 0x16af0_016af4,
  0x16b30_016b36, 0x16f4f_016f4f, 0x16f51_016f87, 0x16f8f_016f92, 0x16fe4_016fe4, 0x16ff0_016ff1, 0x1bc9d_01bc9e,
  0x1cf00_01cf2d, 0x1cf30_01cf46, 0x1d165_01d169, 0x1d16d_01d172, 0x1d17b_01d182, 0x1d185_01d18b, 0x1d1aa_01d1ad,
  0x1d242_01d244, 0x1d250_01d250, 0x1da00_01da36, 0x1da3b_01da6c, 0x1da75_01da75, 0x1da84_01da84, 0x1da9b_01da9f,
  0x1daa1_01daaf, 0x1e000_01e006, 0x1e008_01e018, 0x1e01b_01e021, 0x1e023_01e024, 0x1e026_01e02a, 0x1e08f_01e08f,
  0x1e130_01e136, 0x1e2ae_01e2ae, 0x1e2ec_01e2ef, 0x1e4ec_01e4ef, 0x1e5ee_01e5ef, 0x1e6e3_01e6e3, 0x1e6e6_01e6e6,
  0x1e6ee_01e6ef, 0x1e6f5_01e6f5, 0x1e8d0_01e8d6, 0x1e944_01e94a, 0xe0100_0e01ef]

set_option maxRecDepth 100000 in
/-- Directions: 1 right-to-left, 2 Arabic letter, 3 Arabic number, 4 European number, 5 European separator,
6 common separator, 7 European terminator, 8 other neutral, 9 boundary neutral, a nonspacing mark,
b anything else. -/
def directionTable : CodeTable := .ofRows [
  0xa1_0000a1_000008, 0xa2_0000a5_000007, 0xa6_0000a7_000008, 0xa9_0000a9_000008, 0xab_0000ac_000008,
  0xae_0000ae_000008, 0xb0_0000b1_000007, 0xb6_0000b7_000008, 0xbb_0000bb_000008, 0xbf_0000bf_000008,
  0xd7_0000d7_000008, 0xf7_0000f7_000008, 0x2b9_0002ba_000008, 0x2c2_0002cf_000008, 0x2d2_0002d7_000008,
  0x2de_0002df_000008, 0x2e5_0002ed_000008, 0x2ef_0002ff_000008, 0x300_00033f_00000a, 0x342_000342_00000a,
  0x346_00034e_00000a, 0x350_00036f_00000a, 0x375_000375_000008, 0x3f6_0003f6_000008, 0x483_000489_00000a,
  0x58a_00058a_000008, 0x58d_00058e_000008, 0x58f_00058f_000007, 0x591_0005bd_00000a, 0x5be_0005be_000001,
  0x5bf_0005bf_00000a, 0x5c0_0005c0_000001, 0x5c1_0005c2_00000a, 0x5c3_0005c3_000001, 0x5c4_0005c5_00000a,
  0x5c6_0005c6_000001, 0x5c7_0005c9_00000a, 0x5d0_0005ea_000001, 0x5ef_0005f4_000001, 0x606_000607_000008,
  0x608_000608_000002, 0x609_00060a_000007, 0x60b_00060b_000002, 0x60c_00060c_000006, 0x60d_00060d_000002,
  0x60e_00060f_000008, 0x610_00061a_00000a, 0x61b_00061b_000002, 0x61d_00064a_000002, 0x64b_00065f_00000a,
  0x660_000669_000003, 0x66a_00066a_000007, 0x66b_00066c_000003, 0x66d_00066f_000002, 0x670_000670_00000a,
  0x671_000674_000002, 0x679_0006d5_000002, 0x6d6_0006dc_00000a, 0x6de_0006de_000008, 0x6df_0006e4_00000a,
  0x6e5_0006e6_000002, 0x6e7_0006e8_00000a, 0x6e9_0006e9_000008, 0x6ea_0006ed_00000a, 0x6ee_0006ef_000002,
  0x6f0_0006f9_000004, 0x6fa_00070d_000002, 0x710_000710_000002, 0x711_000711_00000a, 0x712_00072f_000002,
  0x730_00074a_00000a, 0x74d_0007a5_000002, 0x7a6_0007b0_00000a, 0x7b1_0007b1_000002, 0x7c0_0007ea_000001,
  0x7eb_0007f3_00000a, 0x7f4_0007f5_000001, 0x7f6_0007f9_000008, 0x7fa_0007fa_000001, 0x7fd_0007fd_00000a,
  0x7fe_000815_000001, 0x816_000819_00000a, 0x81a_00081a_000001, 0x81b_000823_00000a, 0x824_000824_000001,
  0x825_000827_00000a, 0x828_000828_000001, 0x829_00082d_00000a, 0x830_00083e_000001, 0x840_000858_000001,
  0x859_00085b_00000a, 0x85e_00085e_000001, 0x860_00086a_000002, 0x870_00088f_000002, 0x897_00089f_00000a,
  0x8a0_0008c9_000002, 0x8ca_0008e1_00000a, 0x8e3_000902_00000a, 0x93a_00093a_00000a, 0x93c_00093c_00000a,
  0x941_000948_00000a, 0x94d_00094d_00000a, 0x951_000957_00000a, 0x962_000963_00000a, 0x981_000981_00000a,
  0x9bc_0009bc_00000a, 0x9c1_0009c4_00000a, 0x9cd_0009cd_00000a, 0x9e2_0009e3_00000a, 0x9f2_0009f3_000007,
  0x9fb_0009fb_000007, 0x9fe_0009fe_00000a, 0xa01_000a02_00000a, 0xa3c_000a3c_00000a, 0xa41_000a42_00000a,
  0xa47_000a48_00000a, 0xa4b_000a4d_00000a, 0xa51_000a51_00000a, 0xa70_000a71_00000a, 0xa75_000a75_00000a,
  0xa81_000a82_00000a, 0xabc_000abc_00000a, 0xac1_000ac5_00000a, 0xac7_000ac8_00000a, 0xacd_000acd_00000a,
  0xae2_000ae3_00000a, 0xaf1_000af1_000007, 0xafa_000aff_00000a, 0xb01_000b01_00000a, 0xb3c_000b3c_00000a,
  0xb3f_000b3f_00000a, 0xb41_000b44_00000a, 0xb4d_000b4d_00000a, 0xb53_000b56_00000a, 0xb62_000b63_00000a,
  0xb82_000b82_00000a, 0xbc0_000bc0_00000a, 0xbcd_000bcd_00000a, 0xbf3_000bf8_000008, 0xbf9_000bf9_000007,
  0xbfa_000bfa_000008, 0xc00_000c00_00000a, 0xc04_000c04_00000a, 0xc3c_000c3c_00000a, 0xc3e_000c40_00000a,
  0xc46_000c48_00000a, 0xc4a_000c4d_00000a, 0xc55_000c56_00000a, 0xc62_000c63_00000a, 0xc78_000c7e_000008,
  0xc81_000c81_00000a, 0xcbc_000cbc_00000a, 0xccc_000ccd_00000a, 0xce2_000ce3_00000a, 0xd00_000d01_00000a,
  0xd3b_000d3c_00000a, 0xd41_000d44_00000a, 0xd4d_000d4d_00000a, 0xd62_000d63_00000a, 0xd81_000d81_00000a,
  0xdca_000dca_00000a, 0xdd2_000dd4_00000a, 0xdd6_000dd6_00000a, 0xe31_000e31_00000a, 0xe34_000e3a_00000a,
  0xe3f_000e3f_000007, 0xe47_000e4e_00000a, 0xeb1_000eb1_00000a, 0xeb4_000ebc_00000a, 0xec8_000ece_00000a,
  0xf18_000f19_00000a, 0xf35_000f35_00000a, 0xf37_000f37_00000a, 0xf39_000f39_00000a, 0xf3a_000f3d_000008,
  0xf71_000f72_00000a, 0xf74_000f74_00000a, 0xf7a_000f7e_00000a, 0xf80_000f80_00000a, 0xf82_000f84_00000a,
  0xf86_000f87_00000a, 0xf8d_000f92_00000a, 0xf94_000f97_00000a, 0xf99_000f9c_00000a, 0xf9e_000fa1_00000a,
  0xfa3_000fa6_00000a, 0xfa8_000fab_00000a, 0xfad_000fb8_00000a, 0xfba_000fbc_00000a, 0xfc6_000fc6_00000a,
  0x102d_001030_00000a, 0x1032_001037_00000a, 0x1039_00103a_00000a, 0x103d_00103e_00000a, 0x1058_001059_00000a,
  0x105e_001060_00000a, 0x1071_001074_00000a, 0x1082_001082_00000a, 0x1085_001086_00000a, 0x108d_00108d_00000a,
  0x109d_00109d_00000a, 0x135d_00135f_00000a, 0x1390_001399_000008, 0x1400_001400_000008, 0x169b_00169c_000008,
  0x1712_001714_00000a, 0x1732_001733_00000a, 0x1752_001753_00000a, 0x1772_001773_00000a, 0x17b7_0017bd_00000a,
  0x17c6_0017c6_00000a, 0x17c9_0017d3_00000a, 0x17db_0017db_000007, 0x17dd_0017dd_00000a, 0x17f0_0017f9_000008,
  0x1800_00180a_000008, 0x1885_001886_00000a, 0x18a9_0018a9_00000a, 0x1920_001922_00000a, 0x1927_001928_00000a,
  0x1932_001932_00000a, 0x1939_00193b_00000a, 0x1940_001940_000008, 0x1944_001945_000008, 0x19de_0019ff_000008,
  0x1a17_001a18_00000a, 0x1a1b_001a1b_00000a, 0x1a56_001a56_00000a, 0x1a58_001a5e_00000a, 0x1a60_001a60_00000a,
  0x1a62_001a62_00000a, 0x1a65_001a6c_00000a, 0x1a73_001a7c_00000a, 0x1a7f_001a7f_00000a, 0x1ab0_001aec_00000a,
  0x1b00_001b03_00000a, 0x1b34_001b34_00000a, 0x1b36_001b39_00000a, 0x1b6b_001b73_00000a, 0x1b80_001b81_00000a,
  0x1ba2_001ba5_00000a, 0x1ba8_001ba9_00000a, 0x1bab_001bad_00000a, 0x1be6_001be6_00000a, 0x1be8_001be9_00000a,
  0x1bed_001bed_00000a, 0x1bef_001bf1_00000a, 0x1c2c_001c33_00000a, 0x1c36_001c37_00000a, 0x1cd0_001cd2_00000a,
  0x1cd4_001ce0_00000a, 0x1ce2_001ce8_00000a, 0x1ced_001ced_00000a, 0x1cf4_001cf4_00000a, 0x1cf8_001cf9_00000a,
  0x1dc0_001dff_00000a, 0x200c_00200d_000009, 0x2010_002010_000008, 0x2012_002016_000008, 0x2018_002023_000008,
  0x2027_002027_000008, 0x2030_002032_000007, 0x2035_002035_000008, 0x2038_00203b_000008, 0x203d_00203d_000008,
  0x203f_002043_000008, 0x2044_002044_000006, 0x2045_002046_000008, 0x204a_002056_000008, 0x2058_00205e_000008,
  0x208f_00208f_000008, 0x20a0_0020a7_000007, 0x20a9_0020c4_000007, 0x20d0_0020f0_00000a, 0x2104_002104_000008,
  0x2108_002108_000008, 0x2114_002114_000008, 0x2117_002118_000008, 0x211e_00211f_000008, 0x2123_002123_000008,
  0x2125_002125_000008, 0x2127_002127_000008, 0x2129_002129_000008, 0x212e_00212e_000007, 0x213a_00213a_000008,
  0x2141_002144_000008, 0x214a_00214d_000008, 0x218a_00218b_000008, 0x2190_002211_000008, 0x2212_002212_000005,
  0x2213_002213_000007, 0x2214_00222b_000008, 0x222e_00222e_000008, 0x2231_002328_000008, 0x232b_002335_000008,
  0x237b_002394_000008, 0x2396_002429_000008, 0x2440_00244a_000008, 0x24eb_0026ab_000008, 0x26ad_0027ff_000008,
  0x2900_002a0b_000008, 0x2a0d_002a73_000008, 0x2a77_002adb_000008, 0x2add_002b73_000008, 0x2b76_002bff_000008,
  0x2ce5_002cea_000008, 0x2cef_002cf1_00000a, 0x2cf9_002cff_000008, 0x2d7f_002d7f_00000a, 0x2de0_002dff_00000a,
  0x2e00_002e60_000008, 0x2e62_002e63_000008, 0x2e80_002e99_000008, 0x2e9b_002e9e_000008, 0x2ea0_002ef2_000008,
  0x3001_003001_000008, 0x3003_003004_000008, 0x3008_003020_000008, 0x302a_00302d_00000a, 0x3030_003030_000008,
  0x3037_003037_000008, 0x303d_00303f_000008, 0x3099_00309a_00000a, 0x30a0_0030a0_000008, 0x30fb_0030fb_000008,
  0x31c0_0031e5_000008, 0x4dc0_004dff_000008, 0xa490_00a4c6_000008, 0xa60d_00a60f_000008, 0xa66f_00a672_00000a,
  0xa673_00a673_000008, 0xa674_00a67d_00000a, 0xa67e_00a67f_000008, 0xa69e_00a69f_00000a, 0xa6f0_00a6f1_00000a,
  0xa700_00a721_000008, 0xa788_00a788_000008, 0xa802_00a802_00000a, 0xa806_00a806_00000a, 0xa80b_00a80b_00000a,
  0xa825_00a826_00000a, 0xa828_00a82b_000008, 0xa82c_00a82c_00000a, 0xa838_00a839_000007, 0xa874_00a877_000008,
  0xa8c4_00a8c5_00000a, 0xa8e0_00a8f1_00000a, 0xa8ff_00a8ff_00000a, 0xa926_00a92d_00000a, 0xa947_00a951_00000a,
  0xa980_00a982_00000a, 0xa9b3_00a9b3_00000a, 0xa9b6_00a9b9_00000a, 0xa9bc_00a9bd_00000a, 0xa9e5_00a9e5_00000a,
  0xaa29_00aa2e_00000a, 0xaa31_00aa32_00000a, 0xaa35_00aa36_00000a, 0xaa43_00aa43_00000a, 0xaa4c_00aa4c_00000a,
  0xaa7c_00aa7c_00000a, 0xaab0_00aab0_00000a, 0xaab2_00aab4_00000a, 0xaab7_00aab8_00000a, 0xaabe_00aabf_00000a,
  0xaac1_00aac1_00000a, 0xaaec_00aaed_00000a, 0xaaf6_00aaf6_00000a, 0xab6a_00ab6b_000008, 0xabe5_00abe5_00000a,
  0xabe8_00abe8_00000a, 0xabed_00abed_00000a, 0xfb1e_00fb1e_00000a, 0xfbb2_00fbc2_000002, 0xfbc3_00fbd2_000008,
  0xfd3e_00fd4f_000008, 0xfd90_00fd91_000008, 0xfdc8_00fdcf_000008, 0xfdfd_00fdff_000008, 0xfe20_00fe2f_00000a,
  0xfe45_00fe46_000008, 0xfe73_00fe73_000002, 0x10101_010101_000008, 0x10140_01018c_000008, 0x10190_01019c_000008,
  0x101a0_0101a0_000008, 0x101fd_0101fd_00000a, 0x102e0_0102e0_00000a, 0x102e1_0102fb_000004, 0x10376_01037a_00000a,
  0x10800_010805_000001, 0x10808_010808_000001, 0x1080a_010835_000001, 0x10837_010838_000001, 0x1083c_01083c_000001,
  0x1083f_010855_000001, 0x10857_01089e_000001, 0x108a7_0108af_000001, 0x108e0_0108f2_000001, 0x108f4_0108f5_000001,
  0x108fb_01091b_000001, 0x1091f_01091f_000008, 0x10920_010939_000001, 0x1093f_010959_000001, 0x10980_0109b7_000001,
  0x109bc_0109cf_000001, 0x109d2_010a00_000001, 0x10a01_010a03_00000a, 0x10a05_010a06_00000a, 0x10a0c_010a0f_00000a,
  0x10a10_010a13_000001, 0x10a15_010a17_000001, 0x10a19_010a35_000001, 0x10a38_010a3a_00000a, 0x10a3f_010a3f_00000a,
  0x10a40_010a48_000001, 0x10a50_010a58_000001, 0x10a60_010a9f_000001, 0x10ac0_010ae4_000001, 0x10ae5_010ae6_00000a,
  0x10aeb_010af6_000001, 0x10b00_010b35_000001, 0x10b39_010b3f_000008, 0x10b40_010b55_000001, 0x10b58_010b72_000001,
  0x10b78_010b91_000001, 0x10b99_010b9c_000001, 0x10ba9_010baf_000001, 0x10c00_010c48_000001, 0x10cc0_010cf2_000001,
  0x10cfa_010cff_000001, 0x10d00_010d23_000002, 0x10d24_010d27_00000a, 0x10d30_010d39_000003, 0x10d40_010d49_000003,
  0x10d4a_010d4f_000001, 0x10d69_010d6d_00000a, 0x10d6e_010d6e_000008, 0x10d6f_010d85_000001, 0x10d8e_010d8f_000001,
  0x10e60_010e7e_000003, 0x10e80_010ea9_000001, 0x10eab_010eac_00000a, 0x10ead_010ead_000001, 0x10eb0_010eb1_000001,
  0x10ec2_010ec8_000002, 0x10ec9_010ed8_000008, 0x10ed9_010eea_000002, 0x10efa_010eff_00000a, 0x10f00_010f27_000001,
  0x10f30_010f45_000002, 0x10f46_010f50_00000a, 0x10f51_010f59_000002, 0x10f70_010f81_000001, 0x10f82_010f85_00000a,
  0x10f86_010f89_000001, 0x10fb0_010fcb_000001, 0x10fe0_010ff6_000001, 0x11001_011001_00000a, 0x11038_011046_00000a,
  0x11052_011065_000008, 0x11070_011070_00000a, 0x11073_011074_00000a, 0x1107f_011081_00000a, 0x110b3_0110b6_00000a,
  0x110b9_0110ba_00000a, 0x110c2_0110c2_00000a, 0x11100_011102_00000a, 0x11127_01112b_00000a, 0x1112d_011134_00000a,
  0x11173_011173_00000a, 0x11180_011181_00000a, 0x111b6_0111be_00000a, 0x111c9_0111cc_00000a, 0x111cf_0111cf_00000a,
  0x1122f_011231_00000a, 0x11234_011234_00000a, 0x11236_011237_00000a, 0x1123e_01123e_00000a, 0x11241_011241_00000a,
  0x112df_0112df_00000a, 0x112e3_0112ea_00000a, 0x11300_011301_00000a, 0x1133b_01133c_00000a, 0x11340_011340_00000a,
  0x11366_01136c_00000a, 0x11370_011374_00000a, 0x113bb_0113c0_00000a, 0x113ce_0113ce_00000a, 0x113d0_0113d0_00000a,
  0x113d2_0113d2_00000a, 0x113e1_0113e2_00000a, 0x11438_01143f_00000a, 0x11442_011444_00000a, 0x11446_011446_00000a,
  0x1145e_01145e_00000a, 0x114b3_0114b8_00000a, 0x114ba_0114ba_00000a, 0x114bf_0114c0_00000a, 0x114c2_0114c3_00000a,
  0x115b2_0115b5_00000a, 0x115bc_0115bd_00000a, 0x115bf_0115c0_00000a, 0x115dc_0115dd_00000a, 0x11633_01163a_00000a,
  0x1163d_01163d_00000a, 0x1163f_011640_00000a, 0x11660_01166c_000008, 0x116ab_0116ab_00000a, 0x116ad_0116ad_00000a,
  0x116b0_0116b5_00000a, 0x116b7_0116b7_00000a, 0x1171d_01171d_00000a, 0x1171f_01171f_00000a, 0x11722_011725_00000a,
  0x11727_01172b_00000a, 0x1182f_011837_00000a, 0x11839_01183a_00000a, 0x1193b_01193c_00000a, 0x1193e_01193e_00000a,
  0x11943_011943_00000a, 0x119d4_0119d7_00000a, 0x119da_0119db_00000a, 0x119e0_0119e0_00000a, 0x11a01_011a06_00000a,
  0x11a09_011a0a_00000a, 0x11a33_011a38_00000a, 0x11a3b_011a3e_00000a, 0x11a47_011a47_00000a, 0x11a51_011a56_00000a,
  0x11a59_011a5b_00000a, 0x11a8a_011a96_00000a, 0x11a98_011a99_00000a, 0x11b60_011b60_00000a, 0x11b62_011b64_00000a,
  0x11b66_011b66_00000a, 0x11c30_011c36_00000a, 0x11c38_011c3d_00000a, 0x11c92_011ca7_00000a, 0x11caa_011cb0_00000a,
  0x11cb2_011cb3_00000a, 0x11cb5_011cb6_00000a, 0x11d31_011d36_00000a, 0x11d3a_011d3a_00000a, 0x11d3c_011d3d_00000a,
  0x11d3f_011d45_00000a, 0x11d47_011d47_00000a, 0x11d90_011d91_00000a, 0x11d95_011d95_00000a, 0x11d97_011d97_00000a,
  0x11ef3_011ef4_00000a, 0x11f00_011f01_00000a, 0x11f36_011f3a_00000a, 0x11f40_011f40_00000a, 0x11f42_011f42_00000a,
  0x11f5a_011f5a_00000a, 0x11fd5_011fdc_000008, 0x11fdd_011fe0_000007, 0x11fe1_011ff1_000008, 0x13440_013440_00000a,
  0x13447_013455_00000a, 0x1611e_016129_00000a, 0x1612d_01612f_00000a, 0x16af0_016af4_00000a, 0x16b30_016b36_00000a,
  0x16f4f_016f4f_00000a, 0x16f8f_016f92_00000a, 0x16fe2_016fe2_000008, 0x16fe4_016fe4_00000a, 0x1bc9d_01bc9e_00000a,
  0x1cc00_01ccd5_000008, 0x1ccfa_01ccfc_000008, 0x1cd00_01ceb3_000008, 0x1ceba_01cede_000008, 0x1cee0_01cef0_000008,
  0x1cf00_01cf2d_00000a, 0x1cf30_01cf46_00000a, 0x1d167_01d169_00000a, 0x1d17b_01d182_00000a, 0x1d185_01d18b_00000a,
  0x1d1aa_01d1ad_00000a, 0x1d1e9_01d1f0_000008, 0x1d200_01d241_000008, 0x1d242_01d244_00000a, 0x1d245_01d245_000008,
  0x1d250_01d250_00000a, 0x1d300_01d356_000008, 0x1da00_01da36_00000a, 0x1da3b_01da6c_00000a, 0x1da75_01da75_00000a,
  0x1da84_01da84_00000a, 0x1da9b_01da9f_00000a, 0x1daa1_01daaf_00000a, 0x1db00_01db1c_000008, 0x1e000_01e006_00000a,
  0x1e008_01e018_00000a, 0x1e01b_01e021_00000a, 0x1e023_01e024_00000a, 0x1e026_01e02a_00000a, 0x1e08f_01e08f_00000a,
  0x1e130_01e136_00000a, 0x1e2ae_01e2ae_00000a, 0x1e2ec_01e2ef_00000a, 0x1e2ff_01e2ff_000007, 0x1e4ec_01e4ef_00000a,
  0x1e5ee_01e5ef_00000a, 0x1e6e3_01e6e3_00000a, 0x1e6e6_01e6e6_00000a, 0x1e6ee_01e6ef_00000a, 0x1e6f5_01e6f5_00000a,
  0x1e800_01e8c4_000001, 0x1e8c7_01e8cf_000001, 0x1e8d0_01e8d6_00000a, 0x1e922_01e943_000001, 0x1e944_01e94a_00000a,
  0x1e94b_01e94b_000001, 0x1e950_01e959_000001, 0x1e95e_01e95f_000001, 0x1ec71_01ecb4_000002, 0x1ed01_01ed3d_000002,
  0x1eef0_01eef1_000008, 0x1f000_01f02b_000008, 0x1f030_01f093_000008, 0x1f0a0_01f0ae_000008, 0x1f0b1_01f0bf_000008,
  0x1f0c1_01f0cf_000008, 0x1f0d1_01f0f5_000008, 0x1f10b_01f10f_000008, 0x1f12f_01f12f_000008, 0x1f16d_01f16f_000008,
  0x1f1ad_01f1ae_000008, 0x1f260_01f265_000008, 0x1f300_01f6d9_000008, 0x1f6dc_01f6ec_000008, 0x1f6f0_01f6fc_000008,
  0x1f700_01f7da_000008, 0x1f7e0_01f7eb_000008, 0x1f7f0_01f7f0_000008, 0x1f800_01f80b_000008, 0x1f810_01f847_000008,
  0x1f850_01f859_000008, 0x1f860_01f887_000008, 0x1f890_01f8ad_000008, 0x1f8b0_01f8bb_000008, 0x1f8c0_01f8c1_000008,
  0x1f8d0_01f8d8_000008, 0x1f900_01fa57_000008, 0x1fa60_01fa6d_000008, 0x1fa70_01fa7c_000008, 0x1fa80_01fac6_000008,
  0x1fac8_01fac8_000008, 0x1facc_01fadd_000008, 0x1fadf_01faeb_000008, 0x1faef_01fafa_000008, 0x1fb00_01fb92_000008,
  0x1fb94_01fbef_000008, 0x1fbfa_01fbfa_000008]

set_option maxRecDepth 100000 in
/-- Joining: 0 on both sides, 1 left, 2 right, 3 transparent, 4 causing. -/
def joiningTable : CodeTable := .ofRows [
  0xad_0000ad_000003, 0x300_00036f_000003, 0x483_000489_000003, 0x591_0005bd_000003, 0x5bf_0005bf_000003,
  0x5c1_0005c2_000003, 0x5c4_0005c5_000003, 0x5c7_0005c9_000003, 0x610_00061a_000003, 0x61c_00061c_000003,
  0x620_000620_000000, 0x622_000625_000002, 0x626_000626_000000, 0x627_000627_000002, 0x628_000628_000000,
  0x629_000629_000002, 0x62a_00062e_000000, 0x62f_000632_000002, 0x633_00063f_000000, 0x640_000640_000004,
  0x641_000647_000000, 0x648_000648_000002, 0x649_00064a_000000, 0x64b_00065f_000003, 0x66e_00066f_000000,
  0x670_000670_000003, 0x671_000673_000002, 0x675_000677_000002, 0x678_000687_000000, 0x688_000699_000002,
  0x69a_0006bf_000000, 0x6c0_0006c0_000002, 0x6c1_0006c2_000000, 0x6c3_0006cb_000002, 0x6cc_0006cc_000000,
  0x6cd_0006cd_000002, 0x6ce_0006ce_000000, 0x6cf_0006cf_000002, 0x6d0_0006d1_000000, 0x6d2_0006d3_000002,
  0x6d5_0006d5_000002, 0x6d6_0006dc_000003, 0x6df_0006e4_000003, 0x6e7_0006e8_000003, 0x6ea_0006ed_000003,
  0x6ee_0006ef_000002, 0x6fa_0006fc_000000, 0x6ff_0006ff_000000, 0x70f_00070f_000003, 0x710_000710_000002,
  0x711_000711_000003, 0x712_000714_000000, 0x715_000719_000002, 0x71a_00071d_000000, 0x71e_00071e_000002,
  0x71f_000727_000000, 0x728_000728_000002, 0x729_000729_000000, 0x72a_00072a_000002, 0x72b_00072b_000000,
  0x72c_00072c_000002, 0x72d_00072e_000000, 0x72f_00072f_000002, 0x730_00074a_000003, 0x74d_00074d_000002,
  0x74e_000758_000000, 0x759_00075b_000002, 0x75c_00076a_000000, 0x76b_00076c_000002, 0x76d_000770_000000,
  0x771_000771_000002, 0x772_000772_000000, 0x773_000774_000002, 0x775_000777_000000, 0x778_000779_000002,
  0x77a_00077f_000000, 0x7a6_0007b0_000003, 0x7ca_0007ea_000000, 0x7eb_0007f3_000003, 0x7fa_0007fa_000004,
  0x7fd_0007fd_000003, 0x816_000819_000003, 0x81b_000823_000003, 0x825_000827_000003, 0x829_00082d_000003,
  0x840_000840_000002, 0x841_000845_000000, 0x846_000847_000002, 0x848_000848_000000, 0x849_000849_000002,
  0x84a_000853_000000, 0x854_000854_000002, 0x855_000855_000000, 0x856_000858_000002, 0x859_00085b_000003,
  0x860_000860_000000, 0x862_000865_000000, 0x867_000867_000002, 0x868_000868_000000, 0x869_00086a_000002,
  0x870_000882_000002, 0x883_000885_000004, 0x886_000886_000000, 0x889_00088d_000000, 0x88e_00088e_000002,
  0x88f_00088f_000000, 0x897_00089f_000003, 0x8a0_0008a9_000000, 0x8aa_0008ac_000002, 0x8ae_0008ae_000002,
  0x8af_0008b0_000000, 0x8b1_0008b2_000002, 0x8b3_0008b8_000000, 0x8b9_0008b9_000002, 0x8ba_0008c8_000000,
  0x8ca_0008e1_000003, 0x8e3_000902_000003, 0x93a_00093a_000003, 0x93c_00093c_000003, 0x941_000948_000003,
  0x94d_00094d_000003, 0x951_000957_000003, 0x962_000963_000003, 0x981_000981_000003, 0x9bc_0009bc_000003,
  0x9c1_0009c4_000003, 0x9cd_0009cd_000003, 0x9e2_0009e3_000003, 0x9fe_0009fe_000003, 0xa01_000a02_000003,
  0xa3c_000a3c_000003, 0xa41_000a42_000003, 0xa47_000a48_000003, 0xa4b_000a4d_000003, 0xa51_000a51_000003,
  0xa70_000a71_000003, 0xa75_000a75_000003, 0xa81_000a82_000003, 0xabc_000abc_000003, 0xac1_000ac5_000003,
  0xac7_000ac8_000003, 0xacd_000acd_000003, 0xae2_000ae3_000003, 0xafa_000aff_000003, 0xb01_000b01_000003,
  0xb3c_000b3c_000003, 0xb3f_000b3f_000003, 0xb41_000b44_000003, 0xb4d_000b4d_000003, 0xb53_000b56_000003,
  0xb62_000b63_000003, 0xb82_000b82_000003, 0xbc0_000bc0_000003, 0xbcd_000bcd_000003, 0xc00_000c00_000003,
  0xc04_000c04_000003, 0xc3c_000c3c_000003, 0xc3e_000c40_000003, 0xc46_000c48_000003, 0xc4a_000c4d_000003,
  0xc55_000c56_000003, 0xc62_000c63_000003, 0xc81_000c81_000003, 0xcbc_000cbc_000003, 0xccc_000ccd_000003,
  0xce2_000ce3_000003, 0xd00_000d01_000003, 0xd3b_000d3c_000003, 0xd41_000d44_000003, 0xd4d_000d4d_000003,
  0xd62_000d63_000003, 0xd81_000d81_000003, 0xdca_000dca_000003, 0xdd2_000dd4_000003, 0xdd6_000dd6_000003,
  0xe31_000e31_000003, 0xe34_000e3a_000003, 0xe47_000e4e_000003, 0xeb1_000eb1_000003, 0xeb4_000ebc_000003,
  0xec8_000ece_000003, 0xf18_000f19_000003, 0xf35_000f35_000003, 0xf37_000f37_000003, 0xf39_000f39_000003,
  0xf71_000f7e_000003, 0xf80_000f84_000003, 0xf86_000f87_000003, 0xf8d_000f97_000003, 0xf99_000fbc_000003,
  0xfc6_000fc6_000003, 0x102d_001030_000003, 0x1032_001037_000003, 0x1039_00103a_000003, 0x103d_00103e_000003,
  0x1058_001059_000003, 0x105e_001060_000003, 0x1071_001074_000003, 0x1082_001082_000003, 0x1085_001086_000003,
  0x108d_00108d_000003, 0x109d_00109d_000003, 0x135d_00135f_000003, 0x1712_001714_000003, 0x1732_001733_000003,
  0x1752_001753_000003, 0x1772_001773_000003, 0x17b4_0017b5_000003, 0x17b7_0017bd_000003, 0x17c6_0017c6_000003,
  0x17c9_0017d3_000003, 0x17dd_0017dd_000003, 0x1807_001807_000000, 0x180a_00180a_000004, 0x180b_00180d_000003,
  0x180f_00180f_000003, 0x1820_001878_000000, 0x1885_001886_000003, 0x1887_0018a8_000000, 0x18a9_0018a9_000003,
  0x18aa_0018aa_000000, 0x1920_001922_000003, 0x1927_001928_000003, 0x1932_001932_000003, 0x1939_00193b_000003,
  0x1a17_001a18_000003, 0x1a1b_001a1b_000003, 0x1a56_001a56_000003, 0x1a58_001a5e_000003, 0x1a60_001a60_000003,
  0x1a62_001a62_000003, 0x1a65_001a6c_000003, 0x1a73_001a7c_000003, 0x1a7f_001a7f_000003, 0x1ab0_001aec_000003,
  0x1b00_001b03_000003, 0x1b34_001b34_000003, 0x1b36_001b39_000003, 0x1b6b_001b73_000003, 0x1b80_001b81_000003,
  0x1ba2_001ba5_000003, 0x1ba8_001ba9_000003, 0x1bab_001bad_000003, 0x1be6_001be6_000003, 0x1be8_001be9_000003,
  0x1bed_001bed_000003, 0x1bef_001bf1_000003, 0x1c2c_001c33_000003, 0x1c36_001c37_000003, 0x1cd0_001cd2_000003,
  0x1cd4_001ce0_000003, 0x1ce2_001ce8_000003, 0x1ced_001ced_000003, 0x1cf4_001cf4_000003, 0x1cf8_001cf9_000003,
  0x1dc0_001dff_000003, 0x200b_00200b_000003, 0x200d_00200d_000004, 0x200e_00200f_000003, 0x202a_00202e_000003,
  0x2060_002064_000003, 0x206a_00206f_000003, 0x20d0_0020f0_000003, 0x2cef_002cf1_000003, 0x2d7f_002d7f_000003,
  0x2de0_002dff_000003, 0x302a_00302d_000003, 0x3099_00309a_000003, 0xa66f_00a672_000003, 0xa674_00a67d_000003,
  0xa69e_00a69f_000003, 0xa6f0_00a6f1_000003, 0xa802_00a802_000003, 0xa806_00a806_000003, 0xa80b_00a80b_000003,
  0xa825_00a826_000003, 0xa82c_00a82c_000003, 0xa840_00a871_000000, 0xa872_00a872_000001, 0xa8c4_00a8c5_000003,
  0xa8e0_00a8f1_000003, 0xa8ff_00a8ff_000003, 0xa926_00a92d_000003, 0xa947_00a951_000003, 0xa980_00a982_000003,
  0xa9b3_00a9b3_000003, 0xa9b6_00a9b9_000003, 0xa9bc_00a9bd_000003, 0xa9e5_00a9e5_000003, 0xaa29_00aa2e_000003,
  0xaa31_00aa32_000003, 0xaa35_00aa36_000003, 0xaa43_00aa43_000003, 0xaa4c_00aa4c_000003, 0xaa7c_00aa7c_000003,
  0xaab0_00aab0_000003, 0xaab2_00aab4_000003, 0xaab7_00aab8_000003, 0xaabe_00aabf_000003, 0xaac1_00aac1_000003,
  0xaaec_00aaed_000003, 0xaaf6_00aaf6_000003, 0xabe5_00abe5_000003, 0xabe8_00abe8_000003, 0xabed_00abed_000003,
  0xfb1e_00fb1e_000003, 0xfe00_00fe0f_000003, 0xfe20_00fe2f_000003, 0xfeff_00feff_000003, 0xfff9_00fffb_000003,
  0x101fd_0101fd_000003, 0x102e0_0102e0_000003, 0x10376_01037a_000003, 0x10a01_010a03_000003, 0x10a05_010a06_000003,
  0x10a0c_010a0f_000003, 0x10a38_010a3a_000003, 0x10a3f_010a3f_000003, 0x10ac0_010ac4_000000, 0x10ac5_010ac5_000002,
  0x10ac7_010ac7_000002, 0x10ac9_010aca_000002, 0x10acd_010acd_000001, 0x10ace_010ad2_000002, 0x10ad3_010ad6_000000,
  0x10ad7_010ad7_000001, 0x10ad8_010adc_000000, 0x10add_010add_000002, 0x10ade_010ae0_000000, 0x10ae1_010ae1_000002,
  0x10ae4_010ae4_000002, 0x10ae5_010ae6_000003, 0x10aeb_010aee_000000, 0x10aef_010aef_000002, 0x10b80_010b80_000000,
  0x10b81_010b81_000002, 0x10b82_010b82_000000, 0x10b83_010b85_000002, 0x10b86_010b88_000000, 0x10b89_010b89_000002,
  0x10b8a_010b8b_000000, 0x10b8c_010b8c_000002, 0x10b8d_010b8d_000000, 0x10b8e_010b8f_000002, 0x10b90_010b90_000000,
  0x10b91_010b91_000002, 0x10ba9_010bac_000002, 0x10bad_010bae_000000, 0x10d00_010d00_000001, 0x10d01_010d21_000000,
  0x10d22_010d22_000002, 0x10d23_010d23_000000, 0x10d24_010d27_000003, 0x10d69_010d6d_000003, 0x10eab_010eac_000003,
  0x10ec2_010ec2_000002, 0x10ec3_010ec4_000000, 0x10ec6_010ec8_000000, 0x10ed9_010eea_000000, 0x10efa_010eff_000003,
  0x10f30_010f32_000000, 0x10f33_010f33_000002, 0x10f34_010f44_000000, 0x10f46_010f50_000003, 0x10f51_010f53_000000,
  0x10f54_010f54_000002, 0x10f70_010f73_000000, 0x10f74_010f75_000002, 0x10f76_010f81_000000, 0x10f82_010f85_000003,
  0x10fb0_010fb0_000000, 0x10fb2_010fb3_000000, 0x10fb4_010fb6_000002, 0x10fb8_010fb8_000000, 0x10fb9_010fba_000002,
  0x10fbb_010fbc_000000, 0x10fbd_010fbd_000002, 0x10fbe_010fbf_000000, 0x10fc1_010fc1_000000, 0x10fc2_010fc3_000002,
  0x10fc4_010fc4_000000, 0x10fc9_010fc9_000002, 0x10fca_010fca_000000, 0x10fcb_010fcb_000001, 0x11001_011001_000003,
  0x11038_011046_000003, 0x11070_011070_000003, 0x11073_011074_000003, 0x1107f_011081_000003, 0x110b3_0110b6_000003,
  0x110b9_0110ba_000003, 0x110c2_0110c2_000003, 0x11100_011102_000003, 0x11127_01112b_000003, 0x1112d_011134_000003,
  0x11173_011173_000003, 0x11180_011181_000003, 0x111b6_0111be_000003, 0x111c9_0111cc_000003, 0x111cf_0111cf_000003,
  0x1122f_011231_000003, 0x11234_011234_000003, 0x11236_011237_000003, 0x1123e_01123e_000003, 0x11241_011241_000003,
  0x112df_0112df_000003, 0x112e3_0112ea_000003, 0x11300_011301_000003, 0x1133b_01133c_000003, 0x11340_011340_000003,
  0x11366_01136c_000003, 0x11370_011374_000003, 0x113bb_0113c0_000003, 0x113ce_0113ce_000003, 0x113d0_0113d0_000003,
  0x113d2_0113d2_000003, 0x113e1_0113e2_000003, 0x11438_01143f_000003, 0x11442_011444_000003, 0x11446_011446_000003,
  0x1145e_01145e_000003, 0x114b3_0114b8_000003, 0x114ba_0114ba_000003, 0x114bf_0114c0_000003, 0x114c2_0114c3_000003,
  0x115b2_0115b5_000003, 0x115bc_0115bd_000003, 0x115bf_0115c0_000003, 0x115dc_0115dd_000003, 0x11633_01163a_000003,
  0x1163d_01163d_000003, 0x1163f_011640_000003, 0x116ab_0116ab_000003, 0x116ad_0116ad_000003, 0x116b0_0116b5_000003,
  0x116b7_0116b7_000003, 0x1171d_01171d_000003, 0x1171f_01171f_000003, 0x11722_011725_000003, 0x11727_01172b_000003,
  0x1182f_011837_000003, 0x11839_01183a_000003, 0x1193b_01193c_000003, 0x1193e_01193e_000003, 0x11943_011943_000003,
  0x119d4_0119d7_000003, 0x119da_0119db_000003, 0x119e0_0119e0_000003, 0x11a01_011a0a_000003, 0x11a33_011a38_000003,
  0x11a3b_011a3e_000003, 0x11a47_011a47_000003, 0x11a51_011a56_000003, 0x11a59_011a5b_000003, 0x11a8a_011a96_000003,
  0x11a98_011a99_000003, 0x11b60_011b60_000003, 0x11b62_011b64_000003, 0x11b66_011b66_000003, 0x11c30_011c36_000003,
  0x11c38_011c3d_000003, 0x11c3f_011c3f_000003, 0x11c92_011ca7_000003, 0x11caa_011cb0_000003, 0x11cb2_011cb3_000003,
  0x11cb5_011cb6_000003, 0x11d31_011d36_000003, 0x11d3a_011d3a_000003, 0x11d3c_011d3d_000003, 0x11d3f_011d45_000003,
  0x11d47_011d47_000003, 0x11d90_011d91_000003, 0x11d95_011d95_000003, 0x11d97_011d97_000003, 0x11ef3_011ef4_000003,
  0x11f00_011f01_000003, 0x11f36_011f3a_000003, 0x11f40_011f40_000003, 0x11f42_011f42_000003, 0x11f5a_011f5a_000003,
  0x13430_013440_000003, 0x13447_013455_000003, 0x1611e_016129_000003, 0x1612d_01612f_000003, 0x16af0_016af4_000003,
  0x16b30_016b36_000003, 0x16f4f_016f4f_000003, 0x16f8f_016f92_000003, 0x16fe4_016fe4_000003, 0x1bc9d_01bc9e_000003,
  0x1bca0_01bca3_000003, 0x1cf00_01cf2d_000003, 0x1cf30_01cf46_000003, 0x1d167_01d169_000003, 0x1d173_01d182_000003,
  0x1d185_01d18b_000003, 0x1d1aa_01d1ad_000003, 0x1d242_01d244_000003, 0x1d250_01d250_000003, 0x1da00_01da36_000003,
  0x1da3b_01da6c_000003, 0x1da75_01da75_000003, 0x1da84_01da84_000003, 0x1da9b_01da9f_000003, 0x1daa1_01daaf_000003,
  0x1e000_01e006_000003, 0x1e008_01e018_000003, 0x1e01b_01e021_000003, 0x1e023_01e024_000003, 0x1e026_01e02a_000003,
  0x1e08f_01e08f_000003, 0x1e130_01e136_000003, 0x1e2ae_01e2ae_000003, 0x1e2ec_01e2ef_000003, 0x1e4ec_01e4ef_000003,
  0x1e5ee_01e5ef_000003, 0x1e6e3_01e6e3_000003, 0x1e6e6_01e6e6_000003, 0x1e6ee_01e6ef_000003, 0x1e6f5_01e6f5_000003,
  0x1e8d0_01e8d6_000003, 0x1e900_01e943_000000, 0x1e944_01e94b_000003, 0xe0001_0e0001_000003, 0xe0020_0e007f_000003,
  0xe0100_0e01ef_000003]

end IdentityClient.Idna
