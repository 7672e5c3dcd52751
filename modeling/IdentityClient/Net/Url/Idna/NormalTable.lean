import IdentityClient.Text.CodeTable

/-!
# Canonical equivalence of characters

Full canonical decompositions, combining classes, and the pairs that compose. Hangul syllables are
computed instead.
-/

namespace IdentityClient.Idna

set_option maxRecDepth 100000 in
/-- Characters that are canonically equivalent to a sequence. -/
def decompositionTable : CodeTable := .ofRows [
  0xc0_0000c0_000041_000300, 0xc1_0000c1_000041_000301, 0xc2_0000c2_000041_000302, 0xc3_0000c3_000041_000303,
  0xc4_0000c4_000041_000308, 0xc5_0000c5_000041_00030a, 0xc7_0000c7_000043_000327, 0xc8_0000c8_000045_000300,
  0xc9_0000c9_000045_000301, 0xca_0000ca_000045_000302, 0xcb_0000cb_000045_000308, 0xcc_0000cc_000049_000300,
  0xcd_0000cd_000049_000301, 0xce_0000ce_000049_000302, 0xcf_0000cf_000049_000308, 0xd1_0000d1_00004e_000303,
  0xd2_0000d2_00004f_000300, 0xd3_0000d3_00004f_000301, 0xd4_0000d4_00004f_000302, 0xd5_0000d5_00004f_000303,
  0xd6_0000d6_00004f_000308, 0xd9_0000d9_000055_000300, 0xda_0000da_000055_000301, 0xdb_0000db_000055_000302,
  0xdc_0000dc_000055_000308, 0xdd_0000dd_000059_000301, 0xe0_0000e0_000061_000300, 0xe1_0000e1_000061_000301,
  0xe2_0000e2_000061_000302, 0xe3_0000e3_000061_000303, 0xe4_0000e4_000061_000308, 0xe5_0000e5_000061_00030a,
  0xe7_0000e7_000063_000327, 0xe8_0000e8_000065_000300, 0xe9_0000e9_000065_000301, 0xea_0000ea_000065_000302,
  0xeb_0000eb_000065_000308, 0xec_0000ec_000069_000300, 0xed_0000ed_000069_000301, 0xee_0000ee_000069_000302,
  0xef_0000ef_000069_000308, 0xf1_0000f1_00006e_000303, 0xf2_0000f2_00006f_000300, 0xf3_0000f3_00006f_000301,
  0xf4_0000f4_00006f_000302, 0xf5_0000f5_00006f_000303, 0xf6_0000f6_00006f_000308, 0xf9_0000f9_000075_000300,
  0xfa_0000fa_000075_000301, 0xfb_0000fb_000075_000302, 0xfc_0000fc_000075_000308, 0xfd_0000fd_000079_000301,
  0xff_0000ff_000079_000308, 0x100_000100_000041_000304, 0x101_000101_000061_000304, 0x102_000102_000041_000306,
  0x103_000103_000061_000306, 0x104_000104_000041_000328, 0x105_000105_000061_000328, 0x106_000106_000043_000301,
  0x107_000107_000063_000301, 0x108_000108_000043_000302, 0x109_000109_000063_000302, 0x10a_00010a_000043_000307,
  0x10b_00010b_000063_000307, 0x10c_00010c_000043_00030c, 0x10d_00010d_000063_00030c, 0x10e_00010e_000044_00030c,
  0x10f_00010f_000064_00030c, 0x112_000112_000045_000304, 0x113_000113_000065_000304, 0x114_000114_000045_000306,
  0x115_000115_000065_000306, 0x116_000116_000045_000307, 0x117_000117_000065_000307, 0x118_000118_000045_000328,
  0x119_000119_000065_000328, 0x11a_00011a_000045_00030c, 0x11b_00011b_000065_00030c, 0x11c_00011c_000047_000302,
  0x11d_00011d_000067_000302, 0x11e_00011e_000047_000306, 0x11f_00011f_000067_000306, 0x120_000120_000047_000307,
  0x121_000121_000067_000307, 0x122_000122_000047_000327, 0x123_000123_000067_000327, 0x124_000124_000048_000302,
  0x125_000125_000068_000302, 0x128_000128_000049_000303, 0x129_000129_000069_000303, 0x12a_00012a_000049_000304,
  0x12b_00012b_000069_000304, 0x12c_00012c_000049_000306, 0x12d_00012d_000069_000306, 0x12e_00012e_000049_000328,
  0x12f_00012f_000069_000328, 0x130_000130_000049_000307, 0x134_000134_00004a_000302, 0x135_000135_00006a_000302,
  0x136_000136_00004b_000327, 0x137_000137_00006b_000327, 0x139_000139_00004c_000301, 0x13a_00013a_00006c_000301,
  0x13b_00013b_00004c_000327, 0x13c_00013c_00006c_000327, 0x13d_00013d_00004c_00030c, 0x13e_00013e_00006c_00030c,
  0x143_000143_00004e_000301, 0x144_000144_00006e_000301, 0x145_000145_00004e_000327, 0x146_000146_00006e_000327,
  0x147_000147_00004e_00030c, 0x148_000148_00006e_00030c, 0x14c_00014c_00004f_000304, 0x14d_00014d_00006f_000304,
  0x14e_00014e_00004f_000306, 0x14f_00014f_00006f_000306, 0x150_000150_00004f_00030b, 0x151_000151_00006f_00030b,
  0x154_000154_000052_000301, 0x155_000155_000072_000301, 0x156_000156_000052_000327, 0x157_000157_000072_000327,
  0x158_000158_000052_00030c, 0x159_000159_000072_00030c, 0x15a_00015a_000053_000301, 0x15b_00015b_000073_000301,
  0x15c_00015c_000053_000302, 0x15d_00015d_000073_000302, 0x15e_00015e_000053_000327, 0x15f_00015f_000073_000327,
  0x160_000160_000053_00030c, 0x161_000161_000073_00030c, 0x162_000162_000054_000327, 0x163_000163_000074_000327,
  0x164_000164_000054_00030c, 0x165_000165_000074_00030c, 0x168_000168_000055_000303, 0x169_000169_000075_000303,
  0x16a_00016a_000055_000304, 0x16b_00016b_000075_000304, 0x16c_00016c_000055_000306, 0x16d_00016d_000075_000306,
  0x16e_00016e_000055_00030a, 0x16f_00016f_000075_00030a, 0x170_000170_000055_00030b, 0x171_000171_000075_00030b,
  0x172_000172_000055_000328, 0x173_000173_000075_000328, 0x174_000174_000057_000302, 0x175_000175_000077_000302,
  0x176_000176_000059_000302, 0x177_000177_000079_000302, 0x178_000178_000059_000308, 0x179_000179_00005a_000301,
  0x17a_00017a_00007a_000301, 0x17b_00017b_00005a_000307, 0x17c_00017c_00007a_000307, 0x17d_00017d_00005a_00030c,
  0x17e_00017e_00007a_00030c, 0x1a0_0001a0_00004f_00031b, 0x1a1_0001a1_00006f_00031b, 0x1af_0001af_000055_00031b,
  0x1b0_0001b0_000075_00031b, 0x1cd_0001cd_000041_00030c, 0x1ce_0001ce_000061_00030c, 0x1cf_0001cf_000049_00030c,
  0x1d0_0001d0_000069_00030c, 0x1d1_0001d1_00004f_00030c, 0x1d2_0001d2_00006f_00030c, 0x1d3_0001d3_000055_00030c,
  0x1d4_0001d4_000075_00030c, 0x1d5_0001d5_000055_000308_000304, 0x1d6_0001d6_000075_000308_000304,
  0x1d7_0001d7_000055_000308_000301, 0x1d8_0001d8_000075_000308_000301, 0x1d9_0001d9_000055_000308_00030c,
  0x1da_0001da_000075_000308_00030c, 0x1db_0001db_000055_000308_000300, 0x1dc_0001dc_000075_000308_000300,
  0x1de_0001de_000041_000308_000304, 0x1df_0001df_000061_000308_000304, 0x1e0_0001e0_000041_000307_000304,
  0x1e1_0001e1_000061_000307_000304, 0x1e2_0001e2_0000c6_000304, 0x1e3_0001e3_0000e6_000304,
  0x1e6_0001e6_000047_00030c, 0x1e7_0001e7_000067_00030c, 0x1e8_0001e8_00004b_00030c, 0x1e9_0001e9_00006b_00030c,
  0x1ea_0001ea_00004f_000328, 0x1eb_0001eb_00006f_000328, 0x1ec_0001ec_00004f_000328_000304,
  0x1ed_0001ed_00006f_000328_000304, 0x1ee_0001ee_0001b7_00030c, 0x1ef_0001ef_000292_00030c,
  0x1f0_0001f0_00006a_00030c, 0x1f4_0001f4_000047_000301, 0x1f5_0001f5_000067_000301, 0x1f8_0001f8_00004e_000300,
  0x1f9_0001f9_00006e_000300, 0x1fa_0001fa_000041_00030a_000301, 0x1fb_0001fb_000061_00030a_000301,
  0x1fc_0001fc_0000c6_000301, 0x1fd_0001fd_0000e6_000301, 0x1fe_0001fe_0000d8_000301, 0x1ff_0001ff_0000f8_000301,
  0x200_000200_000041_00030f, 0x201_000201_000061_00030f, 0x202_000202_000041_000311, 0x203_000203_000061_000311,
  0x204_000204_000045_00030f, 0x205_000205_000065_00030f, 0x206_000206_000045_000311, 0x207_000207_000065_000311,
  0x208_000208_000049_00030f, 0x209_000209_000069_00030f, 0x20a_00020a_000049_000311, 0x20b_00020b_000069_000311,
  0x20c_00020c_00004f_00030f, 0x20d_00020d_00006f_00030f, 0x20e_00020e_00004f_000311, 0x20f_00020f_00006f_000311,
  0x210_000210_000052_00030f, 0x211_000211_000072_00030f, 0x212_000212_000052_000311, 0x213_000213_000072_000311,
  0x214_000214_000055_00030f, 0x215_000215_000075_00030f, 0x216_000216_000055_000311, 0x217_000217_000075_000311,
  0x218_000218_000053_000326, 0x219_000219_000073_000326, 0x21a_00021a_000054_000326, 0x21b_00021b_000074_000326,
  0x21e_00021e_000048_00030c, 0x21f_00021f_000068_00030c, 0x226_000226_000041_000307, 0x227_000227_000061_000307,
  0x228_000228_000045_000327, 0x229_000229_000065_000327, 0x22a_00022a_00004f_000308_000304,
  0x22b_00022b_00006f_000308_000304, 0x22c_00022c_00004f_000303_000304, 0x22d_00022d_00006f_000303_000304,
  0x22e_00022e_00004f_000307, 0x22f_00022f_00006f_000307, 0x230_000230_00004f_000307_000304,
  0x231_000231_00006f_000307_000304, 0x232_000232_000059_000304, 0x233_000233_000079_000304, 0x340_000340_000300,
  0x341_000341_000301, 0x343_000343_000313, 0x344_000344_000308_000301, 0x374_000374_0002b9, 0x37e_00037e_00003b,
  0x385_000385_0000a8_000301, 0x386_000386_000391_000301, 0x387_000387_0000b7, 0x388_000388_000395_000301,
  0x389_000389_000397_000301, 0x38a_00038a_000399_000301, 0x38c_00038c_00039f_000301, 0x38e_00038e_0003a5_000301,
  0x38f_00038f_0003a9_000301, 0x390_000390_0003b9_000308_000301, 0x3aa_0003aa_000399_000308,
  0x3ab_0003ab_0003a5_000308, 0x3ac_0003ac_0003b1_000301, 0x3ad_0003ad_0003b5_000301, 0x3ae_0003ae_0003b7_000301,
  0x3af_0003af_0003b9_000301, 0x3b0_0003b0_0003c5_000308_000301, 0x3ca_0003ca_0003b9_000308,
  0x3cb_0003cb_0003c5_000308, 0x3cc_0003cc_0003bf_000301, 0x3cd_0003cd_0003c5_000301, 0x3ce_0003ce_0003c9_000301,
  0x3d3_0003d3_0003d2_000301, 0x3d4_0003d4_0003d2_000308, 0x400_000400_000415_000300, 0x401_000401_000415_000308,
  0x403_000403_000413_000301, 0x407_000407_000406_000308, 0x40c_00040c_00041a_000301, 0x40d_00040d_000418_000300,
  0x40e_00040e_000423_000306, 0x419_000419_000418_000306, 0x439_000439_000438_000306, 0x450_000450_000435_000300,
  0x451_000451_000435_000308, 0x453_000453_000433_000301, 0x457_000457_000456_000308, 0x45c_00045c_00043a_000301,
  0x45d_00045d_000438_000300, 0x45e_00045e_000443_000306, 0x476_000476_000474_00030f, 0x477_000477_000475_00030f,
  0x4c1_0004c1_000416_000306, 0x4c2_0004c2_000436_000306, 0x4d0_0004d0_000410_000306, 0x4d1_0004d1_000430_000306,
  0x4d2_0004d2_000410_000308, 0x4d3_0004d3_000430_000308, 0x4d6_0004d6_000415_000306, 0x4d7_0004d7_000435_000306,
  0x4da_0004da_0004d8_000308, 0x4db_0004db_0004d9_000308, 0x4dc_0004dc_000416_000308, 0x4dd_0004dd_000436_000308,
  0x4de_0004de_000417_000308, 0x4df_0004df_000437_000308, 0x4e2_0004e2_000418_000304, 0x4e3_0004e3_000438_000304,
  0x4e4_0004e4_000418_000308, 0x4e5_0004e5_000438_000308, 0x4e6_0004e6_00041e_000308, 0x4e7_0004e7_00043e_000308,
  0x4ea_0004ea_0004e8_000308, 0x4eb_0004eb_0004e9_000308, 0x4ec_0004ec_00042d_000308, 0x4ed_0004ed_00044d_000308,
  0x4ee_0004ee_000423_000304, 0x4ef_0004ef_000443_000304, 0x4f0_0004f0_000423_000308, 0x4f1_0004f1_000443_000308,
  0x4f2_0004f2_000423_00030b, 0x4f3_0004f3_000443_00030b, 0x4f4_0004f4_000427_000308, 0x4f5_0004f5_000447_000308,
  0x4f8_0004f8_00042b_000308, 0x4f9_0004f9_00044b_000308, 0x622_000622_000627_000653, 0x623_000623_000627_000654,
  0x624_000624_000648_000654, 0x625_000625_000627_000655, 0x626_000626_00064a_000654, 0x6c0_0006c0_0006d5_000654,
  0x6c2_0006c2_0006c1_000654, 0x6d3_0006d3_0006d2_000654, 0x929_000929_000928_00093c, 0x931_000931_000930_00093c,
  0x934_000934_000933_00093c, 0x958_000958_000915_00093c, 0x959_000959_000916_00093c, 0x95a_00095a_000917_00093c,
  0x95b_00095b_00091c_00093c, 0x95c_00095c_000921_00093c, 0x95d_00095d_000922_00093c, 0x95e_00095e_00092b_00093c,
  0x95f_00095f_00092f_00093c, 0x9cb_0009cb_0009c7_0009be, 0x9cc_0009cc_0009c7_0009d7, 0x9dc_0009dc_0009a1_0009bc,
  0x9dd_0009dd_0009a2_0009bc, 0x9df_0009df_0009af_0009bc, 0xa33_000a33_000a32_000a3c, 0xa36_000a36_000a38_000a3c,
  0xa59_000a59_000a16_000a3c, 0xa5a_000a5a_000a17_000a3c, 0xa5b_000a5b_000a1c_000a3c, 0xa5e_000a5e_000a2b_000a3c,
  0xb48_000b48_000b47_000b56, 0xb4b_000b4b_000b47_000b3e, 0xb4c_000b4c_000b47_000b57, 0xb5c_000b5c_000b21_000b3c,
  0xb5d_000b5d_000b22_000b3c, 0xb94_000b94_000b92_000bd7, 0xbca_000bca_000bc6_000bbe, 0xbcb_000bcb_000bc7_000bbe,
  0xbcc_000bcc_000bc6_000bd7, 0xc48_000c48_000c46_000c56, 0xcc0_000cc0_000cbf_000cd5, 0xcc7_000cc7_000cc6_000cd5,
  0xcc8_000cc8_000cc6_000cd6, 0xcca_000cca_000cc6_000cc2, 0xccb_000ccb_000cc6_000cc2_000cd5,
  0xd4a_000d4a_000d46_000d3e, 0xd4b_000d4b_000d47_000d3e, 0xd4c_000d4c_000d46_000d57, 0xdda_000dda_000dd9_000dca,
  0xddc_000ddc_000dd9_000dcf, 0xddd_000ddd_000dd9_000dcf_000dca, 0xdde_000dde_000dd9_000ddf,
  0xf43_000f43_000f42_000fb7, 0xf4d_000f4d_000f4c_000fb7, 0xf52_000f52_000f51_000fb7, 0xf57_000f57_000f56_000fb7,
  0xf5c_000f5c_000f5b_000fb7, 0xf69_000f69_000f40_000fb5, 0xf73_000f73_000f71_000f72, 0xf75_000f75_000f71_000f74,
  0xf76_000f76_000fb2_000f80, 0xf78_000f78_000fb3_000f80, 0xf81_000f81_000f71_000f80, 0xf93_000f93_000f92_000fb7,
  0xf9d_000f9d_000f9c_000fb7, 0xfa2_000fa2_000fa1_000fb7, 0xfa7_000fa7_000fa6_000fb7, 0xfac_000fac_000fab_000fb7,
  0xfb9_000fb9_000f90_000fb5, 0x1026_001026_001025_00102e, 0x1b06_001b06_001b05_001b35, 0x1b08_001b08_001b07_001b35,
  0x1b0a_001b0a_001b09_001b35, 0x1b0c_001b0c_001b0b_001b35, 0x1b0e_001b0e_001b0d_001b35, 0x1b12_001b12_001b11_001b35,
  0x1b3b_001b3b_001b3a_001b35, 0x1b3d_001b3d_001b3c_001b35, 0x1b40_001b40_001b3e_001b35, 0x1b41_001b41_001b3f_001b35,
  0x1b43_001b43_001b42_001b35, 0x1e00_001e00_000041_000325, 0x1e01_001e01_000061_000325, 0x1e02_001e02_000042_000307,
  0x1e03_001e03_000062_000307, 0x1e04_001e04_000042_000323, 0x1e05_001e05_000062_000323, 0x1e06_001e06_000042_000331,
  0x1e07_001e07_000062_000331, 0x1e08_001e08_000043_000327_000301, 0x1e09_001e09_000063_000327_000301,
  0x1e0a_001e0a_000044_000307, 0x1e0b_001e0b_000064_000307, 0x1e0c_001e0c_000044_000323, 0x1e0d_001e0d_000064_000323,
  0x1e0e_001e0e_000044_000331, 0x1e0f_001e0f_000064_000331, 0x1e10_001e10_000044_000327, 0x1e11_001e11_000064_000327,
  0x1e12_001e12_000044_00032d, 0x1e13_001e13_000064_00032d, 0x1e14_001e14_000045_000304_000300,
  0x1e15_001e15_000065_000304_000300, 0x1e16_001e16_000045_000304_000301, 0x1e17_001e17_000065_000304_000301,
  0x1e18_001e18_000045_00032d, 0x1e19_001e19_000065_00032d, 0x1e1a_001e1a_000045_000330, 0x1e1b_001e1b_000065_000330,
  0x1e1c_001e1c_000045_000327_000306, 0x1e1d_001e1d_000065_000327_000306, 0x1e1e_001e1e_000046_000307,
  0x1e1f_001e1f_000066_000307, 0x1e20_001e20_000047_000304, 0x1e21_001e21_000067_000304, 0x1e22_001e22_000048_000307,
  0x1e23_001e23_000068_000307, 0x1e24_001e24_000048_000323, 0x1e25_001e25_000068_000323, 0x1e26_001e26_000048_000308,
  0x1e27_001e27_000068_000308, 0x1e28_001e28_000048_000327, 0x1e29_001e29_000068_000327, 0x1e2a_001e2a_000048_00032e,
  0x1e2b_001e2b_000068_00032e, 0x1e2c_001e2c_000049_000330, 0x1e2d_001e2d_000069_000330,
  0x1e2e_001e2e_000049_000308_000301, 0x1e2f_001e2f_000069_000308_000301, 0x1e30_001e30_00004b_000301,
  0x1e31_001e31_00006b_000301, 0x1e32_001e32_00004b_000323, 0x1e33_001e33_00006b_000323, 0x1e34_001e34_00004b_000331,
  0x1e35_001e35_00006b_000331, 0x1e36_001e36_00004c_000323, 0x1e37_001e37_00006c_000323,
  0x1e38_001e38_00004c_000323_000304, 0x1e39_001e39_00006c_000323_000304, 0x1e3a_001e3a_00004c_000331,
  0x1e3b_001e3b_00006c_000331, 0x1e3c_001e3c_00004c_00032d, 0x1e3d_001e3d_00006c_00032d, 0x1e3e_001e3e_00004d_000301,
  0x1e3f_001e3f_00006d_000301, 0x1e40_001e40_00004d_000307, 0x1e41_001e41_00006d_000307, 0x1e42_001e42_00004d_000323,
  0x1e43_001e43_00006d_000323, 0x1e44_001e44_00004e_000307, 0x1e45_001e45_00006e_000307, 0x1e46_001e46_00004e_000323,
  0x1e47_001e47_00006e_000323, 0x1e48_001e48_00004e_000331, 0x1e49_001e49_00006e_000331, 0x1e4a_001e4a_00004e_00032d,
  0x1e4b_001e4b_00006e_00032d, 0x1e4c_001e4c_00004f_000303_000301, 0x1e4d_001e4d_00006f_000303_000301,
  0x1e4e_001e4e_00004f_000303_000308, 0x1e4f_001e4f_00006f_000303_000308, 0x1e50_001e50_00004f_000304_000300,
  0x1e51_001e51_00006f_000304_000300, 0x1e52_001e52_00004f_000304_000301, 0x1e53_001e53_00006f_000304_000301,
  0x1e54_001e54_000050_000301, 0x1e55_001e55_000070_000301, 0x1e56_001e56_000050_000307, 0x1e57_001e57_000070_000307,
  0x1e58_001e58_000052_000307, 0x1e59_001e59_000072_000307, 0x1e5a_001e5a_000052_000323, 0x1e5b_001e5b_000072_000323,
  0x1e5c_001e5c_000052_000323_000304, 0x1e5d_001e5d_000072_000323_000304, 0x1e5e_001e5e_000052_000331,
  0x1e5f_001e5f_000072_000331, 0x1e60_001e60_000053_000307, 0x1e61_001e61_000073_000307, 0x1e62_001e62_000053_000323,
  0x1e63_001e63_000073_000323, 0x1e64_001e64_000053_000301_000307, 0x1e65_001e65_000073_000301_000307,
  0x1e66_001e66_000053_00030c_000307, 0x1e67_001e67_000073_00030c_000307, 0x1e68_001e68_000053_000323_000307,
  0x1e69_001e69_000073_000323_000307, 0x1e6a_001e6a_000054_000307, 0x1e6b_001e6b_000074_000307,
  0x1e6c_001e6c_000054_000323, 0x1e6d_001e6d_000074_000323, 0x1e6e_001e6e_000054_000331, 0x1e6f_001e6f_000074_000331,
  0x1e70_001e70_000054_00032d, 0x1e71_001e71_000074_00032d, 0x1e72_001e72_000055_000324, 0x1e73_001e73_000075_000324,
  0x1e74_001e74_000055_000330, 0x1e75_001e75_000075_000330, 0x1e76_001e76_000055_00032d, 0x1e77_001e77_000075_00032d,
  0x1e78_001e78_000055_000303_000301, 0x1e79_001e79_000075_000303_000301, 0x1e7a_001e7a_000055_000304_000308,
  0x1e7b_001e7b_000075_000304_000308, 0x1e7c_001e7c_000056_000303, 0x1e7d_001e7d_000076_000303,
  0x1e7e_001e7e_000056_000323, 0x1e7f_001e7f_000076_000323, 0x1e80_001e80_000057_000300, 0x1e81_001e81_000077_000300,
  0x1e82_001e82_000057_000301, 0x1e83_001e83_000077_000301, 0x1e84_001e84_000057_000308, 0x1e85_001e85_000077_000308,
  0x1e86_001e86_000057_000307, 0x1e87_001e87_000077_000307, 0x1e88_001e88_000057_000323, 0x1e89_001e89_000077_000323,
  0x1e8a_001e8a_000058_000307, 0x1e8b_001e8b_000078_000307, 0x1e8c_001e8c_000058_000308, 0x1e8d_001e8d_000078_000308,
  0x1e8e_001e8e_000059_000307, 0x1e8f_001e8f_000079_000307, 0x1e90_001e90_00005a_000302, 0x1e91_001e91_00007a_000302,
  0x1e92_001e92_00005a_000323, 0x1e93_001e93_00007a_000323, 0x1e94_001e94_00005a_000331, 0x1e95_001e95_00007a_000331,
  0x1e96_001e96_000068_000331, 0x1e97_001e97_000074_000308, 0x1e98_001e98_000077_00030a, 0x1e99_001e99_000079_00030a,
  0x1e9b_001e9b_00017f_000307, 0x1ea0_001ea0_000041_000323, 0x1ea1_001ea1_000061_000323, 0x1ea2_001ea2_000041_000309,
  0x1ea3_001ea3_000061_000309, 0x1ea4_001ea4_000041_000302_000301, 0x1ea5_001ea5_000061_000302_000301,
  0x1ea6_001ea6_000041_000302_000300, 0x1ea7_001ea7_000061_000302_000300, 0x1ea8_001ea8_000041_000302_000309,
  0x1ea9_001ea9_000061_000302_000309, 0x1eaa_001eaa_000041_000302_000303, 0x1eab_001eab_000061_000302_000303,
  0x1eac_001eac_000041_000323_000302, 0x1ead_001ead_000061_000323_000302, 0x1eae_001eae_000041_000306_000301,
  0x1eaf_001eaf_000061_000306_000301, 0x1eb0_001eb0_000041_000306_000300, 0x1eb1_001eb1_000061_000306_000300,
  0x1eb2_001eb2_000041_000306_000309, 0x1eb3_001eb3_000061_000306_000309, 0x1eb4_001eb4_000041_000306_000303,
  0x1eb5_001eb5_000061_000306_000303, 0x1eb6_001eb6_000041_000323_000306, 0x1eb7_001eb7_000061_000323_000306,
  0x1eb8_001eb8_000045_000323, 0x1eb9_001eb9_000065_000323, 0x1eba_001eba_000045_000309, 0x1ebb_001ebb_000065_000309,
  0x1ebc_001ebc_000045_000303, 0x1ebd_001ebd_000065_000303, 0x1ebe_001ebe_000045_000302_000301,
  0x1ebf_001ebf_000065_000302_000301, 0x1ec0_001ec0_000045_000302_000300, 0x1ec1_001ec1_000065_000302_000300,
  0x1ec2_001ec2_000045_000302_000309, 0x1ec3_001ec3_000065_000302_000309, 0x1ec4_001ec4_000045_000302_000303,
  0x1ec5_001ec5_000065_000302_000303, 0x1ec6_001ec6_000045_000323_000302, 0x1ec7_001ec7_000065_000323_000302,
  0x1ec8_001ec8_000049_000309, 0x1ec9_001ec9_000069_000309, 0x1eca_001eca_000049_000323, 0x1ecb_001ecb_000069_000323,
  0x1ecc_001ecc_00004f_000323, 0x1ecd_001ecd_00006f_000323, 0x1ece_001ece_00004f_000309, 0x1ecf_001ecf_00006f_000309,
  0x1ed0_001ed0_00004f_000302_000301, 0x1ed1_001ed1_00006f_000302_000301, 0x1ed2_001ed2_00004f_000302_000300,
  0x1ed3_001ed3_00006f_000302_000300, 0x1ed4_001ed4_00004f_000302_000309, 0x1ed5_001ed5_00006f_000302_000309,
  0x1ed6_001ed6_00004f_000302_000303, 0x1ed7_001ed7_00006f_000302_000303, 0x1ed8_001ed8_00004f_000323_000302,
  0x1ed9_001ed9_00006f_000323_000302, 0x1eda_001eda_00004f_00031b_000301, 0x1edb_001edb_00006f_00031b_000301,
  0x1edc_001edc_00004f_00031b_000300, 0x1edd_001edd_00006f_00031b_000300, 0x1ede_001ede_00004f_00031b_000309,
  0x1edf_001edf_00006f_00031b_000309, 0x1ee0_001ee0_00004f_00031b_000303, 0x1ee1_001ee1_00006f_00031b_000303,
  0x1ee2_001ee2_00004f_00031b_000323, 0x1ee3_001ee3_00006f_00031b_000323, 0x1ee4_001ee4_000055_000323,
  0x1ee5_001ee5_000075_000323, 0x1ee6_001ee6_000055_000309, 0x1ee7_001ee7_000075_000309,
  0x1ee8_001ee8_000055_00031b_000301, 0x1ee9_001ee9_000075_00031b_000301, 0x1eea_001eea_000055_00031b_000300,
  0x1eeb_001eeb_000075_00031b_000300, 0x1eec_001eec_000055_00031b_000309, 0x1eed_001eed_000075_00031b_000309,
  0x1eee_001eee_000055_00031b_000303, 0x1eef_001eef_000075_00031b_000303, 0x1ef0_001ef0_000055_00031b_000323,
  0x1ef1_001ef1_000075_00031b_000323, 0x1ef2_001ef2_000059_000300, 0x1ef3_001ef3_000079_000300,
  0x1ef4_001ef4_000059_000323, 0x1ef5_001ef5_000079_000323, 0x1ef6_001ef6_000059_000309, 0x1ef7_001ef7_000079_000309,
  0x1ef8_001ef8_000059_000303, 0x1ef9_001ef9_000079_000303, 0x1f00_001f00_0003b1_000313, 0x1f01_001f01_0003b1_000314,
  0x1f02_001f02_0003b1_000313_000300, 0x1f03_001f03_0003b1_000314_000300, 0x1f04_001f04_0003b1_000313_000301,
  0x1f05_001f05_0003b1_000314_000301, 0x1f06_001f06_0003b1_000313_000342, 0x1f07_001f07_0003b1_000314_000342,
  0x1f08_001f08_000391_000313, 0x1f09_001f09_000391_000314, 0x1f0a_001f0a_000391_000313_000300,
  0x1f0b_001f0b_000391_000314_000300, 0x1f0c_001f0c_000391_000313_000301, 0x1f0d_001f0d_000391_000314_000301,
  0x1f0e_001f0e_000391_000313_000342, 0x1f0f_001f0f_000391_000314_000342, 0x1f10_001f10_0003b5_000313,
  0x1f11_001f11_0003b5_000314, 0x1f12_001f12_0003b5_000313_000300, 0x1f13_001f13_0003b5_000314_000300,
  0x1f14_001f14_0003b5_000313_000301, 0x1f15_001f15_0003b5_000314_000301, 0x1f18_001f18_000395_000313,
  0x1f19_001f19_000395_000314, 0x1f1a_001f1a_000395_000313_000300, 0x1f1b_001f1b_000395_000314_000300,
  0x1f1c_001f1c_000395_000313_000301, 0x1f1d_001f1d_000395_000314_000301, 0x1f20_001f20_0003b7_000313,
  0x1f21_001f21_0003b7_000314, 0x1f22_001f22_0003b7_000313_000300, 0x1f23_001f23_0003b7_000314_000300,
  0x1f24_001f24_0003b7_000313_000301, 0x1f25_001f25_0003b7_000314_000301, 0x1f26_001f26_0003b7_000313_000342,
  0x1f27_001f27_0003b7_000314_000342, 0x1f28_001f28_000397_000313, 0x1f29_001f29_000397_000314,
  0x1f2a_001f2a_000397_000313_000300, 0x1f2b_001f2b_000397_000314_000300, 0x1f2c_001f2c_000397_000313_000301,
  0x1f2d_001f2d_000397_000314_000301, 0x1f2e_001f2e_000397_000313_000342, 0x1f2f_001f2f_000397_000314_000342,
  0x1f30_001f30_0003b9_000313, 0x1f31_001f31_0003b9_000314, 0x1f32_001f32_0003b9_000313_000300,
  0x1f33_001f33_0003b9_000314_000300, 0x1f34_001f34_0003b9_000313_000301, 0x1f35_001f35_0003b9_000314_000301,
  0x1f36_001f36_0003b9_000313_000342, 0x1f37_001f37_0003b9_000314_000342, 0x1f38_001f38_000399_000313,
  0x1f39_001f39_000399_000314, 0x1f3a_001f3a_000399_000313_000300, 0x1f3b_001f3b_000399_000314_000300,
  0x1f3c_001f3c_000399_000313_000301, 0x1f3d_001f3d_000399_000314_000301, 0x1f3e_001f3e_000399_000313_000342,
  0x1f3f_001f3f_000399_000314_000342, 0x1f40_001f40_0003bf_000313, 0x1f41_001f41_0003bf_000314,
  0x1f42_001f42_0003bf_000313_000300, 0x1f43_001f43_0003bf_000314_000300, 0x1f44_001f44_0003bf_000313_000301,
  0x1f45_001f45_0003bf_000314_000301, 0x1f48_001f48_00039f_000313, 0x1f49_001f49_00039f_000314,
  0x1f4a_001f4a_00039f_000313_000300, 0x1f4b_001f4b_00039f_000314_000300, 0x1f4c_001f4c_00039f_000313_000301,
  0x1f4d_001f4d_00039f_000314_000301, 0x1f50_001f50_0003c5_000313, 0x1f51_001f51_0003c5_000314,
  0x1f52_001f52_0003c5_000313_000300, 0x1f53_001f53_0003c5_000314_000300, 0x1f54_001f54_0003c5_000313_000301,
  0x1f55_001f55_0003c5_000314_000301, 0x1f56_001f56_0003c5_000313_000342, 0x1f57_001f57_0003c5_000314_000342,
  0x1f59_001f59_0003a5_000314, 0x1f5b_001f5b_0003a5_000314_000300, 0x1f5d_001f5d_0003a5_000314_000301,
  0x1f5f_001f5f_0003a5_000314_000342, 0x1f60_001f60_0003c9_000313, 0x1f61_001f61_0003c9_000314,
  0x1f62_001f62_0003c9_000313_000300, 0x1f63_001f63_0003c9_000314_000300, 0x1f64_001f64_0003c9_000313_000301,
  0x1f65_001f65_0003c9_000314_000301, 0x1f66_001f66_0003c9_000313_000342, 0x1f67_001f67_0003c9_000314_000342,
  0x1f68_001f68_0003a9_000313, 0x1f69_001f69_0003a9_000314, 0x1f6a_001f6a_0003a9_000313_000300,
  0x1f6b_001f6b_0003a9_000314_000300, 0x1f6c_001f6c_0003a9_000313_000301, 0x1f6d_001f6d_0003a9_000314_000301,
  0x1f6e_001f6e_0003a9_000313_000342, 0x1f6f_001f6f_0003a9_000314_000342, 0x1f70_001f70_0003b1_000300,
  0x1f71_001f71_0003b1_000301, 0x1f72_001f72_0003b5_000300, 0x1f73_001f73_0003b5_000301, 0x1f74_001f74_0003b7_000300,
  0x1f75_001f75_0003b7_000301, 0x1f76_001f76_0003b9_000300, 0x1f77_001f77_0003b9_000301, 0x1f78_001f78_0003bf_000300,
  0x1f79_001f79_0003bf_000301, 0x1f7a_001f7a_0003c5_000300, 0x1f7b_001f7b_0003c5_000301, 0x1f7c_001f7c_0003c9_000300,
  0x1f7d_001f7d_0003c9_000301, 0x1f80_001f80_0003b1_000313_000345, 0x1f81_001f81_0003b1_000314_000345,
  0x1f82_001f82_0003b1_000313_000300_000345, 0x1f83_001f83_0003b1_000314_000300_000345,
  0x1f84_001f84_0003b1_000313_000301_000345, 0x1f85_001f85_0003b1_000314_000301_000345,
  0x1f86_001f86_0003b1_000313_000342_000345, 0x1f87_001f87_0003b1_000314_000342_000345,
  0x1f88_001f88_000391_000313_000345, 0x1f89_001f89_000391_000314_000345, 0x1f8a_001f8a_000391_000313_000300_000345,
  0x1f8b_001f8b_000391_000314_000300_000345, 0x1f8c_001f8c_000391_000313_000301_000345,
  0x1f8d_001f8d_000391_000314_000301_000345, 0x1f8e_001f8e_000391_000313_000342_000345,
  0x1f8f_001f8f_000391_000314_000342_000345, 0x1f90_001f90_0003b7_000313_000345, 0x1f91_001f91_0003b7_000314_000345,
  0x1f92_001f92_0003b7_000313_000300_000345, 0x1f93_001f93_0003b7_000314_000300_000345,
  0x1f94_001f94_0003b7_000313_000301_000345, 0x1f95_001f95_0003b7_000314_000301_000345,
  0x1f96_001f96_0003b7_000313_000342_000345, 0x1f97_001f97_0003b7_000314_000342_000345,
  0x1f98_001f98_000397_000313_000345, 0x1f99_001f99_000397_000314_000345, 0x1f9a_001f9a_000397_000313_000300_000345,
  0x1f9b_001f9b_000397_000314_000300_000345, 0x1f9c_001f9c_000397_000313_000301_000345,
  0x1f9d_001f9d_000397_000314_000301_000345, 0x1f9e_001f9e_000397_000313_000342_000345,
  0x1f9f_001f9f_000397_000314_000342_000345, 0x1fa0_001fa0_0003c9_000313_000345, 0x1fa1_001fa1_0003c9_000314_000345,
  0x1fa2_001fa2_0003c9_000313_000300_000345, 0x1fa3_001fa3_0003c9_000314_000300_000345,
  0x1fa4_001fa4_0003c9_000313_000301_000345, 0x1fa5_001fa5_0003c9_000314_000301_000345,
  0x1fa6_001fa6_0003c9_000313_000342_000345, 0x1fa7_001fa7_0003c9_000314_000342_000345,
  0x1fa8_001fa8_0003a9_000313_000345, 0x1fa9_001fa9_0003a9_000314_000345, 0x1faa_001faa_0003a9_000313_000300_000345,
  0x1fab_001fab_0003a9_000314_000300_000345, 0x1fac_001fac_0003a9_000313_000301_000345,
  0x1fad_001fad_0003a9_000314_000301_000345, 0x1fae_001fae_0003a9_000313_000342_000345,
  0x1faf_001faf_0003a9_000314_000342_000345, 0x1fb0_001fb0_0003b1_000306, 0x1fb1_001fb1_0003b1_000304,
  0x1fb2_001fb2_0003b1_000300_000345, 0x1fb3_001fb3_0003b1_000345, 0x1fb4_001fb4_0003b1_000301_000345,
  0x1fb6_001fb6_0003b1_000342, 0x1fb7_001fb7_0003b1_000342_000345, 0x1fb8_001fb8_000391_000306,
  0x1fb9_001fb9_000391_000304, 0x1fba_001fba_000391_000300, 0x1fbb_001fbb_000391_000301, 0x1fbc_001fbc_000391_000345,
  0x1fbe_001fbe_0003b9, 0x1fc1_001fc1_0000a8_000342, 0x1fc2_001fc2_0003b7_000300_000345, 0x1fc3_001fc3_0003b7_000345,
  0x1fc4_001fc4_0003b7_000301_000345, 0x1fc6_001fc6_0003b7_000342, 0x1fc7_001fc7_0003b7_000342_000345,
  0x1fc8_001fc8_000395_000300, 0x1fc9_001fc9_000395_000301, 0x1fca_001fca_000397_000300, 0x1fcb_001fcb_000397_000301,
  0x1fcc_001fcc_000397_000345, 0x1fcd_001fcd_001fbf_000300, 0x1fce_001fce_001fbf_000301, 0x1fcf_001fcf_001fbf_000342,
  0x1fd0_001fd0_0003b9_000306, 0x1fd1_001fd1_0003b9_000304, 0x1fd2_001fd2_0003b9_000308_000300,
  0x1fd3_001fd3_0003b9_000308_000301, 0x1fd6_001fd6_0003b9_000342, 0x1fd7_001fd7_0003b9_000308_000342,
  0x1fd8_001fd8_000399_000306, 0x1fd9_001fd9_000399_000304, 0x1fda_001fda_000399_000300, 0x1fdb_001fdb_000399_000301,
  0x1fdd_001fdd_001ffe_000300, 0x1fde_001fde_001ffe_000301, 0x1fdf_001fdf_001ffe_000342, 0x1fe0_001fe0_0003c5_000306,
  0x1fe1_001fe1_0003c5_000304, 0x1fe2_001fe2_0003c5_000308_000300, 0x1fe3_001fe3_0003c5_000308_000301,
  0x1fe4_001fe4_0003c1_000313, 0x1fe5_001fe5_0003c1_000314, 0x1fe6_001fe6_0003c5_000342,
  0x1fe7_001fe7_0003c5_000308_000342, 0x1fe8_001fe8_0003a5_000306, 0x1fe9_001fe9_0003a5_000304,
  0x1fea_001fea_0003a5_000300, 0x1feb_001feb_0003a5_000301, 0x1fec_001fec_0003a1_000314, 0x1fed_001fed_0000a8_000300,
  0x1fee_001fee_0000a8_000301, 0x1fef_001fef_000060, 0x1ff2_001ff2_0003c9_000300_000345, 0x1ff3_001ff3_0003c9_000345,
  0x1ff4_001ff4_0003c9_000301_000345, 0x1ff6_001ff6_0003c9_000342, 0x1ff7_001ff7_0003c9_000342_000345,
  0x1ff8_001ff8_00039f_000300, 0x1ff9_001ff9_00039f_000301, 0x1ffa_001ffa_0003a9_000300, 0x1ffb_001ffb_0003a9_000301,
  0x1ffc_001ffc_0003a9_000345, 0x1ffd_001ffd_0000b4, 0x2000_002000_002002, 0x2001_002001_002003,
  0x2126_002126_0003a9, 0x212a_00212a_00004b, 0x212b_00212b_000041_00030a, 0x219a_00219a_002190_000338,
  0x219b_00219b_002192_000338, 0x21ae_0021ae_002194_000338, 0x21cd_0021cd_0021d0_000338, 0x21ce_0021ce_0021d4_000338,
  0x21cf_0021cf_0021d2_000338, 0x2204_002204_002203_000338, 0x2209_002209_002208_000338, 0x220c_00220c_00220b_000338,
  0x2224_002224_002223_000338, 0x2226_002226_002225_000338, 0x2241_002241_00223c_000338, 0x2244_002244_002243_000338,
  0x2247_002247_002245_000338, 0x2249_002249_002248_000338, 0x2260_002260_00003d_000338, 0x2262_002262_002261_000338,
  0x226d_00226d_00224d_000338, 0x226e_00226e_00003c_000338, 0x226f_00226f_00003e_000338, 0x2270_002270_002264_000338,
  0x2271_002271_002265_000338, 0x2274_002274_002272_000338, 0x2275_002275_002273_000338, 0x2278_002278_002276_000338,
  0x2279_002279_002277_000338, 0x2280_002280_00227a_000338, 0x2281_002281_00227b_000338, 0x2284_002284_002282_000338,
  0x2285_002285_002283_000338, 0x2288_002288_002286_000338, 0x2289_002289_002287_000338, 0x22ac_0022ac_0022a2_000338,
  0x22ad_0022ad_0022a8_000338, 0x22ae_0022ae_0022a9_000338, 0x22af_0022af_0022ab_000338, 0x22e0_0022e0_00227c_000338,
  0x22e1_0022e1_00227d_000338, 0x22e2_0022e2_002291_000338, 0x22e3_0022e3_002292_000338, 0x22ea_0022ea_0022b2_000338,
  0x22eb_0022eb_0022b3_000338, 0x22ec_0022ec_0022b4_000338, 0x22ed_0022ed_0022b5_000338, 0x2329_002329_003008,
  0x232a_00232a_003009, 0x2adc_002adc_002add_000338, 0x304c_00304c_00304b_003099, 0x304e_00304e_00304d_003099,
  0x3050_003050_00304f_003099, 0x3052_003052_003051_003099, 0x3054_003054_003053_003099, 0x3056_003056_003055_003099,
  0x3058_003058_003057_003099, 0x305a_00305a_003059_003099, 0x305c_00305c_00305b_003099, 0x305e_00305e_00305d_003099,
  0x3060_003060_00305f_003099, 0x3062_003062_003061_003099, 0x3065_003065_003064_003099, 0x3067_003067_003066_003099,
  0x3069_003069_003068_003099, 0x3070_003070_00306f_003099, 0x3071_003071_00306f_00309a, 0x3073_003073_003072_003099,
  0x3074_003074_003072_00309a, 0x3076_003076_003075_003099, 0x3077_003077_003075_00309a, 0x3079_003079_003078_003099,
  0x307a_00307a_003078_00309a, 0x307c_00307c_00307b_003099, 0x307d_00307d_00307b_00309a, 0x3094_003094_003046_003099,
  0x309e_00309e_00309d_003099, 0x30ac_0030ac_0030ab_003099, 0x30ae_0030ae_0030ad_003099, 0x30b0_0030b0_0030af_003099,
  0x30b2_0030b2_0030b1_003099, 0x30b4_0030b4_0030b3_003099, 0x30b6_0030b6_0030b5_003099, 0x30b8_0030b8_0030b7_003099,
  0x30ba_0030ba_0030b9_003099, 0x30bc_0030bc_0030bb_003099, 0x30be_0030be_0030bd_003099, 0x30c0_0030c0_0030bf_003099,
  0x30c2_0030c2_0030c1_003099, 0x30c5_0030c5_0030c4_003099, 0x30c7_0030c7_0030c6_003099, 0x30c9_0030c9_0030c8_003099,
  0x30d0_0030d0_0030cf_003099, 0x30d1_0030d1_0030cf_00309a, 0x30d3_0030d3_0030d2_003099, 0x30d4_0030d4_0030d2_00309a,
  0x30d6_0030d6_0030d5_003099, 0x30d7_0030d7_0030d5_00309a, 0x30d9_0030d9_0030d8_003099, 0x30da_0030da_0030d8_00309a,
  0x30dc_0030dc_0030db_003099, 0x30dd_0030dd_0030db_00309a, 0x30f4_0030f4_0030a6_003099, 0x30f7_0030f7_0030ef_003099,
  0x30f8_0030f8_0030f0_003099, 0x30f9_0030f9_0030f1_003099, 0x30fa_0030fa_0030f2_003099, 0x30fe_0030fe_0030fd_003099,
  0xf900_00f900_008c48, 0xf901_00f901_0066f4, 0xf902_00f902_008eca, 0xf903_00f903_008cc8, 0xf904_00f904_006ed1,
  0xf905_00f905_004e32, 0xf906_00f906_0053e5, 0xf907_00f907_009f9c, 0xf908_00f908_009f9c, 0xf909_00f909_005951,
  0xf90a_00f90a_0091d1, 0xf90b_00f90b_005587, 0xf90c_00f90c_005948, 0xf90d_00f90d_0061f6, 0xf90e_00f90e_007669,
  0xf90f_00f90f_007f85, 0xf910_00f910_00863f, 0xf911_00f911_0087ba, 0xf912_00f912_0088f8, 0xf913_00f913_00908f,
  0xf914_00f914_006a02, 0xf915_00f915_006d1b, 0xf916_00f916_0070d9, 0xf917_00f917_0073de, 0xf918_00f918_00843d,
  0xf919_00f919_00916a, 0xf91a_00f91a_0099f1, 0xf91b_00f91b_004e82, 0xf91c_00f91c_005375, 0xf91d_00f91d_006b04,
  0xf91e_00f91e_00721b, 0xf91f_00f91f_00862d, 0xf920_00f920_009e1e, 0xf921_00f921_005d50, 0xf922_00f922_006feb,
  0xf923_00f923_0085cd, 0xf924_00f924_008964, 0xf925_00f925_0062c9, 0xf926_00f926_0081d8, 0xf927_00f927_00881f,
  0xf928_00f928_005eca, 0xf929_00f929_006717, 0xf92a_00f92a_006d6a, 0xf92b_00f92b_0072fc, 0xf92c_00f92c_0090ce,
  0xf92d_00f92d_004f86, 0xf92e_00f92e_0051b7, 0xf92f_00f92f_0052de, 0xf930_00f930_0064c4, 0xf931_00f931_006ad3,
  0xf932_00f932_007210, 0xf933_00f933_0076e7, 0xf934_00f934_008001, 0xf935_00f935_008606, 0xf936_00f936_00865c,
  0xf937_00f937_008def, 0xf938_00f938_009732, 0xf939_00f939_009b6f, 0xf93a_00f93a_009dfa, 0xf93b_00f93b_00788c,
  0xf93c_00f93c_00797f, 0xf93d_00f93d_007da0, 0xf93e_00f93e_0083c9, 0xf93f_00f93f_009304, 0xf940_00f940_009e7f,
  0xf941_00f941_008ad6, 0xf942_00f942_0058df, 0xf943_00f943_005f04, 0xf944_00f944_007c60, 0xf945_00f945_00807e,
  0xf946_00f946_007262, 0xf947_00f947_0078ca, 0xf948_00f948_008cc2, 0xf949_00f949_0096f7, 0xf94a_00f94a_0058d8,
  0xf94b_00f94b_005c62, 0xf94c_00f94c_006a13, 0xf94d_00f94d_006dda, 0xf94e_00f94e_006f0f, 0xf94f_00f94f_007d2f,
  0xf950_00f950_007e37, 0xf951_00f951_00964b, 0xf952_00f952_0052d2, 0xf953_00f953_00808b, 0xf954_00f954_0051dc,
  0xf955_00f955_0051cc, 0xf956_00f956_007a1c, 0xf957_00f957_007dbe, 0xf958_00f958_0083f1, 0xf959_00f959_009675,
  0xf95a_00f95a_008b80, 0xf95b_00f95b_0062cf, 0xf95c_00f95c_006a02, 0xf95d_00f95d_008afe, 0xf95e_00f95e_004e39,
  0xf95f_00f95f_005be7, 0xf960_00f960_006012, 0xf961_00f961_007387, 0xf962_00f962_007570, 0xf963_00f963_005317,
  0xf964_00f964_0078fb, 0xf965_00f965_004fbf, 0xf966_00f966_005fa9, 0xf967_00f967_004e0d, 0xf968_00f968_006ccc,
  0xf969_00f969_006578, 0xf96a_00f96a_007d22, 0xf96b_00f96b_0053c3, 0xf96c_00f96c_00585e, 0xf96d_00f96d_007701,
  0xf96e_00f96e_008449, 0xf96f_00f96f_008aaa, 0xf970_00f970_006bba, 0xf971_00f971_008fb0, 0xf972_00f972_006c88,
  0xf973_00f973_0062fe, 0xf974_00f974_0082e5, 0xf975_00f975_0063a0, 0xf976_00f976_007565, 0xf977_00f977_004eae,
  0xf978_00f978_005169, 0xf979_00f979_0051c9, 0xf97a_00f97a_006881, 0xf97b_00f97b_007ce7, 0xf97c_00f97c_00826f,
  0xf97d_00f97d_008ad2, 0xf97e_00f97e_0091cf, 0xf97f_00f97f_0052f5, 0xf980_00f980_005442, 0xf981_00f981_005973,
  0xf982_00f982_005eec, 0xf983_00f983_0065c5, 0xf984_00f984_006ffe, 0xf985_00f985_00792a, 0xf986_00f986_0095ad,
  0xf987_00f987_009a6a, 0xf988_00f988_009e97, 0xf989_00f989_009ece, 0xf98a_00f98a_00529b, 0xf98b_00f98b_0066c6,
  0xf98c_00f98c_006b77, 0xf98d_00f98d_008f62, 0xf98e_00f98e_005e74, 0xf98f_00f98f_006190, 0xf990_00f990_006200,
  0xf991_00f991_00649a, 0xf992_00f992_006f23, 0xf993_00f993_007149, 0xf994_00f994_007489, 0xf995_00f995_0079ca,
  0xf996_00f996_007df4, 0xf997_00f997_00806f, 0xf998_00f998_008f26, 0xf999_00f999_0084ee, 0xf99a_00f99a_009023,
  0xf99b_00f99b_00934a, 0xf99c_00f99c_005217, 0xf99d_00f99d_0052a3, 0xf99e_00f99e_0054bd, 0xf99f_00f99f_0070c8,
  0xf9a0_00f9a0_0088c2, 0xf9a1_00f9a1_008aaa, 0xf9a2_00f9a2_005ec9, 0xf9a3_00f9a3_005ff5, 0xf9a4_00f9a4_00637b,
  0xf9a5_00f9a5_006bae, 0xf9a6_00f9a6_007c3e, 0xf9a7_00f9a7_007375, 0xf9a8_00f9a8_004ee4, 0xf9a9_00f9a9_0056f9,
  0xf9aa_00f9aa_005be7, 0xf9ab_00f9ab_005dba, 0xf9ac_00f9ac_00601c, 0xf9ad_00f9ad_0073b2, 0xf9ae_00f9ae_007469,
  0xf9af_00f9af_007f9a, 0xf9b0_00f9b0_008046, 0xf9b1_00f9b1_009234, 0xf9b2_00f9b2_0096f6, 0xf9b3_00f9b3_009748,
  0xf9b4_00f9b4_009818, 0xf9b5_00f9b5_004f8b, 0xf9b6_00f9b6_0079ae, 0xf9b7_00f9b7_0091b4, 0xf9b8_00f9b8_0096b8,
  0xf9b9_00f9b9_0060e1, 0xf9ba_00f9ba_004e86, 0xf9bb_00f9bb_0050da, 0xf9bc_00f9bc_005bee, 0xf9bd_00f9bd_005c3f,
  0xf9be_00f9be_006599, 0xf9bf_00f9bf_006a02, 0xf9c0_00f9c0_0071ce, 0xf9c1_00f9c1_007642, 0xf9c2_00f9c2_0084fc,
  0xf9c3_00f9c3_00907c, 0xf9c4_00f9c4_009f8d, 0xf9c5_00f9c5_006688, 0xf9c6_00f9c6_00962e, 0xf9c7_00f9c7_005289,
  0xf9c8_00f9c8_00677b, 0xf9c9_00f9c9_0067f3, 0xf9ca_00f9ca_006d41, 0xf9cb_00f9cb_006e9c, 0xf9cc_00f9cc_007409,
  0xf9cd_00f9cd_007559, 0xf9ce_00f9ce_00786b, 0xf9cf_00f9cf_007d10, 0xf9d0_00f9d0_00985e, 0xf9d1_00f9d1_00516d,
  0xf9d2_00f9d2_00622e, 0xf9d3_00f9d3_009678, 0xf9d4_00f9d4_00502b, 0xf9d5_00f9d5_005d19, 0xf9d6_00f9d6_006dea,
  0xf9d7_00f9d7_008f2a, 0xf9d8_00f9d8_005f8b, 0xf9d9_00f9d9_006144, 0xf9da_00f9da_006817, 0xf9db_00f9db_007387,
  0xf9dc_00f9dc_009686, 0xf9dd_00f9dd_005229, 0xf9de_00f9de_00540f, 0xf9df_00f9df_005c65, 0xf9e0_00f9e0_006613,
  0xf9e1_00f9e1_00674e, 0xf9e2_00f9e2_0068a8, 0xf9e3_00f9e3_006ce5, 0xf9e4_00f9e4_007406, 0xf9e5_00f9e5_0075e2,
  0xf9e6_00f9e6_007f79, 0xf9e7_00f9e7_0088cf, 0xf9e8_00f9e8_0088e1, 0xf9e9_00f9e9_0091cc, 0xf9ea_00f9ea_0096e2,
  0xf9eb_00f9eb_00533f, 0xf9ec_00f9ec_006eba, 0xf9ed_00f9ed_00541d, 0xf9ee_00f9ee_0071d0, 0xf9ef_00f9ef_007498,
  0xf9f0_00f9f0_0085fa, 0xf9f1_00f9f1_0096a3, 0xf9f2_00f9f2_009c57, 0xf9f3_00f9f3_009e9f, 0xf9f4_00f9f4_006797,
  0xf9f5_00f9f5_006dcb, 0xf9f6_00f9f6_0081e8, 0xf9f7_00f9f7_007acb, 0xf9f8_00f9f8_007b20, 0xf9f9_00f9f9_007c92,
  0xf9fa_00f9fa_0072c0, 0xf9fb_00f9fb_007099, 0xf9fc_00f9fc_008b58, 0xf9fd_00f9fd_004ec0, 0xf9fe_00f9fe_008336,
  0xf9ff_00f9ff_00523a, 0xfa00_00fa00_005207, 0xfa01_00fa01_005ea6, 0xfa02_00fa02_0062d3, 0xfa03_00fa03_007cd6,
  0xfa04_00fa04_005b85, 0xfa05_00fa05_006d1e, 0xfa06_00fa06_0066b4, 0xfa07_00fa07_008f3b, 0xfa08_00fa08_00884c,
  0xfa09_00fa09_00964d, 0xfa0a_00fa0a_00898b, 0xfa0b_00fa0b_005ed3, 0xfa0c_00fa0c_005140, 0xfa0d_00fa0d_0055c0,
  0xfa10_00fa10_00585a, 0xfa12_00fa12_006674, 0xfa15_00fa15_0051de, 0xfa16_00fa16_00732a, 0xfa17_00fa17_0076ca,
  0xfa18_00fa18_00793c, 0xfa19_00fa19_00795e, 0xfa1a_00fa1a_007965, 0xfa1b_00fa1b_00798f, 0xfa1c_00fa1c_009756,
  0xfa1d_00fa1d_007cbe, 0xfa1e_00fa1e_007fbd, 0xfa20_00fa20_008612, 0xfa22_00fa22_008af8, 0xfa25_00fa25_009038,
  0xfa26_00fa26_0090fd, 0xfa2a_00fa2a_0098ef, 0xfa2b_00fa2b_0098fc, 0xfa2c_00fa2c_009928, 0xfa2d_00fa2d_009db4,
  0xfa2e_00fa2e_0090de, 0xfa2f_00fa2f_0096b7, 0xfa30_00fa30_004fae, 0xfa31_00fa31_0050e7, 0xfa32_00fa32_00514d,
  0xfa33_00fa33_0052c9, 0xfa34_00fa34_0052e4, 0xfa35_00fa35_005351, 0xfa36_00fa36_00559d, 0xfa37_00fa37_005606,
  0xfa38_00fa38_005668, 0xfa39_00fa39_005840, 0xfa3a_00fa3a_0058a8, 0xfa3b_00fa3b_005c64, 0xfa3c_00fa3c_005c6e,
  0xfa3d_00fa3d_006094, 0xfa3e_00fa3e_006168, 0xfa3f_00fa3f_00618e, 0xfa40_00fa40_0061f2, 0xfa41_00fa41_00654f,
  0xfa42_00fa42_0065e2, 0xfa43_00fa43_006691, 0xfa44_00fa44_006885, 0xfa45_00fa45_006d77, 0xfa46_00fa46_006e1a,
  0xfa47_00fa47_006f22, 0xfa48_00fa48_00716e, 0xfa49_00fa49_00722b, 0xfa4a_00fa4a_007422, 0xfa4b_00fa4b_007891,
  0xfa4c_00fa4c_00793e, 0xfa4d_00fa4d_007949, 0xfa4e_00fa4e_007948, 0xfa4f_00fa4f_007950, 0xfa50_00fa50_007956,
  0xfa51_00fa51_00795d, 0xfa52_00fa52_00798d, 0xfa53_00fa53_00798e, 0xfa54_00fa54_007a40, 0xfa55_00fa55_007a81,
  0xfa56_00fa56_007bc0, 0xfa57_00fa57_007df4, 0xfa58_00fa58_007e09, 0xfa59_00fa59_007e41, 0xfa5a_00fa5a_007f72,
  0xfa5b_00fa5b_008005, 0xfa5c_00fa5c_0081ed, 0xfa5d_00fa5d_008279, 0xfa5e_00fa5e_008279, 0xfa5f_00fa5f_008457,
  0xfa60_00fa60_008910, 0xfa61_00fa61_008996, 0xfa62_00fa62_008b01, 0xfa63_00fa63_008b39, 0xfa64_00fa64_008cd3,
  0xfa65_00fa65_008d08, 0xfa66_00fa66_008fb6, 0xfa67_00fa67_009038, 0xfa68_00fa68_0096e3, 0xfa69_00fa69_0097ff,
  0xfa6a_00fa6a_00983b, 0xfa6b_00fa6b_006075, 0xfa6c_00fa6c_0242ee, 0xfa6d_00fa6d_008218, 0xfa70_00fa70_004e26,
  0xfa71_00fa71_0051b5, 0xfa72_00fa72_005168, 0xfa73_00fa73_004f80, 0xfa74_00fa74_005145, 0xfa75_00fa75_005180,
  0xfa76_00fa76_0052c7, 0xfa77_00fa77_0052fa, 0xfa78_00fa78_00559d, 0xfa79_00fa79_005555, 0xfa7a_00fa7a_005599,
  0xfa7b_00fa7b_0055e2, 0xfa7c_00fa7c_00585a, 0xfa7d_00fa7d_0058b3, 0xfa7e_00fa7e_005944, 0xfa7f_00fa7f_005954,
  0xfa80_00fa80_005a62, 0xfa81_00fa81_005b28, 0xfa82_00fa82_005ed2, 0xfa83_00fa83_005ed9, 0xfa84_00fa84_005f69,
  0xfa85_00fa85_005fad, 0xfa86_00fa86_0060d8, 0xfa87_00fa87_00614e, 0xfa88_00fa88_006108, 0xfa89_00fa89_00618e,
  0xfa8a_00fa8a_006160, 0xfa8b_00fa8b_0061f2, 0xfa8c_00fa8c_006234, 0xfa8d_00fa8d_0063c4, 0xfa8e_00fa8e_00641c,
  0xfa8f_00fa8f_006452, 0xfa90_00fa90_006556, 0xfa91_00fa91_006674, 0xfa92_00fa92_006717, 0xfa93_00fa93_00671b,
  0xfa94_00fa94_006756, 0xfa95_00fa95_006b79, 0xfa96_00fa96_006bba, 0xfa97_00fa97_006d41, 0xfa98_00fa98_006edb,
  0xfa99_00fa99_006ecb, 0xfa9a_00fa9a_006f22, 0xfa9b_00fa9b_00701e, 0xfa9c_00fa9c_00716e, 0xfa9d_00fa9d_0077a7,
  0xfa9e_00fa9e_007235, 0xfa9f_00fa9f_0072af, 0xfaa0_00faa0_00732a, 0xfaa1_00faa1_007471, 0xfaa2_00faa2_007506,
  0xfaa3_00faa3_00753b, 0xfaa4_00faa4_00761d, 0xfaa5_00faa5_00761f, 0xfaa6_00faa6_0076ca, 0xfaa7_00faa7_0076db,
  0xfaa8_00faa8_0076f4, 0xfaa9_00faa9_00774a, 0xfaaa_00faaa_007740, 0xfaab_00faab_0078cc, 0xfaac_00faac_007ab1,
  0xfaad_00faad_007bc0, 0xfaae_00faae_007c7b, 0xfaaf_00faaf_007d5b, 0xfab0_00fab0_007df4, 0xfab1_00fab1_007f3e,
  0xfab2_00fab2_008005, 0xfab3_00fab3_008352, 0xfab4_00fab4_0083ef, 0xfab5_00fab5_008779, 0xfab6_00fab6_008941,
  0xfab7_00fab7_008986, 0xfab8_00fab8_008996, 0xfab9_00fab9_008abf, 0xfaba_00faba_008af8, 0xfabb_00fabb_008acb,
  0xfabc_00fabc_008b01, 0xfabd_00fabd_008afe, 0xfabe_00fabe_008aed, 0xfabf_00fabf_008b39, 0xfac0_00fac0_008b8a,
  0xfac1_00fac1_008d08, 0xfac2_00fac2_008f38, 0xfac3_00fac3_009072, 0xfac4_00fac4_009199, 0xfac5_00fac5_009276,
  0xfac6_00fac6_00967c, 0xfac7_00fac7_0096e3, 0xfac8_00fac8_009756, 0xfac9_00fac9_0097db, 0xfaca_00faca_0097ff,
  0xfacb_00facb_00980b, 0xfacc_00facc_00983b, 0xfacd_00facd_009b12, 0xface_00face_009f9c, 0xfacf_00facf_02284a,
  0xfad0_00fad0_022844, 0xfad1_00fad1_0233d5, 0xfad2_00fad2_003b9d, 0xfad3_00fad3_004018, 0xfad4_00fad4_004039,
  0xfad5_00fad5_025249, 0xfad6_00fad6_025cd0, 0xfad7_00fad7_027ed3, 0xfad8_00fad8_009f43, 0xfad9_00fad9_009f8e,
  0xfb1d_00fb1d_0005d9_0005b4, 0xfb1f_00fb1f_0005f2_0005b7, 0xfb2a_00fb2a_0005e9_0005c1, 0xfb2b_00fb2b_0005e9_0005c2,
  0xfb2c_00fb2c_0005e9_0005bc_0005c1, 0xfb2d_00fb2d_0005e9_0005bc_0005c2, 0xfb2e_00fb2e_0005d0_0005b7,
  0xfb2f_00fb2f_0005d0_0005b8, 0xfb30_00fb30_0005d0_0005bc, 0xfb31_00fb31_0005d1_0005bc, 0xfb32_00fb32_0005d2_0005bc,
  0xfb33_00fb33_0005d3_0005bc, 0xfb34_00fb34_0005d4_0005bc, 0xfb35_00fb35_0005d5_0005bc, 0xfb36_00fb36_0005d6_0005bc,
  0xfb38_00fb38_0005d8_0005bc, 0xfb39_00fb39_0005d9_0005bc, 0xfb3a_00fb3a_0005da_0005bc, 0xfb3b_00fb3b_0005db_0005bc,
  0xfb3c_00fb3c_0005dc_0005bc, 0xfb3e_00fb3e_0005de_0005bc, 0xfb40_00fb40_0005e0_0005bc, 0xfb41_00fb41_0005e1_0005bc,
  0xfb43_00fb43_0005e3_0005bc, 0xfb44_00fb44_0005e4_0005bc, 0xfb46_00fb46_0005e6_0005bc, 0xfb47_00fb47_0005e7_0005bc,
  0xfb48_00fb48_0005e8_0005bc, 0xfb49_00fb49_0005e9_0005bc, 0xfb4a_00fb4a_0005ea_0005bc, 0xfb4b_00fb4b_0005d5_0005b9,
  0xfb4c_00fb4c_0005d1_0005bf, 0xfb4d_00fb4d_0005db_0005bf, 0xfb4e_00fb4e_0005e4_0005bf,
  0x105c9_0105c9_0105d2_000307, 0x105e4_0105e4_0105da_000307, 0x1109a_01109a_011099_0110ba,
  0x1109c_01109c_01109b_0110ba, 0x110ab_0110ab_0110a5_0110ba, 0x1112e_01112e_011131_011127,
  0x1112f_01112f_011132_011127, 0x1134b_01134b_011347_01133e, 0x1134c_01134c_011347_011357,
  0x11383_011383_011382_0113c9, 0x11385_011385_011384_0113bb, 0x1138e_01138e_01138b_0113c2,
  0x11391_011391_011390_0113c9, 0x113c5_0113c5_0113c2_0113c2, 0x113c7_0113c7_0113c2_0113b8,
  0x113c8_0113c8_0113c2_0113c9, 0x114bb_0114bb_0114b9_0114ba, 0x114bc_0114bc_0114b9_0114b0,
  0x114be_0114be_0114b9_0114bd, 0x115ba_0115ba_0115b8_0115af, 0x115bb_0115bb_0115b9_0115af,
  0x11938_011938_011935_011930, 0x16121_016121_01611e_01611e, 0x16122_016122_01611e_016129,
  0x16123_016123_01611e_01611f, 0x16124_016124_016129_01611f, 0x16125_016125_01611e_016120,
  0x16126_016126_01611e_01611e_01611f, 0x16127_016127_01611e_016129_01611f, 0x16128_016128_01611e_01611e_016120,
  0x16d68_016d68_016d67_016d67, 0x16d69_016d69_016d63_016d67, 0x16d6a_016d6a_016d63_016d67_016d67,
  0x1d15e_01d15e_01d157_01d165, 0x1d15f_01d15f_01d158_01d165, 0x1d160_01d160_01d158_01d165_01d16e,
  0x1d161_01d161_01d158_01d165_01d16f, 0x1d162_01d162_01d158_01d165_01d170, 0x1d163_01d163_01d158_01d165_01d171,
  0x1d164_01d164_01d158_01d165_01d172, 0x1d1bb_01d1bb_01d1b9_01d165, 0x1d1bc_01d1bc_01d1ba_01d165,
  0x1d1bd_01d1bd_01d1b9_01d165_01d16e, 0x1d1be_01d1be_01d1ba_01d165_01d16e, 0x1d1bf_01d1bf_01d1b9_01d165_01d16f,
  0x1d1c0_01d1c0_01d1ba_01d165_01d16f, 0x2f800_02f800_004e3d, 0x2f801_02f801_004e38, 0x2f802_02f802_004e41,
  0x2f803_02f803_020122, 0x2f804_02f804_004f60, 0x2f805_02f805_004fae, 0x2f806_02f806_004fbb, 0x2f807_02f807_005002,
  0x2f808_02f808_00507a, 0x2f809_02f809_005099, 0x2f80a_02f80a_0050e7, 0x2f80b_02f80b_0050cf, 0x2f80c_02f80c_00349e,
  0x2f80d_02f80d_02063a, 0x2f80e_02f80e_00514d, 0x2f80f_02f80f_005154, 0x2f810_02f810_005164, 0x2f811_02f811_005177,
  0x2f812_02f812_02051c, 0x2f813_02f813_0034b9, 0x2f814_02f814_005167, 0x2f815_02f815_00518d, 0x2f816_02f816_02054b,
  0x2f817_02f817_005197, 0x2f818_02f818_0051a4, 0x2f819_02f819_004ecc, 0x2f81a_02f81a_0051ac, 0x2f81b_02f81b_0051b5,
  0x2f81c_02f81c_0291df, 0x2f81d_02f81d_0051f5, 0x2f81e_02f81e_005203, 0x2f81f_02f81f_0034df, 0x2f820_02f820_00523b,
  0x2f821_02f821_005246, 0x2f822_02f822_005272, 0x2f823_02f823_005277, 0x2f824_02f824_003515, 0x2f825_02f825_0052c7,
  0x2f826_02f826_0052c9, 0x2f827_02f827_0052e4, 0x2f828_02f828_0052fa, 0x2f829_02f829_005305, 0x2f82a_02f82a_005306,
  0x2f82b_02f82b_005317, 0x2f82c_02f82c_005349, 0x2f82d_02f82d_005351, 0x2f82e_02f82e_00535a, 0x2f82f_02f82f_005373,
  0x2f830_02f830_00537d, 0x2f831_02f831_00537f, 0x2f832_02f832_00537f, 0x2f833_02f833_00537f, 0x2f834_02f834_020a2c,
  0x2f835_02f835_007070, 0x2f836_02f836_0053ca, 0x2f837_02f837_0053df, 0x2f838_02f838_020b63, 0x2f839_02f839_0053eb,
  0x2f83a_02f83a_0053f1, 0x2f83b_02f83b_005406, 0x2f83c_02f83c_00549e, 0x2f83d_02f83d_005438, 0x2f83e_02f83e_005448,
  0x2f83f_02f83f_005468, 0x2f840_02f840_0054a2, 0x2f841_02f841_0054f6, 0x2f842_02f842_005510, 0x2f843_02f843_005553,
  0x2f844_02f844_005563, 0x2f845_02f845_005584, 0x2f846_02f846_005584, 0x2f847_02f847_005599, 0x2f848_02f848_0055ab,
  0x2f849_02f849_0055b3, 0x2f84a_02f84a_0055c2, 0x2f84b_02f84b_005716, 0x2f84c_02f84c_005606, 0x2f84d_02f84d_005717,
  0x2f84e_02f84e_005651, 0x2f84f_02f84f_005674, 0x2f850_02f850_005207, 0x2f851_02f851_0058ee, 0x2f852_02f852_0057ce,
  0x2f853_02f853_0057f4, 0x2f854_02f854_00580d, 0x2f855_02f855_00578b, 0x2f856_02f856_005832, 0x2f857_02f857_005831,
  0x2f858_02f858_0058ac, 0x2f859_02f859_0214e4, 0x2f85a_02f85a_0058f2, 0x2f85b_02f85b_0058f7, 0x2f85c_02f85c_005906,
  0x2f85d_02f85d_00591a, 0x2f85e_02f85e_005922, 0x2f85f_02f85f_005962, 0x2f860_02f860_0216a8, 0x2f861_02f861_0216ea,
  0x2f862_02f862_0059ec, 0x2f863_02f863_005a1b, 0x2f864_02f864_005a27, 0x2f865_02f865_0059d8, 0x2f866_02f866_005a66,
  0x2f867_02f867_0036ee, 0x2f868_02f868_0036fc, 0x2f869_02f869_005b08, 0x2f86a_02f86a_005b3e, 0x2f86b_02f86b_005b3e,
  0x2f86c_02f86c_0219c8, 0x2f86d_02f86d_005bc3, 0x2f86e_02f86e_005bd8, 0x2f86f_02f86f_005be7, 0x2f870_02f870_005bf3,
  0x2f871_02f871_021b18, 0x2f872_02f872_005bff, 0x2f873_02f873_005c06, 0x2f874_02f874_005f53, 0x2f875_02f875_005c22,
  0x2f876_02f876_003781, 0x2f877_02f877_005c60, 0x2f878_02f878_005c6e, 0x2f879_02f879_005cc0, 0x2f87a_02f87a_005c8d,
  0x2f87b_02f87b_021de4, 0x2f87c_02f87c_005d43, 0x2f87d_02f87d_021de6, 0x2f87e_02f87e_005d6e, 0x2f87f_02f87f_005d6b,
  0x2f880_02f880_005d7c, 0x2f881_02f881_005de1, 0x2f882_02f882_005de2, 0x2f883_02f883_00382f, 0x2f884_02f884_005dfd,
  0x2f885_02f885_005e28, 0x2f886_02f886_005e3d, 0x2f887_02f887_005e69, 0x2f888_02f888_003862, 0x2f889_02f889_022183,
  0x2f88a_02f88a_00387c, 0x2f88b_02f88b_005eb0, 0x2f88c_02f88c_005eb3, 0x2f88d_02f88d_005eb6, 0x2f88e_02f88e_005eca,
  0x2f88f_02f88f_02a392, 0x2f890_02f890_005efe, 0x2f891_02f891_022331, 0x2f892_02f892_022331, 0x2f893_02f893_008201,
  0x2f894_02f894_005f22, 0x2f895_02f895_005f22, 0x2f896_02f896_0038c7, 0x2f897_02f897_0232b8, 0x2f898_02f898_0261da,
  0x2f899_02f899_005f62, 0x2f89a_02f89a_005f6b, 0x2f89b_02f89b_0038e3, 0x2f89c_02f89c_005f9a, 0x2f89d_02f89d_005fcd,
  0x2f89e_02f89e_005fd7, 0x2f89f_02f89f_005ff9, 0x2f8a0_02f8a0_006081, 0x2f8a1_02f8a1_00393a, 0x2f8a2_02f8a2_00391c,
  0x2f8a3_02f8a3_006094, 0x2f8a4_02f8a4_0226d4, 0x2f8a5_02f8a5_0060c7, 0x2f8a6_02f8a6_006148, 0x2f8a7_02f8a7_00614c,
  0x2f8a8_02f8a8_00614e, 0x2f8a9_02f8a9_00614c, 0x2f8aa_02f8aa_00617a, 0x2f8ab_02f8ab_00618e, 0x2f8ac_02f8ac_0061b2,
  0x2f8ad_02f8ad_0061a4, 0x2f8ae_02f8ae_0061af, 0x2f8af_02f8af_0061de, 0x2f8b0_02f8b0_0061f2, 0x2f8b1_02f8b1_0061f6,
  0x2f8b2_02f8b2_006210, 0x2f8b3_02f8b3_00621b, 0x2f8b4_02f8b4_00625d, 0x2f8b5_02f8b5_0062b1, 0x2f8b6_02f8b6_0062d4,
  0x2f8b7_02f8b7_006350, 0x2f8b8_02f8b8_022b0c, 0x2f8b9_02f8b9_00633d, 0x2f8ba_02f8ba_0062fc, 0x2f8bb_02f8bb_006368,
  0x2f8bc_02f8bc_006383, 0x2f8bd_02f8bd_0063e4, 0x2f8be_02f8be_022bf1, 0x2f8bf_02f8bf_006422, 0x2f8c0_02f8c0_0063c5,
  0x2f8c1_02f8c1_0063a9, 0x2f8c2_02f8c2_003a2e, 0x2f8c3_02f8c3_006469, 0x2f8c4_02f8c4_00647e, 0x2f8c5_02f8c5_00649d,
  0x2f8c6_02f8c6_006477, 0x2f8c7_02f8c7_003a6c, 0x2f8c8_02f8c8_00654f, 0x2f8c9_02f8c9_00656c, 0x2f8ca_02f8ca_02300a,
  0x2f8cb_02f8cb_0065e3, 0x2f8cc_02f8cc_0066f8, 0x2f8cd_02f8cd_006649, 0x2f8ce_02f8ce_003b19, 0x2f8cf_02f8cf_006691,
  0x2f8d0_02f8d0_003b08, 0x2f8d1_02f8d1_003ae4, 0x2f8d2_02f8d2_005192, 0x2f8d3_02f8d3_005195, 0x2f8d4_02f8d4_006700,
  0x2f8d5_02f8d5_00669c, 0x2f8d6_02f8d6_0080ad, 0x2f8d7_02f8d7_0043d9, 0x2f8d8_02f8d8_006717, 0x2f8d9_02f8d9_00671b,
  0x2f8da_02f8da_006721, 0x2f8db_02f8db_00675e, 0x2f8dc_02f8dc_006753, 0x2f8dd_02f8dd_0233c3, 0x2f8de_02f8de_003b49,
  0x2f8df_02f8df_0067fa, 0x2f8e0_02f8e0_006785, 0x2f8e1_02f8e1_006852, 0x2f8e2_02f8e2_006885, 0x2f8e3_02f8e3_02346d,
  0x2f8e4_02f8e4_00688e, 0x2f8e5_02f8e5_00681f, 0x2f8e6_02f8e6_006914, 0x2f8e7_02f8e7_003b9d, 0x2f8e8_02f8e8_006942,
  0x2f8e9_02f8e9_0069a3, 0x2f8ea_02f8ea_0069ea, 0x2f8eb_02f8eb_006aa8, 0x2f8ec_02f8ec_0236a3, 0x2f8ed_02f8ed_006adb,
  0x2f8ee_02f8ee_003c18, 0x2f8ef_02f8ef_006b21, 0x2f8f0_02f8f0_0238a7, 0x2f8f1_02f8f1_006b54, 0x2f8f2_02f8f2_003c4e,
  0x2f8f3_02f8f3_006b72, 0x2f8f4_02f8f4_006b9f, 0x2f8f5_02f8f5_006bba, 0x2f8f6_02f8f6_006bbb, 0x2f8f7_02f8f7_023a8d,
  0x2f8f8_02f8f8_021d0b, 0x2f8f9_02f8f9_023afa, 0x2f8fa_02f8fa_006c4e, 0x2f8fb_02f8fb_023cbc, 0x2f8fc_02f8fc_006cbf,
  0x2f8fd_02f8fd_006ccd, 0x2f8fe_02f8fe_006c67, 0x2f8ff_02f8ff_006d16, 0x2f900_02f900_006d3e, 0x2f901_02f901_006d77,
  0x2f902_02f902_006d41, 0x2f903_02f903_006d69, 0x2f904_02f904_006d78, 0x2f905_02f905_006d85, 0x2f906_02f906_023d1e,
  0x2f907_02f907_006d34, 0x2f908_02f908_006e2f, 0x2f909_02f909_006e6e, 0x2f90a_02f90a_003d33, 0x2f90b_02f90b_006ecb,
  0x2f90c_02f90c_006ec7, 0x2f90d_02f90d_023ed1, 0x2f90e_02f90e_006df9, 0x2f90f_02f90f_006f6e, 0x2f910_02f910_023f5e,
  0x2f911_02f911_023f8e, 0x2f912_02f912_006fc6, 0x2f913_02f913_007039, 0x2f914_02f914_00701e, 0x2f915_02f915_00701b,
  0x2f916_02f916_003d96, 0x2f917_02f917_00704a, 0x2f918_02f918_00707d, 0x2f919_02f919_007077, 0x2f91a_02f91a_0070ad,
  0x2f91b_02f91b_020525, 0x2f91c_02f91c_007145, 0x2f91d_02f91d_024263, 0x2f91e_02f91e_00719c, 0x2f91f_02f91f_0243ab,
  0x2f920_02f920_007228, 0x2f921_02f921_007235, 0x2f922_02f922_007250, 0x2f923_02f923_024608, 0x2f924_02f924_007280,
  0x2f925_02f925_007295, 0x2f926_02f926_024735, 0x2f927_02f927_024814, 0x2f928_02f928_00737a, 0x2f929_02f929_00738b,
  0x2f92a_02f92a_003eac, 0x2f92b_02f92b_0073a5, 0x2f92c_02f92c_003eb8, 0x2f92d_02f92d_003eb8, 0x2f92e_02f92e_007447,
  0x2f92f_02f92f_00745c, 0x2f930_02f930_007471, 0x2f931_02f931_007485, 0x2f932_02f932_0074ca, 0x2f933_02f933_003f1b,
  0x2f934_02f934_007524, 0x2f935_02f935_024c36, 0x2f936_02f936_00753e, 0x2f937_02f937_024c92, 0x2f938_02f938_007570,
  0x2f939_02f939_02219f, 0x2f93a_02f93a_007610, 0x2f93b_02f93b_024fa1, 0x2f93c_02f93c_024fb8, 0x2f93d_02f93d_025044,
  0x2f93e_02f93e_003ffc, 0x2f93f_02f93f_004008, 0x2f940_02f940_0076f4, 0x2f941_02f941_0250f3, 0x2f942_02f942_0250f2,
  0x2f943_02f943_025119, 0x2f944_02f944_025133, 0x2f945_02f945_00771e, 0x2f946_02f946_00771f, 0x2f947_02f947_00771f,
  0x2f948_02f948_00774a, 0x2f949_02f949_004039, 0x2f94a_02f94a_00778b, 0x2f94b_02f94b_004046, 0x2f94c_02f94c_004096,
  0x2f94d_02f94d_02541d, 0x2f94e_02f94e_00784e, 0x2f94f_02f94f_00788c, 0x2f950_02f950_0078cc, 0x2f951_02f951_0040e3,
  0x2f952_02f952_025626, 0x2f953_02f953_007956, 0x2f954_02f954_02569a, 0x2f955_02f955_0256c5, 0x2f956_02f956_00798f,
  0x2f957_02f957_0079eb, 0x2f958_02f958_00412f, 0x2f959_02f959_007a40, 0x2f95a_02f95a_007a4a, 0x2f95b_02f95b_007a4f,
  0x2f95c_02f95c_02597c, 0x2f95d_02f95d_025aa7, 0x2f95e_02f95e_025aa7, 0x2f95f_02f95f_007aee, 0x2f960_02f960_004202,
  0x2f961_02f961_025bab, 0x2f962_02f962_007bc6, 0x2f963_02f963_007bc9, 0x2f964_02f964_004227, 0x2f965_02f965_025c80,
  0x2f966_02f966_007cd2, 0x2f967_02f967_0042a0, 0x2f968_02f968_007ce8, 0x2f969_02f969_007ce3, 0x2f96a_02f96a_007d00,
  0x2f96b_02f96b_025f86, 0x2f96c_02f96c_007d63, 0x2f96d_02f96d_004301, 0x2f96e_02f96e_007dc7, 0x2f96f_02f96f_007e02,
  0x2f970_02f970_007e45, 0x2f971_02f971_004334, 0x2f972_02f972_026228, 0x2f973_02f973_026247, 0x2f974_02f974_004359,
  0x2f975_02f975_0262d9, 0x2f976_02f976_007f7a, 0x2f977_02f977_02633e, 0x2f978_02f978_007f95, 0x2f979_02f979_007ffa,
  0x2f97a_02f97a_008005, 0x2f97b_02f97b_0264da, 0x2f97c_02f97c_026523, 0x2f97d_02f97d_008060, 0x2f97e_02f97e_0265a8,
  0x2f97f_02f97f_008070, 0x2f980_02f980_02335f, 0x2f981_02f981_0043d5, 0x2f982_02f982_0080b2, 0x2f983_02f983_008103,
  0x2f984_02f984_00440b, 0x2f985_02f985_00813e, 0x2f986_02f986_005ab5, 0x2f987_02f987_0267a7, 0x2f988_02f988_0267b5,
  0x2f989_02f989_023393, 0x2f98a_02f98a_02339c, 0x2f98b_02f98b_008201, 0x2f98c_02f98c_008204, 0x2f98d_02f98d_008f9e,
  0x2f98e_02f98e_00446b, 0x2f98f_02f98f_008291, 0x2f990_02f990_00828b, 0x2f991_02f991_00829d, 0x2f992_02f992_0052b3,
  0x2f993_02f993_0082b1, 0x2f994_02f994_0082b3, 0x2f995_02f995_0082bd, 0x2f996_02f996_0082e6, 0x2f997_02f997_026b3c,
  0x2f998_02f998_0082e5, 0x2f999_02f999_00831d, 0x2f99a_02f99a_008363, 0x2f99b_02f99b_0083ad, 0x2f99c_02f99c_008323,
  0x2f99d_02f99d_0083bd, 0x2f99e_02f99e_0083e7, 0x2f99f_02f99f_008457, 0x2f9a0_02f9a0_008353, 0x2f9a1_02f9a1_0083ca,
  0x2f9a2_02f9a2_0083cc, 0x2f9a3_02f9a3_0083dc, 0x2f9a4_02f9a4_026c36, 0x2f9a5_02f9a5_026d6b, 0x2f9a6_02f9a6_026cd5,
  0x2f9a7_02f9a7_00452b, 0x2f9a8_02f9a8_0084f1, 0x2f9a9_02f9a9_0084f3, 0x2f9aa_02f9aa_008516, 0x2f9ab_02f9ab_0273ca,
  0x2f9ac_02f9ac_008564, 0x2f9ad_02f9ad_026f2c, 0x2f9ae_02f9ae_00455d, 0x2f9af_02f9af_004561, 0x2f9b0_02f9b0_026fb1,
  0x2f9b1_02f9b1_0270d2, 0x2f9b2_02f9b2_00456b, 0x2f9b3_02f9b3_008650, 0x2f9b4_02f9b4_00865c, 0x2f9b5_02f9b5_008667,
  0x2f9b6_02f9b6_008669, 0x2f9b7_02f9b7_0086a9, 0x2f9b8_02f9b8_008688, 0x2f9b9_02f9b9_00870e, 0x2f9ba_02f9ba_0086e2,
  0x2f9bb_02f9bb_008779, 0x2f9bc_02f9bc_008728, 0x2f9bd_02f9bd_00876b, 0x2f9be_02f9be_008786, 0x2f9bf_02f9bf_0045d7,
  0x2f9c0_02f9c0_0087e1, 0x2f9c1_02f9c1_008801, 0x2f9c2_02f9c2_0045f9, 0x2f9c3_02f9c3_008860, 0x2f9c4_02f9c4_008863,
  0x2f9c5_02f9c5_027667, 0x2f9c6_02f9c6_0088d7, 0x2f9c7_02f9c7_0088de, 0x2f9c8_02f9c8_004635, 0x2f9c9_02f9c9_0088fa,
  0x2f9ca_02f9ca_0034bb, 0x2f9cb_02f9cb_0278ae, 0x2f9cc_02f9cc_027966, 0x2f9cd_02f9cd_0046be, 0x2f9ce_02f9ce_0046c7,
  0x2f9cf_02f9cf_008aa0, 0x2f9d0_02f9d0_008aed, 0x2f9d1_02f9d1_008b8a, 0x2f9d2_02f9d2_008c55, 0x2f9d3_02f9d3_027ca8,
  0x2f9d4_02f9d4_008cab, 0x2f9d5_02f9d5_008cc1, 0x2f9d6_02f9d6_008d1b, 0x2f9d7_02f9d7_008d77, 0x2f9d8_02f9d8_027f2f,
  0x2f9d9_02f9d9_020804, 0x2f9da_02f9da_008dcb, 0x2f9db_02f9db_008dbc, 0x2f9dc_02f9dc_008df0, 0x2f9dd_02f9dd_0208de,
  0x2f9de_02f9de_008ed4, 0x2f9df_02f9df_008f38, 0x2f9e0_02f9e0_0285d2, 0x2f9e1_02f9e1_0285ed, 0x2f9e2_02f9e2_009094,
  0x2f9e3_02f9e3_0090f1, 0x2f9e4_02f9e4_009111, 0x2f9e5_02f9e5_02872e, 0x2f9e6_02f9e6_00911b, 0x2f9e7_02f9e7_009238,
  0x2f9e8_02f9e8_0092d7, 0x2f9e9_02f9e9_0092d8, 0x2f9ea_02f9ea_00927c, 0x2f9eb_02f9eb_0093f9, 0x2f9ec_02f9ec_009415,
  0x2f9ed_02f9ed_028bfa, 0x2f9ee_02f9ee_00958b, 0x2f9ef_02f9ef_004995, 0x2f9f0_02f9f0_0095b7, 0x2f9f1_02f9f1_028d77,
  0x2f9f2_02f9f2_0049e6, 0x2f9f3_02f9f3_0096c3, 0x2f9f4_02f9f4_005db2, 0x2f9f5_02f9f5_009723, 0x2f9f6_02f9f6_029145,
  0x2f9f7_02f9f7_02921a, 0x2f9f8_02f9f8_004a6e, 0x2f9f9_02f9f9_004a76, 0x2f9fa_02f9fa_0097e0, 0x2f9fb_02f9fb_02940a,
  0x2f9fc_02f9fc_004ab2, 0x2f9fd_02f9fd_029496, 0x2f9fe_02f9fe_00980b, 0x2f9ff_02f9ff_00980b, 0x2fa00_02fa00_009829,
  0x2fa01_02fa01_0295b6, 0x2fa02_02fa02_0098e2, 0x2fa03_02fa03_004b33, 0x2fa04_02fa04_009929, 0x2fa05_02fa05_0099a7,
  0x2fa06_02fa06_0099c2, 0x2fa07_02fa07_0099fe, 0x2fa08_02fa08_004bce, 0x2fa09_02fa09_029b30, 0x2fa0a_02fa0a_009b12,
  0x2fa0b_02fa0b_009c40, 0x2fa0c_02fa0c_009cfd, 0x2fa0d_02fa0d_004cce, 0x2fa0e_02fa0e_004ced, 0x2fa0f_02fa0f_009d67,
  0x2fa10_02fa10_02a0ce, 0x2fa11_02fa11_004cf8, 0x2fa12_02fa12_02a105, 0x2fa13_02fa13_02a20e, 0x2fa14_02fa14_02a291,
  0x2fa15_02fa15_009ebb, 0x2fa16_02fa16_004d56, 0x2fa17_02fa17_009ef9, 0x2fa18_02fa18_009efe, 0x2fa19_02fa19_009f05,
  0x2fa1a_02fa1a_009f0f, 0x2fa1b_02fa1b_009f16, 0x2fa1c_02fa1c_009f3b, 0x2fa1d_02fa1d_02a600]

set_option maxRecDepth 100000 in
/-- Combining classes other than zero. -/
def combiningTable : CodeTable := .ofRows [
  0x300_000314_0000e6, 0x315_000315_0000e8, 0x316_000319_0000dc, 0x31a_00031a_0000e8, 0x31b_00031b_0000d8,
  0x31c_000320_0000dc, 0x321_000322_0000ca, 0x323_000326_0000dc, 0x327_000328_0000ca, 0x329_000333_0000dc,
  0x334_000338_000001, 0x339_00033c_0000dc, 0x33d_000344_0000e6, 0x345_000345_0000f0, 0x346_000346_0000e6,
  0x347_000349_0000dc, 0x34a_00034c_0000e6, 0x34d_00034e_0000dc, 0x350_000352_0000e6, 0x353_000356_0000dc,
  0x357_000357_0000e6, 0x358_000358_0000e8, 0x359_00035a_0000dc, 0x35b_00035b_0000e6, 0x35c_00035c_0000e9,
  0x35d_00035e_0000ea, 0x35f_00035f_0000e9, 0x360_000361_0000ea, 0x362_000362_0000e9, 0x363_00036f_0000e6,
  0x483_000487_0000e6, 0x591_000591_0000dc, 0x592_000595_0000e6, 0x596_000596_0000dc, 0x597_000599_0000e6,
  0x59a_00059a_0000de, 0x59b_00059b_0000dc, 0x59c_0005a1_0000e6, 0x5a2_0005a7_0000dc, 0x5a8_0005a9_0000e6,
  0x5aa_0005aa_0000dc, 0x5ab_0005ac_0000e6, 0x5ad_0005ad_0000de, 0x5ae_0005ae_0000e4, 0x5af_0005af_0000e6,
  0x5b0_0005b0_00000a, 0x5b1_0005b1_00000b, 0x5b2_0005b2_00000c, 0x5b3_0005b3_00000d, 0x5b4_0005b4_00000e,
  0x5b5_0005b5_00000f, 0x5b6_0005b6_000010, 0x5b7_0005b7_000011, 0x5b8_0005b8_000012, 0x5b9_0005ba_000013,
  0x5bb_0005bb_000014, 0x5bc_0005bc_000015, 0x5bd_0005bd_000016, 0x5bf_0005bf_000017, 0x5c1_0005c1_000018,
  0x5c2_0005c2_000019, 0x5c4_0005c4_0000e6, 0x5c5_0005c5_0000dc, 0x5c7_0005c7_000012, 0x5c8_0005c9_0000e6,
  0x610_000617_0000e6, 0x618_000618_00001e, 0x619_000619_00001f, 0x61a_00061a_000020, 0x64b_00064b_00001b,
  0x64c_00064c_00001c, 0x64d_00064d_00001d, 0x64e_00064e_00001e, 0x64f_00064f_00001f, 0x650_000650_000020,
  0x651_000651_000021, 0x652_000652_000022, 0x653_000654_0000e6, 0x655_000656_0000dc, 0x657_00065b_0000e6,
  0x65c_00065c_0000dc, 0x65d_00065e_0000e6, 0x65f_00065f_0000dc, 0x670_000670_000023, 0x6d6_0006dc_0000e6,
  0x6df_0006e2_0000e6, 0x6e3_0006e3_0000dc, 0x6e4_0006e4_0000e6, 0x6e7_0006e8_0000e6, 0x6ea_0006ea_0000dc,
  0x6eb_0006ec_0000e6, 0x6ed_0006ed_0000dc, 0x711_000711_000024, 0x730_000730_0000e6, 0x731_000731_0000dc,
  0x732_000733_0000e6, 0x734_000734_0000dc, 0x735_000736_0000e6, 0x737_000739_0000dc, 0x73a_00073a_0000e6,
  0x73b_00073c_0000dc, 0x73d_00073d_0000e6, 0x73e_00073e_0000dc, 0x73f_000741_0000e6, 0x742_000742_0000dc,
  0x743_000743_0000e6, 0x744_000744_0000dc, 0x745_000745_0000e6, 0x746_000746_0000dc, 0x747_000747_0000e6,
  0x748_000748_0000dc, 0x749_00074a_0000e6, 0x7eb_0007f1_0000e6, 0x7f2_0007f2_0000dc, 0x7f3_0007f3_0000e6,
  0x7fd_0007fd_0000dc, 0x816_000819_0000e6, 0x81b_000823_0000e6, 0x825_000827_0000e6, 0x829_00082d_0000e6,
  0x859_00085b_0000dc, 0x897_000898_0000e6, 0x899_00089b_0000dc, 0x89c_00089f_0000e6, 0x8ca_0008ce_0000e6,
  0x8cf_0008d3_0000dc, 0x8d4_0008e1_0000e6, 0x8e3_0008e3_0000dc, 0x8e4_0008e5_0000e6, 0x8e6_0008e6_0000dc,
  0x8e7_0008e8_0000e6, 0x8e9_0008e9_0000dc, 0x8ea_0008ec_0000e6, 0x8ed_0008ef_0000dc, 0x8f0_0008f0_00001b,
  0x8f1_0008f1_00001c, 0x8f2_0008f2_00001d, 0x8f3_0008f5_0000e6, 0x8f6_0008f6_0000dc, 0x8f7_0008f8_0000e6,
  0x8f9_0008fa_0000dc, 0x8fb_0008ff_0000e6, 0x93c_00093c_000007, 0x94d_00094d_000009, 0x951_000951_0000e6,
  0x952_000952_0000dc, 0x953_000954_0000e6, 0x9bc_0009bc_000007, 0x9cd_0009cd_000009, 0x9fe_0009fe_0000e6,
  0xa3c_000a3c_000007, 0xa4d_000a4d_000009, 0xabc_000abc_000007, 0xacd_000acd_000009, 0xb3c_000b3c_000007,
  0xb4d_000b4d_000009, 0xbcd_000bcd_000009, 0xc3c_000c3c_000007, 0xc4d_000c4d_000009, 0xc55_000c55_000054,
  0xc56_000c56_00005b, 0xcbc_000cbc_000007, 0xccd_000ccd_000009, 0xd3b_000d3c_000009, 0xd4d_000d4d_000009,
  0xdca_000dca_000009, 0xe38_000e39_000067, 0xe3a_000e3a_000009, 0xe48_000e4b_00006b, 0xeb8_000eb9_000076,
  0xeba_000eba_000009, 0xec8_000ecb_00007a, 0xf18_000f19_0000dc, 0xf35_000f35_0000dc, 0xf37_000f37_0000dc,
  0xf39_000f39_0000d8, 0xf71_000f71_000081, 0xf72_000f72_000082, 0xf74_000f74_000084, 0xf7a_000f7d_000082,
  0xf80_000f80_000082, 0xf82_000f83_0000e6, 0xf84_000f84_000009, 0xf86_000f87_0000e6, 0xfc6_000fc6_0000dc,
  0x1037_001037_000007, 0x1039_00103a_000009, 0x108d_00108d_0000dc, 0x135d_00135f_0000e6, 0x1714_001715_000009,
  0x1734_001734_000009, 0x17d2_0017d2_000009, 0x17dd_0017dd_0000e6, 0x18a9_0018a9_0000e4, 0x1939_001939_0000de,
  0x193a_00193a_0000e6, 0x193b_00193b_0000dc, 0x1a17_001a17_0000e6, 0x1a18_001a18_0000dc, 0x1a60_001a60_000009,
  0x1a75_001a7c_0000e6, 0x1a7f_001a7f_0000dc, 0x1ab0_001ab4_0000e6, 0x1ab5_001aba_0000dc, 0x1abb_001abc_0000e6,
  0x1abd_001abd_0000dc, 0x1abf_001ac0_0000dc, 0x1ac1_001ac2_0000e6, 0x1ac3_001ac4_0000dc, 0x1ac5_001ac9_0000e6,
  0x1aca_001aca_0000dc, 0x1acb_001adc_0000e6, 0x1add_001add_0000dc, 0x1ade_001ae5_0000e6, 0x1ae6_001ae6_0000dc,
  0x1ae7_001aea_0000e6, 0x1aeb_001aeb_0000ea, 0x1aec_001aec_0000e6, 0x1b34_001b34_000007, 0x1b44_001b44_000009,
  0x1b6b_001b6b_0000e6, 0x1b6c_001b6c_0000dc, 0x1b6d_001b73_0000e6, 0x1baa_001bab_000009, 0x1be6_001be6_000007,
  0x1bf2_001bf3_000009, 0x1c37_001c37_000007, 0x1cd0_001cd2_0000e6, 0x1cd4_001cd4_000001, 0x1cd5_001cd9_0000dc,
  0x1cda_001cdb_0000e6, 0x1cdc_001cdf_0000dc, 0x1ce0_001ce0_0000e6, 0x1ce2_001ce8_000001, 0x1ced_001ced_0000dc,
  0x1cf4_001cf4_0000e6, 0x1cf8_001cf9_0000e6, 0x1dc0_001dc1_0000e6, 0x1dc2_001dc2_0000dc, 0x1dc3_001dc9_0000e6,
  0x1dca_001dca_0000dc, 0x1dcb_001dcc_0000e6, 0x1dcd_001dcd_0000ea, 0x1dce_001dce_0000d6, 0x1dcf_001dcf_0000dc,
  0x1dd0_001dd0_0000ca, 0x1dd1_001df5_0000e6, 0x1df6_001df6_0000e8, 0x1df7_001df8_0000e4, 0x1df9_001df9_0000dc,
  0x1dfa_001dfa_0000da, 0x1dfb_001dfb_0000e6, 0x1dfc_001dfc_0000e9, 0x1dfd_001dfd_0000dc, 0x1dfe_001dfe_0000e6,
  0x1dff_001dff_0000dc, 0x20d0_0020d1_0000e6, 0x20d2_0020d3_000001, 0x20d4_0020d7_0000e6, 0x20d8_0020da_000001,
  0x20db_0020dc_0000e6, 0x20e1_0020e1_0000e6, 0x20e5_0020e6_000001, 0x20e7_0020e7_0000e6, 0x20e8_0020e8_0000dc,
  0x20e9_0020e9_0000e6, 0x20ea_0020eb_000001, 0x20ec_0020ef_0000dc, 0x20f0_0020f0_0000e6, 0x2cef_002cf1_0000e6,
  0x2d7f_002d7f_000009, 0x2de0_002dff_0000e6, 0x302a_00302a_0000da, 0x302b_00302b_0000e4, 0x302c_00302c_0000e8,
  0x302d_00302d_0000de, 0x302e_00302f_0000e0, 0x3099_00309a_000008, 0xa66f_00a66f_0000e6, 0xa674_00a67d_0000e6,
  0xa69e_00a69f_0000e6, 0xa6f0_00a6f1_0000e6, 0xa806_00a806_000009, 0xa82c_00a82c_000009, 0xa8c4_00a8c4_000009,
  0xa8e0_00a8f1_0000e6, 0xa92b_00a92d_0000dc, 0xa953_00a953_000009, 0xa9b3_00a9b3_000007, 0xa9c0_00a9c0_000009,
  0xaab0_00aab0_0000e6, 0xaab2_00aab3_0000e6, 0xaab4_00aab4_0000dc, 0xaab7_00aab8_0000e6, 0xaabe_00aabf_0000e6,
  0xaac1_00aac1_0000e6, 0xaaf6_00aaf6_000009, 0xabed_00abed_000009, 0xfb1e_00fb1e_00001a, 0xfe20_00fe26_0000e6,
  0xfe27_00fe2d_0000dc, 0xfe2e_00fe2f_0000e6, 0x101fd_0101fd_0000dc, 0x102e0_0102e0_0000dc, 0x10376_01037a_0000e6,
  0x10a0d_010a0d_0000dc, 0x10a0f_010a0f_0000e6, 0x10a38_010a38_0000e6, 0x10a39_010a39_000001, 0x10a3a_010a3a_0000dc,
  0x10a3f_010a3f_000009, 0x10ae5_010ae5_0000e6, 0x10ae6_010ae6_0000dc, 0x10d24_010d27_0000e6, 0x10d69_010d6d_0000e6,
  0x10eab_010eac_0000e6, 0x10efa_010efb_0000dc, 0x10efd_010eff_0000dc, 0x10f46_010f47_0000dc, 0x10f48_010f4a_0000e6,
  0x10f4b_010f4b_0000dc, 0x10f4c_010f4c_0000e6, 0x10f4d_010f50_0000dc, 0x10f82_010f82_0000e6, 0x10f83_010f83_0000dc,
  0x10f84_010f84_0000e6, 0x10f85_010f85_0000dc, 0x11046_011046_000009, 0x11070_011070_000009, 0x1107f_01107f_000009,
  0x110b9_0110b9_000009, 0x110ba_0110ba_000007, 0x11100_011102_0000e6, 0x11133_011134_000009, 0x11173_011173_000007,
  0x111c0_0111c0_000009, 0x111ca_0111ca_000007, 0x11235_011235_000009, 0x11236_011236_000007, 0x112e9_0112e9_000007,
  0x112ea_0112ea_000009, 0x1133b_01133c_000007, 0x1134d_01134d_000009, 0x11366_01136c_0000e6, 0x11370_011374_0000e6,
  0x113ce_0113d0_000009, 0x11442_011442_000009, 0x11446_011446_000007, 0x1145e_01145e_0000e6, 0x114c2_0114c2_000009,
  0x114c3_0114c3_000007, 0x115bf_0115bf_000009, 0x115c0_0115c0_000007, 0x1163f_01163f_000009, 0x116b6_0116b6_000009,
  0x116b7_0116b7_000007, 0x1172b_01172b_000009, 0x11839_011839_000009, 0x1183a_01183a_000007, 0x1193d_01193e_000009,
  0x11943_011943_000007, 0x119e0_0119e0_000009, 0x11a34_011a34_000009, 0x11a47_011a47_000009, 0x11a99_011a99_000009,
  0x11c3f_011c3f_000009, 0x11d42_011d42_000007, 0x11d44_011d45_000009, 0x11d97_011d97_000009, 0x11f41_011f42_000009,
  0x1612f_01612f_000009, 0x16af0_016af4_000001, 0x16b30_016b36_0000e6, 0x16ff0_016ff1_000006, 0x1bc9e_01bc9e_000001,
  0x1d165_01d166_0000d8, 0x1d167_01d169_000001, 0x1d16d_01d16d_0000e2, 0x1d16e_01d172_0000d8, 0x1d17b_01d182_0000dc,
  0x1d185_01d189_0000e6, 0x1d18a_01d18b_0000dc, 0x1d1aa_01d1ad_0000e6, 0x1d242_01d244_0000e6, 0x1e000_01e006_0000e6,
  0x1e008_01e018_0000e6, 0x1e01b_01e021_0000e6, 0x1e023_01e024_0000e6, 0x1e026_01e02a_0000e6, 0x1e08f_01e08f_0000e6,
  0x1e130_01e136_0000e6, 0x1e2ae_01e2ae_0000e6, 0x1e2ec_01e2ef_0000e6, 0x1e4ec_01e4ed_0000e8, 0x1e4ee_01e4ee_0000dc,
  0x1e4ef_01e4ef_0000e6, 0x1e5ee_01e5ee_0000e6, 0x1e5ef_01e5ef_0000dc, 0x1e6e3_01e6e3_0000e6, 0x1e6e6_01e6e6_0000e6,
  0x1e6ee_01e6ef_0000e6, 0x1e6f5_01e6f5_0000e6, 0x1e8d0_01e8d6_0000dc, 0x1e944_01e949_0000e6, 0x1e94a_01e94a_000007]

set_option maxRecDepth 100000 in
/-- For a first character, the second ones it composes with, each followed by the result. -/
def compositionTable : CodeTable := .ofRows [
  0x3c_00003c_000338_00226e, 0x3d_00003d_000338_002260, 0x3e_00003e_000338_00226f,
  0x41_000041_000300_0000c0_000301_0000c1_000302_0000c2_000303_0000c3_000304_000100_000306_000102_000307_000226_000308_0000c4_000309_001ea2_00030a_0000c5_00030c_0001cd_00030f_000200_000311_000202_000323_001ea0_000325_001e00_000328_000104,
  0x42_000042_000307_001e02_000323_001e04_000331_001e06,
  0x43_000043_000301_000106_000302_000108_000307_00010a_00030c_00010c_000327_0000c7,
  0x44_000044_000307_001e0a_00030c_00010e_000323_001e0c_000327_001e10_00032d_001e12_000331_001e0e,
  0x45_000045_000300_0000c8_000301_0000c9_000302_0000ca_000303_001ebc_000304_000112_000306_000114_000307_000116_000308_0000cb_000309_001eba_00030c_00011a_00030f_000204_000311_000206_000323_001eb8_000327_000228_000328_000118_00032d_001e18_000330_001e1a,
  0x46_000046_000307_001e1e,
  0x47_000047_000301_0001f4_000302_00011c_000304_001e20_000306_00011e_000307_000120_00030c_0001e6_000327_000122,
  0x48_000048_000302_000124_000307_001e22_000308_001e26_00030c_00021e_000323_001e24_000327_001e28_00032e_001e2a,
  0x49_000049_000300_0000cc_000301_0000cd_000302_0000ce_000303_000128_000304_00012a_000306_00012c_000307_000130_000308_0000cf_000309_001ec8_00030c_0001cf_00030f_000208_000311_00020a_000323_001eca_000328_00012e_000330_001e2c,
  0x4a_00004a_000302_000134, 0x4b_00004b_000301_001e30_00030c_0001e8_000323_001e32_000327_000136_000331_001e34,
  0x4c_00004c_000301_000139_00030c_00013d_000323_001e36_000327_00013b_00032d_001e3c_000331_001e3a,
  0x4d_00004d_000301_001e3e_000307_001e40_000323_001e42,
  0x4e_00004e_000300_0001f8_000301_000143_000303_0000d1_000307_001e44_00030c_000147_000323_001e46_000327_000145_00032d_001e4a_000331_001e48,
  0x4f_00004f_000300_0000d2_000301_0000d3_000302_0000d4_000303_0000d5_000304_00014c_000306_00014e_000307_00022e_000308_0000d6_000309_001ece_00030b_000150_00030c_0001d1_00030f_00020c_000311_00020e_00031b_0001a0_000323_001ecc_000328_0001ea,
  0x50_000050_000301_001e54_000307_001e56,
  0x52_000052_000301_000154_000307_001e58_00030c_000158_00030f_000210_000311_000212_000323_001e5a_000327_000156_000331_001e5e,
  0x53_000053_000301_00015a_000302_00015c_000307_001e60_00030c_000160_000323_001e62_000326_000218_000327_00015e,
  0x54_000054_000307_001e6a_00030c_000164_000323_001e6c_000326_00021a_000327_000162_00032d_001e70_000331_001e6e,
  0x55_000055_000300_0000d9_000301_0000da_000302_0000db_000303_000168_000304_00016a_000306_00016c_000308_0000dc_000309_001ee6_00030a_00016e_00030b_000170_00030c_0001d3_00030f_000214_000311_000216_00031b_0001af_000323_001ee4_000324_001e72_000328_000172_00032d_001e76_000330_001e74,
  0x56_000056_000303_001e7c_000323_001e7e,
  0x57_000057_000300_001e80_000301_001e82_000302_000174_000307_001e86_000308_001e84_000323_001e88,
  0x58_000058_000307_001e8a_000308_001e8c,
  0x59_000059_000300_001ef2_000301_0000dd_000302_000176_000303_001ef8_000304_000232_000307_001e8e_000308_000178_000309_001ef6_000323_001ef4,
  0x5a_00005a_000301_000179_000302_001e90_000307_00017b_00030c_00017d_000323_001e92_000331_001e94,
  0x61_000061_000300_0000e0_000301_0000e1_000302_0000e2_000303_0000e3_000304_000101_000306_000103_000307_000227_000308_0000e4_000309_001ea3_00030a_0000e5_00030c_0001ce_00030f_000201_000311_000203_000323_001ea1_000325_001e01_000328_000105,
  0x62_000062_000307_001e03_000323_001e05_000331_001e07,
  0x63_000063_000301_000107_000302_000109_000307_00010b_00030c_00010d_000327_0000e7,
  0x64_000064_000307_001e0b_00030c_00010f_000323_001e0d_000327_001e11_00032d_001e13_000331_001e0f,
  0x65_000065_000300_0000e8_000301_0000e9_000302_0000ea_000303_001ebd_000304_000113_000306_000115_000307_000117_000308_0000eb_000309_001ebb_00030c_00011b_00030f_000205_000311_000207_000323_001eb9_000327_000229_000328_000119_00032d_001e19_000330_001e1b,
  0x66_000066_000307_001e1f,
  0x67_000067_000301_0001f5_000302_00011d_000304_001e21_000306_00011f_000307_000121_00030c_0001e7_000327_000123,
  0x68_000068_000302_000125_000307_001e23_000308_001e27_00030c_00021f_000323_001e25_000327_001e29_00032e_001e2b_000331_001e96,
  0x69_000069_000300_0000ec_000301_0000ed_000302_0000ee_000303_000129_000304_00012b_000306_00012d_000308_0000ef_000309_001ec9_00030c_0001d0_00030f_000209_000311_00020b_000323_001ecb_000328_00012f_000330_001e2d,
  0x6a_00006a_000302_000135_00030c_0001f0,
  0x6b_00006b_000301_001e31_00030c_0001e9_000323_001e33_000327_000137_000331_001e35,
  0x6c_00006c_000301_00013a_00030c_00013e_000323_001e37_000327_00013c_00032d_001e3d_000331_001e3b,
  0x6d_00006d_000301_001e3f_000307_001e41_000323_001e43,
  0x6e_00006e_000300_0001f9_000301_000144_000303_0000f1_000307_001e45_00030c_000148_000323_001e47_000327_000146_00032d_001e4b_000331_001e49,
  0x6f_00006f_000300_0000f2_000301_0000f3_000302_0000f4_000303_0000f5_000304_00014d_000306_00014f_000307_00022f_000308_0000f6_000309_001ecf_00030b_000151_00030c_0001d2_00030f_00020d_000311_00020f_00031b_0001a1_000323_001ecd_000328_0001eb,
  0x70_000070_000301_001e55_000307_001e57,
  0x72_000072_000301_000155_000307_001e59_00030c_000159_00030f_000211_000311_000213_000323_001e5b_000327_000157_000331_001e5f,
  0x73_000073_000301_00015b_000302_00015d_000307_001e61_00030c_000161_000323_001e63_000326_000219_000327_00015f,
  0x74_000074_000307_001e6b_000308_001e97_00030c_000165_000323_001e6d_000326_00021b_000327_000163_00032d_001e71_000331_001e6f,
  0x75_000075_000300_0000f9_000301_0000fa_000302_0000fb_000303_000169_000304_00016b_000306_00016d_000308_0000fc_000309_001ee7_00030a_00016f_00030b_000171_00030c_0001d4_00030f_000215_000311_000217_00031b_0001b0_000323_001ee5_000324_001e73_000328_000173_00032d_001e77_000330_001e75,
  0x76_000076_000303_001e7d_000323_001e7f,
  0x77_000077_000300_001e81_000301_001e83_000302_000175_000307_001e87_000308_001e85_00030a_001e98_000323_001e89,
  0x78_000078_000307_001e8b_000308_001e8d,
  0x79_000079_000300_001ef3_000301_0000fd_000302_000177_000303_001ef9_000304_000233_000307_001e8f_000308_0000ff_000309_001ef7_00030a_001e99_000323_001ef5,
  0x7a_00007a_000301_00017a_000302_001e91_000307_00017c_00030c_00017e_000323_001e93_000331_001e95,
  0xa8_0000a8_000300_001fed_000301_000385_000342_001fc1,
  0xc2_0000c2_000300_001ea6_000301_001ea4_000303_001eaa_000309_001ea8, 0xc4_0000c4_000304_0001de,
  0xc5_0000c5_000301_0001fa, 0xc6_0000c6_000301_0001fc_000304_0001e2, 0xc7_0000c7_000301_001e08,
  0xca_0000ca_000300_001ec0_000301_001ebe_000303_001ec4_000309_001ec2, 0xcf_0000cf_000301_001e2e,
  0xd4_0000d4_000300_001ed2_000301_001ed0_000303_001ed6_000309_001ed4,
  0xd5_0000d5_000301_001e4c_000304_00022c_000308_001e4e, 0xd6_0000d6_000304_00022a, 0xd8_0000d8_000301_0001fe,
  0xdc_0000dc_000300_0001db_000301_0001d7_000304_0001d5_00030c_0001d9,
  0xe2_0000e2_000300_001ea7_000301_001ea5_000303_001eab_000309_001ea9, 0xe4_0000e4_000304_0001df,
  0xe5_0000e5_000301_0001fb, 0xe6_0000e6_000301_0001fd_000304_0001e3, 0xe7_0000e7_000301_001e09,
  0xea_0000ea_000300_001ec1_000301_001ebf_000303_001ec5_000309_001ec3, 0xef_0000ef_000301_001e2f,
  0xf4_0000f4_000300_001ed3_000301_001ed1_000303_001ed7_000309_001ed5,
  0xf5_0000f5_000301_001e4d_000304_00022d_000308_001e4f, 0xf6_0000f6_000304_00022b, 0xf8_0000f8_000301_0001ff,
  0xfc_0000fc_000300_0001dc_000301_0001d8_000304_0001d6_00030c_0001da,
  0x102_000102_000300_001eb0_000301_001eae_000303_001eb4_000309_001eb2,
  0x103_000103_000300_001eb1_000301_001eaf_000303_001eb5_000309_001eb3, 0x112_000112_000300_001e14_000301_001e16,
  0x113_000113_000300_001e15_000301_001e17, 0x14c_00014c_000300_001e50_000301_001e52,
  0x14d_00014d_000300_001e51_000301_001e53, 0x15a_00015a_000307_001e64, 0x15b_00015b_000307_001e65,
  0x160_000160_000307_001e66, 0x161_000161_000307_001e67, 0x168_000168_000301_001e78, 0x169_000169_000301_001e79,
  0x16a_00016a_000308_001e7a, 0x16b_00016b_000308_001e7b, 0x17f_00017f_000307_001e9b,
  0x1a0_0001a0_000300_001edc_000301_001eda_000303_001ee0_000309_001ede_000323_001ee2,
  0x1a1_0001a1_000300_001edd_000301_001edb_000303_001ee1_000309_001edf_000323_001ee3,
  0x1af_0001af_000300_001eea_000301_001ee8_000303_001eee_000309_001eec_000323_001ef0,
  0x1b0_0001b0_000300_001eeb_000301_001ee9_000303_001eef_000309_001eed_000323_001ef1, 0x1b7_0001b7_00030c_0001ee,
  0x1ea_0001ea_000304_0001ec, 0x1eb_0001eb_000304_0001ed, 0x226_000226_000304_0001e0, 0x227_000227_000304_0001e1,
  0x228_000228_000306_001e1c, 0x229_000229_000306_001e1d, 0x22e_00022e_000304_000230, 0x22f_00022f_000304_000231,
  0x292_000292_00030c_0001ef,
  0x391_000391_000300_001fba_000301_000386_000304_001fb9_000306_001fb8_000313_001f08_000314_001f09_000345_001fbc,
  0x395_000395_000300_001fc8_000301_000388_000313_001f18_000314_001f19,
  0x397_000397_000300_001fca_000301_000389_000313_001f28_000314_001f29_000345_001fcc,
  0x399_000399_000300_001fda_000301_00038a_000304_001fd9_000306_001fd8_000308_0003aa_000313_001f38_000314_001f39,
  0x39f_00039f_000300_001ff8_000301_00038c_000313_001f48_000314_001f49, 0x3a1_0003a1_000314_001fec,
  0x3a5_0003a5_000300_001fea_000301_00038e_000304_001fe9_000306_001fe8_000308_0003ab_000314_001f59,
  0x3a9_0003a9_000300_001ffa_000301_00038f_000313_001f68_000314_001f69_000345_001ffc, 0x3ac_0003ac_000345_001fb4,
  0x3ae_0003ae_000345_001fc4,
  0x3b1_0003b1_000300_001f70_000301_0003ac_000304_001fb1_000306_001fb0_000313_001f00_000314_001f01_000342_001fb6_000345_001fb3,
  0x3b5_0003b5_000300_001f72_000301_0003ad_000313_001f10_000314_001f11,
  0x3b7_0003b7_000300_001f74_000301_0003ae_000313_001f20_000314_001f21_000342_001fc6_000345_001fc3,
  0x3b9_0003b9_000300_001f76_000301_0003af_000304_001fd1_000306_001fd0_000308_0003ca_000313_001f30_000314_001f31_000342_001fd6,
  0x3bf_0003bf_000300_001f78_000301_0003cc_000313_001f40_000314_001f41, 0x3c1_0003c1_000313_001fe4_000314_001fe5,
  0x3c5_0003c5_000300_001f7a_000301_0003cd_000304_001fe1_000306_001fe0_000308_0003cb_000313_001f50_000314_001f51_000342_001fe6,
  0x3c9_0003c9_000300_001f7c_000301_0003ce_000313_001f60_000314_001f61_000342_001ff6_000345_001ff3,
  0x3ca_0003ca_000300_001fd2_000301_000390_000342_001fd7, 0x3cb_0003cb_000300_001fe2_000301_0003b0_000342_001fe7,
  0x3ce_0003ce_000345_001ff4, 0x3d2_0003d2_000301_0003d3_000308_0003d4, 0x406_000406_000308_000407,
  0x410_000410_000306_0004d0_000308_0004d2, 0x413_000413_000301_000403,
  0x415_000415_000300_000400_000306_0004d6_000308_000401, 0x416_000416_000306_0004c1_000308_0004dc,
  0x417_000417_000308_0004de, 0x418_000418_000300_00040d_000304_0004e2_000306_000419_000308_0004e4,
  0x41a_00041a_000301_00040c, 0x41e_00041e_000308_0004e6,
  0x423_000423_000304_0004ee_000306_00040e_000308_0004f0_00030b_0004f2, 0x427_000427_000308_0004f4,
  0x42b_00042b_000308_0004f8, 0x42d_00042d_000308_0004ec, 0x430_000430_000306_0004d1_000308_0004d3,
  0x433_000433_000301_000453, 0x435_000435_000300_000450_000306_0004d7_000308_000451,
  0x436_000436_000306_0004c2_000308_0004dd, 0x437_000437_000308_0004df,
  0x438_000438_000300_00045d_000304_0004e3_000306_000439_000308_0004e5, 0x43a_00043a_000301_00045c,
  0x43e_00043e_000308_0004e7, 0x443_000443_000304_0004ef_000306_00045e_000308_0004f1_00030b_0004f3,
  0x447_000447_000308_0004f5, 0x44b_00044b_000308_0004f9, 0x44d_00044d_000308_0004ed, 0x456_000456_000308_000457,
  0x474_000474_00030f_000476, 0x475_000475_00030f_000477, 0x4d8_0004d8_000308_0004da, 0x4d9_0004d9_000308_0004db,
  0x4e8_0004e8_000308_0004ea, 0x4e9_0004e9_000308_0004eb, 0x627_000627_000653_000622_000654_000623_000655_000625,
  0x648_000648_000654_000624, 0x64a_00064a_000654_000626, 0x6c1_0006c1_000654_0006c2, 0x6d2_0006d2_000654_0006d3,
  0x6d5_0006d5_000654_0006c0, 0x928_000928_00093c_000929, 0x930_000930_00093c_000931, 0x933_000933_00093c_000934,
  0x9c7_0009c7_0009be_0009cb_0009d7_0009cc, 0xb47_000b47_000b3e_000b4b_000b56_000b48_000b57_000b4c,
  0xb92_000b92_000bd7_000b94, 0xbc6_000bc6_000bbe_000bca_000bd7_000bcc, 0xbc7_000bc7_000bbe_000bcb,
  0xc46_000c46_000c56_000c48, 0xcbf_000cbf_000cd5_000cc0, 0xcc6_000cc6_000cc2_000cca_000cd5_000cc7_000cd6_000cc8,
  0xcca_000cca_000cd5_000ccb, 0xd46_000d46_000d3e_000d4a_000d57_000d4c, 0xd47_000d47_000d3e_000d4b,
  0xdd9_000dd9_000dca_000dda_000dcf_000ddc_000ddf_000dde, 0xddc_000ddc_000dca_000ddd, 0x1025_001025_00102e_001026,
  0x1b05_001b05_001b35_001b06, 0x1b07_001b07_001b35_001b08, 0x1b09_001b09_001b35_001b0a, 0x1b0b_001b0b_001b35_001b0c,
  0x1b0d_001b0d_001b35_001b0e, 0x1b11_001b11_001b35_001b12, 0x1b3a_001b3a_001b35_001b3b, 0x1b3c_001b3c_001b35_001b3d,
  0x1b3e_001b3e_001b35_001b40, 0x1b3f_001b3f_001b35_001b41, 0x1b42_001b42_001b35_001b43, 0x1e36_001e36_000304_001e38,
  0x1e37_001e37_000304_001e39, 0x1e5a_001e5a_000304_001e5c, 0x1e5b_001e5b_000304_001e5d, 0x1e62_001e62_000307_001e68,
  0x1e63_001e63_000307_001e69, 0x1ea0_001ea0_000302_001eac_000306_001eb6, 0x1ea1_001ea1_000302_001ead_000306_001eb7,
  0x1eb8_001eb8_000302_001ec6, 0x1eb9_001eb9_000302_001ec7, 0x1ecc_001ecc_000302_001ed8, 0x1ecd_001ecd_000302_001ed9,
  0x1f00_001f00_000300_001f02_000301_001f04_000342_001f06_000345_001f80,
  0x1f01_001f01_000300_001f03_000301_001f05_000342_001f07_000345_001f81, 0x1f02_001f02_000345_001f82,
  0x1f03_001f03_000345_001f83, 0x1f04_001f04_000345_001f84, 0x1f05_001f05_000345_001f85, 0x1f06_001f06_000345_001f86,
  0x1f07_001f07_000345_001f87, 0x1f08_001f08_000300_001f0a_000301_001f0c_000342_001f0e_000345_001f88,
  0x1f09_001f09_000300_001f0b_000301_001f0d_000342_001f0f_000345_001f89, 0x1f0a_001f0a_000345_001f8a,
  0x1f0b_001f0b_000345_001f8b, 0x1f0c_001f0c_000345_001f8c, 0x1f0d_001f0d_000345_001f8d, 0x1f0e_001f0e_000345_001f8e,
  0x1f0f_001f0f_000345_001f8f, 0x1f10_001f10_000300_001f12_000301_001f14, 0x1f11_001f11_000300_001f13_000301_001f15,
  0x1f18_001f18_000300_001f1a_000301_001f1c, 0x1f19_001f19_000300_001f1b_000301_001f1d,
  0x1f20_001f20_000300_001f22_000301_001f24_000342_001f26_000345_001f90,
  0x1f21_001f21_000300_001f23_000301_001f25_000342_001f27_000345_001f91, 0x1f22_001f22_000345_001f92,
  0x1f23_001f23_000345_001f93, 0x1f24_001f24_000345_001f94, 0x1f25_001f25_000345_001f95, 0x1f26_001f26_000345_001f96,
  0x1f27_001f27_000345_001f97, 0x1f28_001f28_000300_001f2a_000301_001f2c_000342_001f2e_000345_001f98,
  0x1f29_001f29_000300_001f2b_000301_001f2d_000342_001f2f_000345_001f99, 0x1f2a_001f2a_000345_001f9a,
  0x1f2b_001f2b_000345_001f9b, 0x1f2c_001f2c_000345_001f9c, 0x1f2d_001f2d_000345_001f9d, 0x1f2e_001f2e_000345_001f9e,
  0x1f2f_001f2f_000345_001f9f, 0x1f30_001f30_000300_001f32_000301_001f34_000342_001f36,
  0x1f31_001f31_000300_001f33_000301_001f35_000342_001f37, 0x1f38_001f38_000300_001f3a_000301_001f3c_000342_001f3e,
  0x1f39_001f39_000300_001f3b_000301_001f3d_000342_001f3f, 0x1f40_001f40_000300_001f42_000301_001f44,
  0x1f41_001f41_000300_001f43_000301_001f45, 0x1f48_001f48_000300_001f4a_000301_001f4c,
  0x1f49_001f49_000300_001f4b_000301_001f4d, 0x1f50_001f50_000300_001f52_000301_001f54_000342_001f56,
  0x1f51_001f51_000300_001f53_000301_001f55_000342_001f57, 0x1f59_001f59_000300_001f5b_000301_001f5d_000342_001f5f,
  0x1f60_001f60_000300_001f62_000301_001f64_000342_001f66_000345_001fa0,
  0x1f61_001f61_000300_001f63_000301_001f65_000342_001f67_000345_001fa1, 0x1f62_001f62_000345_001fa2,
  0x1f63_001f63_000345_001fa3, 0x1f64_001f64_000345_001fa4, 0x1f65_001f65_000345_001fa5, 0x1f66_001f66_000345_001fa6,
  0x1f67_001f67_000345_001fa7, 0x1f68_001f68_000300_001f6a_000301_001f6c_000342_001f6e_000345_001fa8,
  0x1f69_001f69_000300_001f6b_000301_001f6d_000342_001f6f_000345_001fa9, 0x1f6a_001f6a_000345_001faa,
  0x1f6b_001f6b_000345_001fab, 0x1f6c_001f6c_000345_001fac, 0x1f6d_001f6d_000345_001fad, 0x1f6e_001f6e_000345_001fae,
  0x1f6f_001f6f_000345_001faf, 0x1f70_001f70_000345_001fb2, 0x1f74_001f74_000345_001fc2, 0x1f7c_001f7c_000345_001ff2,
  0x1fb6_001fb6_000345_001fb7, 0x1fbf_001fbf_000300_001fcd_000301_001fce_000342_001fcf, 0x1fc6_001fc6_000345_001fc7,
  0x1ff6_001ff6_000345_001ff7, 0x1ffe_001ffe_000300_001fdd_000301_001fde_000342_001fdf, 0x2190_002190_000338_00219a,
  0x2192_002192_000338_00219b, 0x2194_002194_000338_0021ae, 0x21d0_0021d0_000338_0021cd, 0x21d2_0021d2_000338_0021cf,
  0x21d4_0021d4_000338_0021ce, 0x2203_002203_000338_002204, 0x2208_002208_000338_002209, 0x220b_00220b_000338_00220c,
  0x2223_002223_000338_002224, 0x2225_002225_000338_002226, 0x223c_00223c_000338_002241, 0x2243_002243_000338_002244,
  0x2245_002245_000338_002247, 0x2248_002248_000338_002249, 0x224d_00224d_000338_00226d, 0x2261_002261_000338_002262,
  0x2264_002264_000338_002270, 0x2265_002265_000338_002271, 0x2272_002272_000338_002274, 0x2273_002273_000338_002275,
  0x2276_002276_000338_002278, 0x2277_002277_000338_002279, 0x227a_00227a_000338_002280, 0x227b_00227b_000338_002281,
  0x227c_00227c_000338_0022e0, 0x227d_00227d_000338_0022e1, 0x2282_002282_000338_002284, 0x2283_002283_000338_002285,
  0x2286_002286_000338_002288, 0x2287_002287_000338_002289, 0x2291_002291_000338_0022e2, 0x2292_002292_000338_0022e3,
  0x22a2_0022a2_000338_0022ac, 0x22a8_0022a8_000338_0022ad, 0x22a9_0022a9_000338_0022ae, 0x22ab_0022ab_000338_0022af,
  0x22b2_0022b2_000338_0022ea, 0x22b3_0022b3_000338_0022eb, 0x22b4_0022b4_000338_0022ec, 0x22b5_0022b5_000338_0022ed,
  0x3046_003046_003099_003094, 0x304b_00304b_003099_00304c, 0x304d_00304d_003099_00304e, 0x304f_00304f_003099_003050,
  0x3051_003051_003099_003052, 0x3053_003053_003099_003054, 0x3055_003055_003099_003056, 0x3057_003057_003099_003058,
  0x3059_003059_003099_00305a, 0x305b_00305b_003099_00305c, 0x305d_00305d_003099_00305e, 0x305f_00305f_003099_003060,
  0x3061_003061_003099_003062, 0x3064_003064_003099_003065, 0x3066_003066_003099_003067, 0x3068_003068_003099_003069,
  0x306f_00306f_003099_003070_00309a_003071, 0x3072_003072_003099_003073_00309a_003074,
  0x3075_003075_003099_003076_00309a_003077, 0x3078_003078_003099_003079_00309a_00307a,
  0x307b_00307b_003099_00307c_00309a_00307d, 0x309d_00309d_003099_00309e, 0x30a6_0030a6_003099_0030f4,
  0x30ab_0030ab_003099_0030ac, 0x30ad_0030ad_003099_0030ae, 0x30af_0030af_003099_0030b0, 0x30b1_0030b1_003099_0030b2,
  0x30b3_0030b3_003099_0030b4, 0x30b5_0030b5_003099_0030b6, 0x30b7_0030b7_003099_0030b8, 0x30b9_0030b9_003099_0030ba,
  0x30bb_0030bb_003099_0030bc, 0x30bd_0030bd_003099_0030be, 0x30bf_0030bf_003099_0030c0, 0x30c1_0030c1_003099_0030c2,
  0x30c4_0030c4_003099_0030c5, 0x30c6_0030c6_003099_0030c7, 0x30c8_0030c8_003099_0030c9,
  0x30cf_0030cf_003099_0030d0_00309a_0030d1, 0x30d2_0030d2_003099_0030d3_00309a_0030d4,
  0x30d5_0030d5_003099_0030d6_00309a_0030d7, 0x30d8_0030d8_003099_0030d9_00309a_0030da,
  0x30db_0030db_003099_0030dc_00309a_0030dd, 0x30ef_0030ef_003099_0030f7, 0x30f0_0030f0_003099_0030f8,
  0x30f1_0030f1_003099_0030f9, 0x30f2_0030f2_003099_0030fa, 0x30fd_0030fd_003099_0030fe,
  0x105d2_0105d2_000307_0105c9, 0x105da_0105da_000307_0105e4, 0x11099_011099_0110ba_01109a,
  0x1109b_01109b_0110ba_01109c, 0x110a5_0110a5_0110ba_0110ab, 0x11131_011131_011127_01112e,
  0x11132_011132_011127_01112f, 0x11347_011347_01133e_01134b_011357_01134c, 0x11382_011382_0113c9_011383,
  0x11384_011384_0113bb_011385, 0x1138b_01138b_0113c2_01138e, 0x11390_011390_0113c9_011391,
  0x113c2_0113c2_0113b8_0113c7_0113c2_0113c5_0113c9_0113c8, 0x114b9_0114b9_0114b0_0114bc_0114ba_0114bb_0114bd_0114be,
  0x115b8_0115b8_0115af_0115ba, 0x115b9_0115b9_0115af_0115bb, 0x11935_011935_011930_011938,
  0x1611e_01611e_01611e_016121_01611f_016123_016120_016125_016129_016122, 0x16121_016121_01611f_016126_016120_016128,
  0x16122_016122_01611f_016127, 0x16129_016129_01611f_016124, 0x16d63_016d63_016d67_016d69,
  0x16d67_016d67_016d67_016d68, 0x16d69_016d69_016d67_016d6a]

end IdentityClient.Idna
