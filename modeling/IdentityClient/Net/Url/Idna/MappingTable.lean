import IdentityClient.Text.CodeTable

/-!
# What happens to a character of an international name

Characters outside ASCII that are replaced, dropped or refused before a name is looked at; all others
stay as they are.
-/

namespace IdentityClient.Idna

set_option maxRecDepth 100000 in
/-- Characters that are replaced by others. -/
def mappingTable : CodeTable := .ofRows [
  0xa0_0000a0_000020, 0xa8_0000a8_000020_000308, 0xaa_0000aa_000061, 0xaf_0000af_000020_000304, 0xb2_0000b2_000032,
  0xb3_0000b3_000033, 0xb4_0000b4_000020_000301, 0xb5_0000b5_0003bc, 0xb8_0000b8_000020_000327, 0xb9_0000b9_000031,
  0xba_0000ba_00006f, 0xbc_0000bc_000031_002044_000034, 0xbd_0000bd_000031_002044_000032,
  0xbe_0000be_000033_002044_000034, 0xc0_0000c0_0000e0, 0xc1_0000c1_0000e1, 0xc2_0000c2_0000e2, 0xc3_0000c3_0000e3,
  0xc4_0000c4_0000e4, 0xc5_0000c5_0000e5, 0xc6_0000c6_0000e6, 0xc7_0000c7_0000e7, 0xc8_0000c8_0000e8,
  0xc9_0000c9_0000e9, 0xca_0000ca_0000ea, 0xcb_0000cb_0000eb, 0xcc_0000cc_0000ec, 0xcd_0000cd_0000ed,
  0xce_0000ce_0000ee, 0xcf_0000cf_0000ef, 0xd0_0000d0_0000f0, 0xd1_0000d1_0000f1, 0xd2_0000d2_0000f2,
  0xd3_0000d3_0000f3, 0xd4_0000d4_0000f4, 0xd5_0000d5_0000f5, 0xd6_0000d6_0000f6, 0xd8_0000d8_0000f8,
  0xd9_0000d9_0000f9, 0xda_0000da_0000fa, 0xdb_0000db_0000fb, 0xdc_0000dc_0000fc, 0xdd_0000dd_0000fd,
  0xde_0000de_0000fe, 0x100_000100_000101, 0x102_000102_000103, 0x104_000104_000105, 0x106_000106_000107,
  0x108_000108_000109, 0x10a_00010a_00010b, 0x10c_00010c_00010d, 0x10e_00010e_00010f, 0x110_000110_000111,
  0x112_000112_000113, 0x114_000114_000115, 0x116_000116_000117, 0x118_000118_000119, 0x11a_00011a_00011b,
  0x11c_00011c_00011d, 0x11e_00011e_00011f, 0x120_000120_000121, 0x122_000122_000123, 0x124_000124_000125,
  0x126_000126_000127, 0x128_000128_000129, 0x12a_00012a_00012b, 0x12c_00012c_00012d, 0x12e_00012e_00012f,
  0x130_000130_000069_000307, 0x132_000133_000069_00006a, 0x134_000134_000135, 0x136_000136_000137,
  0x139_000139_00013a, 0x13b_00013b_00013c, 0x13d_00013d_00013e, 0x13f_000140_00006c_0000b7, 0x141_000141_000142,
  0x143_000143_000144, 0x145_000145_000146, 0x147_000147_000148, 0x149_000149_0002bc_00006e, 0x14a_00014a_00014b,
  0x14c_00014c_00014d, 0x14e_00014e_00014f, 0x150_000150_000151, 0x152_000152_000153, 0x154_000154_000155,
  0x156_000156_000157, 0x158_000158_000159, 0x15a_00015a_00015b, 0x15c_00015c_00015d, 0x15e_00015e_00015f,
  0x160_000160_000161, 0x162_000162_000163, 0x164_000164_000165, 0x166_000166_000167, 0x168_000168_000169,
  0x16a_00016a_00016b, 0x16c_00016c_00016d, 0x16e_00016e_00016f, 0x170_000170_000171, 0x172_000172_000173,
  0x174_000174_000175, 0x176_000176_000177, 0x178_000178_0000ff, 0x179_000179_00017a, 0x17b_00017b_00017c,
  0x17d_00017d_00017e, 0x17f_00017f_000073, 0x181_000181_000253, 0x182_000182_000183, 0x184_000184_000185,
  0x186_000186_000254, 0x187_000187_000188, 0x189_000189_000256, 0x18a_00018a_000257, 0x18b_00018b_00018c,
  0x18e_00018e_0001dd, 0x18f_00018f_000259, 0x190_000190_00025b, 0x191_000191_000192, 0x193_000193_000260,
  0x194_000194_000263, 0x196_000196_000269, 0x197_000197_000268, 0x198_000198_000199, 0x19c_00019c_00026f,
  0x19d_00019d_000272, 0x19f_00019f_000275, 0x1a0_0001a0_0001a1, 0x1a2_0001a2_0001a3, 0x1a4_0001a4_0001a5,
  0x1a6_0001a6_000280, 0x1a7_0001a7_0001a8, 0x1a9_0001a9_000283, 0x1ac_0001ac_0001ad, 0x1ae_0001ae_000288,
  0x1af_0001af_0001b0, 0x1b1_0001b1_00028a, 0x1b2_0001b2_00028b, 0x1b3_0001b3_0001b4, 0x1b5_0001b5_0001b6,
  0x1b7_0001b7_000292, 0x1b8_0001b8_0001b9, 0x1bc_0001bc_0001bd, 0x1c4_0001c6_000064_00017e,
  0x1c7_0001c9_00006c_00006a, 0x1ca_0001cc_00006e_00006a, 0x1cd_0001cd_0001ce, 0x1cf_0001cf_0001d0,
  0x1d1_0001d1_0001d2, 0x1d3_0001d3_0001d4, 0x1d5_0001d5_0001d6, 0x1d7_0001d7_0001d8, 0x1d9_0001d9_0001da,
  0x1db_0001db_0001dc, 0x1de_0001de_0001df, 0x1e0_0001e0_0001e1, 0x1e2_0001e2_0001e3, 0x1e4_0001e4_0001e5,
  0x1e6_0001e6_0001e7, 0x1e8_0001e8_0001e9, 0x1ea_0001ea_0001eb, 0x1ec_0001ec_0001ed, 0x1ee_0001ee_0001ef,
  0x1f1_0001f3_000064_00007a, 0x1f4_0001f4_0001f5, 0x1f6_0001f6_000195, 0x1f7_0001f7_0001bf, 0x1f8_0001f8_0001f9,
  0x1fa_0001fa_0001fb, 0x1fc_0001fc_0001fd, 0x1fe_0001fe_0001ff, 0x200_000200_000201, 0x202_000202_000203,
  0x204_000204_000205, 0x206_000206_000207, 0x208_000208_000209, 0x20a_00020a_00020b, 0x20c_00020c_00020d,
  0x20e_00020e_00020f, 0x210_000210_000211, 0x212_000212_000213, 0x214_000214_000215, 0x216_000216_000217,
  0x218_000218_000219, 0x21a_00021a_00021b, 0x21c_00021c_00021d, 0x21e_00021e_00021f, 0x220_000220_00019e,
  0x222_000222_000223, 0x224_000224_000225, 0x226_000226_000227, 0x228_000228_000229, 0x22a_00022a_00022b,
  0x22c_00022c_00022d, 0x22e_00022e_00022f, 0x230_000230_000231, 0x232_000232_000233, 0x23a_00023a_002c65,
  0x23b_00023b_00023c, 0x23d_00023d_00019a, 0x23e_00023e_002c66, 0x241_000241_000242, 0x243_000243_000180,
  0x244_000244_000289, 0x245_000245_00028c, 0x246_000246_000247, 0x248_000248_000249, 0x24a_00024a_00024b,
  0x24c_00024c_00024d, 0x24e_00024e_00024f, 0x2b0_0002b0_000068, 0x2b1_0002b1_000266, 0x2b2_0002b2_00006a,
  0x2b3_0002b3_000072, 0x2b4_0002b4_000279, 0x2b5_0002b5_00027b, 0x2b6_0002b6_000281, 0x2b7_0002b7_000077,
  0x2b8_0002b8_000079, 0x2d8_0002d8_000020_000306, 0x2d9_0002d9_000020_000307, 0x2da_0002da_000020_00030a,
  0x2db_0002db_000020_000328, 0x2dc_0002dc_000020_000303, 0x2dd_0002dd_000020_00030b, 0x2e0_0002e0_000263,
  0x2e1_0002e1_00006c, 0x2e2_0002e2_000073, 0x2e3_0002e3_000078, 0x2e4_0002e4_000295, 0x340_000340_000300,
  0x341_000341_000301, 0x343_000343_000313, 0x344_000344_000308_000301, 0x345_000345_0003b9, 0x370_000370_000371,
  0x372_000372_000373, 0x374_000374_0002b9, 0x376_000376_000377, 0x37a_00037a_000020_0003b9, 0x37e_00037e_00003b,
  0x37f_00037f_0003f3, 0x384_000384_000020_000301, 0x385_000385_000020_000308_000301, 0x386_000386_0003ac,
  0x387_000387_0000b7, 0x388_000388_0003ad, 0x389_000389_0003ae, 0x38a_00038a_0003af, 0x38c_00038c_0003cc,
  0x38e_00038e_0003cd, 0x38f_00038f_0003ce, 0x391_000391_0003b1, 0x392_000392_0003b2, 0x393_000393_0003b3,
  0x394_000394_0003b4, 0x395_000395_0003b5, 0x396_000396_0003b6, 0x397_000397_0003b7, 0x398_000398_0003b8,
  0x399_000399_0003b9, 0x39a_00039a_0003ba, 0x39b_00039b_0003bb, 0x39c_00039c_0003bc, 0x39d_00039d_0003bd,
  0x39e_00039e_0003be, 0x39f_00039f_0003bf, 0x3a0_0003a0_0003c0, 0x3a1_0003a1_0003c1, 0x3a3_0003a3_0003c3,
  0x3a4_0003a4_0003c4, 0x3a5_0003a5_0003c5, 0x3a6_0003a6_0003c6, 0x3a7_0003a7_0003c7, 0x3a8_0003a8_0003c8,
  0x3a9_0003a9_0003c9, 0x3aa_0003aa_0003ca, 0x3ab_0003ab_0003cb, 0x3cf_0003cf_0003d7, 0x3d0_0003d0_0003b2,
  0x3d1_0003d1_0003b8, 0x3d2_0003d2_0003c5, 0x3d3_0003d3_0003cd, 0x3d4_0003d4_0003cb, 0x3d5_0003d5_0003c6,
  0x3d6_0003d6_0003c0, 0x3d8_0003d8_0003d9, 0x3da_0003da_0003db, 0x3dc_0003dc_0003dd, 0x3de_0003de_0003df,
  0x3e0_0003e0_0003e1, 0x3e2_0003e2_0003e3, 0x3e4_0003e4_0003e5, 0x3e6_0003e6_0003e7, 0x3e8_0003e8_0003e9,
  0x3ea_0003ea_0003eb, 0x3ec_0003ec_0003ed, 0x3ee_0003ee_0003ef, 0x3f0_0003f0_0003ba, 0x3f1_0003f1_0003c1,
  0x3f2_0003f2_0003c3, 0x3f4_0003f4_0003b8, 0x3f5_0003f5_0003b5, 0x3f7_0003f7_0003f8, 0x3f9_0003f9_0003c3,
  0x3fa_0003fa_0003fb, 0x3fd_0003fd_00037b, 0x3fe_0003fe_00037c, 0x3ff_0003ff_00037d, 0x400_000400_000450,
  0x401_000401_000451, 0x402_000402_000452, 0x403_000403_000453, 0x404_000404_000454, 0x405_000405_000455,
  0x406_000406_000456, 0x407_000407_000457, 0x408_000408_000458, 0x409_000409_000459, 0x40a_00040a_00045a,
  0x40b_00040b_00045b, 0x40c_00040c_00045c, 0x40d_00040d_00045d, 0x40e_00040e_00045e, 0x40f_00040f_00045f,
  0x410_000410_000430, 0x411_000411_000431, 0x412_000412_000432, 0x413_000413_000433, 0x414_000414_000434,
  0x415_000415_000435, 0x416_000416_000436, 0x417_000417_000437, 0x418_000418_000438, 0x419_000419_000439,
  0x41a_00041a_00043a, 0x41b_00041b_00043b, 0x41c_00041c_00043c, 0x41d_00041d_00043d, 0x41e_00041e_00043e,
  0x41f_00041f_00043f, 0x420_000420_000440, 0x421_000421_000441, 0x422_000422_000442, 0x423_000423_000443,
  0x424_000424_000444, 0x425_000425_000445, 0x426_000426_000446, 0x427_000427_000447, 0x428_000428_000448,
  0x429_000429_000449, 0x42a_00042a_00044a, 0x42b_00042b_00044b, 0x42c_00042c_00044c, 0x42d_00042d_00044d,
  0x42e_00042e_00044e, 0x42f_00042f_00044f, 0x460_000460_000461, 0x462_000462_000463, 0x464_000464_000465,
  0x466_000466_000467, 0x468_000468_000469, 0x46a_00046a_00046b, 0x46c_00046c_00046d, 0x46e_00046e_00046f,
  0x470_000470_000471, 0x472_000472_000473, 0x474_000474_000475, 0x476_000476_000477, 0x478_000478_000479,
  0x47a_00047a_00047b, 0x47c_00047c_00047d, 0x47e_00047e_00047f, 0x480_000480_000481, 0x48a_00048a_00048b,
  0x48c_00048c_00048d, 0x48e_00048e_00048f, 0x490_000490_000491, 0x492_000492_000493, 0x494_000494_000495,
  0x496_000496_000497, 0x498_000498_000499, 0x49a_00049a_00049b, 0x49c_00049c_00049d, 0x49e_00049e_00049f,
  0x4a0_0004a0_0004a1, 0x4a2_0004a2_0004a3, 0x4a4_0004a4_0004a5, 0x4a6_0004a6_0004a7, 0x4a8_0004a8_0004a9,
  0x4aa_0004aa_0004ab, 0x4ac_0004ac_0004ad, 0x4ae_0004ae_0004af, 0x4b0_0004b0_0004b1, 0x4b2_0004b2_0004b3,
  0x4b4_0004b4_0004b5, 0x4b6_0004b6_0004b7, 0x4b8_0004b8_0004b9, 0x4ba_0004ba_0004bb, 0x4bc_0004bc_0004bd,
  0x4be_0004be_0004bf, 0x4c0_0004c0_0004cf, 0x4c1_0004c1_0004c2, 0x4c3_0004c3_0004c4, 0x4c5_0004c5_0004c6,
  0x4c7_0004c7_0004c8, 0x4c9_0004c9_0004ca, 0x4cb_0004cb_0004cc, 0x4cd_0004cd_0004ce, 0x4d0_0004d0_0004d1,
  0x4d2_0004d2_0004d3, 0x4d4_0004d4_0004d5, 0x4d6_0004d6_0004d7, 0x4d8_0004d8_0004d9, 0x4da_0004da_0004db,
  0x4dc_0004dc_0004dd, 0x4de_0004de_0004df, 0x4e0_0004e0_0004e1, 0x4e2_0004e2_0004e3, 0x4e4_0004e4_0004e5,
  0x4e6_0004e6_0004e7, 0x4e8_0004e8_0004e9, 0x4ea_0004ea_0004eb, 0x4ec_0004ec_0004ed, 0x4ee_0004ee_0004ef,
  0x4f0_0004f0_0004f1, 0x4f2_0004f2_0004f3, 0x4f4_0004f4_0004f5, 0x4f6_0004f6_0004f7, 0x4f8_0004f8_0004f9,
  0x4fa_0004fa_0004fb, 0x4fc_0004fc_0004fd, 0x4fe_0004fe_0004ff, 0x500_000500_000501, 0x502_000502_000503,
  0x504_000504_000505, 0x506_000506_000507, 0x508_000508_000509, 0x50a_00050a_00050b, 0x50c_00050c_00050d,
  0x50e_00050e_00050f, 0x510_000510_000511, 0x512_000512_000513, 0x514_000514_000515, 0x516_000516_000517,
  0x518_000518_000519, 0x51a_00051a_00051b, 0x51c_00051c_00051d, 0x51e_00051e_00051f, 0x520_000520_000521,
  0x522_000522_000523, 0x524_000524_000525, 0x526_000526_000527, 0x528_000528_000529, 0x52a_00052a_00052b,
  0x52c_00052c_00052d, 0x52e_00052e_00052f, 0x531_000531_000561, 0x532_000532_000562, 0x533_000533_000563,
  0x534_000534_000564, 0x535_000535_000565, 0x536_000536_000566, 0x537_000537_000567, 0x538_000538_000568,
  0x539_000539_000569, 0x53a_00053a_00056a, 0x53b_00053b_00056b, 0x53c_00053c_00056c, 0x53d_00053d_00056d,
  0x53e_00053e_00056e, 0x53f_00053f_00056f, 0x540_000540_000570, 0x541_000541_000571, 0x542_000542_000572,
  0x543_000543_000573, 0x544_000544_000574, 0x545_000545_000575, 0x546_000546_000576, 0x547_000547_000577,
  0x548_000548_000578, 0x549_000549_000579, 0x54a_00054a_00057a, 0x54b_00054b_00057b, 0x54c_00054c_00057c,
  0x54d_00054d_00057d, 0x54e_00054e_00057e, 0x54f_00054f_00057f, 0x550_000550_000580, 0x551_000551_000581,
  0x552_000552_000582, 0x553_000553_000583, 0x554_000554_000584, 0x555_000555_000585, 0x556_000556_000586,
  0x587_000587_000565_000582, 0x58b_00058b_00056b, 0x58c_00058c_000575, 0x675_000675_000627_000674,
  0x676_000676_000648_000674, 0x677_000677_0006c7_000674, 0x678_000678_00064a_000674, 0x958_000958_000915_00093c,
  0x959_000959_000916_00093c, 0x95a_00095a_000917_00093c, 0x95b_00095b_00091c_00093c, 0x95c_00095c_000921_00093c,
  0x95d_00095d_000922_00093c, 0x95e_00095e_00092b_00093c, 0x95f_00095f_00092f_00093c, 0x9dc_0009dc_0009a1_0009bc,
  0x9dd_0009dd_0009a2_0009bc, 0x9df_0009df_0009af_0009bc, 0xa33_000a33_000a32_000a3c, 0xa36_000a36_000a38_000a3c,
  0xa59_000a59_000a16_000a3c, 0xa5a_000a5a_000a17_000a3c, 0xa5b_000a5b_000a1c_000a3c, 0xa5e_000a5e_000a2b_000a3c,
  0xb5c_000b5c_000b21_000b3c, 0xb5d_000b5d_000b22_000b3c, 0xe33_000e33_000e4d_000e32, 0xeb3_000eb3_000ecd_000eb2,
  0xedc_000edc_000eab_000e99, 0xedd_000edd_000eab_000ea1, 0xf0c_000f0c_000f0b, 0xf43_000f43_000f42_000fb7,
  0xf4d_000f4d_000f4c_000fb7, 0xf52_000f52_000f51_000fb7, 0xf57_000f57_000f56_000fb7, 0xf5c_000f5c_000f5b_000fb7,
  0xf69_000f69_000f40_000fb5, 0xf73_000f73_000f71_000f72, 0xf75_000f75_000f71_000f74, 0xf76_000f76_000fb2_000f80,
  0xf77_000f77_000fb2_000f71_000f80, 0xf78_000f78_000fb3_000f80, 0xf79_000f79_000fb3_000f71_000f80,
  0xf81_000f81_000f71_000f80, 0xf93_000f93_000f92_000fb7, 0xf9d_000f9d_000f9c_000fb7, 0xfa2_000fa2_000fa1_000fb7,
  0xfa7_000fa7_000fa6_000fb7, 0xfac_000fac_000fab_000fb7, 0xfb9_000fb9_000f90_000fb5, 0x10a0_0010a0_002d00,
  0x10a1_0010a1_002d01, 0x10a2_0010a2_002d02, 0x10a3_0010a3_002d03, 0x10a4_0010a4_002d04, 0x10a5_0010a5_002d05,
  0x10a6_0010a6_002d06, 0x10a7_0010a7_002d07, 0x10a8_0010a8_002d08, 0x10a9_0010a9_002d09, 0x10aa_0010aa_002d0a,
  0x10ab_0010ab_002d0b, 0x10ac_0010ac_002d0c, 0x10ad_0010ad_002d0d, 0x10ae_0010ae_002d0e, 0x10af_0010af_002d0f,
  0x10b0_0010b0_002d10, 0x10b1_0010b1_002d11, 0x10b2_0010b2_002d12, 0x10b3_0010b3_002d13, 0x10b4_0010b4_002d14,
  0x10b5_0010b5_002d15, 0x10b6_0010b6_002d16, 0x10b7_0010b7_002d17, 0x10b8_0010b8_002d18, 0x10b9_0010b9_002d19,
  0x10ba_0010ba_002d1a, 0x10bb_0010bb_002d1b, 0x10bc_0010bc_002d1c, 0x10bd_0010bd_002d1d, 0x10be_0010be_002d1e,
  0x10bf_0010bf_002d1f, 0x10c0_0010c0_002d20, 0x10c1_0010c1_002d21, 0x10c2_0010c2_002d22, 0x10c3_0010c3_002d23,
  0x10c4_0010c4_002d24, 0x10c5_0010c5_002d25, 0x10c7_0010c7_002d27, 0x10cd_0010cd_002d2d, 0x10fc_0010fc_0010dc,
  0x13f8_0013f8_0013f0, 0x13f9_0013f9_0013f1, 0x13fa_0013fa_0013f2, 0x13fb_0013fb_0013f3, 0x13fc_0013fc_0013f4,
  0x13fd_0013fd_0013f5, 0x1c80_001c80_000432, 0x1c81_001c81_000434, 0x1c82_001c82_00043e, 0x1c83_001c83_000441,
  0x1c84_001c85_000442, 0x1c86_001c86_00044a, 0x1c87_001c87_000463, 0x1c88_001c88_00a64b, 0x1c89_001c89_001c8a,
  0x1c90_001c90_0010d0, 0x1c91_001c91_0010d1, 0x1c92_001c92_0010d2, 0x1c93_001c93_0010d3, 0x1c94_001c94_0010d4,
  0x1c95_001c95_0010d5, 0x1c96_001c96_0010d6, 0x1c97_001c97_0010d7, 0x1c98_001c98_0010d8, 0x1c99_001c99_0010d9,
  0x1c9a_001c9a_0010da, 0x1c9b_001c9b_0010db, 0x1c9c_001c9c_0010dc, 0x1c9d_001c9d_0010dd, 0x1c9e_001c9e_0010de,
  0x1c9f_001c9f_0010df, 0x1ca0_001ca0_0010e0, 0x1ca1_001ca1_0010e1, 0x1ca2_001ca2_0010e2, 0x1ca3_001ca3_0010e3,
  0x1ca4_001ca4_0010e4, 0x1ca5_001ca5_0010e5, 0x1ca6_001ca6_0010e6, 0x1ca7_001ca7_0010e7, 0x1ca8_001ca8_0010e8,
  0x1ca9_001ca9_0010e9, 0x1caa_001caa_0010ea, 0x1cab_001cab_0010eb, 0x1cac_001cac_0010ec, 0x1cad_001cad_0010ed,
  0x1cae_001cae_0010ee, 0x1caf_001caf_0010ef, 0x1cb0_001cb0_0010f0, 0x1cb1_001cb1_0010f1, 0x1cb2_001cb2_0010f2,
  0x1cb3_001cb3_0010f3, 0x1cb4_001cb4_0010f4, 0x1cb5_001cb5_0010f5, 0x1cb6_001cb6_0010f6, 0x1cb7_001cb7_0010f7,
  0x1cb8_001cb8_0010f8, 0x1cb9_001cb9_0010f9, 0x1cba_001cba_0010fa, 0x1cbd_001cbd_0010fd, 0x1cbe_001cbe_0010fe,
  0x1cbf_001cbf_0010ff, 0x1d2c_001d2c_000061, 0x1d2d_001d2d_0000e6, 0x1d2e_001d2e_000062, 0x1d30_001d30_000064,
  0x1d31_001d31_000065, 0x1d32_001d32_0001dd, 0x1d33_001d33_000067, 0x1d34_001d34_000068, 0x1d35_001d35_000069,
  0x1d36_001d36_00006a, 0x1d37_001d37_00006b, 0x1d38_001d38_00006c, 0x1d39_001d39_00006d, 0x1d3a_001d3a_00006e,
  0x1d3c_001d3c_00006f, 0x1d3d_001d3d_000223, 0x1d3e_001d3e_000070, 0x1d3f_001d3f_000072, 0x1d40_001d40_000074,
  0x1d41_001d41_000075, 0x1d42_001d42_000077, 0x1d43_001d43_000061, 0x1d44_001d44_000250, 0x1d45_001d45_000251,
  0x1d46_001d46_001d02, 0x1d47_001d47_000062, 0x1d48_001d48_000064, 0x1d49_001d49_000065, 0x1d4a_001d4a_000259,
  0x1d4b_001d4b_00025b, 0x1d4c_001d4c_00025c, 0x1d4d_001d4d_000067, 0x1d4f_001d4f_00006b, 0x1d50_001d50_00006d,
  0x1d51_001d51_00014b, 0x1d52_001d52_00006f, 0x1d53_001d53_000254, 0x1d54_001d54_001d16, 0x1d55_001d55_001d17,
  0x1d56_001d56_000070, 0x1d57_001d57_000074, 0x1d58_001d58_000075, 0x1d59_001d59_001d1d, 0x1d5a_001d5a_00026f,
  0x1d5b_001d5b_000076, 0x1d5c_001d5c_001d25, 0x1d5d_001d5d_0003b2, 0x1d5e_001d5e_0003b3, 0x1d5f_001d5f_0003b4,
  0x1d60_001d60_0003c6, 0x1d61_001d61_0003c7, 0x1d62_001d62_000069, 0x1d63_001d63_000072, 0x1d64_001d64_000075,
  0x1d65_001d65_000076, 0x1d66_001d66_0003b2, 0x1d67_001d67_0003b3, 0x1d68_001d68_0003c1, 0x1d69_001d69_0003c6,
  0x1d6a_001d6a_0003c7, 0x1d78_001d78_00043d, 0x1d9b_001d9b_000252, 0x1d9c_001d9c_000063, 0x1d9d_001d9d_000255,
  0x1d9e_001d9e_0000f0, 0x1d9f_001d9f_00025c, 0x1da0_001da0_000066, 0x1da1_001da1_00025f, 0x1da2_001da2_000261,
  0x1da3_001da3_000265, 0x1da4_001da4_000268, 0x1da5_001da5_000269, 0x1da6_001da6_00026a, 0x1da7_001da7_001d7b,
  0x1da8_001da8_00029d, 0x1da9_001da9_00026d, 0x1daa_001daa_001d85, 0x1dab_001dab_00029f, 0x1dac_001dac_000271,
  0x1dad_001dad_000270, 0x1dae_001dae_000272, 0x1daf_001daf_000273, 0x1db0_001db0_000274, 0x1db1_001db1_000275,
  0x1db2_001db2_000278, 0x1db3_001db3_000282, 0x1db4_001db4_000283, 0x1db5_001db5_0001ab, 0x1db6_001db6_000289,
  0x1db7_001db7_00028a, 0x1db8_001db8_001d1c, 0x1db9_001db9_00028b, 0x1dba_001dba_00028c, 0x1dbb_001dbb_00007a,
  0x1dbc_001dbc_000290, 0x1dbd_001dbd_000291, 0x1dbe_001dbe_000292, 0x1dbf_001dbf_0003b8, 0x1e00_001e00_001e01,
  0x1e02_001e02_001e03, 0x1e04_001e04_001e05, 0x1e06_001e06_001e07, 0x1e08_001e08_001e09, 0x1e0a_001e0a_001e0b,
  0x1e0c_001e0c_001e0d, 0x1e0e_001e0e_001e0f, 0x1e10_001e10_001e11, 0x1e12_001e12_001e13, 0x1e14_001e14_001e15,
  0x1e16_001e16_001e17, 0x1e18_001e18_001e19, 0x1e1a_001e1a_001e1b, 0x1e1c_001e1c_001e1d, 0x1e1e_001e1e_001e1f,
  0x1e20_001e20_001e21, 0x1e22_001e22_001e23, 0x1e24_001e24_001e25, 0x1e26_001e26_001e27, 0x1e28_001e28_001e29,
  0x1e2a_001e2a_001e2b, 0x1e2c_001e2c_001e2d, 0x1e2e_001e2e_001e2f, 0x1e30_001e30_001e31, 0x1e32_001e32_001e33,
  0x1e34_001e34_001e35, 0x1e36_001e36_001e37, 0x1e38_001e38_001e39, 0x1e3a_001e3a_001e3b, 0x1e3c_001e3c_001e3d,
  0x1e3e_001e3e_001e3f, 0x1e40_001e40_001e41, 0x1e42_001e42_001e43, 0x1e44_001e44_001e45, 0x1e46_001e46_001e47,
  0x1e48_001e48_001e49, 0x1e4a_001e4a_001e4b, 0x1e4c_001e4c_001e4d, 0x1e4e_001e4e_001e4f, 0x1e50_001e50_001e51,
  0x1e52_001e52_001e53, 0x1e54_001e54_001e55, 0x1e56_001e56_001e57, 0x1e58_001e58_001e59, 0x1e5a_001e5a_001e5b,
  0x1e5c_001e5c_001e5d, 0x1e5e_001e5e_001e5f, 0x1e60_001e60_001e61, 0x1e62_001e62_001e63, 0x1e64_001e64_001e65,
  0x1e66_001e66_001e67, 0x1e68_001e68_001e69, 0x1e6a_001e6a_001e6b, 0x1e6c_001e6c_001e6d, 0x1e6e_001e6e_001e6f,
  0x1e70_001e70_001e71, 0x1e72_001e72_001e73, 0x1e74_001e74_001e75, 0x1e76_001e76_001e77, 0x1e78_001e78_001e79,
  0x1e7a_001e7a_001e7b, 0x1e7c_001e7c_001e7d, 0x1e7e_001e7e_001e7f, 0x1e80_001e80_001e81, 0x1e82_001e82_001e83,
  0x1e84_001e84_001e85, 0x1e86_001e86_001e87, 0x1e88_001e88_001e89, 0x1e8a_001e8a_001e8b, 0x1e8c_001e8c_001e8d,
  0x1e8e_001e8e_001e8f, 0x1e90_001e90_001e91, 0x1e92_001e92_001e93, 0x1e94_001e94_001e95,
  0x1e9a_001e9a_000061_0002be, 0x1e9b_001e9b_001e61, 0x1e9e_001e9e_0000df, 0x1ea0_001ea0_001ea1,
  0x1ea2_001ea2_001ea3, 0x1ea4_001ea4_001ea5, 0x1ea6_001ea6_001ea7, 0x1ea8_001ea8_001ea9, 0x1eaa_001eaa_001eab,
  0x1eac_001eac_001ead, 0x1eae_001eae_001eaf, 0x1eb0_001eb0_001eb1, 0x1eb2_001eb2_001eb3, 0x1eb4_001eb4_001eb5,
  0x1eb6_001eb6_001eb7, 0x1eb8_001eb8_001eb9, 0x1eba_001eba_001ebb, 0x1ebc_001ebc_001ebd, 0x1ebe_001ebe_001ebf,
  0x1ec0_001ec0_001ec1, 0x1ec2_001ec2_001ec3, 0x1ec4_001ec4_001ec5, 0x1ec6_001ec6_001ec7, 0x1ec8_001ec8_001ec9,
  0x1eca_001eca_001ecb, 0x1ecc_001ecc_001ecd, 0x1ece_001ece_001ecf, 0x1ed0_001ed0_001ed1, 0x1ed2_001ed2_001ed3,
  0x1ed4_001ed4_001ed5, 0x1ed6_001ed6_001ed7, 0x1ed8_001ed8_001ed9, 0x1eda_001eda_001edb, 0x1edc_001edc_001edd,
  0x1ede_001ede_001edf, 0x1ee0_001ee0_001ee1, 0x1ee2_001ee2_001ee3, 0x1ee4_001ee4_001ee5, 0x1ee6_001ee6_001ee7,
  0x1ee8_001ee8_001ee9, 0x1eea_001eea_001eeb, 0x1eec_001eec_001eed, 0x1eee_001eee_001eef, 0x1ef0_001ef0_001ef1,
  0x1ef2_001ef2_001ef3, 0x1ef4_001ef4_001ef5, 0x1ef6_001ef6_001ef7, 0x1ef8_001ef8_001ef9, 0x1efa_001efa_001efb,
  0x1efc_001efc_001efd, 0x1efe_001efe_001eff, 0x1f08_001f08_001f00, 0x1f09_001f09_001f01, 0x1f0a_001f0a_001f02,
  0x1f0b_001f0b_001f03, 0x1f0c_001f0c_001f04, 0x1f0d_001f0d_001f05, 0x1f0e_001f0e_001f06, 0x1f0f_001f0f_001f07,
  0x1f18_001f18_001f10, 0x1f19_001f19_001f11, 0x1f1a_001f1a_001f12, 0x1f1b_001f1b_001f13, 0x1f1c_001f1c_001f14,
  0x1f1d_001f1d_001f15, 0x1f28_001f28_001f20, 0x1f29_001f29_001f21, 0x1f2a_001f2a_001f22, 0x1f2b_001f2b_001f23,
  0x1f2c_001f2c_001f24, 0x1f2d_001f2d_001f25, 0x1f2e_001f2e_001f26, 0x1f2f_001f2f_001f27, 0x1f38_001f38_001f30,
  0x1f39_001f39_001f31, 0x1f3a_001f3a_001f32, 0x1f3b_001f3b_001f33, 0x1f3c_001f3c_001f34, 0x1f3d_001f3d_001f35,
  0x1f3e_001f3e_001f36, 0x1f3f_001f3f_001f37, 0x1f48_001f48_001f40, 0x1f49_001f49_001f41, 0x1f4a_001f4a_001f42,
  0x1f4b_001f4b_001f43, 0x1f4c_001f4c_001f44, 0x1f4d_001f4d_001f45, 0x1f59_001f59_001f51, 0x1f5b_001f5b_001f53,
  0x1f5d_001f5d_001f55, 0x1f5f_001f5f_001f57, 0x1f68_001f68_001f60, 0x1f69_001f69_001f61, 0x1f6a_001f6a_001f62,
  0x1f6b_001f6b_001f63, 0x1f6c_001f6c_001f64, 0x1f6d_001f6d_001f65, 0x1f6e_001f6e_001f66, 0x1f6f_001f6f_001f67,
  0x1f71_001f71_0003ac, 0x1f73_001f73_0003ad, 0x1f75_001f75_0003ae, 0x1f77_001f77_0003af, 0x1f79_001f79_0003cc,
  0x1f7b_001f7b_0003cd, 0x1f7d_001f7d_0003ce, 0x1f80_001f80_001f00_0003b9, 0x1f81_001f81_001f01_0003b9,
  0x1f82_001f82_001f02_0003b9, 0x1f83_001f83_001f03_0003b9, 0x1f84_001f84_001f04_0003b9, 0x1f85_001f85_001f05_0003b9,
  0x1f86_001f86_001f06_0003b9, 0x1f87_001f87_001f07_0003b9, 0x1f88_001f88_001f00_0003b9, 0x1f89_001f89_001f01_0003b9,
  0x1f8a_001f8a_001f02_0003b9, 0x1f8b_001f8b_001f03_0003b9, 0x1f8c_001f8c_001f04_0003b9, 0x1f8d_001f8d_001f05_0003b9,
  0x1f8e_001f8e_001f06_0003b9, 0x1f8f_001f8f_001f07_0003b9, 0x1f90_001f90_001f20_0003b9, 0x1f91_001f91_001f21_0003b9,
  0x1f92_001f92_001f22_0003b9, 0x1f93_001f93_001f23_0003b9, 0x1f94_001f94_001f24_0003b9, 0x1f95_001f95_001f25_0003b9,
  0x1f96_001f96_001f26_0003b9, 0x1f97_001f97_001f27_0003b9, 0x1f98_001f98_001f20_0003b9, 0x1f99_001f99_001f21_0003b9,
  0x1f9a_001f9a_001f22_0003b9, 0x1f9b_001f9b_001f23_0003b9, 0x1f9c_001f9c_001f24_0003b9, 0x1f9d_001f9d_001f25_0003b9,
  0x1f9e_001f9e_001f26_0003b9, 0x1f9f_001f9f_001f27_0003b9, 0x1fa0_001fa0_001f60_0003b9, 0x1fa1_001fa1_001f61_0003b9,
  0x1fa2_001fa2_001f62_0003b9, 0x1fa3_001fa3_001f63_0003b9, 0x1fa4_001fa4_001f64_0003b9, 0x1fa5_001fa5_001f65_0003b9,
  0x1fa6_001fa6_001f66_0003b9, 0x1fa7_001fa7_001f67_0003b9, 0x1fa8_001fa8_001f60_0003b9, 0x1fa9_001fa9_001f61_0003b9,
  0x1faa_001faa_001f62_0003b9, 0x1fab_001fab_001f63_0003b9, 0x1fac_001fac_001f64_0003b9, 0x1fad_001fad_001f65_0003b9,
  0x1fae_001fae_001f66_0003b9, 0x1faf_001faf_001f67_0003b9, 0x1fb2_001fb2_001f70_0003b9, 0x1fb3_001fb3_0003b1_0003b9,
  0x1fb4_001fb4_0003ac_0003b9, 0x1fb7_001fb7_001fb6_0003b9, 0x1fb8_001fb8_001fb0, 0x1fb9_001fb9_001fb1,
  0x1fba_001fba_001f70, 0x1fbb_001fbb_0003ac, 0x1fbc_001fbc_0003b1_0003b9, 0x1fbd_001fbd_000020_000313,
  0x1fbe_001fbe_0003b9, 0x1fbf_001fbf_000020_000313, 0x1fc0_001fc0_000020_000342, 0x1fc1_001fc1_000020_000308_000342,
  0x1fc2_001fc2_001f74_0003b9, 0x1fc3_001fc3_0003b7_0003b9, 0x1fc4_001fc4_0003ae_0003b9, 0x1fc7_001fc7_001fc6_0003b9,
  0x1fc8_001fc8_001f72, 0x1fc9_001fc9_0003ad, 0x1fca_001fca_001f74, 0x1fcb_001fcb_0003ae,
  0x1fcc_001fcc_0003b7_0003b9, 0x1fcd_001fcd_000020_000313_000300, 0x1fce_001fce_000020_000313_000301,
  0x1fcf_001fcf_000020_000313_000342, 0x1fd3_001fd3_000390, 0x1fd8_001fd8_001fd0, 0x1fd9_001fd9_001fd1,
  0x1fda_001fda_001f76, 0x1fdb_001fdb_0003af, 0x1fdd_001fdd_000020_000314_000300, 0x1fde_001fde_000020_000314_000301,
  0x1fdf_001fdf_000020_000314_000342, 0x1fe3_001fe3_0003b0, 0x1fe8_001fe8_001fe0, 0x1fe9_001fe9_001fe1,
  0x1fea_001fea_001f7a, 0x1feb_001feb_0003cd, 0x1fec_001fec_001fe5, 0x1fed_001fed_000020_000308_000300,
  0x1fee_001fee_000020_000308_000301, 0x1fef_001fef_000060, 0x1ff2_001ff2_001f7c_0003b9, 0x1ff3_001ff3_0003c9_0003b9,
  0x1ff4_001ff4_0003ce_0003b9, 0x1ff7_001ff7_001ff6_0003b9, 0x1ff8_001ff8_001f78, 0x1ff9_001ff9_0003cc,
  0x1ffa_001ffa_001f7c, 0x1ffb_001ffb_0003ce, 0x1ffc_001ffc_0003c9_0003b9, 0x1ffd_001ffd_000020_000301,
  0x1ffe_001ffe_000020_000314, 0x2000_00200a_000020, 0x2011_002011_002010, 0x2017_002017_000020_000333,
  0x202f_00202f_000020, 0x2033_002033_002032_002032, 0x2034_002034_002032_002032_002032, 0x2036_002036_002035_002035,
  0x2037_002037_002035_002035_002035, 0x203c_00203c_000021_000021, 0x203e_00203e_000020_000305,
  0x2047_002047_00003f_00003f, 0x2048_002048_00003f_000021, 0x2049_002049_000021_00003f,
  0x2057_002057_002032_002032_002032_002032, 0x205f_00205f_000020, 0x2070_002070_000030, 0x2071_002071_000069,
  0x2074_002074_000034, 0x2075_002075_000035, 0x2076_002076_000036, 0x2077_002077_000037, 0x2078_002078_000038,
  0x2079_002079_000039, 0x207a_00207a_00002b, 0x207b_00207b_002212, 0x207c_00207c_00003d, 0x207d_00207d_000028,
  0x207e_00207e_000029, 0x207f_00207f_00006e, 0x2080_002080_000030, 0x2081_002081_000031, 0x2082_002082_000032,
  0x2083_002083_000033, 0x2084_002084_000034, 0x2085_002085_000035, 0x2086_002086_000036, 0x2087_002087_000037,
  0x2088_002088_000038, 0x2089_002089_000039, 0x208a_00208a_00002b, 0x208b_00208b_002212, 0x208c_00208c_00003d,
  0x208d_00208d_000028, 0x208e_00208e_000029, 0x2090_002090_000061, 0x2091_002091_000065, 0x2092_002092_00006f,
  0x2093_002093_000078, 0x2094_002094_000259, 0x2095_002095_000068, 0x2096_002096_00006b, 0x2097_002097_00006c,
  0x2098_002098_00006d, 0x2099_002099_00006e, 0x209a_00209a_000070, 0x209b_00209b_000073, 0x209c_00209c_000074,
  0x209d_00209d_000077, 0x209e_00209e_000079, 0x209f_00209f_00007a, 0x20a8_0020a8_000072_000073,
  0x2100_002100_000061_00002f_000063, 0x2101_002101_000061_00002f_000073, 0x2102_002102_000063,
  0x2103_002103_0000b0_000063, 0x2105_002105_000063_00002f_00006f, 0x2106_002106_000063_00002f_000075,
  0x2107_002107_00025b, 0x2109_002109_0000b0_000066, 0x210a_00210a_000067, 0x210b_00210e_000068,
  0x210f_00210f_000127, 0x2110_002111_000069, 0x2112_002113_00006c, 0x2115_002115_00006e,
  0x2116_002116_00006e_00006f, 0x2119_002119_000070, 0x211a_00211a_000071, 0x211b_00211d_000072,
  0x2120_002120_000073_00006d, 0x2121_002121_000074_000065_00006c, 0x2122_002122_000074_00006d, 0x2124_002124_00007a,
  0x2126_002126_0003c9, 0x2128_002128_00007a, 0x212a_00212a_00006b, 0x212b_00212b_0000e5, 0x212c_00212c_000062,
  0x212d_00212d_000063, 0x212f_002130_000065, 0x2131_002131_000066, 0x2132_002132_00214e, 0x2133_002133_00006d,
  0x2134_002134_00006f, 0x2135_002135_0005d0, 0x2136_002136_0005d1, 0x2137_002137_0005d2, 0x2138_002138_0005d3,
  0x2139_002139_000069, 0x213b_00213b_000066_000061_000078, 0x213c_00213c_0003c0, 0x213d_00213e_0003b3,
  0x213f_00213f_0003c0, 0x2140_002140_002211, 0x2145_002146_000064, 0x2147_002147_000065, 0x2148_002148_000069,
  0x2149_002149_00006a, 0x2150_002150_000031_002044_000037, 0x2151_002151_000031_002044_000039,
  0x2152_002152_000031_002044_000031_000030, 0x2153_002153_000031_002044_000033, 0x2154_002154_000032_002044_000033,
  0x2155_002155_000031_002044_000035, 0x2156_002156_000032_002044_000035, 0x2157_002157_000033_002044_000035,
  0x2158_002158_000034_002044_000035, 0x2159_002159_000031_002044_000036, 0x215a_00215a_000035_002044_000036,
  0x215b_00215b_000031_002044_000038, 0x215c_00215c_000033_002044_000038, 0x215d_00215d_000035_002044_000038,
  0x215e_00215e_000037_002044_000038, 0x215f_00215f_000031_002044, 0x2160_002160_000069, 0x2161_002161_000069_000069,
  0x2162_002162_000069_000069_000069, 0x2163_002163_000069_000076, 0x2164_002164_000076, 0x2165_002165_000076_000069,
  0x2166_002166_000076_000069_000069, 0x2167_002167_000076_000069_000069_000069, 0x2168_002168_000069_000078,
  0x2169_002169_000078, 0x216a_00216a_000078_000069, 0x216b_00216b_000078_000069_000069, 0x216c_00216c_00006c,
  0x216d_00216d_000063, 0x216e_00216e_000064, 0x216f_00216f_00006d, 0x2170_002170_000069,
  0x2171_002171_000069_000069, 0x2172_002172_000069_000069_000069, 0x2173_002173_000069_000076, 0x2174_002174_000076,
  0x2175_002175_000076_000069, 0x2176_002176_000076_000069_000069, 0x2177_002177_000076_000069_000069_000069,
  0x2178_002178_000069_000078, 0x2179_002179_000078, 0x217a_00217a_000078_000069, 0x217b_00217b_000078_000069_000069,
  0x217c_00217c_00006c, 0x217d_00217d_000063, 0x217e_00217e_000064, 0x217f_00217f_00006d, 0x2183_002183_002184,
  0x2189_002189_000030_002044_000033, 0x222c_00222c_00222b_00222b, 0x222d_00222d_00222b_00222b_00222b,
  0x222f_00222f_00222e_00222e, 0x2230_002230_00222e_00222e_00222e, 0x2329_002329_003008, 0x232a_00232a_003009,
  0x2460_002460_000031, 0x2461_002461_000032, 0x2462_002462_000033, 0x2463_002463_000034, 0x2464_002464_000035,
  0x2465_002465_000036, 0x2466_002466_000037, 0x2467_002467_000038, 0x2468_002468_000039,
  0x2469_002469_000031_000030, 0x246a_00246a_000031_000031, 0x246b_00246b_000031_000032, 0x246c_00246c_000031_000033,
  0x246d_00246d_000031_000034, 0x246e_00246e_000031_000035, 0x246f_00246f_000031_000036, 0x2470_002470_000031_000037,
  0x2471_002471_000031_000038, 0x2472_002472_000031_000039, 0x2473_002473_000032_000030,
  0x2474_002474_000028_000031_000029, 0x2475_002475_000028_000032_000029, 0x2476_002476_000028_000033_000029,
  0x2477_002477_000028_000034_000029, 0x2478_002478_000028_000035_000029, 0x2479_002479_000028_000036_000029,
  0x247a_00247a_000028_000037_000029, 0x247b_00247b_000028_000038_000029, 0x247c_00247c_000028_000039_000029,
  0x247d_00247d_000028_000031_000030_000029, 0x247e_00247e_000028_000031_000031_000029,
  0x247f_00247f_000028_000031_000032_000029, 0x2480_002480_000028_000031_000033_000029,
  0x2481_002481_000028_000031_000034_000029, 0x2482_002482_000028_000031_000035_000029,
  0x2483_002483_000028_000031_000036_000029, 0x2484_002484_000028_000031_000037_000029,
  0x2485_002485_000028_000031_000038_000029, 0x2486_002486_000028_000031_000039_000029,
  0x2487_002487_000028_000032_000030_000029, 0x249c_00249c_000028_000061_000029, 0x249d_00249d_000028_000062_000029,
  0x249e_00249e_000028_000063_000029, 0x249f_00249f_000028_000064_000029, 0x24a0_0024a0_000028_000065_000029,
  0x24a1_0024a1_000028_000066_000029, 0x24a2_0024a2_000028_000067_000029, 0x24a3_0024a3_000028_000068_000029,
  0x24a4_0024a4_000028_000069_000029, 0x24a5_0024a5_000028_00006a_000029, 0x24a6_0024a6_000028_00006b_000029,
  0x24a7_0024a7_000028_00006c_000029, 0x24a8_0024a8_000028_00006d_000029, 0x24a9_0024a9_000028_00006e_000029,
  0x24aa_0024aa_000028_00006f_000029, 0x24ab_0024ab_000028_000070_000029, 0x24ac_0024ac_000028_000071_000029,
  0x24ad_0024ad_000028_000072_000029, 0x24ae_0024ae_000028_000073_000029, 0x24af_0024af_000028_000074_000029,
  0x24b0_0024b0_000028_000075_000029, 0x24b1_0024b1_000028_000076_000029, 0x24b2_0024b2_000028_000077_000029,
  0x24b3_0024b3_000028_000078_000029, 0x24b4_0024b4_000028_000079_000029, 0x24b5_0024b5_000028_00007a_000029,
  0x24b6_0024b6_000061, 0x24b7_0024b7_000062, 0x24b8_0024b8_000063, 0x24b9_0024b9_000064, 0x24ba_0024ba_000065,
  0x24bb_0024bb_000066, 0x24bc_0024bc_000067, 0x24bd_0024bd_000068, 0x24be_0024be_000069, 0x24bf_0024bf_00006a,
  0x24c0_0024c0_00006b, 0x24c1_0024c1_00006c, 0x24c2_0024c2_00006d, 0x24c3_0024c3_00006e, 0x24c4_0024c4_00006f,
  0x24c5_0024c5_000070, 0x24c6_0024c6_000071, 0x24c7_0024c7_000072, 0x24c8_0024c8_000073, 0x24c9_0024c9_000074,
  0x24ca_0024ca_000075, 0x24cb_0024cb_000076, 0x24cc_0024cc_000077, 0x24cd_0024cd_000078, 0x24ce_0024ce_000079,
  0x24cf_0024cf_00007a, 0x24d0_0024d0_000061, 0x24d1_0024d1_000062, 0x24d2_0024d2_000063, 0x24d3_0024d3_000064,
  0x24d4_0024d4_000065, 0x24d5_0024d5_000066, 0x24d6_0024d6_000067, 0x24d7_0024d7_000068, 0x24d8_0024d8_000069,
  0x24d9_0024d9_00006a, 0x24da_0024da_00006b, 0x24db_0024db_00006c, 0x24dc_0024dc_00006d, 0x24dd_0024dd_00006e,
  0x24de_0024de_00006f, 0x24df_0024df_000070, 0x24e0_0024e0_000071, 0x24e1_0024e1_000072, 0x24e2_0024e2_000073,
  0x24e3_0024e3_000074, 0x24e4_0024e4_000075, 0x24e5_0024e5_000076, 0x24e6_0024e6_000077, 0x24e7_0024e7_000078,
  0x24e8_0024e8_000079, 0x24e9_0024e9_00007a, 0x24ea_0024ea_000030, 0x2a0c_002a0c_00222b_00222b_00222b_00222b,
  0x2a74_002a74_00003a_00003a_00003d, 0x2a75_002a75_00003d_00003d, 0x2a76_002a76_00003d_00003d_00003d,
  0x2adc_002adc_002add_000338, 0x2c00_002c00_002c30, 0x2c01_002c01_002c31, 0x2c02_002c02_002c32,
  0x2c03_002c03_002c33, 0x2c04_002c04_002c34, 0x2c05_002c05_002c35, 0x2c06_002c06_002c36, 0x2c07_002c07_002c37,
  0x2c08_002c08_002c38, 0x2c09_002c09_002c39, 0x2c0a_002c0a_002c3a, 0x2c0b_002c0b_002c3b, 0x2c0c_002c0c_002c3c,
  0x2c0d_002c0d_002c3d, 0x2c0e_002c0e_002c3e, 0x2c0f_002c0f_002c3f, 0x2c10_002c10_002c40, 0x2c11_002c11_002c41,
  0x2c12_002c12_002c42, 0x2c13_002c13_002c43, 0x2c14_002c14_002c44, 0x2c15_002c15_002c45, 0x2c16_002c16_002c46,
  0x2c17_002c17_002c47, 0x2c18_002c18_002c48, 0x2c19_002c19_002c49, 0x2c1a_002c1a_002c4a, 0x2c1b_002c1b_002c4b,
  0x2c1c_002c1c_002c4c, 0x2c1d_002c1d_002c4d, 0x2c1e_002c1e_002c4e, 0x2c1f_002c1f_002c4f, 0x2c20_002c20_002c50,
  0x2c21_002c21_002c51, 0x2c22_002c22_002c52, 0x2c23_002c23_002c53, 0x2c24_002c24_002c54, 0x2c25_002c25_002c55,
  0x2c26_002c26_002c56, 0x2c27_002c27_002c57, 0x2c28_002c28_002c58, 0x2c29_002c29_002c59, 0x2c2a_002c2a_002c5a,
  0x2c2b_002c2b_002c5b, 0x2c2c_002c2c_002c5c, 0x2c2d_002c2d_002c5d, 0x2c2e_002c2e_002c5e, 0x2c2f_002c2f_002c5f,
  0x2c60_002c60_002c61, 0x2c62_002c62_00026b, 0x2c63_002c63_001d7d, 0x2c64_002c64_00027d, 0x2c67_002c67_002c68,
  0x2c69_002c69_002c6a, 0x2c6b_002c6b_002c6c, 0x2c6d_002c6d_000251, 0x2c6e_002c6e_000271, 0x2c6f_002c6f_000250,
  0x2c70_002c70_000252, 0x2c72_002c72_002c73, 0x2c75_002c75_002c76, 0x2c7c_002c7c_00006a, 0x2c7d_002c7d_000076,
  0x2c7e_002c7e_00023f, 0x2c7f_002c7f_000240, 0x2c80_002c80_002c81, 0x2c82_002c82_002c83, 0x2c84_002c84_002c85,
  0x2c86_002c86_002c87, 0x2c88_002c88_002c89, 0x2c8a_002c8a_002c8b, 0x2c8c_002c8c_002c8d, 0x2c8e_002c8e_002c8f,
  0x2c90_002c90_002c91, 0x2c92_002c92_002c93, 0x2c94_002c94_002c95, 0x2c96_002c96_002c97, 0x2c98_002c98_002c99,
  0x2c9a_002c9a_002c9b, 0x2c9c_002c9c_002c9d, 0x2c9e_002c9e_002c9f, 0x2ca0_002ca0_002ca1, 0x2ca2_002ca2_002ca3,
  0x2ca4_002ca4_002ca5, 0x2ca6_002ca6_002ca7, 0x2ca8_002ca8_002ca9, 0x2caa_002caa_002cab, 0x2cac_002cac_002cad,
  0x2cae_002cae_002caf, 0x2cb0_002cb0_002cb1, 0x2cb2_002cb2_002cb3, 0x2cb4_002cb4_002cb5, 0x2cb6_002cb6_002cb7,
  0x2cb8_002cb8_002cb9, 0x2cba_002cba_002cbb, 0x2cbc_002cbc_002cbd, 0x2cbe_002cbe_002cbf, 0x2cc0_002cc0_002cc1,
  0x2cc2_002cc2_002cc3, 0x2cc4_002cc4_002cc5, 0x2cc6_002cc6_002cc7, 0x2cc8_002cc8_002cc9, 0x2cca_002cca_002ccb,
  0x2ccc_002ccc_002ccd, 0x2cce_002cce_002ccf, 0x2cd0_002cd0_002cd1, 0x2cd2_002cd2_002cd3, 0x2cd4_002cd4_002cd5,
  0x2cd6_002cd6_002cd7, 0x2cd8_002cd8_002cd9, 0x2cda_002cda_002cdb, 0x2cdc_002cdc_002cdd, 0x2cde_002cde_002cdf,
  0x2ce0_002ce0_002ce1, 0x2ce2_002ce2_002ce3, 0x2ceb_002ceb_002cec, 0x2ced_002ced_002cee, 0x2cf2_002cf2_002cf3,
  0x2d6f_002d6f_002d61, 0x2e9f_002e9f_006bcd, 0x2ef3_002ef3_009f9f, 0x2f00_002f00_004e00, 0x2f01_002f01_004e28,
  0x2f02_002f02_004e36, 0x2f03_002f03_004e3f, 0x2f04_002f04_004e59, 0x2f05_002f05_004e85, 0x2f06_002f06_004e8c,
  0x2f07_002f07_004ea0, 0x2f08_002f08_004eba, 0x2f09_002f09_00513f, 0x2f0a_002f0a_005165, 0x2f0b_002f0b_00516b,
  0x2f0c_002f0c_005182, 0x2f0d_002f0d_005196, 0x2f0e_002f0e_0051ab, 0x2f0f_002f0f_0051e0, 0x2f10_002f10_0051f5,
  0x2f11_002f11_005200, 0x2f12_002f12_00529b, 0x2f13_002f13_0052f9, 0x2f14_002f14_005315, 0x2f15_002f15_00531a,
  0x2f16_002f16_005338, 0x2f17_002f17_005341, 0x2f18_002f18_00535c, 0x2f19_002f19_005369, 0x2f1a_002f1a_005382,
  0x2f1b_002f1b_0053b6, 0x2f1c_002f1c_0053c8, 0x2f1d_002f1d_0053e3, 0x2f1e_002f1e_0056d7, 0x2f1f_002f1f_00571f,
  0x2f20_002f20_0058eb, 0x2f21_002f21_005902, 0x2f22_002f22_00590a, 0x2f23_002f23_005915, 0x2f24_002f24_005927,
  0x2f25_002f25_005973, 0x2f26_002f26_005b50, 0x2f27_002f27_005b80, 0x2f28_002f28_005bf8, 0x2f29_002f29_005c0f,
  0x2f2a_002f2a_005c22, 0x2f2b_002f2b_005c38, 0x2f2c_002f2c_005c6e, 0x2f2d_002f2d_005c71, 0x2f2e_002f2e_005ddb,
  0x2f2f_002f2f_005de5, 0x2f30_002f30_005df1, 0x2f31_002f31_005dfe, 0x2f32_002f32_005e72, 0x2f33_002f33_005e7a,
  0x2f34_002f34_005e7f, 0x2f35_002f35_005ef4, 0x2f36_002f36_005efe, 0x2f37_002f37_005f0b, 0x2f38_002f38_005f13,
  0x2f39_002f39_005f50, 0x2f3a_002f3a_005f61, 0x2f3b_002f3b_005f73, 0x2f3c_002f3c_005fc3, 0x2f3d_002f3d_006208,
  0x2f3e_002f3e_006236, 0x2f3f_002f3f_00624b, 0x2f40_002f40_00652f, 0x2f41_002f41_006534, 0x2f42_002f42_006587,
  0x2f43_002f43_006597, 0x2f44_002f44_0065a4, 0x2f45_002f45_0065b9, 0x2f46_002f46_0065e0, 0x2f47_002f47_0065e5,
  0x2f48_002f48_0066f0, 0x2f49_002f49_006708, 0x2f4a_002f4a_006728, 0x2f4b_002f4b_006b20, 0x2f4c_002f4c_006b62,
  0x2f4d_002f4d_006b79, 0x2f4e_002f4e_006bb3, 0x2f4f_002f4f_006bcb, 0x2f50_002f50_006bd4, 0x2f51_002f51_006bdb,
  0x2f52_002f52_006c0f, 0x2f53_002f53_006c14, 0x2f54_002f54_006c34, 0x2f55_002f55_00706b, 0x2f56_002f56_00722a,
  0x2f57_002f57_007236, 0x2f58_002f58_00723b, 0x2f59_002f59_00723f, 0x2f5a_002f5a_007247, 0x2f5b_002f5b_007259,
  0x2f5c_002f5c_00725b, 0x2f5d_002f5d_0072ac, 0x2f5e_002f5e_007384, 0x2f5f_002f5f_007389, 0x2f60_002f60_0074dc,
  0x2f61_002f61_0074e6, 0x2f62_002f62_007518, 0x2f63_002f63_00751f, 0x2f64_002f64_007528, 0x2f65_002f65_007530,
  0x2f66_002f66_00758b, 0x2f67_002f67_007592, 0x2f68_002f68_007676, 0x2f69_002f69_00767d, 0x2f6a_002f6a_0076ae,
  0x2f6b_002f6b_0076bf, 0x2f6c_002f6c_0076ee, 0x2f6d_002f6d_0077db, 0x2f6e_002f6e_0077e2, 0x2f6f_002f6f_0077f3,
  0x2f70_002f70_00793a, 0x2f71_002f71_0079b8, 0x2f72_002f72_0079be, 0x2f73_002f73_007a74, 0x2f74_002f74_007acb,
  0x2f75_002f75_007af9, 0x2f76_002f76_007c73, 0x2f77_002f77_007cf8, 0x2f78_002f78_007f36, 0x2f79_002f79_007f51,
  0x2f7a_002f7a_007f8a, 0x2f7b_002f7b_007fbd, 0x2f7c_002f7c_008001, 0x2f7d_002f7d_00800c, 0x2f7e_002f7e_008012,
  0x2f7f_002f7f_008033, 0x2f80_002f80_00807f, 0x2f81_002f81_008089, 0x2f82_002f82_0081e3, 0x2f83_002f83_0081ea,
  0x2f84_002f84_0081f3, 0x2f85_002f85_0081fc, 0x2f86_002f86_00820c, 0x2f87_002f87_00821b, 0x2f88_002f88_00821f,
  0x2f89_002f89_00826e, 0x2f8a_002f8a_008272, 0x2f8b_002f8b_008278, 0x2f8c_002f8c_00864d, 0x2f8d_002f8d_00866b,
  0x2f8e_002f8e_008840, 0x2f8f_002f8f_00884c, 0x2f90_002f90_008863, 0x2f91_002f91_00897e, 0x2f92_002f92_00898b,
  0x2f93_002f93_0089d2, 0x2f94_002f94_008a00, 0x2f95_002f95_008c37, 0x2f96_002f96_008c46, 0x2f97_002f97_008c55,
  0x2f98_002f98_008c78, 0x2f99_002f99_008c9d, 0x2f9a_002f9a_008d64, 0x2f9b_002f9b_008d70, 0x2f9c_002f9c_008db3,
  0x2f9d_002f9d_008eab, 0x2f9e_002f9e_008eca, 0x2f9f_002f9f_008f9b, 0x2fa0_002fa0_008fb0, 0x2fa1_002fa1_008fb5,
  0x2fa2_002fa2_009091, 0x2fa3_002fa3_009149, 0x2fa4_002fa4_0091c6, 0x2fa5_002fa5_0091cc, 0x2fa6_002fa6_0091d1,
  0x2fa7_002fa7_009577, 0x2fa8_002fa8_009580, 0x2fa9_002fa9_00961c, 0x2faa_002faa_0096b6, 0x2fab_002fab_0096b9,
  0x2fac_002fac_0096e8, 0x2fad_002fad_009751, 0x2fae_002fae_00975e, 0x2faf_002faf_009762, 0x2fb0_002fb0_009769,
  0x2fb1_002fb1_0097cb, 0x2fb2_002fb2_0097ed, 0x2fb3_002fb3_0097f3, 0x2fb4_002fb4_009801, 0x2fb5_002fb5_0098a8,
  0x2fb6_002fb6_0098db, 0x2fb7_002fb7_0098df, 0x2fb8_002fb8_009996, 0x2fb9_002fb9_009999, 0x2fba_002fba_0099ac,
  0x2fbb_002fbb_009aa8, 0x2fbc_002fbc_009ad8, 0x2fbd_002fbd_009adf, 0x2fbe_002fbe_009b25, 0x2fbf_002fbf_009b2f,
  0x2fc0_002fc0_009b32, 0x2fc1_002fc1_009b3c, 0x2fc2_002fc2_009b5a, 0x2fc3_002fc3_009ce5, 0x2fc4_002fc4_009e75,
  0x2fc5_002fc5_009e7f, 0x2fc6_002fc6_009ea5, 0x2fc7_002fc7_009ebb, 0x2fc8_002fc8_009ec3, 0x2fc9_002fc9_009ecd,
  0x2fca_002fca_009ed1, 0x2fcb_002fcb_009ef9, 0x2fcc_002fcc_009efd, 0x2fcd_002fcd_009f0e, 0x2fce_002fce_009f13,
  0x2fcf_002fcf_009f20, 0x2fd0_002fd0_009f3b, 0x2fd1_002fd1_009f4a, 0x2fd2_002fd2_009f52, 0x2fd3_002fd3_009f8d,
  0x2fd4_002fd4_009f9c, 0x2fd5_002fd5_009fa0, 0x3000_003000_000020, 0x3002_003002_00002e, 0x3036_003036_003012,
  0x3038_003038_005341, 0x3039_003039_005344, 0x303a_00303a_005345, 0x309b_00309b_000020_003099,
  0x309c_00309c_000020_00309a, 0x309f_00309f_003088_00308a, 0x30ff_0030ff_0030b3_0030c8, 0x3131_003131_001100,
  0x3132_003132_001101, 0x3133_003133_0011aa, 0x3134_003134_001102, 0x3135_003135_0011ac, 0x3136_003136_0011ad,
  0x3137_003137_001103, 0x3138_003138_001104, 0x3139_003139_001105, 0x313a_00313a_0011b0, 0x313b_00313b_0011b1,
  0x313c_00313c_0011b2, 0x313d_00313d_0011b3, 0x313e_00313e_0011b4, 0x313f_00313f_0011b5, 0x3140_003140_00111a,
  0x3141_003141_001106, 0x3142_003142_001107, 0x3143_003143_001108, 0x3144_003144_001121, 0x3145_003145_001109,
  0x3146_003146_00110a, 0x3147_003147_00110b, 0x3148_003148_00110c, 0x3149_003149_00110d, 0x314a_00314a_00110e,
  0x314b_00314b_00110f, 0x314c_00314c_001110, 0x314d_00314d_001111, 0x314e_00314e_001112, 0x314f_00314f_001161,
  0x3150_003150_001162, 0x3151_003151_001163, 0x3152_003152_001164, 0x3153_003153_001165, 0x3154_003154_001166,
  0x3155_003155_001167, 0x3156_003156_001168, 0x3157_003157_001169, 0x3158_003158_00116a, 0x3159_003159_00116b,
  0x315a_00315a_00116c, 0x315b_00315b_00116d, 0x315c_00315c_00116e, 0x315d_00315d_00116f, 0x315e_00315e_001170,
  0x315f_00315f_001171, 0x3160_003160_001172, 0x3161_003161_001173, 0x3162_003162_001174, 0x3163_003163_001175,
  0x3165_003165_001114, 0x3166_003166_001115, 0x3167_003167_0011c7, 0x3168_003168_0011c8, 0x3169_003169_0011cc,
  0x316a_00316a_0011ce, 0x316b_00316b_0011d3, 0x316c_00316c_0011d7, 0x316d_00316d_0011d9, 0x316e_00316e_00111c,
  0x316f_00316f_0011dd, 0x3170_003170_0011df, 0x3171_003171_00111d, 0x3172_003172_00111e, 0x3173_003173_001120,
  0x3174_003174_001122, 0x3175_003175_001123, 0x3176_003176_001127, 0x3177_003177_001129, 0x3178_003178_00112b,
  0x3179_003179_00112c, 0x317a_00317a_00112d, 0x317b_00317b_00112e, 0x317c_00317c_00112f, 0x317d_00317d_001132,
  0x317e_00317e_001136, 0x317f_00317f_001140, 0x3180_003180_001147, 0x3181_003181_00114c, 0x3182_003182_0011f1,
  0x3183_003183_0011f2, 0x3184_003184_001157, 0x3185_003185_001158, 0x3186_003186_001159, 0x3187_003187_001184,
  0x3188_003188_001185, 0x3189_003189_001188, 0x318a_00318a_001191, 0x318b_00318b_001192, 0x318c_00318c_001194,
  0x318d_00318d_00119e, 0x318e_00318e_0011a1, 0x3192_003192_004e00, 0x3193_003193_004e8c, 0x3194_003194_004e09,
  0x3195_003195_0056db, 0x3196_003196_004e0a, 0x3197_003197_004e2d, 0x3198_003198_004e0b, 0x3199_003199_007532,
  0x319a_00319a_004e59, 0x319b_00319b_004e19, 0x319c_00319c_004e01, 0x319d_00319d_005929, 0x319e_00319e_005730,
  0x319f_00319f_004eba, 0x3200_003200_000028_001100_000029, 0x3201_003201_000028_001102_000029,
  0x3202_003202_000028_001103_000029, 0x3203_003203_000028_001105_000029, 0x3204_003204_000028_001106_000029,
  0x3205_003205_000028_001107_000029, 0x3206_003206_000028_001109_000029, 0x3207_003207_000028_00110b_000029,
  0x3208_003208_000028_00110c_000029, 0x3209_003209_000028_00110e_000029, 0x320a_00320a_000028_00110f_000029,
  0x320b_00320b_000028_001110_000029, 0x320c_00320c_000028_001111_000029, 0x320d_00320d_000028_001112_000029,
  0x320e_00320e_000028_00ac00_000029, 0x320f_00320f_000028_00b098_000029, 0x3210_003210_000028_00b2e4_000029,
  0x3211_003211_000028_00b77c_000029, 0x3212_003212_000028_00b9c8_000029, 0x3213_003213_000028_00bc14_000029,
  0x3214_003214_000028_00c0ac_000029, 0x3215_003215_000028_00c544_000029, 0x3216_003216_000028_00c790_000029,
  0x3217_003217_000028_00cc28_000029, 0x3218_003218_000028_00ce74_000029, 0x3219_003219_000028_00d0c0_000029,
  0x321a_00321a_000028_00d30c_000029, 0x321b_00321b_000028_00d558_000029, 0x321c_00321c_000028_00c8fc_000029,
  0x321d_00321d_000028_00c624_00c804_000029, 0x321e_00321e_000028_00c624_00d6c4_000029,
  0x3220_003220_000028_004e00_000029, 0x3221_003221_000028_004e8c_000029, 0x3222_003222_000028_004e09_000029,
  0x3223_003223_000028_0056db_000029, 0x3224_003224_000028_004e94_000029, 0x3225_003225_000028_00516d_000029,
  0x3226_003226_000028_004e03_000029, 0x3227_003227_000028_00516b_000029, 0x3228_003228_000028_004e5d_000029,
  0x3229_003229_000028_005341_000029, 0x322a_00322a_000028_006708_000029, 0x322b_00322b_000028_00706b_000029,
  0x322c_00322c_000028_006c34_000029, 0x322d_00322d_000028_006728_000029, 0x322e_00322e_000028_0091d1_000029,
  0x322f_00322f_000028_00571f_000029, 0x3230_003230_000028_0065e5_000029, 0x3231_003231_000028_00682a_000029,
  0x3232_003232_000028_006709_000029, 0x3233_003233_000028_00793e_000029, 0x3234_003234_000028_00540d_000029,
  0x3235_003235_000028_007279_000029, 0x3236_003236_000028_008ca1_000029, 0x3237_003237_000028_00795d_000029,
  0x3238_003238_000028_0052b4_000029, 0x3239_003239_000028_004ee3_000029, 0x323a_00323a_000028_00547c_000029,
  0x323b_00323b_000028_005b66_000029, 0x323c_00323c_000028_0076e3_000029, 0x323d_00323d_000028_004f01_000029,
  0x323e_00323e_000028_008cc7_000029, 0x323f_00323f_000028_005354_000029, 0x3240_003240_000028_00796d_000029,
  0x3241_003241_000028_004f11_000029, 0x3242_003242_000028_0081ea_000029, 0x3243_003243_000028_0081f3_000029,
  0x3244_003244_00554f, 0x3245_003245_005e7c, 0x3246_003246_006587, 0x3247_003247_007b8f,
  0x3250_003250_000070_000074_000065, 0x3251_003251_000032_000031, 0x3252_003252_000032_000032,
  0x3253_003253_000032_000033, 0x3254_003254_000032_000034, 0x3255_003255_000032_000035, 0x3256_003256_000032_000036,
  0x3257_003257_000032_000037, 0x3258_003258_000032_000038, 0x3259_003259_000032_000039, 0x325a_00325a_000033_000030,
  0x325b_00325b_000033_000031, 0x325c_00325c_000033_000032, 0x325d_00325d_000033_000033, 0x325e_00325e_000033_000034,
  0x325f_00325f_000033_000035, 0x3260_003260_001100, 0x3261_003261_001102, 0x3262_003262_001103,
  0x3263_003263_001105, 0x3264_003264_001106, 0x3265_003265_001107, 0x3266_003266_001109, 0x3267_003267_00110b,
  0x3268_003268_00110c, 0x3269_003269_00110e, 0x326a_00326a_00110f, 0x326b_00326b_001110, 0x326c_00326c_001111,
  0x326d_00326d_001112, 0x326e_00326e_00ac00, 0x326f_00326f_00b098, 0x3270_003270_00b2e4, 0x3271_003271_00b77c,
  0x3272_003272_00b9c8, 0x3273_003273_00bc14, 0x3274_003274_00c0ac, 0x3275_003275_00c544, 0x3276_003276_00c790,
  0x3277_003277_00cc28, 0x3278_003278_00ce74, 0x3279_003279_00d0c0, 0x327a_00327a_00d30c, 0x327b_00327b_00d558,
  0x327c_00327c_00cc38_00ace0, 0x327d_00327d_00c8fc_00c758, 0x327e_00327e_00c6b0, 0x3280_003280_004e00,
  0x3281_003281_004e8c, 0x3282_003282_004e09, 0x3283_003283_0056db, 0x3284_003284_004e94, 0x3285_003285_00516d,
  0x3286_003286_004e03, 0x3287_003287_00516b, 0x3288_003288_004e5d, 0x3289_003289_005341, 0x328a_00328a_006708,
  0x328b_00328b_00706b, 0x328c_00328c_006c34, 0x328d_00328d_006728, 0x328e_00328e_0091d1, 0x328f_00328f_00571f,
  0x3290_003290_0065e5, 0x3291_003291_00682a, 0x3292_003292_006709, 0x3293_003293_00793e, 0x3294_003294_00540d,
  0x3295_003295_007279, 0x3296_003296_008ca1, 0x3297_003297_00795d, 0x3298_003298_0052b4, 0x3299_003299_0079d8,
  0x329a_00329a_007537, 0x329b_00329b_005973, 0x329c_00329c_009069, 0x329d_00329d_00512a, 0x329e_00329e_005370,
  0x329f_00329f_006ce8, 0x32a0_0032a0_009805, 0x32a1_0032a1_004f11, 0x32a2_0032a2_005199, 0x32a3_0032a3_006b63,
  0x32a4_0032a4_004e0a, 0x32a5_0032a5_004e2d, 0x32a6_0032a6_004e0b, 0x32a7_0032a7_005de6, 0x32a8_0032a8_0053f3,
  0x32a9_0032a9_00533b, 0x32aa_0032aa_005b97, 0x32ab_0032ab_005b66, 0x32ac_0032ac_0076e3, 0x32ad_0032ad_004f01,
  0x32ae_0032ae_008cc7, 0x32af_0032af_005354, 0x32b0_0032b0_00591c, 0x32b1_0032b1_000033_000036,
  0x32b2_0032b2_000033_000037, 0x32b3_0032b3_000033_000038, 0x32b4_0032b4_000033_000039, 0x32b5_0032b5_000034_000030,
  0x32b6_0032b6_000034_000031, 0x32b7_0032b7_000034_000032, 0x32b8_0032b8_000034_000033, 0x32b9_0032b9_000034_000034,
  0x32ba_0032ba_000034_000035, 0x32bb_0032bb_000034_000036, 0x32bc_0032bc_000034_000037, 0x32bd_0032bd_000034_000038,
  0x32be_0032be_000034_000039, 0x32bf_0032bf_000035_000030, 0x32c0_0032c0_000031_006708, 0x32c1_0032c1_000032_006708,
  0x32c2_0032c2_000033_006708, 0x32c3_0032c3_000034_006708, 0x32c4_0032c4_000035_006708, 0x32c5_0032c5_000036_006708,
  0x32c6_0032c6_000037_006708, 0x32c7_0032c7_000038_006708, 0x32c8_0032c8_000039_006708,
  0x32c9_0032c9_000031_000030_006708, 0x32ca_0032ca_000031_000031_006708, 0x32cb_0032cb_000031_000032_006708,
  0x32cc_0032cc_000068_000067, 0x32cd_0032cd_000065_000072_000067, 0x32ce_0032ce_000065_000076,
  0x32cf_0032cf_00006c_000074_000064, 0x32d0_0032d0_0030a2, 0x32d1_0032d1_0030a4, 0x32d2_0032d2_0030a6,
  0x32d3_0032d3_0030a8, 0x32d4_0032d4_0030aa, 0x32d5_0032d5_0030ab, 0x32d6_0032d6_0030ad, 0x32d7_0032d7_0030af,
  0x32d8_0032d8_0030b1, 0x32d9_0032d9_0030b3, 0x32da_0032da_0030b5, 0x32db_0032db_0030b7, 0x32dc_0032dc_0030b9,
  0x32dd_0032dd_0030bb, 0x32de_0032de_0030bd, 0x32df_0032df_0030bf, 0x32e0_0032e0_0030c1, 0x32e1_0032e1_0030c4,
  0x32e2_0032e2_0030c6, 0x32e3_0032e3_0030c8, 0x32e4_0032e4_0030ca, 0x32e5_0032e5_0030cb, 0x32e6_0032e6_0030cc,
  0x32e7_0032e7_0030cd, 0x32e8_0032e8_0030ce, 0x32e9_0032e9_0030cf, 0x32ea_0032ea_0030d2, 0x32eb_0032eb_0030d5,
  0x32ec_0032ec_0030d8, 0x32ed_0032ed_0030db, 0x32ee_0032ee_0030de, 0x32ef_0032ef_0030df, 0x32f0_0032f0_0030e0,
  0x32f1_0032f1_0030e1, 0x32f2_0032f2_0030e2, 0x32f3_0032f3_0030e4, 0x32f4_0032f4_0030e6, 0x32f5_0032f5_0030e8,
  0x32f6_0032f6_0030e9, 0x32f7_0032f7_0030ea, 0x32f8_0032f8_0030eb, 0x32f9_0032f9_0030ec, 0x32fa_0032fa_0030ed,
  0x32fb_0032fb_0030ef, 0x32fc_0032fc_0030f0, 0x32fd_0032fd_0030f1, 0x32fe_0032fe_0030f2,
  0x32ff_0032ff_004ee4_00548c, 0x3300_003300_0030a2_0030d1_0030fc_0030c8, 0x3301_003301_0030a2_0030eb_0030d5_0030a1,
  0x3302_003302_0030a2_0030f3_0030da_0030a2, 0x3303_003303_0030a2_0030fc_0030eb,
  0x3304_003304_0030a4_0030cb_0030f3_0030b0, 0x3305_003305_0030a4_0030f3_0030c1, 0x3306_003306_0030a6_0030a9_0030f3,
  0x3307_003307_0030a8_0030b9_0030af_0030fc_0030c9, 0x3308_003308_0030a8_0030fc_0030ab_0030fc,
  0x3309_003309_0030aa_0030f3_0030b9, 0x330a_00330a_0030aa_0030fc_0030e0, 0x330b_00330b_0030ab_0030a4_0030ea,
  0x330c_00330c_0030ab_0030e9_0030c3_0030c8, 0x330d_00330d_0030ab_0030ed_0030ea_0030fc,
  0x330e_00330e_0030ac_0030ed_0030f3, 0x330f_00330f_0030ac_0030f3_0030de, 0x3310_003310_0030ae_0030ac,
  0x3311_003311_0030ae_0030cb_0030fc, 0x3312_003312_0030ad_0030e5_0030ea_0030fc,
  0x3313_003313_0030ae_0030eb_0030c0_0030fc, 0x3314_003314_0030ad_0030ed,
  0x3315_003315_0030ad_0030ed_0030b0_0030e9_0030e0, 0x3316_003316_0030ad_0030ed_0030e1_0030fc_0030c8_0030eb,
  0x3317_003317_0030ad_0030ed_0030ef_0030c3_0030c8, 0x3318_003318_0030b0_0030e9_0030e0,
  0x3319_003319_0030b0_0030e9_0030e0_0030c8_0030f3, 0x331a_00331a_0030af_0030eb_0030bc_0030a4_0030ed,
  0x331b_00331b_0030af_0030ed_0030fc_0030cd, 0x331c_00331c_0030b1_0030fc_0030b9, 0x331d_00331d_0030b3_0030eb_0030ca,
  0x331e_00331e_0030b3_0030fc_0030dd, 0x331f_00331f_0030b5_0030a4_0030af_0030eb,
  0x3320_003320_0030b5_0030f3_0030c1_0030fc_0030e0, 0x3321_003321_0030b7_0030ea_0030f3_0030b0,
  0x3322_003322_0030bb_0030f3_0030c1, 0x3323_003323_0030bb_0030f3_0030c8, 0x3324_003324_0030c0_0030fc_0030b9,
  0x3325_003325_0030c7_0030b7, 0x3326_003326_0030c9_0030eb, 0x3327_003327_0030c8_0030f3, 0x3328_003328_0030ca_0030ce,
  0x3329_003329_0030ce_0030c3_0030c8, 0x332a_00332a_0030cf_0030a4_0030c4,
  0x332b_00332b_0030d1_0030fc_0030bb_0030f3_0030c8, 0x332c_00332c_0030d1_0030fc_0030c4,
  0x332d_00332d_0030d0_0030fc_0030ec_0030eb, 0x332e_00332e_0030d4_0030a2_0030b9_0030c8_0030eb,
  0x332f_00332f_0030d4_0030af_0030eb, 0x3330_003330_0030d4_0030b3, 0x3331_003331_0030d3_0030eb,
  0x3332_003332_0030d5_0030a1_0030e9_0030c3_0030c9, 0x3333_003333_0030d5_0030a3_0030fc_0030c8,
  0x3334_003334_0030d6_0030c3_0030b7_0030a7_0030eb, 0x3335_003335_0030d5_0030e9_0030f3,
  0x3336_003336_0030d8_0030af_0030bf_0030fc_0030eb, 0x3337_003337_0030da_0030bd, 0x3338_003338_0030da_0030cb_0030d2,
  0x3339_003339_0030d8_0030eb_0030c4, 0x333a_00333a_0030da_0030f3_0030b9, 0x333b_00333b_0030da_0030fc_0030b8,
  0x333c_00333c_0030d9_0030fc_0030bf, 0x333d_00333d_0030dd_0030a4_0030f3_0030c8, 0x333e_00333e_0030dc_0030eb_0030c8,
  0x333f_00333f_0030db_0030f3, 0x3340_003340_0030dd_0030f3_0030c9, 0x3341_003341_0030db_0030fc_0030eb,
  0x3342_003342_0030db_0030fc_0030f3, 0x3343_003343_0030de_0030a4_0030af_0030ed, 0x3344_003344_0030de_0030a4_0030eb,
  0x3345_003345_0030de_0030c3_0030cf, 0x3346_003346_0030de_0030eb_0030af,
  0x3347_003347_0030de_0030f3_0030b7_0030e7_0030f3, 0x3348_003348_0030df_0030af_0030ed_0030f3,
  0x3349_003349_0030df_0030ea, 0x334a_00334a_0030df_0030ea_0030d0_0030fc_0030eb, 0x334b_00334b_0030e1_0030ac,
  0x334c_00334c_0030e1_0030ac_0030c8_0030f3, 0x334d_00334d_0030e1_0030fc_0030c8_0030eb,
  0x334e_00334e_0030e4_0030fc_0030c9, 0x334f_00334f_0030e4_0030fc_0030eb, 0x3350_003350_0030e6_0030a2_0030f3,
  0x3351_003351_0030ea_0030c3_0030c8_0030eb, 0x3352_003352_0030ea_0030e9, 0x3353_003353_0030eb_0030d4_0030fc,
  0x3354_003354_0030eb_0030fc_0030d6_0030eb, 0x3355_003355_0030ec_0030e0,
  0x3356_003356_0030ec_0030f3_0030c8_0030b2_0030f3, 0x3357_003357_0030ef_0030c3_0030c8, 0x3358_003358_000030_0070b9,
  0x3359_003359_000031_0070b9, 0x335a_00335a_000032_0070b9, 0x335b_00335b_000033_0070b9, 0x335c_00335c_000034_0070b9,
  0x335d_00335d_000035_0070b9, 0x335e_00335e_000036_0070b9, 0x335f_00335f_000037_0070b9, 0x3360_003360_000038_0070b9,
  0x3361_003361_000039_0070b9, 0x3362_003362_000031_000030_0070b9, 0x3363_003363_000031_000031_0070b9,
  0x3364_003364_000031_000032_0070b9, 0x3365_003365_000031_000033_0070b9, 0x3366_003366_000031_000034_0070b9,
  0x3367_003367_000031_000035_0070b9, 0x3368_003368_000031_000036_0070b9, 0x3369_003369_000031_000037_0070b9,
  0x336a_00336a_000031_000038_0070b9, 0x336b_00336b_000031_000039_0070b9, 0x336c_00336c_000032_000030_0070b9,
  0x336d_00336d_000032_000031_0070b9, 0x336e_00336e_000032_000032_0070b9, 0x336f_00336f_000032_000033_0070b9,
  0x3370_003370_000032_000034_0070b9, 0x3371_003371_000068_000070_000061, 0x3372_003372_000064_000061,
  0x3373_003373_000061_000075, 0x3374_003374_000062_000061_000072, 0x3375_003375_00006f_000076,
  0x3376_003376_000070_000063, 0x3377_003377_000064_00006d, 0x3378_003378_000064_00006d_000032,
  0x3379_003379_000064_00006d_000033, 0x337a_00337a_000069_000075, 0x337b_00337b_005e73_006210,
  0x337c_00337c_00662d_00548c, 0x337d_00337d_005927_006b63, 0x337e_00337e_00660e_006cbb,
  0x337f_00337f_00682a_005f0f_004f1a_00793e, 0x3380_003380_000070_000061, 0x3381_003381_00006e_000061,
  0x3382_003382_0003bc_000061, 0x3383_003383_00006d_000061, 0x3384_003384_00006b_000061, 0x3385_003385_00006b_000062,
  0x3386_003386_00006d_000062, 0x3387_003387_000067_000062, 0x3388_003388_000063_000061_00006c,
  0x3389_003389_00006b_000063_000061_00006c, 0x338a_00338a_000070_000066, 0x338b_00338b_00006e_000066,
  0x338c_00338c_0003bc_000066, 0x338d_00338d_0003bc_000067, 0x338e_00338e_00006d_000067, 0x338f_00338f_00006b_000067,
  0x3390_003390_000068_00007a, 0x3391_003391_00006b_000068_00007a, 0x3392_003392_00006d_000068_00007a,
  0x3393_003393_000067_000068_00007a, 0x3394_003394_000074_000068_00007a, 0x3395_003395_0003bc_00006c,
  0x3396_003396_00006d_00006c, 0x3397_003397_000064_00006c, 0x3398_003398_00006b_00006c, 0x3399_003399_000066_00006d,
  0x339a_00339a_00006e_00006d, 0x339b_00339b_0003bc_00006d, 0x339c_00339c_00006d_00006d, 0x339d_00339d_000063_00006d,
  0x339e_00339e_00006b_00006d, 0x339f_00339f_00006d_00006d_000032, 0x33a0_0033a0_000063_00006d_000032,
  0x33a1_0033a1_00006d_000032, 0x33a2_0033a2_00006b_00006d_000032, 0x33a3_0033a3_00006d_00006d_000033,
  0x33a4_0033a4_000063_00006d_000033, 0x33a5_0033a5_00006d_000033, 0x33a6_0033a6_00006b_00006d_000033,
  0x33a7_0033a7_00006d_002215_000073, 0x33a8_0033a8_00006d_002215_000073_000032, 0x33a9_0033a9_000070_000061,
  0x33aa_0033aa_00006b_000070_000061, 0x33ab_0033ab_00006d_000070_000061, 0x33ac_0033ac_000067_000070_000061,
  0x33ad_0033ad_000072_000061_000064, 0x33ae_0033ae_000072_000061_000064_002215_000073,
  0x33af_0033af_000072_000061_000064_002215_000073_000032, 0x33b0_0033b0_000070_000073, 0x33b1_0033b1_00006e_000073,
  0x33b2_0033b2_0003bc_000073, 0x33b3_0033b3_00006d_000073, 0x33b4_0033b4_000070_000076, 0x33b5_0033b5_00006e_000076,
  0x33b6_0033b6_0003bc_000076, 0x33b7_0033b7_00006d_000076, 0x33b8_0033b8_00006b_000076, 0x33b9_0033b9_00006d_000076,
  0x33ba_0033ba_000070_000077, 0x33bb_0033bb_00006e_000077, 0x33bc_0033bc_0003bc_000077, 0x33bd_0033bd_00006d_000077,
  0x33be_0033be_00006b_000077, 0x33bf_0033bf_00006d_000077, 0x33c0_0033c0_00006b_0003c9, 0x33c1_0033c1_00006d_0003c9,
  0x33c3_0033c3_000062_000071, 0x33c4_0033c4_000063_000063, 0x33c5_0033c5_000063_000064,
  0x33c6_0033c6_000063_002215_00006b_000067, 0x33c8_0033c8_000064_000062, 0x33c9_0033c9_000067_000079,
  0x33ca_0033ca_000068_000061, 0x33cb_0033cb_000068_000070, 0x33cc_0033cc_000069_00006e, 0x33cd_0033cd_00006b_00006b,
  0x33ce_0033ce_00006b_00006d, 0x33cf_0033cf_00006b_000074, 0x33d0_0033d0_00006c_00006d, 0x33d1_0033d1_00006c_00006e,
  0x33d2_0033d2_00006c_00006f_000067, 0x33d3_0033d3_00006c_000078, 0x33d4_0033d4_00006d_000062,
  0x33d5_0033d5_00006d_000069_00006c, 0x33d6_0033d6_00006d_00006f_00006c, 0x33d7_0033d7_000070_000068,
  0x33d9_0033d9_000070_000070_00006d, 0x33da_0033da_000070_000072, 0x33db_0033db_000073_000072,
  0x33dc_0033dc_000073_000076, 0x33dd_0033dd_000077_000062, 0x33de_0033de_000076_002215_00006d,
  0x33df_0033df_000061_002215_00006d, 0x33e0_0033e0_000031_0065e5, 0x33e1_0033e1_000032_0065e5,
  0x33e2_0033e2_000033_0065e5, 0x33e3_0033e3_000034_0065e5, 0x33e4_0033e4_000035_0065e5, 0x33e5_0033e5_000036_0065e5,
  0x33e6_0033e6_000037_0065e5, 0x33e7_0033e7_000038_0065e5, 0x33e8_0033e8_000039_0065e5,
  0x33e9_0033e9_000031_000030_0065e5, 0x33ea_0033ea_000031_000031_0065e5, 0x33eb_0033eb_000031_000032_0065e5,
  0x33ec_0033ec_000031_000033_0065e5, 0x33ed_0033ed_000031_000034_0065e5, 0x33ee_0033ee_000031_000035_0065e5,
  0x33ef_0033ef_000031_000036_0065e5, 0x33f0_0033f0_000031_000037_0065e5, 0x33f1_0033f1_000031_000038_0065e5,
  0x33f2_0033f2_000031_000039_0065e5, 0x33f3_0033f3_000032_000030_0065e5, 0x33f4_0033f4_000032_000031_0065e5,
  0x33f5_0033f5_000032_000032_0065e5, 0x33f6_0033f6_000032_000033_0065e5, 0x33f7_0033f7_000032_000034_0065e5,
  0x33f8_0033f8_000032_000035_0065e5, 0x33f9_0033f9_000032_000036_0065e5, 0x33fa_0033fa_000032_000037_0065e5,
  0x33fb_0033fb_000032_000038_0065e5, 0x33fc_0033fc_000032_000039_0065e5, 0x33fd_0033fd_000033_000030_0065e5,
  0x33fe_0033fe_000033_000031_0065e5, 0x33ff_0033ff_000067_000061_00006c, 0xa640_00a640_00a641, 0xa642_00a642_00a643,
  0xa644_00a644_00a645, 0xa646_00a646_00a647, 0xa648_00a648_00a649, 0xa64a_00a64a_00a64b, 0xa64c_00a64c_00a64d,
  0xa64e_00a64e_00a64f, 0xa650_00a650_00a651, 0xa652_00a652_00a653, 0xa654_00a654_00a655, 0xa656_00a656_00a657,
  0xa658_00a658_00a659, 0xa65a_00a65a_00a65b, 0xa65c_00a65c_00a65d, 0xa65e_00a65e_00a65f, 0xa660_00a660_00a661,
  0xa662_00a662_00a663, 0xa664_00a664_00a665, 0xa666_00a666_00a667, 0xa668_00a668_00a669, 0xa66a_00a66a_00a66b,
  0xa66c_00a66c_00a66d, 0xa680_00a680_00a681, 0xa682_00a682_00a683, 0xa684_00a684_00a685, 0xa686_00a686_00a687,
  0xa688_00a688_00a689, 0xa68a_00a68a_00a68b, 0xa68c_00a68c_00a68d, 0xa68e_00a68e_00a68f, 0xa690_00a690_00a691,
  0xa692_00a692_00a693, 0xa694_00a694_00a695, 0xa696_00a696_00a697, 0xa698_00a698_00a699, 0xa69a_00a69a_00a69b,
  0xa69c_00a69c_00044a, 0xa69d_00a69d_00044c, 0xa722_00a722_00a723, 0xa724_00a724_00a725, 0xa726_00a726_00a727,
  0xa728_00a728_00a729, 0xa72a_00a72a_00a72b, 0xa72c_00a72c_00a72d, 0xa72e_00a72e_00a72f, 0xa732_00a732_00a733,
  0xa734_00a734_00a735, 0xa736_00a736_00a737, 0xa738_00a738_00a739, 0xa73a_00a73a_00a73b, 0xa73c_00a73c_00a73d,
  0xa73e_00a73e_00a73f, 0xa740_00a740_00a741, 0xa742_00a742_00a743, 0xa744_00a744_00a745, 0xa746_00a746_00a747,
  0xa748_00a748_00a749, 0xa74a_00a74a_00a74b, 0xa74c_00a74c_00a74d, 0xa74e_00a74e_00a74f, 0xa750_00a750_00a751,
  0xa752_00a752_00a753, 0xa754_00a754_00a755, 0xa756_00a756_00a757, 0xa758_00a758_00a759, 0xa75a_00a75a_00a75b,
  0xa75c_00a75c_00a75d, 0xa75e_00a75e_00a75f, 0xa760_00a760_00a761, 0xa762_00a762_00a763, 0xa764_00a764_00a765,
  0xa766_00a766_00a767, 0xa768_00a768_00a769, 0xa76a_00a76a_00a76b, 0xa76c_00a76c_00a76d, 0xa76e_00a76e_00a76f,
  0xa770_00a770_00a76f, 0xa779_00a779_00a77a, 0xa77b_00a77b_00a77c, 0xa77d_00a77d_001d79, 0xa77e_00a77e_00a77f,
  0xa780_00a780_00a781, 0xa782_00a782_00a783, 0xa784_00a784_00a785, 0xa786_00a786_00a787, 0xa78b_00a78b_00a78c,
  0xa78d_00a78d_000265, 0xa790_00a790_00a791, 0xa792_00a792_00a793, 0xa796_00a796_00a797, 0xa798_00a798_00a799,
  0xa79a_00a79a_00a79b, 0xa79c_00a79c_00a79d, 0xa79e_00a79e_00a79f, 0xa7a0_00a7a0_00a7a1, 0xa7a2_00a7a2_00a7a3,
  0xa7a4_00a7a4_00a7a5, 0xa7a6_00a7a6_00a7a7, 0xa7a8_00a7a8_00a7a9, 0xa7aa_00a7aa_000266, 0xa7ab_00a7ab_00025c,
  0xa7ac_00a7ac_000261, 0xa7ad_00a7ad_00026c, 0xa7ae_00a7ae_00026a, 0xa7b0_00a7b0_00029e, 0xa7b1_00a7b1_000287,
  0xa7b2_00a7b2_00029d, 0xa7b3_00a7b3_00ab53, 0xa7b4_00a7b4_00a7b5, 0xa7b6_00a7b6_00a7b7, 0xa7b8_00a7b8_00a7b9,
  0xa7ba_00a7ba_00a7bb, 0xa7bc_00a7bc_00a7bd, 0xa7be_00a7be_00a7bf, 0xa7c0_00a7c0_00a7c1, 0xa7c2_00a7c2_00a7c3,
  0xa7c4_00a7c4_00a794, 0xa7c5_00a7c5_000282, 0xa7c6_00a7c6_001d8e, 0xa7c7_00a7c7_00a7c8, 0xa7c9_00a7c9_00a7ca,
  0xa7cb_00a7cb_000264, 0xa7cc_00a7cc_00a7cd, 0xa7ce_00a7ce_00a7cf, 0xa7d0_00a7d0_00a7d1, 0xa7d2_00a7d2_00a7d3,
  0xa7d4_00a7d4_00a7d5, 0xa7d6_00a7d6_00a7d7, 0xa7d8_00a7d8_00a7d9, 0xa7da_00a7da_00a7db, 0xa7dc_00a7dc_00019b,
  0xa7dd_00a7dd_000277, 0xa7e2_00a7e2_00027c, 0xa7f1_00a7f1_000073, 0xa7f2_00a7f2_000063, 0xa7f3_00a7f3_000066,
  0xa7f4_00a7f4_000071, 0xa7f5_00a7f5_00a7f6, 0xa7f8_00a7f8_000127, 0xa7f9_00a7f9_000153, 0xab5c_00ab5c_00a727,
  0xab5d_00ab5d_00ab37, 0xab5e_00ab5e_00026b, 0xab5f_00ab5f_00ab52, 0xab69_00ab69_00028d, 0xab70_00ab70_0013a0,
  0xab71_00ab71_0013a1, 0xab72_00ab72_0013a2, 0xab73_00ab73_0013a3, 0xab74_00ab74_0013a4, 0xab75_00ab75_0013a5,
  0xab76_00ab76_0013a6, 0xab77_00ab77_0013a7, 0xab78_00ab78_0013a8, 0xab79_00ab79_0013a9, 0xab7a_00ab7a_0013aa,
  0xab7b_00ab7b_0013ab, 0xab7c_00ab7c_0013ac, 0xab7d_00ab7d_0013ad, 0xab7e_00ab7e_0013ae, 0xab7f_00ab7f_0013af,
  0xab80_00ab80_0013b0, 0xab81_00ab81_0013b1, 0xab82_00ab82_0013b2, 0xab83_00ab83_0013b3, 0xab84_00ab84_0013b4,
  0xab85_00ab85_0013b5, 0xab86_00ab86_0013b6, 0xab87_00ab87_0013b7, 0xab88_00ab88_0013b8, 0xab89_00ab89_0013b9,
  0xab8a_00ab8a_0013ba, 0xab8b_00ab8b_0013bb, 0xab8c_00ab8c_0013bc, 0xab8d_00ab8d_0013bd, 0xab8e_00ab8e_0013be,
  0xab8f_00ab8f_0013bf, 0xab90_00ab90_0013c0, 0xab91_00ab91_0013c1, 0xab92_00ab92_0013c2, 0xab93_00ab93_0013c3,
  0xab94_00ab94_0013c4, 0xab95_00ab95_0013c5, 0xab96_00ab96_0013c6, 0xab97_00ab97_0013c7, 0xab98_00ab98_0013c8,
  0xab99_00ab99_0013c9, 0xab9a_00ab9a_0013ca, 0xab9b_00ab9b_0013cb, 0xab9c_00ab9c_0013cc, 0xab9d_00ab9d_0013cd,
  0xab9e_00ab9e_0013ce, 0xab9f_00ab9f_0013cf, 0xaba0_00aba0_0013d0, 0xaba1_00aba1_0013d1, 0xaba2_00aba2_0013d2,
  0xaba3_00aba3_0013d3, 0xaba4_00aba4_0013d4, 0xaba5_00aba5_0013d5, 0xaba6_00aba6_0013d6, 0xaba7_00aba7_0013d7,
  0xaba8_00aba8_0013d8, 0xaba9_00aba9_0013d9, 0xabaa_00abaa_0013da, 0xabab_00abab_0013db, 0xabac_00abac_0013dc,
  0xabad_00abad_0013dd, 0xabae_00abae_0013de, 0xabaf_00abaf_0013df, 0xabb0_00abb0_0013e0, 0xabb1_00abb1_0013e1,
  0xabb2_00abb2_0013e2, 0xabb3_00abb3_0013e3, 0xabb4_00abb4_0013e4, 0xabb5_00abb5_0013e5, 0xabb6_00abb6_0013e6,
  0xabb7_00abb7_0013e7, 0xabb8_00abb8_0013e8, 0xabb9_00abb9_0013e9, 0xabba_00abba_0013ea, 0xabbb_00abbb_0013eb,
  0xabbc_00abbc_0013ec, 0xabbd_00abbd_0013ed, 0xabbe_00abbe_0013ee, 0xabbf_00abbf_0013ef, 0xf900_00f900_008c48,
  0xf901_00f901_0066f4, 0xf902_00f902_008eca, 0xf903_00f903_008cc8, 0xf904_00f904_006ed1, 0xf905_00f905_004e32,
  0xf906_00f906_0053e5, 0xf907_00f908_009f9c, 0xf909_00f909_005951, 0xf90a_00f90a_0091d1, 0xf90b_00f90b_005587,
  0xf90c_00f90c_005948, 0xf90d_00f90d_0061f6, 0xf90e_00f90e_007669, 0xf90f_00f90f_007f85, 0xf910_00f910_00863f,
  0xf911_00f911_0087ba, 0xf912_00f912_0088f8, 0xf913_00f913_00908f, 0xf914_00f914_006a02, 0xf915_00f915_006d1b,
  0xf916_00f916_0070d9, 0xf917_00f917_0073de, 0xf918_00f918_00843d, 0xf919_00f919_00916a, 0xf91a_00f91a_0099f1,
  0xf91b_00f91b_004e82, 0xf91c_00f91c_005375, 0xf91d_00f91d_006b04, 0xf91e_00f91e_00721b, 0xf91f_00f91f_00862d,
  0xf920_00f920_009e1e, 0xf921_00f921_005d50, 0xf922_00f922_006feb, 0xf923_00f923_0085cd, 0xf924_00f924_008964,
  0xf925_00f925_0062c9, 0xf926_00f926_0081d8, 0xf927_00f927_00881f, 0xf928_00f928_005eca, 0xf929_00f929_006717,
  0xf92a_00f92a_006d6a, 0xf92b_00f92b_0072fc, 0xf92c_00f92c_0090ce, 0xf92d_00f92d_004f86, 0xf92e_00f92e_0051b7,
  0xf92f_00f92f_0052de, 0xf930_00f930_0064c4, 0xf931_00f931_006ad3, 0xf932_00f932_007210, 0xf933_00f933_0076e7,
  0xf934_00f934_008001, 0xf935_00f935_008606, 0xf936_00f936_00865c, 0xf937_00f937_008def, 0xf938_00f938_009732,
  0xf939_00f939_009b6f, 0xf93a_00f93a_009dfa, 0xf93b_00f93b_00788c, 0xf93c_00f93c_00797f, 0xf93d_00f93d_007da0,
  0xf93e_00f93e_0083c9, 0xf93f_00f93f_009304, 0xf940_00f940_009e7f, 0xf941_00f941_008ad6, 0xf942_00f942_0058df,
  0xf943_00f943_005f04, 0xf944_00f944_007c60, 0xf945_00f945_00807e, 0xf946_00f946_007262, 0xf947_00f947_0078ca,
  0xf948_00f948_008cc2, 0xf949_00f949_0096f7, 0xf94a_00f94a_0058d8, 0xf94b_00f94b_005c62, 0xf94c_00f94c_006a13,
  0xf94d_00f94d_006dda, 0xf94e_00f94e_006f0f, 0xf94f_00f94f_007d2f, 0xf950_00f950_007e37, 0xf951_00f951_00964b,
  0xf952_00f952_0052d2, 0xf953_00f953_00808b, 0xf954_00f954_0051dc, 0xf955_00f955_0051cc, 0xf956_00f956_007a1c,
  0xf957_00f957_007dbe, 0xf958_00f958_0083f1, 0xf959_00f959_009675, 0xf95a_00f95a_008b80, 0xf95b_00f95b_0062cf,
  0xf95c_00f95c_006a02, 0xf95d_00f95d_008afe, 0xf95e_00f95e_004e39, 0xf95f_00f95f_005be7, 0xf960_00f960_006012,
  0xf961_00f961_007387, 0xf962_00f962_007570, 0xf963_00f963_005317, 0xf964_00f964_0078fb, 0xf965_00f965_004fbf,
  0xf966_00f966_005fa9, 0xf967_00f967_004e0d, 0xf968_00f968_006ccc, 0xf969_00f969_006578, 0xf96a_00f96a_007d22,
  0xf96b_00f96b_0053c3, 0xf96c_00f96c_00585e, 0xf96d_00f96d_007701, 0xf96e_00f96e_008449, 0xf96f_00f96f_008aaa,
  0xf970_00f970_006bba, 0xf971_00f971_008fb0, 0xf972_00f972_006c88, 0xf973_00f973_0062fe, 0xf974_00f974_0082e5,
  0xf975_00f975_0063a0, 0xf976_00f976_007565, 0xf977_00f977_004eae, 0xf978_00f978_005169, 0xf979_00f979_0051c9,
  0xf97a_00f97a_006881, 0xf97b_00f97b_007ce7, 0xf97c_00f97c_00826f, 0xf97d_00f97d_008ad2, 0xf97e_00f97e_0091cf,
  0xf97f_00f97f_0052f5, 0xf980_00f980_005442, 0xf981_00f981_005973, 0xf982_00f982_005eec, 0xf983_00f983_0065c5,
  0xf984_00f984_006ffe, 0xf985_00f985_00792a, 0xf986_00f986_0095ad, 0xf987_00f987_009a6a, 0xf988_00f988_009e97,
  0xf989_00f989_009ece, 0xf98a_00f98a_00529b, 0xf98b_00f98b_0066c6, 0xf98c_00f98c_006b77, 0xf98d_00f98d_008f62,
  0xf98e_00f98e_005e74, 0xf98f_00f98f_006190, 0xf990_00f990_006200, 0xf991_00f991_00649a, 0xf992_00f992_006f23,
  0xf993_00f993_007149, 0xf994_00f994_007489, 0xf995_00f995_0079ca, 0xf996_00f996_007df4, 0xf997_00f997_00806f,
  0xf998_00f998_008f26, 0xf999_00f999_0084ee, 0xf99a_00f99a_009023, 0xf99b_00f99b_00934a, 0xf99c_00f99c_005217,
  0xf99d_00f99d_0052a3, 0xf99e_00f99e_0054bd, 0xf99f_00f99f_0070c8, 0xf9a0_00f9a0_0088c2, 0xf9a1_00f9a1_008aaa,
  0xf9a2_00f9a2_005ec9, 0xf9a3_00f9a3_005ff5, 0xf9a4_00f9a4_00637b, 0xf9a5_00f9a5_006bae, 0xf9a6_00f9a6_007c3e,
  0xf9a7_00f9a7_007375, 0xf9a8_00f9a8_004ee4, 0xf9a9_00f9a9_0056f9, 0xf9aa_00f9aa_005be7, 0xf9ab_00f9ab_005dba,
  0xf9ac_00f9ac_00601c, 0xf9ad_00f9ad_0073b2, 0xf9ae_00f9ae_007469, 0xf9af_00f9af_007f9a, 0xf9b0_00f9b0_008046,
  0xf9b1_00f9b1_009234, 0xf9b2_00f9b2_0096f6, 0xf9b3_00f9b3_009748, 0xf9b4_00f9b4_009818, 0xf9b5_00f9b5_004f8b,
  0xf9b6_00f9b6_0079ae, 0xf9b7_00f9b7_0091b4, 0xf9b8_00f9b8_0096b8, 0xf9b9_00f9b9_0060e1, 0xf9ba_00f9ba_004e86,
  0xf9bb_00f9bb_0050da, 0xf9bc_00f9bc_005bee, 0xf9bd_00f9bd_005c3f, 0xf9be_00f9be_006599, 0xf9bf_00f9bf_006a02,
  0xf9c0_00f9c0_0071ce, 0xf9c1_00f9c1_007642, 0xf9c2_00f9c2_0084fc, 0xf9c3_00f9c3_00907c, 0xf9c4_00f9c4_009f8d,
  0xf9c5_00f9c5_006688, 0xf9c6_00f9c6_00962e, 0xf9c7_00f9c7_005289, 0xf9c8_00f9c8_00677b, 0xf9c9_00f9c9_0067f3,
  0xf9ca_00f9ca_006d41, 0xf9cb_00f9cb_006e9c, 0xf9cc_00f9cc_007409, 0xf9cd_00f9cd_007559, 0xf9ce_00f9ce_00786b,
  0xf9cf_00f9cf_007d10, 0xf9d0_00f9d0_00985e, 0xf9d1_00f9d1_00516d, 0xf9d2_00f9d2_00622e, 0xf9d3_00f9d3_009678,
  0xf9d4_00f9d4_00502b, 0xf9d5_00f9d5_005d19, 0xf9d6_00f9d6_006dea, 0xf9d7_00f9d7_008f2a, 0xf9d8_00f9d8_005f8b,
  0xf9d9_00f9d9_006144, 0xf9da_00f9da_006817, 0xf9db_00f9db_007387, 0xf9dc_00f9dc_009686, 0xf9dd_00f9dd_005229,
  0xf9de_00f9de_00540f, 0xf9df_00f9df_005c65, 0xf9e0_00f9e0_006613, 0xf9e1_00f9e1_00674e, 0xf9e2_00f9e2_0068a8,
  0xf9e3_00f9e3_006ce5, 0xf9e4_00f9e4_007406, 0xf9e5_00f9e5_0075e2, 0xf9e6_00f9e6_007f79, 0xf9e7_00f9e7_0088cf,
  0xf9e8_00f9e8_0088e1, 0xf9e9_00f9e9_0091cc, 0xf9ea_00f9ea_0096e2, 0xf9eb_00f9eb_00533f, 0xf9ec_00f9ec_006eba,
  0xf9ed_00f9ed_00541d, 0xf9ee_00f9ee_0071d0, 0xf9ef_00f9ef_007498, 0xf9f0_00f9f0_0085fa, 0xf9f1_00f9f1_0096a3,
  0xf9f2_00f9f2_009c57, 0xf9f3_00f9f3_009e9f, 0xf9f4_00f9f4_006797, 0xf9f5_00f9f5_006dcb, 0xf9f6_00f9f6_0081e8,
  0xf9f7_00f9f7_007acb, 0xf9f8_00f9f8_007b20, 0xf9f9_00f9f9_007c92, 0xf9fa_00f9fa_0072c0, 0xf9fb_00f9fb_007099,
  0xf9fc_00f9fc_008b58, 0xf9fd_00f9fd_004ec0, 0xf9fe_00f9fe_008336, 0xf9ff_00f9ff_00523a, 0xfa00_00fa00_005207,
  0xfa01_00fa01_005ea6, 0xfa02_00fa02_0062d3, 0xfa03_00fa03_007cd6, 0xfa04_00fa04_005b85, 0xfa05_00fa05_006d1e,
  0xfa06_00fa06_0066b4, 0xfa07_00fa07_008f3b, 0xfa08_00fa08_00884c, 0xfa09_00fa09_00964d, 0xfa0a_00fa0a_00898b,
  0xfa0b_00fa0b_005ed3, 0xfa0c_00fa0c_005140, 0xfa0d_00fa0d_0055c0, 0xfa10_00fa10_00585a, 0xfa12_00fa12_006674,
  0xfa15_00fa15_0051de, 0xfa16_00fa16_00732a, 0xfa17_00fa17_0076ca, 0xfa18_00fa18_00793c, 0xfa19_00fa19_00795e,
  0xfa1a_00fa1a_007965, 0xfa1b_00fa1b_00798f, 0xfa1c_00fa1c_009756, 0xfa1d_00fa1d_007cbe, 0xfa1e_00fa1e_007fbd,
  0xfa20_00fa20_008612, 0xfa22_00fa22_008af8, 0xfa25_00fa25_009038, 0xfa26_00fa26_0090fd, 0xfa2a_00fa2a_0098ef,
  0xfa2b_00fa2b_0098fc, 0xfa2c_00fa2c_009928, 0xfa2d_00fa2d_009db4, 0xfa2e_00fa2e_0090de, 0xfa2f_00fa2f_0096b7,
  0xfa30_00fa30_004fae, 0xfa31_00fa31_0050e7, 0xfa32_00fa32_00514d, 0xfa33_00fa33_0052c9, 0xfa34_00fa34_0052e4,
  0xfa35_00fa35_005351, 0xfa36_00fa36_00559d, 0xfa37_00fa37_005606, 0xfa38_00fa38_005668, 0xfa39_00fa39_005840,
  0xfa3a_00fa3a_0058a8, 0xfa3b_00fa3b_005c64, 0xfa3c_00fa3c_005c6e, 0xfa3d_00fa3d_006094, 0xfa3e_00fa3e_006168,
  0xfa3f_00fa3f_00618e, 0xfa40_00fa40_0061f2, 0xfa41_00fa41_00654f, 0xfa42_00fa42_0065e2, 0xfa43_00fa43_006691,
  0xfa44_00fa44_006885, 0xfa45_00fa45_006d77, 0xfa46_00fa46_006e1a, 0xfa47_00fa47_006f22, 0xfa48_00fa48_00716e,
  0xfa49_00fa49_00722b, 0xfa4a_00fa4a_007422, 0xfa4b_00fa4b_007891, 0xfa4c_00fa4c_00793e, 0xfa4d_00fa4d_007949,
  0xfa4e_00fa4e_007948, 0xfa4f_00fa4f_007950, 0xfa50_00fa50_007956, 0xfa51_00fa51_00795d, 0xfa52_00fa52_00798d,
  0xfa53_00fa53_00798e, 0xfa54_00fa54_007a40, 0xfa55_00fa55_007a81, 0xfa56_00fa56_007bc0, 0xfa57_00fa57_007df4,
  0xfa58_00fa58_007e09, 0xfa59_00fa59_007e41, 0xfa5a_00fa5a_007f72, 0xfa5b_00fa5b_008005, 0xfa5c_00fa5c_0081ed,
  0xfa5d_00fa5e_008279, 0xfa5f_00fa5f_008457, 0xfa60_00fa60_008910, 0xfa61_00fa61_008996, 0xfa62_00fa62_008b01,
  0xfa63_00fa63_008b39, 0xfa64_00fa64_008cd3, 0xfa65_00fa65_008d08, 0xfa66_00fa66_008fb6, 0xfa67_00fa67_009038,
  0xfa68_00fa68_0096e3, 0xfa69_00fa69_0097ff, 0xfa6a_00fa6a_00983b, 0xfa6b_00fa6b_006075, 0xfa6c_00fa6c_0242ee,
  0xfa6d_00fa6d_008218, 0xfa70_00fa70_004e26, 0xfa71_00fa71_0051b5, 0xfa72_00fa72_005168, 0xfa73_00fa73_004f80,
  0xfa74_00fa74_005145, 0xfa75_00fa75_005180, 0xfa76_00fa76_0052c7, 0xfa77_00fa77_0052fa, 0xfa78_00fa78_00559d,
  0xfa79_00fa79_005555, 0xfa7a_00fa7a_005599, 0xfa7b_00fa7b_0055e2, 0xfa7c_00fa7c_00585a, 0xfa7d_00fa7d_0058b3,
  0xfa7e_00fa7e_005944, 0xfa7f_00fa7f_005954, 0xfa80_00fa80_005a62, 0xfa81_00fa81_005b28, 0xfa82_00fa82_005ed2,
  0xfa83_00fa83_005ed9, 0xfa84_00fa84_005f69, 0xfa85_00fa85_005fad, 0xfa86_00fa86_0060d8, 0xfa87_00fa87_00614e,
  0xfa88_00fa88_006108, 0xfa89_00fa89_00618e, 0xfa8a_00fa8a_006160, 0xfa8b_00fa8b_0061f2, 0xfa8c_00fa8c_006234,
  0xfa8d_00fa8d_0063c4, 0xfa8e_00fa8e_00641c, 0xfa8f_00fa8f_006452, 0xfa90_00fa90_006556, 0xfa91_00fa91_006674,
  0xfa92_00fa92_006717, 0xfa93_00fa93_00671b, 0xfa94_00fa94_006756, 0xfa95_00fa95_006b79, 0xfa96_00fa96_006bba,
  0xfa97_00fa97_006d41, 0xfa98_00fa98_006edb, 0xfa99_00fa99_006ecb, 0xfa9a_00fa9a_006f22, 0xfa9b_00fa9b_00701e,
  0xfa9c_00fa9c_00716e, 0xfa9d_00fa9d_0077a7, 0xfa9e_00fa9e_007235, 0xfa9f_00fa9f_0072af, 0xfaa0_00faa0_00732a,
  0xfaa1_00faa1_007471, 0xfaa2_00faa2_007506, 0xfaa3_00faa3_00753b, 0xfaa4_00faa4_00761d, 0xfaa5_00faa5_00761f,
  0xfaa6_00faa6_0076ca, 0xfaa7_00faa7_0076db, 0xfaa8_00faa8_0076f4, 0xfaa9_00faa9_00774a, 0xfaaa_00faaa_007740,
  0xfaab_00faab_0078cc, 0xfaac_00faac_007ab1, 0xfaad_00faad_007bc0, 0xfaae_00faae_007c7b, 0xfaaf_00faaf_007d5b,
  0xfab0_00fab0_007df4, 0xfab1_00fab1_007f3e, 0xfab2_00fab2_008005, 0xfab3_00fab3_008352, 0xfab4_00fab4_0083ef,
  0xfab5_00fab5_008779, 0xfab6_00fab6_008941, 0xfab7_00fab7_008986, 0xfab8_00fab8_008996, 0xfab9_00fab9_008abf,
  0xfaba_00faba_008af8, 0xfabb_00fabb_008acb, 0xfabc_00fabc_008b01, 0xfabd_00fabd_008afe, 0xfabe_00fabe_008aed,
  0xfabf_00fabf_008b39, 0xfac0_00fac0_008b8a, 0xfac1_00fac1_008d08, 0xfac2_00fac2_008f38, 0xfac3_00fac3_009072,
  0xfac4_00fac4_009199, 0xfac5_00fac5_009276, 0xfac6_00fac6_00967c, 0xfac7_00fac7_0096e3, 0xfac8_00fac8_009756,
  0xfac9_00fac9_0097db, 0xfaca_00faca_0097ff, 0xfacb_00facb_00980b, 0xfacc_00facc_00983b, 0xfacd_00facd_009b12,
  0xface_00face_009f9c, 0xfacf_00facf_02284a, 0xfad0_00fad0_022844, 0xfad1_00fad1_0233d5, 0xfad2_00fad2_003b9d,
  0xfad3_00fad3_004018, 0xfad4_00fad4_004039, 0xfad5_00fad5_025249, 0xfad6_00fad6_025cd0, 0xfad7_00fad7_027ed3,
  0xfad8_00fad8_009f43, 0xfad9_00fad9_009f8e, 0xfb00_00fb00_000066_000066, 0xfb01_00fb01_000066_000069,
  0xfb02_00fb02_000066_00006c, 0xfb03_00fb03_000066_000066_000069, 0xfb04_00fb04_000066_000066_00006c,
  0xfb05_00fb06_000073_000074, 0xfb13_00fb13_000574_000576, 0xfb14_00fb14_000574_000565, 0xfb15_00fb15_000574_00056b,
  0xfb16_00fb16_00057e_000576, 0xfb17_00fb17_000574_00056d, 0xfb1d_00fb1d_0005d9_0005b4, 0xfb1f_00fb1f_0005f2_0005b7,
  0xfb20_00fb20_0005e2, 0xfb21_00fb21_0005d0, 0xfb22_00fb22_0005d3, 0xfb23_00fb23_0005d4, 0xfb24_00fb24_0005db,
  0xfb25_00fb25_0005dc, 0xfb26_00fb26_0005dd, 0xfb27_00fb27_0005e8, 0xfb28_00fb28_0005ea, 0xfb29_00fb29_00002b,
  0xfb2a_00fb2a_0005e9_0005c1, 0xfb2b_00fb2b_0005e9_0005c2, 0xfb2c_00fb2c_0005e9_0005bc_0005c1,
  0xfb2d_00fb2d_0005e9_0005bc_0005c2, 0xfb2e_00fb2e_0005d0_0005b7, 0xfb2f_00fb2f_0005d0_0005b8,
  0xfb30_00fb30_0005d0_0005bc, 0xfb31_00fb31_0005d1_0005bc, 0xfb32_00fb32_0005d2_0005bc, 0xfb33_00fb33_0005d3_0005bc,
  0xfb34_00fb34_0005d4_0005bc, 0xfb35_00fb35_0005d5_0005bc, 0xfb36_00fb36_0005d6_0005bc, 0xfb38_00fb38_0005d8_0005bc,
  0xfb39_00fb39_0005d9_0005bc, 0xfb3a_00fb3a_0005da_0005bc, 0xfb3b_00fb3b_0005db_0005bc, 0xfb3c_00fb3c_0005dc_0005bc,
  0xfb3e_00fb3e_0005de_0005bc, 0xfb40_00fb40_0005e0_0005bc, 0xfb41_00fb41_0005e1_0005bc, 0xfb43_00fb43_0005e3_0005bc,
  0xfb44_00fb44_0005e4_0005bc, 0xfb46_00fb46_0005e6_0005bc, 0xfb47_00fb47_0005e7_0005bc, 0xfb48_00fb48_0005e8_0005bc,
  0xfb49_00fb49_0005e9_0005bc, 0xfb4a_00fb4a_0005ea_0005bc, 0xfb4b_00fb4b_0005d5_0005b9, 0xfb4c_00fb4c_0005d1_0005bf,
  0xfb4d_00fb4d_0005db_0005bf, 0xfb4e_00fb4e_0005e4_0005bf, 0xfb4f_00fb4f_0005d0_0005dc, 0xfb50_00fb51_000671,
  0xfb52_00fb55_00067b, 0xfb56_00fb59_00067e, 0xfb5a_00fb5d_000680, 0xfb5e_00fb61_00067a, 0xfb62_00fb65_00067f,
  0xfb66_00fb69_000679, 0xfb6a_00fb6d_0006a4, 0xfb6e_00fb71_0006a6, 0xfb72_00fb75_000684, 0xfb76_00fb79_000683,
  0xfb7a_00fb7d_000686, 0xfb7e_00fb81_000687, 0xfb82_00fb83_00068d, 0xfb84_00fb85_00068c, 0xfb86_00fb87_00068e,
  0xfb88_00fb89_000688, 0xfb8a_00fb8b_000698, 0xfb8c_00fb8d_000691, 0xfb8e_00fb91_0006a9, 0xfb92_00fb95_0006af,
  0xfb96_00fb99_0006b3, 0xfb9a_00fb9d_0006b1, 0xfb9e_00fb9f_0006ba, 0xfba0_00fba3_0006bb, 0xfba4_00fba5_0006c0,
  0xfba6_00fba9_0006c1, 0xfbaa_00fbad_0006be, 0xfbae_00fbaf_0006d2, 0xfbb0_00fbb1_0006d3, 0xfbd3_00fbd6_0006ad,
  0xfbd7_00fbd8_0006c7, 0xfbd9_00fbda_0006c6, 0xfbdb_00fbdc_0006c8, 0xfbdd_00fbdd_0006c7_000674,
  0xfbde_00fbdf_0006cb, 0xfbe0_00fbe1_0006c5, 0xfbe2_00fbe3_0006c9, 0xfbe4_00fbe7_0006d0, 0xfbe8_00fbe9_000649,
  0xfbea_00fbeb_000626_000627, 0xfbec_00fbed_000626_0006d5, 0xfbee_00fbef_000626_000648, 0xfbf0_00fbf1_000626_0006c7,
  0xfbf2_00fbf3_000626_0006c6, 0xfbf4_00fbf5_000626_0006c8, 0xfbf6_00fbf8_000626_0006d0, 0xfbf9_00fbfb_000626_000649,
  0xfbfc_00fbff_0006cc, 0xfc00_00fc00_000626_00062c, 0xfc01_00fc01_000626_00062d, 0xfc02_00fc02_000626_000645,
  0xfc03_00fc03_000626_000649, 0xfc04_00fc04_000626_00064a, 0xfc05_00fc05_000628_00062c, 0xfc06_00fc06_000628_00062d,
  0xfc07_00fc07_000628_00062e, 0xfc08_00fc08_000628_000645, 0xfc09_00fc09_000628_000649, 0xfc0a_00fc0a_000628_00064a,
  0xfc0b_00fc0b_00062a_00062c, 0xfc0c_00fc0c_00062a_00062d, 0xfc0d_00fc0d_00062a_00062e, 0xfc0e_00fc0e_00062a_000645,
  0xfc0f_00fc0f_00062a_000649, 0xfc10_00fc10_00062a_00064a, 0xfc11_00fc11_00062b_00062c, 0xfc12_00fc12_00062b_000645,
  0xfc13_00fc13_00062b_000649, 0xfc14_00fc14_00062b_00064a, 0xfc15_00fc15_00062c_00062d, 0xfc16_00fc16_00062c_000645,
  0xfc17_00fc17_00062d_00062c, 0xfc18_00fc18_00062d_000645, 0xfc19_00fc19_00062e_00062c, 0xfc1a_00fc1a_00062e_00062d,
  0xfc1b_00fc1b_00062e_000645, 0xfc1c_00fc1c_000633_00062c, 0xfc1d_00fc1d_000633_00062d, 0xfc1e_00fc1e_000633_00062e,
  0xfc1f_00fc1f_000633_000645, 0xfc20_00fc20_000635_00062d, 0xfc21_00fc21_000635_000645, 0xfc22_00fc22_000636_00062c,
  0xfc23_00fc23_000636_00062d, 0xfc24_00fc24_000636_00062e, 0xfc25_00fc25_000636_000645, 0xfc26_00fc26_000637_00062d,
  0xfc27_00fc27_000637_000645, 0xfc28_00fc28_000638_000645, 0xfc29_00fc29_000639_00062c, 0xfc2a_00fc2a_000639_000645,
  0xfc2b_00fc2b_00063a_00062c, 0xfc2c_00fc2c_00063a_000645, 0xfc2d_00fc2d_000641_00062c, 0xfc2e_00fc2e_000641_00062d,
  0xfc2f_00fc2f_000641_00062e, 0xfc30_00fc30_000641_000645, 0xfc31_00fc31_000641_000649, 0xfc32_00fc32_000641_00064a,
  0xfc33_00fc33_000642_00062d, 0xfc34_00fc34_000642_000645, 0xfc35_00fc35_000642_000649, 0xfc36_00fc36_000642_00064a,
  0xfc37_00fc37_000643_000627, 0xfc38_00fc38_000643_00062c, 0xfc39_00fc39_000643_00062d, 0xfc3a_00fc3a_000643_00062e,
  0xfc3b_00fc3b_000643_000644, 0xfc3c_00fc3c_000643_000645, 0xfc3d_00fc3d_000643_000649, 0xfc3e_00fc3e_000643_00064a,
  0xfc3f_00fc3f_000644_00062c, 0xfc40_00fc40_000644_00062d, 0xfc41_00fc41_000644_00062e, 0xfc42_00fc42_000644_000645,
  0xfc43_00fc43_000644_000649, 0xfc44_00fc44_000644_00064a, 0xfc45_00fc45_000645_00062c, 0xfc46_00fc46_000645_00062d,
  0xfc47_00fc47_000645_00062e, 0xfc48_00fc48_000645_000645, 0xfc49_00fc49_000645_000649, 0xfc4a_00fc4a_000645_00064a,
  0xfc4b_00fc4b_000646_00062c, 0xfc4c_00fc4c_000646_00062d, 0xfc4d_00fc4d_000646_00062e, 0xfc4e_00fc4e_000646_000645,
  0xfc4f_00fc4f_000646_000649, 0xfc50_00fc50_000646_00064a, 0xfc51_00fc51_000647_00062c, 0xfc52_00fc52_000647_000645,
  0xfc53_00fc53_000647_000649, 0xfc54_00fc54_000647_00064a, 0xfc55_00fc55_00064a_00062c, 0xfc56_00fc56_00064a_00062d,
  0xfc57_00fc57_00064a_00062e, 0xfc58_00fc58_00064a_000645, 0xfc59_00fc59_00064a_000649, 0xfc5a_00fc5a_00064a_00064a,
  0xfc5b_00fc5b_000630_000670, 0xfc5c_00fc5c_000631_000670, 0xfc5d_00fc5d_000649_000670,
  0xfc5e_00fc5e_000020_00064c_000651, 0xfc5f_00fc5f_000020_00064d_000651, 0xfc60_00fc60_000020_00064e_000651,
  0xfc61_00fc61_000020_00064f_000651, 0xfc62_00fc62_000020_000650_000651, 0xfc63_00fc63_000020_000651_000670,
  0xfc64_00fc64_000626_000631, 0xfc65_00fc65_000626_000632, 0xfc66_00fc66_000626_000645, 0xfc67_00fc67_000626_000646,
  0xfc68_00fc68_000626_000649, 0xfc69_00fc69_000626_00064a, 0xfc6a_00fc6a_000628_000631, 0xfc6b_00fc6b_000628_000632,
  0xfc6c_00fc6c_000628_000645, 0xfc6d_00fc6d_000628_000646, 0xfc6e_00fc6e_000628_000649, 0xfc6f_00fc6f_000628_00064a,
  0xfc70_00fc70_00062a_000631, 0xfc71_00fc71_00062a_000632, 0xfc72_00fc72_00062a_000645, 0xfc73_00fc73_00062a_000646,
  0xfc74_00fc74_00062a_000649, 0xfc75_00fc75_00062a_00064a, 0xfc76_00fc76_00062b_000631, 0xfc77_00fc77_00062b_000632,
  0xfc78_00fc78_00062b_000645, 0xfc79_00fc79_00062b_000646, 0xfc7a_00fc7a_00062b_000649, 0xfc7b_00fc7b_00062b_00064a,
  0xfc7c_00fc7c_000641_000649, 0xfc7d_00fc7d_000641_00064a, 0xfc7e_00fc7e_000642_000649, 0xfc7f_00fc7f_000642_00064a,
  0xfc80_00fc80_000643_000627, 0xfc81_00fc81_000643_000644, 0xfc82_00fc82_000643_000645, 0xfc83_00fc83_000643_000649,
  0xfc84_00fc84_000643_00064a, 0xfc85_00fc85_000644_000645, 0xfc86_00fc86_000644_000649, 0xfc87_00fc87_000644_00064a,
  0xfc88_00fc88_000645_000627, 0xfc89_00fc89_000645_000645, 0xfc8a_00fc8a_000646_000631, 0xfc8b_00fc8b_000646_000632,
  0xfc8c_00fc8c_000646_000645, 0xfc8d_00fc8d_000646_000646, 0xfc8e_00fc8e_000646_000649, 0xfc8f_00fc8f_000646_00064a,
  0xfc90_00fc90_000649_000670, 0xfc91_00fc91_00064a_000631, 0xfc92_00fc92_00064a_000632, 0xfc93_00fc93_00064a_000645,
  0xfc94_00fc94_00064a_000646, 0xfc95_00fc95_00064a_000649, 0xfc96_00fc96_00064a_00064a, 0xfc97_00fc97_000626_00062c,
  0xfc98_00fc98_000626_00062d, 0xfc99_00fc99_000626_00062e, 0xfc9a_00fc9a_000626_000645, 0xfc9b_00fc9b_000626_000647,
  0xfc9c_00fc9c_000628_00062c, 0xfc9d_00fc9d_000628_00062d, 0xfc9e_00fc9e_000628_00062e, 0xfc9f_00fc9f_000628_000645,
  0xfca0_00fca0_000628_000647, 0xfca1_00fca1_00062a_00062c, 0xfca2_00fca2_00062a_00062d, 0xfca3_00fca3_00062a_00062e,
  0xfca4_00fca4_00062a_000645, 0xfca5_00fca5_00062a_000647, 0xfca6_00fca6_00062b_000645, 0xfca7_00fca7_00062c_00062d,
  0xfca8_00fca8_00062c_000645, 0xfca9_00fca9_00062d_00062c, 0xfcaa_00fcaa_00062d_000645, 0xfcab_00fcab_00062e_00062c,
  0xfcac_00fcac_00062e_000645, 0xfcad_00fcad_000633_00062c, 0xfcae_00fcae_000633_00062d, 0xfcaf_00fcaf_000633_00062e,
  0xfcb0_00fcb0_000633_000645, 0xfcb1_00fcb1_000635_00062d, 0xfcb2_00fcb2_000635_00062e, 0xfcb3_00fcb3_000635_000645,
  0xfcb4_00fcb4_000636_00062c, 0xfcb5_00fcb5_000636_00062d, 0xfcb6_00fcb6_000636_00062e, 0xfcb7_00fcb7_000636_000645,
  0xfcb8_00fcb8_000637_00062d, 0xfcb9_00fcb9_000638_000645, 0xfcba_00fcba_000639_00062c, 0xfcbb_00fcbb_000639_000645,
  0xfcbc_00fcbc_00063a_00062c, 0xfcbd_00fcbd_00063a_000645, 0xfcbe_00fcbe_000641_00062c, 0xfcbf_00fcbf_000641_00062d,
  0xfcc0_00fcc0_000641_00062e, 0xfcc1_00fcc1_000641_000645, 0xfcc2_00fcc2_000642_00062d, 0xfcc3_00fcc3_000642_000645,
  0xfcc4_00fcc4_000643_00062c, 0xfcc5_00fcc5_000643_00062d, 0xfcc6_00fcc6_000643_00062e, 0xfcc7_00fcc7_000643_000644,
  0xfcc8_00fcc8_000643_000645, 0xfcc9_00fcc9_000644_00062c, 0xfcca_00fcca_000644_00062d, 0xfccb_00fccb_000644_00062e,
  0xfccc_00fccc_000644_000645, 0xfccd_00fccd_000644_000647, 0xfcce_00fcce_000645_00062c, 0xfccf_00fccf_000645_00062d,
  0xfcd0_00fcd0_000645_00062e, 0xfcd1_00fcd1_000645_000645, 0xfcd2_00fcd2_000646_00062c, 0xfcd3_00fcd3_000646_00062d,
  0xfcd4_00fcd4_000646_00062e, 0xfcd5_00fcd5_000646_000645, 0xfcd6_00fcd6_000646_000647, 0xfcd7_00fcd7_000647_00062c,
  0xfcd8_00fcd8_000647_000645, 0xfcd9_00fcd9_000647_000670, 0xfcda_00fcda_00064a_00062c, 0xfcdb_00fcdb_00064a_00062d,
  0xfcdc_00fcdc_00064a_00062e, 0xfcdd_00fcdd_00064a_000645, 0xfcde_00fcde_00064a_000647, 0xfcdf_00fcdf_000626_000645,
  0xfce0_00fce0_000626_000647, 0xfce1_00fce1_000628_000645, 0xfce2_00fce2_000628_000647, 0xfce3_00fce3_00062a_000645,
  0xfce4_00fce4_00062a_000647, 0xfce5_00fce5_00062b_000645, 0xfce6_00fce6_00062b_000647, 0xfce7_00fce7_000633_000645,
  0xfce8_00fce8_000633_000647, 0xfce9_00fce9_000634_000645, 0xfcea_00fcea_000634_000647, 0xfceb_00fceb_000643_000644,
  0xfcec_00fcec_000643_000645, 0xfced_00fced_000644_000645, 0xfcee_00fcee_000646_000645, 0xfcef_00fcef_000646_000647,
  0xfcf0_00fcf0_00064a_000645, 0xfcf1_00fcf1_00064a_000647, 0xfcf2_00fcf2_000640_00064e_000651,
  0xfcf3_00fcf3_000640_00064f_000651, 0xfcf4_00fcf4_000640_000650_000651, 0xfcf5_00fcf5_000637_000649,
  0xfcf6_00fcf6_000637_00064a, 0xfcf7_00fcf7_000639_000649, 0xfcf8_00fcf8_000639_00064a, 0xfcf9_00fcf9_00063a_000649,
  0xfcfa_00fcfa_00063a_00064a, 0xfcfb_00fcfb_000633_000649, 0xfcfc_00fcfc_000633_00064a, 0xfcfd_00fcfd_000634_000649,
  0xfcfe_00fcfe_000634_00064a, 0xfcff_00fcff_00062d_000649, 0xfd00_00fd00_00062d_00064a, 0xfd01_00fd01_00062c_000649,
  0xfd02_00fd02_00062c_00064a, 0xfd03_00fd03_00062e_000649, 0xfd04_00fd04_00062e_00064a, 0xfd05_00fd05_000635_000649,
  0xfd06_00fd06_000635_00064a, 0xfd07_00fd07_000636_000649, 0xfd08_00fd08_000636_00064a, 0xfd09_00fd09_000634_00062c,
  0xfd0a_00fd0a_000634_00062d, 0xfd0b_00fd0b_000634_00062e, 0xfd0c_00fd0c_000634_000645, 0xfd0d_00fd0d_000634_000631,
  0xfd0e_00fd0e_000633_000631, 0xfd0f_00fd0f_000635_000631, 0xfd10_00fd10_000636_000631, 0xfd11_00fd11_000637_000649,
  0xfd12_00fd12_000637_00064a, 0xfd13_00fd13_000639_000649, 0xfd14_00fd14_000639_00064a, 0xfd15_00fd15_00063a_000649,
  0xfd16_00fd16_00063a_00064a, 0xfd17_00fd17_000633_000649, 0xfd18_00fd18_000633_00064a, 0xfd19_00fd19_000634_000649,
  0xfd1a_00fd1a_000634_00064a, 0xfd1b_00fd1b_00062d_000649, 0xfd1c_00fd1c_00062d_00064a, 0xfd1d_00fd1d_00062c_000649,
  0xfd1e_00fd1e_00062c_00064a, 0xfd1f_00fd1f_00062e_000649, 0xfd20_00fd20_00062e_00064a, 0xfd21_00fd21_000635_000649,
  0xfd22_00fd22_000635_00064a, 0xfd23_00fd23_000636_000649, 0xfd24_00fd24_000636_00064a, 0xfd25_00fd25_000634_00062c,
  0xfd26_00fd26_000634_00062d, 0xfd27_00fd27_000634_00062e, 0xfd28_00fd28_000634_000645, 0xfd29_00fd29_000634_000631,
  0xfd2a_00fd2a_000633_000631, 0xfd2b_00fd2b_000635_000631, 0xfd2c_00fd2c_000636_000631, 0xfd2d_00fd2d_000634_00062c,
  0xfd2e_00fd2e_000634_00062d, 0xfd2f_00fd2f_000634_00062e, 0xfd30_00fd30_000634_000645, 0xfd31_00fd31_000633_000647,
  0xfd32_00fd32_000634_000647, 0xfd33_00fd33_000637_000645, 0xfd34_00fd34_000633_00062c, 0xfd35_00fd35_000633_00062d,
  0xfd36_00fd36_000633_00062e, 0xfd37_00fd37_000634_00062c, 0xfd38_00fd38_000634_00062d, 0xfd39_00fd39_000634_00062e,
  0xfd3a_00fd3a_000637_000645, 0xfd3b_00fd3b_000638_000645, 0xfd3c_00fd3d_000627_00064b,
  0xfd50_00fd50_00062a_00062c_000645, 0xfd51_00fd52_00062a_00062d_00062c, 0xfd53_00fd53_00062a_00062d_000645,
  0xfd54_00fd54_00062a_00062e_000645, 0xfd55_00fd55_00062a_000645_00062c, 0xfd56_00fd56_00062a_000645_00062d,
  0xfd57_00fd57_00062a_000645_00062e, 0xfd58_00fd59_00062c_000645_00062d, 0xfd5a_00fd5a_00062d_000645_00064a,
  0xfd5b_00fd5b_00062d_000645_000649, 0xfd5c_00fd5c_000633_00062d_00062c, 0xfd5d_00fd5d_000633_00062c_00062d,
  0xfd5e_00fd5e_000633_00062c_000649, 0xfd5f_00fd60_000633_000645_00062d, 0xfd61_00fd61_000633_000645_00062c,
  0xfd62_00fd63_000633_000645_000645, 0xfd64_00fd65_000635_00062d_00062d, 0xfd66_00fd66_000635_000645_000645,
  0xfd67_00fd68_000634_00062d_000645, 0xfd69_00fd69_000634_00062c_00064a, 0xfd6a_00fd6b_000634_000645_00062e,
  0xfd6c_00fd6d_000634_000645_000645, 0xfd6e_00fd6e_000636_00062d_000649, 0xfd6f_00fd70_000636_00062e_000645,
  0xfd71_00fd72_000637_000645_00062d, 0xfd73_00fd73_000637_000645_000645, 0xfd74_00fd74_000637_000645_00064a,
  0xfd75_00fd75_000639_00062c_000645, 0xfd76_00fd77_000639_000645_000645, 0xfd78_00fd78_000639_000645_000649,
  0xfd79_00fd79_00063a_000645_000645, 0xfd7a_00fd7a_00063a_000645_00064a, 0xfd7b_00fd7b_00063a_000645_000649,
  0xfd7c_00fd7d_000641_00062e_000645, 0xfd7e_00fd7e_000642_000645_00062d, 0xfd7f_00fd7f_000642_000645_000645,
  0xfd80_00fd80_000644_00062d_000645, 0xfd81_00fd81_000644_00062d_00064a, 0xfd82_00fd82_000644_00062d_000649,
  0xfd83_00fd84_000644_00062c_00062c, 0xfd85_00fd86_000644_00062e_000645, 0xfd87_00fd88_000644_000645_00062d,
  0xfd89_00fd89_000645_00062d_00062c, 0xfd8a_00fd8a_000645_00062d_000645, 0xfd8b_00fd8b_000645_00062d_00064a,
  0xfd8c_00fd8c_000645_00062c_00062d, 0xfd8d_00fd8d_000645_00062c_000645, 0xfd8e_00fd8e_000645_00062e_00062c,
  0xfd8f_00fd8f_000645_00062e_000645, 0xfd92_00fd92_000645_00062c_00062e, 0xfd93_00fd93_000647_000645_00062c,
  0xfd94_00fd94_000647_000645_000645, 0xfd95_00fd95_000646_00062d_000645, 0xfd96_00fd96_000646_00062d_000649,
  0xfd97_00fd98_000646_00062c_000645, 0xfd99_00fd99_000646_00062c_000649, 0xfd9a_00fd9a_000646_000645_00064a,
  0xfd9b_00fd9b_000646_000645_000649, 0xfd9c_00fd9d_00064a_000645_000645, 0xfd9e_00fd9e_000628_00062e_00064a,
  0xfd9f_00fd9f_00062a_00062c_00064a, 0xfda0_00fda0_00062a_00062c_000649, 0xfda1_00fda1_00062a_00062e_00064a,
  0xfda2_00fda2_00062a_00062e_000649, 0xfda3_00fda3_00062a_000645_00064a, 0xfda4_00fda4_00062a_000645_000649,
  0xfda5_00fda5_00062c_000645_00064a, 0xfda6_00fda6_00062c_00062d_000649, 0xfda7_00fda7_00062c_000645_000649,
  0xfda8_00fda8_000633_00062e_000649, 0xfda9_00fda9_000635_00062d_00064a, 0xfdaa_00fdaa_000634_00062d_00064a,
  0xfdab_00fdab_000636_00062d_00064a, 0xfdac_00fdac_000644_00062c_00064a, 0xfdad_00fdad_000644_000645_00064a,
  0xfdae_00fdae_00064a_00062d_00064a, 0xfdaf_00fdaf_00064a_00062c_00064a, 0xfdb0_00fdb0_00064a_000645_00064a,
  0xfdb1_00fdb1_000645_000645_00064a, 0xfdb2_00fdb2_000642_000645_00064a, 0xfdb3_00fdb3_000646_00062d_00064a,
  0xfdb4_00fdb4_000642_000645_00062d, 0xfdb5_00fdb5_000644_00062d_000645, 0xfdb6_00fdb6_000639_000645_00064a,
  0xfdb7_00fdb7_000643_000645_00064a, 0xfdb8_00fdb8_000646_00062c_00062d, 0xfdb9_00fdb9_000645_00062e_00064a,
  0xfdba_00fdba_000644_00062c_000645, 0xfdbb_00fdbb_000643_000645_000645, 0xfdbc_00fdbc_000644_00062c_000645,
  0xfdbd_00fdbd_000646_00062c_00062d, 0xfdbe_00fdbe_00062c_00062d_00064a, 0xfdbf_00fdbf_00062d_00062c_00064a,
  0xfdc0_00fdc0_000645_00062c_00064a, 0xfdc1_00fdc1_000641_000645_00064a, 0xfdc2_00fdc2_000628_00062d_00064a,
  0xfdc3_00fdc3_000643_000645_000645, 0xfdc4_00fdc4_000639_00062c_000645, 0xfdc5_00fdc5_000635_000645_000645,
  0xfdc6_00fdc6_000633_00062e_00064a, 0xfdc7_00fdc7_000646_00062c_00064a, 0xfdf0_00fdf0_000635_000644_0006d2,
  0xfdf1_00fdf1_000642_000644_0006d2, 0xfdf2_00fdf2_000627_000644_000644_000647,
  0xfdf3_00fdf3_000627_000643_000628_000631, 0xfdf4_00fdf4_000645_00062d_000645_00062f,
  0xfdf5_00fdf5_000635_000644_000639_000645, 0xfdf6_00fdf6_000631_000633_000648_000644,
  0xfdf7_00fdf7_000639_000644_00064a_000647, 0xfdf8_00fdf8_000648_000633_000644_000645,
  0xfdf9_00fdf9_000635_000644_000649,
  0xfdfa_00fdfa_000635_000644_000649_000020_000627_000644_000644_000647_000020_000639_000644_00064a_000647_000020_000648_000633_000644_000645,
  0xfdfb_00fdfb_00062c_000644_000020_00062c_000644_000627_000644_000647, 0xfdfc_00fdfc_000631_0006cc_000627_000644,
  0xfe10_00fe10_00002c, 0xfe11_00fe11_003001, 0xfe13_00fe13_00003a, 0xfe14_00fe14_00003b, 0xfe15_00fe15_000021,
  0xfe16_00fe16_00003f, 0xfe17_00fe17_003016, 0xfe18_00fe18_003017, 0xfe31_00fe31_002014, 0xfe32_00fe32_002013,
  0xfe33_00fe34_00005f, 0xfe35_00fe35_000028, 0xfe36_00fe36_000029, 0xfe37_00fe37_00007b, 0xfe38_00fe38_00007d,
  0xfe39_00fe39_003014, 0xfe3a_00fe3a_003015, 0xfe3b_00fe3b_003010, 0xfe3c_00fe3c_003011, 0xfe3d_00fe3d_00300a,
  0xfe3e_00fe3e_00300b, 0xfe3f_00fe3f_003008, 0xfe40_00fe40_003009, 0xfe41_00fe41_00300c, 0xfe42_00fe42_00300d,
  0xfe43_00fe43_00300e, 0xfe44_00fe44_00300f, 0xfe47_00fe47_00005b, 0xfe48_00fe48_00005d,
  0xfe49_00fe4c_000020_000305, 0xfe4d_00fe4f_00005f, 0xfe50_00fe50_00002c, 0xfe51_00fe51_003001,
  0xfe54_00fe54_00003b, 0xfe55_00fe55_00003a, 0xfe56_00fe56_00003f, 0xfe57_00fe57_000021, 0xfe58_00fe58_002014,
  0xfe59_00fe59_000028, 0xfe5a_00fe5a_000029, 0xfe5b_00fe5b_00007b, 0xfe5c_00fe5c_00007d, 0xfe5d_00fe5d_003014,
  0xfe5e_00fe5e_003015, 0xfe5f_00fe5f_000023, 0xfe60_00fe60_000026, 0xfe61_00fe61_00002a, 0xfe62_00fe62_00002b,
  0xfe63_00fe63_00002d, 0xfe64_00fe64_00003c, 0xfe65_00fe65_00003e, 0xfe66_00fe66_00003d, 0xfe68_00fe68_00005c,
  0xfe69_00fe69_000024, 0xfe6a_00fe6a_000025, 0xfe6b_00fe6b_000040, 0xfe70_00fe70_000020_00064b,
  0xfe71_00fe71_000640_00064b, 0xfe72_00fe72_000020_00064c, 0xfe74_00fe74_000020_00064d, 0xfe76_00fe76_000020_00064e,
  0xfe77_00fe77_000640_00064e, 0xfe78_00fe78_000020_00064f, 0xfe79_00fe79_000640_00064f, 0xfe7a_00fe7a_000020_000650,
  0xfe7b_00fe7b_000640_000650, 0xfe7c_00fe7c_000020_000651, 0xfe7d_00fe7d_000640_000651, 0xfe7e_00fe7e_000020_000652,
  0xfe7f_00fe7f_000640_000652, 0xfe80_00fe80_000621, 0xfe81_00fe82_000622, 0xfe83_00fe84_000623,
  0xfe85_00fe86_000624, 0xfe87_00fe88_000625, 0xfe89_00fe8c_000626, 0xfe8d_00fe8e_000627, 0xfe8f_00fe92_000628,
  0xfe93_00fe94_000629, 0xfe95_00fe98_00062a, 0xfe99_00fe9c_00062b, 0xfe9d_00fea0_00062c, 0xfea1_00fea4_00062d,
  0xfea5_00fea8_00062e, 0xfea9_00feaa_00062f, 0xfeab_00feac_000630, 0xfead_00feae_000631, 0xfeaf_00feb0_000632,
  0xfeb1_00feb4_000633, 0xfeb5_00feb8_000634, 0xfeb9_00febc_000635, 0xfebd_00fec0_000636, 0xfec1_00fec4_000637,
  0xfec5_00fec8_000638, 0xfec9_00fecc_000639, 0xfecd_00fed0_00063a, 0xfed1_00fed4_000641, 0xfed5_00fed8_000642,
  0xfed9_00fedc_000643, 0xfedd_00fee0_000644, 0xfee1_00fee4_000645, 0xfee5_00fee8_000646, 0xfee9_00feec_000647,
  0xfeed_00feee_000648, 0xfeef_00fef0_000649, 0xfef1_00fef4_00064a, 0xfef5_00fef6_000644_000622,
  0xfef7_00fef8_000644_000623, 0xfef9_00fefa_000644_000625, 0xfefb_00fefc_000644_000627, 0xff01_00ff01_000021,
  0xff02_00ff02_000022, 0xff03_00ff03_000023, 0xff04_00ff04_000024, 0xff05_00ff05_000025, 0xff06_00ff06_000026,
  0xff07_00ff07_000027, 0xff08_00ff08_000028, 0xff09_00ff09_000029, 0xff0a_00ff0a_00002a, 0xff0b_00ff0b_00002b,
  0xff0c_00ff0c_00002c, 0xff0d_00ff0d_00002d, 0xff0e_00ff0e_00002e, 0xff0f_00ff0f_00002f, 0xff10_00ff10_000030,
  0xff11_00ff11_000031, 0xff12_00ff12_000032, 0xff13_00ff13_000033, 0xff14_00ff14_000034, 0xff15_00ff15_000035,
  0xff16_00ff16_000036, 0xff17_00ff17_000037, 0xff18_00ff18_000038, 0xff19_00ff19_000039, 0xff1a_00ff1a_00003a,
  0xff1b_00ff1b_00003b, 0xff1c_00ff1c_00003c, 0xff1d_00ff1d_00003d, 0xff1e_00ff1e_00003e, 0xff1f_00ff1f_00003f,
  0xff20_00ff20_000040, 0xff21_00ff21_000061, 0xff22_00ff22_000062, 0xff23_00ff23_000063, 0xff24_00ff24_000064,
  0xff25_00ff25_000065, 0xff26_00ff26_000066, 0xff27_00ff27_000067, 0xff28_00ff28_000068, 0xff29_00ff29_000069,
  0xff2a_00ff2a_00006a, 0xff2b_00ff2b_00006b, 0xff2c_00ff2c_00006c, 0xff2d_00ff2d_00006d, 0xff2e_00ff2e_00006e,
  0xff2f_00ff2f_00006f, 0xff30_00ff30_000070, 0xff31_00ff31_000071, 0xff32_00ff32_000072, 0xff33_00ff33_000073,
  0xff34_00ff34_000074, 0xff35_00ff35_000075, 0xff36_00ff36_000076, 0xff37_00ff37_000077, 0xff38_00ff38_000078,
  0xff39_00ff39_000079, 0xff3a_00ff3a_00007a, 0xff3b_00ff3b_00005b, 0xff3c_00ff3c_00005c, 0xff3d_00ff3d_00005d,
  0xff3e_00ff3e_00005e, 0xff3f_00ff3f_00005f, 0xff40_00ff40_000060, 0xff41_00ff41_000061, 0xff42_00ff42_000062,
  0xff43_00ff43_000063, 0xff44_00ff44_000064, 0xff45_00ff45_000065, 0xff46_00ff46_000066, 0xff47_00ff47_000067,
  0xff48_00ff48_000068, 0xff49_00ff49_000069, 0xff4a_00ff4a_00006a, 0xff4b_00ff4b_00006b, 0xff4c_00ff4c_00006c,
  0xff4d_00ff4d_00006d, 0xff4e_00ff4e_00006e, 0xff4f_00ff4f_00006f, 0xff50_00ff50_000070, 0xff51_00ff51_000071,
  0xff52_00ff52_000072, 0xff53_00ff53_000073, 0xff54_00ff54_000074, 0xff55_00ff55_000075, 0xff56_00ff56_000076,
  0xff57_00ff57_000077, 0xff58_00ff58_000078, 0xff59_00ff59_000079, 0xff5a_00ff5a_00007a, 0xff5b_00ff5b_00007b,
  0xff5c_00ff5c_00007c, 0xff5d_00ff5d_00007d, 0xff5e_00ff5e_00007e, 0xff5f_00ff5f_002985, 0xff60_00ff60_002986,
  0xff61_00ff61_00002e, 0xff62_00ff62_00300c, 0xff63_00ff63_00300d, 0xff64_00ff64_003001, 0xff65_00ff65_0030fb,
  0xff66_00ff66_0030f2, 0xff67_00ff67_0030a1, 0xff68_00ff68_0030a3, 0xff69_00ff69_0030a5, 0xff6a_00ff6a_0030a7,
  0xff6b_00ff6b_0030a9, 0xff6c_00ff6c_0030e3, 0xff6d_00ff6d_0030e5, 0xff6e_00ff6e_0030e7, 0xff6f_00ff6f_0030c3,
  0xff70_00ff70_0030fc, 0xff71_00ff71_0030a2, 0xff72_00ff72_0030a4, 0xff73_00ff73_0030a6, 0xff74_00ff74_0030a8,
  0xff75_00ff75_0030aa, 0xff76_00ff76_0030ab, 0xff77_00ff77_0030ad, 0xff78_00ff78_0030af, 0xff79_00ff79_0030b1,
  0xff7a_00ff7a_0030b3, 0xff7b_00ff7b_0030b5, 0xff7c_00ff7c_0030b7, 0xff7d_00ff7d_0030b9, 0xff7e_00ff7e_0030bb,
  0xff7f_00ff7f_0030bd, 0xff80_00ff80_0030bf, 0xff81_00ff81_0030c1, 0xff82_00ff82_0030c4, 0xff83_00ff83_0030c6,
  0xff84_00ff84_0030c8, 0xff85_00ff85_0030ca, 0xff86_00ff86_0030cb, 0xff87_00ff87_0030cc, 0xff88_00ff88_0030cd,
  0xff89_00ff89_0030ce, 0xff8a_00ff8a_0030cf, 0xff8b_00ff8b_0030d2, 0xff8c_00ff8c_0030d5, 0xff8d_00ff8d_0030d8,
  0xff8e_00ff8e_0030db, 0xff8f_00ff8f_0030de, 0xff90_00ff90_0030df, 0xff91_00ff91_0030e0, 0xff92_00ff92_0030e1,
  0xff93_00ff93_0030e2, 0xff94_00ff94_0030e4, 0xff95_00ff95_0030e6, 0xff96_00ff96_0030e8, 0xff97_00ff97_0030e9,
  0xff98_00ff98_0030ea, 0xff99_00ff99_0030eb, 0xff9a_00ff9a_0030ec, 0xff9b_00ff9b_0030ed, 0xff9c_00ff9c_0030ef,
  0xff9d_00ff9d_0030f3, 0xff9e_00ff9e_003099, 0xff9f_00ff9f_00309a, 0xffa1_00ffa1_001100, 0xffa2_00ffa2_001101,
  0xffa3_00ffa3_0011aa, 0xffa4_00ffa4_001102, 0xffa5_00ffa5_0011ac, 0xffa6_00ffa6_0011ad, 0xffa7_00ffa7_001103,
  0xffa8_00ffa8_001104, 0xffa9_00ffa9_001105, 0xffaa_00ffaa_0011b0, 0xffab_00ffab_0011b1, 0xffac_00ffac_0011b2,
  0xffad_00ffad_0011b3, 0xffae_00ffae_0011b4, 0xffaf_00ffaf_0011b5, 0xffb0_00ffb0_00111a, 0xffb1_00ffb1_001106,
  0xffb2_00ffb2_001107, 0xffb3_00ffb3_001108, 0xffb4_00ffb4_001121, 0xffb5_00ffb5_001109, 0xffb6_00ffb6_00110a,
  0xffb7_00ffb7_00110b, 0xffb8_00ffb8_00110c, 0xffb9_00ffb9_00110d, 0xffba_00ffba_00110e, 0xffbb_00ffbb_00110f,
  0xffbc_00ffbc_001110, 0xffbd_00ffbd_001111, 0xffbe_00ffbe_001112, 0xffc2_00ffc2_001161, 0xffc3_00ffc3_001162,
  0xffc4_00ffc4_001163, 0xffc5_00ffc5_001164, 0xffc6_00ffc6_001165, 0xffc7_00ffc7_001166, 0xffca_00ffca_001167,
  0xffcb_00ffcb_001168, 0xffcc_00ffcc_001169, 0xffcd_00ffcd_00116a, 0xffce_00ffce_00116b, 0xffcf_00ffcf_00116c,
  0xffd2_00ffd2_00116d, 0xffd3_00ffd3_00116e, 0xffd4_00ffd4_00116f, 0xffd5_00ffd5_001170, 0xffd6_00ffd6_001171,
  0xffd7_00ffd7_001172, 0xffda_00ffda_001173, 0xffdb_00ffdb_001174, 0xffdc_00ffdc_001175, 0xffe0_00ffe0_0000a2,
  0xffe1_00ffe1_0000a3, 0xffe2_00ffe2_0000ac, 0xffe3_00ffe3_000020_000304, 0xffe4_00ffe4_0000a6,
  0xffe5_00ffe5_0000a5, 0xffe6_00ffe6_0020a9, 0xffe8_00ffe8_002502, 0xffe9_00ffe9_002190, 0xffea_00ffea_002191,
  0xffeb_00ffeb_002192, 0xffec_00ffec_002193, 0xffed_00ffed_0025a0, 0xffee_00ffee_0025cb, 0x10400_010400_010428,
  0x10401_010401_010429, 0x10402_010402_01042a, 0x10403_010403_01042b, 0x10404_010404_01042c, 0x10405_010405_01042d,
  0x10406_010406_01042e, 0x10407_010407_01042f, 0x10408_010408_010430, 0x10409_010409_010431, 0x1040a_01040a_010432,
  0x1040b_01040b_010433, 0x1040c_01040c_010434, 0x1040d_01040d_010435, 0x1040e_01040e_010436, 0x1040f_01040f_010437,
  0x10410_010410_010438, 0x10411_010411_010439, 0x10412_010412_01043a, 0x10413_010413_01043b, 0x10414_010414_01043c,
  0x10415_010415_01043d, 0x10416_010416_01043e, 0x10417_010417_01043f, 0x10418_010418_010440, 0x10419_010419_010441,
  0x1041a_01041a_010442, 0x1041b_01041b_010443, 0x1041c_01041c_010444, 0x1041d_01041d_010445, 0x1041e_01041e_010446,
  0x1041f_01041f_010447, 0x10420_010420_010448, 0x10421_010421_010449, 0x10422_010422_01044a, 0x10423_010423_01044b,
  0x10424_010424_01044c, 0x10425_010425_01044d, 0x10426_010426_01044e, 0x10427_010427_01044f, 0x104b0_0104b0_0104d8,
  0x104b1_0104b1_0104d9, 0x104b2_0104b2_0104da, 0x104b3_0104b3_0104db, 0x104b4_0104b4_0104dc, 0x104b5_0104b5_0104dd,
  0x104b6_0104b6_0104de, 0x104b7_0104b7_0104df, 0x104b8_0104b8_0104e0, 0x104b9_0104b9_0104e1, 0x104ba_0104ba_0104e2,
  0x104bb_0104bb_0104e3, 0x104bc_0104bc_0104e4, 0x104bd_0104bd_0104e5, 0x104be_0104be_0104e6, 0x104bf_0104bf_0104e7,
  0x104c0_0104c0_0104e8, 0x104c1_0104c1_0104e9, 0x104c2_0104c2_0104ea, 0x104c3_0104c3_0104eb, 0x104c4_0104c4_0104ec,
  0x104c5_0104c5_0104ed, 0x104c6_0104c6_0104ee, 0x104c7_0104c7_0104ef, 0x104c8_0104c8_0104f0, 0x104c9_0104c9_0104f1,
  0x104ca_0104ca_0104f2, 0x104cb_0104cb_0104f3, 0x104cc_0104cc_0104f4, 0x104cd_0104cd_0104f5, 0x104ce_0104ce_0104f6,
  0x104cf_0104cf_0104f7, 0x104d0_0104d0_0104f8, 0x104d1_0104d1_0104f9, 0x104d2_0104d2_0104fa, 0x104d3_0104d3_0104fb,
  0x10570_010570_010597, 0x10571_010571_010598, 0x10572_010572_010599, 0x10573_010573_01059a, 0x10574_010574_01059b,
  0x10575_010575_01059c, 0x10576_010576_01059d, 0x10577_010577_01059e, 0x10578_010578_01059f, 0x10579_010579_0105a0,
  0x1057a_01057a_0105a1, 0x1057c_01057c_0105a3, 0x1057d_01057d_0105a4, 0x1057e_01057e_0105a5, 0x1057f_01057f_0105a6,
  0x10580_010580_0105a7, 0x10581_010581_0105a8, 0x10582_010582_0105a9, 0x10583_010583_0105aa, 0x10584_010584_0105ab,
  0x10585_010585_0105ac, 0x10586_010586_0105ad, 0x10587_010587_0105ae, 0x10588_010588_0105af, 0x10589_010589_0105b0,
  0x1058a_01058a_0105b1, 0x1058c_01058c_0105b3, 0x1058d_01058d_0105b4, 0x1058e_01058e_0105b5, 0x1058f_01058f_0105b6,
  0x10590_010590_0105b7, 0x10591_010591_0105b8, 0x10592_010592_0105b9, 0x10594_010594_0105bb, 0x10595_010595_0105bc,
  0x10781_010781_0002d0, 0x10782_010782_0002d1, 0x10783_010783_0000e6, 0x10784_010784_000299, 0x10785_010785_000253,
  0x10787_010787_0002a3, 0x10788_010788_00ab66, 0x10789_010789_0002a5, 0x1078a_01078a_0002a4, 0x1078b_01078b_000256,
  0x1078c_01078c_000257, 0x1078d_01078d_001d91, 0x1078e_01078e_000258, 0x1078f_01078f_00025e, 0x10790_010790_0002a9,
  0x10791_010791_000264, 0x10792_010792_000262, 0x10793_010793_000260, 0x10794_010794_00029b, 0x10795_010795_000127,
  0x10796_010796_00029c, 0x10797_010797_000267, 0x10798_010798_000284, 0x10799_010799_0002aa, 0x1079a_01079a_0002ab,
  0x1079b_01079b_00026c, 0x1079c_01079c_01df04, 0x1079d_01079d_00a78e, 0x1079e_01079e_00026e, 0x1079f_01079f_01df05,
  0x107a0_0107a0_00028e, 0x107a1_0107a1_01df06, 0x107a2_0107a2_0000f8, 0x107a3_0107a3_000276, 0x107a4_0107a4_000277,
  0x107a5_0107a5_000071, 0x107a6_0107a6_00027a, 0x107a7_0107a7_01df08, 0x107a8_0107a8_00027d, 0x107a9_0107a9_00027e,
  0x107aa_0107aa_000280, 0x107ab_0107ab_0002a8, 0x107ac_0107ac_0002a6, 0x107ad_0107ad_00ab67, 0x107ae_0107ae_0002a7,
  0x107af_0107af_000288, 0x107b0_0107b0_002c71, 0x107b2_0107b2_00028f, 0x107b3_0107b3_0002a1, 0x107b4_0107b4_0002a2,
  0x107b5_0107b5_000298, 0x107b6_0107b6_0001c0, 0x107b7_0107b7_0001c1, 0x107b8_0107b8_0001c2, 0x107b9_0107b9_01df0a,
  0x107ba_0107ba_01df1e, 0x107bb_0107bb_000287, 0x107bc_0107bc_000296, 0x107bd_0107bd_000297, 0x107be_0107be_00029e,
  0x10c80_010c80_010cc0, 0x10c81_010c81_010cc1, 0x10c82_010c82_010cc2, 0x10c83_010c83_010cc3, 0x10c84_010c84_010cc4,
  0x10c85_010c85_010cc5, 0x10c86_010c86_010cc6, 0x10c87_010c87_010cc7, 0x10c88_010c88_010cc8, 0x10c89_010c89_010cc9,
  0x10c8a_010c8a_010cca, 0x10c8b_010c8b_010ccb, 0x10c8c_010c8c_010ccc, 0x10c8d_010c8d_010ccd, 0x10c8e_010c8e_010cce,
  0x10c8f_010c8f_010ccf, 0x10c90_010c90_010cd0, 0x10c91_010c91_010cd1, 0x10c92_010c92_010cd2, 0x10c93_010c93_010cd3,
  0x10c94_010c94_010cd4, 0x10c95_010c95_010cd5, 0x10c96_010c96_010cd6, 0x10c97_010c97_010cd7, 0x10c98_010c98_010cd8,
  0x10c99_010c99_010cd9, 0x10c9a_010c9a_010cda, 0x10c9b_010c9b_010cdb, 0x10c9c_010c9c_010cdc, 0x10c9d_010c9d_010cdd,
  0x10c9e_010c9e_010cde, 0x10c9f_010c9f_010cdf, 0x10ca0_010ca0_010ce0, 0x10ca1_010ca1_010ce1, 0x10ca2_010ca2_010ce2,
  0x10ca3_010ca3_010ce3, 0x10ca4_010ca4_010ce4, 0x10ca5_010ca5_010ce5, 0x10ca6_010ca6_010ce6, 0x10ca7_010ca7_010ce7,
  0x10ca8_010ca8_010ce8, 0x10ca9_010ca9_010ce9, 0x10caa_010caa_010cea, 0x10cab_010cab_010ceb, 0x10cac_010cac_010cec,
  0x10cad_010cad_010ced, 0x10cae_010cae_010cee, 0x10caf_010caf_010cef, 0x10cb0_010cb0_010cf0, 0x10cb1_010cb1_010cf1,
  0x10cb2_010cb2_010cf2, 0x10d50_010d50_010d70, 0x10d51_010d51_010d71, 0x10d52_010d52_010d72, 0x10d53_010d53_010d73,
  0x10d54_010d54_010d74, 0x10d55_010d55_010d75, 0x10d56_010d56_010d76, 0x10d57_010d57_010d77, 0x10d58_010d58_010d78,
  0x10d59_010d59_010d79, 0x10d5a_010d5a_010d7a, 0x10d5b_010d5b_010d7b, 0x10d5c_010d5c_010d7c, 0x10d5d_010d5d_010d7d,
  0x10d5e_010d5e_010d7e, 0x10d5f_010d5f_010d7f, 0x10d60_010d60_010d80, 0x10d61_010d61_010d81, 0x10d62_010d62_010d82,
  0x10d63_010d63_010d83, 0x10d64_010d64_010d84, 0x10d65_010d65_010d85, 0x118a0_0118a0_0118c0, 0x118a1_0118a1_0118c1,
  0x118a2_0118a2_0118c2, 0x118a3_0118a3_0118c3, 0x118a4_0118a4_0118c4, 0x118a5_0118a5_0118c5, 0x118a6_0118a6_0118c6,
  0x118a7_0118a7_0118c7, 0x118a8_0118a8_0118c8, 0x118a9_0118a9_0118c9, 0x118aa_0118aa_0118ca, 0x118ab_0118ab_0118cb,
  0x118ac_0118ac_0118cc, 0x118ad_0118ad_0118cd, 0x118ae_0118ae_0118ce, 0x118af_0118af_0118cf, 0x118b0_0118b0_0118d0,
  0x118b1_0118b1_0118d1, 0x118b2_0118b2_0118d2, 0x118b3_0118b3_0118d3, 0x118b4_0118b4_0118d4, 0x118b5_0118b5_0118d5,
  0x118b6_0118b6_0118d6, 0x118b7_0118b7_0118d7, 0x118b8_0118b8_0118d8, 0x118b9_0118b9_0118d9, 0x118ba_0118ba_0118da,
  0x118bb_0118bb_0118db, 0x118bc_0118bc_0118dc, 0x118bd_0118bd_0118dd, 0x118be_0118be_0118de, 0x118bf_0118bf_0118df,
  0x16e40_016e40_016e60, 0x16e41_016e41_016e61, 0x16e42_016e42_016e62, 0x16e43_016e43_016e63, 0x16e44_016e44_016e64,
  0x16e45_016e45_016e65, 0x16e46_016e46_016e66, 0x16e47_016e47_016e67, 0x16e48_016e48_016e68, 0x16e49_016e49_016e69,
  0x16e4a_016e4a_016e6a, 0x16e4b_016e4b_016e6b, 0x16e4c_016e4c_016e6c, 0x16e4d_016e4d_016e6d, 0x16e4e_016e4e_016e6e,
  0x16e4f_016e4f_016e6f, 0x16e50_016e50_016e70, 0x16e51_016e51_016e71, 0x16e52_016e52_016e72, 0x16e53_016e53_016e73,
  0x16e54_016e54_016e74, 0x16e55_016e55_016e75, 0x16e56_016e56_016e76, 0x16e57_016e57_016e77, 0x16e58_016e58_016e78,
  0x16e59_016e59_016e79, 0x16e5a_016e5a_016e7a, 0x16e5b_016e5b_016e7b, 0x16e5c_016e5c_016e7c, 0x16e5d_016e5d_016e7d,
  0x16e5e_016e5e_016e7e, 0x16e5f_016e5f_016e7f, 0x16ea0_016ea0_016ebb, 0x16ea1_016ea1_016ebc, 0x16ea2_016ea2_016ebd,
  0x16ea3_016ea3_016ebe, 0x16ea4_016ea4_016ebf, 0x16ea5_016ea5_016ec0, 0x16ea6_016ea6_016ec1, 0x16ea7_016ea7_016ec2,
  0x16ea8_016ea8_016ec3, 0x16ea9_016ea9_016ec4, 0x16eaa_016eaa_016ec5, 0x16eab_016eab_016ec6, 0x16eac_016eac_016ec7,
  0x16ead_016ead_016ec8, 0x16eae_016eae_016ec9, 0x16eaf_016eaf_016eca, 0x16eb0_016eb0_016ecb, 0x16eb1_016eb1_016ecc,
  0x16eb2_016eb2_016ecd, 0x16eb3_016eb3_016ece, 0x16eb4_016eb4_016ecf, 0x16eb5_016eb5_016ed0, 0x16eb6_016eb6_016ed1,
  0x16eb7_016eb7_016ed2, 0x16eb8_016eb8_016ed3, 0x1ccd6_01ccd6_000061, 0x1ccd7_01ccd7_000062, 0x1ccd8_01ccd8_000063,
  0x1ccd9_01ccd9_000064, 0x1ccda_01ccda_000065, 0x1ccdb_01ccdb_000066, 0x1ccdc_01ccdc_000067, 0x1ccdd_01ccdd_000068,
  0x1ccde_01ccde_000069, 0x1ccdf_01ccdf_00006a, 0x1cce0_01cce0_00006b, 0x1cce1_01cce1_00006c, 0x1cce2_01cce2_00006d,
  0x1cce3_01cce3_00006e, 0x1cce4_01cce4_00006f, 0x1cce5_01cce5_000070, 0x1cce6_01cce6_000071, 0x1cce7_01cce7_000072,
  0x1cce8_01cce8_000073, 0x1cce9_01cce9_000074, 0x1ccea_01ccea_000075, 0x1cceb_01cceb_000076, 0x1ccec_01ccec_000077,
  0x1cced_01cced_000078, 0x1ccee_01ccee_000079, 0x1ccef_01ccef_00007a, 0x1ccf0_01ccf0_000030, 0x1ccf1_01ccf1_000031,
  0x1ccf2_01ccf2_000032, 0x1ccf3_01ccf3_000033, 0x1ccf4_01ccf4_000034, 0x1ccf5_01ccf5_000035, 0x1ccf6_01ccf6_000036,
  0x1ccf7_01ccf7_000037, 0x1ccf8_01ccf8_000038, 0x1ccf9_01ccf9_000039, 0x1d15e_01d15e_01d157_01d165,
  0x1d15f_01d15f_01d158_01d165, 0x1d160_01d160_01d158_01d165_01d16e, 0x1d161_01d161_01d158_01d165_01d16f,
  0x1d162_01d162_01d158_01d165_01d170, 0x1d163_01d163_01d158_01d165_01d171, 0x1d164_01d164_01d158_01d165_01d172,
  0x1d1bb_01d1bb_01d1b9_01d165, 0x1d1bc_01d1bc_01d1ba_01d165, 0x1d1bd_01d1bd_01d1b9_01d165_01d16e,
  0x1d1be_01d1be_01d1ba_01d165_01d16e, 0x1d1bf_01d1bf_01d1b9_01d165_01d16f, 0x1d1c0_01d1c0_01d1ba_01d165_01d16f,
  0x1d400_01d400_000061, 0x1d401_01d401_000062, 0x1d402_01d402_000063, 0x1d403_01d403_000064, 0x1d404_01d404_000065,
  0x1d405_01d405_000066, 0x1d406_01d406_000067, 0x1d407_01d407_000068, 0x1d408_01d408_000069, 0x1d409_01d409_00006a,
  0x1d40a_01d40a_00006b, 0x1d40b_01d40b_00006c, 0x1d40c_01d40c_00006d, 0x1d40d_01d40d_00006e, 0x1d40e_01d40e_00006f,
  0x1d40f_01d40f_000070, 0x1d410_01d410_000071, 0x1d411_01d411_000072, 0x1d412_01d412_000073, 0x1d413_01d413_000074,
  0x1d414_01d414_000075, 0x1d415_01d415_000076, 0x1d416_01d416_000077, 0x1d417_01d417_000078, 0x1d418_01d418_000079,
  0x1d419_01d419_00007a, 0x1d41a_01d41a_000061, 0x1d41b_01d41b_000062, 0x1d41c_01d41c_000063, 0x1d41d_01d41d_000064,
  0x1d41e_01d41e_000065, 0x1d41f_01d41f_000066, 0x1d420_01d420_000067, 0x1d421_01d421_000068, 0x1d422_01d422_000069,
  0x1d423_01d423_00006a, 0x1d424_01d424_00006b, 0x1d425_01d425_00006c, 0x1d426_01d426_00006d, 0x1d427_01d427_00006e,
  0x1d428_01d428_00006f, 0x1d429_01d429_000070, 0x1d42a_01d42a_000071, 0x1d42b_01d42b_000072, 0x1d42c_01d42c_000073,
  0x1d42d_01d42d_000074, 0x1d42e_01d42e_000075, 0x1d42f_01d42f_000076, 0x1d430_01d430_000077, 0x1d431_01d431_000078,
  0x1d432_01d432_000079, 0x1d433_01d433_00007a, 0x1d434_01d434_000061, 0x1d435_01d435_000062, 0x1d436_01d436_000063,
  0x1d437_01d437_000064, 0x1d438_01d438_000065, 0x1d439_01d439_000066, 0x1d43a_01d43a_000067, 0x1d43b_01d43b_000068,
  0x1d43c_01d43c_000069, 0x1d43d_01d43d_00006a, 0x1d43e_01d43e_00006b, 0x1d43f_01d43f_00006c, 0x1d440_01d440_00006d,
  0x1d441_01d441_00006e, 0x1d442_01d442_00006f, 0x1d443_01d443_000070, 0x1d444_01d444_000071, 0x1d445_01d445_000072,
  0x1d446_01d446_000073, 0x1d447_01d447_000074, 0x1d448_01d448_000075, 0x1d449_01d449_000076, 0x1d44a_01d44a_000077,
  0x1d44b_01d44b_000078, 0x1d44c_01d44c_000079, 0x1d44d_01d44d_00007a, 0x1d44e_01d44e_000061, 0x1d44f_01d44f_000062,
  0x1d450_01d450_000063, 0x1d451_01d451_000064, 0x1d452_01d452_000065, 0x1d453_01d453_000066, 0x1d454_01d454_000067,
  0x1d456_01d456_000069, 0x1d457_01d457_00006a, 0x1d458_01d458_00006b, 0x1d459_01d459_00006c, 0x1d45a_01d45a_00006d,
  0x1d45b_01d45b_00006e, 0x1d45c_01d45c_00006f, 0x1d45d_01d45d_000070, 0x1d45e_01d45e_000071, 0x1d45f_01d45f_000072,
  0x1d460_01d460_000073, 0x1d461_01d461_000074, 0x1d462_01d462_000075, 0x1d463_01d463_000076, 0x1d464_01d464_000077,
  0x1d465_01d465_000078, 0x1d466_01d466_000079, 0x1d467_01d467_00007a, 0x1d468_01d468_000061, 0x1d469_01d469_000062,
  0x1d46a_01d46a_000063, 0x1d46b_01d46b_000064, 0x1d46c_01d46c_000065, 0x1d46d_01d46d_000066, 0x1d46e_01d46e_000067,
  0x1d46f_01d46f_000068, 0x1d470_01d470_000069, 0x1d471_01d471_00006a, 0x1d472_01d472_00006b, 0x1d473_01d473_00006c,
  0x1d474_01d474_00006d, 0x1d475_01d475_00006e, 0x1d476_01d476_00006f, 0x1d477_01d477_000070, 0x1d478_01d478_000071,
  0x1d479_01d479_000072, 0x1d47a_01d47a_000073, 0x1d47b_01d47b_000074, 0x1d47c_01d47c_000075, 0x1d47d_01d47d_000076,
  0x1d47e_01d47e_000077, 0x1d47f_01d47f_000078, 0x1d480_01d480_000079, 0x1d481_01d481_00007a, 0x1d482_01d482_000061,
  0x1d483_01d483_000062, 0x1d484_01d484_000063, 0x1d485_01d485_000064, 0x1d486_01d486_000065, 0x1d487_01d487_000066,
  0x1d488_01d488_000067, 0x1d489_01d489_000068, 0x1d48a_01d48a_000069, 0x1d48b_01d48b_00006a, 0x1d48c_01d48c_00006b,
  0x1d48d_01d48d_00006c, 0x1d48e_01d48e_00006d, 0x1d48f_01d48f_00006e, 0x1d490_01d490_00006f, 0x1d491_01d491_000070,
  0x1d492_01d492_000071, 0x1d493_01d493_000072, 0x1d494_01d494_000073, 0x1d495_01d495_000074, 0x1d496_01d496_000075,
  0x1d497_01d497_000076, 0x1d498_01d498_000077, 0x1d499_01d499_000078, 0x1d49a_01d49a_000079, 0x1d49b_01d49b_00007a,
  0x1d49c_01d49c_000061, 0x1d49e_01d49e_000063, 0x1d49f_01d49f_000064, 0x1d4a2_01d4a2_000067, 0x1d4a5_01d4a5_00006a,
  0x1d4a6_01d4a6_00006b, 0x1d4a9_01d4a9_00006e, 0x1d4aa_01d4aa_00006f, 0x1d4ab_01d4ab_000070, 0x1d4ac_01d4ac_000071,
  0x1d4ae_01d4ae_000073, 0x1d4af_01d4af_000074, 0x1d4b0_01d4b0_000075, 0x1d4b1_01d4b1_000076, 0x1d4b2_01d4b2_000077,
  0x1d4b3_01d4b3_000078, 0x1d4b4_01d4b4_000079, 0x1d4b5_01d4b5_00007a, 0x1d4b6_01d4b6_000061, 0x1d4b7_01d4b7_000062,
  0x1d4b8_01d4b8_000063, 0x1d4b9_01d4b9_000064, 0x1d4bb_01d4bb_000066, 0x1d4bd_01d4bd_000068, 0x1d4be_01d4be_000069,
  0x1d4bf_01d4bf_00006a, 0x1d4c0_01d4c0_00006b, 0x1d4c1_01d4c1_00006c, 0x1d4c2_01d4c2_00006d, 0x1d4c3_01d4c3_00006e,
  0x1d4c5_01d4c5_000070, 0x1d4c6_01d4c6_000071, 0x1d4c7_01d4c7_000072, 0x1d4c8_01d4c8_000073, 0x1d4c9_01d4c9_000074,
  0x1d4ca_01d4ca_000075, 0x1d4cb_01d4cb_000076, 0x1d4cc_01d4cc_000077, 0x1d4cd_01d4cd_000078, 0x1d4ce_01d4ce_000079,
  0x1d4cf_01d4cf_00007a, 0x1d4d0_01d4d0_000061, 0x1d4d1_01d4d1_000062, 0x1d4d2_01d4d2_000063, 0x1d4d3_01d4d3_000064,
  0x1d4d4_01d4d4_000065, 0x1d4d5_01d4d5_000066, 0x1d4d6_01d4d6_000067, 0x1d4d7_01d4d7_000068, 0x1d4d8_01d4d8_000069,
  0x1d4d9_01d4d9_00006a, 0x1d4da_01d4da_00006b, 0x1d4db_01d4db_00006c, 0x1d4dc_01d4dc_00006d, 0x1d4dd_01d4dd_00006e,
  0x1d4de_01d4de_00006f, 0x1d4df_01d4df_000070, 0x1d4e0_01d4e0_000071, 0x1d4e1_01d4e1_000072, 0x1d4e2_01d4e2_000073,
  0x1d4e3_01d4e3_000074, 0x1d4e4_01d4e4_000075, 0x1d4e5_01d4e5_000076, 0x1d4e6_01d4e6_000077, 0x1d4e7_01d4e7_000078,
  0x1d4e8_01d4e8_000079, 0x1d4e9_01d4e9_00007a, 0x1d4ea_01d4ea_000061, 0x1d4eb_01d4eb_000062, 0x1d4ec_01d4ec_000063,
  0x1d4ed_01d4ed_000064, 0x1d4ee_01d4ee_000065, 0x1d4ef_01d4ef_000066, 0x1d4f0_01d4f0_000067, 0x1d4f1_01d4f1_000068,
  0x1d4f2_01d4f2_000069, 0x1d4f3_01d4f3_00006a, 0x1d4f4_01d4f4_00006b, 0x1d4f5_01d4f5_00006c, 0x1d4f6_01d4f6_00006d,
  0x1d4f7_01d4f7_00006e, 0x1d4f8_01d4f8_00006f, 0x1d4f9_01d4f9_000070, 0x1d4fa_01d4fa_000071, 0x1d4fb_01d4fb_000072,
  0x1d4fc_01d4fc_000073, 0x1d4fd_01d4fd_000074, 0x1d4fe_01d4fe_000075, 0x1d4ff_01d4ff_000076, 0x1d500_01d500_000077,
  0x1d501_01d501_000078, 0x1d502_01d502_000079, 0x1d503_01d503_00007a, 0x1d504_01d504_000061, 0x1d505_01d505_000062,
  0x1d507_01d507_000064, 0x1d508_01d508_000065, 0x1d509_01d509_000066, 0x1d50a_01d50a_000067, 0x1d50d_01d50d_00006a,
  0x1d50e_01d50e_00006b, 0x1d50f_01d50f_00006c, 0x1d510_01d510_00006d, 0x1d511_01d511_00006e, 0x1d512_01d512_00006f,
  0x1d513_01d513_000070, 0x1d514_01d514_000071, 0x1d516_01d516_000073, 0x1d517_01d517_000074, 0x1d518_01d518_000075,
  0x1d519_01d519_000076, 0x1d51a_01d51a_000077, 0x1d51b_01d51b_000078, 0x1d51c_01d51c_000079, 0x1d51e_01d51e_000061,
  0x1d51f_01d51f_000062, 0x1d520_01d520_000063, 0x1d521_01d521_000064, 0x1d522_01d522_000065, 0x1d523_01d523_000066,
  0x1d524_01d524_000067, 0x1d525_01d525_000068, 0x1d526_01d526_000069, 0x1d527_01d527_00006a, 0x1d528_01d528_00006b,
  0x1d529_01d529_00006c, 0x1d52a_01d52a_00006d, 0x1d52b_01d52b_00006e, 0x1d52c_01d52c_00006f, 0x1d52d_01d52d_000070,
  0x1d52e_01d52e_000071, 0x1d52f_01d52f_000072, 0x1d530_01d530_000073, 0x1d531_01d531_000074, 0x1d532_01d532_000075,
  0x1d533_01d533_000076, 0x1d534_01d534_000077, 0x1d535_01d535_000078, 0x1d536_01d536_000079, 0x1d537_01d537_00007a,
  0x1d538_01d538_000061, 0x1d539_01d539_000062, 0x1d53b_01d53b_000064, 0x1d53c_01d53c_000065, 0x1d53d_01d53d_000066,
  0x1d53e_01d53e_000067, 0x1d540_01d540_000069, 0x1d541_01d541_00006a, 0x1d542_01d542_00006b, 0x1d543_01d543_00006c,
  0x1d544_01d544_00006d, 0x1d546_01d546_00006f, 0x1d54a_01d54a_000073, 0x1d54b_01d54b_000074, 0x1d54c_01d54c_000075,
  0x1d54d_01d54d_000076, 0x1d54e_01d54e_000077, 0x1d54f_01d54f_000078, 0x1d550_01d550_000079, 0x1d552_01d552_000061,
  0x1d553_01d553_000062, 0x1d554_01d554_000063, 0x1d555_01d555_000064, 0x1d556_01d556_000065, 0x1d557_01d557_000066,
  0x1d558_01d558_000067, 0x1d559_01d559_000068, 0x1d55a_01d55a_000069, 0x1d55b_01d55b_00006a, 0x1d55c_01d55c_00006b,
  0x1d55d_01d55d_00006c, 0x1d55e_01d55e_00006d, 0x1d55f_01d55f_00006e, 0x1d560_01d560_00006f, 0x1d561_01d561_000070,
  0x1d562_01d562_000071, 0x1d563_01d563_000072, 0x1d564_01d564_000073, 0x1d565_01d565_000074, 0x1d566_01d566_000075,
  0x1d567_01d567_000076, 0x1d568_01d568_000077, 0x1d569_01d569_000078, 0x1d56a_01d56a_000079, 0x1d56b_01d56b_00007a,
  0x1d56c_01d56c_000061, 0x1d56d_01d56d_000062, 0x1d56e_01d56e_000063, 0x1d56f_01d56f_000064, 0x1d570_01d570_000065,
  0x1d571_01d571_000066, 0x1d572_01d572_000067, 0x1d573_01d573_000068, 0x1d574_01d574_000069, 0x1d575_01d575_00006a,
  0x1d576_01d576_00006b, 0x1d577_01d577_00006c, 0x1d578_01d578_00006d, 0x1d579_01d579_00006e, 0x1d57a_01d57a_00006f,
  0x1d57b_01d57b_000070, 0x1d57c_01d57c_000071, 0x1d57d_01d57d_000072, 0x1d57e_01d57e_000073, 0x1d57f_01d57f_000074,
  0x1d580_01d580_000075, 0x1d581_01d581_000076, 0x1d582_01d582_000077, 0x1d583_01d583_000078, 0x1d584_01d584_000079,
  0x1d585_01d585_00007a, 0x1d586_01d586_000061, 0x1d587_01d587_000062, 0x1d588_01d588_000063, 0x1d589_01d589_000064,
  0x1d58a_01d58a_000065, 0x1d58b_01d58b_000066, 0x1d58c_01d58c_000067, 0x1d58d_01d58d_000068, 0x1d58e_01d58e_000069,
  0x1d58f_01d58f_00006a, 0x1d590_01d590_00006b, 0x1d591_01d591_00006c, 0x1d592_01d592_00006d, 0x1d593_01d593_00006e,
  0x1d594_01d594_00006f, 0x1d595_01d595_000070, 0x1d596_01d596_000071, 0x1d597_01d597_000072, 0x1d598_01d598_000073,
  0x1d599_01d599_000074, 0x1d59a_01d59a_000075, 0x1d59b_01d59b_000076, 0x1d59c_01d59c_000077, 0x1d59d_01d59d_000078,
  0x1d59e_01d59e_000079, 0x1d59f_01d59f_00007a, 0x1d5a0_01d5a0_000061, 0x1d5a1_01d5a1_000062, 0x1d5a2_01d5a2_000063,
  0x1d5a3_01d5a3_000064, 0x1d5a4_01d5a4_000065, 0x1d5a5_01d5a5_000066, 0x1d5a6_01d5a6_000067, 0x1d5a7_01d5a7_000068,
  0x1d5a8_01d5a8_000069, 0x1d5a9_01d5a9_00006a, 0x1d5aa_01d5aa_00006b, 0x1d5ab_01d5ab_00006c, 0x1d5ac_01d5ac_00006d,
  0x1d5ad_01d5ad_00006e, 0x1d5ae_01d5ae_00006f, 0x1d5af_01d5af_000070, 0x1d5b0_01d5b0_000071, 0x1d5b1_01d5b1_000072,
  0x1d5b2_01d5b2_000073, 0x1d5b3_01d5b3_000074, 0x1d5b4_01d5b4_000075, 0x1d5b5_01d5b5_000076, 0x1d5b6_01d5b6_000077,
  0x1d5b7_01d5b7_000078, 0x1d5b8_01d5b8_000079, 0x1d5b9_01d5b9_00007a, 0x1d5ba_01d5ba_000061, 0x1d5bb_01d5bb_000062,
  0x1d5bc_01d5bc_000063, 0x1d5bd_01d5bd_000064, 0x1d5be_01d5be_000065, 0x1d5bf_01d5bf_000066, 0x1d5c0_01d5c0_000067,
  0x1d5c1_01d5c1_000068, 0x1d5c2_01d5c2_000069, 0x1d5c3_01d5c3_00006a, 0x1d5c4_01d5c4_00006b, 0x1d5c5_01d5c5_00006c,
  0x1d5c6_01d5c6_00006d, 0x1d5c7_01d5c7_00006e, 0x1d5c8_01d5c8_00006f, 0x1d5c9_01d5c9_000070, 0x1d5ca_01d5ca_000071,
  0x1d5cb_01d5cb_000072, 0x1d5cc_01d5cc_000073, 0x1d5cd_01d5cd_000074, 0x1d5ce_01d5ce_000075, 0x1d5cf_01d5cf_000076,
  0x1d5d0_01d5d0_000077, 0x1d5d1_01d5d1_000078, 0x1d5d2_01d5d2_000079, 0x1d5d3_01d5d3_00007a, 0x1d5d4_01d5d4_000061,
  0x1d5d5_01d5d5_000062, 0x1d5d6_01d5d6_000063, 0x1d5d7_01d5d7_000064, 0x1d5d8_01d5d8_000065, 0x1d5d9_01d5d9_000066,
  0x1d5da_01d5da_000067, 0x1d5db_01d5db_000068, 0x1d5dc_01d5dc_000069, 0x1d5dd_01d5dd_00006a, 0x1d5de_01d5de_00006b,
  0x1d5df_01d5df_00006c, 0x1d5e0_01d5e0_00006d, 0x1d5e1_01d5e1_00006e, 0x1d5e2_01d5e2_00006f, 0x1d5e3_01d5e3_000070,
  0x1d5e4_01d5e4_000071, 0x1d5e5_01d5e5_000072, 0x1d5e6_01d5e6_000073, 0x1d5e7_01d5e7_000074, 0x1d5e8_01d5e8_000075,
  0x1d5e9_01d5e9_000076, 0x1d5ea_01d5ea_000077, 0x1d5eb_01d5eb_000078, 0x1d5ec_01d5ec_000079, 0x1d5ed_01d5ed_00007a,
  0x1d5ee_01d5ee_000061, 0x1d5ef_01d5ef_000062, 0x1d5f0_01d5f0_000063, 0x1d5f1_01d5f1_000064, 0x1d5f2_01d5f2_000065,
  0x1d5f3_01d5f3_000066, 0x1d5f4_01d5f4_000067, 0x1d5f5_01d5f5_000068, 0x1d5f6_01d5f6_000069, 0x1d5f7_01d5f7_00006a,
  0x1d5f8_01d5f8_00006b, 0x1d5f9_01d5f9_00006c, 0x1d5fa_01d5fa_00006d, 0x1d5fb_01d5fb_00006e, 0x1d5fc_01d5fc_00006f,
  0x1d5fd_01d5fd_000070, 0x1d5fe_01d5fe_000071, 0x1d5ff_01d5ff_000072, 0x1d600_01d600_000073, 0x1d601_01d601_000074,
  0x1d602_01d602_000075, 0x1d603_01d603_000076, 0x1d604_01d604_000077, 0x1d605_01d605_000078, 0x1d606_01d606_000079,
  0x1d607_01d607_00007a, 0x1d608_01d608_000061, 0x1d609_01d609_000062, 0x1d60a_01d60a_000063, 0x1d60b_01d60b_000064,
  0x1d60c_01d60c_000065, 0x1d60d_01d60d_000066, 0x1d60e_01d60e_000067, 0x1d60f_01d60f_000068, 0x1d610_01d610_000069,
  0x1d611_01d611_00006a, 0x1d612_01d612_00006b, 0x1d613_01d613_00006c, 0x1d614_01d614_00006d, 0x1d615_01d615_00006e,
  0x1d616_01d616_00006f, 0x1d617_01d617_000070, 0x1d618_01d618_000071, 0x1d619_01d619_000072, 0x1d61a_01d61a_000073,
  0x1d61b_01d61b_000074, 0x1d61c_01d61c_000075, 0x1d61d_01d61d_000076, 0x1d61e_01d61e_000077, 0x1d61f_01d61f_000078,
  0x1d620_01d620_000079, 0x1d621_01d621_00007a, 0x1d622_01d622_000061, 0x1d623_01d623_000062, 0x1d624_01d624_000063,
  0x1d625_01d625_000064, 0x1d626_01d626_000065, 0x1d627_01d627_000066, 0x1d628_01d628_000067, 0x1d629_01d629_000068,
  0x1d62a_01d62a_000069, 0x1d62b_01d62b_00006a, 0x1d62c_01d62c_00006b, 0x1d62d_01d62d_00006c, 0x1d62e_01d62e_00006d,
  0x1d62f_01d62f_00006e, 0x1d630_01d630_00006f, 0x1d631_01d631_000070, 0x1d632_01d632_000071, 0x1d633_01d633_000072,
  0x1d634_01d634_000073, 0x1d635_01d635_000074, 0x1d636_01d636_000075, 0x1d637_01d637_000076, 0x1d638_01d638_000077,
  0x1d639_01d639_000078, 0x1d63a_01d63a_000079, 0x1d63b_01d63b_00007a, 0x1d63c_01d63c_000061, 0x1d63d_01d63d_000062,
  0x1d63e_01d63e_000063, 0x1d63f_01d63f_000064, 0x1d640_01d640_000065, 0x1d641_01d641_000066, 0x1d642_01d642_000067,
  0x1d643_01d643_000068, 0x1d644_01d644_000069, 0x1d645_01d645_00006a, 0x1d646_01d646_00006b, 0x1d647_01d647_00006c,
  0x1d648_01d648_00006d, 0x1d649_01d649_00006e, 0x1d64a_01d64a_00006f, 0x1d64b_01d64b_000070, 0x1d64c_01d64c_000071,
  0x1d64d_01d64d_000072, 0x1d64e_01d64e_000073, 0x1d64f_01d64f_000074, 0x1d650_01d650_000075, 0x1d651_01d651_000076,
  0x1d652_01d652_000077, 0x1d653_01d653_000078, 0x1d654_01d654_000079, 0x1d655_01d655_00007a, 0x1d656_01d656_000061,
  0x1d657_01d657_000062, 0x1d658_01d658_000063, 0x1d659_01d659_000064, 0x1d65a_01d65a_000065, 0x1d65b_01d65b_000066,
  0x1d65c_01d65c_000067, 0x1d65d_01d65d_000068, 0x1d65e_01d65e_000069, 0x1d65f_01d65f_00006a, 0x1d660_01d660_00006b,
  0x1d661_01d661_00006c, 0x1d662_01d662_00006d, 0x1d663_01d663_00006e, 0x1d664_01d664_00006f, 0x1d665_01d665_000070,
  0x1d666_01d666_000071, 0x1d667_01d667_000072, 0x1d668_01d668_000073, 0x1d669_01d669_000074, 0x1d66a_01d66a_000075,
  0x1d66b_01d66b_000076, 0x1d66c_01d66c_000077, 0x1d66d_01d66d_000078, 0x1d66e_01d66e_000079, 0x1d66f_01d66f_00007a,
  0x1d670_01d670_000061, 0x1d671_01d671_000062, 0x1d672_01d672_000063, 0x1d673_01d673_000064, 0x1d674_01d674_000065,
  0x1d675_01d675_000066, 0x1d676_01d676_000067, 0x1d677_01d677_000068, 0x1d678_01d678_000069, 0x1d679_01d679_00006a,
  0x1d67a_01d67a_00006b, 0x1d67b_01d67b_00006c, 0x1d67c_01d67c_00006d, 0x1d67d_01d67d_00006e, 0x1d67e_01d67e_00006f,
  0x1d67f_01d67f_000070, 0x1d680_01d680_000071, 0x1d681_01d681_000072, 0x1d682_01d682_000073, 0x1d683_01d683_000074,
  0x1d684_01d684_000075, 0x1d685_01d685_000076, 0x1d686_01d686_000077, 0x1d687_01d687_000078, 0x1d688_01d688_000079,
  0x1d689_01d689_00007a, 0x1d68a_01d68a_000061, 0x1d68b_01d68b_000062, 0x1d68c_01d68c_000063, 0x1d68d_01d68d_000064,
  0x1d68e_01d68e_000065, 0x1d68f_01d68f_000066, 0x1d690_01d690_000067, 0x1d691_01d691_000068, 0x1d692_01d692_000069,
  0x1d693_01d693_00006a, 0x1d694_01d694_00006b, 0x1d695_01d695_00006c, 0x1d696_01d696_00006d, 0x1d697_01d697_00006e,
  0x1d698_01d698_00006f, 0x1d699_01d699_000070, 0x1d69a_01d69a_000071, 0x1d69b_01d69b_000072, 0x1d69c_01d69c_000073,
  0x1d69d_01d69d_000074, 0x1d69e_01d69e_000075, 0x1d69f_01d69f_000076, 0x1d6a0_01d6a0_000077, 0x1d6a1_01d6a1_000078,
  0x1d6a2_01d6a2_000079, 0x1d6a3_01d6a3_00007a, 0x1d6a4_01d6a4_000131, 0x1d6a5_01d6a5_000237,
  0x1d6a6_01d6a6_000073_000073, 0x1d6a8_01d6a8_0003b1, 0x1d6a9_01d6a9_0003b2, 0x1d6aa_01d6aa_0003b3,
  0x1d6ab_01d6ab_0003b4, 0x1d6ac_01d6ac_0003b5, 0x1d6ad_01d6ad_0003b6, 0x1d6ae_01d6ae_0003b7, 0x1d6af_01d6af_0003b8,
  0x1d6b0_01d6b0_0003b9, 0x1d6b1_01d6b1_0003ba, 0x1d6b2_01d6b2_0003bb, 0x1d6b3_01d6b3_0003bc, 0x1d6b4_01d6b4_0003bd,
  0x1d6b5_01d6b5_0003be, 0x1d6b6_01d6b6_0003bf, 0x1d6b7_01d6b7_0003c0, 0x1d6b8_01d6b8_0003c1, 0x1d6b9_01d6b9_0003b8,
  0x1d6ba_01d6ba_0003c3, 0x1d6bb_01d6bb_0003c4, 0x1d6bc_01d6bc_0003c5, 0x1d6bd_01d6bd_0003c6, 0x1d6be_01d6be_0003c7,
  0x1d6bf_01d6bf_0003c8, 0x1d6c0_01d6c0_0003c9, 0x1d6c1_01d6c1_002207, 0x1d6c2_01d6c2_0003b1, 0x1d6c3_01d6c3_0003b2,
  0x1d6c4_01d6c4_0003b3, 0x1d6c5_01d6c5_0003b4, 0x1d6c6_01d6c6_0003b5, 0x1d6c7_01d6c7_0003b6, 0x1d6c8_01d6c8_0003b7,
  0x1d6c9_01d6c9_0003b8, 0x1d6ca_01d6ca_0003b9, 0x1d6cb_01d6cb_0003ba, 0x1d6cc_01d6cc_0003bb, 0x1d6cd_01d6cd_0003bc,
  0x1d6ce_01d6ce_0003bd, 0x1d6cf_01d6cf_0003be, 0x1d6d0_01d6d0_0003bf, 0x1d6d1_01d6d1_0003c0, 0x1d6d2_01d6d2_0003c1,
  0x1d6d3_01d6d4_0003c3, 0x1d6d5_01d6d5_0003c4, 0x1d6d6_01d6d6_0003c5, 0x1d6d7_01d6d7_0003c6, 0x1d6d8_01d6d8_0003c7,
  0x1d6d9_01d6d9_0003c8, 0x1d6da_01d6da_0003c9, 0x1d6db_01d6db_002202, 0x1d6dc_01d6dc_0003b5, 0x1d6dd_01d6dd_0003b8,
  0x1d6de_01d6de_0003ba, 0x1d6df_01d6df_0003c6, 0x1d6e0_01d6e0_0003c1, 0x1d6e1_01d6e1_0003c0, 0x1d6e2_01d6e2_0003b1,
  0x1d6e3_01d6e3_0003b2, 0x1d6e4_01d6e4_0003b3, 0x1d6e5_01d6e5_0003b4, 0x1d6e6_01d6e6_0003b5, 0x1d6e7_01d6e7_0003b6,
  0x1d6e8_01d6e8_0003b7, 0x1d6e9_01d6e9_0003b8, 0x1d6ea_01d6ea_0003b9, 0x1d6eb_01d6eb_0003ba, 0x1d6ec_01d6ec_0003bb,
  0x1d6ed_01d6ed_0003bc, 0x1d6ee_01d6ee_0003bd, 0x1d6ef_01d6ef_0003be, 0x1d6f0_01d6f0_0003bf, 0x1d6f1_01d6f1_0003c0,
  0x1d6f2_01d6f2_0003c1, 0x1d6f3_01d6f3_0003b8, 0x1d6f4_01d6f4_0003c3, 0x1d6f5_01d6f5_0003c4, 0x1d6f6_01d6f6_0003c5,
  0x1d6f7_01d6f7_0003c6, 0x1d6f8_01d6f8_0003c7, 0x1d6f9_01d6f9_0003c8, 0x1d6fa_01d6fa_0003c9, 0x1d6fb_01d6fb_002207,
  0x1d6fc_01d6fc_0003b1, 0x1d6fd_01d6fd_0003b2, 0x1d6fe_01d6fe_0003b3, 0x1d6ff_01d6ff_0003b4, 0x1d700_01d700_0003b5,
  0x1d701_01d701_0003b6, 0x1d702_01d702_0003b7, 0x1d703_01d703_0003b8, 0x1d704_01d704_0003b9, 0x1d705_01d705_0003ba,
  0x1d706_01d706_0003bb, 0x1d707_01d707_0003bc, 0x1d708_01d708_0003bd, 0x1d709_01d709_0003be, 0x1d70a_01d70a_0003bf,
  0x1d70b_01d70b_0003c0, 0x1d70c_01d70c_0003c1, 0x1d70d_01d70e_0003c3, 0x1d70f_01d70f_0003c4, 0x1d710_01d710_0003c5,
  0x1d711_01d711_0003c6, 0x1d712_01d712_0003c7, 0x1d713_01d713_0003c8, 0x1d714_01d714_0003c9, 0x1d715_01d715_002202,
  0x1d716_01d716_0003b5, 0x1d717_01d717_0003b8, 0x1d718_01d718_0003ba, 0x1d719_01d719_0003c6, 0x1d71a_01d71a_0003c1,
  0x1d71b_01d71b_0003c0, 0x1d71c_01d71c_0003b1, 0x1d71d_01d71d_0003b2, 0x1d71e_01d71e_0003b3, 0x1d71f_01d71f_0003b4,
  0x1d720_01d720_0003b5, 0x1d721_01d721_0003b6, 0x1d722_01d722_0003b7, 0x1d723_01d723_0003b8, 0x1d724_01d724_0003b9,
  0x1d725_01d725_0003ba, 0x1d726_01d726_0003bb, 0x1d727_01d727_0003bc, 0x1d728_01d728_0003bd, 0x1d729_01d729_0003be,
  0x1d72a_01d72a_0003bf, 0x1d72b_01d72b_0003c0, 0x1d72c_01d72c_0003c1, 0x1d72d_01d72d_0003b8, 0x1d72e_01d72e_0003c3,
  0x1d72f_01d72f_0003c4, 0x1d730_01d730_0003c5, 0x1d731_01d731_0003c6, 0x1d732_01d732_0003c7, 0x1d733_01d733_0003c8,
  0x1d734_01d734_0003c9, 0x1d735_01d735_002207, 0x1d736_01d736_0003b1, 0x1d737_01d737_0003b2, 0x1d738_01d738_0003b3,
  0x1d739_01d739_0003b4, 0x1d73a_01d73a_0003b5, 0x1d73b_01d73b_0003b6, 0x1d73c_01d73c_0003b7, 0x1d73d_01d73d_0003b8,
  0x1d73e_01d73e_0003b9, 0x1d73f_01d73f_0003ba, 0x1d740_01d740_0003bb, 0x1d741_01d741_0003bc, 0x1d742_01d742_0003bd,
  0x1d743_01d743_0003be, 0x1d744_01d744_0003bf, 0x1d745_01d745_0003c0, 0x1d746_01d746_0003c1, 0x1d747_01d748_0003c3,
  0x1d749_01d749_0003c4, 0x1d74a_01d74a_0003c5, 0x1d74b_01d74b_0003c6, 0x1d74c_01d74c_0003c7, 0x1d74d_01d74d_0003c8,
  0x1d74e_01d74e_0003c9, 0x1d74f_01d74f_002202, 0x1d750_01d750_0003b5, 0x1d751_01d751_0003b8, 0x1d752_01d752_0003ba,
  0x1d753_01d753_0003c6, 0x1d754_01d754_0003c1, 0x1d755_01d755_0003c0, 0x1d756_01d756_0003b1, 0x1d757_01d757_0003b2,
  0x1d758_01d758_0003b3, 0x1d759_01d759_0003b4, 0x1d75a_01d75a_0003b5, 0x1d75b_01d75b_0003b6, 0x1d75c_01d75c_0003b7,
  0x1d75d_01d75d_0003b8, 0x1d75e_01d75e_0003b9, 0x1d75f_01d75f_0003ba, 0x1d760_01d760_0003bb, 0x1d761_01d761_0003bc,
  0x1d762_01d762_0003bd, 0x1d763_01d763_0003be, 0x1d764_01d764_0003bf, 0x1d765_01d765_0003c0, 0x1d766_01d766_0003c1,
  0x1d767_01d767_0003b8, 0x1d768_01d768_0003c3, 0x1d769_01d769_0003c4, 0x1d76a_01d76a_0003c5, 0x1d76b_01d76b_0003c6,
  0x1d76c_01d76c_0003c7, 0x1d76d_01d76d_0003c8, 0x1d76e_01d76e_0003c9, 0x1d76f_01d76f_002207, 0x1d770_01d770_0003b1,
  0x1d771_01d771_0003b2, 0x1d772_01d772_0003b3, 0x1d773_01d773_0003b4, 0x1d774_01d774_0003b5, 0x1d775_01d775_0003b6,
  0x1d776_01d776_0003b7, 0x1d777_01d777_0003b8, 0x1d778_01d778_0003b9, 0x1d779_01d779_0003ba, 0x1d77a_01d77a_0003bb,
  0x1d77b_01d77b_0003bc, 0x1d77c_01d77c_0003bd, 0x1d77d_01d77d_0003be, 0x1d77e_01d77e_0003bf, 0x1d77f_01d77f_0003c0,
  0x1d780_01d780_0003c1, 0x1d781_01d782_0003c3, 0x1d783_01d783_0003c4, 0x1d784_01d784_0003c5, 0x1d785_01d785_0003c6,
  0x1d786_01d786_0003c7, 0x1d787_01d787_0003c8, 0x1d788_01d788_0003c9, 0x1d789_01d789_002202, 0x1d78a_01d78a_0003b5,
  0x1d78b_01d78b_0003b8, 0x1d78c_01d78c_0003ba, 0x1d78d_01d78d_0003c6, 0x1d78e_01d78e_0003c1, 0x1d78f_01d78f_0003c0,
  0x1d790_01d790_0003b1, 0x1d791_01d791_0003b2, 0x1d792_01d792_0003b3, 0x1d793_01d793_0003b4, 0x1d794_01d794_0003b5,
  0x1d795_01d795_0003b6, 0x1d796_01d796_0003b7, 0x1d797_01d797_0003b8, 0x1d798_01d798_0003b9, 0x1d799_01d799_0003ba,
  0x1d79a_01d79a_0003bb, 0x1d79b_01d79b_0003bc, 0x1d79c_01d79c_0003bd, 0x1d79d_01d79d_0003be, 0x1d79e_01d79e_0003bf,
  0x1d79f_01d79f_0003c0, 0x1d7a0_01d7a0_0003c1, 0x1d7a1_01d7a1_0003b8, 0x1d7a2_01d7a2_0003c3, 0x1d7a3_01d7a3_0003c4,
  0x1d7a4_01d7a4_0003c5, 0x1d7a5_01d7a5_0003c6, 0x1d7a6_01d7a6_0003c7, 0x1d7a7_01d7a7_0003c8, 0x1d7a8_01d7a8_0003c9,
  0x1d7a9_01d7a9_002207, 0x1d7aa_01d7aa_0003b1, 0x1d7ab_01d7ab_0003b2, 0x1d7ac_01d7ac_0003b3, 0x1d7ad_01d7ad_0003b4,
  0x1d7ae_01d7ae_0003b5, 0x1d7af_01d7af_0003b6, 0x1d7b0_01d7b0_0003b7, 0x1d7b1_01d7b1_0003b8, 0x1d7b2_01d7b2_0003b9,
  0x1d7b3_01d7b3_0003ba, 0x1d7b4_01d7b4_0003bb, 0x1d7b5_01d7b5_0003bc, 0x1d7b6_01d7b6_0003bd, 0x1d7b7_01d7b7_0003be,
  0x1d7b8_01d7b8_0003bf, 0x1d7b9_01d7b9_0003c0, 0x1d7ba_01d7ba_0003c1, 0x1d7bb_01d7bc_0003c3, 0x1d7bd_01d7bd_0003c4,
  0x1d7be_01d7be_0003c5, 0x1d7bf_01d7bf_0003c6, 0x1d7c0_01d7c0_0003c7, 0x1d7c1_01d7c1_0003c8, 0x1d7c2_01d7c2_0003c9,
  0x1d7c3_01d7c3_002202, 0x1d7c4_01d7c4_0003b5, 0x1d7c5_01d7c5_0003b8, 0x1d7c6_01d7c6_0003ba, 0x1d7c7_01d7c7_0003c6,
  0x1d7c8_01d7c8_0003c1, 0x1d7c9_01d7c9_0003c0, 0x1d7ca_01d7cb_0003dd, 0x1d7ce_01d7ce_000030, 0x1d7cf_01d7cf_000031,
  0x1d7d0_01d7d0_000032, 0x1d7d1_01d7d1_000033, 0x1d7d2_01d7d2_000034, 0x1d7d3_01d7d3_000035, 0x1d7d4_01d7d4_000036,
  0x1d7d5_01d7d5_000037, 0x1d7d6_01d7d6_000038, 0x1d7d7_01d7d7_000039, 0x1d7d8_01d7d8_000030, 0x1d7d9_01d7d9_000031,
  0x1d7da_01d7da_000032, 0x1d7db_01d7db_000033, 0x1d7dc_01d7dc_000034, 0x1d7dd_01d7dd_000035, 0x1d7de_01d7de_000036,
  0x1d7df_01d7df_000037, 0x1d7e0_01d7e0_000038, 0x1d7e1_01d7e1_000039, 0x1d7e2_01d7e2_000030, 0x1d7e3_01d7e3_000031,
  0x1d7e4_01d7e4_000032, 0x1d7e5_01d7e5_000033, 0x1d7e6_01d7e6_000034, 0x1d7e7_01d7e7_000035, 0x1d7e8_01d7e8_000036,
  0x1d7e9_01d7e9_000037, 0x1d7ea_01d7ea_000038, 0x1d7eb_01d7eb_000039, 0x1d7ec_01d7ec_000030, 0x1d7ed_01d7ed_000031,
  0x1d7ee_01d7ee_000032, 0x1d7ef_01d7ef_000033, 0x1d7f0_01d7f0_000034, 0x1d7f1_01d7f1_000035, 0x1d7f2_01d7f2_000036,
  0x1d7f3_01d7f3_000037, 0x1d7f4_01d7f4_000038, 0x1d7f5_01d7f5_000039, 0x1d7f6_01d7f6_000030, 0x1d7f7_01d7f7_000031,
  0x1d7f8_01d7f8_000032, 0x1d7f9_01d7f9_000033, 0x1d7fa_01d7fa_000034, 0x1d7fb_01d7fb_000035, 0x1d7fc_01d7fc_000036,
  0x1d7fd_01d7fd_000037, 0x1d7fe_01d7fe_000038, 0x1d7ff_01d7ff_000039, 0x1dfe0_01dfe0_01df2b, 0x1e030_01e030_000430,
  0x1e031_01e031_000431, 0x1e032_01e032_000432, 0x1e033_01e033_000433, 0x1e034_01e034_000434, 0x1e035_01e035_000435,
  0x1e036_01e036_000436, 0x1e037_01e037_000437, 0x1e038_01e038_000438, 0x1e039_01e039_00043a, 0x1e03a_01e03a_00043b,
  0x1e03b_01e03b_00043c, 0x1e03c_01e03c_00043e, 0x1e03d_01e03d_00043f, 0x1e03e_01e03e_000440, 0x1e03f_01e03f_000441,
  0x1e040_01e040_000442, 0x1e041_01e041_000443, 0x1e042_01e042_000444, 0x1e043_01e043_000445, 0x1e044_01e044_000446,
  0x1e045_01e045_000447, 0x1e046_01e046_000448, 0x1e047_01e047_00044b, 0x1e048_01e048_00044d, 0x1e049_01e049_00044e,
  0x1e04a_01e04a_00a689, 0x1e04b_01e04b_0004d9, 0x1e04c_01e04c_000456, 0x1e04d_01e04d_000458, 0x1e04e_01e04e_0004e9,
  0x1e04f_01e04f_0004af, 0x1e050_01e050_0004cf, 0x1e051_01e051_000430, 0x1e052_01e052_000431, 0x1e053_01e053_000432,
  0x1e054_01e054_000433, 0x1e055_01e055_000434, 0x1e056_01e056_000435, 0x1e057_01e057_000436, 0x1e058_01e058_000437,
  0x1e059_01e059_000438, 0x1e05a_01e05a_00043a, 0x1e05b_01e05b_00043b, 0x1e05c_01e05c_00043e, 0x1e05d_01e05d_00043f,
  0x1e05e_01e05e_000441, 0x1e05f_01e05f_000443, 0x1e060_01e060_000444, 0x1e061_01e061_000445, 0x1e062_01e062_000446,
  0x1e063_01e063_000447, 0x1e064_01e064_000448, 0x1e065_01e065_00044a, 0x1e066_01e066_00044b, 0x1e067_01e067_000491,
  0x1e068_01e068_000456, 0x1e069_01e069_000455, 0x1e06a_01e06a_00045f, 0x1e06b_01e06b_0004ab, 0x1e06c_01e06c_00a651,
  0x1e06d_01e06d_0004b1, 0x1e900_01e900_01e922, 0x1e901_01e901_01e923, 0x1e902_01e902_01e924, 0x1e903_01e903_01e925,
  0x1e904_01e904_01e926, 0x1e905_01e905_01e927, 0x1e906_01e906_01e928, 0x1e907_01e907_01e929, 0x1e908_01e908_01e92a,
  0x1e909_01e909_01e92b, 0x1e90a_01e90a_01e92c, 0x1e90b_01e90b_01e92d, 0x1e90c_01e90c_01e92e, 0x1e90d_01e90d_01e92f,
  0x1e90e_01e90e_01e930, 0x1e90f_01e90f_01e931, 0x1e910_01e910_01e932, 0x1e911_01e911_01e933, 0x1e912_01e912_01e934,
  0x1e913_01e913_01e935, 0x1e914_01e914_01e936, 0x1e915_01e915_01e937, 0x1e916_01e916_01e938, 0x1e917_01e917_01e939,
  0x1e918_01e918_01e93a, 0x1e919_01e919_01e93b, 0x1e91a_01e91a_01e93c, 0x1e91b_01e91b_01e93d, 0x1e91c_01e91c_01e93e,
  0x1e91d_01e91d_01e93f, 0x1e91e_01e91e_01e940, 0x1e91f_01e91f_01e941, 0x1e920_01e920_01e942, 0x1e921_01e921_01e943,
  0x1ee00_01ee00_000627, 0x1ee01_01ee01_000628, 0x1ee02_01ee02_00062c, 0x1ee03_01ee03_00062f, 0x1ee05_01ee05_000648,
  0x1ee06_01ee06_000632, 0x1ee07_01ee07_00062d, 0x1ee08_01ee08_000637, 0x1ee09_01ee09_00064a, 0x1ee0a_01ee0a_000643,
  0x1ee0b_01ee0b_000644, 0x1ee0c_01ee0c_000645, 0x1ee0d_01ee0d_000646, 0x1ee0e_01ee0e_000633, 0x1ee0f_01ee0f_000639,
  0x1ee10_01ee10_000641, 0x1ee11_01ee11_000635, 0x1ee12_01ee12_000642, 0x1ee13_01ee13_000631, 0x1ee14_01ee14_000634,
  0x1ee15_01ee15_00062a, 0x1ee16_01ee16_00062b, 0x1ee17_01ee17_00062e, 0x1ee18_01ee18_000630, 0x1ee19_01ee19_000636,
  0x1ee1a_01ee1a_000638, 0x1ee1b_01ee1b_00063a, 0x1ee1c_01ee1c_00066e, 0x1ee1d_01ee1d_0006ba, 0x1ee1e_01ee1e_0006a1,
  0x1ee1f_01ee1f_00066f, 0x1ee21_01ee21_000628, 0x1ee22_01ee22_00062c, 0x1ee24_01ee24_000647, 0x1ee27_01ee27_00062d,
  0x1ee29_01ee29_00064a, 0x1ee2a_01ee2a_000643, 0x1ee2b_01ee2b_000644, 0x1ee2c_01ee2c_000645, 0x1ee2d_01ee2d_000646,
  0x1ee2e_01ee2e_000633, 0x1ee2f_01ee2f_000639, 0x1ee30_01ee30_000641, 0x1ee31_01ee31_000635, 0x1ee32_01ee32_000642,
  0x1ee34_01ee34_000634, 0x1ee35_01ee35_00062a, 0x1ee36_01ee36_00062b, 0x1ee37_01ee37_00062e, 0x1ee39_01ee39_000636,
  0x1ee3b_01ee3b_00063a, 0x1ee42_01ee42_00062c, 0x1ee47_01ee47_00062d, 0x1ee49_01ee49_00064a, 0x1ee4b_01ee4b_000644,
  0x1ee4d_01ee4d_000646, 0x1ee4e_01ee4e_000633, 0x1ee4f_01ee4f_000639, 0x1ee51_01ee51_000635, 0x1ee52_01ee52_000642,
  0x1ee54_01ee54_000634, 0x1ee57_01ee57_00062e, 0x1ee59_01ee59_000636, 0x1ee5b_01ee5b_00063a, 0x1ee5d_01ee5d_0006ba,
  0x1ee5f_01ee5f_00066f, 0x1ee61_01ee61_000628, 0x1ee62_01ee62_00062c, 0x1ee64_01ee64_000647, 0x1ee67_01ee67_00062d,
  0x1ee68_01ee68_000637, 0x1ee69_01ee69_00064a, 0x1ee6a_01ee6a_000643, 0x1ee6c_01ee6c_000645, 0x1ee6d_01ee6d_000646,
  0x1ee6e_01ee6e_000633, 0x1ee6f_01ee6f_000639, 0x1ee70_01ee70_000641, 0x1ee71_01ee71_000635, 0x1ee72_01ee72_000642,
  0x1ee74_01ee74_000634, 0x1ee75_01ee75_00062a, 0x1ee76_01ee76_00062b, 0x1ee77_01ee77_00062e, 0x1ee79_01ee79_000636,
  0x1ee7a_01ee7a_000638, 0x1ee7b_01ee7b_00063a, 0x1ee7c_01ee7c_00066e, 0x1ee7e_01ee7e_0006a1, 0x1ee80_01ee80_000627,
  0x1ee81_01ee81_000628, 0x1ee82_01ee82_00062c, 0x1ee83_01ee83_00062f, 0x1ee84_01ee84_000647, 0x1ee85_01ee85_000648,
  0x1ee86_01ee86_000632, 0x1ee87_01ee87_00062d, 0x1ee88_01ee88_000637, 0x1ee89_01ee89_00064a, 0x1ee8b_01ee8b_000644,
  0x1ee8c_01ee8c_000645, 0x1ee8d_01ee8d_000646, 0x1ee8e_01ee8e_000633, 0x1ee8f_01ee8f_000639, 0x1ee90_01ee90_000641,
  0x1ee91_01ee91_000635, 0x1ee92_01ee92_000642, 0x1ee93_01ee93_000631, 0x1ee94_01ee94_000634, 0x1ee95_01ee95_00062a,
  0x1ee96_01ee96_00062b, 0x1ee97_01ee97_00062e, 0x1ee98_01ee98_000630, 0x1ee99_01ee99_000636, 0x1ee9a_01ee9a_000638,
  0x1ee9b_01ee9b_00063a, 0x1eea1_01eea1_000628, 0x1eea2_01eea2_00062c, 0x1eea3_01eea3_00062f, 0x1eea5_01eea5_000648,
  0x1eea6_01eea6_000632, 0x1eea7_01eea7_00062d, 0x1eea8_01eea8_000637, 0x1eea9_01eea9_00064a, 0x1eeab_01eeab_000644,
  0x1eeac_01eeac_000645, 0x1eead_01eead_000646, 0x1eeae_01eeae_000633, 0x1eeaf_01eeaf_000639, 0x1eeb0_01eeb0_000641,
  0x1eeb1_01eeb1_000635, 0x1eeb2_01eeb2_000642, 0x1eeb3_01eeb3_000631, 0x1eeb4_01eeb4_000634, 0x1eeb5_01eeb5_00062a,
  0x1eeb6_01eeb6_00062b, 0x1eeb7_01eeb7_00062e, 0x1eeb8_01eeb8_000630, 0x1eeb9_01eeb9_000636, 0x1eeba_01eeba_000638,
  0x1eebb_01eebb_00063a, 0x1f101_01f101_000030_00002c, 0x1f102_01f102_000031_00002c, 0x1f103_01f103_000032_00002c,
  0x1f104_01f104_000033_00002c, 0x1f105_01f105_000034_00002c, 0x1f106_01f106_000035_00002c,
  0x1f107_01f107_000036_00002c, 0x1f108_01f108_000037_00002c, 0x1f109_01f109_000038_00002c,
  0x1f10a_01f10a_000039_00002c, 0x1f110_01f110_000028_000061_000029, 0x1f111_01f111_000028_000062_000029,
  0x1f112_01f112_000028_000063_000029, 0x1f113_01f113_000028_000064_000029, 0x1f114_01f114_000028_000065_000029,
  0x1f115_01f115_000028_000066_000029, 0x1f116_01f116_000028_000067_000029, 0x1f117_01f117_000028_000068_000029,
  0x1f118_01f118_000028_000069_000029, 0x1f119_01f119_000028_00006a_000029, 0x1f11a_01f11a_000028_00006b_000029,
  0x1f11b_01f11b_000028_00006c_000029, 0x1f11c_01f11c_000028_00006d_000029, 0x1f11d_01f11d_000028_00006e_000029,
  0x1f11e_01f11e_000028_00006f_000029, 0x1f11f_01f11f_000028_000070_000029, 0x1f120_01f120_000028_000071_000029,
  0x1f121_01f121_000028_000072_000029, 0x1f122_01f122_000028_000073_000029, 0x1f123_01f123_000028_000074_000029,
  0x1f124_01f124_000028_000075_000029, 0x1f125_01f125_000028_000076_000029, 0x1f126_01f126_000028_000077_000029,
  0x1f127_01f127_000028_000078_000029, 0x1f128_01f128_000028_000079_000029, 0x1f129_01f129_000028_00007a_000029,
  0x1f12a_01f12a_003014_000073_003015, 0x1f12b_01f12b_000063, 0x1f12c_01f12c_000072, 0x1f12d_01f12d_000063_000064,
  0x1f12e_01f12e_000077_00007a, 0x1f130_01f130_000061, 0x1f131_01f131_000062, 0x1f132_01f132_000063,
  0x1f133_01f133_000064, 0x1f134_01f134_000065, 0x1f135_01f135_000066, 0x1f136_01f136_000067, 0x1f137_01f137_000068,
  0x1f138_01f138_000069, 0x1f139_01f139_00006a, 0x1f13a_01f13a_00006b, 0x1f13b_01f13b_00006c, 0x1f13c_01f13c_00006d,
  0x1f13d_01f13d_00006e, 0x1f13e_01f13e_00006f, 0x1f13f_01f13f_000070, 0x1f140_01f140_000071, 0x1f141_01f141_000072,
  0x1f142_01f142_000073, 0x1f143_01f143_000074, 0x1f144_01f144_000075, 0x1f145_01f145_000076, 0x1f146_01f146_000077,
  0x1f147_01f147_000078, 0x1f148_01f148_000079, 0x1f149_01f149_00007a, 0x1f14a_01f14a_000068_000076,
  0x1f14b_01f14b_00006d_000076, 0x1f14c_01f14c_000073_000064, 0x1f14d_01f14d_000073_000073,
  0x1f14e_01f14e_000070_000070_000076, 0x1f14f_01f14f_000077_000063, 0x1f16a_01f16a_00006d_000063,
  0x1f16b_01f16b_00006d_000064, 0x1f16c_01f16c_00006d_000072, 0x1f190_01f190_000064_00006a,
  0x1f200_01f200_00307b_00304b, 0x1f201_01f201_0030b3_0030b3, 0x1f202_01f202_0030b5, 0x1f210_01f210_00624b,
  0x1f211_01f211_005b57, 0x1f212_01f212_0053cc, 0x1f213_01f213_0030c7, 0x1f214_01f214_004e8c, 0x1f215_01f215_00591a,
  0x1f216_01f216_0089e3, 0x1f217_01f217_005929, 0x1f218_01f218_004ea4, 0x1f219_01f219_006620, 0x1f21a_01f21a_007121,
  0x1f21b_01f21b_006599, 0x1f21c_01f21c_00524d, 0x1f21d_01f21d_005f8c, 0x1f21e_01f21e_00518d, 0x1f21f_01f21f_0065b0,
  0x1f220_01f220_00521d, 0x1f221_01f221_007d42, 0x1f222_01f222_00751f, 0x1f223_01f223_008ca9, 0x1f224_01f224_0058f0,
  0x1f225_01f225_005439, 0x1f226_01f226_006f14, 0x1f227_01f227_006295, 0x1f228_01f228_006355, 0x1f229_01f229_004e00,
  0x1f22a_01f22a_004e09, 0x1f22b_01f22b_00904a, 0x1f22c_01f22c_005de6, 0x1f22d_01f22d_004e2d, 0x1f22e_01f22e_0053f3,
  0x1f22f_01f22f_006307, 0x1f230_01f230_008d70, 0x1f231_01f231_006253, 0x1f232_01f232_007981, 0x1f233_01f233_007a7a,
  0x1f234_01f234_005408, 0x1f235_01f235_006e80, 0x1f236_01f236_006709, 0x1f237_01f237_006708, 0x1f238_01f238_007533,
  0x1f239_01f239_005272, 0x1f23a_01f23a_0055b6, 0x1f23b_01f23b_00914d, 0x1f240_01f240_003014_00672c_003015,
  0x1f241_01f241_003014_004e09_003015, 0x1f242_01f242_003014_004e8c_003015, 0x1f243_01f243_003014_005b89_003015,
  0x1f244_01f244_003014_0070b9_003015, 0x1f245_01f245_003014_006253_003015, 0x1f246_01f246_003014_0076d7_003015,
  0x1f247_01f247_003014_0052dd_003015, 0x1f248_01f248_003014_006557_003015, 0x1f250_01f250_005f97,
  0x1f251_01f251_0053ef, 0x1fbf0_01fbf0_000030, 0x1fbf1_01fbf1_000031, 0x1fbf2_01fbf2_000032, 0x1fbf3_01fbf3_000033,
  0x1fbf4_01fbf4_000034, 0x1fbf5_01fbf5_000035, 0x1fbf6_01fbf6_000036, 0x1fbf7_01fbf7_000037, 0x1fbf8_01fbf8_000038,
  0x1fbf9_01fbf9_000039, 0x2f800_02f800_004e3d, 0x2f801_02f801_004e38, 0x2f802_02f802_004e41, 0x2f803_02f803_020122,
  0x2f804_02f804_004f60, 0x2f805_02f805_004fae, 0x2f806_02f806_004fbb, 0x2f807_02f807_005002, 0x2f808_02f808_00507a,
  0x2f809_02f809_005099, 0x2f80a_02f80a_0050e7, 0x2f80b_02f80b_0050cf, 0x2f80c_02f80c_00349e, 0x2f80d_02f80d_02063a,
  0x2f80e_02f80e_00514d, 0x2f80f_02f80f_005154, 0x2f810_02f810_005164, 0x2f811_02f811_005177, 0x2f812_02f812_02051c,
  0x2f813_02f813_0034b9, 0x2f814_02f814_005167, 0x2f815_02f815_00518d, 0x2f816_02f816_02054b, 0x2f817_02f817_005197,
  0x2f818_02f818_0051a4, 0x2f819_02f819_004ecc, 0x2f81a_02f81a_0051ac, 0x2f81b_02f81b_0051b5, 0x2f81c_02f81c_0291df,
  0x2f81d_02f81d_0051f5, 0x2f81e_02f81e_005203, 0x2f81f_02f81f_0034df, 0x2f820_02f820_00523b, 0x2f821_02f821_005246,
  0x2f822_02f822_005272, 0x2f823_02f823_005277, 0x2f824_02f824_003515, 0x2f825_02f825_0052c7, 0x2f826_02f826_0052c9,
  0x2f827_02f827_0052e4, 0x2f828_02f828_0052fa, 0x2f829_02f829_005305, 0x2f82a_02f82a_005306, 0x2f82b_02f82b_005317,
  0x2f82c_02f82c_005349, 0x2f82d_02f82d_005351, 0x2f82e_02f82e_00535a, 0x2f82f_02f82f_005373, 0x2f830_02f830_00537d,
  0x2f831_02f833_00537f, 0x2f834_02f834_020a2c, 0x2f835_02f835_007070, 0x2f836_02f836_0053ca, 0x2f837_02f837_0053df,
  0x2f838_02f838_020b63, 0x2f839_02f839_0053eb, 0x2f83a_02f83a_0053f1, 0x2f83b_02f83b_005406, 0x2f83c_02f83c_00549e,
  0x2f83d_02f83d_005438, 0x2f83e_02f83e_005448, 0x2f83f_02f83f_005468, 0x2f840_02f840_0054a2, 0x2f841_02f841_0054f6,
  0x2f842_02f842_005510, 0x2f843_02f843_005553, 0x2f844_02f844_005563, 0x2f845_02f846_005584, 0x2f847_02f847_005599,
  0x2f848_02f848_0055ab, 0x2f849_02f849_0055b3, 0x2f84a_02f84a_0055c2, 0x2f84b_02f84b_005716, 0x2f84c_02f84c_005606,
  0x2f84d_02f84d_005717, 0x2f84e_02f84e_005651, 0x2f84f_02f84f_005674, 0x2f850_02f850_005207, 0x2f851_02f851_0058ee,
  0x2f852_02f852_0057ce, 0x2f853_02f853_0057f4, 0x2f854_02f854_00580d, 0x2f855_02f855_00578b, 0x2f856_02f856_005832,
  0x2f857_02f857_005831, 0x2f858_02f858_0058ac, 0x2f859_02f859_0214e4, 0x2f85a_02f85a_0058f2, 0x2f85b_02f85b_0058f7,
  0x2f85c_02f85c_005906, 0x2f85d_02f85d_00591a, 0x2f85e_02f85e_005922, 0x2f85f_02f85f_005962, 0x2f860_02f860_0216a8,
  0x2f861_02f861_0216ea, 0x2f862_02f862_0059ec, 0x2f863_02f863_005a1b, 0x2f864_02f864_005a27, 0x2f865_02f865_0059d8,
  0x2f866_02f866_005a66, 0x2f867_02f867_0036ee, 0x2f868_02f868_0036fc, 0x2f869_02f869_005b08, 0x2f86a_02f86b_005b3e,
  0x2f86c_02f86c_0219c8, 0x2f86d_02f86d_005bc3, 0x2f86e_02f86e_005bd8, 0x2f86f_02f86f_005be7, 0x2f870_02f870_005bf3,
  0x2f871_02f871_021b18, 0x2f872_02f872_005bff, 0x2f873_02f873_005c06, 0x2f874_02f874_005f53, 0x2f875_02f875_005c22,
  0x2f876_02f876_003781, 0x2f877_02f877_005c60, 0x2f878_02f878_005c6e, 0x2f879_02f879_005cc0, 0x2f87a_02f87a_005c8d,
  0x2f87b_02f87b_021de4, 0x2f87c_02f87c_005d43, 0x2f87d_02f87d_021de6, 0x2f87e_02f87e_005d6e, 0x2f87f_02f87f_005d6b,
  0x2f880_02f880_005d7c, 0x2f881_02f881_005de1, 0x2f882_02f882_005de2, 0x2f883_02f883_00382f, 0x2f884_02f884_005dfd,
  0x2f885_02f885_005e28, 0x2f886_02f886_005e3d, 0x2f887_02f887_005e69, 0x2f888_02f888_003862, 0x2f889_02f889_022183,
  0x2f88a_02f88a_00387c, 0x2f88b_02f88b_005eb0, 0x2f88c_02f88c_005eb3, 0x2f88d_02f88d_005eb6, 0x2f88e_02f88e_005eca,
  0x2f88f_02f88f_02a392, 0x2f890_02f890_005efe, 0x2f891_02f892_022331, 0x2f893_02f893_008201, 0x2f894_02f895_005f22,
  0x2f896_02f896_0038c7, 0x2f897_02f897_0232b8, 0x2f898_02f898_0261da, 0x2f899_02f899_005f62, 0x2f89a_02f89a_005f6b,
  0x2f89b_02f89b_0038e3, 0x2f89c_02f89c_005f9a, 0x2f89d_02f89d_005fcd, 0x2f89e_02f89e_005fd7, 0x2f89f_02f89f_005ff9,
  0x2f8a0_02f8a0_006081, 0x2f8a1_02f8a1_00393a, 0x2f8a2_02f8a2_00391c, 0x2f8a3_02f8a3_006094, 0x2f8a4_02f8a4_0226d4,
  0x2f8a5_02f8a5_0060c7, 0x2f8a6_02f8a6_006148, 0x2f8a7_02f8a7_00614c, 0x2f8a8_02f8a8_00614e, 0x2f8a9_02f8a9_00614c,
  0x2f8aa_02f8aa_00617a, 0x2f8ab_02f8ab_00618e, 0x2f8ac_02f8ac_0061b2, 0x2f8ad_02f8ad_0061a4, 0x2f8ae_02f8ae_0061af,
  0x2f8af_02f8af_0061de, 0x2f8b0_02f8b0_0061f2, 0x2f8b1_02f8b1_0061f6, 0x2f8b2_02f8b2_006210, 0x2f8b3_02f8b3_00621b,
  0x2f8b4_02f8b4_00625d, 0x2f8b5_02f8b5_0062b1, 0x2f8b6_02f8b6_0062d4, 0x2f8b7_02f8b7_006350, 0x2f8b8_02f8b8_022b0c,
  0x2f8b9_02f8b9_00633d, 0x2f8ba_02f8ba_0062fc, 0x2f8bb_02f8bb_006368, 0x2f8bc_02f8bc_006383, 0x2f8bd_02f8bd_0063e4,
  0x2f8be_02f8be_022bf1, 0x2f8bf_02f8bf_006422, 0x2f8c0_02f8c0_0063c5, 0x2f8c1_02f8c1_0063a9, 0x2f8c2_02f8c2_003a2e,
  0x2f8c3_02f8c3_006469, 0x2f8c4_02f8c4_00647e, 0x2f8c5_02f8c5_00649d, 0x2f8c6_02f8c6_006477, 0x2f8c7_02f8c7_003a6c,
  0x2f8c8_02f8c8_00654f, 0x2f8c9_02f8c9_00656c, 0x2f8ca_02f8ca_02300a, 0x2f8cb_02f8cb_0065e3, 0x2f8cc_02f8cc_0066f8,
  0x2f8cd_02f8cd_006649, 0x2f8ce_02f8ce_003b19, 0x2f8cf_02f8cf_006691, 0x2f8d0_02f8d0_003b08, 0x2f8d1_02f8d1_003ae4,
  0x2f8d2_02f8d2_005192, 0x2f8d3_02f8d3_005195, 0x2f8d4_02f8d4_006700, 0x2f8d5_02f8d5_00669c, 0x2f8d6_02f8d6_0080ad,
  0x2f8d7_02f8d7_0043d9, 0x2f8d8_02f8d8_006717, 0x2f8d9_02f8d9_00671b, 0x2f8da_02f8da_006721, 0x2f8db_02f8db_00675e,
  0x2f8dc_02f8dc_006753, 0x2f8dd_02f8dd_0233c3, 0x2f8de_02f8de_003b49, 0x2f8df_02f8df_0067fa, 0x2f8e0_02f8e0_006785,
  0x2f8e1_02f8e1_006852, 0x2f8e2_02f8e2_006885, 0x2f8e3_02f8e3_02346d, 0x2f8e4_02f8e4_00688e, 0x2f8e5_02f8e5_00681f,
  0x2f8e6_02f8e6_006914, 0x2f8e7_02f8e7_003b9d, 0x2f8e8_02f8e8_006942, 0x2f8e9_02f8e9_0069a3, 0x2f8ea_02f8ea_0069ea,
  0x2f8eb_02f8eb_006aa8, 0x2f8ec_02f8ec_0236a3, 0x2f8ed_02f8ed_006adb, 0x2f8ee_02f8ee_003c18, 0x2f8ef_02f8ef_006b21,
  0x2f8f0_02f8f0_0238a7, 0x2f8f1_02f8f1_006b54, 0x2f8f2_02f8f2_003c4e, 0x2f8f3_02f8f3_006b72, 0x2f8f4_02f8f4_006b9f,
  0x2f8f5_02f8f5_006bba, 0x2f8f6_02f8f6_006bbb, 0x2f8f7_02f8f7_023a8d, 0x2f8f8_02f8f8_021d0b, 0x2f8f9_02f8f9_023afa,
  0x2f8fa_02f8fa_006c4e, 0x2f8fb_02f8fb_023cbc, 0x2f8fc_02f8fc_006cbf, 0x2f8fd_02f8fd_006ccd, 0x2f8fe_02f8fe_006c67,
  0x2f8ff_02f8ff_006d16, 0x2f900_02f900_006d3e, 0x2f901_02f901_006d77, 0x2f902_02f902_006d41, 0x2f903_02f903_006d69,
  0x2f904_02f904_006d78, 0x2f905_02f905_006d85, 0x2f906_02f906_023d1e, 0x2f907_02f907_006d34, 0x2f908_02f908_006e2f,
  0x2f909_02f909_006e6e, 0x2f90a_02f90a_003d33, 0x2f90b_02f90b_006ecb, 0x2f90c_02f90c_006ec7, 0x2f90d_02f90d_023ed1,
  0x2f90e_02f90e_006df9, 0x2f90f_02f90f_006f6e, 0x2f910_02f910_023f5e, 0x2f911_02f911_023f8e, 0x2f912_02f912_006fc6,
  0x2f913_02f913_007039, 0x2f914_02f914_00701e, 0x2f915_02f915_00701b, 0x2f916_02f916_003d96, 0x2f917_02f917_00704a,
  0x2f918_02f918_00707d, 0x2f919_02f919_007077, 0x2f91a_02f91a_0070ad, 0x2f91b_02f91b_020525, 0x2f91c_02f91c_007145,
  0x2f91d_02f91d_024263, 0x2f91e_02f91e_00719c, 0x2f91f_02f91f_0243ab, 0x2f920_02f920_007228, 0x2f921_02f921_007235,
  0x2f922_02f922_007250, 0x2f923_02f923_024608, 0x2f924_02f924_007280, 0x2f925_02f925_007295, 0x2f926_02f926_024735,
  0x2f927_02f927_024814, 0x2f928_02f928_00737a, 0x2f929_02f929_00738b, 0x2f92a_02f92a_003eac, 0x2f92b_02f92b_0073a5,
  0x2f92c_02f92d_003eb8, 0x2f92e_02f92e_007447, 0x2f92f_02f92f_00745c, 0x2f930_02f930_007471, 0x2f931_02f931_007485,
  0x2f932_02f932_0074ca, 0x2f933_02f933_003f1b, 0x2f934_02f934_007524, 0x2f935_02f935_024c36, 0x2f936_02f936_00753e,
  0x2f937_02f937_024c92, 0x2f938_02f938_007570, 0x2f939_02f939_02219f, 0x2f93a_02f93a_007610, 0x2f93b_02f93b_024fa1,
  0x2f93c_02f93c_024fb8, 0x2f93d_02f93d_025044, 0x2f93e_02f93e_003ffc, 0x2f93f_02f93f_004008, 0x2f940_02f940_0076f4,
  0x2f941_02f941_0250f3, 0x2f942_02f942_0250f2, 0x2f943_02f943_025119, 0x2f944_02f944_025133, 0x2f945_02f945_00771e,
  0x2f946_02f947_00771f, 0x2f948_02f948_00774a, 0x2f949_02f949_004039, 0x2f94a_02f94a_00778b, 0x2f94b_02f94b_004046,
  0x2f94c_02f94c_004096, 0x2f94d_02f94d_02541d, 0x2f94e_02f94e_00784e, 0x2f94f_02f94f_00788c, 0x2f950_02f950_0078cc,
  0x2f951_02f951_0040e3, 0x2f952_02f952_025626, 0x2f953_02f953_007956, 0x2f954_02f954_02569a, 0x2f955_02f955_0256c5,
  0x2f956_02f956_00798f, 0x2f957_02f957_0079eb, 0x2f958_02f958_00412f, 0x2f959_02f959_007a40, 0x2f95a_02f95a_007a4a,
  0x2f95b_02f95b_007a4f, 0x2f95c_02f95c_02597c, 0x2f95d_02f95e_025aa7, 0x2f95f_02f95f_007aee, 0x2f960_02f960_004202,
  0x2f961_02f961_025bab, 0x2f962_02f962_007bc6, 0x2f963_02f963_007bc9, 0x2f964_02f964_004227, 0x2f965_02f965_025c80,
  0x2f966_02f966_007cd2, 0x2f967_02f967_0042a0, 0x2f968_02f968_007ce8, 0x2f969_02f969_007ce3, 0x2f96a_02f96a_007d00,
  0x2f96b_02f96b_025f86, 0x2f96c_02f96c_007d63, 0x2f96d_02f96d_004301, 0x2f96e_02f96e_007dc7, 0x2f96f_02f96f_007e02,
  0x2f970_02f970_007e45, 0x2f971_02f971_004334, 0x2f972_02f972_026228, 0x2f973_02f973_026247, 0x2f974_02f974_004359,
  0x2f975_02f975_0262d9, 0x2f976_02f976_007f7a, 0x2f977_02f977_02633e, 0x2f978_02f978_007f95, 0x2f979_02f979_007ffa,
  0x2f97a_02f97a_008005, 0x2f97b_02f97b_0264da, 0x2f97c_02f97c_026523, 0x2f97d_02f97d_008060, 0x2f97e_02f97e_0265a8,
  0x2f97f_02f97f_008070, 0x2f980_02f980_02335f, 0x2f981_02f981_0043d5, 0x2f982_02f982_0080b2, 0x2f983_02f983_008103,
  0x2f984_02f984_00440b, 0x2f985_02f985_00813e, 0x2f986_02f986_005ab5, 0x2f987_02f987_0267a7, 0x2f988_02f988_0267b5,
  0x2f989_02f989_023393, 0x2f98a_02f98a_02339c, 0x2f98b_02f98b_008201, 0x2f98c_02f98c_008204, 0x2f98d_02f98d_008f9e,
  0x2f98e_02f98e_00446b, 0x2f98f_02f98f_008291, 0x2f990_02f990_00828b, 0x2f991_02f991_00829d, 0x2f992_02f992_0052b3,
  0x2f993_02f993_0082b1, 0x2f994_02f994_0082b3, 0x2f995_02f995_0082bd, 0x2f996_02f996_0082e6, 0x2f997_02f997_026b3c,
  0x2f998_02f998_0082e5, 0x2f999_02f999_00831d, 0x2f99a_02f99a_008363, 0x2f99b_02f99b_0083ad, 0x2f99c_02f99c_008323,
  0x2f99d_02f99d_0083bd, 0x2f99e_02f99e_0083e7, 0x2f99f_02f99f_008457, 0x2f9a0_02f9a0_008353, 0x2f9a1_02f9a1_0083ca,
  0x2f9a2_02f9a2_0083cc, 0x2f9a3_02f9a3_0083dc, 0x2f9a4_02f9a4_026c36, 0x2f9a5_02f9a5_026d6b, 0x2f9a6_02f9a6_026cd5,
  0x2f9a7_02f9a7_00452b, 0x2f9a8_02f9a8_0084f1, 0x2f9a9_02f9a9_0084f3, 0x2f9aa_02f9aa_008516, 0x2f9ab_02f9ab_0273ca,
  0x2f9ac_02f9ac_008564, 0x2f9ad_02f9ad_026f2c, 0x2f9ae_02f9ae_00455d, 0x2f9af_02f9af_004561, 0x2f9b0_02f9b0_026fb1,
  0x2f9b1_02f9b1_0270d2, 0x2f9b2_02f9b2_00456b, 0x2f9b3_02f9b3_008650, 0x2f9b4_02f9b4_00865c, 0x2f9b5_02f9b5_008667,
  0x2f9b6_02f9b6_008669, 0x2f9b7_02f9b7_0086a9, 0x2f9b8_02f9b8_008688, 0x2f9b9_02f9b9_00870e, 0x2f9ba_02f9ba_0086e2,
  0x2f9bb_02f9bb_008779, 0x2f9bc_02f9bc_008728, 0x2f9bd_02f9bd_00876b, 0x2f9be_02f9be_008786, 0x2f9bf_02f9bf_0045d7,
  0x2f9c0_02f9c0_0087e1, 0x2f9c1_02f9c1_008801, 0x2f9c2_02f9c2_0045f9, 0x2f9c3_02f9c3_008860, 0x2f9c4_02f9c4_008863,
  0x2f9c5_02f9c5_027667, 0x2f9c6_02f9c6_0088d7, 0x2f9c7_02f9c7_0088de, 0x2f9c8_02f9c8_004635, 0x2f9c9_02f9c9_0088fa,
  0x2f9ca_02f9ca_0034bb, 0x2f9cb_02f9cb_0278ae, 0x2f9cc_02f9cc_027966, 0x2f9cd_02f9cd_0046be, 0x2f9ce_02f9ce_0046c7,
  0x2f9cf_02f9cf_008aa0, 0x2f9d0_02f9d0_008aed, 0x2f9d1_02f9d1_008b8a, 0x2f9d2_02f9d2_008c55, 0x2f9d3_02f9d3_027ca8,
  0x2f9d4_02f9d4_008cab, 0x2f9d5_02f9d5_008cc1, 0x2f9d6_02f9d6_008d1b, 0x2f9d7_02f9d7_008d77, 0x2f9d8_02f9d8_027f2f,
  0x2f9d9_02f9d9_020804, 0x2f9da_02f9da_008dcb, 0x2f9db_02f9db_008dbc, 0x2f9dc_02f9dc_008df0, 0x2f9dd_02f9dd_0208de,
  0x2f9de_02f9de_008ed4, 0x2f9df_02f9df_008f38, 0x2f9e0_02f9e0_0285d2, 0x2f9e1_02f9e1_0285ed, 0x2f9e2_02f9e2_009094,
  0x2f9e3_02f9e3_0090f1, 0x2f9e4_02f9e4_009111, 0x2f9e5_02f9e5_02872e, 0x2f9e6_02f9e6_00911b, 0x2f9e7_02f9e7_009238,
  0x2f9e8_02f9e8_0092d7, 0x2f9e9_02f9e9_0092d8, 0x2f9ea_02f9ea_00927c, 0x2f9eb_02f9eb_0093f9, 0x2f9ec_02f9ec_009415,
  0x2f9ed_02f9ed_028bfa, 0x2f9ee_02f9ee_00958b, 0x2f9ef_02f9ef_004995, 0x2f9f0_02f9f0_0095b7, 0x2f9f1_02f9f1_028d77,
  0x2f9f2_02f9f2_0049e6, 0x2f9f3_02f9f3_0096c3, 0x2f9f4_02f9f4_005db2, 0x2f9f5_02f9f5_009723, 0x2f9f6_02f9f6_029145,
  0x2f9f7_02f9f7_02921a, 0x2f9f8_02f9f8_004a6e, 0x2f9f9_02f9f9_004a76, 0x2f9fa_02f9fa_0097e0, 0x2f9fb_02f9fb_02940a,
  0x2f9fc_02f9fc_004ab2, 0x2f9fd_02f9fd_029496, 0x2f9fe_02f9ff_00980b, 0x2fa00_02fa00_009829, 0x2fa01_02fa01_0295b6,
  0x2fa02_02fa02_0098e2, 0x2fa03_02fa03_004b33, 0x2fa04_02fa04_009929, 0x2fa05_02fa05_0099a7, 0x2fa06_02fa06_0099c2,
  0x2fa07_02fa07_0099fe, 0x2fa08_02fa08_004bce, 0x2fa09_02fa09_029b30, 0x2fa0a_02fa0a_009b12, 0x2fa0b_02fa0b_009c40,
  0x2fa0c_02fa0c_009cfd, 0x2fa0d_02fa0d_004cce, 0x2fa0e_02fa0e_004ced, 0x2fa0f_02fa0f_009d67, 0x2fa10_02fa10_02a0ce,
  0x2fa11_02fa11_004cf8, 0x2fa12_02fa12_02a105, 0x2fa13_02fa13_02a20e, 0x2fa14_02fa14_02a291, 0x2fa15_02fa15_009ebb,
  0x2fa16_02fa16_004d56, 0x2fa17_02fa17_009ef9, 0x2fa18_02fa18_009efe, 0x2fa19_02fa19_009f05, 0x2fa1a_02fa1a_009f0f,
  0x2fa1b_02fa1b_009f16, 0x2fa1c_02fa1c_009f3b, 0x2fa1d_02fa1d_02a600]

/-- Characters that are dropped. -/
def ignoredTable : CodeTable := .ofRows [
  0xad_0000ad, 0x34f_00034f, 0x115f_001160, 0x17b4_0017b5, 0x180b_00180f, 0x200b_00200b, 0x2060_002064,
  0x206a_00206f, 0x3164_003164, 0xfe00_00fe0f, 0xfeff_00feff, 0xffa0_00ffa0, 0x1bca0_01bca3, 0x1d173_01d17a,
  0xe0100_0e01ef]

set_option maxRecDepth 100000 in
/-- Characters that no name may hold. -/
def refusedTable : CodeTable := .ofRows [
  0x80_00009f, 0x378_000379, 0x380_000383, 0x38b_00038b, 0x38d_00038d, 0x3a2_0003a2, 0x530_000530, 0x557_000558,
  0x590_000590, 0x5ca_0005cf, 0x5eb_0005ee, 0x5f5_000605, 0x61c_00061c, 0x6dd_0006dd, 0x70e_00070f, 0x74b_00074c,
  0x7b2_0007bf, 0x7fb_0007fc, 0x82e_00082f, 0x83f_00083f, 0x85c_00085d, 0x85f_00085f, 0x86b_00086f, 0x890_000896,
  0x8e2_0008e2, 0x984_000984, 0x98d_00098e, 0x991_000992, 0x9a9_0009a9, 0x9b1_0009b1, 0x9b3_0009b5, 0x9ba_0009bb,
  0x9c5_0009c6, 0x9c9_0009ca, 0x9cf_0009d6, 0x9d8_0009db, 0x9de_0009de, 0x9e4_0009e5, 0x9ff_000a00, 0xa04_000a04,
  0xa0b_000a0e, 0xa11_000a12, 0xa29_000a29, 0xa31_000a31, 0xa34_000a34, 0xa37_000a37, 0xa3a_000a3b, 0xa3d_000a3d,
  0xa43_000a46, 0xa49_000a4a, 0xa4e_000a50, 0xa52_000a58, 0xa5d_000a5d, 0xa5f_000a65, 0xa77_000a80, 0xa84_000a84,
  0xa8e_000a8e, 0xa92_000a92, 0xaa9_000aa9, 0xab1_000ab1, 0xab4_000ab4, 0xaba_000abb, 0xac6_000ac6, 0xaca_000aca,
  0xace_000acf, 0xad1_000adf, 0xae4_000ae5, 0xaf2_000af8, 0xb00_000b00, 0xb04_000b04, 0xb0d_000b0e, 0xb11_000b12,
  0xb29_000b29, 0xb31_000b31, 0xb34_000b34, 0xb3a_000b3b, 0xb45_000b46, 0xb49_000b4a, 0xb4e_000b52, 0xb58_000b5b,
  0xb5e_000b5e, 0xb64_000b65, 0xb78_000b81, 0xb84_000b84, 0xb8b_000b8d, 0xb91_000b91, 0xb96_000b98, 0xb9b_000b9b,
  0xb9d_000b9d, 0xba0_000ba2, 0xba5_000ba7, 0xbab_000bad, 0xbba_000bbd, 0xbc3_000bc5, 0xbc9_000bc9, 0xbce_000bcf,
  0xbd1_000bd6, 0xbd8_000be5, 0xbfb_000bff, 0xc0d_000c0d, 0xc11_000c11, 0xc29_000c29, 0xc3a_000c3b, 0xc45_000c45,
  0xc49_000c49, 0xc4e_000c54, 0xc57_000c57, 0xc5b_000c5b, 0xc5e_000c5f, 0xc64_000c65, 0xc70_000c76, 0xc8d_000c8d,
  0xc91_000c91, 0xca9_000ca9, 0xcb4_000cb4, 0xcba_000cbb, 0xcc5_000cc5, 0xcc9_000cc9, 0xcce_000cd4, 0xcd7_000cdb,
  0xcdf_000cdf, 0xce4_000ce5, 0xcf0_000cf0, 0xcf4_000cff, 0xd0d_000d0d, 0xd11_000d11, 0xd45_000d45, 0xd49_000d49,
  0xd50_000d53, 0xd64_000d65, 0xd80_000d80, 0xd84_000d84, 0xd97_000d99, 0xdb2_000db2, 0xdbc_000dbc, 0xdbe_000dbf,
  0xdc7_000dc9, 0xdcb_000dce, 0xdd5_000dd5, 0xdd7_000dd7, 0xde0_000de5, 0xdf0_000df1, 0xdf5_000e00, 0xe3b_000e3e,
  0xe5c_000e80, 0xe83_000e83, 0xe85_000e85, 0xe8b_000e8b, 0xea4_000ea4, 0xea6_000ea6, 0xebe_000ebf, 0xec5_000ec5,
  0xec7_000ec7, 0xecf_000ecf, 0xeda_000edb, 0xee0_000eff, 0xf48_000f48, 0xf6d_000f70, 0xf98_000f98, 0xfbd_000fbd,
  0xfcd_000fcd, 0xfdb_000fff, 0x10c6_0010c6, 0x10c8_0010cc, 0x10ce_0010cf, 0x1249_001249, 0x124e_00124f,
  0x1257_001257, 0x1259_001259, 0x125e_00125f, 0x1289_001289, 0x128e_00128f, 0x12b1_0012b1, 0x12b6_0012b7,
  0x12bf_0012bf, 0x12c1_0012c1, 0x12c6_0012c7, 0x12d7_0012d7, 0x1311_001311, 0x1316_001317, 0x135b_00135c,
  0x137d_00137f, 0x139a_00139f, 0x13f6_0013f7, 0x13fe_0013ff, 0x1680_001680, 0x169d_00169f, 0x16f9_0016ff,
  0x1716_00171e, 0x1737_00173f, 0x1754_00175f, 0x176d_00176d, 0x1771_001771, 0x1774_00177f, 0x17de_0017df,
  0x17ea_0017ef, 0x17fa_0017ff, 0x181a_00181f, 0x1879_00187f, 0x18ab_0018af, 0x18f6_0018ff, 0x191f_00191f,
  0x192c_00192f, 0x193c_00193f, 0x1941_001943, 0x196e_00196f, 0x1975_00197f, 0x19ac_0019af, 0x19ca_0019cf,
  0x19db_0019dd, 0x1a1c_001a1d, 0x1a5f_001a5f, 0x1a7d_001a7e, 0x1a8a_001a8f, 0x1a9a_001a9f, 0x1aae_001aaf,
  0x1aed_001aff, 0x1b4d_001b4d, 0x1bf4_001bfb, 0x1c38_001c3a, 0x1c4a_001c4c, 0x1c8b_001c8f, 0x1cbb_001cbc,
  0x1cc8_001ccf, 0x1cfb_001cff, 0x1f16_001f17, 0x1f1e_001f1f, 0x1f46_001f47, 0x1f4e_001f4f, 0x1f58_001f58,
  0x1f5a_001f5a, 0x1f5c_001f5c, 0x1f5e_001f5e, 0x1f7e_001f7f, 0x1fb5_001fb5, 0x1fc5_001fc5, 0x1fd4_001fd5,
  0x1fdc_001fdc, 0x1ff0_001ff1, 0x1ff5_001ff5, 0x1fff_001fff, 0x200e_00200f, 0x2024_002026, 0x2028_00202e,
  0x2065_002069, 0x2072_002073, 0x20c5_0020cf, 0x20f1_0020ff, 0x218c_00218f, 0x242a_00243f, 0x244b_00245f,
  0x2488_00249b, 0x2b74_002b75, 0x2cf4_002cf8, 0x2d26_002d26, 0x2d28_002d2c, 0x2d2e_002d2f, 0x2d68_002d6e,
  0x2d71_002d7e, 0x2d97_002d9f, 0x2da7_002da7, 0x2daf_002daf, 0x2db7_002db7, 0x2dbf_002dbf, 0x2dc7_002dc7,
  0x2dcf_002dcf, 0x2dd7_002dd7, 0x2ddf_002ddf, 0x2e61_002e61, 0x2e64_002e7f, 0x2e9a_002e9a, 0x2ef4_002eff,
  0x2fd6_002fff, 0x3040_003040, 0x3097_003098, 0x3100_003104, 0x3130_003130, 0x318f_00318f, 0x31e6_0031ef,
  0x321f_00321f, 0x33c2_0033c2, 0x33c7_0033c7, 0x33d8_0033d8, 0xa48d_00a48f, 0xa4c7_00a4cf, 0xa62c_00a63f,
  0xa6f8_00a6ff, 0xa7de_00a7e1, 0xa7e3_00a7f0, 0xa82d_00a82f, 0xa83a_00a83f, 0xa878_00a87f, 0xa8c6_00a8cd,
  0xa8da_00a8df, 0xa954_00a95e, 0xa97d_00a97f, 0xa9ce_00a9ce, 0xa9da_00a9dd, 0xa9ff_00a9ff, 0xaa37_00aa3f,
  0xaa4e_00aa4f, 0xaa5a_00aa5b, 0xaac3_00aada, 0xaaf7_00ab00, 0xab07_00ab08, 0xab0f_00ab10, 0xab17_00ab1f,
  0xab27_00ab27, 0xab2f_00ab2f, 0xab6c_00ab6f, 0xabee_00abef, 0xabfa_00abff, 0xd7a4_00d7af, 0xd7c7_00d7ca,
  0xd7fc_00d7ff, 0xe000_00f8ff, 0xfa6e_00fa6f, 0xfada_00faff, 0xfb07_00fb12, 0xfb18_00fb1c, 0xfb37_00fb37,
  0xfb3d_00fb3d, 0xfb3f_00fb3f, 0xfb42_00fb42, 0xfb45_00fb45, 0xfdd0_00fdef, 0xfe12_00fe12, 0xfe19_00fe1f,
  0xfe30_00fe30, 0xfe52_00fe53, 0xfe67_00fe67, 0xfe6c_00fe6f, 0xfe75_00fe75, 0xfefd_00fefe, 0xff00_00ff00,
  0xffbf_00ffc1, 0xffc8_00ffc9, 0xffd0_00ffd1, 0xffd8_00ffd9, 0xffdd_00ffdf, 0xffe7_00ffe7, 0xffef_00ffff,
  0x1000c_01000c, 0x10027_010027, 0x1003b_01003b, 0x1003e_01003e, 0x1004e_01004f, 0x1005e_01007f, 0x100fb_0100ff,
  0x10103_010106, 0x10134_010136, 0x1018f_01018f, 0x1019d_01019f, 0x101a1_0101cf, 0x101fe_01027f, 0x1029d_01029f,
  0x102d1_0102df, 0x102fc_0102ff, 0x10324_01032c, 0x1034b_01034f, 0x1037b_01037f, 0x1039e_01039e, 0x103c4_0103c7,
  0x103d6_0103ff, 0x1049e_01049f, 0x104aa_0104af, 0x104d4_0104d7, 0x104fc_0104ff, 0x10528_01052f, 0x10564_01056e,
  0x1057b_01057b, 0x1058b_01058b, 0x10593_010593, 0x10596_010596, 0x105a2_0105a2, 0x105b2_0105b2, 0x105ba_0105ba,
  0x105bd_0105bf, 0x105f4_0105ff, 0x10737_01073f, 0x10756_01075f, 0x10768_01077f, 0x10786_010786, 0x107b1_0107b1,
  0x107bf_0107ff, 0x10806_010807, 0x10809_010809, 0x10836_010836, 0x10839_01083b, 0x1083d_01083e, 0x10856_010856,
  0x1089f_0108a6, 0x108b0_0108df, 0x108f3_0108f3, 0x108f6_0108fa, 0x1091c_01091e, 0x1093a_01093e, 0x1095a_01097f,
  0x109b8_0109bb, 0x109d0_0109d1, 0x10a04_010a04, 0x10a07_010a0b, 0x10a14_010a14, 0x10a18_010a18, 0x10a36_010a37,
  0x10a3b_010a3e, 0x10a49_010a4f, 0x10a59_010a5f, 0x10aa0_010abf, 0x10ae7_010aea, 0x10af7_010aff, 0x10b36_010b38,
  0x10b56_010b57, 0x10b73_010b77, 0x10b92_010b98, 0x10b9d_010ba8, 0x10bb0_010bff, 0x10c49_010c7f, 0x10cb3_010cbf,
  0x10cf3_010cf9, 0x10d28_010d2f, 0x10d3a_010d3f, 0x10d66_010d68, 0x10d86_010d8d, 0x10d90_010e5f, 0x10e7f_010e7f,
  0x10eaa_010eaa, 0x10eae_010eaf, 0x10eb2_010ec1, 0x10eeb_010ef9, 0x10f28_010f2f, 0x10f5a_010f6f, 0x10f8a_010faf,
  0x10fcc_010fdf, 0x10ff7_010fff, 0x1104e_011051, 0x11076_01107e, 0x110bd_0110bd, 0x110c3_0110cf, 0x110e9_0110ef,
  0x110fa_0110ff, 0x11135_011135, 0x11148_01114f, 0x11177_01117f, 0x111e0_0111e0, 0x111f5_0111ff, 0x11212_011212,
  0x11242_01127f, 0x11287_011287, 0x11289_011289, 0x1128e_01128e, 0x1129e_01129e, 0x112aa_0112af, 0x112eb_0112ef,
  0x112fa_0112ff, 0x11304_011304, 0x1130d_01130e, 0x11311_011312, 0x11329_011329, 0x11331_011331, 0x11334_011334,
  0x1133a_01133a, 0x11345_011346, 0x11349_01134a, 0x1134e_01134f, 0x11351_011356, 0x11358_01135c, 0x11364_011365,
  0x1136d_01136f, 0x11375_01137f, 0x1138a_01138a, 0x1138c_01138d, 0x1138f_01138f, 0x113b6_0113b6, 0x113c1_0113c1,
  0x113c3_0113c4, 0x113c6_0113c6, 0x113cb_0113cb, 0x113d6_0113d6, 0x113d9_0113e0, 0x113e3_0113ff, 0x1145c_01145c,
  0x11462_01147f, 0x114c8_0114cf, 0x114da_01157f, 0x115b6_0115b7, 0x115de_0115ff, 0x11645_01164f, 0x1165a_01165f,
  0x1166d_01167f, 0x116ba_0116bf, 0x116ca_0116cf, 0x116e4_0116ff, 0x1171b_01171c, 0x1172c_01172f, 0x11747_0117ff,
  0x1183c_01189f, 0x118f3_0118fe, 0x11907_011908, 0x1190a_01190b, 0x11914_011914, 0x11917_011917, 0x11936_011936,
  0x11939_01193a, 0x11947_01194f, 0x1195a_01199f, 0x119a8_0119a9, 0x119d8_0119d9, 0x119e5_0119ff, 0x11a48_011a4f,
  0x11aa3_011aaf, 0x11af9_011aff, 0x11b0b_011b5f, 0x11b68_011bbf, 0x11be2_011bef, 0x11bfa_011bff, 0x11c09_011c09,
  0x11c37_011c37, 0x11c46_011c4f, 0x11c6d_011c6f, 0x11c90_011c91, 0x11ca8_011ca8, 0x11cb7_011cff, 0x11d07_011d07,
  0x11d0a_011d0a, 0x11d37_011d39, 0x11d3b_011d3b, 0x11d3e_011d3e, 0x11d48_011d4f, 0x11d5a_011d5f, 0x11d66_011d66,
  0x11d69_011d69, 0x11d8f_011d8f, 0x11d92_011d92, 0x11d99_011d9f, 0x11daa_011daf, 0x11ddc_011ddf, 0x11dea_011edf,
  0x11ef9_011eff, 0x11f11_011f11, 0x11f3b_011f3d, 0x11f5b_011faf, 0x11fb1_011fbf, 0x11ff2_011ffe, 0x1239a_0123ff,
  0x1246f_01246f, 0x1247b_01247f, 0x12544_01254f, 0x12687_012f8f, 0x12ff3_012fff, 0x13430_01343f, 0x13456_01345f,
  0x143fb_0143ff, 0x14647_0160ff, 0x1613a_0167ff, 0x16a39_016a3f, 0x16a5f_016a5f, 0x16a6a_016a6d, 0x16abf_016abf,
  0x16aca_016acf, 0x16aee_016aef, 0x16af6_016aff, 0x16b46_016b4f, 0x16b5a_016b5a, 0x16b62_016b62, 0x16b78_016b7c,
  0x16b90_016d3f, 0x16d7a_016e3f, 0x16e9b_016e9f, 0x16eb9_016eba, 0x16ed4_016eff, 0x16f4b_016f4e, 0x16f88_016f8e,
  0x16fa0_016fdf, 0x16fe5_016fef, 0x16ff7_016fff, 0x18cd9_018cfe, 0x18d20_018d7f, 0x18df3_018dff, 0x19192_01919f,
  0x191d3_01afef, 0x1aff4_01aff4, 0x1affc_01affc, 0x1afff_01afff, 0x1b123_01b131, 0x1b133_01b14f, 0x1b153_01b154,
  0x1b156_01b163, 0x1b169_01b16f, 0x1b2fc_01bbff, 0x1bc6b_01bc6f, 0x1bc7d_01bc7f, 0x1bc89_01bc8f, 0x1bc9a_01bc9b,
  0x1bca4_01cbff, 0x1ccfd_01ccff, 0x1ceb4_01ceb9, 0x1cedf_01cedf, 0x1cef1_01ceff, 0x1cf2e_01cf2f, 0x1cf47_01cf4f,
  0x1cfc4_01cfff, 0x1d0f6_01d0ff, 0x1d128_01d128, 0x1d1f1_01d1ff, 0x1d246_01d24f, 0x1d251_01d2bf, 0x1d2d4_01d2df,
  0x1d2f4_01d2ff, 0x1d357_01d35f, 0x1d379_01d3ff, 0x1d455_01d455, 0x1d49d_01d49d, 0x1d4a0_01d4a1, 0x1d4a3_01d4a4,
  0x1d4a7_01d4a8, 0x1d4ad_01d4ad, 0x1d4ba_01d4ba, 0x1d4bc_01d4bc, 0x1d4c4_01d4c4, 0x1d506_01d506, 0x1d50b_01d50c,
  0x1d515_01d515, 0x1d51d_01d51d, 0x1d53a_01d53a, 0x1d53f_01d53f, 0x1d545_01d545, 0x1d547_01d549, 0x1d551_01d551,
  0x1d6a7_01d6a7, 0x1d7cc_01d7cd, 0x1da8c_01da9a, 0x1daa0_01daa0, 0x1dab0_01daff, 0x1db1d_01deff, 0x1df21_01df24,
  0x1df2c_01df8f, 0x1df94_01dfdf, 0x1dfe1_01dfff, 0x1e007_01e007, 0x1e019_01e01a, 0x1e022_01e022, 0x1e025_01e025,
  0x1e02b_01e02f, 0x1e06e_01e08e, 0x1e090_01e0ff, 0x1e12d_01e12f, 0x1e13e_01e13f, 0x1e14a_01e14d, 0x1e150_01e28f,
  0x1e2af_01e2bf, 0x1e2fa_01e2fe, 0x1e300_01e4cf, 0x1e4fa_01e5cf, 0x1e5fb_01e5fe, 0x1e600_01e6bf, 0x1e6df_01e6df,
  0x1e6f6_01e6fd, 0x1e700_01e7df, 0x1e7e7_01e7e7, 0x1e7ec_01e7ec, 0x1e7ef_01e7ef, 0x1e7ff_01e7ff, 0x1e8c5_01e8c6,
  0x1e8d7_01e8ff, 0x1e94c_01e94f, 0x1e95a_01e95d, 0x1e960_01ec70, 0x1ecb5_01ed00, 0x1ed3e_01edff, 0x1ee04_01ee04,
  0x1ee20_01ee20, 0x1ee23_01ee23, 0x1ee25_01ee26, 0x1ee28_01ee28, 0x1ee33_01ee33, 0x1ee38_01ee38, 0x1ee3a_01ee3a,
  0x1ee3c_01ee41, 0x1ee43_01ee46, 0x1ee48_01ee48, 0x1ee4a_01ee4a, 0x1ee4c_01ee4c, 0x1ee50_01ee50, 0x1ee53_01ee53,
  0x1ee55_01ee56, 0x1ee58_01ee58, 0x1ee5a_01ee5a, 0x1ee5c_01ee5c, 0x1ee5e_01ee5e, 0x1ee60_01ee60, 0x1ee63_01ee63,
  0x1ee65_01ee66, 0x1ee6b_01ee6b, 0x1ee73_01ee73, 0x1ee78_01ee78, 0x1ee7d_01ee7d, 0x1ee7f_01ee7f, 0x1ee8a_01ee8a,
  0x1ee9c_01eea0, 0x1eea4_01eea4, 0x1eeaa_01eeaa, 0x1eebc_01eeef, 0x1eef2_01efff, 0x1f02c_01f02f, 0x1f094_01f09f,
  0x1f0af_01f0b0, 0x1f0c0_01f0c0, 0x1f0d0_01f0d0, 0x1f0f6_01f100, 0x1f1af_01f1e5, 0x1f203_01f20f, 0x1f23c_01f23f,
  0x1f249_01f24f, 0x1f252_01f25f, 0x1f266_01f2ff, 0x1f6da_01f6db, 0x1f6ed_01f6ef, 0x1f6fd_01f6ff, 0x1f7db_01f7df,
  0x1f7ec_01f7ef, 0x1f7f1_01f7ff, 0x1f80c_01f80f, 0x1f848_01f84f, 0x1f85a_01f85f, 0x1f888_01f88f, 0x1f8ae_01f8af,
  0x1f8bc_01f8bf, 0x1f8c2_01f8cf, 0x1f8d9_01f8ff, 0x1fa58_01fa5f, 0x1fa6e_01fa6f, 0x1fa7d_01fa7f, 0x1fac7_01fac7,
  0x1fac9_01facb, 0x1fade_01fade, 0x1faec_01faee, 0x1fafb_01faff, 0x1fb93_01fb93, 0x1fbfb_01ffff, 0x2a6e0_02a6ff,
  0x2b81f_02b81f, 0x2ceae_02ceaf, 0x2ebe1_02ebef, 0x2ee5e_02f7ff, 0x2fa1e_02ffff, 0x3134b_03134f, 0x3347a_03cfff,
  0x3fc40_0e00ff, 0xe01f0_10ffff]

end IdentityClient.Idna
