import Gateway.Text.Rows

/-!
# Classes of characters in labels

Which characters are marks, in which direction characters are written, and how the
letters of cursive scripts join. All numbers are hexadecimal.
-/

namespace Gateway.Domain

/-- Ranges of combining marks. -/
def markText : String := "300,36f 483,489 591,5bd 5bf 5c1,5c2 5c4,5c5 5c7 610,61a 64b,65f 670 6d6,6dc 6df,6e4 6e7,6e8
6ea,6ed 711 730,74a 7a6,7b0 7eb,7f3 7fd 816,819 81b,823 825,827 829,82d 859,85b 898,89f 8ca,8e1
8e3,903 93a,93c 93e,94f 951,957 962,963 981,983 9bc 9be,9c4 9c7,9c8 9cb,9cd 9d7 9e2,9e3 9fe
a01,a03 a3c a3e,a42 a47,a48 a4b,a4d a51 a70,a71 a75 a81,a83 abc abe,ac5 ac7,ac9 acb,acd ae2,ae3
afa,aff b01,b03 b3c b3e,b44 b47,b48 b4b,b4d b55,b57 b62,b63 b82 bbe,bc2 bc6,bc8 bca,bcd bd7
c00,c04 c3c c3e,c44 c46,c48 c4a,c4d c55,c56 c62,c63 c81,c83 cbc cbe,cc4 cc6,cc8 cca,ccd cd5,cd6
ce2,ce3 cf3 d00,d03 d3b,d3c d3e,d44 d46,d48 d4a,d4d d57 d62,d63 d81,d83 dca dcf,dd4 dd6 dd8,ddf
df2,df3 e31 e34,e3a e47,e4e eb1 eb4,ebc ec8,ece f18,f19 f35 f37 f39 f3e,f3f f71,f84 f86,f87
f8d,f97 f99,fbc fc6 102b,103e 1056,1059 105e,1060 1062,1064 1067,106d 1071,1074 1082,108d 108f
109a,109d 135d,135f 1712,1715 1732,1734 1752,1753 1772,1773 17b4,17d3 17dd 180b,180d 180f
1885,1886 18a9 1920,192b 1930,193b 1a17,1a1b 1a55,1a5e 1a60,1a7c 1a7f 1ab0,1ace 1b00,1b04
1b34,1b44 1b6b,1b73 1b80,1b82 1ba1,1bad 1be6,1bf3 1c24,1c37 1cd0,1cd2 1cd4,1ce8 1ced 1cf4
1cf7,1cf9 1dc0,1dff 20d0,20f0 2cef,2cf1 2d7f 2de0,2dff 302a,302f 3099,309a a66f,a672 a674,a67d
a69e,a69f a6f0,a6f1 a802 a806 a80b a823,a827 a82c a880,a881 a8b4,a8c5 a8e0,a8f1 a8ff a926,a92d
a947,a953 a980,a983 a9b3,a9c0 a9e5 aa29,aa36 aa43 aa4c,aa4d aa7b,aa7d aab0 aab2,aab4 aab7,aab8
aabe,aabf aac1 aaeb,aaef aaf5,aaf6 abe3,abea abec,abed fb1e fe00,fe0f fe20,fe2f 101fd 102e0
10376,1037a 10a01,10a03 10a05,10a06 10a0c,10a0f 10a38,10a3a 10a3f 10ae5,10ae6 10d24,10d27
10eab,10eac 10efd,10eff 10f46,10f50 10f82,10f85 11000,11002 11038,11046 11070 11073,11074
1107f,11082 110b0,110ba 110c2 11100,11102 11127,11134 11145,11146 11173 11180,11182 111b3,111c0
111c9,111cc 111ce,111cf 1122c,11237 1123e 11241 112df,112ea 11300,11303 1133b,1133c 1133e,11344
11347,11348 1134b,1134d 11357 11362,11363 11366,1136c 11370,11374 11435,11446 1145e 114b0,114c3
115af,115b5 115b8,115c0 115dc,115dd 11630,11640 116ab,116b7 1171d,1172b 1182c,1183a 11930,11935
11937,11938 1193b,1193e 11940 11942,11943 119d1,119d7 119da,119e0 119e4 11a01,11a0a 11a33,11a39
11a3b,11a3e 11a47 11a51,11a5b 11a8a,11a99 11c2f,11c36 11c38,11c3f 11c92,11ca7 11ca9,11cb6
11d31,11d36 11d3a 11d3c,11d3d 11d3f,11d45 11d47 11d8a,11d8e 11d90,11d91 11d93,11d97 11ef3,11ef6
11f00,11f01 11f03 11f34,11f3a 11f3e,11f42 13440 13447,13455 16af0,16af4 16b30,16b36 16f4f
16f51,16f87 16f8f,16f92 16fe4 16ff0,16ff1 1bc9d,1bc9e 1cf00,1cf2d 1cf30,1cf46 1d165,1d169
1d16d,1d172 1d17b,1d182 1d185,1d18b 1d1aa,1d1ad 1d242,1d244 1da00,1da36 1da3b,1da6c 1da75 1da84
1da9b,1da9f 1daa1,1daaf 1e000,1e006 1e008,1e018 1e01b,1e021 1e023,1e024 1e026,1e02a 1e08f
1e130,1e136 1e2ae 1e2ec,1e2ef 1e4ec,1e4ef 1e8d0,1e8d6 1e944,1e94a e0100,e01ef"

/-- Rows `first, last, direction`, the directions numbered as in `Direction.ofCode`. -/
def directionText : String := "21,22,8 23,25,7 26,2a,8 2b,2b,5 2c,2c,6 2d,2d,5 2e,2f,6 30,39,4 3a,3a,6 3b,40,8 5b,60,8 7b,7e,8
a1,a1,8 a2,a5,7 a6,a7,8 a9,a9,8 ab,ac,8 ae,ae,8 b0,b1,7 b6,b7,8 bb,bb,8 bf,bf,8 d7,d7,8 f7,f7,8
2b9,2ba,8 2c2,2cf,8 2d2,2d7,8 2de,2df,8 2e5,2ed,8 2ef,2ff,8 300,33f,a 342,342,a 346,34e,a
350,36f,a 375,375,8 3f6,3f6,8 483,489,a 58a,58a,8 58d,58e,8 58f,58f,7 591,5bd,a 5be,5be,1
5bf,5bf,a 5c0,5c0,1 5c1,5c2,a 5c3,5c3,1 5c4,5c5,a 5c6,5c6,1 5c7,5c7,a 5d0,5ea,1 5ef,5f4,1
606,607,8 608,608,2 609,60a,7 60b,60b,2 60c,60c,6 60d,60d,2 60e,60f,8 610,61a,a 61b,61b,2
61d,64a,2 64b,65f,a 660,669,3 66a,66a,7 66b,66c,3 66d,66f,2 670,670,a 671,674,2 679,6d5,2
6d6,6dc,a 6de,6de,8 6df,6e4,a 6e5,6e6,2 6e7,6e8,a 6e9,6e9,8 6ea,6ed,a 6ee,6ef,2 6f0,6f9,4
6fa,70d,2 710,710,2 711,711,a 712,72f,2 730,74a,a 74d,7a5,2 7a6,7b0,a 7b1,7b1,2 7c0,7ea,1
7eb,7f3,a 7f4,7f5,1 7f6,7f9,8 7fa,7fa,1 7fd,7fd,a 7fe,815,1 816,819,a 81a,81a,1 81b,823,a
824,824,1 825,827,a 828,828,1 829,82d,a 830,83e,1 840,858,1 859,85b,a 85e,85e,1 860,86a,2
870,88f,2 897,897,2 898,89f,a 8a0,8c9,2 8ca,8e1,a 8e3,902,a 93a,93a,a 93c,93c,a 941,948,a
94d,94d,a 951,957,a 962,963,a 981,981,a 9bc,9bc,a 9c1,9c4,a 9cd,9cd,a 9e2,9e3,a 9f2,9f3,7
9fb,9fb,7 9fe,9fe,a a01,a02,a a3c,a3c,a a41,a42,a a47,a48,a a4b,a4d,a a51,a51,a a70,a71,a
a75,a75,a a81,a82,a abc,abc,a ac1,ac5,a ac7,ac8,a acd,acd,a ae2,ae3,a af1,af1,7 afa,aff,a
b01,b01,a b3c,b3c,a b3f,b3f,a b41,b44,a b4d,b4d,a b55,b56,a b62,b63,a b82,b82,a bc0,bc0,a
bcd,bcd,a bf3,bf8,8 bf9,bf9,7 bfa,bfa,8 c00,c00,a c04,c04,a c3c,c3c,a c3e,c40,a c46,c48,a
c4a,c4d,a c55,c56,a c62,c63,a c78,c7e,8 c81,c81,a cbc,cbc,a ccc,ccd,a ce2,ce3,a d00,d01,a
d3b,d3c,a d41,d44,a d4d,d4d,a d62,d63,a d81,d81,a dca,dca,a dd2,dd4,a dd6,dd6,a e31,e31,a
e34,e3a,a e3f,e3f,7 e47,e4e,a eb1,eb1,a eb4,ebc,a ec8,ece,a f18,f19,a f35,f35,a f37,f37,a
f39,f39,a f3a,f3d,8 f71,f72,a f74,f74,a f7a,f7e,a f80,f80,a f82,f84,a f86,f87,a f8d,f92,a
f94,f97,a f99,f9c,a f9e,fa1,a fa3,fa6,a fa8,fab,a fad,fb8,a fba,fbc,a fc6,fc6,a 102d,1030,a
1032,1037,a 1039,103a,a 103d,103e,a 1058,1059,a 105e,1060,a 1071,1074,a 1082,1082,a 1085,1086,a
108d,108d,a 109d,109d,a 135d,135f,a 1390,1399,8 1400,1400,8 169b,169c,8 1712,1714,a 1732,1733,a
1752,1753,a 1772,1773,a 17b7,17bd,a 17c6,17c6,a 17c9,17d3,a 17db,17db,7 17dd,17dd,a 17f0,17f9,8
1800,180a,8 1885,1886,a 18a9,18a9,a 1920,1922,a 1927,1928,a 1932,1932,a 1939,193b,a 1940,1940,8
1944,1945,8 19de,19ff,8 1a17,1a18,a 1a1b,1a1b,a 1a56,1a56,a 1a58,1a5e,a 1a60,1a60,a 1a62,1a62,a
1a65,1a6c,a 1a73,1a7c,a 1a7f,1a7f,a 1ab0,1ace,a 1b00,1b03,a 1b34,1b34,a 1b36,1b3a,a 1b3c,1b3c,a
1b42,1b42,a 1b6b,1b73,a 1b80,1b81,a 1ba2,1ba5,a 1ba8,1ba9,a 1bab,1bad,a 1be6,1be6,a 1be8,1be9,a
1bed,1bed,a 1bef,1bf1,a 1c2c,1c33,a 1c36,1c37,a 1cd0,1cd2,a 1cd4,1ce0,a 1ce2,1ce8,a 1ced,1ced,a
1cf4,1cf4,a 1cf8,1cf9,a 1dc0,1dff,a 200c,200d,9 2010,2010,8 2012,2016,8 2018,2023,8 2027,2027,8
2030,2032,7 2035,2035,8 2038,203b,8 203d,203d,8 203f,2043,8 2044,2044,6 2045,2046,8 204a,2056,8
2058,205e,8 20a0,20a7,7 20a9,20c1,7 20d0,20f0,a 2104,2104,8 2108,2108,8 2114,2114,8 2117,2118,8
211e,211f,8 2123,2123,8 2125,2125,8 2127,2127,8 2129,2129,8 212e,212e,7 213a,213a,8 2141,2144,8
214a,214d,8 218a,218b,8 2190,2211,8 2212,2212,5 2213,2213,7 2214,222b,8 222e,222e,8 2231,2328,8
232b,2335,8 237b,2394,8 2396,2426,8 2440,244a,8 24eb,26ab,8 26ad,27ff,8 2900,2a0b,8 2a0d,2a73,8
2a77,2adb,8 2add,2b73,8 2b76,2b95,8 2b97,2bff,8 2ce5,2cea,8 2cef,2cf1,a 2cf9,2cff,8 2d7f,2d7f,a
2de0,2dff,a 2e00,2e5d,8 2e80,2e99,8 2e9b,2e9e,8 2ea0,2ef2,8 3001,3001,8 3003,3004,8 3008,3020,8
302a,302d,a 3030,3030,8 3037,3037,8 303d,303f,8 3099,309a,a 30a0,30a0,8 30fb,30fb,8 31c0,31e3,8
4dc0,4dff,8 a490,a4c6,8 a60d,a60f,8 a66f,a672,a a673,a673,8 a674,a67d,a a67e,a67f,8 a69e,a69f,a
a6f0,a6f1,a a700,a721,8 a788,a788,8 a802,a802,a a806,a806,a a80b,a80b,a a825,a826,a a828,a82b,8
a82c,a82c,a a838,a839,7 a874,a877,8 a8c4,a8c5,a a8e0,a8f1,a a8ff,a8ff,a a926,a92d,a a947,a951,a
a980,a982,a a9b3,a9b3,a a9b6,a9b9,a a9bc,a9bd,a a9e5,a9e5,a aa29,aa2e,a aa31,aa32,a aa35,aa36,a
aa43,aa43,a aa4c,aa4c,a aa7c,aa7c,a aab0,aab0,a aab2,aab4,a aab7,aab8,a aabe,aabf,a aac1,aac1,a
aaec,aaed,a aaf6,aaf6,a ab6a,ab6b,8 abe5,abe5,a abe8,abe8,a abed,abed,a fb1e,fb1e,a fbb2,fbd2,2
fd3e,fd4f,8 fd90,fd91,2 fdc8,fdce,2 fdcf,fdcf,8 fdfd,fdff,8 fe20,fe2f,a fe45,fe46,8 fe73,fe73,2
10101,10101,8 10140,1018c,8 10190,1019c,8 101a0,101a0,8 101fd,101fd,a 102e0,102e0,a
102e1,102fb,4 10376,1037a,a 10800,10805,1 10808,10808,1 1080a,10835,1 10837,10838,1
1083c,1083c,1 1083f,10855,1 10857,1089e,1 108a7,108af,1 108e0,108f2,1 108f4,108f5,1
108fb,1091b,1 1091f,1091f,8 10920,10939,1 1093f,10959,1 10980,109b7,1 109bc,109cf,1
109d2,10a00,1 10a01,10a03,a 10a05,10a06,a 10a0c,10a0f,a 10a10,10a13,1 10a15,10a17,1
10a19,10a35,1 10a38,10a3a,a 10a3f,10a3f,a 10a40,10a48,1 10a50,10a58,1 10a60,10a9f,1
10ac0,10ae4,1 10ae5,10ae6,a 10aeb,10af6,1 10b00,10b35,1 10b39,10b3f,8 10b40,10b55,1
10b58,10b72,1 10b78,10b91,1 10b99,10b9c,1 10ba9,10baf,1 10c00,10c48,1 10cc0,10cf2,1
10cfa,10cff,1 10d00,10d23,2 10d24,10d27,a 10d30,10d39,3 10d40,10d4f,1 10d69,10d85,1
10d8e,10d8f,1 10e60,10e7e,3 10e80,10ea9,1 10eab,10eac,a 10ead,10ead,1 10eb0,10eb1,1
10ec2,10ec7,2 10ed0,10ed8,2 10efa,10efc,2 10efd,10eff,a 10f00,10f27,1 10f30,10f45,2
10f46,10f50,a 10f51,10f59,2 10f70,10f81,1 10f82,10f85,a 10f86,10f89,1 10fb0,10fcb,1
10fe0,10ff6,1 11001,11001,a 11038,11046,a 11052,11065,8 11070,11070,a 11073,11074,a
1107f,11081,a 110b3,110b6,a 110b9,110ba,a 110c2,110c2,a 11100,11102,a 11127,1112b,a
1112d,11134,a 11173,11173,a 11180,11181,a 111b6,111be,a 111c9,111cc,a 111cf,111cf,a
1122f,11231,a 11234,11234,a 11236,11237,a 1123e,1123e,a 11241,11241,a 112df,112df,a
112e3,112ea,a 11300,11301,a 1133b,1133c,a 11340,11340,a 11366,1136c,a 11370,11374,a
11438,1143f,a 11442,11444,a 11446,11446,a 1145e,1145e,a 114b3,114b8,a 114ba,114ba,a
114bf,114c0,a 114c2,114c3,a 115b2,115b5,a 115bc,115bd,a 115bf,115c0,a 115dc,115dd,a
11633,1163a,a 1163d,1163d,a 1163f,11640,a 11660,1166c,8 116ab,116ab,a 116ad,116ad,a
116b0,116b5,a 116b7,116b7,a 1171d,1171f,a 11722,11725,a 11727,1172b,a 1182f,11837,a
11839,1183a,a 1193b,1193c,a 1193e,1193e,a 11943,11943,a 119d4,119d7,a 119da,119db,a
119e0,119e0,a 11a01,11a06,a 11a09,11a0a,a 11a33,11a38,a 11a3b,11a3e,a 11a47,11a47,a
11a51,11a56,a 11a59,11a5b,a 11a8a,11a96,a 11a98,11a99,a 11c30,11c36,a 11c38,11c3d,a
11c92,11ca7,a 11caa,11cb0,a 11cb2,11cb3,a 11cb5,11cb6,a 11d31,11d36,a 11d3a,11d3a,a
11d3c,11d3d,a 11d3f,11d45,a 11d47,11d47,a 11d90,11d91,a 11d95,11d95,a 11d97,11d97,a
11ef3,11ef4,a 11f00,11f01,a 11f36,11f3a,a 11f40,11f40,a 11f42,11f42,a 11fd5,11fdc,8
11fdd,11fe0,7 11fe1,11ff1,8 13440,13440,a 13447,13455,a 16af0,16af4,a 16b30,16b36,a
16f4f,16f4f,a 16f8f,16f92,a 16fe2,16fe2,8 16fe4,16fe4,a 1bc9d,1bc9e,a 1cf00,1cf2d,a
1cf30,1cf46,a 1d167,1d169,a 1d17b,1d182,a 1d185,1d18b,a 1d1aa,1d1ad,a 1d1e9,1d1ea,8
1d200,1d241,8 1d242,1d244,a 1d245,1d245,8 1d300,1d356,8 1da00,1da36,a 1da3b,1da6c,a
1da75,1da75,a 1da84,1da84,a 1da9b,1da9f,a 1daa1,1daaf,a 1e000,1e006,a 1e008,1e018,a
1e01b,1e021,a 1e023,1e024,a 1e026,1e02a,a 1e08f,1e08f,a 1e130,1e136,a 1e2ae,1e2ae,a
1e2ec,1e2ef,a 1e2ff,1e2ff,7 1e4ec,1e4ef,a 1e800,1e8c4,1 1e8c7,1e8cf,1 1e8d0,1e8d6,a
1e922,1e943,1 1e944,1e94a,a 1e94b,1e94b,1 1e950,1e959,1 1e95e,1e95f,1 1ec71,1ecb4,2
1ed01,1ed3d,2 1eef0,1eef1,8 1f000,1f02b,8 1f030,1f093,8 1f0a0,1f0ae,8 1f0b1,1f0bf,8
1f0c1,1f0cf,8 1f0d1,1f0f5,8 1f10b,1f10f,8 1f12f,1f12f,8 1f16d,1f16f,8 1f1ad,1f1ad,8
1f260,1f265,8 1f300,1f6d7,8 1f6dc,1f6ec,8 1f6f0,1f6fc,8 1f700,1f776,8 1f77b,1f7d9,8
1f7e0,1f7eb,8 1f7f0,1f7f0,8 1f800,1f80b,8 1f810,1f847,8 1f850,1f859,8 1f860,1f887,8
1f890,1f8ad,8 1f8b0,1f8b1,8 1f900,1fa53,8 1fa60,1fa6d,8 1fa70,1fa7c,8 1fa80,1fa88,8
1fa90,1fabd,8 1fabf,1fac5,8 1face,1fadb,8 1fae0,1fae8,8 1faf0,1faf8,8 1fb00,1fb92,8
1fb94,1fbca,8"

/-- Rows `first, last, joining`, numbered as in `Joining.ofCode`. -/
def joiningText : String := "ad,ad,5 300,36f,5 483,489,5 591,5bd,5 5bf,5bf,5 5c1,5c2,5 5c4,5c5,5 5c7,5c7,5 610,61a,5
61c,61c,5 620,620,3 622,625,1 626,626,3 627,627,1 628,628,3 629,629,1 62a,62e,3 62f,632,1
633,63f,3 641,647,3 648,648,1 649,64a,3 64b,65f,5 66e,66f,3 670,670,5 671,673,1 675,677,1
678,687,3 688,699,1 69a,6bf,3 6c0,6c0,1 6c1,6c2,3 6c3,6cb,1 6cc,6cc,3 6cd,6cd,1 6ce,6ce,3
6cf,6cf,1 6d0,6d1,3 6d2,6d3,1 6d5,6d5,1 6d6,6dc,5 6df,6e4,5 6e7,6e8,5 6ea,6ed,5 6ee,6ef,1
6fa,6fc,3 6ff,6ff,3 70f,70f,5 710,710,1 711,711,5 712,714,3 715,719,1 71a,71d,3 71e,71e,1
71f,727,3 728,728,1 729,729,3 72a,72a,1 72b,72b,3 72c,72c,1 72d,72e,3 72f,72f,1 730,74a,5
74d,74d,1 74e,758,3 759,75b,1 75c,76a,3 76b,76c,1 76d,770,3 771,771,1 772,772,3 773,774,1
775,777,3 778,779,1 77a,77f,3 7a6,7b0,5 7ca,7ea,3 7eb,7f3,5 7fd,7fd,5 816,819,5 81b,823,5
825,827,5 829,82d,5 840,840,1 841,845,3 846,847,1 848,848,3 849,849,1 84a,853,3 854,854,1
855,855,3 856,858,1 859,85b,5 860,860,3 862,865,3 867,867,1 868,868,3 869,86a,1 870,882,1
886,886,3 889,88d,3 88e,88e,1 88f,88f,3 897,89f,5 8a0,8a9,3 8aa,8ac,1 8ae,8ae,1 8af,8b0,3
8b1,8b2,1 8b3,8b8,3 8b9,8b9,1 8ba,8c8,3 8ca,8e1,5 8e3,902,5 93a,93a,5 93c,93c,5 941,948,5
94d,94d,5 951,957,5 962,963,5 981,981,5 9bc,9bc,5 9c1,9c4,5 9cd,9cd,5 9e2,9e3,5 9fe,9fe,5
a01,a02,5 a3c,a3c,5 a41,a42,5 a47,a48,5 a4b,a4d,5 a51,a51,5 a70,a71,5 a75,a75,5 a81,a82,5
abc,abc,5 ac1,ac5,5 ac7,ac8,5 acd,acd,5 ae2,ae3,5 afa,aff,5 b01,b01,5 b3c,b3c,5 b3f,b3f,5
b41,b44,5 b4d,b4d,5 b55,b56,5 b62,b63,5 b82,b82,5 bc0,bc0,5 bcd,bcd,5 c00,c00,5 c04,c04,5
c3c,c3c,5 c3e,c40,5 c46,c48,5 c4a,c4d,5 c55,c56,5 c62,c63,5 c81,c81,5 cbc,cbc,5 cbf,cbf,5
cc6,cc6,5 ccc,ccd,5 ce2,ce3,5 d00,d01,5 d3b,d3c,5 d41,d44,5 d4d,d4d,5 d62,d63,5 d81,d81,5
dca,dca,5 dd2,dd4,5 dd6,dd6,5 e31,e31,5 e34,e3a,5 e47,e4e,5 eb1,eb1,5 eb4,ebc,5 ec8,ece,5
f18,f19,5 f35,f35,5 f37,f37,5 f39,f39,5 f71,f7e,5 f80,f84,5 f86,f87,5 f8d,f97,5 f99,fbc,5
fc6,fc6,5 102d,1030,5 1032,1037,5 1039,103a,5 103d,103e,5 1058,1059,5 105e,1060,5 1071,1074,5
1082,1082,5 1085,1086,5 108d,108d,5 109d,109d,5 135d,135f,5 1712,1714,5 1732,1733,5 1752,1753,5
1772,1773,5 17b4,17b5,5 17b7,17bd,5 17c6,17c6,5 17c9,17d3,5 17dd,17dd,5 1807,1807,3 180b,180d,5
180f,180f,5 1820,1878,3 1885,1886,5 1887,18a8,3 18a9,18a9,5 18aa,18aa,3 1920,1922,5 1927,1928,5
1932,1932,5 1939,193b,5 1a17,1a18,5 1a1b,1a1b,5 1a56,1a56,5 1a58,1a5e,5 1a60,1a60,5 1a62,1a62,5
1a65,1a6c,5 1a73,1a7c,5 1a7f,1a7f,5 1ab0,1add,5 1ae0,1aeb,5 1b00,1b03,5 1b34,1b34,5 1b36,1b3a,5
1b3c,1b3c,5 1b42,1b42,5 1b6b,1b73,5 1b80,1b81,5 1ba2,1ba5,5 1ba8,1ba9,5 1bab,1bad,5 1be6,1be6,5
1be8,1be9,5 1bed,1bed,5 1bef,1bf1,5 1c2c,1c33,5 1c36,1c37,5 1cd0,1cd2,5 1cd4,1ce0,5 1ce2,1ce8,5
1ced,1ced,5 1cf4,1cf4,5 1cf8,1cf9,5 1dc0,1dff,5 200b,200b,5 200e,200f,5 202a,202e,5 2060,2064,5
206a,206f,5 20d0,20f0,5 2cef,2cf1,5 2d7f,2d7f,5 2de0,2dff,5 302a,302d,5 3099,309a,5 a66f,a672,5
a674,a67d,5 a69e,a69f,5 a6f0,a6f1,5 a802,a802,5 a806,a806,5 a80b,a80b,5 a825,a826,5 a82c,a82c,5
a840,a871,3 a872,a872,2 a8c4,a8c5,5 a8e0,a8f1,5 a8ff,a8ff,5 a926,a92d,5 a947,a951,5 a980,a982,5
a9b3,a9b3,5 a9b6,a9b9,5 a9bc,a9bd,5 a9e5,a9e5,5 aa29,aa2e,5 aa31,aa32,5 aa35,aa36,5 aa43,aa43,5
aa4c,aa4c,5 aa7c,aa7c,5 aab0,aab0,5 aab2,aab4,5 aab7,aab8,5 aabe,aabf,5 aac1,aac1,5 aaec,aaed,5
aaf6,aaf6,5 abe5,abe5,5 abe8,abe8,5 abed,abed,5 fb1e,fb1e,5 fe00,fe0f,5 fe20,fe2f,5 feff,feff,5
fff9,fffb,5 101fd,101fd,5 102e0,102e0,5 10376,1037a,5 10a01,10a03,5 10a05,10a06,5 10a0c,10a0f,5
10a38,10a3a,5 10a3f,10a3f,5 10ac0,10ac4,3 10ac5,10ac5,1 10ac7,10ac7,1 10ac9,10aca,1
10acd,10acd,2 10ace,10ad2,1 10ad3,10ad6,3 10ad7,10ad7,2 10ad8,10adc,3 10add,10add,1
10ade,10ae0,3 10ae1,10ae1,1 10ae4,10ae4,1 10ae5,10ae6,5 10aeb,10aee,3 10aef,10aef,1
10b80,10b80,3 10b81,10b81,1 10b82,10b82,3 10b83,10b85,1 10b86,10b88,3 10b89,10b89,1
10b8a,10b8b,3 10b8c,10b8c,1 10b8d,10b8d,3 10b8e,10b8f,1 10b90,10b90,3 10b91,10b91,1
10ba9,10bac,1 10bad,10bae,3 10d00,10d00,2 10d01,10d21,3 10d22,10d22,1 10d23,10d23,3
10d24,10d27,5 10d69,10d6d,5 10eab,10eac,5 10ec2,10ec2,1 10ec3,10ec4,3 10ec6,10ec7,3
10efa,10eff,5 10f30,10f32,3 10f33,10f33,1 10f34,10f44,3 10f46,10f50,5 10f51,10f53,3
10f54,10f54,1 10f70,10f73,3 10f74,10f75,1 10f76,10f81,3 10f82,10f85,5 10fb0,10fb0,3
10fb2,10fb3,3 10fb4,10fb6,1 10fb8,10fb8,3 10fb9,10fba,1 10fbb,10fbc,3 10fbd,10fbd,1
10fbe,10fbf,3 10fc1,10fc1,3 10fc2,10fc3,1 10fc4,10fc4,3 10fc9,10fc9,1 10fca,10fca,3
10fcb,10fcb,2 11001,11001,5 11038,11046,5 11070,11070,5 11073,11074,5 1107f,11081,5
110b3,110b6,5 110b9,110ba,5 110c2,110c2,5 11100,11102,5 11127,1112b,5 1112d,11134,5
11173,11173,5 11180,11181,5 111b6,111be,5 111c9,111cc,5 111cf,111cf,5 1122f,11231,5
11234,11234,5 11236,11237,5 1123e,1123e,5 11241,11241,5 112df,112df,5 112e3,112ea,5
11300,11301,5 1133b,1133c,5 11340,11340,5 11366,1136c,5 11370,11374,5 113bb,113c0,5
113ce,113ce,5 113d0,113d0,5 113d2,113d2,5 113e1,113e2,5 11438,1143f,5 11442,11444,5
11446,11446,5 1145e,1145e,5 114b3,114b8,5 114ba,114ba,5 114bf,114c0,5 114c2,114c3,5
115b2,115b5,5 115bc,115bd,5 115bf,115c0,5 115dc,115dd,5 11633,1163a,5 1163d,1163d,5
1163f,11640,5 116ab,116ab,5 116ad,116ad,5 116b0,116b5,5 116b7,116b7,5 1171d,1171d,5
1171f,1171f,5 11722,11725,5 11727,1172b,5 1182f,11837,5 11839,1183a,5 1193b,1193c,5
1193e,1193e,5 11943,11943,5 119d4,119d7,5 119da,119db,5 119e0,119e0,5 11a01,11a0a,5
11a33,11a38,5 11a3b,11a3e,5 11a47,11a47,5 11a51,11a56,5 11a59,11a5b,5 11a8a,11a96,5
11a98,11a99,5 11b60,11b60,5 11b62,11b64,5 11b66,11b66,5 11c30,11c36,5 11c38,11c3d,5
11c3f,11c3f,5 11c92,11ca7,5 11caa,11cb0,5 11cb2,11cb3,5 11cb5,11cb6,5 11d31,11d36,5
11d3a,11d3a,5 11d3c,11d3d,5 11d3f,11d45,5 11d47,11d47,5 11d90,11d91,5 11d95,11d95,5
11d97,11d97,5 11ef3,11ef4,5 11f00,11f01,5 11f36,11f3a,5 11f40,11f40,5 11f42,11f42,5
11f5a,11f5a,5 13430,13440,5 13447,13455,5 1611e,16129,5 1612d,1612f,5 16af0,16af4,5
16b30,16b36,5 16f4f,16f4f,5 16f8f,16f92,5 16fe4,16fe4,5 1bc9d,1bc9e,5 1bca0,1bca3,5
1cf00,1cf2d,5 1cf30,1cf46,5 1d167,1d169,5 1d173,1d182,5 1d185,1d18b,5 1d1aa,1d1ad,5
1d242,1d244,5 1da00,1da36,5 1da3b,1da6c,5 1da75,1da75,5 1da84,1da84,5 1da9b,1da9f,5
1daa1,1daaf,5 1e000,1e006,5 1e008,1e018,5 1e01b,1e021,5 1e023,1e024,5 1e026,1e02a,5
1e08f,1e08f,5 1e130,1e136,5 1e2ae,1e2ae,5 1e2ec,1e2ef,5 1e4ec,1e4ef,5 1e5ee,1e5ef,5
1e6e3,1e6e3,5 1e6e6,1e6e6,5 1e6ee,1e6ef,5 1e6f5,1e6f5,5 1e8d0,1e8d6,5 1e900,1e943,3
1e944,1e94b,5 e0001,e0001,5 e0020,e007f,5 e0100,e01ef,5"

def markRows : Array (List Nat) := Rows.parse markText
def directionRows : Array (List Nat) := Rows.parse directionText
def joiningRows : Array (List Nat) := Rows.parse joiningText

def isMark (c : Char) : Bool := Rows.covers markRows c.toNat

/-- How a character takes part in mixed left-to-right and right-to-left text. -/
inductive Direction where
  | left
  | right
  | arabicLetter
  | arabicNumber
  | number
  | numberSign
  | separator
  | terminator
  | neutral
  | boundary
  | mark
  deriving DecidableEq, Repr

def Direction.ofCode : Nat → Direction
  | 1 => .right
  | 2 => .arabicLetter
  | 3 => .arabicNumber
  | 4 => .number
  | 5 => .numberSign
  | 6 => .separator
  | 7 => .terminator
  | 8 => .neutral
  | 9 => .boundary
  | 10 => .mark
  | _ => .left

def direction (c : Char) : Direction :=
  Direction.ofCode ((Rows.classOf directionRows c.toNat).getD 0)

/-- On which sides a letter joins its neighbours. -/
inductive Joining where
  | none
  | right
  | left
  | both
  | transparent
  deriving DecidableEq, Repr

def Joining.ofCode : Nat → Joining
  | 1 => .right
  | 2 => .left
  | 3 => .both
  | 5 => .transparent
  | _ => .none

def joining (c : Char) : Joining :=
  Joining.ofCode ((Rows.classOf joiningRows c.toNat).getD 0)

end Gateway.Domain
