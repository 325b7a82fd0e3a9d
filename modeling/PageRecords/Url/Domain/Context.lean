import PageRecords.Unicode.NumberText

/-!
# Directions and joining

What characters of a domain name have to say about those around them: the direction
they are written in, and whether they join with their neighbours.
-/

namespace PageRecords.Url.Domain

open Unicode (NumberText.numbers NumberText.pairs)

def runs (text : String) : List (Nat × Nat) := NumberText.pairs (NumberText.numbers text)

def isIn (ranges : List (Nat × Nat)) (n : Nat) : Bool :=
  ranges.any fun (first, last) => first ≤ n && n ≤ last

-- --------------------------------------------------------------------
-- Directions
-- --------------------------------------------------------------------

/-- Letters written from right to left. -/
def leftwardText : String := "
5be 5be 5c0 5c0 5c3 5c3 5c6 5c6 5d0 5ea 5ef 5f4 608 608 60b 60b 60d 60d 61b 64a 66d 66f 671 6d5
6e5 6e6 6ee 6ef 6fa 70d 70f 710 712 72f 74d 7a5 7b1 7b1 7c0 7ea 7f4 7f5 7fa 7fa 7fe 815 81a 81a
824 824 828 828 830 83e 840 858 85e 85e 860 86a 870 88e 8a0 8c9 200f 200f fb1d fb1d fb1f fb28
fb2a fb36 fb38 fb3c fb3e fb3e fb40 fb41 fb43 fb44 fb46 fbc2 fbd3 fd3d fd50 fd8f fd92 fdc7
fdf0 fdfc fe70 fe74 fe76 fefc 10800 10805 10808 10808 1080a 10835 10837 10838 1083c 1083c
1083f 10855 10857 1089e 108a7 108af 108e0 108f2 108f4 108f5 108fb 1091b 10920 10939 1093f 1093f
10980 109b7 109bc 109cf 109d2 10a00 10a10 10a13 10a15 10a17 10a19 10a35 10a40 10a48 10a50 10a58
10a60 10a9f 10ac0 10ae4 10aeb 10af6 10b00 10b35 10b40 10b55 10b58 10b72 10b78 10b91 10b99 10b9c
10ba9 10baf 10c00 10c48 10c80 10cb2 10cc0 10cf2 10cfa 10d23 10e80 10ea9 10ead 10ead 10eb0 10eb1
10f00 10f27 10f30 10f45 10f51 10f59 10f70 10f81 10f86 10f89 10fb0 10fcb 10fe0 10ff6 1e800 1e8c4
1e8c7 1e8cf 1e900 1e943 1e94b 1e94b 1e950 1e959 1e95e 1e95f 1ec71 1ecb4 1ed01 1ed3d 1ee00 1ee03
1ee05 1ee1f 1ee21 1ee22 1ee24 1ee24 1ee27 1ee27 1ee29 1ee32 1ee34 1ee37 1ee39 1ee39 1ee3b 1ee3b
1ee42 1ee42 1ee47 1ee47 1ee49 1ee49 1ee4b 1ee4b 1ee4d 1ee4f 1ee51 1ee52 1ee54 1ee54 1ee57 1ee57
1ee59 1ee59 1ee5b 1ee5b 1ee5d 1ee5d 1ee5f 1ee5f 1ee61 1ee62 1ee64 1ee64 1ee67 1ee6a 1ee6c 1ee72
1ee74 1ee77 1ee79 1ee7c 1ee7e 1ee7e 1ee80 1ee89 1ee8b 1ee9b 1eea1 1eea3 1eea5 1eea9 1eeab 1eebb"

/-- Numbers in text written from right to left. -/
def arabicNumberText : String := "
600 605 660 669 66b 66c 6dd 6dd 890 891 8e2 8e2 10d30 10d39 10e60 10e7e"

/-- Numbers in text of either direction. -/
def numberText : String := "
30 39 b2 b3 b9 b9 6f0 6f9 2070 2070 2074 2079 2080 2089 2488 249b ff10 ff19 102e1 102fb
1d7ce 1d7ff 1f100 1f10a 1fbf0 1fbf9"

/-- Marks, which stand over other characters. -/
def markText : String := "
300 36f 483 489 591 5bd 5bf 5bf 5c1 5c2 5c4 5c5 5c7 5c7 610 61a 64b 65f 670 670 6d6 6dc 6df 6e4
6e7 6e8 6ea 6ed 711 711 730 74a 7a6 7b0 7eb 7f3 7fd 7fd 816 819 81b 823 825 827 829 82d 859 85b
898 89f 8ca 8e1 8e3 902 93a 93a 93c 93c 941 948 94d 94d 951 957 962 963 981 981 9bc 9bc 9c1 9c4
9cd 9cd 9e2 9e3 9fe 9fe a01 a02 a3c a3c a41 a42 a47 a48 a4b a4d a51 a51 a70 a71 a75 a75 a81 a82
abc abc ac1 ac5 ac7 ac8 acd acd ae2 ae3 afa aff b01 b01 b3c b3c b3f b3f b41 b44 b4d b4d b55 b56
b62 b63 b82 b82 bc0 bc0 bcd bcd c00 c00 c04 c04 c3c c3c c3e c40 c46 c48 c4a c4d c55 c56 c62 c63
c81 c81 cbc cbc ccc ccd ce2 ce3 d00 d01 d3b d3c d41 d44 d4d d4d d62 d63 d81 d81 dca dca dd2 dd4
dd6 dd6 e31 e31 e34 e3a e47 e4e eb1 eb1 eb4 ebc ec8 ece f18 f19 f35 f35 f37 f37 f39 f39 f71 f7e
f80 f84 f86 f87 f8d f97 f99 fbc fc6 fc6 102d 1030 1032 1037 1039 103a 103d 103e 1058 1059
105e 1060 1071 1074 1082 1082 1085 1086 108d 108d 109d 109d 135d 135f 1712 1714 1732 1733
1752 1753 1772 1773 17b4 17b5 17b7 17bd 17c6 17c6 17c9 17d3 17dd 17dd 180b 180d 180f 180f
1885 1886 18a9 18a9 1920 1922 1927 1928 1932 1932 1939 193b 1a17 1a18 1a1b 1a1b 1a56 1a56
1a58 1a5e 1a60 1a60 1a62 1a62 1a65 1a6c 1a73 1a7c 1a7f 1a7f 1ab0 1ace 1b00 1b03 1b34 1b34
1b36 1b3a 1b3c 1b3c 1b42 1b42 1b6b 1b73 1b80 1b81 1ba2 1ba5 1ba8 1ba9 1bab 1bad 1be6 1be6
1be8 1be9 1bed 1bed 1bef 1bf1 1c2c 1c33 1c36 1c37 1cd0 1cd2 1cd4 1ce0 1ce2 1ce8 1ced 1ced
1cf4 1cf4 1cf8 1cf9 1dc0 1dff 20d0 20f0 2cef 2cf1 2d7f 2d7f 2de0 2dff 302a 302d 3099 309a
a66f a672 a674 a67d a69e a69f a6f0 a6f1 a802 a802 a806 a806 a80b a80b a825 a826 a82c a82c
a8c4 a8c5 a8e0 a8f1 a8ff a8ff a926 a92d a947 a951 a980 a982 a9b3 a9b3 a9b6 a9b9 a9bc a9bd
a9e5 a9e5 aa29 aa2e aa31 aa32 aa35 aa36 aa43 aa43 aa4c aa4c aa7c aa7c aab0 aab0 aab2 aab4
aab7 aab8 aabe aabf aac1 aac1 aaec aaed aaf6 aaf6 abe5 abe5 abe8 abe8 abed abed fb1e fb1e
fe00 fe0f fe20 fe2f 101fd 101fd 102e0 102e0 10376 1037a 10a01 10a03 10a05 10a06 10a0c 10a0f
10a38 10a3a 10a3f 10a3f 10ae5 10ae6 10d24 10d27 10eab 10eac 10efd 10eff 10f46 10f50 10f82 10f85
11001 11001 11038 11046 11070 11070 11073 11074 1107f 11081 110b3 110b6 110b9 110ba 110c2 110c2
11100 11102 11127 1112b 1112d 11134 11173 11173 11180 11181 111b6 111be 111c9 111cc 111cf 111cf
1122f 11231 11234 11234 11236 11237 1123e 1123e 11241 11241 112df 112df 112e3 112ea 11300 11301
1133b 1133c 11340 11340 11366 1136c 11370 11374 11438 1143f 11442 11444 11446 11446 1145e 1145e
114b3 114b8 114ba 114ba 114bf 114c0 114c2 114c3 115b2 115b5 115bc 115bd 115bf 115c0 115dc 115dd
11633 1163a 1163d 1163d 1163f 11640 116ab 116ab 116ad 116ad 116b0 116b5 116b7 116b7 1171d 1171f
11722 11725 11727 1172b 1182f 11837 11839 1183a 1193b 1193c 1193e 1193e 11943 11943 119d4 119d7
119da 119db 119e0 119e0 11a01 11a06 11a09 11a0a 11a33 11a38 11a3b 11a3e 11a47 11a47 11a51 11a56
11a59 11a5b 11a8a 11a96 11a98 11a99 11c30 11c36 11c38 11c3d 11c92 11ca7 11caa 11cb0 11cb2 11cb3
11cb5 11cb6 11d31 11d36 11d3a 11d3a 11d3c 11d3d 11d3f 11d45 11d47 11d47 11d90 11d91 11d95 11d95
11d97 11d97 11ef3 11ef4 11f00 11f01 11f36 11f3a 11f40 11f40 11f42 11f42 13440 13440 13447 13455
16af0 16af4 16b30 16b36 16f4f 16f4f 16f8f 16f92 16fe4 16fe4 1bc9d 1bc9e 1cf00 1cf2d 1cf30 1cf46
1d167 1d169 1d17b 1d182 1d185 1d18b 1d1aa 1d1ad 1d242 1d244 1da00 1da36 1da3b 1da6c 1da75 1da75
1da84 1da84 1da9b 1da9f 1daa1 1daaf 1e000 1e006 1e008 1e018 1e01b 1e021 1e023 1e024 1e026 1e02a
1e08f 1e08f 1e130 1e136 1e2ae 1e2ae 1e2ec 1e2ef 1e4ec 1e4ef 1e8d0 1e8d6 1e944 1e94a e0100 e01ef"

/-- What stands in text of either direction. -/
def neutralText : String := "
0 8 e 1b 21 2f 3a 40 5b 60 7b 84 86 a9 ab b1 b4 b4 b6 b8 bb bf d7 d7 f7 f7 2b9 2ba 2c2 2cf 2d2 2df
2e5 2ed 2ef 2ff 374 375 37e 37e 384 385 387 387 3f6 3f6 58a 58a 58d 58f 606 607 609 60a 60c 60c
60e 60f 66a 66a 6de 6de 6e9 6e9 7f6 7f9 9f2 9f3 9fb 9fb af1 af1 bf3 bfa c78 c7e e3f e3f f3a f3d
1390 1399 1400 1400 169b 169c 17db 17db 17f0 17f9 1800 180a 180e 180e 1940 1940 1944 1945
19de 19ff 1fbd 1fbd 1fbf 1fc1 1fcd 1fcf 1fdd 1fdf 1fed 1fef 1ffd 1ffe 200b 200d 2010 2027
202f 205e 2060 2064 206a 206f 207a 207e 208a 208e 20a0 20c0 2100 2101 2103 2106 2108 2109
2114 2114 2116 2118 211e 2123 2125 2125 2127 2127 2129 2129 212e 212e 213a 213b 2140 2144
214a 214d 2150 215f 2189 218b 2190 2335 237b 2394 2396 2426 2440 244a 2460 2487 24ea 26ab
26ad 27ff 2900 2b73 2b76 2b95 2b97 2bff 2ce5 2cea 2cf9 2cff 2e00 2e5d 2e80 2e99 2e9b 2ef3
2f00 2fd5 2ff0 2ffb 3001 3004 3008 3020 3030 3030 3036 3037 303d 303f 309b 309c 30a0 30a0
30fb 30fb 31c0 31e3 321d 321e 3250 325f 327c 327e 32b1 32bf 32cc 32cf 3377 337a 33de 33df
33ff 33ff 4dc0 4dff a490 a4c6 a60d a60f a673 a673 a67e a67f a700 a721 a788 a788 a828 a82b
a838 a839 a874 a877 ab6a ab6b fb29 fb29 fd3e fd4f fdcf fdcf fdfd fdff fe10 fe19 fe30 fe52
fe54 fe66 fe68 fe6b feff feff ff01 ff0f ff1a ff20 ff3b ff40 ff5b ff65 ffe0 ffe6 ffe8 ffee
fff9 fffd 10101 10101 10140 1018c 10190 1019c 101a0 101a0 1091f 1091f 10b39 10b3f 11052 11065
11660 1166c 11fd5 11ff1 16fe2 16fe2 1bca0 1bca3 1d173 1d17a 1d1e9 1d1ea 1d200 1d241 1d245 1d245
1d300 1d356 1d6db 1d6db 1d715 1d715 1d74f 1d74f 1d789 1d789 1d7c3 1d7c3 1e2ff 1e2ff 1eef0 1eef1
1f000 1f02b 1f030 1f093 1f0a0 1f0ae 1f0b1 1f0bf 1f0c1 1f0cf 1f0d1 1f0f5 1f10b 1f10f 1f12f 1f12f
1f16a 1f16f 1f1ad 1f1ad 1f260 1f265 1f300 1f6d7 1f6dc 1f6ec 1f6f0 1f6fc 1f700 1f776 1f77b 1f7d9
1f7e0 1f7eb 1f7f0 1f7f0 1f800 1f80b 1f810 1f847 1f850 1f859 1f860 1f887 1f890 1f8ad 1f8b0 1f8b1
1f900 1fa53 1fa60 1fa6d 1fa70 1fa7c 1fa80 1fa88 1fa90 1fabd 1fabf 1fac5 1face 1fadb 1fae0 1fae8
1faf0 1faf8 1fb00 1fb92 1fb94 1fbca e0001 e0001 e0020 e007f"

/-- Letters written from left to right. -/
def rightwardText : String := "
41 5a 61 7a aa aa b5 b5 ba ba c0 d6 d8 f6 f8 2b8 2bb 2c1 2d0 2d1 2e0 2e4 2ee 2ee 370 373 376 377
37a 37d 37f 37f 386 386 388 38a 38c 38c 38e 3a1 3a3 3f5 3f7 482 48a 52f 531 556 559 589 903 939
93b 93b 93d 940 949 94c 94e 950 958 961 964 980 982 983 985 98c 98f 990 993 9a8 9aa 9b0 9b2 9b2
9b6 9b9 9bd 9c0 9c7 9c8 9cb 9cc 9ce 9ce 9d7 9d7 9dc 9dd 9df 9e1 9e6 9f1 9f4 9fa 9fc 9fd a03 a03
a05 a0a a0f a10 a13 a28 a2a a30 a32 a33 a35 a36 a38 a39 a3e a40 a59 a5c a5e a5e a66 a6f a72 a74
a76 a76 a83 a83 a85 a8d a8f a91 a93 aa8 aaa ab0 ab2 ab3 ab5 ab9 abd ac0 ac9 ac9 acb acc ad0 ad0
ae0 ae1 ae6 af0 af9 af9 b02 b03 b05 b0c b0f b10 b13 b28 b2a b30 b32 b33 b35 b39 b3d b3e b40 b40
b47 b48 b4b b4c b57 b57 b5c b5d b5f b61 b66 b77 b83 b83 b85 b8a b8e b90 b92 b95 b99 b9a b9c b9c
b9e b9f ba3 ba4 ba8 baa bae bb9 bbe bbf bc1 bc2 bc6 bc8 bca bcc bd0 bd0 bd7 bd7 be6 bf2 c01 c03
c05 c0c c0e c10 c12 c28 c2a c39 c3d c3d c41 c44 c58 c5a c5d c5d c60 c61 c66 c6f c77 c77 c7f c80
c82 c8c c8e c90 c92 ca8 caa cb3 cb5 cb9 cbd cc4 cc6 cc8 cca ccb cd5 cd6 cdd cde ce0 ce1 ce6 cef
cf1 cf3 d02 d0c d0e d10 d12 d3a d3d d40 d46 d48 d4a d4c d4e d4f d54 d61 d66 d7f d82 d83 d85 d96
d9a db1 db3 dbb dbd dbd dc0 dc6 dcf dd1 dd8 ddf de6 def df2 df4 e01 e30 e32 e33 e40 e46 e4f e5b
e81 e82 e84 e84 e86 e8a e8c ea3 ea5 ea5 ea7 eb0 eb2 eb3 ebd ebd ec0 ec4 ec6 ec6 ed0 ed9 edc edf
f00 f17 f1a f34 f36 f36 f38 f38 f3e f47 f49 f6c f7f f7f f85 f85 f88 f8c fbe fc5 fc7 fcc fce fda
1000 102c 1031 1031 1038 1038 103b 103c 103f 1057 105a 105d 1061 1070 1075 1081 1083 1084
1087 108c 108e 109c 109e 10c5 10c7 10c7 10cd 10cd 10d0 1248 124a 124d 1250 1256 1258 1258
125a 125d 1260 1288 128a 128d 1290 12b0 12b2 12b5 12b8 12be 12c0 12c0 12c2 12c5 12c8 12d6
12d8 1310 1312 1315 1318 135a 1360 137c 1380 138f 13a0 13f5 13f8 13fd 1401 167f 1681 169a
16a0 16f8 1700 1711 1715 1715 171f 1731 1734 1736 1740 1751 1760 176c 176e 1770 1780 17b3
17b6 17b6 17be 17c5 17c7 17c8 17d4 17da 17dc 17dc 17e0 17e9 1810 1819 1820 1878 1880 1884
1887 18a8 18aa 18aa 18b0 18f5 1900 191e 1923 1926 1929 192b 1930 1931 1933 1938 1946 196d
1970 1974 1980 19ab 19b0 19c9 19d0 19da 1a00 1a16 1a19 1a1a 1a1e 1a55 1a57 1a57 1a61 1a61
1a63 1a64 1a6d 1a72 1a80 1a89 1a90 1a99 1aa0 1aad 1b04 1b33 1b35 1b35 1b3b 1b3b 1b3d 1b41
1b43 1b4c 1b50 1b6a 1b74 1b7e 1b82 1ba1 1ba6 1ba7 1baa 1baa 1bae 1be5 1be7 1be7 1bea 1bec
1bee 1bee 1bf2 1bf3 1bfc 1c2b 1c34 1c35 1c3b 1c49 1c4d 1c88 1c90 1cba 1cbd 1cc7 1cd3 1cd3
1ce1 1ce1 1ce9 1cec 1cee 1cf3 1cf5 1cf7 1cfa 1cfa 1d00 1dbf 1e00 1f15 1f18 1f1d 1f20 1f45
1f48 1f4d 1f50 1f57 1f59 1f59 1f5b 1f5b 1f5d 1f5d 1f5f 1f7d 1f80 1fb4 1fb6 1fbc 1fbe 1fbe
1fc2 1fc4 1fc6 1fcc 1fd0 1fd3 1fd6 1fdb 1fe0 1fec 1ff2 1ff4 1ff6 1ffc 200e 200e 2071 2071
207f 207f 2090 209c 2102 2102 2107 2107 210a 2113 2115 2115 2119 211d 2124 2124 2126 2126
2128 2128 212a 212d 212f 2139 213c 213f 2145 2149 214e 214f 2160 2188 2336 237a 2395 2395
249c 24e9 26ac 26ac 2800 28ff 2c00 2ce4 2ceb 2cee 2cf2 2cf3 2d00 2d25 2d27 2d27 2d2d 2d2d
2d30 2d67 2d6f 2d70 2d80 2d96 2da0 2da6 2da8 2dae 2db0 2db6 2db8 2dbe 2dc0 2dc6 2dc8 2dce
2dd0 2dd6 2dd8 2dde 3005 3007 3021 3029 302e 302f 3031 3035 3038 303c 3041 3096 309d 309f
30a1 30fa 30fc 30ff 3105 312f 3131 318e 3190 31bf 31f0 321c 3220 324f 3260 327b 327f 32b0
32c0 32cb 32d0 3376 337b 33dd 33e0 33fe 3400 4dbf 4e00 a48c a4d0 a60c a610 a62b a640 a66e
a680 a69d a6a0 a6ef a6f2 a6f7 a722 a787 a789 a7ca a7d0 a7d1 a7d3 a7d3 a7d5 a7d9 a7f2 a801
a803 a805 a807 a80a a80c a824 a827 a827 a830 a837 a840 a873 a880 a8c3 a8ce a8d9 a8f2 a8fe
a900 a925 a92e a946 a952 a953 a95f a97c a983 a9b2 a9b4 a9b5 a9ba a9bb a9be a9cd a9cf a9d9
a9de a9e4 a9e6 a9fe aa00 aa28 aa2f aa30 aa33 aa34 aa40 aa42 aa44 aa4b aa4d aa4d aa50 aa59
aa5c aa7b aa7d aaaf aab1 aab1 aab5 aab6 aab9 aabd aac0 aac0 aac2 aac2 aadb aaeb aaee aaf5
ab01 ab06 ab09 ab0e ab11 ab16 ab20 ab26 ab28 ab2e ab30 ab69 ab70 abe4 abe6 abe7 abe9 abec
abf0 abf9 ac00 d7a3 d7b0 d7c6 d7cb d7fb e000 fa6d fa70 fad9 fb00 fb06 fb13 fb17 ff21 ff3a
ff41 ff5a ff66 ffbe ffc2 ffc7 ffca ffcf ffd2 ffd7 ffda ffdc 10000 1000b 1000d 10026 10028 1003a
1003c 1003d 1003f 1004d 10050 1005d 10080 100fa 10100 10100 10102 10102 10107 10133 10137 1013f
1018d 1018e 101d0 101fc 10280 1029c 102a0 102d0 10300 10323 1032d 1034a 10350 10375 10380 1039d
1039f 103c3 103c8 103d5 10400 1049d 104a0 104a9 104b0 104d3 104d8 104fb 10500 10527 10530 10563
1056f 1057a 1057c 1058a 1058c 10592 10594 10595 10597 105a1 105a3 105b1 105b3 105b9 105bb 105bc
10600 10736 10740 10755 10760 10767 10780 10785 10787 107b0 107b2 107ba 11000 11000 11002 11037
11047 1104d 11066 1106f 11071 11072 11075 11075 11082 110b2 110b7 110b8 110bb 110c1 110cd 110cd
110d0 110e8 110f0 110f9 11103 11126 1112c 1112c 11136 11147 11150 11172 11174 11176 11182 111b5
111bf 111c8 111cd 111ce 111d0 111df 111e1 111f4 11200 11211 11213 1122e 11232 11233 11235 11235
11238 1123d 1123f 11240 11280 11286 11288 11288 1128a 1128d 1128f 1129d 1129f 112a9 112b0 112de
112e0 112e2 112f0 112f9 11302 11303 11305 1130c 1130f 11310 11313 11328 1132a 11330 11332 11333
11335 11339 1133d 1133f 11341 11344 11347 11348 1134b 1134d 11350 11350 11357 11357 1135d 11363
11400 11437 11440 11441 11445 11445 11447 1145b 1145d 1145d 1145f 11461 11480 114b2 114b9 114b9
114bb 114be 114c1 114c1 114c4 114c7 114d0 114d9 11580 115b1 115b8 115bb 115be 115be 115c1 115db
11600 11632 1163b 1163c 1163e 1163e 11641 11644 11650 11659 11680 116aa 116ac 116ac 116ae 116af
116b6 116b6 116b8 116b9 116c0 116c9 11700 1171a 11720 11721 11726 11726 11730 11746 11800 1182e
11838 11838 1183b 1183b 118a0 118f2 118ff 11906 11909 11909 1190c 11913 11915 11916 11918 11935
11937 11938 1193d 1193d 1193f 11942 11944 11946 11950 11959 119a0 119a7 119aa 119d3 119dc 119df
119e1 119e4 11a00 11a00 11a07 11a08 11a0b 11a32 11a39 11a3a 11a3f 11a46 11a50 11a50 11a57 11a58
11a5c 11a89 11a97 11a97 11a9a 11aa2 11ab0 11af8 11b00 11b09 11c00 11c08 11c0a 11c2f 11c3e 11c45
11c50 11c6c 11c70 11c8f 11ca9 11ca9 11cb1 11cb1 11cb4 11cb4 11d00 11d06 11d08 11d09 11d0b 11d30
11d46 11d46 11d50 11d59 11d60 11d65 11d67 11d68 11d6a 11d8e 11d93 11d94 11d96 11d96 11d98 11d98
11da0 11da9 11ee0 11ef2 11ef5 11ef8 11f02 11f10 11f12 11f35 11f3e 11f3f 11f41 11f41 11f43 11f59
11fb0 11fb0 11fc0 11fd4 11fff 12399 12400 1246e 12470 12474 12480 12543 12f90 12ff2 13000 1343f
13441 13446 14400 14646 16800 16a38 16a40 16a5e 16a60 16a69 16a6e 16abe 16ac0 16ac9 16ad0 16aed
16af5 16af5 16b00 16b2f 16b37 16b45 16b50 16b59 16b5b 16b61 16b63 16b77 16b7d 16b8f 16e40 16e9a
16f00 16f4a 16f50 16f87 16f93 16f9f 16fe0 16fe1 16fe3 16fe3 16ff0 16ff1 17000 187f7 18800 18cd5
18d00 18d08 1aff0 1aff3 1aff5 1affb 1affd 1affe 1b000 1b122 1b132 1b132 1b150 1b152 1b155 1b155
1b164 1b167 1b170 1b2fb 1bc00 1bc6a 1bc70 1bc7c 1bc80 1bc88 1bc90 1bc99 1bc9c 1bc9c 1bc9f 1bc9f
1cf50 1cfc3 1d000 1d0f5 1d100 1d126 1d129 1d166 1d16a 1d172 1d183 1d184 1d18c 1d1a9 1d1ae 1d1e8
1d2c0 1d2d3 1d2e0 1d2f3 1d360 1d378 1d400 1d454 1d456 1d49c 1d49e 1d49f 1d4a2 1d4a2 1d4a5 1d4a6
1d4a9 1d4ac 1d4ae 1d4b9 1d4bb 1d4bb 1d4bd 1d4c3 1d4c5 1d505 1d507 1d50a 1d50d 1d514 1d516 1d51c
1d51e 1d539 1d53b 1d53e 1d540 1d544 1d546 1d546 1d54a 1d550 1d552 1d6a5 1d6a8 1d6da 1d6dc 1d714
1d716 1d74e 1d750 1d788 1d78a 1d7c2 1d7c4 1d7cb 1d800 1d9ff 1da37 1da3a 1da6d 1da74 1da76 1da83
1da85 1da8b 1df00 1df1e 1df25 1df2a 1e030 1e06d 1e100 1e12c 1e137 1e13d 1e140 1e149 1e14e 1e14f
1e290 1e2ad 1e2c0 1e2eb 1e2f0 1e2f9 1e4d0 1e4eb 1e4f0 1e4f9 1e7e0 1e7e6 1e7e8 1e7eb 1e7ed 1e7ee
1e7f0 1e7fe 1f110 1f12e 1f130 1f169 1f170 1f1ac 1f1e6 1f202 1f210 1f23b 1f240 1f248 1f250 1f251
20000 2a6df 2a700 2b739 2b740 2b81d 2b820 2cea1 2ceb0 2ebe0 2f800 2fa1d 30000 3134a 31350 323af
f0000 ffffd 100000 10fffd"

inductive Direction where
  | rightward
  | leftward
  | arabicNumber
  | number
  | mark
  | neutral
  /-- Not to be mixed with text of the other direction at all. -/
  | other
deriving DecidableEq, Repr

def leftwardRuns : List (Nat × Nat) := runs leftwardText

def arabicNumberRuns : List (Nat × Nat) := runs arabicNumberText

def numberRuns : List (Nat × Nat) := runs numberText

def markRuns : List (Nat × Nat) := runs markText

def neutralRuns : List (Nat × Nat) := runs neutralText

def rightwardRuns : List (Nat × Nat) := runs rightwardText

def direction (n : Nat) : Direction :=
  if isIn rightwardRuns n then .rightward
  else if isIn leftwardRuns n then .leftward
  else if isIn arabicNumberRuns n then .arabicNumber
  else if isIn numberRuns n then .number
  else if isIn markRuns n then .mark
  else if isIn neutralRuns n then .neutral
  else .other

-- --------------------------------------------------------------------
-- Joining
-- --------------------------------------------------------------------

/-- Characters that join on both sides. -/
def joinsBothText : String := "
620 620 626 626 628 628 62a 62e 633 63f 641 647 649 64a 66e 66f 678 687 69a 6bf 6c1 6c2 6cc 6cc
6ce 6ce 6d0 6d1 6fa 6fc 6ff 6ff 712 714 71a 71d 71f 727 729 729 72b 72b 72d 72e 74e 758 75c 76a
76d 770 772 772 775 777 77a 77f 7ca 7ea 841 845 848 848 84a 853 855 855 860 860 862 865 868 868
886 886 889 88d 88f 88f 8a0 8a9 8af 8b0 8b3 8b8 8ba 8c8 1807 1807 1820 1878 1887 18a8 18aa 18aa
a840 a871 10ac0 10ac4 10ad3 10ad6 10ad8 10adc 10ade 10ae0 10aeb 10aee 10b80 10b80 10b82 10b82
10b86 10b88 10b8a 10b8b 10b8d 10b8d 10b90 10b90 10bad 10bae 10d01 10d21 10d23 10d23 10ec3 10ec4
10ec6 10ec7 10f30 10f32 10f34 10f44 10f51 10f53 10f70 10f73 10f76 10f81 10fb0 10fb0 10fb2 10fb3
10fb8 10fb8 10fbb 10fbc 10fbe 10fbf 10fc1 10fc1 10fc4 10fc4 10fca 10fca 1e900 1e943"

/-- Characters that join with the one before them only. -/
def joinsBeforeText : String := "
622 625 627 627 629 629 62f 632 648 648 671 673 675 677 688 699 6c0 6c0 6c3 6cb 6cd 6cd 6cf 6cf
6d2 6d3 6d5 6d5 6ee 6ef 710 710 715 719 71e 71e 728 728 72a 72a 72c 72c 72f 72f 74d 74d 759 75b
76b 76c 771 771 773 774 778 779 840 840 846 847 849 849 854 854 856 858 867 867 869 86a 870 882
88e 88e 8aa 8ac 8ae 8ae 8b1 8b2 8b9 8b9 10ac5 10ac5 10ac7 10ac7 10ac9 10aca 10ace 10ad2
10add 10add 10ae1 10ae1 10ae4 10ae4 10aef 10aef 10b81 10b81 10b83 10b85 10b89 10b89 10b8c 10b8c
10b8e 10b8f 10b91 10b91 10ba9 10bac 10d22 10d22 10ec2 10ec2 10f33 10f33 10f54 10f54 10f74 10f75
10fb4 10fb6 10fb9 10fba 10fbd 10fbd 10fc2 10fc3 10fc9 10fc9"

/-- Characters that join with the one after them only. -/
def joinsAfterText : String := "
a872 a872 10acd 10acd 10ad7 10ad7 10d00 10d00 10fcb 10fcb"

/-- Characters that others join across. -/
def passesText : String := "
ad ad 300 36f 483 489 591 5bd 5bf 5bf 5c1 5c2 5c4 5c5 5c7 5c7 610 61a 61c 61c 64b 65f 670 670
6d6 6dc 6df 6e4 6e7 6e8 6ea 6ed 70f 70f 711 711 730 74a 7a6 7b0 7eb 7f3 7fd 7fd 816 819 81b 823
825 827 829 82d 859 85b 897 89f 8ca 8e1 8e3 902 93a 93a 93c 93c 941 948 94d 94d 951 957 962 963
981 981 9bc 9bc 9c1 9c4 9cd 9cd 9e2 9e3 9fe 9fe a01 a02 a3c a3c a41 a42 a47 a48 a4b a4d a51 a51
a70 a71 a75 a75 a81 a82 abc abc ac1 ac5 ac7 ac8 acd acd ae2 ae3 afa aff b01 b01 b3c b3c b3f b3f
b41 b44 b4d b4d b55 b56 b62 b63 b82 b82 bc0 bc0 bcd bcd c00 c00 c04 c04 c3c c3c c3e c40 c46 c48
c4a c4d c55 c56 c62 c63 c81 c81 cbc cbc cbf cbf cc6 cc6 ccc ccd ce2 ce3 d00 d01 d3b d3c d41 d44
d4d d4d d62 d63 d81 d81 dca dca dd2 dd4 dd6 dd6 e31 e31 e34 e3a e47 e4e eb1 eb1 eb4 ebc ec8 ece
f18 f19 f35 f35 f37 f37 f39 f39 f71 f7e f80 f84 f86 f87 f8d f97 f99 fbc fc6 fc6 102d 1030
1032 1037 1039 103a 103d 103e 1058 1059 105e 1060 1071 1074 1082 1082 1085 1086 108d 108d
109d 109d 135d 135f 1712 1714 1732 1733 1752 1753 1772 1773 17b4 17b5 17b7 17bd 17c6 17c6
17c9 17d3 17dd 17dd 180b 180d 180f 180f 1885 1886 18a9 18a9 1920 1922 1927 1928 1932 1932
1939 193b 1a17 1a18 1a1b 1a1b 1a56 1a56 1a58 1a5e 1a60 1a60 1a62 1a62 1a65 1a6c 1a73 1a7c
1a7f 1a7f 1ab0 1add 1ae0 1aeb 1b00 1b03 1b34 1b34 1b36 1b3a 1b3c 1b3c 1b42 1b42 1b6b 1b73
1b80 1b81 1ba2 1ba5 1ba8 1ba9 1bab 1bad 1be6 1be6 1be8 1be9 1bed 1bed 1bef 1bf1 1c2c 1c33
1c36 1c37 1cd0 1cd2 1cd4 1ce0 1ce2 1ce8 1ced 1ced 1cf4 1cf4 1cf8 1cf9 1dc0 1dff 200b 200b
200e 200f 202a 202e 2060 2064 206a 206f 20d0 20f0 2cef 2cf1 2d7f 2d7f 2de0 2dff 302a 302d
3099 309a a66f a672 a674 a67d a69e a69f a6f0 a6f1 a802 a802 a806 a806 a80b a80b a825 a826
a82c a82c a8c4 a8c5 a8e0 a8f1 a8ff a8ff a926 a92d a947 a951 a980 a982 a9b3 a9b3 a9b6 a9b9
a9bc a9bd a9e5 a9e5 aa29 aa2e aa31 aa32 aa35 aa36 aa43 aa43 aa4c aa4c aa7c aa7c aab0 aab0
aab2 aab4 aab7 aab8 aabe aabf aac1 aac1 aaec aaed aaf6 aaf6 abe5 abe5 abe8 abe8 abed abed
fb1e fb1e fe00 fe0f fe20 fe2f feff feff fff9 fffb 101fd 101fd 102e0 102e0 10376 1037a 10a01 10a03
10a05 10a06 10a0c 10a0f 10a38 10a3a 10a3f 10a3f 10ae5 10ae6 10d24 10d27 10d69 10d6d 10eab 10eac
10efa 10eff 10f46 10f50 10f82 10f85 11001 11001 11038 11046 11070 11070 11073 11074 1107f 11081
110b3 110b6 110b9 110ba 110c2 110c2 11100 11102 11127 1112b 1112d 11134 11173 11173 11180 11181
111b6 111be 111c9 111cc 111cf 111cf 1122f 11231 11234 11234 11236 11237 1123e 1123e 11241 11241
112df 112df 112e3 112ea 11300 11301 1133b 1133c 11340 11340 11366 1136c 11370 11374 113bb 113c0
113ce 113ce 113d0 113d0 113d2 113d2 113e1 113e2 11438 1143f 11442 11444 11446 11446 1145e 1145e
114b3 114b8 114ba 114ba 114bf 114c0 114c2 114c3 115b2 115b5 115bc 115bd 115bf 115c0 115dc 115dd
11633 1163a 1163d 1163d 1163f 11640 116ab 116ab 116ad 116ad 116b0 116b5 116b7 116b7 1171d 1171d
1171f 1171f 11722 11725 11727 1172b 1182f 11837 11839 1183a 1193b 1193c 1193e 1193e 11943 11943
119d4 119d7 119da 119db 119e0 119e0 11a01 11a0a 11a33 11a38 11a3b 11a3e 11a47 11a47 11a51 11a56
11a59 11a5b 11a8a 11a96 11a98 11a99 11b60 11b60 11b62 11b64 11b66 11b66 11c30 11c36 11c38 11c3d
11c3f 11c3f 11c92 11ca7 11caa 11cb0 11cb2 11cb3 11cb5 11cb6 11d31 11d36 11d3a 11d3a 11d3c 11d3d
11d3f 11d45 11d47 11d47 11d90 11d91 11d95 11d95 11d97 11d97 11ef3 11ef4 11f00 11f01 11f36 11f3a
11f40 11f40 11f42 11f42 11f5a 11f5a 13430 13440 13447 13455 1611e 16129 1612d 1612f 16af0 16af4
16b30 16b36 16f4f 16f4f 16f8f 16f92 16fe4 16fe4 1bc9d 1bc9e 1bca0 1bca3 1cf00 1cf2d 1cf30 1cf46
1d167 1d169 1d173 1d182 1d185 1d18b 1d1aa 1d1ad 1d242 1d244 1da00 1da36 1da3b 1da6c 1da75 1da75
1da84 1da84 1da9b 1da9f 1daa1 1daaf 1e000 1e006 1e008 1e018 1e01b 1e021 1e023 1e024 1e026 1e02a
1e08f 1e08f 1e130 1e136 1e2ae 1e2ae 1e2ec 1e2ef 1e4ec 1e4ef 1e5ee 1e5ef 1e6e3 1e6e3 1e6e6 1e6e6
1e6ee 1e6ef 1e6f5 1e6f5 1e8d0 1e8d6 1e944 1e94b e0001 e0001 e0020 e007f e0100 e01ef"

/-- Marks that take the vowel from a letter. -/
def viramaText : String := "
94d 94d 9cd 9cd a4d a4d acd acd b4d b4d bcd bcd c4d c4d ccd ccd d3b d3c d4d d4d dca dca e3a e3a
eba eba f84 f84 1039 103a 1714 1715 1734 1734 17d2 17d2 1a60 1a60 1b44 1b44 1baa 1bab 1bf2 1bf3
2d7f 2d7f a806 a806 a82c a82c a8c4 a8c4 a953 a953 a9c0 a9c0 aaf6 aaf6 abed abed 10a3f 10a3f
11046 11046 11070 11070 1107f 1107f 110b9 110b9 11133 11134 111c0 111c0 11235 11235 112ea 112ea
1134d 1134d 11442 11442 114c2 114c2 115bf 115bf 1163f 1163f 116b6 116b6 1172b 1172b 11839 11839
1193d 1193e 119e0 119e0 11a34 11a34 11a47 11a47 11a99 11a99 11c3f 11c3f 11d44 11d45 11d97 11d97
11f41 11f42"

def joinsBothRuns : List (Nat × Nat) := runs joinsBothText

def joinsBeforeRuns : List (Nat × Nat) := runs joinsBeforeText

def joinsAfterRuns : List (Nat × Nat) := runs joinsAfterText

def passesRuns : List (Nat × Nat) := runs passesText

def viramaRuns : List (Nat × Nat) := runs viramaText

/-- The character joins with one after it. -/
def joinsAfter (n : Nat) : Bool := isIn joinsBothRuns n || isIn joinsAfterRuns n

/-- The character joins with one before it. -/
def joinsBefore (n : Nat) : Bool := isIn joinsBothRuns n || isIn joinsBeforeRuns n

def passes (n : Nat) : Bool := isIn passesRuns n

def isVirama (n : Nat) : Bool := isIn viramaRuns n

end PageRecords.Url.Domain
