/-!
# Table of composed characters

The data of Unicode 14 behind `HtmlTemplate.Text.compose` and `HtmlTemplate.Text.decompose`, as
rows of texts: records are set apart by blanks, and the code points of a record, written in base sixteen,
by points.
-/

namespace HtmlTemplate.Text

/-- Pairs of characters with the character that they compose. -/
def composedPairs : List String := [
  "41.300.c0 41.301.c1 41.302.c2 41.303.c3 41.308.c4 41.30a.c5 43.327.c7 45.300.c8 45.301.c9",
  "45.302.ca 45.308.cb 49.300.cc 49.301.cd 49.302.ce 49.308.cf 4e.303.d1 4f.300.d2 4f.301.d3",
  "4f.302.d4 4f.303.d5 4f.308.d6 55.300.d9 55.301.da 55.302.db 55.308.dc 59.301.dd 61.300.e0",
  "61.301.e1 61.302.e2 61.303.e3 61.308.e4 61.30a.e5 63.327.e7 65.300.e8 65.301.e9 65.302.ea",
  "65.308.eb 69.300.ec 69.301.ed 69.302.ee 69.308.ef 6e.303.f1 6f.300.f2 6f.301.f3 6f.302.f4",
  "6f.303.f5 6f.308.f6 75.300.f9 75.301.fa 75.302.fb 75.308.fc 79.301.fd 79.308.ff 41.304.100",
  "61.304.101 41.306.102 61.306.103 41.328.104 61.328.105 43.301.106 63.301.107 43.302.108",
  "63.302.109 43.307.10a 63.307.10b 43.30c.10c 63.30c.10d 44.30c.10e 64.30c.10f 45.304.112",
  "65.304.113 45.306.114 65.306.115 45.307.116 65.307.117 45.328.118 65.328.119 45.30c.11a",
  "65.30c.11b 47.302.11c 67.302.11d 47.306.11e 67.306.11f 47.307.120 67.307.121 47.327.122",
  "67.327.123 48.302.124 68.302.125 49.303.128 69.303.129 49.304.12a 69.304.12b 49.306.12c",
  "69.306.12d 49.328.12e 69.328.12f 49.307.130 4a.302.134 6a.302.135 4b.327.136 6b.327.137",
  "4c.301.139 6c.301.13a 4c.327.13b 6c.327.13c 4c.30c.13d 6c.30c.13e 4e.301.143 6e.301.144",
  "4e.327.145 6e.327.146 4e.30c.147 6e.30c.148 4f.304.14c 6f.304.14d 4f.306.14e 6f.306.14f",
  "4f.30b.150 6f.30b.151 52.301.154 72.301.155 52.327.156 72.327.157 52.30c.158 72.30c.159",
  "53.301.15a 73.301.15b 53.302.15c 73.302.15d 53.327.15e 73.327.15f 53.30c.160 73.30c.161",
  "54.327.162 74.327.163 54.30c.164 74.30c.165 55.303.168 75.303.169 55.304.16a 75.304.16b",
  "55.306.16c 75.306.16d 55.30a.16e 75.30a.16f 55.30b.170 75.30b.171 55.328.172 75.328.173",
  "57.302.174 77.302.175 59.302.176 79.302.177 59.308.178 5a.301.179 7a.301.17a 5a.307.17b",
  "7a.307.17c 5a.30c.17d 7a.30c.17e 4f.31b.1a0 6f.31b.1a1 55.31b.1af 75.31b.1b0 41.30c.1cd",
  "61.30c.1ce 49.30c.1cf 69.30c.1d0 4f.30c.1d1 6f.30c.1d2 55.30c.1d3 75.30c.1d4 dc.304.1d5",
  "fc.304.1d6 dc.301.1d7 fc.301.1d8 dc.30c.1d9 fc.30c.1da dc.300.1db fc.300.1dc c4.304.1de",
  "e4.304.1df 226.304.1e0 227.304.1e1 c6.304.1e2 e6.304.1e3 47.30c.1e6 67.30c.1e7 4b.30c.1e8",
  "6b.30c.1e9 4f.328.1ea 6f.328.1eb 1ea.304.1ec 1eb.304.1ed 1b7.30c.1ee 292.30c.1ef 6a.30c.1f0",
  "47.301.1f4 67.301.1f5 4e.300.1f8 6e.300.1f9 c5.301.1fa e5.301.1fb c6.301.1fc e6.301.1fd",
  "d8.301.1fe f8.301.1ff 41.30f.200 61.30f.201 41.311.202 61.311.203 45.30f.204 65.30f.205",
  "45.311.206 65.311.207 49.30f.208 69.30f.209 49.311.20a 69.311.20b 4f.30f.20c 6f.30f.20d",
  "4f.311.20e 6f.311.20f 52.30f.210 72.30f.211 52.311.212 72.311.213 55.30f.214 75.30f.215",
  "55.311.216 75.311.217 53.326.218 73.326.219 54.326.21a 74.326.21b 48.30c.21e 68.30c.21f",
  "41.307.226 61.307.227 45.327.228 65.327.229 d6.304.22a f6.304.22b d5.304.22c f5.304.22d",
  "4f.307.22e 6f.307.22f 22e.304.230 22f.304.231 59.304.232 79.304.233 a8.301.385 391.301.386",
  "395.301.388 397.301.389 399.301.38a 39f.301.38c 3a5.301.38e 3a9.301.38f 3ca.301.390 399.308.3aa",
  "3a5.308.3ab 3b1.301.3ac 3b5.301.3ad 3b7.301.3ae 3b9.301.3af 3cb.301.3b0 3b9.308.3ca 3c5.308.3cb",
  "3bf.301.3cc 3c5.301.3cd 3c9.301.3ce 3d2.301.3d3 3d2.308.3d4 415.300.400 415.308.401 413.301.403",
  "406.308.407 41a.301.40c 418.300.40d 423.306.40e 418.306.419 438.306.439 435.300.450 435.308.451",
  "433.301.453 456.308.457 43a.301.45c 438.300.45d 443.306.45e 474.30f.476 475.30f.477 416.306.4c1",
  "436.306.4c2 410.306.4d0 430.306.4d1 410.308.4d2 430.308.4d3 415.306.4d6 435.306.4d7 4d8.308.4da",
  "4d9.308.4db 416.308.4dc 436.308.4dd 417.308.4de 437.308.4df 418.304.4e2 438.304.4e3 418.308.4e4",
  "438.308.4e5 41e.308.4e6 43e.308.4e7 4e8.308.4ea 4e9.308.4eb 42d.308.4ec 44d.308.4ed 423.304.4ee",
  "443.304.4ef 423.308.4f0 443.308.4f1 423.30b.4f2 443.30b.4f3 427.308.4f4 447.308.4f5 42b.308.4f8",
  "44b.308.4f9 627.653.622 627.654.623 648.654.624 627.655.625 64a.654.626 6d5.654.6c0 6c1.654.6c2",
  "6d2.654.6d3 928.93c.929 930.93c.931 933.93c.934 9c7.9be.9cb 9c7.9d7.9cc b47.b56.b48 b47.b3e.b4b",
  "b47.b57.b4c b92.bd7.b94 bc6.bbe.bca bc7.bbe.bcb bc6.bd7.bcc c46.c56.c48 cbf.cd5.cc0 cc6.cd5.cc7",
  "cc6.cd6.cc8 cc6.cc2.cca cca.cd5.ccb d46.d3e.d4a d47.d3e.d4b d46.d57.d4c dd9.dca.dda dd9.dcf.ddc",
  "ddc.dca.ddd dd9.ddf.dde 1025.102e.1026 1b05.1b35.1b06 1b07.1b35.1b08 1b09.1b35.1b0a",
  "1b0b.1b35.1b0c 1b0d.1b35.1b0e 1b11.1b35.1b12 1b3a.1b35.1b3b 1b3c.1b35.1b3d 1b3e.1b35.1b40",
  "1b3f.1b35.1b41 1b42.1b35.1b43 41.325.1e00 61.325.1e01 42.307.1e02 62.307.1e03 42.323.1e04",
  "62.323.1e05 42.331.1e06 62.331.1e07 c7.301.1e08 e7.301.1e09 44.307.1e0a 64.307.1e0b 44.323.1e0c",
  "64.323.1e0d 44.331.1e0e 64.331.1e0f 44.327.1e10 64.327.1e11 44.32d.1e12 64.32d.1e13",
  "112.300.1e14 113.300.1e15 112.301.1e16 113.301.1e17 45.32d.1e18 65.32d.1e19 45.330.1e1a",
  "65.330.1e1b 228.306.1e1c 229.306.1e1d 46.307.1e1e 66.307.1e1f 47.304.1e20 67.304.1e21",
  "48.307.1e22 68.307.1e23 48.323.1e24 68.323.1e25 48.308.1e26 68.308.1e27 48.327.1e28 68.327.1e29",
  "48.32e.1e2a 68.32e.1e2b 49.330.1e2c 69.330.1e2d cf.301.1e2e ef.301.1e2f 4b.301.1e30 6b.301.1e31",
  "4b.323.1e32 6b.323.1e33 4b.331.1e34 6b.331.1e35 4c.323.1e36 6c.323.1e37 1e36.304.1e38",
  "1e37.304.1e39 4c.331.1e3a 6c.331.1e3b 4c.32d.1e3c 6c.32d.1e3d 4d.301.1e3e 6d.301.1e3f",
  "4d.307.1e40 6d.307.1e41 4d.323.1e42 6d.323.1e43 4e.307.1e44 6e.307.1e45 4e.323.1e46 6e.323.1e47",
  "4e.331.1e48 6e.331.1e49 4e.32d.1e4a 6e.32d.1e4b d5.301.1e4c f5.301.1e4d d5.308.1e4e f5.308.1e4f",
  "14c.300.1e50 14d.300.1e51 14c.301.1e52 14d.301.1e53 50.301.1e54 70.301.1e55 50.307.1e56",
  "70.307.1e57 52.307.1e58 72.307.1e59 52.323.1e5a 72.323.1e5b 1e5a.304.1e5c 1e5b.304.1e5d",
  "52.331.1e5e 72.331.1e5f 53.307.1e60 73.307.1e61 53.323.1e62 73.323.1e63 15a.307.1e64",
  "15b.307.1e65 160.307.1e66 161.307.1e67 1e62.307.1e68 1e63.307.1e69 54.307.1e6a 74.307.1e6b",
  "54.323.1e6c 74.323.1e6d 54.331.1e6e 74.331.1e6f 54.32d.1e70 74.32d.1e71 55.324.1e72 75.324.1e73",
  "55.330.1e74 75.330.1e75 55.32d.1e76 75.32d.1e77 168.301.1e78 169.301.1e79 16a.308.1e7a",
  "16b.308.1e7b 56.303.1e7c 76.303.1e7d 56.323.1e7e 76.323.1e7f 57.300.1e80 77.300.1e81",
  "57.301.1e82 77.301.1e83 57.308.1e84 77.308.1e85 57.307.1e86 77.307.1e87 57.323.1e88 77.323.1e89",
  "58.307.1e8a 78.307.1e8b 58.308.1e8c 78.308.1e8d 59.307.1e8e 79.307.1e8f 5a.302.1e90 7a.302.1e91",
  "5a.323.1e92 7a.323.1e93 5a.331.1e94 7a.331.1e95 68.331.1e96 74.308.1e97 77.30a.1e98 79.30a.1e99",
  "17f.307.1e9b 41.323.1ea0 61.323.1ea1 41.309.1ea2 61.309.1ea3 c2.301.1ea4 e2.301.1ea5",
  "c2.300.1ea6 e2.300.1ea7 c2.309.1ea8 e2.309.1ea9 c2.303.1eaa e2.303.1eab 1ea0.302.1eac",
  "1ea1.302.1ead 102.301.1eae 103.301.1eaf 102.300.1eb0 103.300.1eb1 102.309.1eb2 103.309.1eb3",
  "102.303.1eb4 103.303.1eb5 1ea0.306.1eb6 1ea1.306.1eb7 45.323.1eb8 65.323.1eb9 45.309.1eba",
  "65.309.1ebb 45.303.1ebc 65.303.1ebd ca.301.1ebe ea.301.1ebf ca.300.1ec0 ea.300.1ec1 ca.309.1ec2",
  "ea.309.1ec3 ca.303.1ec4 ea.303.1ec5 1eb8.302.1ec6 1eb9.302.1ec7 49.309.1ec8 69.309.1ec9",
  "49.323.1eca 69.323.1ecb 4f.323.1ecc 6f.323.1ecd 4f.309.1ece 6f.309.1ecf d4.301.1ed0 f4.301.1ed1",
  "d4.300.1ed2 f4.300.1ed3 d4.309.1ed4 f4.309.1ed5 d4.303.1ed6 f4.303.1ed7 1ecc.302.1ed8",
  "1ecd.302.1ed9 1a0.301.1eda 1a1.301.1edb 1a0.300.1edc 1a1.300.1edd 1a0.309.1ede 1a1.309.1edf",
  "1a0.303.1ee0 1a1.303.1ee1 1a0.323.1ee2 1a1.323.1ee3 55.323.1ee4 75.323.1ee5 55.309.1ee6",
  "75.309.1ee7 1af.301.1ee8 1b0.301.1ee9 1af.300.1eea 1b0.300.1eeb 1af.309.1eec 1b0.309.1eed",
  "1af.303.1eee 1b0.303.1eef 1af.323.1ef0 1b0.323.1ef1 59.300.1ef2 79.300.1ef3 59.323.1ef4",
  "79.323.1ef5 59.309.1ef6 79.309.1ef7 59.303.1ef8 79.303.1ef9 3b1.313.1f00 3b1.314.1f01",
  "1f00.300.1f02 1f01.300.1f03 1f00.301.1f04 1f01.301.1f05 1f00.342.1f06 1f01.342.1f07",
  "391.313.1f08 391.314.1f09 1f08.300.1f0a 1f09.300.1f0b 1f08.301.1f0c 1f09.301.1f0d 1f08.342.1f0e",
  "1f09.342.1f0f 3b5.313.1f10 3b5.314.1f11 1f10.300.1f12 1f11.300.1f13 1f10.301.1f14 1f11.301.1f15",
  "395.313.1f18 395.314.1f19 1f18.300.1f1a 1f19.300.1f1b 1f18.301.1f1c 1f19.301.1f1d 3b7.313.1f20",
  "3b7.314.1f21 1f20.300.1f22 1f21.300.1f23 1f20.301.1f24 1f21.301.1f25 1f20.342.1f26",
  "1f21.342.1f27 397.313.1f28 397.314.1f29 1f28.300.1f2a 1f29.300.1f2b 1f28.301.1f2c 1f29.301.1f2d",
  "1f28.342.1f2e 1f29.342.1f2f 3b9.313.1f30 3b9.314.1f31 1f30.300.1f32 1f31.300.1f33 1f30.301.1f34",
  "1f31.301.1f35 1f30.342.1f36 1f31.342.1f37 399.313.1f38 399.314.1f39 1f38.300.1f3a 1f39.300.1f3b",
  "1f38.301.1f3c 1f39.301.1f3d 1f38.342.1f3e 1f39.342.1f3f 3bf.313.1f40 3bf.314.1f41 1f40.300.1f42",
  "1f41.300.1f43 1f40.301.1f44 1f41.301.1f45 39f.313.1f48 39f.314.1f49 1f48.300.1f4a 1f49.300.1f4b",
  "1f48.301.1f4c 1f49.301.1f4d 3c5.313.1f50 3c5.314.1f51 1f50.300.1f52 1f51.300.1f53 1f50.301.1f54",
  "1f51.301.1f55 1f50.342.1f56 1f51.342.1f57 3a5.314.1f59 1f59.300.1f5b 1f59.301.1f5d",
  "1f59.342.1f5f 3c9.313.1f60 3c9.314.1f61 1f60.300.1f62 1f61.300.1f63 1f60.301.1f64 1f61.301.1f65",
  "1f60.342.1f66 1f61.342.1f67 3a9.313.1f68 3a9.314.1f69 1f68.300.1f6a 1f69.300.1f6b 1f68.301.1f6c",
  "1f69.301.1f6d 1f68.342.1f6e 1f69.342.1f6f 3b1.300.1f70 3b5.300.1f72 3b7.300.1f74 3b9.300.1f76",
  "3bf.300.1f78 3c5.300.1f7a 3c9.300.1f7c 1f00.345.1f80 1f01.345.1f81 1f02.345.1f82 1f03.345.1f83",
  "1f04.345.1f84 1f05.345.1f85 1f06.345.1f86 1f07.345.1f87 1f08.345.1f88 1f09.345.1f89",
  "1f0a.345.1f8a 1f0b.345.1f8b 1f0c.345.1f8c 1f0d.345.1f8d 1f0e.345.1f8e 1f0f.345.1f8f",
  "1f20.345.1f90 1f21.345.1f91 1f22.345.1f92 1f23.345.1f93 1f24.345.1f94 1f25.345.1f95",
  "1f26.345.1f96 1f27.345.1f97 1f28.345.1f98 1f29.345.1f99 1f2a.345.1f9a 1f2b.345.1f9b",
  "1f2c.345.1f9c 1f2d.345.1f9d 1f2e.345.1f9e 1f2f.345.1f9f 1f60.345.1fa0 1f61.345.1fa1",
  "1f62.345.1fa2 1f63.345.1fa3 1f64.345.1fa4 1f65.345.1fa5 1f66.345.1fa6 1f67.345.1fa7",
  "1f68.345.1fa8 1f69.345.1fa9 1f6a.345.1faa 1f6b.345.1fab 1f6c.345.1fac 1f6d.345.1fad",
  "1f6e.345.1fae 1f6f.345.1faf 3b1.306.1fb0 3b1.304.1fb1 1f70.345.1fb2 3b1.345.1fb3 3ac.345.1fb4",
  "3b1.342.1fb6 1fb6.345.1fb7 391.306.1fb8 391.304.1fb9 391.300.1fba 391.345.1fbc a8.342.1fc1",
  "1f74.345.1fc2 3b7.345.1fc3 3ae.345.1fc4 3b7.342.1fc6 1fc6.345.1fc7 395.300.1fc8 397.300.1fca",
  "397.345.1fcc 1fbf.300.1fcd 1fbf.301.1fce 1fbf.342.1fcf 3b9.306.1fd0 3b9.304.1fd1 3ca.300.1fd2",
  "3b9.342.1fd6 3ca.342.1fd7 399.306.1fd8 399.304.1fd9 399.300.1fda 1ffe.300.1fdd 1ffe.301.1fde",
  "1ffe.342.1fdf 3c5.306.1fe0 3c5.304.1fe1 3cb.300.1fe2 3c1.313.1fe4 3c1.314.1fe5 3c5.342.1fe6",
  "3cb.342.1fe7 3a5.306.1fe8 3a5.304.1fe9 3a5.300.1fea 3a1.314.1fec a8.300.1fed 1f7c.345.1ff2",
  "3c9.345.1ff3 3ce.345.1ff4 3c9.342.1ff6 1ff6.345.1ff7 39f.300.1ff8 3a9.300.1ffa 3a9.345.1ffc",
  "2190.338.219a 2192.338.219b 2194.338.21ae 21d0.338.21cd 21d4.338.21ce 21d2.338.21cf",
  "2203.338.2204 2208.338.2209 220b.338.220c 2223.338.2224 2225.338.2226 223c.338.2241",
  "2243.338.2244 2245.338.2247 2248.338.2249 3d.338.2260 2261.338.2262 224d.338.226d 3c.338.226e",
  "3e.338.226f 2264.338.2270 2265.338.2271 2272.338.2274 2273.338.2275 2276.338.2278 2277.338.2279",
  "227a.338.2280 227b.338.2281 2282.338.2284 2283.338.2285 2286.338.2288 2287.338.2289",
  "22a2.338.22ac 22a8.338.22ad 22a9.338.22ae 22ab.338.22af 227c.338.22e0 227d.338.22e1",
  "2291.338.22e2 2292.338.22e3 22b2.338.22ea 22b3.338.22eb 22b4.338.22ec 22b5.338.22ed",
  "304b.3099.304c 304d.3099.304e 304f.3099.3050 3051.3099.3052 3053.3099.3054 3055.3099.3056",
  "3057.3099.3058 3059.3099.305a 305b.3099.305c 305d.3099.305e 305f.3099.3060 3061.3099.3062",
  "3064.3099.3065 3066.3099.3067 3068.3099.3069 306f.3099.3070 306f.309a.3071 3072.3099.3073",
  "3072.309a.3074 3075.3099.3076 3075.309a.3077 3078.3099.3079 3078.309a.307a 307b.3099.307c",
  "307b.309a.307d 3046.3099.3094 309d.3099.309e 30ab.3099.30ac 30ad.3099.30ae 30af.3099.30b0",
  "30b1.3099.30b2 30b3.3099.30b4 30b5.3099.30b6 30b7.3099.30b8 30b9.3099.30ba 30bb.3099.30bc",
  "30bd.3099.30be 30bf.3099.30c0 30c1.3099.30c2 30c4.3099.30c5 30c6.3099.30c7 30c8.3099.30c9",
  "30cf.3099.30d0 30cf.309a.30d1 30d2.3099.30d3 30d2.309a.30d4 30d5.3099.30d6 30d5.309a.30d7",
  "30d8.3099.30d9 30d8.309a.30da 30db.3099.30dc 30db.309a.30dd 30a6.3099.30f4 30ef.3099.30f7",
  "30f0.3099.30f8 30f1.3099.30f9 30f2.3099.30fa 30fd.3099.30fe 11099.110ba.1109a 1109b.110ba.1109c",
  "110a5.110ba.110ab 11131.11127.1112e 11132.11127.1112f 11347.1133e.1134b 11347.11357.1134c",
  "114b9.114ba.114bb 114b9.114b0.114bc 114b9.114bd.114be 115b8.115af.115ba 115b9.115af.115bb",
  "11935.11930.11938"]

/-- Runs of characters that stand for plainer ones: the first, its plain form and the length. -/
def plainRuns : List String := [
  "aa.61.1 b5.3bc.1 ba.6f.1 17f.73.1 2b0.68.1 2b1.266.1 2b2.6a.1 2b3.72.1 2b4.279.1 2b5.27b.1",
  "2b6.281.1 2b7.77.1 2b8.79.1 2e0.263.1 2e1.6c.1 2e2.73.1 2e3.78.1 2e4.295.1 340.300.2 343.313.1",
  "374.2b9.1 387.b7.1 3d0.3b2.1 3d1.3b8.1 3d2.3a5.1 3d5.3c6.1 3d6.3c0.1 3f0.3ba.1 3f1.3c1.2",
  "3f4.398.1 3f5.3b5.1 3f9.3a3.1 10fc.10dc.1 1d2c.41.1 1d2d.c6.1 1d2e.42.1 1d30.44.2 1d32.18e.1",
  "1d33.47.8 1d3c.4f.1 1d3d.222.1 1d3e.50.1 1d3f.52.1 1d40.54.2 1d42.57.1 1d43.61.1 1d44.250.2",
  "1d46.1d02.1 1d47.62.1 1d48.64.2 1d4a.259.1 1d4b.25b.2 1d4d.67.1 1d4f.6b.1 1d50.6d.1 1d51.14b.1",
  "1d52.6f.1 1d53.254.1 1d54.1d16.2 1d56.70.1 1d57.74.2 1d59.1d1d.1 1d5a.26f.1 1d5b.76.1",
  "1d5c.1d25.1 1d5d.3b2.3 1d60.3c6.2 1d62.69.1 1d63.72.1 1d64.75.2 1d66.3b2.2 1d68.3c1.1",
  "1d69.3c6.2 1d78.43d.1 1d9b.252.1 1d9c.63.1 1d9d.255.1 1d9e.f0.1 1d9f.25c.1 1da0.66.1 1da1.25f.1",
  "1da2.261.1 1da3.265.1 1da4.268.3 1da7.1d7b.1 1da8.29d.1 1da9.26d.1 1daa.1d85.1 1dab.29f.1",
  "1dac.271.1 1dad.270.1 1dae.272.4 1db2.278.1 1db3.282.2 1db5.1ab.1 1db6.289.2 1db8.1d1c.1",
  "1db9.28b.2 1dbb.7a.1 1dbc.290.3 1dbf.3b8.1 1fbe.3b9.1 2071.69.1 207f.6e.1 2090.61.1 2091.65.1",
  "2092.6f.1 2093.78.1 2094.259.1 2095.68.1 2096.6b.4 209a.70.1 209b.73.2 2102.43.1 2107.190.1",
  "210a.67.1 210b.48.1 210c.48.1 210d.48.1 210e.68.1 210f.127.1 2110.49.1 2111.49.1 2112.4c.1",
  "2113.6c.1 2115.4e.1 2119.50.3 211c.52.1 211d.52.1 2124.5a.1 2126.3a9.1 2128.5a.1 212a.4b.1",
  "212c.42.2 212f.65.1 2130.45.2 2133.4d.1 2134.6f.1 2135.5d0.4 2139.69.1 213c.3c0.1 213d.3b3.1",
  "213e.393.1 213f.3a0.1 2145.44.1 2146.64.2 2148.69.2 2160.49.1 2164.56.1 2169.58.1 216c.4c.1",
  "216d.43.2 216f.4d.1 2170.69.1 2174.76.1 2179.78.1 217c.6c.1 217d.63.2 217f.6d.1 2c7c.6a.1",
  "2c7d.56.1 2d6f.2d61.1 3038.5341.1 3039.5344.2 3131.1100.2 3133.11aa.1 3134.1102.1 3135.11ac.2",
  "3137.1103.3 313a.11b0.6 3140.111a.1 3141.1106.3 3144.1121.1 3145.1109.a 314f.1161.15",
  "3164.1160.1 3165.1114.2 3167.11c7.2 3169.11cc.1 316a.11ce.1 316b.11d3.1 316c.11d7.1 316d.11d9.1",
  "316e.111c.1 316f.11dd.1 3170.11df.1 3171.111d.2 3173.1120.1 3174.1122.2 3176.1127.1 3177.1129.1",
  "3178.112b.5 317d.1132.1 317e.1136.1 317f.1140.1 3180.1147.1 3181.114c.1 3182.11f1.2 3184.1157.3",
  "3187.1184.2 3189.1188.1 318a.1191.2 318c.1194.1 318d.119e.1 318e.11a1.1 a69c.44a.1 a69d.44c.1",
  "a770.a76f.1 a7f2.43.1 a7f3.46.1 a7f4.51.1 a7f8.126.1 a7f9.153.1 ab5c.a727.1 ab5d.ab37.1",
  "ab5e.26b.1 ab5f.ab52.1 ab69.28d.1 f900.8c48.1 f901.66f4.1 f902.8eca.1 f903.8cc8.1 f904.6ed1.1",
  "f905.4e32.1 f906.53e5.1 f907.9f9c.1 f908.9f9c.1 f909.5951.1 f90a.91d1.1 f90b.5587.1 f90c.5948.1",
  "f90d.61f6.1 f90e.7669.1 f90f.7f85.1 f910.863f.1 f911.87ba.1 f912.88f8.1 f913.908f.1 f914.6a02.1",
  "f915.6d1b.1 f916.70d9.1 f917.73de.1 f918.843d.1 f919.916a.1 f91a.99f1.1 f91b.4e82.1 f91c.5375.1",
  "f91d.6b04.1 f91e.721b.1 f91f.862d.1 f920.9e1e.1 f921.5d50.1 f922.6feb.1 f923.85cd.1 f924.8964.1",
  "f925.62c9.1 f926.81d8.1 f927.881f.1 f928.5eca.1 f929.6717.1 f92a.6d6a.1 f92b.72fc.1 f92c.90ce.1",
  "f92d.4f86.1 f92e.51b7.1 f92f.52de.1 f930.64c4.1 f931.6ad3.1 f932.7210.1 f933.76e7.1 f934.8001.1",
  "f935.8606.1 f936.865c.1 f937.8def.1 f938.9732.1 f939.9b6f.1 f93a.9dfa.1 f93b.788c.1 f93c.797f.1",
  "f93d.7da0.1 f93e.83c9.1 f93f.9304.1 f940.9e7f.1 f941.8ad6.1 f942.58df.1 f943.5f04.1 f944.7c60.1",
  "f945.807e.1 f946.7262.1 f947.78ca.1 f948.8cc2.1 f949.96f7.1 f94a.58d8.1 f94b.5c62.1 f94c.6a13.1",
  "f94d.6dda.1 f94e.6f0f.1 f94f.7d2f.1 f950.7e37.1 f951.964b.1 f952.52d2.1 f953.808b.1 f954.51dc.1",
  "f955.51cc.1 f956.7a1c.1 f957.7dbe.1 f958.83f1.1 f959.9675.1 f95a.8b80.1 f95b.62cf.1 f95c.6a02.1",
  "f95d.8afe.1 f95e.4e39.1 f95f.5be7.1 f960.6012.1 f961.7387.1 f962.7570.1 f963.5317.1 f964.78fb.1",
  "f965.4fbf.1 f966.5fa9.1 f967.4e0d.1 f968.6ccc.1 f969.6578.1 f96a.7d22.1 f96b.53c3.1 f96c.585e.1",
  "f96d.7701.1 f96e.8449.1 f96f.8aaa.1 f970.6bba.1 f971.8fb0.1 f972.6c88.1 f973.62fe.1 f974.82e5.1",
  "f975.63a0.1 f976.7565.1 f977.4eae.1 f978.5169.1 f979.51c9.1 f97a.6881.1 f97b.7ce7.1 f97c.826f.1",
  "f97d.8ad2.1 f97e.91cf.1 f97f.52f5.1 f980.5442.1 f981.5973.1 f982.5eec.1 f983.65c5.1 f984.6ffe.1",
  "f985.792a.1 f986.95ad.1 f987.9a6a.1 f988.9e97.1 f989.9ece.1 f98a.529b.1 f98b.66c6.1 f98c.6b77.1",
  "f98d.8f62.1 f98e.5e74.1 f98f.6190.1 f990.6200.1 f991.649a.1 f992.6f23.1 f993.7149.1 f994.7489.1",
  "f995.79ca.1 f996.7df4.1 f997.806f.1 f998.8f26.1 f999.84ee.1 f99a.9023.1 f99b.934a.1 f99c.5217.1",
  "f99d.52a3.1 f99e.54bd.1 f99f.70c8.1 f9a0.88c2.1 f9a1.8aaa.1 f9a2.5ec9.1 f9a3.5ff5.1 f9a4.637b.1",
  "f9a5.6bae.1 f9a6.7c3e.1 f9a7.7375.1 f9a8.4ee4.1 f9a9.56f9.1 f9aa.5be7.1 f9ab.5dba.1 f9ac.601c.1",
  "f9ad.73b2.1 f9ae.7469.1 f9af.7f9a.1 f9b0.8046.1 f9b1.9234.1 f9b2.96f6.1 f9b3.9748.1 f9b4.9818.1",
  "f9b5.4f8b.1 f9b6.79ae.1 f9b7.91b4.1 f9b8.96b8.1 f9b9.60e1.1 f9ba.4e86.1 f9bb.50da.1 f9bc.5bee.1",
  "f9bd.5c3f.1 f9be.6599.1 f9bf.6a02.1 f9c0.71ce.1 f9c1.7642.1 f9c2.84fc.1 f9c3.907c.1 f9c4.9f8d.1",
  "f9c5.6688.1 f9c6.962e.1 f9c7.5289.1 f9c8.677b.1 f9c9.67f3.1 f9ca.6d41.1 f9cb.6e9c.1 f9cc.7409.1",
  "f9cd.7559.1 f9ce.786b.1 f9cf.7d10.1 f9d0.985e.1 f9d1.516d.1 f9d2.622e.1 f9d3.9678.1 f9d4.502b.1",
  "f9d5.5d19.1 f9d6.6dea.1 f9d7.8f2a.1 f9d8.5f8b.1 f9d9.6144.1 f9da.6817.1 f9db.7387.1 f9dc.9686.1",
  "f9dd.5229.1 f9de.540f.1 f9df.5c65.1 f9e0.6613.1 f9e1.674e.1 f9e2.68a8.1 f9e3.6ce5.1 f9e4.7406.1",
  "f9e5.75e2.1 f9e6.7f79.1 f9e7.88cf.1 f9e8.88e1.1 f9e9.91cc.1 f9ea.96e2.1 f9eb.533f.1 f9ec.6eba.1",
  "f9ed.541d.1 f9ee.71d0.1 f9ef.7498.1 f9f0.85fa.1 f9f1.96a3.1 f9f2.9c57.1 f9f3.9e9f.1 f9f4.6797.1",
  "f9f5.6dcb.1 f9f6.81e8.1 f9f7.7acb.1 f9f8.7b20.1 f9f9.7c92.1 f9fa.72c0.1 f9fb.7099.1 f9fc.8b58.1",
  "f9fd.4ec0.1 f9fe.8336.1 f9ff.523a.1 fa00.5207.1 fa01.5ea6.1 fa02.62d3.1 fa03.7cd6.1 fa04.5b85.1",
  "fa05.6d1e.1 fa06.66b4.1 fa07.8f3b.1 fa08.884c.1 fa09.964d.1 fa0a.898b.1 fa0b.5ed3.1 fa0c.5140.1",
  "fa0d.55c0.1 fa10.585a.1 fa12.6674.1 fa15.51de.1 fa16.732a.1 fa17.76ca.1 fa18.793c.1 fa19.795e.1",
  "fa1a.7965.1 fa1b.798f.1 fa1c.9756.1 fa1d.7cbe.1 fa1e.7fbd.1 fa20.8612.1 fa22.8af8.1 fa25.9038.1",
  "fa26.90fd.1 fa2a.98ef.1 fa2b.98fc.1 fa2c.9928.1 fa2d.9db4.1 fa2e.90de.1 fa2f.96b7.1 fa30.4fae.1",
  "fa31.50e7.1 fa32.514d.1 fa33.52c9.1 fa34.52e4.1 fa35.5351.1 fa36.559d.1 fa37.5606.1 fa38.5668.1",
  "fa39.5840.1 fa3a.58a8.1 fa3b.5c64.1 fa3c.5c6e.1 fa3d.6094.1 fa3e.6168.1 fa3f.618e.1 fa40.61f2.1",
  "fa41.654f.1 fa42.65e2.1 fa43.6691.1 fa44.6885.1 fa45.6d77.1 fa46.6e1a.1 fa47.6f22.1 fa48.716e.1",
  "fa49.722b.1 fa4a.7422.1 fa4b.7891.1 fa4c.793e.1 fa4d.7949.1 fa4e.7948.1 fa4f.7950.1 fa50.7956.1",
  "fa51.795d.1 fa52.798d.2 fa54.7a40.1 fa55.7a81.1 fa56.7bc0.1 fa57.7df4.1 fa58.7e09.1 fa59.7e41.1",
  "fa5a.7f72.1 fa5b.8005.1 fa5c.81ed.1 fa5d.8279.1 fa5e.8279.1 fa5f.8457.1 fa60.8910.1 fa61.8996.1",
  "fa62.8b01.1 fa63.8b39.1 fa64.8cd3.1 fa65.8d08.1 fa66.8fb6.1 fa67.9038.1 fa68.96e3.1 fa69.97ff.1",
  "fa6a.983b.1 fa6b.6075.1 fa6c.242ee.1 fa6d.8218.1 fa70.4e26.1 fa71.51b5.1 fa72.5168.1",
  "fa73.4f80.1 fa74.5145.1 fa75.5180.1 fa76.52c7.1 fa77.52fa.1 fa78.559d.1 fa79.5555.1 fa7a.5599.1",
  "fa7b.55e2.1 fa7c.585a.1 fa7d.58b3.1 fa7e.5944.1 fa7f.5954.1 fa80.5a62.1 fa81.5b28.1 fa82.5ed2.1",
  "fa83.5ed9.1 fa84.5f69.1 fa85.5fad.1 fa86.60d8.1 fa87.614e.1 fa88.6108.1 fa89.618e.1 fa8a.6160.1",
  "fa8b.61f2.1 fa8c.6234.1 fa8d.63c4.1 fa8e.641c.1 fa8f.6452.1 fa90.6556.1 fa91.6674.1 fa92.6717.1",
  "fa93.671b.1 fa94.6756.1 fa95.6b79.1 fa96.6bba.1 fa97.6d41.1 fa98.6edb.1 fa99.6ecb.1 fa9a.6f22.1",
  "fa9b.701e.1 fa9c.716e.1 fa9d.77a7.1 fa9e.7235.1 fa9f.72af.1 faa0.732a.1 faa1.7471.1 faa2.7506.1",
  "faa3.753b.1 faa4.761d.1 faa5.761f.1 faa6.76ca.1 faa7.76db.1 faa8.76f4.1 faa9.774a.1 faaa.7740.1",
  "faab.78cc.1 faac.7ab1.1 faad.7bc0.1 faae.7c7b.1 faaf.7d5b.1 fab0.7df4.1 fab1.7f3e.1 fab2.8005.1",
  "fab3.8352.1 fab4.83ef.1 fab5.8779.1 fab6.8941.1 fab7.8986.1 fab8.8996.1 fab9.8abf.1 faba.8af8.1",
  "fabb.8acb.1 fabc.8b01.1 fabd.8afe.1 fabe.8aed.1 fabf.8b39.1 fac0.8b8a.1 fac1.8d08.1 fac2.8f38.1",
  "fac3.9072.1 fac4.9199.1 fac5.9276.1 fac6.967c.1 fac7.96e3.1 fac8.9756.1 fac9.97db.1 faca.97ff.1",
  "facb.980b.1 facc.983b.1 facd.9b12.1 face.9f9c.1 facf.2284a.1 fad0.22844.1 fad1.233d5.1",
  "fad2.3b9d.1 fad3.4018.1 fad4.4039.1 fad5.25249.1 fad6.25cd0.1 fad7.27ed3.1 fad8.9f43.1",
  "fad9.9f8e.1 fb20.5e2.1 fb21.5d0.1 fb22.5d3.2 fb24.5db.3 fb27.5e8.1 fb28.5ea.1 fb50.671.1",
  "fb51.671.1 fb52.67b.1 fb53.67b.1 fb54.67b.1 fb55.67b.1 fb56.67e.1 fb57.67e.1 fb58.67e.1",
  "fb59.67e.1 fb5a.680.1 fb5b.680.1 fb5c.680.1 fb5d.680.1 fb5e.67a.1 fb5f.67a.1 fb60.67a.1",
  "fb61.67a.1 fb62.67f.1 fb63.67f.1 fb64.67f.1 fb65.67f.1 fb66.679.1 fb67.679.1 fb68.679.1",
  "fb69.679.1 fb6a.6a4.1 fb6b.6a4.1 fb6c.6a4.1 fb6d.6a4.1 fb6e.6a6.1 fb6f.6a6.1 fb70.6a6.1",
  "fb71.6a6.1 fb72.684.1 fb73.684.1 fb74.684.1 fb75.684.1 fb76.683.1 fb77.683.1 fb78.683.1",
  "fb79.683.1 fb7a.686.1 fb7b.686.1 fb7c.686.1 fb7d.686.2 fb7f.687.1 fb80.687.1 fb81.687.1",
  "fb82.68d.1 fb83.68d.1 fb84.68c.1 fb85.68c.1 fb86.68e.1 fb87.68e.1 fb88.688.1 fb89.688.1",
  "fb8a.698.1 fb8b.698.1 fb8c.691.1 fb8d.691.1 fb8e.6a9.1 fb8f.6a9.1 fb90.6a9.1 fb91.6a9.1",
  "fb92.6af.1 fb93.6af.1 fb94.6af.1 fb95.6af.1 fb96.6b3.1 fb97.6b3.1 fb98.6b3.1 fb99.6b3.1",
  "fb9a.6b1.1 fb9b.6b1.1 fb9c.6b1.1 fb9d.6b1.1 fb9e.6ba.1 fb9f.6ba.2 fba1.6bb.1 fba2.6bb.1",
  "fba3.6bb.1 fba6.6c1.1 fba7.6c1.1 fba8.6c1.1 fba9.6c1.1 fbaa.6be.1 fbab.6be.1 fbac.6be.1",
  "fbad.6be.1 fbae.6d2.1 fbaf.6d2.1 fbd3.6ad.1 fbd4.6ad.1 fbd5.6ad.1 fbd6.6ad.1 fbd7.6c7.1",
  "fbd8.6c7.1 fbd9.6c6.1 fbda.6c6.1 fbdb.6c8.1 fbdc.6c8.1 fbde.6cb.1 fbdf.6cb.1 fbe0.6c5.1",
  "fbe1.6c5.1 fbe2.6c9.1 fbe3.6c9.1 fbe4.6d0.1 fbe5.6d0.1 fbe6.6d0.1 fbe7.6d0.1 fbe8.649.1",
  "fbe9.649.1 fbfc.6cc.1 fbfd.6cc.1 fbfe.6cc.1 fbff.6cc.1 fe33.5f.1 fe34.5f.1 fe4d.5f.1 fe4e.5f.1",
  "fe4f.5f.1 fe80.621.1 fe8d.627.1 fe8e.627.2 fe90.628.1 fe91.628.1 fe92.628.2 fe94.629.2",
  "fe96.62a.1 fe97.62a.1 fe98.62a.2 fe9a.62b.1 fe9b.62b.1 fe9c.62b.2 fe9e.62c.1 fe9f.62c.1",
  "fea0.62c.2 fea2.62d.1 fea3.62d.1 fea4.62d.2 fea6.62e.1 fea7.62e.1 fea8.62e.2 feaa.62f.2",
  "feac.630.2 feae.631.2 feb0.632.2 feb2.633.1 feb3.633.1 feb4.633.2 feb6.634.1 feb7.634.1",
  "feb8.634.2 feba.635.1 febb.635.1 febc.635.2 febe.636.1 febf.636.1 fec0.636.2 fec2.637.1",
  "fec3.637.1 fec4.637.2 fec6.638.1 fec7.638.1 fec8.638.2 feca.639.1 fecb.639.1 fecc.639.2",
  "fece.63a.1 fecf.63a.1 fed0.63a.1 fed1.641.1 fed2.641.1 fed3.641.1 fed4.641.2 fed6.642.1",
  "fed7.642.1 fed8.642.2 feda.643.1 fedb.643.1 fedc.643.2 fede.644.1 fedf.644.1 fee0.644.2",
  "fee2.645.1 fee3.645.1 fee4.645.2 fee6.646.1 fee7.646.1 fee8.646.2 feea.647.1 feeb.647.1",
  "feec.647.2 feee.648.2 fef0.649.2 fef2.64a.1 fef3.64a.1 fef4.64a.1 ff10.30.a ff21.41.1a",
  "ff3f.5f.1 ff41.61.1a ff66.30f2.1 ff67.30a1.1 ff68.30a3.1 ff69.30a5.1 ff6a.30a7.1 ff6b.30a9.1",
  "ff6c.30e3.1 ff6d.30e5.1 ff6e.30e7.1 ff6f.30c3.1 ff70.30fc.1 ff71.30a2.1 ff72.30a4.1 ff73.30a6.1",
  "ff74.30a8.1 ff75.30aa.2 ff77.30ad.1 ff78.30af.1 ff79.30b1.1 ff7a.30b3.1 ff7b.30b5.1 ff7c.30b7.1",
  "ff7d.30b9.1 ff7e.30bb.1 ff7f.30bd.1 ff80.30bf.1 ff81.30c1.1 ff82.30c4.1 ff83.30c6.1 ff84.30c8.1",
  "ff85.30ca.6 ff8b.30d2.1 ff8c.30d5.1 ff8d.30d8.1 ff8e.30db.1 ff8f.30de.5 ff94.30e4.1 ff95.30e6.1",
  "ff96.30e8.6 ff9c.30ef.1 ff9d.30f3.1 ff9e.3099.2 ffa0.1160.1 ffa1.1100.2 ffa3.11aa.1 ffa4.1102.1",
  "ffa5.11ac.2 ffa7.1103.3 ffaa.11b0.6 ffb0.111a.1 ffb1.1106.3 ffb4.1121.1 ffb5.1109.a ffc2.1161.6",
  "ffca.1167.6 ffd2.116d.6 ffda.1173.3 10781.2d0.2 10783.e6.1 10784.299.1 10785.253.1 10787.2a3.1",
  "10788.ab66.1 10789.2a5.1 1078a.2a4.1 1078b.256.2 1078d.1d91.1 1078e.258.1 1078f.25e.1",
  "10790.2a9.1 10791.264.1 10792.262.1 10793.260.1 10794.29b.1 10795.127.1 10796.29c.1 10797.267.1",
  "10798.284.1 10799.2aa.2 1079b.26c.1 1079c.1df04.1 1079d.a78e.1 1079e.26e.1 1079f.1df05.1",
  "107a0.28e.1 107a1.1df06.1 107a2.f8.1 107a3.276.2 107a5.71.1 107a6.27a.1 107a7.1df08.1",
  "107a8.27d.2 107aa.280.1 107ab.2a8.1 107ac.2a6.1 107ad.ab67.1 107ae.2a7.1 107af.288.1",
  "107b0.2c71.1 107b2.28f.1 107b3.2a1.2 107b5.298.1 107b6.1c0.3 107b9.1df0a.1 107ba.1df1e.1",
  "1d400.41.1a 1d41a.61.1a 1d434.41.1a 1d44e.61.7 1d456.69.12 1d468.41.1a 1d482.61.1a 1d49c.41.1",
  "1d49e.43.2 1d4a2.47.1 1d4a5.4a.2 1d4a9.4e.4 1d4ae.53.8 1d4b6.61.4 1d4bb.66.1 1d4bd.68.7",
  "1d4c5.70.b 1d4d0.41.1a 1d4ea.61.1a 1d504.41.2 1d507.44.4 1d50d.4a.8 1d516.53.7 1d51e.61.1a",
  "1d538.41.2 1d53b.44.4 1d540.49.5 1d546.4f.1 1d54a.53.7 1d552.61.1a 1d56c.41.1a 1d586.61.1a",
  "1d5a0.41.1a 1d5ba.61.1a 1d5d4.41.1a 1d5ee.61.1a 1d608.41.1a 1d622.61.1a 1d63c.41.1a 1d656.61.1a",
  "1d670.41.1a 1d68a.61.1a 1d6a4.131.1 1d6a5.237.1 1d6a8.391.11 1d6b9.398.1 1d6ba.3a3.7",
  "1d6c2.3b1.19 1d6dc.3b5.1 1d6dd.3b8.1 1d6de.3ba.1 1d6df.3c6.1 1d6e0.3c1.1 1d6e1.3c0.1",
  "1d6e2.391.11 1d6f3.398.1 1d6f4.3a3.7 1d6fc.3b1.19 1d716.3b5.1 1d717.3b8.1 1d718.3ba.1",
  "1d719.3c6.1 1d71a.3c1.1 1d71b.3c0.1 1d71c.391.11 1d72d.398.1 1d72e.3a3.7 1d736.3b1.19",
  "1d750.3b5.1 1d751.3b8.1 1d752.3ba.1 1d753.3c6.1 1d754.3c1.1 1d755.3c0.1 1d756.391.11",
  "1d767.398.1 1d768.3a3.7 1d770.3b1.19 1d78a.3b5.1 1d78b.3b8.1 1d78c.3ba.1 1d78d.3c6.1",
  "1d78e.3c1.1 1d78f.3c0.1 1d790.391.11 1d7a1.398.1 1d7a2.3a3.7 1d7aa.3b1.19 1d7c4.3b5.1",
  "1d7c5.3b8.1 1d7c6.3ba.1 1d7c7.3c6.1 1d7c8.3c1.1 1d7c9.3c0.1 1d7ca.3dc.2 1d7ce.30.a 1d7d8.30.a",
  "1d7e2.30.a 1d7ec.30.a 1d7f6.30.a 1ee00.627.2 1ee02.62c.1 1ee03.62f.1 1ee05.648.1 1ee06.632.1",
  "1ee07.62d.1 1ee08.637.1 1ee09.64a.1 1ee0a.643.4 1ee0e.633.1 1ee0f.639.1 1ee10.641.1 1ee11.635.1",
  "1ee12.642.1 1ee13.631.1 1ee14.634.1 1ee15.62a.2 1ee17.62e.1 1ee18.630.1 1ee19.636.1 1ee1a.638.1",
  "1ee1b.63a.1 1ee1c.66e.1 1ee1d.6ba.1 1ee1e.6a1.1 1ee1f.66f.1 1ee21.628.1 1ee22.62c.1 1ee24.647.1",
  "1ee27.62d.1 1ee29.64a.1 1ee2a.643.4 1ee2e.633.1 1ee2f.639.1 1ee30.641.1 1ee31.635.1 1ee32.642.1",
  "1ee34.634.1 1ee35.62a.2 1ee37.62e.1 1ee39.636.1 1ee3b.63a.1 1ee42.62c.1 1ee47.62d.1 1ee49.64a.1",
  "1ee4b.644.1 1ee4d.646.1 1ee4e.633.1 1ee4f.639.1 1ee51.635.1 1ee52.642.1 1ee54.634.1 1ee57.62e.1",
  "1ee59.636.1 1ee5b.63a.1 1ee5d.6ba.1 1ee5f.66f.1 1ee61.628.1 1ee62.62c.1 1ee64.647.1 1ee67.62d.1",
  "1ee68.637.1 1ee69.64a.1 1ee6a.643.1 1ee6c.645.2 1ee6e.633.1 1ee6f.639.1 1ee70.641.1 1ee71.635.1",
  "1ee72.642.1 1ee74.634.1 1ee75.62a.2 1ee77.62e.1 1ee79.636.1 1ee7a.638.1 1ee7b.63a.1 1ee7c.66e.1",
  "1ee7e.6a1.1 1ee80.627.2 1ee82.62c.1 1ee83.62f.1 1ee84.647.2 1ee86.632.1 1ee87.62d.1 1ee88.637.1",
  "1ee89.64a.1 1ee8b.644.3 1ee8e.633.1 1ee8f.639.1 1ee90.641.1 1ee91.635.1 1ee92.642.1 1ee93.631.1",
  "1ee94.634.1 1ee95.62a.2 1ee97.62e.1 1ee98.630.1 1ee99.636.1 1ee9a.638.1 1ee9b.63a.1 1eea1.628.1",
  "1eea2.62c.1 1eea3.62f.1 1eea5.648.1 1eea6.632.1 1eea7.62d.1 1eea8.637.1 1eea9.64a.1 1eeab.644.3",
  "1eeae.633.1 1eeaf.639.1 1eeb0.641.1 1eeb1.635.1 1eeb2.642.1 1eeb3.631.1 1eeb4.634.1 1eeb5.62a.2",
  "1eeb7.62e.1 1eeb8.630.1 1eeb9.636.1 1eeba.638.1 1eebb.63a.1 1fbf0.30.a 2f800.4e3d.1",
  "2f801.4e38.1 2f802.4e41.1 2f803.20122.1 2f804.4f60.1 2f805.4fae.1 2f806.4fbb.1 2f807.5002.1",
  "2f808.507a.1 2f809.5099.1 2f80a.50e7.1 2f80b.50cf.1 2f80c.349e.1 2f80d.2063a.1 2f80e.514d.1",
  "2f80f.5154.1 2f810.5164.1 2f811.5177.1 2f812.2051c.1 2f813.34b9.1 2f814.5167.1 2f815.518d.1",
  "2f816.2054b.1 2f817.5197.1 2f818.51a4.1 2f819.4ecc.1 2f81a.51ac.1 2f81b.51b5.1 2f81c.291df.1",
  "2f81d.51f5.1 2f81e.5203.1 2f81f.34df.1 2f820.523b.1 2f821.5246.1 2f822.5272.1 2f823.5277.1",
  "2f824.3515.1 2f825.52c7.1 2f826.52c9.1 2f827.52e4.1 2f828.52fa.1 2f829.5305.2 2f82b.5317.1",
  "2f82c.5349.1 2f82d.5351.1 2f82e.535a.1 2f82f.5373.1 2f830.537d.1 2f831.537f.1 2f832.537f.1",
  "2f833.537f.1 2f834.20a2c.1 2f835.7070.1 2f836.53ca.1 2f837.53df.1 2f838.20b63.1 2f839.53eb.1",
  "2f83a.53f1.1 2f83b.5406.1 2f83c.549e.1 2f83d.5438.1 2f83e.5448.1 2f83f.5468.1 2f840.54a2.1",
  "2f841.54f6.1 2f842.5510.1 2f843.5553.1 2f844.5563.1 2f845.5584.1 2f846.5584.1 2f847.5599.1",
  "2f848.55ab.1 2f849.55b3.1 2f84a.55c2.1 2f84b.5716.1 2f84c.5606.1 2f84d.5717.1 2f84e.5651.1",
  "2f84f.5674.1 2f850.5207.1 2f851.58ee.1 2f852.57ce.1 2f853.57f4.1 2f854.580d.1 2f855.578b.1",
  "2f856.5832.1 2f857.5831.1 2f858.58ac.1 2f859.214e4.1 2f85a.58f2.1 2f85b.58f7.1 2f85c.5906.1",
  "2f85d.591a.1 2f85e.5922.1 2f85f.5962.1 2f860.216a8.1 2f861.216ea.1 2f862.59ec.1 2f863.5a1b.1",
  "2f864.5a27.1 2f865.59d8.1 2f866.5a66.1 2f867.36ee.1 2f868.36fc.1 2f869.5b08.1 2f86a.5b3e.1",
  "2f86b.5b3e.1 2f86c.219c8.1 2f86d.5bc3.1 2f86e.5bd8.1 2f86f.5be7.1 2f870.5bf3.1 2f871.21b18.1",
  "2f872.5bff.1 2f873.5c06.1 2f874.5f53.1 2f875.5c22.1 2f876.3781.1 2f877.5c60.1 2f878.5c6e.1",
  "2f879.5cc0.1 2f87a.5c8d.1 2f87b.21de4.1 2f87c.5d43.1 2f87d.21de6.1 2f87e.5d6e.1 2f87f.5d6b.1",
  "2f880.5d7c.1 2f881.5de1.2 2f883.382f.1 2f884.5dfd.1 2f885.5e28.1 2f886.5e3d.1 2f887.5e69.1",
  "2f888.3862.1 2f889.22183.1 2f88a.387c.1 2f88b.5eb0.1 2f88c.5eb3.1 2f88d.5eb6.1 2f88e.5eca.1",
  "2f88f.2a392.1 2f890.5efe.1 2f891.22331.1 2f892.22331.1 2f893.8201.1 2f894.5f22.1 2f895.5f22.1",
  "2f896.38c7.1 2f897.232b8.1 2f898.261da.1 2f899.5f62.1 2f89a.5f6b.1 2f89b.38e3.1 2f89c.5f9a.1",
  "2f89d.5fcd.1 2f89e.5fd7.1 2f89f.5ff9.1 2f8a0.6081.1 2f8a1.393a.1 2f8a2.391c.1 2f8a3.6094.1",
  "2f8a4.226d4.1 2f8a5.60c7.1 2f8a6.6148.1 2f8a7.614c.1 2f8a8.614e.1 2f8a9.614c.1 2f8aa.617a.1",
  "2f8ab.618e.1 2f8ac.61b2.1 2f8ad.61a4.1 2f8ae.61af.1 2f8af.61de.1 2f8b0.61f2.1 2f8b1.61f6.1",
  "2f8b2.6210.1 2f8b3.621b.1 2f8b4.625d.1 2f8b5.62b1.1 2f8b6.62d4.1 2f8b7.6350.1 2f8b8.22b0c.1",
  "2f8b9.633d.1 2f8ba.62fc.1 2f8bb.6368.1 2f8bc.6383.1 2f8bd.63e4.1 2f8be.22bf1.1 2f8bf.6422.1",
  "2f8c0.63c5.1 2f8c1.63a9.1 2f8c2.3a2e.1 2f8c3.6469.1 2f8c4.647e.1 2f8c5.649d.1 2f8c6.6477.1",
  "2f8c7.3a6c.1 2f8c8.654f.1 2f8c9.656c.1 2f8ca.2300a.1 2f8cb.65e3.1 2f8cc.66f8.1 2f8cd.6649.1",
  "2f8ce.3b19.1 2f8cf.6691.1 2f8d0.3b08.1 2f8d1.3ae4.1 2f8d2.5192.1 2f8d3.5195.1 2f8d4.6700.1",
  "2f8d5.669c.1 2f8d6.80ad.1 2f8d7.43d9.1 2f8d8.6717.1 2f8d9.671b.1 2f8da.6721.1 2f8db.675e.1",
  "2f8dc.6753.1 2f8dd.233c3.1 2f8de.3b49.1 2f8df.67fa.1 2f8e0.6785.1 2f8e1.6852.1 2f8e2.6885.1",
  "2f8e3.2346d.1 2f8e4.688e.1 2f8e5.681f.1 2f8e6.6914.1 2f8e7.3b9d.1 2f8e8.6942.1 2f8e9.69a3.1",
  "2f8ea.69ea.1 2f8eb.6aa8.1 2f8ec.236a3.1 2f8ed.6adb.1 2f8ee.3c18.1 2f8ef.6b21.1 2f8f0.238a7.1",
  "2f8f1.6b54.1 2f8f2.3c4e.1 2f8f3.6b72.1 2f8f4.6b9f.1 2f8f5.6bba.2 2f8f7.23a8d.1 2f8f8.21d0b.1",
  "2f8f9.23afa.1 2f8fa.6c4e.1 2f8fb.23cbc.1 2f8fc.6cbf.1 2f8fd.6ccd.1 2f8fe.6c67.1 2f8ff.6d16.1",
  "2f900.6d3e.1 2f901.6d77.1 2f902.6d41.1 2f903.6d69.1 2f904.6d78.1 2f905.6d85.1 2f906.23d1e.1",
  "2f907.6d34.1 2f908.6e2f.1 2f909.6e6e.1 2f90a.3d33.1 2f90b.6ecb.1 2f90c.6ec7.1 2f90d.23ed1.1",
  "2f90e.6df9.1 2f90f.6f6e.1 2f910.23f5e.1 2f911.23f8e.1 2f912.6fc6.1 2f913.7039.1 2f914.701e.1",
  "2f915.701b.1 2f916.3d96.1 2f917.704a.1 2f918.707d.1 2f919.7077.1 2f91a.70ad.1 2f91b.20525.1",
  "2f91c.7145.1 2f91d.24263.1 2f91e.719c.1 2f91f.243ab.1 2f920.7228.1 2f921.7235.1 2f922.7250.1",
  "2f923.24608.1 2f924.7280.1 2f925.7295.1 2f926.24735.1 2f927.24814.1 2f928.737a.1 2f929.738b.1",
  "2f92a.3eac.1 2f92b.73a5.1 2f92c.3eb8.1 2f92d.3eb8.1 2f92e.7447.1 2f92f.745c.1 2f930.7471.1",
  "2f931.7485.1 2f932.74ca.1 2f933.3f1b.1 2f934.7524.1 2f935.24c36.1 2f936.753e.1 2f937.24c92.1",
  "2f938.7570.1 2f939.2219f.1 2f93a.7610.1 2f93b.24fa1.1 2f93c.24fb8.1 2f93d.25044.1 2f93e.3ffc.1",
  "2f93f.4008.1 2f940.76f4.1 2f941.250f3.1 2f942.250f2.1 2f943.25119.1 2f944.25133.1 2f945.771e.2",
  "2f947.771f.1 2f948.774a.1 2f949.4039.1 2f94a.778b.1 2f94b.4046.1 2f94c.4096.1 2f94d.2541d.1",
  "2f94e.784e.1 2f94f.788c.1 2f950.78cc.1 2f951.40e3.1 2f952.25626.1 2f953.7956.1 2f954.2569a.1",
  "2f955.256c5.1 2f956.798f.1 2f957.79eb.1 2f958.412f.1 2f959.7a40.1 2f95a.7a4a.1 2f95b.7a4f.1",
  "2f95c.2597c.1 2f95d.25aa7.1 2f95e.25aa7.1 2f95f.7aee.1 2f960.4202.1 2f961.25bab.1 2f962.7bc6.1",
  "2f963.7bc9.1 2f964.4227.1 2f965.25c80.1 2f966.7cd2.1 2f967.42a0.1 2f968.7ce8.1 2f969.7ce3.1",
  "2f96a.7d00.1 2f96b.25f86.1 2f96c.7d63.1 2f96d.4301.1 2f96e.7dc7.1 2f96f.7e02.1 2f970.7e45.1",
  "2f971.4334.1 2f972.26228.1 2f973.26247.1 2f974.4359.1 2f975.262d9.1 2f976.7f7a.1 2f977.2633e.1",
  "2f978.7f95.1 2f979.7ffa.1 2f97a.8005.1 2f97b.264da.1 2f97c.26523.1 2f97d.8060.1 2f97e.265a8.1",
  "2f97f.8070.1 2f980.2335f.1 2f981.43d5.1 2f982.80b2.1 2f983.8103.1 2f984.440b.1 2f985.813e.1",
  "2f986.5ab5.1 2f987.267a7.1 2f988.267b5.1 2f989.23393.1 2f98a.2339c.1 2f98b.8201.1 2f98c.8204.1",
  "2f98d.8f9e.1 2f98e.446b.1 2f98f.8291.1 2f990.828b.1 2f991.829d.1 2f992.52b3.1 2f993.82b1.1",
  "2f994.82b3.1 2f995.82bd.1 2f996.82e6.1 2f997.26b3c.1 2f998.82e5.1 2f999.831d.1 2f99a.8363.1",
  "2f99b.83ad.1 2f99c.8323.1 2f99d.83bd.1 2f99e.83e7.1 2f99f.8457.1 2f9a0.8353.1 2f9a1.83ca.1",
  "2f9a2.83cc.1 2f9a3.83dc.1 2f9a4.26c36.1 2f9a5.26d6b.1 2f9a6.26cd5.1 2f9a7.452b.1 2f9a8.84f1.1",
  "2f9a9.84f3.1 2f9aa.8516.1 2f9ab.273ca.1 2f9ac.8564.1 2f9ad.26f2c.1 2f9ae.455d.1 2f9af.4561.1",
  "2f9b0.26fb1.1 2f9b1.270d2.1 2f9b2.456b.1 2f9b3.8650.1 2f9b4.865c.1 2f9b5.8667.1 2f9b6.8669.1",
  "2f9b7.86a9.1 2f9b8.8688.1 2f9b9.870e.1 2f9ba.86e2.1 2f9bb.8779.1 2f9bc.8728.1 2f9bd.876b.1",
  "2f9be.8786.1 2f9bf.45d7.1 2f9c0.87e1.1 2f9c1.8801.1 2f9c2.45f9.1 2f9c3.8860.1 2f9c4.8863.1",
  "2f9c5.27667.1 2f9c6.88d7.1 2f9c7.88de.1 2f9c8.4635.1 2f9c9.88fa.1 2f9ca.34bb.1 2f9cb.278ae.1",
  "2f9cc.27966.1 2f9cd.46be.1 2f9ce.46c7.1 2f9cf.8aa0.1 2f9d0.8aed.1 2f9d1.8b8a.1 2f9d2.8c55.1",
  "2f9d3.27ca8.1 2f9d4.8cab.1 2f9d5.8cc1.1 2f9d6.8d1b.1 2f9d7.8d77.1 2f9d8.27f2f.1 2f9d9.20804.1",
  "2f9da.8dcb.1 2f9db.8dbc.1 2f9dc.8df0.1 2f9dd.208de.1 2f9de.8ed4.1 2f9df.8f38.1 2f9e0.285d2.1",
  "2f9e1.285ed.1 2f9e2.9094.1 2f9e3.90f1.1 2f9e4.9111.1 2f9e5.2872e.1 2f9e6.911b.1 2f9e7.9238.1",
  "2f9e8.92d7.2 2f9ea.927c.1 2f9eb.93f9.1 2f9ec.9415.1 2f9ed.28bfa.1 2f9ee.958b.1 2f9ef.4995.1",
  "2f9f0.95b7.1 2f9f1.28d77.1 2f9f2.49e6.1 2f9f3.96c3.1 2f9f4.5db2.1 2f9f5.9723.1 2f9f6.29145.1",
  "2f9f7.2921a.1 2f9f8.4a6e.1 2f9f9.4a76.1 2f9fa.97e0.1 2f9fb.2940a.1 2f9fc.4ab2.1 2f9fd.29496.1",
  "2f9fe.980b.1 2f9ff.980b.1 2fa00.9829.1 2fa01.295b6.1 2fa02.98e2.1 2fa03.4b33.1 2fa04.9929.1",
  "2fa05.99a7.1 2fa06.99c2.1 2fa07.99fe.1 2fa08.4bce.1 2fa09.29b30.1 2fa0a.9b12.1 2fa0b.9c40.1",
  "2fa0c.9cfd.1 2fa0d.4cce.1 2fa0e.4ced.1 2fa0f.9d67.1 2fa10.2a0ce.1 2fa11.4cf8.1 2fa12.2a105.1",
  "2fa13.2a20e.1 2fa14.2a291.1 2fa15.9ebb.1 2fa16.4d56.1 2fa17.9ef9.1 2fa18.9efe.1 2fa19.9f05.1",
  "2fa1a.9f0f.1 2fa1b.9f16.1 2fa1c.9f3b.1 2fa1d.2a600.1"]

/-- Characters that stand for several plainer ones, with these. -/
def longForms : List String := [
  "132.49.4a 133.69.6a 13f.4c.b7 140.6c.b7 149.2bc.6e 1c4.44.5a.30c 1c5.44.7a.30c 1c6.64.7a.30c",
  "1c7.4c.4a 1c8.4c.6a 1c9.6c.6a 1ca.4e.4a 1cb.4e.6a 1cc.6e.6a 1f1.44.5a 1f2.44.7a 1f3.64.7a",
  "344.308.301 587.565.582 675.627.674 676.648.674 677.6c7.674 678.64a.674 958.915.93c 959.916.93c",
  "95a.917.93c 95b.91c.93c 95c.921.93c 95d.922.93c 95e.92b.93c 95f.92f.93c 9dc.9a1.9bc 9dd.9a2.9bc",
  "9df.9af.9bc a33.a32.a3c a36.a38.a3c a59.a16.a3c a5a.a17.a3c a5b.a1c.a3c a5e.a2b.a3c b5c.b21.b3c",
  "b5d.b22.b3c e33.e4d.e32 eb3.ecd.eb2 edc.eab.e99 edd.eab.ea1 f43.f42.fb7 f4d.f4c.fb7 f52.f51.fb7",
  "f57.f56.fb7 f5c.f5b.fb7 f69.f40.fb5 f73.f71.f72 f75.f71.f74 f76.fb2.f80 f77.fb2.f71.f80",
  "f78.fb3.f80 f79.fb3.f71.f80 f81.f71.f80 f93.f92.fb7 f9d.f9c.fb7 fa2.fa1.fb7 fa7.fa6.fb7",
  "fac.fab.fb7 fb9.f90.fb5 1e9a.61.2be 1f71.3b1.301 1f73.3b5.301 1f75.3b7.301 1f77.3b9.301",
  "1f79.3bf.301 1f7b.3c5.301 1f7d.3c9.301 1fbb.391.301 1fc9.395.301 1fcb.397.301 1fd3.3b9.308.301",
  "1fdb.399.301 1fe3.3c5.308.301 1feb.3a5.301 1ff9.39f.301 1ffb.3a9.301 212b.41.30a 2161.49.49",
  "2162.49.49.49 2163.49.56 2165.56.49 2166.56.49.49 2167.56.49.49.49 2168.49.58 216a.58.49",
  "216b.58.49.49 2171.69.69 2172.69.69.69 2173.69.76 2175.76.69 2176.76.69.69 2177.76.69.69.69",
  "2178.69.78 217a.78.69 217b.78.69.69 309f.3088.308a 30ff.30b3.30c8 fb00.66.66 fb01.66.69",
  "fb02.66.6c fb03.66.66.69 fb04.66.66.6c fb05.73.74 fb06.73.74 fb13.574.576 fb14.574.565",
  "fb15.574.56b fb16.57e.576 fb17.574.56d fb1d.5d9.5b4 fb1f.5f2.5b7 fb2a.5e9.5c1 fb2b.5e9.5c2",
  "fb2c.5e9.5bc.5c1 fb2d.5e9.5bc.5c2 fb2e.5d0.5b7 fb2f.5d0.5b8 fb30.5d0.5bc fb31.5d1.5bc",
  "fb32.5d2.5bc fb33.5d3.5bc fb34.5d4.5bc fb35.5d5.5bc fb36.5d6.5bc fb38.5d8.5bc fb39.5d9.5bc",
  "fb3a.5da.5bc fb3b.5db.5bc fb3c.5dc.5bc fb3e.5de.5bc fb40.5e0.5bc fb41.5e1.5bc fb43.5e3.5bc",
  "fb44.5e4.5bc fb46.5e6.5bc fb47.5e7.5bc fb48.5e8.5bc fb49.5e9.5bc fb4a.5ea.5bc fb4b.5d5.5b9",
  "fb4c.5d1.5bf fb4d.5db.5bf fb4e.5e4.5bf fb4f.5d0.5dc fba4.6d5.654 fba5.6d5.654 fbb0.6d2.654",
  "fbb1.6d2.654 fbdd.6c7.674 fbea.64a.654.627 fbeb.64a.654.627 fbec.64a.654.6d5 fbed.64a.654.6d5",
  "fbee.64a.654.648 fbef.64a.654.648 fbf0.64a.654.6c7 fbf1.64a.654.6c7 fbf2.64a.654.6c6",
  "fbf3.64a.654.6c6 fbf4.64a.654.6c8 fbf5.64a.654.6c8 fbf6.64a.654.6d0 fbf7.64a.654.6d0",
  "fbf8.64a.654.6d0 fbf9.64a.654.649 fbfa.64a.654.649 fbfb.64a.654.649 fc00.64a.654.62c",
  "fc01.64a.654.62d fc02.64a.654.645 fc03.64a.654.649 fc04.64a.654.64a fc05.628.62c fc06.628.62d",
  "fc07.628.62e fc08.628.645 fc09.628.649 fc0a.628.64a fc0b.62a.62c fc0c.62a.62d fc0d.62a.62e",
  "fc0e.62a.645 fc0f.62a.649 fc10.62a.64a fc11.62b.62c fc12.62b.645 fc13.62b.649 fc14.62b.64a",
  "fc15.62c.62d fc16.62c.645 fc17.62d.62c fc18.62d.645 fc19.62e.62c fc1a.62e.62d fc1b.62e.645",
  "fc1c.633.62c fc1d.633.62d fc1e.633.62e fc1f.633.645 fc20.635.62d fc21.635.645 fc22.636.62c",
  "fc23.636.62d fc24.636.62e fc25.636.645 fc26.637.62d fc27.637.645 fc28.638.645 fc29.639.62c",
  "fc2a.639.645 fc2b.63a.62c fc2c.63a.645 fc2d.641.62c fc2e.641.62d fc2f.641.62e fc30.641.645",
  "fc31.641.649 fc32.641.64a fc33.642.62d fc34.642.645 fc35.642.649 fc36.642.64a fc37.643.627",
  "fc38.643.62c fc39.643.62d fc3a.643.62e fc3b.643.644 fc3c.643.645 fc3d.643.649 fc3e.643.64a",
  "fc3f.644.62c fc40.644.62d fc41.644.62e fc42.644.645 fc43.644.649 fc44.644.64a fc45.645.62c",
  "fc46.645.62d fc47.645.62e fc48.645.645 fc49.645.649 fc4a.645.64a fc4b.646.62c fc4c.646.62d",
  "fc4d.646.62e fc4e.646.645 fc4f.646.649 fc50.646.64a fc51.647.62c fc52.647.645 fc53.647.649",
  "fc54.647.64a fc55.64a.62c fc56.64a.62d fc57.64a.62e fc58.64a.645 fc59.64a.649 fc5a.64a.64a",
  "fc5b.630.670 fc5c.631.670 fc5d.649.670 fc64.64a.654.631 fc65.64a.654.632 fc66.64a.654.645",
  "fc67.64a.654.646 fc68.64a.654.649 fc69.64a.654.64a fc6a.628.631 fc6b.628.632 fc6c.628.645",
  "fc6d.628.646 fc6e.628.649 fc6f.628.64a fc70.62a.631 fc71.62a.632 fc72.62a.645 fc73.62a.646",
  "fc74.62a.649 fc75.62a.64a fc76.62b.631 fc77.62b.632 fc78.62b.645 fc79.62b.646 fc7a.62b.649",
  "fc7b.62b.64a fc7c.641.649 fc7d.641.64a fc7e.642.649 fc7f.642.64a fc80.643.627 fc81.643.644",
  "fc82.643.645 fc83.643.649 fc84.643.64a fc85.644.645 fc86.644.649 fc87.644.64a fc88.645.627",
  "fc89.645.645 fc8a.646.631 fc8b.646.632 fc8c.646.645 fc8d.646.646 fc8e.646.649 fc8f.646.64a",
  "fc90.649.670 fc91.64a.631 fc92.64a.632 fc93.64a.645 fc94.64a.646 fc95.64a.649 fc96.64a.64a",
  "fc97.64a.654.62c fc98.64a.654.62d fc99.64a.654.62e fc9a.64a.654.645 fc9b.64a.654.647",
  "fc9c.628.62c fc9d.628.62d fc9e.628.62e fc9f.628.645 fca0.628.647 fca1.62a.62c fca2.62a.62d",
  "fca3.62a.62e fca4.62a.645 fca5.62a.647 fca6.62b.645 fca7.62c.62d fca8.62c.645 fca9.62d.62c",
  "fcaa.62d.645 fcab.62e.62c fcac.62e.645 fcad.633.62c fcae.633.62d fcaf.633.62e fcb0.633.645",
  "fcb1.635.62d fcb2.635.62e fcb3.635.645 fcb4.636.62c fcb5.636.62d fcb6.636.62e fcb7.636.645",
  "fcb8.637.62d fcb9.638.645 fcba.639.62c fcbb.639.645 fcbc.63a.62c fcbd.63a.645 fcbe.641.62c",
  "fcbf.641.62d fcc0.641.62e fcc1.641.645 fcc2.642.62d fcc3.642.645 fcc4.643.62c fcc5.643.62d",
  "fcc6.643.62e fcc7.643.644 fcc8.643.645 fcc9.644.62c fcca.644.62d fccb.644.62e fccc.644.645",
  "fccd.644.647 fcce.645.62c fccf.645.62d fcd0.645.62e fcd1.645.645 fcd2.646.62c fcd3.646.62d",
  "fcd4.646.62e fcd5.646.645 fcd6.646.647 fcd7.647.62c fcd8.647.645 fcd9.647.670 fcda.64a.62c",
  "fcdb.64a.62d fcdc.64a.62e fcdd.64a.645 fcde.64a.647 fcdf.64a.654.645 fce0.64a.654.647",
  "fce1.628.645 fce2.628.647 fce3.62a.645 fce4.62a.647 fce5.62b.645 fce6.62b.647 fce7.633.645",
  "fce8.633.647 fce9.634.645 fcea.634.647 fceb.643.644 fcec.643.645 fced.644.645 fcee.646.645",
  "fcef.646.647 fcf0.64a.645 fcf1.64a.647 fcf2.640.64e.651 fcf3.640.64f.651 fcf4.640.650.651",
  "fcf5.637.649 fcf6.637.64a fcf7.639.649 fcf8.639.64a fcf9.63a.649 fcfa.63a.64a fcfb.633.649",
  "fcfc.633.64a fcfd.634.649 fcfe.634.64a fcff.62d.649 fd00.62d.64a fd01.62c.649 fd02.62c.64a",
  "fd03.62e.649 fd04.62e.64a fd05.635.649 fd06.635.64a fd07.636.649 fd08.636.64a fd09.634.62c",
  "fd0a.634.62d fd0b.634.62e fd0c.634.645 fd0d.634.631 fd0e.633.631 fd0f.635.631 fd10.636.631",
  "fd11.637.649 fd12.637.64a fd13.639.649 fd14.639.64a fd15.63a.649 fd16.63a.64a fd17.633.649",
  "fd18.633.64a fd19.634.649 fd1a.634.64a fd1b.62d.649 fd1c.62d.64a fd1d.62c.649 fd1e.62c.64a",
  "fd1f.62e.649 fd20.62e.64a fd21.635.649 fd22.635.64a fd23.636.649 fd24.636.64a fd25.634.62c",
  "fd26.634.62d fd27.634.62e fd28.634.645 fd29.634.631 fd2a.633.631 fd2b.635.631 fd2c.636.631",
  "fd2d.634.62c fd2e.634.62d fd2f.634.62e fd30.634.645 fd31.633.647 fd32.634.647 fd33.637.645",
  "fd34.633.62c fd35.633.62d fd36.633.62e fd37.634.62c fd38.634.62d fd39.634.62e fd3a.637.645",
  "fd3b.638.645 fd3c.627.64b fd3d.627.64b fd50.62a.62c.645 fd51.62a.62d.62c fd52.62a.62d.62c",
  "fd53.62a.62d.645 fd54.62a.62e.645 fd55.62a.645.62c fd56.62a.645.62d fd57.62a.645.62e",
  "fd58.62c.645.62d fd59.62c.645.62d fd5a.62d.645.64a fd5b.62d.645.649 fd5c.633.62d.62c",
  "fd5d.633.62c.62d fd5e.633.62c.649 fd5f.633.645.62d fd60.633.645.62d fd61.633.645.62c",
  "fd62.633.645.645 fd63.633.645.645 fd64.635.62d.62d fd65.635.62d.62d fd66.635.645.645",
  "fd67.634.62d.645 fd68.634.62d.645 fd69.634.62c.64a fd6a.634.645.62e fd6b.634.645.62e",
  "fd6c.634.645.645 fd6d.634.645.645 fd6e.636.62d.649 fd6f.636.62e.645 fd70.636.62e.645",
  "fd71.637.645.62d fd72.637.645.62d fd73.637.645.645 fd74.637.645.64a fd75.639.62c.645",
  "fd76.639.645.645 fd77.639.645.645 fd78.639.645.649 fd79.63a.645.645 fd7a.63a.645.64a",
  "fd7b.63a.645.649 fd7c.641.62e.645 fd7d.641.62e.645 fd7e.642.645.62d fd7f.642.645.645",
  "fd80.644.62d.645 fd81.644.62d.64a fd82.644.62d.649 fd83.644.62c.62c fd84.644.62c.62c",
  "fd85.644.62e.645 fd86.644.62e.645 fd87.644.645.62d fd88.644.645.62d fd89.645.62d.62c",
  "fd8a.645.62d.645 fd8b.645.62d.64a fd8c.645.62c.62d fd8d.645.62c.645 fd8e.645.62e.62c",
  "fd8f.645.62e.645 fd92.645.62c.62e fd93.647.645.62c fd94.647.645.645 fd95.646.62d.645",
  "fd96.646.62d.649 fd97.646.62c.645 fd98.646.62c.645 fd99.646.62c.649 fd9a.646.645.64a",
  "fd9b.646.645.649 fd9c.64a.645.645 fd9d.64a.645.645 fd9e.628.62e.64a fd9f.62a.62c.64a",
  "fda0.62a.62c.649 fda1.62a.62e.64a fda2.62a.62e.649 fda3.62a.645.64a fda4.62a.645.649",
  "fda5.62c.645.64a fda6.62c.62d.649 fda7.62c.645.649 fda8.633.62e.649 fda9.635.62d.64a",
  "fdaa.634.62d.64a fdab.636.62d.64a fdac.644.62c.64a fdad.644.645.64a fdae.64a.62d.64a",
  "fdaf.64a.62c.64a fdb0.64a.645.64a fdb1.645.645.64a fdb2.642.645.64a fdb3.646.62d.64a",
  "fdb4.642.645.62d fdb5.644.62d.645 fdb6.639.645.64a fdb7.643.645.64a fdb8.646.62c.62d",
  "fdb9.645.62e.64a fdba.644.62c.645 fdbb.643.645.645 fdbc.644.62c.645 fdbd.646.62c.62d",
  "fdbe.62c.62d.64a fdbf.62d.62c.64a fdc0.645.62c.64a fdc1.641.645.64a fdc2.628.62d.64a",
  "fdc3.643.645.645 fdc4.639.62c.645 fdc5.635.645.645 fdc6.633.62e.64a fdc7.646.62c.64a",
  "fdf0.635.644.6d2 fdf1.642.644.6d2 fdf2.627.644.644.647 fdf3.627.643.628.631",
  "fdf4.645.62d.645.62f fdf5.635.644.639.645 fdf6.631.633.648.644 fdf7.639.644.64a.647",
  "fdf8.648.633.644.645 fdf9.635.644.649 fe71.640.64b fe77.640.64e fe79.640.64f fe7b.640.650",
  "fe7d.640.651 fe7f.640.652 fe81.627.653 fe82.627.653 fe83.627.654 fe84.627.654 fe85.648.654",
  "fe86.648.654 fe87.627.655 fe88.627.655 fe89.64a.654 fe8a.64a.654 fe8b.64a.654 fe8c.64a.654",
  "fef5.644.627.653 fef6.644.627.653 fef7.644.627.654 fef8.644.627.654 fef9.644.627.655",
  "fefa.644.627.655 fefb.644.627 fefc.644.627"]

/-- Runs of combining marks: the first, the last and their class, which orders the marks of a letter. -/
def markRuns : List String := [
  "300.314.e6 315.315.e8 316.319.dc 31a.31a.e8 31b.31b.d8 31c.320.dc 321.322.ca 323.326.dc",
  "327.328.ca 329.333.dc 334.338.1 339.33c.dc 33d.344.e6 345.345.f0 346.346.e6 347.349.dc",
  "34a.34c.e6 34d.34e.dc 350.352.e6 353.356.dc 357.357.e6 358.358.e8 359.35a.dc 35b.35b.e6",
  "35c.35c.e9 35d.35e.ea 35f.35f.e9 360.361.ea 362.362.e9 363.36f.e6 483.487.e6 591.591.dc",
  "592.595.e6 596.596.dc 597.599.e6 59a.59a.de 59b.59b.dc 59c.5a1.e6 5a2.5a7.dc 5a8.5a9.e6",
  "5aa.5aa.dc 5ab.5ac.e6 5ad.5ad.de 5ae.5ae.e4 5af.5af.e6 5b0.5b0.a 5b1.5b1.b 5b2.5b2.c 5b3.5b3.d",
  "5b4.5b4.e 5b5.5b5.f 5b6.5b6.10 5b7.5b7.11 5b8.5b8.12 5b9.5ba.13 5bb.5bb.14 5bc.5bc.15",
  "5bd.5bd.16 5bf.5bf.17 5c1.5c1.18 5c2.5c2.19 5c4.5c4.e6 5c5.5c5.dc 5c7.5c7.12 610.617.e6",
  "618.618.1e 619.619.1f 61a.61a.20 64b.64b.1b 64c.64c.1c 64d.64d.1d 64e.64e.1e 64f.64f.1f",
  "650.650.20 651.651.21 652.652.22 653.654.e6 655.656.dc 657.65b.e6 65c.65c.dc 65d.65e.e6",
  "65f.65f.dc 670.670.23 6d6.6dc.e6 6df.6e2.e6 6e3.6e3.dc 6e4.6e4.e6 6e7.6e8.e6 6ea.6ea.dc",
  "6eb.6ec.e6 6ed.6ed.dc 711.711.24 730.730.e6 731.731.dc 732.733.e6 734.734.dc 735.736.e6",
  "737.739.dc 73a.73a.e6 73b.73c.dc 73d.73d.e6 73e.73e.dc 73f.741.e6 742.742.dc 743.743.e6",
  "744.744.dc 745.745.e6 746.746.dc 747.747.e6 748.748.dc 749.74a.e6 7eb.7f1.e6 7f2.7f2.dc",
  "7f3.7f3.e6 7fd.7fd.dc 816.819.e6 81b.823.e6 825.827.e6 829.82d.e6 859.85b.dc 898.898.e6",
  "899.89b.dc 89c.89f.e6 8ca.8ce.e6 8cf.8d3.dc 8d4.8e1.e6 8e3.8e3.dc 8e4.8e5.e6 8e6.8e6.dc",
  "8e7.8e8.e6 8e9.8e9.dc 8ea.8ec.e6 8ed.8ef.dc 8f0.8f0.1b 8f1.8f1.1c 8f2.8f2.1d 8f3.8f5.e6",
  "8f6.8f6.dc 8f7.8f8.e6 8f9.8fa.dc 8fb.8ff.e6 93c.93c.7 94d.94d.9 951.951.e6 952.952.dc",
  "953.954.e6 9bc.9bc.7 9cd.9cd.9 9fe.9fe.e6 a3c.a3c.7 a4d.a4d.9 abc.abc.7 acd.acd.9 b3c.b3c.7",
  "b4d.b4d.9 bcd.bcd.9 c3c.c3c.7 c4d.c4d.9 c55.c55.54 c56.c56.5b cbc.cbc.7 ccd.ccd.9 d3b.d3c.9",
  "d4d.d4d.9 dca.dca.9 e38.e39.67 e3a.e3a.9 e48.e4b.6b eb8.eb9.76 eba.eba.9 ec8.ecb.7a f18.f19.dc",
  "f35.f35.dc f37.f37.dc f39.f39.d8 f71.f71.81 f72.f72.82 f74.f74.84 f7a.f7d.82 f80.f80.82",
  "f82.f83.e6 f84.f84.9 f86.f87.e6 fc6.fc6.dc 1037.1037.7 1039.103a.9 108d.108d.dc 135d.135f.e6",
  "1714.1715.9 1734.1734.9 17d2.17d2.9 17dd.17dd.e6 18a9.18a9.e4 1939.1939.de 193a.193a.e6",
  "193b.193b.dc 1a17.1a17.e6 1a18.1a18.dc 1a60.1a60.9 1a75.1a7c.e6 1a7f.1a7f.dc 1ab0.1ab4.e6",
  "1ab5.1aba.dc 1abb.1abc.e6 1abd.1abd.dc 1abf.1ac0.dc 1ac1.1ac2.e6 1ac3.1ac4.dc 1ac5.1ac9.e6",
  "1aca.1aca.dc 1acb.1ace.e6 1b34.1b34.7 1b44.1b44.9 1b6b.1b6b.e6 1b6c.1b6c.dc 1b6d.1b73.e6",
  "1baa.1bab.9 1be6.1be6.7 1bf2.1bf3.9 1c37.1c37.7 1cd0.1cd2.e6 1cd4.1cd4.1 1cd5.1cd9.dc",
  "1cda.1cdb.e6 1cdc.1cdf.dc 1ce0.1ce0.e6 1ce2.1ce8.1 1ced.1ced.dc 1cf4.1cf4.e6 1cf8.1cf9.e6",
  "1dc0.1dc1.e6 1dc2.1dc2.dc 1dc3.1dc9.e6 1dca.1dca.dc 1dcb.1dcc.e6 1dcd.1dcd.ea 1dce.1dce.d6",
  "1dcf.1dcf.dc 1dd0.1dd0.ca 1dd1.1df5.e6 1df6.1df6.e8 1df7.1df8.e4 1df9.1df9.dc 1dfa.1dfa.da",
  "1dfb.1dfb.e6 1dfc.1dfc.e9 1dfd.1dfd.dc 1dfe.1dfe.e6 1dff.1dff.dc 20d0.20d1.e6 20d2.20d3.1",
  "20d4.20d7.e6 20d8.20da.1 20db.20dc.e6 20e1.20e1.e6 20e5.20e6.1 20e7.20e7.e6 20e8.20e8.dc",
  "20e9.20e9.e6 20ea.20eb.1 20ec.20ef.dc 20f0.20f0.e6 2cef.2cf1.e6 2d7f.2d7f.9 2de0.2dff.e6",
  "302a.302a.da 302b.302b.e4 302c.302c.e8 302d.302d.de 302e.302f.e0 3099.309a.8 a66f.a66f.e6",
  "a674.a67d.e6 a69e.a69f.e6 a6f0.a6f1.e6 a806.a806.9 a82c.a82c.9 a8c4.a8c4.9 a8e0.a8f1.e6",
  "a92b.a92d.dc a953.a953.9 a9b3.a9b3.7 a9c0.a9c0.9 aab0.aab0.e6 aab2.aab3.e6 aab4.aab4.dc",
  "aab7.aab8.e6 aabe.aabf.e6 aac1.aac1.e6 aaf6.aaf6.9 abed.abed.9 fb1e.fb1e.1a fe20.fe26.e6",
  "fe27.fe2d.dc fe2e.fe2f.e6 101fd.101fd.dc 102e0.102e0.dc 10376.1037a.e6 10a0d.10a0d.dc",
  "10a0f.10a0f.e6 10a38.10a38.e6 10a39.10a39.1 10a3a.10a3a.dc 10a3f.10a3f.9 10ae5.10ae5.e6",
  "10ae6.10ae6.dc 10d24.10d27.e6 10eab.10eac.e6 10f46.10f47.dc 10f48.10f4a.e6 10f4b.10f4b.dc",
  "10f4c.10f4c.e6 10f4d.10f50.dc 10f82.10f82.e6 10f83.10f83.dc 10f84.10f84.e6 10f85.10f85.dc",
  "11046.11046.9 11070.11070.9 1107f.1107f.9 110b9.110b9.9 110ba.110ba.7 11100.11102.e6",
  "11133.11134.9 11173.11173.7 111c0.111c0.9 111ca.111ca.7 11235.11235.9 11236.11236.7",
  "112e9.112e9.7 112ea.112ea.9 1133b.1133c.7 1134d.1134d.9 11366.1136c.e6 11370.11374.e6",
  "11442.11442.9 11446.11446.7 1145e.1145e.e6 114c2.114c2.9 114c3.114c3.7 115bf.115bf.9",
  "115c0.115c0.7 1163f.1163f.9 116b6.116b6.9 116b7.116b7.7 1172b.1172b.9 11839.11839.9",
  "1183a.1183a.7 1193d.1193e.9 11943.11943.7 119e0.119e0.9 11a34.11a34.9 11a47.11a47.9",
  "11a99.11a99.9 11c3f.11c3f.9 11d42.11d42.7 11d44.11d45.9 11d97.11d97.9 16af0.16af4.1",
  "16b30.16b36.e6 16ff0.16ff1.6 1bc9e.1bc9e.1 1d165.1d166.d8 1d167.1d169.1 1d16d.1d16d.e2",
  "1d16e.1d172.d8 1d17b.1d182.dc 1d185.1d189.e6 1d18a.1d18b.dc 1d1aa.1d1ad.e6 1d242.1d244.e6",
  "1e000.1e006.e6 1e008.1e018.e6 1e01b.1e021.e6 1e023.1e024.e6 1e026.1e02a.e6 1e130.1e136.e6",
  "1e2ae.1e2ae.e6 1e2ec.1e2ef.e6 1e8d0.1e8d6.dc 1e944.1e949.e6 1e94a.1e94a.7"]

end HtmlTemplate.Text
