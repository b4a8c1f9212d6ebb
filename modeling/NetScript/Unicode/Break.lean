import NetScript.Unicode.Property

/-!
This module contains the properties of Unicode characters that tell where a text can be divided.
-/

namespace NetScript.Unicode

open GeneralCategory

def graphemeBreaks : List Property :=
  [
    {
      names := ["control", "cn"]
      categories := [control]
      more :=
        [
          "ad 61c 180e 200b 200e-200f 2028-202e 2060-206f feff fff0-fffb 13430-1343f 1bca0-1bca3",
          "1d173-1d17a e0000-e001f e0080-e00ff e01f0-e0fff"
        ]
      less :=
        ["a d"]
    },
    {
      names := ["cr"]
      more :=
        ["d"]
    },
    {
      names := ["lf"]
      more :=
        ["a"]
    },
    {
      names := ["zwj"]
      more :=
        ["200d"]
    },
    {
      names := ["regionalindicator", "ri"]
      more :=
        ["1f1e6-1f1ff"]
    },
    {
      names := ["extend", "ex"]
      categories := [enclosingMark, nonspacingMark]
      more :=
        [
          "9be 9d7 b3e b57 bbe bd7 cc0 cc2 cc7-cc8 cca-ccb cd5-cd6 d3e d57 dcf ddf 1715 1734 1b35",
          "1b3b 1b3d 1b43-1b44 1baa 1bf2-1bf3 200c 302e-302f a953 a9c0 ff9e-ff9f 111c0 11235 1133e",
          "1134d 11357 113b8 113c2 113c5 113c7-113c9 113cf 114b0 114bd 115af 116b6 11930 1193d",
          "11f41 16ff0-16ff1 1d165-1d166 1d16d-1d172 1f3fb-1f3ff e0020-e007f"
        ]
    },
    {
      names := ["prepend", "pp"]
      more :=
        [
          "600-605 6dd 70f 890-891 8e2 d4e 110bd 110cd 111c2-111c3 113d1 1193f 11941 11a3a",
          "11a84-11a89 11d46 11f02"
        ]
    },
    {
      names := ["spacingmark", "sm"]
      categories := [spacingMark]
      more :=
        ["e33 eb3"]
      less :=
        [
          "9be 9d7 b3e b57 bbe bd7 cc0 cc2 cc7-cc8 cca-ccb cd5-cd6 d3e d57 dcf ddf 102b-102c 1038",
          "1062-1064 1067-106d 1083 1087-108c 108f 109a-109c 1715 1734 1a61 1a63-1a64 1b35 1b3b",
          "1b3d 1b43-1b44 1baa 1bf2-1bf3 302e-302f a953 a9c0 aa7b aa7d 111c0 11235 1133e 1134d",
          "11357 113b8 113c2 113c5 113c7-113c9 113cf 114b0 114bd 115af 116b6 11720-11721 11930",
          "1193d 11f41 16ff0-16ff1 1d165-1d166 1d16d-1d172"
        ]
    },
    {
      names := ["l"]
      more :=
        ["1100-115f a960-a97c"]
    },
    {
      names := ["v"]
      more :=
        ["1160-11a7 d7b0-d7c6 16d63 16d67-16d6a"]
    },
    {
      names := ["t"]
      more :=
        ["11a8-11ff d7cb-d7fb"]
    },
    {
      names := ["lv"]
      more :=
        ["ac00-d788/1c"]
    },
    {
      names := ["lvt"]
      more :=
        ["ac00-d7a3"]
      less :=
        ["ac00-d788/1c"]
    }
  ]

def wordBreaks : List Property :=
  [
    {
      names := ["aletter", "le"]
      categories :=
        [
          lowercaseLetter, modifierLetter, titlecaseLetter, uppercaseLetter, letterNumber
        ]
      more :=
        [
          "aa ba 1bb 1c0-1c3 294 2c2-2c5 2d2-2d7 2de-2df 2e5-2eb 2ed 2ef-2ff 55a-55c 55e 58a 5f3",
          "620-63f 641-64a 66e-66f 671-6d3 6d5 6ee-6ef 6fa-6fc 6ff 70f-710 712-72f 74d-7a5 7b1",
          "7ca-7ea 800-815 840-858 860-86a 870-887 889-88e 8a0-8c8 904-939 93d 950 958-961 972-980",
          "985-98c 98f-990 993-9a8 9aa-9b0 9b2 9b6-9b9 9bd 9ce 9dc-9dd 9df-9e1 9f0-9f1 9fc a05-a0a",
          "a0f-a10 a13-a28 a2a-a30 a32-a33 a35-a36 a38-a39 a59-a5c a5e a72-a74 a85-a8d a8f-a91",
          "a93-aa8 aaa-ab0 ab2-ab3 ab5-ab9 abd ad0 ae0-ae1 af9 b05-b0c b0f-b10 b13-b28 b2a-b30",
          "b32-b33 b35-b39 b3d b5c-b5d b5f-b61 b71 b83 b85-b8a b8e-b90 b92-b95 b99-b9a b9c b9e-b9f",
          "ba3-ba4 ba8-baa bae-bb9 bd0 c05-c0c c0e-c10 c12-c28 c2a-c39 c3d c58-c5a c5d c60-c61 c80",
          "c85-c8c c8e-c90 c92-ca8 caa-cb3 cb5-cb9 cbd cdd-cde ce0-ce1 cf1-cf2 d04-d0c d0e-d10",
          "d12-d3a d3d d4e d54-d56 d5f-d61 d7a-d7f d85-d96 d9a-db1 db3-dbb dbd dc0-dc6 f00 f40-f47",
          "f49-f6c f88-f8c 1100-1248 124a-124d 1250-1256 1258 125a-125d 1260-1288 128a-128d",
          "1290-12b0 12b2-12b5 12b8-12be 12c0 12c2-12c5 12c8-12d6 12d8-1310 1312-1315 1318-135a",
          "1380-138f 1401-166c 166f-167f 1681-169a 16a0-16ea 16f1-16f8 1700-1711 171f-1731",
          "1740-1751 1760-176c 176e-1770 1820-1842 1844-1878 1880-1884 1887-18a8 18aa 18b0-18f5",
          "1900-191e 1a00-1a16 1b05-1b33 1b45-1b4c 1b83-1ba0 1bae-1baf 1bba-1be5 1c00-1c23",
          "1c4d-1c4f 1c5a-1c77 1ce9-1cec 1cee-1cf3 1cf5-1cf6 1cfa 2135-2138 24b6-24e9 2d30-2d67",
          "2d80-2d96 2da0-2da6 2da8-2dae 2db0-2db6 2db8-2dbe 2dc0-2dc6 2dc8-2dce 2dd0-2dd6",
          "2dd8-2dde 303c 3105-312f 3131-318e 31a0-31bf a000-a014 a016-a48c a4d0-a4f7 a500-a60b",
          "a610-a61f a62a-a62b a66e a6a0-a6e5 a708-a716 a720-a721 a789-a78a a78f a7f7 a7fb-a801",
          "a803-a805 a807-a80a a80c-a822 a840-a873 a882-a8b3 a8f2-a8f7 a8fb a8fd-a8fe a90a-a925",
          "a930-a946 a960-a97c a984-a9b2 aa00-aa28 aa40-aa42 aa44-aa4b aae0-aaea aaf2 ab01-ab06",
          "ab09-ab0e ab11-ab16 ab20-ab26 ab28-ab2e ab5b abc0-abe2 ac00-d7a3 d7b0-d7c6 d7cb-d7fb",
          "fb50-fbb1 fbd3-fd3d fd50-fd8f fd92-fdc7 fdf0-fdfb fe70-fe74 fe76-fefc ffa0-ffbe",
          "ffc2-ffc7 ffca-ffcf ffd2-ffd7 ffda-ffdc 10000-1000b 1000d-10026 10028-1003a 1003c-1003d",
          "1003f-1004d 10050-1005d 10080-100fa 10280-1029c 102a0-102d0 10300-1031f 1032d-10340",
          "10342-10349 10350-10375 10380-1039d 103a0-103c3 103c8-103cf 10450-1049d 10500-10527",
          "10530-10563 105c0-105f3 10600-10736 10740-10755 10760-10767 10800-10805 10808",
          "1080a-10835 10837-10838 1083c 1083f-10855 10860-10876 10880-1089e 108e0-108f2",
          "108f4-108f5 10900-10915 10920-10939 10980-109b7 109be-109bf 10a00 10a10-10a13",
          "10a15-10a17 10a19-10a35 10a60-10a7c 10a80-10a9c 10ac0-10ac7 10ac9-10ae4 10b00-10b35",
          "10b40-10b55 10b60-10b72 10b80-10b91 10c00-10c48 10d00-10d23 10d4a-10d4d 10d4f",
          "10e80-10ea9 10eb0-10eb1 10ec2-10ec4 10f00-10f1c 10f27 10f30-10f45 10f70-10f81",
          "10fb0-10fc4 10fe0-10ff6 11003-11037 11071-11072 11075 11083-110af 110d0-110e8",
          "11103-11126 11144 11147 11150-11172 11176 11183-111b2 111c1-111c4 111da 111dc",
          "11200-11211 11213-1122b 1123f-11240 11280-11286 11288 1128a-1128d 1128f-1129d",
          "1129f-112a8 112b0-112de 11305-1130c 1130f-11310 11313-11328 1132a-11330 11332-11333",
          "11335-11339 1133d 11350 1135d-11361 11380-11389 1138b 1138e 11390-113b5 113b7 113d1",
          "113d3 11400-11434 11447-1144a 1145f-11461 11480-114af 114c4-114c5 114c7 11580-115ae",
          "115d8-115db 11600-1162f 11644 11680-116aa 116b8 11800-1182b 118ff-11906 11909",
          "1190c-11913 11915-11916 11918-1192f 1193f 11941 119a0-119a7 119aa-119d0 119e1 119e3",
          "11a00 11a0b-11a32 11a3a 11a50 11a5c-11a89 11a9d 11ab0-11af8 11bc0-11be0 11c00-11c08",
          "11c0a-11c2e 11c40 11c72-11c8f 11d00-11d06 11d08-11d09 11d0b-11d30 11d46 11d60-11d65",
          "11d67-11d68 11d6a-11d89 11d98 11ee0-11ef2 11f02 11f04-11f10 11f12-11f33 11fb0",
          "12000-12399 12480-12543 12f90-12ff0 13000-1342f 13441-13446 13460-143fa 14400-14646",
          "16100-1611d 16800-16a38 16a40-16a5e 16a70-16abe 16ad0-16aed 16b00-16b2f 16b63-16b77",
          "16b7d-16b8f 16d43-16d6a 16f00-16f4a 16f50 1bc00-1bc6a 1bc70-1bc7c 1bc80-1bc88",
          "1bc90-1bc99 1df0a 1e100-1e12c 1e14e 1e290-1e2ad 1e2c0-1e2eb 1e4d0-1e4ea 1e5d0-1e5ed",
          "1e5f0 1e7e0-1e7e6 1e7e8-1e7eb 1e7ed-1e7ee 1e7f0-1e7fe 1e800-1e8c4 1ee00-1ee03",
          "1ee05-1ee1f 1ee21-1ee22 1ee24 1ee27 1ee29-1ee32 1ee34-1ee37 1ee39 1ee3b 1ee42",
          "1ee47-1ee4b/2 1ee4d-1ee4f 1ee51-1ee52 1ee54 1ee57-1ee5f/2 1ee61-1ee62 1ee64 1ee67-1ee6a",
          "1ee6c-1ee72 1ee74-1ee77 1ee79-1ee7c 1ee7e 1ee80-1ee89 1ee8b-1ee9b 1eea1-1eea3",
          "1eea5-1eea9 1eeab-1eebb 1f130-1f149 1f150-1f169 1f170-1f189"
        ]
      less :=
        [
          "e46 ec6 17d7 1aa7 3007 3021-3029 3031-3035 3038-303a 309d-309e 30fc-30fe a9e6 aa70 aadd",
          "ff70 ff9e-ff9f 1aff0-1aff3 1aff5-1affb 1affd-1affe"
        ]
    },
    {
      names := ["cr"]
      more :=
        ["d"]
    },
    {
      names := ["doublequote", "dq"]
      more :=
        ["22"]
    },
    {
      names := ["extendnumlet", "ex"]
      more :=
        ["5f 202f 203f-2040 2054 fe33-fe34 fe4d-fe4f ff3f"]
    },
    {
      names := ["extend"]
      categories := [spacingMark, enclosingMark, nonspacingMark]
      more :=
        ["200c ff9e-ff9f 1f3fb-1f3ff e0020-e007f"]
    },
    {
      names := ["format", "fo"]
      more :=
        [
          "ad 61c 180e 200e-200f 202a-202e 2060-2064 2066-206f feff fff9-fffb 13430-1343f",
          "1bca0-1bca3 1d173-1d17a e0001"
        ]
    },
    {
      names := ["hebrewletter", "hl"]
      more :=
        ["5d0-5ea 5ef-5f2 fb1d fb1f-fb28 fb2a-fb36 fb38-fb3c fb3e fb40-fb41 fb43-fb44 fb46-fb4f"]
    },
    {
      names := ["katakana", "ka"]
      more :=
        [
          "3031-3035 309b-309c 30a0-30fa 30fc-30ff 31f0-31ff 32d0-32fe 3300-3357 ff66-ff9d",
          "1aff0-1aff3 1aff5-1affb 1affd-1affe 1b000 1b120-1b122 1b155 1b164-1b167"
        ]
    },
    {
      names := ["lf"]
      more :=
        ["a"]
    },
    {
      names := ["midnumlet", "mb"]
      more :=
        ["2e 2018-2019 2024 fe52 ff07 ff0e"]
    },
    {
      names := ["midletter", "ml"]
      more :=
        ["3a b7 387 55f 5f4 2027 fe13 fe55 ff1a"]
    },
    {
      names := ["midnum", "mn"]
      more :=
        ["2c 3b 37e 589 60c-60d 66c 7f8 2044 fe10 fe14 fe50 fe54 ff0c ff1b"]
    },
    {
      names := ["newline", "nl"]
      more :=
        ["b-c 85 2028-2029"]
    },
    {
      names := ["numeric", "nu"]
      categories := [decimalNumber]
      more :=
        ["600-605 66b 6dd 890-891 8e2 110bd 110cd"]
    },
    {
      names := ["regionalindicator", "ri"]
      more :=
        ["1f1e6-1f1ff"]
    },
    {
      names := ["singlequote", "sq"]
      more :=
        ["27"]
    },
    {
      names := ["wsegspace"]
      more :=
        ["20 1680 2000-2006 2008-200a 205f 3000"]
    },
    {
      names := ["zwj"]
      more :=
        ["200d"]
    }
  ]

def sentenceBreaks : List Property :=
  [
    {
      names := ["aterm", "at"]
      more :=
        ["2e 2024 fe52 ff0e"]
    },
    {
      names := ["close", "cl"]
      categories := [closePunctuation, finalPunctuation, initialPunctuation, openPunctuation]
      more :=
        ["22 27 275b-2760 2e00-2e01 2e06-2e08 2e0b 1f676-1f678"]
    },
    {
      names := ["cr"]
      more :=
        ["d"]
    },
    {
      names := ["extend", "ex"]
      categories := [spacingMark, enclosingMark, nonspacingMark]
      more :=
        ["200c-200d ff9e-ff9f e0020-e007f"]
    },
    {
      names := ["format", "fo"]
      more :=
        [
          "ad 61c 180e 200b 200e-200f 202a-202e 2060-2064 2066-206f feff fff9-fffb 13430-1343f",
          "1bca0-1bca3 1d173-1d17a e0001"
        ]
    },
    {
      names := ["oletter", "le"]
      categories := [otherLetter, letterNumber]
      more :=
        [
          "2b9-2bf 2c6-2d1 2ec 2ee 374 559 5f3 640 6e5-6e6 70f 7f4-7f5 7fa 81a 824 828 8c9 971 e46",
          "ec6 10d0-10fa 10fd-10ff 17d7 1843 1aa7 1c78-1c7d 1c90-1cba 1cbd-1cbf 2d6f 2e2f 3005",
          "3031-3035 303b 309d-309e 30fc-30fe a015 a4f8-a4fd a60c a67f a717-a71f a788 a9cf a9e6",
          "aa70 aadd aaf3-aaf4 ff70 10781-10782 10d4e 10d6f 16b40-16b43 16d40-16d42 16d6b-16d6c",
          "16f93-16f9f 16fe0-16fe1 16fe3 1aff0-1aff3 1aff5-1affb 1affd-1affe 1e137-1e13d 1e4eb",
          "1e94b"
        ]
      less :=
        ["aa ba 2160-217f"]
    },
    {
      names := ["lf"]
      more :=
        ["a"]
    },
    {
      names := ["lower", "lo"]
      categories := [lowercaseLetter]
      more :=
        [
          "aa ba 2b0-2b8 2c0-2c1 2e0-2e4 37a 10fc 1d2c-1d6a 1d78 1d9b-1dbf 2071 207f 2090-209c",
          "2170-217f 24d0-24e9 2c7c-2c7d a69c-a69d a770 a7f2-a7f4 a7f8-a7f9 ab5c-ab5f ab69 10780",
          "10783-10785 10787-107b0 107b2-107ba 1e030-1e06d"
        ]
      less :=
        ["10d0-10fa 10fd-10ff"]
    },
    {
      names := ["numeric", "nu"]
      categories := [decimalNumber]
      more :=
        ["600-605 66b-66c 6dd 890-891 8e2 110bd 110cd"]
    },
    {
      names := ["scontinue", "sc"]
      more :=
        [
          "2c-2d 3a-3b 37e 55d 60c-60d 7f8 1802 1808 2013-2014 3001 fe10-fe11 fe13-fe14 fe31-fe32",
          "fe50-fe51 fe54-fe55 fe58 fe63 ff0c-ff0d ff1a-ff1b ff64"
        ]
    },
    {
      names := ["sep", "se"]
      more :=
        ["85 2028-2029"]
    },
    {
      names := ["sp"]
      more :=
        ["9 b-c 20 a0 1680 2000-200a 202f 205f 3000"]
    },
    {
      names := ["sterm", "st"]
      more :=
        [
          "21 3f 589 61d-61f 6d4 700-702 7f9 837 839 83d-83e 964-965 104a-104b 1362 1367-1368 166e",
          "1735-1736 17d4-17d5 1803 1809 1944-1945 1aa8-1aab 1b4e-1b4f 1b5a-1b5b 1b5e-1b5f",
          "1b7d-1b7f 1c3b-1c3c 1c7e-1c7f 203c-203d 2047-2049 2cf9-2cfb 2e2e 2e3c 2e53-2e54 3002",
          "a4ff a60e-a60f a6f3 a6f7 a876-a877 a8ce-a8cf a92f a9c8-a9c9 aa5d-aa5f aaf0-aaf1 abeb",
          "fe12 fe15-fe16 fe56-fe57 ff01 ff1f ff61 10a56-10a57 10f55-10f59 10f86-10f89 11047-11048",
          "110be-110c1 11141-11143 111c5-111c6 111cd 111de-111df 11238-11239 1123b-1123c 112a9",
          "113d4-113d5 1144b-1144c 115c2-115c3 115c9-115d7 11641-11642 1173c-1173e 11944 11946",
          "11a42-11a43 11a9b-11a9c 11c41-11c42 11ef7-11ef8 11f43-11f44 16a6e-16a6f 16af5",
          "16b37-16b38 16b44 16d6e-16d6f 16e98 1bc9f 1da88"
        ]
    },
    {
      names := ["upper", "up"]
      categories := [titlecaseLetter, uppercaseLetter]
      more :=
        ["2160-216f 24b6-24cf 1f130-1f149 1f150-1f169 1f170-1f189"]
      less :=
        ["1c90-1cba 1cbd-1cbf"]
    }
  ]

end NetScript.Unicode
