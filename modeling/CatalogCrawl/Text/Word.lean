import CatalogCrawl.Text.Alphanumeric

/-! # Words

The characters that words are made of, and the decimal digits, in all scripts. -/

namespace CatalogCrawl.Text

/-- The characters of words beyond ASCII that are neither letters nor of a number category: marks,
connectors and joiners. -/
def wordMarks : Table Unit := .setOfText "
  300-344 346-362 483-489 591-5af 658 6df-6e0 6ea-6ec 740-74a 7eb-7f3 7fd 818-819 82d 859-85b
  898-89f 8ca-8d3 8e0-8e1 8ea-8ef 93c 94d 951-954 9bc 9cd 9fe a3c a4d abc acd afd-aff b3c b4d b55
  bcd c3c c4d cbc ccd d3b-d3c d4d dca e47-e4c e4e eba ec8-ecc ece f18-f19 f35 f37 f39 f3e-f3f f84
  f86-f87 fc6 1037 1039-103a 135d-135f 1714-1715 1734 17b4-17b5 17c9-17d3 17dd 180b-180d 180f
  1939-193b 1a60 1a75-1a7c 1a7f 1ab0-1abe 1ac1-1acb 1acf-1add 1ae0-1aeb 1b34 1b44 1b6b-1b73
  1baa-1bab 1be6 1bf2-1bf3 1c37 1cd0-1cd2 1cd4-1ce8 1ced 1cf4 1cf7-1cf9 1dc0-1dd2 1df5-1dff
  200c-200d 203f-2040 2054 20d0-20f0 2cef-2cf1 2d7f 302a-302f 3099-309a a66f-a672 a67c-a67d
  a6f0-a6f1 a806 a82c a8c4 a8e0-a8f1 a92b-a92d a953 a9b3 a9c0 aabf aac1 aaf6 abec-abed fe00-fe0f
  fe20-fe2f fe33-fe34 fe4d-fe4f ff3f 101fd 102e0 10a38-10a3a 10a3f 10ae5-10ae6 10d6a-10d6d
  10efd-10eff 10f46-10f50 10f82-10f85 11046 11070 1107f 110b9-110ba 11133-11134 11173 111c0
  111c9-111cc 11235-11236 112e9-112ea 1133b-1133c 1134d 11366-1136c 11370-11374 113ce-113d0 113d2
  113e1-113e2 11442 11446 1145e 114c2-114c3 115bf-115c0 1163f 116b6-116b7 1172b 11839-1183a
  1193d-1193e 11943 119e0 11a33-11a34 11a47 11a98-11a99 11c3f 11d42 11d44-11d45 11d97 11f41-11f42
  11f5a 13440 13447-13455 1612f 16af0-16af4 16b30-16b36 16fe4 1bc9d 1cf00-1cf2d 1cf30-1cf46
  1d165-1d169 1d16d-1d172 1d17b-1d182 1d185-1d18b 1d1aa-1d1ad 1d242-1d244 1da00-1da36 1da3b-1da6c
  1da75 1da84 1da9b-1da9f 1daa1-1daaf 1e130-1e136 1e2ae 1e2ec-1e2ef 1e4ec-1e4ef 1e5ee-1e5ef
  1e8d0-1e8d6 1e944-1e946 1e948-1e94a e0100-e01ef"

/-- The characters of the category `No` that are no letters. They are not part of words. -/
def plainNumbers : Table Unit := .setOfText "
  b2-b3 b9 bc-be 9f4-9f9 b72-b77 bf0-bf2 c78-c7e d58-d5e d70-d78 f2a-f33 1369-137c 17f0-17f9 19da
  2070 2074-2079 2080-2089 2150-215f 2189 2460-249b 24ea-24ff 2776-2793 2cfd 3192-3195 3220-3229
  3248-324f 3251-325f 3280-3289 32b1-32bf a830-a835 10107-10133 10175-10178 1018a-1018b
  102e1-102fb 10320-10323 10858-1085f 10879-1087f 108a7-108af 108fb-108ff 10916-1091b 109bc-109bd
  109c0-109cf 109d2-109ff 10a40-10a48 10a7d-10a7e 10a9d-10a9f 10aeb-10aef 10b58-10b5f 10b78-10b7f
  10ba9-10baf 10cfa-10cff 10e60-10e7e 10f1d-10f26 10f51-10f54 10fc5-10fcb 11052-11065 111e1-111f4
  1173a-1173b 118ea-118f2 11c5a-11c6c 11fc0-11fd4 16b5b-16b61 16e80-16e96 1d2c0-1d2d3 1d2e0-1d2f3
  1d360-1d378 1e8c7-1e8cf 1ec71-1ecab 1ecad-1ecaf 1ecb1-1ecb4 1ed01-1ed2d 1ed2f-1ed3d 1f100-1f10c"

/-- The characters beyond ASCII of the category `Nd`. -/
def decimals : Table Unit := .setOfText "
  660-669 6f0-6f9 7c0-7c9 966-96f 9e6-9ef a66-a6f ae6-aef b66-b6f be6-bef c66-c6f ce6-cef d66-d6f
  de6-def e50-e59 ed0-ed9 f20-f29 1040-1049 1090-1099 17e0-17e9 1810-1819 1946-194f 19d0-19d9
  1a80-1a89 1a90-1a99 1b50-1b59 1bb0-1bb9 1c40-1c49 1c50-1c59 a620-a629 a8d0-a8d9 a900-a909
  a9d0-a9d9 a9f0-a9f9 aa50-aa59 abf0-abf9 ff10-ff19 104a0-104a9 10d30-10d39 10d40-10d49
  11066-1106f 110f0-110f9 11136-1113f 111d0-111d9 112f0-112f9 11450-11459 114d0-114d9 11650-11659
  116c0-116c9 116d0-116e3 11730-11739 118e0-118e9 11950-11959 11bf0-11bf9 11c50-11c59 11d50-11d59
  11da0-11da9 11de0-11de9 11f50-11f59 16130-16139 16a60-16a69 16ac0-16ac9 16b50-16b59 16d70-16d79
  1ccf0-1ccf9 1d7ce-1d7ff 1e140-1e149 1e2f0-1e2f9 1e4f0-1e4f9 1e5f1-1e5fa 1e950-1e959 1fbf0-1fbf9"

/-- Whether a character is part of words. -/
def isWord (c : Char) : Bool :=
  if c.toNat < 0x80 then c.isAlphanum || c == '_'
  else (isAlphanumeric c && !plainNumbers.contains c.toNat) || wordMarks.contains c.toNat

/-- Whether a character is a decimal digit. -/
def isDecimal (c : Char) : Bool := if c.toNat < 0x80 then c.isDigit else decimals.contains c.toNat

end CatalogCrawl.Text
