import CatalogCrawl.Text.Table

/-! # Combining classes

The canonical combining class of a character says how marks on one base character are ordered: marks
of one class stay in their order, and marks of different classes are put in ascending order. -/

namespace CatalogCrawl.Text

def decimalNumber (cs : List Char) : Nat := Nat.ofDigitChars 10 cs 0

/-- The marks with a combining class other than 0, of those that host names may have. -/
def combiningClasses : Table Nat := .ofText decimalNumber "
  300-314=230 315=232 316-319=220 31a=232 31b=216 31c-320=220 321-322=202 323-326=220 327-328=202
  329-333=220 334-338=1 339-33c=220 33d-346=230 347-349=220 34a-34c=230 34d-34e=220 350-352=230
  353-356=220 357=230 358=232 359-35a=220 35b=230 35c=233 35d-35e=234 35f=233 360-361=234 362=233
  363-36f=230 483-487=230 591=220 592-595=230 596=220 597-599=230 59a=222 59b=220 59c-5a1=230
  5a2-5a7=220 5a8-5a9=230 5aa=220 5ab-5ac=230 5ad=222 5ae=228 5af=230 5b0=10 5b1=11 5b2=12 5b3=13
  5b4=14 5b5=15 5b6=16 5b7=17 5b8=18 5b9-5ba=19 5bb=20 5bc=21 5bd=22 5bf=23 5c1=24 5c2=25 5c4=230
  5c5=220 5c7=18 610-617=230 618=30 619=31 61a=32 64b=27 64c=28 64d=29 64e=30 64f=31 650=32 651=33
  652=34 653-654=230 655-656=220 657-65b=230 65c=220 65d-65e=230 65f=220 670=35 6d6-6dc=230
  6df-6e2=230 6e3=220 6e4=230 6e7-6e8=230 6ea=220 6eb-6ec=230 6ed=220 711=36 730=230 731=220
  732-733=230 734=220 735-736=230 737-739=220 73a=230 73b-73c=220 73d=230 73e=220 73f-741=230
  742=220 743=230 744=220 745=230 746=220 747=230 748=220 749-74a=230 7eb-7f1=230 7f2=220 7f3=230
  7fd=220 816-819=230 81b-823=230 825-827=230 829-82d=230 859-85b=220 897-898=230 899-89b=220
  89c-89f=230 8ca-8ce=230 8cf-8d3=220 8d4-8e1=230 8e3=220 8e4-8e5=230 8e6=220 8e7-8e8=230 8e9=220
  8ea-8ec=230 8ed-8ef=220 8f0=27 8f1=28 8f2=29 8f3-8f5=230 8f6=220 8f7-8f8=230 8f9-8fa=220
  8fb-8ff=230 93c=7 94d=9 951=230 952=220 953-954=230 9bc=7 9cd=9 9fe=230 a3c=7 a4d=9 abc=7 acd=9
  b3c=7 b4d=9 bcd=9 c3c=7 c4d=9 c55=84 c56=91 cbc=7 ccd=9 d3b-d3c=9 d4d=9 dca=9 e38-e39=103 e3a=9
  e48-e4b=107 eb8-eb9=118 eba=9 ec8-ecb=122 f18-f19=220 f35=220 f37=220 f39=216 f71=129 f72=130
  f74=132 f7a-f7d=130 f80=130 f82-f83=230 f84=9 f86-f87=230 fc6=220 1037=7 1039-103a=9 108d=220
  135d-135f=230 1714-1715=9 1734=9 17d2=9 17dd=230 18a9=228 1939=222 193a=230 193b=220 1a17=230
  1a18=220 1a60=9 1a75-1a7c=230 1a7f=220 1ab0-1ab4=230 1ab5-1aba=220 1abb-1abc=230 1abd=220
  1abf-1ac0=220 1ac1-1ac2=230 1ac3-1ac4=220 1ac5-1ac9=230 1aca=220 1acb-1adc=230 1add=220
  1ae0-1ae5=230 1ae6=220 1ae7-1aea=230 1aeb=234 1b34=7 1b44=9 1b6b=230 1b6c=220 1b6d-1b73=230
  1baa-1bab=9 1be6=7 1bf2-1bf3=9 1c37=7 1cd0-1cd2=230 1cd4=1 1cd5-1cd9=220 1cda-1cdb=230
  1cdc-1cdf=220 1ce0=230 1ce2-1ce8=1 1ced=220 1cf4=230 1cf8-1cf9=230 1dc0-1dc1=230 1dc2=220
  1dc3-1dc9=230 1dca=220 1dcb-1dcc=230 1dcd=234 1dce=214 1dcf=220 1dd0=202 1dd1-1df5=230 1df6=232
  1df7-1df8=228 1df9=220 1dfa=218 1dfb=230 1dfc=233 1dfd=220 1dfe=230 1dff=220 20d0-20d1=230
  20d2-20d3=1 20d4-20d7=230 20d8-20da=1 20db-20dc=230 20e1=230 20e5-20e6=1 20e7=230 20e8=220
  20e9=230 20ea-20eb=1 20ec-20ef=220 20f0=230 2cef-2cf1=230 2d7f=9 2de0-2dff=230 302a=218 302b=228
  302c=232 302d=222 302e-302f=224 3099-309a=8 a66f=230 a674-a67d=230 a69e-a69f=230 a6f0-a6f1=230
  a806=9 a82c=9 a8c4=9 a8e0-a8f1=230 a92b-a92d=220 a953=9 a9b3=7 a9c0=9 aab0=230 aab2-aab3=230
  aab4=220 aab7-aab8=230 aabe-aabf=230 aac1=230 aaf6=9 abed=9 fb1e=26 fe20-fe26=230 fe27-fe2d=220
  fe2e-fe2f=230 101fd=220 102e0=220 10376-1037a=230 10a0d=220 10a0f=230 10a38=230 10a39=1
  10a3a=220 10a3f=9 10ae5=230 10ae6=220 10d24-10d27=230 10d69-10d6d=230 10eab-10eac=230
  10efa-10efb=220 10efd-10eff=220 10f46-10f47=220 10f48-10f4a=230 10f4b=220 10f4c=230
  10f4d-10f50=220 10f82=230 10f83=220 10f84=230 10f85=220 11046=9 11070=9 1107f=9 110b9=9 110ba=7
  11100-11102=230 11133-11134=9 11173=7 111c0=9 111ca=7 11235=9 11236=7 112e9=7 112ea=9
  1133b-1133c=7 1134d=9 11366-11374=230 113ce-113d0=9 11442=9 11446=7 1145e=230 114c2=9 114c3=7
  115bf=9 115c0=7 1163f=9 116b6=9 116b7=7 1172b=9 11839=9 1183a=7 1193d-1193e=9 11943=7 119e0=9
  11a34=9 11a47=9 11a99=9 11c3f=9 11d42=7 11d44-11d45=9 11d97=9 11f41-11f42=9 1612f=9
  16af0-16af4=1 16b30-16b36=230 16ff0-16ff1=6 1bc9e=1 1d165-1d166=216 1d167-1d169=1 1d16d=226
  1d16e-1d172=216 1d17b-1d182=220 1d185-1d189=230 1d18a-1d18b=220 1d1aa-1d1ad=230 1d242-1d244=230
  1e000-1e08f=230 1e130-1e136=230 1e2ae=230 1e2ec-1e2ef=230 1e4ec-1e4ed=232 1e4ee=220 1e4ef=230
  1e5ee=230 1e5ef=220 1e6e3=230 1e6e6=230 1e6ee-1e6ef=230 1e6f5=230 1e8d0-1e8d6=220
  1e944-1e949=230 1e94a=7"

def combiningClass (c : Char) : Nat :=
  match combiningClasses.find? c.toNat with
  | some s => s.value
  | none => 0

/-- The class of the signs that silence the vowel of a letter. -/
def viramaClass : Nat := 9

end CatalogCrawl.Text
