import CatalogCrawl.Text.Table

/-! # Directions

In which direction a character is written, as far as the rule for names with parts written from
right to left asks for it. -/

namespace CatalogCrawl.Url.Domain

inductive Direction where
  | leftToRight
  | rightToLeft
  | arabicLetter
  | arabicNumber
  | europeanNumber
  | nonspacingMark
  /-- Separators, terminators and other neutral characters. -/
  | neutral
  deriving DecidableEq, Repr

def Direction.ofName (name : List Char) : Direction :=
  if name = ['R'] then .rightToLeft
  else if name = ['A', 'L'] then .arabicLetter
  else if name = ['A', 'N'] then .arabicNumber
  else if name = ['E', 'N'] then .europeanNumber
  else if name = ['N', 'S', 'M'] then .nonspacingMark
  else .neutral

/-- The characters that are not written from left to right, of those that host names may have. -/
def directions : Text.Table Direction := .ofText Direction.ofName "
  21-22=ON 23-25=ET 26-2a=ON 2b=ES 2c=CS 2d=ES 2e-2f=CS 30-39=EN 3a=CS 3b-40=ON 5b-60=ON 7b-a1=ON
  a2-a5=ET a6-ae=ON b0-b1=ET b6-d7=ON f7=ON 2b9-2ba=ON 2c2-2cf=ON 2d2-2ed=ON 2ef-2ff=ON
  300-36f=NSM 375=ON 3f6=ON 483-489=NSM 58a-58e=ON 58f=ET 591-5bd=NSM 5be=R 5bf=NSM 5c0=R
  5c1-5c2=NSM 5c3=R 5c4-5c5=NSM 5c6=R 5c7=NSM 5d0-5f4=R 606-607=ON 608=AL 609-60a=ET 60b=AL 60c=CS
  60d=AL 60e-60f=ON 610-61a=NSM 61b-64a=AL 64b-65f=NSM 660-669=AN 66a=ET 66b-66c=AN 66d-66f=AL
  670=NSM 671-6d5=AL 6d6-6dc=NSM 6de=ON 6df-6e4=NSM 6e5-6e6=AL 6e7-6e8=NSM 6e9=ON 6ea-6ed=NSM
  6ee-6ef=AL 6f0-6f9=EN 6fa-710=AL 711=NSM 712-72f=AL 730-74a=NSM 74d-7a5=AL 7a6-7b0=NSM 7b1=AL
  7c0-7ea=R 7eb-7f3=NSM 7f4-7f5=R 7f6-7f9=ON 7fa=R 7fd=NSM 7fe-815=R 816-819=NSM 81a=R 81b-823=NSM
  824=R 825-827=NSM 828=R 829-82d=NSM 830-858=R 859-85b=NSM 85e=R 860-88f=AL 897-89f=NSM
  8a0-8c9=AL 8ca-902=NSM 93a=NSM 93c=NSM 941-948=NSM 94d=NSM 951-957=NSM 962-963=NSM 981=NSM
  9bc=NSM 9c1-9c4=NSM 9cd=NSM 9e2-9e3=NSM 9f2-9f3=ET 9fb=ET 9fe-a02=NSM a3c=NSM a41-a51=NSM
  a70-a71=NSM a75=NSM a81-a82=NSM abc=NSM ac1-ac8=NSM acd=NSM ae2-ae3=NSM af1=ET afa-b01=NSM
  b3c=NSM b3f=NSM b41-b44=NSM b4d-b56=NSM b62-b63=NSM b82=NSM bc0=NSM bcd=NSM bf3-bf8=ON bf9=ET
  bfa=ON c00=NSM c04=NSM c3c=NSM c3e-c40=NSM c46-c56=NSM c62-c63=NSM c78-c7e=ON c81=NSM cbc=NSM
  ccc-ccd=NSM ce2-ce3=NSM d00-d01=NSM d3b-d3c=NSM d41-d44=NSM d4d=NSM d62-d63=NSM d81=NSM dca=NSM
  dd2-dd6=NSM e31=NSM e34-e3a=NSM e3f=ET e47-e4e=NSM eb1=NSM eb4-ebc=NSM ec8-ece=NSM f18-f19=NSM
  f35=NSM f37=NSM f39=NSM f3a-f3d=ON f71-f7e=NSM f80-f84=NSM f86-f87=NSM f8d-fbc=NSM fc6=NSM
  102d-1030=NSM 1032-1037=NSM 1039-103a=NSM 103d-103e=NSM 1058-1059=NSM 105e-1060=NSM
  1071-1074=NSM 1082=NSM 1085-1086=NSM 108d=NSM 109d=NSM 135d-135f=NSM 1390-1399=ON 1400=ON
  169b-169c=ON 1712-1714=NSM 1732-1733=NSM 1752-1753=NSM 1772-1773=NSM 17b7-17bd=NSM 17c6=NSM
  17c9-17d3=NSM 17db=ET 17dd=NSM 17f0-180a=ON 1885-1886=NSM 18a9=NSM 1920-1922=NSM 1927-1928=NSM
  1932=NSM 1939-193b=NSM 1940-1945=ON 19de-19ff=ON 1a17-1a18=NSM 1a1b=NSM 1a56=NSM 1a58-1a60=NSM
  1a62=NSM 1a65-1a6c=NSM 1a73-1a7f=NSM 1ab0-1b03=NSM 1b34=NSM 1b36-1b3a=NSM 1b3c=NSM 1b42=NSM
  1b6b-1b73=NSM 1b80-1b81=NSM 1ba2-1ba5=NSM 1ba8-1ba9=NSM 1bab-1bad=NSM 1be6=NSM 1be8-1be9=NSM
  1bed=NSM 1bef-1bf1=NSM 1c2c-1c33=NSM 1c36-1c37=NSM 1cd0-1cd2=NSM 1cd4-1ce0=NSM 1ce2-1ce8=NSM
  1ced=NSM 1cf4=NSM 1cf8-1cf9=NSM 1dc0-1dff=NSM 200c-200d=BN 2010-2027=ON 2030-2032=ET
  2035-2043=ON 2044=CS 2045-205e=ON 20a0-20c1=ET 20d0-20f0=NSM 2104-2129=ON 212e=ET 213a-214d=ON
  218a-2211=ON 2212=ES 2213=ET 2214-2335=ON 237b-2394=ON 2396-26ab=ON 26ad-27ff=ON 2900-2bff=ON
  2ce5-2cea=ON 2cef-2cf1=NSM 2cf9-2cff=ON 2d7f=NSM 2de0-2dff=NSM 2e00-3004=ON 3008-3020=ON
  302a-302d=NSM 3030=ON 3037=ON 303d-303f=ON 3099-309a=NSM 30a0=ON 30fb=ON 31c0-31e5=ON
  4dc0-4dff=ON a490-a4c6=ON a60d-a60f=ON a66f-a672=NSM a673=ON a674-a67d=NSM a67e-a67f=ON
  a69e-a69f=NSM a6f0-a6f1=NSM a700-a721=ON a788=ON a802=NSM a806=NSM a80b=NSM a825-a826=NSM
  a828-a82b=ON a82c=NSM a838-a839=ET a874-a877=ON a8c4-a8c5=NSM a8e0-a8f1=NSM a8ff=NSM
  a926-a92d=NSM a947-a951=NSM a980-a982=NSM a9b3=NSM a9b6-a9b9=NSM a9bc-a9bd=NSM a9e5=NSM
  aa29-aa2e=NSM aa31-aa32=NSM aa35-aa36=NSM aa43=NSM aa4c=NSM aa7c=NSM aab0=NSM aab2-aab4=NSM
  aab7-aab8=NSM aabe-aabf=NSM aac1=NSM aaec-aaed=NSM aaf6=NSM ab6a-ab6b=ON abe5=NSM abe8=NSM
  abed=NSM fb1e=NSM fbb2-fbc2=AL fbc3-fdff=ON fe20-fe2f=NSM fe45-fe46=ON fe73=AL 10101=ON
  10140-1018c=ON 10190-101a0=ON 101fd=NSM 102e0=NSM 102e1-102fb=EN 10376-1037a=NSM 10800-1091b=R
  1091f=ON 10920-10a00=R 10a01-10a0f=NSM 10a10-10a35=R 10a38-10a3f=NSM 10a40-10ae4=R
  10ae5-10ae6=NSM 10aeb-10b35=R 10b39-10b3f=ON 10b40-10cff=R 10d00-10d23=AL 10d24-10d27=NSM
  10d30-10d49=AN 10d4a-10d4f=R 10d69-10d6d=NSM 10d6e=ON 10d6f-10d8f=R 10e60-10e7e=AN 10e80-10ea9=R
  10eab-10eac=NSM 10ead-10eb1=R 10ec2-10ec7=AL 10ed0-10ed8=ON 10efa-10eff=NSM 10f00-10f27=R
  10f30-10f45=AL 10f46-10f50=NSM 10f51-10f59=AL 10f70-10f81=R 10f82-10f85=NSM 10f86-10ff6=R
  11001=NSM 11038-11046=NSM 11052-11065=ON 11070=NSM 11073-11074=NSM 1107f-11081=NSM
  110b3-110b6=NSM 110b9-110ba=NSM 110c2=NSM 11100-11102=NSM 11127-1112b=NSM 1112d-11134=NSM
  11173=NSM 11180-11181=NSM 111b6-111be=NSM 111c9-111cc=NSM 111cf=NSM 1122f-11231=NSM 11234=NSM
  11236-11237=NSM 1123e=NSM 11241=NSM 112df=NSM 112e3-112ea=NSM 11300-11301=NSM 1133b-1133c=NSM
  11340=NSM 11366-11374=NSM 113bb-113c0=NSM 113ce=NSM 113d0=NSM 113d2=NSM 113e1-113e2=NSM
  11438-1143f=NSM 11442-11444=NSM 11446=NSM 1145e=NSM 114b3-114b8=NSM 114ba=NSM 114bf-114c0=NSM
  114c2-114c3=NSM 115b2-115b5=NSM 115bc-115bd=NSM 115bf-115c0=NSM 115dc-115dd=NSM 11633-1163a=NSM
  1163d=NSM 1163f-11640=NSM 11660-1166c=ON 116ab=NSM 116ad=NSM 116b0-116b5=NSM 116b7=NSM
  1171d-1171f=NSM 11722-11725=NSM 11727-1172b=NSM 1182f-11837=NSM 11839-1183a=NSM 1193b-1193c=NSM
  1193e=NSM 11943=NSM 119d4-119db=NSM 119e0=NSM 11a01-11a06=NSM 11a09-11a0a=NSM 11a33-11a38=NSM
  11a3b-11a3e=NSM 11a47=NSM 11a51-11a56=NSM 11a59-11a5b=NSM 11a8a-11a96=NSM 11a98-11a99=NSM
  11b60=NSM 11b62-11b64=NSM 11b66=NSM 11c30-11c3d=NSM 11c92-11ca7=NSM 11caa-11cb0=NSM
  11cb2-11cb3=NSM 11cb5-11cb6=NSM 11d31-11d45=NSM 11d47=NSM 11d90-11d91=NSM 11d95=NSM 11d97=NSM
  11ef3-11ef4=NSM 11f00-11f01=NSM 11f36-11f3a=NSM 11f40=NSM 11f42=NSM 11f5a=NSM 11fd5-11fdc=ON
  11fdd-11fe0=ET 11fe1-11ff1=ON 13440=NSM 13447-13455=NSM 1611e-16129=NSM 1612d-1612f=NSM
  16af0-16af4=NSM 16b30-16b36=NSM 16f4f=NSM 16f8f-16f92=NSM 16fe2=ON 16fe4=NSM 1bc9d-1bc9e=NSM
  1cc00-1cef0=ON 1cf00-1cf46=NSM 1d167-1d169=NSM 1d17b-1d182=NSM 1d185-1d18b=NSM 1d1aa-1d1ad=NSM
  1d1e9-1d241=ON 1d242-1d244=NSM 1d245=ON 1d300-1d356=ON 1da00-1da36=NSM 1da3b-1da6c=NSM 1da75=NSM
  1da84=NSM 1da9b-1daaf=NSM 1e000-1e08f=NSM 1e130-1e136=NSM 1e2ae=NSM 1e2ec-1e2ef=NSM 1e2ff=ET
  1e4ec-1e4ef=NSM 1e5ee-1e5ef=NSM 1e6e3=NSM 1e6e6=NSM 1e6ee-1e6ef=NSM 1e6f5=NSM 1e800-1e8cf=R
  1e8d0-1e8d6=NSM 1e922-1e943=R 1e944-1e94a=NSM 1e94b-1e95f=R 1ec71-1ed3d=AL 1eef0-1f12f=ON
  1f16d-1f16f=ON 1f1ad=ON 1f260-1fbfa=ON"

def directionOf (c : Char) : Direction :=
  match directions.find? c.toNat with
  | some s => s.value
  | none => .leftToRight

end CatalogCrawl.Url.Domain
