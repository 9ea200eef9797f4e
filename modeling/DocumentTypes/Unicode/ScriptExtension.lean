import DocumentTypes.Unicode.Script

/-! # Script extensions

Some code points are used with several scripts, or with others than their own. The
extensions of a script are all code points used with it: those listed here for it,
and its own members that are not listed at all. -/

namespace DocumentTypes.Unicode

/-- Code points together with the codes of all scripts that they are used with. -/
structure SharedCodes where
  scripts : List String
  members : CodeSet
  deriving DecidableEq, Repr

def sharedCodes : List SharedCodes := [
  ⟨["Avst", "Cari", "Copt", "Dupl", "Elba", "Geor", "Glag", "Gong", "Goth", "Grek", "Hani",
    "Latn", "Lydi", "Mahj", "Perm", "Shaw"], .read
    "B7"⟩,
  ⟨["Beng", "Cyrl", "Deva", "Latn", "Lisu", "Thai", "Toto"], .read
    "2BC"⟩,
  ⟨["Bopo", "Latn"], .read
    "2C7 2C9-2CB 2D9"⟩,
  ⟨["Latn", "Lisu"], .read
    "2CD"⟩,
  ⟨["Latn", "Thai"], .read
    "2D7"⟩,
  ⟨["Cher", "Copt", "Cyrl", "Grek", "Latn", "Perm", "Sunu", "Tale"], .read
    "300"⟩,
  ⟨["Cher", "Cyrl", "Grek", "Latn", "Osge", "Sunu", "Tale", "Todr"], .read
    "301"⟩,
  ⟨["Cher", "Cyrl", "Latn", "Tfng"], .read
    "302"⟩,
  ⟨["Glag", "Latn", "Sunu", "Syrc", "Thai"], .read
    "303"⟩,
  ⟨["Aghb", "Cher", "Copt", "Cyrl", "Goth", "Grek", "Latn", "Osge", "Syrc", "Tfng", "Todr"], .read
    "304"⟩,
  ⟨["Copt", "Elba", "Glag", "Goth", "Kana", "Latn"], .read
    "305"⟩,
  ⟨["Cyrl", "Grek", "Latn", "Perm", "Tfng"], .read
    "306"⟩,
  ⟨["Copt", "Dupl", "Hebr", "Latn", "Perm", "Syrc", "Tale", "Tfng", "Todr"], .read
    "307"⟩,
  ⟨["Armn", "Cyrl", "Dupl", "Goth", "Grek", "Hebr", "Latn", "Perm", "Syrc", "Tale", "Tfng"], .read
    "308"⟩,
  ⟨["Latn", "Tfng"], .read
    "309"⟩,
  ⟨["Dupl", "Latn", "Syrc"], .read
    "30A"⟩,
  ⟨["Cher", "Cyrl", "Latn", "Osge"], .read
    "30B"⟩,
  ⟨["Cher", "Latn", "Tale"], .read
    "30C"⟩,
  ⟨["Latn", "Sunu"], .read
    "30D 310"⟩,
  ⟨["Ethi", "Latn"], .read
    "30E"⟩,
  ⟨["Cyrl", "Latn", "Todr"], .read
    "311"⟩,
  ⟨["Grek", "Latn", "Perm", "Todr"], .read
    "313"⟩,
  ⟨["Cher", "Dupl", "Kana", "Latn", "Syrc", "Tfng"], .read
    "323"⟩,
  ⟨["Cher", "Dupl", "Latn", "Syrc"], .read
    "324"⟩,
  ⟨["Latn", "Syrc"], .read
    "325 32E"⟩,
  ⟨["Latn", "Sunu", "Syrc"], .read
    "32D"⟩,
  ⟨["Cher", "Latn", "Syrc"], .read
    "330"⟩,
  ⟨["Aghb", "Cher", "Goth", "Latn", "Sunu", "Syrc", "Thai"], .read
    "331"⟩,
  ⟨["Grek"], .read
    "342 345 1DC0-1DC1"⟩,
  ⟨["Latn", "Osge"], .read
    "358"⟩,
  ⟨["Aghb", "Latn", "Todr"], .read
    "35E"⟩,
  ⟨["Latn"], .read
    "363-36F"⟩,
  ⟨["Copt", "Grek"], .read
    "374-375"⟩,
  ⟨["Cyrl", "Perm"], .read
    "483"⟩,
  ⟨["Cyrl", "Glag"], .read
    "484 487 2E43 A66F"⟩,
  ⟨["Cyrl", "Latn"], .read
    "485-486"⟩,
  ⟨["Armn", "Geor", "Glag"], .read
    "589"⟩,
  ⟨["Arab", "Gara", "Nkoo", "Rohg", "Syrc", "Thaa", "Yezi"], .read
    "60C 61B"⟩,
  ⟨["Arab", "Syrc", "Thaa"], .read
    "61C"⟩,
  ⟨["Adlm", "Arab", "Gara", "Nkoo", "Rohg", "Syrc", "Thaa", "Yezi"], .read
    "61F"⟩,
  ⟨["Adlm", "Arab", "Mand", "Mani", "Ougr", "Phlp", "Rohg", "Sogd", "Syrc"], .read
    "640"⟩,
  ⟨["Arab", "Syrc"], .read
    "64B-655 670"⟩,
  ⟨["Arab", "Thaa", "Yezi"], .read
    "660-669"⟩,
  ⟨["Arab", "Rohg"], .read
    "6D4"⟩,
  ⟨["Beng", "Deva", "Gran", "Gujr", "Guru", "Knda", "Latn", "Mlym", "Nand", "Newa", "Orya",
    "Shrd", "Taml", "Telu", "Tirh"], .read
    "951"⟩,
  ⟨["Beng", "Deva", "Gran", "Gujr", "Guru", "Knda", "Latn", "Mlym", "Newa", "Orya", "Taml",
    "Telu", "Tirh"], .read
    "952"⟩,
  ⟨["Beng", "Deva", "Dogr", "Gong", "Gonm", "Gran", "Gujr", "Guru", "Knda", "Mahj", "Mlym",
    "Nand", "Onao", "Orya", "Sind", "Sinh", "Sylo", "Takr", "Taml", "Telu", "Tirh"], .read
    "964"⟩,
  ⟨["Beng", "Deva", "Dogr", "Gong", "Gonm", "Gran", "Gujr", "Gukh", "Guru", "Knda", "Limb",
    "Mahj", "Mlym", "Nand", "Onao", "Orya", "Sind", "Sinh", "Sylo", "Takr", "Taml", "Telu",
    "Tirh"], .read
    "965"⟩,
  ⟨["Deva", "Dogr", "Kthi", "Mahj"], .read
    "966-96F"⟩,
  ⟨["Beng", "Cakm", "Sylo"], .read
    "9E6-9EF"⟩,
  ⟨["Guru", "Mult"], .read
    "A66-A6F"⟩,
  ⟨["Gujr", "Khoj"], .read
    "AE6-AEF"⟩,
  ⟨["Gran", "Taml"], .read
    "BE6-BF3 11301 11303 1133B-1133C 11FD0-11FD1 11FD3"⟩,
  ⟨["Knda", "Nand", "Tutg"], .read
    "CE6-CEF"⟩,
  ⟨["Cakm", "Mymr", "Tale"], .read
    "1040-1049"⟩,
  ⟨["Geor", "Glag", "Latn"], .read
    "10FB"⟩,
  ⟨["Runr"], .read
    "16EB-16ED"⟩,
  ⟨["Buhd", "Hano", "Tagb", "Tglg"], .read
    "1735-1736"⟩,
  ⟨["Mong", "Phag"], .read
    "1802-1803 1805"⟩,
  ⟨["Beng", "Deva", "Gran", "Knda"], .read
    "1CD0 1CD2"⟩,
  ⟨["Deva"], .read
    "1CD1 1CD4 1CDB 1CDE-1CDF 1CE3-1CE8 1CEC 1CEE-1CF1"⟩,
  ⟨["Deva", "Gran", "Knda"], .read
    "1CD3"⟩,
  ⟨["Beng", "Deva", "Newa", "Telu", "Tirh"], .read
    "1CD5"⟩,
  ⟨["Beng", "Deva", "Telu"], .read
    "1CD6"⟩,
  ⟨["Deva", "Newa", "Shrd"], .read
    "1CD7"⟩,
  ⟨["Beng", "Deva", "Newa", "Telu"], .read
    "1CD8"⟩,
  ⟨["Deva", "Shrd"], .read
    "1CD9 1CDC-1CDD 1CE0"⟩,
  ⟨["Deva", "Knda", "Mlym", "Orya", "Taml", "Telu"], .read
    "1CDA"⟩,
  ⟨["Beng", "Deva"], .read
    "1CE1 1CF5-1CF6"⟩,
  ⟨["Deva", "Newa", "Tirh"], .read
    "1CE2"⟩,
  ⟨["Deva", "Nand", "Newa"], .read
    "1CE9"⟩,
  ⟨["Beng", "Deva", "Shrd"], .read
    "1CEA"⟩,
  ⟨["Deva", "Newa"], .read
    "1CEB"⟩,
  ⟨["Beng", "Deva", "Newa", "Shrd"], .read
    "1CED"⟩,
  ⟨["Beng", "Deva", "Gran", "Knda", "Mlym", "Nand", "Orya", "Sinh", "Telu", "Tirh", "Tutg"], .read
    "1CF2"⟩,
  ⟨["Deva", "Gran"], .read
    "1CF3 1CF8-1CF9"⟩,
  ⟨["Deva", "Gran", "Knda", "Tutg"], .read
    "1CF4"⟩,
  ⟨["Beng"], .read
    "1CF7"⟩,
  ⟨["Nand"], .read
    "1CFA"⟩,
  ⟨["Cyrl", "Latn", "Syrc"], .read
    "1DF8"⟩,
  ⟨["Syrc"], .read
    "1DFA"⟩,
  ⟨["Latn", "Mong", "Phag"], .read
    "202F"⟩,
  ⟨["Adlm", "Arab"], .read
    "204F"⟩,
  ⟨["Cari", "Geor", "Glag", "Hung", "Lyci", "Orkh"], .read
    "205A"⟩,
  ⟨["Cari", "Grek", "Hung", "Mero"], .read
    "205D"⟩,
  ⟨["Deva", "Gran", "Latn"], .read
    "20F0"⟩,
  ⟨["Copt", "Latn"], .read
    "2E17"⟩,
  ⟨["Avst", "Orkh"], .read
    "2E30"⟩,
  ⟨["Avst", "Cari", "Geor", "Hung", "Kthi", "Lydi", "Samr"], .read
    "2E31"⟩,
  ⟨["Dupl"], .read
    "2E3C 1BCA0-1BCA3"⟩,
  ⟨["Adlm", "Arab", "Hung"], .read
    "2E41"⟩,
  ⟨["Hani", "Tang"], .read
    "2FF0-2FFF 31EF"⟩,
  ⟨["Bopo", "Hang", "Hani", "Hira", "Kana", "Mong", "Yiii"], .read
    "3001"⟩,
  ⟨["Bopo", "Hang", "Hani", "Hira", "Kana", "Mong", "Phag", "Yiii"], .read
    "3002"⟩,
  ⟨["Bopo", "Hang", "Hani", "Hira", "Kana"], .read
    "3003 3013 301C-301F 3030 3037 FE45-FE46"⟩,
  ⟨["Hani"], .read
    ("3006 303E-303F 3190-319F 31C0-31E5 3220-3247 3280-32B0 32C0-32CB 32FF 3358-3370 " ++
    "337B-337F 33E0-33FE 1D360-1D371 1F250-1F251")⟩,
  ⟨["Bopo", "Hang", "Hani", "Hira", "Kana", "Mong", "Tibt", "Yiii"], .read
    "3008-3009"⟩,
  ⟨["Bopo", "Hang", "Hani", "Hira", "Kana", "Lisu", "Mong", "Tibt", "Yiii"], .read
    "300A-300B"⟩,
  ⟨["Bopo", "Hang", "Hani", "Hira", "Kana", "Yiii"], .read
    "300C-3011 3014-301B 30FB FF61-FF65"⟩,
  ⟨["Bopo", "Hani"], .read
    "302A-302D"⟩,
  ⟨["Hira", "Kana"], .read
    "3031-3035 3099-309C 30A0 30FC FF70 FF9E-FF9F"⟩,
  ⟨["Hani", "Hira", "Kana"], .read
    "303C-303D"⟩,
  ⟨["Hani", "Latn"], .read
    "A700-A707"⟩,
  ⟨["Deva", "Dogr", "Gujr", "Guru", "Khoj", "Knda", "Kthi", "Mahj", "Mlym", "Modi", "Nand",
    "Shrd", "Sind", "Takr", "Tirh", "Tutg"], .read
    "A830-A832"⟩,
  ⟨["Deva", "Dogr", "Gujr", "Guru", "Khoj", "Knda", "Kthi", "Mahj", "Modi", "Nand", "Shrd",
    "Sind", "Takr", "Tirh", "Tutg"], .read
    "A833-A835"⟩,
  ⟨["Deva", "Dogr", "Gujr", "Guru", "Khoj", "Kthi", "Mahj", "Modi", "Sind", "Takr", "Tirh"], .read
    "A836-A837 A839"⟩,
  ⟨["Deva", "Dogr", "Gujr", "Guru", "Khoj", "Kthi", "Mahj", "Modi", "Shrd", "Sind", "Takr",
    "Tirh"], .read
    "A838"⟩,
  ⟨["Beng", "Deva", "Tutg"], .read
    "A8F1"⟩,
  ⟨["Deva", "Taml"], .read
    "A8F3"⟩,
  ⟨["Kali", "Latn", "Mymr"], .read
    "A92E"⟩,
  ⟨["Bugi", "Java"], .read
    "A9CF"⟩,
  ⟨["Arab", "Nkoo"], .read
    "FD3E-FD3F"⟩,
  ⟨["Arab", "Thaa"], .read
    "FDF2 FDFD"⟩,
  ⟨["Cpmn", "Cprt", "Linb"], .read
    "10100-10101"⟩,
  ⟨["Cprt", "Linb"], .read
    "10102 10137-1013F"⟩,
  ⟨["Cprt", "Lina", "Linb"], .read
    "10107-10133"⟩,
  ⟨["Arab", "Copt"], .read
    "102E0-102FB"⟩,
  ⟨["Mani", "Ougr"], .read
    "10AF2"⟩]

def Script.extensions (script : Script) : CodeSet :=
  let (listed, others) := sharedCodes.partition fun shared =>
    shared.scripts.any script.names.contains
  let unlisted := script.members.difference (.unionOf (others.map SharedCodes.members))
  unlisted ∪ .unionOf (listed.map SharedCodes.members)

end DocumentTypes.Unicode
