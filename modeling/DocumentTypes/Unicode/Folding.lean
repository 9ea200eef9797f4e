import DocumentTypes.Unicode.CodeTable

/-! # Simple case folding

Characters that differ only in case form small groups. Most groups are a pair at a
constant distance, and neighbouring pairs share it: `41-4A` at the distance `20` pairs
each of `41` to `4A` with the code point `20` higher. The remaining groups are listed
in full. -/

namespace DocumentTypes.Unicode

def casePairs : List (Nat × CodeSet) := [
  (0x1, .read
    ("100-12E/2 132-136/2 139-147/2 14A-176/2 179-17D/2 182 184 187 18B 191 198 1A0-1A4/2 " ++
    "1A7 1AC 1AF 1B3 1B5 1B8 1BC 1CD-1DB/2 1DE-1EE/2 1F4 1F8-21E/2 222-232/2 23B 241 " ++
    "246-24E/2 370 372 376 3D8-3EE/2 3F7 3FA 460 464-480/2 48A-4BE/2 4C1-4CD/2 4D0-52E/2 " ++
    "1C89 1E00-1E5E/2 1E62-1E94/2 1EA0-1EFE/2 2183 2C60 2C67-2C6B/2 2C72 2C75 " ++
    "2C80-2CE2/2 2CEB 2CED 2CF2 A640-A648/2 A64C-A66C/2 A680-A69A/2 A722-A72E/2 " ++
    "A732-A76E/2 A779 A77B A77E-A786/2 A78B A790 A792 A796-A7A8/2 A7B4-A7C2/2 A7C7 A7C9 " ++
    "A7CC A7D0 A7D6-A7DA/2 A7F5 FB05")),
  (0x7, .read "3F2 1FE5"),
  (0x8, .read
    ("3CF 13F0-13F5 1F00-1F07 1F10-1F15 1F20-1F27 1F30-1F37 1F40-1F45 1F51-1F57/2 " ++
    "1F60-1F67 1F80-1F87 1F90-1F97 1FA0-1FA7 1FB0-1FB1 1FD0-1FD1 1FE0-1FE1")),
  (0x9, .read "1FB3 1FC3 1FF3"),
  (0xF, .read "4C0"),
  (0x10, .read "2160-216F"),
  (0x1A, .read "24B6-24CF"),
  (0x1C, .read "2132"),
  (0x20, .read
    ("41-4A 4C-52 54-5A C0-C4 C6-D6 D8-DE 391 393-394 396-397 39B 39D-39F 3A4-3A5 3A7-3A8 " ++
    "3AA-3AB 410-411 413 415-41D 41F-420 423-429 42B-42F FF21-FF3A 10D50-10D65 " ++
    "118A0-118BF 16E40-16E5F")),
  (0x22, .read "1E900-1E921"),
  (0x25, .read "388-38A"),
  (0x26, .read "386"),
  (0x27, .read "10570-1057A 1057C-1058A 1058C-10592 10594-10595"),
  (0x28, .read "10400-10427 104B0-104D3"),
  (0x30, .read "531-556 2C00-2C2F A794"),
  (0x38, .read "1BF"),
  (0x3F, .read "38E-38F"),
  (0x40, .read "38C 10C80-10CB2"),
  (0x45, .read "244"),
  (0x47, .read "245"),
  (0x4A, .read "1F70-1F71"),
  (0x4F, .read "18E"),
  (0x50, .read "400-40F"),
  (0x56, .read "1F72-1F75"),
  (0x61, .read "195"),
  (0x64, .read "1F76-1F77"),
  (0x70, .read "1F7A-1F7B"),
  (0x74, .read "37F"),
  (0x79, .read "FF"),
  (0x7E, .read "1F7C-1F7D"),
  (0x80, .read "1F78-1F79"),
  (0x82, .read "19E 37B-37D"),
  (0xA3, .read "19A"),
  (0xC3, .read "180"),
  (0xCA, .read "18F"),
  (0xCB, .read "190"),
  (0xCD, .read "189-18A 193"),
  (0xCE, .read "186"),
  (0xCF, .read "194"),
  (0xD1, .read "197"),
  (0xD2, .read "181"),
  (0xD3, .read "196 19C"),
  (0xD5, .read "19D"),
  (0xD6, .read "19F"),
  (0xD9, .read "1B1-1B2"),
  (0xDA, .read "1A6 1A9 1AE"),
  (0xDB, .read "1B7"),
  (0x3A0, .read "A7B3"),
  (0xBC0, .read "10D0-10FA 10FD-10FF"),
  (0xEE6, .read "1D7D"),
  (0x1C33, .read "3B0"),
  (0x1C43, .read "390"),
  (0x1C60, .read "10A0-10C5 10C7 10CD"),
  (0x1DBF, .read "DF"),
  (0x29E7, .read "27D"),
  (0x29F7, .read "26B"),
  (0x29FD, .read "271"),
  (0x2A1C, .read "251"),
  (0x2A1E, .read "252"),
  (0x2A1F, .read "250"),
  (0x2A28, .read "23E"),
  (0x2A2B, .read "23A"),
  (0x2A3F, .read "23F-240"),
  (0x8A04, .read "1D79"),
  (0x8A38, .read "1D8E"),
  (0x97D0, .read "13A0-13EF"),
  (0xA512, .read "29E"),
  (0xA515, .read "29D"),
  (0xA528, .read "265"),
  (0xA52A, .read "287"),
  (0xA541, .read "26C"),
  (0xA543, .read "282"),
  (0xA544, .read "266 26A"),
  (0xA54B, .read "261"),
  (0xA54F, .read "25C"),
  (0xA567, .read "264"),
  (0xA641, .read "19B")]

def caseGroups : List (List Nat) := [
  [0x4B, 0x6B, 0x212A],
  [0x53, 0x73, 0x17F],
  [0xB5, 0x39C, 0x3BC],
  [0xC5, 0xE5, 0x212B],
  [0x1C4, 0x1C5, 0x1C6],
  [0x1C7, 0x1C8, 0x1C9],
  [0x1CA, 0x1CB, 0x1CC],
  [0x1F1, 0x1F2, 0x1F3],
  [0x345, 0x399, 0x3B9, 0x1FBE],
  [0x392, 0x3B2, 0x3D0],
  [0x395, 0x3B5, 0x3F5],
  [0x398, 0x3B8, 0x3D1, 0x3F4],
  [0x39A, 0x3BA, 0x3F0],
  [0x3A0, 0x3C0, 0x3D6],
  [0x3A1, 0x3C1, 0x3F1],
  [0x3A3, 0x3C2, 0x3C3],
  [0x3A6, 0x3C6, 0x3D5],
  [0x3A9, 0x3C9, 0x2126],
  [0x412, 0x432, 0x1C80],
  [0x414, 0x434, 0x1C81],
  [0x41E, 0x43E, 0x1C82],
  [0x421, 0x441, 0x1C83],
  [0x422, 0x442, 0x1C84, 0x1C85],
  [0x42A, 0x44A, 0x1C86],
  [0x462, 0x463, 0x1C87],
  [0x1C88, 0xA64A, 0xA64B],
  [0x1E60, 0x1E61, 0x1E9B]]

def Span.codes (span : Span) : List Nat :=
  (List.range (span.last - span.first + 1)).map (span.first + ·)

def caseOrbits : List (List Nat) :=
  caseGroups ++ casePairs.flatMap fun (distance, smaller) =>
    (smaller.spans.flatMap Span.codes).map fun code => [code, code + distance]

/-- The members of a set together with all characters that differ from a member only
in case. -/
def CodeSet.foldCase (set : CodeSet) : CodeSet :=
  set ∪ .ofCodes (caseOrbits.filter fun orbit => orbit.any set.contains).flatten

/-- The members of a set together with all that share a group with a member. -/
theorem CodeSet.contains_closed (groups : List (List Nat)) (set : CodeSet) (code : Nat) :
    (set ∪ .ofCodes (groups.filter fun group => group.any set.contains).flatten).contains code =
      (set.contains code ||
        groups.any fun group => group.contains code && group.any set.contains) := by
  have both := contains_union set
    (.ofCodes (groups.filter fun group => group.any set.contains).flatten) code
  change (set ∪ _).contains code = _ at both
  rw [both, contains_ofCodes]
  congr 1
  rw [Bool.eq_iff_iff]
  simp only [List.contains_iff_mem, List.mem_flatten, List.mem_filter, List.any_eq_true,
    Bool.and_eq_true]
  constructor
  · rintro ⟨group, ⟨listed, shared⟩, member⟩
    exact ⟨group, listed, member, shared⟩
  · rintro ⟨group, listed, member, shared⟩
    exact ⟨group, ⟨listed, shared⟩, member⟩

end DocumentTypes.Unicode
