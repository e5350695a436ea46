import WireSchema.Property.Table

-- Characters that are the same but for their case.
namespace WireSchema.Property
open Text

-- Runs of code points, each group behind the distance from them to a code point of the same letter.
def caseTable : List (List Char) := words
  "+20 41-5A C0-D6 D8-DE 391-3A1 3A3-3AB 410-42F FF21-FF3A 10D50-10D65 118A0-118BF 16E40-16E5F
  +20DF 4B +12C 53 -20 61-7A E0-F6 F8-FE 3B1-3C1 3C3-3CB 430-44F FF41-FF5A 10D70-10D85
  118C0-118DF 16E60-16E7F +20BF 6B +10C 73 +2E7 B5 +307 B5 +2066 C5 +1DBF DF +2046 E5 +79 FF +1
  100-12E/2 132-136/2 139-147/2 14A-176/2 179-17D/2 182-184/2 187 18B 191 198 1A0-1A4/2 1A7 1AC
  1AF 1B3-1B5/2 1B8 1BC 1C4-1C5 1C7-1C8 1CA-1CB 1CD-1DB/2 1DE-1EE/2 1F1-1F2 1F4 1F8-21E/2
  222-232/2 23B 241 246-24E/2 370-372/2 376 3C2 3D8-3EE/2 3F7 3FA 460-480/2 48A-4BE/2 4C1-4CD/2
  4D0-52E/2 1C84 1C89 1E00-1E94/2 1EA0-1EFE/2 2183 2C60 2C67-2C6B/2 2C72 2C75 2C80-2CE2/2
  2CEB-2CED/2 2CF2 A640-A66C/2 A680-A69A/2 A722-A72E/2 A732-A76E/2 A779-A77B/2 A77E-A786/2 A78B
  A790-A792/2 A796-A7A8/2 A7B4-A7C2/2 A7C7-A7C9/2 A7CC A7D0 A7D6-A7DA/2 A7F5 FB05 -1 101-12F/2
  133-137/2 13A-148/2 14B-177/2 17A-17E/2 183-185/2 188 18C 192 199 1A1-1A5/2 1A8 1AD 1B0
  1B4-1B6/2 1B9 1BD 1C5-1C6 1C8-1C9 1CB-1CC 1CE-1DC/2 1DF-1EF/2 1F2-1F3 1F5 1F9-21F/2 223-233/2
  23C 242 247-24F/2 371-373/2 377 3C3 3D9-3EF/2 3F8 3FB 461-481/2 48B-4BF/2 4C2-4CE/2 4D1-52F/2
  1C85 1C8A 1E01-1E95/2 1EA1-1EFF/2 2184 2C61 2C68-2C6C/2 2C73 2C76 2C81-2CE3/2 2CEC-2CEE/2 2CF3
  A641-A66D/2 A681-A69B/2 A723-A72F/2 A733-A76F/2 A77A-A77C/2 A77F-A787/2 A78C A791-A793/2
  A797-A7A9/2 A7B5-A7C3/2 A7C8-A7CA/2 A7CD A7D1 A7D7-A7DB/2 A7F6 FB06 -79 178 -12C 17F -10C 17F
  +C3 180 +D2 181 +CE 186 +CD 189-18A 193 +4F 18E +CA 18F +CB 190 +CF 194 +61 195 +D3 196 19C +D1
  197 +A3 19A +A641 19B +D5 19D +82 19E 37B-37D +D6 19F +DA 1A6 1A9 1AE +D9 1B1-1B2 +DB 1B7 +38
  1BF +2 1C4-1CA/3 1F1 -2 1C6-1CC/3 1F3 -4F 1DD -61 1F6 -38 1F7 -82 220 3FD-3FF +2A2B 23A -A3 23D
  +2A28 23E +2A3F 23F-240 -C3 243 +45 244 +47 245 +2A1F 250 +2A1C 251 +2A1E 252 -D2 253 -CE 254
  -CD 256-257 260 -CA 259 -CB 25B +A54F 25C +A54B 261 -CF 263 +A567 264 +A528 265 +A544 266 26A
  -D1 268 -D3 269 26F +29F7 26B +A541 26C +29FD 271 -D5 272 -D6 275 +29E7 27D -DA 280 283 288
  +A543 282 +A52A 287 -45 289 -D9 28A-28B -47 28C -DB 292 +A515 29D +A512 29E +54 345 +74 345 37F
  +1C79 345 +26 386 +25 388-38A +40 38C 3B5 10C80-10CB2 +3F 38E-38F +1C43 390 +3E 392 +60 395 +39
  398 +5C 398 -54 399 +1C25 399 +56 39A 1F72-1F75 -2E7 39C +36 3A0 3BA +50 3A1 400-40F +1F 3A3
  +2F 3A6 +1D7D 3A9 -26 3AC -25 3AD-3AF +1C33 3B0 +1E 3B2 +19 3B8 +3C 3B8 -74 3B9 3F3 +1C05 3B9
  -307 3BC +16 3C0 +30 3C1 531-556 2C00-2C2F A794 -1F 3C2 +F 3C6 4C0 +1D5D 3C9 -40 3CC 3F5
  10CC0-10CF2 -3F 3CD-3CE +8 3CF 13F0-13F5 1F00-1F07 1F10-1F15 1F20-1F27 1F30-1F37 1F40-1F45
  1F51-1F57/2 1F60-1F67 1F80-1F87 1F90-1F97 1FA0-1FA7 1FB0-1FB1 1FD0-1FD1 1FE0-1FE1 -3E 3D0 -1E
  3D0 -39 3D1 -19 3D1 +23 3D1 -2F 3D5 -F 3D5 4CF -36 3D6 3F0 -16 3D6 -8 3D7 13F8-13FD 1F08-1F0F
  1F18-1F1D 1F28-1F2F 1F38-1F3F 1F48-1F4D 1F59-1F5F/2 1F68-1F6F 1F88-1F8F 1F98-1F9F 1FA8-1FAF
  1FB8-1FB9 1FD8-1FD9 1FE8-1FE9 -56 3F0 1FC8-1FCB -50 3F1 450-45F -30 3F1 561-586 2C30-2C5F A7C4
  +7 3F2 1FE5 -5C 3F4 -3C 3F4 -23 3F4 -60 3F5 -7 3F9 1FEC +186E 412 +186D 414 +1864 41E +1862
  421-422 +1863 422 +185C 42A +184E 432 +184D 434 +1844 43E +1842 441-442 +1843 442 +183C 44A
  +1825 462 +1824 463 +1C60 10A0-10C5 10C7 10CD +BC0 10D0-10FA 10FD-10FF +97D0 13A0-13EF -186E
  1C80 -184E 1C80 -186D 1C81 -184D 1C81 -1864 1C82 -1844 1C82 -1862 1C83-1C84 -1842 1C83-1C84
  -1863 1C85 -1843 1C85 -185C 1C86 -183C 1C86 -1825 1C87 -1824 1C87 +89C2 1C88 +89C3 1C88 -BC0
  1C90-1CBA 1CBD-1CBF +8A04 1D79 +EE6 1D7D +8A38 1D8E +3B 1E60 +3A 1E61 -3B 1E9B -3A 1E9B -1DBF
  1E9E +4A 1F70-1F71 +64 1F76-1F77 +80 1F78-1F79 +70 1F7A-1F7B +7E 1F7C-1F7D +9 1FB3 1FC3 1FF3
  -4A 1FBA-1FBB -9 1FBC 1FCC 1FFC -1C79 1FBE -1C25 1FBE -1C05 1FBE -1C43 1FD3 -64 1FDA-1FDB -1C33
  1FE3 -70 1FEA-1FEB -80 1FF8-1FF9 -7E 1FFA-1FFB -1D7D 2126 -1D5D 2126 -20DF 212A -20BF 212A
  -2066 212B -2046 212B +1C 2132 -1C 214E +10 2160-216F -10 2170-217F +1A 24B6-24CF -1A 24D0-24E9
  -29F7 2C62 -EE6 2C63 -29E7 2C64 -2A2B 2C65 -2A28 2C66 -2A1C 2C6D -29FD 2C6E -2A1F 2C6F -2A1E
  2C70 -2A3F 2C7E-2C7F -1C60 2D00-2D25 2D27 2D2D -89C2 A64A -89C3 A64B -8A04 A77D -A528 A78D
  -A544 A7AA A7AE -A54F A7AB -A54B A7AC -A541 A7AD -A512 A7B0 -A52A A7B1 -A515 A7B2 +3A0 A7B3
  -A543 A7C5 -8A38 A7C6 -A567 A7CB -A641 A7DC -3A0 AB53 -97D0 AB70-ABBF +28 10400-10427
  104B0-104D3 -28 10428-1044F 104D8-104FB +27 10570-1057A 1057C-1058A 1058C-10592 10594-10595 -27
  10597-105A1 105A3-105B1 105B3-105B9 105BB-105BC +22 1E900-1E921 -22 1E922-1E943"

def caseVariants (distance : Int) : List (List Char) → List (Nat × Nat)
  | [] => []
  | ('+' :: digits) :: rest => caseVariants (hexadecimal digits) rest
  | ('-' :: digits) :: rest => caseVariants (-hexadecimal digits) rest
  | word :: rest =>
    ((Run.ofWord word).codes.map fun (code : Nat) => (code, (code + distance).toNat)) ++
      caseVariants distance rest

def casePairs : List (Nat × Nat) := caseVariants 0 caseTable

def withOtherCase : CharacterSet := .ofCodes ((casePairs.map (·.1)).mergeSort (fun a b => a ≤ b))

def foldCase (set : CharacterSet) : CharacterSet :=
  let others := (casePairs.filter fun (code, _) => set.containsCode code).map (·.2)
  set.union (.ofCodes (others.mergeSort (fun a b => a ≤ b)))

end WireSchema.Property
