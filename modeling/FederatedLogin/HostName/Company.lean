import FederatedLogin.Text.Ranges

/-!
# Characters in company

Some signs and digits are letters of a label only next to certain others.
-/

namespace FederatedLogin.HostName

open FederatedLogin.Text

/-- The ranges of the Greek script. -/
def greekRanges : List Range :=
  [(0x370, 0x373), (0x375, 0x377), (0x37A, 0x37D), (0x37F, 0x37F), (0x384, 0x384), (0x386, 0x386),
   (0x388, 0x38A), (0x38C, 0x38C), (0x38E, 0x3A1), (0x3A3, 0x3E1), (0x3F0, 0x3FF), (0x1D26, 0x1D2A),
   (0x1D5D, 0x1D61), (0x1D66, 0x1D6A), (0x1DBF, 0x1DBF), (0x1F00, 0x1F15), (0x1F18, 0x1F1D),
   (0x1F20, 0x1F45), (0x1F48, 0x1F4D), (0x1F50, 0x1F57), (0x1F59, 0x1F59), (0x1F5B, 0x1F5B),
   (0x1F5D, 0x1F5D), (0x1F5F, 0x1F7D), (0x1F80, 0x1FB4), (0x1FB6, 0x1FC4), (0x1FC6, 0x1FD3),
   (0x1FD6, 0x1FDB), (0x1FDD, 0x1FEF), (0x1FF2, 0x1FF4), (0x1FF6, 0x1FFE), (0x2126, 0x2126),
   (0xAB65, 0xAB65), (0x10140, 0x1018E), (0x101A0, 0x101A0), (0x1D200, 0x1D245)]

/-- The ranges of the Hebrew script. -/
def hebrewRanges : List Range :=
  [(0x591, 0x5C7), (0x5D0, 0x5EA), (0x5EF, 0x5F4), (0xFB1D, 0xFB36), (0xFB38, 0xFB3C),
   (0xFB3E, 0xFB3E), (0xFB40, 0xFB41), (0xFB43, 0xFB44), (0xFB46, 0xFB4F)]

/-- The ranges of the scripts of Japanese: kana and ideographs. -/
def japaneseRanges : List Range :=
  [(0x2E80, 0x2E99), (0x2E9B, 0x2EF3), (0x2F00, 0x2FD5), (0x3005, 0x3005), (0x3007, 0x3007),
   (0x3021, 0x3029), (0x3038, 0x303B), (0x3041, 0x3096), (0x309D, 0x309F), (0x30A1, 0x30FA),
   (0x30FD, 0x30FF), (0x31F0, 0x31FF), (0x32D0, 0x32FE), (0x3300, 0x3357), (0x3400, 0x4DBF),
   (0x4E00, 0x9FFF), (0xF900, 0xFA6D), (0xFA70, 0xFAD9), (0xFF66, 0xFF6F), (0xFF71, 0xFF9D),
   (0x16FE2, 0x16FE3), (0x16FF0, 0x16FF6), (0x1AFF0, 0x1AFF3), (0x1AFF5, 0x1AFFB),
   (0x1AFFD, 0x1AFFE), (0x1B000, 0x1B122), (0x1B132, 0x1B132), (0x1B150, 0x1B152),
   (0x1B155, 0x1B155), (0x1B164, 0x1B167), (0x1F200, 0x1F200), (0x20000, 0x2A6DF),
   (0x2A700, 0x2B81D), (0x2B820, 0x2CEAD), (0x2CEB0, 0x2EBE0), (0x2EBF0, 0x2EE5D),
   (0x2F800, 0x2FA1D), (0x30000, 0x3134A), (0x31350, 0x33479)]

/-- The digits of Arabic. -/
def arabicDigits : Range := (0x660, 0x669)

/-- The digits of Persian and other languages in Arabic script. -/
def persianDigits : Range := (0x6F0, 0x6F9)

/-- The dot at half height, which parts two letters l. -/
def middleDot : Nat := 0xB7

/-- The sign before Greek letters that stand for numbers. -/
def keraia : Nat := 0x375

/-- The signs behind Hebrew letters. -/
def gereshes : Range := (0x5F3, 0x5F4)

/-- The dot between Japanese words, which looks like kana. -/
def katakanaDot : Nat := 0x30FB

/-- Whether a label may have a character between characters before, the nearest first, and after;
nothing for a character that is not one of these. -/
def companyFits? (letter : Nat) (before after : List Nat) : Option Bool :=
  let others := before ++ after
  let l := 'l'.toNat
  if letter = middleDot then some (before.head? == some l && after.head? == some l)
  else if letter = keraia then some (after.head?.any (inRanges · greekRanges))
  else if inRanges letter [gereshes] then some (before.head?.any (inRanges · hebrewRanges))
  else if letter = katakanaDot then
    some (others.any fun other => other != katakanaDot && inRanges other japaneseRanges)
  else if inRanges letter [arabicDigits] then some (!others.any (inRanges · [persianDigits]))
  else if inRanges letter [persianDigits] then some (!others.any (inRanges · [arabicDigits]))
  else none

end FederatedLogin.HostName
