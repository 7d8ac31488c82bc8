import DocSelect.Text.Ranges
/-!
# General categories

Every assigned character has one general category. Each category is a list of runs: ranges in which
every character, or every second one, has it.

* `Category.runs` lists the runs of a category, `Category.contains` decides membership.
-/

namespace DocSelect

/-- A general category. -/
inductive Category
  /-- Letters in upper case. -/
  | upperLetter
  /-- Letters in lower case. -/
  | lowerLetter
  /-- Letters in title case. -/
  | titleLetter
  /-- Modifier letters. -/
  | modifierLetter
  /-- Other letters. -/
  | otherLetter
  /-- Marks without a width. -/
  | nonspacingMark
  /-- Marks with a width. -/
  | spacingMark
  /-- Enclosing marks. -/
  | enclosingMark
  /-- Decimal digits. -/
  | decimalDigit
  /-- Letters that are numbers. -/
  | letterNumber
  /-- Other numbers. -/
  | otherNumber
  /-- Connector punctuation. -/
  | connector
  /-- Dashes. -/
  | dash
  /-- Opening punctuation. -/
  | opening
  /-- Closing punctuation. -/
  | closing
  /-- Initial quotes. -/
  | initialQuote
  /-- Final quotes. -/
  | finalQuote
  /-- Other punctuation. -/
  | otherPunctuation
  /-- Mathematical symbols. -/
  | mathSymbol
  /-- Currency symbols. -/
  | currencySymbol
  /-- Modifier symbols. -/
  | modifierSymbol
  /-- Other symbols. -/
  | otherSymbol
  /-- Spaces. -/
  | spaceSeparator
  /-- The line separator. -/
  | lineSeparator
  /-- The paragraph separator. -/
  | paragraphSeparator
  /-- Control characters. -/
  | control
  /-- Format characters. -/
  | format
  /-- Characters for private use. -/
  | privateUse
  deriving DecidableEq

namespace Category

/-- All categories. -/
def all : List Category :=
  [.upperLetter, .lowerLetter, .titleLetter, .modifierLetter, .otherLetter, .nonspacingMark,
   .spacingMark, .enclosingMark, .decimalDigit, .letterNumber, .otherNumber, .connector, .dash,
   .opening, .closing, .initialQuote, .finalQuote, .otherPunctuation, .mathSymbol, .currencySymbol,
   .modifierSymbol, .otherSymbol, .spaceSeparator, .lineSeparator, .paragraphSeparator, .control,
   .format, .privateUse]

/-- The runs of upperLetter characters. -/
def upperLetterRuns : List Run :=
  [⟨0x41, 0x5A, 1⟩, ⟨0xC0, 0xD6, 1⟩, ⟨0xD8, 0xDE, 1⟩, ⟨0x100, 0x136, 2⟩, ⟨0x139, 0x147, 2⟩,
   ⟨0x14A, 0x176, 2⟩, ⟨0x178, 0x179, 1⟩, ⟨0x17B, 0x17D, 2⟩, ⟨0x181, 0x182, 1⟩, ⟨0x184, 0x184, 1⟩,
   ⟨0x186, 0x187, 1⟩, ⟨0x189, 0x18B, 1⟩, ⟨0x18E, 0x191, 1⟩, ⟨0x193, 0x194, 1⟩, ⟨0x196, 0x198, 1⟩,
   ⟨0x19C, 0x19D, 1⟩, ⟨0x19F, 0x1A0, 1⟩, ⟨0x1A2, 0x1A4, 2⟩, ⟨0x1A6, 0x1A7, 1⟩, ⟨0x1A9, 0x1A9, 1⟩,
   ⟨0x1AC, 0x1AC, 1⟩, ⟨0x1AE, 0x1AF, 1⟩, ⟨0x1B1, 0x1B3, 1⟩, ⟨0x1B5, 0x1B5, 1⟩, ⟨0x1B7, 0x1B8, 1⟩,
   ⟨0x1BC, 0x1BC, 1⟩, ⟨0x1C4, 0x1C4, 1⟩, ⟨0x1C7, 0x1C7, 1⟩, ⟨0x1CA, 0x1CA, 1⟩, ⟨0x1CD, 0x1DB, 2⟩,
   ⟨0x1DE, 0x1EE, 2⟩, ⟨0x1F1, 0x1F1, 1⟩, ⟨0x1F4, 0x1F4, 1⟩, ⟨0x1F6, 0x1F8, 1⟩, ⟨0x1FA, 0x232, 2⟩,
   ⟨0x23A, 0x23B, 1⟩, ⟨0x23D, 0x23E, 1⟩, ⟨0x241, 0x241, 1⟩, ⟨0x243, 0x246, 1⟩, ⟨0x248, 0x24E, 2⟩,
   ⟨0x370, 0x372, 2⟩, ⟨0x376, 0x376, 1⟩, ⟨0x37F, 0x37F, 1⟩, ⟨0x386, 0x386, 1⟩, ⟨0x388, 0x38A, 1⟩,
   ⟨0x38C, 0x38C, 1⟩, ⟨0x38E, 0x38F, 1⟩, ⟨0x391, 0x3A1, 1⟩, ⟨0x3A3, 0x3AB, 1⟩, ⟨0x3CF, 0x3CF, 1⟩,
   ⟨0x3D2, 0x3D4, 1⟩, ⟨0x3D8, 0x3EE, 2⟩, ⟨0x3F4, 0x3F4, 1⟩, ⟨0x3F7, 0x3F7, 1⟩, ⟨0x3F9, 0x3FA, 1⟩,
   ⟨0x3FD, 0x42F, 1⟩, ⟨0x460, 0x480, 2⟩, ⟨0x48A, 0x4BE, 2⟩, ⟨0x4C0, 0x4C1, 1⟩, ⟨0x4C3, 0x4CD, 2⟩,
   ⟨0x4D0, 0x52E, 2⟩, ⟨0x531, 0x556, 1⟩, ⟨0x10A0, 0x10C5, 1⟩, ⟨0x10C7, 0x10C7, 1⟩,
   ⟨0x10CD, 0x10CD, 1⟩, ⟨0x13A0, 0x13F5, 1⟩, ⟨0x1C90, 0x1CBA, 1⟩, ⟨0x1CBD, 0x1CBF, 1⟩,
   ⟨0x1E00, 0x1E94, 2⟩, ⟨0x1E9E, 0x1EFE, 2⟩, ⟨0x1F08, 0x1F0F, 1⟩, ⟨0x1F18, 0x1F1D, 1⟩,
   ⟨0x1F28, 0x1F2F, 1⟩, ⟨0x1F38, 0x1F3F, 1⟩, ⟨0x1F48, 0x1F4D, 1⟩, ⟨0x1F59, 0x1F5F, 2⟩,
   ⟨0x1F68, 0x1F6F, 1⟩, ⟨0x1FB8, 0x1FBB, 1⟩, ⟨0x1FC8, 0x1FCB, 1⟩, ⟨0x1FD8, 0x1FDB, 1⟩,
   ⟨0x1FE8, 0x1FEC, 1⟩, ⟨0x1FF8, 0x1FFB, 1⟩, ⟨0x2102, 0x2102, 1⟩, ⟨0x2107, 0x2107, 1⟩,
   ⟨0x210B, 0x210D, 1⟩, ⟨0x2110, 0x2112, 1⟩, ⟨0x2115, 0x2115, 1⟩, ⟨0x2119, 0x211D, 1⟩,
   ⟨0x2124, 0x2128, 2⟩, ⟨0x212A, 0x212D, 1⟩, ⟨0x2130, 0x2133, 1⟩, ⟨0x213E, 0x213F, 1⟩,
   ⟨0x2145, 0x2145, 1⟩, ⟨0x2183, 0x2183, 1⟩, ⟨0x2C00, 0x2C2F, 1⟩, ⟨0x2C60, 0x2C60, 1⟩,
   ⟨0x2C62, 0x2C64, 1⟩, ⟨0x2C67, 0x2C6B, 2⟩, ⟨0x2C6D, 0x2C70, 1⟩, ⟨0x2C72, 0x2C72, 1⟩,
   ⟨0x2C75, 0x2C75, 1⟩, ⟨0x2C7E, 0x2C80, 1⟩, ⟨0x2C82, 0x2CE2, 2⟩, ⟨0x2CEB, 0x2CED, 2⟩,
   ⟨0x2CF2, 0x2CF2, 1⟩, ⟨0xA640, 0xA66C, 2⟩, ⟨0xA680, 0xA69A, 2⟩, ⟨0xA722, 0xA72E, 2⟩,
   ⟨0xA732, 0xA76E, 2⟩, ⟨0xA779, 0xA77B, 2⟩, ⟨0xA77D, 0xA77E, 1⟩, ⟨0xA780, 0xA786, 2⟩,
   ⟨0xA78B, 0xA78D, 2⟩, ⟨0xA790, 0xA792, 2⟩, ⟨0xA796, 0xA7A8, 2⟩, ⟨0xA7AA, 0xA7AE, 1⟩,
   ⟨0xA7B0, 0xA7B4, 1⟩, ⟨0xA7B6, 0xA7C2, 2⟩, ⟨0xA7C4, 0xA7C7, 1⟩, ⟨0xA7C9, 0xA7C9, 1⟩,
   ⟨0xA7D0, 0xA7D0, 1⟩, ⟨0xA7D6, 0xA7D8, 2⟩, ⟨0xA7F5, 0xA7F5, 1⟩, ⟨0xFF21, 0xFF3A, 1⟩,
   ⟨0x10400, 0x10427, 1⟩, ⟨0x104B0, 0x104D3, 1⟩, ⟨0x10570, 0x1057A, 1⟩, ⟨0x1057C, 0x1058A, 1⟩,
   ⟨0x1058C, 0x10592, 1⟩, ⟨0x10594, 0x10595, 1⟩, ⟨0x10C80, 0x10CB2, 1⟩, ⟨0x118A0, 0x118BF, 1⟩,
   ⟨0x16E40, 0x16E5F, 1⟩, ⟨0x1D400, 0x1D419, 1⟩, ⟨0x1D434, 0x1D44D, 1⟩, ⟨0x1D468, 0x1D481, 1⟩,
   ⟨0x1D49C, 0x1D49C, 1⟩, ⟨0x1D49E, 0x1D49F, 1⟩, ⟨0x1D4A2, 0x1D4A2, 1⟩, ⟨0x1D4A5, 0x1D4A6, 1⟩,
   ⟨0x1D4A9, 0x1D4AC, 1⟩, ⟨0x1D4AE, 0x1D4B5, 1⟩, ⟨0x1D4D0, 0x1D4E9, 1⟩, ⟨0x1D504, 0x1D505, 1⟩,
   ⟨0x1D507, 0x1D50A, 1⟩, ⟨0x1D50D, 0x1D514, 1⟩, ⟨0x1D516, 0x1D51C, 1⟩, ⟨0x1D538, 0x1D539, 1⟩,
   ⟨0x1D53B, 0x1D53E, 1⟩, ⟨0x1D540, 0x1D544, 1⟩, ⟨0x1D546, 0x1D546, 1⟩, ⟨0x1D54A, 0x1D550, 1⟩,
   ⟨0x1D56C, 0x1D585, 1⟩, ⟨0x1D5A0, 0x1D5B9, 1⟩, ⟨0x1D5D4, 0x1D5ED, 1⟩, ⟨0x1D608, 0x1D621, 1⟩,
   ⟨0x1D63C, 0x1D655, 1⟩, ⟨0x1D670, 0x1D689, 1⟩, ⟨0x1D6A8, 0x1D6C0, 1⟩, ⟨0x1D6E2, 0x1D6FA, 1⟩,
   ⟨0x1D71C, 0x1D734, 1⟩, ⟨0x1D756, 0x1D76E, 1⟩, ⟨0x1D790, 0x1D7A8, 1⟩, ⟨0x1D7CA, 0x1D7CA, 1⟩,
   ⟨0x1E900, 0x1E921, 1⟩]

/-- The runs of lowerLetter characters. -/
def lowerLetterRuns : List Run :=
  [⟨0x61, 0x7A, 1⟩, ⟨0xB5, 0xB5, 1⟩, ⟨0xDF, 0xF6, 1⟩, ⟨0xF8, 0xFF, 1⟩, ⟨0x101, 0x135, 2⟩,
   ⟨0x137, 0x138, 1⟩, ⟨0x13A, 0x146, 2⟩, ⟨0x148, 0x149, 1⟩, ⟨0x14B, 0x177, 2⟩, ⟨0x17A, 0x17C, 2⟩,
   ⟨0x17E, 0x180, 1⟩, ⟨0x183, 0x185, 2⟩, ⟨0x188, 0x188, 1⟩, ⟨0x18C, 0x18D, 1⟩, ⟨0x192, 0x192, 1⟩,
   ⟨0x195, 0x195, 1⟩, ⟨0x199, 0x19B, 1⟩, ⟨0x19E, 0x19E, 1⟩, ⟨0x1A1, 0x1A5, 2⟩, ⟨0x1A8, 0x1A8, 1⟩,
   ⟨0x1AA, 0x1AB, 1⟩, ⟨0x1AD, 0x1AD, 1⟩, ⟨0x1B0, 0x1B0, 1⟩, ⟨0x1B4, 0x1B6, 2⟩, ⟨0x1B9, 0x1BA, 1⟩,
   ⟨0x1BD, 0x1BF, 1⟩, ⟨0x1C6, 0x1C6, 1⟩, ⟨0x1C9, 0x1C9, 1⟩, ⟨0x1CC, 0x1DA, 2⟩, ⟨0x1DC, 0x1DD, 1⟩,
   ⟨0x1DF, 0x1ED, 2⟩, ⟨0x1EF, 0x1F0, 1⟩, ⟨0x1F3, 0x1F5, 2⟩, ⟨0x1F9, 0x231, 2⟩, ⟨0x233, 0x239, 1⟩,
   ⟨0x23C, 0x23C, 1⟩, ⟨0x23F, 0x240, 1⟩, ⟨0x242, 0x242, 1⟩, ⟨0x247, 0x24D, 2⟩, ⟨0x24F, 0x293, 1⟩,
   ⟨0x295, 0x2AF, 1⟩, ⟨0x371, 0x373, 2⟩, ⟨0x377, 0x377, 1⟩, ⟨0x37B, 0x37D, 1⟩, ⟨0x390, 0x390, 1⟩,
   ⟨0x3AC, 0x3CE, 1⟩, ⟨0x3D0, 0x3D1, 1⟩, ⟨0x3D5, 0x3D7, 1⟩, ⟨0x3D9, 0x3ED, 2⟩, ⟨0x3EF, 0x3F3, 1⟩,
   ⟨0x3F5, 0x3F5, 1⟩, ⟨0x3F8, 0x3F8, 1⟩, ⟨0x3FB, 0x3FC, 1⟩, ⟨0x430, 0x45F, 1⟩, ⟨0x461, 0x481, 2⟩,
   ⟨0x48B, 0x4BF, 2⟩, ⟨0x4C2, 0x4CC, 2⟩, ⟨0x4CE, 0x4CF, 1⟩, ⟨0x4D1, 0x52F, 2⟩, ⟨0x560, 0x588, 1⟩,
   ⟨0x10D0, 0x10FA, 1⟩, ⟨0x10FD, 0x10FF, 1⟩, ⟨0x13F8, 0x13FD, 1⟩, ⟨0x1C80, 0x1C88, 1⟩,
   ⟨0x1D00, 0x1D2B, 1⟩, ⟨0x1D6B, 0x1D77, 1⟩, ⟨0x1D79, 0x1D9A, 1⟩, ⟨0x1E01, 0x1E93, 2⟩,
   ⟨0x1E95, 0x1E9D, 1⟩, ⟨0x1E9F, 0x1EFD, 2⟩, ⟨0x1EFF, 0x1F07, 1⟩, ⟨0x1F10, 0x1F15, 1⟩,
   ⟨0x1F20, 0x1F27, 1⟩, ⟨0x1F30, 0x1F37, 1⟩, ⟨0x1F40, 0x1F45, 1⟩, ⟨0x1F50, 0x1F57, 1⟩,
   ⟨0x1F60, 0x1F67, 1⟩, ⟨0x1F70, 0x1F7D, 1⟩, ⟨0x1F80, 0x1F87, 1⟩, ⟨0x1F90, 0x1F97, 1⟩,
   ⟨0x1FA0, 0x1FA7, 1⟩, ⟨0x1FB0, 0x1FB4, 1⟩, ⟨0x1FB6, 0x1FB7, 1⟩, ⟨0x1FBE, 0x1FBE, 1⟩,
   ⟨0x1FC2, 0x1FC4, 1⟩, ⟨0x1FC6, 0x1FC7, 1⟩, ⟨0x1FD0, 0x1FD3, 1⟩, ⟨0x1FD6, 0x1FD7, 1⟩,
   ⟨0x1FE0, 0x1FE7, 1⟩, ⟨0x1FF2, 0x1FF4, 1⟩, ⟨0x1FF6, 0x1FF7, 1⟩, ⟨0x210A, 0x210A, 1⟩,
   ⟨0x210E, 0x210F, 1⟩, ⟨0x2113, 0x2113, 1⟩, ⟨0x212F, 0x212F, 1⟩, ⟨0x2134, 0x2134, 1⟩,
   ⟨0x2139, 0x2139, 1⟩, ⟨0x213C, 0x213D, 1⟩, ⟨0x2146, 0x2149, 1⟩, ⟨0x214E, 0x214E, 1⟩,
   ⟨0x2184, 0x2184, 1⟩, ⟨0x2C30, 0x2C5F, 1⟩, ⟨0x2C61, 0x2C61, 1⟩, ⟨0x2C65, 0x2C66, 1⟩,
   ⟨0x2C68, 0x2C6C, 2⟩, ⟨0x2C71, 0x2C71, 1⟩, ⟨0x2C73, 0x2C74, 1⟩, ⟨0x2C76, 0x2C7B, 1⟩,
   ⟨0x2C81, 0x2CE1, 2⟩, ⟨0x2CE3, 0x2CE4, 1⟩, ⟨0x2CEC, 0x2CEE, 2⟩, ⟨0x2CF3, 0x2CF3, 1⟩,
   ⟨0x2D00, 0x2D25, 1⟩, ⟨0x2D27, 0x2D27, 1⟩, ⟨0x2D2D, 0x2D2D, 1⟩, ⟨0xA641, 0xA66D, 2⟩,
   ⟨0xA681, 0xA69B, 2⟩, ⟨0xA723, 0xA72D, 2⟩, ⟨0xA72F, 0xA731, 1⟩, ⟨0xA733, 0xA76F, 2⟩,
   ⟨0xA771, 0xA778, 1⟩, ⟨0xA77A, 0xA77C, 2⟩, ⟨0xA77F, 0xA787, 2⟩, ⟨0xA78C, 0xA78E, 2⟩,
   ⟨0xA791, 0xA791, 1⟩, ⟨0xA793, 0xA795, 1⟩, ⟨0xA797, 0xA7A9, 2⟩, ⟨0xA7AF, 0xA7AF, 1⟩,
   ⟨0xA7B5, 0xA7C3, 2⟩, ⟨0xA7C8, 0xA7CA, 2⟩, ⟨0xA7D1, 0xA7D9, 2⟩, ⟨0xA7F6, 0xA7F6, 1⟩,
   ⟨0xA7FA, 0xA7FA, 1⟩, ⟨0xAB30, 0xAB5A, 1⟩, ⟨0xAB60, 0xAB68, 1⟩, ⟨0xAB70, 0xABBF, 1⟩,
   ⟨0xFB00, 0xFB06, 1⟩, ⟨0xFB13, 0xFB17, 1⟩, ⟨0xFF41, 0xFF5A, 1⟩, ⟨0x10428, 0x1044F, 1⟩,
   ⟨0x104D8, 0x104FB, 1⟩, ⟨0x10597, 0x105A1, 1⟩, ⟨0x105A3, 0x105B1, 1⟩, ⟨0x105B3, 0x105B9, 1⟩,
   ⟨0x105BB, 0x105BC, 1⟩, ⟨0x10CC0, 0x10CF2, 1⟩, ⟨0x118C0, 0x118DF, 1⟩, ⟨0x16E60, 0x16E7F, 1⟩,
   ⟨0x1D41A, 0x1D433, 1⟩, ⟨0x1D44E, 0x1D454, 1⟩, ⟨0x1D456, 0x1D467, 1⟩, ⟨0x1D482, 0x1D49B, 1⟩,
   ⟨0x1D4B6, 0x1D4B9, 1⟩, ⟨0x1D4BB, 0x1D4BB, 1⟩, ⟨0x1D4BD, 0x1D4C3, 1⟩, ⟨0x1D4C5, 0x1D4CF, 1⟩,
   ⟨0x1D4EA, 0x1D503, 1⟩, ⟨0x1D51E, 0x1D537, 1⟩, ⟨0x1D552, 0x1D56B, 1⟩, ⟨0x1D586, 0x1D59F, 1⟩,
   ⟨0x1D5BA, 0x1D5D3, 1⟩, ⟨0x1D5EE, 0x1D607, 1⟩, ⟨0x1D622, 0x1D63B, 1⟩, ⟨0x1D656, 0x1D66F, 1⟩,
   ⟨0x1D68A, 0x1D6A5, 1⟩, ⟨0x1D6C2, 0x1D6DA, 1⟩, ⟨0x1D6DC, 0x1D6E1, 1⟩, ⟨0x1D6FC, 0x1D714, 1⟩,
   ⟨0x1D716, 0x1D71B, 1⟩, ⟨0x1D736, 0x1D74E, 1⟩, ⟨0x1D750, 0x1D755, 1⟩, ⟨0x1D770, 0x1D788, 1⟩,
   ⟨0x1D78A, 0x1D78F, 1⟩, ⟨0x1D7AA, 0x1D7C2, 1⟩, ⟨0x1D7C4, 0x1D7C9, 1⟩, ⟨0x1D7CB, 0x1D7CB, 1⟩,
   ⟨0x1DF00, 0x1DF09, 1⟩, ⟨0x1DF0B, 0x1DF1E, 1⟩, ⟨0x1DF25, 0x1DF2A, 1⟩, ⟨0x1E922, 0x1E943, 1⟩]

/-- The runs of titleLetter characters. -/
def titleLetterRuns : List Run :=
  [⟨0x1C5, 0x1C5, 1⟩, ⟨0x1C8, 0x1C8, 1⟩, ⟨0x1CB, 0x1CB, 1⟩, ⟨0x1F2, 0x1F2, 1⟩, ⟨0x1F88, 0x1F8F, 1⟩,
   ⟨0x1F98, 0x1F9F, 1⟩, ⟨0x1FA8, 0x1FAF, 1⟩, ⟨0x1FBC, 0x1FBC, 1⟩, ⟨0x1FCC, 0x1FCC, 1⟩,
   ⟨0x1FFC, 0x1FFC, 1⟩]

/-- The runs of modifierLetter characters. -/
def modifierLetterRuns : List Run :=
  [⟨0x2B0, 0x2C1, 1⟩, ⟨0x2C6, 0x2D1, 1⟩, ⟨0x2E0, 0x2E4, 1⟩, ⟨0x2EC, 0x2EE, 2⟩, ⟨0x374, 0x374, 1⟩,
   ⟨0x37A, 0x37A, 1⟩, ⟨0x559, 0x559, 1⟩, ⟨0x640, 0x640, 1⟩, ⟨0x6E5, 0x6E6, 1⟩, ⟨0x7F4, 0x7F5, 1⟩,
   ⟨0x7FA, 0x7FA, 1⟩, ⟨0x81A, 0x81A, 1⟩, ⟨0x824, 0x824, 1⟩, ⟨0x828, 0x828, 1⟩, ⟨0x8C9, 0x8C9, 1⟩,
   ⟨0x971, 0x971, 1⟩, ⟨0xE46, 0xE46, 1⟩, ⟨0xEC6, 0xEC6, 1⟩, ⟨0x10FC, 0x10FC, 1⟩,
   ⟨0x17D7, 0x17D7, 1⟩, ⟨0x1843, 0x1843, 1⟩, ⟨0x1AA7, 0x1AA7, 1⟩, ⟨0x1C78, 0x1C7D, 1⟩,
   ⟨0x1D2C, 0x1D6A, 1⟩, ⟨0x1D78, 0x1D78, 1⟩, ⟨0x1D9B, 0x1DBF, 1⟩, ⟨0x2071, 0x2071, 1⟩,
   ⟨0x207F, 0x207F, 1⟩, ⟨0x2090, 0x209C, 1⟩, ⟨0x2C7C, 0x2C7D, 1⟩, ⟨0x2D6F, 0x2D6F, 1⟩,
   ⟨0x2E2F, 0x2E2F, 1⟩, ⟨0x3005, 0x3005, 1⟩, ⟨0x3031, 0x3035, 1⟩, ⟨0x303B, 0x303B, 1⟩,
   ⟨0x309D, 0x309E, 1⟩, ⟨0x30FC, 0x30FE, 1⟩, ⟨0xA015, 0xA015, 1⟩, ⟨0xA4F8, 0xA4FD, 1⟩,
   ⟨0xA60C, 0xA60C, 1⟩, ⟨0xA67F, 0xA67F, 1⟩, ⟨0xA69C, 0xA69D, 1⟩, ⟨0xA717, 0xA71F, 1⟩,
   ⟨0xA770, 0xA770, 1⟩, ⟨0xA788, 0xA788, 1⟩, ⟨0xA7F2, 0xA7F4, 1⟩, ⟨0xA7F8, 0xA7F9, 1⟩,
   ⟨0xA9CF, 0xA9CF, 1⟩, ⟨0xA9E6, 0xA9E6, 1⟩, ⟨0xAA70, 0xAA70, 1⟩, ⟨0xAADD, 0xAADD, 1⟩,
   ⟨0xAAF3, 0xAAF4, 1⟩, ⟨0xAB5C, 0xAB5F, 1⟩, ⟨0xAB69, 0xAB69, 1⟩, ⟨0xFF70, 0xFF70, 1⟩,
   ⟨0xFF9E, 0xFF9F, 1⟩, ⟨0x10780, 0x10785, 1⟩, ⟨0x10787, 0x107B0, 1⟩, ⟨0x107B2, 0x107BA, 1⟩,
   ⟨0x16B40, 0x16B43, 1⟩, ⟨0x16F93, 0x16F9F, 1⟩, ⟨0x16FE0, 0x16FE1, 1⟩, ⟨0x16FE3, 0x16FE3, 1⟩,
   ⟨0x1AFF0, 0x1AFF3, 1⟩, ⟨0x1AFF5, 0x1AFFB, 1⟩, ⟨0x1AFFD, 0x1AFFE, 1⟩, ⟨0x1E030, 0x1E06D, 1⟩,
   ⟨0x1E137, 0x1E13D, 1⟩, ⟨0x1E4EB, 0x1E4EB, 1⟩, ⟨0x1E94B, 0x1E94B, 1⟩]

/-- The runs of otherLetter characters. -/
def otherLetterRuns : List Run :=
  [⟨0xAA, 0xAA, 1⟩, ⟨0xBA, 0xBA, 1⟩, ⟨0x1BB, 0x1BB, 1⟩, ⟨0x1C0, 0x1C3, 1⟩, ⟨0x294, 0x294, 1⟩,
   ⟨0x5D0, 0x5EA, 1⟩, ⟨0x5EF, 0x5F2, 1⟩, ⟨0x620, 0x63F, 1⟩, ⟨0x641, 0x64A, 1⟩, ⟨0x66E, 0x66F, 1⟩,
   ⟨0x671, 0x6D3, 1⟩, ⟨0x6D5, 0x6D5, 1⟩, ⟨0x6EE, 0x6EF, 1⟩, ⟨0x6FA, 0x6FC, 1⟩, ⟨0x6FF, 0x6FF, 1⟩,
   ⟨0x710, 0x710, 1⟩, ⟨0x712, 0x72F, 1⟩, ⟨0x74D, 0x7A5, 1⟩, ⟨0x7B1, 0x7B1, 1⟩, ⟨0x7CA, 0x7EA, 1⟩,
   ⟨0x800, 0x815, 1⟩, ⟨0x840, 0x858, 1⟩, ⟨0x860, 0x86A, 1⟩, ⟨0x870, 0x887, 1⟩, ⟨0x889, 0x88E, 1⟩,
   ⟨0x8A0, 0x8C8, 1⟩, ⟨0x904, 0x939, 1⟩, ⟨0x93D, 0x93D, 1⟩, ⟨0x950, 0x950, 1⟩, ⟨0x958, 0x961, 1⟩,
   ⟨0x972, 0x980, 1⟩, ⟨0x985, 0x98C, 1⟩, ⟨0x98F, 0x990, 1⟩, ⟨0x993, 0x9A8, 1⟩, ⟨0x9AA, 0x9B0, 1⟩,
   ⟨0x9B2, 0x9B2, 1⟩, ⟨0x9B6, 0x9B9, 1⟩, ⟨0x9BD, 0x9BD, 1⟩, ⟨0x9CE, 0x9CE, 1⟩, ⟨0x9DC, 0x9DD, 1⟩,
   ⟨0x9DF, 0x9E1, 1⟩, ⟨0x9F0, 0x9F1, 1⟩, ⟨0x9FC, 0x9FC, 1⟩, ⟨0xA05, 0xA0A, 1⟩, ⟨0xA0F, 0xA10, 1⟩,
   ⟨0xA13, 0xA28, 1⟩, ⟨0xA2A, 0xA30, 1⟩, ⟨0xA32, 0xA33, 1⟩, ⟨0xA35, 0xA36, 1⟩, ⟨0xA38, 0xA39, 1⟩,
   ⟨0xA59, 0xA5C, 1⟩, ⟨0xA5E, 0xA5E, 1⟩, ⟨0xA72, 0xA74, 1⟩, ⟨0xA85, 0xA8D, 1⟩, ⟨0xA8F, 0xA91, 1⟩,
   ⟨0xA93, 0xAA8, 1⟩, ⟨0xAAA, 0xAB0, 1⟩, ⟨0xAB2, 0xAB3, 1⟩, ⟨0xAB5, 0xAB9, 1⟩, ⟨0xABD, 0xABD, 1⟩,
   ⟨0xAD0, 0xAD0, 1⟩, ⟨0xAE0, 0xAE1, 1⟩, ⟨0xAF9, 0xAF9, 1⟩, ⟨0xB05, 0xB0C, 1⟩, ⟨0xB0F, 0xB10, 1⟩,
   ⟨0xB13, 0xB28, 1⟩, ⟨0xB2A, 0xB30, 1⟩, ⟨0xB32, 0xB33, 1⟩, ⟨0xB35, 0xB39, 1⟩, ⟨0xB3D, 0xB3D, 1⟩,
   ⟨0xB5C, 0xB5D, 1⟩, ⟨0xB5F, 0xB61, 1⟩, ⟨0xB71, 0xB71, 1⟩, ⟨0xB83, 0xB83, 1⟩, ⟨0xB85, 0xB8A, 1⟩,
   ⟨0xB8E, 0xB90, 1⟩, ⟨0xB92, 0xB95, 1⟩, ⟨0xB99, 0xB9A, 1⟩, ⟨0xB9C, 0xB9C, 1⟩, ⟨0xB9E, 0xB9F, 1⟩,
   ⟨0xBA3, 0xBA4, 1⟩, ⟨0xBA8, 0xBAA, 1⟩, ⟨0xBAE, 0xBB9, 1⟩, ⟨0xBD0, 0xBD0, 1⟩, ⟨0xC05, 0xC0C, 1⟩,
   ⟨0xC0E, 0xC10, 1⟩, ⟨0xC12, 0xC28, 1⟩, ⟨0xC2A, 0xC39, 1⟩, ⟨0xC3D, 0xC3D, 1⟩, ⟨0xC58, 0xC5A, 1⟩,
   ⟨0xC5D, 0xC5D, 1⟩, ⟨0xC60, 0xC61, 1⟩, ⟨0xC80, 0xC80, 1⟩, ⟨0xC85, 0xC8C, 1⟩, ⟨0xC8E, 0xC90, 1⟩,
   ⟨0xC92, 0xCA8, 1⟩, ⟨0xCAA, 0xCB3, 1⟩, ⟨0xCB5, 0xCB9, 1⟩, ⟨0xCBD, 0xCBD, 1⟩, ⟨0xCDD, 0xCDE, 1⟩,
   ⟨0xCE0, 0xCE1, 1⟩, ⟨0xCF1, 0xCF2, 1⟩, ⟨0xD04, 0xD0C, 1⟩, ⟨0xD0E, 0xD10, 1⟩, ⟨0xD12, 0xD3A, 1⟩,
   ⟨0xD3D, 0xD3D, 1⟩, ⟨0xD4E, 0xD4E, 1⟩, ⟨0xD54, 0xD56, 1⟩, ⟨0xD5F, 0xD61, 1⟩, ⟨0xD7A, 0xD7F, 1⟩,
   ⟨0xD85, 0xD96, 1⟩, ⟨0xD9A, 0xDB1, 1⟩, ⟨0xDB3, 0xDBB, 1⟩, ⟨0xDBD, 0xDBD, 1⟩, ⟨0xDC0, 0xDC6, 1⟩,
   ⟨0xE01, 0xE30, 1⟩, ⟨0xE32, 0xE33, 1⟩, ⟨0xE40, 0xE45, 1⟩, ⟨0xE81, 0xE82, 1⟩, ⟨0xE84, 0xE84, 1⟩,
   ⟨0xE86, 0xE8A, 1⟩, ⟨0xE8C, 0xEA3, 1⟩, ⟨0xEA5, 0xEA5, 1⟩, ⟨0xEA7, 0xEB0, 1⟩, ⟨0xEB2, 0xEB3, 1⟩,
   ⟨0xEBD, 0xEBD, 1⟩, ⟨0xEC0, 0xEC4, 1⟩, ⟨0xEDC, 0xEDF, 1⟩, ⟨0xF00, 0xF00, 1⟩, ⟨0xF40, 0xF47, 1⟩,
   ⟨0xF49, 0xF6C, 1⟩, ⟨0xF88, 0xF8C, 1⟩, ⟨0x1000, 0x102A, 1⟩, ⟨0x103F, 0x103F, 1⟩,
   ⟨0x1050, 0x1055, 1⟩, ⟨0x105A, 0x105D, 1⟩, ⟨0x1061, 0x1061, 1⟩, ⟨0x1065, 0x1066, 1⟩,
   ⟨0x106E, 0x1070, 1⟩, ⟨0x1075, 0x1081, 1⟩, ⟨0x108E, 0x108E, 1⟩, ⟨0x1100, 0x1248, 1⟩,
   ⟨0x124A, 0x124D, 1⟩, ⟨0x1250, 0x1256, 1⟩, ⟨0x1258, 0x1258, 1⟩, ⟨0x125A, 0x125D, 1⟩,
   ⟨0x1260, 0x1288, 1⟩, ⟨0x128A, 0x128D, 1⟩, ⟨0x1290, 0x12B0, 1⟩, ⟨0x12B2, 0x12B5, 1⟩,
   ⟨0x12B8, 0x12BE, 1⟩, ⟨0x12C0, 0x12C0, 1⟩, ⟨0x12C2, 0x12C5, 1⟩, ⟨0x12C8, 0x12D6, 1⟩,
   ⟨0x12D8, 0x1310, 1⟩, ⟨0x1312, 0x1315, 1⟩, ⟨0x1318, 0x135A, 1⟩, ⟨0x1380, 0x138F, 1⟩,
   ⟨0x1401, 0x166C, 1⟩, ⟨0x166F, 0x167F, 1⟩, ⟨0x1681, 0x169A, 1⟩, ⟨0x16A0, 0x16EA, 1⟩,
   ⟨0x16F1, 0x16F8, 1⟩, ⟨0x1700, 0x1711, 1⟩, ⟨0x171F, 0x1731, 1⟩, ⟨0x1740, 0x1751, 1⟩,
   ⟨0x1760, 0x176C, 1⟩, ⟨0x176E, 0x1770, 1⟩, ⟨0x1780, 0x17B3, 1⟩, ⟨0x17DC, 0x17DC, 1⟩,
   ⟨0x1820, 0x1842, 1⟩, ⟨0x1844, 0x1878, 1⟩, ⟨0x1880, 0x1884, 1⟩, ⟨0x1887, 0x18A8, 1⟩,
   ⟨0x18AA, 0x18AA, 1⟩, ⟨0x18B0, 0x18F5, 1⟩, ⟨0x1900, 0x191E, 1⟩, ⟨0x1950, 0x196D, 1⟩,
   ⟨0x1970, 0x1974, 1⟩, ⟨0x1980, 0x19AB, 1⟩, ⟨0x19B0, 0x19C9, 1⟩, ⟨0x1A00, 0x1A16, 1⟩,
   ⟨0x1A20, 0x1A54, 1⟩, ⟨0x1B05, 0x1B33, 1⟩, ⟨0x1B45, 0x1B4C, 1⟩, ⟨0x1B83, 0x1BA0, 1⟩,
   ⟨0x1BAE, 0x1BAF, 1⟩, ⟨0x1BBA, 0x1BE5, 1⟩, ⟨0x1C00, 0x1C23, 1⟩, ⟨0x1C4D, 0x1C4F, 1⟩,
   ⟨0x1C5A, 0x1C77, 1⟩, ⟨0x1CE9, 0x1CEC, 1⟩, ⟨0x1CEE, 0x1CF3, 1⟩, ⟨0x1CF5, 0x1CF6, 1⟩,
   ⟨0x1CFA, 0x1CFA, 1⟩, ⟨0x2135, 0x2138, 1⟩, ⟨0x2D30, 0x2D67, 1⟩, ⟨0x2D80, 0x2D96, 1⟩,
   ⟨0x2DA0, 0x2DA6, 1⟩, ⟨0x2DA8, 0x2DAE, 1⟩, ⟨0x2DB0, 0x2DB6, 1⟩, ⟨0x2DB8, 0x2DBE, 1⟩,
   ⟨0x2DC0, 0x2DC6, 1⟩, ⟨0x2DC8, 0x2DCE, 1⟩, ⟨0x2DD0, 0x2DD6, 1⟩, ⟨0x2DD8, 0x2DDE, 1⟩,
   ⟨0x3006, 0x3006, 1⟩, ⟨0x303C, 0x303C, 1⟩, ⟨0x3041, 0x3096, 1⟩, ⟨0x309F, 0x309F, 1⟩,
   ⟨0x30A1, 0x30FA, 1⟩, ⟨0x30FF, 0x30FF, 1⟩, ⟨0x3105, 0x312F, 1⟩, ⟨0x3131, 0x318E, 1⟩,
   ⟨0x31A0, 0x31BF, 1⟩, ⟨0x31F0, 0x31FF, 1⟩, ⟨0x3400, 0x4DBF, 1⟩, ⟨0x4E00, 0xA014, 1⟩,
   ⟨0xA016, 0xA48C, 1⟩, ⟨0xA4D0, 0xA4F7, 1⟩, ⟨0xA500, 0xA60B, 1⟩, ⟨0xA610, 0xA61F, 1⟩,
   ⟨0xA62A, 0xA62B, 1⟩, ⟨0xA66E, 0xA66E, 1⟩, ⟨0xA6A0, 0xA6E5, 1⟩, ⟨0xA78F, 0xA78F, 1⟩,
   ⟨0xA7F7, 0xA7F7, 1⟩, ⟨0xA7FB, 0xA801, 1⟩, ⟨0xA803, 0xA805, 1⟩, ⟨0xA807, 0xA80A, 1⟩,
   ⟨0xA80C, 0xA822, 1⟩, ⟨0xA840, 0xA873, 1⟩, ⟨0xA882, 0xA8B3, 1⟩, ⟨0xA8F2, 0xA8F7, 1⟩,
   ⟨0xA8FB, 0xA8FB, 1⟩, ⟨0xA8FD, 0xA8FE, 1⟩, ⟨0xA90A, 0xA925, 1⟩, ⟨0xA930, 0xA946, 1⟩,
   ⟨0xA960, 0xA97C, 1⟩, ⟨0xA984, 0xA9B2, 1⟩, ⟨0xA9E0, 0xA9E4, 1⟩, ⟨0xA9E7, 0xA9EF, 1⟩,
   ⟨0xA9FA, 0xA9FE, 1⟩, ⟨0xAA00, 0xAA28, 1⟩, ⟨0xAA40, 0xAA42, 1⟩, ⟨0xAA44, 0xAA4B, 1⟩,
   ⟨0xAA60, 0xAA6F, 1⟩, ⟨0xAA71, 0xAA76, 1⟩, ⟨0xAA7A, 0xAA7A, 1⟩, ⟨0xAA7E, 0xAAAF, 1⟩,
   ⟨0xAAB1, 0xAAB1, 1⟩, ⟨0xAAB5, 0xAAB6, 1⟩, ⟨0xAAB9, 0xAABD, 1⟩, ⟨0xAAC0, 0xAAC2, 2⟩,
   ⟨0xAADB, 0xAADC, 1⟩, ⟨0xAAE0, 0xAAEA, 1⟩, ⟨0xAAF2, 0xAAF2, 1⟩, ⟨0xAB01, 0xAB06, 1⟩,
   ⟨0xAB09, 0xAB0E, 1⟩, ⟨0xAB11, 0xAB16, 1⟩, ⟨0xAB20, 0xAB26, 1⟩, ⟨0xAB28, 0xAB2E, 1⟩,
   ⟨0xABC0, 0xABE2, 1⟩, ⟨0xAC00, 0xD7A3, 1⟩, ⟨0xD7B0, 0xD7C6, 1⟩, ⟨0xD7CB, 0xD7FB, 1⟩,
   ⟨0xF900, 0xFA6D, 1⟩, ⟨0xFA70, 0xFAD9, 1⟩, ⟨0xFB1D, 0xFB1D, 1⟩, ⟨0xFB1F, 0xFB28, 1⟩,
   ⟨0xFB2A, 0xFB36, 1⟩, ⟨0xFB38, 0xFB3C, 1⟩, ⟨0xFB3E, 0xFB3E, 1⟩, ⟨0xFB40, 0xFB41, 1⟩,
   ⟨0xFB43, 0xFB44, 1⟩, ⟨0xFB46, 0xFBB1, 1⟩, ⟨0xFBD3, 0xFD3D, 1⟩, ⟨0xFD50, 0xFD8F, 1⟩,
   ⟨0xFD92, 0xFDC7, 1⟩, ⟨0xFDF0, 0xFDFB, 1⟩, ⟨0xFE70, 0xFE74, 1⟩, ⟨0xFE76, 0xFEFC, 1⟩,
   ⟨0xFF66, 0xFF6F, 1⟩, ⟨0xFF71, 0xFF9D, 1⟩, ⟨0xFFA0, 0xFFBE, 1⟩, ⟨0xFFC2, 0xFFC7, 1⟩,
   ⟨0xFFCA, 0xFFCF, 1⟩, ⟨0xFFD2, 0xFFD7, 1⟩, ⟨0xFFDA, 0xFFDC, 1⟩, ⟨0x10000, 0x1000B, 1⟩,
   ⟨0x1000D, 0x10026, 1⟩, ⟨0x10028, 0x1003A, 1⟩, ⟨0x1003C, 0x1003D, 1⟩, ⟨0x1003F, 0x1004D, 1⟩,
   ⟨0x10050, 0x1005D, 1⟩, ⟨0x10080, 0x100FA, 1⟩, ⟨0x10280, 0x1029C, 1⟩, ⟨0x102A0, 0x102D0, 1⟩,
   ⟨0x10300, 0x1031F, 1⟩, ⟨0x1032D, 0x10340, 1⟩, ⟨0x10342, 0x10349, 1⟩, ⟨0x10350, 0x10375, 1⟩,
   ⟨0x10380, 0x1039D, 1⟩, ⟨0x103A0, 0x103C3, 1⟩, ⟨0x103C8, 0x103CF, 1⟩, ⟨0x10450, 0x1049D, 1⟩,
   ⟨0x10500, 0x10527, 1⟩, ⟨0x10530, 0x10563, 1⟩, ⟨0x10600, 0x10736, 1⟩, ⟨0x10740, 0x10755, 1⟩,
   ⟨0x10760, 0x10767, 1⟩, ⟨0x10800, 0x10805, 1⟩, ⟨0x10808, 0x10808, 1⟩, ⟨0x1080A, 0x10835, 1⟩,
   ⟨0x10837, 0x10838, 1⟩, ⟨0x1083C, 0x1083C, 1⟩, ⟨0x1083F, 0x10855, 1⟩, ⟨0x10860, 0x10876, 1⟩,
   ⟨0x10880, 0x1089E, 1⟩, ⟨0x108E0, 0x108F2, 1⟩, ⟨0x108F4, 0x108F5, 1⟩, ⟨0x10900, 0x10915, 1⟩,
   ⟨0x10920, 0x10939, 1⟩, ⟨0x10980, 0x109B7, 1⟩, ⟨0x109BE, 0x109BF, 1⟩, ⟨0x10A00, 0x10A00, 1⟩,
   ⟨0x10A10, 0x10A13, 1⟩, ⟨0x10A15, 0x10A17, 1⟩, ⟨0x10A19, 0x10A35, 1⟩, ⟨0x10A60, 0x10A7C, 1⟩,
   ⟨0x10A80, 0x10A9C, 1⟩, ⟨0x10AC0, 0x10AC7, 1⟩, ⟨0x10AC9, 0x10AE4, 1⟩, ⟨0x10B00, 0x10B35, 1⟩,
   ⟨0x10B40, 0x10B55, 1⟩, ⟨0x10B60, 0x10B72, 1⟩, ⟨0x10B80, 0x10B91, 1⟩, ⟨0x10C00, 0x10C48, 1⟩,
   ⟨0x10D00, 0x10D23, 1⟩, ⟨0x10E80, 0x10EA9, 1⟩, ⟨0x10EB0, 0x10EB1, 1⟩, ⟨0x10F00, 0x10F1C, 1⟩,
   ⟨0x10F27, 0x10F27, 1⟩, ⟨0x10F30, 0x10F45, 1⟩, ⟨0x10F70, 0x10F81, 1⟩, ⟨0x10FB0, 0x10FC4, 1⟩,
   ⟨0x10FE0, 0x10FF6, 1⟩, ⟨0x11003, 0x11037, 1⟩, ⟨0x11071, 0x11072, 1⟩, ⟨0x11075, 0x11075, 1⟩,
   ⟨0x11083, 0x110AF, 1⟩, ⟨0x110D0, 0x110E8, 1⟩, ⟨0x11103, 0x11126, 1⟩, ⟨0x11144, 0x11144, 1⟩,
   ⟨0x11147, 0x11147, 1⟩, ⟨0x11150, 0x11172, 1⟩, ⟨0x11176, 0x11176, 1⟩, ⟨0x11183, 0x111B2, 1⟩,
   ⟨0x111C1, 0x111C4, 1⟩, ⟨0x111DA, 0x111DC, 2⟩, ⟨0x11200, 0x11211, 1⟩, ⟨0x11213, 0x1122B, 1⟩,
   ⟨0x1123F, 0x11240, 1⟩, ⟨0x11280, 0x11286, 1⟩, ⟨0x11288, 0x11288, 1⟩, ⟨0x1128A, 0x1128D, 1⟩,
   ⟨0x1128F, 0x1129D, 1⟩, ⟨0x1129F, 0x112A8, 1⟩, ⟨0x112B0, 0x112DE, 1⟩, ⟨0x11305, 0x1130C, 1⟩,
   ⟨0x1130F, 0x11310, 1⟩, ⟨0x11313, 0x11328, 1⟩, ⟨0x1132A, 0x11330, 1⟩, ⟨0x11332, 0x11333, 1⟩,
   ⟨0x11335, 0x11339, 1⟩, ⟨0x1133D, 0x1133D, 1⟩, ⟨0x11350, 0x11350, 1⟩, ⟨0x1135D, 0x11361, 1⟩,
   ⟨0x11400, 0x11434, 1⟩, ⟨0x11447, 0x1144A, 1⟩, ⟨0x1145F, 0x11461, 1⟩, ⟨0x11480, 0x114AF, 1⟩,
   ⟨0x114C4, 0x114C5, 1⟩, ⟨0x114C7, 0x114C7, 1⟩, ⟨0x11580, 0x115AE, 1⟩, ⟨0x115D8, 0x115DB, 1⟩,
   ⟨0x11600, 0x1162F, 1⟩, ⟨0x11644, 0x11644, 1⟩, ⟨0x11680, 0x116AA, 1⟩, ⟨0x116B8, 0x116B8, 1⟩,
   ⟨0x11700, 0x1171A, 1⟩, ⟨0x11740, 0x11746, 1⟩, ⟨0x11800, 0x1182B, 1⟩, ⟨0x118FF, 0x11906, 1⟩,
   ⟨0x11909, 0x11909, 1⟩, ⟨0x1190C, 0x11913, 1⟩, ⟨0x11915, 0x11916, 1⟩, ⟨0x11918, 0x1192F, 1⟩,
   ⟨0x1193F, 0x11941, 2⟩, ⟨0x119A0, 0x119A7, 1⟩, ⟨0x119AA, 0x119D0, 1⟩, ⟨0x119E1, 0x119E3, 2⟩,
   ⟨0x11A00, 0x11A00, 1⟩, ⟨0x11A0B, 0x11A32, 1⟩, ⟨0x11A3A, 0x11A3A, 1⟩, ⟨0x11A50, 0x11A50, 1⟩,
   ⟨0x11A5C, 0x11A89, 1⟩, ⟨0x11A9D, 0x11A9D, 1⟩, ⟨0x11AB0, 0x11AF8, 1⟩, ⟨0x11C00, 0x11C08, 1⟩,
   ⟨0x11C0A, 0x11C2E, 1⟩, ⟨0x11C40, 0x11C40, 1⟩, ⟨0x11C72, 0x11C8F, 1⟩, ⟨0x11D00, 0x11D06, 1⟩,
   ⟨0x11D08, 0x11D09, 1⟩, ⟨0x11D0B, 0x11D30, 1⟩, ⟨0x11D46, 0x11D46, 1⟩, ⟨0x11D60, 0x11D65, 1⟩,
   ⟨0x11D67, 0x11D68, 1⟩, ⟨0x11D6A, 0x11D89, 1⟩, ⟨0x11D98, 0x11D98, 1⟩, ⟨0x11EE0, 0x11EF2, 1⟩,
   ⟨0x11F02, 0x11F02, 1⟩, ⟨0x11F04, 0x11F10, 1⟩, ⟨0x11F12, 0x11F33, 1⟩, ⟨0x11FB0, 0x11FB0, 1⟩,
   ⟨0x12000, 0x12399, 1⟩, ⟨0x12480, 0x12543, 1⟩, ⟨0x12F90, 0x12FF0, 1⟩, ⟨0x13000, 0x1342F, 1⟩,
   ⟨0x13441, 0x13446, 1⟩, ⟨0x14400, 0x14646, 1⟩, ⟨0x16800, 0x16A38, 1⟩, ⟨0x16A40, 0x16A5E, 1⟩,
   ⟨0x16A70, 0x16ABE, 1⟩, ⟨0x16AD0, 0x16AED, 1⟩, ⟨0x16B00, 0x16B2F, 1⟩, ⟨0x16B63, 0x16B77, 1⟩,
   ⟨0x16B7D, 0x16B8F, 1⟩, ⟨0x16F00, 0x16F4A, 1⟩, ⟨0x16F50, 0x16F50, 1⟩, ⟨0x17000, 0x187F7, 1⟩,
   ⟨0x18800, 0x18CD5, 1⟩, ⟨0x18D00, 0x18D08, 1⟩, ⟨0x1B000, 0x1B122, 1⟩, ⟨0x1B132, 0x1B132, 1⟩,
   ⟨0x1B150, 0x1B152, 1⟩, ⟨0x1B155, 0x1B155, 1⟩, ⟨0x1B164, 0x1B167, 1⟩, ⟨0x1B170, 0x1B2FB, 1⟩,
   ⟨0x1BC00, 0x1BC6A, 1⟩, ⟨0x1BC70, 0x1BC7C, 1⟩, ⟨0x1BC80, 0x1BC88, 1⟩, ⟨0x1BC90, 0x1BC99, 1⟩,
   ⟨0x1DF0A, 0x1DF0A, 1⟩, ⟨0x1E100, 0x1E12C, 1⟩, ⟨0x1E14E, 0x1E14E, 1⟩, ⟨0x1E290, 0x1E2AD, 1⟩,
   ⟨0x1E2C0, 0x1E2EB, 1⟩, ⟨0x1E4D0, 0x1E4EA, 1⟩, ⟨0x1E7E0, 0x1E7E6, 1⟩, ⟨0x1E7E8, 0x1E7EB, 1⟩,
   ⟨0x1E7ED, 0x1E7EE, 1⟩, ⟨0x1E7F0, 0x1E7FE, 1⟩, ⟨0x1E800, 0x1E8C4, 1⟩, ⟨0x1EE00, 0x1EE03, 1⟩,
   ⟨0x1EE05, 0x1EE1F, 1⟩, ⟨0x1EE21, 0x1EE22, 1⟩, ⟨0x1EE24, 0x1EE24, 1⟩, ⟨0x1EE27, 0x1EE27, 1⟩,
   ⟨0x1EE29, 0x1EE32, 1⟩, ⟨0x1EE34, 0x1EE37, 1⟩, ⟨0x1EE39, 0x1EE3B, 2⟩, ⟨0x1EE42, 0x1EE42, 1⟩,
   ⟨0x1EE47, 0x1EE4B, 2⟩, ⟨0x1EE4D, 0x1EE4F, 1⟩, ⟨0x1EE51, 0x1EE52, 1⟩, ⟨0x1EE54, 0x1EE54, 1⟩,
   ⟨0x1EE57, 0x1EE5F, 2⟩, ⟨0x1EE61, 0x1EE62, 1⟩, ⟨0x1EE64, 0x1EE64, 1⟩, ⟨0x1EE67, 0x1EE6A, 1⟩,
   ⟨0x1EE6C, 0x1EE72, 1⟩, ⟨0x1EE74, 0x1EE77, 1⟩, ⟨0x1EE79, 0x1EE7C, 1⟩, ⟨0x1EE7E, 0x1EE7E, 1⟩,
   ⟨0x1EE80, 0x1EE89, 1⟩, ⟨0x1EE8B, 0x1EE9B, 1⟩, ⟨0x1EEA1, 0x1EEA3, 1⟩, ⟨0x1EEA5, 0x1EEA9, 1⟩,
   ⟨0x1EEAB, 0x1EEBB, 1⟩, ⟨0x20000, 0x2A6DF, 1⟩, ⟨0x2A700, 0x2B739, 1⟩, ⟨0x2B740, 0x2B81D, 1⟩,
   ⟨0x2B820, 0x2CEA1, 1⟩, ⟨0x2CEB0, 0x2EBE0, 1⟩, ⟨0x2F800, 0x2FA1D, 1⟩, ⟨0x30000, 0x3134A, 1⟩,
   ⟨0x31350, 0x323AF, 1⟩]

/-- The runs of nonspacingMark characters. -/
def nonspacingMarkRuns : List Run :=
  [⟨0x300, 0x36F, 1⟩, ⟨0x483, 0x487, 1⟩, ⟨0x591, 0x5BD, 1⟩, ⟨0x5BF, 0x5BF, 1⟩, ⟨0x5C1, 0x5C2, 1⟩,
   ⟨0x5C4, 0x5C5, 1⟩, ⟨0x5C7, 0x5C7, 1⟩, ⟨0x610, 0x61A, 1⟩, ⟨0x64B, 0x65F, 1⟩, ⟨0x670, 0x670, 1⟩,
   ⟨0x6D6, 0x6DC, 1⟩, ⟨0x6DF, 0x6E4, 1⟩, ⟨0x6E7, 0x6E8, 1⟩, ⟨0x6EA, 0x6ED, 1⟩, ⟨0x711, 0x711, 1⟩,
   ⟨0x730, 0x74A, 1⟩, ⟨0x7A6, 0x7B0, 1⟩, ⟨0x7EB, 0x7F3, 1⟩, ⟨0x7FD, 0x7FD, 1⟩, ⟨0x816, 0x819, 1⟩,
   ⟨0x81B, 0x823, 1⟩, ⟨0x825, 0x827, 1⟩, ⟨0x829, 0x82D, 1⟩, ⟨0x859, 0x85B, 1⟩, ⟨0x898, 0x89F, 1⟩,
   ⟨0x8CA, 0x8E1, 1⟩, ⟨0x8E3, 0x902, 1⟩, ⟨0x93A, 0x93C, 2⟩, ⟨0x941, 0x948, 1⟩, ⟨0x94D, 0x94D, 1⟩,
   ⟨0x951, 0x957, 1⟩, ⟨0x962, 0x963, 1⟩, ⟨0x981, 0x981, 1⟩, ⟨0x9BC, 0x9BC, 1⟩, ⟨0x9C1, 0x9C4, 1⟩,
   ⟨0x9CD, 0x9CD, 1⟩, ⟨0x9E2, 0x9E3, 1⟩, ⟨0x9FE, 0x9FE, 1⟩, ⟨0xA01, 0xA02, 1⟩, ⟨0xA3C, 0xA3C, 1⟩,
   ⟨0xA41, 0xA42, 1⟩, ⟨0xA47, 0xA48, 1⟩, ⟨0xA4B, 0xA4D, 1⟩, ⟨0xA51, 0xA51, 1⟩, ⟨0xA70, 0xA71, 1⟩,
   ⟨0xA75, 0xA75, 1⟩, ⟨0xA81, 0xA82, 1⟩, ⟨0xABC, 0xABC, 1⟩, ⟨0xAC1, 0xAC5, 1⟩, ⟨0xAC7, 0xAC8, 1⟩,
   ⟨0xACD, 0xACD, 1⟩, ⟨0xAE2, 0xAE3, 1⟩, ⟨0xAFA, 0xAFF, 1⟩, ⟨0xB01, 0xB01, 1⟩, ⟨0xB3C, 0xB3C, 1⟩,
   ⟨0xB3F, 0xB3F, 1⟩, ⟨0xB41, 0xB44, 1⟩, ⟨0xB4D, 0xB4D, 1⟩, ⟨0xB55, 0xB56, 1⟩, ⟨0xB62, 0xB63, 1⟩,
   ⟨0xB82, 0xB82, 1⟩, ⟨0xBC0, 0xBC0, 1⟩, ⟨0xBCD, 0xBCD, 1⟩, ⟨0xC00, 0xC00, 1⟩, ⟨0xC04, 0xC04, 1⟩,
   ⟨0xC3C, 0xC3C, 1⟩, ⟨0xC3E, 0xC40, 1⟩, ⟨0xC46, 0xC48, 1⟩, ⟨0xC4A, 0xC4D, 1⟩, ⟨0xC55, 0xC56, 1⟩,
   ⟨0xC62, 0xC63, 1⟩, ⟨0xC81, 0xC81, 1⟩, ⟨0xCBC, 0xCBC, 1⟩, ⟨0xCBF, 0xCBF, 1⟩, ⟨0xCC6, 0xCC6, 1⟩,
   ⟨0xCCC, 0xCCD, 1⟩, ⟨0xCE2, 0xCE3, 1⟩, ⟨0xD00, 0xD01, 1⟩, ⟨0xD3B, 0xD3C, 1⟩, ⟨0xD41, 0xD44, 1⟩,
   ⟨0xD4D, 0xD4D, 1⟩, ⟨0xD62, 0xD63, 1⟩, ⟨0xD81, 0xD81, 1⟩, ⟨0xDCA, 0xDCA, 1⟩, ⟨0xDD2, 0xDD4, 1⟩,
   ⟨0xDD6, 0xDD6, 1⟩, ⟨0xE31, 0xE31, 1⟩, ⟨0xE34, 0xE3A, 1⟩, ⟨0xE47, 0xE4E, 1⟩, ⟨0xEB1, 0xEB1, 1⟩,
   ⟨0xEB4, 0xEBC, 1⟩, ⟨0xEC8, 0xECE, 1⟩, ⟨0xF18, 0xF19, 1⟩, ⟨0xF35, 0xF39, 2⟩, ⟨0xF71, 0xF7E, 1⟩,
   ⟨0xF80, 0xF84, 1⟩, ⟨0xF86, 0xF87, 1⟩, ⟨0xF8D, 0xF97, 1⟩, ⟨0xF99, 0xFBC, 1⟩, ⟨0xFC6, 0xFC6, 1⟩,
   ⟨0x102D, 0x1030, 1⟩, ⟨0x1032, 0x1037, 1⟩, ⟨0x1039, 0x103A, 1⟩, ⟨0x103D, 0x103E, 1⟩,
   ⟨0x1058, 0x1059, 1⟩, ⟨0x105E, 0x1060, 1⟩, ⟨0x1071, 0x1074, 1⟩, ⟨0x1082, 0x1082, 1⟩,
   ⟨0x1085, 0x1086, 1⟩, ⟨0x108D, 0x108D, 1⟩, ⟨0x109D, 0x109D, 1⟩, ⟨0x135D, 0x135F, 1⟩,
   ⟨0x1712, 0x1714, 1⟩, ⟨0x1732, 0x1733, 1⟩, ⟨0x1752, 0x1753, 1⟩, ⟨0x1772, 0x1773, 1⟩,
   ⟨0x17B4, 0x17B5, 1⟩, ⟨0x17B7, 0x17BD, 1⟩, ⟨0x17C6, 0x17C6, 1⟩, ⟨0x17C9, 0x17D3, 1⟩,
   ⟨0x17DD, 0x17DD, 1⟩, ⟨0x180B, 0x180D, 1⟩, ⟨0x180F, 0x180F, 1⟩, ⟨0x1885, 0x1886, 1⟩,
   ⟨0x18A9, 0x18A9, 1⟩, ⟨0x1920, 0x1922, 1⟩, ⟨0x1927, 0x1928, 1⟩, ⟨0x1932, 0x1932, 1⟩,
   ⟨0x1939, 0x193B, 1⟩, ⟨0x1A17, 0x1A18, 1⟩, ⟨0x1A1B, 0x1A1B, 1⟩, ⟨0x1A56, 0x1A56, 1⟩,
   ⟨0x1A58, 0x1A5E, 1⟩, ⟨0x1A60, 0x1A62, 2⟩, ⟨0x1A65, 0x1A6C, 1⟩, ⟨0x1A73, 0x1A7C, 1⟩,
   ⟨0x1A7F, 0x1A7F, 1⟩, ⟨0x1AB0, 0x1ABD, 1⟩, ⟨0x1ABF, 0x1ACE, 1⟩, ⟨0x1B00, 0x1B03, 1⟩,
   ⟨0x1B34, 0x1B34, 1⟩, ⟨0x1B36, 0x1B3A, 1⟩, ⟨0x1B3C, 0x1B3C, 1⟩, ⟨0x1B42, 0x1B42, 1⟩,
   ⟨0x1B6B, 0x1B73, 1⟩, ⟨0x1B80, 0x1B81, 1⟩, ⟨0x1BA2, 0x1BA5, 1⟩, ⟨0x1BA8, 0x1BA9, 1⟩,
   ⟨0x1BAB, 0x1BAD, 1⟩, ⟨0x1BE6, 0x1BE6, 1⟩, ⟨0x1BE8, 0x1BE9, 1⟩, ⟨0x1BED, 0x1BED, 1⟩,
   ⟨0x1BEF, 0x1BF1, 1⟩, ⟨0x1C2C, 0x1C33, 1⟩, ⟨0x1C36, 0x1C37, 1⟩, ⟨0x1CD0, 0x1CD2, 1⟩,
   ⟨0x1CD4, 0x1CE0, 1⟩, ⟨0x1CE2, 0x1CE8, 1⟩, ⟨0x1CED, 0x1CED, 1⟩, ⟨0x1CF4, 0x1CF4, 1⟩,
   ⟨0x1CF8, 0x1CF9, 1⟩, ⟨0x1DC0, 0x1DFF, 1⟩, ⟨0x20D0, 0x20DC, 1⟩, ⟨0x20E1, 0x20E1, 1⟩,
   ⟨0x20E5, 0x20F0, 1⟩, ⟨0x2CEF, 0x2CF1, 1⟩, ⟨0x2D7F, 0x2D7F, 1⟩, ⟨0x2DE0, 0x2DFF, 1⟩,
   ⟨0x302A, 0x302D, 1⟩, ⟨0x3099, 0x309A, 1⟩, ⟨0xA66F, 0xA66F, 1⟩, ⟨0xA674, 0xA67D, 1⟩,
   ⟨0xA69E, 0xA69F, 1⟩, ⟨0xA6F0, 0xA6F1, 1⟩, ⟨0xA802, 0xA802, 1⟩, ⟨0xA806, 0xA806, 1⟩,
   ⟨0xA80B, 0xA80B, 1⟩, ⟨0xA825, 0xA826, 1⟩, ⟨0xA82C, 0xA82C, 1⟩, ⟨0xA8C4, 0xA8C5, 1⟩,
   ⟨0xA8E0, 0xA8F1, 1⟩, ⟨0xA8FF, 0xA8FF, 1⟩, ⟨0xA926, 0xA92D, 1⟩, ⟨0xA947, 0xA951, 1⟩,
   ⟨0xA980, 0xA982, 1⟩, ⟨0xA9B3, 0xA9B3, 1⟩, ⟨0xA9B6, 0xA9B9, 1⟩, ⟨0xA9BC, 0xA9BD, 1⟩,
   ⟨0xA9E5, 0xA9E5, 1⟩, ⟨0xAA29, 0xAA2E, 1⟩, ⟨0xAA31, 0xAA32, 1⟩, ⟨0xAA35, 0xAA36, 1⟩,
   ⟨0xAA43, 0xAA43, 1⟩, ⟨0xAA4C, 0xAA4C, 1⟩, ⟨0xAA7C, 0xAA7C, 1⟩, ⟨0xAAB0, 0xAAB0, 1⟩,
   ⟨0xAAB2, 0xAAB4, 1⟩, ⟨0xAAB7, 0xAAB8, 1⟩, ⟨0xAABE, 0xAABF, 1⟩, ⟨0xAAC1, 0xAAC1, 1⟩,
   ⟨0xAAEC, 0xAAED, 1⟩, ⟨0xAAF6, 0xAAF6, 1⟩, ⟨0xABE5, 0xABE5, 1⟩, ⟨0xABE8, 0xABE8, 1⟩,
   ⟨0xABED, 0xABED, 1⟩, ⟨0xFB1E, 0xFB1E, 1⟩, ⟨0xFE00, 0xFE0F, 1⟩, ⟨0xFE20, 0xFE2F, 1⟩,
   ⟨0x101FD, 0x101FD, 1⟩, ⟨0x102E0, 0x102E0, 1⟩, ⟨0x10376, 0x1037A, 1⟩, ⟨0x10A01, 0x10A03, 1⟩,
   ⟨0x10A05, 0x10A06, 1⟩, ⟨0x10A0C, 0x10A0F, 1⟩, ⟨0x10A38, 0x10A3A, 1⟩, ⟨0x10A3F, 0x10A3F, 1⟩,
   ⟨0x10AE5, 0x10AE6, 1⟩, ⟨0x10D24, 0x10D27, 1⟩, ⟨0x10EAB, 0x10EAC, 1⟩, ⟨0x10EFD, 0x10EFF, 1⟩,
   ⟨0x10F46, 0x10F50, 1⟩, ⟨0x10F82, 0x10F85, 1⟩, ⟨0x11001, 0x11001, 1⟩, ⟨0x11038, 0x11046, 1⟩,
   ⟨0x11070, 0x11070, 1⟩, ⟨0x11073, 0x11074, 1⟩, ⟨0x1107F, 0x11081, 1⟩, ⟨0x110B3, 0x110B6, 1⟩,
   ⟨0x110B9, 0x110BA, 1⟩, ⟨0x110C2, 0x110C2, 1⟩, ⟨0x11100, 0x11102, 1⟩, ⟨0x11127, 0x1112B, 1⟩,
   ⟨0x1112D, 0x11134, 1⟩, ⟨0x11173, 0x11173, 1⟩, ⟨0x11180, 0x11181, 1⟩, ⟨0x111B6, 0x111BE, 1⟩,
   ⟨0x111C9, 0x111CC, 1⟩, ⟨0x111CF, 0x111CF, 1⟩, ⟨0x1122F, 0x11231, 1⟩, ⟨0x11234, 0x11234, 1⟩,
   ⟨0x11236, 0x11237, 1⟩, ⟨0x1123E, 0x1123E, 1⟩, ⟨0x11241, 0x11241, 1⟩, ⟨0x112DF, 0x112DF, 1⟩,
   ⟨0x112E3, 0x112EA, 1⟩, ⟨0x11300, 0x11301, 1⟩, ⟨0x1133B, 0x1133C, 1⟩, ⟨0x11340, 0x11340, 1⟩,
   ⟨0x11366, 0x1136C, 1⟩, ⟨0x11370, 0x11374, 1⟩, ⟨0x11438, 0x1143F, 1⟩, ⟨0x11442, 0x11444, 1⟩,
   ⟨0x11446, 0x11446, 1⟩, ⟨0x1145E, 0x1145E, 1⟩, ⟨0x114B3, 0x114B8, 1⟩, ⟨0x114BA, 0x114BA, 1⟩,
   ⟨0x114BF, 0x114C0, 1⟩, ⟨0x114C2, 0x114C3, 1⟩, ⟨0x115B2, 0x115B5, 1⟩, ⟨0x115BC, 0x115BD, 1⟩,
   ⟨0x115BF, 0x115C0, 1⟩, ⟨0x115DC, 0x115DD, 1⟩, ⟨0x11633, 0x1163A, 1⟩, ⟨0x1163D, 0x1163D, 1⟩,
   ⟨0x1163F, 0x11640, 1⟩, ⟨0x116AB, 0x116AD, 2⟩, ⟨0x116B0, 0x116B5, 1⟩, ⟨0x116B7, 0x116B7, 1⟩,
   ⟨0x1171D, 0x1171F, 1⟩, ⟨0x11722, 0x11725, 1⟩, ⟨0x11727, 0x1172B, 1⟩, ⟨0x1182F, 0x11837, 1⟩,
   ⟨0x11839, 0x1183A, 1⟩, ⟨0x1193B, 0x1193C, 1⟩, ⟨0x1193E, 0x1193E, 1⟩, ⟨0x11943, 0x11943, 1⟩,
   ⟨0x119D4, 0x119D7, 1⟩, ⟨0x119DA, 0x119DB, 1⟩, ⟨0x119E0, 0x119E0, 1⟩, ⟨0x11A01, 0x11A0A, 1⟩,
   ⟨0x11A33, 0x11A38, 1⟩, ⟨0x11A3B, 0x11A3E, 1⟩, ⟨0x11A47, 0x11A47, 1⟩, ⟨0x11A51, 0x11A56, 1⟩,
   ⟨0x11A59, 0x11A5B, 1⟩, ⟨0x11A8A, 0x11A96, 1⟩, ⟨0x11A98, 0x11A99, 1⟩, ⟨0x11C30, 0x11C36, 1⟩,
   ⟨0x11C38, 0x11C3D, 1⟩, ⟨0x11C3F, 0x11C3F, 1⟩, ⟨0x11C92, 0x11CA7, 1⟩, ⟨0x11CAA, 0x11CB0, 1⟩,
   ⟨0x11CB2, 0x11CB3, 1⟩, ⟨0x11CB5, 0x11CB6, 1⟩, ⟨0x11D31, 0x11D36, 1⟩, ⟨0x11D3A, 0x11D3A, 1⟩,
   ⟨0x11D3C, 0x11D3D, 1⟩, ⟨0x11D3F, 0x11D45, 1⟩, ⟨0x11D47, 0x11D47, 1⟩, ⟨0x11D90, 0x11D91, 1⟩,
   ⟨0x11D95, 0x11D97, 2⟩, ⟨0x11EF3, 0x11EF4, 1⟩, ⟨0x11F00, 0x11F01, 1⟩, ⟨0x11F36, 0x11F3A, 1⟩,
   ⟨0x11F40, 0x11F42, 2⟩, ⟨0x13440, 0x13440, 1⟩, ⟨0x13447, 0x13455, 1⟩, ⟨0x16AF0, 0x16AF4, 1⟩,
   ⟨0x16B30, 0x16B36, 1⟩, ⟨0x16F4F, 0x16F4F, 1⟩, ⟨0x16F8F, 0x16F92, 1⟩, ⟨0x16FE4, 0x16FE4, 1⟩,
   ⟨0x1BC9D, 0x1BC9E, 1⟩, ⟨0x1CF00, 0x1CF2D, 1⟩, ⟨0x1CF30, 0x1CF46, 1⟩, ⟨0x1D167, 0x1D169, 1⟩,
   ⟨0x1D17B, 0x1D182, 1⟩, ⟨0x1D185, 0x1D18B, 1⟩, ⟨0x1D1AA, 0x1D1AD, 1⟩, ⟨0x1D242, 0x1D244, 1⟩,
   ⟨0x1DA00, 0x1DA36, 1⟩, ⟨0x1DA3B, 0x1DA6C, 1⟩, ⟨0x1DA75, 0x1DA75, 1⟩, ⟨0x1DA84, 0x1DA84, 1⟩,
   ⟨0x1DA9B, 0x1DA9F, 1⟩, ⟨0x1DAA1, 0x1DAAF, 1⟩, ⟨0x1E000, 0x1E006, 1⟩, ⟨0x1E008, 0x1E018, 1⟩,
   ⟨0x1E01B, 0x1E021, 1⟩, ⟨0x1E023, 0x1E024, 1⟩, ⟨0x1E026, 0x1E02A, 1⟩, ⟨0x1E08F, 0x1E08F, 1⟩,
   ⟨0x1E130, 0x1E136, 1⟩, ⟨0x1E2AE, 0x1E2AE, 1⟩, ⟨0x1E2EC, 0x1E2EF, 1⟩, ⟨0x1E4EC, 0x1E4EF, 1⟩,
   ⟨0x1E8D0, 0x1E8D6, 1⟩, ⟨0x1E944, 0x1E94A, 1⟩, ⟨0xE0100, 0xE01EF, 1⟩]

/-- The runs of spacingMark characters. -/
def spacingMarkRuns : List Run :=
  [⟨0x903, 0x903, 1⟩, ⟨0x93B, 0x93B, 1⟩, ⟨0x93E, 0x940, 1⟩, ⟨0x949, 0x94C, 1⟩, ⟨0x94E, 0x94F, 1⟩,
   ⟨0x982, 0x983, 1⟩, ⟨0x9BE, 0x9C0, 1⟩, ⟨0x9C7, 0x9C8, 1⟩, ⟨0x9CB, 0x9CC, 1⟩, ⟨0x9D7, 0x9D7, 1⟩,
   ⟨0xA03, 0xA03, 1⟩, ⟨0xA3E, 0xA40, 1⟩, ⟨0xA83, 0xA83, 1⟩, ⟨0xABE, 0xAC0, 1⟩, ⟨0xAC9, 0xAC9, 1⟩,
   ⟨0xACB, 0xACC, 1⟩, ⟨0xB02, 0xB03, 1⟩, ⟨0xB3E, 0xB40, 2⟩, ⟨0xB47, 0xB48, 1⟩, ⟨0xB4B, 0xB4C, 1⟩,
   ⟨0xB57, 0xB57, 1⟩, ⟨0xBBE, 0xBBF, 1⟩, ⟨0xBC1, 0xBC2, 1⟩, ⟨0xBC6, 0xBC8, 1⟩, ⟨0xBCA, 0xBCC, 1⟩,
   ⟨0xBD7, 0xBD7, 1⟩, ⟨0xC01, 0xC03, 1⟩, ⟨0xC41, 0xC44, 1⟩, ⟨0xC82, 0xC83, 1⟩, ⟨0xCBE, 0xCBE, 1⟩,
   ⟨0xCC0, 0xCC4, 1⟩, ⟨0xCC7, 0xCC8, 1⟩, ⟨0xCCA, 0xCCB, 1⟩, ⟨0xCD5, 0xCD6, 1⟩, ⟨0xCF3, 0xCF3, 1⟩,
   ⟨0xD02, 0xD03, 1⟩, ⟨0xD3E, 0xD40, 1⟩, ⟨0xD46, 0xD48, 1⟩, ⟨0xD4A, 0xD4C, 1⟩, ⟨0xD57, 0xD57, 1⟩,
   ⟨0xD82, 0xD83, 1⟩, ⟨0xDCF, 0xDD1, 1⟩, ⟨0xDD8, 0xDDF, 1⟩, ⟨0xDF2, 0xDF3, 1⟩, ⟨0xF3E, 0xF3F, 1⟩,
   ⟨0xF7F, 0xF7F, 1⟩, ⟨0x102B, 0x102C, 1⟩, ⟨0x1031, 0x1031, 1⟩, ⟨0x1038, 0x1038, 1⟩,
   ⟨0x103B, 0x103C, 1⟩, ⟨0x1056, 0x1057, 1⟩, ⟨0x1062, 0x1064, 1⟩, ⟨0x1067, 0x106D, 1⟩,
   ⟨0x1083, 0x1084, 1⟩, ⟨0x1087, 0x108C, 1⟩, ⟨0x108F, 0x108F, 1⟩, ⟨0x109A, 0x109C, 1⟩,
   ⟨0x1715, 0x1715, 1⟩, ⟨0x1734, 0x1734, 1⟩, ⟨0x17B6, 0x17B6, 1⟩, ⟨0x17BE, 0x17C5, 1⟩,
   ⟨0x17C7, 0x17C8, 1⟩, ⟨0x1923, 0x1926, 1⟩, ⟨0x1929, 0x192B, 1⟩, ⟨0x1930, 0x1931, 1⟩,
   ⟨0x1933, 0x1938, 1⟩, ⟨0x1A19, 0x1A1A, 1⟩, ⟨0x1A55, 0x1A57, 2⟩, ⟨0x1A61, 0x1A61, 1⟩,
   ⟨0x1A63, 0x1A64, 1⟩, ⟨0x1A6D, 0x1A72, 1⟩, ⟨0x1B04, 0x1B04, 1⟩, ⟨0x1B35, 0x1B35, 1⟩,
   ⟨0x1B3B, 0x1B3B, 1⟩, ⟨0x1B3D, 0x1B41, 1⟩, ⟨0x1B43, 0x1B44, 1⟩, ⟨0x1B82, 0x1B82, 1⟩,
   ⟨0x1BA1, 0x1BA1, 1⟩, ⟨0x1BA6, 0x1BA7, 1⟩, ⟨0x1BAA, 0x1BAA, 1⟩, ⟨0x1BE7, 0x1BE7, 1⟩,
   ⟨0x1BEA, 0x1BEC, 1⟩, ⟨0x1BEE, 0x1BEE, 1⟩, ⟨0x1BF2, 0x1BF3, 1⟩, ⟨0x1C24, 0x1C2B, 1⟩,
   ⟨0x1C34, 0x1C35, 1⟩, ⟨0x1CE1, 0x1CE1, 1⟩, ⟨0x1CF7, 0x1CF7, 1⟩, ⟨0x302E, 0x302F, 1⟩,
   ⟨0xA823, 0xA824, 1⟩, ⟨0xA827, 0xA827, 1⟩, ⟨0xA880, 0xA881, 1⟩, ⟨0xA8B4, 0xA8C3, 1⟩,
   ⟨0xA952, 0xA953, 1⟩, ⟨0xA983, 0xA983, 1⟩, ⟨0xA9B4, 0xA9B5, 1⟩, ⟨0xA9BA, 0xA9BB, 1⟩,
   ⟨0xA9BE, 0xA9C0, 1⟩, ⟨0xAA2F, 0xAA30, 1⟩, ⟨0xAA33, 0xAA34, 1⟩, ⟨0xAA4D, 0xAA4D, 1⟩,
   ⟨0xAA7B, 0xAA7D, 2⟩, ⟨0xAAEB, 0xAAEB, 1⟩, ⟨0xAAEE, 0xAAEF, 1⟩, ⟨0xAAF5, 0xAAF5, 1⟩,
   ⟨0xABE3, 0xABE4, 1⟩, ⟨0xABE6, 0xABE7, 1⟩, ⟨0xABE9, 0xABEA, 1⟩, ⟨0xABEC, 0xABEC, 1⟩,
   ⟨0x11000, 0x11002, 2⟩, ⟨0x11082, 0x11082, 1⟩, ⟨0x110B0, 0x110B2, 1⟩, ⟨0x110B7, 0x110B8, 1⟩,
   ⟨0x1112C, 0x1112C, 1⟩, ⟨0x11145, 0x11146, 1⟩, ⟨0x11182, 0x11182, 1⟩, ⟨0x111B3, 0x111B5, 1⟩,
   ⟨0x111BF, 0x111C0, 1⟩, ⟨0x111CE, 0x111CE, 1⟩, ⟨0x1122C, 0x1122E, 1⟩, ⟨0x11232, 0x11233, 1⟩,
   ⟨0x11235, 0x11235, 1⟩, ⟨0x112E0, 0x112E2, 1⟩, ⟨0x11302, 0x11303, 1⟩, ⟨0x1133E, 0x1133F, 1⟩,
   ⟨0x11341, 0x11344, 1⟩, ⟨0x11347, 0x11348, 1⟩, ⟨0x1134B, 0x1134D, 1⟩, ⟨0x11357, 0x11357, 1⟩,
   ⟨0x11362, 0x11363, 1⟩, ⟨0x11435, 0x11437, 1⟩, ⟨0x11440, 0x11441, 1⟩, ⟨0x11445, 0x11445, 1⟩,
   ⟨0x114B0, 0x114B2, 1⟩, ⟨0x114B9, 0x114B9, 1⟩, ⟨0x114BB, 0x114BE, 1⟩, ⟨0x114C1, 0x114C1, 1⟩,
   ⟨0x115AF, 0x115B1, 1⟩, ⟨0x115B8, 0x115BB, 1⟩, ⟨0x115BE, 0x115BE, 1⟩, ⟨0x11630, 0x11632, 1⟩,
   ⟨0x1163B, 0x1163C, 1⟩, ⟨0x1163E, 0x1163E, 1⟩, ⟨0x116AC, 0x116AC, 1⟩, ⟨0x116AE, 0x116AF, 1⟩,
   ⟨0x116B6, 0x116B6, 1⟩, ⟨0x11720, 0x11721, 1⟩, ⟨0x11726, 0x11726, 1⟩, ⟨0x1182C, 0x1182E, 1⟩,
   ⟨0x11838, 0x11838, 1⟩, ⟨0x11930, 0x11935, 1⟩, ⟨0x11937, 0x11938, 1⟩, ⟨0x1193D, 0x1193D, 1⟩,
   ⟨0x11940, 0x11942, 2⟩, ⟨0x119D1, 0x119D3, 1⟩, ⟨0x119DC, 0x119DF, 1⟩, ⟨0x119E4, 0x119E4, 1⟩,
   ⟨0x11A39, 0x11A39, 1⟩, ⟨0x11A57, 0x11A58, 1⟩, ⟨0x11A97, 0x11A97, 1⟩, ⟨0x11C2F, 0x11C2F, 1⟩,
   ⟨0x11C3E, 0x11C3E, 1⟩, ⟨0x11CA9, 0x11CA9, 1⟩, ⟨0x11CB1, 0x11CB1, 1⟩, ⟨0x11CB4, 0x11CB4, 1⟩,
   ⟨0x11D8A, 0x11D8E, 1⟩, ⟨0x11D93, 0x11D94, 1⟩, ⟨0x11D96, 0x11D96, 1⟩, ⟨0x11EF5, 0x11EF6, 1⟩,
   ⟨0x11F03, 0x11F03, 1⟩, ⟨0x11F34, 0x11F35, 1⟩, ⟨0x11F3E, 0x11F3F, 1⟩, ⟨0x11F41, 0x11F41, 1⟩,
   ⟨0x16F51, 0x16F87, 1⟩, ⟨0x16FF0, 0x16FF1, 1⟩, ⟨0x1D165, 0x1D166, 1⟩, ⟨0x1D16D, 0x1D172, 1⟩]

/-- The runs of enclosingMark characters. -/
def enclosingMarkRuns : List Run :=
  [⟨0x488, 0x489, 1⟩, ⟨0x1ABE, 0x1ABE, 1⟩, ⟨0x20DD, 0x20E0, 1⟩, ⟨0x20E2, 0x20E4, 1⟩,
   ⟨0xA670, 0xA672, 1⟩]

/-- The runs of decimalDigit characters. -/
def decimalDigitRuns : List Run :=
  [⟨0x30, 0x39, 1⟩, ⟨0x660, 0x669, 1⟩, ⟨0x6F0, 0x6F9, 1⟩, ⟨0x7C0, 0x7C9, 1⟩, ⟨0x966, 0x96F, 1⟩,
   ⟨0x9E6, 0x9EF, 1⟩, ⟨0xA66, 0xA6F, 1⟩, ⟨0xAE6, 0xAEF, 1⟩, ⟨0xB66, 0xB6F, 1⟩, ⟨0xBE6, 0xBEF, 1⟩,
   ⟨0xC66, 0xC6F, 1⟩, ⟨0xCE6, 0xCEF, 1⟩, ⟨0xD66, 0xD6F, 1⟩, ⟨0xDE6, 0xDEF, 1⟩, ⟨0xE50, 0xE59, 1⟩,
   ⟨0xED0, 0xED9, 1⟩, ⟨0xF20, 0xF29, 1⟩, ⟨0x1040, 0x1049, 1⟩, ⟨0x1090, 0x1099, 1⟩,
   ⟨0x17E0, 0x17E9, 1⟩, ⟨0x1810, 0x1819, 1⟩, ⟨0x1946, 0x194F, 1⟩, ⟨0x19D0, 0x19D9, 1⟩,
   ⟨0x1A80, 0x1A89, 1⟩, ⟨0x1A90, 0x1A99, 1⟩, ⟨0x1B50, 0x1B59, 1⟩, ⟨0x1BB0, 0x1BB9, 1⟩,
   ⟨0x1C40, 0x1C49, 1⟩, ⟨0x1C50, 0x1C59, 1⟩, ⟨0xA620, 0xA629, 1⟩, ⟨0xA8D0, 0xA8D9, 1⟩,
   ⟨0xA900, 0xA909, 1⟩, ⟨0xA9D0, 0xA9D9, 1⟩, ⟨0xA9F0, 0xA9F9, 1⟩, ⟨0xAA50, 0xAA59, 1⟩,
   ⟨0xABF0, 0xABF9, 1⟩, ⟨0xFF10, 0xFF19, 1⟩, ⟨0x104A0, 0x104A9, 1⟩, ⟨0x10D30, 0x10D39, 1⟩,
   ⟨0x11066, 0x1106F, 1⟩, ⟨0x110F0, 0x110F9, 1⟩, ⟨0x11136, 0x1113F, 1⟩, ⟨0x111D0, 0x111D9, 1⟩,
   ⟨0x112F0, 0x112F9, 1⟩, ⟨0x11450, 0x11459, 1⟩, ⟨0x114D0, 0x114D9, 1⟩, ⟨0x11650, 0x11659, 1⟩,
   ⟨0x116C0, 0x116C9, 1⟩, ⟨0x11730, 0x11739, 1⟩, ⟨0x118E0, 0x118E9, 1⟩, ⟨0x11950, 0x11959, 1⟩,
   ⟨0x11C50, 0x11C59, 1⟩, ⟨0x11D50, 0x11D59, 1⟩, ⟨0x11DA0, 0x11DA9, 1⟩, ⟨0x11F50, 0x11F59, 1⟩,
   ⟨0x16A60, 0x16A69, 1⟩, ⟨0x16AC0, 0x16AC9, 1⟩, ⟨0x16B50, 0x16B59, 1⟩, ⟨0x1D7CE, 0x1D7FF, 1⟩,
   ⟨0x1E140, 0x1E149, 1⟩, ⟨0x1E2F0, 0x1E2F9, 1⟩, ⟨0x1E4F0, 0x1E4F9, 1⟩, ⟨0x1E950, 0x1E959, 1⟩,
   ⟨0x1FBF0, 0x1FBF9, 1⟩]

/-- The runs of letterNumber characters. -/
def letterNumberRuns : List Run :=
  [⟨0x16EE, 0x16F0, 1⟩, ⟨0x2160, 0x2182, 1⟩, ⟨0x2185, 0x2188, 1⟩, ⟨0x3007, 0x3007, 1⟩,
   ⟨0x3021, 0x3029, 1⟩, ⟨0x3038, 0x303A, 1⟩, ⟨0xA6E6, 0xA6EF, 1⟩, ⟨0x10140, 0x10174, 1⟩,
   ⟨0x10341, 0x10341, 1⟩, ⟨0x1034A, 0x1034A, 1⟩, ⟨0x103D1, 0x103D5, 1⟩, ⟨0x12400, 0x1246E, 1⟩]

/-- The runs of otherNumber characters. -/
def otherNumberRuns : List Run :=
  [⟨0xB2, 0xB3, 1⟩, ⟨0xB9, 0xB9, 1⟩, ⟨0xBC, 0xBE, 1⟩, ⟨0x9F4, 0x9F9, 1⟩, ⟨0xB72, 0xB77, 1⟩,
   ⟨0xBF0, 0xBF2, 1⟩, ⟨0xC78, 0xC7E, 1⟩, ⟨0xD58, 0xD5E, 1⟩, ⟨0xD70, 0xD78, 1⟩, ⟨0xF2A, 0xF33, 1⟩,
   ⟨0x1369, 0x137C, 1⟩, ⟨0x17F0, 0x17F9, 1⟩, ⟨0x19DA, 0x19DA, 1⟩, ⟨0x2070, 0x2070, 1⟩,
   ⟨0x2074, 0x2079, 1⟩, ⟨0x2080, 0x2089, 1⟩, ⟨0x2150, 0x215F, 1⟩, ⟨0x2189, 0x2189, 1⟩,
   ⟨0x2460, 0x249B, 1⟩, ⟨0x24EA, 0x24FF, 1⟩, ⟨0x2776, 0x2793, 1⟩, ⟨0x2CFD, 0x2CFD, 1⟩,
   ⟨0x3192, 0x3195, 1⟩, ⟨0x3220, 0x3229, 1⟩, ⟨0x3248, 0x324F, 1⟩, ⟨0x3251, 0x325F, 1⟩,
   ⟨0x3280, 0x3289, 1⟩, ⟨0x32B1, 0x32BF, 1⟩, ⟨0xA830, 0xA835, 1⟩, ⟨0x10107, 0x10133, 1⟩,
   ⟨0x10175, 0x10178, 1⟩, ⟨0x1018A, 0x1018B, 1⟩, ⟨0x102E1, 0x102FB, 1⟩, ⟨0x10320, 0x10323, 1⟩,
   ⟨0x10858, 0x1085F, 1⟩, ⟨0x10879, 0x1087F, 1⟩, ⟨0x108A7, 0x108AF, 1⟩, ⟨0x108FB, 0x108FF, 1⟩,
   ⟨0x10916, 0x1091B, 1⟩, ⟨0x109BC, 0x109BD, 1⟩, ⟨0x109C0, 0x109CF, 1⟩, ⟨0x109D2, 0x109FF, 1⟩,
   ⟨0x10A40, 0x10A48, 1⟩, ⟨0x10A7D, 0x10A7E, 1⟩, ⟨0x10A9D, 0x10A9F, 1⟩, ⟨0x10AEB, 0x10AEF, 1⟩,
   ⟨0x10B58, 0x10B5F, 1⟩, ⟨0x10B78, 0x10B7F, 1⟩, ⟨0x10BA9, 0x10BAF, 1⟩, ⟨0x10CFA, 0x10CFF, 1⟩,
   ⟨0x10E60, 0x10E7E, 1⟩, ⟨0x10F1D, 0x10F26, 1⟩, ⟨0x10F51, 0x10F54, 1⟩, ⟨0x10FC5, 0x10FCB, 1⟩,
   ⟨0x11052, 0x11065, 1⟩, ⟨0x111E1, 0x111F4, 1⟩, ⟨0x1173A, 0x1173B, 1⟩, ⟨0x118EA, 0x118F2, 1⟩,
   ⟨0x11C5A, 0x11C6C, 1⟩, ⟨0x11FC0, 0x11FD4, 1⟩, ⟨0x16B5B, 0x16B61, 1⟩, ⟨0x16E80, 0x16E96, 1⟩,
   ⟨0x1D2C0, 0x1D2D3, 1⟩, ⟨0x1D2E0, 0x1D2F3, 1⟩, ⟨0x1D360, 0x1D378, 1⟩, ⟨0x1E8C7, 0x1E8CF, 1⟩,
   ⟨0x1EC71, 0x1ECAB, 1⟩, ⟨0x1ECAD, 0x1ECAF, 1⟩, ⟨0x1ECB1, 0x1ECB4, 1⟩, ⟨0x1ED01, 0x1ED2D, 1⟩,
   ⟨0x1ED2F, 0x1ED3D, 1⟩, ⟨0x1F100, 0x1F10C, 1⟩]

/-- The runs of connector characters. -/
def connectorRuns : List Run :=
  [⟨0x5F, 0x5F, 1⟩, ⟨0x203F, 0x2040, 1⟩, ⟨0x2054, 0x2054, 1⟩, ⟨0xFE33, 0xFE34, 1⟩,
   ⟨0xFE4D, 0xFE4F, 1⟩, ⟨0xFF3F, 0xFF3F, 1⟩]

/-- The runs of dash characters. -/
def dashRuns : List Run :=
  [⟨0x2D, 0x2D, 1⟩, ⟨0x58A, 0x58A, 1⟩, ⟨0x5BE, 0x5BE, 1⟩, ⟨0x1400, 0x1400, 1⟩, ⟨0x1806, 0x1806, 1⟩,
   ⟨0x2010, 0x2015, 1⟩, ⟨0x2E17, 0x2E17, 1⟩, ⟨0x2E1A, 0x2E1A, 1⟩, ⟨0x2E3A, 0x2E3B, 1⟩,
   ⟨0x2E40, 0x2E40, 1⟩, ⟨0x2E5D, 0x2E5D, 1⟩, ⟨0x301C, 0x301C, 1⟩, ⟨0x3030, 0x3030, 1⟩,
   ⟨0x30A0, 0x30A0, 1⟩, ⟨0xFE31, 0xFE32, 1⟩, ⟨0xFE58, 0xFE58, 1⟩, ⟨0xFE63, 0xFE63, 1⟩,
   ⟨0xFF0D, 0xFF0D, 1⟩, ⟨0x10EAD, 0x10EAD, 1⟩]

/-- The runs of opening characters. -/
def openingRuns : List Run :=
  [⟨0x28, 0x28, 1⟩, ⟨0x5B, 0x5B, 1⟩, ⟨0x7B, 0x7B, 1⟩, ⟨0xF3A, 0xF3C, 2⟩, ⟨0x169B, 0x169B, 1⟩,
   ⟨0x201A, 0x201A, 1⟩, ⟨0x201E, 0x201E, 1⟩, ⟨0x2045, 0x2045, 1⟩, ⟨0x207D, 0x207D, 1⟩,
   ⟨0x208D, 0x208D, 1⟩, ⟨0x2308, 0x230A, 2⟩, ⟨0x2329, 0x2329, 1⟩, ⟨0x2768, 0x2774, 2⟩,
   ⟨0x27C5, 0x27C5, 1⟩, ⟨0x27E6, 0x27EE, 2⟩, ⟨0x2983, 0x2997, 2⟩, ⟨0x29D8, 0x29DA, 2⟩,
   ⟨0x29FC, 0x29FC, 1⟩, ⟨0x2E22, 0x2E28, 2⟩, ⟨0x2E42, 0x2E42, 1⟩, ⟨0x2E55, 0x2E5B, 2⟩,
   ⟨0x3008, 0x3010, 2⟩, ⟨0x3014, 0x301A, 2⟩, ⟨0x301D, 0x301D, 1⟩, ⟨0xFD3F, 0xFD3F, 1⟩,
   ⟨0xFE17, 0xFE17, 1⟩, ⟨0xFE35, 0xFE43, 2⟩, ⟨0xFE47, 0xFE47, 1⟩, ⟨0xFE59, 0xFE5D, 2⟩,
   ⟨0xFF08, 0xFF08, 1⟩, ⟨0xFF3B, 0xFF3B, 1⟩, ⟨0xFF5B, 0xFF5B, 1⟩, ⟨0xFF5F, 0xFF5F, 1⟩,
   ⟨0xFF62, 0xFF62, 1⟩]

/-- The runs of closing characters. -/
def closingRuns : List Run :=
  [⟨0x29, 0x29, 1⟩, ⟨0x5D, 0x5D, 1⟩, ⟨0x7D, 0x7D, 1⟩, ⟨0xF3B, 0xF3D, 2⟩, ⟨0x169C, 0x169C, 1⟩,
   ⟨0x2046, 0x2046, 1⟩, ⟨0x207E, 0x207E, 1⟩, ⟨0x208E, 0x208E, 1⟩, ⟨0x2309, 0x230B, 2⟩,
   ⟨0x232A, 0x232A, 1⟩, ⟨0x2769, 0x2775, 2⟩, ⟨0x27C6, 0x27C6, 1⟩, ⟨0x27E7, 0x27EF, 2⟩,
   ⟨0x2984, 0x2998, 2⟩, ⟨0x29D9, 0x29DB, 2⟩, ⟨0x29FD, 0x29FD, 1⟩, ⟨0x2E23, 0x2E29, 2⟩,
   ⟨0x2E56, 0x2E5C, 2⟩, ⟨0x3009, 0x3011, 2⟩, ⟨0x3015, 0x301B, 2⟩, ⟨0x301E, 0x301F, 1⟩,
   ⟨0xFD3E, 0xFD3E, 1⟩, ⟨0xFE18, 0xFE18, 1⟩, ⟨0xFE36, 0xFE44, 2⟩, ⟨0xFE48, 0xFE48, 1⟩,
   ⟨0xFE5A, 0xFE5E, 2⟩, ⟨0xFF09, 0xFF09, 1⟩, ⟨0xFF3D, 0xFF3D, 1⟩, ⟨0xFF5D, 0xFF5D, 1⟩,
   ⟨0xFF60, 0xFF60, 1⟩, ⟨0xFF63, 0xFF63, 1⟩]

/-- The runs of initialQuote characters. -/
def initialQuoteRuns : List Run :=
  [⟨0xAB, 0xAB, 1⟩, ⟨0x2018, 0x2018, 1⟩, ⟨0x201B, 0x201C, 1⟩, ⟨0x201F, 0x201F, 1⟩,
   ⟨0x2039, 0x2039, 1⟩, ⟨0x2E02, 0x2E04, 2⟩, ⟨0x2E09, 0x2E09, 1⟩, ⟨0x2E0C, 0x2E0C, 1⟩,
   ⟨0x2E1C, 0x2E1C, 1⟩, ⟨0x2E20, 0x2E20, 1⟩]

/-- The runs of finalQuote characters. -/
def finalQuoteRuns : List Run :=
  [⟨0xBB, 0xBB, 1⟩, ⟨0x2019, 0x2019, 1⟩, ⟨0x201D, 0x201D, 1⟩, ⟨0x203A, 0x203A, 1⟩,
   ⟨0x2E03, 0x2E05, 2⟩, ⟨0x2E0A, 0x2E0A, 1⟩, ⟨0x2E0D, 0x2E0D, 1⟩, ⟨0x2E1D, 0x2E1D, 1⟩,
   ⟨0x2E21, 0x2E21, 1⟩]

/-- The runs of otherPunctuation characters. -/
def otherPunctuationRuns : List Run :=
  [⟨0x21, 0x23, 1⟩, ⟨0x25, 0x27, 1⟩, ⟨0x2A, 0x2C, 2⟩, ⟨0x2E, 0x2F, 1⟩, ⟨0x3A, 0x3B, 1⟩,
   ⟨0x3F, 0x40, 1⟩, ⟨0x5C, 0x5C, 1⟩, ⟨0xA1, 0xA1, 1⟩, ⟨0xA7, 0xA7, 1⟩, ⟨0xB6, 0xB7, 1⟩,
   ⟨0xBF, 0xBF, 1⟩, ⟨0x37E, 0x37E, 1⟩, ⟨0x387, 0x387, 1⟩, ⟨0x55A, 0x55F, 1⟩, ⟨0x589, 0x589, 1⟩,
   ⟨0x5C0, 0x5C0, 1⟩, ⟨0x5C3, 0x5C3, 1⟩, ⟨0x5C6, 0x5C6, 1⟩, ⟨0x5F3, 0x5F4, 1⟩, ⟨0x609, 0x60A, 1⟩,
   ⟨0x60C, 0x60D, 1⟩, ⟨0x61B, 0x61B, 1⟩, ⟨0x61D, 0x61F, 1⟩, ⟨0x66A, 0x66D, 1⟩, ⟨0x6D4, 0x6D4, 1⟩,
   ⟨0x700, 0x70D, 1⟩, ⟨0x7F7, 0x7F9, 1⟩, ⟨0x830, 0x83E, 1⟩, ⟨0x85E, 0x85E, 1⟩, ⟨0x964, 0x965, 1⟩,
   ⟨0x970, 0x970, 1⟩, ⟨0x9FD, 0x9FD, 1⟩, ⟨0xA76, 0xA76, 1⟩, ⟨0xAF0, 0xAF0, 1⟩, ⟨0xC77, 0xC77, 1⟩,
   ⟨0xC84, 0xC84, 1⟩, ⟨0xDF4, 0xDF4, 1⟩, ⟨0xE4F, 0xE4F, 1⟩, ⟨0xE5A, 0xE5B, 1⟩, ⟨0xF04, 0xF12, 1⟩,
   ⟨0xF14, 0xF14, 1⟩, ⟨0xF85, 0xF85, 1⟩, ⟨0xFD0, 0xFD4, 1⟩, ⟨0xFD9, 0xFDA, 1⟩, ⟨0x104A, 0x104F, 1⟩,
   ⟨0x10FB, 0x10FB, 1⟩, ⟨0x1360, 0x1368, 1⟩, ⟨0x166E, 0x166E, 1⟩, ⟨0x16EB, 0x16ED, 1⟩,
   ⟨0x1735, 0x1736, 1⟩, ⟨0x17D4, 0x17D6, 1⟩, ⟨0x17D8, 0x17DA, 1⟩, ⟨0x1800, 0x1805, 1⟩,
   ⟨0x1807, 0x180A, 1⟩, ⟨0x1944, 0x1945, 1⟩, ⟨0x1A1E, 0x1A1F, 1⟩, ⟨0x1AA0, 0x1AA6, 1⟩,
   ⟨0x1AA8, 0x1AAD, 1⟩, ⟨0x1B5A, 0x1B60, 1⟩, ⟨0x1B7D, 0x1B7E, 1⟩, ⟨0x1BFC, 0x1BFF, 1⟩,
   ⟨0x1C3B, 0x1C3F, 1⟩, ⟨0x1C7E, 0x1C7F, 1⟩, ⟨0x1CC0, 0x1CC7, 1⟩, ⟨0x1CD3, 0x1CD3, 1⟩,
   ⟨0x2016, 0x2017, 1⟩, ⟨0x2020, 0x2027, 1⟩, ⟨0x2030, 0x2038, 1⟩, ⟨0x203B, 0x203E, 1⟩,
   ⟨0x2041, 0x2043, 1⟩, ⟨0x2047, 0x2051, 1⟩, ⟨0x2053, 0x2053, 1⟩, ⟨0x2055, 0x205E, 1⟩,
   ⟨0x2CF9, 0x2CFC, 1⟩, ⟨0x2CFE, 0x2CFF, 1⟩, ⟨0x2D70, 0x2D70, 1⟩, ⟨0x2E00, 0x2E01, 1⟩,
   ⟨0x2E06, 0x2E08, 1⟩, ⟨0x2E0B, 0x2E0B, 1⟩, ⟨0x2E0E, 0x2E16, 1⟩, ⟨0x2E18, 0x2E19, 1⟩,
   ⟨0x2E1B, 0x2E1B, 1⟩, ⟨0x2E1E, 0x2E1F, 1⟩, ⟨0x2E2A, 0x2E2E, 1⟩, ⟨0x2E30, 0x2E39, 1⟩,
   ⟨0x2E3C, 0x2E3F, 1⟩, ⟨0x2E41, 0x2E41, 1⟩, ⟨0x2E43, 0x2E4F, 1⟩, ⟨0x2E52, 0x2E54, 1⟩,
   ⟨0x3001, 0x3003, 1⟩, ⟨0x303D, 0x303D, 1⟩, ⟨0x30FB, 0x30FB, 1⟩, ⟨0xA4FE, 0xA4FF, 1⟩,
   ⟨0xA60D, 0xA60F, 1⟩, ⟨0xA673, 0xA673, 1⟩, ⟨0xA67E, 0xA67E, 1⟩, ⟨0xA6F2, 0xA6F7, 1⟩,
   ⟨0xA874, 0xA877, 1⟩, ⟨0xA8CE, 0xA8CF, 1⟩, ⟨0xA8F8, 0xA8FA, 1⟩, ⟨0xA8FC, 0xA8FC, 1⟩,
   ⟨0xA92E, 0xA92F, 1⟩, ⟨0xA95F, 0xA95F, 1⟩, ⟨0xA9C1, 0xA9CD, 1⟩, ⟨0xA9DE, 0xA9DF, 1⟩,
   ⟨0xAA5C, 0xAA5F, 1⟩, ⟨0xAADE, 0xAADF, 1⟩, ⟨0xAAF0, 0xAAF1, 1⟩, ⟨0xABEB, 0xABEB, 1⟩,
   ⟨0xFE10, 0xFE16, 1⟩, ⟨0xFE19, 0xFE19, 1⟩, ⟨0xFE30, 0xFE30, 1⟩, ⟨0xFE45, 0xFE46, 1⟩,
   ⟨0xFE49, 0xFE4C, 1⟩, ⟨0xFE50, 0xFE52, 1⟩, ⟨0xFE54, 0xFE57, 1⟩, ⟨0xFE5F, 0xFE61, 1⟩,
   ⟨0xFE68, 0xFE68, 1⟩, ⟨0xFE6A, 0xFE6B, 1⟩, ⟨0xFF01, 0xFF03, 1⟩, ⟨0xFF05, 0xFF07, 1⟩,
   ⟨0xFF0A, 0xFF0C, 2⟩, ⟨0xFF0E, 0xFF0F, 1⟩, ⟨0xFF1A, 0xFF1B, 1⟩, ⟨0xFF1F, 0xFF20, 1⟩,
   ⟨0xFF3C, 0xFF3C, 1⟩, ⟨0xFF61, 0xFF61, 1⟩, ⟨0xFF64, 0xFF65, 1⟩, ⟨0x10100, 0x10102, 1⟩,
   ⟨0x1039F, 0x1039F, 1⟩, ⟨0x103D0, 0x103D0, 1⟩, ⟨0x1056F, 0x1056F, 1⟩, ⟨0x10857, 0x10857, 1⟩,
   ⟨0x1091F, 0x1091F, 1⟩, ⟨0x1093F, 0x1093F, 1⟩, ⟨0x10A50, 0x10A58, 1⟩, ⟨0x10A7F, 0x10A7F, 1⟩,
   ⟨0x10AF0, 0x10AF6, 1⟩, ⟨0x10B39, 0x10B3F, 1⟩, ⟨0x10B99, 0x10B9C, 1⟩, ⟨0x10F55, 0x10F59, 1⟩,
   ⟨0x10F86, 0x10F89, 1⟩, ⟨0x11047, 0x1104D, 1⟩, ⟨0x110BB, 0x110BC, 1⟩, ⟨0x110BE, 0x110C1, 1⟩,
   ⟨0x11140, 0x11143, 1⟩, ⟨0x11174, 0x11175, 1⟩, ⟨0x111C5, 0x111C8, 1⟩, ⟨0x111CD, 0x111CD, 1⟩,
   ⟨0x111DB, 0x111DB, 1⟩, ⟨0x111DD, 0x111DF, 1⟩, ⟨0x11238, 0x1123D, 1⟩, ⟨0x112A9, 0x112A9, 1⟩,
   ⟨0x1144B, 0x1144F, 1⟩, ⟨0x1145A, 0x1145B, 1⟩, ⟨0x1145D, 0x1145D, 1⟩, ⟨0x114C6, 0x114C6, 1⟩,
   ⟨0x115C1, 0x115D7, 1⟩, ⟨0x11641, 0x11643, 1⟩, ⟨0x11660, 0x1166C, 1⟩, ⟨0x116B9, 0x116B9, 1⟩,
   ⟨0x1173C, 0x1173E, 1⟩, ⟨0x1183B, 0x1183B, 1⟩, ⟨0x11944, 0x11946, 1⟩, ⟨0x119E2, 0x119E2, 1⟩,
   ⟨0x11A3F, 0x11A46, 1⟩, ⟨0x11A9A, 0x11A9C, 1⟩, ⟨0x11A9E, 0x11AA2, 1⟩, ⟨0x11B00, 0x11B09, 1⟩,
   ⟨0x11C41, 0x11C45, 1⟩, ⟨0x11C70, 0x11C71, 1⟩, ⟨0x11EF7, 0x11EF8, 1⟩, ⟨0x11F43, 0x11F4F, 1⟩,
   ⟨0x11FFF, 0x11FFF, 1⟩, ⟨0x12470, 0x12474, 1⟩, ⟨0x12FF1, 0x12FF2, 1⟩, ⟨0x16A6E, 0x16A6F, 1⟩,
   ⟨0x16AF5, 0x16AF5, 1⟩, ⟨0x16B37, 0x16B3B, 1⟩, ⟨0x16B44, 0x16B44, 1⟩, ⟨0x16E97, 0x16E9A, 1⟩,
   ⟨0x16FE2, 0x16FE2, 1⟩, ⟨0x1BC9F, 0x1BC9F, 1⟩, ⟨0x1DA87, 0x1DA8B, 1⟩, ⟨0x1E95E, 0x1E95F, 1⟩]

/-- The runs of mathSymbol characters. -/
def mathSymbolRuns : List Run :=
  [⟨0x2B, 0x2B, 1⟩, ⟨0x3C, 0x3E, 1⟩, ⟨0x7C, 0x7E, 2⟩, ⟨0xAC, 0xAC, 1⟩, ⟨0xB1, 0xB1, 1⟩,
   ⟨0xD7, 0xD7, 1⟩, ⟨0xF7, 0xF7, 1⟩, ⟨0x3F6, 0x3F6, 1⟩, ⟨0x606, 0x608, 1⟩, ⟨0x2044, 0x2044, 1⟩,
   ⟨0x2052, 0x2052, 1⟩, ⟨0x207A, 0x207C, 1⟩, ⟨0x208A, 0x208C, 1⟩, ⟨0x2118, 0x2118, 1⟩,
   ⟨0x2140, 0x2144, 1⟩, ⟨0x214B, 0x214B, 1⟩, ⟨0x2190, 0x2194, 1⟩, ⟨0x219A, 0x219B, 1⟩,
   ⟨0x21A0, 0x21A0, 1⟩, ⟨0x21A3, 0x21A3, 1⟩, ⟨0x21A6, 0x21A6, 1⟩, ⟨0x21AE, 0x21AE, 1⟩,
   ⟨0x21CE, 0x21CF, 1⟩, ⟨0x21D2, 0x21D4, 2⟩, ⟨0x21F4, 0x22FF, 1⟩, ⟨0x2320, 0x2321, 1⟩,
   ⟨0x237C, 0x237C, 1⟩, ⟨0x239B, 0x23B3, 1⟩, ⟨0x23DC, 0x23E1, 1⟩, ⟨0x25B7, 0x25B7, 1⟩,
   ⟨0x25C1, 0x25C1, 1⟩, ⟨0x25F8, 0x25FF, 1⟩, ⟨0x266F, 0x266F, 1⟩, ⟨0x27C0, 0x27C4, 1⟩,
   ⟨0x27C7, 0x27E5, 1⟩, ⟨0x27F0, 0x27FF, 1⟩, ⟨0x2900, 0x2982, 1⟩, ⟨0x2999, 0x29D7, 1⟩,
   ⟨0x29DC, 0x29FB, 1⟩, ⟨0x29FE, 0x2AFF, 1⟩, ⟨0x2B30, 0x2B44, 1⟩, ⟨0x2B47, 0x2B4C, 1⟩,
   ⟨0xFB29, 0xFB29, 1⟩, ⟨0xFE62, 0xFE62, 1⟩, ⟨0xFE64, 0xFE66, 1⟩, ⟨0xFF0B, 0xFF0B, 1⟩,
   ⟨0xFF1C, 0xFF1E, 1⟩, ⟨0xFF5C, 0xFF5E, 2⟩, ⟨0xFFE2, 0xFFE2, 1⟩, ⟨0xFFE9, 0xFFEC, 1⟩,
   ⟨0x1D6C1, 0x1D6C1, 1⟩, ⟨0x1D6DB, 0x1D6DB, 1⟩, ⟨0x1D6FB, 0x1D6FB, 1⟩, ⟨0x1D715, 0x1D715, 1⟩,
   ⟨0x1D735, 0x1D735, 1⟩, ⟨0x1D74F, 0x1D74F, 1⟩, ⟨0x1D76F, 0x1D76F, 1⟩, ⟨0x1D789, 0x1D789, 1⟩,
   ⟨0x1D7A9, 0x1D7A9, 1⟩, ⟨0x1D7C3, 0x1D7C3, 1⟩, ⟨0x1EEF0, 0x1EEF1, 1⟩]

/-- The runs of currencySymbol characters. -/
def currencySymbolRuns : List Run :=
  [⟨0x24, 0x24, 1⟩, ⟨0xA2, 0xA5, 1⟩, ⟨0x58F, 0x58F, 1⟩, ⟨0x60B, 0x60B, 1⟩, ⟨0x7FE, 0x7FF, 1⟩,
   ⟨0x9F2, 0x9F3, 1⟩, ⟨0x9FB, 0x9FB, 1⟩, ⟨0xAF1, 0xAF1, 1⟩, ⟨0xBF9, 0xBF9, 1⟩, ⟨0xE3F, 0xE3F, 1⟩,
   ⟨0x17DB, 0x17DB, 1⟩, ⟨0x20A0, 0x20C0, 1⟩, ⟨0xA838, 0xA838, 1⟩, ⟨0xFDFC, 0xFDFC, 1⟩,
   ⟨0xFE69, 0xFE69, 1⟩, ⟨0xFF04, 0xFF04, 1⟩, ⟨0xFFE0, 0xFFE1, 1⟩, ⟨0xFFE5, 0xFFE6, 1⟩,
   ⟨0x11FDD, 0x11FE0, 1⟩, ⟨0x1E2FF, 0x1E2FF, 1⟩, ⟨0x1ECB0, 0x1ECB0, 1⟩]

/-- The runs of modifierSymbol characters. -/
def modifierSymbolRuns : List Run :=
  [⟨0x5E, 0x60, 2⟩, ⟨0xA8, 0xA8, 1⟩, ⟨0xAF, 0xAF, 1⟩, ⟨0xB4, 0xB4, 1⟩, ⟨0xB8, 0xB8, 1⟩,
   ⟨0x2C2, 0x2C5, 1⟩, ⟨0x2D2, 0x2DF, 1⟩, ⟨0x2E5, 0x2EB, 1⟩, ⟨0x2ED, 0x2ED, 1⟩, ⟨0x2EF, 0x2FF, 1⟩,
   ⟨0x375, 0x375, 1⟩, ⟨0x384, 0x385, 1⟩, ⟨0x888, 0x888, 1⟩, ⟨0x1FBD, 0x1FBD, 1⟩,
   ⟨0x1FBF, 0x1FC1, 1⟩, ⟨0x1FCD, 0x1FCF, 1⟩, ⟨0x1FDD, 0x1FDF, 1⟩, ⟨0x1FED, 0x1FEF, 1⟩,
   ⟨0x1FFD, 0x1FFE, 1⟩, ⟨0x309B, 0x309C, 1⟩, ⟨0xA700, 0xA716, 1⟩, ⟨0xA720, 0xA721, 1⟩,
   ⟨0xA789, 0xA78A, 1⟩, ⟨0xAB5B, 0xAB5B, 1⟩, ⟨0xAB6A, 0xAB6B, 1⟩, ⟨0xFBB2, 0xFBC2, 1⟩,
   ⟨0xFF3E, 0xFF40, 2⟩, ⟨0xFFE3, 0xFFE3, 1⟩, ⟨0x1F3FB, 0x1F3FF, 1⟩]

/-- The runs of otherSymbol characters. -/
def otherSymbolRuns : List Run :=
  [⟨0xA6, 0xA6, 1⟩, ⟨0xA9, 0xA9, 1⟩, ⟨0xAE, 0xB0, 2⟩, ⟨0x482, 0x482, 1⟩, ⟨0x58D, 0x58E, 1⟩,
   ⟨0x60E, 0x60F, 1⟩, ⟨0x6DE, 0x6DE, 1⟩, ⟨0x6E9, 0x6E9, 1⟩, ⟨0x6FD, 0x6FE, 1⟩, ⟨0x7F6, 0x7F6, 1⟩,
   ⟨0x9FA, 0x9FA, 1⟩, ⟨0xB70, 0xB70, 1⟩, ⟨0xBF3, 0xBF8, 1⟩, ⟨0xBFA, 0xBFA, 1⟩, ⟨0xC7F, 0xC7F, 1⟩,
   ⟨0xD4F, 0xD4F, 1⟩, ⟨0xD79, 0xD79, 1⟩, ⟨0xF01, 0xF03, 1⟩, ⟨0xF13, 0xF13, 1⟩, ⟨0xF15, 0xF17, 1⟩,
   ⟨0xF1A, 0xF1F, 1⟩, ⟨0xF34, 0xF38, 2⟩, ⟨0xFBE, 0xFC5, 1⟩, ⟨0xFC7, 0xFCC, 1⟩, ⟨0xFCE, 0xFCF, 1⟩,
   ⟨0xFD5, 0xFD8, 1⟩, ⟨0x109E, 0x109F, 1⟩, ⟨0x1390, 0x1399, 1⟩, ⟨0x166D, 0x166D, 1⟩,
   ⟨0x1940, 0x1940, 1⟩, ⟨0x19DE, 0x19FF, 1⟩, ⟨0x1B61, 0x1B6A, 1⟩, ⟨0x1B74, 0x1B7C, 1⟩,
   ⟨0x2100, 0x2101, 1⟩, ⟨0x2103, 0x2106, 1⟩, ⟨0x2108, 0x2109, 1⟩, ⟨0x2114, 0x2114, 1⟩,
   ⟨0x2116, 0x2117, 1⟩, ⟨0x211E, 0x2123, 1⟩, ⟨0x2125, 0x2129, 2⟩, ⟨0x212E, 0x212E, 1⟩,
   ⟨0x213A, 0x213B, 1⟩, ⟨0x214A, 0x214A, 1⟩, ⟨0x214C, 0x214D, 1⟩, ⟨0x214F, 0x214F, 1⟩,
   ⟨0x218A, 0x218B, 1⟩, ⟨0x2195, 0x2199, 1⟩, ⟨0x219C, 0x219F, 1⟩, ⟨0x21A1, 0x21A2, 1⟩,
   ⟨0x21A4, 0x21A5, 1⟩, ⟨0x21A7, 0x21AD, 1⟩, ⟨0x21AF, 0x21CD, 1⟩, ⟨0x21D0, 0x21D1, 1⟩,
   ⟨0x21D3, 0x21D3, 1⟩, ⟨0x21D5, 0x21F3, 1⟩, ⟨0x2300, 0x2307, 1⟩, ⟨0x230C, 0x231F, 1⟩,
   ⟨0x2322, 0x2328, 1⟩, ⟨0x232B, 0x237B, 1⟩, ⟨0x237D, 0x239A, 1⟩, ⟨0x23B4, 0x23DB, 1⟩,
   ⟨0x23E2, 0x2426, 1⟩, ⟨0x2440, 0x244A, 1⟩, ⟨0x249C, 0x24E9, 1⟩, ⟨0x2500, 0x25B6, 1⟩,
   ⟨0x25B8, 0x25C0, 1⟩, ⟨0x25C2, 0x25F7, 1⟩, ⟨0x2600, 0x266E, 1⟩, ⟨0x2670, 0x2767, 1⟩,
   ⟨0x2794, 0x27BF, 1⟩, ⟨0x2800, 0x28FF, 1⟩, ⟨0x2B00, 0x2B2F, 1⟩, ⟨0x2B45, 0x2B46, 1⟩,
   ⟨0x2B4D, 0x2B73, 1⟩, ⟨0x2B76, 0x2B95, 1⟩, ⟨0x2B97, 0x2BFF, 1⟩, ⟨0x2CE5, 0x2CEA, 1⟩,
   ⟨0x2E50, 0x2E51, 1⟩, ⟨0x2E80, 0x2E99, 1⟩, ⟨0x2E9B, 0x2EF3, 1⟩, ⟨0x2F00, 0x2FD5, 1⟩,
   ⟨0x2FF0, 0x2FFB, 1⟩, ⟨0x3004, 0x3004, 1⟩, ⟨0x3012, 0x3013, 1⟩, ⟨0x3020, 0x3020, 1⟩,
   ⟨0x3036, 0x3037, 1⟩, ⟨0x303E, 0x303F, 1⟩, ⟨0x3190, 0x3191, 1⟩, ⟨0x3196, 0x319F, 1⟩,
   ⟨0x31C0, 0x31E3, 1⟩, ⟨0x3200, 0x321E, 1⟩, ⟨0x322A, 0x3247, 1⟩, ⟨0x3250, 0x3250, 1⟩,
   ⟨0x3260, 0x327F, 1⟩, ⟨0x328A, 0x32B0, 1⟩, ⟨0x32C0, 0x33FF, 1⟩, ⟨0x4DC0, 0x4DFF, 1⟩,
   ⟨0xA490, 0xA4C6, 1⟩, ⟨0xA828, 0xA82B, 1⟩, ⟨0xA836, 0xA837, 1⟩, ⟨0xA839, 0xA839, 1⟩,
   ⟨0xAA77, 0xAA79, 1⟩, ⟨0xFD40, 0xFD4F, 1⟩, ⟨0xFDCF, 0xFDCF, 1⟩, ⟨0xFDFD, 0xFDFF, 1⟩,
   ⟨0xFFE4, 0xFFE4, 1⟩, ⟨0xFFE8, 0xFFE8, 1⟩, ⟨0xFFED, 0xFFEE, 1⟩, ⟨0xFFFC, 0xFFFD, 1⟩,
   ⟨0x10137, 0x1013F, 1⟩, ⟨0x10179, 0x10189, 1⟩, ⟨0x1018C, 0x1018E, 1⟩, ⟨0x10190, 0x1019C, 1⟩,
   ⟨0x101A0, 0x101A0, 1⟩, ⟨0x101D0, 0x101FC, 1⟩, ⟨0x10877, 0x10878, 1⟩, ⟨0x10AC8, 0x10AC8, 1⟩,
   ⟨0x1173F, 0x1173F, 1⟩, ⟨0x11FD5, 0x11FDC, 1⟩, ⟨0x11FE1, 0x11FF1, 1⟩, ⟨0x16B3C, 0x16B3F, 1⟩,
   ⟨0x16B45, 0x16B45, 1⟩, ⟨0x1BC9C, 0x1BC9C, 1⟩, ⟨0x1CF50, 0x1CFC3, 1⟩, ⟨0x1D000, 0x1D0F5, 1⟩,
   ⟨0x1D100, 0x1D126, 1⟩, ⟨0x1D129, 0x1D164, 1⟩, ⟨0x1D16A, 0x1D16C, 1⟩, ⟨0x1D183, 0x1D184, 1⟩,
   ⟨0x1D18C, 0x1D1A9, 1⟩, ⟨0x1D1AE, 0x1D1EA, 1⟩, ⟨0x1D200, 0x1D241, 1⟩, ⟨0x1D245, 0x1D245, 1⟩,
   ⟨0x1D300, 0x1D356, 1⟩, ⟨0x1D800, 0x1D9FF, 1⟩, ⟨0x1DA37, 0x1DA3A, 1⟩, ⟨0x1DA6D, 0x1DA74, 1⟩,
   ⟨0x1DA76, 0x1DA83, 1⟩, ⟨0x1DA85, 0x1DA86, 1⟩, ⟨0x1E14F, 0x1E14F, 1⟩, ⟨0x1ECAC, 0x1ECAC, 1⟩,
   ⟨0x1ED2E, 0x1ED2E, 1⟩, ⟨0x1F000, 0x1F02B, 1⟩, ⟨0x1F030, 0x1F093, 1⟩, ⟨0x1F0A0, 0x1F0AE, 1⟩,
   ⟨0x1F0B1, 0x1F0BF, 1⟩, ⟨0x1F0C1, 0x1F0CF, 1⟩, ⟨0x1F0D1, 0x1F0F5, 1⟩, ⟨0x1F10D, 0x1F1AD, 1⟩,
   ⟨0x1F1E6, 0x1F202, 1⟩, ⟨0x1F210, 0x1F23B, 1⟩, ⟨0x1F240, 0x1F248, 1⟩, ⟨0x1F250, 0x1F251, 1⟩,
   ⟨0x1F260, 0x1F265, 1⟩, ⟨0x1F300, 0x1F3FA, 1⟩, ⟨0x1F400, 0x1F6D7, 1⟩, ⟨0x1F6DC, 0x1F6EC, 1⟩,
   ⟨0x1F6F0, 0x1F6FC, 1⟩, ⟨0x1F700, 0x1F776, 1⟩, ⟨0x1F77B, 0x1F7D9, 1⟩, ⟨0x1F7E0, 0x1F7EB, 1⟩,
   ⟨0x1F7F0, 0x1F7F0, 1⟩, ⟨0x1F800, 0x1F80B, 1⟩, ⟨0x1F810, 0x1F847, 1⟩, ⟨0x1F850, 0x1F859, 1⟩,
   ⟨0x1F860, 0x1F887, 1⟩, ⟨0x1F890, 0x1F8AD, 1⟩, ⟨0x1F8B0, 0x1F8B1, 1⟩, ⟨0x1F900, 0x1FA53, 1⟩,
   ⟨0x1FA60, 0x1FA6D, 1⟩, ⟨0x1FA70, 0x1FA7C, 1⟩, ⟨0x1FA80, 0x1FA88, 1⟩, ⟨0x1FA90, 0x1FABD, 1⟩,
   ⟨0x1FABF, 0x1FAC5, 1⟩, ⟨0x1FACE, 0x1FADB, 1⟩, ⟨0x1FAE0, 0x1FAE8, 1⟩, ⟨0x1FAF0, 0x1FAF8, 1⟩,
   ⟨0x1FB00, 0x1FB92, 1⟩, ⟨0x1FB94, 0x1FBCA, 1⟩]

/-- The runs of spaceSeparator characters. -/
def spaceSeparatorRuns : List Run :=
  [⟨0x20, 0x20, 1⟩, ⟨0xA0, 0xA0, 1⟩, ⟨0x1680, 0x1680, 1⟩, ⟨0x2000, 0x200A, 1⟩, ⟨0x202F, 0x202F, 1⟩,
   ⟨0x205F, 0x205F, 1⟩, ⟨0x3000, 0x3000, 1⟩]

/-- The runs of lineSeparator characters. -/
def lineSeparatorRuns : List Run :=
  [⟨0x2028, 0x2028, 1⟩]

/-- The runs of paragraphSeparator characters. -/
def paragraphSeparatorRuns : List Run :=
  [⟨0x2029, 0x2029, 1⟩]

/-- The runs of control characters. -/
def controlRuns : List Run :=
  [⟨0x0, 0x1F, 1⟩, ⟨0x7F, 0x9F, 1⟩]

/-- The runs of format characters. -/
def formatRuns : List Run :=
  [⟨0xAD, 0xAD, 1⟩, ⟨0x600, 0x605, 1⟩, ⟨0x61C, 0x61C, 1⟩, ⟨0x6DD, 0x6DD, 1⟩, ⟨0x70F, 0x70F, 1⟩,
   ⟨0x890, 0x891, 1⟩, ⟨0x8E2, 0x8E2, 1⟩, ⟨0x180E, 0x180E, 1⟩, ⟨0x200B, 0x200F, 1⟩,
   ⟨0x202A, 0x202E, 1⟩, ⟨0x2060, 0x2064, 1⟩, ⟨0x2066, 0x206F, 1⟩, ⟨0xFEFF, 0xFEFF, 1⟩,
   ⟨0xFFF9, 0xFFFB, 1⟩, ⟨0x110BD, 0x110BD, 1⟩, ⟨0x110CD, 0x110CD, 1⟩, ⟨0x13430, 0x1343F, 1⟩,
   ⟨0x1BCA0, 0x1BCA3, 1⟩, ⟨0x1D173, 0x1D17A, 1⟩, ⟨0xE0001, 0xE0001, 1⟩, ⟨0xE0020, 0xE007F, 1⟩]

/-- The runs of privateUse characters. -/
def privateUseRuns : List Run :=
  [⟨0xE000, 0xF8FF, 1⟩, ⟨0xF0000, 0xFFFFD, 1⟩, ⟨0x100000, 0x10FFFD, 1⟩]

/-- The runs of a category. -/
def runs : Category → List Run
  | upperLetter => upperLetterRuns
  | lowerLetter => lowerLetterRuns
  | titleLetter => titleLetterRuns
  | modifierLetter => modifierLetterRuns
  | otherLetter => otherLetterRuns
  | nonspacingMark => nonspacingMarkRuns
  | spacingMark => spacingMarkRuns
  | enclosingMark => enclosingMarkRuns
  | decimalDigit => decimalDigitRuns
  | letterNumber => letterNumberRuns
  | otherNumber => otherNumberRuns
  | connector => connectorRuns
  | dash => dashRuns
  | opening => openingRuns
  | closing => closingRuns
  | initialQuote => initialQuoteRuns
  | finalQuote => finalQuoteRuns
  | otherPunctuation => otherPunctuationRuns
  | mathSymbol => mathSymbolRuns
  | currencySymbol => currencySymbolRuns
  | modifierSymbol => modifierSymbolRuns
  | otherSymbol => otherSymbolRuns
  | spaceSeparator => spaceSeparatorRuns
  | lineSeparator => lineSeparatorRuns
  | paragraphSeparator => paragraphSeparatorRuns
  | control => controlRuns
  | format => formatRuns
  | privateUse => privateUseRuns

/-- Whether a code point is of the category. -/
def contains (c : Category) (n : Nat) : Bool := inRuns c.runs n

end Category

end DocSelect
