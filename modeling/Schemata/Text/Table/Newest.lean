import Schemata.Text.Run

/-!
# The newest characters

The letters, marks and digits that version 17 of Unicode added to version 16. Words are made of
characters of version 16, while every other class follows version 17.
-/

namespace Schemata.Text

/-- Letters, marks and digits of version 17 that version 16 does not have. -/
def newest : List Run := [
  ⟨0x88F, 0x88F, 1⟩, ⟨0xC5C, 0xC5C, 1⟩, ⟨0xCDC, 0xCDC, 1⟩, ⟨0x1ACF, 0x1ADD, 1⟩,
  ⟨0x1AE0, 0x1AEB, 1⟩, ⟨0xA7CE, 0xA7CF, 1⟩, ⟨0xA7D2, 0xA7D4, 2⟩, ⟨0xA7F1, 0xA7F1, 1⟩,
  ⟨0x10940, 0x10959, 1⟩, ⟨0x10EC5, 0x10EC7, 1⟩, ⟨0x10EFA, 0x10EFB, 1⟩, ⟨0x11B60, 0x11B67, 1⟩,
  ⟨0x11DB0, 0x11DDB, 1⟩, ⟨0x11DE0, 0x11DE9, 1⟩, ⟨0x16EA0, 0x16EB8, 1⟩, ⟨0x16EBB, 0x16ED3, 1⟩,
  ⟨0x16FF2, 0x16FF6, 1⟩, ⟨0x187F8, 0x187FF, 1⟩, ⟨0x18D09, 0x18D1E, 1⟩, ⟨0x18D80, 0x18DF2, 1⟩,
  ⟨0x1E6C0, 0x1E6DE, 1⟩, ⟨0x1E6E0, 0x1E6F5, 1⟩, ⟨0x1E6FE, 0x1E6FF, 1⟩, ⟨0x2B73A, 0x2B73F, 1⟩,
  ⟨0x2CEA2, 0x2CEAD, 1⟩, ⟨0x323B0, 0x33479, 1⟩]

end Schemata.Text
