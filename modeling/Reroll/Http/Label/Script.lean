import Reroll.Text.Ranges

/-!
# Scripts

The scripts whose letters allow a label some signs beside them. Only characters that a label may
hold are of interest here.
-/

namespace Reroll.Label

/-- Greek letters. -/
def greekRanges : Text.Ranges :=
  #[(0x371, 0x3E1), (0x3F3, 0x3FC), (0x1D26, 0x1D2A), (0x1F00, 0x1FF6), (0xAB65, 0xAB65)]

/-- Hebrew letters, points and signs. -/
def hebrewRanges : Text.Ranges :=
  #[(0x591, 0x5F4), (0xFB1E, 0xFB1E)]

/-- Japanese syllables of both kinds and Chinese characters. -/
def japaneseRanges : Text.Ranges :=
  #[(0x3005, 0x3005), (0x3007, 0x3007), (0x3041, 0x3096), (0x309D, 0x30FA), (0x30FD, 0x30FD),
    (0x31F0, 0x9FFF), (0xFA0E, 0xFA29), (0x16FE3, 0x16FE3), (0x16FF0, 0x16FF1), (0x1AFF0, 0x1B167),
    (0x20000, 0x2EBE0), (0x30000, 0x3134A)]

end Reroll.Label
