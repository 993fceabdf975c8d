import RegistryAuth.Unicode.Runs

/-!
# Cells of a terminal

A terminal shows text in a grid.  Most characters fill one cell of it; those of East
Asian scripts and most emoji fill two; marks that join the character before them, and
controls, fill none.  A few symbols that fill one cell fill two when the variation
selector behind them asks for their emoji.
-/

namespace RegistryAuth
namespace Unicode

/-- The characters that do not fill one cell, with the number of cells that they fill. -/
def cellRuns : Runs := Runs.ofText "
  0 300.6F 114.6 108.2C 2 2.1 2.1 2 49.A 2 2F.14 11 66.6 3.5 3.1 2.3 24 1F.1A 5C.A 3B.8 A 19.3 2.8
  2.2 2.4 2C.2 3C.8 2B.17 2.20 37.2 2.11 2.6 B.1 1E.2 39 2.6 3.1 3.2 A B.1 1B 3.2 39 2.4 5.1 3.2 4
  1F.1 4 C.2 39 2.7 2.2 2.2 15.1 17.5 2.2 39 2.6 3.1 3.2 8.2 B.1 1F 3C.4 4.2 2.3 A 29.4 38 2.6 2.2
  2.3 8.1 C.1 1E.2 39 2.6 2.2 2.3 8.1 C.1 10 D.3 38.1 2.6 2.2 2.3 A B.1 1E.2 47 5.5 2 2.7 13.1 3E
  3.6 D.7 63 3.8 C.6 4A.1 1C 2 2 5.1 32.13 2.1 6.A 2.23 A 65.13 18.3 5.2 2.2 3.6 4.3 E.B 2 B.3
  63.5F.2 1.9F 15E.2 3B3.3 1D.2 1E.1 1F.1 41.1F A 2E.4 76.1 23 77.B 5.B DC.4 3A.9 2.1C 3 31.2D 3.B
  15.4 30.10 27.8 D.2 1F.C 39.D 31.13 99.2 2.14 5 7 3.2 C7.3F 20C.4 19.6 32.F 61.20 22A.1.2 E.1.2
  BF.3.2 4.0.2 3.0.2 20A.1.2 16.1.2 1B.7.2 11.B.2 2C.0.2 B.5.2 4.0.2 E.0.2 9.1.2 12.1.2 6.1.2
  9.0.2 6.0.2 16.0.2 8.1.2 2.0.2 5.0.2 3.0.2 8.0.2 5.1.2 1D.0.2 24.0.2 2.0.2 5.2.2 2.0.2 3E.2.2
  19.0.2 F.0.2 35C.1.2 34.0.2 5.0.2 19A.2 8E 61.1F 81.19.2 2.58.2 D.D5.2 1B.39.2 1.5 1.E.2 3.55.2
  3.1 1.64.2 6.2A.2 2.32.2 1 1.29.2 2.55.2 A.2F.2 2.27.2 9.723C.2 4.36.2 1A9.3 2.9 21.1 51.1 111 4
  5 18.4 5 54.1 33.11 1B.11 E 27.7 1A.C D.1C.2 4.3 30.D 25 44.D D 9.1 2E.2 33 2.2 3.1 6.1 2 2A.4
  6.1 ED.7 2.1 13.2BA3.2 D.4F 2101.1FF.2 1F 2E2.F 1.9.2 7.F 1.22.2 2.12.2 2.3.2 94 2.5F.2 40
  40.6.2 A.B 202 E3 96.4 687.2 2.1 6.3 29.2 5 A6.1 23E.3 42.4 13E.1 4E.5 47.A 32.3 7B.2 36.E 2A
  3.1 B.3 2E.A 8 3E.2 25.D 11.1 2D D.2 31.D 9.3 2.1 5D.B 7 3 9E.B 16.3 38.1 2.6 3.1 3.2 A B.1 3.6
  4.4 44.8 2 3 2.3 2.4 2 F.1 53.11 18 52.13 EC.6 3.8 1C.1 53.10 6B.C 66.E 101.E F6.5 2.1 3.3 2 2.1
  8E.6 3.6 4 1D.9 29.6 2.3 9 A.A 2F.F C7.7 C8.7 2.7 53.15 2.D 7B.5 4 2.1 2.6 2 43.4 2.1 2.4 15C.3
  A.1 2 31.6 4.4 18 14D6.10 7.E 2CC9.11 9C1.4 3C.6 419 2.36 8.3 4E.3.2 1 C.1 1.4.2 A.1CD5.2
  2A.1F.2 62.72.2 21FE.3.2 2.6.2 2.1.2 2.122.2 10.0.2 1E.2.2 3.0.2 F.3.2 9.18B.2 9A2.1 2.3 125D.2D
  3.16 21F.4 4.15 3.6 1F.3 95.2 BC.56.2 A.16.2 68A.36 5.31 9 F 17.4 2.E 551.6 2.10 3.6 2.1 2.4 65
  A1.6 178 3E.3 1FD.3 FF.1 F4 3 8.1 6 1DB.6 6E.6 6BA.0.2 CB.0.2 BF.0.2 3.9.2 66.2.2 E.2B.2 5.8.2
  8.1.2 F.5.2 9B.20.2 D.8.2 2.45.2 2.15.2 D.2A.2 5.4.2 D.10.2 4.0.2 4.2.2 1.4 1.3E.2 2.0.2 2.BA.2
  3.3E.2 E.3.2 2.17.2 13.0.2 1B.1.2 E.0.2 57.54.2 31.45.2 7.0.2 4.2.2 3.3.2 4.3.2 C.1.2 8.8.2
  E4.B.2 5.0.2 11C.2E.2 2.9.2 2.B8.2 71.C.2 4.A.2 4.38.2 2.0.2 5.F.2 3.B.2 5.9.2 508.FFFD.2
  3.FFFD.2 A0003.FFF"

/-- The symbols that fill two cells as emoji and one otherwise. -/
def widenedRuns : Runs := Runs.ofText "
  23 7 6.9 70 5 1F8E D D9 17 5B.5 10.1 17E A7 1E.2 2.1 6.2 C8 E8.1 B A 3B.1 4.4 A 3 7 5 3 2.1 3 4
  4.1 9.2 6 2 1D.1 3 2.1 2 13 3 14 2.3 2 2.1 4 7 9.1 17 7 2 2 16 7.1 3 3.2 9 6.1 3.1 2 3 2 2 7 4
  12.1 10 3 1C.1 3D 193.1 1D0.2 1C669.1 D.1 1A2 3.8 A 47 19.1 2.2 3.1 2C.3 6.B 14 2 2 48 2 BC 4C.1
  25.1 3.6 E 3.3 3 15 3 9.1 A 6.2 D.2 9.2 3 2 5 7 4 7 D1 2.2 11.5 4 7 3"

/-- Whether `c` is a control. -/
def isCellControl (c : Char) : Bool :=
  let n := c.toNat
  n < 32 || (127 ≤ n && n < 160)

/-- The number of cells that `c` fills. -/
def cellWidth (c : Char) : Nat :=
  if isCellControl c then 0
  else if c.toNat < 127 then 1
  else (cellRuns.valueAt 1 c).toNat

/-- Whether the emoji selector makes `c` wider. -/
def isWidened (c : Char) : Bool := widenedRuns.holds c

end Unicode
end RegistryAuth
