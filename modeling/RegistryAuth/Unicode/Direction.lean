import RegistryAuth.Unicode.Runs

/-!
# Directions of writing

Every character has a direction: it is written to the right or to the left, as a number,
or as its neighbours are.  Host names may mix directions only by fixed rules.
-/

namespace RegistryAuth
namespace Unicode

/-- A direction. -/
inductive Direction where
  | left
  | right
  | arabicLetter
  | arabicNumber
  | europeanNumber
  | europeanSeparator
  | commonSeparator
  | europeanTerminator
  | otherNeutral
  | boundaryNeutral
  | nonspacingMark
  | other
  deriving Repr, DecidableEq

/-- The directions, in the order of `Direction`, from one on. -/
def directionRuns : Runs := Runs.ofText "
  0.8.A 1.4.C 1.D.A 1.4.C 1.1.9 1.2.8 1.4.9 1.0.6 1.0.7 1.0.6 1.1.7 1.9.5 1.0.7 1.5.9 1.19.1 1.5.9
  1.19.1 1.3.9 1.5.A 1.0.C 1.19.A 1.0.7 1.0.9 1.3.8 1.3.9 1.0.1 1.1.9 1.0.A 1.1.9 1.1.8 1.1.5
  1.0.9 1.0.1 1.2.9 1.0.5 1.0.1 1.4.9 1.16.1 1.0.9 1.1E.1 1.0.9 1.1C0.1 1.1.9 1.6.1 1.D.9 1.1.1
  1.D.9 1.4.1 1.8.9 1.0.1 1.10.9 1.6F.B 1.3.1 1.1.9 1.1.1 3.3.1 1.0.9 1.0.1 5.1.9 1.0.1 1.0.9
  1.2.1 2.0.1 2.13.1 2.52.1 1.0.9 1.8B.1 1.6.B 1.A5.1 2.25.1 3.30.1 1.0.9 3.1.9 1.0.8 2.2C.B 1.0.2
  1.0.B 1.0.2 1.1.B 1.0.2 1.1.B 1.0.2 1.0.B 9.1A.2 5.5.2 C.5.4 1.1.9 1.0.3 1.1.8 1.0.3 1.0.7 1.0.3
  1.1.9 1.A.B 1.2F.3 1.14.B 1.9.4 1.0.8 1.1.4 1.2.3 1.0.B 1.64.3 1.6.B 1.0.4 1.0.9 1.5.B 1.1.3
  1.1.B 1.0.9 1.3.B 1.1.3 1.9.5 1.13.3 2.1.3 1.0.B 1.1D.3 1.1A.B 3.58.3 1.A.B 1.0.3 F.2A.2 1.8.B
  1.1.2 1.3.9 1.0.2 3.0.B 1.17.2 1.3.B 1.0.2 1.8.B 1.0.2 1.2.B 1.0.2 1.4.B 3.E.2 2.18.2 1.2.B
  3.0.2 2.A.3 6.1E.3 2.1.4 7.7.B 1.29.3 1.17.B 1.0.4 1.1F.B 1.36.1 1.0.B 1.0.1 1.0.B 1.3.1 1.7.B
  1.3.1 1.0.B 1.2.1 1.6.B 1.9.1 1.1.B 1.1C.1 1.0.B 1.1.1 2.7.1 3.1.1 3.15.1 2.6.1 2.0.1 4.3.1
  3.0.B 1.3.1 1.3.B 3.1.1 3.1.1 1.0.B 1.0.1 9.0.1 5.1.1 2.2.1 1.1.B 3.B.1 1.1.8 1.6.1 1.0.8 1.1.1
  1.0.B 3.1.B 1.0.1 2.5.1 5.1.1 3.15.1 2.6.1 2.1.1 2.1.1 2.1.1 3.0.B 2.2.1 1.1.B 5.1.B 3.2.B 4.0.B
  8.3.1 2.0.1 8.9.1 1.1.B 1.2.1 1.0.B 1.0.1 B.1.B 1.0.1 2.8.1 2.2.1 2.15.1 2.6.1 2.1.1 2.4.1 3.0.B
  1.3.1 1.4.B 2.1.B 1.0.1 2.1.1 1.0.B 3.0.1 10.1.1 1.1.B 3.A.1 1.0.8 8.0.1 1.5.B 2.0.B 1.1.1 2.7.1
  3.1.1 3.15.1 2.6.1 2.1.1 2.4.1 3.0.B 1.1.1 1.0.B 1.0.1 1.3.B 3.1.1 3.1.1 1.0.B 8.1.B 1.0.1 5.1.1
  2.2.1 1.1.B 3.11.1 B.0.B 1.0.1 2.5.1 4.2.1 2.3.1 4.1.1 2.0.1 2.1.1 4.1.1 4.2.1 4.B.1 5.1.1 1.0.B
  1.1.1 4.2.1 2.2.1 1.0.B 3.0.1 7.0.1 F.C.1 1.5.9 1.0.8 1.0.9 6.0.B 1.2.1 1.0.B 1.7.1 2.2.1 2.16.1
  2.F.1 3.0.B 1.0.1 1.2.B 1.3.1 2.2.B 2.3.B 8.1.B 2.2.1 3.0.1 3.1.1 1.1.B 3.9.1 8.0.1 1.6.9 1.1.1
  1.0.B 1.A.1 2.2.1 2.16.1 2.9.1 2.4.1 3.0.B 1.7.1 2.2.1 2.1.1 1.1.B 8.1.1 7.1.1 2.1.1 1.1.B 3.9.1
  2.1.1 E.1.B 1.A.1 2.2.1 2.28.1 1.1.B 1.3.1 1.3.B 2.2.1 2.2.1 1.0.B 1.1.1 5.D.1 1.1.B 3.19.1
  2.0.B 1.1.1 2.11.1 4.17.1 2.8.1 2.0.1 3.6.1 4.0.B 5.2.1 1.2.B 2.0.B 2.7.1 7.9.1 3.2.1 D.2F.1
  1.0.B 1.1.1 1.6.B 5.0.8 1.6.1 1.7.B 1.C.1 26.1.1 2.0.1 2.4.1 2.17.1 2.0.1 2.9.1 1.0.B 1.1.1
  1.8.B 1.0.1 3.4.1 2.0.1 2.5.B 3.9.1 3.3.1 21.17.1 1.1.B 1.1A.1 1.0.B 1.0.1 1.0.B 1.0.1 1.0.B
  1.3.9 1.9.1 2.23.1 5.D.B 1.0.1 1.4.B 1.0.1 1.1.B 1.4.1 1.A.B 2.23.B 2.7.1 1.0.B 1.5.1 2.C.1
  26.2C.1 1.3.B 1.0.1 1.5.B 1.0.1 1.1.B 1.1.1 1.1.B 1.18.1 1.1.B 1.3.1 1.2.B 1.F.1 1.3.B 1.C.1
  1.0.B 1.1.1 1.1.B 1.5.1 1.0.B 1.E.1 1.0.B 1.27.1 2.0.1 6.0.1 3.178.1 2.3.1 3.6.1 2.0.1 2.3.1
  3.28.1 2.3.1 3.20.1 2.3.1 3.6.1 2.0.1 2.3.1 3.E.1 2.38.1 2.3.1 3.42.1 3.2.B 1.1C.1 4.F.1 1.9.9
  7.55.1 3.5.1 3.0.9 1.27E.1 1.0.C 1.19.1 1.1.9 4.58.1 8.11.1 1.2.B 1.0.1 A.12.1 1.1.B 1.2.1
  A.11.1 1.1.B D.C.1 2.2.1 2.1.B D.33.1 1.1.B 1.0.1 1.6.B 1.7.1 1.0.B 1.1.1 1.A.B 1.6.1 1.0.8
  1.0.1 1.0.B 3.9.1 7.9.9 7.A.9 1.2.B 1.0.A 1.0.B 1.9.1 7.58.1 8.4.1 1.1.B 1.21.1 1.0.B 1.0.1
  6.45.1 B.1E.1 2.2.B 1.3.1 1.1.B 1.2.1 5.1.1 1.0.B 1.5.1 1.2.B 5.0.9 4.1.9 1.27.1 3.4.1 C.2B.1
  5.19.1 7.A.1 4.21.9 1.16.1 1.1.B 1.1.1 1.0.B 3.37.1 1.0.B 1.0.1 1.6.B 2.0.B 1.0.1 1.0.B 1.1.1
  1.7.B 1.5.1 1.9.B 3.0.B 1.9.1 7.9.1 7.D.1 3.1E.B 32.3.B 1.2F.1 1.0.B 1.0.1 1.4.B 1.0.1 1.0.B
  1.4.1 1.0.B 1.9.1 4.1A.1 1.8.B 1.A.1 2.1.B 1.1F.1 1.3.B 1.1.1 1.1.B 1.0.1 1.2.B 1.37.1 1.0.B
  1.0.1 1.1.B 1.2.1 1.0.B 1.0.1 1.2.B 1.1.1 9.2F.1 1.7.B 1.1.1 1.1.B 4.E.1 4.3B.1 8.2A.1 3.A.1
  9.2.B 1.0.1 1.C.B 1.0.1 1.6.B 1.3.1 1.0.B 1.5.1 1.0.B 1.2.1 1.1.B 1.0.1 6.BF.1 1.3F.B 1.115.1
  3.5.1 3.25.1 3.5.1 3.7.1 2.0.1 2.0.1 2.0.1 2.1E.1 3.34.1 2.6.1 1.0.9 1.0.1 1.2.9 1.2.1 2.6.1
  1.2.9 1.3.1 3.5.1 2.2.9 1.C.1 1.2.9 3.2.1 2.6.1 1.1.9 2.A.C 1.2.A 1.0.1 1.0.2 1.17.9 1.6.C 1.0.7
  1.4.8 1.E.9 1.0.7 1.19.9 1.0.C 1.4.A 2.3.C 1.5.A 1.0.5 1.0.1 3.5.5 1.1.6 1.2.9 1.0.1 1.9.5 1.1.6
  1.2.9 2.C.1 4.20.8 10.20.B 10.1.9 1.0.1 1.3.9 1.0.1 1.1.9 1.9.1 1.0.9 1.0.1 1.2.9 1.4.1 1.5.9
  1.0.1 1.0.9 1.0.1 1.0.9 1.0.1 1.0.9 1.3.1 1.0.8 1.A.1 1.1.9 1.3.1 1.4.9 1.4.1 1.3.9 1.1.1 1.F.9
  1.28.1 1.2.9 5.81.9 1.0.6 1.0.8 1.121.9 1.44.1 1.19.9 1.0.1 1.90.9 1A.A.9 16.27.9 1.13.5 1.4D.1
  1.1C1.9 1.0.1 1.152.9 1.FF.1 1.273.9 3.1F.9 2.68.9 1.E4.1 1.5.9 1.3.1 1.2.B 1.1.1 6.6.9 1.25.1
  2.0.1 6.0.1 3.37.1 8.1.1 F.0.B 1.16.1 A.6.1 2.6.1 2.6.1 2.6.1 2.6.1 2.6.1 2.6.1 2.6.1 2.1F.B
  1.5D.9 23.19.9 2.58.9 D.D5.9 1B.B.9 5.0.C 1.3.9 1.2.1 1.18.9 1.8.1 1.3.B 1.1.1 1.0.9 1.4.1 1.1.9
  1.4.1 1.2.9 2.55.1 3.1.B 1.1.9 1.2.1 1.0.9 1.59.1 1.0.9 1.3.1 6.2A.1 2.5D.1 2.2F.1 1.23.9 D.2C.1
  1.1.9 2.2F.1 1.F.9 1.1B.1 1.2.9 1.31.1 1.E.9 1.B.1 1.3.9 1.A6.1 1.3.9 1.62.1 1.1.9 1.1E.1 1.0.9
  1.19BF.1 1.3F.9 1.568C.1 4.36.9 A.13C.1 1.2.9 1.1B.1 15.2E.1 1.3.B 1.0.9 1.9.B 1.1.9 1.1D.1
  1.1.B 1.4F.1 1.1.B 1.5.1 9.21.9 1.65.1 1.0.9 1.41.1 6.1.1 2.0.1 2.4.1 19.F.1 1.0.B 1.2.1 1.0.B
  1.3.1 1.0.B 1.18.1 1.1.B 1.0.1 1.3.9 1.0.B 4.7.1 1.1.8 7.33.1 1.3.9 9.43.1 1.1.B 9.B.1 7.11.B
  1.C.1 1.0.B 1.25.1 1.7.B 1.18.1 1.A.B 1.1.1 C.1D.1 4.2.B 1.2F.1 1.0.B 1.1.1 1.3.B 1.1.1 1.1.B
  1.F.1 2.A.1 5.6.1 1.0.B 1.18.1 2.28.1 1.5.B 1.1.1 1.1.B 1.1.1 1.1.B A.2.1 1.0.B 1.7.1 1.0.B
  1.0.1 3.9.1 3.1F.1 1.0.B 1.32.1 1.0.B 1.0.1 1.2.B 1.1.1 1.1.B 1.4.1 1.1.B 1.0.1 1.0.B 1.0.1
  19.10.1 1.1.B 1.7.1 1.0.B B.5.1 3.5.1 3.5.1 A.6.1 2.6.1 2.39.1 1.1.9 5.74.1 1.0.B 1.1.1 1.0.B
  1.3.1 1.0.B 3.9.1 7.2BA3.1 D.16.1 5.30.1 805.1A6D.1 3.69.1 27.6.1 D.4.1 6.0.2 1.0.B 1.9.2 1.0.6
  1.C.2 2.4.2 2.0.2 2.1.2 2.1.2 2.9.2 1.72.3 11.16A.3 1.11.9 1.3F.3 3.35.3 8.0.9 21.C.3 1.2.9
  1.F.B 1.9.9 7.F.B 1.1F.9 1.0.7 1.0.9 1.0.7 2.0.9 1.0.7 1.8.9 1.0.8 1.1.9 1.1.6 1.2.9 2.0.9 1.1.8
  1.0.9 5.4.3 2.86.3 3.0.A 2.1.9 1.2.8 1.4.9 1.0.6 1.0.7 1.0.6 1.1.7 1.9.5 1.0.7 1.5.9 1.19.1
  1.5.9 1.19.1 1.A.9 1.58.1 4.5.1 3.5.1 3.5.1 3.2.1 4.1.8 1.2.9 1.1.8 2.6.9 B.4.9 3.B.1 2.19.1
  2.12.1 2.1.1 2.E.1 3.D.1 23.7A.1 6.0.1 1.0.9 1.0.1 5.2C.1 4.8.1 1.4C.9 1.1.1 2.C.9 4.0.9 30.2C.1
  1.0.B 83.1C.1 4.30.1 10.0.B 1.1A.5 5.23.1 A.1D.1 6.25.1 1.4.B 6.1D.1 2.24.1 5.D.1 2B.9D.1 3.9.1
  7.23.1 5.23.1 5.27.1 9.33.1 C.B.1 2.E.1 2.6.1 2.1.1 2.A.1 2.E.1 2.6.1 2.1.1 44.136.1 A.15.1
  B.7.1 19.5.1 2.29.1 2.8.1 46.5.2 3.0.2 2.2B.2 2.1.2 4.0.2 3.16.2 2.47.2 9.8.2 31.12.2 2.1.2
  6.20.2 4.0.9 1.19.2 6.0.2 41.37.2 5.13.2 3.2E.2 1.2.B 2.1.B 6.3.B 1.3.2 2.2.2 2.1C.2 3.2.B 5.0.B
  1.8.2 8.8.2 8.3F.2 21.24.2 1.1.B 5.B.2 A.35.2 4.6.9 1.15.2 3.1A.2 6.19.2 8.3.2 D.6.2 51.48.2
  38.32.2 E.32.2 8.5.2 1.23.3 1.3.B 9.9.4 127.1E.4 2.29.2 2.1.B 1.0.2 3.1.2 4F.27.2 9.15.3 1.A.B
  1.8.3 17.11.2 1.3.B 1.3.2 27.1B.2 15.16.2 A.0.1 1.0.B 1.35.1 1.E.B 1.6.1 5.13.9 1.9.1 1.0.B
  1.1.1 1.1.B 1.0.1 A.2.B 1.30.1 1.3.B 1.1.1 1.1.B 1.6.1 1.0.B B.0.1 3.18.1 8.9.1 7.2.B 1.23.1
  1.4.B 1.0.1 1.7.B 2.11.1 9.22.1 1.0.B 1.2.1 A.1.B 1.33.1 1.8.B 1.9.1 1.3.B 1.1.1 1.0.B 1.F.1
  2.13.1 C.11.1 2.1B.1 1.2.B 1.1.1 1.0.B 1.0.1 1.1.B 1.5.1 1.0.B 42.6.1 2.0.1 2.3.1 2.E.1 2.A.1
  7.2E.1 1.0.B 1.2.1 1.7.B 6.9.1 7.1.B 1.1.1 2.7.1 3.1.1 3.15.1 2.6.1 2.1.1 2.4.1 2.1.B 1.2.1
  1.0.B 1.3.1 3.1.1 3.2.1 3.0.1 7.0.1 6.6.1 3.6.B 4.4.B 8C.37.1 1.7.B 1.1.1 1.2.B 1.0.1 1.0.B
  1.14.1 2.0.1 1.0.B 1.2.1 1F.32.1 1.5.B 1.0.1 1.0.B 1.3.1 1.1.B 1.0.1 1.1.B 1.3.1 9.9.1 A7.31.1
  1.3.B 3.3.1 1.1.B 1.0.1 1.1.B 1.1A.1 1.1.B 23.32.1 1.7.B 1.1.1 1.0.B 1.0.1 1.1.B 1.3.1 C.9.1
  7.C.9 14.2A.1 1.0.B 1.0.1 1.0.B 1.1.1 1.5.B 1.0.1 1.0.B 1.1.1 7.9.1 37.1A.1 3.2.B 1.1.1 1.3.B
  1.0.1 1.4.B 5.16.1 BA.2E.1 1.8.B 1.0.1 1.1.B 1.0.1 65.52.1 D.7.1 3.0.1 3.7.1 2.1.1 2.1D.1 2.1.1
  3.1.B 1.0.1 1.0.B 1.3.1 1.0.B 1.2.1 A.9.1 47.7.1 3.29.1 1.3.B 3.1.B 1.3.1 1.0.B 1.3.1 1C.0.1
  1.5.B 1.1.1 1.1.B 1.27.1 1.5.B 1.1.1 1.3.B 1.7.1 1.0.B 9.0.1 1.5.B 1.1.1 1.2.B 1.2D.1 1.C.B
  1.0.1 1.1.B 1.8.1 E.48.1 108.8.1 2.25.1 1.6.B 2.5.B 1.7.1 B.1C.1 4.1F.1 3.15.B 2.0.1 1.6.B 1.0.1
  1.1.B 1.0.1 1.1.B 4A.6.1 2.1.1 2.25.1 1.5.B 4.0.B 2.1.B 2.6.B 1.0.1 1.0.B 9.9.1 7.5.1 2.1.1
  2.24.1 2.1.B 2.1.1 1.0.B 1.0.1 1.0.B 1.0.1 8.9.1 137.12.1 1.1.B 1.3.1 B8.0.1 10.14.1 1.7.9 1.3.8
  1.10.9 E.39A.1 67.6E.1 2.4.1 C.C3.1 A4D.62.1 E.42E.1 2.8.1 FC8.246.1 21BA.238.1 8.1E.1 2.9.1
  5.50.1 2.9.1 7.1D.1 3.4.B 1.0.1 B.2F.1 1.6.B 1.E.1 B.9.1 2.6.1 2.14.1 6.12.1 2B1.5A.1 66.4A.1
  5.0.B 1.37.1 8.3.B 1.C.1 41.1.1 1.0.9 1.0.1 1.0.B C.1.1 F.17F7.1 9.4D5.1 2B.8.1 22E8.3.1 2.6.1
  2.1.1 2.122.1 2E.2.1 12.3.1 9.18B.1 905.6A.1 6.C.1 4.8.1 8.9.1 3.0.1 1.1.B 1.0.1 1.3.A 125D.2D.B
  3.16.B A.73.1 3D.F5.1 B.26.1 3.3D.1 1.2.B 1.8.1 1.7.A 1.7.B 1.1.1 1.6.B 1.1D.1 1.3.B 1.3A.1
  1.1.9 16.41.9 1.2.B 1.0.9 9B.13.1 D.56.9 A.18.1 88.54.1 2.46.1 2.1.1 3.0.1 3.1.1 3.3.1 2.B.1
  2.0.1 2.6.1 2.40.1 2.3.1 3.7.1 2.6.1 2.1B.1 2.3.1 2.4.1 2.0.1 4.6.1 2.153.1 3.32.1 1.0.9 1.38.1
  1.0.9 1.38.1 1.0.9 1.38.1 1.0.9 1.38.1 1.0.9 1.7.1 3.31.5 1.1FF.1 1.36.B 1.3.1 1.31.B 1.7.1
  1.0.B 1.D.1 1.0.B 1.6.1 10.4.B 2.E.B 451.1E.1 E2.6.B 2.10.B 3.6.B 2.1.B 2.4.B D6.2C.1 4.6.B
  1.6.1 3.9.1 5.1.1 141.1D.1 1.0.B 12.2B.1 1.3.B 1.9.1 6.0.8 4E1.6.1 2.3.1 2.1.1 2.E.1 2.C4.2
  3.8.2 1.6.B 2A.43.2 1.6.B 1.0.2 5.9.2 5.1.2 312.43.3 4D.3C.3 C3.3.3 2.1A.3 2.1.3 2.0.3 3.0.3
  2.9.3 2.3.3 2.0.3 2.0.3 7.0.3 5.0.3 2.0.3 2.0.3 2.2.3 2.1.3 2.0.3 3.0.3 2.0.3 2.0.3 2.0.3 2.0.3
  2.1.3 2.0.3 3.3.3 2.6.3 2.3.3 2.3.3 2.0.3 2.9.3 2.10.3 6.2.3 2.4.3 2.10.3 35.1.9 10F.2B.9 5.63.9
  D.E.9 3.E.9 2.E.9 2.24.9 B.A.5 1.4.9 1.1E.1 1.0.9 1.39.1 1.5.9 1.3C.1 1.0.9 39.1C.1 E.2B.1 5.8.1
  8.1.1 F.5.9 9B.3D7.9 6.F.9 4.C.9 4.73.9 D.58.9 8.B.9 5.0.9 10.B.9 5.37.9 9.9.9 7.27.9 9.1D.9
  3.1.9 4F.153.9 D.D.9 3.4.9 4.4.9 4.6.9 A.1C.9 4.A.9 6.5.9 B.9.9 7.7.9 9.6.9 A.92.9 2.36.9 26.9.5
  407.A6DF.1 21.1038.1 8.DD.1 3.1681.1 F.1D30.1 C20.21D.1 5E3.134A.1 AECB7.0.A 1F.5F.A 81.EF.B
  FE11.FFFD.1 3.FFFD.1"

/-- The direction of a character, if it has one. -/
def direction? (c : Char) : Option Direction :=
  (directionRuns.find? c.toNat).map fun run =>
    match run.value with
    | 1 => .left
    | 2 => .right
    | 3 => .arabicLetter
    | 4 => .arabicNumber
    | 5 => .europeanNumber
    | 6 => .europeanSeparator
    | 7 => .commonSeparator
    | 8 => .europeanTerminator
    | 9 => .otherNeutral
    | 10 => .boundaryNeutral
    | 11 => .nonspacingMark
    | _ => .other

/-- The ideographs of a script whose characters have no names of their own. -/
def namelessRuns : Runs := Runs.ofText "
  17000.17F7 509.8"

/-- Whether a character that a host name may hold has a name: it must be one that has a
direction. -/
def isNamed (c : Char) : Bool := (direction? c).isSome && !namelessRuns.holds c

end Unicode
end RegistryAuth
