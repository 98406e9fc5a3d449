import ObjectStore.Unicode.Category

/-!
# Printable characters

Which characters show when they are written. A character does not show if it
is a control or format character, a separator other than the space, for
private use or not assigned, or if it only fills a place. A mark that extends
the character before it does not stand on its own either.
-/

namespace ObjectStore

/-- The marks with a width of their own that extend the character before them
all the same. -/
def extendingMarks : Unicode.CodeSet := .ofLines [
    "9BE 9D7 B3E B57 BBE BD7 CC0 CC2 CC7-CC8 CCA-CCB CD5-CD6 D3E D57 DCF DDF 1715 1734 1B35",
    "1B3B 1B3D 1B43-1B44 1BAA 1BF2-1BF3 302E-302F A953 A9C0 111C0 11235 1133E 1134D 11357 113B8",
    "113C2 113C5 113C7-113C9 113CF 114B0 114BD 115AF 116B6 11930 1193D 11F41 16FF0-16FF1",
    "1D165-1D166 1D16D-1D172"]

/-- The letters that only fill a place. -/
def fillers : Unicode.CodeSet := .ofLines ["115F-1160 3164 FFA0"]

def showsBeyondAscii (n : Nat) : Bool :=
  !Unicode.unassigned.has n && !Unicode.invisible.has n && !Unicode.nonspacingMarks.has n &&
    !extendingMarks.has n && !fillers.has n

def isPrintable (c : Char) : Bool :=
  if c.toNat < 0x80 then 0x20 ≤ c.toNat && c.toNat < 0x7F else showsBeyondAscii c.toNat

end ObjectStore
