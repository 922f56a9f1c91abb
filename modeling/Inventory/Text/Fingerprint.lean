/-! A fingerprint of 64 bits of a run of bytes. It starts at a fixed offset; each byte is taken in by exclusive
or, and a multiplication by a prime, modulo two to the 64th, spreads it. Runs that are put one behind the
other leave no trace of where one ends, and different runs may have one fingerprint. -/
namespace Inventory.Text.Fingerprint

def offset : UInt64 :=
  0xCBF29CE484222325

def spread : UInt64 :=
  0x100000001B3

def mix (hash : UInt64) (byte : UInt8) : UInt64 :=
  (hash ^^^ byte.toUInt64) * spread

def ofBytes (bytes : List UInt8) : UInt64 :=
  bytes.foldl mix offset

def ofTexts (texts : List String) : UInt64 :=
  ofBytes (texts.flatMap fun text => text.toUTF8.toList)

end Inventory.Text.Fingerprint
