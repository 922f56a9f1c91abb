import Inventory.Uuid

/-! Fresh identifiers for households, rooms and items. An identifier of version seven begins with the time in
milliseconds, so that later ones are greater; within one millisecond a counter goes on, and where the clock
has fallen behind, the time of the last identifier is kept. The rest are random bits. -/
namespace Inventory

structure IdSource where
  lastTime : Nat := 0
  counter : Nat := 0
deriving DecidableEq, Repr

namespace IdSource

def hexDigits (number : Nat) : Nat → List (Fin 16)
  | 0 => []
  | count + 1 => hexDigits (number / 16) count ++ [⟨number % 16, Nat.mod_lt _ (by decide)⟩]

theorem length_hexDigits (number count : Nat) : (hexDigits number count).length = count := by
  induction count generalizing number with
  | zero => rfl
  | succ count ih => simp [hexDigits, ih]

/-- Twelve digits of time, the version, three digits and the variant with three more for the counter, and
twelve random ones. -/
def layOut (time counter random : Nat) : List (Fin 16) :=
  hexDigits time 12 ++ ⟨7, by decide⟩ :: hexDigits (counter / 0x4000) 3 ++
    hexDigits (0x8000 + counter % 0x4000) 4 ++ hexDigits random 12

theorem length_layOut (time counter random : Nat) : (layOut time counter random).length = 32 := by
  simp [layOut, length_hexDigits]

def versionSeven (time counter random : Nat) : Uuid :=
  ⟨layOut time counter random, length_layOut time counter random⟩

def counterLimit : Nat :=
  0x4000000

/-- This is `new_id`. A counter that has run out moves the time on by one millisecond. -/
def next (source : IdSource) (now random : Nat) : Uuid × IdSource :=
  let source : IdSource :=
    if source.lastTime < now then ⟨now, 0⟩
    else if source.counter + 1 < counterLimit then ⟨source.lastTime, source.counter + 1⟩
    else ⟨source.lastTime + 1, 0⟩
  (versionSeven source.lastTime source.counter random, source)

def take : IdSource → List (Nat × Nat) → List Uuid
  | _, [] => []
  | source, (now, random) :: rest =>
      let (uuid, source) := source.next now random
      uuid :: source.take rest

end IdSource

end Inventory
