/-! Commit times. A commit is stamped with the wall clock in milliseconds, or with the time of the last
commit where the wall clock has fallen behind it, so that the stamps of one process never run backwards. -/
namespace Inventory

structure Clock where
  lastCommit : Int := 0
deriving DecidableEq, Repr

/-- This is `commit_timestamp` once the wall clock has been read: the stamp for a commit at this reading, which
becomes the last one. -/
def Clock.stamp (clock : Clock) (reading : Int) : Int × Clock :=
  let time := max clock.lastCommit reading
  (time, ⟨time⟩)

end Inventory
