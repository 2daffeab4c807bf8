import FsidRegistry.Number.Decimal

/-!
Filesystem ids. An fsid is a signed 32-bit number; the ids that a store issues start at 1.
-/

namespace FsidRegistry

/-- A filesystem id: a number of 32 bits with sign. -/
structure Fsid where
  val : Int
  lower : -2147483648 ≤ val
  upper : val ≤ 2147483647
deriving DecidableEq

namespace Fsid

/-- The fsid `n`, if `n` is in range. -/
def ofInt? (n : Int) : Option Fsid :=
  if h : -2147483648 ≤ n ∧ n ≤ 2147483647 then some ⟨n, h.1, h.2⟩ else none

/-- The first fsid a store issues. -/
def first : Fsid := ⟨1, by decide, by decide⟩

/-- The fsid after `n`; the largest has none. -/
def next? (n : Fsid) : Option Fsid := ofInt? (n.val + 1)

/-- The decimal text of an fsid. -/
def text (n : Fsid) : String := toString n.val

/-- Reads an fsid from decimal text with an optional sign. -/
def read? (s : String) : Option Fsid :=
  (Number.readSigned? s.toList).bind ofInt?

/-- Reads an fsid that a store may have issued: one that is at least 1. -/
def readIssued? (s : String) : Option Fsid :=
  (read? s).filter (1 ≤ ·.val)

end Fsid

instance : Inhabited Fsid := ⟨Fsid.first⟩

end FsidRegistry
