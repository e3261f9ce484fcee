import Octoscript.Lib.Bytes
import Octoscript.Lib.Mutation

namespace Wire
variable {ε : Type} {eof : ε} {stream rest : Bytes}

/-- `read_exact` into a buffer of `n` bytes. -/
def readExact (eof : ε) (n : ℕ) : Mut Bytes ε {b : Bytes // b.length = n} := fun stream =>
  if h : n ≤ stream.length then
    (.ok ⟨stream.take n, List.length_take_of_le h⟩, stream.drop n)
  else (.error eof, [])

/-- `read_exact` into a buffer of one byte. -/
def readByte (eof : ε) : Mut Bytes ε UInt8
  | [] => (.error eof, [])
  | b :: rest => (.ok b, rest)

/-- `write_all`. -/
def writeAll (b : Bytes) : Mut Bytes ε Unit := fun out => (.ok (), out ++ b)

theorem returns_readExact {n : ℕ} {b : {b : Bytes // b.length = n}} :
    (readExact eof n).Returns stream b rest ↔ stream = b.1 ++ rest := by
  unfold readExact Mut.Returns
  dsimp only
  split
  · next h =>
    rw [Prod.mk.injEq, Except.ok.injEq, Subtype.mk.injEq]
    constructor
    · rintro ⟨hb, rfl⟩
      rw [← hb, List.take_append_drop]
    · rintro rfl
      have hlen := b.2
      simp [← hlen]
  · next h =>
    simp only [Prod.mk.injEq, reduceCtorEq, false_and, false_iff]
    rintro rfl
    apply h
    rw [List.length_append, b.2]
    omega

theorem returns_readByte {b : UInt8} :
    (readByte eof).Returns stream b rest ↔ stream = b :: rest := by
  cases stream <;> simp [readByte, Mut.Returns]

theorem returns_writeAll {b out out' : Bytes} {u : Unit} :
    (writeAll b : Mut Bytes ε Unit).Returns out u out' ↔ out' = out ++ b := by
  simp [writeAll, Mut.Returns, eq_comm]

end Wire
