import NativeBinding.Proofs.Wire.Room

namespace NativeBinding.Wire

-- Memory that is written from front to back, parted where the next item goes.
structure Tape where
  packed : List UInt8
  behind : List UInt8

namespace Tape
variable {tape : Tape} {bytes : List UInt8}

def blank (size : Nat) : Tape := ⟨[],List.replicate size 0⟩

def pack (tape : Tape) (bytes : List UInt8) : Tape := ⟨tape.packed ++ bytes,tape.behind.drop bytes.length⟩

-- What is left behind is not kept from being packed over.
def leave (tape : Tape) (bytes : List UInt8) : Tape := ⟨tape.packed,bytes ++ tape.behind.drop bytes.length⟩

def length (tape : Tape) : Nat := tape.packed.length + tape.behind.length

theorem length_pack (fits : bytes.length ≤ tape.behind.length) : (tape.pack bytes).length = tape.length := by
  simp only [length,pack,List.length_append,List.length_drop]
  omega

theorem length_leave (fits : bytes.length ≤ tape.behind.length) : (tape.leave bytes).length = tape.length := by
  simp only [length,leave,List.length_append,List.length_drop]
  omega

def Clean (tape : Tape) : Prop := ∀ byte ∈ tape.behind, byte = 0

theorem clean_blank (size : Nat) : (blank size).Clean := fun _ member => (List.mem_replicate.mp member).2

theorem Clean.pack (clean : tape.Clean) (bytes : List UInt8) : (tape.pack bytes).Clean :=
  fun byte member => clean byte (List.mem_of_mem_drop member)

theorem Clean.leave (clean : tape.Clean) (cleared : Nat) : (tape.leave (List.replicate cleared 0)).Clean := by
  intro byte member
  rcases List.mem_append.mp member with zero | old
  · exact (List.mem_replicate.mp zero).2
  · exact clean byte (List.mem_of_mem_drop old)

theorem Clean.zeros (clean : tape.Clean) : tape.behind = List.replicate tape.behind.length 0 :=
  List.eq_replicate_iff.mpr ⟨rfl,clean⟩

end Tape

namespace Writer
variable {writer : Writer}

def tape (writer : Writer) : Tape :=
  ⟨writer.filled,writer.residue ++ List.replicate (writer.size - (writer.filled ++ writer.residue).length) 0⟩

theorem tape_ofSize (size : Nat) : (ofSize size).tape = Tape.blank size := rfl

theorem content_tape (writer : Writer) : writer.content = writer.tape.packed ++ writer.tape.behind :=
  List.append_assoc _ _ _

theorem Fits.length (fits : writer.Fits) : writer.tape.length = writer.size := by
  unfold Fits at fits
  simp only [Tape.length,tape,List.length_append,List.length_replicate]
  omega

theorem Fits.room (fits : writer.Fits) (width : Nat) :
    writer.offset + width ≤ writer.size ↔ width ≤ writer.tape.behind.length := by
  have length := fits.length
  simp only [Tape.length] at length
  simp only [offset]
  change writer.filled.length + _ = _ at length
  omega

theorem tape_append (writer : Writer) (bytes : List UInt8) : (writer.append bytes).tape = writer.tape.pack bytes := by
  simp only [tape,Writer.append,Tape.pack,List.drop_append,List.drop_replicate,List.length_append,List.length_drop,
    Tape.mk.injEq,List.append_cancel_left_eq,true_and]
  congr 1
  omega

theorem tape_leave (writer : Writer) (bytes : List UInt8) : (writer.leave bytes).tape = writer.tape.leave bytes := by
  simp only [tape,Writer.leave,Tape.leave,List.drop_append,List.drop_replicate,List.length_append,List.length_drop,
    List.append_assoc,Tape.mk.injEq,List.append_cancel_left_eq,true_and]
  congr 1
  omega

theorem leave_leave (writer : Writer) {first second : List UInt8} (same : first.length = second.length) :
    (writer.leave first).leave second = writer.leave second := by
  simp [Writer.leave,← same]

end Writer
end NativeBinding.Wire
