import NativeBinding.Proofs.Session.Packing
import NativeBinding.Proofs.Wire.Nearest
import NativeBinding.Proofs.Wire.Take

namespace NativeBinding
open Wire

inductive Value.Doubles : Value → Double → Prop
  | own : Doubles (.float double) double
  | nearest : value.toInt? = some number → double.Approximates number → Doubles value double

theorem doubles_asDouble {value : Value} {double : Double} (made : Write.asDouble value = .ok double) : value.Doubles double := by
  unfold Write.asDouble at made
  split at made
  · cases made
    exact .own
  · split at made
    · cases made
    · rename_i number known
      split at made
      · cases made
      · rename_i own approximated
        cases made
        exact .nearest known (Double.approximates_ofInt approximated)

namespace WriteMethod

def mirror : WriteMethod → ReadOp
  | .truth => .truth
  | .presence => .presence
  | .u32 => .u32
  | .u64 => .u64
  | .i32 => .i32
  | .single => .single
  | .double => .double
  | .bytes => .bytes
  | .text => .text
  | .raw => .remaining

inductive Returns : WriteMethod → Value → Value → Prop
  | truth : Returns .truth value (.bool value.truthy)
  | presence : Returns .presence value (.bool value.truthy)
  | u32 : value.toInt? = some number → Returns .u32 value (.int number)
  | u64 : value.toInt? = some number → Returns .u64 value (.int number)
  | i32 : value.toInt? = some number → Returns .i32 value (.int number)
  | single : value.Doubles wide → wide.Rounds narrow → Returns .single value (.float narrow)
  | double : value.Doubles wide → Returns .double value (.float wide)
  | bytes : Payload.ofValue value = .ok content → Returns .bytes value (.bytes content.bytes)
  | text : Returns .text (.text word) (.text word)
  | raw : Payload.ofValue value = .ok content → Returns .raw value (.bytes content.bytes)

variable {method : WriteMethod} {value : Value} {bytes : List UInt8}

theorem takes_natural {width : Nat} (item : natural? width value = some bytes) : ∃ number : Nat,
    value.toInt? = some (number : Int) ∧ Read.Takes (Read.word width) bytes number := by
  obtain ⟨number,known,packed⟩ := Option.bind_eq_some_iff.mp item
  split_ifs at packed with fits
  cases packed
  refine ⟨number.toNat,?_,Read.takes_word width fits.2⟩
  rw [known,Int.toNat_of_nonneg fits.1]

theorem content_parts {content : Payload} (some : method.content? value = some content) : content.length < capacity 4 ∧
    ((method = .bytes ∧ Payload.ofValue value = .ok content) ∨
      ∃ text, method = .text ∧ value = .text text ∧ content = .given (Text.Utf8.encode text)) := by
  cases method with
  | bytes =>
    obtain ⟨known,small⟩ := Option.filter_eq_some_iff.mp some
    exact ⟨of_decide_eq_true small,.inl ⟨rfl,toOption_some known⟩⟩
  | text =>
    obtain ⟨known,small⟩ := Option.filter_eq_some_iff.mp some
    obtain ⟨text,made,rfl⟩ := Option.map_eq_some_iff.mp known
    refine ⟨of_decide_eq_true small,.inr ⟨text,rfl,?_,rfl⟩⟩
    cases value with
    | text own => cases made; rfl
    | _ => cases made
  | _ => cases some

theorem takes_item (item : method.item value = some bytes) (bounded : method ≠ .raw) :
    ∃ read, method.Returns value read ∧ Read.Takes method.mirror.run bytes read := by
  cases method with
  | truth =>
    cases item
    exact ⟨_,.truth,(Read.takes_truth value.truthy).map Value.bool⟩
  | presence =>
    cases item
    exact ⟨_,.presence,(Read.takes_presence value.truthy).map Value.bool⟩
  | u32 =>
    obtain ⟨number,known,takes⟩ := takes_natural item
    exact ⟨_,.u32 known,takes.map fun number => Value.int number⟩
  | u64 =>
    obtain ⟨number,known,takes⟩ := takes_natural item
    exact ⟨_,.u64 known,takes.map fun number => Value.int number⟩
  | i32 =>
    obtain ⟨number,known,packed⟩ := Option.bind_eq_some_iff.mp item
    split_ifs at packed with fits
    cases packed
    exact ⟨_,.i32 known,(Read.takes_signed fits.1 fits.2).map Value.int⟩
  | single =>
    obtain ⟨pattern,narrowed,rfl⟩ := Option.map_eq_some_iff.mp item
    obtain ⟨wide,made,narrow⟩ := Option.bind_eq_some_iff.mp narrowed
    obtain ⟨small,rounds⟩ := Double.rounds_narrow narrow
    exact ⟨_,.single (doubles_asDouble (toOption_some made)) rounds,(Read.takes_single small).map Value.float⟩
  | double =>
    obtain ⟨wide,made,rfl⟩ := Option.map_eq_some_iff.mp item
    exact ⟨_,.double (doubles_asDouble (toOption_some made)),(Read.takes_double wide).map Value.float⟩
  | bytes =>
    obtain ⟨content,some,rfl⟩ := Option.map_eq_some_iff.mp item
    obtain ⟨small,⟨_,made⟩ | ⟨_,other,_⟩⟩ := content_parts some
    · rw [← content.length_bytes] at small ⊢
      exact ⟨_,.bytes made,(Read.takes_bytes small).map Value.bytes⟩
    · cases other
  | text =>
    obtain ⟨content,some,rfl⟩ := Option.map_eq_some_iff.mp item
    obtain ⟨small,⟨other,_⟩ | ⟨text,_,rfl,rfl⟩⟩ := content_parts some
    · cases other
    · exact ⟨_,.text,(Read.takes_text small).map Value.text⟩
  | raw => exact absurd rfl bounded

theorem remaining_item (item : WriteMethod.raw.item value = some bytes) :
    ∃ read, WriteMethod.raw.Returns value read ∧ ReadOp.remaining.run bytes = .ok read [] := by
  obtain ⟨content,made,rfl⟩ := Option.map_eq_some_iff.mp item
  exact ⟨_,.raw (toOption_some made),rfl⟩

end WriteMethod

theorem readEach_ok {op : ReadOp} {unread rest : List UInt8} {value : Value} (done : op.run unread = .ok value rest)
    (later : List ReadOp) : readEach unread (op :: later) = .ok value :: readEach rest later := by
  rw [readEach,done]

-- The limit of a reader is on what it is made over, not on what is read.
theorem readRun_short {memory : List UInt8} (short : memory.length < 0x80000000) (ops : List ReadOp) :
    readRun memory ops = .ok (readEach memory ops) := by
  rw [readRun,Read.unread_all short]
  rfl

namespace WriteOp
variable {op : WriteOp Value} {ops : List (WriteOp Value)} {results : List (Except Fault Unit)} {tape last : Tape}

def mirror : WriteOp Value → ReadOp
  | .write method _ => method.mirror
  | .finish => .finish

def Returns : WriteOp Value → Value → Prop
  | .write method value,read => method.Returns value read
  | .finish,read => read = .null

def Precedes : WriteOp Value → WriteOp Value → Prop
  | .write .raw _,.write _ _ => False
  | _,_ => True

theorem idle_after_raw {value : Value} (order : ∀ later ∈ ops, (WriteOp.write .raw value).Precedes later) :
    ∀ later ∈ ops, later = .finish := by
  intro later member
  cases later with
  | finish => rfl
  | write method other => exact (order _ member).elim

theorem Traced.idle (traced : Traced tape ops results last) (idle : ∀ op ∈ ops, op = .finish) : last = tape := by
  induction traced with
  | nil => rfl
  | cons done _ ih =>
    have same := ih (fun op later => idle op (List.mem_cons_of_mem _ later))
    obtain rfl := idle _ List.mem_cons_self
    cases done with
    | finished _ => exact same
    | unfinished _ => exact same

-- What is packed from here on, read in the same order, gives what was written from here on.
theorem Traced.read (traced : Traced tape ops results last) (done : ∀ result ∈ results, result = .ok ())
    (order : ops.Pairwise Precedes) (full : last.behind = []) :
    ∃ rest values, last.packed = tape.packed ++ rest ∧ List.Forall₂ Returns ops values ∧
      readEach rest (ops.map mirror ++ [.finish]) = values.map .ok ++ [.ok .null] := by
  induction traced with
  | nil => exact ⟨[],[],(List.append_nil _).symm,.nil,rfl⟩
  | @cons op tape result next ops results last step traced ih =>
    obtain ⟨before,order⟩ := List.pairwise_cons.mp order
    obtain ⟨rest,values,packed,returned,read⟩ := ih (fun result later => done result (List.mem_cons_of_mem _ later)) order full
    have succeeded := done _ List.mem_cons_self
    cases step with
    | @packed bytes method value _ item fits =>
      rw [Tape.pack,List.append_assoc] at packed
      by_cases bounded : method = .raw
      · subst bounded
        obtain rfl : rest = [] := by
          rw [traced.idle (idle_after_raw before),← List.append_assoc] at packed
          exact List.self_eq_append_right.mp packed
        obtain ⟨value',returns,taken⟩ := WriteMethod.remaining_item item
        refine ⟨bytes,value' :: values,?_,.cons returns returned,?_⟩
        · rw [packed,List.append_nil]
        · exact (readEach_ok taken _).trans (congrArg _ read)
      · obtain ⟨value',returns,takes⟩ := WriteMethod.takes_item item bounded
        exact ⟨bytes ++ rest,value' :: values,packed,.cons returns returned,
          (readEach_ok (takes rest) _).trans (congrArg _ read)⟩
    | finished empty =>
      obtain rfl : rest = [] := by
        have length := traced.length
        rw [Tape.length,Tape.length,packed,full,empty,List.length_append] at length
        exact List.length_eq_zero_iff.mp (by omega)
      exact ⟨[],.null :: values,packed,.cons rfl returned,(readEach_ok rfl _).trans (congrArg _ read)⟩
    | cut _ _ _ => cases succeeded
    | refused _ _ _ => cases succeeded
    | unfinished _ => cases succeeded

structure Mirrors (size : Nat) (ops : List (WriteOp Value)) (results : List (Except Fault Unit)) (writer : Writer)
    (tape : Tape) : Prop where
  traced : Traced (Tape.blank size) ops results tape
  offset : writer.offset = tape.packed.length
  bounded : writer.offset ≤ size
  content : writer.content = tape.packed ++ tape.behind
  length : writer.content.length = size
  zeros : (∀ op ∈ ops, ¬ op.Spills) → writer.content = tape.packed ++ List.replicate (size - writer.offset) 0
  finish : (∃ after, Write.finish writer = .ok () after) ↔ tape.packed.length = size
  read : (∀ result ∈ results, result = .ok ()) → ops.Pairwise Precedes → tape.packed.length = size → size < 0x80000000 →
    ∃ values, List.Forall₂ Returns ops values ∧
      readRun writer.content (ops.map mirror ++ [.finish]) = .ok (values.map .ok ++ [.ok .null])

-- Whatever is written in whatever order, what is packed is the items one after another, and reading undoes it.
theorem operations_mirrored (size : Nat) (ops : List (WriteOp Value)) :
    ∃ tape, Mirrors size ops (writeRun (Writer.ofSize size) ops).1 (writeRun (Writer.ofSize size) ops).2 tape := by
  obtain ⟨fits,same,traced⟩ := traced_run ops (Writer.fits_ofSize size)
  rw [Writer.tape_ofSize] at traced
  generalize (writeRun (Writer.ofSize size) ops).1 = results at traced ⊢
  generalize (writeRun (Writer.ofSize size) ops).2 = writer at fits same traced ⊢
  have room := fits.length
  have offset : writer.offset = writer.tape.packed.length := rfl
  change writer.size = size at same
  rw [same,Tape.length,← offset] at room
  have shape := writer.content_tape
  have length : writer.content.length = size := by rw [shape,List.length_append,← offset,room]
  refine ⟨writer.tape,traced,offset,by omega,shape,length,?_,?_,?_⟩
  · intro plain
    have clean := traced.clean plain (Tape.clean_blank size)
    rw [shape,clean.zeros]
    congr 2
    omega
  · rw [Write.finish_run,← offset,same]
    constructor
    · intro done
      by_contra partly
      obtain ⟨after,done⟩ := done
      rw [if_neg partly] at done
      cases done
    · intro full
      exact ⟨writer,if_pos full⟩
  · intro done order full short
    have empty : writer.tape.behind = [] := List.length_eq_zero_iff.mp (by omega)
    obtain ⟨rest,values,packed,returned,read⟩ := traced.read done order empty
    refine ⟨values,returned,?_⟩
    have whole : writer.content = rest := by
      rw [shape,empty,packed,List.append_nil]
      rfl
    rw [readRun_short (by omega),whole,read]

example : (writeRun (Writer.ofSize 6) [.write .bytes (.bytes [1,2,3]),.write .truth (.bool true)]).2.content =
    [0,0,0,3,1,0] := rfl

-- No item, but no zeros either. And an integer that lies a little nearer to the number above than to the one
-- below becomes the one below, because the double between the two is nearest to it.
theorem spilled_and_rounded_twice :
    let spilled := writeRun (Writer.ofSize 8) [.write .u64 (.int 0x10000000000000005)]
    let rounded := writeRun (Writer.ofSize 4) [.write .single (.int 0x1000001000000001)]
    (spilled.1 = [.error .unpackable] ∧ spilled.2.offset = 0 ∧ spilled.2.content = [0,0,0,0,0,0,0,5]) ∧
      rounded.1 = [.ok ()] ∧ rounded.2.content = wordBytes 4 0x5d800000 ∧
      ¬ FloatFormat.single.Nearest 0x1000001000000001 0x5d800000 := by
  refine ⟨⟨rfl,rfl,rfl⟩,rfl,rfl,?_⟩
  intro nearest
  have below : FloatFormat.single.significand 0x5d800000 = 0x800000 ∧ FloatFormat.single.exponent 0x5d800000 = 37 := by decide
  have above : FloatFormat.single.significand 0x5d800001 = 0x800001 ∧ FloatFormat.single.exponent 0x5d800001 = 37 := by decide
  have nearer := nearest.near 0x5d800001 (by decide)
  rw [FloatFormat.amount,FloatFormat.amount,below.1,below.2,above.1,above.2] at nearer
  norm_num [abs_le] at nearer

end WriteOp
end NativeBinding
