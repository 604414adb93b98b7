import NativeBinding.Proofs.Wire.Tape
import NativeBinding.Session.Step

namespace NativeBinding
open Wire

def natural? (width : Nat) (value : Value) : Option (List UInt8) :=
  value.toInt?.bind fun number =>
    if 0 ≤ number ∧ number.toNat < capacity width then some (wordBytes width number.toNat) else none

namespace WriteMethod

def content? : WriteMethod → Value → Option Payload
  | .bytes,value => (Payload.ofValue value).toOption.filter (fun content => content.length < capacity 4)
  | .text,value =>
    ((textOf value).toOption.map (fun text => .given (Text.Utf8.encode text))).filter (fun content => content.length < capacity 4)
  | _,_ => none

def item : WriteMethod → Value → Option (List UInt8)
  | .truth,value => some [if value.truthy then 1 else 0]
  | .presence,value => some [if value.truthy then 1 else 0]
  | .u32,value => natural? 4 value
  | .u64,value => natural? 8 value
  | .i32,value => value.toInt?.bind fun number =>
    if -0x80000000 ≤ number ∧ number < 0x80000000 then some (wordBytes 4 (signedWord 4 number)) else none
  | .single,value => ((Write.asDouble value).toOption.bind Double.narrow).map (wordBytes 4)
  | .double,value => (Write.asDouble value).toOption.map (fun double => wordBytes 8 double.pattern)
  | .bytes,value => (content? .bytes value).map (fun content => wordBytes 4 content.length ++ content.bytes)
  | .text,value => (content? .text value).map (fun content => wordBytes 4 content.length ++ content.bytes)
  | .raw,value => (Payload.ofValue value).toOption.map Payload.bytes

-- Integers that need more than eight bytes are noticed when their low bytes are already written.
def Spills : WriteMethod → Value → Nat → Prop
  | .u64,value,number => value.toInt? = some (number : Int) ∧ capacity 8 ≤ number
  | _,_,_ => False

inductive Leaves (method : WriteMethod) (value : Value) (room : Nat) : List UInt8 → Prop
  | zeros : (∀ number, method.Spills value number → room < 8) → cleared ≤ room → Leaves method value room (List.replicate cleared 0)
  | spill : method.Spills value number → 8 ≤ room → Leaves method value room (wordBytes 8 number)

theorem item_of_spills {method : WriteMethod} {value : Value} {number : Nat} (spills : method.Spills value number) :
    method.item value = none := by
  cases method with
  | u64 =>
    obtain ⟨known,large⟩ := spills
    have beyond : ¬ (0 ≤ (number : Int) ∧ (number : Int).toNat < capacity 8) := by omega
    rw [item,natural?,known,Option.bind_some,if_neg beyond]
  | _ => exact spills.elim

end WriteMethod

namespace WriteOp

-- What an operation does to the memory, and whether it succeeds. Only a length is packed without the rest.
inductive Does : WriteOp Value → Tape → Except Fault Unit → Tape → Prop
  | packed : method.item value = some bytes → bytes.length ≤ tape.behind.length →
      Does (.write method value) tape (.ok ()) (tape.pack bytes)
  | cut : method.content? value = some content → 4 ≤ tape.behind.length → tape.behind.length < 4 + content.length →
      Does (.write method value) tape (.error fault) (tape.pack (wordBytes 4 content.length))
  | refused : (∀ bytes, method.item value = some bytes → tape.behind.length < bytes.length) →
      (∀ content, method.content? value = some content → tape.behind.length < 4) →
      method.Leaves value tape.behind.length left → Does (.write method value) tape (.error fault) (tape.leave left)
  | finished : tape.behind = [] → Does .finish tape (.ok ()) tape
  | unfinished : tape.behind ≠ [] → Does .finish tape (.error fault) tape

inductive Traced : Tape → List (WriteOp Value) → List (Except Fault Unit) → Tape → Prop
  | nil : Traced tape [] [] tape
  | cons : Does op tape result next → Traced next ops results last → Traced tape (op :: ops) (result :: results) last

-- An action does what an operation should, wherever a writer stands.
def Conforms (op : WriteOp Value) (action : Write Unit) : Prop :=
  ∀ writer : Writer, writer.Fits → Does op writer.tape (answered (action writer)) (reached (action writer)).tape

inductive Numeric (method : WriteMethod) (value : Value) (width : Nat) : Write Unit → Prop
  | fits : method.item value = some bytes → bytes.length = width → Numeric method value width (Write.packed bytes)
  | unfit : method.item value = none → (∀ number, ¬ method.Spills value number) → Numeric method value width (throw fault)
  | spills : method.Spills value number → width = 8 →
      Numeric method value width (do modify (fun writer => writer.leave (wordBytes 8 number)); throw fault)

variable {method : WriteMethod} {value : Value} {width : Nat} {next : Write Unit} {writer : Writer} {op : WriteOp Value}
  {tape after last : Tape} {fault : Fault}

theorem Numeric.length {bytes : List UInt8} (numeric : Numeric method value width next) (item : method.item value = some bytes) :
    bytes.length = width := by
  cases numeric with
  | fits own length =>
    cases own.symm.trans item
    exact length
  | unfit none => cases none.symm.trans item
  | spills spills => cases (WriteMethod.item_of_spills spills).symm.trans item

theorem does_short (length : ∀ bytes, method.item value = some bytes → tape.behind.length < bytes.length)
    (front : ∀ content, method.content? value = some content → tape.behind.length < 4)
    (spill : ∀ number, method.Spills value number → tape.behind.length < 8) :
    Does (.write method value) tape (.error fault) tape :=
  .refused length front (.zeros spill (Nat.zero_le _))

theorem Numeric.spilled (numeric : Numeric method value width next) {number : Nat} (spills : method.Spills value number) :
    width = 8 := by
  cases numeric with
  | fits item => cases (WriteMethod.item_of_spills spills).symm.trans item
  | unfit _ none => exact absurd spills (none number)
  | spills _ same => exact same

theorem conforms_numeric (bare : method.content? value = none) (numeric : Numeric method value width next) :
    Conforms (.write method value) (do Write.place width; next) := by
  intro writer fits
  have front : ∀ content, method.content? value = some content → writer.tape.behind.length < 4 := by
    intro content some
    cases bare.symm.trans some
  by_cases short : writer.size < writer.offset + width
  · have room : writer.tape.behind.length < width := by
      have := fits.room width
      omega
    rw [seq_error (Write.place_short short)]
    refine does_short ?_ front ?_
    · intro bytes item
      rw [numeric.length item]
      exact room
    · intro number spills
      rw [← numeric.spilled spills]
      exact room
  have room := (fits.room width).mp (Nat.le_of_not_lt short)
  have length : (List.replicate width (0 : UInt8)).length = width := List.length_replicate
  rw [seq_ok (Write.place_ok (Nat.le_of_not_lt short))]
  cases numeric with
  | fits item same =>
    rw [← same] at room length ⊢
    change Does _ _ (.ok ()) ((writer.leave _).append _).tape
    rw [Writer.leave_append _ length,Writer.tape_append]
    exact .packed item room
  | unfit none plain =>
    change Does _ _ (.error _) (writer.leave _).tape
    rw [Writer.tape_leave]
    refine .refused ?_ front (.zeros ?_ room)
    · intro bytes item
      cases none.symm.trans item
    · intro number spills
      exact absurd spills (plain number)
  | spills spills wide =>
    subst wide
    change Does _ _ (.error _) ((writer.leave _).leave _).tape
    rw [Writer.leave_leave _ (by rw [wordBytes_length,length]),Writer.tape_leave]
    refine .refused ?_ front (.spill spills room)
    intro bytes item
    cases (WriteMethod.item_of_spills spills).symm.trans item

theorem conforms_unsigned {late : Bool} (item : method.item value = natural? width value)
    (bare : method.content? value = none) (wide : late = true → width = 8)
    (spills : ∀ number, method.Spills value number ↔ late = true ∧ value.toInt? = some (number : Int) ∧ capacity 8 ≤ number) :
    Conforms (.write method value) (Write.unsigned width late value) := by
  refine conforms_numeric bare ?_
  rw [natural?] at item
  cases known : value.toInt? with
  | none =>
    refine .unfit (by rw [item,known,Option.bind_none]) ?_
    intro number spill
    cases known.symm.trans ((spills number).mp spill).2.1
  | some number =>
    rw [known,Option.bind_some] at item
    dsimp only
    by_cases negative : number < 0
    · rw [if_neg (by omega)] at item
      rw [if_pos negative]
      refine .unfit item ?_
      intro other spill
      cases known.symm.trans ((spills other).mp spill).2.1
      omega
    rw [if_neg negative]
    by_cases small : number.toNat < capacity width
    · rw [if_pos ⟨by omega,small⟩] at item
      rw [if_pos small]
      exact .fits item (wordBytes_length _ _)
    rw [if_neg (by omega)] at item
    rw [if_neg small]
    cases late with
    | false =>
      refine .unfit item ?_
      intro other spill
      cases ((spills other).mp spill).1
    | true =>
      obtain ⟨count,rfl⟩ := Int.eq_ofNat_of_zero_le (Int.not_lt.mp negative)
      obtain rfl := wide rfl
      exact .spills ((spills count).mpr ⟨rfl,known,Nat.le_of_not_lt small⟩) rfl

theorem conforms_i32 (value : Value) : Conforms (.write .i32 value) (Write.i32 value) := by
  refine conforms_numeric rfl ?_
  cases known : value.toInt? with
  | none => exact .unfit (by rw [WriteMethod.item,known,Option.bind_none]) fun _ => id
  | some number =>
    have item : WriteMethod.i32.item value = if -0x80000000 ≤ number ∧ number < 0x80000000 then
        some (wordBytes 4 (signedWord 4 number)) else none := by
      rw [WriteMethod.item,known,Option.bind_some]
    simp only [Bool.or_eq_true,decide_eq_true_eq]
    by_cases beyond : number < -0x80000000 ∨ 0x80000000 ≤ number
    · rw [if_neg (by omega)] at item
      rw [if_pos beyond]
      exact .unfit item fun _ => id
    · rw [if_pos (by omega)] at item
      rw [if_neg beyond]
      exact .fits item (wordBytes_length _ _)

theorem conforms_single (value : Value) : Conforms (.write .single value) (Write.single value) := by
  refine conforms_numeric rfl ?_
  have item : WriteMethod.single.item value = ((Write.asDouble value).toOption.bind Double.narrow).map (wordBytes 4) := rfl
  cases known : Write.asDouble value with
  | error fault => exact .unfit (by rw [item,known]; rfl) fun _ => id
  | ok double =>
    rw [known] at item
    dsimp only
    cases narrow : double.narrow with
    | none => exact .unfit (by rw [item,Except.toOption,Option.bind_some,narrow]; rfl) fun _ => id
    | some pattern =>
      exact .fits (by rw [item,Except.toOption,Option.bind_some,narrow]; rfl) (wordBytes_length _ _)

theorem conforms_double (value : Value) : Conforms (.write .double value) (Write.double value) := by
  refine conforms_numeric rfl ?_
  have item : WriteMethod.double.item value = (Write.asDouble value).toOption.map (fun double => wordBytes 8 double.pattern) := rfl
  cases known : Write.asDouble value with
  | error fault => exact .unfit (by rw [item,known]; rfl) fun _ => id
  | ok double => exact .fits (by rw [item,known]; rfl) (wordBytes_length _ _)

theorem conforms_room {bytes : List UInt8} (length : bytes.length = width) (item : method.item value = some bytes)
    (bare : method.content? value = none) (plain : ∀ number, ¬ method.Spills value number) :
    Conforms (.write method value) (do Write.room width; Write.packed bytes) := by
  intro writer fits
  by_cases short : writer.size < writer.offset + width
  · have room : writer.tape.behind.length < width := by
      have := fits.room width
      omega
    rw [seq_error (Write.room_short short)]
    refine does_short ?_ ?_ (fun number spills => absurd spills (plain number))
    · intro other own
      cases item.symm.trans own
      omega
    · intro content some
      cases bare.symm.trans some
  · have room := (fits.room width).mp (Nat.le_of_not_lt short)
    rw [seq_ok (Write.room_ok (Nat.le_of_not_lt short))]
    change Does _ _ (.ok ()) (writer.append _).tape
    rw [Writer.tape_append]
    exact .packed item (by omega)

theorem conforms_throw (unfit : method.item value = none) (bare : method.content? value = none)
    (plain : ∀ number, ¬ method.Spills value number) : Conforms (.write method value) (throw fault) := by
  intro writer _
  refine does_short ?_ ?_ (fun number spills => absurd spills (plain number))
  · intro bytes item
    cases unfit.symm.trans item
  · intro content some
    cases bare.symm.trans some

theorem conforms_counted {content : Payload}
    (front : method.content? value = if content.length < capacity 4 then some content else none)
    (item : method.item value = (method.content? value).map (fun content => wordBytes 4 content.length ++ content.bytes))
    (plain : ∀ number, ¬ method.Spills value number) : Conforms (.write method value) (Write.counted content) := by
  intro writer fits
  have size := content.length_bytes
  have unspilt : ∀ number, method.Spills value number → writer.tape.behind.length < 8 :=
    fun number spills => absurd spills (plain number)
  have word := wordBytes_length 4 content.length
  by_cases short : writer.size < writer.offset + 4
  · have room : writer.tape.behind.length < 4 := by
      have := fits.room 4
      omega
    rw [Write.counted_short short]
    refine does_short ?_ (fun _ _ => room) unspilt
    intro bytes own
    rw [item] at own
    obtain ⟨other,_,rfl⟩ := Option.map_eq_some_iff.mp own
    rw [List.length_append,wordBytes_length]
    omega
  have there := Nat.le_of_not_lt short
  have room := (fits.room 4).mp there
  by_cases small : content.length < capacity 4
  · rw [if_pos small] at front
    rw [front,Option.map_some] at item
    by_cases whole : writer.offset + (4 + content.length) ≤ writer.size
    · have done := Write.appends_counted content small writer (by rw [List.length_append,word,size]; exact whole)
      rw [done]
      change Does _ _ (.ok ()) (writer.append _).tape
      rw [Writer.tape_append]
      refine .packed item ?_
      rw [List.length_append,word,size]
      exact (fits.room _).mp whole
    · rw [Write.counted_cut small there (Nat.lt_of_not_le whole)]
      change Does _ _ (.error _) (writer.append _).tape
      rw [Writer.tape_append]
      refine .cut front room ?_
      have := fits.room (4 + content.length)
      omega
  · rw [if_neg small] at front
    rw [front,Option.map_none] at item
    rw [Write.counted_large small there]
    change Does _ _ (.error _) (writer.leave _).tape
    rw [Writer.tape_leave]
    refine .refused ?_ ?_ (.zeros unspilt room)
    · intro bytes own
      cases item.symm.trans own
    · intro other some
      cases front.symm.trans some

theorem conforms_finish : Conforms .finish Write.finish := by
  intro writer fits
  have length := fits.length
  have offset : writer.tape.packed.length = writer.offset := rfl
  rw [Tape.length,offset] at length
  rw [Write.finish_run]
  split_ifs with full
  · exact .finished (List.length_eq_zero_iff.mp (by omega))
  · refine .unfinished ?_
    intro empty
    rw [empty,List.length_nil] at length
    omega

theorem conforms_bytes (value : Value) : Conforms (.write .bytes value) (Write.bytes value) := by
  unfold Write.bytes
  cases known : Payload.ofValue value with
  | error fault =>
    have bare : WriteMethod.bytes.content? value = none := by
      simp only [WriteMethod.content?,known,Except.toOption,Option.filter_none]
    exact conforms_throw (by rw [WriteMethod.item,bare,Option.map_none]) bare fun _ => id
  | ok content =>
    refine conforms_counted ?_ rfl fun _ => id
    simp only [WriteMethod.content?,known,Except.toOption,Option.filter_some,decide_eq_true_eq]

theorem conforms_text (value : Value) : Conforms (.write .text value) (Write.text value) := by
  unfold Write.text
  cases known : textOf value with
  | error fault =>
    have bare : WriteMethod.text.content? value = none := by
      simp only [WriteMethod.content?,known,Except.toOption,Option.filter_none,Option.map_none]
    exact conforms_throw (by rw [WriteMethod.item,bare,Option.map_none]) bare fun _ => id
  | ok text =>
    refine conforms_counted ?_ rfl fun _ => id
    simp only [WriteMethod.content?,known,Except.toOption,Option.map_some,Option.filter_some,decide_eq_true_eq]

theorem conforms_raw (value : Value) : Conforms (.write .raw value) (Write.raw value) := by
  unfold Write.raw
  cases known : Payload.ofValue value with
  | error fault => exact conforms_throw (by rw [WriteMethod.item,known]; rfl) rfl fun _ => id
  | ok content => exact conforms_room content.length_bytes (by rw [WriteMethod.item,known]; rfl) rfl fun _ => id

theorem conforms_run (op : WriteOp Value) : Conforms op op.run := by
  cases op with
  | finish => exact conforms_finish
  | write method value =>
    cases method with
    | truth => exact conforms_room rfl rfl rfl fun _ => id
    | presence => exact conforms_room rfl rfl rfl fun _ => id
    | u32 => exact conforms_unsigned rfl rfl nofun (fun _ => ⟨False.elim,fun spills => nomatch spills.1⟩)
    | u64 => exact conforms_unsigned rfl rfl (fun _ => rfl) (fun _ => ⟨fun spills => ⟨rfl,spills⟩,And.right⟩)
    | i32 => exact conforms_i32 value
    | single => exact conforms_single value
    | double => exact conforms_double value
    | bytes => exact conforms_bytes value
    | text => exact conforms_text value
    | raw => exact conforms_raw value

theorem keeps_run (op : WriteOp Value) : Write.Keeps op.run := by
  cases op with
  | finish => exact Write.keeps_finish
  | write method value =>
    cases method with
    | truth => exact Write.keeps_truth value
    | presence => exact Write.keeps_truth value
    | u32 => exact Write.keeps_unsigned 4 false value
    | u64 => exact Write.keeps_unsigned 8 true value
    | i32 => exact Write.keeps_i32 value
    | single => exact Write.keeps_single value
    | double => exact Write.keeps_double value
    | bytes => exact Write.keeps_bytes value
    | text => exact Write.keeps_text value
    | raw => exact Write.keeps_raw value

theorem writeRun_cons (writer : Writer) (op : WriteOp Value) (rest : List (WriteOp Value)) :
    writeRun writer (op :: rest) = (answered (op.run writer) :: (writeRun (reached (op.run writer)) rest).1,
      (writeRun (reached (op.run writer)) rest).2) := by
  rw [writeRun]
  cases op.run writer <;> rfl

-- Whatever fails on the way, each operation finds the memory as the one before it left it.
theorem traced_run (ops : List (WriteOp Value)) {writer : Writer} (fits : writer.Fits) :
    (writeRun writer ops).2.Fits ∧ (writeRun writer ops).2.size = writer.size ∧
      Traced writer.tape ops (writeRun writer ops).1 (writeRun writer ops).2.tape := by
  induction ops generalizing writer with
  | nil => exact ⟨fits,rfl,.nil⟩
  | cons op rest ih =>
    obtain ⟨same,fits'⟩ := keeps_run op writer fits ((fits.room 0).mpr (Nat.zero_le _))
    obtain ⟨last,size,traced⟩ := ih fits'
    rw [writeRun_cons]
    exact ⟨last,size.trans same,.cons (conforms_run op writer fits) traced⟩

theorem Does.length (done : op.Does tape result after) : after.length = tape.length := by
  cases done with
  | packed item fits => exact Tape.length_pack fits
  | cut content front short => exact Tape.length_pack (by rw [wordBytes_length]; exact front)
  | refused item front left =>
    cases left with
    | zeros _ fits => exact Tape.length_leave (by rw [List.length_replicate]; exact fits)
    | spill _ fits => exact Tape.length_leave (by rw [wordBytes_length]; exact fits)
  | finished _ => rfl
  | unfinished _ => rfl

theorem Traced.length (traced : Traced tape ops results last) : last.length = tape.length := by
  induction traced with
  | nil => rfl
  | cons done _ ih => exact ih.trans done.length

def Spills : WriteOp Value → Prop
  | .write method value => ∃ number, method.Spills value number
  | .finish => False

theorem Does.clean (done : op.Does tape result after) (plain : ¬ op.Spills) (clean : tape.Clean) : after.Clean := by
  cases done with
  | packed _ _ => exact clean.pack _
  | cut _ _ _ => exact clean.pack _
  | refused _ _ left =>
    cases left with
    | zeros _ _ => exact clean.leave _
    | spill spills _ => exact absurd ⟨_,spills⟩ plain
  | finished _ => exact clean
  | unfinished _ => exact clean

theorem Traced.clean (traced : Traced tape ops results last) (plain : ∀ op ∈ ops, ¬ op.Spills) (clean : tape.Clean) :
    last.Clean := by
  induction traced with
  | nil => exact clean
  | cons done _ ih =>
    exact ih (fun op later => plain op (List.mem_cons_of_mem _ later)) (done.clean (plain _ List.mem_cons_self) clean)

end WriteOp
end NativeBinding
