import NativeBinding.Proofs.Session.Ownership

namespace NativeBinding
open Wire

def Buffer.renumber (change : Nat → Nat) (buffer : Buffer) : Buffer := { buffer with id := buffer.id.map change }

def Block.renumber (change : Nat → Nat) (block : Block) : Block := { block with id := change block.id }

def Passed.renumber (change : Nat → Nat) : Passed → Passed
  | .value plain => .value plain
  | .buffer id content => .buffer (id.map change) content

namespace Event

def renumber (change : Nat → Nat) : Event → Event
  | alloc id size => alloc (change id) size
  | free id => free (id.map change)
  | call symbol arguments => call symbol (arguments.map (Passed.renumber change))

-- Every buffer that an event names, also one that is only shown to a function.
def numbers : Event → List Nat
  | alloc id _ => [id]
  | free id => id.toList
  | call _ arguments => arguments.filterMap Passed.number?

theorem renumber_twice (first second : Nat → Nat) (event : Event) :
    (event.renumber first).renumber second = event.renumber (second ∘ first) := by
  cases event with
  | alloc => rfl
  | free id => cases id <;> rfl
  | call symbol arguments =>
    have each (passed : Passed) : (passed.renumber first).renumber second = passed.renumber (second ∘ first) := by
      cases passed with
      | value => rfl
      | buffer id => cases id <;> rfl
    simp only [renumber,List.map_map,call.injEq,true_and]
    exact List.map_congr_left fun passed _ => each passed

theorem renumber_same {change : Nat → Nat} (same : ∀ number, change number = number) (event : Event) :
    event.renumber change = event := by
  obtain rfl : change = id := funext same
  cases event with
  | alloc => rfl
  | free id => cases id <;> rfl
  | call symbol arguments =>
    have each (passed : Passed) : passed.renumber id = passed := by
      cases passed with
      | value => rfl
      | buffer number => cases number <;> rfl
    simp only [renumber,call.injEq,true_and]
    exact (List.map_congr_left fun passed _ => each passed).trans (List.map_id _)

theorem numbers_renumber (change : Nat → Nat) (event : Event) : (event.renumber change).numbers = event.numbers.map change := by
  cases event with
  | alloc => rfl
  | free id => cases id <;> rfl
  | call symbol arguments =>
    simp only [renumber,numbers,List.filterMap_map,List.map_filterMap]
    congr 1
    funext passed
    cases passed <;> rfl

end Event

-- A component that goes on from another one: it has the buffers of that one too, and its own
-- are numbered from there on.
def Library.continuing (later past : Library) : Library :=
  { later with
    made := past.made + later.made
    blocks := past.blocks ++ later.blocks.map (Block.renumber (past.made + ·)) }

def Session.continuing (later : Session) (past : Library) : Session :=
  { later with
    library := later.library.continuing past
    events := later.events.map (Event.renumber (past.made + ·)) }

structure Buffer.Renumbered (past : Library) (one other : Buffer) : Prop where
  same : other = one.renumber (past.made + ·)
  counted : one.id ≠ some 0

theorem Buffer.Renumbered.length {past : Library} {one other : Buffer} (renumbered : one.Renumbered past other) :
    other.length = one.length := by
  rw [renumbered.same]
  rfl

namespace Library
variable {past later : Library} {one other : Buffer}

theorem renumbered_number (renumbered : one.Renumbered past other) (block : Block) :
    (some (block.renumber (past.made + ·)).id == other.id) = (some block.id == one.id) := by
  rw [renumbered.same,Bool.eq_iff_iff]
  cases id : one.id with
  | none => simp [Buffer.renumber,id]
  | some number => simp [Buffer.renumber,Block.renumber,id]

section
variable (sound : past.Sound)
include sound

theorem renumbered_apart (renumbered : one.Renumbered past other) : ∀ block ∈ past.blocks, some block.id ≠ other.id := by
  intro block member
  have known := sound.made block.id (List.mem_map_of_mem member)
  have counted := renumbered.counted
  rw [renumbered.same]
  cases id : one.id with
  | none => simp [Buffer.renumber,id]
  | some number =>
    rw [id] at counted
    have positive : number ≠ 0 := fun zero => counted (congrArg some zero)
    simp only [Buffer.renumber,id,Option.map_some,ne_eq,Option.some.injEq]
    omega

theorem block?_continuing (renumbered : one.Renumbered past other) :
    (later.continuing past).block? other = (later.block? one).map (Block.renumber (past.made + ·)) := by
  have apart := renumbered_apart sound renumbered
  have same := congrArg Buffer.id renumbered.same
  simp only [block?,continuing]
  rw [same] at apart ⊢
  cases id : one.id with
  | none => simp [Buffer.renumber,id]
  | some number =>
    simp only [Buffer.renumber,id,Option.map_some] at apart ⊢
    have old : past.blocks.find? (fun block => block.id == past.made + number) = none := by
      refine List.find?_eq_none.mpr fun block member => ?_
      have differs : block.id ≠ past.made + number := fun alike => apart block member (congrArg some alike)
      simpa using differs
    have moved : (fun block : Block => block.id == past.made + number) ∘ Block.renumber (past.made + ·) =
        fun block => block.id == number := by
      funext block
      exact Bool.eq_iff_iff.mpr (by simp [Block.renumber])
    rw [Option.bind_some,Option.bind_some,List.find?_append,old,Option.none_or,List.find?_map,moved]

theorem isLive_continuing (renumbered : one.Renumbered past other) : (later.continuing past).isLive other = later.isLive one := by
  rw [isLive,isLive,block?_continuing sound renumbered,Option.isSome_map]

theorem content_continuing (renumbered : one.Renumbered past other) : (later.continuing past).content other = later.content one := by
  rw [content,content,block?_continuing sound renumbered]
  cases later.block? one <;> rfl

theorem drop_continuing (renumbered : one.Renumbered past other) :
    (later.continuing past).drop other = (later.drop one).continuing past := by
  have old : past.blocks.filter (fun block => some block.id != other.id) = past.blocks :=
    List.filter_eq_self.mpr fun block member => bne_iff_ne.mpr (renumbered_apart sound renumbered block member)
  have moved : (fun block : Block => some block.id != other.id) ∘ Block.renumber (past.made + ·) =
      fun block => some block.id != one.id := by
    funext block
    exact congrArg not (renumbered_number renumbered block)
  simp only [drop,continuing,List.filter_append,old,List.filter_map,moved]

theorem store_continuing (renumbered : one.Renumbered past other) (written : List UInt8) :
    (later.continuing past).store other written = (later.store one written).continuing past := by
  have old : past.blocks.map (fun block => if some block.id == other.id then { block with written := written } else block) =
      past.blocks := by
    refine (List.map_congr_left fun block member => ?_).trans (List.map_id _)
    rw [beq_false_of_ne (renumbered_apart sound renumbered block member)]
    rfl
  have moved (block : Block) : (if some (block.renumber (past.made + ·)).id == other.id then
      { block.renumber (past.made + ·) with written := written } else block.renumber (past.made + ·)) =
      (if some block.id == one.id then { block with written := written } else block).renumber (past.made + ·) := by
    rw [renumbered_number renumbered block]
    split <;> rfl
  simp only [store,continuing,List.map_append,old,List.map_map]
  congr 2
  exact List.map_congr_left fun block _ => moved block

theorem drops_continuing {ones others : List Buffer} (alike : List.Forall₂ (Buffer.Renumbered past) ones others)
    (later : Library) : others.foldl drop (later.continuing past) = (ones.foldl drop later).continuing past := by
  induction alike generalizing later with
  | nil => rfl
  | cons first _ ih => rw [List.foldl_cons,List.foldl_cons,drop_continuing sound first,ih]

end

theorem make_renumbered (size : Nat) (written : List UInt8) (length : Int) :
    (later.make size written length).1.Renumbered past ((later.continuing past).make size written length).1 :=
  ⟨rfl,nofun⟩

theorem make_continuing (size : Nat) (written : List UInt8) (length : Int) :
    ((later.continuing past).make size written length).2 = (later.make size written length).2.continuing past := by
  simp [make,continuing,Block.renumber,Nat.add_assoc]

theorem block?_past {buffer : Buffer} (live : past.isLive buffer) : (later.continuing past).block? buffer = past.block? buffer := by
  obtain ⟨block,found⟩ := Option.isSome_iff_exists.mp live
  rw [found]
  simp only [block?] at found ⊢
  obtain ⟨id,named,found⟩ := Option.bind_eq_some_iff.mp found
  rw [named,Option.bind_some,continuing,List.find?_append,found]
  rfl

end Library
end NativeBinding
