import Mathlib
import NativeBinding.Session.Library

namespace NativeBinding

structure Books where
  made : Nat
  live : List Nat
deriving DecidableEq

namespace Library

def ids (library : Library) : List Nat := library.blocks.map Block.id

def books (library : Library) : Books := ⟨library.made,library.ids⟩

-- No number is given twice, and none is given ahead.
structure Sound (library : Library) : Prop where
  distinct : library.ids.Nodup
  made : ∀ id ∈ library.ids, id ≤ library.made

variable {library : Library} {buffer : Buffer}

theorem sound_empty : empty.Sound := ⟨List.nodup_nil,nofun⟩

theorem fresh_id (sound : library.Sound) : library.made + 1 ∉ library.ids :=
  fun member => Nat.not_succ_le_self _ (sound.made _ member)

theorem isLive_iff : library.isLive buffer ↔ ∃ id ∈ library.ids, buffer.id = some id := by
  simp only [isLive,block?,ids]
  cases buffer.id with
  | none => simp
  | some id => simp

theorem not_live (gone : ∀ id, buffer.id = some id → id ∉ library.ids) : library.isLive buffer = false := by
  rw [Bool.eq_false_iff]
  intro live
  obtain ⟨id,member,same⟩ := isLive_iff.mp live
  exact gone id same member

theorem ids_make (size : Nat) (written : List UInt8) (length : Int) :
    (library.make size written length).2.ids = library.ids ++ [library.made + 1] := by simp [make,ids]

theorem ids_store (written : List UInt8) : (library.store buffer written).ids = library.ids := by
  simp only [ids,store,List.map_map]
  refine List.map_congr_left (fun block _ => ?_)
  simp only [Function.comp_apply]
  split <;> rfl

theorem ids_drop : (library.drop buffer).ids = library.ids.filter (fun id => some id != buffer.id) := by
  simp only [ids,drop,List.filter_map]
  rfl

theorem mem_ids_drop {id : Nat} : id ∈ (library.drop buffer).ids ↔ id ∈ library.ids ∧ buffer.id ≠ some id := by
  rw [ids_drop,List.mem_filter,bne_iff_ne]
  exact and_congr_right (fun _ => ne_comm)

theorem ids_drop_number (number : Nat) (length : Int) : (library.drop ⟨some number,length⟩).ids =
    library.ids.filter (fun id => id != number) := by
  rw [ids_drop]
  refine List.filter_congr (fun id _ => ?_)
  simp [bne]

theorem drop_missing (missing : buffer.id = none) : library.drop buffer = library := by
  have all : library.blocks.filter (fun block => some block.id != none) = library.blocks :=
    List.filter_eq_self.mpr (fun _ _ => rfl)
  rw [drop,missing,all]

namespace Sound

-- Nothing else counts than how many buffers were made and which are live.
theorem books {later : Library} (sound : library.Sound) (same : later.books = library.books) : later.Sound := by
  have made : later.made = library.made := congrArg Books.made same
  have ids : later.ids = library.ids := congrArg Books.live same
  exact ⟨ids ▸ sound.distinct,by rw [ids,made]; exact sound.made⟩

theorem make (sound : library.Sound) (size : Nat) (written : List UInt8) (length : Int) :
    (library.make size written length).2.Sound := by
  constructor
  · rw [ids_make]
    exact List.nodup_append.mpr ⟨sound.distinct,List.nodup_singleton _,by
      rintro id member _ last rfl
      exact fresh_id sound (List.mem_singleton.mp last ▸ member)⟩
  · rw [ids_make]
    intro id member
    rcases List.mem_append.mp member with old | new
    · exact Nat.le_succ_of_le (sound.made id old)
    · exact (List.mem_singleton.mp new).le

theorem store (sound : library.Sound) (written : List UInt8) : (library.store buffer written).Sound :=
  ⟨(ids_store written).symm ▸ sound.distinct,(ids_store written).symm ▸ sound.made⟩

theorem drop (sound : library.Sound) : (library.drop buffer).Sound := by
  constructor
  · rw [ids_drop]
    exact sound.distinct.filter _
  · intro id member
    exact sound.made id (mem_ids_drop.mp member).1

end Sound

theorem block?_make (sound : library.Sound) (size : Nat) (written : List UInt8) (length : Int) :
    (library.make size written length).2.block? (library.make size written length).1 =
      some ⟨library.made + 1,size,written⟩ := by
  have other : ∀ block ∈ library.blocks, block.id ≠ library.made + 1 :=
    fun block member same => fresh_id sound (same ▸ List.mem_map_of_mem member)
  simp only [make,block?,Option.bind_some]
  rw [List.find?_append,List.find?_eq_none.mpr (by simpa using other)]
  simp

theorem find?_store (written : List UInt8) (number : Nat) :
    (library.store buffer written).blocks.find? (fun block => block.id == number) =
      (library.blocks.find? (fun block => block.id == number)).map (fun block =>
        if some block.id == buffer.id then { block with written := written } else block) := by
  have same : (fun block : Block => block.id == number) ∘ (fun block => if some block.id == buffer.id then
      { block with written := written } else block) = (fun block => block.id == number) := by
    funext block
    simp only [Function.comp_apply]
    split <;> rfl
  rw [store,List.find?_map,same]

theorem block?_store (block : Block) (found : library.block? buffer = some block) (written : List UInt8) :
    (library.store buffer written).block? buffer = some { block with written := written } := by
  simp only [block?] at found ⊢
  obtain ⟨id,named,found⟩ := Option.bind_eq_some_iff.mp found
  have own : block.id = id := by simpa using List.find?_some found
  rw [named,Option.bind_some,find?_store,found]
  simp [own,named]

theorem block?_store_other {other : Buffer} (apart : other.id ≠ buffer.id) (written : List UInt8) :
    (library.store buffer written).block? other = library.block? other := by
  simp only [block?]
  cases named : other.id with
  | none => rfl
  | some id =>
    rw [Option.bind_some,Option.bind_some,find?_store]
    cases found : library.blocks.find? (fun block => block.id == id) with
    | none => rfl
    | some block =>
      have own : block.id = id := by simpa using List.find?_some found
      have differs : ¬ some block.id = buffer.id := by
        rw [own,← named]
        exact apart
      simp [differs]

theorem block?_make_other {other : Buffer} (size : Nat) (written : List UInt8) (length : Int)
    (apart : other.id ≠ some (library.made + 1)) :
    (library.make size written length).2.block? other = library.block? other := by
  simp only [make,block?]
  cases named : other.id with
  | none => rfl
  | some id =>
    have differs : (library.made + 1 == id) = false := by
      refine beq_eq_false_iff_ne.mpr (fun same => apart ?_)
      rw [named,same]
    rw [Option.bind_some,Option.bind_some,List.find?_append]
    simp [differs]

theorem content_of_block (found : library.block? buffer = some block) : library.content buffer = block.content := by
  rw [content,found]

end Library
end NativeBinding
