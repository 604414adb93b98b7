import NativeBinding.Proofs.Codec.Accept
import NativeBinding.Proofs.Emitted.Accepted

namespace NativeBinding
open Wire

namespace Wire.Read

abbrev Ending (α : Type) := EStateM.Result Fault (List UInt8) α

def Ending.map (change : α → β) : Ending α → Ending β
  | .ok value rest => .ok (change value) rest
  | .error fault left => .error fault left

theorem map_run (read : Read α) (change : α → β) (bytes : List UInt8) :
    (do return change (← read) : Read β) bytes = Ending.map change (read bytes) := by
  cases run : read bytes with
  | ok value rest => rw [seq_ok run]; rfl
  | error fault left => rw [seq_error run]; rfl

end Wire.Read

def TypeRef.isFlat : TypeRef → Bool
  | .named .record .. => false
  | .optional .. => false
  | _ => true

theorem TypeRef.readBy_flat {type : TypeRef} (flat : type.isFlat) (ordinal : String → Value → Except Fault Value)
    (nested other : String → Read Value) : type.readBy ordinal nested = type.readBy ordinal other := by
  cases type with
  | plain which => cases which <;> rfl
  | named which =>
    cases which with
    | record => cases flat
    | _ => rfl
  | optional => cases flat

-- Readings as they are made, with nothing that bounds them from outside: a derivation is
-- there only for a reading that ends. The number says how many records and optionals are
-- being read at once where the reading is nested deepest.
mutual
inductive Reading (model : Model) : TypeRef → List UInt8 → Nat → Read.Ending Value → Prop
  | flat (flat : type.isFlat) (nested : String → Read Value) :
      Reading model type bytes 0 (type.readBy model.fromOrdinal nested bytes)
  | record (found : model.record? name = some record) (fields : ReadingFields model record.fields bytes count ending) :
      Reading model (.named .record name aside) bytes (count + 1) (ending.map (Value.record name))
  | refused (flag : Read.presence bytes = .error fault left) :
      Reading model (.optional below label) bytes 1 (.error fault left)
  | absent (flag : Read.presence bytes = .ok false rest) : Reading model (.optional below label) bytes 1 (.ok .null rest)
  | present (flag : Read.presence bytes = .ok true rest) (behind : Reading model below rest count ending) :
      Reading model (.optional below label) bytes (count + 1)
        (ending.map (fun value => if below.isOptional then .wrapped value else value))

inductive ReadingFields (model : Model) : List Field → List UInt8 → Nat → Read.Ending (List (String × Value)) → Prop
  | done : ReadingFields model [] bytes 0 (.ok [] bytes)
  | failed (first : Reading model field.type bytes count (.error fault left)) :
      ReadingFields model (field :: fields) bytes count (.error fault left)
  | next (first : Reading model field.type bytes count (.ok value rest)) (others : ReadingFields model fields rest more ending) :
      ReadingFields model (field :: fields) bytes (max count more) (ending.map ((field.name,value) :: ·))
end

section
variable {model : Model}

mutual
theorem Reading.agrees {type : TypeRef} {bytes : List UInt8} {count : Nat} {ending : Read.Ending Value} : Reading model type bytes count ending →
    ∀ depth, count ≤ depth → type.readBy model.fromOrdinal (model.recordRead depth) bytes = ending
  | .flat flat nested => fun depth _ => by rw [TypeRef.readBy_flat flat _ nested]
  | .record found fields => fun depth deep => by
    cases depth with
    | zero => omega
    | succ depth =>
      simp only [TypeRef.readBy,Model.recordRead,found]
      rw [Read.map_run,fields.agrees depth (by omega)]
  | .refused flag => fun depth _ => seq_error flag
  | .absent flag => fun depth _ => seq_ok flag
  | .present flag behind => fun depth deep => by
    have same := behind.agrees depth (by omega)
    rw [← same,← Read.map_run]
    exact seq_ok flag

theorem ReadingFields.agrees {fields : List Field} {bytes : List UInt8} {count : Nat}
    {ending : Read.Ending (List (String × Value))} : ReadingFields model fields bytes count ending → ∀ depth, count ≤ depth →
    readFields (TypeRef.readBy model.fromOrdinal (model.recordRead depth)) fields bytes = ending
  | .done => fun _ _ => rfl
  | .failed first => fun depth deep => seq_error (first.agrees depth deep)
  | .next first others => fun depth deep => by
    have one := first.agrees depth (by omega)
    have two := others.agrees depth (by omega)
    rw [← two,← Read.map_run]
    exact seq_ok one
end

mutual
theorem Reading.unique {type : TypeRef} {bytes : List UInt8} {count many : Nat} {ending other : Read.Ending Value} :
    Reading model type bytes count ending → Reading model type bytes many other → count = many ∧ ending = other
  | .flat flat nested,second => by
    cases second with
    | flat _ nested' => exact ⟨rfl,by rw [TypeRef.readBy_flat flat _ nested]⟩
    | record => cases flat
    | refused => cases flat
    | absent => cases flat
    | present => cases flat
  | .record found fields,second => by
    cases second with
    | flat flat => cases flat
    | record found' fields' =>
      obtain rfl := Option.some.inj (found.symm.trans found')
      obtain ⟨rfl,rfl⟩ := fields.unique fields'
      exact ⟨rfl,rfl⟩
  | .refused flag,second => by
    cases second with
    | flat flat => cases flat
    | refused flag' =>
      cases flag.symm.trans flag'
      exact ⟨rfl,rfl⟩
    | absent flag' => cases flag.symm.trans flag'
    | present flag' => cases flag.symm.trans flag'
  | .absent flag,second => by
    cases second with
    | flat flat => cases flat
    | refused flag' => cases flag.symm.trans flag'
    | absent flag' =>
      cases flag.symm.trans flag'
      exact ⟨rfl,rfl⟩
    | present flag' => cases flag.symm.trans flag'
  | .present flag behind,second => by
    cases second with
    | flat flat => cases flat
    | refused flag' => cases flag.symm.trans flag'
    | absent flag' => cases flag.symm.trans flag'
    | present flag' behind' =>
      cases flag.symm.trans flag'
      obtain ⟨rfl,rfl⟩ := behind.unique behind'
      exact ⟨rfl,rfl⟩

theorem ReadingFields.unique {fields : List Field} {bytes : List UInt8} {count many : Nat}
    {ending other : Read.Ending (List (String × Value))} : ReadingFields model fields bytes count ending → ReadingFields model fields bytes many other →
    count = many ∧ ending = other
  | .done,second => by
    cases second with
    | done => exact ⟨rfl,rfl⟩
  | .failed first,second => by
    cases second with
    | failed first' =>
      obtain ⟨rfl,same⟩ := first.unique first'
      cases same
      exact ⟨rfl,rfl⟩
    | next first' others' => cases (first.unique first').2
  | .next first others,second => by
    cases second with
    | failed first' => cases (first.unique first').2
    | next first' others' =>
      obtain ⟨rfl,same⟩ := first.unique first'
      cases same
      obtain ⟨rfl,rfl⟩ := others.unique others'
      exact ⟨rfl,rfl⟩
end

noncomputable def Model.levels (model : Model) : TypeRef → Nat
  | .named .record name _ => model.rank name + 1
  | .optional .. => 1
  | _ => 0

theorem Model.levels_le (type : TypeRef) : model.levels type ≤ model.records.length + 1 := by
  unfold levels
  split
  · exact Nat.succ_le_succ (rank_le _)
  · exact Nat.le_add_left 1 _
  · exact Nat.zero_le _

theorem Model.levels_le_rank (found : model.record? name = some record) (member : field ∈ record.fields)
    (free : ¬ Relation.TransGen model.Nests name name) : model.levels field.type ≤ model.rank name := by
  unfold levels
  split
  · rename_i inner aside same
    exact rank_lt ⟨record,found,field,member,aside,same⟩ free
  · exact rank_pos found
  · exact Nat.zero_le _

theorem Model.levels_pos {type : TypeRef} (nested : type.isFlat = false) : 0 < model.levels type := by
  cases type with
  | plain => cases nested
  | named which name aside =>
    cases which with
    | record => exact Nat.succ_pos _
    | _ => cases nested
  | optional => exact Nat.one_pos

theorem reading_flat {type : TypeRef} (flat : type.isFlat) (bytes : List UInt8) (bound : Nat) :
    ∃ count ending, Reading model type bytes count ending ∧ count ≤ bound :=
  ⟨0,_,.flat flat (fun _ => throw .undefinedName),Nat.zero_le bound⟩

theorem readingFields_exists {bound : Nat} {fields : List Field} {bytes : List UInt8}
    (each : ∀ field ∈ fields, ∀ unread, unread.length ≤ bytes.length →
      ∃ count ending, Reading model field.type unread count ending ∧ count ≤ bound ∧
        ∀ value rest, ending = .ok value rest → rest.length ≤ unread.length) :
    ∃ count ending, ReadingFields model fields bytes count ending ∧ count ≤ bound := by
  induction fields generalizing bytes with
  | nil => exact ⟨0,_,.done,Nat.zero_le bound⟩
  | cons field fields ih =>
    obtain ⟨count,ending,first,few,shorter⟩ := each field List.mem_cons_self bytes (Nat.le_refl _)
    cases ending with
    | error fault left => exact ⟨count,_,.failed first,few⟩
    | ok value rest =>
      have shorter := shorter value rest rfl
      obtain ⟨more,ending,others,fewer⟩ := ih (fun other member unread short =>
        each other (List.mem_cons_of_mem _ member) unread (short.trans shorter))
      exact ⟨_,_,.next first others,Nat.max_le.mpr ⟨few,fewer⟩⟩

section
variable (grounded : model.Grounded) (closed : model.ClosedFields)
include grounded closed

theorem Reading.meets {type : TypeRef} {bytes : List UInt8} {ending : Read.Ending Value} (known : type.isClosed model)
    (reading : Reading model type bytes count ending) :
    (∀ value rest, ending = .ok value rest → ∃ taken, bytes = taken ++ rest ∧ model.ReadAs type value taken) ∧
    (∀ fault left, ending = .error fault left → fault.IsForeign) := by
  have run := reading.agrees (max count (bytes.length * (model.records.length + 1) + model.typeRank type)) (Nat.le_max_left _ _)
  have within := within_type (fun name aside less known deep => within_record grounded closed _ name aside less known deep)
    type known (Nat.le_max_right count _) bytes (Nat.le_refl _)
  rw [run] at within
  refine ⟨?_,?_⟩
  · rintro value rest rfl
    exact within
  · rintro fault left rfl
    exact within

-- The bytes left and the levels before the next flag bound all that is still to come. A
-- record uses up a level, and a flag a byte, which is worth all levels there are.
theorem reading_exists (bound : Nat) (type : TypeRef) (known : type.isClosed model) (bytes : List UInt8)
    (deep : bytes.length * (model.records.length + 1) + model.levels type ≤ bound) :
    ∃ count ending, Reading model type bytes count ending ∧ count ≤ bound := by
  induction bound generalizing type bytes with
  | zero =>
    cases flat : type.isFlat with
    | true => exact reading_flat flat bytes 0
    | false =>
      have some : 0 < model.levels type := Model.levels_pos flat
      omega
  | succ bound ih =>
    cases type with
    | plain which label aside => exact reading_flat rfl bytes _
    | named which name aside =>
      cases which with
      | enumeration => exact reading_flat rfl bytes _
      | object => simp [TypeRef.isClosed] at known
      | record =>
        obtain ⟨record,found⟩ := Option.isSome_iff_exists.mp known
        have each : ∀ field ∈ record.fields, ∀ unread : List UInt8, unread.length ≤ bytes.length →
            ∃ count ending, Reading model field.type unread count ending ∧ count ≤ bound ∧
              ∀ value rest, ending = .ok value rest → rest.length ≤ unread.length := by
          intro field member unread short
          have known := closed record (Model.record?_mem found) field member
          have level := Model.levels_le_rank found member (grounded name)
          have left := Nat.mul_le_mul_right (model.records.length + 1) short
          rw [Model.levels] at deep
          obtain ⟨count,ending,reading,few⟩ := ih field.type known unread (by omega)
          refine ⟨count,ending,reading,few,?_⟩
          rintro value rest rfl
          obtain ⟨taken,rfl,_⟩ := (reading.meets grounded closed known).1 value rest rfl
          simp
        obtain ⟨count,ending,fields,few⟩ := readingFields_exists each
        exact ⟨_,_,.record found fields,Nat.succ_le_succ few⟩
    | optional below label =>
      have flagged := Read.within_presence bytes (Nat.le_refl _)
      cases flag : Read.presence bytes with
      | error fault left => exact ⟨1,_,.refused flag,Nat.le_add_left 1 bound⟩
      | ok present rest =>
        cases present with
        | false => exact ⟨1,_,.absent flag,Nat.le_add_left 1 bound⟩
        | true =>
          rw [flag] at flagged
          obtain ⟨taken,rfl,rfl⟩ := flagged
          have level := model.levels_le below
          rw [List.length_append,List.length_singleton,Nat.add_mul,Model.levels] at deep
          obtain ⟨count,ending,behind,few⟩ := ih below known rest (by omega)
          exact ⟨_,_,.present flag behind,Nat.succ_le_succ few⟩

end
end

-- Whatever bytes there are, reading them comes to an end: with a value, or because the
-- bytes are at fault. Neither records that contain themselves through optionals nor records
-- without fields make it go on for longer than bytes and records allow.
theorem decoding_ends {config : Config} (read : Model.read text = .ok model) (generated : (model.generate config).result = .ok source)
    (grounded : model.Grounded) (type : TypeRef) (known : type.isClosed model) (bytes : List UInt8) :
    (∃ count ending, Reading model type bytes count ending ∧ count ≤ (bytes.length + 1) * (model.records.length + 1) ∧
      (∀ many other, Reading model type bytes many other → count = many ∧ ending = other) ∧
      (∀ depth, count ≤ depth → type.readBy model.fromOrdinal (model.recordRead depth) bytes = ending) ∧
      ∀ fault left, ending = .error fault left → fault.IsForeign) ∧
    ((∃ value rest, model.decode type bytes = .ok value rest) ∨
      ∃ fault left, model.decode type bytes = .error fault left ∧ fault.IsForeign) := by
  obtain ⟨_,declared⟩ := Model.read_meets read
  have closed := Model.closed_fields (Model.generate_closed generated declared)
  have level := model.levels_le type
  have deep : bytes.length * (model.records.length + 1) + model.levels type ≤ (bytes.length + 1) * (model.records.length + 1) := by
    rw [Nat.succ_mul]
    omega
  obtain ⟨count,ending,reading,few⟩ := reading_exists grounded closed _ type known bytes deep
  have foreign := (reading.meets grounded closed known).2
  refine ⟨⟨count,ending,reading,few,fun _ _ => reading.unique,reading.agrees,foreign⟩,?_⟩
  by_cases whole : ∃ label aside, type = .plain .bytes label aside
  · obtain ⟨label,aside,rfl⟩ := whole
    exact .inl ⟨.bytes bytes,[],rfl⟩
  · have run := reading.agrees (model.readDepth bytes.length) few
    rw [← decode_inside type (fun label aside same => whole ⟨label,aside,same⟩)] at run
    rw [run]
    cases ending with
    | ok value rest => exact .inl ⟨value,rest,rfl⟩
    | error fault left => exact .inr ⟨fault,left,rfl,foreign fault left rfl⟩

def treeText : String := "namespace wood; record Leaf \x7b \x7d record Tree \x7b Leaf leaf; Tree?? left; Tree? right; \x7d"

def treeModel : Model :=
  ⟨"wood",[],[⟨"Leaf",[]⟩,⟨"Tree",[⟨"leaf",.recordOf "Leaf"⟩,⟨"left",.optionalOf (.optionalOf (.recordOf "Tree"))⟩,
    ⟨"right",.optionalOf (.recordOf "Tree")⟩]⟩],[],[]⟩

theorem read_tree : Model.read treeText = .ok treeModel := by cbv

theorem grounded_tree : treeModel.Grounded := by
  have steps {outer inner : String} (nests : treeModel.Nests outer inner) : outer = "Tree" ∧ inner = "Leaf" := by
    obtain ⟨record,found,field,member,aside,same⟩ := nests
    have own := Model.record?_name found
    have listed := Model.record?_mem found
    simp only [treeModel,List.mem_cons,List.not_mem_nil,or_false] at listed
    rcases listed with rfl | rfl
    · cases member
    · simp only [List.mem_cons,List.not_mem_nil,or_false] at member
      rcases member with rfl | rfl | rfl
      · exact ⟨own.symm,(TypeRef.named.inj same).2.1.symm⟩
      · cases same
      · cases same
  intro name loop
  obtain ⟨_,first,_⟩ := Relation.TransGen.head'_iff.mp loop
  obtain ⟨_,_,last⟩ := Relation.TransGen.tail'_iff.mp loop
  have clash := (steps first).1.symm.trans (steps last).2
  simp at clash

theorem generated_tree : ∃ source, (treeModel.generate (Config.defaults "wood")).result = .ok source := by
  have made : (treeModel.generate (Config.defaults "wood")).result.isOk := by decide
  cases run : (treeModel.generate (Config.defaults "wood")).result with
  | ok source => exact ⟨source,rfl⟩
  | error failure => rw [run] at made; cases made

theorem decoding_ends_tree : ∃ count value, Reading treeModel (.recordOf "Tree") [1,1,0,0,0] count (.ok value []) ∧ count ≤ 18 := by
  obtain ⟨source,generated⟩ := generated_tree
  obtain ⟨⟨count,ending,reading,few,_,agrees,_⟩,_⟩ :=
    decoding_ends read_tree generated grounded_tree (.recordOf "Tree") rfl [1,1,0,0,0]
  have run := agrees 18 few
  cases run
  exact ⟨count,_,reading,few⟩

end NativeBinding
