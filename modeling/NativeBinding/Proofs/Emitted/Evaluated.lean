import NativeBinding.Proofs.Emitted.Settling

namespace NativeBinding
open Wire

namespace Expr
variable {readers : Readers}

theorem read_called (apart : name ≠ "Some") : (Expr.apply name [.source "buf"]).read readers = readers.call name := by
  simp only [Expr.apply,Expr.read]

theorem read_method (name : String) : (Expr.method (.source name) "_read" [.source "buf"]).read readers = readers.method name := by
  simp only [Expr.method,Expr.read]

theorem read_ordinal (name : String) : (Expr.method (.source name) "_from_ordinal" [argument]).read readers = (do
    let number ← argument.read readers
    Read.ofResult (readers.ordinal name number)) := by
  simp only [Expr.method,Expr.read]

end Expr

namespace TypeRef

-- What has the same size whatever it is is not looked at for it.
def sizeGiven (nested : Value → Except Fault Nat) (type : TypeRef) (given : Except Fault Value) : Except Fault Nat :=
  match type.fixedSize? with
  | some size => .ok size
  | none => do
    let value ← given
    type.sizeBy nested value

theorem sizeGiven_payload (nested : Value → Except Fault Nat) (below : TypeRef) (value : Value) :
    below.sizeGiven nested (value.payload below) = (do
      let payload ← value.payload below
      below.sizeBy nested payload) := by
  unfold sizeGiven
  split
  · rename_i size fixed
    have flat : below.isOptional = false := by
      cases below with
      | optional => cases fixed
      | _ => rfl
    rw [Value.payload,flat]
    exact (sizeBy_fixed fixed).symm
  · rfl

end TypeRef

namespace Rendered
variable {rendered : Rendered} {model : Model} {name : String} {made : OptionalHelpers}

section
variable (found : rendered.helpers? "_size_" name = some made) (unknown : name ∉ "buf" :: importedNames ++ supportNames)
  (depth : Nat)
include found unknown

theorem sizers_absent : (rendered.sizers (depth + 1)).call name .null = .ok 1 := by
  simp only [sizers]
  split
  · exact absurd (by decide) unknown
  · exact absurd (by decide) unknown
  · exact absurd (by decide) unknown
  · rw [found]

theorem sizers_present (present : value ≠ .null) : (rendered.sizers (depth + 1)).call name value = (do
    let size ← made.size.size (rendered.sizers depth) [("value",value)]
    return 1 + size) := by
  simp only [sizers]
  split
  · exact absurd (by decide) unknown
  · exact absurd (by decide) unknown
  · exact absurd (by decide) unknown
  · rw [found]

end

section
variable (renders : rendered.Renders model) {nested : Value → Except Fault Nat} {limit : Nat}
  (records : ∀ self : Value, self.recordDepth ≤ limit → Settles (fun depth => (rendered.sizers depth).method self) (nested self))
include renders records

-- The induction is on the type: a layer calls the helper of the layer below it.
theorem sizing_settles (type : TypeRef) (collected : type.IsCollected model) {argument : Expr} {locals : Locals}
    (done : type.sizing argument = .ok expr) (shallow : ∀ value, argument.value locals = .ok value → value.recordDepth ≤ limit) :
    Settles (fun depth => expr.size (rendered.sizers depth) locals) (type.sizeGiven nested (argument.value locals)) := by
  induction type generalizing argument locals expr with
  | plain which =>
    cases which with
    | string => cases done; exact .given fun value _ => .entered (.fixed value.textSize)
    | bytes => cases done; exact .given fun value _ => .entered (.fixed _)
    | _ => cases done; exact .fixed _
  | named which =>
    cases which with
    | enumeration => cases done; exact .fixed _
    | record => cases done; exact .given fun value given => records value (shallow value given)
    | object => cases done
  | optional below label ih =>
    have member : .optional below label ∈ model.optionalTypes := collected _ (List.mem_append_right _ List.mem_cons_self)
    obtain ⟨made,shown,found⟩ := renders.helpers_found member
    obtain ⟨own,sized,_⟩ := TypeRef.helpers_parts shown
    obtain ⟨found,unknown⟩ := found "_size_" (by decide)
    cases (result_ok own).symm.trans done
    refine .given fun value given => .entered ?_
    by_cases present : value = .null
    · subst present
      simp only [sizers_absent found unknown]
      exact .fixed _
    · simp only [sizers_present found unknown _ present]
      rw [TypeRef.sizeBy_present present]
      have inner := ih (fun layer inside => collected layer (List.mem_append_left _ inside)) sized
        (Expr.payload_shallow (shallow value given))
      rw [Expr.payload_value,TypeRef.sizeGiven_payload] at inner
      have counted := inner.map fun result => do
        let size ← result
        return 1 + size
      simpa only [bind_assoc] using counted

theorem sumSizes_settles {fields : List Field} {members : List RecordMember}
    (made : List.Forall₂ (fun field item => Record.member field = .ok item) fields members)
    (collected : ∀ field ∈ fields, field.type.IsCollected model)
    (shallow : ∀ field ∈ fields, ∀ value, self.partOf field.name = .ok value → value.recordDepth ≤ limit) :
    Settles (fun depth => sumSizes (Expr.size (rendered.sizers depth) [("self",self)]) members) (sizeFields nested self fields) := by
  induction made with
  | nil => exact .fixed _
  | @cons field item fields members one _ ih =>
    obtain ⟨_,sized,_⟩ := Record.member_parts one
    obtain ⟨own,others⟩ := List.forall_mem_cons.mp collected
    obtain ⟨first,later⟩ := List.forall_mem_cons.mp shallow
    have shallow : ∀ value, (Expr.member (.source "self") field.name).value [("self",self)] = .ok value →
        value.recordDepth ≤ limit := first
    have size := sizing_settles renders records field.type own sized shallow
    exact size.both (ih others later) fun one rest => do
      let size ← one
      let sizes ← rest
      return size + sizes

end

section
variable (renders : rendered.Renders model)
include renders

theorem class_sizes (limit : Nat) (found : model.record? name = some record) (made : record.emitted = .ok cls)
    (records : ∀ self : Value, self.recordDepth ≤ limit →
      Settles (fun depth => (rendered.sizers depth).method self) (model.recordSize limit self))
    (shallow : ∀ field ∈ record.fields, ∀ value, self.partOf field.name = .ok value → value.recordDepth ≤ limit) :
    Settles (fun depth => classSize (rendered.sizers depth) cls self) (sizeFields (model.recordSize limit) self record.fields) := by
  have members := (Record.emitted_parts made).2
  exact sumSizes_settles renders records members (renders.fields_collected found) shallow

-- The class that a record has by name is made for the record that it is by name.
theorem method_sizes (limit : Nat) (self : Value) (shallow : self.recordDepth ≤ limit) :
    Settles (fun depth => (rendered.sizers depth).method self) (model.recordSize limit self) := by
  induction limit generalizing self with
  | zero =>
    cases self with
    | record => cases shallow
    | _ => exact .entered (.fixed _)
  | succ limit ih =>
    refine .entered ?_
    cases self with
    | record name rows =>
      simp only [sizers,Model.recordSize]
      rcases renders.class_found name with ⟨missing,absent⟩ | ⟨record,cls,found,known,made⟩
      · rw [missing,absent]
        exact .fixed _
      · rw [found,known]
        refine class_sizes renders limit found made ih fun field _ value part => ?_
        exact Nat.le_of_lt_succ ((Value.field_depth part).trans_le shallow)
    | _ => exact .fixed _

end

section
variable (found : rendered.helpers? "_write_" name = some made) (unknown : name ∉ "buf" :: importedNames ++ supportNames)
  (depth : Nat)
include found unknown

theorem writers_absent : (rendered.writers (depth + 1)).call name .null = Write.truth (.bool false) := by
  simp only [writers]
  split
  · exact absurd (by decide) unknown
  · rw [found]

theorem writers_present (present : value ≠ .null) : (rendered.writers (depth + 1)).call name value = (do
    Write.truth (.bool true)
    made.write.write (rendered.writers depth) [("value",value)]) := by
  simp only [writers]
  split
  · exact absurd (by decide) unknown
  · rw [found]

end

section
variable (renders : rendered.Renders model) {nested : Value → Write Unit} {limit : Nat}
  (records : ∀ self : Value, self.recordDepth ≤ limit → Settles (fun depth => (rendered.writers depth).method self) (nested self))
include renders records

theorem writing_settles (type : TypeRef) (collected : type.IsCollected model) {argument : Expr} {locals : Locals}
    (done : type.writing argument (.source "buf") = .ok expr)
    (shallow : ∀ value, argument.value locals = .ok value → value.recordDepth ≤ limit) :
    Settles (fun depth => expr.write (rendered.writers depth) locals) (do
      let value ← Write.ofResult (argument.value locals)
      type.writeBy nested value) := by
  induction type generalizing argument locals expr with
  | plain which => cases which <;> cases done <;> exact .fixed _
  | named which =>
    cases which with
    | enumeration =>
      cases done
      have ordinal (given : Except Fault Value) : (do
          let part ← Write.ofResult (given >>= fun value => value.partOf "value")
          Write.i32 part) = (do
          let value ← Write.ofResult given
          let part ← Write.ofResult (value.partOf "value")
          Write.i32 part) := by
        cases given <;> rfl
      simp only [TypeRef.writeBy]
      rw [← ordinal]
      exact .fixed _
    | record => cases done; exact .handed fun value given => records value (shallow value given)
    | object => cases done
  | optional below label ih =>
    have member : .optional below label ∈ model.optionalTypes := collected _ (List.mem_append_right _ List.mem_cons_self)
    obtain ⟨made,shown,found⟩ := renders.helpers_found member
    obtain ⟨own,_,written,_⟩ := TypeRef.helpers_parts shown
    obtain ⟨found,unknown⟩ := found "_write_" (by decide)
    cases (result_ok own).symm.trans done
    refine .handed fun value given => .entered ?_
    by_cases present : value = .null
    · subst present
      simp only [writers_absent found unknown]
      exact .fixed _
    · simp only [writers_present found unknown _ present]
      rw [TypeRef.writeBy_present present]
      have inner := ih (fun layer inside => collected layer (List.mem_append_left _ inside)) written
        (Expr.payload_shallow (shallow value given))
      rw [Expr.payload_value] at inner
      exact inner.map fun rest => do
        Write.truth (.bool true)
        rest

theorem writeAll_settles {fields : List Field} {members : List RecordMember}
    (made : List.Forall₂ (fun field item => Record.member field = .ok item) fields members)
    (collected : ∀ field ∈ fields, field.type.IsCollected model)
    (shallow : ∀ field ∈ fields, ∀ value, self.partOf field.name = .ok value → value.recordDepth ≤ limit) :
    Settles (fun depth => writeAll (Expr.write (rendered.writers depth) [("self",self)]) members) (writeFields nested self fields) := by
  induction made with
  | nil => exact .fixed _
  | @cons field item fields members one _ ih =>
    obtain ⟨_,_,written,_⟩ := Record.member_parts one
    obtain ⟨own,others⟩ := List.forall_mem_cons.mp collected
    obtain ⟨first,later⟩ := List.forall_mem_cons.mp shallow
    have shallow : ∀ value, (Expr.member (.source "self") field.name).value [("self",self)] = .ok value →
        value.recordDepth ≤ limit := first
    have write := writing_settles renders records field.type own written shallow
    exact write.both (ih others later) fun one rest => do
      one
      rest

end

section
variable (renders : rendered.Renders model)
include renders

theorem class_writes (limit : Nat) (found : model.record? name = some record) (made : record.emitted = .ok cls)
    (records : ∀ self : Value, self.recordDepth ≤ limit →
      Settles (fun depth => (rendered.writers depth).method self) (model.recordWrite limit self))
    (shallow : ∀ field ∈ record.fields, ∀ value, self.partOf field.name = .ok value → value.recordDepth ≤ limit) :
    Settles (fun depth => classWrite (rendered.writers depth) cls self) (writeFields (model.recordWrite limit) self record.fields) := by
  have members := (Record.emitted_parts made).2
  exact writeAll_settles renders records members (renders.fields_collected found) shallow

theorem method_writes (limit : Nat) (self : Value) (shallow : self.recordDepth ≤ limit) :
    Settles (fun depth => (rendered.writers depth).method self) (model.recordWrite limit self) := by
  induction limit generalizing self with
  | zero =>
    cases self with
    | record => cases shallow
    | _ => exact .entered (.fixed _)
  | succ limit ih =>
    refine .entered ?_
    cases self with
    | record name rows =>
      simp only [writers,Model.recordWrite]
      rcases renders.class_found name with ⟨missing,absent⟩ | ⟨record,cls,found,known,made⟩
      · rw [missing,absent]
        exact .fixed _
      · rw [found,known]
        refine class_writes renders limit found made ih fun field _ value part => ?_
        exact Nat.le_of_lt_succ ((Value.field_depth part).trans_le shallow)
    | _ => exact .fixed _

end

theorem readers_ordinal (depth : Nat) : (rendered.readers depth).ordinal = rendered.ordinal := by
  cases depth <;> rfl

theorem readers_called (found : rendered.helpers? "_read_" name = some made)
    (unknown : name ∉ "buf" :: importedNames ++ supportNames) (depth : Nat) :
    (rendered.readers (depth + 1)).call name = (do
      let present ← Read.presence
      if present then made.read.read (rendered.readers depth) else return .null) := by
  simp only [readers]
  split
  · exact absurd (by decide) unknown
  · rw [found]

theorem helper_not_some (own : (TypeRef.optional below label).ident = .ok ident) : "_read_" ++ ident ≠ "Some" := by
  have unknown : "_read_" ++ ident ∉ "buf" :: importedNames ++ supportNames :=
    helperName_unknown (by decide) (TypeRef.optional_letters rfl own)
  intro same
  rw [same] at unknown
  exact unknown (by decide)

theorem wrapRead_run (below : TypeRef) (read : Expr) (readers : Readers) (bytes : List UInt8) :
    (below.wrapRead read).read readers bytes =
      Read.Ending.map (fun value => if below.isOptional then .wrapped value else value) (read.read readers bytes) := by
  unfold TypeRef.wrapRead
  split
  · exact Read.map_run _ _ _
  · cases read.read readers bytes <;> rfl

section
variable (renders : rendered.Renders model)
include renders

theorem optional_reads (member : .optional below label ∈ model.optionalTypes)
    (done : (TypeRef.optional below label).reading (.source "buf") = .ok expr) :
    ∃ read, below.reading (.source "buf") = .ok read ∧ ∀ depth, expr.read (rendered.readers (depth + 1)) = (do
      let present ← Read.presence
      if present then (below.wrapRead read).read (rendered.readers depth) else return .null) := by
  obtain ⟨made,shown,found⟩ := renders.helpers_found member
  obtain ⟨own,_,_,read,taken,wrapped⟩ := TypeRef.helpers_parts shown
  obtain ⟨found,unknown⟩ := found "_read_" (by decide)
  cases (result_ok own).symm.trans done
  refine ⟨read,taken,fun depth => ?_⟩
  rw [Expr.read_called (helper_not_some own),readers_called found unknown,wrapped]

theorem record_reads (found : model.record? name = some record) : ∃ cls, record.emitted = .ok cls ∧
    ∀ depth bytes, (rendered.readers (depth + 1)).method name bytes =
      Read.Ending.map (Value.record name) (readAll (Expr.read (rendered.readers depth)) cls.members bytes) := by
  rcases renders.class_found name with ⟨missing,_⟩ | ⟨record',cls,found',known,made⟩
  · cases found.symm.trans missing
  · cases found.symm.trans found'
    refine ⟨cls,made,fun depth bytes => ?_⟩
    simp only [readers,known]
    rw [Read.map_run,(Record.emitted_parts made).1,Model.record?_name found]

theorem flat_reads {type : TypeRef} (flat : type.isFlat) (nested : String → Read Value) (done : type.reading (.source "buf") = .ok expr)
    (depth : Nat) : expr.read (rendered.readers depth) = type.readBy model.fromOrdinal nested := by
  cases type with
  | plain which => cases which <;> cases done <;> rfl
  | named which =>
    cases which with
    | enumeration =>
      cases done
      rw [Expr.read_ordinal,readers_ordinal,renders.ordinal]
      exact bind_assoc Read.i32 (fun number => pure (Value.int number)) _
    | record => cases flat
    | object => cases done
  | optional => cases flat

end

mutual
theorem reading_settles (renders : rendered.Renders model) {type : TypeRef} {bytes : List UInt8} {count : Nat}
    {ending : Read.Ending Value} {expr : Expr} : Reading model type bytes count ending → type.IsCollected model →
    type.reading (.source "buf") = .ok expr → Settles (fun depth => expr.read (rendered.readers depth) bytes) ending
  | .flat flat nested => fun _ done => by
    simp only [flat_reads renders flat nested done]
    exact .fixed _
  | .record found fields => fun _ done => by
    cases done
    obtain ⟨cls,made,run⟩ := record_reads renders found
    refine .entered ?_
    simp only [Expr.read_method,run]
    have members := (Record.emitted_parts made).2
    exact (readAll_settles renders fields members (renders.fields_collected found)).map (Read.Ending.map (Value.record _))
  | .refused flag => fun collected done => by
    obtain ⟨read,_,run⟩ := optional_reads renders (collected _ (List.mem_append_right _ List.mem_cons_self)) done
    refine .entered ?_
    simp only [run,seq_error flag]
    exact .fixed _
  | .absent flag => fun collected done => by
    obtain ⟨read,_,run⟩ := optional_reads renders (collected _ (List.mem_append_right _ List.mem_cons_self)) done
    refine .entered ?_
    simp only [run,seq_ok flag]
    exact .fixed _
  | .present flag behind => fun collected done => by
    obtain ⟨read,taken,run⟩ := optional_reads renders (collected _ (List.mem_append_right _ List.mem_cons_self)) done
    refine .entered ?_
    simp only [run,seq_ok flag,if_true,wrapRead_run]
    exact (reading_settles renders behind (fun layer inside => collected layer (List.mem_append_left _ inside)) taken).map _

theorem readAll_settles (renders : rendered.Renders model) {fields : List Field} {members : List RecordMember}
    {bytes : List UInt8} {count : Nat} {ending : Read.Ending (List (String × Value))} : ReadingFields model fields bytes count ending →
    List.Forall₂ (fun field item => Record.member field = .ok item) fields members →
    (∀ field ∈ fields, field.type.IsCollected model) →
    Settles (fun depth => readAll (Expr.read (rendered.readers depth)) members bytes) ending
  | .done => fun made _ => by
    cases made
    exact .fixed _
  | .failed first => fun made collected => by
    obtain ⟨own,_⟩ := List.forall_mem_cons.mp collected
    cases made with
    | cons one others =>
      obtain ⟨_,_,_,taken⟩ := Record.member_parts one
      exact (reading_settles renders first own taken).error
  | .next first others => fun made collected => by
    obtain ⟨own,later⟩ := List.forall_mem_cons.mp collected
    cases made with
    | cons one members =>
      obtain ⟨named,_,_,taken⟩ := Record.member_parts one
      refine (reading_settles renders first own taken).ok ?_
      simp only [Read.map_run,named]
      exact (readAll_settles renders others members later).map _
end

-- The bytes and the records bound how deep a reading is nested.
theorem decode_reading (grounded : model.Grounded) (closed : model.ClosedFields) {type : TypeRef} (known : type.isClosed model)
    (inside : ∀ label aside, type ≠ .plain .bytes label aside) (bytes : List UInt8) :
    ∃ count, Reading model type bytes count (model.decode type bytes) := by
  have level := model.levels_le type
  have deep : bytes.length * (model.records.length + 1) + model.levels type ≤ model.readDepth bytes.length := by
    rw [Model.readDepth,Nat.succ_mul]
    omega
  obtain ⟨count,ending,reading,few⟩ := reading_exists grounded closed _ type known bytes deep
  rw [decode_inside type inside,reading.agrees _ few]
  exact ⟨count,reading⟩

section
variable (renders : rendered.Renders model) {type : TypeRef} (collected : type.IsCollected model) (whole : type.isBuffer)
include renders collected whole

-- A record is entered by its class, whatever the value is that is handed over.
theorem sizeEntry_settles (done : type.sizeEntry = .ok entry) (value : Value) :
    Settles (fun depth => rendered.sizeEntry depth entry value) (model.encodedSize type value) := by
  cases type with
  | plain which =>
    cases which with
    | bytes => cases done; exact .entered (.fixed _)
    | _ => cases whole
  | named which name aside =>
    cases which with
    | record =>
      cases done
      simp only [sizeEntry,Model.encodedSize]
      rcases renders.class_found name with ⟨missing,absent⟩ | ⟨record,cls,found,known,made⟩
      · rw [missing,absent]
        exact .fixed _
      · rw [found,known]
        exact class_sizes renders _ found made (method_sizes renders _) fun field _ part known => Value.partOf_depth known
    | _ => cases whole
  | optional below label =>
    obtain ⟨ident,own,done⟩ := result_ok_parts done
    cases done
    have records := method_sizes renders value.recordDepth
    exact sizing_settles renders records _ collected (result_ok own) (Expr.value_shallow value)

theorem writeEntry_settles (done : type.writeEntry = .ok entry) (value : Value) :
    Settles (fun depth => rendered.writeEntry depth entry value) (model.encode type value) := by
  cases type with
  | plain which =>
    cases which with
    | bytes => cases done; exact .entered (.fixed _)
    | _ => cases whole
  | named which name aside =>
    cases which with
    | record =>
      cases done
      simp only [writeEntry,Model.encode]
      rcases renders.class_found name with ⟨missing,absent⟩ | ⟨record,cls,found,known,made⟩
      · rw [missing,absent]
        exact .fixed _
      · rw [found,known]
        exact class_writes renders _ found made (method_writes renders _) fun field _ part known => Value.partOf_depth known
    | _ => cases whole
  | optional below label =>
    obtain ⟨ident,own,done⟩ := result_ok_parts done
    cases done
    have records := method_writes renders value.recordDepth
    exact writing_settles renders records _ collected (result_ok own) (Expr.value_shallow value)

theorem readEntry_settles (grounded : model.Grounded) (closed : model.ClosedFields) (known : type.isClosed model)
    (done : type.readEntry = .ok entry) (bytes : List UInt8) :
    Settles (fun depth => rendered.readEntry depth entry bytes) (model.decode type bytes) := by
  cases type with
  | plain which =>
    cases which with
    | bytes => cases done; exact .entered (.fixed _)
    | _ => cases whole
  | named which name aside =>
    cases which with
    | record =>
      cases done
      obtain ⟨_,reading⟩ := decode_reading grounded closed known nofun bytes
      have settles := reading_settles renders reading collected rfl
      simp only [Expr.read_method] at settles
      exact settles
    | _ => cases whole
  | optional below label =>
    obtain ⟨ident,own,done⟩ := result_ok_parts done
    cases done
    obtain ⟨_,reading⟩ := decode_reading grounded closed known nofun bytes
    have settles := reading_settles renders reading collected (result_ok own)
    simp only [Expr.read_called (helper_not_some own)] at settles
    exact settles

end

end Rendered
end NativeBinding
