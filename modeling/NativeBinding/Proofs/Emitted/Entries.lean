import NativeBinding.Emitted.Passing
import NativeBinding.Emitted.ForeignType
import NativeBinding.Proofs.Sequence

namespace NativeBinding.TypeRef

-- The entry points that size, write and read whole buffers are named in one way: raw bytes
-- have their own, records have theirs in their class, optionals have theirs by their ident.
structure Entries (entry : TypeRef → Supported Expr) (start raw member : String) : Prop where
  bytes : ∀ label aside, entry (.plain .bytes label aside) = .ok (.source raw)
  record : ∀ name aside, entry (.named .record name aside) = .ok (.member (.source name) member)
  optional : ∀ below label, entry (.optional below label) = (do
    let rest ← (TypeRef.optional below label).ident
    return .source (start ++ rest))
  other : ∀ type : TypeRef, type.isBuffer = false → entry type = refuse type

theorem size_entries : Entries sizeEntry "_size_" "_size_raw_bytes" "_size" := by
  refine ⟨fun _ _ => rfl,fun _ _ => rfl,fun _ _ => rfl,?_⟩
  intro type whole
  cases type with
  | plain which => cases which <;> first | rfl | cases whole
  | named which => cases which <;> first | rfl | cases whole
  | optional => cases whole

theorem write_entries : Entries writeEntry "_write_" "_write_raw_bytes" "_write" := by
  refine ⟨fun _ _ => rfl,fun _ _ => rfl,fun _ _ => rfl,?_⟩
  intro type whole
  cases type with
  | plain which => cases which <;> first | rfl | cases whole
  | named which => cases which <;> first | rfl | cases whole
  | optional => cases whole

theorem read_entries : Entries readEntry "_read_" "_read_raw_bytes" "_read" := by
  refine ⟨fun _ _ => rfl,fun _ _ => rfl,fun _ _ => rfl,?_⟩
  intro type whole
  cases type with
  | plain which => cases which <;> first | rfl | cases whole
  | named which => cases which <;> first | rfl | cases whole
  | optional => cases whole

theorem Entries.shape {entry : TypeRef → Supported Expr} {start raw member : String} (entries : Entries entry start raw member)
    {type : TypeRef} (done : entry type = .ok expr) : expr = .source raw ∨ (∃ name, expr = .member (.source name) member) ∨
      (type.isOptional ∧ ∃ ident, type.ident = .ok ident ∧ expr = .source (start ++ ident)) := by
  by_cases whole : type.isBuffer
  · cases type with
    | plain which label aside =>
      cases which with
      | bytes => rw [entries.bytes] at done; cases done; exact .inl rfl
      | _ => cases whole
    | named which name aside =>
      cases which with
      | record => rw [entries.record] at done; cases done; exact .inr (.inl ⟨name,rfl⟩)
      | _ => cases whole
    | optional below label =>
      rw [entries.optional] at done
      obtain ⟨ident,known,done⟩ := result_ok_parts done
      cases done
      exact .inr (.inr ⟨rfl,ident,known,rfl⟩)
  · rw [entries.other type (by simpa using whole)] at done
    cases done

inductive Lowered (type : TypeRef) (value : Expr) : Expr → Prop
  | buffer (size write : Expr) (whole : type.isBuffer) (sized : type.sizeEntry = .ok size)
      (written : type.writeEntry = .ok write) : Lowered type value (.apply "_lower_buffer" [value,size,write])
  | bare (scalar : type.isBuffer = false) : Lowered type value value
  | flag (scalar : type.isBuffer = false) : Lowered type value (.flag value)
  | text (scalar : type.isBuffer = false) : Lowered type value (.apply "_lower_string" [value])
  | ordinal (scalar : type.isBuffer = false) : Lowered type value (.member value "value")

inductive Lifted (type : TypeRef) (value : Expr) : Expr → Prop
  | buffer (read : Expr) (whole : type.isBuffer) (taken : type.readEntry = .ok read) :
      Lifted type value (.apply "_lift_buffer" [value,read])
  | bare (scalar : type.isBuffer = false) : Lifted type value value
  | nonzero (scalar : type.isBuffer = false) : Lifted type value (.nonzero value)
  | text (scalar : type.isBuffer = false) : Lifted type value (.apply "_lift_string" [value])
  | ordinal (name : String) (scalar : type.isBuffer = false) :
      Lifted type value (.method (.source name) "_from_ordinal" [value])

variable {type : TypeRef} {value expr : Expr}

theorem buffer_lowered (whole : type.isBuffer) (shape : type.lower value = (do
      let size ← type.sizeEntry
      let write ← type.writeEntry
      return .apply "_lower_buffer" [value,size,write])) (done : type.lower value = .ok expr) : type.Lowered value expr := by
  rw [shape] at done
  obtain ⟨size,sized,done⟩ := result_ok_parts done
  obtain ⟨write,written,done⟩ := result_ok_parts done
  cases done
  exact .buffer size write whole sized written

theorem buffer_lifted (whole : type.isBuffer) (shape : type.lift value = (do
      let read ← type.readEntry
      return .apply "_lift_buffer" [value,read])) (done : type.lift value = .ok expr) : type.Lifted value expr := by
  rw [shape] at done
  obtain ⟨read,taken,done⟩ := result_ok_parts done
  cases done
  exact .buffer read whole taken

theorem lower_lowered (done : type.lower value = .ok expr) : type.Lowered value expr := by
  cases type with
  | plain which =>
    cases which with
    | boolean => cases done; exact .flag rfl
    | string => cases done; exact .text rfl
    | bytes => exact buffer_lowered rfl rfl done
    | _ => cases done; exact .bare rfl
  | named which =>
    cases which with
    | enumeration => cases done; exact .ordinal rfl
    | record => exact buffer_lowered rfl rfl done
    | object => cases done
  | optional => exact buffer_lowered rfl rfl done

theorem lift_lifted (done : type.lift value = .ok expr) : type.Lifted value expr := by
  cases type with
  | plain which =>
    cases which with
    | boolean => cases done; exact .nonzero rfl
    | string => cases done; exact .text rfl
    | bytes => exact buffer_lifted rfl rfl done
    | _ => cases done; exact .bare rfl
  | named which name =>
    cases which with
    | enumeration => cases done; exact .ordinal name rfl
    | record => exact buffer_lifted rfl rfl done
    | object => cases done
  | optional => exact buffer_lifted rfl rfl done

end NativeBinding.TypeRef
