import NativeBinding.Proofs.Emitted.Convention
import NativeBinding.Proofs.Text.Solid

namespace NativeBinding

def IsCallText (callee text : String) : Prop := ∃ inside, text = callee ++ "(" ++ inside ++ ")"

theorem Expr.apply_callText (callee : String) (arguments : List Expr) : IsCallText callee (apply callee arguments).text :=
  ⟨", ".intercalate (texts arguments),rfl⟩

theorem IsCallText.front (call : IsCallText callee text) (without : '(' ∉ callee.toList) :
    '(' ∈ text.toList ∧ text.toList.takeWhile (fun c => c != '(') = callee.toList := by
  obtain ⟨inside,rfl⟩ := call
  have stop : ∀ c ∈ callee.toList, (c != '(') = true := by
    intro c member
    refine bne_iff_ne.mpr ?_
    rintro rfl
    exact without member
  simp only [String.toList_append]
  refine ⟨by simp,?_⟩
  rw [List.append_assoc,List.append_assoc,List.takeWhile_append_of_pos stop]
  simp

theorem not_callText_free (without : '(' ∉ text.toList) (plain : '(' ∉ callee.toList) : ¬ IsCallText callee text :=
  fun call => without (call.front plain).1

theorem not_callText_other (front : text.toList.takeWhile (fun c => c != '(') ≠ callee.toList) (plain : '(' ∉ callee.toList) :
    ¬ IsCallText callee text := fun call => front (call.front plain).2

theorem identifier_free {name : String} (identifier : Text.isIdentifier name.toList) : '(' ∉ name.toList :=
  (Text.isIdentifier_solid identifier).not_mem (by decide)

namespace TypeRef

-- Nothing is made of a type that comes down to an object, and the object is to blame.
structure Refused (type : TypeRef) : Prop where
  foreign : type.foreign = refuse type.core
  host : type.host = refuse type.core
  lower : ∀ value, type.lower value = refuse type.core
  lift : ∀ value, type.lift value = refuse type.core
  ident : type.ident = refuse type.core
  sizing : ∀ value, type.sizing value = refuse type.core
  writing : ∀ value buffer, type.writing value buffer = refuse type.core
  reading : ∀ buffer, type.reading buffer = refuse type.core
  sizeEntry : type.sizeEntry = refuse type.core
  writeEntry : type.writeEntry = refuse type.core
  readEntry : type.readEntry = refuse type.core
  helpers : type.isOptional → type.helpers = refuse type.core

-- Everything is made of any other type, but for the entries of what is no buffer. What is
-- one is seen in the same way from what is declared, from both directions in which a value
-- called by a name passes, and from the entries.
structure Crosses (type : TypeRef) (name : String) : Prop where
  host : ∃ shown, type.host = .ok shown
  ident : ∃ ident, type.ident = .ok ident
  sizing : ∀ value, ∃ expr, type.sizing value = .ok expr
  writing : ∀ value buffer, ∃ expr, type.writing value buffer = .ok expr
  reading : ∀ buffer, ∃ expr, type.reading buffer = .ok expr
  helpers : type.isOptional → ∃ helpers, type.helpers = .ok helpers
  foreign : ∃ declared, type.foreign = .ok declared ∧ (declared.text = "_ByteBuffer" ↔ type.isBuffer)
  lowers : ∀ value, ∃ expr, type.lower value = .ok expr
  lifts : ∀ value, ∃ expr, type.lift value = .ok expr
  encodes : ∀ expr, type.lower (.source name) = .ok expr → (expr.Encodes (.source name) ↔ type.isBuffer) ∧
    (IsCallText "_lower_buffer" expr.text ↔ type.isBuffer)
  decodes : ∀ expr, type.lift (.source name) = .ok expr → (expr.Decodes (.source name) ↔ type.isBuffer) ∧
    ((∀ own ∈ type.mentioned, Text.isIdentifier own.toList) → (IsCallText "_lift_buffer" expr.text ↔ type.isBuffer))
  sizeEntry : (∃ entry, type.sizeEntry = .ok entry) ↔ type.isBuffer
  writeEntry : (∃ entry, type.writeEntry = .ok entry) ↔ type.isBuffer
  readEntry : (∃ entry, type.readEntry = .ok entry) ↔ type.isBuffer

variable {type : TypeRef} {name : String} {expr : Expr}

theorem byteBuffer_text {declared : ForeignType} : declared.text = "_ByteBuffer" ↔ declared = .byteBuffer := by
  cases declared <;> decide

theorem Lowered.callText (lowered : type.Lowered (.source name) expr) (plain : Text.isIdentifier name.toList) :
    IsCallText "_lower_buffer" expr.text ↔ type.isBuffer := by
  have free := identifier_free plain
  cases lowered with
  | buffer size write whole => exact iff_of_true (Expr.apply_callText _ _) whole
  | bare scalar => exact iff_of_false (not_callText_free free (by decide)) (by simp [scalar])
  | flag scalar => exact iff_of_false (not_callText_other (by simp [Expr.text]) (by decide)) (by simp [scalar])
  | text scalar => exact iff_of_false (not_callText_other (by simp [Expr.text,Expr.apply]) (by decide)) (by simp [scalar])
  | ordinal scalar => exact iff_of_false (not_callText_free (by simp [Expr.text,free]) (by decide)) (by simp [scalar])

theorem lift_mentioned (done : type.lift (.source name) = .ok (.method (.source own) "_from_ordinal" [.source name])) :
    own ∈ type.mentioned := by
  cases type with
  | plain which => cases which <;> cases done
  | named which name =>
    cases which with
    | enumeration => cases done; exact List.mem_cons_self
    | record => cases done
    | object => cases done
  | optional below label =>
    obtain ⟨read,_,done⟩ := result_ok_parts done
    cases done

theorem Lifted.callText (lifted : type.Lifted (.source name) expr) (plain : Text.isIdentifier name.toList)
    (owned : ∀ own, expr = .method (.source own) "_from_ordinal" [.source name] → '(' ∉ own.toList) :
    IsCallText "_lift_buffer" expr.text ↔ type.isBuffer := by
  have free := identifier_free plain
  cases lifted with
  | buffer read whole => exact iff_of_true (Expr.apply_callText _ _) whole
  | bare scalar => exact iff_of_false (not_callText_free free (by decide)) (by simp [scalar])
  | nonzero scalar => exact iff_of_false (not_callText_other (by simp [Expr.text]) (by decide)) (by simp [scalar])
  | text scalar => exact iff_of_false (not_callText_other (by simp [Expr.text,Expr.apply]) (by decide)) (by simp [scalar])
  | ordinal own scalar =>
    have stop : ∀ c ∈ own.toList, (c != '(') = true := fun c member =>
      bne_iff_ne.mpr (fun same => owned own rfl (same ▸ member))
    have dotted : (Expr.method (.source own) "_from_ordinal" [.source name]).text.toList.takeWhile (fun c => c != '(') =
        own.toList ++ "._from_ordinal".toList := by
      simp [Expr.text,Expr.method,List.takeWhile_append_of_pos stop]
    refine iff_of_false (not_callText_other ?_ (by decide)) (by simp [scalar])
    rw [dotted]
    intro same
    have dot : '.' ∈ "_lift_buffer".toList := same ▸ List.mem_append_right _ (by decide)
    exact absurd dot (by decide)

section
variable {entry : TypeRef → Supported Expr} {start raw member : String} (entries : Entries entry start raw member)
  (follows : type.isBuffer → (entry type).Follows type.refusal?)
include entries follows

theorem Entries.made (fine : type.refusal? = none) : (∃ expr, entry type = .ok expr) ↔ type.isBuffer := by
  constructor
  · rintro ⟨expr,done⟩
    by_contra scalar
    rw [entries.other type (by simpa using scalar)] at done
    cases done
  · intro whole
    exact (Supported.follows_ok_iff (follows whole)).mpr fine

theorem Entries.refused (object : type.core.isObject) : entry type = refuse type.core := by
  by_cases whole : type.isBuffer
  · exact Supported.follows_some (follows whole) (if_pos object)
  · rw [entries.other type (by simpa using whole)]
    cases type with
    | plain => rfl
    | named => rfl
    | optional => exact absurd rfl whole

end

theorem refused (object : type.core.isObject) : type.Refused := by
  have blamed {α : Type} {result : Supported α} (follows : result.Follows type.refusal?) : result = refuse type.core :=
    Supported.follows_some follows (if_pos object)
  constructor
  case foreign => exact blamed (foreign_follows type)
  case host => exact blamed (host_follows type)
  case lower => exact fun value => blamed (lower_follows value type)
  case lift => exact fun value => blamed (lift_follows value type)
  case ident => exact blamed (ident_follows type)
  case sizing => exact fun value => blamed (sizing_follows value type)
  case writing => exact fun value buffer => blamed (writing_follows value buffer type)
  case reading => exact fun buffer => blamed (reading_follows buffer type)
  case sizeEntry => exact size_entries.refused sizeEntry_follows object
  case writeEntry => exact write_entries.refused writeEntry_follows object
  case readEntry => exact read_entries.refused readEntry_follows object
  case helpers =>
    intro optional
    cases type with
    | plain => cases optional
    | named => cases optional
    | optional below label => exact blamed (optionalHelpers_follows below label)

theorem crosses (fine : ¬ type.core.isObject) (plain : Text.isIdentifier name.toList) : type.Crosses name := by
  have none : type.refusal? = none := if_neg fine
  have made {α : Type} {result : Supported α} (follows : result.Follows type.refusal?) : ∃ value, result = .ok value :=
    (Supported.follows_ok_iff follows).mpr none
  constructor
  case host => exact made (host_follows type)
  case ident => exact made (ident_follows type)
  case sizing => exact fun value => made (sizing_follows value type)
  case writing => exact fun value buffer => made (writing_follows value buffer type)
  case reading => exact fun buffer => made (reading_follows buffer type)
  case helpers => exact fun _ => helpers_follows none
  case lowers => exact fun value => made (lower_follows value type)
  case lifts => exact fun value => made (lift_follows value type)
  case foreign =>
    obtain ⟨declared,done⟩ := made (foreign_follows type)
    exact ⟨declared,done,byteBuffer_text.trans (foreign_buffer done)⟩
  case encodes =>
    intro expr done
    have lowered := lower_lowered done
    exact ⟨lowered.encodes,lowered.callText plain⟩
  case decodes =>
    intro expr done
    have lifted := lift_lifted done
    refine ⟨lifted.decodes,fun names => lifted.callText plain ?_⟩
    rintro own rfl
    exact identifier_free (names own (lift_mentioned done))
  case sizeEntry => exact size_entries.made sizeEntry_follows none
  case writeEntry => exact write_entries.made writeEntry_follows none
  case readEntry => exact read_entries.made readEntry_follows none

-- All functions on types take the same types, blame the same one for what they do not
-- take, and tell buffers from scalars in the same way.
theorem refused_or_crosses (type : TypeRef) (name : String) (plain : Text.isIdentifier name.toList) :
    if type.core.isObject then type.Refused else type.Crosses name := by
  split
  · rename_i object
    exact refused object
  · rename_i fine
    exact crosses fine plain

theorem refused_or_crosses_nested :
    let object : TypeRef := .named .object "O" (some (.ofPlain .u32))
    let blamed : TypeRef := .optional (.optional object (some "label")) none
    let shade : TypeRef := .optional (.named .enumeration "Shade" (some object)) (some "label")
    Text.isIdentifier "shade".toList ∧ blamed.Refused ∧ blamed.core = object ∧ shade.Crosses "shade" := by
  intro object blamed shade
  have plain : Text.isIdentifier "shade".toList := by decide
  exact ⟨plain,refused_or_crosses blamed "shade" plain,rfl,refused_or_crosses shade "shade" plain⟩

end TypeRef
end NativeBinding
