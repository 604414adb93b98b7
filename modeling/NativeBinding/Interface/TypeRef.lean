namespace NativeBinding

inductive Plain
  | boolean | u32 | u64 | float | double | string | bytes
deriving DecidableEq,Repr

inductive Named
  | enumeration | record | object
deriving DecidableEq,Repr

inductive Kind
  | plain (which : Plain)
  | named (which : Named)
  | optional
deriving DecidableEq,Repr

def Plain.word : Plain → String
  | .boolean => "Boolean"
  | .u32 => "U32"
  | .u64 => "U64"
  | .float => "Float"
  | .double => "Double"
  | .string => "String"
  | .bytes => "Bytes"

def Named.word : Named → String
  | .enumeration => "Enum"
  | .record => "Record"
  | .object => "Object"

def Kind.word : Kind → String
  | .plain which => which.word
  | .named which => which.word
  | .optional => "Optional"

def Kind.all : List Kind :=
  [.plain .boolean,.plain .u32,.plain .u64,.plain .float,.plain .double,.plain .string,.plain .bytes,
    .named .enumeration,.named .record,.optional,.named .object]

def Kind.ofWord? (word : String) : Option Kind := Kind.all.find? (fun kind => kind.word == word)

theorem Kind.ofWord?_word (kind : Kind) : Kind.ofWord? kind.word = some kind := by
  cases kind with
  | plain which => cases which <;> decide
  | named which => cases which <;> decide
  | optional => decide

-- A reference to a type. The label of a plain or optional reference and the
-- aside of a plain or named one have no meaning of their own: they only keep
-- references apart.
inductive TypeRef
  | plain (which : Plain) (label : Option String) (aside : Option TypeRef)
  | named (which : Named) (name : String) (aside : Option TypeRef)
  | optional (inner : TypeRef) (label : Option String)
deriving Repr

namespace TypeRef

mutual
def decEq : (a b : TypeRef) → Decidable (a = b)
  | .plain p l x,.plain q m y =>
    if h : p = q ∧ l = m then
      match decEqAside x y with
      | .isTrue same => .isTrue (by rw [h.1,h.2,same])
      | .isFalse other => .isFalse (fun eq => by cases eq; exact other rfl)
    else .isFalse (fun eq => by cases eq; exact h ⟨rfl,rfl⟩)
  | .named p l x,.named q m y =>
    if h : p = q ∧ l = m then
      match decEqAside x y with
      | .isTrue same => .isTrue (by rw [h.1,h.2,same])
      | .isFalse other => .isFalse (fun eq => by cases eq; exact other rfl)
    else .isFalse (fun eq => by cases eq; exact h ⟨rfl,rfl⟩)
  | .optional x l,.optional y m =>
    if h : l = m then
      match decEq x y with
      | .isTrue same => .isTrue (by rw [h,same])
      | .isFalse other => .isFalse (fun eq => by cases eq; exact other rfl)
    else .isFalse (fun eq => by cases eq; exact h rfl)
  | .plain ..,.named .. => .isFalse nofun
  | .plain ..,.optional .. => .isFalse nofun
  | .named ..,.plain .. => .isFalse nofun
  | .named ..,.optional .. => .isFalse nofun
  | .optional ..,.plain .. => .isFalse nofun
  | .optional ..,.named .. => .isFalse nofun

def decEqAside : (a b : Option TypeRef) → Decidable (a = b)
  | none,none => .isTrue rfl
  | none,some _ => .isFalse nofun
  | some _,none => .isFalse nofun
  | some x,some y =>
    match decEq x y with
    | .isTrue same => .isTrue (by rw [same])
    | .isFalse other => .isFalse (fun eq => by cases eq; exact other rfl)
end

instance : DecidableEq TypeRef := decEq

def ofPlain (which : Plain) : TypeRef := .plain which none none
def enumOf (name : String) : TypeRef := .named .enumeration name none
def recordOf (name : String) : TypeRef := .named .record name none
def objectOf (name : String) : TypeRef := .named .object name none
def optionalOf (inner : TypeRef) : TypeRef := .optional inner none

def isOptional : TypeRef → Bool
  | .optional .. => true
  | _ => false

def kind : TypeRef → Kind
  | .plain which .. => .plain which
  | .named which .. => .named which
  | .optional .. => .optional

-- The readable form says nothing about superfluous parts.
def text : TypeRef → String
  | .plain which .. => which.word
  | .named which name _ => which.word ++ "(" ++ name ++ ")"
  | .optional inner _ => "Optional<" ++ inner.text ++ ">"

def core : TypeRef → TypeRef
  | .optional inner _ => inner.core
  | type => type

def isObject : TypeRef → Bool
  | .named .object .. => true
  | _ => false

inductive BuildError
  | unknownKind (word : String)
  | missingName (which : Named)
  | missingInner
deriving DecidableEq,Repr

def build : Kind → Option String → Option TypeRef → Except BuildError TypeRef
  | .plain which,label,aside => .ok (.plain which label aside)
  | .named which,name,aside =>
    match name with
    | none => .error (.missingName which)
    | some name => if name.isEmpty then .error (.missingName which) else .ok (.named which name aside)
  | .optional,label,inner =>
    match inner with
    | none => .error .missingInner
    | some inner => .ok (.optional inner label)

end TypeRef
end NativeBinding
