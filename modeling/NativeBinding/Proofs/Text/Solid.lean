import Mathlib
import NativeBinding.Text.Blank
import NativeBinding.Text.Identifier

namespace NativeBinding.Text

-- Characters that hold a definition text together: blanks and the marks around names.
def isGlue (c : Char) : Bool := isBlank c || ['\x7b','\x7d','(',')',',',';','/'].contains c

def glueNumbers : List Nat :=
  [9,10,11,12,13,28,29,30,31,32,0x85,0xA0,0x1680,0x2000,0x2001,0x2002,0x2003,0x2004,0x2005,0x2006,0x2007,0x2008,
    0x2009,0x200A,0x2028,0x2029,0x202F,0x205F,0x3000,123,125,40,41,44,59,47]

theorem isGlue_number (glue : isGlue c) : c.toNat ∈ glueNumbers := by
  simp only [isGlue,Bool.or_eq_true] at glue
  rcases glue with blank | mark
  · simp only [isBlank,Bool.or_eq_true,Bool.and_eq_true,decide_eq_true_eq,beq_iff_eq] at blank
    simp only [glueNumbers,List.mem_cons,List.not_mem_nil,or_false]
    omega
  · simp only [List.contains_cons,List.contains_nil,Bool.or_eq_true,beq_iff_eq,Bool.or_false] at mark
    rcases mark with rfl | rfl | rfl | rfl | rfl | rfl | rfl <;> decide

theorem not_isGlue {inside : Char → Bool} (free : ∀ number ∈ glueNumbers, inside (Char.ofNat number) = false)
    (member : inside c) : isGlue c = false := by
  by_contra glue
  have number := free _ (isGlue_number (Bool.eq_true_of_not_eq_false glue))
  rw [Char.ofNat_toNat,member] at number
  cases number

theorem glue_classless : ∀ number ∈ glueNumbers, isWord (Char.ofNat number) = false ∧
    isIdentifierStart (Char.ofNat number) = false ∧ isIdentifierRest (Char.ofNat number) = false := by decide +kernel

theorem isWord_solid (word : isWord c) : isGlue c = false :=
  not_isGlue (fun number member => (glue_classless number member).1) word

theorem isIdentifierStart_solid (start : isIdentifierStart c) : isGlue c = false :=
  not_isGlue (fun number member => (glue_classless number member).2.1) start

theorem isIdentifierRest_solid (rest : isIdentifierRest c) : isGlue c = false :=
  not_isGlue (fun number member => (glue_classless number member).2.2) rest

structure Solid (text : List Char) : Prop where
  some : text ≠ []
  free : ∀ c ∈ text, isGlue c = false

namespace Solid
variable {text : List Char}

theorem not_blank (solid : Solid text) (member : c ∈ text) : isBlank c = false :=
  (Bool.or_eq_false_iff.mp (solid.free c member)).1

theorem not_mem (solid : Solid text) (glue : isGlue c) : c ∉ text := by
  intro member
  rw [solid.free c member] at glue
  cases glue

theorem append (one : Solid text) (two : ∀ c ∈ other, isGlue c = false) : Solid (text ++ other) := by
  refine ⟨List.append_ne_nil_of_left_ne_nil one.some _,?_⟩
  intro c member
  rcases List.mem_append.mp member with first | second
  · exact one.free c first
  · exact two c second

end Solid

structure IsWordText (text : List Char) : Prop where
  some : text ≠ []
  all : ∀ c ∈ text, isWord c

theorem isWordText_iff {text : List Char} : IsWordText text ↔ text ≠ [] ∧ text.all isWord := by
  rw [List.all_eq_true]
  exact ⟨fun word => ⟨word.some,word.all⟩,fun word => ⟨word.1,word.2⟩⟩

instance (text : List Char) : Decidable (IsWordText text) := decidable_of_iff _ isWordText_iff.symm

theorem IsWordText.solid (word : IsWordText text) : Solid text :=
  ⟨word.some,fun c member => isWord_solid (word.all c member)⟩

theorem isIdentifier_solid (identifier : isIdentifier text) : Solid text := by
  cases text with
  | nil => cases identifier
  | cons c rest =>
    simp only [isIdentifier,Bool.and_eq_true,List.all_eq_true] at identifier
    refine ⟨List.cons_ne_nil _ _,?_⟩
    intro d member
    rcases List.mem_cons.mp member with rfl | later
    · exact isIdentifierStart_solid identifier.1
    · exact isIdentifierRest_solid (identifier.2 d later)

end NativeBinding.Text
