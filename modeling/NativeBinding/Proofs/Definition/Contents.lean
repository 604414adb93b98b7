import NativeBinding.Proofs.Definition.Declared
import NativeBinding.Proofs.Text.Pieces

namespace NativeBinding.Definition
open Text

theorem mem_parts {body : List Char} (member : c ∈ body) (shown : isBlank c = false) (kept : c ≠ separator) :
    ∃ part ∈ parts separator body, c ∈ part := by
  obtain ⟨piece,present,inside⟩ : ∃ piece ∈ pieces (fun c => c == separator) body, c ∈ piece :=
    mem_pieces member (beq_eq_false_iff_ne.mpr kept)
  have own := mem_trim inside shown
  exact ⟨trim piece,List.mem_filter.mpr ⟨List.mem_map_of_mem present,by simpa using List.ne_nil_of_mem own⟩,own⟩

-- Marks that part a text do not stand in what is read as one part of it.
def IsBreak (c : Char) : Prop := isGlue c ∧ isBlank c = false

def IsUnbroken (text : List Char) : Prop := ∀ c ∈ text, ¬ IsBreak c

theorem solid_unbroken {text : List Char} (free : ∀ c ∈ text, isGlue c = false) : IsUnbroken text := by
  intro c member breaks
  have glue := breaks.1
  rw [free c member] at glue
  cases glue

theorem body_breaks {body : List Char} (unbroken : ∀ part ∈ parts separator body, IsUnbroken part) (breaks : IsBreak c)
    (member : c ∈ body) : c = separator := by
  by_contra other
  obtain ⟨part,present,inside⟩ := mem_parts member breaks.2 other
  exact unbroken part present c inside breaks

variable {kinds : Kinds}

theorem typeOf_unbroken (done : typeOf kinds text = .ok type) : IsUnbroken text := by
  have split : text.takeWhile isWord ++ text.dropWhile isWord = text := List.takeWhile_append_dropWhile
  unfold typeOf at done
  dsimp only at done
  split at done
  · cases done
  · rename_i form
    have marks : ∀ c ∈ text.dropWhile isWord, c = '?' := by
      rw [Bool.or_eq_true,not_or] at form
      simpa using form.2
    refine solid_unbroken ?_
    rw [← split]
    refine List.forall_mem_append.mpr ⟨fun c member => isWord_solid (List.mem_takeWhile_imp member),?_⟩
    intro c member
    rw [marks c member]
    decide

theorem fieldOf_unbroken (done : fieldOf kinds text = .ok field) : IsUnbroken text := by
  unfold fieldOf at done
  split at done
  · rename_i type name only
    split at done
    · rename_i identifier
      cases run : typeOf kinds type with
      | error complaint => rw [run] at done; cases done
      | ok found =>
        intro c member breaks
        obtain ⟨token,present,inside⟩ := mem_tokens member breaks.2
        rw [only] at present
        rcases List.mem_pair.mp present with rfl | rfl
        · exact typeOf_unbroken run c inside breaks
        · exact solid_unbroken (isIdentifier_solid identifier).free c inside breaks
    · cases done
  · cases done

theorem fieldsOf_each {taken : String → Complaint} {found fields : List Field} {texts : List (List Char)}
    (done : fieldsOf kinds taken found texts = .ok fields) : ∀ text ∈ texts, ∃ field, fieldOf kinds text = .ok field := by
  induction texts generalizing found with
  | nil => intro text member; cases member
  | cons text rest ih =>
    obtain ⟨field,own,done⟩ := result_ok_parts done
    split at done
    · cases done
    · intro other member
      rcases List.mem_cons.mp member with rfl | later
      · exact ⟨field,own⟩
      · exact ih done other later

theorem fieldsOf_breaks {taken : String → Complaint} {found fields : List Field} {body : List Char}
    (done : fieldsOf kinds taken found (parts separator body) = .ok fields) (breaks : IsBreak c) (member : c ∈ body) :
    c = separator := by
  refine body_breaks ?_ breaks member
  intro part present
  obtain ⟨field,own⟩ := fieldsOf_each done part present
  exact fieldOf_unbroken own

theorem functionOf_breaks (done : functionOf kinds name parameters returns = .ok function) (breaks : IsBreak c)
    (member : c ∈ parameters) : c = ',' := by
  obtain ⟨arguments,read,_⟩ := result_ok_parts done
  exact fieldsOf_breaks read breaks member

theorem recordOf_breaks (done : recordOf kinds name body = .ok record) (breaks : IsBreak c) (member : c ∈ body) : c = ';' := by
  obtain ⟨fields,read,_⟩ := result_ok_parts done
  exact fieldsOf_breaks read breaks member

theorem enumerationOf_breaks (done : enumerationOf name body = .ok enumeration) (breaks : IsBreak c) (member : c ∈ body) :
    c = ',' := by
  simp only [enumerationOf] at done
  split at done
  · cases done
  · obtain ⟨_,checked,_⟩ := result_ok_parts done
    refine body_breaks ?_ breaks member
    intro part present
    have own := (checkValues_parts checked _ (List.mem_map_of_mem present)).1
    rw [String.toList_ofList] at own
    exact solid_unbroken (isIdentifier_solid own).free

theorem itemOf_breaks (done : itemOf kinds block = .ok item) (breaks : IsBreak c) (member : c ∈ block.body) :
    block.kind = .object ∨ block.kind = .enumeration ∧ c = ',' ∨ block.kind = .record ∧ c = ';' := by
  unfold itemOf at done
  dsimp only at done
  split at done
  · rename_i kind
    cases run : enumerationOf (String.ofList block.name) block.body with
    | error complaint => rw [run] at done; cases done
    | ok found => exact .inr (.inl ⟨kind,enumerationOf_breaks run breaks member⟩)
  · rename_i kind
    cases run : recordOf kinds (String.ofList block.name) block.body with
    | error complaint => rw [run] at done; cases done
    | ok found => exact .inr (.inr ⟨kind,recordOf_breaks run breaks member⟩)
  · rename_i kind
    exact .inl kind

end NativeBinding.Definition
