import Mathlib.Data.List.NodupEquivFin
import NativeBinding.Definition.Comment
import NativeBinding.Definition.Scan
import NativeBinding.Proofs.Text.Pieces

namespace NativeBinding.Definition
open Text

def lines (text : List Char) : List (List Char) := pieces (fun c => c == '\n') text

-- Characters are left out of a text, but no end of a line.
structure Thinned (rest text : List Char) : Prop where
  kept : rest.Sublist text
  ends : rest.count '\n' = text.count '\n'

def Places (rest text : List Char) (origin : ℕ ↪o ℕ) : Prop := ∀ position, rest[position]? = text[origin position]?

theorem lines_end (rest : List Char) : lines ('\n' :: rest) = [] :: lines rest := rfl

theorem lines_inside (inside : c ≠ '\n') (rest : List Char) : ∃ first others, lines rest = first :: others ∧
    lines (c :: rest) = (c :: first) :: others := by
  have same : (c == '\n') = false := beq_false_of_ne inside
  obtain ⟨first,others,split⟩ := List.exists_cons_of_ne_nil (pieces_ne_nil (fun c => c == '\n') rest)
  refine ⟨first,others,split,?_⟩
  simp only [lines,pieces,same,Bool.false_eq_true,if_false,split]

namespace Thinned
variable {rest text : List Char}

theorem refl (text : List Char) : Thinned text text := ⟨List.Sublist.refl text,rfl⟩

theorem trans {least : List Char} (one : Thinned least rest) (two : Thinned rest text) : Thinned least text :=
  ⟨one.kept.trans two.kept,one.ends.trans two.ends⟩

theorem keep (thinned : Thinned rest text) (c : Char) : Thinned (c :: rest) (c :: text) :=
  ⟨thinned.kept.cons_cons c,by rw [List.count_cons,List.count_cons,thinned.ends]⟩

theorem drop (thinned : Thinned rest text) (inside : c ≠ '\n') : Thinned rest (c :: text) :=
  ⟨thinned.kept.cons c,by rw [List.count_cons_of_ne inside,thinned.ends]⟩

theorem each_line (thinned : Thinned rest text) : List.Forall₂ List.Sublist (lines rest) (lines text) := by
  obtain ⟨kept,ends⟩ := thinned
  induction kept with
  | slnil => exact .cons (List.Sublist.refl []) .nil
  | @cons rest text c kept ih =>
    have inside : c ≠ '\n' := by
      rintro rfl
      have fewer := kept.count_le '\n'
      rw [List.count_cons_self] at ends
      omega
    rw [List.count_cons_of_ne inside] at ends
    obtain ⟨first,others,split,more⟩ := lines_inside inside text
    have each := ih ends
    rw [split] at each
    rw [more]
    generalize lines rest = left at *
    cases each with
    | cons one all => exact .cons (one.cons c) all
  | @cons_cons rest text c kept ih =>
    by_cases last : c = '\n'
    · subst last
      rw [lines_end,lines_end]
      refine .cons (List.Sublist.refl []) (ih ?_)
      simpa using ends
    · rw [List.count_cons_of_ne last,List.count_cons_of_ne last] at ends
      obtain ⟨first,others,split,more⟩ := lines_inside last text
      obtain ⟨left,lefts,splits,mores⟩ := lines_inside last rest
      have each := ih ends
      rw [split,splits] at each
      rw [more,mores]
      cases each with
      | cons one all => exact .cons (one.cons_cons c) all

end Thinned

section
variable {rest text : List Char} {origin : ℕ ↪o ℕ} (places : Places rest text origin)
include places

theorem Places.before (position : Nat) : (rest.take position).Sublist (text.take (origin position)) := by
  refine List.sublist_of_orderEmbedding_getElem?_eq origin fun index => ?_
  rw [List.getElem?_take,List.getElem?_take,places index]
  simp only [OrderEmbedding.lt_iff_lt]

theorem Places.behind (position : Nat) : (rest.drop position).Sublist (text.drop (origin position)) := by
  have later (index : Nat) : origin position ≤ origin (position + index) := origin.monotone (Nat.le_add_right _ _)
  have strict : StrictMono fun index => origin (position + index) - origin position := by
    intro one two less
    have moved := origin.strictMono (Nat.add_lt_add_left less position)
    exact Nat.sub_lt_sub_right (later one) moved
  refine List.sublist_of_orderEmbedding_getElem?_eq (OrderEmbedding.ofStrictMono _ strict) fun index => ?_
  rw [List.getElem?_drop,List.getElem?_drop,places,OrderEmbedding.coe_ofStrictMono,Nat.add_sub_cancel' (later index)]

-- There are no more ends of lines in the text than in what is left, neither before a
-- place nor behind it, so there are as many.
theorem Places.line (thinned : Thinned rest text) (position : Nat) : lineAt rest position = lineAt text (origin position) := by
  have before := (places.before position).count_le '\n'
  have behind := (places.behind position).count_le '\n'
  have whole := thinned.ends
  rw [← List.take_append_drop position rest,← List.take_append_drop (origin position) text,List.count_append,
    List.count_append] at whole
  rw [lineAt,lineAt]
  omega

end

theorem dropLineComments_thinned (inside : Bool) (text : List Char) : Thinned (dropLineComments inside text) text := by
  induction text generalizing inside with
  | nil => cases inside <;> exact Thinned.refl []
  | cons c rest ih =>
    cases inside with
    | true =>
      rw [dropLineComments]
      split
      · exact (ih false).keep c
      · rename_i inside
        exact (ih true).drop (by simpa using inside)
    | false =>
      rw [dropLineComments]
      split
      · rename_i opens
        rw [Bool.and_eq_true,beq_iff_eq] at opens
        exact (ih true).drop (opens.1 ▸ by decide)
      · exact (ih false).keep c

def BlockPlace.Fits : BlockPlace → List Char → Prop
  | .opening,text => text.head? = some '*'
  | .closing,text => text.head? = some '/'
  | _,_ => True

theorem dropBlockComments_thinned (place : BlockPlace) (text : List Char) (fits : place.Fits text) :
    Thinned (dropBlockComments place text) text := by
  induction text generalizing place with
  | nil => cases place <;> exact Thinned.refl []
  | cons c rest ih =>
    cases place with
    | outside =>
      rw [dropBlockComments]
      split
      · rename_i opens
        simp only [Bool.and_eq_true,beq_iff_eq] at opens
        obtain ⟨⟨rfl,star⟩,_⟩ := opens
        exact (ih .opening star).drop (by decide)
      · exact (ih .outside trivial).keep c
    | opening =>
      cases fits
      exact (ih .inside trivial).drop (by decide)
    | inside =>
      rw [dropBlockComments]
      split
      · rename_i ends
        simp only [Bool.and_eq_true,beq_iff_eq] at ends
        obtain ⟨rfl,slash⟩ := ends
        exact (ih .closing slash).drop (by decide)
      · split
        · exact (ih .inside trivial).keep c
        · rename_i inside
          exact (ih .inside trivial).drop (by simpa using inside)
    | closing =>
      cases fits
      exact (ih .outside trivial).drop (by decide)

theorem dropComments_thinned (text : List Char) : Thinned (dropComments text) text :=
  (dropBlockComments_thinned .outside _ trivial).trans (dropLineComments_thinned false text)

end NativeBinding.Definition
