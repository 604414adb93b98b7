import NativeBinding.Proofs.Definition.Written
import NativeBinding.Proofs.Text.Pieces

namespace NativeBinding.Definition
open Text

def IsEnded (text : List Char) : Prop := ∃ before, text = before ++ [';']

def isLoose (c : Char) : Bool := isWord c || isBlank c

theorem blank_apart (blank : isBlank c) : isWord c = false := by
  by_contra word
  have solid := isWord_solid (Bool.eq_true_of_not_eq_false word)
  simp [isGlue,blank] at solid

structure Recogniser.Opens (recognise : Recogniser α) (mark : Char) : Prop where
  blank : ∀ c rest, isBlank c → recognise (c :: rest) = none
  mark : ∀ text value rest, recognise text = some (value,rest) → (text.dropWhile isLoose).head? = some mark

section
variable {recognise : Recogniser α}

-- The rest of a match is not looked at, wherever another one could start in it.
theorem scanFrom_inside (taken rest : List Char) (position : Nat) (afterWord : Bool) :
    scanFrom recognise position afterWord (taken.length + 1) (taken ++ c :: rest) =
      scanFrom recognise (position + (taken.length + 1)) (isWord c) 0 rest := by
  induction taken generalizing position afterWord with
  | nil => rfl
  | cons d others ih =>
    have shift : position + 1 + (others.length + 1) = position + (others.length + 1 + 1) := by omega
    rw [List.cons_append,List.length_cons,scanFrom,ih,shift]

theorem scanFrom_found {value : α} {taken rest : List Char}
    (found : recognise (taken ++ c :: rest) = some (value,rest)) (position : Nat) :
    scanFrom recognise position false 0 (taken ++ c :: rest) = ⟨⟨position,position + (taken ++ [c]).length⟩,value⟩ ::
      scanFrom recognise (position + (taken ++ [c]).length) (isWord c) 0 rest := by
  cases taken with
  | nil =>
    rw [List.nil_append] at found
    have length : (c :: rest).length - rest.length = 1 := by simp
    simp only [List.nil_append,scanFrom,found,Bool.false_eq_true,if_false,length]
    rfl
  | cons d middle =>
    rw [List.cons_append] at found
    have length : (d :: (middle ++ c :: rest)).length - rest.length = middle.length + 1 + 1 := by simp; omega
    have shift : position + 1 + (middle.length + 1) = position + (middle.length + 1 + 1) := by omega
    have whole : (d :: middle ++ [c]).length = middle.length + 1 + 1 := by simp
    simp only [List.cons_append,scanFrom,found,Bool.false_eq_true,if_false,length,Nat.add_sub_cancel,scanFrom_inside,shift]
    rw [← List.cons_append,whole]

theorem scanFrom_match {segment : List Char} (ended : IsEnded segment) {value : α} {rest : List Char}
    (found : recognise (segment ++ rest) = some (value,rest)) (position : Nat) :
    scanFrom recognise position false 0 (segment ++ rest) = ⟨⟨position,position + segment.length⟩,value⟩ ::
      scanFrom recognise (position + segment.length) false 0 rest := by
  obtain ⟨before,rfl⟩ := ended
  rw [List.append_assoc] at found ⊢
  exact scanFrom_found found position

theorem scanFrom_pass {segment rest : List Char} (ended : IsEnded segment)
    (quiet : ∀ text, text ≠ [] → text <:+ segment → recognise (text ++ rest) = none) (position : Nat) (afterWord : Bool) :
    scanFrom recognise position afterWord 0 (segment ++ rest) =
      scanFrom recognise (position + segment.length) false 0 rest := by
  obtain ⟨before,rfl⟩ := ended
  induction before generalizing position afterWord with
  | nil =>
    have none := quiet [';'] (List.cons_ne_nil _ _) (List.suffix_refl _)
    rw [List.singleton_append] at none
    simp only [List.nil_append,List.singleton_append,scanFrom,none,ite_self]
    rfl
  | cons c others ih =>
    have none := quiet (c :: others ++ [';']) (by simp) (List.suffix_refl _)
    rw [List.cons_append,List.cons_append] at none
    have below : ∀ text, text ≠ [] → text <:+ others ++ [';'] → recognise (text ++ rest) = Option.none :=
      fun text some inside => quiet text some (inside.trans (List.suffix_cons c _))
    have later := ih (position + 1) (isWord c) below
    have shift : position + 1 + (others ++ [';']).length = position + (c :: (others ++ [';'])).length := by simp; omega
    simp only [List.cons_append,scanFrom,none,ite_self,later,shift]

namespace Recogniser.Opens
variable {mark : Char} (opens : Recogniser.Opens recognise mark)
include opens

theorem scan_blanks {gap : List Char} (blank : ∀ c ∈ gap, isBlank c) (position : Nat) (text : List Char) :
    scanFrom recognise position false 0 (gap ++ text) = scanFrom recognise (position + gap.length) false 0 text := by
  induction gap generalizing position with
  | nil => rfl
  | cons c rest ih =>
    obtain ⟨first,blank⟩ := List.forall_mem_cons.mp blank
    have shift : position + 1 + rest.length = position + (c :: rest).length := by simp; omega
    simp only [List.cons_append,scanFrom,opens.blank c _ first,ite_self,blank_apart first,ih blank,shift]

theorem quiet {before : List Char} (without : mark ∉ before) (tight : isLoose d = false) (other : d ≠ mark)
    (rest : List Char) : recognise (before ++ d :: rest) = none := by
  cases found : recognise (before ++ d :: rest) with
  | none => rfl
  | some pair =>
    have head := opens.mark _ _ _ found
    rw [List.dropWhile_append] at head
    split at head
    · rw [List.dropWhile_cons_of_neg (by simp [tight])] at head
      exact absurd (by simpa using head) other
    · rename_i some
      obtain ⟨c,later,begins⟩ := List.exists_cons_of_ne_nil (by simpa using some : before.dropWhile isLoose ≠ [])
      have same : c = mark := by simpa [begins] using head
      exact absurd ((List.dropWhile_suffix isLoose).subset (begins ▸ same ▸ List.mem_cons_self)) without

-- A text without the mark that has an end of its own holds no match, not even one that
-- would go on behind it.
theorem scan_pass {segment : List Char} (ended : IsEnded segment) (without : mark ∉ segment) (position : Nat)
    (rest : List Char) : scanFrom recognise position false 0 (segment ++ rest) =
      scanFrom recognise (position + segment.length) false 0 rest := by
  refine scanFrom_pass ended ?_ position false
  intro text some inside
  obtain ⟨before,rfl⟩ := ended
  obtain ⟨others,last,rfl⟩ := (List.eq_nil_or_concat text).resolve_left some
  obtain ⟨front,same⟩ := inside
  rw [List.concat_eq_append,← List.append_assoc] at same
  obtain ⟨rfl,ends⟩ := List.append_inj' same rfl
  cases ends
  have other : ';' ≠ mark := by
    rintro rfl
    exact without (by simp)
  have free : mark ∉ others := fun member => without (by simp [member])
  rw [List.concat_eq_append,List.append_assoc]
  exact opens.quiet free (by decide) other rest

end Recogniser.Opens
end

section
variable {text rest : List Char}

theorem exactly_some (found : exactly begins text = some rest) : text = begins ++ rest := by
  unfold exactly at found
  split at found
  · rename_i starts
    cases found
    exact (List.prefix_iff_eq_append.mp (List.isPrefixOf_iff_prefix.mp starts)).symm
  · cases found

theorem exactly_append (begins rest : List Char) : exactly begins (begins ++ rest) = some rest := by
  simp [exactly]

theorem dropBlank_loose (text : List Char) : (dropBlank text).dropWhile isLoose = text.dropWhile isLoose := by
  have split : text.takeWhile isBlank ++ dropBlank text = text := List.takeWhile_append_dropWhile
  have loose : ∀ c ∈ text.takeWhile isBlank, isLoose c := by
    intro c member
    simp [isLoose,List.mem_takeWhile_imp member]
  rw [← List.dropWhile_append_of_pos loose,split]

theorem blanks_loose (found : blanks text = some rest) : rest.dropWhile isLoose = text.dropWhile isLoose := by
  cases text with
  | nil => cases found
  | cons c others =>
    simp only [blanks] at found
    split at found
    · cases found
      exact dropBlank_loose _
    · cases found

theorem word_loose (found : word text = some (name,rest)) : rest.dropWhile isLoose = text.dropWhile isLoose := by
  have split : text.takeWhile isWord ++ text.dropWhile isWord = text := List.takeWhile_append_dropWhile
  have loose : ∀ c ∈ text.takeWhile isWord, isLoose c := by
    intro c member
    simp [isLoose,List.mem_takeWhile_imp member]
  simp only [word,run] at found
  split at found
  · cases found
  · cases found
    rw [← List.dropWhile_append_of_pos loose,split]

theorem heading_opens {begins : List Char} (keyword : begins.all isLoose) (apart : isLoose mark = false)
    (one : exactly begins text = some first) (two : blanks first = some second) (three : word second = some (name,third))
    (four : exactly [mark] (dropBlank third) = some rest) : (text.dropWhile isLoose).head? = some mark := by
  rw [exactly_some one,List.dropWhile_append_of_pos (List.all_eq_true.mp keyword),← blanks_loose two,← word_loose three,
    ← dropBlank_loose,exactly_some four,List.singleton_append,List.dropWhile_cons_of_neg (by simp [apart])]
  rfl

theorem exactly_blank {begins : List Char} {c : Char} (shown : begins.all (fun c => !isBlank c)) (some : begins ≠ [])
    (blank : isBlank c) (rest : List Char) : exactly begins (c :: rest) = none := by
  cases found : exactly begins (c :: rest) with
  | none => rfl
  | some left =>
    have split := exactly_some found
    obtain ⟨d,others,rfl⟩ := List.exists_cons_of_ne_nil some
    rw [List.cons_append] at split
    cases split
    simp [blank] at shown

theorem blanks_word {name : List Char} (named : IsWordText name) (rest : List Char) :
    blanks (' ' :: (name ++ rest)) = some (name ++ rest) := by
  have first : isBlank ' ' := by decide
  simp only [blanks,first,if_true,named.solid.tight.dropBlank_spaced]

theorem word_stops {name : List Char} (named : IsWordText name) (stops : isWord c = false) (rest : List Char) :
    word (name ++ c :: rest) = some (name,c :: rest) := by
  have ends : ∀ d ∈ (c :: rest).head?, isWord d = false := by
    rintro d ⟨⟩
    exact stops
  have some : name.isEmpty = false := by simpa using named.some
  simp only [word,run,takeWhile_stops named.all ends,dropWhile_stops named.all ends,some,Bool.false_eq_true,if_false]

theorem upTo_first {close : Char} {body : List Char} (without : close ∉ body) (rest : List Char) :
    upTo close (body ++ close :: rest) = some (body,rest) := by
  have inside : ∀ c ∈ body, (c != close) = true := by
    intro c member
    exact bne_iff_ne.mpr (fun same => without (same ▸ member))
  have stops : ∀ c ∈ (close :: rest).head?, (c != close) = false := by
    rintro c ⟨⟩
    exact bne_self_eq_false close
  simp only [upTo,takeWhile_stops inside stops,dropWhile_stops inside stops]

end
end NativeBinding.Definition
