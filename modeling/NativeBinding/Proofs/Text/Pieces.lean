import NativeBinding.Proofs.Text.Solid

namespace NativeBinding.Text

section
variable {cut : Char → Bool} {piece rest : List Char} (whole : ∀ c ∈ piece, cut c = false)
include whole

theorem pieces_whole : pieces cut piece = [piece] := by
  induction piece with
  | nil => rfl
  | cons c later ih =>
    obtain ⟨first,others⟩ := List.forall_mem_cons.mp whole
    simp only [pieces,first,Bool.false_eq_true,if_false,ih others]

theorem pieces_cut (cuts : cut c) : pieces cut (piece ++ c :: rest) = piece :: pieces cut rest := by
  induction piece with
  | nil => simp only [List.nil_append,pieces,cuts,if_true]
  | cons d later ih =>
    obtain ⟨first,others⟩ := List.forall_mem_cons.mp whole
    simp only [List.cons_append,pieces,first,Bool.false_eq_true,if_false,ih others]

end

section
variable {inside : Char → Bool} {text rest : List Char} (all : ∀ c ∈ text, inside c)
  (stops : ∀ c ∈ rest.head?, inside c = false)
include all stops

theorem takeWhile_stops : (text ++ rest).takeWhile inside = text := by
  rw [List.takeWhile_append_of_pos all]
  cases rest with
  | nil => exact List.append_nil text
  | cons c later => simp [stops c rfl]

theorem dropWhile_stops : (text ++ rest).dropWhile inside = rest := by
  rw [List.dropWhile_append_of_pos all]
  cases rest with
  | nil => rfl
  | cons c later => simp [stops c rfl]

end

theorem dropBlank_blanks {blanks : List Char} (blank : ∀ c ∈ blanks, isBlank c) (text : List Char) :
    dropBlank (blanks ++ text) = dropBlank text :=
  List.dropWhile_append_of_pos blank

theorem dropBlank_same {c : Char} (shown : isBlank c = false) (rest : List Char) : dropBlank (c :: rest) = c :: rest :=
  List.dropWhile_cons_of_neg (by simp [shown])

theorem dropBlank_some (text : List Char) : ∃ space, (∀ c ∈ space, isBlank c) ∧ text = space ++ dropBlank text :=
  ⟨text.takeWhile isBlank,fun _ member => List.mem_takeWhile_imp member,List.takeWhile_append_dropWhile.symm⟩

def startsBlank (text : List Char) : Bool := text.head?.any isBlank

theorem dropBlank_shown {text : List Char} (left : dropBlank text = c :: rest) : isBlank c = false := by
  have shown := List.head?_dropWhile_not isBlank text
  rw [show text.dropWhile isBlank = c :: rest from left] at shown
  exact shown

theorem dropBlank_twice (text : List Char) : dropBlank (dropBlank text) = dropBlank text := by
  cases left : dropBlank text with
  | nil => rfl
  | cons c rest => exact dropBlank_same (dropBlank_shown left) rest

theorem dropBlank_unless {text : List Char} (shown : startsBlank text = false) : dropBlank text = text := by
  cases text with
  | nil => rfl
  | cons c rest => exact dropBlank_same shown rest

theorem startsBlank_dropBlank (text : List Char) : startsBlank (dropBlank text) = false := by
  cases left : dropBlank text with
  | nil => rfl
  | cons c rest => exact dropBlank_shown left

theorem dropBlank_nil {text : List Char} : dropBlank text = [] ↔ ∀ c ∈ text, isBlank c := List.dropWhile_eq_nil_iff

theorem dropBlank_length (text : List Char) : (dropBlank text).length ≤ text.length :=
  (List.dropWhile_suffix isBlank).length_le

theorem blank_spaces : ∀ c ∈ [' '], isBlank c := List.forall_mem_singleton.mpr (by decide)

theorem trimEnd_cons (c : Char) (rest : List Char) :
    trimEnd (c :: rest) = if (trimEnd rest).isEmpty && isBlank c then [] else c :: trimEnd rest := rfl

theorem trimEnd_blanks {blanks : List Char} (blank : ∀ c ∈ blanks, isBlank c) : trimEnd blanks = [] := by
  induction blanks with
  | nil => rfl
  | cons c rest ih =>
    obtain ⟨first,others⟩ := List.forall_mem_cons.mp blank
    simp [trimEnd_cons,ih others,first]

-- Blanks behind the last character that is shown are dropped, all in front of it stays.
theorem trimEnd_shown {c : Char} (shown : isBlank c = false) {blanks : List Char} (blank : ∀ c ∈ blanks, isBlank c)
    (text : List Char) : trimEnd (text ++ c :: blanks) = text ++ [c] := by
  induction text with
  | nil => simp [trimEnd_cons,trimEnd_blanks blank,shown]
  | cons d rest ih =>
    have some : (rest ++ [c]).isEmpty = false := by simp
    rw [List.cons_append,trimEnd_cons,ih,some]
    rfl

structure Tight (text : List Char) : Prop where
  first : ∃ c rest, text = c :: rest ∧ isBlank c = false
  last : ∃ rest c, text = rest ++ [c] ∧ isBlank c = false

theorem Solid.tight {text : List Char} (solid : Solid text) : Tight text := by
  refine ⟨?_,?_⟩
  · obtain ⟨c,rest,rfl⟩ := List.exists_cons_of_ne_nil solid.some
    exact ⟨c,rest,rfl,solid.not_blank List.mem_cons_self⟩
  · obtain ⟨rest,c,rfl⟩ := (List.eq_nil_or_concat text).resolve_left solid.some
    exact ⟨rest,c,List.concat_eq_append,solid.not_blank (by simp)⟩

theorem Tight.append {one two : List Char} (front : Tight one) (back : Tight two) (between : List Char) :
    Tight (one ++ between ++ two) := by
  obtain ⟨c,rest,rfl,shown⟩ := front.first
  obtain ⟨before,d,rfl,seen⟩ := back.last
  exact ⟨⟨c,rest ++ between ++ (before ++ [d]),rfl,shown⟩,⟨c :: rest ++ between ++ before,d,by simp,seen⟩⟩

theorem Tight.some {text : List Char} (tight : Tight text) : text ≠ [] := by
  obtain ⟨c,rest,rfl,_⟩ := tight.first
  exact List.cons_ne_nil _ _

theorem Tight.dropBlank {text : List Char} (tight : Tight text) (rest : List Char) :
    dropBlank (text ++ rest) = text ++ rest := by
  obtain ⟨c,others,rfl,shown⟩ := tight.first
  exact dropBlank_same shown _

theorem Tight.dropBlank_spaced {text : List Char} (tight : Tight text) (rest : List Char) :
    Text.dropBlank (' ' :: (text ++ rest)) = text ++ rest := by
  rw [← List.singleton_append,dropBlank_blanks blank_spaces,tight.dropBlank]

theorem trimEnd_some (text : List Char) : ∃ space, (∀ c ∈ space, isBlank c) ∧ text = trimEnd text ++ space := by
  induction text with
  | nil => exact ⟨[],List.forall_mem_nil _,rfl⟩
  | cons c rest ih =>
    obtain ⟨space,blank,split⟩ := ih
    rw [trimEnd_cons]
    split
    · rename_i none
      rw [Bool.and_eq_true,List.isEmpty_iff] at none
      refine ⟨c :: space,List.forall_mem_cons.mpr ⟨none.2,blank⟩,?_⟩
      rw [none.1] at split
      exact congrArg (c :: ·) split
    · exact ⟨space,blank,congrArg (c :: ·) split⟩

theorem trim_some (text : List Char) : ∃ before after, (∀ c ∈ before, isBlank c) ∧ (∀ c ∈ after, isBlank c) ∧
    text = before ++ (trim text ++ after) := by
  obtain ⟨before,front,split⟩ := dropBlank_some text
  obtain ⟨after,back,rest⟩ := trimEnd_some (dropBlank text)
  exact ⟨before,after,front,back,by rw [trim,← rest]; exact split⟩

theorem trim_nil {text : List Char} : trim text = [] ↔ dropBlank text = [] := by
  constructor
  · intro nothing
    obtain ⟨before,after,front,back,split⟩ := trim_some text
    rw [nothing] at split
    rw [dropBlank_nil,split]
    exact List.forall_mem_append.mpr ⟨front,back⟩
  · intro nothing
    rw [trim,nothing]
    rfl

theorem trim_blanks {blanks : List Char} (blank : ∀ c ∈ blanks, isBlank c) : trim blanks = [] := by
  rw [trim,← List.append_nil blanks,dropBlank_blanks blank]
  rfl

theorem trim_padded {text : List Char} (tight : Tight text) {before after : List Char} (front : ∀ c ∈ before, isBlank c)
    (back : ∀ c ∈ after, isBlank c) : trim (before ++ text ++ after) = text := by
  obtain ⟨others,d,ends,seen⟩ := tight.last
  rw [trim,List.append_assoc,dropBlank_blanks front,tight.dropBlank,ends,List.append_assoc]
  exact trimEnd_shown seen back others

theorem trim_front {text : List Char} (tight : Tight text) {before : List Char} (front : ∀ c ∈ before, isBlank c) :
    trim (before ++ text) = text := by
  have padded := trim_padded tight front (List.forall_mem_nil (fun c => isBlank c))
  rwa [List.append_nil] at padded

def grow (c : Char) (apart : Bool) : List (List Char) → List (List Char)
  | [] => [[c]]
  | token :: others => if apart then [c] :: token :: others else (c :: token) :: others

theorem tokens_blank (blank : isBlank c) (rest : List Char) : tokens (c :: rest) = tokens rest := by
  simp [tokens,pieces,blank]

theorem tokens_shown (shown : isBlank c = false) (rest : List Char) :
    tokens (c :: rest) = grow c (startsBlank rest) (tokens rest) := by
  cases rest with
  | nil => simp [tokens,pieces,shown,grow]
  | cons d more =>
    obtain ⟨piece,others,parted⟩ := List.exists_cons_of_ne_nil (pieces_ne_nil isBlank more)
    cases blank : isBlank d with
    | true =>
      rw [tokens_blank blank,tokens,pieces,shown,pieces,blank]
      simp only [Bool.false_eq_true,if_false,if_true]
      change [c] :: tokens more = _
      cases tokens more <;> simp [grow,startsBlank,blank]
    | false => simp [tokens,pieces,shown,blank,parted,grow,startsBlank]

theorem tokens_front {blanks : List Char} (blank : ∀ c ∈ blanks, isBlank c) (text : List Char) :
    tokens (blanks ++ text) = tokens text := by
  induction blanks with
  | nil => rfl
  | cons c rest ih =>
    obtain ⟨first,blank⟩ := List.forall_mem_cons.mp blank
    rw [List.cons_append,tokens_blank first,ih blank]

theorem tokens_back {blanks : List Char} (blank : ∀ c ∈ blanks, isBlank c) (text : List Char) :
    tokens (text ++ blanks) = tokens text := by
  induction text with
  | nil =>
    rw [List.nil_append,← List.append_nil blanks]
    exact tokens_front blank []
  | cons c rest ih =>
    rw [List.cons_append]
    cases shown : isBlank c with
    | true => rw [tokens_blank shown,tokens_blank shown,ih]
    | false =>
      rw [tokens_shown shown,tokens_shown shown,ih]
      cases rest <;> rfl

theorem tokens_trim (text : List Char) : tokens (trim text) = tokens text := by
  obtain ⟨before,after,front,back,split⟩ := trim_some text
  conv_rhs => rw [split]
  rw [tokens_front front,tokens_back back]

theorem tokens_dropBlank (text : List Char) : tokens (dropBlank text) = tokens text := by
  obtain ⟨blanks,blank,split⟩ := dropBlank_some text
  conv_rhs => rw [split]
  rw [tokens_front blank]

theorem tokens_pair {one two : List Char} (first : Solid one) (second : Solid two) (blank : isBlank c) :
    tokens (one ++ c :: two) = [one,two] := by
  rw [tokens,pieces_cut (fun _ => first.not_blank) blank,pieces_whole (fun _ => second.not_blank)]
  simp [first.some,second.some]

section
variable {text : List Char} (member : c ∈ text)
include member

theorem mem_pieces (kept : cut c = false) : ∃ piece ∈ pieces cut text, c ∈ piece := by
  induction text with
  | nil => cases member
  | cons d rest ih =>
    rw [pieces]
    split
    · rename_i cuts
      rcases List.mem_cons.mp member with rfl | later
      · rw [cuts] at kept
        cases kept
      · obtain ⟨piece,present,inside⟩ := ih later
        exact ⟨piece,List.mem_cons_of_mem _ present,inside⟩
    · split
      · rename_i nothing
        exact absurd nothing (pieces_ne_nil cut rest)
      · rename_i piece others whole
        rcases List.mem_cons.mp member with rfl | later
        · exact ⟨c :: piece,List.mem_cons_self,List.mem_cons_self⟩
        · obtain ⟨found,present,inside⟩ := ih later
          rw [whole] at present
          rcases List.mem_cons.mp present with rfl | other
          · exact ⟨d :: found,List.mem_cons_self,List.mem_cons_of_mem _ inside⟩
          · exact ⟨found,List.mem_cons_of_mem _ other,inside⟩

variable (shown : isBlank c = false)
include shown

theorem mem_trim : c ∈ trim text := by
  obtain ⟨before,after,front,back,split⟩ := trim_some text
  rw [split,List.mem_append,List.mem_append] at member
  rcases member with blank | own | blank
  · cases shown.symm.trans (front c blank)
  · exact own
  · cases shown.symm.trans (back c blank)

theorem mem_tokens : ∃ token ∈ tokens text, c ∈ token := by
  obtain ⟨token,present,inside⟩ := mem_pieces member shown
  exact ⟨token,List.mem_filter.mpr ⟨present,by simpa using List.ne_nil_of_mem inside⟩,inside⟩

end

end NativeBinding.Text
