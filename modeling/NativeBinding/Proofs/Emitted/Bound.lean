import NativeBinding.Definition.Scan
import NativeBinding.Emitted.Source
import NativeBinding.Proofs.Text.Pieces

namespace NativeBinding
open Text

def isLabel (c : Char) : Bool := !([' ',':','=','(','\"','#','@'].contains c)

def isSetting (rest : List Char) : Bool := " = ".toList.isPrefixOf rest || ": ".toList.isPrefixOf rest

-- Names that a line gives a meaning to in the scope that it stands in: by setting or
-- annotating them, by a definition, or by an import.
def boundBy (line : List Char) : List (List Char) :=
  let first := line.takeWhile isLabel
  let rest := line.dropWhile isLabel
  if first.isEmpty then []
  else if isSetting rest then [first]
  else if first == "def".toList || first == "class".toList then [(rest.drop 1).takeWhile isLabel]
  else if first == "import".toList then [rest.drop 1]
  else if first == "from".toList then
    (pieces (fun c => c == ',') (((rest.drop 1).dropWhile isLabel).drop " import ".length)).map dropBlank
  else []

@[irreducible] def boundIn (margin : List Char) (line : String) : List String :=
  (((Definition.exactly margin line.toList).map boundBy).getD []).map String.ofList

def namesIn (margin : List Char) (lines : List String) : List String := lines.flatMap (boundIn margin)

-- A module starts with its description, which takes four lines whatever is said in it.
def moduleNames (lines : List String) : List String := namesIn [] (lines.drop 4)

def classMargin : List Char := List.replicate 4 ' '

def classNames (lines : List String) : List String := namesIn classMargin lines

def isMute : List Char → List Char → Bool
  | [],c :: _ => !isLabel c
  | m :: margin,c :: line => m != c || isMute margin line
  | _,[] => false

def Mute (margin : List Char) (line : String) : Prop := isMute margin line.toList

theorem isMute_append (mute : isMute margin line) (more : List Char) : isMute margin (line ++ more) := by
  induction margin generalizing line with
  | nil =>
    cases line with
    | nil => cases mute
    | cons c rest => exact mute
  | cons m margin ih =>
    cases line with
    | nil => cases mute
    | cons c rest =>
      rw [isMute,Bool.or_eq_true] at mute
      rw [List.cons_append,isMute,Bool.or_eq_true]
      exact mute.imp_right ih

theorem Mute.append {one : String} (mute : Mute margin one) (two : String) : Mute margin (one ++ two) := by
  rw [Mute,String.toList_append]
  exact isMute_append mute two.toList

theorem mute_ofList {line : List Char} (mute : isMute margin line) : Mute margin (String.ofList line) := by
  rwa [Mute,String.toList_ofList]

theorem boundBy_nameless {line : List Char} (first : ∀ c ∈ line.head?, isLabel c = false) : boundBy line = [] := by
  cases line with
  | nil => rfl
  | cons c rest =>
    have none : (c :: rest).takeWhile isLabel = [] := List.takeWhile_cons_of_neg (by simp [first c rfl])
    simp only [boundBy,none,List.isEmpty_nil,if_true]

theorem isMute_nameless {line rest : List Char} (mute : isMute margin line)
    (starts : Definition.exactly margin line = some rest) : ∀ c ∈ rest.head?, isLabel c = false := by
  induction margin generalizing line with
  | nil =>
    cases starts
    cases line with
    | nil => rintro c ⟨⟩
    | cons c later =>
      rintro d ⟨⟩
      simpa [isMute] using mute
  | cons m margin ih =>
    cases line with
    | nil => cases mute
    | cons c later =>
      simp only [Definition.exactly,List.isPrefixOf,List.length_cons,List.drop_succ_cons] at starts
      split at starts
      · rename_i whole
        obtain ⟨same,others⟩ := Bool.and_eq_true_iff.mp whole
        have inside : isMute margin later := by simpa [isMute,beq_iff_eq.mp same] using mute
        have begins : Definition.exactly margin later = some rest := by
          rw [Definition.exactly,if_pos others]
          exact starts
        exact ih inside begins
      · cases starts

theorem Mute.bound {line : String} (mute : Mute margin line) : boundIn margin line = [] := by
  rw [boundIn]
  cases starts : Definition.exactly margin line.toList with
  | none => rfl
  | some rest =>
    rw [Option.map_some,Option.getD_some,boundBy_nameless (isMute_nameless mute starts)]
    rfl

theorem Mute.around {start : String} (mute : Mute margin start) (middle rest : String) :
    boundIn margin (start ++ middle ++ rest) = [] := ((mute.append middle).append rest).bound

structure Labelled (name : List Char) : Prop where
  some : name ≠ []
  all : ∀ c ∈ name, isLabel c

theorem isLabel_class {inside : Char → Bool} (free : [' ',':','=','(','\"','#','@'].all (fun mark => !inside mark))
    (member : inside c) : isLabel c := by
  cases marks : [' ',':','=','(','\"','#','@'].contains c with
  | false => rw [isLabel,marks]; rfl
  | true =>
    have outside := List.all_eq_true.mp free c (List.contains_iff_mem.mp marks)
    rw [member] at outside
    cases outside

theorem word_labelled {name : List Char} (word : IsWordText name) : Labelled name :=
  ⟨word.some,fun c member => isLabel_class (by decide) (word.all c member)⟩

theorem identifier_labelled {name : List Char} (identifier : isIdentifier name) : Labelled name := by
  cases name with
  | nil => cases identifier
  | cons c rest =>
    simp only [isIdentifier,Bool.and_eq_true,List.all_eq_true] at identifier
    refine ⟨List.cons_ne_nil _ _,List.forall_mem_cons.mpr ⟨?_,?_⟩⟩
    · exact isLabel_class (by decide) identifier.1
    · exact fun d member => isLabel_class (by decide) (identifier.2 d member)

section
variable {name : List Char} (labelled : Labelled name) {rest : List Char}
include labelled

theorem boundBy_setting (sets : isSetting rest) (stops : ∀ c ∈ rest.head?, isLabel c = false) :
    boundBy (name ++ rest) = [name] := by
  have some : name.isEmpty = false := List.isEmpty_eq_false_iff.mpr labelled.some
  simp only [boundBy,takeWhile_stops labelled.all stops,dropWhile_stops labelled.all stops,some,sets,Bool.false_eq_true,
    if_false,if_true]

theorem boundBy_defined {keyword : List Char} (defines : keyword = "def".toList ∨ keyword = "class".toList)
    (stops : ∀ c ∈ rest.head?, isLabel c = false) : boundBy (keyword ++ ' ' :: (name ++ rest)) = [name] := by
  have opens : ∀ c ∈ (' ' :: (name ++ rest)).head?, isLabel c = false := by
    rintro c ⟨⟩
    decide
  have keys : ∀ c ∈ keyword, isLabel c := by
    rcases defines with rfl | rfl <;> exact List.all_eq_true.mp (by decide)
  have some : keyword.isEmpty = false := by
    rcases defines with rfl | rfl <;> decide
  have defining : (keyword == "def".toList || keyword == "class".toList) = true := by simpa using defines
  have plain : isSetting (' ' :: (name ++ rest)) = false := by
    obtain ⟨c,others,rfl⟩ := List.exists_cons_of_ne_nil labelled.some
    have other : c ≠ '=' := by
      rintro rfl
      exact absurd (labelled.all '=' List.mem_cons_self) (by decide)
    simp [isSetting,List.isPrefixOf,Ne.symm other]
  simp only [boundBy,takeWhile_stops keys opens,dropWhile_stops keys opens,some,plain,defining,Bool.false_eq_true,if_false,
    if_true,List.drop_succ_cons,List.drop_zero,takeWhile_stops labelled.all stops]

end

section
variable {margin : List Char} {line : String}

theorem boundIn_split (split : line.toList = margin ++ rest) : boundIn margin line = (boundBy rest).map String.ofList := by
  simp [boundIn,split,Definition.exactly]

theorem boundIn_ofList (line : List Char) {names : List String}
    (found : (((Definition.exactly margin line).map boundBy).getD []).map String.ofList = names) :
    boundIn margin (String.ofList line) = names := by
  rw [boundIn,String.toList_ofList,found]

variable {name : String} (labelled : Labelled name.toList)
include labelled

theorem boundIn_function (split : line.toList = margin ++ ("def".toList ++ ' ' :: (name.toList ++ '(' :: rest))) :
    boundIn margin line = [name] := by
  have stops : ∀ c ∈ ('(' :: rest).head?, isLabel c = false := by rintro c ⟨⟩; decide
  rw [boundIn_split split,boundBy_defined labelled (.inl rfl) stops,List.map_singleton,String.ofList_toList]

theorem boundIn_class (split : line.toList = margin ++ ("class".toList ++ ' ' :: (name.toList ++ rest)))
    (stops : ∀ c ∈ rest.head?, isLabel c = false) : boundIn margin line = [name] := by
  rw [boundIn_split split,boundBy_defined labelled (.inr rfl) stops,List.map_singleton,String.ofList_toList]

theorem boundIn_setting (split : line.toList = margin ++ (name.toList ++ rest)) (sets : isSetting rest)
    (stops : ∀ c ∈ rest.head?, isLabel c = false) : boundIn margin line = [name] := by
  rw [boundIn_split split,boundBy_setting labelled sets stops,List.map_singleton,String.ofList_toList]

end

section
variable {margin : List Char} {line : String} {rest : List String} {names : List String}

theorem namesIn_append (one two : List String) : namesIn margin (one ++ two) = namesIn margin one ++ namesIn margin two :=
  List.flatMap_append

theorem namesIn_nil : namesIn margin [] = [] := rfl

theorem namesIn_quiet (quiet : boundIn margin line = []) (others : namesIn margin rest = names) :
    namesIn margin (line :: rest) = names := by
  rw [namesIn,List.flatMap_cons,quiet]
  exact others

theorem namesIn_own (own : boundIn margin line = [name]) (others : namesIn margin rest = names) :
    namesIn margin (line :: rest) = name :: names := by
  rw [namesIn,List.flatMap_cons,own]
  exact congrArg (name :: ·) others

theorem namesIn_mute {lines : List String} (mute : ∀ line ∈ lines, Mute margin line) : namesIn margin lines = [] :=
  List.flatMap_eq_nil_iff.mpr fun line member => (mute line member).bound

theorem namesIn_lines {lines : List String} {others : List String} (own : namesIn margin lines = names)
    (later : namesIn margin rest = others) : namesIn margin (lines ++ rest) = names ++ others := by
  rw [namesIn_append,own,later]

theorem namesIn_flatMap {items : List α} {lines names : α → List String}
    (own : ∀ item ∈ items, namesIn margin (lines item) = names item) :
    namesIn margin (items.flatMap lines) = items.flatMap names := by
  rw [namesIn,List.flatMap_assoc]
  exact List.flatMap_congr own

theorem namesIn_map {items : List α} {line name : α → String} (own : ∀ item ∈ items, boundIn margin (line item) = [name item]) :
    namesIn margin (items.map line) = items.map name := by
  induction items with
  | nil => rfl
  | cons item rest ih =>
    obtain ⟨first,others⟩ := List.forall_mem_cons.mp own
    exact namesIn_own first (ih others)

end
end NativeBinding
