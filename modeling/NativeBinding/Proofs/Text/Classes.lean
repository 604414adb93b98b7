import NativeBinding.Proofs.Text.Solid

namespace NativeBinding.Text

theorem inRuns_under {runs : List Nat} (above : ∀ bound ∈ runs, n < bound) : inRuns runs n = false := by
  cases runs with
  | nil => rfl
  | cons bound rest => exact inRuns_below bound rest n (above bound List.mem_cons_self)

-- A class from some place on: whether the place is in it, and the bounds that are ahead.
structure Ahead where
  inside : Bool
  bounds : List Nat

namespace Ahead

def holds (ahead : Ahead) (n : Nat) : Bool := ahead.inside ^^ inRuns ahead.bounds n

def past (bound : Nat) : Ahead → Ahead
  | ⟨inside,x :: rest⟩ => if x = bound then ⟨!inside,rest⟩ else ⟨inside,x :: rest⟩
  | ⟨inside,[]⟩ => ⟨inside,[]⟩

variable {ahead : Ahead} {bound : Nat}

theorem holds_under (above : ∀ other ∈ ahead.bounds, n < other) : ahead.holds n = ahead.inside := by
  rw [holds,inRuns_under above,Bool.xor_false]

theorem past_here (inside : Bool) (rest : List Nat) : past bound ⟨inside,bound :: rest⟩ = ⟨!inside,rest⟩ := if_pos rfl

theorem past_other (inside : Bool) (rest : List Nat) (other : x ≠ bound) :
    past bound ⟨inside,x :: rest⟩ = ⟨inside,x :: rest⟩ := if_neg other

theorem past_holds (reached : bound ≤ n) : (ahead.past bound).holds n = ahead.holds n := by
  obtain ⟨inside,bounds⟩ := ahead
  cases bounds with
  | nil => rfl
  | cons x rest =>
    by_cases here : x = bound
    · subst here
      rw [past_here,holds,holds,inRuns_above x rest n reached]
      cases inside <;> simp
    · rw [past_other inside rest here]

theorem past_suffix (ahead : Ahead) (bound : Nat) : (ahead.past bound).bounds <:+ ahead.bounds := by
  obtain ⟨inside,bounds⟩ := ahead
  cases bounds with
  | nil => exact List.suffix_rfl
  | cons x rest =>
    by_cases here : x = bound
    · subst here
      rw [past_here]
      exact List.suffix_cons x rest
    · rw [past_other inside rest here]

theorem past_beyond (ascending : ahead.bounds.Pairwise (· < ·)) (least : ∀ first ∈ ahead.bounds.head?, bound ≤ first) :
    ∀ other ∈ (ahead.past bound).bounds, bound < other := by
  obtain ⟨inside,bounds⟩ := ahead
  cases bounds with
  | nil => exact List.forall_mem_nil _
  | cons x rest =>
    obtain ⟨later,_⟩ := List.pairwise_cons.mp ascending
    by_cases here : x = bound
    · subst here
      rwa [past_here]
    · rw [past_other inside rest here]
      have before : bound < x := lt_of_le_of_ne (least x rfl) (Ne.symm here)
      exact List.forall_mem_cons.mpr ⟨before,fun z member => before.trans (later z member)⟩

theorem holds_before (ascending : ahead.bounds.Pairwise (· < ·)) (least : ∀ first ∈ ahead.bounds.head?, bound ≤ first)
    (before : n < bound) : ahead.holds n = ahead.inside := by
  refine holds_under ?_
  obtain ⟨inside,bounds⟩ := ahead
  cases bounds with
  | nil => exact List.forall_mem_nil _
  | cons x rest =>
    have first : n < x := lt_of_lt_of_le before (least x rfl)
    exact List.forall_mem_cons.mpr ⟨first,fun z member => first.trans ((List.pairwise_cons.mp ascending).1 z member)⟩

theorem past_shorter (here : ahead.bounds.head? = some bound) : (ahead.past bound).bounds.length < ahead.bounds.length := by
  obtain ⟨inside,bounds⟩ := ahead
  cases bounds with
  | nil => cases here
  | cons x rest =>
    cases here
    rw [past_here]
    exact Nat.lt_succ_self _

end Ahead

def turn (before after : Bool) (bound : Nat) (rest : List Nat) : List Nat :=
  if before = after then rest else bound :: rest

theorem turn_mem (member : z ∈ turn before after bound rest) : z = bound ∨ z ∈ rest := by
  unfold turn at member
  split at member
  · exact .inr member
  · exact List.mem_cons.mp member

theorem inRuns_turn {before after : Bool} {bound : Nat} {rest : List Nat} (n : Nat) (beyond : ∀ other ∈ rest, bound < other) :
    (before ^^ inRuns (turn before after bound rest) n) = if n < bound then before else after ^^ inRuns rest n := by
  unfold turn
  by_cases below : n < bound
  · rw [if_pos below]
    have under : inRuns rest n = false := inRuns_under (fun other member => below.trans (beyond other member))
    split
    · rw [under,Bool.xor_false]
    · rw [inRuns_below _ _ _ below,Bool.xor_false]
  · rw [if_neg below]
    split
    · rename_i same
      rw [same]
    · rename_i other
      rw [inRuns_above _ _ _ (Nat.not_lt.mp below)]
      cases before <;> cases after <;> simp_all

def least : List Nat → List Nat → Option Nat
  | [],[] => none
  | x :: _,[] => some x
  | [],y :: _ => some y
  | x :: _,y :: _ => some (min x y)

theorem least_none {xs ys : List Nat} (none : least xs ys = none) : xs = [] ∧ ys = [] := by
  cases xs <;> cases ys <;> first | exact ⟨rfl,rfl⟩ | cases none

theorem least_some {xs ys : List Nat} (found : least xs ys = some bound) :
    (∀ x ∈ xs.head?, bound ≤ x) ∧ (∀ y ∈ ys.head?, bound ≤ y) ∧ (xs.head? = some bound ∨ ys.head? = some bound) := by
  cases xs <;> cases ys <;> cases found <;> simp
  omega

def withoutFrom : Nat → Ahead → Ahead → List Nat
  | 0,_,_ => []
  | count + 1,one,two =>
    match least one.bounds two.bounds with
    | none => []
    | some bound =>
      turn (one.inside && !two.inside) ((one.past bound).inside && !(two.past bound).inside) bound
        (withoutFrom count (one.past bound) (two.past bound))

def without (runs others : List Nat) : List Nat := withoutFrom (runs.length + others.length) ⟨false,runs⟩ ⟨false,others⟩

theorem withoutFrom_mem {count : Nat} {one two : Ahead} (member : z ∈ withoutFrom count one two) :
    z ∈ one.bounds ∨ z ∈ two.bounds := by
  induction count generalizing one two with
  | zero => cases member
  | succ count ih =>
    simp only [withoutFrom] at member
    split at member
    · cases member
    · rename_i bound found
      obtain ⟨_,_,own⟩ := least_some found
      rcases turn_mem member with rfl | later
      · exact own.imp List.mem_of_mem_head? List.mem_of_mem_head?
      · exact (ih later).imp (fun member => (one.past_suffix bound).subset member) (fun member => (two.past_suffix bound).subset member)

theorem withoutFrom_holds (count : Nat) {one two : Ahead} (first : one.bounds.Pairwise (· < ·)) (second : two.bounds.Pairwise (· < ·))
    (enough : one.bounds.length + two.bounds.length ≤ count) (n : Nat) :
    ((one.inside && !two.inside) ^^ inRuns (withoutFrom count one two) n) = (one.holds n && !two.holds n) := by
  have ended {one two : Ahead} (none : one.bounds = [] ∧ two.bounds = []) :
      ((one.inside && !two.inside) ^^ false) = (one.holds n && !two.holds n) := by
    rw [Ahead.holds,Ahead.holds,none.1,none.2]
    simp [inRuns]
  induction count generalizing one two with
  | zero =>
    obtain ⟨left,right⟩ := Nat.add_eq_zero_iff.mp (Nat.le_zero.mp enough)
    exact ended ⟨List.length_eq_zero_iff.mp left,List.length_eq_zero_iff.mp right⟩
  | succ count ih =>
    simp only [withoutFrom]
    split
    · rename_i none
      exact ended (least_none none)
    · rename_i bound found
      obtain ⟨left,right,own⟩ := least_some found
      have beyond := Ahead.past_beyond first left
      have beyond' := Ahead.past_beyond second right
      rw [inRuns_turn n fun z member => (withoutFrom_mem member).elim (beyond z) (beyond' z)]
      split
      · rename_i below
        rw [Ahead.holds_before first left below,Ahead.holds_before second right below]
      · rename_i reached
        have reached := Nat.not_lt.mp reached
        have fewer : (one.past bound).bounds.length + (two.past bound).bounds.length ≤ count := by
          have shorter := (one.past_suffix bound).length_le
          have shorter' := (two.past_suffix bound).length_le
          rcases own with own | own
          · have fewer := Ahead.past_shorter own
            omega
          · have fewer := Ahead.past_shorter own
            omega
        rw [ih (first.sublist (one.past_suffix bound).sublist) (second.sublist (two.past_suffix bound).sublist) fewer,
          Ahead.past_holds reached,Ahead.past_holds reached]

theorem inRuns_without {runs others : List Nat} (first : runs.Pairwise (· < ·)) (second : others.Pairwise (· < ·)) (n : Nat) :
    inRuns (without runs others) n = (inRuns runs n && !inRuns others n) := by
  have start (bounds : List Nat) : Ahead.holds ⟨false,bounds⟩ n = inRuns bounds n := Bool.false_xor _
  have same := @withoutFrom_holds (runs.length + others.length) ⟨false,runs⟩ ⟨false,others⟩ first second (Nat.le_refl _) n
  rwa [start,start,Bool.false_and,Bool.false_xor] at same

-- Characters of words that no identifier has: numerals that are no digits, mostly, and
-- letters that stand for more than one.
def strayRuns : List Nat := [
  178, 180, 185, 186, 188, 191, 890, 891, 2548, 2554, 2930, 2936, 3056, 3059, 3192, 3199, 3416,
  3423, 3440, 3449, 3882, 3892, 4978, 4989, 6128, 6138, 8304, 8305, 8308, 8314, 8320, 8330,
  8528, 8544, 8585, 8586, 9312, 9372, 9450, 9472, 10102, 10132, 11517, 11518, 11823, 11824,
  12690, 12694, 12832, 12842, 12872, 12880, 12881, 12896, 12928, 12938, 12977, 12992, 43056,
  43062, 64606, 64612, 65018, 65020, 65136, 65137, 65138, 65139, 65140, 65141, 65142, 65143,
  65144, 65145, 65146, 65147, 65148, 65149, 65150, 65151, 65799, 65844, 65909, 65913, 65930,
  65932, 66273, 66300, 66336, 66340, 67672, 67680, 67705, 67712, 67751, 67760, 67835, 67840,
  67862, 67868, 68028, 68030, 68032, 68048, 68050, 68096, 68160, 68169, 68221, 68223, 68253,
  68256, 68331, 68336, 68440, 68448, 68472, 68480, 68521, 68528, 68858, 68864, 69216, 69247,
  69405, 69415, 69457, 69461, 69573, 69580, 69714, 69734, 70113, 70133, 71482, 71484, 71914,
  71923, 72794, 72813, 73664, 73685, 93019, 93026, 93824, 93847, 119520, 119540, 119648, 119673,
  125127, 125136, 126065, 126124, 126125, 126128, 126129, 126133, 126209, 126254, 126255,
  126270, 127232, 127245]

-- Characters of identifiers that are no decimal digits, but that no identifier starts with.
def lateRuns : List Nat := [3635, 3636, 3763, 3764, 4969, 4978, 6618, 6619, 65438, 65440]

def isStray (c : Char) : Bool := inRuns strayRuns c.toNat

def isLate (c : Char) : Bool := inRuns lateRuns c.toNat

-- The tables are in order, and so is what is left of them, and what is left is one of them.
structure RunsCompared : Prop where
  words : wordRuns.Pairwise (· < ·)
  digits : digitRuns.Pairwise (· < ·)
  starts : identifierStartRuns.Pairwise (· < ·)
  rests : identifierRestRuns.Pairwise (· < ·)
  strays : strayRuns.Pairwise (· < ·)
  named : (without wordRuns strayRuns).Pairwise (· < ·)
  undigited : (without (without wordRuns strayRuns) digitRuns).Pairwise (· < ·)
  stray : without wordRuns identifierRestRuns = strayRuns
  late : without (without (without wordRuns strayRuns) digitRuns) identifierStartRuns = lateRuns
  inside : without identifierStartRuns identifierRestRuns = []
  outside : without identifierStartRuns digitRuns = identifierStartRuns

theorem runs_compared : RunsCompared where
  words := List.isChain_iff_pairwise.mp (by decide +kernel)
  digits := List.isChain_iff_pairwise.mp (by decide +kernel)
  starts := List.isChain_iff_pairwise.mp (by decide +kernel)
  rests := List.isChain_iff_pairwise.mp (by decide +kernel)
  strays := List.isChain_iff_pairwise.mp (by decide +kernel)
  named := List.isChain_iff_pairwise.mp (by decide +kernel)
  undigited := List.isChain_iff_pairwise.mp (by decide +kernel)
  stray := by decide +kernel
  late := by decide +kernel
  inside := by decide +kernel
  outside := by decide +kernel

section
variable (n : Nat)

theorem inRuns_stray : inRuns strayRuns n = (inRuns wordRuns n && !inRuns identifierRestRuns n) := by
  rw [← runs_compared.stray,inRuns_without runs_compared.words runs_compared.rests]

theorem inRuns_late : inRuns lateRuns n =
    (inRuns wordRuns n && !inRuns strayRuns n && !inRuns digitRuns n && !inRuns identifierStartRuns n) := by
  rw [← runs_compared.late,inRuns_without runs_compared.undigited runs_compared.starts,
    inRuns_without runs_compared.named runs_compared.digits,inRuns_without runs_compared.words runs_compared.strays]

theorem inRuns_start (start : inRuns identifierStartRuns n) : inRuns identifierRestRuns n ∧ inRuns digitRuns n = false := by
  have inside := inRuns_without runs_compared.starts runs_compared.rests n
  have outside := inRuns_without runs_compared.starts runs_compared.digits n
  rw [runs_compared.inside,start] at inside
  rw [runs_compared.outside,start] at outside
  exact ⟨by simpa [inRuns] using inside,by simpa using outside⟩

end

theorem ascii_word (c : Char) (ascii : c.toNat < 128) (word : isWord c) :
    isStray c = false ∧ isLate c = false ∧ isIdentifierRest c ∧ isIdentifierStart c = !isDecimal c := by
  have all : ∀ number < 128, isWord (Char.ofNat number) → isStray (Char.ofNat number) = false ∧
      isLate (Char.ofNat number) = false ∧ isIdentifierRest (Char.ofNat number) ∧
      isIdentifierStart (Char.ofNat number) = !isDecimal (Char.ofNat number) := by decide
  have own := all c.toNat ascii
  rw [Char.ofNat_toNat] at own
  exact own word

theorem word_rest (word : isWord c) : isIdentifierRest c = !isStray c := by
  by_cases ascii : c.toNat < 128
  · obtain ⟨stray,_,rest,_⟩ := ascii_word c ascii word
    rw [stray,rest]
    rfl
  · simp only [isWord,if_neg ascii] at word
    rw [isStray,inRuns_stray,word,isIdentifierRest,if_neg ascii]
    simp

theorem word_start (word : isWord c) : isIdentifierStart c = (!isStray c && !isDecimal c && !isLate c) := by
  by_cases ascii : c.toNat < 128
  · obtain ⟨stray,late,_,start⟩ := ascii_word c ascii word
    rw [stray,late,start]
    simp
  · simp only [isWord,if_neg ascii] at word
    simp only [isIdentifierStart,isStray,isDecimal,isLate,if_neg ascii,inRuns_late,inRuns_stray,word]
    cases start : inRuns identifierStartRuns c.toNat with
    | false => cases inRuns identifierRestRuns c.toNat <;> cases inRuns digitRuns c.toNat <;> rfl
    | true =>
      obtain ⟨rest,digit⟩ := inRuns_start _ start
      rw [rest,digit]
      rfl

structure Proper (text : List Char) : Prop where
  first : ∀ c ∈ text.head?, isDecimal c = false ∧ isLate c = false
  all : ∀ c ∈ text, isStray c = false

theorem isIdentifier_iff (word : IsWordText text) : isIdentifier text ↔ Proper text := by
  obtain ⟨some,all⟩ := word
  cases text with
  | nil => exact absurd rfl some
  | cons c rest =>
    obtain ⟨own,others⟩ := List.forall_mem_cons.mp all
    have tail : rest.all isIdentifierRest ↔ ∀ d ∈ rest, isStray d = false := by
      rw [List.all_eq_true]
      refine forall₂_congr fun d member => ?_
      rw [word_rest (others d member),Bool.not_eq_true']
    rw [isIdentifier,Bool.and_eq_true,tail,word_start own]
    simp only [Bool.and_eq_true,Bool.not_eq_true']
    constructor
    · rintro ⟨⟨⟨stray,decimal⟩,late⟩,proper⟩
      exact ⟨by rintro d ⟨⟩; exact ⟨decimal,late⟩,List.forall_mem_cons.mpr ⟨stray,proper⟩⟩
    · rintro ⟨first,proper⟩
      obtain ⟨decimal,late⟩ := first c rfl
      obtain ⟨stray,proper⟩ := List.forall_mem_cons.mp proper
      exact ⟨⟨⟨stray,decimal⟩,late⟩,proper⟩

theorem isIdentifier_rest {text : List Char} (identifier : isIdentifier text) : ∀ c ∈ text, isIdentifierRest c := by
  have start (c : Char) (start : isIdentifierStart c) : isIdentifierRest c := by
    unfold isIdentifierStart at start
    unfold isIdentifierRest
    split
    · rename_i ascii
      rw [if_pos ascii] at start
      rcases Bool.or_eq_true_iff.mp start with letter | low
      · rw [letter]
        rfl
      · rw [low,Bool.or_true]
    · rename_i other
      rw [if_neg other] at start
      exact (inRuns_start _ start).1
  cases text with
  | nil => cases identifier
  | cons c rest =>
    obtain ⟨first,others⟩ := Bool.and_eq_true_iff.mp identifier
    exact List.forall_mem_cons.mpr ⟨start c first,List.all_eq_true.mp others⟩

theorem isIdentifier_append {one other : List Char} (some : one ≠ []) :
    isIdentifier (one ++ other) ↔ isIdentifier one ∧ ∀ c ∈ other, isIdentifierRest c := by
  cases one with
  | nil => exact absurd rfl some
  | cons c rest => simp [isIdentifier,List.all_append,and_assoc]

end NativeBinding.Text
