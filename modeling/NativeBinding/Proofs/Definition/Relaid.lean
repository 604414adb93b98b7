import NativeBinding.Proofs.Definition.Comments
import NativeBinding.Proofs.Definition.Rereading

namespace NativeBinding

namespace Definition
open Text

-- One change of the blanks of a text: a run of them, maximal or not, becomes another run,
-- or some are put next to a seam.
inductive Respaced : List Char → List Char → Prop
  | run (some : gap ≠ []) (others : gap' ≠ []) (blank : ∀ c ∈ gap, isBlank c) (blank' : ∀ c ∈ gap', isBlank c) :
      Respaced (front ++ gap ++ rest) (front ++ gap' ++ rest)
  | before (seam : isSeam c) (blank : ∀ d ∈ gap, isBlank d) : Respaced (front ++ c :: rest) (front ++ gap ++ c :: rest)
  | behind (seam : isSeam c) (blank : ∀ d ∈ gap, isBlank d) : Respaced (front ++ c :: rest) (front ++ c :: gap ++ rest)

def Relaid (text other : List Char) : Prop := Relation.ReflTransGen Respaced text other

section
variable {text other gap gap' : List Char}

theorem startsBlank_blanks (some : gap ≠ []) (blank : ∀ c ∈ gap, isBlank c) (rest : List Char) : startsBlank (gap ++ rest) = true := by
  cases gap with
  | nil => exact absurd rfl some
  | cons c more => exact blank c List.mem_cons_self

theorem Respaced.loose (changed : Respaced text other) : Loose text other := by
  cases changed with
  | @run gap gap' front rest some others blank blank' =>
    have loose : Loose (gap ++ rest) (gap' ++ rest) := by
      apply Loose.blanks _ blank'
      apply Loose.symm
      exact (Loose.refl rest).blanks blank
    have apart : Apart (gap ++ rest) (gap' ++ rest) := by
      right
      rw [startsBlank_blanks some blank,startsBlank_blanks others blank']
    rw [List.append_assoc,List.append_assoc]
    exact (Behind.front ⟨loose,apart⟩ front).loose
  | @before c gap front rest seam blank =>
    have shown := (isSeam_glue seam).2
    have apart : Apart (c :: rest) (gap ++ c :: rest) := by
      left
      rw [dropBlank_same shown]
      simpa using seam
    rw [List.append_assoc]
    exact (Behind.front ⟨(Loose.refl (c :: rest)).blanks blank,apart⟩ front).loose
  | @behind c gap front rest seam blank =>
    have shown := (isSeam_glue seam).2
    have loose : Loose (c :: rest) (c :: (gap ++ rest)) := by
      rw [Loose,dropBlank_same shown,dropBlank_same shown]
      exact .cons shown (.inl seam) ((Loose.refl rest).blanks blank)
    rw [List.append_assoc]
    exact (Behind.front ⟨loose,.inr rfl⟩ front).loose

theorem pair_dropBlank (shown : isBlank a = false) (text : List Char) : [a,b] <:+: dropBlank text ↔ [a,b] <:+: text := by
  induction text with
  | nil => rfl
  | cons c rest ih =>
    by_cases blank : isBlank c
    · have other : c ≠ a := by
        rintro rfl
        exact absurd blank (by simp [shown])
      have drop : dropBlank (c :: rest) = dropBlank rest := List.dropWhile_cons_of_pos blank
      rw [drop,ih,pair_within]
      simp [other]
    · rw [dropBlank_same (Bool.eq_false_of_not_eq_true blank)]

theorem pair_spaced (spaced : Spaced text other) (first : isBlank a = false ∧ isSeam a = false)
    (second : isBlank b = false ∧ isSeam b = false) (inside : [a,b] <:+: other) : [a,b] <:+: text := by
  induction spaced with
  | nil => exact inside
  | @cons c rest left shown apart later ih =>
    rw [pair_within] at inside ⊢
    rcases inside with ⟨rfl,next⟩ | inside
    · left
      obtain ⟨more,rfl⟩ := List.head?_eq_some_iff.mp next
      have behind : Behind rest (b :: more) := ⟨later,apart.resolve_left (by simp [first.2])⟩
      obtain ⟨others,rfl,_⟩ := behind.symm.begins second.1 second.2
      exact ⟨rfl,rfl⟩
    · right
      rw [← pair_dropBlank first.1] at inside ⊢
      exact ih inside

theorem uncommented_loose (loose : Loose text other) (free : Uncommented text) : Uncommented other := by
  have pair {b : Char} (plain : isBlank b = false ∧ isSeam b = false) (inside : ['/',b] <:+: other) : ['/',b] <:+: text := by
    have shown : isBlank '/' = false := by decide
    rw [← pair_dropBlank shown] at inside ⊢
    exact pair_spaced loose ⟨shown,by decide⟩ plain inside
  exact ⟨fun inside => free.line (pair (by decide) inside),fun inside => free.block (pair (by decide) inside)⟩

theorem readChars_loose (loose : Loose text other) (free : Uncommented text) (model : Model) :
    readChars text = .ok model ↔ readChars other = .ok model := by
  rw [readChars_bare,readChars_bare,free.dropped,(uncommented_loose loose free).dropped]
  exact ⟨readBare_loose loose,readBare_loose loose.symm⟩

end
end Definition

-- What a text without comments describes does not depend on how it is laid out, and neither
-- does whether it describes anything.
theorem layout_irrelevant {text other : String} (free : Definition.Uncommented text.toList)
    (relaid : Definition.Relaid text.toList other.toList) (model : Model) :
    Model.read text = .ok model ↔ Model.read other = .ok model := by
  have kept (chars : List Char) (reached : Definition.Relaid text.toList chars) :
      Definition.Uncommented chars ∧ (Definition.readChars text.toList = .ok model ↔ Definition.readChars chars = .ok model) := by
    induction reached with
    | refl => exact ⟨free,Iff.rfl⟩
    | tail _ changed ih =>
      obtain ⟨clean,same⟩ := ih
      exact ⟨Definition.uncommented_loose changed.loose clean,same.trans (Definition.readChars_loose changed.loose clean model)⟩
  exact (kept other.toList relaid).2

theorem layout_irrelevant_sample : Model.read "namespace n;fn f();" = .ok ⟨"n",[],[],[⟨"f",[],none⟩],[]⟩ ∧
    Model.read "namespace\u2003\tn;\nfn f ();" = .ok ⟨"n",[],[],[⟨"f",[],none⟩],[]⟩ := by
  have bare : Model.read "namespace n;fn f();" = .ok ⟨"n",[],[],[⟨"f",[],none⟩],[]⟩ := by cbv
  have start : "namespace n;fn f();".toList = "namespace".toList ++ [' '] ++ "n;fn f();".toList := by decide
  have one : Definition.Respaced ("namespace".toList ++ [' '] ++ "n;fn f();".toList)
      ("namespace".toList ++ ['\u2003','\t'] ++ "n;fn f();".toList) :=
    .run (by simp) (by simp) (by simp; decide) (by simp; decide)
  have middle : "namespace".toList ++ ['\u2003','\t'] ++ "n;fn f();".toList =
      "namespace\u2003\tn".toList ++ ';' :: "fn f();".toList := by decide
  have two : Definition.Respaced ("namespace\u2003\tn".toList ++ ';' :: "fn f();".toList)
      ("namespace\u2003\tn".toList ++ ';' :: ['\n'] ++ "fn f();".toList) := .behind (by decide) (by simp; decide)
  have last : "namespace\u2003\tn".toList ++ ';' :: ['\n'] ++ "fn f();".toList =
      "namespace\u2003\tn;\nfn f".toList ++ '(' :: ");".toList := by decide
  have three : Definition.Respaced ("namespace\u2003\tn;\nfn f".toList ++ '(' :: ");".toList)
      ("namespace\u2003\tn;\nfn f".toList ++ [' '] ++ '(' :: ");".toList) := .before (by decide) (by simp; decide)
  have done : "namespace\u2003\tn;\nfn f ();".toList = "namespace\u2003\tn;\nfn f".toList ++ [' '] ++ '(' :: ");".toList := by
    decide
  have relaid : Definition.Relaid "namespace n;fn f();".toList "namespace\u2003\tn;\nfn f ();".toList := by
    rw [middle] at one
    rw [last] at two
    rw [start,done]
    exact ((Relation.ReflTransGen.single one).tail two).tail three
  exact ⟨bare,(layout_irrelevant (by decide) relaid _).mp bare⟩

end NativeBinding
