import NativeBinding.Proofs.Sequence

namespace NativeBinding

-- What a name of a wrapper is meant to stand for: an argument as the caller gave it, what
-- the wrapper has made itself, or what the module has under this name.
inductive Meaning
  | given (position : Nat)
  | pending
  | lowered (position : Nat)
  | answer
  | outer
deriving DecidableEq,Repr

abbrev Bindings := List (String × Meaning)

structure Line where
  reads : Bindings
  sets : Option (String × Meaning)
deriving DecidableEq,Repr

namespace Bindings

-- A name that is bound anywhere in a body is local everywhere in it, and stands for
-- nothing before it is bound.
def meaning? (locals : List String) (scope : Bindings) (name : String) : Option Meaning :=
  if name ∈ locals then scope.lookup name else some .outer

def Means (locals : List String) (scope : Bindings) (read : String × Meaning) : Prop :=
  meaning? locals scope read.1 = some read.2

def IsInner (locals : List String) (scope : Bindings) : Prop := ∀ binding ∈ scope, binding.1 ∈ locals ∧ binding.2 ≠ .outer

variable {locals : List String} {scope later earlier : Bindings}

theorem IsInner.outer (inner : IsInner locals scope) : Means locals scope (name,.outer) ↔ name ∉ locals := by
  simp only [Means,meaning?]
  split
  · rename_i known
    refine iff_of_false (fun found => ?_) (fun other => other known)
    exact (inner _ (lookup_mem found)).2 rfl
  · rename_i other
    exact iff_of_true rfl other

theorem IsInner.own (inner : IsInner locals scope) (own : meaning ≠ .outer) :
    Means locals scope (name,meaning) ↔ scope.lookup name = some meaning := by
  simp only [Means,meaning?]
  split
  · exact Iff.rfl
  · rename_i other
    refine iff_of_false (fun same => own (Option.some.inj same).symm) (fun found => ?_)
    exact other (inner _ (lookup_mem found)).1

theorem IsInner.owns (inner : IsInner locals scope) {bindings : Bindings} (own : ∀ binding ∈ bindings, binding.2 ≠ .outer) :
    (∀ binding ∈ bindings, Means locals scope binding) ↔ ∀ binding ∈ bindings, scope.lookup binding.1 = some binding.2 :=
  forall₂_congr (fun binding member => inner.own (own binding member))

theorem lookup_past (other : ∀ binding ∈ later, binding.2 ≠ meaning) : (later ++ earlier).lookup name = some meaning ↔
    name ∉ later.map Prod.fst ∧ earlier.lookup name = some meaning := by
  induction later with
  | nil => simp
  | cons binding rest ih =>
    obtain ⟨key,own⟩ := binding
    obtain ⟨first,others⟩ := List.forall_mem_cons.mp other
    have below := ih others
    simp only [List.cons_append,List.lookup_cons,List.map_cons,List.mem_cons,not_or]
    by_cases same : name = key
    · subst same
      simp only [beq_self_eq_true]
      exact iff_of_false (fun found => first (Option.some.inj found)) (fun both => both.1.1 trivial)
    · have apart : (name == key) = false := beq_eq_false_iff_ne.mpr same
      rw [apart]
      exact below.trans ⟨fun both => ⟨⟨same,both.1⟩,both.2⟩,fun both => ⟨both.1.2,both.2⟩⟩

theorem lookups_iff {bindings : Bindings} (values : (bindings.map Prod.snd).Nodup) (perm : later.Perm bindings)
    (earlier : Bindings) :
    (∀ binding ∈ bindings, (later ++ earlier).lookup binding.1 = some binding.2) ↔ (bindings.map Prod.fst).Nodup := by
  constructor
  · intro all
    clear perm
    induction bindings with
    | nil => exact List.nodup_nil
    | cons binding rest ih =>
      obtain ⟨first,others⟩ := List.forall_mem_cons.mp all
      obtain ⟨fresh,distinct⟩ := List.nodup_cons.mp values
      refine List.nodup_cons.mpr ⟨?_,ih distinct others⟩
      intro taken
      obtain ⟨other,member,same⟩ := List.mem_map.mp taken
      have found := others other member
      rw [same,first] at found
      exact fresh (Option.some.inj found ▸ List.mem_map_of_mem member)
  · intro distinct binding member
    have keys : (later.map Prod.fst).Nodup := (perm.map Prod.fst).nodup_iff.mpr distinct
    rw [List.lookup_append,lookup_member keys (perm.mem_iff.mpr member)]
    rfl

end Bindings

namespace Line

def IsFaithful (locals : List String) (scope : Bindings) (line : Line) : Prop :=
  ∀ read ∈ line.reads, scope.Means locals read

def scopeAfter (scope : Bindings) : List Line → Bindings
  | [] => scope
  | line :: rest => scopeAfter (line.sets.toList ++ scope) rest

def AllFaithful (locals : List String) : Bindings → List Line → Prop
  | _,[] => True
  | scope,line :: rest => line.IsFaithful locals scope ∧ AllFaithful locals (line.sets.toList ++ scope) rest

theorem allFaithful_append (locals : List String) (scope : Bindings) (one two : List Line) :
    AllFaithful locals scope (one ++ two) ↔ AllFaithful locals scope one ∧ AllFaithful locals (scopeAfter scope one) two := by
  induction one generalizing scope with
  | nil => exact ⟨fun faithful => ⟨trivial,faithful⟩,And.right⟩
  | cons line rest ih => rw [List.cons_append,AllFaithful,AllFaithful,scopeAfter,ih,and_assoc]

end Line
end NativeBinding
