import Mathlib

namespace NativeBinding

-- Reading, writing and what is done with the component all fail in one way: with the
-- state that was reached. These are the ways through two actions in sequence.
section
variable {ε σ α β : Type} {first : EStateM ε σ α} {next : α → EStateM ε σ β} {s t u : σ}

theorem seq_ok {a : α} (done : first s = .ok a t) : (first >>= next) s = next a t := by
  change EStateM.bind first next s = _
  rw [EStateM.bind,done]

theorem seq_error {e : ε} (failed : first s = .error e t) : (first >>= next) s = .error e t := by
  change EStateM.bind first next s = _
  rw [EStateM.bind,failed]

theorem seq_ok_parts {b : β} (done : (first >>= next) s = .ok b u) :
    ∃ a t, first s = .ok a t ∧ next a t = .ok b u := by
  cases run : first s with
  | ok a t => rw [seq_ok run] at done; exact ⟨a,t,rfl,done⟩
  | error e t => rw [seq_error run] at done; cases done

def reached : EStateM.Result ε σ α → σ
  | .ok _ state => state
  | .error _ state => state

def answered : EStateM.Result ε σ α → Except ε α
  | .ok a _ => .ok a
  | .error e _ => .error e

@[simp] theorem pure_run (a : α) : (pure a : EStateM ε σ α) s = .ok a s := rfl

@[simp] theorem get_run : (get : EStateM ε σ σ) s = .ok s s := rfl

@[simp] theorem set_run : (set t : EStateM ε σ PUnit) s = .ok ⟨⟩ t := rfl

@[simp] theorem modify_run (change : σ → σ) : (modify change : EStateM ε σ PUnit) s = .ok ⟨⟩ (change s) := rfl

end

section
variable {ε δ α β : Type}

theorem result_ok {first : Except ε α} {next : α → Except ε β} {a : α} (done : first = .ok a) :
    (first >>= next) = next a := by
  rw [done]
  rfl

theorem result_ok_parts {first : Except ε α} {next : α → Except ε β} {b : β} (done : (first >>= next) = .ok b) :
    ∃ a, first = .ok a ∧ next a = .ok b := by
  cases first with
  | ok a => exact ⟨a,rfl,done⟩
  | error e => cases done

theorem result_error_parts {first : Except ε α} {next : α → Except ε β} {e : ε} (failed : (first >>= next) = .error e) :
    first = .error e ∨ ∃ a, first = .ok a ∧ next a = .error e := by
  cases first with
  | ok a => exact .inr ⟨a,rfl,failed⟩
  | error d => cases failed; exact .inl rfl

theorem toOption_some {result : Except ε α} {a : α} (some : result.toOption = .some a) : result = .ok a := by
  cases result with
  | ok b => cases some; rfl
  | error e => cases some

theorem mapError_ok {change : ε → δ} {result : Except ε α} {a : α} (done : result.mapError change = .ok a) :
    result = .ok a := by
  cases result with
  | ok b => cases done; rfl
  | error e => cases done

theorem mapM_ok_parts {f : α → Except ε β} {xs : List α} {ys : List β} (done : xs.mapM f = .ok ys) :
    List.Forall₂ (fun x y => f x = .ok y) xs ys := by
  induction xs generalizing ys with
  | nil => cases done; exact .nil
  | cons x rest ih =>
    rw [List.mapM_cons] at done
    obtain ⟨y,one,done⟩ := result_ok_parts done
    obtain ⟨others,many,done⟩ := result_ok_parts done
    cases done
    exact .cons one (ih many)

theorem mapM_ok {f : α → Except ε β} {xs : List α} {ys : List β} (all : List.Forall₂ (fun x y => f x = .ok y) xs ys) :
    xs.mapM f = .ok ys := by
  induction all with
  | nil => rfl
  | cons one _ ih =>
    rw [List.mapM_cons,one,ih]
    rfl

theorem mapM_error_parts {f : α → Except ε β} {xs : List α} {e : ε} (failed : xs.mapM f = .error e) :
    ∃ before x after, xs = before ++ x :: after ∧ (∀ earlier ∈ before, ∃ y, f earlier = .ok y) ∧ f x = .error e := by
  induction xs with
  | nil => cases failed
  | cons x rest ih =>
    rw [List.mapM_cons] at failed
    rcases result_error_parts failed with first | ⟨y,done,failed⟩
    · exact ⟨[],x,rest,rfl,nofun,first⟩
    · rcases result_error_parts failed with later | ⟨ys,_,failed⟩
      · obtain ⟨before,bad,after,rfl,earlier,own⟩ := ih later
        exact ⟨x :: before,bad,after,rfl,List.forall_mem_cons.mpr ⟨⟨y,done⟩,earlier⟩,own⟩
      · cases failed

theorem mapM_same {γ : Type} {R : α → γ → Prop} {f : α → Except ε β} {g : γ → Except δ β} {xs : List α} {zs : List γ}
    {ys : List β} (all : List.Forall₂ R xs zs) (each : ∀ x z y, R x z → f x = .ok y → g z = .ok y)
    (done : xs.mapM f = .ok ys) : zs.mapM g = .ok ys := by
  refine mapM_ok ?_
  have read := mapM_ok_parts done
  clear done
  induction all generalizing ys with
  | nil => cases read; exact .nil
  | cons one _ ih =>
    cases read with
    | cons first rest => exact .cons (each _ _ _ one first) (ih rest)

theorem all_ok_or_first (results : List (Except ε α)) : (∃ xs : List α, results = xs.map .ok) ∨
    ∃ (earlier : List α) (e : ε) (later : List (Except ε α)), results = earlier.map .ok ++ .error e :: later := by
  induction results with
  | nil => exact .inl ⟨[],rfl⟩
  | cons result rest ih =>
    cases result with
    | error e => exact .inr ⟨[],e,rest,rfl⟩
    | ok a =>
      rcases ih with ⟨xs,rfl⟩ | ⟨earlier,e,later,rfl⟩
      · exact .inl ⟨a :: xs,rfl⟩
      · exact .inr ⟨a :: earlier,e,later,rfl⟩

theorem forall₂_right {R : α → β → Prop} {xs : List α} {ys : List β} (all : List.Forall₂ R xs ys) (member : x ∈ xs) :
    ∃ y ∈ ys, R x y := by
  induction all with
  | nil => cases member
  | cons one _ ih =>
    rcases List.mem_cons.mp member with rfl | old
    · exact ⟨_,List.mem_cons_self,one⟩
    · obtain ⟨y,present,held⟩ := ih old
      exact ⟨y,List.mem_cons_of_mem _ present,held⟩

theorem forall₂_left {R : α → β → Prop} {xs : List α} {ys : List β} (all : List.Forall₂ R xs ys) (member : y ∈ ys) :
    ∃ x ∈ xs, R x y := forall₂_right all.flip member

theorem forall₂_find? {R : α → β → Prop} {xs : List α} {ys : List β} (all : List.Forall₂ R xs ys) {p : α → Bool} {q : β → Bool}
    (same : ∀ x y, R x y → p x = q y) : Option.Rel R (xs.find? p) (ys.find? q) := by
  induction all with
  | nil => exact .none
  | @cons x y _ _ one _ ih =>
    rw [List.find?_cons,List.find?_cons,same x y one]
    cases q y with
    | true => exact .some one
    | false => exact ih

theorem forall₂_nodup {R : α → β → Prop} {xs : List α} {ys : List β} (all : List.Forall₂ R xs ys) (distinct : xs.Nodup)
    (apart : ∀ x ∈ xs, ∀ other ∈ xs, ∀ y, R x y → R other y → x = other) : ys.Nodup := by
  induction all with
  | nil => exact List.nodup_nil
  | @cons x y xs ys one rest ih =>
    obtain ⟨fresh,distinct⟩ := List.nodup_cons.mp distinct
    refine List.nodup_cons.mpr ⟨?_,ih distinct fun a first b second =>
      apart a (List.mem_cons_of_mem _ first) b (List.mem_cons_of_mem _ second)⟩
    intro member
    obtain ⟨other,present,held⟩ := forall₂_left rest member
    exact fresh (apart x List.mem_cons_self other (List.mem_cons_of_mem _ present) y one held ▸ present)

theorem forall₂_map {γ : Type} {R : α → β → Prop} {f : α → γ} {g : β → γ} {xs : List α} {ys : List β} (all : List.Forall₂ R xs ys)
    (same : ∀ x y, R x y → g y = f x) : ys.map g = xs.map f := by
  induction all with
  | nil => rfl
  | cons one _ ih => rw [List.map_cons,List.map_cons,same _ _ one,ih]

theorem forall₂_zip {γ : Type} {R : α → β → Prop} {S : α → γ → Prop} {xs : List α} {ys : List β} {zs : List γ}
    (one : List.Forall₂ R xs ys) (two : List.Forall₂ S xs zs) :
    List.Forall₂ (fun x pair => R x pair.1 ∧ S x pair.2) xs (ys.zip zs) := by
  induction one generalizing zs with
  | nil => exact .nil
  | cons first _ ih =>
    cases two with
    | cons second others => exact .cons ⟨first,second⟩ (ih others)

theorem part_flatMap {f : α → List β} {xs : List α} (member : x ∈ xs) : f x <:+: xs.flatMap f :=
  List.infix_of_mem_flatten (List.mem_map_of_mem member)

theorem lookup_mem {pairs : List (String × β)} {a : String} {b : β} (found : pairs.lookup a = some b) : (a,b) ∈ pairs := by
  obtain ⟨before,after,same,_⟩ := List.lookup_eq_some_iff.mp found
  rw [same]
  exact List.mem_append_right _ List.mem_cons_self

theorem lookup_known {pairs : List (String × β)} (known : (pairs.lookup name).isSome) : name ∈ pairs.map Prod.fst := by
  obtain ⟨value,found⟩ := Option.isSome_iff_exists.mp known
  exact List.mem_map_of_mem (lookup_mem found)

theorem lookup_member {pairs : List (String × β)} {a : String} {b : β} (distinct : (pairs.map Prod.fst).Nodup) (member : (a,b) ∈ pairs) :
    pairs.lookup a = some b := by
  induction pairs with
  | nil => cases member
  | cons pair rest ih =>
    obtain ⟨key,value⟩ := pair
    obtain ⟨fresh,distinct⟩ := List.nodup_cons.mp distinct
    rcases List.mem_cons.mp member with same | later
    · cases same
      exact List.lookup_cons_self
    · have other : (a == key) = false := by
        refine beq_eq_false_iff_ne.mpr ?_
        rintro rfl
        exact fresh (List.mem_map.mpr ⟨(a,b),later,rfl⟩)
      rw [List.lookup_cons,other]
      exact ih distinct later

section
variable [DecidableEq α]

theorem eraseDups_concat (xs : List α) (x : α) :
    (xs ++ [x]).eraseDups = if x ∈ xs then xs.eraseDups else xs.eraseDups ++ [x] := by
  rw [List.eraseDups_append]
  split
  · rename_i known
    simp [List.removeAll,known]
  · rename_i fresh
    simp [List.removeAll,fresh,List.eraseDups_cons]

theorem eraseDups_covered {xs ys : List α} (covered : ys ⊆ xs) : (xs ++ ys).eraseDups = xs.eraseDups := by
  have nothing : ys.removeAll xs = [] := by
    refine List.filter_eq_nil_iff.mpr ?_
    intro y member
    simpa using covered member
  rw [List.eraseDups_append,nothing,List.eraseDups_nil,List.append_nil]

theorem eraseDups_order (xs : List α) : xs.eraseDups.Pairwise (fun a b => xs.idxOf a < xs.idxOf b) := by
  induction xs using List.reverseRecOn with
  | nil => exact .nil
  | append_singleton xs x ih =>
    have old {a : α} (member : a ∈ xs.eraseDups) : (xs ++ [x]).idxOf a = xs.idxOf a :=
      List.idxOf_append_of_mem (List.mem_eraseDups.mp member)
    have kept : xs.eraseDups.Pairwise (fun a b => (xs ++ [x]).idxOf a < (xs ++ [x]).idxOf b) := by
      refine ih.imp_of_mem ?_
      intro a b first second before
      rwa [old first,old second]
    rw [eraseDups_concat]
    split
    · exact kept
    · rename_i fresh
      refine List.pairwise_append.mpr ⟨kept,List.pairwise_singleton _ _,?_⟩
      intro a first b last
      rw [List.mem_singleton.mp last,old first,List.idxOf_append_of_notMem fresh]
      exact (List.idxOf_lt_length_of_mem (List.mem_eraseDups.mp first)).trans_le (Nat.le_add_right _ _)

theorem eraseDups_nodup (xs : List α) : xs.eraseDups.Nodup := by
  refine (eraseDups_order xs).imp ?_
  rintro a b before rfl
  exact Nat.lt_irrefl _ before

end

end
end NativeBinding
