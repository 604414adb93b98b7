import NativeBinding.Proofs.Session.Ledger

namespace NativeBinding
open Wire

def Numbered (buffers : List Buffer) (numbers : List Nat) : Prop := buffers.map Buffer.id = numbers.map some

namespace Numbered

theorem nil : Numbered [] [] := rfl

theorem append (one : Numbered buffers numbers) (two : Numbered others more) : Numbered (buffers ++ others) (numbers ++ more) := by
  unfold Numbered at *
  rw [List.map_append,List.map_append,one,two]

theorem cons_parts (numbered : Numbered (buffer :: rest) numbers) :
    ∃ number more, numbers = number :: more ∧ buffer.id = some number ∧ Numbered rest more := by
  unfold Numbered at numbered
  cases numbers with
  | nil => cases numbered
  | cons number more =>
    obtain ⟨first,others⟩ := List.cons.inj numbered
    exact ⟨number,more,rfl,first,others⟩

end Numbered

-- Some buffers have to be accounted for besides what is held already.
def OwesAlso (setting : Setting) (opened : Books) (void : Nat) (held : List Nat) (buffers : List Buffer)
    (session : Session) : Prop := ∃ numbers, Numbered buffers numbers ∧ Owes setting opened void (held ++ numbers) session

namespace Owes
variable {setting : Setting} {opened : Books} {void : Nat} {held : List Nat} {session : Session} {model : Model}

theorem guarded {number : Nat} {action : Act α} {done : α → Session → Prop} (id : buffer.id = some number)
    (run : Act.Leads action session done (fun _ => Owes setting opened void (number :: held))) :
    Act.Leads (Act.guarding buffer action) session done (fun _ => Owes setting opened void held) := by
  unfold Act.Leads at run
  cases result : action session with
  | ok value after =>
    rw [result] at run
    exact Act.leads_ok (Act.guarding_ok result) run
  | error fault after =>
    rw [result] at run
    obtain ⟨later,released,owes⟩ := run.freeQuietly id
    obtain ⟨_,same,failed⟩ := Act.guarding_error result
    cases released.symm.trans same
    exact Act.leads_error failed owes

theorem guardedVoid {action : Act α} {done : α → Session → Prop} (id : buffer.id = none)
    (run : Act.Leads action session done (fun _ => Owes setting opened void held)) :
    Act.Leads (Act.guarding buffer action) session done (fun _ => Owes setting opened (void + 1) held) := by
  unfold Act.Leads at run
  cases result : action session with
  | ok value after =>
    rw [result] at run
    exact Act.leads_ok (Act.guarding_ok result) run
  | error fault after =>
    rw [result] at run
    obtain ⟨later,released,owes⟩ := run.freeQuietlyVoid id
    obtain ⟨_,same,failed⟩ := Act.guarding_error result
    cases released.symm.trans same
    exact Act.leads_error failed owes

theorem checkAddress (buffer : Buffer) (owes : Owes setting opened void held session) :
    Act.Leads (Act.checkAddress buffer) session (fun _ => Owes setting opened void held)
      (fun _ => Owes setting opened void held) := by
  simp only [Act.checkAddress]
  split
  · exact Act.leads_throw owes
  · split
    · exact Act.leads_throw owes
    · exact Act.leads_pure owes

theorem fill (buffer : Buffer) (write : Write Unit) (owes : Owes setting opened void held session) :
    Act.Leads (Act.fill buffer write) session (fun _ => Owes setting opened void held)
      (fun _ => Owes setting opened void held) := by
  refine (owes.checkAddress buffer).seq (fun _ after owes => ?_)
  have stored (written : List UInt8) : Owes setting opened void held
      { after with library := after.library.store buffer written } :=
    owes.same rfl rfl rfl rfl (Library.ids_store written)
  split
  · exact stored _
  · exact stored _

theorem result (result : Except Fault α) (owes : Owes setting opened void held session) :
    Act.Leads (Act.ofResult result) session (fun _ => Owes setting opened void held)
      (fun _ => Owes setting opened void held) := Act.leads_result (fun _ _ => owes) (fun _ _ => owes)

theorem scan (buffer : Buffer) (read : Read α) (owes : Owes setting opened void held session) :
    Act.Leads (Act.scan buffer read) session (fun _ => Owes setting opened void held)
      (fun _ => Owes setting opened void held) := by
  refine (owes.checkAddress buffer).seq (fun _ after owes => ?_)
  have found : Act.Leads (get : Act Session) after (fun _ => Owes setting opened void held)
      (fun _ => Owes setting opened void held) := owes
  refine found.seq (fun _ _ owes => (owes.result _).seq (fun unread later owes => ?_))
  cases read unread with
  | ok => exact Act.leads_pure owes
  | error => exact Act.leads_throw owes

theorem alloc (size : Int) (owes : Owes setting opened void held session) :
    Act.Leads (Act.alloc size) session
      (fun buffer after => ∃ number, buffer.id = some number ∧ Owes setting opened void (number :: held) after)
      (fun _ => Owes setting opened void held) := by
  by_cases large : Act.largestBuffer < size
  · exact Act.leads_error (Act.alloc_oversized large) owes
  · have fits := Int.not_lt.mp large
    have made := owes.made size
    by_cases exact : Library.reported (size + session.library.allocDelta) = size
    · exact Act.leads_ok (Act.alloc_ok owes.bound fits exact) ⟨_,rfl,made⟩
    · have id : (Buffer.mk (some (session.library.made + 1)) (Library.reported (size + session.library.allocDelta))).id =
          some (session.library.made + 1) := rfl
      obtain ⟨after,released,left⟩ := made.freeQuietly id
      exact Act.leads_error (Act.alloc_wrong owes.bound fits exact released) left

theorem lowerBuffer (type : TypeRef) (value : Value) (owes : Owes setting opened void held session) :
    Act.Leads (Act.lowerBuffer model type value) session
      (fun buffer after => ∃ number, buffer.id = some number ∧ Owes setting opened void (number :: held) after)
      (fun _ => Owes setting opened void held) := by
  refine (owes.result _).seq (fun size after owes => ?_)
  refine (owes.alloc size).seq ?_
  rintro buffer after ⟨number,id,owes⟩
  refine (guarded id (owes.fill buffer _)).seq (fun _ after owes => ?_)
  exact Act.leads_pure ⟨number,id,owes⟩

theorem nothingAlso (owes : Owes setting opened void held session) : OwesAlso setting opened void held [] session :=
  ⟨[],.nil,by rwa [List.append_nil]⟩

theorem lower (type : TypeRef) (value : Value) (owes : Owes setting opened void held session) :
    Act.Leads (Act.lower model type value) session
      (fun lowered => OwesAlso setting opened void held lowered.buffer?.toList)
      (fun _ => Owes setting opened void held) := by
  unfold Act.lower
  split
  · exact Act.leads_pure owes.nothingAlso
  · exact Act.leads_pure owes.nothingAlso
  · exact Act.leads_pure owes.nothingAlso
  · exact Act.leads_pure owes.nothingAlso
  · exact Act.leads_pure owes.nothingAlso
  · exact (owes.result _).seq (fun _ _ owes => Act.leads_pure owes.nothingAlso)
  · exact (owes.result _).seq (fun _ _ owes => Act.leads_pure owes.nothingAlso)
  · refine (owes.lowerBuffer type value).seq ?_
    rintro buffer after ⟨number,id,owes⟩
    refine Act.leads_pure ⟨[number],?_,owes.perm (List.perm_append_singleton _ _).symm⟩
    simp [Numbered,Lowered.buffer?,id]

theorem freeAll (buffers : List Buffer) {numbers : List Nat} (numbered : Numbered buffers numbers)
    (owes : Owes setting opened void numbers session) :
    ∃ after, Act.freeAll buffers session = .ok () after ∧ Owes setting opened void [] after := by
  induction buffers generalizing numbers session with
  | nil =>
    cases numbers with
    | nil => exact ⟨session,rfl,owes⟩
    | cons => cases numbered
  | cons buffer rest ih =>
    obtain ⟨number,more,rfl,id,others⟩ := numbered.cons_parts
    obtain ⟨later,released,owes⟩ := owes.freeQuietly id
    obtain ⟨after,done,owes⟩ := ih others owes
    refine ⟨after,?_,owes⟩
    simp only [Act.freeAll]
    rw [seq_ok released,done]

theorem guardedAll {buffers : List Buffer} {numbers : List Nat} {action : Act α} {done : α → Session → Prop}
    (numbered : Numbered buffers numbers)
    (run : Act.Leads action session done (fun _ => Owes setting opened void numbers)) :
    Act.Leads (Act.guardingAll buffers action) session done (fun _ => Owes setting opened void []) := by
  unfold Act.Leads at run
  cases result : action session with
  | ok value after =>
    rw [result] at run
    exact Act.leads_ok (Act.guardingAll_ok result) run
  | error fault after =>
    rw [result] at run
    obtain ⟨later,released,owes⟩ := run.freeAll buffers numbered
    obtain ⟨_,same,failed⟩ := Act.guardingAll_error result
    cases released.symm.trans same
    exact Act.leads_error failed owes

-- The buffers made so far are accounted for until all arguments are lowered; a failure
-- leaves none of them behind.
theorem lowerAll (rest : List (Field × Value)) {buffers : List Buffer} {numbers : List Nat}
    (numbered : Numbered buffers numbers) (owes : Owes setting opened void numbers session) :
    Act.Leads (Act.lowerAll model buffers rest) session
      (fun lowered => OwesAlso setting opened void numbers (lowered.filterMap Lowered.buffer?))
      (fun _ => Owes setting opened void []) := by
  induction rest generalizing buffers numbers session with
  | nil => exact owes.nothingAlso
  | cons argument rest ih =>
    obtain ⟨field,value⟩ := argument
    have one : Act.Leads (Act.lower model field.type value) session _ _ := owes.lower field.type value
    unfold Act.Leads at one ⊢
    simp only [Act.lowerAll]
    cases result : Act.lower model field.type value session with
    | error fault after =>
      rw [result] at one
      obtain ⟨later,released,left⟩ := one.freeAll buffers numbered
      dsimp only
      rw [seq_ok released]
      exact left
    | ok lowered after =>
      rw [result] at one
      obtain ⟨more,own,owes⟩ := one
      refine (ih (numbered.append own) owes).seq ?_
      rintro others last ⟨rest,numbered,owes⟩
      refine ⟨more ++ rest,?_,by rwa [List.append_assoc] at owes⟩
      cases lowered with
      | value value =>
        have none : more = [] := List.map_eq_nil_iff.mp own.symm
        subst none
        exact numbered
      | buffer buffer => exact own.append numbered

end Owes
end NativeBinding
