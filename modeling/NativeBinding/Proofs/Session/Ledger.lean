import NativeBinding.Proofs.Session.Actions

namespace NativeBinding

-- What events say about buffers by their numbers. Only a live buffer is named when it is
-- released.
def Event.named? : Event → Option Nat
  | .free number => number
  | _ => none

def Event.isVoid : Event → Bool
  | .free none => true
  | _ => false

def Passed.number? : Passed → Option Nat
  | .buffer number _ => number
  | .value _ => none

def Event.given : Event → List Nat
  | .call _ arguments => arguments.filterMap Passed.number?
  | _ => []

def named (events : List Event) : List Nat := events.filterMap Event.named?

def voids (events : List Event) : Nat := events.countP Event.isVoid

def given (events : List Event) : List Nat := events.flatMap Event.given

structure Setting where
  before : Session
  returns : Bool
  sends : List Passed → Bool

namespace Setting
variable (setting : Setting)

def fails : Bool := setting.before.library.failFree

-- The component enters what it sees into its books. Numbers are given in order, a call
-- that returns keeps what it was given, and a release of a buffer that is not live
-- cannot be entered.
def enter (books : Books) : Event → Option Books
  | .alloc number _ =>
    if number = books.made + 1 then some ⟨number,books.live ++ [number]⟩ else none
  | .free none => some books
  | .free (some number) =>
    if books.live.contains number then
      some ⟨books.made,if setting.fails then books.live else books.live.filter (fun other => other != number)⟩
    else none
  | .call _ arguments =>
    if setting.returns then
      let left := books.live.filter (fun other => !(arguments.filterMap Passed.number?).contains other)
      if setting.sends arguments then some ⟨books.made + 1,left ++ [books.made + 1]⟩ else some ⟨books.made,left⟩
    else some books

def replay (books : Books) (events : List Event) : Option Books := events.foldlM setting.enter books

theorem replay_append (books : Books) (events : List Event) (event : Event) :
    setting.replay books (events ++ [event]) = (setting.replay books events).bind (fun books => setting.enter books event) := by
  simp [replay,List.foldlM_append]

def handed (events : List Event) : List Nat := if setting.returns then given events else []

end Setting

@[simp] theorem named_append (events : List Event) (event : Event) :
    named (events ++ [event]) = named events ++ event.named?.toList := by
  simp only [named,List.filterMap_append]
  cases found : event.named? <;> simp [found]

@[simp] theorem voids_append (events : List Event) (event : Event) :
    voids (events ++ [event]) = voids events + event.isVoid.toNat := by
  simp only [voids,List.countP_append,List.countP_singleton]
  cases event.isVoid <;> rfl

@[simp] theorem given_append (events : List Event) (event : Event) :
    given (events ++ [event]) = given events ++ event.given := by simp [given]

-- What is true in the middle of a step that still has to account for some buffers: no
-- other buffer is live that was not so before, except those that could not be released.
-- All numbers that were held, named or handed over are new and told apart.
structure Owes (setting : Setting) (opened : Books) (void : Nat) (held : List Nat) (session : Session) : Prop where
  base : setting.before.library.Sound
  bound : session.bound = some .this
  fails : session.library.failFree = setting.fails
  sound : session.library.Sound
  grown : setting.before.library.made ≤ session.library.made
  live : ∀ number, number ∈ session.library.ids ↔ number ∈ setting.before.library.ids ∨ number ∈ held ∨
    (setting.fails = true ∧ number ∈ named session.events)
  fresh : ∀ number ∈ held ++ named session.events ++ setting.handed session.events,
    setting.before.library.made < number ∧ number ≤ session.library.made
  distinct : (held ++ named session.events ++ setting.handed session.events).Nodup
  entered : setting.replay opened session.events = some session.library.books
  void : voids session.events ≤ void

namespace Owes
variable {setting : Setting} {opened : Books} {void : Nat} {held : List Nat} {session : Session}

theorem weaken {more : Nat} (owes : Owes setting opened void held session) (below : void ≤ more) :
    Owes setting opened more held session := { owes with void := owes.void.trans below }

theorem perm {other : List Nat} (owes : Owes setting opened void held session) (same : held.Perm other) :
    Owes setting opened void other session := by
  have all := (same.append_right (named session.events)).append_right (setting.handed session.events)
  refine { owes with live := ?_, fresh := ?_, distinct := all.nodup_iff.mp owes.distinct }
  · intro number
    rw [owes.live number,same.mem_iff]
  · intro number member
    exact owes.fresh number (all.mem_iff.mpr member)

theorem same {later : Session} (owes : Owes setting opened void held session) (bound : later.bound = session.bound)
    (events : later.events = session.events) (fails : later.library.failFree = session.library.failFree)
    (made : later.library.made = session.library.made) (ids : later.library.ids = session.library.ids) :
    Owes setting opened void held later where
  base := owes.base
  bound := bound.trans owes.bound
  fails := fails.trans owes.fails
  sound := ⟨ids ▸ owes.sound.distinct,by rw [ids,made]; exact owes.sound.made⟩
  grown := made ▸ owes.grown
  live := by rw [ids,events]; exact owes.live
  fresh := by rw [events,made]; exact owes.fresh
  distinct := events ▸ owes.distinct
  entered := by rw [events,Library.books,made,ids]; exact owes.entered
  void := events ▸ owes.void

theorem live_held (owes : Owes setting opened void held session) (member : number ∈ held) :
    number ∈ session.library.ids := (owes.live number).mpr (.inr (.inl member))

theorem new_held (owes : Owes setting opened void held session) (member : number ∈ held) :
    number ∉ setting.before.library.ids := by
  intro old
  have := owes.base.made number old
  have := (owes.fresh number (by simp [member])).1
  omega

-- While releases work, what is live beside a buffer that is held is what was live before,
-- and the others that are held.
theorem live_others {number : Nat} (owes : Owes setting opened void (number :: held) session) (works : setting.fails = false)
    (one : Nat) : one ∈ session.library.ids ∧ number ≠ one ↔ one ∈ setting.before.library.ids ∨ one ∈ held := by
  have live := owes.live one
  have old := owes.new_held List.mem_cons_self
  have other : number ∉ held := by
    have distinct := owes.distinct
    simp only [List.cons_append,List.nodup_cons,List.mem_append,not_or] at distinct
    exact distinct.1.1.1
  simp only [works,Bool.false_eq_true,false_and,or_false,List.mem_cons] at live
  rw [live]
  constructor
  · rintro ⟨before | same | rest,differ⟩
    · exact .inl before
    · exact absurd same.symm differ
    · exact .inr rest
  · rintro (before | rest)
    · exact ⟨.inl before,fun same => old (same ▸ before)⟩
    · exact ⟨.inr (.inr rest),fun same => other (same ▸ rest)⟩

theorem made (owes : Owes setting opened void held session) (size : Int) :
    Owes setting opened void ((session.library.made + 1) :: held) (session.withRoom size) where
  base := owes.base
  bound := owes.bound
  fails := owes.fails
  sound := owes.sound.make size.toNat [] (size + session.library.allocDelta)
  grown := Nat.le_succ_of_le owes.grown
  live := by
    intro number
    simp only [Session.withRoom,Library.ids_make,named_append,List.mem_append,owes.live number]
    simp [Event.named?]
    tauto
  fresh := by
    intro number member
    simp only [Session.withRoom,named_append,Setting.handed,given_append] at member
    have old := owes.fresh number
    have grown := owes.grown
    simp [Event.named?,Event.given,Setting.handed] at member old
    rcases member with rfl | member
    · exact ⟨by omega,Nat.le_refl _⟩
    · have := old member
      exact ⟨this.1,Nat.le_succ_of_le this.2⟩
  distinct := by
    have fresh : session.library.made + 1 ∉ held ++ named session.events ++ setting.handed session.events :=
      fun member => Nat.not_succ_le_self _ (owes.fresh _ member).2
    have distinct := List.nodup_cons.mpr ⟨fresh,owes.distinct⟩
    simpa [Session.withRoom,Event.named?,Event.given,Setting.handed] using distinct
  entered := by
    have books : (session.withRoom size).library.books =
        ⟨session.library.made + 1,session.library.ids ++ [session.library.made + 1]⟩ := by
      rw [Library.books,Session.withRoom,Library.ids_make]
      rfl
    rw [books,Session.withRoom,setting.replay_append,owes.entered,Option.bind_some]
    simp [Setting.enter,Library.books]
  void := by simpa [Session.withRoom,Event.isVoid] using owes.void

theorem released {number : Nat} (owes : Owes setting opened void (number :: held) session) (length : Int) :
    Owes setting opened void held { session with
      library := if setting.fails then session.library else session.library.drop ⟨some number,length⟩
      events := session.events ++ [.free (some number)] } where
  base := owes.base
  bound := owes.bound
  fails := by dsimp only; split <;> exact owes.fails
  sound := by
    dsimp only
    split
    · exact owes.sound
    · exact owes.sound.drop
  grown := by dsimp only; split <;> exact owes.grown
  live := by
    intro one
    cases failing : setting.fails with
    | true =>
      have before := owes.live one
      simp only [failing,if_true,named_append,List.mem_append,List.mem_cons] at before ⊢
      rw [before]
      simp [Event.named?]
      tauto
    | false =>
      have others := owes.live_others failing one
      simpa only [Bool.false_eq_true,if_false,Library.mem_ids_drop,ne_eq,Option.some.injEq,false_and,or_false] using others
  fresh := by
    intro one member
    have fresh := owes.fresh one
    have made : (if setting.fails then session.library else session.library.drop ⟨some number,length⟩).made =
        session.library.made := by split <;> rfl
    rw [made]
    simp [Event.named?,Event.given,Setting.handed] at member fresh
    exact fresh (by tauto)
  distinct := by
    refine (List.Perm.nodup_iff (List.perm_iff_count.mpr ?_)).mp owes.distinct
    intro one
    simp [Event.named?,Event.given,Setting.handed,List.count_cons]
    omega
  entered := by
    rw [setting.replay_append,owes.entered,Option.bind_some]
    have live : session.library.books.live.contains number := by
      simpa [Library.books] using owes.live_held List.mem_cons_self
    rw [Setting.enter,if_pos live]
    cases failing : setting.fails with
    | true => rfl
    | false =>
      simp only [Bool.false_eq_true,if_false,Library.books,Library.ids_drop_number]
      rfl
  void := by simpa [Event.isVoid] using owes.void

theorem voided (owes : Owes setting opened void held session) :
    Owes setting opened (void + 1) held { session with events := session.events ++ [.free none] } where
  base := owes.base
  bound := owes.bound
  fails := owes.fails
  sound := owes.sound
  grown := owes.grown
  live := by simpa [Event.named?] using owes.live
  fresh := by simpa [Event.named?,Event.given,Setting.handed] using owes.fresh
  distinct := by simpa [Event.named?,Event.given,Setting.handed] using owes.distinct
  entered := by
    rw [setting.replay_append,owes.entered,Option.bind_some]
    rfl
  void := by simpa [Event.isVoid] using owes.void

theorem release {number : Nat} (owes : Owes setting opened void (number :: held) session) (id : buffer.id = some number) :
    Act.Leads (Act.release buffer) session (fun _ => Owes setting opened void held)
      (fun _ => Owes setting opened void held) := by
  obtain ⟨_,length⟩ := buffer
  obtain rfl : _ = some number := id
  have live : session.library.isLive ⟨some number,length⟩ :=
    Library.isLive_iff.mpr ⟨number,owes.live_held List.mem_cons_self,rfl⟩
  have after := owes.released length
  have shown : Act.shown session.library ⟨some number,length⟩ = .free (some number) := by rw [Act.shown,if_pos live]
  cases failing : setting.fails with
  | true =>
    rw [failing] at after
    refine Act.leads_error (Act.release_error _ (owes.fails.trans failing)) ?_
    rw [shown]
    exact after
  | false =>
    rw [failing] at after
    refine Act.leads_ok (Act.release_ok _ (owes.fails.trans failing)) ?_
    rw [shown]
    exact after

theorem releaseVoid (owes : Owes setting opened void held session) (id : buffer.id = none) :
    Act.Leads (Act.release buffer) session (fun _ => Owes setting opened (void + 1) held)
      (fun _ => Owes setting opened (void + 1) held) := by
  have shown : Act.shown session.library buffer = .free none := by
    rw [Act.shown,Library.not_live (by simp [id])]
    rfl
  cases failing : setting.fails with
  | true =>
    refine Act.leads_error (Act.release_error _ (owes.fails.trans failing)) ?_
    rw [shown]
    exact owes.voided
  | false =>
    refine Act.leads_ok (Act.release_ok _ (owes.fails.trans failing)) ?_
    rw [shown,Library.drop_missing id]
    exact owes.voided

theorem quietly {left : Session → Prop} (bound : session.bound = some .this)
    (run : Act.Leads (Act.release buffer) session (fun _ => left) (fun _ => left))
    (log : ∀ session log, left session → left { session with log := log }) :
    ∃ after, Act.freeQuietly buffer session = .ok () after ∧ left after := by
  have free := Act.free_bound buffer bound
  unfold Act.Leads at run
  cases result : Act.release buffer session with
  | ok _ after =>
    rw [result] at run
    refine ⟨after,?_,run⟩
    rw [Act.freeQuietly,free,result]
  | error fault after =>
    rw [result] at run
    refine ⟨_,?_,log after (after.log ++ [⟨.warning,Act.quietWarning⟩]) run⟩
    rw [Act.freeQuietly,free,result]
    rfl

theorem freeQuietly {number : Nat} (owes : Owes setting opened void (number :: held) session) (id : buffer.id = some number) :
    ∃ after, Act.freeQuietly buffer session = .ok () after ∧ Owes setting opened void held after :=
  quietly owes.bound (owes.release id) (fun _ _ left => left.same rfl rfl rfl rfl rfl)

theorem freeQuietlyVoid (owes : Owes setting opened void held session) (id : buffer.id = none) :
    ∃ after, Act.freeQuietly buffer session = .ok () after ∧ Owes setting opened (void + 1) held after :=
  quietly owes.bound (owes.releaseVoid id) (fun _ _ left => left.same rfl rfl rfl rfl rfl)

end Owes
end NativeBinding
