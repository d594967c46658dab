import ChatBot.Proofs.Bot.Events
import ChatBot.Proofs.Bot.Recovery

/-!
# What is registered

Backends and variables are registered with a bot and stay: nothing but their registration has a part
in them (`Bot.SetupStep`). So no two variables have the same name, and none is without one
(`Bot.Reachable.registered`).
-/

namespace ChatBot.Bot

/-- Bots with the same backends and variables. -/
structure SameSetup (b b' : Bot) : Prop where
  backends : b'.backends = b.backends
  vars : b'.vars = b.vars

variable {b p q : Bot} {chat : Chat}

theorem self?_of_backend? {k : Backend} (h : b.backend? chat = some k) :
    b.self? chat = some (k.bot chat) := by
  rw [self?, h, Option.map_some]

namespace SameSetup

theorem refl (b : Bot) : SameSetup b b := ⟨rfl, rfl⟩

theorem trans (h : SameSetup b p) (h' : SameSetup p q) : SameSetup b q :=
  ⟨h'.backends.trans h.backends, h'.vars.trans h.vars⟩

theorem backend?_eq (h : SameSetup b p) : p.backend? chat = b.backend? chat := by
  rw [backend?, h.backends, backend?]

theorem self?_eq (h : SameSetup b p) : p.self? chat = b.self? chat := by
  rw [self?, h.backend?_eq, self?]

end SameSetup

/-! ## What leaves it alone -/

theorem Notes.sameSetup {es : List Event} (h : b.Notes es p) : SameSetup b p := by
  rw [h]
  exact ⟨rfl, rfl⟩

theorem sameSetup_count (b : Bot) (c : Counter) : SameSetup b (b.count c) := ⟨rfl, rfl⟩

theorem Aside.sameSetup (h : b.Aside p) : SameSetup b p := by
  obtain ⟨_, _, rfl⟩ := h
  exact ⟨rfl, rfl⟩

theorem sameSetup_attempt (b : Bot) (c : Change) : SameSetup b (b.attempt c).2 := by
  obtain ⟨_, _, _, _, _, _, hmade⟩ := b.attempt_eq c
  rw [hmade]
  exact ⟨rfl, rfl⟩

theorem Goes.sameSetup {may : Change → Prop} (h : b.ActsBy may p) : SameSetup b p := by
  induction h with
  | refl => exact .refl b
  | aside _ hs ih => exact ih.trans hs.sameSetup
  | change _ _ ih => exact ih.trans (sameSetup_attempt _ _)

theorem sameSetup_handle (b : Bot) (i : Invocation) (ctx : Context) (now : Instant) :
    SameSetup b (b.handle i ctx now).2 := (b.actsBy_handle i ctx now).sameSetup

theorem sameSetup_run (b : Bot) (chat : Chat) (sender : User) (i : Invocation) (now : Instant) :
    SameSetup b (b.run chat sender i now) :=
  (b.sameSetup_handle i (b.context chat sender i) now).trans
    (notes_conclude _ chat sender i.command.name _).sameSetup

theorem sameSetup_heard (b : Bot) (chat : Chat) (sender : User) (text : String)
    (urls : List String) : SameSetup b (b.heard chat sender text urls) :=
  (b.notes_heard chat sender text urls).sameSetup

theorem sameSetup_receive (b : Bot) (chat : Chat) (sender : User) (text : String)
    (urls : List String) (now : Instant) : SameSetup b (b.receive chat sender text urls now) := by
  have hheard := b.sameSetup_heard chat sender text urls
  rw [receive_eq]
  dsimp only
  split
  next => exact hheard
  next i _ => exact hheard.trans (sameSetup_run _ chat sender i now)
  next e _ => exact hheard.trans (notes_reject _ chat sender e).sameSetup

theorem sameSetup_fire (clock : Instant) (b : Bot) (e : ScheduledCommand) :
    SameSetup b (fire clock b e) := by
  unfold fire
  split
  next => exact b.sameSetup_count _
  next entry _ =>
    exact (b.sameSetup_count .fired).trans
      (sameSetup_run _ e.chat e.sender (entry.invoke e.args) clock)

theorem sameSetup_tickStart (b : Bot) (now : Instant) (lateness : Elapsed) :
    SameSetup b (b.tickStart now lateness) := by
  have htaken : SameSetup b (b.takeDue now lateness).2 := by
    unfold takeDue
    dsimp only
    split <;> exact ⟨rfl, rfl⟩
  exact List.foldlRecOn (b.takeDue now lateness).1.missed _ htaken fun _ hp _ _ =>
    hp.trans (sameSetup_count _ .missed)

theorem sameSetup_tick {now clock : Instant} (h : b.tick? now clock = some p) :
    SameSetup b p := by
  obtain ⟨lateness, -, rfl⟩ := Option.map_eq_some_iff.1 h
  have hfired := List.foldlRecOn (motive := SameSetup b) (b.takeDue now lateness).1.fire _
    (b.sameSetup_tickStart now lateness) fun q hq e _ => hq.trans (sameSetup_fire clock q e)
  exact ⟨hfired.backends, hfired.vars⟩

/-! ## Registration -/

/-- An operation leaves the backends and the variables as they are, or registers one of them. -/
inductive SetupStep (b : Bot) (b' : Bot) : Prop
  | same : SameSetup b b' → SetupStep b b'
  | addBackend (k : Backend) : b.addBackend? k = some b' → SetupStep b b'
  | addVariable (name : String) (v : Variable) : b.addVariable? name v = some b' → SetupStep b b'

theorem setupStep_perform (b : Bot) (op : Operation) : b.SetupStep (b.perform op) := by
  cases op with
  | change c => exact .same (b.sameSetup_attempt c)
  | tick now clock =>
    rw [perform]
    cases htick : b.tick? now clock with
    | none => exact .same (.refl b)
    | some after => exact .same (sameSetup_tick htick)
  | receive chat sender text urls now =>
    exact .same (b.sameSetup_receive chat sender text urls now)
  | run chat sender i now => exact .same (b.sameSetup_run chat sender i now)
  | reply chat sender text => exact .same (b.notes_reply chat sender text).sameSetup
  | send chat text =>
    refine .same ?_
    rw [perform, send]
    cases b.backend? chat with
    | none => exact .refl b
    | some k => exact ⟨rfl, rfl⟩
  | addCommand c =>
    rw [perform]
    cases hadd : b.addCommand? c.lowered with
    | none => exact .same (.refl b)
    | some b' =>
      obtain ⟨registry, -, rfl⟩ := Option.map_eq_some_iff.1 hadd
      exact .same ⟨rfl, rfl⟩
  | addBackend k =>
    rw [perform]
    cases hadd : b.addBackend? k with
    | none => exact .same (.refl b)
    | some b' => exact .addBackend k hadd
  | addVariable name v =>
    rw [perform]
    cases hadd : b.addVariable? name v with
    | none => exact .same (.refl b)
    | some b' => exact .addVariable name v hadd
  | scheduleTask | refreshChats | chatNumber | shutdown | persist => exact .same ⟨rfl, rfl⟩
  | restore store =>
    refine .same ?_
    rw [perform, Bot.restore]
    cases store.load with
    | error e => exact ⟨rfl, rfl⟩
    | ok s =>
      dsimp only [Except.map]
      rw [restoreSnapshot_eq]
      exact ⟨rfl, rfl⟩

/-- A backend stays once it is registered. -/
theorem SetupStep.backend?_eq {b' : Bot} {k : Backend} (h : b.SetupStep b')
    (hk : b.backend? chat = some k) : b'.backend? chat = some k := by
  cases h with
  | same hsame => rw [hsame.backend?_eq, hk]
  | addBackend k' hadd =>
    rw [addBackend?] at hadd
    split at hadd
    next => contradiction
    next hfree =>
      cases hadd
      have hne : ¬(compare k'.protocol chat.protocol).isEq := by
        rw [OrderedMap.isEq_compare_iff]
        intro heq
        refine hfree ?_
        rw [heq, OrderedMap.contains, show b.backends.get? chat.protocol = some k from hk]
        rfl
      refine Eq.trans ?_ hk
      show (b.backends.insert k'.protocol k').get? chat.protocol = b.backends.get? chat.protocol
      rw [OrderedMap.get?_insert, if_neg hne]
  | addVariable name v hadd =>
    rw [addVariable?] at hadd
    split at hadd
    next => contradiction
    next =>
      cases hadd
      exact hk

theorem vars_of_addBackend? {k : Backend} {b' : Bot} (h : b.addBackend? k = some b') :
    b'.vars = b.vars := by
  rw [addBackend?] at h
  split at h
  · contradiction
  · cases h
    rfl

/-- Variables have names, and no two have the same one. -/
structure Registered {α : Type} (vars : List (String × α)) : Prop where
  nonempty : ∀ v ∈ vars, v.1 ≠ ""
  nodup : (vars.map (·.1)).Nodup

theorem registered_addVariable? {name : String} {v : Variable} {b' : Bot} (h : Registered b.vars)
    (hadd : b.addVariable? name v = some b') : Registered b'.vars := by
  rw [addVariable?] at hadd
  split at hadd
  next => contradiction
  next hfree =>
    cases hadd
    rw [not_or, Option.not_isSome_iff_eq_none, List.lookup_eq_none_iff] at hfree
    have hnotMem : ∀ w ∈ b.vars, w.1 ≠ name := fun w hw => (bne_iff_ne.1 (hfree.2 w hw)).symm
    refine ⟨List.forall_mem_append.2 ⟨h.nonempty, by simpa using hfree.1⟩, ?_⟩
    rw [List.map_append, List.nodup_append]
    refine ⟨h.nodup, List.nodup_singleton _, ?_⟩
    simpa using fun w a hw => hnotMem (w, a) hw

/-- No operation breaks what the registration of variables ensures. -/
theorem Reachable.registered (h : Reachable b) : Registered b.vars := by
  induction h with
  | new config store =>
    have hvars : (Bot.new config store).vars = standardVariables := rfl
    rw [hvars]
    constructor <;> decide
  | step _ op ih =>
    cases setupStep_perform _ op with
    | same hsame => rwa [hsame.vars]
    | addBackend k hadd => rwa [vars_of_addBackend? hadd]
    | addVariable name v hadd => exact registered_addVariable? ih hadd

end ChatBot.Bot
