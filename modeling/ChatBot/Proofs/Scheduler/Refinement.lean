import ChatBot.Proofs.OrderedMap
import ChatBot.Proofs.Scheduler.Agenda

/-!
# The two indices refine the list

A scheduler with its indices by time and by id shows the same to its callers as the plain list of
pending entries (`run_refines`). `Represents` ties the indices to the list, and each call keeps it.
-/

namespace ChatBot

/-- The ids of the entries at a time, if there are any. -/
def Agenda.bucket? (a : Agenda) (t : Instant) : Option (List Nat) :=
  Option.guard (· ≠ []) ((a.entries.filter (·.time = t)).map (·.id))

theorem Agenda.bucket?_filter (a : Agenda) (tasks : List Task) (p : Instant → Bool) (t : Instant) :
    (Agenda.mk (a.entries.filter fun e => p e.time) tasks).bucket? t =
      if p t then a.bucket? t else none := by
  rw [bucket?, bucket?, List.filter_filter]
  split
  next ht =>
    congr 2
    refine List.filter_congr fun e _ => ?_
    by_cases he : e.time = t
    · simp [he, ht]
    · simp [he]
  next ht =>
    have hnil : (a.entries.filter fun e => decide (e.time = t) && p e.time) = [] := by
      rw [List.filter_eq_nil_iff]
      intro e _ he
      rw [Bool.and_eq_true, decide_eq_true_eq] at he
      exact ht (he.1 ▸ he.2)
    rw [hnil]
    rfl

namespace Scheduler

/-- The indices hold exactly the entries of the list: under their ids, which are distinct, and in
the buckets of their times, none of which is empty. -/
structure Represents (s : Scheduler) (a : Agenda) : Prop where
  nodup : a.ids.Nodup
  byId : ∀ id e, s.byId.get? id = some e ↔ e ∈ a.entries ∧ e.id = id
  byTime : ∀ t, s.byTime.get? t = a.bucket? t
  tasks : s.tasks = a.tasks

theorem represents_empty : empty.Represents .empty where
  nodup := List.nodup_nil
  byId _ _ := ⟨fun h => absurd h (Option.some_ne_none _).symm, fun h => absurd h.1 List.not_mem_nil⟩
  byTime _ := rfl
  tasks := rfl

/-! ## Operations of the indices -/

/-- What is found in front of the first gap of ascending numbers. -/
theorem leastFree_spec {n : Nat} {ks : List Nat} (hks : ks.Pairwise (· < ·))
    (hn : ∀ k ∈ ks, n ≤ k) :
    leastFree n ks ∉ ks ∧ n ≤ leastFree n ks ∧ ∀ m, n ≤ m → m < leastFree n ks → m ∈ ks := by
  induction ks generalizing n with
  | nil => exact ⟨List.not_mem_nil, le_rfl, fun m hm hlt => absurd hm hlt.not_ge⟩
  | cons k ks ih =>
    rw [List.pairwise_cons] at hks
    rw [leastFree]
    split
    next hk =>
      subst hk
      obtain ⟨hfree, hle, hleast⟩ := ih (n := k + 1) hks.2 hks.1
      refine ⟨?_, by omega, fun m hm hlt => ?_⟩
      · rw [List.mem_cons, not_or]
        exact ⟨by omega, hfree⟩
      · rcases Nat.eq_or_lt_of_le hm with rfl | hm
        · exact List.mem_cons_self
        · exact List.mem_cons_of_mem _ (hleast m hm hlt)
    next hk =>
      have hnk := hn k List.mem_cons_self
      refine ⟨?_, le_rfl, fun m hm hlt => absurd hm hlt.not_ge⟩
      rw [List.mem_cons, not_or]
      refine ⟨Ne.symm hk, fun hmem => ?_⟩
      have := hks.1 n hmem
      omega

theorem get?_unindex (byTime : OrderedMap Instant (List Nat)) (time : Instant) (id : Nat)
    (t : Instant) : (unindex byTime time id).get? t =
      if time = t then Option.guard (· ≠ []) (((byTime.get? time).getD []).filter (· ≠ id))
      else byTime.get? t := by
  unfold unindex
  split
  next hids =>
    rw [OrderedMap.get?_erase, hids]
    simp only [OrderedMap.isEq_compare_iff]
    rfl
  next ids hne =>
    rw [OrderedMap.get?_insert]
    simp only [OrderedMap.isEq_compare_iff]
    rw [Option.guard_pos]
    simpa using hne

/-- The index by time and the index by id hold the same ids, each of them once, and every id stands
in the bucket of the time of its entry. -/
structure IndicesAgree (s : Scheduler) : Prop where
  once : (s.byTime.values.flatMap id).Nodup
  sameIds : (s.byTime.values.flatMap id).Perm s.byId.keys
  bucket : ∀ t ids, s.byTime.get? t = some ids →
    ids ≠ [] ∧ ∀ id ∈ ids, ∃ e, s.byId.get? id = some e ∧ e.id = id ∧ e.time = t

/-- Every query has the same answer. -/
structure Agrees (s : Scheduler) (a : Agenda) : Prop where
  get? : ∀ id, s.get? id = a.get? id
  commands : ∀ sender, s.commands sender = a.commands sender
  nextTime? : s.nextTime? = a.nextTime?
  size : s.size = a.size
  isEmpty : s.isEmpty = a.isEmpty
  tasks : s.tasks = a.tasks

namespace Represents

variable {s : Scheduler} {a : Agenda}

/-! ## What the indices hold -/

theorem get?_eq (h : s.Represents a) (id : Nat) : s.get? id = a.get? id := by
  ext e
  rw [get?, h.byId, Agenda.get?_eq_some_iff h.nodup]

theorem filterMap_get? (h : s.Represents a) {l : List ScheduledCommand}
    (hl : ∀ e ∈ l, e ∈ a.entries) : (l.map (·.id)).filterMap s.byId.get? = l := by
  rw [List.filterMap_map]
  refine (List.filterMap_congr fun e he => ?_).trans List.filterMap_some
  exact (h.byId _ _).2 ⟨hl e he, rfl⟩

theorem getD_byTime (h : s.Represents a) (t : Instant) :
    (s.byTime.get? t).getD [] = (a.entries.filter (·.time = t)).map (·.id) := by
  rw [h.byTime, Agenda.bucket?, Option.getD_guard]
  split
  · rfl
  next hne => simpa using hne

theorem mem_times_iff (h : s.Represents a) {t : Instant} :
    t ∈ s.byTime.keys ↔ ∃ e ∈ a.entries, e.time = t := by
  rw [OrderedMap.mem_keys_iff]
  simp only [h.byTime, Agenda.bucket?, Option.guard_eq_some_iff, exists_eq_left']
  simp

theorem snd_of_mem_bindings (h : s.Represents a) {b : Instant × List Nat}
    (hb : b ∈ s.byTime.bindings) : b.2 = (a.entries.filter (·.time = b.1)).map (·.id) := by
  have hget := OrderedMap.get?_eq_some_iff.2 hb
  rw [← h.getD_byTime, hget, Option.getD_some]

/-- The ids under some of the times are those of the entries at these times, by time. -/
theorem flatMap_bindings (h : s.Represents a) (p : Instant → Bool) :
    (s.byTime.bindings.filter (fun b => p b.1)).flatMap (·.2) =
      (Agenda.byTime (a.entries.filter fun e => p e.time)).map (·.id) := by
  have htimes : (s.byTime.keys.filter p).Pairwise (· < ·) := s.byTime.keys_ascending.filter p
  have hmem : ∀ e ∈ a.entries.filter (fun e => p e.time), e.time ∈ s.byTime.keys.filter p := by
    intro e he
    rw [List.mem_filter] at he ⊢
    exact ⟨h.mem_times_iff.2 ⟨e, he.1, rfl⟩, he.2⟩
  rw [Agenda.byTime, ← flatMap_filter_eq_sortedBy _ htimes hmem, OrderedMap.keys, List.filter_map,
    List.flatMap_map, List.map_flatMap]
  refine List.flatMap_congr fun b hb => ?_
  obtain ⟨hb, hpb⟩ := List.mem_filter.1 hb
  rw [h.snd_of_mem_bindings hb, List.filter_filter]
  congr 1
  refine List.filter_congr fun e _ => ?_
  by_cases he : e.time = b.1
  · simp [he, hpb]
  · simp [he]

theorem flatMap_values (h : s.Represents a) :
    s.byTime.values.flatMap id = (Agenda.byTime a.entries).map (·.id) := by
  have hall := h.flatMap_bindings fun _ => true
  rw [List.filter_true, List.filter_true] at hall
  rw [OrderedMap.values, List.flatMap_map]
  exact hall

theorem mem_ids_iff (h : s.Represents a) {id : Nat} : id ∈ s.byId.keys ↔ id ∈ a.ids := by
  simp only [OrderedMap.mem_keys_iff, h.byId, Agenda.ids, List.mem_map]

theorem map_id_values (h : s.Represents a) : s.byId.values.map (·.id) = s.byId.keys := by
  rw [OrderedMap.values, OrderedMap.keys, List.map_map]
  exact List.map_congr_left fun b hb => ((h.byId _ _).1 (OrderedMap.get?_eq_some_iff.2 hb)).2

theorem values_perm (h : s.Represents a) : s.byId.values.Perm a.entries := by
  have hvalues : s.byId.values.Nodup := .of_map (·.id) (h.map_id_values ▸ s.byId.keys_nodup)
  rw [List.perm_ext_iff_of_nodup hvalues (.of_map _ h.nodup)]
  intro e
  simp only [OrderedMap.mem_values_iff, h.byId]
  constructor
  · rintro ⟨id, he, -⟩
    exact he
  · intro he
    exact ⟨e.id, he, rfl⟩

/-! ## What the indices answer -/

theorem pending_eq (h : s.Represents a) : s.pending = Agenda.byTime a.entries := by
  rw [pending, h.flatMap_values]
  exact h.filterMap_get? fun e he => (sortedBy_perm _ _).mem_iff.1 he

theorem commands_eq (h : s.Represents a) (sender : Option User) :
    s.commands sender = a.commands sender := by
  rw [commands, h.pending_eq, Agenda.commands]

theorem size_eq (h : s.Represents a) : s.size = a.size := by
  rw [size, OrderedMap.size, Agenda.size, ← h.values_perm.length_eq, OrderedMap.values,
    List.length_map]

theorem isEmpty_eq (h : s.Represents a) : s.isEmpty = a.isEmpty := by
  have hsize : s.byId.bindings.length = a.entries.length := h.size_eq
  rw [isEmpty, OrderedMap.isEmpty, Agenda.isEmpty, Bool.eq_iff_iff,
    List.isEmpty_iff_length_eq_zero, List.isEmpty_iff_length_eq_zero, hsize]

theorem nextTime?_eq (h : s.Represents a) : s.nextTime? = a.nextTime? := by
  have hsorted := flatMap_filter_eq_sortedBy ScheduledCommand.time s.byTime.keys_ascending
    fun e he => h.mem_times_iff.2 ⟨e, he, rfl⟩
  rw [nextTime?, Agenda.nextTime?, Agenda.byTime, ← hsorted]
  cases hkeys : s.byTime.keys with
  | nil => rfl
  | cons t ts =>
    obtain ⟨e, he, rfl⟩ := h.mem_times_iff.1 (hkeys ▸ List.mem_cons_self)
    obtain ⟨x, xs, hx⟩ : ∃ x xs, a.entries.filter (·.time = e.time) = x :: xs :=
      List.exists_cons_of_ne_nil (List.ne_nil_of_mem (List.mem_filter.2 ⟨he, by simp⟩))
    have hxt : x.time = e.time := key_eq_of_mem_filter (hx ▸ List.mem_cons_self)
    rw [List.flatMap_cons, hx]
    simp [hxt]

theorem agrees (h : s.Represents a) : s.Agrees a where
  get? := h.get?_eq
  commands := h.commands_eq
  nextTime? := h.nextTime?_eq
  size := h.size_eq
  isEmpty := h.isEmpty_eq
  tasks := h.tasks

theorem indicesAgree (h : s.Represents a) : s.IndicesAgree where
  once := by
    rw [h.flatMap_values]
    exact ((sortedBy_perm _ _).map _).nodup_iff.2 h.nodup
  sameIds := by
    rw [h.flatMap_values, ← h.map_id_values]
    exact ((sortedBy_perm _ _).trans h.values_perm.symm).map _
  bucket t ids hids := by
    rw [h.byTime, Agenda.bucket?, Option.guard_eq_some_iff] at hids
    obtain ⟨rfl, hne⟩ := hids
    refine ⟨of_decide_eq_true hne, fun id hid => ?_⟩
    obtain ⟨e, he, rfl⟩ := List.mem_map.1 hid
    obtain ⟨he, ht⟩ := List.mem_filter.1 he
    exact ⟨e, (h.byId _ _).2 ⟨he, rfl⟩, rfl, of_decide_eq_true ht⟩

/-! ## What calls do -/

theorem freeId_eq (h : s.Represents a) : s.freeId = a.freeId := by
  have hks : s.byId.keys.Pairwise (· < ·) :=
    s.byId.keys_ascending.imp fun h => Nat.compare_eq_lt.1 h
  obtain ⟨hfree, -, hleast⟩ := leastFree_spec hks fun k _ => Nat.zero_le k
  rw [Agenda.freeId, eq_comm, Nat.find_eq_iff]
  refine ⟨fun hmem => hfree (h.mem_ids_iff.2 hmem), fun id hid => ?_⟩
  rw [not_not, ← h.mem_ids_iff]
  exact hleast id (Nat.zero_le id) hid

theorem index (h : s.Represents a) {e : ScheduledCommand} (he : e.id ∉ a.ids) :
    (s.index e).Represents { a with entries := a.entries ++ [e] } where
  nodup := Agenda.nodup_ids_append h.nodup he
  byId id x := by
    simp only [Scheduler.index, OrderedMap.get?_insert, OrderedMap.isEq_compare_iff,
      List.mem_append, List.mem_singleton]
    split
    next hid =>
      subst hid
      rw [Option.some.injEq]
      constructor
      · rintro rfl
        exact ⟨.inr rfl, rfl⟩
      · rintro ⟨hx | rfl, hid⟩
        · exact absurd (List.mem_map.2 ⟨x, hx, hid⟩) he
        · rfl
    next hid =>
      rw [h.byId]
      constructor
      · rintro ⟨hx, rfl⟩
        exact ⟨.inl hx, rfl⟩
      · rintro ⟨hx | rfl, rfl⟩
        · exact ⟨hx, rfl⟩
        · exact absurd rfl hid
  byTime t := by
    simp only [Scheduler.index, OrderedMap.get?_insert, OrderedMap.isEq_compare_iff,
      h.getD_byTime, Agenda.bucket?, List.filter_append, List.map_append]
    split
    next ht =>
      subst ht
      simp
    next ht =>
      rw [h.byTime, Agenda.bucket?]
      simp [ht]
  tasks := h.tasks

/-- Without the ids of some entries, the index by id holds the others. -/
theorem get?_foldl_erase_iff (h : s.Represents a) {l : List ScheduledCommand}
    {q : ScheduledCommand → Bool} (hl : ∀ e, e ∈ l ↔ e ∈ a.entries ∧ q e) (id : Nat)
    (e : ScheduledCommand) : ((l.map (·.id)).foldl OrderedMap.erase s.byId).get? id = some e ↔
      e ∈ a.entries.filter (fun e => !q e) ∧ e.id = id := by
  rw [OrderedMap.get?_foldl_erase, List.mem_filter]
  split
  next hid =>
    obtain ⟨x, hx, rfl⟩ := List.mem_map.1 hid
    obtain ⟨hx, hqx⟩ := (hl x).1 hx
    simp only [reduceCtorEq, false_iff, not_and, and_imp]
    intro he hqe hid
    rw [List.inj_on_of_nodup_map h.nodup he hx hid, hqx] at hqe
    contradiction
  next hid =>
    rw [h.byId]
    constructor
    · rintro ⟨he, rfl⟩
      refine ⟨⟨he, ?_⟩, rfl⟩
      rw [Bool.not_eq_true', Bool.eq_false_iff]
      exact fun hq => hid (List.mem_map.2 ⟨e, (hl e).2 ⟨he, hq⟩, rfl⟩)
    · rintro ⟨⟨he, -⟩, rfl⟩
      exact ⟨he, rfl⟩

theorem remove (h : s.Represents a) {e : ScheduledCommand} {s' : Scheduler} {id : Nat}
    (hs : s.remove? id = some (e, s')) :
    s'.Represents { a with entries := a.entries.filter (·.id ≠ id) } := by
  obtain ⟨x, hx, hxs⟩ := Option.map_eq_some_iff.1 hs
  obtain ⟨hxe, rfl⟩ := (h.byId _ _).1 hx
  obtain ⟨rfl, rfl⟩ := Prod.mk.inj hxs
  have hunique : ∀ e, e ∈ [x] ↔ e ∈ a.entries ∧ decide (e.id = x.id) := by
    intro e
    rw [List.mem_singleton, decide_eq_true_eq]
    constructor
    · rintro rfl
      exact ⟨hxe, rfl⟩
    · exact fun he => List.inj_on_of_nodup_map h.nodup he.1 hxe he.2
  simp only [ne_eq, decide_not]
  constructor
  · exact h.nodup.sublist (List.filter_sublist.map _)
  · exact h.get?_foldl_erase_iff hunique
  · intro t
    simp only [get?_unindex, h.getD_byTime, Agenda.bucket?]
    split
    next ht =>
      subst ht
      rw [List.filter_map, List.filter_filter, List.filter_filter]
      simp only [Function.comp_def, ne_eq, decide_not, Bool.and_comm]
    next ht =>
      -- No entry at another time has the id that is removed.
      rw [h.byTime, Agenda.bucket?]
      congr 2
      rw [List.filter_filter]
      refine List.filter_congr fun y hy => ?_
      by_cases hyt : y.time = t
      · have hne : y.id ≠ x.id := by
          intro hid
          have := List.inj_on_of_nodup_map h.nodup hy hxe hid
          exact ht (this ▸ hyt)
        simp [hyt, hne]
      · simp [hyt]
  · exact h.tasks

theorem takeDue (h : s.Represents a) (now : Instant) (lateness : Elapsed) :
    (s.takeDue now lateness).1 = (a.takeDue now lateness).1 ∧
      (s.takeDue now lateness).2.Represents (a.takeDue now lateness).2 := by
  have hp : ∀ t u : Instant, compare t u = .lt → decide (u ≤ now) → decide (t ≤ now) :=
    fun t u htu hu => decide_eq_true (le_trans (le_of_lt htu) (of_decide_eq_true hu))
  have hids : (s.byTime.bindings.takeWhile (·.1 ≤ now)).flatMap (·.2) =
      (Agenda.byTime (a.entries.filter (·.time ≤ now))).map (·.id) := by
    rw [(s.byTime.span_bindings hp).1, h.flatMap_bindings fun t => t ≤ now]
  have hmem : ∀ e, e ∈ Agenda.byTime (a.entries.filter (·.time ≤ now)) ↔
      e ∈ a.entries ∧ decide (e.time ≤ now) := by
    intro e
    rw [Agenda.byTime, (sortedBy_perm _ _).mem_iff, List.mem_filter]
  have hdue := h.filterMap_get? fun e he => ((hmem e).1 he).1
  simp only [Scheduler.takeDue, Agenda.takeDue, hids, hdue, List.partition_eq_filter_filter,
    h.tasks, Function.comp_def, decide_not]
  refine ⟨trivial, h.nodup.sublist (List.filter_sublist.map _), h.get?_foldl_erase_iff hmem,
    fun t => ?_, rfl⟩
  rw [OrderedMap.get?_dropWhile _ hp, h.byTime, Agenda.bucket?_filter a _ fun t => !decide (t ≤ now)]
  by_cases ht : t ≤ now <;> simp [ht]

theorem contains_iff (h : s.Represents a) {id : Nat} : s.byId.contains id ↔ id ∈ a.ids := by
  rw [OrderedMap.contains, Option.isSome_iff_exists, ← OrderedMap.mem_keys_iff, h.mem_ids_iff]

/-- A call gets the same answer, and the indices go on to hold what the list holds. -/
theorem perform (h : s.Represents a) (c : Call) :
    (s.perform c).1 = (a.perform c).1 ∧ (s.perform c).2.Represents (a.perform c).2 := by
  cases c with
  | insert chat sender command args time =>
    simp only [Scheduler.perform, Scheduler.insert, Agenda.perform, Agenda.insert, h.freeId_eq]
    exact ⟨trivial, h.index a.freeId_notMem⟩
  | restore e =>
    by_cases he : e.id ∈ a.ids
    · simp only [Scheduler.perform, restore?, Agenda.perform, Agenda.restore?,
        if_pos (h.contains_iff.2 he), if_pos he]
      exact ⟨trivial, h⟩
    · simp only [Scheduler.perform, restore?, Agenda.perform, Agenda.restore?,
        if_neg (mt h.contains_iff.1 he), if_neg he]
      exact ⟨trivial, h.index he⟩
  | remove id =>
    cases hid : a.get? id with
    | none =>
      have hnone : s.remove? id = none := by rw [remove?, h.get?_eq, hid, Option.map_none]
      simp only [Scheduler.perform, hnone, Agenda.perform, Agenda.remove?, hid, Option.map_none]
      exact ⟨trivial, h⟩
    | some e =>
      obtain ⟨s', hs⟩ : ∃ s', s.remove? id = some (e, s') := by
        rw [remove?, h.get?_eq, hid]
        exact ⟨_, rfl⟩
      simp only [Scheduler.perform, hs, Agenda.perform, Agenda.remove?, hid, Option.map_some]
      exact ⟨trivial, h.remove hs⟩
  | addTask t =>
    refine ⟨rfl, h.nodup, h.byId, h.byTime, ?_⟩
    simp [Scheduler.perform, Scheduler.addTask, Agenda.perform, Agenda.addTask, h.tasks]
  | takeDue now lateness =>
    obtain ⟨hwork, hleft⟩ := h.takeDue now lateness
    exact ⟨congrArg Answer.due hwork, hleft⟩

end Represents

/-! ## Runs -/

theorem represents_run (calls : List Call) :
    let run := runCalls perform empty calls
    let run' := runCalls Agenda.perform .empty calls
    run.1 = run'.1 ∧ run.2.Represents run'.2 :=
  runCalls_simulates (fun _ _ c h => h.perform c) represents_empty calls

/-- **A scheduler is the plain list of its entries.** After any calls, all answers so far and all
queries are those of the list, the two indices hold the same entries, and what was put in is what
was handed out and what is pending. -/
theorem run_refines (calls : List Call) :
    let run := runCalls perform empty calls
    let run' := runCalls Agenda.perform .empty calls
    run.1 = run'.1 ∧ run.2.Agrees run'.2 ∧ run.2.IndicesAgree ∧
      ((calls.zip run.1).flatMap fun (c, answer) => c.added answer).Perm
        (run.1.flatMap Answer.handedOut ++ run.2.commands none) := by
  obtain ⟨hanswers, h⟩ := represents_run calls
  refine ⟨hanswers, h.agrees, h.indicesAgree, ?_⟩
  have hperm := Agenda.run_perm (a := .empty) List.nodup_nil calls
  dsimp only at hanswers h hperm ⊢
  rw [hanswers, h.commands_eq, Agenda.commands_none]
  exact hperm.trans ((sortedBy_perm _ _).symm.append_left _)

end Scheduler

end ChatBot
