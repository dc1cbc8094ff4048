import SolanaArb.General.Runs
import Mathlib.Data.List.Perm.Basic

/-! # Background tasks

Tasks are spawned at any time and run side by side. A task waits for an answer and then
performs the actions that its job and the answer decide, in their order; an action may
fail, and the task goes on to the next. The actions of different tasks interleave freely.
-/
namespace SolanaArb.General
open scoped List

/-- A task with its answer, once it has one, and the actions still to come. -/
structure BackgroundTask (J O R : Type*) where
  job : J
  answer : Option O
  rest : List R

/-- An action with the position of its task and whether it succeeded. -/
structure Performed (R : Type*) where
  task : ℕ
  action : R
  succeeded : Bool

structure Background (J O R : Type*) where
  tasks : List (BackgroundTask J O R)
  log : List (Performed R)

/-- Replacing an element by one that looks the same. -/
theorem map_set_same {α β : Type*} {f : α → β} {l : List α} {i : ℕ} {a b : α}
    (ha : l[i]? = some a) (hf : f b = f a) : (l.set i b).map f = l.map f := by
  apply List.ext_getElem?
  intro k
  rw [List.getElem?_map, List.getElem?_map, List.getElem?_set]
  split
  · next hik =>
    subst hik
    rw [ha, if_pos (List.getElem?_eq_some_iff.mp ha).1]
    exact congrArg some hf
  · rfl

/-- In a first part of consecutive blocks every element follows what its block has before it. -/
theorem mem_block {α β : Type*} {f : α → List β} {blocks : List α} {done rest : List β} {x : β}
    (h : done ++ rest = blocks.flatMap f) (hx : x ∈ done) :
    ∃ b ∈ blocks, ∃ before after, f b = before ++ x :: after ∧ ∀ y ∈ before, y ∈ done := by
  induction blocks generalizing done with
  | nil =>
    rw [List.flatMap_nil, List.append_eq_nil_iff] at h
    rw [h.1] at hx
    cases hx
  | cons b blocks ih =>
    rw [List.flatMap_cons, List.append_eq_append_iff] at h
    rcases h with ⟨more, hblock, _⟩ | ⟨more, rfl, hmore⟩
    · obtain ⟨before, after, rfl⟩ := List.mem_iff_append.mp hx
      refine ⟨b, List.mem_cons_self, before, after ++ more, ?_, ?_⟩
      · rw [hblock, List.append_assoc, List.cons_append]
      · exact fun y hy => List.mem_append_left _ hy
    · rcases List.mem_append.mp hx with hx | hx
      · obtain ⟨before, after, hb⟩ := List.mem_iff_append.mp hx
        refine ⟨b, List.mem_cons_self, before, after, hb, ?_⟩
        intro y hy
        rw [hb]
        exact List.mem_append_left _ (List.mem_append_left _ hy)
      · obtain ⟨b', hb', before, after, hblock, hbefore⟩ := ih hmore.symm hx
        exact ⟨b', List.mem_cons_of_mem _ hb', before, after, hblock,
          fun y hy => List.mem_append_right _ (hbefore y hy)⟩

variable {J O R : Type*}

/-- All the actions of a task, none before it is answered. -/
def BackgroundTask.script (script : J → O → List R) (task : BackgroundTask J O R) : List R :=
  task.answer.elim [] (script task.job)

namespace Background

def idle : Background J O R := ⟨[], []⟩

def jobs (s : Background J O R) : List J := s.tasks.map BackgroundTask.job

/-- The actions that this task has performed, in order. -/
def actionsOf (s : Background J O R) (i : ℕ) : List R :=
  (s.log.filter (fun e => e.task = i)).map Performed.action

/-- The action that this task performs next. -/
def upcoming (s : Background J O R) (i : ℕ) : Option R :=
  s.tasks[i]?.bind (fun task => task.rest.head?)

def spawn (s : Background J O R) (new : List J) : Background J O R :=
  { s with tasks := s.tasks ++ new.map (fun job => ⟨job, none, []⟩) }

def reply (script : J → O → List R) (s : Background J O R) (i : ℕ) (answer : O) :
    Option (Background J O R) :=
  match s.tasks[i]? with
  | some ⟨job, none, _⟩ =>
    some { s with tasks := s.tasks.set i ⟨job, some answer, script job answer⟩ }
  | _ => none

def perform (s : Background J O R) (i : ℕ) (succeeded : Bool) : Option (Background J O R) :=
  match s.tasks[i]? with
  | some ⟨job, answer, action :: rest⟩ =>
    some ⟨s.tasks.set i ⟨job, answer, rest⟩, s.log ++ [⟨i, action, succeeded⟩]⟩
  | _ => none

/-- Each task has performed a first part of its script and has the rest before it. -/
structure Sound (script : J → O → List R) (s : Background J O R) : Prop where
  order : ∀ i task, s.tasks[i]? = some task → s.actionsOf i ++ task.rest = task.script script
  known : ∀ e ∈ s.log, e.task < s.tasks.length
  balance : (s.log.map Performed.action ++ s.tasks.flatMap BackgroundTask.rest).Perm
    (s.tasks.flatMap (BackgroundTask.script script))

variable {script : J → O → List R} {s t : Background J O R} {i : ℕ} {answer : O}
  {succeeded : Bool}

theorem reply_eq_some (h : s.reply script i answer = some t) : ∃ job rest,
    s.tasks[i]? = some ⟨job, none, rest⟩ ∧
      t = { s with tasks := s.tasks.set i ⟨job, some answer, script job answer⟩ } := by
  unfold reply at h
  split at h
  · next job rest htask => exact ⟨job, rest, htask, (Option.some.inj h).symm⟩
  · cases h

theorem perform_eq_some (h : s.perform i succeeded = some t) : ∃ job answer action rest,
    s.tasks[i]? = some ⟨job, answer, action :: rest⟩ ∧
      t = ⟨s.tasks.set i ⟨job, answer, rest⟩, s.log ++ [⟨i, action, succeeded⟩]⟩ := by
  unfold perform at h
  split at h
  · next job answer action rest htask =>
    exact ⟨job, answer, action, rest, htask, (Option.some.inj h).symm⟩
  · cases h

theorem perform_upcoming {action : R} (h : s.perform i succeeded = some t)
    (hnext : s.upcoming i = some action) : t.log = s.log ++ [⟨i, action, succeeded⟩] := by
  obtain ⟨job, answer, first, rest, htask, rfl⟩ := perform_eq_some h
  rw [upcoming, htask] at hnext
  obtain rfl := Option.some.inj hnext
  rfl

theorem jobs_spawn (s : Background J O R) (new : List J) : (s.spawn new).jobs = s.jobs ++ new := by
  unfold jobs spawn
  rw [List.map_append, List.map_map]
  exact congrArg _ (List.map_id _)

theorem jobs_set {task : BackgroundTask J O R} {job : J} {rest : List R} {o : Option O}
    (htask : s.tasks[i]? = some task) (hjob : task.job = job) :
    (s.tasks.set i ⟨job, o, rest⟩).map BackgroundTask.job = s.jobs :=
  map_set_same htask hjob.symm

theorem jobs_reply (h : s.reply script i answer = some t) : t.jobs = s.jobs := by
  obtain ⟨job, rest, htask, rfl⟩ := reply_eq_some h
  exact jobs_set htask rfl

theorem jobs_perform (h : s.perform i succeeded = some t) : t.jobs = s.jobs := by
  obtain ⟨job, answer, action, rest, htask, rfl⟩ := perform_eq_some h
  exact jobs_set htask rfl

/-- Replacing one entry moves only what that entry contributes. -/
theorem perm_flatMap_set {α β : Type*} {l : List α} {a b : α} (h : l[i]? = some a)
    (f : α → List β) : ((l.set i b).flatMap f ++ f a).Perm (l.flatMap f ++ f b) := by
  obtain ⟨hlt, rfl⟩ := List.getElem?_eq_some_iff.mp h
  have hset : (l.set i b).flatMap f = (l.take i).flatMap f ++ (f b ++ (l.drop (i + 1)).flatMap f) := by
    rw [List.set_eq_take_append_cons_drop, if_pos hlt, List.flatMap_append, List.flatMap_cons]
  have hsplit : l.flatMap f = (l.take i).flatMap f ++ (f l[i] ++ (l.drop (i + 1)).flatMap f) := by
    rw [← List.flatMap_cons, ← List.flatMap_append, List.getElem_cons_drop, List.take_append_drop]
  rw [hset, hsplit, List.append_assoc, List.append_assoc, List.append_assoc, List.append_assoc]
  apply List.Perm.append_left
  calc f b ++ ((l.drop (i + 1)).flatMap f ++ f l[i])
    _ ~ (l.drop (i + 1)).flatMap f ++ (f b ++ f l[i]) := List.perm_append_comm_assoc _ _ _
    _ ~ (l.drop (i + 1)).flatMap f ++ (f l[i] ++ f b) := List.perm_append_comm.append_left _
    _ ~ f l[i] ++ ((l.drop (i + 1)).flatMap f ++ f b) := List.perm_append_comm_assoc _ _ _

theorem idle_sound : (idle : Background J O R).Sound script := by
  constructor
  · intro i task h
    cases h
  · intro e h
    cases h
  · exact List.Perm.refl _

theorem spawn_sound (hs : s.Sound script) (new : List J) : (s.spawn new).Sound script := by
  have hrest : (new.map (fun job => (⟨job, none, []⟩ : BackgroundTask J O R))).flatMap
      BackgroundTask.rest = [] := by
    simp [List.flatMap_eq_nil_iff]
  have hscript : (new.map (fun job => (⟨job, none, []⟩ : BackgroundTask J O R))).flatMap
      (BackgroundTask.script script) = [] := by
    simp [List.flatMap_eq_nil_iff, BackgroundTask.script]
  constructor
  · intro i task htask
    rw [spawn, List.getElem?_append] at htask
    split at htask
    · exact hs.order i task htask
    · next hlt =>
      have hnone : s.actionsOf i = [] := by
        rw [actionsOf, List.map_eq_nil_iff, List.filter_eq_nil_iff]
        intro e he heq
        exact hlt (of_decide_eq_true heq ▸ hs.known e he)
      rw [List.getElem?_map, Option.map_eq_some_iff] at htask
      obtain ⟨job, _, rfl⟩ := htask
      exact congrArg (· ++ []) hnone
  · intro e he
    rw [spawn, List.length_append]
    exact Nat.lt_add_right _ (hs.known e he)
  · rw [spawn, List.flatMap_append, List.flatMap_append, hrest, hscript, List.append_nil,
      List.append_nil]
    exact hs.balance

theorem reply_sound (hs : s.Sound script) (h : s.reply script i answer = some t) :
    t.Sound script := by
  obtain ⟨job, rest, htask, rfl⟩ := reply_eq_some h
  have hbefore := hs.order i _ htask
  obtain ⟨hnone, hrest⟩ := List.append_eq_nil_iff.mp hbefore
  dsimp only at hrest
  subst hrest
  constructor
  · intro k task hk
    rw [List.getElem?_set] at hk
    split at hk
    · next hik =>
      subst hik
      rw [if_pos (List.getElem?_eq_some_iff.mp htask).1] at hk
      obtain rfl := Option.some.inj hk
      exact congrArg (· ++ script job answer) hnone
    · exact hs.order k task hk
  · intro e he
    rw [List.length_set]
    exact hs.known e he
  · have hrests := perm_flatMap_set (b := ⟨job, some answer, script job answer⟩) htask
      BackgroundTask.rest
    have hscripts := perm_flatMap_set (b := ⟨job, some answer, script job answer⟩) htask
      (BackgroundTask.script script)
    rw [List.append_nil] at hrests
    have hscripts' : ((s.tasks.set i ⟨job, some answer, script job answer⟩).flatMap
        (BackgroundTask.script script)).Perm
        (s.tasks.flatMap (BackgroundTask.script script) ++ script job answer) := by
      simpa [BackgroundTask.script] using hscripts
    have hpending : (s.log.map Performed.action ++ (s.tasks.flatMap BackgroundTask.rest ++
        script job answer)).Perm
        (s.tasks.flatMap (BackgroundTask.script script) ++ script job answer) := by
      rw [← List.append_assoc]
      exact hs.balance.append_right _
    exact ((hrests.append_left _).trans hpending).trans hscripts'.symm

theorem perform_sound (hs : s.Sound script) (h : s.perform i succeeded = some t) :
    t.Sound script := by
  obtain ⟨job, answer, action, rest, htask, rfl⟩ := perform_eq_some h
  have hbefore := hs.order i _ htask
  constructor
  · intro k task hk
    have hlog : actionsOf (⟨s.tasks.set i ⟨job, answer, rest⟩,
        s.log ++ [⟨i, action, succeeded⟩]⟩ : Background J O R) k =
        s.actionsOf k ++ if i = k then [action] else [] := by
      unfold actionsOf
      rw [List.filter_append, List.map_append, List.filter_singleton]
      by_cases hik : i = k
      · simp [hik]
      · simp [hik]
    rw [hlog]
    rw [List.getElem?_set] at hk
    split at hk
    · next hik =>
      subst hik
      rw [if_pos (List.getElem?_eq_some_iff.mp htask).1] at hk
      obtain rfl := Option.some.inj hk
      rw [if_pos rfl, List.append_assoc]
      exact hbefore
    · next hik =>
      rw [if_neg hik, List.append_nil]
      exact hs.order k task hk
  · intro e he
    rw [List.length_set]
    rcases List.mem_append.mp he with he | he
    · exact hs.known e he
    · obtain rfl := List.mem_singleton.mp he
      exact (List.getElem?_eq_some_iff.mp htask).1
  · have hrests := perm_flatMap_set (b := ⟨job, answer, rest⟩) htask BackgroundTask.rest
    have hscripts := perm_flatMap_set (b := ⟨job, answer, rest⟩) htask
      (BackgroundTask.script script)
    have hsame : ((s.tasks.set i ⟨job, answer, rest⟩).flatMap (BackgroundTask.script script)).Perm
        (s.tasks.flatMap (BackgroundTask.script script)) :=
      (List.perm_append_right_iff _).mp hscripts
    have hone : (action :: (s.tasks.set i ⟨job, answer, rest⟩).flatMap BackgroundTask.rest).Perm
        (s.tasks.flatMap BackgroundTask.rest) := by
      apply (List.perm_append_right_iff rest).mp
      exact List.perm_middle.symm.trans hrests
    refine List.Perm.trans ?_ (hs.balance.trans hsame.symm)
    rw [List.map_append, List.append_assoc]
    exact hone.append_left _

/-- What the actions still to come stand for: all of a job before it is answered. -/
def owed {κ : Type*} (f : R → Option κ) (due : J → List κ) (task : BackgroundTask J O R) : List κ :=
  task.answer.elim (due task.job) (fun _ => task.rest.filterMap f)

/-- If a job's actions stand for the same things whatever its answer, then those things are
done or owed, each once. -/
theorem Sound.conserved {κ : Type*} (hs : s.Sound script) {f : R → Option κ} {due : J → List κ}
    (hdue : ∀ job answer, (script job answer).filterMap f = due job) :
    ((s.log.map Performed.action).filterMap f ++ s.tasks.flatMap (owed f due)).Perm
      (s.jobs.flatMap due) := by
  have hunanswered (task : BackgroundTask J O R) (htask : task ∈ s.tasks)
      (hnone : task.answer = none) : task.rest = [] := by
    obtain ⟨i, hi⟩ := List.getElem?_of_mem htask
    have horder := hs.order i task hi
    rw [BackgroundTask.script, hnone] at horder
    exact (List.append_eq_nil_iff.mp horder).2
  have howed : s.tasks.flatMap (owed f due) = s.tasks.flatMap (fun task =>
      task.rest.filterMap f ++ task.answer.elim (due task.job) (fun _ => [])) := by
    apply List.flatMap_congr
    intro task htask
    unfold owed
    cases hanswer : task.answer with
    | none =>
      rw [hunanswered task htask hanswer]
      rfl
    | some answer => exact (List.append_nil _).symm
  have hjobs : s.jobs.flatMap due = s.tasks.flatMap (fun task =>
      (task.script script).filterMap f ++ task.answer.elim (due task.job) (fun _ => [])) := by
    rw [jobs, List.flatMap_map]
    apply List.flatMap_congr
    intro task _
    rw [BackgroundTask.script]
    cases task.answer with
    | none => rfl
    | some answer => exact (hdue task.job answer).symm.trans (List.append_nil _).symm
  have hbalance := hs.balance.filterMap f
  rw [List.filterMap_append, List.filterMap_flatMap, List.filterMap_flatMap] at hbalance
  rw [howed, hjobs]
  calc (s.log.map Performed.action).filterMap f ++ s.tasks.flatMap (fun task =>
        task.rest.filterMap f ++ task.answer.elim (due task.job) (fun _ => []))
    _ ~ (s.log.map Performed.action).filterMap f ++
        (s.tasks.flatMap (fun task => task.rest.filterMap f) ++
          s.tasks.flatMap (fun task => task.answer.elim (due task.job) (fun _ => []))) :=
      (List.flatMap_append_perm _ _ _).symm.append_left _
    _ ~ s.tasks.flatMap (fun task => (task.script script).filterMap f) ++
          s.tasks.flatMap (fun task => task.answer.elim (due task.job) (fun _ => [])) := by
      rw [← List.append_assoc]
      exact hbalance.append_right _
    _ ~ s.tasks.flatMap (fun task => (task.script script).filterMap f ++
          task.answer.elim (due task.job) (fun _ => [])) := List.flatMap_append_perm _ _ _

/-- Every task is answered and has performed all its actions. -/
def Finished (s : Background J O R) : Prop :=
  ∀ task ∈ s.tasks, task.answer.isSome = true ∧ task.rest = []

theorem Sound.log_of_finished (hs : s.Sound script) (hdone : s.Finished) :
    (s.log.map Performed.action).Perm (s.tasks.flatMap (BackgroundTask.script script)) := by
  have hrest : s.tasks.flatMap BackgroundTask.rest = [] := by
    rw [List.flatMap_eq_nil_iff]
    exact fun task htask => (hdone task htask).2
  have hbalance := hs.balance
  rwa [hrest, List.append_nil] at hbalance

end Background

end SolanaArb.General
