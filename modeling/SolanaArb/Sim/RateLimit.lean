import SolanaArb.General.Exclusive
import SolanaArb.General.Runs
import Mathlib.Order.Nat

/-! # The rate limit of the quote requests

All clients share one permit, one lock and the time of the last request. A call takes the
permit, then the lock, sleeps until the gap to the last request has passed, writes the new
time and gives both back; then it sends its request. A call may be dropped wherever it
waits. Times are nanoseconds, and any time may pass between two steps.
-/
namespace SolanaArb.RateLimit
open SolanaArb.General

/-- `JUPITER_RATE_LIMIT_MS`. -/
def jupiterRateLimitMs : ℕ := 600

def minGap : ℕ := jupiterRateLimitMs * 1000000

/-- Where a call stands. -/
inductive Call
  | acquiring
  | locking
  | reading
  | sleeping (deadline : ℕ)
  | stamping
  | granted
  | sent
  | dropped
  deriving DecidableEq, Repr

namespace Call

def hasPermit : Call → Bool
  | locking | reading | sleeping _ | stamping => true
  | _ => false

def hasLock : Call → Bool
  | reading | sleeping _ | stamping => true
  | _ => false

/-- The call waits to be let through. -/
def waits : Call → Bool
  | acquiring | locking | reading | sleeping _ | stamping => true
  | _ => false

end Call

structure State where
  now : ℕ
  permit : Bool
  unlocked : Bool
  last : Option ℕ
  calls : List Call
  /-- When calls were let through, and when requests were sent. -/
  grants : List ℕ
  requests : List ℕ

inductive Event
  | pass (nanos : ℕ)
  | call
  | step (i : ℕ)
  | drop (i : ℕ)
  deriving DecidableEq, Repr

namespace State

def set (s : State) (i : ℕ) (c : Call) : State := { s with calls := s.calls.set i c }

/-- What a call does next, unless it has to wait. -/
def step (s : State) (i : ℕ) : Option State :=
  match s.calls[i]? with
  | some .acquiring => if s.permit then some { s.set i .locking with permit := false } else none
  | some .locking => if s.unlocked then some { s.set i .reading with unlocked := false } else none
  | some .reading =>
    match s.last with
    | none => some (s.set i .stamping)
    | some prev =>
      let elapsed := s.now - prev
      if elapsed < minGap then some (s.set i (.sleeping (s.now + (minGap - elapsed))))
      else some (s.set i .stamping)
  | some (.sleeping deadline) => if deadline ≤ s.now then some (s.set i .stamping) else none
  | some .stamping =>
    some { s.set i .granted with
      last := some s.now
      unlocked := true
      permit := true
      grants := s.grants ++ [s.now] }
  | some .granted => some { s.set i .sent with requests := s.requests ++ [s.now] }
  | _ => none

/-- A dropped call gives back what it holds. -/
def drop (s : State) (i : ℕ) : Option State :=
  match s.calls[i]? with
  | some .acquiring => some (s.set i .dropped)
  | some .locking => some { s.set i .dropped with permit := true }
  | some (.sleeping _) => some { s.set i .dropped with permit := true, unlocked := true }
  | some .granted => some (s.set i .dropped)
  | _ => none

def next (s : State) : Event → Option State
  | .pass nanos => some { s with now := s.now + nanos }
  | .call => some { s with calls := s.calls ++ [.acquiring] }
  | .step i => s.step i
  | .drop i => s.drop i

end State

abbrev Step (s : State) (e : Event) (t : State) : Prop := s.next e = some t

def start (now : ℕ) : State := ⟨now, true, true, none, [], [], []⟩

/-- The permit and the lock each have one holder or none, whoever sleeps or writes comes after
the gap to the last request, and requests are sent by calls that were let through. -/
structure Consistent (began : ℕ) (s : State) : Prop where
  permit : Exclusive Call.hasPermit s.permit s.calls
  lock : Exclusive Call.hasLock s.unlocked s.calls
  last : s.last = s.grants.getLast?
  spaced : Spaced minGap s.grants
  since : ∀ t ∈ s.grants, began ≤ t ∧ t ≤ s.now
  ready : ∀ i : ℕ, s.calls[i]? = some .stamping → ∀ prev ∈ s.last, prev + minGap ≤ s.now
  asleep : ∀ i deadline : ℕ, s.calls[i]? = some (.sleeping deadline) →
    deadline ≤ s.now + minGap ∧ ∀ prev ∈ s.last, prev + minGap ≤ deadline
  requests : s.requests.length + s.calls.count .granted ≤ s.grants.length

section Steps
variable {began : ℕ} {s t : State} {i : ℕ}

theorem getElem?_set_cases {calls : List Call} {c d : Call} {k : ℕ}
    (h : (calls.set i c)[k]? = some d) : d = c ∨ (k ≠ i ∧ calls[k]? = some d) := by
  rw [List.getElem?_set] at h
  split at h
  · split at h
    · exact Or.inl (Option.some.inj h).symm
    · cases h
  · next hne => exact Or.inr ⟨fun h => hne h.symm, h⟩

/-- A call that neither writes the time nor is let through. -/
theorem Consistent.move (hs : Consistent began s) {a c : Call} (ha : s.calls[i]? = some a)
    {permit unlocked : Bool} (hpermit : Exclusive Call.hasPermit permit (s.calls.set i c))
    (hlock : Exclusive Call.hasLock unlocked (s.calls.set i c)) (hgranted : c ≠ .granted)
    (hready : c = .stamping → ∀ prev ∈ s.last, prev + minGap ≤ s.now)
    (hasleep : ∀ deadline, c = .sleeping deadline →
      deadline ≤ s.now + minGap ∧ ∀ prev ∈ s.last, prev + minGap ≤ deadline) :
    Consistent began { s.set i c with permit := permit, unlocked := unlocked } := by
  constructor
  · exact hpermit
  · exact hlock
  · exact hs.last
  · exact hs.spaced
  · exact hs.since
  · intro k hk
    rcases getElem?_set_cases hk with hc | ⟨_, hold⟩
    · exact hready hc.symm
    · exact hs.ready k hold
  · intro k deadline hk
    rcases getElem?_set_cases hk with hc | ⟨_, hold⟩
    · exact hasleep deadline hc.symm
    · exact hs.asleep k deadline hold
  · have hcount := countP_set (· == Call.granted) ha c
    have hc : (c == Call.granted) = false := beq_eq_false_iff_ne.mpr hgranted
    have hbound := hs.requests
    rw [hc] at hcount
    simp only [State.set, List.count] at *
    simp only [Bool.false_eq_true, if_false] at hcount
    omega

theorem Consistent.noLock (hs : Consistent began s) {c : Call} (hc : s.calls[i]? = some c)
    (hlock : c.hasLock = true) {k : ℕ} {d : Call} (hk : k ≠ i) (hd : s.calls[k]? = some d) :
    d.hasLock = false := by
  cases hholds : d.hasLock with
  | false => rfl
  | true => exact absurd (hs.lock.unique hd hc hholds hlock) hk

/-- The call that writes the time is let through, and no other sleeps or writes. -/
theorem stamp_consistent (hs : Consistent began s) (hbegan : began ≤ s.now)
    (hi : s.calls[i]? = some .stamping) :
    Consistent began { s.set i .granted with
      last := some s.now
      unlocked := true
      permit := true
      grants := s.grants ++ [s.now] } := by
  have hothers (k : ℕ) (d : Call) (hk : (s.calls.set i .granted)[k]? = some d)
      (hd : d.hasLock = true) : False := by
    rcases getElem?_set_cases hk with rfl | ⟨hne, hold⟩
    · cases hd
    · exact Bool.false_ne_true ((hs.noLock hi rfl hne hold).symm.trans hd)
  constructor
  · exact hs.permit.give hi rfl rfl
  · exact hs.lock.give hi rfl rfl
  · exact (List.getLast?_concat).symm
  · apply hs.spaced.snoc
    rw [← hs.last]
    exact hs.ready i hi
  · rw [List.forall_mem_append, List.forall_mem_singleton]
    exact ⟨hs.since, hbegan, Nat.le_refl _⟩
  · intro k hk
    exact absurd rfl (fun h : Call.stamping.hasLock = true => hothers k _ hk h)
  · intro k deadline hk
    exact absurd rfl (fun h : (Call.sleeping deadline).hasLock = true => hothers k _ hk h)
  · have hcount := countP_set (· == Call.granted) hi .granted
    have hbound := hs.requests
    simp only [State.set, List.count, List.length_append, List.length_singleton] at *
    simp only [beq_self_eq_true, if_true, show (Call.stamping == Call.granted) = false from rfl,
      Bool.false_eq_true, if_false] at hcount
    omega

theorem Consistent.prev_le (hs : Consistent began s) {prev : ℕ} (hprev : s.last = some prev) :
    prev ≤ s.now := by
  rw [hs.last] at hprev
  exact (hs.since prev (List.mem_of_getLast? hprev)).2

/-- A call without the permit or the lock takes what is free. -/
theorem acquire_consistent (hs : Consistent began s) (hi : s.calls[i]? = some .acquiring)
    (hfree : s.permit = true) :
    Consistent began { s.set i .locking with permit := false } := by
  have hpermit := hs.permit
  rw [hfree] at hpermit
  exact hs.move hi (hpermit.take hi rfl rfl) (hs.lock.keep hi rfl) (by decide)
    (fun h => by cases h) (fun _ h => by cases h)

theorem lock_consistent (hs : Consistent began s) (hi : s.calls[i]? = some .locking)
    (hfree : s.unlocked = true) :
    Consistent began { s.set i .reading with unlocked := false } := by
  have hlock := hs.lock
  rw [hfree] at hlock
  exact hs.move hi (hs.permit.keep hi rfl) (hlock.take hi rfl rfl) (by decide)
    (fun h => by cases h) (fun _ h => by cases h)

/-- A call writes the time next when the gap to the last request is over. -/
theorem ready_consistent (hs : Consistent began s) {c : Call} (hi : s.calls[i]? = some c)
    (hpermit : c.hasPermit = true) (hlock : c.hasLock = true)
    (hready : ∀ prev ∈ s.last, prev + minGap ≤ s.now) : Consistent began (s.set i .stamping) :=
  hs.move hi (hs.permit.keep hi hpermit.symm) (hs.lock.keep hi hlock.symm) (by decide)
    (fun _ => hready) (fun _ h => by cases h)

/-- A call that reads a recent request sleeps out the gap. -/
theorem sleep_consistent (hs : Consistent began s) (hi : s.calls[i]? = some .reading) {prev : ℕ}
    (hprev : s.last = some prev) (hsoon : s.now - prev < minGap) :
    Consistent began (s.set i (.sleeping (s.now + (minGap - (s.now - prev))))) := by
  have hpast := hs.prev_le hprev
  refine hs.move hi (hs.permit.keep hi rfl) (hs.lock.keep hi rfl) (by simp) (fun h => by cases h) ?_
  intro deadline hdeadline
  obtain rfl := Call.sleeping.inj hdeadline
  refine ⟨by omega, ?_⟩
  intro prev' hprev'
  rw [hprev] at hprev'
  obtain rfl := Option.some.inj hprev'
  omega

/-- A call that was let through sends its request. -/
theorem sent_consistent (hs : Consistent began s) (hi : s.calls[i]? = some .granted) :
    Consistent began { s.set i .sent with requests := s.requests ++ [s.now] } := by
  constructor
  · exact hs.permit.keep hi rfl
  · exact hs.lock.keep hi rfl
  · exact hs.last
  · exact hs.spaced
  · exact hs.since
  · intro k hk
    rcases getElem?_set_cases hk with hc | ⟨_, hold⟩
    · cases hc
    · exact hs.ready k hold
  · intro k deadline hk
    rcases getElem?_set_cases hk with hc | ⟨_, hold⟩
    · cases hc
    · exact hs.asleep k deadline hold
  · have hcount := countP_set (· == Call.granted) hi .sent
    have hbound := hs.requests
    simp only [beq_self_eq_true, if_true, show (Call.sent == Call.granted) = false from rfl,
      Bool.false_eq_true, if_false] at hcount
    simp only [State.set, List.count, List.length_append, List.length_singleton] at *
    omega

theorem step_consistent (hs : Consistent began s) (hbegan : began ≤ s.now)
    (h : s.step i = some t) : Consistent began t ∧ t.now = s.now := by
  unfold State.step at h
  split at h
  · next hi =>
    rw [Option.ite_none_right_eq_some] at h
    obtain ⟨hfree, ht⟩ := h
    obtain rfl := Option.some.inj ht
    exact ⟨acquire_consistent hs hi hfree, rfl⟩
  · next hi =>
    rw [Option.ite_none_right_eq_some] at h
    obtain ⟨hfree, ht⟩ := h
    obtain rfl := Option.some.inj ht
    exact ⟨lock_consistent hs hi hfree, rfl⟩
  · next hi =>
    split at h
    · next hnone =>
      obtain rfl := Option.some.inj h
      refine ⟨ready_consistent hs hi rfl rfl ?_, rfl⟩
      intro prev hprev
      rw [hnone] at hprev
      cases hprev
    · next prev hprev =>
      have hpast := hs.prev_le hprev
      dsimp only at h
      split at h
      · next hsoon =>
        obtain rfl := Option.some.inj h
        exact ⟨sleep_consistent hs hi hprev hsoon, rfl⟩
      · next hlate =>
        obtain rfl := Option.some.inj h
        refine ⟨ready_consistent hs hi rfl rfl ?_, rfl⟩
        intro prev' hprev'
        rw [hprev] at hprev'
        obtain rfl := Option.some.inj hprev'
        omega
  · next deadline hi =>
    rw [Option.ite_none_right_eq_some] at h
    obtain ⟨hwoken, ht⟩ := h
    obtain rfl := Option.some.inj ht
    refine ⟨ready_consistent hs hi rfl rfl ?_, rfl⟩
    intro prev hprev
    exact Nat.le_trans ((hs.asleep i deadline hi).2 prev hprev) hwoken
  · next hi =>
    obtain rfl := Option.some.inj h
    exact ⟨stamp_consistent hs hbegan hi, rfl⟩
  · next hi =>
    obtain rfl := Option.some.inj h
    exact ⟨sent_consistent hs hi, rfl⟩
  · cases h

theorem drop_consistent (hs : Consistent began s) (h : s.drop i = some t) :
    Consistent began t ∧ t.now = s.now := by
  unfold State.drop at h
  split at h
  · next hi =>
    obtain rfl := Option.some.inj h
    exact ⟨hs.move hi (hs.permit.keep hi rfl) (hs.lock.keep hi rfl) (by decide)
      (fun h => by cases h) (fun _ h => by cases h), rfl⟩
  · next hi =>
    obtain rfl := Option.some.inj h
    exact ⟨hs.move hi (hs.permit.give hi rfl rfl) (hs.lock.keep hi rfl) (by decide)
      (fun h => by cases h) (fun _ h => by cases h), rfl⟩
  · next deadline hi =>
    obtain rfl := Option.some.inj h
    exact ⟨hs.move hi (hs.permit.give hi rfl rfl) (hs.lock.give hi rfl rfl) (by decide)
      (fun h => by cases h) (fun _ h => by cases h), rfl⟩
  · next hi =>
    obtain rfl := Option.some.inj h
    exact ⟨hs.move hi (hs.permit.keep hi rfl) (hs.lock.keep hi rfl) (by decide)
      (fun h => by cases h) (fun _ h => by cases h), rfl⟩
  · cases h

theorem next_consistent (hs : Consistent began s) (hbegan : began ≤ s.now) {e : Event}
    (h : Step s e t) : Consistent began t ∧ s.now ≤ t.now := by
  cases e with
  | pass nanos =>
    obtain rfl := Option.some.inj h
    refine ⟨⟨hs.permit, hs.lock, hs.last, hs.spaced, ?_, ?_, ?_, hs.requests⟩, Nat.le_add_right _ _⟩
    · intro u hu
      exact ⟨(hs.since u hu).1, Nat.le_add_right_of_le (hs.since u hu).2⟩
    · intro i hi prev hprev
      exact Nat.le_add_right_of_le (hs.ready i hi prev hprev)
    · intro i deadline hi
      obtain ⟨hsoon, hgap⟩ := hs.asleep i deadline hi
      refine ⟨?_, hgap⟩
      dsimp only
      omega
  | call =>
    obtain rfl := Option.some.inj h
    have hcases (k : ℕ) (c : Call) (hk : (s.calls ++ [.acquiring])[k]? = some c) :
        c = .acquiring ∨ s.calls[k]? = some c := by
      rw [List.getElem?_append] at hk
      split at hk
      · exact Or.inr hk
      · exact Or.inl (List.mem_singleton.mp (List.mem_of_getElem? hk))
    refine ⟨⟨hs.permit.append rfl, hs.lock.append rfl, hs.last, hs.spaced, hs.since, ?_, ?_, ?_⟩,
      Nat.le_refl _⟩
    · intro k hk
      rcases hcases k _ hk with hc | hold
      · cases hc
      · exact hs.ready k hold
    · intro k deadline hk
      rcases hcases k _ hk with hc | hold
      · cases hc
      · exact hs.asleep k deadline hold
    · dsimp only
      rw [List.count_append]
      exact hs.requests
  | step i =>
    obtain ⟨hnext, hnow⟩ := step_consistent hs hbegan h
    exact ⟨hnext, hnow.ge⟩
  | drop i =>
    obtain ⟨hnext, hnow⟩ := drop_consistent hs h
    exact ⟨hnext, hnow.ge⟩

theorem run_consistent {es : List Event} (hr : Run Step (start began) es s) :
    Consistent began s ∧ began ≤ s.now := by
  apply hr.invariant (fun _ s => Consistent began s ∧ began ≤ s.now)
  · refine ⟨⟨rfl, rfl, rfl, List.Pairwise.nil, ?_, ?_, ?_, Nat.le_refl _⟩, Nat.le_refl _⟩
    · intro t ht
      cases ht
    · intro i hi
      cases hi
    · intro i deadline hi
      cases hi
  · rintro es s e t _ ⟨hs, hbegan⟩ hstep
    obtain ⟨hnext, hle⟩ := next_consistent hs hbegan hstep
    exact ⟨hnext, hbegan.trans hle⟩

end Steps

/-- However the calls are interleaved and dropped, two of them are let through at least 600 ms
apart, so in any window there are at most as many as such gaps fit, and one; and no more
requests are sent than calls were let through. -/
theorem requests_spaced (began : ℕ) (es : List Event) (s : State)
    (hr : Run Step (start began) es s) :
    Spaced minGap s.grants ∧
    (∀ lo hi, ((s.grants.filter (fun t => lo ≤ t ∧ t ≤ hi)).length - 1) * minGap ≤ hi - lo) ∧
    s.requests.length ≤ s.grants.length ∧
    (s.requests.length - 1) * minGap ≤ s.now - began := by
  obtain ⟨hs, _⟩ := run_consistent hr
  have hfew : s.requests.length ≤ s.grants.length := by
    have hbound := hs.requests
    omega
  refine ⟨hs.spaced, ?_, hfew, ?_⟩
  · intro lo hi
    have hwindow : Spaced minGap (s.grants.filter (fun t => lo ≤ t ∧ t ≤ hi)) :=
      List.Pairwise.filter _ hs.spaced
    apply hwindow.count
    · intro t ht
      exact (of_decide_eq_true (List.mem_filter.mp ht).2).1
    · intro t ht
      exact (of_decide_eq_true (List.mem_filter.mp ht).2).2
  · have hall := hs.spaced.count (fun t ht => (hs.since t ht).1) (fun t ht => (hs.since t ht).2)
    exact (Nat.mul_le_mul_right _ (Nat.sub_le_sub_right hfew 1)).trans hall

/-- Two calls, the second of which has to sleep, and one that is dropped. -/
def threeCalls : List Event :=
  [.call, .step 0, .step 0, .call, .step 0, .step 0, .step 0, .step 1, .step 1, .step 1,
    .call, .drop 2, .pass minGap, .step 1, .step 1, .pass 5, .step 1]

def twoSent : State :=
  ⟨minGap + 5, true, true, some minGap, [.sent, .sent, .dropped], [0, minGap], [0, minGap + 5]⟩

theorem requests_spaced_two : Run Step (start 0) threeCalls twoSent ∧
    Spaced minGap twoSent.grants ∧
    (∀ lo hi, ((twoSent.grants.filter (fun t => lo ≤ t ∧ t ≤ hi)).length - 1) * minGap ≤ hi - lo) ∧
    twoSent.requests.length ≤ twoSent.grants.length ∧
    (twoSent.requests.length - 1) * minGap ≤ twoSent.now - 0 := by
  have hrun : Run Step (start 0) threeCalls twoSent := run_foldlM rfl
  exact ⟨hrun, requests_spaced 0 threeCalls twoSent hrun⟩

/-- Some call can take its next step after at most one gap. -/
def GoesOn (s : State) : Prop :=
  ∃ nanos ≤ minGap, ∃ i, (State.step { s with now := s.now + nanos } i).isSome = true

theorem locked_goes_on {began : ℕ} {s : State} (hs : Consistent began s)
    (hlocked : s.unlocked = false) : GoesOn s := by
  have hlock := hs.lock
  rw [hlocked] at hlock
  obtain ⟨i, a, hi, ha⟩ := hlock.holder
  cases a with
  | reading =>
    refine ⟨0, Nat.zero_le _, i, ?_⟩
    simp only [State.step, hi]
    split
    · rfl
    · split
      · rfl
      · rfl
  | sleeping deadline =>
    have hsoon := (hs.asleep i deadline hi).1
    refine ⟨deadline - s.now, by omega, i, ?_⟩
    have hwoken : deadline ≤ s.now + (deadline - s.now) := by omega
    simp only [State.step, hi, if_pos hwoken]
    rfl
  | stamping =>
    refine ⟨0, Nat.zero_le _, i, ?_⟩
    simp only [State.step, hi]
    rfl
  | acquiring | locking | granted | sent | dropped => cases ha

/-- Whoever holds the permit while the lock is free takes the lock. -/
theorem unlocked_goes_on {began : ℕ} {s : State} (hs : Consistent began s)
    (hunlocked : s.unlocked = true) (htaken : s.permit = false) : GoesOn s := by
  have hlock := hs.lock
  have hone := hs.permit
  rw [hunlocked] at hlock
  rw [htaken] at hone
  obtain ⟨i, a, hi, ha⟩ := hone.holder
  cases a with
  | locking =>
    refine ⟨0, Nat.zero_le _, i, ?_⟩
    simp only [State.step, hi, hunlocked, if_true]
    rfl
  | reading | sleeping _ | stamping => cases hlock.taken hi rfl
  | acquiring | granted | sent | dropped => cases ha

theorem free_goes_on {began : ℕ} {s : State} (hs : Consistent began s) (hfree : s.permit = true)
    {c : Call} (hc : c ∈ s.calls) (hwaits : c.waits = true) : GoesOn s := by
  have hone := hs.permit
  rw [hfree] at hone
  obtain ⟨i, hi⟩ := List.getElem?_of_mem hc
  cases c with
  | acquiring =>
    refine ⟨0, Nat.zero_le _, i, ?_⟩
    simp only [State.step, hi, hfree, if_true]
    rfl
  | locking | reading | sleeping _ | stamping => cases hone.taken hi rfl
  | granted | sent | dropped => cases hwaits

/-- The limiter never gets stuck: while a call waits, some call can go on, if not now then
within 600 ms, whichever calls were dropped. -/
theorem limiter_goes_on (began : ℕ) (es : List Event) (s : State)
    (hr : Run Step (start began) es s) (c : Call) (hc : c ∈ s.calls) (hwaits : c.waits = true) :
    ∃ nanos ≤ minGap, ∃ i, (State.step { s with now := s.now + nanos } i).isSome = true := by
  obtain ⟨hs, _⟩ := run_consistent hr
  rcases Bool.eq_false_or_eq_true s.unlocked with hunlocked | hlocked
  · rcases Bool.eq_false_or_eq_true s.permit with hfree | htaken
    · exact free_goes_on hs hfree hc hwaits
    · exact unlocked_goes_on hs hunlocked htaken
  · exact locked_goes_on hs hlocked

/-- The second call while it sleeps. -/
def oneAsleep : State :=
  ⟨0, false, false, some 0, [.sent, .sleeping minGap], [0], [0]⟩

theorem limiter_goes_on_asleep : ∃ nanos ≤ minGap, ∃ i,
    (State.step { oneAsleep with now := oneAsleep.now + nanos } i).isSome = true :=
  limiter_goes_on 0 (threeCalls.take 10) oneAsleep (run_foldlM rfl) (.sleeping minGap)
    (List.mem_cons_of_mem _ List.mem_cons_self) rfl

end SolanaArb.RateLimit
