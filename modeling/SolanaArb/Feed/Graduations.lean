import SolanaArb.Feed.MonitorRuns
import SolanaArb.General.Base58
import Mathlib.Data.Finset.Card

/-! # Graduations under supervision

The supervising loop calls `run` again whenever it returns. A failed connection, request
or read is an error inside `run`, which connects again and remembers what it has seen of
the curves; a close frame and the end of the stream end `run`, and the next one starts
with an empty memory.
-/
namespace SolanaArb.PoolMonitor
open SolanaArb.PoolDecoder SolanaArb.General

/-- How a session ends. -/
inductive SessionEnd
  | connectFailed | sendFailed | readError | close | streamEnd
  deriving DecidableEq, Repr

/-- The result of `run_session` is an error. -/
def SessionEnd.isErr : SessionEnd → Bool
  | connectFailed | sendFailed | readError => true
  | close | streamEnd => false

inductive SupervisorEvent
  | discoveryFailed
  | discovered (pools : List (DiscoveredPool × Resolution)) (accounts : List String)
  | message (msg : Option WsMessage) (solUsd : ℚ) (now : Timestamp)
  | sessionEnds (how : SessionEnd)

/-- A call of `run` that has connected. -/
structure Monitoring where
  watch : Watch
  state : MonitorState

/-- A complete flag of a curve as a notification showed it. -/
structure CurveShown where
  run : ℕ
  curve : String
  complete : Bool
  deriving DecidableEq, Repr

structure Supervised where
  monitoring : Option Monitoring
  /-- Not in the program: the calls of `run` so far. -/
  runs : ℕ
  /-- Not in the program: the flags shown, newest first. -/
  shown : List CurveShown
  /-- Not in the program: the graduations sent, newest first. -/
  sent : List GraduationEvent

def Emission.graduation? : Emission → Option GraduationEvent
  | .graduation e => some e
  | .quote _ => none

/-- The curve a notification shows, with its complete flag. -/
def curveFlag (watch : Watch) (st : MonitorState) (msg : Option WsMessage) :
    Option (String × Bool) :=
  match classify msg with
  | .notification subId data =>
    match (st.subToAccount.lookup subId).bind (fun account => watch.roles.lookup account) with
    | some (.pumpFunCurve poolAddress _) =>
      match decodePumpfunState data with
      | .ok state => some (poolAddress, state.complete)
      | .error _ => none
    | _ => none
  | _ => none

section Supervise
variable (bs58 : Bytes → String)

/-- The call of `run` up to its first connection; without pools or accounts it returns. -/
def startRun (pools : List (DiscoveredPool × Resolution)) (accounts : List String) :
    Option Monitoring :=
  if pools.isEmpty || (buildSubscriptions bs58 pools).roles.keys.isEmpty then none
  else some ⟨subscribedWatch bs58 pools accounts, startState bs58 pools⟩

def Supervised.next (s : Supervised) (e : SupervisorEvent) : Supervised :=
  match s.monitoring, e with
  | none, .discoveryFailed => { s with runs := s.runs + 1 }
  | none, .discovered pools accounts =>
    { s with monitoring := startRun bs58 pools accounts, runs := s.runs + 1 }
  | some m, .message msg solUsd now =>
    let (state, emissions) := handleMessage m.watch.roles m.watch.accounts msg solUsd now m.state
    { monitoring := some { m with state := state }
      runs := s.runs
      shown := ((curveFlag m.watch m.state msg).map
        (fun flag => ⟨s.runs, flag.1, flag.2⟩)).toList ++ s.shown
      sent := emissions.filterMap Emission.graduation? ++ s.sent }
  | some m, .sessionEnds how =>
    if how.isErr then { s with monitoring := some { m with state := m.state.reconnect } }
    else { s with monitoring := none }
  | _, _ => s

def supervised (es : List SupervisorEvent) : Supervised :=
  es.foldl (Supervised.next bs58) ⟨none, 0, [], []⟩

end Supervise

def sentFor (curve : String) (sent : List GraduationEvent) : List GraduationEvent :=
  sent.filter (fun e => e.bondingCurveAddress = curve)

/-- The calls of `run` in which a notification showed the curve complete. -/
def completeRuns (curve : String) (shown : List CurveShown) : Finset ℕ :=
  ((shown.filter (fun x => x.curve = curve ∧ x.complete = true)).map CurveShown.run).toFinset

/-- The complete flag of the curve never goes back. -/
def NeverReverts (curve : String) (shown : List CurveShown) : Prop :=
  shown.Pairwise (fun newer older => newer.curve = curve → older.curve = curve →
    older.complete = true → newer.complete = true)

section Messages
variable {watch : Watch} {st : MonitorState} {msg : Option WsMessage} {solUsd : ℚ}
  {now : Timestamp} {curve : String}

theorem tryEmitRaydium_graduations (state : RaydiumVaultState) :
    (tryEmitRaydium state solUsd now).filterMap Emission.graduation? = [] := by
  rcases tryEmitRaydium_cases solUsd now state with heq | ⟨_, _, _, _, _, _, heq⟩
  · rw [heq]
    rfl
  · rw [heq]
    rfl

theorem updateVault_graduations (side : Side) (poolAddress : String) (data : Bytes) :
    (updateVault side poolAddress data solUsd now st).1.pumpfunWasComplete = st.pumpfunWasComplete ∧
      (updateVault side poolAddress data solUsd now st).2.filterMap Emission.graduation? = [] := by
  rcases updateVault_cases solUsd now st side poolAddress data with
    ⟨_, heq⟩ | ⟨_, state, _, _, heq⟩
  · rw [heq]
    exact ⟨rfl, rfl⟩
  · rw [heq]
    exact ⟨rfl, tryEmitRaydium_graduations _⟩

theorem updateWhirlpool_graduations (poolAddress baseMint quoteMint : String)
    (decimalsA decimalsB : UInt8) (baseIsA : Bool) (data : Bytes) :
    (updateWhirlpool poolAddress baseMint decimalsA decimalsB baseIsA quoteMint data solUsd
      now).filterMap Emission.graduation? = [] := by
  rcases updateWhirlpool_cases solUsd now poolAddress baseMint decimalsA decimalsB baseIsA quoteMint
    data with heq | ⟨_, _, heq⟩
  · rw [heq]
    rfl
  · rw [heq]
    rfl

/-- What a decoded curve does to a tracked memory. -/
theorem updateCurve_graduations {poolAddress baseMint : String} {data : Bytes}
    {state : PumpFunState} {was : Bool} (hstate : decodePumpfunState data = .ok state)
    (hwas : st.pumpfunWasComplete.lookup poolAddress = some was) :
    (updateCurve poolAddress baseMint data solUsd now st).1.pumpfunWasComplete =
        st.pumpfunWasComplete.insert poolAddress state.complete ∧
      (updateCurve poolAddress baseMint data solUsd now st).2.filterMap Emission.graduation? =
        if state.complete && !was then [⟨poolAddress, baseMint, "", now⟩] else [] := by
  rcases updateCurve_cases solUsd now st poolAddress baseMint data with
    ⟨hnone, _⟩ | ⟨state', memory, graduations, quotes, hstate', heq, hmemory, hquotes⟩
  · exact absurd hstate (hnone state)
  · obtain rfl := Except.ok.inj (hstate.symm.trans hstate')
    rcases hmemory with ⟨hnone, _⟩ | ⟨was', hwas', rfl, rfl⟩
    · rw [hwas] at hnone
      cases hnone
    · obtain rfl := Option.some.inj (hwas.symm.trans hwas')
      have hsent : quotes.filterMap Emission.graduation? = [] := by
        rcases hquotes with rfl | ⟨price, _, rfl⟩
        · rfl
        · rfl
      rw [heq, List.filterMap_append, hsent, List.append_nil]
      refine ⟨rfl, ?_⟩
      split
      · rfl
      · rfl

/-- Every curve with a role is remembered. -/
def CurvesTracked (watch : Watch) (st : MonitorState) : Prop :=
  ∀ account poolAddress baseMint,
    watch.roles.lookup account = some (.pumpFunCurve poolAddress baseMint) →
      ∃ was, st.pumpfunWasComplete.lookup poolAddress = some was

/-- The effect of a message on the curves: none, or one curve is shown. -/
theorem handleMessage_curves (htracked : CurvesTracked watch st) :
    (curveFlag watch st msg = none ∧
      (handleMessage watch.roles watch.accounts msg solUsd now st).1.pumpfunWasComplete =
        st.pumpfunWasComplete ∧
      (handleMessage watch.roles watch.accounts msg solUsd now st).2.filterMap
        Emission.graduation? = []) ∨
    ∃ poolAddress baseMint complete was,
      curveFlag watch st msg = some (poolAddress, complete) ∧
      st.pumpfunWasComplete.lookup poolAddress = some was ∧
      (handleMessage watch.roles watch.accounts msg solUsd now st).1.pumpfunWasComplete =
        st.pumpfunWasComplete.insert poolAddress complete ∧
      (handleMessage watch.roles watch.accounts msg solUsd now st).2.filterMap
        Emission.graduation? =
          if complete && !was then [⟨poolAddress, baseMint, "", now⟩] else [] := by
  rcases handleMessage_cases solUsd now st watch.roles watch.accounts msg with
    ⟨subId, data, role, hclass, hrole, heq⟩ | ⟨hquiet, subs, heq, _⟩
  · rw [heq]
    unfold curveFlag
    simp only [hclass, hrole]
    cases role with
    | raydiumCoinVault p => exact Or.inl ⟨rfl, updateVault_graduations .coin p data⟩
    | raydiumPcVault p => exact Or.inl ⟨rfl, updateVault_graduations .pc p data⟩
    | orcaWhirlpool p baseMint decA decB baseIsA quoteMint =>
      exact Or.inl ⟨rfl, rfl,
        updateWhirlpool_graduations p baseMint quoteMint decA decB baseIsA data⟩
    | pumpFunCurve p baseMint =>
      obtain ⟨account, _, hlookup⟩ := Option.bind_eq_some_iff.mp hrole
      obtain ⟨was, hwas⟩ := htracked account p baseMint hlookup
      cases hstate : decodePumpfunState data with
      | error e =>
        refine Or.inl ⟨rfl, ?_, ?_⟩
        · simp only [handleAccount, updateCurve, hstate]
        · simp only [handleAccount, updateCurve, hstate, List.filterMap_nil]
      | ok state =>
        refine Or.inr ⟨p, baseMint, state.complete, was, rfl, hwas, ?_⟩
        exact updateCurve_graduations hstate hwas
  · rw [heq]
    refine Or.inl ⟨?_, rfl, rfl⟩
    unfold curveFlag
    cases hclass : classify msg with
    | ignored => rfl
    | confirmation reqId subId => rfl
    | notification subId data => simp only [hquiet subId data hclass]

end Messages

section Start
variable {bs58 : Bytes → String} {pools : List (DiscoveredPool × Resolution)}
  {accounts : List String} {records : RaydiumStates}

theorem initialState_fresh (discovered : List DiscoveredPool) {curve : String} {was : Bool}
    (h : (initialState records discovered).pumpfunWasComplete.lookup curve = some was) :
    was = false := by
  have hall : ∀ curve was,
      (initialState records discovered).pumpfunWasComplete.lookup curve = some was →
        was = false := by
    apply List.foldlRecOn discovered _ (motive := fun table : AList (fun _ : String => Bool) =>
      ∀ curve was, table.lookup curve = some was → was = false)
    · intro curve was h
      rw [AList.lookup_empty] at h
      cases h
    · intro table h pool _
      split
      · exact forall_lookup_insert h rfl
      · exact h
  exact hall curve was h

theorem initialState_tracks {discovered : List DiscoveredPool} {pool : DiscoveredPool}
    (hpool : pool ∈ discovered) (hdex : pool.dex = .pumpFun) :
    ∃ was, (initialState records discovered).pumpfunWasComplete.lookup pool.poolAddress =
      some was := by
  unfold initialState
  induction discovered using List.reverseRecOn with
  | nil => exact absurd hpool List.not_mem_nil
  | append_singleton discovered last ih =>
    dsimp only
    rw [List.foldl_append, List.foldl_cons, List.foldl_nil]
    rcases List.mem_append.mp hpool with hold | hlast
    · obtain ⟨was, hwas⟩ := ih hold
      split
      · by_cases haddress : pool.poolAddress = last.poolAddress
        · exact ⟨false, by rw [haddress, AList.lookup_insert]⟩
        · exact ⟨was, by rw [AList.lookup_insert_ne haddress]; exact hwas⟩
      · exact ⟨was, hwas⟩
    · obtain rfl := List.mem_singleton.mp hlast
      rw [if_pos hdex]
      exact ⟨false, AList.lookup_insert _⟩

theorem startState_curvesTracked :
    CurvesTracked (subscribedWatch bs58 pools accounts) (startState bs58 pools) := by
  intro account poolAddress baseMint hrole
  have hlabel : Labelled bs58 pools (buildSubscriptions bs58 pools) :=
    buildSubscriptions_labelled pools
  obtain ⟨d, hd, hdex, rfl, _⟩ := hlabel.role account _ hrole
  exact initialState_tracks (List.mem_map_of_mem hd) hdex

end Start

section Counting
variable {curve : String} {shown : List CurveShown} {x : CurveShown}

theorem sentFor_append (new sent : List GraduationEvent) :
    sentFor curve (new ++ sent) = sentFor curve new ++ sentFor curve sent :=
  List.filter_append ..

theorem mem_completeRuns {r : ℕ} : r ∈ completeRuns curve shown ↔
    ∃ x ∈ shown, x.curve = curve ∧ x.complete = true ∧ x.run = r := by
  simp [completeRuns, and_assoc]

theorem completeRuns_cons_of (h : x.curve = curve ∧ x.complete = true) :
    completeRuns curve (x :: shown) = insert x.run (completeRuns curve shown) := by
  rw [completeRuns, List.filter_cons_of_pos (by rwa [decide_eq_true_eq]), List.map_cons,
    List.toFinset_cons, completeRuns]

theorem completeRuns_cons_of_not (h : ¬ (x.curve = curve ∧ x.complete = true)) :
    completeRuns curve (x :: shown) = completeRuns curve shown := by
  rw [completeRuns, List.filter_cons_of_neg (by rwa [decide_eq_true_eq]), completeRuns]

end Counting

/-- The memory of a call of `run` is what was shown in it, and a graduation was sent for
every call that was shown the curve complete. -/
structure Graduated (curve : String) (s : Supervised) : Prop where
  tracked : ∀ m, s.monitoring = some m → CurvesTracked m.watch m.state
  memory : ∀ m was, s.monitoring = some m →
    m.state.pumpfunWasComplete.lookup curve = some was →
      (was = true ↔ s.runs ∈ completeRuns curve s.shown)
  past : ∀ r ∈ completeRuns curve s.shown, r ≤ s.runs
  count : (sentFor curve s.sent).length = (completeRuns curve s.shown).card

section Steps
variable {bs58 : Bytes → String} {curve : String} {s : Supervised} {m : Monitoring}

/-- Between two calls of `run` there is no memory. -/
theorem graduated_idle (hidle : s.monitoring = none)
    (hpast : ∀ r ∈ completeRuns curve s.shown, r ≤ s.runs)
    (hcount : (sentFor curve s.sent).length = (completeRuns curve s.shown).card) :
    Graduated curve s := by
  constructor
  · intro m hm
    rw [hidle] at hm
    cases hm
  · intro m was hm
    rw [hidle] at hm
    cases hm
  · exact hpast
  · exact hcount

/-- Within a call of `run` the memory of the curve is all that matters. -/
theorem graduated_monitoring {runs : ℕ} {shown : List CurveShown} {sent : List GraduationEvent}
    (htracked : CurvesTracked m.watch m.state)
    (hmemory : ∀ was, m.state.pumpfunWasComplete.lookup curve = some was →
      (was = true ↔ runs ∈ completeRuns curve shown))
    (hpast : ∀ r ∈ completeRuns curve shown, r ≤ runs)
    (hcount : (sentFor curve sent).length = (completeRuns curve shown).card) :
    Graduated curve ⟨some m, runs, shown, sent⟩ := by
  constructor
  · intro m' hm'
    obtain rfl := Option.some.inj hm'
    exact htracked
  · intro m' was hm'
    obtain rfl := Option.some.inj hm'
    exact hmemory was
  · exact hpast
  · exact hcount

theorem Graduated.startRun (h : Graduated curve s) (monitoring : Option Monitoring)
    (hstart : ∀ m, monitoring = some m → CurvesTracked m.watch m.state ∧
      ∀ was, m.state.pumpfunWasComplete.lookup curve = some was → was = false) :
    Graduated curve { s with monitoring := monitoring, runs := s.runs + 1 } := by
  constructor
  · intro m hm
    exact (hstart m hm).1
  · intro m was hm hwas
    rw [(hstart m hm).2 was hwas]
    constructor
    · intro hfalse
      cases hfalse
    · intro hrun
      have hle := h.past _ hrun
      dsimp only at hle
      omega
  · intro r hr
    exact (h.past r hr).trans (Nat.le_succ _)
  · exact h.count

theorem startRun_fresh {pools : List (DiscoveredPool × Resolution)} {accounts : List String}
    (hm : startRun bs58 pools accounts = some m) : CurvesTracked m.watch m.state ∧
      ∀ was, m.state.pumpfunWasComplete.lookup curve = some was → was = false := by
  unfold PoolMonitor.startRun at hm
  split at hm
  · cases hm
  · obtain rfl := Option.some.inj hm
    exact ⟨startState_curvesTracked, fun was hwas => initialState_fresh _ hwas⟩

theorem Graduated.reconnect (h : Graduated curve s) (hm : s.monitoring = some m) :
    Graduated curve { s with monitoring := some { m with state := m.state.reconnect } } :=
  graduated_monitoring (h.tracked m hm) (fun was hwas => h.memory m was hm hwas) h.past h.count

theorem CurvesTracked.insert {watch : Watch} {st st' : MonitorState} {shownCurve : String}
    {complete : Bool} (h : CurvesTracked watch st)
    (hmemory : st'.pumpfunWasComplete = st.pumpfunWasComplete.insert shownCurve complete) :
    CurvesTracked watch st' := by
  intro account poolAddress baseMint hrole
  obtain ⟨was, hwas⟩ := h account poolAddress baseMint hrole
  rw [hmemory]
  by_cases haddress : poolAddress = shownCurve
  · exact ⟨complete, by rw [haddress, AList.lookup_insert]⟩
  · exact ⟨was, by rw [AList.lookup_insert_ne haddress]; exact hwas⟩

/-- A notification that shows another curve. -/
theorem Graduated.show_other (h : Graduated curve s) (hm : s.monitoring = some m)
    {state : MonitorState} {shownCurve : String} {complete : Bool}
    {graduations : List GraduationEvent} (hne : shownCurve ≠ curve)
    (hmemory : state.pumpfunWasComplete = m.state.pumpfunWasComplete.insert shownCurve complete)
    (hgraduations : ∀ e ∈ graduations, e.bondingCurveAddress = shownCurve) :
    Graduated curve ⟨some { m with state := state }, s.runs,
      ⟨s.runs, shownCurve, complete⟩ :: s.shown, graduations ++ s.sent⟩ := by
  have hruns : completeRuns curve (⟨s.runs, shownCurve, complete⟩ :: s.shown) =
      completeRuns curve s.shown := completeRuns_cons_of_not (fun hshown => hne hshown.1)
  have hnone : sentFor curve graduations = [] := by
    apply List.filter_eq_nil_iff.mpr
    intro e he
    rw [decide_eq_true_eq, hgraduations e he]
    exact hne
  apply graduated_monitoring
  · exact (h.tracked m hm).insert hmemory
  · intro was hwas
    dsimp only at hwas
    rw [hmemory, AList.lookup_insert_ne hne.symm] at hwas
    rw [hruns]
    exact h.memory m was hm hwas
  · rw [hruns]
    exact h.past
  · rw [hruns, sentFor_append, hnone, List.nil_append]
    exact h.count

/-- A notification that shows the curve: it is announced unless this call of `run` has
been shown it complete. -/
theorem Graduated.show_curve (h : Graduated curve s) (hm : s.monitoring = some m)
    {state : MonitorState} {complete was : Bool} {baseMint : String} {now : Timestamp}
    (hwas : m.state.pumpfunWasComplete.lookup curve = some was)
    (hmemory : state.pumpfunWasComplete = m.state.pumpfunWasComplete.insert curve complete)
    (hkept : was = true → complete = true) :
    Graduated curve ⟨some { m with state := state }, s.runs,
      ⟨s.runs, curve, complete⟩ :: s.shown,
      (if complete && !was then [⟨curve, baseMint, "", now⟩] else []) ++ s.sent⟩ := by
  have hrun := h.memory m was hm hwas
  have hmemory' : ∀ was', state.pumpfunWasComplete.lookup curve = some was' → was' = complete := by
    intro was' hwas'
    rw [hmemory, AList.lookup_insert] at hwas'
    exact (Option.some.inj hwas').symm
  have htracked : CurvesTracked m.watch state := (h.tracked m hm).insert hmemory
  cases complete with
  | false =>
    have hruns : completeRuns curve (⟨s.runs, curve, false⟩ :: s.shown) =
        completeRuns curve s.shown := completeRuns_cons_of_not (fun hshown => by cases hshown.2)
    have hnot : s.runs ∉ completeRuns curve s.shown := by
      intro hmem
      cases hkept (hrun.mpr hmem)
    apply graduated_monitoring htracked
    · intro was' hwas'
      rw [hmemory' was' hwas', hruns]
      constructor
      · intro hfalse
        cases hfalse
      · intro hmem
        exact absurd hmem hnot
    · rw [hruns]
      exact h.past
    · rw [hruns]
      exact h.count
  | true =>
    have hruns : completeRuns curve (⟨s.runs, curve, true⟩ :: s.shown) =
        insert s.runs (completeRuns curve s.shown) := completeRuns_cons_of ⟨rfl, rfl⟩
    apply graduated_monitoring htracked
    · intro was' hwas'
      rw [hmemory' was' hwas', hruns]
      exact ⟨fun _ => Finset.mem_insert_self _ _, fun _ => rfl⟩
    · intro r hr
      rw [hruns] at hr
      rcases Finset.mem_insert.mp hr with rfl | hr
      · exact le_rfl
      · exact h.past r hr
    · rw [hruns]
      cases was with
      | true =>
        rw [Finset.insert_eq_self.mpr (hrun.mp rfl)]
        exact h.count
      | false =>
        have hnew : s.runs ∉ completeRuns curve s.shown := by
          intro hmem
          cases hrun.mpr hmem
        rw [Finset.card_insert_of_notMem hnew, ← h.count]
        simp [sentFor]

/-- A message that shows no curve. -/
theorem Graduated.show_none (h : Graduated curve s) (hm : s.monitoring = some m)
    {state : MonitorState} (hmemory : state.pumpfunWasComplete = m.state.pumpfunWasComplete) :
    Graduated curve ⟨some { m with state := state }, s.runs, s.shown, s.sent⟩ := by
  apply graduated_monitoring
  · intro account poolAddress baseMint hrole
    rw [hmemory]
    exact h.tracked m hm account poolAddress baseMint hrole
  · intro was hwas
    dsimp only at hwas
    rw [hmemory] at hwas
    exact h.memory m was hm hwas
  · exact h.past
  · exact h.count

theorem next_message (bs58 : Bytes → String) (hm : s.monitoring = some m) (msg : Option WsMessage)
    (solUsd : ℚ) (now : Timestamp) : s.next bs58 (.message msg solUsd now) =
      ⟨some { m with
          state := (handleMessage m.watch.roles m.watch.accounts msg solUsd now m.state).1 },
        s.runs,
        ((curveFlag m.watch m.state msg).map (fun flag => ⟨s.runs, flag.1, flag.2⟩)).toList ++
          s.shown,
        (handleMessage m.watch.roles m.watch.accounts msg solUsd now m.state).2.filterMap
          Emission.graduation? ++ s.sent⟩ := by
  simp only [Supervised.next, hm]

/-- All an event can do: nothing, begin a call of `run`, show a message, end a session. -/
theorem next_cases (bs58 : Bytes → String) (s : Supervised) (e : SupervisorEvent) :
    s.next bs58 e = s ∨
    (∃ monitoring, s.monitoring = none ∧
      (∀ m, monitoring = some m → ∃ pools accounts, startRun bs58 pools accounts = some m) ∧
      s.next bs58 e = { s with monitoring := monitoring, runs := s.runs + 1 }) ∨
    (∃ m msg solUsd now, s.monitoring = some m ∧ e = .message msg solUsd now) ∨
    ∃ m how, s.monitoring = some m ∧ e = .sessionEnds how ∧ s.next bs58 e =
      { s with monitoring :=
          if how.isErr then some { m with state := m.state.reconnect } else none } := by
  cases hm : s.monitoring with
  | none =>
    cases e with
    | discoveryFailed =>
      refine Or.inr (Or.inl ⟨none, rfl, fun m hm' => (by cases hm'), ?_⟩)
      simp only [Supervised.next, hm]
    | discovered pools accounts =>
      refine Or.inr (Or.inl ⟨_, rfl, fun m hm' => ⟨pools, accounts, hm'⟩, ?_⟩)
      simp only [Supervised.next, hm]
    | message msg solUsd now => exact Or.inl (by simp only [Supervised.next, hm])
    | sessionEnds how => exact Or.inl (by simp only [Supervised.next, hm])
  | some m =>
    cases e with
    | discoveryFailed => exact Or.inl (by simp only [Supervised.next, hm])
    | discovered pools accounts => exact Or.inl (by simp only [Supervised.next, hm])
    | message msg solUsd now => exact Or.inr (Or.inr (Or.inl ⟨m, msg, solUsd, now, rfl, rfl⟩))
    | sessionEnds how =>
      refine Or.inr (Or.inr (Or.inr ⟨m, how, rfl, rfl, ?_⟩))
      simp only [Supervised.next, hm]
      split
      · rfl
      · rfl

theorem Graduated.message (h : Graduated curve s) (hm : s.monitoring = some m)
    (msg : Option WsMessage) (solUsd : ℚ) (now : Timestamp)
    (hkept : NeverReverts curve (s.next bs58 (.message msg solUsd now)).shown) :
    Graduated curve (s.next bs58 (.message msg solUsd now)) := by
  rw [next_message bs58 hm] at hkept ⊢
  rcases @handleMessage_curves m.watch m.state msg solUsd now (h.tracked m hm) with
    ⟨hflag, hmemory, hsent⟩ | ⟨shownCurve, baseMint, complete, was, hflag, hwas, hmemory, hsent⟩
  · rw [hflag, hsent]
    exact h.show_none hm hmemory
  · rw [hflag, Option.map_some, Option.toList_some, List.singleton_append] at hkept ⊢
    rw [hsent]
    by_cases hcurve : shownCurve = curve
    · subst hcurve
      refine h.show_curve hm hwas hmemory ?_
      intro htrue
      obtain ⟨x, hx, hxCurve, hxComplete, _⟩ :=
        mem_completeRuns.mp ((h.memory m was hm hwas).mp htrue)
      exact (List.pairwise_cons.mp hkept).1 x hx rfl hxCurve hxComplete
    · refine h.show_other hm hcurve hmemory ?_
      intro e he
      split at he
      · rw [List.mem_singleton.mp he]
      · exact absurd he List.not_mem_nil

theorem Graduated.next (h : Graduated curve s) (e : SupervisorEvent)
    (hkept : NeverReverts curve (s.next bs58 e).shown) : Graduated curve (s.next bs58 e) := by
  rcases next_cases bs58 s e with
    heq | ⟨monitoring, _, hstart, heq⟩ | ⟨m, msg, solUsd, now, hm, rfl⟩ | ⟨m, how, hm, _, heq⟩
  · rw [heq]
    exact h
  · rw [heq]
    apply h.startRun
    intro m hm
    obtain ⟨pools, accounts, hrun⟩ := hstart m hm
    exact startRun_fresh hrun
  · exact h.message hm msg solUsd now hkept
  · rw [heq]
    cases how.isErr with
    | true => exact h.reconnect hm
    | false => exact graduated_idle rfl h.past h.count

/-- The flags shown so far stay shown. -/
theorem shown_suffix (s : Supervised) (e : SupervisorEvent) :
    s.shown <:+ (s.next bs58 e).shown := by
  rcases next_cases bs58 s e with
    heq | ⟨_, _, _, heq⟩ | ⟨m, msg, solUsd, now, hm, rfl⟩ | ⟨_, _, _, _, heq⟩
  · rw [heq]
  · rw [heq]
  · rw [next_message bs58 hm]
    exact List.suffix_append _ _
  · rw [heq]

end Steps

section Runs
variable {bs58 : Bytes → String} {curve : String}

theorem supervised_snoc (bs58 : Bytes → String) (es : List SupervisorEvent) (e : SupervisorEvent) :
    supervised bs58 (es ++ [e]) = (supervised bs58 es).next bs58 e := by
  simp [supervised]

theorem supervised_graduated {es : List SupervisorEvent}
    (hkept : NeverReverts curve (supervised bs58 es).shown) :
    Graduated curve (supervised bs58 es) := by
  induction es using List.reverseRecOn with
  | nil =>
    refine graduated_idle rfl ?_ rfl
    intro r hr
    obtain ⟨x, hx, _⟩ := mem_completeRuns.mp hr
    exact absurd hx List.not_mem_nil
  | append_singleton es e ih =>
    rw [supervised_snoc] at hkept ⊢
    exact (ih (List.Pairwise.sublist (shown_suffix _ e).sublist hkept)).next e hkept

/-- While no session ends without an error, all flags are shown in one call of `run`. -/
def OneRun (s : Supervised) : Prop :=
  (s.monitoring = none → s.shown = []) ∧ ∀ x ∈ s.shown, x.run = s.runs

theorem oneRun_idle {s : Supervised} (hshown : s.shown = []) : OneRun s := by
  refine ⟨fun _ => hshown, ?_⟩
  intro x hx
  rw [hshown] at hx
  exact absurd hx List.not_mem_nil

theorem oneRun_monitoring {s : Supervised} {m : Monitoring} (hm : s.monitoring = some m)
    (hruns : ∀ x ∈ s.shown, x.run = s.runs) : OneRun s := by
  refine ⟨?_, hruns⟩
  intro hnone
  rw [hm] at hnone
  cases hnone

theorem OneRun.next {s : Supervised} (h : OneRun s) (e : SupervisorEvent)
    (herr : ∀ how, e = .sessionEnds how → how.isErr = true) : OneRun (s.next bs58 e) := by
  rcases next_cases bs58 s e with
    heq | ⟨_, hidle, _, heq⟩ | ⟨m, msg, solUsd, now, hm, rfl⟩ | ⟨m, how, _, rfl, heq⟩
  · rw [heq]
    exact h
  · rw [heq]
    exact oneRun_idle (h.1 hidle)
  · rw [next_message bs58 hm]
    apply oneRun_monitoring rfl
    intro x hx
    rcases List.mem_append.mp hx with hnew | hold
    · obtain ⟨flag, _, rfl⟩ := Option.map_eq_some_iff.mp (Option.mem_toList.mp hnew)
      rfl
    · exact h.2 x hold
  · rw [heq, herr how rfl, if_pos rfl]
    exact oneRun_monitoring rfl h.2

theorem supervised_oneRun {es : List SupervisorEvent}
    (herr : ∀ how, .sessionEnds how ∈ es → how.isErr = true) : OneRun (supervised bs58 es) := by
  induction es using List.reverseRecOn with
  | nil => exact ⟨fun _ => rfl, fun x hx => absurd hx List.not_mem_nil⟩
  | append_singleton es e ih =>
    rw [supervised_snoc]
    apply (ih (fun how hmem => herr how (List.mem_append_left _ hmem))).next
    intro how heq
    exact herr how (heq ▸ List.mem_append_right _ List.mem_cons_self)

end Runs

/-- For a curve that never reverts, one graduation is sent for every call of `run` that is
shown the curve complete: at most one is sent exactly when one call is shown it. So it is
when every session ends with an error. -/
theorem graduation_once_iff (bs58 : Bytes → String) (es : List SupervisorEvent) (curve : String)
    (hkept : NeverReverts curve (supervised bs58 es).shown) :
    (sentFor curve (supervised bs58 es).sent).length =
      (completeRuns curve (supervised bs58 es).shown).card ∧
    ((sentFor curve (supervised bs58 es).sent).length ≤ 1 ↔
      ∀ x ∈ (supervised bs58 es).shown, ∀ y ∈ (supervised bs58 es).shown,
        x.curve = curve → y.curve = curve → x.complete = true → y.complete = true →
        x.run = y.run) ∧
    ((∀ how, .sessionEnds how ∈ es → how.isErr = true) →
      (sentFor curve (supervised bs58 es).sent).length ≤ 1) := by
  have hcount := (supervised_graduated hkept).count
  have hiff : (completeRuns curve (supervised bs58 es).shown).card ≤ 1 ↔
      ∀ x ∈ (supervised bs58 es).shown, ∀ y ∈ (supervised bs58 es).shown,
        x.curve = curve → y.curve = curve → x.complete = true → y.complete = true →
        x.run = y.run := by
    rw [Finset.card_le_one]
    constructor
    · intro hone x hx y hy hxCurve hyCurve hxComplete hyComplete
      exact hone _ (mem_completeRuns.mpr ⟨x, hx, hxCurve, hxComplete, rfl⟩) _
        (mem_completeRuns.mpr ⟨y, hy, hyCurve, hyComplete, rfl⟩)
    · intro hall r hr r' hr'
      obtain ⟨x, hx, hxCurve, hxComplete, rfl⟩ := mem_completeRuns.mp hr
      obtain ⟨y, hy, hyCurve, hyComplete, rfl⟩ := mem_completeRuns.mp hr'
      exact hall x hx y hy hxCurve hyCurve hxComplete hyComplete
  rw [hcount]
  refine ⟨rfl, hiff, ?_⟩
  intro herr
  have hone := @supervised_oneRun bs58 es herr
  apply hiff.mpr
  intro x hx y hy _ _ _ _
  rw [hone.2 x hx, hone.2 y hy]

def curvePool : DiscoveredPool × Resolution :=
  (⟨"CurveAddress", .pumpFun, "TokenMint", wsolMint⟩,
    ⟨some 6, some 9, .error "not a Raydium pool", .error "not a Whirlpool"⟩)

def curveData (complete : Bool) : Bytes :=
  List.replicate pumpfunCompleteOffset 1 ++ [if complete then 1 else 0]

/-- A call of `run` that is shown the curve with the given flag. -/
def curveSession (complete : Bool) : List SupervisorEvent :=
  [.discovered [curvePool] ["CurveAddress"], .message (some ⟨some 1, some 7, none, none⟩) 150 0,
    .message (some ⟨none, none, some "accountNotification",
      some ⟨some 7, some (some (curveData complete))⟩⟩) 150 0]

/-- The curve graduates, the server closes the connection, and the next call of `run` is
shown the same flag. -/
def closedEvents : List SupervisorEvent :=
  curveSession true ++ .sessionEnds .close :: curveSession true

theorem closedEvents_kept :
    NeverReverts "CurveAddress" (supervised base58Encode closedEvents).shown := by
  unfold NeverReverts
  decide +kernel

theorem graduation_sent_twice :
    NeverReverts "CurveAddress" (supervised base58Encode closedEvents).shown ∧
    (sentFor "CurveAddress" (supervised base58Encode closedEvents).sent).length = 2 :=
  ⟨closedEvents_kept, by decide +kernel⟩

/-- After a read error in place of the close frame the graduation is sent once. -/
def readErrorEvents : List SupervisorEvent :=
  curveSession true ++ .sessionEnds .readError :: (curveSession true).tail

theorem graduation_once_iff_readError :
    (supervised base58Encode readErrorEvents).shown.length = 2 ∧
    (sentFor "CurveAddress" (supervised base58Encode readErrorEvents).sent).length ≤ 1 := by
  have hkept : NeverReverts "CurveAddress" (supervised base58Encode readErrorEvents).shown := by
    unfold NeverReverts
    decide +kernel
  refine ⟨by decide +kernel, ?_⟩
  apply (graduation_once_iff base58Encode readErrorEvents "CurveAddress" hkept).2.2
  intro how hmem
  simp only [readErrorEvents, curveSession, List.tail_cons, List.cons_append, List.nil_append,
    List.mem_cons, List.not_mem_nil, reduceCtorEq, SupervisorEvent.sessionEnds.injEq, false_or,
    or_false] at hmem
  rw [hmem]
  rfl

end SolanaArb.PoolMonitor
