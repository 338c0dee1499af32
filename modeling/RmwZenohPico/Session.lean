import RmwZenohPico.Lib.LabelledMachine
import RmwZenohPico.RmwTypes
import Mathlib.Data.Finset.Card

namespace RmwZenohPico.Session

open Lib.LabelledMachine RmwTypes

variable {C K : Type}

inductive Transport
  | unicast
  | multicast
  | serial
  deriving DecidableEq

structure BuildOptions where
  transport : Transport
  zid : String

structure ZenohPicoTransportParams where
  mode : String
  connectAddr : String
  listenAddr : String
  mcastAddr : String

inductive ConfigKey
  | sessionZid
  | mode
  | connect
  | listen
  deriving DecidableEq

structure ZenohConfig (K : Type) where
  default : K
  insert : K → ConfigKey → String → Option K

def zZidLength : Nat := 16

def insertNonempty (z : ZenohConfig K) (config : K) (key : ConfigKey) (value : String) : Option K :=
  if 0 < value.length then z.insert config key value else some config

/-- None is RMW_RET_ERROR. -/
def rmwZenohPicoSetCommonConfig (build : BuildOptions) (z : ZenohConfig K)
    (params : ZenohPicoTransportParams) (config : K) : Option K := do
  let config ←
    if build.zid ≠ "-1" ∧ build.zid.length ≤ zZidLength then z.insert config .sessionZid build.zid
    else some config
  let config ← insertNonempty z config .mode params.mode
  match build.transport with
  | .unicast =>
      let config ← insertNonempty z config .connect params.connectAddr
      insertNonempty z config .listen params.listenAddr
  | .multicast => insertNonempty z config .listen params.mcastAddr
  | .serial => some config

def rmwZenohPicoSetUnicastConfig (build : BuildOptions) (z : ZenohConfig K)
    (params : ZenohPicoTransportParams) (config : K) : Option K :=
  rmwZenohPicoSetCommonConfig build z params config

def rmwZenohPicoSetMcastConfig (build : BuildOptions) (z : ZenohConfig K)
    (params : ZenohPicoTransportParams) (config : K) : Option K :=
  rmwZenohPicoSetCommonConfig build z params config

def rmwZenohPicoSetSerialConfig : Option K := none

def transportConfig (build : BuildOptions) (z : ZenohConfig K) (params : ZenohPicoTransportParams) :
    Option K :=
  match build.transport with
  | .unicast => rmwZenohPicoSetUnicastConfig build z params z.default
  | .multicast => rmwZenohPicoSetMcastConfig build z params z.default
  | .serial => rmwZenohPicoSetSerialConfig

structure RmwInitOptions where
  instanceId : Nat
  implementationIdentifier : Option String
  domainId : Nat
  enclave : Option String
  impl : Option ZenohPicoTransportParams

structure RmwContext where
  instanceId : Nat
  implementationIdentifier : Option String
  actualDomainId : Nat
  impl : Bool

def rmwGetZeroInitializedContext : RmwContext := ⟨0, none, 0, false⟩

def rmwDefaultDomainId : Nat := 2 ^ 64 - 1

inductive GuardConditionData
  | null
  | function
  deriving DecidableEq

structure RmwGuardCondition where
  implementationIdentifier : Option String
  data : GuardConditionData

structure ZenohPicoSession (K : Type) where
  ref : Int
  enclave : Option String
  config : Option K
  session : Bool
  enableSession : Bool
  graphGuardCondition : RmwGuardCondition

def zeroSession : ZenohPicoSession K := ⟨0, none, none, false, false, ⟨none, .null⟩⟩

def memset (_ : ZenohPicoSession K) : ZenohPicoSession K := zeroSession

def zenohPicoSessionGenerate (data : ZenohPicoSession K) : ZenohPicoSession K :=
  let data := memset data
  { data with ref := data.ref + 1 }

def zenohPicoSessionRefClone (data : ZenohPicoSession K) : ZenohPicoSession K :=
  { data with ref := data.ref + 1 }

/-- The object is static, so generating it cannot fail. It is zeroed again
after it was counted. The data of the guard condition is the function, not what
the function returns. -/
def zenohPicoGenerateSession (session : ZenohPicoSession K) (config : K) (enclave : Option String) :
    ZenohPicoSession K :=
  if 0 < session.ref then zenohPicoSessionRefClone session
  else
    let session := memset (zenohPicoSessionGenerate session)
    let session := { session with config := some config }
    let session := match enclave with
      | some enclave => { session with enclave := some enclave }
      | none => session
    let session := { session with
      graphGuardCondition := ⟨some rmwGetImplementationIdentifier, .function⟩
      enableSession := false }
    zenohPicoSessionRefClone session

/-- What the teardown branch does outside of the session: whether it stops the
tasks, and what it destroys as guard condition data. -/
structure Teardown where
  stopped : Bool
  destroyed : GuardConditionData
  deriving DecidableEq

/-- Whether zenoh_pico_destroy_guard_condition_data finds a mutex to drop and
memory to free. -/
def isObject : GuardConditionData → Bool
  | .null => false
  | .function => false

/-- None is a teardown that destroys what is no object, which is undefined. -/
def zenohPicoDestroySession (isObject : GuardConditionData → Bool) (session : ZenohPicoSession K) :
    Option (ZenohPicoSession K × Option Teardown) :=
  let session := { session with ref := session.ref - 1 }
  if session.ref = 0 then
    if isObject session.graphGuardCondition.data then
      some ({ session with config := none, enclave := none, session := false },
        some ⟨session.enableSession, session.graphGuardCondition.data⟩)
    else none
  else some (session, none)

structure ConnectOutcome where
  opened : Bool
  readTask : Bool
  leaseTask : Bool

/-- The configuration is moved into the call that opens the session. -/
def sessionConnect (session : ZenohPicoSession K) (outcome : ConnectOutcome) :
    RmwRet × ZenohPicoSession K :=
  if session.enableSession then (.ok, session)
  else
    let session := { session with config := none }
    if !outcome.opened then (.error, session)
    else if !(outcome.readTask && outcome.leaseTask) then
      (.error, { session with config := none, session := false })
    else (.ok, { session with session := true, enableSession := true })

/-- The session of the process, the contexts of the caller, and the runs of the
teardown branch so far. -/
structure State (C K : Type) where
  session : ZenohPicoSession K
  contexts : C → RmwContext
  teardowns : List Teardown

def initial (contexts : C → RmwContext) : State C K :=
  { session := zeroSession
    contexts := fun c => { contexts c with impl := false }
    teardowns := [] }

inductive Label (C : Type)
  | init (options : Option RmwInitOptions) (context : Option C)
  | shutdown (context : Option C)
  | contextFini (context : C)
  | connect (context : C) (outcome : ConnectOutcome)

section Functions

variable [DecidableEq C]

def State.setContext (s : State C K) (c : C) (context : RmwContext) : State C K :=
  { s with contexts := Function.update s.contexts c context }

def initArguments (options : RmwInitOptions) (context : RmwContext) :
    Except RmwRet (ZenohPicoTransportParams × String) :=
  match options.impl with
  | none => .error .invalidArgument
  | some params =>
      if options.implementationIdentifier.isNone then .error .invalidArgument
      else if !checkTypeIdentifiersMatch options.implementationIdentifier then
        .error .incorrectRmwImplementation
      else match options.enclave with
        | none => .error .invalidArgument
        | some enclave =>
            if context.implementationIdentifier.isSome then .error .invalidArgument
            else .ok (params, enclave)

def initContext (options : RmwInitOptions) (context : RmwContext) : RmwContext :=
  { context with
    instanceId := options.instanceId
    implementationIdentifier := some rmwGetImplementationIdentifier
    actualDomainId := if options.domainId ≠ rmwDefaultDomainId then options.domainId else 0 }

/-- A context whose configuration is rejected keeps its new identifier. -/
def rmwInit (build : BuildOptions) (z : ZenohConfig K) (s : State C K) (options : RmwInitOptions) (c : C) :
    RmwRet × State C K :=
  match initArguments options (s.contexts c) with
  | .error ret => (ret, s)
  | .ok (params, enclave) =>
      let context := initContext options (s.contexts c)
      match transportConfig build z params with
      | none => (.error, s.setContext c context)
      | some config =>
          let session := zenohPicoGenerateSession s.session config (some enclave)
          (.ok, { s with session := session }.setContext c { context with impl := true })

def rmwContextFini (isObject : GuardConditionData → Bool) (s : State C K) (c : C) :
    Option (RmwRet × State C K) :=
  let context := s.contexts c
  if context.impl then
    (zenohPicoDestroySession isObject s.session).map fun r =>
      (.ok, { s with session := r.1, teardowns := s.teardowns ++ r.2.toList }.setContext c
        { context with impl := false })
  else some (.ok, s)

def rmwShutdown (isObject : GuardConditionData → Bool) (s : State C K) (c : C) : Option (RmwRet × State C K) :=
  if checkTypeIdentifiersMatch (s.contexts c).implementationIdentifier then
    (rmwContextFini isObject s c).map fun r =>
      if r.1 = .ok then (r.1, r.2.setContext c rmwGetZeroInitializedContext) else r
  else some (.incorrectRmwImplementation, s)

/-- Connecting is a part of rmw_create_node, which looks for the session
before. -/
def call (isObject : GuardConditionData → Bool) (build : BuildOptions) (z : ZenohConfig K) (s : State C K) :
    Label C → Option (RmwRet × State C K)
  | .init (some options) (some c) => some (rmwInit build z s options c)
  | .init _ _ => some (.invalidArgument, s)
  | .shutdown (some c) => rmwShutdown isObject s c
  | .shutdown none => some (.invalidArgument, s)
  | .contextFini c => rmwContextFini isObject s c
  | .connect c outcome =>
      if (s.contexts c).impl then
        let (ret, session) := sessionConnect s.session outcome
        some (ret, { s with session := session })
      else none

def machine (build : BuildOptions) (z : ZenohConfig K) : Machine (State C K) (Label C) :=
  fun s l => (call isObject build z s l).map Prod.snd

end Functions

def Holds (s : State C K) (c : C) : Prop := (s.contexts c).impl = true

def Counted (s : State C K) : Prop :=
  ∃ holders : Finset C, (∀ c, c ∈ holders ↔ Holds s c) ∧ s.session.ref = holders.card

def Last (s s' : State C K) : Prop := (∃ c, Holds s c) ∧ ¬∃ c, Holds s' c

structure Lifetime (build : BuildOptions) (z : ZenohConfig K) (s : State C K) (l : Label C) (ret : RmwRet)
    (s' : State C K) : Prop where
  holders : ∀ c, Holds s' c ↔ (∃ options, l = .init (some options) (some c) ∧ ret = .ok) ∨
    Holds s c ∧ l ≠ .shutdown (some c) ∧ l ≠ .contextFini c
  teardown : Last s s' → ∃ teardown, s'.teardowns = s.teardowns ++ [teardown]
  kept : ¬Last s s' → s'.teardowns = s.teardowns
  first : ∀ options c, l = .init (some options) (some c) → ret = .ok → (¬∃ c, Holds s c) →
    s'.session.ref = 1 ∧ s'.session.enableSession = false ∧ s'.session.enclave = options.enclave ∧
      ∃ params config, options.impl = some params ∧ transportConfig build z params = some config ∧
        s'.session.config = some config

/-- These contexts have the session, each by a call of its own that left its
identifier. -/
structure Counts (s : State C K) (holders : Finset C) : Prop where
  mem : ∀ c, c ∈ holders ↔ Holds s c
  ref : s.session.ref = holders.card
  identified : ∀ c, Holds s c →
    (s.contexts c).implementationIdentifier = some rmwGetImplementationIdentifier

theorem Counts.empty_iff {s : State C K} {holders : Finset C} (h : Counts s holders) :
    holders = ∅ ↔ ¬∃ c, Holds s c := by
  simp only [Finset.eq_empty_iff_forall_notMem, h.mem, not_exists]

theorem generate_held {session : ZenohPicoSession K} (h : 0 < session.ref) (config : K)
    (enclave : Option String) :
    zenohPicoGenerateSession session config enclave = { session with ref := session.ref + 1 } := by
  simp [zenohPicoGenerateSession, zenohPicoSessionRefClone, h]

theorem generate_first {session : ZenohPicoSession K} (h : session.ref = 0) (config : K)
    (enclave : String) :
    zenohPicoGenerateSession session config (some enclave) =
      ⟨1, some enclave, some config, false, false, ⟨some rmwGetImplementationIdentifier, .function⟩⟩ := by
  simp [zenohPicoGenerateSession, zenohPicoSessionRefClone, memset, zeroSession, h]

theorem generate_ref {session : ZenohPicoSession K} (h : 0 ≤ session.ref) (config : K) (enclave : String) :
    (zenohPicoGenerateSession session config (some enclave)).ref = session.ref + 1 := by
  by_cases hpos : 0 < session.ref
  · rw [generate_held hpos]
  · have hzero : session.ref = 0 := by omega
    rw [generate_first hzero, hzero]
    rfl

theorem destroySession_cases {isObject : GuardConditionData → Bool} {session : ZenohPicoSession K}
    {r : ZenohPicoSession K × Option Teardown} (h : zenohPicoDestroySession isObject session = some r) :
    r.1.ref = session.ref - 1 ∧ r.1.graphGuardCondition = session.graphGuardCondition ∧
      (r.2.isSome ↔ session.ref = 1) := by
  simp only [zenohPicoDestroySession] at h
  split at h
  · split at h
    · cases h
      refine ⟨rfl, rfl, ?_⟩
      simp
      omega
    · cases h
  · cases h
    refine ⟨rfl, rfl, ?_⟩
    simp
    omega

theorem destroySession_shared {session : ZenohPicoSession K} (h : session.ref ≠ 1)
    (isObject : GuardConditionData → Bool) :
    zenohPicoDestroySession isObject session = some ({ session with ref := session.ref - 1 }, none) := by
  have hne : session.ref - 1 ≠ 0 := by omega
  simp [zenohPicoDestroySession, hne]

theorem destroySession_last {session : ZenohPicoSession K} (h : session.ref = 1) :
    zenohPicoDestroySession isObject session = none := by
  cases hdata : session.graphGuardCondition.data <;> simp [zenohPicoDestroySession, isObject, h, hdata]

theorem initArguments_cases (options : RmwInitOptions) (context : RmwContext) :
    (∃ ret, initArguments options context = .error ret ∧ ret ≠ .ok) ∨
      ∃ params enclave, initArguments options context = .ok (params, enclave) ∧ options.impl = some params ∧
        options.enclave = some enclave ∧ context.implementationIdentifier = none := by
  unfold initArguments
  cases himpl : options.impl with
  | none => exact .inl ⟨_, rfl, by decide⟩
  | some params =>
      dsimp only
      split
      · exact .inl ⟨_, rfl, by decide⟩
      · split
        · exact .inl ⟨_, rfl, by decide⟩
        · cases henclave : options.enclave with
          | none => exact .inl ⟨_, rfl, by decide⟩
          | some enclave =>
              cases hidentifier : context.implementationIdentifier with
              | none => exact .inr ⟨params, enclave, rfl, rfl, rfl, rfl⟩
              | some identifier => exact .inl ⟨_, rfl, by decide⟩

section Steps

variable {build : BuildOptions} {z : ZenohConfig K}

theorem Lifetime.idle {s s' : State C K} {l : Label C} {ret : RmwRet} (hholds : ∀ c, Holds s' c ↔ Holds s c)
    (hinit : ∀ options c, l = .init (some options) (some c) → ret ≠ .ok)
    (hheld : ∀ c, Holds s c → l ≠ .shutdown (some c) ∧ l ≠ .contextFini c)
    (hteardowns : s'.teardowns = s.teardowns) : Lifetime build z s l ret s' where
  holders c := by
    rw [hholds]
    constructor
    · intro hc
      exact .inr ⟨hc, hheld c hc⟩
    · rintro (⟨options, hl, hret⟩ | ⟨hc, -⟩)
      · exact absurd hret (hinit options c hl)
      · exact hc
  teardown hlast := by
    obtain ⟨⟨c, hc⟩, hnone⟩ := hlast
    exact absurd ⟨c, (hholds c).mpr hc⟩ hnone
  kept _ := hteardowns
  first options c hl hret := absurd hret (hinit options c hl)

theorem Lifetime.bystander {s s' : State C K} {l : Label C} {ret : RmwRet} (hcontexts : s'.contexts = s.contexts)
    (hteardowns : s'.teardowns = s.teardowns) (hinit : ∀ options c, l ≠ .init (some options) (some c))
    (hrelease : ∀ c, l ≠ .shutdown (some c) ∧ l ≠ .contextFini c) : Lifetime build z s l ret s' := by
  refine .idle ?_ ?_ ?_ hteardowns
  · intro c
    rw [Holds, Holds, hcontexts]
  · intro options c hl
    exact absurd hl (hinit options c)
  · intro c _
    exact hrelease c

variable [DecidableEq C]

omit [DecidableEq C] in
theorem idle_init {s s' : State C K} {options : RmwInitOptions} {c : C} {ret : RmwRet} (hret : ret ≠ .ok)
    (hholds : ∀ c, Holds s' c ↔ Holds s c) (hteardowns : s'.teardowns = s.teardowns) :
    Lifetime build z s (.init (some options) (some c)) ret s' :=
  .idle hholds (fun _ _ _ => hret) (fun _ _ => ⟨by simp, by simp⟩) hteardowns

theorem holds_setContext {s : State C K} {c d : C} {context : RmwContext} :
    Holds (s.setContext c context) d ↔ if d = c then context.impl = true else Holds s d := by
  unfold Holds State.setContext
  split
  · rename_i h
    subst h
    simp
  · rename_i h
    simp [h]

theorem Counts.setContext {s : State C K} {holders : Finset C} (h : Counts s holders) {c : C}
    {context : RmwContext} (himpl : context.impl = (s.contexts c).impl)
    (hidentifier : context.impl = true →
      context.implementationIdentifier = some rmwGetImplementationIdentifier) :
    Counts (s.setContext c context) holders := by
  refine ⟨?_, h.ref, ?_⟩
  · intro d
    rw [h.mem, holds_setContext]
    split
    · rename_i hd
      subst hd
      rw [himpl]
      rfl
    · rfl
  · intro d hd
    rw [holds_setContext] at hd
    split at hd
    · rename_i heq
      subst heq
      simpa [State.setContext] using hidentifier hd
    · rename_i hne
      simpa [State.setContext, hne] using h.identified d hd

theorem Counts.acquire {s : State C K} {holders : Finset C} (h : Counts s holders) {c : C} (hfree : ¬Holds s c)
    {context : RmwContext} (himpl : context.impl = true)
    (hidentifier : context.implementationIdentifier = some rmwGetImplementationIdentifier)
    {session : ZenohPicoSession K} (href : session.ref = s.session.ref + 1) :
    Counts ({ s with session := session }.setContext c context) (insert c holders) := by
  refine ⟨?_, ?_, ?_⟩
  · intro d
    rw [Finset.mem_insert, h.mem, holds_setContext]
    split
    · rename_i hd
      simp [hd, himpl]
    · rename_i hd
      simp [hd, Holds]
  · rw [Finset.card_insert_of_notMem (mt (h.mem c).mp hfree)]
    change session.ref = _
    rw [href, h.ref]
    rfl
  · intro d hd
    rw [holds_setContext] at hd
    split at hd
    · rename_i heq
      subst heq
      simpa [State.setContext] using hidentifier
    · rename_i hne
      simpa [State.setContext, hne] using h.identified d hd

theorem Counts.release {s : State C K} {holders : Finset C} (h : Counts s holders) {c : C} (hc : Holds s c)
    {context : RmwContext} (himpl : context.impl = false) {session : ZenohPicoSession K}
    (href : session.ref = s.session.ref - 1) (teardowns : List Teardown) :
    Counts ({ s with session := session, teardowns := teardowns }.setContext c context)
      (holders.erase c) := by
  have hmem := (h.mem c).mpr hc
  refine ⟨?_, ?_, ?_⟩
  · intro d
    rw [Finset.mem_erase, h.mem, holds_setContext]
    split
    · rename_i hd
      simp [hd, himpl]
    · rename_i hd
      simp [hd, Holds]
  · have hcard := Finset.card_erase_add_one hmem
    change session.ref = _
    rw [href, h.ref]
    omega
  · intro d hd
    rw [holds_setContext] at hd
    split at hd
    · rw [himpl] at hd
      cases hd
    · rename_i hne
      simpa [State.setContext, hne] using h.identified d hd

variable (build z) in
theorem init_lifetime {s : State C K} {holders : Finset C} (h : Counts s holders)
    (options : RmwInitOptions) (c : C) :
    (∃ holders', Counts (rmwInit build z s options c).2 holders') ∧
      Lifetime build z s (.init (some options) (some c)) (rmwInit build z s options c).1
        (rmwInit build z s options c).2 := by
  rcases initArguments_cases options (s.contexts c) with
    ⟨ret, hargs, hret⟩ | ⟨params, enclave, hargs, himpl, henclave, hcontext⟩
  · simp only [rmwInit, hargs]
    exact ⟨⟨holders, h⟩, idle_init hret (fun _ => Iff.rfl) rfl⟩
  · have hfree : ¬Holds s c := by
      intro hc
      rw [h.identified c hc] at hcontext
      cases hcontext
    cases hconfig : transportConfig build z params with
    | none =>
        simp only [rmwInit, hargs, hconfig]
        have hsame : Counts (s.setContext c (initContext options (s.contexts c))) holders :=
          h.setContext rfl fun _ => rfl
        refine ⟨⟨holders, hsame⟩, idle_init (by decide) (fun d => ?_) rfl⟩
        rw [← hsame.mem, h.mem]
    | some config =>
        simp only [rmwInit, hargs, hconfig]
        have hnonneg : 0 ≤ s.session.ref := by
          rw [h.ref]
          omega
        have href := generate_ref hnonneg config enclave
        refine ⟨⟨insert c holders, h.acquire hfree rfl rfl href⟩, ?_, ?_, fun _ => rfl, ?_⟩
        · intro d
          rw [holds_setContext]
          split
          · rename_i hd
            simp [hd]
          · rename_i hd
            simp [Holds, Ne.symm hd]
        · intro hlast
          exact absurd ⟨c, holds_setContext.mpr (by simp)⟩ hlast.2
        · intro options' d hl _ hnone
          cases hl
          have hzero : s.session.ref = 0 := by
            rw [h.ref, (h.empty_iff).mpr hnone]
            rfl
          simp only [State.setContext]
          rw [generate_first hzero]
          exact ⟨rfl, rfl, henclave.symm, params, config, himpl, hconfig, rfl⟩

def State.giveBack (s : State C K) (r : ZenohPicoSession K × Option Teardown) (c : C) (context : RmwContext) :
    State C K :=
  { s with session := r.1, teardowns := s.teardowns ++ r.2.toList }.setContext c context

omit [DecidableEq C] in
theorem Counts.ref_eq_one {s : State C K} {holders : Finset C} (h : Counts s holders) {c : C} (hc : Holds s c) :
    s.session.ref = 1 ↔ ∀ d, Holds s d → d = c := by
  have hmem := (h.mem c).mpr hc
  rw [h.ref]
  constructor
  · intro hone d hd
    obtain ⟨e, rfl⟩ := Finset.card_eq_one.mp (by exact_mod_cast hone)
    rw [Finset.mem_singleton.mp ((h.mem d).mpr hd), Finset.mem_singleton.mp hmem]
  · intro honly
    have hsingle : holders = {c} :=
      Finset.eq_singleton_iff_unique_mem.mpr ⟨hmem, fun d hd => honly d ((h.mem d).mp hd)⟩
    rw [hsingle]
    rfl

theorem release_lifetime {s : State C K} {holders : Finset C} (h : Counts s holders) {c : C}
    (hc : Holds s c) {context : RmwContext} (himpl : context.impl = false)
    {r : ZenohPicoSession K × Option Teardown} {isObject : GuardConditionData → Bool}
    (hr : zenohPicoDestroySession isObject s.session = some r) {l : Label C}
    (hl : l = .shutdown (some c) ∨ l = .contextFini c) :
    (∃ holders', Counts (s.giveBack r c context) holders') ∧
      Lifetime build z s l .ok (s.giveBack r c context) := by
  obtain ⟨href, -, hteardown⟩ := destroySession_cases hr
  have hcounts : Counts (s.giveBack r c context) (holders.erase c) := h.release hc himpl href _
  generalize hs' : s.giveBack r c context = s' at hcounts ⊢
  have hteardowns : s'.teardowns = s.teardowns ++ r.2.toList := by
    rw [← hs']
    rfl
  have hlast : Last s s' ↔ s.session.ref = 1 := by
    rw [h.ref_eq_one hc, Last]
    constructor
    · rintro ⟨-, hnone⟩ d hd
      by_contra hne
      exact hnone ⟨d, (hcounts.mem d).mp (Finset.mem_erase.mpr ⟨hne, (h.mem d).mpr hd⟩)⟩
    · intro honly
      refine ⟨⟨c, hc⟩, ?_⟩
      rintro ⟨d, hd⟩
      obtain ⟨hne, hold⟩ := Finset.mem_erase.mp ((hcounts.mem d).mpr hd)
      exact hne (honly d ((h.mem d).mp hold))
  refine ⟨⟨holders.erase c, hcounts⟩, ?_, ?_, ?_, ?_⟩
  · intro d
    rw [← hcounts.mem, Finset.mem_erase, h.mem]
    rcases hl with rfl | rfl <;> simp [and_comm, eq_comm]
  · intro hl
    obtain ⟨teardown, htorn⟩ := Option.isSome_iff_exists.mp (hteardown.mpr (hlast.mp hl))
    exact ⟨teardown, by rw [hteardowns, htorn]; rfl⟩
  · intro hl
    have hnone : r.2 = none := by
      rw [← Option.not_isSome_iff_eq_none, hteardown]
      exact mt hlast.mpr hl
    rw [hteardowns, hnone]
    exact List.append_nil _
  · intro options d heq
    rcases hl with rfl | rfl <;> cases heq

omit [DecidableEq C] in
theorem not_released {s : State C K} {c : C} (hc : ¬Holds s c) {l : Label C}
    (hl : l = .shutdown (some c) ∨ l = .contextFini c) (d : C) (hd : Holds s d) :
    l ≠ .shutdown (some d) ∧ l ≠ .contextFini d := by
  have hne : c ≠ d := by
    rintro rfl
    exact hc hd
  rcases hl with rfl | rfl <;> simp [hne]

theorem contextFini_cases {isObject : GuardConditionData → Bool} {s s' : State C K} {c : C} {ret : RmwRet}
    (h : rmwContextFini isObject s c = some (ret, s')) :
    ret = .ok ∧ ((∃ r, Holds s c ∧ zenohPicoDestroySession isObject s.session = some r ∧
      s' = s.giveBack r c { s.contexts c with impl := false }) ∨ ¬Holds s c ∧ s' = s) := by
  simp only [rmwContextFini] at h
  split at h
  · rename_i hc
    obtain ⟨r, hr, he⟩ := Option.map_eq_some_iff.mp h
    cases he
    exact ⟨rfl, .inl ⟨r, hc, hr, rfl⟩⟩
  · rename_i hc
    cases h
    exact ⟨rfl, .inr ⟨hc, rfl⟩⟩

theorem setContext_setContext (s : State C K) (c : C) (context context' : RmwContext) :
    (s.setContext c context).setContext c context' = s.setContext c context' := by
  simp [State.setContext]

theorem shutdown_cases {isObject : GuardConditionData → Bool} {s s' : State C K} {c : C} {ret : RmwRet}
    (h : rmwShutdown isObject s c = some (ret, s')) :
    (ret = .ok ∧ ∃ r, Holds s c ∧ zenohPicoDestroySession isObject s.session = some r ∧
      s' = s.giveBack r c rmwGetZeroInitializedContext) ∨
    (ret = .ok ∧ ¬Holds s c ∧ s' = s.setContext c rmwGetZeroInitializedContext) ∨
    (ret ≠ .ok ∧ checkTypeIdentifiersMatch (s.contexts c).implementationIdentifier = false ∧ s' = s) := by
  simp only [rmwShutdown] at h
  split at h
  · obtain ⟨⟨ret', t⟩, hfini, he⟩ := Option.map_eq_some_iff.mp h
    obtain ⟨rfl, ⟨r, hc, hr, rfl⟩ | ⟨hc, rfl⟩⟩ := contextFini_cases hfini
    · simp only [State.giveBack, if_true, setContext_setContext] at he
      cases he
      exact .inl ⟨rfl, r, hc, hr, rfl⟩
    · cases he
      exact .inr (.inl ⟨rfl, hc, rfl⟩)
  · rename_i hmatch
    cases h
    exact .inr (.inr ⟨by decide, by simpa using hmatch, rfl⟩)

variable (build z) in
theorem contextFini_lifetime {isObject : GuardConditionData → Bool} {s s' : State C K} {holders : Finset C}
    (h : Counts s holders) {c : C} {ret : RmwRet} (hcall : rmwContextFini isObject s c = some (ret, s')) :
    (∃ holders', Counts s' holders') ∧ Lifetime build z s (.contextFini c) ret s' := by
  obtain ⟨rfl, ⟨r, hc, hr, rfl⟩ | ⟨hc, rfl⟩⟩ := contextFini_cases hcall
  · exact release_lifetime h hc rfl hr (.inr rfl)
  · exact ⟨⟨holders, h⟩, .idle (fun _ => Iff.rfl) (fun _ _ hl => by cases hl) (not_released hc (.inr rfl)) rfl⟩

variable (build z) in
theorem shutdown_lifetime {isObject : GuardConditionData → Bool} {s s' : State C K} {holders : Finset C}
    (h : Counts s holders) {c : C} {ret : RmwRet} (hcall : rmwShutdown isObject s c = some (ret, s')) :
    (∃ holders', Counts s' holders') ∧ Lifetime build z s (.shutdown (some c)) ret s' := by
  rcases shutdown_cases hcall with ⟨rfl, r, hc, hr, rfl⟩ | ⟨rfl, hc, rfl⟩ | ⟨-, hmatch, hs'⟩
  · exact release_lifetime h hc rfl hr (.inl rfl)
  · have himpl : (s.contexts c).impl = false := by simpa [Holds] using hc
    have hsame : Counts (s.setContext c rmwGetZeroInitializedContext) holders :=
      h.setContext himpl.symm fun himpl => (by cases himpl)
    refine ⟨⟨holders, hsame⟩, .idle (fun d => ?_) (fun _ _ hl => by cases hl) (not_released hc (.inl rfl)) rfl⟩
    rw [← hsame.mem, h.mem]
  · subst s'
    have hc : ¬Holds s c := by
      intro hc
      rw [h.identified c hc] at hmatch
      simp [checkTypeIdentifiersMatch] at hmatch
    exact ⟨⟨holders, h⟩, .idle (fun _ => Iff.rfl) (fun _ _ hl => by cases hl) (not_released hc (.inl rfl)) rfl⟩

theorem connect_ref (session : ZenohPicoSession K) (outcome : ConnectOutcome) :
    (sessionConnect session outcome).2.ref = session.ref := by
  simp only [sessionConnect]
  split
  · rfl
  · split
    · rfl
    · split <;> rfl

inductive Called (isObject : GuardConditionData → Bool) (build : BuildOptions) (z : ZenohConfig K)
    (s : State C K) : Label C → RmwRet → State C K → Prop
  | refused (l) (hinit : ∀ options c, l ≠ .init (some options) (some c))
      (hrelease : ∀ c, l ≠ .shutdown (some c) ∧ l ≠ .contextFini c) :
      Called isObject build z s l .invalidArgument s
  | init (options c) : Called isObject build z s (.init (some options) (some c)) (rmwInit build z s options c).1
      (rmwInit build z s options c).2
  | shutdown (c ret s') (h : rmwShutdown isObject s c = some (ret, s')) :
      Called isObject build z s (.shutdown (some c)) ret s'
  | contextFini (c ret s') (h : rmwContextFini isObject s c = some (ret, s')) :
      Called isObject build z s (.contextFini c) ret s'
  | connect (c outcome) (hc : Holds s c) : Called isObject build z s (.connect c outcome)
      (sessionConnect s.session outcome).1 { s with session := (sessionConnect s.session outcome).2 }

theorem call_cases {isObject : GuardConditionData → Bool} {s s' : State C K} {l : Label C} {ret : RmwRet}
    (hcall : call isObject build z s l = some (ret, s')) : Called isObject build z s l ret s' := by
  cases l with
  | init options c =>
      cases options with
      | none =>
          cases hcall
          exact .refused _ (by simp) (by simp)
      | some options =>
          cases c with
          | none =>
              cases hcall
              exact .refused _ (by simp) (by simp)
          | some c =>
              have hr : rmwInit build z s options c = (ret, s') := Option.some.inj hcall
              have hcalled : Called isObject build z s (.init (some options) (some c)) _ _ := .init options c
              rwa [hr] at hcalled
  | shutdown c =>
      cases c with
      | none =>
          cases hcall
          exact .refused _ (by simp) (by simp)
      | some c => exact .shutdown c ret s' hcall
  | contextFini c => exact .contextFini c ret s' hcall
  | connect c outcome =>
      simp only [call, Option.ite_none_right_eq_some, Option.some.injEq, Prod.mk.injEq] at hcall
      obtain ⟨hc, rfl, rfl⟩ := hcall
      exact .connect c outcome hc

theorem call_lifetime {isObject : GuardConditionData → Bool} {s s' : State C K} {l : Label C} {ret : RmwRet}
    (h : ∃ holders, Counts s holders) (hcall : call isObject build z s l = some (ret, s')) :
    (∃ holders', Counts s' holders') ∧ Lifetime build z s l ret s' := by
  obtain ⟨holders, h⟩ := h
  cases call_cases hcall with
  | refused l hinit hrelease => exact ⟨⟨holders, h⟩, .bystander rfl rfl hinit hrelease⟩
  | init options c => exact init_lifetime build z h options c
  | shutdown c ret s' hcall => exact shutdown_lifetime build z h hcall
  | contextFini c ret s' hcall => exact contextFini_lifetime build z h hcall
  | connect c outcome hc =>
      refine ⟨⟨holders, h.mem, ?_, h.identified⟩, .bystander rfl rfl (by simp) (by simp)⟩
      exact (connect_ref s.session outcome).trans h.ref

omit [DecidableEq C] in
theorem Counts.counted {s : State C K} {holders : Finset C} (h : Counts s holders) : Counted s :=
  ⟨holders, h.mem, h.ref⟩

omit [DecidableEq C] in
theorem initial_counts (contexts : C → RmwContext) : Counts (initial contexts : State C K) ∅ where
  mem c := by simp [Holds, initial]
  ref := rfl
  identified c hc := by cases hc

/-- The call gives back the session of the only context that has it. -/
def ReleasesLast (s : State C K) (l : Label C) : Prop :=
  ∃ c, (l = .shutdown (some c) ∨ l = .contextFini c) ∧ Holds s c ∧ ∀ d, Holds s d → d = c

theorem last_release_undefined {s : State C K} {holders : Finset C} (h : Counts s holders) {l : Label C}
    (hl : ReleasesLast s l) : call isObject build z s l = none := by
  obtain ⟨c, hl, hc, honly⟩ := hl
  have hlast := destroySession_last ((h.ref_eq_one hc).mpr honly)
  have hfini : rmwContextFini isObject s c = none := by
    rw [Holds] at hc
    simp [rmwContextFini, hc, hlast]
  rcases hl with rfl | rfl
  · simp [call, rmwShutdown, h.identified c hc, checkTypeIdentifiersMatch, hfini]
  · exact hfini

/-- A node is only created with a context that has the session. -/
def Possible (s : State C K) : Label C → Prop
  | .connect c _ => Holds s c
  | _ => True

theorem call_returns {s : State C K} {holders : Finset C} (h : Counts s holders) {l : Label C}
    (hp : Possible s l) (hl : ¬ReleasesLast s l) : ∃ ret s', call isObject build z s l = some (ret, s') := by
  have hfini : ∀ c, (l = .shutdown (some c) ∨ l = .contextFini c) →
      ∃ ret s', rmwContextFini isObject s c = some (ret, s') := by
    intro c hlc
    cases hc : (s.contexts c).impl with
    | true =>
        have hshared : s.session.ref ≠ 1 := by
          intro hone
          exact hl ⟨c, hlc, hc, (h.ref_eq_one hc).mp hone⟩
        simp [rmwContextFini, hc, destroySession_shared hshared]
    | false => simp [rmwContextFini, hc]
  cases l with
  | init options c =>
      cases options <;> cases c <;> exact ⟨_, _, rfl⟩
  | shutdown c =>
      cases c with
      | none => exact ⟨_, _, rfl⟩
      | some c =>
          obtain ⟨ret, s', hreturns⟩ := hfini c (.inl rfl)
          simp only [call, rmwShutdown, hreturns]
          split
          · exact ⟨_, _, rfl⟩
          · exact ⟨_, _, rfl⟩
  | contextFini c => exact hfini c (.inr rfl)
  | connect c outcome =>
      rw [Possible, Holds] at hp
      simp [call, hp]

/-- The count is right, and every call returns and does to the session what it
is to do. -/
structure SharedLifetime (build : BuildOptions) (z : ZenohConfig K) (s : State C K) (ls : List (Label C)) :
    Prop where
  counted : Always (machine build z) Counted s ls
  lifetime : Every (machine build z) (fun s l => Possible s l →
    ∃ ret s', call isObject build z s l = some (ret, s') ∧ Lifetime build z s l ret s') s ls

theorem machine_counts {s s' : State C K} {l : Label C} (h : ∃ holders, Counts s holders)
    (hs : machine build z s l = some s') : ∃ holders, Counts s' holders := by
  obtain ⟨⟨ret, _⟩, hcall, rfl⟩ := Option.map_eq_some_iff.mp hs
  exact (call_lifetime h hcall).1

end Steps

/-- The session is generated for the first context that gets it and counted
for each of them, and as long as one of them keeps it all calls return. The
call that gives it back for the last one does not. -/
theorem session_lifetime_iff [DecidableEq C] (build : BuildOptions) (z : ZenohConfig K)
    (contexts : C → RmwContext) (ls : List (Label C)) :
    SharedLifetime build z (initial contexts) ls ↔
      Every (machine build z) (fun s l => ¬ReleasesLast s l) (initial contexts) ls := by
  have hinitial : ∃ holders, Counts (initial contexts : State C K) holders := ⟨∅, initial_counts contexts⟩
  constructor
  · intro h
    refine every_of_invariant (fun _ _ _ h _ hs => machine_counts h hs) ?_ hinitial h.lifetime
    rintro s l ⟨holders, h⟩ hserved hl
    have hpossible : Possible s l := by
      obtain ⟨c, rfl | rfl, -⟩ := hl <;> trivial
    obtain ⟨ret, s', hcall, -⟩ := hserved hpossible
    rw [last_release_undefined h hl] at hcall
    cases hcall
  · intro h
    constructor
    · refine always_mono ?_ (always_of_every (fun _ _ _ h _ hs => machine_counts h hs) hinitial h)
      rintro s ⟨holders, h⟩
      exact h.counted
    · refine every_of_invariant (fun _ _ _ h _ hs => machine_counts h hs) ?_ hinitial h
      rintro s l ⟨holders, h⟩ hl hpossible
      have hreturns : ∃ ret s', call isObject build z s l = some (ret, s') := call_returns h hpossible hl
      obtain ⟨ret, s', hcall⟩ := hreturns
      exact ⟨ret, s', hcall, (call_lifetime ⟨holders, h⟩ hcall).2⟩

section Example

def zeroContexts : Unit → RmwContext := fun _ => rmwGetZeroInitializedContext

def plainBuild : BuildOptions := ⟨.unicast, "-1"⟩

def acceptingConfig : ZenohConfig Unit := ⟨(), fun _ _ _ => some ()⟩

def plainOptions : RmwInitOptions :=
  ⟨0, some rmwGetImplementationIdentifier, 0, some "", some ⟨"", "", "", ""⟩⟩

theorem plain_started : ∃ s, machine plainBuild acceptingConfig (initial zeroContexts)
    (.init (some plainOptions) (some ())) = some s ∧ Holds s () := by
  have hargs : initArguments plainOptions ((initial zeroContexts : State Unit Unit).contexts ()) =
      .ok (⟨"", "", "", ""⟩, "") := by
    simp [initArguments, plainOptions, checkTypeIdentifiersMatch, initial, zeroContexts,
      rmwGetZeroInitializedContext]
  have hconfig : transportConfig plainBuild acceptingConfig ⟨"", "", "", ""⟩ = some () := by
    simp [transportConfig, rmwZenohPicoSetUnicastConfig, rmwZenohPicoSetCommonConfig, plainBuild,
      insertNonempty, acceptingConfig]
  refine ⟨_, by simp only [machine, call, rmwInit, hargs, hconfig, Option.map_some]; rfl, ?_⟩
  exact holds_setContext.mpr rfl

/-- The session is to be generated a second time, which no program reaches. -/
theorem second_session_unreached :
    ¬SharedLifetime plainBuild acceptingConfig (initial zeroContexts)
      [.init (some plainOptions) (some ()), .shutdown (some ()), .init (some plainOptions) (some ())] := by
  obtain ⟨s, hs, hc⟩ := plain_started
  obtain ⟨holders, hcounts⟩ := machine_counts ⟨∅, initial_counts zeroContexts⟩ hs
  intro h
  obtain ⟨ret, s', hcall, -⟩ := (h.lifetime.2 s hs).1 trivial
  have hundefined : call isObject plainBuild acceptingConfig s (.shutdown (some ())) = none :=
    last_release_undefined hcounts ⟨(), .inl rfl, hc, fun _ _ => rfl⟩
  rw [hundefined] at hcall
  cases hcall

end Example

end RmwZenohPico.Session
