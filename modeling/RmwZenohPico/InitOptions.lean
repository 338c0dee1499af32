import RmwZenohPico.Lib.RefHeap
import RmwZenohPico.Session

namespace RmwZenohPico.InitOptions

open Lib.RefHeap Lib.LabelledMachine RmwTypes
open Session (Transport BuildOptions ZenohPicoTransportParams ZenohConfig RmwContext ConnectOutcome
  initArguments transportConfig rmwGetZeroInitializedContext)

variable {O C A K : Type}

/-- The strings which rmw_zenoh_pico_set_mode and the setter of the transport
replace, each character for a byte. A mode that was not set is none. -/
structure Settings where
  mode : Option String
  connect : String
  connectPort : String
  listen : String
  listenPort : String
  mcast : String
  mcastPort : String
  mcastDev : String
  serialDevice : String
  serialParam : String

def maxInetDevice : Nat := 50

def maxSerialDevice : Nat := 50

def formatted (text : String) : String := String.ofList (text.toList.take 255)

/-- An address of a port "-1" is empty. None is RMW_RET_INVALID_ARGUMENT. -/
def address (port text : String) : Option String :=
  if port ≠ "-1" then
    let buf := formatted text
    if buf.length ≥ maxInetDevice - 1 then none else some buf
  else some ""

def rmwZenohPicoInitOption (build : BuildOptions) (settings : Settings) :
    Option ZenohPicoTransportParams :=
  match build.transport with
  | .serial =>
      if settings.serialDevice.length + settings.serialParam.length + 1 > maxSerialDevice - 1 then none
      else some ⟨settings.mode.getD "serial", "", "", ""⟩
  | .unicast => do
      let connectAddr ← address settings.connectPort
        ("tcp/" ++ settings.connect ++ ":" ++ settings.connectPort)
      let listenAddr ← address settings.listenPort
        ("tcp/" ++ settings.listen ++ ":" ++ settings.listenPort)
      some ⟨settings.mode.getD "client", connectAddr, listenAddr, ""⟩
  | .multicast => do
      let mcastAddr ← address settings.mcastPort
        ("udp/" ++ settings.mcast ++ ":" ++ settings.mcastPort ++ "#iface=" ++ settings.mcastDev)
      some ⟨settings.mode.getD "peer", "", "", mcastAddr⟩

structure RmwInitOptions (A : Type) where
  instanceId : Nat
  implementationIdentifier : Option String
  allocator : Option A
  domainId : Nat
  enclave : Option String
  impl : Option Nat

def rmwGetZeroInitializedInitOptions : RmwInitOptions A := ⟨0, none, none, 0, none, none⟩

def initialisedOptions (options : RmwInitOptions A) (allocator : A) : RmwInitOptions A :=
  { options with
    instanceId := 0
    implementationIdentifier := some rmwGetImplementationIdentifier
    allocator := some allocator
    enclave := some "/"
    domainId := 0 }

/-- The structures of the caller, the parameter blocks with what is in them,
and the session with its contexts. The next block that is allocated is new. -/
structure State (O C A K : Type) where
  options : O → RmwInitOptions A
  heap : Heap Nat
  params : Nat → ZenohPicoTransportParams
  next : Nat
  sessions : Session.State C K

def initial (params : Nat → ZenohPicoTransportParams) : State O C A K where
  options _ := rmwGetZeroInitializedInitOptions
  heap _ := .absent
  params := params
  next := 0
  sessions := Session.initial fun _ => rmwGetZeroInitializedContext

/-- The functions, with what the settings, the allocation and zenoh-pico
contribute to the call. An allocator that is not valid is none. -/
inductive Api (O C A K : Type)
  | optionsInit (options : Option O) (allocator : Option A) (settings : Settings) (allocated : Bool)
  | optionsCopy (src dst : Option O) (allocated : Bool)
  | optionsFini (options : Option O)
  | init (options : Option O) (context : Option C) (z : ZenohConfig K)
  | shutdown (context : Option C)
  | contextFini (context : C)

section Functions

variable [DecidableEq O]

def State.setOptions (s : State O C A K) (o : O) (options : RmwInitOptions A) : State O C A K :=
  { s with options := Function.update s.options o options }

/-- All members of the new block are written before one of them is read. -/
def zenohPicoGenerateParam (s : State O C A K) (allocated : Bool) : Option (Nat × State O C A K) :=
  if allocated then some (s.next, { s with heap := generate s.heap s.next, next := s.next + 1 }) else none

/-- None is a block that is not allocated, here and below. -/
def zenohPicoDestroyParam (s : State O C A K) (param : Nat) : Option (State O C A K) :=
  (dropRef s.heap param some).map fun heap => { s with heap := heap }

def zenohPicoCloneParam (s : State O C A K) (dst src : Nat) : Option (State O C A K) :=
  if (s.heap src).isLive && (s.heap dst).isLive then
    some { s with
      heap := Function.update s.heap dst (s.heap src)
      params := Function.update s.params dst (s.params src) }
  else none

/-- The structure is filled before the steps that can fail. -/
def rmwInitOptionsInit (build : BuildOptions) (s : State O C A K) (o : O) (allocator : Option A)
    (settings : Settings) (allocated : Bool) : Option (RmwRet × State O C A K) :=
  match allocator with
  | none => some (.invalidArgument, s)
  | some allocator =>
      if (s.options o).implementationIdentifier.isSome then some (.invalidArgument, s)
      else
        let options := initialisedOptions (s.options o) allocator
        let s := s.setOptions o options
        match zenohPicoGenerateParam s allocated with
        | none => some (.error, s)
        | some (param, s) =>
            match rmwZenohPicoInitOption build settings with
            | none => (zenohPicoDestroyParam s param).map fun s => (.invalidArgument, s)
            | some filled =>
                let s := { s with params := Function.update s.params param filled }
                some (.ok, s.setOptions o { options with impl := some param })

/-- The destination is the source, its parameter block included, before the
steps that can fail. -/
def rmwInitOptionsCopy (s : State O C A K) (src dst : O) (allocated : Bool) :
    Option (RmwRet × State O C A K) :=
  let source := s.options src
  if !checkTypeIdentifiersMatch source.implementationIdentifier then some (.incorrectRmwImplementation, s)
  else if (s.options dst).implementationIdentifier.isSome then some (.invalidArgument, s)
  else
    let s := s.setOptions dst source
    match source.impl with
    | none => some (.invalidArgument, s)
    | some param =>
        match zenohPicoGenerateParam s allocated with
        | none => some (.error, s)
        | some (new, s) =>
            (zenohPicoCloneParam s new param).map fun s =>
              (.ok, s.setOptions dst { source with impl := some new })

def rmwInitOptionsFini (s : State O C A K) (o : O) : Option (RmwRet × State O C A K) :=
  let options := s.options o
  if options.allocator.isNone then some (.invalidArgument, s)
  else if !checkTypeIdentifiersMatch options.implementationIdentifier then
    some (.incorrectRmwImplementation, s)
  else match options.impl with
    | none => some (.ok, s)
    | some param =>
        (zenohPicoDestroyParam s param).map fun s => (.ok, s.setOptions o { options with impl := none })

def State.readOptions (s : State O C A K) (o : O) : Session.RmwInitOptions :=
  let options := s.options o
  { instanceId := options.instanceId
    implementationIdentifier := options.implementationIdentifier
    domainId := options.domainId
    enclave := options.enclave
    impl := options.impl.map s.params }

def State.dangling (s : State O C A K) (o : O) : Bool :=
  (s.options o).impl.any fun param => !(s.heap param).isLive

variable [DecidableEq C]

def rmwInit (build : BuildOptions) (z : ZenohConfig K) (s : State O C A K) (o : O) (c : C) :
    Option (RmwRet × State O C A K) :=
  if s.dangling o && (initArguments (s.readOptions o) (s.sessions.contexts c)).isOk then none
  else
    let (ret, sessions) := Session.rmwInit build z s.sessions (s.readOptions o) c
    some (ret, { s with sessions := sessions })

def call (build : BuildOptions) (s : State O C A K) : Api O C A K → Option (RmwRet × State O C A K)
  | .optionsInit (some o) allocator settings allocated => rmwInitOptionsInit build s o allocator settings allocated
  | .optionsInit none .. => some (.invalidArgument, s)
  | .optionsCopy (some src) (some dst) allocated => rmwInitOptionsCopy s src dst allocated
  | .optionsCopy .. => some (.invalidArgument, s)
  | .optionsFini (some o) => rmwInitOptionsFini s o
  | .optionsFini none => some (.invalidArgument, s)
  | .init (some o) (some c) z => rmwInit build z s o c
  | .init .. => some (.invalidArgument, s)
  -- what the teardown of the session destroys is no matter of the options
  | .shutdown (some c) => (Session.rmwShutdown (fun _ => true) s.sessions c).map fun r =>
      (r.1, { s with sessions := r.2 })
  | .shutdown none => some (.invalidArgument, s)
  | .contextFini c => (Session.rmwContextFini (fun _ => true) s.sessions c).map fun r =>
      (r.1, { s with sessions := r.2 })

/-- A call, or what the caller and the middleware do between the calls. The
caller assigns members only after rmw_init_options_init. -/
inductive Label (O C A K : Type)
  | call (api : Api O C A K)
  | zeroOptions (options : O)
  | zeroContext (context : C)
  | assign (options : O) (instanceId domainId : Nat) (enclave : Option String)
  | connect (context : C) (outcome : ConnectOutcome)

def machine (build : BuildOptions) : Machine (State O C A K) (Label O C A K) := fun s l =>
  match l with
  | .call api => (call build s api).map Prod.snd
  | .zeroOptions o => some (s.setOptions o rmwGetZeroInitializedInitOptions)
  | .zeroContext c => some { s with sessions := s.sessions.setContext c rmwGetZeroInitializedContext }
  | .assign o instanceId domainId enclave =>
      if (s.options o).implementationIdentifier.isSome then
        some (s.setOptions o { s.options o with
          instanceId := instanceId
          domainId := domainId
          enclave := enclave })
      else none
  | .connect c outcome =>
      if (s.sessions.contexts c).impl then
        some { s with sessions := { s.sessions with
          session := (Session.sessionConnect s.sessions.session outcome).2 } }
      else none

end Functions

def target : Api O C A K → Option (O ⊕ C)
  | .optionsInit o _ _ _ => o.map .inl
  | .optionsCopy _ dst _ => dst.map .inl
  | .init _ c _ => c.map .inr
  | _ => none

def IsZero (s : State O C A K) : O ⊕ C → Prop
  | .inl o => s.options o = rmwGetZeroInitializedInitOptions
  | .inr c => s.sessions.contexts c = rmwGetZeroInitializedContext

section Specification

variable [DecidableEq O] [DecidableEq C]

def Succeeds (build : BuildOptions) (s : State O C A K) (api : Api O C A K) : Prop :=
  ∃ s', call build s api = some (.ok, s')

/-- A call does not reach into a released block, and if it returns an error,
its structure is as it was: zero-initialised, and every call on it that would
have succeeded instead still does. -/
structure AllOrNothing (build : BuildOptions) (s : State O C A K) (api : Api O C A K) : Prop where
  defined : (call build s api).isSome
  restored : ∀ t ret s', target api = some t → IsZero s t → call build s api = some (ret, s') → ret ≠ .ok →
    IsZero s' t
  repeated : ∀ t ret s' api', target api = some t → IsZero s t → call build s api = some (ret, s') →
    ret ≠ .ok → target api' = some t → Succeeds build s api' → Succeeds build s' api'

end Specification

def AddressFits (port : String) (length : Nat) : Prop := port = "-1" ∨ length ≤ 48

def AddressesFit (build : BuildOptions) (settings : Settings) : Prop :=
  match build.transport with
  | .serial => settings.serialDevice.length + settings.serialParam.length ≤ 48
  | .unicast =>
      AddressFits settings.connectPort (settings.connect.length + settings.connectPort.length + 5) ∧
        AddressFits settings.listenPort (settings.listen.length + settings.listenPort.length + 5)
  | .multicast => AddressFits settings.mcastPort
      (settings.mcast.length + settings.mcastPort.length + settings.mcastDev.length + 12)

/-- No step that comes after the structure was written fails. -/
def Unfailing (build : BuildOptions) (s : State O C A K) : Api O C A K → Prop
  | .optionsInit (some o) (some _) settings allocated =>
      (s.options o).implementationIdentifier = none → allocated = true ∧ AddressesFit build settings
  | .optionsCopy (some src) (some dst) allocated =>
      checkTypeIdentifiersMatch (s.options src).implementationIdentifier = true →
        (s.options dst).implementationIdentifier = none →
          (s.options src).implementationIdentifier = none ∨ (s.options src).impl.isSome ∧ allocated = true
  | .init (some o) (some c) z => ∀ params enclave,
      initArguments (s.readOptions o) (s.sessions.contexts c) = .ok (params, enclave) →
        (transportConfig build z params).isSome
  | _ => True

def ZeroContexts (s : Session.State C K) : Prop :=
  ∀ c, (s.contexts c).implementationIdentifier = none → s.contexts c = rmwGetZeroInitializedContext

structure Inv (s : State O C A K) : Prop where
  owned : ∀ o param, (s.options o).impl = some param → s.heap param = .live 1 ∧ param < s.next
  apart : ∀ o o' param, (s.options o).impl = some param → (s.options o').impl = some param → o = o'
  zeroOptions : ∀ o, (s.options o).implementationIdentifier = none →
    s.options o = rmwGetZeroInitializedInitOptions
  zeroContexts : ZeroContexts s.sessions

theorem formatted_fits (text : String) : (formatted text).length ≤ 48 ↔ text.length ≤ 48 := by
  simp only [formatted, String.length_ofList, List.length_take, String.length_toList]
  omega

theorem address_fits (port text : String) : (address port text).isSome ↔ AddressFits port text.length := by
  have hfits := formatted_fits text
  unfold address AddressFits maxInetDevice
  by_cases hport : port = "-1"
  · simp [hport]
  · simp only [ne_eq, hport, not_false_eq_true, if_true, false_or]
    rw [← hfits]
    split
    · simp
      omega
    · simp
      omega

theorem tcp_length (host port : String) :
    ("tcp/" ++ host ++ ":" ++ port).length = host.length + port.length + 5 := by
  have hscheme : "tcp/".length = 4 := rfl
  have hcolon : ":".length = 1 := rfl
  simp only [String.length_append]
  omega

theorem udp_length (host port dev : String) :
    ("udp/" ++ host ++ ":" ++ port ++ "#iface=" ++ dev).length =
      host.length + port.length + dev.length + 12 := by
  have hscheme : "udp/".length = 4 := rfl
  have hcolon : ":".length = 1 := rfl
  have hiface : "#iface=".length = 7 := rfl
  simp only [String.length_append]
  omega

theorem initOption_isSome (build : BuildOptions) (settings : Settings) :
    (rmwZenohPicoInitOption build settings).isSome ↔ AddressesFit build settings := by
  unfold rmwZenohPicoInitOption AddressesFit
  cases build.transport with
  | serial =>
      by_cases hfits : settings.serialDevice.length + settings.serialParam.length ≤ 48
      · have hnot : ¬settings.serialDevice.length + settings.serialParam.length + 1 > maxSerialDevice - 1 := by
          simp only [maxSerialDevice]
          omega
        simp [hnot, hfits]
      · have hover : settings.serialDevice.length + settings.serialParam.length + 1 > maxSerialDevice - 1 := by
          simp only [maxSerialDevice]
          omega
        simp [hover, hfits]
  | unicast =>
      simp only [← tcp_length, ← address_fits]
      generalize address settings.connectPort _ = connectAddr
      generalize address settings.listenPort _ = listenAddr
      cases connectAddr with
      | none => simp
      | some connectAddr => cases listenAddr <;> simp
  | multicast =>
      simp only [← udp_length, ← address_fits]
      generalize address settings.mcastPort _ = mcastAddr
      cases mcastAddr <;> simp

section Steps

variable [DecidableEq O]

@[simp] theorem setOptions_self (s : State O C A K) (o : O) (options : RmwInitOptions A) :
    (s.setOptions o options).options o = options := Function.update_self ..

theorem setOptions_ne (s : State O C A K) {o o' : O} (h : o' ≠ o) (options : RmwInitOptions A) :
    (s.setOptions o options).options o' = s.options o' := Function.update_of_ne h ..

def State.own (s : State O C A K) (o : O) (options : RmwInitOptions A) (filled : ZenohPicoTransportParams) :
    State O C A K :=
  { s with
    options := Function.update s.options o { options with impl := some s.next }
    heap := generate s.heap s.next
    params := Function.update s.params s.next filled
    next := s.next + 1 }

omit [DecidableEq O] in
theorem destroyParam_owned {s : State O C A K} {param : Nat} (h : s.heap param = .live 1) :
    zenohPicoDestroyParam s param = some { s with heap := Function.update s.heap param .freed } := by
  rw [zenohPicoDestroyParam, dropRef_leaf h]
  rfl

theorem optionsInit_ok {build : BuildOptions} {s : State O C A K} {o : O} {settings : Settings} (allocator : A)
    (hzero : (s.options o).implementationIdentifier = none) (hfits : AddressesFit build settings) :
    ∃ filled, rmwInitOptionsInit build s o (some allocator) settings true =
      some (.ok, s.own o (initialisedOptions (s.options o) allocator) filled) := by
  obtain ⟨filled, hfilled⟩ := Option.isSome_iff_exists.mp ((initOption_isSome build settings).mpr hfits)
  refine ⟨filled, ?_⟩
  simp [rmwInitOptionsInit, hzero, zenohPicoGenerateParam, hfilled, State.setOptions, State.own]

theorem optionsInit_failed {build : BuildOptions} {s : State O C A K} {o : O} {settings : Settings}
    {allocated : Bool} (allocator : A) (hzero : (s.options o).implementationIdentifier = none)
    (hfails : ¬(allocated = true ∧ AddressesFit build settings)) :
    ∃ ret s', rmwInitOptionsInit build s o (some allocator) settings allocated = some (ret, s') ∧ ret ≠ .ok ∧
      s'.options o = initialisedOptions (s.options o) allocator := by
  have hnot : (s.options o).implementationIdentifier.isSome = false := by rw [hzero]; rfl
  cases allocated with
  | false =>
      refine ⟨.error, s.setOptions o (initialisedOptions (s.options o) allocator), ?_, by decide, ?_⟩
      · simp only [rmwInitOptionsInit, hnot, zenohPicoGenerateParam, Bool.false_eq_true, if_false]
      · exact Function.update_self ..
  | true =>
      have hnone : rmwZenohPicoInitOption build settings = none := by
        rw [← Option.not_isSome_iff_eq_none, initOption_isSome]
        exact fun hfits => hfails ⟨rfl, hfits⟩
      simp only [rmwInitOptionsInit, hnot, zenohPicoGenerateParam, hnone, if_true, Bool.false_eq_true, if_false]
      rw [destroyParam_owned (Function.update_self ..)]
      exact ⟨_, _, rfl, by decide, Function.update_self ..⟩

theorem optionsCopy_ok {s : State O C A K} {src dst : O} {param : Nat}
    (hmatch : checkTypeIdentifiersMatch (s.options src).implementationIdentifier = true)
    (hzero : (s.options dst).implementationIdentifier = none) (himpl : (s.options src).impl = some param)
    (hlive : s.heap param = .live 1) (hnext : param < s.next) :
    rmwInitOptionsCopy s src dst true = some (.ok, s.own dst (s.options src) (s.params param)) := by
  have hne : param ≠ s.next := by omega
  simp [rmwInitOptionsCopy, hmatch, hzero, himpl, zenohPicoGenerateParam, zenohPicoCloneParam, generate,
    State.setOptions, State.own, Function.update_of_ne hne, hlive, Cell.isLive]

theorem optionsCopy_failed {s : State O C A K} {src dst : O} (allocated : Bool)
    (hmatch : checkTypeIdentifiersMatch (s.options src).implementationIdentifier = true)
    (hzero : (s.options dst).implementationIdentifier = none)
    (hfails : ¬((s.options src).impl.isSome ∧ allocated = true)) :
    ∃ ret, rmwInitOptionsCopy s src dst allocated = some (ret, s.setOptions dst (s.options src)) ∧ ret ≠ .ok := by
  cases himpl : (s.options src).impl with
  | none => exact ⟨.invalidArgument, by simp [rmwInitOptionsCopy, hmatch, hzero, himpl], by decide⟩
  | some param =>
      have hallocated : allocated = false := by simpa [himpl] using hfails
      refine ⟨.error, ?_, by decide⟩
      simp [rmwInitOptionsCopy, hmatch, hzero, himpl, hallocated, zenohPicoGenerateParam]

theorem optionsFini_ok {s : State O C A K} {o : O} {param : Nat} (hallocator : (s.options o).allocator.isSome)
    (hmatch : checkTypeIdentifiersMatch (s.options o).implementationIdentifier = true)
    (himpl : (s.options o).impl = some param) (hlive : s.heap param = .live 1) :
    rmwInitOptionsFini s o = some (.ok, { s with heap := Function.update s.heap param .freed }.setOptions o
      { s.options o with impl := none }) := by
  simp [rmwInitOptionsFini, Option.isSome_iff_ne_none.mp hallocator, hmatch, himpl, destroyParam_owned hlive]

theorem own_impl {s : State O C A K} {o o' : O} {options : RmwInitOptions A} {filled : ZenohPicoTransportParams}
    {param : Nat} (h : ((s.own o options filled).options o').impl = some param) :
    o' = o ∧ param = s.next ∨ (s.options o').impl = some param := by
  by_cases ho : o' = o
  · subst ho
    simp only [State.own, Function.update_self, Option.some.injEq] at h
    exact .inl ⟨rfl, h.symm⟩
  · simp only [State.own, Function.update_of_ne ho] at h
    exact .inr h

theorem Inv.own {s : State O C A K} (h : Inv s) (o : O) {options : RmwInitOptions A}
    (hidentifier : options.implementationIdentifier ≠ none) (filled : ZenohPicoTransportParams) :
    Inv (s.own o options filled) where
  owned o' param himpl := by
    rcases own_impl himpl with ⟨-, rfl⟩ | hbefore
    · exact ⟨Function.update_self .., Nat.lt_succ_self _⟩
    · obtain ⟨hlive, hlt⟩ := h.owned o' param hbefore
      have hne : param ≠ s.next := by omega
      refine ⟨?_, Nat.lt_succ_of_lt hlt⟩
      simpa only [State.own, generate, Function.update_of_ne hne] using hlive
  apart o' o'' param himpl himpl' := by
    have hold : ∀ a, (s.options a).impl ≠ some s.next := by
      intro a ha
      exact absurd (h.owned a s.next ha).2 (Nat.lt_irrefl _)
    rcases own_impl himpl with ⟨rfl, rfl⟩ | hbefore
    · rcases own_impl himpl' with ⟨rfl, -⟩ | hbefore'
      · rfl
      · exact absurd hbefore' (hold o'')
    · rcases own_impl himpl' with ⟨rfl, rfl⟩ | hbefore'
      · exact absurd hbefore (hold o')
      · exact h.apart o' o'' param hbefore hbefore'
  zeroOptions o' hzero := by
    by_cases ho : o' = o
    · subst ho
      simp only [State.own, Function.update_self] at hzero
      exact absurd hzero hidentifier
    · simp only [State.own, Function.update_of_ne ho] at hzero ⊢
      exact h.zeroOptions o' hzero
  zeroContexts := h.zeroContexts

theorem Inv.setOptions {s : State O C A K} (h : Inv s) (o : O) {options : RmwInitOptions A}
    (himpl : options.impl = none ∨ options.impl = (s.options o).impl)
    (hzero : options.implementationIdentifier = none → options = rmwGetZeroInitializedInitOptions) :
    Inv (s.setOptions o options) := by
  have hkept : ∀ o' param, ((s.setOptions o options).options o').impl = some param →
      (s.options o').impl = some param := by
    intro o' param hparam
    by_cases ho : o' = o
    · subst ho
      rw [setOptions_self] at hparam
      rcases himpl with hnone | hsame
      · rw [hnone] at hparam
        cases hparam
      · rw [← hsame, hparam]
    · rwa [setOptions_ne s ho] at hparam
  refine ⟨fun o' param hparam => h.owned o' param (hkept o' param hparam), ?_, ?_, h.zeroContexts⟩
  · intro o' o'' param hparam hparam'
    exact h.apart o' o'' param (hkept o' param hparam) (hkept o'' param hparam')
  · intro o' hnone
    by_cases ho : o' = o
    · subst ho
      rw [setOptions_self] at hnone ⊢
      exact hzero hnone
    · rw [setOptions_ne s ho] at hnone ⊢
      exact h.zeroOptions o' hnone

theorem Inv.release {s : State O C A K} (h : Inv s) {o : O} {param : Nat}
    (hparam : (s.options o).impl = some param) {options : RmwInitOptions A} (himpl : options.impl = none)
    (hzero : options.implementationIdentifier = none → options = rmwGetZeroInitializedInitOptions) :
    Inv ({ s with heap := Function.update s.heap param .freed }.setOptions o options) := by
  have hinv := h.setOptions o (.inl himpl) hzero
  refine ⟨?_, hinv.apart, hinv.zeroOptions, hinv.zeroContexts⟩
  intro o' param' hparam'
  have hne : param' ≠ param := by
    intro hsame
    subst hsame
    by_cases ho : o' = o
    · subst ho
      rw [setOptions_self, himpl] at hparam'
      cases hparam'
    · rw [setOptions_ne _ ho] at hparam'
      exact ho (h.apart o' o _ hparam' hparam)
  obtain ⟨hlive, hlt⟩ := hinv.owned o' param' hparam'
  exact ⟨by simpa only [State.setOptions, Function.update_of_ne hne] using hlive, hlt⟩

omit [DecidableEq O] in
theorem Inv.setSessions {s : State O C A K} (h : Inv s) {sessions : Session.State C K}
    (hzero : ZeroContexts sessions) : Inv { s with sessions := sessions } :=
  ⟨h.owned, h.apart, h.zeroOptions, hzero⟩

end Steps

section Contexts

variable [DecidableEq C]

theorem ZeroContexts.setContext {s : Session.State C K} (h : ZeroContexts s) (c : C) {context : RmwContext}
    (hzero : context.implementationIdentifier = none → context = rmwGetZeroInitializedContext) :
    ZeroContexts (s.setContext c context) := by
  intro d hnone
  by_cases hd : d = c
  · subst hd
    simp only [Session.State.setContext, Function.update_self] at hnone ⊢
    exact hzero hnone
  · simp only [Session.State.setContext, Function.update_of_ne hd] at hnone ⊢
    exact h d hnone

omit [DecidableEq C] in
theorem destroySession_returns (session : Session.ZenohPicoSession K) :
    ∃ r, Session.zenohPicoDestroySession (fun _ => true) session = some r := by
  simp only [Session.zenohPicoDestroySession, if_true]
  split
  · exact ⟨_, rfl⟩
  · exact ⟨_, rfl⟩

theorem contextFini_zeroContexts {s : Session.State C K} (h : ZeroContexts s) (c : C) :
    ∃ ret t, Session.rmwContextFini (fun _ => true) s c = some (ret, t) ∧ ZeroContexts t := by
  obtain ⟨r, hr⟩ := destroySession_returns s.session
  cases himpl : (s.contexts c).impl with
  | false => exact ⟨.ok, s, by simp [Session.rmwContextFini, himpl], h⟩
  | true =>
      refine ⟨.ok, _, by simp only [Session.rmwContextFini, himpl, if_true, hr, Option.map_some]; rfl, ?_⟩
      refine ZeroContexts.setContext h c ?_
      intro hnone
      have hzero := h c hnone
      rw [hzero] at himpl
      cases himpl

theorem shutdown_zeroContexts {s : Session.State C K} (h : ZeroContexts s) (c : C) :
    ∃ ret t, Session.rmwShutdown (fun _ => true) s c = some (ret, t) ∧ ZeroContexts t := by
  obtain ⟨ret, t, hr, hfini⟩ := contextFini_zeroContexts h c
  simp only [Session.rmwShutdown, hr, Option.map_some]
  split
  · split
    · exact ⟨_, _, rfl, hfini.setContext c fun _ => rfl⟩
    · exact ⟨_, _, rfl, hfini⟩
  · exact ⟨_, _, rfl, h⟩

end Contexts

section Calls

variable [DecidableEq O] [DecidableEq C]

def Passes (build : BuildOptions) (s : State O C A K) (api : Api O C A K) : Prop :=
  ∃ ret s', call build s api = some (ret, s') ∧ Inv s' ∧ ((target api).isSome → ret ≠ .ok → s' = s)

theorem optionsInit_passes {build : BuildOptions} {s : State O C A K} (h : Inv s) (o : O) (allocator : Option A)
    {settings : Settings} {allocated : Bool}
    (hu : Unfailing build s (.optionsInit (some o) allocator settings allocated)) :
    Passes build s (.optionsInit (some o) allocator settings allocated) := by
  cases allocator with
  | none => exact ⟨.invalidArgument, s, rfl, h, fun _ _ => rfl⟩
  | some allocator =>
      cases hzero : (s.options o).implementationIdentifier with
      | some identifier =>
          refine ⟨.invalidArgument, s, ?_, h, fun _ _ => rfl⟩
          simp [call, rmwInitOptionsInit, hzero]
      | none =>
          obtain ⟨rfl, hfits⟩ := hu hzero
          obtain ⟨filled, hok⟩ := optionsInit_ok allocator hzero hfits
          refine ⟨.ok, _, hok, h.own o ?_ filled, fun _ hret => absurd rfl hret⟩
          simp [initialisedOptions]

theorem optionsCopy_passes {build : BuildOptions} {s : State O C A K} (h : Inv s) (src dst : O)
    {allocated : Bool} (hu : Unfailing build s (.optionsCopy (some src) (some dst) allocated)) :
    Passes build s (.optionsCopy (some src) (some dst) allocated) := by
  by_cases hmatch : checkTypeIdentifiersMatch (s.options src).implementationIdentifier = true
  · cases hzero : (s.options dst).implementationIdentifier with
    | some identifier =>
        refine ⟨.invalidArgument, s, ?_, h, fun _ _ => rfl⟩
        simp [call, rmwInitOptionsCopy, hmatch, hzero]
    | none =>
        rcases hu hmatch hzero with hsource | ⟨himpl, rfl⟩
        · have hsame : s.options src = s.options dst := by
            rw [h.zeroOptions src hsource, h.zeroOptions dst hzero]
          have himpl : (s.options src).impl = none := by
            rw [h.zeroOptions src hsource]
            rfl
          have hunchanged : s.setOptions dst (s.options src) = s := by
            rw [hsame, State.setOptions, Function.update_eq_self]
          obtain ⟨ret, hcopy, hret⟩ := optionsCopy_failed allocated hmatch hzero (by simp [himpl])
          rw [hunchanged] at hcopy
          exact ⟨ret, s, hcopy, h, fun _ _ => rfl⟩
        · obtain ⟨param, himpl⟩ := Option.isSome_iff_exists.mp himpl
          obtain ⟨hlive, hlt⟩ := h.owned src param himpl
          have hidentifier : (s.options src).implementationIdentifier ≠ none := by
            intro hnone
            rw [h.zeroOptions src hnone] at himpl
            cases himpl
          exact ⟨.ok, _, optionsCopy_ok hmatch hzero himpl hlive hlt, h.own dst hidentifier _,
            fun _ hret => absurd rfl hret⟩
  · refine ⟨.incorrectRmwImplementation, s, ?_, h, fun _ _ => rfl⟩
    simp [call, rmwInitOptionsCopy, hmatch]

theorem optionsFini_passes {build : BuildOptions} {s : State O C A K} (h : Inv s) (o : O) :
    Passes build s (.optionsFini (some o)) := by
  by_cases hallocator : (s.options o).allocator.isSome
  · by_cases hmatch : checkTypeIdentifiersMatch (s.options o).implementationIdentifier = true
    · cases himpl : (s.options o).impl with
      | none =>
          refine ⟨.ok, s, ?_, h, by simp [target]⟩
          simp [call, rmwInitOptionsFini, Option.isSome_iff_ne_none.mp hallocator, hmatch, himpl]
      | some param =>
          have hzero : (s.options o).implementationIdentifier ≠ none := by
            intro hnone
            rw [h.zeroOptions o hnone] at himpl
            cases himpl
          have hinv : Inv ({ s with heap := Function.update s.heap param .freed }.setOptions o
              { s.options o with impl := none }) :=
            h.release himpl rfl fun hnone => absurd hnone hzero
          exact ⟨.ok, _, optionsFini_ok hallocator hmatch himpl (h.owned o param himpl).1, hinv, by simp [target]⟩
    · refine ⟨.incorrectRmwImplementation, s, ?_, h, by simp [target]⟩
      simp [call, rmwInitOptionsFini, Option.isSome_iff_ne_none.mp hallocator, hmatch]
  · refine ⟨.invalidArgument, s, ?_, h, by simp [target]⟩
    simp [call, rmwInitOptionsFini, Option.not_isSome_iff_eq_none.mp hallocator]

omit [DecidableEq O] in
theorem rmwInit_owned {s : State O C A K} (h : Inv s) (build : BuildOptions) (z : ZenohConfig K) (o : O) (c : C) :
    rmwInit build z s o c = some ((Session.rmwInit build z s.sessions (s.readOptions o) c).1,
      { s with sessions := (Session.rmwInit build z s.sessions (s.readOptions o) c).2 }) := by
  have hlive : s.dangling o = false := by
    unfold State.dangling
    cases himpl : (s.options o).impl with
    | none => rfl
    | some param => simp [(h.owned o param himpl).1, Cell.isLive]
  simp [rmwInit, hlive]

theorem init_passes {build : BuildOptions} {s : State O C A K} (h : Inv s) (o : O) (c : C) {z : ZenohConfig K}
    (hu : Unfailing build s (.init (some o) (some c) z)) : Passes build s (.init (some o) (some c) z) := by
  refine ⟨_, _, rmwInit_owned h build z o c, ?_⟩
  rcases Session.initArguments_cases (s.readOptions o) (s.sessions.contexts c) with
    ⟨ret, hargs, -⟩ | ⟨params, enclave, hargs, -⟩
  · simp only [Session.rmwInit, hargs]
    exact ⟨h, fun _ _ => trivial⟩
  · obtain ⟨config, hconfig⟩ := Option.isSome_iff_exists.mp (hu params enclave hargs)
    simp only [Session.rmwInit, hargs, hconfig]
    refine ⟨h.setSessions (ZeroContexts.setContext h.zeroContexts c ?_), fun _ hret => absurd rfl hret⟩
    simp [Session.initContext]

theorem call_passes {build : BuildOptions} {s : State O C A K} (h : Inv s) (api : Api O C A K)
    (hu : Unfailing build s api) : Passes build s api := by
  have hrefused : ∀ api : Api O C A K, call build s api = some (.invalidArgument, s) → Passes build s api :=
    fun api hcall => ⟨_, s, hcall, h, fun _ _ => rfl⟩
  cases api with
  | optionsInit o allocator settings allocated =>
      cases o with
      | none => exact hrefused _ rfl
      | some o => exact optionsInit_passes h o allocator hu
  | optionsCopy src dst allocated =>
      cases src with
      | none => exact hrefused _ rfl
      | some src =>
          cases dst with
          | none => exact hrefused _ rfl
          | some dst => exact optionsCopy_passes h src dst hu
  | optionsFini o =>
      cases o with
      | none => exact hrefused _ rfl
      | some o => exact optionsFini_passes h o
  | init o c z =>
      cases o with
      | none => exact hrefused _ rfl
      | some o =>
          cases c with
          | none => exact hrefused _ rfl
          | some c => exact init_passes h o c hu
  | shutdown c =>
      cases c with
      | none => exact hrefused _ rfl
      | some c =>
          obtain ⟨ret, sessions, hcall, hzero⟩ := shutdown_zeroContexts h.zeroContexts c
          exact ⟨ret, _, by rw [call, hcall]; rfl, h.setSessions hzero, by simp [target]⟩
  | contextFini c =>
      obtain ⟨ret, sessions, hcall, hzero⟩ := contextFini_zeroContexts h.zeroContexts c
      exact ⟨ret, _, by rw [call, hcall]; rfl, h.setSessions hzero, by simp [target]⟩

theorem Inv.step {build : BuildOptions} {s s' : State O C A K} {l : Label O C A K} (h : Inv s)
    (hu : ∀ api, l = .call api → Unfailing build s api) (hs : machine build s l = some s') : Inv s' := by
  cases l with
  | call api =>
      obtain ⟨ret, t, hcall, hinv, -⟩ := call_passes h api (hu api rfl)
      simp only [machine, hcall, Option.map_some, Option.some.injEq] at hs
      exact hs ▸ hinv
  | zeroOptions o =>
      cases hs
      exact h.setOptions o (.inl rfl) fun _ => rfl
  | zeroContext c =>
      cases hs
      exact h.setSessions (ZeroContexts.setContext h.zeroContexts c fun _ => rfl)
  | assign o instanceId domainId enclave =>
      simp only [machine, Option.ite_none_right_eq_some, Option.some.injEq] at hs
      obtain ⟨hidentifier, rfl⟩ := hs
      refine h.setOptions o (.inr rfl) ?_
      intro hnone
      dsimp only at hnone
      rw [hnone] at hidentifier
      cases hidentifier
  | connect c outcome =>
      simp only [machine, Option.ite_none_right_eq_some, Option.some.injEq] at hs
      obtain ⟨-, rfl⟩ := hs
      exact h.setSessions h.zeroContexts

theorem optionsInit_unfailing {build : BuildOptions} {s : State O C A K} (h : Inv s) {o : O} {allocator : A}
    {settings : Settings} {allocated : Bool}
    (hall : AllOrNothing build s (.optionsInit (some o) (some allocator) settings allocated)) :
    Unfailing build s (.optionsInit (some o) (some allocator) settings allocated) := by
  intro hzero
  by_contra hfails
  obtain ⟨ret, s', hcall, hret, hoptions⟩ := optionsInit_failed allocator hzero hfails
  have hrestored : s'.options o = rmwGetZeroInitializedInitOptions :=
    hall.restored (.inl o) ret s' rfl (h.zeroOptions o hzero) hcall hret
  rw [hoptions] at hrestored
  cases congrArg RmwInitOptions.implementationIdentifier hrestored

theorem optionsCopy_unfailing {build : BuildOptions} {s : State O C A K} (h : Inv s) {src dst : O}
    {allocated : Bool} (hall : AllOrNothing build s (.optionsCopy (some src) (some dst) allocated)) :
    Unfailing build s (.optionsCopy (some src) (some dst) allocated) := by
  intro hmatch hzero
  by_contra hfails
  rw [not_or] at hfails
  obtain ⟨ret, hcall, hret⟩ := optionsCopy_failed allocated hmatch hzero hfails.2
  have hrestored : (s.setOptions dst (s.options src)).options dst = rmwGetZeroInitializedInitOptions :=
    hall.restored (.inl dst) ret _ rfl (h.zeroOptions dst hzero) hcall hret
  rw [setOptions_self] at hrestored
  exact hfails.1 (by rw [hrestored]; rfl)

theorem init_unfailing {build : BuildOptions} {s : State O C A K} (h : Inv s) {o : O} {c : C}
    {z : ZenohConfig K} (hall : AllOrNothing build s (.init (some o) (some c) z)) :
    Unfailing build s (.init (some o) (some c) z) := by
  intro params enclave hargs
  rcases Session.initArguments_cases (s.readOptions o) (s.sessions.contexts c) with
    ⟨ret, hargs', -⟩ | ⟨_, _, _, -, -, hzero⟩
  · rw [hargs] at hargs'
    cases hargs'
  · rw [Option.isSome_iff_ne_none]
    intro hconfig
    have hcall : call build s (.init (some o) (some c) z) = some (.error, { s with
        sessions := s.sessions.setContext c
          (Session.initContext (s.readOptions o) (s.sessions.contexts c)) }) := by
      rw [call, rmwInit_owned h]
      simp only [Session.rmwInit, hargs, hconfig]
    have hrestored : (s.sessions.setContext c
        (Session.initContext (s.readOptions o) (s.sessions.contexts c))).contexts c =
          rmwGetZeroInitializedContext :=
      hall.restored (.inr c) .error _ rfl (h.zeroContexts c hzero) hcall (by decide)
    simp only [Session.State.setContext, Function.update_self] at hrestored
    cases congrArg RmwContext.implementationIdentifier hrestored

theorem AllOrNothing.unfailing {build : BuildOptions} {s : State O C A K} (h : Inv s) {api : Api O C A K}
    (hall : AllOrNothing build s api) : Unfailing build s api := by
  cases api with
  | optionsFini o | shutdown c | contextFini c => trivial
  | optionsInit o allocator settings allocated =>
      cases o with
      | none => trivial
      | some o =>
          cases allocator with
          | none => trivial
          | some allocator => exact optionsInit_unfailing h hall
  | optionsCopy src dst allocated =>
      cases src with
      | none => trivial
      | some src =>
          cases dst with
          | none => trivial
          | some dst => exact optionsCopy_unfailing h hall
  | init o c z =>
      cases o with
      | none => trivial
      | some o =>
          cases c with
          | none => trivial
          | some c => exact init_unfailing h hall

theorem Unfailing.allOrNothing {build : BuildOptions} {s : State O C A K} (h : Inv s) {api : Api O C A K}
    (hu : Unfailing build s api) : AllOrNothing build s api := by
  obtain ⟨ret, s', hcall, -, hsame⟩ := call_passes h api hu
  have hunchanged : ∀ t ret' s'', target api = some t → call build s api = some (ret', s'') → ret' ≠ .ok →
      s'' = s := by
    intro t ret' s'' ht hcall' hret
    rw [hcall, Option.some.injEq, Prod.mk.injEq] at hcall'
    obtain ⟨rfl, rfl⟩ := hcall'
    exact hsame (by rw [ht]; rfl) hret
  refine ⟨by rw [hcall]; rfl, ?_, ?_⟩
  · intro t ret' s'' ht hzero hcall' hret
    rw [hunchanged t ret' s'' ht hcall' hret]
    exact hzero
  · intro t ret' s'' api' ht _ hcall' hret _ hsucceeds
    rw [hunchanged t ret' s'' ht hcall' hret]
    exact hsucceeds

omit [DecidableEq O] [DecidableEq C] in
theorem initial_inv (params : Nat → ZenohPicoTransportParams) : Inv (initial params : State O C A K) where
  owned _ _ himpl := by cases himpl
  apart _ _ _ himpl _ := by cases himpl
  zeroOptions _ _ := rfl
  zeroContexts _ _ := rfl

/-- All calls of a run are all or nothing exactly if none of them fails after
it has written its structure. -/
theorem all_or_nothing_iff (build : BuildOptions) (params : Nat → ZenohPicoTransportParams)
    (ls : List (Label O C A K)) :
    Every (machine build) (fun s l => ∀ api, l = .call api → AllOrNothing build s api) (initial params) ls ↔
      Every (machine build) (fun s l => ∀ api, l = .call api → Unfailing build s api) (initial params) ls := by
  constructor
  · refine every_of_invariant (I := Inv) ?_ ?_ (initial_inv params)
    · exact fun s l t h hall hs => h.step (fun api hl => (hall api hl).unfailing h) hs
    · exact fun s l h hall api hl => (hall api hl).unfailing h
  · refine every_of_invariant (I := Inv) ?_ ?_ (initial_inv params)
    · exact fun s l t h hu hs => h.step hu hs
    · exact fun s l h hu api hl => (hu api hl).allOrNothing h

end Calls

def build : BuildOptions := ⟨.unicast, "a1"⟩

def rejecting : ZenohConfig Unit := ⟨(), fun _ _ _ => none⟩

def router : Settings := ⟨none, "192.168.1.2", "7447", "", "-1", "", "-1", "", "", ""⟩

def farRouter : Settings :=
  { router with connect := "zenoh-router.third-floor.laboratory.example" }

def fresh : State Bool Unit Unit Unit := initial fun _ => ⟨"", "", "", ""⟩

def start (settings : Settings) (allocated : Bool) : Label Bool Unit Unit Unit :=
  .call (.optionsInit (some false) (some ()) settings allocated)

def copyFails : Label Bool Unit Unit Unit := .call (.optionsCopy (some false) (some true) false)

def AllCalls (ls : List (Label Bool Unit Unit Unit)) : Prop :=
  Every (machine build) (fun s l => ∀ api, l = .call api → AllOrNothing build s api) fresh ls

def started (filled : ZenohPicoTransportParams) : State Bool Unit Unit Unit :=
  fresh.own false (initialisedOptions rmwGetZeroInitializedInitOptions ()) filled

theorem fresh_inv : Inv fresh := initial_inv _

theorem started_inv (filled : ZenohPicoTransportParams) : Inv (started filled) :=
  fresh_inv.own false (by simp [initialisedOptions]) filled

theorem router_started : ∃ filled, machine build fresh (start router true) = some (started filled) := by
  have hfits : AddressesFit build router := ⟨.inr (by decide), .inl rfl⟩
  obtain ⟨filled, hok⟩ := optionsInit_ok (s := fresh) (o := false) () rfl hfits
  refine ⟨filled, ?_⟩
  simp only [machine, start, call, hok, Option.map_some]
  rfl

def copied (filled : ZenohPicoTransportParams) : State Bool Unit Unit Unit :=
  (started filled).setOptions true ((started filled).options false)

theorem copy_remains (filled : ZenohPicoTransportParams) :
    machine build (started filled) copyFails = some (copied filled) := rfl

theorem copied_released_twice (filled : ZenohPicoTransportParams) :
    ∃ s, machine build (copied filled) (.call (.optionsFini (some false))) = some s ∧
      call build s (.optionsFini (some true)) = none := by
  have himpl : ((copied filled).options false).impl = some 0 := rfl
  have hfini := optionsFini_ok rfl rfl himpl rfl
  exact ⟨_, congrArg (Option.map Prod.snd) hfini, rfl⟩

/-- An address that does not fit, no memory for the block or for the copy, and
a configuration key that is rejected each leave their structure behind with an
identifier, and after the copy that failed the block is released twice. -/
theorem failures_remain :
    ¬AllCalls [start farRouter true] ∧ ¬AllCalls [start router false] ∧ ¬AllCalls [start router true, copyFails] ∧
      ¬AllCalls [start router true, .call (.init (some false) (some ()) rejecting)] ∧
      ∃ s, run (machine build) fresh [start router true, copyFails, .call (.optionsFini (some false))] = some s ∧
        call build s (.optionsFini (some true)) = none := by
  obtain ⟨filled, hstart⟩ := router_started
  refine ⟨?_, ?_, ?_, ?_, ?_⟩
  · intro h
    rcases ((h.1 _ rfl).unfailing fresh_inv rfl).2.1 with hport | hlong
    · exact absurd hport (by decide)
    · exact absurd hlong (by decide)
  · intro h
    exact absurd ((h.1 _ rfl).unfailing fresh_inv rfl).1 (by decide)
  · intro h
    rcases ((h.2 _ hstart).1 _ rfl).unfailing (started_inv filled) rfl rfl with hzero | ⟨-, hallocated⟩
    · cases hzero
    · cases hallocated
  · intro h
    have hconfig := ((h.2 _ hstart).1 _ rfl).unfailing (started_inv filled) filled "/" rfl
    cases hconfig
  · obtain ⟨s, hfini, htwice⟩ := copied_released_twice filled
    exact ⟨s, by simp [run, hstart, copy_remains, hfini], htwice⟩

end RmwZenohPico.InitOptions
