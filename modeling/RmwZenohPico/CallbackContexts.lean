import RmwZenohPico.Lib.LabelledMachine
import RmwZenohPico.Lib.RefHeap
import RmwZenohPico.Lib.Registry

namespace RmwZenohPico.CallbackContexts

open Lib.LabelledMachine Lib.RefHeap Lib.Registry

variable {E : Type} [DecidableEq E]

inductive Kind
  | subscription
  | service
  | client
  deriving DecidableEq

inductive Handler
  | subscriptionDataHandler
  | requestHandler
  deriving DecidableEq

/-- The data of the endpoints, the handles the application holds, and the
callbacks zenoh-pico holds. The context of a declared callback is the endpoint
it stands under, that of a pending query the client it is registered with. -/
structure State (E : Type) where
  heap : Heap E
  handles : E → Option Kind
  declared : Entries E Handler
  pending : Entries Nat E
  issued : Nat

def initial : State E := ⟨fun _ => .absent, fun _ => none, [], [], 0⟩

/-- How the calls inside a creation end: the generation of the data, the
allocation of the handle and its name, the declaration of the callback and
that of the liveliness token. -/
structure CreateEnv where
  data : Bool
  handle : Bool
  callback : Bool
  token : Bool

def declareCallback (handler : Handler) (env : CreateEnv) (s : State E) (data : E) : Bool × State E :=
  if env.callback then (env.token, { s with declared := register s.declared data handler }) else (false, s)

def declarationSubscriptionData (env : CreateEnv) (s : State E) (subData : E) : Bool × State E :=
  declareCallback .subscriptionDataHandler env s subData

def declarationServiceData (env : CreateEnv) (s : State E) (data : E) : Bool × State E :=
  declareCallback .requestHandler env s data

def undeclarationSubscriptionData (s : State E) (subData : E) : State E :=
  { s with declared := unregister s.declared subData }

def undeclarationServiceData (s : State E) (data : E) : State E :=
  { s with declared := unregister s.declared data }

def releaseData (teardown : State E → E → State E) (s : State E) (data : E) : Option (State E) :=
  (release s.heap data).bind fun r =>
    if r.2 then (destroy r.1 data).map fun heap => { teardown s data with heap := heap }
    else some { s with heap := r.1 }

def zenohPicoDestroySubscriptionData (s : State E) (subData : E) : Option (State E) :=
  releaseData undeclarationSubscriptionData s subData

/-- The queryable is not dropped here. -/
def zenohPicoDestroyServiceData (s : State E) (data : E) : Option (State E) :=
  releaseData (fun s _ => s) s data

/-- rmw_create_* behind its argument checks. A failed generation has declared
nothing. -/
def create (kind : Kind) (declaration : CreateEnv → State E → E → Bool × State E)
    (destroyData : State E → E → Option (State E)) (env : CreateEnv) (s : State E) (data : E) :
    Option (State E) :=
  if !env.data then some s
  else
    let s := { s with heap := generate s.heap data }
    if !env.handle then destroyData s data
    else
      match declaration env s data with
      | (false, s) => destroyData s data
      | (true, s) => some { s with handles := Function.update s.handles data (some kind) }

def rmwCreateSubscription (env : CreateEnv) (s : State E) (subData : E) : Option (State E) :=
  create .subscription declarationSubscriptionData zenohPicoDestroySubscriptionData env s subData

def rmwCreateService (env : CreateEnv) (s : State E) (serviceData : E) : Option (State E) :=
  create .service declarationServiceData zenohPicoDestroyServiceData env s serviceData

def rmwCreateClient (env : CreateEnv) (s : State E) (clientData : E) : Option (State E) :=
  create .client declarationServiceData zenohPicoDestroyServiceData env s clientData

def dropHandle (s : State E) (data : E) : State E :=
  { s with handles := Function.update s.handles data none }

def rmwDestroySubscription (s : State E) (subData : E) : Option (State E) :=
  (zenohPicoDestroySubscriptionData (undeclarationSubscriptionData s subData) subData).map
    fun s => dropHandle s subData

def rmwDestroyService (s : State E) (serviceData : E) : Option (State E) :=
  (zenohPicoDestroyServiceData (undeclarationServiceData s serviceData) serviceData).map
    fun s => dropHandle s serviceData

def rmwDestroyClient (s : State E) (clientData : E) : Option (State E) :=
  (zenohPicoDestroyServiceData (undeclarationServiceData s clientData) clientData).map
    fun s => dropHandle s clientData

def rmwSendRequest (s : State E) (clientData : E) (sent : Bool) : Option (State E) :=
  if !(s.heap clientData).isLive then none
  else if sent then some { s with pending := register s.pending s.issued clientData, issued := s.issued + 1 }
  else some s

def invoke (s : State E) (ctx : E) : Option (State E) :=
  if (s.heap ctx).isLive then some s else none

/-- The calls of the application, and those of zenoh-pico. The data of a new
endpoint has an address of its own. -/
inductive Label (E : Type)
  | create (kind : Kind) (data : E) (env : CreateEnv)
  | destroy (kind : Kind) (data : E)
  | sendRequest (clientData : E) (sent : Bool)
  | message (ctx : E) (handler : Handler)
  | reply (query : Nat) (ctx : E)
  | finalReply (query : Nat)

def machine : Machine (State E) (Label E)
  | s, .create kind data env =>
      if s.heap data = .absent then
        match kind with
        | .subscription => rmwCreateSubscription env s data
        | .service => rmwCreateService env s data
        | .client => rmwCreateClient env s data
      else none
  | s, .destroy kind data =>
      if s.handles data = some kind then
        match kind with
        | .subscription => rmwDestroySubscription s data
        | .service => rmwDestroyService s data
        | .client => rmwDestroyClient s data
      else none
  | s, .sendRequest clientData sent =>
      if s.handles clientData = some .client then rmwSendRequest s clientData sent else none
  | s, .message ctx handler => if (ctx, handler) ∈ s.declared then invoke s ctx else none
  | s, .reply query ctx => if (query, ctx) ∈ s.pending then invoke s ctx else none
  | s, .finalReply query => some { s with pending := unregister s.pending query }

def handlerOf : Kind → Handler
  | .subscription => .subscriptionDataHandler
  | .service | .client => .requestHandler

/-- One callback is declared for every endpoint, and none for anything else.
No callback has a context that was freed. -/
structure Attached (s : State E) : Prop where
  declared : Represents s.declared fun e => (s.handles e).map handlerOf
  contexts : ∀ e, (∃ handler, (e, handler) ∈ s.declared) ∨ (∃ query, (query, e) ∈ s.pending) →
    (s.heap e).isLive = true

/-- A service or a client does not fail between its queryable and its token,
and a client is not destroyed before the last reply to its queries. -/
def Sound (s : State E) : Label E → Prop
  | .create kind data env => kind ≠ .subscription → s.heap data = .absent → env.data = true →
      env.handle = true → env.callback = true → env.token = true
  | .destroy .client data => s.handles data = some .client → ∀ query, (query, data) ∉ s.pending
  | _ => True

structure Inv (s : State E) : Prop where
  declared : Represents s.declared fun e => (s.handles e).map handlerOf
  handle : ∀ e kind, s.handles e = some kind → s.heap e = .live 1
  pending : ∀ query e, (query, e) ∈ s.pending → s.handles e = some .client

section Steps

variable {s t : State E} {e : E} {kind : Kind} {env : CreateEnv}

theorem releaseData_owned {teardown : State E → E → State E} (h : s.heap e = .live 1) :
    releaseData teardown s e = some { teardown s e with heap := Function.update s.heap e .freed } := by
  simp [releaseData, release, refDec, destroy, h]

omit [DecidableEq E] in
theorem Inv.attached (hs : Inv s) : Attached s := by
  refine ⟨hs.declared, ?_⟩
  have hlive : ∀ e kind, s.handles e = some kind → (s.heap e).isLive = true := by
    intro e kind hkind
    rw [hs.handle e kind hkind]
    rfl
  rintro e (⟨handler, hmem⟩ | ⟨query, hmem⟩)
  · obtain ⟨kind, hkind, -⟩ := Option.map_eq_some_iff.mp ((hs.declared.mem_iff e handler).mp hmem)
    exact hlive e kind hkind
  · exact hlive e .client (hs.pending query e hmem)

omit [DecidableEq E] in
theorem Inv.fresh (hs : Inv s) (h : s.heap e = .absent) : s.handles e = none := by
  cases hkind : s.handles e with
  | none => rfl
  | some kind =>
      rw [hs.handle e kind hkind] at h
      cases h

theorem Inv.setHeap (hs : Inv s) (he : s.handles e = none) (c : Cell) :
    Inv { s with heap := Function.update s.heap e c } := by
  refine ⟨hs.declared, ?_, hs.pending⟩
  intro e' kind hkind
  have hne : e' ≠ e := by
    rintro rfl
    rw [he] at hkind
    cases hkind
  rw [← hs.handle e' kind hkind]
  exact Function.update_of_ne hne ..

theorem map_update (handles : E → Option Kind) (e : E) (kind : Option Kind) :
    (fun e' => (Function.update handles e kind e').map handlerOf) =
      Function.update (fun e' => (handles e').map handlerOf) e (kind.map handlerOf) := by
  funext e'
  by_cases he : e' = e
  · subst he
    simp
  · simp [he]

theorem Inv.undeclare (hs : Inv s) (he : s.handles e = none) :
    Inv { s with declared := unregister s.declared e } := by
  refine ⟨?_, hs.handle, hs.pending⟩
  have hnone := unregister_represents hs.declared e
  have hsame : Function.update s.handles e none = s.handles := by
    rw [← he]
    exact Function.update_eq_self ..
  rwa [← Option.map_none, ← map_update, hsame] at hnone

theorem releaseData_new {teardown : State E → E → State E} {declared : Entries E Handler} :
    releaseData teardown { s with heap := generate s.heap e, declared := declared } e =
      some { teardown { s with heap := generate s.heap e, declared := declared } e with
        heap := Function.update s.heap e .freed } := by
  rw [releaseData_owned (Function.update_self ..)]
  simp only [generate, Function.update_idem]

theorem created_inv (hs : Inv s) (he : s.heap e = .absent) (kind : Kind) : Inv { s with
    heap := generate s.heap e
    declared := register s.declared e (handlerOf kind)
    handles := Function.update s.handles e (some kind) } := by
  have hnone := hs.fresh he
  refine ⟨?_, ?_, ?_⟩
  · simp only [map_update, Option.map_some]
    apply register_represents hs.declared
    rw [hnone]
    rfl
  · intro e' kind' hkind
    by_cases hee : e' = e
    · subst hee
      exact Function.update_self ..
    · simp only [Function.update_of_ne hee] at hkind
      simp only [generate, Function.update_of_ne hee]
      exact hs.handle e' kind' hkind
  · intro query e' hmem
    have hclient := hs.pending query e' hmem
    have hne : e' ≠ e := by
      rintro rfl
      rw [hnone] at hclient
      cases hclient
    simp only [Function.update_of_ne hne]
    exact hclient

theorem failed_inv (hs : Inv s) (he : s.heap e = .absent) :
    Inv { s with heap := Function.update s.heap e .freed } :=
  hs.setHeap (hs.fresh he) .freed

theorem undeclared_inv (hs : Inv s) (he : s.heap e = .absent) : Inv { s with
    heap := Function.update s.heap e .freed
    declared := unregister s.declared e } :=
  (failed_inv hs he).undeclare (hs.fresh he)

theorem revoked_inv (hs : Inv s) (he : s.heap e = .absent) (handler : Handler) : Inv { s with
    heap := Function.update s.heap e .freed
    declared := unregister (register s.declared e handler) e } := by
  have hrevoked : unregister (register s.declared e handler) e = unregister s.declared e := by
    simp [unregister, register, List.filter_append]
  rw [hrevoked]
  exact undeclared_inv hs he

theorem createSubscription_inv (hs : Inv s) (he : s.heap e = .absent)
    (h : rmwCreateSubscription env s e = some t) : Inv t := by
  unfold rmwCreateSubscription create at h
  cases hdata : env.data with
  | false =>
      simp only [hdata, Bool.not_false, if_true, Option.some.injEq] at h
      exact h ▸ hs
  | true =>
      cases hhandle : env.handle with
      | false =>
          simp only [hdata, hhandle, Bool.not_true, Bool.not_false, Bool.false_eq_true, if_false, if_true,
            zenohPicoDestroySubscriptionData, releaseData_new, Option.some.injEq] at h
          exact h ▸ undeclared_inv hs he
      | true =>
          simp only [hdata, hhandle, Bool.not_true, Bool.false_eq_true, if_false, declarationSubscriptionData,
            declareCallback] at h
          cases hcallback : env.callback with
          | false =>
              simp only [hcallback, Bool.false_eq_true, if_false, zenohPicoDestroySubscriptionData,
                releaseData_new, Option.some.injEq] at h
              exact h ▸ undeclared_inv hs he
          | true =>
              cases htoken : env.token with
              | false =>
                  simp only [hcallback, htoken, if_true, zenohPicoDestroySubscriptionData, releaseData_new,
                    Option.some.injEq] at h
                  exact h ▸ revoked_inv hs he _
              | true =>
                  simp only [hcallback, htoken, if_true, Option.some.injEq] at h
                  exact h ▸ created_inv hs he .subscription

theorem createService_declared (kind : Kind) (hdata : env.data = true) (hhandle : env.handle = true)
    (hcallback : env.callback = true) :
    create kind declarationServiceData zenohPicoDestroyServiceData env s e = some { s with
      heap := Function.update s.heap e (if env.token then .live 1 else .freed)
      declared := register s.declared e .requestHandler
      handles := if env.token then Function.update s.handles e (some kind) else s.handles } := by
  cases htoken : env.token with
  | false =>
      simp only [create, hdata, hhandle, Bool.not_true, Bool.false_eq_true, if_false, declarationServiceData,
        declareCallback, hcallback, htoken, if_true, zenohPicoDestroyServiceData, releaseData_new]
  | true =>
      simp only [create, hdata, hhandle, Bool.not_true, Bool.false_eq_true, if_false, declarationServiceData,
        declareCallback, hcallback, htoken, if_true, generate]

theorem createService_inv (hs : Inv s) (he : s.heap e = .absent) (hkind : handlerOf kind = .requestHandler)
    (hok : env.data = true → env.handle = true → env.callback = true → env.token = true)
    (h : create kind declarationServiceData zenohPicoDestroyServiceData env s e = some t) : Inv t := by
  by_cases hdeclared : env.data = true ∧ env.handle = true ∧ env.callback = true
  · obtain ⟨hdata, hhandle, hcallback⟩ := hdeclared
    rw [createService_declared kind hdata hhandle hcallback, hok hdata hhandle hcallback, Option.some.injEq] at h
    rw [← h, ← hkind]
    exact created_inv hs he kind
  · have hfailed : t = s ∨ t = { s with heap := Function.update s.heap e .freed } := by
      unfold create at h
      cases hdata : env.data with
      | false =>
          simp only [hdata, Bool.not_false, if_true, Option.some.injEq] at h
          exact Or.inl h.symm
      | true =>
          refine Or.inr ?_
          cases hhandle : env.handle with
          | false =>
              simp only [hdata, hhandle, Bool.not_true, Bool.not_false, Bool.false_eq_true, if_false, if_true,
                zenohPicoDestroyServiceData, releaseData_new, Option.some.injEq] at h
              exact h.symm
          | true =>
              have hcallback : env.callback = false := by
                rw [← Bool.not_eq_true]
                exact fun hc => hdeclared ⟨hdata, hhandle, hc⟩
              simp only [hdata, hhandle, hcallback, Bool.not_true, Bool.false_eq_true, if_false,
                declarationServiceData, declareCallback, zenohPicoDestroyServiceData, releaseData_new,
                Option.some.injEq] at h
              exact h.symm
    rcases hfailed with rfl | rfl
    · exact hs
    · exact failed_inv hs he

theorem destroyed_inv (hs : Inv s) (hp : ∀ query, (query, e) ∉ s.pending) : Inv { s with
    heap := Function.update s.heap e .freed
    declared := unregister s.declared e
    handles := Function.update s.handles e none } := by
  have hne : ∀ e' kind, Function.update s.handles e none e' = some kind → e' ≠ e := by
    rintro e' kind hkind rfl
    rw [Function.update_self] at hkind
    cases hkind
  refine ⟨?_, ?_, ?_⟩
  · simp only [map_update, Option.map_none]
    exact unregister_represents hs.declared e
  · intro e' kind hkind
    have he := hne e' kind hkind
    simp only [Function.update_of_ne he] at hkind ⊢
    exact hs.handle e' kind hkind
  · intro query e' hmem
    have he : e' ≠ e := by
      rintro rfl
      exact hp query hmem
    simp only [Function.update_of_ne he]
    exact hs.pending query e' hmem

theorem destroy_step (hs : Inv s) (he : s.handles e = some kind) :
    machine s (.destroy kind e) = some { s with
      heap := Function.update s.heap e .freed
      declared := unregister s.declared e
      handles := Function.update s.handles e none } := by
  have hfreed : ∀ (teardown : State E → E → State E), releaseData teardown (undeclarationServiceData s e) e =
      some { teardown (undeclarationServiceData s e) e with heap := Function.update s.heap e .freed } :=
    fun teardown => releaseData_owned (hs.handle e kind he)
  have htwice : unregister (unregister s.declared e) e = unregister s.declared e := by
    simp [unregister, List.filter_filter]
  simp only [machine, he, if_true]
  cases kind with
  | subscription =>
      change rmwDestroySubscription s e = _
      rw [rmwDestroySubscription, zenohPicoDestroySubscriptionData, undeclarationSubscriptionData,
        ← undeclarationServiceData, hfreed]
      simp only [Option.map_some, undeclarationSubscriptionData, undeclarationServiceData, dropHandle, htwice]
  | service =>
      change rmwDestroyService s e = _
      rw [rmwDestroyService, zenohPicoDestroyServiceData, hfreed]
      rfl
  | client =>
      change rmwDestroyClient s e = _
      rw [rmwDestroyClient, zenohPicoDestroyServiceData, hfreed]
      rfl

theorem step_inv {l : Label E} (hs : Inv s) (hok : Sound s l) (h : machine s l = some t) : Inv t := by
  cases l with
  | create kind data env =>
      by_cases he : s.heap data = .absent
      · simp only [machine, he, if_true] at h
        cases kind with
        | subscription => exact createSubscription_inv hs he h
        | service => exact createService_inv hs he rfl (hok (by decide) he) h
        | client => exact createService_inv hs he rfl (hok (by decide) he) h
      · simp [machine, he] at h
  | destroy kind data =>
      by_cases he : s.handles data = some kind
      · rw [destroy_step hs he, Option.some.injEq] at h
        rw [← h]
        apply destroyed_inv hs
        intro query hmem
        have hclient := hs.pending query data hmem
        rw [he, Option.some.injEq] at hclient
        subst hclient
        exact hok he query hmem
      · simp [machine, he] at h
  | sendRequest clientData sent =>
      simp only [machine, rmwSendRequest] at h
      split at h
      · rename_i he
        split at h
        · cases h
        · split at h
          · cases h
            refine ⟨hs.declared, hs.handle, ?_⟩
            intro query e hmem
            rcases List.mem_append.mp hmem with hold | hnew
            · exact hs.pending query e hold
            · cases List.mem_singleton.mp hnew
              exact he
          · cases h
            exact hs
      · cases h
  | message ctx handler =>
      simp only [machine, invoke, Option.ite_none_right_eq_some] at h
      obtain ⟨-, -, h⟩ := h
      cases h
      exact hs
  | reply query ctx =>
      simp only [machine, invoke, Option.ite_none_right_eq_some] at h
      obtain ⟨-, -, h⟩ := h
      cases h
      exact hs
  | finalReply query =>
      cases h
      exact ⟨hs.declared, hs.handle, fun q e hmem => hs.pending q e (List.mem_of_mem_filter hmem)⟩

omit [DecidableEq E] in
theorem initial_inv : Inv (initial : State E) := by
  refine ⟨empty_represents, ?_, ?_⟩
  · intro e kind hkind
    cases hkind
  · intro query e hmem
    cases hmem

theorem sound_of_attached {l : Label E} (hs : Inv s) (h : ∀ t, machine s l = some t → Attached t) :
    Sound s l := by
  cases l with
  | create kind data env =>
      intro hkind he hdata hhandle hcallback
      by_contra htoken
      have hstep : machine s (.create kind data env) = some { s with
          heap := Function.update s.heap data .freed
          declared := register s.declared data .requestHandler } := by
        have hdeclared := fun kind => createService_declared (s := s) (e := data) kind hdata hhandle hcallback
        simp only [htoken, if_false] at hdeclared
        cases kind with
        | subscription => exact absurd rfl hkind
        | service =>
            simp only [machine, he, if_true]
            exact hdeclared .service
        | client =>
            simp only [machine, he, if_true]
            exact hdeclared .client
      have hlive := (h _ hstep).contexts data (Or.inl ⟨.requestHandler, List.mem_append_right _ (by simp)⟩)
      simp [Cell.isLive] at hlive
  | destroy kind data =>
      cases kind with
      | client =>
          intro he query hmem
          have hattached := h _ (destroy_step hs he)
          have hlive := hattached.contexts data (Or.inr ⟨query, hmem⟩)
          simp [Cell.isLive] at hlive
      | subscription | service => trivial
  | sendRequest | message | reply | finalReply => trivial

end Steps

/-- Over every run of creations that may fail, destructions, requests, messages
and replies, zenoh-pico has one callback for each live endpoint and never calls
one whose context was freed, exactly as long as no service or client fails
between its queryable and its token and no client is destroyed before the last
reply. -/
theorem contexts_live_iff (ls : List (Label E)) :
    Always machine Attached (initial : State E) ls ↔ Every machine Sound initial ls := by
  constructor
  · exact every_of_always_of_invariant (fun _ _ _ => step_inv) (fun _ _ => sound_of_attached) initial_inv
  · intro he
    exact always_mono (fun _ => Inv.attached) (always_of_every (fun _ _ _ => step_inv) initial_inv he)

example : (run machine (initial : State Nat) [.create .client 0 ⟨true, true, true, true⟩, .sendRequest 0 true,
    .destroy .client 0, .reply 0 0]).isNone := by
  decide

end RmwZenohPico.CallbackContexts
