import RmwZenohPico.Session

namespace RmwZenohPico.ConnectRetry

open Lib.LabelledMachine RmwTypes Session

variable {K : Type}

structure Connection (K : Type) where
  session : ZenohPicoSession K
  returned : List RmwRet

def connect : Machine (Connection K) ConnectOutcome := fun s outcome =>
  let (ret, session) := sessionConnect s.session outcome
  some ⟨session, s.returned ++ [ret]⟩

def generated (session : ZenohPicoSession K) (config : K) (enclave : String) : Connection K :=
  ⟨zenohPicoGenerateSession session config (some enclave), []⟩

/-- The session is enabled once a call has succeeded, and until then it is
opened with the configuration of rmw_init. -/
structure Retried (config : K) (s : Connection K) (outcomes : List ConnectOutcome) : Prop where
  enabled : Always connect (fun s => s.session.enableSession = true ↔ .ok ∈ s.returned) s outcomes
  configured : Every connect (fun s _ => s.session.enableSession = false → s.session.config = some config)
    s outcomes

def connects (outcome : ConnectOutcome) : Bool :=
  outcome.opened && outcome.readTask && outcome.leaseTask

def FirstSucceeds : List ConnectOutcome → Prop
  | outcome :: _ :: _ => connects outcome = true
  | _ => True

theorem connect_cases {s s' : Connection K} {outcome : ConnectOutcome} (h : connect s outcome = some s') :
    (s.session.enableSession = true ∧ s' = ⟨s.session, s.returned ++ [.ok]⟩) ∨
      (s.session.enableSession = false ∧ connects outcome = true ∧
        s'.session.enableSession = true ∧ s'.returned = s.returned ++ [.ok]) ∨
      (s.session.enableSession = false ∧ connects outcome = false ∧
        s'.session.enableSession = false ∧ s'.session.config = none ∧ s'.returned = s.returned ++ [.error]) := by
  obtain ⟨opened, readTask, leaseTask⟩ := outcome
  cases henabled : s.session.enableSession with
  | true =>
      left
      simp only [connect, sessionConnect, henabled, if_true, Option.some.injEq] at h
      exact ⟨rfl, h.symm⟩
  | false =>
      right
      cases opened with
      | false =>
          simp only [connect, sessionConnect, henabled, Bool.false_eq_true, if_false, Bool.not_false, if_true,
            Option.some.injEq] at h
          subst h
          exact .inr ⟨rfl, rfl, rfl, rfl, rfl⟩
      | true =>
          cases htasks : readTask && leaseTask with
          | false =>
              simp only [connect, sessionConnect, henabled, htasks, Bool.false_eq_true, if_false, Bool.not_true,
                Bool.not_false, if_true, Option.some.injEq] at h
              subst h
              exact .inr ⟨rfl, by simpa [connects] using htasks, rfl, rfl, rfl⟩
          | true =>
              simp only [connect, sessionConnect, henabled, htasks, Bool.false_eq_true, if_false, Bool.not_true,
                Option.some.injEq] at h
              subst h
              exact .inl ⟨rfl, by simpa [connects] using htasks, rfl, rfl⟩

theorem generated_eq {session : ZenohPicoSession K} (h : session.ref = 0) (config : K) (enclave : String) :
    (generated session config enclave).session.enableSession = false ∧
      (generated session config enclave).session.config = some config := by
  rw [generated, generate_first h]
  exact ⟨rfl, rfl⟩

theorem connect_enabled {s s' : Connection K} {outcome : ConnectOutcome}
    (h : s.session.enableSession = true ↔ .ok ∈ s.returned) (hs : connect s outcome = some s') :
    s'.session.enableSession = true ↔ .ok ∈ s'.returned := by
  rcases connect_cases hs with
    ⟨henabled, rfl⟩ | ⟨-, -, henabled, hreturned⟩ | ⟨hbefore, -, henabled, -, hreturned⟩
  · simp [henabled]
  · simp [henabled, hreturned]
  · have hnone : .ok ∉ s.returned := fun hm => by
      rw [h.mpr hm] at hbefore
      cases hbefore
    simp [henabled, hreturned, hnone]

theorem connect_stays {s s' : Connection K} {outcome : ConnectOutcome}
    (h : s.session.enableSession = true) (hs : connect s outcome = some s') :
    s'.session.enableSession = true := by
  rcases connect_cases hs with ⟨henabled, rfl⟩ | ⟨hbefore, -⟩ | ⟨hbefore, -⟩
  · exact henabled
  · rw [h] at hbefore
    cases hbefore
  · rw [h] at hbefore
    cases hbefore

theorem enabled_configured {s : Connection K} (config : K) (h : s.session.enableSession = true)
    (outcomes : List ConnectOutcome) :
    Every connect (fun s _ => s.session.enableSession = false → s.session.config = some config)
      s outcomes := by
  have hstep : ∀ (s : Connection K) o t, s.session.enableSession = true → True → connect s o = some t →
      t.session.enableSession = true := fun s o t hs _ ht => connect_stays hs ht
  refine every_of_invariant hstep ?_ h (every_true connect s outcomes)
  intro s o henabled _ hdisabled
  rw [henabled] at hdisabled
  cases hdisabled

theorem configured_iff {session : ZenohPicoSession K} (h : session.ref = 0) (config : K) (enclave : String)
    (outcomes : List ConnectOutcome) :
    Every connect (fun s _ => s.session.enableSession = false → s.session.config = some config)
      (generated session config enclave) outcomes ↔ FirstSucceeds outcomes := by
  obtain ⟨hdisabled, hconfig⟩ := generated_eq h config enclave
  match outcomes with
  | [] => exact ⟨fun _ => trivial, fun _ => trivial⟩
  | [outcome] => exact ⟨fun _ => trivial, fun _ => ⟨fun _ => hconfig, fun _ _ => trivial⟩⟩
  | outcome :: next :: rest =>
      constructor
      · rintro ⟨-, hrest⟩
        obtain ⟨s, hs⟩ : ∃ s, connect (generated session config enclave) outcome = some s := ⟨_, rfl⟩
        rcases connect_cases hs with ⟨henabled, -⟩ | ⟨-, hsucceeds, -⟩ | ⟨-, -, hfailed, hnone, -⟩
        · rw [hdisabled] at henabled
          cases henabled
        · exact hsucceeds
        · have hlost := (hrest s hs).1 hfailed
          rw [hnone] at hlost
          cases hlost
      · intro hsucceeds
        refine ⟨fun _ => hconfig, ?_⟩
        intro s hs
        rcases connect_cases hs with ⟨henabled, -⟩ | ⟨-, -, henabled, -⟩ | ⟨-, hfails, -⟩
        · rw [hdisabled] at henabled
          cases henabled
        · exact enabled_configured config henabled _
        · have hcontra : connects outcome = true := hsucceeds
          rw [hfails] at hcontra
          cases hcontra

/-- Connecting can be retried exactly if it does not have to be. -/
theorem connect_retried_iff {session : ZenohPicoSession K} (h : session.ref = 0) (config : K)
    (enclave : String) (outcomes : List ConnectOutcome) :
    Retried config (generated session config enclave) outcomes ↔ FirstSucceeds outcomes := by
  constructor
  · intro hretried
    exact (configured_iff h config enclave outcomes).mp hretried.configured
  · intro hfirst
    refine ⟨?_, (configured_iff h config enclave outcomes).mpr hfirst⟩
    refine always_of_every (fun s o t hs _ ht => connect_enabled hs ht) ?_ (every_true connect _ outcomes)
    rw [(generated_eq h config enclave).1]
    simp [generated]

def succeeding : ConnectOutcome := ⟨true, true, true⟩

theorem router_up_retried :
    Retried 7 (generated (zeroSession : ZenohPicoSession Nat) 7 "/") [succeeding, succeeding] :=
  (connect_retried_iff (show (zeroSession : ZenohPicoSession Nat).ref = 0 from rfl) 7 "/"
    [succeeding, succeeding]).mpr rfl

/-- A router that is down at the first call, and a task that cannot be started:
the second call opens the session with no configuration. -/
theorem router_down_lost :
    ¬Retried 7 (generated (zeroSession : ZenohPicoSession Nat) 7 "/") [⟨false, true, true⟩, succeeding] ∧
      ¬Retried 7 (generated (zeroSession : ZenohPicoSession Nat) 7 "/") [⟨true, true, false⟩, succeeding] := by
  have hzero : (zeroSession : ZenohPicoSession Nat).ref = 0 := rfl
  constructor
  · intro h
    exact absurd ((configured_iff hzero 7 "/" _).mp h.configured) (by simp [FirstSucceeds, connects])
  · intro h
    exact absurd ((configured_iff hzero 7 "/" _).mp h.configured) (by simp [FirstSucceeds, connects])

end RmwZenohPico.ConnectRetry
