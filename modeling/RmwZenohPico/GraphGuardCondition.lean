import RmwZenohPico.ConditionObjects

namespace RmwZenohPico.GraphGuardCondition

open Lib.LabelledMachine RmwTypes ConditionObjects
open Session hiding State Label machine initial

variable {C K N G W : Type}

def Live (s : Session.State C K) : Prop := 0 < s.session.ref

structure GraphObject (s : State C K N G W) (a : Nat) : Prop where
  data : (graphGuardCondition s).data = .object a
  live : (s.object a).isSome
  own : ∀ g condition, s.conditions g = some condition → condition.data ≠ .object a

def Owned (s : State C K N G W) : Prop := Live s.session → ∃ a, GraphObject s a

def followed (s : State C K N G W) : Label C N G W → List DataPointer
  | .trigger .graph =>
      match (s.condition .graph).map triggerArguments with
      | some (.ok p) => [p]
      | _ => []
  | .wait w =>
      match s.waiter w with
      | .attach _ ((.graph, p) :: _) => if p = .null then [] else [p]
      | .detach ((.graph, p) :: _) => if p = .null then [] else [p]
      | _ => []
  | _ => []

def Acts (s : State C K N G W) (l : Label C N G W) : Prop :=
  ∀ p ∈ followed s l, ∃ a, p = .object a ∧ GraphObject s a

/-- A call that ends the session destroys its object, and no other call
destroys guard condition data for the session. -/
def Frees [DecidableEq C] (build : BuildOptions) (z : ZenohConfig K) (s : State C K N G W) :
    Label C N G W → Prop
  | .session l => ∀ ret s', sessionCall build z s.session l = some (ret, s') →
      (Live s.session ∧ ¬Live s' → ∃ a, GraphObject s a ∧ destroyed s.session s' = [.object a]) ∧
      (¬(Live s.session ∧ ¬Live s') → destroyed s.session s' = [])
  | _ => True

/-- The data of the session is its object as long as it is live, the calls act
on that object, and the end of the session frees it. -/
structure Sound [DecidableEq C] [DecidableEq N] [DecidableEq G] [DecidableEq W] (build : BuildOptions)
    (z : ZenohConfig K) (s : State C K N G W) (ls : List (Label C N G W)) : Prop where
  owned : Always (machine build z) Owned s ls
  acts : Every (machine build z) Acts s ls
  frees : Every (machine build z) (Frees build z) s ls

def InitAccepted (build : BuildOptions) (z : ZenohConfig K) (s : Session.State C K) :
    Session.Label C → Prop
  | .init (some options) (some c) => ∃ params enclave,
      initArguments options (s.contexts c) = .ok (params, enclave) ∧ (transportConfig build z params).isSome
  | _ => False

def Starts (build : BuildOptions) (z : ZenohConfig K) (s : State C K N G W) : Label C N G W → Prop
  | .session l => InitAccepted build z s.session l
  | _ => False

structure Unstarted (s : State C K N G W) : Prop where
  ref : s.session.session.ref = 0
  free : ∀ c, (s.session.contexts c).impl = false
  nodes : s.nodes = []
  obtained : s.obtained = false
  waiter : ∀ w, ∀ e ∈ (s.waiter w).entries, e.1 ≠ .graph

section Session

variable [DecidableEq C] {build : BuildOptions} {z : ZenohConfig K} {s s' : Session.State C K}

theorem call_unstarted {l : Session.Label C} {ret : RmwRet} (hfree : ∀ c, (s.contexts c).impl = false)
    (hl : ¬InitAccepted build z s l) (hcall : sessionCall build z s l = some (ret, s')) :
    s'.session = s.session ∧ (∀ c, (s'.contexts c).impl = false) ∧ s'.teardowns = s.teardowns := by
  have hset : ∀ c context, context.impl = false → ∀ d, ((s.setContext c context).contexts d).impl = false := by
    intro c context himpl d
    by_cases hd : d = c
    · subst hd
      simpa [Session.State.setContext] using himpl
    · simpa [Session.State.setContext, hd] using hfree d
  have hnone : ∀ c, ¬Session.Holds s c := by
    intro c
    simp [Session.Holds, hfree c]
  cases call_cases hcall with
  | refused => exact ⟨rfl, hfree, rfl⟩
  | init options c =>
      rcases initArguments_cases options (s.contexts c) with
        ⟨ret, hargs, -⟩ | ⟨params, enclave, hargs, -, -, -⟩
      · have hsame : (rmwInit build z s options c).2 = s := by simp only [rmwInit, hargs]
        rw [hsame]
        exact ⟨rfl, hfree, rfl⟩
      · have hconfig : transportConfig build z params = none := by
          by_contra hsome
          exact hl ⟨params, enclave, hargs, Option.isSome_iff_ne_none.mpr hsome⟩
        simp only [rmwInit, hargs, hconfig]
        exact ⟨rfl, hset c _ (hfree c), rfl⟩
  | shutdown c ret s' h =>
      rcases shutdown_cases h with ⟨-, r, hc, -⟩ | ⟨-, -, rfl⟩ | ⟨-, -, hs'⟩
      · exact absurd hc (hnone c)
      · exact ⟨rfl, hset c _ rfl, rfl⟩
      · subst s'
        exact ⟨rfl, hfree, rfl⟩
  | contextFini c ret s' h =>
      obtain ⟨-, ⟨r, hc, -⟩ | ⟨-, hs'⟩⟩ := contextFini_cases h
      · exact absurd hc (hnone c)
      · subst s'
        exact ⟨rfl, hfree, rfl⟩
  | connect c outcome hc =>
      rw [Session.Holds, hfree c] at hc
      cases hc

theorem call_starts {l : Session.Label C} (href : s.session.ref = 0) (hl : InitAccepted build z s l) :
    ∃ s', sessionCall build z s l = some (.ok, s') ∧ Live s' ∧ s'.teardowns = s.teardowns ∧
      s'.session.graphGuardCondition = ⟨some rmwGetImplementationIdentifier, .function⟩ := by
  cases l with
  | init options c =>
      cases options with
      | none => exact hl.elim
      | some options =>
          cases c with
          | none => exact hl.elim
          | some c =>
              obtain ⟨params, enclave, hargs, hsome⟩ := hl
              obtain ⟨config, hconfig⟩ := Option.isSome_iff_exists.mp hsome
              have hfirst := generate_first href config enclave
              refine ⟨(rmwInit build z s options c).2, ?_, ?_, ?_, ?_⟩
              · simp [sessionCall, call, rmwInit, hargs, hconfig]
              · simp [rmwInit, hargs, hconfig, hfirst, Live, Session.State.setContext]
              · simp [rmwInit, hargs, hconfig, Session.State.setContext]
              · simp [rmwInit, hargs, hconfig, hfirst, Session.State.setContext]
  | shutdown c => exact hl.elim
  | contextFini c => exact hl.elim
  | connect c outcome => exact hl.elim

end Session

theorem initial_unstarted (contexts : C → RmwContext) : Unstarted (initial contexts : State C K N G W) where
  ref := rfl
  free _ := rfl
  nodes := rfl
  obtained := rfl
  waiter _ e he := by cases he

section Steps

variable [DecidableEq C] [DecidableEq N] [DecidableEq G] [DecidableEq W] {build : BuildOptions}
  {z : ZenohConfig K} {s t : State C K N G W} {l : Label C N G W}

omit [DecidableEq C] [DecidableEq N] [DecidableEq G] in
theorem Unstarted.setWaiter (hs : Unstarted s) {w : W} {v : Waiter G}
    (hv : ∀ e ∈ v.entries, e.1 ≠ .graph) (o : Objects W) :
    Unstarted { s with object := o, waiter := Function.update s.waiter w v } := by
  refine ⟨hs.ref, hs.free, hs.nodes, hs.obtained, ?_⟩
  intro w'
  by_cases hw : w' = w
  · subst hw
    simpa using hv
  · simpa [hw] using hs.waiter w'

theorem unstarted_step (hs : Unstarted s) (hl : ¬Starts build z s l) (h : machine build z s l = some t) :
    Unstarted t := by
  cases machine_cases h with
  | session l ret session hcall =>
      obtain ⟨hsession, hfree, -⟩ := call_unstarted hs.free hl hcall
      exact ⟨hsession ▸ hs.ref, hfree, hs.nodes, hs.obtained, hs.waiter⟩
  | createNode c n outcome ret session hcall => simp [sessionCall, call, hs.free c] at hcall
  | getGraphGuardCondition n hn =>
      rw [hs.nodes] at hn
      cases hn
  | createNothing => exact hs
  | createGuardCondition | destroyGuardCondition | trigger =>
      exact ⟨hs.ref, hs.free, hs.nodes, hs.obtained, hs.waiter⟩
  | waitCall w hs' entries hknown =>
      refine hs.setWaiter ?_ s.object
      intro e he hgraph
      have hcondition : (s.condition e.1).isSome := hknown e (by simpa [Waiter.entries] using he)
      simp [hgraph, State.condition, hs.obtained] at hcondition
  | wait w o v hsub hlive => exact hs.setWaiter (fun e he => hs.waiter w e (hsub he)) o

omit [DecidableEq C] [DecidableEq N] [DecidableEq G] [DecidableEq W] in
theorem Unstarted.owned (hs : Unstarted s) : Owned s := by
  intro hlive
  rw [Live, hs.ref] at hlive
  exact absurd hlive (by decide)

omit [DecidableEq C] [DecidableEq N] [DecidableEq G] [DecidableEq W] in
theorem Unstarted.followed (hs : Unstarted s) (l : Label C N G W) : followed s l = [] := by
  cases l with
  | trigger h =>
      cases h with
      | graph => simp [GraphGuardCondition.followed, State.condition, hs.obtained]
      | created g => rfl
  | wait w =>
      simp only [GraphGuardCondition.followed]
      split
      · rename_i entries p todo hw
        exact absurd rfl (hs.waiter w (.graph, p) (by simp [hw, Waiter.entries]))
      · rename_i p todo hw
        exact absurd rfl (hs.waiter w (.graph, p) (by simp [hw, Waiter.entries]))
      · rfl
  | session | createNode | getGraphGuardCondition | createGuardCondition | destroyGuardCondition
  | waitCall => rfl

omit [DecidableEq N] [DecidableEq G] [DecidableEq W] in
theorem Unstarted.frees (hs : Unstarted s) (hl : ¬Starts build z s l) : Frees build z s l := by
  cases l with
  | session l =>
      intro ret s' hcall
      obtain ⟨-, -, hteardowns⟩ := call_unstarted hs.free hl hcall
      refine ⟨?_, ?_⟩
      · rintro ⟨hlive, -⟩
        rw [Live, hs.ref] at hlive
        exact absurd hlive (by decide)
      · intro _
        simp [destroyed, hteardowns]
  | createNode | getGraphGuardCondition | createGuardCondition | destroyGuardCondition | trigger
  | waitCall | wait => trivial

theorem starts_unowned (hs : Unstarted s) (hl : Starts build z s l) :
    ∃ t, machine build z s l = some t ∧ ¬Owned t := by
  cases l with
  | session l =>
      obtain ⟨session, hcall, hlive, hteardowns, hgraph⟩ := call_starts hs.ref hl
      have hnone : destroyed s.session session = [] := by simp [destroyed, hteardowns]
      refine ⟨{ s with session := session }, ?_, ?_⟩
      · simp [machine, stepSession, hcall, hnone, destroyAll]
      · intro howned
        obtain ⟨a, ha⟩ := howned hlive
        have hdata := ha.data
        simp [graphGuardCondition, hgraph, sessionData] at hdata
  | createNode | getGraphGuardCondition | createGuardCondition | destroyGuardCondition | trigger
  | waitCall | wait => exact hl.elim

end Steps

section Undefined

variable [DecidableEq C] [DecidableEq N] [DecidableEq G] [DecidableEq W] {build : BuildOptions}
  {z : ZenohConfig K} {s t : State C K N G W} {l : Label C N G W}

theorem followed_dead {p : DataPointer} (hf : p ∈ followed s l) (hp : ∀ a, p = .object a → s.object a = none) :
    machine build z s l = none := by
  cases l with
  | trigger h =>
      cases h with
      | graph =>
          simp only [followed] at hf
          split at hf
          · rename_i p' harguments
            rw [List.mem_singleton.mp hf] at hp
            obtain ⟨condition, hcondition, hok⟩ := Option.map_eq_some_iff.mp harguments
            simp [machine, rmwTriggerGuardCondition, hcondition, hok, guardConditionTrigger, follow_dead hp]
          · cases hf
      | created g => cases hf
  | wait w =>
      simp only [followed] at hf
      split at hf
      · rename_i entries p' todo hw
        split at hf
        · cases hf
        · rename_i hne
          rw [List.mem_singleton.mp hf] at hp
          cases p' with
          | null => exact absurd rfl hne
          | function | object a => simp [machine, rmwWait, hw, attach_dead hp]
      · rename_i p' todo hw
        split at hf
        · cases hf
        · rename_i hne
          rw [List.mem_singleton.mp hf] at hp
          cases p' with
          | null => exact absurd rfl hne
          | function | object a => simp [machine, rmwWait, hw, guardConditionDetach, follow_dead hp]
      · cases hf
  | session | createNode | getGraphGuardCondition | createGuardCondition | destroyGuardCondition
  | waitCall => cases hf

def Generated (s : Session.State C K) : Prop :=
  Live s → s.session.graphGuardCondition = ⟨some rmwGetImplementationIdentifier, .function⟩

omit [DecidableEq C] [DecidableEq N] [DecidableEq G] [DecidableEq W] in
theorem connect_graph (session : ZenohPicoSession K) (outcome : ConnectOutcome) :
    (sessionConnect session outcome).2.graphGuardCondition = session.graphGuardCondition := by
  simp only [sessionConnect]
  split
  · rfl
  · split
    · rfl
    · split <;> rfl

theorem call_generated {s s' : Session.State C K} {l : Session.Label C} {ret : RmwRet} (hs : Generated s)
    (hcall : sessionCall build z s l = some (ret, s')) : Generated s' := by
  have hreleased : ∀ {r : ZenohPicoSession K × Option Teardown} {c : C} {context : RmwContext},
      zenohPicoDestroySession (fun _ => true) s.session = some r → Generated (s.giveBack r c context) := by
    intro r c context hr hlive
    obtain ⟨href, hgraph, -⟩ := destroySession_cases hr
    refine hgraph.trans (hs ?_)
    change 0 < r.1.ref at hlive
    rw [Live]
    omega
  cases call_cases hcall with
  | refused => exact hs
  | init options c =>
      unfold rmwInit
      split
      · exact hs
      · split
        · exact hs
        · intro _
          by_cases hlive : 0 < s.session.ref
          · simpa [Session.State.setContext, generate_held hlive] using hs hlive
          · simp [Session.State.setContext, zenohPicoGenerateSession, zenohPicoSessionRefClone, hlive]
  | shutdown c ret s' h =>
      rcases shutdown_cases h with ⟨-, r, -, hr, rfl⟩ | ⟨-, -, rfl⟩ | ⟨-, -, hs'⟩
      · exact hreleased hr
      · exact hs
      · subst s'
        exact hs
  | contextFini c ret s' h =>
      obtain ⟨-, ⟨r, -, hr, rfl⟩ | ⟨-, hs'⟩⟩ := contextFini_cases h
      · exact hreleased hr
      · subst s'
        exact hs
  | connect c outcome hc =>
      intro hlive
      have hlive' : 0 < (sessionConnect s.session outcome).2.ref := hlive
      rw [connect_ref] at hlive'
      exact (connect_graph s.session outcome).trans (hs hlive')

theorem generated_step (hs : Generated s.session) (h : machine build z s l = some t) :
    Generated t.session := by
  cases machine_cases h with
  | session l ret session hcall => exact call_generated hs hcall
  | createNode c n outcome ret session hcall => exact call_generated hs hcall
  | getGraphGuardCondition | createNothing | createGuardCondition | destroyGuardCondition | trigger
  | waitCall | wait => exact hs

/-- In a live session, a trigger of the guard condition that a node hands out
is undefined. -/
theorem live_trigger_undefined (contexts : C → RmwContext) (ls : List (Label C N G W)) :
    Always (machine build z) (fun s => Live s.session → s.obtained = true →
      machine build z s (.trigger .graph) = none) (initial contexts) ls := by
  have hinitial : Generated (initial contexts : State C K N G W).session := by
    intro hlive
    exact absurd hlive (Int.lt_irrefl 0)
  have hgenerated : Always (machine build z) (fun s => Generated s.session)
      (initial contexts : State C K N G W) ls :=
    always_of_every (fun _ _ _ hs _ h => generated_step hs h) hinitial (every_true _ _ _)
  refine always_mono ?_ hgenerated
  intro s hs hlive hobtained
  have hgraph := hs hlive
  refine followed_dead (p := .function) ?_ ?_
  · simp [followed, State.condition, hobtained, graphGuardCondition, hgraph, triggerArguments,
      checkTypeIdentifiersMatch, sessionData]
  · intro a ha
    cases ha

end Undefined

/-- The guard condition of the session is an object only as long as there is
no session. -/
theorem graph_sound_iff [DecidableEq C] [DecidableEq N] [DecidableEq G] [DecidableEq W] (build : BuildOptions)
    (z : ZenohConfig K) (contexts : C → RmwContext) (ls : List (Label C N G W)) :
    Sound build z (initial contexts) ls ↔
      Every (machine build z) (fun s l => ¬Starts build z s l) (initial contexts) ls := by
  have hinitial : Unstarted (initial contexts : State C K N G W) := initial_unstarted contexts
  have hstep : ∀ (s : State C K N G W) l t, Unstarted s → ¬Starts build z s l →
      machine build z s l = some t → Unstarted t := fun _ _ _ hs hl h => unstarted_step hs hl h
  constructor
  · intro h
    refine every_of_always_of_invariant hstep ?_ hinitial h.owned
    intro s l hs hnext hl
    obtain ⟨t, ht, hunowned⟩ := starts_unowned hs hl
    exact hunowned (hnext t ht)
  · intro h
    refine ⟨?_, ?_, ?_⟩
    · exact always_mono (fun _ hs => hs.owned) (always_of_every hstep hinitial h)
    · refine every_of_invariant hstep ?_ hinitial h
      intro s l hs _ p hp
      rw [hs.followed l] at hp
      cases hp
    · exact every_of_invariant hstep (fun _ _ hs hl => hs.frees hl) hinitial h

theorem first_init_unsound :
    ¬Sound plainBuild acceptingConfig (initial zeroContexts : State Unit Unit Unit Unit Unit)
      [.session (.init (some plainOptions) (some ()))] := by
  have haccepted : InitAccepted plainBuild acceptingConfig (Session.initial zeroContexts)
      (.init (some plainOptions) (some ())) := by
    refine ⟨⟨"", "", "", ""⟩, "", ?_, ?_⟩
    · simp [initArguments, plainOptions, checkTypeIdentifiersMatch, Session.initial, zeroContexts,
        rmwGetZeroInitializedContext]
    · simp [transportConfig, rmwZenohPicoSetUnicastConfig, rmwZenohPicoSetCommonConfig, plainBuild,
        insertNonempty]
  have hunstarted : Unstarted (initial zeroContexts : State Unit Unit Unit Unit Unit) :=
    initial_unstarted zeroContexts
  have hstarts : Starts plainBuild acceptingConfig (initial zeroContexts : State Unit Unit Unit Unit Unit)
      (.session (.init (some plainOptions) (some ()))) := haccepted
  obtain ⟨t, ht, hunowned⟩ := starts_unowned hunstarted hstarts
  intro h
  exact hunowned (always_head (always_cons h.owned ht))

end RmwZenohPico.GraphGuardCondition
