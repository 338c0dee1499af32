import RmwZenohPico.Session

namespace RmwZenohPico.ConditionObjects

open Lib.LabelledMachine RmwTypes Session

variable {C K N G W : Type}

inductive DataPointer
  | null
  | function
  | object (a : Nat)
  deriving DecidableEq

def sessionData : GuardConditionData → DataPointer
  | .null => .null
  | .function => .function

structure Condition where
  implementationIdentifier : Option String
  data : DataPointer

structure ConditionData (W : Type) where
  triggered : Bool
  waitSetData : Option W

abbrev Objects (W : Type) := Nat → Option (ConditionData W)

/-- Reading or writing through a pointer is undefined unless an object is
there. None in the place of the object is its end. -/
def follow (o : Objects W) (p : DataPointer)
    (f : ConditionData W → Option (ConditionData W)) : Option (Objects W) :=
  match p with
  | .object a => (o a).map fun d => Function.update o a (f d)
  | _ => none

def guardConditionTrigger (o : Objects W) (p : DataPointer) : Option (Objects W) :=
  follow o p fun d => some { d with triggered := true }

def guardConditionCheckAndAttach (o : Objects W) (p : DataPointer) (w : W) : Option (Objects W × Bool) :=
  match p with
  | .object a => (o a).map fun d =>
      if d.triggered then (o, true)
      else (Function.update o a (some { d with waitSetData := some w }), false)
  | _ => none

def guardConditionDetach (o : Objects W) (p : DataPointer) : Option (Objects W) :=
  follow o p fun d => some { d with waitSetData := none }

/-- The mutex of the object is dropped before the pointer is compared with
NULL. -/
def zenohPicoDestroyGuardConditionData (o : Objects W) (p : DataPointer) : Option (Objects W) :=
  follow o p fun _ => none

/-- The guard conditions of the application. The one of the session is known
once it was asked for. -/
inductive Handle (G : Type)
  | graph
  | created (g : G)

abbrev Entry (G : Type) := Handle G × DataPointer

inductive Waiter (G : Type)
  | idle
  | attach (entries todo : List (Entry G))
  | detach (todo : List (Entry G))

structure State (C K N G W : Type) where
  session : Session.State C K
  nodes : List N
  obtained : Bool
  next : Nat
  object : Objects W
  conditions : G → Option Condition
  waiter : W → Waiter G

def initial (contexts : C → RmwContext) : State C K N G W :=
  { session := Session.initial contexts
    nodes := []
    obtained := false
    next := 0
    object := fun _ => none
    conditions := fun _ => none
    waiter := fun _ => .idle }

/-- A creation of a node that fails is no more than its connection. -/
inductive Label (C N G W : Type)
  | session (l : Session.Label C)
  | createNode (c : C) (n : N) (outcome : ConnectOutcome)
  | getGraphGuardCondition (n : N)
  | createGuardCondition (g : G) (handle data : Bool)
  | destroyGuardCondition (g : G)
  | trigger (h : Handle G)
  | waitCall (w : W) (hs : List (Handle G))
  | wait (w : W)

def graphGuardCondition (s : State C K N G W) : Condition :=
  ⟨s.session.session.graphGuardCondition.implementationIdentifier,
    sessionData s.session.session.graphGuardCondition.data⟩

def State.condition (s : State C K N G W) : Handle G → Option Condition
  | .graph => if s.obtained then some (graphGuardCondition s) else none
  | .created g => s.conditions g

def triggerArguments (condition : Condition) : Except RmwRet DataPointer :=
  if !checkTypeIdentifiersMatch condition.implementationIdentifier then .error .incorrectRmwImplementation
  else if condition.data = .null then .error .invalidArgument
  else .ok condition.data

def destroyed (s s' : Session.State C K) : List DataPointer :=
  (s'.teardowns.drop s.teardowns.length).map fun teardown => sessionData teardown.destroyed

def destroyAll (o : Objects W) : List DataPointer → Option (Objects W)
  | [] => some o
  | p :: ps => (zenohPicoDestroyGuardConditionData o p).bind fun o => destroyAll o ps

section Functions

variable [DecidableEq C] [DecidableEq N] [DecidableEq G] [DecidableEq W]

def zenohPicoGuardConditionData (s : State C K N G W) (data : Bool) : State C K N G W × DataPointer :=
  if data then
    ({ s with next := s.next + 1, object := Function.update s.object s.next (some ⟨false, none⟩) },
      .object s.next)
  else (s, .null)

def rmwCreateGuardCondition (s : State C K N G W) (g : G) (handle data : Bool) : State C K N G W :=
  if handle then
    let (s, conditionData) := zenohPicoGuardConditionData s data
    if conditionData = .null then s
    else { s with
      conditions := Function.update s.conditions g
        (some ⟨some rmwGetImplementationIdentifier, conditionData⟩) }
  else s

def rmwDestroyGuardCondition (s : State C K N G W) (g : G) : Option (State C K N G W) :=
  (s.conditions g).bind fun condition =>
    let s := { s with conditions := Function.update s.conditions g none }
    if condition.data = .null then some s
    else (zenohPicoDestroyGuardConditionData s.object condition.data).map fun o => { s with object := o }

def rmwTriggerGuardCondition (s : State C K N G W) (h : Handle G) : Option (RmwRet × State C K N G W) :=
  (s.condition h).bind fun condition =>
    match triggerArguments condition with
    | .error ret => some (ret, s)
    | .ok p => (guardConditionTrigger s.object p).map fun o => (.ok, { s with object := o })

def rmwWait (s : State C K N G W) (w : W) : Option (State C K N G W) :=
  match s.waiter w with
  | .idle => none
  | .attach entries [] => some { s with waiter := Function.update s.waiter w (.detach entries) }
  | .attach entries ((_, .null) :: todo) =>
      some { s with waiter := Function.update s.waiter w (.attach entries todo) }
  | .attach entries ((_, p) :: todo) =>
      (guardConditionCheckAndAttach s.object p w).map fun (o, triggered) => { s with
        object := o
        waiter := Function.update s.waiter w (if triggered then .detach entries else .attach entries todo) }
  | .detach [] => some { s with waiter := Function.update s.waiter w .idle }
  | .detach ((_, .null) :: todo) => some { s with waiter := Function.update s.waiter w (.detach todo) }
  | .detach ((_, p) :: todo) =>
      (guardConditionDetach s.object p).map fun o => { s with
        object := o
        waiter := Function.update s.waiter w (.detach todo) }

/-- What a teardown destroys is recorded by the call and looked up among the
objects afterwards. -/
def sessionCall (build : BuildOptions) (z : ZenohConfig K) (s : Session.State C K) (l : Session.Label C) :
    Option (RmwRet × Session.State C K) :=
  call (fun _ => true) build z s l

def stepSession (build : BuildOptions) (z : ZenohConfig K) (s : State C K N G W) (l : Session.Label C) :
    Option (State C K N G W) :=
  (sessionCall build z s.session l).bind fun (_, session) =>
    (destroyAll s.object (destroyed s.session session)).map fun o =>
      { s with session := session, object := o }

def rmwCreateNode (build : BuildOptions) (z : ZenohConfig K) (s : State C K N G W) (c : C) (n : N)
    (outcome : ConnectOutcome) : Option (State C K N G W) :=
  (sessionCall build z s.session (.connect c outcome)).map fun (ret, session) =>
    if ret = .ok then { s with session := session, nodes := n :: s.nodes } else { s with session := session }

def rmwNodeGetGraphGuardCondition (s : State C K N G W) (n : N) : Option (State C K N G W) :=
  if n ∈ s.nodes then some { s with obtained := true } else none

def machine (build : BuildOptions) (z : ZenohConfig K) : Machine (State C K N G W) (Label C N G W)
  | s, .session l => stepSession build z s l
  | s, .createNode c n outcome => rmwCreateNode build z s c n outcome
  | s, .getGraphGuardCondition n => rmwNodeGetGraphGuardCondition s n
  | s, .createGuardCondition g handle data =>
      if (s.conditions g).isNone then some (rmwCreateGuardCondition s g handle data) else none
  | s, .destroyGuardCondition g => rmwDestroyGuardCondition s g
  | s, .trigger h => (rmwTriggerGuardCondition s h).map Prod.snd
  | s, .waitCall w hs =>
      match s.waiter w with
      | .idle =>
          let entries := hs.filterMap fun h => (s.condition h).map fun condition => (h, condition.data)
          some { s with waiter := Function.update s.waiter w (.attach entries entries) }
      | _ => none
  | s, .wait w => rmwWait s w

end Functions

def Waiter.entries : Waiter G → List (Entry G)
  | .idle => []
  | .attach entries todo => entries ++ todo
  | .detach todo => todo

section Objects

variable {o o' : Objects W} {p : DataPointer} {f : ConditionData W → Option (ConditionData W)}

theorem follow_some (h : follow o p f = some o') :
    ∃ a d, p = .object a ∧ o a = some d ∧ o' = Function.update o a (f d) := by
  cases p with
  | null | function => cases h
  | object a =>
      obtain ⟨d, hd, rfl⟩ := Option.map_eq_some_iff.mp h
      exact ⟨a, d, rfl, hd, rfl⟩

theorem update_live {a : Nat} (ha : (o a).isSome) (d : ConditionData W) (b : Nat) :
    (Function.update o a (some d) b).isSome = (o b).isSome := by
  by_cases hb : b = a
  · subst hb
    simp [ha]
  · simp [hb]

theorem follow_live (h : follow o p f = some o') (hf : ∀ d, (f d).isSome) (b : Nat) :
    (o' b).isSome = (o b).isSome := by
  obtain ⟨a, d, rfl, hd, rfl⟩ := follow_some h
  obtain ⟨d', hd'⟩ := Option.isSome_iff_exists.mp (hf d)
  rw [hd', update_live (by simp [hd])]

theorem attach_live {w : W} {triggered : Bool} (h : guardConditionCheckAndAttach o p w = some (o', triggered))
    (b : Nat) : (o' b).isSome = (o b).isSome := by
  cases p with
  | null | function => cases h
  | object a =>
      obtain ⟨d, hd, he⟩ := Option.map_eq_some_iff.mp h
      split at he
      · cases he
        rfl
      · cases he
        exact update_live (by simp [hd]) _ b

theorem follow_dead (hp : ∀ a, p = .object a → o a = none)
    (f : ConditionData W → Option (ConditionData W)) : follow o p f = none := by
  cases p with
  | null | function => rfl
  | object a => simp [follow, hp a rfl]

theorem attach_dead (hp : ∀ a, p = .object a → o a = none) (w : W) :
    guardConditionCheckAndAttach o p w = none := by
  cases p with
  | null | function => rfl
  | object a => simp [guardConditionCheckAndAttach, hp a rfl]

end Objects

section Calls

variable [DecidableEq G] [DecidableEq W] {s t : State C K N G W}

omit [DecidableEq G] [DecidableEq W] in
theorem trigger_spec {h : Handle G} {ret : RmwRet} (ht : rmwTriggerGuardCondition s h = some (ret, t)) :
    ∃ o, t = { s with object := o } ∧ ∀ a, (o a).isSome = (s.object a).isSome := by
  obtain ⟨condition, -, hr⟩ := Option.bind_eq_some_iff.mp ht
  split at hr
  · cases hr
    exact ⟨s.object, rfl, fun _ => rfl⟩
  · obtain ⟨o, ho, he⟩ := Option.map_eq_some_iff.mp hr
    cases he
    exact ⟨o, rfl, follow_live ho fun _ => rfl⟩

omit [DecidableEq G] in
theorem wait_spec {w : W} (h : rmwWait s w = some t) :
    ∃ o v, t = { s with object := o, waiter := Function.update s.waiter w v } ∧
      v.entries ⊆ (s.waiter w).entries ∧ ∀ a, (o a).isSome = (s.object a).isSome := by
  unfold rmwWait at h
  split at h
  · cases h
  · rename_i entries hw
    cases h
    refine ⟨s.object, .detach entries, rfl, ?_, fun _ => rfl⟩
    simp [hw, Waiter.entries]
  · rename_i entries h' todo hw
    cases h
    refine ⟨s.object, .attach entries todo, rfl, ?_, fun _ => rfl⟩
    simp [hw, Waiter.entries]
  · rename_i entries h' p todo hp hw
    obtain ⟨⟨o, triggered⟩, ho, rfl⟩ := Option.map_eq_some_iff.mp h
    refine ⟨o, _, rfl, ?_, attach_live ho⟩
    cases triggered <;> simp [hw, Waiter.entries]
  · rename_i hw
    cases h
    refine ⟨s.object, .idle, rfl, ?_, fun _ => rfl⟩
    simp [Waiter.entries]
  · rename_i h' todo hw
    cases h
    refine ⟨s.object, .detach todo, rfl, ?_, fun _ => rfl⟩
    simp [hw, Waiter.entries]
  · rename_i h' p todo hp hw
    obtain ⟨o, ho, rfl⟩ := Option.map_eq_some_iff.mp h
    refine ⟨o, .detach todo, rfl, ?_, follow_live ho fun _ => rfl⟩
    simp [hw, Waiter.entries]

omit [DecidableEq W] in
theorem create_spec (s : State C K N G W) (g : G) (handle data : Bool) :
    rmwCreateGuardCondition s g handle data = s ∨
      rmwCreateGuardCondition s g handle data = { s with
        next := s.next + 1
        object := Function.update s.object s.next (some ⟨false, none⟩)
        conditions := Function.update s.conditions g
          (some ⟨some rmwGetImplementationIdentifier, .object s.next⟩) } := by
  cases handle with
  | false => exact .inl rfl
  | true =>
      cases data with
      | false => exact .inl rfl
      | true => exact .inr rfl

omit [DecidableEq W] in
theorem destroy_spec {g : G} (h : rmwDestroyGuardCondition s g = some t) :
    ∃ condition o, s.conditions g = some condition ∧
      t = { s with conditions := Function.update s.conditions g none, object := o } ∧
      (∀ a, condition.data ≠ .object a → o a = s.object a) ∧ ∀ a, (o a).isSome → (s.object a).isSome := by
  obtain ⟨condition, hg, hr⟩ := Option.bind_eq_some_iff.mp h
  dsimp only at hr
  split at hr
  · cases hr
    exact ⟨condition, s.object, hg, rfl, fun _ _ => rfl, fun _ => id⟩
  · obtain ⟨o, ho, rfl⟩ := Option.map_eq_some_iff.mp hr
    obtain ⟨b, d, hb, -, rfl⟩ := follow_some ho
    have hframe : ∀ a, a ≠ b → Function.update s.object b none a = s.object a :=
      fun a ha => Function.update_of_ne ha ..
    refine ⟨condition, _, hg, rfl, ?_, ?_⟩
    · intro a ha
      exact hframe a fun hab => ha (hab ▸ hb)
    · intro a ha
      by_cases hab : a = b
      · subst hab
        simp at ha
      · rwa [hframe a hab] at ha

omit [DecidableEq G] [DecidableEq W] in
/-- The session has no object to destroy, so a call that destroys something
for it is undefined. -/
theorem session_spec [DecidableEq C] {build : BuildOptions} {z : ZenohConfig K} {l : Session.Label C}
    (h : stepSession build z s l = some t) :
    ∃ ret session, sessionCall build z s.session l = some (ret, session) ∧ t = { s with session := session } := by
  obtain ⟨⟨ret, session⟩, hcall, hr⟩ := Option.bind_eq_some_iff.mp h
  obtain ⟨o, ho, rfl⟩ := Option.map_eq_some_iff.mp hr
  refine ⟨ret, session, hcall, ?_⟩
  unfold destroyed at ho
  cases hnew : session.teardowns.drop s.session.teardowns.length with
  | nil =>
      rw [hnew] at ho
      cases ho
      rfl
  | cons teardown rest =>
      rw [hnew] at ho
      cases hdata : teardown.destroyed <;>
        simp [destroyAll, zenohPicoDestroyGuardConditionData, sessionData, follow, hdata] at ho

end Calls

section Steps

variable [DecidableEq C] [DecidableEq N] [DecidableEq G] [DecidableEq W] {build : BuildOptions}
  {z : ZenohConfig K} {s t : State C K N G W} {l : Label C N G W}

inductive Step (build : BuildOptions) (z : ZenohConfig K) (s : State C K N G W) :
    Label C N G W → State C K N G W → Prop
  | session (l ret session) (hcall : sessionCall build z s.session l = some (ret, session)) :
      Step build z s (.session l) { s with session := session }
  | createNode (c n outcome ret session)
      (hcall : sessionCall build z s.session (.connect c outcome) = some (ret, session)) :
      Step build z s (.createNode c n outcome)
        { s with session := session, nodes := if ret = .ok then n :: s.nodes else s.nodes }
  | getGraphGuardCondition (n) (hn : n ∈ s.nodes) :
      Step build z s (.getGraphGuardCondition n) { s with obtained := true }
  | createNothing (g handle data) : Step build z s (.createGuardCondition g handle data) s
  | createGuardCondition (g handle data) (hg : s.conditions g = none) :
      Step build z s (.createGuardCondition g handle data) { s with
        next := s.next + 1
        object := Function.update s.object s.next (some ⟨false, none⟩)
        conditions := Function.update s.conditions g
          (some ⟨some rmwGetImplementationIdentifier, .object s.next⟩) }
  | destroyGuardCondition (g condition o) (hg : s.conditions g = some condition)
      (hframe : ∀ a, condition.data ≠ .object a → o a = s.object a)
      (hlive : ∀ a, (o a).isSome → (s.object a).isSome) :
      Step build z s (.destroyGuardCondition g)
        { s with conditions := Function.update s.conditions g none, object := o }
  | trigger (h o) (hlive : ∀ a, (o a).isSome = (s.object a).isSome) :
      Step build z s (.trigger h) { s with object := o }
  | waitCall (w hs entries) (hknown : ∀ e ∈ entries, (s.condition e.1).isSome) :
      Step build z s (.waitCall w hs) { s with waiter := Function.update s.waiter w (.attach entries entries) }
  | wait (w o v) (hsub : v.entries ⊆ (s.waiter w).entries) (hlive : ∀ a, (o a).isSome = (s.object a).isSome) :
      Step build z s (.wait w) { s with object := o, waiter := Function.update s.waiter w v }

theorem machine_cases (h : machine build z s l = some t) : Step build z s l t := by
  cases l with
  | session l =>
      obtain ⟨ret, session, hcall, rfl⟩ := session_spec h
      exact .session l ret session hcall
  | createNode c n outcome =>
      obtain ⟨⟨ret, session⟩, hcall, rfl⟩ := Option.map_eq_some_iff.mp h
      have hstep := Step.createNode (s := s) c n outcome ret session hcall
      dsimp only
      split
      · simpa [*] using hstep
      · simpa [*] using hstep
  | getGraphGuardCondition n =>
      simp only [machine, rmwNodeGetGraphGuardCondition, Option.ite_none_right_eq_some,
        Option.some.injEq] at h
      obtain ⟨hn, rfl⟩ := h
      exact .getGraphGuardCondition n hn
  | createGuardCondition g handle data =>
      simp only [machine, Option.ite_none_right_eq_some, Option.some.injEq] at h
      obtain ⟨hg, rfl⟩ := h
      rcases create_spec s g handle data with he | he
      · rw [he]
        exact .createNothing g handle data
      · rw [he]
        exact .createGuardCondition g handle data (Option.isNone_iff_eq_none.mp hg)
  | destroyGuardCondition g =>
      obtain ⟨condition, o, hg, rfl, hframe, hlive⟩ := destroy_spec h
      exact .destroyGuardCondition g condition o hg hframe hlive
  | trigger h' =>
      obtain ⟨⟨ret, _⟩, hr, rfl⟩ := Option.map_eq_some_iff.mp h
      obtain ⟨o, rfl, hlive⟩ := trigger_spec hr
      exact .trigger h' o hlive
  | waitCall w hs =>
      simp only [machine] at h
      split at h
      · cases h
        refine .waitCall w hs _ ?_
        intro e he
        obtain ⟨h', -, he⟩ := List.mem_filterMap.mp he
        obtain ⟨condition, hknown, rfl⟩ := Option.map_eq_some_iff.mp he
        exact Option.isSome_iff_exists.mpr ⟨condition, hknown⟩
      · cases h
  | wait w =>
      obtain ⟨o, v, rfl, hsub, hlive⟩ := wait_spec h
      exact .wait w o v hsub hlive

end Steps

section Created

variable [DecidableEq C] [DecidableEq N] [DecidableEq G] [DecidableEq W] {build : BuildOptions}
  {z : ZenohConfig K} {s t : State C K N G W} {l : Label C N G W}

/-- What the session misses: every guard condition of the application has an
object of its own. -/
structure CreatedOwned (s : State C K N G W) : Prop where
  owned : ∀ g condition, s.conditions g = some condition →
    ∃ a, condition.data = .object a ∧ (s.object a).isSome
  distinct : ∀ g g' condition condition', s.conditions g = some condition →
    s.conditions g' = some condition' → condition.data = condition'.data → g = g'
  fresh : ∀ a, (s.object a).isSome → a < s.next

omit [DecidableEq C] [DecidableEq N] [DecidableEq G] [DecidableEq W] in
theorem CreatedOwned.keep (hs : CreatedOwned s) (hc : t.conditions = s.conditions) (hn : t.next = s.next)
    (ho : ∀ a, (t.object a).isSome = (s.object a).isSome) : CreatedOwned t := by
  refine ⟨?_, ?_, ?_⟩
  · intro g condition hg
    rw [hc] at hg
    obtain ⟨a, ha, hlive⟩ := hs.owned g condition hg
    exact ⟨a, ha, by rw [ho, hlive]⟩
  · rw [hc]
    exact hs.distinct
  · intro a ha
    rw [ho] at ha
    rw [hn]
    exact hs.fresh a ha

theorem created_step (hs : CreatedOwned s) (h : machine build z s l = some t) : CreatedOwned t := by
  cases machine_cases h with
  | session | createNode | getGraphGuardCondition | waitCall => exact hs.keep rfl rfl fun _ => rfl
  | createNothing => exact hs
  | trigger h o hlive => exact hs.keep rfl rfl hlive
  | wait w o v hsub hlive => exact hs.keep rfl rfl hlive
  | createGuardCondition g handle data hg =>
      have hnew : ∀ g' condition, s.conditions g' = some condition → condition.data ≠ .object s.next := by
        intro g' condition hg' hdata
        obtain ⟨a, ha, hlive⟩ := hs.owned g' condition hg'
        rw [hdata, DataPointer.object.injEq] at ha
        exact Nat.lt_irrefl _ (hs.fresh s.next (ha ▸ hlive))
      have hcases : ∀ {g' condition}, Function.update s.conditions g
          (some ⟨some rmwGetImplementationIdentifier, .object s.next⟩) g' = some condition →
          (g' = g ∧ condition.data = .object s.next) ∨ s.conditions g' = some condition := by
        intro g' condition hg'
        by_cases he : g' = g
        · subst he
          rw [Function.update_self, Option.some.injEq] at hg'
          exact .inl ⟨rfl, hg' ▸ rfl⟩
        · rw [Function.update_of_ne he] at hg'
          exact .inr hg'
      refine ⟨?_, ?_, ?_⟩
      · intro g' condition hg'
        rcases hcases hg' with ⟨-, hdata⟩ | hold
        · exact ⟨s.next, hdata, by simp⟩
        · obtain ⟨a, ha, hlive⟩ := hs.owned g' condition hold
          have hne : a ≠ s.next := fun he => hnew g' condition hold (he ▸ ha)
          exact ⟨a, ha, by simpa [hne] using hlive⟩
      · intro g₁ g₂ condition₁ condition₂ h₁ h₂ hdata
        rcases hcases h₁ with ⟨rfl, hdata₁⟩ | hold₁
        · rcases hcases h₂ with ⟨rfl, -⟩ | hold₂
          · rfl
          · exact absurd (hdata.symm.trans hdata₁) (hnew g₂ condition₂ hold₂)
        · rcases hcases h₂ with ⟨rfl, hdata₂⟩ | hold₂
          · exact absurd (hdata.trans hdata₂) (hnew g₁ condition₁ hold₁)
          · exact hs.distinct g₁ g₂ condition₁ condition₂ hold₁ hold₂ hdata
      · intro a ha
        by_cases he : a = s.next
        · exact he ▸ Nat.lt_succ_self _
        · exact Nat.lt_succ_of_lt (hs.fresh a (by simpa [he] using ha))
  | destroyGuardCondition g condition o hg hframe hlive =>
      have hother : ∀ {g' condition'}, Function.update s.conditions g none g' = some condition' →
          g' ≠ g ∧ s.conditions g' = some condition' := by
        intro g' condition' hg'
        by_cases he : g' = g
        · subst he
          simp at hg'
        · exact ⟨he, by simpa [he] using hg'⟩
      refine ⟨?_, ?_, ?_⟩
      · intro g' condition' hg'
        obtain ⟨hne, hold⟩ := hother hg'
        obtain ⟨a, ha, ho⟩ := hs.owned g' condition' hold
        refine ⟨a, ha, ?_⟩
        have hdata : condition.data ≠ .object a :=
          fun hdata => hne (hs.distinct g' g condition' condition hold hg (ha.trans hdata.symm))
        show (o a).isSome
        rwa [hframe a hdata]
      · intro g₁ g₂ condition₁ condition₂ h₁ h₂
        exact hs.distinct g₁ g₂ condition₁ condition₂ (hother h₁).2 (hother h₂).2
      · intro a ha
        exact hs.fresh a (hlive a ha)

theorem created_owned (contexts : C → RmwContext) (ls : List (Label C N G W)) :
    Always (machine build z) CreatedOwned (initial contexts) ls := by
  refine always_of_every (fun _ _ _ hs _ h => created_step hs h) ?_ (every_true _ _ _)
  constructor
  · intro g condition hg
    cases hg
  · intro g g' condition condition' hg
    cases hg
  · intro a ha
    cases ha

end Created

end RmwZenohPico.ConditionObjects
