import RmwZenohPico.Routing

namespace RmwZenohPico.RequestPlaces

open Lib.LabelledMachine RmwTypes Attachment RosMessage Service Client ServiceNetwork

variable {C Req Res S B D : Type} [DecidableEq C]

/-- How often a query is found: on the way to the service, in its two queues,
on the way back, in the response queue of its client, and among the responses
that the client has taken. -/
def places (s : Network C Req Res B) (q : C × Nat) : Nat :=
  (s.queries.map (·.handle)).count q + (s.server.requestQueue.map (·.query)).count (some q) +
    (s.server.responseQueue.map (·.query)).count (some q) + (s.replies.map (·.query)).count (some q) +
    (s.origins q.1).count q + (s.responses.map Prod.fst).count q

def AtMostOnce (s : Network C Req Res B) : Prop :=
  ∀ q, places s q ≤ if q.2 < s.issued q.1 then 1 else 0

def ExactlyOnce (s : Network C Req Res B) : Prop :=
  ∀ q, places s q = if q.2 < s.issued q.1 then 1 else 0

/-- No step that moves a query fails. A request that cannot be deserialized is
not lost with that, since it stays in the response queue. -/
def Lossless (z : ZeSerializer S B D) (s : Network C Req Res B) : Label C Req Res → Prop
  | .sendRequest _ _ _ => True
  | .deliverQuery i _ alloc => i < s.queries.length → alloc.succeed
  | .takeRequest _ _ _ => True
  | .sendResponse q res env =>
      ∀ m info, takenWith s q = some (m, some info) →
        ∀ r, sendResponse z s.server info.requestId res env = some r → r.picked.isSome →
          r.ret = .ok ∧ r.reply.isSome
  | .deliverReply i _ alloc => i < s.replies.length → alloc.succeed
  | .takeResponse c _ res _ =>
      ∀ m ∈ (s.clients c).responseQueue.head?, Deserializes m (s.clients c).responseCallback res

structure Keeps (s t : Network C Req Res B) : Prop where
  issued : t.issued = s.issued
  places : ∀ q, places t q = places s q

structure Issues (s t : Network C Req Res B) (c : C) : Prop where
  issued : t.issued = Function.update s.issued c (s.issued c + 1)
  places : ∀ q, places t q = places s q + if q = (c, s.issued c) then 1 else 0

structure Loses (s t : Network C Req Res B) (lost : C × Nat) : Prop where
  issued : t.issued = s.issued
  places : ∀ q, places s q = places t q + if q = lost then 1 else 0

omit [DecidableEq C] in
theorem count_map_eraseIdx {α κ : Type} [BEq κ] [LawfulBEq κ] [DecidableEq κ] {xs : List α} {i : Nat} {x : α}
    (h : xs[i]? = some x) (f : α → κ) (k : κ) :
    (xs.map f).count k = ((xs.eraseIdx i).map f).count k + if f x = k then 1 else 0 := by
  rw [← ((erase_perm h).map f).count_eq, List.map_cons, List.count_cons]
  simp only [beq_iff_eq]

omit [DecidableEq C] in
theorem count_map_pickup {α κ : Type} [BEq κ] [LawfulBEq κ] [DecidableEq κ] {xs : List α} {func : α → Bool} {x : α}
    (h : (MessageQueue.pickup xs func).1 = some x) (f : α → κ) (k : κ) :
    (xs.map f).count k = ((MessageQueue.pickup xs func).2.map f).count k + if f x = k then 1 else 0 := by
  obtain ⟨hx, us, vs, rfl, hus⟩ := List.find?_eq_some_iff_append.mp h
  rw [MessageQueue.pickup_append_cons (fun y hy => by simpa using hus y hy) hx,
    (List.perm_middle.map f).count_eq, List.map_cons, List.count_cons]
  simp only [beq_iff_eq]

theorem stepSendRequest_places (z : ZeSerializer S B D) (s : Network C Req Res B) (c : C) (req : Req)
    (env : SendEnvironment) :
    Keeps s (stepSendRequest z s c req env) ∨ Issues s (stepSendRequest z s c req env) c := by
  simp only [stepSendRequest]
  split
  · right
    refine ⟨rfl, ?_⟩
    intro q
    simp only [places, List.map_append, List.map_cons, List.map_nil, List.count_append,
      List.count_singleton, beq_iff_eq, eq_comm (b := q)]
    omega
  · exact .inl ⟨rfl, fun _ => rfl⟩

theorem stepDeliverQuery_places {z : ZeSerializer S B D} {gid : Gid} {s t : Network C Req Res B}
    (h : Traced z gid s) {i : Nat} {recvTs : Int} {alloc : ReceiveAllocations}
    (hs : stepDeliverQuery z s i recvTs alloc = some t) :
    if alloc.succeed then Keeps s t else ∃ q, Loses s t q := by
  obtain ⟨query, hi, rfl⟩ := Option.map_eq_some_iff.mp hs
  obtain ⟨a, ha, -⟩ := h.queries query (List.mem_of_getElem? hi)
  have hcount (q : C × Nat) : (s.queries.map (·.handle)).count q =
      ((s.queries.eraseIdx i).map (·.handle)).count q + if q = query.handle then 1 else 0 := by
    rw [count_map_eraseIdx hi (·.handle) q]
    simp only [eq_comm]
  cases hm : rmwZenohPicoGenerateRecvQueryMsgData z query recvTs alloc with
  | none =>
      have halloc : alloc.succeed = false := by
        by_contra hne
        simp [rmwZenohPicoGenerateRecvQueryMsgData, hne, ha] at hm
      rw [halloc]
      refine ⟨query.handle, rfl, ?_⟩
      intro q
      simp only [places, requestHandler, hm, hcount q]
      omega
  | some m =>
      simp only [rmwZenohPicoGenerateRecvQueryMsgData, Option.ite_none_right_eq_some, ha, Option.map_some,
        Option.some.injEq] at hm
      obtain ⟨halloc, rfl⟩ := hm
      rw [if_pos halloc]
      refine ⟨rfl, ?_⟩
      intro q
      simp [places, requestHandler, rmwZenohPicoGenerateRecvQueryMsgData, halloc, ha,
        addNewRequestMessage, MessageQueue.append, hcount q, List.count_singleton, eq_comm (b := q)]
      omega

omit [DecidableEq C] in
theorem stepTakeRequest_places [DecidableEq C] (s : Network C Req Res B) (header : RmwServiceInfo)
    (req : Req) (taken : Bool) : Keeps s (stepTakeRequest s header req taken) := by
  cases hq : s.server.requestQueue with
  | nil =>
      simp only [stepTakeRequest, hq, takeRequest_empty hq]
      exact ⟨rfl, fun _ => rfl⟩
  | cons m ms =>
      simp only [stepTakeRequest, hq, (takeRequest_cons hq header req taken).1]
      refine ⟨rfl, ?_⟩
      intro q
      simp only [places, hq, List.map_append, List.map_cons, List.map_nil, List.count_append,
        List.count_cons, List.count_nil]
      omega

omit [DecidableEq C] in
theorem pickup_none_iff {α : Type} {xs : List α} {func : α → Bool}
    (h : (MessageQueue.pickup xs func).1 = none) : (MessageQueue.pickup xs func).2 = xs :=
  List.eraseP_of_forall_not fun x hx => List.find?_eq_none.mp h x hx

theorem stepSendResponse_places {z : ZeSerializer S B D} {gid : Gid} {s t : Network C Req Res B}
    (h : Traced z gid s) {query : C × Nat} {res : Res} {env : SendEnvironment}
    (hs : stepSendResponse z s query res env = some t) :
    (Lossless z s (.sendResponse query res env) ∧ Keeps s t) ∨
      (¬Lossless z s (.sendResponse query res env) ∧ ∃ q, Loses s t q) := by
  simp only [stepSendResponse] at hs
  split at hs
  · rename_i m info htaken
    obtain ⟨r, hr, rfl⟩ := Option.map_eq_some_iff.mp hs
    have hlossless : Lossless z s (.sendResponse query res env) ↔
        (r.picked.isSome → r.ret = .ok ∧ r.reply.isSome) := by
      constructor
      · exact fun hl => hl m info htaken r hr
      · intro hl m' info' htaken' r' hr'
        rw [htaken] at htaken'
        cases htaken'
        rw [hr] at hr'
        cases hr'
        exact hl
    obtain ⟨hpicked, hdata, hreply⟩ := sendResponse_cases hr
    cases hp : r.picked with
    | none =>
        have hnone : r.reply = none := by
          cases hrep : r.reply with
          | none => rfl
          | some reply =>
              obtain ⟨m', hm', -⟩ := hreply reply hrep
              rw [hp] at hm'
              cases hm'
        refine .inl ⟨hlossless.mpr (by simp [hp]), rfl, ?_⟩
        intro q
        rw [hp] at hpicked
        simp [places, hdata, hnone, pickup_none_iff hpicked.symm]
    | some m' =>
        have hmem : m' ∈ s.server.responseQueue := MessageQueue.mem_of_pickup (hpicked.symm.trans hp)
        obtain ⟨p, hpt, rfl⟩ := List.mem_map.mp (h.pending m' hmem)
        obtain ⟨q', hq', -⟩ := h.taken p hpt
        have hcount (q : C × Nat) : (s.server.responseQueue.map (·.query)).count (some q) =
            (r.data.responseQueue.map (·.query)).count (some q) + if q = q' then 1 else 0 := by
          rw [hdata, count_map_pickup (hpicked.symm.trans hp) (·.query) (some q), hq']
          simp only [Option.some.injEq, eq_comm]
        have hrequests : r.data.requestQueue = s.server.requestQueue := by rw [hdata]
        by_cases hsent : r.ret = .ok ∧ r.reply.isSome
        · obtain ⟨hok, hsome⟩ := hsent
          obtain ⟨reply, hrep⟩ := Option.isSome_iff_exists.mp hsome
          obtain ⟨m', hm', hquery, -⟩ := hreply reply hrep
          rw [hp] at hm'
          cases hm'
          refine .inl ⟨hlossless.mpr fun _ => ⟨hok, hsome⟩, rfl, ?_⟩
          intro q
          simp only [places, hcount q, hrequests, hok, hrep, if_true, Option.toList_some, List.map_append,
            List.map_cons, List.map_nil, List.count_append, List.count_singleton, hquery, hq', beq_iff_eq,
            Option.some.injEq, eq_comm (a := q')]
          omega
        · have hunsent : (if r.ret = .ok then r.reply.toList else []) = [] := by
            split
            · rename_i hok
              cases hrep : r.reply with
              | none => rfl
              | some reply => exact absurd ⟨hok, by simp [hrep]⟩ hsent
            · rfl
          refine .inr ⟨fun hl => hsent (hlossless.mp hl (by simp [hp])), q', rfl, ?_⟩
          intro q
          simp only [places, hcount q, hrequests, hunsent, List.append_nil]
          omega
  · cases hs

def Home (s : Network C Req Res B) : Prop := ∀ c, ∀ q ∈ s.origins c, q.1 = c

theorem count_update_origins (s : Network C Req Res B) (c : C) (qs : List (C × Nat)) (q : C × Nat) :
    ((Function.update s.origins c qs) q.1).count q =
      if q.1 = c then qs.count q else (s.origins q.1).count q := by
  by_cases hc : q.1 = c
  · rw [hc, Function.update_self, if_pos rfl]
  · rw [Function.update_of_ne hc, if_neg hc]

theorem stepDeliverReply_places {z : ZeSerializer S B D} {gid : Gid} {s t : Network C Req Res B}
    (h : Traced z gid s) {i : Nat} {recvTs : Int} {alloc : ReceiveAllocations}
    (hs : stepDeliverReply z s i recvTs alloc = some t) :
    if alloc.succeed then Keeps s t else ∃ q, Loses s t q := by
  obtain ⟨reply, hi, rfl⟩ := Option.map_eq_some_iff.mp hs
  obtain ⟨q', a, hq', ha, -⟩ := h.replies reply (List.mem_of_getElem? hi)
  have hcount (q : C × Nat) : (s.replies.map (·.query)).count (some q) =
      ((s.replies.eraseIdx i).map (·.query)).count (some q) + if q = q' then 1 else 0 := by
    rw [count_map_eraseIdx hi (·.query) (some q), hq']
    simp only [Option.some.injEq, eq_comm]
  simp only [hq']
  cases halloc : alloc.succeed with
  | false =>
      refine ⟨q', ?_, ?_⟩
      · simp [rmwZenohPicoGenerateRecvSampleMsgData, halloc]
      · intro q
        simp only [places, hcount q, rmwZenohPicoGenerateRecvSampleMsgData, halloc, Bool.false_eq_true, if_false]
        omega
  | true =>
      refine ⟨?_, ?_⟩
      · simp [rmwZenohPicoGenerateRecvSampleMsgData, halloc, ha]
      · intro q
        have horigins : ((Function.update s.origins q'.1 (s.origins q'.1 ++ [q'])) q.1).count q =
            (s.origins q.1).count q + if q = q' then 1 else 0 := by
          rw [count_update_origins]
          by_cases hc : q.1 = q'.1
          · rw [if_pos hc, List.count_append, List.count_singleton, hc]
            simp only [beq_iff_eq, eq_comm (a := q')]
          · have hne : q ≠ q' := fun he => hc (he ▸ rfl)
            rw [if_neg hc, if_neg hne, Nat.add_zero]
        simp only [places, hcount q, horigins, rmwZenohPicoGenerateRecvSampleMsgData, halloc, ha, if_true,
          Option.map_some]
        omega

theorem stepTakeResponse_places {z : ZeSerializer S B D} {gid : Gid} {s : Network C Req Res B}
    (h : Traced z gid s) (hh : Home s) (c : C) (header : RmwServiceInfo) (res : Res) (taken : Bool) :
    (Lossless z s (.takeResponse c header res taken) ∧ Keeps s (stepTakeResponse s c header res taken)) ∨
      (¬Lossless z s (.takeResponse c header res taken) ∧
        ∃ q, Loses s (stepTakeResponse s c header res taken) q) := by
  have ha := h.arrived c
  cases ho : s.origins c with
  | nil =>
      rw [ho, List.forall₂_nil_right_iff] at ha
      left
      constructor
      · simp [Lossless, ha]
      · simp only [stepTakeResponse, takeResponse_empty ha, ho, Function.update_eq_self]
        exact ⟨rfl, fun _ => rfl⟩
  | cons q' qs =>
      have hc : q'.1 = c := hh c q' (by simp [ho])
      rw [ho] at ha
      obtain ⟨m, ms, -, -, hq⟩ := List.forall₂_cons_right_iff.mp ha
      obtain ⟨hdata, htaken, hinfo⟩ := takeResponse_cons hq header res taken
      have hlossless : Lossless z s (.takeResponse c header res taken) ↔
          Deserializes m (s.clients c).responseCallback res := by
        simp [Lossless, hq]
      have hcount (q : C × Nat) : (s.origins q.1).count q =
          ((Function.update s.origins c qs) q.1).count q + if q = q' then 1 else 0 := by
        rw [count_update_origins]
        by_cases hqc : q.1 = c
        · rw [if_pos hqc, hqc, ho, List.count_cons]
          simp only [beq_iff_eq, eq_comm (a := q')]
        · have hne : q ≠ q' := fun he => hqc (he ▸ hc)
          rw [if_neg hqc, if_neg hne, Nat.add_zero]
      by_cases hd : Deserializes m (s.clients c).responseCallback res
      · refine .inl ⟨hlossless.mpr hd, ?_⟩
        simp only [stepTakeResponse, hdata, ho, htaken, hd, decide_true, if_true, hinfo hd]
        refine ⟨rfl, ?_⟩
        intro q
        simp only [places, hcount q, Option.toList_some, List.map_append, List.map_cons, List.map_nil,
          List.count_append, List.count_singleton, beq_iff_eq, eq_comm (a := q')]
        omega
      · refine .inr ⟨fun hl => hd (hlossless.mp hl), q', ?_⟩
        simp only [stepTakeResponse, hdata, ho, htaken, hd, decide_false, Bool.false_eq_true, if_false,
          List.append_nil]
        refine ⟨rfl, ?_⟩
        intro q
        simp only [places, hcount q]
        omega

theorem step_places {z : ZeSerializer S B D} {gid : Gid} {s t : Network C Req Res B} {l : Label C Req Res}
    (h : Traced z gid s) (hh : Home s) (hs : step z s l = some t) :
    (Lossless z s l ∧ (Keeps s t ∨ ∃ c, Issues s t c)) ∨ (¬Lossless z s l ∧ ∃ q, Loses s t q) := by
  cases l with
  | sendRequest c req env =>
      cases hs
      exact .inl ⟨trivial, (stepSendRequest_places z s c req env).imp_right fun hi => ⟨c, hi⟩⟩
  | deliverQuery i recvTs alloc =>
      have hplaces := stepDeliverQuery_places h hs
      obtain ⟨query, hi, -⟩ := Option.map_eq_some_iff.mp hs
      have hlt : i < s.queries.length := (List.getElem?_eq_some_iff.mp hi).1
      split at hplaces
      · rename_i halloc
        exact .inl ⟨fun _ => halloc, .inl hplaces⟩
      · rename_i halloc
        exact .inr ⟨fun hl => halloc (hl hlt), hplaces⟩
  | takeRequest header req taken =>
      cases hs
      exact .inl ⟨trivial, .inl (stepTakeRequest_places s header req taken)⟩
  | sendResponse query res env =>
      exact (stepSendResponse_places h hs).imp_left fun hk => ⟨hk.1, .inl hk.2⟩
  | deliverReply i recvTs alloc =>
      have hplaces := stepDeliverReply_places h hs
      obtain ⟨reply, hi, -⟩ := Option.map_eq_some_iff.mp hs
      have hlt : i < s.replies.length := (List.getElem?_eq_some_iff.mp hi).1
      split at hplaces
      · rename_i halloc
        exact .inl ⟨fun _ => halloc, .inl hplaces⟩
      · rename_i halloc
        exact .inr ⟨fun hl => halloc (hl hlt), hplaces⟩
  | takeResponse c header res taken =>
      cases hs
      exact (stepTakeResponse_places h hh c header res taken).imp_left fun hk => ⟨hk.1, .inl hk.2⟩

theorem Home.reply {s : Network C Req Res B} (hh : Home s) (q : C × Nat) {c : C} {q' : C × Nat}
    (hq : q' ∈ Function.update s.origins q.1 (s.origins q.1 ++ [q]) c) : q'.1 = c := by
  by_cases hc : c = q.1
  · subst hc
    rw [Function.update_self] at hq
    rcases List.mem_append.mp hq with hq | hq
    · exact hh q.1 q' hq
    · rw [List.mem_singleton.mp hq]
  · rw [Function.update_of_ne hc] at hq
    exact hh c q' hq

theorem step_home {z : ZeSerializer S B D} {s t : Network C Req Res B} {l : Label C Req Res} (hh : Home s)
    (hs : step z s l = some t) : Home t := by
  cases l with
  | sendRequest c req env =>
      cases hs
      simp only [stepSendRequest]
      split
      · exact hh
      · exact hh
  | deliverQuery i recvTs alloc =>
      obtain ⟨query, -, rfl⟩ := Option.map_eq_some_iff.mp hs
      exact hh
  | takeRequest header req taken =>
      cases hs
      simp only [stepTakeRequest]
      split
      · exact hh
      · exact hh
  | sendResponse query res env =>
      simp only [step, stepSendResponse] at hs
      split at hs
      · obtain ⟨r, -, rfl⟩ := Option.map_eq_some_iff.mp hs
        exact hh
      · cases hs
  | deliverReply i recvTs alloc =>
      obtain ⟨reply, -, rfl⟩ := Option.map_eq_some_iff.mp hs
      dsimp only
      split
      · exact hh
      · split
        · exact fun c q' hq => hh.reply _ hq
        · exact hh
  | takeResponse c header res taken =>
      cases hs
      simp only [stepTakeResponse]
      split
      · exact hh
      · rename_i q qs ho
        intro d q' hq
        change q' ∈ Function.update s.origins c qs d at hq
        by_cases hd : d = c
        · subst hd
          rw [Function.update_self] at hq
          exact hh d q' (ho ▸ List.mem_cons_of_mem q hq)
        · rw [Function.update_of_ne hd] at hq
          exact hh d q' hq

theorem issues_bound {s t : Network C Req Res B} {c : C} (h : Issues s t c) (q : C × Nat) :
    (if q.2 < t.issued q.1 then 1 else 0) =
      (if q.2 < s.issued q.1 then 1 else 0) + if q = (c, s.issued c) then 1 else 0 := by
  obtain ⟨d, n⟩ := q
  rw [h.issued]
  by_cases hd : d = c
  · subst hd
    simp only [Function.update_self, Prod.mk.injEq, true_and]
    split <;> split <;> split <;> omega
  · simp [hd]

theorem AtMostOnce.step {z : ZeSerializer S B D} {gid : Gid} {s t : Network C Req Res B} {l : Label C Req Res}
    (hs : AtMostOnce s) (h : Traced z gid s) (hh : Home s) (ht : step z s l = some t) : AtMostOnce t := by
  intro q
  have hq := hs q
  rcases step_places h hh ht with ⟨-, hkeep | ⟨c, hissue⟩⟩ | ⟨-, lost, hlose⟩
  · rwa [hkeep.places, hkeep.issued]
  · rw [hissue.places, issues_bound hissue]
    omega
  · have hplaces := hlose.places q
    rw [hlose.issued]
    omega

/-- A step of a state in which nothing is lost loses nothing exactly if it does
not fail. -/
theorem ExactlyOnce.step_iff {z : ZeSerializer S B D} {gid : Gid} {s t : Network C Req Res B}
    {l : Label C Req Res} (hs : ExactlyOnce s) (h : Traced z gid s) (hh : Home s) (ht : step z s l = some t) :
    ExactlyOnce t ↔ Lossless z s l := by
  rcases step_places h hh ht with ⟨hl, hkeep | ⟨c, hissue⟩⟩ | ⟨hl, lost, hlose⟩
  · refine iff_of_true ?_ hl
    intro q
    rw [hkeep.places, hkeep.issued, hs q]
  · refine iff_of_true ?_ hl
    intro q
    rw [hissue.places, issues_bound hissue, hs q]
  · refine iff_of_false ?_ hl
    intro hexact
    have hplaces := hlose.places lost
    rw [hexact lost, hs lost, hlose.issued, if_pos rfl] at hplaces
    omega

theorem lossless_of_refused {z : ZeSerializer S B D} {s : Network C Req Res B} {l : Label C Req Res}
    (hs : step z s l = none) : Lossless z s l := by
  cases l with
  | sendRequest | takeRequest => trivial
  | deliverQuery i recvTs alloc =>
      have hnone := List.getElem?_eq_none_iff.mp (Option.map_eq_none_iff.mp hs)
      intro hlt
      omega
  | sendResponse query res env =>
      intro m info htaken r hr
      simp [step, stepSendResponse, htaken, hr] at hs
  | deliverReply i recvTs alloc =>
      have hnone := List.getElem?_eq_none_iff.mp (Option.map_eq_none_iff.mp hs)
      intro hlt
      omega
  | takeResponse => cases hs

structure Placed (z : ZeSerializer S B D) (gid : Gid) (s : Network C Req Res B) : Prop
    extends Traced z gid s where
  home : Home s
  atMostOnce : AtMostOnce s

theorem initial_exactlyOnce (xxh3 : List Char → XXH128Hash) (topicKey : List Char)
    (requestCallback : MessageTypeSupportCallbacks Req) (responseCallback : MessageTypeSupportCallbacks Res) :
    ExactlyOnce (initial xxh3 topicKey requestCallback responseCallback : Network C Req Res B) := by
  intro q
  simp [places, initial, zenohPicoGenerateServiceData]

theorem initial_placed (z : ZeSerializer S B D) (xxh3 : List Char → XXH128Hash) (topicKey : List Char)
    (requestCallback : MessageTypeSupportCallbacks Req) (responseCallback : MessageTypeSupportCallbacks Res) :
    Placed z (zenohPicoGenGid xxh3 topicKey)
      (initial xxh3 topicKey requestCallback responseCallback : Network C Req Res B) :=
  { initial_traced z xxh3 topicKey requestCallback responseCallback with
    home := fun _ _ hq => by cases hq
    atMostOnce := fun q => (initial_exactlyOnce xxh3 topicKey requestCallback responseCallback q).le }

theorem step_placed {z : ZeSerializer S B D} (hz : RoundTrips z) {gid : Gid} (s : Network C Req Res B)
    (l : Label C Req Res) (t : Network C Req Res B) (h : Placed z gid s) (hs : step z s l = some t) :
    Placed z gid t :=
  { step_traced hz s l t h.toTraced hs with
    home := step_home h.home hs
    atMostOnce := h.atMostOnce.step h.toTraced h.home hs }

/-- No request is ever found twice, as a request or as a response to it, and
none is lost exactly as long as no step that moves one fails. -/
theorem requests_conserved {z : ZeSerializer S B D} (hz : RoundTrips z) (xxh3 : List Char → XXH128Hash)
    (topicKey : List Char) (requestCallback : MessageTypeSupportCallbacks Req)
    (responseCallback : MessageTypeSupportCallbacks Res) (ls : List (Label C Req Res)) :
    Always (step z) AtMostOnce
        (initial xxh3 topicKey requestCallback responseCallback : Network C Req Res B) ls ∧
      (Always (step z) ExactlyOnce
          (initial xxh3 topicKey requestCallback responseCallback : Network C Req Res B) ls ↔
        Every (step z) (Lossless z) (initial xxh3 topicKey requestCallback responseCallback) ls) := by
  have hplaced := initial_placed (C := C) z xxh3 topicKey requestCallback responseCallback
  have halways := always_of_every (fun s l t h _ hs => step_placed hz s l t h hs) hplaced
    (every_true (step z) _ ls)
  refine ⟨always_mono (fun s h => h.atMostOnce) halways, ?_, ?_⟩
  · intro hexact
    refine every_of_always (P := fun s => Placed z (zenohPicoGenGid xxh3 topicKey) s ∧ ExactlyOnce s) ?_
      fun xs t hp hr => ⟨halways xs t hp hr, hexact xs t hp hr⟩
    rintro s l ⟨h, hs⟩ ht
    cases hstep : step z s l with
    | none => exact lossless_of_refused hstep
    | some t => exact (hs.step_iff h.toTraced h.home hstep).mp (ht t hstep).2
  · intro hlossless
    refine always_mono (fun s h => h.2) (always_of_every
      (I := fun s => Placed z (zenohPicoGenGid xxh3 topicKey) s ∧ ExactlyOnce s) ?_
      ⟨hplaced, initial_exactlyOnce xxh3 topicKey requestCallback responseCallback⟩ hlossless)
    rintro s l t ⟨h, hs⟩ hl ht
    exact ⟨step_placed hz s l t h ht, (hs.step_iff h.toTraced h.home ht).mpr hl⟩

theorem two_requests_conserved :
    Always (step valueSerializer) ExactlyOnce Routing.twoInitial Routing.twoClients := by
  refine (requests_conserved valueSerializer_roundTrips (fun _ => ⟨0, 0⟩) [] emptyMessageCallbacks
    emptyMessageCallbacks Routing.twoClients).2.mpr ?_
  refine ⟨trivial, fun _ _ => ⟨trivial, fun _ _ => ⟨fun _ => rfl, fun _ _ => ⟨fun _ => rfl, fun _ _ => ?_⟩⟩⟩⟩
  exact ⟨trivial, fun _ _ => ⟨trivial, fun _ _ => trivial⟩⟩

end RmwZenohPico.RequestPlaces
