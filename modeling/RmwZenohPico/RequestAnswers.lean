import RmwZenohPico.Takes

namespace RmwZenohPico.RequestAnswers

open RmwTypes Attachment RosMessage Service
open Takes (plainMessage emptyService)

variable {Req Res ω S B D : Type}

/-- rmw_send_response at a log level. At the level DEBUG the picked message
is dumped before anything else is done with it, and NULL cannot be dumped. -/
def rmwSendResponseLogged (z : ZeSerializer S B D) (debug : Bool)
    (service : Option (RmwHandle (ServiceData Req Res ω))) (requestHeader : Option RmwRequestId)
    (rosResponse : Option Res) (env : SendEnvironment) :
    Except RmwRet (Option (SendResponseResult Req Res ω B)) :=
  (rmwSendResponse z service requestHeader rosResponse env).map fun outcome =>
    outcome.filter fun r => !debug || r.picked.isSome

structure CleanFailure (data : ServiceData Req Res ω) (r : SendResponseResult Req Res ω B) : Prop where
  ret : r.ret ≠ .ok
  reply : r.reply = none
  deleted : r.deleted = []
  requestQueue : r.data.requestQueue = data.requestQueue
  responseQueue : r.data.responseQueue = data.responseQueue

section UnknownRequest

variable {z : ZeSerializer S B D} {data : ServiceData Req Res ω} {id : RmwRequestId}

theorem sendResponse_unknown (h : ∀ m ∈ data.responseQueue, compareResponceMsg id m = false) (res : Res)
    (env : SendEnvironment) :
    sendResponse z data id res env =
      if env.allocated then none else some ⟨.error, data, none, none, []⟩ := by
  have hnone := MessageQueue.pickup_none h
  cases ha : env.allocated <;> simp [sendResponse, rmwZenohPicoSerialize, hnone, ha]

/-- The call goes on without a message, up to the first use of it. -/
theorem unknownRequest_iff (h : ∀ m ∈ data.responseQueue, compareResponceMsg id m = false) (debug : Bool)
    (name : String) (res : Res) (env : SendEnvironment) :
    (∃ r, rmwSendResponseLogged z debug (some (.ofData name data)) (some id) (some res) env = .ok (some r) ∧
      CleanFailure data r) ↔ env.allocated = false ∧ debug = false := by
  rw [rmwSendResponseLogged, rmwSendResponse_valid, sendResponse_unknown h]
  constructor
  · rintro ⟨r, hr, -⟩
    obtain ⟨hsome, hdump⟩ := Option.filter_eq_some_iff.mp (Except.ok.inj hr)
    cases ha : env.allocated with
    | true => simp [ha] at hsome
    | false =>
        rw [ha] at hsome
        cases hsome
        exact ⟨rfl, by simpa using hdump⟩
  · rintro ⟨ha, rfl⟩
    rw [ha]
    exact ⟨⟨.error, data, none, none, []⟩, rfl, fun h => (by cases h), rfl, rfl, rfl, rfl⟩

theorem answered_unknown {res : Res} {env : SendEnvironment} {r : SendResponseResult Req Res ω B}
    (hlen : ∀ m ∈ data.responseQueue, 16 ≤ m.attachment.gid.len)
    (hn : (data.responseQueue.map requestIdOf).Nodup) (h : sendResponse z data id res env = some r) :
    ∀ m ∈ r.data.responseQueue, compareResponceMsg id m = false := by
  have hiff : ∀ m ∈ data.responseQueue, compareResponceMsg id m = true ↔ requestIdOf m = id :=
    fun m hm => compareResponceMsg_iff (hlen m hm) id
  obtain ⟨-, hdata, -⟩ := sendResponse_cases h
  have hqueue : r.data.responseQueue = data.responseQueue.filter fun m => requestIdOf m ≠ id := by
    rw [hdata]
    exact MessageQueue.pickup_by_key hiff hn
  intro m hm
  rw [hqueue, List.mem_filter] at hm
  have hne : requestIdOf m ≠ id := by simpa using hm.2
  exact Bool.eq_false_of_not_eq_true fun hc => hne ((hiff m hm.1).mp hc)

end UnknownRequest

section AnotherAnswer

def pendingService : ServiceData Unit Unit Unit :=
  { emptyService with responseQueue := [plainMessage [0, 1, 0, 0]] }

def pendingId : RmwRequestId := ⟨fun _ => 0, 1⟩

def answer (allocated : Bool) (data : ServiceData Unit Unit Unit) :
    Except RmwRet (Option (SendResponseResult Unit Unit Unit (List (Int ⊕ Slice)))) :=
  rmwSendResponseLogged valueSerializer false (some (.ofData "service" data)) (some pendingId) (some ())
    ⟨allocated, false, 0, true⟩

theorem emptyService_unknown : ∃ r, answer false emptyService = .ok (some r) ∧ CleanFailure emptyService r :=
  (unknownRequest_iff (fun m hm => by cases hm) false "service" () ⟨false, false, 0, true⟩).mpr ⟨rfl, rfl⟩

theorem second_answer_undefined :
    ∃ r, answer true pendingService = .ok (some r) ∧ r.ret = .ok ∧
      (∀ m ∈ r.data.responseQueue, compareResponceMsg pendingId m = false) ∧
      answer true r.data = .ok none ∧
      ¬ ∃ r', answer true r.data = .ok (some r') ∧ CleanFailure r.data r' := by
  have hfirst : ∃ r, answer true pendingService = .ok (some r) ∧ r.ret = .ok ∧ r.data = emptyService :=
    ⟨_, rfl, rfl, rfl⟩
  obtain ⟨r, hr, hret, hdata⟩ := hfirst
  have hundefined : answer true r.data = .ok none := by
    rw [hdata]
    rfl
  refine ⟨r, hr, hret, ?_, hundefined, ?_⟩
  · intro m hm
    rw [hdata] at hm
    cases hm
  · rintro ⟨r', hr', -⟩
    rw [hundefined] at hr'
    cases hr'

end AnotherAnswer

section TakenRequest

/-- The search for the request of the header finds this message, whatever
the memory holds behind the slice of its gid. -/
structure Answerable (header : RmwServiceInfo) (msg : ReceiveMessageData ω) : Prop where
  found : compareResponceMsg header.requestId msg = true
  inside : ∀ gid : Slice, gid.bytes = msg.attachment.gid.bytes →
    gid.start.isSome = msg.attachment.gid.start.isSome →
    compareResponceMsg header.requestId { msg with attachment := { msg.attachment with gid := gid } } =
      compareResponceMsg header.requestId msg

theorem compareResponceMsg_bytes {id : RmwRequestId} {msg : ReceiveMessageData ω} {p : Nat → UInt8}
    (h : compareResponceMsg id msg = true) (hp : msg.attachment.gid.start = some p) (i : Fin 16) :
    p i = id.writerGuid i := by
  simp only [compareResponceMsg, hp] at h
  split at h
  · rename_i hall
    exact hall i
  · cases h

/-- Bytes beyond the slice take part in the comparison of a short gid. -/
theorem filled_answerable_iff (header : RmwServiceInfo) (msg : ReceiveMessageData ω) :
    Answerable (rmwZneohFillRequestHeader header msg) msg ↔ 16 ≤ msg.attachment.gid.len := by
  constructor
  · intro h
    by_contra hlen
    have hfound := h.found
    cases hs : msg.attachment.gid.start with
    | none => simp [compareResponceMsg, hs] at hfound
    | some p =>
        let gid : Slice := ⟨some (Function.update p 15 (p 15 + 1)), msg.attachment.gid.len, fun h => by cases h⟩
        have hbytes : gid.bytes = msg.attachment.gid.bytes := by
          apply List.map_congr_left
          intro i hi
          have hi15 : i ≠ 15 := by
            have hlt := List.mem_range.mp hi
            change i < msg.attachment.gid.len at hlt
            omega
          simp [gid, Slice.byte, hs, Function.update_of_ne hi15]
        have hinside := h.inside gid hbytes (by simp [gid, hs])
        have hlast := compareResponceMsg_bytes hfound hs 15
        have hlast' := compareResponceMsg_bytes (hinside.trans hfound) rfl 15
        rw [← hlast] at hlast'
        simp at hlast'
  · intro hlen
    have hid := fillRequestHeader_id hlen header
    constructor
    · exact (compareResponceMsg_iff hlen _).mpr hid.symm
    · intro gid hbytes _
      have hgidlen : 16 ≤ gid.len := by
        rwa [← gid.bytes_length, hbytes, Slice.bytes_length]
      rw [Bool.eq_iff_iff, compareResponceMsg_iff hlen, compareResponceMsg_iff hgidlen]
      simp only [requestIdOf, Slice.gid_congr hbytes]

theorem taken_answerable_iff {name : String} {data : ServiceData Req Res ω} {header filled : RmwServiceInfo}
    {rosRequest : Req} {taken : Bool} {msg : ReceiveMessageData ω} {msgs : List (ReceiveMessageData ω)}
    {r : TakeResult (ServiceData Req Res ω) Req RmwServiceInfo} (hq : data.requestQueue = msg :: msgs)
    (h : rmwTakeRequest (some (.ofData name data)) (some header) rosRequest (some taken) = .ok r)
    (htaken : r.taken = true) (hfilled : r.info = some filled) :
    Answerable filled msg ↔ 16 ≤ msg.attachment.gid.len := by
  rw [rmwTakeRequest_valid, Except.ok.injEq] at h
  subst h
  obtain ⟨-, hdecide, hinfo⟩ := takeRequest_cons hq header rosRequest taken
  rw [hdecide, decide_eq_true_eq] at htaken
  rw [hinfo htaken, Option.some.injEq] at hfilled
  subst hfilled
  exact filled_answerable_iff header msg

def requestedService (gid : Slice) : ServiceData Unit Unit Unit :=
  { emptyService with
    requestQueue := [{ plainMessage [0, 1, 0, 0] with attachment := ⟨1, 0, gid⟩ }] }

def freshHeader : RmwServiceInfo := ⟨0, 0, ⟨fun _ => 0, 0⟩⟩

theorem full_gid_answerable :
    ∃ r filled, rmwTakeRequest (some (.ofData "service" (requestedService (zSliceCopyFromBuf fun _ => 7))))
        (some freshHeader) () (some false) = .ok r ∧ r.info = some filled ∧
      Answerable filled
        { plainMessage [0, 1, 0, 0] with attachment := ⟨1, 0, zSliceCopyFromBuf fun _ => 7⟩ } := by
  have htake : rmwTakeRequest (some (.ofData "service" (requestedService (zSliceCopyFromBuf fun _ => 7))))
      (some freshHeader) () (some false) = .ok (takeRequest _ _ () false) := rmwTakeRequest_valid ..
  exact ⟨_, _, htake, rfl, (taken_answerable_iff rfl htake rfl rfl).mpr (le_refl 16)⟩

theorem null_len : (none : Option (Nat → UInt8)) = none → 0 = 0 := fun _ => rfl

def emptySlice : Slice := ⟨none, 0, null_len⟩

theorem empty_gid_unanswerable :
    ∃ r filled, rmwTakeRequest (some (.ofData "service" (requestedService emptySlice)))
        (some freshHeader) () (some false) = .ok r ∧ r.ret = .ok ∧ r.taken = true ∧
      r.info = some filled ∧
      ¬ Answerable filled { plainMessage [0, 1, 0, 0] with attachment := ⟨1, 0, emptySlice⟩ } := by
  refine ⟨_, _, rfl, rfl, rfl, rfl, ?_⟩
  intro h
  exact absurd h.found (by decide)

end TakenRequest

end RmwZenohPico.RequestAnswers
