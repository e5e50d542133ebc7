import KhawasuPc.Exchange.Protocol

/-!
# What clients are told is what devices answered

Whatever is lost, repeated or overtaken: as long as no id comes up twice, what a client is told
of a request is what the handler of the action asked for returned when it was called for this
very request (`run_reported`, `run_returned`).  And where neither a request nor an answer arrives
twice, the assertion of `handle_packet` holds (`run_keepsAssertion`).
-/

namespace KhawasuPc

open Lib

/-! ## Records and answers -/

/-- How long `handle_packet` takes the payload of an `ACTION_RESPONSE` to be, where it has `n`
bytes. -/
def PacketLayout.shownLength (L : PacketLayout) (n : Nat) : Nat :=
  (payloadSize (UInt16.ofNat (L.dataOff .unreliable + L.responsePayload + n))
    L.sizeActionResponse).toNat

/-- What the record of a request shows of a payload: as many bytes as `handle_packet` takes it to
have, of the payload and of what lies behind it. -/
structure ShownAs (L : PacketLayout) (payload shown : List UInt8) : Prop where
  fits : L.dataOff .unreliable + L.responsePayload + payload.length < 65536
  length_eq : shown.length = L.shownLength payload.length
  starts : ∃ behind, shown = (payload ++ behind).take shown.length

/-- The record shows the payload as it is exactly where the macro for the size of the packet is
right. -/
theorem ShownAs.eq_iff {L : PacketLayout} {payload shown : List UInt8}
    (h : ShownAs L payload shown) : shown = payload ↔
      L.dataOff .unreliable + L.responsePayload + 1 = L.sizeActionResponse.toNat := by
  have size_eq : (UInt16.ofNat (L.dataOff .unreliable + L.responsePayload + payload.length)).toNat =
      L.dataOff .unreliable + L.responsePayload + payload.length := by
    rw [UInt16.toNat_ofNat']
    exact Nat.mod_eq_of_lt h.fits
  rw [← payloadSize_eq_iff size_eq, ← PacketLayout.shownLength, ← h.length_eq]
  constructor
  · rintro rfl
    rfl
  · intro same
    obtain ⟨behind, starts⟩ := h.starts
    rw [starts, same, List.take_left]

/-- The record says what the answer does. -/
def AnswerBody.Says (L : PacketLayout) (r : ActionResponse) : AnswerBody → Prop
  | .response status payload =>
      r.type = .fetch ∧ r.status = status ∧ ShownAs L payload r.payload
  | .result status => r.type = .execute ∧ r.status = status ∧ r.payload = []

/-- The record is that of the request of the answer, and says what the answer does. -/
structure Answer.Explains (L : PacketLayout) (answer : Answer) (r : ActionResponse) : Prop where
  reqId : r.reqId = answer.requestId.toUInt32
  dest : answer.request.dest = ⟨r.srcPhy, r.srcPort⟩
  content : answer.body.Says L r

/-- The answer is of the kind of its request, and has its id. -/
def Answer.Fits (answer : Answer) : Prop :=
  match answer.body with
  | .response .. => ∃ actionId payload,
      answer.request.body = .actionFetch answer.requestId actionId payload
  | .result _ => ∃ actionId flags payload,
      answer.request.body = .actionExecute answer.requestId actionId flags payload

variable {W : Site} {slot : PoolSlot} {handlers : Handlers} {answer : Answer} {L : PacketLayout}
  {mem : Memory} {size : UInt16}

theorem Answer.From.fits (h : answer.From W slot handlers) : answer.Fits := by
  unfold Fits
  cases h with
  | fetched actionId payload reg call asks _ _ _ body => rw [body]; exact ⟨_, _, asks⟩
  | executed actionId payload reg call asks _ _ _ body => rw [body]; exact ⟨_, _, _, asks⟩
  | unknown actionId payload asks _ _ body => rw [body]; exact ⟨_, _, _, asks⟩

theorem Answer.Fits.requestId (h : answer.Fits) :
    answer.request.body.requestId = some answer.requestId := by
  unfold Fits at h
  cases body : answer.body with
  | response =>
      rw [body] at h
      obtain ⟨actionId, payload, asks⟩ := h
      rw [asks]
      rfl
  | result =>
      rw [body] at h
      obtain ⟨actionId, flags, payload, asks⟩ := h
      rw [asks]
      rfl

/-- What is cut out of the memory shows the payload. -/
theorem shownAs_slice {payload : List UInt8}
    (holds : mem.Holds (L.dataOff .unreliable + L.responsePayload) payload)
    (size_eq : size.toNat = L.dataOff .unreliable + L.responsePayload + payload.length) :
    ShownAs L payload (mem.slice (L.dataOff .unreliable + L.responsePayload)
      (payloadSize size L.sizeActionResponse).toNat) where
  fits := size_eq ▸ size.toNat_lt
  length_eq := by
    rw [Memory.length_slice, PacketLayout.shownLength, ← size_eq, UInt16.ofNat_toNat]
  starts := by
    generalize (payloadSize size L.sizeActionResponse).toNat = n
    refine ⟨mem.slice (L.dataOff .unreliable + L.responsePayload + payload.length) n, ?_⟩
    have longer : payload ++ mem.slice (L.dataOff .unreliable + L.responsePayload +
        payload.length) n = mem.slice (L.dataOff .unreliable + L.responsePayload) n ++
          mem.slice (L.dataOff .unreliable + L.responsePayload + n) payload.length := by
      nth_rewrite 1 [← show mem.slice _ payload.length = payload from holds]
      rw [← Memory.slice_add, ← Memory.slice_add, Nat.add_comm payload.length]
    rw [longer, List.take_left]

/-- The packet of an answer replies to its request what the answer says. -/
theorem Answer.InPacket.reply (h : answer.InPacket L mem size) :
    ∃ reply, LogicalPacket.reply L ⟨mem, L.dataOff .unreliable⟩ size =
        some (answer.requestId, reply) ∧
      match answer.body with
      | .response status payload => reply.status = status ∧
          ∃ shown, reply.payload = some shown ∧ ShownAs L payload shown
      | .result status => reply.status = status ∧ reply.payload = none := by
  obtain ⟨-, -, h⟩ := h
  unfold LogicalPacket.reply
  cases body : answer.body with
  | response status payload =>
      rw [body] at h
      obtain ⟨type, id, status_eq, holds, size_eq⟩ := h
      rw [type]
      exact ⟨_, by rw [id], status_eq, _, rfl, shownAs_slice holds size_eq⟩
  | result status =>
      rw [body] at h
      obtain ⟨type, id, status_eq⟩ := h
      rw [type]
      exact ⟨_, by rw [id], status_eq, rfl⟩

/-- A record that waits for the answer is explained by it once it is answered. -/
theorem Answer.InPacket.explains (h : answer.InPacket L mem size) (fits : answer.Fits)
    {q : Request} {data : ActionResponse} {reqId : UInt8} {reply : Reply}
    (sentAs : q.SentAs answer.request) (owns : q.Owns data) (waits : data.payload = [])
    (hr : LogicalPacket.reply L ⟨mem, L.dataOff .unreliable⟩ size = some (reqId, reply)) :
    answer.Explains L (data.answer reply) := by
  obtain ⟨reply', hr', content⟩ := h.reply
  cases hr.symm.trans hr'
  have dest : answer.request.dest = ⟨data.srcPhy, data.srcPort⟩ := by
    rw [owns.srcPhy, owns.srcPort]
    exact sentAs.dest
  have id : q.reqId = answer.requestId :=
    Option.some.inj (sentAs.requestId.symm.trans fits.requestId)
  refine ⟨by rw [← id]; exact owns.reqId, dest, ?_⟩
  unfold Answer.Fits at fits
  cases body : answer.body with
  | response status payload =>
      rw [body] at content fits
      obtain ⟨status_eq, shown, payload_eq, shownAs⟩ := content
      obtain ⟨actionId, sent, asks⟩ := fits
      cases sentAs with
      | execute _ _ _ _ _ asks' => rw [asks] at asks'; cases asks'
      | fetch _ _ type =>
          refine ⟨owns.type.trans type, status_eq, ?_⟩
          show ShownAs L payload (reply.payload.getD data.payload)
          rw [payload_eq]
          exact shownAs
  | result status =>
      rw [body] at content fits
      obtain ⟨status_eq, payload_eq⟩ := content
      obtain ⟨actionId, flags, sent, asks⟩ := fits
      cases sentAs with
      | fetch _ _ _ _ asks' => rw [asks] at asks'; cases asks'
      | execute _ _ _ type =>
          refine ⟨owns.type.trans type, status_eq, ?_⟩
          show reply.payload.getD data.payload = []
          rw [payload_eq]
          exact waits

theorem Answer.Explains.closed {r : ActionResponse} (h : answer.Explains L r)
    (received : UInt64) : answer.Explains L { r with timeReceived := received } :=
  ⟨h.reqId, h.dest, h.content⟩

namespace Exchange

variable {s t : Exchange} {e : Event} {es : List Event} {setup : Setup} {made : List Request}

/-- No event makes more than one request. -/
theorem length_requestsMade_le (W : Site) (setup : Setup) (es : List Event) :
    (requestsMade W setup es).length ≤ es.length := by
  refine Machine.length_outputs_le (fun s e => ?_) _ es
  cases e with
  | client e =>
      rw [requests]
      rcases Sys.requests_cases W.E s.sys e with none_made | ⟨q, one, -⟩
      · rw [none_made]
        exact Nat.zero_le 1
      · rw [one, List.length_singleton]
  | serve | deliver => exact Nat.zero_le 1

/-! ## The invariant -/

/-- One of the answers explains the record. -/
def Explained (L : PacketLayout) (s : Exchange) (r : ActionResponse) : Prop :=
  ∃ answer ∈ s.answers, answer.Explains L r

/-- Answers are to packets that were sent, and as long as no id comes up twice, they explain
what clients are told. -/
structure Sound (W : Site) (made : List Request) (s : Exchange) : Prop where
  numbered : s.sys.Numbered made
  kept : s.sys.man.RecordsKept
  asked : ∀ answer ∈ s.answers, answer.Fits ∧ answer.request ∈ requestPackets s.sys.trace
  backed : made.length ≤ 256 → s.sys.Backed (s.Explained W.L)

theorem Sound.start (W : Site) (setup : Setup) : Sound W [] (start setup) where
  numbered := .start setup
  kept := Sys.start_recordsKept
  asked _ h := by cases h
  backed _ := .start _ setup

/-- What was sent stays sent. -/
theorem requestPackets_mono {sys sys' : Sys} {e : KhawasuPc.Event}
    (h : sys.step W.L W.E e = some sys') {packet : SentPacket}
    (hmem : packet ∈ requestPackets sys.trace) : packet ∈ requestPackets sys'.trace := by
  obtain ⟨packets, trace_eq, -⟩ := Sys.step_sends h
  rw [trace_eq]
  exact List.mem_append_left _ hmem

/-- An answer that arrives explains the record it answers. -/
theorem Sound.answers (h : Sound W made s) (few : made.length ≤ 256) (hmem : answer ∈ s.answers)
    (packet : answer.InPacket W.L mem size) (srcPhy : FarAddr) :
    s.sys.Answers W.L (s.Explained W.L) (.packet srcPhy ⟨mem, W.L.dataOff .unreliable⟩ size) := by
  intro reqId reply data hr found waiting
  obtain ⟨fits, sent⟩ := h.asked answer hmem
  obtain ⟨reply', hr', -⟩ := packet.reply
  cases hr.symm.trans hr'
  obtain ⟨q, sentAs, -, owns⟩ := h.numbered.record few sent fits.requestId found
  exact ⟨answer, hmem, packet.explains fits sentAs owns ((h.kept _ data found).2 waiting) hr⟩

theorem Sound.step (h : Sound W made s) (hstep : s.step W e = some t) :
    Sound W (made ++ s.requests W e) t := by
  have closed : ∀ (s : Exchange) r received, s.Explained W.L r →
      s.Explained W.L { r with timeReceived := received } :=
    fun _ r received ⟨answer, hmem, explains⟩ => ⟨answer, hmem, explains.closed received⟩
  cases step_steps hstep with
  | client e sys silent step =>
      refine ⟨h.numbered.step step, (Sys.step_performs step h.kept).1, fun answer hmem => ?_,
        fun few => ?_⟩
      · obtain ⟨fits, sent⟩ := h.asked answer hmem
        exact ⟨fits, requestPackets_mono step sent⟩
      · rw [List.length_append] at few
        refine (h.backed (by omega)).step (closed s) ?_ step
        cases e with
        | packet srcPhy log size =>
            intro reqId reply data hr
            rw [KhawasuPc.Event.isReply, hr] at silent
            cases silent
        | _ => trivial
  | serve request slot handlers answers sent served =>
      rw [requests, List.append_nil]
      refine ⟨h.numbered, h.kept, fun answer hmem => ?_, fun few => ?_⟩
      · rcases List.mem_append.mp hmem with before | now
        · exact h.asked answer before
        · obtain ⟨q, -, sentAs⟩ := h.numbered.sent request sent
          obtain ⟨rfl, made⟩ := Site.serve_from sentAs served now
          exact ⟨made.fits, sent⟩
      · exact (h.backed few).imp fun r ⟨answer, hmem, explains⟩ =>
          ⟨answer, List.mem_append_left _ hmem, explains⟩
  | deliver i srcPhy mem size answer sys found packet step =>
      have numbered := h.numbered.step step
      rw [requests]
      refine ⟨numbered, (Sys.step_performs step h.kept).1, fun answer hmem => ?_, fun few => ?_⟩
      · obtain ⟨fits, sent⟩ := h.asked answer hmem
        exact ⟨fits, requestPackets_mono step sent⟩
      · rw [List.append_nil] at few
        exact (h.backed few).step (closed s)
          (h.answers few (List.mem_of_getElem? found) packet srcPhy) step

/-- In every run, answers explain what clients are told. -/
theorem run_sound (h : (machine W).run (Exchange.start setup) es = some s) :
    Sound W (requestsMade W setup es) s :=
  Machine.run_outputs (M := machine W) (C := fun _ _ => True) (P := Sound W)
    (fun _ _ _ _ _ ht hstep => ht.step hstep) h (Machine.meets_of_forall (fun _ _ _ => trivial) _)
    (.start W setup)

/-- Every answer was made when its request reached its device. -/
theorem run_from (h : (machine W).run (Exchange.start setup) es = some s) :
    ∀ answer ∈ s.answers, ∃ slot handlers,
      Event.serve answer.request slot handlers ∈ es ∧ answer.From W slot handlers := by
  refine Machine.run_history (M := machine W) (P := fun es s => ∀ answer ∈ s.answers,
    ∃ slot handlers, Event.serve answer.request slot handlers ∈ es ∧
      answer.From W slot handlers) ?_ ?_ h
  · intro answer hmem
    cases hmem
  · intro es s e t hes ih hstep answer hmem
    have before : answer ∈ s.answers → ∃ slot handlers,
        Event.serve answer.request slot handlers ∈ es ++ [e] ∧ answer.From W slot handlers := by
      intro hmem
      obtain ⟨slot, handlers, served, made⟩ := ih answer hmem
      exact ⟨slot, handlers, List.mem_append_left _ served, made⟩
    cases step_steps hstep with
    | client e sys silent step => exact before hmem
    | deliver i srcPhy mem size other sys found packet step => exact before hmem
    | serve request slot handlers answers sent served =>
        rcases List.mem_append.mp hmem with old | now
        · exact before old
        · obtain ⟨q, -, sentAs⟩ := (run_sound hes).numbered.sent request sent
          obtain ⟨rfl, made⟩ := Site.serve_from sentAs served now
          exact ⟨slot, handlers, List.mem_append_right _ (List.mem_singleton_self _), made⟩

/-- The packet reached its device, where the handler of the action asked for was called with
it, and returned what the record says. -/
def HandledFor (W : Site) (es : List Event) (packet : SentPacket) (r : ActionResponse) : Prop :=
  ∃ (answer : Answer) (slot : PoolSlot) (handlers : Handlers), answer.request = packet ∧
    Event.serve packet slot handlers ∈ es ∧ answer.From W slot handlers ∧ answer.Explains W.L r

theorem run_handledFor (h : (machine W).run (Exchange.start setup) es = some s)
    {r : ActionResponse} (explains : answer.Explains W.L r) (hmem : answer ∈ s.answers) :
    answer.request ∈ requestPackets s.sys.trace ∧ HandledFor W es answer.request r := by
  obtain ⟨slot, handlers, served, made⟩ := run_from h answer hmem
  exact ⟨((run_sound h).asked answer hmem).2, answer, slot, handlers, rfl, served, made, explains⟩

theorem HandledFor.mono {pre : List Event} {packet : SentPacket} {r : ActionResponse}
    (h : HandledFor W pre packet r) (sub : pre ⊆ es) : HandledFor W es packet r := by
  obtain ⟨answer, slot, handlers, same, served, made, explains⟩ := h
  exact ⟨answer, slot, handlers, same, sub served, made, explains⟩

theorem run_requestPackets (h : (machine W).run s es = some t) {packet : SentPacket}
    (sent : packet ∈ requestPackets s.sys.trace) : packet ∈ requestPackets t.sys.trace := by
  refine Machine.run_invariant (M := machine W)
    (P := fun s => packet ∈ requestPackets s.sys.trace) (fun s e t sent hstep => ?_) h sent
  cases step_steps hstep with
  | client e sys silent step => exact requestPackets_mono step sent
  | serve request slot handlers answers _ served => exact sent
  | deliver i srcPhy mem size answer sys found packet step => exact requestPackets_mono step sent

/-- What is newly told is made up by the event, or explained by an answer. -/
theorem Sound.reports (h : Sound W made s) (few : made.length ≤ 256) (hstep : s.step W e = some t)
    {r : ActionResponse} (new : some r ∉ reportsOf s.sys.trace)
    (told : some r ∈ reportsOf t.sys.trace) :
    (∃ f, e = .client f ∧ s.sys.MadeUp W.E f r) ∨ s.Explained W.L r := by
  cases step_steps hstep with
  | client f sys silent step =>
      have answers : s.sys.Answers W.L (s.Explained W.L) f := by
        cases f with
        | packet srcPhy log size =>
            intro reqId reply data hr
            rw [KhawasuPc.Event.isReply, hr] at silent
            cases silent
        | _ => trivial
      exact ((h.backed few).reports answers step new told).imp_left fun made => ⟨f, rfl, made⟩
  | serve => exact absurd told new
  | deliver i srcPhy mem size answer sys found packet step =>
      have answers := h.answers few (List.mem_of_getElem? found) packet srcPhy
      rcases (h.backed few).reports answers step new told with made | explained
      · obtain ⟨env, name, buffer, requireStatus, event, -⟩ := made.asks
        cases event
      · exact Or.inr explained

/-- The record is made up for a call by a name that the manager did not know then. -/
def MadeUp (W : Site) (setup : Setup) (es : List Event) (r : ActionResponse) : Prop :=
  ∃ pre f post u, es = pre ++ .client f :: post ∧
    (machine W).run (Exchange.start setup) pre = some u ∧ u.sys.MadeUp W.E f r

/-- What is told was made up, or handled for a packet that was sent. -/
theorem run_reportedFor (h : (machine W).run (Exchange.start setup) es = some s)
    (few : (requestsMade W setup es).length ≤ 256) {r : ActionResponse}
    (told : some r ∈ reportsOf s.sys.trace) :
    MadeUp W setup es r ∨ ∃ packet ∈ requestPackets s.sys.trace, HandledFor W es packet r := by
  obtain ⟨pre, e, post, u, v, rfl, hpre, hstep, hpost, new, now⟩ :=
    Machine.run_gains (P := fun s : Exchange => some r ∈ reportsOf s.sys.trace) h (by nofun) told
  have fewer : (requestsMade W setup pre).length ≤ 256 := by
    rw [requestsMade, Machine.outputs_append hpre, List.length_append] at few
    exact (Nat.le_add_right ..).trans few
  rcases (run_sound hpre).reports fewer hstep new now with ⟨f, rfl, made⟩ | ⟨answer, hmem, explains⟩
  · exact Or.inl ⟨pre, f, post, u, rfl, hpre, made⟩
  · obtain ⟨sent, handled⟩ := run_handledFor hpre explains hmem
    have moved : (machine W).run u [e] = some v := Machine.run_singleton (M := machine W) hstep
    exact Or.inr ⟨answer.request, run_requestPackets hpost (run_requestPackets moved sent),
      handled.mono (List.subset_append_left ..)⟩

/-- In every run of up to 256 requests: a record that `action_callback` is told is made up for an
unknown name, or is the one of a packet sent, and says what the handler asked for returned for
it. -/
theorem run_reported (h : (machine W).run (Exchange.start setup) es = some s)
    (few : (requestsMade W setup es).length ≤ 256) {r : ActionResponse}
    (told : some r ∈ reportsOf s.sys.trace) :
    MadeUp W setup es r ∨ ∃ packet ∈ requestPackets s.sys.trace, HandledFor W es packet r :=
  run_reportedFor h few told

/-! ## One call -/

variable {pre mid : List Event} {s₀ s₁ : Exchange} {f : KhawasuPc.Event} {call : SyncCall}

/-- The record is one under the id that is drawn next. -/
def ExplainedAs (L : PacketLayout) (s₀ s : Exchange) (r : ActionResponse) : Prop :=
  s.Explained L r ∧ r.reqId = s₀.sys.man.actionResponsesCounter.toUInt32

/-- A step keeps what a call has collected or returned explained by answers with its id. -/
theorem Sound.tells (h : Sound W made s) (few : made.length ≤ 256)
    (old : s₀.sys.nextCall < s.sys.nextCall)
    (tells : ∀ sync, s.sys.calls.lookup s₀.sys.nextCall = some sync →
      sync.Tells (ExplainedAs W.L s₀ s) s₀.sys.man.actionResponsesCounter)
    (hstep : s.step W e = some t) :
    s₀.sys.nextCall < t.sys.nextCall ∧
      ∀ sync, t.sys.calls.lookup s₀.sys.nextCall = some sync →
        sync.Tells (ExplainedAs W.L s₀ t) s₀.sys.man.actionResponsesCounter := by
  have closed : ∀ r received, s.Explained W.L r →
      s.Explained W.L { r with timeReceived := received } :=
    fun r received ⟨answer, hmem, explains⟩ => ⟨answer, hmem, explains.closed received⟩
  have next : ∀ (f : KhawasuPc.Event) (sys : Sys), s.sys.step W.L W.E f = some sys →
      s₀.sys.nextCall < sys.nextCall ∧ ∀ sync, sys.calls.lookup s₀.sys.nextCall = some sync →
        sync.Tells (ExplainedAs W.L s₀ s) s₀.sys.man.actionResponsesCounter := by
    intro f sys step
    have hnext := (Sys.next_of_step step).2
    exact ⟨Nat.lt_of_lt_of_le old (Sys.nextCall_le hnext), fun sync found =>
      Sys.next_tells h.kept (h.backed few).table closed hnext old tells found⟩
  cases step_steps hstep with
  | client f sys silent step => exact next f sys step
  | deliver i srcPhy mem size answer sys found packet step => exact next _ sys step
  | serve request slot handlers answers sent served =>
      refine ⟨old, fun sync found => (tells sync found).imp ?_⟩
      rintro r ⟨⟨answer, hmem, explains⟩, id⟩
      exact ⟨⟨answer, List.mem_append_left _ hmem, explains⟩, id⟩

/-- What a call has collected or returned is explained by an answer with its id. -/
theorem run_call (hpre : (machine W).run (Exchange.start setup) pre = some s₀)
    (hcall : f.isSyncCall = true) (hstep : s₀.step W (.client f) = some s₁)
    (waits : s₁.sys.calls.lookup s₀.sys.nextCall = some (.polling call))
    (hmid : (machine W).run s₁ mid = some s)
    (few : (requestsMade W setup (pre ++ .client f :: mid)).length ≤ 256) :
    ∀ sync, s.sys.calls.lookup s₀.sys.nextCall = some sync →
      sync.Tells (ExplainedAs W.L s₀ s) s₀.sys.man.actionResponsesCounter := by
  have whole : ∀ {mid s}, (machine W).run s₁ mid = some s →
      (machine W).run (Exchange.start setup) (pre ++ .client f :: mid) = some s :=
    fun hmid => Machine.run_through hpre hstep hmid
  have both : (requestsMade W setup (pre ++ .client f :: mid)).length ≤ 256 →
      s₀.sys.nextCall < s.sys.nextCall ∧
        ∀ sync, s.sys.calls.lookup s₀.sys.nextCall = some sync →
          sync.Tells (ExplainedAs W.L s₀ s) s₀.sys.man.actionResponsesCounter := by
    refine Machine.run_history (M := machine W)
      (P := fun mid s => (requestsMade W setup (pre ++ .client f :: mid)).length ≤ 256 →
        s₀.sys.nextCall < s.sys.nextCall ∧
          ∀ sync, s.sys.calls.lookup s₀.sys.nextCall = some sync →
            sync.Tells (ExplainedAs W.L s₀ s) s₀.sys.man.actionResponsesCounter) ?_ ?_ hmid
    · intro _
      cases step_steps hstep with
      | client f sys silent step =>
          have hnext := (Sys.next_of_step step).2
          have one_more := (Sys.polling_of_call hcall hnext waits).2.2
          refine ⟨?_, fun sync found => ?_⟩
          · show s₀.sys.nextCall < sys.nextCall
            omega
          · cases waits.symm.trans found
            exact Sys.tells_of_call hcall hnext waits
    · intro mid s e t hmid ih hstep few
      have made_eq : requestsMade W setup (pre ++ .client f :: (mid ++ [e])) =
          requestsMade W setup (pre ++ .client f :: mid) ++ s.requests W e := by
        rw [← List.cons_append, ← List.append_assoc]
        exact Machine.outputs_snoc (whole hmid) e
      rw [made_eq, List.length_append] at few
      have fewer : (requestsMade W setup (pre ++ .client f :: mid)).length ≤ 256 := by omega
      obtain ⟨old, tells⟩ := ih fewer
      exact (run_sound (whole hmid)).tells fewer old tells hstep
  exact (both few).2

/-- What a call that waits returned was handled for the packet it sent. -/
theorem run_callHandled (hpre : (machine W).run (Exchange.start setup) pre = some s₀)
    (hcall : f.isSyncCall = true) (hstep : s₀.step W (.client f) = some s₁)
    (waits : s₁.sys.calls.lookup s₀.sys.nextCall = some (.polling call))
    (hmid : (machine W).run s₁ mid = some s)
    (few : (requestsMade W setup (pre ++ .client f :: mid)).length ≤ 256) {v : Returned}
    (returned : s.sys.calls.lookup s₀.sys.nextCall = some (.returned v)) {packet : SentPacket}
    (sent : requestPackets s₁.sys.trace = requestPackets s₀.sys.trace ++ [packet]) :
    v.Tells (HandledFor W (pre ++ .client f :: mid) packet) := by
  have hrun : (machine W).run (Exchange.start setup) (pre ++ .client f :: mid) = some s :=
    Machine.run_through hpre hstep hmid
  have id : packet.body.requestId = some s₀.sys.man.actionResponsesCounter := by
    cases step_steps hstep with
    | client f sys silent step =>
        obtain ⟨packet', sent', id⟩ := Sys.sends_of_call hcall (Sys.next_of_step step).2 waits
        cases List.append_cancel_left (sent.symm.trans sent')
        exact id
  refine Returned.Tells.imp (run_call hpre hcall hstep waits hmid few _ returned) ?_
  rintro r ⟨⟨answer, hmem, explains⟩, own⟩
  obtain ⟨asked, handled⟩ := run_handledFor hrun explains hmem
  have sent' : packet ∈ requestPackets s.sys.trace := by
    refine run_requestPackets hmid ?_
    rw [sent]
    exact List.mem_append_right _ (List.mem_singleton_self packet)
  have same : answer.request = packet := by
    refine (run_sound hrun).numbered.same_packet few asked sent' ?_
    have fits := ((run_sound hrun).asked answer hmem).1
    rw [fits.requestId, id, ← UInt8.toUInt32_inj.mp (explains.reqId.symm.trans own)]
  exact same ▸ handled

/-- In every run of up to 256 requests: what a call that waits returns in the end is a timeout,
or what the handler of the action asked for returned for the very packet the call sent. -/
theorem run_returned (hpre : (machine W).run (Exchange.start setup) pre = some s₀)
    (hcall : f.isSyncCall = true) (hstep : s₀.step W (.client f) = some s₁)
    (waits : s₁.sys.calls.lookup s₀.sys.nextCall = some (.polling call))
    (hmid : (machine W).run s₁ mid = some s)
    (few : (requestsMade W setup (pre ++ .client f :: mid)).length ≤ 256) {v : Returned}
    (returned : s.sys.calls.lookup s₀.sys.nextCall = some (.returned v)) :
    ∃ packet, requestPackets s₁.sys.trace = requestPackets s₀.sys.trace ++ [packet] ∧
      v.Tells (HandledFor W (pre ++ .client f :: mid) packet) := by
  obtain ⟨packet, sent⟩ : ∃ packet,
      requestPackets s₁.sys.trace = requestPackets s₀.sys.trace ++ [packet] := by
    cases step_steps hstep with
    | client f sys silent step =>
        obtain ⟨packet, sent, -⟩ := Sys.sends_of_call hcall (Sys.next_of_step step).2 waits
        exact ⟨packet, sent⟩
  exact ⟨packet, sent, run_callHandled hpre hcall hstep waits hmid few returned sent⟩

/-! ## Nothing arrives twice -/

/-- An answer to the request of the record has arrived. -/
def Arrived (s : Exchange) (r : ActionResponse) : Prop :=
  ∃ i ∈ s.delivered, ∃ answer, s.answers[i]? = some answer ∧
    r.reqId = answer.requestId.toUInt32

theorem step_arrived (kept : s.sys.man.RecordsKept) (h : s.sys.Backed s.Arrived)
    (hstep : s.step W e = some t) : t.sys.Backed t.Arrived := by
  have closed : ∀ (s : Exchange) r received, s.Arrived r →
      s.Arrived { r with timeReceived := received } := fun _ _ _ arrived => arrived
  cases step_steps hstep with
  | client e sys silent step =>
      refine h.step (closed s) ?_ step
      cases e with
      | packet srcPhy log size =>
          intro reqId reply data hr
          rw [KhawasuPc.Event.isReply, hr] at silent
          cases silent
      | _ => trivial
  | serve request slot handlers answers sent served =>
      refine h.imp ?_
      rintro r ⟨i, hi, answer, found, id⟩
      refine ⟨i, hi, answer, ?_, id⟩
      rw [List.getElem?_append_left (List.getElem?_eq_some_iff.mp found).1, found]
  | deliver i srcPhy mem size answer sys found packet step =>
      have later : ∀ r, s.Arrived r →
          Arrived { s with sys := sys, delivered := s.delivered ++ [i] } r :=
        fun r ⟨j, hj, other, found, id⟩ => ⟨j, List.mem_append_left _ hj, other, found, id⟩
      refine (h.imp later).step (closed _) ?_ step
      intro reqId reply data hr hold waiting
      obtain ⟨reply', hr', -⟩ := packet.reply
      cases hr.symm.trans hr'
      exact ⟨i, List.mem_append_right _ (List.mem_singleton_self i), answer, found,
        (kept _ data hold).1⟩

theorem run_arrived (h : (machine W).run (Exchange.start setup) es = some s) :
    s.sys.Backed s.Arrived := by
  have both : s.sys.man.RecordsKept ∧ s.sys.Backed s.Arrived := by
    refine Machine.run_history (M := machine W)
      (P := fun _ s => s.sys.man.RecordsKept ∧ s.sys.Backed s.Arrived)
      ⟨Sys.start_recordsKept, .start _ setup⟩ (fun es s e t hes ih hstep => ?_) h
    exact ⟨((run_sound hes).step hstep).kept, step_arrived ih.1 ih.2 hstep⟩
  exact both.2

end Exchange

/-- The assertion fails where a packet replies to a record that was answered. -/
theorem Sys.step_assert {E : Enumeration Nat DeviceApiAction} {s s' : Sys} {e : Event}
    (h : s.step L E e = some s') (fails : s'.fault = some .assertIsWaiting) :
    ∃ srcPhy log size reqId reply data, e = .packet srcPhy log size ∧
      log.reply L size = some (reqId, reply) ∧ s.man.actionResponses.lookup reqId = some data ∧
      data.isWaiting = false := by
  obtain ⟨o, acts, leads⟩ := step_acts h
  rw [leads.fault_eq] at fails
  cases acts with
  | packet srcPhy log size event =>
      cases hr : log.reply L size with
      | none => exact absurd fails (PhyDeviceManager.handlePacket_no_reply hr).2
      | some p =>
          obtain ⟨reqId, reply⟩ := p
          have handles : PhyDeviceManager.HandlesReply s.man reqId reply
              (s.man.handlePacket L srcPhy log size) := PhyDeviceManager.handlePacket_reply hr
          obtain ⟨r, answered⟩ := (handlesReply_assert_iff handles).mp fails
          obtain ⟨data, found, waiting, -⟩ :=
            PhyDeviceManager.table_eq_answered_iff.mp answered
          exact ⟨srcPhy, log, size, reqId, reply, data, event, hr, found, waiting⟩
  | subscribes args action actionId dev event =>
      exact absurd fails (PhyDeviceManager.subscribeAction_subscribes _ _).actionResponses.2
  | readyMade data event =>
      exact absurd fails (PhyDeviceManager.subscribeAction_subscribes _ _).actionResponses.2
  | asks | counts | misses | nothing | collects | returns | countsSubscription => cases fails

namespace Exchange

variable {s t : Exchange} {e : Event} {es : List Event} {setup : Setup} {made : List Request}

/-- An answer that arrives finds its record waiting, if it is the first to its request. -/
theorem step_keepsAssertion (sound : Sound W made s) (few : made.length ≤ 256)
    (arrived : s.sys.Backed s.Arrived) (served : (t.answers.map (·.request)).Nodup)
    (delivered : t.delivered.Nodup) (alive : s.sys.fault ≠ some .assertIsWaiting)
    (hstep : s.step W e = some t) : t.sys.fault ≠ some .assertIsWaiting := by
  intro fails
  cases step_steps hstep with
  | client e sys silent step =>
      obtain ⟨srcPhy, log, size, reqId, reply, data, rfl, hr, -⟩ := Sys.step_assert step fails
      rw [KhawasuPc.Event.isReply, hr] at silent
      cases silent
  | serve request slot handlers answers sent served => exact alive fails
  | deliver i srcPhy mem size answer sys found packet step =>
      obtain ⟨_, _, _, reqId, reply, data, event, hr, hold, answered⟩ :=
        Sys.step_assert step fails
      cases event
      obtain ⟨reply', hr', -⟩ := packet.reply
      cases hr.symm.trans hr'
      obtain ⟨j, hj, other, found', id⟩ := arrived.table _ data hold answered
      rw [(sound.kept _ data hold).1, UInt8.toUInt32_inj] at id
      obtain ⟨fits, asked⟩ := sound.asked answer (List.mem_of_getElem? found)
      obtain ⟨fits', asked'⟩ := sound.asked other (List.mem_of_getElem? found')
      have same : answer.request = other.request :=
        sound.numbered.same_packet few asked asked' (by rw [fits.requestId, fits'.requestId, id])
      have inside : i < (s.answers.map (·.request)).length := by
        rw [List.length_map]
        exact (List.getElem?_eq_some_iff.mp found).1
      have one : i = j := by
        refine (List.getElem?_inj inside served).mp ?_
        rw [List.getElem?_map, List.getElem?_map, found, found', Option.map_some, Option.map_some,
          same]
      exact (List.nodup_append.mp delivered).2.2 j hj i (List.mem_singleton_self i) one.symm

/-- In every run of up to 256 requests in which no request reaches its device twice and no answer
the manager, the assertion of `handle_packet` holds. -/
theorem run_keepsAssertion (h : (machine W).run (Exchange.start setup) es = some s)
    (few : (requestsMade W setup es).length ≤ 256)
    (served : (s.answers.map (·.request)).Nodup) (delivered : s.delivered.Nodup) :
    s.sys.fault ≠ some .assertIsWaiting := by
  refine Machine.run_history (M := machine W)
    (P := fun es s => (requestsMade W setup es).length ≤ 256 →
      (s.answers.map (·.request)).Nodup → s.delivered.Nodup →
        s.sys.fault ≠ some .assertIsWaiting) ?_ ?_ h few served delivered
  · intro _ _ _
    exact nofun
  · intro es s e t hes ih hstep few served delivered
    rw [requestsMade, Machine.outputs_snoc hes, List.length_append] at few
    have fewer : (requestsMade W setup es).length ≤ 256 := by
      rw [requestsMade]
      omega
    obtain ⟨served', delivered'⟩ : (s.answers.map (·.request)).Nodup ∧ s.delivered.Nodup := by
      cases step_steps hstep with
      | client e sys silent step => exact ⟨served, delivered⟩
      | serve request slot handlers answers sent _ =>
          rw [List.map_append] at served
          exact ⟨(List.nodup_append.mp served).1, delivered⟩
      | deliver i srcPhy mem size answer sys found packet step =>
          exact ⟨served, (List.nodup_append.mp delivered).1⟩
    exact step_keepsAssertion (run_sound hes) fewer (run_arrived hes) served delivered
      (ih fewer served' delivered') hstep

/-! ## A run

One fetch of a value, which its device answers. -/

/-- A site whose devices have one action each. -/
def lampSite (E : Enumeration Nat DeviceApiAction)
    (F : Enumeration CString DeviceCallbackApiAction) : Site where
  L := .packed
  E := E
  F := F
  lengthOf := LogicalCallbackDevice.nameLength
  deviceManager := .plain
  self := 1
  registrations _ := [⟨⟨.ofBytes [111, 110], ⟨1⟩⟩, ⟨⟨1⟩, ⟨2⟩, 0⟩⟩]

/-- The packet of the fetch. -/
def lampPacket : SentPacket := ⟨⟨2, 10⟩, 1, .unreliable, .actionFetch 0 0 []⟩

/-- Handlers that return 42. -/
def lampHandlers : Handlers := ⟨fun _ => [42], fun _ => .unknown⟩

/-- The call of the handler. -/
def lampCall : HandlerCall := ⟨⟨1⟩, .ofBytes [111, 110], ⟨1⟩, [], ⟨1, 1⟩, some 0, 0⟩

/-- The answer of the device. -/
def lampAnswer : Answer := ⟨lampPacket, some lampCall, 0, .response .unknown [42]⟩

/-- The packet of the answer. -/
def lampResponse : Memory := .ofList [1, 10, 0, 1, 0, 5, 0, 0, 42]

/-- The record of the fetch in the end.  Four bytes behind the payload are taken for its own. -/
def lampRecord : ActionResponse := ⟨false, 0, .fetch, 2, 10, .unknown, [42, 0, 0, 0, 0], 0, 1⟩

/-- The fetch. -/
def lampFetch : KhawasuPc.Event := .fetchAction Sys.anyEnv 0 2 10 (.id 0) []

/-- The fetch is answered. -/
def lampArrives : List Event :=
  [.serve lampPacket ⟨.other 0, .unknown⟩ lampHandlers, .deliver 0 2 lampResponse 9]

/-- The fetch is answered, and the answer collected. -/
def lampEvents : List Event := lampArrives ++ [.client (.poll 0 1 1), .client (.poll 0 2 2)]

/-- The system after the fetch. -/
def lampFetched : Exchange :=
  ⟨(Sys.start Sys.watched).opened
    ((Sys.start Sys.watched).man.fetchAction Sys.anyEnv 2 10 0 0 []), [], []⟩

/-- The system after the answer arrived. -/
def lampDelivered : Exchange :=
  ⟨lampFetched.sys.after (lampFetched.sys.man.handlePacket .packed 2 ⟨lampResponse, 1⟩ 9),
    [lampAnswer], [0]⟩

variable (E : Enumeration Nat DeviceApiAction) (F : Enumeration CString DeviceCallbackApiAction)

/-- The device answers the fetch. -/
theorem lampSite_serve :
    (lampSite E F).serve lampPacket ⟨.other 0, .unknown⟩ lampHandlers = some [lampAnswer] := by
  have registered := LogicalCallbackDevice.build_registered 10
    ((lampSite E F).registrations ⟨2, 10⟩)
  have first : registrationAt ((lampSite E F).registrations ⟨2, 10⟩) 0 = some _ := rfl
  obtain ⟨last, last_eq, dispatches⟩ := registered.dispatchesTo (F := F) first
  cases last_eq
  have asks : lampPacket.body = .actionFetch 0 0 [] := rfl
  exact (LogicalDeviceManager.serve_fetch asks).trans
    (congrArg (Option.map (Answer.ofGet lampPacket)) (dispatches.get _ _ _ _ _))

theorem run_lampArrives :
    (machine (lampSite E F)).run lampFetched lampArrives = some lampDelivered := by
  rw [lampArrives, Machine.run_cons, machine]
  dsimp only [step]
  rw [if_pos (by decide), lampSite_serve]
  rfl

/-- The answer arrives and is collected, and the call returns. -/
theorem run_lampEvents : ∃ s, (machine (lampSite E F)).run lampFetched lampEvents = some s ∧
    s.sys.calls.lookup 0 = some (.returned (.response (some lampRecord))) ∧
    some lampRecord ∈ reportsOf s.sys.trace ∧ (s.answers.map (·.request)).Nodup ∧
    s.delivered.Nodup := by
  refine ⟨_, Machine.run_trans (run_lampArrives E F) rfl, rfl, ?_, ?_, ?_⟩
  all_goals decide

/-- The fetch, and what happens after it. -/
theorem run_lampFetch : ∃ s, (machine (lampSite E F)).run (start Sys.watched)
      (.client lampFetch :: lampEvents) = some s ∧
    some lampRecord ∈ reportsOf s.sys.trace ∧ (s.answers.map (·.request)).Nodup ∧
    s.delivered.Nodup := by
  obtain ⟨s, hrun, -, kept⟩ := run_lampEvents E F
  have fetched : (machine (lampSite E F)).run (start Sys.watched) [.client lampFetch] =
    some lampFetched := rfl
  have both : (machine (lampSite E F)).run (start Sys.watched) ([.client lampFetch] ++ lampEvents) =
    some s := Machine.run_trans fetched hrun
  exact ⟨s, both, kept⟩

/-- The record that is told says what the handler returned. -/
theorem lampFetch_reported :
    ∃ packet, HandledFor (lampSite (.stored ..) (.stored ..)) (.client lampFetch :: lampEvents)
      packet lampRecord := by
  obtain ⟨s, hrun, told, -⟩ := run_lampFetch (.stored ..) (.stored ..)
  have few : (requestsMade (lampSite (.stored ..) (.stored ..)) Sys.watched
      (.client lampFetch :: lampEvents)).length ≤ 256 :=
    (length_requestsMade_le ..).trans (by decide)
  rcases run_reported hrun few told with ⟨_, _, _, _, _, _, made⟩ | ⟨packet, -, handled⟩
  · cases made.type
  · exact ⟨packet, handled⟩

/-- The call returns what the handler returned. -/
theorem lampFetch_returned :
    ∃ packet, requestPackets lampFetched.sys.trace = [packet] ∧
      (Returned.response (some lampRecord)).Tells
        (HandledFor (lampSite (.stored ..) (.stored ..)) (.client lampFetch :: lampEvents)
          packet) := by
  obtain ⟨s, hrun, returned, -⟩ := run_lampEvents (.stored ..) (.stored ..)
  have new : (machine (lampSite (.stored ..) (.stored ..))).run (start Sys.watched) [] =
    some (start Sys.watched) := rfl
  exact run_returned new rfl rfl rfl hrun ((length_requestsMade_le ..).trans (by decide)) returned

/-- The answer finds the record of the fetch waiting. -/
theorem lampFetch_keepsAssertion :
    ∃ s, (machine (lampSite (.stored ..) (.stored ..))).run (start Sys.watched)
        (.client lampFetch :: lampEvents) = some s ∧ s.sys.fault ≠ some .assertIsWaiting := by
  obtain ⟨s, hrun, -, served, delivered⟩ := run_lampFetch (.stored ..) (.stored ..)
  exact ⟨s, hrun, run_keepsAssertion hrun ((length_requestsMade_le ..).trans (by decide)) served
    delivered⟩

end Exchange

end KhawasuPc
